/-
# Storing a result more than once

`finalize_agent_job_success` commits five to eight statements one by one, each of which may fail,
and it is called again until it gets through.  What it should write is decided by what it finds: a
report of the task, a review of the task.  Two of the states in which a call can be cut off look
finished to the next call: the report is there but the job does not point to it, and some of the
reviews are there.  From all other states a call that gets through leaves what one call would have
left (`finalizationRetrySafe_iff`).
-/
import EcommerceAgent.Lib.Lines
import EcommerceAgent.Lib.Runs
import EcommerceAgent.Runtime.Records

open EcommerceAgent.Lib

namespace EcommerceAgent.Runtime

/-! ### `build_strategy_candidates_from_agent_result` -/

/-- A character that `^[#>\-\*\d\.、\s]+` takes away. -/
def isListMark (isDecimal : Char → Bool) (c : Char) : Bool :=
  c ∈ ['#', '>', '-', '*', '.', '、'] || isDecimal c || Text.isSpace c

/-- Whether one of the words occurs. -/
def containsAny (words : List String) (line : List Char) : Bool :=
  words.any fun word => Text.contains line word.toList

/-- `_impact_from_text`. -/
def impactFromText (text : List Char) : String :=
  if containsAny ["库存", "补货", "缺货"] text then "预计降低缺货风险并提升库存周转效率"
  else if containsAny ["活动", "投放", "ROI"] text then "预计提升活动承接效率和投放 ROI"
  else if containsAny ["商品", "转化", "价格"] text then "预计提升商品转化率和成交效率"
  else if containsAny ["退款", "售后"] text then "预计降低退款与售后风险"
  else "预计提升经营巡检效率和策略执行一致性"

/-- The title of the only strategy when no line of the result is one. -/
def fallbackTitle (jobType : String) : String :=
  (List.lookup (orText jobType "daily_report")
    [("inventory_risk_scan", "根据库存巡检结果调整风险 SKU 备货"),
      ("replenishment_plan", "按补货计划更新安全库存和采购节奏"),
      ("campaign_review", "根据活动复盘优化下一轮投放结构"),
      ("product_optimization", "根据商品分析优化潜力品承接链路"),
      ("hot_product_analysis", "围绕爆品候选建立放量观察清单"),
      ("daily_report", "根据经营日报执行次日重点巡检动作")]).getD "根据数字员工结论沉淀运营动作"

/-- The lines of a result that propose something. -/
def strategyLines (isDecimal : Char → Bool) (finalResult : String) : List (List Char) :=
  ((Lines.splitlines finalResult.toList).map fun rawLine =>
    Text.strip (rawLine.dropWhile (isListMark isDecimal))).filter fun line =>
      line ≠ [] && containsAny ["建议", "策略", "动作", "优化", "补货", "复盘", "提升", "降低"] line

/-- `build_strategy_candidates_from_agent_result`; `isDecimal` is `\d`. -/
def buildStrategyCandidates (isDecimal : Char → Bool) (finalResult : String) (job : AgentJob) :
    List StrategyCandidate :=
  let lines := match strategyLines isDecimal finalResult with
    | [] => [(fallbackTitle job.jobType).toList]
    | lines => lines
  (lines.take 3).map fun line =>
    { title := some (String.ofList (line.take 80))
      source := some (orText job.agentName "数字员工")
      expectedImpact := some (impactFromText line)
      riskLevel :=
        some (if containsAny ["缺货", "失败", "异常", "高风险"] line then "high" else "medium") }

/-! ### Calls -/

/-- A call of `finalize_agent_job_success`: the values of `uuid.uuid4()`, and the number of the
statement at which the database fails, with its error. -/
structure FinalizeCall where
  uuid : ℕ → String
  cut : Option (ℕ × PyError)

/-- What happens to the statements of the call. -/
def FinalizeCall.failures (call : FinalizeCall) : List (Option PyError) :=
  match call.cut with
  | none => []
  | some (k, e) => List.replicate k none ++ [some e]

/-- What all calls for a job have in common: the task, the result with its JSON, and the functions
that extract texts from it. -/
structure Finalization where
  identity : Identity
  taskId : String
  markdown : String
  json : Option String
  isDecimal : Char → Bool
  markdownSummary : String → String

namespace Finalization

variable (F : Finalization)

/-- The tools of a call. -/
def tools (uuid : ℕ → String) : ResultTools where
  markdownSummary := F.markdownSummary
  strategyCandidates := buildStrategyCandidates F.isDecimal
  uuid := uuid

/-- The world after a call. -/
def step (w : World) (call : FinalizeCall) : World :=
  ((finalizeAgentJobSuccess (F.tools call.uuid) F.identity F.taskId ⟨F.markdown, .ok F.json⟩).exec
    call.failures w).2

/-- The world after an uninterrupted call. -/
def complete (w : World) (uuid : ℕ → String) : World := F.step w ⟨uuid, none⟩

end Finalization

/-! ### What is stored for a task, up to generated ids -/

/-- The rows of the three tables that belong to a task, without the ids of reports and reviews.  In
the place of `result_report_id` a job has the reports it points to. -/
structure TaskContents where
  jobs : List (AgentJob × Option (List BusinessReport))
  reports : List BusinessReport
  reviews : List StrategyReview
deriving DecidableEq, Repr

/-- The row without its id. -/
def BusinessReport.anonymous (report : BusinessReport) : BusinessReport := { report with id := "" }

/-- The row without its id. -/
def StrategyReview.anonymous (review : StrategyReview) : StrategyReview := { review with id := "" }

/-- What is stored for a task. -/
def Records.contents (identity : Identity) (taskId : String) (r : Records) : TaskContents where
  jobs := (r.agentJobs.filter (·.ofTask identity taskId)).map fun job =>
    ({ job with resultReportId := none }, (truthy job.resultReportId).map fun id =>
      (r.businessReports.filter (·.ofId identity id)).map (·.anonymous))
  reports := (r.businessReports.filter (·.ofTask identity taskId)).map (·.anonymous)
  reviews := (r.strategyReviews.filter (·.ofTask identity taskId)).map (·.anonymous)

/-- The id is new: it is not empty, no report has it and no job points to it. -/
structure Records.FreshId (r : Records) (id : String) : Prop where
  ne : id ≠ ""
  report : ∀ report ∈ r.businessReports, report.id ≠ id
  job : ∀ job ∈ r.agentJobs, job.resultReportId ≠ some id

/-! ### What a call stores -/

/-- How a call stores its report: in the draft of the job, not at all, in the report of the task
that it finds, or in a new one. -/
inductive ReportCase
  | draft (id : String)
  | unreported
  | stored (id : String)
  | new (type : String)
deriving DecidableEq, Repr

/-- The number of statements. -/
def ReportCase.statements : ReportCase → ℕ
  | draft _ => 1
  | unreported => 0
  | stored _ => 2
  | new _ => 3

namespace Finalization

variable (F : Finalization)

/-- `report_content`. -/
def content : String := orText (stripText F.markdown) "报告已生成，但内容为空，请重新运行。"

/-- The row of the job after its update. -/
def completed (job : AgentJob) : AgentJob :=
  { job with
    status := .completed
    resultSummaryJson := F.json
    errorMessage := none }

/-- The draft with the result. -/
def filled (report : BusinessReport) : BusinessReport :=
  { report with
    contentMarkdown := F.content
    structuredJson := F.json
    summary := F.markdownSummary F.content
    status := .ready
    sourceTaskId := some F.taskId }

/-- A report of the task with the result. -/
def refilled (report : BusinessReport) : BusinessReport :=
  { report with
    contentMarkdown := F.content
    structuredJson := F.json
    summary := F.markdownSummary F.content
    status := .ready }

/-- A new report. -/
def newReport (job : AgentJob) (type id : String) : BusinessReport where
  id := id
  tenantId := F.identity.tenantId
  shopId := F.identity.shopId
  type := type
  title := orText job.title "数字员工报告"
  summary := F.markdownSummary F.content
  contentMarkdown := F.content
  structuredJson := F.json
  status := .ready
  sourceTaskId := some F.taskId
  createdBy := F.identity.userId

/-- A new review. -/
def newReview (candidate : StrategyCandidate) (id : String) : StrategyReview where
  id := id
  tenantId := F.identity.tenantId
  shopId := F.identity.shopId
  title := cutText 255 (stripText (candidate.title.getD ""))
  source := cutText 128 (orText (candidate.source.getD "") "数字员工")
  expectedImpact := orText (candidate.expectedImpact.getD "") "预计提升经营执行效率"
  riskLevel := .ofText candidate.riskLevel
  status := .pending
  sourceTaskId := some F.taskId

/-- The first three candidates, as far as they have a title. -/
def titled (job : AgentJob) : List StrategyCandidate :=
  ((buildStrategyCandidates F.isDecimal F.content job).take 3).filter fun candidate =>
    stripText (candidate.title.getD "") ≠ ""

/-- The new reviews, after `inserted` others. -/
def reviewRows (uuid : ℕ → String) (inserted : ℕ) (candidates : List StrategyCandidate) :
    List StrategyReview :=
  candidates.mapIdx fun n candidate => F.newReview candidate (uuid (inserted + n + 1))

/-- How a call for the job stores its report. -/
def reportCase (r : Records) (job : AgentJob) : ReportCase :=
  match truthy job.resultReportId with
  | some id => .draft id
  | none =>
    match reportJobTypes.lookup job.jobType with
    | none => .unreported
    | some type =>
      match r.businessReports.find? (·.ofTask F.identity F.taskId) with
      | some report => .stored report.id
      | none => .new type

/-- The report is stored; `id` is for a new one. -/
def reported (r : Records) (job : AgentJob) (id : String) : ReportCase → Records
  | .draft reportId => r.updateReport F.identity reportId F.filled
  | .unreported => r
  | .stored reportId => r.updateReport F.identity reportId F.refilled
  | .new type => (r.insertReport (F.newReport job type id)).linkReport F.identity job.id id

/-- There is a review of the task. -/
def reviewed (r : Records) : Bool := r.strategyReviews.any (·.ofTask F.identity F.taskId)

/-- The number of the statement that inserts the first review. -/
def firstReview (r : Records) (job : AgentJob) : ℕ := 3 + (F.reportCase r job).statements

/-- The tables after the first `k` statements of a call that finds the job. -/
def progress (uuid : ℕ → String) (r : Records) (job : AgentJob) (k : ℕ) : Records :=
  let completed := r.updateJob F.identity F.taskId F.completed
  let c := F.reportCase r job
  if k < 2 then r
  else if k < 2 + c.statements then
    match c with
    | .new type =>
      if k = 4 then completed.insertReport (F.newReport job type (uuid 0)) else completed
    | _ => completed
  else
    let reported := F.reported completed job (uuid 0) c
    if F.reviewed r then reported
    else { reported with
      strategyReviews := r.strategyReviews ++
        (F.reviewRows uuid 0 (F.titled job)).take (k - F.firstReview r job) }

/-- The tables after a call that is not cut off. -/
def finished (uuid : ℕ → String) (r : Records) (job : AgentJob) : Records :=
  let reported :=
    F.reported (r.updateJob F.identity F.taskId F.completed) job (uuid 0) (F.reportCase r job)
  if F.reviewed r then reported
  else { reported with
    strategyReviews := r.strategyReviews ++ F.reviewRows uuid 0 (F.titled job) }

/-- The row of the job after the first `k` statements. -/
def jobAfter (uuid : ℕ → String) (r : Records) (job : AgentJob) (k : ℕ) : AgentJob :=
  if k < 2 then job
  else
    match F.reportCase r job with
    | .new _ =>
      if 5 ≤ k then { F.completed job with resultReportId := some (uuid 0) } else F.completed job
    | _ => F.completed job

/-- The reviews that a call that is not cut off leaves for the task. -/
def expectedReviews (r : Records) (job : AgentJob) : List StrategyReview :=
  if F.reviewed r then (r.strategyReviews.filter (·.ofTask F.identity F.taskId)).map (·.anonymous)
  else (F.titled job).map (F.newReview · "")

/-- What a call that is not cut off leaves for the task. -/
def expected (r : Records) (job : AgentJob) : TaskContents :=
  let row := { F.completed job with resultReportId := none }
  let reviews := F.expectedReviews r job
  match F.reportCase r job with
  | .draft d =>
    let reports := Table.updateWhere (·.ofId F.identity d) F.filled r.businessReports
    { jobs := [(row, some ((reports.filter (·.ofId F.identity d)).map (·.anonymous)))]
      reports := (reports.filter (·.ofTask F.identity F.taskId)).map (·.anonymous)
      reviews := reviews }
  | .unreported =>
    { jobs := [(row, none)]
      reports := (r.businessReports.filter (·.ofTask F.identity F.taskId)).map (·.anonymous)
      reviews := reviews }
  | .stored d =>
    let reports := Table.updateWhere (·.ofId F.identity d) F.refilled r.businessReports
    { jobs := [(row, none)]
      reports := (reports.filter (·.ofTask F.identity F.taskId)).map (·.anonymous)
      reviews := reviews }
  | .new type =>
    { jobs := [(row, some [F.newReport job type ""])]
      reports := [F.newReport job type ""]
      reviews := reviews }

end Finalization

namespace Finalization

variable {F : Finalization} {uuid : ℕ → String} {r : Records} {job : AgentJob} {w : World}

/-! ### The statements of a call -/

lemma exec_execute {α : Type} (statement : Statement) (f : Records → Records)
    (k : Unit → Service α) (failures : List (Option PyError)) (w : World) :
    ((execute statement f).bind k).exec (none :: failures) w =
      (k ()).exec failures { w with records := f w.records } := rfl

lemma exec_fetch {α β : Type} (statement : Statement) (q : Records → β)
    (k : β → Service α) (failures : List (Option PyError)) (w : World) :
    ((fetch statement q).bind k).exec (none :: failures) w =
      (k (q w.records)).exec failures w := rfl

/-- The insertion of the reviews, cut off at a statement. -/
lemma exec_insertCandidates (candidates : List StrategyCandidate) (inserted k : ℕ) (e : PyError)
    (w : World) :
    ((insertCandidates (F.tools uuid) F.identity F.taskId inserted candidates).exec
        (List.replicate k none ++ [some e]) w).2.records =
      { w.records with
        strategyReviews := w.records.strategyReviews ++ (F.reviewRows uuid inserted
          (candidates.filter fun c => stripText (c.title.getD "") ≠ "")).take k } := by
  induction candidates generalizing inserted k w with
  | nil => simp [insertCandidates, reviewRows, Script.exec]
  | cons candidate rest ih =>
    simp only [insertCandidates]
    split
    · rename_i htitle
      rw [List.filter_cons_of_neg (by simp [htitle]), ih]
    · rename_i htitle
      have hrows : F.reviewRows uuid inserted (candidate :: rest.filter fun c =>
            stripText (c.title.getD "") ≠ "") =
          F.newReview candidate (uuid (inserted + 1)) :: F.reviewRows uuid (inserted + 1)
            (rest.filter fun c => stripText (c.title.getD "") ≠ "") := by
        simp only [reviewRows, List.mapIdx_cons, Nat.add_zero]
        congr 2
        funext n c
        rw [Nat.add_right_comm inserted 1 n]
        rfl
      rw [List.filter_cons_of_pos (by simp [htitle]), hrows]
      cases k with
      | zero => simp [execute, Script.exec, Script.bind]
      | succ k =>
        refine (ih (inserted + 1) k _).trans ?_
        simp [newReview, Records.insertReview, tools]

/-- The lookup of a review and the insertion of the reviews, cut off at a statement. -/
lemma exec_insertStrategyCandidates (k : ℕ) (e : PyError) (w : World) :
    ((insertStrategyCandidates (F.tools uuid) F.identity F.taskId
        (buildStrategyCandidates F.isDecimal F.content job)).exec
          (List.replicate k none ++ [some e]) w).2.records =
      if F.reviewed w.records then w.records
      else { w.records with
        strategyReviews := w.records.strategyReviews ++
          (F.reviewRows uuid 0 (F.titled job)).take (k - 1) } := by
  have hfind : (w.records.strategyReviews.find? (·.ofTask F.identity F.taskId)).isSome =
      F.reviewed w.records := List.isSome_find?
  cases k with
  | zero =>
    simp [insertStrategyCandidates, fetch, Script.exec, Script.bind]
  | succ k =>
    cases hreview : w.records.strategyReviews.find? (·.ofTask F.identity F.taskId) with
    | some review =>
      rw [hreview, Option.isSome_some] at hfind
      simp [insertStrategyCandidates, fetch, Script.exec, Script.bind, hreview, ← hfind,
        List.replicate_succ]
    | none =>
      rw [hreview, Option.isSome_none] at hfind
      simp only [← hfind, Bool.false_eq_true, if_false, Nat.add_sub_cancel]
      refine Eq.trans ?_ (exec_insertCandidates _ 0 k e w)
      simp [insertStrategyCandidates, fetch, Script.exec, Script.bind, hreview,
        List.replicate_succ]

/-- The lookup of a review and what comes after it, at the end of a call. -/
def reviewPart (F : Finalization) (uuid : ℕ → String) (job : AgentJob) : Service Unit :=
  (insertStrategyCandidates (F.tools uuid) F.identity F.taskId
    (buildStrategyCandidates F.isDecimal F.content job)).bind fun _ => .ret ()

lemma exec_reviewPart (k : ℕ) (e : PyError) (w : World) :
    ((F.reviewPart uuid job).exec (List.replicate k none ++ [some e]) w).2.records =
      if F.reviewed w.records then w.records
      else { w.records with
        strategyReviews := w.records.strategyReviews ++
          (F.reviewRows uuid 0 (F.titled job)).take (k - 1) } := by
  rw [reviewPart, Script.exec_bind_ret, exec_insertStrategyCandidates]

lemma saveResult_of_draft {d : String} (hdraft : truthy job.resultReportId = some d) :
    saveResult (F.tools uuid) F.identity F.taskId F.content F.json job =
      (execute (.finalizeSuccess .saveReport) (·.updateReport F.identity d F.filled)).bind
        fun _ => F.reviewPart uuid job := by
  simp only [saveResult, upsertReportForJob, hdraft, Script.bind_eq, Script.bind_bind,
    Script.pure_eq, Script.ret_bind, tools, reviewPart]
  congr 1

lemma saveResult_of_unreported (hdraft : truthy job.resultReportId = none)
    (htype : reportJobTypes.lookup job.jobType = none) :
    saveResult (F.tools uuid) F.identity F.taskId F.content F.json job =
      F.reviewPart uuid job := by
  simp only [saveResult, upsertReportForJob, hdraft, htype, Script.bind_eq,
    Script.pure_eq, Script.ret_bind, tools, reviewPart]

lemma saveResult_of_type {type : String} (hdraft : truthy job.resultReportId = none)
    (htype : reportJobTypes.lookup job.jobType = some type) :
    saveResult (F.tools uuid) F.identity F.taskId F.content F.json job =
      (fetch (.finalizeSuccess .saveReport)
        (·.businessReports.find? (·.ofTask F.identity F.taskId))).bind fun existing =>
          match existing with
          | some report =>
            (execute (.finalizeSuccess .saveReport)
              (·.updateReport F.identity report.id F.refilled)).bind fun _ => F.reviewPart uuid job
          | none =>
            (execute (.finalizeSuccess .saveReport)
              (·.insertReport (F.newReport job type (uuid 0)))).bind fun _ =>
                (execute (.finalizeSuccess .saveReport)
                  (·.linkReport F.identity job.id (uuid 0))).bind fun _ =>
                    F.reviewPart uuid job := by
  simp only [saveResult, upsertReportForJob, hdraft, htype, Script.bind_eq, Script.bind_bind,
    Script.pure_eq, tools, reviewPart]
  congr 1
  funext existing
  cases existing with
  | some report =>
    simp only [Script.bind_bind, Script.ret_bind]
    congr 1
  | none =>
    simp only [Script.bind_bind, Script.ret_bind]
    congr 1

/-- What follows the update of the job, cut off at a statement. -/
lemma exec_saveResult (k : ℕ) (e : PyError) (w : World) (job : AgentJob) :
    ((saveResult (F.tools uuid) F.identity F.taskId F.content F.json job).exec
        (List.replicate k none ++ [some e]) w).2.records =
      if k < (F.reportCase w.records job).statements then
        match F.reportCase w.records job with
        | .new type =>
          if k = 2 then w.records.insertReport (F.newReport job type (uuid 0)) else w.records
        | _ => w.records
      else
        let reported := F.reported w.records job (uuid 0) (F.reportCase w.records job)
        if F.reviewed w.records then reported
        else { reported with
          strategyReviews := w.records.strategyReviews ++
            (F.reviewRows uuid 0 (F.titled job)).take
              (k - (F.reportCase w.records job).statements - 1) } := by
  cases hdraft : truthy job.resultReportId with
  | some d =>
    have hcase : F.reportCase w.records job = .draft d := by simp only [reportCase, hdraft]
    rw [saveResult_of_draft hdraft, hcase]
    cases k with
    | zero => rfl
    | succ k =>
      rw [List.replicate_succ, List.cons_append, exec_execute, exec_reviewPart]
      simp [ReportCase.statements, reviewed, reported, Records.updateReport]
  | none =>
    cases htype : reportJobTypes.lookup job.jobType with
    | none =>
      have hcase : F.reportCase w.records job = .unreported := by
        simp only [reportCase, hdraft, htype]
      rw [saveResult_of_unreported hdraft htype, hcase, exec_reviewPart]
      simp [ReportCase.statements, reported]
    | some type =>
      rw [saveResult_of_type hdraft htype]
      cases hfind : w.records.businessReports.find? (·.ofTask F.identity F.taskId) with
      | some report =>
        have hcase : F.reportCase w.records job = .stored report.id := by
          simp only [reportCase, hdraft, htype, hfind]
        rw [hcase]
        match k with
        | 0 => rfl
        | 1 =>
          rw [List.replicate_succ, List.cons_append, exec_fetch, hfind]
          rfl
        | k + 2 =>
          rw [List.replicate_succ, List.cons_append, exec_fetch, hfind, List.replicate_succ,
            List.cons_append, exec_execute, exec_reviewPart]
          have hk : ¬ k + 2 < 2 := by omega
          simp [ReportCase.statements, reviewed, reported, Records.updateReport, hk]
      | none =>
        have hcase : F.reportCase w.records job = .new type := by
          simp only [reportCase, hdraft, htype, hfind]
        rw [hcase]
        match k with
        | 0 => rfl
        | 1 =>
          rw [List.replicate_succ, List.cons_append, exec_fetch, hfind]
          rfl
        | 2 =>
          rw [List.replicate_succ, List.cons_append, exec_fetch, hfind, List.replicate_succ,
            List.cons_append, exec_execute]
          rfl
        | k + 3 =>
          rw [List.replicate_succ, List.cons_append, exec_fetch, hfind, List.replicate_succ,
            List.cons_append, exec_execute, List.replicate_succ, List.cons_append, exec_execute,
            exec_reviewPart]
          have hk : ¬ k + 3 < 3 := by omega
          simp [ReportCase.statements, reviewed, reported, Records.insertReport,
            Records.linkReport, hk]

/-- After the last review there is nothing left to store. -/
lemma progress_of_late {k : ℕ} (hk : F.firstReview r job + (F.titled job).length ≤ k) :
    F.progress uuid r job k = F.finished uuid r job := by
  rw [firstReview] at hk
  have h2 : ¬ k < 2 := by omega
  have hreported : ¬ k < 2 + (F.reportCase r job).statements := by omega
  have hall : (F.reviewRows uuid 0 (F.titled job)).take (k - F.firstReview r job) =
      F.reviewRows uuid 0 (F.titled job) := by
    refine List.take_of_length_le ?_
    rw [reviewRows, List.length_mapIdx, firstReview]
    omega
  simp only [progress, h2, hreported, hall, if_false, finished]

/-- A call that finds the job updates it and saves the result. -/
lemma exec_finalize (hjob : w.records.findJob F.identity F.taskId = some job)
    (failures : List (Option PyError)) :
    (finalizeAgentJobSuccess (F.tools uuid) F.identity F.taskId ⟨F.markdown, .ok F.json⟩).exec
        (none :: failures) w =
      ((execute (.finalizeSuccess .updateJob) (·.updateJob F.identity F.taskId F.completed)).bind
        fun _ => saveResult (F.tools uuid) F.identity F.taskId F.content F.json job).exec
          failures w := by
  rw [finalizeAgentJobSuccess, Script.bind_eq, exec_fetch, hjob]
  rfl

/-- A call that is cut off leaves what it has stored by then. -/
lemma records_step_cut (hjob : w.records.findJob F.identity F.taskId = some job) (k : ℕ)
    (e : PyError) : (F.step w ⟨uuid, some (k, e)⟩).records = F.progress uuid w.records job k := by
  simp only [step, FinalizeCall.failures]
  rcases k with _ | _ | k
  · rfl
  · rw [List.replicate_succ, List.cons_append, exec_finalize hjob]
    rfl
  · rw [List.replicate_succ, List.cons_append, exec_finalize hjob, List.replicate_succ,
      List.cons_append, exec_execute, exec_saveResult]
    have hcase : F.reportCase (w.records.updateJob F.identity F.taskId F.completed) job =
        F.reportCase w.records job := rfl
    have hreviewed : F.reviewed (w.records.updateJob F.identity F.taskId F.completed) =
        F.reviewed w.records := rfl
    have hreviews : (w.records.updateJob F.identity F.taskId F.completed).strategyReviews =
        w.records.strategyReviews := rfl
    have h2 : ¬ k + 2 < 2 := by omega
    have hlt : k + 2 < 2 + (F.reportCase w.records job).statements ↔
        k < (F.reportCase w.records job).statements := by omega
    have hinsert : k + 2 = 4 ↔ k = 2 := by omega
    have htake : k + 2 - F.firstReview w.records job =
        k - (F.reportCase w.records job).statements - 1 := by
      rw [firstReview]
      omega
    simp only [progress, hcase, hreviewed, hreviews, h2, hlt, hinsert, htake, if_false]

/-- A call that is not cut off stores everything. -/
lemma records_complete (hjob : w.records.findJob F.identity F.taskId = some job) :
    (F.complete w uuid).records = F.finished uuid w.records job := by
  obtain ⟨n, hn⟩ := Script.exec_cut_of_late (finalizeAgentJobSuccess (F.tools uuid) F.identity
    F.taskId ⟨F.markdown, .ok F.json⟩) w (.exception "")
  -- it is cut off after its last statement
  let k := n + (F.firstReview w.records job + (F.titled job).length)
  have hlate : F.complete w uuid = F.step w ⟨uuid, some (k, .exception "")⟩ :=
    congrArg Prod.snd (hn k (Nat.le_add_right _ _)).symm
  rw [hlate, records_step_cut hjob, progress_of_late (Nat.le_add_left _ _)]

/-! ### The rows of the task -/

/-- `jobs` are the rows of `agent_jobs` that belong to the task. -/
def Jobs (F : Finalization) (r : Records) (jobs : List AgentJob) : Prop :=
  r.agentJobs.filter (·.ofTask F.identity F.taskId) = jobs

lemma Jobs.ofTask (h : F.Jobs r [job]) : job.ofTask F.identity F.taskId = true :=
  (List.mem_filter.1 (h ▸ List.mem_cons_self)).2

lemma Jobs.findJob (h : F.Jobs r [job]) : r.findJob F.identity F.taskId = some job := by
  rw [Records.findJob, ← List.head?_filter, h, List.head?_cons]

lemma Jobs.updateJob (h : F.Jobs r [job]) :
    F.Jobs (r.updateJob F.identity F.taskId F.completed) [F.completed job] := by
  refine (Table.filter_updateWhere (f := F.completed) (fun _ => rfl) r.agentJobs).trans ?_
  rw [show r.agentJobs.filter _ = _ from h, List.map_singleton, if_pos h.ofTask]

lemma Jobs.linkReport (h : F.Jobs r [job]) (id : String) :
    F.Jobs (r.linkReport F.identity job.id id) [{ job with resultReportId := some id }] := by
  have hid : job.ofId F.identity job.id = true := by
    have hjob := h.ofTask
    simp only [AgentJob.ofTask, Bool.and_eq_true, beq_iff_eq] at hjob
    simp [AgentJob.ofId, hjob]
  refine (Table.filter_updateWhere (q := (·.ofTask F.identity F.taskId))
    (f := fun row => { row with resultReportId := some id }) (fun _ => rfl) r.agentJobs).trans ?_
  rw [show r.agentJobs.filter _ = _ from h, List.map_singleton, if_pos hid]

/-- What a call has stored when it is cut off at the statement `k`, and the row of the job. -/
inductive Stage (F : Finalization) (uuid : ℕ → String) (r : Records) (job : AgentJob) (k : ℕ) :
    Records → AgentJob → Prop
  | start : k < 2 → Stage F uuid r job k r job
  | updated : 2 ≤ k → k < 2 + (F.reportCase r job).statements →
      (∀ type, F.reportCase r job = .new type → k ≠ 4) →
      Stage F uuid r job k (r.updateJob F.identity F.taskId F.completed) (F.completed job)
  | orphaned (type : String) : F.reportCase r job = .new type → k = 4 →
      Stage F uuid r job k
        ((r.updateJob F.identity F.taskId F.completed).insertReport
          (F.newReport job type (uuid 0))) (F.completed job)
  | reported (r' : Records) : 2 + (F.reportCase r job).statements ≤ k →
      r'.agentJobs = (F.reported (r.updateJob F.identity F.taskId F.completed) job (uuid 0)
        (F.reportCase r job)).agentJobs →
      r'.businessReports = (F.reported r job (uuid 0) (F.reportCase r job)).businessReports →
      r'.strategyReviews = (if F.reviewed r then r.strategyReviews
        else r.strategyReviews ++
          (F.reviewRows uuid 0 (F.titled job)).take (k - F.firstReview r job)) →
      Stage F uuid r job k r'
        (match F.reportCase r job with
          | .new _ => { F.completed job with resultReportId := some (uuid 0) }
          | _ => F.completed job)

/-- The report leaves the reviews alone. -/
lemma strategyReviews_reported (r : Records) (job : AgentJob) (id : String) (c : ReportCase) :
    (F.reported r job id c).strategyReviews = r.strategyReviews := by
  cases c <;> rfl

lemma stage_progress (uuid : ℕ → String) (r : Records) (job : AgentJob) (k : ℕ) :
    F.Stage uuid r job k (F.progress uuid r job k) (F.jobAfter uuid r job k) := by
  simp only [progress, jobAfter]
  by_cases h2 : k < 2
  · rw [if_pos h2, if_pos h2]
    exact .start h2
  · rw [if_neg h2, if_neg h2]
    by_cases hk : k < 2 + (F.reportCase r job).statements
    · rw [if_pos hk]
      cases hcase : F.reportCase r job with
      | new type =>
        rw [hcase] at hk
        simp only [ReportCase.statements] at hk
        by_cases h4 : k = 4
        · simp only [h4, if_true, Nat.reduceLeDiff, if_false]
          exact .orphaned type hcase rfl
        · have h5 : ¬ 5 ≤ k := by omega
          simp only [h4, h5, if_false]
          exact .updated (by omega) (by rw [hcase]; exact hk) fun _ _ => h4
      | draft d => exact .updated (by omega) hk fun _ h => by rw [hcase] at h; cases h
      | unreported => exact .updated (by omega) hk fun _ h => by rw [hcase] at h; cases h
      | stored d => exact .updated (by omega) hk fun _ h => by rw [hcase] at h; cases h
    · rw [if_neg hk]
      have hrow : (match F.reportCase r job with
          | .new _ => if 5 ≤ k then { F.completed job with resultReportId := some (uuid 0) }
            else F.completed job
          | _ => F.completed job) =
          match F.reportCase r job with
          | .new _ => { F.completed job with resultReportId := some (uuid 0) }
          | _ => F.completed job := by
        cases hcase : F.reportCase r job with
        | new type =>
          rw [hcase] at hk
          simp only [ReportCase.statements] at hk
          exact if_pos (by omega)
        | draft | unreported | stored => rfl
      rw [hrow]
      have hreports : (F.reported (r.updateJob F.identity F.taskId F.completed) job (uuid 0)
          (F.reportCase r job)).businessReports =
            (F.reported r job (uuid 0) (F.reportCase r job)).businessReports := by
        cases F.reportCase r job <;> rfl
      refine .reported _ (by omega) ?_ ?_ ?_
      · split <;> rfl
      · split <;> exact hreports
      · split
        · exact F.strategyReviews_reported _ job (uuid 0) (F.reportCase r job)
        · rfl

/-- The job of the task keeps its place. -/
lemma Stage.jobs {k : ℕ} {r' : Records} {job' : AgentJob} (hs : F.Stage uuid r job k r' job')
    (h : F.Jobs r [job]) : F.Jobs r' [job'] := by
  cases hs with
  | start => exact h
  | updated => exact h.updateJob
  | orphaned => exact h.updateJob
  | reported r' hk hagentJobs =>
    rw [Jobs, hagentJobs]
    cases F.reportCase r job with
    | new type =>
      exact Jobs.linkReport (r := (r.updateJob F.identity F.taskId F.completed).insertReport
        (F.newReport job type (uuid 0))) h.updateJob (uuid 0)
    | draft | unreported | stored => exact h.updateJob

/-! ### What an uninterrupted call leaves -/

lemma truthy_of_ne {id : String} (h : id ≠ "") : truthy (some id) = some id := by
  simp [truthy, h]

/-- New reviews belong to the task. -/
lemma ofTask_of_mem_reviewRows {candidates : List StrategyCandidate} {inserted : ℕ}
    {review : StrategyReview} (h : review ∈ F.reviewRows uuid inserted candidates) :
    review.ofTask F.identity F.taskId = true := by
  rw [reviewRows, List.mem_mapIdx] at h
  obtain ⟨n, hn, rfl⟩ := h
  simp [newReview, StrategyReview.ofTask]

lemma anonymous_reviewRows (candidates : List StrategyCandidate) (inserted : ℕ) :
    ((F.reviewRows uuid inserted candidates).filter (·.ofTask F.identity F.taskId)).map
      (·.anonymous) = candidates.map (F.newReview · "") := by
  rw [List.filter_eq_self.2 fun _ h => ofTask_of_mem_reviewRows h, reviewRows]
  refine List.ext_getElem (by simp) fun n h₁ h₂ => ?_
  simp [newReview, StrategyReview.anonymous]

/-- A report with a new id is alone. -/
lemma filter_ofId_append {report : BusinessReport} (hfresh : ∀ row ∈ r.businessReports,
    row.id ≠ report.id) (hid : report.ofId F.identity report.id = true) :
    (r.businessReports ++ [report]).filter (·.ofId F.identity report.id) = [report] := by
  have hnone : r.businessReports.filter (·.ofId F.identity report.id) = [] := by
    refine List.filter_eq_nil_iff.2 fun row hrow h => ?_
    simp only [BusinessReport.ofId, Bool.and_eq_true, beq_iff_eq] at h
    exact hfresh row hrow h.2
  rw [List.filter_append, hnone, List.nil_append, List.filter_cons_of_pos hid, List.filter_nil]

/-- A new report is the only one of the task. -/
lemma filter_ofTask_append {report : BusinessReport}
    (hnone : ∀ row ∈ r.businessReports, row.ofTask F.identity F.taskId = false)
    (htask : report.ofTask F.identity F.taskId = true) :
    (r.businessReports ++ [report]).filter (·.ofTask F.identity F.taskId) = [report] := by
  have hold : r.businessReports.filter (·.ofTask F.identity F.taskId) = [] :=
    List.filter_eq_nil_iff.2 fun row hrow h => by simp [hnone row hrow] at h
  rw [List.filter_append, hold, List.nil_append, List.filter_cons_of_pos htask, List.filter_nil]

/-- The reviews of the task, when there were none before. -/
lemma filter_ofTask_of_not_reviewed (h : F.reviewed r = false) :
    r.strategyReviews.filter (·.ofTask F.identity F.taskId) = [] := by
  refine List.filter_eq_nil_iff.2 fun review hreview => ?_
  simpa using List.any_eq_false.1 h review hreview

lemma newReport_ofId (job : AgentJob) (type id : String) :
    (F.newReport job type id).ofId F.identity id = true := by
  simp [newReport, BusinessReport.ofId]

lemma newReport_ofTask (job : AgentJob) (type id : String) :
    (F.newReport job type id).ofTask F.identity F.taskId = true := by
  simp [newReport, BusinessReport.ofTask]

lemma anonymous_newReport (job : AgentJob) (type id : String) :
    (F.newReport job type id).anonymous = F.newReport job type "" := by
  simp only [BusinessReport.anonymous, newReport]

lemma reportCase_eq_draft {d : String} :
    F.reportCase r job = .draft d ↔ truthy job.resultReportId = some d := by
  rw [reportCase]
  cases truthy job.resultReportId with
  | some d' => simp
  | none =>
    cases reportJobTypes.lookup job.jobType with
    | none => simp
    | some type =>
      cases r.businessReports.find? (·.ofTask F.identity F.taskId) <;> simp

lemma reportCase_eq_stored {d : String} :
    F.reportCase r job = .stored d ↔ truthy job.resultReportId = none ∧
      (reportJobTypes.lookup job.jobType).isSome ∧ ∃ report,
        r.businessReports.find? (·.ofTask F.identity F.taskId) = some report ∧ report.id = d := by
  rw [reportCase]
  cases truthy job.resultReportId with
  | some d' => simp
  | none =>
    cases reportJobTypes.lookup job.jobType with
    | none => simp
    | some type =>
      cases r.businessReports.find? (·.ofTask F.identity F.taskId) <;> simp

lemma reportCase_eq_new {type : String} :
    F.reportCase r job = .new type ↔ truthy job.resultReportId = none ∧
      reportJobTypes.lookup job.jobType = some type ∧
        ∀ report ∈ r.businessReports, report.ofTask F.identity F.taskId = false := by
  have hnone : (r.businessReports.find? (·.ofTask F.identity F.taskId)) = none ↔
      ∀ report ∈ r.businessReports, report.ofTask F.identity F.taskId = false := by
    simp [List.find?_eq_none]
  rw [reportCase, ← hnone]
  cases truthy job.resultReportId with
  | some d' => simp
  | none =>
    cases reportJobTypes.lookup job.jobType with
    | none => simp
    | some type =>
      cases r.businessReports.find? (·.ofTask F.identity F.taskId) <;> simp

lemma reportCase_eq_unreported :
    F.reportCase r job = .unreported ↔ truthy job.resultReportId = none ∧
      reportJobTypes.lookup job.jobType = none := by
  rw [reportCase]
  cases truthy job.resultReportId with
  | some d' => simp
  | none =>
    cases reportJobTypes.lookup job.jobType with
    | none => simp
    | some type =>
      cases r.businessReports.find? (·.ofTask F.identity F.taskId) <;> simp

/-- What is stored for a task with one job. -/
lemma contents_eq (h : F.Jobs r [job]) :
    r.contents F.identity F.taskId =
      { jobs := [({ job with resultReportId := none }, (truthy job.resultReportId).map fun id =>
          (r.businessReports.filter (·.ofId F.identity id)).map (·.anonymous))]
        reports := (r.businessReports.filter (·.ofTask F.identity F.taskId)).map (·.anonymous)
        reviews := (r.strategyReviews.filter (·.ofTask F.identity F.taskId)).map
          (·.anonymous) } := by
  rw [Records.contents, show r.agentJobs.filter _ = _ from h, List.map_singleton]

/-- An uninterrupted call leaves what is expected. -/
lemma contents_finished (h : F.Jobs r [job]) (hfresh : r.FreshId (uuid 0)) :
    (F.finished uuid r job).contents F.identity F.taskId = F.expected r job := by
  have hs := F.stage_progress uuid r job (F.firstReview r job + (F.titled job).length)
  rw [progress_of_late le_rfl, firstReview] at hs
  generalize F.finished uuid r job = r' at hs ⊢
  generalize F.jobAfter uuid r job _ = job' at hs
  have hjobs := hs.jobs h
  cases hs with
  | start hk => omega
  | updated _ hk => omega
  | orphaned type hcase hk =>
    rw [hcase, ReportCase.statements] at hk
    omega
  | reported r' hk _ hreports hreviews =>
    have hanonymous : (r'.strategyReviews.filter (·.ofTask F.identity F.taskId)).map
        (·.anonymous) = F.expectedReviews r job := by
      have hall : (F.reviewRows uuid 0 (F.titled job)).take
          (3 + (F.reportCase r job).statements + (F.titled job).length - F.firstReview r job) =
            F.reviewRows uuid 0 (F.titled job) := by
        refine List.take_of_length_le ?_
        rw [reviewRows, List.length_mapIdx, firstReview]
        omega
      rw [hreviews, hall, expectedReviews]
      cases hreviewed : F.reviewed r with
      | true => rfl
      | false =>
        simp only [Bool.false_eq_true, if_false]
        rw [List.filter_append, filter_ofTask_of_not_reviewed hreviewed, List.nil_append,
          anonymous_reviewRows]
    rw [contents_eq hjobs, hreports]
    simp only [expected, hanonymous]
    cases hcase : F.reportCase r job with
    | draft d =>
      rw [reportCase_eq_draft] at hcase
      simp only [completed, hcase, Option.map_some]
      rfl
    | unreported =>
      rw [reportCase_eq_unreported] at hcase
      simp only [completed, hcase, Option.map_none]
      rfl
    | stored d =>
      rw [reportCase_eq_stored] at hcase
      simp only [completed, hcase, Option.map_none]
      rfl
    | new type =>
      obtain ⟨-, -, hnone⟩ := reportCase_eq_new.1 hcase
      have hpointed : (r.businessReports ++ [F.newReport job type (uuid 0)]).filter
          (·.ofId F.identity (uuid 0)) = [F.newReport job type (uuid 0)] :=
        filter_ofId_append hfresh.report (newReport_ofId job type (uuid 0))
      have htask := filter_ofTask_append hnone (newReport_ofTask job type (uuid 0))
      simp only [reported, Records.insertReport, Records.linkReport, truthy_of_ne hfresh.ne,
        Option.map_some, htask, hpointed, List.map_singleton, anonymous_newReport]

/-! ### What a call that is cut off leaves -/

/-- The candidates depend on the name and the type of the job only. -/
lemma titled_congr {job' : AgentJob} (hname : job'.agentName = job.agentName)
    (htype : job'.jobType = job.jobType) : F.titled job' = F.titled job := by
  simp only [titled, buildStrategyCandidates, hname, htype]

lemma expectedReviews_congr {r' : Records} {job' : AgentJob}
    (hreviews : r'.strategyReviews = r.strategyReviews) (hname : job'.agentName = job.agentName)
    (htype : job'.jobType = job.jobType) : F.expectedReviews r' job' = F.expectedReviews r job := by
  unfold expectedReviews reviewed
  rw [hreviews, titled_congr hname htype]

/-- At the statement `k` a call can be cut off without harm: it is not the one that links a new
report, and either no review is stored yet or all are. -/
structure SafeAt (F : Finalization) (r : Records) (job : AgentJob) (k : ℕ) : Prop where
  link : ∀ type, F.reportCase r job = .new type → k ≠ 4
  reviews : F.reviewed r = false →
    k ≤ F.firstReview r job ∨ F.firstReview r job + (F.titled job).length ≤ k

/-- The reviews of a call that is cut off without harm: nothing is left to do, or all of it. -/
lemma expectedReviews_of_safe {k : ℕ} (hsafe : F.SafeAt r job k) {r' : Records}
    {job' : AgentJob} (hreviews : r'.strategyReviews = if F.reviewed r then r.strategyReviews
      else r.strategyReviews ++
        (F.reviewRows uuid 0 (F.titled job)).take (k - F.firstReview r job))
    (hname : job'.agentName = job.agentName) (htype : job'.jobType = job.jobType) :
    F.expectedReviews r' job' = F.expectedReviews r job := by
  cases hreviewed : F.reviewed r with
  | true =>
    rw [hreviewed, if_pos rfl] at hreviews
    exact expectedReviews_congr hreviews hname htype
  | false =>
    rw [hreviewed, if_neg Bool.false_ne_true] at hreviews
    rcases hsafe.reviews hreviewed with hk | hk
    · rw [Nat.sub_eq_zero_of_le hk, List.take_zero, List.append_nil] at hreviews
      exact expectedReviews_congr hreviews hname htype
    · have hall : (F.reviewRows uuid 0 (F.titled job)).take (k - F.firstReview r job) =
          F.reviewRows uuid 0 (F.titled job) := by
        refine List.take_of_length_le ?_
        rw [reviewRows, List.length_mapIdx]
        omega
      rw [hall] at hreviews
      have hanonymous : (r'.strategyReviews.filter (·.ofTask F.identity F.taskId)).map
          (·.anonymous) = (F.titled job).map (F.newReview · "") := by
        rw [hreviews, List.filter_append, filter_ofTask_of_not_reviewed hreviewed, List.nil_append,
          anonymous_reviewRows]
      unfold expectedReviews
      rw [hanonymous, hreviewed, titled_congr hname htype]
      split <;> rfl

/-- A call that is cut off without harm leaves the same for the next call to do. -/
lemma Stage.expected_eq {k : ℕ} {r' : Records} {job' : AgentJob}
    (hs : F.Stage uuid r job k r' job') (hfresh : r.FreshId (uuid 0))
    (hsafe : F.SafeAt r job k) : F.expected r' job' = F.expected r job := by
  cases hs with
  | start => rfl
  | updated =>
    have hreviews : F.expectedReviews (r.updateJob F.identity F.taskId F.completed)
        (F.completed job) = F.expectedReviews r job :=
      expectedReviews_congr rfl rfl rfl
    simp only [expected, hreviews]
    rfl
  | orphaned type hcase hk => exact absurd hk (hsafe.link type hcase)
  | reported r' hk _ hreports hreviews =>
    have hreviews' : ∀ job' : AgentJob, job'.agentName = job.agentName →
        job'.jobType = job.jobType → F.expectedReviews r' job' = F.expectedReviews r job :=
      fun _ => expectedReviews_of_safe hsafe hreviews
    cases hcase : F.reportCase r job with
    | draft d =>
      have hcase' : F.reportCase r' (F.completed job) = .draft d :=
        reportCase_eq_draft.2 (reportCase_eq_draft.1 hcase)
      have htwice : Table.updateWhere (·.ofId F.identity d) F.filled
          (Table.updateWhere (·.ofId F.identity d) F.filled r.businessReports) =
            Table.updateWhere (·.ofId F.identity d) F.filled r.businessReports :=
        Table.updateWhere_updateWhere (p := (·.ofId F.identity d)) (f := F.filled)
          (g := F.filled) (fun _ h => by exact h) (fun _ _ => rfl) _
      rw [hcase] at hreports
      simp only [Finalization.reported, Records.updateReport] at hreports
      simp only [expected, hcase, hcase', hreviews' (F.completed job) rfl rfl, hreports, htwice]
      rfl
    | unreported =>
      have hcase' : F.reportCase r' (F.completed job) = .unreported :=
        reportCase_eq_unreported.2 (reportCase_eq_unreported.1 hcase)
      rw [hcase] at hreports
      simp only [Finalization.reported] at hreports
      simp only [expected, hcase, hcase', hreviews' (F.completed job) rfl rfl, hreports]
      rfl
    | stored d =>
      obtain ⟨hdraft, htype, report, hfind, hid⟩ := reportCase_eq_stored.1 hcase
      have htwice : Table.updateWhere (·.ofId F.identity d) F.refilled
          (Table.updateWhere (·.ofId F.identity d) F.refilled r.businessReports) =
            Table.updateWhere (·.ofId F.identity d) F.refilled r.businessReports :=
        Table.updateWhere_updateWhere (p := (·.ofId F.identity d)) (f := F.refilled)
          (g := F.refilled) (fun _ h => by exact h) (fun _ _ => rfl) _
      rw [hcase] at hreports
      simp only [Finalization.reported, Records.updateReport] at hreports
      have hcase' : F.reportCase r' (F.completed job) = .stored d := by
        refine reportCase_eq_stored.2 ⟨hdraft, htype, ?_⟩
        rw [hreports, Table.find?_updateWhere (f := F.refilled) (fun _ => rfl), hfind,
          Option.map_some]
        refine ⟨_, rfl, ?_⟩
        split <;> exact hid
      simp only [expected, hcase, hcase', hreviews' (F.completed job) rfl rfl, hreports, htwice]
      rfl
    | new type =>
      obtain ⟨hdraft, htype, hnone⟩ := reportCase_eq_new.1 hcase
      rw [hcase] at hreports
      simp only [Finalization.reported, Records.insertReport, Records.linkReport] at hreports
      have hcase' : F.reportCase r' { F.completed job with resultReportId := some (uuid 0) } =
          .draft (uuid 0) := reportCase_eq_draft.2 (truthy_of_ne hfresh.ne)
      have hpointed : (r.businessReports ++ [F.newReport job type (uuid 0)]).filter
          (·.ofId F.identity (uuid 0)) = [F.newReport job type (uuid 0)] :=
        filter_ofId_append hfresh.report (newReport_ofId job type (uuid 0))
      have htask := filter_ofTask_append hnone (newReport_ofTask job type (uuid 0))
      have hsame : Table.updateWhere (·.ofId F.identity (uuid 0)) F.filled
          (r.businessReports ++ [F.newReport job type (uuid 0)]) =
            r.businessReports ++ [F.newReport job type (uuid 0)] := by
        refine Table.updateWhere_of_forall fun row hrow hid => ?_
        rcases List.mem_append.1 hrow with hold | hnew
        · simp only [BusinessReport.ofId, Bool.and_eq_true, beq_iff_eq] at hid
          exact absurd hid.2 (hfresh.report row hold)
        · rw [List.mem_singleton.1 hnew]
          rfl
      simp only [expected, hcase, hcase', hreviews' { F.completed job with
        resultReportId := some (uuid 0) } rfl rfl, hreports, hsame, hpointed, htask,
        List.map_singleton, anonymous_newReport]
      rfl

/-! ### What no later call repairs -/

/-- A report that the job does not point to stays without a link. -/
lemma Stage.stored {k : ℕ} {r' : Records} {job' : AgentJob} (hs : F.Stage uuid r job k r' job')
    (h : ∃ d, F.reportCase r job = .stored d) : ∃ d, F.reportCase r' job' = .stored d := by
  obtain ⟨d, hcase⟩ := h
  obtain ⟨hdraft, htype, report, hfind, hid⟩ := reportCase_eq_stored.1 hcase
  cases hs with
  | start => exact ⟨d, hcase⟩
  | updated => exact ⟨d, reportCase_eq_stored.2 ⟨hdraft, htype, report, hfind, hid⟩⟩
  | orphaned type hnew => cases hcase.symm.trans hnew
  | reported r' hk _ hreports _ =>
    rw [hcase] at hreports ⊢
    simp only [Finalization.reported, Records.updateReport] at hreports
    refine ⟨d, reportCase_eq_stored.2 ⟨hdraft, htype, ?_⟩⟩
    rw [hreports, Table.find?_updateWhere (f := F.refilled) (fun _ => rfl), hfind, Option.map_some]
    refine ⟨_, rfl, ?_⟩
    split <;> exact hid

/-- Once there is a review, no call adds one. -/
lemma Stage.strategyReviews_eq {k : ℕ} {r' : Records} {job' : AgentJob}
    (hs : F.Stage uuid r job k r' job') (h : F.reviewed r = true) :
    r'.strategyReviews = r.strategyReviews := by
  cases hs with
  | start | updated | orphaned => rfl
  | reported r' hk _ _ hreviews => rw [hreviews, if_pos h]

/-- A call that is cut off with harm leaves a report without a link, or some of the reviews. -/
lemma Stage.harmed {k : ℕ} {r' : Records} {job' : AgentJob} (hs : F.Stage uuid r job k r' job')
    (hharm : ¬ F.SafeAt r job k) :
    ((∃ type, F.reportCase r job = .new type) ∧ ∃ d, F.reportCase r' job' = .stored d) ∨
      F.reviewed r = false ∧ F.reviewed r' = true ∧
        (r'.strategyReviews.filter (·.ofTask F.identity F.taskId)).length <
          (F.titled job).length := by
  by_cases hlink : ∀ type, F.reportCase r job = .new type → k ≠ 4
  · right
    have hreviews : ¬ (F.reviewed r = false →
        k ≤ F.firstReview r job ∨ F.firstReview r job + (F.titled job).length ≤ k) :=
      fun h => hharm ⟨hlink, h⟩
    push Not at hreviews
    obtain ⟨hreviewed, hfirst, hlast⟩ := hreviews
    refine ⟨hreviewed, ?_⟩
    have hbound := hfirst
    rw [firstReview] at hbound
    cases hs with
    | start hk => omega
    | updated _ hk => omega
    | orphaned type hcase hk => exact absurd hk (hlink type hcase)
    | reported r' hk _ _ hrows =>
      have htask : ∀ review ∈ (F.reviewRows uuid 0 (F.titled job)).take
          (k - F.firstReview r job), review.ofTask F.identity F.taskId = true :=
        fun review h => ofTask_of_mem_reviewRows (List.mem_of_mem_take h)
      have hlength : ((F.reviewRows uuid 0 (F.titled job)).take
          (k - F.firstReview r job)).length = k - F.firstReview r job := by
        rw [List.length_take, reviewRows, List.length_mapIdx]
        omega
      rw [hreviewed, if_neg Bool.false_ne_true] at hrows
      constructor
      · rw [reviewed, hrows, List.any_append, Bool.or_eq_true]
        obtain ⟨review, hreview⟩ := List.exists_mem_of_length_pos
          (show 0 < ((F.reviewRows uuid 0 (F.titled job)).take
            (k - F.firstReview r job)).length by omega)
        exact .inr (List.any_eq_true.2 ⟨review, hreview, htask review hreview⟩)
      · rw [hrows, List.filter_append, filter_ofTask_of_not_reviewed hreviewed, List.nil_append,
          List.filter_eq_self.2 htask]
        omega
  · left
    push Not at hlink
    obtain ⟨type, hcase, hk⟩ := hlink
    refine ⟨⟨type, hcase⟩, ?_⟩
    obtain ⟨hdraft, htype, hnone⟩ := reportCase_eq_new.1 hcase
    cases hs with
    | start hk' => omega
    | updated _ _ hnot => exact absurd hk (hnot type hcase)
    | reported r' hk' =>
      rw [hcase, ReportCase.statements] at hk'
      omega
    | orphaned type' hcase' =>
      refine ⟨uuid 0, reportCase_eq_stored.2 ⟨hdraft, by simp [completed, htype], ?_⟩⟩
      refine ⟨F.newReport job type' (uuid 0), ?_, rfl⟩
      have hold : r.businessReports.find? (·.ofTask F.identity F.taskId) = none :=
        List.find?_eq_none.2 fun report hreport => by simp [hnone report hreport]
      refine (List.find?_append ..).trans ?_
      rw [show (r.updateJob F.identity F.taskId F.completed).businessReports.find? _ = _ from hold,
        Option.none_or, List.find?_cons_of_pos (newReport_ofTask job type' (uuid 0))]

/-! ### Runs of calls -/

/-- If the call is cut off, it is without harm. -/
def CutSafe (F : Finalization) (w : World) (call : FinalizeCall) : Prop :=
  ∀ job, w.records.findJob F.identity F.taskId = some job →
    ∀ k e, call.cut = some (k, e) → F.SafeAt w.records job k

/-- A call is cut off at some statement, possibly after the last one. -/
lemma exists_stage (h : F.Jobs w.records [job]) (call : FinalizeCall) :
    ∃ k job', F.Stage call.uuid w.records job k (F.step w call).records job' ∧
      (F.CutSafe w call ↔ F.SafeAt w.records job k) := by
  obtain ⟨uuid, cut⟩ := call
  cases cut with
  | some cut =>
    obtain ⟨k, e⟩ := cut
    refine ⟨k, F.jobAfter uuid w.records job k, ?_, ?_⟩
    · rw [records_step_cut h.findJob]
      exact F.stage_progress uuid w.records job k
    · constructor
      · exact fun hsafe => hsafe job h.findJob k e rfl
      · intro hsafe job' hjob' k' e' hcut
        obtain rfl : job = job' := Option.some.inj (h.findJob.symm.trans hjob')
        cases hcut
        exact hsafe
  | none =>
    let k := F.firstReview w.records job + (F.titled job).length
    refine ⟨k, F.jobAfter uuid w.records job k, ?_, ?_⟩
    · have hcomplete : (F.step w ⟨uuid, none⟩).records = F.finished uuid w.records job :=
        records_complete h.findJob
      rw [hcomplete, ← progress_of_late le_rfl]
      exact F.stage_progress uuid w.records job _
    · refine ⟨fun _ => ⟨fun type hcase => ?_, fun _ => .inr le_rfl⟩, fun _ _ _ _ _ h => nomatch h⟩
      have hk : k = 3 + (F.reportCase w.records job).statements + (F.titled job).length := rfl
      rw [hcase, ReportCase.statements] at hk
      omega

lemma run_stored (h : F.Jobs w.records [job]) (hcase : ∃ d, F.reportCase w.records job = .stored d)
    (calls : List FinalizeCall) : ∃ job', F.Jobs (run F.step w calls).records [job'] ∧
      ∃ d, F.reportCase (run F.step w calls).records job' = .stored d := by
  induction calls generalizing w job with
  | nil => exact ⟨job, h, hcase⟩
  | cons call calls ih =>
    obtain ⟨k, job', hs, -⟩ := exists_stage h call
    exact ih (hs.jobs h) (hs.stored hcase)

lemma run_reviewed (h : F.Jobs w.records [job]) (hreviewed : F.reviewed w.records = true)
    (calls : List FinalizeCall) :
    (run F.step w calls).records.strategyReviews = w.records.strategyReviews := by
  induction calls generalizing w job with
  | nil => rfl
  | cons call calls ih =>
    obtain ⟨k, job', hs, -⟩ := exists_stage h call
    have hsame := hs.strategyReviews_eq hreviewed
    rw [run_cons, ih (hs.jobs h) (by rw [reviewed, hsame]; exact hreviewed), hsame]

lemma reviews_expected (r : Records) (job : AgentJob) :
    (F.expected r job).reviews = F.expectedReviews r job := by
  unfold expected
  split <;> rfl

/-- The reports without a link and the reviews that are missing show in the end. -/
lemma expected_ne_of_harm {w' : World} {job' job₁ : AgentJob} (h₁ : F.Jobs w'.records [job₁])
    (hharm : (∃ type, F.reportCase r job = .new type) ∧
        (∃ d, F.reportCase w'.records job₁ = .stored d) ∨
      F.reviewed r = false ∧ F.reviewed w'.records = true ∧
        (w'.records.strategyReviews.filter (·.ofTask F.identity F.taskId)).length <
          (F.titled job).length)
    (calls : List FinalizeCall) (hjob' : F.Jobs (run F.step w' calls).records [job']) :
    F.expected (run F.step w' calls).records job' ≠ F.expected r job := by
  intro heq
  rcases hharm with ⟨⟨type, hnew⟩, hstored⟩ | ⟨hreviewed, hreviewed', hlength⟩
  · obtain ⟨job₂, h₂, d, hcase⟩ := run_stored h₁ hstored calls
    obtain rfl : job' = job₂ := List.singleton_inj.1 (hjob'.symm.trans h₂)
    have hjobs := congrArg TaskContents.jobs heq
    simp [expected, hnew, hcase] at hjobs
  · have hreviews := run_reviewed h₁ hreviewed' calls
    have hcount := congrArg (·.reviews.length) heq
    have hreviewed'' : F.reviewed (run F.step w' calls).records = true := by
      rw [reviewed, hreviews]
      exact hreviewed'
    simp only [reviews_expected, expectedReviews, hreviewed'', hreviewed, hreviews, if_true,
      Bool.false_eq_true, if_false, List.length_map] at hcount
    omega

/-- After a run of calls the next one leaves what it would have left at the start, exactly when
every call that was cut off was cut off without harm. -/
lemma expected_run_iff (h : F.Jobs w.records [job]) (calls : List FinalizeCall)
    (hfresh : Along F.step (fun w call => w.records.FreshId (call.uuid 0)) w calls) :
    ∃ job', F.Jobs (run F.step w calls).records [job'] ∧
      (F.expected (run F.step w calls).records job' = F.expected w.records job ↔
        Along F.step F.CutSafe w calls) := by
  induction calls generalizing w job with
  | nil => exact ⟨job, h, by simp⟩
  | cons call calls ih =>
    obtain ⟨k, job₁, hs, hiff⟩ := exists_stage h call
    obtain ⟨job', hjob', hrun⟩ := ih (hs.jobs h) hfresh.2
    refine ⟨job', hjob', ?_⟩
    rw [run_cons, along_cons, hiff]
    by_cases hsafe : F.SafeAt w.records job k
    · rw [← hs.expected_eq hfresh.1 hsafe, hrun]
      exact (and_iff_right hsafe).symm
    · refine ⟨fun heq => ?_, fun h => absurd h.1 hsafe⟩
      exact absurd heq (expected_ne_of_harm (hs.jobs h) (hs.harmed hsafe) calls hjob')

/-- The job has a draft, and no other report belongs to its task, or it has no report yet and is to
get one. -/
def OneReport (F : Finalization) (r : Records) (job : AgentJob) : Prop :=
  match F.reportCase r job with
  | .draft d => (∃ report, r.businessReports.filter (·.ofId F.identity d) = [report]) ∧
      ∀ report ∈ r.businessReports, report.ofTask F.identity F.taskId = true →
        report.ofId F.identity d = true
  | .new _ => True
  | _ => False

lemma length_reports_expected (h : F.OneReport r job) : (F.expected r job).reports.length = 1 := by
  unfold OneReport at h
  unfold expected
  cases hcase : F.reportCase r job with
  | draft d =>
    rw [hcase] at h
    obtain ⟨⟨report, hreport⟩, hother⟩ := h
    have hfilter : (Table.updateWhere (·.ofId F.identity d) F.filled r.businessReports).filter
        (·.ofTask F.identity F.taskId) =
          (r.businessReports.filter (·.ofId F.identity d)).map F.filled := by
      have htask : ∀ row ∈ r.businessReports, ((·.ofTask F.identity F.taskId) ∘ fun row =>
          if row.ofId F.identity d then F.filled row else row) row = row.ofId F.identity d := by
        intro row hrow
        cases hid : row.ofId F.identity d with
        | true =>
          simp only [BusinessReport.ofId, Bool.and_eq_true, beq_iff_eq] at hid
          simp [BusinessReport.ofTask, BusinessReport.ofId, filled, hid]
        | false =>
          have hnot : row.ofTask F.identity F.taskId ≠ true := fun h => by
            rw [hother row hrow h] at hid
            cases hid
          simpa [hid] using hnot
      rw [Table.updateWhere, List.filter_map, List.filter_congr htask]
      refine List.map_congr_left fun row hrow => ?_
      rw [if_pos (List.mem_filter.1 hrow).2]
    dsimp only
    rw [hfilter, hreport]
    rfl
  | new type => rfl
  | unreported | stored => rw [hcase] at h; exact h.elim

/-- What repeated calls leave: what one call leaves, one report if the job has or gets one, and
the first three titled strategies as reviews if there were none. -/
structure RetrySafe (F : Finalization) (w : World) (job : AgentJob) (calls : List FinalizeCall)
    (uuid uuid' : ℕ → String) : Prop where
  same : (F.complete (run F.step w calls) uuid).records.contents F.identity F.taskId =
    (F.complete w uuid').records.contents F.identity F.taskId
  report : F.OneReport w.records job → ((F.complete (run F.step w calls) uuid).records.contents
    F.identity F.taskId).reports.length = 1
  reviews : F.reviewed w.records = false → ((F.complete (run F.step w calls) uuid).records.contents
    F.identity F.taskId).reviews = (F.titled job).map (F.newReview · "")

end Finalization

/-- After any calls for a job, one that is not cut off leaves what one call alone would have left,
exactly when no call was cut off between a new report and its link or between two reviews. -/
theorem finalizationRetrySafe_iff (F : Finalization) (w : World) (job : AgentJob)
    (hjob : F.Jobs w.records [job]) (calls : List FinalizeCall)
    (hfresh : Along F.step (fun w call => w.records.FreshId (call.uuid 0)) w calls)
    (uuid uuid' : ℕ → String) (hlast : (run F.step w calls).records.FreshId (uuid 0))
    (hsingle : w.records.FreshId (uuid' 0)) :
    F.RetrySafe w job calls uuid uuid' ↔ Along F.step F.CutSafe w calls := by
  obtain ⟨job', hjob', hiff⟩ := Finalization.expected_run_iff hjob calls hfresh
  have hfinal : (F.complete (run F.step w calls) uuid).records.contents F.identity F.taskId =
      F.expected (run F.step w calls).records job' := by
    rw [Finalization.records_complete hjob'.findJob, Finalization.contents_finished hjob' hlast]
  have hone : (F.complete w uuid').records.contents F.identity F.taskId =
      F.expected w.records job := by
    rw [Finalization.records_complete hjob.findJob, Finalization.contents_finished hjob hsingle]
  constructor
  · intro h
    rw [← hiff, ← hfinal, ← hone]
    exact h.same
  · intro h
    have hsame := hfinal.trans (hiff.2 h)
    refine ⟨hsame.trans hone.symm, fun hreport => ?_, fun hreviewed => ?_⟩
    · rw [hsame]
      exact Finalization.length_reports_expected hreport
    · rw [hsame, Finalization.reviews_expected, Finalization.expectedReviews, hreviewed,
        if_neg Bool.false_ne_true]

/-- A daily report with two proposals. -/
def twoProposals : Finalization where
  identity := ⟨"tenant_a", "alice", "shop_a"⟩
  taskId := "t"
  markdown := "建议补货\n优化标题"
  json := none
  isDecimal := Char.isDigit
  markdownSummary := id

/-- The job that is to get the report. -/
def runningJob : AgentJob where
  id := "j"
  tenantId := "tenant_a"
  shopId := "shop_a"
  agentId := "store-analyst"
  agentName := "店铺分析师"
  jobType := "daily_report"
  title := "经营日报"
  status := .running
  taskId := some "t"
  conversationId := some "c"
  paramsJson := none
  resultReportId := none
  createdBy := "alice"

/-- The world in which there is only this job. -/
def jobOnly : World := ⟨.empty, { agentJobs := [runningJob] }⟩

/-- A call whose connection is lost at the statement `k`. -/
def cutAt (k : ℕ) : FinalizeCall := ⟨fun _ => "a", some (k, .exception "Lost connection")⟩

/-- A call that is cut off before it inserts the report does no harm. -/
theorem retrySafe_twoProposals :
    twoProposals.RetrySafe jobOnly runningJob [cutAt 3] (fun _ => "b") (fun _ => "c") := by
  have hjob : twoProposals.Jobs jobOnly.records [runningJob] := by
    unfold Finalization.Jobs
    decide +kernel
  refine (finalizationRetrySafe_iff twoProposals jobOnly runningJob hjob [cutAt 3]
    ?_ _ _ ?_ ?_).2 ?_
  · exact ⟨⟨by decide, nofun, by decide +kernel⟩, trivial⟩
  · exact ⟨by decide, by decide +kernel, by decide +kernel⟩
  · exact ⟨by decide, by decide +kernel, by decide +kernel⟩
  · refine ⟨fun job hjob k e hcut => ?_, trivial⟩
    obtain rfl : runningJob = job := Option.some.inj ((by decide +kernel :
      some runningJob = jobOnly.records.findJob _ _).trans hjob)
    cases hcut
    exact ⟨fun _ _ => by decide, fun _ => .inl (by decide +kernel)⟩

/-- After a call that is cut off between its two reviews, the second one is never stored. -/
theorem not_retrySafe_twoProposals :
    ¬ twoProposals.RetrySafe jobOnly runningJob [cutAt 7] (fun _ => "b") (fun _ => "c") := by
  intro h
  have hsame := h.same
  revert hsame
  decide +kernel

end EcommerceAgent.Runtime
