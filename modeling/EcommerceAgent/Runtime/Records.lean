/-
# What is stored about a task

The tables `agent_jobs`, `business_reports`, `strategy_reviews`, `ai_chat_conversations`,
`ai_chat_runs` and `ai_chat_messages`, and the functions of `agent_job_service.py`,
`job_result_service.py` and `ai_chat_service.py` that write them.  Every statement opens its own
connection and commits by itself, so that a function is a script whose statements fail one by one.
Time stamps are kept where a query sorts by them, in seconds.
-/
import EcommerceAgent.Lib.Script
import EcommerceAgent.Lib.Table
import EcommerceAgent.Runtime.TaskRuntime

open EcommerceAgent.Lib

namespace EcommerceAgent.Runtime

/-! ### Rows -/

/-- `agent_jobs.status`.  The page knows `cancelled` as well. -/
inductive JobStatus
  | running | completed | failed | cancelled
deriving DecidableEq, Repr

/-- `ai_chat_runs.status` and `ai_chat_messages.status`. -/
inductive ChatStatus
  | running | completed | failed | timeout | cancelled
deriving DecidableEq, Repr

/-- `business_reports.status`. -/
inductive ReportStatus
  | draft | ready
deriving DecidableEq, Repr

/-- `strategy_reviews.risk_level`. -/
inductive RiskLevel
  | low | medium | high
deriving DecidableEq, Repr

/-- `strategy_reviews.status`. -/
inductive ReviewStatus
  | pending | accepted | rejected
deriving DecidableEq, Repr

/-- `ai_chat_messages.role`. -/
inductive ChatRole
  | user | assistant
deriving DecidableEq, Repr

/-- The `source` of an answer. -/
inductive AnswerSource
  | agent | workflowFast | error
deriving DecidableEq, Repr

/-- A row of `agent_jobs`. -/
structure AgentJob where
  id : String
  tenantId : String
  shopId : String
  agentId : String
  agentName : String
  jobType : String
  title : String
  status : JobStatus
  taskId : Option String
  conversationId : Option String
  paramsJson : Option String
  resultReportId : Option String
  resultSummaryJson : Option String := none
  errorMessage : Option String := none
  createdBy : String
deriving DecidableEq, Repr

/-- A row of `business_reports`. -/
structure BusinessReport where
  id : String
  tenantId : String
  shopId : String
  type : String
  title : String
  summary : String
  contentMarkdown : String
  structuredJson : Option String
  status : ReportStatus
  sourceTaskId : Option String
  createdBy : String
deriving DecidableEq, Repr

/-- A row of `strategy_reviews`. -/
structure StrategyReview where
  id : String
  tenantId : String
  shopId : String
  title : String
  source : String
  expectedImpact : String
  riskLevel : RiskLevel
  status : ReviewStatus
  sourceTaskId : Option String
deriving DecidableEq, Repr

/-- A row of `ai_chat_conversations`. -/
structure ChatConversation where
  id : String
  identity : Identity
  title : String
  createdAt : ℕ
  updatedAt : ℕ
deriving DecidableEq, Repr

/-- A row of `ai_chat_runs`. -/
structure ChatRun where
  id : String
  identity : Identity
  conversationId : String
  messageId : String
  taskId : String
  userContent : String
  assistantContent : Option String := none
  structuredJson : Option String := none
  intent : String
  status : ChatStatus
  source : AnswerSource
  errorMessage : Option String := none
deriving DecidableEq, Repr

/-- A row of `ai_chat_messages`. -/
structure ChatMessage where
  id : String
  identity : Identity
  conversationId : String
  role : ChatRole
  content : String
  structuredJson : Option String := none
  source : Option AnswerSource := none
  status : ChatStatus
  taskId : Option String := none
  intent : Option String := none
  errorMessage : Option String := none
  createdAt : ℕ
deriving DecidableEq, Repr

/-- The final events that are pushed to the page. -/
inductive ChatEvent
  | assistantFinal (taskId conversationId messageId content : String) (source : AnswerSource)
  | agentError (taskId conversationId messageId errorMessage : String)
deriving DecidableEq, Repr

/-- The tables, and the final events in the order of their emission. -/
structure Records where
  agentJobs : List AgentJob := []
  businessReports : List BusinessReport := []
  strategyReviews : List StrategyReview := []
  conversations : List ChatConversation := []
  chatRuns : List ChatRun := []
  chatMessages : List ChatMessage := []
  events : List ChatEvent := []
deriving Repr

/-! ### The columns of the `WHERE` clauses -/

/-- `WHERE tenant_id=%s AND shop_id=%s AND task_id=%s`. -/
def AgentJob.ofTask (identity : Identity) (taskId : String) (job : AgentJob) : Bool :=
  job.tenantId == identity.tenantId && job.shopId == identity.shopId && job.taskId == some taskId

/-- `WHERE tenant_id=%s AND shop_id=%s AND id=%s`. -/
def AgentJob.ofId (identity : Identity) (id : String) (job : AgentJob) : Bool :=
  job.tenantId == identity.tenantId && job.shopId == identity.shopId && job.id == id

/-- `WHERE tenant_id=%s AND shop_id=%s AND source_task_id=%s`. -/
def BusinessReport.ofTask (identity : Identity) (taskId : String) (report : BusinessReport) :
    Bool :=
  report.tenantId == identity.tenantId && report.shopId == identity.shopId &&
    report.sourceTaskId == some taskId

/-- `WHERE tenant_id=%s AND shop_id=%s AND id=%s`. -/
def BusinessReport.ofId (identity : Identity) (id : String) (report : BusinessReport) : Bool :=
  report.tenantId == identity.tenantId && report.shopId == identity.shopId && report.id == id

/-- `WHERE tenant_id=%s AND shop_id=%s AND source_task_id=%s`. -/
def StrategyReview.ofTask (identity : Identity) (taskId : String) (review : StrategyReview) :
    Bool :=
  review.tenantId == identity.tenantId && review.shopId == identity.shopId &&
    review.sourceTaskId == some taskId

/-! In the tables of the chat the ids come from the clients, so that it matters how the server
compares them; `collate` is its collation, and `id` where ids are compared as they are. -/

/-- `tenant_id=%s AND shop_id=%s AND user_id=%s`. -/
def Identity.same (collate : String → String) (identity identity' : Identity) : Bool :=
  collate identity.tenantId == collate identity'.tenantId &&
    collate identity.shopId == collate identity'.shopId &&
    collate identity.userId == collate identity'.userId

/-- `WHERE tenant_id=%s AND shop_id=%s AND user_id=%s AND task_id=%s`. -/
def ChatRun.ofTask (collate : String → String) (identity : Identity) (taskId : String)
    (chatRun : ChatRun) : Bool :=
  chatRun.identity.same collate identity && collate chatRun.taskId == collate taskId

/-- `WHERE tenant_id=%s AND shop_id=%s AND user_id=%s AND id=%s`. -/
def ChatMessage.ofId (collate : String → String) (identity : Identity) (id : String)
    (message : ChatMessage) : Bool :=
  message.identity.same collate identity && collate message.id == collate id

namespace Records

variable (r : Records)

/-- `_find_job`. -/
def findJob (identity : Identity) (taskId : String) : Option AgentJob :=
  r.agentJobs.find? (·.ofTask identity taskId)

/-- The lookup of `sync_agent_job_from_runtime`. -/
def jobById (identity : Identity) (id : String) : Option AgentJob :=
  r.agentJobs.find? (·.ofId identity id)

/-- `_find_run`. -/
def findRun (collate : String → String) (identity : Identity) (taskId : String) :
    Option ChatRun :=
  r.chatRuns.find? (·.ofTask collate identity taskId)

/-- `UPDATE agent_jobs … WHERE … task_id=%s`. -/
def updateJob (identity : Identity) (taskId : String) (f : AgentJob → AgentJob) : Records :=
  { r with agentJobs := Table.updateWhere (·.ofTask identity taskId) f r.agentJobs }

/-- `UPDATE agent_jobs SET result_report_id=%s … WHERE … id=%s`. -/
def linkReport (identity : Identity) (jobId reportId : String) : Records :=
  { r with
    agentJobs := Table.updateWhere (·.ofId identity jobId)
      ({ · with resultReportId := some reportId }) r.agentJobs }

/-- `UPDATE business_reports … WHERE … id=%s`. -/
def updateReport (identity : Identity) (id : String) (f : BusinessReport → BusinessReport) :
    Records :=
  { r with businessReports := Table.updateWhere (·.ofId identity id) f r.businessReports }

/-- `INSERT INTO business_reports …`. -/
def insertReport (report : BusinessReport) : Records :=
  { r with businessReports := r.businessReports ++ [report] }

/-- `INSERT INTO strategy_reviews …`. -/
def insertReview (review : StrategyReview) : Records :=
  { r with strategyReviews := r.strategyReviews ++ [review] }

/-- `UPDATE ai_chat_runs … WHERE … task_id=%s`. -/
def updateRun (collate : String → String) (identity : Identity) (taskId : String)
    (f : ChatRun → ChatRun) : Records :=
  { r with chatRuns := Table.updateWhere (·.ofTask collate identity taskId) f r.chatRuns }

/-- `UPDATE ai_chat_messages … WHERE … id=%s`. -/
def updateMessage (collate : String → String) (identity : Identity) (id : String)
    (f : ChatMessage → ChatMessage) : Records :=
  { r with chatMessages := Table.updateWhere (·.ofId collate identity id) f r.chatMessages }

/-- `_send_chat_event`. -/
def emit (event : ChatEvent) : Records := { r with events := r.events ++ [event] }

end Records

/-! ### Scripts over the tables -/

/-- The statements of `complete_chat_run` and of `fail_chat_run`. -/
inductive ChatStatement
  | findRun | updateRun | updateMessage
deriving DecidableEq, Repr

/-- The statements of `finalize_agent_job_success` and of `finalize_agent_job_failure`: the lookup
of the job, the update of its status, and what is saved after it. -/
inductive JobStatement
  | findJob | updateJob | saveReport | saveStrategies
deriving DecidableEq, Repr

/-- The statements, by the function they belong to. -/
inductive Statement
  | completeChatRun (statement : ChatStatement)
  | failChatRun (statement : ChatStatement)
  | finalizeSuccess (statement : JobStatement)
  | finalizeFailure (statement : JobStatement)
  | syncJob
  | getScoped
  | getRunByTask
  | cancelTask
  | emit
deriving DecidableEq, Repr

/-- The exceptions that the handlers tell apart: `asyncio.TimeoutError`, `asyncio.CancelledError`,
which is no `Exception`, and all others. -/
inductive PyError
  | exception (message : String)
  | timeoutError (message : String)
  | cancelledError
deriving DecidableEq, Repr

/-- `str(error)`. -/
def PyError.str : PyError → String
  | exception message => message
  | timeoutError message => message
  | cancelledError => ""

/-- The task runtime of the process and the database. -/
structure World where
  runtime : TaskRuntime
  records : Records

/-- A piece of service code. -/
abbrev Service (α : Type) := Script Statement World PyError α

/-- `execute`. -/
def execute (statement : Statement) (f : Records → Records) : Service Unit :=
  .query statement (fun w => { w with records := f w.records }) (fun _ => .ret ()) .raise

/-- `fetch_one` and `fetch_all`. -/
def fetch {α : Type} (statement : Statement) (q : Records → α) : Service α :=
  .query statement id (fun w => .ret (q w.records)) .raise

/-- Python's `a or b` for texts. -/
def orText (a b : String) : String := if a = "" then b else a

/-- `text.strip()`. -/
def stripText (text : String) : String := String.ofList (Text.strip text.toList)

/-- `text[:n]`. -/
def cutText (n : ℕ) (text : String) : String := String.ofList (text.toList.take n)

/-- A text column that is neither NULL nor empty. -/
def truthy (a : Option String) : Option String := a.filter (· ≠ "")

/-! ### `ai_chat_service.py` -/

/-- `_conversation_title`. -/
def conversationTitle (content : String) : String :=
  let words := (content.toList.splitOnP Text.isSpace).filter (· ≠ [])
  orText (String.ofList ((List.intercalate [' '] words).take 60)) "AI 对话"

/-- The values of `uuid.uuid4()` in `create_chat_run`. -/
structure ChatIds where
  runId : String
  userMessageId : String
  assistantMessageId : String
deriving DecidableEq, Repr

/-- What `create_chat_run` is called with. -/
structure ChatOrder where
  identity : Identity
  conversationId : String
  userContent : String
  intent : String
  taskId : String
  ids : ChatIds
deriving DecidableEq, Repr

namespace ChatOrder

variable (order : ChatOrder) (now : ℕ)

/-- The conversation that is inserted unless its id is taken. -/
def conversation : ChatConversation where
  id := order.conversationId
  identity := order.identity
  title := conversationTitle order.userContent
  createdAt := now
  updatedAt := now

/-- The user's message. -/
def question : ChatMessage where
  id := order.ids.userMessageId
  identity := order.identity
  conversationId := order.conversationId
  role := .user
  content := order.userContent
  status := .completed
  createdAt := now

/-- The assistant's message, before there is an answer. -/
def placeholder : ChatMessage where
  id := order.ids.assistantMessageId
  identity := order.identity
  conversationId := order.conversationId
  role := .assistant
  content := "Agent 已接收任务，正在进入运行队列。"
  source := some .agent
  status := .running
  taskId := some order.taskId
  intent := some order.intent
  createdAt := now

/-- The run. -/
def chatRun : ChatRun where
  id := order.ids.runId
  identity := order.identity
  conversationId := order.conversationId
  messageId := order.ids.assistantMessageId
  taskId := order.taskId
  userContent := order.userContent
  intent := order.intent
  status := .running
  source := .agent

end ChatOrder

/-- The transaction of `create_chat_run` at the time `now`. -/
def Records.createChatRun (order : ChatOrder) (now : ℕ) (r : Records) : Records :=
  { r with
    conversations := Table.upsert ChatConversation.id
      (fun old _ => { old with updatedAt := now }) (order.conversation now) r.conversations
    chatMessages := r.chatMessages ++ [order.question now, order.placeholder now]
    chatRuns := r.chatRuns ++ [order.chatRun] }

/-- `complete_chat_run`. -/
def completeChatRun (collate : String → String) (identity : Identity)
    (taskId assistantContent : String) (source : AnswerSource)
    (structuredResultJson : Option String) : Service Unit := do
  match ← fetch (.completeChatRun .findRun) (·.findRun collate identity taskId) with
  | none => pure ()
  | some run =>
    let content := orText (stripText assistantContent) "Agent 已完成分析，但没有生成可展示内容。"
    execute (.completeChatRun .updateRun) (·.updateRun collate identity taskId fun row =>
      { row with
        assistantContent := some content
        structuredJson := structuredResultJson
        status := .completed
        source := source
        errorMessage := none })
    execute (.completeChatRun .updateMessage)
      (·.updateMessage collate identity run.messageId fun row =>
        { row with
          content := content
          structuredJson := structuredResultJson
          status := .completed
          source := some source
          errorMessage := none })

/-- The second update of `fail_chat_run`. -/
def failChatMessage (collate : String → String) (identity : Identity) (message : String)
    (status : ChatStatus) (run : ChatRun) : Service Unit :=
  execute (.failChatRun .updateMessage) (·.updateMessage collate identity run.messageId fun row =>
    { row with
      content := message
      status := status
      source := some .error
      errorMessage := some message })

/-- The two updates of `fail_chat_run`. -/
def storeChatFailure (collate : String → String) (identity : Identity) (taskId message : String)
    (status : ChatStatus) (run : ChatRun) : Service Unit := do
  execute (.failChatRun .updateRun) (·.updateRun collate identity taskId fun row =>
    { row with
      status := status
      source := .error
      errorMessage := some message })
  failChatMessage collate identity message status run

/-- The `message` of `fail_chat_run`. -/
def chatFailureMessage (errorMessage : String) : String :=
  cutText 1000 (orText errorMessage "后端 Agent 暂不可用，无法完成智能分析。")

/-- `fail_chat_run`. -/
def failChatRun (collate : String → String) (identity : Identity) (taskId errorMessage : String)
    (status : ChatStatus) : Service Unit := do
  match ← fetch (.failChatRun .findRun) (·.findRun collate identity taskId) with
  | none => pure ()
  | some run =>
    storeChatFailure collate identity taskId (chatFailureMessage errorMessage) status run

/-! ### `job_result_service.py` -/

/-- What an agent returns: its text, and its structured part as JSON or the message with which
`json.dumps` refuses it. -/
structure FinalResult where
  markdown : String
  structuredResult : Except String (Option String)

/-- `structured_json`. -/
def structuredJson (result : FinalResult) : Service (Option String) :=
  .ofExcept (result.structuredResult.mapError .exception)

/-- A candidate of `build_strategy_candidates_from_agent_result`. -/
structure StrategyCandidate where
  title : Option String
  source : Option String
  expectedImpact : Option String
  riskLevel : Option String
deriving DecidableEq, Repr

/-- The functions of `business_text.py` that extract texts from a result, and the values of
`uuid.uuid4()`. -/
structure ResultTools where
  markdownSummary : String → String
  strategyCandidates : String → AgentJob → List StrategyCandidate
  uuid : ℕ → String

/-- `REPORT_JOB_TYPES`. -/
def reportJobTypes : List (String × String) :=
  [("daily_report", "daily"), ("inventory_risk_scan", "inventory"),
    ("replenishment_plan", "inventory"), ("campaign_review", "campaign"),
    ("product_optimization", "product"), ("hot_product_analysis", "product"),
    ("weekly_report", "weekly"), ("monthly_report", "monthly")]

/-- The risk level of a candidate, medium if it is none of the three. -/
def RiskLevel.ofText : Option String → RiskLevel
  | some "low" => .low
  | some "high" => .high
  | _ => .medium

section

variable (tools : ResultTools)

/-- `_upsert_report_for_job`. -/
def upsertReportForJob (identity : Identity) (job : AgentJob) (taskId finalResult summary : String)
    (structuredResultJson : Option String) : Service (Option String) := do
  match truthy job.resultReportId with
  | some reportId =>
    execute (.finalizeSuccess .saveReport) (·.updateReport identity reportId fun row =>
      { row with
        contentMarkdown := finalResult
        structuredJson := structuredResultJson
        summary := summary
        status := .ready
        sourceTaskId := some taskId })
    return some reportId
  | none =>
    match reportJobTypes.lookup job.jobType with
    | none => return none
    | some reportType =>
      let existing ← fetch (.finalizeSuccess .saveReport)
        (·.businessReports.find? (·.ofTask identity taskId))
      match existing with
      | some report =>
        execute (.finalizeSuccess .saveReport) (·.updateReport identity report.id fun row =>
          { row with
            contentMarkdown := finalResult
            structuredJson := structuredResultJson
            summary := summary
            status := .ready })
        return some report.id
      | none =>
        let reportId := tools.uuid 0
        execute (.finalizeSuccess .saveReport) (·.insertReport
          { id := reportId
            tenantId := identity.tenantId
            shopId := identity.shopId
            type := reportType
            title := orText job.title "数字员工报告"
            summary := summary
            contentMarkdown := finalResult
            structuredJson := structuredResultJson
            status := .ready
            sourceTaskId := some taskId
            createdBy := identity.userId })
        execute (.finalizeSuccess .saveReport) (·.linkReport identity job.id reportId)
        return some reportId

/-- The loop of `_insert_strategy_candidates`, after `inserted` insertions. -/
def insertCandidates (identity : Identity) (taskId : String) :
    ℕ → List StrategyCandidate → Service ℕ
  | inserted, [] => pure inserted
  | inserted, candidate :: rest => do
    let title := stripText (candidate.title.getD "")
    if title = "" then insertCandidates identity taskId inserted rest
    else
      execute (.finalizeSuccess .saveStrategies) (·.insertReview
        { id := tools.uuid (inserted + 1)
          tenantId := identity.tenantId
          shopId := identity.shopId
          title := cutText 255 title
          source := cutText 128 (orText (candidate.source.getD "") "数字员工")
          expectedImpact := orText (candidate.expectedImpact.getD "") "预计提升经营执行效率"
          riskLevel := .ofText candidate.riskLevel
          status := .pending
          sourceTaskId := some taskId })
      insertCandidates identity taskId (inserted + 1) rest

/-- `_insert_strategy_candidates`. -/
def insertStrategyCandidates (identity : Identity) (taskId : String)
    (candidates : List StrategyCandidate) : Service ℕ := do
  let existing ← fetch (.finalizeSuccess .saveStrategies)
    (·.strategyReviews.find? (·.ofTask identity taskId))
  match existing with
  | some _ => return 0
  | none => insertCandidates tools identity taskId 0 (candidates.take 3)

/-- What `finalize_agent_job_success` saves after the status of the job. -/
def saveResult (identity : Identity) (taskId reportContent : String) (resultJson : Option String)
    (job : AgentJob) : Service Unit := do
  let _ ← upsertReportForJob tools identity job taskId reportContent
    (tools.markdownSummary reportContent) resultJson
  let _ ← insertStrategyCandidates tools identity taskId
    (tools.strategyCandidates reportContent job)
  return ()

/-- `finalize_agent_job_success`. -/
def finalizeAgentJobSuccess (identity : Identity) (taskId : String) (finalResult : FinalResult) :
    Service Unit := do
  match ← fetch (.finalizeSuccess .findJob) (·.findJob identity taskId) with
  | none => pure ()
  | some job =>
    let reportContent := orText (stripText finalResult.markdown) "报告已生成，但内容为空，请重新运行。"
    let resultJson ← structuredJson finalResult
    execute (.finalizeSuccess .updateJob) (·.updateJob identity taskId fun row =>
      { row with
        status := .completed
        resultSummaryJson := resultJson
        errorMessage := none })
    saveResult tools identity taskId reportContent resultJson job

end

/-- What `finalize_agent_job_failure` saves after the status of the job. -/
def saveFailure (identity : Identity) (taskId message : String) (job : AgentJob) :
    Service Unit := do
  match truthy job.resultReportId with
  | none => pure ()
  | some reportId =>
    execute (.finalizeFailure .saveReport) (·.linkReport identity job.id reportId)
    execute (.finalizeFailure .saveReport) (·.updateReport identity reportId fun row =>
      { row with
        status := .draft
        summary := "报告生成失败：" ++ cutText 180 message
        contentMarkdown := "报告生成失败：" ++ message
        sourceTaskId := some taskId })

/-- `finalize_agent_job_failure`. -/
def finalizeAgentJobFailure (identity : Identity) (taskId errorMessage : String) :
    Service Unit := do
  match ← fetch (.finalizeFailure .findJob) (·.findJob identity taskId) with
  | none => pure ()
  | some job =>
    let message := cutText 1000 (orText errorMessage "数字员工执行失败")
    execute (.finalizeFailure .updateJob) (·.updateJob identity taskId fun row =>
      { row with
        status := .failed
        errorMessage := some message })
    saveFailure identity taskId message job

/-! ### `agent_job_service.py` -/

/-- `_runtime_result_from_state`: the runtime keeps the text only, and there is no structured
result, since the coroutine returns a text. -/
def runtimeResultFromState (state : TaskState) : FinalResult where
  markdown := state.result.getD ""
  structuredResult := .ok none

/-- `sync_agent_job_from_runtime`. -/
def syncAgentJobFromRuntime (tools : ResultTools) (identity : Identity) (jobId : String) :
    Service Unit := do
  match ← fetch .syncJob (·.jobById identity jobId) with
  | none => pure ()
  | some row =>
    match truthy row.taskId with
    | none => pure ()
    | some taskId =>
      if row.status ≠ .running then pure ()
      else
        let state ← (.act .getScoped id fun w => .ret (w.runtime.getScoped taskId identity) :
          Service (Option TaskState))
        match state with
        | none => pure ()
        | some state =>
          if state.status = .failed then
            finalizeAgentJobFailure identity taskId (orText (state.error.getD "") "任务执行失败")
          else if state.status = .succeeded ∧ state.result.isSome then
            finalizeAgentJobSuccess tools identity taskId (runtimeResultFromState state)
          else pure ()

end EcommerceAgent.Runtime
