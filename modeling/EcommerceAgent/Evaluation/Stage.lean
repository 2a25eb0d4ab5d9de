/-
# The evaluation of a result

`run_evaluation` of `agent/evaluation/evaluation_agent.py` and `_apply_evaluation_if_needed` of
`agent/runtime/result_pipeline.py`.  The model and the rerun answer whatever they like, depending on
all calls before; the log of the calls is kept beside the result.  An evaluation that fails counts
as passed, and so does every verdict that Python calls true.
-/
import EcommerceAgent.Lib.PyValue
import EcommerceAgent.Lib.Text
import EcommerceAgent.Lib.Hundredths

open EcommerceAgent.Lib

namespace EcommerceAgent.Evaluation

variable {F : Type} [PyRuntime F]

/-! ### `evaluation_agent.py` -/

/-- `EvaluationIssue`. -/
structure EvaluationIssue where
  type : String
  message : String
deriving DecidableEq

/-- `EvaluationResult`. -/
structure EvaluationResult (F : Type) where
  passed : Bool
  issues : List EvaluationIssue
  fixInstruction : String
  raw : PyValue F

/-- `data.get(name, default)`, which has no default for a null. -/
def getOr (data : List (PyKey F × PyValue F)) (name : String) (default : PyValue F) : PyValue F :=
  ((data.find? (·.1.same (.str name))).map (·.2)).getD default

/-- The text of the error of a value that is no dictionary. -/
def noGet (v : PyValue F) : String := "'" ++ v.typeName ++ "' object has no attribute 'get'"

/-- `EvaluationIssue(type=…, message=…)`. -/
def issueOf : PyValue F → Except String EvaluationIssue
  | .dict item => .ok
    { type := (getOr item "type" (.str "unknown")).text
      message := (getOr item "message" (.str "")).text }
  | v => .error (noGet v)

/-- The text of an answer without the fence of a code block. -/
def unfenced (F : Type) [PyRuntime F] (content : String) : String :=
  let content := Text.strip content.toList
  if "```".toList <+: content then
    let content := (content.dropWhile (· = '`')).rdropWhile (· = '`')
    if "json".toList <+: (PyRuntime.lower F (String.ofList content)).toList then
      String.ofList (Text.strip (content.drop 4))
    else String.ofList content
  else String.ofList content

/-- `_parse_evaluation_response`, where `loads` is `json.loads`. -/
def parseEvaluationResponse (loads : String → Except String (PyValue F)) (content : String) :
    Except String (EvaluationResult F) := do
  match ← loads (unfenced F content) with
  | .dict data =>
    let issues ← (← (getOr data "issues" (.list [])).iter).mapM issueOf
    return {
      passed := (getOr data "passed" (.bool issues.isEmpty)).truthy
      issues
      fixInstruction := (getOr data "fix_instruction" (.str "")).text
      raw := .dict data }
  | v => .error (noGet v)

/-- `_build_evaluation_prompt`. -/
def buildEvaluationPrompt (taskQuery finalResult : String) : String :=
  "\n".intercalate
    ["",
      "你是电商运营 Agent Evaluation，只负责质量校验，不要重写答案。",
      "",
      "请判断最终输出是否满足用户任务，重点检查：",
      "1. 经营日报是否包含 GMV、订单数、客单价、评分、退款、客服风险等必要指标。",
      "2. SQL/写入类任务是否说明数据来源、影响范围和审核/候选状态。",
      "3. 活动复盘是否包含曝光、点击、转化、GMV、退款或 ROI。",
      "4. 库存补货建议是否包含风险商品、库存、安全库存、建议动作。",
      "5. 退款异常分析是否包含退款率、异常原因或后续排查建议。",
      "",
      "用户任务：",
      taskQuery,
      "",
      "最终输出：",
      String.ofList (finalResult.toList.take 8000),
      "",
      "只返回 JSON，不输出 Markdown。格式：",
      "\x7b",
      "  \"passed\": true,",
      "  \"issues\": [\x7b\"type\": \"data_missing\", \"message\": \"缺少退款率数据\"\x7d],",
      "  \"fix_instruction\": \"重新查询 refunds 表并补充退款率\"",
      "\x7d",
      ""]

/-! ### `result_pipeline.py` -/

/-- `EvaluationStatus`. -/
inductive EvaluationStatus
  | skipped | passed | failed
deriving DecidableEq

/-- `EvaluationStageResult`. -/
structure EvaluationStageResult where
  content : String
  evaluationStatus : EvaluationStatus
deriving DecidableEq

/-- A call of the evaluation model for a content, with the text of the answer or the error, or a
rerun of the main agent. -/
inductive StageCall
  | evaluation (content : String) (response : Except String String)
  | rerun (fixPrompt : String) (outcome : Except String String)
deriving DecidableEq

namespace StageCall

def isEvaluation : StageCall → Bool
  | .evaluation .. => true
  | .rerun .. => false

def isRerun : StageCall → Bool
  | .evaluation .. => false
  | .rerun .. => true

end StageCall

/-- What the stage uses: the settings `EVALUATION_ENABLED` and `EVALUATION_MAX_REVISIONS`, the
policy, the model, the main agent and `json.loads`. -/
structure StageServices (F : Type) where
  enabled : Bool
  maxRevisions : Except String ℤ
  policyRequired : String → Except String Bool
  model : List StageCall → String → Except String String
  rerunWithFix : Option (List StageCall → String → Except String String)
  loads : String → Except String (PyValue F)

/-- `"\n".join(f"- {issue.type}: {issue.message}" for issue in issues)`. -/
def issueLines (issues : List EvaluationIssue) : String :=
  "\n".intercalate (issues.map fun issue => "- " ++ issue.type ++ ": " ++ issue.message)

/-- The instruction of the evaluation, or the general one. -/
def fixInstruction (result : EvaluationResult F) : String :=
  if result.fixInstruction = "" then "请补充缺失的数据来源、指标或结论依据。" else result.fixInstruction

/-- `_build_evaluation_fix_prompt`. -/
def buildEvaluationFixPrompt (taskQuery finalResult : String) (result : EvaluationResult F) :
    String :=
  "\n".intercalate
    ["",
      "用户原始任务：",
      taskQuery,
      "",
      "你上一次输出未通过 Evaluation 质量校验。请基于已有上下文和必要工具调用，最多做一次补充修正，" ++
        "输出完整的最终答案。",
      "",
      "Evaluation 发现的问题：",
      issueLines result.issues,
      "",
      "修复指令：",
      fixInstruction result,
      "",
      "上一次输出：",
      String.ofList (finalResult.toList.take 6000),
      ""]

/-- `_append_evaluation_issues`. -/
def appendEvaluationIssues (finalResult : String) (result : EvaluationResult F) : String :=
  finalResult ++ "\n\n" ++ "【质量校验提示】\n" ++ "Evaluation 检测到当前结果仍有待补充：\n" ++
    issueLines result.issues ++ "\n" ++ "建议修复：" ++ fixInstruction result

namespace StageServices

variable (S : StageServices F)

/-- The verdict in an answer of the model, or the error of the call or of the parser. -/
def verdict (response : Except String String) : Except String (EvaluationResult F) :=
  response.bind (parseEvaluationResponse S.loads)

/-- The result of `run_evaluation` from an answer of the model: every error passes. -/
def evaluationResult (response : Except String String) : EvaluationResult F :=
  match S.verdict response with
  | .ok result => result
  | .error error =>
    { passed := true, issues := [], fixInstruction := "",
      raw := .dict [(.str "error", .str error)] }

/-- `run_evaluation`. -/
def runEvaluation (taskQuery content : String) (calls : List StageCall) :
    EvaluationResult F × List StageCall :=
  let response := S.model calls (buildEvaluationPrompt taskQuery content)
  (S.evaluationResult response, calls ++ [.evaluation content response])

/-- `_run_single_evaluation_revision`: where the rerun fails, the result stays. -/
def runSingleEvaluationRevision (taskQuery finalResult : String) (result : EvaluationResult F)
    (rerun : List StageCall → String → Except String String) (calls : List StageCall) :
    String × List StageCall :=
  let fixPrompt := buildEvaluationFixPrompt taskQuery finalResult result
  let outcome := rerun calls fixPrompt
  ((match outcome with | .ok revised => revised | .error _ => finalResult),
    calls ++ [.rerun fixPrompt outcome])

/-- The second half of `_apply_evaluation_if_needed`, after an evaluation that did not pass. -/
def revise (taskQuery finalResult : String) (result : EvaluationResult F)
    (calls : List StageCall) : Except String EvaluationStageResult × List StageCall :=
  let unrevised : EvaluationStageResult := ⟨appendEvaluationIssues finalResult result, .failed⟩
  match S.maxRevisions, S.rerunWithFix with
  | .error error, _ => (.error error, calls)
  | .ok _, none => (.ok unrevised, calls)
  | .ok maxRevisions, some rerun =>
    if maxRevisions ≤ 0 then (.ok unrevised, calls)
    else
      let (revised, calls) := runSingleEvaluationRevision taskQuery finalResult result rerun calls
      if revised = "" then (.ok unrevised, calls)
      else
        let (revisedResult, calls) := S.runEvaluation taskQuery revised calls
        if revisedResult.passed then (.ok ⟨revised, .passed⟩, calls)
        else (.ok ⟨appendEvaluationIssues revised revisedResult, .failed⟩, calls)

/-- `run_evaluation_stage`, with the log of its calls. -/
def runEvaluationStage (taskQuery finalResult : String) :
    Except String EvaluationStageResult × List StageCall :=
  if S.enabled = false ∨ finalResult = "" then (.ok ⟨finalResult, .skipped⟩, [])
  else
    match S.policyRequired taskQuery with
    | .error error => (.error error, [])
    | .ok false => (.ok ⟨finalResult, .skipped⟩, [])
    | .ok true =>
      let (result, calls) := S.runEvaluation taskQuery finalResult []
      if result.passed then (.ok ⟨finalResult, .passed⟩, calls)
      else S.revise taskQuery finalResult result calls

/-! ### What the stage reports -/

/-- The value of `passed` in the answer. -/
def passedField (result : EvaluationResult F) : Option (PyValue F) :=
  match result.raw with
  | .dict data => (data.find? (·.1.same (.str "passed"))).map (·.2)
  | _ => none

/-- The answer has a positive verdict: `passed` is true, or it is absent and there are no issues. -/
def Positive (response : Except String String) : Prop :=
  ∃ result, S.verdict response = .ok result ∧
    (passedField result = some (.bool true) ∨ passedField result = none ∧ result.issues = [])

/-- Where the answer has a verdict, its `passed` is not falsy, or is absent while there are no
issues. -/
def NotNegative (response : Except String String) : Prop :=
  ∀ result, S.verdict response = .ok result →
    (∀ value, passedField result = some value → value.truthy = true) ∧
      (passedField result = none → result.issues = [])

/-- The stage is bounded, and what it reports was found out for the content that it returns: an
answer with the given property where it passes, and the own issues of the content where it fails. -/
structure Honest (accepted : Except String String → Prop)
    (outcome : Except String EvaluationStageResult × List StageCall) : Prop where
  reruns : outcome.2.countP StageCall.isRerun ≤ 1
  evaluations : outcome.2.countP StageCall.isEvaluation ≤ 2
  passed : ∀ content, outcome.1 = .ok ⟨content, .passed⟩ →
    ∃ response, .evaluation content response ∈ outcome.2 ∧ accepted response
  failed : ∀ content, outcome.1 = .ok ⟨content, .failed⟩ →
    ∃ evaluated response, .evaluation evaluated response ∈ outcome.2 ∧
      (S.evaluationResult response).passed = false ∧
      content = appendEvaluationIssues evaluated (S.evaluationResult response)

variable {S} {response : Except String String} {result : EvaluationResult F}

/-- The verdict of an answer that can be read. -/
lemma passed_of_verdict (h : S.verdict response = .ok result) :
    result.passed = ((passedField result).getD (.bool result.issues.isEmpty)).truthy := by
  obtain ⟨content, -, hparse⟩ := bind_eq_ok.mp h
  obtain ⟨data, -, hdata⟩ := bind_eq_ok.mp hparse
  cases data with
  | dict data =>
    obtain ⟨items, -, hitems⟩ := bind_eq_ok.mp hdata
    obtain ⟨issues, -, hissues⟩ := bind_eq_ok.mp hitems
    obtain rfl := Except.ok.inj hissues
    rfl
  | _ => cases hdata

/-- A result that passes does not come from a negative verdict. -/
lemma notNegative_of_passed (h : (S.evaluationResult response).passed = true) :
    S.NotNegative response := by
  intro result hresult
  rw [evaluationResult, hresult] at h
  have htruthy := (passed_of_verdict hresult).symm.trans h
  refine ⟨fun value hvalue => ?_, fun habsent => ?_⟩
  · rw [hvalue] at htruthy
    exact htruthy
  · rw [habsent] at htruthy
    exact List.isEmpty_iff.mp htruthy

/-- A second half that ends without another evaluation. -/
lemma honest_unrevised {finalResult : String} {calls : List StageCall}
    (hcalls : calls = [.evaluation finalResult response] ∨
      ∃ fixPrompt outcome, calls = [.evaluation finalResult response, .rerun fixPrompt outcome])
    (hfailed : (S.evaluationResult response).passed = false) :
    S.Honest S.NotNegative
      (.ok ⟨appendEvaluationIssues finalResult (S.evaluationResult response), .failed⟩, calls) := by
  have hmem : .evaluation finalResult response ∈ calls := by
    rcases hcalls with rfl | ⟨fixPrompt, outcome, rfl⟩
    · exact List.mem_cons_self
    · exact List.mem_cons_self
  refine ⟨?_, ?_, fun content hcontent => ?_, fun content hcontent => ?_⟩
  · rcases hcalls with rfl | ⟨fixPrompt, outcome, rfl⟩
    · exact Nat.zero_le 1
    · exact Nat.le_refl 1
  · rcases hcalls with rfl | ⟨fixPrompt, outcome, rfl⟩
    · exact Nat.le_succ 1
    · exact Nat.le_succ 1
  · cases hcontent
  · cases hcontent
    exact ⟨finalResult, response, hmem, hfailed, rfl⟩

/-- An evaluation is one call for the content. -/
lemma exists_runEvaluation (S : StageServices F) (taskQuery content : String)
    (calls : List StageCall) : ∃ response, S.runEvaluation taskQuery content calls =
      (S.evaluationResult response, calls ++ [.evaluation content response]) :=
  ⟨_, rfl⟩

/-- After an evaluation that did not pass there is at most one rerun and one more evaluation. -/
lemma honest_revise (taskQuery : String) {finalResult : String}
    (hfailed : (S.evaluationResult response).passed = false) :
    S.Honest S.NotNegative (S.revise taskQuery finalResult (S.evaluationResult response)
      [.evaluation finalResult response]) := by
  rw [revise]
  cases hmax : S.maxRevisions with
  | error error =>
    refine ⟨Nat.zero_le 1, Nat.le_succ 1, ?_, ?_⟩
    · exact fun content hcontent => nomatch hcontent
    · exact fun content hcontent => nomatch hcontent
  | ok maxRevisions =>
    cases hrerun : S.rerunWithFix with
    | none => exact honest_unrevised (.inl rfl) hfailed
    | some rerun =>
      by_cases hnone : maxRevisions ≤ 0
      · simp only [if_pos hnone]
        exact honest_unrevised (.inl rfl) hfailed
      obtain ⟨revised, fixPrompt, outcome, hrevision⟩ : ∃ revised fixPrompt outcome,
          runSingleEvaluationRevision taskQuery finalResult (S.evaluationResult response) rerun
            [.evaluation finalResult response] =
          (revised, [.evaluation finalResult response, .rerun fixPrompt outcome]) :=
        ⟨_, _, _, rfl⟩
      simp only [if_neg hnone, hrevision]
      by_cases hempty : revised = ""
      · simp only [if_pos hempty]
        exact honest_unrevised (.inr ⟨fixPrompt, outcome, rfl⟩) hfailed
      obtain ⟨second, hrun⟩ := exists_runEvaluation S taskQuery revised
        [.evaluation finalResult response, .rerun fixPrompt outcome]
      have hmem : .evaluation revised second ∈ ([.evaluation finalResult response,
          .rerun fixPrompt outcome] ++ [.evaluation revised second] : List StageCall) :=
        List.mem_append_right _ (List.mem_singleton_self _)
      simp only [if_neg hempty, hrun]
      cases hsecond : (S.evaluationResult second).passed with
      | true =>
        refine ⟨Nat.le_refl 1, Nat.le_refl 2, fun content hcontent => ?_,
          fun content hcontent => ?_⟩
        · cases hcontent
          exact ⟨second, hmem, notNegative_of_passed hsecond⟩
        · cases hcontent
      | false =>
        refine ⟨Nat.le_refl 1, Nat.le_refl 2, fun content hcontent => ?_,
          fun content hcontent => ?_⟩
        · cases hcontent
        · cases hcontent
          exact ⟨revised, second, hmem, hsecond, rfl⟩

/-- A stage that ends without a call reports neither. -/
lemma honest_of_no_calls {outcome : Except String EvaluationStageResult}
    (h : ∀ content status, outcome = .ok ⟨content, status⟩ → status = .skipped) :
    S.Honest S.NotNegative (outcome, []) := by
  refine ⟨Nat.zero_le 1, Nat.zero_le 2, fun content hcontent => ?_, fun content hcontent => ?_⟩
  · cases h content _ hcontent
  · cases h content _ hcontent

/-- The stage makes at most one rerun and two evaluations; where it passes, the evaluation of the
returned content had no negative verdict, and where it fails, the content has its own issues. -/
theorem honest_runEvaluationStage (S : StageServices F) (taskQuery finalResult : String) :
    S.Honest S.NotNegative (S.runEvaluationStage taskQuery finalResult) := by
  have hskipped : ∀ content status, (Except.ok ⟨finalResult, .skipped⟩ :
      Except String EvaluationStageResult) = .ok ⟨content, status⟩ → status = .skipped := by
    intro content status h
    cases h
    rfl
  rw [runEvaluationStage]
  by_cases hskip : S.enabled = false ∨ finalResult = ""
  · rw [if_pos hskip]
    exact honest_of_no_calls hskipped
  rw [if_neg hskip]
  cases hrequired : S.policyRequired taskQuery with
  | error error => exact honest_of_no_calls fun content status h => nomatch h
  | ok required =>
    cases required with
    | false => exact honest_of_no_calls hskipped
    | true =>
      obtain ⟨first, hrun⟩ := exists_runEvaluation S taskQuery finalResult []
      simp only [hrun, List.nil_append]
      cases hfirst : (S.evaluationResult first).passed with
      | true =>
        refine ⟨Nat.zero_le 1, Nat.le_succ 1, fun content hcontent => ?_,
          fun content hcontent => ?_⟩
        · cases hcontent
          exact ⟨first, List.mem_singleton_self _, notNegative_of_passed hfirst⟩
        · cases hcontent
      | false => exact honest_revise taskQuery hfirst

/-- A platform whose evaluation model cannot be reached. -/
def unreachableModel : StageServices ℤ where
  enabled := true
  maxRevisions := .ok 1
  policyRequired _ := .ok true
  model _ _ := .error "Connection error."
  rerunWithFix := none
  loads _ := .error "Expecting value: line 1 column 1 (char 0)"

/-- Without any verdict the result passes. -/
theorem not_honest_unreachable :
    ¬unreachableModel.Honest unreachableModel.Positive
      (unreachableModel.runEvaluationStage "经营日报" "GMV 0") := by
  intro h
  obtain ⟨response, hresponse, result, hresult, -⟩ := h.passed "GMV 0" (by decide +kernel)
  have hcalls : (unreachableModel.runEvaluationStage "经营日报" "GMV 0").2 =
      [.evaluation "GMV 0" (.error "Connection error.")] := by decide +kernel
  rw [hcalls, List.mem_singleton] at hresponse
  cases hresponse
  cases hresult

end StageServices

end EcommerceAgent.Evaluation
