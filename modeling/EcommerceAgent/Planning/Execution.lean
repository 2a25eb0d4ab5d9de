/-
# What the runtime does with a plan

`execute_agent` of `agent/runtime/agent_runtime.py` decides anew, from fewer fields, what
`AgentTaskPlan.execution_mode` tells the traces, the API and the reports.  The two agree unless a
plan of the profile `standard` assigns work to `network_search` (`modeTold_iff`).
-/
import EcommerceAgent.Planning.Models
import EcommerceAgent.Runtime.Profiles
import EcommerceAgent.Lib.Hundredths

open EcommerceAgent.Lib EcommerceAgent.Runtime

namespace EcommerceAgent.Planning

variable {F : Type} [PyRuntime F]

namespace AgentTaskPlan

variable (p : AgentTaskPlan F)

/-! ### Reports of a plan -/

/-- `missing_context`. -/
def missingContext : List String :=
  match p.metadata.get "missing_context" with
  | .list l => l.map PyValue.text
  | _ => []

/-- `output_format`. -/
def outputFormat : String := ((p.metadata.get "output_format").or (.str "markdown")).text

/-- `business_domain`. -/
def businessDomain : String :=
  ((p.metadata.get "business_domain").or (.str "ecommerce_operations")).text

/-- The fields of `to_lightweight_dict`. -/
def lightweightFields : List (String × PyValue F) :=
  [("plan_id", .str p.planId), ("raw_query", .str p.rawQuery),
    ("primary_intent", .str p.primaryIntent),
    ("assignment_intents", textValues p.assignmentIntents), ("profile", .str p.profile),
    ("execution_mode", .str p.executionMode), ("expected_output", .str p.expectedOutput),
    ("missing_context", textValues p.missingContext),
    ("requires_clarification", .bool p.requiresClarification),
    ("clarification_questions", textValues p.clarificationQuestions),
    ("confidence", .float p.confidence), ("fallback_reason", .str p.fallbackReason),
    ("output_format", .str p.outputFormat), ("primary_task_type", .str p.primaryTaskType),
    ("assignment_count", .int p.assignments.length), ("risk_level", .str p.riskLevel),
    ("business_domain", .str p.businessDomain)]

/-- `to_lightweight_dict`. -/
def toLightweightDict : PyValue F := .record p.lightweightFields

/-- The fields of `to_trace_metadata`. -/
def traceFields (includePlan : Bool) : List (String × PyValue F) :=
  [("plan_id", .str p.planId), ("intent", .str p.primaryTaskType),
    ("primary_goal", .str p.primaryTaskType), ("execution_mode", .str p.executionMode),
    ("risk", .str p.riskLevel), ("requires_evaluation", .bool p.evaluationRequired),
    ("profile", .str p.profile), ("agent_assignment_count", .int p.assignments.length),
    ("task_plan", if includePlan then p.toDict else p.toLightweightDict)]

/-- The dictionaries in which a plan is reported. -/
def reports : List (List (String × PyValue F)) :=
  [p.fieldsOf p, p.lightweightFields, p.traceFields true, p.traceFields false]

end AgentTaskPlan

/-! ### The runtime -/

/-- The variables that `deepagents_enabled` reads. -/
structure RuntimeFlags where
  runtime : Bool
  realtimeChat : Bool
  standard : Bool
  deep : Bool

/-- `deepagents_enabled`. -/
def deepagentsEnabled (flags : RuntimeFlags) (profile : Profile) : Bool :=
  flags.runtime && match profile with
    | .realtime => flags.realtimeChat
    | .deep => flags.deep
    | .standard => flags.standard

/-- What the runtime answers without a subagent. -/
structure ExecutionResult (F : Type) where
  content : String
  source : String
  workflowName : String
  workflowDefinition : PyValue F
  structuredResult : PyValue F

/-- What `execute_agent` does: `DeepAgentsNativeRuntime.run`, or an answer of the planner. -/
inductive Execution (F : Type)
  | native
  | answered (result : ExecutionResult F)

/-- `_clarification_answer`. -/
def clarificationAnswer (p : AgentTaskPlan F) : String :=
  let questions :=
    if p.clarificationQuestions = [] then ["请补充要分析的对象或时间范围。"]
    else p.clarificationQuestions
  "\n".intercalate (["## 需要补充信息", "为了避免误读你的需求，我需要先确认："] ++
    questions.map ("- " ++ ·))

/-- `_planner_boundary_answer`. -/
def plannerBoundaryAnswer : String :=
  "## 当前能力边界\n" ++
    "我现在只接入了电商经营数据、商品、库存、活动、导入和报告相关能力，不能可靠处理这个问题。\n\n" ++
    "## 可以继续这样问\n- 推荐我最近爆品\n- 帮我看看店铺最近怎么样\n" ++
    "- 这个月哪些商品适合加大投放，同时看库存和活动风险"

/-- `_planner_structured`. -/
def plannerStructured (p : AgentTaskPlan F) (content : String) : PyValue F :=
  .record [("conclusion", .str content), ("evidence", .list []), ("actions", .list []),
    ("risks", .list []), ("missingData", textValues p.missingContext), ("planSummary", p.toDict),
    ("agentResults", .list []), ("nextQuestions", textValues p.clarificationQuestions),
    ("confidence", .float p.confidence)]

/-- An answer of the planner. -/
def plannerAnswer (p : AgentTaskPlan F) (source content : String) : ExecutionResult F where
  content := content
  source := source
  workflowName := "agent_orchestration"
  workflowDefinition := .record [("task_plan", p.toDict)]
  structuredResult := plannerStructured p content

/-- `execute_agent`; `agent` says whether the graph has been built. -/
def executeAgent (agent : Bool) (flags : RuntimeFlags) (runtimeProfile : String)
    (p : AgentTaskPlan F) : Except String (Execution F) :=
  let profile := normalizeRuntimeProfile runtimeProfile.toList
  if profile = .realtime then
    if !agent || !deepagentsEnabled flags profile then
      .error "deepagents-native runtime is required for realtime profile."
    else .ok .native
  else if p.requiresClarification then
    .ok (.answered (plannerAnswer p "planner_clarification" (clarificationAnswer p)))
  else if p.boundary || p.assignments.isEmpty then
    .ok (.answered (plannerAnswer p "planner_boundary" plannerBoundaryAnswer))
  else if !agent || !deepagentsEnabled flags profile then
    .error ("deepagents-native runtime is required for " ++ profile.name ++
      " business assignments.")
  else .ok .native

/-! ### The mode and the execution -/

/-- The modes in which subagents run. -/
def nativeModes : List String := ["business_agent", "agent_orchestration", "data_agent"]

/-- The modes in which the planner answers. -/
def plannerModes : List String := ["boundary", "realtime_chat"]

/-- The mode tells what was executed, wherever it is reported. -/
structure ModeTold (p : AgentTaskPlan F) (execution : Except String (Execution F)) : Prop where
  native : execution = .ok .native ↔ p.executionMode ∈ nativeModes
  answered : (∃ result, execution = .ok (.answered result)) ↔ p.executionMode ∈ plannerModes
  reported : ∀ report ∈ p.reports, report.lookup "execution_mode" = some (.str p.executionMode)

/-- Work for `network_search` that the profile does not allow. -/
def SearchesInStandard (p : AgentTaskPlan F) (profile : Profile) : Prop :=
  profile = .standard ∧ p.boundary = false ∧ p.requiresClarification = false ∧
    ∃ a ∈ p.assignments, a.agentId = "network_search"

variable {p : AgentTaskPlan F}

lemma lookup_executionMode : ∀ report ∈ p.reports,
    report.lookup "execution_mode" = some (.str p.executionMode) := by
  intro report hreport
  simp only [AgentTaskPlan.reports, List.mem_cons, List.not_mem_nil, or_false] at hreport
  rcases hreport with rfl | rfl | rfl | rfl <;>
    simp [AgentTaskPlan.fieldsOf, AgentTaskPlan.lightweightFields, AgentTaskPlan.traceFields,
      List.lookup_cons]

/-- What the runtime does with the profiles `standard` and `deep`. -/
lemma executeAgent_eq {flags : RuntimeFlags} {profile : Profile} (hprofile : profile ≠ .realtime)
    (henabled : deepagentsEnabled flags profile = true) :
    executeAgent true flags profile.name p =
      if p.requiresClarification then
        .ok (.answered (plannerAnswer p "planner_clarification" (clarificationAnswer p)))
      else if p.boundary || p.assignments.isEmpty then
        .ok (.answered (plannerAnswer p "planner_boundary" plannerBoundaryAnswer))
      else .ok .native := by
  simp only [executeAgent, normalizeRuntimeProfile_name, if_neg hprofile, henabled]
  simp

/-- A mode is one of five. -/
lemma executionMode_cases (p : AgentTaskPlan F) :
    p.executionMode ∈ nativeModes ∧ ¬p.executionMode ∈ plannerModes ∧
        p.boundary = false ∧ p.requiresClarification = false ∧ p.assignments.isEmpty = false ∧
        (p.profile ≠ "deep" → ∀ a ∈ p.assignments, a.agentId ≠ "network_search") ∨
      ¬p.executionMode ∈ nativeModes ∧ p.executionMode ∈ plannerModes ∧
        (p.boundary = true ∨ p.requiresClarification = true ∨ p.assignments.isEmpty = true ∨
          p.profile ≠ "deep" ∧ ∃ a ∈ p.assignments, a.agentId = "network_search") := by
  have hnative : ∀ mode ∈ nativeModes, mode ∈ nativeModes ∧ ¬mode ∈ plannerModes := by decide
  have hplanner : ∀ mode ∈ plannerModes, ¬mode ∈ nativeModes ∧ mode ∈ plannerModes := by decide
  unfold AgentTaskPlan.executionMode
  by_cases hboundary : (p.boundary || p.requiresClarification) = true
  · rw [if_pos hboundary]
    obtain ⟨h₁, h₂⟩ := hplanner "boundary" (by decide)
    rw [Bool.or_eq_true] at hboundary
    exact .inr ⟨h₁, h₂, hboundary.imp_right .inl⟩
  rw [if_neg hboundary]
  rw [Bool.or_eq_true, not_or, Bool.not_eq_true, Bool.not_eq_true] at hboundary
  by_cases hempty : p.assignments.isEmpty = true
  · rw [if_pos hempty]
    right
    split_ifs
    · obtain ⟨h₁, h₂⟩ := hplanner "realtime_chat" (by decide)
      exact ⟨h₁, h₂, .inr (.inr (.inl hempty))⟩
    · obtain ⟨h₁, h₂⟩ := hplanner "boundary" (by decide)
      exact ⟨h₁, h₂, .inr (.inr (.inl hempty))⟩
  rw [if_neg hempty]
  by_cases hsearch : (p.assignments.any (·.agentId == "network_search") && p.profile != "deep") =
      true
  · rw [if_pos hsearch]
    obtain ⟨h₁, h₂⟩ := hplanner "boundary" (by decide)
    rw [Bool.and_eq_true, List.any_eq_true] at hsearch
    obtain ⟨⟨a, ha, hagent⟩, hdeep⟩ := hsearch
    exact .inr ⟨h₁, h₂, .inr (.inr (.inr ⟨by simpa using hdeep, a, ha, by simpa using hagent⟩))⟩
  rw [if_neg hsearch]
  have hnone : p.profile ≠ "deep" → ∀ a ∈ p.assignments, a.agentId ≠ "network_search" := by
    intro hdeep a ha hagent
    rw [Bool.and_eq_true, List.any_eq_true] at hsearch
    exact hsearch ⟨⟨a, ha, by simpa using hagent⟩, by simpa using hdeep⟩
  left
  split_ifs
  · obtain ⟨h₁, h₂⟩ := hnative "data_agent" (by decide)
    exact ⟨h₁, h₂, hboundary.1, hboundary.2, by simpa using hempty, hnone⟩
  · obtain ⟨h₁, h₂⟩ := hnative "agent_orchestration" (by decide)
    exact ⟨h₁, h₂, hboundary.1, hboundary.2, by simpa using hempty, hnone⟩
  · obtain ⟨h₁, h₂⟩ := hnative "business_agent" (by decide)
    exact ⟨h₁, h₂, hboundary.1, hboundary.2, by simpa using hempty, hnone⟩

/-- **The mode tells what is executed unless `network_search` is to run in the profile
`standard`.** -/
theorem modeTold_iff (p : AgentTaskPlan F) (profile : Profile) (flags : RuntimeFlags)
    (hrealtime : profile ≠ .realtime) (hprofile : p.profile = profile.name)
    (henabled : deepagentsEnabled flags profile = true) :
    ModeTold p (executeAgent true flags profile.name p) ↔ ¬SearchesInStandard p profile := by
  have hdeep : p.profile ≠ "deep" ↔ profile = .standard := by
    rw [hprofile]
    cases profile with
    | realtime => exact absurd rfl hrealtime
    | standard => decide
    | deep => decide
  rw [executeAgent_eq hrealtime henabled]
  rcases executionMode_cases p with ⟨hnative, hplanner, hboundary, hclarify, hempty, hnone⟩ |
      ⟨hnative, hplanner, hwhy⟩
  · -- subagents run, and the mode says so
    rw [hclarify, hboundary, hempty]
    refine iff_of_true ⟨iff_of_true rfl hnative, iff_of_false ?_ hplanner, lookup_executionMode⟩ ?_
    · rintro ⟨result, h⟩
      cases h
    · rintro ⟨hstandard, -, -, a, ha, hagent⟩
      exact hnone (hdeep.2 hstandard) a ha hagent
  · constructor
    · rintro ⟨h, -, -⟩ ⟨-, hboundary, hclarify, a, ha, hagent⟩
      have hempty : p.assignments.isEmpty = false := by
        cases hl : p.assignments with
        | nil => simp [hl] at ha
        | cons => rfl
      rw [hclarify, hboundary, hempty] at h
      exact hnative (h.1 rfl)
    · intro hnot
      have hanswered : ∃ result, (if p.requiresClarification then
          .ok (.answered (plannerAnswer p "planner_clarification" (clarificationAnswer p)))
        else if p.boundary || p.assignments.isEmpty then
          .ok (.answered (plannerAnswer p "planner_boundary" plannerBoundaryAnswer))
        else .ok .native : Except String (Execution F)) = .ok (.answered result) := by
        by_cases hclarify : p.requiresClarification = true
        · exact ⟨_, if_pos hclarify⟩
        · rw [if_neg hclarify]
          by_cases hboundary : (p.boundary || p.assignments.isEmpty) = true
          · exact ⟨_, if_pos hboundary⟩
          · rw [Bool.or_eq_true, not_or, Bool.not_eq_true] at hboundary
            rcases hwhy with h | h | h | ⟨hnotDeep, hsearch⟩
            · rw [hboundary.1] at h
              cases h
            · exact absurd h hclarify
            · exact absurd h hboundary.2
            · refine absurd ⟨hdeep.1 hnotDeep, hboundary.1, ?_, hsearch⟩ hnot
              simpa using hclarify
      refine ⟨iff_of_false (fun h => ?_) hnative, iff_of_true hanswered hplanner,
        lookup_executionMode⟩
      obtain ⟨result, hresult⟩ := hanswered
      rw [h] at hresult
      cases hresult

/-- All profiles are enabled, as without environment variables. -/
def allEnabled : RuntimeFlags := ⟨true, true, true, true⟩

/-- A plan of the profile `standard` with one assignment. -/
def singlePlan (agentId : String) : AgentTaskPlan ℤ where
  planId := "plan_1"
  rawQuery := "竞品最近有什么动作"
  primaryIntent := "general_business_chat"
  profile := "standard"
  assignments := [{
    assignmentId := "a1"
    agentId := agentId
    task := ""
    intent := "general_business_chat"
    originalQuery := "竞品最近有什么动作"
    assignmentScope := ""
    objective := ""
    expectedContribution := ""
    upstreamRequirements := []
    priority := 1
    reason := "planner_match"
    inputContext := .empty
    constraints := .empty
    requiredOutput := defaultOutput
    dependsOn := [] }]
  dependencies := []
  mergeStrategy := "single_agent_summary"
  requiresClarification := false
  clarificationQuestions := []
  boundary := false
  boundaryReason := ""
  confidence := 70
  expectedOutput := defaultOutput
  metadata := .empty

/-- A report is told. -/
theorem modeTold_report :
    ModeTold (singlePlan "report") (executeAgent true allEnabled "standard" (singlePlan "report")) ↔
      ¬SearchesInStandard (singlePlan "report") .standard :=
  modeTold_iff (singlePlan "report") .standard allEnabled (by decide) rfl rfl

/-- A search runs although the mode says `boundary`. -/
theorem search_not_told :
    (singlePlan "network_search").executionMode = "boundary" ∧
      executeAgent true allEnabled "standard" (singlePlan "network_search") = .ok .native ∧
      ¬ModeTold (singlePlan "network_search")
        (executeAgent true allEnabled "standard" (singlePlan "network_search")) := by
  have hmode : (singlePlan "network_search").executionMode = "boundary" := by decide +kernel
  have hrun : executeAgent true allEnabled "standard" (singlePlan "network_search") =
      .ok .native := by
    have hprofile : normalizeRuntimeProfile "standard".toList = .standard := by decide +kernel
    rw [executeAgent, hprofile]
    rfl
  refine ⟨hmode, hrun, fun h => ?_⟩
  have hnative := h.native.1 hrun
  rw [hmode] at hnative
  exact absurd hnative (by decide)

end EcommerceAgent.Planning
