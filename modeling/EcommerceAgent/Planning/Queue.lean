/-
# Plans in the task queue

The API plans when it accepts work, puts `plan.to_dict()` into the queued payload, and the worker
decodes it again (`run_and_finalize` of `api/server.py`).  Every decoder replaces values that count
as false by defaults, so the two plans could differ; they do not, since each plan that is enqueued
has been decoded before or was built from constants that count as true (`survives_queue`).
-/
import EcommerceAgent.Planning.Planner

open EcommerceAgent.Lib EcommerceAgent.Runtime

namespace EcommerceAgent.Planning

variable {F : Type} [PyRuntime F]

/-- The texts for which `_task_plan_for_job` plans instead of the long prompt of a job type. -/
def plannerQueries : List (String × String) :=
  [("product_optimization", "商品优化"), ("hot_product_analysis", "爆品分析"),
    ("daily_report", "经营日报"), ("weekly_report", "经营周报"), ("campaign_review", "活动复盘"),
    ("inventory_risk_scan", "库存风险"), ("replenishment_plan", "补货计划")]

/-- `_task_plan_for_job`. -/
def taskPlanForJob (jobType : Option String) (query runtimeProfile : String) :
    Except String (AgentTaskPlan F) := do
  let plannerQuery := (plannerQueries.lookup (jobType.getD "")).getD query
  let p ← plan plannerQuery (normalizeRuntimeProfile runtimeProfile.toList) .empty
    "rule_based_agent_fallback"
  let planData := { p with
    rawQuery := query
    metadata := p.metadata.set "normalized_query" (.str query) }
  AgentTaskPlan.fromDict (PyValue.entriesOf (planData.fieldsOf p))

/-- The ways to a plan that is enqueued.  The model answers with the fields of a JSON object, or
what is raised has a message. -/
inductive PlanSource (F : Type) [PyRuntime F]
  | plan (query profile : String) (context : PyDict F) (fallbackReason : String)
  | planAsync (query profile : String) (context : PyDict F)
      (answer : Except String (List (String × Json F)))
  | job (jobType : Option String) (query runtimeProfile : String)

/-- The plan. -/
def PlanSource.result : PlanSource F → Except String (AgentTaskPlan F)
  | .plan query profile context fallbackReason =>
    Planning.plan query (normalizeRuntimeProfile profile.toList) context fallbackReason
  | .planAsync query profile context answer =>
    Planning.planAsync query (normalizeRuntimeProfile profile.toList) context
      (answer.map fun fields => PyValue.insertAll [] (Json.loadsEntries fields))
  | .job jobType query runtimeProfile => taskPlanForJob jobType query runtimeProfile

/-- What `run_and_finalize` makes of the entry `task_plan` of a payload. -/
def taskPlanOverride (taskPlan : PyValue F) : Except String (Option (AgentTaskPlan F)) :=
  match taskPlan.dict? with
  | none => .ok none
  | some [] => .ok none
  | some data => do return some (← AgentTaskPlan.fromDict data)

/-- The worker executes the plan that the API accepted. -/
structure SamePlan (p p' : AgentTaskPlan F) : Prop where
  assignments : p'.assignments.map (fun a => (a.assignmentId, a.agentId, a.task, a.intent,
      a.priority, a.dependsOn, a.upstreamRequirements)) =
    p.assignments.map fun a => (a.assignmentId, a.agentId, a.task, a.intent, a.priority,
      a.dependsOn, a.upstreamRequirements)
  dependencies : p'.dependencies = p.dependencies
  boundary : p'.boundary = p.boundary ∧ p'.boundaryReason = p.boundaryReason
  clarification : p'.requiresClarification = p.requiresClarification ∧
    p'.clarificationQuestions = p.clarificationQuestions
  confidence : p'.confidence = p.confidence
  primaryTaskType : p'.primaryTaskType = p.primaryTaskType
  order : p'.sortedAssignments.map (·.assignmentId) = p.sortedAssignments.map (·.assignmentId)
  executionMode : p'.executionMode = p.executionMode
  evaluationRequired : p'.evaluationRequired = p.evaluationRequired

lemma samePlan_roundTrip {p : AgentTaskPlan F} (h : p.metadata.Loaded) :
    SamePlan p p.roundTrip where
  assignments := by
    rw [AgentTaskPlan.roundTrip, List.map_map]
    rfl
  dependencies := rfl
  boundary := ⟨rfl, rfl⟩
  clarification := ⟨rfl, rfl⟩
  confidence := rfl
  primaryTaskType := AgentTaskPlan.primaryTaskType_roundTrip h
  order := by
    rw [AgentTaskPlan.sortedAssignments_roundTrip, List.map_map]
    rfl
  executionMode := AgentTaskPlan.executionMode_roundTrip h
  evaluationRequired := AgentTaskPlan.evaluationRequired_roundTrip h

/-- A settled plan is decoded to itself, up to the keys of its dictionaries. -/
lemma taskPlanOverride_settled {p : AgentTaskPlan F} (h : p.Settled) :
    taskPlanOverride p.toDict.roundTrip = .ok (some p.roundTrip) := by
  have hroundTrip : p.roundTrip.Settled := {
    profile := h.profile
    mergeStrategy := h.mergeStrategy
    expectedOutput := h.expectedOutput
    assignments := fun a ha => by
      obtain ⟨b, hb, rfl⟩ := List.mem_map.1 ha
      exact (h.assignments b hb).roundTrip
    dependencies := h.dependencies
    primaryIntent := h.primaryIntent
    priority := fun a ha => by
      obtain ⟨b, hb, rfl⟩ := List.mem_map.1 ha
      exact h.priority b hb
    confidence := h.confidence
    metadata := p.metadata.loaded_roundTrip }
  have hdecode := AgentTaskPlan.fromDict_fieldsOf hroundTrip.toDecoded p.roundTrip
  rw [hroundTrip.settle_eq] at hdecode
  rw [AgentTaskPlan.roundTrip_toDict h.metadata]
  exact (congrArg (fun r => r >>= fun q => .ok (some q)) hdecode).trans (ok_bind _ _)

lemma settled_plan {query : String} {profile : Profile} {context : PyDict F}
    {fallbackReason : String} {p : AgentTaskPlan F}
    (h : fallbackPlan query profile context fallbackReason = .ok p) :
    p.Settled ∧ p.profile = profile.name := by
  obtain ⟨q, hq, hsettled, hprofile, -⟩ := fallbackPlan_ok query profile context fallbackReason
  obtain rfl := Except.ok.inj (hq.symm.trans h)
  exact ⟨hsettled, hprofile⟩

/-- A planner that decodes the answer of a model returns a plan for its profile that every decoder
leaves alone. -/
lemma settled_planAsync (query : String) (profile : Profile) (context : PyDict F)
    {answer : Except String (Entries F)} (hanswer : ∀ data, answer = .ok data →
      PyValue.LoadedEntries data) :
    ∃ p, planAsync query profile context answer = .ok p ∧ p.Settled ∧ p.profile = profile.name := by
  obtain ⟨r, hr, hcases⟩ := planAsync_ok query profile context answer
  refine ⟨r, hr, ?_⟩
  revert hcases
  cases modelPlan profile answer with
  | none =>
    rintro (rfl | ⟨_, _, h⟩)
    · exact ⟨settled_boundaryPlan _ _ _, rfl⟩
    · exact settled_plan h
  | some p =>
    rintro ⟨hdecode, rfl⟩
    cases answer with
    | error e => cases hdecode
    | ok data =>
      have hp : AgentTaskPlan.fromDict data = .ok p := hdecode
      exact ⟨settled_keptPlan (AgentTaskPlan.decoded_fromDict hp)
        (AgentTaskPlan.loaded_fromDict (hanswer data rfl) hp) query profile p.fallbackReason, rfl⟩

lemma settled_taskPlanForJob (jobType : Option String) (query runtimeProfile : String) :
    ∃ p : AgentTaskPlan F, taskPlanForJob jobType query runtimeProfile = .ok p ∧ p.Settled ∧
      p.profile = (normalizeRuntimeProfile runtimeProfile.toList).name := by
  obtain ⟨p, hp, hsettled, hprofile, -⟩ := fallbackPlan_ok
    ((plannerQueries.lookup (jobType.getD "")).getD query)
    (normalizeRuntimeProfile runtimeProfile.toList) (.empty : PyDict F) "rule_based_agent_fallback"
  have hjob : ({ p with
      rawQuery := query
      metadata := p.metadata.set "normalized_query" (.str query) } : AgentTaskPlan F).Settled :=
    { hsettled with metadata := hsettled.metadata.set _ (PyValue.loaded_str _) }
  have hdecode := AgentTaskPlan.fromDict_fieldsOf hjob.toDecoded p
  rw [hjob.settle_eq] at hdecode
  refine ⟨_, ?_, hjob, hprofile⟩
  rw [taskPlanForJob, plan, hp, ok_bind]
  exact hdecode

/-- Each way ends with a plan for its profile that every decoder leaves alone. -/
lemma PlanSource.settled_result (s : PlanSource F) : ∃ p, s.result = .ok p ∧ p.Settled := by
  cases s with
  | plan query profile context fallbackReason =>
    obtain ⟨p, hp, hsettled, -⟩ := fallbackPlan_ok query
      (normalizeRuntimeProfile profile.toList) context fallbackReason
    exact ⟨p, hp, hsettled⟩
  | planAsync query profile context answer =>
    have hloaded : ∀ data, (answer.map fun fields =>
        PyValue.insertAll [] (Json.loadsEntries fields)) = .ok data →
          PyValue.LoadedEntries data := by
      intro data hdata
      cases answer with
      | error e => cases hdata
      | ok fields =>
        obtain rfl := Except.ok.inj hdata
        exact PyValue.Loaded.entries ⟨.obj fields, rfl⟩
    obtain ⟨p, hp, hsettled, -⟩ := settled_planAsync query
      (normalizeRuntimeProfile profile.toList) context hloaded
    exact ⟨p, hp, hsettled⟩
  | job jobType query runtimeProfile =>
    obtain ⟨p, hp, hsettled, -⟩ := settled_taskPlanForJob (F := F) jobType query runtimeProfile
    exact ⟨p, hp, hsettled⟩

/-- **A plan survives the queue.** -/
theorem PlanSource.survives_queue (s : PlanSource F) :
    ∃ p p', s.result = .ok p ∧ taskPlanOverride p.toDict.roundTrip = .ok (some p') ∧
      SamePlan p p' := by
  obtain ⟨p, hp, hsettled⟩ := s.settled_result
  exact ⟨p, p.roundTrip, hp, taskPlanOverride_settled hsettled,
    samePlan_roundTrip hsettled.metadata⟩

end EcommerceAgent.Planning
