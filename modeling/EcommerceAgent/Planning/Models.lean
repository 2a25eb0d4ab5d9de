/-
# The protocol between the planner and the runtime

`AgentDependency`, `AgentAssignment` and `AgentTaskPlan` with their dictionaries.  A decoder
replaces every value that Python counts as false by a default, so a value that has been decoded
once is decoded to itself from then on, except for a number that was decoded from a text and is
zero; `Stable` says that no such number is left.
-/
import EcommerceAgent.Lib.PyValue
import EcommerceAgent.Lib.Except
import Mathlib.Data.List.Sort

open EcommerceAgent.Lib

namespace EcommerceAgent.Planning

variable {F : Type} [PyRuntime F]

/-- The entries of a dictionary. -/
abbrev Entries (F : Type) := List (PyKey F × PyValue F)

/-- `str(data.get(name) or default)`. -/
def textField (data : Entries F) (name default : String) : String :=
  ((PyValue.get data name).or (.str default)).text

/-- `[str(item) for item in data.get(name) or []]`. -/
def textsField (data : Entries F) (name : String) : Except String (List String) := do
  return (← ((PyValue.get data name).or (.list [])).iter).map PyValue.text

/-- `dict(data.get(name) or {})`. -/
def dictField (data : Entries F) (name : String) : Except String (PyDict F) :=
  PyDict.ofValue ((PyValue.get data name).or (.dict []))

/-- A list of texts as a value. -/
def textValues (l : List String) : PyValue F := .list (l.map .str)

lemma ite_empty (s : String) : (if s = "" then "" else s) = s := by
  split_ifs with h
  · exact h.symm
  · rfl

lemma textField_ne (data : Entries F) (name : String) {default : String} (h : default ≠ "") :
    textField data name default ≠ "" := PyValue.text_or_ne _ h

/-! ### Dependencies -/

/-- An edge between two assignments. -/
structure AgentDependency where
  fromAssignment : String
  toAssignment : String
  type : String
deriving DecidableEq, Repr

namespace AgentDependency

/-- The fields of `to_dict`. -/
def fields (dependency : AgentDependency) : List (String × PyValue F) :=
  [("from_assignment", .str dependency.fromAssignment),
    ("to_assignment", .str dependency.toAssignment), ("type", .str dependency.type)]

/-- `to_dict`. -/
def toDict (dependency : AgentDependency) : PyValue F := .record dependency.fields

/-- `from_dict`. -/
def fromDict (data : Entries F) : AgentDependency where
  fromAssignment := textField data "from_assignment" ""
  toAssignment := textField data "to_assignment" ""
  type := textField data "type" "optional_context"

/-- An edge with a type is decoded to itself. -/
lemma fromDict_fields {dependency : AgentDependency} (h : dependency.type ≠ "") :
    fromDict (PyValue.entriesOf (dependency.fields : List (String × PyValue F))) = dependency := by
  simp [fromDict, textField, PyValue.get_entriesOf, fields, List.lookup_cons, PyValue.text_str_or,
    ite_empty, h]

lemma type_fromDict_ne (data : Entries F) : (fromDict data).type ≠ "" :=
  textField_ne data "type" (by decide)

lemma roundTrip_toDict (dependency : AgentDependency) :
    (dependency.toDict : PyValue F).roundTrip = dependency.toDict := by
  rw [toDict, PyValue.roundTrip_record (by simp [fields])]
  rfl

end AgentDependency

/-! ### Assignments -/

/-- The part of a task that one subagent works on. -/
structure AgentAssignment (F : Type) [PyRuntime F] where
  assignmentId : String
  agentId : String
  task : String
  intent : String
  originalQuery : String
  assignmentScope : String
  objective : String
  expectedContribution : String
  upstreamRequirements : List String
  priority : ℤ
  reason : String
  inputContext : PyDict F
  constraints : PyDict F
  requiredOutput : String
  dependsOn : List String

/-- The required output of an assignment, and the expected output of a plan, by default. -/
def defaultOutput : String := "输出结构化经营分析结论。"

namespace AgentAssignment

variable (a : AgentAssignment F)

/-- The fields of `to_dict`. -/
def fields : List (String × PyValue F) :=
  [("assignment_id", .str a.assignmentId), ("agent_id", .str a.agentId), ("task", .str a.task),
    ("intent", .str a.intent), ("original_query", .str a.originalQuery),
    ("assignment_scope", .str a.assignmentScope), ("objective", .str a.objective),
    ("expected_contribution", .str a.expectedContribution),
    ("upstream_requirements", textValues a.upstreamRequirements), ("priority", .int a.priority),
    ("reason", .str a.reason), ("input_context", a.inputContext.value),
    ("constraints", a.constraints.value), ("required_output", .str a.requiredOutput),
    ("depends_on", textValues a.dependsOn)]

/-- `to_dict`. -/
def toDict : PyValue F := .record a.fields

/-- `from_dict`. -/
def fromDict (data : Entries F) : Except String (AgentAssignment F) := do
  let upstreamRequirements ← textsField data "upstream_requirements"
  let priority ← ((PyValue.get data "priority").or (.int 5)).toInt
  let inputContext ← dictField data "input_context"
  let constraints ← dictField data "constraints"
  let dependsOn ← textsField data "depends_on"
  return {
    assignmentId := ((PyValue.get data "assignment_id").or
      ((PyValue.get data "agent_id").or (.str "assignment"))).text
    agentId := textField data "agent_id" ""
    task := textField data "task" ""
    intent := textField data "intent" "general_business_chat"
    originalQuery := ((PyValue.get data "original_query").or
      ((PyValue.get data "raw_query").or (.str ""))).text
    assignmentScope := textField data "assignment_scope" ""
    objective := textField data "objective" ""
    expectedContribution := textField data "expected_contribution" ""
    upstreamRequirements
    priority
    reason := textField data "reason" "planner_match"
    inputContext
    constraints
    requiredOutput := textField data "required_output" defaultOutput
    dependsOn }

/-- The texts that a decoder never leaves empty. -/
structure Decoded : Prop where
  assignmentId : a.assignmentId ≠ ""
  intent : a.intent ≠ ""
  reason : a.reason ≠ ""
  requiredOutput : a.requiredOutput ≠ ""

/-- The assignment with a priority that is not zero. -/
def settle : AgentAssignment F := { a with priority := if a.priority = 0 then 5 else a.priority }

/-- The assignment after its two dictionaries have been written to JSON and read back. -/
def roundTrip : AgentAssignment F :=
  { a with
    inputContext := a.inputContext.roundTrip
    constraints := a.constraints.roundTrip }

variable {a}

lemma settle_of_ne (h : a.priority ≠ 0) : a.settle = a := by
  rw [settle, if_neg h]

lemma priority_settle_ne (a : AgentAssignment F) : a.settle.priority ≠ 0 := by
  simp only [settle]
  split_ifs with h
  · decide
  · exact h

lemma Decoded.settle (h : a.Decoded) : a.settle.Decoded := ⟨h.1, h.2, h.3, h.4⟩

lemma Decoded.roundTrip (h : a.Decoded) : a.roundTrip.Decoded := ⟨h.1, h.2, h.3, h.4⟩

/-- What is decoded has its texts. -/
lemma decoded_fromDict {data : Entries F} (h : fromDict data = .ok a) : a.Decoded := by
  simp only [fromDict, bind_eq_ok] at h
  obtain ⟨upstream, -, priority, -, context, -, constraints, -, deps, -, h⟩ := h
  obtain rfl := Except.ok.inj h
  exact ⟨PyValue.text_or_ne _ (PyValue.text_or_ne _ (by simp)), textField_ne _ _ (by decide),
    textField_ne _ _ (by decide), textField_ne _ _ (by decide)⟩

/-- The dictionary of an assignment is decoded to the assignment, if its priority is not zero. -/
lemma fromDict_fields (h : a.Decoded) :
    fromDict (PyValue.entriesOf a.fields) = .ok a.settle := by
  obtain ⟨hid, hintent, hreason, houtput⟩ := h
  have hpriority : ((PyValue.int a.priority : PyValue F).or (.int 5)).toInt =
      .ok a.settle.priority := by
    rw [PyValue.int_or, settle]
    split_ifs <;> rfl
  simp only [fromDict, textField, textsField, dictField, PyValue.get_entriesOf]
  simp [fields, List.lookup_cons, textValues, PyDict.value, PyValue.iter, PyValue.text_str_or,
    ite_empty, hid, hintent, hreason, houtput, hpriority, Function.comp_def]
  simp only [ok_bind]
  rfl

lemma roundTrip_toDict (a : AgentAssignment F) : a.toDict.roundTrip = a.roundTrip.toDict := by
  rw [toDict, PyValue.roundTrip_record (by simp [fields])]
  simp [toDict, fields, textValues, roundTrip, PyDict.roundTrip_value, Function.comp_def]

end AgentAssignment

/-! ### Plans -/

/-- A plan. -/
structure AgentTaskPlan (F : Type) [PyRuntime F] where
  planId : String
  rawQuery : String
  primaryIntent : String
  profile : String
  assignments : List (AgentAssignment F)
  dependencies : List AgentDependency
  mergeStrategy : String
  requiresClarification : Bool
  clarificationQuestions : List String
  boundary : Bool
  boundaryReason : String
  confidence : F
  expectedOutput : String
  metadata : PyDict F

namespace AgentTaskPlan

variable (p : AgentTaskPlan F)

/-- `sorted(assignments, key=lambda item: item.priority)`. -/
def sortByPriority (assignments : List (AgentAssignment F)) : List (AgentAssignment F) :=
  assignments.insertionSort fun a b => a.priority ≤ b.priority

/-- The assignments in the order of their priorities. -/
def sortedAssignments : List (AgentAssignment F) := sortByPriority p.assignments

/-- `assignment_intents`. -/
def assignmentIntents : List String := p.sortedAssignments.map (·.intent)

/-- `primary_task_type`. -/
def primaryTaskType : String :=
  if p.boundary && !p.requiresClarification then "boundary"
  else if p.requiresClarification then
    ((PyValue.str p.primaryIntent).or ((p.metadata.get "intent").or (.str "clarification"))).text
  else if p.primaryIntent ≠ "" then p.primaryIntent
  else match p.assignmentIntents with
    | intent :: _ => intent
    | [] => if p.profile = "realtime" then "realtime_chat" else "general_business_chat"

/-- `execution_mode`. -/
def executionMode : String :=
  if p.boundary || p.requiresClarification then "boundary"
  else if p.assignments.isEmpty then
    if p.primaryTaskType = "realtime_chat" then "realtime_chat" else "boundary"
  else if p.assignments.any (·.agentId == "network_search") && p.profile != "deep" then "boundary"
  else if p.assignments.any fun a => a.agentId == "data_quality" || a.agentId == "database_query"
  then "data_agent"
  else if 1 < p.assignments.length then "agent_orchestration" else "business_agent"

/-- `fallback_reason`. -/
def fallbackReason : String :=
  ((p.metadata.get "fallback_reason").or
    ((PyValue.str p.boundaryReason).or (.str "agent_assignment_planner"))).text

/-- `risk_level`. -/
def riskLevel : String := ((p.metadata.get "risk_level").or (.str "low")).text

/-- `evaluation_required`. -/
def evaluationRequired : Bool :=
  p.profile == "deep" || 1 < p.assignments.length || ["medium", "high"].contains p.riskLevel

/-- The fields of `to_dict`; those that are computed are taken from the plan `q`. -/
def fieldsOf (q : AgentTaskPlan F) : List (String × PyValue F) :=
  [("plan_id", .str p.planId), ("raw_query", .str p.rawQuery),
    ("primary_intent", .str p.primaryIntent), ("profile", .str p.profile),
    ("assignments", .list (p.assignments.map (·.toDict))),
    ("dependencies", .list (p.dependencies.map (·.toDict))),
    ("merge_strategy", .str p.mergeStrategy),
    ("requires_clarification", .bool p.requiresClarification),
    ("clarification_questions", textValues p.clarificationQuestions),
    ("boundary", .bool p.boundary), ("boundary_reason", .str p.boundaryReason),
    ("confidence", .float p.confidence), ("expected_output", .str p.expectedOutput),
    ("metadata", p.metadata.value), ("primary_task_type", .str q.primaryTaskType),
    ("assignment_intents", textValues q.assignmentIntents),
    ("execution_mode", .str q.executionMode)]

/-- `to_dict`. -/
def toDict : PyValue F := .record (p.fieldsOf p)

/-- The dictionaries among the elements of `data.get(name) or []`. -/
def dictsField (data : Entries F) (name : String) : Except String (List (Entries F)) := do
  return (← ((PyValue.get data name).or (.list [])).iter).filterMap PyValue.dict?

/-- `from_dict`. -/
def fromDict (data : Entries F) : Except String (AgentTaskPlan F) := do
  let assignments ← (← dictsField data "assignments").mapM AgentAssignment.fromDict
  let dependencies ← dictsField data "dependencies"
  let clarificationQuestions ← textsField data "clarification_questions"
  let confidence ← ((PyValue.get data "confidence").or
    (.float (PyRuntime.hundredths 70))).toFloat
  let metadata ← dictField data "metadata"
  return {
    planId := textField data "plan_id" ""
    rawQuery := textField data "raw_query" ""
    primaryIntent := ((PyValue.get data "primary_intent").or
      ((PyValue.get data "primary_task_type").or (.str ""))).text
    profile := textField data "profile" "standard"
    assignments
    dependencies := dependencies.map AgentDependency.fromDict
    mergeStrategy := textField data "merge_strategy" "business_recommendation"
    requiresClarification := (PyValue.get data "requires_clarification").truthy
    clarificationQuestions
    boundary := (PyValue.get data "boundary").truthy
    boundaryReason := textField data "boundary_reason" ""
    confidence
    expectedOutput := textField data "expected_output" defaultOutput
    metadata }

/-! ### Decoding what was encoded -/

/-- The texts that a decoder never leaves empty. -/
structure Decoded : Prop where
  profile : p.profile ≠ ""
  mergeStrategy : p.mergeStrategy ≠ ""
  expectedOutput : p.expectedOutput ≠ ""
  assignments : ∀ a ∈ p.assignments, a.Decoded
  dependencies : ∀ d ∈ p.dependencies, d.type ≠ ""

/-- The plan as the next decoder reads it, with the primary task type of `q`. -/
def settle (q : AgentTaskPlan F) : AgentTaskPlan F :=
  { p with
    primaryIntent := if p.primaryIntent = "" then q.primaryTaskType else p.primaryIntent
    assignments := p.assignments.map (·.settle)
    confidence := if PyRuntime.isZero p.confidence then PyRuntime.hundredths 70 else p.confidence }

/-- The plan after its dictionaries have been written to JSON and read back. -/
def roundTrip : AgentTaskPlan F :=
  { p with
    assignments := p.assignments.map (·.roundTrip)
    metadata := p.metadata.roundTrip }

variable {p}

/-- What is decoded has its texts. -/
lemma decoded_fromDict {data : Entries F} (h : fromDict data = .ok p) : p.Decoded := by
  simp only [fromDict, bind_eq_ok] at h
  obtain ⟨dicts, -, assignments, hassignments, edges, -, questions, -, confidence, -, metadata, -,
    h⟩ := h
  obtain rfl := Except.ok.inj h
  refine ⟨textField_ne _ _ (by decide), textField_ne _ _ (by decide), textField_ne _ _ (by decide),
    fun a ha => ?_, fun d hd => ?_⟩
  · obtain ⟨data, -, hdata⟩ := exists_of_mem_mapM hassignments ha
    exact AgentAssignment.decoded_fromDict hdata
  · obtain ⟨data, -, rfl⟩ := List.mem_map.1 hd
    exact AgentDependency.type_fromDict_ne data

/-- Its metadata come from the document. -/
lemma loaded_fromDict {data : Entries F} (hdata : PyValue.LoadedEntries data)
    (h : fromDict data = .ok p) : p.metadata.Loaded := by
  simp only [fromDict, bind_eq_ok] at h
  obtain ⟨_, -, _, -, _, -, _, -, _, -, metadata, hmetadata, h⟩ := h
  obtain rfl := Except.ok.inj h
  exact PyDict.loaded_ofValue ((hdata.get _).or ⟨.obj [], rfl⟩) hmetadata

/-- The dictionary of a plan is decoded to the settled plan. -/
lemma fromDict_fieldsOf (h : p.Decoded) (q : AgentTaskPlan F) :
    fromDict (PyValue.entriesOf (p.fieldsOf q)) = .ok (p.settle q) := by
  obtain ⟨hprofile, hstrategy, houtput, hassignments, hdependencies⟩ := h
  have hdicts : p.assignments.filterMap (fun a => a.toDict.dict?) =
      p.assignments.map fun a => PyValue.entriesOf a.fields :=
    congrFun List.filterMap_eq_map p.assignments
  have hdecoded : (p.assignments.map fun a => PyValue.entriesOf a.fields).mapM
      AgentAssignment.fromDict = .ok (p.assignments.map (·.settle)) := by
    rw [List.mapM_map]
    exact mapM_ok fun a ha => AgentAssignment.fromDict_fields (hassignments a ha)
  have hedges : (p.dependencies.filterMap fun d => (d.toDict : PyValue F).dict?).map
      AgentDependency.fromDict = p.dependencies := by
    rw [List.map_filterMap]
    refine (List.filterMap_congr fun d hd => ?_).trans List.filterMap_some
    exact congrArg some (AgentDependency.fromDict_fields (hdependencies d hd))
  have hconfidence : ((PyValue.float p.confidence).or
      (.float (PyRuntime.hundredths 70))).toFloat = .ok (p.settle q).confidence := by
    rw [PyValue.float_or, settle]
    split_ifs <;> rfl
  simp only [fromDict, textField, textsField, dictField, dictsField, PyValue.get_entriesOf]
  simp [fieldsOf, List.lookup_cons, textValues, PyDict.value, PyValue.iter, PyValue.text_str_or,
    ite_empty, hprofile, hstrategy, houtput, hconfidence, hdicts, Function.comp_def]
  simp only [ok_bind, hdecoded, hedges]
  rfl

/-! ### The way through the queue -/

/-- A plan that every decoder leaves alone. -/
structure Settled (p : AgentTaskPlan F) : Prop extends p.Decoded where
  primaryIntent : p.primaryIntent ≠ ""
  priority : ∀ a ∈ p.assignments, a.priority ≠ 0
  confidence : PyRuntime.isZero p.confidence = false
  metadata : p.metadata.Loaded

lemma Settled.settle_eq (h : p.Settled) (q : AgentTaskPlan F) : p.settle q = p := by
  have hassignments : p.assignments.map (·.settle) = p.assignments := by
    refine (List.map_congr_left fun a ha => ?_).trans (List.map_id _)
    exact AgentAssignment.settle_of_ne (h.priority a ha)
  rw [settle, if_neg h.primaryIntent, hassignments, h.confidence]
  rfl

/-- The settled plan is settled, if its primary intent has a name. -/
lemma Decoded.settled (h : p.Decoded) (hintent : p.primaryIntent ≠ "")
    (hmetadata : p.metadata.Loaded) (q : AgentTaskPlan F) : (p.settle q).Settled where
  profile := h.profile
  mergeStrategy := h.mergeStrategy
  expectedOutput := h.expectedOutput
  assignments a ha := by
    obtain ⟨b, hb, rfl⟩ := List.mem_map.1 ha
    exact (h.assignments b hb).settle
  dependencies := h.dependencies
  primaryIntent := by
    simp only [settle]
    rwa [if_neg hintent]
  priority a ha := by
    obtain ⟨b, -, rfl⟩ := List.mem_map.1 ha
    exact b.priority_settle_ne
  confidence := by
    simp only [settle]
    split_ifs with hzero
    · exact PyRuntime.hundredths_ne 70 (by decide)
    · simpa using hzero
  metadata := hmetadata

variable (p) in
/-- The order by priority is kept. -/
lemma sortedAssignments_roundTrip :
    p.roundTrip.sortedAssignments = p.sortedAssignments.map (·.roundTrip) := by
  exact (List.map_insertionSort (fun a b : AgentAssignment F => a.priority ≤ b.priority)
    (fun a b => a.priority ≤ b.priority) AgentAssignment.roundTrip p.assignments
    fun _ _ _ _ => Iff.rfl).symm

variable (p) in
lemma assignmentIntents_roundTrip : p.roundTrip.assignmentIntents = p.assignmentIntents := by
  rw [assignmentIntents, sortedAssignments_roundTrip, List.map_map]
  rfl

variable (hp : p.metadata.Loaded)
include hp

lemma primaryTaskType_roundTrip : p.roundTrip.primaryTaskType = p.primaryTaskType := by
  have hintent : p.roundTrip.metadata.get "intent" = p.metadata.get "intent" :=
    hp.get_roundTrip (by decide +kernel)
  rw [primaryTaskType, hintent, assignmentIntents_roundTrip]
  rfl

lemma executionMode_roundTrip : p.roundTrip.executionMode = p.executionMode := by
  have hany : ∀ f : AgentAssignment F → Bool, (∀ a, f a.roundTrip = f a) →
      p.roundTrip.assignments.any f = p.assignments.any f := by
    intro f hf
    rw [roundTrip, List.any_map]
    exact congrArg (p.assignments.any ·) (funext hf)
  have hempty : p.roundTrip.assignments.isEmpty = p.assignments.isEmpty := by
    simp [roundTrip]
  have hlength : p.roundTrip.assignments.length = p.assignments.length := by
    simp [roundTrip]
  rw [executionMode, primaryTaskType_roundTrip hp, hany _ fun _ => rfl, hany _ fun _ => rfl,
    hempty, hlength]
  rfl

lemma evaluationRequired_roundTrip : p.roundTrip.evaluationRequired = p.evaluationRequired := by
  have hrisk : p.roundTrip.riskLevel = p.riskLevel := by
    have hget : p.roundTrip.metadata.get "risk_level" = p.metadata.get "risk_level" :=
      hp.get_roundTrip (by decide +kernel)
    rw [riskLevel, hget, riskLevel]
  have hlength : p.roundTrip.assignments.length = p.assignments.length := by
    simp [roundTrip]
  rw [evaluationRequired, hrisk, hlength]
  rfl

/-- The dictionary of a plan is written and read as that of the plan. -/
lemma roundTrip_toDict : p.toDict.roundTrip = p.roundTrip.toDict := by
  have hassignments : p.assignments.map (fun a => a.toDict.roundTrip) =
      p.roundTrip.assignments.map (·.toDict) := by
    rw [roundTrip, List.map_map]
    exact List.map_congr_left fun a _ => a.roundTrip_toDict
  have hdependencies : (p.dependencies.map fun d => (d.toDict : PyValue F).roundTrip) =
      p.dependencies.map (·.toDict) :=
    List.map_congr_left fun d _ => d.roundTrip_toDict
  rw [toDict, PyValue.roundTrip_record (by simp [fieldsOf]), toDict]
  refine congrArg PyValue.record ?_
  simp only [fieldsOf, primaryTaskType_roundTrip hp, executionMode_roundTrip hp,
    assignmentIntents_roundTrip]
  simp [textValues, hassignments, hdependencies, PyDict.roundTrip_value, Function.comp_def]
  simp [roundTrip]

end AgentTaskPlan

end EcommerceAgent.Planning
