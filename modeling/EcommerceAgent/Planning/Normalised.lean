/-
# Two spellings of a query

Queries that differ in case, blanks and underscores are the same text to `_normalize`, and the
agents, intents, edges and answers of `PlannerAgent.plan` depend on that text alone.  The
constraints and the output format are searched for in the query as it was typed, so they can
differ; `plan_sameFor_iff` says when they do.
-/
import EcommerceAgent.Planning.RuleBased

open EcommerceAgent.Lib EcommerceAgent.Runtime

namespace EcommerceAgent.Planning

variable {F : Type} [PyRuntime F]

/-! ### What plans are compared by -/

/-- The parts of two plans that decide what is run and how the answer looks. -/
structure SameFor (p p' : AgentTaskPlan F) : Prop where
  boundary : p.boundary = p'.boundary
  boundaryReason : p.boundaryReason = p'.boundaryReason
  requiresClarification : p.requiresClarification = p'.requiresClarification
  primaryIntent : p.primaryIntent = p'.primaryIntent
  agents : p.assignments.map (·.agentId) = p'.assignments.map (·.agentId)
  intents : p.assignments.map (·.intent) = p'.assignments.map (·.intent)
  priorities : p.assignments.map (·.priority) = p'.assignments.map (·.priority)
  constraints : p.assignments.map (·.constraints) = p'.assignments.map (·.constraints)
  dependencies : p.dependencies = p'.dependencies
  mergeStrategy : p.mergeStrategy = p'.mergeStrategy
  outputFormat : p.metadata.get "output_format" = p'.metadata.get "output_format"

/-- Both calls return a plan, and the plans are the same in these parts. -/
def SamePlans (r r' : Except String (AgentTaskPlan F)) : Prop :=
  ∃ p p', r = .ok p ∧ r' = .ok p' ∧ SameFor p p'

variable (F) in
/-- The range of time that a query mentions, as its hint words it: a number of days in the
lower-cased query, or else the first group of words with one that the query contains. -/
def mentionedRange (query : String) : Option String :=
  match searchDays F (PyRuntime.lower F query).toList with
  | some days => some ("最近 " ++ String.ofList days ++ " 天")
  | none =>
    if hasAny query ["今天", "今日", "today"] then some "今天"
    else if hasAny query ["昨天", "昨日", "yesterday"] then some "昨天"
    else if hasAny query ["本周", "周报"] then some "本周"
    else if hasAny query ["这个月", "本月", "月报"] then some "本月"
    else none

/-- The query asks for a table. -/
def asksForTable (query : String) : Bool := hasAny query ["表格", "excel", "csv"]

variable (F) in
/-- As they are typed, the queries mention the same range of time, and both or neither ask for a
table. -/
def SameMentions (query query' : String) : Prop :=
  mentionedRange F query = mentionedRange F query' ∧ asksForTable query = asksForTable query'

variable (F) in
/-- The query gets as far as assignments. -/
def IsAssigned (query : String) (profile : Profile) : Prop :=
  isOutOfScope (normalize F query) = false ∧
    needsCampaignClarification (normalize F query) (matchQuery F query) = false ∧
    ¬(selectCapabilities F (matchQuery F query) query = [] ∧ profile = .realtime) ∧
    usableCapabilities F query profile ≠ []

/-! ### The constraints of a query -/

/-- The hint for a range. -/
def hintFor : Option String → PyDict F
  | some range => PyDict.empty.set "scope_hint" (scopeHint range)
  | none => PyDict.empty

/-- The constraints for a range and a table. -/
def constraintsFor (range : Option String) (table : Bool) : PyDict F :=
  if table then (hintFor range).set "format" (.str "table") else hintFor range

/-- The hint is overwritten in place. -/
lemma set_scopeHint (v w : PyValue F) :
    ((PyDict.empty : PyDict F).set "scope_hint" v).set "scope_hint" w =
      PyDict.empty.set "scope_hint" w := by
  simp [PyDict.set, PyDict.empty, PyValue.insert, PyKey.same]

lemma extractConstraints_eq (query : String) :
    extractConstraints F query = constraintsFor (mentionedRange F query) (asksForTable query) := by
  rw [extractConstraints, constraintsFor, mentionedRange, asksForTable]
  cases searchDays F (PyRuntime.lower F query).toList with
  | none =>
    dsimp only
    split_ifs <;> rfl
  | some days =>
    -- whatever the words say, the number of days replaces it
    dsimp only [hintFor]
    split_ifs <;> first | rw [set_scopeHint] | rfl

omit [PyRuntime F] in
lemma scopeHint_inj {range range' : String}
    (h : (scopeHint range : PyValue F) = scopeHint range') : range = range' := by
  have htext := congrArg String.toList (PyValue.str.inj h)
  simp only [String.toList_append] at htext
  have hfront := List.append_cancel_right htext
  exact String.toList_inj.mp (List.append_cancel_left hfront)

lemma get_empty (name : String) : (PyDict.empty : PyDict F).get name = .none := rfl

/-- The constraints show the range and the table. -/
lemma constraintsFor_inj {range range' : Option String} {table table' : Bool}
    (h : (constraintsFor range table : PyDict F) = constraintsFor range' table') :
    range = range' ∧ table = table' := by
  have hget : ∀ range table, (constraintsFor range table : PyDict F).get "scope_hint" =
      (range.map scopeHint).getD .none ∧
      (constraintsFor range table : PyDict F).get "format" =
        if table then .str "table" else .none := by
    intro range table
    cases range <;> cases table <;>
      simp [constraintsFor, hintFor, PyDict.get_set, get_empty]
  have hhint := congrArg (fun d : PyDict F => d.get "scope_hint") h
  have htable := congrArg (fun d : PyDict F => d.get "format") h
  rw [(hget range table).1, (hget range' table').1] at hhint
  rw [(hget range table).2, (hget range' table').2] at htable
  constructor
  · cases range <;> cases range'
    · rfl
    · cases hhint
    · cases hhint
    · exact congrArg some (scopeHint_inj hhint)
  · cases table <;> cases table'
    · rfl
    · cases htable
    · cases htable
    · rfl

/-- The constraints agree when the mentions do. -/
lemma extractConstraints_eq_iff (query query' : String) :
    extractConstraints F query = extractConstraints F query' ↔ SameMentions F query query' := by
  rw [extractConstraints_eq, extractConstraints_eq]
  refine ⟨constraintsFor_inj, ?_⟩
  rintro ⟨hrange, htable⟩
  rw [hrange, htable]

/-! ### What depends on the normalised query only -/

section Congruence

variable {query query' : String} (hnormalize : normalize F query = normalize F query')

include hnormalize

lemma CapabilityRegistry.matchQuery_congr (registry : CapabilityRegistry) :
    registry.matchQuery F query = registry.matchQuery F query' := by
  rw [matchQuery, hnormalize, matchQuery]

lemma selectCapabilities_congr (found : List CapabilityMatch) :
    selectCapabilities F found query = selectCapabilities F found query' := by
  rw [selectCapabilities, hnormalize, selectCapabilities]

lemma CapabilityRegistry.usableCapabilities_congr (registry : CapabilityRegistry)
    (profile : Profile) :
    registry.usableCapabilities F query profile = registry.usableCapabilities F query' profile := by
  rw [usableCapabilities, matchQuery_congr hnormalize, selectCapabilities_congr hnormalize,
    usableCapabilities]

lemma asksForIndependentViews_congr :
    asksForIndependentViews F query = asksForIndependentViews F query' := by
  rw [asksForIndependentViews, hnormalize, asksForIndependentViews]

lemma isAssigned_congr (profile : Profile) :
    IsAssigned F query profile ↔ IsAssigned F query' profile := by
  simp only [IsAssigned, matchQuery, usableCapabilities]
  rw [hnormalize, defaultRegistry.matchQuery_congr hnormalize, selectCapabilities_congr hnormalize,
    defaultRegistry.usableCapabilities_congr hnormalize]

end Congruence

/-! ### The edges -/

section Edges

variable {ι : Type*} {l : List ι} {f g : ι → AgentAssignment F}
  (hid : ∀ i, (f i).assignmentId = (g i).assignmentId) (hagent : ∀ i, (f i).agentId = (g i).agentId)

include hid hagent

lemma firstOf_congr (agentId : String) : firstOf (l.map f) agentId = firstOf (l.map g) agentId := by
  have hpred : (fun i => (f i).agentId == agentId) = fun i => (g i).agentId == agentId :=
    funext fun i => by rw [hagent]
  simp only [firstOf, List.find?_map, Option.map_map, Function.comp_def, hpred, hid]

omit hagent in
lemma edgesFrom_congr (source type : String) {toward toward' : AgentAssignment F → Bool}
    (htoward : ∀ i, toward (f i) = toward' (g i)) :
    edgesFrom source (l.map f) toward type = edgesFrom source (l.map g) toward' type := by
  simp only [edgesFrom, List.filter_map, List.map_map, Function.comp_def, htoward, hid]

/-- The edges see nothing of the assignments but their ids and agents. -/
lemma assignmentDependencies_congr {query query' : String}
    (hnormalize : normalize F query = normalize F query') :
    assignmentDependencies (l.map f) query = assignmentDependencies (l.map g) query' := by
  have hfirst := fun agentId => firstOf_congr (l := l) hid hagent agentId
  have hreport : (l.map f).any (·.agentId == "report") = (l.map g).any (·.agentId == "report") := by
    simp only [List.any_map, Function.comp_def, hagent]
  have hlast : ∀ report : String,
      (((l.map f).filter (·.assignmentId != report)).map fun a =>
        (⟨a.assignmentId, report, "optional_context"⟩ : AgentDependency)) =
      ((l.map g).filter (·.assignmentId != report)).map fun a =>
        ⟨a.assignmentId, report, "optional_context"⟩ := by
    intro report
    simp only [List.filter_map, List.map_map, Function.comp_def, hid]
  simp only [assignmentDependencies, asksForIndependentViews_congr hnormalize, hfirst, hreport,
    hlast, List.length_map]
  congr 4
  · refine congrArg₂ (· ++ ·) (edgesFrom_congr hid _ _ fun i => ?_)
      (edgesFrom_congr hid _ _ fun i => ?_)
    · rw [hagent]
    · rw [hagent]
  · refine congrArg (fun edges => List.flatMap edges _) (funext fun upstream => ?_)
    exact edgesFrom_congr hid _ _ fun i => by rw [hid]

end Edges

/-! ### The plans -/

lemma makeMergeStrategy_congr {assignments assignments' : List (AgentAssignment F)}
    (h : assignments.map (·.agentId) = assignments'.map (·.agentId)) :
    makeMergeStrategy assignments = makeMergeStrategy assignments' := by
  have hany : ∀ agentId : String, assignments.any (·.agentId == agentId) =
      assignments'.any (·.agentId == agentId) := by
    intro agentId
    have hmap := congrArg (fun l : List String => l.any (· == agentId)) h
    simpa only [List.any_map, Function.comp_def] using hmap
  have hlength : assignments.length = assignments'.length := by
    simpa using congrArg List.length h
  simp only [makeMergeStrategy, hany, hlength]

/-- A name of a dictionary display. -/
lemma get_ofFields {fields : List (String × PyValue F)} (h : (fields.map Prod.fst).Nodup)
    (name : String) : (PyDict.ofEntries (PyValue.entriesOf fields)).get name =
      (fields.lookup name).getD .none := by
  have hentries : PyValue.insertAll [] (PyValue.entriesOf fields) = PyValue.entriesOf fields :=
    PyValue.insertAll_of_nodup (PyValue.pairwise_record h)
  have hget : (PyDict.ofEntries (PyValue.entriesOf fields)).get name =
      PyValue.get (PyValue.insertAll [] (PyValue.entriesOf fields)) name := rfl
  rw [hget, hentries, PyValue.get_entriesOf]

section Drafts

variable (selected : List Capability) (query query' : String) (context : PyDict F)
  (profile : Profile) (fallbackReason : String)

/-- A field that is not made of the query is the same for both spellings. -/
lemma map_drafts_congr {α : Type*} (f : AgentAssignment F → α)
    (hf : ∀ index capability,
      f (assignmentForCapability query context (extractConstraints F query) index capability) =
        f (assignmentForCapability query' context (extractConstraints F query') index
          capability)) :
    (drafts selected query context).map f = (drafts selected query' context).map f := by
  rw [drafts, drafts, assignmentsFor, assignmentsFor, List.map_map, List.map_map]
  exact List.map_congr_left fun e _ => hf e.2 e.1

lemma draftEdges_congr (hnormalize : normalize F query = normalize F query') :
    draftEdges selected query context = draftEdges selected query' context := by
  rw [draftEdges, draftEdges, drafts, drafts, assignmentsFor, assignmentsFor]
  refine assignmentDependencies_congr ?_ ?_ hnormalize
  · exact fun _ => by rw [assignmentForCapability, assignmentForCapability]
  · exact fun _ => by rw [assignmentForCapability, assignmentForCapability]

lemma map_agentId_draftPlan :
    (draftPlan selected query context profile fallbackReason).assignments.map (·.agentId) =
      (drafts selected query context).map (·.agentId) :=
  map_draftPlan query context profile fallbackReason (·.agentId) fun _ _ => rfl

lemma map_intent_draftPlan :
    (draftPlan selected query context profile fallbackReason).assignments.map (·.intent) =
      (drafts selected query context).map (·.intent) :=
  map_draftPlan query context profile fallbackReason (·.intent) fun _ _ => rfl

lemma map_constraints_draftPlan :
    (draftPlan selected query context profile fallbackReason).assignments.map (·.constraints) =
      (drafts selected query context).map (·.constraints) :=
  map_draftPlan query context profile fallbackReason (·.constraints) fun _ _ => rfl

lemma map_priority_draftPlan :
    (draftPlan selected query context profile fallbackReason).assignments.map (·.priority) =
      (drafts selected query context).map (·.priority) := by
  refine map_draftPlan query context profile fallbackReason (·.priority) fun a ha => ?_
  obtain ⟨c, -, i, hi, rfl⟩ := mem_assignmentsFor ha
  have hpriority : (i : ℤ) ≠ 0 := by omega
  exact if_neg hpriority

lemma map_constraints_drafts : (drafts selected query context).map (·.constraints) =
    List.replicate (dedupeCapabilitiesByAgent selected).length (extractConstraints F query) := by
  rw [drafts, assignmentsFor, List.map_map, List.eq_replicate_iff]
  refine ⟨by rw [List.length_map, List.length_zipIdx], fun b hb => ?_⟩
  obtain ⟨e, -, rfl⟩ := List.mem_map.mp hb
  rfl

lemma boundary_draftPlan :
    (draftPlan selected query context profile fallbackReason).boundary = false ∧
      (draftPlan selected query context profile fallbackReason).boundaryReason = "" ∧
      (draftPlan selected query context profile fallbackReason).requiresClarification = false :=
  ⟨rfl, rfl, rfl⟩

lemma primaryIntent_draftPlan :
    (draftPlan selected query context profile fallbackReason).primaryIntent =
      ((dedupeCapabilitiesByAgent selected).head?.map (·.intent)).getD "general_business_chat" :=
  rfl

lemma mergeStrategy_draftPlan :
    (draftPlan selected query context profile fallbackReason).mergeStrategy =
      makeMergeStrategy (draftPlan selected query context profile fallbackReason).assignments := by
  rw [draftPlan, selectedPlan]

lemma outputFormat_draftPlan :
    (draftPlan selected query context profile fallbackReason).metadata.get "output_format" =
      .str (extractOutputFormat query) := by
  rw [draftPlan, selectedPlan, get_ofFields (by simp)]
  rfl

end Drafts

section Plans

variable {query query' : String} (hnormalize : normalize F query = normalize F query')
  (profile : Profile) (context : PyDict F) (fallbackReason : String)

include hnormalize

/-- The plan for selected capabilities differs in its constraints and its format only. -/
lemma sameFor_draftPlan_iff {selected : List Capability} (hne : selected ≠ []) :
    SameFor (draftPlan selected query context profile fallbackReason)
        (draftPlan selected query' context profile fallbackReason) ↔
      SameMentions F query query' := by
  rw [← extractConstraints_eq_iff]
  constructor
  · intro h
    have hconstraints := h.constraints
    rw [map_constraints_draftPlan, map_constraints_draftPlan, map_constraints_drafts,
      map_constraints_drafts] at hconstraints
    -- there is at least one assignment to read the constraints from
    have hlength : (dedupeCapabilitiesByAgent selected).length ≠ 0 := by
      intro hzero
      exact hne ((dedupeCapabilitiesByAgent_spec selected).2.2 (List.length_eq_zero_iff.mp hzero))
    exact (List.replicate_right_inj hlength).mp hconstraints
  · intro hconstraints
    have htable : asksForTable query = asksForTable query' :=
      ((extractConstraints_eq_iff query query').mp hconstraints).2
    have hagents : (draftPlan selected query context profile fallbackReason).assignments.map
        (·.agentId) = (draftPlan selected query' context profile fallbackReason).assignments.map
        (·.agentId) := by
      rw [map_agentId_draftPlan, map_agentId_draftPlan]
      exact map_drafts_congr selected query query' context _ fun _ _ => rfl
    refine
      { boundary := ?_
        boundaryReason := ?_
        requiresClarification := ?_
        primaryIntent := ?_
        agents := hagents
        intents := ?_
        priorities := ?_
        constraints := ?_
        dependencies := ?_
        mergeStrategy := ?_
        outputFormat := ?_ }
    · rw [(boundary_draftPlan ..).1, (boundary_draftPlan ..).1]
    · rw [(boundary_draftPlan ..).2.1, (boundary_draftPlan ..).2.1]
    · rw [(boundary_draftPlan ..).2.2, (boundary_draftPlan ..).2.2]
    · rw [primaryIntent_draftPlan, primaryIntent_draftPlan]
    · rw [map_intent_draftPlan, map_intent_draftPlan]
      exact map_drafts_congr selected query query' context _ fun _ _ => rfl
    · rw [map_priority_draftPlan, map_priority_draftPlan]
      exact map_drafts_congr selected query query' context _ fun _ _ => rfl
    · rw [map_constraints_draftPlan, map_constraints_draftPlan, map_constraints_drafts,
        map_constraints_drafts, hconstraints]
    · rw [dependencies_draftPlan, dependencies_draftPlan]
      exact draftEdges_congr selected query query' context hnormalize
    · rw [mergeStrategy_draftPlan, mergeStrategy_draftPlan]
      exact makeMergeStrategy_congr hagents
    · rw [asksForTable, asksForTable] at htable
      rw [outputFormat_draftPlan, outputFormat_draftPlan, extractOutputFormat,
        extractOutputFormat, htable]

omit hnormalize in
/-- The plan of a query that gets as far as assignments. -/
lemma plan_of_isAssigned (h : IsAssigned F query profile) :
    plan query profile context fallbackReason =
      .ok (draftPlan (usableCapabilities F query profile) query context profile
        fallbackReason) := by
  obtain ⟨hscope, hclarify, hchat, hne⟩ := h
  simp only [matchQuery] at hclarify hchat
  rw [plan, fallbackPlan, CapabilityRegistry.fallbackPlan, hscope, hclarify,
    if_neg Bool.false_ne_true, if_neg Bool.false_ne_true, if_neg hchat]
  refine (if_neg hne).trans ?_
  exact capabilityPlan_eq (usableCapabilities_subset F query profile).1 ..

/-- The plans for two spellings of a query are the same in what decides the run and the form of
the answer, exactly when there are no assignments or both spellings mention the same. -/
theorem plan_sameFor_iff :
    SamePlans (plan query profile context fallbackReason)
        (plan query' profile context fallbackReason) ↔
      (IsAssigned F query profile → SameMentions F query query') := by
  by_cases hassigned : IsAssigned F query profile
  · have hassigned' := (isAssigned_congr hnormalize profile).mp hassigned
    have hplan := plan_of_isAssigned profile context fallbackReason hassigned
    have hplan' := plan_of_isAssigned profile context fallbackReason hassigned'
    have husable : usableCapabilities F query' profile = usableCapabilities F query profile :=
      (defaultRegistry.usableCapabilities_congr hnormalize profile).symm
    rw [husable] at hplan'
    rw [hplan, hplan',
      ← sameFor_draftPlan_iff hnormalize profile context fallbackReason hassigned.2.2.2]
    constructor
    · rintro ⟨p, p', hp, hp', h⟩ -
      obtain rfl := Except.ok.inj hp
      obtain rfl := Except.ok.inj hp'
      exact h
    · intro h
      exact ⟨_, _, rfl, rfl, h hassigned⟩
  · refine iff_of_true ?_ fun h => absurd h hassigned
    have hempty : ∀ {p p' : AgentTaskPlan F}, p.boundary = p'.boundary →
        p.boundaryReason = p'.boundaryReason → p.requiresClarification = p'.requiresClarification →
        p.primaryIntent = p'.primaryIntent → p.mergeStrategy = p'.mergeStrategy →
        p.assignments = [] → p'.assignments = [] → p.dependencies = [] → p'.dependencies = [] →
        p.metadata.get "output_format" = p'.metadata.get "output_format" → SameFor p p' := by
      intro p p' h1 h2 h3 h4 h5 h6 h7 h8 h9 h10
      refine ⟨h1, h2, h3, h4, ?_, ?_, ?_, ?_, h8.trans h9.symm, h5, h10⟩ <;> rw [h6, h7]
    have hboundary : ∀ reason, SameFor (boundaryPlan query profile reason : AgentTaskPlan F)
        (boundaryPlan query' profile reason) := fun reason =>
      hempty rfl rfl rfl rfl rfl rfl rfl rfl rfl (by
        rw [boundaryPlan, boundaryPlan, hnormalize])
    simp only [plan, fallbackPlan, CapabilityRegistry.fallbackPlan]
    rw [← hnormalize, ← defaultRegistry.matchQuery_congr hnormalize,
      ← selectCapabilities_congr hnormalize, ← defaultRegistry.usableCapabilities_congr hnormalize]
    split_ifs with hscope hclarify hchat hne
    · exact ⟨_, _, rfl, rfl, hboundary _⟩
    · refine ⟨_, _, rfl, rfl, hempty rfl rfl rfl rfl rfl rfl rfl rfl rfl ?_⟩
      rw [clarificationPlan, clarificationPlan, get_ofFields (by simp), get_ofFields (by simp)]
      rfl
    · refine ⟨_, _, rfl, rfl, hempty rfl rfl rfl rfl rfl rfl rfl rfl rfl ?_⟩
      rw [realtimeChatPlan, realtimeChatPlan, hnormalize]
    · exact ⟨_, _, rfl, rfl, hboundary _⟩
    · exact absurd ⟨Bool.eq_false_iff.mpr hscope, Bool.eq_false_iff.mpr hclarify, hchat, hne⟩
        hassigned

end Plans

/-- Whatever was found, a query that is clear with everything found is clear. -/
lemma needsCampaignClarification_of_all {normalized : String} (found : List CapabilityMatch)
    (h : needsCampaignClarification normalized (capabilities.map (⟨·, 0⟩)) = false) :
    needsCampaignClarification normalized found = false := by
  have hcampaign : (capabilities.map fun c => (⟨c, 0⟩ : CapabilityMatch)).any
      (·.capability.capabilityId == "campaign_review") = true := by
    decide
  simp only [needsCampaignClarification, hcampaign, Bool.true_and] at h
  simp only [needsCampaignClarification, Bool.and_assoc, h, Bool.and_false]

/-- In the standard profile, a query in scope that is clear gets assignments. -/
lemma isAssigned_standard {query : String} (hscope : isOutOfScope (normalize F query) = false)
    (hclear : needsCampaignClarification (normalize F query) (capabilities.map (⟨·, 0⟩)) = false) :
    IsAssigned F query .standard := by
  refine ⟨hscope, needsCampaignClarification_of_all _ hclear, (fun h => nomatch h.2), ?_⟩
  have hdaily : ((capabilityById "daily_report").or capabilities.head?).toList ≠ [] := by decide
  rw [usableCapabilities, CapabilityRegistry.usableCapabilities, if_neg (by decide)]
  split_ifs with hfound
  · exact hdaily
  · exact hfound

/-- A capital letter changes nothing where no table is asked for. -/
theorem plan_sameFor_capital :
    SamePlans (plan "库存 SKU 预警" .standard (.empty : PyDict ℤ) "")
      (plan "库存sku预警" .standard .empty "") := by
  have hnormalize : normalize ℤ "库存 SKU 预警" = normalize ℤ "库存sku预警" := by decide +kernel
  refine (plan_sameFor_iff hnormalize .standard .empty "").mpr fun _ => ?_
  unfold SameMentions
  decide +kernel

/-- A table that is asked for in capitals is not seen. -/
theorem not_samePlans_excel :
    normalize ℤ "库存 excel" = normalize ℤ "库存 EXCEL" ∧
      ¬SamePlans (plan "库存 excel" .standard (.empty : PyDict ℤ) "")
        (plan "库存 EXCEL" .standard .empty "") := by
  have hnormalize : normalize ℤ "库存 excel" = normalize ℤ "库存 EXCEL" := by decide +kernel
  have hassigned : IsAssigned ℤ "库存 excel" .standard :=
    isAssigned_standard (by decide +kernel) (by decide +kernel)
  have hassigned' := (isAssigned_congr hnormalize .standard).mp hassigned
  refine ⟨hnormalize, ?_⟩
  rw [plan_of_isAssigned .standard .empty "" hassigned,
    plan_of_isAssigned .standard .empty "" hassigned']
  rintro ⟨p, p', hp, hp', h⟩
  have hformat := h.outputFormat
  rw [← Except.ok.inj hp, ← Except.ok.inj hp', outputFormat_draftPlan, outputFormat_draftPlan]
    at hformat
  have htext : extractOutputFormat "库存 excel" = extractOutputFormat "库存 EXCEL" :=
    PyValue.str.inj hformat
  revert htext
  decide +kernel

end EcommerceAgent.Planning
