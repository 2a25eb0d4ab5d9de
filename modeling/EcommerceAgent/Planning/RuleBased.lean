/-
# The rule-based plan

`PlannerAgent.plan` for any registry of built-in capabilities: whatever the query selects, in
whatever order, the plan has no assignments, or one to four of them that can be executed in the
order of their priorities, as long as the query has no lone surrogate (`plan_ruleBased_iff`).  That
the edges have no cycle was shown for the default registry already; here it is read off the edges
themselves.
-/
import EcommerceAgent.Planning.WellFormed
import EcommerceAgent.Lib.Utf8

open EcommerceAgent.Lib EcommerceAgent.Lib.Utf8 EcommerceAgent.Runtime

namespace EcommerceAgent.Planning

variable {F : Type} [PyRuntime F]

/-! ### What a registry selects -/

section

variable (registry : CapabilityRegistry) (query : String) (profile : Profile)

lemma length_selectCapabilities (found : List CapabilityMatch) :
    (selectCapabilities F found query).length ≤ 4 := by
  unfold selectCapabilities
  split_ifs
  · exact Nat.zero_le 4
  all_goals exact List.length_take_le 4 _

lemma length_dedupeCapabilitiesByAgent (selected : List Capability) :
    (dedupeCapabilitiesByAgent selected).length ≤ selected.length := by
  have hloop : ∀ l acc : List Capability,
      (l.foldl addAgent acc).length ≤ acc.length + l.length := by
    intro l
    induction l with
    | nil => exact fun _ => le_rfl
    | cons c l ih =>
      intro acc
      have hstep : (addAgent acc c).length ≤ acc.length + 1 := by
        unfold addAgent
        split_ifs <;> simp
      have := ih (addAgent acc c)
      rw [List.foldl_cons, List.length_cons]
      omega
  have := hloop selected []
  rwa [List.length_nil, Nat.zero_add] at this

variable (F) in
/-- What is selected is built in, supports the profile, and is not too much. -/
lemma CapabilityRegistry.usableCapabilities_spec :
    registry.usableCapabilities F query profile ⊆ Planning.capabilities ∧
      (∀ c ∈ registry.usableCapabilities F query profile, profile ∈ c.supportedProfiles) ∧
      (registry.usableCapabilities F query profile).length ≤ 4 := by
  obtain ⟨hsub, hrealtime⟩ := registry.usableCapabilities_subset F query profile
  refine ⟨hsub, fun c hc => ?_, ?_⟩
  · by_cases hprofile : profile = .realtime
    · rw [hprofile]
      exact hrealtime hprofile c hc
    · exact supportedProfiles_mem (hsub hc) hprofile
  · -- before the profile counts
    have hchosen : (if selectCapabilities F (registry.matchQuery F query) query = [] then
        ((registry.get "daily_report").or registry.capabilities.head?).toList
        else selectCapabilities F (registry.matchQuery F query) query).length ≤ 4 := by
      split_ifs
      · cases (registry.get "daily_report").or registry.capabilities.head? <;> simp
      · exact length_selectCapabilities query _
    simp only [CapabilityRegistry.usableCapabilities]
    by_cases hprofile : profile = .realtime
    · rw [if_pos hprofile]
      exact (List.length_filter_le _ _).trans hchosen
    · rw [if_neg hprofile]
      exact hchosen

end

/-! ### The plan -/

/-- A plan with assignments. -/
structure RuleBased (p : AgentTaskPlan F) (query : String) (profile : Profile) : Prop where
  size : 1 ≤ p.assignments.length ∧ p.assignments.length ≤ 4
  agents : (p.assignments.map (·.agentId)).Nodup
  ids : (p.assignments.map (·.assignmentId)).Nodup
  supported : ∀ a ∈ p.assignments, supports profile a.agentId = true
  priorities : p.assignments.map (·.priority) =
    (List.range' 1 p.assignments.length).map fun i : ℕ => (i : ℤ)
  endpoints : ∀ d ∈ p.dependencies, d.fromAssignment ∈ p.assignments.map (·.assignmentId) ∧
    d.toAssignment ∈ p.assignments.map (·.assignmentId) ∧ d.fromAssignment ≠ d.toAssignment
  acyclic : Acyclic fun x y => ∃ d ∈ p.dependencies, d.fromAssignment = x ∧ d.toAssignment = y
  dependsOn : ∀ a ∈ p.assignments, a.dependsOn = (sources p.dependencies a.assignmentId).eraseDups
  independent : asksForIndependentViews F query = true → ∀ a ∈ p.assignments, a.dependsOn = []

/-- A plan that answers without a subagent. -/
def AnswersItself (p : AgentTaskPlan F) : Prop :=
  p.assignments = [] ∧
    (p.boundary = true ∨ p.requiresClarification = true ∨ p.primaryIntent = "realtime_chat")

/-- `PlannerAgent.plan` of a planner with the registry, with the profile normalised.  Every branch
ends in `_plan_id`, which encodes the query. -/
def CapabilityRegistry.plan (registry : CapabilityRegistry) (query : List CodePoint)
    (profile : Profile) (context : PyDict F) (fallbackReason : String) :
    Except String (AgentTaskPlan F) :=
  match chars? query with
  | none => .error "surrogates not allowed"
  | some text => registry.fallbackPlan (String.ofList text) profile context fallbackReason

/-- The planner returns a plan for the query that answers itself or is well-formed. -/
def PlansWell (registry : CapabilityRegistry) (query : List CodePoint) (profile : Profile)
    (context : PyDict F) (fallbackReason : String) : Prop :=
  ∃ p, registry.plan query profile context fallbackReason = .ok p ∧
    chars? query = some p.rawQuery.toList ∧ (AnswersItself p ∨ RuleBased p p.rawQuery profile)

section

variable {selected : List Capability} (query : String) (context : PyDict F) (profile : Profile)
  (fallbackReason : String)

lemma assignments_draftPlan :
    (draftPlan selected query context profile fallbackReason).assignments =
      (drafts selected query context).map fun a =>
        (synced (draftEdges selected query context) a).settle := rfl

lemma dependencies_draftPlan :
    (draftPlan selected query context profile fallbackReason).dependencies =
      draftEdges selected query context := by
  rw [draftPlan, selectedPlan]

/-- Settling and synchronising change neither names nor agents. -/
lemma map_draftPlan {α : Type*} (f : AgentAssignment F → α)
    (hf : ∀ a ∈ drafts selected query context,
      f (synced (draftEdges selected query context) a).settle = f a) :
    (draftPlan selected query context profile fallbackReason).assignments.map f =
      (drafts selected query context).map f := by
  rw [assignments_draftPlan, List.map_map]
  exact List.map_congr_left hf

lemma map_priority_drafts : (drafts selected query context).map (·.priority) =
    (List.range' 1 (drafts selected query context).length).map fun i : ℕ => (i : ℤ) := by
  have hsnd : ((dedupeCapabilitiesByAgent selected).zipIdx 1).map Prod.snd =
      List.range' 1 (dedupeCapabilitiesByAgent selected).length := List.zipIdx_map_snd ..
  rw [drafts, assignmentsFor, List.map_map, List.length_map, List.length_zipIdx, ← hsnd,
    List.map_map]
  rfl

lemma ruleBased_draftPlan (hsub : selected ⊆ capabilities) (hne : selected ≠ [])
    (hlength : selected.length ≤ 4) (hprofile : ∀ c ∈ selected, profile ∈ c.supportedProfiles) :
    RuleBased (draftPlan selected query context profile fallbackReason) query profile := by
  have hwell := wellFormed_draftPlan query context hsub hprofile fallbackReason
  have hcount : (draftPlan selected query context profile fallbackReason).assignments.length =
      (dedupeCapabilitiesByAgent selected).length := by
    rw [assignments_draftPlan, List.length_map, drafts, assignmentsFor, List.length_map,
      List.length_zipIdx]
  have hendpoints : ∀ d ∈ (draftPlan selected query context profile fallbackReason).dependencies,
      d.type ≠ "conflict_check" ∧
        d.fromAssignment ∈ (draftPlan selected query context profile
          fallbackReason).assignments.map (·.assignmentId) ∧
        d.toAssignment ∈ (draftPlan selected query context profile
          fallbackReason).assignments.map (·.assignmentId) := by
    intro d hd
    rw [dependencies_draftPlan] at hd
    obtain ⟨a, ha, b, hb, hedge⟩ := mem_assignmentDependencies hd
    rw [map_draftPlan query context profile fallbackReason (·.assignmentId) fun _ _ => rfl,
      hedge.source, hedge.target]
    refine ⟨?_, List.mem_map_of_mem ha, List.mem_map_of_mem hb⟩
    rcases hedge.type with h | h <;> rw [h] <;> decide
  -- each edge is in the `depends_on` of its target
  have hdepends : ∀ d ∈ (draftPlan selected query context profile fallbackReason).dependencies,
      DependsOn (draftPlan selected query context profile fallbackReason) d.fromAssignment
        d.toAssignment := by
    intro d hd
    obtain ⟨htype, -, hto⟩ := hendpoints d hd
    obtain ⟨a, ha, htarget⟩ := List.mem_map.1 hto
    refine ⟨a, ha, htarget, (hwell.edges a ha _).2 (mem_sources.2 ⟨d, hd, htype, ?_, rfl⟩)⟩
    exact htarget.symm
  have hdependsOn : ∀ a ∈ (draftPlan selected query context profile fallbackReason).assignments,
      a.dependsOn = (sources (draftEdges selected query context) a.assignmentId).eraseDups := by
    intro a ha
    rw [assignments_draftPlan] at ha
    obtain ⟨b, hb, rfl⟩ := List.mem_map.1 ha
    obtain ⟨c, -, i, -, rfl⟩ := mem_assignmentsFor hb
    simp only [AgentAssignment.settle, synced, assignmentForCapability, List.nil_append]
  refine ⟨?_, ?_, hwell.distinct, fun a ha => (hwell.agents a ha).2, ?_, fun d hd => ?_, ?_, ?_, ?_⟩
  · rw [hcount]
    refine ⟨List.length_pos_iff.2 fun h => hne ?_,
      (length_dedupeCapabilitiesByAgent selected).trans hlength⟩
    exact (dedupeCapabilitiesByAgent_spec selected).2.2 h
  · rw [map_draftPlan query context profile fallbackReason (·.agentId) fun _ _ => rfl]
    exact nodup_agentId_drafts query context
  · have hlen : (draftPlan selected query context profile fallbackReason).assignments.length =
        (drafts selected query context).length := by
      rw [assignments_draftPlan, List.length_map]
    rw [hlen, ← map_priority_drafts query context]
    refine map_draftPlan query context profile fallbackReason (·.priority) fun a ha => ?_
    obtain ⟨c, -, i, hi, rfl⟩ := mem_assignmentsFor ha
    have hpriority : (i : ℤ) ≠ 0 := by omega
    exact if_neg hpriority
  · obtain ⟨-, hfrom, hto⟩ := hendpoints d hd
    refine ⟨hfrom, hto, fun heq => ?_⟩
    exact hwell.acyclic _ (.single (heq ▸ hdepends d hd))
  · refine hwell.acyclic.mono fun x y => ?_
    rintro ⟨d, hd, rfl, rfl⟩
    exact hdepends d hd
  · rw [dependencies_draftPlan]
    exact hdependsOn
  · intro hindependent a ha
    have hnone : draftEdges selected query context = [] := by
      rw [draftEdges, assignmentDependencies, if_pos hindependent]
    rw [hdependsOn a ha, hnone]
    rfl

end

/-- What is planned for a query that can be encoded. -/
lemma fallbackPlan_ruleBased (registry : CapabilityRegistry) (query : String) (profile : Profile)
    (context : PyDict F) (fallbackReason : String) :
    ∃ p, registry.fallbackPlan query profile context fallbackReason = .ok p ∧
      p.rawQuery = query ∧ (AnswersItself p ∨ RuleBased p query profile) := by
  obtain ⟨hsub, hprofile, hlength⟩ := registry.usableCapabilities_spec F query profile
  unfold CapabilityRegistry.fallbackPlan
  split_ifs with hscope hclarify hchat hempty
  · exact ⟨_, rfl, rfl, .inl ⟨rfl, .inl rfl⟩⟩
  · exact ⟨_, rfl, rfl, .inl ⟨rfl, .inr (.inl rfl)⟩⟩
  · exact ⟨_, rfl, rfl, .inl ⟨rfl, .inr (.inr rfl)⟩⟩
  · exact ⟨_, rfl, rfl, .inl ⟨rfl, .inl rfl⟩⟩
  · exact ⟨_, capabilityPlan_eq hsub query context profile fallbackReason, rfl,
      .inr (ruleBased_draftPlan query context profile fallbackReason hsub hempty hlength hprofile)⟩

/-- **The rule-based plan is well-formed** exactly when the query has no lone surrogate. -/
theorem plan_ruleBased_iff (registry : CapabilityRegistry) (query : List CodePoint)
    (profile : Profile) (context : PyDict F) (fallbackReason : String) :
    PlansWell registry query profile context fallbackReason ↔
      ∀ c ∈ query, c.isSurrogate = false := by
  cases hquery : chars? query with
  | none =>
    have hsurrogate : ¬∀ c ∈ query, c.isSurrogate = false := by
      simpa [chars?] using hquery
    refine iff_of_false ?_ hsurrogate
    rintro ⟨p, -, hp, -⟩
    rw [hquery] at hp
    cases hp
  | some text =>
    have hencodes : ∀ c ∈ query, c.isSurrogate = false := by
      intro c hc
      by_contra hc'
      have hany : query.any CodePoint.isSurrogate = true :=
        List.any_eq_true.2 ⟨c, hc, by simpa using hc'⟩
      rw [chars?, if_pos hany] at hquery
      cases hquery
    refine iff_of_true ?_ hencodes
    obtain ⟨p, hp, hraw, hshape⟩ :=
      fallbackPlan_ruleBased registry (String.ofList text) profile context fallbackReason
    refine ⟨p, ?_, ?_, ?_⟩
    · rw [CapabilityRegistry.plan, hquery]
      exact hp
    · rw [hquery, hraw, String.toList_ofList]
    · rwa [hraw]

/-- A query with a lone surrogate: the planner raises. -/
theorem not_plansWell_surrogate :
    ¬PlansWell defaultRegistry [0xD800] .standard (.empty : PyDict ℤ)
      "rule_based_agent_fallback" := by
  rintro ⟨p, -, hp, -⟩
  have hnone : chars? [0xD800] = none := by decide
  rw [hnone] at hp
  cases hp

end EcommerceAgent.Planning
