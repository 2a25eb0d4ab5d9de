/-
# Plans as graphs

A plan can be executed if its assignments have different ids, go to agents that the profile
supports, and depend on each other without cycles, as its edges say.  The deterministic planner
only writes such plans.  `_sanitize_plan` repairs the edges of a model's plan, but takes over the
ids and each `depends_on` as they are and does not look for cycles; so the plan of `plan_async` can
be executed if and only if the model's plan, where it is kept, was right in these respects
(`planAsync_wellFormed_iff`).
-/
import EcommerceAgent.Planning.Queue
import EcommerceAgent.Lib.Dag
import EcommerceAgent.Lib.Hundredths
import EcommerceAgent.Lib.KeyValue

open EcommerceAgent.Lib EcommerceAgent.Runtime

namespace EcommerceAgent.Planning

variable {F : Type} [PyRuntime F]

/-- `supported_profiles` of the subagents for which there is no capability. -/
def subagentProfiles : List (String × List Profile) :=
  [("knowledge_base", [.standard, .deep]), ("network_search", [.deep]),
    ("database_query", [.standard, .deep])]

/-- The profile supports the agent: one of its capabilities does, or its subagent. -/
def supports (profile : Profile) (agentId : String) : Bool :=
  (capabilities.any fun c => c.targetAgentId == agentId && c.supportedProfiles.contains profile) ||
    ((subagentProfiles.lookup agentId).getD []).contains profile

/-- One assignment depends on the other. -/
def DependsOn (p : AgentTaskPlan F) (x y : String) : Prop :=
  ∃ a ∈ p.assignments, a.assignmentId = y ∧ x ∈ a.dependsOn

/-- The plan can be executed. -/
structure WellFormed (p : AgentTaskPlan F) (profile : Profile) : Prop where
  distinct : (p.assignments.map (·.assignmentId)).Nodup
  agents : ∀ a ∈ p.assignments, knownAgents.contains a.agentId = true ∧
    supports profile a.agentId = true
  named : ∀ a ∈ p.assignments, ∀ x ∈ a.dependsOn,
    x ∈ p.assignments.map (·.assignmentId) ∧ x ≠ a.assignmentId
  edges : ∀ a ∈ p.assignments, ∀ x, x ∈ a.dependsOn ↔ x ∈ sources p.dependencies a.assignmentId
  acyclic : Acyclic (DependsOn p)
  executable : ∃ order : List (AgentAssignment F), order.Perm p.assignments ∧
    order.Pairwise fun a b => b.assignmentId ∉ a.dependsOn

/-- The edge that a dependency of the plan stands for: it has a type, is no conflict check, and
leads from one assignment of the plan to another. -/
def ModelEdge (p : AgentTaskPlan F) (x y : String) : Prop :=
  x ∈ p.assignments.map (·.assignmentId) ∧ y ∈ p.assignments.map (·.assignmentId) ∧ x ≠ y ∧
    ∃ d ∈ p.dependencies, d.fromAssignment = x ∧ d.toAssignment = y ∧
      d.type ∈ ["blocking_data_dependency", "optional_context", "ordering_only"]

/-- What a model has to get right. -/
structure RightPlan (p : AgentTaskPlan F) (profile : Profile) : Prop where
  distinct : (p.assignments.map (·.assignmentId)).Nodup
  network : profile = .standard → ∀ a ∈ p.assignments, a.agentId ≠ "network_search"
  dependsOn : ∀ a ∈ p.assignments, ∀ x ∈ a.dependsOn, ModelEdge p x a.assignmentId
  acyclic : Acyclic (ModelEdge p)

/-- The answer of a model as `json.loads` returns it. -/
abbrev loadedAnswer (answer : Except String (List (String × Json F))) :
    Except String (Entries F) :=
  answer.map fun fields => PyValue.insertAll [] (Json.loadsEntries fields)

/-! ### Edges -/

lemma mem_sources {dependencies : List AgentDependency} {x y : String} :
    x ∈ sources dependencies y ↔ ∃ d ∈ dependencies, d.type ≠ "conflict_check" ∧
      d.toAssignment = y ∧ d.fromAssignment = x := by
  simp [sources, and_assoc]

/-- The last two conditions follow from the others. -/
lemma wellFormed_of_rel {p : AgentTaskPlan F} {profile : Profile} {r : String → String → Prop}
    (hdistinct : (p.assignments.map (·.assignmentId)).Nodup)
    (hagents : ∀ a ∈ p.assignments, knownAgents.contains a.agentId = true ∧
      supports profile a.agentId = true)
    (hnamed : ∀ a ∈ p.assignments, ∀ x ∈ a.dependsOn, x ∈ p.assignments.map (·.assignmentId))
    (hedges : ∀ a ∈ p.assignments, ∀ x,
      x ∈ a.dependsOn ↔ x ∈ sources p.dependencies a.assignmentId)
    (hr : Acyclic r) (hrel : ∀ a ∈ p.assignments, ∀ x ∈ a.dependsOn, r x a.assignmentId) :
    WellFormed p profile := by
  have hacyclic : Acyclic (DependsOn p) := hr.mono fun x y => by
    rintro ⟨a, ha, rfl, hx⟩
    exact hrel a ha x hx
  refine ⟨hdistinct, hagents, fun a ha x hx => ⟨hnamed a ha x hx, ?_⟩, hedges, hacyclic, ?_⟩
  · rintro rfl
    exact hr _ (.single (hrel a ha _ hx))
  · obtain ⟨order, hperm, hpairwise⟩ := hacyclic.exists_order
      (fun a : AgentAssignment F => a.assignmentId) p.assignments
    refine ⟨order, hperm, hpairwise.imp_of_mem fun {a b} ha _ hab hx => hab ?_⟩
    exact ⟨a, hperm.mem_iff.1 ha, rfl, hx⟩

/-! ### The deterministic planner -/

/-- The agents of the capabilities, in the order in which their assignments can run. -/
def agentRank (agentId : String) : ℕ :=
  (([("data_quality", 0), ("product_analysis", 1), ("inventory", 2), ("campaign", 3),
    ("report", 4)] : List (String × ℕ)).lookup agentId).getD 0

/-- The agents that are targeted. -/
lemma targetAgentId_mem {c : Capability} (h : c ∈ capabilities) :
    c.targetAgentId ∈ ["data_quality", "product_analysis", "inventory", "campaign", "report"] := by
  revert c
  decide +kernel

lemma supports_of_capability {c : Capability} (h : c ∈ capabilities) {profile : Profile}
    (hprofile : profile ∈ c.supportedProfiles) :
    knownAgents.contains c.targetAgentId = true ∧ supports profile c.targetAgentId = true := by
  refine ⟨?_, ?_⟩
  · have hmem := targetAgentId_mem h
    simp only [List.mem_cons, List.not_mem_nil, or_false] at hmem
    rcases hmem with h | h | h | h | h <;> rw [h] <;> decide
  · rw [supports, Bool.or_eq_true]
    refine .inl (List.any_eq_true.2 ⟨c, h, ?_⟩)
    simpa using hprofile

lemma supportedProfiles_mem {c : Capability} (h : c ∈ capabilities) {profile : Profile}
    (hprofile : profile ≠ .realtime) : profile ∈ c.supportedProfiles := by
  have hall : ∀ c ∈ capabilities, Profile.standard ∈ c.supportedProfiles ∧
      Profile.deep ∈ c.supportedProfiles := by
    decide +kernel
  cases profile with
  | realtime => exact absurd rfl hprofile
  | standard => exact (hall c h).1
  | deep => exact (hall c h).2

section

variable {selected : List Capability} (query : String) (context : PyDict F)

lemma map_agentId_drafts : (drafts selected query context).map (·.agentId) =
    (dedupeCapabilitiesByAgent selected).map (·.targetAgentId) := by
  have hfst : ((dedupeCapabilitiesByAgent selected).zipIdx 1).map Prod.fst =
      dedupeCapabilitiesByAgent selected := List.zipIdx_map_fst ..
  rw [drafts, assignmentsFor, List.map_map]
  conv_rhs => rw [← hfst, List.map_map]
  rfl

lemma nodup_agentId_drafts : ((drafts selected query context).map (·.agentId)).Nodup := by
  rw [map_agentId_drafts]
  exact (dedupeCapabilitiesByAgent_spec selected).2.1

/-- An id names its agent. -/
lemma agentId_eq_of_assignmentId {a b : AgentAssignment F} (ha : a ∈ drafts selected query context)
    (hb : b ∈ drafts selected query context) (h : a.assignmentId = b.assignmentId) :
    a.agentId = b.agentId := by
  obtain ⟨c, -, i, -, rfl⟩ := mem_assignmentsFor ha
  obtain ⟨d, -, j, -, rfl⟩ := mem_assignmentsFor hb
  have hdigits : ∀ n : ℕ, '_' ∉ (toString n).toList := by
    intro n
    simp
  have hlist := congrArg String.toList h
  simp only [assignmentForCapability, String.toList_append, List.append_assoc] at hlist
  have htail := List.append_cancel_left hlist
  exact String.toList_inj.1 (KeyValue.append_sep_inj (hdigits i) (hdigits j) htail).2

lemma nodup_assignmentId_drafts : ((drafts selected query context).map (·.assignmentId)).Nodup := by
  have hagents : ((drafts selected query context).map (·.agentId)).Nodup :=
    nodup_agentId_drafts query context
  rw [List.Nodup, List.pairwise_map] at hagents ⊢
  exact hagents.imp_of_mem fun ha hb hne h =>
    hne (agentId_eq_of_assignmentId query context ha hb h)

variable (hsub : selected ⊆ capabilities)
include hsub

lemma agentId_drafts_mem {a : AgentAssignment F} (ha : a ∈ drafts selected query context) :
    a.agentId ∈ ["data_quality", "product_analysis", "inventory", "campaign", "report"] := by
  obtain ⟨c, hc, i, -, rfl⟩ := mem_assignmentsFor ha
  exact targetAgentId_mem (hsub ((dedupeCapabilitiesByAgent_spec selected).1 hc))

/-- Every edge goes up in rank. -/
lemma agentRank_lt {a b : AgentAssignment F} (ha : a ∈ drafts selected query context)
    (hb : b ∈ drafts selected query context) {d : AgentDependency} (h : PlannedEdge a b d) :
    agentRank a.agentId < agentRank b.agentId := by
  have hne : a.assignmentId ≠ b.assignmentId → a.agentId ≠ b.agentId := by
    intro hid hagent
    exact hid (congrArg _ (List.inj_on_of_nodup_map (nodup_agentId_drafts query context) ha hb
      hagent))
  have hmem := agentId_drafts_mem query context hsub ha
  have hmem' := agentId_drafts_mem query context hsub hb
  rcases h.agents with ⟨h₁, h₂ | h₂⟩ | ⟨h₁, h₂⟩ | ⟨h₁ | h₁ | h₁, hid⟩
  · rw [h₁, h₂]; decide
  · rw [h₁, h₂]; decide
  · rw [h₁, h₂]; decide
  · have := hne hid
    rw [h₁] at this ⊢
    simp only [List.mem_cons, List.not_mem_nil, or_false] at hmem'
    rcases hmem' with h | h | h | h | h <;> rw [h] at this ⊢ <;>
      first | decide | exact absurd rfl this
  · rw [h₁] at hmem
    exact absurd hmem (by decide)
  · have := hne hid
    rw [h₁] at this ⊢
    simp only [List.mem_cons, List.not_mem_nil, or_false] at hmem
    rcases hmem with h | h | h | h | h <;> rw [h] at this ⊢ <;>
      first | decide | exact absurd rfl this

/-- The deterministic plan can be executed, if the profile supports what was selected. -/
lemma wellFormed_draftPlan {profile : Profile}
    (hprofile : ∀ c ∈ selected, profile ∈ c.supportedProfiles) (fallbackReason : String) :
    WellFormed (draftPlan selected query context profile fallbackReason) profile := by
  have hassignments : (draftPlan selected query context profile fallbackReason).assignments =
      (drafts selected query context).map fun a =>
        (synced (draftEdges selected query context) a).settle := rfl
  have hids : (draftPlan selected query context profile fallbackReason).assignments.map
      (·.assignmentId) = (drafts selected query context).map (·.assignmentId) := by
    rw [hassignments, List.map_map]
    rfl
  have hdependencies : (draftPlan selected query context profile fallbackReason).dependencies =
      draftEdges selected query context := by
    rw [draftPlan, selectedPlan]
  have hedges : ∀ a ∈ (draftPlan selected query context profile fallbackReason).assignments, ∀ x,
      x ∈ a.dependsOn ↔ x ∈ sources (draftEdges selected query context) a.assignmentId := by
    intro a ha x
    obtain ⟨b, hb, rfl⟩ := List.mem_map.1 (hassignments ▸ ha)
    obtain ⟨c, -, i, -, rfl⟩ := mem_assignmentsFor hb
    simp [AgentAssignment.settle, synced, List.mem_eraseDups, assignmentForCapability]
  -- the edges go up in the rank of the agents
  let rank : String → ℕ := fun x =>
    (((drafts selected query context).find? (·.assignmentId == x)).map
      fun a => agentRank a.agentId).getD 0
  have hrank : ∀ a ∈ drafts selected query context, rank a.assignmentId = agentRank a.agentId := by
    intro a ha
    have hsome : ((drafts selected query context).find?
        (·.assignmentId == a.assignmentId)).isSome := by
      rw [List.find?_isSome]
      exact ⟨a, ha, by simp⟩
    obtain ⟨b, hfind⟩ := Option.isSome_iff_exists.1 hsome
    have hid : b.assignmentId = a.assignmentId := by simpa using List.find?_some hfind
    have hagent := agentId_eq_of_assignmentId query context (List.mem_of_find?_eq_some hfind) ha hid
    simp only [rank, hfind, Option.map_some, Option.getD_some, hagent]
  have hup : ∀ x y, x ∈ sources (draftEdges selected query context) y → rank x < rank y ∧
      x ∈ (drafts selected query context).map (·.assignmentId) := by
    intro x y hx
    obtain ⟨d, hd, -, rfl, rfl⟩ := mem_sources.1 hx
    obtain ⟨a, ha, b, hb, hedge⟩ := mem_assignmentDependencies hd
    rw [hedge.source, hedge.target, hrank a ha, hrank b hb]
    exact ⟨agentRank_lt query context hsub ha hb hedge, List.mem_map_of_mem ha⟩
  refine wellFormed_of_rel (r := fun x y => rank x < rank y) ?_ (fun a ha => ?_)
    (fun a ha x hx => ?_) ?_ (acyclic_of_rank rank fun x y h => h)
    fun a ha x hx => (hup _ _ ((hedges a ha x).1 hx)).1
  · rw [hids]
    exact nodup_assignmentId_drafts query context
  · obtain ⟨b, hb, rfl⟩ := List.mem_map.1 (hassignments ▸ ha)
    obtain ⟨c, hc, i, -, rfl⟩ := mem_assignmentsFor hb
    have hmem := (dedupeCapabilitiesByAgent_spec selected).1 hc
    exact supports_of_capability (hsub hmem) (hprofile c hmem)
  · rw [hids]
    exact (hup _ _ ((hedges a ha x).1 hx)).2
  · rwa [hdependencies]

end

lemma wellFormed_of_isEmpty {p : AgentTaskPlan F} (h : p.assignments = []) (profile : Profile) :
    WellFormed p profile := by
  refine wellFormed_of_rel (r := fun _ _ => False) ?_ ?_ ?_ ?_ (acyclic_of_rank (fun _ => 0)
    fun _ _ h => h.elim) ?_
  · simp [h]
  all_goals simp [h]

/-- What the deterministic planner returns can be executed. -/
lemma wellFormed_fallbackPlan {query : String} {profile : Profile} {context : PyDict F}
    {fallbackReason : String} {p : AgentTaskPlan F}
    (h : fallbackPlan query profile context fallbackReason = .ok p) : WellFormed p profile := by
  obtain ⟨q, hq, -, -, hcases⟩ := fallbackPlan_ok query profile context fallbackReason
  obtain rfl := Except.ok.inj (hq.symm.trans h)
  rcases hcases with ⟨hempty, -⟩ | rfl
  · exact wellFormed_of_isEmpty hempty profile
  · obtain ⟨hsub, hrealtime⟩ := usableCapabilities_subset F query profile
    refine wellFormed_draftPlan query context hsub (fun c hc => ?_) fallbackReason
    by_cases hprofile : profile = .realtime
    · subst hprofile
      exact hrealtime rfl c hc
    · exact supportedProfiles_mem (hsub hc) hprofile

/-! ### The plan of a model -/

section

variable (p : AgentTaskPlan F) (query : String) (profile : Profile) (fallbackReason : String)

/-- Enriching an assignment leaves its id alone. -/
lemma map_assignmentId_enriched :
    (enrichedAssignments p query).map (·.assignmentId) = p.assignments.map (·.assignmentId) := by
  rw [enrichedAssignments, List.map_map]
  rfl

/-- The edges that are kept are those of the model. -/
lemma mem_sources_keptEdges {x y : String} :
    x ∈ sources (keptEdges p query) y ↔ ModelEdge p x y := by
  simp only [mem_sources, keptEdges, mem_sanitizeDependencies, map_assignmentId_enriched,
    ModelEdge]
  constructor
  · rintro ⟨d, ⟨hd, hfrom, hto, hne, htype⟩, hcheck, rfl, rfl⟩
    refine ⟨hfrom, hto, hne, d, hd, rfl, rfl, ?_⟩
    simpa [allowedTypes, hcheck] using htype
  · rintro ⟨hx, hy, hne, d, hd, rfl, rfl, htype⟩
    refine ⟨d, ⟨hd, hx, hy, hne, ?_⟩, ?_, rfl, rfl⟩
    · exact List.mem_append_left ["conflict_check"] htype
    · rintro hcheck
      simp [hcheck] at htype

/-- The plan that is decoded at the end of `_sanitize_plan`. -/
abbrev repaired : AgentTaskPlan F := (keptPlan p query profile fallbackReason).settle p

/-- The assignments of the repaired plan, with the parts that count here. -/
lemma forall_repaired {P : String → String → List String → Prop} :
    (∀ a ∈ (repaired p query profile fallbackReason).assignments,
        P a.assignmentId a.agentId a.dependsOn) ↔
      ∀ a ∈ p.assignments, P a.assignmentId a.agentId
        (a.dependsOn ++ sources (keptEdges p query) a.assignmentId).eraseDups := by
  have hassignments : (repaired p query profile fallbackReason).assignments =
      p.assignments.map fun a =>
        (synced (keptEdges p query) (enriched query a).settle).settle.settle := by
    simp only [repaired, AgentTaskPlan.settle, keptPlan, enrichedAssignments, List.map_map]
    rfl
  rw [hassignments, List.forall_mem_map]
  rfl

lemma map_assignmentId_repaired :
    (repaired p query profile fallbackReason).assignments.map (·.assignmentId) =
      p.assignments.map (·.assignmentId) := by
  rw [← map_assignmentId_enriched p query]
  simp only [repaired, AgentTaskPlan.settle, keptPlan, List.map_map]
  rfl

end

/-- The agents of a kept plan are known; the profile supports them all but one. -/
lemma supports_of_known {profile : Profile} {agentId : String}
    (hknown : knownAgents.contains agentId = true)
    (hrealtime : profile = .realtime → realtimeRefused.contains agentId = false) :
    supports profile agentId = true ↔ (profile = .standard → agentId ≠ "network_search") := by
  have hmem : agentId ∈ knownAgents := by simpa using hknown
  simp only [knownAgents, List.mem_cons, List.not_mem_nil, or_false] at hmem
  rcases hmem with rfl | rfl | rfl | rfl | rfl | rfl | rfl | rfl <;> revert hrealtime <;>
    cases profile <;> decide

/-- The repaired plan can be executed if and only if the model got right what is not repaired. -/
lemma wellFormed_repaired_iff {p : AgentTaskPlan F} {profile : Profile} (hkept : Kept p profile)
    (query fallbackReason : String) :
    WellFormed (repaired p query profile fallbackReason) profile ↔ RightPlan p profile := by
  obtain ⟨hrefused, hunknown, -⟩ := hkept
  have hknown : ∀ a ∈ p.assignments, knownAgents.contains a.agentId = true := by
    simpa using hunknown
  have hrealtime : profile = .realtime →
      ∀ a ∈ p.assignments, realtimeRefused.contains a.agentId = false := by
    intro hprofile a ha
    by_contra hrefuses
    exact hrefused ⟨hprofile, List.any_eq_true.2 ⟨a, ha, by simpa using hrefuses⟩⟩
  have hsupports : ∀ a ∈ p.assignments, (supports profile a.agentId = true ↔
      (profile = .standard → a.agentId ≠ "network_search")) := fun a ha =>
    supports_of_known (hknown a ha) fun hprofile => hrealtime hprofile a ha
  have hsources : ∀ {x y : String}, x ∈ sources (keptEdges p query) y ↔ ModelEdge p x y :=
    mem_sources_keptEdges p query
  constructor
  · rintro ⟨hdistinct, hagents, -, hedges, hacyclic, -⟩
    rw [map_assignmentId_repaired] at hdistinct
    have hagents := (forall_repaired p query profile fallbackReason
      (P := fun _ agentId _ => knownAgents.contains agentId = true ∧
        supports profile agentId = true)).1 hagents
    have hedges := (forall_repaired p query profile fallbackReason
      (P := fun id _ dependsOn => ∀ x, x ∈ dependsOn ↔ x ∈ sources (keptEdges p query) id)).1 hedges
    refine ⟨hdistinct, fun hprofile a ha => (hsupports a ha).1 (hagents a ha).2 hprofile,
      fun a ha x hx => hsources.1 ((hedges a ha x).1 ?_), hacyclic.mono fun x y hxy => ?_⟩
    · exact List.mem_eraseDups.2 (List.mem_append_left _ hx)
    · -- the edge leads to an assignment of the plan, which depends on its source
      have hy := hxy.2.1
      rw [← map_assignmentId_repaired p query profile fallbackReason] at hy
      obtain ⟨a, ha, rfl⟩ := List.mem_map.1 hy
      have hdepends := (forall_repaired p query profile fallbackReason
        (P := fun id _ dependsOn => ∀ x ∈ sources (keptEdges p query) id, x ∈ dependsOn)).2
        fun a ha x hx => List.mem_eraseDups.2 (List.mem_append_right _ hx)
      exact ⟨a, ha, rfl, hdepends a ha x (hsources.2 hxy)⟩
  · rintro ⟨hdistinct, hnetwork, hdependsOn, hacyclic⟩
    have hedges : ∀ a ∈ (repaired p query profile fallbackReason).assignments, ∀ x,
        x ∈ a.dependsOn ↔ x ∈ sources (keptEdges p query) a.assignmentId := by
      refine (forall_repaired p query profile fallbackReason (P := fun id _ dependsOn =>
        ∀ x, x ∈ dependsOn ↔ x ∈ sources (keptEdges p query) id)).2 fun a ha x => ?_
      rw [List.mem_eraseDups, List.mem_append]
      exact or_iff_right_of_imp fun hx => hsources.2 (hdependsOn a ha x hx)
    refine wellFormed_of_rel ?_ ?_ ?_ hedges hacyclic fun a ha x hx =>
      hsources.1 ((hedges a ha x).1 hx)
    · rwa [map_assignmentId_repaired]
    · refine (forall_repaired p query profile fallbackReason (P := fun _ agentId _ =>
        knownAgents.contains agentId = true ∧ supports profile agentId = true)).2 fun a ha => ?_
      exact ⟨hknown a ha, (hsupports a ha).2 fun hprofile => hnetwork hprofile a ha⟩
    · intro a ha x hx
      rw [map_assignmentId_repaired]
      exact (hsources.1 ((hedges a ha x).1 hx)).1

/-- A plan of a model that is used has been kept. -/
lemma kept_of_modelPlan {profile : Profile} {answer : Except String (Entries F)}
    {p : AgentTaskPlan F} (h : modelPlan profile answer = some p) : Kept p profile := by
  unfold modelPlan at h
  split at h
  · split_ifs at h with hkept
    · exact Option.some.inj h ▸ hkept
  · cases h

/-- **The plan of `plan_async` can be executed if and only if the model's plan, where it is kept,
was right.** -/
theorem planAsync_wellFormed_iff (query profile : String) (context : PyDict F)
    (answer : Except String (List (String × Json F))) :
    ∃ r, (PlanSource.planAsync query profile context answer).result = .ok r ∧
      (WellFormed r (normalizeRuntimeProfile profile.toList) ↔
        ∀ p, modelPlan (normalizeRuntimeProfile profile.toList) (loadedAnswer answer) = some p →
          RightPlan p (normalizeRuntimeProfile profile.toList)) := by
  obtain ⟨r, hr, hcases⟩ := planAsync_ok query (normalizeRuntimeProfile profile.toList) context
    (loadedAnswer answer)
  have hresult : (PlanSource.planAsync query profile context answer).result = .ok r := by
    rw [PlanSource.result]
    exact hr
  refine ⟨r, hresult, ?_⟩
  revert hcases
  cases hmodel : modelPlan (normalizeRuntimeProfile profile.toList) (loadedAnswer answer) with
  | none =>
    intro h
    refine iff_of_true ?_ fun p hp => by cases hp
    rcases h with rfl | ⟨_, _, h⟩
    · exact wellFormed_of_isEmpty rfl _
    · exact wellFormed_fallbackPlan h
  | some p =>
    rintro ⟨-, rfl⟩
    rw [wellFormed_repaired_iff (kept_of_modelPlan hmodel)]
    refine ⟨fun h q hq => ?_, fun h => h p rfl⟩
    obtain rfl := Option.some.inj hq
    exact h

variable (F) in
/-- Two assignments of one agent without ids. -/
def sameAgentTwice : List (String × Json F) :=
  [("assignments", .arr [.obj [("agent_id", .str "inventory")],
    .obj [("agent_id", .str "inventory")]])]

lemma decode_sameAgentTwice : ∃ p, AgentTaskPlan.fromDict
    (PyValue.insertAll [] (Json.loadsEntries (sameAgentTwice F))) = .ok p ∧
      p.assignments.map (·.assignmentId) = ["inventory", "inventory"] ∧
      p.assignments.map (·.agentId) = ["inventory", "inventory"] := by
  exact ⟨_, rfl, rfl, rfl⟩

/-- The ids are defaulted from the agent, so the two assignments get the same one. -/
theorem sameAgentTwice_not_wellFormed : ∃ r : AgentTaskPlan ℤ,
    (PlanSource.planAsync "库存怎么样" "standard" .empty (.ok (sameAgentTwice ℤ))).result = .ok r ∧
      ¬WellFormed r .standard := by
  obtain ⟨p, hdecode, hids, hagents⟩ := decode_sameAgentTwice (F := ℤ)
  obtain ⟨r, hr, hcases⟩ := planAsync_ok "库存怎么样" .standard .empty
    (loadedAnswer (.ok (sameAgentTwice ℤ)))
  have hkept : Kept p .standard := by
    refine ⟨by simp, ?_, ?_⟩
    · have hknown : (p.assignments.map (·.agentId)).any (fun a => !knownAgents.contains a) =
          false := by
        rw [hagents]
        decide
      simpa using hknown
    · rintro ⟨hempty, -⟩
      simp [hempty] at hids
  have hmodel : modelPlan .standard (loadedAnswer (.ok (sameAgentTwice ℤ))) = some p := by
    have hbind : (loadedAnswer (.ok (sameAgentTwice ℤ))).bind AgentTaskPlan.fromDict = .ok p :=
      hdecode
    rw [modelPlan, hbind]
    exact if_pos hkept
  rw [hmodel] at hcases
  obtain ⟨-, rfl⟩ := hcases
  refine ⟨_, hr, fun h => ?_⟩
  have hdistinct := ((wellFormed_repaired_iff hkept _ _).1 h).distinct
  rw [hids] at hdistinct
  exact absurd hdistinct (by decide)

end EcommerceAgent.Planning
