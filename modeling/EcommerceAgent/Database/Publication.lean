/-
# Publication of a change

A statement reaches the production database only through validation, approval and the merge node,
and at most once in a run.  Whether the sandbox executed it plays no part.
-/
import EcommerceAgent.Database.Steps

open EcommerceAgent.Lib EcommerceAgent.Lib.StateGraph EcommerceAgent.Lib.PyFormat

namespace EcommerceAgent.Database

variable {u : Unicode} {fl : Floats} {cfg : Config}

/-! ### Production writes -/

/-- A call of `execute_write_sql_raw` without a target database: it works on `MYSQL_DATABASE`. -/
def WriteCall.isProduction (call : WriteCall) : Bool := call.target.all (· = "")

/-- The call of `execute_write_sql_raw` that an effect is. -/
def Effect.call? : Effect → Option WriteCall
  | .write call => some call
  | _ => none

/-- The calls on the production database among effects. -/
def productionCalls (effects : List Effect) : List WriteCall :=
  (effects.filterMap Effect.call?).filter WriteCall.isProduction

/-- The calls on the production database in a run, in order. -/
def productionWrites (visits : List GraphVisit) : List WriteCall :=
  visits.flatMap fun v => productionCalls v.effects

lemma productionWrites_append (visits visits' : List GraphVisit) :
    productionWrites (visits ++ visits') = productionWrites visits ++ productionWrites visits' :=
  List.flatMap_append

lemma productionWrites_singleton (v : GraphVisit) :
    productionWrites [v] = productionCalls v.effects := by simp [productionWrites]

/-- The sandbox never calls on the production database. -/
lemma productionCalls_runSandbox (env : SandboxEnv) (writeSql : String) :
    productionCalls (.validated writeSql :: (runSandbox u env writeSql).1.map .write) = [] := by
  unfold runSandbox
  split
  · rfl
  · rename_i sandboxDatabase hdatabase
    have hname : sandboxDatabase ≠ "" := by
      simpa using (Option.filter_eq_some_iff.1 hdatabase).2
    simp [productionCalls, Effect.call?, WriteCall.isProduction, hname]

/-- Only the merge node calls on the production database. -/
lemma productionCalls_of_ne_merge {n : Node} {i : Input} {s : GraphState} (hn : n ≠ .merge) :
    productionCalls (runNode u fl cfg n i s).1 = [] := by
  have hstep := runNode_step u fl cfg n i s
  generalize runNode u fl cfg n i s = r at hstep
  cases hstep with
  | stopped | modelRaised | routed | sandboxRefused => rfl
  | sandboxRan => exact productionCalls_runSandbox _ _
  | approvalRaised | approvalDecided => rfl
  | mergeSkipped | merged => exact absurd rfl hn
  | specializedFound | specializedRaised =>
    simp [productionCalls, Effect.call?]
  | schemaMissing | schemaFound | queried | summarized => rfl

/-! ### The approval chain -/

/-- The statement was accepted by `_validate_write_sql`, then shown to a human and approved. -/
structure Approved (u : Unicode) (earlier : List GraphVisit) (writeSql : String) : Prop where
  validated : ∃ v ∈ earlier, v.node = .sandbox ∧ .validated writeSql ∈ v.effects ∧
    ∃ accepted, validateWriteSql u writeSql = .ok accepted
  continued : ∃ v ∈ earlier, v.node = .approval ∧ .received "continue" ∈ v.effects ∧
    ∃ summary, .shown summary ∈ v.effects ∧
      Text.contains summary.toList writeSql.toList = true

/-- What holds before the visit of a node, after the visits `h`. -/
structure Pending (u : Unicode) (h : List GraphVisit) (n : Node) (s : GraphState) : Prop where
  quiet : productionWrites h = []
  candidate : n = .approval → s.answered = false →
    ∃ v ∈ h, v.node = .sandbox ∧ .validated (s.writeSql.getD "") ∈ v.effects ∧
      ∃ accepted, validateWriteSql u (s.writeSql.getD "") = .ok accepted
  approved : n = .merge → Approved u h (s.writeSql.getD "")

/-- Only the sandbox leads to the approval node. -/
lemma next_approval {n : Node} {s : GraphState} (h : nextNode n s = some .approval) :
    n = .sandbox := by
  cases n with
  | sandbox => rfl
  | route | sql =>
    simp only [nextNode, selectNextAfterRoute, selectNextAfterSql] at h
    split at h
    · cases h
    · split at h <;> cases h
  | approval =>
    simp only [nextNode, selectNextAfterApproval] at h
    split at h
    · cases h
    · split at h <;> cases h
  | specialized | schema | merge | summarize => cases h

/-- Only the approval node leads to the merge node. -/
lemma next_merge {n : Node} {s : GraphState} (h : nextNode n s = some .merge) :
    n = .approval ∧ s.answered = false := by
  cases n with
  | approval =>
    simp only [nextNode, selectNextAfterApproval] at h
    split at h
    · cases h
    · rename_i hfresh
      exact ⟨rfl, by simpa using hfresh⟩
  | route | sql =>
    simp only [nextNode, selectNextAfterRoute, selectNextAfterSql] at h
    split at h
    · cases h
    · split at h <;> cases h
  | specialized | schema | sandbox | merge | summarize => cases h

/-- A decision does not change the statement. -/
lemma writeSql_afterDecision (s : GraphState) (decision instruction : String) :
    (afterDecision s decision instruction).writeSql = s.writeSql := by
  unfold afterDecision
  dsimp only
  split
  · rfl
  · split <;> rfl

/-- What the sandbox node did when it leaves no answer. -/
lemma sandbox_passed {i : Input} {s s' : GraphState}
    (hs' : (runNode u fl cfg .sandbox i s).2 = .ok s') (hfresh : s'.answered = false) :
    ∃ s₁ content accepted result, Entered cfg s s₁ ∧
      i.model (writePrompt s₁.question) = .ok content ∧
      validateWriteSql u (extractSql content) = .ok accepted ∧
      (runSandbox u i.sandbox (extractSql content)).2 = .ok result ∧
      (runNode u fl cfg .sandbox i s).1 = .validated (extractSql content) ::
        (runSandbox u i.sandbox (extractSql content)).1.map .write ∧
      s' = { s₁ with
        writeSql := some (extractSql content), sandboxResult := some result,
        route := some .approval } := by
  have hstep := runNode_step u fl cfg .sandbox i s
  revert hs'
  generalize runNode u fl cfg .sandbox i s = r at hstep
  cases hstep with
  | stopped _ h =>
    intro hs'
    cases hs'
    rw [h.answered] at hfresh
    cases hfresh
  | modelRaised => nofun
  | sandboxRefused h hmodel hvalid =>
    intro hs'
    cases hs'
    rw [answered_stop] at hfresh
    · cases hfresh
    · exact append_ne_empty (append_ne_empty (append_ne_empty (by decide)))
  | sandboxRan h hmodel hvalid =>
    intro hs'
    dsimp only at hs'
    obtain ⟨result, hresult, rfl⟩ := ok_of_map hs'
    exact ⟨_, _, _, result, h, hmodel, hvalid, hresult, rfl, rfl⟩

/-- What the approval node did when it leaves no answer. -/
lemma approval_passed {i : Input} {s s' : GraphState}
    (hs' : (runNode u fl cfg .approval i s).2 = .ok s') (hfresh : s'.answered = false) :
    ∃ s₁ payload, Entered cfg s s₁ ∧ requestWriteApproval i = .ok payload ∧
      payload.decision = some "continue" ∧
      (runNode u fl cfg .approval i s).1 =
        [.shown (formatApprovalSummary s₁.question (s₁.writeSql.getD "")
            (s₁.sandboxResult.getD []) (isProductionMergeEnabled i.sandbox.productionMerge)),
          .received "continue"] ∧
      s' = afterDecision s₁ "continue" (payload.instruction.getD "") := by
  have hstep := runNode_step u fl cfg .approval i s
  revert hs'
  generalize runNode u fl cfg .approval i s = r at hstep
  cases hstep with
  | stopped _ h =>
    intro hs'
    cases hs'
    rw [h.answered] at hfresh
    cases hfresh
  | modelRaised _ hn => rcases hn with hn | hn <;> cases hn
  | approvalRaised => nofun
  | @approvalDecided s₁ h payload hpayload =>
    intro hs'
    cases hs'
    rcases afterDecision_cases h.fresh (payload.decision.getD "abort")
        (payload.instruction.getD "") with ⟨hdecision, -, -⟩ | ⟨-, hanswer⟩
    · have hcontinue : payload.decision = some "continue" := by
        cases hd : payload.decision with
        | none => simp [hd] at hdecision
        | some decision => rw [← hdecision, hd, Option.getD_some]
      refine ⟨s₁, payload, h, hpayload, hcontinue, ?_, ?_⟩ <;> rw [hdecision]
    · rw [hanswer] at hfresh
      cases hfresh

/-- Every step keeps what is pending. -/
lemma pending_step {h : List GraphVisit} {n n' : Node} {i : Input} {s s' : GraphState}
    (hI : Pending u h n s) (hs' : (runNode u fl cfg n i s).2 = .ok s')
    (hn' : nextNode n s' = some n') :
    Pending u (h ++ [(databaseGraph u fl cfg).visit n i s]) n' s' where
  quiet := by
    have hmerge : n ≠ .merge := by
      rintro rfl
      cases hn'
    rw [productionWrites_append, hI.quiet, productionWrites_singleton]
    exact productionCalls_of_ne_merge hmerge
  candidate := by
    rintro rfl hfresh
    obtain rfl := next_approval hn'
    obtain ⟨s₁, content, accepted, result, -, -, hvalid, -, heffects, rfl⟩ :=
      sandbox_passed hs' hfresh
    refine ⟨_, List.mem_append_right _ (List.mem_singleton_self _), rfl, ?_, _, hvalid⟩
    have hmem : .validated (extractSql content) ∈ (runNode u fl cfg .sandbox i s).1 := by
      rw [heffects]
      exact List.mem_cons_self
    exact hmem
  approved := by
    rintro rfl
    obtain ⟨rfl, hfresh⟩ := next_merge hn'
    obtain ⟨s₁, payload, henter, -, -, heffects, rfl⟩ := approval_passed hs' hfresh
    obtain ⟨v, hv, hvalidated⟩ := hI.candidate rfl henter.before
    have hshown := contains_formatApprovalSummary s₁.question (s₁.writeSql.getD "")
      (s₁.sandboxResult.getD []) (isProductionMergeEnabled i.sandbox.productionMerge)
    have hmem : ∀ e ∈ (runNode u fl cfg .approval i s).1,
        e ∈ ((databaseGraph u fl cfg).visit .approval i s).effects := fun _ he => he
    rw [heffects] at hmem
    rw [henter.keeps.writeSql] at hmem hshown
    rw [writeSql_afterDecision, henter.keeps.writeSql]
    exact ⟨⟨v, List.mem_append_left _ hv, hvalidated⟩,
      ⟨_, List.mem_append_right _ (List.mem_singleton_self _), rfl,
        hmem _ (List.mem_cons_of_mem _ List.mem_cons_self), _, hmem _ List.mem_cons_self, hshown⟩⟩

/-- A visit with a call on the production database, after the visits `earlier`. -/
structure Publishes (u : Unicode) (earlier : List GraphVisit) (v : GraphVisit)
    (call : WriteCall) : Prop where
  merge : v.node = .merge
  enabled : isProductionMergeEnabled v.input.sandbox.productionMerge = true
  approved : Approved u earlier call.query

/-- A visit calls on the production database at most once, and only to publish. -/
lemma publishes_of_visit {h : List GraphVisit} {n : Node} {i : Input} {s : GraphState}
    (hI : Pending u h n s) :
    (productionCalls (runNode u fl cfg n i s).1).length ≤ 1 ∧
      ∀ call ∈ productionCalls (runNode u fl cfg n i s).1,
        Publishes u h ((databaseGraph u fl cfg).visit n i s) call := by
  by_cases hn : n = .merge
  · subst hn
    have hstep := runNode_step u fl cfg .merge i s
    generalize runNode u fl cfg .merge i s = r at hstep
    cases hstep with
    | stopped | mergeSkipped => exact ⟨Nat.zero_le _, by simp [productionCalls]⟩
    | modelRaised _ hn => rcases hn with hn | hn <;> cases hn
    | @merged s₁ hpass hon =>
      have happroved := hI.approved rfl
      rw [← hpass.keeps.writeSql] at happroved
      refine ⟨List.length_filter_le _ _, ?_⟩
      rintro call hcall
      obtain ⟨hcall, -⟩ := List.mem_filter.1 hcall
      obtain rfl : call = _ := List.mem_singleton.1 hcall
      exact ⟨rfl, hon, happroved⟩
  · rw [productionCalls_of_ne_merge hn]
    exact ⟨Nat.zero_le _, by simp⟩

/-- In every run a call on the production database is made at most once, by the merge node while
the production switch is on, with a statement that was validated, shown and approved before. -/
theorem production_write_approved (u : Unicode) (fl : Floats) (cfg : Config)
    (inputs : ℕ → Input) (question : String) :
    (productionWrites (runDatabaseGraph u fl cfg inputs question).1).length ≤ 1 ∧
      ∀ earlier v later, (runDatabaseGraph u fl cfg inputs question).1 = earlier ++ v :: later →
        ∀ call ∈ productionCalls v.effects, Publishes u earlier v call := by
  have hvisits : ∀ earlier v later,
      (runDatabaseGraph u fl cfg inputs question).1 = earlier ++ v :: later →
        productionWrites earlier = [] ∧ (productionCalls v.effects).length ≤ 1 ∧
          ∀ call ∈ productionCalls v.effects, Publishes u earlier v call := by
    intro earlier v later hv
    have hstart : Pending u [] .route (.initial question) := ⟨rfl, nofun, nofun⟩
    have := visits_of_invariant (g := databaseGraph u fl cfg) inputs
      (I := Pending u)
      (Q := fun h v => productionWrites h = [] ∧ (productionCalls v.effects).length ≤ 1 ∧
        ∀ call ∈ productionCalls v.effects, Publishes u h v call)
      (fun h n s hI => ⟨hI.quiet, publishes_of_visit hI⟩)
      (fun h n s s' n' hI hs' hn' => pending_step hI hs' hn') hstart hv
    simpa using this
  refine ⟨?_, fun earlier v later hv => (hvisits earlier v later hv).2.2⟩
  rcases List.eq_nil_or_concat (runDatabaseGraph u fl cfg inputs question).1 with
    hnil | ⟨earlier, v, hconcat⟩
  · rw [hnil]
    exact Nat.zero_le _
  · -- all visits before the last one are quiet
    rw [List.concat_eq_append] at hconcat
    obtain ⟨hquiet, hone, -⟩ := hvisits earlier v [] hconcat
    rw [hconcat, productionWrites_append, hquiet, productionWrites_singleton]
    exact hone

end EcommerceAgent.Database
