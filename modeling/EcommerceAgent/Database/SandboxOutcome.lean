/-
# A failed sandbox does not block publication

The outcome of the sandbox is shown to the human, and no edge of the graph looks at it.  The runs
in which a statement that failed in the sandbox is published nevertheless are exactly those in
which the human approves it and the production switch is on.
-/
import EcommerceAgent.Database.Publication
import EcommerceAgent.Database.Sandbox

open EcommerceAgent.Lib EcommerceAgent.Lib.StateGraph EcommerceAgent.Lib.PyFormat

namespace EcommerceAgent.Database

variable {u : Unicode} {fl : Floats} {cfg : Config} {inputs : ℕ → Input} {question S : String}

/-- Nothing is published after a failed execution in the sandbox, and only statements that the
sandbox executed are published. -/
structure BlocksFailed (visits : List GraphVisit) : Prop where
  failed : ∀ v ∈ visits, ∀ call d, .write call ∈ v.effects → call.isProduction = false →
    call.result = .ok d → d.isOk = false → productionWrites visits = []
  succeeded : ∀ call ∈ productionWrites visits, ∃ v ∈ visits, ∃ trial d,
    .write trial ∈ v.effects ∧ trial.isProduction = false ∧ trial.query = call.query ∧
      trial.result = .ok d ∧ d.isOk = true

/-- A statement that fails in the sandbox `S` gets through: the question asks for a change, the
limits allow four visits, the model answers with an acceptable statement, MySQL refuses it in the
sandbox, the human answers `continue`, and the production switch is on. -/
def PublishesFailed (u : Unicode) (cfg : Config) (inputs : ℕ → Input) (question S : String) :
    Prop :=
  (isWriteQuestion question = true ∧ 4 ≤ cfg.maxGraphRounds ∧ 1 ≤ cfg.maxRepeatedNodeArgs) ∧
    (∃ content head normalized configured e,
      (inputs 1).model (writePrompt question) = .ok content ∧
        validateWriteSql u (extractSql content) = .ok (head, normalized) ∧
        (inputs 1).sandbox.write.config = .ok configured ∧
        (inputs 1).sandbox.write.mysql S normalized = .error e) ∧
    (∃ payload, requestWriteApproval (inputs 2) = .ok payload ∧
      payload.decision = some "continue") ∧
    isProductionMergeEnabled (inputs 3).sandbox.productionMerge = true

/-! ### The way of a statement -/

section

attribute [local irreducible] executeWriteSqlRaw validateWriteSql

/-- The call of the sandbox for the model's answer `content` at the second visit. -/
def trialOf (u : Unicode) (inputs : ℕ → Input) (S content : String) : WriteCall :=
  ⟨some S, extractSql content,
    executeWriteSqlRaw u (inputs 1).sandbox.write (extractSql content) (some S)⟩

lemma runSandbox_of_database {env : SandboxEnv} (hS : env.database = some S)
    (writeSql : String) :
    runSandbox u env writeSql =
      ([⟨some S, writeSql, executeWriteSqlRaw u env.write writeSql (some S)⟩],
        (executeWriteSqlRaw u env.write writeSql (some S)).map (sandboxExecuted S)) := by
  unfold runSandbox
  rw [hS]

/-- The statement of the state comes from the model's answer `content`, was accepted, and was
tried in the sandbox. -/
structure Tried (u : Unicode) (cfg : Config) (inputs : ℕ → Input) (question S content : String)
    (h : List GraphVisit) (s : GraphState) : Prop where
  write : isWriteQuestion question = true
  allowed : 1 ≤ cfg.maxRepeatedNodeArgs
  model : (inputs 1).model (writePrompt question) = .ok content
  valid : ∃ accepted, validateWriteSql u (extractSql content) = .ok accepted
  statement : s.writeSql = some (extractSql content)
  run : ∃ v ∈ h, .write (trialOf u inputs S content) ∈ v.effects
  result : ∃ d, (trialOf u inputs S content).result = .ok d

/-- What is known before the visit of a node after the visits `h`. -/
structure Chain (u : Unicode) (cfg : Config) (inputs : ℕ → Input) (question S : String)
    (h : List GraphVisit) (n : Node) (s : GraphState) : Prop where
  second : n = .sandbox → h.length = 1 ∧ Second question s ∧ isWriteQuestion question = true
  third : n = .approval → s.answered = false → h.length = 2 ∧ s.rounds = 2 ∧
    ∃ content, Tried u cfg inputs question S content h s
  fourth : n = .merge → h.length = 3 ∧ s.rounds = 3 ∧
    (∃ content, Tried u cfg inputs question S content h s) ∧
    ∃ payload, requestWriteApproval (inputs 2) = .ok payload ∧ payload.decision = some "continue"

/-- The fields that a decision for `continue` keeps. -/
lemma afterDecision_continue (s : GraphState) (instruction : String) :
    (afterDecision s "continue" instruction).rounds = s.rounds ∧
      (afterDecision s "continue" instruction).writeSql = s.writeSql := ⟨rfl, rfl⟩

lemma Tried.later {content : String} {h : List GraphVisit} {s s' : GraphState}
    (ht : Tried u cfg inputs question S content h s) (hs' : s'.writeSql = s.writeSql)
    (v : GraphVisit) : Tried u cfg inputs question S content (h ++ [v]) s' where
  write := ht.write
  allowed := ht.allowed
  model := ht.model
  valid := ht.valid
  statement := hs'.trans ht.statement
  run := by
    obtain ⟨w, hw, hrun⟩ := ht.run
    exact ⟨w, List.mem_append_left _ hw, hrun⟩
  result := ht.result

/-- Every step after the first keeps the chain. -/
lemma chain_step (hS : (inputs 1).sandbox.database = some S) {h : List GraphVisit}
    {n n' : Node} {s s' : GraphState} (hroute : n ≠ .route)
    (hI : Chain u cfg inputs question S h n s)
    (hs' : (runNode u fl cfg n (inputs h.length) s).2 = .ok s') (hn' : nextNode n s' = some n') :
    Chain u cfg inputs question S
      (h ++ [(databaseGraph u fl cfg).visit n (inputs h.length) s]) n' s' where
  second := by
    rintro rfl
    exact absurd (next_second hn' (.inl rfl)) hroute
  third := by
    rintro rfl hfresh
    obtain rfl := next_approval hn'
    obtain ⟨hlength, hsecond, hwrite⟩ := hI.second rfl
    rw [hlength] at hs' ⊢
    obtain ⟨s₁, content, accepted, result, henter, hmodel, hvalid, hresult, heffects, rfl⟩ :=
      sandbox_passed hs' hfresh
    rw [henter.keeps.question, hsecond.asked] at hmodel
    rw [runSandbox_of_database hS] at hresult heffects
    obtain ⟨d, hd, -⟩ := ok_of_map hresult
    have hmem : .write (trialOf u inputs S content) ∈
        (runNode u fl cfg .sandbox (inputs 1) s).1 := by
      rw [heffects]
      exact List.mem_cons_of_mem _ List.mem_cons_self
    refine ⟨by simp [hlength], by simpa [hsecond.rounds] using henter.rounds, content, ?_⟩
    exact ⟨hwrite, henter.allowed, hmodel, ⟨_, hvalid⟩, rfl,
      ⟨_, List.mem_append_right _ (List.mem_singleton_self _), hmem⟩, ⟨d, hd⟩⟩
  fourth := by
    rintro rfl
    obtain ⟨rfl, hfresh⟩ := next_merge hn'
    obtain ⟨s₁, payload, henter, hpayload, hcontinue, -, rfl⟩ := approval_passed hs' hfresh
    obtain ⟨hlength, hrounds, content, htried⟩ := hI.third rfl henter.before
    obtain ⟨hround', hstatement⟩ := afterDecision_continue s₁ (payload.instruction.getD "")
    rw [hlength] at hpayload
    refine ⟨by simp [hlength], ?_, ⟨content, htried.later ?_ _⟩, payload, hpayload, hcontinue⟩
    · rw [hround', henter.rounds, hrounds]
    · rw [hstatement, henter.keeps.writeSql]

/-- The calls of `execute_write_sql_raw` in a run, other than on the production database, are
those of the sandbox. -/
lemma trial_of_visit (hS : (inputs 1).sandbox.database = some S) {h : List GraphVisit} {n : Node}
    {s : GraphState} (hI : Chain u cfg inputs question S h n s) {call : WriteCall}
    (hcall : .write call ∈ (runNode u fl cfg n (inputs h.length) s).1)
    (hproduction : call.isProduction = false) :
    ∃ content, (inputs 1).model (writePrompt question) = .ok content ∧
      call = trialOf u inputs S content := by
  by_cases hn : n = .sandbox
  · subst hn
    obtain ⟨hlength, hsecond, -⟩ := hI.second rfl
    rw [hlength] at hcall
    have hstep := runNode_step u fl cfg .sandbox (inputs 1) s
    revert hcall
    generalize runNode u fl cfg .sandbox (inputs 1) s = r at hstep
    cases hstep with
    | stopped | modelRaised | sandboxRefused =>
      intro hcall
      cases hcall
    | @sandboxRan s₁ henter content accepted hmodel hvalid =>
      intro hcall
      rw [henter.keeps.question, hsecond.asked] at hmodel
      rw [runSandbox_of_database hS] at hcall
      simp only [List.map_cons, List.map_nil, List.mem_cons, List.not_mem_nil, or_false,
        reduceCtorEq, false_or, Effect.write.injEq] at hcall
      exact ⟨content, hmodel, hcall⟩
  · exfalso
    have hstep := runNode_step u fl cfg n (inputs h.length) s
    revert hcall
    generalize runNode u fl cfg n (inputs h.length) s = r at hstep
    intro hcall
    cases hstep with
    | sandboxRan | sandboxRefused => exact hn rfl
    | stopped | modelRaised | routed | mergeSkipped | schemaMissing | schemaFound => cases hcall
    | approvalRaised | approvalDecided | queried | summarized =>
      simp at hcall
    | specializedFound | specializedRaised => simp at hcall
    | merged =>
      obtain rfl : call = _ := by simpa using hcall
      simp [WriteCall.isProduction] at hproduction

/-- What is known of a run with a call on the production database. -/
structure Published (u : Unicode) (cfg : Config) (inputs : ℕ → Input) (question S : String)
    (h : List GraphVisit) (call : WriteCall) : Prop where
  bound : 4 ≤ cfg.maxGraphRounds
  enabled : isProductionMergeEnabled (inputs 3).sandbox.productionMerge = true
  approved : ∃ payload, requestWriteApproval (inputs 2) = .ok payload ∧
    payload.decision = some "continue"
  tried : ∃ content s, Tried u cfg inputs question S content h s ∧
    call.query = extractSql content

lemma published_of_visit {h : List GraphVisit} {n : Node} {s : GraphState}
    (hI : Chain u cfg inputs question S h n s) {call : WriteCall}
    (hcall : call ∈ productionCalls (runNode u fl cfg n (inputs h.length) s).1) :
    Published u cfg inputs question S h call := by
  by_cases hn : n = .merge
  · subst hn
    obtain ⟨hlength, hrounds, ⟨content, htried⟩, happroved⟩ := hI.fourth rfl
    rw [hlength] at hcall
    have hstep := runNode_step u fl cfg .merge (inputs 3) s
    revert hcall
    generalize runNode u fl cfg .merge (inputs 3) s = r at hstep
    intro hcall
    cases hstep with
    | stopped | mergeSkipped => cases hcall
    | modelRaised _ hn => rcases hn with hn | hn <;> cases hn
    | @merged s₁ henter hon =>
      obtain ⟨hcall, -⟩ := List.mem_filter.1 hcall
      obtain rfl : call = _ := List.mem_singleton.1 hcall
      have hbound := henter.bound
      rw [henter.rounds, hrounds] at hbound
      refine ⟨by exact_mod_cast hbound, hon, happroved, content, s, htried, ?_⟩
      rw [henter.keeps.writeSql, htried.statement, Option.getD_some]
  · rw [productionCalls_of_ne_merge hn] at hcall
    cases hcall

/-- The chain along a run from the second visit on. -/
lemma chain_run (hS : (inputs 1).sandbox.database = some S)
    {s : GraphState} (hsecond : Second question s) (first : GraphVisit) {steps : ℕ}
    {earlier later : List GraphVisit} {v : GraphVisit}
    (hv : ((databaseGraph u fl cfg).runFrom inputs steps 1 (routedNode question) s).1 =
      earlier ++ v :: later) :
    (∀ call, .write call ∈ v.effects → call.isProduction = false →
        ∃ content, (inputs 1).model (writePrompt question) = .ok content ∧
          call = trialOf u inputs S content) ∧
      ∀ call ∈ productionCalls v.effects,
        Published u cfg inputs question S (first :: earlier) call := by
  have hstart : Chain u cfg inputs question S [first] (routedNode question) s := by
    unfold routedNode
    split
    · rename_i hwrite
      exact ⟨fun _ => ⟨rfl, hsecond, hwrite⟩, nofun, nofun⟩
    · split <;> exact ⟨nofun, nofun, nofun⟩
  have hroute : routedNode question ≠ .route := by
    unfold routedNode
    split
    · nofun
    · split <;> nofun
  exact visits_of_invariant (g := databaseGraph u fl cfg) inputs (h := [first])
    (I := fun h n s => n ≠ .route ∧ Chain u cfg inputs question S h n s)
    (Q := fun h v => (∀ call, .write call ∈ v.effects → call.isProduction = false →
        ∃ content, (inputs 1).model (writePrompt question) = .ok content ∧
          call = trialOf u inputs S content) ∧
      ∀ call ∈ productionCalls v.effects, Published u cfg inputs question S h call)
    (fun h n s hI => ⟨fun call hcall hp => trial_of_visit hS hI.2 hcall hp,
      fun call hcall => published_of_visit hI.2 hcall⟩)
    (fun h n s s' n' hI hs' hn' => ⟨next_ne_route hn', chain_step hS hI.1 hI.2 hs' hn'⟩)
    ⟨hroute, hstart⟩ hv

/-! ### A run that publishes -/

/-- The events of the write path. -/
abbrev sandboxEvent (question : String) : String × GuardArgs :=
  ("db_node:sandbox", .question question)

abbrev approvalEvent (writeSql : String) : String × GuardArgs :=
  ("db_node:approval", .writeSql writeSql)

/-- The sandbox node tries an acceptable statement at the second visit. -/
lemma sandbox_quiet (fl : Floats) {i : Input} {s : GraphState} (hsecond : Second question s)
    (hround : 2 ≤ cfg.maxGraphRounds) (hrep : 1 ≤ cfg.maxRepeatedNodeArgs) {content : String}
    {accepted : String × String} {result : Dict}
    (hmodel : i.model (writePrompt question) = .ok content)
    (hvalid : validateWriteSql u (extractSql content) = .ok accepted)
    (hresult : (runSandbox u i.sandbox (extractSql content)).2 = .ok result) :
    ∃ s', runNode u fl cfg .sandbox i s =
        (.validated (extractSql content) ::
          (runSandbox u i.sandbox (extractSql content)).1.map .write, .ok s') ∧
      s'.answered = false ∧ s'.rounds = 2 ∧ s'.writeSql = some (extractSql content) ∧
      Reported s' [routeEvent question, sandboxEvent question] := by
  obtain ⟨s₁, henter, hreported, hrun⟩ := sandbox_second u fl hsecond hround hrep i
  rw [hmodel] at hrun
  dsimp only at hrun
  unfold trySandbox at hrun
  rw [hvalid] at hrun
  dsimp only at hrun
  rw [hresult] at hrun
  exact ⟨{ s₁ with
    writeSql := some (extractSql content), sandboxResult := some result,
    route := some .approval }, hrun, henter.fresh,
    henter.rounds.trans (by rw [hsecond.rounds]), rfl,
    ⟨hreported.fingerprints, hreported.events, hreported.supervised⟩⟩

/-- The approval node lets the statement pass on `continue` at the third visit. -/
lemma approval_quiet (u : Unicode) (fl : Floats) {i : Input} {s : GraphState} {writeSql : String}
    (hfresh : s.answered = false) (hrounds : s.rounds = 2) (hstatement : s.writeSql = some writeSql)
    (hreported : Reported s [routeEvent question, sandboxEvent question])
    (hround : 3 ≤ cfg.maxGraphRounds) (hrep : 1 ≤ cfg.maxRepeatedNodeArgs)
    {payload : ApprovalPayload} (hpayload : requestWriteApproval i = .ok payload)
    (hcontinue : payload.decision = some "continue") :
    ∃ s', (runNode u fl cfg .approval i s).2 = .ok s' ∧
      nextNode .approval s' = some .merge ∧ s'.answered = false ∧ s'.rounds = 3 ∧
      s'.writeSql = some writeSql ∧
      Reported s' [routeEvent question, sandboxEvent question, approvalEvent writeSql] := by
  obtain ⟨s₁, henter, hreported', hrun⟩ := guarded_quiet
    (r := runNode u fl cfg .approval i s) rfl hreported (by simp)
    (by simp [routeEvent, sandboxEvent, Node.name]) hfresh (by rw [hrounds]; push_cast; omega)
    hrep (.inr (.inl rfl))
  rw [hpayload] at hrun
  dsimp only at hrun
  rw [hcontinue, Option.getD_some] at hrun
  rw [hstatement] at hreported'
  obtain ⟨-, hanswer, hroute⟩ | ⟨hno, -⟩ := afterDecision_cases henter.fresh "continue"
    (payload.instruction.getD "")
  · refine ⟨afterDecision s₁ "continue" (payload.instruction.getD ""), congrArg Prod.snd hrun,
      ?_, hanswer, ?_, henter.keeps.writeSql.trans hstatement,
      ⟨hreported'.fingerprints, hreported'.events, hreported'.supervised⟩⟩
    · simp [nextNode, selectNextAfterApproval, hanswer, hroute]
    · exact henter.rounds.trans (by rw [hrounds])
  · exact absurd rfl hno

/-- The merge node publishes the statement at the fourth visit. -/
lemma merge_quiet (u : Unicode) (fl : Floats) {i : Input} {s : GraphState} {writeSql : String}
    (hfresh : s.answered = false) (hrounds : s.rounds = 3)
    (hreported : Reported s
      [routeEvent question, sandboxEvent question, approvalEvent writeSql])
    (hround : 4 ≤ cfg.maxGraphRounds) (hrep : 1 ≤ cfg.maxRepeatedNodeArgs)
    (hon : isProductionMergeEnabled i.sandbox.productionMerge = true) :
    productionCalls (runNode u fl cfg .merge i s).1 ≠ [] := by
  obtain ⟨s₁, henter, -, hrun⟩ := guarded_quiet (r := runNode u fl cfg .merge i s) rfl hreported
    (by simp) (by simp [routeEvent, sandboxEvent, approvalEvent, Node.name]) hfresh
    (by rw [hrounds]; push_cast; omega) hrep (.inr (.inr (.inl rfl)))
  rw [hon] at hrun
  rw [hrun]
  simp [productionCalls, Effect.call?, WriteCall.isProduction]

/-- In a run that publishes a statement which failed in the sandbox, the sandbox call and the call
on the production database are both made. -/
lemma run_publishes (fl : Floats) (hS : (inputs 1).sandbox.database = some S)
    (h : PublishesFailed u cfg inputs question S) :
    (∃ v ∈ (runDatabaseGraph u fl cfg inputs question).1, ∃ call d,
      .write call ∈ v.effects ∧ call.isProduction = false ∧ call.result = .ok d ∧
        d.isOk = false) ∧
      productionWrites (runDatabaseGraph u fl cfg inputs question).1 ≠ [] := by
  obtain ⟨⟨hwrite, hround, hrep⟩, ⟨content, head, normalized, configured, e, hmodel, hvalid,
    hconfig, hmysql⟩, ⟨payload, hpayload, hcontinue⟩, hon⟩ := h
  have hset : S ≠ "" := by simpa using (Option.filter_eq_some_iff.1 hS).2
  obtain ⟨s, hsecond, -, -, -, hrun⟩ := run_started u fl (by omega) hrep inputs question
  have hnode : routedNode question = .sandbox := if_pos hwrite
  obtain ⟨steps, hsteps⟩ : ∃ steps, (cfg.maxGraphRounds + 3).toNat = steps + 3 :=
    ⟨(cfg.maxGraphRounds).toNat, by omega⟩
  rw [hnode, hsteps] at hrun
  have htrial := executeWriteSql_of_acceptable (acceptable_of_validate hvalid)
    (inputs 1).sandbox.write (some S)
  rw [hconfig] at htrial
  obtain ⟨-, d, hd, hok⟩ := htrial
  have hdefault : defaultSchema configured (some S) = S := if_neg hset
  rw [hdefault, hmysql] at hok
  have hresult : (runSandbox u (inputs 1).sandbox (extractSql content)).2 =
      .ok (sandboxExecuted S d) := by
    rw [runSandbox_of_database hS, hd]
    rfl
  obtain ⟨s₂, hsandbox, hfresh₂, hrounds₂, hstatement₂, hreported₂⟩ :=
    sandbox_quiet fl hsecond (by omega) hrep hmodel hvalid hresult
  obtain ⟨s₃, happroval, hnext₃, hfresh₃, hrounds₃, -, hreported₃⟩ :=
    approval_quiet u fl hfresh₂ hrounds₂ hstatement₂ hreported₂ (by omega) hrep
      hpayload hcontinue
  have hmerge := merge_quiet u fl hfresh₃ hrounds₃ hreported₃ hround hrep hon
  rw [runSandbox_of_database hS] at hsandbox
  have hsecondRun := StateGraph.runFrom_next (g := databaseGraph u fl cfg) inputs (steps + 2) 1
    (congrArg Prod.snd hsandbox)
    (show nextNode .sandbox s₂ = some .approval from rfl)
  have hthirdRun := StateGraph.runFrom_next (g := databaseGraph u fl cfg) inputs (steps + 1) 2
    happroval hnext₃
  rw [hsecondRun, hthirdRun] at hrun
  have hlast := StateGraph.visit_mem_runFrom (g := databaseGraph u fl cfg) inputs
    steps 3 .merge s₃
  rw [hrun]
  refine ⟨⟨_, List.mem_cons_of_mem _ List.mem_cons_self, trialOf u inputs S content, d, ?_, ?_,
    hd, hok⟩, ?_⟩
  · have hmem : .write (trialOf u inputs S content) ∈
        (runNode u fl cfg .sandbox (inputs 1) s).1 := by
      rw [hsandbox]
      exact List.mem_cons_of_mem _ List.mem_cons_self
    exact hmem
  · simpa [trialOf, WriteCall.isProduction] using hset
  · obtain ⟨call, hcall⟩ := List.exists_mem_of_ne_nil _ hmerge
    refine List.ne_nil_of_mem (List.mem_flatMap.2
      ⟨(databaseGraph u fl cfg).visit .merge (inputs 3) s₃, ?_, hcall⟩)
    exact List.mem_cons_of_mem _ (List.mem_cons_of_mem _ (List.mem_cons_of_mem _ hlast))

/-- What a call on the production database, and every other call, say about the run. -/
lemma run_calls (u : Unicode) (fl : Floats) (cfg : Config) (question : String)
    (hS : (inputs 1).sandbox.database = some S) :
    (∀ v ∈ (runDatabaseGraph u fl cfg inputs question).1, ∀ call,
      .write call ∈ v.effects → call.isProduction = false →
        ∃ content, (inputs 1).model (writePrompt question) = .ok content ∧
          call = trialOf u inputs S content) ∧
      ∀ call ∈ productionWrites (runDatabaseGraph u fl cfg inputs question).1,
        Published u cfg inputs question S (runDatabaseGraph u fl cfg inputs question).1 call := by
  by_cases hlimit : 1 ≤ cfg.maxGraphRounds ∧ 1 ≤ cfg.maxRepeatedNodeArgs
  · obtain ⟨s, hsecond, heffects, -, -, hrun⟩ := run_started u fl hlimit.1 hlimit.2 inputs
      question
    have hvisit : ∀ v ∈ (runDatabaseGraph u fl cfg inputs question).1,
        v.effects = [] ∨ ∃ earlier later, (runDatabaseGraph u fl cfg inputs question).1 =
          (databaseGraph u fl cfg).visit .route (inputs 0) (.initial question) ::
            (earlier ++ v :: later) ∧
          ((databaseGraph u fl cfg).runFrom inputs (cfg.maxGraphRounds + 3).toNat 1
            (routedNode question) s).1 = earlier ++ v :: later := by
      intro v hv
      rw [hrun] at hv ⊢
      rcases List.mem_cons.1 hv with rfl | hv
      · exact .inl heffects
      · obtain ⟨earlier, later, hsplit⟩ := List.append_of_mem hv
        exact .inr ⟨earlier, later, by rw [hsplit], hsplit⟩
    refine ⟨fun v hv call hcall hproduction => ?_, fun call hcall => ?_⟩
    · rcases hvisit v hv with hnone | ⟨earlier, later, -, hsplit⟩
      · rw [hnone] at hcall
        cases hcall
      · exact (chain_run hS hsecond ((databaseGraph u fl cfg).visit .route (inputs 0)
          (.initial question)) hsplit).1 call hcall hproduction
    · obtain ⟨v, hv, hcall⟩ := List.mem_flatMap.1 hcall
      rcases hvisit v hv with hnone | ⟨earlier, later, hall, hsplit⟩
      · rw [hnone] at hcall
        cases hcall
      · have hpublished := (chain_run hS hsecond ((databaseGraph u fl cfg).visit .route (inputs 0)
          (.initial question)) hsplit).2 call hcall
        refine ⟨hpublished.bound, hpublished.enabled, hpublished.approved, ?_⟩
        obtain ⟨content, s', htried, hquery⟩ := hpublished.tried
        obtain ⟨w, hw, htrial⟩ := htried.run
        refine ⟨content, s', { htried with run := ⟨w, ?_, htrial⟩ }, hquery⟩
        rw [hall, ← List.cons_append]
        exact List.mem_append_left _ hw
  · -- the run has at most the first visit, which calls nothing
    obtain ⟨s, -, heffects, -, hrun⟩ := run_stopped u fl hlimit inputs question
    have hnone : ∀ v ∈ (runDatabaseGraph u fl cfg inputs question).1, v.effects = [] := by
      intro v hv
      rcases hrun with hrun | hrun
      · rw [hrun] at hv
        cases hv
      · rw [hrun] at hv
        rw [List.mem_singleton.1 hv]
        exact heffects
    refine ⟨fun v hv call hcall => ?_, fun call hcall => ?_⟩
    · rw [hnone v hv] at hcall
      cases hcall
    · obtain ⟨v, hv, hcall⟩ := List.mem_flatMap.1 hcall
      rw [hnone v hv] at hcall
      cases hcall

/-- A statement that is published although the run is not of the kind above was executed in the
sandbox. -/
lemma trial_succeeded (hS : (inputs 1).sandbox.database = some S)
    (hnot : ¬ PublishesFailed u cfg inputs question S) {h : List GraphVisit} {call : WriteCall}
    (hpublished : Published u cfg inputs question S h call) :
    ∃ content d, (inputs 1).model (writePrompt question) = .ok content ∧
      call.query = extractSql content ∧
      (∃ v ∈ h, .write (trialOf u inputs S content) ∈ v.effects) ∧
      (trialOf u inputs S content).result = .ok d ∧ d.isOk = true := by
  have hset : S ≠ "" := by simpa using (Option.filter_eq_some_iff.1 hS).2
  obtain ⟨content, s, htried, hquery⟩ := hpublished.tried
  obtain ⟨⟨head, normalized⟩, hvalid⟩ := htried.valid
  obtain ⟨d, hd⟩ := htried.result
  refine ⟨content, d, htried.model, hquery, htried.run, hd, ?_⟩
  have htrial := executeWriteSql_of_acceptable (acceptable_of_validate hvalid)
    (inputs 1).sandbox.write (some S)
  cases hconfig : (inputs 1).sandbox.write.config with
  | error e =>
    rw [hconfig] at htrial
    cases hd.symm.trans htrial
  | ok configured =>
    rw [hconfig] at htrial
    obtain ⟨-, d', hd', hok⟩ := htrial
    have hsame : d = d' := Except.ok.inj (hd.symm.trans hd')
    have hdefault : defaultSchema configured (some S) = S := if_neg hset
    rw [hdefault] at hok
    rw [hsame, hok]
    cases hmysql : (inputs 1).sandbox.write.mysql S normalized with
    | ok rows => rfl
    | error e =>
      exact absurd ⟨⟨htried.write, hpublished.bound, htried.allowed⟩,
        ⟨content, head, normalized, configured, e, htried.model, hvalid, hconfig, hmysql⟩,
        hpublished.approved, hpublished.enabled⟩ hnot

/-- With a sandbox database configured, a failed sandbox blocks publication in a run if and only
if the run does not publish a statement that MySQL refused in the sandbox. -/
theorem blocksFailed_iff (u : Unicode) (fl : Floats) (cfg : Config) (inputs : ℕ → Input)
    (question : String) {S : String} (hS : (inputs 1).sandbox.database = some S) :
    BlocksFailed (runDatabaseGraph u fl cfg inputs question).1 ↔
      ¬ PublishesFailed u cfg inputs question S := by
  constructor
  · intro hblocks hpublishes
    obtain ⟨⟨v, hv, call, d, hcall, hproduction, hresult, hfailed⟩, hwrites⟩ :=
      run_publishes fl hS hpublishes
    exact hwrites (hblocks.failed v hv call d hcall hproduction hresult hfailed)
  · intro hnot
    have hset : S ≠ "" := by simpa using (Option.filter_eq_some_iff.1 hS).2
    obtain ⟨htrials, hpublished⟩ := run_calls u fl cfg question hS
    refine ⟨fun v hv call d hcall hproduction hresult hfailed => ?_, fun call hcall => ?_⟩
    · by_contra hwrites
      obtain ⟨published, hmem⟩ := List.exists_mem_of_ne_nil _ hwrites
      obtain ⟨content, d', hmodel, -, -, hd', hok⟩ := trial_succeeded hS hnot (hpublished _ hmem)
      obtain ⟨content', hmodel', rfl⟩ := htrials v hv call hcall hproduction
      obtain rfl : content' = content := Except.ok.inj (hmodel'.symm.trans hmodel)
      obtain rfl : d = d' := Except.ok.inj (hresult.symm.trans hd')
      rw [hok] at hfailed
      cases hfailed
    · obtain ⟨content, d, -, hquery, ⟨v, hv, htrial⟩, hd, hok⟩ :=
        trial_succeeded hS hnot (hpublished call hcall)
      exact ⟨v, hv, trialOf u inputs S content, d, htrial,
        by simpa [trialOf, WriteCall.isProduction] using hset, hquery.symm, hd, hok⟩

end

/-- Visits at which the model writes a `DELETE`, the sandbox `sandbox` lacks the table, the human
answers `continue` and the production switch is on. -/
def brokenSandbox (_ : ℕ) : Input :=
  { Input.offline with
    sandbox := ⟨some "sandbox", some "true", none, .ok "shop", fun database _ =>
      if database = "sandbox" then .error "1146 (42S02): Table 'sandbox.orders' doesn't exist"
      else .ok 1⟩
    model := fun _ => .ok "DELETE FROM orders WHERE id = 1"
    threadId := some "thread"
    approval := .ok ⟨some "continue", some ""⟩ }

lemma brokenSandbox_publishes :
    PublishesFailed Unicode.asciiOnly ⟨8, 2, 5, 2⟩ brokenSandbox "删除订单 1" "sandbox" :=
  ⟨by decide +kernel, ⟨"DELETE FROM orders WHERE id = 1", "delete",
    "DELETE FROM orders WHERE id = 1", "shop", _, rfl, by decide +kernel, rfl, rfl⟩,
    ⟨⟨some "continue", some ""⟩, rfl, rfl⟩, by decide +kernel⟩

/-- The sandbox refuses the statement, and the merge node executes it on the production database. -/
theorem failed_sandbox_published :
    ¬ BlocksFailed (runDatabaseGraph Unicode.asciiOnly Floats.integers ⟨8, 2, 5, 2⟩ brokenSandbox
      "删除订单 1").1 := by
  intro hblocks
  obtain ⟨⟨v, hv, call, d, hcall, hproduction, hresult, hfailed⟩, hwrites⟩ :=
    run_publishes Floats.integers (S := "sandbox") rfl brokenSandbox_publishes
  exact hwrites (hblocks.failed v hv call d hcall hproduction hresult hfailed)

theorem blocksFailed_brokenSandbox :
    BlocksFailed (runDatabaseGraph Unicode.asciiOnly Floats.integers ⟨8, 2, 5, 2⟩ brokenSandbox
        "删除订单 1").1 ↔
      ¬ PublishesFailed Unicode.asciiOnly ⟨8, 2, 5, 2⟩ brokenSandbox "删除订单 1" "sandbox" :=
  blocksFailed_iff Unicode.asciiOnly Floats.integers ⟨8, 2, 5, 2⟩ brokenSandbox "删除订单 1" rfl

end EcommerceAgent.Database
