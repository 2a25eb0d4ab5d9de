/-
# What the workflow presents as a result

Static edges ignore the route that a node returns, and the product analysis answers from the text
of a refusal.  The runs in which neither happens are determined by the second visit.
-/
import EcommerceAgent.Database.Termination
import EcommerceAgent.Database.TopProducts

open EcommerceAgent.Lib EcommerceAgent.Lib.StateGraph

namespace EcommerceAgent.Database

variable {u : Unicode} {fl : Floats} {cfg : Config} {inputs : ℕ → Input} {question : String}

/-- The node that the route of a state names; `none` is `END`, for `"end"` and whenever there is an
answer. -/
def GraphState.namedNode (s : GraphState) : Option Node :=
  if s.answered then none
  else
    match s.route with
    | some .specialized => some .specialized
    | some .schema => some .schema
    | some .sandbox => some .sandbox
    | some .summarize => some .summarize
    | some .approval => some .approval
    | some .merge => some .merge
    | some .sql => some .sql
    | some .toEnd => none
    | none => none

/-- The query result comes from a read query that MySQL executed in one of the visits. -/
def Backed (visits : List GraphVisit) (queryResult : String) : Prop :=
  ∃ v ∈ visits, ∃ sql text, .read (.executed sql text) ∈ v.effects ∧
    (queryResult = text ∨ queryResult = fallbackLine ++ text)

/-- After each visit comes the node that its route names, and answers are built only from results
of executed queries. -/
structure PresentsResults (visits : List GraphVisit) : Prop where
  routed : ∀ earlier v later s', visits = earlier ++ v :: later → v.result = .ok s' →
    later.head?.map Visit.node = s'.namedNode
  backed : ∀ earlier v later queryResult, visits = earlier ++ v :: later →
    .answeredFrom queryResult ∈ v.effects → Backed earlier queryResult

/-! ### Query results -/

lemma isFailedResult_of_infix {result : String} {marker : String}
    (hmarker : marker ∈ ["查询出现异常", "查询被拒绝", "SQL 连续失败"])
    (h : marker.toList <:+: result.toList) : isFailedResult result = true := by
  unfold isFailedResult
  exact List.any_eq_true.2 ⟨marker, hmarker, (Text.contains_iff _ _).2 h⟩

/-- An exception text is recognised as a failure. -/
lemma isFailedResult_exception (e : String) : isFailedResult ("查询出现异常：" ++ e) = true := by
  refine isFailedResult_of_infix (List.mem_cons_self : "查询出现异常" ∈ _) ?_
  rw [String.toList_append]
  exact ⟨[], "：".toList ++ e.toList, by rw [← List.append_assoc]; rfl⟩

lemma validateTenantScopedReadSql_cases (u : Unicode) (identity : Option DataIdentity)
    (query : List Char) : validateTenantScopedReadSql u identity query = "" ∨
      validateTenantScopedReadSql u identity query ∈ gateTexts := by
  unfold validateTenantScopedReadSql
  dsimp only
  split
  · exact .inl rfl
  · split
    · exact .inr List.mem_cons_self
    · split
      · exact .inr (List.mem_cons_of_mem _ List.mem_cons_self)
      · exact .inl rfl

/-- The texts with which a read is refused. -/
def refusalTexts : List String :=
  "查询被拒绝：只允许执行 SELECT、WITH、SHOW、DESCRIBE/DESC 只读语句。" :: gateTexts

/-- How a read ends. -/
lemma executeReadSqlRaw_cases (u : Unicode) (env : ReadEnv) (query : String) :
    (∃ e, executeReadSqlRaw u env query = .raised e) ∨
      (∃ text ∈ refusalTexts, executeReadSqlRaw u env query = .refused text) ∨
      (∃ e, executeReadSqlRaw u env query = .failed ("查询出现异常：" ++ e)) ∨
      ∃ sql text, executeReadSqlRaw u env query = .executed sql text := by
  unfold executeReadSqlRaw
  split
  · exact .inl ⟨_, rfl⟩
  · dsimp only
    split
    · exact .inr (.inl ⟨_, List.mem_cons_self, rfl⟩)
    · split
      · rename_i herror
        have hgate := (validateTenantScopedReadSql_cases _ _ _).resolve_left herror
        exact .inr (.inl ⟨_, List.mem_cons_of_mem _ hgate, rfl⟩)
      · split
        · exact .inr (.inr (.inl ⟨_, rfl⟩))
        · exact .inr (.inr (.inr ⟨_, _, rfl⟩))

/-- A query whose text is no failure was executed, and the text is its result. -/
lemma executed_of_not_failed {env : ToolEnv} {query : String}
    (h : isFailedResult (queryText (executeSqlQuery u env query)) = false) :
    ∃ sql text, executeSqlQuery u env query = .executed sql text ∧
      queryText (executeSqlQuery u env query) = text := by
  have hrefused : ∀ text ∈ refusalTexts, isFailedResult text = true := by decide +kernel
  unfold executeSqlQuery at h ⊢
  cases hguard : env.guardError with
  | some e =>
    rw [hguard] at h
    cases (isFailedResult_exception e).symm.trans h
  | none =>
    rw [hguard] at h
    dsimp only at h ⊢
    rcases executeReadSqlRaw_cases u env.read query with
      ⟨e, hr⟩ | ⟨text, htext, hr⟩ | ⟨e, hr⟩ | ⟨sql, text, hr⟩
    · rw [hr] at h
      cases (isFailedResult_exception e).symm.trans h
    · rw [hr] at h
      cases (hrefused text htext).symm.trans h
    · rw [hr] at h
      cases (isFailedResult_exception e).symm.trans h
    · exact ⟨sql, text, hr, by rw [hr]; rfl⟩

lemma queryResult_afterQuery (s : GraphState) (sql result : String) :
    (afterQuery cfg s sql result).queryResult = some result := by
  unfold afterQuery
  dsimp only
  split
  · split <;> rfl
  · rfl

/-! ### Routes and edges -/

lemma namedNode_answered {s : GraphState} (h : s.answered = true) : s.namedNode = none := if_pos h

lemma namedNode_afterRoute {s : GraphState} (hfresh : s.answered = false) :
    (afterRoute s).namedNode = some (routedNode s.question) := by
  have hnext := next_afterRoute hfresh
  have hfresh' : (afterRoute s).answered = false := (answered_afterRoute s).trans hfresh
  simp only [nextNode, selectNextAfterRoute, hfresh'] at hnext
  simp only [GraphState.namedNode, hfresh']
  revert hnext
  cases (afterRoute s).route with
  | none =>
    intro h
    cases h
  | some r => cases r <;> simp

/-- At the nodes with a conditional edge or none, the edge follows the route. -/
lemma next_eq_namedNode {n : Node} {i : Input} {s s' : GraphState}
    (hn : n ≠ .sandbox ∧ n ≠ .specialized ∧ n ≠ .schema)
    (hs' : (runNode u fl cfg n i s).2 = .ok s') : nextNode n s' = s'.namedNode := by
  by_cases hanswer : s'.answered = true
  · rw [namedNode_answered hanswer]
    cases n with
    | sandbox => exact absurd rfl hn.1
    | specialized => exact absurd rfl hn.2.1
    | schema => exact absurd rfl hn.2.2
    | route | approval | sql => exact if_pos hanswer
    | merge | summarize => rfl
  · have hfresh : s'.answered = false := by simpa using hanswer
    have hstep := runNode_step u fl cfg n i s
    revert hs'
    generalize runNode u fl cfg n i s = r at hstep
    cases hstep with
    | stopped _ h =>
      intro hs'
      cases hs'
      exact absurd h.answered hanswer
    | modelRaised => nofun
    | routed h =>
      intro hs'
      cases hs'
      exact (next_afterRoute h.fresh).trans (namedNode_afterRoute h.fresh).symm
    | sandboxRefused | sandboxRan => exact absurd rfl hn.1
    | approvalRaised => nofun
    | @approvalDecided s₁ h payload =>
      intro hs'
      cases hs'
      rcases afterDecision_cases h.fresh (payload.decision.getD "abort")
        (payload.instruction.getD "") with ⟨-, -, hroute⟩ | ⟨-, hyes⟩
      · simp [nextNode, selectNextAfterApproval, GraphState.namedNode, hfresh, hroute]
      · exact absurd hyes hanswer
    | mergeSkipped h =>
      intro hs'
      cases hs'
      exact absurd (answered_afterMerge _ _) hanswer
    | merged h =>
      intro hs'
      dsimp only at hs'
      obtain ⟨result, -, rfl⟩ := ok_of_map hs'
      exact absurd (answered_afterMerge _ _) hanswer
    | specializedFound | specializedRaised => exact absurd rfl hn.2.1
    | schemaMissing | schemaFound => exact absurd rfl hn.2.2
    | queried h sql =>
      intro hs'
      cases hs'
      rcases afterQuery_cases h.fresh sql (queryText (executeSqlQuery u i.tool sql)) with
        hyes | ⟨-, hroute⟩
      · exact absurd hyes hanswer
      · by_cases hfailed : isFailedResult (queryText (executeSqlQuery u i.tool sql)) = true <;>
          simp [nextNode, selectNextAfterSql, GraphState.namedNode, hfresh, hroute, hfailed]
    | summarized h =>
      intro hs'
      dsimp only at hs'
      obtain ⟨text, -, rfl⟩ := ok_of_map hs'
      have hroute : ∀ t : GraphState, t.answered = false → t.route = some .toEnd →
          t.namedNode = none := by
        intro t ht hr
        simp [GraphState.namedNode, ht, hr]
      exact (hroute _ hfresh rfl).symm

/-! ### The second visit -/

/-- The condition under which no static edge overrides the route of the second node. -/
def SecondRouted (u : Unicode) (cfg : Config) (i : Input) (question : String) : Node → Prop
  | .sandbox => ∀ content, i.model (writePrompt question) = .ok content →
    ∃ accepted, validateWriteSql u (extractSql content) = .ok accepted
  | .specialized => i.tool.Available
  | _ => ∃ table ∈ schemaTables cfg question, ∃ text, i.tableSchema table = .ok text

section

attribute [local irreducible] executeWriteSqlRaw validateWriteSql analyzeTopProducts
  executeReadSqlRaw runSandbox

variable {s : GraphState} {i : Input}

/-- A stop at a node with a static edge is overridden. -/
lemma not_routed_of_answered {n n' : Node} {s' : GraphState} (hanswer : s'.answered = true)
    (hnext : nextNode n s' = some n') : nextNode n s' ≠ s'.namedNode := by
  rw [namedNode_answered hanswer, hnext]
  nofun

lemma sandbox_routed_iff (hsecond : Second question s) (hround : 2 ≤ cfg.maxGraphRounds)
    (hrep : 1 ≤ cfg.maxRepeatedNodeArgs) :
    (∀ s', (runNode u fl cfg .sandbox i s).2 = .ok s' → nextNode .sandbox s' = s'.namedNode) ↔
      SecondRouted u cfg i question .sandbox := by
  obtain ⟨s₁, henter, -, hrun⟩ := sandbox_second u fl hsecond hround hrep i
  rw [hrun]
  constructor
  · intro h content hmodel
    cases hvalid : validateWriteSql u (extractSql content) with
    | ok accepted => exact ⟨accepted, rfl⟩
    | error e =>
      rw [hmodel] at h
      simp only [trySandbox, hvalid] at h
      refine absurd (h _ rfl) (not_routed_of_answered (answered_stop _ ?_) rfl)
      exact append_ne_empty (append_ne_empty (append_ne_empty (by decide)))
  · intro h s' hs'
    cases hmodel : i.model (writePrompt question) with
    | error e =>
      rw [hmodel] at hs'
      cases hs'
    | ok content =>
      obtain ⟨accepted, hvalid⟩ := h content hmodel
      rw [hmodel] at hs'
      simp only [trySandbox, hvalid] at hs'
      obtain ⟨result, -, rfl⟩ := ok_of_map hs'
      have hfresh : ∀ t : GraphState, t.finalAnswer = s₁.finalAnswer →
          t.route = some .approval → some .approval = t.namedNode := by
        intro t hfinal hroute
        have hanswer : t.answered = false := by
          rw [← henter.fresh, GraphState.answered, GraphState.answered, hfinal]
        simp [GraphState.namedNode, hanswer, hroute]
      exact hfresh _ rfl rfl

lemma specialized_routed_iff (hsecond : Second question s) (hround : 2 ≤ cfg.maxGraphRounds)
    (hrep : 1 ≤ cfg.maxRepeatedNodeArgs) :
    (∀ s', (runNode u fl cfg .specialized i s).2 = .ok s' →
        nextNode .specialized s' = s'.namedNode) ↔
      SecondRouted u cfg i question .specialized := by
  obtain ⟨s₁, args, henter, -, hrun⟩ :=
    specialized_second u fl hsecond hround hrep i
  have hnamed : ∀ t : GraphState, t.finalAnswer = s₁.finalAnswer → t.answered = false := by
    intro t hfinal
    rw [← henter.fresh, GraphState.answered, GraphState.answered, hfinal]
  rw [hrun]
  obtain ⟨-, ⟨havailable, text, -, hresult⟩ | ⟨hnot, e, hresult⟩⟩ :=
    analyzeTopProducts_spec u i.tool
  · refine ⟨fun _ => havailable, fun _ s' hs' => ?_⟩
    simp only [hresult] at hs'
    cases hs'
    simp [nextNode, GraphState.namedNode, hnamed]
  · refine ⟨fun h => ?_, fun h => absurd h hnot⟩
    simp only [hresult] at h
    have hnext := h _ rfl
    simp [nextNode, GraphState.namedNode, hnamed] at hnext

lemma schema_routed_iff (hsecond : Second question s) (hround : 2 ≤ cfg.maxGraphRounds)
    (hrep : 1 ≤ cfg.maxRepeatedNodeArgs) :
    (∀ s', (runNode u fl cfg .schema i s).2 = .ok s' → nextNode .schema s' = s'.namedNode) ↔
      SecondRouted u cfg i question .schema := by
  obtain ⟨s₁, errors, henter, hrun⟩ := schema_second u fl hsecond hround hrep i
  rw [hrun]
  unfold SecondRouted
  rw [← collectSchema_ne_nil]
  by_cases hblocks : (collectSchema i.tableSchema (schemaTables cfg question)).1 = []
  · simp only [hblocks, if_true, ne_eq, not_true_eq_false, iff_false]
    intro h
    exact absurd (h _ rfl) (not_routed_of_answered (answered_stop _ (by decide)) rfl)
  · simp only [hblocks, if_false, ne_eq, not_false_eq_true, iff_true]
    intro s' hs'
    cases hs'
    have hnamed : ∀ t : GraphState, t.finalAnswer = s₁.finalAnswer → t.answered = false := by
      intro t hfinal
      rw [← henter.fresh, GraphState.answered, GraphState.answered, hfinal]
    simp [nextNode, GraphState.namedNode, hnamed]

lemma routedNode_cases (question : String) : routedNode question = .sandbox ∨
    routedNode question = .specialized ∨ routedNode question = .schema := by
  unfold routedNode
  split
  · exact .inl rfl
  · split
    · exact .inr (.inl rfl)
    · exact .inr (.inr rfl)

/-- The edge out of the second node follows the route exactly when a second round is allowed and
the node does not stop or fail. -/
lemma second_routed_iff (hsecond : Second question s) (hrep : 1 ≤ cfg.maxRepeatedNodeArgs) :
    (∀ s', (runNode u fl cfg (routedNode question) i s).2 = .ok s' →
        nextNode (routedNode question) s' = s'.namedNode) ↔
      2 ≤ cfg.maxGraphRounds ∧ SecondRouted u cfg i question (routedNode question) := by
  have hnode := routedNode_cases question
  by_cases hround : 2 ≤ cfg.maxGraphRounds
  · simp only [hround, true_and]
    rcases hnode with h | h | h
    · rw [h]
      exact sandbox_routed_iff hsecond hround hrep
    · rw [h]
      exact specialized_routed_iff hsecond hround hrep
    · rw [h]
      exact schema_routed_iff hsecond hround hrep
  · -- the round limit stops the node, and its static edge goes on
    have hlate : cfg.maxGraphRounds < s.rounds + 1 := by
      rw [hsecond.rounds]
      push_cast
      omega
    obtain ⟨s', hs', hrun⟩ := runNode_late u fl (n := routedNode question) (i := i)
      hlate
    refine ⟨fun h => absurd (h s' (congrArg Prod.snd hrun)) ?_, fun h => absurd h.1 hround⟩
    rcases hnode with h | h | h <;> rw [h] <;> exact not_routed_of_answered hs'.answered rfl

/-! ### Whole runs -/

/-- The inputs with which a run presents results only.  Where the limits let the run go beyond the
route node, two rounds are allowed, and the second node neither stops nor fails: an acceptable
statement for a change, the schema of one table for an ordinary question.  A product question, whose
analysis only ever returns a refusal, needs that the analysis does not raise and that the limit of
two rounds keeps its result from being summarized. -/
def PresentsWhen (u : Unicode) (cfg : Config) (inputs : ℕ → Input) (question : String) : Prop :=
  1 ≤ cfg.maxGraphRounds → 1 ≤ cfg.maxRepeatedNodeArgs →
    2 ≤ cfg.maxGraphRounds ∧ SecondRouted u cfg (inputs 1) question (routedNode question) ∧
      (routedNode question = .specialized → cfg.maxGraphRounds = 2)

/-- What is known before the visit of a node after the visits `h`. -/
structure Sound (cfg : Config) (question : String) (h : List GraphVisit) (n : Node)
    (s : GraphState) : Prop where
  notRoute : n ≠ .route
  second : n = .sandbox ∨ n = .specialized ∨ n = .schema →
    h.length = 1 ∧ Second question s ∧ n = routedNode question
  backed : n = .summarize → s.answered = false →
    Backed h (s.queryResult.getD "") ∨ cfg.maxGraphRounds < s.rounds + 1

/-- The result of a query that is summarized was executed. -/
lemma backed_of_sql {h : List GraphVisit} {s s' : GraphState}
    (hs' : (runNode u fl cfg .sql i s).2 = .ok s') (hnext : nextNode .sql s' = some .summarize) :
    Backed (h ++ [(databaseGraph u fl cfg).visit .sql i s]) (s'.queryResult.getD "") := by
  have hfresh : s'.answered = false := by
    by_contra hanswer
    have hanswer : s'.answered = true := by simpa using hanswer
    cases (if_pos hanswer : nextNode .sql s' = none).symm.trans hnext
  have heffects : ∀ e ∈ (runNode u fl cfg .sql i s).1,
      e ∈ ((databaseGraph u fl cfg).visit .sql i s).effects := fun _ he => he
  have hstep := runNode_step u fl cfg .sql i s
  revert hs' heffects
  generalize runNode u fl cfg .sql i s = r at hstep
  cases hstep with
  | stopped _ h =>
    intro hs'
    cases hs'
    cases h.answered.symm.trans hfresh
  | modelRaised => nofun
  | queried henter sql =>
    intro hs' heffects
    cases hs'
    rcases afterQuery_cases henter.fresh sql (queryText (executeSqlQuery u i.tool sql)) with
      hanswer | ⟨-, hroute⟩
    · cases hanswer.symm.trans hfresh
    · have hsucceeded : isFailedResult (queryText (executeSqlQuery u i.tool sql)) = false := by
        by_contra hfailed
        have hfailed : isFailedResult (queryText (executeSqlQuery u i.tool sql)) = true := by
          simpa using hfailed
        simp [nextNode, selectNextAfterSql, hfresh, hroute, hfailed] at hnext
      obtain ⟨statement, text, hexecuted, htext⟩ := executed_of_not_failed hsucceeded
      refine ⟨_, List.mem_append_right _ (List.mem_singleton_self _), statement, text, ?_, .inl ?_⟩
      · rw [hexecuted] at heffects
        exact heffects _ (List.mem_singleton_self _)
      · rw [queryResult_afterQuery]
        exact htext

/-- Every step keeps what is known. -/
lemma sound_step (hhot : routedNode question = .specialized → cfg.maxGraphRounds = 2)
    {h : List GraphVisit} {n n' : Node} {s s' : GraphState} (hI : Sound cfg question h n s)
    (hs' : (runNode u fl cfg n i s).2 = .ok s') (hn' : nextNode n s' = some n') :
    Sound cfg question (h ++ [(databaseGraph u fl cfg).visit n i s]) n' s' where
  notRoute := next_ne_route hn'
  second := fun hsecond => absurd (next_second hn' hsecond) hI.notRoute
  backed := by
    rintro rfl hfresh
    rcases next_summarize hI.notRoute hn' with rfl | rfl
    · exact .inl (backed_of_sql hs' hn')
    · obtain ⟨-, hsecond, hnode⟩ := hI.second (.inr (.inl rfl))
      obtain ⟨s₁, henter, hrounds⟩ := rounds_of_step hs' hfresh
      have hmax := hhot hnode.symm
      have hnow := henter.rounds
      rw [hsecond.rounds] at hnow
      refine .inr ?_
      rw [hrounds, hnow, hmax]
      decide

/-- An answer is built only from a backed query result. -/
lemma backed_of_visit {h : List GraphVisit} {n : Node} {s : GraphState}
    (hI : Sound cfg question h n s) {queryResult : String}
    (hmem : .answeredFrom queryResult ∈ (runNode u fl cfg n i s).1) : Backed h queryResult := by
  have hstep := runNode_step u fl cfg n i s
  revert hmem
  generalize runNode u fl cfg n i s = r at hstep
  intro hmem
  cases hstep with
  | stopped | modelRaised | routed | sandboxRefused | mergeSkipped | schemaMissing
  | schemaFound => cases hmem
  | sandboxRan => simp at hmem
  | approvalRaised | approvalDecided | merged | queried => simp at hmem
  | specializedFound | specializedRaised => simp at hmem
  | summarized henter =>
    obtain rfl : queryResult = _ := by simpa using hmem
    rcases hI.backed rfl henter.before with hbacked | hlate
    · rw [henter.keeps.queryResult]
      exact hbacked
    · have hbound := henter.bound
      rw [henter.rounds] at hbound
      push_cast at hbound
      omega

/-- Visits from sound states follow their routes and answer from backed results. -/
lemma presents_visit (fl : Floats) {h : List GraphVisit} {n : Node} {s : GraphState}
    (hrep : 1 ≤ cfg.maxRepeatedNodeArgs) (hround : 2 ≤ cfg.maxGraphRounds)
    (hcond : SecondRouted u cfg (inputs 1) question (routedNode question))
    (hI : Sound cfg question h n s) :
    (∀ s', (runNode u fl cfg n (inputs h.length) s).2 = .ok s' → nextNode n s' = s'.namedNode) ∧
      ∀ queryResult, .answeredFrom queryResult ∈ (runNode u fl cfg n (inputs h.length) s).1 →
        Backed h queryResult := by
  refine ⟨?_, fun queryResult => backed_of_visit hI⟩
  by_cases hn : n = .sandbox ∨ n = .specialized ∨ n = .schema
  · obtain ⟨hlength, hsecond, rfl⟩ := hI.second hn
    rw [hlength]
    exact (second_routed_iff hsecond hrep).2 ⟨hround, hcond⟩
  · rw [not_or, not_or] at hn
    exact fun s' => next_eq_namedNode hn

/-- A product question whose result is summarized is answered from a refusal. -/
lemma unbacked_summary (u : Unicode) (fl : Floats) (steps : ℕ) {s : GraphState}
    (hsecond : Second question s)
    (hround : 3 ≤ cfg.maxGraphRounds) (hrep : 1 ≤ cfg.maxRepeatedNodeArgs) {first : GraphVisit}
    (hfirst : first.effects = []) (havailable : (inputs 1).tool.Available) :
    ∃ v w later queryResult,
      ((databaseGraph u fl cfg).runFrom inputs (steps + 2) 1 .specialized s).1 = v :: w :: later ∧
      .answeredFrom queryResult ∈ w.effects ∧ ¬ Backed [first, v] queryResult := by
  obtain ⟨s₁, args, henter, hreported, hrun⟩ :=
    specialized_second u fl hsecond (by omega) hrep (inputs 1)
  obtain ⟨hreads, ⟨-, text, -, hresult⟩ | ⟨hnot, -⟩⟩ := analyzeTopProducts_spec u (inputs 1).tool
  · rw [hresult] at hrun
    obtain ⟨later, hlater⟩ := (databaseGraph u fl cfg).runFrom_cons inputs steps 2
      .summarize { s₁ with queryResult := some (fallbackLine ++ text), route := some .summarize }
    have hs' : ((databaseGraph u fl cfg).node .specialized (inputs 1) s).2 =
        .ok { s₁ with queryResult := some (fallbackLine ++ text), route := some .summarize } :=
      congrArg Prod.snd hrun
    refine ⟨_, _, later, fallbackLine ++ text,
      (congrArg Prod.fst (StateGraph.runFrom_next _ _ _ hs' rfl)).trans (congrArg _ hlater), ?_, ?_⟩
    · -- the summary node passes its guards, since there is a query result
      have hnonempty : fallbackLine ++ text ≠ "" := append_ne_empty (by decide)
      have hbound : (s₁.rounds : ℤ) + 1 ≤ cfg.maxGraphRounds := by
        rw [henter.rounds, hsecond.rounds]
        push_cast
        omega
      obtain ⟨s₂, henter₂, -, hrun₂⟩ := guarded_quiet
        (r := runNode u fl cfg .summarize (inputs 2)
          { s₁ with queryResult := some (fallbackLine ++ text), route := some .summarize })
        rfl (l := [routeEvent question, ("db_node:specialized_tool", args)])
        ⟨hreported.fingerprints, hreported.events, hreported.supervised⟩ (by simp)
        (by simp [routeEvent, Node.name]) henter.fresh hbound hrep
        (.inr (.inr (.inr ⟨rfl, decide_eq_true hnonempty⟩)))
      have hkept : s₂.queryResult = some (fallbackLine ++ text) := henter₂.keeps.queryResult
      have heffects := congrArg Prod.fst hrun₂
      dsimp only at heffects
      rw [hkept] at heffects
      refine Eq.mpr (congrArg (_ ∈ ·) heffects) ?_
      exact List.mem_singleton_self _
    · rintro ⟨v, hv, sql, text', hread, -⟩
      rcases List.mem_cons.1 hv with rfl | hv
      · rw [hfirst] at hread
        cases hread
      · rw [List.mem_singleton.1 hv] at hread
        have hread : Effect.read (.executed sql text') ∈
            (runNode u fl cfg .specialized (inputs 1) s).1 := hread
        rw [hrun] at hread
        obtain ⟨r, hr, heq⟩ := List.mem_map.1 hread
        exact hreads r hr sql text' (Effect.read.inj heq)
  · exact absurd havailable hnot

end

section

variable (hround : 1 ≤ cfg.maxGraphRounds)

include hround

/-- The node after a visit is the one that its edge selects. -/
lemma next_of_visit {earlier later : List GraphVisit} {v : GraphVisit} {s' : GraphState}
    (hv : (runDatabaseGraph u fl cfg inputs question).1 = earlier ++ v :: later)
    (hs' : v.result = .ok s') : later.head?.map Visit.node = nextNode v.node s' :=
  next_visit (run_bound u fl (by omega) inputs question).2 hv hs'

variable (hrep : 1 ≤ cfg.maxRepeatedNodeArgs)

include hrep

/-- A run that presents only results is of the kind above. -/
lemma when_of_presents
    (hpresents : PresentsResults (runDatabaseGraph u fl cfg inputs question).1) :
    2 ≤ cfg.maxGraphRounds ∧ SecondRouted u cfg (inputs 1) question (routedNode question) ∧
      (routedNode question = .specialized → cfg.maxGraphRounds = 2) := by
  obtain ⟨s, hsecond, heffects, -, -, hrun⟩ :=
    run_started u fl hround hrep inputs question
  have hsteps : (cfg.maxGraphRounds + 3).toNat = (cfg.maxGraphRounds + 1).toNat + 2 := by omega
  rw [hsteps] at hrun
  have hvisits := congrArg Prod.fst hrun
  obtain ⟨later, hlater⟩ := (databaseGraph u fl cfg).runFrom_cons inputs
    ((cfg.maxGraphRounds + 1).toNat + 1) 1 (routedNode question) s
  have hlater := hvisits.trans (congrArg (List.cons _) hlater)
  obtain ⟨hround₂, hcond⟩ := (second_routed_iff hsecond hrep).1 fun s' hs' => by
    have hnamed := hpresents.routed [_] _ _ s' hlater hs'
    have hsplit : (runDatabaseGraph u fl cfg inputs question).1 = [_] ++ _ :: later := hlater
    exact (next_of_visit hround hsplit hs').symm.trans hnamed
  refine ⟨hround₂, hcond, fun hhot => ?_⟩
  by_contra htwo
  rw [hhot] at hcond hvisits
  obtain ⟨v, w, later, queryResult, hrest, hanswered, hunbacked⟩ :=
    unbacked_summary u fl (cfg.maxGraphRounds + 1).toNat hsecond (by omega) hrep heffects hcond
  exact hunbacked (hpresents.backed [_, v] w later queryResult
    (hvisits.trans (congrArg (List.cons _) hrest)) hanswered)

/-- The runs of the kind above present only results. -/
lemma presents_of_when (hround₂ : 2 ≤ cfg.maxGraphRounds)
    (hcond : SecondRouted u cfg (inputs 1) question (routedNode question))
    (hhot : routedNode question = .specialized → cfg.maxGraphRounds = 2) :
    PresentsResults (runDatabaseGraph u fl cfg inputs question).1 := by
  obtain ⟨s, hsecond, heffects, -, -, hrun⟩ :=
    run_started u fl hround hrep inputs question
  have hvisits := congrArg Prod.fst hrun
  have hsound : Sound cfg question [(databaseGraph u fl cfg).visit .route (inputs 0)
      (.initial question)] (routedNode question) s := by
    refine ⟨?_, fun _ => ⟨rfl, hsecond, rfl⟩, ?_⟩
    all_goals rcases routedNode_cases question with h | h | h <;> rw [h] <;> nofun
  have hrest : ∀ {earlier v later}, ((databaseGraph u fl cfg).runFrom inputs
        (cfg.maxGraphRounds + 3).toNat 1 (routedNode question) s).1 = earlier ++ v :: later →
      (∀ s', v.result = .ok s' → nextNode v.node s' = s'.namedNode) ∧
        ∀ queryResult, .answeredFrom queryResult ∈ v.effects →
          Backed ((databaseGraph u fl cfg).visit .route (inputs 0) (.initial question) :: earlier)
            queryResult :=
    fun hv => visits_of_invariant (g := databaseGraph u fl cfg) inputs
      (I := Sound cfg question)
      (Q := fun h v => (∀ s', v.result = .ok s' → nextNode v.node s' = s'.namedNode) ∧
        ∀ queryResult, Effect.answeredFrom queryResult ∈ v.effects → Backed h queryResult)
      (fun h n s hI => presents_visit fl hrep hround₂ hcond hI)
      (fun h n s s' n' hI => sound_step hhot hI) hsound hv
  refine ⟨fun earlier v later s' hv hs' => (next_of_visit hround hv hs').trans ?_,
    fun earlier v later queryResult hv hanswered => ?_⟩
  · rcases cons_eq (hvisits.symm.trans hv) with ⟨-, rfl, -⟩ | ⟨earlier', rfl, hv'⟩
    · exact next_eq_namedNode ⟨nofun, nofun, nofun⟩ hs'
    · exact (hrest hv').1 s' hs'
  · rcases cons_eq (hvisits.symm.trans hv) with ⟨-, rfl, -⟩ | ⟨earlier', rfl, hv'⟩
    · rw [heffects] at hanswered
      cases hanswered
    · exact (hrest hv').2 queryResult hanswered

end

/-- A run that the limits stop at the first node presents nothing. -/
lemma presents_of_stopped
    (hlimit : ¬ (1 ≤ cfg.maxGraphRounds ∧ 1 ≤ cfg.maxRepeatedNodeArgs)) :
    PresentsResults (runDatabaseGraph u fl cfg inputs question).1 := by
  obtain ⟨s, hanswer, heffects, hresult, hrun⟩ := run_stopped u fl hlimit inputs question
  have hsingle : ∀ {earlier v later},
      (runDatabaseGraph u fl cfg inputs question).1 = earlier ++ v :: later →
      later = [] ∧ v = (databaseGraph u fl cfg).visit .route (inputs 0) (.initial question) := by
    intro earlier v later hv
    rcases hrun with hrun | hrun
    · rw [hrun] at hv
      simp at hv
    · rcases cons_eq (hrun.symm.trans hv) with ⟨-, rfl, rfl⟩ | ⟨earlier', -, hrest⟩
      · exact ⟨rfl, rfl⟩
      · simp at hrest
  refine ⟨fun earlier v later s' hv hs' => ?_, fun earlier v later queryResult hv hmem => ?_⟩
  · obtain ⟨rfl, rfl⟩ := hsingle hv
    rw [← Except.ok.inj (hresult.symm.trans hs'), namedNode_answered hanswer]
    rfl
  · obtain ⟨-, rfl⟩ := hsingle hv
    rw [heffects] at hmem
    cases hmem

/-- The workflow presents only results, and follows the routes of its nodes, exactly in the runs
described by `PresentsWhen`. -/
theorem presentsResults_iff (u : Unicode) (fl : Floats) (cfg : Config) (inputs : ℕ → Input)
    (question : String) :
    PresentsResults (runDatabaseGraph u fl cfg inputs question).1 ↔
      PresentsWhen u cfg inputs question := by
  constructor
  · exact fun hpresents hround hrep => when_of_presents hround hrep hpresents
  · intro hwhen
    by_cases hlimit : 1 ≤ cfg.maxGraphRounds ∧ 1 ≤ cfg.maxRepeatedNodeArgs
    · obtain ⟨hround₂, hcond, hhot⟩ := hwhen hlimit.1 hlimit.2
      exact presents_of_when hlimit.1 hlimit.2 hround₂ hcond hhot
    · exact presents_of_stopped hlimit

/-- A product question is not answered from an executed query. -/
theorem hotProducts_unbacked :
    ¬ PresentsResults (runDatabaseGraph Unicode.asciiOnly Floats.integers ⟨8, 2, 5, 2⟩
      (fun _ => { Input.offline with
        tool := ⟨none, ⟨.ok (), none, fun _ => .error "offline"⟩,
          ⟨.ok (), none, fun _ => .error "offline"⟩⟩ }) "分析爆品").1 := by
  intro hpresents
  have hhot : routedNode "分析爆品" = .specialized := by decide +kernel
  obtain ⟨-, -, htwo⟩ := when_of_presents (by decide) (by decide) hpresents
  cases htwo hhot

end EcommerceAgent.Database
