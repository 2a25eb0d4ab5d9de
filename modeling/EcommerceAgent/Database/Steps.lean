/-
# What a visit of a node can do

One inversion lemma for all nodes of the database graph, from which the properties of whole runs
are derived, and the visits that no guard stops.
-/
import EcommerceAgent.Database.Workflow

open EcommerceAgent.Lib EcommerceAgent.Lib.PyFormat

namespace EcommerceAgent.Database

variable {u : Unicode} {fl : Floats} {cfg : Config}

lemma ok_of_map {ε α β : Type*} {f : α → β} {r : Except ε α} {b : β} (h : r.map f = .ok b) :
    ∃ a, r = .ok a ∧ b = f a := by
  cases r with
  | error e => cases h
  | ok a => exact ⟨a, rfl, (Except.ok.inj h).symm⟩

/-! ### The beginning of a node -/

lemma unlessAnswered_true {s : GraphState} (h : s.answered = true) (body : GraphState → Step) :
    unlessAnswered s body = ([], .ok s) := if_pos h

lemma unlessAnswered_false {s : GraphState} (h : s.answered = false) (body : GraphState → Step) :
    unlessAnswered s body = body s := if_neg (by simp [h])

/-- Either a guard stops the node, or its body runs. -/
lemma guarded_cases (sup : Option String) (node : Node) (args : GuardArgs) (s : GraphState)
    (body : GraphState → Step) :
    (∃ s', Stopped s s' ∧ guarded u cfg sup node args s body = ([], .ok s')) ∨
      ∃ s₁, Entered cfg s s₁ ∧ guarded u cfg sup node args s body = body s₁ := by
  unfold guarded
  rcases bumpRound_spec cfg s with hstop | henter
  · exact .inl ⟨_, hstop, unlessAnswered_true hstop.answered _⟩
  · rw [unlessAnswered_false henter.fresh]
    rcases recordNodeGuard_spec u sup node args henter with hstop | henter'
    · exact .inl ⟨_, hstop, unlessAnswered_true hstop.answered _⟩
    · exact .inr ⟨_, henter', unlessAnswered_false henter'.fresh _⟩

/-- A node that reports a new event in a round within the limit runs its body. -/
lemma guarded_quiet {r : Step} {sup : Option String} {node : Node} {args : GuardArgs}
    {s : GraphState} {body : GraphState → Step} (hr : r = guarded u cfg sup node args s body)
    {l : List (String × GuardArgs)} (hl : Reported s l) (hlen : l.length < 20)
    (hnew : ("db_node:" ++ node.name, args) ∉ l) (hfresh : s.answered = false)
    (hround : (s.rounds : ℤ) + 1 ≤ cfg.maxGraphRounds) (hrep : 1 ≤ cfg.maxRepeatedNodeArgs)
    (hsup : l.length + 1 < 3 ∨ node = .approval ∨ node = .merge ∨
      node = .summarize ∧ s.queryResult.any (· ≠ "") = true) :
    ∃ s₁, Entered cfg s s₁ ∧ Reported s₁ (l ++ [("db_node:" ++ node.name, args)]) ∧
      r = body s₁ := by
  have hbump : bumpRound cfg s = s.nextRound := by
    rcases bumpRound_cases cfg s with ⟨hlimit, -⟩ | ⟨-, h⟩
    · omega
    · exact h
  have hbumped : Reported s.nextRound l := ⟨hl.fingerprints, hl.events, hl.supervised⟩
  obtain ⟨g, hg, hreported⟩ := recordNodeGuard_quiet u sup hbumped hlen hnew hrep hsup
  refine ⟨g.snapshot s.nextRound, ⟨⟨?_, rfl, by exact_mod_cast hround, hfresh, hfresh⟩, hrep⟩,
    hreported, ?_⟩
  · exact (keeps_nextRound s).trans (keeps_snapshot g _)
  · rw [hr]
    unfold guarded
    rw [hbump, unlessAnswered_false (s := s.nextRound) hfresh, hg]
    exact unlessAnswered_false (s := g.snapshot s.nextRound) hfresh _

/-! ### Decisions and query results -/

/-- Only the decision `continue` leaves the approval node without an answer. -/
lemma afterDecision_cases {s : GraphState} (hfresh : s.answered = false)
    (decision instruction : String) :
    (decision = "continue" ∧ (afterDecision s decision instruction).answered = false ∧
        (afterDecision s decision instruction).route = some .merge) ∨
      (decision ≠ "continue" ∧ (afterDecision s decision instruction).answered = true) := by
  unfold afterDecision
  dsimp only
  split
  · rename_i h
    exact .inl ⟨h, hfresh, rfl⟩
  · rename_i h
    refine .inr ⟨h, ?_⟩
    split
    · exact answered_stop _ (append_ne_empty (by decide))
    · exact answered_stop _ (by decide)

/-- A query leaves the state with an answer, or it names the next node. -/
lemma afterQuery_cases {s : GraphState} (hfresh : s.answered = false) (sql result : String) :
    (afterQuery cfg s sql result).answered = true ∨
      (afterQuery cfg s sql result).answered = false ∧
        (afterQuery cfg s sql result).route =
          some (if isFailedResult result then .sql else .summarize) := by
  unfold afterQuery
  dsimp only
  split
  · split
    · refine .inl (answered_stop _ ?_)
      exact append_ne_empty (append_ne_empty (append_ne_empty (by decide)))
    · exact .inr ⟨hfresh, rfl⟩
  · exact .inr ⟨hfresh, rfl⟩

/-! ### The cases of a visit -/

/-- What a visit of a node with input `i` in state `s` can do. -/
inductive NodeStep (u : Unicode) (fl : Floats) (cfg : Config) (i : Input) (s : GraphState) :
    Node → Step → Prop
  | stopped (n : Node) {s' : GraphState} (h : Stopped s s') : NodeStep u fl cfg i s n ([], .ok s')
  | modelRaised {n : Node} {s₁ : GraphState} (h : Passed cfg s s₁)
      (hn : n = .sandbox ∨ n = .sql) (e : String) : NodeStep u fl cfg i s n ([], .error e)
  | routed {s₁ : GraphState} (h : Entered cfg s s₁) :
      NodeStep u fl cfg i s .route ([], .ok (afterRoute s₁))
  | sandboxRefused {s₁ : GraphState} (h : Entered cfg s s₁) {content e : String}
      (hmodel : i.model (writePrompt s₁.question) = .ok content)
      (hvalid : validateWriteSql u (extractSql content) = .error e) :
      NodeStep u fl cfg i s .sandbox
        ([], .ok ({ s₁ with
          writeSql := some (extractSql content), sandboxResult := some (refusal e) }.stop
          ("数据库变更请求未通过安全校验，已终止。原因：" ++ e ++ "\n\n候选 SQL：\n" ++
            extractSql content)))
  | sandboxRan {s₁ : GraphState} (h : Entered cfg s s₁) {content : String}
      {accepted : String × String} (hmodel : i.model (writePrompt s₁.question) = .ok content)
      (hvalid : validateWriteSql u (extractSql content) = .ok accepted) :
      NodeStep u fl cfg i s .sandbox
        (.validated (extractSql content) ::
            (runSandbox u i.sandbox (extractSql content)).1.map .write,
          (runSandbox u i.sandbox (extractSql content)).2.map fun sandboxResult =>
            { s₁ with
              writeSql := some (extractSql content), sandboxResult := some sandboxResult,
              route := some .approval })
  | approvalRaised {s₁ : GraphState} (h : Entered cfg s s₁) (summary e : String) :
      NodeStep u fl cfg i s .approval ([.shown summary], .error e)
  | approvalDecided {s₁ : GraphState} (h : Entered cfg s s₁) {payload : ApprovalPayload}
      (hpayload : requestWriteApproval i = .ok payload) :
      NodeStep u fl cfg i s .approval
        ([.shown (formatApprovalSummary s₁.question (s₁.writeSql.getD "")
            (s₁.sandboxResult.getD []) (isProductionMergeEnabled i.sandbox.productionMerge)),
          .received (payload.decision.getD "abort")],
          .ok (afterDecision s₁ (payload.decision.getD "abort") (payload.instruction.getD "")))
  | mergeSkipped {s₁ : GraphState} (h : Entered cfg s s₁) :
      NodeStep u fl cfg i s .merge ([], .ok (afterMerge s₁ unpublished))
  | merged {s₁ : GraphState} (h : Entered cfg s s₁)
      (hon : isProductionMergeEnabled i.sandbox.productionMerge = true) :
      NodeStep u fl cfg i s .merge
        ([.write ⟨none, s₁.writeSql.getD "",
          executeWriteSqlRaw u i.sandbox.write (s₁.writeSql.getD "") none⟩],
          (executeWriteSqlRaw u i.sandbox.write (s₁.writeSql.getD "") none).map (afterMerge s₁))
  | specializedFound {s₁ : GraphState} (h : Entered cfg s s₁) {result : String}
      (hresult : (analyzeTopProducts u i.tool).2 = .ok result) :
      NodeStep u fl cfg i s .specialized ((analyzeTopProducts u i.tool).1.map .read,
        .ok { s₁ with queryResult := some result, route := some .summarize })
  | specializedRaised {s₁ : GraphState} (h : Entered cfg s s₁) {e : String}
      (hresult : (analyzeTopProducts u i.tool).2 = .error e) :
      NodeStep u fl cfg i s .specialized ((analyzeTopProducts u i.tool).1.map .read,
        .ok { s₁ with errors := s₁.errors ++ [e], route := some .schema })
  | schemaMissing {s₁ : GraphState} (h : Entered cfg s s₁) (errors : List String)
      (hblocks : (collectSchema i.tableSchema (schemaTables cfg s.question)).1 = []) :
      NodeStep u fl cfg i s .schema
        ([], .ok ({ s₁ with errors := errors }.stop "没有拿到可用表结构，数据库状态机已结束。"))
  | schemaFound {s₁ : GraphState} (h : Entered cfg s s₁) (errors : List String) (text : String)
      (hblocks : (collectSchema i.tableSchema (schemaTables cfg s.question)).1 ≠ []) :
      NodeStep u fl cfg i s .schema
        ([], .ok { s₁ with errors := errors, schemaText := some text, route := some .sql })
  | queried {s₁ : GraphState} (h : Entered cfg s s₁) (sql : String) :
      NodeStep u fl cfg i s .sql ([.read (executeSqlQuery u i.tool sql)],
        .ok (afterQuery cfg s₁ sql (queryText (executeSqlQuery u i.tool sql))))
  | summarized {s₁ : GraphState} (h : Entered cfg s s₁) :
      NodeStep u fl cfg i s .summarize
        ([.answeredFrom (s₁.queryResult.getD "")], (summaryText fl i s₁).map s₁.stop)

variable (u fl cfg)

/-- Every visit is one of the cases. -/
lemma runNode_step (n : Node) (i : Input) (s : GraphState) :
    NodeStep u fl cfg i s n (runNode u fl cfg n i s) := by
  cases n with
  | route =>
    simp only [runNode, routeNode]
    rcases guarded_cases i.supervisorEnabled .route (.question s.question) s _ with
      ⟨s', hs', h⟩ | ⟨s₁, hs₁, h⟩
    · rw [h]
      exact .stopped _ hs'
    · rw [h]
      exact .routed hs₁
  | sandbox =>
    simp only [runNode, sandboxNode]
    rcases guarded_cases i.supervisorEnabled .sandbox (.question s.question) s _ with
      ⟨s', hs', h⟩ | ⟨s₁, hs₁, h⟩
    · rw [h]
      exact .stopped _ hs'
    · rw [h]
      split
      · exact .modelRaised hs₁.toPassed (.inl rfl) _
      · rename_i hmodel
        unfold trySandbox
        split
        · rename_i hvalid
          exact .sandboxRefused hs₁ hmodel hvalid
        · rename_i hvalid
          exact .sandboxRan hs₁ hmodel hvalid
  | approval =>
    simp only [runNode, approvalNode]
    rcases guarded_cases i.supervisorEnabled .approval (.writeSql (s.writeSql.getD "")) s _ with
      ⟨s', hs', h⟩ | ⟨s₁, hs₁, h⟩
    · rw [h]
      exact .stopped _ hs'
    · rw [h]
      split
      · exact .approvalRaised hs₁ _ _
      · rename_i hpayload
        exact .approvalDecided hs₁ hpayload
  | merge =>
    simp only [runNode, mergeNode]
    rcases guarded_cases i.supervisorEnabled .merge (.productionMergeEnabled
      (isProductionMergeEnabled i.sandbox.productionMerge)) s _ with ⟨s', hs', h⟩ | ⟨s₁, hs₁, h⟩
    · rw [h]
      exact .stopped _ hs'
    · rw [h]
      split
      · exact .mergeSkipped hs₁
      · rename_i hon
        exact .merged hs₁ (by simpa using hon)
  | specialized =>
    simp only [runNode, specializedToolNode]
    rcases guarded_cases i.supervisorEnabled .specialized _ s _ with ⟨s', hs', h⟩ | ⟨s₁, hs₁, h⟩
    · rw [h]
      exact .stopped _ hs'
    · rw [h]
      split
      · rename_i hresult
        exact .specializedFound hs₁ hresult
      · rename_i hresult
        exact .specializedRaised hs₁ hresult
  | schema =>
    simp only [runNode, schemaNode]
    rcases guarded_cases i.supervisorEnabled .schema (.tables (schemaTables cfg s.question)) s _
      with ⟨s', hs', h⟩ | ⟨s₁, hs₁, h⟩
    · rw [h]
      exact .stopped _ hs'
    · rw [h]
      split
      · rename_i hblocks
        exact .schemaMissing hs₁ _ hblocks
      · rename_i hblocks
        exact .schemaFound hs₁ _ _ hblocks
  | sql =>
    simp only [runNode, sqlNode]
    rcases bumpRound_spec cfg s with hstop | henter
    · rw [unlessAnswered_true hstop.answered]
      exact .stopped _ hstop
    · rw [unlessAnswered_false henter.fresh]
      split
      · exact .modelRaised henter (.inr rfl) _
      · rename_i content _
        rcases recordNodeGuard_spec u i.supervisorEnabled .sql (.sql (extractSql content)) henter
          with hstop | henter'
        · rw [unlessAnswered_true hstop.answered]
          exact .stopped _ hstop
        · rw [unlessAnswered_false henter'.fresh]
          exact .queried henter' _
  | summarize =>
    simp only [runNode, summarizeNode]
    rcases guarded_cases i.supervisorEnabled .summarize _ s _ with ⟨s', hs', h⟩ | ⟨s₁, hs₁, h⟩
    · rw [h]
      exact .stopped _ hs'
    · rw [h]
      exact .summarized hs₁

/-! ### The edges -/

/-- No edge leads back to the route node. -/
lemma next_ne_route {n n' : Node} {s : GraphState} (h : nextNode n s = some n') :
    n' ≠ .route := by
  rintro rfl
  cases n with
  | route | approval | sql =>
    simp only [nextNode, selectNextAfterRoute, selectNextAfterApproval,
      selectNextAfterSql] at h
    split at h
    · cases h
    · split at h <;> cases h
  | specialized | schema | sandbox | merge | summarize => cases h

/-- Only the route node leads to a node of the second visit. -/
lemma next_second {n n' : Node} {s : GraphState} (h : nextNode n s = some n')
    (hn' : n' = .sandbox ∨ n' = .specialized ∨ n' = .schema) : n = .route := by
  cases n with
  | route => rfl
  | approval | sql =>
    simp only [nextNode, selectNextAfterApproval, selectNextAfterSql] at h
    split at h
    · cases h
    · split at h <;> cases h <;> simp at hn'
  | specialized | schema | sandbox => cases h; simp at hn'
  | merge | summarize => cases h

/-- Behind the route node, only the SQL node and the specialized node lead to the summary. -/
lemma next_summarize {n : Node} {s : GraphState} (hroute : n ≠ .route)
    (h : nextNode n s = some .summarize) : n = .sql ∨ n = .specialized := by
  cases n with
  | sql => exact .inl rfl
  | specialized => exact .inr rfl
  | route => exact absurd rfl hroute
  | approval =>
    simp only [nextNode, selectNextAfterApproval] at h
    split at h
    · cases h
    · split at h <;> cases h
  | schema | sandbox | merge | summarize => cases h

/-! ### The first visit -/

/-- The node that `_route_node` selects for a question. -/
def routedNode (question : String) : Node :=
  if isWriteQuestion question then .sandbox
  else if isHotProductQuestion question then .specialized
  else .schema

/-- The fields that `_route_node` sets. -/
lemma afterRoute_eq (s : GraphState) :
    afterRoute s = { s with
      route := (afterRoute s).route, analysisType := (afterRoute s).analysisType } := by
  unfold afterRoute
  split
  · rfl
  · split <;> rfl

lemma answered_afterRoute (s : GraphState) : (afterRoute s).answered = s.answered := by
  rw [afterRoute_eq]
  rfl

/-- The edge out of the route node follows the classification. -/
lemma next_afterRoute {s : GraphState} (hfresh : s.answered = false) :
    nextNode .route (afterRoute s) = some (routedNode s.question) := by
  have hfresh' : (afterRoute s).answered = false := (answered_afterRoute s).trans hfresh
  unfold routedNode
  split
  · rename_i hwrite
    have hroute : (afterRoute s).route = some .sandbox := by simp [afterRoute, hwrite]
    simp [nextNode, selectNextAfterRoute, hfresh', hroute]
  · rename_i hwrite
    split
    · rename_i hhot
      have hroute : (afterRoute s).route = some .specialized := by simp [afterRoute, hwrite, hhot]
      simp [nextNode, selectNextAfterRoute, hfresh', hroute]
    · rename_i hhot
      have hroute : (afterRoute s).route = some .schema := by simp [afterRoute, hwrite, hhot]
      simp [nextNode, selectNextAfterRoute, hfresh', hroute]

/-- A product question gets its analysis type. -/
lemma analysisType_afterRoute {s : GraphState} (h : routedNode s.question = .specialized) :
    (afterRoute s).analysisType = some .hotProducts := by
  unfold routedNode at h
  unfold afterRoute
  split
  · rename_i hwrite
    simp [hwrite] at h
  · rename_i hwrite
    split
    · rfl
    · rename_i hhot
      simp [hwrite, hhot] at h

/-- The event that `_route_node` reports. -/
abbrev routeEvent (question : String) : String × GuardArgs := ("db_node:route", .question question)

/-- The state before the second visit of a run. -/
structure Second (question : String) (s : GraphState) : Prop where
  asked : s.question = question
  rounds : s.rounds = 1
  fresh : s.answered = false
  queryResult : s.queryResult = none
  hot : routedNode question = .specialized → s.analysisType = some .hotProducts
  reported : Reported s [routeEvent question]

variable {cfg}

/-- The route node passes on the question when the limits allow one visit. -/
lemma route_quiet (hround : 1 ≤ cfg.maxGraphRounds) (hrep : 1 ≤ cfg.maxRepeatedNodeArgs)
    (i : Input) (question : String) :
    ∃ s', runNode u fl cfg .route i (.initial question) = ([], .ok s') ∧
      nextNode .route s' = some (routedNode question) ∧ Second question s' := by
  obtain ⟨s₁, henter, hreported, hrun⟩ := guarded_quiet
    (r := runNode u fl cfg .route i (.initial question)) rfl (reported_initial question)
    (by decide) List.not_mem_nil rfl (by simpa [GraphState.initial] using hround) hrep
    (.inl (by decide))
  have hasked : s₁.question = question := henter.keeps.question
  refine ⟨afterRoute s₁, hrun, ?_, ?_⟩
  · rw [← hasked]
    exact next_afterRoute henter.fresh
  · have hhot : routedNode question = .specialized →
        (afterRoute s₁).analysisType = some .hotProducts := by
      rw [← hasked]
      exact analysisType_afterRoute
    have heq := afterRoute_eq s₁
    revert heq hhot
    generalize afterRoute s₁ = s'
    intro hhot heq
    rw [heq]
    exact ⟨hasked, henter.rounds, henter.fresh, henter.keeps.queryResult, hhot,
      ⟨hreported.fingerprints, hreported.events, hreported.supervised⟩⟩

/-- The route node stops the run when the limits allow no visit. -/
lemma route_stopped (hlimit : ¬ (1 ≤ cfg.maxGraphRounds ∧ 1 ≤ cfg.maxRepeatedNodeArgs))
    (i : Input) (question : String) :
    ∃ s', runNode u fl cfg .route i (.initial question) = ([], .ok s') ∧
      s'.answered = true := by
  simp only [runNode, routeNode]
  rcases guarded_cases i.supervisorEnabled .route
    (.question question) (.initial question) _ with ⟨s', hs', h⟩ | ⟨s₁, hs₁, -⟩
  · exact ⟨s', h, hs'.answered⟩
  · have hbound := hs₁.bound
    rw [hs₁.rounds] at hbound
    exact absurd ⟨by simpa [GraphState.initial] using hbound, hs₁.allowed⟩ hlimit

/-- A run that the limits allow to start goes on with the node for the question. -/
lemma run_started (hround : 1 ≤ cfg.maxGraphRounds)
    (hrep : 1 ≤ cfg.maxRepeatedNodeArgs) (inputs : ℕ → Input) (question : String) :
    ∃ s, Second question s ∧
      ((databaseGraph u fl cfg).visit .route (inputs 0) (.initial question)).effects = [] ∧
      ((databaseGraph u fl cfg).visit .route (inputs 0) (.initial question)).result = .ok s ∧
      nextNode .route s = some (routedNode question) ∧
      runDatabaseGraph u fl cfg inputs question =
        ((databaseGraph u fl cfg).visit .route (inputs 0) (.initial question) ::
            ((databaseGraph u fl cfg).runFrom inputs (cfg.maxGraphRounds + 3).toNat 1
              (routedNode question) s).1,
          ((databaseGraph u fl cfg).runFrom inputs (cfg.maxGraphRounds + 3).toNat 1
            (routedNode question) s).2) := by
  obtain ⟨s, hrun, hnext, hsecond⟩ := route_quiet u fl hround hrep (inputs 0)
    question
  have hlimit : (cfg.maxGraphRounds + 4).toNat = (cfg.maxGraphRounds + 3).toNat + 1 := by omega
  refine ⟨s, hsecond, congrArg Prod.fst hrun, congrArg Prod.snd hrun, hnext, ?_⟩
  unfold runDatabaseGraph StateGraph.run
  rw [hlimit]
  exact StateGraph.runFrom_next _ _ _ (congrArg Prod.snd hrun) hnext

/-- A run that the limits do not allow to start makes no second visit. -/
lemma run_stopped
    (hlimit : ¬ (1 ≤ cfg.maxGraphRounds ∧ 1 ≤ cfg.maxRepeatedNodeArgs)) (inputs : ℕ → Input)
    (question : String) :
    ∃ s, s.answered = true ∧
      ((databaseGraph u fl cfg).visit .route (inputs 0) (.initial question)).effects = [] ∧
      ((databaseGraph u fl cfg).visit .route (inputs 0) (.initial question)).result = .ok s ∧
      ((runDatabaseGraph u fl cfg inputs question).1 = [] ∨
        (runDatabaseGraph u fl cfg inputs question).1 =
          [(databaseGraph u fl cfg).visit .route (inputs 0) (.initial question)]) := by
  obtain ⟨s, hrun, hanswer⟩ := route_stopped u fl hlimit (inputs 0) question
  refine ⟨s, hanswer, congrArg Prod.fst hrun, congrArg Prod.snd hrun, ?_⟩
  unfold runDatabaseGraph StateGraph.run
  cases hsteps : (cfg.maxGraphRounds + 4).toNat with
  | zero => exact .inl rfl
  | succ steps =>
    have hnext : nextNode .route s = none := if_pos hanswer
    exact .inr (StateGraph.runFrom_last (congrArg Prod.snd hrun) hnext)

/-! ### The second visit -/

/-- A node beyond the round limit stops. -/
lemma runNode_late {n : Node} {i : Input} {s : GraphState}
    (hlate : cfg.maxGraphRounds < s.rounds + 1) :
    ∃ s', Stopped s s' ∧ runNode u fl cfg n i s = ([], .ok s') := by
  have hstep := runNode_step u fl cfg n i s
  have hno : ∀ s₁, ¬ Passed cfg s s₁ := by
    intro s₁ h
    have hbound := h.bound
    rw [h.rounds] at hbound
    push_cast at hbound
    omega
  generalize runNode u fl cfg n i s = r at hstep
  cases hstep with
  | stopped _ h => exact ⟨_, h, rfl⟩
  | modelRaised h => exact absurd h (hno _)
  | routed h | sandboxRefused h | sandboxRan h | approvalRaised h | approvalDecided h
  | mergeSkipped h | merged h | specializedFound h | specializedRaised h | schemaMissing h
  | schemaFound h | queried h | summarized h => exact absurd h.toPassed (hno _)

/-- The sandbox node asks the model at the second visit. -/
lemma sandbox_second {s : GraphState} (hsecond : Second question s)
    (hround : 2 ≤ cfg.maxGraphRounds) (hrep : 1 ≤ cfg.maxRepeatedNodeArgs) (i : Input) :
    ∃ s₁, Entered cfg s s₁ ∧
      Reported s₁ [routeEvent question, ("db_node:sandbox", .question question)] ∧
      runNode u fl cfg .sandbox i s = match i.model (writePrompt question) with
        | .error e => ([], .error e)
        | .ok content => trySandbox u i.sandbox (extractSql content) s₁ := by
  obtain ⟨s₁, henter, hreported, hrun⟩ := guarded_quiet (r := runNode u fl cfg .sandbox i s) rfl
    hsecond.reported (by simp) (by simp [routeEvent, Node.name]) hsecond.fresh
    (by rw [hsecond.rounds]; push_cast; omega) hrep (.inl (by simp))
  have hasked : s₁.question = question := henter.keeps.question.trans hsecond.asked
  rw [hasked] at hrun
  rw [hsecond.asked] at hreported
  exact ⟨s₁, henter, hreported, hrun⟩

/-- The specialized node calls the product analysis at the second visit. -/
lemma specialized_second {s : GraphState} (hsecond : Second question s)
    (hround : 2 ≤ cfg.maxGraphRounds) (hrep : 1 ≤ cfg.maxRepeatedNodeArgs) (i : Input) :
    ∃ s₁, ∃ args, Entered cfg s s₁ ∧
      Reported s₁ [routeEvent question, ("db_node:specialized_tool", args)] ∧
      runNode u fl cfg .specialized i s = ((analyzeTopProducts u i.tool).1.map .read,
        match (analyzeTopProducts u i.tool).2 with
        | .ok result => .ok { s₁ with queryResult := some result, route := some .summarize }
        | .error e => .ok { s₁ with errors := s₁.errors ++ [e], route := some .schema }) := by
  obtain ⟨s₁, henter, hreported, hrun⟩ := guarded_quiet (r := runNode u fl cfg .specialized i s)
    rfl hsecond.reported (by simp) (by simp [routeEvent, Node.name]) hsecond.fresh
    (by rw [hsecond.rounds]; push_cast; omega) hrep (.inl (by simp))
  refine ⟨s₁, _, henter, hreported, hrun.trans ?_⟩
  generalize analyzeTopProducts u i.tool = r
  obtain ⟨reads, result⟩ := r
  cases result <;> rfl

/-- The schema node looks up the tables at the second visit. -/
lemma schema_second {s : GraphState} (hsecond : Second question s)
    (hround : 2 ≤ cfg.maxGraphRounds) (hrep : 1 ≤ cfg.maxRepeatedNodeArgs) (i : Input) :
    ∃ s₁, ∃ errors, Entered cfg s s₁ ∧
      runNode u fl cfg .schema i s = ([],
        if (collectSchema i.tableSchema (schemaTables cfg question)).1 = [] then
          .ok ({ s₁ with errors := errors }.stop "没有拿到可用表结构，数据库状态机已结束。")
        else .ok { s₁ with
          errors := errors
          schemaText := some (String.intercalate "\n\n"
            (collectSchema i.tableSchema (schemaTables cfg question)).1)
          route := some .sql }) := by
  obtain ⟨s₁, henter, -, hrun⟩ := guarded_quiet (r := runNode u fl cfg .schema i s)
    rfl hsecond.reported (by simp) (by simp [routeEvent, Node.name]) hsecond.fresh
    (by rw [hsecond.rounds]; push_cast; omega) hrep (.inl (by simp))
  rw [← hsecond.asked]
  refine ⟨s₁, s₁.errors ++ (collectSchema i.tableSchema (schemaTables cfg s.question)).2, henter,
    hrun.trans ?_⟩
  dsimp only
  split <;> rfl

/-- Some table of the list has a schema. -/
lemma collectSchema_ne_nil {tableSchema : String → Except String String} {tables : List String} :
    (collectSchema tableSchema tables).1 ≠ [] ↔
      ∃ table ∈ tables, ∃ text, tableSchema table = .ok text := by
  induction tables with
  | nil => simp [collectSchema]
  | cons table rest ih =>
    simp only [collectSchema, List.mem_cons, exists_eq_or_imp]
    cases h : tableSchema table with
    | ok text => simp
    | error e =>
      rw [← ih]
      simp

end EcommerceAgent.Database
