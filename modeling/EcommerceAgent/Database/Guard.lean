/-
# The state of the database graph and its loop guards

`DatabaseGraphState`, the round limit `_bump_round` and the loop guard `_record_node_guard` of
`agent/tools/database_workflow_tool.py`.  A fingerprint is kept as the pair of event type and
arguments instead of its JSON text, which determines the pair.
-/
import EcommerceAgent.Lib.PyFormat
import EcommerceAgent.Lib.Text

open EcommerceAgent.Lib EcommerceAgent.Lib.PyFormat

namespace EcommerceAgent.Database

/-- The limits read from the environment when the module is loaded. -/
structure Config where
  maxGraphRounds : ℤ
  maxSqlFailures : ℤ
  maxSchemaTables : ℤ
  maxRepeatedNodeArgs : ℤ
deriving DecidableEq, Repr

/-- The nodes of the graph. -/
inductive Node
  | route | specialized | schema | sql | summarize | sandbox | approval | merge
deriving DecidableEq, Repr

/-- The name under which a node reports itself to the guards. -/
def Node.name : Node → String
  | .route => "route"
  | .specialized => "specialized_tool"
  | .schema => "schema"
  | .sql => "sql"
  | .summarize => "summarize"
  | .sandbox => "sandbox"
  | .approval => "approval"
  | .merge => "merge"

/-- The values of the field `route`; `toEnd` is `"end"`. -/
inductive Route
  | specialized | schema | sandbox | summarize | approval | merge | sql | toEnd
deriving DecidableEq, Repr

/-- The values of the field `analysis_type`. -/
inductive AnalysisType
  | writeChange | hotProducts
deriving DecidableEq, Repr

/-- The text of an analysis type. -/
def AnalysisType.text : AnalysisType → String
  | .writeChange => "write_change"
  | .hotProducts => "hot_products"

/-- The arguments that a node passes to the loop guard. -/
inductive GuardArgs
  | question (question : String)
  | writeSql (writeSql : String)
  | productionMergeEnabled (enabled : Bool)
  | analysisType (analysisType : String)
  | tables (tables : List String)
  | sql (sql : String)
deriving DecidableEq, Repr

/-- The arguments as `str` of the dictionary writes them. -/
def GuardArgs.text (u : Unicode) : GuardArgs → String
  | .question q => "\x7b'question': " ++ reprString u q ++ "\x7d"
  | .writeSql q => "\x7b'write_sql': " ++ reprString u q ++ "\x7d"
  | .productionMergeEnabled b => "\x7b'production_merge_enabled': " ++ reprBool b ++ "\x7d"
  | .analysisType t => "\x7b'analysis_type': " ++ reprString u t ++ "\x7d"
  | .tables ts => "\x7b'tables': " ++ reprStrings u ts ++ "\x7d"
  | .sql q => "\x7b'sql': " ++ reprString u q ++ "\x7d"

/-- `DatabaseGraphState`; a field that may be absent is an option. -/
structure GraphState where
  question : String
  route : Option Route
  analysisType : Option AnalysisType
  rounds : ℕ
  schemaText : Option String
  sql : Option String
  writeSql : Option String
  sandboxResult : Option Dict
  approvalDecision : Option String
  approvalInstruction : Option String
  mergeResult : Option Dict
  sqlHistory : List String
  sqlFailCount : ℕ
  queryResult : Option String
  errors : List String
  finalAnswer : Option String
  loopEvents : List String
  loopFingerprints : List (String × GuardArgs)
  loopLastSupervisedCount : ℕ
deriving DecidableEq, Repr

/-- The state that `run_database_workflow` starts the graph with. -/
def GraphState.initial (question : String) : GraphState where
  question := question
  route := none
  analysisType := none
  rounds := 0
  schemaText := none
  sql := none
  writeSql := none
  sandboxResult := none
  approvalDecision := none
  approvalInstruction := none
  mergeResult := none
  sqlHistory := []
  sqlFailCount := 0
  queryResult := none
  errors := []
  finalAnswer := none
  loopEvents := []
  loopFingerprints := []
  loopLastSupervisedCount := 0

/-- Whether `state.get("final_answer")` is true: it is set and not empty. -/
def GraphState.answered (s : GraphState) : Bool := s.finalAnswer.any (· ≠ "")

/-- A state with the final answer `text` and the route `"end"`. -/
def GraphState.stop (s : GraphState) (text : String) : GraphState :=
  { s with route := some .toEnd, finalAnswer := some text }

/-- A state one round later. -/
def GraphState.nextRound (s : GraphState) : GraphState := { s with rounds := s.rounds + 1 }

/-- `l[-n:]` for a positive `n`. -/
def lastItems {α : Type*} (n : ℕ) (l : List α) : List α := l.drop (l.length - n)

/-- `_bump_round`. -/
def bumpRound (cfg : Config) (s : GraphState) : GraphState :=
  let s := s.nextRound
  if (s.rounds : ℤ) > cfg.maxGraphRounds then
    s.stop ("数据库状态机超过最大轮次 " ++ toString cfg.maxGraphRounds ++
      "，已强制结束，避免循环。")
  else s

/-! ### The loop guard -/

/-- `_WorkflowLoopGuard`. -/
structure LoopGuard where
  events : List String
  fingerprints : List (String × GuardArgs)
  lastSupervisedCount : ℕ

namespace LoopGuard

/-- The guard of a state. -/
def ofState (s : GraphState) : LoopGuard :=
  ⟨s.loopEvents, s.loopFingerprints, s.loopLastSupervisedCount⟩

/-- `summary`: the guard afterwards and the text. -/
def summary (g : LoopGuard) (reason : String) : LoopGuard × String :=
  ({ g with lastSupervisedCount := g.events.length },
    reason ++ "\nrecent database graph events:\n" ++
      String.intercalate "\n" ((lastItems 6 g.events).map ("- " ++ ·)))

/-- `record_event`: the guard afterwards, and the summary if the event was repeated too often. -/
def recordEvent (cfg : Config) (g : LoopGuard) (eventType : String) (args : GuardArgs)
    (description : String) : LoopGuard × Option String :=
  let g := { g with
    events := g.events ++ [description], fingerprints := g.fingerprints ++ [(eventType, args)] }
  let repeated := g.fingerprints.count (eventType, args)
  if (repeated : ℤ) > cfg.maxRepeatedNodeArgs then
    let (g, text) := g.summary
      ("database graph repeated the same node and arguments " ++ toString repeated ++ " times")
    (g, some text)
  else (g, none)

/-- `should_supervise`.  Below 2^53 the division is exact, and no history is longer. -/
def shouldSupervise (g : LoopGuard) (maxRounds : ℤ) : Bool :=
  (g.events.length : ℤ) - g.lastSupervisedCount ≥ max 3 (maxRounds.tdiv 2)

/-- `state.update(guard.snapshot())`. -/
def snapshot (g : LoopGuard) (s : GraphState) : GraphState :=
  { s with
    loopEvents := lastItems 20 g.events
    loopFingerprints := lastItems 20 g.fingerprints
    loopLastSupervisedCount := g.lastSupervisedCount }

end LoopGuard

/-- `_should_run_workflow_supervisor`. -/
def shouldRunWorkflowSupervisor (cfg : Config) (s : GraphState) (node : Node) (g : LoopGuard) :
    Bool :=
  if node = .summarize ∧ s.queryResult.any (· ≠ "") then false
  else if node = .approval ∨ node = .merge then false
  else g.shouldSupervise cfg.maxGraphRounds

/-- `_evaluate_loop_with_supervisor_sync`, from `DB_GRAPH_SUPERVISOR_ENABLED`. -/
def evaluateLoopWithSupervisor (enabled : Option String) (summary : String) : String × String :=
  if String.ofList (Text.lower (enabled.getD "false").toList) ∉ ["1", "true", "yes", "on"] then
    ("continue", "database graph supervisor disabled")
  else if Text.contains summary.toList "repeated the same node".toList then
    ("abort", "deterministic loop guard detected repeated database graph state")
  else ("continue", "no deterministic loop pattern detected")

/-- `_record_node_guard`. -/
def recordNodeGuard (u : Unicode) (cfg : Config) (supervisorEnabled : Option String)
    (s : GraphState) (node : Node) (args : GuardArgs) : GraphState :=
  match (LoopGuard.ofState s).recordEvent cfg ("db_node:" ++ node.name) args
    ("数据库状态机节点 " ++ node.name ++ ": " ++ args.text u) with
  | (g, some summary) =>
    (g.snapshot s).stop ("数据库状态机检测到重复或过多节点调用，已停止。\n" ++ summary)
  | (g, none) =>
    let s := g.snapshot s
    if shouldRunWorkflowSupervisor cfg s node g then
      let (g, supervisorSummary) := g.summary "数据库状态机监督器按节点步数触发检查。"
      let (decision, reason) := evaluateLoopWithSupervisor supervisorEnabled supervisorSummary
      let s := g.snapshot s
      if decision ∈ ["reflect", "abort"] then
        s.stop ("数据库状态机监督器建议停止：" ++ reason ++ "\n" ++ supervisorSummary)
      else s
    else s

/-! ### What the guards change -/

/-- The fields of `s'` that no guard writes are those of `s`. -/
structure Keeps (s s' : GraphState) : Prop where
  question : s'.question = s.question
  analysisType : s'.analysisType = s.analysisType
  schemaText : s'.schemaText = s.schemaText
  writeSql : s'.writeSql = s.writeSql
  sandboxResult : s'.sandboxResult = s.sandboxResult
  sqlHistory : s'.sqlHistory = s.sqlHistory
  sqlFailCount : s'.sqlFailCount = s.sqlFailCount
  queryResult : s'.queryResult = s.queryResult
  errors : s'.errors = s.errors

lemma Keeps.refl (s : GraphState) : Keeps s s := by constructor <;> rfl

lemma Keeps.trans {s s' s'' : GraphState} (h : Keeps s s') (h' : Keeps s' s'') : Keeps s s'' where
  question := h'.question.trans h.question
  analysisType := h'.analysisType.trans h.analysisType
  schemaText := h'.schemaText.trans h.schemaText
  writeSql := h'.writeSql.trans h.writeSql
  sandboxResult := h'.sandboxResult.trans h.sandboxResult
  sqlHistory := h'.sqlHistory.trans h.sqlHistory
  sqlFailCount := h'.sqlFailCount.trans h.sqlFailCount
  queryResult := h'.queryResult.trans h.queryResult
  errors := h'.errors.trans h.errors

lemma keeps_nextRound (s : GraphState) : Keeps s s.nextRound := by constructor <;> rfl

lemma keeps_stop (s : GraphState) (text : String) : Keeps s (s.stop text) := by
  constructor <;> rfl

lemma keeps_snapshot (g : LoopGuard) (s : GraphState) : Keeps s (g.snapshot s) := by
  constructor <;> rfl

lemma append_ne_empty {a b : String} (h : a ≠ "") : a ++ b ≠ "" :=
  fun h' => h (String.append_eq_empty_iff.1 h').1

/-- A stop with a text that is not empty is an answer. -/
lemma answered_stop (s : GraphState) {text : String} (h : text ≠ "") :
    (s.stop text).answered = true := by
  simp [GraphState.answered, GraphState.stop, h]

/-- The round limit: either it stops the run, or only the counter changes. -/
lemma bumpRound_cases (cfg : Config) (s : GraphState) :
    (cfg.maxGraphRounds < s.rounds + 1 ∧
        ∃ text, text ≠ "" ∧ bumpRound cfg s = s.nextRound.stop text) ∨
      ((s.rounds : ℤ) + 1 ≤ cfg.maxGraphRounds ∧ bumpRound cfg s = s.nextRound) := by
  have hround : (s.nextRound.rounds : ℤ) = s.rounds + 1 := by simp [GraphState.nextRound]
  by_cases h : (s.nextRound.rounds : ℤ) > cfg.maxGraphRounds
  · refine .inl ⟨by omega, _, ?_, if_pos h⟩
    exact append_ne_empty (append_ne_empty (by decide))
  · exact .inr ⟨by omega, if_neg h⟩

/-- The event just recorded occurs at least once. -/
lemma allowed_of_recordEvent {cfg : Config} {g : LoopGuard} {eventType description : String}
    {args : GuardArgs} (h : (g.recordEvent cfg eventType args description).2 = none) :
    1 ≤ cfg.maxRepeatedNodeArgs := by
  have hcount : 1 ≤ (g.fingerprints ++ [(eventType, args)]).count (eventType, args) :=
    List.one_le_count_iff.2 (List.mem_append_right _ (List.mem_singleton_self _))
  by_contra hnot
  have hmany : ((g.fingerprints ++ [(eventType, args)]).count (eventType, args) : ℤ) >
      cfg.maxRepeatedNodeArgs := by omega
  unfold LoopGuard.recordEvent at h
  dsimp only at h
  rw [if_pos hmany] at h
  cases h

/-- The loop guard: either it stops the run, or only the fields of the guard change, and one
occurrence of an event is not too many. -/
lemma recordNodeGuard_cases (u : Unicode) (cfg : Config) (supervisorEnabled : Option String)
    (s : GraphState) (node : Node) (args : GuardArgs) :
    (∃ g : LoopGuard, ∃ text, text ≠ "" ∧
        recordNodeGuard u cfg supervisorEnabled s node args = (g.snapshot s).stop text) ∨
      (1 ≤ cfg.maxRepeatedNodeArgs ∧
        ∃ g : LoopGuard, recordNodeGuard u cfg supervisorEnabled s node args = g.snapshot s) := by
  unfold recordNodeGuard
  split
  · exact .inl ⟨_, _, append_ne_empty (by decide), rfl⟩
  · rename_i hrecord
    have hallowed := allowed_of_recordEvent (congrArg Prod.snd hrecord)
    dsimp only
    split
    · split
      · refine .inl ⟨_, _, ?_, rfl⟩
        exact append_ne_empty (append_ne_empty (append_ne_empty (by decide)))
      · exact .inr ⟨hallowed, _, rfl⟩
    · exact .inr ⟨hallowed, _, rfl⟩

/-! ### Passing the guards -/

/-- The guards stop the run in `s'`, or it had an answer before. -/
structure Stopped (s s' : GraphState) : Prop where
  keeps : Keeps s s'
  answered : s'.answered = true

/-- The round limit lets the run pass from `s` to `s'`. -/
structure Passed (cfg : Config) (s s' : GraphState) : Prop where
  keeps : Keeps s s'
  rounds : s'.rounds = s.rounds + 1
  bound : (s'.rounds : ℤ) ≤ cfg.maxGraphRounds
  before : s.answered = false
  fresh : s'.answered = false

/-- Both guards let the run pass from `s` to `s'`. -/
structure Entered (cfg : Config) (s s' : GraphState) : Prop extends Passed cfg s s' where
  allowed : 1 ≤ cfg.maxRepeatedNodeArgs

/-- The round limit, as a node uses it. -/
lemma bumpRound_spec (cfg : Config) (s : GraphState) :
    Stopped s (bumpRound cfg s) ∨ Passed cfg s (bumpRound cfg s) := by
  rcases bumpRound_cases cfg s with ⟨-, text, htext, h⟩ | ⟨hbound, h⟩
  · rw [h]
    exact .inl ⟨(keeps_nextRound s).trans (keeps_stop _ text), answered_stop _ htext⟩
  · rw [h]
    by_cases ha : s.answered
    · exact .inl ⟨keeps_nextRound s, ha⟩
    · have hfresh : s.answered = false := by simpa using ha
      exact .inr ⟨keeps_nextRound s, rfl, by exact_mod_cast hbound, hfresh, hfresh⟩

/-- The loop guard, as a node uses it. -/
lemma recordNodeGuard_spec (u : Unicode) {cfg : Config} (supervisorEnabled : Option String)
    {s s₁ : GraphState} (node : Node) (args : GuardArgs) (h₁ : Passed cfg s s₁) :
    Stopped s (recordNodeGuard u cfg supervisorEnabled s₁ node args) ∨
      Entered cfg s (recordNodeGuard u cfg supervisorEnabled s₁ node args) := by
  rcases recordNodeGuard_cases u cfg supervisorEnabled s₁ node args with
    ⟨g, text, htext, h⟩ | ⟨hallowed, g, h⟩
  · rw [h]
    refine .inl ⟨h₁.keeps.trans ?_, answered_stop _ htext⟩
    exact (keeps_snapshot g s₁).trans (keeps_stop _ text)
  · rw [h]
    exact .inr ⟨⟨h₁.keeps.trans (keeps_snapshot g s₁), h₁.rounds, h₁.bound, h₁.before,
      h₁.fresh⟩, hallowed⟩

/-! ### Quiet guards -/

/-- The guard fields of a state that has reported the events `l` and was never supervised. -/
structure Reported (s : GraphState) (l : List (String × GuardArgs)) : Prop where
  fingerprints : s.loopFingerprints = l
  events : s.loopEvents.length = l.length
  supervised : s.loopLastSupervisedCount = 0

lemma reported_initial (question : String) : Reported (GraphState.initial question) [] :=
  ⟨rfl, rfl, rfl⟩

lemma lastItems_of_length_le {α : Type*} {n : ℕ} {l : List α} (h : l.length ≤ n) :
    lastItems n l = l := by
  rw [lastItems, Nat.sub_eq_zero_of_le h, List.drop_zero]

/-- A node that reports a new event passes the loop guard when repetition is allowed at all and
the supervisor is not due. -/
lemma recordNodeGuard_quiet (u : Unicode) {cfg : Config} (supervisorEnabled : Option String)
    {s : GraphState} {l : List (String × GuardArgs)} {node : Node} {args : GuardArgs}
    (hl : Reported s l) (hlen : l.length < 20) (hnew : ("db_node:" ++ node.name, args) ∉ l)
    (hrep : 1 ≤ cfg.maxRepeatedNodeArgs)
    (hsup : l.length + 1 < 3 ∨ node = .approval ∨ node = .merge ∨
      node = .summarize ∧ s.queryResult.any (· ≠ "") = true) :
    ∃ g : LoopGuard, recordNodeGuard u cfg supervisorEnabled s node args = g.snapshot s ∧
      Reported (g.snapshot s) (l ++ [("db_node:" ++ node.name, args)]) := by
  let event := ("db_node:" ++ node.name, args)
  let description := "数据库状态机节点 " ++ node.name ++ ": " ++ args.text u
  let g : LoopGuard := ⟨s.loopEvents ++ [description], l ++ [event], 0⟩
  have hcount : (l ++ [event]).count event = 1 := by
    rw [List.count_append, List.count_eq_zero_of_not_mem hnew, List.count_singleton_self]
  have hrare : ¬ ((l ++ [event]).count event : ℤ) > cfg.maxRepeatedNodeArgs := by
    rw [hcount]
    push_cast
    omega
  have hofState : LoopGuard.ofState s = ⟨s.loopEvents, l, 0⟩ := by
    simp only [LoopGuard.ofState, hl.fingerprints, hl.supervised]
  have hrecord : (LoopGuard.ofState s).recordEvent cfg ("db_node:" ++ node.name) args
      description = (g, none) := by
    rw [hofState]
    exact if_neg hrare
  have hsuper : shouldRunWorkflowSupervisor cfg (g.snapshot s) node g = false := by
    unfold shouldRunWorkflowSupervisor
    split
    · rfl
    · rename_i hsum
      split
      · rfl
      · rename_i hpub
        have hshort : l.length + 1 < 3 := by
          rcases hsup with h | h | h | h
          · exact h
          · exact absurd (.inl h) hpub
          · exact absurd (.inr h) hpub
          · exact absurd h hsum
        simp only [LoopGuard.shouldSupervise, g, List.length_append, List.length_singleton,
          hl.events, decide_eq_false_iff_not]
        omega
  refine ⟨g, ?_, ?_, ?_, rfl⟩
  · unfold recordNodeGuard
    rw [hrecord]
    dsimp only
    rw [hsuper]
    rfl
  · have : (l ++ [event]).length ≤ 20 := by
      rw [List.length_append]
      exact hlen
    exact lastItems_of_length_le this
  · have : (s.loopEvents ++ [description]).length ≤ 20 := by
      rw [List.length_append, hl.events]
      exact hlen
    simp [LoopGuard.snapshot, g, lastItems_of_length_le this, hl.events]

end EcommerceAgent.Database
