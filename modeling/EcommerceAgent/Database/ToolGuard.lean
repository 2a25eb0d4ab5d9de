/-
# The fuse of the database tools

`_get_db_guard_state`, `reset_db_guard_state`, `_record_db_tool_call` and
`_mark_specialized_result_ready` of `agent/tools/db_tools.py`, as `run_database_workflow` and the
database tools use them.  The counters are kept under the thread context, which is the
conversation and not the run, so two runs of one conversation share them and each resets those
of the other.
-/
import EcommerceAgent.Lib.Lines
import EcommerceAgent.Lib.Runs
import Mathlib.Data.Int.Basic
import Mathlib.Data.List.Count
import Mathlib.Data.List.DropRight
import Mathlib.Logic.Function.Basic

open EcommerceAgent.Lib

namespace EcommerceAgent.Database.ToolGuard

/-! ### One entry of the dictionary -/

/-- The tools that the fuse counts. -/
inductive Tool
  | getTableSchema | executeSqlQuery | analyzeTopProducts
deriving DecidableEq, Repr

/-- The name under which a tool reports itself. -/
def Tool.name : Tool → String
  | .getTableSchema => "get_table_schema"
  | .executeSqlQuery => "execute_sql_query"
  | .analyzeTopProducts => "analyze_top_products"

/-- `DB_AGENT_MAX_TOOL_CALLS`, `DB_AGENT_MAX_SCHEMA_CALLS` and `DB_AGENT_MAX_SQL_CALLS`. -/
structure Limits where
  maxCalls : ℤ
  maxSchemaCalls : ℤ
  maxSqlCalls : ℤ
deriving DecidableEq, Repr

/-- The value that `_DB_GUARD_STATE` holds for a thread. -/
structure GuardState (δ : Type*) where
  calls : ℕ
  schemaCalls : ℕ
  sqlCalls : ℕ
  fingerprints : List δ
  specializedResultReady : Bool
deriving DecidableEq, Repr

variable {α δ : Type*} [DecidableEq δ]

/-- The default of `setdefault`. -/
def GuardState.fresh : GuardState δ := ⟨0, 0, 0, [], false⟩

/-- What the fuse reads besides its state: the limits, or the error of an `int()` that fails, and
the digest of a call, or the error of an `encode` that fails. -/
structure Settings (α δ : Type*) where
  limits : Except String Limits
  fingerprint : Tool → α → Except String δ

namespace GuardState

/-- The three increments of a call. -/
def counted (s : GuardState δ) (tool : Tool) : GuardState δ :=
  { s with
    calls := s.calls + 1
    schemaCalls := if tool = .getTableSchema then s.schemaCalls + 1 else s.schemaCalls
    sqlCalls := if tool = .executeSqlQuery then s.sqlCalls + 1 else s.sqlCalls }

/-- The checks after the call is counted and its fingerprint stored. -/
def verdict (limits : Limits) (tool : Tool) (fingerprint : δ) (s : GuardState δ) :
    Except String Unit :=
  if 2 ≤ (s.fingerprints.rtake 6).count fingerprint then
    .error ("数据库子 Agent 重复调用 " ++ tool.name ++ " 且参数相同，已触发工具层循环熔断。")
  else if limits.maxCalls < s.calls then
    .error ("数据库子 Agent 工具调用超过上限 " ++ toString limits.maxCalls ++
      " 次，已触发工具层循环熔断。")
  else if limits.maxSchemaCalls < s.schemaCalls then
    .error ("数据库子 Agent 表结构查询超过上限 " ++ toString limits.maxSchemaCalls ++
      " 次，已触发工具层循环熔断。")
  else if limits.maxSqlCalls < s.sqlCalls then
    .error ("数据库子 Agent SQL 查询超过上限 " ++ toString limits.maxSqlCalls ++
      " 次，已触发工具层循环熔断。")
  else .ok ()

/-- `_record_db_tool_call`: the state it leaves, also when it raises, and its outcome. -/
def recordCall (settings : Settings α δ) (s : GuardState δ) (tool : Tool) (args : α) :
    GuardState δ × Except String Unit :=
  if s.specializedResultReady = true ∧ tool ≠ .analyzeTopProducts then
    (s, .error ("数据库子 Agent 已通过 analyze_top_products 获得爆品分析完整指标。" ++
      "禁止继续探索表结构或重复 SQL。请立即基于已有工具结果输出最终分析和放量建议。"))
  else
    let s := s.counted tool
    match settings.limits with
    | .error e => (s, .error e)
    | .ok limits =>
      match settings.fingerprint tool args with
      | .error e => (s, .error e)
      | .ok fingerprint =>
        let s := { s with fingerprints := s.fingerprints ++ [fingerprint] }
        (s, s.verdict limits tool fingerprint)

/-- `_mark_specialized_result_ready`. -/
def markReady (s : GuardState δ) (result : String) : GuardState δ :=
  if 1 < (Lines.splitlines result.toList).length then { s with specializedResultReady := true }
  else s

end GuardState

/-! ### The dictionary under several runs -/

/-- What the runs do: a run of the workflow starts with a reset, calls tools, and has the result
of a specialised query marked. -/
inductive Event (ρ α : Type*)
  | start (run : ρ)
  | call (run : ρ) (tool : Tool) (args : α)
  | mark (run : ρ) (result : String)
deriving DecidableEq, Repr

/-- The run that an event belongs to. -/
def Event.run {ρ : Type*} : Event ρ α → ρ
  | .start r => r
  | .call r _ _ => r
  | .mark r _ => r

/-- `_DB_GUARD_STATE`. -/
abbrev Guards (δ : Type*) := String → Option (GuardState δ)

section System

variable {ρ : Type*} (settings : Settings α δ) (thread : ρ → Option String)

/-- `get_thread_context() or "__script__"` in a run. -/
def threadId (r : ρ) : String :=
  match thread r with
  | some id => if id = "" then "__script__" else id
  | none => "__script__"

/-- What `_get_db_guard_state` returns in a run. -/
def stateOf (guards : Guards δ) (r : ρ) : GuardState δ :=
  (guards (threadId thread r)).getD .fresh

/-- One event. -/
def step (guards : Guards δ) : Event ρ α → Guards δ
  | .start r => Function.update guards (threadId thread r) none
  | .call r tool args =>
    Function.update guards (threadId thread r)
      (some ((stateOf thread guards r).recordCall settings tool args).1)
  | .mark r result =>
    if 1 < (Lines.splitlines result.toList).length then
      Function.update guards (threadId thread r)
        (some ((stateOf thread guards r).markReady result))
    else guards

/-- The dictionary after a history, empty at the start of the process. -/
def after (t : List (Event ρ α)) : Guards δ := t.foldl (step settings thread) fun _ => none

/-- The call is let through after the history. -/
def accepted (t : List (Event ρ α)) (r : ρ) (tool : Tool) (args : α) : Bool :=
  ((stateOf thread (after settings thread t) r).recordCall settings tool args).2.isOk

variable [DecidableEq ρ]

/-- The events of one run. -/
def own (r : ρ) (t : List (Event ρ α)) : List (Event ρ α) := t.filter fun e => e.run = r

/-- The attempts of one run. -/
def attempts (r : ρ) (t : List (Event ρ α)) : List (Tool × α) :=
  t.filterMap fun e =>
    match e with
    | .call r' tool args => if r' = r then some (tool, args) else none
    | _ => none

/-- A specialised query of the run has had a result with a row. -/
def specialised (r : ρ) (t : List (Event ρ α)) : Prop :=
  ∃ result, .mark r result ∈ t ∧ 1 < (Lines.splitlines result.toList).length

/-- What is limited: all calls, those for a schema and those with SQL. -/
inductive Budget
  | calls | schema | sql
deriving DecidableEq, Repr

/-- The tools of a budget. -/
def Budget.covers : Budget → Tool → Bool
  | .calls, _ => true
  | .schema, tool => tool = .getTableSchema
  | .sql, tool => tool = .executeSqlQuery

/-- The limit of a budget. -/
def Budget.limit (limits : Limits) : Budget → ℤ
  | .calls => limits.maxCalls
  | .schema => limits.maxSchemaCalls
  | .sql => limits.maxSqlCalls

/-- The counter of a budget. -/
def Budget.counter (s : GuardState δ) : Budget → ℕ
  | .calls => s.calls
  | .schema => s.schemaCalls
  | .sql => s.sqlCalls

/-- The event is a call of the run in the budget, and it is let through. -/
def passes (r : ρ) (b : Budget) (guards : Guards δ) : Event ρ α → Bool
  | .call r' tool args =>
    r' = r && b.covers tool && ((stateOf thread guards r').recordCall settings tool args).2.isOk
  | _ => false

/-- The accepted calls of a run in a budget, counted from a dictionary on. -/
def acceptedFrom (r : ρ) (b : Budget) (guards : Guards δ) : List (Event ρ α) → ℕ
  | [] => 0
  | e :: rest =>
    (passes settings thread r b guards e).toNat +
      acceptedFrom r b (step settings thread guards e) rest

/-- The accepted calls of a run in a budget. -/
def acceptedCalls (r : ρ) (b : Budget) (t : List (Event ρ α)) : ℕ :=
  acceptedFrom settings thread r b (fun _ => none) t

/-- A run starts once, before anything else it does. -/
def Allowed (done : List (Event ρ α)) (e : Event ρ α) : Prop :=
  match e with
  | .start r => ∀ e' ∈ done, e'.run ≠ r
  | e => .start e.run ∈ done

/-- The fuse counts per run: what it decides depends on the run's own events, and it keeps the
run's limits. -/
structure PerRun (t : List (Event ρ α)) : Prop where
  own_events : Throughout (fun done e => ∀ r tool args, e = .call r tool args →
    accepted settings thread done r tool args = accepted settings thread (own r done) r tool args) t
  within : ∀ limits, settings.limits = .ok limits → ∀ r b,
    acceptedCalls settings thread r b t ≤ (Budget.limit limits b).toNat
  no_repeat : Throughout (fun done e => ∀ r tool args, e = .call r tool args →
    accepted settings thread done r tool args = true →
      (tool, args) ∉ (attempts r done).rtake 5) t
  after_specialised : Throughout (fun done e => ∀ r tool args, e = .call r tool args →
    accepted settings thread done r tool args = true → specialised r done →
      tool = .analyzeTopProducts) t

/-- The run that started last under a thread. -/
def lastStart (id : String) (t : List (Event ρ α)) : Option ρ :=
  t.foldl (fun last e =>
    match e with
    | .start r => if threadId thread r = id then some r else last
    | _ => last) none

/-- Whoever calls a tool is the run that started last under its thread. -/
def Undisturbed (done : List (Event ρ α)) (e : Event ρ α) : Prop :=
  match e with
  | .start _ => True
  | e => lastStart thread (threadId thread e.run) done = some e.run

end System

/-! ### The end of a list -/

section Rtake

variable {β : Type*} {l : List β} {x y : β} {m n : ℕ}

lemma rtake_subset_rtake (hmn : m ≤ n) (h : x ∈ l.rtake m) : x ∈ l.rtake n := by
  rw [List.rtake] at h ⊢
  exact (List.drop_sublist_drop_left l (by omega)).subset h

lemma mem_rtake_concat_self (l : List β) (hn : 0 < n) : x ∈ (l ++ [x]).rtake n := by
  obtain ⟨k, rfl⟩ := Nat.exists_eq_add_of_lt hn
  rw [Nat.zero_add, List.rtake_concat_succ]
  exact List.mem_append_right _ List.mem_cons_self

lemma mem_rtake_concat_of_mem (y : β) (h : x ∈ l.rtake (n - 1)) : x ∈ (l ++ [y]).rtake n := by
  cases n with
  | zero => simp at h
  | succ n =>
    rw [List.rtake_concat_succ]
    exact List.mem_append_left _ h

/-- What is among the last `n` is the new element or among the last but one before. -/
lemma mem_rtake_concat (h : x ∈ (l ++ [y]).rtake n) : x = y ∧ 0 < n ∨ x ∈ l.rtake (n - 1) := by
  cases n with
  | zero => simp at h
  | succ n =>
    rw [List.rtake_concat_succ, List.mem_append, List.mem_singleton] at h
    rcases h with h | h
    · exact .inr h
    · exact .inl ⟨h, Nat.succ_pos n⟩

end Rtake

/-! ### One entry -/

namespace GuardState

variable {settings : Settings α δ} {s : GuardState δ} {tool : Tool} {args : α}

/-- The ways of a call: refused after a specialised result, stopped by an error that has nothing
to do with the counters, or counted, remembered and judged. -/
lemma recordCall_cases (settings : Settings α δ) (s : GuardState δ) (tool : Tool) (args : α) :
    ((s.specializedResultReady = true ∧ tool ≠ .analyzeTopProducts) ∧
      ∃ e, s.recordCall settings tool args = (s, .error e)) ∨
    ((∀ limits fingerprint, settings.limits = .ok limits →
        settings.fingerprint tool args ≠ .ok fingerprint) ∧
      ∃ e, s.recordCall settings tool args = (s.counted tool, .error e)) ∨
    (¬(s.specializedResultReady = true ∧ tool ≠ .analyzeTopProducts) ∧
      ∃ limits fingerprint, settings.limits = .ok limits ∧
        settings.fingerprint tool args = .ok fingerprint ∧
        s.recordCall settings tool args =
          ({ s.counted tool with fingerprints := s.fingerprints ++ [fingerprint] },
            verdict limits tool fingerprint
              { s.counted tool with fingerprints := s.fingerprints ++ [fingerprint] })) := by
  rw [recordCall]
  by_cases hready : s.specializedResultReady = true ∧ tool ≠ .analyzeTopProducts
  · exact .inl ⟨hready, _, if_pos hready⟩
  · rw [if_neg hready]
    cases hlimits : settings.limits with
    | error e =>
      refine .inr (.inl ⟨?_, e, rfl⟩)
      intro limits fingerprint h
      cases h
    | ok limits =>
      cases hfingerprint : settings.fingerprint tool args with
      | error e =>
        refine .inr (.inl ⟨?_, e, rfl⟩)
        intro _ fingerprint _ h
        cases h
      | ok fingerprint => exact .inr (.inr ⟨hready, limits, fingerprint, rfl, rfl, rfl⟩)

omit [DecidableEq δ] in
lemma counter_counted (b : Budget) :
    b.counter (s.counted tool) = b.counter s + (b.covers tool).toNat := by
  cases b <;> cases tool <;> rfl

/-- A call never turns the flag. -/
@[simp] lemma ready_recordCall :
    (s.recordCall settings tool args).1.specializedResultReady = s.specializedResultReady := by
  rcases recordCall_cases settings s tool args with ⟨-, e, h⟩ | ⟨-, e, h⟩ | ⟨-, _, _, -, -, h⟩ <;>
    rw [h] <;> rfl

/-- What a verdict without error says. -/
lemma of_verdict {limits : Limits} {fingerprint : δ}
    (h : (s.verdict limits tool fingerprint).isOk = true) :
    (s.fingerprints.rtake 6).count fingerprint < 2 ∧
      ∀ b : Budget, (b.counter s : ℤ) ≤ b.limit limits := by
  rw [verdict] at h
  split_ifs at h with hrepeat hcalls hschema hsql
  · cases h
  · cases h
  · cases h
  · cases h
  · refine ⟨by omega, fun b => ?_⟩
    cases b with
    | calls => exact Int.not_lt.mp hcalls
    | schema => exact Int.not_lt.mp hschema
    | sql => exact Int.not_lt.mp hsql

/-- An accepted call: not one of those a specialised result forbids, not among the last five
remembered ones, and within the limits when it is counted. -/
lemma of_accepted (h : (s.recordCall settings tool args).2.isOk = true) :
    ¬(s.specializedResultReady = true ∧ tool ≠ .analyzeTopProducts) ∧
      ∃ limits fingerprint, settings.limits = .ok limits ∧
        settings.fingerprint tool args = .ok fingerprint ∧
        fingerprint ∉ s.fingerprints.rtake 5 ∧
        ∀ b : Budget, (b.counter s + (b.covers tool).toNat : ℤ) ≤ b.limit limits := by
  rcases recordCall_cases settings s tool args with
    ⟨-, e, hcall⟩ | ⟨-, e, hcall⟩ | ⟨hready, limits, fingerprint, hlimits, hfingerprint, hcall⟩
  · rw [hcall] at h
    cases h
  · rw [hcall] at h
    cases h
  · rw [hcall] at h
    obtain ⟨hcount, hwithin⟩ := of_verdict h
    refine ⟨hready, limits, fingerprint, hlimits, hfingerprint, ?_, fun b => ?_⟩
    · intro hmem
      -- the call is the last of the six, an earlier copy among the other five
      rw [List.rtake_concat_succ, List.count_append, List.count_singleton_self] at hcount
      have hpos := List.count_pos_iff.mpr hmem
      omega
    · have hcounter := hwithin b
      rw [show b.counter { s.counted tool with fingerprints := s.fingerprints ++ [fingerprint] } =
        b.counter (s.counted tool) by cases b <;> rfl, counter_counted] at hcounter
      exact_mod_cast hcounter

/-- An accepted call is counted in its budgets. -/
lemma counter_recordCall (b : Budget) :
    b.counter s + (b.covers tool && (s.recordCall settings tool args).2.isOk).toNat ≤
      b.counter (s.recordCall settings tool args).1 := by
  rcases recordCall_cases settings s tool args with ⟨-, e, h⟩ | ⟨-, e, h⟩ | ⟨-, _, _, -, -, h⟩
  · rw [h, show (Except.error e : Except String Unit).isOk = false from rfl, Bool.and_false]
    exact le_refl _
  · rw [h, counter_counted, show (Except.error e : Except String Unit).isOk = false from rfl,
      Bool.and_false]
    exact Nat.add_le_add_left (Nat.zero_le _) _
  · have hcounter : b.counter (s.recordCall settings tool args).1 = b.counter (s.counted tool) := by
      rw [h]
      cases b <;> rfl
    rw [hcounter, counter_counted]
    cases b.covers tool <;> cases (s.recordCall settings tool args).2.isOk <;> simp

omit [DecidableEq δ] in
@[simp] lemma counter_markReady (b : Budget) (result : String) :
    b.counter (s.markReady result) = b.counter s := by
  rw [markReady]
  split <;> cases b <;> rfl

omit [DecidableEq δ] in
@[simp] lemma fingerprints_markReady (result : String) :
    (s.markReady result).fingerprints = s.fingerprints := by
  rw [markReady]
  split <;> rfl

omit [DecidableEq δ] in
lemma ready_markReady (result : String) :
    (s.markReady result).specializedResultReady = true ↔
      s.specializedResultReady = true ∨ 1 < (Lines.splitlines result.toList).length := by
  rw [markReady]
  split
  · rename_i hlines
    simp [hlines]
  · rename_i hlines
    simp only [hlines, or_false]

end GuardState

/-! ### One event -/

section Steps

variable {ρ : Type*} (settings : Settings α δ) (thread : ρ → Option String)

/-- What an event does with the entry of its thread. -/
def advance (s : GuardState δ) : Event ρ α → GuardState δ
  | .start _ => .fresh
  | .call _ tool args => (s.recordCall settings tool args).1
  | .mark _ result => s.markReady result

omit [DecidableEq δ] in
lemma stateOf_update (guards : Guards δ) (r r' : ρ) (entry : Option (GuardState δ)) :
    stateOf thread (Function.update guards (threadId thread r') entry) r =
      if threadId thread r' = threadId thread r then entry.getD .fresh
      else stateOf thread guards r := by
  rw [stateOf, Function.update_apply, stateOf]
  by_cases hid : threadId thread r' = threadId thread r
  · rw [if_pos hid.symm, if_pos hid]
  · rw [if_neg fun h => hid h.symm, if_neg hid]

omit [DecidableEq δ] in
lemma stateOf_congr (guards : Guards δ) {r r' : ρ} (hid : threadId thread r' = threadId thread r) :
    stateOf thread guards r' = stateOf thread guards r := by
  rw [stateOf, hid, stateOf]

/-- An event works on the entry of its own thread and leaves the others. -/
lemma stateOf_step (guards : Guards δ) (e : Event ρ α) (r : ρ) :
    stateOf thread (step settings thread guards e) r =
      if threadId thread e.run = threadId thread r then advance settings (stateOf thread guards r) e
      else stateOf thread guards r := by
  cases e with
  | start r' => exact stateOf_update thread guards r r' none
  | call r' tool args =>
    rw [step, stateOf_update]
    split
    · rename_i hid
      rw [if_pos (show threadId thread (Event.call r' tool args).run = _ from hid),
        stateOf_congr thread guards hid]
      rfl
    · rename_i hid
      exact (if_neg hid).symm
  | mark r' result =>
    rw [step]
    split
    · rw [stateOf_update]
      split
      · rename_i hid
        rw [if_pos (show threadId thread (Event.mark r' result).run = _ from hid),
          stateOf_congr thread guards hid]
        rfl
      · rename_i hid
        exact (if_neg hid).symm
    · rename_i hlines
      rw [advance, GuardState.markReady, if_neg hlines, ite_self]

variable (t : List (Event ρ α)) (e : Event ρ α)

lemma after_concat : after settings thread (t ++ [e]) =
    step settings thread (after settings thread t) e := by
  rw [after, List.foldl_append]
  rfl

variable [DecidableEq ρ] {r : ρ}

omit [DecidableEq δ] in
lemma own_concat : own r (t ++ [e]) = own r t ++ if e.run = r then [e] else [] := by
  rw [own, List.filter_append, List.filter_singleton, own]
  simp

omit [DecidableEq δ] in
lemma attempts_concat : attempts r (t ++ [e]) = attempts r t ++
    match e with
    | .call r' tool args => if r' = r then [(tool, args)] else []
    | _ => [] := by
  rw [attempts, List.filterMap_append]
  congr 1
  cases e with
  | start r' => rfl
  | call r' tool args =>
    rw [List.filterMap_cons]
    by_cases h : r' = r <;> simp [h]
  | mark r' result => rfl

omit [DecidableEq δ] in
lemma attempts_concat_call (tool : Tool) (args : α) :
    attempts r (t ++ [.call r tool args]) = attempts r t ++ [(tool, args)] := by
  rw [attempts_concat]
  simp

lemma acceptedCalls_concat (b : Budget) : acceptedCalls settings thread r b (t ++ [e]) =
    acceptedCalls settings thread r b t +
      (passes settings thread r b (after settings thread t) e).toNat := by
  have h : ∀ guards : Guards δ, acceptedFrom settings thread r b guards (t ++ [e]) =
      acceptedFrom settings thread r b guards t +
        (passes settings thread r b (t.foldl (step settings thread) guards) e).toNat := by
    induction t with
    | nil => intro guards; simp [acceptedFrom]
    | cons e' t ih =>
      intro guards
      rw [List.cons_append, acceptedFrom, acceptedFrom, ih, List.foldl_cons, Nat.add_assoc]
  exact h _

/-! ### The entry of an undisturbed run -/

/-- How the entry of a thread stands to the history of the run that owns it. -/
structure Tracks (t : List (Event ρ α)) (r : ρ) : Prop where
  /-- The other runs left no trace in it. -/
  alone : stateOf thread (after settings thread t) r =
    stateOf thread (after settings thread (own r t)) r
  accepted_le : ∀ b, acceptedCalls settings thread r b t ≤
    b.counter (stateOf thread (after settings thread t) r)
  /-- A recent attempt is a recent fingerprint, unless it was refused before it had one. -/
  window : ∀ limits, settings.limits = .ok limits → ∀ n, ∀ c ∈ (attempts r t).rtake n,
    ∀ fingerprint, settings.fingerprint c.1 c.2 = .ok fingerprint →
      fingerprint ∈ (stateOf thread (after settings thread t) r).fingerprints.rtake n ∨
        ((stateOf thread (after settings thread t) r).specializedResultReady = true ∧
          c.1 ≠ .analyzeTopProducts)
  ready : specialised r t →
    (stateOf thread (after settings thread t) r).specializedResultReady = true

variable {settings thread t e}

lemma passes_of_ne (h : e.run ≠ r) (b : Budget) (guards : Guards δ) :
    passes settings thread r b guards e = false := by
  cases e with
  | start r' => rfl
  | call r' tool args =>
    have hne : r' ≠ r := h
    simp [passes, hne]
  | mark r' result => rfl

omit [DecidableEq δ] in
lemma attempts_concat_of_ne (h : e.run ≠ r) : attempts r (t ++ [e]) = attempts r t := by
  rw [attempts_concat]
  cases e with
  | start r' => exact List.append_nil _
  | call r' tool args =>
    have hne : r' ≠ r := h
    simp [hne]
  | mark r' result => exact List.append_nil _

omit [DecidableEq δ] [DecidableEq ρ] in
lemma specialised_concat :
    specialised r (t ++ [e]) ↔
      specialised r t ∨ ∃ result, e = .mark r result ∧
        1 < (Lines.splitlines result.toList).length := by
  simp only [specialised, List.mem_append, List.mem_singleton]
  constructor
  · rintro ⟨result, hmem | rfl, hlines⟩
    · exact .inl ⟨result, hmem, hlines⟩
    · exact .inr ⟨result, rfl, hlines⟩
  · rintro (⟨result, hmem, hlines⟩ | ⟨result, rfl, hlines⟩)
    · exact ⟨result, .inl hmem, hlines⟩
    · exact ⟨result, .inr rfl, hlines⟩

/-- A run that has done nothing has no accepted calls. -/
lemma acceptedCalls_eq_zero (h : ∀ e ∈ t, e.run ≠ r) (b : Budget) :
    acceptedCalls settings thread r b t = 0 := by
  induction t using List.reverseRecOn with
  | nil => rfl
  | append_singleton t e ih =>
    rw [acceptedCalls_concat, ih fun e' he' => h e' (List.mem_append_left _ he'),
      passes_of_ne (h e (by simp))]
    rfl

/-- An event of a run under another thread changes nothing. -/
lemma Tracks.frame (h : Tracks settings thread t r)
    (hid : threadId thread e.run ≠ threadId thread r) :
    Tracks settings thread (t ++ [e]) r := by
  have hrun : e.run ≠ r := fun heq => hid (by rw [heq])
  have hstate : stateOf thread (after settings thread (t ++ [e])) r =
      stateOf thread (after settings thread t) r := by
    rw [after_concat, stateOf_step, if_neg hid]
  constructor
  · rw [hstate, own_concat, if_neg hrun, List.append_nil]
    exact h.alone
  · intro b
    rw [hstate, acceptedCalls_concat, passes_of_ne hrun]
    exact h.accepted_le b
  · rw [hstate, attempts_concat_of_ne hrun]
    exact h.window
  · rw [hstate, specialised_concat]
    rintro (hspecialised | ⟨result, rfl, -⟩)
    · exact h.ready hspecialised
    · exact absurd rfl hrun

/-- The first event of a run gives it a fresh entry. -/
lemma Tracks.start (hfirst : ∀ e ∈ t, e.run ≠ r) :
    Tracks settings thread (t ++ [.start r]) r := by
  have hstate : ∀ t : List (Event ρ α),
      stateOf thread (after settings thread (t ++ [.start r])) r = .fresh := by
    intro t
    rw [after_concat, stateOf_step]
    exact if_pos rfl
  constructor
  · rw [hstate, own_concat, if_pos (show (Event.start r : Event ρ α).run = r from rfl), hstate]
  · intro b
    rw [acceptedCalls_concat, acceptedCalls_eq_zero hfirst]
    exact Nat.zero_le _
  · have hattempts : attempts r (t ++ [.start r]) = [] := by
      rw [attempts_concat, List.append_nil, attempts, List.filterMap_eq_nil_iff]
      intro e he
      cases e with
      | start r' => rfl
      | call r' tool args => exact if_neg (hfirst _ he)
      | mark r' result => rfl
    intro limits _ n c hc
    rw [hattempts, List.rtake_nil] at hc
    cases hc
  · rw [specialised_concat]
    rintro (⟨result, hmem, -⟩ | ⟨result, heq, -⟩)
    · exact absurd rfl (hfirst _ hmem)
    · cases heq

/-- The call of the run itself. -/
lemma Tracks.call (h : Tracks settings thread t r) (tool : Tool) (args : α) :
    Tracks settings thread (t ++ [.call r tool args]) r := by
  have hstate : ∀ t : List (Event ρ α),
      stateOf thread (after settings thread (t ++ [.call r tool args])) r =
        ((stateOf thread (after settings thread t) r).recordCall settings tool args).1 := by
    intro t
    rw [after_concat, stateOf_step]
    exact if_pos rfl
  constructor
  · rw [hstate, own_concat, if_pos (show (Event.call r tool args).run = r from rfl), hstate,
      h.alone]
  · intro b
    rw [hstate, acceptedCalls_concat]
    have hpasses : passes settings thread r b (after settings thread t) (.call r tool args) =
        (b.covers tool && ((stateOf thread (after settings thread t) r).recordCall
          settings tool args).2.isOk) := by
      simp [passes]
    rw [hpasses]
    exact (Nat.add_le_add_right (h.accepted_le b) _).trans (GuardState.counter_recordCall b)
  · rw [hstate, attempts_concat_call]
    intro limits hlimits n c hc fingerprint hfingerprint
    rw [GuardState.ready_recordCall]
    set s := stateOf thread (after settings thread t) r with hs
    rcases mem_rtake_concat hc with ⟨rfl, hn⟩ | hc
    · -- the new attempt
      rcases GuardState.recordCall_cases settings s tool args with
        ⟨hready, -⟩ | ⟨hfail, -⟩ | ⟨-, _, digest, -, hdigest, hcall⟩
      · exact .inr hready
      · exact absurd hfingerprint (hfail _ _ hlimits)
      · obtain rfl : digest = fingerprint := Except.ok.inj (hdigest.symm.trans hfingerprint)
        rw [hcall]
        exact .inl (mem_rtake_concat_self _ hn)
    · -- an earlier one is at most one place further back
      rcases h.window limits hlimits (n - 1) c hc fingerprint hfingerprint with hmem | hready
      · rcases GuardState.recordCall_cases settings s tool args with
          ⟨-, e, hcall⟩ | ⟨-, e, hcall⟩ | ⟨-, _, digest, -, -, hcall⟩
        · rw [hcall]
          exact .inl (rtake_subset_rtake (Nat.sub_le n 1) hmem)
        · rw [hcall]
          exact .inl (rtake_subset_rtake (Nat.sub_le n 1) hmem)
        · rw [hcall]
          exact .inl (mem_rtake_concat_of_mem _ hmem)
      · exact .inr hready
  · rw [hstate, GuardState.ready_recordCall, specialised_concat]
    rintro (hspecialised | ⟨result, heq, -⟩)
    · exact h.ready hspecialised
    · cases heq

/-- The mark of the run itself. -/
lemma Tracks.mark (h : Tracks settings thread t r) (result : String) :
    Tracks settings thread (t ++ [.mark r result]) r := by
  have hstate : ∀ t : List (Event ρ α),
      stateOf thread (after settings thread (t ++ [.mark r result])) r =
        (stateOf thread (after settings thread t) r).markReady result := by
    intro t
    rw [after_concat, stateOf_step]
    exact if_pos rfl
  constructor
  · rw [hstate, own_concat, if_pos (show (Event.mark r result : Event ρ α).run = r from rfl),
      hstate, h.alone]
  · intro b
    rw [hstate, acceptedCalls_concat, GuardState.counter_markReady]
    exact h.accepted_le b
  · rw [hstate, attempts_concat, List.append_nil, GuardState.fingerprints_markReady]
    intro limits hlimits n c hc fingerprint hfingerprint
    refine (h.window limits hlimits n c hc fingerprint hfingerprint).imp_right ?_
    rintro ⟨hready, htool⟩
    exact ⟨GuardState.ready_markReady result |>.mpr (.inl hready), htool⟩
  · rw [hstate, specialised_concat, GuardState.ready_markReady]
    rintro (hspecialised | ⟨other, heq, hlines⟩)
    · exact .inl (h.ready hspecialised)
    · obtain rfl : result = other := (Event.mark.inj heq).2
      exact .inr hlines

omit [DecidableEq δ] [DecidableEq ρ] in
lemma lastStart_concat (id : String) : lastStart thread id (t ++ [e]) =
    match e with
    | .start r => if threadId thread r = id then some r else lastStart thread id t
    | _ => lastStart thread id t := by
  rw [lastStart, List.foldl_append]
  rfl

/-! ### Undisturbed runs -/

variable (thread) in
/-- A legal event by the run that started last under its thread. -/
def Proper (done : List (Event ρ α)) (e : Event ρ α) : Prop :=
  Allowed done e ∧ Undisturbed thread done e

/-- The entry of a thread tracks the run that started last under it. -/
lemma tracks_of_lastStart (h : Throughout (Proper thread) t) :
    ∀ r, lastStart thread (threadId thread r) t = some r → Tracks settings thread t r := by
  refine Throughout.induction (I := fun t => ∀ r,
    lastStart thread (threadId thread r) t = some r → Tracks settings thread t r)
    (by rintro r ⟨⟩) ?_ h
  rintro done e ih ⟨hallowed, hundisturbed⟩ r hlast
  rw [lastStart_concat] at hlast
  by_cases hid : threadId thread e.run = threadId thread r
  · cases e with
    | start r' =>
      have hid' : threadId thread r' = threadId thread r := hid
      dsimp only at hlast
      rw [if_pos hid'] at hlast
      obtain rfl : r' = r := Option.some.inj hlast
      exact Tracks.start hallowed
    | call r' tool args =>
      have hown : lastStart thread (threadId thread r) done = some r' := hid ▸ hundisturbed
      obtain rfl : r' = r := Option.some.inj (hown.symm.trans hlast)
      exact (ih _ hlast).call tool args
    | mark r' result =>
      have hown : lastStart thread (threadId thread r) done = some r' := hid ▸ hundisturbed
      obtain rfl : r' = r := Option.some.inj (hown.symm.trans hlast)
      exact (ih _ hlast).mark result
  · refine Tracks.frame (ih r ?_) hid
    cases e with
    | start r' => exact (if_neg hid).symm.trans hlast
    | call r' tool args => exact hlast
    | mark r' result => exact hlast

variable (settings) (thread) in
/-- Calls of runs whose entry tracks them stay within the limits. -/
lemma acceptedCalls_le
    (h : Throughout (Proper thread) t)
    {limits : Limits} (hlimits : settings.limits = .ok limits) (r : ρ) (b : Budget) :
    acceptedCalls settings thread r b t ≤ (b.limit limits).toNat := by
  induction t using List.reverseRecOn with
  | nil => exact Nat.zero_le _
  | append_singleton t e ih =>
    obtain ⟨hbefore, -, hundisturbed⟩ := (throughout_concat _ _).mp h
    rw [acceptedCalls_concat]
    by_cases hpasses : passes settings thread r b (after settings thread t) e = true
    · cases e with
      | start r' => cases hpasses
      | mark r' result => cases hpasses
      | call r' tool args =>
        simp only [passes, Bool.and_eq_true, decide_eq_true_eq] at hpasses
        obtain ⟨⟨rfl, hcovers⟩, haccepted⟩ := hpasses
        have htracks : Tracks settings thread t r' :=
          tracks_of_lastStart hbefore r' hundisturbed
        obtain ⟨-, limits', -, hlimits', -, -, hwithin⟩ := GuardState.of_accepted haccepted
        obtain rfl : limits' = limits := Except.ok.inj (hlimits'.symm.trans hlimits)
        have hcount := htracks.accepted_le b
        have hlimit := hwithin b
        rw [hcovers] at hlimit
        simp only [Bool.toNat_true] at hlimit
        have hone := Bool.toNat_le
          (passes settings thread r' b (after settings thread t) (.call r' tool args))
        omega
    · rw [Bool.eq_false_iff.mpr hpasses]
      exact ih hbefore

/-- When only the run that started last under a thread calls tools in it, the fuse counts per
run. -/
theorem perRun_of_undisturbed (hallowed : Throughout Allowed t)
    (hundisturbed : Throughout (Undisturbed thread) t) : PerRun settings thread t := by
  have h : Throughout (Proper thread) t := hallowed.and hundisturbed
  have hcall : ∀ (done : List (Event ρ α)) e, Throughout (Proper thread) done →
      Proper thread done e → ∀ r tool args, e = .call r tool args →
      Tracks settings thread done r := by
    rintro done e hbefore ⟨-, hlast⟩ r tool args rfl
    exact tracks_of_lastStart hbefore r hlast
  have hsnoc : ∀ (done : List (Event ρ α)) e, Throughout (Proper thread) done →
      Proper thread done e → Throughout (Proper thread) (done ++ [e]) := by
    intro done e hbefore he
    rw [throughout_concat]
    exact ⟨hbefore, he⟩
  constructor
  · refine h.of_induction throughout_nil hsnoc fun done e hbefore he r tool args heq => ?_
    rw [accepted, (hcall done e hbefore he r tool args heq).alone, accepted]
  · exact fun limits hlimits r b => acceptedCalls_le settings thread h hlimits r b
  · refine h.of_induction throughout_nil hsnoc
      fun done e hbefore he r tool args heq haccepted => ?_
    have htracks := hcall done e hbefore he r tool args heq
    obtain ⟨hready, limits, fingerprint, hlimits, hfingerprint, hnew, -⟩ :=
      GuardState.of_accepted haccepted
    intro hmem
    rcases htracks.window limits hlimits 5 _ hmem fingerprint hfingerprint with hold | hspecial
    · exact hnew hold
    · exact hready hspecial
  · refine h.of_induction throughout_nil hsnoc
      fun done e hbefore he r tool args heq haccepted hspecialised => ?_
    have htracks := hcall done e hbefore he r tool args heq
    by_contra htool
    exact (GuardState.of_accepted haccepted).1 ⟨htracks.ready hspecialised, htool⟩

end Steps

/-- The limits of the environment's defaults; a call is its own digest. -/
def defaultSettings : Settings String (Tool × String) where
  limits := .ok ⟨10, 5, 4⟩
  fingerprint tool args := .ok (tool, args)

/-- Every run of `sameConversation` belongs to one conversation. -/
def sameConversation (_ : ℕ) : Option String := some "conv-1"

/-- Two runs of a conversation, one after the other, ask for the same table. -/
theorem perRun_sequential : PerRun defaultSettings sameConversation
    [.start 0, .call 0 .getTableSchema "orders", .start 1, .call 1 .getTableSchema "orders"] := by
  refine perRun_of_undisturbed ?_ ?_
  · refine ⟨?_, ?_, ?_, ?_, trivial⟩ <;> simp [Allowed, Event.run]
  · exact ⟨trivial, rfl, trivial, rfl, trivial⟩

/-- A second run of the conversation resets the entry, and the first one repeats its call. -/
theorem not_perRun_overlapping :
    Throughout Allowed [.start 0, .call 0 .getTableSchema "orders", .start 1,
        .call 0 .getTableSchema "orders"] ∧
      ¬ PerRun defaultSettings sameConversation [.start 0, .call 0 .getTableSchema "orders",
        .start 1, .call 0 .getTableSchema "orders"] := by
  refine ⟨⟨?_, ?_, ?_, ?_, trivial⟩, fun h => ?_⟩
  · simp [Allowed]
  · simp [Allowed, Event.run]
  · simp [Allowed, Event.run]
  · simp [Allowed, Event.run]
  · obtain ⟨-, -, -, hlast, -⟩ := h.no_repeat
    exact hlast 0 .getTableSchema "orders" rfl (by decide +kernel) (by decide +kernel)

end EcommerceAgent.Database.ToolGuard
