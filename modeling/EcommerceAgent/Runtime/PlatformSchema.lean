/-
# The initialisation of the platform schema

`ensure_platform_schema` of `api/db.py` runs in every thread that serves a request.  It looks at a
flag, takes a lock, looks again, and then creates the tables that are missing and adds the columns
that an old database lacks.  The `with` block around the lock ends after the second look, so the
statements run without the lock: two calls may both find a column missing, and the second one fails
when it adds it.  A call that returns has always run all the statements, or waited for one that has;
the rest is true of the runs in which no call starts its statements before another one is through
(`initialised_iff`).
-/
import EcommerceAgent.Lib.Runs
import EcommerceAgent.Lib.Script
import Mathlib.Logic.Function.Basic

open EcommerceAgent.Lib

namespace EcommerceAgent.Runtime.PlatformSchema

/-! ### The server -/

/-- The statements, by what they are about. -/
inductive Statement
  /-- `CREATE TABLE IF NOT EXISTS`, with the columns. -/
  | createTable (table : String) (columns : List String)
  /-- The query of `table_exists`. -/
  | tableExists (table : String)
  /-- The query of `column_exists`. -/
  | columnExists (table column : String)
  /-- `ALTER TABLE … ADD COLUMN`. -/
  | addColumn (table column : String)
deriving DecidableEq, Repr

/-- What a statement may raise. -/
inductive SqlError
  | duplicateColumn
  | noSuchTable
  /-- The connection is lost, the server is down, and so on. -/
  | other (message : String)
deriving DecidableEq, Repr

/-- The columns of the tables that exist, and the statements that have taken effect, the last one
first. -/
structure Server where
  tables : String → Option (List String)
  log : List Statement

namespace Server

variable (s : Server)

/-- The table has the column. -/
def HasColumn (table column : String) : Prop := ∃ columns ∈ s.tables table, column ∈ columns

instance (table column : String) : Decidable (s.HasColumn table column) :=
  inferInstanceAs (Decidable (∃ columns ∈ s.tables table, column ∈ columns))

/-- The tables after a statement that goes through. -/
def altered : Statement → String → Option (List String)
  | .createTable table columns =>
    if (s.tables table).isSome then s.tables else Function.update s.tables table (some columns)
  | .addColumn table column =>
    Function.update s.tables table ((s.tables table).map (· ++ [column]))
  | _ => s.tables

/-- A statement goes through. -/
def perform (statement : Statement) : Server :=
  { tables := s.altered statement, log := statement :: s.log }

/-- Why the server does not accept a statement. -/
def refusal : Statement → Option SqlError
  | .addColumn table column =>
    if (s.tables table).isNone then some .noSuchTable
    else if s.HasColumn table column then some .duplicateColumn
    else none
  | _ => none

end Server

/-! ### The statements -/

/-- A part of `ensure_platform_schema`. -/
abbrev SchemaScript (α : Type) := Script Statement Server SqlError α

/-- `execute`. -/
def execute (statement : Statement) : SchemaScript Unit :=
  .query statement (·.perform statement) (fun _ => .ret ()) .raise

/-- `table_exists`. -/
def tableExists (table : String) : SchemaScript Bool :=
  .query (.tableExists table) (·.perform (.tableExists table))
    (fun s => .ret (s.tables table).isSome) .raise

/-- `column_exists`. -/
def columnExists (table column : String) : SchemaScript Bool :=
  .query (.columnExists table column) (·.perform (.columnExists table column))
    (fun s => .ret (s.HasColumn table column)) .raise

/-- `statements`: the tables with their columns. -/
def statements : List (String × List String) :=
  [("gateway_tenants", ["id", "name", "status", "created_at", "updated_at"]),
    ("gateway_shops", ["id", "tenant_id", "name", "category", "platform", "shop_type",
      "business_stage", "status", "auth_status", "data_status", "last_sync_at", "created_at",
      "updated_at"]),
    ("platform_integrations", ["id", "tenant_id", "shop_id", "platform", "status",
      "access_token_encrypted", "refresh_token_encrypted", "expires_at", "last_sync_at",
      "error_message", "created_at", "updated_at"]),
    ("data_import_jobs", ["id", "tenant_id", "shop_id", "source", "file_name", "status",
      "rows_count", "quality_score", "mapping_json", "error_message", "created_by", "created_at",
      "updated_at"]),
    ("business_reports", ["id", "tenant_id", "shop_id", "type", "title", "summary",
      "content_markdown", "structured_json", "status", "source_task_id", "created_by",
      "created_at", "updated_at"]),
    ("agent_jobs", ["id", "tenant_id", "shop_id", "agent_id", "agent_name", "job_type", "title",
      "status", "task_id", "conversation_id", "params_json", "result_report_id",
      "result_summary_json", "error_message", "created_by", "created_at", "updated_at"]),
    ("strategy_reviews", ["id", "tenant_id", "shop_id", "title", "source", "expected_impact",
      "risk_level", "status", "source_task_id", "created_at", "reviewed_by", "reviewed_at"]),
    ("ai_chat_conversations", ["id", "tenant_id", "shop_id", "user_id", "title", "status",
      "created_at", "updated_at"]),
    ("ai_chat_messages", ["id", "tenant_id", "shop_id", "user_id", "conversation_id", "role",
      "content", "structured_json", "source", "status", "task_id", "intent", "error_message",
      "created_at", "updated_at"]),
    ("ai_chat_runs", ["id", "tenant_id", "shop_id", "user_id", "conversation_id", "message_id",
      "task_id", "user_content", "assistant_content", "structured_json", "intent", "status",
      "source", "error_message", "created_at", "updated_at", "completed_at"])]

/-- The columns that an old `gateway_shops` may lack. -/
def gatewayShopsColumns : List (String × String) :=
  [("gateway_shops", "category"), ("gateway_shops", "platform"), ("gateway_shops", "shop_type"),
    ("gateway_shops", "business_stage"), ("gateway_shops", "status"),
    ("gateway_shops", "last_sync_at")]

/-- The columns that an old `agent_jobs` may lack. -/
def agentJobsColumns : List (String × String) :=
  [("agent_jobs", "params_json"), ("agent_jobs", "result_report_id"),
    ("agent_jobs", "result_summary_json")]

/-- The columns of the last loop. -/
def structuredColumns : List (String × String) :=
  [("business_reports", "structured_json"), ("ai_chat_messages", "structured_json"),
    ("ai_chat_runs", "structured_json")]

/-- The columns of all three loops. -/
def patchedColumns : List (String × String) :=
  gatewayShopsColumns ++ agentJobsColumns ++ structuredColumns

/-- The loop over `statements`. -/
def createTables : List (String × List String) → SchemaScript Unit
  | [] => pure ()
  | (table, columns) :: rest => do
    execute (.createTable table columns)
    createTables rest

/-- The body of the loops over columns. -/
def patchColumn (table column : String) : SchemaScript Unit := do
  if ← tableExists table then
    if ← columnExists table column then pure ()
    else execute (.addColumn table column)
  else pure ()

/-- A loop over columns. -/
def patchColumns : List (String × String) → SchemaScript Unit
  | [] => pure ()
  | (table, column) :: rest => do
    patchColumn table column
    patchColumns rest

/-- The statements of `ensure_platform_schema`, up to the assignment of the flag. -/
def schemaStatements : SchemaScript Unit := do
  createTables statements
  patchColumns gatewayShopsColumns
  patchColumns agentJobsColumns
  patchColumns structuredColumns

/-! ### The calls -/

/-- Where a call of `ensure_platform_schema` stands. -/
inductive Call
  /-- Before the first look at the flag. -/
  | entered
  /-- At the `with` statement. -/
  | waiting
  /-- In the `with` block. -/
  | holding
  /-- At the end of the `with` block, with what it has found in the flag. -/
  | leaving (found : Bool)
  /-- Behind the `with` block, before the first statement. -/
  | passed
  /-- Between the first statement and the assignment of the flag. -/
  | running (rest : SchemaScript Unit)
  /-- It has returned or raised. -/
  | ended (result : Except SqlError Unit)

/-- The call goes on, or ends with the exception of its last statement. -/
def Call.afterStatement : SchemaScript Unit → Call
  | .raise e => .ended (.error e)
  | rest => .running rest

/-- The database, the globals `_platform_schema_ready` and `_platform_schema_lock` with the thread
that holds it, and the last call of each thread. -/
structure Process (Thread : Type) where
  server : Server
  ready : Bool
  lock : Option Thread
  calls : Thread → Option Call

/-- What happens: a thread calls `ensure_platform_schema`, or goes on with its call; a statement
fails if a message is given, or if the server does not accept it. -/
inductive Event (Thread : Type)
  | call (i : Thread)
  | step (i : Thread) (failure : Option String)

namespace Process

variable {Thread : Type} [DecidableEq Thread] (s : Process Thread)

/-- A process starts. -/
def initial (tables : String → Option (List String)) : Process Thread where
  server := ⟨tables, []⟩
  ready := false
  lock := none
  calls := fun _ => none

/-- The thread's call goes on. -/
def setCall (i : Thread) (c : Call) : Process Thread :=
  { s with calls := Function.update s.calls i (some c) }

/-- The exception of the next statement, if it fails. -/
def failureOf (rest : SchemaScript Unit) (failure : Option String) : Option SqlError :=
  (rest.label?.bind s.server.refusal).or (failure.map .other)

/-- The next statement. -/
def statement (i : Thread) (rest : SchemaScript Unit) (failure : Option String) : Process Thread :=
  let next := rest.step (s.failureOf rest failure) s.server
  { s.setCall i (.afterStatement next.1) with server := next.2 }

/-- The thread goes on. -/
def advance (i : Thread) (failure : Option String) : Call → Process Thread
  | .entered => if s.ready then s.setCall i (.ended (.ok ())) else s.setCall i .waiting
  | .waiting => if s.lock.isNone then { s.setCall i .holding with lock := some i } else s
  | .holding => s.setCall i (.leaving s.ready)
  | .leaving found =>
    { s.setCall i (if found then .ended (.ok ()) else .passed) with lock := none }
  | .passed => s.statement i schemaStatements failure
  | .running (.ret ()) => { s.setCall i (.ended (.ok ())) with ready := true }
  | .running rest => s.statement i rest failure
  | .ended _ => s

/-- The thread has no call that is not over. -/
def Idle (i : Thread) : Prop := ∀ c ∈ s.calls i, ∃ result, c = .ended result

/-- One step. -/
def step (s : Process Thread) : Event Thread → Process Thread
  | .call i =>
    match s.calls i with
    | none => s.setCall i .entered
    | some (.ended _) => s.setCall i .entered
    | _ => s
  | .step i failure => (s.calls i).elim s (s.advance i failure)

/-! ### What is claimed -/

/-- The thread is between the first schema statement and the assignment of the flag. -/
def Inside (i : Thread) : Prop := ∃ rest, s.calls i = some (.running rest)

end Process

/-- All statements have been executed. -/
structure Server.Complete (s : Server) : Prop where
  created : ∀ x ∈ statements, .createTable x.1 x.2 ∈ s.log ∧ (s.tables x.1).isSome
  patched : ∀ x ∈ patchedColumns, .columnExists x.1 x.2 ∈ s.log ∧ s.HasColumn x.1 x.2

namespace Process

variable {Thread : Type} [DecidableEq Thread] (s : Process Thread)

/-- The initialisation is exclusive, adds every column once, fails only for reasons of its own, and
is complete when a call returns. -/
structure Initialised : Prop where
  /-- At most one thread runs the statements. -/
  exclusive : ∀ i j, s.Inside i → s.Inside j → i = j
  /-- No column is added twice. -/
  once : ∀ table column, s.server.log.count (.addColumn table column) ≤ 1
  /-- A call that raises does so for a reason that does not lie with the other calls. -/
  unharmed : ∀ i e, s.calls i = some (.ended (.error e)) → ∃ message, e = .other message
  /-- A call returns after all statements. -/
  complete : ∀ i, s.calls i = some (.ended (.ok ())) → s.server.Complete
  /-- As long as not all statements have been executed, the flag is unset, and a call that meets no
  other one gets to the first statement. -/
  again : ¬ s.server.Complete → s.ready = false ∧ ∀ i failure, s.lock = none → s.Idle i →
    (run step s (.call i :: List.replicate 4 (.step i failure))).calls i = some .passed

/-- The first statement of a call goes through only while no other call is between its first
statement and the flag. -/
def Alone : Event Thread → Prop
  | .step i none => s.calls i = some .passed → ∀ j, ¬ s.Inside j
  | _ => True

end Process

/-! ### What a statement does -/

namespace Server

variable {s : Server}

/-- Statements are executed, and tables and columns are added. -/
structure Grows (s s' : Server) : Prop where
  log : ∀ statement ∈ s.log, statement ∈ s'.log
  tables : ∀ table, (s.tables table).isSome → (s'.tables table).isSome
  columns : ∀ table column, s.HasColumn table column → s'.HasColumn table column

instance : Std.Refl Grows := ⟨fun _ => ⟨fun _ h => h, fun _ h => h, fun _ _ h => h⟩⟩

instance : IsTrans Server Grows :=
  ⟨fun _ _ _ h h' => ⟨fun x hx => h'.log x (h.log x hx), fun x hx => h'.tables x (h.tables x hx),
    fun x y hx => h'.columns x y (h.columns x y hx)⟩⟩

lemma hasColumn_iff {table column : String} :
    s.HasColumn table column ↔ ∃ columns, s.tables table = some columns ∧ column ∈ columns := by
  simp [HasColumn, Option.mem_def]

lemma HasColumn.isSome {table column : String} (h : s.HasColumn table column) :
    (s.tables table).isSome := by
  obtain ⟨columns, hcolumns, -⟩ := hasColumn_iff.mp h
  simp [hcolumns]

lemma perform_grows (s : Server) (statement : Statement) : s.Grows (s.perform statement) := by
  have hlog : ∀ x ∈ s.log, x ∈ (s.perform statement).log := fun x hx => List.mem_cons_of_mem _ hx
  cases statement with
  | createTable table columns =>
    by_cases htable : (s.tables table).isSome
    · have hsame : (s.perform (.createTable table columns)).tables = s.tables := if_pos htable
      refine ⟨hlog, fun other h => by rwa [hsame], fun other column h => ?_⟩
      rw [hasColumn_iff] at h ⊢
      rwa [hsame]
    · have hsame : ∀ other, (s.tables other).isSome →
          (s.perform (.createTable table columns)).tables other = s.tables other := by
        intro other hother
        have hne : other ≠ table := by
          rintro rfl
          exact htable hother
        show (if _ then _ else _ : String → Option (List String)) other = _
        rw [if_neg htable, Function.update_of_ne hne]
      refine ⟨hlog, fun other h => by rwa [hsame other h], fun other column h => ?_⟩
      have hsome := h.isSome
      rw [hasColumn_iff] at h ⊢
      rwa [hsame other hsome]
  | addColumn table column =>
    have hself : (s.perform (.addColumn table column)).tables table =
        (s.tables table).map (· ++ [column]) := Function.update_self ..
    have hother : ∀ other, other ≠ table →
        (s.perform (.addColumn table column)).tables other = s.tables other :=
      fun other hne => Function.update_of_ne hne ..
    refine ⟨hlog, fun other h => ?_, fun other column' h => ?_⟩
    · by_cases hne : other = table
      · rw [hne, hself, Option.isSome_map, ← hne]
        exact h
      · rwa [hother other hne]
    · by_cases hne : other = table
      · obtain ⟨columns, hcolumns, hmem⟩ := hasColumn_iff.mp h
        subst hne
        refine hasColumn_iff.mpr ⟨columns ++ [column], by rw [hself, hcolumns]; rfl, ?_⟩
        exact List.mem_append_left _ hmem
      · rw [hasColumn_iff] at h ⊢
        rwa [hother other hne]
  | tableExists table => exact ⟨hlog, fun _ h => h, fun _ _ h => h⟩
  | columnExists table column => exact ⟨hlog, fun _ h => h, fun _ _ h => h⟩

lemma mem_log_perform (s : Server) (statement : Statement) :
    statement ∈ (s.perform statement).log := List.mem_cons_self

/-- After `CREATE TABLE IF NOT EXISTS` the table exists. -/
lemma isSome_createTable (s : Server) (table : String) (columns : List String) :
    ((s.perform (.createTable table columns)).tables table).isSome := by
  show ((if _ then _ else _ : String → Option (List String)) table).isSome
  split
  · next h => exact h
  · simp

/-- After `ADD COLUMN` an existing table has the column. -/
lemma hasColumn_addColumn {table : String} (column : String) (h : (s.tables table).isSome) :
    (s.perform (.addColumn table column)).HasColumn table column := by
  obtain ⟨columns, hcolumns⟩ := Option.isSome_iff_exists.mp h
  refine hasColumn_iff.mpr ⟨columns ++ [column], ?_, by simp⟩
  show Function.update s.tables table ((s.tables table).map (· ++ [column])) table = _
  rw [Function.update_self, hcolumns]
  rfl

/-- An accepted `ADD COLUMN` adds a new column to an existing table. -/
lemma of_refusal_addColumn {table column : String}
    (h : s.refusal (.addColumn table column) = none) :
    (s.tables table).isSome ∧ ¬ s.HasColumn table column := by
  rw [refusal] at h
  split_ifs at h with hnone hhas
  refine ⟨?_, hhas⟩
  rw [Option.isSome_iff_ne_none]
  simpa using hnone

lemma refusal_addColumn {table column : String} (htable : (s.tables table).isSome)
    (hcolumn : ¬ s.HasColumn table column) : s.refusal (.addColumn table column) = none := by
  rw [refusal, if_neg (by simpa [Option.isSome_iff_ne_none] using htable), if_neg hcolumn]

lemma Complete.grows {s' : Server} (h : s.Complete) (hs : s.Grows s') : s'.Complete where
  created x hx := ⟨hs.log _ (h.created x hx).1, hs.tables _ (h.created x hx).2⟩
  patched x hx := ⟨hs.log _ (h.patched x hx).1, hs.columns _ _ (h.patched x hx).2⟩

end Server

/-! ### What the statements leave behind -/

/-- Whatever the other threads add, and whatever fails. -/
abbrev Leaves {α : Type} (p : SchemaScript α) (Q : α → Server → Prop) (s : Server) : Prop :=
  p.Through (fun _ _ _ => True) Server.Grows Server.Grows (fun r s => ∀ a, r = .ok a → Q a s) s

/-- The table has been created. -/
def Created (x : String × List String) (s : Server) : Prop :=
  .createTable x.1 x.2 ∈ s.log ∧ (s.tables x.1).isSome

/-- The column has been looked for and is there. -/
def Patched (x : String × String) (s : Server) : Prop :=
  .columnExists x.1 x.2 ∈ s.log ∧ s.HasColumn x.1 x.2

lemma Created.grows {x : String × List String} {s s' : Server} (h : Created x s)
    (hs : s.Grows s') : Created x s' := ⟨hs.log _ h.1, hs.tables _ h.2⟩

lemma Patched.grows {x : String × String} {s s' : Server} (h : Patched x s)
    (hs : s.Grows s') : Patched x s' := ⟨hs.log _ h.1, hs.columns _ _ h.2⟩

/-- The rule of sequential composition. -/
lemma Leaves.bind {α β : Type} {p : SchemaScript α} {k : α → SchemaScript β} {P : α → Server → Prop}
    {Q : β → Server → Prop} {s : Server} (hp : Leaves p P s)
    (hk : ∀ a s, P a s → Leaves (k a) Q s) : Leaves (p.bind k) Q s := by
  refine Script.through_bind (hp.mono fun r s hr => ?_)
  cases r with
  | ok a => exact hk a s (hr a rfl)
  | error e =>
    intro a ha
    cases ha

/-- What holds and cannot be undone holds at the end. -/
lemma Leaves.and {α : Type} {p : SchemaScript α} {Q : α → Server → Prop} {I : Server → Prop}
    {s : Server} (h : Leaves p Q s) (hI : ∀ s s', I s → s.Grows s' → I s') (hs : I s) :
    Leaves p (fun a s => Q a s ∧ I s) s :=
  (h.stable hI hI hs).mono fun _ _ hr a ha => ⟨hr.1 a ha, hr.2⟩

lemma leaves_createTables (l : List (String × List String)) (s : Server) :
    Leaves (createTables l) (fun _ s => ∀ x ∈ l, Created x s) s := by
  induction l generalizing s with
  | nil => exact fun t ht a ha x hx => absurd hx List.not_mem_nil
  | cons x rest ih =>
    have hfirst : Leaves (execute (.createTable x.1 x.2)) (fun _ s => Created x s) s := by
      refine fun t ht => ⟨⟨t.perform_grows _, fun t' ht' a ha => ?_⟩, fun e _ t' ht' a ha => ?_⟩
      · exact Created.grows ⟨t.mem_log_perform _, t.isSome_createTable _ _⟩ ht'
      · cases ha
    refine hfirst.bind fun _ t ht => ?_
    refine ((ih t).and (fun _ _ h hs => Created.grows h hs) ht).mono fun r t' hr a ha y hy => ?_
    rcases List.mem_cons.mp hy with rfl | hy
    · exact (hr a ha).2
    · exact (hr a ha).1 y hy

lemma leaves_patchColumn (x : String × String) {s : Server} (hs : (s.tables x.1).isSome) :
    Leaves (patchColumn x.1 x.2) (fun _ s => Patched x s) s := by
  intro t ht
  have htable := ht.tables _ hs
  refine ⟨⟨t.perform_grows _, ?_⟩, fun e _ t' _ a ha => nomatch ha⟩
  show Leaves (if (t.tables x.1).isSome then _ else _) _ _
  rw [if_pos htable]
  -- The column is looked for in a state that may have grown again.
  intro u hu
  refine ⟨⟨u.perform_grows _, ?_⟩, fun e _ t' _ a ha => nomatch ha⟩
  show Leaves (if decide (u.HasColumn x.1 x.2) = true then _ else _) _ _
  have hlog : .columnExists x.1 x.2 ∈ (u.perform (.columnExists x.1 x.2)).log :=
    u.mem_log_perform _
  have hsome : (((u.perform (.columnExists x.1 x.2)).tables x.1)).isSome :=
    hu.tables _ ((t.perform_grows _).tables _ htable)
  by_cases hcolumn : u.HasColumn x.1 x.2
  · rw [if_pos (decide_eq_true hcolumn)]
    exact fun v hv a ha => Patched.grows ⟨hlog, hcolumn⟩ hv
  · rw [if_neg (by simpa using hcolumn)]
    refine fun v hv => ⟨⟨v.perform_grows _, fun w hw a ha => ?_⟩, fun e _ t' _ a ha => nomatch ha⟩
    refine Patched.grows (s := v.perform (.addColumn x.1 x.2)) ⟨?_, ?_⟩ hw
    · exact (v.perform_grows _).log _ (hv.log _ hlog)
    · exact v.hasColumn_addColumn x.2 (hv.tables _ hsome)

lemma leaves_patchColumns (l : List (String × String)) {s : Server}
    (hs : ∀ x ∈ l, (s.tables x.1).isSome) :
    Leaves (patchColumns l) (fun _ s => ∀ x ∈ l, Patched x s) s := by
  induction l generalizing s with
  | nil => exact fun t ht a ha x hx => absurd hx List.not_mem_nil
  | cons x rest ih =>
    have hfirst := (leaves_patchColumn x (hs x List.mem_cons_self)).and
      (I := fun s => ∀ x ∈ rest, (s.tables x.1).isSome)
      (fun _ _ h hs y hy => hs.tables _ (h y hy)) fun y hy => hs y (List.mem_cons_of_mem _ hy)
    refine hfirst.bind fun _ t ht => ?_
    refine ((ih ht.2).and (fun _ _ h hs => Patched.grows h hs) ht.1).mono
      fun r t' hr a ha y hy => ?_
    rcases List.mem_cons.mp hy with rfl | hy
    · exact (hr a ha).2
    · exact (hr a ha).1 y hy

/-- Every table with a patched column is one of those that are created. -/
lemma exists_statement_of_patched : ∀ x ∈ patchedColumns, ∃ y ∈ statements, y.1 = x.1 := by
  decide +kernel

/-- A call that gets through its statements leaves all of them executed, whatever others do. -/
lemma leaves_schemaStatements (s : Server) :
    Leaves schemaStatements (fun _ s => s.Complete) s := by
  -- The three loops patch their columns one after the other.
  have htables : ∀ {l : List (String × String)} {t : Server}, (∀ x ∈ statements, Created x t) →
      l ⊆ patchedColumns → ∀ x ∈ l, (t.tables x.1).isSome := by
    intro l t ht hl x hx
    obtain ⟨y, hy, hyx⟩ := exists_statement_of_patched x (hl hx)
    rw [← hyx]
    exact (ht y hy).2
  have hcreated : ∀ t t', (∀ x ∈ statements, Created x t) → t.Grows t' →
      ∀ x ∈ statements, Created x t' := fun t t' h hs x hx => (h x hx).grows hs
  refine (leaves_createTables statements s).bind fun _ t ht => ?_
  refine ((leaves_patchColumns gatewayShopsColumns (htables ht ?_)).and hcreated ht).bind
    fun _ t ht => ?_
  · intro x hx
    simp only [patchedColumns, List.mem_append]
    exact .inl (.inl hx)
  refine ((leaves_patchColumns agentJobsColumns (htables ht.2 ?_)).and
    (I := fun t => (∀ x ∈ gatewayShopsColumns, Patched x t) ∧ ∀ x ∈ statements, Created x t)
    (fun t t' h hs => ⟨fun x hx => (h.1 x hx).grows hs, hcreated t t' h.2 hs⟩) ht).bind
    fun _ t ht => ?_
  · intro x hx
    simp only [patchedColumns, List.mem_append]
    exact .inl (.inr hx)
  refine ((leaves_patchColumns structuredColumns (htables ht.2.2 ?_)).and
    (I := fun t => (∀ x ∈ agentJobsColumns, Patched x t) ∧
      (∀ x ∈ gatewayShopsColumns, Patched x t) ∧ ∀ x ∈ statements, Created x t)
    (fun t t' h hs => ⟨fun x hx => (h.1 x hx).grows hs, fun x hx => (h.2.1 x hx).grows hs,
      hcreated t t' h.2.2 hs⟩) ht).mono fun r t hr a ha => ?_
  · intro x hx
    simp only [patchedColumns, List.mem_append]
    exact .inr hx
  obtain ⟨hstructured, hagent, hgateway, htables⟩ := hr a ha
  refine ⟨htables, fun x hx => ?_⟩
  simp only [patchedColumns, List.mem_append] at hx
  rcases hx with (hx | hx) | hx
  · exact hgateway x hx
  · exact hagent x hx
  · exact hstructured x hx

/-- The script consists of statements for the server. -/
def Performs {α : Type} : SchemaScript α → Prop
  | .ret _ => True
  | .raise _ => True
  | .query statement effect next failed =>
    (∀ s, effect s = s.perform statement) ∧ (∀ s, Performs (next s)) ∧ ∀ e, Performs (failed e)
  | .act .. => False

lemma Performs.bind {α β : Type} {p : SchemaScript α} {k : α → SchemaScript β} (hp : Performs p)
    (hk : ∀ a, Performs (k a)) : Performs (p.bind k) := by
  induction p with
  | ret a => exact hk a
  | raise e => trivial
  | query label effect next failed ihn ihf =>
    exact ⟨hp.1, fun s => ihn s (hp.2.1 s), fun e => ihf e (hp.2.2 e)⟩
  | act => exact hp.elim

lemma performs_execute (statement : Statement) : Performs (execute statement) :=
  ⟨fun _ => rfl, fun _ => trivial, fun _ => trivial⟩

lemma performs_createTables (l : List (String × List String)) : Performs (createTables l) := by
  induction l with
  | nil => trivial
  | cons x rest ih => exact (performs_execute _).bind fun _ => ih

lemma performs_patchColumn (table column : String) : Performs (patchColumn table column) := by
  have htable : Performs (tableExists table) := ⟨fun _ => rfl, fun _ => trivial, fun _ => trivial⟩
  have hcolumn : Performs (columnExists table column) :=
    ⟨fun _ => rfl, fun _ => trivial, fun _ => trivial⟩
  refine htable.bind fun found => ?_
  cases found with
  | false => trivial
  | true =>
    refine hcolumn.bind fun found => ?_
    cases found with
    | false => exact performs_execute _
    | true => trivial

lemma performs_patchColumns (l : List (String × String)) : Performs (patchColumns l) := by
  induction l with
  | nil => trivial
  | cons x rest ih => exact (performs_patchColumn x.1 x.2).bind fun _ => ih

lemma performs_schemaStatements : Performs schemaStatements :=
  (performs_createTables _).bind fun _ => (performs_patchColumns _).bind fun _ =>
    (performs_patchColumns _).bind fun _ => performs_patchColumns _

/-! ### What a call alone raises -/

/-- The failures of a statement that the server does not make up. -/
def Answers (statement : Statement) (e : SqlError) (s : Server) : Prop :=
  s.refusal statement = some e ∨ ∃ message, e = .other message

/-- As long as nobody else touches the database, the script fails only for reasons of its own. -/
abbrev Undisturbed {α : Type} (p : SchemaScript α) (s : Server) : Prop :=
  p.Through Answers Eq (fun _ _ => True)
    (fun r _ => ∀ e, r = .error e → ∃ message, e = .other message) s

/-- The rule of sequential composition. -/
lemma Undisturbed.bind {α β : Type} {p : SchemaScript α} {k : α → SchemaScript β} {s : Server}
    (hp : Undisturbed p s) (hk : ∀ a s, Undisturbed (k a) s) : Undisturbed (p.bind k) s := by
  refine Script.through_bind (hp.mono fun r s hr => ?_)
  cases r with
  | ok a => exact hk a s
  | error e =>
    rintro e' he
    cases he
    exact hr e rfl

/-- A statement that the server accepts fails for another reason. -/
lemma undisturbed_raise {statement : Statement} {s : Server} (h : s.refusal statement = none)
    {e : SqlError} (he : Answers statement e s) {α : Type} :
    Undisturbed (.raise e : SchemaScript α) s := by
  rintro _ - e' he'
  cases he'
  rcases he with he | he
  · rw [h] at he
    cases he
  · exact he

lemma undisturbed_ret {α : Type} (a : α) (s : Server) :
    Undisturbed (.ret a : SchemaScript α) s := fun _ _ _ he => nomatch he

lemma undisturbed_createTables (l : List (String × List String)) (s : Server) :
    Undisturbed (createTables l) s := by
  induction l generalizing s with
  | nil => exact undisturbed_ret () s
  | cons x rest ih =>
    have hfirst : Undisturbed (execute (.createTable x.1 x.2)) s := by
      rintro _ rfl
      exact ⟨⟨trivial, undisturbed_ret () _⟩, fun e he => undisturbed_raise rfl he⟩
    exact hfirst.bind fun _ t => ih t

/-- Between the lookup of a column and its addition the table stays as it is. -/
lemma undisturbed_patchColumn (table column : String) (s : Server) :
    Undisturbed (patchColumn table column) s := by
  rintro _ rfl
  refine ⟨⟨trivial, ?_⟩, fun e he => undisturbed_raise rfl he⟩
  show Undisturbed (if (s.tables table).isSome then _ else _) _
  by_cases htable : (s.tables table).isSome
  · rw [if_pos htable]
    rintro _ rfl
    refine ⟨⟨trivial, ?_⟩, fun e he => undisturbed_raise rfl he⟩
    show Undisturbed (if decide (s.HasColumn table column) = true then _ else _) _
    by_cases hcolumn : s.HasColumn table column
    · rw [if_pos (decide_eq_true hcolumn)]
      exact undisturbed_ret () _
    · rw [if_neg (by simpa using hcolumn)]
      rintro _ rfl
      refine ⟨⟨trivial, undisturbed_ret () _⟩, fun e he => undisturbed_raise ?_ he⟩
      exact Server.refusal_addColumn htable hcolumn
  · rw [if_neg htable]
    exact undisturbed_ret () _

lemma undisturbed_patchColumns (l : List (String × String)) (s : Server) :
    Undisturbed (patchColumns l) s := by
  induction l generalizing s with
  | nil => exact undisturbed_ret () s
  | cons x rest ih => exact (undisturbed_patchColumn x.1 x.2 s).bind fun _ t => ih t

lemma undisturbed_schemaStatements (s : Server) : Undisturbed schemaStatements s := by
  refine (undisturbed_createTables statements s).bind fun _ t => ?_
  refine (undisturbed_patchColumns gatewayShopsColumns t).bind fun _ t => ?_
  exact (undisturbed_patchColumns agentJobsColumns t).bind fun _ t =>
    undisturbed_patchColumns structuredColumns t

/-! ### What holds in every run -/

/-- What a call has done, or will have done. -/
def Call.Sound (server : Server) : Call → Prop
  | .leaving found => found = true → server.Complete
  | .running rest => Leaves rest (fun _ s => s.Complete) server ∧ Performs rest
  | .ended (.ok ()) => server.Complete
  | _ => True

lemma Call.Sound.grows {server server' : Server} {c : Call} (h : c.Sound server)
    (hs : server.Grows server') : c.Sound server' := by
  cases c with
  | leaving found => exact fun hfound => (h hfound).grows hs
  | running rest => exact ⟨h.1.rely hs, h.2⟩
  | ended result =>
    cases result with
    | ok => exact Server.Complete.grows h hs
    | error => trivial
  | entered | waiting | holding | passed => trivial

/-- The call has not failed, and will not fail while the others stay outside, for a reason that lies
with them. -/
def Call.Unharmed (server : Server) : Call → Prop
  | .running rest => Undisturbed rest server
  | .ended (.error e) => ∃ message, e = .other message
  | _ => True

/-- What holds in every state of every run. -/
structure Process.Sound {Thread : Type} (s : Process Thread) : Prop where
  calls : ∀ i c, s.calls i = some c → c.Sound s.server
  ready : s.ready = true → s.server.Complete
  added : ∀ table column, .addColumn table column ∈ s.server.log → s.server.HasColumn table column
  once : ∀ table column, s.server.log.count (.addColumn table column) ≤ 1

namespace Process

variable {Thread : Type} [DecidableEq Thread] {s : Process Thread} {i : Thread} {c : Call}

@[simp] lemma setCall_self (i : Thread) (c : Call) : (s.setCall i c).calls i = some c :=
  Function.update_self ..

lemma setCall_of_ne {i j : Thread} (c : Call) (h : j ≠ i) :
    (s.setCall i c).calls j = s.calls j := Function.update_of_ne h ..

/-- One call goes on, while the database grows. -/
lemma Sound.update (hs : s.Sound) {s' : Process Thread} (hcalls : s'.calls = (s.setCall i c).calls)
    (hgrows : s.server.Grows s'.server) (hc : c.Sound s'.server)
    (hready : s'.ready = true → s'.server.Complete)
    (hadded : ∀ table column, .addColumn table column ∈ s'.server.log →
      s'.server.HasColumn table column)
    (honce : ∀ table column, s'.server.log.count (.addColumn table column) ≤ 1) : s'.Sound := by
  refine ⟨fun j d hd => ?_, hready, hadded, honce⟩
  rw [hcalls] at hd
  by_cases hj : j = i
  · rw [hj, setCall_self] at hd
    cases hd
    exact hc
  · rw [setCall_of_ne c hj] at hd
    exact (hs.calls j d hd).grows hgrows

/-- One call goes on without a statement. -/
lemma Sound.setCall (hs : s.Sound) (hc : c.Sound s.server) : (s.setCall i c).Sound :=
  hs.update rfl (refl s.server) hc hs.ready hs.added hs.once

/-- A statement is performed if the server accepts it, and else changes nothing. -/
lemma statement_server {rest : SchemaScript Unit} (hrest : Performs rest) (i : Thread)
    (failure : Option String) :
    (s.statement i rest failure).server = s.server ∨
      ∃ label, s.server.refusal label = none ∧
        (s.statement i rest failure).server = s.server.perform label := by
  cases rest with
  | ret a => exact .inl rfl
  | raise e => exact .inl rfl
  | query label effect next failed =>
    show (Script.step _ _ _).2 = _ ∨ ∃ label, _ ∧ (Script.step _ _ _).2 = _
    cases hfailure : s.failureOf (.query label effect next failed) failure with
    | none =>
      refine .inr ⟨label, ?_, hrest.1 s.server⟩
      exact (Option.or_eq_none_iff.mp hfailure).1
    | some e => exact .inl rfl
  | act => exact hrest.elim

lemma performs_step {rest : SchemaScript Unit} (hrest : Performs rest) (failure : Option SqlError)
    (server : Server) : Performs (rest.step failure server).1 := by
  cases rest with
  | ret a => trivial
  | raise e => trivial
  | query label effect next failed =>
    cases failure with
    | none => exact hrest.2.1 server
    | some e => exact hrest.2.2 e
  | act => exact hrest.elim

/-- A statement keeps what holds in every run. -/
lemma Sound.statement (hs : s.Sound) {rest : SchemaScript Unit}
    (hleaves : Leaves rest (fun _ s => s.Complete) s.server) (hrest : Performs rest) (i : Thread)
    (failure : Option String) : (s.statement i rest failure).Sound := by
  have hnext := (hleaves.step (s.failureOf rest failure) fun _ _ _ _ => trivial).1
  have hcall : (Call.afterStatement (rest.step (s.failureOf rest failure) s.server).1).Sound
      (s.statement i rest failure).server := by
    have hperforms := performs_step hrest (s.failureOf rest failure) s.server
    revert hnext hperforms
    show Leaves _ _ (s.statement i rest failure).server → _
    generalize (rest.step (s.failureOf rest failure) s.server).1 = next
    intro hnext hperforms
    cases next with
    | raise e => trivial
    | ret | query | act => exact ⟨hnext, hperforms⟩
  rcases statement_server hrest i failure with hserver | ⟨label, haccepted, hserver⟩
  · refine hs.update rfl (by rw [hserver]; exact refl s.server) hcall ?_ ?_ ?_
    · rw [hserver]
      exact hs.ready
    · rw [hserver]
      exact hs.added
    · rw [hserver]
      exact hs.once
  · have hgrows : s.server.Grows (s.statement i rest failure).server := by
      rw [hserver]
      exact s.server.perform_grows label
    refine hs.update rfl hgrows hcall (fun hready => (hs.ready hready).grows hgrows) ?_ ?_
    · intro table column hmem
      rw [hserver] at hmem ⊢
      rcases List.mem_cons.mp hmem with rfl | hmem
      · exact s.server.hasColumn_addColumn column (Server.of_refusal_addColumn haccepted).1
      · exact (s.server.perform_grows label).columns _ _ (hs.added _ _ hmem)
    · intro table column
      rw [hserver]
      show (label :: s.server.log).count _ ≤ 1
      by_cases hlabel : label = .addColumn table column
      · -- A column that was added before would be refused.
        have hzero : s.server.log.count (.addColumn table column) = 0 := by
          refine List.count_eq_zero.mpr fun hmem => ?_
          subst hlabel
          exact (Server.of_refusal_addColumn haccepted).2 (hs.added _ _ hmem)
        rw [hlabel, List.count_cons_self]
        omega
      · rw [List.count_cons_of_ne hlabel]
        exact hs.once table column

lemma Sound.advance (hs : s.Sound) (i : Thread) (failure : Option String) {c : Call}
    (hc : c.Sound s.server) : (s.advance i failure c).Sound := by
  cases c with
  | entered =>
    rw [Process.advance]
    split
    · next hready => exact hs.setCall (hs.ready hready)
    · exact hs.setCall trivial
  | waiting =>
    rw [Process.advance]
    split
    · exact hs.update (i := i) (c := .holding) rfl (refl s.server) trivial hs.ready hs.added hs.once
    · exact hs
  | holding => exact hs.setCall hs.ready
  | leaving found =>
    refine hs.update (i := i) (c := if found then .ended (.ok ()) else .passed) rfl (refl s.server)
      ?_ hs.ready hs.added hs.once
    cases found with
    | false => trivial
    | true => exact hc rfl
  | passed => exact hs.statement (leaves_schemaStatements _) performs_schemaStatements i failure
  | running rest =>
    cases rest with
    | ret a =>
      -- The flag is set.
      have hcomplete : s.server.Complete := hc.1 s.server (refl s.server) () rfl
      exact hs.update (i := i) (c := .ended (.ok ())) rfl (refl s.server) hcomplete
        (fun _ => hcomplete) hs.added hs.once
    | raise | query | act => exact hs.statement hc.1 hc.2 i failure
  | ended result => exact hs

/-- What every step keeps. -/
lemma Sound.step (hs : s.Sound) (event : Event Thread) : (s.step event).Sound := by
  cases event with
  | call i =>
    rw [Process.step]
    split
    · exact hs.setCall trivial
    · exact hs.setCall trivial
    · exact hs
  | step i failure =>
    show ((s.calls i).elim s (s.advance i failure)).Sound
    cases hc : s.calls i with
    | none => exact hs
    | some c => exact hs.advance i failure (hs.calls i c hc)

/-! ### Runs in which the calls are alone -/

/-- At most one thread runs the statements. -/
def Exclusive (s : Process Thread) : Prop := ∀ i j, s.Inside i → s.Inside j → i = j

/-- All calls are unharmed. -/
def Unharmed (s : Process Thread) : Prop := ∀ i c, s.calls i = some c → c.Unharmed s.server

lemma inside_setCall {j : Thread} (h : (s.setCall i c).Inside j) :
    (j = i ∧ ∃ rest, c = .running rest) ∨ s.Inside j := by
  obtain ⟨rest, hrest⟩ := h
  by_cases hj : j = i
  · rw [hj, setCall_self] at hrest
    exact .inl ⟨hj, rest, Option.some.inj hrest⟩
  · rw [setCall_of_ne c hj] at hrest
    exact .inr ⟨rest, hrest⟩

/-- A thread gets between its first statement and the flag by executing its first statement. -/
lemma inside_of_advance {j : Thread} {failure : Option String} (hc : s.calls i = some c)
    (h : (s.advance i failure c).Inside j) :
    s.Inside j ∨ j = i ∧ failure = none ∧ c = .passed := by
  have hset : ∀ {d : Call}, (∀ rest, d ≠ .running rest) → (s.setCall i d).Inside j →
      s.Inside j := by
    intro d hd hinside
    rcases inside_setCall hinside with ⟨-, rest, hrest⟩ | hinside
    · exact absurd hrest (hd rest)
    · exact hinside
  cases c with
  | entered =>
    rw [advance] at h
    split at h <;> exact .inl (hset (by simp) h)
  | waiting =>
    rw [advance] at h
    split at h
    · exact .inl (hset (d := .holding) (by simp) h)
    · exact .inl h
  | holding => exact .inl (hset (by simp) h)
  | leaving found =>
    refine .inl (hset (d := if found then .ended (.ok ()) else .passed) ?_ h)
    cases found <;> simp
  | passed =>
    cases failure with
    | none =>
      rcases inside_setCall (s := s) h with ⟨hj, -⟩ | hinside
      · exact .inr ⟨hj, rfl, rfl⟩
      · exact .inl hinside
    | some message =>
      -- The first statement has failed, and the call is over.
      exact .inl (hset (d := .ended (.error (.other message))) (by simp) h)
  | running rest =>
    have hi : s.Inside i := ⟨rest, hc⟩
    cases rest with
    | ret => exact .inl (hset (d := .ended (.ok ())) (by simp) h)
    | raise | query | act =>
      rcases inside_setCall (s := s) h with ⟨hj, -⟩ | hinside
      · exact .inl (hj ▸ hi)
      · exact .inl hinside
  | ended result => exact .inl h

lemma inside_of_step {j : Thread} {event : Event Thread} (h : (s.step event).Inside j) :
    s.Inside j ∨ event = .step j none ∧ s.calls j = some .passed := by
  cases event with
  | call i =>
    rw [step] at h
    split at h
    · rcases inside_setCall h with ⟨-, rest, hrest⟩ | h
      · cases hrest
      · exact .inl h
    · rcases inside_setCall h with ⟨-, rest, hrest⟩ | h
      · cases hrest
      · exact .inl h
    · exact .inl h
  | step i failure =>
    cases hc : s.calls i with
    | none =>
      rw [step, hc] at h
      exact .inl h
    | some c =>
      rw [step, hc] at h
      rcases inside_of_advance hc h with h | ⟨rfl, rfl, rfl⟩
      · exact .inl h
      · exact .inr ⟨rfl, hc⟩

/-- The first statement went through. -/
lemma inside_step_passed (h : s.calls i = some .passed) : (s.step (.step i none)).Inside i := by
  rw [step, h]
  exact ⟨_, setCall_self i _⟩

/-- A step keeps the threads apart if and only if its thread is alone. -/
lemma exclusive_step (hs : s.Exclusive) (event : Event Thread) :
    (s.step event).Exclusive ↔ s.Alone event := by
  constructor
  · intro h
    cases event with
    | call => trivial
    | step i failure =>
      cases failure with
      | some => trivial
      | none =>
        intro hpassed j hj
        have hne : j ≠ i := by
          rintro rfl
          obtain ⟨rest, hrest⟩ := hj
          rw [hpassed] at hrest
          cases hrest
        have hj' : (s.step (.step i none)).Inside j := by
          obtain ⟨rest, hrest⟩ := hj
          refine ⟨rest, ?_⟩
          rw [step, hpassed]
          exact (setCall_of_ne _ hne).trans hrest
        exact hne (h j i hj' (inside_step_passed hpassed))
  · intro halone i j hi hj
    rcases inside_of_step hi with hi' | ⟨rfl, hpassed⟩
    · rcases inside_of_step hj with hj' | ⟨rfl, hpassed⟩
      · exact hs i j hi' hj'
      · exact absurd hi' (halone hpassed i)
    · rcases inside_of_step hj with hj' | ⟨heq, -⟩
      · exact absurd hj' (halone hpassed j)
      · cases heq
        rfl

/-- A call that is not at a statement does not look at the database. -/
lemma unharmed_congr {server server' : Server} (hc : ∀ rest, c ≠ .running rest)
    (h : c.Unharmed server) : c.Unharmed server' := by
  cases c with
  | running rest => exact absurd rfl (hc rest)
  | ended result =>
    cases result with
    | ok => trivial
    | error => exact h
  | entered | waiting | holding | leaving | passed => trivial

/-- One call goes on without a statement. -/
lemma Unharmed.update (hs : s.Unharmed) {s' : Process Thread}
    (hcalls : s'.calls = (s.setCall i c).calls) (hserver : s'.server = s.server)
    (hc : c.Unharmed s.server) : s'.Unharmed := by
  intro j d hd
  rw [hcalls] at hd
  rw [hserver]
  by_cases hj : j = i
  · rw [hj, setCall_self] at hd
    cases hd
    exact hc
  · rw [setCall_of_ne c hj] at hd
    exact hs j d hd

/-- A statement of a call that is alone does no harm. -/
lemma Unharmed.statement (hs : s.Unharmed) {rest : SchemaScript Unit}
    (halone : ∀ j, j ≠ i → ¬ s.Inside j) (hrest : Undisturbed rest s.server)
    (failure : Option String) : (s.statement i rest failure).Unharmed := by
  have hfail : ∀ e label, s.failureOf rest failure = some e → rest.label? = some label →
      Answers label e s.server := by
    intro e label he hlabel
    rw [failureOf, hlabel] at he
    rcases Option.or_eq_some_iff.mp he with he | ⟨-, he⟩
    · exact .inl he
    · obtain ⟨message, -, rfl⟩ := Option.map_eq_some_iff.mp he
      exact .inr ⟨message, rfl⟩
  have hnext := (hrest.step _ hfail).1
  intro j d hd
  by_cases hj : j = i
  · rw [hj] at hd
    obtain rfl := Option.some.inj ((setCall_self (s := s) i _).symm.trans hd)
    revert hnext
    show Undisturbed _ (s.statement i rest failure).server → _
    generalize (rest.step (s.failureOf rest failure) s.server).1 = next
    intro hnext
    cases next with
    | raise e => exact hnext _ rfl e rfl
    | ret | query | act => exact hnext
  · have hbefore : s.calls j = some d := (setCall_of_ne _ hj).symm.trans hd
    refine unharmed_congr ?_ (hs j d hbefore)
    rintro r rfl
    exact halone j hj ⟨r, hbefore⟩

/-- A step of a call that is alone does no harm. -/
lemma Unharmed.step (hs : s.Unharmed) (hexclusive : s.Exclusive) {event : Event Thread}
    (halone : s.Alone event) : (s.step event).Unharmed := by
  cases event with
  | call i =>
    rw [Process.step]
    split
    · exact hs.update rfl rfl trivial
    · exact hs.update rfl rfl trivial
    · exact hs
  | step i failure =>
    show ((s.calls i).elim s (s.advance i failure)).Unharmed
    cases hc : s.calls i with
    | none => exact hs
    | some c =>
      have hothers : ∀ rest, c = .running rest → ∀ j, j ≠ i → ¬ s.Inside j := by
        rintro rest rfl j hj hinside
        exact hj (hexclusive j i hinside ⟨rest, hc⟩)
      have hcall := hs i c hc
      show (s.advance i failure c).Unharmed
      cases c with
      | entered =>
        rw [advance]
        split <;> exact hs.update rfl rfl trivial
      | waiting =>
        rw [advance]
        split
        · exact hs.update (i := i) (c := .holding) rfl rfl trivial
        · exact hs
      | holding => exact hs.update rfl rfl trivial
      | leaving found =>
        refine hs.update (i := i) (c := if found then .ended (.ok ()) else .passed) rfl rfl ?_
        cases found <;> trivial
      | passed =>
        cases failure with
        | none =>
          exact hs.statement (fun j _ => halone hc j) (undisturbed_schemaStatements _) none
        | some message =>
          exact hs.update (i := i) (c := .ended (.error (.other message))) rfl rfl ⟨message, rfl⟩
      | running rest =>
        cases rest with
        | ret => exact hs.update (i := i) (c := .ended (.ok ())) rfl rfl trivial
        | raise | query | act => exact hs.statement (hothers _ rfl) hcall failure
      | ended result => exact hs

/-- A call that meets no other one gets to the first statement if the flag is unset. -/
lemma passes (hready : s.ready = false) (hlock : s.lock = none) (hidle : s.Idle i)
    (failure : Option String) :
    (run step s (.call i :: List.replicate 4 (.step i failure))).calls i = some .passed := by
  have hcall : s.step (.call i) = s.setCall i .entered := by
    rw [step]
    split
    · rfl
    · rfl
    · next c h1 h2 =>
      exfalso
      cases hc : s.calls i with
      | none => exact h1 hc
      | some c' =>
        obtain ⟨result, rfl⟩ := hidle c' hc
        exact h2 result hc
  rw [run_cons, hcall]
  simp [run, List.replicate, step, advance, setCall, hready, hlock]

/-- In every run, of any number of threads on any database: the initialisation is exclusive in all
states, and all that follows from it, if and only if the first statement of a call goes through only
while no other call is between its first statement and the flag. -/
theorem initialised_iff (tables : String → Option (List String)) (events : List (Event Thread)) :
    (∀ seen, seen <+: events → (run step (initial tables) seen).Initialised) ↔
      Along step Alone (initial tables) events := by
  have hstart : (initial tables : Process Thread).Exclusive := by
    rintro i j ⟨rest, hrest⟩
    cases hrest
  have hsound : (initial tables : Process Thread).Sound := by
    refine ⟨fun i c hc => ?_, fun hready => ?_, fun table column hmem => ?_,
      fun _ _ => Nat.zero_le _⟩
    · cases hc
    · cases hready
    · cases hmem
  have hiff := always_iff_along (J := fun _ => True) (I := Exclusive) (fun _ _ _ => trivial)
    (fun s event _ hs => exclusive_step hs event) (s := initial tables) trivial hstart events
  constructor
  · exact fun h => hiff.mp fun seen hseen => (h seen hseen).exclusive
  · rintro halong seen ⟨rest, rfl⟩
    have hseen := ((along_append _ seen rest).mp halong).1
    -- The three invariants of the runs together.
    have hinv : (run step (initial tables) seen).Sound ∧
        (run step (initial tables) seen).Exclusive ∧ (run step (initial tables) seen).Unharmed := by
      refine run_invariant (I := fun s => s.Sound ∧ s.Exclusive ∧ s.Unharmed) ?_ ?_ hseen
      · rintro s event ⟨hs, hexclusive, hunharmed⟩ halone
        exact ⟨hs.step event, (exclusive_step hexclusive event).mpr halone,
          hunharmed.step hexclusive halone⟩
      · exact ⟨hsound, hstart, fun i c hc => nomatch hc⟩
    obtain ⟨hs, hexclusive, hunharmed⟩ := hinv
    refine ⟨hexclusive, hs.once, fun i e he => hunharmed i _ he, fun i hi => hs.calls i _ hi, ?_⟩
    intro hcomplete
    have hready : (run step (initial tables) seen).ready = false := by
      rw [Bool.eq_false_iff]
      exact fun hready => hcomplete (hs.ready hready)
    exact ⟨hready, fun i failure hlock hidle => passes hready hlock hidle failure⟩

/-- The columns of a database whose `gateway_shops` lacks the patched columns. -/
def oldTables (table : String) : Option (List String) :=
  if table = "gateway_shops" then some ["id", "tenant_id", "name", "auth_status", "data_status"]
  else statements.lookup table

/-- Two threads find the column `category` missing, and the second one fails to add it. -/
def overlapping : List (Event Bool) :=
  .call false :: List.replicate 16 (.step false none) ++
    .call true :: List.replicate 16 (.step true none) ++ [.step false none, .step true none]

/-- The call of the second thread raises because of the first one. -/
theorem not_initialised_overlapping :
    ¬ ∀ (tables : String → Option (List String)) (events seen : List (Event Bool)),
      seen <+: events → (run step (initial tables) seen).Initialised := by
  intro h
  have hfailed : (run step (initial oldTables) overlapping).calls true =
      some (.ended (.error .duplicateColumn)) := by
    rfl
  obtain ⟨message, hmessage⟩ :=
    (h oldTables overlapping overlapping List.prefix_rfl).unharmed true _ hfailed
  cases hmessage

end Process

end EcommerceAgent.Runtime.PlatformSchema
