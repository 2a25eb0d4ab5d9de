/-
# The sandbox stage and the tables that it can change

An accepted statement is handed to MySQL as it is, in a connection whose default schema is the
sandbox.  What that can change is decided by the names in the statement, and by the definitions of
the objects that they lead to.
-/
import EcommerceAgent.Database.Sql
import EcommerceAgent.Lib.SqlServer

open EcommerceAgent.Lib EcommerceAgent.Lib.PyFormat EcommerceAgent.Lib.SqlServer

namespace EcommerceAgent.Database

variable {u : Unicode}

/-! ### Accepted statements -/

/-- What `_validate_write_sql` accepts. -/
structure Acceptable (u : Unicode) (sql : String) (head normalized : String) : Prop where
  head_eq : head = statementHead (stripStatement sql)
  normalized_eq : normalized = String.ofList (stripStatement sql)
  head_mem : head ∈ ["insert", "update", "delete", "create", "alter"]
  filtered : head ∈ ["update", "delete"] → hasWord u "where" (stripStatement sql) = true
  no_drop : hasWord u "drop" (stripStatement sql) = false
  no_truncate : hasWord u "truncate" (stripStatement sql) = false
  single : ';' ∉ stripStatement sql

attribute [local irreducible] statementHead stripStatement hasWord in
lemma acceptable_of_validate {sql head normalized : String}
    (h : validateWriteSql u sql = .ok (head, normalized)) :
    Acceptable u sql head normalized := by
  unfold validateWriteSql at h
  dsimp only at h
  split at h
  · cases h
  split at h
  · cases h
  rename_i hhead
  split at h
  · cases h
  rename_i hwhere
  split at h
  · cases h
  rename_i hdrop
  split at h
  · cases h
  rename_i hsingle
  cases h
  refine ⟨rfl, rfl, not_not.1 hhead, fun hmem => ?_, ?_, ?_, hsingle⟩
  · by_contra hno
    exact hwhere ⟨hmem, by simpa using hno⟩
  · by_contra hyes
    exact hdrop (.inl (by simpa using hyes))
  · by_contra hyes
    exact hdrop (.inr (by simpa using hyes))

/-- The default schema of the connection that `execute_write_sql_raw` opens. -/
def defaultSchema (configured : String) (targetDatabase : Option String) : String :=
  match targetDatabase with
  | some target => if target = "" then configured else target
  | none => configured

/-- `execute_write_sql_raw` refuses no accepted statement: it raises for want of a configuration,
or hands the statement to MySQL without a change. -/
lemma executeWriteSql_of_acceptable {sql head normalized : String}
    (h : Acceptable u sql head normalized) (env : WriteEnv) (target : Option String) :
    match env.config with
    | .error e => executeWriteSqlRaw u env sql target = .error e
    | .ok configured =>
      (executeWriteSql u env sql target).1 = some (defaultSchema configured target, normalized) ∧
        ∃ d, executeWriteSqlRaw u env sql target = .ok d ∧
          d.isOk = (env.mysql (defaultSchema configured target) normalized).isOk := by
  obtain ⟨rfl, rfl, hmem, hwhere, -, -, -⟩ := h
  have hdangerous : statementHead (stripStatement sql) ∉ ["drop", "truncate"] := by
    intro hdrop
    revert hmem hdrop
    generalize statementHead (stripStatement sql) = head
    intro hmem hdrop
    simp only [List.mem_cons, List.not_mem_nil, or_false] at hdrop
    rcases hdrop with rfl | rfl <;> simp at hmem
  have hallowed : statementHead (stripStatement sql) ∈
      ["insert", "update", "delete", "create", "alter", "drop", "truncate"] :=
    List.mem_append_left ["drop", "truncate"] hmem
  unfold executeWriteSqlRaw executeWriteSql
  dsimp only
  rw [if_neg (not_not.2 hallowed), if_neg (fun hno => by simp [hwhere hno.1] at hno),
    if_neg (fun hno => hdangerous hno.1)]
  cases env.config with
  | error e => rfl
  | ok configured =>
    refine ⟨rfl, _, rfl, ?_⟩
    split <;> rename_i hmysql <;> exact (congrArg Except.isOk hmysql).symm

/-! ### What is changed outside of the sandbox -/

/-- An execution of `execute_write_sql_raw` on a server with the objects `cat`, where MySQL takes a
text for the statement `grammar`.  Nothing is done for a text that is not handed over or that is no
statement; what has been changed before an error may stay. -/
inductive ExecutesWriteSql (u : Unicode) (grammar : String → Option Statement) (cat : Catalog)
    (env : WriteEnv) (query : String) (targetDatabase : Option String) :
    Contents → Contents → Prop
  | refused (s : Contents) : ExecutesWriteSql u grammar cat env query targetDatabase s s
  | executed {database text : String} {st : Statement} {s s' : Contents}
      (hsent : (executeWriteSql u env query targetDatabase).1 = some (database, text))
      (hst : grammar text = some st) (h : Exec cat (.statement database st) s s') :
      ExecutesWriteSql u grammar cat env query targetDatabase s s'

/-- What the sandbox node executes leaves all that is stored outside of the sandbox alone. -/
def StaysInside (u : Unicode) (grammar : String → Option Statement) (cat : Catalog)
    (env : SandboxEnv) (sql sandbox : String) : Prop :=
  ∀ call ∈ (runSandbox u env sql).1, ∀ s s',
    ExecutesWriteSql u grammar cat env.write call.query call.target s s' →
      ∀ place, place.schema ≠ sandbox → s' place = s place

variable {grammar : String → Option Statement} {cat : Catalog} {env : SandboxEnv}
  {sql head normalized configured S : String}

/-- The sandbox node hands an accepted text over, with the sandbox as the default schema. -/
lemma staysInside_iff (hvalid : validateWriteSql u sql = .ok (head, normalized))
    (hsandbox : env.sandboxDatabase = some S) (hset : S ≠ "")
    (hconfig : env.write.config = .ok configured) :
    StaysInside u grammar cat env sql S ↔ ∀ st ∈ grammar normalized, ∀ s s',
      Exec cat (.statement S st) s s' → ∀ place, place.schema ≠ S → s' place = s place := by
  have hrun := executeWriteSql_of_acceptable (acceptable_of_validate hvalid) env.write (some S)
  rw [hconfig] at hrun
  have hdefault : defaultSchema configured (some S) = S := if_neg hset
  have hsent : (executeWriteSql u env.write sql (some S)).1 = some (S, normalized) := by
    rw [hrun.1, hdefault]
  have hdatabase : env.database = some S := by simp [SandboxEnv.database, hsandbox, hset]
  have hcalls : (runSandbox u env sql).1 =
      [⟨some S, sql, executeWriteSqlRaw u env.write sql (some S)⟩] := by
    simp only [runSandbox, hdatabase]
  rw [StaysInside, hcalls, List.forall_mem_singleton]
  constructor
  · exact fun h st hst s s' hexec => h s s' (.executed hsent hst hexec)
  · intro h s s' hrun place hplace
    cases hrun with
    | refused => rfl
    | executed hsent' hst hexec =>
      rw [hsent] at hsent'
      obtain ⟨rfl, rfl⟩ := Prod.mk.inj (Option.some.inj hsent')
      exact h _ hst s s' hexec place hplace

/-- An accepted statement that reaches a place outside may change what is stored there. -/
lemma not_staysInside_of_reaches (hvalid : validateWriteSql u sql = .ok (head, normalized))
    (hsandbox : env.sandboxDatabase = some S) (hset : S ≠ "")
    (hconfig : env.write.config = .ok configured) {st : Statement}
    (hst : grammar normalized = some st) {place : Place}
    (hreach : Reaches cat (.statement S st) place) (houtside : place.schema ≠ S) :
    ¬StaysInside u grammar cat env sql S := by
  rw [staysInside_iff hvalid hsandbox hset hconfig]
  exact fun h => forall_exec_eq_iff.mp
    (fun s s' hexec => h st hst s s' hexec place houtside) hreach

/-- A sandbox whose objects use nothing outside of it is enough where the statement names no other
schema. -/
theorem staysInside_of_selfContained (hvalid : validateWriteSql u sql = .ok (head, normalized))
    (hsandbox : env.sandboxDatabase = some S) (hset : S ≠ "")
    (hconfig : env.write.config = .ok configured) (hcat : cat.SelfContained S)
    (hnames : ∀ st ∈ grammar normalized, st.Within S) : StaysInside u grammar cat env sql S := by
  rw [staysInside_iff hvalid hsandbox hset hconfig]
  exact fun st hst s s' hexec place houtside =>
    hexec.eq_of_not_reaches fun hreach => houtside (hcat.schema_eq (hnames st hst) hreach)

/-! ### A sandbox beside a shop -/

/-- The part of MySQL's grammar that reads these statements without quoted names. -/
def plainGrammar (text : String) : Option Statement :=
  let name := fun (text : List Char) => match text.splitOn '.' with
    | [schema, table] => (⟨some (String.ofList schema), String.ofList table⟩ : Name)
    | _ => ⟨none, String.ofList text⟩
  match (text.toList.splitOn ' ').map fun word => (word, String.ofList (Text.lower word)) with
  | (_, "update") :: (table, _) :: (_, "set") :: (column, _) :: _ =>
    some (.update [⟨name table, none⟩] [⟨none, none, String.ofList column⟩] ⟨[], []⟩)
  | (_, "insert") :: (_, "into") :: (table, _) :: (_, "select") :: (call, _) :: _ =>
    some (.insert (name table) [] [] ⟨[], [name (call.takeWhile (· ≠ '('))]⟩)
  | (_, "create") :: (_, "user") :: _ => some (.administer ["user"])
  | _ => none

/-- Two schemas with a table of orders.  The sandbox has a table of notes, into which a trigger
writes, a view of the orders of the shop, and a function that deletes them. -/
def twoSchemas : Catalog where
  object place :=
    if place ∈ ([⟨"sandbox", "orders"⟩, ⟨"sandbox", "notes"⟩, ⟨"shop", "orders"⟩] : List Place) then
      some .table
    else if place = ⟨"sandbox", "all_orders"⟩ then
      some (.view ⟨fun _ columns => [(⟨"shop", "orders"⟩, columns)], [⟨"shop", "orders"⟩], []⟩)
    else none
  columns _ := ["id", "status"]
  triggers place c :=
    if place = ⟨"sandbox", "orders"⟩ ∧ c = .update then
      [.insert ⟨none, "notes"⟩ ["id"] [] ⟨[], []⟩]
    else []
  foreignKeys _ _ _ := []
  function place :=
    if place = ⟨"sandbox", "archive"⟩ then
      [.delete [⟨some "shop", "orders"⟩] [⟨⟨some "shop", "orders"⟩, none⟩] ⟨[], []⟩]
    else []
  procedure _ := []

/-- The sandbox, in a configuration whose production schema is `shop`. -/
def besideShop : SandboxEnv where
  sandboxDatabase := some "sandbox"
  productionMerge := none
  write := ⟨none, .ok "shop", fun _ _ => .ok 1⟩

/-- The update of an order of the sandbox. -/
def sandboxUpdate : Statement :=
  .update [⟨⟨none, "orders"⟩, none⟩] [⟨none, none, "status"⟩] ⟨[], []⟩

/-- What the update of an order of the sandbox does: its trigger notes it. -/
def sandboxTasks : List Task :=
  [.statement "sandbox" sandboxUpdate, .read ⟨"sandbox", "orders"⟩,
    .change .update ⟨"sandbox", "orders"⟩ ["status"],
    .store .update ⟨"sandbox", "orders"⟩ ["status"],
    .statement "sandbox" (.insert ⟨none, "notes"⟩ ["id"] [] ⟨[], []⟩),
    .change .insert ⟨"sandbox", "notes"⟩ ["id"], .store .insert ⟨"sandbox", "notes"⟩ ["id"]]

/-- The text is accepted, and its execution in the sandbox may change what is stored outside. -/
def LeavesSandbox (sql : String) : Prop :=
  (validateWriteSql .asciiOnly sql).isOk = true ∧
    ¬StaysInside .asciiOnly plainGrammar twoSchemas besideShop sql "sandbox"

lemma leavesSandbox_of_finds {sql : String} (head : String) (st : Statement) (place : Place)
    (hvalid : validateWriteSql .asciiOnly sql = .ok (head, sql)) (hst : plainGrammar sql = some st)
    (hfinds : twoSchemas.finds place 4 (.statement "sandbox" st) = true)
    (houtside : place.schema ≠ "sandbox") : LeavesSandbox sql := by
  have hreach := reaches_iff_finds.mpr ⟨4, hfinds⟩
  exact ⟨by rw [hvalid]; rfl,
    not_staysInside_of_reaches hvalid rfl (by decide) rfl hst hreach houtside⟩

end EcommerceAgent.Database
