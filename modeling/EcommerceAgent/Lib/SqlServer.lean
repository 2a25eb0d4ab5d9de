/-
# What the execution of a statement can change on a server

A statement names tables and stored routines, and a name without a schema belongs to the default
schema.  What its execution changes also depends on the objects of the server: a view stands for the
tables behind it, a table has triggers and is referred to by foreign keys, a MERGE table stands for
its parts, and a stored routine executes statements of its own, in its own schema.  A place can be
changed exactly when a chain of such names and definitions leads to it (`forall_exec_eq_iff`).
-/
import Mathlib.Data.List.Basic
import Mathlib.Logic.Function.Basic

namespace EcommerceAgent.Lib.SqlServer

/-! ### Statements -/

/-- A schema and the name of a table, a view or a routine in it. -/
structure Place where
  schema : String
  name : String
deriving DecidableEq, Repr

/-- A name as a statement writes it. -/
structure Name where
  schema : Option String
  name : String
deriving DecidableEq, Repr

/-- What a name refers to in a connection, or a routine, with the default schema. -/
def Name.resolve (default : String) (n : Name) : Place := ⟨n.schema.getD default, n.name⟩

/-- What happens to rows. -/
inductive Change
  | insert
  | update
  | delete
deriving DecidableEq, Repr

/-- One of the tables that an `UPDATE` or a `DELETE` joins. -/
structure TableRef where
  name : Name
  tableAlias : Option String
deriving DecidableEq, Repr

/-- The place of the table. -/
def TableRef.place (default : String) (r : TableRef) : Place := r.name.resolve default

/-- A column that is assigned, with what is written in front of it. -/
structure ColumnRef where
  schema : Option String
  table : Option String
  column : String
deriving DecidableEq, Repr

/-- The tables that the queries of a statement read, and the stored functions in its expressions. -/
structure Uses where
  reads : List Name
  calls : List Name
deriving DecidableEq, Repr

/-- What a server executes: the statements of stored functions and triggers, and those that create
or alter an object.  An `INSERT` may update the columns `updated` of rows that are there already.
`create` is the creation of a table or a view, and `alter` anything that changes existing tables:
`ALTER`, also with a new name or with a table whose rows are exchanged, and the creation of an index
or a trigger.  `administer` changes rows of the tables of the server itself, as the creation of an
account does.  `other` is a statement that changes no table, such as the creation of a schema or a
routine, and a condition or an assignment in a routine. -/
inductive Statement
  | insert (table : Name) (columns updated : List String) (uses : Uses)
  | replace (table : Name) (columns : List String) (uses : Uses)
  | update (tables : List TableRef) (assigned : List ColumnRef) (uses : Uses)
  | delete (targets : List Name) (tables : List TableRef) (uses : Uses)
  | create (table : Name) (orReplace : Bool) (uses : Uses)
  | alter (tables : List Name) (renamed : Option Name)
  | administer (tables : List String)
  | call (procedure : Name) (uses : Uses)
  | other (uses : Uses)
deriving DecidableEq, Repr

/-! ### Objects of the server -/

/-- A view: the tables, with their columns, that a change of the given columns reaches, and what its
query reads and calls. -/
structure View where
  base : Change → List String → List (Place × List String)
  reads : List Place
  calls : List Place

/-- What a name of a table may stand for. -/
inductive Object
  | table
  | view (v : View)
  | merge (parts : List Place)

/-- The definitions of the objects of a server: the columns and triggers of a table, the changes of
other tables that foreign keys entail when the given columns change, and the bodies of the stored
routines. -/
structure Catalog where
  object : Place → Option Object
  columns : Place → List String
  triggers : Place → Change → List Statement
  foreignKeys : Place → Change → List String → List (Change × Place × List String)
  function : Place → List Statement
  procedure : Place → List Statement

variable (cat : Catalog)

/-! ### What a statement names -/

/-- The column may be one of the table: by the name or alias in front of it, or as one of the
columns of the table. -/
def TableRef.has (default : String) (r : TableRef) (c : ColumnRef) : Bool :=
  match c.table with
  | none => c.column ∈ cat.columns (r.place default)
  | some t =>
    r.tableAlias.getD r.name.name == t &&
      c.schema.all fun s => r.tableAlias.isNone && (r.place default).schema == s

/-- The name is that of the table in the list of a `DELETE`. -/
def TableRef.isTarget (default : String) (r : TableRef) (n : Name) : Bool :=
  match r.tableAlias with
  | some a => n.schema.isNone && n.name == a
  | none => r.place default == n.resolve default

/-- The rows that the statement itself changes, by the names of the tables.  An `UPDATE` changes the
tables whose columns it assigns; it is refused if a column is unknown or ambiguous. -/
def Statement.changes (default : String) : Statement → List (Change × Place × List String)
  | .insert table columns updated _ =>
    (.insert, table.resolve default, columns) ::
      if updated = [] then [] else [(.update, table.resolve default, updated)]
  | .replace table columns _ =>
    [(.delete, table.resolve default, []), (.insert, table.resolve default, columns)]
  | .update tables assigned _ =>
    if assigned.all fun c => (tables.filter (·.has cat default c)).length == 1 then
      tables.filterMap fun r =>
        match (assigned.filter (r.has cat default)).map (·.column) with
        | [] => none
        | columns => some (.update, r.place default, columns)
    else []
  | .delete targets tables _ =>
    if targets.all fun n => tables.any (·.isTarget default n) then
      (tables.filter fun r => targets.any (r.isTarget default)).map fun r =>
        (.delete, r.place default, [])
    else []
  | _ => []

/-- The tables and views that the statement creates or alters.  It is refused if a table to be
altered does not exist, or if there is one at a place that shall be new. -/
def Statement.defines (default : String) : Statement → List Place
  | .create table orReplace _ =>
    match cat.object (table.resolve default) with
    | none => [table.resolve default]
    | some (.view _) => if orReplace then [table.resolve default] else []
    | some _ => []
  | .alter tables renamed =>
    if (tables.all fun n => (cat.object (n.resolve default)).isSome) &&
        renamed.all fun n => (cat.object (n.resolve default)).isNone then
      (tables ++ renamed.toList).map (·.resolve default)
    else []
  | _ => []

/-- What the queries and expressions of the statement use. -/
def Statement.uses : Statement → Uses
  | .insert _ _ _ uses => uses
  | .replace _ _ uses => uses
  | .update tables _ uses => { uses with reads := tables.map (·.name) ++ uses.reads }
  | .delete _ tables uses => { uses with reads := tables.map (·.name) ++ uses.reads }
  | .create _ _ uses => uses
  | .alter _ _ => ⟨[], []⟩
  | .administer _ => ⟨[], []⟩
  | .call _ uses => uses
  | .other uses => uses

/-- The tables of the server itself that the statement changes. -/
def Statement.system : Statement → List Place
  | .administer tables => tables.map (⟨"mysql", ·⟩)
  | _ => []

/-- The procedure that the statement calls. -/
def Statement.procedure : Statement → Option Name
  | .call procedure _ => some procedure
  | _ => none

/-! ### Executions -/

/-- What a server does: a statement, a change of rows under the name of a table or a view, the
change of the rows that are stored for a table, the definition of a table, the query of a view, or a
routine. -/
inductive Task
  | statement (default : String) (statement : Statement)
  | change (c : Change) (place : Place) (columns : List String)
  | store (c : Change) (place : Place) (columns : List String)
  | define (place : Place)
  | read (place : Place)
  | function (place : Place)
  | procedure (place : Place)
deriving DecidableEq, Repr

/-- What a task changes itself. -/
def Task.target : Task → Option Place
  | .store _ place _ => some place
  | .define place => some place
  | _ => none

/-- The query of a view. -/
def View.tasks (v : View) : List Task := v.reads.map .read ++ v.calls.map .function

/-- The tasks of a statement. -/
def Catalog.statementTasks (default : String) (st : Statement) : List Task :=
  ((st.changes cat default).map fun x => .change x.1 x.2.1 x.2.2) ++
    (st.defines cat default).map .define ++
    (st.system.map fun place => .store .update place []) ++
    (st.uses.reads.map fun n => .read (n.resolve default)) ++
    (st.uses.calls.map fun n => .function (n.resolve default)) ++
    st.procedure.toList.map fun n => .procedure (n.resolve default)

/-- The tasks of a trigger or a routine, which belongs to the schema of the place. -/
def bodyTasks (place : Place) (body : List Statement) : List Task :=
  body.map (.statement place.schema)

/-- What is done for a task.  Neither the changes that foreign keys entail nor those of the parts of
a MERGE table fire triggers. -/
def Catalog.parts : Task → List Task
  | .statement default st => cat.statementTasks default st
  | .change c place columns =>
    match cat.object place with
    | none => []
    | some .table => .store c place columns :: bodyTasks place (cat.triggers place c)
    | some (.merge parts) =>
      (parts.map fun part => .store c part columns) ++ bodyTasks place (cat.triggers place c)
    | some (.view v) => ((v.base c columns).map fun x => .change c x.1 x.2) ++ v.tasks
  | .store c place columns =>
    (cat.foreignKeys place c columns).map fun x => .store x.1 x.2.1 x.2.2
  | .define _ => []
  | .read place =>
    match cat.object place with
    | some (.view v) => v.tasks
    | _ => []
  | .function place => bodyTasks place (cat.function place)
  | .procedure place => bodyTasks place (cat.procedure place)

/-- What is stored for a table: its definition and its rows. -/
structure Stored where
  definition : String
  rows : List (List String)
deriving DecidableEq, Repr

/-- What is stored at every place. -/
abbrev Contents := Place → Option Stored

/-- An execution of a task.  Which rows match, which way a routine takes and whether an error ends
it is left open: the execution does anything with what the task changes itself, and executes any
parts of it in any order. -/
inductive Exec : Task → Contents → Contents → Prop
  | done (task : Task) (s : Contents) : Exec task s s
  | change {task : Task} {place : Place} (h : place ∈ task.target) (s : Contents)
      (stored : Option Stored) : Exec task s (Function.update s place stored)
  | part {task task' : Task} {s s' : Contents} (h : task' ∈ cat.parts task)
      (hexec : Exec task' s s') : Exec task s s'
  | trans {task : Task} {s s' s'' : Contents} (h : Exec task s s') (h' : Exec task s' s'') :
      Exec task s s''

/-- By the names in the task and by the definitions of objects the place is one that it changes. -/
inductive Reaches : Task → Place → Prop
  | target {task : Task} {place : Place} (h : place ∈ task.target) : Reaches task place
  | part {task task' : Task} {place : Place} (h : task' ∈ cat.parts task)
      (hreach : Reaches task' place) : Reaches task place

variable {cat} {task task' : Task} {place : Place} {s s' : Contents}

/-- Nothing is changed at a place that is not reached. -/
lemma Exec.eq_of_not_reaches (h : Exec cat task s s') (hnot : ¬Reaches cat task place) :
    s' place = s place := by
  induction h with
  | done task s => rfl
  | change htarget s stored =>
    refine Function.update_of_ne ?_ _ _
    rintro rfl
    exact hnot (.target htarget)
  | part hpart _ ih => exact ih fun hreach => hnot (.part hpart hreach)
  | trans _ _ ih ih' => rw [ih' hnot, ih hnot]

/-- At a place that is reached anything may stand in the end. -/
lemma Reaches.exists_exec (h : Reaches cat task place) (s : Contents) (stored : Option Stored) :
    ∃ s', Exec cat task s s' ∧ s' place = stored := by
  induction h with
  | target htarget =>
    exact ⟨_, .change htarget s stored, Function.update_self _ _ _⟩
  | part hpart _ ih =>
    obtain ⟨s', hexec, hplace⟩ := ih
    exact ⟨s', .part hpart hexec, hplace⟩

/-- The executions leave a place as it is exactly when it is not reached. -/
theorem forall_exec_eq_iff :
    (∀ s s', Exec cat task s s' → s' place = s place) ↔ ¬Reaches cat task place := by
  constructor
  · intro h hreach
    obtain ⟨s', hexec, hplace⟩ := hreach.exists_exec (fun _ => none) (some ⟨"", []⟩)
    rw [h _ _ hexec] at hplace
    cases hplace
  · exact fun hnot s s' hexec => hexec.eq_of_not_reaches hnot

/-- The search for the place among the parts of a task, to the given depth. -/
def Catalog.finds (cat : Catalog) (place : Place) : ℕ → Task → Bool
  | 0, task => task.target == some place
  | n + 1, task => task.target == some place || (cat.parts task).any (cat.finds place n)

lemma finds_of_target (h : place ∈ task.target) (n : ℕ) : cat.finds place n task = true := by
  have htarget : (task.target == some place) = true := beq_iff_eq.mpr h
  cases n with
  | zero => exact htarget
  | succ n => rw [Catalog.finds, htarget, Bool.true_or]

/-- The places that are reached are those that a search to some depth finds. -/
theorem reaches_iff_finds : Reaches cat task place ↔ ∃ n, cat.finds place n task = true := by
  constructor
  · intro h
    induction h with
    | target htarget => exact ⟨0, finds_of_target htarget 0⟩
    | part hpart _ ih =>
      obtain ⟨n, hn⟩ := ih
      refine ⟨n + 1, ?_⟩
      rw [Catalog.finds, List.any_eq_true.mpr ⟨_, hpart, hn⟩, Bool.or_true]
  · rintro ⟨n, hn⟩
    induction n generalizing task with
    | zero => exact .target (beq_iff_eq.mp hn)
    | succ n ih =>
      rcases Bool.or_eq_true _ _ ▸ hn with htarget | hany
      · exact .target (beq_iff_eq.mp htarget)
      · obtain ⟨t, ht, hfinds⟩ := List.any_eq_true.mp hany
        exact .part ht (ih hfinds)

/-- What the parts of a task have in common with it holds where a place is changed. -/
lemma Reaches.exists_target {P : Task → Prop} (h : Reaches cat task place) (htask : P task)
    (hparts : ∀ t, P t → ∀ t' ∈ cat.parts t, P t') : ∃ t, P t ∧ place ∈ t.target := by
  induction h with
  | target htarget => exact ⟨_, htask, htarget⟩
  | part hpart _ ih => exact ih (hparts _ htask _ hpart)

/-! ### Schemas that keep to themselves -/

/-- The names in what a statement uses. -/
def Uses.names (uses : Uses) : List Name := uses.reads ++ uses.calls

/-- The names of tables and routines in a statement. -/
def Statement.names : Statement → List Name
  | .insert table _ _ uses => table :: uses.names
  | .replace table _ uses => table :: uses.names
  | .update tables _ uses => tables.map (·.name) ++ uses.names
  | .delete _ tables uses => tables.map (·.name) ++ uses.names
  | .create table _ uses => table :: uses.names
  | .alter tables renamed => tables ++ renamed.toList
  | .administer _ => []
  | .call procedure uses => procedure :: uses.names
  | .other uses => uses.names

/-- The statement names no other schema and no table of the server itself. -/
structure Statement.Within (S : String) (st : Statement) : Prop where
  names : ∀ n ∈ st.names, n.schema = none ∨ n.schema = some S
  system : st.system = []

/-- The task is about the schema, and a statement names no other one. -/
def Task.Within (S : String) : Task → Prop
  | .statement default st => default = S ∧ st.Within S
  | .change _ place _ => place.schema = S
  | .store _ place _ => place.schema = S
  | .define place => place.schema = S
  | .read place => place.schema = S
  | .function place => place.schema = S
  | .procedure place => place.schema = S

/-- The objects of the schema use nothing outside of it. -/
structure Catalog.SelfContained (cat : Catalog) (S : String) : Prop where
  base : ∀ place v, place.schema = S → cat.object place = some (.view v) →
    ∀ c columns, ∀ x ∈ v.base c columns, x.1.schema = S
  query : ∀ place v, place.schema = S → cat.object place = some (.view v) →
    ∀ p ∈ v.reads ++ v.calls, p.schema = S
  merge : ∀ place parts, place.schema = S → cat.object place = some (.merge parts) →
    ∀ part ∈ parts, part.schema = S
  foreignKeys : ∀ place c columns, place.schema = S →
    ∀ x ∈ cat.foreignKeys place c columns, x.2.1.schema = S
  bodies : ∀ place c, place.schema = S →
    ∀ st ∈ cat.triggers place c ++ cat.function place ++ cat.procedure place, st.Within S

variable {S : String} {st : Statement}

lemma schema_resolve {n : Name} (h : n.schema = none ∨ n.schema = some S) :
    (n.resolve S).schema = S := by
  rcases h with h | h <;> simp [Name.resolve, h]

lemma Statement.Within.changes (h : st.Within S) :
    ∀ x ∈ st.changes cat S, x.2.1.schema = S := by
  have hname : ∀ n ∈ st.names, (n.resolve S).schema = S := fun n hn => schema_resolve (h.names n hn)
  intro x hx
  cases st with
  | insert table columns updated uses =>
    have htable := hname table List.mem_cons_self
    rcases List.mem_cons.mp hx with rfl | hx
    · exact htable
    · split at hx
      · cases hx
      · obtain rfl := List.mem_singleton.mp hx
        exact htable
  | replace table columns uses =>
    have htable := hname table List.mem_cons_self
    simp only [Statement.changes, List.mem_cons, List.not_mem_nil, or_false] at hx
    rcases hx with rfl | rfl <;> exact htable
  | update tables assigned uses =>
    simp only [Statement.changes] at hx
    split at hx
    · obtain ⟨r, hr, hchange⟩ := List.mem_filterMap.mp hx
      have hplace := hname r.name (List.mem_append_left _ (List.mem_map_of_mem hr))
      split at hchange
      · cases hchange
      · obtain rfl := Option.some.inj hchange
        exact hplace
    · cases hx
  | delete targets tables uses =>
    simp only [Statement.changes] at hx
    split at hx
    · obtain ⟨r, hr, rfl⟩ := List.mem_map.mp hx
      exact hname r.name
        (List.mem_append_left _ (List.mem_map_of_mem (List.mem_filter.mp hr).1))
    · cases hx
  | create table orReplace uses => cases hx
  | alter tables renamed => cases hx
  | administer tables => cases hx
  | call procedure uses => cases hx
  | other uses => cases hx

lemma Statement.Within.defines (h : st.Within S) : ∀ p ∈ st.defines cat S, p.schema = S := by
  have hname : ∀ n ∈ st.names, (n.resolve S).schema = S := fun n hn => schema_resolve (h.names n hn)
  intro p hp
  cases st with
  | create table orReplace uses =>
    have htable := hname table List.mem_cons_self
    simp only [Statement.defines] at hp
    split at hp
    · exact List.mem_singleton.mp hp ▸ htable
    · split at hp
      · exact List.mem_singleton.mp hp ▸ htable
      · cases hp
    · cases hp
  | alter tables renamed =>
    simp only [Statement.defines] at hp
    split at hp
    · obtain ⟨n, hn, rfl⟩ := List.mem_map.mp hp
      exact hname n hn
    · cases hp
  | insert table columns updated uses => cases hp
  | replace table columns uses => cases hp
  | update tables assigned uses => cases hp
  | delete targets tables uses => cases hp
  | administer tables => cases hp
  | call procedure uses => cases hp
  | other uses => cases hp

/-- What the queries of a statement use is named in it. -/
lemma Statement.uses_subset (st : Statement) : st.uses.names ⊆ st.names := by
  cases st with
  | insert table columns updated uses => exact List.subset_cons_self ..
  | replace table columns uses => exact List.subset_cons_self ..
  | update tables assigned uses =>
    simp [Statement.uses, Statement.names, Uses.names]
  | delete targets tables uses =>
    simp [Statement.uses, Statement.names, Uses.names]
  | create table orReplace uses => exact List.subset_cons_self ..
  | alter tables renamed => exact List.nil_subset _
  | administer tables => exact List.Subset.refl _
  | call procedure uses => exact List.subset_cons_self ..
  | other uses => exact List.Subset.refl _

/-- A statement that names no other schema does nothing elsewhere by itself. -/
lemma Statement.Within.tasks (h : st.Within S) : ∀ t ∈ cat.statementTasks S st, t.Within S := by
  have huses : ∀ n ∈ st.uses.names, (n.resolve S).schema = S :=
    fun n hn => schema_resolve (h.names n (st.uses_subset hn))
  intro t ht
  simp only [Catalog.statementTasks, List.mem_append, List.mem_map] at ht
  rcases ht with ((((⟨x, hx, rfl⟩ | ⟨p, hp, rfl⟩) | ⟨p, hp, rfl⟩) | ⟨n, hn, rfl⟩) | ⟨n, hn, rfl⟩) |
    ⟨n, hn, rfl⟩
  · exact h.changes x hx
  · exact h.defines p hp
  · rw [h.system] at hp
    cases hp
  · exact huses n (List.mem_append_left _ hn)
  · exact huses n (List.mem_append_right _ hn)
  · cases st with
    | call procedure uses =>
      obtain rfl := Option.some.inj (Option.mem_toList.mp hn)
      exact schema_resolve (h.names _ List.mem_cons_self)
    | _ => cases hn

lemma Catalog.SelfContained.parts (h : cat.SelfContained S) (htask : task.Within S) :
    ∀ t ∈ cat.parts task, t.Within S := by
  have hbody : ∀ {place : Place} {body : List Statement}, place.schema = S →
      (∀ st ∈ body, st.Within S) → ∀ t ∈ bodyTasks place body, t.Within S := by
    rintro place body hplace hwithin t ht
    obtain ⟨st, hst, rfl⟩ := List.mem_map.mp ht
    exact ⟨hplace, hwithin st hst⟩
  have hquery : ∀ {place : Place} {v : View}, place.schema = S →
      cat.object place = some (.view v) → ∀ t ∈ v.tasks, t.Within S := by
    rintro place v hplace hview t ht
    have hused := h.query place v hplace hview
    rcases List.mem_append.mp ht with ht | ht <;> obtain ⟨p, hp, rfl⟩ := List.mem_map.mp ht
    · exact hused p (List.mem_append_left _ hp)
    · exact hused p (List.mem_append_right _ hp)
  intro t ht
  cases task with
  | statement default st =>
    obtain ⟨rfl, hst⟩ := htask
    exact hst.tasks t ht
  | change c place columns =>
    have hplace : place.schema = S := htask
    have htriggers : ∀ t ∈ bodyTasks place (cat.triggers place c), t.Within S :=
      hbody hplace fun st hst => h.bodies place c hplace st (by simp [hst])
    simp only [Catalog.parts] at ht
    split at ht
    · cases ht
    · rcases List.mem_cons.mp ht with rfl | ht
      · exact hplace
      · exact htriggers t ht
    · -- a `MERGE` table passes the change on to its parts
      rename_i parts hobject
      rcases List.mem_append.mp ht with ht | ht
      · obtain ⟨part, hpart, rfl⟩ := List.mem_map.mp ht
        exact h.merge place parts hplace hobject part hpart
      · exact htriggers t ht
    · -- a view passes it on to the tables that the columns come from
      rename_i v hobject
      rcases List.mem_append.mp ht with ht | ht
      · obtain ⟨x, hx, rfl⟩ := List.mem_map.mp ht
        exact h.base place v hplace hobject c columns x hx
      · exact hquery hplace hobject t ht
  | store c place columns =>
    obtain ⟨x, hx, rfl⟩ := List.mem_map.mp ht
    exact h.foreignKeys place c columns htask x hx
  | define place => cases ht
  | read place =>
    simp only [Catalog.parts] at ht
    split at ht
    · rename_i v hobject
      exact hquery htask hobject t ht
    · cases ht
  | function place =>
    exact hbody htask (fun st hst => h.bodies place .insert htask st (by simp [hst])) t ht
  | procedure place =>
    exact hbody htask (fun st hst => h.bodies place .insert htask st (by simp [hst])) t ht

/-- Where the objects of a schema use nothing outside of it, a statement that names no other schema
changes nothing outside of it. -/
theorem Catalog.SelfContained.schema_eq (h : cat.SelfContained S) (hst : st.Within S)
    (hreach : Reaches cat (.statement S st) place) : place.schema = S := by
  obtain ⟨t, ht, htarget⟩ := hreach.exists_target (P := Task.Within S) ⟨rfl, hst⟩
    fun t ht => h.parts ht
  cases t with
  | store c p columns => exact Option.some.inj htarget ▸ ht
  | define p => exact Option.some.inj htarget ▸ ht
  | _ => cases htarget

end EcommerceAgent.Lib.SqlServer
