/-
# A core of SQL queries

Queries after name resolution: every column is written with the name that its table, common table
expression or sub-query has in the query.  The meaning of a query follows the relational rules:
`FROM` and its joins, `WHERE`, groups, the selected expressions, `DISTINCT`, `ORDER BY` and `LIMIT`.
Rows with equal keys keep the order in which they are stored.  What values there are, how they
compare, and what the functions compute is left open.
-/
import Mathlib

namespace EcommerceAgent.Lib.SqlQuery

/-- The values of a server: `NULL`, `TRUE`, literals, the operators `=` and `AND`, functions,
aggregates, and the comparisons of `GROUP BY` and of `ORDER BY`. -/
structure Server (V : Type) where
  null : V
  true_ : V
  truth : V → Bool
  literal : String → V
  number : ℤ → V
  eq : V → V → V
  and : V → V → V
  function : String → List V → V
  aggregate : String → List V → V
  same : V → V → Bool
  before : V → V → Bool
  truth_true : truth true_ = true
  truth_and : ∀ a b, truth (and a b) = (truth a && truth b)

/-! ### Queries -/

mutual

/-- An expression; a `param` is a value that the caller of the query has put into its text, and
`true_` stands for a missing condition. -/
inductive Expr : Type
  | true_
  | lit (text : String)
  | num (n : ℤ)
  | param (name : String)
  | col (source column : String)
  | eq (a b : Expr)
  | and (a b : Expr)
  | fn (name : String) (args : Exprs)
  | agg (name : String) (e : Expr)
  | scalar (q : Query)
deriving DecidableEq

/-- A list of expressions. -/
inductive Exprs : Type
  | nil
  | cons (e : Expr) (es : Exprs)
deriving DecidableEq

/-- What stands in a `FROM` clause; `named` is a common table expression. -/
inductive Source : Type
  | table (name source : String)
  | named (name source : String)
  | join (l r : Source) (on : Expr)
  | leftJoin (l r : Source) (on : Expr)
deriving DecidableEq

/-- A query.  With `grouped`, rows with the same `keys` form one row of the result, and without
keys all rows do. -/
inductive Query : Type
  | select (distinct : Bool) (names : List String) (items : Exprs) (source : Source)
      (condition : Expr) (grouped : Bool) (keys : Exprs) (order : Exprs) (descending : List Bool)
      (limit : Option ℕ)
  | unionAll (l r : Query)
  | with_ (name : String) (q body : Query)
deriving DecidableEq

end

/-- The expressions of a list. -/
def Exprs.of : List Expr → Exprs
  | [] => .nil
  | e :: es => .cons e (of es)

/-- `a AND b AND c`. -/
def Expr.all : List Expr → Expr
  | [] => .true_
  | e :: es => es.foldl .and e

/-- The parts of a `SELECT`; the items come with their names, the keys of `ORDER BY` with whether
they are descending. -/
structure Block where
  distinct : Bool := false
  items : List (String × Expr)
  source : Source
  conditions : List Expr := []
  grouped : Bool := false
  groupBy : List Expr := []
  orderBy : List (Expr × Bool) := []
  limit : Option ℕ := none

/-- The query of a block. -/
def Block.query (b : Block) : Query :=
  .select b.distinct (b.items.map Prod.fst) (Exprs.of (b.items.map Prod.snd)) b.source
    (Expr.all b.conditions) b.grouped (Exprs.of b.groupBy) (Exprs.of (b.orderBy.map Prod.fst))
    (b.orderBy.map Prod.snd) b.limit

/-- `WITH` the common table expressions of a list, each of which can use those before it. -/
def Query.withAll (ctes : List (String × Query)) (body : Query) : Query :=
  ctes.foldr (fun cte q => .with_ cte.1 cte.2 q) body

/-- There are no expressions. -/
def Exprs.isNil : Exprs → Bool
  | .nil => true
  | .cons _ _ => false

/-- The names that a `FROM` clause introduces. -/
def Source.names : Source → List String
  | .table _ source => [source]
  | .named _ source => [source]
  | .join l r _ => l.names ++ r.names
  | .leftJoin l r _ => l.names ++ r.names

/-! ### Rows -/

variable {V : Type}

/-- A row, column by column. -/
abbrev Row (V : Type) := List (String × V)

/-- The rows that the names of a query stand for. -/
abbrev Env (V : Type) := List (String × Row V)

/-- The stored tables. -/
abbrev Db (V : Type) := String → List (Row V)

/-- The rows of the common table expressions. -/
abbrev Ctes (V : Type) := List (String × List (Row V))

variable (srv : Server V)

/-- The value of a column. -/
def Row.get (r : Row V) (column : String) : V := (r.lookup column).getD srv.null

/-- The value of a column of the row that a name stands for. -/
def Env.get (env : Env V) (source column : String) : V :=
  Row.get srv ((env.lookup source).getD []) column

/-- The row of an outer join for names without a matching row. -/
def nullRow (names : List String) : Env V := names.map fun n => (n, [])

/-! ### Groups and orders -/

/-- Adds an element to the first group that it belongs to. -/
def insertGroup {α : Type} (same : α → α → Bool) (a : α) : List (List α) → List (List α)
  | [] => [[a]]
  | g :: gs =>
    if (g.head?.any fun b => same b a) = true then (g ++ [a]) :: gs else g :: insertGroup same a gs

/-- The groups of a list, in the order of their first elements. -/
def groupsOf {α : Type} (same : α → α → Bool) (xs : List α) : List (List α) :=
  xs.foldl (fun gs a => insertGroup same a gs) []

/-- Two lists of keys are the same. -/
def sameKeys (a b : List V) : Bool :=
  a.length == b.length && (a.zip b).all fun p => srv.same p.1 p.2

/-- The keys of an `ORDER BY` come before others, or are equal to them. -/
def keysLe : List Bool → List V → List V → Bool
  | desc :: descs, a :: as, b :: bs =>
    if srv.before a b then !desc else if srv.before b a then desc else keysLe descs as bs
  | _, _, _ => true

/-- The rows without those that repeat an earlier one. -/
def distinctRows {α : Type} (values : α → List V) (rows : List α) : List α :=
  (groupsOf (fun a b => sameKeys srv (values a) (values b)) rows).filterMap List.head?

/-- The groups that `GROUP BY` forms; without keys all rows are one group. -/
def formGroups {α : Type} (grouped noKeys : Bool) (keys : α → List V) (rows : List α) :
    List (List α) :=
  if grouped then
    if noKeys then [rows] else groupsOf (fun a b => sameKeys srv (keys a) (keys b)) rows
  else rows.map fun a => [a]

/-- `LIMIT`. -/
def limitTo {α : Type} : Option ℕ → List α → List α
  | some n, rows => rows.take n
  | none, rows => rows

/-- `DISTINCT`, `ORDER BY` and `LIMIT` of results that come with their keys. -/
def arrange (distinct : Bool) (names : List String) (descending : List Bool) (limit : Option ℕ)
    (results : List (List V × List V)) : List (Row V) :=
  let different := if distinct then distinctRows srv Prod.fst results else results
  let sorted := different.insertionSort fun a b => keysLe srv descending a.2 b.2 = true
  (limitTo limit sorted).map fun r => names.zip r.1

/-! ### Meaning -/

variable (params : String → V) (db : Db V)

mutual

/-- The value of an expression for the rows of `env`, which is the first of its `group`. -/
def Expr.eval (ctes : Ctes V) (group : List (Env V)) (env : Env V) : Expr → V
  | .true_ => srv.true_
  | .lit text => srv.literal text
  | .num n => srv.number n
  | .param name => params name
  | .col source column => Env.get srv env source column
  | .eq a b => srv.eq (a.eval ctes group env) (b.eval ctes group env)
  | .and a b => srv.and (a.eval ctes group env) (b.eval ctes group env)
  | .fn name args => srv.function name (args.eval ctes group env)
  | .agg name e => srv.aggregate name (group.map fun env => e.eval ctes [] env)
  | .scalar q => (((q.eval ctes env).head?.bind List.head?).map Prod.snd).getD srv.null

def Exprs.eval (ctes : Ctes V) (group : List (Env V)) (env : Env V) : Exprs → List V
  | .nil => []
  | .cons e es => e.eval ctes group env :: es.eval ctes group env

/-- The rows of a `FROM` clause, inside a query with the rows `outer`. -/
def Source.eval (ctes : Ctes V) (outer : Env V) : Source → List (Env V)
  | .table name source => (db name).map fun r => [(source, r)]
  | .named name source => ((ctes.lookup name).getD []).map fun r => [(source, r)]
  | .join l r on =>
    (l.eval ctes outer).flatMap fun a =>
      ((r.eval ctes outer).map (a ++ ·)).filter fun env =>
        srv.truth (on.eval ctes [] (env ++ outer))
  | .leftJoin l r on =>
    (l.eval ctes outer).flatMap fun a =>
      let joined := ((r.eval ctes outer).map (a ++ ·)).filter fun env =>
        srv.truth (on.eval ctes [] (env ++ outer))
      if joined.isEmpty then [a ++ nullRow r.names] else joined

/-- The rows of a query, inside a query with the rows `outer`. -/
def Query.eval (ctes : Ctes V) (outer : Env V) : Query → List (Row V)
  | .select distinct names items source condition grouped keys order descending limit =>
    let rows := ((source.eval ctes outer).filter fun env =>
      srv.truth (condition.eval ctes [] (env ++ outer))).map (· ++ outer)
    let groups := formGroups srv grouped keys.isNil (fun env => keys.eval ctes [] env) rows
    arrange srv distinct names descending limit (groups.map fun g =>
      (items.eval ctes g (g.head?.getD outer), order.eval ctes g (g.head?.getD outer)))
  | .unionAll l r => l.eval ctes outer ++ r.eval ctes outer
  | .with_ name q body => body.eval ((name, q.eval ctes outer) :: ctes) outer

end

end EcommerceAgent.Lib.SqlQuery
