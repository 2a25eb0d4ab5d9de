/-
# What the execution of an SQL text can change

A query changes a table or a file only through a clause that writes a file, or through what it
uses: a function of the database, or a view over one.  `EXPLAIN ANALYZE`, also spelled
`DESC ANALYZE`, runs the statement behind it.
-/
import EcommerceAgent.Lib.SqlTokens

namespace EcommerceAgent.Lib.Sql

variable (d : Dialect)

/-! ### The names in a statement -/

/-- The quoted names in a text, when `name` has been read of the one that is open. -/
def quotedNamesFrom (s : Scanner) (name : List Char) : List Char → List (List Char)
  | [] =>
    match s.mode with
    | .closed q => if d.isNameQuote q then [name] else []
    | _ => []
  | c :: cs =>
    match s.mode with
    | .quoted q => quotedNamesFrom (step d s c).2 (if c = q then name else name ++ [c]) cs
    | .closed q =>
      if c = q then quotedNamesFrom (step d s c).2 (name ++ [c]) cs
      else (if d.isNameQuote q then [name] else []) ++ quotedNamesFrom (step d s c).2 [] cs
    | _ => quotedNamesFrom (step d s c).2 [] cs

/-- The characters of a name that is not quoted, or of a keyword. -/
def Token.identifier : Token → Option (List Char)
  | .word w => some w
  | .name w => some w
  | .symbol _ => none

/-- The names in a text, quoted or not, and its keywords. -/
def identifiers (text : List Char) : List (List Char) :=
  (tokens d text).filterMap Token.identifier ++ quotedNamesFrom d .start [] text

/-! ### What can be changed -/

/-- The verbs of statements that change the rows of tables. -/
def changingVerbs : List String := ["insert", "update", "delete", "replace"]

/-- The statement behind `ANALYZE` and the name of a format. -/
def analyzedPart : List Token → List Token
  | t :: t' :: ts =>
    if t.keyword ∈ [some "desc".toList, some "describe".toList, some "explain".toList] ∧
        t'.keyword = some "analyze".toList then
      match ts with
      | f :: e :: _ :: rest =>
        if f.keyword = some "format".toList ∧ e = .symbol '=' then rest else ts
      | _ => ts
    else []
  | _ => []

/-- The execution of the statement can change a table or a file of a server on which the objects
`changing` do so when they are used. -/
inductive CanChange (changing : List Char → Prop) (text : List Char) : Prop
  | rows {v : String} (hv : v ∈ changingVerbs)
      (h : mainVerb (tokens d text) = some v.toList ∨
        mainVerb (analyzedPart (tokens d text)) = some v.toList)
  | file {phrase : List String} (hphrase : phrase ∈ fileClauses)
      (h : hasPhrase phrase (tokens d text) = true)
  | object {name : List Char} (hname : name ∈ identifiers d text) (h : changing name)

/-- A server: its tables and files, and what the execution of a statement, which is committed at
once, makes of them.  They are changed only by what can change them. -/
structure Server (changing : List Char → Prop) where
  State : Type
  execute : State → List Char → State
  keeps : ∀ state text, (∃ statement, statements d text = [statement]) →
    ¬ CanChange d changing text → execute state text = state

variable {d}

open Classical in
/-- A server on which everything is changed that can be. -/
noncomputable def Server.changeable (d : Dialect) (changing : List Char → Prop) :
    Server d changing where
  State := Bool
  execute state text := if CanChange d changing text then !state else state
  keeps _ _ _ h := if_neg h

/-- A statement changes nothing on any server exactly when it can change nothing. -/
theorem forall_execute_eq_iff {changing : List Char → Prop} {text : List Char}
    (halone : ∃ statement, statements d text = [statement]) :
    (∀ (server : Server d changing) (state : server.State), server.execute state text = state) ↔
      ¬ CanChange d changing text := by
  constructor
  · intro h hchange
    classical
    have hflip : (if CanChange d changing text then !true else true) = true :=
      h (.changeable d changing) true
    rw [if_pos hchange] at hflip
    cases hflip
  · exact fun h server state => server.keeps state text halone h

end EcommerceAgent.Lib.Sql
