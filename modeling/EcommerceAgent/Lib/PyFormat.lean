/-
# `repr` and `json.dumps`

The text of Python values as `repr` and `json.dumps(_, ensure_ascii=False, indent=2)` write it.
-/
import EcommerceAgent.Lib.Regex

namespace EcommerceAgent.Lib.PyFormat

/-- The last `n` hexadecimal digits of a number. -/
def hexDigits : ℕ → ℕ → List Char
  | 0, _ => []
  | n + 1, k => hexDigits n (k / 16) ++ [Nat.digitChar (k % 16)]

/-- The characters by which `repr` writes one character of a string in quotes `q`. -/
def reprChar (u : Unicode) (q c : Char) : List Char :=
  if c = q ∨ c = '\\' then ['\\', c]
  else if c = '\n' then ['\\', 'n']
  else if c = '\r' then ['\\', 'r']
  else if c = '\t' then ['\\', 't']
  else if u.isPrintable c then [c]
  else if c.toNat ≤ 0xFF then ['\\', 'x'] ++ hexDigits 2 c.toNat
  else if c.toNat ≤ 0xFFFF then ['\\', 'u'] ++ hexDigits 4 c.toNat
  else ['\\', 'U'] ++ hexDigits 8 c.toNat

/-- `repr` of a string. -/
def reprString (u : Unicode) (s : String) : String :=
  let q := if s.toList.contains '\'' ∧ ¬ s.toList.contains '"' then '"' else '\''
  String.ofList (q :: (s.toList.flatMap (reprChar u q) ++ [q]))

/-- `str` of a truth value. -/
def reprBool (b : Bool) : String := if b then "True" else "False"

/-- `repr` of a list of strings. -/
def reprStrings (u : Unicode) (l : List String) : String :=
  "[" ++ String.intercalate ", " (l.map (reprString u)) ++ "]"

/-- The values of the dictionaries that are dumped. -/
inductive Json
  | null
  | bool (b : Bool)
  | int (n : ℤ)
  | str (s : String)
deriving DecidableEq, Repr

/-- A dictionary, in insertion order. -/
abbrev Dict := List (String × Json)

/-- The characters by which `json.dumps` writes one character of a string. -/
def jsonChar (c : Char) : List Char :=
  if c = '"' then ['\\', '"']
  else if c = '\\' then ['\\', '\\']
  else if c = '\n' then ['\\', 'n']
  else if c = '\r' then ['\\', 'r']
  else if c = '\t' then ['\\', 't']
  else if c.toNat = 8 then ['\\', 'b']
  else if c.toNat = 12 then ['\\', 'f']
  else if c.toNat < 32 then ['\\', 'u'] ++ hexDigits 4 c.toNat
  else [c]

/-- A string in JSON. -/
def jsonString (s : String) : String :=
  String.ofList ('"' :: (s.toList.flatMap jsonChar ++ ['"']))

/-- A value in JSON. -/
def Json.dumps : Json → String
  | .null => "null"
  | .bool true => "true"
  | .bool false => "false"
  | .int n => toString n
  | .str s => jsonString s

/-- A flat dictionary in JSON, indented by two. -/
def dumps (d : Dict) : String :=
  if d = [] then "\x7b\x7d"
  else "\x7b\n" ++ String.intercalate ",\n"
    (d.map fun p => "  " ++ jsonString p.1 ++ ": " ++ p.2.dumps) ++ "\n\x7d"

/-- `d.get(key)`. -/
def Dict.get (d : Dict) (key : String) : Option Json := (d.find? (·.1 == key)).map (·.2)

/-- `bool(d.get("ok"))` for a dictionary whose `ok` entry is a truth value. -/
def Dict.isOk (d : Dict) : Bool := d.get "ok" == some (.bool true)

end EcommerceAgent.Lib.PyFormat
