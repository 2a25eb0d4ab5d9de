/-
# `csv.reader` and `csv.DictReader`

The state machine of Python's `csv` module for the default dialect (comma, double quote,
doubled quotes, not strict), fed line by line.
-/
import Mathlib.Tactic.Common
import Mathlib.Data.List.Basic

namespace EcommerceAgent.Lib.Csv

/-- The states of the parser. -/
inductive State
  | startRecord | startField | inField | inQuotedField | quoteInQuotedField | eatCrnl
deriving DecidableEq, Repr

/-- The parser: its state, the finished fields of the record and the characters of the current
field, both in order. -/
structure Parser where
  state : State
  fields : List String
  field : List Char
deriving DecidableEq, Repr

/-- `csv.field_size_limit()`. -/
def fieldLimit : ℕ := 131072

namespace Parser

/-- The parser before a record. -/
def init : Parser := ⟨.startRecord, [], []⟩

variable (p : Parser)

/-- `parse_save_field`. -/
def save (state : State) : Parser := ⟨state, p.fields ++ [String.ofList p.field], []⟩

/-- `parse_add_char`. -/
def add (state : State) (c : Char) : Except String Parser :=
  if p.field.length ≥ fieldLimit then .error "field larger than field limit (131072)"
  else .ok ⟨state, p.fields, p.field ++ [c]⟩

/-- `parse_process_char` in state `START_FIELD`, which `START_RECORD` falls through to. -/
def startField (c : Char) : Except String Parser :=
  if c = '\n' ∨ c = '\r' then .ok (p.save .eatCrnl)
  else if c = '"' then .ok { p with state := .inQuotedField }
  else if c = ',' then .ok (p.save .startField)
  else p.add .inField c

/-- `parse_process_char` for a character of the line. -/
def char (c : Char) : Except String Parser :=
  match p.state with
  | .startRecord => if c = '\n' ∨ c = '\r' then .ok { p with state := .eatCrnl } else p.startField c
  | .startField => p.startField c
  | .inField =>
    if c = '\n' ∨ c = '\r' then .ok (p.save .eatCrnl)
    else if c = ',' then .ok (p.save .startField)
    else p.add .inField c
  | .inQuotedField =>
    if c = '"' then .ok { p with state := .quoteInQuotedField } else p.add .inQuotedField c
  | .quoteInQuotedField =>
    if c = '"' then p.add .inQuotedField c
    else if c = ',' then .ok (p.save .startField)
    else if c = '\n' ∨ c = '\r' then .ok (p.save .eatCrnl)
    else p.add .inField c
  | .eatCrnl =>
    if c = '\n' ∨ c = '\r' then .ok p
    else .error ("new-line character seen in unquoted field - " ++
      "do you need to open the file with newline=''?")

/-- `parse_process_char` at the end of a line. -/
def endOfLine : Parser :=
  match p.state with
  | .startRecord => p
  | .startField | .inField | .quoteInQuotedField => p.save .startRecord
  | .inQuotedField => p
  | .eatCrnl => { p with state := .startRecord }

/-- All characters of one line. -/
def line : List Char → Parser → Except String Parser
  | [], p => .ok p.endOfLine
  | c :: cs, p =>
    match p.char c with
    | .error e => .error e
    | .ok p' => line cs p'

end Parser

/-- The lines of a text, each with its line feed. -/
def splitKeepEnds : List Char → List (List Char)
  | [] => []
  | c :: cs =>
    if c = '\n' then ['\n'] :: splitKeepEnds cs
    else
      match splitKeepEnds cs with
      | [] => [[c]]
      | l :: ls => (c :: l) :: ls

/-- The records that the reader yields for the remaining lines. -/
def records : List (List Char) → Parser → Except String (List (List String))
  | [], p =>
    if p.field ≠ [] ∨ p.state = .inQuotedField then .ok [(p.save .startRecord).fields] else .ok []
  | l :: ls, p =>
    match p.line l with
    | .error e => .error e
    | .ok p' =>
      if p'.state = .startRecord then
        match records ls .init with
        | .error e => .error e
        | .ok rest => .ok (p'.fields :: rest)
      else records ls p'

/-- `list(csv.reader(io.StringIO(text)))`. -/
def reader (text : String) : Except String (List (List String)) :=
  records (splitKeepEnds text.toList) .init

/-- A row of a `DictReader`: pairs of a field name and a value, `none` where the record is too
short. -/
abbrev Row := List (String × Option String)

/-- `dict(zip(fieldnames, record))` of a `DictReader`, padded with `None`. -/
def toRow (fieldnames record : List String) : Row :=
  fieldnames.zip (record.map some ++ List.replicate (fieldnames.length - record.length) none)

/-- `list(csv.DictReader(io.StringIO(text)))`: blank records are skipped. -/
def dictReader (text : String) : Except String (List Row) :=
  match reader text with
  | .error e => .error e
  | .ok [] => .ok []
  | .ok (fieldnames :: rest) => .ok ((rest.filter (· ≠ [])).map (toRow fieldnames))

/-- `row.get(key)`: the last pair with the key counts, `none` when there is none. -/
def Row.get (row : Row) (key : String) : Option (Option String) :=
  (row.reverse.find? (·.1 == key)).map (·.2)

end EcommerceAgent.Lib.Csv
