/-
# The text of JSON documents

`json.dumps(…, ensure_ascii=True, sort_keys=True)` and `json.dumps(…, ensure_ascii=False)`.  A float
is kept as the text that `json` writes for it.
-/
import EcommerceAgent.Lib.PyValue
import Mathlib.Data.List.Sort

namespace EcommerceAgent.Lib.JsonText

/-- `'\\u{0:04x}'.format(n)`. -/
def escapeCode (n : ℕ) : List Char :=
  let digits := Nat.toDigits 16 n
  '\\' :: 'u' :: (List.replicate (4 - digits.length) '0' ++ digits)

/-- A character inside a string; outside of the basic plane it is written as two surrogates. -/
def escapeChar (c : Char) : List Char :=
  if c = '"' then ['\\', '"']
  else if c = '\\' then ['\\', '\\']
  else if c = '\n' then ['\\', 'n']
  else if c = '\r' then ['\\', 'r']
  else if c = '\t' then ['\\', 't']
  else if c.toNat = 8 then ['\\', 'b']
  else if c.toNat = 12 then ['\\', 'f']
  else if 32 ≤ c.toNat ∧ c.toNat < 127 then [c]
  else if c.toNat < 0x10000 then escapeCode c.toNat
  else
    let n := c.toNat - 0x10000
    escapeCode (0xd800 + n / 0x400) ++ escapeCode (0xdc00 + n % 0x400)

def dumpsString (s : String) : List Char := '"' :: s.toList.flatMap escapeChar ++ ['"']

/-- The entries in the order of their names. -/
def sortKeys {α : Type*} (d : List (String × α)) : List (String × α) :=
  d.insertionSort fun e e' => e.1 ≤ e'.1

mutual

/-- The document with the entries of all objects in the order of their names. -/
def sorted {F : Type} : Json F → Json F
  | .null => .null
  | .bool b => .bool b
  | .int n => .int n
  | .float x => .float x
  | .str s => .str s
  | .arr l => .arr (sortedList l)
  | .obj d => .obj (sortKeys (sortedEntries d))

def sortedList {F : Type} : List (Json F) → List (Json F)
  | [] => []
  | v :: l => sorted v :: sortedList l

def sortedEntries {F : Type} : List (String × Json F) → List (String × Json F)
  | [] => []
  | (k, v) :: d => (k, sorted v) :: sortedEntries d

end

mutual

/-- The text of a document, with the texts of its strings and floats. -/
def write {F : Type} (string : String → List Char) (float : F → List Char) : Json F → List Char
  | .null => "null".toList
  | .bool b => (if b then "true" else "false").toList
  | .int n => (toString n).toList
  | .float x => float x
  | .str s => string s
  | .arr l => '[' :: (writeList string float true l ++ [']'])
  | .obj d => '{' :: (writeEntries string float true d ++ ['}'])

/-- The elements of an array; `first` says that no comma is due. -/
def writeList {F : Type} (string : String → List Char) (float : F → List Char) (first : Bool) :
    List (Json F) → List Char
  | [] => []
  | v :: l =>
    (if first then [] else [',', ' ']) ++ write string float v ++ writeList string float false l

/-- The entries of an object. -/
def writeEntries {F : Type} (string : String → List Char) (float : F → List Char) (first : Bool) :
    List (String × Json F) → List Char
  | [] => []
  | (k, v) :: d =>
    (if first then [] else [',', ' ']) ++ string k ++ [':', ' '] ++ write string float v ++
      writeEntries string float false d

end

/-- The characters in the texts of floats. -/
def floatChars : List Char := "0123456789+-.eNaInfity".toList

/-- The text of a float: a number with a point or an exponent, or the name of a special value. -/
structure FloatLit where
  text : List Char
  chars : ∀ c ∈ text, c ∈ floatChars
  notInt : ∃ c ∈ text, c.isDigit = false ∧ c ≠ '-'

/-- The text of a document in the order in which its entries are. -/
def plain : Json FloatLit → List Char := write dumpsString FloatLit.text

/-- `json.dumps(value, ensure_ascii=True, sort_keys=True)`. -/
def dumps (v : Json FloatLit) : List Char := plain (sorted v)

mutual

/-- The document with one spelling for all numbers that Python calls equal; `intOf` says which
integer a float is equal to. -/
def leveled (intOf : FloatLit → Option ℤ) : Json FloatLit → Json FloatLit
  | .null => .null
  | .bool b => .int b.toInt
  | .int n => .int n
  | .float x => (intOf x).elim (.float x) .int
  | .str s => .str s
  | .arr l => .arr (leveledList intOf l)
  | .obj d => .obj (leveledEntries intOf d)

def leveledList (intOf : FloatLit → Option ℤ) : List (Json FloatLit) → List (Json FloatLit)
  | [] => []
  | v :: l => leveled intOf v :: leveledList intOf l

def leveledEntries (intOf : FloatLit → Option ℤ) :
    List (String × Json FloatLit) → List (String × Json FloatLit)
  | [] => []
  | (k, v) :: d => (k, leveled intOf v) :: leveledEntries intOf d

end

variable {α : Type*} {d d' : List (String × α)}

/-- Names that occur once have one order. -/
lemma sortKeys_eq_of_perm (h : d.Perm d') (hnodup : (d.map Prod.fst).Nodup) :
    sortKeys d = sortKeys d' := by
  have hsorted : ∀ d : List (String × α), (sortKeys d).Pairwise fun e e' => e.1 ≤ e'.1 :=
    fun d => List.pairwise_insertionSort _ d
  have hperm : (sortKeys d).Perm (sortKeys d') :=
    ((List.perm_insertionSort _ d).trans h).trans (List.perm_insertionSort _ d').symm
  refine List.Perm.eq_of_pairwise ?_ (hsorted d) (hsorted d') hperm
  intro e e' he he' hle hge
  have hmem : e ∈ d := (List.perm_insertionSort _ d).subset he
  have hmem' : e' ∈ d := h.symm.subset ((List.perm_insertionSort _ d').subset he')
  exact List.inj_on_of_nodup_map hnodup hmem hmem' (String.le_antisymm hle hge)

lemma sortedEntries_eq {F : Type} (d : List (String × Json F)) :
    sortedEntries d = d.map fun e => (e.1, sorted e.2) := by
  induction d with
  | nil => rfl
  | cons e d ih => rw [sortedEntries, ih, List.map_cons]

/-- The order in which the entries come is immaterial. -/
theorem dumps_obj_of_perm {d d' : List (String × Json FloatLit)} (h : d.Perm d')
    (hnodup : (d.map Prod.fst).Nodup) : dumps (.obj d) = dumps (.obj d') := by
  rw [dumps, dumps, sorted, sorted, sortedEntries_eq, sortedEntries_eq,
    sortKeys_eq_of_perm (h.map fun e => (e.1, sorted e.2))]
  rw [List.map_map]
  exact hnodup

/-! ### Documents that keep their characters -/

/-- The text has no character at which a file is cut into lines. -/
def OneLine (s : List Char) : Prop := ∀ c ∈ s, c ≠ '\n' ∧ c ≠ '\r'

instance (s : List Char) : Decidable (OneLine s) :=
  decidable_of_iff (s.all (fun c => c ≠ '\n' && c ≠ '\r') = true) (by simp [OneLine])

/-- The text of a float: digits, sign, point and exponent, or the name of a special value. -/
structure FloatText where
  text : List Char
  oneLine : OneLine text

/-- A character inside a string with `ensure_ascii=False`. -/
def keepChar (c : Char) : List Char :=
  if c = '"' then ['\\', '"']
  else if c = '\\' then ['\\', '\\']
  else if c = '\n' then ['\\', 'n']
  else if c = '\r' then ['\\', 'r']
  else if c = '\t' then ['\\', 't']
  else if c.toNat = 8 then ['\\', 'b']
  else if c.toNat = 12 then ['\\', 'f']
  else if c.toNat < 32 then escapeCode c.toNat
  else [c]

def keepString (s : String) : List Char := '"' :: s.toList.flatMap keepChar ++ ['"']

/-- `json.dumps(value, ensure_ascii=False)`. -/
def keepDumps : Json FloatText → List Char := write keepString FloatText.text

section OneLine

variable {s t : List Char}

lemma oneLine_nil : OneLine [] := fun _ h => nomatch h

lemma OneLine.append (hs : OneLine s) (ht : OneLine t) : OneLine (s ++ t) := by
  intro c hc
  rcases List.mem_append.mp hc with hc | hc
  · exact hs c hc
  · exact ht c hc

lemma OneLine.cons {c : Char} (hc : c ≠ '\n' ∧ c ≠ '\r') (hs : OneLine s) : OneLine (c :: s) := by
  intro c' hc'
  rcases List.mem_cons.mp hc' with rfl | hc'
  · exact hc
  · exact hs c' hc'

lemma oneLine_separator (first : Bool) : OneLine (if first then [] else [',', ' ']) := by
  cases first <;> decide

lemma oneLine_int (n : ℤ) : OneLine (toString n).toList := by
  have hdigits : ∀ k : ℕ, OneLine (toString k).toList := by
    intro k c hc
    have hdigit : c.isDigit = true :=
      Nat.isDigit_of_mem_toDigits (b := 10) (by decide) (by decide) (by simpa using hc)
    constructor <;> rintro rfl <;> exact absurd hdigit (by decide)
  cases n with
  | ofNat k => simpa [Int.repr] using hdigits k
  | negSucc k => simpa [Int.repr] using (hdigits (k + 1)).cons (c := '-') (by decide)

/-- Inside a string line breaks are escaped. -/
lemma oneLine_keepChar (c : Char) : OneLine (keepChar c) := by
  have hcodes : ∀ n : Fin 32, OneLine (escapeCode n) := by decide +kernel
  rw [keepChar]
  split_ifs with h1 h2 h3 h4 h5 h6 h7 h8
  · decide
  · decide
  · decide
  · decide
  · decide
  · decide
  · decide
  · exact hcodes ⟨c.toNat, h8⟩
  · exact OneLine.cons ⟨h3, h4⟩ oneLine_nil

lemma oneLine_keepString (s : String) : OneLine (keepString s) := by
  refine OneLine.append (OneLine.cons (by decide) fun c hc => ?_) (by decide)
  obtain ⟨c', -, hmem⟩ := List.mem_flatMap.mp hc
  exact oneLine_keepChar c' c hmem

end OneLine

mutual

lemma oneLine_write : ∀ v : Json FloatText, OneLine (write keepString FloatText.text v)
  | .null => by decide
  | .bool true => by decide
  | .bool false => by decide
  | .int n => oneLine_int n
  | .float x => x.oneLine
  | .str s => oneLine_keepString s
  | .arr l => ((oneLine_writeList true l).append (by decide)).cons (by decide)
  | .obj d => ((oneLine_writeEntries true d).append (by decide)).cons (by decide)

lemma oneLine_writeList : ∀ (first : Bool) (l : List (Json FloatText)),
    OneLine (writeList keepString FloatText.text first l)
  | _, [] => oneLine_nil
  | first, v :: l =>
    ((oneLine_separator first).append (oneLine_write v)).append (oneLine_writeList false l)

lemma oneLine_writeEntries : ∀ (first : Bool) (d : List (String × Json FloatText)),
    OneLine (writeEntries keepString FloatText.text first d)
  | _, [] => oneLine_nil
  | first, (k, v) :: d =>
    ((((oneLine_separator first).append (oneLine_keepString k)).append (by decide)).append
      (oneLine_write v)).append (oneLine_writeEntries false d)

end

/-- A document is one line. -/
theorem oneLine_keepDumps (v : Json FloatText) : OneLine (keepDumps v) := oneLine_write v

end EcommerceAgent.Lib.JsonText
