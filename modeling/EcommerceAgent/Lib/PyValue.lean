/-
# Python values and JSON

The values that `json.loads` returns and that decoders convert field by field: `x or default`,
`str`, `int`, `float`, `bool`, `dict` and iteration.  A dictionary is the list of its entries in
insertion order, without two keys that Python calls equal.  The main result says what a dictionary
answers after it has been written to JSON and read back (`PyDict.get_roundTrip`): keys become texts
on the way, so a lookup is unchanged for every name that is not the text of a number or a constant.
-/
import EcommerceAgent.Lib.PyFormat
import EcommerceAgent.Lib.Except

namespace EcommerceAgent.Lib

/-- Floats, the tables behind the conversions between numbers and texts, and hashes. -/
class PyRuntime (F : Type) where
  unicode : Unicode
  /-- `str.lower()`. -/
  lower : String → String
  /-- The characters of the class `\d`. -/
  isDecimal : Char → Bool
  /-- `hashlib.sha256(text.encode("utf-8")).hexdigest()`. -/
  sha256 : String → String
  /-- The literal of a number of hundredths. -/
  hundredths : ℕ → F
  isZero : F → Bool
  /-- `float(n)`, which overflows. -/
  ofInt : ℤ → Except String F
  /-- `float(text)`. -/
  ofText : String → Except String F
  /-- `int(x)`, which refuses infinities and NaN. -/
  toInt : F → Except String ℤ
  /-- `int(text)`. -/
  intOfText : String → Except String ℤ
  /-- `repr(x)`. -/
  repr : F → String
  /-- The text of a key that is a float. -/
  jsonText : F → String
  /-- `x == n` for an integer. -/
  sameInt : F → ℤ → Bool
  /-- `x == y`, or the very same object. -/
  same : F → F → Bool
  hundredths_ne : ∀ n, 0 < n → isZero (hundredths n) = false
  repr_ne : ∀ x, repr x ≠ ""
  jsonText_digit : ∀ x, jsonText x ∈ ["NaN", "Infinity", "-Infinity"] ∨
    ∃ c ∈ (jsonText x).toList, c.isDigit = true

/-- The keys of dictionaries. -/
inductive PyKey (F : Type)
  | none
  | bool (b : Bool)
  | int (n : ℤ)
  | float (x : F)
  | str (s : String)

/-- The values of Python that come from JSON. -/
inductive PyValue (F : Type)
  | none
  | bool (b : Bool)
  | int (n : ℤ)
  | float (x : F)
  | str (s : String)
  | list (l : List (PyValue F))
  | dict (d : List (PyKey F × PyValue F))

/-- The text of a JSON document, up to blanks and escapes. -/
inductive Json (F : Type)
  | null
  | bool (b : Bool)
  | int (n : ℤ)
  | float (x : F)
  | str (s : String)
  | arr (l : List (Json F))
  | obj (d : List (String × Json F))

variable {F : Type} [PyRuntime F]

/-! ### Keys -/

namespace PyKey

/-- The number that a key is equal to, if it is an integer or a truth value. -/
def int? : PyKey F → Option ℤ
  | .bool b => some b.toInt
  | .int n => some n
  | _ => Option.none

/-- Python calls the two keys equal. -/
def same : PyKey F → PyKey F → Bool
  | .str s, .str t => s == t
  | .none, .none => true
  | .float x, .float y => PyRuntime.same x y
  | .float x, k => k.int?.any (PyRuntime.sameInt x)
  | k, .float x => k.int?.any (PyRuntime.sameInt x)
  | k, l => k.int?.isSome && k.int? == l.int?

/-- The name under which `json.dumps` writes the key. -/
def jsonText : PyKey F → String
  | .none => "null"
  | .bool b => if b then "true" else "false"
  | .int n => toString n
  | .float x => PyRuntime.jsonText x
  | .str s => s

/-- The key as a value. -/
def value : PyKey F → PyValue F
  | .none => .none
  | .bool b => .bool b
  | .int n => .int n
  | .float x => .float x
  | .str s => .str s

/-- `repr` of the key. -/
def repr : PyKey F → String
  | .none => "None"
  | .bool b => PyFormat.reprBool b
  | .int n => toString n
  | .float x => PyRuntime.repr x
  | .str s => PyFormat.reprString (PyRuntime.unicode F) s

/-- A name that no key but a text has in JSON. -/
def IsWord (name : String) : Prop :=
  name ∉ ["null", "true", "false", "NaN", "Infinity", "-Infinity"] ∧
    ∀ c ∈ name.toList, c.isDigit = false

instance (name : String) : Decidable (IsWord name) :=
  decidable_of_iff
    ((["null", "true", "false", "NaN", "Infinity", "-Infinity"] : List String).contains name = false
      ∧ (name.toList.all fun c => !c.isDigit) = true) (by simp [IsWord])

omit [PyRuntime F] in
@[simp] lemma int?_str (s : String) : (PyKey.str s : PyKey F).int? = Option.none := rfl

@[simp] lemma same_str {k : PyKey F} {s : String} : k.same (.str s) = true ↔ k = .str s := by
  cases k <;> simp [same, int?]

/-- The decimal text of an integer has a digit. -/
lemma exists_digit (n : ℤ) : ∃ c ∈ (toString n).toList, c.isDigit = true := by
  have hnat : ∀ m : ℕ, ∃ c ∈ m.repr.toList, c.isDigit = true := by
    intro m
    obtain ⟨c, hc⟩ := List.exists_mem_of_ne_nil _ (Nat.toDigits_ne_nil (n := m) (b := 10))
    refine ⟨c, by simpa using hc, Nat.isDigit_of_mem_toDigits (by decide) (by decide) hc⟩
  rw [Int.toString_eq_repr]
  cases n with
  | ofNat m => exact hnat m
  | negSucc m =>
    obtain ⟨c, hc, hd⟩ := hnat (m + 1)
    refine ⟨c, ?_, hd⟩
    have hmem : c ∈ Nat.toDigits 10 (m + 1) := by simpa using hc
    simpa [Int.repr] using .inr hmem

/-- Only a text is written as a word. -/
lemma eq_str_of_jsonText {k : PyKey F} {name : String} (hname : IsWord name)
    (h : k.jsonText = name) : k = .str name := by
  have hnot : ∀ c ∈ name.toList, ¬c.isDigit = true := fun c hc => by simp [hname.2 c hc]
  have hdigit : ¬∃ c ∈ name.toList, c.isDigit = true := fun ⟨c, hc, hd⟩ => hnot c hc hd
  cases k with
  | none => exact absurd (h ▸ hname.1) (by simp [jsonText])
  | bool b => cases b <;> exact absurd (h ▸ hname.1) (by simp [jsonText])
  | int n => exact absurd (h ▸ exists_digit n) hdigit
  | float x =>
    rcases PyRuntime.jsonText_digit x with hx | hx
    · refine absurd hname.1 (not_not.mpr ?_)
      rw [← h]
      simp only [jsonText]
      simp only [List.mem_cons, List.not_mem_nil, or_false] at hx
      rcases hx with hx | hx | hx <;> simp [hx]
    · exact absurd (h ▸ hx) hdigit
  | str s => rw [← h]; rfl

end PyKey

namespace PyValue

/-! ### Conversions -/

/-- `bool(v)`. -/
def truthy : PyValue F → Bool
  | .none => false
  | .bool b => b
  | .int n => n != 0
  | .float x => !PyRuntime.isZero x
  | .str s => s != ""
  | .list l => !l.isEmpty
  | .dict d => !d.isEmpty

/-- `v or w`. -/
def or (v w : PyValue F) : PyValue F := if v.truthy then v else w

/-- `type(v).__name__`. -/
def typeName : PyValue F → String
  | .none => "NoneType"
  | .bool _ => "bool"
  | .int _ => "int"
  | .float _ => "float"
  | .str _ => "str"
  | .list _ => "list"
  | .dict _ => "dict"

mutual

/-- `repr(v)`. -/
def repr : PyValue F → String
  | .none => "None"
  | .bool b => PyFormat.reprBool b
  | .int n => toString n
  | .float x => PyRuntime.repr x
  | .str s => PyFormat.reprString (PyRuntime.unicode F) s
  | .list l => "[" ++ ", ".intercalate (reprList l) ++ "]"
  | .dict d => "\x7b" ++ ", ".intercalate (reprEntries d) ++ "\x7d"

/-- `repr` of the elements of a list. -/
def reprList : List (PyValue F) → List String
  | [] => []
  | v :: l => v.repr :: reprList l

/-- The entries of a dictionary in its `repr`. -/
def reprEntries : List (PyKey F × PyValue F) → List String
  | [] => []
  | (k, v) :: d => (k.repr ++ ": " ++ v.repr) :: reprEntries d

end

/-- `str(v)`. -/
def text : PyValue F → String
  | .str s => s
  | v => v.repr

/-- `int(v)`. -/
def toInt : PyValue F → Except String ℤ
  | .bool b => .ok b.toInt
  | .int n => .ok n
  | .float x => PyRuntime.toInt x
  | .str s => PyRuntime.intOfText F s
  | v => .error ("int() argument must be a string, a bytes-like object or a real number, not '" ++
      v.typeName ++ "'")

/-- `float(v)`. -/
def toFloat : PyValue F → Except String F
  | .bool b => PyRuntime.ofInt b.toInt
  | .int n => PyRuntime.ofInt n
  | .float x => .ok x
  | .str s => PyRuntime.ofText s
  | v => .error ("float() argument must be a string or a real number, not '" ++
      v.typeName ++ "'")

/-- `iter(v)`. -/
def iter : PyValue F → Except String (List (PyValue F))
  | .str s => .ok (s.toList.map fun c => .str c.toString)
  | .list l => .ok l
  | .dict d => .ok (d.map (·.1.value))
  | v => .error ("'" ++ v.typeName ++ "' object is not iterable")

/-- The key that a value can be. -/
def toKey : PyValue F → Except String (PyKey F)
  | .none => .ok .none
  | .bool b => .ok (.bool b)
  | .int n => .ok (.int n)
  | .float x => .ok (.float x)
  | .str s => .ok (.str s)
  | v => .error ("unhashable type: '" ++ v.typeName ++ "'")

/-- `isinstance(v, dict)`, with the entries. -/
def dict? : PyValue F → Option (List (PyKey F × PyValue F))
  | .dict d => some d
  | _ => Option.none

section

variable (F)

@[simp] lemma truthy_none : (none : PyValue F).truthy = false := rfl

@[simp] lemma truthy_bool (b : Bool) : (bool b : PyValue F).truthy = b := rfl

@[simp] lemma text_str (s : String) : (str s : PyValue F).text = s := rfl

@[simp] lemma none_or (v : PyValue F) : none.or v = v := rfl

lemma str_or (s : String) (v : PyValue F) :
    (str s).or v = if s = "" then v else .str s := by
  by_cases h : s = "" <;> simp [PyValue.or, truthy, h]

lemma int_or (n : ℤ) (v : PyValue F) : (int n).or v = if n = 0 then v else .int n := by
  by_cases h : n = 0 <;> simp [PyValue.or, truthy, h]

end

lemma float_or (x : F) (v : PyValue F) :
    (float x).or v = if PyRuntime.isZero x then v else .float x := by
  cases h : PyRuntime.isZero x <;> simp [PyValue.or, truthy, h]

lemma text_str_or (s : String) (v : PyValue F) :
    ((str s).or v).text = if s = "" then v.text else s := by
  rw [str_or]
  split_ifs <;> rfl

@[simp] lemma list_or (l : List (PyValue F)) : (list l).or (list []) = list l := by
  cases l <;> rfl

@[simp] lemma dict_or (d : List (PyKey F × PyValue F)) : (dict d).or (dict []) = dict d := by
  cases d <;> rfl

/-- The text of a value that counts as true is not empty. -/
lemma text_ne {v : PyValue F} (h : v.truthy = true) : v.text ≠ "" := by
  have hopen : ∀ a b c : String, a ≠ "" → a ++ b ++ c ≠ "" := by
    intro a b c ha habc
    refine ha (String.toList_inj.1 ?_)
    have hnil := congrArg String.toList habc
    simp only [String.toList_append, String.toList_empty, List.append_eq_nil_iff] at hnil
    simpa using hnil.1.1
  cases v with
  | none => exact absurd h Bool.false_ne_true
  | bool b => cases b <;> simp [text, repr, PyFormat.reprBool]
  | int n =>
    intro hempty
    obtain ⟨c, hc, -⟩ := PyKey.exists_digit n
    simp only [text, repr] at hempty
    simp [hempty] at hc
  | float x => exact PyRuntime.repr_ne x
  | str s => simpa [truthy] using h
  | list l => exact hopen _ _ _ (by decide)
  | dict d => exact hopen _ _ _ (by decide)

lemma text_or_ne (v : PyValue F) {w : PyValue F} (h : w.text ≠ "") : (v.or w).text ≠ "" := by
  unfold PyValue.or
  split_ifs with hv
  · exact text_ne hv
  · exact h

/-! ### JSON -/

mutual

/-- `json.dumps`, without the layout. -/
def dumps : PyValue F → Json F
  | .none => .null
  | .bool b => .bool b
  | .int n => .int n
  | .float x => .float x
  | .str s => .str s
  | .list l => .arr (dumpsList l)
  | .dict d => .obj (dumpsEntries d)

def dumpsList : List (PyValue F) → List (Json F)
  | [] => []
  | v :: l => v.dumps :: dumpsList l

def dumpsEntries : List (PyKey F × PyValue F) → List (String × Json F)
  | [] => []
  | (k, v) :: d => (k.jsonText, v.dumps) :: dumpsEntries d

end

/-- `d[k] = v`. -/
def insert (d : List (PyKey F × PyValue F)) (k : PyKey F) (v : PyValue F) :
    List (PyKey F × PyValue F) :=
  if d.any (·.1.same k) then d.map fun e => if e.1.same k then (e.1, v) else e else d ++ [(k, v)]

/-- The dictionary into which entries are put one after the other. -/
def insertAll (d l : List (PyKey F × PyValue F)) : List (PyKey F × PyValue F) :=
  l.foldl (fun d e => insert d e.1 e.2) d

end PyValue

mutual

/-- `json.loads`, from the syntax tree. -/
def Json.loads : Json F → PyValue F
  | .null => .none
  | .bool b => .bool b
  | .int n => .int n
  | .float x => .float x
  | .str s => .str s
  | .arr l => .list (Json.loadsList l)
  | .obj d => .dict (PyValue.insertAll [] (Json.loadsEntries d))

def Json.loadsList : List (Json F) → List (PyValue F)
  | [] => []
  | j :: l => j.loads :: Json.loadsList l

def Json.loadsEntries : List (String × Json F) → List (PyKey F × PyValue F)
  | [] => []
  | (name, j) :: d => (.str name, j.loads) :: Json.loadsEntries d

end

namespace PyValue

/-- Written to JSON and read back. -/
def roundTrip (v : PyValue F) : PyValue F := v.dumps.loads

lemma dumpsList_eq (l : List (PyValue F)) : dumpsList l = l.map dumps := by
  induction l with
  | nil => rfl
  | cons v l ih => rw [dumpsList, ih, List.map_cons]

lemma dumpsEntries_eq (d : List (PyKey F × PyValue F)) :
    dumpsEntries d = d.map fun e => (e.1.jsonText, e.2.dumps) := by
  induction d with
  | nil => rfl
  | cons e d ih => rw [dumpsEntries, ih, List.map_cons]

lemma loadsList_eq (l : List (Json F)) : Json.loadsList l = l.map Json.loads := by
  induction l with
  | nil => rfl
  | cons j l ih => rw [Json.loadsList, ih, List.map_cons]

lemma loadsEntries_eq (d : List (String × Json F)) :
    Json.loadsEntries d = d.map fun e => (.str e.1, e.2.loads) := by
  induction d with
  | nil => rfl
  | cons e d ih => rw [Json.loadsEntries, ih, List.map_cons]

section

variable (F)

@[simp] lemma roundTrip_none : (none : PyValue F).roundTrip = none := rfl

@[simp] lemma roundTrip_bool (b : Bool) : (bool b : PyValue F).roundTrip = bool b := rfl

@[simp] lemma roundTrip_int (n : ℤ) : (int n : PyValue F).roundTrip = int n := rfl

@[simp] lemma roundTrip_str (s : String) : (str s : PyValue F).roundTrip = str s := rfl

end

@[simp] lemma roundTrip_float (x : F) : (float x).roundTrip = float x := rfl

@[simp] lemma roundTrip_list (l : List (PyValue F)) :
    (list l).roundTrip = list (l.map roundTrip) := by
  simp only [roundTrip, dumps, Json.loads, dumpsList_eq, loadsList_eq, List.map_map]
  rfl

lemma roundTrip_dict (d : List (PyKey F × PyValue F)) :
    (dict d).roundTrip =
      dict (insertAll [] (d.map fun e => (.str e.1.jsonText, e.2.roundTrip))) := by
  simp only [roundTrip, dumps, Json.loads, dumpsEntries_eq, loadsEntries_eq, List.map_map]
  rfl

/-! ### Records -/

/-- The entries of a dictionary display whose keys are texts. -/
def entriesOf (fields : List (String × PyValue F)) : List (PyKey F × PyValue F) :=
  fields.map fun e => (.str e.1, e.2)

/-- A dictionary display whose keys are texts. -/
def record (fields : List (String × PyValue F)) : PyValue F := .dict (entriesOf fields)

/-- A field of a display is overwritten in place. -/
lemma insert_entriesOf {fields : List (String × PyValue F)} {name : String} (v : PyValue F)
    (h : name ∈ fields.map Prod.fst) :
    insert (entriesOf fields) (.str name) v =
      entriesOf (fields.map fun e => if e.1 = name then (e.1, v) else e) := by
  obtain ⟨e, he, rfl⟩ := List.mem_map.1 h
  have hany : (entriesOf fields).any (·.1.same (.str e.1)) = true := by
    refine List.any_eq_true.2 ⟨_, List.mem_map_of_mem he, ?_⟩
    exact PyKey.same_str.2 rfl
  rw [insert, if_pos hany, entriesOf, entriesOf, List.map_map, List.map_map]
  refine List.map_congr_left fun e' _ => ?_
  simp only [Function.comp_apply, PyKey.same_str, PyKey.str.injEq]
  split_ifs <;> rfl

/-- Entries under new, different keys are appended. -/
lemma insertAll_of_nodup {d l : List (PyKey F × PyValue F)}
    (h : (d ++ l).Pairwise fun a b => a.1.same b.1 = false) : insertAll d l = d ++ l := by
  induction l generalizing d with
  | nil => exact (List.append_nil d).symm
  | cons e l ih =>
    have hfresh : insert d e.1 e.2 = d ++ [e] := by
      refine if_neg ?_
      have hbefore := (List.pairwise_append.1 h).2.2
      simpa using fun k v he => hbefore (k, v) he e List.mem_cons_self
    have happend : d ++ e :: l = d ++ [e] ++ l := by simp
    rw [insertAll, List.foldl_cons, hfresh, happend]
    exact ih (happend ▸ h)

lemma pairwise_record {fields : List (String × PyValue F)} (h : (fields.map Prod.fst).Nodup) :
    (entriesOf fields).Pairwise fun a b => a.1.same b.1 = false := by
  rw [entriesOf, List.pairwise_map]
  rw [List.nodup_iff_pairwise_ne, List.pairwise_map] at h
  exact h.imp fun hne => by simpa [PyKey.same] using hne

/-- The values of a record are written and read one by one. -/
lemma roundTrip_record {fields : List (String × PyValue F)} (h : (fields.map Prod.fst).Nodup) :
    (record fields).roundTrip = record (fields.map fun e => (e.1, e.2.roundTrip)) := by
  rw [record, roundTrip_dict, insertAll_of_nodup]
  · simp [record, entriesOf, PyKey.jsonText]
  · have hmap : ((fields.map fun e => (e.1, e.2.roundTrip)).map Prod.fst).Nodup := by
      simpa [Function.comp_def] using h
    simpa [entriesOf, Function.comp_def, PyKey.jsonText] using pairwise_record hmap

/-! ### Lookups -/

/-- `d.get(name)`. -/
def get (d : List (PyKey F × PyValue F)) (name : String) : PyValue F :=
  ((d.find? (·.1.same (.str name))).map (·.2)).getD .none

@[simp] lemma get_nil (name : String) : get ([] : List (PyKey F × PyValue F)) name = .none := rfl

lemma get_cons (k : PyKey F) (v : PyValue F) (d : List (PyKey F × PyValue F)) (name : String) :
    get ((k, v) :: d) name = if k.same (.str name) then v else get d name := by
  cases h : k.same (.str name) <;> simp [get, h]

@[simp] lemma get_cons_str (s : String) (v : PyValue F) (d : List (PyKey F × PyValue F))
    (name : String) : get ((.str s, v) :: d) name = if s = name then v else get d name := by
  simp [get_cons, PyKey.same]

lemma get_entriesOf (fields : List (String × PyValue F)) (name : String) :
    get (entriesOf fields) name = (fields.lookup name).getD .none := by
  induction fields with
  | nil => rfl
  | cons e fields ih =>
    rw [entriesOf, List.map_cons, get_cons_str, List.lookup_cons]
    by_cases he : e.1 = name
    · simp [he]
    · have hbeq : (name == e.1) = false := by simpa using Ne.symm he
      rw [if_neg he, hbeq]
      exact ih

lemma get_append_singleton (d : List (PyKey F × PyValue F)) (k : PyKey F) (v : PyValue F)
    (name : String) (h : ∀ e ∈ d, e.1 ≠ .str name) :
    get (d ++ [(k, v)]) name = if k.same (.str name) then v else .none := by
  induction d with
  | nil => rw [List.nil_append, get_cons, get_nil]
  | cons e d ih =>
    have he : ¬e.1.same (.str name) = true := fun hsame =>
      h e List.mem_cons_self (PyKey.same_str.1 hsame)
    rw [List.cons_append, get_cons, if_neg he]
    exact ih fun e he => h e (List.mem_cons_of_mem _ he)

lemma get_of_forall_ne {d : List (PyKey F × PyValue F)} {name : String}
    (h : ∀ e ∈ d, e.1 ≠ .str name) : get d name = .none := by
  have hfind : d.find? (·.1.same (.str name)) = Option.none := by
    rw [List.find?_eq_none]
    exact fun e he hsame => h e he (PyKey.same_str.1 hsame)
  rw [get, hfind]
  rfl

lemma get_append {d d' : List (PyKey F × PyValue F)} {name : String}
    (h : ∃ e ∈ d, e.1 = .str name) : get (d ++ d') name = get d name := by
  obtain ⟨e, he, hk⟩ := h
  have hsome : (d.find? (·.1.same (.str name))).isSome := by
    rw [List.find?_isSome]
    exact ⟨e, he, PyKey.same_str.2 hk⟩
  obtain ⟨found, hfound⟩ := Option.isSome_iff_exists.1 hsome
  rw [get, get, List.find?_append, hfound, Option.some_or]

/-- What a dictionary answers after `d[k] = v`. -/
lemma get_insert (d : List (PyKey F × PyValue F)) (k : PyKey F) (v : PyValue F) (name : String) :
    get (insert d k v) name = if k.same (.str name) then v else get d name := by
  by_cases hk : k.same (.str name) = true
  · obtain rfl := PyKey.same_str.1 hk
    rw [if_pos hk, insert]
    split_ifs with hany
    · -- the entry of the name is replaced
      induction d with
      | nil => simp at hany
      | cons e d ih =>
        by_cases he : e.1.same (.str name) = true
        · rw [List.map_cons, if_pos he, get_cons, if_pos he]
        · rw [List.map_cons, if_neg he, get_cons, if_neg he]
          exact ih (by simpa [he] using hany)
    · rw [get_append_singleton _ _ _ _ fun e he hname => hany (List.any_eq_true.2
        ⟨e, he, PyKey.same_str.2 hname⟩), if_pos hk]
  · rw [if_neg hk, insert]
    split_ifs with hany
    · -- the replaced entry has another key
      clear hany
      induction d with
      | nil => rfl
      | cons e d ih =>
        rw [List.map_cons]
        split_ifs with he
        · have hne : ¬e.1.same (.str name) = true := by
            intro hsame
            obtain hname := PyKey.same_str.1 hsame
            rw [hname] at he
            cases k with
            | str s => exact hk (PyKey.same_str.2 (PyKey.same_str.1 he).symm)
            | none | bool | int | float => simp [PyKey.same, PyKey.int?] at he
          rw [get_cons, if_neg hne, get_cons, if_neg hne, ih]
        · rw [get_cons, get_cons, ih]
    · by_cases hex : ∃ e ∈ d, e.1 = .str name
      · rw [get_append hex]
      · have hnone : ∀ e ∈ d, e.1 ≠ .str name := fun e he hname => hex ⟨e, he, hname⟩
        rw [get_append_singleton _ _ _ _ hnone, if_neg hk, get_of_forall_ne hnone]

/-- If all entries of a name carry one value, this is what the name answers. -/
lemma get_insertAll {d l : List (PyKey F × PyValue F)} {name : String} {v : PyValue F}
    (hall : ∀ e ∈ l, e.1 = .str name → e.2 = v)
    (hex : get d name = v ∨ ∃ e ∈ l, e.1 = .str name) : get (insertAll d l) name = v := by
  induction l generalizing d with
  | nil => simpa [insertAll] using hex
  | cons e l ih =>
    refine ih (fun e he => hall e (List.mem_cons_of_mem _ he)) ?_
    by_cases he : e.1 = .str name
    · refine .inl ?_
      rw [get_insert, if_pos (PyKey.same_str.2 he), hall e List.mem_cons_self he]
    · rcases hex with hd | ⟨e', hmem, he'⟩
      · refine .inl ?_
        rwa [get_insert, if_neg (mt PyKey.same_str.1 he)]
      · rcases List.mem_cons.1 hmem with rfl | hmem
        · exact absurd he' he
        · exact .inr ⟨e', hmem, he'⟩

lemma get_insertAll_of_forall_ne {d l : List (PyKey F × PyValue F)} {name : String}
    (h : ∀ e ∈ l, e.1 ≠ .str name) : get (insertAll d l) name = get d name := by
  refine get_insertAll (fun e he hname => absurd hname (h e he)) (.inl rfl)

end PyValue

/-! ### Dictionaries -/

/-- A dictionary: no two of its keys are equal. -/
structure PyDict (F : Type) [PyRuntime F] where
  entries : List (PyKey F × PyValue F)
  distinct : entries.Pairwise fun a b => a.1.same b.1 = false

namespace PyDict

/-- `dict()`. -/
def empty : PyDict F := ⟨[], .nil⟩

lemma pairwise_insert {d : List (PyKey F × PyValue F)}
    (h : d.Pairwise fun a b => a.1.same b.1 = false) (k : PyKey F) (v : PyValue F) :
    (PyValue.insert d k v).Pairwise fun a b => a.1.same b.1 = false := by
  rw [PyValue.insert]
  split_ifs with hany
  · rw [List.pairwise_map]
    refine h.imp fun {a b} hab => ?_
    split_ifs <;> exact hab
  · refine List.pairwise_append.2 ⟨h, List.pairwise_singleton _ _, fun a ha b hb => ?_⟩
    obtain rfl := List.mem_singleton.1 hb
    simpa using fun hsame => hany (List.any_eq_true.2 ⟨a, ha, hsame⟩)

lemma pairwise_insertAll {d : List (PyKey F × PyValue F)}
    (h : d.Pairwise fun a b => a.1.same b.1 = false) (l : List (PyKey F × PyValue F)) :
    (PyValue.insertAll d l).Pairwise fun a b => a.1.same b.1 = false := by
  induction l generalizing d with
  | nil => exact h
  | cons e l ih => exact ih (pairwise_insert h e.1 e.2)

variable (d : PyDict F)

/-- `\x7b**d, name: v\x7d`. -/
def set (name : String) (v : PyValue F) : PyDict F :=
  ⟨PyValue.insert d.entries (.str name) v, pairwise_insert d.distinct _ _⟩

/-- The dictionary of a list of entries. -/
def ofEntries (l : List (PyKey F × PyValue F)) : PyDict F :=
  ⟨PyValue.insertAll [] l, pairwise_insertAll .nil l⟩

/-- `d.get(name)`. -/
def get (name : String) : PyValue F := PyValue.get d.entries name

/-- The dictionary without the given names. -/
def without (names : List String) : PyDict F :=
  ⟨d.entries.filter fun e => !names.any fun name => e.1.same (.str name), d.distinct.filter _⟩

/-- The dictionary as a value. -/
def value : PyValue F := .dict d.entries

/-- The two elements of the element at a position of an update sequence. -/
def pair (i : ℕ) : PyValue F → Except String (PyValue F × PyValue F)
  | .list [k, v] => .ok (k, v)
  | .list l => .error (wrongLength l.length)
  | .str s =>
    match s.toList with
    | [a, b] => .ok (.str a.toString, .str b.toString)
    | l => .error (wrongLength l.length)
  | .dict [a, b] => .ok (a.1.value, b.1.value)
  | .dict l => .error (wrongLength l.length)
  | _ => .error ("cannot convert dictionary update sequence element #" ++ toString i ++
      " to a sequence")
where
  wrongLength (n : ℕ) : String :=
    "dictionary update sequence element #" ++ toString i ++ " has length " ++ toString n ++
      "; 2 is required"

/-- The entries of an update sequence. -/
def pairs : ℕ → List (PyValue F) → Except String (List (PyKey F × PyValue F))
  | _, [] => .ok []
  | i, v :: l => do
    let (k, v) ← pair i v
    let k ← k.toKey
    return (k, v) :: (← pairs (i + 1) l)

/-- `dict(v)`. -/
def ofValue (v : PyValue F) : Except String (PyDict F) :=
  match v with
  | .dict d => .ok (ofEntries d)
  | v => do return ofEntries (← pairs 0 (← v.iter))

lemma get_set (name name' : String) (v : PyValue F) :
    (d.set name v).get name' = if name = name' then v else d.get name' := by
  simp [get, set, PyValue.get_insert, PyKey.same]

/-- The entry of a name is the only one. -/
lemma get_of_mem {e : PyKey F × PyValue F} {name : String} (he : e ∈ d.entries)
    (hname : e.1 = .str name) : d.get name = e.2 := by
  obtain ⟨entries, hdistinct⟩ := d
  simp only [get]
  induction hdistinct with
  | nil => exact absurd he List.not_mem_nil
  | @cons a l ha _ ih =>
    rcases List.mem_cons.1 he with rfl | hmem
    · rw [PyValue.get_cons, if_pos (PyKey.same_str.2 hname)]
    · have hne : ¬a.1.same (.str name) = true := by
        rw [← hname, ha e hmem]
        exact Bool.false_ne_true
      rw [PyValue.get_cons, if_neg hne]
      exact ih hmem

/-- `dict(d)` is a copy. -/
@[simp] lemma ofValue_value : ofValue d.value = .ok d := by
  have hentries : PyValue.insertAll [] d.entries = d.entries :=
    PyValue.insertAll_of_nodup d.distinct
  obtain ⟨entries, hdistinct⟩ := d
  simp only [ofValue, value, ofEntries] at hentries ⊢
  simp only [hentries]

@[simp] lemma ofValue_dict : ofValue (.dict d.entries) = .ok d := ofValue_value d

/-- The dictionary after it has been written to JSON and read back. -/
def roundTrip : PyDict F :=
  ofEntries (d.entries.map fun e => (.str e.1.jsonText, e.2.roundTrip))

lemma roundTrip_value : d.value.roundTrip = d.roundTrip.value := PyValue.roundTrip_dict d.entries

/-- A dictionary that has been written and read answers the same for a word. -/
theorem get_roundTrip {name : String} (hname : PyKey.IsWord name) :
    d.roundTrip.get name = (d.get name).roundTrip := by
  by_cases hex : ∃ e ∈ d.entries, e.1 = .str name
  · obtain ⟨e, he, hk⟩ := hex
    refine PyValue.get_insertAll (fun e' he' hk' => ?_) (.inr ⟨_, List.mem_map_of_mem he, ?_⟩)
    · obtain ⟨e₀, he₀, rfl⟩ := List.mem_map.1 he'
      have hk₀ : e₀.1 = .str name :=
        PyKey.eq_str_of_jsonText hname (PyKey.str.inj hk')
      rw [get_of_mem d he₀ hk₀]
    · rw [hk]
      rfl
  · have hnone : d.get name = .none :=
      PyValue.get_of_forall_ne fun e he hk => hex ⟨e, he, hk⟩
    rw [hnone]
    refine PyValue.get_insertAll_of_forall_ne fun e he hk => ?_
    obtain ⟨e₀, he₀, rfl⟩ := List.mem_map.1 he
    exact hex ⟨e₀, he₀, PyKey.eq_str_of_jsonText hname (PyKey.str.inj hk)⟩

end PyDict

/-! ### Values that come from a document -/

namespace PyValue

/-- The value was read from JSON. -/
def Loaded (v : PyValue F) : Prop := ∃ j : Json F, v = j.loads

/-- All values of a dictionary were read from JSON; its keys may be anything. -/
def LoadedEntries (d : List (PyKey F × PyValue F)) : Prop := ∀ e ∈ d, e.2.Loaded

lemma loaded_none : (none : PyValue F).Loaded := ⟨.null, rfl⟩

lemma loaded_str (s : String) : (str s : PyValue F).Loaded := ⟨.str s, rfl⟩

lemma loaded_key (k : PyKey F) : k.value.Loaded := by
  cases k with
  | none => exact ⟨.null, rfl⟩
  | bool b => exact ⟨.bool b, rfl⟩
  | int n => exact ⟨.int n, rfl⟩
  | float x => exact ⟨.float x, rfl⟩
  | str s => exact ⟨.str s, rfl⟩

lemma loaded_list {l : List (PyValue F)} (h : ∀ v ∈ l, v.Loaded) : (list l).Loaded := by
  induction l with
  | nil => exact ⟨.arr [], rfl⟩
  | cons v l ih =>
    obtain ⟨j, rfl⟩ := h v List.mem_cons_self
    obtain ⟨js, hjs⟩ := ih fun v hv => h v (List.mem_cons_of_mem _ hv)
    cases js with
    | arr js => exact ⟨.arr (j :: js), by simpa [Json.loads, Json.loadsList] using hjs⟩
    | null | bool | int | float | str | obj => simp [Json.loads] at hjs

/-- Keys and values of a dictionary come from what was put in. -/
lemma mem_insert {d : List (PyKey F × PyValue F)} {k : PyKey F} {v : PyValue F}
    {e : PyKey F × PyValue F} (h : e ∈ insert d k v) :
    (e.1 = k ∨ ∃ e' ∈ d, e'.1 = e.1) ∧ (e.2 = v ∨ ∃ e' ∈ d, e'.2 = e.2) := by
  rw [insert] at h
  split_ifs at h
  · obtain ⟨e', he', rfl⟩ := List.mem_map.1 h
    split_ifs
    · exact ⟨.inr ⟨e', he', rfl⟩, .inl rfl⟩
    · exact ⟨.inr ⟨e', he', rfl⟩, .inr ⟨e', he', rfl⟩⟩
  · rcases List.mem_append.1 h with h | h
    · exact ⟨.inr ⟨e, h, rfl⟩, .inr ⟨e, h, rfl⟩⟩
    · obtain rfl := List.mem_singleton.1 h
      exact ⟨.inl rfl, .inl rfl⟩

lemma mem_insertAll {d l : List (PyKey F × PyValue F)} {e : PyKey F × PyValue F}
    (h : e ∈ insertAll d l) :
    (∃ e' ∈ d ++ l, e'.1 = e.1) ∧ ∃ e' ∈ d ++ l, e'.2 = e.2 := by
  induction l generalizing d with
  | nil => exact ⟨⟨e, by simpa [insertAll] using h, rfl⟩, ⟨e, by simpa [insertAll] using h, rfl⟩⟩
  | cons a l ih =>
    have hmem : ∀ e', e' ∈ d ∨ e' = a ∨ e' ∈ l → e' ∈ d ++ a :: l := by simp
    obtain ⟨⟨ek, hek, hk⟩, ev, hev, hv⟩ := ih h
    refine ⟨?_, ?_⟩
    · rcases List.mem_append.1 hek with hek | hek
      · rcases (mem_insert hek).1 with heq | ⟨e', he', heq⟩
        · exact ⟨a, hmem a (.inr (.inl rfl)), heq.symm.trans hk⟩
        · exact ⟨e', hmem e' (.inl he'), heq.trans hk⟩
      · exact ⟨ek, hmem ek (.inr (.inr hek)), hk⟩
    · rcases List.mem_append.1 hev with hev | hev
      · rcases (mem_insert hev).2 with heq | ⟨e', he', heq⟩
        · exact ⟨a, hmem a (.inr (.inl rfl)), heq.symm.trans hv⟩
        · exact ⟨e', hmem e' (.inl he'), heq.trans hv⟩
      · exact ⟨ev, hmem ev (.inr (.inr hev)), hv⟩

lemma LoadedEntries.insert {d : List (PyKey F × PyValue F)} (h : LoadedEntries d) (k : PyKey F)
    {v : PyValue F} (hv : v.Loaded) : LoadedEntries (insert d k v) := by
  intro e he
  rcases (mem_insert he).2 with heq | ⟨e', he', heq⟩
  · exact heq ▸ hv
  · exact heq ▸ h e' he'

lemma LoadedEntries.insertAll {d l : List (PyKey F × PyValue F)} (h : LoadedEntries d)
    (hl : LoadedEntries l) : LoadedEntries (insertAll d l) := by
  intro e he
  obtain ⟨e', he', heq⟩ := (mem_insertAll he).2
  rcases List.mem_append.1 he' with he' | he'
  · exact heq ▸ h e' he'
  · exact heq ▸ hl e' he'

lemma loadedEntries_nil : LoadedEntries ([] : List (PyKey F × PyValue F)) :=
  fun _ h => absurd h List.not_mem_nil

/-- The entries of an object. -/
lemma Loaded.entries {d : List (PyKey F × PyValue F)} (h : (dict d).Loaded) : LoadedEntries d := by
  obtain ⟨j, hj⟩ := h
  cases j with
  | obj fields =>
    obtain rfl := PyValue.dict.inj hj
    refine loadedEntries_nil.insertAll fun e he => ?_
    rw [loadsEntries_eq] at he
    obtain ⟨field, -, rfl⟩ := List.mem_map.1 he
    exact ⟨field.2, rfl⟩
  | null | bool | int | float | str | arr => simp [Json.loads] at hj

/-- The elements of an array. -/
lemma Loaded.elements {l : List (PyValue F)} (h : (list l).Loaded) : ∀ v ∈ l, v.Loaded := by
  obtain ⟨j, hj⟩ := h
  cases j with
  | arr js =>
    obtain rfl := PyValue.list.inj hj
    intro v hv
    rw [loadsList_eq] at hv
    obtain ⟨j, -, rfl⟩ := List.mem_map.1 hv
    exact ⟨j, rfl⟩
  | null | bool | int | float | str | obj => simp [Json.loads] at hj

lemma LoadedEntries.get {d : List (PyKey F × PyValue F)} (h : LoadedEntries d) (name : String) :
    (get d name).Loaded := by
  unfold PyValue.get
  cases hfind : d.find? (·.1.same (.str name)) with
  | none => exact loaded_none
  | some e => exact h e (List.mem_of_find?_eq_some hfind)

lemma Loaded.or {v w : PyValue F} (hv : v.Loaded) (hw : w.Loaded) : (v.or w).Loaded := by
  unfold PyValue.or
  split_ifs
  · exact hv
  · exact hw

end PyValue

mutual

/-- A document that is read, written and read again. -/
theorem Json.roundTrip_loads : (j : Json F) → j.loads.roundTrip = j.loads
  | .null => rfl
  | .bool _ => rfl
  | .int _ => rfl
  | .float _ => rfl
  | .str _ => rfl
  | .arr l => by rw [Json.loads, PyValue.roundTrip_list, Json.roundTrip_loadsList l]
  | .obj d => by
    have hentries : ∀ e ∈ PyValue.insertAll [] (Json.loadsEntries d),
        ((.str e.1.jsonText, e.2.roundTrip) : PyKey F × PyValue F) = e := by
      intro e he
      obtain ⟨⟨k, hk, hkey⟩, v, hv, hvalue⟩ := PyValue.mem_insertAll he
      rw [← hkey, ← hvalue, Json.roundTrip_loadsEntries d v hv]
      rw [List.nil_append, PyValue.loadsEntries_eq] at hk
      obtain ⟨field, -, rfl⟩ := List.mem_map.1 hk
      exact Prod.ext hkey hvalue
    have hdistinct := PyDict.pairwise_insertAll .nil (Json.loadsEntries d)
    rw [Json.loads, PyValue.roundTrip_dict, List.map_congr_left hentries, List.map_id',
      PyValue.insertAll_of_nodup hdistinct, List.nil_append]

theorem Json.roundTrip_loadsList :
    (l : List (Json F)) → (Json.loadsList l).map PyValue.roundTrip = Json.loadsList l
  | [] => rfl
  | j :: l => by
    rw [Json.loadsList, List.map_cons, Json.roundTrip_loads j, Json.roundTrip_loadsList l]

theorem Json.roundTrip_loadsEntries :
    (d : List (String × Json F)) → ∀ e ∈ Json.loadsEntries d, e.2.roundTrip = e.2
  | [] => fun _ h => absurd h List.not_mem_nil
  | (name, j) :: d => fun e he => by
    rcases List.mem_cons.1 he with rfl | he
    · exact Json.roundTrip_loads j
    · exact Json.roundTrip_loadsEntries d e he

end

namespace PyValue

lemma Loaded.roundTrip {v : PyValue F} (h : v.Loaded) : v.roundTrip = v := by
  obtain ⟨j, rfl⟩ := h
  exact j.roundTrip_loads

/-- What is iterated over comes from the document, too. -/
lemma Loaded.iter {v : PyValue F} (h : v.Loaded) {l : List (PyValue F)} (hl : v.iter = .ok l) :
    ∀ w ∈ l, w.Loaded := by
  intro w hw
  cases v with
  | str s =>
    obtain rfl := Except.ok.inj hl
    obtain ⟨c, -, rfl⟩ := List.mem_map.1 hw
    exact loaded_str _
  | list l' =>
    obtain rfl := Except.ok.inj hl
    exact h.elements w hw
  | dict d =>
    obtain rfl := Except.ok.inj hl
    obtain ⟨e, -, rfl⟩ := List.mem_map.1 hw
    exact loaded_key _
  | none | bool | int | float => cases hl

end PyValue

namespace PyDict

/-- All values were read from JSON. -/
def Loaded (d : PyDict F) : Prop := PyValue.LoadedEntries d.entries

lemma loaded_empty : (empty : PyDict F).Loaded := PyValue.loadedEntries_nil

lemma Loaded.set {d : PyDict F} (h : d.Loaded) (name : String) {v : PyValue F} (hv : v.Loaded) :
    (d.set name v).Loaded := h.insert _ hv

/-- Writing and reading such a dictionary does not change what it answers. -/
lemma Loaded.get_roundTrip {d : PyDict F} (h : d.Loaded) {name : String}
    (hname : PyKey.IsWord name) : d.roundTrip.get name = d.get name :=
  (PyDict.get_roundTrip d hname).trans (PyValue.LoadedEntries.get h name).roundTrip

lemma loaded_roundTrip (d : PyDict F) : d.roundTrip.Loaded := by
  refine PyValue.loadedEntries_nil.insertAll fun e he => ?_
  obtain ⟨e, -, rfl⟩ := List.mem_map.1 he
  exact ⟨e.2.dumps, rfl⟩

lemma loaded_pair {i : ℕ} {v k w : PyValue F} (hv : v.Loaded) (h : pair i v = .ok (k, w)) :
    w.Loaded := by
  cases v with
  | list l =>
    match l, hv, h with
    | [a, b], hv, h =>
      obtain rfl := (Prod.mk.inj (Except.ok.inj h)).2
      exact hv.elements b (by simp)
    | [], _, h | [_], _, h | _ :: _ :: _ :: _, _, h => cases h
  | str s =>
    simp only [pair] at h
    split at h
    · obtain rfl := (Prod.mk.inj (Except.ok.inj h)).2
      exact PyValue.loaded_str _
    · cases h
  | dict d =>
    match d, h with
    | [a, b], h =>
      obtain rfl := (Prod.mk.inj (Except.ok.inj h)).2
      exact PyValue.loaded_key _
    | [], h | [_], h | _ :: _ :: _ :: _, h => cases h
  | none | bool | int | float => cases h

lemma loaded_pairs {i : ℕ} {l : List (PyValue F)} {d : List (PyKey F × PyValue F)}
    (hl : ∀ v ∈ l, v.Loaded) (h : pairs i l = .ok d) : PyValue.LoadedEntries d := by
  induction l generalizing i d with
  | nil =>
    obtain rfl := Except.ok.inj h
    exact PyValue.loadedEntries_nil
  | cons v l ih =>
    simp only [pairs, bind_eq_ok] at h
    obtain ⟨⟨k, w⟩, hpair, key, -, rest, hrest, h⟩ := h
    obtain rfl := Except.ok.inj h
    intro e he
    rcases List.mem_cons.1 he with rfl | he
    · exact loaded_pair (hl v List.mem_cons_self) hpair
    · exact ih (fun v hv => hl v (List.mem_cons_of_mem _ hv)) hrest e he

/-- `dict` of what was read. -/
lemma loaded_ofValue {v : PyValue F} (hv : v.Loaded) {d : PyDict F} (h : ofValue v = .ok d) :
    d.Loaded := by
  have hsequence : ∀ l : List (PyValue F), v.iter = .ok l →
      ∀ entries, pairs 0 l = .ok entries → (ofEntries entries).Loaded :=
    fun l hl entries hentries => PyValue.loadedEntries_nil.insertAll
      (loaded_pairs (hv.iter hl) hentries)
  cases v with
  | dict entries =>
    obtain rfl := Except.ok.inj h
    exact PyValue.loadedEntries_nil.insertAll hv.entries
  | none | bool | int | float | str | list =>
    simp only [ofValue, bind_eq_ok] at h
    obtain ⟨l, hl, entries, hentries, h⟩ := h
    obtain rfl := Except.ok.inj h
    exact hsequence l hl entries hentries

lemma loaded_ofFields {fields : List (String × PyValue F)} (h : ∀ e ∈ fields, e.2.Loaded) :
    (ofEntries (PyValue.entriesOf fields)).Loaded := by
  refine PyValue.loadedEntries_nil.insertAll fun e he => ?_
  obtain ⟨field, hfield, rfl⟩ := List.mem_map.1 he
  exact h field hfield

/-- The dictionary could have been read from JSON itself. -/
structure Plain (d : PyDict F) : Prop where
  loaded : d.Loaded
  keys : ∀ e ∈ d.entries, ∃ s, e.1 = .str s

lemma plain_empty : (empty : PyDict F).Plain := ⟨loaded_empty, fun _ h => absurd h List.not_mem_nil⟩

lemma Plain.set {d : PyDict F} (h : d.Plain) (name : String) {v : PyValue F} (hv : v.Loaded) :
    (d.set name v).Plain where
  loaded := h.loaded.set name hv
  keys e he := by
    rcases (PyValue.mem_insert he).1 with hkey | ⟨e', he', hkey⟩
    · exact ⟨name, hkey⟩
    · exact hkey ▸ h.keys e' he'

lemma Plain.value {d : PyDict F} (h : d.Plain) : d.value.Loaded := by
  have hread : ∀ l : List (PyKey F × PyValue F), PyValue.LoadedEntries l →
      (∀ e ∈ l, ∃ s, e.1 = .str s) → ∃ fields, Json.loadsEntries fields = l := by
    intro l
    induction l with
    | nil => exact fun _ _ => ⟨[], rfl⟩
    | cons e l ih =>
      intro hl hkeys
      obtain ⟨fields, rfl⟩ := ih (fun e he => hl e (List.mem_cons_of_mem _ he))
        fun e he => hkeys e (List.mem_cons_of_mem _ he)
      obtain ⟨s, hs⟩ := hkeys e List.mem_cons_self
      obtain ⟨j, hj⟩ := hl e List.mem_cons_self
      exact ⟨(s, j) :: fields, by rw [Json.loadsEntries, ← hs, ← hj]⟩
  obtain ⟨fields, hfields⟩ := hread d.entries h.loaded h.keys
  refine ⟨.obj fields, ?_⟩
  rw [Json.loads, hfields, PyValue.insertAll_of_nodup d.distinct]
  rfl

end PyDict

end EcommerceAgent.Lib
