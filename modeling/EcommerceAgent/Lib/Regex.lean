/-
# Word patterns of `re`

The patterns that the database tools use search for a word between word boundaries, with or
without `re.IGNORECASE`.  Which characters beyond ASCII are alphanumeric or printable is left to
the Unicode tables of the interpreter.
-/
import EcommerceAgent.Lib.Text

namespace EcommerceAgent.Lib

/-- The Unicode tables behind `str.isalnum` and `str.isprintable`; on ASCII they are fixed. -/
structure Unicode where
  isAlnum : Char → Bool
  isPrintable : Char → Bool
  isAlnum_ascii : ∀ c, c.toNat < 128 → isAlnum c = c.isAlphanum
  isPrintable_ascii : ∀ c, c.toNat < 128 → isPrintable c = (32 ≤ c.toNat && c.toNat ≤ 126)

/-- Tables in which no character beyond ASCII is alphanumeric or printable. -/
def Unicode.asciiOnly : Unicode where
  isAlnum c := c.toNat < 128 && c.isAlphanum
  isPrintable c := 32 ≤ c.toNat && c.toNat ≤ 126
  isAlnum_ascii c h := by simp [h]
  isPrintable_ascii _ _ := rfl

namespace Regex

variable (u : Unicode)

/-- `\w`. -/
def isWord (c : Char) : Bool := u.isAlnum c || c == '_'

/-- `\b` between the characters `a` and `b`; `none` is an end of the text. -/
def isBoundary (a b : Option Char) : Bool := a.any (isWord u) != b.any (isWord u)

/-- The lower-case ASCII letter `p` of a pattern matches `c` under `re.IGNORECASE`; besides case
this equates the dotless i with i and the long s with s. -/
def sameIgnoringCase (p c : Char) : Bool :=
  Text.toLowerChar c == p || (p == 'i' && c.toNat == 0x131) || (p == 's' && c.toNat == 0x17F)

/-- The word stands at the beginning of the text and a boundary follows it. -/
def startsWithWord (same : Char → Char → Bool) (word text : List Char) : Bool :=
  let matched := text.take word.length
  matched.length == word.length && (word.zip matched).all (fun p => same p.1 p.2) &&
    isBoundary u matched.getLast? (text.drop word.length).head?

/-- `re.search(r"\bword\b", text)`, where `prev` is the character before the text. -/
def searchWord (same : Char → Char → Bool) (word : List Char) :
    Option Char → List Char → Bool
  | _, [] => false
  | prev, c :: cs =>
    (isBoundary u prev (some c) && startsWithWord u same word (c :: cs)) ||
      searchWord same word (some c) cs

/-! ### ASCII texts -/

variable {u}

lemma isWord_ascii {c : Char} (h : c.toNat < 128) : isWord u c = (c.isAlphanum || c == '_') := by
  simp [isWord, u.isAlnum_ascii c h]

/-- On ASCII characters the tables do not matter. -/
lemma isWord_congr (u u' : Unicode) {c : Char} (h : c.toNat < 128) : isWord u c = isWord u' c :=
  (isWord_ascii h).trans (isWord_ascii h).symm

lemma isBoundary_congr (u u' : Unicode) {a b : Option Char} (ha : ∀ c ∈ a, c.toNat < 128)
    (hb : ∀ c ∈ b, c.toNat < 128) : isBoundary u a b = isBoundary u' a b := by
  have hany : ∀ o : Option Char, (∀ c ∈ o, c.toNat < 128) →
      o.any (isWord u) = o.any (isWord u') := by
    intro o ho
    cases o with
    | none => rfl
    | some c => exact isWord_congr u u' (ho c rfl)
  unfold isBoundary
  rw [hany a ha, hany b hb]

lemma startsWithWord_congr (u u' : Unicode) (same : Char → Char → Bool) (word : List Char)
    {text : List Char} (h : ∀ c ∈ text, c.toNat < 128) :
    startsWithWord u same word text = startsWithWord u' same word text := by
  have hlast : ∀ c ∈ (text.take word.length).getLast?, c.toNat < 128 :=
    fun c hc => h c (List.mem_of_mem_take (List.mem_of_getLast? hc))
  have hhead : ∀ c ∈ (text.drop word.length).head?, c.toNat < 128 :=
    fun c hc => h c (List.mem_of_mem_drop (List.mem_of_head? hc))
  simp only [startsWithWord, isBoundary_congr u u' hlast hhead]

/-- Searching an ASCII text does not depend on the tables. -/
lemma searchWord_congr (u u' : Unicode) (same : Char → Char → Bool) (word : List Char)
    {prev : Option Char} {text : List Char} (hprev : ∀ c ∈ prev, c.toNat < 128)
    (h : ∀ c ∈ text, c.toNat < 128) :
    searchWord u same word prev text = searchWord u' same word prev text := by
  induction text generalizing prev with
  | nil => rfl
  | cons c cs ih =>
    have hc : ∀ d ∈ some c, d.toNat < 128 := by
      rintro d hd
      obtain rfl : c = d := Option.some.inj hd
      exact h c List.mem_cons_self
    simp only [searchWord]
    rw [isBoundary_congr u u' hprev hc, startsWithWord_congr u u' same word h,
      ih hc fun d hd => h d (List.mem_cons_of_mem _ hd)]

end Regex

end EcommerceAgent.Lib
