/-
# Floats with two decimals

A runtime whose floats are numbers of hundredths and whose tables are those of ASCII, on which
concrete inputs can be evaluated.
-/
import EcommerceAgent.Lib.PyValue

namespace EcommerceAgent.Lib.Hundredths

/-- `repr(x)`. -/
def text (x : ℤ) : String :=
  (if x < 0 then "-" else "") ++ toString ((x.natAbs / 100 : ℕ) : ℤ) ++ "." ++
    toString (x.natAbs / 10 % 10) ++ if x.natAbs % 10 = 0 then "" else toString (x.natAbs % 10)

/-- The number that some digits stand for. -/
def digits (s : List Char) : Option ℕ :=
  if s ≠ [] ∧ s.all Char.isDigit then
    some (s.foldl (fun n c => 10 * n + (c.toNat - '0'.toNat)) 0)
  else none

/-- `int(text)`. -/
def int? (s : List Char) : Option ℤ :=
  match s with
  | '-' :: s => (digits s).map fun n => -n
  | s => (digits s).map fun n => n

/-- `float(text)` of a number with at most two decimals and no sign. -/
def float? (s : List Char) : Option ℤ :=
  match s.span (· != '.') with
  | (whole, []) => (digits whole).map fun n => 100 * n
  | (whole, _ :: decimals) =>
    if decimals.length ≤ 2 then do
      let n ← digits whole
      let m ← digits (decimals ++ List.replicate (2 - decimals.length) '0')
      return 100 * n + m
    else none

instance : PyRuntime ℤ where
  unicode := .asciiOnly
  lower s := String.ofList (s.toList.map Char.toLower)
  isDecimal := Char.isDigit
  sha256 s := String.ofList (s.toList.filter Char.isAlphanum)
  hundredths n := n
  isZero x := x == 0
  ofInt n := .ok (100 * n)
  ofText s := (float? s.toList).elim (.error "could not convert string to float") .ok
  toInt x := .ok (x.tdiv 100)
  intOfText s := (int? s.toList).elim (.error "invalid literal for int() with base 10") .ok
  repr := text
  jsonText := text
  sameInt x n := x == 100 * n
  same x y := x == y
  hundredths_ne n hn := by simp; omega
  repr_ne x := by simp [text]
  jsonText_digit x := by
    obtain ⟨c, hc, hdigit⟩ := PyKey.exists_digit ((x.natAbs / 100 : ℕ) : ℤ)
    refine .inr ⟨c, ?_, hdigit⟩
    simp only [text, String.toList_append, List.mem_append]
    exact .inl (.inl (.inl (.inr hc)))

end EcommerceAgent.Lib.Hundredths
