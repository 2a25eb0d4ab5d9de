/-
# Integers from texts

`int(text)` of Python: blanks around the number are cut, a sign may precede the digits, single
underscores may stand between them, and every decimal digit of Unicode counts.  Numbers with more
than 4300 digits are refused.
-/
import EcommerceAgent.Lib.Text

namespace EcommerceAgent.Lib

/-- The decimal digits of Unicode with their values.  No Chinese character is one. -/
structure Decimals where
  value : Char → Option ℕ
  value_lt : ∀ c d, value c = some d → d < 10
  value_ascii : ∀ c : Char, c.toNat < 128 →
    value c = if c.isDigit then some (c.toNat - '0'.toNat) else none
  value_han : ∀ c : Char, 0x4E00 ≤ c.toNat → c.toNat ≤ 0x9FFF → value c = none

namespace Decimals

/-- The digits of ASCII only. -/
def asciiOnly : Decimals where
  value c := if c.isDigit then some (c.toNat - '0'.toNat) else none
  value_lt c d h := by
    have hdigit : c.isDigit = true → c.toNat ≤ 57 := fun h => (Char.isDigit_iff_toNat.mp h).2
    split at h
    · next hc =>
      have hzero : '0'.toNat = 48 := rfl
      have := hdigit hc
      cases h
      omega
    · cases h
  value_ascii _ _ := rfl
  value_han c h _ := by
    have hdigit : c.isDigit = true → c.toNat ≤ 57 := fun h => (Char.isDigit_iff_toNat.mp h).2
    rw [if_neg fun hc => ?_]
    have := hdigit hc
    omega

variable (D : Decimals)

/-- The characters of the class `\\d`. -/
def isDecimal (c : Char) : Bool := (D.value c).isSome

/-- The longest number that `int` reads. -/
def maxStrDigits : ℕ := 4300

/-- The number that some digits stand for. -/
def number (digits : List Char) : ℕ :=
  digits.foldl (fun n c => 10 * n + (D.value c).getD 0) 0

/-- A number without sign. -/
def nat? (s : List Char) : Option ℕ :=
  let groups := s.splitOn '_'
  if groups.all (fun group => !group.isEmpty && group.all D.isDecimal) &&
      groups.flatten.length ≤ maxStrDigits then some (D.number groups.flatten)
  else none

/-- `int(text)`, or `none` for a `ValueError`. -/
def int? (s : List Char) : Option ℤ :=
  match Text.strip s with
  | '-' :: rest => (D.nat? rest).map fun n => -n
  | '+' :: rest => (D.nat? rest).map fun n => n
  | rest => (D.nat? rest).map fun n => n

/-! ### Numbers in canonical form -/

lemma isDigit_ascii {c : Char} (h : c.isDigit = true) : c.toNat < 128 := by
  have hnine : c.toNat ≤ 57 := (Char.isDigit_iff_toNat.mp h).2
  omega

lemma isSpace_of_isDigit {c : Char} (h : c.isDigit = true) : Text.isSpace c = false := by
  have hlow : 48 ≤ c.toNat := (Char.isDigit_iff_toNat.mp h).1
  have hhigh : c.toNat ≤ 57 := (Char.isDigit_iff_toNat.mp h).2
  simp [Text.isSpace]
  omega

lemma value_of_isDigit {c : Char} (h : c.isDigit = true) :
    D.value c = some (c.toNat - '0'.toNat) := by
  rw [D.value_ascii c (isDigit_ascii h), if_pos h]

lemma isDecimal_of_isDigit {c : Char} (h : c.isDigit = true) : D.isDecimal c = true := by
  rw [isDecimal, D.value_of_isDigit h]
  rfl

/-- The digits of a number are read back. -/
lemma number_toDigits (n : ℕ) : D.number (Nat.toDigits 10 n) = n := by
  have hfold : ∀ (l : List Char) (k : ℕ), (∀ c ∈ l, c.isDigit = true) →
      l.foldl (fun n c => 10 * n + (D.value c).getD 0) k = Nat.ofDigitChars 10 l k := by
    intro l
    induction l with
    | nil => exact fun k _ => Nat.ofDigitChars_nil.symm
    | cons c l ih =>
      intro k hl
      rw [List.foldl_cons, D.value_of_isDigit (hl c List.mem_cons_self), Nat.ofDigitChars_cons]
      exact ih _ fun c' hc' => hl c' (List.mem_cons_of_mem _ hc')
  rw [number, hfold _ _ fun c hc => Nat.isDigit_of_mem_toDigits (by omega) (by omega) hc]
  exact Nat.ofDigitChars_toDigits (by omega) (by omega)

lemma nat?_toDigits (n : ℕ) : D.nat? (Nat.toDigits 10 n) =
    if (Nat.toDigits 10 n).length ≤ maxStrDigits then some n else none := by
  have hsplit : (Nat.toDigits 10 n).splitOn '_' = [Nat.toDigits 10 n] := by
    refine List.splitOnP_eq_singleton fun c hc => ?_
    rw [beq_eq_false_iff_ne]
    rintro rfl
    exact Nat.underscore_not_in_toDigits hc
  have hall : (Nat.toDigits 10 n).all D.isDecimal = true := by
    rw [List.all_eq_true]
    exact fun c hc => D.isDecimal_of_isDigit (Nat.isDigit_of_mem_toDigits (by omega) (by omega) hc)
  rw [nat?, hsplit]
  simp [hall, Nat.toDigits_ne_nil, D.number_toDigits]

/-- `int` reads a number that has been printed, if it is not too long. -/
theorem int?_toDigits (n : ℕ) : D.int? (Nat.toDigits 10 n) =
    if (Nat.toDigits 10 n).length ≤ maxStrDigits then some (n : ℤ) else none := by
  have hdigits : ∀ c ∈ Nat.toDigits 10 n, c.isDigit = true :=
    fun c hc => Nat.isDigit_of_mem_toDigits (by omega) (by omega) hc
  have hstrip : Text.strip (Nat.toDigits 10 n) = Nat.toDigits 10 n :=
    Text.strip_of_forall fun c hc => isSpace_of_isDigit (hdigits c hc)
  have hnat := D.nat?_toDigits n
  rw [int?, hstrip]
  -- A digit is no sign.
  split
  · next hsign => exact absurd (hdigits '-' (hsign ▸ List.mem_cons_self)) (by decide)
  · next hsign => exact absurd (hdigits '+' (hsign ▸ List.mem_cons_self)) (by decide)
  · rw [hnat]
    split <;> rfl

end Decimals

end EcommerceAgent.Lib
