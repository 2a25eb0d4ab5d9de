/-
# Arithmetic of floats

What a computation with weights and bounds relies on: sums and products by a literal up to 100 are
monotone, quotients of integers are, a literal is compared with a quotient as the numbers are, and
the numbers are linearly ordered.  Nothing is exact, and NaN is below, above and equal to nothing.
All laws hold of IEEE doubles that are rounded to nearest.
-/
import EcommerceAgent.Lib.Hundredths
import Mathlib.Tactic.Linarith
import Mathlib.Algebra.Order.Ring.Int

namespace EcommerceAgent.Lib

/-- Floats with their comparisons and operations. -/
class PyFloat (F : Type) extends PyRuntime F where
  /-- `x < y`. -/
  lt : F → F → Bool
  /-- `x <= y`. -/
  le : F → F → Bool
  add : F → F → F
  mul : F → F → F
  /-- `n / m` for integers. -/
  ratio : ℤ → ℕ → F
  /-- `f"{x:.1f}"`. -/
  fixed : F → String
  /-- `f"{x:.1%}"`. -/
  percent : F → String
  IsFinite : F → Prop
  ofInt_zero : ∃ x : F, ofInt 0 = .ok x
  le_of_not_lt : ∀ {x y : F}, le x x = true → le y y = true → lt y x = false → le x y = true
  le_trans : ∀ {x y z : F}, le x y = true → le y z = true → le x z = true
  lt_of_le_of_lt : ∀ {x y z : F}, le x y = true → lt y z = true → lt x z = true
  le_of_lt : ∀ {x y : F}, lt x y = true → le x y = true
  le_self_of_finite : ∀ {x : F}, IsFinite x → le x x = true
  lt_hundredths : ∀ m n : ℕ, m ≤ 10000 → n ≤ 10000 →
    (lt (hundredths m) (hundredths n) = true ↔ m < n)
  finite_hundredths : ∀ n : ℕ, n ≤ 10000 → IsFinite (hundredths n)
  finite_ratio : ∀ (n : ℤ) (m : ℕ), 0 < m → |n| ≤ 100 * m → IsFinite (ratio n m)
  hundredths_le_ratio : ∀ (k : ℕ) (n : ℤ) (m : ℕ), 0 < m → |n| ≤ 100 * m → k * m ≤ 100 * n →
    le (hundredths k) (ratio n m) = true
  ratio_le_hundredths : ∀ (k : ℕ) (n : ℤ) (m : ℕ), 0 < m → |n| ≤ 100 * m → k ≤ 10000 →
    100 * n ≤ k * m → le (ratio n m) (hundredths k) = true
  ratio_le : ∀ (n n' : ℤ) (m m' : ℕ), 0 < m → 0 < m' → |n| ≤ 100 * m → |n'| ≤ 100 * m' →
    n * m' ≤ n' * m → le (ratio n m) (ratio n' m') = true
  finite_mul : ∀ {x : F} {c : ℕ}, IsFinite x → c ≤ 100 → IsFinite (mul x (hundredths c))
  mul_le : ∀ {x y : F} {c : ℕ}, 0 < c → c ≤ 100 → le x y = true →
    le (mul x (hundredths c)) (mul y (hundredths c)) = true
  add_le : ∀ {w x y z : F}, le w x = true → le y z = true → IsFinite y → IsFinite z →
    le (add w y) (add x z) = true
  /-- A weighted mean of two literals is above a literal that is clearly smaller. -/
  hundredths_le_weighted : ∀ k m n c d : ℕ, m ≤ 10000 → n ≤ 10000 → c ≤ 100 → d ≤ 100 →
    100 * (k + 2) ≤ m * c + n * d →
    le (hundredths k) (add (mul (hundredths m) (hundredths c)) (mul (hundredths n) (hundredths d)))
      = true
  /-- `x * 0.9 + 100 * 0.1` is not below `x`. -/
  le_weighted : ∀ {x : F}, le x (hundredths 10000) = true →
    le x (add (mul x (hundredths 90)) (mul (hundredths 10000) (hundredths 10))) = true

namespace PyFloat

variable {F : Type} [PyFloat F]

/-- The literal of an integer. -/
def lit (n : ℕ) : F := PyRuntime.hundredths (100 * n)

/-- `min(x, y)`. -/
def min (x y : F) : F := if lt y x then y else x

/-- `max(x, y)`. -/
def max (x y : F) : F := if lt x y then y else x

/-- `x * c + y * d` for numbers of hundredths. -/
def weigh (c : ℕ) (x : F) (d : ℕ) (y : F) : F :=
  add (mul x (PyRuntime.hundredths c)) (mul y (PyRuntime.hundredths d))

/-- `max(0, min(x, 100))`. -/
def clamp (x : F) : F := max (lit 0) (min x (lit 100))

lemma finite_lit {n : ℕ} (h : n ≤ 100) : IsFinite (lit n : F) :=
  finite_hundredths (100 * n) (by omega)

lemma le_lit_self {n : ℕ} (h : n ≤ 100) : le (lit n : F) (lit n) = true :=
  le_self_of_finite (finite_lit h)

lemma lt_lit {m n : ℕ} (hm : m ≤ 100) (hn : n ≤ 100) : lt (lit m : F) (lit n) = true ↔ m < n := by
  rw [lit, lit, lt_hundredths _ _ (by omega) (by omega)]
  omega

lemma lt_trans {x y z : F} (h : lt x y = true) (h' : lt y z = true) : lt x z = true :=
  lt_of_le_of_lt (le_of_lt h) h'

/-- A bound between 0 and 100 is missed by the clamped number if the number misses it. -/
lemma lt_clamp {x : F} (hx : le x x = true) {n : ℕ} (hn : 0 < n) (hn' : n ≤ 100) :
    lt (clamp x) (lit n) = true ↔ lt x (lit n) = true := by
  have h100 : ¬ lt (lit 100 : F) (lit n) = true := by
    rw [lt_lit le_rfl hn']
    omega
  have h0 : lt (lit 0 : F) (lit n) = true := (lt_lit (Nat.zero_le _) hn').2 hn
  have h0100 : lt (lit 0 : F) (lit 100) = true := (lt_lit (Nat.zero_le _) le_rfl).2 (by omega)
  by_cases hhigh : lt (lit 100) x = true
  · rw [clamp, min, if_pos hhigh, max, if_pos h0100]
    exact ⟨fun h => absurd h h100, fun h => absurd (lt_trans hhigh h) h100⟩
  · rw [clamp, min, if_neg hhigh, max]
    split
    · rfl
    · rename_i hlow
      refine ⟨fun _ => lt_of_le_of_lt (le_of_not_lt hx (le_lit_self (Nat.zero_le _)) ?_) h0,
        fun _ => h0⟩
      exact Bool.eq_false_iff.2 hlow

/-- A smaller number misses the bounds that the larger one misses. -/
lemma lt_clamp_mono {x y : F} (h : le x y = true) (hx : le x x = true) (hy : le y y = true) {n : ℕ}
    (hn : 0 < n) (hn' : n ≤ 100) (hlow : lt (clamp y) (lit n) = true) :
    lt (clamp x) (lit n) = true := by
  rw [lt_clamp hx hn hn']
  exact lt_of_le_of_lt h ((lt_clamp hy hn hn').1 hlow)

/-- A weighted sum is monotone. -/
lemma weigh_le {w x y z : F} {c d : ℕ} (hc : 0 < c) (hc' : c ≤ 100) (hd : 0 < d) (hd' : d ≤ 100)
    (hw : le w x = true) (hy : le y z = true) (hyf : IsFinite y) (hzf : IsFinite z) :
    le (weigh c w d y) (weigh c x d z) = true :=
  add_le (mul_le hc hc' hw) (mul_le hd hd' hy) (finite_mul hyf hd') (finite_mul hzf hd')

/-- A number that misses a bound together with a full score misses it alone. -/
lemma lt_of_lt_weigh {x y : F} {c d n : ℕ} (hc : 0 < c) (hc' : c ≤ 100) (hd : 0 < d)
    (hd' : d ≤ 100) (hn : n ≤ 100) (hslack : 100 * n + 2 ≤ n * c + 100 * d) (hx : le x x = true)
    (hy : IsFinite y) (hfull : le (lit 100) y = true) (h : lt (weigh c x d y) (lit n) = true) :
    lt x (lit n) = true := by
  by_contra hnot
  have hnx : le (lit n) x = true :=
    le_of_not_lt (le_lit_self hn) hx (Bool.eq_false_of_not_eq_true hnot)
  have hlit : le (lit n : F) (weigh c (lit n) d (lit 100)) = true :=
    hundredths_le_weighted (100 * n) (100 * n) (100 * 100) c d (by omega) le_rfl hc' hd'
      (by linarith)
  have hweigh : le (weigh c (lit n) d (lit 100)) (weigh c x d y) = true :=
    weigh_le hc hc' hd hd' hnx hfull (finite_lit le_rfl) hy
  have hlt : lt (lit n : F) (lit n) = true := lt_of_le_of_lt hlit (lt_of_le_of_lt hweigh h)
  exact lt_irrefl n ((lt_lit hn hn).1 hlt)

/-- A full score of little weight takes nothing away. -/
lemma le_weigh {x y : F} (hx : le x (lit 100) = true) (hself : le x x = true) (hy : IsFinite y)
    (hfull : le (lit 100) y = true) : le x (weigh 90 x 10 y) = true := by
  have hlit : le x (weigh 90 x 10 (lit 100)) = true := le_weighted hx
  refine le_trans hlit ?_
  exact weigh_le (by omega) (by omega) (by omega) (by omega) hself hfull (finite_lit le_rfl) hy

end PyFloat

namespace Hundredths

/-- Floats that round down to hundredths. -/
instance : PyFloat ℤ where
  lt x y := decide (x < y)
  le x y := decide (x ≤ y)
  add := (· + ·)
  mul x y := x * y / 100
  ratio n m := 100 * n / m
  fixed := text
  percent x := text (100 * x) ++ "%"
  IsFinite _ := True
  ofInt_zero := ⟨0, rfl⟩
  le_of_not_lt _ _ h := by simpa using h
  le_trans h h' := by
    simp only [decide_eq_true_eq] at *
    omega
  lt_of_le_of_lt h h' := by
    simp only [decide_eq_true_eq] at *
    omega
  le_of_lt h := by
    simp only [decide_eq_true_eq] at *
    omega
  le_self_of_finite _ := by simp
  lt_hundredths m n _ _ := by
    simp only [decide_eq_true_eq]
    exact Int.ofNat_lt
  finite_hundredths _ _ := trivial
  finite_ratio _ _ _ _ := trivial
  hundredths_le_ratio k n m hm _ h := by
    simp only [decide_eq_true_eq]
    exact (Int.le_ediv_iff_mul_le (by exact_mod_cast hm)).2 h
  ratio_le_hundredths k n m hm _ _ h := by
    simp only [decide_eq_true_eq]
    exact Int.ediv_le_of_le_mul (by exact_mod_cast hm) h
  ratio_le n n' m m' hm hm' _ _ h := by
    have hpos : (0 : ℤ) < m := by exact_mod_cast hm
    have hpos' : (0 : ℤ) < m' := by exact_mod_cast hm'
    simp only [decide_eq_true_eq]
    rw [Int.le_ediv_iff_mul_le hpos']
    have hfloor : 100 * n / m * m ≤ 100 * n := Int.ediv_mul_le _ hpos.ne'
    have hscaled : 100 * n / m * m' * m ≤ 100 * n' * m := by
      calc 100 * n / m * m' * m = 100 * n / m * m * m' := Int.mul_right_comm _ _ _
        _ ≤ 100 * n * m' := Int.mul_le_mul_of_nonneg_right hfloor hpos'.le
        _ ≤ 100 * n' * m := by linarith
    exact le_of_mul_le_mul_right hscaled hpos
  finite_mul _ _ := trivial
  mul_le hc _ h := by
    simp only [decide_eq_true_eq] at *
    refine Int.ediv_le_ediv (by omega) (Int.mul_le_mul_of_nonneg_right h ?_)
    exact Int.natCast_nonneg _
  add_le h h' _ _ := by
    simp only [decide_eq_true_eq] at *
    omega
  hundredths_le_weighted k m n c d _ _ _ _ h := by
    have hscaled : (100 : ℤ) * (k + 2) ≤ m * c + n * d := by exact_mod_cast h
    simp only [decide_eq_true_eq]
    show (k : ℤ) ≤ (m * c : ℤ) / 100 + (n * d : ℤ) / 100
    omega
  le_weighted h := by
    simp only [decide_eq_true_eq] at *
    show _ ≤ _ * (90 : ℤ) / 100 + (10000 : ℤ) * 10 / 100
    have : _ ≤ (10000 : ℤ) := h
    omega

end Hundredths

end EcommerceAgent.Lib
