/-
# Calls that raise

When a sequence of calls of `Except` ends well.
-/
import Mathlib.Tactic.Common
import Mathlib.Data.List.Forall2

namespace EcommerceAgent.Lib

variable {ε ε' α β : Type}

lemma ok_bind (a : α) (f : α → Except ε β) : (Except.ok a >>= f) = f a := rfl

lemma bind_eq_ok {x : Except ε α} {f : α → Except ε β} {r : β} :
    (x >>= f) = .ok r ↔ ∃ a, x = .ok a ∧ f a = .ok r := by
  cases x <;> simp [bind, Except.bind]

lemma mapError_eq_ok {x : Except ε α} {f : ε → ε'} {r : α} : x.mapError f = .ok r ↔ x = .ok r := by
  cases x <;> simp [Except.mapError]

/-- A loop ends well if every call does. -/
lemma mapM_eq_ok {f : α → Except ε β} {l : List α} {r : List β} :
    l.mapM f = .ok r ↔ List.Forall₂ (fun a b => f a = .ok b) l r := by
  induction l generalizing r with
  | nil =>
    rw [List.mapM_nil, List.forall₂_nil_left_iff]
    exact ⟨fun h => (Except.ok.inj h).symm, fun h => h ▸ rfl⟩
  | cons a l ih =>
    simp only [List.mapM_cons, bind_eq_ok, List.forall₂_cons_left_iff, ← ih]
    constructor
    · rintro ⟨b, hb, r', hr', h⟩
      exact ⟨b, r', hb, hr', (Except.ok.inj h).symm⟩
    · rintro ⟨b, r', hb, hr', rfl⟩
      exact ⟨b, hb, r', hr', rfl⟩

lemma exists_of_mem_mapM {f : α → Except ε β} {l : List α} {r : List β} (h : l.mapM f = .ok r)
    {b : β} (hb : b ∈ r) : ∃ a ∈ l, f a = .ok b := by
  induction mapM_eq_ok.1 h with
  | nil => exact absurd hb List.not_mem_nil
  | @cons a _ l r hab hrest ih =>
    rcases List.mem_cons.1 hb with rfl | hb
    · exact ⟨a, List.mem_cons_self, hab⟩
    · obtain ⟨a', ha', h⟩ := ih (mapM_eq_ok.2 hrest) hb
      exact ⟨a', List.mem_cons_of_mem _ ha', h⟩

lemma mapM_ok {f : α → Except ε β} {g : α → β} {l : List α} (h : ∀ a ∈ l, f a = .ok (g a)) :
    l.mapM f = .ok (l.map g) := by
  rw [mapM_eq_ok, List.forall₂_map_right_iff, List.forall₂_same]
  exact h

end EcommerceAgent.Lib
