/-
# Acyclic relations

A relation without cycles, and the order in which finitely many things that depend on each other
can be done.
-/
import Mathlib.Order.Extension.Linear
import Mathlib.Data.List.Sort
import Mathlib.Logic.Relation

namespace EcommerceAgent.Lib

variable {α ι : Type*} {r r' : ι → ι → Prop}

/-- Nothing comes before itself. -/
def Acyclic (r : ι → ι → Prop) : Prop := ∀ x, ¬Relation.TransGen r x x

lemma Acyclic.mono (h : Acyclic r') (hr : ∀ x y, r x y → r' x y) : Acyclic r :=
  fun x hx => h x (Relation.TransGen.mono hr x x hx)

/-- A relation that goes up in rank is acyclic. -/
lemma acyclic_of_rank (rank : ι → ℕ) (h : ∀ x y, r x y → rank x < rank y) : Acyclic r := by
  have hlt : ∀ x y, Relation.TransGen r x y → rank x < rank y := by
    intro x y hxy
    induction hxy with
    | single hxy => exact h _ _ hxy
    | tail _ hyz ih => exact ih.trans (h _ _ hyz)
  exact fun x hx => lt_irrefl _ (hlt x x hx)

/-- The things that are named by `name` can be ordered such that nothing comes before what it
depends on. -/
theorem Acyclic.exists_order (h : Acyclic r) (name : α → ι) (l : List α) :
    ∃ order : List α, order.Perm l ∧ order.Pairwise fun a b => ¬r (name b) (name a) := by
  classical
  -- the order is a linear extension of reachability, which is antisymmetric
  have hantisymm : ∀ x y, Relation.ReflTransGen r x y → Relation.ReflTransGen r y x → x = y := by
    intro x y hxy hyx
    rcases Relation.reflTransGen_iff_eq_or_transGen.1 hxy with rfl | hxy
    · rfl
    · exact absurd (hxy.trans_left hyx) (h x)
  have : IsPartialOrder ι (Relation.ReflTransGen r) :=
    { refl := fun _ => .refl
      trans := fun _ _ _ => .trans
      antisymm := hantisymm }
  obtain ⟨s, hs, hle⟩ := extend_partialOrder (Relation.ReflTransGen r)
  let before : α → α → Prop := fun a b => s (name a) (name b)
  have : Std.Total before := ⟨fun a b => hs.total (name a) (name b)⟩
  have : IsTrans α before := ⟨fun a b c => hs.trans (name a) (name b) (name c)⟩
  refine ⟨l.insertionSort before, l.perm_insertionSort before, ?_⟩
  refine (l.pairwise_insertionSort before).imp fun {a b} hab hba => ?_
  have heq : name a = name b := hs.antisymm _ _ hab (hle _ _ (.single hba))
  exact h (name b) (.single (heq ▸ hba))

end EcommerceAgent.Lib
