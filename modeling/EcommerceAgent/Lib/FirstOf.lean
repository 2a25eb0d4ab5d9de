/-
# The first row of each key

A loop that keeps a row when its key has not been seen.  The kept rows have distinct keys, every row
has its key among them, from a place that is not behind its own, and leaving out all rows of a key
leaves out the kept row of this key.
-/
import Mathlib.Tactic.Common
import Mathlib.Data.List.Nodup

namespace EcommerceAgent.Lib

variable {ρ κ : Type*} [DecidableEq κ] (key : ρ → κ)

/-- The rows whose keys are new; `seen` are the keys before. -/
def firstOf (seen : List κ) : List ρ → List ρ
  | [] => []
  | r :: l => if key r ∈ seen then firstOf seen l else r :: firstOf (key r :: seen) l

variable {key} {seen seen' : List κ} {l : List ρ} {r : ρ}

/-- Only the set of the seen keys matters. -/
lemma firstOf_congr (h : ∀ k, k ∈ seen ↔ k ∈ seen') (l : List ρ) :
    firstOf key seen l = firstOf key seen' l := by
  induction l generalizing seen seen' with
  | nil => rfl
  | cons r l ih =>
    have hcons : ∀ k, k ∈ key r :: seen ↔ k ∈ key r :: seen' := fun k => by
      rw [List.mem_cons, List.mem_cons, h k]
    simp only [firstOf, h (key r), ih h, ih hcons]

lemma firstOf_sublist : (firstOf key seen l).Sublist l := by
  induction l generalizing seen with
  | nil => exact .slnil
  | cons r l ih =>
    rw [firstOf]
    split_ifs
    · exact ih.cons r
    · exact ih.cons_cons r

lemma key_notMem_of_mem (h : r ∈ firstOf key seen l) : key r ∉ seen := by
  induction l generalizing seen with
  | nil => cases h
  | cons r' l ih =>
    rw [firstOf] at h
    split_ifs at h with hseen
    · exact ih h
    · rcases List.mem_cons.mp h with rfl | hrest
      · exact hseen
      · exact fun hmem => ih hrest (List.mem_cons_of_mem _ hmem)

/-- The kept rows have distinct keys. -/
theorem nodup_firstOf : ((firstOf key seen l).map key).Nodup := by
  induction l generalizing seen with
  | nil => exact List.nodup_nil
  | cons r l ih =>
    rw [firstOf]
    split_ifs with hseen
    · exact ih
    · rw [List.map_cons, List.nodup_cons]
      refine ⟨fun hmem => ?_, ih⟩
      obtain ⟨r', hr', hkey⟩ := List.mem_map.mp hmem
      exact key_notMem_of_mem hr' (hkey ▸ List.mem_cons_self)

/-- A row whose key is new has it among the kept rows, and the kept row is the row itself or comes
before it. -/
theorem exists_firstOf {R : ρ → ρ → Prop} (hR : l.Pairwise R) (hr : r ∈ l) (hnew : key r ∉ seen) :
    ∃ r' ∈ firstOf key seen l, key r' = key r ∧ (r' = r ∨ R r' r) := by
  induction l generalizing seen with
  | nil => cases hr
  | cons first l ih =>
    obtain ⟨hfirst, hrest⟩ := List.pairwise_cons.mp hR
    rw [firstOf]
    by_cases hseen : key first ∈ seen
    · rw [if_pos hseen]
      rcases List.mem_cons.mp hr with rfl | hr
      · exact absurd hseen hnew
      · exact ih hrest hr hnew
    rw [if_neg hseen]
    by_cases hkey : key first = key r
    · refine ⟨first, List.mem_cons_self, hkey, ?_⟩
      rcases List.mem_cons.mp hr with rfl | hr
      · exact .inl rfl
      · exact .inr (hfirst r hr)
    · rcases List.mem_cons.mp hr with rfl | hr
      · exact absurd rfl hkey
      have hnew' : key r ∉ key first :: seen :=
        List.not_mem_cons_of_ne_of_not_mem (Ne.symm hkey) hnew
      obtain ⟨r', hr', h⟩ := ih hrest hr hnew'
      exact ⟨r', List.mem_cons_of_mem _ hr', h⟩

/-- A key that no row has does not matter. -/
lemma firstOf_cons_of_forall {k : κ} (h : ∀ r ∈ l, key r ≠ k) :
    firstOf key (k :: seen) l = firstOf key seen l := by
  induction l generalizing seen with
  | nil => rfl
  | cons r l ih =>
    obtain ⟨hr, hl⟩ := List.forall_mem_cons.mp h
    have hmem : key r ∈ k :: seen ↔ key r ∈ seen :=
      ⟨fun h => (List.mem_cons.mp h).resolve_left hr, List.mem_cons_of_mem _⟩
    have hswap : firstOf key (key r :: k :: seen) l = firstOf key (k :: key r :: seen) l :=
      firstOf_congr (fun k' => by simp only [List.mem_cons]; tauto) l
    simp only [firstOf, hmem, hswap, ih hl]

/-- Without the rows of a key the kept row of this key is missing, and no other. -/
theorem firstOf_filter_ne (k : κ) :
    firstOf key seen (l.filter (key · ≠ k)) = (firstOf key seen l).filter (key · ≠ k) := by
  induction l generalizing seen with
  | nil => rfl
  | cons r l ih =>
    by_cases hk : key r = k
    · have hdrop : ∀ l' : List ρ, (r :: l').filter (key · ≠ k) = l'.filter (key · ≠ k) :=
        fun l' => List.filter_cons_of_neg (by simp [hk])
      rw [hdrop, firstOf]
      split_ifs with hseen
      · exact ih
      · rw [hdrop, ← ih, hk, firstOf_cons_of_forall]
        exact fun r' hr' => of_decide_eq_true (List.mem_filter.mp hr').2
    · have hkeep : ∀ l' : List ρ, (r :: l').filter (key · ≠ k) = r :: l'.filter (key · ≠ k) :=
        fun l' => List.filter_cons_of_pos (by simp [hk])
      rw [hkeep, firstOf, firstOf]
      split_ifs with hseen
      · exact ih
      · rw [hkeep, ih]

end EcommerceAgent.Lib
