/-
# Key-value stores with joined keys

A store maps keys to values; a pipeline of writes is executed from the left, so that the last write
to a key wins.  Keys are often made from several parts with a separator between them; such a key
determines its parts when none of them contains the separator.
-/
import Mathlib.Tactic.Common
import Mathlib.Data.List.Induction
import Mathlib.Logic.Function.Basic

namespace EcommerceAgent.Lib.KeyValue

section Pipeline

variable {κ ν ι : Type*} [DecidableEq κ]

/-- Write the value of every item under its key. -/
def writeAll (key : ι → κ) (value : ι → ν) (store : κ → Option ν) (items : List ι) : κ → Option ν :=
  items.foldl (fun store x => Function.update store (key x) (some (value x))) store

/-- The last item with the key `k`. -/
def lastWrite (key : ι → κ) (items : List ι) (k : κ) : Option ι :=
  items.reverse.find? fun x => key x = k

variable {key : ι → κ} {value : ι → ν} {store : κ → Option ν} {items : List ι} {k : κ}

/-- After the writes a key holds the value of the last item written under it. -/
lemma writeAll_apply (items : List ι) (k : κ) :
    writeAll key value store items k = ((lastWrite key items k).map value).or (store k) := by
  induction items using List.reverseRecOn with
  | nil => rfl
  | append_singleton items x ih =>
    rw [writeAll, List.foldl_append, List.foldl_cons, List.foldl_nil]
    rw [lastWrite, List.reverse_append, List.reverse_singleton, List.singleton_append]
    by_cases hk : key x = k
    · rw [← hk, Function.update_self, List.find?_cons_of_pos (by simp)]
      rfl
    · rw [Function.update_of_ne (Ne.symm hk), List.find?_cons_of_neg (by simpa using hk)]
      exact ih

lemma lastWrite_eq_some {x : ι} (h : lastWrite key items k = some x) :
    x ∈ items ∧ key x = k := by
  refine ⟨List.mem_reverse.mp (List.mem_of_find?_eq_some h), ?_⟩
  simpa using List.find?_some h

/-- A key that some item has is written. -/
lemma lastWrite_isSome {x : ι} (hx : x ∈ items) : (lastWrite key items (key x)).isSome := by
  rw [lastWrite, List.find?_isSome]
  exact ⟨x, List.mem_reverse.mpr hx, by simp⟩

/-- A key that no item has is not written. -/
lemma lastWrite_eq_none (h : ∀ x ∈ items, key x ≠ k) : lastWrite key items k = none := by
  rw [lastWrite, List.find?_eq_none]
  intro x hx
  simpa using h x (List.mem_reverse.mp hx)

end Pipeline

section Joined

variable {α : Type*}

/-- The parts with the separator between them. -/
def join (sep : α) : List (List α) → List α
  | [] => []
  | [part] => part
  | part :: parts => part ++ sep :: join sep parts

lemma join_cons {sep : α} (part : List α) {parts : List (List α)} (h : parts ≠ []) :
    join sep (part :: parts) = part ++ sep :: join sep parts := by
  cases parts with
  | nil => exact absurd rfl h
  | cons next rest => rfl

/-- A text is cut at its first separator in one way only. -/
lemma append_sep_inj {sep : α} {a a' b b' : List α} (ha : sep ∉ a) (ha' : sep ∉ a')
    (h : a ++ sep :: b = a' ++ sep :: b') : a = a' ∧ b = b' := by
  induction a generalizing a' with
  | nil =>
    cases a' with
    | nil => simpa using h
    | cons y ys =>
      have hy : sep = y := by simpa using congrArg List.head? h
      exact absurd (by simp [hy]) ha'
  | cons x xs ih =>
    cases a' with
    | nil =>
      have hx : x = sep := by simpa using congrArg List.head? h
      exact absurd (by simp [hx]) ha
    | cons y ys =>
      obtain ⟨rfl, htail⟩ := List.cons_eq_cons.mp h
      obtain ⟨hparts, hrest⟩ := ih (List.not_mem_of_not_mem_cons ha)
        (List.not_mem_of_not_mem_cons ha') htail
      exact ⟨by rw [hparts], hrest⟩

/-- Keys of equally many parts without separator are equal only when their parts are. -/
lemma join_inj {sep : α} {xs ys : List (List α)} (hlength : xs.length = ys.length)
    (hxs : ∀ x ∈ xs, sep ∉ x) (hys : ∀ y ∈ ys, sep ∉ y) (h : join sep xs = join sep ys) :
    xs = ys := by
  induction xs generalizing ys with
  | nil => exact (List.length_eq_zero_iff.mp hlength.symm).symm
  | cons x xs ih =>
    cases ys with
    | nil => cases hlength
    | cons y ys =>
      have hlength' : xs.length = ys.length := by simpa using hlength
      cases xs with
      | nil =>
        obtain rfl := List.length_eq_zero_iff.mp hlength'.symm
        exact congrArg (fun z => [z]) h
      | cons x' xs =>
        have hnonempty : ys ≠ [] := by
          rintro rfl
          cases hlength'
        rw [join_cons x (List.cons_ne_nil _ _), join_cons y hnonempty] at h
        obtain ⟨rfl, hrest⟩ := append_sep_inj (hxs x (by simp)) (hys y (by simp)) h
        rw [ih hlength' (fun z hz => hxs z (List.mem_cons_of_mem _ hz))
          (fun z hz => hys z (List.mem_cons_of_mem _ hz)) hrest]

end Joined

end EcommerceAgent.Lib.KeyValue
