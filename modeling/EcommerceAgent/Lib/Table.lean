/-
# Keyed tables

A table is a list of rows with a primary key, a function of the row.  The statements are the ones
of MySQL: `INSERT`, `INSERT IGNORE`, `INSERT … ON DUPLICATE KEY UPDATE` and `UPDATE … WHERE`.
-/
import Mathlib.Tactic.Common
import Mathlib.Data.List.Basic
import Mathlib.Data.List.Nodup

namespace EcommerceAgent.Lib.Table

variable {ρ κ : Type*} [DecidableEq κ] (key : ρ → κ)

/-- A row with the key `k` is stored. -/
def HasKey (table : List ρ) (k : κ) : Prop := ∃ r ∈ table, key r = k

instance (table : List ρ) (k : κ) : Decidable (HasKey key table k) :=
  inferInstanceAs (Decidable (∃ r ∈ table, key r = k))

/-- `INSERT`: `none` is the duplicate-entry error. -/
def insert (row : ρ) (table : List ρ) : Option (List ρ) :=
  if HasKey key table (key row) then none else some (table ++ [row])

/-- `INSERT IGNORE`. -/
def insertIgnore (row : ρ) (table : List ρ) : List ρ :=
  if HasKey key table (key row) then table else table ++ [row]

/-- `INSERT … ON DUPLICATE KEY UPDATE`: `update old new` is the row that replaces `old`. -/
def upsert (update : ρ → ρ → ρ) (row : ρ) (table : List ρ) : List ρ :=
  if HasKey key table (key row) then
    table.map fun old => if key old = key row then update old row else old
  else table ++ [row]

/-- `UPDATE … SET … WHERE p`. -/
def updateWhere (p : ρ → Bool) (f : ρ → ρ) (table : List ρ) : List ρ :=
  table.map fun row => if p row then f row else row

/-- Where the key is unique, a lookup by it finds the row that has it. -/
lemma find?_key_eq_some_iff {table : List ρ} (hunique : (table.map key).Nodup) {k : κ} {row : ρ} :
    table.find? (fun r => key r = k) = some row ↔ row ∈ table ∧ key row = k := by
  constructor
  · intro h
    exact ⟨List.mem_of_find?_eq_some h, by simpa using List.find?_some h⟩
  · rintro ⟨hrow, hkey⟩
    cases hfind : table.find? (fun r => key r = k) with
    | none => exact absurd hkey (by simpa using List.find?_eq_none.mp hfind row hrow)
    | some found =>
      have hfound : key found = k := by simpa using List.find?_some hfind
      rw [List.inj_on_of_nodup_map hunique (List.mem_of_find?_eq_some hfind) hrow
        (hfound.trans hkey.symm)]

/-- A lookup by columns that the update does not set finds the row it found before, updated. -/
lemma find?_updateWhere {p q : ρ → Bool} {f : ρ → ρ} (hq : ∀ row, q (f row) = q row)
    (table : List ρ) :
    (updateWhere p f table).find? q =
      (table.find? q).map fun row => if p row then f row else row := by
  have hcomp : (q ∘ fun row => if p row then f row else row) = q := by
    funext row
    by_cases hp : p row = true
    · simp [hp, hq]
    · simp [hp]
  rw [updateWhere, List.find?_map, hcomp]

/-- Selecting by columns that the update does not set commutes with the update. -/
lemma filter_updateWhere {p q : ρ → Bool} {f : ρ → ρ} (hq : ∀ row, q (f row) = q row)
    (table : List ρ) :
    (updateWhere p f table).filter q =
      (table.filter q).map fun row => if p row then f row else row := by
  have hcomp : (q ∘ fun row => if p row then f row else row) = q := by
    funext row
    by_cases hp : p row = true
    · simp [hp, hq]
    · simp [hp]
  rw [updateWhere, List.filter_map, hcomp]

/-- Selecting rows that the update leaves alone. -/
lemma filter_updateWhere_of_forall {p q : ρ → Bool} {f : ρ → ρ} (hq : ∀ row, q (f row) = false)
    (table : List ρ) :
    (updateWhere p f table).filter q = (table.filter q).filter fun row => !p row := by
  induction table with
  | nil => rfl
  | cons row table ih =>
    rw [updateWhere] at ih ⊢
    rw [List.map_cons, List.filter_cons, ih, List.filter_cons]
    by_cases hrow : q row = true
    · by_cases hp : p row = true
      · simp [hp, hq, hrow]
      · simp [hp, hrow]
    · by_cases hp : p row = true
      · simp [hp, hq, hrow]
      · simp [hp, hrow]

/-- An update that changes no selected row once more. -/
lemma updateWhere_updateWhere {p : ρ → Bool} {f g : ρ → ρ}
    (hp : ∀ row, p row = true → p (f row) = true) (hg : ∀ row, p row = true → g (f row) = f row)
    (table : List ρ) : updateWhere p g (updateWhere p f table) = updateWhere p f table := by
  rw [updateWhere, updateWhere, List.map_map]
  refine List.map_congr_left fun row _ => ?_
  by_cases hrow : p row = true
  · simp [hrow, hp row hrow, hg row hrow]
  · simp [hrow]

/-- An update without a row to change. -/
lemma updateWhere_of_forall {p : ρ → Bool} {f : ρ → ρ} {table : List ρ}
    (h : ∀ row ∈ table, p row = true → f row = row) : updateWhere p f table = table := by
  refine (List.map_congr_left fun row hrow => ?_).trans (List.map_id _)
  by_cases hp : p row = true
  · simp [hp, h row hrow hp]
  · simp [hp]

omit [DecidableEq κ] in
/-- An update that does not set the key. -/
lemma map_key_updateWhere {p : ρ → Bool} {f : ρ → ρ} (hf : ∀ row, key (f row) = key row)
    (table : List ρ) : (updateWhere p f table).map key = table.map key := by
  rw [updateWhere, List.map_map]
  refine List.map_congr_left fun row _ => ?_
  by_cases hrow : p row = true
  · simp [hrow, hf]
  · simp [hrow]

variable {row : ρ} {table table' : List ρ} {update : ρ → ρ → ρ}

/-- An upsert keeps the keys distinct. -/
lemma nodup_upsert (hupdate : ∀ old, key (update old row) = key old) (h : (table.map key).Nodup) :
    ((upsert key update row table).map key).Nodup := by
  unfold upsert
  split
  · have hkeys := map_key_updateWhere key (p := fun old => decide (key old = key row))
      (f := fun old => update old row) hupdate table
    rw [updateWhere] at hkeys
    simp only [decide_eq_true_eq] at hkeys
    rwa [hkeys]
  · rename_i hnew
    rw [List.map_append, List.map_singleton, List.nodup_append]
    refine ⟨h, List.pairwise_singleton _ _, fun k hk k' hk' heq => hnew ?_⟩
    obtain ⟨r, hr, rfl⟩ := List.mem_map.mp hk
    exact ⟨r, hr, heq.trans (List.mem_singleton.mp hk')⟩

/-- An `INSERT` that goes through appends the row. -/
lemma insert_eq_some :
    insert key row table = some table' ↔
      ¬ HasKey key table (key row) ∧ table' = table ++ [row] := by
  unfold insert
  split
  · rename_i h
    simp [h]
  · rename_i h
    simp [h, eq_comm]

/-- A row of an `INSERT IGNORE` is an old one or the new one. -/
lemma mem_insertIgnore {r : ρ} (h : r ∈ insertIgnore key row table) : r ∈ table ∨ r = row := by
  unfold insertIgnore at h
  split at h
  · exact .inl h
  · simpa using h

/-- An `INSERT IGNORE` removes no row. -/
lemma subset_insertIgnore {r : ρ} (h : r ∈ table) : r ∈ insertIgnore key row table := by
  unfold insertIgnore
  split
  · exact h
  · exact List.mem_append_left _ h

/-- After an `INSERT IGNORE` some row has the key of the new one. -/
lemma hasKey_insertIgnore (row : ρ) (table : List ρ) :
    HasKey key (insertIgnore key row table) (key row) := by
  unfold insertIgnore
  split
  · rename_i h
    exact h
  · exact ⟨row, by simp, rfl⟩

/-- A row that an upsert leaves under another key was there before. -/
lemma mem_of_mem_upsert (hupdate : ∀ old, key old = key row → key (update old row) = key row)
    {r : ρ} (h : r ∈ upsert key update row table) (hr : key r ≠ key row) : r ∈ table := by
  unfold upsert at h
  split at h
  · obtain ⟨old, hold, rfl⟩ := List.mem_map.1 h
    split at hr
    · rename_i hkey
      exact absurd (hupdate old hkey) hr
    · rename_i hkey
      simpa [hkey] using hold
  · rcases List.mem_append.1 h with h | h
    · exact h
    · rw [List.mem_singleton.1 h] at hr
      exact absurd rfl hr

/-- An upsert leaves the rows of every other key alone. -/
lemma filter_upsert (hupdate : ∀ old, key old = key row → key (update old row) = key row)
    {k : κ} (hk : k ≠ key row) :
    (upsert key update row table).filter (key · = k) = table.filter (key · = k) := by
  unfold upsert
  split
  · rw [List.filter_map]
    have hpred : ∀ old ∈ table, ((fun r => decide (key r = k)) ∘
        fun old => if key old = key row then update old row else old) old =
          decide (key old = k) := by
      intro old _
      by_cases h : key old = key row
      · simp [h, hupdate old h]
      · simp [h]
    rw [List.filter_congr hpred]
    refine (List.map_congr_left ?_).trans (List.map_id _)
    intro old hold
    have hold : key old = k := by simpa using (List.mem_filter.1 hold).2
    simp [hold, hk]
  · simp [hk.symm]

end EcommerceAgent.Lib.Table
