/-
# Batches of upserts

A table with a primary key is filled by `INSERT … ON DUPLICATE KEY UPDATE`: a row whose key is
stored already changes some columns of the stored row, any other row is appended.  The same
operation, with an update that replaces the whole row, is an assignment to an entry of a Python
dictionary.  This file collects what a batch of such statements does to a single row, to the rows of
one owner, and to the sum of a column.
-/
import Mathlib.Tactic.Common
import Mathlib.Data.List.Basic
import Mathlib.Data.List.Induction
import Mathlib.Data.List.Nodup
import Mathlib.Algebra.BigOperators.Group.List.Basic
import Mathlib.Tactic.Abel

namespace EcommerceAgent.Lib

/-- The primary key of a table, and what `ON DUPLICATE KEY UPDATE` makes of the stored row and the
new one. -/
structure Schema (ρ κ : Type*) where
  key : ρ → κ
  update : ρ → ρ → ρ
  key_update : ∀ old new, key (update old new) = key old

namespace Schema

variable {ρ κ : Type*}

/-- The primary key is unique. -/
def Keyed (S : Schema ρ κ) (rows : List ρ) : Prop := (rows.map S.key).Nodup

lemma keyed_nil (S : Schema ρ κ) : S.Keyed [] := List.nodup_nil

/-- Two stored rows with one key are the same row. -/
lemma Keyed.eq_of_key {S : Schema ρ κ} {rows : List ρ} {x y : ρ} (h : S.Keyed rows) (hx : x ∈ rows)
    (hy : y ∈ rows) (hkey : S.key x = S.key y) : x = y :=
  List.inj_on_of_nodup_map h hx hy hkey

variable [DecidableEq κ]

/-- A Python dictionary: an entry keeps its place and gets the new value. -/
def dict (key : ρ → κ) : Schema ρ κ where
  key := key
  update old new := if key new = key old then new else old
  key_update old new := by
    by_cases h : key new = key old
    · rw [if_pos h, h]
    · rw [if_neg h]

variable (S : Schema ρ κ)

instance (rows : List ρ) : Decidable (S.Keyed rows) := inferInstanceAs (Decidable (List.Nodup _))

/-- One statement. -/
def upsert (row : ρ) : List ρ → List ρ
  | [] => [row]
  | old :: rest =>
    if S.key old = S.key row then S.update old row :: rest else old :: upsert row rest

/-- `executemany`. -/
def upsertAll (batch rows : List ρ) : List ρ := batch.foldl (fun rows row => S.upsert row rows) rows

variable {S} {row old : ρ} {rows batch : List ρ}

@[simp] lemma upsertAll_nil (rows : List ρ) : S.upsertAll [] rows = rows := rfl

@[simp] lemma upsertAll_cons (row : ρ) (batch rows : List ρ) :
    S.upsertAll (row :: batch) rows = S.upsertAll batch (S.upsert row rows) := rfl

lemma upsertAll_append (batch batch' rows : List ρ) :
    S.upsertAll (batch ++ batch') rows = S.upsertAll batch' (S.upsertAll batch rows) :=
  List.foldl_append

/-! ### Keys -/

/-- A statement with a stored key keeps all keys in place. -/
lemma map_key_upsert_of_mem (h : S.key row ∈ rows.map S.key) :
    (S.upsert row rows).map S.key = rows.map S.key := by
  induction rows with
  | nil => cases h
  | cons old rest ih =>
    by_cases hold : S.key old = S.key row
    · rw [upsert, if_pos hold, List.map_cons, List.map_cons, S.key_update]
    · have hrest : S.key row ∈ rest.map S.key := by
        rcases List.mem_cons.mp h with heq | hrest
        · exact absurd heq.symm hold
        · exact hrest
      rw [upsert, if_neg hold, List.map_cons, ih hrest, List.map_cons]

/-- A statement with a new key appends its row. -/
lemma upsert_of_notMem (h : S.key row ∉ rows.map S.key) : S.upsert row rows = rows ++ [row] := by
  induction rows with
  | nil => rfl
  | cons old rest ih =>
    rw [List.map_cons, List.mem_cons, not_or] at h
    rw [upsert, if_neg (Ne.symm h.1), ih h.2, List.cons_append]

lemma mem_keys_upsert {k : κ} :
    k ∈ (S.upsert row rows).map S.key ↔ k ∈ rows.map S.key ∨ k = S.key row := by
  by_cases h : S.key row ∈ rows.map S.key
  · rw [map_key_upsert_of_mem h]
    exact ⟨.inl, fun hk => hk.elim id fun heq => heq ▸ h⟩
  · rw [upsert_of_notMem h, List.map_append, List.mem_append, List.map_singleton,
      List.mem_singleton]

lemma mem_keys_upsertAll {k : κ} :
    k ∈ (S.upsertAll batch rows).map S.key ↔ k ∈ rows.map S.key ∨ k ∈ batch.map S.key := by
  induction batch generalizing rows with
  | nil => simp
  | cons row batch ih =>
    rw [upsertAll_cons, ih, mem_keys_upsert, List.map_cons, List.mem_cons, or_assoc]

/-- A batch appends the new keys in the order of their first rows. -/
lemma find?_keys_upsertAll (p : κ → Bool) :
    ((S.upsertAll batch rows).map S.key).find? p = (rows.map S.key ++ batch.map S.key).find? p := by
  induction batch generalizing rows with
  | nil => rw [upsertAll_nil, List.map_nil, List.append_nil]
  | cons row batch ih =>
    rw [upsertAll_cons, ih, List.map_cons]
    by_cases hmem : S.key row ∈ rows.map S.key
    · rw [map_key_upsert_of_mem hmem, List.find?_append, List.find?_append, List.find?_cons]
      cases hfind : (rows.map S.key).find? p with
      | some k => rfl
      | none =>
        have hrow : p (S.key row) = false := by
          simpa using List.find?_eq_none.mp hfind _ hmem
        rw [hrow]
    · rw [upsert_of_notMem hmem, List.map_append, List.map_singleton, List.append_assoc,
        List.singleton_append]

lemma Keyed.upsert (h : S.Keyed rows) (row : ρ) : S.Keyed (S.upsert row rows) := by
  by_cases hmem : S.key row ∈ rows.map S.key
  · rw [Keyed, map_key_upsert_of_mem hmem]
    exact h
  · rw [Keyed, upsert_of_notMem hmem, List.map_append, List.map_singleton, List.nodup_append]
    refine ⟨h, List.nodup_singleton _, fun k hk l hl => ?_⟩
    rw [List.mem_singleton.mp hl]
    rintro rfl
    exact hmem hk

lemma Keyed.upsertAll (h : S.Keyed rows) (batch : List ρ) : S.Keyed (S.upsertAll batch rows) := by
  induction batch generalizing rows with
  | nil => exact h
  | cons row batch ih => exact ih (h.upsert row)

/-! ### Single rows -/

/-- A statement leaves the rows with other keys alone. -/
lemma mem_upsert_of_ne (hold : old ∈ rows) (hkey : S.key old ≠ S.key row) :
    old ∈ S.upsert row rows := by
  induction rows with
  | nil => cases hold
  | cons x rest ih =>
    rw [upsert]
    rcases List.mem_cons.mp hold with rfl | hrest
    · rw [if_neg hkey]
      exact List.mem_cons_self
    · split
      · exact List.mem_cons_of_mem _ hrest
      · exact List.mem_cons_of_mem _ (ih hrest)

/-- A statement updates the row with its key. -/
lemma update_mem_upsert (h : S.Keyed rows) (hold : old ∈ rows) (hkey : S.key old = S.key row) :
    S.update old row ∈ S.upsert row rows := by
  induction rows with
  | nil => cases hold
  | cons x rest ih =>
    have hnodup := List.nodup_cons.mp h
    rw [upsert]
    rcases List.mem_cons.mp hold with rfl | hrest
    · rw [if_pos hkey]
      exact List.mem_cons_self
    · have hx : S.key x ≠ S.key row := fun heq =>
        hnodup.1 (heq.trans hkey.symm ▸ List.mem_map_of_mem hrest)
      rw [if_neg hx]
      exact List.mem_cons_of_mem _ (ih hnodup.2 hrest)

/-- A batch updates a row with all its rows of the same key, one after the other. -/
lemma foldl_mem_upsertAll (h : S.Keyed rows) (hold : old ∈ rows) :
    (batch.filter (S.key · = S.key old)).foldl S.update old ∈ S.upsertAll batch rows := by
  induction batch generalizing rows old with
  | nil => exact hold
  | cons row batch ih =>
    rw [upsertAll_cons]
    by_cases hkey : S.key row = S.key old
    · have hmem := ih (h.upsert row) (update_mem_upsert h hold hkey.symm)
      rw [S.key_update] at hmem
      rw [List.filter_cons_of_pos (by simpa using hkey)]
      exact hmem
    · rw [List.filter_cons_of_neg (by simpa using hkey)]
      exact ih (h.upsert row) (mem_upsert_of_ne hold (Ne.symm hkey))

/-- A stored row was stored before, is the new one, or was updated. -/
lemma mem_upsert_cases {x : ρ} (hx : x ∈ S.upsert row rows) :
    x ∈ rows ∨ x = row ∨ ∃ old ∈ rows, S.key old = S.key row ∧ x = S.update old row := by
  induction rows with
  | nil => exact .inr (.inl (List.mem_singleton.mp hx))
  | cons old rest ih =>
    rw [upsert] at hx
    split at hx
    · rename_i hkey
      rcases List.mem_cons.mp hx with rfl | hrest
      · exact .inr (.inr ⟨old, List.mem_cons_self, hkey, rfl⟩)
      · exact .inl (List.mem_cons_of_mem _ hrest)
    · rcases List.mem_cons.mp hx with rfl | hrest
      · exact .inl List.mem_cons_self
      · rcases ih hrest with h | h | ⟨old', hold, hkey, rfl⟩
        · exact .inl (List.mem_cons_of_mem _ h)
        · exact .inr (.inl h)
        · exact .inr (.inr ⟨old', List.mem_cons_of_mem _ hold, hkey, rfl⟩)

/-- A dictionary holds some of the entries that it was assigned. -/
lemma mem_of_mem_dict {key : ρ → κ} {x : ρ} (h : x ∈ (dict key).upsertAll batch rows) :
    x ∈ rows ∨ x ∈ batch := by
  induction batch generalizing rows with
  | nil => exact .inl h
  | cons row batch ih =>
    rcases ih h with hrows | hbatch
    · rcases mem_upsert_cases hrows with hold | rfl | ⟨old, hold, hkey, rfl⟩
      · exact .inl hold
      · exact .inr List.mem_cons_self
      · have hupdate : (dict key).update old row = row := if_pos hkey.symm
        rw [hupdate]
        exact .inr List.mem_cons_self
    · exact .inr (List.mem_cons_of_mem _ hbatch)

/-! ### Rows that one batch creates and another one meets -/

/-- The columns `view` are those that an update replaces, and the last update decides about them. -/
structure LastWrite {δ : Type*} (S : Schema ρ κ) (view : ρ → δ) : Prop where
  view_update : ∀ old new, view (S.update old new) = view new
  update_update : ∀ old first second, S.update (S.update old first) second = S.update old second
  update_eq : ∀ old new, S.update old new = old ↔ view new = view old

section LastWrite

variable {δ : Type*} {view : ρ → δ}

/-- The last row of a batch with a key. -/
def lastWith (S : Schema ρ κ) (k : κ) (batch : List ρ) : Option ρ :=
  (batch.filter (S.key · = k)).getLast?

omit [DecidableEq κ] in
/-- A series of updates leaves a row as it is exactly when the last one writes the columns it has.
-/
lemma LastWrite.foldl_eq (h : S.LastWrite view) (old : ρ) (updates : List ρ) :
    updates.foldl S.update old = old ↔ ∀ last ∈ updates.getLast?, view last = view old := by
  have hlast : ∀ (updates : List ρ) old last,
      S.update (updates.foldl S.update old) last = S.update old last := by
    intro updates
    induction updates with
    | nil => exact fun _ _ => rfl
    | cons first updates ih =>
      intro old last
      rw [List.foldl_cons, ih, h.update_update]
  rcases List.eq_nil_or_concat updates with rfl | ⟨front, last, rfl⟩
  · simp
  · rw [List.concat_eq_append, List.foldl_append, List.foldl_cons, List.foldl_nil, hlast,
      h.update_eq, List.getLast?_concat]
    simp

/-- A batch keeps a stored row as it is exactly when its last row with the key writes the columns
that the row has. -/
lemma LastWrite.mem_upsertAll_iff (h : S.LastWrite view) (hkeyed : S.Keyed rows)
    (hold : old ∈ rows) : old ∈ S.upsertAll batch rows ↔
      ∀ last ∈ S.lastWith (S.key old) batch, view last = view old := by
  have hkey : ∀ updates : List ρ, S.key (updates.foldl S.update old) = S.key old := by
    intro updates
    induction updates using List.reverseRecOn with
    | nil => rfl
    | append_singleton front last ih => rw [List.foldl_append, List.foldl_cons, List.foldl_nil,
        S.key_update, ih]
  have hmem : (batch.filter (S.key · = S.key old)).foldl S.update old ∈ S.upsertAll batch rows :=
    foldl_mem_upsertAll hkeyed hold
  rw [lastWith, ← h.foldl_eq]
  constructor
  · intro hstays
    exact (hkeyed.upsertAll batch).eq_of_key hmem hstays (hkey _)
  · intro heq
    rwa [heq] at hmem

/-- A row that a batch creates has the columns of the batch's last row with its key. -/
lemma LastWrite.view_created (h : S.LastWrite view) (hkeyed : S.Keyed rows)
    (hnew : S.key row ∉ rows.map S.key) (hrow : row ∈ S.upsertAll batch rows) :
    (S.lastWith (S.key row) batch).map view = some (view row) := by
  induction batch using List.reverseRecOn generalizing row with
  | nil => exact absurd (List.mem_map_of_mem hrow) hnew
  | append_singleton front last ih =>
    rw [upsertAll_append, upsertAll_cons, upsertAll_nil] at hrow
    have hfront : S.Keyed (S.upsertAll front rows) := hkeyed.upsertAll front
    by_cases hkey : S.key last = S.key row
    · have hlast : S.lastWith (S.key row) (front ++ [last]) = some last := by
        rw [lastWith, List.filter_append, List.filter_cons_of_pos (by simpa using hkey),
          List.filter_nil, List.getLast?_concat]
      rw [hlast, Option.map_some]
      rcases mem_upsert_cases hrow with hbefore | rfl | ⟨old, -, -, rfl⟩
      · have hupdate := update_mem_upsert hfront hbefore hkey.symm
        have hsame := (hfront.upsert last).eq_of_key hupdate hrow (S.key_update row last)
        rw [← hsame, h.view_update]
      · rfl
      · rw [h.view_update]
    · have hlast : S.lastWith (S.key row) (front ++ [last]) = S.lastWith (S.key row) front := by
        rw [lastWith, lastWith, List.filter_append, List.filter_cons_of_neg (by simpa using hkey),
          List.filter_nil, List.append_nil]
      rw [hlast]
      rcases mem_upsert_cases hrow with hbefore | rfl | ⟨old, -, hold, rfl⟩
      · exact ih hnew hbefore
      · exact absurd rfl hkey
      · exact absurd (hold.symm.trans (S.key_update old last).symm) hkey

/-- The rows with keys in `p` that one batch creates survive a second batch exactly when for each of
these keys the last rows of the two batches have the same columns. -/
theorem LastWrite.created_stay_iff (h : S.LastWrite view) (hkeyed : S.Keyed rows) (p : κ → Prop)
    (batch second : List ρ) :
    (∀ row ∈ S.upsertAll batch rows, S.key row ∉ rows.map S.key → p (S.key row) →
      row ∈ S.upsertAll second (S.upsertAll batch rows)) ↔
    ∀ k ∉ rows.map S.key, p k → ∀ a ∈ S.lastWith k batch, ∀ b ∈ S.lastWith k second,
      view b = view a := by
  have hbatch : S.Keyed (S.upsertAll batch rows) := hkeyed.upsertAll batch
  constructor
  · intro hstay k hk hp a ha b hb
    have hfilter := List.mem_filter.mp (List.mem_of_mem_getLast? ha)
    have hka : S.key a = k := by simpa using hfilter.2
    have hkeys : k ∈ (S.upsertAll batch rows).map S.key :=
      mem_keys_upsertAll.mpr (.inr (hka ▸ List.mem_map_of_mem hfilter.1))
    obtain ⟨row, hrow, rfl⟩ := List.mem_map.mp hkeys
    have hview := h.view_created hkeyed hk hrow
    rw [Option.mem_def.mp ha, Option.map_some, Option.some_inj] at hview
    rw [hview]
    exact (h.mem_upsertAll_iff hbatch hrow).mp (hstay row hrow hk hp) b hb
  · intro hlast row hrow hk hp
    rw [h.mem_upsertAll_iff hbatch hrow]
    intro b hb
    obtain ⟨a, ha, hview⟩ := Option.map_eq_some_iff.mp (h.view_created hkeyed hk hrow)
    rw [← hview]
    exact hlast _ hk hp a ha b hb

end LastWrite

/-! ### The rows of one owner -/

section Owner

variable {ω : Type*} [DecidableEq ω] {owner : ρ → ω} {o : ω}

/-- A batch without the owner's rows, and without keys of the owner's rows, leaves the owner's rows
alone; a statement of the owner does to the owner's rows what it does to them alone. -/
lemma filter_upsert (howner : ∀ old new, owner (S.update old new) = owner old)
    (hkeys : ∀ old ∈ rows, S.key old = S.key row → owner old = owner row) :
    (S.upsert row rows).filter (owner · = o) =
      if owner row = o then S.upsert row (rows.filter (owner · = o))
      else rows.filter (owner · = o) := by
  induction rows with
  | nil => by_cases ho : owner row = o <;> simp [upsert, ho]
  | cons x rest ih =>
    have ih := ih fun old hold => hkeys old (List.mem_cons_of_mem _ hold)
    by_cases hx : S.key x = S.key row
    · have hsame : owner x = owner row := hkeys x List.mem_cons_self hx
      rw [upsert, if_pos hx]
      by_cases ho : owner row = o
      · have hold : owner x = o := hsame.trans ho
        rw [if_pos ho, List.filter_cons_of_pos (by simpa using (howner x row).trans hold),
          List.filter_cons_of_pos (by simpa using hold), upsert, if_pos hx]
      · have hold : owner x ≠ o := fun h => ho (hsame.symm.trans h)
        rw [if_neg ho, List.filter_cons_of_neg (by simpa [howner] using hold),
          List.filter_cons_of_neg (by simpa using hold)]
    · rw [upsert, if_neg hx]
      by_cases hold : owner x = o
      · rw [List.filter_cons_of_pos (by simpa using hold), ih,
          List.filter_cons_of_pos (by simpa using hold)]
        split
        · rw [upsert, if_neg hx]
        · rfl
      · rw [List.filter_cons_of_neg (by simpa using hold), ih,
          List.filter_cons_of_neg (by simpa using hold)]

/-- Where no two rows of different owners share a key, every owner's rows are those of its own
statements. -/
lemma filter_upsertAll (howner : ∀ old new, owner (S.update old new) = owner old)
    (hrows : ∀ x ∈ rows, ∀ y ∈ batch, S.key x = S.key y → owner x = owner y)
    (hbatch : ∀ x ∈ batch, ∀ y ∈ batch, S.key x = S.key y → owner x = owner y) :
    (S.upsertAll batch rows).filter (owner · = o) =
      S.upsertAll (batch.filter (owner · = o)) (rows.filter (owner · = o)) := by
  induction batch generalizing rows with
  | nil => rfl
  | cons row batch ih =>
    have hrow : ∀ x ∈ S.upsert row rows, ∀ y ∈ batch, S.key x = S.key y → owner x = owner y := by
      intro x hx y hy hkey
      have hy' := List.mem_cons_of_mem row hy
      rcases mem_upsert_cases hx with hold | rfl | ⟨old, hold, -, rfl⟩
      · exact hrows x hold y hy' hkey
      · exact hbatch x List.mem_cons_self y hy' hkey
      · rw [howner]
        exact hrows old hold y hy' ((S.key_update old row).symm.trans hkey)
    have htail := ih hrow fun x hx y hy =>
      hbatch x (List.mem_cons_of_mem _ hx) y (List.mem_cons_of_mem _ hy)
    rw [upsertAll_cons, htail,
      filter_upsert howner fun old hold hkey => hrows old hold row List.mem_cons_self hkey]
    by_cases ho : owner row = o
    · rw [if_pos ho, List.filter_cons_of_pos (by simpa using ho), upsertAll_cons]
    · rw [if_neg ho, List.filter_cons_of_neg (by simpa using ho)]

/-- The owners of a table filled by one batch are independent of each other exactly when no two of
its rows with different owners share a key. -/
theorem filter_upsertAll_iff (howner : ∀ old new, owner (S.update old new) = owner old) :
    (∀ o, (S.upsertAll batch []).filter (owner · = o) =
      S.upsertAll (batch.filter (owner · = o)) []) ↔
    ∀ x ∈ batch, ∀ y ∈ batch, S.key x = S.key y → owner x = owner y := by
  constructor
  · intro h x hx y hy hkey
    have hstored : ∀ z ∈ batch, ∃ r ∈ S.upsertAll batch [], S.key r = S.key z ∧
        owner r = owner z := by
      intro z hz
      have hmem : S.key z ∈ (S.upsertAll (batch.filter (owner · = owner z)) []).map S.key := by
        rw [mem_keys_upsertAll]
        exact .inr (List.mem_map_of_mem (List.mem_filter.mpr ⟨hz, by simp⟩))
      obtain ⟨r, hr, hkeyr⟩ := List.mem_map.mp hmem
      rw [← h (owner z), List.mem_filter] at hr
      exact ⟨r, hr.1, hkeyr, by simpa using hr.2⟩
    obtain ⟨r, hr, hrkey, hrowner⟩ := hstored x hx
    obtain ⟨t, ht, htkey, htowner⟩ := hstored y hy
    have hkeyed : S.Keyed (S.upsertAll batch []) := S.keyed_nil.upsertAll batch
    obtain rfl := hkeyed.eq_of_key hr ht (hrkey.trans (hkey.trans htkey.symm))
    exact hrowner.symm.trans htowner
  · intro h o
    exact filter_upsertAll howner (fun x hx => by cases hx) h

/-! ### Sums of a column -/

section Sum

variable {M : Type*} [AddCommGroup M] (owner) (o) (value : ρ → M)

/-- The sum of a column over the rows of an owner. -/
def ownedSum (rows : List ρ) : M := ((rows.filter (owner · = o)).map value).sum

/-- The key belongs to a row of another owner. -/
def Taken (S : Schema ρ κ) (rows : List ρ) (k : κ) : Prop :=
  ∃ old ∈ rows, S.key old = k ∧ owner old ≠ o

instance (rows : List ρ) (k : κ) : Decidable (S.Taken owner o rows k) :=
  inferInstanceAs (Decidable (∃ old ∈ rows, _))

/-- The rows of a batch that do not stay: their key comes again later in the batch, or it is
taken. -/
def lost (S : Schema ρ κ) (rows : List ρ) : List ρ → List ρ
  | [] => []
  | row :: batch =>
    if S.key row ∈ batch.map S.key ∨ S.Taken owner o rows (S.key row) then
      row :: lost S rows batch
    else lost S rows batch

/-- The sum of a column over the rows of an owner whose keys have the property `p`. -/
def sumWhere (S : Schema ρ κ) (p : κ → Prop) [DecidablePred p] (rows : List ρ) : M :=
  (rows.map fun x => if owner x = o ∧ p (S.key x) then value x else 0).sum

variable {owner} {o} {value}

omit [DecidableEq κ] in
@[simp] lemma sumWhere_cons (p : κ → Prop) [DecidablePred p] (x : ρ) (rows : List ρ) :
    sumWhere owner o value S p (x :: rows) =
      (if owner x = o ∧ p (S.key x) then value x else 0) + sumWhere owner o value S p rows := by
  rw [sumWhere, List.map_cons, List.sum_cons, ← sumWhere]

omit [DecidableEq κ] in
lemma ownedSum_eq_sumWhere (rows : List ρ) :
    ownedSum owner o value rows = sumWhere owner o value S (fun _ => True) rows := by
  induction rows with
  | nil => rfl
  | cons x rest ih =>
    rw [sumWhere_cons, ← ih, ownedSum, ownedSum]
    by_cases ho : owner x = o
    · rw [List.filter_cons_of_pos (by simpa using ho), if_pos ⟨ho, trivial⟩, List.map_cons,
        List.sum_cons]
    · rw [List.filter_cons_of_neg (by simpa using ho), if_neg fun h => ho h.1, zero_add]

omit [DecidableEq κ] in
lemma sumWhere_congr {p q : κ → Prop} [DecidablePred p] [DecidablePred q]
    (h : ∀ x ∈ rows, p (S.key x) ↔ q (S.key x)) :
    sumWhere owner o value S p rows = sumWhere owner o value S q rows := by
  rw [sumWhere, sumWhere]
  congr 1
  refine List.map_congr_left fun x hx => ?_
  simp only [h x hx]

omit [DecidableEq κ] in
lemma sumWhere_of_none (h : ∀ x ∈ rows, owner x ≠ o) (p : κ → Prop) [DecidablePred p] :
    sumWhere owner o value S p rows = 0 := by
  induction rows with
  | nil => rfl
  | cons x rest ih =>
    rw [sumWhere_cons, if_neg fun hand => h x List.mem_cons_self hand.1, zero_add]
    exact ih fun y hy => h y (List.mem_cons_of_mem _ hy)

/-- What one statement of the owner adds: the value of its row, unless the key is taken. -/
lemma sumWhere_upsert (howner : ∀ old new, owner (S.update old new) = owner old)
    (hvalue : ∀ old new, S.key old = S.key new → value (S.update old new) = value new)
    (h : S.Keyed rows)
    (ho : owner row = o) (p : κ → Prop) [DecidablePred p] :
    sumWhere owner o value S p (S.upsert row rows) =
      sumWhere owner o value S (fun k => p k ∧ k ≠ S.key row) rows +
        if p (S.key row) ∧ ¬ S.Taken owner o rows (S.key row) then value row else 0 := by
  induction rows with
  | nil => simp [upsert, sumWhere, Taken, ho]
  | cons x rest ih =>
    obtain ⟨hx, hrest⟩ := List.nodup_cons.mp h
    by_cases hkey : S.key x = S.key row
    · have hnot : ∀ y ∈ rest, S.key y ≠ S.key row := fun y hy heq =>
        hx (hkey.trans heq.symm ▸ List.mem_map_of_mem hy)
      have htaken : S.Taken owner o (x :: rest) (S.key row) ↔ owner x ≠ o := by
        constructor
        · rintro ⟨old, hold, hk, hne⟩
          rcases List.mem_cons.mp hold with rfl | hold
          · exact hne
          · exact absurd hk (hnot old hold)
        · exact fun hne => ⟨x, List.mem_cons_self, hkey, hne⟩
      have hsame : sumWhere owner o value S p rest =
          sumWhere owner o value S (fun k => p k ∧ k ≠ S.key row) rest :=
        sumWhere_congr fun y hy => ⟨fun hp => ⟨hp, hnot y hy⟩, And.left⟩
      rw [upsert, if_pos hkey, sumWhere_cons, sumWhere_cons, hsame, howner, hvalue x row hkey,
        S.key_update]
      by_cases hox : owner x = o
      · by_cases hp : p (S.key row) <;> simp [htaken, hox, hkey, hp, add_comm]
      · simp [htaken, hox]
    · have htaken : S.Taken owner o (x :: rest) (S.key row) ↔
          S.Taken owner o rest (S.key row) := by
        constructor
        · rintro ⟨old, hold, hk, hne⟩
          rcases List.mem_cons.mp hold with rfl | hold
          · exact absurd hk hkey
          · exact ⟨old, hold, hk, hne⟩
        · rintro ⟨old, hold, hk, hne⟩
          exact ⟨old, List.mem_cons_of_mem _ hold, hk, hne⟩
      rw [upsert, if_neg hkey, sumWhere_cons, sumWhere_cons, ih hrest]
      simp only [htaken, hkey, ne_eq, not_false_eq_true, and_true, add_assoc]

omit [DecidableEq ω] in
/-- A statement of the owner takes no key. -/
lemma taken_upsert (howner : ∀ old new, owner (S.update old new) = owner old) (h : S.Keyed rows)
    (ho : owner row = o) (k : κ) :
    S.Taken owner o (S.upsert row rows) k ↔ S.Taken owner o rows k := by
  constructor
  · rintro ⟨x, hx, hk, hne⟩
    rcases mem_upsert_cases hx with hold | rfl | ⟨old, hold, -, rfl⟩
    · exact ⟨x, hold, hk, hne⟩
    · exact absurd ho hne
    · exact ⟨old, hold, (S.key_update old row).symm.trans hk, howner old row ▸ hne⟩
  · rintro ⟨x, hx, hk, hne⟩
    by_cases hkey : S.key x = S.key row
    · exact ⟨S.update x row, update_mem_upsert h hx hkey, (S.key_update x row).trans hk,
        (howner x row).symm ▸ hne⟩
    · exact ⟨x, mem_upsert_of_ne hx hkey, hk, hne⟩

lemma lost_congr {rows' : List ρ} (h : ∀ k, S.Taken owner o rows k ↔ S.Taken owner o rows' k)
    (batch : List ρ) : lost owner o S rows batch = lost owner o S rows' batch := by
  induction batch with
  | nil => rfl
  | cons row batch ih => simp only [lost, h, ih]

/-- The rows of a batch that do not stay are what its sum lacks in the table. -/
lemma sumWhere_upsertAll (howner : ∀ old new, owner (S.update old new) = owner old)
    (hvalue : ∀ old new, S.key old = S.key new → value (S.update old new) = value new)
    (h : S.Keyed rows)
    (ho : ∀ row ∈ batch, owner row = o) :
    sumWhere owner o value S (fun _ => True) (S.upsertAll batch rows) +
        ((lost owner o S rows batch).map value).sum =
      (batch.map value).sum + sumWhere owner o value S (· ∉ batch.map S.key) rows := by
  induction batch generalizing rows with
  | nil => simp [lost]
  | cons row batch ih =>
    have hrow : owner row = o := ho row List.mem_cons_self
    have ih := ih (h.upsert row) fun x hx => ho x (List.mem_cons_of_mem _ hx)
    have hlost : lost owner o S (S.upsert row rows) batch = lost owner o S rows batch :=
      lost_congr (taken_upsert howner h hrow) batch
    have hrest : sumWhere owner o value S
        (fun k => k ∉ batch.map S.key ∧ k ≠ S.key row) rows =
        sumWhere owner o value S (· ∉ (row :: batch).map S.key) rows :=
      sumWhere_congr fun x _ => by
        rw [List.map_cons, List.mem_cons, not_or, and_comm]
    rw [sumWhere_upsert howner hvalue h hrow, hrest, hlost] at ih
    rw [upsertAll_cons, List.map_cons, List.sum_cons, lost]
    by_cases hstays : S.key row ∈ batch.map S.key ∨ S.Taken owner o rows (S.key row)
    · rw [if_neg (by tauto), add_zero] at ih
      rw [if_pos hstays, List.map_cons, List.sum_cons, add_left_comm, ih, add_assoc]
    · rw [not_or] at hstays
      rw [if_pos hstays] at ih
      rw [if_neg (not_or.mpr hstays), ih]
      abel

/-- In a table without rows of the owner, a batch of the owner's rows leaves a column with the sum
of the batch, less the rows that do not stay. -/
theorem ownedSum_upsertAll (howner : ∀ old new, owner (S.update old new) = owner old)
    (hvalue : ∀ old new, S.key old = S.key new → value (S.update old new) = value new)
    (h : S.Keyed rows) (hnone : ∀ old ∈ rows, owner old ≠ o) (ho : ∀ row ∈ batch, owner row = o) :
    ownedSum owner o value (S.upsertAll batch rows) + ((lost owner o S rows batch).map value).sum =
      (batch.map value).sum := by
  have hsum := sumWhere_upsertAll howner hvalue h ho
  rwa [sumWhere_of_none hnone, add_zero, ← ownedSum_eq_sumWhere] at hsum

end Sum

end Owner

end Schema

end EcommerceAgent.Lib
