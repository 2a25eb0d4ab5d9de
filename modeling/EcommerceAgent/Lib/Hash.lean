/-
# Hashes

A hash of a key-value server maps fields to values.  The server lists the fields of a hash in an
order of its own, so only what is said about every order of the items can be relied on.
-/
import EcommerceAgent.Lib.KeyValue
import Mathlib.Data.List.Sort
import Mathlib.Data.List.Nodup

namespace EcommerceAgent.Lib

/-- A list of items with different fields. -/
structure Hash (κ ν : Type*) where
  items : List (κ × ν)
  nodup : (items.map Prod.fst).Nodup

namespace Hash

variable {κ ν : Type*}

/-- The hash without fields. -/
def empty : Hash κ ν := ⟨[], List.nodup_nil⟩

variable [DecidableEq κ]

/-- `HGET`. -/
def hget (h : Hash κ ν) (field : κ) : Option ν :=
  (h.items.find? fun item => item.1 = field).map Prod.snd

/-- `HEXISTS`. -/
def hexists (h : Hash κ ν) (field : κ) : Bool := (h.hget field).isSome

/-- `HSET` of one field. -/
def hset (h : Hash κ ν) (item : κ × ν) : Hash κ ν where
  items := h.items.filter (fun old => old.1 ≠ item.1) ++ [item]
  nodup := by
    rw [List.map_append, List.map_singleton]
    refine List.nodup_append.mpr ⟨h.nodup.sublist (List.filter_sublist.map _), by simp, ?_⟩
    intro field hfield other hother
    obtain ⟨old, hold, rfl⟩ := List.mem_map.mp hfield
    obtain rfl := List.mem_singleton.mp hother
    exact of_decide_eq_true (List.mem_filter.mp hold).2

variable (h : Hash κ ν)

@[simp] lemma hget_empty (field : κ) : (empty : Hash κ ν).hget field = none := rfl

/-- The items of a hash are the fields with their values. -/
lemma mem_items_iff {field : κ} {value : ν} :
    (field, value) ∈ h.items ↔ h.hget field = some value := by
  constructor
  · intro hmem
    have hsome : (h.items.find? fun item => item.1 = field).isSome :=
      List.find?_isSome.mpr ⟨_, hmem, by simp⟩
    obtain ⟨item, hitem⟩ := Option.isSome_iff_exists.mp hsome
    have hfield : item.1 = field := by simpa using List.find?_some hitem
    have heq : item = (field, value) :=
      List.inj_on_of_nodup_map h.nodup (List.mem_of_find?_eq_some hitem) hmem hfield
    rw [hget, hitem, heq]
    rfl
  · intro hget
    obtain ⟨item, hitem, rfl⟩ := Option.map_eq_some_iff.mp hget
    have hfield : item.1 = field := by simpa using List.find?_some hitem
    rw [← hfield]
    exact List.mem_of_find?_eq_some hitem

/-- A field that is set has the new value, the others keep theirs. -/
lemma hget_hset (item : κ × ν) :
    (h.hset item).hget = Function.update h.hget item.1 (some item.2) := by
  funext field
  by_cases hfield : field = item.1
  · rw [hfield, Function.update_self]
    exact (mem_items_iff _).mp (List.mem_append_right _ (List.mem_singleton_self _))
  · rw [Function.update_of_ne hfield]
    refine Option.ext fun value => ?_
    rw [← mem_items_iff, ← mem_items_iff, hset, List.mem_append, List.mem_filter,
      List.mem_singleton]
    constructor
    · rintro (⟨hmem, -⟩ | rfl)
      · exact hmem
      · exact absurd rfl hfield
    · exact fun hmem => .inl ⟨hmem, by simpa using hfield⟩

/-- A pipeline of `HSET`s. -/
lemma hget_foldl_hset (items : List (κ × ν)) :
    (items.foldl hset h).hget = KeyValue.writeAll Prod.fst Prod.snd h.hget items := by
  induction items generalizing h with
  | nil => rfl
  | cons item items ih => rw [List.foldl_cons, ih, hget_hset]; rfl

/-- Hashes with the same values under their fields list the same items. -/
lemma items_perm {h h' : Hash κ ν} (heq : h.hget = h'.hget) : h.items.Perm h'.items := by
  refine (List.perm_ext_iff_of_nodup h.nodup.of_map h'.nodup.of_map).mpr fun item => ?_
  obtain ⟨field, value⟩ := item
  rw [mem_items_iff, mem_items_iff, heq]

/-- Fields that are set one after the other, no field twice. -/
lemma hget_foldl_hset_nodup {items : List (κ × ν)} (hnodup : (items.map Prod.fst).Nodup)
    (field : κ) : (items.foldl hset h).hget field =
      ((⟨items, hnodup⟩ : Hash κ ν).hget field).or (h.hget field) := by
  rw [hget_foldl_hset, KeyValue.writeAll_apply]
  congr 1
  refine Option.ext fun value => ?_
  rw [← mem_items_iff, Option.map_eq_some_iff]
  constructor
  · rintro ⟨item, hitem, rfl⟩
    obtain ⟨hmem, rfl⟩ := KeyValue.lastWrite_eq_some hitem
    exact hmem
  · intro hmem
    have hsome : (KeyValue.lastWrite Prod.fst items field).isSome :=
      KeyValue.lastWrite_isSome hmem
    obtain ⟨item, hitem⟩ := Option.isSome_iff_exists.mp hsome
    obtain ⟨hitemMem, hfield⟩ := KeyValue.lastWrite_eq_some hitem
    have heq : item = (field, value) :=
      List.inj_on_of_nodup_map hnodup hitemMem hmem hfield
    exact ⟨item, hitem, by rw [heq]⟩

section Map

variable {μ : Type*}

/-- The hash with every value translated. -/
def map (g : ν → μ) (h : Hash κ ν) : Hash κ μ where
  items := h.items.map fun item => (item.1, g item.2)
  nodup := by
    rw [List.map_map]
    exact h.nodup

@[simp] lemma hget_map (g : ν → μ) (field : κ) : (h.map g).hget field = (h.hget field).map g := by
  rw [hget, map, List.find?_map, Option.map_map, hget, Option.map_map]
  rfl

/-- The hash without the fields that do not pass. -/
def filterFields (p : κ → Bool) (h : Hash κ ν) : Hash κ ν where
  items := h.items.filter fun item => p item.1
  nodup := h.nodup.sublist (List.filter_sublist.map _)

lemma hget_filterFields (p : κ → Bool) (field : κ) :
    (h.filterFields p).hget field = if p field then h.hget field else none := by
  refine Option.ext fun value => ?_
  rw [← mem_items_iff, filterFields, List.mem_filter]
  by_cases hp : p field = true
  · simp [hp, mem_items_iff]
  · simp [hp]

end Map

end Hash

end EcommerceAgent.Lib
