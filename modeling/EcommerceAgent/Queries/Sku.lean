/-
# Displayed SKUs

`display_sku` of `api/services/ecommerce_queries.py`.  The displayed text has a prefix that depends
on the category and the product id, and three digits that come from a hash of the id modulo 1000,
or from the rank of the product in its list where this is 0.  Two displayed texts are equal exactly
when prefix and number are.
-/
import EcommerceAgent.Lib.Text
import Mathlib.Data.List.DropRight
import Mathlib.Data.Nat.Digits.Defs

open EcommerceAgent.Lib

namespace EcommerceAgent.Queries

/-- `str.lower()`, and `uuid.uuid5(uuid.NAMESPACE_URL, value).int % 1000`. -/
structure SkuLibrary where
  lower : String → String
  lower_empty : lower "" = ""
  stableNumber : String → ℕ
  stableNumber_lt : ∀ value, stableNumber value < 1000

/-- `sample_map`. -/
def sampleMap : List (String × String) :=
  [("orange_001", "ORANGE-FRESH-001"), ("orange_002", "ORANGE-FAMILY-002"),
    ("juice_003", "JUICE-NFC-003"), ("gift_004", "ORANGE-GIFT-004"),
    ("orange_005", "ORANGE-TRIAL-005"), ("jam_006", "JAM-ORANGE-006")]

/-- The displayed text of a sample product. -/
def sampleSku (value : String) : Option String :=
  (sampleMap.find? fun sample => sample.1.toList <:+ value.toList).map (·.2)

/-- `f"{n:03d}"[-3:]`. -/
def threeDigits (n : ℕ) : List Char :=
  let digits := Nat.toDigits 10 n
  (List.replicate (3 - digits.length) '0' ++ digits).rtake 3

/-- `word in text`. -/
def mentions (text word : String) : Bool := Text.contains text.toList word.toList

variable (lib : SkuLibrary)

/-- The prefix of a product that is no sample; an orange counts by its category only as
`fresh_orange`. -/
def skuPrefix (value : String) (category : Option String) : String :=
  let categoryValue := lib.lower (category.getD "")
  let lowerValue := lib.lower value
  if mentions categoryValue "gift" || mentions lowerValue "gift" then "ORANGE-GIFT"
  else if mentions categoryValue "juice" || mentions lowerValue "juice" then "JUICE-NFC"
  else if mentions categoryValue "jam" || mentions lowerValue "jam" then "JAM-ORANGE"
  else if mentions categoryValue "fresh_orange" || mentions lowerValue "orange" then "ORANGE-FRESH"
  else "SKU"

/-- `stable_number or index or 1`. -/
def skuNumber (value : String) (index : ℕ) : ℕ :=
  let stable := lib.stableNumber (if value = "" then toString index else value)
  if stable ≠ 0 then stable else if index ≠ 0 then index else 1

/-- `display_sku`. -/
def displaySku (value : String) (category : Option String) (index : ℕ) : String :=
  match sampleSku value with
  | some display => display
  | none => String.ofList (((skuPrefix lib value category ++ "-").toList ++
      threeDigits (skuNumber lib value index)).take 32)

/-! ### Prefix and number -/

/-- Prefix and number of the samples. -/
def sampleParts : List (String × String × ℕ) :=
  [("orange_001", "ORANGE-FRESH", 1), ("orange_002", "ORANGE-FAMILY", 2),
    ("juice_003", "JUICE-NFC", 3), ("gift_004", "ORANGE-GIFT", 4),
    ("orange_005", "ORANGE-TRIAL", 5), ("jam_006", "JAM-ORANGE", 6)]

/-- Prefix and number of a sample product. -/
def sampleOf (value : String) : Option (String × ℕ) :=
  (sampleParts.find? fun sample => sample.1.toList <:+ value.toList).map (·.2)

/-- The prefix and the number that a product is displayed with. -/
def skuParts (value : String) (category : Option String) (index : ℕ) : String × ℕ :=
  (sampleOf value).getD (skuPrefix lib value category, skuNumber lib value index)

/-- Prefix and number as they are displayed. -/
def skuText (parts : String × ℕ) : List Char := parts.1.toList ++ '-' :: threeDigits parts.2

lemma threeDigits_spec {n : ℕ} (hn : n < 1000) :
    (threeDigits n).length = 3 ∧ Nat.ofDigitChars 10 (threeDigits n) 0 = n := by
  have hle : (Nat.toDigits 10 n).length ≤ 3 :=
    (Nat.length_toDigits_le_iff (by omega) (by omega)).mpr hn
  have hlength : (List.replicate (3 - (Nat.toDigits 10 n).length) '0' ++
      Nat.toDigits 10 n).length = 3 := by
    rw [List.length_append, List.length_replicate]
    omega
  have hwhole : threeDigits n =
      List.replicate (3 - (Nat.toDigits 10 n).length) '0' ++ Nat.toDigits 10 n := by
    rw [threeDigits, List.rtake, hlength, Nat.sub_self, List.drop_zero]
  rw [hwhole]
  refine ⟨hlength, ?_⟩
  rw [Nat.ofDigitChars_append, Nat.ofDigitChars_replicate_zero, Nat.mul_zero,
    Nat.ofDigitChars_ten_toDigits]

lemma length_threeDigits {n : ℕ} (hn : n < 1000) : (threeDigits n).length = 3 :=
  (threeDigits_spec hn).1

/-- Three digits stand for one number below 1000. -/
lemma threeDigits_injective {m n : ℕ} (hm : m < 1000) (hn : n < 1000)
    (h : threeDigits m = threeDigits n) : m = n := by
  calc m = Nat.ofDigitChars 10 (threeDigits m) 0 := (threeDigits_spec hm).2.symm
    _ = Nat.ofDigitChars 10 (threeDigits n) 0 := by rw [h]
    _ = n := (threeDigits_spec hn).2

/-- The number is behind the last three characters, the prefix before them. -/
lemma skuText_injective {parts parts' : String × ℕ} (h2 : parts.2 < 1000) (h2' : parts'.2 < 1000)
    (h : skuText parts = skuText parts') : parts = parts' := by
  have hlen : ('-' :: threeDigits parts.2).length = ('-' :: threeDigits parts'.2).length := by
    simp only [List.length_cons, length_threeDigits h2, length_threeDigits h2']
  obtain ⟨hfront, hnumber⟩ := List.append_inj' h hlen
  exact Prod.ext (String.toList_inj.mp hfront)
    (threeDigits_injective h2 h2' (List.cons.inj hnumber).2)

lemma skuNumber_lt {value : String} {index : ℕ} (hindex : index < 1000) :
    skuNumber lib value index < 1000 := by
  have hstable := lib.stableNumber_lt (if value = "" then toString index else value)
  rw [skuNumber]
  generalize lib.stableNumber (if value = "" then toString index else value) = stable at hstable
  show (if stable ≠ 0 then stable else if index ≠ 0 then index else 1) < 1000
  by_cases hzero : stable ≠ 0
  · rwa [if_pos hzero]
  · rw [if_neg hzero]
    split_ifs <;> omega

/-- A prefix has at most twelve characters, so nothing is cut off. -/
lemma length_skuPrefix_le (value : String) (category : Option String) :
    (skuPrefix lib value category).toList.length ≤ 12 := by
  have hwords : ∀ word ∈ ["ORANGE-GIFT", "JUICE-NFC", "JAM-ORANGE", "ORANGE-FRESH", "SKU"],
      word.toList.length ≤ 12 := by decide
  refine hwords _ ?_
  simp only [skuPrefix]
  split_ifs <;> simp

lemma sampleSku_eq (value : String) :
    sampleSku value = (sampleOf value).map fun parts => String.ofList (skuText parts) := by
  have hmap : sampleMap = sampleParts.map fun s => (s.1, String.ofList (skuText s.2)) := by
    decide +kernel
  rw [sampleSku, sampleOf, hmap, List.find?_map, Option.map_map, Option.map_map]
  rfl

lemma sampleOf_lt {value : String} {parts : String × ℕ} (h : sampleOf value = some parts) :
    parts.2 < 1000 := by
  obtain ⟨sample, hfind, rfl⟩ := Option.map_eq_some_iff.mp h
  have hsmall : ∀ s ∈ sampleParts, s.2.2 < 1000 := by decide
  exact hsmall sample (List.mem_of_find?_eq_some hfind)

/-- The displayed text is made of prefix and number. -/
theorem displaySku_eq {index : ℕ} (hindex : index < 1000) (value : String)
    (category : Option String) :
    displaySku lib value category index =
      String.ofList (skuText (skuParts lib value category index)) := by
  rw [displaySku, sampleSku_eq, skuParts]
  cases sampleOf value with
  | some parts => rfl
  | none =>
    have hfront := length_skuPrefix_le lib value category
    have hnumber : (threeDigits (skuNumber lib value index)).length = 3 :=
      length_threeDigits (skuNumber_lt lib hindex)
    have hshort : ((skuPrefix lib value category ++ "-").toList ++
        threeDigits (skuNumber lib value index)).length ≤ 32 := by
      rw [List.length_append, String.toList_append, List.length_append, hnumber]
      have hdash : "-".toList.length = 1 := rfl
      omega
    simp only [Option.map_none, Option.getD_none, skuText]
    rw [List.take_of_length_le hshort, String.toList_append, List.append_assoc]
    rfl

lemma skuParts_lt {index : ℕ} (hindex : index < 1000) (value : String)
    (category : Option String) : (skuParts lib value category index).2 < 1000 := by
  rw [skuParts]
  cases h : sampleOf value with
  | some parts => exact sampleOf_lt h
  | none => exact skuNumber_lt lib hindex

/-- Two products are displayed with the same text exactly when prefix and number agree. -/
theorem displaySku_eq_iff {index index' : ℕ} (hindex : index < 1000) (hindex' : index' < 1000)
    (value value' : String) (category category' : Option String) :
    displaySku lib value category index = displaySku lib value' category' index' ↔
      skuParts lib value category index = skuParts lib value' category' index' := by
  rw [displaySku_eq lib hindex, displaySku_eq lib hindex']
  constructor
  · intro h
    exact skuText_injective (skuParts_lt lib hindex _ _) (skuParts_lt lib hindex' _ _)
      (String.ofList_injective h)
  · intro h
    rw [h]

/-! ### Families

The prefix is the one of the first word of the list that the category or the id mentions. -/

/-- The first of the words that the text mentions, 4 if it mentions none. -/
def family (text : String) (orange : String) : ℕ :=
  if mentions text "gift" then 0 else if mentions text "juice" then 1
  else if mentions text "jam" then 2 else if mentions text orange then 3 else 4

/-- What the id alone says. -/
def idFamily (value : String) : ℕ := family (lib.lower value) "orange"

/-- What the category says. -/
def categoryFamily (category : Option String) : ℕ :=
  family (lib.lower (category.getD "")) "fresh_orange"

/-- The prefix of a family. -/
def familyPrefix : ℕ → String
  | 0 => "ORANGE-GIFT"
  | 1 => "JUICE-NFC"
  | 2 => "JAM-ORANGE"
  | 3 => "ORANGE-FRESH"
  | _ => "SKU"

lemma family_le (text orange : String) : family text orange ≤ 4 := by
  simp only [family]
  split_ifs <;> omega

lemma familyPrefix_injective : ∀ m ≤ 4, ∀ n ≤ 4, familyPrefix m = familyPrefix n → m = n := by
  decide

lemma skuPrefix_eq (value : String) (category : Option String) :
    skuPrefix lib value category =
      familyPrefix (min (idFamily lib value) (categoryFamily lib category)) := by
  simp only [skuPrefix, idFamily, categoryFamily, family]
  cases mentions (lib.lower (category.getD "")) "gift" <;>
    cases mentions (lib.lower value) "gift" <;> try rfl
  all_goals
    cases mentions (lib.lower (category.getD "")) "juice" <;>
      cases mentions (lib.lower value) "juice" <;> try rfl
  all_goals
    cases mentions (lib.lower (category.getD "")) "jam" <;>
      cases mentions (lib.lower value) "jam" <;> try rfl
  all_goals
    cases mentions (lib.lower (category.getD "")) "fresh_orange" <;>
      cases mentions (lib.lower value) "orange" <;> rfl

lemma categoryFamily_none : categoryFamily lib none = 4 := by
  simp only [categoryFamily, Option.getD_none, lib.lower_empty]
  decide

/-- The category leaves the prefix alone exactly when it mentions no earlier word than the id. -/
theorem skuPrefix_eq_none_iff (value : String) (category : Option String) :
    skuPrefix lib value category = skuPrefix lib value none ↔
      idFamily lib value ≤ categoryFamily lib category := by
  have hid : idFamily lib value ≤ 4 := family_le _ _
  have hcategory : categoryFamily lib category ≤ 4 := family_le _ _
  rw [skuPrefix_eq, skuPrefix_eq, categoryFamily_none, min_eq_left hid]
  constructor
  · intro h
    have hmin := familyPrefix_injective _ ((min_le_left _ _).trans hid) _ hid h
    omega
  · intro h
    rw [min_eq_left h]

/-- The text that a list with categories and a list without show for one product. -/
theorem displaySku_eq_none_iff {index index' : ℕ} (hindex : index < 1000)
    (hindex' : index' < 1000) (value : String) (category : Option String) :
    displaySku lib value none index' = displaySku lib value category index ↔
      (sampleOf value).isSome ∨ (idFamily lib value ≤ categoryFamily lib category ∧
        skuNumber lib value index = skuNumber lib value index') := by
  rw [displaySku_eq_iff lib hindex' hindex, skuParts, skuParts]
  cases sampleOf value with
  | some parts => simp
  | none =>
    simp only [Option.getD_none, Prod.mk.injEq, Option.isSome_none, Bool.false_eq_true, false_or]
    rw [eq_comm, skuPrefix_eq_none_iff lib, eq_comm (a := skuNumber lib value index')]

end EcommerceAgent.Queries
