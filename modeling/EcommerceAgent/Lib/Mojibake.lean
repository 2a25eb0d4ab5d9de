/-
# Text read in the wrong encoding

The UTF-8 bytes of a text, each read as a Latin-1 character.  Different texts give different
readings; a text of ASCII characters is its own reading, and every other text has a longer one.  A
text of Latin-1 characters is such a reading exactly when its characters, taken as bytes, are UTF-8.
-/
import EcommerceAgent.Lib.Utf8
import Mathlib.Data.List.DropRight

namespace EcommerceAgent.Lib.Mojibake

open Utf8

/-- The Latin-1 character of a byte. -/
def latin1 (b : UInt8) : Char := Char.ofNat b.toNat

/-- The UTF-8 bytes of a text, read as Latin-1. -/
def mojibake (text : List Char) : List Char := (encode text).map latin1

variable {text text' : List Char} {c : Char}

lemma toNat_latin1 (b : UInt8) : (latin1 b).toNat = b.toNat := by
  have hb : b.toNat < 256 := b.toNat_lt
  have hvalid : b.toNat.isValidChar := .inl (by omega)
  rw [latin1, Char.ofNat, dif_pos hvalid]
  rfl

lemma toUInt8_latin1 (b : UInt8) : (latin1 b).toNat.toUInt8 = b := by
  rw [toNat_latin1]
  exact UInt8.ofNat_toNat

lemma latin1_toUInt8 (hc : c.toNat ≤ 255) : latin1 c.toNat.toUInt8 = c := by
  refine Char.toNat_inj.mp ?_
  have hbyte : c.toNat.toUInt8.toNat = c.toNat % 256 := UInt8.toNat_ofNat'
  rw [toNat_latin1, hbyte]
  omega

lemma latin1_injective : Function.Injective latin1 := fun b b' h => by
  rw [← toUInt8_latin1 b, h, toUInt8_latin1]

/-- The reading determines the text. -/
theorem mojibake_injective : Function.Injective mojibake := by
  intro text text' h
  have hbytes : encode text = encode text' := List.map_injective_iff.mpr latin1_injective h
  rw [← Option.some_inj, ← decode_encode text, hbytes, decode_encode]

/-! ### ASCII -/

lemma encode_ascii (hc : c.toNat < 128) : String.utf8EncodeChar c = [c.toNat.toUInt8] := by
  have hval : c.val.toNat = c.toNat := rfl
  rw [String.utf8EncodeChar, hval, if_pos (by omega)]

lemma mojibake_cons : mojibake (c :: text) =
    (String.utf8EncodeChar c).map latin1 ++ mojibake text := by
  rw [mojibake, encode, List.flatMap_cons, List.map_append]
  rfl

/-- A text of ASCII characters is its own reading. -/
lemma mojibake_of_ascii (h : ∀ c ∈ text, c.toNat < 128) : mojibake text = text := by
  induction text with
  | nil => rfl
  | cons c text ih =>
    obtain ⟨hc, htext⟩ := List.forall_mem_cons.mp h
    rw [mojibake_cons, ih htext, encode_ascii hc, List.map_singleton, latin1_toUInt8 (by omega)]
    rfl

lemma length_le_mojibake (text : List Char) : text.length ≤ (mojibake text).length := by
  induction text with
  | nil => exact Nat.le_refl _
  | cons c text ih =>
    have hsize := c.utf8Size_pos
    rw [mojibake_cons, List.length_append, List.length_map, String.length_utf8EncodeChar,
      List.length_cons]
    omega

/-- The reading of a text with another character is longer. -/
theorem length_lt_mojibake (h : mojibake text ≠ text) : text.length < (mojibake text).length := by
  induction text with
  | nil => exact absurd rfl h
  | cons c text ih =>
    have hle := length_le_mojibake text
    have hlength : (mojibake (c :: text)).length = c.utf8Size + (mojibake text).length := by
      rw [mojibake_cons, List.length_append, List.length_map, String.length_utf8EncodeChar]
    rw [hlength, List.length_cons]
    by_cases hc : c.toNat < 128
    · have htext : mojibake text ≠ text := by
        intro htext
        rw [mojibake_cons, htext, encode_ascii hc, List.map_singleton,
          latin1_toUInt8 (by omega)] at h
        exact h rfl
      have hlt := ih htext
      have hsize := c.utf8Size_pos
      omega
    · have hpos := c.utf8Size_pos
      have hone : c.utf8Size ≠ 1 := by
        intro hone
        have hval : c.val ≤ 127 := Char.utf8Size_eq_one_iff.mp hone
        have hnat : c.toNat ≤ 127 := hval
        omega
      omega

/-- Only a text of ASCII characters is its own reading. -/
theorem mojibake_eq_self_iff : mojibake text = text ↔ ∀ c ∈ text, c.toNat < 128 := by
  refine ⟨fun h => ?_, mojibake_of_ascii⟩
  induction text with
  | nil => simp
  | cons c text ih =>
    have hc : c.toNat < 128 := by
      by_contra hlarge
      have hlength := congrArg List.length h
      have hle := length_le_mojibake text
      have hpos := c.utf8Size_pos
      have hone : c.utf8Size ≠ 1 := by
        intro hone
        have hval : c.val ≤ 127 := Char.utf8Size_eq_one_iff.mp hone
        have hnat : c.toNat ≤ 127 := hval
        omega
      rw [mojibake_cons, List.length_append, List.length_map, String.length_utf8EncodeChar,
        List.length_cons] at hlength
      omega
    rw [mojibake_cons, encode_ascii hc, List.map_singleton, latin1_toUInt8 (by omega)] at h
    exact List.forall_mem_cons.mpr ⟨hc, ih (List.cons.inj h).2⟩

/-! ### Recognising a reading -/

/-- A text of Latin-1 characters whose bytes are the UTF-8 of another one. -/
lemma map_toUInt8_eq_encode_iff (h : ∀ c ∈ text, c.toNat ≤ 255) :
    text.map (·.toNat.toUInt8) = encode text' ↔ mojibake text' = text := by
  have hback : (text.map (·.toNat.toUInt8)).map latin1 = text := by
    rw [List.map_map]
    exact (List.map_congr_left fun c hc => latin1_toUInt8 (h c hc)).trans (List.map_id _)
  constructor
  · intro hbytes
    rw [mojibake, ← hbytes, hback]
  · rintro rfl
    rw [mojibake, List.map_map]
    exact (List.map_congr_left fun b _ => toUInt8_latin1 b).trans (List.map_id _)

/-- The characters of a reading are bytes. -/
lemma le_of_mem_mojibake (hc : c ∈ mojibake text) : c.toNat ≤ 255 := by
  obtain ⟨b, -, rfl⟩ := List.mem_map.mp hc
  have hb : b.toNat < 256 := b.toNat_lt
  rw [toNat_latin1]
  omega

/-- A reading that is not the text has a character outside of ASCII. -/
lemma exists_mem_mojibake (h : mojibake text ≠ text) : ∃ c ∈ mojibake text, 128 ≤ c.toNat := by
  by_contra hnone
  refine h (mojibake_of_ascii fun c hc => ?_)
  by_contra hlt
  have hne : String.utf8EncodeChar c ≠ [] := String.utf8EncodeChar_ne_nil
  obtain ⟨b, bytes, hbytes⟩ := List.exists_cons_of_ne_nil hne
  have hb : b ∈ String.utf8EncodeChar c := hbytes ▸ List.mem_cons_self
  refine hnone ⟨latin1 b, List.mem_map_of_mem (List.mem_flatMap.mpr ⟨c, hc, hb⟩), ?_⟩
  rw [toNat_latin1]
  exact le_of_mem_utf8EncodeChar (Nat.not_lt.mp hlt) hb

/-! ### Trimming -/

/-- What trimming leaves has nothing to trim. -/
lemma trim_trim {α : Type*} (p : α → Bool) (l : List α) :
    (((l.dropWhile p).rdropWhile p).dropWhile p).rdropWhile p = (l.dropWhile p).rdropWhile p := by
  have hfront : ((l.dropWhile p).rdropWhile p).dropWhile p = (l.dropWhile p).rdropWhile p := by
    cases hl : (l.dropWhile p).rdropWhile p with
    | nil => rfl
    | cons x xs =>
      -- the first element is the one at which the front ends
      have hprefix : x :: xs <+: l.dropWhile p := hl ▸ List.rdropWhile_prefix _ _
      obtain ⟨rest, hrest⟩ := hprefix
      have hne : l.dropWhile p ≠ [] := by
        rw [← hrest]
        exact List.cons_ne_nil _ _
      have hhead := List.head_dropWhile_not p hne
      have hx : p x = false := by
        simp only [← hrest, List.cons_append, List.head_cons] at hhead
        exact hhead
      exact List.dropWhile_cons_of_neg (by rw [hx]; exact Bool.false_ne_true)
  rw [hfront, List.rdropWhile_idempotent]

section Blanks

variable {p : Char → Bool} (hp : ∀ c, p c = true → c.toNat < 128)

include hp

/-- The bytes of a character that is no blank are none either. -/
lemma not_blank_of_mem {b : Char} (hc : p c = false)
    (hb : b ∈ (String.utf8EncodeChar c).map latin1) : p b = false := by
  obtain ⟨x, hx, rfl⟩ := List.mem_map.mp hb
  by_cases hascii : c.toNat < 128
  · rw [encode_ascii hascii, List.mem_singleton] at hx
    rw [hx, latin1_toUInt8 (by omega)]
    exact hc
  · by_contra hblank
    have hlow := hp _ (by simpa using hblank)
    have hhigh := le_of_mem_utf8EncodeChar (Nat.not_lt.mp hascii) hx
    rw [toNat_latin1] at hlow
    omega

/-- The blanks at the front of a reading are those of the text. -/
lemma dropWhile_mojibake (text : List Char) :
    (mojibake text).dropWhile p = mojibake (text.dropWhile p) := by
  induction text with
  | nil => rfl
  | cons c text ih =>
    by_cases hc : p c = true
    · have hascii := hp c hc
      rw [mojibake_cons, encode_ascii hascii, List.map_singleton, latin1_toUInt8 (by omega),
        List.singleton_append, List.dropWhile_cons_of_pos hc, List.dropWhile_cons_of_pos hc, ih]
    · have hne : (String.utf8EncodeChar c).map latin1 ≠ [] := by
        simp
      obtain ⟨b, bytes, hbytes⟩ := List.exists_cons_of_ne_nil hne
      have hb : p b = false := not_blank_of_mem hp (Bool.eq_false_iff.mpr hc)
        (hbytes ▸ List.mem_cons_self)
      rw [List.dropWhile_cons_of_neg hc, mojibake_cons, hbytes, List.cons_append,
        List.dropWhile_cons_of_neg (by rw [hb]; exact Bool.false_ne_true)]

/-- The blanks at the end of a reading are those of the text. -/
lemma rdropWhile_mojibake (text : List Char) :
    (mojibake text).rdropWhile p = mojibake (text.rdropWhile p) := by
  induction text using List.reverseRecOn with
  | nil => rfl
  | append_singleton text c ih =>
    have hlast : mojibake (text ++ [c]) =
        mojibake text ++ (String.utf8EncodeChar c).map latin1 := by
      rw [mojibake, encode_append, List.map_append]
      simp [mojibake, encode]
    by_cases hc : p c = true
    · have hascii := hp c hc
      rw [hlast, encode_ascii hascii, List.map_singleton, latin1_toUInt8 (by omega),
        List.rdropWhile_concat_pos _ _ _ hc, List.rdropWhile_concat_pos _ _ _ hc, ih]
    · have hne : (String.utf8EncodeChar c).map latin1 ≠ [] := by
        simp
      obtain ⟨bytes, b, hbytes⟩ : ∃ bytes b, (String.utf8EncodeChar c).map latin1 = bytes ++ [b] :=
        ⟨_, _, (List.dropLast_append_getLast hne).symm⟩
      have hb : p b = false := not_blank_of_mem hp (Bool.eq_false_iff.mpr hc)
        (by rw [hbytes]; simp)
      rw [List.rdropWhile_concat_neg _ _ _ hc, hlast, hbytes, ← List.append_assoc,
        List.rdropWhile_concat_neg _ _ _ (by rw [hb]; exact Bool.false_ne_true)]

/-- A trimmed text that is read as it was before it was trimmed has only ASCII characters, and
nothing to trim. -/
theorem mojibake_trim_eq_iff : mojibake ((text.dropWhile p).rdropWhile p) = text ↔
    (∀ c ∈ text, c.toNat < 128) ∧ (text.dropWhile p).rdropWhile p = text := by
  constructor
  · intro h
    have htrim : (text.dropWhile p).rdropWhile p = mojibake ((text.dropWhile p).rdropWhile p) := by
      calc (text.dropWhile p).rdropWhile p
          = ((mojibake ((text.dropWhile p).rdropWhile p)).dropWhile p).rdropWhile p := by rw [h]
        _ = mojibake ((((text.dropWhile p).rdropWhile p).dropWhile p).rdropWhile p) := by
            rw [dropWhile_mojibake hp, rdropWhile_mojibake hp]
        _ = mojibake ((text.dropWhile p).rdropWhile p) := by rw [trim_trim]
    rw [h] at htrim
    rw [htrim] at h
    exact ⟨mojibake_eq_self_iff.mp h, htrim⟩
  · rintro ⟨hascii, htrim⟩
    rw [htrim, mojibake_of_ascii hascii]

end Blanks

/-- Trimming leaves every other element. -/
lemma mem_trim {α : Type*} {p : α → Bool} {l : List α} {x : α} (hx : x ∈ l) (hp : p x = false) :
    x ∈ (l.dropWhile p).rdropWhile p := by
  have hfront : x ∈ l.dropWhile p := by
    rw [← List.takeWhile_append_dropWhile (p := p) (l := l)] at hx
    rcases List.mem_append.mp hx with htaken | hleft
    · have htrue := List.mem_takeWhile_imp htaken
      rw [hp] at htrue
      cases htrue
    · exact hleft
  have hsplit : (l.dropWhile p).rdropWhile p ++ (l.dropWhile p).rtakeWhile p = l.dropWhile p :=
    List.rdropWhile_append_rtakeWhile
  rw [← hsplit] at hfront
  rcases List.mem_append.mp hfront with hleft | htaken
  · exact hleft
  · have htrue := List.mem_rtakeWhile_imp htaken
    rw [hp] at htrue
    cases htrue

end EcommerceAgent.Lib.Mojibake
