/-
# Text as bytes

`str.encode("utf-8")` and `bytes.decode("utf-8", errors=…)`.  Decoding with `errors="replace"` puts
one replacement character in the place of every malformed sequence.  The byte of an ASCII
character occurs in an encoded text only where the character does, so bytes can be cut into lines
before they are decoded.
-/
import Mathlib.Tactic.Common
import Mathlib.Data.List.Basic

namespace EcommerceAgent.Lib.Utf8

/-- A code point of a string of Python, which may be a surrogate. -/
abbrev CodePoint := Fin 0x110000

/-- The code point is one of UTF-16 only. -/
def CodePoint.isSurrogate (c : CodePoint) : Bool := 0xD800 ≤ c.val && c.val ≤ 0xDFFF

/-- The characters of a string, unless `str.encode("utf-8")` raises on it. -/
def chars? (s : List CodePoint) : Option (List Char) :=
  if s.any CodePoint.isSurrogate then none else some (s.map fun c => Char.ofNat c.val)

/-- `text.encode("utf-8")`. -/
def encode (text : List Char) : List UInt8 := text.flatMap String.utf8EncodeChar

/-- `bytes.decode("utf-8")`, which raises on malformed bytes. -/
def decode (bytes : List UInt8) : Option (List Char) :=
  bytes.toByteArray.utf8Decode?.map Array.toList

/-- The bounds of the second byte after a first byte that needs one. -/
def secondByte (b : UInt8) : Option (UInt8 × UInt8) :=
  if 0xC2 ≤ b ∧ b ≤ 0xDF then some (0x80, 0xBF)
  else if b = 0xE0 then some (0xA0, 0xBF)
  else if b = 0xED then some (0x80, 0x9F)
  else if 0xE1 ≤ b ∧ b ≤ 0xEF then some (0x80, 0xBF)
  else if b = 0xF0 then some (0x90, 0xBF)
  else if b = 0xF4 then some (0x80, 0x8F)
  else if 0xF1 ≤ b ∧ b ≤ 0xF3 then some (0x80, 0xBF)
  else none

/-- The length of the malformed sequence at the beginning: the bytes that could begin a
character. -/
def malformedLength : List UInt8 → ℕ
  | b :: x :: rest =>
    match secondByte b with
    | some (low, high) =>
      if low ≤ x ∧ x ≤ high then
        if 0xF0 ≤ b ∧ (rest.head?.any fun y => 0x80 ≤ y && y ≤ 0xBF) then 3 else 2
      else 1
    | none => 1
  | _ => 1

/-- Decode with replacement characters; every round takes at least one byte. -/
def replaceMalformed : ℕ → List UInt8 → List Char
  | 0, _ => []
  | _, [] => []
  | rounds + 1, bytes =>
    match bytes.toByteArray.utf8DecodeChar? 0 with
    | some c => c :: replaceMalformed rounds (bytes.drop c.utf8Size)
    | none => Char.ofNat 0xFFFD :: replaceMalformed rounds (bytes.drop (malformedLength bytes))

/-- `bytes.decode("utf-8", errors="replace")`. -/
def decodeReplace (bytes : List UInt8) : List Char :=
  (decode bytes).getD (replaceMalformed bytes.length bytes)

@[simp] lemma encode_nil : encode [] = [] := rfl

@[simp] lemma encode_append (s t : List Char) : encode (s ++ t) = encode s ++ encode t :=
  List.flatMap_append

lemma encode_flatten (l : List (List Char)) : encode l.flatten = (l.map encode).flatten := by
  induction l with
  | nil => rfl
  | cons s l ih => rw [List.flatten_cons, encode_append, ih, List.map_cons, List.flatten_cons]

@[simp] lemma decode_encode (text : List Char) : decode (encode text) = some text := by
  have h : text.utf8Encode.utf8Decode? = some text.toArray := List.utf8Decode?_utf8Encode
  rw [decode, encode, ← List.utf8Encode, h]
  simp

/-- Text that was encoded is not touched by the replacement. -/
@[simp] lemma decodeReplace_encode (text : List Char) : decodeReplace (encode text) = text := by
  rw [decodeReplace, decode_encode, Option.getD_some]

/-- Every byte of a character outside of ASCII has its highest bit set. -/
lemma le_of_mem_utf8EncodeChar {c : Char} (hc : 128 ≤ c.toNat) {b : UInt8}
    (hb : b ∈ String.utf8EncodeChar c) : 128 ≤ b.toNat := by
  have hval : c.val.toNat = c.toNat := rfl
  rw [String.utf8EncodeChar] at hb
  rw [hval] at hb
  split_ifs at hb with h1 h2 h3
  · omega
  all_goals
    simp only [List.mem_cons, List.not_mem_nil, or_false] at hb
    rcases hb with rfl | rfl | rfl | rfl <;> simp only [UInt8.toNat_ofNat'] <;> omega

/-- The byte of a line feed is found in an encoded text only where there is a line feed. -/
lemma lineFeed_mem_encode {text : List Char} : 10 ∈ encode text ↔ '\n' ∈ text := by
  rw [encode, List.mem_flatMap]
  constructor
  · rintro ⟨c, hc, hb⟩
    by_cases hascii : c.toNat < 128
    · have hval : c.val.toNat = c.toNat := rfl
      rw [String.utf8EncodeChar] at hb
      rw [hval, if_pos (by omega), List.mem_singleton] at hb
      have hnat : c.toNat = 10 := by
        have hten : UInt8.toNat 10 = 10 := rfl
        have hbyte := congrArg UInt8.toNat hb
        rw [UInt8.toNat_ofNat', hten] at hbyte
        omega
      have hcn : c = '\n' := Char.toNat_inj.mp hnat
      exact hcn ▸ hc
    · have := le_of_mem_utf8EncodeChar (Nat.not_lt.mp hascii) hb
      exact absurd this (by decide)
  · intro h
    exact ⟨'\n', h, by decide⟩

end EcommerceAgent.Lib.Utf8
