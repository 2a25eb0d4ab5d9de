/-
# Text functions of the Python and Go standard libraries

The functions work on lists of code points.  Only the part of the Unicode tables that can
matter is written out: case mapping is given for the letters whose lower-case form contains
an ASCII character, since every word that is searched for in lower-cased text consists of
ASCII letters and of caseless characters.
-/
import Mathlib.Tactic.Common
import Mathlib.Data.List.Basic
import Mathlib.Data.List.Infix
import Mathlib.Data.List.DropRight

namespace EcommerceAgent.Lib.Text

/-- The characters that `str.strip()` and `str.split()` treat as blanks. -/
def isSpace (c : Char) : Bool :=
  (9 ≤ c.toNat && c.toNat ≤ 13) || (28 ≤ c.toNat && c.toNat ≤ 32) || c.toNat == 0x85 ||
    c.toNat == 0xA0 || c.toNat == 0x1680 || (0x2000 ≤ c.toNat && c.toNat ≤ 0x200A) ||
    c.toNat == 0x2028 || c.toNat == 0x2029 || c.toNat == 0x202F || c.toNat == 0x205F ||
    c.toNat == 0x3000

/-- `str.lower()` of one character: ASCII letters, the Kelvin sign and the dotted capital I
are the ones whose lower-case form contains an ASCII letter. -/
def lowerChar (c : Char) : List Char :=
  if 'A' ≤ c ∧ c ≤ 'Z' then [Char.ofNat (c.toNat + 32)]
  else if c.toNat == 0x212A then ['k']
  else if c.toNat == 0x130 then ['i', Char.ofNat 0x307]
  else [c]

/-- `str.lower()`. -/
def lower (s : List Char) : List Char := s.flatMap lowerChar

/-- `str.strip()` without argument. -/
def strip (s : List Char) : List Char := (s.dropWhile isSpace).rdropWhile isSpace

/-- The characters with the Unicode property `White_Space`, which `strings.TrimSpace` cuts. -/
def isWhiteSpace (c : Char) : Bool := isSpace c && !(28 ≤ c.toNat && c.toNat ≤ 31)

/-- `strings.TrimSpace` of Go. -/
def trimSpace (s : List Char) : List Char := (s.dropWhile isWhiteSpace).rdropWhile isWhiteSpace

/-- `unicode.ToLower` of Go, which maps one character to one. -/
def toLowerChar (c : Char) : Char :=
  if 'A' ≤ c ∧ c ≤ 'Z' then Char.ofNat (c.toNat + 32)
  else if c.toNat == 0x212A then 'k'
  else if c.toNat == 0x130 then 'i'
  else c

/-- `strings.ToLower` of Go. -/
def toLower (s : List Char) : List Char := s.map toLowerChar

/-- `str.rstrip(ch)` for a single character. -/
def rstripChar (ch : Char) (s : List Char) : List Char := s.rdropWhile (· == ch)

/-- Python's `sub in s`. -/
def contains (s sub : List Char) : Bool := s.tails.any (sub.isPrefixOf ·)

/-- `dropWhile` stops at a character without the property. -/
lemma head?_dropWhile (p : Char → Bool) (s : List Char) :
    ∀ c ∈ (s.dropWhile p).head?, p c = false := by
  induction s with
  | nil => simp
  | cons x xs ih =>
    by_cases hx : p x = true
    · simpa [hx] using ih
    · intro c hc
      rw [List.dropWhile_cons, if_neg hx] at hc
      obtain rfl := Option.some.inj hc
      simpa using hx

/-- What holds of the 128 ASCII characters. -/
lemma forall_ascii {p : Char → Prop} (h : ∀ n : Fin 128, p (Char.ofNat n)) {c : Char}
    (hc : c.toNat < 128) : p c := by
  have := h ⟨c.toNat, hc⟩
  rwa [Char.ofNat_toNat] at this

lemma isUpper_iff {c : Char} : c.isUpper = true ↔ 65 ≤ c.toNat ∧ c.toNat ≤ 90 :=
  decide_eq_true_iff

lemma isLower_iff {c : Char} : c.isLower = true ↔ 97 ≤ c.toNat ∧ c.toNat ≤ 122 := by
  have h : c.isLower = (decide (97 ≤ c.toNat) && decide (c.toNat ≤ 122)) := rfl
  simp [h]

lemma isAlpha_iff {c : Char} : c.isAlpha = true ↔ c.isUpper = true ∨ c.isLower = true :=
  Bool.or_eq_true_iff

lemma isAlpha_ascii {c : Char} (h : c.isAlpha = true) : c.toNat < 128 := by
  rw [isAlpha_iff, isUpper_iff, isLower_iff] at h
  omega

lemma toLower_of_not_isUpper {c : Char} (h : ¬c.isUpper = true) : c.toLower = c :=
  dif_neg fun hc => h (isUpper_iff.mpr hc)

lemma contains_iff (s sub : List Char) : contains s sub = true ↔ sub <:+: s := by
  simp only [contains, List.any_eq_true, List.mem_tails, List.isPrefixOf_iff_prefix]
  constructor
  · rintro ⟨t, ht, hp⟩
    exact hp.isInfix.trans ht.isInfix
  · rintro ⟨u, v, rfl⟩
    exact ⟨sub ++ v, ⟨u, by simp⟩, List.prefix_append _ _⟩

/-- The characters of a text that is put together with a separator. -/
lemma mem_intercalate {sep c : Char} {parts : List (List Char)} (h : c ∈ [sep].intercalate parts) :
    (c = sep ∧ 2 ≤ parts.length) ∨ ∃ part ∈ parts, c ∈ part := by
  induction parts with
  | nil => simp at h
  | cons part parts ih =>
    cases parts with
    | nil => exact .inr ⟨part, List.mem_cons_self, by simpa using h⟩
    | cons next rest =>
      rw [List.intercalate_cons_cons, List.append_assoc, List.mem_append, List.singleton_append,
        List.mem_cons] at h
      rcases h with hpart | rfl | hrest
      · exact .inr ⟨part, List.mem_cons_self, hpart⟩
      · exact .inl ⟨rfl, by simp⟩
      · rcases ih hrest with ⟨rfl, -⟩ | ⟨other, hother, hc⟩
        · exact .inl ⟨rfl, by simp⟩
        · exact .inr ⟨other, List.mem_cons_of_mem _ hother, hc⟩

/-! ### Stripped texts -/

lemma strip_sublist (s : List Char) : (strip s).Sublist s :=
  (List.rdropWhile_prefix _ _).sublist.trans (List.dropWhile_sublist _)

/-- A stripped text has no blanks to strip. -/
lemma strip_strip (s : List Char) : strip (strip s) = strip s := by
  have hfront : (strip s).dropWhile isSpace = strip s := by
    cases hs : strip s with
    | nil => rfl
    | cons c cs =>
      -- the first character is the one at which the blanks of the front end
      have hprefix : c :: cs <+: s.dropWhile isSpace := hs ▸ List.rdropWhile_prefix _ _
      obtain ⟨rest, hrest⟩ := hprefix
      have hc : isSpace c = false := by
        have hidem : (s.dropWhile isSpace).dropWhile isSpace = s.dropWhile isSpace :=
          List.dropWhile_idempotent _ _
        rw [← hrest, List.cons_append, List.dropWhile_cons] at hidem
        by_contra hspace
        rw [Bool.not_eq_false] at hspace
        rw [if_pos hspace] at hidem
        have hlength := congrArg List.length hidem
        have hsub : ((cs ++ rest).dropWhile isSpace).Sublist (cs ++ rest) :=
          List.dropWhile_sublist _
        have hle := hsub.length_le
        rw [List.length_cons] at hlength
        omega
      rw [List.dropWhile_cons, hc]
      rfl
  rw [strip, hfront, strip, List.rdropWhile_idempotent]

/-- A text without blanks is stripped. -/
lemma strip_of_forall {s : List Char} (h : ∀ c ∈ s, isSpace c = false) : strip s = s := by
  have hfront : s.dropWhile isSpace = s := by
    cases s with
    | nil => rfl
    | cons c s => exact List.dropWhile_cons_of_neg (by simp [h c List.mem_cons_self])
  rw [strip, hfront, List.rdropWhile]
  have hback : s.reverse.dropWhile isSpace = s.reverse := by
    cases hs : s.reverse with
    | nil => rfl
    | cons c r =>
      have hc : c ∈ s := by
        rw [← List.mem_reverse, hs]
        exact List.mem_cons_self
      exact List.dropWhile_cons_of_neg (by simp [h c hc])
  rw [hback, List.reverse_reverse]

/-! ### Words in texts -/

section Infix

variable {α : Type*} {w x y : List α} {c : α}

/-- A word does not begin with a character that is not its first one. -/
lemma infix_cons_of_head?_ne (hw : w ≠ []) (h : w.head? ≠ some c) :
    w <:+: c :: y ↔ w <:+: y := by
  rw [List.infix_cons_iff, or_iff_right]
  intro hprefix
  cases w with
  | nil => exact hw rfl
  | cons d w =>
    obtain ⟨rfl, -⟩ := List.cons_prefix_cons.mp hprefix
    exact h rfl

/-- Characters with which a word does not begin can be skipped. -/
lemma infix_append_of_head?_ne (hw : w ≠ []) (h : ∀ c ∈ x, w.head? ≠ some c) :
    w <:+: x ++ y ↔ w <:+: y := by
  induction x with
  | nil => rfl
  | cons c x ih =>
    rw [List.cons_append, infix_cons_of_head?_ne hw (h c List.mem_cons_self)]
    exact ih fun c' hc' => h c' (List.mem_cons_of_mem _ hc')

/-- A word does not reach over a character that can only be its first one. -/
lemma infix_append_cons (h : c ∉ w.tail) : w <:+: x ++ c :: y ↔ w <:+: x ∨ w <:+: c :: y := by
  constructor
  · intro hinfix
    induction x with
    | nil => exact .inr hinfix
    | cons a x ih =>
      rw [List.cons_append, List.infix_cons_iff] at hinfix
      rcases hinfix with hprefix | hinfix
      · by_cases hlength : w.length ≤ (a :: x).length
        · exact .inl (List.prefix_of_prefix_length_le hprefix
            (List.prefix_append (a :: x) (c :: y)) hlength).isInfix
        · -- The word would go on with the character.
          exfalso
          have hlong : a :: x ++ [c] <+: w := by
            have hwhole : a :: x ++ [c] <+: a :: (x ++ c :: y) := ⟨y, by simp⟩
            refine List.prefix_of_prefix_length_le hwhole hprefix ?_
            simp only [List.length_append, List.length_cons, List.length_nil] at hlength ⊢
            omega
          obtain ⟨rest, rfl⟩ := hlong
          exact h (by simp)
      · exact (ih hinfix).imp_left List.infix_cons
  · rintro (hin | hin)
    · exact hin.trans (List.prefix_append _ _).isInfix
    · exact hin.trans (List.suffix_append _ _).isInfix

/-- A word does not reach over a character that it does not contain. -/
lemma infix_append_cons_of_notMem (hw : w ≠ []) (h : c ∉ w) :
    w <:+: x ++ c :: y ↔ w <:+: x ∨ w <:+: y := by
  rw [infix_append_cons fun hc => h (List.mem_of_mem_tail hc), infix_cons_of_head?_ne hw]
  exact fun hc => h (List.mem_of_mem_head? hc)

end Infix

/-! ### Decimal digits -/

/-- A number is determined by its decimal digits. -/
lemma toDigits_injective : Function.Injective (Nat.toDigits 10) := by
  have hchar : ∀ {a b : ℕ}, a < 10 → b < 10 → a.digitChar = b.digitChar → a = b := by
    intro a b ha hb h
    have hnat := congrArg Char.toNat h
    rw [Nat.toNat_digitChar_of_lt_ten ha, Nat.toNat_digitChar_of_lt_ten hb] at hnat
    omega
  -- the last digit is the remainder, the digits before it are those of the quotient
  have hlast : ∀ {a b : ℕ}, a < 10 → 10 ≤ b → Nat.toDigits 10 a ≠ Nat.toDigits 10 b := by
    intro a b ha hb h
    rw [Nat.toDigits_of_lt_base ha, Nat.toDigits_of_base_le (by decide) hb] at h
    have hlength := congrArg List.length h
    rw [List.length_append, List.length_singleton, List.length_singleton] at hlength
    have hpos := Nat.length_toDigits_pos (b := 10) (n := b / 10)
    omega
  intro a
  induction a using Nat.strong_induction_on with
  | _ a ih =>
    intro b h
    by_cases ha : a < 10
    · by_cases hb : b < 10
      · rw [Nat.toDigits_of_lt_base ha, Nat.toDigits_of_lt_base hb] at h
        exact hchar ha hb (List.head_eq_of_cons_eq h)
      · exact absurd h (hlast ha (by omega))
    · by_cases hb : b < 10
      · exact absurd h.symm (hlast hb (by omega))
      · rw [Nat.toDigits_of_base_le (by decide) (by omega : 10 ≤ a),
          Nat.toDigits_of_base_le (by decide) (by omega : 10 ≤ b)] at h
        obtain ⟨hquotient, hremainder⟩ := List.append_inj' h rfl
        have hdiv := ih (a / 10) (by omega) hquotient
        have hmod := hchar (Nat.mod_lt _ (by decide)) (Nat.mod_lt _ (by decide))
          (List.head_eq_of_cons_eq hremainder)
        omega

end EcommerceAgent.Lib.Text
