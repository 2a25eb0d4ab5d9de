/-
# JSON texts are unambiguous

A document is determined by its text, even if something may follow (`plain_unique`), and so is a
text that has been put before an object with a colon between them (`labelled_unique`): a colon that
is followed by a brace can only be inside a string, and seen from there the quotes that open strings
are those that close them.
-/
import EcommerceAgent.Lib.PyLexer

namespace EcommerceAgent.Lib.JsonText

open PyLexer

variable {r r' x : List Char}

-- The characters of a text are checked one by one, not by a search among all characters.
local instance (priority := 2000) decidableForallChar {p : Char → Prop} [DecidablePred p]
    (text : List Char) : Decidable (∀ c ∈ text, p c) :=
  List.decidableBAll p text

local instance (priority := 2000) decidableExistsChar {p : Char → Prop} [DecidablePred p]
    (text : List Char) : Decidable (∃ c ∈ text, p c) :=
  List.decidableBEx p text

/-! ### Strings -/

/-- A text up to the first quote that is not escaped, and what comes after it. -/
def cut : List Char → List Char × List Char
  | [] => ([], [])
  | '"' :: rest => ([], rest)
  | '\\' :: c :: rest => ('\\' :: c :: (cut rest).1, (cut rest).2)
  | c :: rest => (c :: (cut rest).1, (cut rest).2)

lemma cut_ordinary {c : Char} (hquote : c ≠ '"') (hback : c ≠ '\\') (x : List Char) :
    cut (c :: x) = (c :: (cut x).1, (cut x).2) := by
  rw [cut]
  · exact hquote
  · intro d rest hc
    exact absurd hc hback

lemma cut_escapeCode {n : ℕ} (h : n < 65536) (x : List Char) :
    cut (escapeCode n ++ x) = (escapeCode n ++ (cut x).1, (cut x).2) := by
  have hdigit : ∀ {m : ℕ} (x : List Char), m < 16 →
      cut (Nat.digitChar m :: x) = (Nat.digitChar m :: (cut x).1, (cut x).2) := by
    intro m x hm
    obtain ⟨-, hquote, hback, -⟩ := digitChar_spec ⟨m, hm⟩
    exact cut_ordinary hquote hback x
  rw [escapeCode_eq h]
  simp only [List.cons_append, List.nil_append, cut, hdigit _ (by omega : n / 4096 < 16),
    hdigit _ (by omega : n / 256 % 16 < 16), hdigit _ (by omega : n / 16 % 16 < 16),
    hdigit _ (by omega : n % 16 < 16)]

lemma cut_escapeChar (c : Char) (x : List Char) :
    cut (escapeChar c ++ x) = (escapeChar c ++ (cut x).1, (cut x).2) := by
  rcases escapeChar_cases c with ⟨d, hc, -⟩ | ⟨hc, hquote, hback, -⟩ | ⟨hc, hlt⟩ | ⟨hc, -⟩
  · rw [hc]
    rfl
  · rw [hc]
    exact cut_ordinary hquote hback x
  · rw [hc, cut_escapeCode hlt]
  · rw [hc, List.append_assoc, cut_escapeCode (surrogates_lt c).1,
      cut_escapeCode (surrogates_lt c).2, List.append_assoc]

/-- The body of a string ends at the first quote that is not escaped. -/
lemma cut_body (l r : List Char) : cut (l.flatMap escapeChar ++ '"' :: r) =
    (l.flatMap escapeChar, r) := by
  induction l with
  | nil => rfl
  | cons c l ih => rw [List.flatMap_cons, List.append_assoc, cut_escapeChar, ih]

lemma utf16_unique {c d : Char} {a b : List ℕ} (h : utf16 c ++ a = utf16 d ++ b) :
    c = d ∧ a = b := by
  have hc : c.toNat < 0xd800 ∨ 0xdfff < c.toNat ∧ c.toNat < 0x110000 := c.valid
  have hd : d.toNat < 0xd800 ∨ 0xdfff < d.toNat ∧ d.toNat < 0x110000 := d.valid
  have hinj : c.toNat = d.toNat → c = d := fun h => Char.toNat_inj.mp h
  rw [utf16, utf16] at h
  split_ifs at h with h1 h2 h2
  · obtain ⟨hcode, hrest⟩ := List.cons.inj h
    exact ⟨hinj hcode, hrest⟩
  · have hcode := (List.cons.inj h).1
    omega
  · have hcode := (List.cons.inj h).1
    omega
  · obtain ⟨hhigh, h⟩ := List.cons.inj h
    obtain ⟨hlow, hrest⟩ := List.cons.inj h
    exact ⟨hinj (by omega), hrest⟩

lemma utf16_ne_nil (c : Char) : utf16 c ≠ [] := by
  rw [utf16]
  split_ifs <;> exact List.cons_ne_nil _ _

lemma flatMap_utf16_inj : ∀ {l l' : List Char}, l.flatMap utf16 = l'.flatMap utf16 → l = l'
  | [], [], _ => rfl
  | [], c :: _, h => absurd (List.append_eq_nil_iff.mp h.symm).1 (utf16_ne_nil c)
  | c :: _, [], h => absurd (List.append_eq_nil_iff.mp h).1 (utf16_ne_nil c)
  | c :: l, d :: l', h => by
    rw [List.flatMap_cons, List.flatMap_cons] at h
    obtain ⟨rfl, hrest⟩ := utf16_unique h
    rw [flatMap_utf16_inj hrest]

/-- A string is determined by its text, whatever follows. -/
lemma dumpsString_unique {s t : String} (h : dumpsString s ++ r = dumpsString t ++ r') :
    s = t ∧ r = r' := by
  simp only [dumpsString, List.cons_append, List.append_assoc, List.nil_append] at h
  have hcut := congrArg cut (List.cons.inj h).2
  rw [cut_body, cut_body, Prod.mk.injEq] at hcut
  have hdenoted := congrArg denoted hcut.1
  rw [denoted_body, denoted_body, Option.some.injEq] at hdenoted
  exact ⟨String.toList_inj.mp (flatMap_utf16_inj hdenoted), hcut.2⟩

/-! ### Constants and numbers -/

/-- What may follow a value inside of a document. -/
def Ends (r : List Char) : Prop := ∀ c ∈ r.head?, c = ',' ∨ c = ']' ∨ c = '}'

/-- The characters that begin or end other things than constants and numbers. -/
def isMark (c : Char) : Bool := c ∈ ['"', '[', ']', '{', '}', ',']

/-- The text of a constant or a number. -/
def atom? : Json FloatLit → Option (List Char)
  | .null => some "null".toList
  | .bool b => some (if b then "true" else "false").toList
  | .int n => some (toString n).toList
  | .float x => some x.text
  | _ => none

lemma digit_of_mem_int {n : ℤ} {c : Char} (h : c ∈ (toString n).toList) :
    c.isDigit = true ∨ c = '-' := by
  have hnat : ∀ k : ℕ, ∀ c ∈ (toString k).toList, c.isDigit = true := fun k c hc =>
    Nat.isDigit_of_mem_toDigits (b := 10) (by decide) (by decide) (by simpa using hc)
  cases n with
  | ofNat k => exact .inl (hnat k c h)
  | negSucc k =>
    have hmem : c ∈ '-' :: (toString (k + 1)).toList := by simpa [Int.repr] using h
    rcases List.mem_cons.mp hmem with hc | hc
    · exact .inr hc
    · exact .inl (hnat (k + 1) c hc)

lemma toString_nat_inj {k l : ℕ} (h : (toString k).toList = (toString l).toList) : k = l := by
  have hdigits : Nat.toDigits 10 k = Nat.toDigits 10 l := by simpa using h
  rw [← Nat.ofDigitChars_ten_toDigits (n := k), hdigits, Nat.ofDigitChars_ten_toDigits]

/-- An integer is determined by its text. -/
lemma toString_int_inj {m n : ℤ} (h : (toString m).toList = (toString n).toList) : m = n := by
  have hsign : ∀ k l : ℕ, (toString k).toList ≠ '-' :: (toString l).toList := by
    intro k l h
    have hmem : '-' ∈ (toString k).toList := h ▸ List.mem_cons_self
    have hdigit : '-'.isDigit = true :=
      Nat.isDigit_of_mem_toDigits (b := 10) (n := k) (by decide) (by decide) (by simpa using hmem)
    exact absurd hdigit (by decide)
  have hneg : ∀ k : ℕ, (toString (Int.negSucc k)).toList = '-' :: (toString (k + 1)).toList :=
    fun k => by simp [Int.repr]
  cases m with
  | ofNat k =>
    cases n with
    | ofNat l => exact congrArg Int.ofNat (toString_nat_inj h)
    | negSucc l =>
      rw [hneg] at h
      exact absurd h (hsign k (l + 1))
  | negSucc k =>
    cases n with
    | ofNat l =>
      rw [hneg] at h
      exact absurd h.symm (hsign l (k + 1))
    | negSucc l =>
      rw [hneg, hneg] at h
      have hkl := toString_nat_inj (List.cons.inj h).2
      rw [Nat.add_right_cancel hkl]

lemma toString_int_ne {n : ℤ} {text : List Char} (h : ∃ c ∈ text, c.isDigit = false ∧ c ≠ '-') :
    (toString n).toList ≠ text := by
  rintro rfl
  obtain ⟨c, hc, hdigit, hsign⟩ := h
  rcases digit_of_mem_int hc with hc | hc
  · rw [hc] at hdigit
    cases hdigit
  · exact hsign hc

lemma floatLit_ne (x : FloatLit) {text : List Char} (h : ∃ c ∈ text, c ∉ floatChars) :
    x.text ≠ text := by
  rintro rfl
  obtain ⟨c, hc, hnot⟩ := h
  exact hnot (x.chars c hc)

/-- A constant or a number is determined by its text. -/
lemma atom_unique {v w : Json FloatLit} {a : List Char} (hv : atom? v = some a)
    (hw : atom? w = some a) : v = w := by
  have hnull : ∃ c ∈ "null".toList, c ∉ floatChars := by decide
  have hbool : ∀ b : Bool, ∃ c ∈ (if b then "true" else "false").toList, c ∉ floatChars := by
    decide
  have hnullInt : ∃ c ∈ "null".toList, c.isDigit = false ∧ c ≠ '-' := by decide
  have hboolInt : ∀ b : Bool, ∃ c ∈ (if b then "true" else "false").toList,
      c.isDigit = false ∧ c ≠ '-' := by decide
  have hboolNull : ∀ b : Bool, (if b then "true" else "false").toList ≠ "null".toList := by decide
  have hboolBool : ∀ b c : Bool, (if b then "true" else "false").toList =
      (if c then "true" else "false").toList → b = c := by decide
  rw [← hw] at hv
  cases v <;> cases w <;> simp only [atom?, Option.some.injEq, reduceCtorEq] at hv hw ⊢
  case null.bool c => exact absurd hv.symm (hboolNull c)
  case null.int n => exact absurd hv.symm (toString_int_ne hnullInt)
  case null.float x => exact absurd hv.symm (floatLit_ne x hnull)
  case bool.null b => exact absurd hv (hboolNull b)
  case bool.bool b c => rw [hboolBool b c hv]
  case bool.int b n => exact absurd hv.symm (toString_int_ne (hboolInt b))
  case bool.float b x => exact absurd hv.symm (floatLit_ne x (hbool b))
  case int.null n => exact absurd hv (toString_int_ne hnullInt)
  case int.bool n b => exact absurd hv (toString_int_ne (hboolInt b))
  case int.int m n => rw [toString_int_inj hv]
  case int.float n x => exact absurd hv (toString_int_ne x.notInt)
  case float.null x => exact absurd hv (floatLit_ne x hnull)
  case float.bool x b => exact absurd hv (floatLit_ne x (hbool b))
  case float.int x n => exact absurd hv.symm (toString_int_ne x.notInt)
  case float.float x y =>
    cases x
    cases y
    cases hv
    rfl

lemma isMark_of_atom {v : Json FloatLit} {a : List Char} (h : atom? v = some a) :
    ∀ c ∈ a, isMark c = false := by
  have hfloat : ∀ c ∈ floatChars, isMark c = false := by decide
  cases v <;> simp only [atom?, Option.some.injEq, reduceCtorEq] at h <;> subst h
  case null => decide
  case bool b => cases b <;> decide
  case int n =>
    intro c hc
    by_contra hmark
    have hcases : c ∈ ['"', '[', ']', '{', '}', ','] :=
      of_decide_eq_true (Bool.not_eq_false _ |>.mp hmark)
    have hnone : ∀ d ∈ ['"', '[', ']', '{', '}', ','], ¬(d.isDigit = true ∨ d = '-') := by decide
    exact hnone c hcases (digit_of_mem_int hc)
  case float x => exact fun c hc => hfloat c (x.chars c hc)

lemma atom_ne_nil {v : Json FloatLit} {a : List Char} (h : atom? v = some a) : a ≠ [] := by
  cases v <;> simp only [atom?, Option.some.injEq, reduceCtorEq] at h <;> subst h
  case null => decide
  case bool b => cases b <;> decide
  case int n =>
    cases n with
    | ofNat k => simp [Int.repr]
    | negSucc k => simp [Int.repr]
  case float x =>
    obtain ⟨c, hc, -⟩ := x.notInt
    exact List.ne_nil_of_mem hc

/-- Texts without marks end where something may follow. -/
lemma split_unique {a b : List Char} (ha : ∀ c ∈ a, isMark c = false)
    (hb : ∀ c ∈ b, isMark c = false) (hr : Ends r) (hr' : Ends r') (h : a ++ r = b ++ r') :
    a = b ∧ r = r' := by
  have htake : ∀ {a r : List Char}, (∀ c ∈ a, isMark c = false) → Ends r →
      (a ++ r).takeWhile (fun c => !isMark c) = a := by
    intro a r ha hr
    rw [List.takeWhile_append_of_pos fun c hc => by simp [ha c hc]]
    have hnil : r.takeWhile (fun c => !isMark c) = [] := by
      cases r with
      | nil => rfl
      | cons c r =>
        rcases hr c rfl with rfl | rfl | rfl <;> rfl
    rw [hnil, List.append_nil]
  have hab : a = b := by rw [← htake ha hr, h, htake hb hr']
  subst hab
  exact ⟨rfl, List.append_cancel_left h⟩

/-! ### Documents -/

lemma plain_of_atom {v : Json FloatLit} {a : List Char} (h : atom? v = some a) : plain v = a := by
  cases v <;> simp only [atom?, Option.some.injEq, reduceCtorEq] at h <;> subst h <;> rfl

/-- How the text of a document begins. -/
lemma plain_head (v : Json FloatLit) : ∃ c text, plain v = c :: text ∧ c ≠ ',' ∧ c ≠ ']' ∧ c ≠ '}' ∧
    (c = '"' ↔ ∃ s, v = .str s) ∧ (c = '[' ↔ ∃ l, v = .arr l) ∧ (c = '{' ↔ ∃ d, v = .obj d) := by
  cases hatom : atom? v with
  | some a =>
    have hplain := plain_of_atom hatom
    obtain ⟨c, text, rfl⟩ := List.exists_cons_of_ne_nil (atom_ne_nil hatom)
    have hmark := isMark_of_atom hatom c List.mem_cons_self
    have hne : ∀ d, isMark d = true → c ≠ d := by
      rintro d hd rfl
      rw [hd] at hmark
      cases hmark
    have hstr : ¬∃ s, v = .str s := by
      rintro ⟨s, rfl⟩
      cases hatom
    have harr : ¬∃ l, v = .arr l := by
      rintro ⟨l, rfl⟩
      cases hatom
    have hobj : ¬∃ d, v = .obj d := by
      rintro ⟨d, rfl⟩
      cases hatom
    exact ⟨c, text, hplain, hne _ rfl, hne _ rfl, hne _ rfl, iff_of_false (hne _ rfl) hstr,
      iff_of_false (hne _ rfl) harr, iff_of_false (hne _ rfl) hobj⟩
  | none =>
    cases v with
    | null | bool | int | float => cases hatom
    | str s => exact ⟨'"', _, rfl, by decide, by decide, by decide, by simp, by simp, by simp⟩
    | arr l => exact ⟨'[', _, rfl, by decide, by decide, by decide, by simp, by simp, by simp⟩
    | obj d => exact ⟨'{', _, rfl, by decide, by decide, by decide, by simp, by simp, by simp⟩

/-- What comes after an element of an array or an object. -/
lemma ends_writeList (l : List (Json FloatLit)) (r : List Char) :
    Ends (writeList dumpsString FloatLit.text false l ++ ']' :: r) := by
  cases l with
  | nil =>
    rintro c ⟨⟩
    exact .inr (.inl rfl)
  | cons v l =>
    rintro c ⟨⟩
    exact .inl rfl

@[inherit_doc ends_writeList]
lemma ends_writeEntries (d : List (String × Json FloatLit)) (r : List Char) :
    Ends (writeEntries dumpsString FloatLit.text false d ++ '}' :: r) := by
  cases d with
  | nil =>
    rintro c ⟨⟩
    exact .inr (.inr rfl)
  | cons e d =>
    rintro c ⟨⟩
    exact .inl rfl

/-- The first character tells what kind of document it is. -/
lemma same_kind {v w : Json FloatLit} (h : plain v ++ r = plain w ++ r') :
    ((∃ s, v = .str s) ↔ ∃ s, w = .str s) ∧ ((∃ l, v = .arr l) ↔ ∃ l, w = .arr l) ∧
      ((∃ d, v = .obj d) ↔ ∃ d, w = .obj d) := by
  obtain ⟨c, text, hv, -, -, -, hstr, harr, hobj⟩ := plain_head v
  obtain ⟨c', text', hw, -, -, -, hstr', harr', hobj'⟩ := plain_head w
  rw [hv, hw] at h
  obtain rfl : c = c' := (List.cons.inj h).1
  exact ⟨hstr.symm.trans hstr', harr.symm.trans harr', hobj.symm.trans hobj'⟩

lemma plain_unique_of_atom {v w : Json FloatLit} (hatom : (atom? v).isSome) (hr : Ends r)
    (hr' : Ends r') (h : plain v ++ r = plain w ++ r') : v = w ∧ r = r' := by
  obtain ⟨a, ha⟩ := Option.isSome_iff_exists.mp hatom
  obtain ⟨hstr, harr, hobj⟩ := same_kind h
  have hb : ∃ b, atom? w = some b := by
    cases w with
    | null | bool | int | float => exact ⟨_, rfl⟩
    | str s =>
      obtain ⟨s, rfl⟩ := hstr.mpr ⟨s, rfl⟩
      cases ha
    | arr l =>
      obtain ⟨l, rfl⟩ := harr.mpr ⟨l, rfl⟩
      cases ha
    | obj d =>
      obtain ⟨d, rfl⟩ := hobj.mpr ⟨d, rfl⟩
      cases ha
  obtain ⟨b, hb⟩ := hb
  rw [plain_of_atom ha, plain_of_atom hb] at h
  obtain ⟨rfl, hrest⟩ := split_unique (isMark_of_atom ha) (isMark_of_atom hb) hr hr' h
  exact ⟨atom_unique ha hb, hrest⟩

lemma writeList_cons_ne (first : Bool) (v : Json FloatLit) (l : List (Json FloatLit))
    (x y : List Char) :
    writeList dumpsString FloatLit.text first (v :: l) ++ x ≠ ']' :: y := by
  obtain ⟨c, text, hv, -, hbracket, -⟩ := plain_head v
  rw [plain] at hv
  intro h
  rw [writeList, hv] at h
  cases first with
  | false => cases (List.cons.inj h).1
  | true => exact hbracket (List.cons.inj h).1

lemma writeEntries_cons_ne (first : Bool) (e : String × Json FloatLit)
    (d : List (String × Json FloatLit)) (x y : List Char) :
    writeEntries dumpsString FloatLit.text first (e :: d) ++ x ≠ '}' :: y := by
  intro h
  cases first <;> cases (List.cons.inj h).1

mutual

/-- A document is determined by its text, whatever follows. -/
theorem plain_unique : ∀ (v : Json FloatLit) {w : Json FloatLit} {r r' : List Char}, Ends r →
    Ends r' → plain v ++ r = plain w ++ r' → v = w ∧ r = r'
  | .null, _, _, _, hr, hr', h => plain_unique_of_atom rfl hr hr' h
  | .bool _, _, _, _, hr, hr', h => plain_unique_of_atom rfl hr hr' h
  | .int _, _, _, _, hr, hr', h => plain_unique_of_atom rfl hr hr' h
  | .float _, _, _, _, hr, hr', h => plain_unique_of_atom rfl hr hr' h
  | .str s, _, _, _, _, _, h => by
    obtain ⟨t, rfl⟩ := (same_kind h).1.mp ⟨s, rfl⟩
    obtain ⟨rfl, hrest⟩ := dumpsString_unique h
    exact ⟨rfl, hrest⟩
  | .arr l, _, r, r', _, _, h => by
    obtain ⟨l', rfl⟩ := (same_kind h).2.1.mp ⟨l, rfl⟩
    have hbody : writeList dumpsString FloatLit.text true l ++ ']' :: r =
        writeList dumpsString FloatLit.text true l' ++ ']' :: r' := by
      simpa [plain, write] using h
    obtain ⟨rfl, hrest⟩ := writeList_unique l hbody
    exact ⟨rfl, hrest⟩
  | .obj d, _, r, r', _, _, h => by
    obtain ⟨d', rfl⟩ := (same_kind h).2.2.mp ⟨d, rfl⟩
    have hbody : writeEntries dumpsString FloatLit.text true d ++ '}' :: r =
        writeEntries dumpsString FloatLit.text true d' ++ '}' :: r' := by
      simpa [plain, write] using h
    obtain ⟨rfl, hrest⟩ := writeEntries_unique d hbody
    exact ⟨rfl, hrest⟩

lemma writeList_unique : ∀ (l : List (Json FloatLit)) {first : Bool} {l' : List (Json FloatLit)}
    {r r' : List Char}, writeList dumpsString FloatLit.text first l ++ ']' :: r =
      writeList dumpsString FloatLit.text first l' ++ ']' :: r' → l = l' ∧ r = r'
  | [], _, [], _, _, h => ⟨rfl, (List.cons.inj h).2⟩
  | [], first, w :: l', _, _, h => absurd h.symm (writeList_cons_ne first w l' _ _)
  | v :: l, first, [], _, _, h => absurd h (writeList_cons_ne first v l _ _)
  | v :: l, first, w :: l', r, r', h => by
    have hvalue : plain v ++ (writeList dumpsString FloatLit.text false l ++ ']' :: r) =
        plain w ++ (writeList dumpsString FloatLit.text false l' ++ ']' :: r') := by
      simp only [writeList, List.append_assoc] at h
      exact List.append_cancel_left h
    obtain ⟨rfl, htail⟩ := plain_unique v (ends_writeList l r) (ends_writeList l' r') hvalue
    obtain ⟨rfl, hrest⟩ := writeList_unique l htail
    exact ⟨rfl, hrest⟩

lemma writeEntries_unique : ∀ (d : List (String × Json FloatLit)) {first : Bool}
    {d' : List (String × Json FloatLit)} {r r' : List Char},
    writeEntries dumpsString FloatLit.text first d ++ '}' :: r =
      writeEntries dumpsString FloatLit.text first d' ++ '}' :: r' → d = d' ∧ r = r'
  | [], _, [], _, _, h => ⟨rfl, (List.cons.inj h).2⟩
  | [], first, e :: d', _, _, h => absurd h.symm (writeEntries_cons_ne first e d' _ _)
  | e :: d, first, [], _, _, h => absurd h (writeEntries_cons_ne first e d _ _)
  | (k, v) :: d, first, (k', w) :: d', r, r', h => by
    simp only [writeEntries, List.append_assoc] at h
    obtain ⟨rfl, hvalue⟩ := dumpsString_unique (List.append_cancel_left h)
    obtain ⟨rfl, htail⟩ := plain_unique v (ends_writeEntries d r) (ends_writeEntries d' r')
      (List.append_cancel_left hvalue)
    obtain ⟨rfl, hrest⟩ := writeEntries_unique d htail
    exact ⟨rfl, hrest⟩

end

/-- Two documents with one text are equal up to the order of their entries. -/
theorem sorted_eq_of_dumps_eq {v w : Json FloatLit} (h : dumps v = dumps w) :
    sorted v = sorted w := by
  have hends : Ends [] := by
    rintro c ⟨⟩
  exact (plain_unique (sorted v) hends hends (by rw [← dumps, ← dumps, h])).1

/-! ### Labels -/

/-- Where a character of a document is. -/
inductive Place
  | outside
  | colon
  | inside
  | escaped
deriving DecidableEq

/-- From a character to the next one; `none` for what no document has. -/
def move : Place → Char → Option Place
  | .outside, c =>
    if c = '"' then some .inside
    else if c = '\\' then none
    else if c = ':' then some .colon
    else some .outside
  | .colon, c => if c = ' ' then some .outside else none
  | .inside, c =>
    if c = '"' then some .outside else if c = '\\' then some .escaped else some .inside
  | .escaped, c => if c = ':' then none else some .inside

def walk (p : Place) (text : List Char) : Option Place := text.foldlM move p

variable {p q p' q' : Place} {text rest : List Char}

lemma walk_append : walk p (text ++ rest) = (walk p text).bind (walk · rest) :=
  List.foldlM_append

lemma walk_cons {c : Char} : walk p (c :: rest) = (move p c).bind (walk · rest) :=
  List.foldlM_cons

/-- One of the two places is inside of a string, and the other one is not. -/
def Apart (p q : Place) : Prop :=
  p = .inside ∧ (q = .outside ∨ q = .colon) ∨ q = .inside ∧ (p = .outside ∨ p = .colon)

lemma Apart.move {c : Char} (h : Apart p q) (hp : move p c = some p') (hq : move q c = some q') :
    Apart p' q' := by
  rcases h with ⟨rfl, rfl | rfl⟩ | ⟨rfl, rfl | rfl⟩ <;> simp only [JsonText.move] at hp hq <;>
    split_ifs at hp hq <;> simp_all [Apart]

/-- Whoever reads a text from the inside and from the outside ends in different places. -/
lemma Apart.walk (h : Apart p q) (hp : walk p text = some p') (hq : walk q text = some q') :
    Apart p' q' := by
  induction text generalizing p q with
  | nil =>
    obtain rfl := Option.some.inj hp
    obtain rfl := Option.some.inj hq
    exact h
  | cons c text ih =>
    rw [walk_cons] at hp hq
    obtain ⟨p₁, hp₁, hp⟩ := Option.bind_eq_some_iff.mp hp
    obtain ⟨q₁, hq₁, hq⟩ := Option.bind_eq_some_iff.mp hq
    exact ih (h.move hp₁ hq₁) hp hq

lemma walk_escapeCode {n : ℕ} (h : n < 65536) : walk .inside (escapeCode n) = some .inside := by
  have hdigit : ∀ {m : ℕ} {rest : List Char}, m < 16 →
      walk .inside (Nat.digitChar m :: rest) = walk .inside rest := by
    intro m rest hm
    obtain ⟨-, hquote, hback, -⟩ := digitChar_spec ⟨m, hm⟩
    rw [walk_cons, move, if_neg hquote, if_neg hback, Option.bind_some]
  have hescape : ∀ rest, walk .inside ('\\' :: 'u' :: rest) = walk .inside rest := fun rest => rfl
  rw [escapeCode_eq h, hescape, hdigit (by omega), hdigit (by omega), hdigit (by omega),
    hdigit (by omega)]
  rfl

lemma walk_escapeChar (c : Char) : walk .inside (escapeChar c) = some .inside := by
  rcases escapeChar_cases c with ⟨d, hc, -, hlookup, -⟩ | ⟨hc, hquote, hback, -⟩ | ⟨hc, hlt⟩ |
    ⟨hc, -⟩
  · have hcolon : d ≠ ':' := by
      rintro rfl
      cases hlookup
    rw [hc, walk_cons]
    show walk .escaped [d] = _
    rw [walk_cons, move, if_neg hcolon]
    rfl
  · rw [hc, walk_cons, move, if_neg hquote, if_neg hback]
    rfl
  · rw [hc, walk_escapeCode hlt]
  · rw [hc, walk_append, walk_escapeCode (surrogates_lt c).1, Option.bind_some,
      walk_escapeCode (surrogates_lt c).2]

lemma walk_dumpsString (s : String) : walk .outside (dumpsString s) = some .outside := by
  have hbody : walk .inside (s.toList.flatMap escapeChar) = some .inside := by
    induction s.toList with
    | nil => rfl
    | cons c l ih => rw [List.flatMap_cons, walk_append, walk_escapeChar, Option.bind_some, ih]
  show walk .inside (s.toList.flatMap escapeChar ++ ['"']) = some .outside
  rw [walk_append, hbody]
  rfl

lemma walk_ordinary {text : List Char} (h : ∀ c ∈ text, c ≠ '"' ∧ c ≠ '\\' ∧ c ≠ ':') :
    walk .outside text = some .outside := by
  induction text with
  | nil => rfl
  | cons c text ih =>
    obtain ⟨⟨hquote, hback, hcolon⟩, htext⟩ := List.forall_mem_cons.mp h
    rw [walk_cons, move, if_neg hquote, if_neg hback, if_neg hcolon, Option.bind_some, ih htext]

mutual

/-- A document begins and ends outside of strings. -/
lemma walk_plain : ∀ v : Json FloatLit, walk .outside (plain v) = some .outside
  | .null => rfl
  | .bool true => rfl
  | .bool false => rfl
  | .int n => by
    have hdigits : ∀ c ∈ ['"', '\\', ':'], ¬(c.isDigit = true ∨ c = '-') := by decide
    refine walk_ordinary fun c hc => ?_
    have hdigit := digit_of_mem_int hc
    refine ⟨?_, ?_, ?_⟩ <;> rintro rfl <;> exact hdigits _ (by decide) hdigit
  | .float x => by
    have hchars : ∀ c ∈ floatChars, c ≠ '"' ∧ c ≠ '\\' ∧ c ≠ ':' := by decide
    exact walk_ordinary fun c hc => hchars c (x.chars c hc)
  | .str s => walk_dumpsString s
  | .arr l => by
    show walk .outside (writeList dumpsString FloatLit.text true l ++ [']']) = _
    rw [walk_append, walk_writeList true l]
    rfl
  | .obj d => by
    show walk .outside (writeEntries dumpsString FloatLit.text true d ++ ['}']) = _
    rw [walk_append, walk_writeEntries true d]
    rfl

lemma walk_writeList : ∀ (first : Bool) (l : List (Json FloatLit)),
    walk .outside (writeList dumpsString FloatLit.text first l) = some .outside
  | _, [] => rfl
  | first, v :: l => by
    have hvalue := walk_plain v
    have hseparator : walk .outside (if first then [] else [',', ' ']) = some .outside := by
      cases first <;> rfl
    rw [plain] at hvalue
    rw [writeList, walk_append, walk_append, hseparator, Option.bind_some, hvalue,
      Option.bind_some, walk_writeList false l]

lemma walk_writeEntries : ∀ (first : Bool) (d : List (String × Json FloatLit)),
    walk .outside (writeEntries dumpsString FloatLit.text first d) = some .outside
  | _, [] => rfl
  | first, (k, v) :: d => by
    have hvalue := walk_plain v
    have hseparator : walk .outside (if first then [] else [',', ' ']) = some .outside := by
      cases first <;> rfl
    have hcolon : walk .outside [':', ' '] = some .outside := rfl
    rw [plain] at hvalue
    rw [writeEntries, walk_append, walk_append, walk_append, walk_append, hseparator,
      Option.bind_some, walk_dumpsString, Option.bind_some, hcolon, Option.bind_some, hvalue,
      Option.bind_some, walk_writeEntries false d]

end

/-- No object ends with a colon and another object. -/
lemma plain_ne_append {d d' : List (String × Json FloatLit)} (text : List Char) :
    plain (.obj d) ≠ text ++ ':' :: plain (.obj d') := by
  intro h
  have hwhole := walk_plain (.obj d)
  rw [h, walk_append] at hwhole
  obtain ⟨p, -, hwhole⟩ := Option.bind_eq_some_iff.mp hwhole
  rw [walk_cons] at hwhole
  obtain ⟨q, hq, hwhole⟩ := Option.bind_eq_some_iff.mp hwhole
  cases p with
  | outside =>
    -- outside of a string a blank follows the colon
    obtain rfl : .colon = q := Option.some.inj hq
    cases hwhole
  | colon => cases hq
  | inside =>
    obtain rfl : .inside = q := Option.some.inj hq
    have hapart : Apart .outside .outside :=
      Apart.walk (.inl ⟨rfl, .inl rfl⟩) hwhole (walk_plain (.obj d'))
    rcases hapart with ⟨hinside, -⟩ | ⟨hinside, -⟩ <;> cases hinside
  | escaped => cases hq

/-- A label before an object is determined, whatever its characters are. -/
theorem labelled_unique {name name' : List Char} (d d' : List (String × Json FloatLit))
    (h : name ++ ':' :: plain (.obj d) = name' ++ ':' :: plain (.obj d')) :
    name = name' ∧ plain (.obj d) = plain (.obj d') := by
  have hwithin : ∀ {d d' : List (String × Json FloatLit)} {a : List Char},
      ':' :: plain (.obj d) = a ++ ':' :: plain (.obj d') → a = [] := by
    intro d d' a h
    cases a with
    | nil => rfl
    | cons c a =>
      rw [List.cons_append] at h
      exact absurd (List.cons.inj h).2 (plain_ne_append a)
  rcases List.append_eq_append_iff.mp h with ⟨a, rfl, hrest⟩ | ⟨a, rfl, hrest⟩
  · obtain rfl := hwithin hrest
    exact ⟨(List.append_nil name).symm, (List.cons.inj hrest).2⟩
  · obtain rfl := hwithin hrest
    exact ⟨List.append_nil name', (List.cons.inj hrest).2.symm⟩

end EcommerceAgent.Lib.JsonText
