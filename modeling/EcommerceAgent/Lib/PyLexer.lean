/-
# String literals in Python programs

The part of Python's lexical analysis that finds out where string literals begin and end: a program
whose strings are not closed on their line (or, with three quotes, at all) is not a program.  The
quotes inside the braces of an f-string are not told apart.  A text that `json.dumps` writes is read
as one string literal, and denotes the UTF-16 code units of the text.
-/
import EcommerceAgent.Lib.JsonText

namespace EcommerceAgent.Lib.PyLexer

/-- Where the analysis is: in the code, in a comment, behind the first or the second quote of a
literal, or inside a literal with one or with three quotes. -/
inductive LexState
  | code
  | comment
  | opened (quote : Char)
  | closed (quote : Char)
  | single (quote : Char)
  | escape (quote : Char)
  | triple (quote : Char) (seen : ℕ)
  | tripleEscape (quote : Char)
deriving DecidableEq

/-- A character of the code. -/
def stepCode (c : Char) : LexState :=
  if c = '#' then .comment else if c = '"' ∨ c = '\'' then .opened c else .code

/-- A character of a literal with one quote; a line break does not close it. -/
def stepSingle (quote c : Char) : Option LexState :=
  if c = quote then some .code
  else if c = '\\' then some (.escape quote)
  else if c = '\n' ∨ c = '\r' then none
  else some (.single quote)

/-- One character. -/
def step : LexState → Char → Option LexState
  | .code, c => some (stepCode c)
  | .comment, c => some (if c = '\n' then .code else .comment)
  | .opened quote, c => if c = quote then some (.closed quote) else stepSingle quote c
  | .closed quote, c => some (if c = quote then .triple quote 0 else stepCode c)
  | .single quote, c => stepSingle quote c
  | .escape quote, _ => some (.single quote)
  | .triple quote seen, c =>
    if c = quote then some (if seen = 2 then .code else .triple quote (seen + 1))
    else if c = '\\' then some (.tripleEscape quote)
    else some (.triple quote 0)
  | .tripleEscape quote, _ => some (.triple quote 0)

/-- The analysis of a text. -/
def lex (state : LexState) (text : List Char) : Option LexState := text.foldlM step state

/-- Every string literal of the text is closed. -/
def Tokenizes (text : List Char) : Prop :=
  lex .code text = some .code ∨ lex .code text = some .comment ∨
    ∃ quote, lex .code text = some (.closed quote)

/-- The value of a hexadecimal digit. -/
def hexDigit (c : Char) : Option ℕ :=
  if c.isDigit then some (c.toNat - '0'.toNat)
  else if 'a' ≤ c ∧ c ≤ 'f' then some (c.toNat - 'a'.toNat + 10)
  else if 'A' ≤ c ∧ c ≤ 'F' then some (c.toNat - 'A'.toNat + 10)
  else none

/-- The escape sequences of one character that `json.dumps` writes, with their code points. -/
def shortEscapes : List (Char × ℕ) :=
  [('"', 34), ('\\', 92), ('n', 10), ('r', 13), ('t', 9), ('b', 8), ('f', 12)]

/-- The code points that the body of a string literal denotes; `none` for an escape sequence that
`json.dumps` does not write. -/
def denoted : List Char → Option (List ℕ)
  | [] => some []
  | '\\' :: 'u' :: a :: b :: c :: d :: rest => do
    let a ← hexDigit a
    let b ← hexDigit b
    let c ← hexDigit c
    let d ← hexDigit d
    return (((a * 16 + b) * 16 + c) * 16 + d) :: (← denoted rest)
  | '\\' :: c :: rest => do
    let code ← shortEscapes.lookup c
    return code :: (← denoted rest)
  | c :: rest => do return c.toNat :: (← denoted rest)

/-- The UTF-16 code units of a character. -/
def utf16 (c : Char) : List ℕ :=
  if c.toNat < 0x10000 then [c.toNat]
  else [0xd800 + (c.toNat - 0x10000) / 0x400, 0xdc00 + (c.toNat - 0x10000) % 0x400]

variable {state : LexState} {text rest : List Char}

lemma lex_append : lex state (text ++ rest) = (lex state text).bind (lex · rest) :=
  List.foldlM_append

lemma lex_cons {c : Char} : lex state (c :: rest) = (step state c).bind (lex · rest) :=
  List.foldlM_cons

/-! ### Escaped characters -/

/-- The four digits of an escaped code. -/
lemma escapeCode_eq {n : ℕ} (h : n < 65536) : JsonText.escapeCode n =
    ['\\', 'u', Nat.digitChar (n / 4096), Nat.digitChar (n / 256 % 16),
      Nat.digitChar (n / 16 % 16), Nat.digitChar (n % 16)] := by
  have hbase : ∀ n, Nat.toDigits 16 n =
      if n < 16 then [Nat.digitChar n] else Nat.toDigits 16 (n / 16) ++ [Nat.digitChar (n % 16)] :=
    fun n => Nat.toDigits_eq_if (by decide)
  have hzero : Nat.digitChar 0 = '0' := rfl
  have h256 : n / 16 / 16 = n / 256 := Nat.div_div_eq_div_mul n 16 16
  have h4096 : n / 256 / 16 = n / 4096 := Nat.div_div_eq_div_mul n 256 16
  rw [JsonText.escapeCode, hbase n]
  by_cases h1 : n < 16
  · rw [if_pos h1, Nat.div_eq_of_lt (by omega : n < 4096), Nat.div_eq_of_lt (by omega : n < 256),
      Nat.div_eq_of_lt h1, Nat.mod_eq_of_lt h1]
    rfl
  · rw [if_neg h1, hbase (n / 16)]
    by_cases h2 : n / 16 < 16
    · rw [if_pos h2, Nat.div_eq_of_lt (by omega : n < 4096),
        Nat.div_eq_of_lt (by omega : n < 256), Nat.mod_eq_of_lt h2]
      rfl
    · rw [if_neg h2, h256, hbase (n / 256)]
      by_cases h3 : n / 256 < 16
      · rw [if_pos h3, Nat.div_eq_of_lt (by omega : n < 4096), Nat.mod_eq_of_lt h3]
        rfl
      · rw [if_neg h3, h4096, hbase (n / 4096), if_pos (by omega)]
        rfl

/-- What the digits are. -/
lemma digitChar_spec : ∀ m : Fin 16, hexDigit (Nat.digitChar m) = some (m : ℕ) ∧
    Nat.digitChar m ≠ '"' ∧ Nat.digitChar m ≠ '\\' ∧ Nat.digitChar m ≠ '\n' ∧
    Nat.digitChar m ≠ '\r' := by
  decide +kernel

/-- An ordinary character inside a literal. -/
lemma step_ordinary {c : Char} (hquote : c ≠ '"') (hback : c ≠ '\\') (hline : c ≠ '\n')
    (hreturn : c ≠ '\r') : step (.single '"') c = some (.single '"') := by
  rw [step, stepSingle, if_neg hquote, if_neg hback, if_neg (not_or.mpr ⟨hline, hreturn⟩)]

lemma lex_escapeCode {n : ℕ} (h : n < 65536) :
    lex (.single '"') (JsonText.escapeCode n) = some (.single '"') := by
  have hdigit : ∀ {m : ℕ} {rest : List Char}, m < 16 →
      lex (.single '"') (Nat.digitChar m :: rest) = lex (.single '"') rest := by
    intro m rest hm
    obtain ⟨-, hquote, hback, hline, hreturn⟩ := digitChar_spec ⟨m, hm⟩
    rw [lex_cons, step_ordinary hquote hback hline hreturn, Option.bind_some]
  have hescape : ∀ rest, lex (.single '"') ('\\' :: 'u' :: rest) = lex (.single '"') rest :=
    fun rest => rfl
  rw [escapeCode_eq h, hescape, hdigit (by omega), hdigit (by omega), hdigit (by omega),
    hdigit (by omega)]
  rfl

/-- The codes of the two surrogates of a character. -/
lemma surrogates_lt (c : Char) : 0xd800 + (c.toNat - 0x10000) / 0x400 < 65536 ∧
    0xdc00 + (c.toNat - 0x10000) % 0x400 < 65536 := by
  have hvalid : c.toNat < 0xd800 ∨ 0xdfff < c.toNat ∧ c.toNat < 0x110000 := c.valid
  omega

/-- How a character is written: with a short escape sequence, as it is, with its code, or with two
surrogates. -/
lemma escapeChar_cases (c : Char) :
    (∃ d, JsonText.escapeChar c = ['\\', d] ∧ d ≠ 'u' ∧ shortEscapes.lookup d = some c.toNat ∧
      c.toNat < 0x10000) ∨
    (JsonText.escapeChar c = [c] ∧ c ≠ '"' ∧ c ≠ '\\' ∧ c ≠ '\n' ∧ c ≠ '\r' ∧
      c.toNat < 0x10000) ∨
    (JsonText.escapeChar c = JsonText.escapeCode c.toNat ∧ c.toNat < 0x10000) ∨
    (JsonText.escapeChar c = JsonText.escapeCode (0xd800 + (c.toNat - 0x10000) / 0x400) ++
      JsonText.escapeCode (0xdc00 + (c.toNat - 0x10000) % 0x400) ∧ ¬c.toNat < 0x10000) := by
  generalize hl : JsonText.escapeChar c = l
  rw [JsonText.escapeChar] at hl
  split_ifs at hl with h1 h2 h3 h4 h5 h6 h7 h8 h9
  · exact .inl ⟨'"', hl.symm, by decide, by rw [h1]; rfl, by rw [h1]; decide⟩
  · exact .inl ⟨'\\', hl.symm, by decide, by rw [h2]; rfl, by rw [h2]; decide⟩
  · exact .inl ⟨'n', hl.symm, by decide, by rw [h3]; rfl, by rw [h3]; decide⟩
  · exact .inl ⟨'r', hl.symm, by decide, by rw [h4]; rfl, by rw [h4]; decide⟩
  · exact .inl ⟨'t', hl.symm, by decide, by rw [h5]; rfl, by rw [h5]; decide⟩
  · exact .inl ⟨'b', hl.symm, by decide, by rw [h6]; rfl, by omega⟩
  · exact .inl ⟨'f', hl.symm, by decide, by rw [h7]; rfl, by omega⟩
  · exact .inr (.inl ⟨hl.symm, h1, h2, h3, h4, by omega⟩)
  · exact .inr (.inr (.inl ⟨hl.symm, h9⟩))
  · exact .inr (.inr (.inr ⟨hl.symm, h9⟩))

/-- An escaped character keeps the analysis inside the literal. -/
lemma lex_escapeChar (c : Char) :
    lex (.single '"') (JsonText.escapeChar c) = some (.single '"') := by
  rcases escapeChar_cases c with ⟨d, hc, -⟩ | ⟨hc, hquote, hback, hline, hreturn, -⟩ | ⟨hc, hlt⟩ |
    ⟨hc, -⟩
  · rw [hc]
    rfl
  · rw [hc, lex_cons, step_ordinary hquote hback hline hreturn]
    rfl
  · rw [hc, lex_escapeCode hlt]
  · rw [hc, lex_append, lex_escapeCode (surrogates_lt c).1, Option.bind_some,
      lex_escapeCode (surrogates_lt c).2]

/-- An escaped character does not begin with a quote. -/
lemma head_escapeChar (c : Char) : ∃ first rest, JsonText.escapeChar c = first :: rest ∧
    first ≠ '"' := by
  rcases escapeChar_cases c with ⟨d, hc, -⟩ | ⟨hc, hquote, -⟩ | ⟨hc, -⟩ | ⟨hc, -⟩
  · exact ⟨'\\', _, hc, by decide⟩
  · exact ⟨c, _, hc, hquote⟩
  · exact ⟨'\\', _, hc, by decide⟩
  · exact ⟨'\\', _, hc, by decide⟩

/-- The body of a literal. -/
lemma lex_body (l : List Char) :
    lex (.single '"') (l.flatMap JsonText.escapeChar) = some (.single '"') := by
  induction l with
  | nil => rfl
  | cons c l ih => rw [List.flatMap_cons, lex_append, lex_escapeChar, Option.bind_some, ih]

/-- A text that `json.dumps` writes is one literal, unless another quote follows. -/
theorem lex_dumpsString (s : String) {c : Char} (hc : c ≠ '"') (rest : List Char) :
    lex .code (JsonText.dumpsString s ++ c :: rest) = lex .code (c :: rest) := by
  have hopen : ∀ text, lex .code ('"' :: text) = lex (.opened '"') text := fun _ => rfl
  rw [JsonText.dumpsString, List.append_assoc, List.cons_append, hopen]
  cases s.toList with
  | nil =>
    have hclosed : step (.closed '"') c = step .code c := congrArg some (if_neg hc)
    have hempty : lex (.opened '"') ([].flatMap JsonText.escapeChar ++ (['"'] ++ c :: rest)) =
        lex (.closed '"') (c :: rest) := rfl
    rw [hempty, lex_cons, hclosed, ← lex_cons]
  | cons first l =>
    obtain ⟨d, ds, hd, hquote⟩ := head_escapeChar first
    have hfirst : lex (.opened '"') (JsonText.escapeChar first) = some (.single '"') := by
      have hstep : step (.opened '"') d = step (.single '"') d := if_neg hquote
      rw [hd, lex_cons, hstep, ← lex_cons, ← hd, lex_escapeChar]
    have hend : lex (.single '"') (['"'] ++ c :: rest) = lex .code (c :: rest) := rfl
    rw [List.flatMap_cons, List.append_assoc, lex_append, hfirst, Option.bind_some, lex_append,
      lex_body, Option.bind_some, hend]

/-! ### What the literals denote -/

lemma denoted_escapeCode {n : ℕ} (h : n < 65536) (rest : List Char) :
    denoted (JsonText.escapeCode n ++ rest) = (denoted rest).map (n :: ·) := by
  have hhex : ∀ {m : ℕ}, m < 16 → hexDigit (Nat.digitChar m) = some m := fun hm =>
    (digitChar_spec ⟨_, hm⟩).1
  have hvalue : ((n / 4096 * 16 + n / 256 % 16) * 16 + n / 16 % 16) * 16 + n % 16 = n := by omega
  rw [escapeCode_eq h]
  simp only [List.cons_append, List.nil_append, denoted, hhex (by omega : n / 4096 < 16),
    hhex (by omega : n / 256 % 16 < 16), hhex (by omega : n / 16 % 16 < 16),
    hhex (by omega : n % 16 < 16), Option.bind_eq_bind, Option.bind_some, hvalue]
  cases denoted rest <;> rfl

/-- A short escape sequence. -/
lemma denoted_escape {c : Char} {code : ℕ} (hu : c ≠ 'u')
    (hcode : shortEscapes.lookup c = some code) (rest : List Char) :
    denoted ('\\' :: c :: rest) = (denoted rest).map (code :: ·) := by
  rw [denoted, hcode, Option.bind_eq_bind, Option.bind_some]
  · cases denoted rest <;> rfl
  · intro a b c' d rest' hc
    exact absurd hc hu

lemma denoted_ordinary {c : Char} (hback : c ≠ '\\') (rest : List Char) :
    denoted (c :: rest) = (denoted rest).map (c.toNat :: ·) := by
  rw [denoted]
  · cases denoted rest <;> rfl
  · intro a b c' d rest' hc
    exact absurd hc hback
  · intro c' rest' hc
    exact absurd hc hback

/-- An escaped character denotes its UTF-16 code units. -/
lemma denoted_escapeChar (c : Char) (rest : List Char) :
    denoted (JsonText.escapeChar c ++ rest) = (denoted rest).map (utf16 c ++ ·) := by
  rw [utf16]
  rcases escapeChar_cases c with ⟨d, hc, hu, hcode, hlt⟩ | ⟨hc, -, hback, -, -, hlt⟩ | ⟨hc, hlt⟩ |
    ⟨hc, hlt⟩
  · rw [hc, if_pos hlt]
    exact denoted_escape hu hcode rest
  · rw [hc, if_pos hlt]
    exact denoted_ordinary hback rest
  · rw [hc, if_pos hlt, denoted_escapeCode hlt]
    rfl
  · -- two surrogates
    obtain ⟨hhigh, hlow⟩ := surrogates_lt c
    rw [hc, if_neg hlt, List.append_assoc, denoted_escapeCode hhigh, denoted_escapeCode hlow,
      Option.map_map]
    rfl

/-- What the body of a literal denotes. -/
theorem denoted_body (l : List Char) :
    denoted (l.flatMap JsonText.escapeChar) = some (l.flatMap utf16) := by
  induction l with
  | nil => rfl
  | cons c l ih =>
    rw [List.flatMap_cons, denoted_escapeChar, ih, List.flatMap_cons, Option.map_some]

lemma length_utf16 (c : Char) : (utf16 c).length = if c.toNat < 0x10000 then 1 else 2 := by
  rw [utf16]
  split_ifs <;> rfl

/-- The code units are the code points exactly in the basic plane. -/
theorem flatMap_utf16_eq_iff {l : List Char} :
    l.flatMap utf16 = l.map Char.toNat ↔ ∀ c ∈ l, c.toNat < 0x10000 := by
  constructor
  · intro h
    have hlength : ∀ l : List Char, l.length ≤ (l.flatMap utf16).length := by
      intro l
      induction l with
      | nil => exact Nat.le_refl _
      | cons c l ih =>
        rw [List.flatMap_cons, List.length_append, length_utf16, List.length_cons]
        split_ifs <;> omega
    induction l with
    | nil => exact fun c hc => nomatch hc
    | cons c l ih =>
      have hc : c.toNat < 0x10000 := by
        by_contra hc
        have hcount := congrArg List.length h
        rw [List.flatMap_cons, List.length_append, length_utf16, if_neg hc, List.length_map,
          List.length_cons] at hcount
        have := hlength l
        omega
      rw [List.flatMap_cons, utf16, if_pos hc] at h
      exact List.forall_mem_cons.mpr ⟨hc, ih (List.cons_inj_right _ |>.mp h)⟩
  · intro h
    induction l with
    | nil => rfl
    | cons c l ih =>
      obtain ⟨hc, hl⟩ := List.forall_mem_cons.mp h
      rw [List.flatMap_cons, utf16, if_pos hc, ih hl]
      rfl

end EcommerceAgent.Lib.PyLexer
