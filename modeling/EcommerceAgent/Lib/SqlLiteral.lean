/-
# String literals of MySQL

How the lexer of MySQL reads a string literal: the quote is doubled inside, and a backslash escapes
the character that follows it, unless the server runs in `NO_BACKSLASH_ESCAPES`.  A text whose
quotes are doubled is read back if the server knows no escapes (`readLiteral_quoted`); if it does,
the text is read back exactly if all its backslashes stand before `%` or `_`, where they are kept
(`readLiteral_quoted_iff`).
-/
import Mathlib.Tactic.Common

namespace EcommerceAgent.Lib.SqlLiteral

/-- The quote of string literals. -/
def quote : Char := '\''

/-- The character that escapes. -/
def backslash : Char := Char.ofNat 92

/-- What an escaped character stands for. -/
def unescape (c : Char) : List Char :=
  if c = '0' then [Char.ofNat 0]
  else if c = 'b' then [Char.ofNat 8]
  else if c = 't' then [Char.ofNat 9]
  else if c = 'n' then [Char.ofNat 10]
  else if c = 'r' then [Char.ofNat 13]
  else if c = 'Z' then [Char.ofNat 26]
  else if c = '%' ∨ c = '_' then [backslash, c]
  else [c]

/-- What is read before the rest. -/
def before (value : List Char) (read : Option (List Char × List Char)) :
    Option (List Char × List Char) := read.map fun p => (value ++ p.1, p.2)

/-- The value of a literal after its first quote, and the text behind it. -/
def readRest (escapes : Bool) : List Char → Option (List Char × List Char)
  | [] => none
  | [c] => if c = quote then some ([], []) else none
  | c :: c' :: text =>
    if escapes ∧ c = backslash then before (unescape c') (readRest escapes text)
    else if c ≠ quote then before [c] (readRest escapes (c' :: text))
    else if c' = quote then before [quote] (readRest escapes text)
    else some ([], c' :: text)

/-- The value of the literal at the front of a text, and the text behind it. -/
def readLiteral (escapes : Bool) : List Char → Option (List Char × List Char)
  | [] => none
  | c :: text => if c = quote then readRest escapes text else none

/-- `value.replace("'", "''")`. -/
def double (value : List Char) : List Char :=
  value.flatMap fun c => if c = quote then [quote, quote] else [c]

/-- The text between quotes. -/
def quoted (value : List Char) : List Char := quote :: (double value ++ [quote])

/-- Every backslash stands before `%` or `_`. -/
def PlainBackslashes : List Char → Prop
  | [] => True
  | [c] => c ≠ backslash
  | c :: c' :: text =>
    (c = backslash → c' = '%' ∨ c' = '_') ∧ PlainBackslashes (c' :: text)

instance PlainBackslashes.decidable : (value : List Char) → Decidable (PlainBackslashes value)
  | [] => .isTrue trivial
  | [_] => inferInstanceAs (Decidable (_ ≠ _))
  | c :: c' :: text =>
    have := PlainBackslashes.decidable (c' :: text)
    inferInstanceAs (Decidable ((c = backslash → c' = '%' ∨ c' = '_') ∧ _))

lemma plainBackslashes_of_notMem {value : List Char} (h : backslash ∉ value) :
    PlainBackslashes value := by
  induction value with
  | nil => trivial
  | cons c value ih =>
    have hc : c ≠ backslash := fun hc => h (hc ▸ List.mem_cons_self)
    have hrest := ih fun hmem => h (List.mem_cons_of_mem _ hmem)
    cases value with
    | nil => exact hc
    | cons c' value => exact ⟨fun heq => absurd heq hc, hrest⟩

lemma PlainBackslashes.tail {c : Char} {value : List Char} (h : PlainBackslashes (c :: value)) :
    PlainBackslashes value := by
  cases value with
  | nil => trivial
  | cons c' value => exact h.2

/-! ### Single steps -/

@[simp] lemma double_nil : double [] = [] := rfl

lemma double_quote (value : List Char) : double (quote :: value) = quote :: quote :: double value :=
  rfl

lemma double_cons {c : Char} (h : c ≠ quote) (value : List Char) :
    double (c :: value) = c :: double value := by
  rw [double, List.flatMap_cons, if_neg h]
  rfl

lemma double_eq_self {value : List Char} (h : quote ∉ value) : double value = value := by
  induction value with
  | nil => rfl
  | cons c value ih =>
    have hc : c ≠ quote := fun hc => h (hc ▸ List.mem_cons_self)
    rw [double_cons hc, ih fun hmem => h (List.mem_cons_of_mem _ hmem)]

@[simp] lemma before_some (value : List Char) (p : List Char × List Char) :
    before value (some p) = some (value ++ p.1, p.2) := rfl

variable {escapes : Bool} {value rest : List Char} {c : Char}

/-- The literal ends at a quote that is not doubled. -/
lemma readRest_quote (hrest : rest.head? ≠ some quote) :
    readRest escapes (quote :: rest) = some ([], rest) := by
  cases rest with
  | nil => rfl
  | cons c rest =>
    have hc : c ≠ quote := fun hc => hrest (congrArg some hc)
    rw [readRest, if_neg, if_neg (by simp), if_neg hc]
    rintro ⟨-, h⟩
    revert h
    decide

lemma readRest_quotes (text : List Char) :
    readRest escapes (quote :: quote :: text) = before [quote] (readRest escapes text) := by
  rw [readRest, if_neg, if_neg (by simp), if_pos rfl]
  rintro ⟨-, h⟩
  revert h
  decide

/-- A plain character stands for itself. -/
lemma readRest_cons {text : List Char} (hquote : c ≠ quote) (hescape : escapes → c ≠ backslash)
    (htext : text ≠ []) : readRest escapes (c :: text) = before [c] (readRest escapes text) := by
  obtain ⟨c', text, rfl⟩ := List.exists_cons_of_ne_nil htext
  rw [readRest, if_neg, if_pos hquote]
  rintro ⟨h, hc⟩
  exact hescape h hc

lemma readRest_escape (c : Char) (text : List Char) :
    readRest true (backslash :: c :: text) = before (unescape c) (readRest true text) := by
  rw [readRest, if_pos ⟨rfl, rfl⟩]

/-- Only an escaped backslash stands for one backslash. -/
lemma unescape_head (h : (unescape c).head? = some backslash) :
    (c = '%' ∨ c = '_') ∨ c = backslash := by
  rw [unescape] at h
  split_ifs at h with h1 h2 h3 h4 h5 h6 h7
  · exact absurd h (by decide)
  · exact absurd h (by decide)
  · exact absurd h (by decide)
  · exact absurd h (by decide)
  · exact absurd h (by decide)
  · exact absurd h (by decide)
  · exact .inl h7
  · exact .inr (Option.some.inj h)

lemma unescape_kept (h : c = '%' ∨ c = '_') : unescape c = [backslash, c] := by
  rcases h with rfl | rfl <;> decide

lemma unescape_backslash : unescape backslash = [backslash] := by decide

/-! ### Reading back -/

lemma double_append_ne_nil (value rest : List Char) : double value ++ quote :: rest ≠ [] := by
  simp

/-- A text with doubled quotes is read back, if its backslashes are plain or do not escape. -/
theorem readRest_double (hvalue : escapes → PlainBackslashes value)
    (hrest : rest.head? ≠ some quote) :
    readRest escapes (double value ++ quote :: rest) = some (value, rest) := by
  -- A kept escape takes two characters at a time.
  induction hlength : value.length using Nat.strongRecOn generalizing value with
  | ind n ih =>
    subst hlength
    cases value with
    | nil => exact readRest_quote hrest
    | cons c value =>
      have hread : readRest escapes (double value ++ quote :: rest) = some (value, rest) :=
        ih value.length (by simp) (fun h => (hvalue h).tail) rfl
      by_cases hquote : c = quote
      · subst hquote
        rw [double_quote, List.cons_append, List.cons_append, readRest_quotes, hread]
        rfl
      · rw [double_cons hquote, List.cons_append]
        by_cases hescape : escapes = true → c ≠ backslash
        · rw [readRest_cons hquote hescape (double_append_ne_nil value rest), hread]
          rfl
        · obtain ⟨rfl, rfl⟩ : escapes = true ∧ c = backslash := by simpa using hescape
          cases value with
          | nil => exact absurd rfl (hvalue rfl)
          | cons c' value =>
            have hkept := (hvalue rfl).1 rfl
            have hquote' : c' ≠ quote := by
              rintro rfl
              revert hkept
              decide
            rw [double_cons hquote', List.cons_append, readRest_escape, unescape_kept hkept,
              ih value.length (by simp only [List.length_cons]; omega)
                (fun h => (hvalue h).tail.tail) rfl]
            rfl

/-- Backslashes that are missing in front are never made up for. -/
lemma readRest_ne_replicate {k : ℕ} (hk : 0 < k) (hrest : rest.head? ≠ some quote)
    {after : List Char} : readRest true (double value ++ quote :: rest) ≠
      some (List.replicate k backslash ++ value, after) := by
  induction hlength : value.length using Nat.strongRecOn generalizing value k with
  | ind n ih =>
    subst hlength
    obtain ⟨k, rfl⟩ : ∃ m, k = m + 1 := ⟨k - 1, by omega⟩
    rw [List.replicate_succ, List.cons_append]
    -- What is read begins with a backslash.
    have hhead : ∀ {x v : List Char} {p : Option (List Char × List Char)},
        x.head? ≠ some backslash → x ≠ [] → before x p ≠ some (backslash :: v, after) := by
      rintro x v p hx hne heq
      obtain ⟨c, x, rfl⟩ := List.exists_cons_of_ne_nil hne
      obtain ⟨q, -, hq⟩ := Option.map_eq_some_iff.mp heq
      have hfirst := congrArg (List.head? ∘ Prod.fst) hq
      exact hx hfirst
    cases value with
    | nil =>
      rw [double_nil, List.nil_append, readRest_quote hrest]
      simp
    | cons c value =>
      by_cases hquote : c = quote
      · subst hquote
        rw [double_quote, List.cons_append, List.cons_append, readRest_quotes]
        exact hhead (by decide) (by decide)
      · rw [double_cons hquote, List.cons_append]
        by_cases hc : c = backslash
        · subst hc
          cases value with
          | nil =>
            rw [double_nil, List.nil_append, readRest_escape]
            exact hhead (by decide) (by decide)
          | cons c' value =>
            by_cases hquote' : c' = quote
            · subst hquote'
              rw [double_quote, List.cons_append, List.cons_append, readRest_escape]
              exact hhead (by decide) (by decide)
            rw [double_cons hquote', List.cons_append, readRest_escape]
            by_cases hfirst : (unescape c').head? = some backslash
            · intro heq
              obtain ⟨q, hq, heq⟩ := Option.map_eq_some_iff.mp heq
              have hvalue := congrArg Prod.fst heq
              rcases unescape_head hfirst with hkept | rfl
              · -- The second character would be a backslash.
                rw [unescape_kept hkept] at hvalue
                have hsecond : c' = backslash := by
                  have htail := (List.cons.inj hvalue).2
                  cases k with
                  | zero => exact (List.cons.inj htail).1
                  | succ k => exact (List.cons.inj htail).1
                subst hsecond
                revert hkept
                decide
              · -- Two backslashes are read as one, so even more are missing.
                rw [unescape_backslash, List.singleton_append, List.cons.injEq] at hvalue
                have hsnd : q.2 = after := congrArg Prod.snd heq
                refine ih value.length (by simp only [List.length_cons]; omega)
                  (Nat.succ_pos (k + 1)) rfl ?_
                rw [hq, List.replicate_succ', List.replicate_succ', List.append_assoc,
                  List.append_assoc]
                exact congrArg some (Prod.ext hvalue.2 hsnd)
            · refine hhead hfirst ?_
              rw [unescape]
              split_ifs <;> simp
        · rw [readRest_cons hquote (fun _ => hc) (double_append_ne_nil value rest)]
          exact hhead (by simpa using hc) (by simp)

/-- A text that is read back by a server with escapes has plain backslashes. -/
theorem plainBackslashes_of_readRest {after : List Char} (hrest : rest.head? ≠ some quote)
    (h : readRest true (double value ++ quote :: rest) = some (value, after)) :
    PlainBackslashes value := by
  induction hlength : value.length using Nat.strongRecOn generalizing value with
  | ind n ih =>
    subst hlength
    -- What is read behind a first character is the value without it.
    have hbehind : ∀ {v : List Char} {x : List Char} {p : Option (List Char × List Char)},
        before x p = some (x ++ v, after) → p = some (v, after) := by
      intro v x p heq
      obtain ⟨q, hq, heq⟩ := Option.map_eq_some_iff.mp heq
      have hfst := List.append_cancel_left (congrArg Prod.fst heq)
      have hsnd : q.2 = after := congrArg Prod.snd heq
      rw [hq]
      exact congrArg some (Prod.ext hfst hsnd)
    cases value with
    | nil => trivial
    | cons c value =>
      by_cases hquote : c = quote
      · subst hquote
        rw [double_quote, List.cons_append, List.cons_append, readRest_quotes] at h
        have hvalue := ih value.length (by simp) (hbehind (x := [quote]) h) rfl
        cases value with
        | nil => exact (by decide : quote ≠ backslash)
        | cons c' value => exact ⟨fun heq => absurd heq (by decide), hvalue⟩
      · rw [double_cons hquote, List.cons_append] at h
        by_cases hc : c = backslash
        · subst hc
          cases value with
          | nil =>
            rw [double_nil, List.nil_append, readRest_escape] at h
            obtain ⟨q, -, heq⟩ := Option.map_eq_some_iff.mp h
            exact absurd (congrArg (List.head? ∘ Prod.fst) heq)
              (by simp [unescape, quote, backslash])
          | cons c' value =>
            by_cases hquote' : c' = quote
            · subst hquote'
              rw [double_quote, List.cons_append, List.cons_append, readRest_escape] at h
              obtain ⟨q, -, heq⟩ := Option.map_eq_some_iff.mp h
              exact absurd (congrArg (List.head? ∘ Prod.fst) heq)
                (by simp [unescape, quote, backslash])
            · rw [double_cons hquote', List.cons_append, readRest_escape] at h
              have hfirst : (unescape c').head? = some backslash := by
                obtain ⟨q, -, heq⟩ := Option.map_eq_some_iff.mp h
                have hvalue := congrArg (List.head? ∘ Prod.fst) heq
                have hne : unescape c' ≠ [] := by
                  rw [unescape]
                  split_ifs <;> simp
                obtain ⟨d, x, hd⟩ := List.exists_cons_of_ne_nil hne
                rw [hd] at hvalue ⊢
                exact hvalue
              rcases unescape_head hfirst with hkept | rfl
              · rw [unescape_kept hkept] at h
                have hvalue := ih value.length (by simp only [List.length_cons]; omega)
                  (hbehind (x := [backslash, c']) h) rfl
                refine ⟨fun _ => hkept, ?_⟩
                have hc' : c' ≠ backslash := by
                  rintro rfl
                  revert hkept
                  decide
                cases value with
                | nil => exact hc'
                | cons c'' value => exact ⟨fun heq => absurd heq hc', hvalue⟩
              · -- One of the two backslashes is missing.
                rw [unescape_backslash] at h
                exact absurd (hbehind (x := [backslash]) h)
                  (readRest_ne_replicate (k := 1) (by omega) hrest)
        · rw [readRest_cons hquote (fun _ => hc) (double_append_ne_nil value rest)] at h
          have hvalue := ih value.length (by simp) (hbehind (x := [c]) h) rfl
          cases value with
          | nil => exact hc
          | cons c' value => exact ⟨fun heq => absurd heq hc, hvalue⟩

/-! ### Literals -/

lemma quoted_append (value rest : List Char) :
    quoted value ++ rest = quote :: (double value ++ quote :: rest) := by
  simp [quoted]

/-- Without escapes every literal is read back. -/
theorem readLiteral_quoted (hrest : rest.head? ≠ some quote) :
    readLiteral false (quoted value ++ rest) = some (value, rest) := by
  rw [quoted_append, readLiteral, if_pos rfl]
  exact readRest_double (fun h => nomatch h) hrest

/-- With escapes a literal is read back exactly if its backslashes are plain. -/
theorem readLiteral_quoted_iff (hrest : rest.head? ≠ some quote) {after : List Char} :
    readLiteral true (quoted value ++ rest) = some (value, after) ↔
      PlainBackslashes value ∧ after = rest := by
  rw [quoted_append, readLiteral, if_pos rfl]
  constructor
  · intro h
    have hplain := plainBackslashes_of_readRest hrest h
    rw [readRest_double (fun _ => hplain) hrest] at h
    exact ⟨hplain, (congrArg Prod.snd (Option.some.inj h)).symm⟩
  · rintro ⟨hplain, rfl⟩
    exact readRest_double (fun _ => hplain) hrest

/-- Two different values never give the same literal. -/
lemma quoted_injective : Function.Injective quoted := by
  intro v w h
  have hv : readLiteral false (quoted v ++ []) = some (v, []) := readLiteral_quoted (by simp)
  have hw : readLiteral false (quoted w ++ []) = some (w, []) := readLiteral_quoted (by simp)
  rw [h, hw] at hv
  exact (congrArg Prod.fst (Option.some.inj hv)).symm

end EcommerceAgent.Lib.SqlLiteral
