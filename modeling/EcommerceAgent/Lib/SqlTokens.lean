/-
# The words of an SQL statement

The bare text of a statement is a list of words, names and symbols.  A word that is not quoted
may be a keyword, except directly behind a period or an `@`, where it is part of a name.  The
outer words are those outside all parentheses.
-/
import EcommerceAgent.Lib.SqlScanner
import EcommerceAgent.Lib.Regex

namespace EcommerceAgent.Lib.Sql

open EcommerceAgent.Lib.Text

/-- The characters of names that are not quoted. -/
def isNameChar (c : Char) : Bool := c.isAlphanum || c == '_' || c == '$' || 128 ≤ c.toNat

/-- What a statement consists of.  The symbols `'` and backtick stand for a literal and a quoted
name. -/
inductive Token
  | word (w : List Char)
  | name (w : List Char)
  | symbol (c : Char)
deriving DecidableEq, Repr

/-- What has been read last: `joined` is a period behind a name, or an `@`, and `point` a period
that may begin a number. -/
inductive Cursor
  | gap
  | joined
  | point
  | number
  | word (w : List Char)
  | name (w : List Char)

/-- What is complete when the cursor moves on. -/
def Cursor.flush : Cursor → List Token
  | .word w => [.word w]
  | .name w => [.name w]
  | _ => []

/-- A character that does not continue what has been read. -/
def gapStep (c : Char) : List Token × Cursor :=
  if isNameChar c then ([], .word [c])
  else if c = '.' then ([.symbol c], .point)
  else if c = '@' then ([.symbol c], .joined)
  else if isBlank c then ([], .gap)
  else ([.symbol c], .gap)

/-- The next character: the tokens that are complete, and the cursor after it. -/
def Cursor.step (k : Cursor) (c : Char) : List Token × Cursor :=
  match k with
  | .gap => gapStep c
  | .joined => if isNameChar c then ([], .name [c]) else gapStep c
  | .point =>
    if c.isDigit then ([], .number)
    else if isNameChar c then ([], .name [c])
    else gapStep c
  | .number => if c.isDigit then ([], .number) else gapStep c
  | .word w =>
    if isNameChar c then ([], .word (w ++ [c]))
    else if c = '.' then ([.word w, .symbol c], if w.all Char.isDigit then .number else .joined)
    else (.word w :: (gapStep c).1, (gapStep c).2)
  | .name w =>
    if isNameChar c then ([], .name (w ++ [c]))
    else if c = '.' then ([.name w, .symbol c], .joined)
    else (.name w :: (gapStep c).1, (gapStep c).2)

/-- The tokens of a bare text. -/
def tokensFrom (k : Cursor) : List Char → List Token
  | [] => k.flush
  | c :: cs => (k.step c).1 ++ tokensFrom (k.step c).2 cs

/-- The keyword that a token spells. -/
def Token.keyword : Token → Option (List Char)
  | .word w => some (w.map Char.toLower)
  | _ => none

/-- The tokens outside parentheses, when `depth` of them are open. -/
def outer : ℕ → List Token → List Token
  | _, [] => []
  | depth, .symbol '(' :: ts => outer (depth + 1) ts
  | depth, .symbol ')' :: ts => outer (depth - 1) ts
  | 0, t :: ts => t :: outer 0 ts
  | depth + 1, _ :: ts => outer (depth + 1) ts

variable (d : Dialect)

/-- The tokens of a statement. -/
def tokens (text : List Char) : List Token := tokensFrom .gap (bare d text)

/-- The verb of a statement that begins with it. -/
def verb (text : List Char) : Option (List Char) := (tokens d text).head?.bind Token.keyword

/-- The keywords outside parentheses. -/
def outerKeywords (text : List Char) : List (List Char) :=
  (outer 0 (tokens d text)).filterMap Token.keyword

/-- The characters of keywords. -/
def isPlain (c : Char) : Bool := c.isAlphanum || c == '_'

/-- A word that only has such characters. -/
def Token.plainWord : Token → Option (List Char)
  | .word w => if w.all isPlain then some w else none
  | _ => none

/-- The outer words of a statement, with blanks between them: what is left of its text without
literals, quoted names, comments and everything in parentheses. -/
def skeleton (text : List Char) : List Char :=
  [' '].intercalate ((outer 0 (tokens d text)).filterMap Token.plainWord)

/-! ### Searching a word among words -/

section Search

variable (u : Unicode)

open Regex

lemma isPlain_of_isAlpha {c : Char} (h : c.isAlpha = true) : isPlain c = true := by
  simp [isPlain, Char.isAlphanum, h]

lemma isNameChar_of_isAlpha {c : Char} (h : c.isAlpha = true) : isNameChar c = true := by
  simp [isNameChar, Char.isAlphanum, h]

lemma isAlpha_of_toLower {c : Char} (h : c.toLower.isAlpha = true) : c.isAlpha = true := by
  by_cases hupper : c.isUpper = true
  · exact isAlpha_iff.mpr (.inl hupper)
  · rwa [toLower_of_not_isUpper hupper] at h

lemma isPlain_of_toLower {c : Char} (h : isPlain c.toLower = true) : isPlain c = true := by
  by_cases hupper : c.isUpper = true
  · exact isPlain_of_isAlpha (isAlpha_iff.mpr (.inl hupper))
  · rwa [toLower_of_not_isUpper hupper] at h

lemma isPlain_ascii {c : Char} (h : isPlain c = true) : c.toNat < 128 := by
  simp only [isPlain, Char.isAlphanum, Bool.or_eq_true, beq_iff_eq] at h
  rcases h with (h | h) | rfl
  · exact isAlpha_ascii h
  · exact lt_of_le_of_lt (Char.isDigit_iff_toNat.mp h).2 (by decide)
  · decide

lemma isWord_of_isPlain {c : Char} (h : isPlain c = true) : isWord u c = true := by
  rw [isWord_ascii (isPlain_ascii h)]
  exact h

lemma isPlain_toLower {c : Char} (h : isPlain c = true) : isPlain c.toLower = true :=
  forall_ascii (p := fun c => isPlain c = true → isPlain c.toLower = true) (by decide)
    (isPlain_ascii h) h

lemma isPlain_ne {c x : Char} (h : isPlain c = true) (hx : isPlain x = false) : c ≠ x := by
  rintro rfl
  rw [h] at hx
  cases hx

/-- On ASCII characters `re.IGNORECASE` compares lower-case forms. -/
lemma sameIgnoringCase_ascii (p : Char) {c : Char} (h : c.toNat < 128) :
    sameIgnoringCase p c = (c.toLower == p) := by
  have hc : toLowerChar c = c.toLower :=
    forall_ascii (p := fun c => toLowerChar c = c.toLower) (by decide) h
  have h₁ : (c.toNat == 0x131) = false := by simp; omega
  have h₂ : (c.toNat == 0x17F) = false := by simp; omega
  simp [sameIgnoringCase, hc, h₁, h₂]

/-- A blank, or the comma between words, is no character of a word. -/
lemma sameIgnoringCase_separator {p c : Char} (hp : isPlain p = true) (hc : c = ' ' ∨ c = ',') :
    sameIgnoringCase p c = false := by
  have hascii : c.toNat < 128 := by rcases hc with rfl | rfl <;> decide
  have hlower : isPlain c.toLower = false := by rcases hc with rfl | rfl <;> decide
  rw [sameIgnoringCase_ascii p hascii, beq_eq_false_iff_ne]
  exact fun h => isPlain_ne hp hlower h.symm

lemma startsWithWord_nil {p : Char} {word : List Char} :
    startsWithWord u sameIgnoringCase (p :: word) [] = false := by
  simp [startsWithWord]

/-- A longer word is found character by character. -/
lemma startsWithWord_cons {p c : Char} {word text : List Char} (hword : word ≠ []) :
    startsWithWord u sameIgnoringCase (p :: word) (c :: text) =
      (sameIgnoringCase p c && startsWithWord u sameIgnoringCase word text) := by
  by_cases hne : text.take word.length = []
  · have hlen : word.length ≠ 0 := by simpa using hword
    have hshort : (0 == word.length) = false := beq_eq_false_iff_ne.mpr hlen.symm
    simp [startsWithWord, hne, hshort, hword]
  · have hlast : (c :: text.take word.length).getLast? = (text.take word.length).getLast? := by
      rw [List.getLast?_cons, List.getLast?_eq_some_getLast hne]
      rfl
    simp [startsWithWord, hlast, Bool.and_assoc, Bool.and_left_comm]

/-- Behind the last character of a word stands a boundary. -/
lemma startsWithWord_singleton {p c : Char} {text : List Char} :
    startsWithWord u sameIgnoringCase [p] (c :: text) =
      (sameIgnoringCase p c && isBoundary u (some c) text.head?) := by
  simp [startsWithWord]

/-- No word begins with a separator. -/
lemma startsWithWord_separator {p c : Char} {word text : List Char} (hp : isPlain p = true)
    (hc : c = ' ' ∨ c = ',') :
    startsWithWord u sameIgnoringCase (p :: word) (c :: text) = false := by
  have hsame := sameIgnoringCase_separator hp hc
  cases word with
  | nil => rw [startsWithWord_singleton, hsame, Bool.false_and]
  | cons q word => rw [startsWithWord_cons u (List.cons_ne_nil q word), hsame, Bool.false_and]

/-- What stands between the blanks: a word of plain characters, or a comma. -/
def IsPiece (w : List Char) : Prop := w = [','] ∨ ∀ c ∈ w, isPlain c = true

/-- The pieces behind the first one, with the blank in front of them. -/
def trail (ws : List (List Char)) : List Char :=
  if ws = [] then [] else ' ' :: [' '].intercalate ws

lemma intercalate_cons (w : List Char) (ws : List (List Char)) :
    [' '].intercalate (w :: ws) = w ++ trail ws := by
  cases ws with
  | nil => simp [List.intercalate, trail]
  | cons v ws => simp [List.intercalate, trail]

lemma startsWithWord_trail {p : Char} {word : List Char} (ws : List (List Char))
    (hp : isPlain p = true) :
    startsWithWord u sameIgnoringCase (p :: word) (trail ws) = false := by
  unfold trail
  split_ifs
  · exact startsWithWord_nil u
  · exact startsWithWord_separator u hp (.inl rfl)

/-- A word at the end of what is searched is the first piece. -/
lemma startsWithWord_last {word w : List Char} (ws : List (List Char)) (hne : word ≠ [])
    (hword : ∀ c ∈ word, isPlain c = true) (hw : ∀ c ∈ w, isPlain c = true) :
    startsWithWord u sameIgnoringCase word (w ++ trail ws) = true ↔ w.map Char.toLower = word := by
  induction word generalizing w with
  | nil => exact absurd rfl hne
  | cons p word ih =>
    have hp := hword p List.mem_cons_self
    cases w with
    | nil => simp [startsWithWord_trail u ws hp]
    | cons c w =>
      have hc := hw c List.mem_cons_self
      rw [List.cons_append, List.map_cons, List.cons.injEq]
      by_cases hnil : word = []
      · subst hnil
        rw [startsWithWord_singleton, sameIgnoringCase_ascii p (isPlain_ascii hc), Bool.and_eq_true,
          beq_iff_eq, List.map_eq_nil_iff]
        refine and_congr_right fun _ => ?_
        cases w with
        | nil =>
          have hend : isBoundary u (some c) (trail ws).head? = true := by
            unfold trail
            split_ifs <;> simp [isBoundary, isWord_of_isPlain u hc, isWord_ascii]
          simp [hend]
        | cons x w =>
          have hx := hw x (by simp)
          simp [isBoundary, isWord_of_isPlain u hc, isWord_of_isPlain u hx]
      · rw [startsWithWord_cons u hnil, sameIgnoringCase_ascii p (isPlain_ascii hc),
          Bool.and_eq_true, beq_iff_eq,
          ih hnil (fun x hx => hword x (List.mem_cons_of_mem _ hx)) fun x hx =>
            hw x (List.mem_cons_of_mem _ hx)]

/-- A word with more behind it is the first piece, and the others begin with the rest. -/
lemma startsWithWord_blank {word more w : List Char} (ws : List (List Char)) (hmore : more ≠ [])
    (hword : ∀ c ∈ word, isPlain c = true) (hw : ∀ c ∈ w, isPlain c = true) :
    startsWithWord u sameIgnoringCase (word ++ ' ' :: more) (w ++ trail ws) = true ↔
      w.map Char.toLower = word ∧ ws ≠ [] ∧
        startsWithWord u sameIgnoringCase more ([' '].intercalate ws) = true := by
  induction word generalizing w with
  | nil =>
    cases w with
    | nil =>
      unfold trail
      split_ifs with hnil
      · simp [hnil, startsWithWord_nil]
      · have hsame : sameIgnoringCase ' ' ' ' = true := by decide
        simp [hnil, startsWithWord_cons u hmore, hsame]
    | cons c w =>
      have hc := hw c List.mem_cons_self
      have hsame : sameIgnoringCase ' ' c = false := by
        rw [sameIgnoringCase_ascii ' ' (isPlain_ascii hc), beq_eq_false_iff_ne]
        exact isPlain_ne (isPlain_toLower hc) (by decide)
      simp [startsWithWord_cons u hmore, hsame]
  | cons p word ih =>
    have hp := hword p List.mem_cons_self
    cases w with
    | nil => simp [startsWithWord_trail u ws hp]
    | cons c w =>
      have hc := hw c List.mem_cons_self
      have hne : word ++ ' ' :: more ≠ [] := by simp
      rw [List.cons_append, List.cons_append, startsWithWord_cons u hne,
        sameIgnoringCase_ascii p (isPlain_ascii hc), Bool.and_eq_true, beq_iff_eq,
        ih (fun x hx => hword x (List.mem_cons_of_mem _ hx)) fun x hx =>
          hw x (List.mem_cons_of_mem _ hx), List.map_cons, List.cons.injEq, and_assoc]

/-- Plain words in a row are found at the beginning of some pieces exactly when these begin with
them. -/
lemma startsWithWord_intercalate {phrase ws : List (List Char)} (hne : phrase ≠ [])
    (hphrase : ∀ p ∈ phrase, p ≠ [] ∧ ∀ c ∈ p, isPlain c = true) (hws : ∀ w ∈ ws, IsPiece w) :
    startsWithWord u sameIgnoringCase ([' '].intercalate phrase) ([' '].intercalate ws) = true ↔
      phrase <+: ws.map (List.map Char.toLower) := by
  induction phrase generalizing ws with
  | nil => exact absurd rfl hne
  | cons p phrase ih =>
    obtain ⟨hpne, hp⟩ := hphrase p List.mem_cons_self
    obtain ⟨a, p', rfl⟩ := List.exists_cons_of_ne_nil hpne
    have ha := hp a List.mem_cons_self
    rw [intercalate_cons (a :: p')]
    cases ws with
    | nil => simp [List.intercalate, startsWithWord_nil]
    | cons w ws =>
      rw [intercalate_cons w, List.map_cons, List.cons_prefix_cons]
      rcases hws w List.mem_cons_self with rfl | hw
      · have hcomma : a ≠ ',' := isPlain_ne ha (by decide)
        simp [startsWithWord_separator u ha, hcomma]
      · by_cases hnil : phrase = []
        · subst hnil
          rw [trail, if_pos rfl, List.append_nil, startsWithWord_last u ws hpne hp hw]
          simp [eq_comm]
        · have hmore : [' '].intercalate phrase ≠ [] := by
            obtain ⟨q, qs, rfl⟩ := List.exists_cons_of_ne_nil hnil
            rw [intercalate_cons]
            exact List.append_ne_nil_of_left_ne_nil (hphrase q (by simp)).1 _
          rw [trail, if_neg hnil, startsWithWord_blank u ws hmore hp hw,
            ih hnil (fun q hq => hphrase q (List.mem_cons_of_mem _ hq)) fun v hv =>
              hws v (List.mem_cons_of_mem _ hv), @eq_comm _ (a :: p')]
          refine and_congr_right fun _ => and_iff_right_of_imp fun hprefix hwsnil => ?_
          rw [hwsnil, List.map_nil, List.prefix_nil] at hprefix
          exact hnil hprefix

/-- Between two characters of words there is no boundary. -/
lemma searchWord_inside {word w rest : List Char} {p : Char} (hp : isPlain p = true)
    (hw : ∀ c ∈ w, isPlain c = true) :
    searchWord u sameIgnoringCase word (some p) (w ++ rest)
      = searchWord u sameIgnoringCase word (some ((p :: w).getLast (by simp))) rest := by
  induction w generalizing p with
  | nil => rfl
  | cons c w ih =>
    have hc := hw c List.mem_cons_self
    have hbound : isBoundary u (some p) (some c) = false := by
      simp [isBoundary, isWord_of_isPlain u hp, isWord_of_isPlain u hc]
    rw [List.cons_append, searchWord, hbound, ih hc fun x hx => hw x (List.mem_cons_of_mem _ hx)]
    simp

lemma searchWord_trail {p : Char} {word : List Char} (ws : List (List Char)) (hp : isPlain p = true)
    (prev : Option Char) :
    searchWord u sameIgnoringCase (p :: word) prev (trail ws)
      = searchWord u sameIgnoringCase (p :: word) (some ' ') ([' '].intercalate ws) := by
  unfold trail
  split_ifs with hnil
  · rw [hnil]
    rfl
  · rw [searchWord, startsWithWord_separator u hp (.inl rfl), Bool.and_false, Bool.false_or]

/-- Searching goes over one piece: what is searched begins there, or is found behind it. -/
lemma searchWord_cons {p : Char} {word w : List Char} (ws : List (List Char))
    (hp : isPlain p = true) (hw : IsPiece w) {prev : Option Char}
    (hprev : prev.any (isWord u) = false) :
    searchWord u sameIgnoringCase (p :: word) prev (w ++ trail ws) =
      (startsWithWord u sameIgnoringCase (p :: word) (w ++ trail ws) ||
        searchWord u sameIgnoringCase (p :: word) (some ' ') ([' '].intercalate ws)) := by
  rcases hw with rfl | hw
  · have hno : startsWithWord u sameIgnoringCase (p :: word) ([','] ++ trail ws) = false :=
      startsWithWord_separator u hp (.inr rfl)
    rw [hno, Bool.false_or, List.singleton_append, searchWord,
      startsWithWord_separator u hp (.inr rfl), Bool.and_false, Bool.false_or,
      searchWord_trail u ws hp]
  · cases w with
    | nil => rw [List.nil_append, searchWord_trail u ws hp, startsWithWord_trail u ws hp,
        Bool.false_or]
    | cons c w =>
      have hc := hw c List.mem_cons_self
      have hbound : isBoundary u prev (some c) = true := by
        simp [isBoundary, hprev, isWord_of_isPlain u hc]
      rw [List.cons_append, searchWord, hbound, Bool.true_and,
        searchWord_inside u hc (fun x hx => hw x (List.mem_cons_of_mem _ hx)),
        searchWord_trail u ws hp]

/-- Plain words in a row are found among some pieces exactly when they stand there in a row. -/
lemma searchWord_intercalate {phrase ws : List (List Char)} (hne : phrase ≠ [])
    (hphrase : ∀ p ∈ phrase, p ≠ [] ∧ ∀ c ∈ p, isPlain c = true) (hws : ∀ w ∈ ws, IsPiece w)
    {prev : Option Char} (hprev : prev.any (isWord u) = false) :
    searchWord u sameIgnoringCase ([' '].intercalate phrase) prev ([' '].intercalate ws) = true
      ↔ phrase <:+: ws.map (List.map Char.toLower) := by
  obtain ⟨a, word, hword, ha⟩ : ∃ a word, [' '].intercalate phrase = a :: word ∧
      isPlain a = true := by
    obtain ⟨p, rest, rfl⟩ := List.exists_cons_of_ne_nil hne
    obtain ⟨hpne, hp⟩ := hphrase p List.mem_cons_self
    obtain ⟨a, p', rfl⟩ := List.exists_cons_of_ne_nil hpne
    exact ⟨a, p' ++ trail rest, by rw [intercalate_cons]; rfl, hp a List.mem_cons_self⟩
  have hblank : (some ' ').any (isWord u) = false := isWord_ascii (by decide)
  induction ws generalizing prev with
  | nil => simp [List.intercalate, searchWord, hne]
  | cons w ws ih =>
    have hws' : ∀ v ∈ ws, IsPiece v := fun v hv => hws v (List.mem_cons_of_mem _ hv)
    have hstarts := startsWithWord_intercalate u hne hphrase hws
    have ih := ih hws' hblank
    rw [hword] at hstarts ih ⊢
    rw [List.map_cons, List.infix_cons_iff, ← List.map_cons, intercalate_cons w,
      searchWord_cons u ws ha (hws w List.mem_cons_self) hprev, Bool.or_eq_true,
      ← intercalate_cons w]
    exact or_congr hstarts ih

end Search

/-! ### The outer words of a statement -/

lemma mem_outerKeywords_iff {word : List Char} (ts : List Token)
    (hword : ∀ c ∈ word, isPlain c = true) :
    word ∈ (ts.filterMap Token.plainWord).map (List.map Char.toLower)
      ↔ word ∈ ts.filterMap Token.keyword := by
  simp only [List.mem_map, List.mem_filterMap]
  constructor
  · rintro ⟨w, ⟨t, ht, hplain⟩, hw⟩
    refine ⟨t, ht, ?_⟩
    cases t with
    | word v =>
      simp only [Token.plainWord, Option.ite_none_right_eq_some, Option.some.injEq] at hplain
      rw [Token.keyword, hplain.2, hw]
    | name v => cases hplain
    | symbol c => cases hplain
  · rintro ⟨t, ht, hkey⟩
    cases t with
    | word v =>
      obtain rfl : v.map Char.toLower = word := Option.some.inj hkey
      refine ⟨v, ⟨.word v, ht, if_pos (List.all_eq_true.mpr fun c hc => ?_)⟩, rfl⟩
      exact isPlain_of_toLower (hword _ (List.mem_map_of_mem hc))
    | name v => cases hkey
    | symbol c => cases hkey

/-- A keyword of plain characters is found in the skeleton exactly when it is an outer keyword. -/
lemma searchWord_skeleton (u : Unicode) {word : List Char} (text : List Char)
    (hword : ∀ c ∈ word, isPlain c = true) (hne : word ≠ []) :
    Regex.searchWord u Regex.sameIgnoringCase word none (skeleton d text) = true
      ↔ word ∈ outerKeywords d text := by
  have hplain : ∀ w ∈ (outer 0 (tokens d text)).filterMap Token.plainWord,
      ∀ c ∈ w, isPlain c = true := by
    intro w hw
    obtain ⟨t, -, ht⟩ := List.mem_filterMap.mp hw
    cases t with
    | word v =>
      simp only [Token.plainWord, Option.ite_none_right_eq_some, Option.some.injEq] at ht
      exact ht.2 ▸ List.all_eq_true.mp ht.1
    | name v => cases ht
    | symbol c => cases ht
  have hphrase : ∀ p ∈ [word], p ≠ [] ∧ ∀ c ∈ p, isPlain c = true := by
    simpa using ⟨hne, hword⟩
  have hnone : (none : Option Char).any (Regex.isWord u) = false := rfl
  have hsearch := searchWord_intercalate u (List.cons_ne_nil word []) hphrase
    (fun w hw => .inr (hplain w hw)) hnone
  have hone : [' '].intercalate [word] = word := by simp [List.intercalate]
  rw [hone, List.singleton_infix_iff, mem_outerKeywords_iff _ hword] at hsearch
  exact hsearch

/-! ### The first word -/

lemma not_special_of_isNameChar {c : Char} (h : isNameChar c = true) : c ∉ special := by
  intro hc
  have : special.all (fun c => !isNameChar c) = true := by decide
  simpa [h] using List.all_eq_true.mp this c hc

/-- A letter is plain. -/
lemma startsPlain_of_isAlpha {c : Char} (hc : c.isAlpha = true) (cs : List Char) :
    StartsPlain (c :: cs) := by
  obtain ⟨hspace, hblank, hsemi⟩ := forall_ascii
    (p := fun c => c.isAlpha = true → isSpace c = false ∧ isBlank c = false ∧ c ≠ ';')
    (by decide) (isAlpha_ascii hc) hc
  exact ⟨c, cs, rfl, hspace, hblank, not_special_of_isNameChar (isNameChar_of_isAlpha hc), hsemi⟩

/-- What a code character behind pending characters passes on begins with the first of them. -/
lemma head_codeAfter {p c x : Char} {pending : List Char} {executable : Bool} {rest : List Char}
    (h : x ∈ ((codeAfter d (p :: pending) executable c).1 ++ rest).head?) : x = p := by
  simpa [codeAfter, eq_comm] using h

lemma head_bareFrom_dashes {executable : Bool} (text : List Char) :
    ∀ x ∈ (bareFrom d ⟨.dashes, executable⟩ text).head?, x = ' ' ∨ x = '-' := by
  intro x hx
  cases text with
  | nil => cases hx
  | cons c cs =>
    rw [bareFrom] at hx
    simp only [step] at hx
    split_ifs at hx
    · exact .inl (Option.some.inj hx).symm
    · exact .inl (Option.some.inj hx).symm
    · exact .inr (Option.some.inj hx).symm
    · exact .inr (head_codeAfter d hx)

lemma head_bareFrom_dash {executable : Bool} (text : List Char) :
    ∀ x ∈ (bareFrom d ⟨.dash, executable⟩ text).head?, x = ' ' ∨ x = '-' := by
  intro x hx
  cases text with
  | nil => exact .inr (Option.some.inj hx).symm
  | cons c cs =>
    rw [bareFrom] at hx
    simp only [step] at hx
    split_ifs at hx
    · exact head_bareFrom_dashes d cs x hx
    · exact .inr (head_codeAfter d hx)

lemma head_bareFrom_slash {executable : Bool} (text : List Char) :
    ∀ x ∈ (bareFrom d ⟨.slash, executable⟩ text).head?, x = ' ' ∨ x = '/' := by
  intro x hx
  cases text with
  | nil => exact .inr (Option.some.inj hx).symm
  | cons c cs =>
    rw [bareFrom] at hx
    simp only [step] at hx
    split_ifs at hx
    · cases cs with
      | nil => cases hx
      | cons c' cs =>
        rw [List.nil_append, bareFrom] at hx
        simp only [step] at hx
        split_ifs at hx
        all_goals exact .inl (Option.some.inj hx).symm
    · exact .inr (head_codeAfter d hx)

lemma isNameChar_placeholder (q : Char) : isNameChar (d.placeholder q) = false := by
  unfold Dialect.placeholder
  split_ifs
  · decide
  · decide

/-- Behind the end of a word the bare text goes on with something else. -/
lemma head_bareFrom {text : List Char} (htext : ∀ c ∈ text.head?, isNameChar c = false) :
    ∀ x ∈ (bareFrom d .start text).head?, isNameChar x = false := by
  intro x hx
  cases text with
  | nil => cases hx
  | cons c cs =>
    rw [bareFrom, step_start] at hx
    simp only [codeStep] at hx
    split_ifs at hx with h₁ h₂ h₃ h₄ h₅
    · obtain rfl : d.placeholder c = x := by simpa using hx
      exact isNameChar_placeholder d c
    · obtain rfl : ' ' = x := by simpa using hx
      decide
    · rcases head_bareFrom_dash d cs x hx with rfl | rfl
      · decide
      · decide
    · rcases head_bareFrom_slash d cs x hx with rfl | rfl
      · decide
      · decide
    · cases h₅.2
    · obtain rfl : c = x := by simpa using hx
      exact htext c rfl

/-- The cursor reads a word to its end. -/
lemma tokensFrom_word {v w rest : List Char} (hw : ∀ c ∈ w, isNameChar c = true)
    (hrest : ∀ c ∈ rest.head?, isNameChar c = false) :
    ∃ ts, tokensFrom (.word v) (w ++ rest) = .word (v ++ w) :: ts := by
  induction w generalizing v with
  | nil =>
    cases rest with
    | nil => exact ⟨[], by simp [tokensFrom, Cursor.flush]⟩
    | cons c cs =>
      have hc : isNameChar c = false := hrest c rfl
      by_cases hdot : c = '.'
      · exact ⟨_, by
          rw [List.nil_append, tokensFrom, Cursor.step, if_neg (by simp [hc]), if_pos hdot,
            List.append_nil]
          rfl⟩
      · exact ⟨_, by
          rw [List.nil_append, tokensFrom, Cursor.step, if_neg (by simp [hc]), if_neg hdot,
            List.append_nil]
          rfl⟩
  | cons c w ih =>
    obtain ⟨ts, hts⟩ := ih (v := v ++ [c]) fun x hx => hw x (List.mem_cons_of_mem _ hx)
    refine ⟨ts, ?_⟩
    have hc : isNameChar c = true := hw c List.mem_cons_self
    rw [List.cons_append, tokensFrom, Cursor.step, if_pos hc, List.nil_append, hts]
    simp

/-- A text that begins with a character of names begins with a word. -/
lemma tokens_word {w rest : List Char} (hw : ∀ c ∈ w, isNameChar c = true) (hne : w ≠ [])
    (hrest : ∀ c ∈ rest.head?, isNameChar c = false) :
    ∃ ts, tokens d (w ++ rest) = .word w :: ts := by
  have hbare : bare d (w ++ rest) = w ++ bareFrom d .start rest :=
    bareFrom_append_plain d rest fun c hc => not_special_of_isNameChar (hw c hc)
  cases w with
  | nil => exact absurd rfl hne
  | cons c w =>
    have hword : ∃ ts, tokensFrom (.word [c]) (w ++ bareFrom d .start rest)
        = .word ([c] ++ w) :: ts :=
      tokensFrom_word (fun x hx => hw x (List.mem_cons_of_mem _ hx)) (head_bareFrom d hrest)
    obtain ⟨ts, hts⟩ := hword
    refine ⟨ts, ?_⟩
    rw [tokens, hbare, List.cons_append, tokensFrom, Cursor.step, gapStep,
      if_pos (hw c List.mem_cons_self), List.nil_append, hts]
    rfl

lemma exists_tokens_word {c : Char} (cs : List Char) (hc : isNameChar c = true) :
    ∃ w ts, tokens d (c :: cs) = .word w :: ts := by
  have hne : (c :: cs).takeWhile isNameChar ≠ [] := by simp [hc]
  have hname : ∀ x ∈ (c :: cs).takeWhile isNameChar, isNameChar x = true :=
    fun x hx => List.mem_takeWhile_imp hx
  obtain ⟨ts, hts⟩ := tokens_word d hname hne (head?_dropWhile isNameChar (c :: cs))
  rw [List.takeWhile_append_dropWhile] at hts
  exact ⟨_, ts, hts⟩

/-- The verb of a text that begins with a character of names. -/
lemma verb_word {w rest : List Char} (hw : ∀ c ∈ w, isNameChar c = true) (hne : w ≠ [])
    (hrest : ∀ c ∈ rest.head?, isNameChar c = false) :
    verb d (w ++ rest) = some (w.map Char.toLower) := by
  obtain ⟨ts, hts⟩ := tokens_word d hw hne hrest
  rw [verb, hts]
  rfl

/-! ### The main verb -/

/-- How far a statement has been read: up to its verb, inside the list behind `WITH` with so many
open parentheses, or behind a parenthesis of that list. -/
inductive Phase
  | start
  | ctes (depth : ℕ)
  | closed
deriving DecidableEq

/-- A token of the list behind `WITH`. -/
def cteStep (depth : ℕ) : Token → Phase
  | .symbol '(' => .ctes (depth + 1)
  | .symbol ')' => if depth ≤ 1 then .closed else .ctes (depth - 1)
  | _ => .ctes depth

/-- What stands behind the `WITH` clause and the parentheses of a statement.  Behind a parenthesis
of the list a comma goes on with it, and so does `AS` behind the column names. -/
def mainPart : Phase → List Token → List Token
  | _, [] => []
  | .ctes depth, t :: ts => mainPart (cteStep depth t) ts
  | phase, t :: ts =>
    if phase = .closed ∧ (t = .symbol ',' ∨ t.keyword = some "as".toList) then
      mainPart (.ctes 0) ts
    else if t = .symbol '(' then mainPart .start ts
    else if t.keyword = some "with".toList then mainPart (.ctes 0) ts
    else t :: ts

/-- The verb with which a statement begins behind its `WITH` clause and its parentheses. -/
def mainVerb (ts : List Token) : Option (List Char) :=
  (mainPart .start ts).head?.bind Token.keyword

/-- The keywords stand next to each other in the statement. -/
def hasPhrase (phrase : List String) (ts : List Token) : Bool :=
  ts.tails.any fun t => (phrase.map fun w => some w.toList).isPrefixOf (t.map Token.keyword)

/-- The clauses with which a query writes a file. -/
def fileClauses : List (List String) := [["into", "outfile"], ["into", "dumpfile"]]

/-- The clauses with which a query writes a file or locks rows. -/
def sideEffects : List (List String) :=
  fileClauses ++ [["for", "update"], ["for", "share"], ["lock", "in", "share", "mode"]]

/-- The verbs of statements that read. -/
def readVerbs : List String := ["select", "show", "describe", "desc"]

/-- The text is one statement, its main verb reads, and it has no clause with a side effect. -/
structure ReadOnly (text : List Char) : Prop where
  reads : ∃ v ∈ readVerbs, mainVerb (tokens d text) = some v.toList
  pure : ∀ phrase ∈ sideEffects, hasPhrase phrase (tokens d text) = false
  alone : ∃ statement, statements d text = [statement]

lemma mainVerb_word {w : List Char} (ts : List Token) (h : w.map Char.toLower ≠ "with".toList) :
    mainVerb (.word w :: ts) = some (w.map Char.toLower) := by
  have hne : (Token.word w).keyword ≠ some "with".toList := fun he => h (Option.some.inj he)
  rw [mainVerb, mainPart.eq_def]
  simp only [reduceCtorEq, false_and, if_false, if_neg hne]
  rfl

/-! ### The words of a statement in a row -/

/-- A token as it stands in a row of words: a comma for everything that is no plain word. -/
def Token.written (t : Token) : List Char := t.plainWord.getD [',']

/-- The tokens with blanks between them. -/
def wordText (ts : List Token) : List Char := [' '].intercalate (ts.map Token.written)

lemma Token.isPiece_written (t : Token) : IsPiece t.written := by
  unfold written plainWord
  cases t with
  | word w =>
    dsimp only
    split_ifs with h
    · exact .inr (List.all_eq_true.mp h)
    · exact .inl rfl
  | name w => exact .inl rfl
  | symbol c => exact .inl rfl

lemma isPiece_of_mem {ts : List Token} {w : List Char} (hw : w ∈ ts.map Token.written) :
    IsPiece w := by
  obtain ⟨t, -, rfl⟩ := List.mem_map.mp hw
  exact t.isPiece_written

/-- A plain word stands in the row where it is the keyword. -/
lemma Token.written_eq_iff {t : Token} {word : List Char} (hne : word ≠ [])
    (hword : ∀ c ∈ word, isPlain c = true) :
    t.written.map Char.toLower = word ↔ t.keyword = some word := by
  have hcomma : [','].map Char.toLower ≠ word := by
    rintro rfl
    exact absurd (hword ',' (by decide)) (by decide)
  unfold written plainWord keyword
  cases t with
  | word w =>
    dsimp only
    split_ifs with h
    · exact Option.some_inj.symm
    · refine iff_of_false hcomma fun he => h (List.all_eq_true.mpr fun c hc => ?_)
      rw [← Option.some.inj he] at hword
      exact isPlain_of_toLower (hword _ (List.mem_map_of_mem hc))
  | name w => exact iff_of_false hcomma nofun
  | symbol c => exact iff_of_false hcomma nofun

/-- The words of a phrase are plain. -/
def PlainPhrase (phrase : List String) : Prop :=
  ∀ w ∈ phrase, w.toList ≠ [] ∧ ∀ c ∈ w.toList, isPlain c = true

instance (phrase : List String) : Decidable (PlainPhrase phrase) :=
  decidable_of_iff ((phrase.all fun w => w.toList != [] && w.toList.all isPlain) = true)
    (by simp [PlainPhrase])

lemma written_prefix_iff {phrase : List String} (hplain : PlainPhrase phrase) (ts : List Token) :
    phrase.map String.toList <+: (ts.map Token.written).map (List.map Char.toLower) ↔
      phrase.map (fun w => some w.toList) <+: ts.map Token.keyword := by
  induction phrase generalizing ts with
  | nil => simp
  | cons w phrase ih =>
    obtain ⟨hne, hw⟩ := hplain w List.mem_cons_self
    cases ts with
    | nil => simp
    | cons t ts =>
      simp only [List.map_cons, List.cons_prefix_cons,
        ih (fun v hv => hplain v (List.mem_cons_of_mem _ hv)), @eq_comm _ w.toList,
        @eq_comm _ (some w.toList), t.written_eq_iff hne hw]

/-- A phrase stands in a row of words exactly when its keywords stand next to each other. -/
lemma written_infix_iff {phrase : List String} (hne : phrase ≠ []) (hplain : PlainPhrase phrase)
    (ts : List Token) :
    phrase.map String.toList <:+: (ts.map Token.written).map (List.map Char.toLower) ↔
      hasPhrase phrase ts = true := by
  induction ts with
  | nil => simp [hasPhrase, hne]
  | cons t ts ih =>
    have hcons : hasPhrase phrase (t :: ts) =
        ((phrase.map fun w => some w.toList).isPrefixOf ((t :: ts).map Token.keyword) ||
          hasPhrase phrase ts) := rfl
    rw [hcons, Bool.or_eq_true, List.isPrefixOf_iff_prefix, ← written_prefix_iff hplain, ← ih]
    exact List.infix_cons_iff

/-- A phrase stands in a statement exactly when a search for it finds it in the row of words. -/
lemma searchWord_wordText (u : Unicode) {phrase : List String} (hne : phrase ≠ [])
    (hplain : PlainPhrase phrase) (ts : List Token) :
    Regex.searchWord u Regex.sameIgnoringCase ([' '].intercalate (phrase.map String.toList)) none
        (wordText ts) = hasPhrase phrase ts := by
  have hwords : ∀ p ∈ phrase.map String.toList, p ≠ [] ∧ ∀ c ∈ p, isPlain c = true := by
    rintro p hp
    obtain ⟨w, hw, rfl⟩ := List.mem_map.mp hp
    exact hplain w hw
  rw [Bool.eq_iff_iff, wordText, ← written_infix_iff hne hplain]
  exact searchWord_intercalate u (by simpa using hne) hwords (fun _ => isPiece_of_mem) rfl

/-- A row of words begins with a plain word exactly when the word is the first keyword. -/
lemma startsWithWord_wordText (u : Unicode) {word : String} (hplain : PlainPhrase [word])
    (ts : List Token) :
    Regex.startsWithWord u Regex.sameIgnoringCase word.toList (wordText ts) = true ↔
      ts.head?.bind Token.keyword = some word.toList := by
  have hword : ∀ p ∈ [word.toList], p ≠ [] ∧ ∀ c ∈ p, isPlain c = true := by
    simpa using hplain word List.mem_cons_self
  have hone : [' '].intercalate [word.toList] = word.toList := by simp [List.intercalate]
  have hpieces : ∀ w ∈ ts.map Token.written, IsPiece w := fun _ => isPiece_of_mem
  have hstarts := startsWithWord_intercalate u (List.cons_ne_nil word.toList []) hword hpieces
  rw [hone] at hstarts
  rw [wordText, hstarts]
  cases ts with
  | nil => simp
  | cons t ts =>
    obtain ⟨hne, hw⟩ := hplain word List.mem_cons_self
    simp [List.cons_prefix_cons, ← t.written_eq_iff hne hw, eq_comm]

end EcommerceAgent.Lib.Sql
