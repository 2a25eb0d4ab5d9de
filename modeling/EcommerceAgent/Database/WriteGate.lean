/-
# What the write gates let through

A statement may only be executed as it was written and as the only one of its text, and an `UPDATE`
or `DELETE` only with a `WHERE` clause of its own.  `_validate_write_sql` and
`execute_write_sql_raw` look for the word and for semicolons in the text as it stands, also in
literals, comments, quoted names and sub-queries.
-/
import EcommerceAgent.Database.Sql
import EcommerceAgent.Lib.SqlTokens

open EcommerceAgent.Lib EcommerceAgent.Lib.Text EcommerceAgent.Lib.Sql

namespace EcommerceAgent.Database

variable (u : Unicode) (d : Dialect)

/-! ### What a statement must be -/

/-- The statement is an `UPDATE` or a `DELETE`. -/
def RewritesRows (text : List Char) : Prop :=
  verb d text = some "update".toList ∨ verb d text = some "delete".toList

/-- The executed statement is the only statement of the text that was written, as it was written;
an `UPDATE` or `DELETE` has a `WHERE` clause of its own. -/
structure Guarded (written executed : List Char) : Prop where
  conditional : RewritesRows d executed → "where".toList ∈ outerKeywords d executed
  whole : statements d written = [strip executed]

/-! ### When the gates are right -/

/-- The part of an answer in which `_extract_sql` looks for the statement. -/
def fenced (content : String) : List Char :=
  match (afterFence (strip content.toList)).bind fun rest => beforeFence (dropSql rest) with
  | some inner => strip inner
  | none => strip content.toList

/-- The text without the blanks and semicolons at its beginning. -/
def unled (text : List Char) : List Char := text.dropWhile fun c => isSpace c || c == ';'

/-- The text up to its first semicolon. -/
def firstPart (text : List Char) : List Char := (unled text).takeWhile (· ≠ ';')

/-- The search for `WHERE` comes out the same without literals, quoted names, comments and
everything in parentheses. -/
def SearchIsRight (text : List Char) : Prop :=
  hasWord u "where" (skeleton d text) = hasWord u "where" text

/-- The semicolon at which the text is cut, if there is one, is a delimiter, and no statement
stands behind it. -/
def CutIsRight (text : List Char) : Prop :=
  (unled text).dropWhile (· ≠ ';') = [] ∨
    (scan d .start (firstPart text)).delimits d = true ∧
      statements d ((unled text).dropWhile (· ≠ ';')).tail = []

/-- No delimiter is left in the text when its last semicolons are removed, and these are
delimiters. -/
def TrimIsRight (query : String) : Prop :=
  Undivided d .start (stripStatement query) ∧
    (strip query.toList = stripStatement query ∨
      (scan d .start (stripStatement query)).delimits d = true)

/-! ### The head of an accepted text -/

/-- The character occurs in the words that the gates accept. -/
def isHeadChar (c : Char) : Bool := c.isLower && c != 'k'

lemma isHeadChar_ascii {c : Char} (h : isHeadChar c = true) : c.toNat < 128 := by
  have hlow : c.isLower = true := (Bool.and_eq_true_iff.mp h).1
  exact isAlpha_ascii (isAlpha_iff.mpr (.inr hlow))

lemma lowerChar_of_isHeadChar {c : Char} (h : ∀ x ∈ lowerChar c, isHeadChar x = true) :
    c.isAlpha = true ∧ lowerChar c = [c.toLower] := by
  by_cases hc : c.toNat < 128
  · have htable : ∀ c : Char, c.toNat < 128 → (lowerChar c).all isHeadChar = true →
        c.isAlpha = true ∧ lowerChar c = [c.toLower] :=
      fun c hc => forall_ascii (p := fun c => (lowerChar c).all isHeadChar = true →
        c.isAlpha = true ∧ lowerChar c = [c.toLower]) (by decide) hc
    exact htable c hc (List.all_eq_true.mpr h)
  · -- beyond ASCII no character has such a lower-case form
    exfalso
    unfold lowerChar at h
    split_ifs at h with hupper hk hi
    · have : c.toNat ≤ 90 := hupper.2
      omega
    · exact absurd (h 'k' (by simp)) (by decide)
    · exact absurd (h (Char.ofNat 0x307) (by simp)) (by decide)
    · exact hc (isHeadChar_ascii (h c (by simp)))

/-- A text in lower case that only has such characters is the text of ASCII letters. -/
lemma lower_eq_map {text : List Char} (h : ∀ x ∈ lower text, isHeadChar x = true) :
    (∀ c ∈ text, c.isAlpha = true) ∧ lower text = text.map Char.toLower := by
  have hchar : ∀ c ∈ text, c.isAlpha = true ∧ lowerChar c = [c.toLower] := by
    intro c hc
    exact lowerChar_of_isHeadChar fun x hx => h x (List.mem_flatMap.mpr ⟨c, hc, hx⟩)
  refine ⟨fun c hc => (hchar c hc).1, ?_⟩
  rw [lower, List.map_eq_flatMap]
  exact List.flatMap_congr fun c hc => (hchar c hc).2

/-- A text whose head is such a word begins with it, and with a blank behind it. -/
lemma exists_word_of_statementHead {head : String} {text : List Char}
    (hblank : ∀ c ∈ text.head?, isSpace c = false)
    (hhead : ∀ c ∈ head.toList, isHeadChar c = true) (h : statementHead text = head) :
    ∃ word rest, text = word ++ rest ∧ (∀ c ∈ word, c.isAlpha = true) ∧
      word.map Char.toLower = head.toList ∧ ∀ c ∈ rest.head?, isSpace c = true := by
  have hdrop : text.dropWhile isSpace = text := by
    cases text with
    | nil => rfl
    | cons c cs => simp [hblank c rfl]
  have hlower : lower (text.takeWhile (!isSpace ·)) = head.toList := by
    rw [← h, statementHead, hdrop, String.toList_ofList]
  have hchars : ∀ x ∈ lower (text.takeWhile (!isSpace ·)), isHeadChar x = true := by
    rw [hlower]
    exact hhead
  obtain ⟨hletters, hmap⟩ := lower_eq_map hchars
  refine ⟨text.takeWhile (!isSpace ·), text.dropWhile (!isSpace ·),
    (List.takeWhile_append_dropWhile).symm, hletters, hmap ▸ hlower, ?_⟩
  intro c hc
  simpa using head?_dropWhile (!isSpace ·) text c hc

/-- A blank that MySQL takes for a part of a word is beyond ASCII. -/
lemma toLower_of_isSpace {c : Char} (hspace : isSpace c = true) (hname : isNameChar c = true) :
    128 ≤ c.toLower.toNat := by
  by_cases hc : c.toNat < 128
  · have htable := forall_ascii (p := fun c => isSpace c = true → isNameChar c = false)
      (by decide) hc hspace
    rw [htable] at hname
    cases hname
  · have hup : ¬c.isUpper = true := by
      rw [isUpper_iff]
      omega
    rw [toLower_of_not_isUpper hup]
    omega

/-- MySQL reads the head as the verb, unless a blank beyond ASCII makes it part of a longer word;
then the verb is none of the gates' words. -/
lemma head_of_verb {head : String} {word rest keyword : List Char}
    (hne : word ≠ []) (hletters : ∀ c ∈ word, c.isAlpha = true)
    (hlower : word.map Char.toLower = head.toList) (hrest : ∀ c ∈ rest.head?, isSpace c = true)
    (hkeyword : ∀ c ∈ keyword, c.toNat < 128) (hverb : verb d (word ++ rest) = some keyword) :
    head.toList = keyword := by
  have hname : ∀ c ∈ word, isNameChar c = true :=
    fun c hc => isNameChar_of_isAlpha (hletters c hc)
  cases rest with
  | nil =>
    rw [verb_word d hname hne (by simp), hlower] at hverb
    exact Option.some.inj hverb
  | cons b rest =>
    by_cases hb : isNameChar b = true
    · -- the blank continues the word
      exfalso
      have hmore : ∀ c ∈ word ++ b :: rest.takeWhile isNameChar, isNameChar c = true := by
        intro c hc
        rcases List.mem_append.mp hc with h | h
        · exact hname c h
        · rcases List.mem_cons.mp h with rfl | h
          · exact hb
          · exact List.mem_takeWhile_imp h
      have htext : word ++ b :: rest = (word ++ b :: rest.takeWhile isNameChar)
          ++ rest.dropWhile isNameChar := by simp
      have hend : ∀ c ∈ (rest.dropWhile isNameChar).head?, isNameChar c = false := by
        exact head?_dropWhile isNameChar rest
      rw [htext, verb_word d hmore (by simp) hend] at hverb
      have hmem : b.toLower ∈ keyword := by
        rw [← Option.some.inj hverb]
        simp
      have := toLower_of_isSpace (hrest b rfl) hb
      have := hkeyword _ hmem
      omega
    · rw [verb_word d hname hne (by simpa using hb), hlower] at hverb
      exact Option.some.inj hverb

/-- The two verbs that need a `WHERE` clause. -/
lemma RewritesRows.exists_verb {text : List Char} (h : RewritesRows d text) :
    ∃ head ∈ ["update", "delete"], verb d text = some head.toList := by
  rcases h with h | h
  · exact ⟨_, by simp, h⟩
  · exact ⟨_, by simp, h⟩

/-- An accepted text begins plainly. -/
lemma startsPlain_of_head {text : List Char} (hblank : ∀ c ∈ text.head?, isSpace c = false)
    (hhead : ∀ c ∈ (statementHead text).toList, isHeadChar c = true)
    (hne : statementHead text ≠ "") : StartsPlain text := by
  obtain ⟨word, rest, htext, hletters, hlower, -⟩ :=
    exists_word_of_statementHead hblank hhead rfl
  cases word with
  | nil => exact absurd (String.toList_inj.mp hlower.symm) hne
  | cons c word =>
    rw [htext]
    exact startsPlain_of_isAlpha (hletters c List.mem_cons_self) (word ++ rest)

/-- MySQL reads one of the two verbs only where the gates read it too. -/
lemma statementHead_of_rewritesRows {text : List Char}
    (hblank : ∀ c ∈ text.head?, isSpace c = false)
    (hhead : ∀ c ∈ (statementHead text).toList, isHeadChar c = true)
    (hne : statementHead text ≠ "") (hverb : RewritesRows d text) :
    statementHead text ∈ ["update", "delete"] := by
  obtain ⟨word, rest, htext, hletters, hlower, hrest⟩ :=
    exists_word_of_statementHead hblank hhead rfl
  have hword : word ≠ [] := by
    rintro rfl
    exact hne (String.toList_inj.mp hlower.symm)
  obtain ⟨head, hmem, hv⟩ := hverb.exists_verb
  have hascii : ∀ c ∈ head.toList, c.toNat < 128 := by
    have : ["update", "delete"].all (fun h => h.toList.all fun c => c.toNat < 128) = true := by
      decide
    have := List.all_eq_true.mp (List.all_eq_true.mp this head hmem)
    simpa using this
  rw [htext] at hv
  have := head_of_verb d hword hletters hlower hrest hascii hv
  rwa [String.toList_inj.mp this]

/-! ### Stripped texts -/

lemma head?_strip (text : List Char) : ∀ c ∈ (strip text).head?, isSpace c = false := by
  intro c hc
  have hpre : strip text <+: text.dropWhile isSpace := List.rdropWhile_prefix _ _
  refine head?_dropWhile isSpace text c ?_
  obtain ⟨rest, hrest⟩ := hpre
  rw [← hrest]
  cases hs : strip text with
  | nil => simp [hs] at hc
  | cons x xs => simpa [hs] using hc

lemma head?_stripStatement (query : String) :
    ∀ c ∈ (stripStatement query).head?, isSpace c = false := by
  intro c hc
  have hpre : stripStatement query <+: strip query.toList := List.rdropWhile_prefix _ _
  refine head?_strip query.toList c ?_
  obtain ⟨rest, hrest⟩ := hpre
  rw [← hrest]
  cases hs : stripStatement query with
  | nil => simp [hs] at hc
  | cons x xs => simpa [hs] using hc

lemma mem_of_mem_strip {c : Char} {text : List Char} (h : c ∈ strip text) : c ∈ text :=
  (List.dropWhile_suffix _).subset ((List.rdropWhile_prefix _ _).subset h)

/-! ### The candidate statement of an answer -/

lemma extractSql_eq_find (content : String) :
    extractSql content =
      match (((fenced content).splitOn ';').map strip).find? (· ≠ []) with
      | some statement => String.ofList statement
      | none => String.ofList (fenced content) := rfl

lemma exists_splitOn (text : List Char) :
    ∃ parts, text.splitOn ';' = text.takeWhile (· ≠ ';') :: parts := by
  induction text with
  | nil => exact ⟨[], rfl⟩
  | cons c cs ih =>
    obtain ⟨parts, hparts⟩ := ih
    rw [List.splitOn_cons_eq_if_modifyHead, hparts]
    by_cases hc : c = ';'
    · exact ⟨cs.takeWhile (· ≠ ';') :: parts, by simp [hc]⟩
    · exact ⟨parts, by simp [hc]⟩

/-- `_extract_sql` takes the text up to the first semicolon behind what leads it. -/
lemma find?_parts (text : List Char) :
    ((text.splitOn ';').map strip).find? (· ≠ []) =
      if unled text = [] then none else some (strip (firstPart text)) := by
  induction text with
  | nil => rfl
  | cons c cs ih =>
    by_cases hsemi : c = ';'
    · subst hsemi
      have hled : unled (';' :: cs) = unled cs := by simp [unled]
      rw [List.splitOn_cons_eq_if_modifyHead]
      simpa [firstPart, hled, strip] using ih
    · by_cases hspace : isSpace c = true
      · have hled : unled (c :: cs) = unled cs := by simp [unled, hspace]
        rw [List.splitOn_cons_eq_if_modifyHead, if_neg (by simpa using hsemi),
          map_strip_modifyHead hspace, ih]
        simp [firstPart, hled]
      · have hled : unled (c :: cs) = c :: cs := by simp [unled, hspace, hsemi]
        have hne : strip (c :: cs.takeWhile (· ≠ ';')) ≠ [] := by
          rw [strip_cons_of_not_isSpace (by simpa using hspace)]
          simp
        obtain ⟨parts, hparts⟩ := exists_splitOn (c :: cs)
        have hfirst : (c :: cs).takeWhile (· ≠ ';') = c :: cs.takeWhile (· ≠ ';') := by
          simp [hsemi]
        rw [hparts, hled, if_neg (List.cons_ne_nil c cs), List.map_cons, firstPart, hled, hfirst,
          List.find?_cons_of_pos (by simpa using hne)]

lemma not_mem_firstPart (text : List Char) : ';' ∉ firstPart text := by
  intro h
  simpa using List.mem_takeWhile_imp h

lemma head?_firstPart (text : List Char) : ∀ c ∈ (firstPart text).head?, isSpace c = false := by
  intro c hc
  have hled : c ∈ (unled text).head? := by
    cases h : unled text with
    | nil => simp [firstPart, h] at hc
    | cons x xs =>
      simp only [firstPart, h, List.takeWhile_cons] at hc
      split_ifs at hc
      · exact hc
      · cases hc
  have := head?_dropWhile (fun c => isSpace c || c == ';') text c hled
  exact (Bool.or_eq_false_iff.mp this).1

lemma startsPlain_of_strip {text : List Char} (hblank : ∀ c ∈ text.head?, isSpace c = false)
    (h : StartsPlain (strip text)) : StartsPlain text := by
  cases text with
  | nil =>
    obtain ⟨c, cs, htext, -⟩ := h
    cases htext
  | cons x xs =>
    obtain ⟨c, cs, htext, hc⟩ := h
    rw [strip_cons_of_not_isSpace (hblank x rfl)] at htext
    obtain ⟨rfl, -⟩ := List.cons.inj htext
    exact ⟨x, xs, rfl, hc⟩

/-- What the write gate makes of an answer. -/
lemma stripStatement_extractSql {content : String} (h : unled (fenced content) ≠ []) :
    stripStatement (extractSql content) = strip (firstPart (fenced content)) := by
  have hextract : extractSql content = String.ofList (strip (firstPart (fenced content))) := by
    rw [extractSql_eq_find, find?_parts, if_neg h]
  have hsemi : ';' ∉ strip (firstPart (fenced content)) :=
    fun hmem => not_mem_firstPart _ (mem_of_mem_strip hmem)
  rw [hextract, stripStatement, String.toList_ofList, strip_strip]
  refine List.rdropWhile_eq_self_iff.mpr fun hne hlast => hsemi ?_
  rw [← eq_of_beq hlast]
  exact List.getLast_mem hne

/-- An answer of blanks and semicolons has no statement. -/
lemma unled_ne_nil {content : String} (h : StartsPlain (stripStatement (extractSql content))) :
    unled (fenced content) ≠ [] := by
  intro hnil
  obtain ⟨c, cs, htext, hspace, -, -, hsemi⟩ := h
  have hextract : extractSql content = String.ofList (fenced content) := by
    rw [extractSql_eq_find, find?_parts, if_pos hnil]
  have hmem : c ∈ fenced content := by
    have : c ∈ stripStatement (extractSql content) := htext ▸ List.mem_cons_self
    rw [hextract, stripStatement, String.toList_ofList] at this
    exact mem_of_mem_strip ((List.rdropWhile_prefix _ _).subset this)
  have hled := List.dropWhile_eq_nil_iff.mp hnil c hmem
  simp [hspace, hsemi] at hled

/-! ### The gates -/

/-- What `_validate_write_sql` accepts. -/
lemma validateWriteSql_ok {text head sql : String}
    (h : validateWriteSql u text = .ok (head, sql)) :
    sql.toList = stripStatement text ∧ head = statementHead (stripStatement text) ∧
      head ∈ ["insert", "update", "delete", "create", "alter"] ∧
      (head ∈ ["update", "delete"] → hasWord u "where" (stripStatement text) = true) := by
  unfold validateWriteSql at h
  simp only at h
  split_ifs at h with h₁ h₂ h₃ h₄ h₅
  obtain ⟨rfl, rfl⟩ := Prod.mk.inj (Except.ok.inj h)
  refine ⟨String.toList_ofList, rfl, ?_, ?_⟩
  · simpa using h₂
  · intro hmem
    by_contra hwhere
    exact h₃ ⟨hmem, by simpa using hwhere⟩

/-- What `execute_write_sql_raw` hands to MySQL. -/
lemma executeWriteSql_some {env : WriteEnv} {query : String} {target : Option String}
    {database statement : String}
    (h : (executeWriteSql u env query target).1 = some (database, statement)) :
    statement.toList = stripStatement query ∧
      statementHead (stripStatement query) ∈
        ["insert", "update", "delete", "create", "alter", "drop", "truncate"] ∧
      (statementHead (stripStatement query) ∈ ["update", "delete"] →
        hasWord u "where" (stripStatement query) = true) := by
  unfold executeWriteSql at h
  simp only at h
  split_ifs at h with h₁ h₂ h₃
  cases hconfig : env.config with
  | error e => simp [hconfig] at h
  | ok configured =>
    rw [hconfig] at h
    obtain ⟨-, rfl⟩ := Prod.mk.inj (Option.some.inj h)
    refine ⟨String.toList_ofList, by simpa using h₁, fun hmem => ?_⟩
    by_contra hwhere
    exact h₂ ⟨hmem, by simpa using hwhere⟩

lemma mem_writeHeads {head : String}
    (h : head ∈ ["insert", "update", "delete", "create", "alter"]) :
    head ∈ ["insert", "update", "delete", "create", "alter", "drop", "truncate"] := by
  simp only [List.mem_cons, List.not_mem_nil, or_false] at h ⊢
  tauto

lemma writeHeads_isHeadChar {head : String}
    (h : head ∈ ["insert", "update", "delete", "create", "alter", "drop", "truncate"]) :
    (∀ c ∈ head.toList, isHeadChar c = true) ∧ head ≠ "" := by
  have hall : ["insert", "update", "delete", "create", "alter", "drop", "truncate"].all
      (fun h => h.toList.all isHeadChar && h != "") = true := by decide
  have := List.all_eq_true.mp hall head h
  simpa using this

variable {u d}

/-- Where the gate has found the word, the search is right exactly when the statement has a
`WHERE` clause of its own. -/
lemma searchIsRight_iff {text : List Char} (h : hasWord u "where" text = true) :
    SearchIsRight u d text ↔ "where".toList ∈ outerKeywords d text := by
  have hplain : "where".toList.all isPlain = true := by decide
  rw [SearchIsRight, h]
  exact searchWord_skeleton d u text (List.all_eq_true.mp hplain) (by decide)

/-- Cutting at the first semicolon leaves the only statement of the text. -/
lemma statements_firstPart_iff {text : List Char} (hplain : StartsPlain (firstPart text)) :
    statements d text = [strip (firstPart text)] ↔ CutIsRight d text := by
  have hparts : unled text = firstPart text ++ (unled text).dropWhile (· ≠ ';') :=
    List.takeWhile_append_dropWhile.symm
  have hundivided := undivided_of_not_mem d (not_mem_firstPart text) .start
  have htext : statements d text = statements d (unled text) :=
    (statements_dropWhile d text).symm
  rw [htext, CutIsRight]
  cases hrest : (unled text).dropWhile (· ≠ ';') with
  | nil =>
    rw [hrest, List.append_nil] at hparts
    rw [hparts, statements_undivided hplain hundivided]
    simp
  | cons c rest =>
    have hc : c = ';' := by
      have := head?_dropWhile (fun c => decide (c ≠ ';')) (unled text) c (by rw [hrest]; rfl)
      simpa using this
    subst hc
    rw [hparts, hrest]
    cases hend : (scan d .start (firstPart text)).delimits d with
    | true =>
      rw [statements_delimiter rest hplain hundivided hend]
      simp
    | false =>
      obtain ⟨more, others, hmore⟩ := statements_not_delimiter rest hplain hundivided hend
      have hlt := length_strip_lt hplain more
      rw [hmore]
      simp only [List.cons.injEq, reduceCtorEq, Bool.false_eq_true, false_and, or_self, iff_false]
      rintro ⟨heq, -⟩
      rw [heq] at hlt
      exact lt_irrefl _ hlt

lemma statements_semicolons {text : List Char} (h : ∀ c ∈ text, c = ';') :
    statements d text = [] := by
  have hdrop : text.dropWhile (fun c => isSpace c || c == ';') = [] :=
    List.dropWhile_eq_nil_iff.mpr fun c hc => by simp [h c hc]
  rw [← statements_dropWhile, hdrop]
  rfl

/-- Removing the last semicolons leaves the only statement of the text. -/
lemma statements_stripStatement_iff {query : String}
    (hplain : StartsPlain (stripStatement query)) :
    statements d (strip query.toList) = [strip (stripStatement query)] ↔ TrimIsRight d query := by
  have hparts : strip query.toList
      = stripStatement query ++ (strip query.toList).rtakeWhile (· == ';') :=
    List.rdropWhile_append_rtakeWhile.symm
  have hlast : ∀ c ∈ (strip query.toList).rtakeWhile (· == ';'), c = ';' :=
    fun c hc => eq_of_beq (List.mem_rtakeWhile_imp (p := (· == ';')) hc)
  rcases exists_first_part d .start (stripStatement query) with
    hwhole | ⟨part, rest, hquery, hpart, hend⟩
  · -- no delimiter stands inside, and the first removed semicolon is one or is not
    rw [TrimIsRight]
    cases hsemis : (strip query.toList).rtakeWhile (· == ';') with
    | nil =>
      rw [hsemis, List.append_nil] at hparts
      rw [hparts, statements_undivided hplain hwhole]
      simp [hwhole]
    | cons c semis =>
      have hc : c = ';' := hlast c (by simp [hsemis])
      subst hc
      rw [hsemis] at hparts
      have hne : strip query.toList ≠ stripStatement query := by
        intro h
        have := congrArg List.length (h.symm.trans hparts)
        simp at this
      have hnone : statements d semis = [] :=
        statements_semicolons fun c hc => hlast c (by simp [hsemis, hc])
      cases hend : (scan d .start (stripStatement query)).delimits d with
      | true =>
        rw [hparts, statements_delimiter semis hplain hwhole hend, hnone]
        simp [hwhole]
      | false =>
        obtain ⟨more, others, hmore⟩ := statements_not_delimiter semis hplain hwhole hend
        have hlt := length_strip_lt hplain more
        -- the semicolon belongs to a literal or a comment, and so to the statement
        have hfalse : statements d (strip query.toList) ≠ [strip (stripStatement query)] := by
          rw [hparts, hmore]
          intro heq
          rw [(List.cons.inj heq).1] at hlt
          exact lt_irrefl _ hlt
        simp [hfalse, hne]
  · -- a delimiter stands inside the text
    rw [hquery] at hplain
    have hpartPlain := startsPlain_of_append hplain
    have hlt := length_strip_lt hpartPlain rest
    have hleft : statements d (strip query.toList) ≠ [strip (stripStatement query)] := by
      rw [hparts, hquery, List.append_assoc, List.cons_append,
        statements_delimiter _ hpartPlain hpart hend]
      intro heq
      rw [(List.cons.inj heq).1] at hlt
      exact lt_irrefl _ hlt
    have hright : ¬TrimIsRight d query := by
      rintro ⟨hwhole, -⟩
      rw [hquery, Undivided, hpart.append, delimitedFrom, if_pos ⟨rfl, hend⟩] at hwhole
      have := congrArg List.length (List.cons.inj hwhole).1
      simp at this
    simp [hleft, hright]

variable (u d)

/-! ### The claim -/

/-- Every statement that `_validate_write_sql` accepts of the answer is guarded. -/
def AnswerIsGuarded (content : String) : Prop :=
  ∀ head sql, validateWriteSql u (extractSql content) = .ok (head, sql) →
    Guarded d (fenced content) sql.toList

/-- Every statement that `execute_write_sql_raw` hands to MySQL is guarded. -/
def QueryIsGuarded (query : String) : Prop :=
  ∀ env target database statement,
    (executeWriteSql u env query target).1 = some (database, statement) →
      Guarded d (strip query.toList) statement.toList

/-- The gate accepts a statement of the answer. -/
def AcceptsAnswer (content : String) : Prop :=
  ∃ head sql, validateWriteSql u (extractSql content) = .ok (head, sql)

/-- `execute_write_sql_raw` hands the query over. -/
def HandsOver (query : String) : Prop :=
  ∃ env target database statement,
    (executeWriteSql u env query target).1 = some (database, statement)

variable {u d}

/-- The `WHERE` clause of an accepted statement. -/
lemma conditional_iff {text : List Char} (hblank : ∀ c ∈ text.head?, isSpace c = false)
    (hhead : statementHead text ∈
      ["insert", "update", "delete", "create", "alter", "drop", "truncate"])
    (hwhere : statementHead text ∈ ["update", "delete"] → hasWord u "where" text = true) :
    (RewritesRows d text → "where".toList ∈ outerKeywords d text) ↔
      (RewritesRows d text → SearchIsRight u d text) := by
  obtain ⟨hchars, hne⟩ := writeHeads_isHeadChar hhead
  refine forall_congr' fun hverb => ?_
  have hrewrite := statementHead_of_rewritesRows d hblank hchars hne hverb
  exact (searchIsRight_iff (hwhere hrewrite)).symm

lemma guarded_answer_iff {content head sql : String}
    (haccept : validateWriteSql u (extractSql content) = .ok (head, sql)) :
    Guarded d (fenced content) sql.toList ↔
      (RewritesRows d (strip (firstPart (fenced content))) →
        SearchIsRight u d (strip (firstPart (fenced content)))) ∧
      CutIsRight d (fenced content) := by
  obtain ⟨hsql, rfl, hhead, hwhere⟩ := validateWriteSql_ok u haccept
  obtain ⟨hchars, hne⟩ := writeHeads_isHeadChar (mem_writeHeads hhead)
  have hplain := startsPlain_of_head (head?_stripStatement _) hchars hne
  have hcond := conditional_iff (d := d) (head?_stripStatement _) (mem_writeHeads hhead) hwhere
  have hextract := stripStatement_extractSql (unled_ne_nil hplain)
  rw [hextract] at hplain hcond
  have hfirst : StartsPlain (firstPart (fenced content)) :=
    startsPlain_of_strip (head?_firstPart _) hplain
  rw [hsql, hextract, ← hcond, ← statements_firstPart_iff hfirst]
  constructor
  · rintro ⟨hconditional, hwhole⟩
    exact ⟨hconditional, by rw [hwhole, strip_strip]⟩
  · rintro ⟨hconditional, hwhole⟩
    exact ⟨hconditional, by rw [hwhole, strip_strip]⟩

lemma guarded_query_iff {env : WriteEnv} {query : String} {target : Option String}
    {database statement : String}
    (haccept : (executeWriteSql u env query target).1 = some (database, statement)) :
    Guarded d (strip query.toList) statement.toList ↔
      (RewritesRows d (stripStatement query) → SearchIsRight u d (stripStatement query)) ∧
        TrimIsRight d query := by
  obtain ⟨hsql, hhead, hwhere⟩ := executeWriteSql_some u haccept
  obtain ⟨hchars, hne⟩ := writeHeads_isHeadChar hhead
  have hplain := startsPlain_of_head (head?_stripStatement _) hchars hne
  rw [hsql, ← conditional_iff (head?_stripStatement _) hhead hwhere,
    ← statements_stripStatement_iff hplain]
  exact ⟨fun h => ⟨h.conditional, h.whole⟩, fun h => ⟨h.1, h.2⟩⟩

variable (u d)

/-- An answer with a semicolon in a comment in front of the `WHERE` clause. -/
def commentedUpdate : String :=
  "UPDATE products SET stock = 0 -- only where needed; see docs\nWHERE product_id = 'p1'"

example : outerKeywords .standard "DELETE FROM reviews WHERE id IN (SELECT id FROM t)".toList =
    ["delete", "from", "reviews", "where", "id", "in"].map String.toList := by decide +kernel

end EcommerceAgent.Database
