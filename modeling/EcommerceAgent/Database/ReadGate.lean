/-
# What the read gate lets through

`execute_read_sql_raw` tests the first word of a text.  MySQL also accepts data-modifying
statements behind `WITH`, queries that write files or lock rows, and queries that call functions of
the database.  The gate is right where its tests come out the same on the words of the statement
behind its `WITH` clause.
-/
import EcommerceAgent.Database.Sql
import EcommerceAgent.Lib.SqlEffects

open EcommerceAgent.Lib EcommerceAgent.Lib.Text EcommerceAgent.Lib.Sql

namespace EcommerceAgent.Database

variable (u : Unicode) (d : Dialect)

/-- The words with which a text may begin. -/
def readWords : List String := ["select", "with", "show", "describe", "desc"]

/-- The statement that `execute_read_sql_raw` sends to MySQL, if any. -/
def readStatement (env : ReadEnv) (query : String) : Option String :=
  match env.config with
  | .error _ => none
  | .ok () =>
    let stripped := stripStatement query
    if startsWithAny u readWords stripped = true ∧
        validateTenantScopedReadSql u env.identity (limited u stripped) = "" then
      some (String.ofList (limited u stripped))
    else none

/-- What the caller gets of MySQL's answer. -/
def readAnswer (sql : String) :
    Except String (Option (List String × List (List String))) → ReadResult
  | .error e => .failed ("查询出现异常：" ++ e)
  | .ok answer => .executed sql (resultText sql answer)

/-- A statement that is sent is answered by MySQL. -/
theorem executeReadSqlRaw_of_some {env : ReadEnv} {query sql : String}
    (h : readStatement u env query = some sql) :
    executeReadSqlRaw u env query = readAnswer sql (env.mysql sql) := by
  unfold readStatement at h
  unfold executeReadSqlRaw
  cases hconfig : env.config with
  | error e => simp [hconfig] at h
  | ok _ =>
    rw [hconfig] at h
    obtain ⟨⟨hwords, hiso⟩, hsql⟩ := Option.ite_none_right_eq_some.mp h
    obtain rfl := Option.some.inj hsql
    simp only [readWords] at hwords
    simp only [hwords, hiso, Bool.not_true, Bool.false_eq_true, if_false, ne_eq, not_true_eq_false]
    cases env.mysql (String.ofList (limited u (stripStatement query))) with
    | error e => rfl
    | ok answer => rfl

/-- Without a statement MySQL is not asked. -/
theorem executeReadSqlRaw_of_none {env : ReadEnv} {query : String}
    (h : readStatement u env query = none) (mysql) :
    executeReadSqlRaw u { env with mysql } query = executeReadSqlRaw u env query := by
  unfold readStatement at h
  unfold executeReadSqlRaw
  cases hconfig : env.config with
  | error e => rfl
  | ok value =>
    cases value
    rw [hconfig] at h
    have hgate : ¬(startsWithAny u readWords (stripStatement query) = true ∧
        validateTenantScopedReadSql u env.identity (limited u (stripStatement query)) = "") := by
      intro hgate
      simp only [if_pos hgate] at h
      cases h
    by_cases hwords : startsWithAny u ["select", "with", "show", "describe", "desc"]
        (stripStatement query) = true
    · have hiso :
          validateTenantScopedReadSql u env.identity (limited u (stripStatement query)) ≠ "" :=
        fun hiso => hgate ⟨hwords, hiso⟩
      simp [hwords, hiso]
    · simp [hwords]

/-- The statement that `execute_sql_query` sends to MySQL, if any. -/
def toolStatement (env : ToolEnv) (query : String) : Option String :=
  match env.guardError with
  | some _ => none
  | none => readStatement u env.read query

lemma readStatement_of_toolStatement {env : ToolEnv} {query sql : String}
    (h : toolStatement u env query = some sql) : readStatement u env.read query = some sql := by
  unfold toolStatement at h
  cases hguard : env.guardError with
  | some e => simp [hguard] at h
  | none => simpa [hguard] using h

lemma toList_of_readStatement {env : ReadEnv} {query sql : String}
    (h : readStatement u env query = some sql) :
    sql.toList = limited u (stripStatement query) := by
  unfold readStatement at h
  cases hconfig : env.config with
  | error e => simp [hconfig] at h
  | ok _ =>
    rw [hconfig] at h
    obtain rfl := Option.some.inj (Option.ite_none_right_eq_some.mp h).2
    exact String.toList_ofList

/-! ### The first word of an accepted text -/

lemma isNameChar_of_sameIgnoringCase {p c : Char} (hp : p.isAlpha = true)
    (h : Regex.sameIgnoringCase p c = true) : isNameChar c = true := by
  by_cases hc : c.toNat < 128
  · rw [sameIgnoringCase_ascii p hc, beq_iff_eq] at h
    exact forall_ascii (p := fun c => c.toLower.isAlpha = true → isNameChar c = true)
      (by decide) hc (h ▸ hp)
  · have : 128 ≤ c.toNat := by omega
    simp [isNameChar, this]

lemma readWords_isAlpha {word : String} (h : word ∈ readWords) :
    word.toList ≠ [] ∧ ∀ p ∈ word.toList, p.isAlpha = true := by
  have hall : readWords.all (fun w => w.toList != [] && w.toList.all Char.isAlpha) = true := by
    decide
  simpa using List.all_eq_true.mp hall word h

/-- An accepted text begins with a character that a letter matches. -/
lemma head_of_startsWithAny {text : List Char} (h : startsWithAny u readWords text = true) :
    ∃ p c cs, text = c :: cs ∧ p.isAlpha = true ∧ Regex.sameIgnoringCase p c = true := by
  obtain ⟨word, hword, hstarts⟩ := List.any_eq_true.mp h
  have hletters := readWords_isAlpha hword
  obtain ⟨p, ps, hchars⟩ := List.exists_cons_of_ne_nil hletters.1
  simp only [Regex.startsWithWord, hchars, Bool.and_eq_true] at hstarts
  cases text with
  | nil => simp at hstarts
  | cons c cs =>
    exact ⟨p, c, cs, rfl, hletters.2 p (by simp [hchars]),
      List.all_eq_true.mp hstarts.1.2 (p, c) (by simp)⟩

/-- No character behind the letters at the beginning of the text belongs to a name. -/
def WordEnds (text : List Char) : Prop :=
  ∀ c ∈ (text.dropWhile Char.isAlpha).head?, c ≠ '$' ∧ c.toNat < 128

/-- Letters behind which ASCII goes on with something else are the word that is found there. -/
lemma map_toLower_of_startsWithWord {word w rest : List Char} (hne : word ≠ [])
    (hword : ∀ c ∈ word, c.isAlpha = true) (hw : ∀ c ∈ w, c.isAlpha = true)
    (hrest : ∀ c ∈ rest.head?, c.isAlpha = false ∧ c.toNat < 128)
    (h : Regex.startsWithWord u Regex.sameIgnoringCase word (w ++ rest) = true) :
    w.map Char.toLower = word ∧ ∀ c ∈ rest.head?, isPlain c = false := by
  induction word generalizing w with
  | nil => exact absurd rfl hne
  | cons p word ih =>
    have hp := hword p List.mem_cons_self
    cases w with
    | nil =>
      exfalso
      cases rest with
      | nil => simp [startsWithWord_nil] at h
      | cons c rest =>
        -- the character behind the letters is no letter, so the word ends before it
        obtain ⟨hc, hascii⟩ := hrest c rfl
        have hsame : Regex.sameIgnoringCase p c = false := by
          rw [sameIgnoringCase_ascii p hascii, beq_eq_false_iff_ne]
          rintro rfl
          rw [isAlpha_of_toLower hp] at hc
          cases hc
        cases word with
        | nil => simp [startsWithWord_singleton, hsame] at h
        | cons q word => simp [startsWithWord_cons, hsame] at h
    | cons c w =>
      have hc := hw c List.mem_cons_self
      have hw' : ∀ x ∈ w, x.isAlpha = true := fun x hx => hw x (List.mem_cons_of_mem _ hx)
      by_cases hnil : word = []
      · subst hnil
        rw [List.cons_append, startsWithWord_singleton, sameIgnoringCase_ascii p (isAlpha_ascii hc),
          Bool.and_eq_true, beq_iff_eq] at h
        have hcw := isWord_of_isPlain u (isPlain_of_isAlpha hc)
        cases w with
        | nil =>
          refine ⟨by rw [List.map_cons, h.1, List.map_nil], fun x hx => ?_⟩
          have hbound := h.2
          rw [List.nil_append, Option.mem_def.mp hx] at hbound
          by_contra hplain
          rw [Bool.not_eq_false] at hplain
          simp [Regex.isBoundary, hcw, isWord_of_isPlain u hplain] at hbound
        | cons x w =>
          have hx := isWord_of_isPlain u (isPlain_of_isAlpha (hw' x List.mem_cons_self))
          simp [Regex.isBoundary, hcw, hx] at h
      · rw [List.cons_append, startsWithWord_cons u hnil,
          sameIgnoringCase_ascii p (isAlpha_ascii hc), Bool.and_eq_true, beq_iff_eq] at h
        obtain ⟨hmap, hend⟩ :=
          ih hnil (fun x hx => hword x (List.mem_cons_of_mem _ hx)) hw' h.2
        exact ⟨by rw [List.map_cons, h.1, hmap], hend⟩

/-- Where the letters at the beginning of the text end a word of names, MySQL reads the word that
the gate has matched. -/
lemma verb_eq_of_wordEnds {text : List Char} {word : String} (hword : word ∈ readWords)
    (h : Regex.startsWithWord u Regex.sameIgnoringCase word.toList text = true)
    (hends : WordEnds text) : verb d text = some word.toList := by
  obtain ⟨hne, halpha⟩ := readWords_isAlpha hword
  have hletters : ∀ c ∈ text.takeWhile Char.isAlpha, c.isAlpha = true :=
    fun c hc => List.mem_takeWhile_imp hc
  have hparts : text.takeWhile Char.isAlpha ++ text.dropWhile Char.isAlpha = text :=
    List.takeWhile_append_dropWhile
  rw [← hparts] at h
  obtain ⟨hmap, hplain⟩ := map_toLower_of_startsWithWord u hne halpha hletters
    (fun c hc => ⟨by simpa using head?_dropWhile Char.isAlpha text c hc, (hends c hc).2⟩) h
  have hend : ∀ c ∈ (text.dropWhile Char.isAlpha).head?, isNameChar c = false := by
    intro c hc
    have hc' := hplain c hc
    simp only [isPlain, Bool.or_eq_false_iff] at hc'
    simp [isNameChar, hc'.1, beq_eq_false_iff_ne.mp hc'.2, (hends c hc).1, (hends c hc).2]
  have hverb := verb_word d (fun c hc => isNameChar_of_isAlpha (hletters c hc))
    (fun hnil => hne (by rw [← hmap, hnil, List.map_nil])) hend
  rwa [hparts, hmap] at hverb

/-- A word of letters that MySQL reads at the beginning ends there. -/
lemma wordEnds_of_verb {c : Char} {cs w : List Char} (hc : isNameChar c = true)
    (hw : ∀ x ∈ w, x.isAlpha = true) (h : verb d (c :: cs) = some w) : WordEnds (c :: cs) := by
  have hparts : (c :: cs).takeWhile isNameChar ++ (c :: cs).dropWhile isNameChar = c :: cs :=
    List.takeWhile_append_dropWhile
  have hend := head?_dropWhile isNameChar (c :: cs)
  have hverb := verb_word d (w := (c :: cs).takeWhile isNameChar)
    (fun x hx => List.mem_takeWhile_imp hx) (by simp [hc]) hend
  rw [hparts, h] at hverb
  have hletters : ∀ x ∈ (c :: cs).takeWhile isNameChar, x.isAlpha = true := fun x hx =>
    isAlpha_of_toLower (hw _ (by rw [Option.some.inj hverb]; exact List.mem_map_of_mem hx))
  have hdrop : (c :: cs).dropWhile Char.isAlpha = (c :: cs).dropWhile isNameChar := by
    conv_lhs => rw [← hparts]
    rw [List.dropWhile_append_of_pos hletters]
    cases hrest : (c :: cs).dropWhile isNameChar with
    | nil => rfl
    | cons x xs =>
      have hx := hend x (by rw [hrest]; rfl)
      refine List.dropWhile_cons_of_neg fun halpha => ?_
      rw [isNameChar_of_isAlpha halpha] at hx
      cases hx
  rw [WordEnds, hdrop]
  intro x hx
  have hname := hend x hx
  constructor
  · rintro rfl
    exact absurd hname (by decide)
  · by_contra hascii
    simp [isNameChar, Nat.not_lt.mp hascii] at hname

/-- Where the letters at the beginning end like a word of names, MySQL reads the word that the gate
has matched. -/
lemma verb_mem_iff {text : List Char} (h : startsWithAny u readWords text = true) :
    (∃ w ∈ readWords, verb d text = some w.toList) ↔ WordEnds text := by
  obtain ⟨word, hword, hstarts⟩ := List.any_eq_true.mp h
  constructor
  · rintro ⟨w, hw, hverb⟩
    obtain ⟨p, c, cs, rfl, hp, hsame⟩ := head_of_startsWithAny u h
    exact wordEnds_of_verb d (isNameChar_of_sameIgnoringCase hp hsame) (readWords_isAlpha hw).2
      hverb
  · exact fun hends => ⟨word, hword, verb_eq_of_wordEnds u d hword hstarts hends⟩

/-! ### The claim -/

variable (changing : List Char → Prop)

/-- What a call of `execute_read_sql_raw` makes of the tables and files of the server. -/
def afterRead (server : Server d changing) (env : ReadEnv) (query : String)
    (state : server.State) : server.State :=
  match readStatement u env query with
  | some sql => server.execute state sql.toList
  | none => state

/-- What a call of `execute_sql_query` makes of them. -/
def afterTool (server : Server d changing) (env : ToolEnv) (query : String)
    (state : server.State) : server.State :=
  match toolStatement u env query with
  | some sql => server.execute state sql.toList
  | none => state

/-- What `execute_read_sql_raw` sends is read-only, and a call changes nothing on any server. -/
structure ReadsOnly (env : ReadEnv) (query : String) : Prop where
  readOnly : ∀ sql, readStatement u env query = some sql → ReadOnly d sql.toList
  keeps : ∀ (server : Server d changing) state,
    afterRead u d changing server env query state = state

/-- What `execute_sql_query` sends is read-only, and a call changes nothing on any server. -/
structure ToolReadsOnly (env : ToolEnv) (query : String) : Prop where
  readOnly : ∀ sql, toolStatement u env query = some sql → ReadOnly d sql.toList
  keeps : ∀ (server : Server d changing) state,
    afterTool u d changing server env query state = state

/-- The search finds none of the phrases in the row of words. -/
def FindsNone (phrases : List (List String)) (ts : List Token) : Prop :=
  ∀ phrase ∈ phrases, hasWord u (" ".intercalate phrase) (wordText ts) = false

/-- The gate's test is right about the text: the word that it has matched ends there for MySQL too,
the same test without `with` accepts the words behind a `WITH` clause, and it finds no verb that
changes rows behind `ANALYZE`; a search finds no clause with a side effect among the words; no
statement stands behind the first delimiter; and no name is that of an object whose use changes
something. -/
structure GateIsRight (text : List Char) : Prop where
  word : WordEnds text
  main : startsWithAny u ["with"] text = true →
    startsWithAny u readVerbs (wordText (mainPart .start (tokens d text))) = true
  analyzed : startsWithAny u changingVerbs
    (wordText (mainPart .start (analyzedPart (tokens d text)))) = false
  pure : FindsNone u sideEffects (tokens d text)
  alone : ∀ part rest, text = part ++ ';' :: rest → Undivided d .start part →
    (scan d .start part).delimits d = true → statements d rest = []
  names : ∀ name ∈ identifiers d text, ¬ changing name

variable {u d changing} {text : List Char}

/-- The gate's test without a clause in front: it finds the main verb. -/
lemma startsWithAny_mainPart {verbs : List String} (hplain : ∀ v ∈ verbs, PlainPhrase [v])
    (ts : List Token) :
    startsWithAny u verbs (wordText (mainPart .start ts)) = true ↔
      ∃ v ∈ verbs, mainVerb ts = some v.toList := by
  rw [startsWithAny, List.any_eq_true]
  exact exists_congr fun v => and_congr_right fun hv => startsWithWord_wordText u (hplain v hv) _

lemma findsNone_iff {phrases : List (List String)}
    (hplain : ∀ phrase ∈ phrases, phrase ≠ [] ∧ PlainPhrase phrase) (ts : List Token) :
    FindsNone u phrases ts ↔ ∀ phrase ∈ phrases, hasPhrase phrase ts = false := by
  refine forall_congr' fun phrase => forall_congr' fun hphrase => ?_
  obtain ⟨hne, hwords⟩ := hplain phrase hphrase
  rw [hasWord, String.toList_intercalate, ← searchWord_wordText u hne hwords]
  rfl

/-- An accepted text whose first word ends begins with a letter. -/
lemma startsPlain_of_wordEnds (h : startsWithAny u readWords text = true) (hends : WordEnds text) :
    StartsPlain text := by
  obtain ⟨p, c, cs, rfl, hp, hsame⟩ := head_of_startsWithAny u h
  by_cases hc : c.isAlpha = true
  · exact startsPlain_of_isAlpha hc cs
  · -- the first character does not continue the letters, and so it is ASCII
    have hascii := (hends c (by rw [List.dropWhile_cons_of_neg hc]; rfl)).2
    rw [sameIgnoringCase_ascii p hascii, beq_iff_eq] at hsame
    exact absurd (isAlpha_of_toLower (hsame ▸ hp)) hc

/-- A text is one statement exactly when none stands behind its first delimiter. -/
lemma alone_iff (hplain : StartsPlain text) :
    (∃ statement, statements d text = [statement]) ↔
      ∀ part rest, text = part ++ ';' :: rest → Undivided d .start part →
        (scan d .start part).delimits d = true → statements d rest = [] := by
  constructor
  · rintro ⟨statement, hone⟩ part rest rfl hpart hend
    rw [statements_delimiter rest (startsPlain_of_append hplain) hpart hend] at hone
    exact (List.cons.inj hone).2
  · intro h
    rcases exists_first_part d .start text with hwhole | ⟨part, rest, htext, hpart, hend⟩
    · exact ⟨_, statements_undivided hplain hwhole⟩
    · have hrest := h part rest htext hpart hend
      subst htext
      exact ⟨_, by rw [statements_delimiter rest (startsPlain_of_append hplain) hpart hend, hrest]⟩

/-- The main verb of an accepted text reads where its first word ends and what stands behind a
`WITH` clause passes the gate's test. -/
lemma reads_iff (h : startsWithAny u readWords text = true) :
    (∃ v ∈ readVerbs, mainVerb (tokens d text) = some v.toList) ↔
      WordEnds text ∧ (startsWithAny u ["with"] text = true →
        startsWithAny u readVerbs (wordText (mainPart .start (tokens d text))) = true) := by
  have hplain : ∀ v ∈ readVerbs, PlainPhrase [v] := by decide
  obtain ⟨p, c, cs, htext, hp, hsame⟩ := head_of_startsWithAny u h
  obtain ⟨w, ts, htokens⟩ := exists_tokens_word d cs (isNameChar_of_sameIgnoringCase hp hsame)
  rw [← htext] at htokens
  have hverb : verb d text = some (w.map Char.toLower) := by
    rw [verb, htokens]
    rfl
  rw [startsWithAny_mainPart hplain, ← verb_mem_iff u d h]
  constructor
  · rintro ⟨v, hv, hmain⟩
    refine ⟨?_, fun _ => ⟨v, hv, hmain⟩⟩
    by_cases hwith : w.map Char.toLower = "with".toList
    · exact ⟨"with", by decide, by rw [hverb, hwith]⟩
    · have hmem : ∀ v ∈ readVerbs, v ∈ readWords := by decide
      rw [htokens, mainVerb_word ts hwith] at hmain
      exact ⟨v, hmem v hv, by rw [hverb, hmain]⟩
  · rintro ⟨hends, hquery⟩
    obtain ⟨word, hword, hstarts⟩ := List.any_eq_true.mp h
    have hfirst := verb_eq_of_wordEnds u d hword hstarts ((verb_mem_iff u d h).mp hends)
    by_cases hwith : word = "with"
    · subst hwith
      exact hquery (List.any_eq_true.mpr ⟨"with", List.mem_cons_self, hstarts⟩)
    · have hmem : ∀ v ∈ readWords, v ≠ "with" → v ∈ readVerbs := by decide
      rw [hverb] at hfirst
      have hne : w.map Char.toLower ≠ "with".toList := by
        rw [Option.some.inj hfirst]
        exact fun heq => hwith (String.toList_inj.mp heq)
      exact ⟨word, hmem word hword hwith, by rw [htokens, mainVerb_word ts hne, hfirst]⟩

/-- For a text that the gate accepts, this is what makes it read-only and harmless. -/
lemma gateIsRight_iff (h : startsWithAny u readWords text = true) :
    ReadOnly d text ∧ ¬ CanChange d changing text ↔ GateIsRight u d changing text := by
  have hphrases : ∀ phrase ∈ sideEffects, phrase ≠ [] ∧ PlainPhrase phrase := by decide
  have hverbs : ∀ v ∈ changingVerbs, PlainPhrase [v] := by decide
  have hanalyzed := startsWithAny_mainPart (u := u) hverbs (analyzedPart (tokens d text))
  constructor
  · rintro ⟨⟨hreads, hpure, halone⟩, hchange⟩
    obtain ⟨hends, hmain⟩ := (reads_iff h).mp hreads
    refine ⟨hends, hmain, ?_, (findsNone_iff hphrases _).mpr hpure,
      (alone_iff (startsPlain_of_wordEnds h hends)).mp halone, fun name hname hc => ?_⟩
    · rw [← Bool.not_eq_true, hanalyzed]
      rintro ⟨v, hv, hmain⟩
      exact hchange (.rows hv (.inr hmain))
    · exact hchange (.object hname hc)
  · rintro ⟨hends, hmain, hnone, hpure, halone, hnames⟩
    have hreads := (reads_iff h).mpr ⟨hends, hmain⟩
    have hpure := (findsNone_iff hphrases _).mp hpure
    refine ⟨⟨hreads, hpure, (alone_iff (startsPlain_of_wordEnds h hends)).mpr halone⟩, ?_⟩
    rintro (⟨hv, hmain | hmain⟩ | ⟨hphrase, hfound⟩ | ⟨hname, hc⟩)
    · obtain ⟨v, hread, hmain'⟩ := hreads
      rw [hmain'] at hmain
      have hdisjoint : ∀ v ∈ readVerbs, ∀ v' ∈ changingVerbs, v ≠ v' := by decide
      exact hdisjoint v hread _ hv (String.toList_inj.mp (Option.some.inj hmain))
    · rw [hanalyzed.mpr ⟨_, hv, hmain⟩] at hnone
      cases hnone
    · rw [hpure _ (List.mem_append_left _ hphrase)] at hfound
      cases hfound
    · exact hnames _ hname hc

/-- A word that stands at the beginning of a text still does when a blank and more follow. -/
lemma startsWithWord_append_blank {word : List Char} (rest : List Char)
    (h : Regex.startsWithWord u Regex.sameIgnoringCase word text = true) :
    Regex.startsWithWord u Regex.sameIgnoringCase word (text ++ ' ' :: rest) = true := by
  simp only [Regex.startsWithWord, Bool.and_eq_true, beq_iff_eq] at h ⊢
  obtain ⟨⟨hlength, hsame⟩, hend⟩ := h
  have hle : word.length ≤ text.length := by
    rw [List.length_take] at hlength
    omega
  rw [List.take_append_of_le_length hle, List.drop_append_of_le_length hle]
  refine ⟨⟨hlength, hsame⟩, ?_⟩
  cases hdrop : text.drop word.length with
  | nil =>
    rw [hdrop] at hend
    have hblank : Regex.isWord u ' ' = false := Regex.isWord_ascii (by decide)
    simpa [Regex.isBoundary, hblank] using hend
  | cons c cs => rwa [hdrop] at hend

/-- The gate's test accepts the text with the limit that is appended. -/
lemma startsWithAny_limited (h : startsWithAny u readWords text = true) :
    startsWithAny u readWords (limited u text) = true := by
  unfold limited
  split_ifs
  · obtain ⟨word, hword, hstarts⟩ := List.any_eq_true.mp h
    exact List.any_eq_true.mpr ⟨word, hword, startsWithWord_append_blank _ hstarts⟩
  · exact h

/-- What a text that is sent does, on any server. -/
lemma sent_iff {sql : String} {env : ReadEnv} {query : String}
    (h : readStatement u env query = some sql) :
    (ReadOnly d sql.toList ∧ ∀ (server : Server d changing) (state : server.State),
        server.execute state sql.toList = state) ↔
      GateIsRight u d changing (limited u (stripStatement query)) := by
  have hwords : startsWithAny u readWords (stripStatement query) = true := by
    unfold readStatement at h
    cases hconfig : env.config with
    | error e => simp [hconfig] at h
    | ok _ =>
      rw [hconfig] at h
      exact (Option.ite_none_right_eq_some.mp h).1.1
  rw [← gateIsRight_iff (startsWithAny_limited hwords), ← toList_of_readStatement u h]
  exact and_congr_right fun hread => forall_execute_eq_iff hread.alone

variable (u d changing)

/-- An environment with a configured database and no identity. -/
def openEnv : ReadEnv := ⟨.ok (), none, fun _ => .ok none⟩

end EcommerceAgent.Database
