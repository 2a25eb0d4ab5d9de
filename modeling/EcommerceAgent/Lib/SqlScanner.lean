/-
# Reading an SQL text

How MySQL divides a text into code, literals, quoted names and comments.  A scanner reads the
text one character at a time.  What it passes on is the bare text, in which one character stands
for each literal and each quoted name and a blank for each comment.  The delimiters of a text are
the semicolons that the scanner passes on.
-/
import EcommerceAgent.Lib.Text

namespace EcommerceAgent.Lib.Sql

open EcommerceAgent.Lib.Text

/-- The settings of a server on which the reading depends: the modes `ANSI_QUOTES` and
`NO_BACKSLASH_ESCAPES`, and the version that `/*!50110 … */` is compared with. -/
structure Dialect where
  ansiQuotes : Bool
  noBackslashEscapes : Bool
  version : ℕ

/-- The server that runs with neither of the two modes. -/
def Dialect.standard : Dialect := ⟨false, false, 80036⟩

/-- The character around quoted names. -/
def backtick : Char := Char.ofNat 96

/-- A name, and not a literal, stands between these quotes. -/
def Dialect.isNameQuote (d : Dialect) (q : Char) : Bool :=
  q == backtick || (q == '"' && d.ansiQuotes)

/-- What stands for a literal, or for a quoted name, in the bare text. -/
def Dialect.placeholder (d : Dialect) (q : Char) : Char :=
  if d.isNameQuote q then backtick else '\''

/-- A backslash between these quotes escapes the character behind it. -/
def Dialect.escapes (d : Dialect) (q : Char) : Bool := !d.isNameQuote q && !d.noBackslashEscapes

/-- What has been read last: code, the beginning of a comment, a comment, or something quoted.
`skip` is a versioned comment of a newer server, in which `block true` is a nested comment. -/
inductive Mode
  | code
  | dash
  | dashes
  | slash
  | star
  | opening
  | version (digits : List Char)
  | line
  | block (nested : Bool)
  | blockStar (nested : Bool)
  | skip
  | skipSlash
  | skipStar
  | quoted (q : Char)
  | escaped (q : Char)
  | closed (q : Char)
deriving DecidableEq, Repr

/-- The scanner; `executable` holds between `/*!` and its `*/`, whose content is code. -/
structure Scanner where
  mode : Mode
  executable : Bool
deriving DecidableEq, Repr

/-- The scanner at the beginning of a statement. -/
def Scanner.start : Scanner := ⟨.code, false⟩

/-- A blank or a control character of the server's character set. -/
def isBlank (c : Char) : Bool := c.toNat ≤ 32 || c.toNat == 127

variable (d : Dialect)

/-- A character of code: what is passed on, and the scanner after it. -/
def codeStep (executable : Bool) (c : Char) : List Char × Scanner :=
  if c = '\'' ∨ c = '"' ∨ c = backtick then ([d.placeholder c], ⟨.quoted c, executable⟩)
  else if c = '#' then ([' '], ⟨.line, executable⟩)
  else if c = '-' then ([], ⟨.dash, executable⟩)
  else if c = '/' then ([], ⟨.slash, executable⟩)
  else if c = '*' ∧ executable = true then ([], ⟨.star, executable⟩)
  else ([c], ⟨.code, executable⟩)

/-- A character of code behind characters that have not been passed on yet. -/
def codeAfter (pending : List Char) (executable : Bool) (c : Char) : List Char × Scanner :=
  (pending ++ (codeStep d executable c).1, (codeStep d executable c).2)

/-- The number that the digits of a version spell. -/
def versionNumber (digits : List Char) : ℕ :=
  digits.foldl (fun n c => 10 * n + (c.toNat - 48)) 0

/-- The character behind `/*!` and the digits that follow it: fewer than five digits are no
version, and the comment of a newer server is skipped. -/
def versionStep (digits : List Char) (executable : Bool) (c : Char) : List Char × Scanner :=
  if digits.length < 5 then codeAfter d digits true c
  else if versionNumber digits ≤ d.version then codeStep d true c
  else if c = '*' then ([], ⟨.skipStar, executable⟩)
  else if c = '/' then ([], ⟨.skipSlash, executable⟩)
  else ([], ⟨.skip, executable⟩)

/-- The next character: what is passed on, and the scanner after it. -/
def step (s : Scanner) (c : Char) : List Char × Scanner :=
  let at_ (mode : Mode) : Scanner := ⟨mode, s.executable⟩
  match s.mode with
  | .code => codeStep d s.executable c
  | .dash => if c = '-' then ([], at_ .dashes) else codeAfter d ['-'] s.executable c
  | .dashes =>
    if isBlank c then ([' '], if c = '\n' then at_ .code else at_ .line)
    else if c = '-' then (['-'], at_ .dashes)
    else codeAfter d ['-', '-'] s.executable c
  | .slash => if c = '*' then ([], at_ .opening) else codeAfter d ['/'] s.executable c
  | .star => if c = '/' then ([' '], .start) else codeAfter d ['*'] s.executable c
  | .opening =>
    if c = '!' then ([' '], at_ (.version []))
    else if c = '*' then ([' '], at_ (.blockStar false))
    else ([' '], at_ (.block false))
  | .version digits =>
    if c.isDigit ∧ digits.length < 6 then ([], at_ (.version (digits ++ [c])))
    else versionStep d digits s.executable c
  | .line => if c = '\n' then ([], at_ .code) else ([], at_ .line)
  | .block nested => if c = '*' then ([], at_ (.blockStar nested)) else ([], at_ (.block nested))
  | .blockStar nested =>
    if c = '/' then ([], at_ (if nested then .skip else .code))
    else if c = '*' then ([], at_ (.blockStar nested))
    else ([], at_ (.block nested))
  | .skip =>
    if c = '*' then ([], at_ .skipStar)
    else if c = '/' then ([], at_ .skipSlash)
    else ([], at_ .skip)
  | .skipSlash =>
    if c = '*' then ([], at_ (.block true))
    else if c = '/' then ([], at_ .skipSlash)
    else ([], at_ .skip)
  | .skipStar =>
    if c = '/' then ([], at_ .code)
    else if c = '*' then ([], at_ .skipStar)
    else ([], at_ .skip)
  | .quoted q =>
    if c = '\\' ∧ d.escapes q = true then ([], at_ (.escaped q))
    else if c = q then ([], at_ (.closed q))
    else ([], at_ (.quoted q))
  | .escaped q => ([], at_ (.quoted q))
  | .closed q => if c = q then ([], at_ (.quoted q)) else codeStep d s.executable c

/-- What is still passed on when the text ends; two dashes at the end begin a comment. -/
def Mode.flush : Mode → List Char
  | .dash => ['-']
  | .slash => ['/']
  | .star => ['*']
  | .version digits => digits
  | _ => []

/-- The scanner after a text. -/
def scan (s : Scanner) (text : List Char) : Scanner := text.foldl (fun s c => (step d s c).2) s

/-- What is passed on of a text. -/
def bareFrom (s : Scanner) : List Char → List Char
  | [] => s.mode.flush
  | c :: cs => (step d s c).1 ++ bareFrom (step d s c).2 cs

/-- The bare text of a statement. -/
def bare (text : List Char) : List Char := bareFrom d .start text

/-- A semicolon that comes next is a delimiter. -/
def Scanner.delimits (s : Scanner) : Bool := (step d s ';').1.contains ';'

/-- The parts of a text between its delimiters. -/
def delimitedFrom (s : Scanner) : List Char → List (List Char)
  | [] => [[]]
  | c :: cs =>
    if c = ';' ∧ s.delimits d = true then [] :: delimitedFrom .start cs
    else (delimitedFrom (step d s c).2 cs).modifyHead (c :: ·)

/-- The text holds something besides blanks and comments. -/
def hasCode (text : List Char) : Bool := (bare d text).any fun c => !isBlank c

/-- The statements that a text holds, without the blanks around them. -/
def statements (text : List Char) : List (List Char) :=
  ((delimitedFrom d .start text).map strip).filter (hasCode d)

/-! ### The scanner, step by step -/

@[simp] lemma scan_nil (s : Scanner) : scan d s [] = s := rfl

@[simp] lemma scan_cons (s : Scanner) (c : Char) (cs : List Char) :
    scan d s (c :: cs) = scan d (step d s c).2 cs := rfl

/-- The characters that begin something else than code. -/
def special : List Char := ['\'', '"', backtick, '#', '-', '/', '*']

lemma codeStep_of_not_special {c : Char} (executable : Bool) (hc : c ∉ special) :
    codeStep d executable c = ([c], ⟨.code, executable⟩) := by
  simp only [special, List.mem_cons, List.not_mem_nil, or_false, not_or] at hc
  obtain ⟨h₁, h₂, h₃, h₄, h₅, h₆, h₇⟩ := hc
  simp [codeStep, h₁, h₂, h₃, h₄, h₅, h₆, h₇]

@[simp] lemma step_start (c : Char) : step d .start c = codeStep d false c := rfl

/-- A text of plain characters is code. -/
lemma bareFrom_append_plain {w : List Char} (rest : List Char) (hw : ∀ c ∈ w, c ∉ special) :
    bareFrom d .start (w ++ rest) = w ++ bareFrom d .start rest := by
  induction w with
  | nil => rfl
  | cons c w ih =>
    have hstep : step d .start c = ([c], .start) :=
      codeStep_of_not_special d false (hw c List.mem_cons_self)
    rw [List.cons_append, bareFrom, hstep, ih fun x hx => hw x (List.mem_cons_of_mem _ hx)]
    rfl

/-! ### Statements -/

/-- The blanks of `str.strip()` are code. -/
lemma not_special_of_isSpace {c : Char} (h : isSpace c = true) : c ∉ special := by
  intro hc
  have : special.all (fun c => !isSpace c) = true := by decide
  simpa [h] using List.all_eq_true.mp this c hc

lemma strip_cons_of_isSpace {c : Char} (h : isSpace c = true) (text : List Char) :
    strip (c :: text) = strip text := by
  simp [strip, h]

/-- A semicolon at the beginning of a statement ends it. -/
lemma delimits_start : Scanner.start.delimits d = true := rfl

lemma statements_semicolon (text : List Char) :
    statements d (';' :: text) = statements d text := by
  have hnil : hasCode d (strip []) = false := rfl
  have hcons : delimitedFrom d .start (';' :: text) = [] :: delimitedFrom d .start text := by
    simp [delimitedFrom, delimits_start]
  rw [statements, hcons, List.map_cons, List.filter_cons, hnil]
  rfl

lemma map_strip_modifyHead {c : Char} (h : isSpace c = true) (parts : List (List Char)) :
    (parts.modifyHead (c :: ·)).map strip = parts.map strip := by
  cases parts with
  | nil => rfl
  | cons p ps => simp [strip_cons_of_isSpace h]

lemma statements_blank {c : Char} (h : isSpace c = true) (text : List Char) :
    statements d (c :: text) = statements d text := by
  have hstep : step d .start c = ([c], .start) :=
    codeStep_of_not_special d false (not_special_of_isSpace h)
  have hsemi : c ≠ ';' := by
    rintro rfl
    exact absurd h (by decide)
  have hcons : delimitedFrom d .start (c :: text)
      = (delimitedFrom d .start text).modifyHead (c :: ·) := by
    simp only [delimitedFrom, hstep, hsemi, false_and, if_false]
  rw [statements, hcons, map_strip_modifyHead h]
  rfl

/-- Blanks and semicolons in front of a text hold no statement. -/
lemma statements_dropWhile (text : List Char) :
    statements d (text.dropWhile fun c => isSpace c || c == ';') = statements d text := by
  induction text with
  | nil => rfl
  | cons c cs ih =>
    by_cases hspace : isSpace c = true
    · rw [List.dropWhile_cons, if_pos (by simp [hspace]), ih, statements_blank d hspace]
    · by_cases hsemi : c = ';'
      · subst hsemi
        rw [List.dropWhile_cons, if_pos (by simp), ih, statements_semicolon]
      · rw [List.dropWhile_cons, if_neg (by simp [hspace, hsemi])]

/-- The text has no delimiter. -/
def Undivided (s : Scanner) (text : List Char) : Prop := delimitedFrom d s text = [text]

lemma delimitedFrom_ne_nil (s : Scanner) (text : List Char) : delimitedFrom d s text ≠ [] := by
  induction text generalizing s with
  | nil => simp [delimitedFrom]
  | cons c cs ih =>
    rw [delimitedFrom]
    split_ifs
    · simp
    · simpa [List.modifyHead_eq_nil_iff] using ih (step d s c).2

lemma undivided_cons_iff {s : Scanner} {c : Char} {cs : List Char} :
    Undivided d s (c :: cs)
      ↔ ¬(c = ';' ∧ s.delimits d = true) ∧ Undivided d (step d s c).2 cs := by
  unfold Undivided
  rw [delimitedFrom]
  split_ifs with h
  · simp [h]
  · cases hparts : delimitedFrom d (step d s c).2 cs with
    | nil => exact absurd hparts (delimitedFrom_ne_nil d _ _)
    | cons p ps => simp [h]

lemma undivided_of_not_mem {text : List Char} (h : ';' ∉ text) (s : Scanner) :
    Undivided d s text := by
  induction text generalizing s with
  | nil => rfl
  | cons c cs ih =>
    refine (undivided_cons_iff d).mpr ⟨fun hc => h (hc.1 ▸ List.mem_cons_self), ?_⟩
    exact ih (fun hc => h (List.mem_cons_of_mem _ hc)) _

/-- A text without a delimiter is the beginning of the first part. -/
lemma Undivided.append {s : Scanner} {part : List Char} (h : Undivided d s part)
    (rest : List Char) :
    delimitedFrom d s (part ++ rest)
      = (delimitedFrom d (scan d s part) rest).modifyHead (part ++ ·) := by
  induction part generalizing s with
  | nil =>
    cases hparts : delimitedFrom d s rest with
    | nil => simp [hparts]
    | cons p ps => simp [hparts]
  | cons c cs ih =>
    obtain ⟨hc, hcs⟩ := (undivided_cons_iff d).mp h
    rw [List.cons_append, delimitedFrom, if_neg hc, ih hcs, List.modifyHead_modifyHead, scan_cons]
    rfl

/-- A text is its first part, or a delimiter stands behind that part. -/
lemma exists_first_part (s : Scanner) (text : List Char) :
    Undivided d s text ∨
      ∃ part rest, text = part ++ ';' :: rest ∧ Undivided d s part ∧
        (scan d s part).delimits d = true := by
  induction text generalizing s with
  | nil => exact .inl rfl
  | cons c cs ih =>
    by_cases hc : c = ';' ∧ s.delimits d = true
    · exact .inr ⟨[], cs, by simp [hc.1], rfl, hc.2⟩
    · rcases ih (step d s c).2 with h | ⟨part, rest, rfl, hpart, hend⟩
      · exact .inl ((undivided_cons_iff d).mpr ⟨hc, h⟩)
      · exact .inr ⟨c :: part, rest, rfl, (undivided_cons_iff d).mpr ⟨hc, hpart⟩, hend⟩

/-! ### The first statement of a text

A text that begins with a plain character is not empty for MySQL. -/

lemma strip_cons_of_not_isSpace {c : Char} (h : isSpace c = false) (text : List Char) :
    strip (c :: text) = c :: text.rdropWhile isSpace := by
  have hdrop : (c :: text).dropWhile isSpace = c :: text := by simp [h]
  rw [strip, hdrop]
  induction text using List.reverseRecOn with
  | nil => simp [List.rdropWhile_singleton, h]
  | append_singleton xs x ih =>
    have hcons : c :: (xs ++ [x]) = (c :: xs) ++ [x] := rfl
    rw [hcons, List.rdropWhile_concat, List.rdropWhile_concat]
    split_ifs
    · rw [ih (by simp [h])]
    · rfl

/-- At the beginning stands a character that is neither blank nor special nor a semicolon. -/
def StartsPlain (text : List Char) : Prop :=
  ∃ c cs, text = c :: cs ∧ isSpace c = false ∧ isBlank c = false ∧ c ∉ special ∧ c ≠ ';'

variable {d}

lemma startsPlain_strip {text : List Char} (h : StartsPlain text) :
    StartsPlain (strip text) := by
  obtain ⟨c, cs, rfl, hspace, hblank, hspecial⟩ := h
  exact ⟨c, _, strip_cons_of_not_isSpace hspace cs, hspace, hblank, hspecial⟩

lemma hasCode_of_startsPlain {text : List Char} (h : StartsPlain text) : hasCode d text = true := by
  obtain ⟨c, cs, rfl, -, hblank, hspecial, -⟩ := h
  have hbare := bareFrom_append_plain d (w := [c]) cs (by simpa using hspecial)
  rw [hasCode, bare, ← List.singleton_append, hbare]
  simp [hblank]

lemma startsPlain_append {text : List Char} (h : StartsPlain text) (rest : List Char) :
    StartsPlain (text ++ rest) := by
  obtain ⟨c, cs, rfl, hc⟩ := h
  exact ⟨c, cs ++ rest, rfl, hc⟩

/-- In front of a delimiter inside a text that begins plainly stands a part that does so too. -/
lemma startsPlain_of_append {part rest : List Char} (h : StartsPlain (part ++ ';' :: rest)) :
    StartsPlain part := by
  obtain ⟨c, cs, htext, hspace, hblank, hspecial, hsemi⟩ := h
  cases part with
  | nil => exact absurd (List.cons.inj htext).1.symm hsemi
  | cons x part =>
    obtain ⟨rfl, -⟩ := List.cons.inj htext
    exact ⟨x, part, rfl, hspace, hblank, hspecial, hsemi⟩

/-- What stands in front of a visible character is kept when a text is stripped. -/
lemma length_strip_lt {part : List Char} (h : StartsPlain part) (rest : List Char) :
    (strip part).length < (strip (part ++ ';' :: rest)).length := by
  obtain ⟨c, cs, rfl, hspace, -, -⟩ := h
  have hkeep : (cs ++ ';' :: rest).rdropWhile isSpace
      = cs ++ ';' :: rest.rdropWhile isSpace := by
    induction rest using List.reverseRecOn with
    | nil => exact List.rdropWhile_concat_neg _ _ _ (by decide)
    | append_singleton xs x ih =>
      have hcat : cs ++ ';' :: (xs ++ [x]) = (cs ++ ';' :: xs) ++ [x] := by simp
      rw [hcat, List.rdropWhile_concat, List.rdropWhile_concat]
      split_ifs
      · exact ih
      · simp
  have hle : (cs.rdropWhile isSpace).length ≤ cs.length :=
    (List.rdropWhile_prefix isSpace cs).length_le
  rw [List.cons_append, strip_cons_of_not_isSpace hspace, strip_cons_of_not_isSpace hspace, hkeep]
  simp only [List.length_cons, List.length_append]
  omega

/-- The first part of a text is its first statement. -/
lemma statements_delimiter {part : List Char} (rest : List Char) (hplain : StartsPlain part)
    (hpart : Undivided d .start part) (hend : (scan d .start part).delimits d = true) :
    statements d (part ++ ';' :: rest) = strip part :: statements d rest := by
  have hparts : delimitedFrom d .start (part ++ ';' :: rest)
      = part :: delimitedFrom d .start rest := by
    rw [hpart.append, delimitedFrom, if_pos ⟨rfl, hend⟩]
    simp
  rw [statements, hparts, List.map_cons, List.filter_cons,
    if_pos (hasCode_of_startsPlain (startsPlain_strip hplain))]
  rfl

lemma statements_undivided {text : List Char} (hplain : StartsPlain text)
    (h : Undivided d .start text) : statements d text = [strip text] := by
  rw [statements, h, List.map_singleton, List.filter_cons,
    if_pos (hasCode_of_startsPlain (startsPlain_strip hplain))]
  rfl

/-- A semicolon that is no delimiter belongs to the first statement. -/
lemma statements_not_delimiter {part : List Char} (rest : List Char) (hplain : StartsPlain part)
    (hpart : Undivided d .start part) (hend : (scan d .start part).delimits d = false) :
    ∃ more others, statements d (part ++ ';' :: rest) = strip (part ++ ';' :: more) :: others := by
  have hparts : delimitedFrom d .start (part ++ ';' :: rest)
      = (delimitedFrom d (step d (scan d .start part) ';').2 rest).modifyHead
        fun p => part ++ ';' :: p := by
    rw [hpart.append, delimitedFrom, if_neg (by simp [hend]), List.modifyHead_modifyHead]
    rfl
  cases hrest : delimitedFrom d (step d (scan d .start part) ';').2 rest with
  | nil => exact absurd hrest (delimitedFrom_ne_nil d _ _)
  | cons more others =>
    refine ⟨more, (others.map strip).filter (hasCode d), ?_⟩
    rw [statements, hparts, hrest, List.modifyHead_cons, List.map_cons, List.filter_cons,
      if_pos (hasCode_of_startsPlain (startsPlain_strip (startsPlain_append hplain _)))]

end EcommerceAgent.Lib.Sql
