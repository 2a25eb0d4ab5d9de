/-
# One table in two formats

`_read_upload_rows` of `api/services/import_service.py` on a table that was saved as a CSV or TSV
file and on the same table as a worksheet.  The text file has lines of cells without characters of
the format, so that a reader only has to cut the lines at the delimiter, which it guesses from the
first line.
-/
import EcommerceAgent.Imports.UploadFile
import EcommerceAgent.Lib.Lines

open EcommerceAgent.Lib

namespace EcommerceAgent.Imports

/-- The delimiters between which the reader chooses. -/
inductive Delimiter
  | comma
  | tab
deriving DecidableEq, Repr

/-- The delimiter in a text. -/
def Delimiter.char : Delimiter → Char
  | .comma => ','
  | .tab => '\t'

/-- The characters that mean something in a delimited file. -/
def isSpecial (c : Char) : Bool := c == ',' || c == '\t' || c == '"' || c == '\r' || c == '\n'

/-- A rectangular table of texts with a header row. -/
structure TextTable where
  headers : List Str
  rows : List (List Str)
  nonempty : headers ≠ []
  width : ∀ row ∈ rows, row.length = headers.length
  plain : ∀ cells ∈ headers :: rows, ∀ cell ∈ cells, ∀ c ∈ cell, isSpecial c = false

/-- A text file, after decoding: its lines, and what ends each of them. -/
structure TextFile where
  lines : List Str
  lineEnd : Str

/-- The text of the file. -/
def TextFile.text (file : TextFile) : Str := file.lines.flatMap (· ++ file.lineEnd)

/-- `writerow` of a row of plain cells; a row with one empty cell is quoted. -/
def writeRow (delimiter : Delimiter) (cells : List Str) : Str :=
  if cells = [[]] then ['"', '"'] else [delimiter.char].intercalate cells

/-- A line of `csv.reader` without other quotes. -/
def readRecord (delimiter : Delimiter) (line : Str) : List Str :=
  if line = [] then [] else if line = ['"', '"'] then [[]] else line.splitOn delimiter.char

/-- The delimiter that the reader guesses from the first line of its sample; `none` is the
`IndexError` of a sample without lines. -/
def guessDelimiter (sample : Str) : Option Delimiter :=
  (Lines.splitlines sample).head?.map fun first =>
    if '\t' ∈ first ∧ ',' ∉ first then .tab else .comma

/-- The part of `_read_upload_rows` for text files. -/
def readTextRows (file : TextFile) (limit : Option ℕ) : Option (List UploadRow) :=
  (guessDelimiter (file.text.take 4096)).map fun delimiter =>
    match file.lines.map (readRecord delimiter) with
    | [] => []
    | fieldnames :: records =>
      (UploadFile.csv fieldnames (records.filter (· ≠ []))).readUploadRows limit

namespace TextTable

variable (t : TextTable)

/-- The table as a text file with line feeds, or with carriage returns before them. -/
def textFile (delimiter : Delimiter) (crlf : Bool) : TextFile where
  lines := (t.headers :: t.rows).map (writeRow delimiter)
  lineEnd := if crlf then ['\r', '\n'] else ['\n']

/-- The cell of a worksheet for a text. -/
def sheetCell (cell : Str) : Option Str := if cell = [] then none else some cell

/-- The table as a worksheet. -/
def sheet : Worksheet where
  headers := t.headers.map sheetCell
  rows := t.rows.map fun row => row.map sheetCell
  width := by
    intro row hrow
    obtain ⟨cells, hcells, rfl⟩ := List.mem_map.mp hrow
    rw [List.length_map, List.length_map, t.width cells hcells]

/-- Both files are read as the same rows. -/
def ReadsSame (delimiter : Delimiter) (crlf : Bool) (limit : Option ℕ) : Prop :=
  readTextRows (t.textFile delimiter crlf) limit =
    some ((UploadFile.excel t.sheet).readUploadRows limit)

/-- The last cell of a row under a header. -/
def lastCell (row : List Str) (header : Str) : Option Str :=
  ((t.headers.zip row).reverse.find? fun entry => entry.1 = header).map Prod.snd

/-- The row has a value under some header. -/
def HasValue (row : List Str) : Prop :=
  ∃ header value, header ≠ [] ∧ t.lastCell row header = some value ∧ value ≠ []

/-- The headers are not padded, the rows that are read have values, and the tab between the first
two headers is in the sample. -/
structure Readable (delimiter : Delimiter) (crlf : Bool) (limit : Option ℕ) : Prop where
  trimmed : ∀ header ∈ t.headers, Text.strip header = header
  values : ∀ row ∈ upTo limit t.rows, t.HasValue row
  guessed : delimiter = .comma ∨ t.headers.length = 1 ∨
    guessDelimiter ((t.textFile delimiter crlf).text.take 4096) = some .tab

end TextTable

/-! ### Dictionaries -/

/-- The entry of a dictionary is the last one with its key. -/
lemma mem_dictValues_iff {pairs : List (Str × Str)} {entry : Str × Str} :
    entry ∈ dictValues Prod.fst pairs ↔
      pairs.reverse.find? (fun p => p.1 = entry.1) = some entry := by
  induction pairs using List.reverseRecOn with
  | nil => simp [dictValues]
  | append_singleton pairs p ih =>
    let S : Schema (Str × Str) Str := Schema.dict Prod.fst
    have hkeyed : S.Keyed (dictValues Prod.fst pairs) := (S.keyed_nil).upsertAll pairs
    have hstep : dictValues Prod.fst (pairs ++ [p]) = S.upsert p (dictValues Prod.fst pairs) := by
      rw [dictValues, Schema.upsertAll_append]
      rfl
    have hupdate : ∀ old : Str × Str, S.key old = S.key p → S.update old p = p :=
      fun old hold => if_pos hold.symm
    rw [hstep, List.reverse_append, List.reverse_singleton, List.singleton_append,
      List.find?_cons]
    by_cases hkey : p.1 = entry.1
    · have hnew : p ∈ S.upsert p (dictValues Prod.fst pairs) := by
        by_cases hmem : S.key p ∈ (dictValues Prod.fst pairs).map S.key
        · obtain ⟨old, hold, hsame⟩ := List.mem_map.mp hmem
          have := Schema.update_mem_upsert hkeyed hold hsame
          rwa [hupdate old hsame] at this
        · rw [Schema.upsert_of_notMem hmem]
          exact List.mem_append_right _ (List.mem_singleton_self p)
      simp only [hkey, decide_true, Option.some.injEq]
      constructor
      · exact fun hentry => (hkeyed.upsert p).eq_of_key hnew hentry hkey
      · rintro rfl
        exact hnew
    · simp only [hkey, decide_false]
      rw [← ih]
      constructor
      · intro hentry
        rcases Schema.mem_upsert_cases hentry with hold | rfl | ⟨old, -, hsame, rfl⟩
        · exact hold
        · exact absurd rfl hkey
        · exact absurd (congrArg Prod.fst (hupdate old hsame).symm) hkey
      · exact fun hold => Schema.mem_upsert_of_ne hold fun h => hkey h.symm

/-! ### One table as a dictionary for each row -/

namespace TextTable

variable {t : TextTable}

/-- A row has a value exactly when its dictionary has one. -/
lemma any_dictOf_iff (row : List Str) :
    (dictOf (t.headers.zip row)).any (·.2 ≠ []) ↔ t.HasValue row := by
  have hmem : ∀ header value : Str, header ≠ [] →
      ((header, value) ∈ dictOf (t.headers.zip row) ↔ t.lastCell row header = some value) := by
    intro header value hheader
    rw [dictOf, mem_dictValues_iff, ← List.filter_reverse, List.find?_filter, lastCell]
    have hsame : (fun p : Str × Str =>
        decide (decide (p.1 ≠ []) = true ∧ decide (p.1 = (header, value).1) = true)) =
        fun p => decide (p.1 = header) := by
      funext p
      by_cases hp : p.1 = header
      · simp [hp, hheader]
      · simp [hp]
    rw [hsame]
    constructor
    · intro hfind
      rw [hfind]
      rfl
    · intro hvalue
      obtain ⟨entry, hentry, rfl⟩ := Option.map_eq_some_iff.mp hvalue
      have hkey : entry.1 = header := by simpa using List.find?_some hentry
      rw [hentry, ← hkey]
  rw [List.any_eq_true]
  constructor
  · rintro ⟨⟨header, value⟩, hentry, hvalue⟩
    have hheader := (mem_dictOf hentry).2
    exact ⟨header, value, hheader, (hmem header value hheader).mp hentry,
      of_decide_eq_true hvalue⟩
  · rintro ⟨header, value, hheader, hlast, hvalue⟩
    exact ⟨(header, value), (hmem header value hheader).mpr hlast, decide_eq_true hvalue⟩

lemma headers_sheet (t : TextTable) :
    (UploadFile.excel t.sheet).headers = t.headers.map Text.strip := by
  rw [UploadFile.headers, sheet, List.map_map]
  refine List.map_congr_left fun header _ => ?_
  by_cases h : header = []
  · simp [sheetCell, h]
  · simp [sheetCell, h]

/-- The rows of the worksheet. -/
lemma readUploadRows_sheet (t : TextTable) (limit : Option ℕ) :
    (UploadFile.excel t.sheet).readUploadRows limit =
      ((upTo limit t.rows).map fun row => dictOf ((t.headers.map Text.strip).zip row)).filter
        fun item => item.any (·.2 ≠ []) := by
  have hrow : ∀ row : List Str, (row.map sheetCell).map (·.getD []) = row := by
    intro row
    rw [List.map_map]
    conv_rhs => rw [← List.map_id row]
    refine List.map_congr_left fun cell _ => ?_
    by_cases h : cell = []
    · simp [sheetCell, h]
    · simp [sheetCell, h]
  have hupTo : upTo limit t.sheet.rows = (upTo limit t.rows).map fun row => row.map sheetCell := by
    cases limit with
    | none => rfl
    | some n => exact (List.map_take).symm
  rw [UploadFile.readUploadRows, hupTo, List.map_map, headers_sheet]
  congr 1
  refine List.map_congr_left fun row _ => ?_
  rw [Function.comp_apply, excelRow, hrow]

/-- The rows of a text file whose delimiter is known. -/
lemma readUploadRows_csv (t : TextTable) (limit : Option ℕ) :
    (UploadFile.csv t.headers t.rows).readUploadRows limit =
      (upTo limit t.rows).map fun row => dictOf (t.headers.zip row) := by
  rw [UploadFile.readUploadRows]
  refine List.map_congr_left fun row hrow => ?_
  have hwidth := t.width row ((upTo_isPrefix limit t.rows).subset hrow)
  rw [csvRow, hwidth, Nat.sub_self, List.replicate_zero, List.append_nil]

/-- With the right delimiter the formats agree exactly when no row is read, or the headers are not
padded and every row that is read has a value. -/
lemma readUploadRows_eq_iff (t : TextTable) (limit : Option ℕ) :
    (UploadFile.csv t.headers t.rows).readUploadRows limit =
        (UploadFile.excel t.sheet).readUploadRows limit ↔
      upTo limit t.rows = [] ∨ (∀ header ∈ t.headers, Text.strip header = header) ∧
        ∀ row ∈ upTo limit t.rows, t.HasValue row := by
  rw [readUploadRows_csv, readUploadRows_sheet]
  constructor
  · intro heq
    by_cases hnone : upTo limit t.rows = []
    · exact .inl hnone
    · obtain ⟨first, hfirst⟩ := List.exists_mem_of_ne_nil _ hnone
      -- no row of the worksheet was dropped
      have hlength := congrArg List.length heq
      rw [List.length_map] at hlength
      have hall : ∀ item ∈ (upTo limit t.rows).map fun row =>
          dictOf ((t.headers.map Text.strip).zip row), item.any (·.2 ≠ []) = true := by
        refine List.length_filter_eq_length_iff.mp ?_
        rw [← hlength, List.length_map]
      rw [List.filter_eq_self.mpr hall] at heq
      have hrows : ∀ row ∈ upTo limit t.rows, dictOf (t.headers.zip row) =
          dictOf ((t.headers.map Text.strip).zip row) := List.map_inj_left.mp heq
      have htrimmed : ∀ header ∈ t.headers, Text.strip header = header := by
        intro header hheader
        by_cases hnil : header = []
        · rw [hnil]
          rfl
        have hwidth := t.width first ((upTo_isPrefix limit t.rows).subset hfirst)
        have hzip : header ∈ (t.headers.zip first).map Prod.fst := by
          rw [List.map_fst_zip hwidth.ge]
          exact hheader
        obtain ⟨pair, hpair, hpair1⟩ := List.mem_map.mp hzip
        have hkept : pair ∈ (t.headers.zip first).filter (·.1 ≠ []) :=
          List.mem_filter.mpr ⟨hpair, decide_eq_true (hpair1 ▸ hnil : pair.1 ≠ [])⟩
        obtain ⟨entry, hentry, hkey⟩ := exists_mem_dictValues Prod.fst hkept
        have hmem : entry ∈ dictOf (t.headers.zip first) := hentry
        rw [hrows first hfirst] at hmem
        obtain ⟨hstripped, -⟩ := mem_dictOf hmem
        obtain ⟨padded, -, hpadded⟩ := List.mem_map.mp (List.of_mem_zip hstripped).1
        have hheader : header = Text.strip padded :=
          hpair1.symm.trans (hkey.symm.trans hpadded.symm)
        rw [hheader, Text.strip_strip]
      have hid : t.headers.map Text.strip = t.headers := by
        conv_rhs => rw [← List.map_id t.headers]
        exact List.map_congr_left htrimmed
      refine .inr ⟨htrimmed, fun row hrow => ?_⟩
      rw [← any_dictOf_iff, ← hid]
      exact hall _ (List.mem_map_of_mem hrow)
  · rintro (hnone | ⟨htrimmed, hvalues⟩)
    · rw [hnone]
      rfl
    · have hid : t.headers.map Text.strip = t.headers := by
        conv_rhs => rw [← List.map_id t.headers]
        exact List.map_congr_left htrimmed
      rw [hid, List.filter_eq_self.mpr]
      intro item hitem
      obtain ⟨row, hrow, rfl⟩ := List.mem_map.mp hitem
      exact (any_dictOf_iff row).mpr (hvalues row hrow)

/-! ### Lines of a text file -/

lemma isSpecial_char (delimiter : Delimiter) : isSpecial delimiter.char = true := by
  cases delimiter <;> rfl

/-- A line of at least two cells has the delimiter. -/
lemma char_mem_intercalate {sep : Char} {cells : List Str} (h : 2 ≤ cells.length) :
    sep ∈ [sep].intercalate cells := by
  match cells, h with
  | cell :: next :: rest, _ =>
    rw [List.intercalate_cons_cons]
    simp

section Record

variable {cells : List Str} (hplain : ∀ cell ∈ cells, ∀ c ∈ cell, isSpecial c = false)
include hplain

/-- A line without quotes is cut at the delimiter. -/
lemma readRecord_eq (delimiter other : Delimiter) (hcells : cells ≠ []) (hblank : cells ≠ [[]]) :
    readRecord other (writeRow delimiter cells) =
      ([delimiter.char].intercalate cells).splitOn other.char := by
  have hline : [delimiter.char].intercalate cells ≠ [] := by
    match cells, hcells, hblank with
    | [cell], _, hblank =>
      have hcell : cell ≠ [] := fun h => hblank (by rw [h])
      simpa using hcell
    | cell :: next :: rest, _, _ =>
      exact List.ne_nil_of_mem (char_mem_intercalate (by simp))
  have hquote : '"' ∉ [delimiter.char].intercalate cells := by
    intro hmem
    rcases Text.mem_intercalate hmem with ⟨hchar, -⟩ | ⟨cell, hcell, hc⟩
    · cases delimiter <;> cases hchar
    · exact absurd (hplain cell hcell _ hc) (by decide)
  rw [writeRow, if_neg hblank, readRecord, if_neg hline, if_neg]
  intro h
  exact hquote (by simp [h])

/-- A line is read as it was written. -/
lemma readRecord_writeRow (delimiter : Delimiter) (hcells : cells ≠ []) :
    readRecord delimiter (writeRow delimiter cells) = cells := by
  by_cases hblank : cells = [[]]
  · rw [hblank]
    rfl
  · rw [readRecord_eq hplain delimiter delimiter hcells hblank]
    refine List.splitOn_intercalate _ (fun cell hcell hmem => ?_) hcells
    have := hplain cell hcell _ hmem
    rw [isSpecial_char] at this
    cases this

/-- A single cell is read with either delimiter. -/
lemma readRecord_single (delimiter other : Delimiter) (hcells : cells.length = 1) :
    readRecord other (writeRow delimiter cells) = cells := by
  obtain ⟨cell, rfl⟩ := List.length_eq_one_iff.mp hcells
  have hsame : writeRow delimiter [cell] = writeRow other [cell] := by
    simp [writeRow]
  rw [hsame]
  exact readRecord_writeRow hplain other (List.cons_ne_nil _ _)

/-- A line of several cells is one field for the other delimiter. -/
lemma readRecord_other {delimiter other : Delimiter} (hother : other ≠ delimiter)
    (hcells : 2 ≤ cells.length) :
    readRecord other (writeRow delimiter cells) = [[delimiter.char].intercalate cells] := by
  have hblank : cells ≠ [[]] := by
    rintro rfl
    simp at hcells
  rw [readRecord_eq hplain delimiter other (List.ne_nil_of_length_pos (by omega)) hblank]
  refine List.splitOn_eq_singleton fun hmem => ?_
  rcases Text.mem_intercalate hmem with ⟨hchar, -⟩ | ⟨cell, hcell, hc⟩
  · cases delimiter <;> cases other <;> first | exact hother rfl | cases hchar
  · have := hplain cell hcell _ hc
    rw [isSpecial_char] at this
    cases this

end Record

/-! ### The guess -/

variable (t) (delimiter : Delimiter) (crlf : Bool)

/-- The sample has a first line. -/
lemma exists_guess :
    ∃ guess, guessDelimiter ((t.textFile delimiter crlf).text.take 4096) = some guess := by
  have hend : (t.textFile delimiter crlf).lineEnd ≠ [] := by
    rw [textFile]
    cases crlf <;> simp
  have htext : (t.textFile delimiter crlf).text.take 4096 ≠ [] := by
    rw [ne_eq, List.take_eq_nil_iff, not_or]
    refine ⟨by decide, fun hnil => hend ?_⟩
    have hline := List.flatMap_eq_nil_iff.mp hnil (writeRow delimiter t.headers) List.mem_cons_self
    exact (List.append_eq_nil_iff.mp hline).2
  have hlines := Lines.splitlines_ne_nil htext
  rw [guessDelimiter]
  cases hsplit : Lines.splitlines ((t.textFile delimiter crlf).text.take 4096) with
  | nil => exact absurd hsplit hlines
  | cons first rest => exact ⟨_, rfl⟩

/-- Without tabs in the text the guess is the comma. -/
lemma guess_comma {delimiter : Delimiter} {crlf : Bool}
    (htab : '\t' ∉ (t.textFile delimiter crlf).text) :
    guessDelimiter ((t.textFile delimiter crlf).text.take 4096) = some .comma := by
  obtain ⟨guess, hguess⟩ := t.exists_guess delimiter crlf
  rw [hguess]
  rw [guessDelimiter] at hguess
  obtain ⟨first, hfirst, rfl⟩ := Option.map_eq_some_iff.mp hguess
  have hnone : '\t' ∉ first := by
    intro hmem
    have hflat := List.mem_flatten.mpr ⟨first, List.mem_of_mem_head? hfirst, hmem⟩
    exact htab (List.take_subset _ _ ((Lines.flatten_splitlines _).subset hflat))
  rw [if_neg fun h => hnone h.1]

/-- Tabs only come from the delimiter. -/
lemma tab_notMem_text {delimiter : Delimiter} (crlf : Bool)
    (h : delimiter = .comma ∨ t.headers.length = 1) :
    '\t' ∉ (t.textFile delimiter crlf).text := by
  intro hmem
  obtain ⟨line, hline, hc⟩ := List.mem_flatMap.mp hmem
  obtain ⟨cells, hcells, rfl⟩ := List.mem_map.mp hline
  have hwidth : cells.length = t.headers.length := by
    rcases List.mem_cons.mp hcells with rfl | hrow
    · rfl
    · exact t.width cells hrow
  rcases List.mem_append.mp hc with hc | hc
  · rw [writeRow] at hc
    split at hc
    · simp at hc
    · rcases Text.mem_intercalate hc with ⟨hchar, hlength⟩ | ⟨cell, hcell, hc⟩
      · rcases h with rfl | hone
        · cases hchar
        · omega
      · exact absurd (t.plain cells hcells cell hcell _ hc) (by decide)
  · rw [textFile] at hc
    cases crlf <;> simp at hc

/-! ### Both formats -/

/-- The records of a text file whose lines are read as they were written. -/
lemma readTextRows_of_right {guess : Delimiter} (limit : Option ℕ)
    (hguess : guessDelimiter ((t.textFile delimiter crlf).text.take 4096) = some guess)
    (hright : guess = delimiter ∨ t.headers.length = 1) :
    readTextRows (t.textFile delimiter crlf) limit =
      some ((UploadFile.csv t.headers t.rows).readUploadRows limit) := by
  have hpos : 0 < t.headers.length := List.length_pos_iff.mpr t.nonempty
  have hread : ∀ cells ∈ t.headers :: t.rows,
      readRecord guess (writeRow delimiter cells) = cells := by
    intro cells hcells
    have hwidth : cells.length = t.headers.length := by
      rcases List.mem_cons.mp hcells with rfl | hrow
      · rfl
      · exact t.width cells hrow
    rcases hright with rfl | hone
    · exact readRecord_writeRow (t.plain cells hcells) guess
        (List.ne_nil_of_length_pos (by omega))
    · exact readRecord_single (t.plain cells hcells) delimiter guess (hwidth.trans hone)
  have hlines : (t.textFile delimiter crlf).lines.map (readRecord guess) = t.headers :: t.rows := by
    rw [textFile, List.map_map]
    conv_rhs => rw [← List.map_id (t.headers :: t.rows)]
    exact List.map_congr_left hread
  have hrows : t.rows.filter (· ≠ []) = t.rows := by
    refine List.filter_eq_self.mpr fun row hrow => decide_eq_true ?_
    exact List.ne_nil_of_length_pos (by rw [t.width row hrow]; exact hpos)
  rw [readTextRows, hguess, Option.map_some, hlines]
  simp only [hrows]

/-- With the wrong delimiter the formats agree only when no row is read. -/
lemma readsSame_of_wrong (limit : Option ℕ)
    (hguess : guessDelimiter ((t.textFile .tab crlf).text.take 4096) = some .comma)
    (hlength : 2 ≤ t.headers.length) :
    t.ReadsSame .tab crlf limit ↔ upTo limit t.rows = [] := by
  have hread : ∀ cells ∈ t.headers :: t.rows,
      readRecord .comma (writeRow .tab cells) = [['\t'].intercalate cells] := by
    intro cells hcells
    have hwidth : cells.length = t.headers.length := by
      rcases List.mem_cons.mp hcells with rfl | hrow
      · rfl
      · exact t.width cells hrow
    exact readRecord_other (t.plain cells hcells) (by decide) (by omega)
  have hlines : (t.textFile .tab crlf).lines.map (readRecord .comma) =
      [['\t'].intercalate t.headers] :: t.rows.map fun row => [['\t'].intercalate row] := by
    rw [textFile, List.map_map]
    exact List.map_congr_left hread
  have hrows : (t.rows.map fun row => [['\t'].intercalate row]).filter (· ≠ []) =
      t.rows.map fun row => [['\t'].intercalate row] := by
    refine List.filter_eq_self.mpr fun record hrecord => decide_eq_true ?_
    obtain ⟨row, -, rfl⟩ := List.mem_map.mp hrecord
    exact List.cons_ne_nil _ _
  have htext : readTextRows (t.textFile .tab crlf) limit =
      some ((upTo limit t.rows).map fun row =>
        csvRow [['\t'].intercalate t.headers] [['\t'].intercalate row]) := by
    rw [readTextRows, hguess, Option.map_some, hlines]
    simp only [hrows, UploadFile.readUploadRows]
    cases limit with
    | none => rw [upTo, List.map_map]; rfl
    | some n => rw [upTo, ← List.map_take, List.map_map]; rfl
  rw [ReadsSame, htext, Option.some_inj]
  constructor
  · intro heq
    by_contra hne
    obtain ⟨row, hrow⟩ := List.exists_mem_of_ne_nil _ hne
    have htab : '\t' ∈ ['\t'].intercalate t.headers := char_mem_intercalate hlength
    have hkey : ['\t'].intercalate t.headers ≠ [] := List.ne_nil_of_mem htab
    have hitem : csvRow [['\t'].intercalate t.headers] [['\t'].intercalate row] ∈
        (UploadFile.excel t.sheet).readUploadRows limit :=
      heq ▸ List.mem_map_of_mem hrow
    have hentry : (['\t'].intercalate t.headers, ['\t'].intercalate row) ∈
        csvRow [['\t'].intercalate t.headers] [['\t'].intercalate row] := by
      simp [csvRow, dictOf, dictValues, Schema.upsertAll, Schema.upsert, hkey]
    -- the headers of the worksheet have no tab
    have hcolumn := (List.mem_filter.mp (mem_columns_of_mem hitem hentry)).1
    rw [headers_sheet] at hcolumn
    obtain ⟨header, hheader, hstrip⟩ := List.mem_map.mp hcolumn
    have hmem : '\t' ∈ header := (Text.strip_sublist header).subset (hstrip ▸ htab)
    exact absurd (t.plain t.headers List.mem_cons_self header hheader _ hmem) (by decide)
  · intro hnone
    rw [hnone, readUploadRows_sheet, hnone]
    rfl

/-- The two formats are read the same if and only if no row is read, or the headers are not padded,
the rows that are read have values and the delimiter is seen in the sample. -/
theorem readsSame_iff (t : TextTable) (delimiter : Delimiter) (crlf : Bool) (limit : Option ℕ) :
    t.ReadsSame delimiter crlf limit ↔
      upTo limit t.rows = [] ∨ t.Readable delimiter crlf limit := by
  have hpos : 0 < t.headers.length := List.length_pos_iff.mpr t.nonempty
  obtain ⟨guess, hguess⟩ := t.exists_guess delimiter crlf
  by_cases hright : guess = delimiter ∨ t.headers.length = 1
  · have hguessed : delimiter = .comma ∨ t.headers.length = 1 ∨
        guessDelimiter ((t.textFile delimiter crlf).text.take 4096) = some .tab := by
      rcases hright with rfl | hone
      · cases guess with
        | comma => exact .inl rfl
        | tab => exact .inr (.inr hguess)
      · exact .inr (.inl hone)
    rw [ReadsSame, t.readTextRows_of_right delimiter crlf limit hguess hright, Option.some_inj,
      readUploadRows_eq_iff]
    exact or_congr_right
      ⟨fun h => ⟨h.1, h.2, hguessed⟩, fun h => ⟨h.trimmed, h.values⟩⟩
  · rw [not_or] at hright
    have hdelimiter : delimiter = .tab := by
      cases delimiter with
      | tab => rfl
      | comma =>
        have hcomma := t.guess_comma (t.tab_notMem_text crlf (.inl rfl))
        exact absurd (Option.some.inj (hguess.symm.trans hcomma)) hright.1
    subst hdelimiter
    have hcomma : guess = .comma := by
      cases guess with
      | comma => rfl
      | tab => exact absurd rfl hright.1
    subst hcomma
    rw [t.readsSame_of_wrong crlf limit hguess (by omega)]
    constructor
    · exact .inl
    · rintro (hnone | hreadable)
      · exact hnone
      · rcases hreadable.guessed with hcomma | hone | htab
        · cases hcomma
        · exact absurd hone hright.2
        · rw [hguess] at htab
          cases htab

/-! ### A padded header and a blank row -/

/-- A table with a padded header. -/
def padded : TextTable where
  headers := [['a', ' '], ['b']]
  rows := [[['x'], ['y']]]
  nonempty := by simp
  width := by simp
  plain := by simp [isSpecial]

/-- A table with a blank row. -/
def blankRow : TextTable where
  headers := [['a'], ['b']]
  rows := [[[], []], [['x'], ['y']]]
  nonempty := by simp
  width := by simp
  plain := by simp [isSpecial]

/-- The worksheet of the one has other keys than the text file, that of the other fewer rows. -/
theorem not_readsSame_padded :
    ¬ padded.ReadsSame .comma true none ∧ ¬ blankRow.ReadsSame .comma true none := by
  constructor
  · intro h
    have htext : readTextRows (padded.textFile .comma true) none ≠
        some ((UploadFile.excel padded.sheet).readUploadRows none) := by
      decide +kernel
    exact htext h
  · intro h
    have htext : readTextRows (blankRow.textFile .comma true) none ≠
        some ((UploadFile.excel blankRow.sheet).readUploadRows none) := by
      decide +kernel
    exact htext h

end TextTable

end EcommerceAgent.Imports
