/-
# Result sets as texts

`execute_read_sql_raw` writes a result set as lines of cells with commas between them and quotes
nothing; `_csv_rows` of `agent/tools/toolbox/business_tools.py` and the product summary of
`agent/tools/database_workflow_tool.py` read such texts with `csv.DictReader`, behind a sentence if
the query had to be repeated.  A result set survives exactly if its texts need no quoting and are
not taken for numbers, nothing is `NULL`, and no line is dropped (`survives_iff`).
-/
import EcommerceAgent.Lib.CsvPlain
import EcommerceAgent.Lib.Lines
import EcommerceAgent.Lib.Hundredths
import EcommerceAgent.Database.Sql
import Mathlib

open EcommerceAgent.Lib EcommerceAgent.Lib.Csv

namespace EcommerceAgent.Database.ResultText

variable {F : Type} [PyRuntime F]

/-! ### Result sets -/

variable (F) in
/-- The numbers that the connector returns, with `str` and `==`. -/
structure Numerals where
  Num : Type
  str : Num → String
  equals : Num → PyValue F → Prop
  str_ne : ∀ x, str x ≠ ""
  str_char : ∀ x, ∀ c ∈ (str x).toList, c.isAlphanum ∨ c = '.' ∨ c = '+' ∨ c = '-'
  str_length : ∀ x, (str x).length ≤ fieldLimit

/-- A cell of a result set; a date or time is the text that `str` makes of it. -/
inductive Cell (N : Numerals F)
  | null
  | number (x : N.Num)
  | text (s : String)

/-- What a query returned. -/
structure ResultSet (N : Numerals F) where
  columns : List String
  rows : List (List (Cell N))
  nonempty : columns ≠ []
  distinct : columns.Nodup
  width : ∀ row ∈ rows, row.length = columns.length

variable {N : Numerals F}

/-- `str` of a cell. -/
def Cell.str : Cell N → String
  | .null => "None"
  | .number x => N.str x
  | .text s => s

/-- The text that `execute_read_sql_raw` returns. -/
def ResultSet.encode (R : ResultSet N) : String :=
  resultText "" (some (R.columns, R.rows.map fun row => row.map Cell.str))

/-! ### The decoders -/

/-- `zip(fieldnames, record)` of a `DictReader`; what is missing is `None`. -/
def padded : List String → List String → List (String × PyValue F)
  | [], _ => []
  | k :: ks, [] => (k, .none) :: padded ks []
  | k :: ks, x :: xs => (k, .str x) :: padded ks xs

/-- What a record has too much stands under the key `None`. -/
def surplus (fieldnames record : List String) : List (PyKey F × PyValue F) :=
  match record.drop fieldnames.length with
  | [] => []
  | x :: xs => [(.none, .list ((x :: xs).map .str))]

/-- A row of a `DictReader`. -/
def dictRow (fieldnames record : List String) : List (PyKey F × PyValue F) :=
  PyValue.insertAll [] (PyValue.entriesOf (padded fieldnames record)) ++ surplus fieldnames record

variable (F) in
/-- `list(csv.DictReader(io.StringIO(text)))`. -/
def dictRecords (text : String) : Except String (List (List (PyKey F × PyValue F))) :=
  match reader text with
  | .error e => .error e
  | .ok [] => .ok []
  | .ok (fieldnames :: rest) => .ok ((rest.filter (· ≠ [])).map (dictRow fieldnames))

/-- `_coerce`. -/
def coerce : PyValue F → PyValue F
  | .str text =>
    if text.toList.contains '.' then
      match PyRuntime.ofText (F := F) text with
      | .ok x => .float x
      | .error _ => .str text
    else
      match PyRuntime.intOfText F text with
      | .ok n => .int n
      | .error _ => .str text
  | v => v

/-- `{key: _coerce(value) for key, value in row.items()}`. -/
def coerceRow (row : List (PyKey F × PyValue F)) : List (PyKey F × PyValue F) :=
  row.map fun e => (e.1, coerce e.2)

/-- The beginning of the sentence that `_csv_rows` drops. -/
def droppedSentence : String := "请求时间窗口内没有足够"

/-- `line.strip() and not line.startswith("请求时间窗口内没有足够")`. -/
def keepLine (line : List Char) : Bool :=
  line.any (fun c => !Text.isSpace c) && !droppedSentence.toList.isPrefixOf line

/-- The lines that `_csv_rows` keeps. -/
def keptLines (payload : String) : List (List Char) :=
  (Lines.splitlines payload.toList).filter keepLine

variable (F) in
/-- `_csv_rows`. -/
def csvRows (payload : String) : Except String (List (List (PyKey F × PyValue F))) :=
  let lines := keptLines payload
  if lines = [] then .ok []
  else (dictRecords F (String.ofList (joinLines lines))).map (·.map coerceRow)

/-- The readers of result texts. -/
inductive Decoder
  | csvRows | summary
deriving DecidableEq, Repr

variable (F) in
/-- `_csv_rows`, or the rows of `_summarize_top_products`. -/
def Decoder.decode : Decoder → String → Except String (List (List (PyKey F × PyValue F)))
  | .csvRows => ResultText.csvRows F
  | .summary => dictRecords F

/-- The sentences in front of the result of a second query, of `query_hot_products` and of
`analyze_top_products`. -/
inductive Sentence
  | hotProducts | topProducts
deriving DecidableEq, Repr

/-- The line. -/
def Sentence.line : Sentence → String
  | .hotProducts => "请求时间窗口内没有足够订单明细，已自动扩大到最近 365 天业务数据。"
  | .topProducts => "最近窗口内没有足够订单明细，已自动回退到全量历史数据。"

/-- What stands in front of a result. -/
def front : Option Sentence → String
  | none => ""
  | some s => s.line ++ "\n"

/-! ### Survival -/

/-- The value stands for the cell.  Without `_coerce` a number is read as its text. -/
def Reads (d : Decoder) : Cell N → PyValue F → Prop
  | .null, v => v = .none
  | .number x, v =>
    match d with
    | .csvRows => N.equals x v
    | .summary => v = .str (N.str x)
  | .text s, v => v = .str s

/-- The record has the columns of the result set and stands for the row. -/
def ReadsRow (d : Decoder) (columns : List String) (row : List (Cell N))
    (record : List (PyKey F × PyValue F)) : Prop :=
  record.map Prod.fst = columns.map .str ∧ List.Forall₂ (Reads d) row (record.map Prod.snd)

/-- The result set survives. -/
def Survives (d : Decoder) (s : Option Sentence) (R : ResultSet N) : Prop :=
  ∃ records, d.decode F (front s ++ R.encode) = .ok records ∧
    List.Forall₂ (ReadsRow d R.columns) R.rows records

/-- A text that is read as it is. -/
def PlainText (d : Decoder) (s : String) : Prop :=
  PlainField s.toList ∧ (d = .csvRows → ∀ c ∈ s.toList, Lines.isBreak c = false)

/-- A cell that is read as it is. -/
def PlainCell (d : Decoder) : Cell N → Prop
  | .null => False
  | .number x => d = .csvRows → N.equals x (coerce (.str (N.str x)))
  | .text s => PlainText d s ∧ (d = .csvRows → coerce (.str s : PyValue F) = .str s)

/-- The line is read as a record. -/
def Decoder.keeps : Decoder → List Char → Bool
  | .csvRows, line => keepLine line
  | .summary, line => line != []

/-- The line of some fields. -/
def lineOf (fields : List String) : List Char := joinFields (fields.map String.toList)

/-- A result set without anything that is lost. -/
structure PlainResult (d : Decoder) (R : ResultSet N) : Prop where
  columns : ∀ c ∈ R.columns, PlainText d c
  header : d.keeps (lineOf R.columns) = true
  rows : ∀ row ∈ R.rows, d.keeps (lineOf (row.map Cell.str)) = true
  cells : ∀ row ∈ R.rows, ∀ cell ∈ row, PlainCell d cell

/-- The reader drops the sentence. -/
def Dropped (d : Decoder) (s : Option Sentence) : Prop :=
  s = none ∨ d = .csvRows ∧ s = some .hotProducts

/-! ### Rows of a `DictReader` -/

/-- The entries that remain when texts are put as keys into a dictionary. -/
lemma insertAll_entriesOf {d : List (String × PyValue F)} (hd : (d.map Prod.fst).Nodup)
    (fields : List (String × PyValue F)) :
    ∃ merged, PyValue.insertAll (PyValue.entriesOf d) (PyValue.entriesOf fields) =
        PyValue.entriesOf merged ∧ (merged.map Prod.fst).Nodup ∧
      (∃ added, merged.map Prod.fst = d.map Prod.fst ++ added ∧
        added.Sublist (fields.map Prod.fst)) ∧
      (∀ e ∈ merged, ∃ e' ∈ d ++ fields, e'.2 = e.2) ∧
      ∀ w : PyValue F → ℕ, (merged.map (w ·.2)).sum ≤
        (d.map (w ·.2)).sum + (fields.map (w ·.2)).sum := by
  induction fields generalizing d with
  | nil =>
    refine ⟨d, rfl, hd, ⟨[], by simp, by simp⟩, fun e he => ⟨e, by simpa using he, rfl⟩,
      fun w => by simp⟩
  | cons field fields ih =>
    obtain ⟨k, v⟩ := field
    have hstep : PyValue.insertAll (PyValue.entriesOf d) (PyValue.entriesOf ((k, v) :: fields)) =
        PyValue.insertAll (PyValue.insert (PyValue.entriesOf d) (.str k) v)
          (PyValue.entriesOf fields) := rfl
    rw [hstep]
    by_cases hk : k ∈ d.map Prod.fst
    · -- the value of the key is replaced
      rw [PyValue.insert_entriesOf v hk]
      have hkeys : (d.map fun e => if e.1 = k then (e.1, v) else e).map Prod.fst =
          d.map Prod.fst := by
        rw [List.map_map]
        refine List.map_congr_left fun e _ => ?_
        simp only [Function.comp_apply]
        split_ifs <;> rfl
      have hweight : ∀ w : PyValue F → ℕ,
          ((d.map fun e => if e.1 = k then (e.1, v) else e).map (w ·.2)).sum ≤
            (d.map (w ·.2)).sum + w v := by
        intro w
        clear hstep ih hkeys
        induction d with
        | nil => simp
        | cons e d ih =>
          rw [List.map_cons, List.nodup_cons] at hd
          by_cases he : e.1 = k
          · have hrest : d.map (fun e => if e.1 = k then (e.1, v) else e) = d := by
              refine (List.map_congr_left fun e' he' => ?_).trans (List.map_id _)
              have hne : e'.1 ≠ k := fun h => hd.1 (he ▸ h ▸ List.mem_map_of_mem he')
              rw [if_neg hne, id]
            simp only [List.map_cons, List.sum_cons, if_pos he, hrest]
            omega
          · have hmem : k ∈ d.map Prod.fst := by
              simpa [Ne.symm he] using hk
            have := ih hd.2 hmem
            simp only [List.map_cons, List.sum_cons, if_neg he] at this ⊢
            omega
      obtain ⟨merged, hmerged, hnodup, ⟨added, hadded, hsub⟩, hvalues, hsum⟩ := ih (hkeys ▸ hd)
      refine ⟨merged, hmerged, hnodup, ⟨added, hkeys ▸ hadded, hsub.cons _⟩, fun e he => ?_,
        fun w => ?_⟩
      · obtain ⟨e', he', hvalue⟩ := hvalues e he
        rcases List.mem_append.1 he' with he' | he'
        · obtain ⟨e₀, he₀, rfl⟩ := List.mem_map.1 he'
          by_cases hkey : e₀.1 = k
          · rw [if_pos hkey] at hvalue
            exact ⟨(k, v), by simp, hvalue⟩
          · rw [if_neg hkey] at hvalue
            exact ⟨e₀, by simp [he₀], hvalue⟩
        · exact ⟨e', by simp [he'], hvalue⟩
      · have h₁ := hsum w
        have h₂ := hweight w
        simp only [List.map_cons, List.sum_cons]
        omega
    · -- the key is new
      have hfresh : PyValue.insert (PyValue.entriesOf d) (.str k) v =
          PyValue.entriesOf (d ++ [(k, v)]) := by
        rw [PyValue.insert, if_neg]
        · simp [PyValue.entriesOf]
        · rw [List.any_eq_true]
          rintro ⟨e, he, hsame⟩
          obtain ⟨e', he', rfl⟩ := List.mem_map.1 he
          exact hk (List.mem_map.2 ⟨e', he', by simpa using hsame⟩)
      have hnodup' : ((d ++ [(k, v)]).map Prod.fst).Nodup := by
        rw [List.map_append, List.nodup_append]
        refine ⟨hd, by simp, fun x hx y hy => ?_⟩
        obtain rfl : y = k := by simpa using hy
        rintro rfl
        exact hk hx
      rw [hfresh]
      obtain ⟨merged, hmerged, hnodup, ⟨added, hadded, hsub⟩, hvalues, hsum⟩ := ih hnodup'
      refine ⟨merged, hmerged, hnodup, ⟨k :: added, by simp [hadded], hsub.cons_cons k⟩,
        fun e he => ?_, fun w => ?_⟩
      · obtain ⟨e', he', hvalue⟩ := hvalues e he
        exact ⟨e', by simpa [List.append_assoc] using he', hvalue⟩
      · have h₁ := hsum w
        simp only [List.map_append, List.sum_append, List.map_cons, List.sum_cons, List.map_nil,
          List.sum_nil] at h₁ ⊢
        omega

omit [PyRuntime F] in
lemma map_fst_padded (names record : List String) :
    (padded names record : List (String × PyValue F)).map Prod.fst = names := by
  induction names generalizing record with
  | nil => rfl
  | cons k ks ih =>
    cases record with
    | nil => rw [padded, List.map_cons, ih]
    | cons x xs => rw [padded, List.map_cons, ih]

/-- The double quotes in a value of a row. -/
def valueQuotes : PyValue F → ℕ
  | .str s => quotes s.toList
  | _ => 0

omit [PyRuntime F] in
lemma valueQuotes_padded (names record : List String) :
    ((padded names record : List (String × PyValue F)).map (valueQuotes ·.2)).sum ≤
      recordQuotes record := by
  induction names generalizing record with
  | nil => exact Nat.zero_le _
  | cons k ks ih =>
    cases record with
    | nil =>
      have := ih []
      simpa [padded, valueQuotes] using this
    | cons x xs =>
      have := ih xs
      simp only [padded, List.map_cons, List.sum_cons, valueQuotes, recordQuotes] at this ⊢
      omega

omit [PyRuntime F] in
lemma mem_padded {names record : List String} {e : String × PyValue F}
    (he : e ∈ padded names record) {s : String} (hs : e.2 = .str s) : s ∈ record := by
  induction names generalizing record with
  | nil => cases he
  | cons k ks ih =>
    cases record with
    | nil =>
      rcases List.mem_cons.1 he with rfl | he
      · cases hs
      · exact absurd (ih he) List.not_mem_nil
    | cons x xs =>
      rcases List.mem_cons.1 he with rfl | he
      · obtain rfl := PyValue.str.inj hs
        exact List.mem_cons_self
      · exact List.mem_cons_of_mem _ (ih he)

/-- What can be said of every row. -/
lemma dictRow_spec (names record : List String) : ∃ merged : List (String × PyValue F),
    dictRow names record = PyValue.entriesOf merged ++ surplus names record ∧
      (merged.map Prod.fst).Sublist names ∧
      (∀ e ∈ merged, ∀ s, e.2 = .str s → s ∈ record) ∧
      (merged.map (valueQuotes ·.2)).sum ≤ recordQuotes record := by
  obtain ⟨merged, hmerged, -, ⟨added, hadded, hsub⟩, hvalues, hsum⟩ :=
    insertAll_entriesOf (d := []) (by simp) (padded names record : List (String × PyValue F))
  rw [map_fst_padded] at hsub
  refine ⟨merged, congrArg (· ++ surplus names record) hmerged, ?_, fun e he s hs => ?_, ?_⟩
  · rw [hadded]
    exact hsub
  · obtain ⟨e', he', hvalue⟩ := hvalues e he
    exact mem_padded (by simpa using he') (hvalue.trans hs)
  · have := hsum valueQuotes
    have := valueQuotes_padded (F := F) names record
    simp at *
    omega

/-- A row with different names, and as many fields. -/
lemma dictRow_of_nodup {names record : List String} (hnodup : names.Nodup)
    (hlength : record.length = names.length) :
    (dictRow names record : List (PyKey F × PyValue F)) =
      PyValue.entriesOf (names.zip (record.map .str)) := by
  have hpadded : ∀ names record : List String, record.length = names.length →
      (padded names record : List (String × PyValue F)) = names.zip (record.map .str) := by
    intro names
    induction names with
    | nil => exact fun _ _ => rfl
    | cons k ks ih =>
      intro record h
      cases record with
      | nil => cases h
      | cons x xs => rw [padded, ih xs (by simpa using h), List.map_cons, List.zip_cons_cons]
  have hdrop : record.drop names.length = [] := List.drop_eq_nil_of_le hlength.le
  have hkeys : ((padded names record : List (String × PyValue F)).map Prod.fst).Nodup := by
    rwa [map_fst_padded]
  rw [dictRow, surplus, hdrop, List.append_nil, PyValue.insertAll_of_nodup, List.nil_append,
    hpadded names record hlength]
  exact PyValue.pairwise_record hkeys

/-! ### The text of a result set -/

/-- The fields of the lines of a text. -/
def fieldLists (s : Option Sentence) (R : ResultSet N) : List (List (List Char)) :=
  (s.toList.map fun s => [s.line.toList]) ++
    R.columns.map String.toList :: R.rows.map fun row => row.map fun cell => cell.str.toList

omit [PyRuntime F] in
/-- The lines of a result set. -/
lemma toList_encode {R : ResultSet N} (hrows : R.rows ≠ []) :
    R.encode.toList = joinLines ((fieldLists none R).map joinFields) := by
  obtain ⟨row, rows, hcons⟩ := List.exists_cons_of_ne_nil hrows
  have hencode : R.encode = String.intercalate "," R.columns ++ "\n" ++ String.intercalate "\n"
      ((R.rows.map fun row => row.map Cell.str).map (String.intercalate "," ·)) := rfl
  rw [hencode, hcons, fieldLists, hcons]
  simp only [String.toList_append, String.toList_intercalate, Option.toList_none, List.map_nil,
    List.nil_append, List.map_cons, List.map_map, joinLines, joinFields,
    List.intercalate_cons_cons, List.append_assoc, Function.comp_def]
  rfl

omit [PyRuntime F] in
lemma toList_text (s : Option Sentence) {R : ResultSet N} (hrows : R.rows ≠ []) :
    (front s ++ R.encode).toList = joinLines ((fieldLists s R).map joinFields) := by
  have hencode := toList_encode hrows
  cases s with
  | none => simpa [front] using hencode
  | some s =>
    have hlists : (fieldLists (some s) R).map joinFields =
        joinFields [s.line.toList] :: (fieldLists none R).map joinFields := by
      simp [fieldLists]
    obtain ⟨l, ls, hl⟩ := List.exists_cons_of_ne_nil
      (show (fieldLists none R).map joinFields ≠ [] by simp [fieldLists])
    have hjoin : joinFields [s.line.toList] = s.line.toList := by simp [joinFields]
    rw [hlists, String.toList_append, hencode, hl, joinLines, joinLines,
      List.intercalate_cons_cons, hjoin]
    simp [front]

lemma quotes_intercalate {c : Char} (hc : c ≠ '"') (ls : List (List Char)) :
    quotes ([c].intercalate ls) = (ls.map quotes).sum := by
  have hsep : quotes [c] = 0 := by simp [quotes, hc]
  induction ls with
  | nil => simp
  | cons l ls ih =>
    cases ls with
    | nil => simp
    | cons l' ls =>
      rw [List.intercalate_cons_cons, quotes_append, quotes_append, hsep, ih]
      simp

lemma quotes_eq_zero {s : List Char} (h : '"' ∉ s) : quotes s = 0 := List.count_eq_zero.2 h

omit [PyRuntime F] in
/-- Numbers are written with ordinary characters. -/
lemma numeral_char (x : N.Num) {c : Char} (hc : c ∈ (N.str x).toList) :
    c ≠ ',' ∧ c ≠ '"' ∧ Lines.isBreak c = false ∧ Text.isSpace c = false := by
  rcases N.str_char x c hc with h | rfl | rfl | rfl
  · have hnat : (48 ≤ c.toNat ∧ c.toNat ≤ 57) ∨ (65 ≤ c.toNat ∧ c.toNat ≤ 90) ∨
        (97 ≤ c.toNat ∧ c.toNat ≤ 122) := by
      rw [Char.isAlphanum, Bool.or_eq_true, Text.isAlpha_iff, Text.isUpper_iff,
        Text.isLower_iff] at h
      rcases h with (h | h) | h
      · exact .inr (.inl h)
      · exact .inr (.inr h)
      · refine .inl ?_
        simpa [Char.isDigit, UInt32.le_iff_toNat_le] using h
    refine ⟨?_, ?_, ?_, ?_⟩
    · rintro rfl
      exact absurd hnat (by decide)
    · rintro rfl
      exact absurd hnat (by decide)
    · simp [Lines.isBreak]
      omega
    · simp [Text.isSpace]
      omega
  all_goals decide

omit [PyRuntime F] in
lemma plainText_number (d : Decoder) (x : N.Num) : PlainText d (N.str x) := by
  have hchar := fun {c : Char} (hc : c ∈ (N.str x).toList) => numeral_char x hc
  refine ⟨⟨fun h => (hchar h).1 rfl, fun h => ?_, fun h => ?_, fun h => ?_, ?_⟩,
    fun _ c hc => (hchar hc).2.2.1⟩
  · exact absurd (hchar h).2.2.1 (by decide)
  · exact absurd (hchar h).2.2.1 (by decide)
  · exact (hchar (List.mem_of_head? h)).2.1 rfl
  · rw [String.length_toList]
    exact N.str_length x

lemma plainText_null (d : Decoder) : PlainText d "None" := by
  refine ⟨⟨by decide, by decide, by decide, by decide, ?_⟩, fun _ => by simp [Lines.isBreak]⟩
  simp [fieldLimit]

/-! ### What survives is plain -/

/-- `_coerce`, where the decoder applies it. -/
def Decoder.convert : Decoder → PyValue F → PyValue F
  | .csvRows => coerce
  | .summary => id

/-- A row with its values converted. -/
def Decoder.convertRow (d : Decoder) (row : List (PyKey F × PyValue F)) :
    List (PyKey F × PyValue F) :=
  row.map fun e => (e.1, d.convert e.2)

lemma coerce_eq_str {v : PyValue F} {s : String} (h : coerce v = .str s) : v = .str s := by
  cases v with
  | str t =>
    simp only [coerce] at h
    split_ifs at h
    · split at h
      · cases h
      · exact h
    · split at h
      · cases h
      · exact h
  | none | bool | int | float | list | dict => exact h

lemma Decoder.convert_eq_str {d : Decoder} {v : PyValue F} {s : String}
    (h : d.convert v = .str s) : v = .str s := by
  cases d with
  | csvRows => exact coerce_eq_str h
  | summary => exact h

lemma Decoder.valueQuotes_convert (d : Decoder) (v : PyValue F) :
    valueQuotes (d.convert v) ≤ valueQuotes v := by
  cases hv : d.convert v with
  | str s => rw [← d.convert_eq_str hv]
  | none | bool | int | float | list | dict => exact Nat.zero_le _

omit [PyRuntime F] in
/-- A value has all quotes of the cell for which it stands. -/
lemma quotes_le_of_reads {d : Decoder} {cell : Cell N} {v : PyValue F} (h : Reads d cell v) :
    quotes cell.str.toList ≤ valueQuotes v := by
  cases cell with
  | null =>
    have hzero : quotes "None".toList = 0 := by decide
    exact hzero ▸ Nat.zero_le _
  | number x =>
    have hzero : quotes (N.str x).toList = 0 :=
      quotes_eq_zero fun hc => (numeral_char x hc).2.1 rfl
    simp [Cell.str, hzero]
  | text s =>
    have hv : v = .str s := h
    rw [hv]
    exact le_rfl

/-- Each element on the left has a partner. -/
lemma exists_of_forall₂ {α β : Type*} {r : α → β → Prop} {l : List α} {l' : List β}
    (h : List.Forall₂ r l l') {a : α} (ha : a ∈ l) : ∃ b ∈ l', r a b := by
  induction h with
  | nil => cases ha
  | cons hab _ ih =>
    rcases List.mem_cons.1 ha with rfl | ha
    · exact ⟨_, List.mem_cons_self, hab⟩
    · obtain ⟨b, hb, hr⟩ := ih ha
      exact ⟨b, List.mem_cons_of_mem _ hb, hr⟩

/-- What a row has to do with the record from which it is read. -/
lemma readsRow_dictRow {d : Decoder} {columns : List String} {row : List (Cell N)}
    {names record : List String}
    (h : ReadsRow d columns row (d.convertRow (dictRow names record))) :
    columns.Sublist names ∧ (row.map fun cell => quotes cell.str.toList).sum ≤
        recordQuotes record ∧ ∀ s, Cell.text s ∈ row → s ∈ record := by
  obtain ⟨hkeys, hvalues⟩ := h
  obtain ⟨merged, hrow, hsub, hmem, hsum⟩ := dictRow_spec (F := F) names record
  have hsurplus : ∀ e ∈ surplus (F := F) names record, e.1 = .none ∧ ∃ l, e.2 = .list l := by
    intro e he
    unfold surplus at he
    split at he
    · cases he
    · obtain rfl := List.mem_singleton.1 he
      exact ⟨rfl, _, rfl⟩
  rw [hrow] at hkeys hvalues
  refine ⟨?_, ?_, fun s hs => ?_⟩
  · -- the surplus has no text as key
    have hfilter := congrArg (List.filterMap fun k : PyKey F =>
      match k with | .str s => some s | _ => none) hkeys
    have hnone : ((surplus names record : List (PyKey F × PyValue F)).filterMap fun e =>
        match e.1 with | .str s => some s | _ => none) = [] := by
      refine List.filterMap_eq_nil_iff.2 fun e he => ?_
      rw [(hsurplus e he).1]
    simp only [Decoder.convertRow, List.map_map, List.filterMap_map, Function.comp_def,
      List.filterMap_append, hnone, PyValue.entriesOf, List.append_nil] at hfilter
    rw [List.filterMap_some, List.filterMap_eq_map'] at hfilter
    exact hfilter ▸ hsub
  · have hle : ∀ (row : List (Cell N)) (values : List (PyValue F)),
        List.Forall₂ (Reads d) row values →
          (row.map fun cell => quotes cell.str.toList).sum ≤ (values.map valueQuotes).sum := by
      intro row values hreads
      induction hreads with
      | nil => exact le_rfl
      | cons hread _ ih =>
        have := quotes_le_of_reads hread
        simp only [List.map_cons, List.sum_cons]
        omega
    have hconvert : ∀ es : List (PyKey F × PyValue F),
        (((d.convertRow es).map Prod.snd).map valueQuotes).sum ≤
          (es.map (valueQuotes ·.2)).sum := by
      intro es
      induction es with
      | nil => exact le_rfl
      | cons e es ih =>
        have := d.valueQuotes_convert e.2
        simp only [Decoder.convertRow, List.map_cons, List.sum_cons] at ih ⊢
        omega
    have hzero : ((surplus names record : List (PyKey F × PyValue F)).map
        (valueQuotes ·.2)).sum = 0 := by
      refine List.sum_eq_zero fun n hn => ?_
      obtain ⟨e, he, rfl⟩ := List.mem_map.1 hn
      obtain ⟨-, l, hl⟩ := hsurplus e he
      rw [hl]
      rfl
    have h₁ := hle _ _ hvalues
    have h₂ := hconvert (PyValue.entriesOf merged ++ surplus names record)
    have h₃ : ((PyValue.entriesOf merged).map (valueQuotes ·.2)).sum =
        (merged.map (valueQuotes ·.2)).sum := by
      rw [PyValue.entriesOf, List.map_map]
      rfl
    rw [List.map_append, List.sum_append, hzero, h₃] at h₂
    omega
  · obtain ⟨v, hv, hread⟩ := exists_of_forall₂ hvalues hs
    obtain ⟨e, he, rfl⟩ := List.mem_map.1 hv
    obtain ⟨e₀, he₀, rfl⟩ := List.mem_map.1 he
    have htext : e₀.2 = .str s := d.convert_eq_str hread
    rcases List.mem_append.1 he₀ with he₀ | he₀
    · obtain ⟨field, hfield, rfl⟩ := List.mem_map.1 he₀
      exact hmem field hfield s htext
    · obtain ⟨-, l, hl⟩ := hsurplus e₀ he₀
      rw [hl] at htext
      cases htext

/-! ### What is read of plain texts -/

/-- The fields as texts. -/
def strings (fields : List (List Char)) : List String := fields.map String.ofList

/-- The rows of a `DictReader` over some lines. -/
def rowsOf : List (List (List Char)) → List (List (PyKey F × PyValue F))
  | [] => []
  | names :: rest => rest.map fun fields => dictRow (strings names) (strings fields)

lemma readAll_eq {rs : List (List (List Char))} (h : ∀ r ∈ rs, joinFields r ≠ []) :
    readAll rs = rs.map strings := by
  induction rs with
  | nil => rfl
  | cons r rs ih =>
    have hr := h r List.mem_cons_self
    have hback : readBack r = strings r := if_neg hr
    cases rs with
    | nil => simp [readAll, hr, hback]
    | cons r' rs =>
      have hrest := ih fun r hr => h r (List.mem_cons_of_mem _ hr)
      rw [readAll, hback, hrest]
      · rfl
      · simp

lemma dictRecords_join {rs : List (List (List Char))} (hne : ∀ r ∈ rs, joinFields r ≠ [])
    (hplain : ∀ r ∈ rs, ∀ f ∈ r, PlainField f) :
    dictRecords F (String.ofList (joinLines (rs.map joinFields))) = .ok (rowsOf rs) := by
  have hcons : ∀ r ∈ rs, r ≠ [] := by
    rintro r hr rfl
    exact hne [] hr rfl
  rw [dictRecords, reader_join hcons hplain, readAll_eq hne]
  cases rs with
  | nil => rfl
  | cons names rest =>
    have hfilter : (rest.map strings).filter (· ≠ []) = rest.map strings := by
      refine List.filter_eq_self.2 fun r hr => ?_
      obtain ⟨fields, hfields, rfl⟩ := List.mem_map.1 hr
      simpa [strings] using hcons fields (List.mem_cons_of_mem _ hfields)
    simp only [List.map_cons, rowsOf, hfilter, List.map_map]
    rfl

/-- The lines that the reader keeps. -/
def kept (d : Decoder) (s : Option Sentence) (R : ResultSet N) : List (List (List Char)) :=
  (fieldLists s R).filter fun fields => d.keeps (joinFields fields)

lemma plainText_sentence (d : Decoder) (s : Sentence) : PlainText d s.line := by
  cases s with
  | hotProducts =>
    refine ⟨⟨by decide, by decide, by decide, by decide, ?_⟩, fun _ => ?_⟩
    · simp [Sentence.line, fieldLimit]
    · simp [Sentence.line, Lines.isBreak]
  | topProducts =>
    refine ⟨⟨by decide, by decide, by decide, by decide, ?_⟩, fun _ => ?_⟩
    · simp [Sentence.line, fieldLimit]
    · simp [Sentence.line, Lines.isBreak]

/-- All fields of the text are read as they are. -/
structure PlainTexts (d : Decoder) (R : ResultSet N) : Prop where
  columns : ∀ c ∈ R.columns, PlainText d c
  cells : ∀ row ∈ R.rows, ∀ cell ∈ row, PlainText d cell.str

omit [PyRuntime F] in
lemma PlainTexts.fieldLists {d : Decoder} {R : ResultSet N} (h : PlainTexts d R)
    (s : Option Sentence) : ∀ r ∈ fieldLists s R, ∀ f ∈ r, PlainText d (String.ofList f) := by
  intro r hr f hf
  rcases List.mem_append.1 hr with hr | hr
  · obtain ⟨s, -, rfl⟩ := List.mem_map.1 hr
    obtain rfl := List.mem_singleton.1 hf
    simpa using plainText_sentence d s
  · rcases List.mem_cons.1 hr with rfl | hr
    · obtain ⟨c, hc, rfl⟩ := List.mem_map.1 hf
      simpa using h.columns c hc
    · obtain ⟨row, hrow, rfl⟩ := List.mem_map.1 hr
      obtain ⟨cell, hcell, rfl⟩ := List.mem_map.1 hf
      simpa using h.cells row hrow cell hcell

/-- A line with a comma is not empty. -/
lemma joinFields_ne_nil {fields : List (List Char)} (h : 2 ≤ fields.length) :
    joinFields fields ≠ [] := by
  match fields, h with
  | f :: g :: fs, _ =>
    rw [joinFields, List.intercalate_cons_cons]
    simp

omit [PyRuntime F] in
/-- No line of the text is empty. -/
lemma fieldLists_ne_nil {R : ResultSet N} (hcolumns : 2 ≤ R.columns.length)
    (s : Option Sentence) : ∀ r ∈ fieldLists s R, joinFields r ≠ [] := by
  intro r hr
  rcases List.mem_append.1 hr with hr | hr
  · obtain ⟨s, -, rfl⟩ := List.mem_map.1 hr
    cases s <;> decide
  · rcases List.mem_cons.1 hr with rfl | hr
    · exact joinFields_ne_nil (by simpa using hcolumns)
    · obtain ⟨row, hrow, rfl⟩ := List.mem_map.1 hr
      exact joinFields_ne_nil (by simpa [R.width row hrow] using hcolumns)

/-- What is read of a text of plain fields. -/
lemma decode_eq {d : Decoder} {R : ResultSet N} (h : PlainTexts d R)
    (hcolumns : 2 ≤ R.columns.length) (hrows : R.rows ≠ []) (s : Option Sentence) :
    d.decode F (front s ++ R.encode) = .ok ((rowsOf (kept d s R)).map d.convertRow) := by
  have hfields := h.fieldLists s
  have hplain : ∀ r ∈ kept d s R, ∀ f ∈ r, PlainField f := fun r hr f hf => by
    simpa using (hfields r (List.mem_of_mem_filter hr) f hf).1
  have hne : ∀ r ∈ kept d s R, joinFields r ≠ [] := fun r hr =>
    fieldLists_ne_nil hcolumns s r (List.mem_of_mem_filter hr)
  cases d with
  | summary =>
    have hkept : kept .summary s R = fieldLists s R :=
      List.filter_eq_self.2 fun r hr => by
        simpa [Decoder.keeps] using fieldLists_ne_nil hcolumns s r hr
    have htext : front s ++ R.encode =
        String.ofList (joinLines ((kept .summary s R).map joinFields)) := by
      rw [hkept, ← toList_text s hrows, String.ofList_toList]
    rw [Decoder.decode, htext, dictRecords_join hne hplain]
    have hconvert : (Decoder.summary.convertRow : List (PyKey F × PyValue F) → _) = id := by
      funext row
      simp [Decoder.convertRow, Decoder.convert]
    rw [hconvert, List.map_id]
  | csvRows =>
    have hlines : keptLines (front s ++ R.encode) = (kept .csvRows s R).map joinFields := by
      rw [keptLines, toList_text s hrows, joinLines,
        Lines.filter_splitlines (by decide), List.filter_map]
      · rfl
      · intro l hl c hc
        obtain ⟨r, hr, rfl⟩ := List.mem_map.1 hl
        rcases Text.mem_intercalate hc with ⟨rfl, -⟩ | ⟨f, hf, hc⟩
        · decide
        · exact (hfields r hr f hf).2 rfl c (by simpa using hc)
    rw [Decoder.decode, csvRows, hlines, dictRecords_join hne hplain]
    split_ifs with hnil
    · have hempty : kept .csvRows s R = [] := by simpa using hnil
      rw [hempty]
      rfl
    · rfl

/-! ### The exact condition -/

/-- A row whose columns and texts are plain, read back. -/
lemma readsRow_iff {d : Decoder} {R : ResultSet N} {row : List (Cell N)} (hrow : row ∈ R.rows) :
    ReadsRow d R.columns row (d.convertRow (dictRow (F := F) R.columns (row.map Cell.str))) ↔
      ∀ cell ∈ row, Reads d cell (d.convert (.str cell.str)) := by
  have hlength : (row.map Cell.str).length = R.columns.length := by
    rw [List.length_map, R.width row hrow]
  have hdict : (dictRow R.columns (row.map Cell.str) : List (PyKey F × PyValue F)) = _ :=
    dictRow_of_nodup R.distinct hlength
  have hkeys : (d.convertRow (dictRow (F := F) R.columns (row.map Cell.str))).map Prod.fst =
      R.columns.map .str := by
    rw [hdict, Decoder.convertRow, PyValue.entriesOf, List.map_map, List.map_map]
    calc ((R.columns.zip ((row.map Cell.str).map PyValue.str)).map fun e => (.str e.1 : PyKey F))
      _ = ((R.columns.zip ((row.map Cell.str).map PyValue.str)).map Prod.fst).map .str :=
        (List.map_map ..).symm
      _ = R.columns.map .str := by
        rw [List.map_fst_zip]
        simpa using hlength.ge
  have hvalues : (d.convertRow (dictRow (F := F) R.columns (row.map Cell.str))).map Prod.snd =
      row.map fun cell => d.convert (.str cell.str) := by
    rw [hdict, Decoder.convertRow, PyValue.entriesOf, List.map_map, List.map_map]
    calc ((R.columns.zip ((row.map Cell.str).map PyValue.str)).map fun e => d.convert e.2)
      _ = ((R.columns.zip ((row.map Cell.str).map PyValue.str)).map Prod.snd).map d.convert :=
        (List.map_map ..).symm
      _ = row.map fun cell => d.convert (.str cell.str) := by
        rw [List.map_snd_zip, List.map_map, List.map_map]
        · rfl
        · simpa using hlength.le
  rw [ReadsRow, hvalues, List.forall₂_map_right_iff, List.forall₂_same]
  exact and_iff_right hkeys

/-- What is read of a plain text, compared with its cell. -/
lemma reads_iff {d : Decoder} {cell : Cell N} (h : PlainText d cell.str) :
    Reads d cell (d.convert (.str cell.str)) ↔ PlainCell d cell := by
  cases cell with
  | null =>
    refine iff_of_false (fun hread => ?_) id
    have hnone : d.convert (.str "None" : PyValue F) = .none := hread
    cases d with
    | summary => cases hnone
    | csvRows =>
      simp only [Decoder.convert, coerce] at hnone
      split_ifs at hnone <;> split at hnone <;> cases hnone
  | number x =>
    cases d with
    | summary => exact iff_of_true rfl (nomatch ·)
    | csvRows => exact ⟨fun hread _ => hread, fun hplain => hplain rfl⟩
  | text s =>
    cases d with
    | summary => exact iff_of_true rfl ⟨h, (nomatch ·)⟩
    | csvRows => exact ⟨fun hread => ⟨h, fun _ => hread⟩, fun hplain => hplain.2 rfl⟩

/-- The text that the reader gets. -/
def Decoder.body : Decoder → String → String
  | .csvRows, payload => String.ofList (joinLines (keptLines payload))
  | .summary, payload => payload

/-- Rows that are read come from records. -/
lemma reader_of_decode {d : Decoder} {payload : String}
    {records : List (List (PyKey F × PyValue F))} (h : d.decode F payload = .ok records)
    (hne : records ≠ []) : ∃ names rest, reader (d.body payload) = .ok (names :: rest) ∧
      records = ((rest.filter (· ≠ [])).map (dictRow names)).map d.convertRow := by
  have hrecords : ∀ {text : String} {rows : List (List (PyKey F × PyValue F))},
      dictRecords F text = .ok rows → rows ≠ [] → ∃ names rest,
        reader text = .ok (names :: rest) ∧ rows = (rest.filter (· ≠ [])).map (dictRow names) := by
    intro text rows hrows hne
    unfold dictRecords at hrows
    split at hrows
    · cases hrows
    · exact absurd (Except.ok.inj hrows).symm hne
    · rename_i names rest hreader
      exact ⟨names, rest, hreader, (Except.ok.inj hrows).symm⟩
  cases d with
  | summary =>
    obtain ⟨names, rest, hreader, hrows⟩ := hrecords h hne
    refine ⟨names, rest, hreader, hrows.trans ?_⟩
    exact (List.map_id _).symm.trans (List.map_congr_left fun row _ => (List.map_id row).symm)
  | csvRows =>
    simp only [Decoder.decode, csvRows] at h
    split_ifs at h with hlines
    · exact absurd (Except.ok.inj h).symm hne
    · cases hdict : dictRecords F (String.ofList (joinLines (keptLines payload))) with
      | error e =>
        rw [hdict] at h
        cases h
      | ok rows =>
        rw [hdict] at h
        obtain rfl := Except.ok.inj h
        obtain ⟨names, rest, hreader, hrows⟩ := hrecords hdict (by simpa using hne)
        exact ⟨names, rest, hreader, by rw [hrows]; rfl⟩

lemma quotes_body_le (d : Decoder) (payload : String) :
    quotes (d.body payload).toList ≤ quotes payload.toList := by
  cases d with
  | summary => exact le_rfl
  | csvRows =>
    have hsub : (keptLines payload).Sublist (Lines.splitlines payload.toList) :=
      List.filter_sublist
    calc quotes (Decoder.csvRows.body payload).toList
      _ = quotes (keptLines payload).flatten := by
        rw [Decoder.body, String.toList_ofList, joinLines, quotes_intercalate (by decide),
          quotes_flatten]
      _ ≤ quotes (Lines.splitlines payload.toList).flatten := hsub.flatten.count_le _
      _ ≤ quotes payload.toList := (Lines.flatten_splitlines _).count_le _

/-- What the reader gets has no line breaks but line feeds. -/
lemma isBreak_body {payload : String} {c : Char}
    (hc : c ∈ (Decoder.csvRows.body payload).toList) (hnewline : c ≠ '\n') :
    Lines.isBreak c = false := by
  rw [Decoder.body, String.toList_ofList] at hc
  rcases Text.mem_intercalate hc with ⟨rfl, -⟩ | ⟨l, hl, hc⟩
  · exact absurd rfl hnewline
  · exact Lines.isBreak_of_mem (List.mem_of_mem_filter hl) hc

omit [PyRuntime F] in
/-- The quotes of a text are those of its columns and cells. -/
lemma quotes_text (s : Option Sentence) {R : ResultSet N} (hrows : R.rows ≠ []) :
    quotes (front s ++ R.encode).toList = recordQuotes R.columns +
      (R.rows.map fun row => (row.map fun cell => quotes cell.str.toList).sum).sum := by
  have hfields :
      (fun r : List (List Char) => quotes (joinFields r)) = fun r => (r.map quotes).sum :=
    funext fun r => quotes_intercalate (by decide) r
  have hsentence (s : Sentence) : quotes s.line.toList = 0 :=
    quotes_eq_zero (by cases s <;> decide)
  rw [toList_text s hrows, joinLines, quotes_intercalate (by decide), List.map_map,
    Function.comp_def, hfields, fieldLists, List.map_append, List.sum_append]
  simp [hsentence, recordQuotes, Function.comp_def]

/-- The rows that are read have all quotes of the result set. -/
lemma sum_quotes_le {d : Decoder} {columns names : List String} {rows : List (List (Cell N))}
    {records : List (List String)}
    (h : List.Forall₂ (fun row record =>
      ReadsRow (F := F) d columns row (d.convertRow (dictRow names record))) rows records) :
    (rows.map fun row => (row.map fun cell => quotes cell.str.toList).sum).sum ≤
      recordsQuotes records := by
  induction h with
  | nil => exact le_rfl
  | cons hread _ ih =>
    have hrow := (readsRow_dictRow hread).2.1
    simp only [recordsQuotes, List.map_cons, List.sum_cons] at ih ⊢
    omega

/-- **What survives is plain.**  No quote is lost, so no field of the text was quoted. -/
lemma plainTexts_of_survives {d : Decoder} {s : Option Sentence} {R : ResultSet N}
    (hrows : R.rows ≠ []) (h : Survives (F := F) d s R) : PlainTexts d R := by
  obtain ⟨records, hdecode, hreads⟩ := h
  have hne : records ≠ [] := by
    rintro rfl
    exact hrows (List.forall₂_nil_right_iff.1 hreads)
  obtain ⟨names, rest, hreader, rfl⟩ := reader_of_decode hdecode hne
  rw [List.map_map, List.forall₂_map_right_iff] at hreads
  have hcolumns : R.columns.Sublist names := by
    obtain ⟨row, hrow⟩ := List.exists_mem_of_ne_nil _ hrows
    obtain ⟨record, -, hread⟩ := exists_of_forall₂ hreads hrow
    exact (readsRow_dictRow hread).1
  have hquotes : quotes (d.body (front s ++ R.encode)).toList ≤ recordsQuotes (names :: rest) := by
    have hnames : recordQuotes R.columns ≤ recordQuotes names :=
      (hcolumns.map _).sum_le_sum fun _ _ => Nat.zero_le _
    have hrest : recordsQuotes (rest.filter (· ≠ [])) ≤ recordsQuotes rest :=
      (List.filter_sublist.map _).sum_le_sum fun _ _ => Nat.zero_le _
    calc quotes (d.body (front s ++ R.encode)).toList
      _ ≤ quotes (front s ++ R.encode).toList := quotes_body_le d _
      _ = _ := quotes_text s hrows
      _ ≤ recordQuotes names + recordsQuotes rest :=
        Nat.add_le_add hnames ((sum_quotes_le hreads).trans hrest)
      _ = recordsQuotes (names :: rest) := by simp [recordsQuotes]
  have hfields := plain_of_reader hreader hquotes
  have hplain : ∀ r ∈ names :: rest, ∀ f ∈ r, PlainText d f := by
    intro r hr f hf
    obtain ⟨hfield, hchars⟩ := hfields r hr f hf
    refine ⟨hfield, ?_⟩
    rintro rfl c hc
    exact isBreak_body (hchars c hc) fun hnewline => hfield.newline (hnewline ▸ hc)
  refine ⟨fun c hc => hplain names List.mem_cons_self c (hcolumns.subset hc),
    fun row hrow cell hcell => ?_⟩
  obtain ⟨record, hrecord, hread⟩ := exists_of_forall₂ hreads hrow
  cases cell with
  | null => exact plainText_null d
  | number x => exact plainText_number d x
  | text t =>
    exact hplain record (List.mem_cons_of_mem _ (List.mem_of_mem_filter hrecord)) t
      ((readsRow_dictRow hread).2.2 t hcell)

/-- The lines behind the sentence that are kept. -/
def keptRows (d : Decoder) (R : ResultSet N) : List (List (List Char)) :=
  (fieldLists none R).filter fun fields => d.keeps (joinFields fields)

omit [PyRuntime F] in
/-- A sentence is dropped, or it is the first line that is kept. -/
lemma kept_eq (d : Decoder) (s : Option Sentence) (R : ResultSet N) :
    (Dropped d s ∧ kept d s R = keptRows d R) ∨
      ¬Dropped d s ∧ ∃ t : Sentence, kept d s R = [t.line.toList] :: keptRows d R := by
  have hsplit (t : Sentence) : fieldLists (some t) R = [t.line.toList] :: fieldLists none R := rfl
  rcases s with _ | t
  · exact .inl ⟨.inl rfl, rfl⟩
  · rw [kept, hsplit, List.filter_cons]
    cases d with
    | summary =>
      refine .inr ⟨by simp [Dropped], t, ?_⟩
      rw [if_pos (by cases t <;> decide)]
      rfl
    | csvRows =>
      cases t with
      | hotProducts =>
        refine .inl ⟨.inr ⟨rfl, rfl⟩, ?_⟩
        rw [if_neg (by decide)]
        rfl
      | topProducts =>
        refine .inr ⟨by simp [Dropped], .topProducts, ?_⟩
        rw [if_pos (by decide)]
        rfl

/-- The rows of a result set with plain texts, of which no line is dropped. -/
lemma rowsOf_fieldLists (R : ResultSet N) :
    (rowsOf (fieldLists none R) : List (List (PyKey F × PyValue F))) =
      R.rows.map fun row => dictRow R.columns (row.map Cell.str) := by
  have hstrings (l : List String) : strings (l.map String.toList) = l := by
    rw [strings, List.map_map]
    exact (List.map_congr_left fun s _ => String.ofList_toList).trans (List.map_id l)
  change (R.rows.map fun row => row.map fun cell => cell.str.toList).map _ = _
  rw [List.map_map]
  refine List.map_congr_left fun row _ => ?_
  have hrow := hstrings (row.map Cell.str)
  rw [List.map_map] at hrow
  exact congrArg₂ dictRow (hstrings R.columns) hrow

/-- The records that are read of a result set of which no line is dropped. -/
lemma forall₂_rows_iff {d : Decoder} {R : ResultSet N} (h : PlainTexts d R) :
    List.Forall₂ (ReadsRow (F := F) d R.columns) R.rows
        ((rowsOf (fieldLists none R)).map d.convertRow) ↔
      ∀ row ∈ R.rows, ∀ cell ∈ row, PlainCell (F := F) d cell := by
  rw [rowsOf_fieldLists, List.map_map, List.forall₂_map_right_iff, List.forall₂_same]
  refine forall₂_congr fun row hrow => (readsRow_iff hrow).trans ?_
  exact forall₂_congr fun cell hcell => reads_iff (h.cells row hrow cell hcell)

omit [PyRuntime F] in
/-- No line is dropped. -/
lemma keptRows_eq_iff {d : Decoder} {R : ResultSet N} :
    keptRows d R = fieldLists none R ↔ d.keeps (lineOf R.columns) = true ∧
      ∀ row ∈ R.rows, d.keeps (lineOf (row.map Cell.str)) = true := by
  have hline (row : List (Cell N)) :
      joinFields (row.map fun cell => cell.str.toList) = lineOf (row.map Cell.str) := by
    rw [lineOf, List.map_map]
    rfl
  rw [keptRows, List.filter_eq_self, fieldLists, Option.toList_none, List.map_nil, List.nil_append,
    List.forall_mem_cons, List.forall_mem_map]
  simp only [hline]
  rfl

/-- A result set of at least two columns survives its text if and only if the reader drops the
sentence in front of it, and nothing of the result set needs quotes, is `NULL`, reads as a number
without being one, or makes a line that is dropped. -/
theorem survives_iff (d : Decoder) (s : Option Sentence) (R : ResultSet N)
    (hcolumns : 2 ≤ R.columns.length) (hrows : R.rows ≠ []) :
    Survives (F := F) d s R ↔ Dropped d s ∧ PlainResult d R := by
  constructor
  · intro h
    have hplain := plainTexts_of_survives hrows h
    obtain ⟨records, hdecode, hreads⟩ := h
    rw [decode_eq hplain hcolumns hrows s] at hdecode
    obtain rfl := Except.ok.inj hdecode
    rcases kept_eq d s R with ⟨hdropped, hkept⟩ | ⟨-, t, hkept⟩
    · -- as many lines are kept as there are
      rw [hkept] at hreads
      have hlength : R.rows.length + 1 = (fieldLists none R).length := by simp [fieldLists]
      have hle : (keptRows d R).length ≤ (fieldLists none R).length := List.length_filter_le ..
      have hall : (keptRows d R).length = (fieldLists none R).length := by
        have hcount := hreads.length_eq
        have hpos := List.length_pos_iff.2 hrows
        cases hrowsOf : keptRows d R with
        | nil =>
          rw [hrowsOf] at hcount
          simp only [rowsOf, List.map_nil, List.length_nil] at hcount
          omega
        | cons names rest =>
          rw [hrowsOf] at hcount hle
          simp only [rowsOf, List.length_map, List.length_cons] at hcount hle ⊢
          omega
      have heq : keptRows d R = fieldLists none R := List.filter_sublist.eq_of_length hall
      rw [heq] at hreads
      obtain ⟨hheader, hlines⟩ := keptRows_eq_iff.1 heq
      exact ⟨hdropped, hplain.columns, hheader, hlines, (forall₂_rows_iff hplain).1 hreads⟩
    · -- the sentence would be the only column
      rw [hkept] at hreads
      obtain ⟨row, hrow⟩ := List.exists_mem_of_ne_nil _ hrows
      obtain ⟨converted, hconverted, hread⟩ := exists_of_forall₂ hreads hrow
      obtain ⟨record, hrecord, rfl⟩ := List.mem_map.1 hconverted
      obtain ⟨fields, -, rfl⟩ := List.mem_map.1 hrecord
      have hsub := (readsRow_dictRow hread).1.length_le
      simp only [strings, List.map_cons, List.map_nil, List.length_singleton] at hsub
      omega
  · rintro ⟨hdropped, hresult⟩
    have hplain : PlainTexts d R := by
      refine ⟨hresult.columns, fun row hrow cell hcell => ?_⟩
      have hcell := hresult.cells row hrow cell hcell
      cases cell with
      | null => exact hcell.elim
      | number x => exact plainText_number d x
      | text t => exact hcell.1
    have hkept : kept d s R = fieldLists none R := by
      rcases kept_eq d s R with ⟨-, hkept⟩ | ⟨hnot, -⟩
      · exact hkept.trans (keptRows_eq_iff.2 ⟨hresult.header, hresult.rows⟩)
      · exact absurd hdropped hnot
    refine ⟨_, decode_eq hplain hcolumns hrows s, ?_⟩
    rw [hkept]
    exact (forall₂_rows_iff hplain).2 hresult.cells

/-- The number seven. -/
def sevens : Numerals ℤ where
  Num := Unit
  str _ := "7"
  equals _ v := v = .int 7
  str_ne _ := by decide
  str_char _ c hc := by
    obtain rfl : c = '7' := by simpa using hc
    decide
  str_length _ := by decide

/-- A product and its stock. -/
def stockResult : ResultSet sevens where
  columns := ["product_id", "stock"]
  rows := [[.text "p1", .number ()]]
  nonempty := by decide
  distinct := by decide
  width := by simp

/-- A stock of seven is read behind the sentence of `query_hot_products`. -/
theorem survives_iff_stock : Survives .csvRows (some .hotProducts) stockResult := by
  refine (survives_iff _ _ _ (by decide) (by simp [stockResult])).2 ⟨.inr ⟨rfl, rfl⟩, ?_⟩
  refine ⟨?_, by decide, ?_, ?_⟩
  · intro c hc
    simp only [stockResult, List.mem_cons, List.not_mem_nil, or_false] at hc
    rcases hc with rfl | rfl <;>
      exact ⟨⟨by decide, by decide, by decide, by decide, by decide⟩,
        fun _ => by simp [Lines.isBreak]⟩
  · intro row hrow
    obtain rfl := List.mem_singleton.1 hrow
    decide
  · intro row hrow cell hcell
    obtain rfl := List.mem_singleton.1 hrow
    simp only [List.mem_cons, List.not_mem_nil, or_false] at hcell
    rcases hcell with rfl | rfl
    · exact ⟨⟨⟨by decide, by decide, by decide, by decide, by decide⟩,
        fun _ => by simp [Lines.isBreak]⟩, fun _ => rfl⟩
    · exact fun _ => rfl

end EcommerceAgent.Database.ResultText
