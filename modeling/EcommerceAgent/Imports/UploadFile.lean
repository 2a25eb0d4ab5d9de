/-
# Reading an uploaded file

`_read_upload_rows` of `api/services/import_service.py` behind the parsers of the `csv` module and
of `openpyxl`: a table of cells becomes a list of Python dictionaries.  Two cells under one header
are two assignments to the same entry, and a column without a header is dropped.
-/
import EcommerceAgent.Imports.Importer

open EcommerceAgent.Lib

namespace EcommerceAgent.Imports

/-- A worksheet; `openpyxl` pads its rows to the width of the sheet. -/
structure Worksheet where
  headers : List (Option Str)
  rows : List (List (Option Str))
  width : ∀ row ∈ rows, row.length = headers.length

/-- An uploaded file: the field names of the `DictReader` and the records behind them, or the first
worksheet. -/
inductive UploadFile
  | csv (fieldnames : List Str) (records : List (List Str))
  | excel (sheet : Worksheet)

/-- The dictionary of the pairs with a header. -/
def dictOf (pairs : List (Str × Str)) : UploadRow :=
  dictValues Prod.fst (pairs.filter (·.1 ≠ []))

/-- A record of the `DictReader`: missing cells are empty, further cells are dropped. -/
def csvRow (fieldnames record : List Str) : UploadRow :=
  dictOf (fieldnames.zip (record ++ List.replicate (fieldnames.length - record.length) []))

/-- A row of the worksheet. -/
def excelRow (headers : List Str) (values : List (Option Str)) : UploadRow :=
  dictOf (headers.zip (values.map (·.getD [])))

/-- The rows before the loop breaks. -/
def upTo {α : Type} (limit : Option ℕ) (rows : List α) : List α :=
  match limit with
  | none => rows
  | some n => rows.take n

namespace UploadFile

/-- The headers of the table. -/
def headers : UploadFile → List Str
  | csv fieldnames _ => fieldnames
  | excel sheet => sheet.headers.map fun value => Text.strip (value.getD [])

/-- `_read_upload_rows`. -/
def readUploadRows (file : UploadFile) (limit : Option ℕ) : List UploadRow :=
  match file with
  | csv fieldnames records => (upTo limit records).map (csvRow fieldnames)
  | excel sheet => ((upTo limit sheet.rows).map (excelRow (excel sheet).headers)).filter fun item =>
      item.any (·.2 ≠ [])

end UploadFile

/-- The columns that reach the dictionaries. -/
def columns (headers : List Str) : List Str := headers.filter (· ≠ [])

/-! ### Cells of a row -/

/-- The cell of a column, empty where there is no column. -/
def UploadRow.cell (row : UploadRow) (column : Option Str) : Str :=
  (column.bind fun c => row.lookup c).getD []

lemma mem_of_lookup {row : UploadRow} {key value : Str} (h : row.lookup key = some value) :
    (key, value) ∈ row := by
  induction row with
  | nil => cases h
  | cons entry rest ih =>
    rw [List.lookup_cons] at h
    split at h
    · rename_i hkey
      obtain ⟨k, v⟩ := entry
      obtain rfl := beq_iff_eq.mp hkey
      obtain rfl := Option.some_inj.mp h
      exact List.mem_cons_self
    · exact List.mem_cons_of_mem _ (ih h)

lemma exists_lookup {row : UploadRow} {key value : Str} (h : (key, value) ∈ row) :
    ∃ v, row.lookup key = some v := by
  induction row with
  | nil => cases h
  | cons entry rest ih =>
    rw [List.lookup_cons]
    split
    · exact ⟨_, rfl⟩
    · rename_i hkey
      rcases List.mem_cons.mp h with rfl | hrest
      · rw [beq_self_eq_true] at hkey
        cases hkey
      · exact ih hrest

lemma mem_dictOf {pairs : List (Str × Str)} {entry : Str × Str} (h : entry ∈ dictOf pairs) :
    entry ∈ pairs ∧ entry.1 ≠ [] := by
  simpa using mem_of_mem_dictValues h

/-- The rows of a file only have cells in its columns. -/
lemma mem_columns_of_mem {file : UploadFile} {limit : Option ℕ} {row : UploadRow}
    (hrow : row ∈ file.readUploadRows limit) {entry : Str × Str} (h : entry ∈ row) :
    entry.1 ∈ columns file.headers := by
  have hdict : ∀ cells : List Str, entry ∈ dictOf (file.headers.zip cells) →
      entry.1 ∈ columns file.headers := by
    intro cells hmem
    obtain ⟨hpair, hne⟩ := mem_dictOf hmem
    exact List.mem_filter.mpr ⟨(List.of_mem_zip hpair).1, by simpa using hne⟩
  cases file with
  | csv fieldnames records =>
    obtain ⟨record, -, rfl⟩ := List.mem_map.mp hrow
    exact hdict _ h
  | excel sheet =>
    obtain ⟨values, -, rfl⟩ := List.mem_map.mp (List.mem_of_mem_filter hrow)
    exact hdict _ h

/-- A column that the table does not have is as good as none. -/
lemma cell_filter {file : UploadFile} {limit : Option ℕ} {row : UploadRow}
    (hrow : row ∈ file.readUploadRows limit) (column : Option Str) :
    row.cell (column.filter (columns file.headers).contains) = row.cell column := by
  cases column with
  | none => rfl
  | some c =>
    by_cases hc : c ∈ columns file.headers
    · rw [Option.filter_some_pos (by simpa using hc)]
    · have hnone : row.lookup c = none := by
        cases hlookup : row.lookup c with
        | none => rfl
        | some v => exact absurd (mem_columns_of_mem hrow (mem_of_lookup hlookup)) hc
      rw [Option.filter_some_neg (by simpa using hc), UploadRow.cell, UploadRow.cell,
        Option.bind_some, hnone]
      rfl

/-! ### The preview -/

lemma upTo_isPrefix {α : Type} (limit : Option ℕ) (rows : List α) : upTo limit rows <+: rows := by
  cases limit with
  | none => exact List.prefix_rfl
  | some n => exact List.take_prefix n rows

/-- The rows of a preview are the first rows that are imported. -/
lemma readUploadRows_isPrefix (file : UploadFile) (limit : Option ℕ) :
    file.readUploadRows limit <+: file.readUploadRows none := by
  cases file with
  | csv fieldnames records => exact (upTo_isPrefix limit records).map _
  | excel sheet => exact ((upTo_isPrefix limit sheet.rows).map _).filter _

/-- The keys of a row that has a cell for every header are the columns, without repetitions. -/
lemma find?_keys_dictOf (p : Str → Bool) {headers cells : List Str}
    (h : headers.length ≤ cells.length) :
    ((dictOf (headers.zip cells)).map Prod.fst).find? p = (columns headers).find? p := by
  have hkeys : ((headers.zip cells).filter (·.1 ≠ [])).map Prod.fst = columns headers := by
    have hzip : (headers.zip cells).map Prod.fst = headers := List.map_fst_zip h
    rw [columns]
    conv_rhs => rw [← hzip, List.filter_map]
    rfl
  have hfind : ((dictOf (headers.zip cells)).map Prod.fst).find? p =
      (((headers.zip cells).filter (·.1 ≠ [])).map Prod.fst).find? p :=
    Schema.find?_keys_upsertAll (S := Schema.dict Prod.fst) p
  rw [hfind, hkeys]

/-- The first column with a property is the same for all rows of a file. -/
lemma find?_keys_row {file : UploadFile} {limit : Option ℕ} {row : UploadRow}
    (hrow : row ∈ file.readUploadRows limit) (p : Str → Bool) :
    (row.map Prod.fst).find? p = (columns file.headers).find? p := by
  cases file with
  | csv fieldnames records =>
    obtain ⟨record, -, rfl⟩ := List.mem_map.mp hrow
    refine find?_keys_dictOf p ?_
    rw [List.length_append, List.length_replicate]
    omega
  | excel sheet =>
    obtain ⟨hmem, -⟩ := List.mem_filter.mp hrow
    obtain ⟨values, hvalues, rfl⟩ := List.mem_map.mp hmem
    refine find?_keys_dictOf p ?_
    have hsheet : values ∈ sheet.rows := (upTo_isPrefix limit sheet.rows).subset hvalues
    rw [UploadFile.headers, List.length_map, List.length_map, sheet.width values hsheet]

/-- A table with one record, whose cells are given by their headers. -/
lemma cell_csvRow (headers : List Str) (g : Str → Str) (column : Option Str) :
    (csvRow headers (headers.map g)).cell column =
      ((column.filter (columns headers).contains).map g).getD [] := by
  have hpairs : csvRow headers (headers.map g) = dictOf (headers.map fun h => (h, g h)) := by
    rw [csvRow, List.length_map, Nat.sub_self, List.replicate_zero, List.append_nil]
    congr 1
    induction headers with
    | nil => rfl
    | cons h headers ih => rw [List.map_cons, List.map_cons, List.zip_cons_cons, ih]
  have hvalue : ∀ entry ∈ dictOf (headers.map fun h => (h, g h)), entry.2 = g entry.1 := by
    intro entry hentry
    obtain ⟨h, -, rfl⟩ := List.mem_map.mp (mem_dictOf hentry).1
    rfl
  have hread : csvRow headers (headers.map g) ∈
      (UploadFile.csv headers [headers.map g]).readUploadRows none :=
    List.mem_singleton_self _
  have hcell : UploadRow.cell (csvRow headers (headers.map g))
      (column.filter (columns headers).contains) = _ := cell_filter hread column
  rw [← hcell]
  cases hc : column.filter (columns headers).contains with
  | none => rfl
  | some c =>
    have hcolumn : c ∈ columns headers := by
      simpa using (Option.filter_eq_some_iff.mp hc).2
    obtain ⟨hheader, hne⟩ := List.mem_filter.mp hcolumn
    have hpair : (c, g c) ∈ (headers.map fun h => (h, g h)).filter (·.1 ≠ []) :=
      List.mem_filter.mpr ⟨List.mem_map.mpr ⟨c, hheader, rfl⟩, hne⟩
    obtain ⟨entry, hentry, hkey⟩ := exists_mem_dictValues Prod.fst hpair
    have hentrykey : entry.1 = c := hkey
    subst hentrykey
    have hmem : (entry.1, entry.2) ∈ dictOf (headers.map fun h => (h, g h)) := hentry
    obtain ⟨v, hv⟩ := exists_lookup hmem
    rw [hpairs, UploadRow.cell, Option.bind_some, hv, Option.map_some]
    exact hvalue _ (mem_of_lookup hv)

end EcommerceAgent.Imports
