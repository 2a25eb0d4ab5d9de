/-
# The mapping of an import

`preview_job` shows which target field each column of the file is taken for, and `save_mapping`
stores a mapping in `data_import_jobs`.  `confirm_job` reads neither: the importer takes its cells
from columns with fixed names.  The import therefore follows the mapping exactly when the mapping
assigns these columns.
-/
import EcommerceAgent.Imports.UploadFile

open EcommerceAgent.Lib

namespace EcommerceAgent.Imports

/-- A mapping, from target fields to the source columns that it assigns to them. -/
abbrev Mapping := List (Str × Str)

/-- `_guess_target`. -/
def Library.guessTarget (lib : Library) (field : Str) : Str :=
  let lowered := lib.lower field
  if Text.contains lowered "order".toList then "order_id".toList
  else if Text.contains lowered "sku".toList ∨ Text.contains lowered "product".toList then
    "product_id".toList
  else if Text.contains lowered "amount".toList ∨ Text.contains lowered "price".toList then
    "price".toList
  else if Text.contains lowered "stock".toList then "stock".toList
  else "未识别".toList

/-- The fields that `preview_job` reports; a target field gets the first column with this target. -/
def Library.guessMapping (lib : Library) (fields : List Str) : Mapping :=
  fields.map fun field => (lib.guessTarget field, field)

/-- The rows that `preview_job` returns. -/
def UploadFile.previewRows (file : UploadFile) : List UploadRow := file.readUploadRows (some 20)

/-- The mapping that an import has to follow: the one that `save_mapping` stored, else the one that
the preview reported, if it had rows to show. -/
def effectiveMapping (lib : Library) (stored : Option Mapping) (file : UploadFile) :
    Option Mapping :=
  match stored with
  | some m => some m
  | none =>
    match file.previewRows with
    | [] => none
    | row :: _ => some (lib.guessMapping (row.map Prod.fst))

/-! ### An import that follows a mapping -/

/-- The target fields, and the columns from which the importer takes them.  The price is what
`order_items.price` gets; `sku_code`, `unit_price` and `quantity` are no fields of the tables. -/
def targetFields : List (String × String) :=
  [("order_id", "order_id"), ("customer_id", "customer_id"), ("product_id", "product_id"),
    ("order_time", "order_time"), ("price", "pay_amount"), ("campaign_name", "campaign_name"),
    ("customer_city", "customer_city"), ("product_name", "product_name"),
    ("category", "category"), ("stock", "stock"), ("safety_stock", "safety_stock"),
    ("visitors", "visitors"), ("conversions", "conversions"), ("platform", "platform"),
    ("ad_spend", "ad_spend"), ("refund_flag", "refund_flag"),
    ("refund_amount", "refund_amount"), ("refund_reason", "refund_reason")]

namespace Mapping

variable (m : Mapping)

/-- The source column of a target field. -/
def source (target : String) : Option Str := List.lookup target.toList m

/-- The row as the mapping reads it: every target field has the cell of its source column. -/
def apply (row : UploadRow) : UploadRow :=
  targetFields.map fun field => (field.2.toList, row.cell (m.source field.1))

end Mapping

/-- The import of a table with these headers follows the mapping: the preview shows the first rows
that are imported, and the tables get from the rows what they get when every target field has the
cell of the source column that the mapping assigns to it, and nothing where it assigns none. -/
structure FollowsMapping (lib : Library) (headers : List Str) (stored : Option Mapping) : Prop where
  preview : ∀ file : UploadFile, file.headers = headers →
    file.previewRows <+: file.readUploadRows none
  imports : ∀ file : UploadFile, file.headers = headers →
    ∀ m, effectiveMapping lib stored file = some m → ∀ scope now db,
      lib.importRows scope now (file.readUploadRows none) db =
        lib.importRows scope now ((file.readUploadRows none).map m.apply) db

/-- Tables that differ only in their header names, with mappings that make up for the difference,
give the same business rows. -/
def RenamingInvariant (lib : Library) (headers : List Str) (m : Mapping) (headers' : List Str)
    (m' : Mapping) : Prop :=
  ∀ records : List (List Str),
    (∀ record ∈ records, m.apply (csvRow headers record) = m'.apply (csvRow headers' record)) →
    ∀ scope now db,
      lib.importRows scope now (records.map (csvRow headers)) db =
        lib.importRows scope now (records.map (csvRow headers')) db

/-! ### The condition -/

/-- The target fields with a column of the same name that nothing else interferes with. -/
def plainFields : List String :=
  ["order_id", "customer_id", "order_time", "campaign_name", "customer_city", "product_name",
    "category", "stock", "safety_stock", "visitors", "conversions", "platform", "ad_spend",
    "refund_flag"]

/-- The column that the mapping assigns to a target field, if the table has it. -/
def Mapping.column (m : Mapping) (columns : List Str) (target : String) : Option Str :=
  (m.source target).filter columns.contains

/-- The column with a name, if the table has it. -/
def ownColumn (columns : List Str) (name : String) : Option Str :=
  (some name.toList).filter columns.contains

/-- The mapping assigns the columns that the importer reads. -/
structure AssignsReadColumns (columns : List Str) (m : Mapping) : Prop where
  /-- Most fields have the column of their name, or none. -/
  plain : ∀ name ∈ plainFields, m.column columns name = ownColumn columns name
  /-- The product has the only one of two columns. -/
  product : m.column columns "product_id" =
    (ownColumn columns "product_id").or (ownColumn columns "sku_code")
  product_alone : "product_id".toList ∈ columns → "sku_code".toList ∉ columns
  /-- The price has one of two columns, of which the second one must come without a quantity. -/
  price : m.column columns "price" =
    (ownColumn columns "pay_amount").or (ownColumn columns "unit_price")
  price_alone : "unit_price".toList ∈ columns →
    "pay_amount".toList ∉ columns ∧ "quantity".toList ∉ columns
  /-- The fields of a refund matter when there can be one. -/
  refund : "refund_flag".toList ∈ columns → ∀ name ∈ ["refund_amount", "refund_reason"],
    m.column columns name = ownColumn columns name

/-- The stored mapping, else what the preview reports for the columns. -/
def jobMapping (lib : Library) (headers : List Str) (stored : Option Mapping) : Mapping :=
  stored.getD (lib.guessMapping (columns headers))

/-- What the library does with a few texts, so that the tables show from which column a value
came. -/
structure Library.TellsApart (lib : Library) : Prop where
  lower : ∀ digit ∈ ["1".toList, "2".toList], lib.lower digit = digit
  upper : ∀ text ∈ [[], "1".toList, "2".toList], lib.upper text = text
  isalnum : ∀ c ∈ ['1', '2'], lib.isalnum c = true
  float_one : lib.float "1".toList = some 1
  float_two : lib.float "2".toList = some 2
  strptime : ∃ s, lib.strptime "2024/01/01".toList = some s ∧
    lib.strptime "2024/01/02".toList = some (s + 86400)

variable {lib : Library}

/-! ### The mapping of a file -/

lemma lookup_guessMapping (fields : List Str) (target : String) :
    (lib.guessMapping fields).source target =
      fields.find? fun field => target.toList == lib.guessTarget field := by
  induction fields with
  | nil => rfl
  | cons field fields ih =>
    rw [Mapping.source, Library.guessMapping, List.map_cons, List.lookup_cons, List.find?_cons]
    cases hfield : target.toList == lib.guessTarget field with
    | true => rfl
    | false => exact ih

/-- All files with these headers have one mapping. -/
lemma source_effectiveMapping {headers : List Str} {stored : Option Mapping} {file : UploadFile}
    (hfile : file.headers = headers) {m : Mapping}
    (h : effectiveMapping lib stored file = some m) (target : String) :
    m.source target = (jobMapping lib headers stored).source target := by
  cases stored with
  | some m' =>
    obtain rfl := Option.some_inj.mp h
    rfl
  | none =>
    cases hrows : file.previewRows with
    | nil => simp [effectiveMapping, hrows] at h
    | cons row rows =>
      have hrow : row ∈ file.readUploadRows (some 20) := by
        change row ∈ file.previewRows
        rw [hrows]
        exact List.mem_cons_self
      simp only [effectiveMapping, hrows, Option.some_inj] at h
      rw [← h, jobMapping, Option.getD_none, lookup_guessMapping, lookup_guessMapping,
        find?_keys_row hrow, hfile]

lemma apply_congr {m m' : Mapping} (h : ∀ target, m.source target = m'.source target) :
    m.apply = m'.apply := by
  funext row
  rw [Mapping.apply, Mapping.apply]
  exact List.map_congr_left fun field _ => by rw [h]

lemma apply_effectiveMapping {headers : List Str} {stored : Option Mapping} {file : UploadFile}
    (hfile : file.headers = headers) {m : Mapping}
    (h : effectiveMapping lib stored file = some m) :
    m.apply = (jobMapping lib headers stored).apply :=
  apply_congr (source_effectiveMapping hfile h)

/-- A plain field is read from the column of its own name. -/
lemma get_apply (m : Mapping) (row : UploadRow) :
    ∀ name ∈ plainFields, (m.apply row).get name = row.cell (m.source name) := by
  intro name h
  simp only [plainFields, List.mem_cons, List.not_mem_nil, or_false] at h
  rcases h with rfl | rfl | rfl | rfl | rfl | rfl | rfl | rfl | rfl | rfl | rfl | rfl | rfl | rfl
  all_goals rfl

/-! ### Rows with the same values -/

/-- The importer gets the same values from two rows. -/
structure SameValues (lib : Library) (row row' : UploadRow) : Prop where
  plain : ∀ name ∈ plainFields, row'.get name = row.get name
  product : orText (row'.get "product_id") (row'.get "sku_code") =
    orText (row.get "product_id") (row.get "sku_code")
  price : lib.payAmount row' = lib.payAmount row
  refund : lib.refunded row = true → ∀ name ∈ ["refund_amount", "refund_reason"],
    row'.get name = row.get name

section Lines

variable {scope : Scope} {now : ℤ}

lemma line_of_sameValues {row row' : UploadRow} (h : SameValues lib row row') (index : ℕ) :
    lib.line scope now index row' = { lib.line scope now index row with row := row' } := by
  have horder := h.plain "order_id" (by decide)
  have hcustomer := h.plain "customer_id" (by decide)
  have htime := h.plain "order_time" (by decide)
  have hcampaign := h.plain "campaign_name" (by decide)
  simp only [Library.line, Library.sourceOrderId, Library.sourceCustomerId,
    Library.sourceProductId, horder, hcustomer, htime, hcampaign, h.product, h.price]

lemma refunded_of_sameValues {row row' : UploadRow} (h : SameValues lib row row') :
    lib.refunded row' = lib.refunded row := by
  rw [Library.refunded, Library.refunded, h.plain "refund_flag" (by decide)]

lemma map_lines_congr {β : Type} (entry : Line → β) {rows : List UploadRow}
    {g : UploadRow → UploadRow} (h : ∀ row ∈ rows, ∀ index,
      entry (lib.line scope now index (g row)) = entry (lib.line scope now index row)) :
    (lib.lines scope now (rows.map g)).map entry = (lib.lines scope now rows).map entry := by
  rw [Library.lines, Library.lines, List.zipIdx_map, List.map_map, List.map_map, List.map_map]
  refine List.map_congr_left fun e he => ?_
  exact h e.1 (List.fst_mem_of_mem_zipIdx he) e.2

lemma map_filter_eq {α β : Type} (p : α → Bool) (f : α → β) (l : List α) :
    (l.filter p).map f = (l.map fun a => if p a then some (f a) else none).filterMap id := by
  induction l with
  | nil => rfl
  | cons a l ih =>
    rw [List.map_cons]
    by_cases ha : p a
    · rw [List.filter_cons_of_pos ha, List.map_cons, ih, if_pos ha]
      rfl
    · rw [List.filter_cons_of_neg ha, ih, if_neg ha]
      rfl

/-- Files whose rows have the same values give the same batch. -/
lemma batch_congr {rows : List UploadRow} {g : UploadRow → UploadRow}
    (h : ∀ row ∈ rows, SameValues lib row (g row)) :
    lib.batch scope now (rows.map g) = lib.batch scope now rows := by
  have hline : ∀ row ∈ rows, ∀ index, lib.line scope now index (g row) =
      { lib.line scope now index row with row := g row } :=
    fun row hrow index => line_of_sameValues (h row hrow) index
  have hcustomers := map_lines_congr (Library.customerOf scope) fun row hrow index => by
    rw [hline row hrow index]
    simp only [Library.customerOf, (h row hrow).plain "customer_city" (by decide)]
    rfl
  have hproducts := map_lines_congr (Library.productOf scope) fun row hrow index => by
    rw [hline row hrow index]
    simp only [Library.productOf, (h row hrow).plain "product_name" (by decide),
      (h row hrow).plain "category" (by decide)]
    rfl
  have hinventory := map_lines_congr (lib.inventoryOf scope now) fun row hrow index => by
    rw [hline row hrow index]
    simp only [Library.inventoryOf, (h row hrow).plain "stock" (by decide),
      (h row hrow).plain "safety_stock" (by decide)]
    rfl
  have horders := map_lines_congr (Library.orderOf scope) fun row hrow index => by
    rw [hline row hrow index]
    rfl
  have horderItems := map_lines_congr (lib.orderItemOf scope) fun row hrow index => by
    rw [hline row hrow index]
    rfl
  have hpayments := map_lines_congr (Library.paymentOf scope) fun row hrow index => by
    rw [hline row hrow index]
    rfl
  have htraffic := map_lines_congr (lib.trafficOf scope) fun row hrow index => by
    rw [hline row hrow index]
    simp only [Library.trafficOf, (h row hrow).plain "visitors" (by decide),
      (h row hrow).plain "conversions" (by decide)]
    rfl
  have hcampaigns := map_lines_congr (lib.campaignOf scope) fun row hrow index => by
    rw [hline row hrow index]
    simp only [Library.campaignOf, (h row hrow).plain "platform" (by decide),
      (h row hrow).plain "ad_spend" (by decide)]
    rfl
  have hcampaignStats := map_lines_congr (lib.campaignStatOf scope) fun row hrow index => by
    rw [hline row hrow index]
    simp only [Library.campaignStatOf, (h row hrow).plain "visitors" (by decide),
      (h row hrow).plain "conversions" (by decide), (h row hrow).plain "ad_spend" (by decide)]
    rfl
  have hrefunds := map_lines_congr
      (fun l => if lib.refunded l.row then some (lib.refundOf scope l) else none)
      fun row hrow index => by
    rw [hline row hrow index]
    simp only [refunded_of_sameValues (h row hrow)]
    by_cases hflag : lib.refunded row = true
    · have hcells := (h row hrow).refund hflag
      simp only [Library.refundOf, hcells "refund_amount" (by decide),
        hcells "refund_reason" (by decide)]
      rfl
    · have hnot : lib.refunded row = false := by simpa using hflag
      have hline' : lib.refunded (lib.line scope now index row).row = false := hnot
      simp only [hnot, hline', Bool.false_eq_true, if_false]
  have hsellers : rows.map g = [] ↔ rows = [] := List.map_eq_nil_iff
  simp only [Library.batch, map_filter_eq, hcustomers, hproducts, hinventory, horders, horderItems,
    hpayments, htraffic, hcampaigns, hcampaignStats, hrefunds, hsellers]

end Lines

/-! ### The price of a row -/

lemma payAmount_of_pay_amount {row : UploadRow} (h : row.get "unit_price" = []) :
    lib.payAmount row = lib.toFloat (row.get "pay_amount") 0 := by
  simp only [Library.payAmount, h]
  by_cases hpay : row.get "pay_amount" = []
  · simp [hpay, Library.toFloat]
  · cases hfloat : lib.float (row.get "pay_amount") with
    | none => simp [hpay, hfloat, Library.toFloat]
    | some number => simp [hpay, hfloat, Library.toFloat]

lemma payAmount_of_unit_price {row : UploadRow} (hpay : row.get "pay_amount" = []) :
    lib.payAmount row = lib.toFloat (row.get "unit_price") 0 *
      max 1 (lib.toInt (row.get "quantity") 1) := by
  have hnone : lib.toFloat [] 0 = 0 := rfl
  simp only [Library.payAmount, hpay, hnone]
  simp [Library.toFloat]

lemma quantity_default {row : UploadRow} (h : row.get "quantity" = []) :
    max 1 (lib.toInt (row.get "quantity") 1) = 1 := by
  simp [h, Library.toInt, Library.toFloat]

/-! ### Mappings that assign the columns that are read -/

lemma get_eq_cell (row : UploadRow) (name : String) :
    row.get name = row.cell (some name.toList) := rfl

lemma orText_nil (v : Str) : orText v [] = v := by
  rw [orText]
  split
  · rename_i hv
    exact hv.symm
  · rfl

/-- The product and the price of a row as the mapping reads it. -/
lemma product_apply (m : Mapping) (row : UploadRow) :
    orText ((m.apply row).get "product_id") ((m.apply row).get "sku_code") =
      row.cell (m.source "product_id") :=
  orText_nil (row.cell (m.source "product_id"))

@[inherit_doc product_apply]
lemma payAmount_apply (m : Mapping) (row : UploadRow) :
    lib.payAmount (m.apply row) = lib.toFloat (row.cell (m.source "price")) 0 :=
  payAmount_of_pay_amount rfl

section Read

variable {file : UploadFile} {row : UploadRow} {m : Mapping}

lemma cell_column (hrow : row ∈ file.readUploadRows none) (target : String) :
    row.cell (m.column (columns file.headers) target) = row.cell (m.source target) :=
  cell_filter hrow _

lemma cell_ownColumn (hrow : row ∈ file.readUploadRows none) (name : String) :
    row.cell (ownColumn (columns file.headers) name) = row.get name :=
  cell_filter hrow _

lemma ownColumn_of_mem {cols : List Str} {name : String} (h : name.toList ∈ cols) :
    ownColumn cols name = some name.toList := Option.filter_some_pos (by simpa using h)

lemma ownColumn_cases (cols : List Str) (name : String) :
    ownColumn cols name = none ∨ ownColumn cols name = some name.toList := by
  rw [ownColumn, Option.filter_some]
  split
  · exact .inr rfl
  · exact .inl rfl

lemma ownColumn_of_notMem {cols : List Str} {name : String} (h : name.toList ∉ cols) :
    ownColumn cols name = none := Option.filter_some_neg (by simpa using h)

lemma get_of_notMem (hrow : row ∈ file.readUploadRows none) {name : String}
    (h : name.toList ∉ columns file.headers) : row.get name = [] := by
  rw [← cell_ownColumn hrow, ownColumn_of_notMem h]
  rfl

/-- Without a flag there is no refund. -/
lemma refunded_of_notMem (hlib : lib.TellsApart) (hrow : row ∈ file.readUploadRows none)
    (h : "refund_flag".toList ∉ columns file.headers) : lib.refunded row = false := by
  have hupper : lib.upper (Text.strip []) = [] := hlib.upper [] (by decide)
  rw [Library.refunded, get_of_notMem hrow h, hupper]
  rfl

/-- A mapping that assigns the columns that are read gives all rows the values they have. -/
lemma sameValues_apply (hlib : lib.TellsApart)
    (hassigns : AssignsReadColumns (columns file.headers) m)
    (hrow : row ∈ file.readUploadRows none) : SameValues lib row (m.apply row) := by
  refine ⟨?_, ?_, ?_, ?_⟩
  · intro name hname
    rw [get_apply m row name hname, ← cell_column hrow, hassigns.plain name hname,
      cell_ownColumn hrow]
  · rw [product_apply, ← cell_column hrow, hassigns.product]
    by_cases hproduct : "product_id".toList ∈ columns file.headers
    · have hsku := get_of_notMem hrow (hassigns.product_alone hproduct)
      rw [ownColumn_of_mem hproduct, Option.some_or, ← get_eq_cell, hsku, orText_nil]
    · rw [ownColumn_of_notMem hproduct, Option.none_or, cell_ownColumn hrow,
        get_of_notMem hrow hproduct]
      rfl
  · rw [payAmount_apply, ← cell_column hrow, hassigns.price]
    by_cases hunit : "unit_price".toList ∈ columns file.headers
    · obtain ⟨hpay, hquantity⟩ := hassigns.price_alone hunit
      rw [ownColumn_of_notMem hpay, Option.none_or, cell_ownColumn hrow,
        payAmount_of_unit_price (get_of_notMem hrow hpay),
        quantity_default (get_of_notMem hrow hquantity)]
      simp
    · rw [ownColumn_of_notMem hunit, Option.or_none, cell_ownColumn hrow,
        payAmount_of_pay_amount (get_of_notMem hrow hunit)]
  · intro hflag name hname
    have hflagColumn : "refund_flag".toList ∈ columns file.headers := by
      by_contra hnot
      rw [refunded_of_notMem hlib hrow hnot] at hflag
      cases hflag
    have hcell : (m.apply row).get name = row.cell (m.source name) := by
      simp only [List.mem_cons, List.not_mem_nil, or_false] at hname
      rcases hname with rfl | rfl <;> rfl
    rw [hcell, ← cell_column hrow, hassigns.refund hflagColumn name hname, cell_ownColumn hrow]

lemma sameValues_apply_csv (hlib : lib.TellsApart) {headers : List Str} {records : List (List Str)}
    (hassigns : AssignsReadColumns (columns headers) m)
    (hrow : row ∈ records.map (csvRow headers)) : SameValues lib row (m.apply row) := by
  have hread : row ∈ (UploadFile.csv headers records).readUploadRows none := hrow
  have hcolumns : AssignsReadColumns (columns (UploadFile.csv headers records).headers) m :=
    hassigns
  exact sameValues_apply hlib hcolumns hread

end Read

end EcommerceAgent.Imports
