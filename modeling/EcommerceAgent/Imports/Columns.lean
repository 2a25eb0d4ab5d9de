/-
# From which column a value came

When the import of a table follows its mapping for all cells, the tables that it writes tell for
each field from which column its value came.  The files of this argument have one record, whose
cells are given by their headers: a value that two columns give for all of them alike comes from one
column.
-/
import EcommerceAgent.Imports.Mapping

open EcommerceAgent.Lib

namespace EcommerceAgent.Imports

variable {lib : Library}

/-! ### Values of one column -/

/-- The cell of a column under an assignment of cells to headers. -/
def valueAt (g : Str → Str) (column : Option Str) : Str := (column.map g).getD []

@[simp] lemma valueAt_none (g : Str → Str) : valueAt g none = [] := rfl

lemma valueAt_single (r a : Str) : valueAt (fun k => if k = r then a else []) (some r) = a :=
  if_pos rfl

lemma valueAt_single_of_ne {r : Str} {column : Option Str} (h : column ≠ some r) (a : Str) :
    valueAt (fun k => if k = r then a else []) column = [] := by
  cases column with
  | none => rfl
  | some c => exact if_neg fun heq => h (congrArg some heq)

/-- A value with two possible outcomes `a` and `b` that is read from one column and from another one
comes from one column. -/
lemma column_determined {V : Type} (value : Str → V) {a b : Str} (hab : value a ≠ value b)
    {read assigned : Option Str} (h : ∀ g, value (valueAt g read) = value (valueAt g assigned)) :
    assigned = read := by
  cases read with
  | none =>
    cases assigned with
    | none => rfl
    | some c => exact absurd ((h fun _ => a).symm.trans (h fun _ => b)) hab
  | some r =>
    by_contra hne
    have ha := h fun k => if k = r then a else []
    have hb := h fun k => if k = r then b else []
    rw [valueAt_single_of_ne hne, valueAt_single] at ha hb
    exact hab (ha.trans hb.symm)

/-- The same where one other column must have a fixed cell. -/
lemma column_determined_beside {V : Type} (value : Str → V) {a b flag cell : Str}
    (hab : value a ≠ value b) (hcell : value [] ≠ value cell) {read assigned : Option Str}
    (hread : read ≠ some flag)
    (h : ∀ g : Str → Str, g flag = cell → value (valueAt g read) = value (valueAt g assigned)) :
    assigned = read := by
  cases read with
  | none =>
    cases assigned with
    | none => rfl
    | some c =>
      by_cases hc : c = flag
      · have hflag := h (fun _ => cell) rfl
        rw [hc] at hflag
        exact absurd hflag hcell
      · have ha := h (fun k => if k = flag then cell else a) (if_pos rfl)
        have hb := h (fun k => if k = flag then cell else b) (if_pos rfl)
        exact absurd (by simpa [valueAt, hc] using ha.symm.trans hb) hab
  | some r =>
    have hr : r ≠ flag := fun heq => hread (congrArg some heq)
    have ha := h (fun k => if k = r then a else if k = flag then cell else [])
      (by simp [Ne.symm hr])
    have hb := h (fun k => if k = r then b else if k = flag then cell else [])
      (by simp [Ne.symm hr])
    cases assigned with
    | none => exact absurd (by simpa [valueAt] using ha.trans hb.symm) hab
    | some c =>
      by_contra hne
      have hcr : c ≠ r := fun heq => hne (congrArg some heq)
      have hcell' : (if c = r then a else if c = flag then cell else []) =
          if c = r then b else if c = flag then cell else [] := by
        rw [if_neg hcr, if_neg hcr]
      simp only [valueAt, Option.map_some, Option.getD_some, if_true, hcell'] at ha hb
      exact hab (ha.trans hb.symm)

/-- The product comes from one of its two columns, and only if the table has just one of them. -/
lemma product_determined {V : Type} (value : Str → V) {a b : Str} (ha : a ≠ [])
    (hab : value a ≠ value b) (hb : b ≠ []) {first second : Str} (hne : first ≠ second)
    {p s assigned : Option Str} (hp : p = none ∨ p = some first) (hs : s = none ∨ s = some second)
    (h : ∀ g, value (orText (valueAt g p) (valueAt g s)) = value (valueAt g assigned)) :
    assigned = p.or s ∧ (p = none ∨ s = none) := by
  rcases hp with rfl | rfl
  · exact ⟨column_determined value hab h, .inl rfl⟩
  rcases hs with rfl | rfl
  · refine ⟨column_determined value hab fun g => ?_, .inr rfl⟩
    rw [← h g]
    exact congrArg value (orText_nil _).symm
  -- With both columns, one of them can change the value while the assigned one stays.
  exfalso
  by_cases hassigned : assigned = some first
  · have hfirst : assigned ≠ some second := fun heq =>
      hne (Option.some_inj.mp (hassigned.symm.trans heq))
    have ha' := h fun k => if k = second then a else []
    have hb' := h fun k => if k = second then b else []
    rw [valueAt_single_of_ne hfirst, valueAt_single,
      valueAt_single_of_ne fun heq => hne (Option.some_inj.mp heq)] at ha' hb'
    exact hab (ha'.trans hb'.symm)
  · have ha' := h fun k => if k = first then a else []
    have hb' := h fun k => if k = first then b else []
    rw [valueAt_single_of_ne hassigned, valueAt_single, orText, if_neg ‹_›] at ha' hb'
    exact hab (ha'.trans hb'.symm)

section Price

variable {cols : List Str} {row : (Str → Str) → UploadRow}

lemma payAmount_of_float {row : UploadRow} {amount : ℚ} (hne : row.get "pay_amount" ≠ [])
    (h : lib.float (row.get "pay_amount") = some amount) : lib.payAmount row = amount := by
  simp [Library.payAmount, Library.toFloat, hne, h]

lemma toFloat_one (hlib : lib.TellsApart) : lib.toFloat "1".toList 0 = 1 := by
  rw [Library.toFloat, if_neg (by decide), hlib.float_one, Option.getD_some]

lemma toFloat_two (hlib : lib.TellsApart) : lib.toFloat "2".toList 0 = 2 := by
  rw [Library.toFloat, if_neg (by decide), hlib.float_two, Option.getD_some]

lemma toInt_two (hlib : lib.TellsApart) (fallback : ℤ) : lib.toInt "2".toList fallback = 2 := by
  rw [Library.toInt, Library.toFloat, if_neg (by decide), hlib.float_two, Option.getD_some]
  rfl

lemma toInt_one (hlib : lib.TellsApart) (fallback : ℤ) : lib.toInt "1".toList fallback = 1 := by
  rw [Library.toInt, Library.toFloat, if_neg (by decide), hlib.float_one, Option.getD_some]
  rfl

lemma toFloat_one_ne_two (hlib : lib.TellsApart) :
    lib.toFloat "1".toList 0 ≠ lib.toFloat "2".toList 0 := by
  rw [toFloat_one hlib, toFloat_two hlib]
  decide

lemma ownColumn_ne {name : String} {r : Str} (h : name.toList ≠ r) :
    ownColumn cols name ≠ some r := by
  intro heq
  exact h (Option.some_inj.mp (Option.filter_eq_some_iff.mp heq).1)

/-- The price comes from one column, and never from one of several. -/
lemma price_determined (hlib : lib.TellsApart)
    (hrow : ∀ g name, (row g).get name = valueAt g (ownColumn cols name)) {assigned : Option Str}
    (h : ∀ g, lib.payAmount (row g) = lib.toFloat (valueAt g assigned) 0) :
    assigned = (ownColumn cols "pay_amount").or (ownColumn cols "unit_price") ∧
    ("unit_price".toList ∈ cols → "pay_amount".toList ∉ cols ∧ "quantity".toList ∉ cols) := by
  have hpayUnit : ∀ a, valueAt (fun k => if k = "unit_price".toList then a else [])
      (ownColumn cols "pay_amount") = [] := valueAt_single_of_ne (ownColumn_ne (by decide))
  have hquantityUnit : ∀ a, valueAt (fun k => if k = "unit_price".toList then a else [])
      (ownColumn cols "quantity") = [] := valueAt_single_of_ne (ownColumn_ne (by decide))
  by_cases hunit : "unit_price".toList ∈ cols
  · -- The unit price alone decides about the amount, so it must be the assigned column.
    have hassigned : assigned = some "unit_price".toList := by
      by_contra hne
      have hamount : ∀ a, lib.toFloat a 0 = lib.toFloat [] 0 := by
        intro a
        have ha := h fun k => if k = "unit_price".toList then a else []
        rw [valueAt_single_of_ne hne, payAmount_of_unit_price ((hrow _ _).trans (hpayUnit a)),
          quantity_default ((hrow _ _).trans (hquantityUnit a)), hrow, ownColumn_of_mem hunit,
          valueAt_single] at ha
        simpa using ha
      exact toFloat_one_ne_two hlib ((hamount _).trans (hamount _).symm)
    have hpay : "pay_amount".toList ∉ cols := by
      intro hmem
      have hamount : ∀ a amount, a ≠ [] → lib.float a = some amount →
          amount = lib.toFloat [] 0 := by
        intro a amount ha hfloat
        have hg := h fun k => if k = "pay_amount".toList then a else []
        have hcell : (row fun k => if k = "pay_amount".toList then a else []).get "pay_amount" =
            a := by
          rw [hrow, ownColumn_of_mem hmem, valueAt_single]
        rw [hassigned, valueAt_single_of_ne (by decide),
          payAmount_of_float (by rwa [hcell]) (by rwa [hcell])] at hg
        exact hg
      have hone := hamount _ 1 (by decide) hlib.float_one
      have htwo := hamount _ 2 (by decide) hlib.float_two
      exact absurd (hone.trans htwo.symm) (by decide)
    have hquantity : "quantity".toList ∉ cols := by
      intro hmem
      let g : Str → Str := fun k =>
        if k = "unit_price".toList then "1".toList
        else if k = "quantity".toList then "2".toList else []
      have hg := h g
      have hpayCell : (row g).get "pay_amount" = [] := by
        rw [hrow, ownColumn_of_notMem hpay, valueAt_none]
      have hunitCell : (row g).get "unit_price" = "1".toList := by
        rw [hrow, ownColumn_of_mem hunit]
        rfl
      have hquantityCell : (row g).get "quantity" = "2".toList := by
        rw [hrow, ownColumn_of_mem hmem]
        rfl
      have hassignedCell : valueAt g assigned = "1".toList := by
        rw [hassigned]
        rfl
      rw [payAmount_of_unit_price hpayCell, hunitCell, hquantityCell, hassignedCell,
        toFloat_one hlib, toInt_two hlib, one_mul, max_eq_right (by decide)] at hg
      exact absurd hg (by decide)
    refine ⟨?_, fun _ => ⟨hpay, hquantity⟩⟩
    rw [hassigned, ownColumn_of_notMem hpay, Option.none_or, ownColumn_of_mem hunit]
  · refine ⟨?_, fun hmem => absurd hmem hunit⟩
    rw [ownColumn_of_notMem hunit, Option.or_none]
    refine column_determined (fun v => lib.toFloat v 0) (toFloat_one_ne_two hlib) fun g => ?_
    rw [← h g, payAmount_of_pay_amount, hrow]
    rw [hrow, ownColumn_of_notMem hunit, valueAt_none]

end Price

/-! ### Tables with one record -/

section Follows

variable {headers : List Str} {stored : Option Mapping}

/-- A record whose cells are given by their headers. -/
def testRow (headers : List Str) (g : Str → Str) : UploadRow := csvRow headers (headers.map g)

lemma cell_testRow (g : Str → Str) (column : Option Str) :
    (testRow headers g).cell column = valueAt g (column.filter (columns headers).contains) :=
  cell_csvRow headers g column

lemma get_testRow (g : Str → Str) (name : String) :
    (testRow headers g).get name = valueAt g (ownColumn (columns headers) name) :=
  cell_testRow g (some name.toList)

/-- The import of one record, under a mapping that is followed. -/
lemma import_testRow (h : FollowsMapping lib headers stored) (g : Str → Str) (scope : Scope)
    (now : ℤ) : lib.importRows scope now [testRow headers g] .empty =
      lib.importRows scope now [(jobMapping lib headers stored).apply (testRow headers g)]
        .empty := by
  let file := UploadFile.csv headers [headers.map g]
  have hmapping : ∃ m, effectiveMapping lib stored file = some m := by
    cases stored with
    | some m => exact ⟨m, rfl⟩
    | none => exact ⟨_, rfl⟩
  obtain ⟨m, hm⟩ := hmapping
  have himport := h.imports file rfl m hm scope now .empty
  rw [apply_effectiveMapping rfl hm] at himport
  exact himport

/-- A plain field that is observed in the tables has the column of its own name. -/
lemma plain_determined (h : FollowsMapping lib headers stored) {V : Type} {name : String}
    (hname : name ∈ plainFields) (value : Str → V) {a b : Str}
    (hab : value a ≠ value b) (observe : Database → Option V) (scope : Scope) (now : ℤ)
    (hobserve : ∀ row, observe (lib.importRows scope now [row] .empty) =
      some (value (row.get name))) :
    (jobMapping lib headers stored).column (columns headers) name =
      ownColumn (columns headers) name := by
  refine column_determined value hab fun g => ?_
  have himport := congrArg observe (import_testRow h g scope now)
  rw [hobserve, hobserve, get_apply _ _ name hname, get_testRow, cell_testRow] at himport
  exact Option.some_inj.mp himport

lemma safeId_digit (hlib : lib.TellsApart) (fallback : Str) :
    ∀ c ∈ ['1', '2'], lib.safeId [c] fallback = [c] := by
  intro c hc
  have hlower : lib.lower [c] = [c] := hlib.lower [c] (by
    rcases List.mem_pair.mp hc with rfl | rfl <;> decide)
  have hstrip : Text.strip [c] = [c] := by
    rcases List.mem_pair.mp hc with rfl | rfl <;> rfl
  have hunderscored : lib.underscored [c] = [c] := by
    rw [Library.underscored, List.map_singleton, if_pos (hlib.isalnum c hc)]
  have hcleaned : lib.cleaned [c] = [c] := by
    rw [Library.cleaned, hstrip, hlower, hunderscored]
    rcases List.mem_pair.mp hc with rfl | rfl <;> rfl
  have hvalue : orText [c] fallback = [c] := if_neg (List.cons_ne_nil c [])
  rw [Library.safeId, hvalue, hcleaned]
  exact if_neg (List.cons_ne_nil c [])

/-- Two ids that the tables tell apart. -/
lemma scopedId_one_ne_two (hlib : lib.TellsApart) (scope : Scope) (fallback : Str) :
    lib.scopedId scope (lib.safeId "1".toList fallback) ≠
      lib.scopedId scope (lib.safeId "2".toList fallback) := by
  have hone : lib.safeId "1".toList fallback = "1".toList :=
    safeId_digit hlib fallback '1' (by decide)
  have htwo : lib.safeId "2".toList fallback = "2".toList :=
    safeId_digit hlib fallback '2' (by decide)
  rw [hone, htwo]
  intro heq
  exact absurd (scopedId_inj lib scope (by decide) (by decide) heq) (by decide)

lemma parseDatetime_ne (hlib : lib.TellsApart) (fallback : ℤ) :
    lib.parseDatetime "2024/01/01".toList fallback ≠
      lib.parseDatetime "2024/01/02".toList fallback := by
  obtain ⟨s, hone, htwo⟩ := hlib.strptime
  have hstripOne : Text.strip "2024/01/01".toList = "2024/01/01".toList := by rfl
  have hstripTwo : Text.strip "2024/01/02".toList = "2024/01/02".toList := by rfl
  rw [Library.parseDatetime, if_neg (by decide), Library.parseDatetime, if_neg (by decide),
    hstripOne, hstripTwo, hone, htwo, Option.getD_some, Option.getD_some]
  omega

/-- All plain fields but the name of a product, which defaults to its id, and the refund flag. -/
lemma plain_of_follows (hlib : lib.TellsApart) (h : FollowsMapping lib headers stored)
    {name : String} (hname : name ∈ plainFields) (hproduct : name ≠ "product_name")
    (hrefund : name ≠ "refund_flag") :
    (jobMapping lib headers stored).column (columns headers) name =
      ownColumn (columns headers) name := by
  let scope : Scope := ⟨[], []⟩
  have htext : ∀ fallback, orText "1".toList fallback ≠ orText "2".toList fallback := by
    intro fallback
    change "1".toList ≠ "2".toList
    decide
  have hint : lib.toInt "1".toList 0 ≠ lib.toInt "2".toList 0 := by
    rw [toInt_one hlib, toInt_two hlib]
    decide
  have hmem := hname
  simp only [plainFields, List.mem_cons, List.not_mem_nil, or_false] at hmem
  rcases hmem with rfl | rfl | rfl | rfl | rfl | rfl | rfl | rfl | rfl | rfl | rfl | rfl | rfl | rfl
  · exact plain_determined h hname
      (fun v => lib.scopedId scope (lib.safeId v ("upload_order_".toList ++ fourDigits 1)))
      (scopedId_one_ne_two hlib scope _) (fun db => db.orders.head?.map (·.orderId)) scope 0
      fun _ => rfl
  · exact plain_determined h hname
      (fun v => lib.scopedId scope (lib.safeId v ("upload_customer_".toList ++ fourDigits 1)))
      (scopedId_one_ne_two hlib scope _) (fun db => db.orders.head?.map (·.customerId)) scope 0
      fun _ => rfl
  · exact plain_determined h hname (fun v => lib.parseDatetime v (0 - 3600 * (1 : ℕ)))
      (parseDatetime_ne hlib _) (fun db => db.orders.head?.map (·.purchaseTimestamp)) scope 0
      fun _ => rfl
  · exact plain_determined h hname (fun v => orText v "CSV 上传活动".toList) (htext _)
      (fun db => db.campaigns.head?.map (·.campaignName)) scope 0 fun _ => rfl
  · exact plain_determined h hname (fun v => orText v "未知城市".toList) (htext _)
      (fun db => db.customers.head?.map (·.city)) scope 0 fun _ => rfl
  · exact absurd rfl hproduct
  · exact plain_determined h hname (fun v => orText v "uploaded".toList) (htext _)
      (fun db => db.products.head?.map (·.categoryNameEn)) scope 0 fun _ => rfl
  · exact plain_determined h hname (fun v => lib.toInt v 0) hint
      (fun db => db.inventory.head?.map (·.stock)) scope 0 fun _ => rfl
  · exact plain_determined h hname (fun v => lib.toInt v 0) hint
      (fun db => db.inventory.head?.map (·.safetyStock)) scope 0 fun _ => rfl
  · exact plain_determined h hname (fun v => lib.toInt v 0) hint
      (fun db => db.traffic.head?.map (·.visitors)) scope 0 fun _ => rfl
  · exact plain_determined h hname (fun v => lib.toInt v 0) hint
      (fun db => db.traffic.head?.map (·.conversions)) scope 0 fun _ => rfl
  · exact plain_determined h hname (fun v => orText v "CSV 上传".toList) (htext _)
      (fun db => db.campaigns.head?.map (·.channel)) scope 0 fun _ => rfl
  · exact plain_determined h hname (fun v => lib.toFloat v 0) (toFloat_one_ne_two hlib)
      (fun db => db.campaignStats.head?.map (·.spend)) scope 0 fun _ => rfl
  · exact absurd rfl hrefund

/-- The id of a product is longer than a digit. -/
lemma scopedId_ne_digit (lib : Library) (scope : Scope) (id : Str) (c : Char) (hc : c ≠ '_') :
    lib.scopedId scope id ≠ [c] := by
  intro heq
  have hlength := scopePrefix_length lib scope
  have hmem : '_' ∈ lib.scopedId scope id := by
    rw [Library.scopedId, List.take_append, List.mem_append]
    right
    rw [List.mem_take_iff_getElem]
    exact ⟨0, by rw [List.length_cons]; omega, rfl⟩
  rw [heq, List.mem_singleton] at hmem
  exact hc hmem.symm

/-- The name of a product, which defaults to its id. -/
lemma product_name_of_follows (h : FollowsMapping lib headers stored) :
    (jobMapping lib headers stored).column (columns headers) "product_name" =
      ownColumn (columns headers) "product_name" := by
  let scope : Scope := ⟨[], []⟩
  let productId : UploadRow → Str := fun row => lib.scopedId scope (lib.sourceProductId 1 row)
  have hvalue : ∀ g, orText (valueAt g (ownColumn (columns headers) "product_name"))
      (productId (testRow headers g)) = orText (valueAt g
        ((jobMapping lib headers stored).column (columns headers) "product_name"))
      (productId (testRow headers g)) := by
    intro g
    have himport := import_testRow h g scope 0
    have hid : productId (testRow headers g) =
        productId ((jobMapping lib headers stored).apply (testRow headers g)) :=
      Option.some_inj.mp (congrArg (fun db => db.products.head?.map (·.productId)) himport)
    have hname : orText ((testRow headers g).get "product_name") (productId (testRow headers g)) =
        orText (((jobMapping lib headers stored).apply (testRow headers g)).get "product_name")
          (productId ((jobMapping lib headers stored).apply (testRow headers g))) :=
      Option.some_inj.mp (congrArg (fun db => db.products.head?.map (·.categoryName)) himport)
    rw [get_apply _ _ "product_name" (by decide), get_testRow, cell_testRow, ← hid] at hname
    exact hname
  by_cases hmem : "product_name".toList ∈ columns headers
  · rw [ownColumn_of_mem hmem] at hvalue ⊢
    by_contra hne
    have hid : ∀ a, productId (testRow headers fun k =>
        if k = "product_name".toList then a else []) =
          lib.scopedId scope (lib.safeId [] ("upload_product_".toList ++ fourDigits 1)) := by
      intro a
      simp only [productId, Library.sourceProductId, get_testRow]
      rw [valueAt_single_of_ne (ownColumn_ne (by decide)),
        valueAt_single_of_ne (ownColumn_ne (by decide))]
      rfl
    have hsame : ∀ a, a ≠ [] → a =
        lib.scopedId scope (lib.safeId [] ("upload_product_".toList ++ fourDigits 1)) := by
      intro a ha
      have hg := hvalue fun k => if k = "product_name".toList then a else []
      rw [valueAt_single, valueAt_single_of_ne hne, hid, orText, if_neg ha] at hg
      exact hg
    exact absurd ((hsame "1".toList (by decide)).trans (hsame "2".toList (by decide)).symm)
      (by decide)
  · rw [ownColumn_of_notMem hmem] at hvalue ⊢
    cases hassigned : (jobMapping lib headers stored).column (columns headers) "product_name" with
    | none => rfl
    | some c =>
      have hg := hvalue fun _ => "1".toList
      rw [hassigned] at hg
      exact absurd hg (scopedId_ne_digit lib scope _ '1' (by decide))

/-! ### Refunds -/

/-- The refunds of a file with one row. -/
lemma refunds_import (scope : Scope) (now : ℤ) (row : UploadRow) :
    (lib.importRows scope now [row] .empty).refunds =
      if lib.refunded row = true then [lib.refundOf scope (lib.line scope now 1 row)] else [] := by
  change lib.refunds.upsertAll (([lib.line scope now 1 row].filter fun l =>
    lib.refunded l.row).map (lib.refundOf scope)) [] = _
  have hrow : (lib.line scope now 1 row).row = row := rfl
  by_cases h : lib.refunded row = true
  · rw [if_pos h, List.filter_cons_of_pos (by rwa [hrow])]
    rfl
  · rw [if_neg h, List.filter_cons_of_neg (by rwa [hrow])]
    rfl

/-- `refund_flag` as the importer reads it. -/
lemma refunded_eq (row : UploadRow) : lib.refunded row = lib.refunded
    [("refund_flag".toList, row.get "refund_flag")] := rfl

lemma refunded_one (hlib : lib.TellsApart) :
    lib.refunded [("refund_flag".toList, "1".toList)] = true := by
  have hupper : lib.upper (Text.strip "1".toList) = "1".toList := hlib.upper _ (by decide)
  have hget : UploadRow.get [("refund_flag".toList, "1".toList)] "refund_flag" =
      "1".toList := rfl
  rw [Library.refunded, hget, hupper]
  rfl

lemma refunded_two (hlib : lib.TellsApart) :
    lib.refunded [("refund_flag".toList, "2".toList)] = false := by
  have hupper : lib.upper (Text.strip "2".toList) = "2".toList := hlib.upper _ (by decide)
  have hget : UploadRow.get [("refund_flag".toList, "2".toList)] "refund_flag" =
      "2".toList := rfl
  rw [Library.refunded, hget, hupper]
  rfl

lemma refund_flag_of_follows (hlib : lib.TellsApart) (h : FollowsMapping lib headers stored) :
    (jobMapping lib headers stored).column (columns headers) "refund_flag" =
      ownColumn (columns headers) "refund_flag" := by
  have hab : lib.refunded [("refund_flag".toList, "1".toList)] ≠
      lib.refunded [("refund_flag".toList, "2".toList)] := by
    rw [refunded_one hlib, refunded_two hlib]
    decide
  refine plain_determined h (by decide) (fun v => lib.refunded [("refund_flag".toList, v)]) hab
    (fun db => some !db.refunds.isEmpty) ⟨[], []⟩ 0 fun row => ?_
  rw [refunds_import, ← refunded_eq]
  cases lib.refunded row <;> rfl

/-- The fields of a refund, where there can be one. -/
lemma refund_of_follows (hlib : lib.TellsApart) (h : FollowsMapping lib headers stored)
    (hflag : "refund_flag".toList ∈ columns headers) {V : Type} {name : String}
    (hname : name ∈ ["refund_amount", "refund_reason"]) (value : Str → V)
    (hab : value "1".toList ≠ value "2".toList) (hone : value [] ≠ value "1".toList)
    (observe : Refund → V)
    (hobserve : ∀ row, observe (lib.refundOf ⟨[], []⟩ (lib.line ⟨[], []⟩ 0 1 row)) =
      value (row.get name)) :
    (jobMapping lib headers stored).column (columns headers) name =
      ownColumn (columns headers) name := by
  have hother : name.toList ≠ "refund_flag".toList ∧
      ∀ row, ((jobMapping lib headers stored).apply row).get name =
        row.cell ((jobMapping lib headers stored).source name) := by
    rcases List.mem_pair.mp hname with rfl | rfl
    · exact ⟨by decide, fun _ => rfl⟩
    · exact ⟨by decide, fun _ => rfl⟩
  refine column_determined_beside value hab hone (ownColumn_ne hother.1) fun g hg => ?_
  have hread : lib.refunded (testRow headers g) = true := by
    rw [refunded_eq, get_testRow, ownColumn_of_mem hflag]
    change lib.refunded [("refund_flag".toList, g "refund_flag".toList)] = true
    rw [hg, refunded_one hlib]
  have happlied :
      lib.refunded ((jobMapping lib headers stored).apply (testRow headers g)) = true := by
    rw [refunded_eq, get_apply _ _ "refund_flag" (by decide), cell_testRow]
    have hcolumn := refund_flag_of_follows hlib h
    rw [Mapping.column] at hcolumn
    rw [hcolumn, ← get_testRow, ← refunded_eq, hread]
  have himport := congrArg (fun db => db.refunds) (import_testRow h g ⟨[], []⟩ 0)
  simp only [refunds_import, if_pos hread, if_pos happlied] at himport
  have hrefund := congrArg observe (List.cons.inj himport).1
  rw [hobserve, hobserve, hother.2, get_testRow, cell_testRow] at hrefund
  exact hrefund

lemma product_of_follows (hlib : lib.TellsApart) (h : FollowsMapping lib headers stored) :
    (jobMapping lib headers stored).column (columns headers) "product_id" =
      (ownColumn (columns headers) "product_id").or (ownColumn (columns headers) "sku_code") ∧
    (ownColumn (columns headers) "product_id" = none ∨
      ownColumn (columns headers) "sku_code" = none) := by
  let value : Str → Str := fun v =>
    lib.scopedId ⟨[], []⟩ (lib.safeId v ("upload_product_".toList ++ fourDigits 1))
  have hvalue : value "1".toList ≠ value "2".toList := scopedId_one_ne_two hlib ⟨[], []⟩ _
  refine product_determined value (by decide) hvalue (by decide) (by decide)
    (ownColumn_cases _ "product_id") (ownColumn_cases _ "sku_code") fun g => ?_
  have himport := congrArg (fun db => db.products.head?.map (·.productId))
    (import_testRow h g ⟨[], []⟩ 0)
  have hid : value (orText ((testRow headers g).get "product_id")
      ((testRow headers g).get "sku_code")) =
      value (orText (((jobMapping lib headers stored).apply (testRow headers g)).get "product_id")
        (((jobMapping lib headers stored).apply (testRow headers g)).get "sku_code")) :=
    Option.some_inj.mp himport
  rw [product_apply, get_testRow, get_testRow, cell_testRow] at hid
  exact hid

lemma price_of_follows (hlib : lib.TellsApart) (h : FollowsMapping lib headers stored) :
    (jobMapping lib headers stored).column (columns headers) "price" =
      (ownColumn (columns headers) "pay_amount").or (ownColumn (columns headers) "unit_price") ∧
    ("unit_price".toList ∈ columns headers →
      "pay_amount".toList ∉ columns headers ∧ "quantity".toList ∉ columns headers) := by
  refine price_determined hlib get_testRow fun g => ?_
  have himport := congrArg (fun db => db.orderItems.head?.map (·.price))
    (import_testRow h g ⟨[], []⟩ 0)
  have hprice : lib.payAmount (testRow headers g) =
      lib.payAmount ((jobMapping lib headers stored).apply (testRow headers g)) :=
    Option.some_inj.mp himport
  rw [payAmount_apply, cell_testRow] at hprice
  exact hprice

/-- A mapping that is followed assigns the columns that are read. -/
lemma assignsReadColumns_of_follows (hlib : lib.TellsApart)
    (h : FollowsMapping lib headers stored) :
    AssignsReadColumns (columns headers) (jobMapping lib headers stored) := by
  obtain ⟨hproduct, halone⟩ := product_of_follows hlib h
  obtain ⟨hprice, hpriceAlone⟩ := price_of_follows hlib h
  refine ⟨?_, hproduct, ?_, hprice, hpriceAlone, ?_⟩
  · intro name hname
    by_cases hproductName : name = "product_name"
    · rw [hproductName]
      exact product_name_of_follows h
    by_cases hflag : name = "refund_flag"
    · rw [hflag]
      exact refund_flag_of_follows hlib h
    exact plain_of_follows hlib h hname hproductName hflag
  · intro hmem hsku
    rw [ownColumn_of_mem hmem, ownColumn_of_mem hsku] at halone
    rcases halone with hnone | hnone <;> cases hnone
  · intro hflag name hname
    rcases List.mem_pair.mp hname with rfl | rfl
    · refine refund_of_follows hlib h hflag hname (fun v => lib.toFloat v 0)
        (toFloat_one_ne_two hlib) ?_ (·.refundAmount) fun _ => rfl
      have hnil : lib.toFloat [] 0 = 0 := rfl
      rw [hnil, toFloat_one hlib]
      decide
    · exact refund_of_follows hlib h hflag hname (fun v => orText v "未填写".toList)
        (by decide) (by decide) (·.refundReason) fun _ => rfl

/-- A mapping that assigns the columns that are read is followed. -/
lemma follows_of_assignsReadColumns (hlib : lib.TellsApart)
    (h : AssignsReadColumns (columns headers) (jobMapping lib headers stored)) :
    FollowsMapping lib headers stored where
  preview file _ := readUploadRows_isPrefix file (some 20)
  imports file hfile m hm scope now db := by
    have hsame : ∀ row ∈ file.readUploadRows none, SameValues lib row (m.apply row) := by
      intro row hrow
      rw [apply_effectiveMapping hfile hm]
      refine sameValues_apply hlib ?_ hrow
      rwa [hfile]
    rw [Library.importRows, Library.importRows, batch_congr hsame]

/-- Tables with mappings that are followed give the rows that their mappings read. -/
lemma renamingInvariant_of_follows {headers' : List Str} {stored' : Option Mapping}
    (hlib : lib.TellsApart)
    (h : AssignsReadColumns (columns headers) (jobMapping lib headers stored))
    (h' : AssignsReadColumns (columns headers') (jobMapping lib headers' stored')) :
    RenamingInvariant lib headers (jobMapping lib headers stored) headers'
      (jobMapping lib headers' stored') := by
  intro records hsame scope now db
  have hread : ∀ headers stored,
      AssignsReadColumns (columns headers) (jobMapping lib headers stored) →
        lib.importRows scope now (records.map (csvRow headers)) db =
          lib.importRows scope now
            ((records.map (csvRow headers)).map (jobMapping lib headers stored).apply) db := by
    intro headers stored hassigns
    have hrows : ∀ row ∈ records.map (csvRow headers),
        SameValues lib row ((jobMapping lib headers stored).apply row) := fun row hrow =>
      sameValues_apply_csv hlib hassigns hrow
    rw [Library.importRows, Library.importRows, batch_congr hrows]
  rw [hread headers stored h, hread headers' stored' h', List.map_map, List.map_map]
  congr 1
  exact List.map_congr_left hsame

/-- The import of a table follows its mapping exactly when the mapping assigns the columns with the
names that are fixed in the importer; for tables and mappings of this kind, other header names with
a mapping that makes up for them give the same rows. -/
theorem followsMapping_iff (lib : Library) (hlib : lib.TellsApart) (headers : List Str)
    (stored : Option Mapping) :
    (FollowsMapping lib headers stored ↔
      AssignsReadColumns (columns headers) (jobMapping lib headers stored)) ∧
    ∀ headers' stored', FollowsMapping lib headers stored → FollowsMapping lib headers' stored' →
      RenamingInvariant lib headers (jobMapping lib headers stored) headers'
        (jobMapping lib headers' stored') :=
  ⟨⟨assignsReadColumns_of_follows hlib, follows_of_assignsReadColumns hlib⟩,
    fun _ _ h h' => renamingInvariant_of_follows hlib (assignsReadColumns_of_follows hlib h)
      (assignsReadColumns_of_follows hlib h')⟩

end Follows

/-- The sample with two dates. -/
def Library.sampleDates : Library :=
  { Library.sample with
    strptime := fun text =>
      if text = "2024/01/01".toList then some 1704067200
      else if text = "2024/01/02".toList then some 1704153600
      else none }

/-- The columns of three fields, which the preview guesses right. -/
theorem followsMapping_guessed :
    FollowsMapping .sampleDates ["order_id".toList, "sku_code".toList, "pay_amount".toList]
      none := by
  have hlib : Library.sampleDates.TellsApart := by
    refine ⟨?_, ?_, ?_, ?_, ?_, 1704067200, ?_, ?_⟩
    · decide +kernel
    · intro text h
      rcases List.mem_cons.mp h with rfl | h
      · rfl
      · rcases List.mem_pair.mp h with rfl | rfl <;> rfl
    · intro c h
      rcases List.mem_pair.mp h with rfl | rfl <;> rfl
    all_goals decide +kernel
  refine (followsMapping_iff .sampleDates hlib
    ["order_id".toList, "sku_code".toList, "pay_amount".toList] none).1.mpr ⟨?_, ?_, ?_, ?_, ?_, ?_⟩
  all_goals decide +kernel

/-- With other header names the importer generates ids and writes the amount 0, although the preview
reports, and a stored mapping says, which columns to take. -/
theorem renamed_columns_ignored :
    ¬ FollowsMapping .sample ["order_no".toList, "sku".toList, "amount".toList] none ∧
    ¬ FollowsMapping .sample ["order_no".toList, "sku".toList, "amount".toList]
      (some [("order_id".toList, "order_no".toList), ("product_id".toList, "sku".toList),
        ("price".toList, "amount".toList)]) := by
  constructor
  · intro h
    have himport := h.imports (.csv _ [["1".toList, "a".toList, "10".toList]]) rfl _ rfl
      sampleScope 0 .empty
    revert himport
    decide +kernel
  · intro h
    have himport := h.imports (.csv _ [["1".toList, "a".toList, "10".toList]]) rfl _ rfl
      sampleScope 0 .empty
    revert himport
    decide +kernel

end EcommerceAgent.Imports
