/-
# What an import does to the money columns

Order items and payments always get the number 1, so that a second row with the same order id
replaces the amounts of the first one, and the statistics of a campaign keep one row for every
product.  The rows of a file whose amounts do not stay are listed by `lostRows`, and rounding takes
something off an amount with more than two decimals; an import whose statements succeed conserves
the value of the file exactly when that sums up to nothing.
-/
import EcommerceAgent.Imports.Storing
import Mathlib.Tactic.Ring
import Mathlib.Tactic.Linarith

open EcommerceAgent.Lib

namespace EcommerceAgent.Imports

variable (lib : Library)

/-- What `WHERE tenant_id=… AND shop_id=…` compares. -/
def Library.scopeKey (scope : Scope) : Str × Str :=
  (lib.collate scope.tenantId, lib.collate scope.shopId)

/-- The sum of a column over the rows that a report selects. -/
def Library.columnSum {ρ : Type} (scopeOf : ρ → Scope) (value : ρ → ℚ) (scope : Scope)
    (rows : List ρ) : ℚ :=
  Schema.ownedSum (fun r => lib.scopeKey (scopeOf r)) (lib.scopeKey scope) value rows

/-- The three tables with money columns have no rows of the shop. -/
structure Database.EmptyFor (db : Database) (scope : Scope) : Prop where
  orderItems : ∀ r ∈ db.orderItems, lib.scopeKey r.scope ≠ lib.scopeKey scope
  payments : ∀ r ∈ db.payments, lib.scopeKey r.scope ≠ lib.scopeKey scope
  campaignStats : ∀ r ∈ db.campaignStats, lib.scopeKey r.scope ≠ lib.scopeKey scope

/-- After the import every money column that the reports add up accounts for every row of the file
once. -/
structure Conserves (server : Server) (floats : Floats) (scope : Scope) (now : ℤ)
    (rows : List UploadRow) (db : Database) : Prop where
  price : lib.columnSum OrderItem.scope OrderItem.price scope
    (lib.importUploadedCsvData server floats scope now rows db).2.orderItems =
      (rows.map (lib.floatPayAmount floats)).sum
  payment : lib.columnSum Payment.scope Payment.paymentValue scope
    (lib.importUploadedCsvData server floats scope now rows db).2.payments =
      (rows.map (lib.floatPayAmount floats)).sum + 8 * rows.length
  revenue : lib.columnSum CampaignStat.scope CampaignStat.revenue scope
    (lib.importUploadedCsvData server floats scope now rows db).2.campaignStats =
      (rows.map (lib.floatPayAmount floats)).sum

/-- The entries of a batch that do not stay in the table: their key comes again later in the batch,
or a row of another shop has it. -/
def Library.lostRows {ρ κ : Type} [DecidableEq κ] (S : Schema ρ κ) (scopeOf : ρ → Scope)
    (scope : Scope) (table batch : List ρ) : List ρ :=
  Schema.lost (fun r => lib.scopeKey (scopeOf r)) (lib.scopeKey scope) S table batch

/-- The entries of a dictionary that are assigned again. -/
def overwritten {ρ κ : Type} [DecidableEq κ] (key : ρ → κ) (entries : List ρ) : List ρ :=
  Schema.lost (fun _ => ()) () (Schema.dict key) [] entries

namespace Library

variable (floats : Floats) (scope : Scope) (now : ℤ) (rows : List UploadRow) (db : Database)

/-- What `order_items` does not keep of the amounts: what rounding takes off, and the entries that
do not stay. -/
def priceLoss : ℚ :=
  (rows.map fun row =>
    lib.floatPayAmount floats row - roundMoney (lib.floatPayAmount floats row)).sum +
  ((lib.lostRows lib.orderItems OrderItem.scope scope db.orderItems
    ((lib.floatBatch floats scope now rows).orderItems.map OrderItem.stored)).map
      OrderItem.price).sum

/-- What `payments` does not keep of the amounts and the freight. -/
def paymentLoss : ℚ :=
  (rows.map fun row => lib.floatPayAmount floats row + 8 -
    roundMoney (floats.plus (lib.floatPayAmount floats row) 8)).sum +
  ((lib.lostRows lib.payments Payment.scope scope db.payments
    ((lib.floatBatch floats scope now rows).payments.map Payment.stored)).map
      Payment.paymentValue).sum

/-- What `campaign_product_stats` does not keep of the amounts; some entries do not even stay in the
dictionary. -/
def revenueLoss : ℚ :=
  (rows.map fun row =>
    lib.floatPayAmount floats row - roundMoney (lib.floatPayAmount floats row)).sum +
  ((overwritten (fun r => (r.campaignId, r.productId))
    ((lib.floatLines floats scope now rows).map (lib.campaignStatOf scope))).map
      fun r => roundMoney r.revenue).sum +
  ((lib.lostRows lib.campaignStats CampaignStat.scope scope db.campaignStats
    ((lib.floatBatch floats scope now rows).campaignStats.map CampaignStat.stored)).map
      CampaignStat.revenue).sum

end Library

variable {lib} {floats : Floats} {scope : Scope} {now : ℤ} {rows : List UploadRow} {db : Database}

/-! ### The amounts of a batch -/

/-- The sum of a column that is made of the amount of its line. -/
lemma sum_entries {ρ : Type} {entry : Line → ρ} {value : ρ → ℚ} {f : ℚ → ℚ}
    (h : ∀ l, value (entry l) = f l.payAmount) :
    (((lib.floatLines floats scope now rows).map entry).map value).sum =
      (rows.map fun row => f (lib.floatPayAmount floats row)).sum := by
  have hlines : (lib.floatLines floats scope now rows).map (value ∘ entry) =
      (rows.zipIdx 1).map fun entry => f (lib.floatPayAmount floats entry.1) := by
    simp only [Library.floatLines, Library.lines, List.map_map]
    exact List.map_congr_left fun _ _ => h _
  rw [List.map_map, hlines, ← Function.comp_def (fun row => f (lib.floatPayAmount floats row)),
    ← List.map_map, List.zipIdx_map_fst]

lemma sum_map_sub {α : Type} (f g : α → ℚ) (l : List α) :
    (l.map fun x => f x - g x).sum = (l.map f).sum - (l.map g).sum := by
  induction l with
  | nil => simp
  | cons x l ih =>
    simp only [List.map_cons, List.sum_cons, ih]
    ring

lemma sum_map_add_const {α : Type} (f : α → ℚ) (c : ℚ) (l : List α) :
    (l.map fun x => f x + c).sum = (l.map f).sum + c * l.length := by
  induction l with
  | nil => simp
  | cons x l ih =>
    simp only [List.map_cons, List.sum_cons, ih, List.length_cons]
    push_cast
    ring

/-! ### What stays of a batch -/

/-- A column of a table without rows of the shop gets the sum of the batch, less the amounts that do
not stay, if the import comes that far. -/
lemma columnSum_eq_iff (lib : Library) {scope : Scope} {ρ κ : Type} [DecidableEq κ] {S : Schema ρ κ}
    {scopeOf : ρ → Scope} (value : ρ → ℚ) {table batch table' : List ρ} {reached : Bool}
    {total loss : ℚ} (htable : table' = if reached then S.upsertAll batch table else table)
    (hscope : ∀ old new, scopeOf (S.update old new) = scopeOf old)
    (hvalue : ∀ old new, S.key old = S.key new → value (S.update old new) = value new)
    (hkeyed : S.Keyed table) (hempty : ∀ r ∈ table, lib.scopeKey (scopeOf r) ≠ lib.scopeKey scope)
    (hbatch : ∀ r ∈ batch, scopeOf r = scope)
    (hloss : (batch.map value).sum + loss =
      total + ((lib.lostRows S scopeOf scope table batch).map value).sum) :
    lib.columnSum scopeOf value scope table' = total ↔
      if reached then loss = 0 else total = 0 := by
  cases reached with
  | false =>
    have hnone : lib.columnSum scopeOf value scope table = 0 := by
      have hfilter : table.filter (fun r => lib.scopeKey (scopeOf r) = lib.scopeKey scope) = [] :=
        List.filter_eq_nil_iff.mpr fun r hr => by simpa using hempty r hr
      rw [Library.columnSum, Schema.ownedSum, hfilter]
      rfl
    rw [htable, if_neg Bool.false_ne_true, if_neg Bool.false_ne_true, hnone]
    exact eq_comm
  | true =>
    have hsum : lib.columnSum scopeOf value scope (S.upsertAll batch table) +
        ((lib.lostRows S scopeOf scope table batch).map value).sum = (batch.map value).sum :=
      Schema.ownedSum_upsertAll (fun old new => by rw [hscope]) hvalue hkeyed hempty
        fun r hr => by rw [hbatch r hr]
    rw [htable, if_pos rfl, if_pos rfl]
    constructor
    · intro h
      linarith only [h, hsum, hloss]
    · intro h
      linarith only [h, hsum, hloss]

/-- The values of a dictionary lack the entries that are assigned again. -/
lemma sum_dictValues {ρ κ : Type} [DecidableEq κ] (key : ρ → κ) (value : ρ → ℚ)
    (entries : List ρ) :
    ((dictValues key entries).map value).sum + ((overwritten key entries).map value).sum =
      (entries.map value).sum := by
  have hvalue : ∀ old new, (Schema.dict key).key old = (Schema.dict key).key new →
      value ((Schema.dict key).update old new) = value new := fun old new h =>
    congrArg value (if_pos h.symm)
  have hsum : Schema.sumWhere (fun _ => ()) () value (Schema.dict key) (fun _ => True)
        ((Schema.dict key).upsertAll entries []) + ((overwritten key entries).map value).sum =
      (entries.map value).sum +
        Schema.sumWhere (fun _ => ()) () value (Schema.dict key)
          (· ∉ entries.map (Schema.dict key).key) [] :=
    Schema.sumWhere_upsertAll (fun _ _ => rfl) hvalue (Schema.dict key).keyed_nil fun _ _ => rfl
  rw [← Schema.ownedSum_eq_sumWhere, Schema.sumWhere_of_none (by simp), add_zero] at hsum
  rw [← hsum, Schema.ownedSum]
  simp [dictValues]

/-! ### The losses -/

lemma loss_price (db : Database) :
    (((lib.floatBatch floats scope now rows).orderItems.map OrderItem.stored).map
      OrderItem.price).sum + lib.priceLoss floats scope now rows db =
      (rows.map (lib.floatPayAmount floats)).sum +
        ((lib.lostRows lib.orderItems OrderItem.scope scope db.orderItems
          ((lib.floatBatch floats scope now rows).orderItems.map OrderItem.stored)).map
            OrderItem.price).sum := by
  have hsum : (((lib.floatBatch floats scope now rows).orderItems.map OrderItem.stored).map
      OrderItem.price).sum =
        (rows.map fun row => roundMoney (lib.floatPayAmount floats row)).sum := by
    rw [List.map_map]
    exact sum_entries fun _ => rfl
  rw [hsum, Library.priceLoss, sum_map_sub]
  ring

lemma loss_payment (db : Database) :
    (((lib.floatBatch floats scope now rows).payments.map Payment.stored).map
      Payment.paymentValue).sum + lib.paymentLoss floats scope now rows db =
      (rows.map (lib.floatPayAmount floats)).sum + 8 * rows.length +
        ((lib.lostRows lib.payments Payment.scope scope db.payments
          ((lib.floatBatch floats scope now rows).payments.map Payment.stored)).map
            Payment.paymentValue).sum := by
  have hsum : (((lib.floatBatch floats scope now rows).payments.map Payment.stored).map
      Payment.paymentValue).sum =
        (rows.map fun row => roundMoney (floats.plus (lib.floatPayAmount floats row) 8)).sum := by
    rw [List.map_map]
    exact sum_entries (f := fun x => roundMoney (floats.plus x 8)) fun _ => rfl
  rw [hsum, Library.paymentLoss, sum_map_sub, sum_map_add_const]
  ring

lemma loss_revenue (db : Database) :
    (((lib.floatBatch floats scope now rows).campaignStats.map CampaignStat.stored).map
      CampaignStat.revenue).sum + lib.revenueLoss floats scope now rows db =
      (rows.map (lib.floatPayAmount floats)).sum +
        ((lib.lostRows lib.campaignStats CampaignStat.scope scope db.campaignStats
          ((lib.floatBatch floats scope now rows).campaignStats.map CampaignStat.stored)).map
            CampaignStat.revenue).sum := by
  have hdict := sum_dictValues (fun r : CampaignStat => (r.campaignId, r.productId))
    (fun r => roundMoney r.revenue)
    ((lib.floatLines floats scope now rows).map (lib.campaignStatOf scope))
  have hentries : (((lib.floatLines floats scope now rows).map (lib.campaignStatOf scope)).map
      fun r => roundMoney r.revenue).sum =
        (rows.map fun row => roundMoney (lib.floatPayAmount floats row)).sum :=
    sum_entries fun _ => rfl
  have hsum : (((lib.floatBatch floats scope now rows).campaignStats.map CampaignStat.stored).map
      CampaignStat.revenue).sum =
        ((dictValues (fun r : CampaignStat => (r.campaignId, r.productId))
          ((lib.floatLines floats scope now rows).map (lib.campaignStatOf scope))).map
            fun r => roundMoney r.revenue).sum := by
    rw [List.map_map]
    rfl
  rw [hsum, Library.revenueLoss, sum_map_sub]
  linarith only [hdict, hentries]

lemma Scope.stored_eq {scope : Scope} (htenant : scope.tenantId.length ≤ 64)
    (hshop : scope.shopId.length ≤ 64) : scope.stored = scope := by
  rw [Scope.stored, List.take_of_length_le htenant, List.take_of_length_le hshop]

/-- An import conserves the value of the file exactly when in each of the three tables the amounts
that it does not keep sum up to nothing, or the import does not come that far and the file is worth
nothing. -/
theorem conserves_iff (lib : Library) (server : Server) (floats : Floats) (scope : Scope) (now : ℤ)
    (rows : List UploadRow) (db : Database) (htenant : scope.tenantId.length ≤ 64)
    (hshop : scope.shopId.length ≤ 64) (hdb : db.Keyed lib) (hempty : db.EmptyFor lib scope) :
    Conserves lib server floats scope now rows db ↔
      (if lib.reaches server floats scope now rows .orderItems then
        lib.priceLoss floats scope now rows db = 0
      else (rows.map (lib.floatPayAmount floats)).sum = 0) ∧
      (if lib.reaches server floats scope now rows .payments then
        lib.paymentLoss floats scope now rows db = 0
      else (rows.map (lib.floatPayAmount floats)).sum + 8 * rows.length = 0) ∧
      (if lib.reaches server floats scope now rows .campaignStats then
        lib.revenueLoss floats scope now rows db = 0
      else (rows.map (lib.floatPayAmount floats)).sum = 0) := by
  have hstored := Scope.stored_eq htenant hshop
  have hitems : ∀ r ∈ (lib.floatBatch floats scope now rows).orderItems.map OrderItem.stored,
      r.scope = scope := by
    intro r hr
    obtain ⟨_, h, rfl⟩ := List.mem_map.mp hr
    obtain ⟨l, -, rfl⟩ := List.mem_map.mp h
    exact hstored
  have hpayments : ∀ r ∈ (lib.floatBatch floats scope now rows).payments.map Payment.stored,
      r.scope = scope := by
    intro r hr
    obtain ⟨_, h, rfl⟩ := List.mem_map.mp hr
    obtain ⟨l, -, rfl⟩ := List.mem_map.mp h
    exact hstored
  have hstats : ∀ r ∈ (lib.floatBatch floats scope now rows).campaignStats.map CampaignStat.stored,
      r.scope = scope := by
    intro r hr
    obtain ⟨_, h, rfl⟩ := List.mem_map.mp hr
    obtain ⟨l, -, rfl⟩ := List.mem_map.mp (mem_of_mem_dictValues h)
    exact hstored
  have hprice : lib.columnSum OrderItem.scope OrderItem.price scope
      (lib.importUploadedCsvData server floats scope now rows db).2.orderItems = _ ↔ _ :=
    columnSum_eq_iff lib OrderItem.price (orderItems_import db) (fun _ _ => rfl) (fun _ _ _ => rfl)
      hdb.orderItems hempty.orderItems hitems (loss_price db)
  have hpayment : lib.columnSum Payment.scope Payment.paymentValue scope
      (lib.importUploadedCsvData server floats scope now rows db).2.payments = _ ↔ _ :=
    columnSum_eq_iff lib Payment.paymentValue (payments_import db) (fun _ _ => rfl)
      (fun _ _ _ => rfl) hdb.payments hempty.payments hpayments (loss_payment db)
  have hrevenue : lib.columnSum CampaignStat.scope CampaignStat.revenue scope
      (lib.importUploadedCsvData server floats scope now rows db).2.campaignStats = _ ↔ _ :=
    columnSum_eq_iff lib CampaignStat.revenue (campaignStats_import db) (fun _ _ => rfl)
      (fun _ _ _ => rfl) hdb.campaignStats hempty.campaignStats hstats (loss_revenue db)
  rw [← hprice, ← hpayment, ← hrevenue]
  exact ⟨fun h => ⟨h.price, h.payment, h.revenue⟩, fun h => ⟨h.1, h.2.1, h.2.2⟩⟩

/-- The server of the examples takes every time. -/
def sampleServer : Server := ⟨fun _ => true⟩

/-- Noon of a day in the year 2026. -/
def sampleNow : ℤ := 739764 * 86400 + 43200

/-- The unique id of a customer with a UUID is too long for its column. -/
example : Library.sample.reaches sampleServer .exact
    ⟨"tenant_demo".toList, "default_shop".toList⟩ sampleNow
    [("customer_id".toList, "6f1c7f0e-7a0b-4a52-9a4e-3d9c0c7b2f11".toList) ::
      sampleRow "1" "a" "10"] .customers = false := by
  decide +kernel

/-- Two orders with one line each. -/
theorem conserves_two_orders : Conserves .sample sampleServer .exact sampleScope sampleNow
    [sampleRow "1" "a" "10", sampleRow "2" "b" "20"] .empty :=
  (conserves_iff .sample sampleServer .exact sampleScope sampleNow _ .empty (by decide) (by decide)
    (Database.keyed_empty _)
    ⟨by simp [Database.empty], by simp [Database.empty], by simp [Database.empty]⟩).mpr
    (by decide +kernel)

/-- Of an order with two lines only the amount of the second one is stored. -/
theorem two_lines_lose : ¬ Conserves .sample sampleServer .exact sampleScope sampleNow
    [sampleRow "1" "a" "10", sampleRow "1" "b" "20"] .empty := by
  intro h
  have hprice := h.price
  revert hprice
  decide +kernel

end EcommerceAgent.Imports
