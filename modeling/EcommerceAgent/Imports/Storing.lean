/-
# What the columns hold of an import

`importRows` stores what Python computes.  The statements of `import_uploaded_csv_data` run one
after the other, each in a transaction of its own, and the server looks at every value: an amount is
rounded to the two decimals of its column, a text that is too long or a number that is too large
makes the statement fail, and the import ends there.  Before, the row loop ends with an
`OverflowError` where a time leaves the range of `datetime`.  Python's float arithmetic is a
parameter.
-/
import EcommerceAgent.Imports.Importer

open EcommerceAgent.Lib

namespace EcommerceAgent.Imports

/-! ### Steps that may be refused -/

section Steps

variable {ι σ : Type} (accepts : ι → Bool) (effect : ι → σ → σ)

/-- Steps one after the other, up to the first one that is refused; whether all are accepted, and
the state that is left. -/
def performAll : List ι → σ → Bool × σ
  | [], s => (true, s)
  | i :: steps, s => if accepts i then performAll steps (effect i s) else (false, s)

variable {accepts effect} {α : Type} {f : σ → α}

lemma performAll_frame {steps : List ι} (h : ∀ i ∈ steps, ∀ s, f (effect i s) = f s) (s : σ) :
    f (performAll accepts effect steps s).2 = f s := by
  induction steps generalizing s with
  | nil => rfl
  | cons i steps ih =>
    rw [List.forall_mem_cons] at h
    rw [performAll]
    split
    · rw [ih h.2, h.1]
    · rfl

lemma performAll_append (before after : List ι) (s : σ) :
    performAll accepts effect (before ++ after) s =
      if before.all accepts then
        performAll accepts effect after (performAll accepts effect before s).2
      else performAll accepts effect before s := by
  induction before generalizing s with
  | nil => rfl
  | cons i before ih =>
    rw [List.cons_append, performAll, performAll, List.all_cons]
    by_cases hi : accepts i
    · simp only [hi, Bool.true_and]
      exact ih _
    · simp [hi]

/-- What only one of the steps changes. -/
lemma performAll_field {g : α → α} {before after : List ι} {i : ι}
    (hbefore : ∀ j ∈ before, ∀ s, f (effect j s) = f s) (hi : ∀ s, f (effect i s) = g (f s))
    (hafter : ∀ j ∈ after, ∀ s, f (effect j s) = f s) (s : σ) :
    f (performAll accepts effect (before ++ i :: after) s).2 =
      if before.all accepts && accepts i then g (f s) else f s := by
  have hfirst : f (performAll accepts effect before s).2 = f s := performAll_frame hbefore s
  rw [performAll_append]
  by_cases hb : before.all accepts
  · rw [if_pos hb, performAll, hb, Bool.true_and]
    split
    · rw [performAll_frame hafter, hi, hfirst]
    · exact hfirst
  · rw [if_neg hb, Bool.not_eq_true _ |>.mp hb, Bool.false_and]
    exact hfirst

/-- Steps that are all accepted. -/
lemma performAll_of_all {steps : List ι} (h : steps.all accepts) (s : σ) :
    performAll accepts effect steps s = (true, steps.foldl (fun s i => effect i s) s) := by
  induction steps generalizing s with
  | nil => rfl
  | cons i steps ih =>
    rw [List.all_cons, Bool.and_eq_true] at h
    rw [performAll, if_pos h.1, ih h.2, List.foldl_cons]

end Steps

/-! ### Columns -/

/-- A value for a column of `schema.sql`; every amount has the type `DECIMAL(12,2)`. -/
inductive Cell
  | varchar (size : ℕ) (text : Str)
  | int (n : ℤ)
  | decimal (x : ℚ)
  | datetime (seconds : ℤ)

/-- An amount as the server stores it: with two decimals, rounded half away from zero. -/
def roundMoney (x : ℚ) : ℚ :=
  if 0 ≤ x then (x * 100 + 1 / 2).floor / 100 else -((-x * 100 + 1 / 2).floor / 100)

/-- The server's column type for times, whose supported range begins with the year 1000. -/
structure Server where
  takesTime : ℤ → Bool

/-- The server takes the value in strict mode; blanks at the end do not make a text too long. -/
def Cell.fits (server : Server) : Cell → Bool
  | varchar size text => (text.drop size).all (· == ' ')
  | int n => -2147483648 ≤ n ∧ n ≤ 2147483647
  | decimal x => |roundMoney x| < 10000000000
  | datetime seconds => server.takesTime seconds

/-- The columns of a scope. -/
def Scope.cells (scope : Scope) : List Cell :=
  [.varchar 64 scope.tenantId, .varchar 64 scope.shopId]

/-- The ids as they are stored. -/
def Scope.stored (scope : Scope) : Scope := ⟨scope.tenantId.take 64, scope.shopId.take 64⟩

def Customer.cells (r : Customer) : List Cell :=
  r.scope.cells ++ [.varchar 64 r.customerId, .varchar 64 r.customerUniqueId, .int r.zipCodePrefix,
    .varchar 128 r.city, .varchar 32 r.state]

def Customer.stored (r : Customer) : Customer :=
  { r with scope := r.scope.stored, city := r.city.take 128 }

def Seller.cells (r : Seller) : List Cell := r.scope.cells ++ [.varchar 64 r.sellerId]

def Seller.stored (r : Seller) : Seller := { r with scope := r.scope.stored }

def Product.cells (r : Product) : List Cell :=
  r.scope.cells ++ [.varchar 64 r.productId, .varchar 128 r.categoryName,
    .varchar 128 r.categoryNameEn, .int r.productNameLength]

def Product.stored (r : Product) : Product :=
  { r with
    scope := r.scope.stored
    categoryName := r.categoryName.take 128
    categoryNameEn := r.categoryNameEn.take 128 }

def Inventory.cells (r : Inventory) : List Cell :=
  r.scope.cells ++ [.varchar 64 r.productId, .int r.stock, .int r.safetyStock,
    .varchar 64 r.warehouse, .datetime r.updatedAt]

def Inventory.stored (r : Inventory) : Inventory := { r with scope := r.scope.stored }

def Order.cells (r : Order) : List Cell :=
  r.scope.cells ++ [.varchar 64 r.orderId, .varchar 64 r.customerId, .varchar 32 r.orderStatus,
    .datetime r.purchaseTimestamp, .datetime r.approvedAt, .datetime r.deliveredCarrierDate,
    .datetime r.deliveredCustomerDate, .datetime r.estimatedDeliveryDate]

def Order.stored (r : Order) : Order := { r with scope := r.scope.stored }

def OrderItem.cells (r : OrderItem) : List Cell :=
  r.scope.cells ++ [.varchar 64 r.orderId, .int r.orderItemId, .varchar 64 r.productId,
    .varchar 64 r.sellerId, .datetime r.shippingLimitDate, .decimal r.price,
    .decimal r.freightValue]

def OrderItem.stored (r : OrderItem) : OrderItem :=
  { r with
    scope := r.scope.stored
    price := roundMoney r.price
    freightValue := roundMoney r.freightValue }

def Payment.cells (r : Payment) : List Cell :=
  r.scope.cells ++ [.varchar 64 r.orderId, .int r.paymentSequential, .varchar 64 r.paymentType,
    .decimal r.paymentValue]

def Payment.stored (r : Payment) : Payment :=
  { r with scope := r.scope.stored, paymentValue := roundMoney r.paymentValue }

def Traffic.cells (r : Traffic) : List Cell :=
  r.scope.cells ++ [.datetime (r.statDate * 86400), .varchar 64 r.productId, .int r.views,
    .int r.visitors, .int r.addToCart, .int r.favorites, .int r.conversions]

def Traffic.stored (r : Traffic) : Traffic := { r with scope := r.scope.stored }

def Campaign.cells (r : Campaign) : List Cell :=
  r.scope.cells ++ [.varchar 64 r.campaignId, .varchar 128 r.campaignName, .varchar 64 r.channel,
    .datetime r.startTime, .datetime r.endTime, .decimal r.budget, .varchar 32 r.status]

def Campaign.stored (r : Campaign) : Campaign :=
  { r with
    scope := r.scope.stored
    campaignName := r.campaignName.take 128
    channel := r.channel.take 64
    budget := roundMoney r.budget }

def CampaignStat.cells (r : CampaignStat) : List Cell :=
  r.scope.cells ++ [.varchar 64 r.campaignId, .varchar 64 r.productId, .int r.impressions,
    .int r.clicks, .int r.ordersCount, .decimal r.revenue, .decimal r.spend]

def CampaignStat.stored (r : CampaignStat) : CampaignStat :=
  { r with
    scope := r.scope.stored
    revenue := roundMoney r.revenue
    spend := roundMoney r.spend }

def Refund.cells (r : Refund) : List Cell :=
  r.scope.cells ++ [.varchar 64 r.refundId, .varchar 64 r.orderId, .varchar 64 r.productId,
    .datetime r.refundTime, .decimal r.refundAmount, .varchar 128 r.refundReason,
    .varchar 32 r.refundStatus]

def Refund.stored (r : Refund) : Refund :=
  { r with
    scope := r.scope.stored
    refundAmount := roundMoney r.refundAmount
    refundReason := r.refundReason.take 128 }

/-! ### The import -/

/-- Python's `*` and `+` of floats, which are given by the decimal numbers that `repr` shows. -/
structure Floats where
  times : ℚ → ℚ → ℚ
  plus : ℚ → ℚ → ℚ

/-- The statement on `sellers`, the row loop, and the other statements. -/
inductive ImportStep
  | sellers | rowLoop | customers | products | inventory | orders | orderItems | payments | traffic
  | campaigns | campaignStats | refunds
deriving DecidableEq

/-- The steps in their order. -/
def ImportStep.all : List ImportStep :=
  [.sellers, .rowLoop, .customers, .products, .inventory, .orders, .orderItems, .payments,
    .traffic, .campaigns, .campaignStats, .refunds]

/-- The times that the row loop makes of a line are between the years 1 and 9999; they are counted
from the beginning of the year 1. -/
def Line.datable (now : ℤ) (l : Line) : Bool :=
  0 ≤ now - 3600 * l.index ∧ 0 ≤ l.orderTime - 86400 ∧ l.orderTime + 7 * 86400 < 3652059 * 86400

namespace Library

variable (lib : Library) (server : Server) (floats : Floats) (scope : Scope) (now : ℤ)
  (rows : List UploadRow)

/-- `pay_amount` of a row, in floats. -/
def floatPayAmount (row : UploadRow) : ℚ :=
  let unitPrice := lib.toFloat (row.get "unit_price") (lib.toFloat (row.get "pay_amount") 0)
  let quantity := max 1 (lib.toInt (row.get "quantity") 1)
  lib.toFloat (row.get "pay_amount") (floats.times unitPrice quantity)

/-- The lines of an upload, in floats. -/
def floatLines : List Line :=
  (lib.lines scope now rows).map fun l => { l with payAmount := lib.floatPayAmount floats l.row }

/-- `payments`, in floats. -/
def floatPaymentOf (l : Line) : Payment :=
  { paymentOf scope l with paymentValue := floats.plus l.payAmount 8 }

/-- The entry of `campaigns`, in floats. -/
def floatCampaignOf (l : Line) : Campaign :=
  { lib.campaignOf scope l with
    budget := max 1000 (floats.times (lib.toFloat (l.row.get "ad_spend") 0) 10) }

/-- The lists and dictionaries that the row loop fills, in floats. -/
def floatBatch : Batch :=
  let lines := lib.floatLines floats scope now rows
  { lib.batch scope now rows with
    orderItems := lines.map (lib.orderItemOf scope)
    payments := lines.map (floatPaymentOf floats scope)
    campaigns := dictValues Campaign.campaignId (lines.map (lib.floatCampaignOf floats scope))
    campaignStats := dictValues (fun r => (r.campaignId, r.productId))
      (lines.map (lib.campaignStatOf scope)) }

/-- The step does not raise. -/
def accepts (step : ImportStep) : Bool :=
  let batch := lib.floatBatch floats scope now rows
  let fit {ρ : Type} (cells : ρ → List Cell) (entries : List ρ) : Bool :=
    entries.all fun r => (cells r).all (Cell.fits server)
  match step with
  | .sellers => fit Seller.cells batch.sellers
  | .rowLoop => (lib.lines scope now rows).all (Line.datable now)
  | .customers => fit Customer.cells batch.customers
  | .products => fit Product.cells batch.products
  | .inventory => fit Inventory.cells batch.inventory
  | .orders => fit Order.cells batch.orders
  | .orderItems => fit OrderItem.cells batch.orderItems
  | .payments => fit Payment.cells batch.payments
  | .traffic => fit Traffic.cells batch.traffic
  | .campaigns => fit Campaign.cells batch.campaigns
  | .campaignStats => fit CampaignStat.cells batch.campaignStats
  | .refunds => fit Refund.cells batch.refunds

/-- What the step does to the tables. -/
def effect (step : ImportStep) (db : Database) : Database :=
  let batch := lib.floatBatch floats scope now rows
  match step with
  | .sellers =>
    { db with sellers := lib.sellers.upsertAll (batch.sellers.map Seller.stored) db.sellers }
  | .rowLoop => db
  | .customers =>
    { db with
      customers := lib.customers.upsertAll (batch.customers.map Customer.stored) db.customers }
  | .products =>
    { db with products := lib.products.upsertAll (batch.products.map Product.stored) db.products }
  | .inventory =>
    { db with
      inventory := lib.inventory.upsertAll (batch.inventory.map Inventory.stored) db.inventory }
  | .orders => { db with orders := lib.orders.upsertAll (batch.orders.map Order.stored) db.orders }
  | .orderItems =>
    { db with
      orderItems :=
        lib.orderItems.upsertAll (batch.orderItems.map OrderItem.stored) db.orderItems }
  | .payments =>
    { db with payments := lib.payments.upsertAll (batch.payments.map Payment.stored) db.payments }
  | .traffic => { db with traffic := db.traffic ++ batch.traffic.map Traffic.stored }
  | .campaigns =>
    { db with
      campaigns := lib.campaigns.upsertAll (batch.campaigns.map Campaign.stored) db.campaigns }
  | .campaignStats =>
    { db with
      campaignStats := lib.campaignStats.upsertAll (batch.campaignStats.map CampaignStat.stored)
        db.campaignStats }
  | .refunds =>
    { db with refunds := lib.refunds.upsertAll (batch.refunds.map Refund.stored) db.refunds }

/-- `import_uploaded_csv_data` for the rows of the file: whether it returns, and the tables that it
leaves. -/
def importUploadedCsvData (db : Database) : Bool × Database :=
  performAll (lib.accepts server floats scope now rows) (lib.effect floats scope now rows)
    ImportStep.all db

/-- The import comes to the end of the step. -/
def reaches (step : ImportStep) : Bool :=
  (ImportStep.all.takeWhile (· ≠ step)).all (lib.accepts server floats scope now rows) &&
    lib.accepts server floats scope now rows step

end Library

variable {lib : Library} {server : Server} {floats : Floats} {scope : Scope} {now : ℤ}
  {rows : List UploadRow} {db : Database}

/-! ### What an import leaves -/

/-- What only one of the steps changes. -/
lemma field_import {α : Type} (i : ImportStep) (f : Database → α) {g : α → α}
    (hi : ∀ db, f (lib.effect floats scope now rows i db) = g (f db))
    (hothers : ∀ j, j ≠ i → ∀ db, f (lib.effect floats scope now rows j db) = f db)
    (db : Database) :
    f (lib.importUploadedCsvData server floats scope now rows db).2 =
      if lib.reaches server floats scope now rows i then g (f db) else f db := by
  have hsplit : ImportStep.all = ImportStep.all.takeWhile (· ≠ i) ++
      i :: (ImportStep.all.dropWhile (· ≠ i)).tail := by cases i <;> rfl
  have hbefore : ∀ j ∈ ImportStep.all.takeWhile (· ≠ i), j ≠ i := by cases i <;> decide
  have hafter : ∀ j ∈ (ImportStep.all.dropWhile (· ≠ i)).tail, j ≠ i := by cases i <;> decide
  rw [Library.importUploadedCsvData, hsplit]
  exact performAll_field (fun j hj => hothers j (hbefore j hj)) hi
    (fun j hj => hothers j (hafter j hj)) db

lemma orderItems_import (db : Database) :
    (lib.importUploadedCsvData server floats scope now rows db).2.orderItems =
      if lib.reaches server floats scope now rows .orderItems then
        lib.orderItems.upsertAll
          ((lib.floatBatch floats scope now rows).orderItems.map OrderItem.stored) db.orderItems
      else db.orderItems :=
  field_import .orderItems Database.orderItems (g := fun table => lib.orderItems.upsertAll _ table)
    (fun _ => rfl) (fun j hj _ => by cases j <;> first | rfl | exact absurd rfl hj) db

lemma payments_import (db : Database) :
    (lib.importUploadedCsvData server floats scope now rows db).2.payments =
      if lib.reaches server floats scope now rows .payments then
        lib.payments.upsertAll
          ((lib.floatBatch floats scope now rows).payments.map Payment.stored) db.payments
      else db.payments :=
  field_import .payments Database.payments (g := fun table => lib.payments.upsertAll _ table)
    (fun _ => rfl) (fun j hj _ => by cases j <;> first | rfl | exact absurd rfl hj) db

lemma campaignStats_import (db : Database) :
    (lib.importUploadedCsvData server floats scope now rows db).2.campaignStats =
      if lib.reaches server floats scope now rows .campaignStats then
        lib.campaignStats.upsertAll
          ((lib.floatBatch floats scope now rows).campaignStats.map CampaignStat.stored)
          db.campaignStats
      else db.campaignStats :=
  field_import .campaignStats Database.campaignStats
    (g := fun table => lib.campaignStats.upsertAll _ table)
    (fun _ => rfl) (fun j hj _ => by cases j <;> first | rfl | exact absurd rfl hj) db

/-- The floats compute without rounding. -/
def Floats.exact : Floats := ⟨(· * ·), (· + ·)⟩

lemma floatBatch_exact (lib : Library) (scope : Scope) (now : ℤ) (rows : List UploadRow) :
    lib.floatBatch .exact scope now rows = lib.batch scope now rows := by
  have hpay : ∀ row, lib.floatPayAmount .exact row = lib.payAmount row := fun _ => rfl
  have hlines : lib.floatLines .exact scope now rows = lib.lines scope now rows := by
    rw [Library.floatLines]
    refine (List.map_congr_left fun l hl => ?_).trans (List.map_id _)
    obtain ⟨entry, -, rfl⟩ := List.mem_map.mp hl
    rfl
  rw [Library.floatBatch, hlines]
  rfl

/-- The columns hold the entries as they are. -/
structure Batch.Exact (b : Batch) : Prop where
  sellers : b.sellers.map Seller.stored = b.sellers
  customers : b.customers.map Customer.stored = b.customers
  products : b.products.map Product.stored = b.products
  inventory : b.inventory.map Inventory.stored = b.inventory
  orders : b.orders.map Order.stored = b.orders
  orderItems : b.orderItems.map OrderItem.stored = b.orderItems
  payments : b.payments.map Payment.stored = b.payments
  traffic : b.traffic.map Traffic.stored = b.traffic
  campaigns : b.campaigns.map Campaign.stored = b.campaigns
  campaignStats : b.campaignStats.map CampaignStat.stored = b.campaignStats
  refunds : b.refunds.map Refund.stored = b.refunds

/-- An import whose statements succeed is `importRows`, where no value is rounded or cut. -/
theorem importUploadedCsvData_of_exact (h : (lib.batch scope now rows).Exact)
    (haccepts : ImportStep.all.all (lib.accepts server .exact scope now rows)) (db : Database) :
    lib.importUploadedCsvData server .exact scope now rows db =
      (true, lib.importRows scope now rows db) := by
  rw [Library.importUploadedCsvData, performAll_of_all haccepts]
  simp only [ImportStep.all, List.foldl_cons, List.foldl_nil, Library.effect, floatBatch_exact,
    h.sellers, h.customers, h.products, h.inventory, h.orders, h.orderItems, h.payments, h.traffic,
    h.campaigns, h.campaignStats, h.refunds]
  rfl

end EcommerceAgent.Imports
