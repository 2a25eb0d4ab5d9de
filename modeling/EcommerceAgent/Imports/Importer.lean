/-
# The importer of uploaded tables

`import_uploaded_csv_data` of `api/services/import_service.py` after the file has been read: every
row of the upload is spread over ten business tables under keys that are derived from its ids, from
the shop's prefix and from its position in the file.  Some of the rows go through Python
dictionaries first.  `importRows` follows imports whose statements succeed, with exact numbers; what
the columns hold of them, and which statements fail, is in `Storing`.  The columns that hold the
same constant in every row of a table, and the number that `traffic_stats` counts up, are left out.
-/
import EcommerceAgent.Lib.Text
import EcommerceAgent.Lib.Upsert
import Mathlib.Data.Rat.Defs
import Mathlib.Algebra.Order.Ring.Rat

open EcommerceAgent.Lib

namespace EcommerceAgent.Imports

/-- A Python string. -/
abbrev Str := List Char

/-- The library functions that the importer calls, and the collation of the primary keys. -/
structure Library where
  /-- `str.lower`. -/
  lower : Str → Str
  /-- `str.upper`. -/
  upper : Str → Str
  /-- `str.isalnum` of one character. -/
  isalnum : Char → Bool
  /-- `hashlib.sha1(text.encode("utf-8")).hexdigest()`. -/
  sha1 : Str → Str
  /-- `datetime.strptime` with the first format that fits, in seconds. -/
  strptime : Str → Option ℤ
  /-- `float`, as an exact number. -/
  float : Str → Option ℚ
  /-- The weights of a text in `utf8mb4_unicode_ci`; texts with the same weights are equal keys. -/
  collate : Str → Str

/-- A tenant's shop. -/
structure Scope where
  tenantId : Str
  shopId : Str
deriving DecidableEq, Repr

/-- A row of the upload, from its headers to its cells. -/
abbrev UploadRow := List (Str × Str)

/-- `row.get(field)`; the importer treats a missing cell and an empty one alike. -/
def UploadRow.get (row : UploadRow) (field : String) : Str := (row.lookup field.toList).getD []

/-- Python's `value or fallback`. -/
def orText (value fallback : Str) : Str := if value = [] then fallback else value

namespace Library

variable (lib : Library)

/-- `_parse_datetime`. -/
def parseDatetime (value : Str) (fallback : ℤ) : ℤ :=
  if value = [] then fallback else (lib.strptime (Text.strip value)).getD fallback

/-- `_float`. -/
def toFloat (value : Str) (fallback : ℚ) : ℚ :=
  if value = [] then fallback else (lib.float value).getD fallback

/-- `_int`. -/
def toInt (value : Str) (fallback : ℤ) : ℤ :=
  let number := lib.toFloat value fallback
  number.num.tdiv number.den

/-- Every character that is no letter and no digit becomes an underscore. -/
def underscored (text : Str) : Str := text.map fun c => if lib.isalnum c then c else '_'

/-- The cleaning of `_safe_id`. -/
def cleaned (text : Str) : Str :=
  ((lib.underscored (lib.lower (Text.strip text))).dropWhile (· == '_')).rdropWhile (· == '_')

/-- `_safe_id`. -/
def safeId (value fallback : Str) : Str := orText (lib.cleaned (orText value fallback)) fallback

/-- `_scope_prefix`. -/
def scopePrefix (scope : Scope) : Str :=
  let text := lib.underscored (lib.lower (scope.tenantId ++ '_' :: scope.shopId))
  text.drop (text.length - 42)

/-- `_short_scoped_id`. -/
def shortScopedId (pre kind value : Str) (maxLen : ℕ) : Str :=
  let digest := (lib.sha1 (pre ++ ':' :: kind ++ ':' :: value)).take 10
  let head := (lib.safeId kind "id".toList).take (max 1 (maxLen - 11))
  (head ++ '_' :: digest).take maxLen

/-- `f"{prefix}_{source_id}"[:64]`. -/
def scopedId (scope : Scope) (sourceId : Str) : Str :=
  (lib.scopePrefix scope ++ '_' :: sourceId).take 64

end Library

lemma scopePrefix_length (lib : Library) (scope : Scope) : (lib.scopePrefix scope).length ≤ 42 := by
  rw [Library.scopePrefix, List.length_drop]
  omega

/-- Short ids are not cut. -/
lemma scopedId_inj (lib : Library) (scope : Scope) {a b : Str} (ha : a.length ≤ 21)
    (hb : b.length ≤ 21) (h : lib.scopedId scope a = lib.scopedId scope b) : a = b := by
  have hlength := scopePrefix_length lib scope
  have hwhole : ∀ id : Str, id.length ≤ 21 →
      lib.scopedId scope id = lib.scopePrefix scope ++ '_' :: id := by
    intro id hid
    refine List.take_of_length_le ?_
    rw [List.length_append, List.length_cons]
    omega
  rw [hwhole a ha, hwhole b hb] at h
  exact (List.cons.inj (List.append_cancel_left h)).2

/-- `f"{index:04d}"`. -/
def fourDigits (index : ℕ) : Str :=
  let digits := (toString index).toList
  List.replicate (4 - digits.length) '0' ++ digits

/-- The local variables of one turn of the row loop. -/
structure Line where
  index : ℕ
  row : UploadRow
  orderId : Str
  customerId : Str
  productId : Str
  orderTime : ℤ
  payAmount : ℚ
  campaignName : Str
  campaignId : Str
deriving DecidableEq

namespace Library

variable (lib : Library)

/-- `_safe_id` of the three ids of a row, with their fallbacks. -/
def sourceOrderId (index : ℕ) (row : UploadRow) : Str :=
  lib.safeId (row.get "order_id") ("upload_order_".toList ++ fourDigits index)

@[inherit_doc sourceOrderId]
def sourceCustomerId (index : ℕ) (row : UploadRow) : Str :=
  lib.safeId (row.get "customer_id") ("upload_customer_".toList ++ fourDigits index)

@[inherit_doc sourceOrderId]
def sourceProductId (index : ℕ) (row : UploadRow) : Str :=
  lib.safeId (orText (row.get "product_id") (row.get "sku_code"))
    ("upload_product_".toList ++ fourDigits index)

/-- `pay_amount` of a row. -/
def payAmount (row : UploadRow) : ℚ :=
  let unitPrice := lib.toFloat (row.get "unit_price") (lib.toFloat (row.get "pay_amount") 0)
  let quantity := max 1 (lib.toInt (row.get "quantity") 1)
  lib.toFloat (row.get "pay_amount") (unitPrice * quantity)

/-- One turn of the row loop, up to the rows it produces. -/
def line (scope : Scope) (now : ℤ) (index : ℕ) (row : UploadRow) : Line :=
  let campaignName := orText (row.get "campaign_name") "CSV 上传活动".toList
  { index := index
    row := row
    orderId := lib.scopedId scope (lib.sourceOrderId index row)
    customerId := lib.scopedId scope (lib.sourceCustomerId index row)
    productId := lib.scopedId scope (lib.sourceProductId index row)
    orderTime := lib.parseDatetime (row.get "order_time") (now - 3600 * index)
    payAmount := lib.payAmount row
    campaignName := campaignName
    campaignId := lib.shortScopedId (lib.scopePrefix scope) "campaign".toList campaignName 32 }

/-- The lines of an upload; `enumerate(rows, start=1)`. -/
def lines (scope : Scope) (now : ℤ) (rows : List UploadRow) : List Line :=
  (rows.zipIdx 1).map fun entry => lib.line scope now entry.2 entry.1

/-- `str(row.get("refund_flag") or "").strip().upper() in {"Y", "YES", "TRUE", "1"}`. -/
def refunded (row : UploadRow) : Bool :=
  lib.upper (Text.strip (row.get "refund_flag")) ∈
    ["Y".toList, "YES".toList, "TRUE".toList, "1".toList]

end Library

/-! ### The business tables -/

/-- A row of `customers`. -/
structure Customer where
  scope : Scope
  customerId : Str
  customerUniqueId : Str
  zipCodePrefix : ℤ
  city : Str
  state : Str
deriving DecidableEq

/-- A row of `sellers`. -/
structure Seller where
  scope : Scope
  sellerId : Str
deriving DecidableEq

/-- A row of `products`. -/
structure Product where
  scope : Scope
  productId : Str
  categoryName : Str
  categoryNameEn : Str
  productNameLength : ℕ
deriving DecidableEq

/-- A row of `inventory`. -/
structure Inventory where
  scope : Scope
  productId : Str
  stock : ℤ
  safetyStock : ℤ
  warehouse : Str
  updatedAt : ℤ
deriving DecidableEq

/-- A row of `orders`. -/
structure Order where
  scope : Scope
  orderId : Str
  customerId : Str
  orderStatus : Str
  purchaseTimestamp : ℤ
  approvedAt : ℤ
  deliveredCarrierDate : ℤ
  deliveredCustomerDate : ℤ
  estimatedDeliveryDate : ℤ
deriving DecidableEq

/-- A row of `order_items`. -/
structure OrderItem where
  scope : Scope
  orderId : Str
  orderItemId : ℕ
  productId : Str
  sellerId : Str
  shippingLimitDate : ℤ
  price : ℚ
  freightValue : ℚ
deriving DecidableEq

/-- A row of `payments`. -/
structure Payment where
  scope : Scope
  orderId : Str
  paymentSequential : ℕ
  paymentType : Str
  paymentValue : ℚ
deriving DecidableEq

/-- A row of `traffic_stats`. -/
structure Traffic where
  scope : Scope
  statDate : ℤ
  productId : Str
  views : ℤ
  visitors : ℤ
  addToCart : ℤ
  favorites : ℤ
  conversions : ℤ
deriving DecidableEq

/-- A row of `campaigns`. -/
structure Campaign where
  scope : Scope
  campaignId : Str
  campaignName : Str
  channel : Str
  startTime : ℤ
  endTime : ℤ
  budget : ℚ
  status : Str
deriving DecidableEq

/-- A row of `campaign_product_stats`. -/
structure CampaignStat where
  scope : Scope
  campaignId : Str
  productId : Str
  impressions : ℤ
  clicks : ℤ
  ordersCount : ℤ
  revenue : ℚ
  spend : ℚ
deriving DecidableEq

/-- A row of `refunds`. -/
structure Refund where
  scope : Scope
  refundId : Str
  orderId : Str
  productId : Str
  refundTime : ℤ
  refundAmount : ℚ
  refundReason : Str
  refundStatus : Str
deriving DecidableEq

namespace Library

variable (lib : Library)

/-- The key of `customers` and the columns its statement updates. -/
def customers : Schema Customer Str where
  key r := lib.collate r.customerId
  update old new := { old with city := new.city }
  key_update _ _ := rfl

/-- The key of `sellers`; the updated columns are constant. -/
def sellers : Schema Seller Str where
  key r := lib.collate r.sellerId
  update old _ := old
  key_update _ _ := rfl

/-- The key of `products` and the columns its statement updates. -/
def products : Schema Product Str where
  key r := lib.collate r.productId
  update old new :=
    { old with categoryName := new.categoryName, categoryNameEn := new.categoryNameEn }
  key_update _ _ := rfl

/-- The key of `inventory` and the columns its statement updates. -/
def inventory : Schema Inventory Str where
  key r := lib.collate r.productId
  update old new :=
    { old with stock := new.stock, safetyStock := new.safetyStock, updatedAt := new.updatedAt }
  key_update _ _ := rfl

/-- The key of `orders` and the columns its statement updates. -/
def orders : Schema Order Str where
  key r := lib.collate r.orderId
  update old new :=
    { old with orderStatus := new.orderStatus, purchaseTimestamp := new.purchaseTimestamp }
  key_update _ _ := rfl

/-- The key of `order_items` and the columns its statement updates. -/
def orderItems : Schema OrderItem (Str × ℕ) where
  key r := (lib.collate r.orderId, r.orderItemId)
  update old new := { old with productId := new.productId, price := new.price }
  key_update _ _ := rfl

/-- The key of `payments` and the columns its statement updates. -/
def payments : Schema Payment (Str × ℕ) where
  key r := (lib.collate r.orderId, r.paymentSequential)
  update old new := { old with paymentType := new.paymentType, paymentValue := new.paymentValue }
  key_update _ _ := rfl

/-- The key of `campaigns` and the columns its statement updates. -/
def campaigns : Schema Campaign Str where
  key r := lib.collate r.campaignId
  update old new := { old with campaignName := new.campaignName, status := new.status }
  key_update _ _ := rfl

/-- The key of `campaign_product_stats` and the columns its statement updates. -/
def campaignStats : Schema CampaignStat (Str × Str) where
  key r := (lib.collate r.campaignId, lib.collate r.productId)
  update old new :=
    { new with scope := old.scope, campaignId := old.campaignId, productId := old.productId }
  key_update _ _ := rfl

/-- The key of `refunds` and the columns its statement updates. -/
def refunds : Schema Refund Str where
  key r := lib.collate r.refundId
  update old new :=
    { old with refundStatus := new.refundStatus, refundAmount := new.refundAmount }
  key_update _ _ := rfl

end Library

/-- The tables that an import writes. -/
@[ext]
structure Database where
  customers : List Customer
  sellers : List Seller
  products : List Product
  inventory : List Inventory
  orders : List Order
  orderItems : List OrderItem
  payments : List Payment
  traffic : List Traffic
  campaigns : List Campaign
  campaignStats : List CampaignStat
  refunds : List Refund
deriving DecidableEq

/-- The tables as `schema.sql` creates them. -/
def Database.empty : Database := ⟨[], [], [], [], [], [], [], [], [], [], []⟩

/-- The primary keys of the tables are unique. -/
structure Database.Keyed (lib : Library) (db : Database) : Prop where
  customers : lib.customers.Keyed db.customers
  sellers : lib.sellers.Keyed db.sellers
  products : lib.products.Keyed db.products
  inventory : lib.inventory.Keyed db.inventory
  orders : lib.orders.Keyed db.orders
  orderItems : lib.orderItems.Keyed db.orderItems
  payments : lib.payments.Keyed db.payments
  campaigns : lib.campaigns.Keyed db.campaigns
  campaignStats : lib.campaignStats.Keyed db.campaignStats
  refunds : lib.refunds.Keyed db.refunds

/-! ### The rows that an upload produces -/

namespace Library

variable (lib : Library) (scope : Scope) (now : ℤ) (l : Line)

/-- The id of the seller of all imports of a shop. -/
def sellerId : Str := lib.scopePrefix scope ++ "_uploaded_seller".toList

/-- The entry of `customers`. -/
def customerOf : Customer where
  scope := scope
  customerId := l.customerId
  customerUniqueId := l.customerId ++ "_unique".toList
  zipCodePrefix := 330000 + (l.index % 9000 : ℕ)
  city := orText (l.row.get "customer_city") "未知城市".toList
  state := "未知".toList

/-- The entry of `products`. -/
def productOf : Product where
  scope := scope
  productId := l.productId
  categoryName := orText (l.row.get "product_name") l.productId
  categoryNameEn := orText (l.row.get "category") "uploaded".toList
  productNameLength := (orText (l.row.get "product_name") l.productId).length

/-- The entry of `inventories`. -/
def inventoryOf : Inventory where
  scope := scope
  productId := l.productId
  stock := lib.toInt (l.row.get "stock") 0
  safetyStock := lib.toInt (l.row.get "safety_stock") 0
  warehouse := "CSV 上传仓".toList
  updatedAt := now

/-- The entry of `orders`. -/
def orderOf : Order where
  scope := scope
  orderId := l.orderId
  customerId := l.customerId
  orderStatus := "delivered".toList
  purchaseTimestamp := l.orderTime
  approvedAt := l.orderTime + 5 * 60
  deliveredCarrierDate := l.orderTime + 12 * 3600
  deliveredCustomerDate := l.orderTime + 2 * 86400
  estimatedDeliveryDate := l.orderTime + 4 * 86400

/-- The entry of `order_items`; its number is always 1. -/
def orderItemOf : OrderItem where
  scope := scope
  orderId := l.orderId
  orderItemId := 1
  productId := l.productId
  sellerId := lib.sellerId scope
  shippingLimitDate := l.orderTime + 86400
  price := l.payAmount
  freightValue := 8

/-- The entry of `payments`; its number is always 1. -/
def paymentOf : Payment where
  scope := scope
  orderId := l.orderId
  paymentSequential := 1
  paymentType := "uploaded".toList
  paymentValue := l.payAmount + 8

/-- The entry of `traffic_rows`. -/
def trafficOf : Traffic where
  scope := scope
  statDate := l.orderTime / 86400
  productId := l.productId
  views := lib.toInt (l.row.get "visitors") 0 * 2
  visitors := lib.toInt (l.row.get "visitors") 0
  addToCart := max 0 (lib.toInt (l.row.get "conversions") 0 * 2)
  favorites := max 0 (lib.toInt (l.row.get "conversions") 0)
  conversions := lib.toInt (l.row.get "conversions") 0

/-- The entry of `campaigns`. -/
def campaignOf : Campaign where
  scope := scope
  campaignId := l.campaignId
  campaignName := l.campaignName
  channel := orText (l.row.get "platform") "CSV 上传".toList
  startTime := l.orderTime - 86400
  endTime := l.orderTime + 7 * 86400
  budget := max 1000 (lib.toFloat (l.row.get "ad_spend") 0 * 10)
  status := "active".toList

/-- The entry of `campaign_stats`. -/
def campaignStatOf : CampaignStat where
  scope := scope
  campaignId := l.campaignId
  productId := l.productId
  impressions := lib.toInt (l.row.get "visitors") 0 * 3
  clicks := lib.toInt (l.row.get "visitors") 0
  ordersCount := lib.toInt (l.row.get "conversions") 0
  revenue := l.payAmount
  spend := lib.toFloat (l.row.get "ad_spend") 0

/-- The id of a refund, made from the position of its row. -/
def refundId (index : ℕ) : Str :=
  lib.scopePrefix scope ++ "_upload_refund_".toList ++ fourDigits index

/-- The entry of `refunds`. -/
def refundOf : Refund where
  scope := scope
  refundId := lib.refundId scope l.index
  orderId := l.orderId
  productId := l.productId
  refundTime := l.orderTime + 2 * 86400
  refundAmount := lib.toFloat (l.row.get "refund_amount") 0
  refundReason := orText (l.row.get "refund_reason") "未填写".toList
  refundStatus := "approved".toList

end Library

/-- The lists and dictionaries that the row loop fills. -/
structure Batch where
  sellers : List Seller
  customers : List Customer
  products : List Product
  inventory : List Inventory
  orders : List Order
  orderItems : List OrderItem
  payments : List Payment
  traffic : List Traffic
  campaigns : List Campaign
  campaignStats : List CampaignStat
  refunds : List Refund

/-- The values of a Python dictionary that is assigned the entries in order. -/
def dictValues {ρ κ : Type} [DecidableEq κ] (key : ρ → κ) (entries : List ρ) : List ρ :=
  (Schema.dict key).upsertAll entries []

/-- A dictionary holds some of the entries that it was assigned. -/
lemma mem_of_mem_dictValues {ρ κ : Type} [DecidableEq κ] {key : ρ → κ} {entries : List ρ} {x : ρ}
    (h : x ∈ dictValues key entries) : x ∈ entries :=
  (Schema.mem_of_mem_dict h).elim (fun hnil => by cases hnil) id

/-- A dictionary has the keys of the entries that it was assigned. -/
lemma exists_mem_dictValues {ρ κ : Type} [DecidableEq κ] (key : ρ → κ) {entries : List ρ} {x : ρ}
    (h : x ∈ entries) : ∃ y ∈ dictValues key entries, key y = key x := by
  have hmem : (Schema.dict key).key x ∈
      ((Schema.dict key).upsertAll entries []).map (Schema.dict key).key :=
    Schema.mem_keys_upsertAll.mpr (.inr (List.mem_map_of_mem h))
  exact List.mem_map.mp hmem

/-- The row loop; a file without rows is left before the first statement. -/
def Library.batch (lib : Library) (scope : Scope) (now : ℤ) (rows : List UploadRow) : Batch :=
  let lines := lib.lines scope now rows
  { sellers := if rows = [] then [] else [⟨scope, lib.sellerId scope⟩]
    customers := dictValues Customer.customerId (lines.map (customerOf scope))
    products := dictValues Product.productId (lines.map (productOf scope))
    inventory := dictValues Inventory.productId (lines.map (lib.inventoryOf scope now))
    orders := lines.map (orderOf scope)
    orderItems := lines.map (lib.orderItemOf scope)
    payments := lines.map (paymentOf scope)
    traffic := lines.map (lib.trafficOf scope)
    campaigns := dictValues Campaign.campaignId (lines.map (lib.campaignOf scope))
    campaignStats := dictValues (fun r => (r.campaignId, r.productId))
      (lines.map (lib.campaignStatOf scope))
    refunds := (lines.filter fun l => lib.refunded l.row).map (lib.refundOf scope) }

/-- The statements at the end of the import. -/
def Database.write (lib : Library) (db : Database) (b : Batch) : Database where
  customers := lib.customers.upsertAll b.customers db.customers
  sellers := lib.sellers.upsertAll b.sellers db.sellers
  products := lib.products.upsertAll b.products db.products
  inventory := lib.inventory.upsertAll b.inventory db.inventory
  orders := lib.orders.upsertAll b.orders db.orders
  orderItems := lib.orderItems.upsertAll b.orderItems db.orderItems
  payments := lib.payments.upsertAll b.payments db.payments
  traffic := db.traffic ++ b.traffic
  campaigns := lib.campaigns.upsertAll b.campaigns db.campaigns
  campaignStats := lib.campaignStats.upsertAll b.campaignStats db.campaignStats
  refunds := lib.refunds.upsertAll b.refunds db.refunds

/-- `import_uploaded_csv_data` for the rows of the file. -/
def Library.importRows (lib : Library) (scope : Scope) (now : ℤ) (rows : List UploadRow)
    (db : Database) : Database :=
  db.write lib (lib.batch scope now rows)

lemma Database.keyed_empty (lib : Library) : Database.empty.Keyed lib :=
  ⟨List.nodup_nil, List.nodup_nil, List.nodup_nil, List.nodup_nil, List.nodup_nil, List.nodup_nil,
    List.nodup_nil, List.nodup_nil, List.nodup_nil, List.nodup_nil⟩

/-- A file without rows writes nothing. -/
lemma importRows_nil (lib : Library) (scope : Scope) (now : ℤ) (db : Database) :
    lib.importRows scope now [] db = db := by
  refine Database.ext rfl rfl rfl rfl rfl rfl rfl ?_ rfl rfl rfl
  exact List.append_nil _

/-- Every import appends a row to `traffic_stats` for every row of the file. -/
lemma traffic_length_importRows (lib : Library) (scope : Scope) (now : ℤ) (rows : List UploadRow)
    (db : Database) :
    (lib.importRows scope now rows db).traffic.length = db.traffic.length + rows.length := by
  have htraffic : (lib.importRows scope now rows db).traffic =
      db.traffic ++ (lib.lines scope now rows).map (lib.trafficOf scope) := rfl
  rw [htraffic, List.length_append, List.length_map, Library.lines, List.length_map,
    List.length_zipIdx]

/-! ### A sample of the library -/

/-- The value of a text of digits. -/
def digitsValue (text : Str) : Option ℚ :=
  if text ≠ [] ∧ text.all Char.isDigit then
    some (text.foldl (fun n c => 10 * n + (c.toNat - 48)) 0 : ℕ)
  else none

/-- Functions that agree with the library on lower-case ASCII ids, on numbers without sign and
point, on texts that are no dates, and on the two names of campaigns below. -/
def Library.sample : Library where
  lower := List.map Char.toLower
  upper := List.map Char.toUpper
  isalnum := Char.isAlphanum
  sha1 text :=
    if text = "t_s:campaign:CSV 上传活动".toList then
      "0bddd09ecdebe47bb4993e131cc7cc8a865df1d7".toList
    else "a81de8ddac74ded316f92bb7876f1ebe5a8ff4c1".toList
  strptime _ := none
  float := digitsValue
  collate := List.map Char.toLower

/-- A row with an order, a product and an amount. -/
def sampleRow (orderId productId payAmount : String) : UploadRow :=
  [("order_id".toList, orderId.toList), ("product_id".toList, productId.toList),
    ("pay_amount".toList, payAmount.toList)]

/-- The shop of the examples. -/
def sampleScope : Scope := ⟨"t".toList, "s".toList⟩

end EcommerceAgent.Imports
