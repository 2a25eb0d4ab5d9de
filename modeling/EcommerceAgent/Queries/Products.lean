/-
# The product and the inventory view of a shop

`list_products`, `list_inventory_risks` and the number `inventoryRiskSkuCount` of `get_metrics`, on
the rows of one tenant and shop.  Both lists take at most 100 rows, in an order that the server is
free to choose among equal rows; the list of products has a row for every product and passes its
category to `display_sku`, the list of risks has a row for every product with an inventory row and
passes none.  The views agree exactly on the data that is `Consistent`.
-/
import EcommerceAgent.Lib.Table
import EcommerceAgent.Queries.Sku
import Mathlib.Data.List.Pairwise
import Mathlib.Data.List.Perm.Subperm
import Mathlib.Data.List.Sort

open EcommerceAgent.Lib

namespace EcommerceAgent.Queries

/-! ### Rows -/

/-- A row of `products`. -/
structure Product where
  productId : String
  categoryName : Option String
  categoryNameEn : Option String
deriving DecidableEq

/-- A row of `inventory`. -/
structure InventoryRow where
  productId : String
  stock : ℤ
  safetyStock : ℤ
deriving DecidableEq

/-- A row of `orders`; the time is in seconds. -/
structure OrderRow where
  orderId : String
  purchasedAt : Option ℕ
deriving DecidableEq

/-- A row of `order_items`; the price is in hundredths. -/
structure OrderItemRow where
  orderId : String
  productId : Option String
  price : Option ℤ
deriving DecidableEq

/-- A row of `traffic_stats`. -/
structure TrafficRow where
  productId : String
  visitors : ℤ
  conversions : ℤ
deriving DecidableEq

/-- A row of the query of `list_products`. -/
structure ProductRow (F : Type) where
  product : Product
  stock : ℤ
  safetyStock : ℤ
  salesAmount : ℤ
  sales : ℕ
  price : F
  visitors : ℤ
  conversions : ℤ
  conversionRate : F

/-- `COALESCE(p.category_name_en, '未分类')`. -/
def Product.category (product : Product) : String := product.categoryNameEn.getD "未分类"

/-- `COALESCE(p.category_name, p.product_id)`. -/
def Product.productName (product : Product) : String :=
  product.categoryName.getD product.productId

/-- `ORDER BY sales_amount DESC, sales DESC`. -/
def ProductRow.Before {F : Type} (a b : ProductRow F) : Prop :=
  b.salesAmount < a.salesAmount ∨ (a.salesAmount = b.salesAmount ∧ b.sales ≤ a.sales)

instance {F : Type} : DecidableRel (ProductRow.Before (F := F)) := fun a b =>
  inferInstanceAs (Decidable (b.salesAmount < a.salesAmount ∨
    (a.salesAmount = b.salesAmount ∧ b.sales ≤ a.sales)))

/-- A row of the query of `list_inventory_risks`. -/
structure RiskRow where
  product : Product
  stock : ℤ
  safetyStock : ℤ
  sales7d : ℕ

/-- `(i.stock <= i.safety_stock) DESC`, as a number that ascends. -/
def RiskRow.rank (row : RiskRow) : ℕ := if row.stock ≤ row.safetyStock then 0 else 1

/-- `ORDER BY (i.stock <= i.safety_stock) DESC, sales7d DESC, i.stock ASC`. -/
def RiskRow.Before (a b : RiskRow) : Prop :=
  a.rank < b.rank ∨ (a.rank = b.rank ∧
    (b.sales7d < a.sales7d ∨ (a.sales7d = b.sales7d ∧ a.stock ≤ b.stock)))

instance : DecidableRel RiskRow.Before := fun a b =>
  inferInstanceAs (Decidable (a.rank < b.rank ∨ (a.rank = b.rank ∧
    (b.sales7d < a.sales7d ∨ (a.sales7d = b.sales7d ∧ a.stock ≤ b.stock)))))

/-- The database server and the library functions: what the collation compares, the figures with a
fraction, and the order of the rows of a query. -/
structure CatalogServer (K F : Type) extends SkuLibrary where
  weights : String → K
  average : List ℤ → F
  percentage : ℤ → ℤ → F
  turnoverDays : ℤ → ℕ → F
  arrangeProducts : List (ProductRow F) → List (ProductRow F)
  arrangeProducts_perm : ∀ rows, (arrangeProducts rows).Perm rows
  arrangeProducts_sorted : ∀ rows, (arrangeProducts rows).Pairwise ProductRow.Before
  arrangeRisks : List RiskRow → List RiskRow
  arrangeRisks_perm : ∀ rows, (arrangeRisks rows).Perm rows
  arrangeRisks_sorted : ∀ rows, (arrangeRisks rows).Pairwise RiskRow.Before

variable {K F : Type}

/-- The rows of one tenant and shop. -/
structure ShopTables (S : CatalogServer K F) where
  products : List Product
  inventory : List InventoryRow
  orders : List OrderRow
  items : List OrderItemRow
  traffic : List TrafficRow
  products_distinct : (products.map fun p => S.weights p.productId).Nodup
  inventory_distinct : (inventory.map fun row => S.weights row.productId).Nodup
  orders_distinct : (orders.map fun row => S.weights row.orderId).Nodup

/-! ### The levels and the texts -/

inductive RiskLevel
  | high
  | medium
  | low
deriving DecidableEq

/-- The level as it is shown. -/
def RiskLevel.text : RiskLevel → String
  | .high => "high"
  | .medium => "medium"
  | .low => "low"

/-- The level of a stock and the sales of a time. -/
def riskLevel (stock safetyStock : ℤ) (sales : ℕ) : RiskLevel :=
  if stock ≤ safetyStock then .high
  else if sales = 0 ∧ safetyStock < stock then .medium
  else .low

lemma riskLevel_eq_high_iff {stock safetyStock : ℤ} {sales : ℕ} :
    riskLevel stock safetyStock sales = .high ↔ stock ≤ safetyStock := by
  rw [riskLevel]
  split_ifs <;> simp_all

inductive Layer
  | hot
  | promising
  | slow
  | steady
deriving DecidableEq

/-- The layer as it is shown. -/
def Layer.text : Layer → String
  | .hot => "爆品"
  | .promising => "潜力品"
  | .slow => "滞销品"
  | .steady => "稳定品"

/-- `_product_suggestion`. -/
def productSuggestion (level : RiskLevel) (layer : Layer) : String :=
  if level = .high then "建议优先补货，并核对活动库存锁定量，避免高转化流量无法承接。"
  else
    match layer with
    | .hot => "建议保持投放和库存水位，重点观察退款率与活动 ROI。"
    | .promising => "建议优化主图、价格和利益点，放大高转化流量入口。"
    | .slow => "建议控制补货，结合折扣、组合销售或下架策略清理库存。"
    | .steady => "建议维持日常监控，观察转化率和库存周转是否出现异常。"

/-- The sales from which a product is hot: those of the top fifth of the products sold. -/
def hotThreshold (rows : List (ProductRow F)) : ℕ :=
  let positive := (rows.map (·.sales)).filter fun sales => 0 < sales
  (positive.insertionSort (· ≥ ·)).getD (positive.length / 5 - 1) 0

/-- The layer of a row. -/
def layerOf (threshold : ℕ) (row : ProductRow F) : Layer :=
  if threshold ≠ 0 ∧ threshold ≤ row.sales then .hot
  else if 0 < row.visitors ∧ 0 < row.conversions ∧ 0 < row.sales then .promising
  else if row.safetyStock * 2 < row.stock ∧ row.sales ≤ 1 then .slow
  else .steady

/-! ### `list_products` -/

/-- An entry of `list_products`. -/
structure ProductItem (F : Type) where
  id : String
  name : String
  sku : String
  category : String
  price : F
  stock : ℤ
  safetyStock : ℤ
  sales : ℕ
  conversionRate : F
  riskLevel : RiskLevel
  layer : Layer
  riskReason : String
  suggestedAction : String
  aiSuggestion : String

/-- `filters` of `list_products`. -/
structure ProductFilters where
  keyword : Option String
  riskLevel : Option String

/-- The level of a row. -/
def ProductRow.level (row : ProductRow F) : RiskLevel :=
  Queries.riskLevel row.stock row.safetyStock row.sales

/-- The name of an entry. -/
def Product.name (product : Product) : String :=
  if product.productName = "" then product.productId else product.productName

/-- The entry of a row at its rank. -/
def ProductRow.item (lib : SkuLibrary) (threshold : ℕ) (row : ProductRow F)
    (index : ℕ) : ProductItem F :=
  let layer := layerOf threshold row
  { id := row.product.productId
    name := row.product.name
    sku := displaySku lib row.product.productId (some row.product.category) index
    category := row.product.category
    price := row.price
    stock := row.stock
    safetyStock := row.safetyStock
    sales := row.sales
    conversionRate := row.conversionRate
    riskLevel := row.level
    layer
    riskReason :=
      if row.stock ≤ row.safetyStock then "库存不足"
      else if layer = .slow then "周转过慢" else "稳定增长"
    suggestedAction := productSuggestion row.level layer
    aiSuggestion := productSuggestion row.level layer }

variable {S : CatalogServer K F}

/-- A product has one row. -/
lemma ShopTables.eq_of_weights {d : ShopTables S} {p q : Product}
    (hp : p ∈ d.products) (hq : q ∈ d.products)
    (h : S.weights p.productId = S.weights q.productId) : p = q :=
  List.inj_on_of_nodup_map d.products_distinct hp hq h

/-! ### Entries of `list_inventory_risks` -/

/-- An entry of `list_inventory_risks`. -/
structure RiskItem (F : Type) where
  sku : String
  productName : String
  name : String
  stock : ℤ
  safetyStock : ℤ
  sales7d : ℕ
  turnoverDays : F
  riskLevel : RiskLevel
  riskReason : String
  suggestedAction : String

/-- The level of a row. -/
def RiskRow.level (row : RiskRow) : RiskLevel :=
  Queries.riskLevel row.stock row.safetyStock row.sales7d

/-- The entry of a row at its rank, whose level comes with these texts. -/
def RiskRow.itemWith (S : CatalogServer K F) (row : RiskRow) (index : ℕ)
    (riskReason suggestedAction : String) : RiskItem F where
  sku := displaySku S.toSkuLibrary row.product.productId none index
  productName := row.product.productName
  name := row.product.productName
  stock := row.stock
  safetyStock := row.safetyStock
  sales7d := row.sales7d
  turnoverDays := S.turnoverDays row.stock row.sales7d
  riskLevel := row.level
  riskReason
  suggestedAction

/-- The entry of a row at its rank, if it is shown. -/
def RiskRow.item (S : CatalogServer K F) (row : RiskRow) (index : ℕ) : Option (RiskItem F) :=
  match row.level with
  | .high => some (row.itemWith S index "库存低于安全库存" "立即补货，并检查活动库存锁定量")
  | .medium =>
    some (row.itemWith S index "近 7 天无销量，存在滞销风险" "降低补货优先级，复盘价格和流量入口")
  | .low => none

/-- What is shown of a risk. -/
lemma item_eq_some {risk : RiskRow} {index : ℕ} {item : RiskItem F}
    (h : risk.item S index = some item) :
    risk.level ≠ .low ∧ item.riskLevel = risk.level ∧
      item.sku = displaySku S.toSkuLibrary risk.product.productId none index := by
  simp only [RiskRow.item] at h
  split at h
  · next hlevel =>
    cases h
    exact ⟨by rw [hlevel]; decide, rfl, rfl⟩
  · next hlevel =>
    cases h
    exact ⟨by rw [hlevel]; decide, rfl, rfl⟩
  · cases h

lemma exists_item {risk : RiskRow} (h : risk.level ≠ .low) (index : ℕ) :
    ∃ item, risk.item S index = some item := by
  simp only [RiskRow.item]
  cases hlevel : risk.level with
  | high => exact ⟨_, rfl⟩
  | medium => exact ⟨_, rfl⟩
  | low => exact absurd hlevel h

/-! ### The queries -/

variable [DecidableEq K]

namespace ShopTables

variable (d : ShopTables S)

/-- The inventory row that is joined to a product. -/
def stocked (product : Product) : Option InventoryRow :=
  d.inventory.find? fun row => S.weights row.productId = S.weights product.productId

/-- The items that are joined to a product. -/
def itemsOf (productId : String) : List OrderItemRow :=
  d.items.filter fun item => item.productId.map S.weights = some (S.weights productId)

/-- The traffic that is joined to a product. -/
def trafficOf (product : Product) : List TrafficRow :=
  d.traffic.filter fun row => S.weights row.productId = S.weights product.productId

/-- The row of a product. -/
def productRow (product : Product) : ProductRow F :=
  let prices := (d.itemsOf product.productId).filterMap (·.price)
  let visitors := ((d.trafficOf product).map (·.visitors)).sum
  let conversions := ((d.trafficOf product).map (·.conversions)).sum
  { product
    stock := ((d.stocked product).map (·.stock)).getD 0
    safetyStock := ((d.stocked product).map (·.safetyStock)).getD 0
    salesAmount := prices.sum
    sales := (d.itemsOf product.productId).length
    price := S.average prices
    visitors
    conversions
    conversionRate := S.percentage conversions visitors }

/-- The rows of the query, with their ranks. -/
def rankedProducts : List (ProductRow F × ℕ) :=
  ((S.arrangeProducts (d.products.map d.productRow)).take 100).zipIdx 1

/-- The entries before they are filtered. -/
def productItems : List (ProductItem F) :=
  let threshold := hotThreshold (d.rankedProducts.map (·.1))
  d.rankedProducts.map fun ranked => ranked.1.item S.toSkuLibrary threshold ranked.2

/-- `list_products`. -/
def listProducts (filters : ProductFilters) : List (ProductItem F) :=
  let keyword := S.lower (filters.keyword.getD "")
  let products :=
    if keyword = "" then d.productItems
    else d.productItems.filter fun item =>
      mentions (S.lower item.name) keyword || mentions (S.lower item.sku) keyword
  match filters.riskLevel with
  | none => products
  | some level =>
    if level = "" then products else products.filter fun item => item.riskLevel.text = level

/-- The time of the last order. -/
def maxTime : ℕ := ((d.orders.filterMap (·.purchasedAt)).max?).getD 0

/-- The order is one of the last seven days. -/
def recentOrder (orderId : String) : Bool :=
  d.orders.any fun order => S.weights order.orderId = S.weights orderId &&
    order.purchasedAt.any fun time => d.maxTime ≤ time + 7 * 86400

/-- The items of a product that were sold in the last seven days. -/
def sales7d (productId : String) : ℕ :=
  ((d.itemsOf productId).filter fun item => d.recentOrder item.orderId).length

/-- The row of an inventory row, if its product is one of the shop. -/
def riskRow (row : InventoryRow) : Option RiskRow :=
  (d.products.find? fun p => S.weights p.productId = S.weights row.productId).map fun product =>
    { product, stock := row.stock, safetyStock := row.safetyStock
      sales7d := d.sales7d row.productId }

/-- The rows of the query, with their ranks. -/
def rankedRisks : List (RiskRow × ℕ) :=
  ((S.arrangeRisks (d.inventory.filterMap d.riskRow)).take 100).zipIdx 1

/-- The entries with the products they are about. -/
def riskItems : List (Product × RiskItem F) :=
  d.rankedRisks.filterMap fun ranked =>
    (ranked.1.item S ranked.2).map fun item => (ranked.1.product, item)

/-- `list_inventory_risks`. -/
def listInventoryRisks : List (RiskItem F) := d.riskItems.map (·.2)

/-- The field `inventoryRiskSkuCount` of `get_metrics`. -/
def inventoryRiskSkuCount : ℕ := d.inventory.countP fun row => row.stock ≤ row.safetyStock

/-! ### Agreement -/

/-- No filter. -/
def noFilter : ProductFilters := ⟨none, none⟩

/-- The product meets the filters: by its level, and by its name or the SKU it is shown with. -/
structure Matches (filters : ProductFilters) (product : Product) : Prop where
  level : ∀ level, filters.riskLevel = some level → level ≠ "" →
    (d.productRow product).level.text = level
  keyword : S.lower (filters.keyword.getD "") ≠ "" →
    mentions (S.lower product.name) (S.lower (filters.keyword.getD "")) ∨
      ∃ item ∈ d.listProducts noFilter, item.id = product.productId ∧
        mentions (S.lower item.sku) (S.lower (filters.keyword.getD ""))

/-- The views agree. -/
structure Agree : Prop where
  sameSku : ∀ item ∈ d.listProducts noFilter, ∀ risk ∈ d.riskItems,
    risk.1.productId = item.id → risk.2.sku = item.sku
  distinctSku : (d.listProducts noFilter).Pairwise fun item item' => item.sku ≠ item'.sku
  distinctRisk : d.riskItems.Pairwise fun risk risk' => risk.2.sku ≠ risk'.2.sku
  high : ∀ id, (∃ item ∈ d.listProducts noFilter, item.id = id ∧ item.riskLevel = .high) ↔
    ∃ risk ∈ d.riskItems, risk.1.productId = id ∧ risk.2.riskLevel = .high
  count : d.inventoryRiskSkuCount =
    ((d.listProducts noFilter).filter fun item => item.riskLevel = .high).length
  filtered : ∀ filters, ∀ product ∈ d.products,
    (∃ item ∈ d.listProducts filters, item.id = product.productId) ↔ d.Matches filters product

/-- The category of a product that both lists show adds no earlier word to its SKU than the id
has, and its ranks in the lists make no difference. -/
def Alike (shown : ProductRow F × ℕ) (risk : RiskRow × ℕ) : Prop :=
  (sampleOf shown.1.product.productId).isSome ∨
    (idFamily S.toSkuLibrary shown.1.product.productId ≤
        categoryFamily S.toSkuLibrary (some shown.1.product.category) ∧
      skuNumber S.toSkuLibrary shown.1.product.productId shown.2 =
        skuNumber S.toSkuLibrary shown.1.product.productId risk.2)

/-- At most 100 products, each with an inventory row; no risky inventory row without a product of
the shop; and prefixes and numbers that tell the products apart and do not depend on the list. -/
structure Consistent : Prop where
  few : d.products.length ≤ 100
  stocked : ∀ product ∈ d.products,
    ∃ row ∈ d.inventory, S.weights row.productId = S.weights product.productId
  owned : ∀ row ∈ d.inventory, row.stock ≤ row.safetyStock →
    ∃ product ∈ d.products, S.weights product.productId = S.weights row.productId
  alike : ∀ shown ∈ d.rankedProducts, ∀ risk ∈ d.rankedRisks,
    risk.1.product = shown.1.product → risk.1.level ≠ .low → Alike (S := S) shown risk
  apart : d.rankedProducts.Pairwise fun shown shown' =>
    skuParts S.toSkuLibrary shown.1.product.productId (some shown.1.product.category) shown.2 ≠
      skuParts S.toSkuLibrary shown'.1.product.productId (some shown'.1.product.category) shown'.2

/-! ### The rows that are shown -/

variable {d}

lemma listProducts_noFilter : d.listProducts noFilter = d.productItems := by
  simp [listProducts, noFilter, S.lower_empty]

/-- An entry is returned exactly when it is one and meets the filters. -/
lemma mem_listProducts_iff {filters : ProductFilters} {item : ProductItem F} :
    item ∈ d.listProducts filters ↔ item ∈ d.productItems ∧
      (∀ level, filters.riskLevel = some level → level ≠ "" → item.riskLevel.text = level) ∧
      (S.lower (filters.keyword.getD "") ≠ "" →
        mentions (S.lower item.name) (S.lower (filters.keyword.getD "")) ∨
          mentions (S.lower item.sku) (S.lower (filters.keyword.getD ""))) := by
  have hkeyword : ∀ keyword : String,
      item ∈ (if keyword = "" then d.productItems else d.productItems.filter fun item =>
        mentions (S.lower item.name) keyword || mentions (S.lower item.sku) keyword) ↔
      item ∈ d.productItems ∧ (keyword ≠ "" →
        mentions (S.lower item.name) keyword ∨ mentions (S.lower item.sku) keyword) := by
    intro keyword
    by_cases hempty : keyword = ""
    · simp [hempty]
    · simp [hempty]
  simp only [listProducts]
  cases filters.riskLevel with
  | none => simpa using hkeyword _
  | some level =>
    by_cases hlevel : level = ""
    · simpa [hlevel] using hkeyword _
    · simp only [if_neg hlevel, List.mem_filter, hkeyword]
      constructor
      · rintro ⟨⟨hitem, hword⟩, htext⟩
        refine ⟨hitem, fun level' h _ => ?_, hword⟩
        cases h
        exact of_decide_eq_true htext
      · rintro ⟨hitem, htext, hword⟩
        exact ⟨⟨hitem, hword⟩, decide_eq_true (htext level rfl hlevel)⟩

lemma mem_of_mem_rankedProducts {shown : ProductRow F × ℕ} (h : shown ∈ d.rankedProducts) :
    shown.1.product ∈ d.products ∧ shown.1 = d.productRow shown.1.product ∧
      0 < shown.2 ∧ shown.2 < 1000 := by
  obtain ⟨hrank, hrow⟩ := List.mem_zipIdx_iff_le_and_getElem?_sub.mp h
  have hlt : shown.2 - 1 < 100 := by
    obtain ⟨hlt, -⟩ := List.getElem?_eq_some_iff.mp hrow
    rw [List.length_take] at hlt
    omega
  have hmem := List.mem_of_mem_take (List.mem_of_getElem? hrow)
  obtain ⟨product, hproduct, hshown⟩ := List.mem_map.mp ((S.arrangeProducts_perm _).mem_iff.mp hmem)
  have hself : shown.1.product = product := by rw [← hshown]; rfl
  rw [hself]
  exact ⟨hproduct, hshown.symm, hrank, by omega⟩

lemma key_riskRow {row : InventoryRow} {risk : RiskRow} (h : d.riskRow row = some risk) :
    risk.product ∈ d.products ∧ S.weights risk.product.productId = S.weights row.productId ∧
      risk.stock = row.stock ∧ risk.safetyStock = row.safetyStock := by
  obtain ⟨product, hfind, rfl⟩ := Option.map_eq_some_iff.mp h
  exact ⟨List.mem_of_find?_eq_some hfind, by simpa using List.find?_some hfind, rfl, rfl⟩

lemma mem_of_mem_rankedRisks {risk : RiskRow × ℕ} (h : risk ∈ d.rankedRisks) :
    (∃ row ∈ d.inventory, d.riskRow row = some risk.1) ∧ 0 < risk.2 ∧ risk.2 < 1000 := by
  obtain ⟨hrank, hrow⟩ := List.mem_zipIdx_iff_le_and_getElem?_sub.mp h
  have hlt : risk.2 - 1 < 100 := by
    obtain ⟨hlt, -⟩ := List.getElem?_eq_some_iff.mp hrow
    rw [List.length_take] at hlt
    omega
  have hmem := List.mem_of_mem_take (List.mem_of_getElem? hrow)
  exact ⟨List.mem_filterMap.mp ((S.arrangeRisks_perm _).mem_iff.mp hmem), hrank, by omega⟩

/-- An entry of the list of products is the one of a row. -/
lemma mem_productItems_iff {item : ProductItem F} :
    item ∈ d.productItems ↔ ∃ shown ∈ d.rankedProducts,
      shown.1.item S.toSkuLibrary (hotThreshold (d.rankedProducts.map (·.1))) shown.2 = item := by
  simp only [productItems, List.mem_map]

/-- An entry of the list of risks is the one of a row that is not at a low level. -/
lemma mem_riskItems_iff {product : Product} {item : RiskItem F} :
    (product, item) ∈ d.riskItems ↔ ∃ risk ∈ d.rankedRisks,
      risk.1.item S risk.2 = some item ∧ risk.1.product = product := by
  simp only [riskItems, List.mem_filterMap, Option.map_eq_some_iff, Prod.mk.injEq]
  constructor
  · rintro ⟨risk, hrisk, item', hitem, hproduct, rfl⟩
    exact ⟨risk, hrisk, hitem, hproduct⟩
  · rintro ⟨risk, hrisk, hitem, hproduct⟩
    exact ⟨risk, hrisk, item, hitem, hproduct, rfl⟩

/-- The risks are about different products. -/
lemma riskRows_distinct : (d.inventory.filterMap d.riskRow).Pairwise fun risk risk' =>
    S.weights risk.product.productId ≠ S.weights risk'.product.productId := by
  rw [List.pairwise_filterMap]
  refine (List.pairwise_map.mp d.inventory_distinct).imp fun hne risk hrisk risk' hrisk' => ?_
  rw [(key_riskRow hrisk).2.1, (key_riskRow hrisk').2.1]
  exact hne

lemma rankedRisks_distinct : d.rankedRisks.Pairwise fun risk risk' =>
    S.weights risk.1.product.productId ≠ S.weights risk'.1.product.productId := by
  have hshown := ((S.arrangeRisks_perm _).pairwise_iff (fun h => h.symm)).mpr
    (d.riskRows_distinct)
  rw [rankedRisks, ← List.pairwise_map (f := Prod.fst) (R := fun row row' : RiskRow =>
    S.weights row.product.productId ≠ S.weights row'.product.productId), List.zipIdx_map_fst]
  exact hshown.sublist (List.take_sublist _ _)

/-! ### With at most 100 products nothing is cut off -/

section Few

variable (hfew : d.products.length ≤ 100)
include hfew

lemma perm_rankedProducts :
    (d.rankedProducts.map (·.1)).Perm (d.products.map d.productRow) := by
  have hperm := S.arrangeProducts_perm (d.products.map d.productRow)
  rw [rankedProducts, List.zipIdx_map_fst, List.take_of_length_le]
  · exact hperm
  · rw [hperm.length_eq, List.length_map]
    exact hfew

lemma perm_rankedRisks :
    (d.rankedRisks.map (·.1)).Perm (d.inventory.filterMap d.riskRow) := by
  have hperm := S.arrangeRisks_perm (d.inventory.filterMap d.riskRow)
  rw [rankedRisks, List.zipIdx_map_fst, List.take_of_length_le]
  · exact hperm
  · have hdistinct : ((d.inventory.filterMap d.riskRow).map fun risk =>
        S.weights risk.product.productId).Nodup := List.pairwise_map.mpr riskRows_distinct
    have hsubset : ((d.inventory.filterMap d.riskRow).map fun risk =>
        S.weights risk.product.productId) ⊆ d.products.map fun p => S.weights p.productId := by
      intro k hk
      obtain ⟨risk, hrisk, rfl⟩ := List.mem_map.mp hk
      obtain ⟨row, -, hrow⟩ := List.mem_filterMap.mp hrisk
      exact List.mem_map_of_mem (key_riskRow hrow).1
    have hle := (List.subperm_of_subset hdistinct hsubset).length_le
    rw [List.length_map, List.length_map] at hle
    rw [hperm.length_eq]
    exact hle.trans hfew

/-- Every product is shown. -/
lemma exists_shown {product : Product} (h : product ∈ d.products) :
    ∃ shown ∈ d.rankedProducts, shown.1 = d.productRow product :=
  List.mem_map.mp ((perm_rankedProducts hfew).mem_iff.mpr (List.mem_map_of_mem h))

/-- Every joined inventory row is shown, unless its level is low. -/
lemma exists_risk {row : InventoryRow} {risk : RiskRow} (hrow : row ∈ d.inventory)
    (h : d.riskRow row = some risk) : ∃ ranked ∈ d.rankedRisks, ranked.1 = risk :=
  List.mem_map.mp ((perm_rankedRisks hfew).mem_iff.mpr (List.mem_filterMap.mpr ⟨row, hrow, h⟩))

/-- The products that `list_products` marks as high: those without an inventory row and those with
a risky one. -/
lemma exists_high_item_iff {id : String} :
    (∃ item ∈ d.productItems, item.id = id ∧ item.riskLevel = .high) ↔
      ∃ product ∈ d.products, product.productId = id ∧ (d.productRow product).level = .high := by
  constructor
  · rintro ⟨item, hitem, hid, hhigh⟩
    obtain ⟨shown, hshown, rfl⟩ := mem_productItems_iff.mp hitem
    obtain ⟨hproduct, hrow, -, -⟩ := mem_of_mem_rankedProducts hshown
    have hlevel : shown.1.level = .high := hhigh
    rw [hrow] at hlevel
    exact ⟨shown.1.product, hproduct, hid, hlevel⟩
  · rintro ⟨product, hproduct, hid, hhigh⟩
    obtain ⟨shown, hshown, hrow⟩ := exists_shown hfew hproduct
    refine ⟨_, mem_productItems_iff.mpr ⟨shown, hshown, rfl⟩, ?_, ?_⟩
    · show shown.1.product.productId = id
      rw [hrow]
      exact hid
    · show shown.1.level = .high
      rw [hrow]
      exact hhigh

/-- The products that `list_inventory_risks` marks as high: those with a risky inventory row. -/
lemma exists_high_risk_iff {id : String} :
    (∃ risk ∈ d.riskItems, risk.1.productId = id ∧ risk.2.riskLevel = .high) ↔
      ∃ product ∈ d.products, product.productId = id ∧ ∃ row ∈ d.inventory,
        S.weights row.productId = S.weights product.productId ∧ row.stock ≤ row.safetyStock := by
  constructor
  · rintro ⟨⟨product, item⟩, hitem, hid, hhigh⟩
    obtain ⟨risk, hrisk, hsome, rfl⟩ := mem_riskItems_iff.mp hitem
    obtain ⟨⟨row, hrow, hjoin⟩, -, -⟩ := mem_of_mem_rankedRisks hrisk
    obtain ⟨hproduct, hkey, hstock, hsafety⟩ := key_riskRow hjoin
    refine ⟨risk.1.product, hproduct, hid, row, hrow, hkey.symm, ?_⟩
    have hlevel : risk.1.level = .high := (item_eq_some hsome).2.1 ▸ hhigh
    rw [RiskRow.level, riskLevel_eq_high_iff, hstock, hsafety] at hlevel
    exact hlevel
  · rintro ⟨product, hproduct, hid, row, hrow, hkey, hrisky⟩
    have hjoin : d.riskRow row = some
        { product, stock := row.stock, safetyStock := row.safetyStock
          sales7d := d.sales7d row.productId } := by
      rw [riskRow, (Table.find?_key_eq_some_iff (fun p : Product => S.weights p.productId)
        d.products_distinct).mpr ⟨hproduct, hkey.symm⟩, Option.map_some]
    obtain ⟨risk, hrisk, heq⟩ := exists_risk hfew hrow hjoin
    have hhigh : risk.1.level = .high := by
      rw [heq]
      exact riskLevel_eq_high_iff.mpr hrisky
    obtain ⟨item, hitem⟩ := exists_item (S := S) (by rw [hhigh]; decide) risk.2
    refine ⟨(product, item), mem_riskItems_iff.mpr ⟨risk, hrisk, hitem, by rw [heq]⟩, hid, ?_⟩
    rw [(item_eq_some hitem).2.1, hhigh]

end Few

/-- A product with an inventory row is at the level of that row. -/
lemma productRow_high_iff {product : Product} {row : InventoryRow} (hrow : row ∈ d.inventory)
    (hkey : S.weights row.productId = S.weights product.productId) :
    (d.productRow product).level = .high ↔ row.stock ≤ row.safetyStock := by
  have hstocked : d.stocked product = some row :=
    (Table.find?_key_eq_some_iff (fun r : InventoryRow => S.weights r.productId)
      d.inventory_distinct).mpr ⟨hrow, hkey⟩
  rw [ProductRow.level, riskLevel_eq_high_iff]
  simp only [productRow, hstocked, Option.map_some, Option.getD_some]

/-- A product without one is at a high level. -/
lemma productRow_high_of_none {product : Product} (h : ∀ row ∈ d.inventory,
    S.weights row.productId ≠ S.weights product.productId) :
    (d.productRow product).level = .high := by
  have hstocked : d.stocked product = none :=
    List.find?_eq_none.mpr fun row hrow => by simpa using h row hrow
  rw [ProductRow.level, riskLevel_eq_high_iff]
  simp only [productRow, hstocked, Option.map_none, Option.getD_none, le_refl]

/-- The sets of the products at a high level are equal exactly when every product has an inventory
row. -/
lemma high_iff (hfew : d.products.length ≤ 100) :
    (∀ id, (∃ item ∈ d.productItems, item.id = id ∧ item.riskLevel = .high) ↔
      ∃ risk ∈ d.riskItems, risk.1.productId = id ∧ risk.2.riskLevel = .high) ↔
    ∀ product ∈ d.products,
      ∃ row ∈ d.inventory, S.weights row.productId = S.weights product.productId := by
  simp only [exists_high_item_iff hfew, exists_high_risk_iff hfew]
  constructor
  · intro hhigh product hproduct
    by_contra hnone
    push Not at hnone
    obtain ⟨product', -, hid, row, hrow, hkey, -⟩ := (hhigh product.productId).mp
      ⟨product, hproduct, rfl, productRow_high_of_none hnone⟩
    exact hnone row hrow (hid ▸ hkey)
  · intro hstocked id
    constructor
    · rintro ⟨product, hproduct, hid, hhigh⟩
      obtain ⟨row, hrow, hkey⟩ := hstocked product hproduct
      exact ⟨product, hproduct, hid, row, hrow, hkey, (productRow_high_iff hrow hkey).mp hhigh⟩
    · rintro ⟨product, hproduct, hid, row, hrow, hkey, hrisky⟩
      exact ⟨product, hproduct, hid, (productRow_high_iff hrow hkey).mpr hrisky⟩

/-- The entries at a high level are as many as the products. -/
lemma length_high (hfew : d.products.length ≤ 100) :
    (d.productItems.filter fun item => item.riskLevel = .high).length =
      (d.products.filter fun product => (d.productRow product).level = .high).length := by
  have hperm := ((perm_rankedProducts hfew).filter fun row => row.level = .high).length_eq
  rw [List.filter_map, List.filter_map, List.length_map, List.length_map] at hperm
  rw [productItems, List.filter_map, List.length_map]
  exact hperm

/-- Where every product has an inventory row, the number of risky rows is the one of the products
at a high level exactly when every risky row has a product. -/
lemma count_iff (hfew : d.products.length ≤ 100) (hstocked : ∀ product ∈ d.products,
      ∃ row ∈ d.inventory, S.weights row.productId = S.weights product.productId) :
    d.inventoryRiskSkuCount = (d.productItems.filter fun item => item.riskLevel = .high).length ↔
      ∀ row ∈ d.inventory, row.stock ≤ row.safetyStock →
        ∃ product ∈ d.products, S.weights product.productId = S.weights row.productId := by
  let risky : List K := (d.inventory.filter fun row => row.stock ≤ row.safetyStock).map
    fun row => S.weights row.productId
  let high : List K := (d.products.filter fun product => (d.productRow product).level = .high).map
    fun product => S.weights product.productId
  have hrisky : risky.Nodup := d.inventory_distinct.sublist (List.filter_sublist.map _)
  have hhigh : high.Nodup := d.products_distinct.sublist (List.filter_sublist.map _)
  have hsubset : high ⊆ risky := by
    intro k hk
    obtain ⟨product, hproduct, rfl⟩ := List.mem_map.mp hk
    obtain ⟨hproduct, hlevel⟩ := List.mem_filter.mp hproduct
    obtain ⟨row, hrow, hkey⟩ := hstocked product hproduct
    rw [decide_eq_true_eq, productRow_high_iff hrow hkey] at hlevel
    rw [← hkey]
    exact List.mem_map_of_mem (List.mem_filter.mpr ⟨hrow, decide_eq_true hlevel⟩)
  have hcount : d.inventoryRiskSkuCount = risky.length := by
    rw [List.length_map, inventoryRiskSkuCount, List.countP_eq_length_filter]
  have hlength : (d.productItems.filter fun item => item.riskLevel = .high).length =
      high.length := by rw [length_high hfew, List.length_map]
  rw [hcount, hlength]
  constructor
  · intro hequal row hrow hstock
    have hperm := (List.subperm_of_subset hhigh hsubset).perm_of_length_le hequal.le
    have hmem : S.weights row.productId ∈ risky :=
      List.mem_map_of_mem (List.mem_filter.mpr ⟨hrow, decide_eq_true hstock⟩)
    obtain ⟨product, hproduct, hkey⟩ := List.mem_map.mp (hperm.mem_iff.mpr hmem)
    exact ⟨product, List.mem_of_mem_filter hproduct, hkey⟩
  · intro howned
    have hback : risky ⊆ high := by
      intro k hk
      obtain ⟨row, hrow, rfl⟩ := List.mem_map.mp hk
      obtain ⟨hrow, hstock⟩ := List.mem_filter.mp hrow
      obtain ⟨product, hproduct, hkey⟩ := howned row hrow (of_decide_eq_true hstock)
      rw [← hkey]
      exact List.mem_map_of_mem (List.mem_filter.mpr ⟨hproduct, decide_eq_true
        ((productRow_high_iff hrow hkey.symm).mpr (of_decide_eq_true hstock))⟩)
    exact le_antisymm (List.subperm_of_subset hrisky hback).length_le
      (List.subperm_of_subset hhigh hsubset).length_le

/-! ### When the views agree -/

/-- Filtering by its own level shows every product only where no row is cut off. -/
lemma few_of_filtered (h : ∀ filters, ∀ product ∈ d.products,
      (∃ item ∈ d.listProducts filters, item.id = product.productId) ↔ d.Matches filters product) :
    d.products.length ≤ 100 := by
  have hsubset : (d.products.map fun p => S.weights p.productId) ⊆
      d.rankedProducts.map fun shown => S.weights shown.1.product.productId := by
    intro k hk
    obtain ⟨product, hproduct, rfl⟩ := List.mem_map.mp hk
    have hmatches : d.Matches ⟨none, some (d.productRow product).level.text⟩ product :=
      ⟨fun level hlevel _ => Option.some.inj hlevel, fun hword => absurd S.lower_empty hword⟩
    obtain ⟨item, hitem, hid⟩ := (h _ product hproduct).mpr hmatches
    obtain ⟨shown, hshown, rfl⟩ := mem_productItems_iff.mp (mem_listProducts_iff.mp hitem).1
    exact List.mem_map.mpr ⟨shown, hshown, congrArg S.weights hid⟩
  have hle := (List.subperm_of_subset d.products_distinct hsubset).length_le
  rw [List.length_map, List.length_map, rankedProducts, List.length_zipIdx, List.length_take] at hle
  omega

/-- With every product shown, the filters return the products that meet them. -/
lemma filtered_of_few (hfew : d.products.length ≤ 100) (filters : ProductFilters)
    {product : Product} (hproduct : product ∈ d.products) :
    (∃ item ∈ d.listProducts filters, item.id = product.productId) ↔
      d.Matches filters product := by
  have hself : ∀ shown ∈ d.rankedProducts, shown.1.product.productId = product.productId →
      shown.1.product = product ∧ shown.1 = d.productRow product := by
    intro shown hshown hid
    obtain ⟨hmem, hrow, -, -⟩ := mem_of_mem_rankedProducts hshown
    have heq := eq_of_weights hmem hproduct (congrArg S.weights hid)
    exact ⟨heq, heq ▸ hrow⟩
  constructor
  · rintro ⟨item, hitem, hid⟩
    obtain ⟨hmem, hlevel, hword⟩ := mem_listProducts_iff.mp hitem
    obtain ⟨shown, hshown, rfl⟩ := mem_productItems_iff.mp hmem
    obtain ⟨heq, hrow⟩ := hself shown hshown hid
    refine ⟨fun level h hne => hrow ▸ hlevel level h hne, fun hkeyword => ?_⟩
    rcases hword hkeyword with hname | hsku
    · exact .inl (heq ▸ hname)
    · refine .inr ⟨_, ?_, hid, hsku⟩
      rw [listProducts_noFilter]
      exact hmem
  · rintro ⟨hlevel, hword⟩
    obtain ⟨item, hitem, hid, hshown⟩ : ∃ item ∈ d.productItems, item.id = product.productId ∧
        (S.lower (filters.keyword.getD "") ≠ "" →
          mentions (S.lower item.name) (S.lower (filters.keyword.getD "")) ∨
            mentions (S.lower item.sku) (S.lower (filters.keyword.getD ""))) := by
      obtain ⟨shown, hshown, hrow⟩ := exists_shown hfew hproduct
      have hitem := mem_productItems_iff.mpr ⟨shown, hshown, rfl⟩
      by_cases hkeyword : S.lower (filters.keyword.getD "") = ""
      · exact ⟨_, hitem, by rw [hrow]; rfl, fun hne => absurd hkeyword hne⟩
      · rcases hword hkeyword with hname | ⟨item, hlisted, hid, hsku⟩
        · exact ⟨_, hitem, by rw [hrow]; rfl, fun _ => .inl (by rw [hrow]; exact hname)⟩
        · rw [listProducts_noFilter] at hlisted
          exact ⟨item, hlisted, hid, fun _ => .inr hsku⟩
    refine ⟨item, mem_listProducts_iff.mpr ⟨hitem, fun level h hne => ?_, hshown⟩, hid⟩
    obtain ⟨shown, hmem, rfl⟩ := mem_productItems_iff.mp hitem
    rw [← hlevel level h hne, ← (hself shown hmem hid).2]
    rfl

/-- The SKUs of the list of products differ exactly when prefixes or numbers do. -/
lemma distinctSku_iff : (d.productItems.Pairwise fun item item' => item.sku ≠ item'.sku) ↔
    d.rankedProducts.Pairwise fun shown shown' =>
      skuParts S.toSkuLibrary shown.1.product.productId (some shown.1.product.category) shown.2 ≠
        skuParts S.toSkuLibrary shown'.1.product.productId (some shown'.1.product.category)
          shown'.2 := by
  rw [productItems, List.pairwise_map]
  have hsku : ∀ {shown shown' : ProductRow F × ℕ}, shown ∈ d.rankedProducts →
      shown' ∈ d.rankedProducts → ∀ threshold,
      ((shown.1.item S.toSkuLibrary threshold shown.2).sku =
        (shown'.1.item S.toSkuLibrary threshold shown'.2).sku ↔
      skuParts S.toSkuLibrary shown.1.product.productId (some shown.1.product.category) shown.2 =
        skuParts S.toSkuLibrary shown'.1.product.productId (some shown'.1.product.category)
          shown'.2) := fun hshown hshown' _ =>
    displaySku_eq_iff S.toSkuLibrary (mem_of_mem_rankedProducts hshown).2.2.2
      (mem_of_mem_rankedProducts hshown').2.2.2 _ _ _ _
  constructor
  · exact fun h => h.imp_of_mem fun hshown hshown' hne heq => hne ((hsku hshown hshown' _).mpr heq)
  · exact fun h => h.imp_of_mem fun hshown hshown' hne heq => hne ((hsku hshown hshown' _).mp heq)

/-- What both lists show of a product. -/
lemma sku_eq_iff {shown : ProductRow F × ℕ} {risk : RiskRow × ℕ} {item : RiskItem F}
    (hshown : shown ∈ d.rankedProducts) (hrisk : risk ∈ d.rankedRisks)
    (hitem : risk.1.item S risk.2 = some item) (hsame : risk.1.product = shown.1.product)
    (threshold : ℕ) :
    item.sku = (shown.1.item S.toSkuLibrary threshold shown.2).sku ↔
      Alike (S := S) shown risk := by
  rw [(item_eq_some hitem).2.2, hsame]
  exact displaySku_eq_none_iff S.toSkuLibrary (mem_of_mem_rankedProducts hshown).2.2.2
    (mem_of_mem_rankedRisks hrisk).2.2 _ _

/-- The lists show the same SKUs exactly when the products they share are shown alike. -/
lemma sameSku_iff : (∀ item ∈ d.productItems, ∀ risk ∈ d.riskItems,
      risk.1.productId = item.id → risk.2.sku = item.sku) ↔
    ∀ shown ∈ d.rankedProducts, ∀ risk ∈ d.rankedRisks,
      risk.1.product = shown.1.product → risk.1.level ≠ .low → Alike (S := S) shown risk := by
  constructor
  · intro h shown hshown risk hrisk hsame hlevel
    obtain ⟨item, hitem⟩ := exists_item (S := S) hlevel risk.2
    have hsku := h _ (mem_productItems_iff.mpr ⟨shown, hshown, rfl⟩) (risk.1.product, item)
      (mem_riskItems_iff.mpr ⟨risk, hrisk, hitem, rfl⟩) (congrArg Product.productId hsame)
    exact (sku_eq_iff hshown hrisk hitem hsame _).mp hsku
  · rintro h item hitem ⟨product, item'⟩ hentry hid
    obtain ⟨shown, hshown, rfl⟩ := mem_productItems_iff.mp hitem
    obtain ⟨risk, hrisk, hsome, rfl⟩ := mem_riskItems_iff.mp hentry
    obtain ⟨⟨row, -, hjoin⟩, -, -⟩ := mem_of_mem_rankedRisks hrisk
    have hsame : risk.1.product = shown.1.product := eq_of_weights (key_riskRow hjoin).1
      (mem_of_mem_rankedProducts hshown).1 (congrArg S.weights hid)
    exact (sku_eq_iff hshown hrisk hsome hsame _).mpr
      (h shown hshown risk hrisk hsame (item_eq_some hsome).1)

/-- The SKUs of the list of risks differ where those of the list of products do and are the
same. -/
lemma distinctRisk_of (hfew : d.products.length ≤ 100)
    (hsame : ∀ item ∈ d.productItems, ∀ risk ∈ d.riskItems,
      risk.1.productId = item.id → risk.2.sku = item.sku)
    (hdistinct : d.productItems.Pairwise fun item item' => item.sku ≠ item'.sku) :
    d.riskItems.Pairwise fun risk risk' => risk.2.sku ≠ risk'.2.sku := by
  have hentry : ∀ {risk : RiskRow × ℕ} {item : RiskItem F}, risk ∈ d.rankedRisks →
      risk.1.item S risk.2 = some item → ∃ entry ∈ d.productItems,
        entry.id = risk.1.product.productId ∧ item.sku = entry.sku := by
    intro risk item hrisk hitem
    obtain ⟨⟨row, -, hjoin⟩, -, -⟩ := mem_of_mem_rankedRisks hrisk
    obtain ⟨shown, hshown, hrow⟩ := exists_shown hfew (key_riskRow hjoin).1
    have hmem := mem_productItems_iff.mpr ⟨shown, hshown, rfl⟩
    have hid : risk.1.product.productId = shown.1.product.productId := by
      rw [hrow]
      rfl
    exact ⟨_, hmem, hid.symm, hsame _ hmem (risk.1.product, item)
      (mem_riskItems_iff.mpr ⟨risk, hrisk, hitem, rfl⟩) hid⟩
  have hne : ∀ entry ∈ d.productItems, ∀ entry' ∈ d.productItems, entry.id ≠ entry'.id →
      entry.sku ≠ entry'.sku := by
    intro entry hentry entry' hentry' hid
    have : Std.Symm fun item item' : ProductItem F => item.sku ≠ item'.sku :=
      ⟨fun _ _ h => h.symm⟩
    exact hdistinct.forall hentry hentry' fun heq => hid (congrArg ProductItem.id heq)
  rw [riskItems, List.pairwise_filterMap]
  refine rankedRisks_distinct.imp_of_mem fun hrisk hrisk' hkey x hx x' hx' => ?_
  obtain ⟨item, hitem, rfl⟩ := Option.map_eq_some_iff.mp hx
  obtain ⟨item', hitem', rfl⟩ := Option.map_eq_some_iff.mp hx'
  obtain ⟨entry, hmem, hid, hsku⟩ := hentry hrisk hitem
  obtain ⟨entry', hmem', hid', hsku'⟩ := hentry hrisk' hitem'
  show item.sku ≠ item'.sku
  rw [hsku, hsku']
  refine hne entry hmem entry' hmem' fun heq => hkey ?_
  rw [← hid, ← hid', heq]

variable (d)

/-- The product, the inventory and the metric view agree exactly on consistent data. -/
theorem views_agree_iff : d.Agree ↔ d.Consistent := by
  constructor
  · intro h
    have hlist := listProducts_noFilter (d := d)
    have hfew := few_of_filtered h.filtered
    have hstocked := (high_iff hfew).mp (hlist ▸ h.high)
    exact
      { few := hfew
        stocked := hstocked
        owned := (count_iff hfew hstocked).mp (hlist ▸ h.count)
        alike := sameSku_iff.mp (hlist ▸ h.sameSku)
        apart := distinctSku_iff.mp (hlist ▸ h.distinctSku) }
  · intro h
    have hlist := (listProducts_noFilter (d := d)).symm
    have hsame := sameSku_iff.mpr h.alike
    have hdistinct := distinctSku_iff.mpr h.apart
    exact
      { sameSku := hlist ▸ hsame
        distinctSku := hlist ▸ hdistinct
        distinctRisk := distinctRisk_of h.few hsame hdistinct
        high := hlist ▸ (high_iff h.few).mpr h.stocked
        count := hlist ▸ (count_iff h.few h.stocked).mpr h.owned
        filtered := fun filters _ hproduct => filtered_of_few h.few filters hproduct }

end ShopTables

/-! ### A gift -/

instance {F : Type} : Std.Total (ProductRow.Before (F := F)) :=
  ⟨fun a b => by simp only [ProductRow.Before]; omega⟩

instance {F : Type} : IsTrans (ProductRow F) ProductRow.Before :=
  ⟨fun a b c => by simp only [ProductRow.Before]; omega⟩

instance : Std.Total RiskRow.Before := ⟨fun a b => by simp only [RiskRow.Before]; omega⟩

instance : IsTrans RiskRow RiskRow.Before :=
  ⟨fun a b c => by simp only [RiskRow.Before]; omega⟩

/-- A server that compares ids as they are and leaves equal rows in their order; the number is the
one of the id `p-1`. -/
def plainServer : CatalogServer String Unit where
  lower := id
  lower_empty := rfl
  stableNumber := fun _ => 47
  stableNumber_lt := fun _ => by decide
  weights := id
  average := fun _ => ()
  percentage := fun _ _ => ()
  turnoverDays := fun _ _ => ()
  arrangeProducts := List.insertionSort ProductRow.Before
  arrangeProducts_perm := List.perm_insertionSort _
  arrangeProducts_sorted := List.pairwise_insertionSort _
  arrangeRisks := List.insertionSort RiskRow.Before
  arrangeRisks_perm := List.perm_insertionSort _
  arrangeRisks_sorted := List.pairwise_insertionSort _

/-- One product of the category gift, which is out of stock. -/
def giftShop : ShopTables plainServer where
  products := [⟨"p-1", some "礼盒", some "gift"⟩]
  inventory := [⟨"p-1", 0, 5⟩]
  orders := []
  items := []
  traffic := []
  products_distinct := by decide
  inventory_distinct := by decide
  orders_distinct := by decide

/-- The product is shown as `ORANGE-GIFT-047` in one list and as `SKU-047` in the other. -/
theorem not_agree_giftShop : ¬giftShop.Agree := by
  intro h
  have hproduct : (giftShop.listProducts ShopTables.noFilter).map
      (fun item => (item.id, item.sku)) = [("p-1", "ORANGE-GIFT-047")] := by decide +kernel
  have hrisk : giftShop.riskItems.map (fun risk => (risk.1.productId, risk.2.sku)) =
      [("p-1", "SKU-047")] := by decide +kernel
  obtain ⟨item, hitem, heq⟩ := List.mem_map.mp (hproduct ▸ List.mem_singleton_self _ :
    ("p-1", "ORANGE-GIFT-047") ∈ (giftShop.listProducts ShopTables.noFilter).map _)
  obtain ⟨risk, hrisk, heq'⟩ := List.mem_map.mp (hrisk ▸ List.mem_singleton_self _ :
    ("p-1", "SKU-047") ∈ giftShop.riskItems.map _)
  obtain ⟨hid, hsku⟩ := Prod.mk.inj heq
  obtain ⟨hid', hsku'⟩ := Prod.mk.inj heq'
  have hsame := h.sameSku item hitem risk hrisk (hid'.trans hid.symm)
  rw [hsku, hsku'] at hsame
  exact absurd hsame (by decide)

end EcommerceAgent.Queries
