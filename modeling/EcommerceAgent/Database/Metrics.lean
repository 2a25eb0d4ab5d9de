/-
# The queries of the business metrics

The queries of `agent/tools/business_metrics.py`, with the filters that each range of time and the
identity of the caller put into them.  The ids and the keyword of a campaign are spliced into the
texts; where the server reads them back as they are, the results are determined by the caller's
rows, up to one value: the daily queries count their days from the newest order of all shops, and
the campaign queries without a keyword from the newest end of all campaigns (`text_eq_of_agree`).
-/
import EcommerceAgent.Lib.SqlScope
import EcommerceAgent.Lib.Lines
import EcommerceAgent.Database.ScopeFilter
import EcommerceAgent.Database.Sql
import EcommerceAgent.Database.TimeRange

open EcommerceAgent.Lib EcommerceAgent.Lib.SqlQuery
open EcommerceAgent.Database.ScopeFilter

namespace EcommerceAgent.Database.Metrics

open TimeRange

/-! ### Parts of the texts -/

/-- A function or an operator of the server. -/
def call (name : String) (args : List Expr) : Expr := .fn name (Exprs.of args)

/-- `COALESCE(e, 0)`. -/
def orZero (e : Expr) : Expr := call "COALESCE" [e, .num 0]

/-- `ROUND(e, digits)`. -/
def round (e : Expr) (digits : ℤ) : Expr := call "ROUND" [e, .num digits]

/-- `COUNT(*)`. -/
def countRows : Expr := .agg "COUNT" (.num 1)

/-- `SUM(e)`. -/
def sum (e : Expr) : Expr := .agg "SUM" e

/-- `a / NULLIF(b, 0)`. -/
def ratio (a b : Expr) : Expr := call "/" [a, call "NULLIF" [b, .num 0]]

/-- `o.order_status IN ('delivered', 'shipped', 'invoiced', 'approved')`. -/
def isSold : Expr :=
  call "IN" [.col "o" "order_status", .lit "delivered", .lit "shipped", .lit "invoiced",
    .lit "approved"]

/-- `a.column = b.column`. -/
def same (a b column : String) : Expr := .eq (.col a column) (.col b column)

/-- `_required_data_scope`; the parameters are the ids that the server reads in the text. -/
def requiredDataScope (tableAlias : String) : List Expr :=
  [.eq (.col tableAlias "tenant_id") (.param "tenant_id"),
    .eq (.col tableAlias "shop_id") (.param "shop_id")]

/-- `DATE_ADD(e, INTERVAL n DAY)`. -/
def dateAdd (e : Expr) (n : ℤ) : Expr := call "DATE_ADD" [e, .num n]

/-- `DATE_SUB(e, INTERVAL n DAY)`. -/
def dateSub (e : Expr) (n : ℤ) : Expr := call "DATE_SUB" [e, .num n]

/-- `DATE(e)`. -/
def date (e : Expr) : Expr := call "DATE" [e]

/-- `_time_filter`. -/
def timeFilter (column anchor : Expr) (range : BusinessTimeRange) : List Expr :=
  if range.label = "today" then
    [call ">=" [column, date anchor], call "<" [column, dateAdd (date anchor) 1]]
  else if range.offsetDays ≠ 0 then
    [call ">=" [column, dateSub (date anchor) range.offsetDays],
      call "<" [column, dateSub (date anchor) (range.offsetDays - 1)]]
  else [call ">=" [column, dateSub anchor range.days]]

/-- `SELECT MAX(column) AS name FROM table`. -/
def latest (name table column : String) (conditions : List Expr) : Query :=
  Block.query
    { items := [(name, .agg "MAX" (.col table column))]
      source := .table table table
      conditions := conditions
      grouped := true }

/-- `(SELECT MAX(end_time) FROM campaigns)`. -/
def newestCampaign : Query := latest "MAX(end_time)" "campaigns" "end_time" []

/-- `_campaign_time_filter`. -/
def campaignTimeFilter (range : BusinessTimeRange) : List Expr :=
  let anchor := Expr.scalar newestCampaign
  if range.campaignKeyword ≠ "" then
    [call "LIKE" [.col "c" "campaign_name", .lit ("%" ++ range.campaignKeyword ++ "%")]]
  else
    let bounds :=
      if range.label = "today" then (date anchor, dateAdd (date anchor) 1)
      else if range.offsetDays ≠ 0 then
        (dateSub (date anchor) range.offsetDays, dateSub (date anchor) (range.offsetDays - 1))
      else (dateSub anchor range.days, anchor)
    [call "<=" [.col "c" "start_time", bounds.2], call ">=" [.col "c" "end_time", bounds.1]]

/-! ### The daily queries -/

/-- `bounds` of the daily queries, without the scope. -/
def newestOrder : Query := latest "max_time" "orders" "order_purchase_timestamp" []

/-- `o.order_purchase_timestamp` in the range, from the anchor `b.max_time`. -/
def orderFilter (range : BusinessTimeRange) : List Expr :=
  timeFilter (.col "o" "order_purchase_timestamp") (.col "b" "max_time") range

/-- `FROM refunds rf CROSS JOIN bounds b`, and so on. -/
def crossBounds (source : Source) (bounds name : String) : Source :=
  .join source (.named bounds name) .true_

/-- The reviews with their orders and the bounds. -/
def reviewedOrders : Source :=
  crossBounds (.join (.table "reviews" "r") (.table "orders" "o") (same "o" "r" "order_id"))
    "bounds" "b"

/-- `query_daily_metrics`. -/
def queryDailyMetrics (range : BusinessTimeRange) : Query :=
  let gmv := sum (.col "oi" "price")
  let orders := Expr.agg "COUNT DISTINCT" (.col "o" "order_id")
  let isBad := call "CASE" [call "<=" [.col "r" "review_score", .num 2], .num 1, .num 0]
  let refundFilter := timeFilter (.col "rf" "refund_time") (.col "b" "max_time") range
  Query.withAll
    [("bounds", newestOrder),
      ("sales", Block.query
        { items := [("orders_count", orders),
            ("units_sold", .agg "COUNT" (.col "oi" "product_id")),
            ("gmv", round gmv 2), ("aov", round (ratio gmv orders) 2)]
          source := crossBounds (.join (.table "orders" "o") (.table "order_items" "oi")
            (same "oi" "o" "order_id")) "bounds" "b"
          conditions := isSold :: (requiredDataScope "o" ++ requiredDataScope "oi" ++
            orderFilter range)
          grouped := true }),
      ("reviews_30d", Block.query
        { items := [("avg_review_score", round (.agg "AVG" (.col "r" "review_score")) 2),
            ("bad_reviews", sum isBad)]
          source := reviewedOrders
          conditions := requiredDataScope "r" ++ requiredDataScope "o" ++ orderFilter range
          grouped := true }),
      ("refunds_30d", Block.query
        { items := [("refund_count", countRows),
            ("refund_amount", round (sum (.col "rf" "refund_amount")) 2)]
          source := crossBounds (.table "refunds" "rf") "bounds" "b"
          conditions := requiredDataScope "rf" ++ refundFilter
          grouped := true })]
    (Block.query
      { items := [("orders_count", orZero (.col "s" "orders_count")),
          ("units_sold", orZero (.col "s" "units_sold")), ("gmv", orZero (.col "s" "gmv")),
          ("aov", orZero (.col "s" "aov")),
          ("avg_review_score", orZero (.col "rv" "avg_review_score")),
          ("bad_reviews", orZero (.col "rv" "bad_reviews")),
          ("refund_count", orZero (.col "rf" "refund_count")),
          ("refund_amount", orZero (.col "rf" "refund_amount")),
          ("refund_rate", round (ratio (orZero (.col "rf" "refund_count"))
            (orZero (.col "s" "orders_count"))) 4)]
        source := crossBounds (crossBounds (.named "sales" "s") "reviews_30d" "rv")
          "refunds_30d" "rf" })

/-- The three most frequent reasons or issues in `refund_reasons` and `service_risks`. -/
def topThree (table tableAlias column count time : String) (range : BusinessTimeRange) : Query :=
  Block.query
    { items := [(column, .col tableAlias column), (count, countRows)]
      source := crossBounds (.table table tableAlias) "bounds" "b"
      conditions := requiredDataScope tableAlias ++
        timeFilter (.col tableAlias time) (.col "b" "max_time") range
      grouped := true
      groupBy := [.col tableAlias column]
      orderBy := [(countRows, true)]
      limit := some 3 }

/-- A `SELECT` of the union that ends `query_daily_risks`. -/
def riskRow (risk : Expr) (count source : String) : Query :=
  Block.query
    { items := [("risk_type", risk), ("risk_value", call "CAST AS CHAR" [.col source count])]
      source := .named source source }

/-- `query_daily_risks`. -/
def queryDailyRisks (range : BusinessTimeRange) : Query :=
  Query.withAll
    [("bounds", newestOrder),
      ("low_inventory", Block.query
        { items := [("low_inventory_products", countRows)]
          source := .table "inventory" "inventory"
          conditions := requiredDataScope "inventory" ++
            [call "<=" [.col "inventory" "stock", .col "inventory" "safety_stock"]]
          grouped := true }),
      ("bad_reviews", Block.query
        { items := [("bad_review_count", countRows)]
          source := reviewedOrders
          conditions := call "<=" [.col "r" "review_score", .num 2] ::
            (requiredDataScope "r" ++ requiredDataScope "o" ++ orderFilter range)
          grouped := true }),
      ("refund_reasons", topThree "refunds" "rf" "refund_reason" "refund_count" "refund_time"
        range),
      ("service_risks", topThree "customer_service_tickets" "t" "issue_type" "ticket_count"
        "ticket_time" range)]
    (.unionAll
      (.unionAll
        (.unionAll
          (riskRow (.lit "low_inventory_products") "low_inventory_products" "low_inventory")
          (riskRow (.lit "bad_review_count") "bad_review_count" "bad_reviews"))
        (riskRow (call "CONCAT" [.lit "top_refund_reason:", .col "refund_reasons" "refund_reason"])
          "refund_count" "refund_reasons"))
      (riskRow (call "CONCAT" [.lit "top_service_issue:", .col "service_risks" "issue_type"])
        "ticket_count" "service_risks"))

/-! ### Shop and stock -/

/-- `query_shop_profile`. -/
def queryShopProfile : Query :=
  Block.query
    { items := [("shop_id", .col "gs" "id"), ("shop_name", .col "gs" "name"),
        ("category", .col "gs" "category"), ("platform", .col "gs" "platform"),
        ("shop_type", .col "gs" "shop_type"), ("business_stage", .col "gs" "business_stage"),
        ("auth_status", .col "gs" "auth_status"), ("data_status", .col "gs" "data_status"),
        ("last_sync_at", .col "gs" "last_sync_at")]
      source := .table "gateway_shops" "gs"
      conditions := [.eq (.col "gs" "tenant_id") (.param "tenant_id"),
        .eq (.col "gs" "id") (.param "shop_id")]
      limit := some 1 }

/-- `bounds` of the other queries, with the scope. -/
def ownNewestOrder (name : String) : Query :=
  latest name "orders" "order_purchase_timestamp" (requiredDataScope "orders")

/-- The items with their orders and the bounds. -/
def soldItems (bounds : String) : Source :=
  crossBounds (.join (.table "order_items" "oi") (.table "orders" "o")
    (same "o" "oi" "order_id")) bounds "b"

/-- The conditions of the sales of a range. -/
def soldInRange (range : BusinessTimeRange) : List Expr :=
  isSold :: (requiredDataScope "o" ++ requiredDataScope "oi" ++ orderFilter range)

/-- The stock of the products with their sales in the range. -/
def stockWithSales (sales salesAlias : String) : Source :=
  .leftJoin (.join (.table "inventory" "i") (.table "products" "p") (same "p" "i" "product_id"))
    (.named sales salesAlias) (same salesAlias "i" "product_id")

/-- `i.stock`. -/
def stock : Expr := .col "i" "stock"

/-- `i.safety_stock`. -/
def safetyStock : Expr := .col "i" "safety_stock"

/-- `query_inventory_risks`. -/
def queryInventoryRisks (range : BusinessTimeRange) : Query :=
  let units := orZero (.col "rs" "units_sold_30d")
  let amount := orZero (.col "rs" "sales_amount_30d")
  let soldOut := call "<=" [stock, .num 0]
  let low := call "<=" [stock, safetyStock]
  let unsold := call "=" [units, .num 0]
  let ample := call ">" [stock, safetyStock]
  Query.withAll
    [("bounds", ownNewestOrder "max_time"),
      ("recent_sales", Block.query
        { items := [("product_id", .col "oi" "product_id"), ("units_sold_30d", countRows),
            ("sales_amount_30d", round (sum (.col "oi" "price")) 2)]
          source := soldItems "bounds"
          conditions := soldInRange range
          grouped := true
          groupBy := [.col "oi" "product_id"] })]
    (Block.query
      { items := [("product_id", .col "i" "product_id"),
          ("category_name_en", .col "p" "category_name_en"), ("stock", stock),
          ("safety_stock", safetyStock), ("units_sold_30d", units),
          ("sales_amount_30d", amount),
          ("risk_type", call "CASE" [soldOut, .lit "out_of_stock", low,
            .lit "below_safety_stock", .and unsold ample, .lit "slow_moving", .lit "watch"])]
        source := stockWithSales "recent_sales" "rs"
        conditions := requiredDataScope "i" ++ requiredDataScope "p" ++
          [call "OR" [low, soldOut, .and unsold ample]]
        orderBy := [(call "CASE" [soldOut, .num 1, low, .num 2, .num 3], false), (amount, true)]
        limit := some 20 })

/-- `query_inventory_velocity`. -/
def queryInventoryVelocity (range : BusinessTimeRange) : Query :=
  let units := orZero (.col "s" "units_sold_30d")
  let amount := orZero (.col "s" "sales_amount_30d")
  let low := call "<=" [stock, safetyStock]
  let replenishment :=
    call "GREATEST" [call "-" [call "*" [safetyStock, .num 2], stock], .num 0]
  Query.withAll
    [("bounds", ownNewestOrder "max_time"),
      ("sales_30d", Block.query
        { items := [("product_id", .col "oi" "product_id"), ("units_sold_30d", countRows),
            ("avg_daily_units", round (call "/" [countRows, .num range.days]) 2),
            ("sales_amount_30d", round (sum (.col "oi" "price")) 2)]
          source := soldItems "bounds"
          conditions := soldInRange range
          grouped := true
          groupBy := [.col "oi" "product_id"] })]
    (Block.query
      { items := [("product_id", .col "i" "product_id"),
          ("category_name_en", .col "p" "category_name_en"), ("stock", stock),
          ("safety_stock", safetyStock), ("units_sold_30d", units),
          ("avg_daily_units", orZero (.col "s" "avg_daily_units")),
          ("sales_amount_30d", amount), ("suggested_replenishment", replenishment),
          ("suggested_action", call "CASE" [.and low (call ">" [units, .num 0]),
            .lit "replenish_first", low, .lit "protect_stock", call "=" [units, .num 0],
            .lit "clearance_or_pause", .lit "normal"])]
        source := stockWithSales "sales_30d" "s"
        conditions := requiredDataScope "i" ++ requiredDataScope "p"
        orderBy := [(replenishment, true), (amount, true)]
        limit := some 20 })

/-! ### Campaigns -/

/-- The campaigns with the numbers of their products. -/
def campaignStats : Source :=
  .join (.table "campaigns" "c") (.table "campaign_product_stats" "cps")
    (same "cps" "c" "campaign_id")

/-- The conditions of a campaign query over `campaignStats`. -/
def campaignInRange (range : BusinessTimeRange) : List Expr :=
  campaignTimeFilter range ++ requiredDataScope "c" ++ requiredDataScope "cps"

/-- `SUM(cps.column)`. -/
def sumStat (column : String) : Expr := sum (.col "cps" column)

/-- `query_campaign_traffic`. -/
def queryCampaignTraffic (range : BusinessTimeRange) : Query :=
  Block.query
    { items := [("campaign_id", .col "c" "campaign_id"),
        ("campaign_name", .col "c" "campaign_name"), ("channel", .col "c" "channel"),
        ("status", .col "c" "status"), ("impressions", sumStat "impressions"),
        ("clicks", sumStat "clicks"),
        ("ctr", round (ratio (sumStat "clicks") (sumStat "impressions")) 4)]
      source := campaignStats
      conditions := campaignInRange range
      grouped := true
      groupBy := [.col "c" "campaign_id", .col "c" "campaign_name", .col "c" "channel",
        .col "c" "status"]
      orderBy := [(sumStat "impressions", true)]
      limit := some 20 }

/-- `query_campaign_roi`. -/
def queryCampaignRoi (range : BusinessTimeRange) : Query :=
  let revenue := round (sumStat "revenue") 2
  let roi := round (ratio (sumStat "revenue") (sumStat "spend")) 2
  Block.query
    { items := [("campaign_id", .col "c" "campaign_id"),
        ("campaign_name", .col "c" "campaign_name"), ("channel", .col "c" "channel"),
        ("orders_count", sumStat "orders_count"), ("revenue", revenue),
        ("spend", round (sumStat "spend") 2), ("roi", roi),
        ("click_to_order_rate", round (ratio (sumStat "orders_count") (sumStat "clicks")) 4)]
      source := campaignStats
      conditions := campaignInRange range
      grouped := true
      groupBy := [.col "c" "campaign_id", .col "c" "campaign_name", .col "c" "channel"]
      orderBy := [(roi, true), (revenue, true)]
      limit := some 20 }

/-- `a AND b`, with the scope of a joined table behind it. -/
def onScoped (on : Expr) (tableAlias : String) : Expr :=
  Expr.all (on :: requiredDataScope tableAlias)

/-- The keys of a product of a campaign. -/
def campaignProduct (tableAlias : String) : List Expr :=
  [.col tableAlias "campaign_id", .col tableAlias "product_id"]

/-- `x.campaign_id = cp.campaign_id AND x.product_id = cp.product_id`. -/
def sameCampaignProduct (tableAlias : String) : Expr :=
  .and (same tableAlias "cp" "campaign_id") (same tableAlias "cp" "product_id")

/-- `query_campaign_risks`. -/
def queryCampaignRisks (range : BusinessTimeRange) : Query :=
  let low := call "<=" [stock, safetyStock]
  let refunds := orZero (.col "rr" "refund_count")
  let refundAmount := orZero (.col "rr" "refund_amount")
  let badReviews := orZero (.col "rv" "bad_review_count")
  let isBad := call "CASE" [call "<=" [.col "r" "review_score", .num 2], .num 1]
  Query.withAll
    [("campaign_products", Block.query
        { distinct := true
          items := [("campaign_id", .col "campaign_product_stats" "campaign_id"),
            ("product_id", .col "campaign_product_stats" "product_id")]
          source := .table "campaign_product_stats" "campaign_product_stats"
          conditions := requiredDataScope "campaign_product_stats" }),
      ("refund_risk", Block.query
        { items := [("campaign_id", .col "cp" "campaign_id"),
            ("product_id", .col "cp" "product_id"),
            ("refund_count", .agg "COUNT" (.col "rf" "refund_id")),
            ("refund_amount", round (sum (.col "rf" "refund_amount")) 2)]
          source := .leftJoin (.named "campaign_products" "cp") (.table "refunds" "rf")
            (onScoped (same "rf" "cp" "product_id") "rf")
          grouped := true
          groupBy := campaignProduct "cp" }),
      ("review_risk", Block.query
        { items := [("campaign_id", .col "cp" "campaign_id"),
            ("product_id", .col "cp" "product_id"), ("bad_review_count", .agg "COUNT" isBad)]
          source := .leftJoin
            (.leftJoin
              (.leftJoin (.named "campaign_products" "cp") (.table "order_items" "oi")
                (onScoped (same "oi" "cp" "product_id") "oi"))
              (.table "orders" "o") (onScoped (same "o" "oi" "order_id") "o"))
            (.table "reviews" "r") (onScoped (same "r" "o" "order_id") "r")
          grouped := true
          groupBy := campaignProduct "cp" })]
    (Block.query
      { items := [("campaign_id", .col "c" "campaign_id"),
          ("campaign_name", .col "c" "campaign_name"), ("product_id", .col "cp" "product_id"),
          ("category_name_en", .col "p" "category_name_en"), ("stock", stock),
          ("safety_stock", safetyStock), ("refund_count", refunds),
          ("refund_amount", refundAmount), ("bad_review_count", badReviews),
          ("risk_type", call "CASE" [low, .lit "inventory_risk", call ">" [refunds, .num 0],
            .lit "refund_risk", call ">" [badReviews, .num 0], .lit "review_risk",
            .lit "normal"])]
        source := .leftJoin
          (.leftJoin
            (.leftJoin
              (.join (.join (.table "campaigns" "c") (.named "campaign_products" "cp")
                (same "cp" "c" "campaign_id")) (.table "products" "p") (same "p" "cp" "product_id"))
              (.table "inventory" "i") (onScoped (same "i" "cp" "product_id") "i"))
            (.named "refund_risk" "rr") (sameCampaignProduct "rr"))
          (.named "review_risk" "rv") (sameCampaignProduct "rv")
        conditions := campaignTimeFilter range ++ requiredDataScope "c" ++ requiredDataScope "p" ++
          [call "OR" [low, call ">" [refunds, .num 0], call ">" [badReviews, .num 0]]]
        orderBy := [(refundAmount, true), (badReviews, true)]
        limit := some 20 })

/-! ### Hot products -/

/-- The sums of `traffic`, with their names. -/
def trafficItems : List (String × Expr) :=
  ["views", "visitors", "add_to_cart", "favorites", "conversions"].map fun column =>
    (column, sum (.col "ts" column))

/-- The sums of `campaign`. -/
def campaignItems : List (String × Expr) :=
  let stat := fun column => sum (.col "campaign_product_stats" column)
  [("campaign_impressions", stat "impressions"), ("campaign_clicks", stat "clicks"),
    ("campaign_orders", stat "orders_count"), ("campaign_revenue", round (stat "revenue") 2),
    ("campaign_spend", round (stat "spend") 2),
    ("campaign_roi", round (ratio (stat "revenue") (stat "spend")) 2)]

/-- The query of `query_hot_products` for a range. -/
def queryHotProducts (range : BusinessTimeRange) (limit : ℕ) : Query :=
  let time := Expr.col "o" "order_purchase_timestamp"
  let orZeros := fun (tableAlias : String) (columns : List String) =>
    columns.map fun column => (column, orZero (.col tableAlias column))
  Query.withAll
    [("order_bounds", ownNewestOrder "max_time"),
      ("traffic_bounds", latest "max_time" "traffic_stats" "stat_date"
        (requiredDataScope "traffic_stats")),
      ("refund_bounds", latest "max_time" "refunds" "refund_time" (requiredDataScope "refunds")),
      ("sales", Block.query
        { items := [("product_id", .col "oi" "product_id"),
            ("orders_count", .agg "COUNT DISTINCT" (.col "o" "order_id")),
            ("units_sold", countRows), ("sales_amount", round (sum (.col "oi" "price")) 2),
            ("avg_price", round (.agg "AVG" (.col "oi" "price")) 2),
            ("first_order_time", .agg "MIN" time), ("last_order_time", .agg "MAX" time)]
          source := soldItems "order_bounds"
          conditions := soldInRange range
          grouped := true
          groupBy := [.col "oi" "product_id"] }),
      ("traffic", Block.query
        { items := ("product_id", .col "ts" "product_id") :: (trafficItems ++
            [("conversion_rate", round (ratio (sum (.col "ts" "conversions"))
              (sum (.col "ts" "visitors"))) 4)])
          source := crossBounds (.table "traffic_stats" "ts") "traffic_bounds" "tb"
          conditions := timeFilter (.col "ts" "stat_date") (.col "tb" "max_time") range ++
            requiredDataScope "ts"
          grouped := true
          groupBy := [.col "ts" "product_id"] }),
      ("campaign", Block.query
        { items := ("product_id", .col "campaign_product_stats" "product_id") :: campaignItems
          source := .table "campaign_product_stats" "campaign_product_stats"
          conditions := requiredDataScope "campaign_product_stats"
          grouped := true
          groupBy := [.col "campaign_product_stats" "product_id"] }),
      ("refund", Block.query
        { items := [("product_id", .col "rf" "product_id"), ("refunds_count", countRows),
            ("refund_amount", round (sum (.col "rf" "refund_amount")) 2)]
          source := crossBounds (.table "refunds" "rf") "refund_bounds" "rb"
          conditions := timeFilter (.col "rf" "refund_time") (.col "rb" "max_time") range ++
            requiredDataScope "rf"
          grouped := true
          groupBy := [.col "rf" "product_id"] })]
    (Block.query
      { items := [("product_id", .col "s" "product_id"),
          ("category_name_en", .col "p" "category_name_en"),
          ("orders_count", .col "s" "orders_count"), ("units_sold", .col "s" "units_sold"),
          ("sales_amount", .col "s" "sales_amount"), ("avg_price", .col "s" "avg_price")] ++
          orZeros "t" ["views", "visitors", "conversions", "conversion_rate"] ++
          orZeros "i" ["stock", "safety_stock"] ++
          orZeros "c" (campaignItems.map Prod.fst) ++
          orZeros "r" ["refunds_count", "refund_amount"] ++
          [("first_order_time", .col "s" "first_order_time"),
            ("last_order_time", .col "s" "last_order_time")]
        source := .leftJoin
          (.leftJoin
            (.leftJoin
              (.leftJoin
                (.join (.named "sales" "s") (.table "products" "p") (same "p" "s" "product_id"))
                (.named "traffic" "t") (same "t" "s" "product_id"))
              (.table "inventory" "i") (onScoped (same "i" "s" "product_id") "i"))
            (.named "campaign" "c") (same "c" "s" "product_id"))
          (.named "refund" "r") (same "r" "s" "product_id")
        conditions := requiredDataScope "p"
        orderBy := [(.col "s" "sales_amount", true), (.col "s" "units_sold", true)]
        limit := some limit })

/-! ### The metrics -/

/-- The metrics; the one of the hot products comes with its limit. -/
inductive Metric
  | dailyMetrics | dailyRisks | shopProfile | inventoryRisks | inventoryVelocity
  | campaignTraffic | campaignRoi | campaignRisks
  | hotProducts (limit : ℤ)
deriving DecidableEq, Repr

/-- `max(1, min(int(limit), 20))`. -/
def hotLimit (limit : ℤ) : ℕ := (max 1 (min limit 20)).toNat

/-- The query of a metric for a range. -/
def Metric.query (range : BusinessTimeRange) : Metric → Query
  | dailyMetrics => queryDailyMetrics range
  | dailyRisks => queryDailyRisks range
  | shopProfile => queryShopProfile
  | inventoryRisks => queryInventoryRisks range
  | inventoryVelocity => queryInventoryVelocity range
  | campaignTraffic => queryCampaignTraffic range
  | campaignRoi => queryCampaignRoi range
  | campaignRisks => queryCampaignRisks range
  | hotProducts limit => queryHotProducts range (hotLimit limit)

/-- The range of the fallback of `query_hot_products`. -/
def lastYear : BusinessTimeRange where
  label := "last_365d"
  days := 365

/-- The sentence before the result of the fallback. -/
def wideningLine : String :=
  "请求时间窗口内没有足够订单明细，已自动扩大到最近 365 天业务数据。\n"

/-! ### The spliced texts -/

/-- The value of a literal in a query, if the server takes the whole text for the literal. -/
def readValue (text : Str) : Option String :=
  match SqlLiteral.readLiteral true text with
  | some (value, []) => some (String.ofList value)
  | _ => none

/-- `'%{campaign_keyword}%'`. -/
def keywordLiteral (range : BusinessTimeRange) : Str :=
  ("'%" ++ range.campaignKeyword ++ "%'").toList

/-- The server reads the pattern of the keyword. -/
def KeywordReads (range : BusinessTimeRange) : Prop :=
  readValue (keywordLiteral range) = some ("%" ++ range.campaignKeyword ++ "%")

instance (range : BusinessTimeRange) : Decidable (KeywordReads range) :=
  inferInstanceAs (Decidable (_ = _))

section

variable {V : Type} (srv : Server V) (str : V → String) (params : String → V) (db : Db V)

/-- The values that the filters compare with, if they are `tenant` and `shop`. -/
def idParams (tenant shop name : String) : V :=
  srv.literal (if name = "tenant_id" then tenant else shop)

/-- The values that the filters compare with. -/
def readParams (identity : MemoryIdentity) : Option (String → V) :=
  (readValue (sqlLiteral identity.tenantId)).bind fun tenant =>
    (readValue (sqlLiteral identity.shopId)).map fun shop => idParams srv tenant shop

/-- The names of the columns of a query. -/
def columns : Query → List String
  | .select _ names _ _ _ _ _ _ _ _ => names
  | .unionAll l _ => columns l
  | .with_ _ _ body => columns body

/-- The text that `execute_read_sql_raw` returns for a query. -/
def readText (q : Query) : String :=
  resultText "" (some (columns q,
    (q.eval srv params db [] []).map fun row => row.map fun cell => str cell.2))

/-- The text that the function of a metric returns for the parameters. -/
def Metric.textWith (range : BusinessTimeRange) (m : Metric) : String :=
  let result := readText srv str params db (m.query range)
  match m with
  | hotProducts _ =>
    if 1 < (Lines.splitlines result.toList).length then result
    else
      let fallback := readText srv str params db (m.query lastYear)
      if 1 < (Lines.splitlines fallback.toList).length then wideningLine ++ fallback else fallback
  | _ => result

/-- The text that the function of a metric returns; nothing if there is no identity to restrict the
queries to, or if the server reads another query than the one that is written here. -/
def Metric.text (identity : MemoryIdentity) (range : BusinessTimeRange) (m : Metric) :
    Option String :=
  if identity.Trusted ∧ KeywordReads range then
    (readParams srv identity).map fun params => m.textWith srv str params db range
  else none

end

/-! ### The caller's rows -/

/-- The columns that hold the tenant and the shop of a row. -/
def owner : Owner := fun table =>
  if table = "gateway_shops" then some [("tenant_id", "tenant_id"), ("id", "shop_id")]
  else if table ∈ tenantScopedTables then
    some [("tenant_id", "tenant_id"), ("shop_id", "shop_id")]
  else none

/-- The queries of a metric that read the rows of all shops. -/
def Metric.released (range : BusinessTimeRange) : Metric → List Query
  | dailyMetrics | dailyRisks => [newestOrder]
  | campaignTraffic | campaignRoi | campaignRisks =>
    if range.campaignKeyword = "" then [newestCampaign] else []
  | _ => []

/-- The columns whose greatest value of all shops a metric uses. -/
def Metric.shared (range : BusinessTimeRange) : Metric → List (String × String)
  | dailyMetrics | dailyRisks => [("orders", "order_purchase_timestamp")]
  | campaignTraffic | campaignRoi | campaignRisks =>
    if range.campaignKeyword = "" then [("campaigns", "end_time")] else []
  | _ => []

section

variable (m : Metric) (range : BusinessTimeRange)

/-- Whether a query is released. -/
def Metric.isReleased (q : Query) : Bool := decide (q ∈ m.released range)

lemma dailyMetrics_scoped : (queryDailyMetrics range).scoped owner
    (Metric.dailyMetrics.isReleased range) = true := by
  unfold queryDailyMetrics orderFilter timeFilter
  split_ifs
  · rfl
  · rfl
  · rfl

lemma dailyRisks_scoped : (queryDailyRisks range).scoped owner
    (Metric.dailyRisks.isReleased range) = true := by
  unfold queryDailyRisks topThree orderFilter timeFilter
  split_ifs
  · rfl
  · rfl
  · rfl

lemma inventoryRisks_scoped : (queryInventoryRisks range).scoped owner
    (Metric.inventoryRisks.isReleased range) = true := by
  unfold queryInventoryRisks soldInRange orderFilter timeFilter
  split_ifs
  · rfl
  · rfl
  · rfl

lemma inventoryVelocity_scoped : (queryInventoryVelocity range).scoped owner
    (Metric.inventoryVelocity.isReleased range) = true := by
  unfold queryInventoryVelocity soldInRange orderFilter timeFilter
  split_ifs
  · rfl
  · rfl
  · rfl

lemma hotProducts_scoped (limit : ℤ) : (queryHotProducts range (hotLimit limit)).scoped owner
    ((Metric.hotProducts limit).isReleased range) = true := by
  unfold queryHotProducts soldInRange orderFilter timeFilter
  split_ifs
  · rfl
  · rfl
  · rfl

/-- A campaign query is scoped, with and without a keyword. -/
lemma campaign_scoped {m : Metric} {query : BusinessTimeRange → Query}
    (hreleased : m.released range =
      if range.campaignKeyword = "" then [newestCampaign] else [])
    (hkeyword : range.campaignKeyword ≠ "" →
      (query range).scoped owner (fun q => decide (q ∈ ([] : List Query))) = true)
    (hrange : range.campaignKeyword = "" →
      (query range).scoped owner (fun q => decide (q ∈ [newestCampaign])) = true) :
    (query range).scoped owner (m.isReleased range) = true := by
  have heq : m.isReleased range = fun q => decide (q ∈ m.released range) := rfl
  rw [heq, hreleased]
  split_ifs with h
  · exact hrange h
  · exact hkeyword h

lemma campaignTraffic_scoped : (queryCampaignTraffic range).scoped owner
    (Metric.campaignTraffic.isReleased range) = true := by
  refine campaign_scoped range rfl (fun h => ?_) fun h => ?_
  · unfold queryCampaignTraffic campaignInRange campaignTimeFilter
    rw [if_pos h]
    rfl
  · unfold queryCampaignTraffic campaignInRange campaignTimeFilter
    rw [if_neg (not_not_intro h)]
    split_ifs
    · rfl
    · rfl
    · rfl

lemma campaignRoi_scoped : (queryCampaignRoi range).scoped owner
    (Metric.campaignRoi.isReleased range) = true := by
  refine campaign_scoped range rfl (fun h => ?_) fun h => ?_
  · unfold queryCampaignRoi campaignInRange campaignTimeFilter
    rw [if_pos h]
    rfl
  · unfold queryCampaignRoi campaignInRange campaignTimeFilter
    rw [if_neg (not_not_intro h)]
    split_ifs
    · rfl
    · rfl
    · rfl

lemma campaignRisks_scoped : (queryCampaignRisks range).scoped owner
    (Metric.campaignRisks.isReleased range) = true := by
  refine campaign_scoped range rfl (fun h => ?_) fun h => ?_
  · unfold queryCampaignRisks campaignTimeFilter
    rw [if_pos h]
    rfl
  · unfold queryCampaignRisks campaignTimeFilter
    rw [if_neg (not_not_intro h)]
    split_ifs
    · rfl
    · rfl
    · rfl

/-- Every query is restricted to the caller's rows, apart from what is released. -/
lemma Metric.scoped : ∀ m : Metric, (m.query range).scoped owner (m.isReleased range) = true
  | dailyMetrics => dailyMetrics_scoped range
  | dailyRisks => dailyRisks_scoped range
  | shopProfile => rfl
  | inventoryRisks => inventoryRisks_scoped range
  | inventoryVelocity => inventoryVelocity_scoped range
  | campaignTraffic => campaignTraffic_scoped range
  | campaignRoi => campaignRoi_scoped range
  | campaignRisks => campaignRisks_scoped range
  | hotProducts limit => hotProducts_scoped range limit

end

/-! ### What is read of all shops -/

section

variable {V : Type} {srv : Server V} {str : V → String} {params : String → V} {db db' : Db V}

/-- The greatest value of a column. -/
def newest (srv : Server V) (db : Db V) (c : String × String) : V :=
  srv.aggregate "MAX" ((db c.1).map fun r => Row.get srv r c.2)

/-- A query for the greatest value of all rows. -/
lemma eval_latest (name table column : String) (ctes : Ctes V) (outer : Env V) :
    (latest name table column []).eval srv params db ctes outer =
      [[(name, newest srv db (table, column))]] := by
  have hget : ∀ r : Row V, Env.get srv ((table, r) :: outer) table column =
      Row.get srv r column := by
    intro r
    simp [Env.get]
  simp [latest, Block.query, Query.eval, Source.eval, Exprs.of, Exprs.eval, Expr.eval, Expr.all,
    Exprs.isNil, formGroups, arrange, limitTo, newest, srv.truth_true, hget, Function.comp_def]

/-- The results of the released queries are the shared values. -/
lemma eval_released {range : BusinessTimeRange} {m : Metric}
    (hshared : ∀ c ∈ m.shared range, newest srv db c = newest srv db' c) {q : Query}
    (hq : m.isReleased range q = true) (ctes : Ctes V) (outer : Env V) :
    q.eval srv params db ctes outer = q.eval srv params db' ctes outer := by
  have hlatest : ∀ {name table column}, (table, column) ∈ m.shared range →
      q = latest name table column [] →
        q.eval srv params db ctes outer = q.eval srv params db' ctes outer := by
    rintro name table column hmem rfl
    rw [eval_latest, eval_latest, hshared _ hmem]
  have hmem : q ∈ m.released range := of_decide_eq_true hq
  have hcampaign : q ∈ (if range.campaignKeyword = "" then [newestCampaign] else []) →
      (∀ c ∈ (if range.campaignKeyword = "" then [("campaigns", "end_time")] else []),
        c ∈ m.shared range) →
      q.eval srv params db ctes outer = q.eval srv params db' ctes outer := by
    intro hq hc
    split_ifs at hq hc
    · exact hlatest (hc _ List.mem_cons_self) (List.mem_singleton.1 hq)
    · cases hq
  cases m with
  | dailyMetrics => exact hlatest List.mem_cons_self (List.mem_singleton.1 hmem)
  | dailyRisks => exact hlatest List.mem_cons_self (List.mem_singleton.1 hmem)
  | campaignTraffic => exact hcampaign hmem fun _ h => h
  | campaignRoi => exact hcampaign hmem fun _ h => h
  | campaignRisks => exact hcampaign hmem fun _ h => h
  | shopProfile => cases hmem
  | inventoryRisks => cases hmem
  | inventoryVelocity => cases hmem
  | hotProducts limit => cases hmem

/-- The text of a metric is the same in all databases that agree on the rows of the caller's shop
and on the few values that the metric takes from all shops. -/
lemma textWith_eq_of_agree {range : BusinessTimeRange} {m : Metric}
    (hrows : ∀ table marks, owner table = some marks →
      (db table).filter (own srv params marks) = (db' table).filter (own srv params marks))
    (hshared : ∀ c ∈ m.shared range, newest srv db c = newest srv db' c) :
    m.textWith srv str params db range = m.textWith srv str params db' range := by
  have hread : ∀ range, (∀ c ∈ m.shared range, newest srv db c = newest srv db' c) →
      readText srv str params db (m.query range) = readText srv str params db' (m.query range) := by
    intro range hshared
    have hagree : Agree srv params owner (m.isReleased range) db db' :=
      ⟨hrows, fun q hq ctes outer => eval_released hshared hq ctes outer⟩
    rw [readText, readText, Query.eval_agree hagree _ (Metric.scoped range m)]
  unfold Metric.textWith
  cases m with
  | hotProducts limit =>
    -- both queries of the hot products share nothing
    rw [hread range hshared, hread lastYear fun c hc => nomatch hc]
  | _ => exact hread range hshared

/-! ### What the server reads -/

lemma readValue_eq_some {text value : Str}
    (h : SqlLiteral.readLiteral true text = some (value, [])) :
    readValue text = some (String.ofList value) := by
  rw [readValue, h]

lemma readValue_sqlLiteral {value : Str} (h : SqlLiteral.PlainBackslashes value) :
    readValue (sqlLiteral value) = some (String.ofList value) := by
  refine readValue_eq_some ?_
  have hread : SqlLiteral.readLiteral true (SqlLiteral.quoted value ++ []) = some (value, []) :=
    (SqlLiteral.readLiteral_quoted_iff (by simp)).2 ⟨h, rfl⟩
  rwa [List.append_nil] at hread

/-- Harmless ids are compared with as they are. -/
lemma readParams_harmless {identity : MemoryIdentity} (h : Harmless identity) :
    readParams srv identity =
      some (idParams srv (String.ofList identity.tenantId) (String.ofList identity.shopId)) := by
  rw [readParams, readValue_sqlLiteral h.1, readValue_sqlLiteral h.2]
  rfl

/-- A keyword without quotes and backslashes, as the three of the source are, is read as it is. -/
lemma keywordReads {range : BusinessTimeRange}
    (hquote : SqlLiteral.quote ∉ range.campaignKeyword.toList)
    (hbackslash : SqlLiteral.backslash ∉ range.campaignKeyword.toList) : KeywordReads range := by
  have hmem : ∀ {c : Char}, c ≠ '%' → c ∉ range.campaignKeyword.toList →
      c ∉ ("%" ++ range.campaignKeyword ++ "%").toList := by
    intro c hc hnot
    simp only [String.toList_append, List.mem_append]
    rintro ((h | h) | h)
    · exact hc (List.mem_singleton.1 h)
    · exact hnot h
    · exact hc (List.mem_singleton.1 h)
  have hliteral : keywordLiteral range =
      sqlLiteral ("%" ++ range.campaignKeyword ++ "%").toList := by
    rw [sqlLiteral, SqlLiteral.double_eq_self (hmem (by decide) hquote), keywordLiteral]
    simp [String.toList_append, SqlLiteral.quote]
  rw [KeywordReads, hliteral, readValue_sqlLiteral
    (SqlLiteral.plainBackslashes_of_notMem (hmem (by decide) hbackslash)), String.ofList_toList]

end

/-- A server that only knows numbers. -/
def numbers : Server (Option ℤ) where
  null := none
  true_ := some 1
  truth v := v.any (· ≠ 0)
  literal text := some text.length
  number n := some n
  eq a b := some (if a = b then 1 else 0)
  and a b := some (if a.any (· ≠ 0) && b.any (· ≠ 0) then 1 else 0)
  function name args :=
    match name, args with
    | ">=", [some a, some b] => some (if b ≤ a then 1 else 0)
    | "<=", [some a, some b] => some (if a ≤ b then 1 else 0)
    | "DATE_SUB", [some a, some b] => some (a - b)
    | "COALESCE", [some a, _] => some a
    | "COALESCE", [none, b] => b
    | "IN", _ => some 1
    | _, a :: _ => a
    | _, [] => none
  aggregate name values :=
    match name with
    | "MAX" => (values.filterMap id).max?
    | "SUM" => some (values.filterMap id).sum
    | _ => some (values.filterMap id).length
  same a b := a == b
  before a b := decide (a.getD 0 < b.getD 0)
  truth_true := rfl
  truth_and a b := by
    cases a.any (· ≠ 0) <;> cases b.any (· ≠ 0) <;> rfl

/-- An order of a shop. -/
def orderOf (shop time : ℤ) : Row (Option ℤ) :=
  [("tenant_id", some 1), ("shop_id", some shop), ("order_id", some time),
    ("order_purchase_timestamp", some time)]

/-- A shop whose id has a quote and a backslash; `numbers` takes it for 4. -/
def quotedShop : MemoryIdentity where
  tenantId := ['t']
  shopId := ['s', SqlLiteral.quote, SqlLiteral.backslash, '%']

/-- A sale of shop 4, and perhaps orders of others. -/
def ordersWith (others : List (Row (Option ℤ))) : Db (Option ℤ) := fun table =>
  if table = "orders" then orderOf 4 1000 :: others
  else if table = "order_items" then
    [[("tenant_id", some 1), ("shop_id", some 4), ("order_id", some 1000),
      ("product_id", some 7), ("price", some 5)]]
  else []

/-- A much newer one does. -/
example : (queryDailyMetrics lastYear).eval numbers (idParams numbers "t" "s'\\%") (ordersWith [])
      [] [] ≠
    (queryDailyMetrics lastYear).eval numbers (idParams numbers "t" "s'\\%")
      (ordersWith [orderOf 2 2000]) [] [] := by
  decide

end EcommerceAgent.Database.Metrics
