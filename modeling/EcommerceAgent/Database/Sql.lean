/-
# The SQL tools

The text checks of `agent/platform/db.py`, `agent/tools/db_tools.py` and
`agent/tools/database_workflow_tool.py`, and the functions that hand a statement to MySQL.  What
MySQL answers, the environment variables and the identity of the request are inputs.
-/
import EcommerceAgent.Lib.Regex
import EcommerceAgent.Lib.PyFormat

open EcommerceAgent.Lib EcommerceAgent.Lib.Text EcommerceAgent.Lib.PyFormat

namespace EcommerceAgent.Database

variable (u : Unicode)

/-! ### Shared pieces -/

/-- `query.strip().rstrip(";")`. -/
def stripStatement (query : String) : List Char := rstripChar ';' (strip query.toList)

/-- `stripped.split(None, 1)[0].lower() if stripped else ""`. -/
def statementHead (stripped : List Char) : String :=
  String.ofList (lower ((stripped.dropWhile isSpace).takeWhile (!isSpace ·)))

/-- `re.search(r"\bword\b", text, re.IGNORECASE)`. -/
def hasWord (word : String) (text : List Char) : Bool :=
  Regex.searchWord u Regex.sameIgnoringCase word.toList none text

/-- `re.match(r"^(w1|w2|…)\b", text, re.IGNORECASE)`. -/
def startsWithAny (words : List String) (text : List Char) : Bool :=
  words.any fun word => Regex.startsWithWord u Regex.sameIgnoringCase word.toList text

/-- The result of a refused statement. -/
def refusal (e : String) : Dict := [("ok", .bool false), ("error", .str e)]

/-! ### Candidate statements -/

/-- The text after the first occurrence of three backticks. -/
def afterFence : List Char → Option (List Char)
  | [] => none
  | c :: cs =>
    if (c :: cs).take 3 = List.replicate 3 (Char.ofNat 96) then some ((c :: cs).drop 3)
    else afterFence cs

/-- The text before the first occurrence of three backticks, if there is one. -/
def beforeFence : List Char → Option (List Char)
  | [] => none
  | c :: cs =>
    if (c :: cs).take 3 = List.replicate 3 (Char.ofNat 96) then some []
    else (beforeFence cs).map (c :: ·)

/-- The optional `sql` after an opening fence. -/
def dropSql (text : List Char) : List Char :=
  let marked := text.take 3
  if marked.length = 3 ∧ ("sql".toList.zip marked).all fun p => Regex.sameIgnoringCase p.1 p.2
  then text.drop 3 else text

/-- `_extract_sql`: the content of the first fenced block, or everything, up to the first
non-blank part between semicolons. -/
def extractSql (content : String) : String :=
  let content := strip content.toList
  let content := match (afterFence content).bind fun rest => beforeFence (dropSql rest) with
    | some inner => strip inner
    | none => content
  match ((content.splitOn ';').map strip).find? (· ≠ []) with
  | some statement => String.ofList statement
  | none => String.ofList content

/-- `_validate_write_sql`: the statement head and the normalized text of an accepted statement. -/
def validateWriteSql (sql : String) : Except String (String × String) :=
  let normalized := stripStatement sql
  let head := statementHead normalized
  if head = "invalid_request" then
    .error "模型认为用户写入需求不明确，未生成可审核 SQL。"
  else if head ∉ ["insert", "update", "delete", "create", "alter"] then
    .error "候选 SQL 不是允许的 INSERT/UPDATE/DELETE/CREATE/ALTER。"
  else if head ∈ ["update", "delete"] ∧ hasWord u "where" normalized = false then
    .error "UPDATE/DELETE 缺少 WHERE 条件。"
  else if hasWord u "drop" normalized ∨ hasWord u "truncate" normalized then
    .error "候选 SQL 包含 DROP/TRUNCATE，高风险 DDL 已拒绝。"
  else if ';' ∈ normalized then .error "候选 SQL 包含多语句风险，已拒绝。"
  else .ok (head, String.ofList normalized)

/-! ### Writing -/

/-- What a call of `execute_write_sql_raw` finds outside: `DB_ALLOW_DANGEROUS_DDL`, the configured
database (or the `ValueError` of `get_db_config`), and what MySQL answers to a statement in a
connection with the given default database (the row count, or the text of the error). -/
structure WriteEnv where
  allowDangerousDdl : Option String
  config : Except String String
  mysql : String → String → Except String ℤ

/-- `execute_write_sql_raw`, with the statement that it hands to MySQL, if any: the default
database of the connection and the text. -/
def executeWriteSql (env : WriteEnv) (query : String) (targetDatabase : Option String) :
    Option (String × String) × Except String Dict :=
  let stripped := stripStatement query
  let head := statementHead stripped
  if head ∉ ["insert", "update", "delete", "create", "alter", "drop", "truncate"] then
    (none, .ok (refusal
      "只允许 INSERT、UPDATE、DELETE、CREATE、ALTER、DROP、TRUNCATE 写入/DDL 语句。"))
  else if head ∈ ["update", "delete"] ∧ hasWord u "where" stripped = false then
    (none, .ok (refusal "UPDATE/DELETE 必须包含 WHERE 条件，已拒绝执行。"))
  else if head ∈ ["drop", "truncate"] ∧
      lower (env.allowDangerousDdl.getD "false").toList ≠ "true".toList then
    (none, .ok (refusal "DROP/TRUNCATE 属于高危 DDL，默认禁止执行。"))
  else
    match env.config with
    | .error e => (none, .error e)
    | .ok configured =>
      let database := match targetDatabase with
        | some target => if target = "" then configured else target
        | none => configured
      let statement := String.ofList stripped
      (some (database, statement), .ok (match env.mysql database statement with
        | .ok affectedRows => [("ok", .bool true), ("database", .str database),
            ("statement", .str head), ("affected_rows", .int affectedRows),
            ("message", .str "SQL 已在目标数据库事务中执行并提交。")]
        | .error e => [("ok", .bool false), ("database", .str database), ("error", .str e)]))

/-- `execute_write_sql_raw`. -/
def executeWriteSqlRaw (env : WriteEnv) (query : String) (targetDatabase : Option String) :
    Except String Dict := (executeWriteSql u env query targetDatabase).2

/-- The environment of `_run_sandbox`. -/
structure SandboxEnv where
  sandboxDatabase : Option String
  productionMerge : Option String
  write : WriteEnv

/-- `_is_production_merge_enabled`, from `DB_ENABLE_PRODUCTION_MERGE`. -/
def isProductionMergeEnabled (value : Option String) : Bool :=
  lower (value.getD "false").toList == "true".toList

/-- `DB_SANDBOX_DATABASE`, when it is set and not empty. -/
def SandboxEnv.database (env : SandboxEnv) : Option String := env.sandboxDatabase.filter (· ≠ "")

/-- The result of `_run_sandbox` when a sandbox database executed the statement. -/
def sandboxExecuted (sandboxDatabase : String) (result : Dict) : Dict :=
  result ++ [("executed", .bool result.isOk), ("sandbox_database", .str sandboxDatabase)]

/-- A call of `execute_write_sql_raw`, and what it returned or raised. -/
structure WriteCall where
  target : Option String
  query : String
  result : Except String Dict

/-- `_run_sandbox`, with the call of `execute_write_sql_raw` that it makes, if any. -/
def runSandbox (env : SandboxEnv) (writeSql : String) : List WriteCall × Except String Dict :=
  match env.database with
  | none => ([], .ok (if isProductionMergeEnabled env.productionMerge
      then [("ok", .bool true), ("executed", .bool false), ("database", .null),
        ("mode", .str "direct_production_after_approval"),
        ("message", .str ("未配置 DB_SANDBOX_DATABASE；当前 DB_ENABLE_PRODUCTION_MERGE=true。" ++
          "sandbox 阶段只做安全校验，人工审核 continue 后将由 merge 节点直接写入 " ++
          "MYSQL_DATABASE 指向的生产库。"))]
      else [("ok", .bool true), ("executed", .bool false), ("database", .null),
        ("message", .str
          "未配置 DB_SANDBOX_DATABASE，已完成 SQL 安全校验，未在任何数据库执行。")]))
  | some sandboxDatabase =>
    let result := executeWriteSqlRaw u env.write writeSql (some sandboxDatabase)
    ([⟨some sandboxDatabase, writeSql, result⟩], result.map (sandboxExecuted sandboxDatabase))

/-! ### Reading -/

/-- `TENANT_SCOPED_TABLES`. -/
def tenantScopedTables : List String :=
  ["customers", "sellers", "products", "orders", "order_items", "payments", "reviews", "inventory",
    "traffic_stats", "campaigns", "campaign_product_stats", "refunds", "customer_service_tickets"]

/-- The ids of `get_identity_context()`. -/
structure DataIdentity where
  tenantId : String
  shopId : String
deriving DecidableEq, Repr

/-- What a read finds outside: whether `get_db_config` raises, the identity context, and what MySQL
answers (the error text, no result set, or the columns and rows as text). -/
structure ReadEnv where
  config : Except String Unit
  identity : Option DataIdentity
  mysql : String → Except String (Option (List String × List (List String)))

/-- Whether `current_data_scope_sql()` is not empty. -/
def hasDataScope (identity : Option DataIdentity) : Bool :=
  identity.any fun i => i.tenantId ≠ "" && i.shopId ≠ ""

/-- `validate_tenant_scoped_read_sql`. -/
def validateTenantScopedReadSql (identity : Option DataIdentity) (query : List Char) : String :=
  let lowered := lower query
  if tenantScopedTables.all fun table =>
      !Regex.searchWord u (· == ·) table.toList none lowered then ""
  else if !hasDataScope identity then
    "查询被拒绝：缺少可信 tenant/shop 上下文，不能读取店铺经营数据。"
  else if !contains lowered "tenant_id".toList || !contains lowered "shop_id".toList then
    "查询被拒绝：访问经营数据表必须显式包含 tenant_id 和 shop_id 过滤条件。"
  else ""

/-- How a read ended.  `executed` holds the statement that MySQL executed without an error. -/
inductive ReadResult
  | executed (sql text : String)
  | refused (text : String)
  | failed (text : String)
  | raised (error : String)
deriving DecidableEq, Repr

/-- The text that `execute_read_sql_raw` makes of what MySQL answers. -/
def resultText (sql : String) : Option (List String × List (List String)) → String
  | none => "执行自定义SQL语句查询没有结果，sql为：" ++ sql ++ "！"
  | some (columns, rows) => String.intercalate "," columns ++ "\n" ++
      String.intercalate "\n" (rows.map (String.intercalate "," ·))

/-- The statement that `execute_read_sql_raw` executes: a `SELECT` without `LIMIT` gets one. -/
def limited (stripped : List Char) : List Char :=
  if startsWithAny u ["select"] stripped && !hasWord u "limit" stripped then
    stripped ++ " LIMIT 100".toList
  else stripped

/-- `execute_read_sql_raw`. -/
def executeReadSqlRaw (env : ReadEnv) (query : String) : ReadResult :=
  match env.config with
  | .error e => .raised e
  | .ok () =>
    let stripped := stripStatement query
    if !startsWithAny u ["select", "with", "show", "describe", "desc"] stripped then
      .refused "查询被拒绝：只允许执行 SELECT、WITH、SHOW、DESCRIBE/DESC 只读语句。"
    else
      let sql := limited u stripped
      let isolationError := validateTenantScopedReadSql u env.identity sql
      if isolationError ≠ "" then .refused isolationError
      else
        match env.mysql (String.ofList sql) with
        | .error e => .failed ("查询出现异常：" ++ e)
        | .ok answer => .executed (String.ofList sql) (resultText (String.ofList sql) answer)

/-- The query of `analyze_top_products` for the last 365 days and five products; the tool is only
called with these arguments. -/
def topProductsQuery (extraDateFilter : String) : String :=
  "\nWITH sales AS (\n    SELECT\n        oi.product_id,\n" ++
    "        COUNT(DISTINCT o.order_id) AS orders_count,\n        COUNT(*) AS units_sold,\n" ++
    "        ROUND(SUM(oi.price), 2) AS sales_amount,\n" ++
    "        ROUND(AVG(oi.price), 2) AS avg_price,\n" ++
    "        MIN(o.order_purchase_timestamp) AS first_order_time,\n" ++
    "        MAX(o.order_purchase_timestamp) AS last_order_time\n    FROM order_items oi\n" ++
    "    JOIN orders o ON o.order_id = oi.order_id\n" ++
    "    WHERE o.order_status IN ('delivered', 'shipped', 'invoiced', 'approved')\n      " ++
    extraDateFilter ++
    "\n    GROUP BY oi.product_id\n),\ntraffic AS (\n    SELECT\n        product_id,\n" ++
    "        SUM(views) AS views,\n        SUM(visitors) AS visitors,\n" ++
    "        SUM(add_to_cart) AS add_to_cart,\n        SUM(favorites) AS favorites,\n" ++
    "        SUM(conversions) AS conversions,\n" ++
    "        ROUND(SUM(conversions) / NULLIF(SUM(visitors), 0), 4) AS conversion_rate\n" ++
    "    FROM traffic_stats\n" ++
    "    WHERE stat_date >= DATE_SUB((SELECT MAX(stat_date) FROM traffic_stats), " ++
    "INTERVAL 365 DAY)\n" ++
    "    GROUP BY product_id\n),\ncampaign AS (\n    SELECT\n        product_id,\n" ++
    "        SUM(impressions) AS campaign_impressions,\n" ++
    "        SUM(clicks) AS campaign_clicks,\n" ++
    "        SUM(orders_count) AS campaign_orders,\n" ++
    "        ROUND(SUM(revenue), 2) AS campaign_revenue,\n" ++
    "        ROUND(SUM(spend), 2) AS campaign_spend,\n" ++
    "        ROUND(SUM(revenue) / NULLIF(SUM(spend), 0), 2) AS campaign_roi\n" ++
    "    FROM campaign_product_stats\n    GROUP BY product_id\n),\nrefund AS (\n" ++
    "    SELECT\n        product_id,\n        COUNT(*) AS refunds_count,\n" ++
    "        ROUND(SUM(refund_amount), 2) AS refund_amount\n    FROM refunds\n" ++
    "    WHERE refund_time >= DATE_SUB((SELECT MAX(refund_time) FROM refunds), " ++
    "INTERVAL 365 DAY)\n" ++
    "    GROUP BY product_id\n)\nSELECT\n    s.product_id,\n    p.category_name_en,\n" ++
    "    s.orders_count,\n    s.units_sold,\n    s.sales_amount,\n    s.avg_price,\n" ++
    "    COALESCE(t.views, 0) AS views,\n    COALESCE(t.visitors, 0) AS visitors,\n" ++
    "    COALESCE(t.conversions, 0) AS conversions,\n" ++
    "    COALESCE(t.conversion_rate, 0) AS conversion_rate,\n" ++
    "    COALESCE(i.stock, 0) AS stock,\n    COALESCE(i.safety_stock, 0) AS safety_stock,\n" ++
    "    COALESCE(c.campaign_impressions, 0) AS campaign_impressions,\n" ++
    "    COALESCE(c.campaign_clicks, 0) AS campaign_clicks,\n" ++
    "    COALESCE(c.campaign_orders, 0) AS campaign_orders,\n" ++
    "    COALESCE(c.campaign_revenue, 0) AS campaign_revenue,\n" ++
    "    COALESCE(c.campaign_spend, 0) AS campaign_spend,\n" ++
    "    COALESCE(c.campaign_roi, 0) AS campaign_roi,\n" ++
    "    COALESCE(r.refunds_count, 0) AS refunds_count,\n" ++
    "    COALESCE(r.refund_amount, 0) AS refund_amount,\n    s.first_order_time,\n" ++
    "    s.last_order_time\nFROM sales s\nJOIN products p ON p.product_id = s.product_id\n" ++
    "LEFT JOIN traffic t ON t.product_id = s.product_id\n" ++
    "LEFT JOIN inventory i ON i.product_id = s.product_id\n" ++
    "LEFT JOIN campaign c ON c.product_id = s.product_id\n" ++
    "LEFT JOIN refund r ON r.product_id = s.product_id\n" ++
    "ORDER BY s.sales_amount DESC, s.units_sold DESC\nLIMIT 5\n"

/-- `date_filter` of `analyze_top_products`. -/
def dateFilter : String :=
  "AND o.order_purchase_timestamp >= DATE_SUB((SELECT MAX(order_purchase_timestamp) " ++
    "FROM orders), INTERVAL 365 DAY)"

/-- `len(text.splitlines()) <= 1`: no line break is followed by anything. -/
def atMostOneLine : List Char → Bool
  | [] => true
  | c :: cs =>
    if c = '\r' then (if cs.head? = some '\n' then cs.tail = [] else cs = [])
    else if c = '\n' ∨ (11 ≤ c.toNat ∧ c.toNat ≤ 12) ∨ (28 ≤ c.toNat ∧ c.toNat ≤ 30) ∨
        c.toNat = 0x85 ∨ c.toNat = 0x2028 ∨ c.toNat = 0x2029 then cs = []
    else atMostOneLine cs

/-- The text of a read that did not raise. -/
def ReadResult.text : ReadResult → Except String String
  | .executed _ text => .ok text
  | .refused text => .ok text
  | .failed text => .ok text
  | .raised e => .error e

/-- What a tool call finds outside: the two reads of `analyze_top_products` may find different
answers of MySQL.  The call limits of `_record_db_tool_call` count all calls of a conversation,
also those of other runs, so whether they refuse the call is an input. -/
structure ToolEnv where
  guardError : Option String
  read : ReadEnv
  again : ReadEnv

/-- `execute_sql_query`. -/
def executeSqlQuery (env : ToolEnv) (query : String) : ReadResult :=
  match env.guardError with
  | some e => .raised e
  | none => executeReadSqlRaw u env.read query

/-- The line that `analyze_top_products` puts before the result of its second read. -/
def fallbackLine : String := "最近窗口内没有足够订单明细，已自动回退到全量历史数据。\n"

/-- `analyze_top_products`, called with 365 days and five products: the reads that it makes and
what it returns. -/
def analyzeTopProducts (env : ToolEnv) : List ReadResult × Except String String :=
  match env.guardError with
  | some e => ([], .error e)
  | none =>
    let first := executeReadSqlRaw u env.read (topProductsQuery dateFilter)
    match first.text with
    | .error e => ([first], .error e)
    | .ok result =>
      if atMostOneLine result.toList then
        let second := executeReadSqlRaw u env.again (topProductsQuery "")
        ([first, second], second.text.map (fallbackLine ++ ·))
      else ([first], .ok result)

end EcommerceAgent.Database
