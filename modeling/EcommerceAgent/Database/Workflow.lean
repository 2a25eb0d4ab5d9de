/-
# The nodes of the database graph

The keyword tables, the eight nodes and the edges of `agent/tools/database_workflow_tool.py`.
What one visit of a node finds outside (switches, the answers of the model, of MySQL and of the
human) is an input of the visit; the calls and events that the properties of the graph speak
about are its effects.
-/
import EcommerceAgent.Lib.StateGraph
import EcommerceAgent.Database.Sql
import EcommerceAgent.Database.Answers
import EcommerceAgent.Database.Guard

open EcommerceAgent.Lib EcommerceAgent.Lib.Text EcommerceAgent.Lib.PyFormat

namespace EcommerceAgent.Database

variable (u : Unicode) (fl : Floats) (cfg : Config)

/-! ### Classifying the question -/

/-- `HOT_PRODUCT_KEYWORDS`. -/
def hotProductKeywords : List String :=
  ["爆品", "热销", "表现最好", "增长商品", "放量", "转化", "活动因素"]

/-- `WRITE_KEYWORDS`. -/
def writeKeywords : List String :=
  ["新增", "插入", "修改", "更新", "删除", "建表", "改表", "drop", "truncate", "alter", "insert",
    "update", "delete"]

/-- `TABLE_HINTS`. -/
def tableHints : List (String × List String) :=
  [("orders", ["订单", "销售", "成交", "gmv", "客单", "日期"]),
    ("order_items", ["商品", "明细", "销售", "价格", "seller", "sku"]),
    ("products", ["商品", "类目", "品类", "category"]),
    ("payments", ["支付", "付款", "gmv", "金额"]),
    ("inventory", ["库存", "缺货", "安全库存"]),
    ("traffic_stats", ["流量", "访客", "浏览", "转化", "加购", "收藏"]),
    ("campaigns", ["活动", "投放", "渠道", "预算"]),
    ("campaign_product_stats", ["活动", "投放", "roi", "点击", "曝光"]),
    ("refunds", ["退款", "退货", "售后"]),
    ("reviews", ["评价", "评分", "review"]),
    ("customers", ["客户", "用户", "地区", "城市"])]

/-- `any(word in text for word in words)`. -/
def mentions (words : List String) (text : List Char) : Bool :=
  words.any fun word => contains text word.toList

/-- The test of `_route_node` for a change. -/
def isWriteQuestion (question : String) : Bool :=
  mentions writeKeywords (lower question.toList)

/-- `_is_hot_product_question`, of the question without blanks. -/
def isHotProductQuestion (question : String) : Bool :=
  let compact := question.toList.filter (!isSpace ·)
  mentions hotProductKeywords compact ||
    (mentions ["商品", "产品", "sku", "品类"] (lower compact) &&
      mentions ["销售", "销量", "流量", "转化", "库存", "活动", "投放", "退款", "价格"]
        (lower compact) &&
      mentions ["最好", "最高", "top", "增长", "放量"] (lower compact))

/-- `l[:n]`. -/
def sliceTo {α : Type*} (l : List α) (n : ℤ) : List α :=
  if 0 ≤ n then l.take n.toNat else l.take (l.length - (-n).toNat)

/-- `_select_candidate_tables`. -/
def selectCandidateTables (question : String) : List String :=
  let selected := (tableHints.filter fun entry => entry.2.any fun hint =>
    contains (lower question.toList) (lower hint.toList) ||
      contains question.toList hint.toList).map (·.1)
  if selected ≠ [] then sliceTo selected cfg.maxSchemaTables
  else sliceTo ["orders", "order_items", "products", "payments", "inventory"] cfg.maxSchemaTables

/-! ### Asking the model -/

/-- The prompt of `_generate_sql`. -/
def sqlPrompt (s : GraphState) : String :=
  let orMark := fun text => if text = "" then "?" else text
  let previousErrors := orMark (String.intercalate "\n" (lastItems 3 s.errors))
  let previousSql := orMark (String.intercalate "\n" (lastItems 3 s.sqlHistory))
  "\n你是 MySQL 只读 SQL 生成器。只返回一条 SQL，不输出 Markdown，不要解释。\n\n" ++ "硬性规则：\n" ++
    "- 只能生成 SELECT 或 WITH 开头的只读查询。\n" ++ "- 必须包含 LIMIT，除非最外层是聚合单行结果。\n" ++
    "- 禁止 INSERT、UPDATE、DELETE、DROP、TRUNCATE、ALTER、CREATE。\n" ++
    "- 如果上一条 SQL 失败，必须换一种查询方案，不能复用同一逻辑。\n\n" ++ "用户问题：" ++ s.question ++ "\n\n" ++ "可用表结构：\n" ++
    String.ofList ((s.schemaText.getD "").toList.take 8000) ++ "\n\n" ++ "历史失败 SQL：\n" ++
    previousSql ++ "\n\n" ++ "历史错误：\n" ++ previousErrors ++ "\n"

/-- The prompt of `_generate_write_sql`. -/
def writePrompt (question : String) : String :=
  "\n你是 MySQL 数据库变更 SQL 生成器。只返回一条 SQL，不输出 Markdown，不要解释。\n\n" ++ "安全规则：\n" ++
    "- 只能生成 INSERT、UPDATE、DELETE、CREATE、ALTER。\n" ++ "- UPDATE 或 DELETE 必须包含明确 WHERE 条件。\n" ++
    "- 禁止 DROP、TRUNCATE。\n" ++ "- 不要生成多条语句。\n" ++
    "- 如果用户意图不明确，返回一条以 SELECT 开头的说明性查询是不允许的；此时返回 INVALID_REQUEST。\n\n" ++ "用户变更需求：" ++
    question ++ "\n"

/-- The prompt of `_summarize_node`. -/
def summaryPrompt (question result : String) : String :=
  "\n你是电商数据库分析助手。请基于数据库查询结果回答用户问题，禁止编造结果中不存在的指标。\n\n" ++ "用户问题：" ++ question ++ "\n\n" ++
    "SQL/工具结果：\n" ++ String.ofList (result.toList.take 12000) ++ "\n\n" ++ "输出要求：\n" ++
    "1. 先给结论。\n" ++ "2. 说明关键数据证据。\n" ++ "3. 如果是商品爆品分析，覆盖销售、流量、转化、价格、库存、活动和退款风险；\n" ++
    "4. 给出下一步运营建议；\n" ++ "5. 不要再要求继续查询。\n"

/-! ### Inputs and effects of a visit -/

/-- The dictionary with which `task_runtime.interrupt` answers. -/
structure ApprovalPayload where
  decision : Option String
  instruction : Option String
deriving DecidableEq, Repr

/-- What a visit finds outside: the supervisor switch, the switches and the database of the write
tools, the content with which the model answers a prompt, the read tools, the thread of the
context and the answer of `task_runtime.interrupt`.  An error is a raised exception. -/
structure Input where
  supervisorEnabled : Option String
  sandbox : SandboxEnv
  model : String → Except String String
  tool : ToolEnv
  tableSchema : String → Except String String
  threadId : Option String
  approval : Except String ApprovalPayload

/-- A visit at which no switch is set and nothing outside answers. -/
def Input.offline : Input where
  supervisorEnabled := none
  sandbox := ⟨none, none, none, .error "offline", fun _ _ => .error "offline"⟩
  model _ := .error "offline"
  tool := ⟨none, ⟨.ok (), none, fun _ => .error "offline"⟩,
    ⟨.ok (), none, fun _ => .error "offline"⟩⟩
  tableSchema _ := .error "offline"
  threadId := none
  approval := .error "offline"

/-- What a visit does outside: `_validate_write_sql` accepts a statement, `execute_write_sql_raw`
is called, the approval summary is shown, a decision arrives, a read query is made, an answer is
built from a query result. -/
inductive Effect
  | validated (writeSql : String)
  | write (call : WriteCall)
  | shown (summary : String)
  | received (decision : String)
  | read (result : ReadResult)
  | answeredFrom (queryResult : String)

/-- The effects of a visit with the state that it returns or the exception that it raises. -/
abbrev Step := List Effect × Except String GraphState

/-- A node returns at once when the state has an answer. -/
def unlessAnswered (s : GraphState) (body : GraphState → Step) : Step :=
  if s.answered then ([], .ok s) else body s

/-- The beginning of a node: the round limit and the loop guard. -/
def guarded (supervisorEnabled : Option String) (node : Node) (args : GuardArgs)
    (s : GraphState) (body : GraphState → Step) : Step :=
  unlessAnswered (bumpRound cfg s) fun s =>
    unlessAnswered (recordNodeGuard u cfg supervisorEnabled s node args) body

/-! ### The nodes -/

/-- The state of `_route_node` after classifying the question. -/
def afterRoute (s : GraphState) : GraphState :=
  if isWriteQuestion s.question then
    { s with route := some .sandbox, analysisType := some .writeChange }
  else if isHotProductQuestion s.question then
    { s with route := some .specialized, analysisType := some .hotProducts }
  else { s with route := some .schema }

/-- `_route_node`. -/
def routeNode (i : Input) (s : GraphState) : Step :=
  guarded u cfg i.supervisorEnabled .route (.question s.question) s fun s =>
    ([], .ok (afterRoute s))

/-- The rest of `_sandbox_node` for the candidate statement. -/
def trySandbox (env : SandboxEnv) (writeSql : String) (s : GraphState) : Step :=
  match validateWriteSql u writeSql with
  | .error e =>
    ([], .ok ({ s with writeSql := some writeSql, sandboxResult := some (refusal e) }.stop
      ("数据库变更请求未通过安全校验，已终止。原因：" ++ e ++ "\n\n候选 SQL：\n" ++ writeSql)))
  | .ok _ =>
    let run := runSandbox u env writeSql
    (.validated writeSql :: run.1.map .write, run.2.map fun sandboxResult =>
      { s with writeSql := some writeSql, sandboxResult := some sandboxResult,
               route := some .approval })

/-- `_sandbox_node`. -/
def sandboxNode (i : Input) (s : GraphState) : Step :=
  guarded u cfg i.supervisorEnabled .sandbox (.question s.question) s fun s =>
    match i.model (writePrompt s.question) with
    | .error e => ([], .error e)
    | .ok content => trySandbox u i.sandbox (extractSql content) s

/-- `_request_write_approval`, without the summary that it shows. -/
def requestWriteApproval (i : Input) : Except String ApprovalPayload :=
  if i.threadId.any (· ≠ "") then i.approval
  else .ok ⟨some "abort", some "当前不在任务上下文中，无法等待人工审核。"⟩

/-- The state of `_approval_node` after a decision. -/
def afterDecision (s : GraphState) (decision instruction : String) : GraphState :=
  let s := { s with approvalDecision := some decision, approvalInstruction := some instruction }
  if decision = "continue" then { s with route := some .merge }
  else if decision = "revise" then
    s.stop ("数据库变更已暂停。人工要求按新策略修订后再提交审核。\n\n人工意见：" ++
      (if instruction = "" then "未填写" else instruction))
  else s.stop "数据库变更已被人工审核终止，未执行 Merge 发布。"

/-- `_approval_node`. -/
def approvalNode (i : Input) (s : GraphState) : Step :=
  guarded u cfg i.supervisorEnabled .approval (.writeSql (s.writeSql.getD "")) s fun s =>
    let summary := formatApprovalSummary s.question (s.writeSql.getD "")
      (s.sandboxResult.getD []) (isProductionMergeEnabled i.sandbox.productionMerge)
    match requestWriteApproval i with
    | .error e => ([.shown summary], .error e)
    | .ok payload =>
      let decision := payload.decision.getD "abort"
      ([.shown summary, .received decision],
        .ok (afterDecision s decision (payload.instruction.getD "")))

/-- The result of `_merge_node` when the production switch is off. -/
def unpublished : Dict :=
  [("ok", .bool false), ("published", .bool false),
    ("reason", .str "DB_ENABLE_PRODUCTION_MERGE 未开启，已完成审核但未发布到生产库。")]

/-- The state of `_merge_node` after the merge. -/
def afterMerge (s : GraphState) (mergeResult : Dict) : GraphState :=
  { s with mergeResult := some mergeResult }.stop (formatMergeSummary (s.writeSql.getD "")
    (s.approvalDecision.getD "") (s.approvalInstruction.getD "") (s.sandboxResult.getD [])
    mergeResult)

/-- `_merge_node`. -/
def mergeNode (i : Input) (s : GraphState) : Step :=
  let enabled := isProductionMergeEnabled i.sandbox.productionMerge
  guarded u cfg i.supervisorEnabled .merge (.productionMergeEnabled enabled) s fun s =>
    if !enabled then ([], .ok (afterMerge s unpublished))
    else
      let writeSql := s.writeSql.getD ""
      let result := executeWriteSqlRaw u i.sandbox.write writeSql none
      ([.write ⟨none, writeSql, result⟩], result.map (afterMerge s))

/-- `_specialized_tool_node`. -/
def specializedToolNode (i : Input) (s : GraphState) : Step :=
  let analysisType := (s.analysisType.map AnalysisType.text).getD ""
  guarded u cfg i.supervisorEnabled .specialized (.analysisType analysisType) s fun s =>
    let (reads, result) := analyzeTopProducts u i.tool
    match result with
    | .ok result =>
      (reads.map .read, .ok { s with queryResult := some result, route := some .summarize })
    | .error e =>
      (reads.map .read, .ok { s with errors := s.errors ++ [e], route := some .schema })

/-- The loop of `_schema_node`: the schema blocks and the errors. -/
def collectSchema (tableSchema : String → Except String String) :
    List String → List String × List String
  | [] => ([], [])
  | table :: rest =>
    let (blocks, errors) := collectSchema tableSchema rest
    match tableSchema table with
    | .ok text => (("[" ++ table ++ "]\n" ++ text) :: blocks, errors)
    | .error e => (blocks, (table ++ ": " ++ e) :: errors)

/-- The tables that `_schema_node` looks up. -/
def schemaTables (question : String) : List String :=
  sliceTo (selectCandidateTables cfg question) cfg.maxSchemaTables

/-- `_schema_node`. -/
def schemaNode (i : Input) (s : GraphState) : Step :=
  let tables := schemaTables cfg s.question
  guarded u cfg i.supervisorEnabled .schema (.tables tables) s fun s =>
    let (blocks, errors) := collectSchema i.tableSchema tables
    let s := { s with errors := s.errors ++ errors }
    if blocks = [] then ([], .ok (s.stop "没有拿到可用表结构，数据库状态机已结束。"))
    else ([], .ok { s with
      schemaText := some (String.intercalate "\n\n" blocks), route := some .sql })

/-- The state of `_sql_node` after a query with the given result text. -/
def afterQuery (s : GraphState) (sql result : String) : GraphState :=
  let s := { s with
    sql := some sql, queryResult := some result, sqlHistory := s.sqlHistory ++ [sql] }
  if isFailedResult result then
    let failCount : ℕ := s.sqlFailCount + 1
    let s := { s with
      sqlFailCount := failCount,
      errors := s.errors ++ [String.ofList (result.toList.take 600)] }
    if (failCount : ℤ) ≥ cfg.maxSqlFailures then
      s.stop ("SQL 连续失败 " ++ toString failCount ++ " 次，数据库状态机已终止。最后错误：" ++
        result)
    else { s with route := some .sql }
  else { s with route := some .summarize }

/-- The text of `_sql_node` for a query that may raise. -/
def queryText (result : ReadResult) : String :=
  match result.text with
  | .ok text => text
  | .error e => "查询出现异常：" ++ e

/-- `_sql_node`. -/
def sqlNode (i : Input) (s : GraphState) : Step :=
  unlessAnswered (bumpRound cfg s) fun s =>
    match i.model (sqlPrompt s) with
    | .error e => ([], .error e)
    | .ok content =>
      let sql := extractSql content
      unlessAnswered (recordNodeGuard u cfg i.supervisorEnabled s .sql (.sql sql)) fun s =>
        let result := executeSqlQuery u i.tool sql
        ([.read result], .ok (afterQuery cfg s sql (queryText result)))

/-- The text of `_summarize_node`: the product report, the model's answer or the fallback. -/
def summaryText (i : Input) (s : GraphState) : Except String String :=
  let result := s.queryResult.getD ""
  if s.analysisType = some .hotProducts then summarizeTopProducts fl result
  else
    match i.model (summaryPrompt s.question result) with
    | .ok content => .ok content
    | .error _ => fallbackSummary s.question result

/-- `_summarize_node`. -/
def summarizeNode (i : Input) (s : GraphState) : Step :=
  let analysisType := (s.analysisType.map AnalysisType.text).getD "generic"
  guarded u cfg i.supervisorEnabled .summarize (.analysisType analysisType) s fun s =>
    ([.answeredFrom (s.queryResult.getD "")], (summaryText fl i s).map fun finalAnswer =>
      s.stop finalAnswer)

/-! ### The graph -/

/-- The node of a name. -/
def runNode : Node → Input → GraphState → Step
  | .route => routeNode u cfg
  | .specialized => specializedToolNode u cfg
  | .schema => schemaNode u cfg
  | .sql => sqlNode u cfg
  | .summarize => summarizeNode u fl cfg
  | .sandbox => sandboxNode u cfg
  | .approval => approvalNode u cfg
  | .merge => mergeNode u cfg

/-- `_select_next_after_route`; `none` is `"end"`. -/
def selectNextAfterRoute (s : GraphState) : Option Node :=
  if s.answered then none
  else
    match s.route with
    | some .specialized => some .specialized
    | some .schema => some .schema
    | some .sandbox => some .sandbox
    | some .summarize => some .summarize
    | _ => none

/-- `_select_next_after_approval`. -/
def selectNextAfterApproval (s : GraphState) : Option Node :=
  if s.answered then none else if s.route = some .merge then some .merge else none

/-- `_select_next_after_sql`. -/
def selectNextAfterSql (s : GraphState) : Option Node :=
  if s.answered then none
  else
    match s.route with
    | some .sql => some .sql
    | some .summarize => some .summarize
    | _ => none

/-- The edges of `_build_database_graph`. -/
def nextNode : Node → GraphState → Option Node
  | .route, s => selectNextAfterRoute s
  | .specialized, _ => some .summarize
  | .sandbox, _ => some .approval
  | .approval, s => selectNextAfterApproval s
  | .merge, _ => none
  | .schema, _ => some .sql
  | .sql, s => selectNextAfterSql s
  | .summarize, _ => none

/-- `database_graph`. -/
def databaseGraph : StateGraph Node GraphState Input Effect String where
  start := .route
  node := runNode u fl cfg
  next := nextNode

/-- The visits of the graph. -/
abbrev GraphVisit := StateGraph.Visit Node GraphState Input Effect String

/-- A run of the graph for a question, as `run_database_workflow` starts it. -/
def runDatabaseGraph (inputs : ℕ → Input) (question : String) :
    List GraphVisit × StateGraph.Outcome GraphState String :=
  (databaseGraph u fl cfg).run (cfg.maxGraphRounds + 4).toNat inputs (.initial question)

/-- The answer of `run_database_workflow`, when the run of the graph does not raise. -/
def workflowAnswer : StateGraph.Outcome GraphState String → Option String
  | .finished s =>
    some (if s.answered then s.finalAnswer.getD ""
      else "数据库状态机未生成最终答案，已结束。")
  | .raised _ => none
  | .recursionError => none

end EcommerceAgent.Database
