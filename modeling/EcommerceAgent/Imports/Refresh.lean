/-
# The refresh after an import

`run_post_import_refresh` reads the figures of the shop, stores an overview report for the import
job and proposes strategies.  It looks for a report of the job before it inserts one, and for a
review before it inserts some, and every statement commits by itself.  Several calls for one job may
overlap, and each may be cut off by the database.  As long as no call inserts where another one has
inserted in the meantime, stores another text than those that are on their way have stored, or looks
for a review while another one is inserting, and none is cut off between its reviews, the job has
one report and the reviews of one call from the first return on (`refreshed_of_undisturbed`).
-/
import EcommerceAgent.Lib.Runs
import EcommerceAgent.Runtime.Records
import Mathlib.Data.Rat.Defs
import Mathlib.Algebra.Order.Ring.Rat

open EcommerceAgent.Lib
open EcommerceAgent.Runtime (BusinessReport StrategyReview StrategyCandidate RiskLevel PyError
  stripText cutText)

namespace EcommerceAgent.Imports

/-! ### What the queries return -/

/-- The figures of `get_metrics` that the texts use. -/
structure Metrics where
  orders : ℤ
  gmv : ℚ
  visitors : ℤ
  conversionRate : ℚ
  averageOrderValue : ℚ
  refundRate : ℚ
deriving DecidableEq, Repr

/-- The layers of `list_products`. -/
inductive Layer
  | hot | potential | slow | steady
deriving DecidableEq, Repr

/-- The name of a layer. -/
def Layer.text : Layer → String
  | hot => "爆品"
  | potential => "潜力品"
  | slow => "滞销品"
  | steady => "稳定品"

/-- An item of `list_products`. -/
structure ProductItem where
  name : String
  sales : ℤ
  conversionRate : ℚ
  layer : Layer
deriving DecidableEq, Repr

/-- An item of `list_inventory_risks`. -/
structure InventoryRisk where
  productName : String
  name : String
  sku : String
  stock : ℤ
  safetyStock : ℤ
  riskLevel : RiskLevel
  suggestedAction : String
deriving DecidableEq, Repr

/-- An item of `list_campaigns`. -/
structure CampaignItem where
  name : String
  roi : ℚ
  gmv : ℚ
  conclusion : String
deriving DecidableEq, Repr

/-- What the four functions return at a time. -/
structure ShopData where
  metrics : Metrics
  products : List ProductItem
  inventoryRisks : List InventoryRisk
  campaigns : List CampaignItem
deriving DecidableEq, Repr

/-! ### `business_text.py` -/

/-- The text of a float: `str(x)` and `f"{x:.2f}"`. -/
structure FloatText where
  str : ℚ → String
  fixed : ℚ → String

/-- The line of a risk; a safety stock of 0 counts as a missing one. -/
def riskLine (item : InventoryRisk) : String :=
  "- " ++ Runtime.orText item.productName (Runtime.orText item.name item.sku) ++
    "：库存 " ++ toString item.stock ++
    "，安全库存 " ++ (if item.safetyStock = 0 then "None" else toString item.safetyStock) ++
    "，建议 " ++ Runtime.orText item.suggestedAction "None"

/-- The line of a product. -/
def productLine (float : FloatText) (item : ProductItem) : String :=
  "- " ++ item.name ++ "：销量 " ++ toString item.sales ++ "，转化率 " ++
    float.str item.conversionRate ++ "%，分层 " ++ item.layer.text

/-- The line of a campaign. -/
def campaignLine (float : FloatText) (item : CampaignItem) : String :=
  "- " ++ item.name ++ "：ROI " ++ float.str item.roi ++ "，GMV " ++ float.str item.gmv ++
    "，结论：" ++ item.conclusion

/-- The lines, or the text that stands for none. -/
def linesOr (placeholder : String) (lines : List String) : String :=
  if lines = [] then placeholder else String.intercalate "\n" lines

/-- `build_import_overview_markdown`. -/
def buildImportOverviewMarkdown (float : FloatText) (data : ShopData) : String :=
  let metrics := data.metrics
  if metrics.orders = 0 ∧ metrics.gmv = 0 ∧ metrics.visitors = 0 ∧ data.products = [] ∧
      data.inventoryRisks = [] ∧ data.campaigns = [] then
    "# 导入后经营概览\n\n本次导入已经完成，但当前店铺还没有形成可分析的经营数据。建议检查上传文件是否包含" ++
      "订单号、商品 ID、成交金额、库存、安全库存、访客和转化等字段。\n\n## 下一步\n\n" ++
      "- 补充订单与商品字段后重新导入。\n- 确认当前店铺已选择正确的数据文件。\n" ++
      "- 如果只导入了活动或流量数据，建议同时补充订单明细以形成 GMV 和转化分析。\n"
  else
    "# 导入后经营概览\n\n本次导入后，系统已完成经营数据聚合。当前 GMV 为 " ++ float.fixed metrics.gmv ++
      "，订单数 " ++ toString metrics.orders ++ "，访客数 " ++ toString metrics.visitors ++
      "，转化率 " ++ float.fixed metrics.conversionRate ++ "%，客单价 " ++
      float.fixed metrics.averageOrderValue ++ "，退款率 " ++ float.fixed metrics.refundRate ++
      "%。\n\n## 商品表现\n\n" ++
      linesOr "- 暂无可分析商品。" ((data.products.take 5).map (productLine float)) ++
      "\n\n## 库存风险\n\n" ++
      linesOr "- 暂未发现高优先级库存风险。" ((data.inventoryRisks.take 5).map riskLine) ++
      "\n\n## 活动复盘\n\n" ++
      linesOr "- 暂无活动数据。" ((data.campaigns.take 5).map (campaignLine float)) ++
      "\n\n## 建议动作\n\n- 优先处理库存风险 SKU，避免导入后首轮活动承接不足。\n" ++
      "- 对高转化商品保留预算和库存，继续观察退款率与投放 ROI。\n" ++
      "- 对有访问但成交不足的商品，优先检查价格、主图和活动利益点。\n"

/-- A candidate of the import. -/
def importCandidate (title expectedImpact riskLevel : String) : StrategyCandidate where
  title := some title
  source := some "数据导入巡检"
  expectedImpact := some expectedImpact
  riskLevel := some riskLevel

/-- `build_strategy_candidates_from_metrics`. -/
def buildStrategyCandidatesFromMetrics (data : ShopData) : List StrategyCandidate :=
  let risk := data.inventoryRisks.head?.map fun first =>
    importCandidate ("优先处理 " ++ Runtime.orText first.productName first.sku ++ " 的库存风险")
      "预计降低缺货风险并提升活动承接效率" (if first.riskLevel = .high then "high" else "medium")
  let potential := (data.products.find? (·.layer == .potential)).map fun item =>
    importCandidate ("放大 " ++ item.name ++ " 的高转化流量") "预计提升潜力商品成交转化和 GMV 贡献" "medium"
  let weak := data.campaigns.find? fun item => item.roi < 2 && item.gmv > 0
  let weakCampaign := weak.map fun item =>
    importCandidate ("复盘 " ++ item.name ++ " 的投放 ROI") "预计减少低效投放并提升活动预算使用效率" "medium"
  let candidates := risk.toList ++ potential.toList ++ weakCampaign.toList
  if candidates = [] ∧ 0 < data.metrics.orders then
    [importCandidate "建立导入后每日经营巡检节奏" "预计更早发现 GMV、库存和退款异常" "low"]
  else candidates.take 3

/-- The texts between the separators `\n\s*\n`: these are the blank lines. -/
def paragraphs (content : List Char) : List (List Char) :=
  (((content.splitOn '\n').splitOnP (·.all Text.isSpace)).map fun lines =>
    Text.strip (List.intercalate ['\n'] lines)).filter (· ≠ [])

/-- The text without what `^#{1,6}\s*` matches. -/
def dropHeading (text : List Char) : List Char :=
  let marks := (text.take 6).takeWhile (· == '#')
  if marks = [] then text else (text.drop marks.length).dropWhile Text.isSpace

/-- `markdown_summary`; `isDecimal` is `\d`. -/
def markdownSummary (isDecimal : Char → Bool) (content : String) : String :=
  let stripped := Text.strip content.toList
  if stripped = [] then "报告已生成，但内容为空，请重新运行"
  else
    let paragraphs := paragraphs content.toList
    let first := ((paragraphs.find? fun item =>
      !(['#'].isPrefixOf (item.dropWhile Text.isSpace))).or paragraphs.head?).getD stripped
    let text := (dropHeading first).dropWhile fun c =>
      ">-*.、".toList.contains c || isDecimal c || Text.isSpace c
    let plain := text.filter fun c => !"`*_#".toList.contains c
    let words := (plain.splitOnP Text.isSpace).filter (· ≠ [])
    let line := List.intercalate [' '] words
    if line.length ≤ 180 then String.ofList line
    else String.ofList ((line.take 179).rdropWhile Text.isSpace) ++ "…"

/-! ### Tables and statements -/

/-- A row of `gateway_shops`. -/
structure ShopRow where
  tenantId : String
  id : String
  dataStatus : String
deriving DecidableEq, Repr

/-- The tables that the refresh writes, and what it reads of the others. -/
structure RefreshTables where
  shops : List ShopRow
  data : ShopData
  businessReports : List BusinessReport
  strategyReviews : List StrategyReview
deriving DecidableEq, Repr

/-- The statements of `run_post_import_refresh`.  Those that store the report go with its text, and
an insertion of a review is numbered by those before it. -/
inductive RefreshStatement
  | updateShop
  | getMetrics | listProducts | listInventoryRisks | listCampaigns
  | findReport | updateReport (content : String) | insertReport (content : String)
  | findReview | insertReview (inserted : ℕ)
deriving DecidableEq, Repr

/-- The text that the statement stores. -/
def RefreshStatement.text? : RefreshStatement → Option String
  | updateReport content => some content
  | insertReport content => some content
  | _ => none

/-- The statements up to the lookup of the report. -/
def RefreshStatement.reading : RefreshStatement → Bool
  | updateReport _ => false
  | insertReport _ => false
  | findReview => false
  | insertReview _ => false
  | _ => true

/-- What a call makes of the figures. -/
structure Overview where
  content : String
  candidates : List StrategyCandidate
deriving DecidableEq, Repr

/-- The result of `run_post_import_refresh`. -/
structure RefreshResult where
  workspaceShouldRefresh : Bool
  generatedReportId : String
  generatedStrategiesCount : ℕ
deriving DecidableEq, Repr

/-- A piece of the refresh. -/
abbrev RefreshScript (α : Type) := Script RefreshStatement RefreshTables PyError α

/-- The arguments that all calls for a job have in common, and how floats and digits are read. -/
structure Refresh where
  tenantId : String
  shopId : String
  importJobId : String
  float : FloatText
  isDecimal : Char → Bool

/-- The user of a call, and its values of `uuid.uuid4()`. -/
structure RefreshCall where
  userId : String
  uuid : ℕ → String

namespace Refresh

variable (R : Refresh)

/-- `WHERE tenant_id=%s AND shop_id=%s AND source_task_id=%s`. -/
def ofJob (tenantId shopId : String) (sourceTaskId : Option String) : Bool :=
  tenantId == R.tenantId && shopId == R.shopId && sourceTaskId == some R.importJobId

/-- The report is one of the job. -/
def reportOfJob (report : BusinessReport) : Bool :=
  R.ofJob report.tenantId report.shopId report.sourceTaskId

/-- The review is one of the job. -/
def reviewOfJob (review : StrategyReview) : Bool :=
  R.ofJob review.tenantId review.shopId review.sourceTaskId

/-- `WHERE tenant_id=%s AND shop_id=%s AND id=%s`. -/
def reportOfId (id : String) (report : BusinessReport) : Bool :=
  report.tenantId == R.tenantId && report.shopId == R.shopId && report.id == id

/-- The report with another text. -/
def rewritten (content : String) (report : BusinessReport) : BusinessReport :=
  { report with
    title := "导入后经营概览"
    type := "daily"
    summary := markdownSummary R.isDecimal content
    contentMarkdown := content
    status := .ready }

/-- A new report. -/
def newReport (call : RefreshCall) (content : String) : BusinessReport where
  id := call.uuid 0
  tenantId := R.tenantId
  shopId := R.shopId
  type := "daily"
  title := "导入后经营概览"
  summary := markdownSummary R.isDecimal content
  contentMarkdown := content
  structuredJson := none
  status := .ready
  sourceTaskId := some R.importJobId
  createdBy := call.userId

/-- A new review. -/
def newReview (id : String) (candidate : StrategyCandidate) : StrategyReview where
  id := id
  tenantId := R.tenantId
  shopId := R.shopId
  title := cutText 255 (stripText (candidate.title.getD ""))
  source := Runtime.orText (candidate.source.getD "") "数据导入巡检"
  expectedImpact := Runtime.orText (candidate.expectedImpact.getD "") "预计提升经营分析效率"
  riskLevel := .ofText candidate.riskLevel
  status := .pending
  sourceTaskId := some R.importJobId

end Refresh

namespace RefreshTables

/-- `UPDATE gateway_shops SET data_status='imported' … WHERE tenant_id=%s AND id=%s`. -/
def markImported (R : Refresh) (t : RefreshTables) : RefreshTables :=
  { t with
    shops := Table.updateWhere (fun shop => shop.tenantId == R.tenantId && shop.id == R.shopId)
      ({ · with dataStatus := "imported" }) t.shops }

/-- `UPDATE business_reports … WHERE tenant_id=%s AND shop_id=%s AND id=%s`. -/
def updateReport (R : Refresh) (id content : String) (t : RefreshTables) : RefreshTables :=
  { t with
    businessReports := Table.updateWhere (R.reportOfId id) (R.rewritten content) t.businessReports }

/-- `INSERT INTO business_reports …`. -/
def insertReport (report : BusinessReport) (t : RefreshTables) : RefreshTables :=
  { t with businessReports := t.businessReports ++ [report] }

/-- `INSERT INTO strategy_reviews …`. -/
def insertReview (review : StrategyReview) (t : RefreshTables) : RefreshTables :=
  { t with strategyReviews := t.strategyReviews ++ [review] }

end RefreshTables

namespace Refresh

variable (R : Refresh) (call : RefreshCall)

/-- `execute`. -/
def execute (statement : RefreshStatement) (f : RefreshTables → RefreshTables) :
    RefreshScript Unit :=
  .query statement f (fun _ => .ret ()) .raise

/-- `fetch_one` and `fetch_all`. -/
def fetch {α : Type} (statement : RefreshStatement) (q : RefreshTables → α) : RefreshScript α :=
  .query statement id (fun t => .ret (q t)) .raise

/-- `_upsert_import_report`. -/
def upsertImportReport (content : String) : RefreshScript String := do
  match ← fetch .findReport (·.businessReports.find? R.reportOfJob) with
  | some existing =>
    execute (.updateReport content) (·.updateReport R existing.id content)
    return existing.id
  | none =>
    execute (.insertReport content) (·.insertReport (R.newReport call content))
    return call.uuid 0

/-- The loop of `_insert_import_strategies`, after `inserted` insertions. -/
def insertStrategies : ℕ → List StrategyCandidate → RefreshScript ℕ
  | inserted, [] => pure inserted
  | inserted, candidate :: rest => do
    if stripText (candidate.title.getD "") = "" then insertStrategies inserted rest
    else
      execute (.insertReview inserted)
        (·.insertReview (R.newReview (call.uuid (inserted + 1)) candidate))
      insertStrategies (inserted + 1) rest

/-- `_insert_import_strategies`. -/
def insertImportStrategies (candidates : List StrategyCandidate) : RefreshScript ℕ := do
  match ← fetch .findReview (·.strategyReviews.find? R.reviewOfJob) with
  | some _ => return 0
  | none => insertStrategies R call 0 (candidates.take 3)

/-- `run_post_import_refresh`.  The four functions that read the figures run one after the other,
and the result comes with what the call made of them. -/
def runPostImportRefresh : RefreshScript (Overview × RefreshResult) := do
  execute .updateShop (·.markImported R)
  let metrics ← fetch .getMetrics (·.data.metrics)
  let products ← fetch .listProducts (·.data.products)
  let inventoryRisks ← fetch .listInventoryRisks (·.data.inventoryRisks)
  let campaigns ← fetch .listCampaigns (·.data.campaigns)
  let data := { metrics, products, inventoryRisks, campaigns }
  let content := buildImportOverviewMarkdown R.float data
  let reportId ← R.upsertImportReport call content
  let candidates := buildStrategyCandidatesFromMetrics data
  let strategiesCount ← R.insertImportStrategies call candidates
  return ({ content, candidates }, ⟨true, reportId, strategiesCount⟩)

end Refresh

/-! ### Several calls for a job -/

/-- A call, what is left of it, and the text that it has put in the report. -/
structure RefreshRun where
  call : RefreshCall
  rest : RefreshScript (Overview × RefreshResult)
  text : Option String := none

namespace RefreshRun

variable (c : RefreshRun)

/-- The text that the next statement stores, if it does not fail. -/
def stores (failure : Option PyError) : Option String :=
  if failure.isSome then none else c.rest.label?.bind (·.text?)

/-- The next statement inserts a report. -/
def inserting : Bool :=
  match c.rest.label? with
  | some (.insertReport _) => true
  | _ => false

/-- The text that the call has put in the report, if it has not ended. -/
def pending? : Option String := if c.rest.label?.isNone then none else c.text

/-- The number of reviews that the call has inserted, if another one follows. -/
def inserted? : Option ℕ :=
  match c.rest.label? with
  | some (.insertReview inserted) => some inserted
  | _ => none

/-- What the call has made of the figures, if it returns after its next statement. -/
def returns (failure : Option PyError) (t : RefreshTables) : Option Overview :=
  if c.rest.label?.isNone then none
  else ((c.rest.step failure t).1.result?.bind Except.toOption).map Prod.fst

end RefreshRun

/-- The database and the calls.  `completed` has the calls that have returned, the last one first;
`stored` says that a call has put its text in the report since then. -/
structure RefreshSystem where
  tables : RefreshTables
  calls : List RefreshRun := []
  completed : List Overview := []
  stored : Bool := false

/-- What happens: a call starts, the next statement of a call takes effect or fails, and the figures
of the shop change. -/
inductive RefreshAction
  | start (call : RefreshCall)
  | step (i : ℕ) (failure : Option PyError)
  | change (data : ShopData)

namespace Refresh

variable (R : Refresh)

/-- The next statement of the call `c`, the `i`-th. -/
def stepCall (s : RefreshSystem) (i : ℕ) (c : RefreshRun) (failure : Option PyError) :
    RefreshSystem :=
  if c.rest.label?.isNone then s
  else
    let next := c.rest.step failure s.tables
    { tables := next.2
      calls := s.calls.set i { c with rest := next.1, text := (c.stores failure).or c.text }
      completed := (c.returns failure s.tables).toList ++ s.completed
      stored := !(c.returns failure s.tables).isSome && (s.stored || (c.stores failure).isSome) }

/-- What happens, one after the other. -/
def step (s : RefreshSystem) : RefreshAction → RefreshSystem
  | .start call => { s with calls := s.calls ++ [{ call, rest := R.runPostImportRefresh call }] }
  | .step i failure => (s.calls[i]?).elim s fun c => stepCall s i c failure
  | .change data => { s with tables.data := data }

/-- The reports of the job. -/
def reportsOf (t : RefreshTables) : List BusinessReport := t.businessReports.filter R.reportOfJob

/-- The reviews of the job, without their ids. -/
def reviewsOf (t : RefreshTables) : List StrategyReview :=
  (t.strategyReviews.filter R.reviewOfJob).map ({ · with id := "" })

/-- The first three candidates, as far as they have a title. -/
def titled (o : Overview) : List StrategyCandidate :=
  (o.candidates.take 3).filter fun candidate => stripText (candidate.title.getD "") ≠ ""

/-- The reviews of some candidates, without ids. -/
def reviewRows (candidates : List StrategyCandidate) : List StrategyReview :=
  candidates.map (R.newReview "")

/-- The report is the overview with the text. -/
structure Shows (content : String) (report : BusinessReport) : Prop where
  title : report.title = "导入后经营概览"
  type : report.type = "daily"
  summary : report.summary = markdownSummary R.isDecimal content
  content : report.contentMarkdown = content
  status : report.status = .ready

/-- Once a call has returned, and whatever others are doing: the job has one overview report, with
the text of the last call that has returned unless another one has stored its text since; and it has
the reviews of one of the calls that have returned, or those had none to propose and another call is
inserting its own. -/
def Refreshed (s : RefreshSystem) : Prop :=
  ∀ last ∈ s.completed.head?,
    (∃ content report, R.reportsOf s.tables = [report] ∧ R.Shows content report ∧
      (s.stored = false → content = last.content)) ∧
    ((∃ o ∈ s.completed, R.reviewsOf s.tables = R.reviewRows (titled o)) ∨
      (∀ o ∈ s.completed, titled o = []) ∧
        ∃ c ∈ s.calls, c.inserted? = some (R.reviewsOf s.tables).length)

/-- The next statement of the call `c`, the `i`-th, keeps out of what the others are doing. -/
structure Undisturbed (s : RefreshSystem) (i : ℕ) (c : RefreshRun) (failure : Option PyError) :
    Prop where
  /-- A report is inserted only if there is none. -/
  report : failure = none → c.inserting → R.reportsOf s.tables = []
  /-- A text is stored only if no other call is on its way that has stored another one. -/
  text : ∀ content ∈ c.stores failure, ∀ c' ∈ s.calls.eraseIdx i, ∀ text ∈ c'.pending?,
    text = content
  /-- A review is looked for only if no call is between two insertions. -/
  look : failure = none → c.rest.label? = some .findReview → ∀ c' ∈ s.calls, ∀ n ∈ c'.inserted?,
    n = 0
  /-- A review is inserted only if all that are there are the call's own. -/
  review : failure = none → ∀ n ∈ c.inserted?, (R.reviewsOf s.tables).length = n
  /-- No insertion of a review fails but the first. -/
  whole : failure ≠ none → ∀ n ∈ c.inserted?, n = 0

/-- The condition on a step. -/
def StepsUndisturbed (s : RefreshSystem) : RefreshAction → Prop
  | .step i failure => ∀ c ∈ s.calls[i]?, R.Undisturbed s i c failure
  | _ => True

/-! ### Where a call stands -/

variable (call : RefreshCall)

/-- The lookup of a review, and what comes after it. -/
def reviewPart (o : Overview) (id : String) : RefreshScript (Overview × RefreshResult) :=
  (R.insertImportStrategies call o.candidates).bind fun n => .ret (o, ⟨true, id, n⟩)

/-- The lookup of a report, and what comes after it. -/
def reportPart (o : Overview) : RefreshScript (Overview × RefreshResult) :=
  (R.upsertImportReport call o.content).bind fun id => R.reviewPart call o id

/-- The call has not looked for a report yet. -/
inductive Reading : RefreshScript (Overview × RefreshResult) → Prop
  | look (o : Overview) : Reading (R.reportPart call o)
  | read {statement : RefreshStatement} {effect : RefreshTables → RefreshTables}
      {next : RefreshTables → RefreshScript (Overview × RefreshResult)}
      (hreading : statement.reading = true)
      (hreports : ∀ t, (effect t).businessReports = t.businessReports)
      (hreviews : ∀ t, (effect t).strategyReviews = t.strategyReviews)
      (hnext : ∀ t, Reading (next t)) : Reading (.query statement effect next .raise)

/-- Where a call may stand that has put `text` in the report, and what it relies on. -/
inductive Stands (t : RefreshTables) :
    Option String → RefreshScript (Overview × RefreshResult) → Prop
  | ended {text : Option String} {rest : RefreshScript (Overview × RefreshResult)} :
      rest.label? = none → Stands t text rest
  | reading {text : Option String} {rest : RefreshScript (Overview × RefreshResult)} :
      R.Reading call rest → Stands t text rest
  | updateReport {text : Option String} (o : Overview) (report : BusinessReport) :
      R.reportsOf t = [report] → Stands t text
        ((execute (.updateReport o.content) (·.updateReport R report.id o.content)).bind fun _ =>
          R.reviewPart call o report.id)
  | insertReport {text : Option String} (o : Overview) : Stands t text
      ((execute (.insertReport o.content) (·.insertReport (R.newReport call o.content))).bind
        fun _ => R.reviewPart call o (call.uuid 0))
  | findReview (o : Overview) (id : String) (report : BusinessReport) :
      R.reportsOf t = [report] → report.contentMarkdown = o.content →
      Stands t (some o.content) (R.reviewPart call o id)
  | insertReview (o : Overview) (id : String) (report : BusinessReport)
      (candidates : List StrategyCandidate) (candidate : StrategyCandidate)
      (rest : List StrategyCandidate) :
      R.reportsOf t = [report] → report.contentMarkdown = o.content →
      titled o = candidates ++ candidate :: rest →
      (candidates ≠ [] → R.reviewsOf t = R.reviewRows candidates) →
      Stands t (some o.content)
        ((R.insertStrategies call candidates.length (candidate :: rest)).bind fun n =>
          .ret (o, ⟨true, id, n⟩))

/-- The call has inserted some reviews, and another one follows. -/
def Amid (rest : RefreshScript (Overview × RefreshResult)) : Prop :=
  ∃ n, rest.label? = some (.insertReview (n + 1))

/-- What holds in every state of a run. -/
structure Inv (s : RefreshSystem) : Prop where
  stands : ∀ c ∈ s.calls, R.Stands c.call s.tables c.text c.rest
  single : ∀ (i j : ℕ) (c c' : RefreshRun), s.calls[i]? = some c → s.calls[j]? = some c' →
    Amid c.rest → Amid c'.rest → i = j
  report : R.reportsOf s.tables = [] ∨
    ∃ content report, R.reportsOf s.tables = [report] ∧ R.Shows content report
  review : R.reviewsOf s.tables = [] ∨ (∃ c ∈ s.calls, Amid c.rest) ∨
    ∃ o ∈ s.completed, R.reviewsOf s.tables = R.reviewRows (titled o)
  returned : s.completed ≠ [] → R.reportsOf s.tables ≠ []
  untitled : R.reviewsOf s.tables = [] ∨ (∃ c ∈ s.calls, Amid c.rest) →
    ∀ o ∈ s.completed, titled o = []
  content : s.stored = false → ∀ o ∈ s.completed.head?, ∀ report ∈ R.reportsOf s.tables,
    report.contentMarkdown = o.content

end Refresh

namespace Refresh

variable {R : Refresh} {call : RefreshCall} {t t' : RefreshTables} {s : RefreshSystem}
  {rest : RefreshScript (Overview × RefreshResult)}

/-- A call starts by reading. -/
lemma reading_runPostImportRefresh (R : Refresh) (call : RefreshCall) :
    R.Reading call (R.runPostImportRefresh call) := by
  refine .read rfl (fun _ => rfl) (fun _ => rfl) fun _ => ?_
  refine .read rfl (fun _ => rfl) (fun _ => rfl) fun t₁ => ?_
  refine .read rfl (fun _ => rfl) (fun _ => rfl) fun t₂ => ?_
  refine .read rfl (fun _ => rfl) (fun _ => rfl) fun t₃ => ?_
  refine .read rfl (fun _ => rfl) (fun _ => rfl) fun t₄ => ?_
  exact .look ⟨_, buildStrategyCandidatesFromMetrics
    ⟨t₁.data.metrics, t₂.data.products, t₃.data.inventoryRisks, t₄.data.campaigns⟩⟩

/-- The next statement of a call that reads is no insertion of a review. -/
lemma Reading.not_amid (h : R.Reading call rest) : ¬ Amid rest := by
  rintro ⟨n, hn⟩
  cases h with
  | look o => cases hn
  | read hreading _ _ _ =>
    rw [Option.some.inj hn] at hreading
    cases hreading

lemma Reading.label_ne (h : R.Reading call rest) : rest.label? ≠ none := by
  cases h <;> exact fun h => by cases h

/-- A call that reads stores no text with its next statement. -/
lemma Reading.stores (text : Option String) (h : R.Reading call rest) :
    RefreshRun.stores ⟨call, rest, text⟩ none = none := by
  cases h with
  | look o => rfl
  | @read statement _ _ hreading _ _ _ =>
    cases statement <;> first | rfl | cases hreading

/-- The next insertion, if the candidate has a title. -/
lemma insertStrategies_cons {candidate : StrategyCandidate}
    (htitle : stripText (candidate.title.getD "") ≠ "") (n : ℕ) (rest : List StrategyCandidate) :
    R.insertStrategies call n (candidate :: rest) =
      (execute (.insertReview n)
        (·.insertReview (R.newReview (call.uuid (n + 1)) candidate))).bind fun _ =>
          R.insertStrategies call (n + 1) rest := by
  rw [insertStrategies, if_neg htitle, Script.bind_eq]

/-- Candidates without a title are skipped. -/
lemma insertStrategies_titled (n : ℕ) (candidates : List StrategyCandidate) :
    R.insertStrategies call n candidates = R.insertStrategies call n
      (candidates.filter fun candidate => stripText (candidate.title.getD "") ≠ "") := by
  induction candidates generalizing n with
  | nil => rfl
  | cons candidate rest ih =>
    by_cases htitle : stripText (candidate.title.getD "") = ""
    · rw [insertStrategies, if_pos htitle, List.filter_cons_of_neg (by simp [htitle]), ih]
    · rw [List.filter_cons_of_pos (by simp [htitle]), insertStrategies_cons htitle,
        insertStrategies_cons htitle, ih]

lemma title_of_titled {o : Overview} {candidates rest : List StrategyCandidate}
    {candidate : StrategyCandidate} (h : titled o = candidates ++ candidate :: rest) :
    stripText (candidate.title.getD "") ≠ "" := by
  have hmem : candidate ∈ titled o := by simp [h]
  simpa using (List.mem_filter.1 hmem).2

/-- What a call relies on stays while others change other things. -/
lemma Stands.frame {text : Option String} (h : R.Stands call t text rest)
    (hreport : ∀ report, R.reportsOf t = [report] → ∃ report', R.reportsOf t' = [report'] ∧
      report'.id = report.id ∧
      (rest.label? ≠ none → text = some report.contentMarkdown →
        report'.contentMarkdown = report.contentMarkdown))
    (hreview : Amid rest → R.reviewsOf t' = R.reviewsOf t) : R.Stands call t' text rest := by
  cases h with
  | ended h => exact .ended h
  | reading h => exact .reading h
  | updateReport o report h =>
    obtain ⟨report', h', hid, _⟩ := hreport report h
    rw [← hid]
    exact .updateReport o report' h'
  | insertReport o => exact .insertReport o
  | findReview o id report h htext =>
    obtain ⟨report', h', _, hcontent⟩ := hreport report h
    exact .findReview o id report' h'
      ((hcontent (fun h => by cases h) (congrArg some htext.symm)).trans htext)
  | insertReview o id report candidates candidate rest h htext htitled hrows =>
    obtain ⟨report', h', _, hcontent⟩ := hreport report h
    have hlabel : ((R.insertStrategies call candidates.length (candidate :: rest)).bind fun n =>
        .ret (o, (⟨true, id, n⟩ : RefreshResult))).label? ≠ none := by
      rw [insertStrategies_cons (title_of_titled htitled)]
      exact fun h => by cases h
    refine .insertReview o id report' candidates candidate rest h'
      ((hcontent hlabel (congrArg some htext.symm)).trans htext) htitled fun hcandidates => ?_
    have hamid : Amid ((R.insertStrategies call candidates.length (candidate :: rest)).bind fun n =>
        .ret (o, (⟨true, id, n⟩ : RefreshResult))) := by
      rw [insertStrategies_cons (title_of_titled htitled)]
      obtain ⟨first, candidates, rfl⟩ := List.exists_cons_of_ne_nil hcandidates
      exact ⟨candidates.length, rfl⟩
    rw [hreview hamid]
    exact hrows hcandidates

/-! ### One statement -/

/-- A statement that fails ends its call. -/
lemma Stands.step_fails {text : Option String} (h : R.Stands call t text rest)
    (hlabel : rest.label? ≠ none) (e : PyError)
    (t' : RefreshTables) : rest.step (some e) t' = (.raise e, t') := by
  cases h with
  | ended h => exact absurd h hlabel
  | reading h =>
    cases h with
    | look o => rfl
    | read _ _ _ _ => rfl
  | updateReport | insertReport | findReview => rfl
  | insertReview o id report candidates candidate rest _ _ htitled _ =>
    rw [insertStrategies_cons (title_of_titled htitled)]
    rfl

/-- A call after a step is the one that took it or an old one. -/
lemma getElem?_set_cases {calls : List RefreshRun} {i j : ℕ} {c a : RefreshRun}
    (h : (calls.set i c)[j]? = some a) : (i = j ∧ a = c) ∨ (i ≠ j ∧ calls[j]? = some a) := by
  rw [List.getElem?_set] at h
  by_cases hij : i = j
  · rw [if_pos hij] at h
    split at h
    · exact .inl ⟨hij, (Option.some.inj h).symm⟩
    · cases h
  · rw [if_neg hij] at h
    exact .inr ⟨hij, h⟩

/-- All calls but one stand where they stood. -/
lemma forall_mem_set {calls : List RefreshRun} {P : RefreshRun → Prop} {i : ℕ} {c : RefreshRun}
    (hothers : ∀ j c', calls[j]? = some c' → i ≠ j → P c') (hc : P c) :
    ∀ c' ∈ calls.set i c, P c' := by
  intro c' hc'
  obtain ⟨j, hj⟩ := List.mem_iff_getElem?.1 hc'
  rcases getElem?_set_cases hj with ⟨_, rfl⟩ | ⟨hij, hj⟩
  · exact hc
  · exact hothers j c' hj hij

/-- Another call is still there. -/
lemma exists_mem_set {calls : List RefreshRun} {P : RefreshRun → Prop} {i : ℕ} {c c' : RefreshRun}
    (h : ∃ x ∈ calls, P x) (hc : calls[i]? = some c) (hP : ¬ P c) :
    ∃ x ∈ calls.set i c', P x := by
  obtain ⟨x, hx, hPx⟩ := h
  obtain ⟨j, hj⟩ := List.mem_iff_getElem?.1 hx
  have hij : i ≠ j := by
    rintro rfl
    rw [hc, Option.some.injEq] at hj
    exact hP (hj ▸ hPx)
  exact ⟨x, List.mem_of_getElem? ((List.getElem?_set_ne hij).trans hj), hPx⟩

/-- Another call was already there. -/
lemma of_exists_mem_set {calls : List RefreshRun} {P : RefreshRun → Prop} {i : ℕ} {c : RefreshRun}
    (h : ∃ x ∈ calls.set i c, P x) (hP : ¬ P c) : ∃ x ∈ calls, P x := by
  obtain ⟨x, hx, hPx⟩ := h
  obtain hx | rfl := List.mem_or_eq_of_mem_set hx
  · exact ⟨x, hx, hPx⟩
  · exact absurd hPx hP

lemma mem_set_of_some {calls : List RefreshRun} {i : ℕ} {c c' : RefreshRun}
    (hc : calls[i]? = some c) : c' ∈ calls.set i c' := by
  refine List.mem_of_getElem? (i := i) ?_
  rw [List.getElem?_set_self', hc]
  rfl

/-- No two calls are amid their insertions after a step, if the one that took it is alone. -/
lemma single_set {calls : List RefreshRun} {i : ℕ} {c : RefreshRun}
    (h : ∀ (i j : ℕ) (c c' : RefreshRun), calls[i]? = some c → calls[j]? = some c' →
      Amid c.rest → Amid c'.rest → i = j)
    (hc : Amid c.rest → ∀ (j : ℕ) (c' : RefreshRun), calls[j]? = some c' → i ≠ j → ¬ Amid c'.rest) :
    ∀ (j k : ℕ) (a b : RefreshRun), (calls.set i c)[j]? = some a → (calls.set i c)[k]? = some b →
      Amid a.rest → Amid b.rest → j = k := by
  intro j k a b ha hb hamid hamid'
  rcases getElem?_set_cases ha with ⟨rfl, rfl⟩ | ⟨hj, ha'⟩ <;>
    rcases getElem?_set_cases hb with ⟨rfl, rfl⟩ | ⟨hk, hb'⟩
  · rfl
  · exact absurd hamid' (hc hamid k b hb' hk)
  · exact absurd hamid (hc hamid' j a ha' hj)
  · exact h j k a b ha' hb' hamid hamid'

variable {i : ℕ} {c : RefreshRun}

/-- A call that has ended does nothing. -/
lemma stepCall_of_ended (hlabel : c.rest.label? = none) (failure : Option PyError) :
    stepCall s i c failure = s := by
  rw [stepCall, if_pos (by simp [hlabel])]

/-- The call goes on. -/
lemma stepCall_goes (hlabel : c.rest.label? ≠ none)
    (hstep : c.rest.step none s.tables = (rest, t')) (hrest : rest.label? ≠ none) :
    stepCall s i c none =
      { s with
        tables := t'
        calls := s.calls.set i ⟨c.call, rest, (c.stores none).or c.text⟩
        stored := s.stored || (c.stores none).isSome } := by
  have hresult : rest.result? = none := by
    cases rest with
    | ret a => exact absurd rfl hrest
    | raise e => exact absurd rfl hrest
    | query | act => rfl
  have hreturns : c.returns none s.tables = none := by
    simp [RefreshRun.returns, hstep, hresult]
  rw [stepCall, if_neg (by simpa using hlabel)]
  simp [hreturns, hstep]

/-- The call returns. -/
lemma stepCall_returns (hlabel : c.rest.label? ≠ none) {o : Overview} {r : RefreshResult}
    (hstep : c.rest.step none s.tables = (.ret (o, r), t')) :
    stepCall s i c none =
      { tables := t'
        calls := s.calls.set i ⟨c.call, .ret (o, r), (c.stores none).or c.text⟩
        completed := o :: s.completed } := by
  have hreturns : c.returns none s.tables = some o := by
    rw [RefreshRun.returns, if_neg (by simpa using hlabel), hstep]
    rfl
  rw [stepCall, if_neg (by simpa using hlabel)]
  simp [hreturns, hstep]

/-- The call is cut off. -/
lemma stepCall_fails (hlabel : c.rest.label? ≠ none) {e : PyError}
    (hstep : c.rest.step (some e) s.tables = (.raise e, s.tables)) :
    stepCall s i c (some e) = { s with calls := s.calls.set i ⟨c.call, .raise e, c.text⟩ } := by
  have hreturns : c.returns (some e) s.tables = none := by
    rw [RefreshRun.returns, if_neg (by simpa using hlabel), hstep]
    rfl
  rw [stepCall, if_neg (by simpa using hlabel)]
  simp [hreturns, hstep, RefreshRun.stores]

/-- An invariant state stays one when a call is cut off, but not between its reviews. -/
lemma Inv.cut (hs : R.Inv s) (hc : s.calls[i]? = some c) (hlabel : c.rest.label? ≠ none)
    (e : PyError) (hwhole : ¬ Amid c.rest) : R.Inv (stepCall s i c (some e)) := by
  have hstep := (hs.stands c (List.mem_of_getElem? hc)).step_fails hlabel e s.tables
  have hended : ¬ Amid (.raise e) := by
    rintro ⟨n, hn⟩
    cases hn
  rw [stepCall_fails hlabel hstep]
  exact
    { stands := forall_mem_set (fun j c' hc' _ => hs.stands c' (List.mem_of_getElem? hc'))
        (.ended rfl)
      single := single_set hs.single fun hamid => absurd hamid hended
      report := hs.report
      review := by
        rcases hs.review with h | h | h
        · exact .inl h
        · exact .inr (.inl (exists_mem_set h hc hwhole))
        · exact .inr (.inr h)
      returned := hs.returned
      untitled := fun h => hs.untitled (h.imp_right fun h => of_exists_mem_set h hended)
      content := hs.content }

/-! ### What the statements do to the rows of the job -/

lemma reportsOf_insertReport (t : RefreshTables) (content : String) :
    R.reportsOf (t.insertReport (R.newReport call content)) =
      R.reportsOf t ++ [R.newReport call content] := by
  have hjob : R.reportOfJob (R.newReport call content) = true := by
    simp [reportOfJob, ofJob, newReport]
  simp [reportsOf, RefreshTables.insertReport, hjob]

lemma reportsOf_updateReport {report : BusinessReport} (h : R.reportsOf t = [report])
    (content : String) :
    R.reportsOf (t.updateReport R report.id content) = [R.rewritten content report] := by
  have hjob : R.reportOfJob report = true :=
    (List.mem_filter.1 (h ▸ List.mem_singleton_self report : report ∈ R.reportsOf t)).2
  have hid : R.reportOfId report.id report = true := by
    simp only [reportOfJob, ofJob, Bool.and_eq_true] at hjob
    simp [reportOfId, hjob.1]
  refine (Table.filter_updateWhere (p := R.reportOfId report.id) (q := R.reportOfJob)
    (f := R.rewritten content) (fun _ => rfl) t.businessReports).trans ?_
  rw [show t.businessReports.filter R.reportOfJob = [report] from h, List.map_singleton, if_pos hid]

lemma reviewsOf_insertReview (t : RefreshTables) (id : String) (candidate : StrategyCandidate) :
    R.reviewsOf (t.insertReview (R.newReview id candidate)) =
      R.reviewsOf t ++ [R.newReview "" candidate] := by
  have hjob : R.reviewOfJob (R.newReview id candidate) = true := by
    simp [reviewOfJob, ofJob, newReview]
  simp only [reviewsOf, RefreshTables.insertReview, List.filter_append, List.filter_singleton, hjob,
    List.map_append]
  rfl

lemma shows_newReport (R : Refresh) (call : RefreshCall) (content : String) :
    R.Shows content (R.newReport call content) := ⟨rfl, rfl, rfl, rfl, rfl⟩

lemma shows_rewritten (R : Refresh) (content : String) (report : BusinessReport) :
    R.Shows content (R.rewritten content report) := ⟨rfl, rfl, rfl, rfl, rfl⟩

/-- A call goes on and leaves the rows of the job alone. -/
lemma Inv.looks (hs : R.Inv s) (hc : s.calls[i]? = some c) (hlabel : c.rest.label? ≠ none)
    (hstores : c.stores none = none) (hstep : c.rest.step none s.tables = (rest, t'))
    (hrest : rest.label? ≠ none) (hreports : R.reportsOf t' = R.reportsOf s.tables)
    (hreviews : R.reviewsOf t' = R.reviewsOf s.tables) (hstands : R.Stands c.call t' c.text rest)
    (hwas : ¬ Amid c.rest) (hamid : ¬ Amid rest) : R.Inv (stepCall s i c none) := by
  rw [stepCall_goes hlabel hstep hrest, hstores, Option.none_or, Option.isSome_none, Bool.or_false]
  refine
    { stands := forall_mem_set (fun j c' hc' _ => ?_) hstands
      single := single_set hs.single fun h => absurd h hamid
      report := by simpa only [hreports] using hs.report
      review := ?_
      returned := by simpa only [hreports] using hs.returned
      untitled := fun h => hs.untitled ?_
      content := by simpa only [hreports] using hs.content }
  · exact (hs.stands c' (List.mem_of_getElem? hc')).frame
      (fun report h => ⟨report, hreports.trans h, rfl, fun _ _ => rfl⟩) fun _ => hreviews
  · rcases hs.review with h | h | h
    · exact .inl (hreviews.trans h)
    · exact .inr (.inl (exists_mem_set h hc hwas))
    · exact .inr (.inr (by simpa only [hreviews] using h))
  · exact h.imp (fun h => hreviews.symm.trans h) fun h => of_exists_mem_set h hamid

/-- A call stores its report. -/
lemma Inv.stores (hs : R.Inv s) (hc : s.calls[i]? = some c) (hlabel : c.rest.label? ≠ none)
    {o : Overview} {id : String} (hstores : c.stores none = some o.content)
    (hstep : c.rest.step none s.tables = (R.reviewPart c.call o id, t'))
    {report : BusinessReport} (hreports : R.reportsOf t' = [report])
    (hshows : R.Shows o.content report)
    (hids : ∀ old, R.reportsOf s.tables = [old] → report.id = old.id)
    (hothers : ∀ c' ∈ s.calls.eraseIdx i, ∀ text ∈ c'.pending?, text = o.content)
    (hreviews : R.reviewsOf t' = R.reviewsOf s.tables) (hwas : ¬ Amid c.rest) :
    R.Inv (stepCall s i c none) := by
  have hamid : ¬ Amid (R.reviewPart c.call o id) := by
    rintro ⟨n, hn⟩
    cases hn
  rw [stepCall_goes hlabel hstep (fun h => by cases h), hstores, Option.some_or, Option.isSome_some,
    Bool.or_true]
  refine
    { stands := forall_mem_set (fun j c' hc' hij => ?_)
        (.findReview o id report hreports hshows.content)
      single := single_set hs.single fun h => absurd h hamid
      report := .inr ⟨o.content, report, hreports, hshows⟩
      review := ?_
      returned := fun _ => by simp [hreports]
      untitled := fun h => hs.untitled ?_
      content := fun h => by cases h }
  · refine (hs.stands c' (List.mem_of_getElem? hc')).frame
      (fun old h => ⟨report, hreports, hids old h, fun hlabel htext => ?_⟩) fun _ => hreviews
    -- the other call has stored the same text
    have hpending : c'.pending? = some old.contentMarkdown := by
      rw [RefreshRun.pending?, if_neg (by simpa using hlabel), htext]
    have hmem : c' ∈ s.calls.eraseIdx i := List.mem_eraseIdx_iff_getElem?.2 ⟨j, Ne.symm hij, hc'⟩
    exact hshows.content.trans (hothers c' hmem _ hpending).symm
  · rcases hs.review with h | h | h
    · exact .inl (hreviews.trans h)
    · exact .inr (.inl (exists_mem_set h hc hwas))
    · exact .inr (.inr (by simpa only [hreviews] using h))
  · exact h.imp (fun h => hreviews.symm.trans h) fun h => of_exists_mem_set h hamid

/-- A call returns, and the report has its text. -/
lemma Inv.returns (hs : R.Inv s) (hc : s.calls[i]? = some c) (hlabel : c.rest.label? ≠ none)
    {o : Overview} {r : RefreshResult} (hstep : c.rest.step none s.tables = (.ret (o, r), t'))
    (hreports : R.reportsOf t' = R.reportsOf s.tables) {report : BusinessReport}
    (hreport : R.reportsOf s.tables = [report]) (hcontent : report.contentMarkdown = o.content)
    (hothers : ∀ (j : ℕ) (c' : RefreshRun), s.calls[j]? = some c' → i ≠ j → ¬ Amid c'.rest)
    (hreview : (R.reviewsOf t' = R.reviewsOf s.tables ∧ ¬ Amid c.rest) ∨
      R.reviewsOf t' = R.reviewRows (titled o))
    (huntitled : R.reviewsOf t' = [] → R.reviewsOf s.tables = [] ∧ titled o = []) :
    R.Inv (stepCall s i c none) := by
  have hended : ¬ Amid (.ret (o, r)) := by
    rintro ⟨n, hn⟩
    cases hn
  rw [stepCall_returns hlabel hstep]
  refine
    { stands := forall_mem_set (fun j c' hc' hij => ?_) (.ended rfl)
      single := single_set hs.single fun h => absurd h hended
      report := by simpa only [hreports] using hs.report
      review := ?_
      returned := fun _ => by simp [hreports, hreport]
      untitled := fun h => ?_
      content := fun _ o' ho' report' hreport' => ?_ }
  · exact (hs.stands c' (List.mem_of_getElem? hc')).frame
      (fun report h => ⟨report, hreports.trans h, rfl, fun _ _ => rfl⟩)
      fun h => absurd h (hothers j c' hc' hij)
  · rcases hreview with ⟨hreviews, hwas⟩ | h
    · rcases hs.review with h | h | ⟨o', ho', h⟩
      · exact .inl (hreviews.trans h)
      · exact .inr (.inl (exists_mem_set h hc hwas))
      · exact .inr (.inr ⟨o', List.mem_cons_of_mem _ ho', hreviews.trans h⟩)
    · exact .inr (.inr ⟨o, by simp, h⟩)
  · rcases h with h | ⟨c', hc', hamid⟩
    · obtain ⟨hempty, htitled⟩ := huntitled h
      exact List.forall_mem_cons.2 ⟨htitled, hs.untitled (.inl hempty)⟩
    · exact absurd hamid (forall_mem_set (P := fun c => ¬ Amid c.rest) hothers hended c' hc')
  · obtain rfl : o = o' := by simpa using ho'
    obtain rfl : report' = report := by simpa [hreports, hreport] using hreport'
    exact hcontent

/-- A call inserts a review, and another one follows. -/
lemma Inv.inserts (hs : R.Inv s) (hc : s.calls[i]? = some c) (hlabel : c.rest.label? ≠ none)
    (hstores : c.stores none = none) (hstep : c.rest.step none s.tables = (rest, t'))
    (hamid : Amid rest) (hreports : R.reportsOf t' = R.reportsOf s.tables)
    (hstands : R.Stands c.call t' c.text rest)
    (hbefore : R.reviewsOf s.tables = [] ∨ Amid c.rest)
    (hothers : ∀ (j : ℕ) (c' : RefreshRun), s.calls[j]? = some c' → i ≠ j → ¬ Amid c'.rest) :
    R.Inv (stepCall s i c none) := by
  obtain ⟨n, hn⟩ := hamid
  rw [stepCall_goes hlabel hstep (by simp [hn]), hstores, Option.none_or, Option.isSome_none,
    Bool.or_false]
  refine
    { stands := forall_mem_set (fun j c' hc' hij => ?_) hstands
      single := single_set hs.single fun _ => hothers
      report := by simpa only [hreports] using hs.report
      review := .inr (.inl ⟨_, mem_set_of_some hc, n, hn⟩)
      returned := by simpa only [hreports] using hs.returned
      untitled := fun _ => hs.untitled
        (hbefore.imp_right fun h => ⟨c, List.mem_of_getElem? hc, h⟩)
      content := by simpa only [hreports] using hs.content }
  exact (hs.stands c' (List.mem_of_getElem? hc')).frame
    (fun report h => ⟨report, hreports.trans h, rfl, fun _ _ => rfl⟩)
    fun h => absurd h (hothers j c' hc' hij)

lemma inserted?_of_amid {n : ℕ} (h : c.rest.label? = some (.insertReview n)) :
    c.inserted? = some n := by
  simp [RefreshRun.inserted?, h]

/-- A call that is amid its insertions has inserted what is there. -/
lemma Stands.inserted?_of_amid {text : Option String} (h : R.Stands call t text rest)
    (hamid : Amid rest) : R.reviewsOf t ≠ [] ∧
      RefreshRun.inserted? ⟨call, rest, text⟩ = some (R.reviewsOf t).length := by
  obtain ⟨n, hn⟩ := hamid
  cases h with
  | ended h => exact absurd hn (by simp [h])
  | reading h => exact absurd ⟨n, hn⟩ h.not_amid
  | updateReport | insertReport | findReview => cases hn
  | insertReview o id report candidates candidate rest _ _ htitled hrows =>
    have hlabel : ((R.insertStrategies call candidates.length (candidate :: rest)).bind fun n =>
        .ret (o, (⟨true, id, n⟩ : RefreshResult))).label? =
          some (.insertReview candidates.length) := by
      rw [insertStrategies_cons (title_of_titled htitled)]
      rfl
    have hlength : candidates.length = n + 1 :=
      RefreshStatement.insertReview.inj (Option.some.inj (hlabel.symm.trans hn))
    have hcandidates : candidates ≠ [] := List.ne_nil_of_length_eq_add_one hlength
    rw [hrows hcandidates]
    refine ⟨by simpa [reviewRows] using hcandidates, ?_⟩
    rw [Refresh.inserted?_of_amid (c := ⟨call, _, _⟩) hlabel, reviewRows, List.length_map]

variable {text : Option String}

/-- The lookup of the report. -/
lemma Inv.step_reportPart (hs : R.Inv s) {o : Overview}
    (hc : s.calls[i]? = some ⟨call, R.reportPart call o, text⟩) :
    R.Inv (stepCall s i ⟨call, R.reportPart call o, text⟩ none) := by
  have hfind : s.tables.businessReports.find? R.reportOfJob = (R.reportsOf s.tables).head? :=
    List.head?_filter.symm
  have hwas : ¬ Amid (R.reportPart call o) := fun ⟨n, hn⟩ => by cases hn
  have hlabel : (R.reportPart call o).label? ≠ none := fun h => by cases h
  rcases hs.report with hnone | ⟨_, report, hreport, _⟩
  · rw [hnone, List.head?_nil] at hfind
    have hstep : (R.reportPart call o).step none s.tables =
        ((execute (.insertReport o.content) (·.insertReport (R.newReport call o.content))).bind
          fun _ => R.reviewPart call o (call.uuid 0), s.tables) := by
      simp only [reportPart, upsertImportReport, fetch, Script.bind_eq, Script.bind, Script.step,
        hfind]
      rfl
    refine hs.looks hc hlabel rfl hstep (fun h => by cases h) rfl rfl (.insertReport o) hwas ?_
    rintro ⟨n, hn⟩
    cases hn
  · rw [hreport, List.head?_cons] at hfind
    have hstep : (R.reportPart call o).step none s.tables =
        ((execute (.updateReport o.content) (·.updateReport R report.id o.content)).bind fun _ =>
          R.reviewPart call o report.id, s.tables) := by
      simp only [reportPart, upsertImportReport, fetch, Script.bind_eq, Script.bind, Script.step,
        hfind]
      rfl
    refine hs.looks hc hlabel rfl hstep (fun h => by cases h) rfl rfl
      (.updateReport o report hreport) hwas ?_
    rintro ⟨n, hn⟩
    cases hn

/-- The lookup of a review. -/
lemma Inv.step_reviewPart (hs : R.Inv s) {o : Overview} {id : String} {report : BusinessReport}
    (hc : s.calls[i]? = some ⟨call, R.reviewPart call o id, some o.content⟩)
    (hreport : R.reportsOf s.tables = [report]) (hcontent : report.contentMarkdown = o.content)
    (h : R.Undisturbed s i ⟨call, R.reviewPart call o id, some o.content⟩ none) :
    R.Inv (stepCall s i ⟨call, R.reviewPart call o id, some o.content⟩ none) := by
  have hwas : ¬ Amid (R.reviewPart call o id) := fun ⟨n, hn⟩ => by cases hn
  have hlabel : (R.reviewPart call o id).label? ≠ none := fun h => by cases h
  have hfind : s.tables.strategyReviews.find? R.reviewOfJob =
      (s.tables.strategyReviews.filter R.reviewOfJob).head? := List.head?_filter.symm
  have hothers : ∀ (j : ℕ) (c' : RefreshRun), s.calls[j]? = some c' → i ≠ j → ¬ Amid c'.rest := by
    rintro j c' hc' _ ⟨n, hn⟩
    have hzero := h.look rfl rfl c' (List.mem_of_getElem? hc') _ (inserted?_of_amid hn)
    omega
  cases hreviews : s.tables.strategyReviews.filter R.reviewOfJob with
  | cons review reviews =>
    -- the job has reviews, and the call ends without an insertion
    rw [hreviews, List.head?_cons] at hfind
    have hstep : (R.reviewPart call o id).step none s.tables =
        (.ret (o, ⟨true, id, 0⟩), s.tables) := by
      simp only [reviewPart, insertImportStrategies, fetch, Script.bind_eq, Script.bind,
        Script.step, hfind]
      rfl
    refine hs.returns hc hlabel hstep rfl hreport hcontent hothers (.inl ⟨rfl, hwas⟩)
      fun hempty => ?_
    rw [reviewsOf, hreviews] at hempty
    cases hempty
  | nil =>
    rw [hreviews, List.head?_nil] at hfind
    have hempty : R.reviewsOf s.tables = [] := by rw [reviewsOf, hreviews, List.map_nil]
    have hstep : (R.reviewPart call o id).step none s.tables =
        ((R.insertStrategies call 0 (titled o)).bind fun n => .ret (o, ⟨true, id, n⟩),
          s.tables) := by
      simp only [reviewPart, insertImportStrategies, fetch, Script.bind_eq, Script.bind,
        Script.step, hfind, titled]
      rw [← insertStrategies_titled]
      rfl
    cases htitled : titled o with
    | nil =>
      -- no candidate has a title
      rw [htitled] at hstep
      exact hs.returns hc hlabel hstep rfl hreport hcontent hothers (.inl ⟨rfl, hwas⟩)
        fun _ => ⟨hempty, htitled⟩
    | cons candidate rest =>
      rw [htitled] at hstep
      have hlabel' : ((R.insertStrategies call 0 (candidate :: rest)).bind fun n =>
          .ret (o, (⟨true, id, n⟩ : RefreshResult))).label? = some (.insertReview 0) := by
        rw [insertStrategies_cons (title_of_titled (htitled.trans (List.nil_append _).symm))]
        rfl
      refine hs.looks hc hlabel rfl hstep (by simp [hlabel']) rfl rfl
        (.insertReview o id report [] candidate rest hreport hcontent htitled
          fun h => absurd rfl h) hwas ?_
      rintro ⟨n, hn⟩
      rw [hlabel'] at hn
      cases hn

/-- The insertion of a review. -/
lemma Inv.step_insertReview (hs : R.Inv s) {o : Overview} {id : String} {report : BusinessReport}
    {candidates rest : List StrategyCandidate} {candidate : StrategyCandidate}
    {script : RefreshScript (Overview × RefreshResult)}
    (hscript : script = (R.insertStrategies call candidates.length (candidate :: rest)).bind
      fun n => .ret (o, ⟨true, id, n⟩))
    (hc : s.calls[i]? = some ⟨call, script, some o.content⟩)
    (hreport : R.reportsOf s.tables = [report]) (hcontent : report.contentMarkdown = o.content)
    (htitled : titled o = candidates ++ candidate :: rest)
    (hrows : candidates ≠ [] → R.reviewsOf s.tables = R.reviewRows candidates)
    (h : R.Undisturbed s i ⟨call, script, some o.content⟩ none) :
    R.Inv (stepCall s i ⟨call, script, some o.content⟩ none) := by
  rw [insertStrategies_cons (title_of_titled htitled)] at hscript
  have hlabel : script.label? = some (.insertReview candidates.length) := by
    rw [hscript]
    rfl
  have hlength : (R.reviewsOf s.tables).length = candidates.length :=
    h.review rfl _ (inserted?_of_amid hlabel)
  -- what is there was inserted by this call, which counts its insertions in `candidates`
  have hbefore : R.reviewsOf s.tables = R.reviewRows candidates := by
    by_cases hcandidates : candidates = []
    · rw [hcandidates] at hlength ⊢
      exact List.length_eq_zero_iff.1 hlength
    · exact hrows hcandidates
  let t' := s.tables.insertReview (R.newReview (call.uuid (candidates.length + 1)) candidate)
  have hafter : R.reviewsOf t' = R.reviewRows (candidates ++ [candidate]) := by
    rw [reviewsOf_insertReview, hbefore, reviewRows, reviewRows, List.map_append]
    rfl
  have hstep : script.step none s.tables =
      ((R.insertStrategies call (candidates.length + 1) rest).bind fun n =>
        .ret (o, ⟨true, id, n⟩), t') := by
    rw [hscript]
    rfl
  have hstart : R.reviewsOf s.tables = [] ∨ Amid script := by
    cases candidates with
    | nil => exact .inl hbefore
    | cons first others => exact .inr ⟨others.length, hlabel⟩
  -- another call amid its insertions would have inserted what is there
  have hothers : ∀ (j : ℕ) (c' : RefreshRun), s.calls[j]? = some c' → i ≠ j → ¬ Amid c'.rest := by
    intro j c' hc' hij hamid
    rcases hstart with hempty | hamid'
    · exact ((hs.stands c' (List.mem_of_getElem? hc')).inserted?_of_amid hamid).1 hempty
    · exact hij (hs.single i j _ c' hc hc' hamid' hamid)
  cases rest with
  | nil =>
    refine hs.returns hc (by simp [hlabel]) hstep rfl hreport hcontent hothers (.inr ?_)
      fun hempty => ?_
    · rw [hafter, htitled]
    · rw [hafter, reviewRows] at hempty
      simp at hempty
  | cons next rest =>
    have hnext : titled o = (candidates ++ [candidate]) ++ next :: rest := by simpa using htitled
    have hlabel' : ((R.insertStrategies call (candidates.length + 1) (next :: rest)).bind fun n =>
        .ret (o, (⟨true, id, n⟩ : RefreshResult))).label? =
          some (.insertReview (candidates.length + 1)) := by
      rw [insertStrategies_cons (title_of_titled hnext)]
      rfl
    have hstands : R.Stands call t' (some o.content)
        ((R.insertStrategies call (candidates ++ [candidate]).length (next :: rest)).bind fun n =>
          .ret (o, ⟨true, id, n⟩)) :=
      .insertReview o id report (candidates ++ [candidate]) next rest hreport hcontent hnext
        fun _ => hafter
    rw [List.length_append] at hstands
    have hstores : RefreshRun.stores ⟨call, script, some o.content⟩ none = none := by
      simp [RefreshRun.stores, hlabel, RefreshStatement.text?]
    exact hs.inserts hc (by simp [hlabel]) hstores hstep ⟨_, hlabel'⟩ rfl hstands hstart hothers

/-- An undisturbed statement keeps the invariant. -/
lemma Inv.stepCall (hs : R.Inv s) {failure : Option PyError} (hc : s.calls[i]? = some c)
    (h : R.Undisturbed s i c failure) : R.Inv (stepCall s i c failure) := by
  by_cases hlabel : c.rest.label? = none
  · rwa [stepCall_of_ended hlabel]
  cases failure with
  | some e =>
    -- a call that is cut off at a later insertion would leave the first ones behind
    refine hs.cut hc hlabel e ?_
    rintro ⟨n, hn⟩
    exact absurd (h.whole (by simp) _ (inserted?_of_amid hn)) (by omega)
  | none =>
    obtain ⟨call, script, text⟩ := c
    have hstands : R.Stands call s.tables text script := hs.stands _ (List.mem_of_getElem? hc)
    cases hstands with
    | ended h => exact absurd h hlabel
    | reading hreading =>
      have hstores := hreading.stores text
      have hwas := hreading.not_amid
      cases hreading with
      | look o => exact hs.step_reportPart hc
      | read _ hreports hreviews hnext =>
        refine hs.looks hc hlabel hstores rfl (hnext _).label_ne ?_ ?_ (.reading (hnext _)) hwas
          (hnext _).not_amid
        · simp only [reportsOf, hreports]
        · simp only [reviewsOf, hreviews]
    | updateReport o report hreport =>
      refine hs.stores hc hlabel rfl rfl (reportsOf_updateReport hreport o.content)
        (shows_rewritten R o.content report) (fun old hold => ?_) (h.text _ rfl) rfl
        fun ⟨n, hn⟩ => by cases hn
      rw [hreport, List.singleton_inj] at hold
      show report.id = old.id
      rw [hold]
    | insertReport o =>
      have hnone := h.report rfl rfl
      refine hs.stores hc hlabel rfl rfl ?_ (shows_newReport R call o.content)
        (fun old hold => ?_) (h.text _ rfl) rfl fun ⟨n, hn⟩ => by cases hn
      · rw [reportsOf_insertReport, hnone, List.nil_append]
      · rw [hnone] at hold
        cases hold
    | findReview o id report hreport hcontent =>
      exact hs.step_reviewPart hc hreport hcontent h
    | insertReview o id report candidates candidate rest hreport hcontent htitled hrows =>
      exact hs.step_insertReview rfl hc hreport hcontent htitled hrows h

/-! ### Runs -/

lemma inv_initial (hreports : R.reportsOf t = []) (hreviews : R.reviewsOf t = []) :
    R.Inv { tables := t } where
  stands := fun _ h => absurd h List.not_mem_nil
  single := fun i _ _ _ h => by simp at h
  report := .inl hreports
  review := .inl hreviews
  returned := fun h => absurd rfl h
  untitled := fun _ _ h => absurd h List.not_mem_nil
  content := fun _ _ h => by simp at h

/-- A new call disturbs nothing. -/
lemma Inv.start (hs : R.Inv s) (call : RefreshCall) : R.Inv (R.step s (.start call)) := by
  have hreading := reading_runPostImportRefresh R call
  have hnew : ∀ (i : ℕ) (c : RefreshRun),
      (s.calls ++ [({ call, rest := R.runPostImportRefresh call } : RefreshRun)])[i]? = some c →
      Amid c.rest → s.calls[i]? = some c := by
    intro i c hc hamid
    rw [List.getElem?_append] at hc
    split at hc
    · exact hc
    · obtain rfl : c = { call, rest := R.runPostImportRefresh call } := by
        simpa using List.mem_of_getElem? hc
      exact absurd hamid hreading.not_amid
  refine
    { stands := fun c hc => ?_
      single := fun i j c c' hc hc' hamid hamid' =>
        hs.single i j c c' (hnew i c hc hamid) (hnew j c' hc' hamid') hamid hamid'
      report := hs.report
      review := ?_
      returned := hs.returned
      untitled := fun h => hs.untitled (h.imp_right fun ⟨c, hc, hamid⟩ => ?_)
      content := hs.content }
  · rcases List.mem_append.1 hc with hc | hc
    · exact hs.stands c hc
    · rw [List.mem_singleton.1 hc]
      exact .reading hreading
  · rcases hs.review with h | ⟨c, hc, h⟩ | h
    · exact .inl h
    · exact .inr (.inl ⟨c, List.mem_append_left _ hc, h⟩)
    · exact .inr (.inr h)
  · obtain ⟨j, hj⟩ := List.mem_iff_getElem?.1 hc
    exact ⟨c, List.mem_of_getElem? (hnew j c hj hamid), hamid⟩

/-- The figures are not among what a call relies on. -/
lemma Inv.change (hs : R.Inv s) (data : ShopData) : R.Inv (R.step s (.change data)) where
  stands := fun c hc => (hs.stands c hc).frame
    (fun report h => ⟨report, h, rfl, fun _ _ => rfl⟩) fun _ => rfl
  single := hs.single
  report := hs.report
  review := hs.review
  returned := hs.returned
  untitled := hs.untitled
  content := hs.content

/-- An undisturbed step keeps the invariant. -/
lemma Inv.step (hs : R.Inv s) (a : RefreshAction) (h : R.StepsUndisturbed s a) :
    R.Inv (R.step s a) := by
  cases a with
  | start call => exact hs.start call
  | change data => exact hs.change data
  | step i failure =>
    cases hc : s.calls[i]? with
    | none => simpa only [Refresh.step, hc, Option.elim_none] using hs
    | some c =>
      simp only [Refresh.step, hc, Option.elim_some]
      exact hs.stepCall hc (h c hc)

/-- What the invariant says once a call has returned. -/
lemma Inv.refreshed (hs : R.Inv s) : R.Refreshed s := by
  intro last hlast
  have hcompleted : s.completed ≠ [] := by
    rintro h
    rw [h] at hlast
    cases hlast
  constructor
  · obtain h | ⟨content, report, hreport, hshows⟩ := hs.report
    · exact absurd h (hs.returned hcompleted)
    · refine ⟨content, report, hreport, hshows, fun hstored => ?_⟩
      rw [← hshows.content]
      exact hs.content hstored last hlast report (by simp [hreport])
  · obtain h | h | h := hs.review
    · have hmem := List.mem_of_mem_head? hlast
      exact .inl ⟨last, hmem, by rw [h, hs.untitled (.inl h) last hmem]; rfl⟩
    · have htitled := hs.untitled (.inr h)
      obtain ⟨c, hc, hamid⟩ := h
      exact .inr ⟨htitled, c, hc, ((hs.stands c hc).inserted?_of_amid hamid).2⟩
    · exact .inl h

/-- As long as no call inserts where another one has inserted in the meantime, stores another text
than those that are on their way have stored, or looks for a review while another one is inserting,
and none is cut off between its reviews, the calls for a job keep one overview report and the
reviews of one call from the first return on. -/
theorem refreshed_of_undisturbed (R : Refresh) (t : RefreshTables)
    (hreports : R.reportsOf t = []) (hreviews : R.reviewsOf t = []) (as : List RefreshAction)
    (has : Along R.step R.StepsUndisturbed { tables := t } as) (bs : List RefreshAction)
    (hbs : bs <+: as) : R.Refreshed (run R.step { tables := t } bs) := by
  obtain ⟨cs, rfl⟩ := hbs
  have hinv : R.Inv (run R.step { tables := t } bs) :=
    run_invariant (fun s a hs ha => hs.step a ha) (inv_initial hreports hreviews)
      ((along_append _ bs cs).1 has).1
  exact hinv.refreshed

instance (s : RefreshSystem) (i : ℕ) (c : RefreshRun) (failure : Option PyError) :
    Decidable (R.Undisturbed s i c failure) :=
  decidable_of_iff
    ((failure = none → c.inserting → R.reportsOf s.tables = []) ∧
      (∀ content ∈ c.stores failure, ∀ c' ∈ s.calls.eraseIdx i, ∀ text ∈ c'.pending?,
        text = content) ∧
      (failure = none → c.rest.label? = some .findReview → ∀ c' ∈ s.calls, ∀ n ∈ c'.inserted?,
        n = 0) ∧
      (failure = none → ∀ n ∈ c.inserted?, (R.reviewsOf s.tables).length = n) ∧
      (failure ≠ none → ∀ n ∈ c.inserted?, n = 0))
    ⟨fun h => ⟨h.1, h.2.1, h.2.2.1, h.2.2.2.1, h.2.2.2.2⟩,
      fun h => ⟨h.report, h.text, h.look, h.review, h.whole⟩⟩

instance (s : RefreshSystem) : (a : RefreshAction) → Decidable (R.StepsUndisturbed s a)
  | .start _ => .isTrue trivial
  | .change _ => .isTrue trivial
  | .step i failure =>
    inferInstanceAs (Decidable (∀ c ∈ s.calls[i]?, R.Undisturbed s i c failure))

/-- A shop with some orders, and nothing else. -/
def ordersOnly (orders : ℤ) : RefreshTables where
  shops := [⟨"tenant", "shop", "empty"⟩]
  data := ⟨⟨orders, 0, 0, 0, 0, 0⟩, [], [], []⟩
  businessReports := []
  strategyReviews := []

/-- The refreshes for a job of that shop, whose floats are all zero. -/
def refreshOrders : Refresh where
  tenantId := "tenant"
  shopId := "shop"
  importJobId := "job"
  float := ⟨fun _ => "0.0", fun _ => "0.00"⟩
  isDecimal := Char.isDigit

/-- A call is cut off after it has stored its report, and then retried.  While the retry returns, a
third call has just stored its text. -/
def retriedRefresh : List RefreshAction :=
  .start ⟨"amy", fun n => "a" ++ toString n⟩ :: List.replicate 7 (.step 0 none) ++
    .step 0 (some (.exception "2013: Lost connection to MySQL server during query")) ::
      .start ⟨"amy", fun n => "b" ++ toString n⟩ :: .start ⟨"ben", fun n => "c" ++ toString n⟩ ::
        (List.replicate 7 (.step 1 none) ++ List.replicate 7 (.step 2 none) ++
          List.replicate 2 (.step 1 none))

theorem refreshed_retried :
    (run refreshOrders.step { tables := ordersOnly 3 } retriedRefresh).completed.length = 1 ∧
      (∃ c ∈ (run refreshOrders.step { tables := ordersOnly 3 } retriedRefresh).calls,
        c.pending?.isSome) ∧
      refreshOrders.Refreshed
        (run refreshOrders.step { tables := ordersOnly 3 } retriedRefresh) :=
  ⟨by decide +kernel, by decide +kernel, refreshed_of_undisturbed refreshOrders (ordersOnly 3)
    (by decide) (by decide) retriedRefresh (by decide +kernel) retriedRefresh List.prefix_rfl⟩

/-- Two calls that look for the report before either inserts it. -/
def overlappingRefreshes : List RefreshAction :=
  .start ⟨"amy", fun n => "a" ++ toString n⟩ :: .start ⟨"amy", fun n => "b" ++ toString n⟩ ::
    (List.replicate 6 (.step 0 none) ++ List.replicate 8 (.step 1 none) ++
      List.replicate 2 (.step 0 none))

/-- Both calls insert a report. -/
theorem not_refreshed_overlapping :
    ¬ refreshOrders.Refreshed
      (run refreshOrders.step { tables := ordersOnly 0 } overlappingRefreshes) := by
  intro h
  have hcompleted : ((run refreshOrders.step { tables := ordersOnly 0 }
      overlappingRefreshes).completed.head?).isSome := by decide +kernel
  obtain ⟨last, hlast⟩ := Option.isSome_iff_exists.1 hcompleted
  obtain ⟨⟨_, report, hreport, _⟩, _⟩ := h last hlast
  have htwo : (refreshOrders.reportsOf (run refreshOrders.step { tables := ordersOnly 0 }
      overlappingRefreshes).tables).length = 2 := by decide +kernel
  rw [hreport, List.length_singleton] at htwo
  omega

end Refresh

end EcommerceAgent.Imports
