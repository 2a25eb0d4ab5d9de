/-
# How work is accepted

The four ways into the task queue: `POST /api/task`, `POST /api/ai-chat/messages`,
`create_agent_job` and `generate_report`.  Each writes rows, the state of the task runtime and the
queue in this order, and nothing undoes an earlier write when a later one fails.  So a call that
raises leaves nothing behind if and only if it raises before its first write (`allOrNothing_iff`).
-/
import EcommerceAgent.Runtime.AgentTask

open EcommerceAgent.Lib

namespace EcommerceAgent.Runtime

/-- The three stores. -/
structure Intake where
  world : World
  queue : List AgentPayload

/-- The statements of the accepting routes. -/
inductive IntakeStatement
  | ownership | ensureSchema | createChatRun | insertJob | insertReport | enqueueState
  | enqueuePayload | linkTask
deriving DecidableEq, Repr

/-- A piece of a route. -/
abbrev Route (α : Type) := Script IntakeStatement Intake PyError α

/-- A statement of the database. -/
def store (statement : IntakeStatement) (f : Records → Records) : Route Unit :=
  .query statement (fun s => { s with world := { s.world with records := f s.world.records } })
    (fun _ => .ret ()) .raise

/-- `task_runtime.enqueue`. -/
def enqueueState (query : String) (p : AgentPayload) : Route Unit :=
  .act .enqueueState
    (fun s =>
      match s.world.runtime.enqueue p.taskId query ⟨p.conversationId, p.identity⟩ with
      | .ok rt => { s with world := { s.world with runtime := rt } }
      | .error _ => s)
    fun s =>
      match s.world.runtime.enqueue p.taskId query ⟨p.conversationId, p.identity⟩ with
      | .ok _ => .ret ()
      | .error e => .raise (.exception e)

/-- `task_queue.enqueue`; only the redis and nats backends can refuse. -/
def enqueuePayload (p : AgentPayload) : Route Unit :=
  .query .enqueuePayload (fun s => { s with queue := s.queue ++ [p] }) (fun _ => .ret ()) .raise

/-! ### The routes -/

/-- The payload of `run_task`, which has neither a message nor an intent. -/
def TaskRequest.agentPayload (request : TaskRequest) (identity : Identity) (cu tu : Uuid) :
    AgentPayload :=
  { request.payload identity cu tu with
    messageId := ""
    intent := "" }

/-- `POST /api/task`; the answer is the task id. -/
def runTask (identity : Identity) (request : TaskRequest) (cu tu : Uuid) : Route String := do
  let p := request.agentPayload identity cu tu
  (.act .ownership id fun s =>
    if s.world.runtime.conversationExists p.conversationId &&
        !s.world.runtime.ownsConversation p.conversationId identity then
      .raise (.exception "403: 无权复用该会?")
    else .ret () : Route Unit)
  enqueueState request.query p
  enqueuePayload p
  return p.taskId

/-- The payload of `chat`. -/
def ChatOrder.agentPayload (order : ChatOrder) : AgentPayload where
  query := buildAgentChatQuery order.userContent
  conversationId := order.conversationId
  taskId := order.taskId
  identity := order.identity
  aiChat := true
  messageId := order.ids.assistantMessageId
  intent := order.intent

/-- `POST /api/ai-chat/messages` at the time `now`, with the content stripped and the ids and the
intent chosen. -/
def chat (order : ChatOrder) (now : ℕ) : Route String := do
  if order.userContent = "" then
    throw (.exception "400: 请输入要分析的问?")
  else
    store .ensureSchema id
    store .createChatRun (·.createChatRun order now)
    enqueueState order.userContent order.agentPayload
    enqueuePayload order.agentPayload
    return order.taskId

/-- `AGENT_JOB_TEMPLATES`. -/
def agentJobTemplates : List ((String × String) × String) :=
  [(("store-analyst", "daily_report"),
      "请基于当前店铺昨日经营数据生成经营日报，包含 GMV、订单、转化率、客单价、退款率、异常波动和可执行建议。"),
    (("store-analyst", "anomaly_scan"),
      "请分析当前店铺近期经营异常，识别 GMV、订单、转化和退款波动，并输出可执行动作。"),
    (("product-assistant", "product_optimization"),
      "请分析当前店铺商品表现，识别爆品、潜力品和滞销品，并输出标题、价格、主图和库存优化方案。"),
    (("product-assistant", "hot_product_analysis"),
      "请基于当前店铺商品成交、流量、转化、库存和活动数据，识别最值得放量的爆品候选，并输出放量策略。"),
    (("inventory-inspector", "inventory_risk_scan"),
      "请巡检当前店铺库存风险，识别库存不足、滞销、周转过慢和活动备货不足 SKU，并输出补货建议。"),
    (("inventory-inspector", "replenishment_plan"),
      "请基于当前店铺库存、安全库存、近 7 天销量和活动承接需求，生成补货计划和优先级。"),
    (("campaign-reviewer", "campaign_review"),
      "请复盘当前店铺最近活动，分析 ROI、GMV、转化变化、投放效果和下次活动建议。"),
    (("report-specialist", "weekly_report"),
      "请汇总当前店铺本周经营、商品、库存、活动和策略审核信息，生成管理层周报。"),
    (("report-specialist", "monthly_report"),
      "请汇总当前店铺本月经营、商品、库存、活动和策略审核信息，生成管理层月报。")]

/-- `build_agent_query`; `params` is the text of a dictionary that is not empty. -/
def buildAgentQuery (agentId : String) (jobType params : Option String) : Option String :=
  match jobType with
  | none => none
  | some jobType =>
    match agentJobTemplates.lookup (agentId, jobType), params with
    | none, _ => none
    | some template, none => some template
    | some template, some params => some (template ++ "\n任务参数：" ++ params)

/-- The names of `AGENT_DEFINITIONS`. -/
def agentNames : List (String × String) :=
  [("store-analyst", "店铺经营分析员"), ("product-assistant", "商品运营助理"),
    ("inventory-inspector", "库存风险巡检员"), ("campaign-reviewer", "活动复盘专员"),
    ("report-specialist", "知识与报告专员")]

/-- `agent_name`. -/
def agentName (agentId : String) : String := (agentNames.lookup agentId).getD agentId

/-- What `create_agent_job` is called with, the ids it draws, and the primary type of the plan that
is made for the job. -/
structure JobOrder where
  identity : Identity
  agentId : String
  jobType : Option String
  title : Option String
  params : Option String
  paramsJson : String
  resultReportId : Option String
  intent : String
  conversationId : String
  taskId : String
  jobId : String
deriving DecidableEq, Repr

namespace JobOrder

variable (order : JobOrder)

/-- `build_agent_query(agent_id, job_type, params)`. -/
def query : Option String := buildAgentQuery order.agentId order.jobType order.params

/-- The inserted row. -/
def row : AgentJob where
  id := order.jobId
  tenantId := order.identity.tenantId
  shopId := order.identity.shopId
  agentId := order.agentId
  agentName := agentName order.agentId
  jobType := order.jobType.getD ""
  title := orElse order.title (orElse order.jobType "数字员工任务")
  status := .running
  taskId := some order.taskId
  conversationId := some order.conversationId
  paramsJson := some order.paramsJson
  resultReportId := order.resultReportId
  createdBy := order.identity.userId

/-- The queued payload. -/
def agentPayload (query : String) : AgentPayload where
  query := query
  conversationId := order.conversationId
  taskId := order.taskId
  identity := order.identity
  aiChat := false
  messageId := ""
  intent := order.intent

end JobOrder

/-- `create_agent_job`. -/
def createAgentJob (order : JobOrder) : Route String := do
  store .ensureSchema id
  match order.query with
  | none => throw (.exception "无法创建数字员工任务：不支持的数字员工任务类型")
  | some query =>
    store .insertJob fun r => { r with agentJobs := r.agentJobs ++ [order.row] }
    enqueueState query (order.agentPayload query)
    enqueuePayload (order.agentPayload query)
    return order.taskId

/-- `_report_job_type`. -/
def reportJobType (reportType : String) : String :=
  (([("daily", "daily_report"), ("weekly", "weekly_report"), ("monthly", "monthly_report"),
    ("inventory", "inventory_risk_scan"), ("campaign", "campaign_review"),
    ("product", "product_optimization")] : List (String × String)).lookup reportType).getD
      "daily_report"

/-- What `generate_report` is called with, and the id it draws.  `paramsText` and `paramsJson` are
the two texts of the dictionary with the report's id. -/
structure ReportOrder where
  identity : Identity
  type : Option String
  title : Option String
  agentId : Option String
  reportId : String
  paramsText : String
  paramsJson : String
  intent : String
  conversationId : String
  taskId : String
  jobId : String
deriving DecidableEq, Repr

namespace ReportOrder

variable (order : ReportOrder)

/-- `payload.get("type") or "daily"`. -/
def reportType : String := orElse order.type "daily"

/-- The draft. -/
def draft : BusinessReport where
  id := order.reportId
  tenantId := order.identity.tenantId
  shopId := order.identity.shopId
  type := order.reportType
  title := orElse order.title "经营报告"
  summary := "报告生成中，数字员工正在处理数据。"
  contentMarkdown := "报告生成中，数字员工正在处理数据。"
  structuredJson := none
  status := .draft
  sourceTaskId := none
  createdBy := order.identity.userId

/-- The job that writes the report. -/
def job : JobOrder where
  identity := order.identity
  agentId := orElse order.agentId "store-analyst"
  jobType := some (reportJobType order.reportType)
  title := some (orElse order.title "经营报告")
  params := some order.paramsText
  paramsJson := order.paramsJson
  resultReportId := some order.reportId
  intent := order.intent
  conversationId := order.conversationId
  taskId := order.taskId
  jobId := order.jobId

end ReportOrder

/-- `generate_report`. -/
def generateReport (order : ReportOrder) : Route String := do
  store .insertReport fun r => { r with businessReports := r.businessReports ++ [order.draft] }
  let taskId ← createAgentJob order.job
  store .linkTask (·.updateReport order.identity order.reportId fun row =>
    { row with sourceTaskId := some taskId })
  return taskId

end EcommerceAgent.Runtime
