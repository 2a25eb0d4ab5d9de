/-
# The planner

`PlannerAgent` of `agent/plan/planner.py`.  `plan` is the deterministic planner; `plan_async` takes
the plan that a model wrote and repairs it (`_sanitize_plan`), and falls back to `plan` if anything
raises on the way.
-/
import EcommerceAgent.Planning.Models
import EcommerceAgent.Planning.Capabilities

open EcommerceAgent.Lib EcommerceAgent.Runtime

namespace EcommerceAgent.Planning

variable (F : Type) [PyRuntime F]

/-! ### Texts of a query -/

/-- The number of days that `(?:最近|近|last)(\d+)(?:天|d|day|days)?` finds. -/
def searchDays : List Char → Option (List Char)
  | [] => none
  | c :: cs =>
    let days := (["最近", "近", "last"].findSome? fun word =>
      (word.toList.isPrefixOf? (c :: cs)).map (·.takeWhile (PyRuntime.isDecimal F))).getD []
    if days ≠ [] then some days else searchDays cs

variable {F} in
/-- The hint of `_extract_constraints`. -/
def scopeHint (range : String) : PyValue F :=
  .str ("用户提到" ++ range ++ "，业务 Agent 应在自己的工具参数中体现该范围。")

/-- `_extract_constraints`. -/
def extractConstraints (query : String) : PyDict F :=
  let constraints : PyDict F :=
    if hasAny query ["今天", "今日", "today"] then PyDict.empty.set "scope_hint" (scopeHint "今天")
    else if hasAny query ["昨天", "昨日", "yesterday"] then
      PyDict.empty.set "scope_hint" (scopeHint "昨天")
    else if hasAny query ["本周", "周报"] then PyDict.empty.set "scope_hint" (scopeHint "本周")
    else if hasAny query ["这个月", "本月", "月报"] then
      PyDict.empty.set "scope_hint" (scopeHint "本月")
    else PyDict.empty
  let constraints := match searchDays F (PyRuntime.lower F query).toList with
    | some days => constraints.set "scope_hint" (scopeHint ("最近 " ++ String.ofList days ++ " 天"))
    | none => constraints
  if hasAny query ["表格", "excel", "csv"] then constraints.set "format" (.str "table")
  else constraints

/-- `_extract_output_format`. -/
def extractOutputFormat (query : String) : String :=
  if hasAny query ["表格", "excel", "csv"] then "table_markdown" else "markdown"

/-- `_is_out_of_scope`. -/
def isOutOfScope (normalized : String) : Bool :=
  hasAny normalized ["天气", "气温", "下雨", "空气质量", "股票", "新闻", "电影"]

/-- The class `[a-z0-9]`. -/
def isAsciiToken (c : Char) : Bool := c.isLower || c.isDigit

/-- An identifier of a campaign follows one of the two words. -/
def identifierAt (text : List Char) : Bool :=
  ((["618", "双十一"] : List String).any fun word => word.toList.isPrefixOf text) ||
    ("campaign".toList.isPrefixOf? text).any (fun rest =>
      rest.head?.any isAsciiToken ||
        (rest.head?.any (fun c => c == '_' || c == '-') && rest.tail.head?.any isAsciiToken)) ||
    ("活动".toList.isPrefixOf? text).any fun rest =>
      let isIdChar := fun c => isAsciiToken c || c == '_' || c == '-'
      rest.head?.any isIdChar ||
        ("ID".toList.isPrefixOf? rest).any fun rest => rest.head?.any isIdChar

/-- `_needs_campaign_clarification`. -/
def needsCampaignClarification (normalized : String) (found : List CapabilityMatch) : Bool :=
  let hasCampaign := found.any (·.capability.capabilityId == "campaign_review")
  let endings : List String :=
    ["那个", "这个", "本次", "这次"].flatMap fun which =>
      ["怎么样", "看看", "分析一下", ""].map fun ending => which ++ "活动" ++ ending
  let vague :=
    hasAny normalized ["那个活动", "这个活动", "本次活动", "这次活动", "活动看看", "分析一下活动",
      "活动怎么样", "这个活动怎么样", "那个活动怎么样"] ||
    (endings ++ ["分析一下活动", "看看活动"]).any fun ending =>
      ending.toList.isSuffixOf normalized.toList
  let hasIdentifier := normalized.toList.tails.any identifierAt
  hasCampaign && vague && !hasIdentifier

/-- `_plan_id`. -/
def makePlanId (query : String) (profile : Profile) : String :=
  "plan_" ++ String.ofList ((PyRuntime.sha256 F (profile.name ++ ":" ++ query)).toList.take 12)

/-! ### Assignments -/

/-- `_assignment_scope`. -/
def makeScope (agentId : String) : String :=
  (([("product_analysis", "商品表现、商品候选、低转化和商品优化"),
    ("inventory", "库存承接、缺货、滞销和补货风险"), ("campaign", "活动投放、ROI、流量承接和投放风险"),
    ("report", "经营报告汇总和管理层摘要"), ("data_quality", "数据导入、授权、同步和 schema 健康"),
    ("knowledge_base", "历史记忆、历史报告和策略候选"), ("network_search", "外部趋势和竞品上下文"),
    ("database_query", "受控只读数据库事实查询")] : List (String × String)).lookup agentId).getD agentId

/-- `_assignment_objective`. -/
def makeObjective (capability : Capability) : String :=
  (([("product_analysis", "产出商品候选和商品风险"), ("inventory", "判断候选商品是否具备库存承接能力"),
    ("campaign", "判断是否适合继续投放或调整预算"), ("report", "形成可直接进入最终答案的经营汇总"),
    ("data_quality", "判断数据是否足以支撑后续经营分析"),
    ("database_query", "提供下游分析可引用的结构化事实基础")] : List (String × String)).lookup
      capability.targetAgentId).getD capability.outputRequirement

/-- `_expected_contribution`. -/
def makeContribution (capability : Capability) : String :=
  (([("product_analysis", "给库存和活动分析提供商品候选、商品表现摘要和商品层面证据"),
    ("inventory", "输出库存风险、补货建议和承接限制"),
    ("campaign", "输出活动投放建议、ROI 风险和预算调整依据"),
    ("report", "汇总多个领域 Agent 的结论并输出报告结构"),
    ("data_quality", "输出数据可用性、缺失环节和修复优先级"),
    ("database_query", "输出可被其他 Agent 引用的事实数据")] : List (String × String)).lookup
      capability.targetAgentId).getD capability.outputRequirement

variable {F}

/-- `_assignment_task`. -/
def makeTask (capability : Capability) (query : String) (constraints : PyDict F) : String :=
  let hint := ((constraints.get "scope_hint").or (.str "用户问题中的业务范围")).text
  let original := "原始问题：" ++ query
  match capability.targetAgentId with
  | "product_analysis" =>
    "围绕" ++ hint ++ "分析商品表现，识别热销、低转化和可优化商品，输出商品层面的证据、风险和建议。" ++
      original
  | "inventory" =>
    "结合用户问题和可用上游商品候选，分析库存承接、缺货、滞销和补货风险，输出库存风险和补货建议。" ++ original
  | "campaign" =>
    "结合商品表现和库存承接情况，评估活动投放 ROI、流量承接和投放风险，输出投放建议和风险。" ++ original
  | "report" =>
    "围绕" ++ hint ++ "汇总经营指标、风险、重点商品和运营动作，形成面向最终回答的经营报告。" ++ original
  | "data_quality" =>
    "检查数据导入、同步、授权和数据新鲜度是否支撑后续经营分析，输出数据质量风险和修复动作。" ++ original
  | "database_query" =>
    "在租户和店铺范围内提供只读事实查询基础，输出可供下游业务 Agent 使用的结构化事实。" ++ original
  | _ => "围绕自身业务范围完成该子任务，输出可被最终回答引用的证据、风险和建议。" ++ original

/-- `_assignment_for_capability`. -/
def assignmentForCapability (query : String) (context constraints : PyDict F)
    (index : ℕ) (capability : Capability) : AgentAssignment F where
  assignmentId := "a" ++ toString index ++ "_" ++ capability.targetAgentId
  agentId := capability.targetAgentId
  task := makeTask capability query constraints
  intent := capability.intent
  originalQuery := query
  assignmentScope := makeScope capability.targetAgentId
  objective := makeObjective capability
  expectedContribution := makeContribution capability
  upstreamRequirements := []
  priority := index
  reason := "capability_match:" ++ capability.capabilityId
  inputContext := context
  constraints := constraints
  requiredOutput := capability.outputRequirement
  dependsOn := []

/-- `_capability_for_assignment`. -/
def capabilityForAssignment (a : AgentAssignment F) : Option Capability :=
  (capabilities.find? fun c => c.targetAgentId == a.agentId && c.intent == a.intent).or
    (capabilities.find? (·.targetAgentId == a.agentId))

/-- `x or default` for texts. -/
def orText (s default : String) : String := if s = "" then default else s

/-- The assignment whose dictionary `_enrich_assignment` has completed. -/
def enriched (query : String) (a : AgentAssignment F) : AgentAssignment F :=
  let capability := capabilityForAssignment a
  { a with
    task :=
      if a.task = "" ∨ a.task = query then
        match capability with
        | some c => makeTask c query (extractConstraints F query)
        | none => "围绕自身业务范围完成该子任务，输出证据、风险和建议。原始问题：" ++ query
      else a.task
    originalQuery := orText a.originalQuery query
    assignmentScope := orText a.assignmentScope (makeScope a.agentId)
    objective := orText a.objective (capability.elim a.requiredOutput makeObjective)
    expectedContribution :=
      orText a.expectedContribution (capability.elim a.requiredOutput makeContribution)
    constraints := a.constraints.without ["time_range", "limit", "category"] }

/-- `_enrich_assignment`. -/
def enrichAssignment (query : String) (a : AgentAssignment F) :
    Except String (AgentAssignment F) :=
  AgentAssignment.fromDict (PyValue.entriesOf (enriched query a).fields)

/-! ### Dependencies -/

variable (F) in
/-- `_asks_for_independent_views`. -/
def asksForIndependentViews (query : String) : Bool :=
  hasAny (normalize F query) ["分别", "各自", "独立", "分别看", "separately", "independently"]

/-- `_dedupe_dependencies`. -/
def dedupeDependencies (dependencies : List AgentDependency) : List AgentDependency :=
  dependencies.eraseDups

/-- The id of the first assignment of an agent, or the empty text. -/
def firstOf (assignments : List (AgentAssignment F)) (agentId : String) : String :=
  ((assignments.find? (·.agentId == agentId)).map (·.assignmentId)).getD ""

/-- An edge for every assignment of some kind, if there is a source. -/
def edgesFrom (source : String) (assignments : List (AgentAssignment F))
    (toward : AgentAssignment F → Bool) (type : String) : List AgentDependency :=
  if source = "" then []
  else (assignments.filter toward).map fun a => ⟨source, a.assignmentId, type⟩

/-- `_assignment_dependencies`. -/
def assignmentDependencies (assignments : List (AgentAssignment F)) (query : String) :
    List AgentDependency :=
  if asksForIndependentViews F query then []
  else
    let product := firstOf assignments "product_analysis"
    let inventory := firstOf assignments "inventory"
    let upstreams := [firstOf assignments "data_quality", firstOf assignments "database_query"]
    let report := firstOf assignments "report"
    dedupeDependencies
      (edgesFrom product assignments (fun a => a.agentId == "inventory" || a.agentId == "campaign")
          "blocking_data_dependency" ++
        edgesFrom inventory assignments (·.agentId == "campaign") "optional_context" ++
        upstreams.flatMap (fun upstream => edgesFrom upstream assignments
          (·.assignmentId != upstream) "blocking_data_dependency") ++
        if assignments.any (·.agentId == "report") ∧ 1 < assignments.length then
          (assignments.filter (·.assignmentId != report)).map fun a =>
            ⟨a.assignmentId, report, "optional_context"⟩
        else [])

/-- The sources of the edges into an assignment that are not conflict checks. -/
def sources (dependencies : List AgentDependency) (target : String) : List String :=
  (dependencies.filter fun d => d.type != "conflict_check" && d.toAssignment == target).map
    (·.fromAssignment)

/-- `requirements`. -/
def requirements (dependencies : List AgentDependency) (target : String) : List String :=
  (dependencies.filter fun d => d.type != "conflict_check" && d.toAssignment == target).map
    fun d => d.type ++ ":" ++ d.fromAssignment

/-- The assignment with the edges into it. -/
def synced (dependencies : List AgentDependency) (a : AgentAssignment F) : AgentAssignment F :=
  { a with
    dependsOn := (a.dependsOn ++ sources dependencies a.assignmentId).eraseDups
    upstreamRequirements :=
      (a.upstreamRequirements ++ requirements dependencies a.assignmentId).eraseDups }

/-- The loop body of `_sync_assignment_dependencies`. -/
def syncAssignment (dependencies : List AgentDependency) (a : AgentAssignment F) :
    Except String (AgentAssignment F) :=
  AgentAssignment.fromDict (PyValue.entriesOf (synced dependencies a).fields)

/-- `_sync_assignment_dependencies`. -/
def syncAssignmentDependencies (assignments : List (AgentAssignment F))
    (dependencies : List AgentDependency) : Except String (List (AgentAssignment F)) :=
  assignments.mapM (syncAssignment dependencies)

/-- `allowed_types`. -/
def allowedTypes : List String :=
  ["blocking_data_dependency", "optional_context", "ordering_only", "conflict_check"]

/-- `_sanitize_dependencies`. -/
def sanitizeDependencies (dependencies : List AgentDependency)
    (assignments : List (AgentAssignment F)) : List AgentDependency :=
  let assignmentIds := assignments.map (·.assignmentId)
  dedupeDependencies (dependencies.filter fun d =>
    assignmentIds.contains d.fromAssignment && assignmentIds.contains d.toAssignment &&
      d.fromAssignment != d.toAssignment && allowedTypes.contains d.type)

/-! ### Plans -/

/-- `_merge_strategy`. -/
def makeMergeStrategy (assignments : List (AgentAssignment F)) : String :=
  let runs := fun agentId => assignments.any (·.agentId == agentId)
  if runs "product_analysis" && runs "inventory" && runs "campaign" then "business_recommendation"
  else if runs "report" then "report_summary"
  else if assignments.length = 1 then "single_agent_summary"
  else "multi_agent_summary"

/-- `_primary_intent_from_assignments`. -/
def primaryIntentFromAssignments (assignments : List (AgentAssignment F)) : String :=
  match AgentTaskPlan.sortByPriority assignments with
  | a :: _ => a.intent
  | [] => "general_business_chat"

/-- `_boundary_plan`. -/
def boundaryPlan (query : String) (profile : Profile) (reason : String) : AgentTaskPlan F where
  planId := makePlanId F query profile
  rawQuery := query
  primaryIntent := "boundary"
  profile := profile.name
  assignments := []
  dependencies := []
  mergeStrategy := "business_recommendation"
  requiresClarification := false
  clarificationQuestions := []
  boundary := true
  boundaryReason := reason
  confidence := PyRuntime.hundredths 90
  expectedOutput := "返回能力边界说明和可继续的电商经营问题入口。"
  metadata := .ofEntries (PyValue.entriesOf
    [("normalized_query", .str (normalize F query)), ("fallback_reason", .str reason),
      ("risk_level", .str "low"), ("business_domain", .str "outside_ecommerce_operations")])

/-- `_clarification_plan`. -/
def clarificationPlan (query : String) (profile : Profile) (question : String) :
    AgentTaskPlan F where
  planId := makePlanId F query profile
  rawQuery := query
  primaryIntent := "campaign_review"
  profile := profile.name
  assignments := []
  dependencies := []
  mergeStrategy := "business_recommendation"
  requiresClarification := true
  clarificationQuestions := [question]
  boundary := false
  boundaryReason := ""
  confidence := PyRuntime.hundredths 80
  expectedOutput := "先向用户澄清活动范围。"
  metadata := .ofEntries (PyValue.entriesOf
    [("normalized_query", .str (normalize F query)),
      ("constraints", (extractConstraints F query).value), ("risk_level", .str "medium"),
      ("missing_context", textValues ["campaign_id_or_name"]),
      ("fallback_reason", .str "missing_campaign_context"), ("intent", .str "campaign_review")])

/-- `_realtime_chat_plan`. -/
def realtimeChatPlan (query : String) (profile : Profile) (fallbackReason : String) :
    AgentTaskPlan F where
  planId := makePlanId F query profile
  rawQuery := query
  primaryIntent := "realtime_chat"
  profile := profile.name
  assignments := []
  dependencies := []
  mergeStrategy := "direct_chat"
  requiresClarification := false
  clarificationQuestions := []
  boundary := false
  boundaryReason := ""
  confidence := PyRuntime.hundredths 86
  expectedOutput :=
    "直接回答普通聊天或轻量说明，不调用业务工具、数据库、文件系统、记忆写入或 subagent。"
  metadata := .ofEntries (PyValue.entriesOf
    [("normalized_query", .str (normalize F query)), ("fallback_reason", .str fallbackReason),
      ("risk_level", .str "low"), ("chat_path", .str "realtime")])

/-- The assignments of the selected capabilities, numbered from one. -/
def assignmentsFor (selected : List Capability) (query : String) (context constraints : PyDict F) :
    List (AgentAssignment F) :=
  (selected.zipIdx 1).map fun e => assignmentForCapability query context constraints e.2 e.1

/-- `separator.join(texts)`. -/
def joinTexts (separator : String) (texts : List String) : String :=
  String.ofList (separator.toList.intercalate (texts.map String.toList))

/-- The plan at the end of `_fallback_plan`. -/
def selectedPlan (selected : List Capability) (query : String) (profile : Profile)
    (fallbackReason : String) (assignments : List (AgentAssignment F))
    (dependencies : List AgentDependency) : AgentTaskPlan F where
  planId := makePlanId F query profile
  rawQuery := query
  primaryIntent := (selected.head?.map (·.intent)).getD "general_business_chat"
  profile := profile.name
  assignments := assignments
  dependencies := dependencies
  mergeStrategy := makeMergeStrategy assignments
  requiresClarification := false
  clarificationQuestions := []
  boundary := false
  boundaryReason := ""
  confidence := PyRuntime.hundredths (if fallbackReason = "rule_based_agent_fallback" then 72
    else 62)
  expectedOutput := joinTexts "；" (selected.map (·.outputRequirement)).eraseDups
  metadata :=
    let risky := selected.any fun c =>
      ["campaign_review", "inventory_analysis", "replenishment_plan"].contains c.intent
    .ofEntries (PyValue.entriesOf
      [("normalized_query", .str (normalize F query)),
        ("constraints", (extractConstraints F query).value),
        ("output_format", .str (extractOutputFormat query)),
        ("fallback_reason", .str fallbackReason),
        ("risk_level", .str (if risky then "medium" else "low"))])

/-- The end of `_fallback_plan`, for selected capabilities. -/
def capabilityPlan (selected : List Capability) (query : String) (profile : Profile)
    (context : PyDict F) (fallbackReason : String) : Except String (AgentTaskPlan F) := do
  let selected := dedupeCapabilitiesByAgent selected
  let assignments := assignmentsFor selected query context (extractConstraints F query)
  let dependencies := assignmentDependencies assignments query
  let assignments ← syncAssignmentDependencies assignments dependencies
  return selectedPlan selected query profile fallbackReason assignments dependencies

variable (F) in
/-- The capabilities that match a query, or else the daily report, as far as the profile supports
them. -/
def CapabilityRegistry.usableCapabilities (registry : CapabilityRegistry) (query : String)
    (profile : Profile) : List Capability :=
  let found := selectCapabilities F (registry.matchQuery F query) query
  let selected :=
    if found = [] then ((registry.get "daily_report").or registry.capabilities.head?).toList
    else found
  if profile = .realtime then selected.filter (·.supportedProfiles.contains .realtime)
  else selected

/-- `_fallback_plan` of a planner with the registry, for a query that UTF-8 can encode. -/
def CapabilityRegistry.fallbackPlan (registry : CapabilityRegistry) (query : String)
    (profile : Profile) (context : PyDict F) (fallbackReason : String) :
    Except String (AgentTaskPlan F) :=
  if isOutOfScope (normalize F query) then .ok (boundaryPlan query profile "out_of_scope")
  else if needsCampaignClarification (normalize F query) (registry.matchQuery F query) then
    .ok (clarificationPlan query profile
      "请告诉我要分析哪个活动，例如活动名称、活动 ID，或说明要复盘最近一次/本月活动。")
  else if selectCapabilities F (registry.matchQuery F query) query = [] ∧ profile = .realtime then
    .ok (realtimeChatPlan query profile fallbackReason)
  else if registry.usableCapabilities F query profile = [] then
    .ok (boundaryPlan query profile "realtime_profile_not_supported")
  else
    capabilityPlan (registry.usableCapabilities F query profile) query profile context
      fallbackReason

variable (F) in
/-- What the default registry offers for a query. -/
def usableCapabilities (query : String) (profile : Profile) : List Capability :=
  defaultRegistry.usableCapabilities F query profile

/-- `_fallback_plan` of a planner with the default registry. -/
def fallbackPlan (query : String) (profile : Profile) (context : PyDict F)
    (fallbackReason : String) : Except String (AgentTaskPlan F) :=
  defaultRegistry.fallbackPlan query profile context fallbackReason

/-- `PlannerAgent.plan`, with the profile normalised. -/
def plan (query : String) (profile : Profile) (context : PyDict F) (fallbackReason : String) :
    Except String (AgentTaskPlan F) := fallbackPlan query profile context fallbackReason

/-- The agents that `_sanitize_plan` refuses in the realtime profile. -/
def realtimeRefused : List String :=
  ["network_search", "database_query", "data_quality", "knowledge_base"]

/-- `known_agents`. -/
def knownAgents : List String :=
  ["product_analysis", "inventory", "campaign", "report", "data_quality", "knowledge_base",
    "network_search", "database_query"]

/-- `_sanitize_plan`. -/
def sanitizePlan (p : AgentTaskPlan F) (query : String) (profile : Profile)
    (fallbackReason : String) : Except String (AgentTaskPlan F) := do
  if profile = .realtime ∧ p.assignments.any (fun a => realtimeRefused.contains a.agentId) then
    return boundaryPlan query profile "realtime_profile_not_supported"
  if p.assignments.any fun a => !knownAgents.contains a.agentId then
    return ← fallbackPlan query profile .empty "invalid_execution_mode"
  if p.assignments = [] ∧ ¬p.boundary ∧ ¬p.requiresClarification then
    return ← fallbackPlan query profile .empty "model_plan_without_executable_steps"
  let enriched ← p.assignments.mapM (enrichAssignment query)
  let dependencies := sanitizeDependencies p.dependencies enriched
  let assignments ← syncAssignmentDependencies enriched dependencies
  let sanitized := { p with
    planId := orText p.planId (makePlanId F query profile)
    rawQuery := query
    primaryIntent := orText p.primaryIntent (primaryIntentFromAssignments p.assignments)
    profile := profile.name
    assignments := assignments
    dependencies := dependencies
    metadata := p.metadata.set "fallback_reason" (.str fallbackReason) }
  AgentTaskPlan.fromDict (PyValue.entriesOf (sanitized.fieldsOf p))

/-- `PlannerAgent.plan_async`, with the profile normalised.  The answer is the JSON object in the
text of the model, or the message of what was raised before there was one. -/
def planAsync (query : String) (profile : Profile) (context : PyDict F)
    (answer : Except String (Entries F)) : Except String (AgentTaskPlan F) :=
  match (do
    let p ← AgentTaskPlan.fromDict (← answer)
    sanitizePlan p query profile p.fallbackReason) with
  | .ok p => .ok p
  | .error e =>
    plan query profile context ("planner_model_failed:" ++ String.ofList (e.toList.take 120))

/-! ### What the planner returns -/

lemma enrichAssignment_ok {a : AgentAssignment F} (h : a.Decoded) (query : String) :
    enrichAssignment query a = .ok (enriched query a).settle :=
  AgentAssignment.fromDict_fields ⟨h.1, h.2, h.3, h.4⟩

lemma syncAssignmentDependencies_ok {assignments : List (AgentAssignment F)}
    (h : ∀ a ∈ assignments, a.Decoded) (dependencies : List AgentDependency) :
    syncAssignmentDependencies assignments dependencies =
      .ok (assignments.map fun a => (synced dependencies a).settle) :=
  mapM_ok fun a ha => AgentAssignment.fromDict_fields
    ⟨(h a ha).1, (h a ha).2, (h a ha).3, (h a ha).4⟩

lemma mem_assignmentsFor {selected : List Capability} {query : String}
    {context constraints : PyDict F} {a : AgentAssignment F}
    (h : a ∈ assignmentsFor selected query context constraints) :
    ∃ c ∈ selected, ∃ index, 1 ≤ index ∧
      a = assignmentForCapability query context constraints index c := by
  obtain ⟨⟨c, index⟩, hmem, rfl⟩ := List.mem_map.1 h
  obtain ⟨hindex, -, hc⟩ := List.mem_zipIdx hmem
  exact ⟨c, hc ▸ List.getElem_mem _, index, hindex, rfl⟩

/-- The texts of the capabilities are not empty. -/
lemma capability_ne {c : Capability} (h : c ∈ capabilities) :
    c.intent ≠ "" ∧ c.outputRequirement ≠ "" := by
  revert c
  decide +kernel

lemma append_ne_left {s t : String} (h : s ≠ "") : s ++ t ≠ "" := by
  intro hempty
  refine h (String.toList_inj.1 ?_)
  have hnil := congrArg String.toList hempty
  rw [String.toList_append, String.toList_empty, List.append_eq_nil_iff] at hnil
  rw [hnil.1, String.toList_empty]

lemma decoded_assignmentForCapability {c : Capability} (hc : c ∈ capabilities) (query : String)
    (context constraints : PyDict F) (index : ℕ) :
    (assignmentForCapability query context constraints index c).Decoded where
  assignmentId := append_ne_left (append_ne_left (append_ne_left (by decide)))
  intent := (capability_ne hc).1
  reason := append_ne_left (by decide)
  requiredOutput := (capability_ne hc).2

lemma plain_extractConstraints (query : String) : (extractConstraints F query).Plain := by
  have hset : ∀ (d : PyDict F) (name : String) (v : PyValue F), d.Plain → v.Loaded →
      (d.set name v).Plain := fun d name v hd hv => hd.set name hv
  have hhint : ∀ range : String,
      (PyDict.empty.set "scope_hint" (scopeHint range) : PyDict F).Plain :=
    fun range => PyDict.plain_empty.set _ (PyValue.loaded_str _)
  have hrange : ∀ d : PyDict F, d.Plain → (match searchDays F (PyRuntime.lower F query).toList with
      | some days => d.set "scope_hint" (scopeHint ("最近 " ++ String.ofList days ++ " 天"))
      | none => d).Plain := by
    intro d hd
    cases searchDays F (PyRuntime.lower F query).toList with
    | none => exact hd
    | some days => exact hd.set _ (PyValue.loaded_str _)
  have hformat : ∀ d : PyDict F, d.Plain → (if hasAny query ["表格", "excel", "csv"] then
      d.set "format" (.str "table") else d).Plain := by
    intro d hd
    split_ifs
    · exact hd.set _ (PyValue.loaded_str _)
    · exact hd
  refine hformat _ (hrange _ ?_)
  split_ifs
  · exact hhint _
  · exact hhint _
  · exact hhint _
  · exact hhint _
  · exact PyDict.plain_empty

/-- A plan without assignments needs names only. -/
lemma settled_of_isEmpty {p : AgentTaskPlan F} (hassignments : p.assignments = [])
    (hdependencies : p.dependencies = []) (hprofile : p.profile ≠ "")
    (hnames : p.mergeStrategy ≠ "" ∧ p.expectedOutput ≠ "" ∧ p.primaryIntent ≠ "")
    (hconfidence : ∃ n, 0 < n ∧ p.confidence = PyRuntime.hundredths n)
    (hmetadata : p.metadata.Loaded) : p.Settled where
  profile := hprofile
  mergeStrategy := hnames.1
  expectedOutput := hnames.2.1
  assignments a ha := absurd (hassignments ▸ ha) List.not_mem_nil
  dependencies d hd := absurd (hdependencies ▸ hd) List.not_mem_nil
  primaryIntent := hnames.2.2
  priority a ha := absurd (hassignments ▸ ha) List.not_mem_nil
  confidence := by
    obtain ⟨n, hn, h⟩ := hconfidence
    exact h ▸ PyRuntime.hundredths_ne n hn
  metadata := hmetadata

lemma settled_boundaryPlan (query : String) (profile : Profile) (reason : String) :
    (boundaryPlan query profile reason : AgentTaskPlan F).Settled :=
  settled_of_isEmpty rfl rfl (Profile.name_ne profile) (by simp [boundaryPlan])
    ⟨90, by decide, rfl⟩ (PyDict.loaded_ofFields (by simp [PyValue.loaded_str]))

lemma settled_clarificationPlan (query : String) (profile : Profile) (question : String) :
    (clarificationPlan query profile question : AgentTaskPlan F).Settled := by
  refine settled_of_isEmpty rfl rfl (Profile.name_ne profile) (by simp [clarificationPlan])
    ⟨80, by decide, rfl⟩ (PyDict.loaded_ofFields ?_)
  simp [PyValue.loaded_str, (plain_extractConstraints (F := F) query).value, textValues,
    PyValue.loaded_list]

lemma settled_realtimeChatPlan (query : String) (profile : Profile) (fallbackReason : String) :
    (realtimeChatPlan query profile fallbackReason : AgentTaskPlan F).Settled :=
  settled_of_isEmpty rfl rfl (Profile.name_ne profile) (by simp [realtimeChatPlan])
    ⟨86, by decide, rfl⟩ (PyDict.loaded_ofFields (by simp [PyValue.loaded_str]))

/-- The first assignment of an agent, if there is one. -/
lemma exists_firstOf {assignments : List (AgentAssignment F)} {agentId : String}
    (h : firstOf assignments agentId ≠ "") :
    ∃ a ∈ assignments, a.agentId = agentId ∧ a.assignmentId = firstOf assignments agentId := by
  cases hfind : assignments.find? (·.agentId == agentId) with
  | none => simp [firstOf, hfind] at h
  | some a =>
    refine ⟨a, List.mem_of_find?_eq_some hfind, ?_, by simp [firstOf, hfind]⟩
    simpa using List.find?_some hfind

lemma mem_edgesFrom {source type : String} {assignments : List (AgentAssignment F)}
    {toward : AgentAssignment F → Bool} {d : AgentDependency}
    (h : d ∈ edgesFrom source assignments toward type) :
    source ≠ "" ∧ ∃ b ∈ assignments, toward b = true ∧ d = ⟨source, b.assignmentId, type⟩ := by
  unfold edgesFrom at h
  split_ifs at h with hsource
  · exact absurd h List.not_mem_nil
  · obtain ⟨b, hb, rfl⟩ := List.mem_map.1 h
    obtain ⟨hmem, htoward⟩ := List.mem_filter.1 hb
    exact ⟨hsource, b, hmem, htoward, rfl⟩

/-- Which assignments an edge of the deterministic planner connects. -/
structure PlannedEdge (a b : AgentAssignment F) (d : AgentDependency) : Prop where
  source : d.fromAssignment = a.assignmentId
  target : d.toAssignment = b.assignmentId
  type : d.type = "blocking_data_dependency" ∨ d.type = "optional_context"
  agents : (a.agentId = "product_analysis" ∧ (b.agentId = "inventory" ∨ b.agentId = "campaign")) ∨
    (a.agentId = "inventory" ∧ b.agentId = "campaign") ∨
    ((a.agentId = "data_quality" ∨ a.agentId = "database_query" ∨ b.agentId = "report") ∧
      a.assignmentId ≠ b.assignmentId)

lemma mem_assignmentDependencies {assignments : List (AgentAssignment F)} {query : String}
    {d : AgentDependency} (h : d ∈ assignmentDependencies assignments query) :
    ∃ a ∈ assignments, ∃ b ∈ assignments, PlannedEdge a b d := by
  rw [assignmentDependencies] at h
  split at h
  · exact absurd h List.not_mem_nil
  · simp only [dedupeDependencies, List.mem_eraseDups, List.mem_append,
      List.mem_ite_nil_right] at h
    rcases h with ((h | h) | h) | ⟨hreport, h⟩
    · obtain ⟨hsource, b, hb, htoward, rfl⟩ := mem_edgesFrom h
      obtain ⟨a, ha, hagent, hid⟩ := exists_firstOf hsource
      exact ⟨a, ha, b, hb, hid.symm, rfl, .inl rfl, .inl ⟨hagent, by simpa using htoward⟩⟩
    · obtain ⟨hsource, b, hb, htoward, rfl⟩ := mem_edgesFrom h
      obtain ⟨a, ha, hagent, hid⟩ := exists_firstOf hsource
      exact ⟨a, ha, b, hb, hid.symm, rfl, .inr rfl, .inr (.inl ⟨hagent, by simpa using htoward⟩)⟩
    · obtain ⟨upstream, hupstream, h⟩ := List.mem_flatMap.1 h
      obtain ⟨hsource, b, hb, htoward, rfl⟩ := mem_edgesFrom h
      have hne : b.assignmentId ≠ upstream := by simpa using htoward
      simp only [List.mem_cons, List.not_mem_nil, or_false] at hupstream
      rcases hupstream with rfl | rfl
      · obtain ⟨a, ha, hagent, hid⟩ := exists_firstOf hsource
        exact ⟨a, ha, b, hb, hid.symm, rfl, .inl rfl, .inr (.inr ⟨.inl hagent, hid ▸ hne.symm⟩)⟩
      · obtain ⟨a, ha, hagent, hid⟩ := exists_firstOf hsource
        exact ⟨a, ha, b, hb, hid.symm, rfl, .inl rfl,
          .inr (.inr ⟨.inr (.inl hagent), hid ▸ hne.symm⟩)⟩
    · obtain ⟨a, ha, rfl⟩ := List.mem_map.1 h
      obtain ⟨hmem, hne⟩ := List.mem_filter.1 ha
      -- the report exists, so its id is the one that is looked up
      obtain ⟨b, hfind⟩ := Option.isSome_iff_exists.1
        (List.find?_isSome.2 (List.any_eq_true.1 hreport.1))
      have hid : firstOf assignments "report" = b.assignmentId := by simp [firstOf, hfind]
      have hagent : b.agentId = "report" := by simpa using List.find?_some hfind
      refine ⟨a, hmem, b, List.mem_of_find?_eq_some hfind, rfl, hid, .inr rfl, ?_⟩
      rw [hid] at hne
      exact .inr (.inr ⟨.inr (.inr hagent), by simpa using hne⟩)

lemma joinTexts_ne (separator : String) {s : String} (l : List String) (h : s ≠ "") :
    joinTexts separator (s :: l) ≠ "" := by
  have hlist : s.toList ≠ [] := by simpa using h
  intro hempty
  have hnil : separator.toList.intercalate ((s :: l).map String.toList) = [] := by
    simpa [joinTexts] using congrArg String.toList hempty
  cases l with
  | nil => exact hlist (by simpa using hnil)
  | cons t l =>
    rw [List.map_cons, List.map_cons, List.intercalate_cons_cons] at hnil
    exact hlist (List.append_eq_nil_iff.1 (List.append_eq_nil_iff.1 hnil).1).1

/-- The plan for some capabilities and stable assignments. -/
lemma settled_selectedPlan {selected : List Capability} (hsub : selected ⊆ capabilities)
    (hne : selected ≠ []) (query : String) (profile : Profile) (fallbackReason : String)
    {assignments : List (AgentAssignment F)}
    (hassignments : ∀ a ∈ assignments, a.Decoded ∧ a.priority ≠ 0)
    {dependencies : List AgentDependency} (hdependencies : ∀ d ∈ dependencies, d.type ≠ "") :
    (selectedPlan selected query profile fallbackReason assignments dependencies).Settled := by
  obtain ⟨first, rest, rfl⟩ := List.exists_cons_of_ne_nil hne
  have hmem : first ∈ capabilities := hsub List.mem_cons_self
  exact {
    profile := Profile.name_ne profile
    mergeStrategy := by
      simp only [selectedPlan, makeMergeStrategy]
      split_ifs <;> simp
    expectedOutput := by
      simp only [selectedPlan, List.map_cons, List.eraseDups_cons]
      exact joinTexts_ne _ _ (capability_ne hmem).2
    assignments := fun a ha => (hassignments a ha).1
    dependencies := hdependencies
    primaryIntent := (capability_ne hmem).1
    priority := fun a ha => (hassignments a ha).2
    confidence := PyRuntime.hundredths_ne _ (by split_ifs <;> simp)
    metadata := PyDict.loaded_ofFields (by
      simp [PyValue.loaded_str, (plain_extractConstraints (F := F) query).value]) }

section

variable (selected : List Capability) (query : String) (context : PyDict F)

/-- The assignments of the selected capabilities before their edges are known. -/
def drafts : List (AgentAssignment F) :=
  assignmentsFor (dedupeCapabilitiesByAgent selected) query context (extractConstraints F query)

/-- The edges between them. -/
def draftEdges : List AgentDependency :=
  assignmentDependencies (drafts selected query context) query

/-- The plan for selected capabilities. -/
def draftPlan (profile : Profile) (fallbackReason : String) : AgentTaskPlan F :=
  selectedPlan (dedupeCapabilitiesByAgent selected) query profile fallbackReason
    ((drafts selected query context).map fun a =>
      (synced (draftEdges selected query context) a).settle)
    (draftEdges selected query context)

end

section

variable {selected : List Capability} (hsub : selected ⊆ capabilities) (query : String)
  (context : PyDict F)
include hsub

lemma decoded_drafts : ∀ a ∈ drafts selected query context, a.Decoded := by
  intro a ha
  obtain ⟨c, hc, index, -, rfl⟩ := mem_assignmentsFor ha
  exact decoded_assignmentForCapability (hsub ((dedupeCapabilitiesByAgent_spec selected).1 hc))
    _ _ _ _

lemma capabilityPlan_eq (profile : Profile) (fallbackReason : String) :
    capabilityPlan selected query profile context fallbackReason =
      .ok (draftPlan selected query context profile fallbackReason) := by
  have hsync := syncAssignmentDependencies_ok (decoded_drafts hsub query context)
    (draftEdges selected query context)
  simp only [drafts, draftEdges] at hsync
  rw [capabilityPlan, hsync, ok_bind]
  rfl

lemma settled_draftPlan (hne : selected ≠ []) (profile : Profile) (fallbackReason : String) :
    (draftPlan selected query context profile fallbackReason).Settled := by
  obtain ⟨hdedupe, -, hnil⟩ := dedupeCapabilitiesByAgent_spec selected
  refine settled_selectedPlan (List.Subset.trans hdedupe hsub) (fun h => hne (hnil h)) _ _ _
    (fun a ha => ?_) fun d hd => ?_
  · obtain ⟨b, hb, rfl⟩ := List.mem_map.1 ha
    have hsynced := decoded_drafts hsub query context b hb
    exact ⟨⟨hsynced.1, hsynced.2, hsynced.3, hsynced.4⟩, AgentAssignment.priority_settle_ne _⟩
  · obtain ⟨a, -, b, -, hedge⟩ := mem_assignmentDependencies hd
    rcases hedge.type with h | h <;> simp [h]

end

variable (F) in
/-- What is offered is built in, and supports the realtime profile in that profile. -/
lemma CapabilityRegistry.usableCapabilities_subset (registry : CapabilityRegistry) (query : String)
    (profile : Profile) :
    registry.usableCapabilities F query profile ⊆ Planning.capabilities ∧
      (profile = .realtime → ∀ c ∈ registry.usableCapabilities F query profile,
        .realtime ∈ c.supportedProfiles) := by
  have hmatched : ∀ m ∈ registry.matchQuery F query, m.capability ∈ Planning.capabilities :=
    fun m hm => mem_matchQuery F hm
  have hfound := selectCapabilities_subset F hmatched query
  have hdaily : ((registry.get "daily_report").or registry.capabilities.head?).toList ⊆
      Planning.capabilities := by
    intro c hc
    rcases Option.or_eq_some_iff.1 (Option.mem_toList.1 hc) with h | ⟨-, h⟩
    · exact registry.builtIn (List.mem_of_find?_eq_some h)
    · exact registry.builtIn (List.mem_of_head? h)
  have hchosen : (if selectCapabilities F (registry.matchQuery F query) query = [] then
      ((registry.get "daily_report").or registry.capabilities.head?).toList
      else selectCapabilities F (registry.matchQuery F query) query) ⊆ Planning.capabilities := by
    split_ifs
    · exact hdaily
    · exact hfound
  simp only [CapabilityRegistry.usableCapabilities]
  by_cases hprofile : profile = .realtime
  · rw [if_pos hprofile]
    refine ⟨List.Subset.trans (List.filter_subset_self _) hchosen, fun _ c hc => ?_⟩
    simpa using (List.mem_filter.1 hc).2
  · rw [if_neg hprofile]
    exact ⟨hchosen, fun h => absurd h hprofile⟩

variable (F) in
lemma usableCapabilities_subset (query : String) (profile : Profile) :
    usableCapabilities F query profile ⊆ capabilities ∧
      (profile = .realtime → ∀ c ∈ usableCapabilities F query profile,
        .realtime ∈ c.supportedProfiles) :=
  defaultRegistry.usableCapabilities_subset F query profile

/-- The deterministic planner never raises. -/
theorem fallbackPlan_ok (query : String) (profile : Profile) (context : PyDict F)
    (fallbackReason : String) :
    ∃ p, fallbackPlan query profile context fallbackReason = .ok p ∧ p.Settled ∧
      p.profile = profile.name ∧ (p.assignments = [] ∧ p.dependencies = [] ∨ p =
        draftPlan (usableCapabilities F query profile) query context profile fallbackReason) := by
  unfold fallbackPlan CapabilityRegistry.fallbackPlan
  split_ifs with hscope hclarify hchat hempty
  · exact ⟨_, rfl, settled_boundaryPlan _ _ _, rfl, .inl ⟨rfl, rfl⟩⟩
  · exact ⟨_, rfl, settled_clarificationPlan _ _ _, rfl, .inl ⟨rfl, rfl⟩⟩
  · exact ⟨_, rfl, settled_realtimeChatPlan _ _ _, rfl, .inl ⟨rfl, rfl⟩⟩
  · exact ⟨_, rfl, settled_boundaryPlan _ _ _, rfl, .inl ⟨rfl, rfl⟩⟩
  · have hsub := (usableCapabilities_subset F query profile).1
    exact ⟨_, capabilityPlan_eq hsub query context profile fallbackReason,
      settled_draftPlan hsub query context hempty profile fallbackReason, rfl, .inr rfl⟩

/-! ### What becomes of the plan of a model -/

section

variable (p : AgentTaskPlan F) (query : String) (profile : Profile) (fallbackReason : String)

/-- `_sanitize_plan` keeps the plan and does not replace it. -/
def Kept : Prop :=
  ¬(profile = .realtime ∧ p.assignments.any (fun a => realtimeRefused.contains a.agentId) = true) ∧
    ¬p.assignments.any (fun a => !knownAgents.contains a.agentId) = true ∧
    ¬(p.assignments = [] ∧ ¬p.boundary ∧ ¬p.requiresClarification)

/-- The assignments of a kept plan after `_enrich_assignment`. -/
def enrichedAssignments : List (AgentAssignment F) :=
  p.assignments.map fun a => (enriched query a).settle

/-- The edges of a kept plan. -/
def keptEdges : List AgentDependency :=
  sanitizeDependencies p.dependencies (enrichedAssignments p query)

/-- The plan that `_sanitize_plan` decodes at its end. -/
def keptPlan : AgentTaskPlan F :=
  { p with
    planId := orText p.planId (makePlanId F query profile)
    rawQuery := query
    primaryIntent := orText p.primaryIntent (primaryIntentFromAssignments p.assignments)
    profile := profile.name
    assignments := (enrichedAssignments p query).map fun a => (synced (keptEdges p query) a).settle
    dependencies := keptEdges p query
    metadata := p.metadata.set "fallback_reason" (.str fallbackReason) }

end

variable {p : AgentTaskPlan F}

lemma primaryIntentFromAssignments_ne {assignments : List (AgentAssignment F)}
    (h : ∀ a ∈ assignments, a.Decoded) : primaryIntentFromAssignments assignments ≠ "" := by
  unfold primaryIntentFromAssignments
  split
  · rename_i a l hsorted
    have hmem : a ∈ AgentTaskPlan.sortByPriority assignments := hsorted ▸ List.mem_cons_self
    rw [AgentTaskPlan.sortByPriority, List.mem_insertionSort] at hmem
    exact (h a hmem).intent
  · decide

lemma decoded_enrichedAssignments (hp : p.Decoded) (query : String) :
    ∀ a ∈ enrichedAssignments p query, a.Decoded := by
  intro a ha
  obtain ⟨b, hb, rfl⟩ := List.mem_map.1 ha
  have h := hp.assignments b hb
  exact ⟨h.1, h.2, h.3, h.4⟩

lemma mem_sanitizeDependencies {dependencies : List AgentDependency}
    {assignments : List (AgentAssignment F)} {d : AgentDependency} :
    d ∈ sanitizeDependencies dependencies assignments ↔ d ∈ dependencies ∧
      d.fromAssignment ∈ assignments.map (·.assignmentId) ∧
      d.toAssignment ∈ assignments.map (·.assignmentId) ∧ d.fromAssignment ≠ d.toAssignment ∧
      d.type ∈ allowedTypes := by
  simp [sanitizeDependencies, dedupeDependencies, List.mem_eraseDups, and_assoc]

lemma decoded_keptPlan (hp : p.Decoded) (query : String) (profile : Profile)
    (fallbackReason : String) : (keptPlan p query profile fallbackReason).Decoded where
  profile := Profile.name_ne profile
  mergeStrategy := hp.mergeStrategy
  expectedOutput := hp.expectedOutput
  assignments a ha := by
    obtain ⟨b, hb, rfl⟩ := List.mem_map.1 ha
    have h := decoded_enrichedAssignments hp query b hb
    exact ⟨h.1, h.2, h.3, h.4⟩
  dependencies d hd := by
    have h := (mem_sanitizeDependencies.1 hd).2.2.2.2
    rintro hempty
    simp [hempty, allowedTypes] at h

lemma settled_keptPlan (hp : p.Decoded) (hmetadata : p.metadata.Loaded) (query : String)
    (profile : Profile) (fallbackReason : String) :
    ((keptPlan p query profile fallbackReason).settle p).Settled := by
  refine (decoded_keptPlan hp query profile fallbackReason).settled ?_
    (hmetadata.set _ (PyValue.loaded_str _)) p
  simp only [keptPlan, orText]
  split_ifs with h
  · exact primaryIntentFromAssignments_ne hp.assignments
  · exact h

/-- A kept plan. -/
lemma sanitizePlan_of_kept (hp : p.Decoded) {profile : Profile} (h : Kept p profile)
    (query fallbackReason : String) :
    sanitizePlan p query profile fallbackReason =
      .ok ((keptPlan p query profile fallbackReason).settle p) := by
  have henrich : p.assignments.mapM (enrichAssignment query) = .ok (enrichedAssignments p query) :=
    mapM_ok fun a ha => enrichAssignment_ok (hp.assignments a ha) query
  have hsync := syncAssignmentDependencies_ok (decoded_enrichedAssignments hp query)
    (keptEdges p query)
  rw [keptEdges] at hsync
  rw [sanitizePlan, if_neg h.1, if_neg h.2.1, if_neg h.2.2]
  simp only [henrich, ok_bind, hsync]
  exact AgentTaskPlan.fromDict_fieldsOf (decoded_keptPlan hp query profile fallbackReason) p

/-- A replaced plan. -/
lemma sanitizePlan_of_not_kept {profile : Profile} (h : ¬Kept p profile)
    (query fallbackReason : String) :
    ∃ r, sanitizePlan p query profile fallbackReason = .ok r ∧
      (r = boundaryPlan query profile "realtime_profile_not_supported" ∨
        ∃ reason, fallbackPlan query profile .empty reason = .ok r) := by
  rw [sanitizePlan]
  by_cases hrefused : profile = .realtime ∧
      p.assignments.any (fun a => realtimeRefused.contains a.agentId) = true
  · rw [if_pos hrefused]
    exact ⟨_, rfl, .inl rfl⟩
  rw [if_neg hrefused]
  by_cases hunknown : p.assignments.any (fun a => !knownAgents.contains a.agentId) = true
  · rw [if_pos hunknown]
    obtain ⟨r, hr, -⟩ := fallbackPlan_ok query profile (.empty : PyDict F) "invalid_execution_mode"
    exact ⟨r, by rw [hr], .inr ⟨_, hr⟩⟩
  rw [if_neg hunknown]
  by_cases hnothing : p.assignments = [] ∧ ¬p.boundary ∧ ¬p.requiresClarification
  · rw [if_pos hnothing]
    obtain ⟨r, hr, -⟩ := fallbackPlan_ok query profile (.empty : PyDict F)
      "model_plan_without_executable_steps"
    exact ⟨r, by rw [hr], .inr ⟨_, hr⟩⟩
  exact absurd ⟨hrefused, hunknown, hnothing⟩ h

instance (p : AgentTaskPlan F) (profile : Profile) : Decidable (Kept p profile) :=
  inferInstanceAs (Decidable (_ ∧ _ ∧ _))

/-- The plan that a model wrote, if it can be decoded and is kept. -/
def modelPlan (profile : Profile) (answer : Except String (Entries F)) :
    Option (AgentTaskPlan F) :=
  match answer.bind AgentTaskPlan.fromDict with
  | .ok p => if Kept p profile then some p else none
  | .error _ => none

/-- What `plan_async` returns: the repaired plan of the model, or one of its own. -/
theorem planAsync_ok (query : String) (profile : Profile) (context : PyDict F)
    (answer : Except String (Entries F)) :
    ∃ r, planAsync query profile context answer = .ok r ∧
      match modelPlan profile answer with
      | some p => answer.bind AgentTaskPlan.fromDict = .ok p ∧
          r = (keptPlan p query profile p.fallbackReason).settle p
      | none => r = boundaryPlan query profile "realtime_profile_not_supported" ∨
          ∃ context reason, fallbackPlan query profile context reason = .ok r := by
  have hfallback : ∀ e : String, ∃ r, plan query profile context ("planner_model_failed:" ++
      String.ofList (e.toList.take 120)) = .ok r ∧
        (r = boundaryPlan query profile "realtime_profile_not_supported" ∨
          ∃ context reason, fallbackPlan query profile context reason = .ok r) := by
    intro e
    obtain ⟨r, hr, -⟩ := fallbackPlan_ok query profile context
      ("planner_model_failed:" ++ String.ofList (e.toList.take 120))
    exact ⟨r, hr, .inr ⟨_, _, hr⟩⟩
  cases answer with
  | error e => exact hfallback e
  | ok data =>
    have hbind : (Except.ok data : Except String (Entries F)).bind AgentTaskPlan.fromDict =
        AgentTaskPlan.fromDict data := rfl
    cases hdecode : AgentTaskPlan.fromDict data with
    | error e =>
      simp only [planAsync, modelPlan, hbind, hdecode, ok_bind]
      exact hfallback e
    | ok p =>
      have hp := AgentTaskPlan.decoded_fromDict hdecode
      by_cases hkept : Kept p profile
      · have hsanitize := sanitizePlan_of_kept hp hkept query p.fallbackReason
        simp only [planAsync, modelPlan, hbind, hdecode, ok_bind, hsanitize, if_pos hkept]
        exact ⟨_, rfl, trivial, rfl⟩
      · obtain ⟨r, hr, hcases⟩ := sanitizePlan_of_not_kept hkept query p.fallbackReason
        simp only [planAsync, modelPlan, hbind, hdecode, ok_bind, hr, if_neg hkept]
        refine ⟨r, rfl, hcases.imp_right ?_⟩
        rintro ⟨reason, h⟩
        exact ⟨_, reason, h⟩

end EcommerceAgent.Planning
