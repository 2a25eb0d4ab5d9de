/-
# The capabilities of the planner

`CAPABILITIES` of `agent/plan/planner.py` and how a query is matched with them: `_normalize`,
`_tokens`, `CapabilityRegistry.match` and `_select_capabilities`.  The selection that the fallback
plan uses is among the capabilities and has at most one for each agent.
-/
import EcommerceAgent.Lib.PyValue
import EcommerceAgent.Runtime.Profiles
import Mathlib.Data.List.Sort
import Mathlib.Algebra.Ring.Nat

open EcommerceAgent.Lib EcommerceAgent.Runtime

namespace EcommerceAgent.Planning

/-- What the system can plan for. -/
structure Capability where
  capabilityId : String
  targetAgentId : String
  intent : String
  aliases : List String
  supportedProfiles : List Profile := [.realtime, .standard, .deep]
  outputRequirement : String
deriving DecidableEq, Repr

/-- `CAPABILITIES`. -/
def capabilities : List Capability :=
  [{ capabilityId := "hot_product_analysis", targetAgentId := "product_analysis"
     intent := "hot_product_analysis"
     aliases :=
       ["推荐我最近爆品", "哪些商品适合加大投放", "top product", "爆品", "热销", "畅销", "加大投放", "放量", "bestseller",
        "topproduct", "商品分析", "商品分", "商品情况", "product analysis"]
     outputRequirement := "输出爆品候选、放量原因、库存承接、活动承接和风险。" },
   { capabilityId := "product_optimization", targetAgentId := "product_analysis"
     intent := "product_optimization"
     aliases :=
       ["哪个商品最值得优化", "帮我优化商品转化", "低转化商品怎么改", "商品优化", "值得优化", "低转化", "标题", "主图", "价格", "转化",
        "which product should i optimize", "product optimization", "optimize product",
        "optimize products", "conversion optimization", "low conversion product"]
     outputRequirement := "输出优先优化商品、原因、标题/价格/库存/活动动作。" },
   { capabilityId := "inventory_analysis", targetAgentId := "inventory"
     intent := "inventory_analysis"
     aliases :=
       ["库存风险优先级", "哪些 SKU 要补货", "安全库存够不够", "哪些商品低于安全库存", "库存", "补货", "安全库存", "缺货", "滞销",
        "低于安全库存", "inventory"]
     outputRequirement := "输出风险 SKU、补货优先级、缺货/滞销原因和动作。" },
   { capabilityId := "inventory_warning", targetAgentId := "inventory"
     intent := "inventory_analysis"
     aliases :=
       ["库存预警", "库存告警"]
     outputRequirement := "输出库存告警、风险等级和处理动作。" },
   { capabilityId := "replenishment_plan", targetAgentId := "inventory"
     intent := "replenishment_plan"
     aliases :=
       ["给我补货计划", "哪些商品要补多少", "补货计划", "补多少", "采购", "备货"]
     outputRequirement := "输出补货 SKU、建议数量、优先级和依据。" },
   { capabilityId := "campaign_review", targetAgentId := "campaign"
     intent := "campaign_review"
     aliases :=
       ["复盘这个月活动", "活动 ROI 怎么样", "投放效果分析", "活动", "活动复盘", "投放", "roi", "转化", "campaign"]
     outputRequirement := "输出活动流量、成交、ROI、风险和下一轮优化。" },
   { capabilityId := "daily_report", targetAgentId := "report"
     intent := "daily_report"
     aliases :=
       ["帮我看看店铺最近怎么样", "生成经营日报", "最近经营情况", "日报", "经营分析", "店铺最新情况", "最近怎么样", "经营情况", "诊断",
        "dailyreport"]
     outputRequirement := "输出核心指标、风险、重点商品和运营动作。" },
   { capabilityId := "weekly_report", targetAgentId := "report"
     intent := "weekly_report"
     aliases :=
       ["生成周报", "本周经营情况", "周报", "本周", "weekly"]
     outputRequirement := "输出周度核心指标、变化和下周动作。" },
   { capabilityId := "seasonal_selection", targetAgentId := "product_analysis"
     intent := "seasonal_selection"
     aliases :=
       ["这个季节适合卖什么", "夏天卖什么", "应季选品", "选品", "应季", "季节", "上新", "适合卖什么", "趋势",
        "seasonal product selection", "seasonal products", "product selection",
        "seasonal assortment", "summer products", "products for this season"]
     outputRequirement := "输出应季选品方向、候选商品、库存承接和活动建议。" },
   { capabilityId := "general_business_chat", targetAgentId := "report"
     intent := "general_business_chat"
     aliases :=
       ["帮我看看业务", "给我经营建议", "经营", "店铺", "业务", "运营"]
     outputRequirement := "输出经营诊断、主要风险和下一步动作。" },
   { capabilityId := "data_quality_check", targetAgentId := "data_quality"
     intent := "data_quality_check"
     aliases :=
       ["数据导入失败怎么办", "检查数据质量", "为什么没有数据", "数据导入", "导入", "数据质量", "没有数据", "平台授权", "授权", "同步"]
     supportedProfiles := [.standard, .deep]
     outputRequirement := "输出数据质量、导入状态、授权状态和修复动作。" },
   { capabilityId := "platform_integration_help", targetAgentId := "data_quality"
     intent := "platform_integration_help"
     aliases :=
       ["怎么授权店铺", "平台同步失败", "授权", "集成", "同步失败", "店铺连接", "平台"]
     supportedProfiles := [.standard, .deep]
     outputRequirement := "输出平台授权/同步状态和排障动作。" }]

variable (F : Type) [PyRuntime F]

/-! ### Reading a query -/

/-- `sub in text`. -/
def has (text sub : String) : Bool := Text.contains text.toList sub.toList

/-- `any(token in text for token in tokens)`. -/
def hasAny (text : String) (tokens : List String) : Bool := tokens.any (has text)

/-- `_normalize`. -/
def normalize (text : String) : String :=
  String.ofList (((PyRuntime.lower F text).toList.filter (· != '_')).filter fun c =>
    !Text.isSpace c)

/-- The class `[a-z0-9\u4e00-\u9fff]`. -/
def isTokenChar (c : Char) : Bool :=
  c.isLower || c.isDigit || (0x4E00 ≤ c.toNat && c.toNat ≤ 0x9FFF)

/-- `_tokens`. -/
def tokens (text : String) : List String :=
  (((PyRuntime.lower F text).toList.splitOnP fun c => !isTokenChar c).filter (· ≠ [])).map
    String.ofList

/-- `CapabilityMatch`. -/
structure CapabilityMatch where
  capability : Capability
  score : ℕ
deriving DecidableEq, Repr

/-- The score of one alias. -/
def aliasScore (normalized aliasText : String) : ℕ :=
  let token := normalize F aliasText
  if token ≠ "" ∧ has normalized token then 3
  else ((tokens F token).dedup.filter (tokens F normalized).contains).length

/-- A `CapabilityRegistry` with built-in capabilities only. -/
structure CapabilityRegistry where
  capabilities : List Capability
  nonempty : capabilities ≠ []
  builtIn : capabilities ⊆ Planning.capabilities

/-- `CapabilityRegistry.get`. -/
def CapabilityRegistry.get (registry : CapabilityRegistry) (capabilityId : String) :
    Option Capability :=
  registry.capabilities.find? (·.capabilityId == capabilityId)

/-- `CapabilityRegistry.match`. -/
def CapabilityRegistry.matchQuery (registry : CapabilityRegistry) (query : String) :
    List CapabilityMatch :=
  let normalized := normalize F query
  let scored := registry.capabilities.map fun capability =>
    ⟨capability, (capability.aliases.map (aliasScore F normalized)).sum⟩
  ((scored.filter fun m => 0 < m.score).insertionSort fun a b => b.score ≤ a.score).take 4

/-- The registry that a `PlannerAgent` has by default. -/
def defaultRegistry : CapabilityRegistry where
  capabilities := capabilities
  nonempty := by simp [capabilities]
  builtIn := List.Subset.refl _

/-- The capabilities of the default registry that match a query. -/
def matchQuery (query : String) : List CapabilityMatch := defaultRegistry.matchQuery F query

/-! ### The selection -/

/-- The capability of the default registry with an id. -/
def capabilityById (capabilityId : String) : Option Capability := defaultRegistry.get capabilityId

/-- Some selected capability targets the agent. -/
def targets (selected : List Capability) (agentId : String) : Bool :=
  selected.any (·.targetAgentId == agentId)

/-- Some selected capability has the id. -/
def includes (selected : List Capability) (capabilityId : String) : Bool :=
  selected.any (·.capabilityId == capabilityId)

/-- `preferred_agents`. -/
def preferredAgents : List (String × ℕ) :=
  [("product_analysis", 0), ("inventory", 1), ("campaign", 2), ("report", 3), ("data_quality", 4),
    ("knowledge_base", 5), ("network_search", 6), ("database_query", 7)]

/-- `preferred_agents.get(agent_id, 99)`. -/
def preference (agentId : String) : ℕ := (preferredAgents.lookup agentId).getD 99

/-- `_sort_multi_agent_capabilities`. -/
def sortMultiAgentCapabilities (selected : List Capability) : List Capability :=
  selected.insertionSort fun a b => preference a.targetAgentId ≤ preference b.targetAgentId

/-- The first loop of `_select_capabilities`. -/
def addMatch (selected : List Capability) (m : CapabilityMatch) : List Capability :=
  if 2 ≤ m.score ∧ ¬includes selected m.capability.capabilityId then selected ++ [m.capability]
  else selected

/-- Its last loop. -/
def addCapability (selected : List Capability) (capabilityId : String) : List Capability :=
  if includes selected capabilityId then selected
  else selected ++ (capabilityById capabilityId).toList

/-- `_select_capabilities`. -/
def selectCapabilities (found : List CapabilityMatch) (query : String) : List Capability :=
  if found = [] then []
  else
    let normalized := normalize F query
    let selected := found.foldl addMatch []
    let selected :=
      if hasAny normalized ["商品", "商品表现", "product"] ∧ ¬targets selected "product_analysis" then
        (capabilityById "hot_product_analysis").toList ++ selected
      else selected
    let selected :=
      if hasAny normalized ["库存", "补货", "缺货", "inventory"] ∧ ¬targets selected "inventory" then
        selected ++ (capabilityById "inventory_analysis").toList
      else selected
    let selected :=
      if hasAny normalized ["活动", "投放", "roi", "campaign"] ∧ ¬targets selected "campaign" then
        selected ++ (capabilityById "campaign_review").toList
      else selected
    let selected :=
      if hasAny normalized ["同时", "一起", "并且", "以及", "加大投放", "活动风险", "投放风险",
          "活动投放风险"] then
        sortMultiAgentCapabilities (["hot_product_analysis", "inventory_analysis",
          "campaign_review"].foldl addCapability selected)
      else selected
    selected.take 4

/-- The loop of `_dedupe_capabilities_by_agent`. -/
def addAgent (selected : List Capability) (capability : Capability) : List Capability :=
  if targets selected capability.targetAgentId then selected else selected ++ [capability]

/-- `_dedupe_capabilities_by_agent`. -/
def dedupeCapabilitiesByAgent (selected : List Capability) : List Capability :=
  selected.foldl addAgent []

/-! ### What is selected -/

lemma capabilityById_subset (capabilityId : String) :
    (capabilityById capabilityId).toList ⊆ capabilities := by
  intro c hc
  rw [capabilityById, CapabilityRegistry.get] at hc
  exact defaultRegistry.builtIn (List.mem_of_find?_eq_some (Option.mem_toList.1 hc))

lemma CapabilityRegistry.mem_matchQuery {registry : CapabilityRegistry} {query : String}
    {m : CapabilityMatch} (h : m ∈ registry.matchQuery F query) :
    m.capability ∈ Planning.capabilities := by
  have hsorted := List.mem_of_mem_take h
  rw [List.mem_insertionSort] at hsorted
  obtain ⟨c, hc, rfl⟩ := List.mem_map.1 (List.mem_of_mem_filter hsorted)
  exact registry.builtIn hc

lemma addMatch_subset {selected : List Capability} (hs : selected ⊆ capabilities)
    {m : CapabilityMatch} (hm : m.capability ∈ capabilities) :
    addMatch selected m ⊆ capabilities := by
  unfold addMatch
  split_ifs
  · exact List.append_subset.2 ⟨hs, by simpa using hm⟩
  · exact hs

lemma addCapability_subset {selected : List Capability} (hs : selected ⊆ capabilities)
    (capabilityId : String) : addCapability selected capabilityId ⊆ capabilities := by
  unfold addCapability
  split_ifs
  · exact hs
  · exact List.append_subset.2 ⟨hs, capabilityById_subset capabilityId⟩

/-- Only capabilities are selected. -/
lemma selectCapabilities_subset {found : List CapabilityMatch}
    (hfound : ∀ m ∈ found, m.capability ∈ capabilities) (query : String) :
    selectCapabilities F found query ⊆ capabilities := by
  have hmatches : ∀ l : List CapabilityMatch, (∀ m ∈ l, m.capability ∈ capabilities) →
      ∀ selected, selected ⊆ capabilities → l.foldl addMatch selected ⊆ capabilities := by
    intro l
    induction l with
    | nil => exact fun _ _ h => h
    | cons m l ih =>
      exact fun hl selected hs => ih (fun m hm => hl m (List.mem_cons_of_mem _ hm)) _
        (addMatch_subset hs (hl m List.mem_cons_self))
  have hmerged : ∀ ids : List String, ∀ selected, selected ⊆ capabilities →
      ids.foldl addCapability selected ⊆ capabilities := by
    intro ids
    induction ids with
    | nil => exact fun _ h => h
    | cons capabilityId ids ih => exact fun _ hs => ih _ (addCapability_subset hs capabilityId)
  have hbefore : ∀ (P : Prop) [Decidable P] (capabilityId : String) (selected : List Capability),
      selected ⊆ capabilities → (if P then (capabilityById capabilityId).toList ++ selected
        else selected) ⊆ capabilities := by
    intro P _ capabilityId selected hs
    split_ifs
    · exact List.append_subset.2 ⟨capabilityById_subset _, hs⟩
    · exact hs
  have hafter : ∀ (P : Prop) [Decidable P] (capabilityId : String) (selected : List Capability),
      selected ⊆ capabilities → (if P then selected ++ (capabilityById capabilityId).toList
        else selected) ⊆ capabilities := by
    intro P _ capabilityId selected hs
    split_ifs
    · exact List.append_subset.2 ⟨hs, capabilityById_subset _⟩
    · exact hs
  have hsorted : ∀ (P : Prop) [Decidable P] (ids : List String) (selected : List Capability),
      selected ⊆ capabilities → (if P then sortMultiAgentCapabilities (ids.foldl addCapability
        selected) else selected) ⊆ capabilities := by
    intro P _ ids selected hs
    split_ifs
    · intro c hc
      rw [sortMultiAgentCapabilities, List.mem_insertionSort] at hc
      exact hmerged ids selected hs hc
    · exact hs
  unfold selectCapabilities
  split_ifs
  · exact List.nil_subset _
  · exact List.Subset.trans (List.take_subset _ _) (hsorted _ _ _ (hafter _ _ _ (hafter _ _ _
      (hbefore _ _ _ (hmatches _ hfound _ (List.nil_subset _))))))

lemma targets_iff {selected : List Capability} {agentId : String} :
    targets selected agentId = true ↔ agentId ∈ selected.map (·.targetAgentId) := by
  simp [targets, List.mem_map]

/-- One capability for each agent, in the order of their first appearance. -/
lemma dedupeCapabilitiesByAgent_spec (selected : List Capability) :
    dedupeCapabilitiesByAgent selected ⊆ selected ∧
      ((dedupeCapabilitiesByAgent selected).map (·.targetAgentId)).Nodup ∧
      (dedupeCapabilitiesByAgent selected = [] → selected = []) := by
  have hloop : ∀ l acc : List Capability, (acc.map (·.targetAgentId)).Nodup →
      (l.foldl addAgent acc ⊆ acc ++ l) ∧ ((l.foldl addAgent acc).map (·.targetAgentId)).Nodup ∧
        (l.foldl addAgent acc = [] → acc = [] ∧ l = []) := by
    intro l
    induction l with
    | nil => exact fun acc h => ⟨by simp, h, fun h => ⟨h, rfl⟩⟩
    | cons c l ih =>
      intro acc h
      rw [List.foldl_cons]
      by_cases hc : targets acc c.targetAgentId = true
      · obtain ⟨hsub, hnodup, hnil⟩ := ih acc h
        have hadd : addAgent acc c = acc := if_pos hc
        rw [hadd]
        refine ⟨List.Subset.trans hsub (List.append_subset.2 ⟨by simp, by simp⟩), hnodup,
          fun hempty => ?_⟩
        obtain ⟨rfl, -⟩ := hnil hempty
        exact absurd hc (by simp [targets])
      · have hadd : addAgent acc c = acc ++ [c] := if_neg hc
        have hfresh : ((acc ++ [c]).map (·.targetAgentId)).Nodup := by
          rw [List.map_append, List.map_singleton, List.nodup_append_comm]
          exact List.nodup_cons.2 ⟨fun hmem => hc (targets_iff.2 hmem), h⟩
        obtain ⟨hsub, hnodup, hnil⟩ := ih (acc ++ [c]) hfresh
        rw [hadd]
        exact ⟨by simpa using hsub, hnodup, fun hempty => by simpa using (hnil hempty).1⟩
  obtain ⟨hsub, hnodup, hnil⟩ := hloop selected [] List.nodup_nil
  exact ⟨hsub, hnodup, fun h => (hnil h).2⟩

end EcommerceAgent.Planning
