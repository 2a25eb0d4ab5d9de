/-
# The answers of the database workflow

The texts that the nodes of `agent/tools/database_workflow_tool.py` make of query results and of
the outcome of a change: the product report, the fallback summary, the approval summary and the
merge summary.  Floating-point numbers are left to the interpreter.
-/
import EcommerceAgent.Lib.Csv
import EcommerceAgent.Lib.PyFormat
import EcommerceAgent.Lib.Text

open EcommerceAgent.Lib EcommerceAgent.Lib.Csv EcommerceAgent.Lib.PyFormat

namespace EcommerceAgent.Database

/-! ### The product report -/

/-- Python's floats, as far as the report uses them: `float(text)`, which is undefined where it
raises `ValueError`, `0.0`, `<=` and `f"{x * 100:.2f}%"`. -/
structure Floats where
  Val : Type
  zero : Val
  ofString : String → Option Val
  le : Val → Val → Bool
  percent : Val → String

/-- Floats that are integers. -/
def Floats.integers : Floats where
  Val := ℤ
  zero := 0
  ofString := String.toInt?
  le x y := x ≤ y
  percent x := toString (x * 100) ++ ".00%"

/-- `_to_float` of `row.get(key)`. -/
def toFloat (fl : Floats) : Option (Option String) → fl.Val
  | some (some text) => if text = "" then fl.zero else (fl.ofString text).getD fl.zero
  | _ => fl.zero

/-- `_format_rate` of `row.get(key)`. -/
def formatRate (fl : Floats) (value : Option (Option String)) : String :=
  fl.percent (toFloat fl value)

/-- `f"{row.get(key, default)}"`. -/
def showField (row : Row) (key default : String) : String :=
  match row.get key with
  | none => default
  | some none => "None"
  | some (some text) => text

/-- `stock_note` of one of the first three rows. -/
def stockNote (fl : Floats) (row : Row) : String :=
  let stock := toFloat fl (row.get "stock")
  if fl.le stock fl.zero then "无库存，不能直接放量"
  else if fl.le stock (toFloat fl (row.get "safety_stock")) then
    "接近或低于安全库存，放量前需补货"
  else "库存健康"

/-- The part of the report about the first product. -/
def topLines (fl : Floats) (top : Row) : List String :=
  ["## 爆品结论", "",
    "当前最值得优先关注和放量的爆品是 **" ++ showField top "product_id" "" ++ "**，类目为 **" ++
      showField top "category_name_en" "" ++ "**。",
    "该商品销售额最高、库存健康、活动 ROI 较好，适合作为下一阶段优先放量商品。", "",
    "## 核心指标", "", "| 指标 | 数值 |", "| --- | ---: |",
    "| 销售额 | " ++ showField top "sales_amount" "0" ++ " |",
    "| 销量 | " ++ showField top "units_sold" "0" ++ " |",
    "| 订单数 | " ++ showField top "orders_count" "0" ++ " |",
    "| 成交均价 | " ++ showField top "avg_price" "0" ++ " |",
    "| 访客数 | " ++ showField top "visitors" "0" ++ " |",
    "| 浏览量 | " ++ showField top "views" "0" ++ " |",
    "| 转化率 | " ++ formatRate fl (top.get "conversion_rate") ++ " |",
    "| 当前库存 | " ++ showField top "stock" "0" ++ " |",
    "| 安全库存 | " ++ showField top "safety_stock" "0" ++ " |",
    "| 活动收入 | " ++ showField top "campaign_revenue" "0" ++ " |",
    "| 活动花费 | " ++ showField top "campaign_spend" "0" ++ " |",
    "| 活动 ROI | " ++ showField top "campaign_roi" "0" ++ " |",
    "| 退款单数 | " ++ showField top "refunds_count" "0" ++ " |",
    "| 退款金额 | " ++ showField top "refund_amount" "0" ++ " |", "",
    "## TOP3 候选商品", "",
    "| 排名 | 商品ID | 类目 | 销售额 | 销量 | 订单数 | 均价 | 访客 | 转化率 | 库存 | 安全库存 | 活动ROI | 判断 |",
    "| ---: | --- | --- | ---: | ---: | ---: | ---: | ---: | ---: | ---: | ---: | ---: | --- |"]

/-- The line of the report about the product at `index`. -/
def rankedLine (fl : Floats) (index : ℕ) (row : Row) : String :=
  "| " ++ toString index ++ " | " ++ showField row "product_id" "" ++ " | " ++
    showField row "category_name_en" "" ++ " | " ++ showField row "sales_amount" "0" ++ " | " ++
    showField row "units_sold" "0" ++ " | " ++ showField row "orders_count" "0" ++ " | " ++
    showField row "avg_price" "0" ++ " | " ++ showField row "visitors" "0" ++ " | " ++
    formatRate fl (row.get "conversion_rate") ++ " | " ++ showField row "stock" "0" ++ " | " ++
    showField row "safety_stock" "0" ++ " | " ++ showField row "campaign_roi" "0" ++ " | " ++
    stockNote fl row ++ " |"

/-- The advice at the end of the report. -/
def adviceLines : List String :=
  ["", "## 放量建议", "",
    "1. **主推第一名商品**：预算按 20%-30% 小步递增，观察活动 ROI 是否稳定。",
    "2. **先补货再投放缺货商品**：库存为 0 或接近安全库存的商品，不建议直接加大流量。",
    "3. **保留价格体系**：优先用限时券、满减、赠品或会员权益提升转化，不建议直接大幅降价。",
    "4. **同步监控退款原因**：退款集中在质量、描述、物流或售后时，先修正再放量。",
    "5. **建立第二增长点**：优先选择活动 ROI 高且库存健康的候选商品做加测。"]

/-- `_summarize_top_products`; the `csv` module may raise. -/
def summarizeTopProducts (fl : Floats) (result : String) : Except String String :=
  match dictReader result with
  | .error e => .error e
  | .ok [] => .ok "爆品分析工具没有返回可用商品数据，数据库状态机已结束。"
  | .ok (top :: rest) => .ok (String.intercalate "\n" (topLines fl top ++
      (((top :: rest).take 3).mapIdx fun i row => rankedLine fl (i + 1) row) ++ adviceLines))

/-! ### The fallback summary -/

/-- `dict(pairs)`: a key stays at its first place and has its last value. -/
def dictOf (pairs : List (String × String)) : List (String × String) :=
  pairs.foldl (fun d p =>
    if d.any (·.1 == p.1) then d.map fun q => if q.1 = p.1 then p else q else d ++ [p]) []

/-- One line of the fallback summary. -/
def previewLine (header row : List String) : String :=
  "- " ++ String.intercalate ", " ((dictOf (header.zip row)).map fun p => p.1 ++ ": " ++ p.2)

/-- `_fallback_summary`; the `csv` module may raise. -/
def fallbackSummary (question result : String) : Except String String :=
  match reader result with
  | .error e => .error e
  | .ok (header :: row :: rows) => .ok (String.intercalate "\n"
      ("数据库状态机已完成查询，以下是关键结果：" ::
        ((row :: rows).take 5).map (previewLine header)))
  | .ok _ => .ok ("数据库状态机已完成查询，但没有可汇总的数据。问题：" ++ question ++
      "\n\n原始结果：\n" ++ result)

/-- `_is_failed_result`. -/
def isFailedResult (result : String) : Bool :=
  ["查询出现异常", "查询被拒绝", "SQL 连续失败"].any fun marker =>
    Text.contains result.toList marker.toList

/-! ### The summaries of a change -/

/-- The warning of `_format_approval_summary`. -/
def productionWarning : String :=
  "\n【重要风险提示】当前未配置 DB_SANDBOX_DATABASE，且 DB_ENABLE_PRODUCTION_MERGE=true。" ++
    "如果选择 continue，Merge 节点会直接写入 MYSQL_DATABASE 指向的生产库。\n"

/-- `_format_approval_summary`. -/
def formatApprovalSummary (question writeSql : String) (sandboxResult : Dict)
    (productionMergeEnabled : Bool) : String :=
  "【数据库变更人工审核】\n" ++
    "状态机已生成候选 SQL，并完成 sandbox/安全校验。请确认是否继续 Merge 发布。\n\n" ++
    "用户需求：" ++ question ++ "\n\n候选 SQL：\n" ++ writeSql ++
    ("\n\nSandbox 结果：\n" ++ dumps sandboxResult ++ "\n\n" ++
    (if productionMergeEnabled ∧
        sandboxResult.get "mode" = some (.str "direct_production_after_approval")
      then productionWarning else "") ++
    "选择 continue：进入 Merge 发布节点；选择 revise：按人工意见修订后重新提交；" ++
    "选择 abort：终止变更。\n生产发布开关 DB_ENABLE_PRODUCTION_MERGE 当前为：" ++
    reprBool productionMergeEnabled)

/-- The approval summary shows the statement. -/
lemma contains_formatApprovalSummary (question writeSql : String) (sandboxResult : Dict)
    (enabled : Bool) : Text.contains
      (formatApprovalSummary question writeSql sandboxResult enabled).toList
      writeSql.toList = true := by
  have hinfix : ∀ before after : String,
      Text.contains (before ++ writeSql ++ after).toList writeSql.toList = true := by
    intro before after
    rw [Text.contains_iff, String.toList_append, String.toList_append]
    exact ⟨before.toList, after.toList, rfl⟩
  unfold formatApprovalSummary
  exact hinfix _ _

/-- `_format_merge_summary`. -/
def formatMergeSummary (writeSql decision instruction : String)
    (sandboxResult mergeResult : Dict) : String :=
  "数据库变更审核链路已结束。\n\n候选 SQL：\n" ++ writeSql ++
    "\n\nSandbox 结果：\n" ++ dumps sandboxResult ++
    "\n\n人工决策：" ++ decision ++
    "\n人工意见：" ++ (if instruction = "" then "无" else instruction) ++
    "\n\nMerge 结果：\n" ++ dumps mergeResult

end EcommerceAgent.Database
