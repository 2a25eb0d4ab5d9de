/-
# The query of the product analysis is always refused

`analyze_top_products` reads tables of the shop without mentioning `tenant_id`, so the tenant gate
of `execute_read_sql_raw` refuses its query for every identity and every answer of MySQL, and what
the tool returns is the text of the refusal.
-/
import EcommerceAgent.Database.Sql

open EcommerceAgent.Lib

namespace EcommerceAgent.Database

/-- An ASCII query that the tenant gate refuses: it is no `SELECT` statement but may be read, and it
mentions the table `orders` but no `tenant_id`. -/
def unscoped (query : List Char) : Bool :=
  query.all (fun c => c.toNat < 128) && (Text.lower query).all (fun c => c.toNat < 128) &&
    startsWithAny Unicode.asciiOnly ["select", "with", "show", "describe", "desc"] query &&
    !startsWithAny Unicode.asciiOnly ["select"] query &&
    Regex.searchWord Unicode.asciiOnly (· == ·) "orders".toList none (Text.lower query) &&
    !Text.contains (Text.lower query) "tenant_id".toList

lemma startsWithAny_congr (u u' : Unicode) (words : List String) {text : List Char}
    (h : ∀ c ∈ text, c.toNat < 128) : startsWithAny u words text = startsWithAny u' words text := by
  unfold startsWithAny
  congr 1
  funext word
  exact Regex.startsWithWord_congr u u' _ _ h

/-- The texts with which the tenant gate refuses. -/
def gateTexts : List String :=
  ["查询被拒绝：缺少可信 tenant/shop 上下文，不能读取店铺经营数据。",
    "查询被拒绝：访问经营数据表必须显式包含 tenant_id 和 shop_id 过滤条件。"]

/-- The gate refuses an unscoped query, whoever asks. -/
lemma executeReadSqlRaw_unscoped (u : Unicode) {env : ReadEnv} (hconfig : env.config = .ok ())
    {query : String} (h : unscoped (stripStatement query) = true) :
    ∃ text ∈ gateTexts, executeReadSqlRaw u env query = .refused text := by
  simp only [unscoped, Bool.and_eq_true, Bool.not_eq_true', List.all_eq_true,
    decide_eq_true_eq] at h
  obtain ⟨⟨⟨⟨⟨hascii, hlower⟩, hread⟩, hselect⟩, horders⟩, htenant⟩ := h
  rw [startsWithAny_congr _ u _ hascii] at hread hselect
  rw [Regex.searchWord_congr _ u _ _ (by simp) hlower] at horders
  have hlimited : limited u (stripStatement query) = stripStatement query := by
    unfold limited
    rw [hselect]
    rfl
  have htouched : (tenantScopedTables.all fun table =>
      !Regex.searchWord u (· == ·) table.toList none (Text.lower (stripStatement query))) =
        false := by
    refine List.all_eq_false.2 ⟨"orders", by decide, ?_⟩
    rw [horders]
    decide
  have hgate : validateTenantScopedReadSql u env.identity (stripStatement query) ∈ gateTexts := by
    unfold validateTenantScopedReadSql
    dsimp only
    rw [htouched, htenant]
    simp only [Bool.false_eq_true, if_false, Bool.not_false, Bool.true_or, if_true]
    split
    · exact List.mem_cons_self
    · exact List.mem_cons_of_mem _ List.mem_cons_self
  have hnonempty : ∀ text ∈ gateTexts, text ≠ "" := by decide
  refine ⟨_, hgate, ?_⟩
  unfold executeReadSqlRaw
  rw [hconfig]
  dsimp only
  rw [hread, hlimited, if_pos (hnonempty _ hgate)]
  rfl

/-- Both queries of the analysis are unscoped. -/
lemma unscoped_topProductsQuery :
    unscoped (stripStatement (topProductsQuery dateFilter)) = true ∧
      unscoped (stripStatement (topProductsQuery "")) = true := by
  unfold stripStatement topProductsQuery dateFilter
  simp only [String.toList_append, List.append_assoc]
  -- the literals are spelled out, since evaluating `toList` is slow
  repeat rw [String.toList_ofList]
  constructor <;> decide +kernel

/-- The tool answers: no call limit refuses it, and the configuration is complete. -/
def ToolEnv.Available (env : ToolEnv) : Prop :=
  env.guardError = none ∧ env.read.config = .ok () ∧ env.again.config = .ok ()

lemma executeReadSqlRaw_raised (u : Unicode) {env : ReadEnv} {e : String}
    (hconfig : env.config = .error e) (query : String) :
    executeReadSqlRaw u env query = .raised e := by
  unfold executeReadSqlRaw
  rw [hconfig]

/-- What the product analysis does: none of its reads is executed, and it returns a refusal behind
the fallback line, or raises. -/
lemma analyzeTopProducts_spec (u : Unicode) (env : ToolEnv) :
    (∀ r ∈ (analyzeTopProducts u env).1, ∀ sql text, r ≠ .executed sql text) ∧
      ((env.Available ∧ ∃ text ∈ gateTexts,
          (analyzeTopProducts u env).2 = .ok (fallbackLine ++ text)) ∨
        (¬ env.Available ∧ ∃ e, (analyzeTopProducts u env).2 = .error e)) := by
  have hline : ∀ text ∈ gateTexts, atMostOneLine text.toList = true := by decide +kernel
  unfold analyzeTopProducts
  cases hguard : env.guardError with
  | some e =>
    refine ⟨by simp, .inr ⟨fun h => ?_, e, rfl⟩⟩
    cases h.1.symm.trans hguard
  | none =>
    dsimp only
    cases hread : env.read.config with
    | error e =>
      rw [executeReadSqlRaw_raised u hread]
      refine ⟨by simp [ReadResult.text], .inr ⟨fun h => ?_, e, rfl⟩⟩
      cases h.2.1.symm.trans hread
    | ok =>
      obtain ⟨text, htext, hrefused⟩ :=
        executeReadSqlRaw_unscoped u hread unscoped_topProductsQuery.1
      rw [hrefused]
      simp only [ReadResult.text, hline text htext, if_true]
      cases hagain : env.again.config with
      | error e =>
        rw [executeReadSqlRaw_raised u hagain]
        refine ⟨by simp, .inr ⟨fun h => ?_, e, rfl⟩⟩
        cases h.2.2.symm.trans hagain
      | ok =>
        obtain ⟨text', htext', hrefused'⟩ :=
          executeReadSqlRaw_unscoped u hagain unscoped_topProductsQuery.2
        rw [hrefused']
        exact ⟨by simp, .inl ⟨⟨hguard, hread, hagain⟩, text', htext', rfl⟩⟩

end EcommerceAgent.Database
