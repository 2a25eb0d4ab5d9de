/-
# The tenant and shop filter

`current_data_scope_sql` of `agent/platform/db.py` and `_sql_literal` of
`agent/tools/business_metrics.py` put the tenant and the shop of the request into queries as string
literals.  Both double the quotes and leave backslashes alone, while the connections run in the mode
`TRADITIONAL`, in which a backslash escapes.  The filter compares with the ids themselves exactly if
their backslashes are harmless (`scopeFilter_iff`).
-/
import EcommerceAgent.Lib.SqlLiteral

open EcommerceAgent.Lib.SqlLiteral

namespace EcommerceAgent.Database.ScopeFilter

/-- A Python string. -/
abbrev Str := List Char

/-- The fields of `MemoryIdentity` that queries are restricted to. -/
structure MemoryIdentity where
  tenantId : Str
  shopId : Str
deriving DecidableEq, Repr

/-- The identity is complete, as all functions below require. -/
def MemoryIdentity.Trusted (identity : MemoryIdentity) : Prop :=
  identity.tenantId ≠ [] ∧ identity.shopId ≠ []

instance (identity : MemoryIdentity) : Decidable identity.Trusted :=
  inferInstanceAs (Decidable (_ ∧ _))

/-- `_escape_sql_literal`. -/
def escapeSqlLiteral (value : Str) : Str := double value

/-- `_sql_literal`. -/
def sqlLiteral (value : Str) : Str := quote :: (double value ++ [quote])

/-- `f"{alias}." if alias else ""`. -/
def aliasPrefix (tableAlias : Option Str) : Str :=
  match tableAlias with
  | some (c :: cs) => c :: cs ++ ['.']
  | _ => []

/-- `current_data_scope_sql`. -/
def currentDataScopeSql (identity : Option MemoryIdentity) (tableAlias : Option Str) : Str :=
  match identity with
  | none => []
  | some identity =>
    if identity.Trusted then
      aliasPrefix tableAlias ++ "tenant_id = '".toList ++ escapeSqlLiteral identity.tenantId ++
        "' AND ".toList ++ aliasPrefix tableAlias ++ "shop_id = '".toList ++
        escapeSqlLiteral identity.shopId ++ ['\'']
    else []

/-- The condition of `query_shop_profile`. -/
def shopProfileCondition (identity : MemoryIdentity) : Str :=
  "gs.tenant_id = ".toList ++ sqlLiteral identity.tenantId ++ " AND gs.id = ".toList ++
    sqlLiteral identity.shopId

/-! ### What is claimed -/

/-- Whatever the query goes on with, the server reads the text as `before`, a literal of the tenant,
`between`, and a literal of the shop. -/
def ReadsAs (before between text : Str) (identity : MemoryIdentity) : Prop :=
  ∀ rest : Str, rest.head? ≠ some quote → ∃ fromTenant fromShop,
    text ++ rest = before ++ fromTenant ∧
      readLiteral true fromTenant = some (identity.tenantId, between ++ fromShop) ∧
      readLiteral true fromShop = some (identity.shopId, rest)

/-- The filter of the scope compares with the identity. -/
def ScopeReads (identity : MemoryIdentity) (tableAlias : Option Str) : Prop :=
  ReadsAs (aliasPrefix tableAlias ++ "tenant_id = ".toList)
    (" AND ".toList ++ aliasPrefix tableAlias ++ "shop_id = ".toList)
    (currentDataScopeSql (some identity) tableAlias) identity

/-- The condition of the shop profile compares with the identity. -/
def ProfileReads (identity : MemoryIdentity) : Prop :=
  ReadsAs "gs.tenant_id = ".toList " AND gs.id = ".toList (shopProfileCondition identity) identity

/-- The ids in a query stay data, and the filters of two identities differ. -/
structure StaysData : Prop where
  scope : ∀ identity tableAlias, identity.Trusted → ScopeReads identity tableAlias
  profile : ∀ identity, identity.Trusted → ProfileReads identity
  scope_ne : ∀ identity identity' tableAlias, identity.Trusted → identity'.Trusted →
    identity ≠ identity' →
      currentDataScopeSql (some identity) tableAlias ≠
        currentDataScopeSql (some identity') tableAlias
  profile_ne : ∀ identity identity', identity.Trusted → identity'.Trusted → identity ≠ identity' →
    shopProfileCondition identity ≠ shopProfileCondition identity'

/-- Every backslash in the ids stands before `%` or `_`. -/
def Harmless (identity : MemoryIdentity) : Prop :=
  PlainBackslashes identity.tenantId ∧ PlainBackslashes identity.shopId

/-! ### Two literals in a text -/

/-- Two literals with text before and between them. -/
def twoLiterals (before between : Str) (identity : MemoryIdentity) : Str :=
  before ++ (quoted identity.tenantId ++ (between ++ quoted identity.shopId))

lemma currentDataScopeSql_eq {identity : MemoryIdentity} (h : identity.Trusted)
    (tableAlias : Option Str) : currentDataScopeSql (some identity) tableAlias =
      twoLiterals (aliasPrefix tableAlias ++ "tenant_id = ".toList)
        (" AND ".toList ++ aliasPrefix tableAlias ++ "shop_id = ".toList) identity := by
  have hand : "' AND ".toList = '\'' :: " AND ".toList := rfl
  have htenant : "tenant_id = '".toList = "tenant_id = ".toList ++ ['\''] := rfl
  have hshop : "shop_id = '".toList = "shop_id = ".toList ++ ['\''] := rfl
  rw [currentDataScopeSql, if_pos h, hand, htenant, hshop]
  simp only [twoLiterals, quoted, escapeSqlLiteral, quote, List.append_assoc, List.cons_append,
    List.nil_append]

lemma shopProfileCondition_eq (identity : MemoryIdentity) : shopProfileCondition identity =
    twoLiterals "gs.tenant_id = ".toList " AND gs.id = ".toList identity := by
  have hassoc : ∀ a b c d : Str, a ++ b ++ c ++ d = a ++ (b ++ (c ++ d)) := by simp
  exact hassoc _ _ _ _

variable {before between : Str} {identity identity' : MemoryIdentity}

/-- The text behind a literal does not begin with a quote. -/
lemma head?_between {text : Str} (hbetween : between.head? ≠ some quote) (hne : between ≠ []) :
    (between ++ text).head? ≠ some quote := by
  obtain ⟨c, rest, rfl⟩ := List.exists_cons_of_ne_nil hne
  exact hbetween

/-- Both literals are read back exactly if all backslashes are harmless. -/
lemma readsAs_twoLiterals_iff (hbetween : between.head? ≠ some quote) (hne : between ≠ []) :
    ReadsAs before between (twoLiterals before between identity) identity ↔ Harmless identity := by
  constructor
  · intro h
    obtain ⟨fromTenant, fromShop, htext, htenant, hshop⟩ := h [] (by simp)
    rw [twoLiterals, List.append_assoc, List.append_assoc] at htext
    rw [← List.append_cancel_left htext, List.append_assoc,
      readLiteral_quoted_iff (head?_between hbetween hne)] at htenant
    obtain ⟨hplain, heq⟩ := htenant
    rw [List.append_cancel_left heq, readLiteral_quoted_iff (by simp)] at hshop
    exact ⟨hplain, hshop.1⟩
  · rintro ⟨htenant, hshop⟩ rest hrest
    refine ⟨quoted identity.tenantId ++ (between ++ (quoted identity.shopId ++ rest)),
      quoted identity.shopId ++ rest, ?_, ?_, ?_⟩
    · simp [twoLiterals]
    · exact (readLiteral_quoted_iff (head?_between hbetween hne)).mpr ⟨htenant, rfl⟩
    · exact (readLiteral_quoted_iff hrest).mpr ⟨hshop, rfl⟩

/-- The text determines the identity: a server without escapes reads it back. -/
lemma twoLiterals_injective (hbetween : between.head? ≠ some quote) (hne : between ≠ [])
    (h : twoLiterals before between identity = twoLiterals before between identity') :
    identity = identity' := by
  have htail := List.append_cancel_left h
  have hread : ∀ identity : MemoryIdentity,
      readLiteral false (quoted identity.tenantId ++ (between ++ quoted identity.shopId)) =
        some (identity.tenantId, between ++ quoted identity.shopId) :=
    fun _ => readLiteral_quoted (head?_between hbetween hne)
  have hread' := hread identity'
  specialize hread identity
  rw [htail, hread'] at hread
  obtain ⟨htenant, hrest⟩ := Prod.mk.inj (Option.some.inj hread)
  have hshop := quoted_injective (List.append_cancel_left hrest)
  cases identity
  cases identity'
  exact congrArg₂ MemoryIdentity.mk htenant.symm hshop.symm

/-- The ids that a query is restricted to are read as they are exactly if their backslashes are
harmless; two identities never have the same filter. -/
theorem scopeFilter_iff (identity : MemoryIdentity) (h : identity.Trusted) :
    (∀ tableAlias, ScopeReads identity tableAlias ↔ Harmless identity) ∧
      (ProfileReads identity ↔ Harmless identity) ∧
      ∀ identity' : MemoryIdentity, identity'.Trusted → identity ≠ identity' →
        (∀ tableAlias, currentDataScopeSql (some identity) tableAlias ≠
          currentDataScopeSql (some identity') tableAlias) ∧
        shopProfileCondition identity ≠ shopProfileCondition identity' := by
  refine ⟨fun tableAlias => ?_, ?_, fun identity' h' hne =>
    ⟨fun tableAlias heq => ?_, fun heq => ?_⟩⟩
  · rw [ScopeReads, currentDataScopeSql_eq h]
    exact readsAs_twoLiterals_iff (by simp [quote]) (by simp)
  · rw [ProfileReads, shopProfileCondition_eq]
    exact readsAs_twoLiterals_iff (by decide) (by decide)
  · rw [currentDataScopeSql_eq h, currentDataScopeSql_eq h'] at heq
    exact hne (twoLiterals_injective (by simp [quote]) (by simp) heq)
  · rw [shopProfileCondition_eq, shopProfileCondition_eq] at heq
    exact hne (twoLiterals_injective (by decide) (by decide) heq)

/-- A shop id with a quote and a backslash before `%` is read as it is. -/
theorem scopeReads_plain : ScopeReads ⟨['t'], ['s', quote, backslash, '%']⟩ none := by
  have hiff := scopeFilter_iff ⟨['t'], ['s', quote, backslash, '%']⟩ ⟨by decide, by decide⟩
  exact (hiff.1 none).mpr ⟨by decide, by decide⟩

/-- A shop id that ends with a backslash takes the quote behind it. -/
theorem not_staysData_backslash : ¬ StaysData := by
  intro h
  have hreads := h.profile ⟨['t'], ['s', backslash]⟩ ⟨by decide, by decide⟩
  obtain ⟨fromTenant, fromShop, htext, htenant, hshop⟩ := hreads [] (by simp)
  rw [shopProfileCondition_eq, twoLiterals, List.append_assoc] at htext
  have hread : readLiteral true fromTenant =
      some (['t'], " AND gs.id = ".toList ++ ['\'', 's', backslash, '\'']) := by
    rw [← List.append_cancel_left htext]
    decide
  rw [hread] at htenant
  have hfromShop := List.append_cancel_left (congrArg Prod.snd (Option.some.inj htenant))
  rw [← hfromShop] at hshop
  exact absurd hshop (by decide)

end EcommerceAgent.Database.ScopeFilter
