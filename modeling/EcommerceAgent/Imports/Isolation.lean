/-
# Imports of different shops

The primary keys of the business tables do not contain the tenant: rows of different shops are kept
apart only by the prefix in their ids.  Every table after a series of imports is one batch of
upserts, and the shops are independent of each other exactly when no two of them derive the same key
(`Schema.filter_upsertAll_iff`).
-/
import EcommerceAgent.Imports.Importer

open EcommerceAgent.Lib

namespace EcommerceAgent.Imports

/-- An import of a shop. -/
structure Import where
  scope : Scope
  now : ℤ
  rows : List UploadRow

/-- The tables after a series of imports into empty tables. -/
def Library.runImports (lib : Library) (imports : List Import) : Database :=
  imports.foldl (fun db i => lib.importRows i.scope i.now i.rows db) .empty

/-- The rows of a shop. -/
def Database.of (db : Database) (scope : Scope) : Database where
  customers := db.customers.filter (·.scope = scope)
  sellers := db.sellers.filter (·.scope = scope)
  products := db.products.filter (·.scope = scope)
  inventory := db.inventory.filter (·.scope = scope)
  orders := db.orders.filter (·.scope = scope)
  orderItems := db.orderItems.filter (·.scope = scope)
  payments := db.payments.filter (·.scope = scope)
  traffic := db.traffic.filter (·.scope = scope)
  campaigns := db.campaigns.filter (·.scope = scope)
  campaignStats := db.campaignStats.filter (·.scope = scope)
  refunds := db.refunds.filter (·.scope = scope)

variable (lib : Library)

/-- The rows of every shop are the same as if the imports of the other shops had not happened. -/
def Isolated (imports : List Import) : Prop :=
  ∀ scope, (lib.runImports imports).of scope =
    (lib.runImports (imports.filter (·.scope = scope))).of scope

/-- The lines of an import. -/
def Import.lines (i : Import) : List Line := lib.lines i.scope i.now i.rows

/-- The entries of an import. -/
def Import.batch (i : Import) : Batch := lib.batch i.scope i.now i.rows

/-- Within a shop, cleaned ids that differ give keys that differ. -/
def DistinctKeys (imports : List Import) (key : Line → Str) (sourceId : ℕ → UploadRow → Str) :
    Prop :=
  ∀ i ∈ imports, ∀ j ∈ imports, i.scope = j.scope → ∀ l ∈ i.lines lib, ∀ m ∈ j.lines lib,
    sourceId l.index l.row ≠ sourceId m.index m.row → lib.collate (key l) ≠ lib.collate (key m)

/-- Imports never touch rows of another shop, and within a shop they keep different orders,
customers and products apart. -/
structure NeverTouch (imports : List Import) : Prop where
  isolated : Isolated lib imports
  orders : DistinctKeys lib imports Line.orderId lib.sourceOrderId
  customers : DistinctKeys lib imports Line.customerId lib.sourceCustomerId
  products : DistinctKeys lib imports Line.productId lib.sourceProductId

/-- Lines with equal keys are lines of the same shop. -/
def Separates (imports : List Import) (key : Scope → Line → Str) (applies : Line → Prop) : Prop :=
  ∀ i ∈ imports, ∀ j ∈ imports, ∀ l ∈ i.lines lib, ∀ m ∈ j.lines lib, applies l → applies m →
    lib.collate (key i.scope l) = lib.collate (key j.scope m) → i.scope = j.scope

/-- What the ids of the imports have to fulfil: ids with their prefix that agree in their first 64
characters come from the same shop and the same cleaned id, and so do the keys that are made
otherwise. -/
structure KeysApart (imports : List Import) : Prop where
  orders : ∀ i ∈ imports, ∀ j ∈ imports, ∀ l ∈ i.lines lib, ∀ m ∈ j.lines lib,
    lib.collate l.orderId = lib.collate m.orderId →
      i.scope = j.scope ∧ lib.sourceOrderId l.index l.row = lib.sourceOrderId m.index m.row
  customers : ∀ i ∈ imports, ∀ j ∈ imports, ∀ l ∈ i.lines lib, ∀ m ∈ j.lines lib,
    lib.collate l.customerId = lib.collate m.customerId →
      i.scope = j.scope ∧ lib.sourceCustomerId l.index l.row = lib.sourceCustomerId m.index m.row
  products : ∀ i ∈ imports, ∀ j ∈ imports, ∀ l ∈ i.lines lib, ∀ m ∈ j.lines lib,
    lib.collate l.productId = lib.collate m.productId →
      i.scope = j.scope ∧ lib.sourceProductId l.index l.row = lib.sourceProductId m.index m.row
  sellers : Separates lib imports (fun scope _ => lib.sellerId scope) fun _ => True
  campaigns : Separates lib imports (fun _ l => l.campaignId) fun _ => True
  refunds : Separates lib imports (fun scope l => lib.refundId scope l.index) fun l =>
    lib.refunded l.row = true

variable {lib}

/-! ### One table after a series of imports -/

/-- A table after a series of imports is filled by the entries of all imports. -/
lemma runImports_table {ρ κ : Type} [DecidableEq κ] {S : Schema ρ κ} {table : Database → List ρ}
    {entries : Batch → List ρ}
    (htable : ∀ db b, table (db.write lib b) = S.upsertAll (entries b) (table db))
    (hempty : table .empty = []) (imports : List Import) :
    table (lib.runImports imports) =
      S.upsertAll (imports.flatMap fun i => entries (i.batch lib)) [] := by
  have hfold : ∀ db, table (imports.foldl
      (fun db i => lib.importRows i.scope i.now i.rows db) db) =
        S.upsertAll (imports.flatMap fun i => entries (i.batch lib)) (table db) := by
    intro db
    induction imports generalizing db with
    | nil => rfl
    | cons i imports ih =>
      rw [List.foldl_cons, ih, List.flatMap_cons, Schema.upsertAll_append, Library.importRows,
        htable]
      rfl
  rw [Library.runImports, hfold, hempty]

/-- The entries of a shop are those of its imports. -/
lemma flatMap_filter_scope {ρ : Type} {scopeOf : ρ → Scope} {entries : Import → List ρ}
    (hscope : ∀ i, ∀ r ∈ entries i, scopeOf r = i.scope) (imports : List Import) (scope : Scope) :
    (imports.filter (·.scope = scope)).flatMap entries =
      (imports.flatMap entries).filter (scopeOf · = scope) := by
  induction imports with
  | nil => rfl
  | cons i imports ih =>
    rw [List.flatMap_cons, List.filter_append, ← ih]
    by_cases hi : i.scope = scope
    · have hall : (entries i).filter (scopeOf · = scope) = entries i :=
        List.filter_eq_self.mpr fun r hr => by simpa using (hscope i r hr).trans hi
      rw [List.filter_cons_of_pos (by simpa using hi), List.flatMap_cons, hall]
    · have hnone : (entries i).filter (scopeOf · = scope) = [] :=
        List.filter_eq_nil_iff.mpr fun r hr => by simpa [hscope i r hr] using hi
      rw [List.filter_cons_of_neg (by simpa using hi), hnone, List.nil_append]

/-- In one table, the rows of every shop are independent of the other shops. -/
def TableIsolated (lib : Library) (imports : List Import) {ρ : Type} (table : Database → List ρ)
    (scopeOf : ρ → Scope) : Prop :=
  ∀ scope, (table (lib.runImports imports)).filter (scopeOf · = scope) =
    (table (lib.runImports (imports.filter (·.scope = scope)))).filter (scopeOf · = scope)

/-- In one table, the rows of every shop are independent of the other shops exactly when entries
with the same key belong to imports of the same shop. -/
lemma tableIsolated_iff {ρ κ : Type} [DecidableEq κ] {S : Schema ρ κ} {table : Database → List ρ}
    {entries : Batch → List ρ} {scopeOf : ρ → Scope}
    (htable : ∀ db b, table (db.write lib b) = S.upsertAll (entries b) (table db))
    (hempty : table .empty = []) (hupdate : ∀ old new, scopeOf (S.update old new) = scopeOf old)
    (hscope : ∀ i : Import, ∀ r ∈ entries (i.batch lib), scopeOf r = i.scope)
    (imports : List Import) : TableIsolated lib imports table scopeOf ↔
    ∀ i ∈ imports, ∀ j ∈ imports, ∀ x ∈ entries (i.batch lib), ∀ y ∈ entries (j.batch lib),
      S.key x = S.key y → i.scope = j.scope := by
  have hown : ∀ scope, (table (lib.runImports (imports.filter (·.scope = scope)))).filter
      (scopeOf · = scope) = S.upsertAll
        ((imports.flatMap fun i => entries (i.batch lib)).filter (scopeOf · = scope)) [] := by
    intro scope
    rw [runImports_table htable hempty, flatMap_filter_scope hscope]
    have hone : ∀ x ∈ (imports.flatMap fun i => entries (i.batch lib)).filter
        (scopeOf · = scope), scopeOf x = scope := fun x hx => by
      simpa using (List.mem_filter.mp hx).2
    rw [Schema.filter_upsertAll hupdate (fun x hx => by cases hx)
      fun x hx y hy _ => (hone x hx).trans (hone y hy).symm]
    rw [List.filter_filter]
    simp
  simp only [TableIsolated, hown]
  rw [runImports_table htable hempty]
  rw [Schema.filter_upsertAll_iff hupdate]
  constructor
  · intro h i hi j hj x hx y hy hkey
    rw [← hscope i x hx, ← hscope j y hy]
    exact h x (List.mem_flatMap.mpr ⟨i, hi, hx⟩) y (List.mem_flatMap.mpr ⟨j, hj, hy⟩) hkey
  · intro h x hx y hy hkey
    obtain ⟨i, hi, hxi⟩ := List.mem_flatMap.mp hx
    obtain ⟨j, hj, hyj⟩ := List.mem_flatMap.mp hy
    rw [hscope i x hxi, hscope j y hyj]
    exact h i hi j hj x hxi y hyj hkey

/-! ### From entries to lines -/

/-- The entries of an import have the keys of its lines to which the table applies. -/
structure KeysOfLines (lib : Library) {ρ κ : Type} (entries : Import → List ρ) (key : ρ → κ)
    (keyOf : Scope → Line → κ) (applies : Line → Prop) : Prop where
  sound : ∀ i, ∀ x ∈ entries i, ∃ l ∈ i.lines lib, applies l ∧ key x = keyOf i.scope l
  complete : ∀ i, ∀ l ∈ i.lines lib, applies l → ∃ x ∈ entries i, key x = keyOf i.scope l

lemma KeysOfLines.iff {ρ κ : Type} {entries : Import → List ρ} {key : ρ → κ}
    {keyOf : Scope → Line → κ} {text : Scope → Line → Str} {applies : Line → Prop}
    (h : KeysOfLines lib entries key keyOf applies)
    (htext : ∀ s t l m, keyOf s l = keyOf t m ↔ lib.collate (text s l) = lib.collate (text t m))
    (imports : List Import) :
    (∀ i ∈ imports, ∀ j ∈ imports, ∀ x ∈ entries i, ∀ y ∈ entries j, key x = key y →
      i.scope = j.scope) ↔ Separates lib imports text applies := by
  constructor
  · intro hall i hi j hj l hl m hm hal ham heq
    obtain ⟨x, hx, hxl⟩ := h.complete i l hl hal
    obtain ⟨y, hy, hym⟩ := h.complete j m hm ham
    exact hall i hi j hj x hx y hy (hxl.trans (((htext _ _ _ _).mpr heq).trans hym.symm))
  · intro hsep i hi j hj x hx y hy heq
    obtain ⟨l, hl, hal, hxl⟩ := h.sound i x hx
    obtain ⟨m, hm, ham, hym⟩ := h.sound j y hy
    exact hsep i hi j hj l hl m hm hal ham
      ((htext _ _ _ _).mp (hxl.symm.trans (heq.trans hym)))

/-- A list gets an entry for every line. -/
lemma keysOfLines_map {ρ κ : Type} (entry : Scope → Line → ρ) (key : ρ → κ) :
    KeysOfLines lib (fun i => (i.lines lib).map (entry i.scope)) key
      (fun s l => key (entry s l)) fun _ => True where
  sound i x hx := by
    obtain ⟨l, hl, rfl⟩ := List.mem_map.mp hx
    exact ⟨l, hl, trivial, rfl⟩
  complete i l hl _ := ⟨_, List.mem_map_of_mem hl, rfl⟩

/-- A dictionary whose own keys determine those of the table gets an entry for every key. -/
lemma keysOfLines_dict {ρ κ δ : Type} [DecidableEq δ] (entry : Import → Line → ρ) (key : ρ → κ)
    (dictKey : ρ → δ) (hdict : ∀ x y, dictKey x = dictKey y → key x = key y)
    (keyOf : Scope → Line → κ) (hkey : ∀ i l, key (entry i l) = keyOf i.scope l) :
    KeysOfLines lib (fun i => dictValues dictKey ((i.lines lib).map (entry i))) key keyOf
      fun _ => True where
  sound i x hx := by
    obtain ⟨l, hl, rfl⟩ := List.mem_map.mp (mem_of_mem_dictValues hx)
    exact ⟨l, hl, trivial, hkey i l⟩
  complete i l hl _ := by
    obtain ⟨x, hx, hxl⟩ := exists_mem_dictValues dictKey (List.mem_map_of_mem hl)
    exact ⟨x, hx, (hdict _ _ hxl).trans (hkey i l)⟩

/-- The refunds are those of the lines with a refund flag. -/
lemma keysOfLines_refunds : KeysOfLines lib (fun i => (i.batch lib).refunds) lib.refunds.key
    (fun s l => lib.collate (lib.refundId s l.index)) fun l => lib.refunded l.row = true where
  sound i x hx := by
    obtain ⟨l, hl, rfl⟩ := List.mem_map.mp hx
    obtain ⟨hmem, hflag⟩ := List.mem_filter.mp hl
    exact ⟨l, hmem, hflag, rfl⟩
  complete i l hl hflag := ⟨_, List.mem_map_of_mem (List.mem_filter.mpr ⟨hl, hflag⟩), rfl⟩

lemma lines_eq_nil {i : Import} : i.lines lib = [] ↔ i.rows = [] := by
  rw [Import.lines, Library.lines, List.map_eq_nil_iff, List.zipIdx_eq_nil_iff]

/-- There is a seller when there are lines. -/
lemma keysOfLines_sellers : KeysOfLines lib (fun i => (i.batch lib).sellers) lib.sellers.key
    (fun s _ => lib.collate (lib.sellerId s)) fun _ => True where
  sound i x hx := by
    simp only [Import.batch, Library.batch] at hx
    by_cases hrows : i.rows = []
    · rw [if_pos hrows] at hx
      cases hx
    · rw [if_neg hrows] at hx
      obtain rfl := List.mem_singleton.mp hx
      obtain ⟨l, hl⟩ := List.exists_mem_of_ne_nil _ (mt lines_eq_nil.mp hrows)
      exact ⟨l, hl, trivial, rfl⟩
  complete i l hl _ := by
    have hrows : i.rows ≠ [] := fun h => by
      rw [lines_eq_nil.mpr h] at hl
      cases hl
    refine ⟨⟨i.scope, lib.sellerId i.scope⟩, ?_, rfl⟩
    simp only [Import.batch, Library.batch, if_neg hrows]
    exact List.mem_singleton_self _

/-! ### All tables -/

lemma scope_of_mem_map {ρ : Type} (entry : Line → ρ) (scopeOf : ρ → Scope) {scope : Scope}
    (h : ∀ l, scopeOf (entry l) = scope) {lines : List Line} :
    ∀ r ∈ lines.map entry, scopeOf r = scope := by
  intro r hr
  obtain ⟨l, -, rfl⟩ := List.mem_map.mp hr
  exact h l

lemma scope_of_mem_dict {ρ δ : Type} [DecidableEq δ] {dictKey : ρ → δ} (entry : Line → ρ)
    (scopeOf : ρ → Scope) {scope : Scope} (h : ∀ l, scopeOf (entry l) = scope)
    {lines : List Line} : ∀ r ∈ dictValues dictKey (lines.map entry), scopeOf r = scope :=
  fun r hr => scope_of_mem_map entry scopeOf h r (mem_of_mem_dictValues hr)

section Tables

variable (imports : List Import)

lemma sellers_isolated : TableIsolated lib imports Database.sellers Seller.scope ↔
    Separates lib imports (fun scope _ => lib.sellerId scope) fun _ => True := by
  refine (tableIsolated_iff (fun _ _ => rfl) rfl (fun _ _ => rfl) ?_ imports).trans
    (keysOfLines_sellers.iff (fun _ _ _ _ => Iff.rfl) imports)
  intro i r hr
  obtain ⟨l, hl, -, -⟩ := keysOfLines_sellers.sound i r hr
  have hrows : i.rows ≠ [] := fun h => by
    rw [lines_eq_nil.mpr h] at hl
    cases hl
  simp only [Import.batch, Library.batch, if_neg hrows] at hr
  rw [List.mem_singleton.mp hr]

lemma customers_isolated : TableIsolated lib imports Database.customers Customer.scope ↔
    Separates lib imports (fun _ l => l.customerId) fun _ => True :=
  (tableIsolated_iff (fun _ _ => rfl) rfl (fun _ _ => rfl)
    (fun i => scope_of_mem_dict (Library.customerOf i.scope) Customer.scope fun _ => rfl)
      imports).trans
    ((keysOfLines_dict (fun i => Library.customerOf i.scope) lib.customers.key Customer.customerId
      (fun _ _ h => congrArg lib.collate h)
      (fun _ l => lib.collate l.customerId) fun _ _ => rfl).iff (fun _ _ _ _ => Iff.rfl) imports)

lemma products_isolated : TableIsolated lib imports Database.products Product.scope ↔
    Separates lib imports (fun _ l => l.productId) fun _ => True :=
  (tableIsolated_iff (fun _ _ => rfl) rfl (fun _ _ => rfl)
    (fun i => scope_of_mem_dict (Library.productOf i.scope) Product.scope fun _ => rfl)
      imports).trans
    ((keysOfLines_dict (fun i => Library.productOf i.scope) lib.products.key Product.productId
      (fun _ _ h => congrArg lib.collate h)
      (fun _ l => lib.collate l.productId) fun _ _ => rfl).iff (fun _ _ _ _ => Iff.rfl) imports)

lemma inventory_isolated : TableIsolated lib imports Database.inventory Inventory.scope ↔
    Separates lib imports (fun _ l => l.productId) fun _ => True :=
  (tableIsolated_iff (fun _ _ => rfl) rfl (fun _ _ => rfl)
    (fun i => scope_of_mem_dict (lib.inventoryOf i.scope i.now) Inventory.scope fun _ => rfl)
      imports).trans
    ((keysOfLines_dict (fun i => lib.inventoryOf i.scope i.now) lib.inventory.key
      Inventory.productId (fun _ _ h => congrArg lib.collate h)
      (fun _ l => lib.collate l.productId) fun _ _ => rfl).iff (fun _ _ _ _ => Iff.rfl) imports)

lemma orders_isolated : TableIsolated lib imports Database.orders Order.scope ↔
    Separates lib imports (fun _ l => l.orderId) fun _ => True :=
  (tableIsolated_iff (fun _ _ => rfl) rfl (fun _ _ => rfl)
    (fun i => scope_of_mem_map (Library.orderOf i.scope) Order.scope fun _ => rfl) imports).trans
    ((keysOfLines_map Library.orderOf lib.orders.key).iff (fun _ _ _ _ => Iff.rfl) imports)

lemma orderItems_isolated : TableIsolated lib imports Database.orderItems OrderItem.scope ↔
    Separates lib imports (fun _ l => l.orderId) fun _ => True :=
  (tableIsolated_iff (fun _ _ => rfl) rfl (fun _ _ => rfl)
    (fun i => scope_of_mem_map (lib.orderItemOf i.scope) OrderItem.scope fun _ => rfl)
      imports).trans
    ((keysOfLines_map lib.orderItemOf lib.orderItems.key).iff
      (fun _ _ _ _ => Prod.mk_inj.trans (and_iff_left rfl)) imports)

lemma payments_isolated : TableIsolated lib imports Database.payments Payment.scope ↔
    Separates lib imports (fun _ l => l.orderId) fun _ => True :=
  (tableIsolated_iff (fun _ _ => rfl) rfl (fun _ _ => rfl)
    (fun i => scope_of_mem_map (Library.paymentOf i.scope) Payment.scope fun _ => rfl)
      imports).trans
    ((keysOfLines_map Library.paymentOf lib.payments.key).iff
      (fun _ _ _ _ => Prod.mk_inj.trans (and_iff_left rfl)) imports)

lemma campaigns_isolated : TableIsolated lib imports Database.campaigns Campaign.scope ↔
    Separates lib imports (fun _ l => l.campaignId) fun _ => True :=
  (tableIsolated_iff (fun _ _ => rfl) rfl (fun _ _ => rfl)
    (fun i => scope_of_mem_dict (lib.campaignOf i.scope) Campaign.scope fun _ => rfl) imports).trans
    ((keysOfLines_dict (fun i => lib.campaignOf i.scope) lib.campaigns.key Campaign.campaignId
      (fun _ _ h => congrArg lib.collate h)
      (fun _ l => lib.collate l.campaignId) fun _ _ => rfl).iff (fun _ _ _ _ => Iff.rfl) imports)

/-- The statistics have the key of their campaign as a part of theirs. -/
lemma campaignStats_isolated
    (h : Separates lib imports (fun _ l => l.campaignId) fun _ => True) :
    TableIsolated lib imports Database.campaignStats CampaignStat.scope := by
  refine (tableIsolated_iff (fun _ _ => rfl) rfl (fun _ _ => rfl)
    (fun i => scope_of_mem_dict (lib.campaignStatOf i.scope) CampaignStat.scope fun _ => rfl)
      imports).mpr ?_
  intro i hi j hj x hx y hy heq
  obtain ⟨l, hl, rfl⟩ := List.mem_map.mp (mem_of_mem_dictValues hx)
  obtain ⟨m, hm, rfl⟩ := List.mem_map.mp (mem_of_mem_dictValues hy)
  exact h i hi j hj l hl m hm trivial trivial (Prod.mk_inj.mp heq).1

lemma refunds_isolated : TableIsolated lib imports Database.refunds Refund.scope ↔
    Separates lib imports (fun scope l => lib.refundId scope l.index)
      fun l => lib.refunded l.row = true :=
  (tableIsolated_iff (fun _ _ => rfl) rfl (fun _ _ => rfl)
    (fun i => scope_of_mem_map (lib.refundOf i.scope) Refund.scope fun _ => rfl) imports).trans
    (keysOfLines_refunds.iff (fun _ _ _ _ => Iff.rfl) imports)

/-- `traffic_stats` has no key that an import could meet. -/
lemma traffic_isolated : TableIsolated lib imports Database.traffic Traffic.scope := by
  have htable : ∀ (is : List Import) db, (is.foldl
      (fun db i => lib.importRows i.scope i.now i.rows db) db).traffic =
        db.traffic ++ is.flatMap fun i => (i.batch lib).traffic := by
    intro is
    induction is with
    | nil => simp
    | cons i is ih =>
      intro db
      rw [List.foldl_cons, ih, List.flatMap_cons, ← List.append_assoc]
      rfl
  have hscope : ∀ i : Import, ∀ r ∈ (i.batch lib).traffic, r.scope = i.scope :=
    fun i => scope_of_mem_map (lib.trafficOf i.scope) Traffic.scope fun _ => rfl
  intro scope
  rw [Library.runImports, Library.runImports, htable, htable, flatMap_filter_scope hscope]
  simp [Database.empty]

/-- The shops are independent of each other exactly when the keys of each kind belong to one
shop. -/
theorem isolated_iff : Isolated lib imports ↔
    Separates lib imports (fun scope _ => lib.sellerId scope) (fun _ => True) ∧
    Separates lib imports (fun _ l => l.customerId) (fun _ => True) ∧
    Separates lib imports (fun _ l => l.productId) (fun _ => True) ∧
    Separates lib imports (fun _ l => l.orderId) (fun _ => True) ∧
    Separates lib imports (fun _ l => l.campaignId) (fun _ => True) ∧
    Separates lib imports (fun scope l => lib.refundId scope l.index)
      (fun l => lib.refunded l.row = true) := by
  constructor
  · intro h
    refine ⟨(sellers_isolated imports).mp fun scope => congrArg Database.sellers (h scope),
      (customers_isolated imports).mp fun scope => congrArg Database.customers (h scope),
      (products_isolated imports).mp fun scope => congrArg Database.products (h scope),
      (orders_isolated imports).mp fun scope => congrArg Database.orders (h scope),
      (campaigns_isolated imports).mp fun scope => congrArg Database.campaigns (h scope),
      (refunds_isolated imports).mp fun scope => congrArg Database.refunds (h scope)⟩
  · rintro ⟨hsellers, hcustomers, hproducts, horders, hcampaigns, hrefunds⟩ scope
    refine Database.ext ?_ ?_ ?_ ?_ ?_ ?_ ?_ ?_ ?_ ?_ ?_
    · exact (customers_isolated imports).mpr hcustomers scope
    · exact (sellers_isolated imports).mpr hsellers scope
    · exact (products_isolated imports).mpr hproducts scope
    · exact (inventory_isolated imports).mpr hproducts scope
    · exact (orders_isolated imports).mpr horders scope
    · exact (orderItems_isolated imports).mpr horders scope
    · exact (payments_isolated imports).mpr horders scope
    · exact traffic_isolated imports scope
    · exact (campaigns_isolated imports).mpr hcampaigns scope
    · exact campaignStats_isolated imports hcampaigns scope
    · exact (refunds_isolated imports).mpr hrefunds scope

end Tables

/-- Imports never touch rows of another shop, and keep the orders, customers and products of a shop
apart, exactly when the keys they derive are apart. -/
theorem neverTouch_iff (lib : Library) (imports : List Import) :
    NeverTouch lib imports ↔ KeysApart lib imports := by
  constructor
  · rintro ⟨hisolated, horders, hcustomers, hproducts⟩
    obtain ⟨hsellers, hsepCustomers, hsepProducts, hsepOrders, hcampaigns, hrefunds⟩ :=
      (isolated_iff imports).mp hisolated
    refine ⟨?_, ?_, ?_, hsellers, hcampaigns, hrefunds⟩
    · intro i hi j hj l hl m hm heq
      have hscope := hsepOrders i hi j hj l hl m hm trivial trivial heq
      exact ⟨hscope, by_contra fun hne => horders i hi j hj hscope l hl m hm hne heq⟩
    · intro i hi j hj l hl m hm heq
      have hscope := hsepCustomers i hi j hj l hl m hm trivial trivial heq
      exact ⟨hscope, by_contra fun hne => hcustomers i hi j hj hscope l hl m hm hne heq⟩
    · intro i hi j hj l hl m hm heq
      have hscope := hsepProducts i hi j hj l hl m hm trivial trivial heq
      exact ⟨hscope, by_contra fun hne => hproducts i hi j hj hscope l hl m hm hne heq⟩
  · rintro ⟨horders, hcustomers, hproducts, hsellers, hcampaigns, hrefunds⟩
    refine ⟨(isolated_iff imports).mpr ⟨hsellers, ?_, ?_, ?_, hcampaigns, hrefunds⟩, ?_, ?_, ?_⟩
    · exact fun i hi j hj l hl m hm _ _ heq => (hcustomers i hi j hj l hl m hm heq).1
    · exact fun i hi j hj l hl m hm _ _ heq => (hproducts i hi j hj l hl m hm heq).1
    · exact fun i hi j hj l hl m hm _ _ heq => (horders i hi j hj l hl m hm heq).1
    · exact fun i hi j hj _ l hl m hm hne heq => hne (horders i hi j hj l hl m hm heq).2
    · exact fun i hi j hj _ l hl m hm hne heq => hne (hcustomers i hi j hj l hl m hm heq).2
    · exact fun i hi j hj _ l hl m hm hne heq => hne (hproducts i hi j hj l hl m hm heq).2

/-- The order `x_1` of the shop `s` and the order `1` of the shop `s_x` have the same key. -/
theorem shops_meet : ¬ NeverTouch .sample
    [⟨sampleScope, 0, [sampleRow "x_1" "a" "10"]⟩,
      ⟨⟨"t".toList, "s_x".toList⟩, 0, [sampleRow "1" "a" "20"]⟩] := by
  intro h
  have horders := congrArg Database.orders (h.isolated ⟨"t".toList, "s_x".toList⟩)
  revert horders
  decide +kernel

/-! ### When prefixed ids can meet -/

/-- Ids of two shops can meet exactly when the prefix of one, with the underscore behind it, begins
the prefix of the other. -/
theorem scopedId_meet_iff (lib : Library) (s t : Scope) :
    (∃ a b, lib.scopedId s a = lib.scopedId t b) ↔
      lib.scopePrefix s ++ ['_'] <+: lib.scopePrefix t ++ ['_'] ∨
      lib.scopePrefix t ++ ['_'] <+: lib.scopePrefix s ++ ['_'] := by
  have hbegins : ∀ (scope : Scope) a,
      lib.scopePrefix scope ++ ['_'] <+: lib.scopedId scope a := by
    intro scope a
    have hlength := scopePrefix_length lib scope
    refine List.prefix_take_iff.mpr ⟨⟨a, by simp⟩, ?_⟩
    rw [List.length_append, List.length_singleton]
    omega
  have hmeet : ∀ (s t : Scope), lib.scopePrefix s ++ ['_'] <+: lib.scopePrefix t ++ ['_'] →
      ∃ a b, lib.scopedId s a = lib.scopedId t b := by
    rintro s t ⟨rest, hrest⟩
    refine ⟨rest, [], ?_⟩
    rw [Library.scopedId, Library.scopedId, ← hrest, List.append_assoc, List.singleton_append]
  constructor
  · rintro ⟨a, b, heq⟩
    exact List.prefix_or_prefix_of_prefix (hbegins s a) (heq ▸ hbegins t b)
  · rintro (h | h)
    · exact hmeet s t h
    · obtain ⟨b, a, heq⟩ := hmeet t s h
      exact ⟨a, b, heq.symm⟩

end EcommerceAgent.Imports
