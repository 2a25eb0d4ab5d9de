/-
# The shops of a tenant

`list_shops`, `create_shop`, `get_shop`, `update_shop` and `soft_delete_shop` of
`api/services/ecommerce_queries.py`, on the rows of `gateway_shops` that have the tenant's id.  The
list shows one shop of each trimmed lower-cased name, the newest; the statements compare ids and
names under the collation of the table.  Which rows of the same second come first is up to the
server.
-/
import EcommerceAgent.Lib.FirstOf
import EcommerceAgent.Lib.Runs
import EcommerceAgent.Lib.Table
import EcommerceAgent.Lib.Text
import Mathlib.Data.List.Sort

open EcommerceAgent.Lib

namespace EcommerceAgent.Queries

/-! ### Rows -/

inductive ShopStatus
  | active
  | deleted
deriving DecidableEq

/-- The columns that `create_shop` and `update_shop` write; `none` is `NULL`. -/
structure ShopFields where
  name : Option String
  category : Option String
  platform : Option String
  shopType : Option String
  businessStage : Option String
deriving DecidableEq

/-- A row of `gateway_shops`. -/
structure ShopRow where
  id : String
  fields : ShopFields
  status : ShopStatus
  authStatus : String
  dataStatus : String
  lastSyncAt : Option String
  createdAt : ℕ
deriving DecidableEq

/-- `status <> 'deleted'`. -/
def ShopRow.Live (row : ShopRow) : Prop := row.status ≠ .deleted

instance (row : ShopRow) : Decidable row.Live := inferInstanceAs (Decidable (_ ≠ _))

/-- `x or default`, where an absent value is no text either. -/
def orDefault (x : Option String) (default : String) : String :=
  match x with
  | some s => if s = "" then default else s
  | none => default

/-- An entry of the list. -/
structure Shop where
  id : String
  name : Option String
  category : String
  platform : String
  status : ShopStatus
  type : String
  businessStage : String
  authStatus : String
  importStatus : String
  lastSyncAt : String
deriving DecidableEq

/-- The entry of a row. -/
def ShopRow.entry (row : ShopRow) : Shop where
  id := row.id
  name := row.fields.name
  category := orDefault row.fields.category "unset"
  platform := orDefault row.fields.platform "taobao_tmall"
  status := row.status
  type := orDefault row.fields.shopType "brand_owned"
  businessStage := orDefault row.fields.businessStage "growth"
  authStatus := orDefault (some row.authStatus) "pending"
  importStatus := orDefault (some row.dataStatus) "empty"
  lastSyncAt := row.lastSyncAt.getD "未同步"

/-- The body of a request. -/
structure ShopPayload where
  id : Option String
  name : Option String
  category : Option String
  platform : Option String
  type : Option String
  shopType : Option String
  businessStage : Option String
  reuseByName : Bool
deriving DecidableEq

/-- What `create_shop` writes. -/
def ShopPayload.created (payload : ShopPayload) : ShopFields where
  name := some (orDefault payload.name "New Shop")
  category := some (orDefault payload.category "unset")
  platform := some (orDefault payload.platform "taobao_tmall")
  shopType := some (orDefault payload.type (orDefault payload.shopType "brand_owned"))
  businessStage := some (orDefault payload.businessStage "growth")

/-- `payload.get("type") or payload.get("shopType")`. -/
def ShopPayload.typeOrShopType (payload : ShopPayload) : Option String :=
  match payload.type with
  | some s => if s = "" then payload.shopType else some s
  | none => payload.shopType

/-- What `update_shop` writes. -/
def ShopPayload.updated (payload : ShopPayload) : ShopFields where
  name := payload.name
  category := payload.category
  platform := payload.platform
  shopType := payload.typeOrShopType
  businessStage := payload.businessStage

/-! ### The server -/

/-- The database server and the library functions: what the collation compares, `str.lower()`, the
checks of the columns (a `NULL`, which one of the two schemas forbids, or the length), the order of
the rows of a query, `uuid.uuid4()` and the clock. -/
structure ShopServer (K : Type) where
  weights : String → K
  lower : String → String
  accepts : ShopRow → Bool
  arrange : ℕ → List ShopRow → List ShopRow
  arrange_perm : ∀ n rows, (arrange n rows).Perm rows
  arrange_sorted : ∀ n rows, (arrange n rows).Pairwise fun r r' => r'.createdAt ≤ r.createdAt
  uuid : ℕ → String
  clock : ℕ → ℕ

variable {K : Type} [DecidableEq K]

/-- The primary key of a row. -/
def ShopServer.key (S : ShopServer K) (row : ShopRow) : K := S.weights row.id

/-- The rows of the tenant, and the number of statements so far. -/
structure ShopStore (S : ShopServer K) where
  rows : List ShopRow
  distinct : (rows.map S.key).Nodup
  moment : ℕ

namespace ShopServer

variable (S : ShopServer K)

/-- `(row.get("name") or row["id"]).strip().lower()`. -/
def dedupeKey (row : ShopRow) : String :=
  S.lower (String.ofList (Text.strip (orDefault row.fields.name row.id).toList))

/-- `name = %s`, which is not true of a `NULL`. -/
def hasName (name : String) (row : ShopRow) : Bool :=
  row.fields.name.any fun name' => S.weights name' = S.weights name

/-- The rows of the first query of `list_shops`. -/
def liveRows (s : ShopStore S) : List ShopRow := S.arrange s.moment (s.rows.filter (·.Live))

/-- `unique_rows`. -/
def uniqueRows (s : ShopStore S) : List ShopRow := firstOf S.dedupeKey [] (S.liveRows s)

/-- `list_shops`. -/
def listShops (s : ShopStore S) : List Shop := (S.uniqueRows s).map ShopRow.entry

/-- `get_shop`; an empty object is `none`. -/
def getShop (s : ShopStore S) (id : String) : Option Shop := (S.listShops s).find? (·.id = id)

/-- The row that `create_shop` reuses. -/
def existing (s : ShopStore S) (payload : ShopPayload) : Option ShopRow :=
  if payload.reuseByName = true ∧ orDefault payload.id "" = "" then
    (S.arrange s.moment (s.rows.filter fun row =>
      row.Live ∧ S.hasName (orDefault payload.name "New Shop") row)).head?
  else none

/-- The id under which `create_shop` writes. -/
def createdId (s : ShopStore S) (payload : ShopPayload) : String :=
  match S.existing s payload with
  | some row => orDefault row.id (S.uuid s.moment)
  | none => orDefault payload.id (S.uuid s.moment)

/-- The row that `create_shop` inserts. -/
def createdRow (s : ShopStore S) (payload : ShopPayload) : ShopRow where
  id := S.createdId s payload
  fields := payload.created
  status := .active
  authStatus := "pending"
  dataStatus := "empty"
  lastSyncAt := none
  createdAt := S.clock s.moment

/-- `ON DUPLICATE KEY UPDATE`. -/
def onDuplicate (old row : ShopRow) : ShopRow :=
  { old with fields := row.fields, status := .active }

/-- The store after `create_shop` has written. -/
def created (s : ShopStore S) (payload : ShopPayload) : ShopStore S where
  rows := Table.upsert S.key onDuplicate (S.createdRow s payload) s.rows
  distinct := Table.nodup_upsert S.key (fun _ => rfl) s.distinct
  moment := s.moment + 1

/-- The store after statements that change no row. -/
def waited (s : ShopStore S) : ShopStore S := { s with moment := s.moment + 1 }

/-- `create_shop`. -/
def createShop (s : ShopStore S) (payload : ShopPayload) :
    Except Unit (Option Shop) × ShopStore S :=
  if S.accepts (S.createdRow s payload) then
    (.ok (S.getShop (S.created s payload) (S.createdId s payload)), S.created s payload)
  else (.error (), S.waited s)

/-- The rows with the id, as the server compares it. -/
def hasId (id : String) (row : ShopRow) : Bool := S.key row = S.weights id

/-- An `UPDATE` of the rows that meet a condition, which does not set the id. -/
def updateRows (s : ShopStore S) (p : ShopRow → Bool) (f : ShopRow → ShopRow)
    (hf : ∀ row, S.key (f row) = S.key row) : ShopStore S where
  rows := Table.updateWhere p f s.rows
  distinct := (Table.map_key_updateWhere S.key hf s.rows).symm ▸ s.distinct
  moment := s.moment + 1

/-- The store after `update_shop` has written. -/
def updated (s : ShopStore S) (id : String) (fields : ShopFields) : ShopStore S :=
  S.updateRows s (S.hasId id) (fun row => { row with fields }) fun _ => rfl

/-- `update_shop`. -/
def updateShop (s : ShopStore S) (id : String) (payload : ShopPayload) :
    Except Unit (Option Shop) × ShopStore S :=
  match s.rows.find? (S.hasId id) with
  | none => (.ok (S.getShop (S.waited s) id), S.waited s)
  | some row =>
    if S.accepts { row with fields := payload.updated } then
      (.ok (S.getShop (S.updated s id payload.updated) id), S.updated s id payload.updated)
    else (.error (), S.waited s)

/-- The rows that `soft_delete_shop` deletes: those with the name of the shop, if it has one. -/
def deletes (s : ShopStore S) (id : String) (row : ShopRow) : Bool :=
  match s.rows.find? (S.hasId id) with
  | some shop =>
    match shop.fields.name with
    | some name => if name = "" then S.hasId id row else S.hasName name row
    | none => S.hasId id row
  | none => S.hasId id row

/-- `soft_delete_shop`. -/
def softDeleteShop (s : ShopStore S) (id : String) : ShopStore S :=
  S.updateRows s (S.deletes s id) (fun row => { row with status := .deleted }) fun _ => rfl

/-- The calls that write. -/
inductive ShopCall
  | create (payload : ShopPayload)
  | update (id : String) (payload : ShopPayload)
  | delete (id : String)
deriving DecidableEq

/-- The store after a call. -/
def step (s : ShopStore S) : ShopCall → ShopStore S
  | .create payload => (S.createShop s payload).2
  | .update id payload => (S.updateShop s id payload).2
  | .delete id => S.softDeleteShop s id

/-! ### What the list shows and the calls return -/

/-- The list shows one live row of each name, for every live row one that is not older. -/
structure ShowsLive (s : ShopStore S) : Prop where
  distinct : ((S.uniqueRows s).map S.dedupeKey).Nodup
  live : ∀ row ∈ S.uniqueRows s, row ∈ s.rows ∧ row.Live
  shown : ∀ row ∈ s.rows, row.Live → ∃ row' ∈ S.uniqueRows s,
    S.dedupeKey row' = S.dedupeKey row ∧ (row' = row ∨ row.createdAt ≤ row'.createdAt)

/-- The result is the entry of the live row with the id and the fields; without a result such a row
is hidden behind another one of its name. -/
structure Returns (s : ShopStore S) (id : String) (fields : ShopFields) (result : Option Shop) :
    Prop where
  written : ∀ shop, result = some shop → ∃ row ∈ s.rows,
    row.id = id ∧ row.fields = fields ∧ row.Live ∧ shop = row.entry
  hidden : result = none → ∀ row ∈ s.rows, row.id = id → row.Live → ∃ row' ∈ S.uniqueRows s,
    row'.id ≠ id ∧ S.dedupeKey row' = S.dedupeKey row ∧ row.createdAt ≤ row'.createdAt

/-- From the first store to the second, the live rows of a name are gone, and with them the entry
that showed them, and nothing else. -/
structure Removes (s s' : ShopStore S) (name : String) : Prop where
  live : s'.rows.filter (·.Live) = (s.rows.filter (·.Live)).filter (S.dedupeKey · ≠ name)
  names : ∀ name', name' ∈ (S.uniqueRows s').map S.dedupeKey ↔
    name' ∈ (S.uniqueRows s).map S.dedupeKey ∧ name' ≠ name
  entries : S.liveRows s' = (S.liveRows s).filter (S.dedupeKey · ≠ name) →
    S.uniqueRows s' = (S.uniqueRows s).filter (S.dedupeKey · ≠ name)

/-- Among the live rows, those that the call deletes are the ones that the list takes for the same
shop. -/
def Agrees (s : ShopStore S) (id : String) (shop : ShopRow) : Prop :=
  ∀ row ∈ s.rows, row.Live → (S.deletes s id row = true ↔ S.dedupeKey row = S.dedupeKey shop)

/-- What a call does. -/
def CallSpec (s : ShopStore S) : ShopCall → Prop
  | .create payload => ∀ result, (S.createShop s payload).1 = .ok result →
    (∃ row ∈ (S.createShop s payload).2.rows, S.hasId (S.createdId s payload) row = true ∧
      row.fields = payload.created ∧ row.Live) ∧
    S.Returns (S.createShop s payload).2 (S.createdId s payload) payload.created result
  | .update id payload => ∀ result, (S.updateShop s id payload).1 = .ok result →
    -- hidden and deleted shops are written as well
    (∀ row ∈ s.rows, S.hasId id row = true →
      { row with fields := payload.updated } ∈ (S.updateShop s id payload).2.rows) ∧
    S.Returns (S.updateShop s id payload).2 id payload.updated result
  | .delete id => ∀ shop ∈ s.rows, S.hasId id shop = true → S.Agrees s id shop →
    S.Removes s (S.softDeleteShop s id) (S.dedupeKey shop)

variable {S} {s s' : ShopStore S} {id : String} {fields : ShopFields} {row : ShopRow}

omit [DecidableEq K] in
lemma mem_liveRows : row ∈ S.liveRows s ↔ row ∈ s.rows ∧ row.Live := by
  rw [liveRows, (S.arrange_perm _ _).mem_iff, List.mem_filter, decide_eq_true_iff]

omit [DecidableEq K] in
/-- Every list shows what it should. -/
lemma showsLive (s : ShopStore S) : S.ShowsLive s := by
  refine ⟨nodup_firstOf, fun row hrow => mem_liveRows.mp (firstOf_sublist.mem hrow),
    fun row hrow hlive => ?_⟩
  exact exists_firstOf (S.arrange_sorted _ _) (mem_liveRows.mpr ⟨hrow, hlive⟩) List.not_mem_nil

/-! ### Calls that return a shop -/

omit [DecidableEq K] in
lemma getShop_eq_some {shop : Shop} (h : S.getShop s id = some shop) :
    ∃ row ∈ S.uniqueRows s, row.id = id ∧ shop = row.entry := by
  obtain ⟨row, hrow, rfl⟩ := List.mem_map.mp (List.mem_of_find?_eq_some h)
  have hid := List.find?_some h
  exact ⟨row, hrow, of_decide_eq_true hid, rfl⟩

omit [DecidableEq K] in
lemma getShop_eq_none (h : S.getShop s id = none) : ∀ row ∈ S.uniqueRows s, row.id ≠ id := by
  intro row hrow hid
  have hentry := List.find?_eq_none.mp h row.entry (List.mem_map_of_mem hrow)
  exact hentry (decide_eq_true hid)

omit [DecidableEq K] in
/-- What a call returns that has left the fields in the live row with the id. -/
lemma returns_getShop (h : ∀ row ∈ s.rows, row.id = id → row.Live → row.fields = fields) :
    S.Returns s id fields (S.getShop s id) := by
  constructor
  · intro shop hshop
    obtain ⟨row, hrow, hid, rfl⟩ := getShop_eq_some hshop
    obtain ⟨hmem, hlive⟩ := (showsLive s).live row hrow
    exact ⟨row, hmem, hid, h row hmem hid hlive, hlive, rfl⟩
  · intro hnone row hrow hid hlive
    obtain ⟨row', hrow', hkey, hage⟩ := (showsLive s).shown row hrow hlive
    have hid' : row'.id ≠ id := getShop_eq_none hnone row' hrow'
    refine ⟨row', hrow', hid', hkey, ?_⟩
    rcases hage with rfl | hage
    · exact absurd hid hid'
    · exact hage

lemma rows_created (s : ShopStore S) (payload : ShopPayload) : (S.created s payload).rows =
    Table.upsert S.key onDuplicate (S.createdRow s payload) s.rows := rfl

/-- The row that `create_shop` has written. -/
lemma mem_created {payload : ShopPayload} (hrow : row ∈ (S.created s payload).rows)
    (hid : S.hasId (S.createdId s payload) row = true) :
    row.fields = payload.created ∧ row.status = .active := by
  have hkey : S.key row = S.key (S.createdRow s payload) := of_decide_eq_true hid
  rw [rows_created, Table.upsert] at hrow
  split_ifs at hrow with hduplicate
  · obtain ⟨old, -, rfl⟩ := List.mem_map.mp hrow
    split_ifs at hkey ⊢ with hold
    · exact ⟨rfl, rfl⟩
    · exact absurd hkey hold
  · rcases List.mem_append.mp hrow with hold | hnew
    · exact absurd ⟨row, hold, hkey⟩ hduplicate
    · rw [List.mem_singleton.mp hnew]
      exact ⟨rfl, rfl⟩

lemma exists_created (s : ShopStore S) (payload : ShopPayload) :
    ∃ row ∈ (S.created s payload).rows, S.hasId (S.createdId s payload) row = true := by
  rw [rows_created, Table.upsert]
  split_ifs with hduplicate
  · obtain ⟨old, hold, hkey⟩ := hduplicate
    refine ⟨_, List.mem_map_of_mem hold, ?_⟩
    rw [if_pos hkey]
    exact decide_eq_true hkey
  · exact ⟨_, List.mem_append_right _ (List.mem_singleton_self _), decide_eq_true rfl⟩

lemma callSpec_create (s : ShopStore S) (payload : ShopPayload) :
    S.CallSpec s (.create payload) := by
  intro result hresult
  rw [createShop] at hresult ⊢
  split_ifs at hresult ⊢ with haccepts
  obtain rfl := Except.ok.inj hresult
  constructor
  · obtain ⟨row, hrow, hid⟩ := exists_created s payload
    obtain ⟨hfields, hstatus⟩ := mem_created hrow hid
    exact ⟨row, hrow, hid, hfields, fun hdeleted => by cases hstatus.symm.trans hdeleted⟩
  · refine returns_getShop fun row hrow hid _ => ?_
    have hasId : S.hasId (S.createdId s payload) row = true :=
      decide_eq_true (congrArg S.weights hid)
    exact (mem_created hrow hasId).1

lemma callSpec_update (s : ShopStore S) (id : String) (payload : ShopPayload) :
    S.CallSpec s (.update id payload) := by
  intro result hresult
  have hasId : ∀ row : ShopRow, row.id = id → S.hasId id row = true := fun row hid =>
    decide_eq_true (congrArg S.weights hid)
  rw [updateShop] at hresult ⊢
  cases hfind : s.rows.find? (S.hasId id) with
  | none =>
    have hnone : ∀ row ∈ s.rows, ¬S.hasId id row = true := List.find?_eq_none.mp hfind
    rw [hfind] at hresult
    obtain rfl := Except.ok.inj hresult
    refine ⟨fun row hrow hid => absurd hid (hnone row hrow), ?_⟩
    exact returns_getShop fun row hrow hid _ => absurd (hasId row hid) (hnone row hrow)
  | some old =>
    rw [hfind] at hresult
    simp only at hresult ⊢
    split_ifs at hresult ⊢ with haccepts
    obtain rfl := Except.ok.inj hresult
    constructor
    · intro row hrow hid
      refine List.mem_map.mpr ⟨row, hrow, ?_⟩
      rw [if_pos hid]
    · refine returns_getShop fun row hrow hid _ => ?_
      obtain ⟨old', -, rfl⟩ := List.mem_map.mp hrow
      by_cases hold : S.hasId id old' = true
      · rw [if_pos hold]
      · rw [if_neg hold] at hid
        exact absurd (hasId old' hid) hold

/-! ### The deletion of a shop -/

/-- The live rows that a deletion leaves. -/
lemma filter_softDeleteShop {shop : ShopRow} (hagrees : S.Agrees s id shop) :
    (S.softDeleteShop s id).rows.filter (·.Live) =
      (s.rows.filter (·.Live)).filter (S.dedupeKey · ≠ S.dedupeKey shop) := by
  have hrows : (S.softDeleteShop s id).rows =
      Table.updateWhere (S.deletes s id) (fun row => { row with status := .deleted }) s.rows := rfl
  have hdead : ∀ row : ShopRow,
      decide (ShopRow.Live { row with status := .deleted }) = false := fun row =>
    decide_eq_false (not_not_intro rfl)
  rw [hrows, Table.filter_updateWhere_of_forall hdead]
  refine List.filter_congr fun row hrow => ?_
  obtain ⟨hmem, hlive⟩ := List.mem_filter.mp hrow
  have hagree := hagrees row hmem (of_decide_eq_true hlive)
  by_cases hkey : S.dedupeKey row = S.dedupeKey shop
  · rw [hagree.mpr hkey, decide_eq_false (not_not_intro hkey)]
    rfl
  · rw [Bool.eq_false_iff.mpr (mt hagree.mp hkey), decide_eq_true hkey]
    rfl

lemma callSpec_delete (s : ShopStore S) (id : String) : S.CallSpec s (.delete id) := by
  intro shop _ _ hagrees
  have hfilter := filter_softDeleteShop hagrees
  have hmem : ∀ row, row ∈ S.liveRows (S.softDeleteShop s id) ↔
      row ∈ S.liveRows s ∧ S.dedupeKey row ≠ S.dedupeKey shop := by
    intro row
    rw [liveRows, (S.arrange_perm _ _).mem_iff, hfilter, List.mem_filter, liveRows,
      (S.arrange_perm _ _).mem_iff, decide_eq_true_iff]
  have hnames : ∀ (s : ShopStore S) name,
      name ∈ (S.uniqueRows s).map S.dedupeKey ↔ name ∈ (S.liveRows s).map S.dedupeKey := by
    intro s name
    constructor
    · intro h
      obtain ⟨row, hrow, rfl⟩ := List.mem_map.mp h
      exact List.mem_map_of_mem (firstOf_sublist.mem hrow)
    · intro h
      obtain ⟨row, hrow, rfl⟩ := List.mem_map.mp h
      obtain ⟨hrow, hlive⟩ := mem_liveRows.mp hrow
      obtain ⟨row', hrow', hkey, -⟩ := (showsLive s).shown row hrow hlive
      exact hkey ▸ List.mem_map_of_mem hrow'
  refine ⟨hfilter, fun name => ?_, fun hsame => ?_⟩
  · rw [hnames, hnames]
    constructor
    · intro h
      obtain ⟨row, hrow, rfl⟩ := List.mem_map.mp h
      obtain ⟨hrow, hkey⟩ := (hmem row).mp hrow
      exact ⟨List.mem_map_of_mem hrow, hkey⟩
    · rintro ⟨h, hkey⟩
      obtain ⟨row, hrow, rfl⟩ := List.mem_map.mp h
      exact List.mem_map_of_mem ((hmem row).mpr ⟨hrow, hkey⟩)
  · rw [uniqueRows, hsame, firstOf_filter_ne]
    rfl

/-- What holds of every call in every run, whatever the shops were before. -/
theorem along_callSpec (S : ShopServer K) (s : ShopStore S) (calls : List ShopCall) :
    Along S.step (fun s call => S.ShowsLive s ∧ S.CallSpec s call ∧ S.ShowsLive (S.step s call))
      s calls := by
  have hcall : ∀ s call, S.CallSpec s call := by
    intro s call
    cases call with
    | create payload => exact callSpec_create s payload
    | update id payload => exact callSpec_update s id payload
    | delete id => exact callSpec_delete s id
  refine along_of_invariant (I := fun _ => True) (P := fun _ _ => True) (fun _ _ _ _ => trivial)
    (fun s call _ _ => ⟨showsLive s, hcall s call, showsLive _⟩) trivial ?_
  exact along_of_forall (P := fun _ => True) s fun _ _ => trivial

/-! ### Two shops of one name -/

/-- A server that compares without case and has a statement in each second. -/
def plainServer : ShopServer (List Char) where
  weights s := s.toList.map Char.toLower
  lower s := String.ofList (s.toList.map Char.toLower)
  accepts row := row.id.length ≤ 64 && row.fields.name.any (·.length ≤ 128)
  arrange _ rows := rows.insertionSort fun r r' => r'.createdAt ≤ r.createdAt
  arrange_perm _ rows := List.perm_insertionSort _ rows
  arrange_sorted _ rows := by
    have htotal : Std.Total fun r r' : ShopRow => r'.createdAt ≤ r.createdAt :=
      ⟨fun r r' => Nat.le_total r'.createdAt r.createdAt⟩
    have htrans : IsTrans ShopRow fun r r' => r'.createdAt ≤ r.createdAt :=
      ⟨fun _ _ _ h h' => Nat.le_trans h' h⟩
    exact List.pairwise_insertionSort _ rows
  uuid n := if n = 0 then "first" else "second"
  clock n := n

/-- A request that names the shop `Shop`. -/
def namedShop : ShopPayload where
  id := none
  name := some "Shop"
  category := some "fruit"
  platform := some "jd"
  type := some "brand_owned"
  shopType := none
  businessStage := some "growth"
  reuseByName := false

/-- Two shops of one name. -/
def twoShops : ShopStore plainServer :=
  run plainServer.step { rows := [], distinct := List.nodup_nil, moment := 0 }
    [.create namedShop, .create namedShop]

/-- The first shop is not deleted, but it is not listed; its update writes the record and returns an
empty object. -/
theorem not_listed_twoShops :
    (¬∀ row ∈ twoShops.rows, row.Live → row.entry ∈ plainServer.listShops twoShops) ∧
      (plainServer.updateShop twoShops "first" { namedShop with category := some "juice" }).1 =
        .ok none := by
  decide +kernel

end ShopServer

end EcommerceAgent.Queries
