/-
# The gateway's user store

`MySQLUserStore` of `gateway/internal/auth/mysql_user_store.go`, as far as it writes tenants,
users, shops and memberships.  Columns that no method reads or compares (time stamps) are left
out.  Two rows of a table collide when their keys have the same collation key, which is a
parameter (`utf8mb4_unicode_ci` in the schema).  A transaction that does not reach its commit
leaves the tables unchanged.
-/
import EcommerceAgent.Lib.Text
import EcommerceAgent.Lib.Table

open EcommerceAgent.Lib EcommerceAgent.Lib.Text

namespace EcommerceAgent.Gateway

/-! ### Text helpers -/

/-- Whether `[a-z0-9_\-]` matches. -/
def isIdentifierChar (c : Char) : Bool :=
  ('a' ≤ c && c ≤ 'z') || ('0' ≤ c && c ≤ '9') || c == '_' || c == '-'

/-- `replacer.ReplaceAllString(_, "_")`: every maximal run of other characters becomes one
underscore; `inRun` says that the last character belonged to such a run. -/
def replaceRuns (inRun : Bool) : List Char → List Char
  | [] => []
  | c :: cs =>
    if isIdentifierChar c then c :: replaceRuns false cs
    else if inRun then replaceRuns true cs
    else '_' :: replaceRuns true cs

/-- `normalizeIdentifier`. -/
def normalizeIdentifier (value : String) : String :=
  let trimmed := trimSpace (toLower value.toList)
  let isEdge (c : Char) : Bool := c == '_' || c == '-'
  String.ofList (((replaceRuns false trimmed).dropWhile isEdge).rdropWhile isEdge)

/-- `strings.TrimSpace` on strings. -/
def trimSpaceString (value : String) : String := String.ofList (trimSpace value.toList)

/-- `firstNonEmpty`. -/
def firstNonEmpty : List String → String
  | [] => ""
  | value :: values =>
    if trimSpaceString value = "" then firstNonEmpty values else trimSpaceString value

/-- `repairLatin1Mojibake`: text that is UTF-8 when its characters are read as bytes. -/
def repairLatin1Mojibake (value : String) : Option String :=
  if value.toList.all (·.toNat ≤ 255) && value.toList.any (128 ≤ ·.toNat) then
    match String.fromUTF8? ⟨(value.toList.map (·.toNat.toUInt8)).toArray⟩ with
    | some repaired => if repaired = value then none else some repaired
    | none => none
  else none

/-- `cleanDisplayText`. -/
def cleanDisplayText (value : String) : String :=
  let trimmed := trimSpaceString value
  if trimmed = "" then trimmed else (repairLatin1Mojibake trimmed).getD trimmed

/-- `nullIfEmpty`. -/
def nullIfEmpty (value : String) : Option String := if value = "" then none else some value

/-! ### The tables -/

structure TenantRow where
  id : String
  name : String
  status : String
deriving DecidableEq, Repr

structure UserRow where
  id : String
  name : String
  email : Option String
  phone : Option String
  companyName : Option String
  plan : String
  passwordHash : String
  defaultTenantId : Option String
  defaultShopId : Option String
  onboardingCompleted : Bool
  status : String
deriving DecidableEq, Repr

structure UserTenantRow where
  userId : String
  tenantId : String
  role : String
deriving DecidableEq, Repr

structure ShopRow where
  tenantId : String
  id : String
  name : String
  category : String
  platform : String
  shopType : String
  businessStage : String
  status : String
  authStatus : String
  dataStatus : String
deriving DecidableEq, Repr

structure UserShopRow where
  userId : String
  tenantId : String
  shopId : String
deriving DecidableEq, Repr

/-- The five tables `gateway_tenants`, `gateway_users`, `gateway_user_tenants`,
`gateway_shops` and `gateway_user_shops`. -/
structure Tables where
  tenants : List TenantRow
  users : List UserRow
  userTenants : List UserTenantRow
  shops : List ShopRow
  userShops : List UserShopRow
deriving DecidableEq, Repr

/-- `auth.User`, without the creation time. -/
structure User where
  id : String
  name : String
  email : String
  phone : String
  companyName : String
  plan : String
  onboardingDone : Bool
  tenantIds : List String
  defaultTenantId : String
  shopIds : List String
  defaultShopId : String
  roles : List String
  permissions : List String
deriving DecidableEq, Repr

structure RegisterInput where
  userId : String
  name : String
  email : String
  phone : String
  companyName : String
  plan : String
  password : String
  tenantId : String
  tenantName : String
  shopId : String
  shopName : String
deriving DecidableEq, Repr

structure ProfileInput where
  name : String
  email : String
  phone : String
  companyName : String
deriving DecidableEq, Repr

/-- The places where a call meets the database. -/
inductive Statement
  | begin_ | upsertTenant | insertUser | insertUserTenant | upsertShop | insertUserShop
  | updateUser | commit | loadUser
deriving DecidableEq, Repr

/-- What a call finds outside the store: bcrypt, the errors of the connection and of the server
that have nothing to do with the stored rows, and `GATEWAY_DEMO_PERMISSIONS`. -/
structure Backend where
  hashPassword : String → Except String String
  fault : Statement → Option String
  permissions : List String

/-- The error text of a violated primary or unique key. -/
def duplicateEntry : String := "Error 1062 (23000): Duplicate entry"

namespace Tables

variable (collate : String → String) (b : Backend)

/-- Run one statement; `none` is a violated key. -/
def exec (st : Statement) (f : Tables → Option Tables) (s : Tables) : Except String Tables :=
  match b.fault st with
  | some e => .error e
  | none =>
    match f s with
    | some s' => .ok s'
    | none => .error duplicateEntry

def tenantKey (row : TenantRow) : String := collate row.id

def userTenantKey (row : UserTenantRow) : String × String × String :=
  (collate row.userId, collate row.tenantId, collate row.role)

def shopKey (row : ShopRow) : String × String := (collate row.tenantId, collate row.id)

def userShopKey (row : UserShopRow) : String × String × String :=
  (collate row.userId, collate row.tenantId, collate row.shopId)

/-- Two values of a nullable unique column collide. -/
def sameUnique (a b : Option String) : Bool :=
  match a, b with
  | some a, some b => collate a == collate b
  | _, _ => false

/-- Two rows of `gateway_users` cannot both be stored. -/
def usersCollide (r r' : UserRow) : Bool :=
  collate r.id == collate r'.id || sameUnique collate r.email r'.email ||
    sameUnique collate r.phone r'.phone

/-- `upsertTenant`. -/
def upsertTenant (tenantID name : String) (s : Tables) : Tables :=
  { s with
    tenants := Table.upsert (tenantKey collate)
      (fun old new => { old with name := new.name, status := "active" })
      ⟨tenantID, cleanDisplayText name, "active"⟩ s.tenants }

/-- `upsertShop`. -/
def upsertShop (tenantID shopID name authStatus : String) (s : Tables) : Tables :=
  { s with
    shops := Table.upsert (shopKey collate)
      (fun old new => { old with status := "active", authStatus := new.authStatus })
      ⟨tenantID, shopID, cleanDisplayText name, "unset", "taobao_tmall", "brand_owned", "growth",
        "active", authStatus, "empty"⟩ s.shops }

/-- The insertion into `gateway_users`. -/
def insertUser (row : UserRow) (s : Tables) : Option Tables :=
  if s.users.any (usersCollide collate row) then none
  else some { s with users := s.users ++ [row] }

/-- The insertion into `gateway_user_tenants`. -/
def insertUserTenant (row : UserTenantRow) (s : Tables) : Option Tables :=
  (Table.insert (userTenantKey collate) row s.userTenants).map ({ s with userTenants := · })

/-- The insertion into `gateway_user_shops`. -/
def insertUserShop (row : UserShopRow) (s : Tables) : Option Tables :=
  (Table.insert (userShopKey collate) row s.userShops).map ({ s with userShops := · })

/-- Distinct values in the order of their first occurrence, as the loops of `loadUser` collect
them. -/
def distinct (values : List String) : List String :=
  values.foldl (fun seen v => if v ∈ seen then seen else seen ++ [v]) []

/-- `loadUser`. -/
def loadUser (s : Tables) (userID : String) : Except String User :=
  match b.fault .loadUser with
  | some e => .error e
  | none =>
    match s.users.find? fun r =>
      collate r.id == collate userID && collate r.status == collate "active" with
    | none => .error "sql: no rows in result set"
    | some r =>
      let memberships := s.userTenants.filter (collate ·.userId == collate userID)
      let shops := (s.userShops.filter (collate ·.userId == collate userID)).map (·.shopId)
      .ok {
        id := r.id
        name := cleanDisplayText r.name
        email := r.email.getD ""
        phone := r.phone.getD ""
        companyName := cleanDisplayText (r.companyName.getD "")
        plan := cleanDisplayText (firstNonEmpty [r.plan, "Team"])
        onboardingDone := r.onboardingCompleted
        tenantIds := distinct (memberships.map (·.tenantId))
        defaultTenantId := r.defaultTenantId.getD ""
        shopIds := distinct (shops.mergeSort fun x y => collate x ≤ collate y)
        defaultShopId := r.defaultShopId.getD ""
        roles := distinct (memberships.map (·.role))
        permissions := b.permissions }

end Tables

namespace RegisterInput

variable (input : RegisterInput)

/-- `userID` of `Register`. -/
def userID : String := normalizeIdentifier (firstNonEmpty [input.userId, input.email, input.phone])

/-- `tenantID` of `Register`. -/
def tenantID : String :=
  if normalizeIdentifier input.tenantId = "" then input.userID ++ "_org"
  else normalizeIdentifier input.tenantId

/-- `shopID` of `Register`. -/
def shopID : String := normalizeIdentifier input.shopId

/-- The row that `Register` inserts into `gateway_users`. -/
def userRow (passwordHash : String) : UserRow where
  id := input.userID
  name := cleanDisplayText (firstNonEmpty [input.name, input.userID])
  email := nullIfEmpty input.email
  phone := nullIfEmpty input.phone
  companyName :=
    some (cleanDisplayText (firstNonEmpty [input.companyName, input.tenantName, input.tenantID]))
  plan := cleanDisplayText (firstNonEmpty [input.plan, "Team"])
  passwordHash := passwordHash
  defaultTenantId := some input.tenantID
  defaultShopId := nullIfEmpty input.shopID
  onboardingCompleted := input.shopID ≠ ""
  status := "active"

end RegisterInput

namespace Tables

variable (collate : String → String) (b : Backend)

/-- The error that `Register` returns for a failed insertion into `gateway_users`. -/
def insertUserError (e : String) : String :=
  if contains (toLower e.toList) "duplicate".toList then "user already exists" else e

/-- The two statements that `Register` adds when there is a shop. -/
def registerShop (input : RegisterInput) (s : Tables) : Except String Tables :=
  if input.shopID = "" then .ok s
  else do
    let s ← s.exec b .upsertShop fun s => some (s.upsertShop collate input.tenantID input.shopID
      (cleanDisplayText (firstNonEmpty [input.shopName, input.shopID])) "connected")
    s.exec b .insertUserShop
      (insertUserShop collate ⟨input.userID, input.tenantID, input.shopID⟩)

/-- The transaction of `Register`. -/
def registerTx (input : RegisterInput) (passwordHash : String) (s : Tables) :
    Except String Tables := do
  let s ← s.exec b .begin_ some
  let s ← s.exec b .upsertTenant fun s => some (s.upsertTenant collate input.tenantID
    (cleanDisplayText (firstNonEmpty [input.tenantName, input.companyName, input.tenantID])))
  let s ← (s.exec b .insertUser (insertUser collate (input.userRow passwordHash))).mapError
    insertUserError
  let s ← s.exec b .insertUserTenant
    (insertUserTenant collate ⟨input.userID, input.tenantID, "admin"⟩)
  let s ← s.registerShop collate b input
  s.exec b .commit some

/-- `MySQLUserStore.Register`. -/
def register (input : RegisterInput) (s : Tables) : Except String User × Tables :=
  if input.userID = "" then (.error "account required", s)
  else if trimSpaceString input.password = "" then (.error "password required", s)
  else
    match b.hashPassword input.password with
    | .error e => (.error e, s)
    | .ok passwordHash =>
      match s.registerTx collate b input passwordHash with
      | .error e => (.error e, s)
      | .ok s' => (s'.loadUser collate b input.userID, s')

/-- The transaction of `AddShop`. -/
def addShopTx (userID tenantID shopID : String) (s : Tables) : Except String Tables := do
  let s ← s.exec b .begin_ some
  let s ← s.exec b .upsertShop fun s =>
    some (s.upsertShop collate tenantID shopID shopID "connected")
  let s ← s.exec b .insertUserShop fun s => some { s with
    userShops :=
      Table.insertIgnore (userShopKey collate) ⟨userID, tenantID, shopID⟩ s.userShops }
  let s ← s.exec b .updateUser fun s => some { s with
    users := s.users.map fun r =>
      if collate r.id = collate userID then
        { r with defaultShopId := some shopID, onboardingCompleted := true }
      else r }
  s.exec b .commit some

/-- `MySQLUserStore.AddShop`. -/
def addShop (userID tenantID shopID : String) (s : Tables) : Except String User × Tables :=
  let shopID := normalizeIdentifier shopID
  if shopID = "" then (.error "shop id required", s)
  else
    match s.loadUser collate b userID with
    | .error _ => (.error "user not found", s)
    | .ok user =>
      let tenantID := normalizeIdentifier (if tenantID = "" then user.defaultTenantId else tenantID)
      if tenantID ∉ user.tenantIds then (.error "tenant forbidden", s)
      else
        match s.addShopTx collate b userID tenantID shopID with
        | .error e => (.error e, s)
        | .ok s' => (s'.loadUser collate b userID, s')

/-- `COALESCE(NULLIF(?, ''), column)`. -/
def coalesce (value : String) (column : Option String) : Option String :=
  if collate value = collate "" then column else some value

/-- `MySQLUserStore.UpdateProfile`. -/
def updateProfile (userID : String) (input : ProfileInput) (s : Tables) :
    Except String User × Tables :=
  let update (r : UserRow) : UserRow := { r with
    name := (coalesce collate (cleanDisplayText input.name) (some r.name)).getD r.name
    email := coalesce collate input.email r.email
    phone := coalesce collate input.phone r.phone
    companyName := coalesce collate (cleanDisplayText input.companyName) r.companyName }
  let updated : Tables → Option Tables := fun s =>
    if s.users.any fun r => collate r.id == collate userID &&
        s.users.any fun r' => collate r'.id != collate userID &&
          usersCollide collate (update r) r' then none
    else some { s with
      users := s.users.map fun r => if collate r.id = collate userID then update r else r }
  match s.exec b .updateUser updated with
  | .error e => (.error e, s)
  | .ok s' => (s'.loadUser collate b userID, s')

/-- `COALESCE(NULLIF(column, ''), ?)`. -/
def fillEmpty (column : Option String) (value : String) : Option String :=
  match column with
  | some v => if collate v = collate "" then some value else some v
  | none => some value

/-- `INSERT IGNORE` of a row that refers to a user: a row without its user is ignored as well. -/
def insertIgnoreFor {ρ κ : Type} [DecidableEq κ] (key : ρ → κ) (userID : String) (row : ρ)
    (s : Tables) (table : List ρ) : List ρ :=
  if s.users.any fun r => collate r.id == collate userID then Table.insertIgnore key row table
  else table

/-- The statements that `ensureUserBindings` adds when there is a shop. -/
def bindShop (userID tenantID shopID shopName : String) (s : Tables) : Except String Tables :=
  if shopID = "" then .ok s
  else do
    let s ← s.exec b .upsertShop fun s =>
      some (s.upsertShop collate tenantID shopID (firstNonEmpty [shopName, shopID]) "connected")
    let s ← s.exec b .insertUserShop fun s => some { s with
      userShops := s.insertIgnoreFor collate (userShopKey collate) userID
        ⟨userID, tenantID, shopID⟩ s.userShops }
    s.exec b .updateUser fun s => some { s with
      users := s.users.map fun r =>
        if collate r.id = collate userID then
          { r with
            defaultTenantId := fillEmpty collate r.defaultTenantId tenantID
            defaultShopId := fillEmpty collate r.defaultShopId shopID
            onboardingCompleted := true }
        else r }

/-- The transaction of `ensureUserBindings`. -/
def ensureUserBindingsTx (userID tenantID tenantName shopID shopName : String) (s : Tables) :
    Except String Tables := do
  let s ← s.exec b .begin_ some
  let s ← s.exec b .upsertTenant fun s =>
    some (s.upsertTenant collate tenantID (firstNonEmpty [tenantName, tenantID]))
  let s ← s.exec b .insertUserTenant fun s => some { s with
    userTenants := s.insertIgnoreFor collate (userTenantKey collate) userID
      ⟨userID, tenantID, "admin"⟩ s.userTenants }
  let s ← s.bindShop collate b userID tenantID shopID shopName
  s.exec b .commit some

/-- `MySQLUserStore.ensureUserBindings`. -/
def ensureUserBindings (userID tenantID tenantName shopID shopName : String) (s : Tables) :
    Except String Unit × Tables :=
  let tenantID := normalizeIdentifier tenantID
  let shopID := normalizeIdentifier shopID
  if tenantID = "" then (.ok (), s)
  else
    match s.ensureUserBindingsTx collate b userID tenantID tenantName shopID shopName with
    | .error e => (.error e, s)
    | .ok s' => (.ok (), s')

end Tables

/-- A call of one of the three methods. -/
inductive Call
  | register (b : Backend) (input : RegisterInput)
  | addShop (b : Backend) (userID tenantID shopID : String)
  | updateProfile (b : Backend) (userID : String) (input : ProfileInput)

/-- What a call leaves in the tables. -/
def Tables.step (collate : String → String) (s : Tables) : Call → Tables
  | .register b input => (s.register collate b input).2
  | .addShop b userID tenantID shopID => (s.addShop collate b userID tenantID shopID).2
  | .updateProfile b userID input => (s.updateProfile collate b userID input).2

end EcommerceAgent.Gateway
