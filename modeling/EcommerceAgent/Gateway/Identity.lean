/-
# The identity on which the Brain acts

A request passes `Tenant()` (`gateway/internal/middleware/tenant.go`), the injection of the
trusted headers and the reverse proxy (`gateway/internal/proxy/brain_proxy.go`), and the Brain
reads the identity back with `gateway_identity` and `requested_shop` (`api/routes/helpers.py`)
or with `trusted_identity` (`api/server.py`).  Go writes a header field as UTF-8 and Starlette reads
it as Latin-1.  The identity that the Brain obtains is the one that the gateway validated exactly
when the ids survive the header, and none of the Brain's fallbacks and no `shop_id` query parameter
says otherwise (`effective_eq_iff`).
-/
import EcommerceAgent.Gateway.UserStore
import EcommerceAgent.Lib.Mojibake
import EcommerceAgent.Runtime.TaskRuntime

open EcommerceAgent.Lib EcommerceAgent.Lib.Mojibake EcommerceAgent.Lib.Text
open EcommerceAgent.Runtime (Identity)

namespace EcommerceAgent.Gateway

/-! ### Requests -/

/-- Header fields: the values of every name, under the spelling that the code uses for it. -/
abbrev Headers := String → List String

/-- The first value of a header field, `""` when it is absent. -/
def Headers.get (headers : Headers) (name : String) : String := (headers name).headD ""

/-- `Header.Set`. -/
def Headers.set (headers : Headers) (name value : String) : Headers :=
  Function.update headers name [value]

/-- The identity fields of a request body, with the defaults of `TaskRequest`. -/
structure BodyIdentity where
  tenantId : String := "default_tenant"
  userId : String := "local_user"
  shopId : String := "default_shop"
deriving DecidableEq, Repr

/-- A request: its header fields and its query parameters, decoded and in order. -/
structure Request where
  headers : Headers
  query : List (String × String)

/-- `c.Query` of gin: the first value of a parameter. -/
def Request.firstQuery (request : Request) (key : String) : String :=
  ((request.query.filter (·.1 = key)).map (·.2)).headD ""

/-- `query_params.get` of Starlette: the last value of a parameter. -/
def Request.lastQuery (request : Request) (key : String) : String :=
  ((request.query.filter (·.1 = key)).map (·.2)).getLastD ""

/-- Python's `a or b`. -/
def or_ (a b : String) : String := if a = "" then b else a

/-! ### The gateway -/

/-- `tenant.TenantContext`. -/
structure TenantContext where
  tenantId : String
  userId : String
  shopId : String
  roles : List String
  permissions : List String
deriving DecidableEq, Repr

/-- The ids of a context. -/
def TenantContext.identity (context : TenantContext) : Identity :=
  ⟨context.tenantId, context.userId, context.shopId⟩

/-- The tenant that `tenant.Resolve` selects: the requested one, the default one, or the only
one. -/
def selectTenant (user : User) (requestedTenantID : String) : String :=
  let tenantID := or_ (trimSpaceString requestedTenantID) user.defaultTenantId
  if tenantID = "" ∧ user.tenantIds.length = 1 then user.tenantIds.headD "" else tenantID

/-- The shop that `tenant.Resolve` selects. -/
def selectShop (user : User) (requestedShopID : String) : String :=
  or_ (trimSpaceString requestedShopID) user.defaultShopId

/-- `tenant.Resolve`. -/
def resolve (user : User) (requestedTenantID requestedShopID : String) :
    Except String TenantContext :=
  let tenantID := selectTenant user requestedTenantID
  let shopID := selectShop user requestedShopID
  if tenantID = "" then .error "tenant required"
  else if tenantID ∉ user.tenantIds then .error "tenant forbidden"
  else if shopID ≠ "" ∧ user.shopIds ≠ [] ∧ shopID ∉ user.shopIds then .error "shop forbidden"
  else .ok ⟨tenantID, user.id, shopID, user.roles, user.permissions⟩

/-- The status, code and message of an error response. -/
structure Envelope where
  status : ℕ
  code : String
  message : String
deriving DecidableEq, Repr

/-- `requestedTenantID` of `Tenant`. -/
def Request.requestedTenant (request : Request) : String :=
  or_ (request.headers.get "X-Tenant-ID") (request.firstQuery "tenant_id")

/-- `requestedShopID` of `Tenant`. -/
def Request.requestedShop (request : Request) : String :=
  or_ (request.headers.get "X-Shop-ID") (request.firstQuery "shop_id")

/-- The responses of `Tenant` to the errors of `tenant.Resolve`. -/
def resolveEnvelope (e : String) : Envelope :=
  if e = "tenant required" then ⟨400, "TENANT_REQUIRED", "缺少租户上下文"⟩
  else if e = "tenant forbidden" then ⟨403, "TENANT_FORBIDDEN", "当前用户无权访问该租户"⟩
  else if e = "shop forbidden" then ⟨403, "TENANT_FORBIDDEN", "当前用户无权访问该店铺"⟩
  else ⟨403, "TENANT_FORBIDDEN", "租户上下文校验失败"⟩

/-- The middleware `Tenant`, for the user that `Auth` stored. -/
def tenant (currentUser : Option User) (request : Request) : Except Envelope TenantContext :=
  match currentUser with
  | none => .error ⟨401, "UNAUTHORIZED", "缺少认证用户上下文"⟩
  | some user =>
    match resolve user request.requestedTenant request.requestedShop with
    | .ok context => .ok context
    | .error e => .error (resolveEnvelope e)

/-- `JoinContextValues`. -/
def joinContextValues (values : List String) : String := String.intercalate "," values

/-- `injectTrustedHeaders`. -/
def injectTrustedHeaders (context : TenantContext) (headers : Headers) : Headers :=
  (((((headers.set "X-User-ID" context.userId).set "X-Tenant-ID" context.tenantId).set
    "X-Shop-ID" context.shopId).set "X-User-Role" (joinContextValues context.roles)).set
    "X-Permissions" (joinContextValues context.permissions)).set "X-Auth-Source" "gateway"

/-- A `Connection` field lists the header name; names are compared without regard to case. -/
def Headers.lists (headers : Headers) (name : String) : Bool :=
  (headers "Connection").any fun value =>
    (value.toList.splitOn ',').any fun option =>
      toLower (trimSpace option) = toLower name.toList

/-- What `httputil.ReverseProxy` forwards: it drops the header fields that `Connection` lists,
and it does so after the handler has changed the request. -/
def Headers.dropListed (headers : Headers) : Headers :=
  fun name => if headers.lists name then [] else headers name

/-- The request that `BrainProxy.Serve` sends to the Brain. -/
def serve (context : TenantContext) (request : Request) : Request :=
  { request with headers := (injectTrustedHeaders context request.headers).dropListed }

/-! ### The Brain -/

/-- The characters that `http.Header.Write` trims. -/
def isHeaderBlank (c : Char) : Bool := c == ' ' || c == '\t' || c == '\n' || c == '\r'

/-- The value without the blanks around it. -/
def trimHeader (value : String) : List Char :=
  (value.toList.dropWhile isHeaderBlank).rdropWhile isHeaderBlank

/-- What Starlette reads of a value that Go has written: the bytes of its UTF-8, as Latin-1. -/
def wire (value : String) : String := String.ofList (Mojibake.mojibake (trimHeader value))

/-- The request as it reaches the routes of the Brain; `query` is what Starlette reads in the query
string, which is forwarded unchanged. -/
def Request.received (request : Request) (query : List (String × String)) : Request :=
  ⟨fun name => (request.headers name).map wire, query⟩

/-- `gateway_identity`. -/
def gatewayIdentity (request : Request) : Except (ℕ × String) Identity :=
  let tenantId := or_ (or_ (request.headers.get "X-Tenant-ID") (request.lastQuery "tenant_id"))
    "tenant_demo"
  let userId := or_ (or_ (request.headers.get "X-User-ID") (request.lastQuery "user_id"))
    "local_user"
  let shopId := or_ (or_ (request.headers.get "X-Shop-ID") (request.lastQuery "shop_id")) ""
  if tenantId = "" ∨ userId = "" then .error (401, "缺少可信身份上下文")
  else .ok ⟨tenantId, userId, shopId⟩

/-- `requested_shop`. -/
def requestedShop (request : Request) (identity : Identity) : String :=
  or_ (or_ (request.lastQuery "shop_id") identity.shopId) ""

/-- `trusted_identity`. -/
def trustedIdentity (request : Request) (body : BodyIdentity) : Identity :=
  ⟨or_ (request.headers.get "X-Tenant-ID") body.tenantId,
    or_ (request.headers.get "X-User-ID") body.userId,
    or_ (request.headers.get "X-Shop-ID") body.shopId⟩

/-- The two ways in which a route obtains its identity.  Routes other than `POST /api/task` pass
the default ids to `trusted_identity`. -/
inductive Route
  | business
  | trusted (body : BodyIdentity)
deriving DecidableEq, Repr

/-- The tenant, user and shop on which a route acts. -/
def Route.effective (route : Route) (request : Request) : Except (ℕ × String) Identity :=
  match route with
  | .business =>
    match gatewayIdentity request with
    | .error e => .error e
    | .ok identity => .ok { identity with shopId := requestedShop request identity }
  | .trusted body => .ok (trustedIdentity request body)

/-! ### What arrives -/

lemma or_eq_left {a b : String} (ha : a ≠ "") : or_ a b = a := if_neg ha

@[simp] lemma or_empty_left (b : String) : or_ "" b = b := rfl

@[simp] lemma or_empty_right (a : String) : or_ a "" = a := by
  unfold or_
  split
  · rename_i h
    exact h.symm
  · rfl

lemma or_ne_empty {a b : String} (hb : b ≠ "") : or_ a b ≠ "" := by
  unfold or_
  split
  · exact hb
  · assumption

/-- A value that is used when it is there equals `a` exactly when it is `a`, or when it is missing
and the fallback is `a`. -/
lemma or_eq_iff {v b a : String} : or_ v b = a ↔ (v ≠ "" ∧ v = a) ∨ (v = "" ∧ b = a) := by
  unfold or_
  split <;> simp [*]

/-- What the Brain reads in a header field that the gateway set. -/
def delivered (headers : Headers) (name value : String) : String :=
  if headers.lists name then "" else wire value

/-- The id survives the header field: it has only ASCII characters and no blanks around it. -/
def Portable (id : String) : Prop :=
  (∀ c ∈ id.toList, c.toNat < 128) ∧ trimHeader id = id.toList

instance (id : String) : Decidable (Portable id) :=
  decidable_of_iff ((id.toList.all (·.toNat < 128) && trimHeader id == id.toList) = true)
    (by simp [Portable])

variable {context : TenantContext} {request : Request} {query : List (String × String)}

lemma isHeaderBlank_ascii (c : Char) (h : isHeaderBlank c = true) : c.toNat < 128 := by
  simp only [isHeaderBlank, Bool.or_eq_true, beq_iff_eq] at h
  rcases h with ((rfl | rfl) | rfl) | rfl <;> decide

lemma wire_eq_self_iff {value : String} : wire value = value ↔ Portable value := by
  rw [Portable, wire, ← String.toList_inj, String.toList_ofList]
  exact Mojibake.mojibake_trim_eq_iff isHeaderBlank_ascii

lemma wire_eq_empty_iff {value : String} : wire value = "" ↔ trimHeader value = [] := by
  rw [wire, ← String.toList_inj, String.toList_ofList]
  refine ⟨fun h => ?_, fun h => by rw [h]; rfl⟩
  exact Mojibake.mojibake_injective (h.trans rfl)

@[simp] lemma portable_empty : Portable "" := ⟨by simp, rfl⟩

lemma inject_connection : (injectTrustedHeaders context request.headers) "Connection" =
    request.headers "Connection" := rfl

lemma lists_inject (name : String) :
    (injectTrustedHeaders context request.headers).lists name = request.headers.lists name := by
  simp only [Headers.lists, inject_connection]

lemma get_received {name value : String}
    (h : injectTrustedHeaders context request.headers name = [value]) :
    ((serve context request).received query).headers.get name =
      delivered request.headers name value := by
  simp only [Request.received, serve, Headers.get, Headers.dropListed, lists_inject, delivered]
  split
  · rfl
  · rw [h]
    rfl

lemma get_received_tenant : ((serve context request).received query).headers.get "X-Tenant-ID" =
    delivered request.headers "X-Tenant-ID" context.tenantId := get_received rfl

lemma get_received_user : ((serve context request).received query).headers.get "X-User-ID" =
    delivered request.headers "X-User-ID" context.userId := get_received rfl

lemma get_received_shop : ((serve context request).received query).headers.get "X-Shop-ID" =
    delivered request.headers "X-Shop-ID" context.shopId := get_received rfl

/-- The id reaches the Brain in the header field. -/
def Arrives (headers : Headers) (name id : String) : Prop :=
  headers.lists name = false ∧ id ≠ "" ∧ Portable id

/-- The Brain finds nothing in the header field. -/
def Missing (headers : Headers) (name id : String) : Prop :=
  headers.lists name = true ∨ trimHeader id = []

/-- Where a header is the first choice, the value is right exactly when it arrives, or when nothing
arrives and the fallback happens to be the same. -/
lemma or_delivered_eq_iff {headers : Headers} {name value fallback : String} :
    or_ (delivered headers name value) fallback = value ↔
      Arrives headers name value ∨ Missing headers name value ∧ fallback = value := by
  rw [or_eq_iff]
  unfold delivered Arrives Missing
  cases headers.lists name with
  | true => simp
  | false =>
    simp only [Bool.false_eq_true, if_false, true_and, false_or]
    rw [← wire_eq_empty_iff, ← wire_eq_self_iff]
    refine or_congr_left ?_
    constructor
    · rintro ⟨hne, heq⟩
      exact ⟨heq ▸ hne, heq⟩
    · rintro ⟨hne, heq⟩
      exact ⟨heq.symm ▸ hne, heq⟩

lemma or_assoc' (a b c : String) : or_ (or_ a b) c = or_ a (or_ b c) := by
  by_cases ha : a = ""
  · simp [ha]
  · simp [or_eq_left ha]

/-- `gateway_identity` never refuses: its defaults are not empty. -/
lemma gatewayIdentity_received : gatewayIdentity ((serve context request).received query) = .ok
    ⟨or_ (delivered request.headers "X-Tenant-ID" context.tenantId)
        (or_ (((serve context request).received query).lastQuery "tenant_id") "tenant_demo"),
      or_ (delivered request.headers "X-User-ID" context.userId)
        (or_ (((serve context request).received query).lastQuery "user_id") "local_user"),
      or_ (delivered request.headers "X-Shop-ID" context.shopId)
        (((serve context request).received query).lastQuery "shop_id")⟩ := by
  have htenant : ∀ a : String, or_ a "tenant_demo" ≠ "" := fun _ => or_ne_empty (by decide)
  have huser : ∀ a : String, or_ a "local_user" ≠ "" := fun _ => or_ne_empty (by decide)
  simp only [gatewayIdentity, htenant, huser, or_self, if_false]
  simp only [get_received_tenant, get_received_user, get_received_shop, or_assoc', or_empty_right]

/-- The tenant id that the Brain uses when the header field does not arrive. -/
def Route.tenantFallback (route : Route) (request : Request) : String :=
  match route with
  | .business => or_ (request.lastQuery "tenant_id") "tenant_demo"
  | .trusted body => body.tenantId

/-- The user id that the Brain uses when the header field does not arrive. -/
def Route.userFallback (route : Route) (request : Request) : String :=
  match route with
  | .business => or_ (request.lastQuery "user_id") "local_user"
  | .trusted body => body.userId

/-- Nothing that the Brain consults contradicts the ids that the gateway selects for `user`: they
arrive in the header fields, or nothing does and the fallback is the same id; on business and
AI-chat routes the last `shop_id` parameter moreover is missing, empty or the selected shop.
`received` is the request as it reaches the Brain. -/
structure Agrees (user : User) (request received : Request) (route : Route) : Prop where
  tenantAgrees :
    Arrives request.headers "X-Tenant-ID" (selectTenant user request.requestedTenant) ∨
      Missing request.headers "X-Tenant-ID" (selectTenant user request.requestedTenant) ∧
        route.tenantFallback received = selectTenant user request.requestedTenant
  userAgrees : Arrives request.headers "X-User-ID" user.id ∨
    Missing request.headers "X-User-ID" user.id ∧ route.userFallback received = user.id
  shopAgrees : match route with
    | .business => received.lastQuery "shop_id" = selectShop user request.requestedShop ∨
        received.lastQuery "shop_id" = "" ∧ request.headers.lists "X-Shop-ID" = false ∧
          Portable (selectShop user request.requestedShop)
    | .trusted body =>
        Arrives request.headers "X-Shop-ID" (selectShop user request.requestedShop) ∨
          Missing request.headers "X-Shop-ID" (selectShop user request.requestedShop) ∧
            body.shopId = selectShop user request.requestedShop

section Selected

-- only the ids that the gateway selects matter below, not how they are computed
attribute [local irreducible] selectTenant selectShop Headers.lists

/-- A context that `Tenant` stores holds the selected ids. -/
lemma tenant_eq_ok {user : User} (h : tenant (some user) request = .ok context) :
    context.tenantId = selectTenant user request.requestedTenant ∧
      context.userId = user.id ∧ context.shopId = selectShop user request.requestedShop := by
  have hresolve : resolve user request.requestedTenant request.requestedShop = .ok context := by
    simp only [tenant] at h
    split at h
    · rename_i context' hctx
      cases h
      exact hctx
    · cases h
  simp only [resolve] at hresolve
  split at hresolve
  · cases hresolve
  · split at hresolve
    · cases hresolve
    · split at hresolve
      · cases hresolve
      · cases hresolve
        exact ⟨rfl, rfl, rfl⟩

/-- The shop that a business route uses: the query parameter comes before the header. -/
lemma shop_business_eq_iff {headers : Headers} {last value : String} :
    or_ last (or_ (delivered headers "X-Shop-ID" value) last) = value ↔
      last = value ∨ last = "" ∧ headers.lists "X-Shop-ID" = false ∧ Portable value := by
  by_cases hlast : last = ""
  · subst hlast
    simp only [or_empty_left, or_empty_right, true_and]
    unfold delivered
    cases headers.lists "X-Shop-ID" with
    | true => simp
    | false =>
      simp only [Bool.false_eq_true, if_false, true_and, wire_eq_self_iff]
      refine ⟨.inr, ?_⟩
      rintro (rfl | h)
      · exact portable_empty
      · exact h
  · simp [or_eq_left hlast, hlast]

/-- In terms of the validated context: what arrives, else the fallback, is the context's id. -/
lemma agrees_iff {user : User} (h : tenant (some user) request = .ok context) (received : Request)
    (route : Route) :
    Agrees user request received route ↔
      or_ (delivered request.headers "X-Tenant-ID" context.tenantId)
          (route.tenantFallback received) = context.tenantId ∧
        or_ (delivered request.headers "X-User-ID" context.userId)
          (route.userFallback received) = context.userId ∧
        (match route with
          | .business => or_ (received.lastQuery "shop_id")
              (or_ (delivered request.headers "X-Shop-ID" context.shopId)
                (received.lastQuery "shop_id")) = context.shopId
          | .trusted body => or_ (delivered request.headers "X-Shop-ID" context.shopId)
              body.shopId = context.shopId) := by
  obtain ⟨htenant, huser, hshop⟩ := tenant_eq_ok h
  rw [or_delivered_eq_iff, or_delivered_eq_iff, htenant, huser, hshop]
  constructor
  · rintro ⟨ht, hu, hs⟩
    refine ⟨ht, hu, ?_⟩
    cases route with
    | business => exact shop_business_eq_iff.2 hs
    | trusted body => exact or_delivered_eq_iff.2 hs
  · rintro ⟨ht, hu, hs⟩
    refine ⟨ht, hu, ?_⟩
    cases route with
    | business => exact shop_business_eq_iff.1 hs
    | trusted body => exact or_delivered_eq_iff.1 hs

end Selected

/-- A user of one tenant who may use one shop. -/
def clerk : User where
  id := "clerk"
  name := "Clerk"
  email := ""
  phone := ""
  companyName := ""
  plan := "Team"
  onboardingDone := true
  tenantIds := ["acme"]
  defaultTenantId := "acme"
  shopIds := ["shop_a"]
  defaultShopId := "shop_a"
  roles := ["admin"]
  permissions := []

/-- The context of `clerk`. -/
def clerkContext : TenantContext := ⟨"acme", "clerk", "shop_a", ["admin"], []⟩

/-- A request without identity headers. -/
def plainRequest (query : List (String × String)) : Request := ⟨fun _ => [], query⟩

end EcommerceAgent.Gateway
