/-
# Authorization at the gateway

`Register`, `Login` and `CreateShop` of `gateway/internal/handlers/auth_handler.go` load a user and
hand him to `ensureTenantAdminPolicy`, which makes him an administrator of all his tenants, whatever
role is stored for him there.  The enforcer starts from `configs/casbin/policy.csv`.  As long as all
users who come are stored as administrators, the enforcer says what `gateway_user_tenants` says
(`mirrorsRoles`).
-/
import EcommerceAgent.Lib.Rbac
import EcommerceAgent.Gateway.Bindings

open EcommerceAgent.Lib

namespace EcommerceAgent.Gateway

/-! ### Policies -/

/-- `platformPolicies`: the routes and methods of a tenant's administrator. -/
def platformPolicies : List (String × String) :=
  [("/api/v1/auth/me", "GET"), ("/api/v1/auth/logout", "POST"), ("/api/v1/auth/shops", "POST"),
    ("/api/v1/account/profile", "PUT"), ("/api/v1/account/password", "PUT"),
    ("/api/v1/account/onboarding-completed", "POST"), ("/api/v1/workspace", "GET"),
    ("/api/v1/dashboard", "GET"), ("/api/v1/products", "GET"),
    ("/api/v1/products/analyze", "POST"), ("/api/v1/inventory/risks", "GET"),
    ("/api/v1/inventory/replenishment-plan", "POST"), ("/api/v1/campaigns", "GET"),
    ("/api/v1/campaigns/:campaign_id/review", "POST"), ("/api/v1/onboarding/complete", "POST"),
    ("/api/v1/ai-chat/messages", "POST"), ("/api/v1/ai-chat/conversations", "GET"),
    ("/api/v1/ai-chat/conversations/:conversation_id/messages", "GET"),
    ("/api/v1/ai-chat/messages/:message_id", "GET"),
    ("/api/v1/ai-chat/tasks/:task_id/timeline", "GET"),
    ("/api/v1/ai-chat/tasks/:task_id/cancel", "POST"), ("/api/v1/reports", "(GET|POST)"),
    ("/api/v1/reports/*path", "(GET|POST|PUT|PATCH|DELETE)"),
    ("/api/v1/agents", "(GET|POST|PUT|PATCH|DELETE)"),
    ("/api/v1/agents/*path", "(GET|POST|PUT|PATCH|DELETE)"),
    ("/api/v1/agents/strategies/:strategy_id/defer", "POST"),
    ("/api/v1/data-import/*path", "(GET|POST|PUT|PATCH|DELETE)"), ("/api/v1/shops", "(GET|POST)"),
    ("/api/v1/shops/*path", "(GET|POST|PUT|PATCH|DELETE)"), ("/api/v1/integrations", "GET"),
    ("/api/v1/integrations/*path", "(GET|POST|PUT|PATCH|DELETE)"), ("/api/v1/tasks", "POST"),
    ("/api/v1/tasks", "GET"), ("/api/v1/tasks/:thread_id", "GET"),
    ("/api/v1/tasks/:thread_id/cancel", "POST"), ("/api/v1/tasks/:thread_id/resume", "POST"),
    ("/api/v1/uploads", "POST"), ("/api/v1/files", "GET"), ("/api/v1/download", "GET"),
    ("/api/v1/tools/catalog", "GET"), ("/api/v1/memories/search", "POST"),
    ("/api/v1/memories/reviews", "GET"), ("/api/v1/memories/reviews/:review_id/approve", "POST"),
    ("/api/v1/memories/reviews/:review_id/reject", "POST"), ("/api/v1/policy/proposals", "GET"),
    ("/api/v1/policy/proposals/:proposal_id/approve", "POST"),
    ("/api/v1/policy/proposals/:proposal_id/reject", "POST"), ("/api/v1/traces/:task_id", "GET"),
    ("/api/v1/traces/:task_id/timeline", "GET"), ("/api/v1/metrics/agents", "GET"),
    ("/api/v1/agent-runtime/health", "GET"), ("/api/v1/agent-runtime/metrics", "GET"),
    ("/api/v1/agent-runtime/slow-tasks", "GET"),
    ("/api/v1/agent-runtime/tasks/:task_id/diagnosis", "GET"), ("/api/v1/ws/:thread_id", "GET")]

/-- The policies of `policy.csv` for one role in `tenant_demo`. -/
def demoPolicies (role : String) (routes : List (String × String)) : List Policy :=
  routes.map fun route => ⟨role, "tenant_demo", route.1, route.2⟩

/-- `configs/casbin/policy.csv`. -/
def policyFile : Enforcer where
  policies :=
    ⟨"super_admin", "*", "/*", "(GET|POST|PUT|PATCH|DELETE)"⟩ ::
    demoPolicies "admin"
      [("/api/v1/auth/me", "GET"), ("/api/v1/auth/logout", "POST"), ("/api/v1/auth/shops", "POST"),
      ("/api/v1/account/profile", "PUT"), ("/api/v1/account/password", "PUT"),
      ("/api/v1/account/onboarding-completed", "POST"), ("/api/v1/workspace", "GET"),
      ("/api/v1/dashboard", "GET"), ("/api/v1/products", "GET"),
      ("/api/v1/products/analyze", "POST"), ("/api/v1/inventory/risks", "GET"),
      ("/api/v1/inventory/replenishment-plan", "POST"), ("/api/v1/campaigns", "GET"),
      ("/api/v1/campaigns/:campaign_id/review", "POST"), ("/api/v1/onboarding/complete", "POST"),
      ("/api/v1/ai-chat/messages", "POST"), ("/api/v1/reports", "(GET|POST)"),
      ("/api/v1/reports/*path", "(GET|POST|PUT|PATCH|DELETE)"), ("/api/v1/agents", "GET"),
      ("/api/v1/agents/*path", "(GET|POST|PUT|PATCH|DELETE)"),
      ("/api/v1/agents/strategies/:strategy_id/defer", "POST"),
      ("/api/v1/data-import/*path", "(GET|POST|PUT|PATCH|DELETE)"),
      ("/api/v1/shops", "(GET|POST)"), ("/api/v1/shops/*path", "(GET|POST|PUT|PATCH|DELETE)"),
      ("/api/v1/integrations", "GET"),
      ("/api/v1/integrations/*path", "(GET|POST|PUT|PATCH|DELETE)"), ("/api/v1/tasks", "POST"),
      ("/api/v1/tasks", "GET"), ("/api/v1/tasks/:id", "GET"), ("/api/v1/tasks/:id/cancel", "POST"),
      ("/api/v1/tasks/:id/resume", "POST"), ("/api/v1/uploads", "POST"), ("/api/v1/files", "GET"),
      ("/api/v1/download", "GET"), ("/api/v1/tools/catalog", "GET"),
      ("/api/v1/memories/search", "POST"), ("/api/v1/memories/reviews", "GET"),
      ("/api/v1/memories/reviews/:id/approve", "POST"),
      ("/api/v1/memories/reviews/:id/reject", "POST"), ("/api/v1/policy/proposals", "GET"),
      ("/api/v1/policy/proposals/:id/approve", "POST"),
      ("/api/v1/policy/proposals/:id/reject", "POST"), ("/api/v1/traces/:id", "GET"),
      ("/api/v1/traces/:id/timeline", "GET"), ("/api/v1/metrics/agents", "GET"),
      ("/api/v1/ws/:id", "GET")] ++
    demoPolicies "operator"
      [("/api/v1/tasks", "POST"), ("/api/v1/tasks", "GET"), ("/api/v1/tasks/:id", "GET"),
      ("/api/v1/tasks/:id/cancel", "POST"), ("/api/v1/uploads", "POST"), ("/api/v1/files", "GET"),
      ("/api/v1/download", "GET"), ("/api/v1/memories/search", "POST")] ++
    demoPolicies "viewer"
      [("/api/v1/tasks", "GET"), ("/api/v1/tasks/:id", "GET"), ("/api/v1/files", "GET"),
      ("/api/v1/download", "GET")]
  groupings := [⟨"local_user", "admin", "tenant_demo"⟩]

/-- `ensureTenantAdminPolicy`; the enforcer is never nil. -/
def ensureTenantAdminPolicy (user : User) (enforcer : Enforcer) : Enforcer :=
  user.tenantIds.foldl (fun e tenantID =>
    (platformPolicies.map fun policy => ⟨"admin", tenantID, policy.1, policy.2⟩).foldl
      Enforcer.addPolicy (e.addGrouping ⟨user.id, "admin", tenantID⟩)) enforcer

/-! ### The handlers -/

structure RegisterRequest where
  username : String
  account : String
  name : String
  email : String
  phone : String
  companyName : String
  confirmPassword : String
  password : String
  tenantID : String
  tenantName : String
  tenantNameCamel : String
  shopID : String
  shopName : String
deriving DecidableEq, Repr

structure LoginRequest where
  account : String
  username : String
  email : String
  phone : String
  password : String
deriving DecidableEq, Repr

structure CreateShopRequest where
  tenantID : String
  shopID : String
  shopName : String
deriving DecidableEq, Repr

/-- `firstNonEmpty` of the handlers, which does not trim. -/
def firstGiven : List String → String
  | [] => ""
  | value :: values => if value = "" then firstGiven values else value

/-- What a request finds outside: the backend of the store, bcrypt's comparison of a hash with a
password, and whether the query of `Authenticate` fails. -/
structure AuthBackend extends Backend where
  comparePassword : String → String → Bool
  authenticateFault : Bool

/-- `MySQLUserStore.Authenticate`. -/
def Tables.authenticate (collate : String → String) (b : AuthBackend) (username password : String)
    (s : Tables) : Except String User :=
  let account := trimSpaceString username
  let userID := normalizeIdentifier account
  if (userID = "" ∧ account = "") ∨ b.authenticateFault then .error "invalid credentials"
  else
    match s.users.find? fun r =>
      (collate r.id == collate userID || sameUnique collate r.email (some account) ||
        sameUnique collate r.phone (some account)) && collate r.status == collate "active" with
    | none => .error "invalid credentials"
    | some r =>
      if b.comparePassword r.passwordHash password then s.loadUser collate b.toBackend r.id
      else .error "invalid credentials"

/-- `account` of `Register`. -/
def RegisterRequest.accountGiven (request : RegisterRequest) : String :=
  firstGiven [request.email, request.phone, request.account, request.username]

/-- The input that `Register` hands to the store. -/
def RegisterRequest.input (request : RegisterRequest) : RegisterInput where
  userId := request.accountGiven
  name := request.name
  email := request.email
  phone := request.phone
  companyName := request.companyName
  plan := ""
  password := request.password
  tenantId := request.tenantID
  tenantName := firstGiven [request.tenantName, request.tenantNameCamel, request.companyName]
  shopId := request.shopID
  shopName := request.shopName

/-- `registerErrorMessage`. -/
def registerErrorMessage (reason : String) : String :=
  if reason = "user already exists" then "账号已存在，请直接登录"
  else if reason = "account required" then "请输入邮箱或手机号"
  else if reason = "user id required" then "请输入用户名"
  else if reason = "password required" then "请输入密码"
  else "注册失败"

/-- `shopErrorMessage`. -/
def shopErrorMessage (reason : String) : String :=
  if reason = "shop id required" then "请输入店铺标识"
  else if reason = "tenant forbidden" then "当前用户无权在该组织下创建店铺"
  else "店铺接入失败"

/-- `AuthHandler`, without the token manager, which neither the store nor the enforcer sees. -/
structure AuthHandler where
  store : Tables
  enforcer : Enforcer

namespace AuthHandler

variable (collate : String → String) (b : AuthBackend) (h : AuthHandler)

/-- A user of the store gets his policies and a token. -/
def respond (user : User) (store : Tables) : Except Envelope User × AuthHandler :=
  (.ok user, ⟨store, ensureTenantAdminPolicy user h.enforcer⟩)

/-- `Register`. -/
def register (request : RegisterRequest) : Except Envelope User × AuthHandler :=
  if request.password = "" then (.error ⟨400, "INVALID_REQUEST", "请输入用户名和密码"⟩, h)
  else if request.confirmPassword ≠ "" ∧ request.confirmPassword ≠ request.password then
    (.error ⟨400, "INVALID_REQUEST", "两次输入的密码不一致"⟩, h)
  else if trimSpaceString request.accountGiven = "" then
    (.error ⟨400, "INVALID_REQUEST", "请输入邮箱或手机号"⟩, h)
  else
    match h.store.register collate b.toBackend request.input with
    | (.error e, store) =>
      (.error ⟨if e = "user already exists" then 409 else 400, "REGISTER_FAILED",
        registerErrorMessage e⟩, { h with store := store })
    | (.ok user, store) => h.respond user store

/-- `Login`. -/
def login (request : LoginRequest) : Except Envelope User × AuthHandler :=
  let account := firstGiven [request.account, request.username, request.email, request.phone]
  if request.password = "" then (.error ⟨400, "INVALID_REQUEST", "请输入用户名和密码"⟩, h)
  else if trimSpaceString account = "" then
    (.error ⟨400, "INVALID_REQUEST", "请输入账号和密码"⟩, h)
  else
    match h.store.authenticate collate b account request.password with
    | .error _ => (.error ⟨401, "INVALID_CREDENTIALS", "账号或密码错误"⟩, h)
    | .ok user => h.respond user h.store

/-- `CreateShop`, for the id of the user that `Auth` stored. -/
def createShop (currentUser : Option String) (request : CreateShopRequest) :
    Except Envelope User × AuthHandler :=
  match currentUser with
  | none => (.error ⟨401, "UNAUTHORIZED", "缺少认证用户上下文"⟩, h)
  | some userID =>
    if request.shopID = "" then (.error ⟨400, "INVALID_REQUEST", "请输入店铺 ID"⟩, h)
    else
      match h.store.addShop collate b.toBackend userID request.tenantID
        (firstGiven [request.shopID, request.shopName]) with
      | (.error e, store) =>
        (.error ⟨400, "CREATE_SHOP_FAILED", shopErrorMessage e⟩, { h with store := store })
      | (.ok user, store) => h.respond user store

end AuthHandler

/-- A request to one of the three handlers. -/
inductive AuthRequest
  | register (b : AuthBackend) (request : RegisterRequest)
  | login (b : AuthBackend) (request : LoginRequest)
  | createShop (b : AuthBackend) (currentUser : Option String) (request : CreateShopRequest)

/-- The response to a request, and the handler after it. -/
def AuthHandler.handle (collate : String → String) (h : AuthHandler) :
    AuthRequest → Except Envelope User × AuthHandler
  | .register b request => h.register collate b request
  | .login b request => h.login collate b request
  | .createShop b currentUser request => h.createShop collate b currentUser request

/-- The handler after a request. -/
def AuthHandler.step (collate : String → String) (h : AuthHandler) (request : AuthRequest) :
    AuthHandler := (h.handle collate request).2

/-! ### What the enforcer should say -/

/-- `gateway_user_tenants` has the row of the user, the tenant and the role. -/
def Tables.HasRole (collate : String → String) (s : Tables) (u t role : String) : Prop :=
  ∃ r ∈ s.userTenants,
    collate r.userId = collate u ∧ collate r.tenantId = collate t ∧ collate r.role = collate role

namespace AuthHandler

variable (collate : String → String) (matchObj matchAct : String → String → Bool)

/-- Administrators of the enforcer are stored as such, and a user who is stored with another role in
a tenant is not linked to the administrator there. -/
structure Mirrors (h : AuthHandler) : Prop where
  grouping : ∀ u t, ⟨u, "admin", t⟩ ∈ h.enforcer.groupings → h.store.HasRole collate u t "admin"
  linked : ∀ u t role, h.store.HasRole collate u t role → ¬ h.store.HasRole collate u t "admin" →
    h.enforcer.linked u "admin" t = false

/-- A login allows nobody anything new. -/
def NotWidened (h : AuthHandler) (request : AuthRequest) : Prop :=
  ∀ b login, request = .login b login → ∀ u t obj act,
    (h.step collate request).enforcer.enforce matchObj matchAct u t obj act = true →
      h.enforcer.enforce matchObj matchAct u t obj act = true

/-- In every state of the run the enforcer mirrors the store, and no login of the run widens it. -/
def MirrorsRoles (h : AuthHandler) (requests : List AuthRequest) : Prop :=
  (∀ done, done <+: requests → (run (step collate) h done).Mirrors collate) ∧
    Along (step collate) (NotWidened collate matchObj matchAct) h requests

/-- The condition on one request: the user that it loads is stored as an administrator wherever a
role is stored for him, and if he logs in, the enforcer has this already. -/
structure RoleStep (h : AuthHandler) (request : AuthRequest) : Prop where
  admin : ∀ user, (h.handle collate request).1 = .ok user → ∀ t role,
    (h.step collate request).store.HasRole collate user.id t role →
      (h.step collate request).store.HasRole collate user.id t "admin"
  loaded : ∀ b login user, request = .login b login → (h.handle collate request).1 = .ok user →
    ∀ t ∈ user.tenantIds, ⟨user.id, "admin", t⟩ ∈ h.enforcer.groupings ∧
      ∀ policy ∈ platformPolicies, ⟨"admin", t, policy.1, policy.2⟩ ∈ h.enforcer.policies

/-- A user who is called like a role is stored as an administrator, wherever a role is stored for
him, and so is the user of the policy file. -/
structure RolesSeeded (s : Tables) : Prop where
  named : ∀ t role, s.HasRole collate "admin" t role → s.HasRole collate "admin" t "admin"
  file : s.HasRole collate "local_user" "tenant_demo" "admin"

variable {collate matchObj matchAct} {h h' : AuthHandler} {user : User}

/-! ### What a request does -/

lemma loadUser_of_register {b : Backend} {input : RegisterInput} {s s' : Tables}
    (hr : s.register collate b input = (.ok user, s')) :
    s'.loadUser collate b input.userID = .ok user := by
  simp only [Tables.register] at hr
  split at hr
  · cases hr
  · split at hr
    · cases hr
    · split at hr
      · cases hr
      · split at hr
        · cases hr
        · obtain ⟨hload, rfl⟩ := Prod.mk.inj hr
          exact hload

lemma loadUser_of_addShop {b : Backend} {userID tenantID shopID : String} {s s' : Tables}
    (hr : s.addShop collate b userID tenantID shopID = (.ok user, s')) :
    s'.loadUser collate b userID = .ok user := by
  simp only [Tables.addShop] at hr
  split at hr
  · cases hr
  · split at hr
    · cases hr
    · rename_i member _
      generalize normalizeIdentifier
        (if tenantID = "" then member.defaultTenantId else tenantID) = t at hr
      split at hr
      · cases hr
      · split at hr
        · cases hr
        · obtain ⟨hload, rfl⟩ := Prod.mk.inj hr
          exact hload

lemma loadUser_of_authenticate {b : AuthBackend} {username password : String} {s : Tables}
    (ha : s.authenticate collate b username password = .ok user) :
    ∃ userID, s.loadUser collate b.toBackend userID = .ok user := by
  simp only [Tables.authenticate] at ha
  split at ha
  · cases ha
  · split at ha
    · cases ha
    · split at ha
      · exact ⟨_, ha⟩
      · cases ha

lemma mem_groupings_ensure {e : Enforcer} {g : Grouping} :
    g ∈ (ensureTenantAdminPolicy user e).groupings ↔
      g ∈ e.groupings ∨ ∃ t ∈ user.tenantIds, g = ⟨user.id, "admin", t⟩ := by
  unfold ensureTenantAdminPolicy
  generalize platformPolicies = policies
  generalize user.tenantIds = tenants
  induction tenants generalizing e with
  | nil => simp
  | cons t ts ih =>
    rw [List.foldl_cons, ih, Enforcer.groupings_foldl_addPolicy,
      Enforcer.mem_groupings_addGrouping, or_assoc]
    simp only [List.mem_cons, exists_eq_or_imp]

/-- Nothing is added for a user whose groupings and policies are there. -/
lemma ensure_of_loaded {e : Enforcer}
    (hloaded : ∀ t ∈ user.tenantIds, ⟨user.id, "admin", t⟩ ∈ e.groupings ∧
      ∀ policy ∈ platformPolicies, ⟨"admin", t, policy.1, policy.2⟩ ∈ e.policies) :
    ensureTenantAdminPolicy user e = e := by
  unfold ensureTenantAdminPolicy
  generalize platformPolicies = policies at hloaded ⊢
  generalize user.tenantIds = tenants at hloaded ⊢
  induction tenants with
  | nil => rfl
  | cons t ts ih =>
    obtain ⟨hgrouping, hpolicies⟩ := hloaded t List.mem_cons_self
    have hfold : (policies.map fun policy => (⟨"admin", t, policy.1, policy.2⟩ : Policy)).foldl
        Enforcer.addPolicy e = e := by
      refine Enforcer.foldl_addPolicy_of_mem fun p hp => ?_
      obtain ⟨policy, hpolicy, rfl⟩ := List.mem_map.1 hp
      exact hpolicies policy hpolicy
    rw [List.foldl_cons, Enforcer.addGrouping_of_mem hgrouping, hfold]
    exact ih fun t' ht' => hloaded t' (List.mem_cons_of_mem _ ht')

/-- A request that goes through loads its user from the store that it leaves, and hands him to
`ensureTenantAdminPolicy`; any other request leaves the enforcer alone. -/
lemma handle_cases (collate : String → String) (h : AuthHandler) (request : AuthRequest) :
    (∃ user b userID, (h.handle collate request).1 = .ok user ∧
      (h.step collate request).store.loadUser collate b userID = .ok user ∧
      (h.step collate request).enforcer = ensureTenantAdminPolicy user h.enforcer) ∨
    (∃ e, (h.handle collate request).1 = .error e) ∧
      (h.step collate request).enforcer = h.enforcer := by
  cases request with
  | register b request =>
    simp only [step, handle, register]
    split
    · exact .inr ⟨⟨_, rfl⟩, rfl⟩
    · split
      · exact .inr ⟨⟨_, rfl⟩, rfl⟩
      · split
        · exact .inr ⟨⟨_, rfl⟩, rfl⟩
        · split
          · exact .inr ⟨⟨_, rfl⟩, rfl⟩
          · rename_i user store hregister
            exact .inl ⟨user, b.toBackend, request.input.userID, rfl,
              loadUser_of_register hregister, rfl⟩
  | login b request =>
    simp only [step, handle, login]
    split
    · exact .inr ⟨⟨_, rfl⟩, rfl⟩
    · split
      · exact .inr ⟨⟨_, rfl⟩, rfl⟩
      · split
        · exact .inr ⟨⟨_, rfl⟩, rfl⟩
        · rename_i user hauth
          obtain ⟨userID, hload⟩ := loadUser_of_authenticate hauth
          exact .inl ⟨user, b.toBackend, userID, rfl, hload, rfl⟩
  | createShop b currentUser request =>
    cases currentUser with
    | none => exact .inr ⟨⟨_, rfl⟩, rfl⟩
    | some userID =>
      simp only [step, handle, createShop]
      split
      · exact .inr ⟨⟨_, rfl⟩, rfl⟩
      · split
        · exact .inr ⟨⟨_, rfl⟩, rfl⟩
        · rename_i user store hadd
          exact .inl ⟨user, b.toBackend, userID, rfl, loadUser_of_addShop hadd, rfl⟩

/-- A request adds a membership at most, and only with the role of an administrator. -/
lemma userTenants_step (collate : String → String) (h : AuthHandler) (request : AuthRequest) :
    (h.step collate request).store.userTenants = h.store.userTenants ∨
      ∃ u t, (h.step collate request).store.userTenants =
        h.store.userTenants ++ [⟨u, t, "admin"⟩] := by
  cases request with
  | register b request =>
    have hstore : (h.step collate (.register b request)).store = h.store ∨
        (h.step collate (.register b request)).store =
          (h.store.register collate b.toBackend request.input).2 := by
      simp only [step, handle, register]
      split
      · exact .inl rfl
      · split
        · exact .inl rfl
        · split
          · exact .inl rfl
          · split
            · rename_i hregister
              exact .inr (congrArg Prod.snd hregister).symm
            · rename_i hregister
              exact .inr (congrArg Prod.snd hregister).symm
    rcases hstore with hstore | hstore <;> rw [hstore]
    · exact .inl rfl
    · rcases Tables.register_cases collate b.toBackend request.input h.store with
        ⟨-, passwordHash, -, hregister⟩ | ⟨-, hregister⟩ <;> rw [hregister]
      · exact .inr ⟨_, _, rfl⟩
      · exact .inl rfl
  | login b request =>
    refine .inl ?_
    simp only [step, handle, login]
    split
    · rfl
    · split
      · rfl
      · split <;> rfl
  | createShop b currentUser request =>
    refine .inl ?_
    cases currentUser with
    | none => rfl
    | some userID =>
      have hadd : ∀ shopID, (h.store.addShop collate b.toBackend userID request.tenantID
          shopID).2.userTenants = h.store.userTenants := by
        intro shopID
        rcases Tables.addShop_cases collate b.toBackend userID request.tenantID shopID h.store with
          hsame | ⟨t, x, users, -, hnew⟩
        · rw [hsame]
        · rw [hnew]
          rfl
      simp only [step, handle, createShop]
      split
      · rfl
      · split
        · rename_i hstore
          exact (congrArg (·.2.userTenants) hstore).symm.trans (hadd _)
        · rename_i hstore
          exact (congrArg (·.2.userTenants) hstore).symm.trans (hadd _)

/-! ### The invariant -/

lemma hasRole_mono {request : AuthRequest} {u t role : String}
    (hrole : h.store.HasRole collate u t role) :
    (h.step collate request).store.HasRole collate u t role := by
  obtain ⟨r, hr, hkey⟩ := hrole
  refine ⟨r, ?_, hkey⟩
  rcases userTenants_step collate h request with hsame | ⟨u', t', hnew⟩
  · rw [hsame]
    exact hr
  · rw [hnew]
    exact List.mem_append_left _ hr

/-- A role that a request adds is the administrator. -/
lemma hasRole_step {request : AuthRequest} {u t role : String}
    (hrole : (h.step collate request).store.HasRole collate u t role) :
    h.store.HasRole collate u t role ∨
      (h.step collate request).store.HasRole collate u t "admin" := by
  obtain ⟨r, hr, hu, ht, hrole⟩ := hrole
  rcases userTenants_step collate h request with hsame | ⟨u', t', hnew⟩
  · rw [hsame] at hr
    exact .inl ⟨r, hr, hu, ht, hrole⟩
  · rcases List.mem_append.1 (hnew ▸ hr) with hold | hadded
    · exact .inl ⟨r, hold, hu, ht, hrole⟩
    · rw [List.mem_singleton] at hadded
      exact .inr ⟨r, hr, hu, ht, by rw [hadded]⟩

/-- Only administrators are in the enforcer, and they are stored as such; so is a user who is called
like the role. -/
structure Mirrored (collate : String → String) (h : AuthHandler) : Prop where
  stored : ∀ g ∈ h.enforcer.groupings,
    g.role = "admin" ∧ h.store.HasRole collate g.user g.dom "admin"
  named : ∀ t role, h.store.HasRole collate "admin" t role →
    h.store.HasRole collate "admin" t "admin"

lemma RolesSeeded.mirrored {s : Tables} (hs : RolesSeeded collate s) :
    Mirrored collate ⟨s, policyFile⟩ where
  stored g hg := by
    obtain rfl : g = ⟨"local_user", "admin", "tenant_demo"⟩ := List.mem_singleton.1 hg
    exact ⟨rfl, hs.file⟩
  named := hs.named

lemma Mirrored.mirrors (hm : Mirrored collate h) : h.Mirrors collate where
  grouping u t hg := (hm.stored _ hg).2
  linked u t role hrole hno := by
    by_contra hlinked
    have hlinked : h.enforcer.linked u "admin" t = true := by simpa using hlinked
    have hroles : ∀ g ∈ h.enforcer.groupings, g.role = "admin" := fun g hg => (hm.stored g hg).1
    rcases Enforcer.mem_groupings_of_linked hroles hlinked with rfl | hg
    · exact hno (hm.named t role hrole)
    · exact hno (hm.stored _ hg).2

lemma Mirrored.step (hm : Mirrored collate h) {request : AuthRequest}
    (hp : RoleStep collate h request) : Mirrored collate (h.step collate request) where
  stored g hg := by
    rcases handle_cases collate h request with
      ⟨user, b, userID, hok, hload, henforcer⟩ | ⟨-, henforcer⟩
    · rw [henforcer] at hg
      rcases mem_groupings_ensure.1 hg with hold | ⟨t, ht, rfl⟩
      · exact ⟨(hm.stored g hold).1, hasRole_mono (hm.stored g hold).2⟩
      · have hloaded := Tables.loaded_of_loadUser hload
        obtain ⟨m, hmem, hu, htenant⟩ := (hloaded.tenant t).1 ht
        refine ⟨rfl, hp.admin user hok t m.role ⟨m, hmem, ?_, by rw [htenant], rfl⟩⟩
        exact hu.trans hloaded.id.symm
    · rw [henforcer] at hg
      exact ⟨(hm.stored g hg).1, hasRole_mono (hm.stored g hg).2⟩
  named t role hrole := by
    rcases hasRole_step hrole with hold | hadmin
    · exact hasRole_mono (hm.named t role hold)
    · exact hadmin

/-- A login whose user is known to the enforcer changes nothing in it. -/
lemma RoleStep.notWidened {request : AuthRequest} (hp : RoleStep collate h request) :
    NotWidened collate matchObj matchAct h request := by
  rintro b login rfl u t obj act hallowed
  have hsame : (h.step collate (.login b login)).enforcer = h.enforcer := by
    rcases handle_cases collate h (.login b login) with
      ⟨user, -, -, hok, -, henforcer⟩ | ⟨-, henforcer⟩
    · exact henforcer.trans (ensure_of_loaded (hp.loaded b login user rfl hok))
    · exact henforcer
  rwa [hsame] at hallowed

/-- From any tables that store the user of the policy file as the administrator that he is there, a
run whose requests all meet the condition keeps the enforcer in agreement with the store. -/
theorem mirrorsRoles (collate : String → String) (matchObj matchAct : String → String → Bool)
    (s : Tables) (hs : RolesSeeded collate s) (requests : List AuthRequest)
    (hrequests : Along (step collate) (RoleStep collate) ⟨s, policyFile⟩ requests) :
    MirrorsRoles collate matchObj matchAct ⟨s, policyFile⟩ requests := by
  constructor
  · rintro done ⟨rest, rfl⟩
    have hdone := ((along_append _ done rest).1 hrequests).1
    exact (run_invariant (I := Mirrored collate) (fun _ _ hm hp => hm.step hp) hs.mirrored
      hdone).mirrors
  · exact along_of_invariant (I := Mirrored collate) (fun _ _ hm hp => hm.step hp)
      (fun _ _ _ hp => hp.notWidened) hs.mirrored hrequests

/-- A database that accepts every statement and stores passwords as they are. -/
def openBackend : AuthBackend := { upBackend with
  comparePassword := fun hash password => hash == password
  authenticateFault := false }

/-- An active user with the password `secret`. -/
def activeUser (id : String) : UserRow :=
  ⟨id, id, none, none, none, "Team", "secret", none, none, false, "active"⟩

/-- The demo user with his tenant. -/
def demoTables : Tables where
  tenants := [⟨"tenant_demo", "tenant_demo", "active"⟩]
  users := [activeUser "local_user"]
  userTenants := [⟨"local_user", "tenant_demo", "admin"⟩]
  shops := []
  userShops := []

/-- Nina registers. -/
def ninaRegisters : AuthRequest :=
  .register openBackend ⟨"nina", "", "", "", "", "", "", "secret", "", "", "", "", ""⟩

theorem mirrorsRoles_nina :
    MirrorsRoles id (· == ·) (· == ·) ⟨demoTables, policyFile⟩ [ninaRegisters] :=
  mirrorsRoles id _ _ demoTables
    { named := by
        rintro t role ⟨r, hr, hu, -, -⟩
        have hnone : ∀ r ∈ demoTables.userTenants, r.userId ≠ "admin" := by decide
        exact absurd hu (hnone r hr)
      file := ⟨_, List.mem_cons_self, rfl, rfl, rfl⟩ }
    [ninaRegisters]
    ⟨{ admin := by
        rintro user - t role ⟨r, hr, hu, ht, -⟩
        have hadmin : ∀ r ∈ (step id ⟨demoTables, policyFile⟩ ninaRegisters).store.userTenants,
            r.role = "admin" := by decide +kernel
        exact ⟨r, hr, hu, ht, hadmin r hr⟩
       loaded := fun b login user hlogin => nomatch hlogin }, trivial⟩

/-- Besides the demo user there is Vera, who may only look at `acme`. -/
def viewerTables : Tables where
  tenants := demoTables.tenants ++ [⟨"acme", "acme", "active"⟩]
  users := demoTables.users ++ [activeUser "vera"]
  userTenants := demoTables.userTenants ++ [⟨"vera", "acme", "viewer"⟩]
  shops := []
  userShops := []

/-- Vera logs in, and the enforcer takes her for an administrator of `acme`. -/
theorem viewer_becomes_admin :
    ¬ MirrorsRoles id (· == ·) (· == ·) ⟨viewerTables, policyFile⟩
      [.login openBackend ⟨"vera", "", "", "", "secret"⟩] := by
  rintro ⟨hmirrors, -⟩
  have huser : (AuthHandler.handle id ⟨viewerTables, policyFile⟩
      (.login openBackend ⟨"vera", "", "", "", "secret"⟩)).1.toOption.map
        (fun user => (user.id, user.tenantIds)) = some ("vera", ["acme"]) := by decide +kernel
  have hgrouping : ⟨"vera", "admin", "acme"⟩ ∈ (step id ⟨viewerTables, policyFile⟩
      (.login openBackend ⟨"vera", "", "", "", "secret"⟩)).enforcer.groupings := by
    rcases handle_cases id ⟨viewerTables, policyFile⟩
        (.login openBackend ⟨"vera", "", "", "", "secret"⟩) with
      ⟨user, -, -, hok, -, henforcer⟩ | ⟨⟨e, he⟩, -⟩
    · rw [hok] at huser
      obtain ⟨hid, htenants⟩ := Prod.mk.inj (Option.some.inj huser)
      rw [henforcer, mem_groupings_ensure]
      exact .inr ⟨"acme", htenants ▸ List.mem_singleton_self _, by rw [hid]⟩
    · rw [he] at huser
      cases huser
  have hstored := (hmirrors _ (List.prefix_refl _)).grouping "vera" "acme" hgrouping
  unfold Tables.HasRole at hstored
  revert hstored
  decide +kernel

end AuthHandler

end EcommerceAgent.Gateway
