/-
# The routes of the gateway

`New` of `gateway/internal/router/router.go`: its routes, the handlers in front of them and what
each route sends to the Brain.  A request is forwarded exactly if it carries a token of a known user
whose tenant and shop it may name, and the enforcer allows the pattern of the route
(`forwarded_iff`).  After a registration, a login or a new shop, whatever requests follow, only the
tenant and the shop that he names can keep the user from a route that is registered for one method
(`serveHTTP_of_answered`).
-/
import EcommerceAgent.Gateway.Authorization
import EcommerceAgent.Gateway.Identity
import Mathlib

open EcommerceAgent.Lib EcommerceAgent.Lib.Text

namespace EcommerceAgent.Gateway.Router

/-! ### Requests and answers -/

/-- A request with its method and its decoded path. -/
structure HttpRequest extends Request where
  method : String
  path : String

/-- What ends a request: the gateway refuses it or answers a preflight, hands it to the handler of
an open or of an account route, or sends a request to the Brain. -/
inductive Answer
  | refused (envelope : Envelope)
  | preflight
  | notFound
  | opened (name : String)
  | account (name : String)
  | forwarded (request : HttpRequest)

/-- The context of gin. -/
structure Exchange where
  request : HttpRequest
  fullPath : String
  params : List (String × String)
  user : Option User := none
  tenant : Option TenantContext := none

/-- A handler that calls the next one, or aborts with an answer. -/
abbrev Middleware := Exchange → Except Answer Exchange

/-- What the middleware uses: `TokenManager.Parse`, which returns the subject of a token,
`FindByID` of the store, and `Enforce`. -/
structure Config where
  authEnabled : Bool
  parse : String → Except String String
  findByID : String → Option User
  enforce : String → String → String → String → Except String Bool

variable (config : Config)

/-! ### The middleware -/

/-- `CORS`. -/
def cors : Middleware := fun x => if x.request.method = "OPTIONS" then .error .preflight else .ok x

/-- `BearerToken`. -/
def bearerToken (authorization : String) : Option String :=
  let (scheme, rest) := (trimSpace authorization.toList).span (· ≠ ' ')
  let token := trimSpace rest.tail
  if rest ≠ [] ∧ scheme.map Char.toLower = "bearer".toList ∧ token ≠ [] then
    some (String.ofList token)
  else none

/-- The token of a request, from the header field or the query. -/
def credential (request : HttpRequest) : Option String :=
  match bearerToken (request.headers.get "Authorization") with
  | some token => some token
  | none =>
    let token := request.firstQuery "token"
    if token ≠ "" then some token else none

/-- `Auth`. -/
def auth : Middleware := fun x =>
  match credential x.request with
  | none => .error (.refused ⟨401, "UNAUTHORIZED", "缺少或非法的 Authorization Bearer token"⟩)
  | some token =>
    match config.parse token with
    | .error e =>
      .error (.refused (if e = "token expired" then ⟨401, "TOKEN_EXPIRED", "登录已过期，请重新登录"⟩
        else ⟨401, "UNAUTHORIZED", "无效的访问令牌"⟩))
    | .ok subject =>
      match config.findByID subject with
      | none => .error (.refused ⟨401, "UNAUTHORIZED", "用户不存在或已被禁用"⟩)
      | some user => .ok { x with user := some user }

/-- `Tenant`. -/
def tenantMiddleware : Middleware := fun x =>
  match tenant x.user x.request.toRequest with
  | .error envelope => .error (.refused envelope)
  | .ok context => .ok { x with tenant := some context }

/-- `CasbinAuthorize`. -/
def casbinAuthorize : Middleware := fun x =>
  match x.tenant with
  | none => .error (.refused ⟨401, "UNAUTHORIZED", "缺少租户上下文，无法执行授权"⟩)
  | some context =>
    let object := if x.fullPath = "" then x.request.path else x.fullPath
    match config.enforce context.userId context.tenantId object x.request.method with
    | .error _ => .error (.refused ⟨500, "AUTHORIZATION_ERROR", "权限策略执行失败"⟩)
    | .ok false => .error (.refused ⟨403, "FORBIDDEN", "当前用户无权访问该 API 资源"⟩)
    | .ok true => .ok x

/-- `protectedMiddleware`. -/
def protectedMiddleware : List Middleware :=
  if config.authEnabled then [auth config, tenantMiddleware, casbinAuthorize config] else []

/-! ### The routes -/

/-- What a route does with a request: the handlers of `router.go`. -/
inductive Target
  | open (name : String)
  | account (name : String)
  | serveWithPath (path : String)
  | serveDiagnosticWithPath (path : String)
  | serveWithParam (before key after : String)
  | serveWithPrefixReplace (pre replacement : String)
deriving DecidableEq, Repr

/-- A registered route; `Any` has no method. -/
structure RouteEntry where
  method : Option String
  fullPath : String
  target : Target
deriving DecidableEq, Repr

/-- `c.Param`. -/
def param (params : List (String × String)) (key : String) : String := (params.lookup key).getD ""

/-- The path of the request to the Brain, if the route sends one. -/
def Target.brainPath (path : String) (params : List (String × String)) : Target → Option String
  | .open _ => none
  | .account _ => none
  | .serveWithPath p => some p
  | .serveDiagnosticWithPath p => some p
  | .serveWithParam before key after => some (before ++ param params key ++ after)
  | .serveWithPrefixReplace pre replacement =>
    let trimmedPath := if pre.toList.isPrefixOf path.toList then
      String.ofList (path.toList.drop pre.length) else path
    some (String.ofList (rstripChar '/' replacement.toList) ++
      if trimmedPath = "" then "/" else trimmedPath)

/-- The header fields after `injectTrustedHeaders`. -/
def injected (x : Exchange) : Headers :=
  match x.tenant with
  | some context => injectTrustedHeaders context x.request.headers
  | none => x.request.headers

/-- The header fields of the request to the Brain: the reverse proxy drops the listed ones, the
bounded client of the diagnostics sends all. -/
def Target.brainHeaders (x : Exchange) : Target → Headers
  | .serveDiagnosticWithPath _ => injected x
  | _ => (injected x).dropListed

/-- The last handler of a route. -/
def Target.handle (target : Target) (x : Exchange) : Answer :=
  match target.brainPath x.request.path x.params with
  | some path =>
    .forwarded { x.request with path, headers := target.brainHeaders x }
  | none =>
    match target with
    | .open name => .opened name
    | .account name => .account name
    | _ => .notFound

/-- The routes that need no token. -/
def openRoutes : List RouteEntry :=
  [⟨some "GET", "/health", .open "health"⟩,
    ⟨some "POST", "/api/v1/auth/login", .open "Login"⟩,
    ⟨some "POST", "/api/v1/auth/register", .open "Register"⟩]

/-- The protected routes of `registerAuthRoutes`. -/
def accountRoutes : List RouteEntry :=
  [⟨some "GET", "/api/v1/auth/me", .account "Me"⟩,
    ⟨some "POST", "/api/v1/auth/shops", .account "CreateShop"⟩,
    ⟨some "POST", "/api/v1/auth/logout", .account "Logout"⟩,
    ⟨some "PUT", "/api/v1/account/profile", .account "UpdateProfile"⟩,
    ⟨some "PUT", "/api/v1/account/password", .account "UpdatePassword"⟩,
    ⟨some "POST", "/api/v1/account/onboarding-completed", .account "MarkOnboardingCompleted"⟩]

/-- `v1.GET(path, brainProxy.ServeWithPath(target))` and the like. -/
def direct (method path target : String) : RouteEntry := ⟨some method, path, .serveWithPath target⟩

/-- A route whose handler puts a parameter into the path. -/
def withParam (method path before key after : String) : RouteEntry :=
  ⟨some method, path, .serveWithParam before key after⟩

/-- `v1.Any(path + "/*path", brainProxy.ServeWithPrefixReplace(path, replacement))`. -/
def below (path replacement : String) : RouteEntry :=
  ⟨none, path ++ "/*path", .serveWithPrefixReplace path replacement⟩

/-- `registerV1Routes`. -/
def v1Routes : List RouteEntry :=
  [direct "GET" "/api/v1/workspace" "/api/workspace",
    direct "GET" "/api/v1/dashboard" "/api/dashboard",
    direct "GET" "/api/v1/products" "/api/products",
    direct "POST" "/api/v1/products/analyze" "/api/products/analyze",
    direct "GET" "/api/v1/inventory/risks" "/api/inventory/risks",
    direct "POST" "/api/v1/inventory/replenishment-plan" "/api/inventory/replenishment-plan",
    direct "GET" "/api/v1/campaigns" "/api/campaigns",
    withParam "POST" "/api/v1/campaigns/:campaign_id/review" "/api/campaigns/" "campaign_id"
      "/review",
    direct "POST" "/api/v1/onboarding/complete" "/api/onboarding/complete",
    direct "POST" "/api/v1/ai-chat/messages" "/api/ai-chat/messages",
    direct "GET" "/api/v1/ai-chat/conversations" "/api/ai-chat/conversations",
    withParam "GET" "/api/v1/ai-chat/conversations/:conversation_id/messages"
      "/api/ai-chat/conversations/" "conversation_id" "/messages",
    withParam "GET" "/api/v1/ai-chat/messages/:message_id" "/api/ai-chat/messages/" "message_id"
      "",
    withParam "GET" "/api/v1/ai-chat/tasks/:task_id/timeline" "/api/ai-chat/tasks/" "task_id"
      "/timeline",
    withParam "POST" "/api/v1/ai-chat/tasks/:task_id/cancel" "/api/ai-chat/tasks/" "task_id"
      "/cancel",
    ⟨none, "/api/v1/reports", .serveWithPath "/api/reports"⟩,
    below "/api/v1/reports" "/api/reports",
    ⟨none, "/api/v1/agents", .serveWithPath "/api/agents"⟩,
    below "/api/v1/agents" "/api/agents",
    below "/api/v1/data-import" "/api/data-import",
    ⟨none, "/api/v1/shops", .serveWithPath "/api/shops"⟩,
    below "/api/v1/shops" "/api/shops",
    ⟨none, "/api/v1/integrations", .serveWithPath "/api/integrations"⟩,
    below "/api/v1/integrations" "/api/integrations",
    direct "POST" "/api/v1/tasks" "/api/task",
    direct "GET" "/api/v1/tasks" "/api/tasks",
    withParam "GET" "/api/v1/tasks/:thread_id" "/api/task/" "thread_id" "",
    withParam "POST" "/api/v1/tasks/:thread_id/cancel" "/api/task/" "thread_id" "/cancel",
    withParam "POST" "/api/v1/tasks/:thread_id/resume" "/api/task/" "thread_id" "/resume",
    ⟨none, "/api/v1/uploads", .serveWithPath "/api/upload"⟩,
    ⟨none, "/api/v1/files", .serveWithPath "/api/files"⟩,
    ⟨none, "/api/v1/download", .serveWithPath "/api/download"⟩,
    direct "GET" "/api/v1/tools/catalog" "/api/tools/catalog",
    withParam "GET" "/api/v1/traces/:task_id" "/api/traces/" "task_id" "",
    withParam "GET" "/api/v1/traces/:task_id/timeline" "/api/traces/" "task_id" "/timeline",
    direct "GET" "/api/v1/metrics/agents" "/api/metrics/agents",
    direct "GET" "/api/v1/agent-runtime/health" "/api/agent-runtime/health",
    direct "GET" "/api/v1/agent-runtime/metrics" "/api/agent-runtime/metrics",
    ⟨some "GET", "/api/v1/agent-runtime/slow-tasks",
      .serveDiagnosticWithPath "/api/agent-runtime/slow-tasks"⟩,
    withParam "GET" "/api/v1/agent-runtime/tasks/:task_id/diagnosis" "/api/agent-runtime/tasks/"
      "task_id" "/diagnosis",
    direct "POST" "/api/v1/memories/search" "/api/memories/search",
    direct "GET" "/api/v1/memories/reviews" "/api/memories/reviews",
    withParam "POST" "/api/v1/memories/reviews/:review_id/approve" "/api/memories/reviews/"
      "review_id" "/approve",
    withParam "POST" "/api/v1/memories/reviews/:review_id/reject" "/api/memories/reviews/"
      "review_id" "/reject",
    direct "GET" "/api/v1/policy/proposals" "/api/policy/proposals",
    withParam "POST" "/api/v1/policy/proposals/:proposal_id/approve" "/api/policy/proposals/"
      "proposal_id" "/approve",
    withParam "POST" "/api/v1/policy/proposals/:proposal_id/reject" "/api/policy/proposals/"
      "proposal_id" "/reject",
    ⟨none, "/api/v1/ws/:thread_id", .serveWithParam "/ws/" "thread_id" ""⟩]

/-- The routes with `protectedMiddleware` in front. -/
def protectedRoutes : List RouteEntry := accountRoutes ++ v1Routes

/-! ### The engine -/

/-- The route that gin selects for a request, with the parameters of its path. -/
structure Matched where
  entry : RouteEntry
  params : List (String × String)
  mem : entry ∈ openRoutes ++ protectedRoutes

/-- The handlers in front of a route; the logger, the recovery and `RequestID` pass everything. -/
def middlewareOf (entry : RouteEntry) : List Middleware :=
  cors :: if entry ∈ protectedRoutes then protectedMiddleware config else []

/-- The handlers one after the other. -/
def runChain (handlers : List Middleware) (x : Exchange) : Except Answer Exchange :=
  handlers.foldlM (fun x handler => handler x) x

/-- `ServeHTTP` of the engine, for the route that gin selects. -/
def serveHTTP (matched : Option Matched) (request : HttpRequest) : Answer :=
  match matched with
  | none => if request.method = "OPTIONS" then .preflight else .notFound
  | some m =>
    let x := ⟨request, m.entry.fullPath, m.params, none, none⟩
    match runChain (middlewareOf config m.entry) x with
    | .error answer => answer
    | .ok x => m.entry.target.handle x

/-- The middleware over a store and an enforcer: `MySQLUserStore.FindByID`, and `Enforce` with the
matchers of `model.conf`. -/
def configOf (collate : String → String) (matchObj matchAct : String → String → Bool)
    (parse : String → Except String String) (b : Backend) (h : AuthHandler) : Config where
  authEnabled := true
  parse := parse
  findByID userID := (h.store.loadUser collate b userID).toOption
  enforce sub dom obj act := .ok (h.enforcer.enforce matchObj matchAct sub dom obj act)

/-! ### The chain -/

variable {config}

lemma runChain_cons (handler : Middleware) (handlers : List Middleware) (x : Exchange) :
    runChain (handler :: handlers) x = handler x >>= runChain handlers := rfl

lemma runChain_nil (x : Exchange) : runChain [] x = .ok x := rfl

/-- Only the last handler of a route sends anything to the Brain. -/
lemma runChain_ne_forwarded {handlers : List Middleware}
    (h : ∀ handler ∈ handlers, ∀ x out, handler x ≠ .error (.forwarded out)) (x : Exchange)
    (out : HttpRequest) : runChain handlers x ≠ .error (.forwarded out) := by
  induction handlers generalizing x with
  | nil => simp [runChain_nil]
  | cons handler handlers ih =>
    rw [runChain_cons]
    cases hx : handler x with
    | error answer =>
      intro hout
      exact h handler List.mem_cons_self x out (hx.trans hout)
    | ok y => exact ih (fun f hf => h f (List.mem_cons_of_mem _ hf)) y

lemma auth_eq_ok {x y : Exchange} :
    auth config x = .ok y ↔ ∃ token subject user, credential x.request = some token ∧
      config.parse token = .ok subject ∧ config.findByID subject = some user ∧
      y = { x with user := some user } := by
  unfold auth
  cases hcred : credential x.request with
  | none => simp
  | some token =>
    cases hparse : config.parse token with
    | error e => simp [hparse]
    | ok subject =>
      cases hfind : config.findByID subject with
      | none => simp [hparse, hfind]
      | some user =>
        simp only [Except.ok.injEq, Option.some.injEq, hparse, hfind]
        constructor
        · rintro rfl
          exact ⟨token, subject, user, rfl, hparse, hfind, rfl⟩
        · rintro ⟨token', subject', user', rfl, hparse', hfind', rfl⟩
          obtain rfl : subject = subject' := by rw [hparse] at hparse'; injection hparse'
          obtain rfl : user = user' := by rw [hfind] at hfind'; injection hfind'
          rfl

lemma tenantMiddleware_eq_ok {x y : Exchange} :
    tenantMiddleware x = .ok y ↔ ∃ user context, x.user = some user ∧
      resolve user x.request.requestedTenant x.request.requestedShop = .ok context ∧
      y = { x with tenant := some context } := by
  unfold tenantMiddleware tenant
  cases huser : x.user with
  | none => simp
  | some user =>
    cases hresolve : resolve user x.request.requestedTenant x.request.requestedShop with
    | error e => simp [hresolve]
    | ok context =>
      simp only [Except.ok.injEq, Option.some.injEq, hresolve]
      constructor
      · rintro rfl
        exact ⟨user, context, rfl, hresolve, rfl⟩
      · rintro ⟨user', context', rfl, hresolve', rfl⟩
        obtain rfl : context = context' := by rw [hresolve] at hresolve'; injection hresolve'
        rfl

lemma casbinAuthorize_eq_ok {x y : Exchange} (hpath : x.fullPath ≠ "") :
    casbinAuthorize config x = .ok y ↔ ∃ context, x.tenant = some context ∧
      config.enforce context.userId context.tenantId x.fullPath x.request.method = .ok true ∧
      y = x := by
  unfold casbinAuthorize
  cases htenant : x.tenant with
  | none => simp
  | some context =>
    simp only [if_neg hpath, Option.some.injEq, exists_eq_left']
    cases config.enforce context.userId context.tenantId x.fullPath x.request.method with
    | error e => simp
    | ok allowed => cases allowed <;> simp [eq_comm]

/-- The request carries a token of the user, who may name its tenant and its shop and may use the
route in this tenant. -/
structure Granted (config : Config) (entry : RouteEntry) (request : HttpRequest) (user : User)
    (context : TenantContext) : Prop where
  token : ∃ token subject, credential request = some token ∧ config.parse token = .ok subject ∧
    config.findByID subject = some user
  resolved : resolve user request.requestedTenant request.requestedShop = .ok context
  allowed : config.enforce context.userId context.tenantId entry.fullPath request.method = .ok true

lemma fullPath_ne_of_mem {entry : RouteEntry} (h : entry ∈ protectedRoutes) :
    entry.fullPath ≠ "" := by
  revert entry
  decide +kernel

/-- What the handlers in front of a protected route let through. -/
lemma runChain_eq_ok (hauth : config.authEnabled = true) {entry : RouteEntry}
    (hentry : entry ∈ protectedRoutes) {request : HttpRequest} {params : List (String × String)}
    {x : Exchange} :
    runChain (middlewareOf config entry) ⟨request, entry.fullPath, params, none, none⟩ = .ok x ↔
      request.method ≠ "OPTIONS" ∧ ∃ user context, Granted config entry request user context ∧
        x = ⟨request, entry.fullPath, params, some user, some context⟩ := by
  have hpath := fullPath_ne_of_mem hentry
  simp only [middlewareOf, if_pos hentry, protectedMiddleware, if_pos hauth, runChain_cons, cors]
  by_cases hmethod : request.method = "OPTIONS"
  · simp [hmethod, bind, Except.bind]
  · rw [if_neg hmethod]
    simp only [bind_eq_ok, Except.ok.injEq, exists_eq_left', runChain_cons, runChain_nil]
    constructor
    · rintro ⟨x₁, hx₁, x₂, hx₂, x₃, hx₃, rfl⟩
      obtain ⟨token, subject, user, hcred, hparse, hfind, rfl⟩ := auth_eq_ok.1 hx₁
      obtain ⟨user', context, huser, hresolve, rfl⟩ := tenantMiddleware_eq_ok.1 hx₂
      obtain ⟨context', hcontext, hallowed, rfl⟩ := (casbinAuthorize_eq_ok hpath).1 hx₃
      obtain rfl : user = user' := Option.some.inj huser
      obtain rfl : context = context' := Option.some.inj hcontext
      exact ⟨hmethod, user, context, ⟨⟨token, subject, hcred, hparse, hfind⟩, hresolve, hallowed⟩,
        rfl⟩
    · rintro ⟨-, user, context, ⟨⟨token, subject, hcred, hparse, hfind⟩, hresolve, hallowed⟩, rfl⟩
      exact ⟨_, auth_eq_ok.2 ⟨token, subject, user, hcred, hparse, hfind, rfl⟩,
        _, tenantMiddleware_eq_ok.2 ⟨user, context, rfl, hresolve, rfl⟩,
        _, (casbinAuthorize_eq_ok hpath).2 ⟨context, rfl, hallowed, rfl⟩, rfl⟩

lemma brainPath_of_mem_open {entry : RouteEntry} (h : entry ∈ openRoutes) (path : String)
    (params : List (String × String)) : entry.target.brainPath path params = none := by
  simp only [openRoutes, List.mem_cons, List.not_mem_nil, or_false] at h
  rcases h with rfl | rfl | rfl <;> rfl

lemma handle_eq_forwarded {target : Target} {x : Exchange} {out : HttpRequest} :
    target.handle x = .forwarded out ↔ ∃ path,
      target.brainPath x.request.path x.params = some path ∧
      out = { x.request with path := path, headers := target.brainHeaders x } := by
  unfold Target.handle
  cases target.brainPath x.request.path x.params with
  | none => cases target <;> simp
  | some path => simp [eq_comm]

lemma middlewareOf_ne_forwarded {entry : RouteEntry} {handler : Middleware}
    (h : handler ∈ middlewareOf config entry) (x : Exchange) (out : HttpRequest) :
    handler x ≠ .error (.forwarded out) := by
  have hcases : handler = cors ∨ handler = auth config ∨ handler = tenantMiddleware ∨
      handler = casbinAuthorize config := by
    unfold middlewareOf protectedMiddleware at h
    split at h
    · split at h <;> simp_all
    · simp_all
  rcases hcases with rfl | rfl | rfl | rfl
  · unfold cors
    split <;> simp
  · unfold auth
    split
    · simp
    · split
      · simp
      · split <;> simp
  · unfold tenantMiddleware
    split <;> simp
  · unfold casbinAuthorize
    split
    · simp
    · dsimp only
      split <;> simp

lemma serveHTTP_eq_forwarded {m : Matched} {request out : HttpRequest} :
    serveHTTP config (some m) request = .forwarded out ↔ ∃ x,
      runChain (middlewareOf config m.entry) ⟨request, m.entry.fullPath, m.params, none, none⟩ =
        .ok x ∧ m.entry.target.handle x = .forwarded out := by
  simp only [serveHTTP]
  cases hchain : runChain (middlewareOf config m.entry)
      ⟨request, m.entry.fullPath, m.params, none, none⟩ with
  | error answer =>
    simp only [reduceCtorEq, false_and, exists_false, iff_false]
    rintro rfl
    exact runChain_ne_forwarded (fun _ => middlewareOf_ne_forwarded) _ out hchain
  | ok x => simp

/-- What the Brain gets: whatever route gin selects, a request is forwarded only for a user of the
store whose token it carries, with the context that the gateway has checked, and only to a route
that the enforcer allows him. -/
theorem forwarded_iff (config : Config) (hauth : config.authEnabled = true) (m : Matched)
    (request out : HttpRequest) :
    serveHTTP config (some m) request = .forwarded out ↔
      request.method ≠ "OPTIONS" ∧ ∃ user context path,
        Granted config m.entry request user context ∧
        m.entry.target.brainPath request.path m.params = some path ∧
        out = { request with
          path := path
          headers := m.entry.target.brainHeaders
            ⟨request, m.entry.fullPath, m.params, some user, some context⟩ } := by
  rw [serveHTTP_eq_forwarded]
  by_cases hentry : m.entry ∈ protectedRoutes
  · constructor
    · rintro ⟨x, hchain, hout⟩
      obtain ⟨hmethod, user, context, hgranted, rfl⟩ := (runChain_eq_ok hauth hentry).1 hchain
      obtain ⟨path, hpath, rfl⟩ := handle_eq_forwarded.1 hout
      exact ⟨hmethod, user, context, path, hgranted, hpath, rfl⟩
    · rintro ⟨hmethod, user, context, path, hgranted, hpath, rfl⟩
      exact ⟨_, (runChain_eq_ok hauth hentry).2 ⟨hmethod, user, context, hgranted, rfl⟩,
        handle_eq_forwarded.2 ⟨path, hpath, rfl⟩⟩
  · -- the routes without the middleware are not the Brain's
    have hnone := brainPath_of_mem_open ((List.mem_append.1 m.mem).resolve_right hentry)
    constructor
    · rintro ⟨x, -, hout⟩
      obtain ⟨path, hpath, -⟩ := handle_eq_forwarded.1 hout
      rw [hnone] at hpath
      cases hpath
    · rintro ⟨-, user, context, path, -, hpath, -⟩
      rw [hnone] at hpath
      cases hpath

/-- A gateway whose tokens are the ids of its users, before any registration. -/
def demoConfig : Config :=
  configOf id (· == ·) (· == ·) .ok upBackend ⟨AuthHandler.demoTables, policyFile⟩

/-- The route of the dashboard. -/
def dashboardRoute : Matched where
  entry := direct "GET" "/api/v1/dashboard" "/api/dashboard"
  params := []
  mem := by decide +kernel

/-- The demo user asks for the dashboard. -/
def dashboardRequest : HttpRequest :=
  ⟨⟨fun _ => [], [("token", "local_user")]⟩, "GET", "/api/v1/dashboard"⟩

/-- What the store knows about him. -/
def localUser : User where
  id := "local_user"
  name := "local_user"
  email := ""
  phone := ""
  companyName := ""
  plan := "Team"
  onboardingDone := false
  tenantIds := ["tenant_demo"]
  defaultTenantId := ""
  shopIds := []
  defaultShopId := ""
  roles := ["admin"]
  permissions := []

theorem forwarded_iff_dashboard :
    serveHTTP demoConfig (some dashboardRoute) dashboardRequest =
      .forwarded { dashboardRequest with
        path := "/api/dashboard"
        headers := dashboardRoute.entry.target.brainHeaders
          ⟨dashboardRequest, "/api/v1/dashboard", [], some localUser,
            some ⟨"tenant_demo", "local_user", "", ["admin"], []⟩⟩ } :=
  (forwarded_iff demoConfig rfl dashboardRoute dashboardRequest _).2
    ⟨by decide, localUser, ⟨"tenant_demo", "local_user", "", ["admin"], []⟩, "/api/dashboard",
      { token := ⟨"local_user", "local_user", by decide +kernel, rfl, by decide +kernel⟩
        resolved := by decide +kernel
        allowed := by decide +kernel }, rfl, rfl⟩

/-! ### Users whom the handlers have answered -/

/-- The enforcer has the user as the administrator of the tenant, with all policies of one. -/
structure AdminOf (e : Enforcer) (userID tenantID : String) : Prop where
  grouping : ⟨userID, "admin", tenantID⟩ ∈ e.groupings
  policies : ∀ policy ∈ platformPolicies, ⟨"admin", tenantID, policy.1, policy.2⟩ ∈ e.policies

variable {collate : String → String} {b : Backend} {e : Enforcer} {user : User}
  {userID tenantID : String}

/-- What `ensureTenantAdminPolicy` does for one tenant. -/
def ensureTenant (userID : String) (e : Enforcer) (tenantID : String) : Enforcer :=
  (platformPolicies.map fun policy => ⟨"admin", tenantID, policy.1, policy.2⟩).foldl
    Enforcer.addPolicy (e.addGrouping ⟨userID, "admin", tenantID⟩)

lemma ensureTenantAdminPolicy_eq (user : User) (e : Enforcer) :
    ensureTenantAdminPolicy user e = user.tenantIds.foldl (ensureTenant user.id) e := rfl

lemma AdminOf.step (h : AdminOf e userID tenantID) (userID' tenantID' : String) :
    AdminOf (ensureTenant userID' e tenantID') userID tenantID where
  grouping := by
    rw [ensureTenant, Enforcer.groupings_foldl_addPolicy, Enforcer.mem_groupings_addGrouping]
    exact .inl h.grouping
  policies policy hpolicy := by
    rw [ensureTenant, Enforcer.mem_policies_foldl_addPolicy, Enforcer.policies_addGrouping]
    exact .inl (h.policies policy hpolicy)

lemma adminOf_ensureTenant (e : Enforcer) (userID tenantID : String) :
    AdminOf (ensureTenant userID e tenantID) userID tenantID where
  grouping := by
    rw [ensureTenant, Enforcer.groupings_foldl_addPolicy, Enforcer.mem_groupings_addGrouping]
    exact .inr rfl
  policies policy hpolicy := by
    rw [ensureTenant, Enforcer.mem_policies_foldl_addPolicy]
    exact .inr (List.mem_map_of_mem hpolicy)

lemma AdminOf.foldl (h : AdminOf e userID tenantID) (userID' : String) (tenants : List String) :
    AdminOf (tenants.foldl (ensureTenant userID') e) userID tenantID := by
  induction tenants generalizing e with
  | nil => exact h
  | cons t ts ih =>
    rw [List.foldl_cons]
    exact ih (h.step userID' t)

lemma AdminOf.ensure (h : AdminOf e userID tenantID) (user : User) :
    AdminOf (ensureTenantAdminPolicy user e) userID tenantID := by
  rw [ensureTenantAdminPolicy_eq]
  exact h.foldl user.id user.tenantIds

lemma adminOf_ensure (e : Enforcer) (ht : tenantID ∈ user.tenantIds) :
    AdminOf (ensureTenantAdminPolicy user e) user.id tenantID := by
  suffices h : ∀ tenants : List String, tenantID ∈ tenants → ∀ e,
      AdminOf (tenants.foldl (ensureTenant user.id) e) user.id tenantID by
    rw [ensureTenantAdminPolicy_eq]
    exact h _ ht e
  intro tenants ht
  induction tenants with
  | nil => cases ht
  | cons t ts ih =>
    intro e
    rw [List.foldl_cons]
    rcases List.mem_cons.1 ht with rfl | ht
    · exact (adminOf_ensureTenant e user.id tenantID).foldl user.id ts
    · exact ih ht _

/-- The rows of a user that `loadUser` selects. -/
abbrev isActiveRow (collate : String → String) (userID : String) (r : UserRow) : Bool :=
  collate r.id == collate userID && collate r.status == collate "active"

/-- The tenants that `loadUser` collects. -/
abbrev loadedTenants (collate : String → String) (s : Tables) (userID : String) : List String :=
  Tables.distinct ((s.userTenants.filter (collate ·.userId == collate userID)).map (·.tenantId))

/-- The handlers have answered the user: he can be loaded with the tenants that he had then, and
the enforcer has him as their administrator. -/
structure Answered (collate : String → String) (user : User) (h : AuthHandler) : Prop where
  row : ∃ r, h.store.users.find? (isActiveRow collate user.id) = some r ∧ r.id = user.id
  tenants : loadedTenants collate h.store user.id = user.tenantIds
  admin : ∀ t ∈ user.tenantIds, AdminOf h.enforcer user.id t

lemma row_of_loadUser {s : Tables} (hload : s.loadUser collate b userID = .ok user) :
    (∃ r, s.users.find? (isActiveRow collate user.id) = some r ∧ r.id = user.id) ∧
      loadedTenants collate s user.id = user.tenantIds := by
  unfold Tables.loadUser at hload
  split at hload
  · cases hload
  · split at hload
    · cases hload
    · rename_i r hr
      cases hload
      have hid : collate r.id = collate userID := by
        have := List.find?_some hr
        simp only [Bool.and_eq_true, beq_iff_eq] at this
        exact this.1
      simp only [isActiveRow, loadedTenants, hid]
      exact ⟨⟨r, hr, rfl⟩, trivial⟩

lemma loadUser_of_row {s : Tables} (hb : b.fault .loadUser = none)
    (hrow : ∃ r, s.users.find? (isActiveRow collate userID) = some r ∧ r.id = userID) :
    ∃ current, s.loadUser collate b userID = .ok current ∧ current.id = userID ∧
      current.tenantIds = loadedTenants collate s userID := by
  obtain ⟨r, hr, hid⟩ := hrow
  unfold Tables.loadUser
  simp only [hb, hr]
  exact ⟨_, rfl, hid, rfl⟩

lemma answered_of_ok {h : AuthHandler} {request : AuthRequest}
    (hok : (h.handle collate request).1 = .ok user) :
    Answered collate user (h.step collate request) := by
  rcases AuthHandler.handle_cases collate h request with
    ⟨user', b, userID, hok', hload, henforcer⟩ | ⟨⟨e, hno⟩, -⟩
  · obtain rfl : user = user' := by rw [hok] at hok'; injection hok'
    obtain ⟨hrow, htenants⟩ := row_of_loadUser hload
    refine ⟨hrow, htenants, fun t ht => ?_⟩
    rw [henforcer]
    exact adminOf_ensure _ ht
  · rw [hok] at hno
    cases hno

/-- What a request does to the rows of a stored user: his row keeps its place, its id and its
status, and no membership is added for him. -/
structure KeepsRow (collate : String → String) (userID : String) (s s' : Tables) : Prop where
  row : ∀ r, s.users.find? (isActiveRow collate userID) = some r →
    ∃ r', s'.users.find? (isActiveRow collate userID) = some r' ∧ r'.id = r.id
  tenants : (∃ r ∈ s.users, collate r.id = collate userID) →
    loadedTenants collate s' userID = loadedTenants collate s userID

lemma keepsRow_refl (s : Tables) : KeepsRow collate userID s s where
  row r hr := ⟨r, hr, rfl⟩
  tenants _ := rfl

lemma keepsRow_register (b : Backend) (input : RegisterInput) (s : Tables) :
    KeepsRow collate userID s (s.register collate b input).2 := by
  rcases Tables.register_cases collate b input s with ⟨hgo, passwordHash, -, hnew⟩ | ⟨-, hsame⟩
  · rw [hnew]
    constructor
    · intro r hr
      refine ⟨r, ?_, rfl⟩
      simp only [Tables.registered, List.find?_append, hr, Option.some_or]
    · -- the id of a new user collides with no stored one
      rintro ⟨r, hr, hid⟩
      have hne : collate input.userID ≠ collate userID := by
        intro heq
        have hcollide := hgo.newUser r hr
        simp only [Tables.usersCollide, Bool.or_eq_false_iff, beq_eq_false_iff_ne] at hcollide
        exact hcollide.1.1 (heq.trans hid.symm)
      simp [loadedTenants, Tables.registered, List.filter_append, hne]
  · rw [hsame]
    exact keepsRow_refl s

/-- A change of the rows of `gateway_users` that touches neither ids nor states. -/
lemma keepsRow_map {f : UserRow → UserRow} (hid : ∀ r, (f r).id = r.id)
    (hstatus : ∀ r, (f r).status = r.status) {s s' : Tables} (husers : s'.users = s.users.map f)
    (htenants : s'.userTenants = s.userTenants) : KeepsRow collate userID s s' where
  row r hr := by
    have hsame : isActiveRow collate userID ∘ f = isActiveRow collate userID := by
      funext r
      simp only [Function.comp_apply, isActiveRow, hid, hstatus]
    refine ⟨f r, ?_, hid r⟩
    rw [husers, List.find?_map, hsame, hr, Option.map_some]
  tenants _ := by rw [loadedTenants, htenants]

lemma keepsRow_addShop (b : Backend) (actor tenantID shopID : String) (s : Tables) :
    KeepsRow collate userID s (s.addShop collate b actor tenantID shopID).2 := by
  simp only [Tables.addShop]
  split
  · exact keepsRow_refl s
  · split
    · exact keepsRow_refl s
    · rename_i user hload
      generalize normalizeIdentifier (if tenantID = "" then user.defaultTenantId else tenantID) = t
      split
      · exact keepsRow_refl s
      · split
        · exact keepsRow_refl s
        · rename_i s' htx
          have hs' := Tables.addShopTx_eq_ok htx
          have husers : s'.users = _ := congrArg Tables.users hs'
          have htenants : s'.userTenants = s.userTenants :=
            (congrArg Tables.userTenants hs').trans rfl
          refine keepsRow_map ?_ ?_ husers htenants
          · intro r
            split <;> rfl
          · intro r
            split <;> rfl

lemma keepsRow_step (collate : String → String) (userID : String) (h : AuthHandler)
    (request : AuthRequest) : KeepsRow collate userID h.store (h.step collate request).store := by
  cases request with
  | register b request =>
    simp only [AuthHandler.step, AuthHandler.handle, AuthHandler.register]
    split
    · exact keepsRow_refl _
    · split
      · exact keepsRow_refl _
      · split
        · exact keepsRow_refl _
        · have hkeeps : KeepsRow collate userID h.store
              (h.store.register collate b.toBackend request.input).2 :=
            keepsRow_register b.toBackend request.input h.store
          split <;> simp_all [AuthHandler.respond]
  | login b request =>
    simp only [AuthHandler.step, AuthHandler.handle, AuthHandler.login]
    split
    · exact keepsRow_refl _
    · split
      · exact keepsRow_refl _
      · split <;> exact keepsRow_refl _
  | createShop b currentUser request =>
    cases currentUser with
    | none => exact keepsRow_refl _
    | some actor =>
      simp only [AuthHandler.step, AuthHandler.handle, AuthHandler.createShop]
      split
      · exact keepsRow_refl _
      · have hkeeps : KeepsRow collate userID h.store
            (h.store.addShop collate b.toBackend actor request.tenantID
              (firstGiven [request.shopID, request.shopName])).2 :=
          keepsRow_addShop b.toBackend actor _ _ h.store
        split <;> simp_all [AuthHandler.respond]

lemma Answered.step {h : AuthHandler} (ha : Answered collate user h) (request : AuthRequest) :
    Answered collate user (h.step collate request) := by
  have hkeeps := keepsRow_step collate user.id h request
  obtain ⟨r, hr, hid⟩ := ha.row
  refine ⟨?_, ?_, fun t ht => ?_⟩
  · obtain ⟨r', hr', hid'⟩ := hkeeps.row r hr
    exact ⟨r', hr', hid'.trans hid⟩
  · have hmem := List.mem_of_find?_eq_some hr
    rw [hkeeps.tenants ⟨r, hmem, by rw [hid]⟩, ha.tenants]
  · rcases AuthHandler.handle_cases collate h request with
      ⟨user', -, -, -, -, henforcer⟩ | ⟨-, henforcer⟩
    · rw [henforcer]
      exact (ha.admin t ht).ensure user'
    · rw [henforcer]
      exact ha.admin t ht

/-- The routes for one method are among those for which a tenant's administrator gets policies. -/
lemma mem_platformPolicies {entry : RouteEntry} {method : String} (h : entry ∈ protectedRoutes)
    (hmethod : entry.method = some method) :
    (entry.fullPath, method) ∈ platformPolicies ∧ method ≠ "OPTIONS" := by
  -- where the policies of the routes stand; comparing the texts instead is slow
  have hplaces : protectedRoutes.filterMap (fun entry => entry.method.map (entry.fullPath, ·)) =
      ([0, 2, 1, 3, 4, 5, 6, 7, 8, 9, 10, 11, 12, 13, 14, 15, 16, 17, 18, 19, 20, 31, 32, 33, 34, 35,
        39, 47, 48, 49, 50, 51, 52, 53, 40, 41, 42, 43, 44, 45, 46] : List ℕ).filterMap
          (platformPolicies[·]?) := rfl
  have hmem : (entry.fullPath, method) ∈
      protectedRoutes.filterMap (fun entry => entry.method.map (entry.fullPath, ·)) :=
    List.mem_filterMap.mpr ⟨entry, h, by rw [hmethod]; rfl⟩
  have hmethods : ∀ entry ∈ protectedRoutes, entry.method ≠ some "OPTIONS" := by decide +kernel
  constructor
  · rw [hplaces] at hmem
    obtain ⟨i, -, hi⟩ := List.mem_filterMap.mp hmem
    exact List.mem_of_getElem? hi
  · rintro rfl
    exact hmethods entry h hmethod

/-- The answer to a user whose requests only `Tenant` can refuse. -/
def answerTo (user : User) (m : Matched) (request : HttpRequest) : Answer :=
  match resolve user request.requestedTenant request.requestedShop with
  | .error e => .refused (resolveEnvelope e)
  | .ok context =>
    m.entry.target.handle ⟨request, m.entry.fullPath, m.params, some user, some context⟩

/-- With a token of a known user whom the enforcer allows the route, only the tenant and the shop
decide. -/
lemma serveHTTP_of_token (hauth : config.authEnabled = true) {m : Matched}
    (hentry : m.entry ∈ protectedRoutes) {request : HttpRequest}
    (hmethod : request.method ≠ "OPTIONS") {token subject : String}
    (hcred : credential request = some token) (hparse : config.parse token = .ok subject)
    (hfind : config.findByID subject = some user) (hallowed : ∀ context,
      resolve user request.requestedTenant request.requestedShop = .ok context →
        config.enforce context.userId context.tenantId m.entry.fullPath request.method =
          .ok true) :
    serveHTTP config (some m) request = answerTo user m request := by
  simp only [serveHTTP, answerTo]
  cases hresolve : resolve user request.requestedTenant request.requestedShop with
  | error e =>
    have hchain : runChain (middlewareOf config m.entry)
        ⟨request, m.entry.fullPath, m.params, none, none⟩ =
          .error (.refused (resolveEnvelope e)) := by
      have hfound : auth config ⟨request, m.entry.fullPath, m.params, none, none⟩ =
          .ok ⟨request, m.entry.fullPath, m.params, some user, none⟩ :=
        auth_eq_ok.2 ⟨token, subject, user, hcred, hparse, hfind, rfl⟩
      have htenant : tenantMiddleware ⟨request, m.entry.fullPath, m.params, some user, none⟩ =
          .error (.refused (resolveEnvelope e)) := by
        simp only [tenantMiddleware, tenant, hresolve]
      rw [middlewareOf, if_pos hentry, protectedMiddleware, if_pos hauth, runChain_cons, cors,
        if_neg hmethod, ok_bind, runChain_cons, hfound, ok_bind, runChain_cons, htenant]
      rfl
    rw [hchain]
  | ok context =>
    rw [(runChain_eq_ok hauth hentry).2 ⟨hmethod, user, context, ⟨⟨token, subject, hcred, hparse,
      hfind⟩, hresolve, hallowed context hresolve⟩, rfl⟩]

lemma resolve_userId {requestedTenantID requestedShopID : String} {context : TenantContext}
    (h : resolve user requestedTenantID requestedShopID = .ok context) :
    context.userId = user.id := by
  simp only [resolve] at h
  split at h
  · cases h
  · split at h
    · cases h
    · split at h
      · cases h
      · rw [← Except.ok.inj h]

/-- The enforcer lets a user whom it has as the administrator of his tenants through. -/
lemma allowed_of_admin {matchObj matchAct : String → String → Bool} {entry : RouteEntry}
    {method : String} (hpolicy : (entry.fullPath, method) ∈ platformPolicies)
    (hobj : matchObj entry.fullPath entry.fullPath = true)
    (hact : matchAct method method = true)
    (hadmin : ∀ t ∈ user.tenantIds, AdminOf e user.id t)
    {requestedTenantID requestedShopID : String} {context : TenantContext}
    (hresolve : resolve user requestedTenantID requestedShopID = .ok context) :
    e.enforce matchObj matchAct context.userId context.tenantId entry.fullPath method = true := by
  have htenant := hadmin context.tenantId (Tables.resolve_mem hresolve).1
  rw [resolve_userId hresolve]
  exact Enforcer.enforce_of_mem (htenant.policies _ hpolicy) rfl htenant.grouping hobj hact

lemma Answered.run {h : AuthHandler} (ha : Answered collate user h) (requests : List AuthRequest) :
    Answered collate user (run (AuthHandler.step collate) h requests) :=
  run_induction (fun _ request ha => ha.step request) ha requests

/-- Once a registration, a login or a new shop has been answered with a user, he stays known with
the tenants that he had, and, whatever the handlers do then, nothing but the choice of the tenant
and the shop keeps a request with his token from a protected route for its method. -/
theorem serveHTTP_of_answered (collate : String → String)
    (matchObj matchAct : String → String → Bool) (parse : String → Except String String)
    (h : AuthHandler) (answered : AuthRequest) (user : User)
    (hok : (h.handle collate answered).1 = .ok user) (rest : List AuthRequest) (b : Backend)
    (hb : b.fault .loadUser = none) (m : Matched) (hentry : m.entry ∈ protectedRoutes)
    (request : HttpRequest) (hmethod : m.entry.method = some request.method) (token : String)
    (hcred : credential request = some token) (hparse : parse token = .ok user.id)
    (hobj : matchObj m.entry.fullPath m.entry.fullPath = true)
    (hact : matchAct request.method request.method = true) :
    ∃ current, (run (AuthHandler.step collate) h (answered :: rest)).store.loadUser collate b
        user.id = .ok current ∧
      current.id = user.id ∧ current.tenantIds = user.tenantIds ∧
      serveHTTP (configOf collate matchObj matchAct parse b
          (run (AuthHandler.step collate) h (answered :: rest))) (some m) request =
        answerTo current m request := by
  rw [run_cons]
  have ha := (answered_of_ok hok).run rest
  generalize run (AuthHandler.step collate) (h.step collate answered) rest = later at ha ⊢
  obtain ⟨current, hload, hid, htenants⟩ := loadUser_of_row hb ha.row
  rw [ha.tenants] at htenants
  obtain ⟨hpolicy, hoptions⟩ := mem_platformPolicies hentry hmethod
  have hadmin : ∀ t ∈ current.tenantIds, AdminOf later.enforcer current.id t := by
    rw [hid, htenants]
    exact ha.admin
  have hfind : (configOf collate matchObj matchAct parse b later).findByID user.id =
      some current := by
    simp only [configOf, hload, Except.toOption]
  refine ⟨current, hload, hid, htenants, ?_⟩
  refine serveHTTP_of_token rfl hentry hoptions hcred hparse hfind fun context hresolve => ?_
  exact congrArg Except.ok (allowed_of_admin hpolicy hobj hact hadmin hresolve)

/-- What the registration of Nina answers. -/
def nina : User where
  id := "nina"
  name := "nina"
  email := ""
  phone := ""
  companyName := "nina_org"
  plan := "Team"
  onboardingDone := false
  tenantIds := ["nina_org"]
  defaultTenantId := "nina_org"
  shopIds := []
  defaultShopId := ""
  roles := ["admin"]
  permissions := []

/-- Nina posts a message; every user's token is his id. -/
def ninaRequest : HttpRequest :=
  ⟨⟨fun _ => [], [("token", "nina")]⟩, "POST", "/api/v1/ai-chat/messages"⟩

/-- The route for it. -/
def messagesRoute : Matched where
  entry := direct "POST" "/api/v1/ai-chat/messages" "/api/ai-chat/messages"
  params := []
  mem := by decide +kernel

open AuthHandler in
/-- Nina's requests after her registration: she logs in and opens a shop. -/
def ninaWorks : List AuthRequest :=
  [.login openBackend ⟨"nina", "", "", "", "secret"⟩,
    .createShop openBackend (some "nina") ⟨"nina_org", "nina_shop", "Shop"⟩]

open AuthHandler in
theorem serveHTTP_of_answered_nina :
    ∃ current, (run (step id) ⟨demoTables, policyFile⟩ (ninaRegisters :: ninaWorks)).store.loadUser
        id upBackend "nina" = .ok current ∧ current.id = "nina" ∧
      current.tenantIds = ["nina_org"] ∧
      serveHTTP (configOf id (· == ·) (· == ·) .ok upBackend
        (run (step id) ⟨demoTables, policyFile⟩ (ninaRegisters :: ninaWorks))) (some messagesRoute)
          ninaRequest = answerTo current messagesRoute ninaRequest :=
  serveHTTP_of_answered id (· == ·) (· == ·) .ok ⟨demoTables, policyFile⟩ ninaRegisters nina
    (by decide +kernel) ninaWorks upBackend rfl messagesRoute (by decide +kernel) ninaRequest rfl
    "nina" (by decide +kernel) rfl (by decide) (by decide)

end EcommerceAgent.Gateway.Router
