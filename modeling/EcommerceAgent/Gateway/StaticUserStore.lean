/-
# The file-backed user store of the gateway

`StaticUserStore` of `gateway/internal/auth/user_store.go`: a map of accounts in memory that is
written to a JSON file after every accepted change and read back by `NewStaticUserStore`.  The
file is modelled by what it decodes to, and a write of the file succeeds.  A Go map lists its
items in an order of its own at every iteration, so `Authenticate`, which searches the map for an
address, has a set of possible outcomes.
-/
import EcommerceAgent.Lib.Hash
import EcommerceAgent.Gateway.Bindings

open EcommerceAgent.Lib EcommerceAgent.Lib.Text

namespace EcommerceAgent.Gateway.Static

/-! ### Accounts -/

/-- The fields of `auth.User` with a name in JSON. -/
structure Stored extends Gateway.User where
  createdAt : String
deriving DecidableEq, Repr

/-- `auth.User` with its password, whose tag is `json:"-"`. -/
structure Account extends Stored where
  password : String
deriving DecidableEq, Repr

/-- `json.MarshalIndent` of an account leaves the password out. -/
def marshal (user : Account) : Stored := user.toStored

/-- `json.Unmarshal` leaves the zero value in the field without a name. -/
def unmarshal (stored : Stored) : Account := { toStored := stored, password := "" }

@[simp] lemma password_unmarshal (stored : Stored) : (unmarshal stored).password = "" := rfl

/-- `os.Getenv`: the empty text stands for a variable that is not set. -/
abbrev Env := String → String

/-- `envOrDefault`. -/
def envOrDefault (env : Env) (key fallback : String) : String :=
  if env key ≠ "" then env key else fallback

lemma envOrDefault_ne (env : Env) (key : String) {fallback : String} (h : fallback ≠ "") :
    envOrDefault env key fallback ≠ "" := by
  rw [envOrDefault]
  split
  · assumption
  · exact h

/-- `splitCSV`. -/
def splitCSV (value : String) : List String :=
  ((value.toList.splitOn ',').map fun part => String.ofList (trimSpace part)).filter (· ≠ "")

/-- The permissions of an account when the environment names none. -/
def defaultPermissions : String :=
  "task:create,task:read,task:cancel,task:resume,file:upload,file:download,file:list," ++
  "memory:read,memory:review,memory:approve,memory:reject,policy:read,policy:approve," ++
  "policy:reject,trace:read,metrics:read,tool:database:read,tool:network:search,tool:kb:ask"

/-- The permissions every account gets. -/
def permissions (env : Env) : List String :=
  splitCSV (envOrDefault env "GATEWAY_DEMO_PERMISSIONS" defaultPermissions)

/-- The name of the demo user. -/
def demoID (env : Env) : String := envOrDefault env "GATEWAY_DEMO_USER_ID" "local_user"

/-- The account that `NewStaticUserStore` makes from the environment. -/
def demoUser (env : Env) : Account where
  id := demoID env
  name := envOrDefault env "GATEWAY_DEMO_USER_NAME" "Demo Admin"
  email := envOrDefault env "GATEWAY_DEMO_USER_EMAIL" "operator@example.com"
  phone := ""
  companyName := envOrDefault env "GATEWAY_DEMO_COMPANY_NAME" "EcomPilot Demo Company"
  plan := envOrDefault env "GATEWAY_DEMO_PLAN" "Team"
  createdAt := "local_dev"
  onboardingDone := true
  password := envOrDefault env "GATEWAY_DEMO_PASSWORD" "admin123"
  tenantIds := splitCSV (envOrDefault env "GATEWAY_DEMO_TENANT_IDS"
    (envOrDefault env "GATEWAY_DEMO_TENANT_ID" "tenant_demo"))
  defaultTenantId := envOrDefault env "GATEWAY_DEMO_TENANT_ID" "tenant_demo"
  shopIds := splitCSV (envOrDefault env "GATEWAY_DEMO_SHOP_IDS"
    (envOrDefault env "GATEWAY_DEMO_SHOP_ID" "default_shop"))
  defaultShopId := envOrDefault env "GATEWAY_DEMO_SHOP_ID" "default_shop"
  roles := splitCSV (envOrDefault env "GATEWAY_DEMO_ROLES" "admin")
  permissions := permissions env

/-! ### The store -/

/-- `StaticUserStore`, with what the file at its path decodes to: `none` when there is no such
file or when it does not hold a map of users. -/
structure Store where
  users : Hash String Account
  filePath : String
  disk : Option (Hash String Stored)

namespace Store

/-- `loadFromFile`. -/
def loadFromFile (s : Store) : Store :=
  if s.filePath = "" then s else
  match s.disk with
  | none => s
  | some users =>
    { s with users := (((users.filterFields fun id => trimSpaceString id ≠ "").map
        unmarshal).items.foldl Hash.hset s.users) }

/-- `persistLocked`. -/
def persistLocked (s : Store) : Store :=
  if s.filePath = "" then s else { s with disk := some (s.users.map marshal) }

/-- `s.users[userID] = user` and the file written after it. -/
def put (s : Store) (userID : String) (user : Account) : Store :=
  persistLocked { s with users := s.users.hset (userID, user) }

end Store

/-- `NewStaticUserStore`, with what the file holds at that time. -/
def newStaticUserStore (env : Env) (disk : Option (Hash String Stored)) : Store :=
  let user := demoUser env
  let store : Store :=
    { users := Hash.empty.hset (demoID env, user)
      filePath := env "GATEWAY_STATIC_USER_FILE"
      disk := disk }
  let store := store.loadFromFile
  if store.users.hexists (demoID env) then store else store.put (demoID env) user

section Authenticate

variable (simpleFold : Char → Char)

/-- `strings.EqualFold`: the texts agree up to the simple case folding of Unicode. -/
def equalFold (a b : String) : Bool := a.toList.map simpleFold == b.toList.map simpleFold

/-- `Authenticate`, when the loop over the map meets the accounts in the given order. -/
def authenticate (order : List (String × Account)) (s : Store) (username password : String) :
    Except String Account :=
  let user := (s.users.hget username).or
    ((order.find? fun item => equalFold simpleFold item.2.email (trimSpaceString username)).map
      Prod.snd)
  match user with
  | none => .error "invalid credentials"
  | some user => if user.password = password then .ok user else .error "invalid credentials"

/-- The possible outcomes of `Authenticate`. -/
def Authenticates (s : Store) (username password : String) (outcome : Except String Account) :
    Prop :=
  ∃ order, order.Perm s.users.items ∧ authenticate simpleFold order s username password = outcome

end Authenticate

/-! ### The calls -/

/-- `tenantID` of `Register`. -/
def registerTenantID (input : RegisterInput) : String :=
  let tenantID := normalizeIdentifier input.tenantId
  let tenantID := if tenantID = "" then normalizeIdentifier input.tenantName else tenantID
  if tenantID = "" then input.userID ++ "_org" else tenantID

/-- `shopID` of `Register`. -/
def registerShopID (input : RegisterInput) : String :=
  let shopID := normalizeIdentifier input.shopId
  if shopID = "" then normalizeIdentifier input.shopName else shopID

/-- The account that `Register` makes. -/
def registered (env : Env) (input : RegisterInput) : Account where
  id := input.userID
  name := firstNonEmpty [input.name, input.userID]
  email := firstNonEmpty [input.email, input.userId]
  phone := input.phone
  companyName := firstNonEmpty [input.companyName, input.tenantName, registerTenantID input]
  plan := firstNonEmpty [input.plan, "Team"]
  createdAt := "now"
  onboardingDone := registerShopID input ≠ ""
  password := input.password
  tenantIds := [registerTenantID input]
  defaultTenantId := registerTenantID input
  shopIds := if registerShopID input ≠ "" then [registerShopID input] else []
  defaultShopId := registerShopID input
  roles := ["admin"]
  permissions := permissions env

/-- The methods that change the store. -/
inductive Call
  | register (input : RegisterInput)
  | addShop (userID tenantID shopID : String)
  | updateProfile (userID : String) (input : ProfileInput)
  | updatePassword (userID currentPassword newPassword : String)
  | setOnboardingCompleted (userID : String) (completed : Bool)
deriving DecidableEq, Repr

namespace Store

/-- `Register`. -/
def register (env : Env) (s : Store) (input : RegisterInput) : Except String (Store × Account) :=
  if input.userID = "" then .error "user id required"
  else if trimSpaceString input.password = "" then .error "password required"
  else if s.users.hexists input.userID then .error "user already exists"
  else .ok (s.put input.userID (registered env input), registered env input)

/-- Look an account up, change it and store it. -/
def change (s : Store) (userID : String) (f : Account → Except String Account) :
    Except String (Store × Account) :=
  match s.users.hget userID with
  | none => .error "user not found"
  | some user =>
    match f user with
    | .error e => .error e
    | .ok user => .ok (s.put userID user, user)

/-- `AddShop`. -/
def addShop (s : Store) (userID tenantID shopID : String) : Except String (Store × Account) :=
  let shopID := normalizeIdentifier shopID
  if shopID = "" then .error "shop id required" else
  s.change userID fun user =>
    if tenantID ≠ "" ∧ tenantID ∉ user.tenantIds then .error "tenant forbidden"
    else .ok { user with
      shopIds := if shopID ∈ user.shopIds then user.shopIds else user.shopIds ++ [shopID]
      defaultShopId := if user.defaultShopId = "" then shopID else user.defaultShopId
      onboardingDone := true }

/-- `UpdateProfile`. -/
def updateProfile (s : Store) (userID : String) (input : ProfileInput) :
    Except String (Store × Account) :=
  s.change userID fun user => .ok { user with
    name := firstNonEmpty [input.name, user.name]
    email := firstNonEmpty [input.email, user.email]
    phone := firstNonEmpty [input.phone, user.phone]
    companyName := firstNonEmpty [input.companyName, user.companyName] }

/-- `UpdatePassword`. -/
def updatePassword (s : Store) (userID currentPassword newPassword : String) :
    Except String (Store × Account) :=
  s.change userID fun user =>
    if user.password ≠ currentPassword then .error "invalid credentials"
    else if trimSpaceString newPassword = "" then .error "password required"
    else .ok { user with password := newPassword }

/-- `SetOnboardingCompleted`. -/
def setOnboardingCompleted (s : Store) (userID : String) (completed : Bool) :
    Except String (Store × Account) :=
  s.change userID fun user => .ok { user with onboardingDone := completed }

/-- The method that a call runs. -/
def exec (env : Env) (s : Store) : Call → Except String (Store × Account)
  | .register input => s.register env input
  | .addShop userID tenantID shopID => s.addShop userID tenantID shopID
  | .updateProfile userID input => s.updateProfile userID input
  | .updatePassword userID currentPassword newPassword =>
    s.updatePassword userID currentPassword newPassword
  | .setOnboardingCompleted userID completed => s.setOnboardingCompleted userID completed

/-- The store after a call, the same store when the call is refused. -/
def step (env : Env) (s : Store) (call : Call) : Store :=
  match s.exec env call with
  | .ok (s', _) => s'
  | .error _ => s

/-- The store after a sequence of calls. -/
def run (env : Env) (s : Store) (calls : List Call) : Store := calls.foldl (step env) s

end Store

/-- The user and the password that a call sets when it is accepted. -/
def Call.sets : Call → Option (String × String)
  | .register input => some (input.userID, input.password)
  | .updatePassword userID _ newPassword => some (userID, newPassword)
  | _ => none

/-- The pairs set by the accepted calls of a sequence. -/
def passwordsSet (env : Env) (s : Store) : List Call → List (String × String)
  | [] => []
  | call :: calls =>
    (match s.exec env call with
      | .ok _ => call.sets.toList
      | .error _ => []) ++ passwordsSet env (s.step env call) calls

/-! ### What is loaded -/

/-- The account that the file gives for a name. -/
def loaded (disk : Option (Hash String Stored)) (userID : String) : Option Account :=
  if trimSpaceString userID = "" then none else (disk.bind (·.hget userID)).map unmarshal

lemma hget_loadFromFile {s : Store} (hpath : s.filePath ≠ "") (k : String) :
    s.loadFromFile.users.hget k = (loaded s.disk k).or (s.users.hget k) := by
  rw [Store.loadFromFile, if_neg hpath, loaded]
  cases hdisk : s.disk with
  | none => simp
  | some users =>
    refine (Hash.hget_foldl_hset_nodup s.users
      ((users.filterFields fun id => trimSpaceString id ≠ "").map unmarshal).nodup k).trans ?_
    congr 1
    refine (Hash.hget_map _ unmarshal k).trans ?_
    rw [Hash.hget_filterFields]
    by_cases hblank : trimSpaceString k = "" <;> simp [hblank]

lemma loadFromFile_disk (s : Store) : s.loadFromFile.disk = s.disk := by
  rw [Store.loadFromFile]
  split
  · rfl
  · split <;> rfl

lemma loadFromFile_filePath (s : Store) : s.loadFromFile.filePath = s.filePath := by
  rw [Store.loadFromFile]
  split
  · rfl
  · split <;> rfl

section New

variable {env : Env} (hpath : env "GATEWAY_STATIC_USER_FILE" ≠ "")
  (disk : Option (Hash String Stored))

include hpath

/-- The demo user is in the map before the file is read, so that its absence from the file is
never noticed and nothing is written. -/
lemma newStaticUserStore_eq : newStaticUserStore env disk =
    Store.loadFromFile
      { users := Hash.empty.hset (demoID env, demoUser env)
        filePath := env "GATEWAY_STATIC_USER_FILE"
        disk := disk } := by
  rw [newStaticUserStore]
  refine if_pos ?_
  rw [Hash.hexists, hget_loadFromFile hpath, Hash.hget_hset, Function.update_self]
  cases loaded disk (demoID env) <;> rfl

lemma hget_newStaticUserStore (k : String) :
    (newStaticUserStore env disk).users.hget k =
      (loaded disk k).or (if k = demoID env then some (demoUser env) else none) := by
  rw [newStaticUserStore_eq hpath, hget_loadFromFile hpath, Hash.hget_hset,
    Function.update_apply]
  rfl

lemma disk_newStaticUserStore : (newStaticUserStore env disk).disk = disk := by
  rw [newStaticUserStore_eq hpath, loadFromFile_disk]

lemma filePath_newStaticUserStore :
    (newStaticUserStore env disk).filePath = env "GATEWAY_STATIC_USER_FILE" := by
  rw [newStaticUserStore_eq hpath, loadFromFile_filePath]

/-- The demo user is always there. -/
lemma exists_demoUser : ((newStaticUserStore env disk).users.hget (demoID env)).isSome := by
  rw [hget_newStaticUserStore hpath, if_pos rfl, Option.isSome_or]
  simp

end New

/-! ### Who is authenticated -/

section Outcomes

variable {simpleFold : Char → Char} {s s' : Store} {username password : String}

/-- A user name that is a key of the map is decided by the record under it. -/
lemma authenticates_iff_of_hget {user : Account} (hget : s.users.hget username = some user)
    {outcome : Except String Account} :
    Authenticates simpleFold s username password outcome ↔
      (if user.password = password then .ok user else .error "invalid credentials") = outcome := by
  have h : ∀ order, authenticate simpleFold order s username password =
      if user.password = password then .ok user else .error "invalid credentials" := by
    intro order
    simp only [authenticate, hget, Option.some_or]
  constructor
  · rintro ⟨order, -, rfl⟩
    exact (h order).symm
  · rintro rfl
    exact ⟨_, List.Perm.refl _, h _⟩

/-- Whoever is authenticated is a user of the store with that password. -/
lemma exists_of_authenticates {user : Account}
    (h : Authenticates simpleFold s username password (.ok user)) :
    ∃ k, s.users.hget k = some user ∧ user.password = password := by
  obtain ⟨order, hperm, h⟩ := h
  simp only [authenticate] at h
  cases hfound : (s.users.hget username).or ((order.find? fun item =>
      equalFold simpleFold item.2.email (trimSpaceString username)).map Prod.snd) with
  | none => rw [hfound] at h; cases h
  | some found =>
    rw [hfound] at h
    dsimp only at h
    split at h
    · rename_i hpassword
      obtain rfl : found = user := Except.ok.inj h
      refine Exists.imp (fun k hk => ⟨hk, hpassword⟩) ?_
      rcases Option.or_eq_some_iff.mp hfound with hkey | ⟨-, hemail⟩
      · exact ⟨username, hkey⟩
      · obtain ⟨⟨k, account⟩, hitem, rfl⟩ := Option.map_eq_some_iff.mp hemail
        exact ⟨k, (Hash.mem_items_iff _).mp (hperm.mem_iff.mp (List.mem_of_find?_eq_some hitem))⟩
    · cases h

/-- Stores with the same accounts have the same outcomes. -/
lemma authenticates_congr (hget : s.users.hget = s'.users.hget) {outcome : Except String Account} :
    Authenticates simpleFold s username password outcome ↔
      Authenticates simpleFold s' username password outcome := by
  have hsame : ∀ order, authenticate simpleFold order s username password =
      authenticate simpleFold order s' username password := by
    intro order
    rw [authenticate, authenticate, hget]
  have hperm := Hash.items_perm hget
  constructor
  · rintro ⟨order, horder, h⟩
    exact ⟨order, horder.trans hperm, (hsame order).symm.trans h⟩
  · rintro ⟨order, horder, h⟩
    exact ⟨order, horder.trans hperm.symm, (hsame order).trans h⟩

end Outcomes

/-! ### What a call does -/

/-- The call passes every check of its method. -/
def Call.accepted (s : Store) : Call → Bool
  | .register input =>
    input.userID ≠ "" && trimSpaceString input.password ≠ "" && !s.users.hexists input.userID
  | .addShop userID tenantID shopID =>
    normalizeIdentifier shopID ≠ "" && (s.users.hget userID).any fun user =>
      tenantID = "" || tenantID ∈ user.tenantIds
  | .updateProfile userID _ => s.users.hexists userID
  | .updatePassword userID currentPassword newPassword =>
    (s.users.hget userID).any fun user =>
      user.password = currentPassword && trimSpaceString newPassword ≠ ""
  | .setOnboardingCompleted userID _ => s.users.hexists userID

/-- A registration with a user name and a password. -/
def Call.registers : Call → Bool
  | .register input => input.userID ≠ "" && trimSpaceString input.password ≠ ""
  | _ => false

namespace Store

variable {env : Env} {s s' : Store} {call : Call} {user : Account}

lemma change_eq_ok {userID : String} {f : Account → Except String Account} :
    s.change userID f = .ok (s', user) ↔
      ∃ old, s.users.hget userID = some old ∧ f old = .ok user ∧ s' = s.put userID user := by
  rw [change]
  cases s.users.hget userID with
  | none => simp
  | some old =>
    cases hf : f old with
    | error e => simp [hf]
    | ok new =>
      simp only [Except.ok.injEq, Prod.mk.injEq, Option.some.injEq, exists_eq_left', hf]
      constructor
      · rintro ⟨rfl, rfl⟩
        exact ⟨rfl, rfl⟩
      · rintro ⟨rfl, rfl⟩
        exact ⟨rfl, rfl⟩

/-- An accepted call stores one account: a new one of a registration, or an account that was
there, whose password stays or becomes the new one. -/
lemma exec_cases (h : s.exec env call = .ok (s', user)) :
    (∃ input, call = .register input ∧ call.registers ∧ s.users.hget input.userID = none ∧
      s' = s.put input.userID (registered env input)) ∨
    (∃ userID old, s.users.hget userID = some old ∧ s' = s.put userID user ∧
      (∀ pair ∈ call.sets, trimSpaceString pair.2 ≠ "")) ∧ call.registers = false := by
  cases call with
  | register input =>
    simp only [exec, register] at h
    split at h
    · cases h
    · split at h
      · cases h
      · split at h
        · cases h
        · rename_i hid hpassword hexists
          simp only [Except.ok.injEq, Prod.mk.injEq] at h
          refine .inl ⟨input, rfl, by simp [Call.registers, hid, hpassword], ?_, h.1.symm⟩
          simpa [Hash.hexists] using hexists
  | addShop userID tenantID shopID =>
    simp only [exec, addShop] at h
    split at h
    · cases h
    · obtain ⟨old, hold, -, hput⟩ := change_eq_ok.mp h
      exact .inr ⟨⟨userID, old, hold, hput, by simp [Call.sets]⟩, rfl⟩
  | updateProfile userID input =>
    rw [exec, updateProfile] at h
    obtain ⟨old, hold, -, hput⟩ := change_eq_ok.mp h
    exact .inr ⟨⟨userID, old, hold, hput, by simp [Call.sets]⟩, rfl⟩
  | updatePassword userID currentPassword newPassword =>
    obtain ⟨old, hold, hf, hput⟩ := change_eq_ok.mp h
    refine .inr ⟨⟨userID, old, hold, hput, ?_⟩, rfl⟩
    split at hf
    · cases hf
    · split at hf
      · cases hf
      · rename_i hblank
        simpa [Call.sets] using hblank
  | setOnboardingCompleted userID completed =>
    rw [exec, setOnboardingCompleted] at h
    obtain ⟨old, hold, -, hput⟩ := change_eq_ok.mp h
    exact .inr ⟨⟨userID, old, hold, hput, by simp [Call.sets]⟩, rfl⟩

lemma change_isOk {userID : String} {f : Account → Except String Account} :
    (s.change userID f).isOk = (s.users.hget userID).any fun old => (f old).isOk := by
  rw [change]
  cases s.users.hget userID with
  | none => rfl
  | some old => cases hf : f old <;> simp [hf, Except.isOk, Except.toBool]

/-- The checks of the methods decide whether a call goes through. -/
lemma exec_isOk : (s.exec env call).isOk = call.accepted s := by
  cases call with
  | register input =>
    rw [exec, register, Call.accepted]
    split
    · simp_all [Except.isOk, Except.toBool]
    · split
      · simp_all [Except.isOk, Except.toBool]
      · split <;> simp_all [Except.isOk, Except.toBool]
  | addShop userID tenantID shopID =>
    simp only [exec, addShop, Call.accepted]
    split
    · simp_all [Except.isOk, Except.toBool]
    · rename_i hshop
      rw [change_isOk, decide_eq_true hshop, Bool.true_and]
      congr 1
      funext old
      split
      · simp_all [Except.isOk, Except.toBool]
      · rename_i hforbidden
        have htenant : tenantID = "" ∨ tenantID ∈ old.tenantIds := by
          by_cases hempty : tenantID = ""
          · exact .inl hempty
          · exact .inr (by simpa [hempty] using hforbidden)
        simpa [Except.isOk, Except.toBool] using htenant
  | updateProfile userID input =>
    rw [exec, updateProfile, change_isOk, Call.accepted, Hash.hexists]
    cases s.users.hget userID <;> rfl
  | updatePassword userID currentPassword newPassword =>
    rw [exec, updatePassword, change_isOk, Call.accepted]
    congr 1
    funext old
    split
    · simp_all [Except.isOk, Except.toBool]
    · split <;> simp_all [Except.isOk, Except.toBool]
  | setOnboardingCompleted userID completed =>
    rw [exec, setOnboardingCompleted, change_isOk, Call.accepted, Hash.hexists]
    cases s.users.hget userID <;> rfl

lemma hget_put (userID : String) (user : Account) :
    (s.put userID user).users.hget = Function.update s.users.hget userID (some user) := by
  rw [put, persistLocked]
  split <;> exact Hash.hget_hset _ _

@[simp] lemma filePath_put (userID : String) (user : Account) :
    (s.put userID user).filePath = s.filePath := by
  rw [put, persistLocked]
  split <;> rfl

/-- The file is written with every account that is stored. -/
lemma disk_put (hpath : s.filePath ≠ "") (userID : String) (user : Account) :
    (s.put userID user).disk = some ((s.put userID user).users.map marshal) := by
  rw [put, persistLocked, if_neg hpath]

/-- A refused call changes nothing, an accepted one stores one account. -/
lemma step_cases (env : Env) (s : Store) (call : Call) :
    (call.accepted s = false ∧ s.step env call = s) ∨
    (call.accepted s = true ∧ ∃ s' user, s.exec env call = .ok (s', user) ∧
      s.step env call = s') := by
  have hiff : (s.exec env call).isOk = call.accepted s := exec_isOk
  rw [step]
  cases hexec : s.exec env call with
  | error e =>
    rw [hexec] at hiff
    exact .inl ⟨hiff.symm, rfl⟩
  | ok result =>
    obtain ⟨s', user⟩ := result
    rw [hexec] at hiff
    exact .inr ⟨hiff.symm, s', user, rfl, rfl⟩

/-- An accepted call stores an account under one name. -/
lemma exists_put (h : s.exec env call = .ok (s', user)) :
    ∃ userID account, s' = s.put userID account ∧
      ((∃ input, call = .register input ∧ input.userID = userID) ∨
        (s.users.hget userID).isSome) := by
  rcases exec_cases h with ⟨input, rfl, -, -, hput⟩ | ⟨⟨userID, old, hold, hput, -⟩, -⟩
  · exact ⟨_, _, hput, .inl ⟨input, rfl, rfl⟩⟩
  · exact ⟨userID, user, hput, .inr (by rw [hold]; rfl)⟩

variable (env) (s)

lemma filePath_step (call : Call) : (s.step env call).filePath = s.filePath := by
  rcases step_cases env s call with ⟨-, hstep⟩ | ⟨-, s', user, hexec, hstep⟩
  · rw [hstep]
  · obtain ⟨userID, account, rfl, -⟩ := exists_put hexec
    rw [hstep, filePath_put]

/-- No call removes an account. -/
lemma isSome_step (call : Call) {k : String} (h : (s.users.hget k).isSome) :
    ((s.step env call).users.hget k).isSome := by
  rcases step_cases env s call with ⟨-, hstep⟩ | ⟨-, s', user, hexec, hstep⟩
  · rwa [hstep]
  · obtain ⟨userID, account, rfl, -⟩ := exists_put hexec
    rw [hstep, hget_put, Function.update_apply]
    split
    · rfl
    · exact h

/-- Only a registration adds an account. -/
lemma eq_none_step {call : Call} (hcall : call.registers = false) {k : String}
    (h : s.users.hget k = none) : (s.step env call).users.hget k = none := by
  rcases step_cases env s call with ⟨-, hstep⟩ | ⟨-, s', user, hexec, hstep⟩
  · rwa [hstep]
  · rcases exec_cases hexec with ⟨input, -, hregisters, -⟩ | ⟨⟨userID, old, hold, rfl, -⟩, -⟩
    · rw [hcall] at hregisters
      cases hregisters
    · have hne : k ≠ userID := by
        rintro rfl
        rw [h] at hold
        cases hold
      rw [hstep, hget_put, Function.update_of_ne hne, h]

/-- A registration with a name and a password leaves an account of that name. -/
lemma isSome_step_register {input : RegisterInput} (h : (Call.register input).registers) :
    ((s.step env (.register input)).users.hget input.userID).isSome := by
  rcases step_cases env s (.register input) with ⟨hrefused, hstep⟩ | ⟨-, s', user, hexec, hstep⟩
  · simp only [Call.registers] at h
    rw [Call.accepted, h, Bool.true_and, Bool.not_eq_false'] at hrefused
    rw [hstep]
    exact hrefused
  · rcases exec_cases hexec with ⟨other, hother, -, -, rfl⟩ | ⟨-, hregisters⟩
    · obtain rfl : input = other := Call.register.inj hother
      rw [hstep, hget_put, Function.update_self]
      rfl
    · rw [hregisters] at h
      cases h

/-- An accepted call writes the file with the accounts it leaves. -/
lemma disk_step (hpath : s.filePath ≠ "") (call : Call) :
    (call.accepted s = false ∧ s.step env call = s) ∨
      (s.step env call).disk = some ((s.step env call).users.map marshal) := by
  rcases step_cases env s call with hrefused | ⟨-, s', user, hexec, hstep⟩
  · exact .inl hrefused
  · obtain ⟨userID, account, rfl, -⟩ := exists_put hexec
    rw [hstep]
    exact .inr (disk_put hpath _ _)

/-! ### What a run does -/

lemma run_cons (call : Call) (calls : List Call) :
    s.run env (call :: calls) = (s.step env call).run env calls := rfl

lemma isSome_run (calls : List Call) {k : String} (h : (s.users.hget k).isSome) :
    ((s.run env calls).users.hget k).isSome := by
  induction calls generalizing s with
  | nil => exact h
  | cons call calls ih => exact ih (s.step env call) (isSome_step env s call h)

lemma eq_none_run {calls : List Call} (hcalls : ∀ call ∈ calls, call.registers = false)
    {k : String} (h : s.users.hget k = none) : (s.run env calls).users.hget k = none := by
  induction calls generalizing s with
  | nil => exact h
  | cons call calls ih =>
    exact ih (s.step env call) (fun other hother => hcalls other (List.mem_cons_of_mem _ hother))
      (eq_none_step env s (hcalls call List.mem_cons_self) h)

lemma isSome_run_register {calls : List Call} {input : RegisterInput}
    (hmem : .register input ∈ calls) (h : (Call.register input).registers) :
    ((s.run env calls).users.hget input.userID).isSome := by
  induction calls generalizing s with
  | nil => cases hmem
  | cons call calls ih =>
    rw [run_cons]
    rcases List.mem_cons.mp hmem with rfl | hmem
    · exact isSome_run env _ calls (isSome_step_register env s h)
    · exact ih (s.step env call) hmem

/-- Once the file holds the accounts of the store it always does. -/
lemma disk_run_of_disk (hpath : s.filePath ≠ "") (calls : List Call)
    (h : s.disk = some (s.users.map marshal)) :
    (s.run env calls).disk = some ((s.run env calls).users.map marshal) := by
  induction calls generalizing s with
  | nil => exact h
  | cons call calls ih =>
    rw [run_cons]
    have hpath' : (s.step env call).filePath ≠ "" := by rwa [filePath_step]
    rcases disk_step env s hpath call with ⟨-, hstep⟩ | hdisk
    · exact ih _ hpath' (by rw [hstep, h])
    · exact ih _ hpath' hdisk

/-- Either every call is refused and nothing changes, or the file holds what the store holds. -/
lemma disk_run (hpath : s.filePath ≠ "") (calls : List Call) :
    ((∀ call ∈ calls, call.accepted s = false) ∧ s.run env calls = s) ∨
      (s.run env calls).disk = some ((s.run env calls).users.map marshal) := by
  induction calls with
  | nil => exact .inl ⟨by simp, rfl⟩
  | cons call calls ih =>
    rw [run_cons]
    rcases disk_step env s hpath call with ⟨hrefused, hstep⟩ | hdisk
    · rw [hstep]
      refine ih.imp_left fun ⟨hall, hrun⟩ => ⟨?_, hrun⟩
      intro other hother
      rcases List.mem_cons.mp hother with rfl | hother
      · exact hrefused
      · exact hall other hother
    · exact .inr (disk_run_of_disk env _ (by rwa [filePath_step]) calls hdisk)

lemma run_of_refused {calls : List Call} (h : ∀ call ∈ calls, call.accepted s = false) :
    s.run env calls = s := by
  induction calls with
  | nil => rfl
  | cons call calls ih =>
    have hstep : s.step env call = s := by
      rcases step_cases env s call with ⟨-, hstep⟩ | ⟨haccepted, -⟩
      · exact hstep
      · rw [h call List.mem_cons_self] at haccepted
        cases haccepted
    rw [run_cons, hstep]
    exact ih fun other hother => h other (List.mem_cons_of_mem _ hother)

/-- No accepted call sets the empty password. -/
lemma password_ne_of_mem {calls : List Call} {pair : String × String}
    (h : pair ∈ passwordsSet env s calls) : pair.2 ≠ "" := by
  have hblank : ∀ {password : String}, trimSpaceString password ≠ "" → password ≠ "" := by
    rintro password hne rfl
    exact hne rfl
  induction calls generalizing s with
  | nil => cases h
  | cons call calls ih =>
    rw [passwordsSet, List.mem_append] at h
    rcases h with h | h
    · split at h
      · rename_i result hexec
        rcases exec_cases hexec with ⟨input, rfl, hregisters, -⟩ | ⟨⟨-, -, -, -, hsets⟩, -⟩
        · simp only [Call.sets, Option.toList_some, List.mem_singleton] at h
          simp only [Call.registers, Bool.and_eq_true, decide_eq_true_eq] at hregisters
          rw [h]
          exact hblank hregisters.2
        · exact hblank (hsets pair (by simpa using h))
      · cases h
    · exact ih _ h

end Store

/-! ### The restart -/

section Restart

variable (simpleFold : Char → Char) (env : Env) (disk : Option (Hash String Stored))
  (calls : List Call)

/-- The store after the calls, when the file held `disk` before them. -/
def before : Store := (newStaticUserStore env disk).run env calls

/-- The store that is made from the file the calls leave, in the same environment. -/
def restarted : Store := newStaticUserStore env (before env disk calls).disk

/-- The user and the password of the demo account, and the pairs that the calls set. -/
def configuredOrSet : List (String × String) :=
  (demoID env, (demoUser env).password) ::
    passwordsSet env (newStaticUserStore env disk) calls

/-- Credentials survive the restart: every attempt has the outcomes it had before, and whoever is
let in gave a password that was configured or set for that account. -/
structure SurvivesRestart : Prop where
  same_outcomes : ∀ username password outcome,
    Authenticates simpleFold (restarted env disk calls) username password outcome ↔
      Authenticates simpleFold (before env disk calls) username password outcome
  only_set : ∀ username password user,
    Authenticates simpleFold (restarted env disk calls) username password (.ok user) →
      ∃ userID, (restarted env disk calls).users.hget userID = some user ∧
        (userID, password) ∈ configuredOrSet env disk calls

/-- The file names nobody at the start, and either no call is accepted, so that it is never
written, or the demo user, whom the loader then skips for a blank name, stays the only account
and ends as it is configured. -/
def Recoverable : Prop :=
  (∀ userID, ((disk.bind (·.hget userID)).isSome → trimSpaceString userID = "")) ∧
  ((∀ call ∈ calls, call.accepted (newStaticUserStore env disk) = false) ∨
    (trimSpaceString (demoID env) = "" ∧ (∀ call ∈ calls, call.registers = false) ∧
      (before env disk calls).users.hget (demoID env) = some (demoUser env)))

variable {simpleFold env disk calls}

lemma password_ne_of_configuredOrSet {pair : String × String}
    (h : pair ∈ configuredOrSet env disk calls) : pair.2 ≠ "" := by
  rcases List.mem_cons.mp h with rfl | h
  · exact envOrDefault_ne env _ (by decide)
  · exact Store.password_ne_of_mem env _ h

/-- A file that names nobody gives no account. -/
lemma loaded_eq_none {k : String}
    (h : (disk.bind (·.hget k)).isSome → trimSpaceString k = "") : loaded disk k = none := by
  rw [loaded]
  split
  · rfl
  · rename_i hblank
    rw [Option.map_eq_none_iff, ← Option.not_isSome_iff_eq_none]
    exact fun hsome => hblank (h hsome)

variable (hpath : env "GATEWAY_STATIC_USER_FILE" ≠ "")

include hpath

/-- Every account that the loader takes from the file opens with the empty password. -/
lemma SurvivesRestart.blank_of_stored (h : SurvivesRestart simpleFold env disk calls)
    {userID : String} (hstored : ((before env disk calls).disk.bind (·.hget userID)).isSome) :
    trimSpaceString userID = "" := by
  by_contra hblank
  obtain ⟨stored, hstored⟩ := Option.isSome_iff_exists.mp hstored
  have hget : (restarted env disk calls).users.hget userID = some (unmarshal stored) := by
    rw [restarted, hget_newStaticUserStore hpath, loaded, if_neg hblank, hstored]
    rfl
  have hauth : Authenticates simpleFold (restarted env disk calls) userID ""
      (.ok (unmarshal stored)) := (authenticates_iff_of_hget hget).mpr (if_pos rfl)
  obtain ⟨other, -, hmem⟩ := h.only_set _ _ _ hauth
  exact password_ne_of_configuredOrSet hmem rfl

/-- When the file holds the accounts of the store, a surviving store has none but the demo
account, as it is configured. -/
lemma SurvivesRestart.recoverable_of_disk (h : SurvivesRestart simpleFold env disk calls)
    (hdisk : (before env disk calls).disk = some ((before env disk calls).users.map marshal)) :
    Recoverable env disk calls := by
  have hblank : ∀ {userID}, ((before env disk calls).users.hget userID).isSome →
      trimSpaceString userID = "" := by
    intro userID hsome
    refine h.blank_of_stored hpath ?_
    rw [hdisk, Option.bind_some, Hash.hget_map, Option.isSome_map]
    exact hsome
  have hdemo : ((before env disk calls).users.hget (demoID env)).isSome :=
    Store.isSome_run env _ calls (exists_demoUser hpath disk)
  refine ⟨fun userID hstored => ?_, .inr ⟨hblank hdemo, fun call hcall => ?_, ?_⟩⟩
  · by_contra hne
    refine hne (hblank (Store.isSome_run env _ calls ?_))
    rw [hget_newStaticUserStore hpath, loaded, if_neg hne, Option.isSome_or, Option.isSome_map,
      hstored]
    rfl
  · cases call with
    | register input =>
      refine Bool.eq_false_iff.mpr fun hregisters => ?_
      have hname : input.userID ≠ "" := by
        simp only [Call.registers, Bool.and_eq_true, decide_eq_true_eq] at hregisters
        exact hregisters.1
      have htrim := (isTrimmed_normalizeIdentifier hname).2
      rw [← RegisterInput.userID,
        hblank (Store.isSome_run_register env _ hcall hregisters)] at htrim
      exact hname htrim.symm
    | _ => rfl
  · obtain ⟨user, huser⟩ := Option.isSome_iff_exists.mp hdemo
    have hauth := (h.same_outcomes (demoID env) user.password (.ok user)).mpr
      ((authenticates_iff_of_hget huser).mpr (if_pos rfl))
    have hget : (restarted env disk calls).users.hget (demoID env) = some (demoUser env) := by
      rw [restarted, hget_newStaticUserStore hpath, loaded, if_pos (hblank hdemo), if_pos rfl]
      rfl
    rw [authenticates_iff_of_hget hget] at hauth
    split at hauth
    · rw [huser, Except.ok.inj hauth]
    · cases hauth

/-- A recoverable store restarts with the accounts it had: the demo account alone. -/
lemma Recoverable.hget_eq (h : Recoverable env disk calls) :
    (before env disk calls).users.hget =
        (fun k => if k = demoID env then some (demoUser env) else none) ∧
      (restarted env disk calls).users.hget =
        (fun k => if k = demoID env then some (demoUser env) else none) := by
  obtain ⟨hstored, hcalls⟩ := h
  have hstart : (newStaticUserStore env disk).users.hget =
      fun k => if k = demoID env then some (demoUser env) else none := by
    funext k
    rw [hget_newStaticUserStore hpath, loaded_eq_none (hstored k), Option.none_or]
  rcases hcalls with hrefused | ⟨hblank, hregisters, hdemo⟩
  · have hrun : before env disk calls = newStaticUserStore env disk :=
      Store.run_of_refused env _ hrefused
    rw [restarted, hrun, disk_newStaticUserStore hpath]
    exact ⟨hstart, hstart⟩
  · have hbefore : (before env disk calls).users.hget =
        fun k => if k = demoID env then some (demoUser env) else none := by
      funext k
      split
      · rename_i hk
        rw [hk, hdemo]
      · rename_i hk
        refine Store.eq_none_run env _ hregisters ?_
        rw [hstart]
        exact if_neg hk
    refine ⟨hbefore, ?_⟩
    funext k
    rw [restarted, hget_newStaticUserStore hpath, loaded_eq_none, Option.none_or]
    have hfile : (newStaticUserStore env disk).filePath ≠ "" := by
      rwa [filePath_newStaticUserStore hpath]
    rcases Store.disk_run env (newStaticUserStore env disk) hfile calls with ⟨-, hrun⟩ | hdisk
    · rw [before, hrun, disk_newStaticUserStore hpath]
      exact hstored k
    · rw [before, hdisk, Option.bind_some, Hash.hget_map, Option.isSome_map]
      intro hsome
      have hk : k = demoID env := by
        by_contra hk
        have hnone : (before env disk calls).users.hget k = none := by
          rw [hbefore]
          exact if_neg hk
        rw [← before, hnone] at hsome
        cases hsome
      rw [hk, hblank]

/-- The credentials of a file-backed store survive a restart exactly when nothing in the file
names a user and it is not written, except for a demo user with a blank name. -/
theorem survivesRestart_iff :
    SurvivesRestart simpleFold env disk calls ↔ Recoverable env disk calls := by
  constructor
  · intro h
    have hfile : (newStaticUserStore env disk).filePath ≠ "" := by
      rwa [filePath_newStaticUserStore hpath]
    rcases Store.disk_run env (newStaticUserStore env disk) hfile calls with
      ⟨hrefused, hrun⟩ | hdisk
    · refine ⟨fun userID hstored => h.blank_of_stored hpath ?_, .inl hrefused⟩
      rwa [before, hrun, disk_newStaticUserStore hpath]
    · exact h.recoverable_of_disk hpath hdisk
  · intro h
    obtain ⟨hbefore, hrestarted⟩ := h.hget_eq hpath
    refine ⟨fun username password outcome =>
      authenticates_congr (hrestarted.trans hbefore.symm), fun username password user hauth => ?_⟩
    obtain ⟨k, hk, rfl⟩ := exists_of_authenticates hauth
    refine ⟨k, hk, ?_⟩
    rw [hrestarted] at hk
    dsimp only at hk
    split at hk
    · rename_i hname
      obtain rfl : demoUser env = user := Option.some.inj hk
      rw [hname]
      exact List.mem_cons_self
    · cases hk

end Restart

/-- An environment that names only the file. -/
def fileEnv : Env := fun key => if key = "GATEWAY_STATIC_USER_FILE" then "users.json" else ""

/-- A refused change of the password leaves no file, and the restart makes the demo account
again. -/
theorem survivesRestart_refused :
    SurvivesRestart id fileEnv none [.updatePassword "local_user" "guess" "n3w"] := by
  refine (survivesRestart_iff (by decide +kernel)).mpr ⟨?_, .inl (by decide +kernel)⟩
  intro userID hstored
  cases hstored

/-- A registration of `alice`. -/
def registerAlice : Call :=
  .register
    { userId := "alice", name := "Alice", email := "alice@example.com", phone := ""
      companyName := "", plan := "", password := "correct horse", tenantId := ""
      tenantName := "", shopId := "", shopName := "" }

/-- After a registration and a restart the new account opens with the empty password. -/
theorem not_survivesRestart_register : ¬ SurvivesRestart id fileEnv none [registerAlice] := by
  intro h
  have hrestarted : ((restarted fileEnv none [registerAlice]).users.hget "alice").map
      (·.password) = some "" := by decide +kernel
  have hbefore : ((before fileEnv none [registerAlice]).users.hget "alice").map
      (·.password) = some "correct horse" := by decide +kernel
  obtain ⟨user, huser, hopen⟩ := Option.map_eq_some_iff.mp hrestarted
  obtain ⟨old, hold, hpassword⟩ := Option.map_eq_some_iff.mp hbefore
  have hauth := (h.same_outcomes "alice" "" (.ok user)).mp
    ((authenticates_iff_of_hget huser).mpr (if_pos hopen))
  rw [authenticates_iff_of_hget hold, hpassword, if_neg (by decide)] at hauth
  cases hauth

end EcommerceAgent.Gateway.Static
