/-
# Who may join a tenant

`AddShop` checks that the caller is a member of the tenant; `Register` upserts the tenant it was
given and makes the new user its administrator, whether the tenant existed or not.  Membership
is therefore not self-granted exactly along the runs in which every registration that goes
through names a tenant that does not exist yet (`notSelfGranted_iff`).
-/
import EcommerceAgent.Gateway.UserStore
import EcommerceAgent.Lib.Runs
import EcommerceAgent.Lib.Except

open EcommerceAgent.Lib

namespace EcommerceAgent.Gateway

namespace Tables

variable (collate : String → String)

/-- A row of `gateway_tenants` has the id `t`. -/
def TenantExists (s : Tables) (t : String) : Prop := ∃ r ∈ s.tenants, collate r.id = collate t

/-- A row of `gateway_users` has the id `u`. -/
def UserExists (s : Tables) (u : String) : Prop := ∃ r ∈ s.users, collate r.id = collate u

/-- The user `u` has a role in tenant `t`. -/
def IsMember (s : Tables) (u t : String) : Prop :=
  ∃ r ∈ s.userTenants, collate r.userId = collate u ∧ collate r.tenantId = collate t

end Tables

/-- The user who makes a `Register` or `AddShop` call. -/
def Call.actor : Call → Option String
  | .register _ input => some input.userID
  | .addShop _ userID _ _ => some userID
  | .updateProfile _ _ _ => none

/-- The call grants no membership in an existing tenant and does not let a stranger touch one. -/
structure NotSelfGranted (collate : String → String) (s : Tables) (call : Call) : Prop where
  admin : ∀ r ∈ (s.step collate call).userTenants, r ∉ s.userTenants →
    collate r.role = collate "admin" →
    (∃ b input, call = .register b input) ∧ ¬ s.UserExists collate r.userId ∧
      (s.step collate call).UserExists collate r.userId ∧ ¬ s.TenantExists collate r.tenantId
  stranger : ∀ u, call.actor = some u → ∀ t, s.TenantExists collate t →
    ¬ s.IsMember collate u t →
    (s.step collate call).tenants.filter (collate ·.id = collate t) =
        s.tenants.filter (collate ·.id = collate t) ∧
      (∀ r ∈ (s.step collate call).shops, collate r.tenantId = collate t → r ∈ s.shops) ∧
      ∀ r ∈ (s.step collate call).userShops, collate r.tenantId = collate t → r ∈ s.userShops

/-- The registration goes through: there is an account and a password, nothing outside the store
fails, and no stored row collides with the rows it inserts. -/
structure RegisterInput.GoesThrough (collate : String → String) (b : Backend)
    (input : RegisterInput) (s : Tables) : Prop where
  account : input.userID ≠ ""
  password : trimSpaceString input.password ≠ ""
  hashed : ∃ passwordHash, b.hashPassword input.password = .ok passwordHash
  noFault : b.fault .begin_ = none ∧ b.fault .upsertTenant = none ∧ b.fault .insertUser = none ∧
    b.fault .insertUserTenant = none ∧ b.fault .commit = none
  newUser : ∀ r ∈ s.users, Tables.usersCollide collate (input.userRow "") r = false
  newMember : ¬ Table.HasKey (Tables.userTenantKey collate) s.userTenants
    (Tables.userTenantKey collate ⟨input.userID, input.tenantID, "admin"⟩)
  newShop : input.shopID ≠ "" → b.fault .upsertShop = none ∧ b.fault .insertUserShop = none ∧
    ¬ Table.HasKey (Tables.userShopKey collate) s.userShops
      (Tables.userShopKey collate ⟨input.userID, input.tenantID, input.shopID⟩)

/-- Every registration that goes through names a new tenant. -/
def NewTenant (collate : String → String) (s : Tables) : Call → Prop
  | .register b input => input.GoesThrough collate b s → ¬ s.TenantExists collate input.tenantID
  | _ => True

namespace Tables

variable {collate : String → String} {b : Backend} {s s' : Tables}

-- the proofs do not depend on how ids and display texts are cleaned
attribute [local irreducible] normalizeIdentifier firstNonEmpty cleanDisplayText trimSpaceString

/-! ### What a committed transaction leaves -/

lemma exec_eq_ok {st : Statement} {f : Tables → Option Tables} :
    s.exec b st f = .ok s' ↔ b.fault st = none ∧ f s = some s' := by
  unfold exec
  cases b.fault st <;> cases f s <;> simp

lemma insertUser_eq_some {row : UserRow} :
    s.insertUser collate row = some s' ↔
      (∀ r ∈ s.users, usersCollide collate row r = false) ∧
        s' = { s with users := s.users ++ [row] } := by
  unfold insertUser
  split
  · rename_i h
    obtain ⟨r, hr, hcol⟩ := List.any_eq_true.1 h
    simp only [false_iff, not_and, reduceCtorEq]
    intro hno
    rw [hno r hr] at hcol
    cases hcol
  · rename_i h
    have hno : ∀ r ∈ s.users, usersCollide collate row r = false := by simpa using h
    rw [Option.some_inj]
    exact ⟨fun heq => ⟨hno, heq.symm⟩, fun heq => heq.2.symm⟩

lemma insertUserTenant_eq_some {row : UserTenantRow} :
    s.insertUserTenant collate row = some s' ↔
      ¬ Table.HasKey (userTenantKey collate) s.userTenants (userTenantKey collate row) ∧
        s' = { s with userTenants := s.userTenants ++ [row] } := by
  simp only [insertUserTenant, Option.map_eq_some_iff, Table.insert_eq_some]
  constructor
  · rintro ⟨rows, ⟨hnew, rfl⟩, rfl⟩
    exact ⟨hnew, rfl⟩
  · rintro ⟨hnew, rfl⟩
    exact ⟨_, ⟨hnew, rfl⟩, rfl⟩

lemma insertUserShop_eq_some {row : UserShopRow} :
    s.insertUserShop collate row = some s' ↔
      ¬ Table.HasKey (userShopKey collate) s.userShops (userShopKey collate row) ∧
        s' = { s with userShops := s.userShops ++ [row] } := by
  simp only [insertUserShop, Option.map_eq_some_iff, Table.insert_eq_some]
  constructor
  · rintro ⟨rows, ⟨hnew, rfl⟩, rfl⟩
    exact ⟨hnew, rfl⟩
  · rintro ⟨hnew, rfl⟩
    exact ⟨_, ⟨hnew, rfl⟩, rfl⟩

/-- The tables after a registration. -/
def registered (collate : String → String) (input : RegisterInput) (passwordHash : String)
    (s : Tables) : Tables where
  tenants := (s.upsertTenant collate input.tenantID (cleanDisplayText
    (firstNonEmpty [input.tenantName, input.companyName, input.tenantID]))).tenants
  users := s.users ++ [input.userRow passwordHash]
  userTenants := s.userTenants ++ [⟨input.userID, input.tenantID, "admin"⟩]
  shops := if input.shopID = "" then s.shops
    else (s.upsertShop collate input.tenantID input.shopID
      (cleanDisplayText (firstNonEmpty [input.shopName, input.shopID])) "connected").shops
  userShops := if input.shopID = "" then s.userShops
    else s.userShops ++ [⟨input.userID, input.tenantID, input.shopID⟩]

lemma registerShop_eq_ok {input : RegisterInput} :
    s.registerShop collate b input = .ok s' ↔
      (input.shopID ≠ "" → b.fault .upsertShop = none ∧ b.fault .insertUserShop = none ∧
        ¬ Table.HasKey (userShopKey collate) s.userShops
          (userShopKey collate ⟨input.userID, input.tenantID, input.shopID⟩)) ∧
      s' = { s with
        shops := if input.shopID = "" then s.shops
          else (s.upsertShop collate input.tenantID input.shopID
            (cleanDisplayText (firstNonEmpty [input.shopName, input.shopID])) "connected").shops
        userShops := if input.shopID = "" then s.userShops
          else s.userShops ++ [⟨input.userID, input.tenantID, input.shopID⟩] } := by
  unfold registerShop
  by_cases hshop : input.shopID = ""
  · simp [hshop]
    exact eq_comm
  · simp only [if_neg hshop, bind_eq_ok, exec_eq_ok, insertUserShop_eq_some, Option.some_inj]
    constructor
    · rintro ⟨s₁, ⟨h₁, rfl⟩, h₂, hnew, hs'⟩
      exact ⟨fun _ => ⟨h₁, h₂, hnew⟩, hs'⟩
    · rintro ⟨hshop', hs'⟩
      obtain ⟨h₁, h₂, hnew⟩ := hshop' hshop
      exact ⟨_, ⟨h₁, rfl⟩, h₂, hnew, hs'⟩

/-- The transaction of a registration commits exactly when no statement fails. -/
lemma registerTx_eq_ok {input : RegisterInput} {passwordHash : String} :
    s.registerTx collate b input passwordHash = .ok s' ↔
      ((b.fault .begin_ = none ∧ b.fault .upsertTenant = none ∧ b.fault .insertUser = none ∧
          b.fault .insertUserTenant = none ∧ b.fault .commit = none) ∧
        (∀ r ∈ s.users, usersCollide collate (input.userRow passwordHash) r = false) ∧
        ¬ Table.HasKey (userTenantKey collate) s.userTenants
          (userTenantKey collate ⟨input.userID, input.tenantID, "admin"⟩) ∧
        (input.shopID ≠ "" → b.fault .upsertShop = none ∧ b.fault .insertUserShop = none ∧
          ¬ Table.HasKey (userShopKey collate) s.userShops
            (userShopKey collate ⟨input.userID, input.tenantID, input.shopID⟩))) ∧
      s' = s.registered collate input passwordHash := by
  simp only [registerTx, bind_eq_ok, mapError_eq_ok, exec_eq_ok, insertUser_eq_some,
    insertUserTenant_eq_some, registerShop_eq_ok, Option.some_inj]
  constructor
  · rintro ⟨_, ⟨h₁, rfl⟩, _, ⟨h₂, rfl⟩, _, ⟨h₃, huser, rfl⟩, _, ⟨h₄, hmember, rfl⟩, _,
      ⟨hshop, rfl⟩, h₅, hs'⟩
    exact ⟨⟨⟨h₁, h₂, h₃, h₄, h₅⟩, huser, hmember, hshop⟩, hs'.symm⟩
  · rintro ⟨⟨⟨h₁, h₂, h₃, h₄, h₅⟩, huser, hmember, hshop⟩, hs'⟩
    exact ⟨_, ⟨h₁, rfl⟩, _, ⟨h₂, rfl⟩, _, ⟨h₃, huser, rfl⟩, _, ⟨h₄, hmember, rfl⟩, _,
      ⟨hshop, rfl⟩, h₅, hs'.symm⟩

/-- `Register` either goes through, or it leaves the tables alone. -/
lemma register_cases (collate : String → String) (b : Backend) (input : RegisterInput)
    (s : Tables) :
    (input.GoesThrough collate b s ∧ ∃ passwordHash,
      b.hashPassword input.password = .ok passwordHash ∧
        (s.register collate b input).2 = s.registered collate input passwordHash) ∨
    (¬ input.GoesThrough collate b s ∧ (s.register collate b input).2 = s) := by
  by_cases h : input.GoesThrough collate b s
  · obtain ⟨passwordHash, hhash⟩ := h.hashed
    refine .inl ⟨h, passwordHash, hhash, ?_⟩
    have htx : s.registerTx collate b input passwordHash =
        .ok (s.registered collate input passwordHash) :=
      registerTx_eq_ok.2 ⟨⟨h.noFault, h.newUser, h.newMember, h.newShop⟩, rfl⟩
    simp [register, h.account, h.password, hhash, htx]
  · refine .inr ⟨h, ?_⟩
    unfold register
    split
    · rfl
    · rename_i hacc
      split
      · rfl
      · rename_i hpass
        split
        · rfl
        · rename_i passwordHash hhash
          split
          · rfl
          · rename_i s' htx
            obtain ⟨⟨hfault, huser, hmember, hshop⟩, -⟩ := registerTx_eq_ok.1 htx
            exact absurd ⟨hacc, hpass, ⟨_, hhash⟩, hfault, huser, hmember, hshop⟩ h

lemma mem_distinct {v : String} {values : List String} : v ∈ distinct values ↔ v ∈ values := by
  have hgen : ∀ seen : List String, v ∈ values.foldl
      (fun seen v => if v ∈ seen then seen else seen ++ [v]) seen ↔ v ∈ seen ∨ v ∈ values := by
    induction values with
    | nil => simp
    | cons w ws ih =>
      intro seen
      rw [List.foldl_cons, ih, List.mem_cons]
      by_cases hw : w ∈ seen
      · rw [if_pos hw]
        refine ⟨Or.imp_right .inr, ?_⟩
        rintro (h | rfl | h)
        · exact .inl h
        · exact .inl hw
        · exact .inr h
      · rw [if_neg hw, List.mem_append, List.mem_singleton, or_assoc]
  simpa [distinct] using hgen []

/-- A tenant that `loadUser` reports is one the user belongs to. -/
lemma isMember_of_loadUser {userID t : String} {user : User}
    (h : s.loadUser collate b userID = .ok user) (ht : t ∈ user.tenantIds) :
    s.IsMember collate userID t := by
  unfold loadUser at h
  split at h
  · cases h
  · split at h
    · cases h
    · cases h
      obtain ⟨r, hr, rfl⟩ := List.mem_map.1 (mem_distinct.1 ht)
      obtain ⟨hr, hu⟩ := List.mem_filter.1 hr
      exact ⟨r, hr, by simpa using hu, rfl⟩

lemma addShopTx_eq_ok {userID t x : String} (h : s.addShopTx collate b userID t x = .ok s') :
    s' = { s.upsertShop collate t x x "connected" with
      userShops := Table.insertIgnore (userShopKey collate) ⟨userID, t, x⟩ s.userShops
      users := s.users.map fun r =>
        if collate r.id = collate userID then
          { r with defaultShopId := some x, onboardingCompleted := true }
        else r } := by
  simp only [addShopTx, bind_eq_ok, exec_eq_ok, Option.some_inj] at h
  obtain ⟨_, ⟨-, rfl⟩, _, ⟨-, rfl⟩, _, ⟨-, rfl⟩, _, ⟨-, rfl⟩, -, rfl⟩ := h
  rfl

/-- `AddShop` either leaves the tables alone, or it writes one shop of a tenant the caller belongs
to. -/
lemma addShop_cases (collate : String → String) (b : Backend) (userID tenantID shopID : String)
    (s : Tables) :
    (s.addShop collate b userID tenantID shopID).2 = s ∨
    ∃ t x users, s.IsMember collate userID t ∧ (s.addShop collate b userID tenantID shopID).2 =
      { s.upsertShop collate t x x "connected" with
        userShops := Table.insertIgnore (userShopKey collate) ⟨userID, t, x⟩ s.userShops
        users := users } := by
  simp only [addShop]
  split
  · exact .inl rfl
  · split
    · exact .inl rfl
    · rename_i user hload
      generalize normalizeIdentifier (if tenantID = "" then user.defaultTenantId else tenantID) = t
      split
      · exact .inl rfl
      · rename_i hmem
        split
        · exact .inl rfl
        · rename_i s' htx
          have hs' := addShopTx_eq_ok htx
          exact .inr ⟨t, _, _, isMember_of_loadUser hload (by simpa using hmem), hs'⟩

lemma updateProfile_cases (collate : String → String) (b : Backend) (userID : String)
    (input : ProfileInput) (s : Tables) :
    ∃ users, (s.updateProfile collate b userID input).2 = { s with users := users } := by
  simp only [updateProfile]
  split
  · exact ⟨s.users, rfl⟩
  · rename_i s' hex
    obtain ⟨-, hex⟩ := exec_eq_ok.1 hex
    split at hex
    · cases hex
    · cases hex
      exact ⟨_, rfl⟩

/-! ### Who writes which tenant -/

lemma mem_upsertShop {t x name auth : String} {r : ShopRow}
    (h : r ∈ (s.upsertShop collate t x name auth).shops) (hr : collate r.tenantId ≠ collate t) :
    r ∈ s.shops := by
  simp only [upsertShop] at h
  refine Table.mem_of_mem_upsert _ (fun old hold => hold) h ?_
  intro hkey
  exact hr (congrArg Prod.fst hkey)

lemma filter_upsertTenant {t name t' : String} (h : collate t' ≠ collate t) :
    (s.upsertTenant collate t name).tenants.filter (collate ·.id = collate t') =
      s.tenants.filter (collate ·.id = collate t') := by
  simp only [upsertTenant]
  exact Table.filter_upsert (tenantKey collate) (fun old hold => hold) h

/-- A registration that goes through and names a new tenant grants nothing else. -/
lemma notSelfGranted_registered {input : RegisterInput} {passwordHash : String}
    (hstep : s.step collate (.register b input) = s.registered collate input passwordHash)
    (hgo : input.GoesThrough collate b s) (hnew : ¬ s.TenantExists collate input.tenantID) :
    NotSelfGranted collate s (.register b input) where
  admin := by
    intro r hr hold _
    rw [hstep] at hr ⊢
    have hr : r = ⟨input.userID, input.tenantID, "admin"⟩ := by
      simpa [registered, hold] using hr
    subst hr
    refine ⟨⟨b, input, rfl⟩, ?_, ⟨input.userRow passwordHash, by simp [registered], rfl⟩, hnew⟩
    rintro ⟨r, hr, hid⟩
    have := hgo.newUser r hr
    simp [usersCollide, RegisterInput.userRow, hid] at this
  stranger := by
    intro u _ t ht _
    have htt : collate t ≠ collate input.tenantID := by
      intro heq
      obtain ⟨r, hr, hid⟩ := ht
      exact hnew ⟨r, hr, hid.trans heq⟩
    rw [hstep]
    refine ⟨filter_upsertTenant htt, ?_, ?_⟩
    · intro r hr hrt
      by_cases hshop : input.shopID = ""
      · simpa [registered, hshop] using hr
      · simp only [registered, if_neg hshop] at hr
        exact mem_upsertShop hr (by rw [hrt]; exact htt)
    · intro r hr hrt
      by_cases hshop : input.shopID = ""
      · simpa [registered, hshop] using hr
      · simp only [registered, if_neg hshop, List.mem_append, List.mem_singleton] at hr
        rcases hr with hr | rfl
        · exact hr
        · exact absurd hrt.symm htt

/-- A call that leaves everything but the users alone grants nothing. -/
lemma notSelfGranted_of_same {call : Call}
    (htenants : (s.step collate call).tenants = s.tenants)
    (hmembers : (s.step collate call).userTenants = s.userTenants)
    (hshops : (s.step collate call).shops = s.shops)
    (huserShops : (s.step collate call).userShops = s.userShops) :
    NotSelfGranted collate s call where
  admin r hr hold _ := absurd (hmembers ▸ hr) hold
  stranger u _ t _ _ := ⟨by rw [htenants], fun r hr _ => hshops ▸ hr,
    fun r hr _ => huserShops ▸ hr⟩

/-- `AddShop` only writes shops of a tenant the caller belongs to. -/
lemma notSelfGranted_addShop (userID tenantID shopID : String) :
    NotSelfGranted collate s (.addShop b userID tenantID shopID) := by
  rcases s.addShop_cases collate b userID tenantID shopID with h | ⟨t, x, users, hmember, h⟩
  · have hstep : s.step collate (.addShop b userID tenantID shopID) = s := h
    exact notSelfGranted_of_same (by rw [hstep]) (by rw [hstep]) (by rw [hstep]) (by rw [hstep])
  · have hstep : s.step collate (.addShop b userID tenantID shopID) = _ := h
    refine ⟨fun r hr hold => ?_, ?_⟩
    · rw [hstep] at hr
      exact absurd hr hold
    · intro u hu t' _ hstranger
      obtain rfl : userID = u := Option.some.inj hu
      have htt : collate t' ≠ collate t := by
        intro heq
        obtain ⟨r, hr, hru, hrt⟩ := hmember
        exact hstranger ⟨r, hr, hru, hrt.trans heq.symm⟩
      rw [hstep]
      refine ⟨rfl, fun r hr hrt => mem_upsertShop hr (by rw [hrt]; exact htt), ?_⟩
      intro r hr hrt
      rcases Table.mem_insertIgnore _ hr with hr | rfl
      · exact hr
      · exact absurd hrt.symm htt

/-- One call grants no membership exactly when it does not register a user into an existing
tenant. -/
lemma notSelfGranted_step_iff (collate : String → String) (s : Tables) (call : Call) :
    NotSelfGranted collate s call ↔ NewTenant collate s call := by
  cases call with
  | register b input =>
    rcases s.register_cases collate b input with ⟨hgo, passwordHash, -, h⟩ | ⟨hgo, h⟩
    · have hstep : s.step collate (.register b input) =
        s.registered collate input passwordHash := h
      constructor
      · intro hsafe _ hexists
        have hmem : (⟨input.userID, input.tenantID, "admin"⟩ : UserTenantRow) ∈
            (s.step collate (.register b input)).userTenants := by
          rw [hstep]
          simp [registered]
        have hnew : (⟨input.userID, input.tenantID, "admin"⟩ : UserTenantRow) ∉ s.userTenants :=
          fun hold => hgo.newMember ⟨_, hold, rfl⟩
        exact (hsafe.admin _ hmem hnew rfl).2.2.2 hexists
      · intro hnew
        exact notSelfGranted_registered hstep hgo (hnew hgo)
    · have hstep : s.step collate (.register b input) = s := h
      exact ⟨fun _ hgo' => absurd hgo' hgo, fun _ => notSelfGranted_of_same
        (by rw [hstep]) (by rw [hstep]) (by rw [hstep]) (by rw [hstep])⟩
  | addShop b userID tenantID shopID => exact ⟨fun _ => trivial, fun _ => notSelfGranted_addShop ..⟩
  | updateProfile b userID input =>
    obtain ⟨users, h⟩ := s.updateProfile_cases collate b userID input
    have hstep : s.step collate (.updateProfile b userID input) = _ := h
    exact ⟨fun _ => trivial, fun _ => notSelfGranted_of_same
      (by rw [hstep]) (by rw [hstep]) (by rw [hstep]) (by rw [hstep])⟩

end Tables

/-- Membership is not self-granted along a run, from any tables, exactly when every registration
of the run that goes through names a tenant that does not exist yet. -/
theorem notSelfGranted_iff (collate : String → String) (s : Tables) (calls : List Call) :
    Along (Tables.step collate) (NotSelfGranted collate) s calls ↔
      Along (Tables.step collate) (NewTenant collate) s calls :=
  along_congr (Tables.notSelfGranted_step_iff collate) s calls

/-- A database that accepts every statement. -/
def upBackend : Backend := ⟨fun password => .ok password, fun _ => none, []⟩

/-- The body of a registration with an account, a tenant and a password. -/
def registration (userId tenantId : String) : RegisterInput :=
  ⟨userId, "", "", "", "", "", "secret", tenantId, "", "", ""⟩

/-- Whoever registers with the id of an existing tenant becomes its administrator. -/
theorem register_joins_existing :
    ¬ Along (Tables.step id) (NotSelfGranted id) ⟨[], [], [], [], []⟩
      [.register upBackend (registration "alice" "acme"),
        .register upBackend (registration "mallory" " ACME ")] := by
  rintro ⟨-, h, -⟩
  have hrow := h.admin ⟨"mallory", "acme", "admin"⟩ (by decide +kernel) (by decide +kernel) rfl
  refine hrow.2.2.2 ⟨⟨"acme", "acme", "active"⟩, ?_, rfl⟩
  decide +kernel

end EcommerceAgent.Gateway
