/-
# Which tenant and shop a request may use

The store keeps which user may use which shop of which tenant, and `loadUser` flattens this
relation into a list of tenants and a list of shops.  `Resolve` checks the two lists one by one, and
it does not check the second one when it is empty.  It therefore grants only bound shops exactly as
long as every user of a tenant has a shop, and every shop of a user is bound in all the tenants of
the user; a run keeps this exactly when every call does (`grantsOnlyBound_iff`).
-/
import EcommerceAgent.Gateway.Membership
import EcommerceAgent.Gateway.Identity

open EcommerceAgent.Lib EcommerceAgent.Lib.Text

namespace EcommerceAgent.Gateway

/-- A call of one of the methods that bind a user to a tenant or a shop. -/
inductive BindingCall
  | register (b : Backend) (input : RegisterInput)
  | addShop (b : Backend) (userID tenantID shopID : String)
  | ensureUserBindings (b : Backend) (userID tenantID tenantName shopID shopName : String)

namespace Tables

variable (collate : String → String)

/-- What a call leaves in the tables. -/
def bindingStep (s : Tables) : BindingCall → Tables
  | .register b input => (s.register collate b input).2
  | .addShop b userID tenantID shopID => (s.addShop collate b userID tenantID shopID).2
  | .ensureUserBindings b userID tenantID tenantName shopID shopName =>
    (s.ensureUserBindings collate b userID tenantID tenantName shopID shopName).2

/-- The tables after `initSchema`. -/
def empty : Tables := ⟨[], [], [], [], []⟩

/-- The user `u` may use the shop `x` of the tenant `t`. -/
def HasShop (s : Tables) (u t x : String) : Prop :=
  ∃ r ∈ s.userShops,
    collate r.userId = collate u ∧ collate r.tenantId = collate t ∧ collate r.shopId = collate x

/-- Whatever tenant and shop are requested, or none: a user is granted a tenant of his and, unless
the shop is empty, a shop that he may use in this tenant. -/
def GrantsOnlyBound (s : Tables) : Prop :=
  ∀ b userID user, s.loadUser collate b userID = .ok user →
    ∀ requestedTenantID requestedShopID context,
      resolve user requestedTenantID requestedShopID = .ok context →
        s.IsMember collate user.id context.tenantId ∧
          (context.shopId ≠ "" → s.HasShop collate user.id context.tenantId context.shopId)

end Tables

/-- `tenantID` of `AddShop`, after its two assignments. -/
abbrev addedTenant (user : User) (tenantID : String) : String :=
  normalizeIdentifier (if tenantID = "" then user.defaultTenantId else tenantID)

/-- The call goes through and binds the user `u` to the tenant `t` and, unless `x` is empty, to the
shop `x`. -/
inductive BindingCall.Binds (collate : String → String) (s : Tables) :
    BindingCall → String → String → String → Prop
  | register {b : Backend} {input : RegisterInput} (hgo : input.GoesThrough collate b s) :
      Binds collate s (.register b input) input.userID input.tenantID input.shopID
  | addShop {b : Backend} {userID tenantID shopID : String} {user : User} {s' : Tables}
      (hload : s.loadUser collate b userID = .ok user) (hshop : normalizeIdentifier shopID ≠ "")
      (htenant : addedTenant user tenantID ∈ user.tenantIds)
      (htx : s.addShopTx collate b userID (addedTenant user tenantID)
        (normalizeIdentifier shopID) = .ok s') :
      Binds collate s (.addShop b userID tenantID shopID) userID (addedTenant user tenantID)
        (normalizeIdentifier shopID)
  | ensureUserBindings {b : Backend} {userID tenantID tenantName shopID shopName : String}
      {s' : Tables} (huser : s.UserExists collate userID)
      (htenant : normalizeIdentifier tenantID ≠ "")
      (htx : s.ensureUserBindingsTx collate b userID (normalizeIdentifier tenantID) tenantName
        (normalizeIdentifier shopID) shopName = .ok s') :
      Binds collate s (.ensureUserBindings b userID tenantID tenantName shopID shopName) userID
        (normalizeIdentifier tenantID) (normalizeIdentifier shopID)

/-- Binding the user `u` to the tenant `t` and the shop `x` leaves no shop of the user unbound in
one of the tenants of the user.  Without a shop, the user has shops, and all of them are bound in
`t` already; with a shop, all other shops of the user are, and the shop is bound in all other
tenants of the user. -/
def KeepsBound (collate : String → String) (s : Tables) (u t x : String) : Prop :=
  if x = "" then
    (∃ t' x', s.HasShop collate u t' x') ∧
      ∀ t' x', s.HasShop collate u t' x' → s.HasShop collate u t x'
  else
    (∀ t' x', s.HasShop collate u t' x' → collate x' = collate x ∨ s.HasShop collate u t x') ∧
      ∀ t', s.IsMember collate u t' → collate t' = collate t ∨ s.HasShop collate u t' x

/-- The condition on one call. -/
def BindsEverywhere (collate : String → String) (s : Tables) (call : BindingCall) : Prop :=
  ∀ u t x, call.Binds collate s u t x → KeepsBound collate s u t x

/-! ### Normalized ids -/

/-- A non-empty id that `strings.TrimSpace` leaves alone. -/
def IsTrimmed (v : String) : Prop := v ≠ "" ∧ trimSpaceString v = v

lemma isWhiteSpace_of_identifierChar {c : Char} (h : isIdentifierChar c = true) :
    isWhiteSpace c = false := by
  have hrange : (97 ≤ c.toNat ∧ c.toNat ≤ 122) ∨ (48 ≤ c.toNat ∧ c.toNat ≤ 57) ∨
      c.toNat = 95 ∨ c.toNat = 45 := by
    simp only [isIdentifierChar, Bool.or_eq_true, Bool.and_eq_true, decide_eq_true_eq,
      beq_iff_eq] at h
    rcases h with ((⟨h₁, h₂⟩ | ⟨h₁, h₂⟩) | rfl) | rfl
    · exact .inl ⟨h₁, h₂⟩
    · exact .inr (.inl ⟨h₁, h₂⟩)
    · exact .inr (.inr (.inl rfl))
    · exact .inr (.inr (.inr rfl))
  have hspace : isSpace c = false := by
    simp only [isSpace, Bool.or_eq_false_iff, Bool.and_eq_false_iff, decide_eq_false_iff_not,
      beq_eq_false_iff_ne]
    omega
  simp [isWhiteSpace, hspace]

lemma trimSpaceString_of_identifier {v : String} (h : v.toList.all isIdentifierChar = true) :
    trimSpaceString v = v := by
  have hno : ∀ c ∈ v.toList, isWhiteSpace c = false :=
    fun c hc => isWhiteSpace_of_identifierChar (List.all_eq_true.1 h c hc)
  have hdrop : v.toList.dropWhile isWhiteSpace = v.toList := by
    rw [List.dropWhile_eq_self_iff]
    intro hpos
    simpa using hno _ (List.getElem_mem hpos)
  have hrdrop : v.toList.rdropWhile isWhiteSpace = v.toList := by
    rw [List.rdropWhile_eq_self_iff]
    intro hne
    simpa using hno _ (List.getLast_mem hne)
  rw [trimSpaceString, trimSpace, hdrop, hrdrop, String.ofList_toList]

lemma isIdentifierChar_replaceRuns {c : Char} {cs : List Char} {inRun : Bool}
    (h : c ∈ replaceRuns inRun cs) : isIdentifierChar c = true := by
  induction cs generalizing inRun with
  | nil => simp [replaceRuns] at h
  | cons d ds ih =>
    simp only [replaceRuns] at h
    split at h
    · rename_i hd
      rcases List.mem_cons.1 h with rfl | h
      · exact hd
      · exact ih h
    · split at h
      · exact ih h
      · rcases List.mem_cons.1 h with rfl | h
        · rfl
        · exact ih h

lemma isIdentifierChar_normalizeIdentifier (v : String) :
    (normalizeIdentifier v).toList.all isIdentifierChar = true := by
  refine List.all_eq_true.2 fun c h => ?_
  simp only [normalizeIdentifier, String.toList_ofList] at h
  have hmem : c ∈ replaceRuns false (trimSpace (toLower v.toList)) :=
    (List.dropWhile_sublist _).subset ((List.rdropWhile_prefix _ _).subset h)
  exact isIdentifierChar_replaceRuns hmem

lemma isTrimmed_normalizeIdentifier {v : String} (h : normalizeIdentifier v ≠ "") :
    IsTrimmed (normalizeIdentifier v) :=
  ⟨h, trimSpaceString_of_identifier (isIdentifierChar_normalizeIdentifier v)⟩

lemma isTrimmed_tenantID (input : RegisterInput) : IsTrimmed input.tenantID := by
  unfold RegisterInput.tenantID
  split
  · refine ⟨by simp, trimSpaceString_of_identifier ?_⟩
    have hsuffix : "_org".toList.all isIdentifierChar = true := by decide
    rw [String.toList_append, List.all_append, hsuffix, Bool.and_true]
    exact isIdentifierChar_normalizeIdentifier _
  · rename_i h
    exact isTrimmed_normalizeIdentifier h

/-! ### What a call leaves -/

namespace Tables

variable {collate : String → String} {b : Backend} {s s' : Tables} {u t x : String}

-- the proofs below do not depend on how ids and display texts are cleaned
attribute [local irreducible] normalizeIdentifier firstNonEmpty cleanDisplayText trimSpaceString

/-- Every stored user is active, memberships and shops belong to stored users, and the ids that
`Resolve` compares with are trimmed. -/
structure Consistent (collate : String → String) (s : Tables) : Prop where
  active : ∀ r ∈ s.users, collate r.status = collate "active"
  member : ∀ m ∈ s.userTenants, s.UserExists collate m.userId ∧ IsTrimmed m.tenantId
  shop : ∀ r ∈ s.userShops, s.UserExists collate r.userId ∧ IsTrimmed r.shopId

lemma consistent_empty : empty.Consistent collate where
  active := nofun
  member := nofun
  shop := nofun

/-- The tables `s'` have the users of `s`, perhaps with other defaults, and perhaps some more. -/
structure KeepsUsers (s s' : Tables) : Prop where
  kept : ∀ r ∈ s.users, ∃ r' ∈ s'.users, r'.id = r.id
  status : ∀ r' ∈ s'.users, r'.status = "active" ∨ ∃ r ∈ s.users, r.status = r'.status

lemma KeepsUsers.userExists (h : KeepsUsers s s') (hu : s.UserExists collate u) :
    s'.UserExists collate u := by
  obtain ⟨r, hr, hid⟩ := hu
  obtain ⟨r', hr', hid'⟩ := h.kept r hr
  exact ⟨r', hr', by rw [hid']; exact hid⟩

/-- A change of the columns of some users other than the key and the status. -/
lemma keepsUsers_map {f : UserRow → UserRow} (hid : ∀ r, (f r).id = r.id)
    (hstatus : ∀ r, (f r).status = r.status) (h : s'.users = s.users.map f) : KeepsUsers s s' where
  kept r hr := ⟨f r, by rw [h]; exact List.mem_map_of_mem hr, hid r⟩
  status r' hr' := by
    rw [h] at hr'
    obtain ⟨r, hr, rfl⟩ := List.mem_map.1 hr'
    exact .inr ⟨r, hr, (hstatus r).symm⟩

lemma KeepsUsers.of_eq (h : s'.users = s.users) : KeepsUsers s s' where
  kept r hr := ⟨r, h ▸ hr, rfl⟩
  status r' hr' := .inr ⟨r', h ▸ hr', rfl⟩

/-- The tables after a call that binds `u` to `t` and `x`. -/
structure Bound (collate : String → String) (s s' : Tables) (u t x : String) : Prop where
  users : KeepsUsers s s'
  user : s'.UserExists collate u
  tenant : IsTrimmed t
  shop : x ≠ "" → IsTrimmed x
  member : ∀ m ∈ s'.userTenants, m ∈ s.userTenants ∨ m = ⟨u, t, "admin"⟩
  keptMember : ∀ m ∈ s.userTenants, m ∈ s'.userTenants
  newMember : s'.IsMember collate u t
  userShop : ∀ r ∈ s'.userShops, r ∈ s.userShops ∨ x ≠ "" ∧ r = ⟨u, t, x⟩
  keptShop : ∀ r ∈ s.userShops, r ∈ s'.userShops
  newShop : x ≠ "" → s'.HasShop collate u t x

lemma Bound.isMember_iff (h : Bound collate s s' u t x) {u' t' : String} :
    s'.IsMember collate u' t' ↔
      s.IsMember collate u' t' ∨ collate u' = collate u ∧ collate t' = collate t := by
  constructor
  · rintro ⟨m, hm, hu, ht⟩
    rcases h.member m hm with hm | rfl
    · exact .inl ⟨m, hm, hu, ht⟩
    · exact .inr ⟨hu.symm, ht.symm⟩
  · rintro (⟨m, hm, hu, ht⟩ | ⟨hu, ht⟩)
    · exact ⟨m, h.keptMember m hm, hu, ht⟩
    · obtain ⟨m, hm, hmu, hmt⟩ := h.newMember
      exact ⟨m, hm, hmu.trans hu.symm, hmt.trans ht.symm⟩

lemma Bound.hasShop_iff (h : Bound collate s s' u t x) {u' t' x' : String} :
    s'.HasShop collate u' t' x' ↔ s.HasShop collate u' t' x' ∨
      x ≠ "" ∧ collate u' = collate u ∧ collate t' = collate t ∧ collate x' = collate x := by
  constructor
  · rintro ⟨r, hr, hu, ht, hx⟩
    rcases h.userShop r hr with hr | ⟨hne, rfl⟩
    · exact .inl ⟨r, hr, hu, ht, hx⟩
    · exact .inr ⟨hne, hu.symm, ht.symm, hx.symm⟩
  · rintro (⟨r, hr, hu, ht, hx⟩ | ⟨hne, hu, ht, hx⟩)
    · exact ⟨r, h.keptShop r hr, hu, ht, hx⟩
    · obtain ⟨r, hr, hru, hrt, hrx⟩ := h.newShop hne
      exact ⟨r, hr, hru.trans hu.symm, hrt.trans ht.symm, hrx.trans hx.symm⟩

lemma Bound.consistent (h : Bound collate s s' u t x) (hs : s.Consistent collate) :
    s'.Consistent collate where
  active r hr := by
    rcases h.users.status r hr with hactive | ⟨old, hold, hstatus⟩
    · rw [hactive]
    · rw [← hstatus]
      exact hs.active old hold
  member m hm := by
    rcases h.member m hm with hm | rfl
    · exact (hs.member m hm).imp_left h.users.userExists
    · exact ⟨h.user, h.tenant⟩
  shop r hr := by
    rcases h.userShop r hr with hr | ⟨hne, rfl⟩
    · exact (hs.shop r hr).imp_left h.users.userExists
    · exact ⟨h.user, h.shop hne⟩

/-- A registration binds the new user. -/
lemma bound_registered {input : RegisterInput} {passwordHash : String} :
    Bound collate s (s.registered collate input passwordHash) input.userID input.tenantID
      input.shopID where
  users := by
    refine ⟨fun r hr => ⟨r, List.mem_append_left _ hr, rfl⟩, fun r' hr' => ?_⟩
    rcases List.mem_append.1 hr' with hr' | hr'
    · exact .inr ⟨r', hr', rfl⟩
    · rw [List.mem_singleton.1 hr']
      exact .inl rfl
  user := ⟨input.userRow passwordHash, by simp [registered], rfl⟩
  tenant := isTrimmed_tenantID input
  shop := isTrimmed_normalizeIdentifier
  member m hm := by simpa [registered] using hm
  keptMember m hm := List.mem_append_left _ hm
  newMember := ⟨⟨input.userID, input.tenantID, "admin"⟩, by simp [registered], rfl, rfl⟩
  userShop r hr := by
    by_cases hshop : input.shopID = ""
    · exact .inl (by simpa [registered, hshop] using hr)
    · simpa [registered, hshop] using hr
  keptShop r hr := by
    by_cases hshop : input.shopID = "" <;> simp [registered, hshop, hr]
  newShop hshop := ⟨⟨input.userID, input.tenantID, input.shopID⟩,
    by simp [registered, hshop], rfl, rfl, rfl⟩

/-- What `loadUser` reports. -/
structure Loaded (collate : String → String) (s : Tables) (userID : String) (user : User) :
    Prop where
  id : collate user.id = collate userID
  row : s.UserExists collate userID
  tenant : ∀ t, t ∈ user.tenantIds ↔
    ∃ m ∈ s.userTenants, collate m.userId = collate userID ∧ m.tenantId = t
  shop : ∀ x, x ∈ user.shopIds ↔
    ∃ r ∈ s.userShops, collate r.userId = collate userID ∧ r.shopId = x

lemma loaded_of_loadUser {userID : String} {user : User}
    (h : s.loadUser collate b userID = .ok user) : Loaded collate s userID user := by
  unfold loadUser at h
  split at h
  · cases h
  · split at h
    · cases h
    · rename_i r hr
      cases h
      have hid : collate r.id = collate userID := by
        have := List.find?_some hr
        simp only [Bool.and_eq_true, beq_iff_eq] at this
        exact this.1
      refine ⟨hid, ⟨r, List.mem_of_find?_eq_some hr, hid⟩, fun t => ?_, fun x => ?_⟩
      · simp [mem_distinct, List.mem_filter, and_assoc]
      · simp [mem_distinct, List.mem_filter, and_assoc]

/-- Every stored user can be loaded. -/
lemma exists_loadUser (hs : s.Consistent collate) {userID : String}
    (hu : s.UserExists collate userID) :
    ∃ user, s.loadUser collate upBackend userID = .ok user := by
  obtain ⟨r, hr, hid⟩ := hu
  have hsome : (s.users.find? fun r =>
      collate r.id == collate userID && collate r.status == collate "active").isSome := by
    rw [List.find?_isSome]
    exact ⟨r, hr, by simp [hid, hs.active r hr]⟩
  obtain ⟨r', hr'⟩ := Option.isSome_iff_exists.1 hsome
  unfold loadUser
  dsimp only [upBackend]
  rw [hr']
  exact ⟨_, rfl⟩

/-- `AddShop` binds a member of the tenant. -/
lemma bound_addShopTx {user : User} (hs : s.Consistent collate)
    (hload : s.loadUser collate b u = .ok user) (hx : IsTrimmed x) (ht : t ∈ user.tenantIds)
    (htx : s.addShopTx collate b u t x = .ok s') : Bound collate s s' u t x := by
  have hloaded := loaded_of_loadUser hload
  obtain ⟨m, hm, hmu, rfl⟩ := (hloaded.tenant t).1 ht
  have hkeeps : KeepsUsers s s' := by
    refine keepsUsers_map (f := fun r => if collate r.id = collate u then
      { r with defaultShopId := some x, onboardingCompleted := true } else r) ?_ ?_
      (by rw [addShopTx_eq_ok htx])
    · intro r
      split <;> rfl
    · intro r
      split <;> rfl
  have hmembers : s'.userTenants = s.userTenants := by rw [addShopTx_eq_ok htx]; rfl
  have hshops : s'.userShops =
      Table.insertIgnore (userShopKey collate) ⟨u, m.tenantId, x⟩ s.userShops := by
    rw [addShopTx_eq_ok htx]
  refine ⟨hkeeps, hkeeps.userExists hloaded.row, (hs.member m hm).2, fun _ => hx,
    fun m' hm' => .inl (hmembers ▸ hm'), fun m' hm' => hmembers.symm ▸ hm',
    ⟨m, hmembers.symm ▸ hm, hmu, rfl⟩, fun r hr => ?_, fun r hr => ?_, fun _ => ?_⟩
  · rw [hshops] at hr
    exact (Table.mem_insertIgnore _ hr).imp_right fun h => ⟨hx.1, h⟩
  · rw [hshops]
    exact Table.subset_insertIgnore _ hr
  · obtain ⟨r, hr, hkey⟩ := Table.hasKey_insertIgnore (userShopKey collate) ⟨u, m.tenantId, x⟩
      s.userShops
    simp only [userShopKey, Prod.mk.injEq] at hkey
    exact ⟨r, by rw [hshops]; exact hr, hkey⟩

/-- The transaction of `ensureUserBindings` keeps the users and may add a membership and a shop. -/
lemma ensureUserBindingsTx_eq_ok {tenantName shopName : String}
    (htx : s.ensureUserBindingsTx collate b u t tenantName x shopName = .ok s') :
    KeepsUsers s s' ∧
      s'.userTenants = s.insertIgnoreFor collate (userTenantKey collate) u ⟨u, t, "admin"⟩
        s.userTenants ∧
      s'.userShops = if x = "" then s.userShops
        else s.insertIgnoreFor collate (userShopKey collate) u ⟨u, t, x⟩ s.userShops := by
  simp only [ensureUserBindingsTx, bind_eq_ok, exec_eq_ok, Option.some_inj] at htx
  obtain ⟨_, ⟨-, rfl⟩, _, ⟨-, rfl⟩, _, ⟨-, rfl⟩, _, hshop, -, rfl⟩ := htx
  unfold bindShop at hshop
  by_cases hx : x = ""
  · rw [if_pos hx] at hshop
    cases hshop
    exact ⟨.of_eq rfl, rfl, (if_pos hx).symm⟩
  · simp only [if_neg hx, bind_eq_ok, exec_eq_ok, Option.some_inj] at hshop
    obtain ⟨_, ⟨-, rfl⟩, _, ⟨-, rfl⟩, -, rfl⟩ := hshop
    refine ⟨keepsUsers_map (fun r => ?_) (fun r => ?_) rfl, rfl, (if_neg hx).symm⟩
    · split <;> rfl
    · split <;> rfl

lemma insertIgnoreFor_of_userExists {ρ κ : Type} [DecidableEq κ] {key : ρ → κ} {row : ρ}
    {table : List ρ} (hu : s.UserExists collate u) :
    s.insertIgnoreFor collate key u row table = Table.insertIgnore key row table := by
  obtain ⟨r, hr, hid⟩ := hu
  have hany : s.users.any (fun r => collate r.id == collate u) = true :=
    List.any_eq_true.2 ⟨r, hr, by simpa using hid⟩
  rw [insertIgnoreFor, if_pos hany]

lemma insertIgnoreFor_of_not_userExists {ρ κ : Type} [DecidableEq κ] {key : ρ → κ} {row : ρ}
    {table : List ρ} (hu : ¬ s.UserExists collate u) :
    s.insertIgnoreFor collate key u row table = table := by
  have hany : ¬ s.users.any (fun r => collate r.id == collate u) = true := by
    intro h
    obtain ⟨r, hr, hid⟩ := List.any_eq_true.1 h
    exact hu ⟨r, hr, by simpa using hid⟩
  rw [insertIgnoreFor, if_neg hany]

/-- `ensureUserBindings` binds a stored user. -/
lemma bound_ensureUserBindingsTx {tenantName shopName : String} (hu : s.UserExists collate u)
    (ht : IsTrimmed t) (hx : x ≠ "" → IsTrimmed x)
    (htx : s.ensureUserBindingsTx collate b u t tenantName x shopName = .ok s') :
    Bound collate s s' u t x := by
  obtain ⟨hkeeps, hmembers, hshops⟩ := ensureUserBindingsTx_eq_ok htx
  rw [insertIgnoreFor_of_userExists hu] at hmembers hshops
  refine ⟨hkeeps, hkeeps.userExists hu, ht, hx, fun m hm => ?_, fun m hm => ?_, ?_, fun r hr => ?_,
    fun r hr => ?_, fun hne => ?_⟩
  · rw [hmembers] at hm
    exact Table.mem_insertIgnore _ hm
  · rw [hmembers]
    exact Table.subset_insertIgnore _ hm
  · obtain ⟨m, hm, hkey⟩ := Table.hasKey_insertIgnore (userTenantKey collate) ⟨u, t, "admin"⟩
      s.userTenants
    simp only [userTenantKey, Prod.mk.injEq] at hkey
    exact ⟨m, by rw [hmembers]; exact hm, hkey.1, hkey.2.1⟩
  · rw [hshops] at hr
    split at hr
    · exact .inl hr
    · rename_i hne
      exact (Table.mem_insertIgnore _ hr).imp_right fun h => ⟨hne, h⟩
  · rw [hshops]
    split
    · exact hr
    · exact Table.subset_insertIgnore _ hr
  · rw [if_neg hne] at hshops
    obtain ⟨r, hr, hkey⟩ := Table.hasKey_insertIgnore (userShopKey collate) ⟨u, t, x⟩
      s.userShops
    simp only [userShopKey, Prod.mk.injEq] at hkey
    exact ⟨r, by rw [hshops]; exact hr, hkey⟩

/-- A call that binds nobody keeps the bindings. -/
structure Unbound (s s' : Tables) : Prop where
  users : KeepsUsers s s'
  member : s'.userTenants = s.userTenants
  shop : s'.userShops = s.userShops

lemma Unbound.refl (s : Tables) : Unbound s s := ⟨.of_eq rfl, rfl, rfl⟩

lemma Unbound.consistent (h : Unbound s s') (hs : s.Consistent collate) :
    s'.Consistent collate where
  active r hr := by
    rcases h.users.status r hr with hactive | ⟨old, hold, hstatus⟩
    · rw [hactive]
    · rw [← hstatus]
      exact hs.active old hold
  member m hm := (hs.member m (h.member ▸ hm)).imp_left h.users.userExists
  shop r hr := (hs.shop r (h.shop ▸ hr)).imp_left h.users.userExists

/-- A call binds one user, or nobody. -/
lemma bindingStep_cases (hs : s.Consistent collate) (call : BindingCall) :
    (∃ u t x, (∀ u' t' x', call.Binds collate s u' t' x' ↔ u' = u ∧ t' = t ∧ x' = x) ∧
        Bound collate s (s.bindingStep collate call) u t x) ∨
      (∀ u t x, ¬ call.Binds collate s u t x) ∧ Unbound s (s.bindingStep collate call) := by
  cases call with
  | register b input =>
    rcases s.register_cases collate b input with ⟨hgo, passwordHash, -, h⟩ | ⟨hgo, h⟩
    · have hstep : s.bindingStep collate (.register b input) =
        s.registered collate input passwordHash := h
      refine .inl ⟨input.userID, input.tenantID, input.shopID, fun u t x => ⟨?_, ?_⟩, ?_⟩
      · rintro ⟨-⟩
        exact ⟨rfl, rfl, rfl⟩
      · rintro ⟨rfl, rfl, rfl⟩
        exact .register hgo
      · rw [hstep]
        exact bound_registered
    · have hstep : s.bindingStep collate (.register b input) = s := h
      refine .inr ⟨?_, by rw [hstep]; exact .refl s⟩
      rintro u t x ⟨hgo'⟩
      exact hgo hgo'
  | addShop b userID tenantID shopID =>
    -- a refused call leaves the tables alone
    have hrefused (hstep : s.bindingStep collate (.addShop b userID tenantID shopID) = s) :
        Unbound s (s.bindingStep collate (.addShop b userID tenantID shopID)) := by
      rw [hstep]
      exact .refl s
    by_cases hx : normalizeIdentifier shopID = ""
    · refine .inr ⟨fun u t x h => ?_, hrefused (by simp [bindingStep, addShop, hx])⟩
      cases h with
      | addShop _ hshop _ _ => exact hshop hx
    · cases hload : s.loadUser collate b userID with
      | error e =>
        refine .inr ⟨fun u t x h => ?_, hrefused (by simp [bindingStep, addShop, hx, hload])⟩
        cases h with
        | addShop hload' _ _ _ => cases hload.symm.trans hload'
      | ok user =>
        by_cases ht : addedTenant user tenantID ∈ user.tenantIds
        · cases htx : s.addShopTx collate b userID (addedTenant user tenantID)
              (normalizeIdentifier shopID) with
          | error e =>
            refine .inr ⟨fun u t x h => ?_,
              hrefused (by simp [bindingStep, addShop, hx, hload, ht, htx])⟩
            cases h with
            | addShop hload' _ _ htx' =>
              cases hload.symm.trans hload'
              cases htx.symm.trans htx'
          | ok s' =>
            refine .inl ⟨userID, addedTenant user tenantID, normalizeIdentifier shopID,
              fun u t x => ⟨?_, ?_⟩, ?_⟩
            · intro h
              cases h with
              | addShop hload' _ _ _ =>
                cases hload.symm.trans hload'
                exact ⟨rfl, rfl, rfl⟩
            · rintro ⟨rfl, rfl, rfl⟩
              exact .addShop hload hx ht htx
            · have hstep : s.bindingStep collate (.addShop b userID tenantID shopID) = s' := by
                simp [bindingStep, addShop, hx, hload, ht, htx]
              rw [hstep]
              exact bound_addShopTx hs hload (isTrimmed_normalizeIdentifier hx) ht htx
        · refine .inr ⟨fun u t x h => ?_,
            hrefused (by simp [bindingStep, addShop, hx, hload, ht])⟩
          cases h with
          | addShop hload' _ ht' _ =>
            cases hload.symm.trans hload'
            exact ht ht'
  | ensureUserBindings b userID tenantID tenantName shopID shopName =>
    by_cases ht : normalizeIdentifier tenantID = ""
    · refine .inr ⟨fun u t x h => ?_, ?_⟩
      · cases h with
        | ensureUserBindings _ htenant _ => exact htenant ht
      · have hstep : s.bindingStep collate
            (.ensureUserBindings b userID tenantID tenantName shopID shopName) = s := by
          simp [bindingStep, ensureUserBindings, ht]
        rw [hstep]
        exact .refl s
    · cases htx : s.ensureUserBindingsTx collate b userID (normalizeIdentifier tenantID) tenantName
          (normalizeIdentifier shopID) shopName with
      | error e =>
        refine .inr ⟨fun u t x h => ?_, ?_⟩
        · cases h with
          | ensureUserBindings _ _ htx' => cases htx.symm.trans htx'
        · have hstep : s.bindingStep collate
              (.ensureUserBindings b userID tenantID tenantName shopID shopName) = s := by
            simp [bindingStep, ensureUserBindings, ht, htx]
          rw [hstep]
          exact .refl s
      | ok s' =>
        have hstep : s.bindingStep collate
            (.ensureUserBindings b userID tenantID tenantName shopID shopName) = s' := by
          simp [bindingStep, ensureUserBindings, ht, htx]
        rw [hstep]
        by_cases hu : s.UserExists collate userID
        · refine .inl ⟨userID, normalizeIdentifier tenantID, normalizeIdentifier shopID,
            fun u t x => ⟨?_, ?_⟩, ?_⟩
          · intro h
            cases h with
            | ensureUserBindings _ _ _ => exact ⟨rfl, rfl, rfl⟩
          · rintro ⟨rfl, rfl, rfl⟩
            exact .ensureUserBindings hu ht htx
          · exact bound_ensureUserBindingsTx hu (isTrimmed_normalizeIdentifier ht)
              isTrimmed_normalizeIdentifier htx
        · refine .inr ⟨fun u t x h => ?_, ?_⟩
          · cases h with
            | ensureUserBindings hu' _ _ => exact hu hu'
          · -- the rows are ignored, since their user does not exist
            obtain ⟨hkeeps, hmembers, hshops⟩ := ensureUserBindingsTx_eq_ok htx
            rw [insertIgnoreFor_of_not_userExists hu] at hmembers hshops
            exact ⟨hkeeps, hmembers, hshops.trans (ite_self _)⟩

/-- A call keeps the tables consistent. -/
lemma Consistent.bindingStep (hs : s.Consistent collate) (call : BindingCall) :
    (s.bindingStep collate call).Consistent collate := by
  rcases bindingStep_cases hs call with ⟨u, t, x, -, hbound⟩ | ⟨-, hunbound⟩
  · exact hbound.consistent hs
  · exact hunbound.consistent hs

lemma Consistent.run (hs : s.Consistent collate) (calls : List BindingCall) :
    (run (Tables.bindingStep collate) s calls).Consistent collate := by
  induction calls generalizing s with
  | nil => exact hs
  | cons call calls ih => exact ih (hs.bindingStep call)

/-! ### What `Resolve` grants -/

lemma HasShop.congr {u' t' x' : String} (h : s.HasShop collate u t x)
    (hu : collate u' = collate u) (ht : collate t' = collate t) (hx : collate x' = collate x) :
    s.HasShop collate u' t' x' := by
  obtain ⟨r, hr, hru, hrt, hrx⟩ := h
  exact ⟨r, hr, hru.trans hu.symm, hrt.trans ht.symm, hrx.trans hx.symm⟩

lemma IsMember.congr {u' t' : String} (h : s.IsMember collate u t)
    (hu : collate u' = collate u) (ht : collate t' = collate t) : s.IsMember collate u' t' := by
  obtain ⟨m, hm, hmu, hmt⟩ := h
  exact ⟨m, hm, hmu.trans hu.symm, hmt.trans ht.symm⟩

/-- Every user of a tenant has a shop, and may use all his shops in the tenant. -/
def FullyBound (collate : String → String) (s : Tables) : Prop :=
  ∀ u t, s.IsMember collate u t → (∃ t' x, s.HasShop collate u t' x) ∧
    ∀ t' x, s.HasShop collate u t' x → s.HasShop collate u t x

/-- The ids that `Resolve` accepts. -/
lemma resolve_mem {user : User} {requestedTenantID requestedShopID : String}
    {context : TenantContext}
    (h : resolve user requestedTenantID requestedShopID = .ok context) :
    context.tenantId ∈ user.tenantIds ∧
      (context.shopId = "" ∨ user.shopIds = [] ∨ context.shopId ∈ user.shopIds) := by
  simp only [resolve] at h
  split at h
  · cases h
  · split at h
    · cases h
    · rename_i htenant
      split at h
      · cases h
      · rename_i hshop
        cases h
        exact ⟨not_not.1 htenant, by tauto⟩

/-- A tenant of the user is granted, with every shop of the user, and with every shop at all if he
has none. -/
lemma resolve_eq_ok {user : User} (ht : t ∈ user.tenantIds) (ht' : IsTrimmed t)
    (hx : user.shopIds = [] ∨ x ∈ user.shopIds) (hx' : IsTrimmed x) :
    resolve user t x = .ok ⟨t, user.id, x, user.roles, user.permissions⟩ := by
  have htenant : selectTenant user t = t := by
    simp [selectTenant, or_, ht'.1, ht'.2]
  have hshop : selectShop user x = x := by
    simp [selectShop, or_, hx'.1, hx'.2]
  have hallowed : ¬ (x ≠ "" ∧ user.shopIds ≠ [] ∧ x ∉ user.shopIds) := by tauto
  simp only [resolve, htenant, hshop, if_neg ht'.1, if_neg (not_not.2 ht), if_neg hallowed]

/-- `Resolve` grants only bound shops if and only if all bindings are full. -/
lemma grantsOnlyBound_iff_fullyBound (hs : s.Consistent collate) :
    s.GrantsOnlyBound collate ↔ s.FullyBound collate := by
  constructor
  · rintro h u t ⟨m, hm, hmu, hmt⟩
    obtain ⟨hexists, htrimmed⟩ := hs.member m hm
    have hu : s.UserExists collate u := by
      obtain ⟨r, hr, hid⟩ := hexists
      exact ⟨r, hr, hid.trans hmu⟩
    obtain ⟨user, hload⟩ := exists_loadUser hs hu
    have hloaded := loaded_of_loadUser hload
    have htenant : m.tenantId ∈ user.tenantIds := (hloaded.tenant _).2 ⟨m, hm, hmu, rfl⟩
    constructor
    · -- a user without shops is granted the shop that he asks for
      by_contra hno
      have hnil : user.shopIds = [] := by
        refine List.eq_nil_iff_forall_not_mem.2 fun x hx => ?_
        obtain ⟨r, hr, hru, rfl⟩ := (hloaded.shop x).1 hx
        exact hno ⟨r.tenantId, r.shopId, r, hr, hru, rfl, rfl⟩
      have hx : IsTrimmed "x" := ⟨by decide, trimSpaceString_of_identifier (by decide)⟩
      have hgrant := (h _ _ _ hload _ _ _
        (resolve_eq_ok htenant htrimmed (.inl hnil) hx)).2 hx.1
      exact hno ⟨_, _, hgrant.congr hloaded.id.symm rfl rfl⟩
    · rintro t' x ⟨r, hr, hru, -, hrx⟩
      have hshop : r.shopId ∈ user.shopIds := (hloaded.shop _).2 ⟨r, hr, hru, rfl⟩
      have hrtrimmed := (hs.shop r hr).2
      have hgrant := (h _ _ _ hload _ _ _
        (resolve_eq_ok htenant htrimmed (.inr hshop) hrtrimmed)).2 hrtrimmed.1
      exact hgrant.congr hloaded.id.symm hmt.symm hrx.symm
  · intro h b userID user hload rt rx context hresolve
    have hloaded := loaded_of_loadUser hload
    obtain ⟨htenant, hshop⟩ := resolve_mem hresolve
    obtain ⟨m, hm, hmu, hmt⟩ := (hloaded.tenant _).1 htenant
    have hmember : s.IsMember collate user.id context.tenantId :=
      ⟨m, hm, hmu.trans hloaded.id.symm, by rw [hmt]⟩
    refine ⟨hmember, fun hne => ?_⟩
    obtain ⟨⟨t', x', r', hr', hru', -⟩, hfull⟩ := h _ _ hmember
    have hmem : context.shopId ∈ user.shopIds := by
      rcases hshop with hempty | hnil | hmem
      · exact absurd hempty hne
      · have := (hloaded.shop r'.shopId).2 ⟨r', hr', hru'.trans hloaded.id, rfl⟩
        rw [hnil] at this
        cases this
      · exact hmem
    obtain ⟨r, hr, hru, hrx⟩ := (hloaded.shop _).1 hmem
    exact hfull r.tenantId _ ⟨r, hr, hru.trans hloaded.id.symm, rfl, by rw [hrx]⟩

/-- A call that binds a user keeps all bindings full if and only if it meets the condition. -/
lemma Bound.fullyBound_iff (h : Bound collate s s' u t x) (hs : s.FullyBound collate) :
    s'.FullyBound collate ↔ KeepsBound collate s u t x := by
  have hnew : s'.IsMember collate u t := h.newMember
  by_cases hx : x = ""
  · have hsame : ∀ {u' t' x'}, s'.HasShop collate u' t' x' ↔ s.HasShop collate u' t' x' := by
      intro u' t' x'
      rw [h.hasShop_iff]
      simp [hx]
    simp only [KeepsBound, if_pos hx]
    constructor
    · intro h'
      simpa only [hsame] using h' u t hnew
    · rintro hkeeps u' t' hmember
      simp only [hsame]
      rcases h.isMember_iff.1 hmember with hold | ⟨hu, ht⟩
      · exact hs u' t' hold
      · obtain ⟨⟨t₀, x₀, hshop⟩, hall⟩ := hkeeps
        refine ⟨⟨t₀, x₀, hshop.congr hu rfl rfl⟩, fun t₁ x₁ hshop₁ => ?_⟩
        exact (hall t₁ x₁ (hshop₁.congr hu.symm rfl rfl)).congr hu ht rfl
  · simp only [KeepsBound, if_neg hx]
    constructor
    · intro h'
      refine ⟨fun t' x' hshop => ?_, fun t' hmember => ?_⟩
      · have hshop' := (h' u t hnew).2 t' x' (h.hasShop_iff.2 (.inl hshop))
        rcases h.hasShop_iff.1 hshop' with hold | ⟨-, -, -, hxx⟩
        · exact .inr hold
        · exact .inl hxx
      · have hshop' := (h' u t' (h.isMember_iff.2 (.inl hmember))).2 t x (h.newShop hx)
        rcases h.hasShop_iff.1 hshop' with hold | ⟨-, -, htt, -⟩
        · exact .inr hold
        · exact .inl htt
    · rintro ⟨hshops, hmembers⟩ u' t' hmember
      rcases h.isMember_iff.1 hmember with hold | ⟨hu, ht⟩
      · obtain ⟨⟨t₀, x₀, hshop⟩, hall⟩ := hs u' t' hold
        refine ⟨⟨t₀, x₀, h.hasShop_iff.2 (.inl hshop)⟩, fun t₁ x₁ hshop₁ => ?_⟩
        rcases h.hasShop_iff.1 hshop₁ with hshop₁ | ⟨-, hu₁, -, hx₁⟩
        · exact h.hasShop_iff.2 (.inl (hall t₁ x₁ hshop₁))
        · -- the new shop in an old tenant of the user
          rcases hmembers t' (hold.congr hu₁.symm rfl) with htt | hshop'
          · exact h.hasShop_iff.2 (.inr ⟨hx, hu₁, htt, hx₁⟩)
          · exact h.hasShop_iff.2 (.inl (hshop'.congr hu₁ rfl hx₁))
      · refine ⟨⟨t, x, (h.newShop hx).congr hu rfl rfl⟩, fun t₁ x₁ hshop₁ => ?_⟩
        rcases h.hasShop_iff.1 hshop₁ with hshop₁ | ⟨-, hu₁, -, hx₁⟩
        · -- an old shop in the new tenant of the user
          rcases hshops t₁ x₁ (hshop₁.congr hu.symm rfl rfl) with hxx | hshop'
          · exact h.hasShop_iff.2 (.inr ⟨hx, hu, ht, hxx⟩)
          · exact h.hasShop_iff.2 (.inl (hshop'.congr hu ht rfl))
        · exact h.hasShop_iff.2 (.inr ⟨hx, hu, ht, hx₁⟩)

lemma Unbound.fullyBound (h : Unbound s s') (hs : s.FullyBound collate) :
    s'.FullyBound collate := by
  unfold FullyBound IsMember HasShop
  rw [h.member, h.shop]
  exact hs

/-- A call keeps all bindings full if and only if it meets the condition. -/
lemma fullyBound_bindingStep_iff (hs : s.Consistent collate) (hfull : s.FullyBound collate)
    (call : BindingCall) :
    (s.bindingStep collate call).FullyBound collate ↔ BindsEverywhere collate s call := by
  rcases bindingStep_cases hs call with ⟨u, t, x, hbinds, hbound⟩ | ⟨hno, hunbound⟩
  · rw [hbound.fullyBound_iff hfull]
    constructor
    · intro hkeeps u' t' x' hbinds'
      obtain ⟨rfl, rfl, rfl⟩ := (hbinds u' t' x').1 hbinds'
      exact hkeeps
    · exact fun h => h u t x ((hbinds u t x).2 ⟨rfl, rfl, rfl⟩)
  · exact ⟨fun _ u t x hbinds => absurd hbinds (hno u t x), fun _ => hunbound.fullyBound hfull⟩

end Tables

/-- In every state that a run reaches `Resolve` grants only bound shops if and only if every call of
the run that binds a user leaves no shop of the user unbound in a tenant of the user. -/
theorem grantsOnlyBound_iff (collate : String → String) (calls : List BindingCall) :
    (∀ bs, bs <+: calls →
        (run (Tables.bindingStep collate) .empty bs).GrantsOnlyBound collate) ↔
      Along (Tables.bindingStep collate) (BindsEverywhere collate) .empty calls := by
  refine always_iff_along (J := Tables.Consistent collate) (fun _ call hs => hs.bindingStep call)
    (fun s call hs hgrants => ?_) Tables.consistent_empty ?_ calls
  · rw [Tables.grantsOnlyBound_iff_fullyBound (hs.bindingStep call)]
    exact Tables.fullyBound_bindingStep_iff hs
      ((Tables.grantsOnlyBound_iff_fullyBound hs).1 hgrants) call
  · refine (Tables.grantsOnlyBound_iff_fullyBound Tables.consistent_empty).2 ?_
    rintro u t ⟨m, hm, -⟩
    cases hm

/-- Dana registers with `shop_a` in `acme` and is then bound to `shop_b` in `globex`. -/
def twoTenants : List BindingCall :=
  [.register upBackend { registration "dana" "acme" with shopId := "shop_a" },
    .ensureUserBindings upBackend "dana" "globex" "" "shop_b" ""]

/-- Dana is granted `shop_a` in `globex`, where she has no such shop. -/
theorem foreign_shop_granted :
    ¬ (run (Tables.bindingStep id) .empty twoTenants).GrantsOnlyBound id := by
  rw [Tables.grantsOnlyBound_iff_fullyBound (Tables.consistent_empty.run twoTenants)]
  intro hfull
  have hmember : (run (Tables.bindingStep id) .empty twoTenants).IsMember id "dana" "globex" := by
    unfold Tables.IsMember
    decide +kernel
  have hshop : (run (Tables.bindingStep id) .empty twoTenants).HasShop id "dana" "acme"
      "shop_a" := by
    unfold Tables.HasShop
    decide +kernel
  have hforeign := (hfull _ _ hmember).2 _ _ hshop
  unfold Tables.HasShop at hforeign
  revert hforeign
  decide +kernel

end EcommerceAgent.Gateway
