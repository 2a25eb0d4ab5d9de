/-
# Logging in

`Authenticate` looks one text up in three columns of `gateway_users`: the id, the e-mail address and
the phone number.  Each column is unique for itself, but nothing keeps the e-mail address of one
user apart from the phone number of another, and the query takes whichever of the matching rows the
server returns first.  A registered user can log in for as long as no other row matches his account
(`loginStable_iff`).
-/
import EcommerceAgent.Gateway.Authorization

open EcommerceAgent.Lib

namespace EcommerceAgent.Gateway

/-! ### The query of `Authenticate` -/

/-- Which row the server returns first for a query without an order. -/
structure RowChoice where
  pick : List UserRow → Option UserRow
  mem : ∀ rows r, pick rows = some r → r ∈ rows
  isSome : ∀ rows, rows ≠ [] → (pick rows).isSome

/-- The rows come in the order in which they were inserted. -/
def RowChoice.inserted : RowChoice where
  pick := List.head?
  mem _ _ h := List.mem_of_mem_head? h
  isSome rows h := by simpa [List.isSome_head?] using h

/-- The rows come in the order of their ids. -/
def RowChoice.byId (collate : String → String) : RowChoice where
  pick := List.foldr (fun r best => match best with
    | none => some r
    | some r' => if collate r'.id < collate r.id then some r' else some r) none
  mem rows r h := by
    induction rows generalizing r with
    | nil => cases h
    | cons r₁ rows ih =>
      rw [List.foldr_cons] at h
      split at h
      · exact List.mem_cons.2 (.inl (Option.some.inj h).symm)
      · rename_i r' hr'
        split at h
        · exact List.mem_cons.2 (.inr (Option.some.inj h ▸ ih r' hr'))
        · exact List.mem_cons.2 (.inl (Option.some.inj h).symm)
  isSome rows h := by
    cases rows with
    | nil => exact absurd rfl h
    | cons r rows =>
      rw [List.foldr_cons]
      split
      · rfl
      · split <;> rfl

/-- The server returns the row `r` first whenever it is among the rows. -/
def RowChoice.first (r : UserRow) : RowChoice where
  pick rows := if r ∈ rows then some r else rows.head?
  mem rows r' h := by
    split at h
    · rename_i hmem
      exact Option.some.inj h ▸ hmem
    · exact List.mem_of_mem_head? h
  isSome rows h := by
    split
    · rfl
    · simpa [List.isSome_head?] using h

/-- `id = ? OR email = ? OR phone = ?`. -/
def UserRow.Matches (collate : String → String) (r : UserRow) (account : String) : Bool :=
  collate r.id == collate (normalizeIdentifier account) ||
    Tables.sameUnique collate r.email (some account) ||
    Tables.sameUnique collate r.phone (some account)

namespace Tables

variable (collate : String → String) (b : AuthBackend)

/-- `MySQLUserStore.Authenticate`, when the server returns the rows in a given order. -/
def authenticateBy (choice : RowChoice) (username password : String) (s : Tables) :
    Except String User :=
  let account := trimSpaceString username
  let userID := normalizeIdentifier account
  if (userID = "" ∧ account = "") ∨ b.authenticateFault then .error "invalid credentials"
  else
    match choice.pick (s.users.filter fun r =>
      r.Matches collate account && collate r.status == collate "active") with
    | none => .error "invalid credentials"
    | some r =>
      if b.comparePassword r.passwordHash password then s.loadUser collate b.toBackend r.id
      else .error "invalid credentials"

/-- `MySQLUserStore.UpdatePassword`; its query for the hash fails when that of `Authenticate`
does. -/
def updatePassword (userID currentPassword newPassword : String) (s : Tables) :
    Except String Unit × Tables :=
  if trimSpaceString newPassword = "" then (.error "password required", s)
  else if b.authenticateFault then (.error "invalid credentials", s)
  else
    match s.users.find? fun r =>
      collate r.id == collate userID && collate r.status == collate "active" with
    | none => (.error "invalid credentials", s)
    | some r =>
      if !b.comparePassword r.passwordHash currentPassword then (.error "invalid credentials", s)
      else
        match b.hashPassword newPassword with
        | .error e => (.error e, s)
        | .ok nextHash =>
          match s.exec b.toBackend .updateUser fun s => some { s with
            users := s.users.map fun r =>
              if collate r.id = collate userID then { r with passwordHash := nextHash } else r }
          with
          | .error e => (.error e, s)
          | .ok s' => (.ok (), s')

end Tables

/-- A call of one of the methods that write the users' rows. -/
inductive AccountCall
  | store (call : Call)
  | updatePassword (b : AuthBackend) (userID currentPassword newPassword : String)

/-- What a call leaves in the tables. -/
def Tables.accountStep (collate : String → String) (s : Tables) : AccountCall → Tables
  | .store call => s.step collate call
  | .updatePassword b userID currentPassword newPassword =>
    (s.updatePassword collate b userID currentPassword newPassword).2

/-- The call is not made by the user `u`; a registration is made by a user who does not exist
yet. -/
def AccountCall.ByOther (collate : String → String) (u : String) : AccountCall → Prop
  | .store (.register _ _) => True
  | .store (.addShop _ userID _ _) => collate userID ≠ collate u
  | .store (.updateProfile _ userID _) => collate userID ≠ collate u
  | .updatePassword _ userID _ _ => collate userID ≠ collate u

/-! ### What a stable login is -/

/-- Nothing fails, and passwords are compared by `compare`. -/
structure AuthBackend.Up (compare : String → String → Bool) (b : AuthBackend) : Prop where
  query : b.authenticateFault = false
  load : b.fault .loadUser = none
  compare : b.comparePassword = compare

/-- The user `u` gets in with his account and password, and nobody gets in as `u` with an account
and a password of another user, in whatever order the server returns the rows. -/
structure LoginStable (collate : String → String) (compare : String → String → Bool)
    (u account password : String) (s : Tables) : Prop where
  own : ∀ choice b, b.Up compare →
    ∃ user, s.authenticateBy collate b choice account password = .ok user ∧ user.id = u
  other : ∀ r ∈ s.users, collate r.id ≠ collate u → ∀ account' password',
    r.Matches collate (trimSpaceString account') = true →
      compare r.passwordHash password' = true → ∀ choice b, b.Up compare → ∀ user,
        s.authenticateBy collate b choice account' password' = .ok user → user.id ≠ u

/-- The login is stable in all states of a run. -/
def LoginsStable (collate : String → String) (compare : String → String → Bool)
    (u account password : String) (s : Tables) (calls : List AccountCall) : Prop :=
  ∀ done, done <+: calls →
    LoginStable collate compare u account password (run (Tables.accountStep collate) s done)

/-- The row of another user does not get in the way of the row `own`: it does not match the account,
and no password fits both rows if they have an account in common. -/
structure RowApart (collate : String → String) (compare : String → String → Bool) (own : UserRow)
    (account : String) (r : UserRow) : Prop where
  account : collate r.id ≠ collate own.id → collate r.status = collate "active" →
    r.Matches collate (trimSpaceString account) = false
  password : collate r.id ≠ collate own.id → ∀ account', trimSpaceString account' ≠ "" →
    r.Matches collate (trimSpaceString account') = true →
    own.Matches collate (trimSpaceString account') = true → ∀ password',
      compare r.passwordHash password' = true → compare own.passwordHash password' = false

/-- The row that `UpdateProfile` makes of a row. -/
def ProfileInput.applied (collate : String → String) (input : ProfileInput) (r : UserRow) :
    UserRow :=
  { r with
    name := (Tables.coalesce collate (cleanDisplayText input.name) (some r.name)).getD r.name
    email := Tables.coalesce collate input.email r.email
    phone := Tables.coalesce collate input.phone r.phone
    companyName := Tables.coalesce collate (cleanDisplayText input.companyName) r.companyName }

/-- The update of the profile goes through: the server does not fail, and no changed row collides
with the row of another user. -/
def ProfileInput.GoesThrough (collate : String → String) (b : Backend) (userID : String)
    (input : ProfileInput) (s : Tables) : Prop :=
  b.fault .updateUser = none ∧ ∀ r ∈ s.users, collate r.id = collate userID →
    ∀ r' ∈ s.users, collate r'.id ≠ collate userID →
      Tables.usersCollide collate (input.applied collate r) r' = false

/-- The change of the password goes through and stores the hash. -/
structure PasswordChanged (collate : String → String) (b : AuthBackend)
    (userID currentPassword newPassword nextHash : String) (s : Tables) : Prop where
  password : trimSpaceString newPassword ≠ ""
  query : b.authenticateFault = false
  current : ∃ r, (s.users.find? fun r =>
    collate r.id == collate userID && collate r.status == collate "active") = some r ∧
      b.comparePassword r.passwordHash currentPassword = true
  hashed : b.hashPassword newPassword = .ok nextHash
  update : b.fault .updateUser = none

/-- The rows that a call writes are apart from the row `own`. -/
def WritesApart (collate : String → String) (compare : String → String → Bool) (own : UserRow)
    (account : String) (s : Tables) : AccountCall → Prop
  | .store (.register b input) => input.GoesThrough collate b s → ∀ passwordHash,
      b.hashPassword input.password = .ok passwordHash →
        RowApart collate compare own account (input.userRow passwordHash)
  | .store (.addShop _ _ _ _) => True
  | .store (.updateProfile b userID input) => input.GoesThrough collate b userID s →
      ∀ r ∈ s.users, collate r.id = collate userID →
        RowApart collate compare own account (input.applied collate r)
  | .updatePassword b userID currentPassword newPassword => ∀ nextHash,
      PasswordChanged collate b userID currentPassword newPassword nextHash s →
        ∀ r ∈ s.users, collate r.id = collate userID →
          RowApart collate compare own account { r with passwordHash := nextHash }

namespace Tables

variable {collate : String → String} {compare : String → String → Bool} {b : AuthBackend}
  {choice : RowChoice} {s : Tables} {own r : UserRow} {account password : String} {user : User}

attribute [local irreducible] normalizeIdentifier firstNonEmpty cleanDisplayText trimSpaceString

/-! ### Logging in at one moment -/

/-- A login loads the user of a matching row with the given password. -/
lemma authenticateBy_eq_ok (hok : s.authenticateBy collate b choice account password = .ok user) :
    trimSpaceString account ≠ "" ∧ ∃ r ∈ s.users,
      r.Matches collate (trimSpaceString account) = true ∧ collate r.status = collate "active" ∧
        b.comparePassword r.passwordHash password = true ∧
        s.loadUser collate b.toBackend r.id = .ok user := by
  have hnorm : normalizeIdentifier "" = "" := by decide +kernel
  simp only [authenticateBy] at hok
  split at hok
  · cases hok
  · rename_i hguard
    have haccount : trimSpaceString account ≠ "" := by
      intro hempty
      exact hguard (.inl ⟨by rw [hempty, hnorm], hempty⟩)
    split at hok
    · cases hok
    · rename_i r hpick
      have hmem := choice.mem _ _ hpick
      simp only [List.mem_filter, Bool.and_eq_true, beq_iff_eq] at hmem
      split at hok
      · rename_i hcompare
        exact ⟨haccount, r, hmem.1, hmem.2.1, hmem.2.2, hcompare, hok⟩
      · cases hok

/-- When all matching rows have the given password, the user of one of them is loaded. -/
lemma authenticateBy_of_match (choice : RowChoice) (password : String)
    (hquery : b.authenticateFault = false) (haccount : trimSpaceString account ≠ "")
    (hmem : r ∈ s.users) (hmatch : r.Matches collate (trimSpaceString account) = true)
    (hactive : collate r.status = collate "active") :
    ∃ r' ∈ s.users, r'.Matches collate (trimSpaceString account) = true ∧
      collate r'.status = collate "active" ∧
      s.authenticateBy collate b choice account password =
        if b.comparePassword r'.passwordHash password then s.loadUser collate b.toBackend r'.id
        else .error "invalid credentials" := by
  have hne : (s.users.filter fun r => r.Matches collate (trimSpaceString account) &&
      collate r.status == collate "active") ≠ [] := by
    refine List.ne_nil_of_mem (a := r) ?_
    simp [hmem, hmatch, hactive]
  obtain ⟨r', hpick⟩ := Option.isSome_iff_exists.1 (choice.isSome _ hne)
  have hmem' := choice.mem _ _ hpick
  simp only [List.mem_filter, Bool.and_eq_true, beq_iff_eq] at hmem'
  refine ⟨r', hmem'.1, hmem'.2.1, hmem'.2.2, ?_⟩
  simp only [authenticateBy, haccount, hquery, and_false, Bool.false_eq_true, or_self, if_false,
    hpick]

/-- A server that returns the row `r` first hands it to the login. -/
lemma authenticateBy_first (hquery : b.authenticateFault = false)
    (haccount : trimSpaceString account ≠ "") (hmem : r ∈ s.users)
    (hmatch : r.Matches collate (trimSpaceString account) = true)
    (hactive : collate r.status = collate "active") :
    s.authenticateBy collate b (.first r) account password =
      if b.comparePassword r.passwordHash password then s.loadUser collate b.toBackend r.id
      else .error "invalid credentials" := by
  have hin : r ∈ s.users.filter fun r => r.Matches collate (trimSpaceString account) &&
      collate r.status == collate "active" := by
    simp [hmem, hmatch, hactive]
  have hpick : (RowChoice.first r).pick (s.users.filter fun r =>
      r.Matches collate (trimSpaceString account) && collate r.status == collate "active") =
        some r := if_pos hin
  simp only [authenticateBy, haccount, hquery, and_false, Bool.false_eq_true, or_self, if_false,
    hpick]

/-- The row is stored, and no other row has its id. -/
structure Owns (collate : String → String) (own : UserRow) (s : Tables) : Prop where
  mem : own ∈ s.users
  unique : ∀ r ∈ s.users, collate r.id = collate own.id → r = own

/-- The user of a stored active row can be loaded, and he has the row's id. -/
lemma Owns.loadUser (hs : Owns collate own s) (hactive : collate own.status = collate "active")
    {b : Backend} (hload : b.fault .loadUser = none) :
    ∃ user, s.loadUser collate b own.id = .ok user ∧ user.id = own.id := by
  have hfind : s.users.find? (fun r =>
      collate r.id == collate own.id && collate r.status == collate "active") = some own := by
    cases hr : s.users.find? (fun r =>
        collate r.id == collate own.id && collate r.status == collate "active") with
    | none => simpa [hactive] using List.find?_eq_none.1 hr own hs.mem
    | some r =>
      have hid := List.find?_some hr
      simp only [Bool.and_eq_true, beq_iff_eq] at hid
      rw [hs.unique r (List.mem_of_find?_eq_some hr) hid.1]
  unfold Tables.loadUser
  rw [hload, hfind]
  exact ⟨_, rfl, rfl⟩

/-- Logins are stable exactly when every stored row is apart from the own one. -/
lemma loginStable_iff_apart (hs : Owns collate own s)
    (hactive : collate own.status = collate "active") (haccount : trimSpaceString account ≠ "")
    (hmatch : own.Matches collate (trimSpaceString account) = true)
    (hcompare : compare own.passwordHash password = true) :
    LoginStable collate compare own.id account password s ↔
      ∀ r ∈ s.users, RowApart collate compare own account r := by
  constructor
  · intro hstable r hr
    have hup : AuthBackend.Up compare ⟨⟨fun p => .ok p, fun _ => none, []⟩, compare, false⟩ :=
      ⟨rfl, rfl, rfl⟩
    constructor
    · -- otherwise the server may return `r`, which is the row of another user
      intro hid hr_active
      by_contra hr_match
      rw [Bool.not_eq_false] at hr_match
      obtain ⟨user, hok, huser⟩ := hstable.own (.first r) _ hup
      rw [authenticateBy_first rfl haccount hr hr_match hr_active] at hok
      split at hok
      · have hloaded := loaded_of_loadUser hok
        exact hid (by rw [← huser, hloaded.id])
      · cases hok
    · -- otherwise the server may return the own row for the other account
      intro hid account' haccount' hr_match hown_match password' hr_compare
      by_contra hown_compare
      rw [Bool.not_eq_false] at hown_compare
      obtain ⟨user, hok, huser⟩ := hs.loadUser hactive (b := ⟨fun p => .ok p, fun _ => none, []⟩)
        rfl
      refine hstable.other r hr hid account' password' hr_match hr_compare (.first own) _ hup user
        ?_ huser
      rw [authenticateBy_first rfl haccount' hs.mem hown_match hactive, if_pos hown_compare, hok]
  · intro hapart
    constructor
    · intro choice b hb
      obtain ⟨r, hr, hr_match, hr_active, hok⟩ := authenticateBy_of_match choice password
        hb.query haccount hs.mem hmatch hactive
      have hid : collate r.id = collate own.id := by
        by_contra hid
        rw [(hapart r hr).account hid hr_active] at hr_match
        cases hr_match
      obtain rfl := hs.unique r hr hid
      rw [hok, hb.compare, if_pos hcompare]
      exact hs.loadUser hactive hb.load
    · intro r hr hid account' password' hr_match hr_compare choice b hb user hok huser
      obtain ⟨haccount', r', hr', hr'_match, -, hr'_compare, hload⟩ := authenticateBy_eq_ok hok
      have hid' : collate r'.id = collate own.id := by
        rw [← huser, (loaded_of_loadUser hload).id]
      obtain rfl := hs.unique r' hr' hid'
      rw [hb.compare] at hr'_compare
      rw [(hapart r hr).password hid account' haccount' hr_match hr'_match password' hr_compare]
        at hr'_compare
      cases hr'_compare

/-! ### What a call writes -/

/-- Only the id, the status, the two accounts and the hash of a row matter. -/
lemma rowApart_congr {r' : UserRow} (hid : r'.id = r.id) (hemail : r'.email = r.email)
    (hphone : r'.phone = r.phone) (hhash : r'.passwordHash = r.passwordHash)
    (hstatus : r'.status = r.status) (hr : RowApart collate compare own account r) :
    RowApart collate compare own account r' := by
  have hmatches : r'.Matches collate = r.Matches collate := by
    funext account
    simp only [UserRow.Matches, hid, hemail, hphone]
  exact ⟨by rw [hid, hstatus, hmatches]; exact hr.account,
    by rw [hid, hmatches, hhash]; exact hr.password⟩

/-- Rewriting the rows of one user keeps all rows apart exactly when the new rows are. -/
lemma forall_map_iff {P : UserRow → Prop} {users : List UserRow} (f : UserRow → UserRow)
    (userID : String) (hall : ∀ r ∈ users, P r) :
    (∀ r ∈ users.map (fun r => if collate r.id = collate userID then f r else r), P r) ↔
      ∀ r ∈ users, collate r.id = collate userID → P (f r) := by
  simp only [List.forall_mem_map]
  refine forall₂_congr fun r hr => ?_
  split
  · rename_i hid
    exact ⟨fun h _ => h, fun h => h hid⟩
  · rename_i hid
    exact ⟨fun _ hid' => absurd hid' hid, fun _ => hall r hr⟩

/-- `UpdateProfile` rewrites the rows of the user or leaves the tables alone. -/
lemma users_updateProfile (collate : String → String) (b : Backend) (userID : String)
    (input : ProfileInput) (s : Tables) :
    (input.GoesThrough collate b userID s ∧ (s.updateProfile collate b userID input).2.users =
        s.users.map fun r => if collate r.id = collate userID then input.applied collate r else r) ∨
      (¬ input.GoesThrough collate b userID s ∧
        (s.updateProfile collate b userID input).2 = s) := by
  simp only [updateProfile]
  split
  · rename_i e hex
    refine .inr ⟨?_, rfl⟩
    rintro ⟨hfault, hnone⟩
    simp only [exec, hfault] at hex
    split at hex
    · cases hex
    · rename_i hcollide
      split at hcollide
      · rename_i hany
        obtain ⟨r, hr, hany⟩ := List.any_eq_true.1 hany
        simp only [Bool.and_eq_true, beq_iff_eq, List.any_eq_true, bne_iff_ne] at hany
        obtain ⟨hid, r', hr', hid', hcol⟩ := hany
        have hno := hnone r hr hid r' hr' hid'
        exact Bool.false_ne_true (hno.symm.trans hcol)
      · cases hcollide
  · rename_i s' hex
    obtain ⟨hfault, hex⟩ := exec_eq_ok.1 hex
    split at hex
    · cases hex
    · rename_i hnone
      cases hex
      refine .inl ⟨⟨hfault, fun r hr hid r' hr' hid' => ?_⟩, rfl⟩
      by_contra hcol
      rw [Bool.not_eq_false] at hcol
      refine hnone (List.any_eq_true.2 ⟨r, hr, ?_⟩)
      simp only [Bool.and_eq_true, beq_iff_eq, List.any_eq_true, bne_iff_ne]
      exact ⟨hid, r', hr', hid', hcol⟩

/-- `UpdatePassword` stores a new hash for the user or leaves the tables alone. -/
lemma users_updatePassword (collate : String → String) (b : AuthBackend)
    (userID currentPassword newPassword : String) (s : Tables) :
    (∃ nextHash, PasswordChanged collate b userID currentPassword newPassword nextHash s ∧
      (s.updatePassword collate b userID currentPassword newPassword).2.users =
        s.users.map fun r =>
          if collate r.id = collate userID then { r with passwordHash := nextHash } else r) ∨
      ((∀ nextHash, ¬ PasswordChanged collate b userID currentPassword newPassword nextHash s) ∧
        (s.updatePassword collate b userID currentPassword newPassword).2 = s) := by
  by_cases h : ∃ nextHash,
      PasswordChanged collate b userID currentPassword newPassword nextHash s
  · obtain ⟨nextHash, h⟩ := h
    obtain ⟨r, hfind, hcurrent⟩ := h.current
    refine .inl ⟨nextHash, h, ?_⟩
    simp only [updatePassword, h.password, h.query, hfind, hcurrent, h.hashed, exec, h.update,
      if_false, Bool.false_eq_true, Bool.not_true]
  · refine .inr ⟨not_exists.1 h, ?_⟩
    simp only [updatePassword]
    split
    · rfl
    · rename_i hpassword
      split
      · rfl
      · rename_i hquery
        split
        · rfl
        · rename_i r hfind
          split
          · rfl
          · rename_i hcurrent
            split
            · rfl
            · rename_i nextHash hhash
              split
              · rfl
              · rename_i s' hex
                refine absurd ⟨nextHash, hpassword, by simpa using hquery, ⟨r, hfind, ?_⟩, hhash,
                  (exec_eq_ok.1 hex).1⟩ h
                simpa using hcurrent

/-- `AddShop` changes nothing about how a user is found. -/
lemma users_addShop (collate : String → String) (b : Backend) (userID tenantID shopID : String)
    (s : Tables) :
    (s.addShop collate b userID tenantID shopID).2.users = s.users ∨
      ∃ x, (s.addShop collate b userID tenantID shopID).2.users = s.users.map fun r =>
        if collate r.id = collate userID then
          { r with defaultShopId := some x, onboardingCompleted := true } else r := by
  simp only [addShop]
  split
  · exact .inl rfl
  · split
    · exact .inl rfl
    · rename_i user hload
      generalize normalizeIdentifier (if tenantID = "" then user.defaultTenantId else tenantID) = t
      split
      · exact .inl rfl
      · split
        · exact .inl rfl
        · rename_i s' htx
          exact .inr ⟨_, by rw [addShopTx_eq_ok htx]⟩

/-- A call of another user keeps the own row, and gives its id to no other row. -/
lemma Owns.step (hs : Owns collate own s) {call : AccountCall}
    (hcall : call.ByOther collate own.id) : Owns collate own (s.accountStep collate call) := by
  -- rewriting the rows of another user, without a change of their ids
  have hmap : ∀ (s' : Tables) (f : UserRow → UserRow) (userID : String),
      collate userID ≠ collate own.id →
      s'.users = s.users.map (fun r => if collate r.id = collate userID then f r else r) →
      (∀ r, (f r).id = r.id) → Owns collate own s' := by
    intro s' f userID hne hs' hf
    have hown : ¬ collate own.id = collate userID := fun h => hne h.symm
    constructor
    · rw [hs']
      exact List.mem_map.2 ⟨own, hs.mem, if_neg hown⟩
    · intro r hr hid
      rw [hs'] at hr
      obtain ⟨r₀, hr₀, rfl⟩ := List.mem_map.1 hr
      split at hid
      · rename_i hid₀
        rw [hf] at hid
        exact absurd (hid₀.symm.trans hid) hne
      · rename_i hid₀
        rw [if_neg hid₀]
        exact hs.unique r₀ hr₀ hid
  have hsame : ∀ s' : Tables, s'.users = s.users → Owns collate own s' := by
    intro s' hs'
    exact ⟨by rw [hs']; exact hs.mem, by rw [hs']; exact hs.unique⟩
  match call with
  | .store (.register b input) =>
    rcases s.register_cases collate b input with ⟨hgo, passwordHash, -, hstep⟩ | ⟨-, hstep⟩
    · have husers : (s.accountStep collate (.store (.register b input))).users =
          s.users ++ [input.userRow passwordHash] := congrArg Tables.users hstep
      constructor
      · rw [husers]
        exact List.mem_append_left _ hs.mem
      · intro r hr hid
        rw [husers, List.mem_append, List.mem_singleton] at hr
        rcases hr with hr | rfl
        · exact hs.unique r hr hid
        · have hnew := hgo.newUser own hs.mem
          have hid' : collate input.userID = collate own.id := hid
          simp [usersCollide, RegisterInput.userRow, hid'] at hnew
    · exact hsame _ (congrArg Tables.users hstep)
  | .store (.addShop b userID tenantID shopID) =>
    rcases users_addShop collate b userID tenantID shopID s with hstep | ⟨x, hstep⟩
    · exact hsame _ hstep
    · exact hmap _ _ userID hcall hstep fun _ => rfl
  | .store (.updateProfile b userID input) =>
    rcases users_updateProfile collate b userID input s with ⟨-, hstep⟩ | ⟨-, hstep⟩
    · exact hmap _ _ userID hcall hstep fun _ => rfl
    · exact hsame _ (congrArg Tables.users hstep)
  | .updatePassword b userID currentPassword newPassword =>
    rcases users_updatePassword collate b userID currentPassword newPassword s with
      ⟨nextHash, -, hstep⟩ | ⟨-, hstep⟩
    · exact hmap _ _ userID hcall hstep fun _ => rfl
    · exact hsame _ (congrArg Tables.users hstep)

/-- A call keeps all rows apart from the own one exactly when the rows that it writes are. -/
lemma rowsApart_step_iff (hs : ∀ r ∈ s.users, RowApart collate compare own account r)
    (call : AccountCall) :
    (∀ r ∈ (s.accountStep collate call).users, RowApart collate compare own account r) ↔
      WritesApart collate compare own account s call := by
  match call with
  | .store (.register b input) =>
    rcases s.register_cases collate b input with ⟨hgo, passwordHash, hhash, hstep⟩ | ⟨hgo, hstep⟩
    · have husers : (s.accountStep collate (.store (.register b input))).users =
          s.users ++ [input.userRow passwordHash] := congrArg Tables.users hstep
      rw [husers]
      constructor
      · intro h _ passwordHash' hhash'
        obtain rfl : passwordHash = passwordHash' := Except.ok.inj (hhash.symm.trans hhash')
        exact h _ (List.mem_append_right _ (List.mem_singleton_self _))
      · intro h r hr
        rw [List.mem_append, List.mem_singleton] at hr
        rcases hr with hr | rfl
        · exact hs r hr
        · exact h hgo passwordHash hhash
    · have husers : (s.accountStep collate (.store (.register b input))).users = s.users :=
        congrArg Tables.users hstep
      rw [husers]
      exact ⟨fun _ hgo' => absurd hgo' hgo, fun _ => hs⟩
  | .store (.addShop b userID tenantID shopID) =>
    refine ⟨fun _ => trivial, fun _ => ?_⟩
    rcases users_addShop collate b userID tenantID shopID s with hstep | ⟨x, hstep⟩
    · exact hstep ▸ hs
    · have hstep : (s.accountStep collate (.store (.addShop b userID tenantID shopID))).users = _ :=
        hstep
      rw [hstep, forall_map_iff _ userID hs]
      exact fun r hr _ => rowApart_congr (r := r) rfl rfl rfl rfl rfl (hs r hr)
  | .store (.updateProfile b userID input) =>
    rcases users_updateProfile collate b userID input s with ⟨hgo, hstep⟩ | ⟨hgo, hstep⟩
    · have hstep : (s.accountStep collate (.store (.updateProfile b userID input))).users = _ :=
        hstep
      rw [hstep, forall_map_iff _ userID hs]
      exact ⟨fun h _ => h, fun h => h hgo⟩
    · have husers : (s.accountStep collate (.store (.updateProfile b userID input))).users =
          s.users := congrArg Tables.users hstep
      rw [husers]
      exact ⟨fun _ hgo' => absurd hgo' hgo, fun _ => hs⟩
  | .updatePassword b userID currentPassword newPassword =>
    rcases users_updatePassword collate b userID currentPassword newPassword s with
      ⟨nextHash, hgo, hstep⟩ | ⟨hgo, hstep⟩
    · have hstep : (s.accountStep collate
          (.updatePassword b userID currentPassword newPassword)).users = _ := hstep
      rw [hstep, forall_map_iff _ userID hs]
      constructor
      · intro h nextHash' hgo' r hr hid
        obtain rfl : nextHash = nextHash' := Except.ok.inj (hgo.hashed.symm.trans hgo'.hashed)
        exact h r hr hid
      · exact fun h => h nextHash hgo
    · have husers : (s.accountStep collate
          (.updatePassword b userID currentPassword newPassword)).users = s.users :=
        congrArg Tables.users hstep
      rw [husers]
      exact ⟨fun _ nextHash hgo' => absurd hgo' (hgo nextHash), fun _ => hs⟩

/-! ### Runs of calls of other users -/

lemma Owns.id_of_loadUser (hs : Owns collate own s)
    (hactive : collate own.status = collate "active") {b : Backend}
    (hload : s.loadUser collate b own.id = .ok user) : user.id = own.id := by
  have hfault : b.fault .loadUser = none := by
    cases hfault : b.fault .loadUser with
    | none => rfl
    | some e =>
      simp only [Tables.loadUser, hfault] at hload
      cases hload
  obtain ⟨user', hload', hid⟩ := hs.loadUser hactive hfault
  obtain rfl : user' = user := Except.ok.inj (hload'.symm.trans hload)
  exact hid

/-- From a state that stores the own row, logins stay stable exactly when all rows are apart from it
at the start and all calls write only such rows. -/
lemma loginsStable_iff_along (hs : Owns collate own s)
    (hactive : collate own.status = collate "active") (haccount : trimSpaceString account ≠ "")
    (hmatch : own.Matches collate (trimSpaceString account) = true)
    (hcompare : compare own.passwordHash password = true) {calls : List AccountCall}
    (hcalls : Along (accountStep collate) (fun _ call => call.ByOther collate own.id) s calls) :
    LoginsStable collate compare own.id account password s calls ↔
      (∀ r ∈ s.users, RowApart collate compare own account r) ∧
        Along (accountStep collate) (WritesApart collate compare own account) s calls := by
  let Apart (s : Tables) : Prop := ∀ r ∈ s.users, RowApart collate compare own account r
  have hstable : ∀ {s}, Owns collate own s →
      (LoginStable collate compare own.id account password s ↔ Apart s) := by
    intro s hs
    exact loginStable_iff_apart hs hactive haccount hmatch hcompare
  have howns : ∀ done, done <+: calls → Owns collate own (run (accountStep collate) s done) := by
    rintro done ⟨rest, rfl⟩
    exact run_invariant (fun _ _ hs hcall => hs.step hcall) hs
      ((along_append s done rest).1 hcalls).1
  have hruns : Owns collate own s ∧ Apart s →
      ((∀ done, done <+: calls → Owns collate own (run (accountStep collate) s done) ∧
          Apart (run (accountStep collate) s done)) ↔
        Along (accountStep collate) (WritesApart collate compare own account) s calls) := by
    intro hI
    refine always_iff_along_of (I := fun s => Owns collate own s ∧ Apart s)
      (Q := fun _ call => call.ByOther collate own.id) ?_ hI calls hcalls
    rintro s call ⟨hs, hapart⟩ hcall
    rw [← rowsApart_step_iff hapart call]
    exact ⟨And.right, fun h => ⟨hs.step hcall, h⟩⟩
  constructor
  · intro h
    have hapart : Apart s := (hstable hs).1 (h [] (List.nil_prefix))
    refine ⟨hapart, (hruns ⟨hs, hapart⟩).1 fun done hdone => ⟨howns done hdone, ?_⟩⟩
    exact (hstable (howns done hdone)).1 (h done hdone)
  · rintro ⟨hapart, hwrites⟩ done hdone
    exact (hstable (howns done hdone)).2 ((hruns ⟨hs, hapart⟩).2 hwrites done hdone).2

/-! ### After a registration -/

/-- The id of a new user is the account that the handler selects. -/
lemma userID_input {request : RegisterRequest}
    (haccount : trimSpaceString request.accountGiven ≠ "") :
    request.input.userID = normalizeIdentifier (trimSpaceString request.accountGiven) := by
  simp only [RegisterInput.userID, RegisterRequest.input, firstNonEmpty, if_neg haccount]

/-- A successful registration stores the row of the new user, whose keys were free. -/
lemma store_of_register {h : AuthHandler} {request : RegisterRequest}
    (hok : (h.register collate b request).1 = .ok user) :
    trimSpaceString request.accountGiven ≠ "" ∧ ∃ passwordHash,
      b.hashPassword request.password = .ok passwordHash ∧
      (∀ r ∈ h.store.users,
        usersCollide collate (request.input.userRow passwordHash) r = false) ∧
      (h.register collate b request).2.store.users =
        h.store.users ++ [request.input.userRow passwordHash] ∧
      (h.register collate b request).2.store.loadUser collate b.toBackend request.input.userID =
        .ok user := by
  simp only [AuthHandler.register] at hok ⊢
  split at hok
  · cases hok
  · split at hok
    · cases hok
    · split at hok
      · cases hok
      · rename_i hpassword hconfirm haccount
        refine ⟨haccount, ?_⟩
        rw [if_neg hpassword, if_neg hconfirm, if_neg haccount]
        split at hok
        · cases hok
        · rename_i user' store hregister
          obtain rfl : user' = user := Except.ok.inj hok
          have hload := AuthHandler.loadUser_of_register hregister
          simp only [Tables.register] at hregister
          split at hregister
          · cases hregister
          · split at hregister
            · cases hregister
            · split at hregister
              · cases hregister
              · rename_i passwordHash hhash
                split at hregister
                · cases hregister
                · rename_i s' htx
                  obtain ⟨-, rfl⟩ := Prod.mk.inj hregister
                  obtain ⟨⟨-, hnew, -, -⟩, rfl⟩ := registerTx_eq_ok.1 htx
                  exact ⟨passwordHash, hhash, hnew, rfl, hload⟩

end Tables

/-- In a run of calls of other users, the login of a user who has registered is stable in all states
exactly when the rows that were stored before are apart from his row, and the calls write only rows
that are. -/
theorem loginsStable_iff (collate : String → String) (compare : String → String → Bool)
    (b : AuthBackend) (h : AuthHandler) (request : RegisterRequest) (user : User)
    (hregister : (h.register collate b request).1 = .ok user)
    (hcompare : ∀ passwordHash, b.hashPassword request.password = .ok passwordHash →
      compare passwordHash request.password = true)
    (calls : List AccountCall) (hcalls : ∀ call ∈ calls, call.ByOther collate user.id) :
    LoginsStable collate compare user.id request.accountGiven request.password
        (h.register collate b request).2.store calls ↔
      ∀ passwordHash, b.hashPassword request.password = .ok passwordHash →
        (∀ r ∈ h.store.users, RowApart collate compare (request.input.userRow passwordHash)
          request.accountGiven r) ∧
        Along (Tables.accountStep collate)
          (WritesApart collate compare (request.input.userRow passwordHash) request.accountGiven)
          (h.register collate b request).2.store calls := by
  obtain ⟨haccount, passwordHash, hhash, hnew, husers, hload⟩ := Tables.store_of_register hregister
  generalize (h.register collate b request).2.store = s at husers hload ⊢
  have hmatch : (request.input.userRow passwordHash).Matches collate
      (trimSpaceString request.accountGiven) = true := by
    have hid : (request.input.userRow passwordHash).id =
      normalizeIdentifier (trimSpaceString request.accountGiven) := Tables.userID_input haccount
    simp [UserRow.Matches, hid]
  have howns : Tables.Owns collate (request.input.userRow passwordHash) s := by
    constructor
    · rw [husers]
      exact List.mem_append_right _ (List.mem_singleton_self _)
    · intro r hr hid
      rw [husers, List.mem_append, List.mem_singleton] at hr
      rcases hr with hr | rfl
      · have hfree := hnew r hr
        simp [Tables.usersCollide, hid] at hfree
      · rfl
  have huser : user.id = (request.input.userRow passwordHash).id := howns.id_of_loadUser rfl hload
  have halong : Along (Tables.accountStep collate)
      (fun _ call => call.ByOther collate (request.input.userRow passwordHash).id) s calls := by
    rw [huser] at hcalls
    exact along_of_forall s hcalls
  rw [huser, Tables.loginsStable_iff_along howns rfl haccount hmatch
    (hcompare passwordHash hhash) halong]
  constructor
  · rintro ⟨hapart, hwrites⟩ passwordHash' hhash'
    obtain rfl : passwordHash = passwordHash' := Except.ok.inj (hhash.symm.trans hhash')
    exact ⟨fun r hr => hapart r (husers ▸ List.mem_append_left _ hr), hwrites⟩
  · intro h
    obtain ⟨hbefore, hwrites⟩ := h passwordHash hhash
    refine ⟨fun r hr => ?_, hwrites⟩
    rw [husers, List.mem_append, List.mem_singleton] at hr
    rcases hr with hr | rfl
    · exact hbefore r hr
    · exact ⟨fun hid => absurd rfl hid, fun hid => absurd rfl hid⟩

open AuthHandler (openBackend)

/-- Zoe registers with her e-mail address, as the first user. -/
def zoe : RegisterRequest := ⟨"", "", "", "zoe@shop.cn", "", "", "", "pw1", "", "", "", "", ""⟩

def zoeRegistered : Except Envelope User × AuthHandler :=
  AuthHandler.register id openBackend ⟨⟨[], [], [], [], []⟩, policyFile⟩ zoe

/-- Amy registers with an e-mail address and a phone number. -/
def amyRegisters (phone : String) : AccountCall :=
  .store (.register openBackend.toBackend
    (RegisterRequest.input ⟨"", "", "", "amy@shop.cn", phone, "", "", "pw2", "", "", "", "", ""⟩))

/-- Amy without a phone number does not get in the way of Zoe, and neither does her new password. -/
theorem loginsStable_zoe : ∃ user, zoeRegistered.1 = .ok user ∧
    LoginsStable id (· == ·) user.id "zoe@shop.cn" "pw1" zoeRegistered.2.store
      [amyRegisters "", .updatePassword openBackend "amy_shop_cn" "pw2" "pw3"] := by
  have hid : zoeRegistered.1.map (·.id) = .ok "zoe_shop_cn" := by decide +kernel
  obtain ⟨user, hok⟩ : ∃ user, zoeRegistered.1 = .ok user := by
    cases hr : zoeRegistered.1 with
    | error e => rw [hr] at hid; cases hid
    | ok user => exact ⟨user, rfl⟩
  have huser : user.id = "zoe_shop_cn" := by
    rw [hok] at hid
    exact Except.ok.inj hid
  refine ⟨user, hok, (loginsStable_iff id (· == ·) openBackend _ zoe user hok ?_ _ ?_).2 ?_⟩
  · intro passwordHash hhash
    obtain rfl := Except.ok.inj hhash
    rfl
  · intro call hcall
    rw [huser]
    simp only [List.mem_cons, List.not_mem_nil, or_false] at hcall
    rcases hcall with rfl | rfl
    · trivial
    · show "amy_shop_cn" ≠ "zoe_shop_cn"
      decide +kernel
  · intro passwordHash hhash
    obtain rfl := Except.ok.inj hhash
    have hcompare : ∀ hash password' : String, hash ≠ "pw1" → (hash == password') = true →
        ("pw1" == password') = false := by
      intro hash password' hne heq
      rw [← beq_iff_eq.1 heq]
      exact beq_eq_false_iff_ne.2 hne.symm
    refine ⟨fun r hr => absurd hr List.not_mem_nil, ?_, ?_, trivial⟩
    · intro _ passwordHash hhash
      obtain rfl := Except.ok.inj hhash
      exact ⟨fun _ _ => by decide +kernel, fun _ _ _ _ _ password' =>
        hcompare "pw2" password' (by decide +kernel)⟩
    · intro nextHash hchanged r hr hid
      obtain rfl := Except.ok.inj hchanged.hashed
      have hno : ∀ r ∈ (Tables.accountStep id zoeRegistered.2.store (amyRegisters "")).users,
          r.id = "amy_shop_cn" → r.Matches id (trimSpaceString "zoe@shop.cn") = false := by
        decide +kernel
      exact ⟨fun _ _ => hno r hr hid, fun _ _ _ _ _ password' =>
        hcompare "pw3" password' (by decide +kernel)⟩

/-- Amy gives Zoe's address as her phone number, and Zoe's password is compared with Amy's hash. -/
theorem not_loginsStable_amy :
    ¬ LoginsStable id (· == ·) "zoe_shop_cn" "zoe@shop.cn" "pw1" zoeRegistered.2.store
      [amyRegisters "zoe@shop.cn"] := by
  intro h
  obtain ⟨user, hok, -⟩ := (h _ (List.prefix_refl _)).own (.byId id) openBackend ⟨rfl, rfl, rfl⟩
  have herror : (run (Tables.accountStep id) zoeRegistered.2.store
      [amyRegisters "zoe@shop.cn"]).authenticateBy id openBackend (.byId id) "zoe@shop.cn" "pw1" =
        .error "invalid credentials" := by
    decide +kernel
  rw [herror] at hok
  cases hok

end EcommerceAgent.Gateway
