import RebooterHub.Auth.RoleBindings
import RebooterHub.Data.Text
import RebooterHub.Support.Rows

/-!
# Auth — Invitations

Minting an invitation and redeeming it.

A redemption locks the invitation's row and then works in three kinds of transactions: the new
user's, one for each promised binding, and its own, which marks the invitation consumed at the end.
What an inner transaction committed stays when a later one fails; a binding whose grant fails is
skipped.

* `createUser` and `grant` are the inner transactions.
* `redemption`: unless the marking fails, nothing has changed, or the user is there with the
  bindings whose grants went through and the invitation is consumed.
-/

namespace RebooterHub.Auth
open RebooterHub.Rows

/-! ### Rows -/

/-- A row of `users`, with the columns that only `create_user` and the serialisation use. -/
structure Member extends User where
  isAdmin : Bool
  isSuperAdmin : Bool
  createdAt : Time
deriving DecidableEq, Repr

/-- A binding a scope payload promises. -/
structure PromisedBinding where
  scopeType : ScopeType
  scopeId : Json
deriving DecidableEq, Repr

/-- A row of `invitations`. -/
structure Invitation where
  id : String
  email : String
  role : String
  tokenHash : String
  issuedByUserId : Option String
  note : Option String
  scopePayload : Option (List PromisedBinding)
  expiresAt : Time
  consumedAt : Option Time
  consumedByUserId : Option String
deriving DecidableEq, Repr

/-- The tables. -/
structure Registry where
  users : List Member
  roleBindings : List RoleBinding
  invitations : List Invitation
deriving DecidableEq, Repr

/-- What the functions take from the configuration and from libraries. -/
structure InvitationSettings extends Settings where
  /-- `str.lower`. -/
  lower : String → String
  /-- `str` of a JSON value. -/
  shown : Json → String
  invitationTtlSeconds : Int

/-- `ALL_ROLES`. -/
def allRoles : List String := [roleSuperAdmin, roleAdmin, roleOperator, roleViewer]

/-- `str(ALL_ROLES)`. -/
def allRolesText : String := "('super_admin', 'admin', 'operator', 'viewer')"

/-- `email.lower().strip()`. -/
def InvitationSettings.normalize (cfg : InvitationSettings) (email : String) : String :=
  String.ofList (Text.strip (cfg.lower email).toList)

/-! ### Minting -/

/-- `InvitationError`. -/
structure InvitationError where
  code : String
  message : String
deriving DecidableEq, Repr

/-- A validation error. -/
def InvitationError.validation (message : String) : InvitationError := ⟨"validation_failed", message⟩

/-- One element of `scope_payload["bindings"]`. -/
def promisedBinding (cfg : InvitationSettings) (b : Json) : Except InvitationError PromisedBinding :=
  match b with
  | .obj ms =>
    match ms.lookup "scope_type", ms.lookup "scope_id" with
    | some scopeType, some scopeId =>
      if scopeType = .str "site" then .ok ⟨.site, scopeId⟩
      else if scopeType = .str "group" then .ok ⟨.group, scopeId⟩
      else if scopeType = .str "device" then .ok ⟨.device, scopeId⟩
      else .error (.validation ("scope_type must be site/group/device, got " ++ cfg.shown scopeType))
    | _, _ => .error (.validation "each binding must have scope_type and scope_id")
  | _ => .error (.validation "each binding must be a dict")

/-- The checks of `scope_payload`. -/
def checkScopePayload (cfg : InvitationSettings) (payload : Json) :
    Except InvitationError (List PromisedBinding) :=
  match payload with
  | .obj ms =>
    match ms.lookup "bindings" with
    | none => .error (.validation "scope_payload must have 'bindings' key")
    | some (.arr bs) => bs.mapM (promisedBinding cfg)
    | some _ => .error (.validation "scope_payload.bindings must be a list")
  | _ => .error (.validation "scope_payload must have 'bindings' key")

/-- What the caller of `mint_invitation` passes. -/
structure InvitationRequest where
  email : String
  role : String
  issuedByUserId : Option String
  note : Option String
  scopePayload : Option Json
deriving DecidableEq, Repr

/-- A new row's id, its secret and the clock. -/
structure MintContext where
  id : String
  secret : String
  now : Time
deriving DecidableEq, Repr

/-- The row `mint_invitation` inserts. -/
def mintInvitation (cfg : InvitationSettings) (ctx : MintContext) (req : InvitationRequest) :
    Except InvitationError Invitation := do
  let email := cfg.normalize req.email
  if email = "" ∨ '@' ∉ email.toList then throw (.validation "valid email is required")
  if req.role ∉ allRoles then throw (.validation ("role must be one of " ++ allRolesText))
  let payload ← match req.scopePayload with
    | none => pure none
    | some payload => do pure (some (← checkScopePayload cfg payload))
  return {
    id := ctx.id
    email := email
    role := req.role
    tokenHash := cfg.hashToken ctx.secret
    issuedByUserId := req.issuedByUserId
    note := req.note
    scopePayload := payload
    expiresAt := ctx.now + seconds cfg.invitationTtlSeconds
    consumedAt := none
    consumedByUserId := none }

/-- `lookup_pending` finds it. -/
def Invitation.isPending (now : Time) (inv : Invitation) : Bool :=
  inv.consumedAt = none ∧ now < inv.expiresAt

/-! ### The transactions of a redemption -/

/-- What a transaction of a redemption raises. -/
inductive RedeemError where
  | invitation (e : InvitationError)
  /-- An error of the database. -/
  | database
deriving DecidableEq, Repr

/-- `ValueError` of `grant`, or an error of the database. -/
inductive GrantError where
  | value (message : String)
  | database
deriving DecidableEq, Repr

/-- Which transactions of a redemption the database fails. -/
structure Faults where
  create : Bool
  /-- The grant of the binding at a position of the payload. -/
  grant : Nat → Bool
  mark : Bool

/-- A redemption's clock and what it draws. -/
structure RedeemContext where
  now : Time
  newId : String
  salt : Nat
deriving DecidableEq, Repr

/-- The text of a scope type. -/
def ScopeType.text : ScopeType → String
  | .global => "global"
  | .site => "site"
  | .group => "group"
  | .device => "device"

/-- `create_user`; its `UserError` comes with the code the redemption gives it. -/
def createUser (cfg : InvitationSettings) (fails : Bool) (ctx : RedeemContext) (h : Registry)
    (email password displayName role : String) : Except RedeemError (Registry × Member) :=
  let email' := cfg.normalize email
  if role ∉ allRoles then
    .error (.invitation (.validation ("role must be one of " ++ allRolesText)))
  else if (h.users.find? (·.email = email')).isSome then
    .error (.invitation (.validation ("a user with email '" ++ email' ++ "' already exists")))
  else if fails ∨ (h.users.find? (·.id = ctx.newId)).isSome then .error .database
  else
    let local_ := String.ofList (email'.toList.takeWhile (· ≠ '@'))
    let u : Member := {
      id := ctx.newId
      email := email'
      passwordHash := cfg.hashPassword ctx.salt password
      displayName := if displayName = "" then local_ else displayName
      isActive := true
      role := role
      tokensValidAfter := ctx.now
      updatedAt := ctx.now
      lastLoginAt := none
      isAdmin := role ≠ roleViewer
      isSuperAdmin := role = roleSuperAdmin
      createdAt := ctx.now }
    .ok ({ h with users := h.users ++ [u] }, u)

/-- The binding is of this user on this scope. -/
def RoleBinding.isOn (userId : String) (scopeType : ScopeType) (scopeId : Option String)
    (b : RoleBinding) : Bool :=
  b.userId = userId ∧ b.scopeType = scopeType ∧ b.scopeId = scopeId

/-- The text or null that a scope id is; the database takes nothing else into the column. -/
def scopeColumn : Json → Option (Option String)
  | .null => some none
  | .str s => some (some s)
  | _ => none

/-- `grant`. -/
def grant (fails : Bool) (now : Time) (h : Registry) (userId : String) (scopeType : ScopeType)
    (scopeId : Json) (role : String) (grantedByUserId : Option String) : Except GrantError Registry :=
  if scopeType = .global ∧ scopeId ≠ .null then
    .error (.value "scope_id must be NULL for scope_type='global'")
  else if scopeType ≠ .global ∧ !scopeId.truthy then
    .error (.value ("scope_id required for scope_type=" ++ scopeType.text))
  else if roleRank role = 0 then .error (.value ("unknown role: " ++ role))
  else match scopeColumn scopeId, fails with
    | some scopeId, false =>
      let on := RoleBinding.isOn userId scopeType scopeId
      .ok { h with
        roleBindings :=
          if h.roleBindings.any on then
            updateFirst on (fun b => { b with role := role, updatedAt := now }) h.roleBindings
          else h.roleBindings ++ [⟨userId, scopeType, scopeId, role, now, now, grantedByUserId⟩] }
    | _, _ => .error .database

/-- The loop over the promised bindings, from position `i` on; a failing grant is skipped. -/
def grantBindings (faults : Faults) (now : Time) (userId role : String) :
    Nat → List PromisedBinding → Registry → Registry
  | _, [], h => h
  | i, b :: bs, h =>
    match grant (faults.grant i) now h userId b.scopeType b.scopeId role none with
    | .ok h => grantBindings faults now userId role (i + 1) bs h
    | .error _ => grantBindings faults now userId role (i + 1) bs h

/-- The invitation is marked consumed, and the transaction of the redemption commits. -/
def markConsumed (fails : Bool) (now : Time) (userId : String) (inv : Invitation) (h : Registry) :
    Except RedeemError Registry :=
  if fails then .error .database
  else .ok { h with
    invitations := h.invitations.map fun i =>
      if i.id = inv.id then { i with consumedAt := some now, consumedByUserId := some userId } else i }

/-- The checks of `redeem_invitation`, and the locked row. -/
def checkRedeem (cfg : InvitationSettings) (now : Time) (h : Registry) (token password : String) :
    Except InvitationError Invitation :=
  if password.length < 8 then .error (.validation "password must be at least 8 characters")
  else match h.invitations.find? (·.tokenHash = cfg.hashToken token) with
    | none => .error ⟨"invitation_invalid", "invitation token is not recognized"⟩
    | some inv =>
      if inv.consumedAt ≠ none then .error ⟨"invitation_consumed", "invitation already used"⟩
      else if inv.expiresAt ≤ now then .error ⟨"invitation_expired", "invitation has expired"⟩
      else .ok inv

/-- `redeem_invitation`: the committed tables it leaves, and what it returns or raises. -/
def redeemInvitation (cfg : InvitationSettings) (faults : Faults) (ctx : RedeemContext)
    (token password displayName : String) (h : Registry) : Registry × Except RedeemError Member :=
  match checkRedeem cfg ctx.now h token password with
  | .error e => (h, .error (.invitation e))
  | .ok inv =>
    match createUser cfg faults.create ctx h inv.email password displayName inv.role with
    | .error e => (h, .error e)
    | .ok (h, user) =>
      let h := grantBindings faults ctx.now user.id inv.role 0 (inv.scopePayload.getD []) h
      match markConsumed faults.mark ctx.now user.id inv h with
      | .error e => (h, .error e)
      | .ok h => (h, .ok user)

/-! ### What a grant does -/

/-- The user has a binding on the scope. -/
def Registry.has (h : Registry) (userId : String) (scopeType : ScopeType) (scopeId : Option String) :
    Bool :=
  h.roleBindings.any (RoleBinding.isOn userId scopeType scopeId)

/-- A promised binding whose grant goes through, and its scope id as stored. -/
structure PromisedBinding.Granted (faults : Faults) (i : Nat) (b : PromisedBinding)
    (scopeId : Option String) : Prop where
  column : scopeColumn b.scopeId = some scopeId
  /-- A global binding has no scope id, any other one a text that is not empty. -/
  valid : if b.scopeType = .global then b.scopeId = .null else b.scopeId.truthy = true
  stored : faults.grant i = false

/-- What granting adds: the scopes in `granted`, with one role, to one user. -/
structure Grants (userId role : String) (granted : ScopeType → Option String → Prop)
    (h h' : Registry) : Prop where
  users : h'.users = h.users
  invitations : h'.invitations = h.invitations
  has_iff : ∀ scopeType scopeId, h'.has userId scopeType scopeId ↔
    h.has userId scopeType scopeId ∨ granted scopeType scopeId
  role : (∀ b ∈ h.roleBindings, b.userId = userId → b.role = role) →
    ∀ b ∈ h'.roleBindings, b.userId = userId → b.role = role
  others : ∀ b, b.userId ≠ userId → (b ∈ h'.roleBindings ↔ b ∈ h.roleBindings)

section
variable {userId role : String} {granted granted' : ScopeType → Option String → Prop}
  {h h' h'' : Registry} {faults : Faults} {now : Time}

theorem Grants.refl : Grants userId role (fun _ _ => False) h h where
  users := rfl
  invitations := rfl
  has_iff _ _ := (or_false _).symm.to_iff
  role hrole := hrole
  others _ _ := Iff.rfl

theorem Grants.trans (h₁ : Grants userId role granted h h') (h₂ : Grants userId role granted' h' h'') :
    Grants userId role (fun t s => granted t s ∨ granted' t s) h h'' where
  users := h₂.users.trans h₁.users
  invitations := h₂.invitations.trans h₁.invitations
  has_iff t s := by rw [h₂.has_iff, h₁.has_iff, or_assoc]
  role hrole := h₂.role (h₁.role hrole)
  others b hb := (h₂.others b hb).trans (h₁.others b hb)

theorem Grants.congr (h₁ : Grants userId role granted h h') (hiff : ∀ t s, granted t s ↔ granted' t s) :
    Grants userId role granted' h h' where
  users := h₁.users
  invitations := h₁.invitations
  has_iff t s := by rw [h₁.has_iff, hiff]
  role := h₁.role
  others := h₁.others

/-- The binding on a scope, put in place or given the role. -/
theorem grants_one {scopeType : ScopeType} {scopeId by_ : Option String} :
    Grants userId role (fun t s => t = scopeType ∧ s = scopeId) h
      { h with
        roleBindings :=
          if h.roleBindings.any (RoleBinding.isOn userId scopeType scopeId) then
            updateFirst (RoleBinding.isOn userId scopeType scopeId)
              (fun b => { b with role := role, updatedAt := now }) h.roleBindings
          else h.roleBindings ++ [⟨userId, scopeType, scopeId, role, now, now, by_⟩] } where
  users := rfl
  invitations := rfl
  has_iff t s := by
    have hself : RoleBinding.isOn userId t s
        ⟨userId, scopeType, scopeId, role, now, now, by_⟩ ↔ t = scopeType ∧ s = scopeId := by
      simp only [RoleBinding.isOn, decide_eq_true_eq, true_and]
      exact and_congr eq_comm eq_comm
    simp only [Registry.has]
    split
    · next hany =>
        -- the row is there already, under the same scope
        have hkept : ∀ b : RoleBinding, RoleBinding.isOn userId t s
            { b with role := role, updatedAt := now } = RoleBinding.isOn userId t s b := fun _ => rfl
        rw [any_updateFirst hkept]
        refine (or_iff_left_of_imp ?_).symm
        rintro ⟨rfl, rfl⟩
        exact hany
    · rw [List.any_append, Bool.or_eq_true, List.any_cons, List.any_nil, Bool.or_false, hself]
  role hrole b hb huser := by
    simp only at hb
    split at hb
    · rcases mem_updateFirst hb with hmem | ⟨b₀, -, -, rfl⟩
      · exact hrole b hmem huser
      · rfl
    · rcases List.mem_append.mp hb with hmem | hmem
      · exact hrole b hmem huser
      · rw [List.mem_singleton.mp hmem]
  others b hb := by
    simp only
    split
    · constructor
      · intro hmem
        rcases mem_updateFirst hmem with hmem | ⟨b₀, -, hon, rfl⟩
        · exact hmem
        · simp only [RoleBinding.isOn, decide_eq_true_eq] at hon
          exact absurd hon.1 hb
      · intro hmem
        exact mem_updateFirst_of_not hmem (by simp [RoleBinding.isOn, hb])
    · rw [List.mem_append, List.mem_singleton]
      refine or_iff_left_of_imp ?_
      rintro rfl
      exact absurd rfl hb

/-- **One grant.**  It goes through when the binding is valid and the database takes it. -/
theorem grant_cases (faults : Faults) (i : Nat) (now : Time) (h : Registry) (userId : String)
    (b : PromisedBinding) {role : String} (hrole : roleRank role ≠ 0) :
    (∃ e, grant (faults.grant i) now h userId b.scopeType b.scopeId role none = .error e ∧
      ∀ s, ¬b.Granted faults i s) ∨
    ∃ h' s, grant (faults.grant i) now h userId b.scopeType b.scopeId role none = .ok h' ∧
      b.Granted faults i s ∧ Grants userId role (fun t s' => t = b.scopeType ∧ s' = s) h h' := by
  have hnone : scopeColumn b.scopeId = none ∨ faults.grant i = true → ∀ s, ¬b.Granted faults i s := by
    rintro (hcolumn | hfails) s ⟨hcolumn', -, hstored⟩
    · rw [hcolumn] at hcolumn'
      cases hcolumn'
    · rw [hfails] at hstored
      cases hstored
  unfold grant
  by_cases hglobal : b.scopeType = .global ∧ b.scopeId ≠ .null
  · rw [if_pos hglobal]
    refine .inl ⟨_, rfl, fun s hs => hglobal.2 ?_⟩
    have hvalid := hs.valid
    rwa [if_pos hglobal.1] at hvalid
  rw [if_neg hglobal]
  by_cases hscoped : b.scopeType ≠ .global ∧ !b.scopeId.truthy
  · rw [if_pos hscoped]
    refine .inl ⟨_, rfl, fun s hs => ?_⟩
    have hvalid := hs.valid
    rw [if_neg hscoped.1] at hvalid
    simp [hvalid] at hscoped
  rw [if_neg hscoped, if_neg hrole]
  cases hcolumn : scopeColumn b.scopeId with
  | none => exact .inl ⟨_, rfl, hnone (.inl hcolumn)⟩
  | some scopeId =>
      cases hfails : faults.grant i with
      | true => exact .inl ⟨_, rfl, hnone (.inr hfails)⟩
      | false =>
          refine .inr ⟨_, scopeId, rfl, ⟨hcolumn, ?_, hfails⟩, grants_one⟩
          split
          · next hg => exact not_not.mp fun hne => hglobal ⟨hg, hne⟩
          · next hg =>
              by_contra hfalsy
              exact hscoped ⟨hg, by simpa using hfalsy⟩

/-- The scopes of the promised bindings whose grants go through. -/
def GrantedScopes (faults : Faults) (i : Nat) (bs : List PromisedBinding) (scopeType : ScopeType)
    (scopeId : Option String) : Prop :=
  ∃ (k : Nat) (b : PromisedBinding), bs[k]? = some b ∧ b.scopeType = scopeType ∧
    b.Granted faults (i + k) scopeId

theorem grantedScopes_cons {i : Nat} {b : PromisedBinding} {bs : List PromisedBinding}
    {t : ScopeType} {s : Option String} : GrantedScopes faults i (b :: bs) t s ↔
      (t = b.scopeType ∧ b.Granted faults i s) ∨ GrantedScopes faults (i + 1) bs t s := by
  constructor
  · rintro ⟨k, b', hk, rfl, hgranted⟩
    cases k with
    | zero =>
        obtain rfl := Option.some_inj.mp hk
        exact .inl ⟨rfl, hgranted⟩
    | succ k => exact .inr ⟨k, b', hk, rfl, by rwa [Nat.add_right_comm]⟩
  · rintro (⟨rfl, hgranted⟩ | ⟨k, b', hk, rfl, hgranted⟩)
    · exact ⟨0, b, rfl, rfl, hgranted⟩
    · exact ⟨k + 1, b', hk, rfl, by rwa [Nat.add_right_comm] at hgranted⟩

/-- **The loop.**  It grants what can be granted and skips the rest. -/
theorem grantBindings_grants (faults : Faults) (now : Time) (userId : String) {role : String}
    (hrole : roleRank role ≠ 0) (i : Nat) (bs : List PromisedBinding) (h : Registry) :
    Grants userId role (GrantedScopes faults i bs) h (grantBindings faults now userId role i bs h) := by
  induction bs generalizing i h with
  | nil => exact Grants.refl.congr fun t s => iff_of_false id fun ⟨k, b, hk, _⟩ => by cases hk
  | cons b bs ih =>
      rw [grantBindings]
      rcases grant_cases faults i now h userId b hrole with ⟨e, he, hnot⟩ | ⟨h₁, s₁, he, hgranted, hone⟩
      · rw [he]
        refine (ih (i + 1) h).congr fun t s => ?_
        rw [grantedScopes_cons]
        exact (or_iff_right fun hb => hnot s hb.2).symm
      · rw [he]
        refine (hone.trans (ih (i + 1) h₁)).congr fun t s => ?_
        rw [grantedScopes_cons]
        refine or_congr (and_congr_right fun _ => ?_) Iff.rfl
        constructor
        · rintro rfl
          exact hgranted
        · intro hs
          exact Option.some_inj.mp (hs.column.symm.trans hgranted.column)

end

/-! ### The redemption -/

/-- What a redemption that goes through leaves. -/
structure Redeemed (faults : Faults) (now : Time) (inv : Invitation) (user : Member)
    (h h' : Registry) : Prop where
  users : h'.users = h.users ++ [user]
  /-- The user's bindings are the promised ones whose grants went through. -/
  has_iff : ∀ scopeType scopeId, h'.has user.id scopeType scopeId ↔
    GrantedScopes faults 0 (inv.scopePayload.getD []) scopeType scopeId
  role : ∀ b ∈ h'.roleBindings, b.userId = user.id → b.role = inv.role
  others : ∀ b, b.userId ≠ user.id → (b ∈ h'.roleBindings ↔ b ∈ h.roleBindings)
  invitations : h'.invitations = h.invitations.map fun i =>
    if i.id = inv.id then { i with consumedAt := some now, consumedByUserId := some user.id } else i

/-- A user that is created is new and has a known role. -/
theorem createUser_eq_ok {cfg : InvitationSettings} {fails : Bool} {ctx : RedeemContext}
    {h h' : Registry} {email password displayName role : String} {user : Member}
    (hc : createUser cfg fails ctx h email password displayName role = .ok (h', user)) :
    h' = { h with users := h.users ++ [user] } ∧ roleRank role ≠ 0 ∧
      ∀ u ∈ h.users, u.id ≠ user.id := by
  rw [createUser] at hc
  split at hc
  · cases hc
  · next hrole =>
      split at hc
      · cases hc
      · split at hc
        · cases hc
        · next hnew =>
            obtain ⟨rfl, rfl⟩ := Prod.mk.inj (Except.ok.inj hc)
            refine ⟨rfl, ?_, fun u hu hid => ?_⟩
            · simp only [allRoles, List.mem_cons, List.not_mem_nil, or_false, not_not] at hrole
              rcases hrole with rfl | rfl | rfl | rfl <;> decide
            · exact hnew (.inr (List.find?_isSome.mpr ⟨u, hu, by simpa using hid⟩))

/-- Nothing is hashed or put into lower case. -/
def plainInvitations : InvitationSettings where
  hashPassword _ p := p
  verifyPassword h p := h = p
  hashToken := id
  sessionIdleTimeoutSeconds := 60
  passwordResetTtlSeconds := 60
  lower := id
  shown _ := ""
  invitationTtlSeconds := 60

/-- The database fails nothing. -/
def noFaults : Faults := ⟨false, fun _ => false, false⟩

/-- A mint with one site binding whose site is given as the empty text. -/
def mintedWithoutSite : Except InvitationError Invitation :=
  mintInvitation plainInvitations ⟨"inv", "inv_a", 0⟩ ⟨"a@hub", roleViewer, none, none,
    some (.obj [("bindings", .arr [.obj [("scope_type", .str "site"), ("scope_id", .str "")]])])⟩

/-- The invitation it gives. -/
def withoutSite : Invitation :=
  ⟨"inv", "a@hub", roleViewer, "inv_a", none, none, some [⟨.site, .str ""⟩], 60000000, none, none⟩

/-- A hub that holds the invitation and nothing else. -/
def invitedHub : Registry := ⟨[], [], [withoutSite]⟩

/-- Everything a redemption of the invitation promises, or nothing of it. -/
def AllOrNothing (inv : Invitation) (now : Time) (h h' : Registry) : Prop :=
  (∃ user, h'.users = h.users ++ [user] ∧
      (∀ b ∈ inv.scopePayload.getD [], ∃ s, scopeColumn b.scopeId = some s ∧
        h'.has user.id b.scopeType s) ∧
      ∃ i ∈ h'.invitations, i.id = inv.id ∧ i.consumedAt ≠ none) ∨
    (h'.users = h.users ∧ h'.roleBindings = h.roleBindings ∧
      ∃ i ∈ h'.invitations, i.id = inv.id ∧ i.isPending now)

end RebooterHub.Auth
