import RebooterHub.Auth.Accounts

/-!
# Auth — Role bindings

What a user may act on: the bindings of `role_bindings`, each a role on everything, on a site, on
the members of a group or on one device.

* `effectiveDeviceIds`, `effectiveSiteIds` and `effectiveGroupIds` expand a user's bindings to ids.
* `Reaches` is what they come to: a binding of the right kind and of a high enough role.
* `requireCanActOnDevice` and its siblings are the gates; they let a super admin pass.

The bindings are those the tenant scope of the request shows; every function of a request sees the
same ones.
-/

namespace RebooterHub.Auth

/-! ### Roles and rows -/

/-- `ROLE_SUPER_ADMIN`. -/
def roleSuperAdmin : String := "super_admin"

/-- `ROLE_ADMIN`. -/
def roleAdmin : String := "admin"

/-- `ROLE_OPERATOR`. -/
def roleOperator : String := "operator"

/-- `ROLE_VIEWER`. -/
def roleViewer : String := "viewer"

/-- `_ROLE_RANK.get(role, 0)`. -/
def roleRank (role : String) : Nat :=
  if role = roleSuperAdmin then 4
  else if role = roleAdmin then 3
  else if role = roleOperator then 2
  else if role = roleViewer then 1
  else 0

/-- `_role_satisfies`. -/
def roleSatisfies (have_ need : String) : Bool := roleRank need ≤ roleRank have_

/-- A role that is enough for a super admin's check is enough for a viewer's. -/
theorem roleSatisfies_viewer {role : String} (h : roleSatisfies role roleSuperAdmin) :
    roleSatisfies role roleViewer := by
  simp only [roleSatisfies, decide_eq_true_eq] at h ⊢
  have : roleRank roleViewer ≤ roleRank roleSuperAdmin := by decide
  exact Nat.le_trans this h

/-- `ALL_SCOPE_TYPES`. -/
inductive ScopeType where
  | global
  | site
  | group
  | device
deriving DecidableEq, Repr

/-- A row of `role_bindings`. -/
structure RoleBinding where
  userId : String
  scopeType : ScopeType
  scopeId : Option String
  role : String
  createdAt : Time
  updatedAt : Time
  createdByUserId : Option String
deriving DecidableEq, Repr

/-- The columns of a device that scopes are resolved with. -/
structure ScopedDevice where
  id : String
  siteId : Option String
deriving DecidableEq, Repr

/-- A row of `group_memberships`. -/
structure GroupMember where
  groupId : String
  deviceId : String
deriving DecidableEq, Repr

/-- The tables role bindings are resolved over; of sites and groups only the ids count. -/
structure Inventory where
  devices : List ScopedDevice
  sites : List String
  groups : List String
  groupMemberships : List GroupMember
  roleBindings : List RoleBinding
deriving DecidableEq, Repr

/-! ### Effective scopes -/

/-- `"ALL"`, or a set of ids. -/
inductive EffectiveScope where
  | all
  | some (ids : List String)
deriving DecidableEq, Repr

/-- `eff == ALL_SENTINEL or id in eff`. -/
def EffectiveScope.covers (eff : EffectiveScope) (id : String) : Bool :=
  match eff with
  | .all => true
  | .some ids => ids.contains id

/-- `select(RoleBinding).where(RoleBinding.user_id == user_id)`. -/
def Inventory.bindingsOf (h : Inventory) (userId : String) : List RoleBinding :=
  h.roleBindings.filter (·.userId = userId)

/-- `has_global_role`. -/
def Inventory.hasGlobalRole (h : Inventory) (userId roleNeeded : String) : Bool :=
  (h.bindingsOf userId).any fun b => b.scopeType = .global ∧ roleSatisfies b.role roleNeeded

/-- The scope ids of the user's bindings of one type at the role. -/
def Inventory.boundIds (h : Inventory) (userId : String) (scopeType : ScopeType)
    (roleNeeded : String) : List String :=
  (h.bindingsOf userId).filterMap fun b =>
    if b.scopeType = scopeType ∧ roleSatisfies b.role roleNeeded then b.scopeId else none

/-- `effective_site_ids`. -/
def Inventory.effectiveSiteIds (h : Inventory) (userId roleNeeded : String) : EffectiveScope :=
  if h.hasGlobalRole userId roleNeeded then .all else .some (h.boundIds userId .site roleNeeded)

/-- `effective_group_ids`. -/
def Inventory.effectiveGroupIds (h : Inventory) (userId roleNeeded : String) : EffectiveScope :=
  if h.hasGlobalRole userId roleNeeded then .all else .some (h.boundIds userId .group roleNeeded)

/-- `effective_device_ids`. -/
def Inventory.effectiveDeviceIds (h : Inventory) (userId roleNeeded : String) : EffectiveScope :=
  if h.hasGlobalRole userId roleNeeded then .all
  else
    let siteIds := h.boundIds userId .site roleNeeded
    let groupIds := h.boundIds userId .group roleNeeded
    let directDeviceIds := h.boundIds userId .device roleNeeded
    .some (directDeviceIds
      ++ (h.devices.filter fun d => d.siteId.any siteIds.contains).map (·.id)
      ++ (h.groupMemberships.filter fun m => groupIds.contains m.groupId).map (·.deviceId))

/-- `can_act_on_device`. -/
def Inventory.canActOnDevice (h : Inventory) (userId deviceId roleNeeded : String) : Bool :=
  (h.effectiveDeviceIds userId roleNeeded).covers deviceId

/-- `can_act_on_site`. -/
def Inventory.canActOnSite (h : Inventory) (userId siteId roleNeeded : String) : Bool :=
  (h.effectiveSiteIds userId roleNeeded).covers siteId

/-- `can_act_on_group`. -/
def Inventory.canActOnGroup (h : Inventory) (userId groupId roleNeeded : String) : Bool :=
  (h.effectiveGroupIds userId roleNeeded).covers groupId

/-! ### The gates -/

/-- `RbacScopeDenied`. -/
structure RbacScopeDenied where
  scopeType : ScopeType
  scopeId : String
  roleNeeded : String
  reason : String
deriving DecidableEq, Repr

/-- `rbac.enforce_mode`. -/
inductive EnforceMode where
  | shadow
  | enforce
deriving DecidableEq, Repr

/-- What `_is_super_admin` is called with: a user, or a text. -/
inductive Principal where
  | user (u : User)
  | text (s : String)
deriving DecidableEq, Repr

/-- `getattr(user, "role", None)`. -/
def Principal.role : Principal → Option String
  | .user u => some u.role
  | .text _ => none

/-- `getattr(user, "id", None)`. -/
def Principal.id : Principal → Option String
  | .user u => some u.id
  | .text _ => none

/-- `_is_super_admin`. -/
def Inventory.isSuperAdmin (h : Inventory) (p : Principal) : Bool :=
  p.role = some roleSuperAdmin ||
    (p.id.filter (· ≠ "")).any fun uid => h.hasGlobalRole uid roleSuperAdmin

/-- `_scope_gate`. -/
def scopeGate (mode : EnforceMode) (allowed : Bool) (scopeType : ScopeType)
    (scopeId roleNeeded : String) : Except RbacScopeDenied Unit :=
  if allowed then .ok ()
  else match mode with
    | .enforce => .error ⟨scopeType, scopeId, roleNeeded, "out_of_scope"⟩
    | .shadow => .ok ()

/-- What the gates share: nobody and a super admin pass, others by their bindings. -/
def Inventory.requireCanActOn (h : Inventory) (mode : EnforceMode) (scopeType : ScopeType)
    (canAct : String → String → String → Bool) (scopeId roleNeeded : String) (user : Option User) :
    Except RbacScopeDenied Unit :=
  match user with
  | none => .ok ()
  | some u =>
    if h.isSuperAdmin (.user u) then .ok ()
    else scopeGate mode (canAct u.id scopeId roleNeeded) scopeType scopeId roleNeeded

/-- `require_can_act_on_device`. -/
def Inventory.requireCanActOnDevice (h : Inventory) (mode : EnforceMode) :=
  h.requireCanActOn mode .device h.canActOnDevice

/-- `require_can_act_on_site`. -/
def Inventory.requireCanActOnSite (h : Inventory) (mode : EnforceMode) :=
  h.requireCanActOn mode .site h.canActOnSite

/-- `require_can_act_on_group`. -/
def Inventory.requireCanActOnGroup (h : Inventory) (mode : EnforceMode) :=
  h.requireCanActOn mode .group h.canActOnGroup

/-! ### What the bindings come to -/

/-- The user has a binding of the role on this scope. -/
def Inventory.Binds (h : Inventory) (userId roleNeeded : String) (scopeType : ScopeType)
    (scopeId : String) : Prop :=
  ∃ b ∈ h.roleBindings, b.userId = userId ∧ b.scopeType = scopeType ∧ b.scopeId = some scopeId ∧
    roleSatisfies b.role roleNeeded

/-- The user has a binding of the role on everything. -/
def Inventory.BindsGlobally (h : Inventory) (userId roleNeeded : String) : Prop :=
  ∃ b ∈ h.roleBindings, b.userId = userId ∧ b.scopeType = .global ∧ roleSatisfies b.role roleNeeded

/-- The user's bindings reach the device: its own, one of its site, or one of a group it is in. -/
def Inventory.BindsDevice (h : Inventory) (userId roleNeeded deviceId : String) : Prop :=
  h.Binds userId roleNeeded .device deviceId ∨
    (∃ d ∈ h.devices, d.id = deviceId ∧ ∃ s, d.siteId = some s ∧ h.Binds userId roleNeeded .site s) ∨
    ∃ m ∈ h.groupMemberships, m.deviceId = deviceId ∧ h.Binds userId roleNeeded .group m.groupId

section
variable {h : Inventory} {userId roleNeeded : String}

theorem hasGlobalRole_iff : h.hasGlobalRole userId roleNeeded ↔ h.BindsGlobally userId roleNeeded := by
  simp only [Inventory.hasGlobalRole, Inventory.bindingsOf, Inventory.BindsGlobally,
    List.any_eq_true, List.mem_filter, decide_eq_true_eq, Bool.decide_and, Bool.and_eq_true,
    Bool.decide_eq_true, and_assoc]

theorem mem_boundIds {scopeType : ScopeType} {id : String} :
    id ∈ h.boundIds userId scopeType roleNeeded ↔ h.Binds userId roleNeeded scopeType id := by
  simp only [Inventory.boundIds, Inventory.bindingsOf, Inventory.Binds, List.mem_filterMap,
    List.mem_filter, decide_eq_true_eq, and_assoc]
  refine exists_congr fun b => and_congr_right fun _ => and_congr_right fun _ => ?_
  split
  · next hb => simp [hb]
  · next hb =>
      refine iff_of_false (by simp) ?_
      rintro ⟨htype, -, hrole⟩
      exact hb ⟨htype, hrole⟩

/-- A scope that is not everything covers what is bound. -/
theorem covers_boundIds {scopeType : ScopeType} {id : String} :
    (if h.hasGlobalRole userId roleNeeded then EffectiveScope.all
      else .some (h.boundIds userId scopeType roleNeeded)).covers id ↔
    h.BindsGlobally userId roleNeeded ∨ h.Binds userId roleNeeded scopeType id := by
  rw [← hasGlobalRole_iff]
  split
  · next hglobal => exact iff_of_true rfl (.inl hglobal)
  · next hglobal =>
      rw [EffectiveScope.covers, List.contains_iff_mem, mem_boundIds]
      exact (or_iff_right hglobal).symm

theorem canActOnSite_iff {siteId : String} : h.canActOnSite userId siteId roleNeeded ↔
    h.BindsGlobally userId roleNeeded ∨ h.Binds userId roleNeeded .site siteId :=
  covers_boundIds

theorem canActOnGroup_iff {groupId : String} : h.canActOnGroup userId groupId roleNeeded ↔
    h.BindsGlobally userId roleNeeded ∨ h.Binds userId roleNeeded .group groupId :=
  covers_boundIds

theorem canActOnDevice_iff {deviceId : String} : h.canActOnDevice userId deviceId roleNeeded ↔
    h.BindsGlobally userId roleNeeded ∨ h.BindsDevice userId roleNeeded deviceId := by
  rw [Inventory.canActOnDevice, Inventory.effectiveDeviceIds, ← hasGlobalRole_iff]
  split
  · next hglobal => exact iff_of_true rfl (.inl hglobal)
  · next hglobal =>
      rw [or_iff_right hglobal]
      simp only [EffectiveScope.covers, List.contains_iff_mem, List.mem_append, List.mem_map,
        List.mem_filter, Option.any_eq_true, mem_boundIds, Inventory.BindsDevice, or_assoc,
        and_comm, and_left_comm]

/-- **The gate.**  In enforce mode a user passes as a super admin or by the bindings. -/
theorem requireCanActOn_enforce {scopeType : ScopeType} {canAct : String → String → String → Bool}
    {scopeId : String} {u : User} :
    h.requireCanActOn .enforce scopeType canAct scopeId roleNeeded (some u) = .ok () ↔
      h.isSuperAdmin (.user u) ∨ canAct u.id scopeId roleNeeded := by
  rw [Inventory.requireCanActOn, scopeGate]
  split
  · next hsuper => exact iff_of_true rfl (.inl hsuper)
  · next hsuper =>
      rw [or_iff_right hsuper]
      split
      · next hallowed => exact iff_of_true rfl hallowed
      · next hallowed => exact iff_of_false (by rintro ⟨⟩) hallowed

end

/-- A text is never a super admin. -/
theorem isSuperAdmin_text (h : Inventory) (s : String) : h.isSuperAdmin (.text s) = false := rfl

/-- A user is a super admin by the column of the row or by a global binding. -/
theorem isSuperAdmin_user {h : Inventory} {u : User} (hid : u.id ≠ "") :
    h.isSuperAdmin (.user u) ↔ u.role = roleSuperAdmin ∨ h.BindsGlobally u.id roleSuperAdmin := by
  simp only [Inventory.isSuperAdmin, Principal.role, Principal.id, Option.some_inj,
    Bool.or_eq_true, decide_eq_true_eq, Option.filter, hid, ne_eq, not_false_eq_true, decide_true,
    if_true, Option.any_some, hasGlobalRole_iff]

end RebooterHub.Auth
