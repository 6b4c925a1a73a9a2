import Mathlib.Tactic.Tauto
import RebooterHub.Auth.RoleBindings

/-!
# Auth — List filters

The lists of devices, groups and sites a user is shown, and the gates on one of them.

The filters expand the same bindings as the gates do, but ask whether the user is a super admin
with the user's id in the user's place, so that nobody is one for them.

* `mem_filterDevices_iff`, `mem_filterGroups_iff` and `mem_filterSites_iff`: what a list shows in
  enforce mode.
* `listAndGateAgree_iff`: lists and gates agree unless the user's own column says super admin and
  the bindings leave something out.
-/

namespace RebooterHub.Auth

/-- A user as stored: the id of a row is never empty. -/
abbrev StoredUser := {u : User // u.id ≠ ""}

/-- `role_needed or ROLE_VIEWER`. -/
def roleOrViewer (roleNeeded : String) : String :=
  if roleNeeded = "" then roleViewer else roleNeeded

/-- The mode `apply_device_scope_filter` reports. -/
inductive FilterMode where
  | none
  | bypass
  | of (mode : EnforceMode)
deriving DecidableEq, Repr

/-- The metadata of `apply_device_scope_filter`. -/
structure FilterMeta where
  mode : FilterMode
  filtered : Bool
  scope : EffectiveScope
deriving DecidableEq, Repr

/-- `apply_device_scope_filter`: the condition put on the statement, and the metadata. -/
def Inventory.applyDeviceScopeFilter (h : Inventory) (mode : EnforceMode) (userId : Option String)
    (roleNeeded : String) : (ScopedDevice → Bool) × FilterMeta :=
  match userId.filter (· ≠ "") with
  | none => (fun _ => true, ⟨.none, false, .all⟩)
  | some userId =>
    if h.isSuperAdmin (.text userId) then (fun _ => true, ⟨.bypass, false, .all⟩)
    else match h.effectiveDeviceIds userId (roleOrViewer roleNeeded) with
      | .all => (fun _ => true, ⟨.of mode, false, .all⟩)
      | .some scope => (fun d => scope.contains d.id, ⟨.of mode, true, .some scope⟩)

/-- `filter_devices_with_shadow_logging`, on the rows of the statement. -/
def Inventory.filterDevices (h : Inventory) (mode : EnforceMode) (roleNeeded : String)
    (currentUser : Option User) (rows : List ScopedDevice) : List ScopedDevice :=
  let (condition, found) := h.applyDeviceScopeFilter mode (currentUser.map (·.id)) roleNeeded
  if !found.filtered then rows
  else if found.mode = .of .enforce then rows.filter condition
  else rows

/-- What `filter_groups_with_shadow_logging` and `filter_sites_with_shadow_logging` share. -/
def Inventory.filterIds (h : Inventory) (mode : EnforceMode)
    (effective : String → String → EffectiveScope) (roleNeeded : String)
    (currentUser : Option User) (rows : List String) : List String :=
  match (currentUser.map (·.id)).filter (· ≠ "") with
  | none => rows
  | some userId =>
    if h.isSuperAdmin (.text userId) then rows
    else match effective userId (roleOrViewer roleNeeded), mode with
      | .all, _ => rows
      | .some scope, .enforce => rows.filter scope.contains
      | .some _, .shadow => rows

/-- `filter_groups_with_shadow_logging`. -/
def Inventory.filterGroups (h : Inventory) (mode : EnforceMode) :=
  h.filterIds mode h.effectiveGroupIds

/-- `filter_sites_with_shadow_logging`. -/
def Inventory.filterSites (h : Inventory) (mode : EnforceMode) :=
  h.filterIds mode h.effectiveSiteIds

/-! ### What the lists show -/

section
variable {h : Inventory} {u : StoredUser} {roleNeeded : String}

theorem stored_id (u : StoredUser) :
    ((some u.1).map User.id).filter (· ≠ "") = some u.1.id := by
  simp [Option.filter, u.2]

/-- A row is listed when its scope covers it. -/
theorem mem_filterIds_enforce {effective : String → String → EffectiveScope} {rows : List String}
    {id : String} : id ∈ h.filterIds .enforce effective roleNeeded (some u.1) rows ↔
      id ∈ rows ∧ (effective u.1.id (roleOrViewer roleNeeded)).covers id := by
  simp only [Inventory.filterIds, stored_id, isSuperAdmin_text, Bool.false_eq_true, if_false]
  cases effective u.1.id (roleOrViewer roleNeeded) with
  | all => simp [EffectiveScope.covers]
  | some scope => simp [EffectiveScope.covers]

theorem mem_filterDevices_enforce {rows : List ScopedDevice} {d : ScopedDevice} :
    d ∈ h.filterDevices .enforce roleNeeded (some u.1) rows ↔
      d ∈ rows ∧ h.canActOnDevice u.1.id d.id (roleOrViewer roleNeeded) := by
  simp only [Inventory.filterDevices, Inventory.applyDeviceScopeFilter, stored_id,
    isSuperAdmin_text, Bool.false_eq_true, if_false, Inventory.canActOnDevice]
  cases h.effectiveDeviceIds u.1.id (roleOrViewer roleNeeded) with
  | all => simp [EffectiveScope.covers]
  | some scope => simp [EffectiveScope.covers]

/-- **The device list.**  It shows what the bindings reach. -/
theorem mem_filterDevices_iff {d : ScopedDevice} (hd : d ∈ h.devices) :
    d ∈ h.filterDevices .enforce roleViewer (some u.1) h.devices ↔
      h.BindsGlobally u.1.id roleViewer ∨ h.BindsDevice u.1.id roleViewer d.id := by
  rw [mem_filterDevices_enforce, and_iff_right hd]
  exact canActOnDevice_iff

/-- **The group list.** -/
theorem mem_filterGroups_iff {g : String} (hg : g ∈ h.groups) :
    g ∈ h.filterGroups .enforce roleViewer (some u.1) h.groups ↔
      h.BindsGlobally u.1.id roleViewer ∨ h.Binds u.1.id roleViewer .group g := by
  rw [Inventory.filterGroups, mem_filterIds_enforce, and_iff_right hg]
  exact canActOnGroup_iff

/-- **The site list.** -/
theorem mem_filterSites_iff {s : String} (hs : s ∈ h.sites) :
    s ∈ h.filterSites .enforce roleViewer (some u.1) h.sites ↔
      h.BindsGlobally u.1.id roleViewer ∨ h.Binds u.1.id roleViewer .site s := by
  rw [Inventory.filterSites, mem_filterIds_enforce, and_iff_right hs]
  exact canActOnSite_iff

end

/-! ### Lists and gates -/

/-- A user is shown exactly what the gates let the user act on. -/
def Inventory.ListAndGateAgree (h : Inventory) (u : StoredUser) : Prop :=
  (∀ d ∈ h.devices, d ∈ h.filterDevices .enforce roleViewer (some u.1) h.devices ↔
      h.requireCanActOnDevice .enforce d.id roleViewer (some u.1) = .ok ()) ∧
    (∀ s ∈ h.sites, s ∈ h.filterSites .enforce roleViewer (some u.1) h.sites ↔
      h.requireCanActOnSite .enforce s roleViewer (some u.1) = .ok ()) ∧
    ∀ g ∈ h.groups, g ∈ h.filterGroups .enforce roleViewer (some u.1) h.groups ↔
      h.requireCanActOnGroup .enforce g roleViewer (some u.1) = .ok ()

/-- The user's bindings reach every device, site and group. -/
def Inventory.BindsEverything (h : Inventory) (userId roleNeeded : String) : Prop :=
  h.BindsGlobally userId roleNeeded ∨
    (∀ d ∈ h.devices, h.BindsDevice userId roleNeeded d.id) ∧
    (∀ s ∈ h.sites, h.Binds userId roleNeeded .site s) ∧
    ∀ g ∈ h.groups, h.Binds userId roleNeeded .group g

/-- A global binding of a super admin is one of a viewer. -/
theorem Inventory.BindsGlobally.viewer {h : Inventory} {userId : String}
    (hb : h.BindsGlobally userId roleSuperAdmin) : h.BindsGlobally userId roleViewer := by
  obtain ⟨b, hmem, huser, htype, hrole⟩ := hb
  exact ⟨b, hmem, huser, htype, roleSatisfies_viewer hrole⟩

/-- The gates of a user, by the column and the bindings. -/
theorem requireCanActOn_iff {h : Inventory} {u : StoredUser} {scopeType : ScopeType}
    {canAct : String → String → String → Bool} {id : String} {reached : Prop}
    (hcan : canAct u.1.id id roleViewer ↔ h.BindsGlobally u.1.id roleViewer ∨ reached) :
    h.requireCanActOn .enforce scopeType canAct id roleViewer (some u.1) = .ok () ↔
      u.1.role = roleSuperAdmin ∨ h.BindsGlobally u.1.id roleViewer ∨ reached := by
  rw [requireCanActOn_enforce, isSuperAdmin_user u.2, hcan]
  constructor
  · rintro ((hrole | hglobal) | hreached)
    · exact .inl hrole
    · exact .inr (.inl hglobal.viewer)
    · exact .inr hreached
  · rintro (hrole | hreached)
    · exact .inl (.inl hrole)
    · exact .inr hreached

/-- A list shows what a gate accepts, unless the column says super admin and nothing else does. -/
theorem agree_iff {h : Inventory} {u : StoredUser} {scopeType : ScopeType}
    {canAct : String → String → String → Bool} {id : String} {listed reached : Prop}
    (hlist : listed ↔ h.BindsGlobally u.1.id roleViewer ∨ reached)
    (hcan : canAct u.1.id id roleViewer ↔ h.BindsGlobally u.1.id roleViewer ∨ reached) :
    (listed ↔ h.requireCanActOn .enforce scopeType canAct id roleViewer (some u.1) = .ok ()) ↔
      u.1.role ≠ roleSuperAdmin ∨ h.BindsGlobally u.1.id roleViewer ∨ reached := by
  rw [hlist, requireCanActOn_iff hcan]
  tauto

/-- **Lists and gates.**  They agree exactly when the user's own column does not say super admin or
the bindings leave nothing out. -/
theorem listAndGateAgree_iff (h : Inventory) (u : StoredUser) :
    h.ListAndGateAgree u ↔
      u.1.role ≠ roleSuperAdmin ∨ h.BindsEverything u.1.id roleViewer := by
  have hdevices : ∀ d ∈ h.devices,
      ((d ∈ h.filterDevices .enforce roleViewer (some u.1) h.devices ↔
        h.requireCanActOnDevice .enforce d.id roleViewer (some u.1) = .ok ()) ↔ _) :=
    fun d hd => agree_iff (mem_filterDevices_iff hd) canActOnDevice_iff
  have hsites : ∀ s ∈ h.sites,
      ((s ∈ h.filterSites .enforce roleViewer (some u.1) h.sites ↔
        h.requireCanActOnSite .enforce s roleViewer (some u.1) = .ok ()) ↔ _) :=
    fun s hs => agree_iff (mem_filterSites_iff hs) canActOnSite_iff
  have hgroups : ∀ g ∈ h.groups,
      ((g ∈ h.filterGroups .enforce roleViewer (some u.1) h.groups ↔
        h.requireCanActOnGroup .enforce g roleViewer (some u.1) = .ok ()) ↔ _) :=
    fun g hg => agree_iff (mem_filterGroups_iff hg) canActOnGroup_iff
  rw [Inventory.ListAndGateAgree, forall₂_congr hdevices, forall₂_congr hsites,
    forall₂_congr hgroups, Inventory.BindsEverything]
  by_cases hcolumn : u.1.role = roleSuperAdmin
  · by_cases hglobal : h.BindsGlobally u.1.id roleViewer <;> simp [hcolumn, hglobal]
  · simp [hcolumn]

/-- The founder, made super admin in the column, without any binding. -/
def founder : StoredUser :=
  ⟨⟨"u", "root@hub", "", "root", true, roleSuperAdmin, 0, 0, none⟩, by decide⟩

/-- A hub with one device, one site and one group. -/
def smallHub : Inventory := ⟨[⟨"d", some "s"⟩], ["s"], ["g"], [⟨"g", "d"⟩], []⟩

/-- The founder may act on the device and is not shown it. -/
theorem founder_disagrees : ¬smallHub.ListAndGateAgree founder := by
  rintro ⟨hdevices, -⟩
  exact absurd ((hdevices ⟨"d", some "s"⟩ (by decide)).mpr rfl) (by decide)

end RebooterHub.Auth
