import RebooterHub.Commands.Queue
import RebooterHub.Sync.Emission

/-!
# Sync — Services

What the service functions set on a row of a syncable model.

A service that changes a row moves its `updated_at` in the same transaction (`touch`); the command
path, which flips a device's hold-off flag, does not (`holdOffChange`).  `update_device` has the
checks of its patch before it; what the other services check is no matter of the row.
-/

namespace RebooterHub.Sync

/-- What `update_device` raises. -/
inductive PatchError where
  | unknownPatchField (fields : List String)
  | siteScope (subtype message : String)
  | powerTopology (subtype message : String)
  /-- The database compares a key with a value of another type. -/
  | programming
deriving DecidableEq, Repr

/-- A change that moves `updated_at`. -/
def touch (now : Time) (changes : Payload) : Payload :=
  Function.update changes .updatedAt (some (.datetime now))

/-! ### Devices -/

/-- `_PATCHABLE`, without the validators. -/
def patchable : List (String × Column) :=
  [("display_name", .displayName), ("site_id", .siteId), ("notes", .notes),
    ("central_management_enabled", .centralManagementEnabled), ("is_protected", .isProtected),
    ("power_source_device_id", .powerSourceDeviceId)]

/-- `_validate_site_id`. -/
def validateSiteId (h : Hub) (scope : Scope) : Json → Except PatchError Json
  | .null | .str "" => .ok .null
  | .str site => match h.get scope .site site with
    | some _ => .ok (.str site)
    | none => .error (.siteScope "missing"
        ("Selected site no longer exists (id=" ++ site ++ ")."))
  | _ => .error .programming

/-- `parent.display_name or parent.id`. -/
def deviceLabel (row : Row) : String :=
  match row .displayName, row .id with
  | .text name, .text id => if name = "" then id else name
  | _, .text id => id
  | _, _ => ""

/-- The walk up the power sources from `parent`, now at `cur`: the device must not be met, and the
walk has to end within the hops that are left. -/
def walkPowerSources (h : Hub) (scope : Scope) (deviceId : String) (parent : Row) :
    Nat → Row → Except PatchError Unit
  | 0, _ => .error (.powerTopology "cycle"
      "Power-source chain exceeds 50 hops — refusing to extend a likely-corrupt graph.")
  | hops + 1, cur =>
    if cur .id = .text deviceId then
      .error (.powerTopology "cycle" ("Assignment would create a power-source cycle through "
        ++ deviceLabel parent ++ "."))
    else match cur .powerSourceDeviceId with
      | .text source => match h.get scope .device source with
        | some row => walkPowerSources h scope deviceId parent hops row
        | none => .ok ()
      | _ => .ok ()

/-- `_validate_power_source_device_id`. -/
def validatePowerSourceDeviceId (h : Hub) (scope : Scope) (deviceId : String) :
    Json → Except PatchError Json
  | .null => .ok .null
  | .str source =>
    if source = deviceId then
      .error (.powerTopology "self_parent" "A device cannot be powered by itself.")
    else match h.get scope .device source with
      | none => .error (.powerTopology "parent_missing"
          ("Selected power source no longer exists (id=" ++ source ++ ")."))
      | some parent =>
        (walkPowerSources h scope deviceId parent 50 parent).map fun _ => .str source
  | _ => .error .programming

/-- The validator of a patchable column. -/
def validator (h : Hub) (scope : Scope) (deviceId : String) : Column → Json → Except PatchError Json
  | .siteId => validateSiteId h scope
  | .powerSourceDeviceId => validatePowerSourceDeviceId h scope deviceId
  | _ => .ok

/-- The patch by its columns, each value as its validator gives it. -/
def normalize (h : Hub) (scope : Scope) (deviceId : String) :
    List (Column × Json) → Except PatchError (List (Column × Json))
  | [] => .ok []
  | (c, v) :: patch => match validator h scope deviceId c v with
    | .error x => .error x
    | .ok v => (normalize h scope deviceId patch).map ((c, v) :: ·)

/-- `_apply_patch`: what it sets on the device.  `updated_at` moves where a value changes. -/
def applyPatch (now : Time) (h : Hub) (scope : Scope) (deviceId : String) (device : Row)
    (patch : List (Column × Json)) : Except PatchError Payload :=
  (normalize h scope deviceId patch).map fun normalized =>
    if normalized.any fun p => device p.1 ≠ .json p.2 then
      touch now fun c => (normalized.lookup c).map Value.json
    else fun _ => none

/-- `update_device`, up to the write it ends with; no write where there is no device. -/
def updateDevice (now : Time) (h : Hub) (scope : Scope) (deviceId : String)
    (patch : List (String × Json)) : Except PatchError (Option LocalOp) :=
  let unknown := (patch.map Prod.fst).filter fun k => (patchable.lookup k).isNone
  if unknown ≠ [] then .error (.unknownPatchField unknown)
  else match h.get scope .device deviceId with
    | none => .ok none
    | some device =>
      (applyPatch now h scope deviceId device
        (patch.filterMap fun p => (patchable.lookup p.1).map fun c => (c, p.2))).map
          fun changes => some (.update .device deviceId changes)

/-- `merge_retire_device`, of the device that retires. -/
def mergeRetireDevice (now : Time) : Payload := touch now fun
  | .registrationState => some (.text "decommissioned")
  | _ => none

/-- `set_desired_config`: an empty configuration is stored as `None`, and a mode only if given. -/
def setDesiredConfig (now : Time) (config : Json) (desiredMode : Option String) : Payload :=
  touch now fun
    | .desiredConfig => some (.json (if config.truthy then config else .null))
    | .desiredMode => desiredMode.map Value.text
    | .desiredConfigUpdatedAt => some (.datetime now)
    | _ => none

/-- `enqueue_for_device`, of the device: its hold-off flag. -/
def holdOffChange (cmdType : String) (setHoldOff : Bool) (device : Row) : Payload :=
  if setHoldOff then fun
    | .isHeldOff => some (.bool true)
    | _ => none
  else if cmdType ∈ Commands.powerOnTypes ∧ (device .isHeldOff).truthy then fun
    | .isHeldOff => some (.bool false)
    | _ => none
  else fun _ => none

/-! ### Users -/

/-- `update_user_role`. -/
def updateUserRole (now : Time) (role : String) : Payload := touch now fun
  | .role => some (.text role)
  | .isSuperAdmin => some (.bool (role = "super_admin"))
  | .isAdmin => some (.bool (role ≠ "viewer"))
  | _ => none

/-- `deactivate_user`. -/
def deactivateUser (now : Time) : Payload := touch now fun
  | .isActive => some (.bool false)
  | .tokensValidAfter => some (.datetime now)
  | _ => none

/-- `revoke_all_tokens`. -/
def revokeAllTokens (now : Time) : Payload := touch now fun
  | .tokensValidAfter => some (.datetime now)
  | _ => none

/-- `update_user_display_name`. -/
def updateUserDisplayName (now : Time) (displayName : String) : Payload := touch now fun
  | .displayName => some (.text displayName)
  | _ => none

/-- `change_own_password`, and the use of a password reset. -/
def changeOwnPassword (now : Time) (passwordHash : String) : Payload := touch now fun
  | .passwordHash => some (.text passwordHash)
  | .tokensValidAfter => some (.datetime now)
  | _ => none

/-! ### What they do to `updated_at` -/

variable {now : Time} {changes : Payload} {row : Row} {h : Hub} {scope : Scope} {deviceId : String}

/-- A touched row carries the instant of the change. -/
@[simp] theorem stamp_touch (now : Time) (changes : Payload) (row : Row) :
    (updatedRow row (touch now changes)).stamp = now := by
  simp [Row.stamp, updatedRow, touch]

/-- The command path leaves `updated_at` as it was. -/
@[simp] theorem stamp_holdOffChange (cmdType : String) (setHoldOff : Bool) :
    (updatedRow row (holdOffChange cmdType setHoldOff row)).stamp = row.stamp := by
  have hnone : holdOffChange cmdType setHoldOff row .updatedAt = none := by
    unfold holdOffChange
    split
    · rfl
    split
    · rfl
    · rfl
  simp [Row.stamp, updatedRow, hnone]

/-- What the command path does to the flag of the row is what it does to that of the device. -/
theorem isHeldOff_holdOffChange (cmdType : String) (setHoldOff b : Bool)
    (hb : row .isHeldOff = .bool b) :
    updatedRow row (holdOffChange cmdType setHoldOff row) .isHeldOff =
      .bool (Commands.holdOffAfter cmdType setHoldOff b) := by
  unfold updatedRow holdOffChange Commands.holdOffAfter
  rw [hb]
  cases setHoldOff with
  | true => rfl
  | false =>
    cases b with
    | false => simp [Value.truthy, Json.truthy]
    | true =>
      by_cases hc : cmdType ∈ Commands.powerOnTypes
      · simp [Value.truthy, Json.truthy, hc]
      · simp [hc]

/-- An update of a device sets nothing, or moves `updated_at`. -/
theorem updateDevice_ok {patch : List (String × Json)} {op : LocalOp}
    (hu : updateDevice now h scope deviceId patch = .ok (some op)) :
    ∃ changes, op = .update .device deviceId changes ∧
      (changes = (fun _ => none) ∨ ∃ set, changes = touch now set) := by
  unfold updateDevice at hu
  dsimp only at hu
  split at hu
  · cases hu
  split at hu
  · cases hu
  case _ device _ =>
  unfold applyPatch at hu
  revert hu
  generalize normalize h scope deviceId _ = normalized
  intro hu
  cases normalized with
  | error x => cases hu
  | ok normalized =>
    cases hu
    refine ⟨_, rfl, ?_⟩
    dsimp only
    split
    · exact .inr ⟨_, rfl⟩
    · exact .inl rfl

end RebooterHub.Sync
