import Mathlib.Data.List.Dedup
import RebooterHub.Firmware.Deployments

/-!
# Firmware — MassAction

The confirmation gate of `services/mass_action` before a firmware deployment, and the two routes
that ask it: `firmware_deploy_submit` for the form and `create_firmware_deployment` for the API.

The gate is asked with a count of devices, which the routes take by the kind of target, and
`create_deployment` then expands the target anew.

* `gate_counts_iff`: the count is that of the devices that get an assignment exactly if, for the
  whole fleet, every device is active and, for a site, the site has one device.
-/

namespace RebooterHub.Firmware

/-- The devices, groups and releases, with each device's `registration_state`. -/
structure Fleet extends Registry where
  registrationState : String → String

/-! ### The gate -/

/-- `SIMPLE_THRESHOLD`. -/
def simpleThreshold : Nat := 5

/-- `TYPED_THRESHOLD`. -/
def typedThreshold : Nat := 20

/-- The exception of the gate. -/
structure ConfirmationRequired where
  targetCount : Nat
  requiredLevel : String
  expectedTypedValue : Option String
deriving DecidableEq

/-- The text of the exception. -/
def ConfirmationRequired.message (e : ConfirmationRequired) : String :=
  "mass action affects " ++ toString e.targetCount ++ " devices and requires " ++
    "confirmation_level='" ++ e.requiredLevel ++ "'" ++
    match e.expectedTypedValue with
    | none => ""
    | some v => if v = "" then "" else " with confirmation_typed_value='" ++ v ++ "'"

/-- `required_level`. -/
def requiredLevel (targetCount : Nat) : String :=
  if typedThreshold < targetCount then "typed"
  else if simpleThreshold < targetCount then "simple"
  else "none"

/-- `validate`. -/
def validate (targetCount : Nat) (expectedTypedValue : String)
    (confirmationLevel confirmationTypedValue : Option String) : Except ConfirmationRequired Unit :=
  let needed := requiredLevel targetCount
  if needed = "none" then .ok ()
  else if needed = "simple" then
    if confirmationLevel = some "simple" ∨ confirmationLevel = some "typed" then .ok ()
    else .error ⟨targetCount, "simple", none⟩
  else if confirmationLevel = some "typed" ∧ confirmationTypedValue = some expectedTypedValue then
    .ok ()
  else .error ⟨targetCount, "typed", some expectedTypedValue⟩

/-- `count_group_members`. -/
def countGroupMembers (f : Fleet) (groupId : String) : Nat :=
  f.memberships.countP (·.1 = groupId)

/-- `count_all_active_devices`. -/
def countAllActiveDevices (f : Fleet) : Nat :=
  f.devices.countP fun d => f.registrationState d.1 = "active"

/-- The `target_count` of both routes. -/
def targetCount (f : Fleet) (targetType : String) (targetId : Option String) : Nat :=
  if targetType = "all_devices" then countAllActiveDevices f
  else if targetType = "group" ∧ ¬ falsy targetId then countGroupMembers f (targetId.getD "")
  else 1

/-! ### The routes -/

/-- `(s or "").strip()`. -/
def strippedField (s : Option String) : String := Text.stripped (s.getD "")

/-- `s or None`. -/
def orNone (s : String) : Option String := if s = "" then none else some s

/-- What the audit record of an issued deployment says, and the tables after it. -/
structure Issued where
  tables : Rollouts
  created : Created
  releaseId : String
  targetType : String
  targetId : Option String
  targetCount : Nat
  force : Bool
  confirmationLevel : String

/-- The submitted form. -/
structure DeploymentForm where
  releaseId : Option String
  targetType : Option String
  targetId : Option String
  force : Bool
  confirmationLevel : Option String
  confirmationTypedValue : Option String

/-- How the form's route ends. -/
inductive FormResult where
  | aborted (status : Nat)
  | flashed (message : String)
  | failed
  | redirected (issued : Issued)

/-- The `target_id` of a form. -/
def DeploymentForm.target (form : DeploymentForm) : Option String :=
  if strippedField form.targetType = "all_devices" then none
  else orNone (strippedField form.targetId)

/-- `firmware_deploy_submit`. -/
def firmwareDeploySubmit (f : Fleet) (t : Rollouts) (now : Time) (row : RowDefaults)
    (newRow : Nat → RowDefaults) (userId : String) (form : DeploymentForm) : FormResult :=
  let releaseId := strippedField form.releaseId
  let targetType := strippedField form.targetType
  if releaseId = "" ∨ targetType = "" then .aborted 400
  else
    let count := targetCount f targetType form.target
    match validate count "deploy_firmware" form.confirmationLevel form.confirmationTypedValue with
    | .error e => .flashed ("Firmware deployment requires confirmation: " ++ toString count ++
        " devices would be affected. (required level: " ++ e.requiredLevel ++ ")")
    | .ok () =>
      match createDeployment f.toRegistry t now row newRow
        ⟨releaseId, targetType, form.target, none, form.force, some userId⟩ with
      | .error .integrity => .failed
      | .error _ => .aborted 400
      | .ok (t', c) => .redirected
          ⟨t', c, releaseId, targetType, form.target, count, form.force, requiredLevel count⟩

/-- The body of an API request, its fields being texts. -/
structure DeploymentBody where
  releaseId : Option String
  version : Option String
  targetType : Option String
  targetId : Option String
  channel : Option String
  force : Bool
  confirmationLevel : Option String
  confirmationTypedValue : Option String

/-- The `release_id` of a body. -/
def DeploymentBody.release (body : DeploymentBody) : String :=
  strippedField (if falsy body.releaseId then body.version else body.releaseId)

/-- How the API's route ends. -/
inductive ApiResult where
  | err (code message : String) (status : Nat) (extra : Option ConfirmationRequired)
  | failed
  | created (issued : Issued)

/-- `create_firmware_deployment`. -/
def createFirmwareDeployment (f : Fleet) (t : Rollouts) (now : Time) (row : RowDefaults)
    (newRow : Nat → RowDefaults) (userId : String) (body : DeploymentBody) : ApiResult :=
  let releaseId := body.release
  if releaseId = "" then .err "validation_failed" "release_id is required" 400 none
  else
    let targetType := strippedField body.targetType
    let count := targetCount f targetType body.targetId
    match validate count "deploy_firmware" body.confirmationLevel body.confirmationTypedValue with
    | .error e => .err "confirmation_required" e.message 409 (some e)
    | .ok () =>
      match createDeployment f.toRegistry t now row newRow
        ⟨releaseId, targetType, body.targetId, body.channel, body.force, some userId⟩ with
      | .error (.value message) => .err "validation_failed" message 400 none
      | .error (.lookup _) => .err "not_found" "Release or target not found." 404 none
      | .error .integrity => .failed
      | .ok (t', c) => .created
          ⟨t', c, releaseId, targetType, body.targetId, count, body.force, requiredLevel count⟩

/-! ### The devices a deployment hits -/

/-- The devices of the assignments that are in the second tables and not in the first. -/
def assignedDevices (before after : Rollouts) : List String :=
  ((after.assignments.filter (·.id ∉ before.assignments.map (·.id))).map (·.deviceId)).dedup

/-- The count of the routes sees every device of the target. -/
def CountsTarget (f : Fleet) (targetType : String) (targetId : Option String) : Prop :=
  (targetType = "all_devices" → ∀ d ∈ f.devices, f.registrationState d.1 = "active") ∧
    (targetType = "site" → f.devices.countP (·.2 = targetId) = 1)

instance (f : Fleet) (targetType : String) (targetId : Option String) :
    Decidable (CountsTarget f targetType targetId) :=
  inferInstanceAs (Decidable (_ ∧ _))

section
variable {f : Fleet} {t : Rollouts} {now : Time} {row : RowDefaults} {newRow : Nat → RowDefaults}

theorem assignedDevices_createDeployment {a : DeploymentArgs} {r : Rollouts × Created}
    (h : createDeployment f.toRegistry t now row newRow a = .ok r) :
    assignedDevices t r.1 = r.2.targets := by
  obtain ⟨-, -, htargets, hids, hrows⟩ := createDeployment_eq_ok h
  have hold : (t.assignments.map (supersede now r.2.targets)).map (·.id) =
      t.assignments.map (·.id) := map_ids fun a _ => supersede_progress now _ a
  rw [hrows, List.map_append, hold] at hids
  -- the superseded rows keep their ids, and the new ones have none of these
  have hkept : (t.assignments.map (supersede now r.2.targets)).filter
      (·.id ∉ t.assignments.map (·.id)) = [] := by
    refine List.filter_eq_nil_iff.mpr fun b hb => ?_
    have hid := List.mem_map_of_mem (f := fun b => b.id) hb
    rw [hold] at hid
    simpa using hid
  have hnew : (pendingAssignments r.2.deployment newRow t.assignments.length
      r.2.targets).filter (·.id ∉ t.assignments.map (·.id)) = pendingAssignments
        r.2.deployment newRow t.assignments.length r.2.targets := by
    refine List.filter_eq_self.mpr fun b hb => ?_
    have hid := fun hmem =>
      List.disjoint_of_nodup_append hids hmem (List.mem_map_of_mem hb)
    simpa using hid
  rw [assignedDevices, hrows, List.filter_append, hkept, hnew, List.nil_append,
    pendingAssignments_deviceIds, List.dedup_eq_self.mpr (targetDevices_nodup htargets)]

/-- The count of a target and the devices it expands to. -/
theorem targetCount_eq_iff {a : DeploymentArgs} {dids : List String}
    (htype : a.targetType ∈ allowedTargetTypes)
    (hid : a.targetType ≠ "all_devices" → falsy a.targetId = false)
    (h : targetDevices f.toRegistry a = .ok dids) :
    targetCount f a.targetType a.targetId = dids.length ↔
      CountsTarget f a.targetType a.targetId := by
  have hcases : a.targetType = "device" ∨ a.targetType = "group" ∨ a.targetType = "site" ∨
      a.targetType = "all_devices" := by simpa [allowedTargetTypes] using htype
  rw [targetDevices] at h
  rcases hcases with ht | ht | ht | ht
  · -- a device counts as one, and is one
    rw [if_pos ht] at h
    split at h
    · cases h
    · obtain rfl := Except.ok.inj h
      simp [targetCount, CountsTarget, ht]
  · -- the members are counted by the query that expands the group
    obtain ⟨groupId, hgroup⟩ : ∃ groupId, a.targetId = some groupId := by
      cases hnone : a.targetId with
      | none => simp [hnone, falsy, ht] at hid
      | some groupId => exact ⟨groupId, rfl⟩
    have hcount : targetCount f a.targetType a.targetId = countGroupMembers f groupId := by
      have hsome : groupId ≠ "" := by simpa [hgroup, falsy, ht] using hid
      simp [targetCount, ht, hgroup, falsy, hsome]
    rw [if_neg (by simp [ht]), if_pos ht] at h
    obtain rfl := Except.ok.inj h
    rw [hcount, hgroup]
    simp [CountsTarget, ht, countGroupMembers, List.countP_eq_length_filter]
  · -- a site counts as one
    have hcount : targetCount f a.targetType a.targetId = 1 := by simp [targetCount, ht]
    rw [if_neg (by simp [ht]), if_neg (by simp [ht]), if_pos ht] at h
    obtain rfl := Except.ok.inj h
    rw [hcount, List.length_map, ← List.countP_eq_length_filter]
    simp [CountsTarget, ht, eq_comm]
  · -- the fleet is expanded whatever the state of its devices
    have hcount : targetCount f a.targetType a.targetId = countAllActiveDevices f := if_pos ht
    rw [if_neg (by simp [ht]), if_neg (by simp [ht]), if_neg (by simp [ht])] at h
    obtain rfl := Except.ok.inj h
    rw [hcount, List.length_map, countAllActiveDevices, List.countP_eq_length]
    simp [CountsTarget, ht]

/-- What the form's route did when it issued a deployment. -/
theorem firmwareDeploySubmit_redirected {userId : String} {form : DeploymentForm}
    {issued : Issued}
    (h : firmwareDeploySubmit f t now row newRow userId form = .redirected issued) :
    issued.targetCount = targetCount f issued.targetType issued.targetId ∧
      validate issued.targetCount "deploy_firmware" form.confirmationLevel
        form.confirmationTypedValue = .ok () ∧
      createDeployment f.toRegistry t now row newRow
        ⟨issued.releaseId, issued.targetType, issued.targetId, none, form.force, some userId⟩ =
          .ok (issued.tables, issued.created) := by
  simp only [firmwareDeploySubmit] at h
  split at h
  · cases h
  · split at h
    · cases h
    · next hvalid =>
        split at h
        · cases h
        · cases h
        · next hcreated =>
            cases h
            dsimp only
            exact ⟨rfl, hvalid, hcreated⟩

/-- What the API's route did when it issued a deployment. -/
theorem createFirmwareDeployment_created {userId : String} {body : DeploymentBody}
    {issued : Issued}
    (h : createFirmwareDeployment f t now row newRow userId body = .created issued) :
    issued.targetCount = targetCount f issued.targetType issued.targetId ∧
      validate issued.targetCount "deploy_firmware" body.confirmationLevel
        body.confirmationTypedValue = .ok () ∧
      createDeployment f.toRegistry t now row newRow
        ⟨issued.releaseId, issued.targetType, issued.targetId, body.channel, body.force,
          some userId⟩ = .ok (issued.tables, issued.created) := by
  simp only [createFirmwareDeployment] at h
  split at h
  · cases h
  · split at h
    · cases h
    · next hvalid =>
        split at h
        · cases h
        · cases h
        · cases h
        · next hcreated =>
            cases h
            dsimp only
            exact ⟨rfl, hvalid, hcreated⟩

theorem count_iff_of_created {a : DeploymentArgs} {r : Rollouts × Created}
    (h : createDeployment f.toRegistry t now row newRow a = .ok r) :
    targetCount f a.targetType a.targetId = (assignedDevices t r.1).length ↔
      CountsTarget f a.targetType a.targetId := by
  obtain ⟨htype, hid, htargets, -, -⟩ := createDeployment_eq_ok h
  rw [assignedDevices_createDeployment h]
  exact targetCount_eq_iff htype hid htargets

end

/-- **What the gate counts.**  When a route has issued a deployment, the count it asked the gate
with is the number of devices that got an assignment exactly if the count sees the target. -/
theorem gate_counts_iff (f : Fleet) (t : Rollouts) (now : Time) (row : RowDefaults)
    (newRow : Nat → RowDefaults) (userId : String) :
    (∀ form issued,
      firmwareDeploySubmit f t now row newRow userId form = .redirected issued →
        validate issued.targetCount "deploy_firmware" form.confirmationLevel
            form.confirmationTypedValue = .ok () ∧
          (issued.targetCount = (assignedDevices t issued.tables).length ↔
            CountsTarget f issued.targetType issued.targetId)) ∧
      ∀ body issued,
        createFirmwareDeployment f t now row newRow userId body = .created issued →
          validate issued.targetCount "deploy_firmware" body.confirmationLevel
              body.confirmationTypedValue = .ok () ∧
            (issued.targetCount = (assignedDevices t issued.tables).length ↔
              CountsTarget f issued.targetType issued.targetId) := by
  refine ⟨fun form issued h => ?_, fun body issued h => ?_⟩
  · obtain ⟨hcount, hvalid, hcreated⟩ := firmwareDeploySubmit_redirected h
    refine ⟨hvalid, ?_⟩
    rw [hcount]
    exact count_iff_of_created hcreated
  · obtain ⟨hcount, hvalid, hcreated⟩ := createFirmwareDeployment_created h
    refine ⟨hvalid, ?_⟩
    rw [hcount]
    exact count_iff_of_created hcreated

/-- Two devices on one site, the second of them disabled. -/
def lodge : Fleet where
  devices := [("d1", some "s1"), ("d2", some "s1")]
  memberships := []
  releases := [⟨"r1", "1.2.0", "stable", "fw.bin", "/fw.bin", "00"⟩]
  device_nodup := by decide
  member_nodup := by decide
  registrationState := fun id => if id = "d1" then "active" else "disabled"

/-- A form without a confirmation. -/
def unconfirmed (targetType : String) (targetId : Option String) : DeploymentForm where
  releaseId := some "r1"
  targetType := some targetType
  targetId := targetId
  force := false
  confirmationLevel := none
  confirmationTypedValue := none

/-- The rows of a first deployment. -/
def firstRow (n : Nat) : RowDefaults := ⟨"a" ++ toString n, seconds 0⟩

/-- A single device is counted as it is hit. -/
theorem gate_counts_device :
    ∃ issued, firmwareDeploySubmit lodge ⟨[], []⟩ (seconds 0) ⟨"x", seconds 0⟩ firstRow "u1"
        (unconfirmed "device" (some "d2")) = .redirected issued ∧
      issued.targetCount = (assignedDevices ⟨[], []⟩ issued.tables).length :=
  ⟨_, rfl, ((gate_counts_iff lodge ⟨[], []⟩ (seconds 0) ⟨"x", seconds 0⟩ firstRow "u1").1
    (unconfirmed "device" (some "d2")) _ rfl).2.2 (by decide)⟩

/-- The disabled device is hit without being counted, and a site's devices count as one. -/
theorem gate_counts_too_few :
    (∃ issued, firmwareDeploySubmit lodge ⟨[], []⟩ (seconds 0) ⟨"x", seconds 0⟩ firstRow "u1"
        (unconfirmed "all_devices" none) = .redirected issued ∧
      issued.targetCount = 1 ∧ (assignedDevices ⟨[], []⟩ issued.tables).length = 2) ∧
    ∃ issued, firmwareDeploySubmit lodge ⟨[], []⟩ (seconds 0) ⟨"x", seconds 0⟩ firstRow "u1"
        (unconfirmed "site" (some "s1")) = .redirected issued ∧
      issued.targetCount = 1 ∧ (assignedDevices ⟨[], []⟩ issued.tables).length = 2 :=
  ⟨⟨_, rfl, by decide, by decide⟩, ⟨_, rfl, by decide, by decide⟩⟩

end RebooterHub.Firmware
