import Mathlib.Data.List.Sort
import RebooterHub.Data.Text
import RebooterHub.Data.Time
import RebooterHub.Support.Runs

/-!
# Firmware — Deployments

`services/deployments`: rolling a firmware release out to devices.

`createDeployment` supersedes the active assignments of its devices and gives each a pending one,
`markAssignmentDelivered` and `reconcileAssignmentReportedVersion` move one assignment on.  The
database does not keep a second active assignment out; `OneActive` is what the three keep
together.

* `one_active_assignment`: in every state a run reaches, each device has at most one active
  assignment, which belongs to the newest deployment that targeted it, and what is marked as
  delivered is what the device was told.
-/

namespace RebooterHub.Firmware
open RebooterHub.Runs

/-- The columns of a release that a deployment reads. -/
structure FirmwareRelease where
  id : String
  version : String
  channel : String
  filename : String
  downloadUrl : String
  sha256 : String

/-- A row of `firmware_deployments`. -/
structure FirmwareDeployment where
  id : String
  releaseId : String
  targetType : String
  targetId : Option String
  channel : String
  force : Bool
  issuedByUserId : Option String
  createdAt : Time

/-- `ASSIGNMENT_STATES`. -/
inductive AssignmentState where
  | pending
  | delivered
  | completed
  | failed
  | superseded
deriving DecidableEq, Repr

/-- A row of `deployment_assignments`. -/
structure DeploymentAssignment where
  id : String
  deploymentId : String
  releaseId : String
  deviceId : String
  state : AssignmentState
  lastReportedVersion : Option String
  errorMessage : Option String
  createdAt : Time
  updatedAt : Time

/-- The assignment is pending or delivered. -/
def DeploymentAssignment.isActive (a : DeploymentAssignment) : Bool :=
  a.state = .pending || a.state = .delivered

/-- The two tables of the service. -/
structure Rollouts where
  deployments : List FirmwareDeployment
  assignments : List DeploymentAssignment

/-- The tables it reads, with their primary keys. -/
structure Registry where
  /-- Each device with its site. -/
  devices : List (String × Option String)
  /-- Group and device. -/
  memberships : List (String × String)
  releases : List FirmwareRelease
  device_nodup : (devices.map Prod.fst).Nodup
  member_nodup : memberships.Nodup

/-- `session.get(FirmwareRelease, id)`. -/
def release (releases : List FirmwareRelease) (id : String) : Option FirmwareRelease :=
  releases.find? (·.id = id)

/-- What the defaults of a new row are: its id and the instant. -/
structure RowDefaults where
  id : String
  now : Time

/-! ### Creating a deployment -/

/-- The exceptions of `create_deployment`. -/
inductive DeploymentError where
  | value (message : String)
  | lookup (id : String)
  | integrity
deriving DecidableEq, Repr

/-- `ALLOWED_TARGET_TYPES`. -/
def allowedTargetTypes : List String := ["device", "group", "site", "all_devices"]

/-- The arguments of `create_deployment`. -/
structure DeploymentArgs where
  releaseId : String
  targetType : String
  targetId : Option String
  channel : Option String
  force : Bool
  issuedByUserId : Option String

/-- The text is missing or empty. -/
def falsy (s : Option String) : Bool := s.all (· = "")

/-- The devices of a target. -/
def targetDevices (reg : Registry) (a : DeploymentArgs) : Except DeploymentError (List String) :=
  if a.targetType = "device" then
    match reg.devices.find? (some ·.1 = a.targetId) with
    | none => .error (.lookup (a.targetId.getD ""))
    | some d => .ok [d.1]
  else if a.targetType = "group" then
    .ok ((reg.memberships.filter (some ·.1 = a.targetId)).map Prod.snd)
  else if a.targetType = "site" then
    .ok ((reg.devices.filter (·.2 = a.targetId)).map Prod.fst)
  else .ok (reg.devices.map Prod.fst)

/-- The active assignments of some devices, superseded. -/
def supersede (now : Time) (dids : List String) (a : DeploymentAssignment) :
    DeploymentAssignment :=
  if a.deviceId ∈ dids ∧ a.isActive then { a with state := .superseded, updatedAt := now } else a

/-- The pending assignment of a device. -/
def pendingAssignment (d : FirmwareDeployment) (row : RowDefaults) (did : String) :
    DeploymentAssignment where
  id := row.id
  deploymentId := d.id
  releaseId := d.releaseId
  deviceId := did
  state := .pending
  lastReportedVersion := none
  errorMessage := none
  createdAt := row.now
  updatedAt := row.now

/-- The pending assignments of the devices, `n` of the table's rows being there. -/
def pendingAssignments (d : FirmwareDeployment) (newRow : Nat → RowDefaults) :
    Nat → List String → List DeploymentAssignment
  | _, [] => []
  | n, did :: dids =>
    pendingAssignment d (newRow n) did :: pendingAssignments d newRow (n + 1) dids

/-- The deployment row of some arguments. -/
def newDeployment (row : RowDefaults) (rel : FirmwareRelease) (a : DeploymentArgs) :
    FirmwareDeployment where
  id := row.id
  releaseId := rel.id
  targetType := a.targetType
  targetId := a.targetId
  channel := if falsy a.channel then rel.channel else a.channel.getD ""
  force := a.force
  issuedByUserId := a.issuedByUserId
  createdAt := row.now

/-- What `create_deployment` serializes. -/
structure Created where
  deployment : FirmwareDeployment
  release : FirmwareRelease
  targets : List String

/-- `create_deployment`, at `now`; the deployment gets `row` and the `n`-th assignment of the
table `newRow n`. -/
def createDeployment (reg : Registry) (t : Rollouts) (now : Time) (row : RowDefaults)
    (newRow : Nat → RowDefaults) (a : DeploymentArgs) :
    Except DeploymentError (Rollouts × Created) :=
  if a.targetType ∉ allowedTargetTypes then
    .error (.value "target_type must be one of ('device', 'group', 'site', 'all_devices')")
  else if a.targetType ≠ "all_devices" ∧ falsy a.targetId then
    .error (.value "target_id is required for target_type other than all_devices")
  else match release reg.releases a.releaseId with
    | none => .error (.lookup a.releaseId)
    | some rel =>
      let d := newDeployment row rel a
      if d.id ∈ t.deployments.map (·.id) then .error .integrity
      else match targetDevices reg a with
        | .error e => .error e
        | .ok dids =>
          let assignments := t.assignments.map (supersede now dids) ++
            pendingAssignments d newRow t.assignments.length dids
          if ¬(assignments.map (·.id)).Nodup then .error .integrity
          else .ok (⟨t.deployments ++ [d], assignments⟩, ⟨d, rel, dids⟩)

/-! ### Delivery and reconciliation -/

/-- The row that `order_by(created_at.desc()).limit(1)` selects. -/
def latest (p : DeploymentAssignment → Bool) (rows : List DeploymentAssignment) :
    Option DeploymentAssignment :=
  ((rows.filter p).insertionSort fun a b => b.createdAt ≤ a.createdAt).head?

/-- What a device is told of its assignment. -/
structure AssignmentInfo where
  assignmentId : String
  deploymentId : String
  channel : String
  targetVersion : String
  downloadUrl : String
  sha256 : String
  force : Bool

/-- `assignment_for_device`. -/
def assignmentForDevice (releases : List FirmwareRelease) (t : Rollouts) (did : String) :
    Option AssignmentInfo := do
  let a ← latest (fun a => a.deviceId = did && a.isActive) t.assignments
  let rel ← release releases a.releaseId
  let d ← t.deployments.find? (·.id = a.deploymentId)
  return ⟨a.id, d.id, d.channel, rel.version, rel.downloadUrl, rel.sha256, d.force⟩

/-- The row with this id, changed. -/
def Rollouts.updateAssignment (t : Rollouts) (id : String)
    (g : DeploymentAssignment → DeploymentAssignment) : Rollouts :=
  { t with assignments := t.assignments.map fun a => if a.id = id then g a else a }

/-- `mark_assignment_delivered`. -/
def markAssignmentDelivered (t : Rollouts) (now : Time) (did : String) : Rollouts :=
  match latest (fun a => a.deviceId = did && a.state = .pending) t.assignments with
  | none => t
  | some a => t.updateAssignment a.id fun a => { a with state := .delivered, updatedAt := now }

/-- `(version or "").strip() or None`. -/
def normalizedVersion (version : Option String) : Option String :=
  let text := String.ofList (Text.strip (version.getD "").toList)
  if text = "" then none else some text

/-- The active assignment of a device that reports a version and a health state. -/
def reconciled (releases : List FirmwareRelease) (now : Time) (version errorMessage : Option String)
    (a : DeploymentAssignment) : DeploymentAssignment :=
  let completes := version.isSome &&
    decide (version = normalizedVersion ((release releases a.releaseId).map (·.version)))
  let fails := !falsy errorMessage && a.errorMessage ≠ errorMessage
  { a with
    lastReportedVersion := version
    errorMessage := if completes then none else if fails then errorMessage else a.errorMessage
    state := if completes then .completed else a.state
    updatedAt :=
      if a.lastReportedVersion ≠ version || fails || completes then now else a.updatedAt }

/-- `reconcile_assignment_reported_version`, at `reported_at`. -/
def reconcileAssignmentReportedVersion (releases : List FirmwareRelease) (t : Rollouts) (now : Time)
    (did : String) (reportedVersion errorMessage : Option String) : Rollouts :=
  if did = "" then t
  else match latest (fun a => a.deviceId = did && a.isActive) t.assignments with
    | none => t
    | some a => t.updateAssignment a.id
        (reconciled releases now (normalizedVersion reportedVersion) errorMessage)

/-! ### Runs -/

/-- An operation of the service, with what it is given. -/
inductive RolloutStep where
  | create (reg : Registry) (now : Time) (row : RowDefaults) (newRow : Nat → RowDefaults)
      (a : DeploymentArgs)
  | deliver (now : Time) (did : String)
  | reconcile (releases : List FirmwareRelease) (now : Time) (did : String)
      (reportedVersion errorMessage : Option String)

/-- The tables after an operation. -/
def rolloutStep (t : Rollouts) : RolloutStep → Rollouts
  | .create reg now row newRow a => match createDeployment reg t now row newRow a with
    | .ok r => r.1
    | .error _ => t
  | .deliver now did => markAssignmentDelivered t now did
  | .reconcile releases now did reportedVersion errorMessage =>
      reconcileAssignmentReportedVersion releases t now did reportedVersion errorMessage

/-- The deployment an operation creates. -/
def createdBy (t : Rollouts) : RolloutStep → List Created
  | .create reg now row newRow a => match createDeployment reg t now row newRow a with
    | .ok r => [r.2]
    | .error _ => []
  | .deliver .. | .reconcile .. => []

/-- The newest of some deployments that targeted the device. -/
def newestTargeting (log : List Created) (did : String) : Option String :=
  ((log.filter (did ∈ ·.targets)).getLast?).map (·.deployment.id)

/-- After the deployments `log` each device has at most one active assignment, and it belongs to
the newest of them that targeted the device. -/
structure OneActive (log : List Created) (t : Rollouts) : Prop where
  ids : (t.assignments.map (·.id)).Nodup
  unique : ((t.assignments.filter (·.isActive)).map (·.deviceId)).Nodup
  newest : ∀ a ∈ t.assignments, a.isActive → newestTargeting log a.deviceId = some a.deploymentId

/-- From `t` to `t'` no assignment but the one with this id was changed. -/
structure OnlyAssignment (id : String) (t t' : Rollouts) : Prop where
  assignments : t'.assignments.filter (·.id ≠ id) = t.assignments.filter (·.id ≠ id)
  deployments : t'.deployments = t.deployments

/-! ### Changing one row -/

theorem latest_mem {p : DeploymentAssignment → Bool} {rows : List DeploymentAssignment}
    {a : DeploymentAssignment} (h : latest p rows = some a) : a ∈ rows ∧ p a = true := by
  have hmem := (List.mem_insertionSort _).mp (List.mem_of_head? h)
  exact List.mem_filter.mp hmem

/-- The changes the operations make: a row keeps its id, device and deployment, and does not
become active. -/
structure Progress (a b : DeploymentAssignment) : Prop where
  id : b.id = a.id
  deviceId : b.deviceId = a.deviceId
  deploymentId : b.deploymentId = a.deploymentId
  active : b.isActive = true → a.isActive = true

theorem Progress.refl (a : DeploymentAssignment) : Progress a a := ⟨rfl, rfl, rfl, fun h => h⟩

theorem supersede_progress (now : Time) (dids : List String) (a : DeploymentAssignment) :
    Progress a (supersede now dids a) := by
  rw [supersede]
  split
  · next h => exact ⟨rfl, rfl, rfl, fun _ => h.2⟩
  · exact .refl a

theorem supersede_active {now : Time} {dids : List String} {a : DeploymentAssignment}
    (h : (supersede now dids a).isActive = true) : a.deviceId ∉ dids := by
  rw [supersede] at h
  split at h
  · cases h
  · next hnot => exact fun hd => hnot ⟨hd, h⟩

section
variable {rows : List DeploymentAssignment} {g : DeploymentAssignment → DeploymentAssignment}

theorem map_ids (hg : ∀ a ∈ rows, Progress a (g a)) :
    (rows.map g).map (·.id) = rows.map (·.id) := by
  rw [List.map_map]
  exact List.map_congr_left fun a ha => (hg a ha).id

/-- Rows that progress have no more active devices than before. -/
theorem active_sublist (hg : ∀ a ∈ rows, Progress a (g a)) :
    (((rows.map g).filter (·.isActive)).map (·.deviceId)).Sublist
      ((rows.filter (·.isActive)).map (·.deviceId)) := by
  induction rows with
  | nil => exact .slnil
  | cons a rows ih =>
      have htail := ih fun b hb => hg b (List.mem_cons_of_mem _ hb)
      have ha := hg a List.mem_cons_self
      rw [List.map_cons, List.filter_cons, List.filter_cons]
      by_cases hb : (g a).isActive = true
      · rw [if_pos hb, if_pos (ha.active hb), List.map_cons, List.map_cons, ha.deviceId]
        exact htail.cons_cons _
      · rw [if_neg hb]
        split
        · exact htail.cons _
        · exact htail

/-- Rows that progress keep what the deployments `log` made true. -/
theorem oneActive_map {log : List Created} {deployments deployments' : List FirmwareDeployment}
    (h : OneActive log ⟨deployments, rows⟩) (hg : ∀ a ∈ rows, Progress a (g a)) :
    OneActive log ⟨deployments', rows.map g⟩ where
  ids := (map_ids hg).symm ▸ h.ids
  unique := h.unique.sublist (active_sublist hg)
  newest := by
    rintro b hb hactive
    obtain ⟨a, ha, rfl⟩ := List.mem_map.mp hb
    have hab := hg a ha
    rw [hab.deviceId, hab.deploymentId]
    exact h.newest a ha (hab.active hactive)

end

/-- The change of one row. -/
theorem oneActive_updateAssignment {log : List Created} {t : Rollouts} (h : OneActive log t)
    {a : DeploymentAssignment} (ha : a ∈ t.assignments)
    {g : DeploymentAssignment → DeploymentAssignment} (hg : Progress a (g a)) :
    OneActive log (t.updateAssignment a.id g) := by
  refine oneActive_map h fun b hb => ?_
  split
  · next hid =>
      obtain rfl : b = a := List.inj_on_of_nodup_map h.ids hb ha hid
      exact hg
  · exact .refl b

theorem onlyAssignment_update (t : Rollouts) (id : String)
    {g : DeploymentAssignment → DeploymentAssignment} (hg : ∀ a, (g a).id = a.id) :
    OnlyAssignment id t (t.updateAssignment id g) := by
  refine ⟨?_, rfl⟩
  rw [Rollouts.updateAssignment]
  induction t.assignments with
  | nil => rfl
  | cons a rows ih =>
      rw [List.map_cons, List.filter_cons, List.filter_cons, ih]
      by_cases hid : a.id = id
      · simp [hid, hg]
      · simp [hid]

/-! ### Creation -/

/-- A target has each of its devices once. -/
theorem targetDevices_nodup {reg : Registry} {a : DeploymentArgs} {dids : List String}
    (h : targetDevices reg a = .ok dids) : dids.Nodup := by
  rw [targetDevices] at h
  split at h
  · split at h
    · cases h
    · obtain rfl := Except.ok.inj h
      exact List.nodup_singleton _
  · split at h
    · obtain rfl := Except.ok.inj h
      refine (reg.member_nodup.filter _).map_on fun m hm m' hm' hdid => ?_
      have hg : some m.1 = a.targetId := by simpa using (List.mem_filter.mp hm).2
      have hg' : some m'.1 = a.targetId := by simpa using (List.mem_filter.mp hm').2
      exact Prod.ext (Option.some.inj (hg.trans hg'.symm)) hdid
    · split at h
      · obtain rfl := Except.ok.inj h
        exact reg.device_nodup.sublist (List.filter_sublist.map _)
      · obtain rfl := Except.ok.inj h
        exact reg.device_nodup

section
variable {d : FirmwareDeployment} {newRow : Nat → RowDefaults} {n : Nat} {dids : List String}

theorem pendingAssignments_deviceIds :
    (pendingAssignments d newRow n dids).map (·.deviceId) = dids := by
  induction dids generalizing n with
  | nil => rfl
  | cons did dids ih => rw [pendingAssignments, List.map_cons, ih, pendingAssignment]

theorem mem_pendingAssignments {a : DeploymentAssignment}
    (ha : a ∈ pendingAssignments d newRow n dids) :
    a.isActive = true ∧ a.deploymentId = d.id ∧ a.deviceId ∈ dids := by
  induction dids generalizing n with
  | nil => cases ha
  | cons did dids ih =>
      rcases List.mem_cons.mp ha with rfl | ha
      · exact ⟨rfl, rfl, List.mem_cons_self⟩
      · obtain ⟨hactive, hdeployment, hdid⟩ := ih ha
        exact ⟨hactive, hdeployment, List.mem_cons_of_mem _ hdid⟩

end

/-- What a deployment that is created does to the tables. -/
theorem createDeployment_eq_ok {reg : Registry} {t : Rollouts} {now : Time} {row : RowDefaults}
    {newRow : Nat → RowDefaults} {a : DeploymentArgs} {r : Rollouts × Created}
    (h : createDeployment reg t now row newRow a = .ok r) :
    a.targetType ∈ allowedTargetTypes ∧
      (a.targetType ≠ "all_devices" → falsy a.targetId = false) ∧
      targetDevices reg a = .ok r.2.targets ∧ (r.1.assignments.map (·.id)).Nodup ∧
      r.1.assignments = t.assignments.map (supersede now r.2.targets) ++
        pendingAssignments r.2.deployment newRow t.assignments.length r.2.targets := by
  rw [createDeployment] at h
  split at h
  · cases h
  · next htype =>
      split at h
      · cases h
      · next hid =>
          split at h
          · cases h
          · dsimp only at h
            split at h
            · cases h
            · split at h
              · cases h
              · next hdids =>
                  split at h
                  · cases h
                  · next hids =>
                      obtain rfl := Except.ok.inj h
                      refine ⟨not_not.mp htype, fun hall => ?_, hdids, not_not.mp hids, rfl⟩
                      exact Bool.eq_false_iff.mpr fun hfalsy => hid ⟨hall, hfalsy⟩

theorem newestTargeting_append (log : List Created) (c : Created) (did : String) :
    newestTargeting (log ++ [c]) did
      = if did ∈ c.targets then some c.deployment.id else newestTargeting log did := by
  rw [newestTargeting, List.filter_append]
  split
  · next h => simp [h]
  · next h => simp [h, newestTargeting]

/-- A new deployment takes its devices over. -/
theorem oneActive_create {log : List Created} {reg : Registry} {t : Rollouts} {now : Time}
    {row : RowDefaults} {newRow : Nat → RowDefaults} {a : DeploymentArgs} {r : Rollouts × Created}
    (h : OneActive log t) (hr : createDeployment reg t now row newRow a = .ok r) :
    OneActive (log ++ [r.2]) r.1 := by
  obtain ⟨-, -, htargets, hids, hrows⟩ := createDeployment_eq_ok hr
  have hnodup := targetDevices_nodup htargets
  -- the old rows progress, and the active ones among them are not of the targets
  have hold : OneActive log ⟨t.deployments, t.assignments.map (supersede now r.2.targets)⟩ :=
    oneActive_map h fun a _ => supersede_progress now _ a
  have hspared : ∀ b ∈ t.assignments.map (supersede now r.2.targets), b.isActive = true →
      b.deviceId ∉ r.2.targets := by
    intro b hb hactive
    obtain ⟨a, -, rfl⟩ := List.mem_map.mp hb
    rw [(supersede_progress now _ a).deviceId]
    exact supersede_active hactive
  refine ⟨hids, ?_, fun b hb hactive => ?_⟩
  · have hnew : (pendingAssignments r.2.deployment newRow t.assignments.length
        r.2.targets).filter (·.isActive) = _ :=
      List.filter_eq_self.mpr fun b hb => (mem_pendingAssignments hb).1
    rw [hrows, List.filter_append, List.map_append, hnew, pendingAssignments_deviceIds]
    refine hold.unique.append hnodup fun did hdid hmem => ?_
    obtain ⟨b, hb, rfl⟩ := List.mem_map.mp hdid
    obtain ⟨hb, hactive⟩ := List.mem_filter.mp hb
    exact hspared b hb hactive hmem
  · rw [newestTargeting_append]
    rw [hrows] at hb
    rcases List.mem_append.mp hb with hb | hb
    · rw [if_neg (hspared b hb hactive)]
      exact hold.newest b hb hactive
    · obtain ⟨-, hdeployment, hdid⟩ := mem_pendingAssignments hb
      rw [if_pos hdid, hdeployment]

/-! ### One active assignment -/

theorem oneActive_deliver {log : List Created} {t : Rollouts} (h : OneActive log t) (now : Time)
    (did : String) : OneActive log (markAssignmentDelivered t now did) := by
  rw [markAssignmentDelivered]
  split
  · exact h
  · next a ha =>
      obtain ⟨hmem, hp⟩ := latest_mem ha
      refine oneActive_updateAssignment h hmem ⟨rfl, rfl, rfl, fun _ => ?_⟩
      have hpending : a.state = .pending := by simpa using (Bool.and_eq_true_iff.mp hp).2
      simp [DeploymentAssignment.isActive, hpending]

theorem reconciled_progress (releases : List FirmwareRelease) (now : Time)
    (version errorMessage : Option String) {a : DeploymentAssignment} (h : a.isActive = true) :
    Progress a (reconciled releases now version errorMessage a) :=
  ⟨rfl, rfl, rfl, fun _ => h⟩

theorem oneActive_reconcile {log : List Created} {t : Rollouts} (h : OneActive log t)
    (releases : List FirmwareRelease) (now : Time) (did : String)
    (reportedVersion errorMessage : Option String) :
    OneActive log
      (reconcileAssignmentReportedVersion releases t now did reportedVersion errorMessage) := by
  rw [reconcileAssignmentReportedVersion]
  split
  · exact h
  · split
    · exact h
    · next a ha =>
        obtain ⟨hmem, hp⟩ := latest_mem ha
        have hactive : a.isActive = true := (Bool.and_eq_true_iff.mp hp).2
        exact oneActive_updateAssignment h hmem (reconciled_progress releases now _ _ hactive)

theorem oneActive_step (log : List Created) (t : Rollouts) (s : RolloutStep)
    (h : OneActive log t) : OneActive (log ++ createdBy t s) (rolloutStep t s) := by
  cases s with
  | create reg now row newRow a =>
      cases hr : createDeployment reg t now row newRow a with
      | ok r =>
          simp only [rolloutStep, createdBy, hr]
          exact oneActive_create h hr
      | error e =>
          simp only [rolloutStep, createdBy, hr, List.append_nil]
          exact h
  | deliver now did =>
      rw [createdBy, List.append_nil]
      exact oneActive_deliver h now did
  | reconcile releases now did reportedVersion errorMessage =>
      rw [createdBy, List.append_nil]
      exact oneActive_reconcile h releases now did reportedVersion errorMessage

/-- What is marked as delivered is the assignment the device is told of. -/
theorem OneActive.delivers {log : List Created} {t : Rollouts} (h : OneActive log t)
    {releases : List FirmwareRelease} {did : String} {info : AssignmentInfo}
    (hinfo : assignmentForDevice releases t did = some info) (now : Time) :
    OnlyAssignment info.assignmentId t (markAssignmentDelivered t now did) := by
  obtain ⟨a, ha, hrest⟩ := Option.bind_eq_some_iff.mp hinfo
  obtain ⟨rel, -, hrest⟩ := Option.bind_eq_some_iff.mp hrest
  obtain ⟨d, -, hinfo⟩ := Option.bind_eq_some_iff.mp hrest
  obtain rfl := Option.some.inj hinfo
  obtain ⟨hmem, hp⟩ := latest_mem ha
  obtain ⟨hdid, hactive⟩ := Bool.and_eq_true_iff.mp hp
  rw [markAssignmentDelivered]
  split
  · exact ⟨rfl, rfl⟩
  · next b hb =>
      obtain ⟨hmem', hp'⟩ := latest_mem hb
      obtain ⟨hdid', hpending⟩ := Bool.and_eq_true_iff.mp hp'
      have hactive' : b.isActive = true := by
        simp only [decide_eq_true_eq] at hpending
        simp [DeploymentAssignment.isActive, hpending]
      obtain rfl : b = a := List.inj_on_of_nodup_map h.unique
        (List.mem_filter.mpr ⟨hmem', hactive'⟩) (List.mem_filter.mpr ⟨hmem, hactive⟩)
        ((of_decide_eq_true hdid').trans (of_decide_eq_true hdid).symm)
      exact onlyAssignment_update t b.id fun _ => rfl

/-- **One active assignment for each device.**  Whatever deployments are created, deliveries made
and versions reported, in any order, each device has at most one active assignment, that of the
newest deployment that targeted it, and a delivery changes no assignment but the one the device
was told of. -/
theorem one_active_assignment (steps : List RolloutStep) :
    OneActive (emitted rolloutStep createdBy ⟨[], []⟩ steps) (run rolloutStep ⟨[], []⟩ steps) ∧
      ∀ releases did info now,
        assignmentForDevice releases (run rolloutStep ⟨[], []⟩ steps) did = some info →
        OnlyAssignment info.assignmentId (run rolloutStep ⟨[], []⟩ steps)
          (markAssignmentDelivered (run rolloutStep ⟨[], []⟩ steps) now did) := by
  have hempty : OneActive [] ⟨[], []⟩ :=
    ⟨List.nodup_nil, List.nodup_nil, fun _ ha => absurd ha List.not_mem_nil⟩
  have hsteps : Admits rolloutStep (fun _ _ => True) ⟨[], []⟩ steps :=
    admits_of_forall (fun _ _ => trivial) _ _
  have hrun := emitted_invariant (fun log t s h _ => oneActive_step log t s h) hempty hsteps
  rw [List.nil_append] at hrun
  exact ⟨hrun, fun _ _ _ now hinfo => hrun.delivers hinfo now⟩

end RebooterHub.Firmware
