import RebooterHub.Commands.Queue
import RebooterHub.Data.Spelling
import RebooterHub.Devices.Contacts
import RebooterHub.Support.Runs

/-!
# Devices — Recovery

The configuration that an operator wants a device to have (`device_config`), and its return to a
device that has recovered by itself: a heartbeat that reports a recovery (`record_heartbeat`) has
the configuration pushed again (`maybe_push_after_recovery`).  The heartbeat commits before the
push, so that anything may come between them.

Parameters are `str` of a float, a list or a dict (`spell`) and of an exception (`describe`).

* `Told`: what a hub that keeps the last report of each field makes of all reports.
* `recoveries`: each incident is pushed for once, and what a push needs.
-/

namespace RebooterHub.Devices
open Commands Fallible Runs

/-- The columns of a device for its configuration and its recoveries. -/
structure Managed where
  centralManagementEnabled : Bool
  desiredConfig : Option Members
  desiredMode : Option String
  desiredConfigUpdatedAt : Option Time
  lastConfigPushedAt : Option Time
  reportedRecoveryMode : Option Bool
  reportedLastKnownGoodRestored : Option Bool

/-! ### The desired configuration -/

/-- `ALLOWED_DESIRED_CONFIG_KEYS`. -/
def allowedDesiredConfigKeys : List String :=
  ["device_name", "relay_restore_behavior", "monitor_interval_seconds", "boot_warmup_seconds",
    "manual_button_enabled", "internet", "device", "notifications", "power"]

/-- The check of the keys. -/
def checkKeys (ms : Members) : Except String Unit :=
  let unknown := (ms.map Prod.fst).filter (· ∉ allowedDesiredConfigKeys)
  if unknown = [] then .ok ()
  else .error ("unsupported keys in desired_config: " ++ reprTexts (sorted unknown) ++ ". Allowed: "
    ++ reprTexts (sorted allowedDesiredConfigKeys))

/-- The check of `device_name`, whose column holds 120 characters. -/
def checkDeviceName : Option Json → Except String Unit
  | none | some .null => .ok ()
  | some (.str name) =>
    if 120 < name.length then .error "device_name must be 120 characters or fewer" else .ok ()
  | some _ => .error "device_name must be a string"

/-- The check of `desired_mode`. -/
def checkDesiredMode : Option String → Except String Unit
  | none => .ok ()
  | some mode =>
    if mode ∈ ["smart_plug", "internet_watchdog", "device_watchdog"] then .ok ()
    else .error ("desired_mode must be one of " ++
      "'smart_plug' | 'internet_watchdog' | 'device_watchdog'")

/-- The checks of `set_desired_config`, with the message of a `DesiredConfigError`. -/
def checkDesiredConfig (payload : Json) (desiredMode : Option String) : Except String Members :=
  match payload with
  | .obj ms => do
    checkKeys ms
    checkDeviceName (ms.lookup "device_name")
    checkDesiredMode desiredMode
    return ms
  | _ => .error "desired_config must be a JSON object"

/-- `set_desired_config`. -/
def setDesiredConfig (now : Time) (payload : Json) (desiredMode : Option String) (m : Managed) :
    Except String Managed := do
  let ms ← checkDesiredConfig payload desiredMode
  return { m with
    -- `payload or None`
    desiredConfig := if ms = [] then none else some ms
    desiredMode := desiredMode.or m.desiredMode
    desiredConfigUpdatedAt := some now }

/-- What a restored backup writes, as it is. -/
def restoreDesired (now : Time) (desired : Option Members) (mode : Option String) (m : Managed) :
    Managed :=
  { m with desiredConfig := desired, desiredMode := mode, desiredConfigUpdatedAt := some now }

/-- What a push returns. -/
structure PushResult where
  enqueued : Bool
  commandId : Option String
  reason : Option String

/-- The command of a push. -/
def pushArgs (deviceId : String) (ms : Members) (user : Option String) : EnqueueArgs where
  deviceId := deviceId
  cmdType := "apply_config"
  payload := .obj ms
  issuedByUserId := user
  ttlSeconds := .int 600
  groupId := none
  overrideLockout := false
  setHoldOff := false

section
variable (deviceId : String) (spell : Json → String) (describe : CommandError → String)

/-- `push_desired_config`, for a device that is there. -/
def pushDesiredConfig (now : Time) (newId : String) (user : Option String) (m : Managed)
    (f : Fleet) : Managed × Fleet × PushResult :=
  if ¬m.centralManagementEnabled then (m, f, ⟨false, none, some "central management disabled"⟩)
  else match m.desiredConfig with
    | none | some [] => (m, f, ⟨false, none, some "no desired_config set"⟩)
    | some ms => match enqueueForDevice f now newId (pushArgs deviceId ms user) with
      | .ok (f', cmd, _) =>
        ({ m with lastConfigPushedAt := some now }, f', ⟨true, some cmd.id, none⟩)
      | .error e => (m, f, ⟨false, none, some (describe e)⟩)

/-- `is_feature_enabled`, for the value of `desired_config.enabled`. -/
def isFeatureEnabled (value : Json) : Bool :=
  Text.lower (Text.strip (if value.truthy then value.text spell else [])) ∈
    ["1", "true", "yes", "on"].map String.toList

/-- `maybe_push_after_recovery`. -/
def maybePushAfterRecovery (now : Time) (newId : String) (enabled : Json) (m : Managed) (f : Fleet) :
    Managed × Fleet × PushResult :=
  match m.desiredConfig with
  | none | some [] => (m, f, ⟨false, none, some "no desired_config set"⟩)
  | some _ =>
    if ¬isFeatureEnabled spell enabled then (m, f, ⟨false, none, some "feature disabled"⟩)
    else pushDesiredConfig deviceId describe now newId none m f

end

/-! ### The heartbeat -/

def lkgField : String := "last_known_good_restored"
def modeField : String := "recovery_mode"

/-- A column that mirrors a field, if the heartbeat has the field. -/
def hotColumn (payload : Members) (field : String) (old : Option Bool) :
    Except PyError (Option Bool) :=
  match payload.lookup field with
  | none => .ok old
  | some v => booleanColumn v

/-- The trigger of a heartbeat: a field that it lacks is as before, and only `True` and `False`
themselves count. -/
def recoveryTrigger (m : Managed) (payload : Members) : Option String :=
  if m.reportedLastKnownGoodRestored ≠ some true ∧ payload.lookup lkgField = some (.bool true) then
    some "last_known_good_restored"
  else if m.reportedRecoveryMode = some true ∧ payload.lookup modeField = some (.bool false) then
    some "recovery_exit"
  else none

/-- `record_heartbeat`: the columns, and the trigger once they are stored. -/
def recordRecovery (m : Managed) (payload : Members) : Except PyError (Managed × Option String) := do
  let mode ← hotColumn payload modeField m.reportedRecoveryMode
  let restored ← hotColumn payload lkgField m.reportedLastKnownGoodRestored
  return ({ m with reportedRecoveryMode := mode, reportedLastKnownGoodRestored := restored },
    recoveryTrigger m payload)

/-! ### Runs -/

/-- A device, the commands, the setting, and the heartbeats that have committed and not pushed. -/
structure Recovering where
  managed : Managed
  fleet : Fleet
  enabled : Json
  pending : List String

/-- What happens to a device. -/
inductive ConfigStep where
  | set (payload : Json) (desiredMode : Option String)
  | restore (desired : Option Members) (mode : Option String)
  | central (enabled : Bool)
  | feature (value : Json)
  /-- A heartbeat, which the database may refuse for another column. -/
  | heartbeat (payload : Members) (refused : Bool)
  /-- An operator's push. -/
  | push (user : Option String) (newId : String)
  /-- The push after a heartbeat. -/
  | recover (trigger newId : String)
  /-- The process ends before it. -/
  | lose (trigger : String)
  /-- Whatever else the hub does with its commands. -/
  | queue (fleet : Fleet)

/-- What is to be known of a run: the heartbeats, and what became of their triggers. -/
inductive Event where
  | reported (payload : Members) (trigger : Option String)
  | answered (trigger : String) (result : Option PushResult)

namespace Recovering

variable (deviceId : String) (spell : Json → String) (describe : CommandError → String)

/-- The push after a heartbeat. -/
def recovered (s : Recovering) (now : Time) (newId : String) : Managed × Fleet × PushResult :=
  maybePushAfterRecovery deviceId spell describe now newId s.enabled s.managed s.fleet

/-- A step at a time. -/
def step (s : Recovering) (a : Time × ConfigStep) : Recovering :=
  match a.2 with
  | .set payload mode => match setDesiredConfig a.1 payload mode s.managed with
    | .ok m => { s with managed := m }
    | .error _ => s
  | .restore desired mode => { s with managed := restoreDesired a.1 desired mode s.managed }
  | .central b => { s with managed := { s.managed with centralManagementEnabled := b } }
  | .feature v => { s with enabled := v }
  | .heartbeat payload refused => match recordRecovery s.managed payload with
    | .ok (m, trigger) =>
      if refused then s else { s with managed := m, pending := s.pending ++ trigger.toList }
    | .error _ => s
  | .push user newId =>
    let r := pushDesiredConfig deviceId describe a.1 newId user s.managed s.fleet
    { s with managed := r.1, fleet := r.2.1 }
  | .recover trigger newId =>
    -- The heartbeat has committed: the push reads what is stored and set by now.
    let r := s.recovered deviceId spell describe a.1 newId
    { s with managed := r.1, fleet := r.2.1, pending := s.pending.erase trigger }
  | .lose trigger => { s with pending := s.pending.erase trigger }
  | .queue f => { s with fleet := f }

def out (s : Recovering) (a : Time × ConfigStep) : List Event :=
  match a.2 with
  | .heartbeat payload refused => match recordRecovery s.managed payload with
    | .ok (_, trigger) => if refused then [] else [.reported payload trigger]
    | .error _ => []
  | .recover trigger newId =>
    [.answered trigger (s.recovered deviceId spell describe a.1 newId).2.2]
  | .lose trigger => [.answered trigger none]
  | _ => []

/-- A trigger is answered once it is there. -/
def ok (s : Recovering) (a : Time × ConfigStep) : Prop :=
  match a.2 with
  | .recover trigger _ | .lose trigger => trigger ∈ s.pending
  | _ => True

/-- A device that has not reported. -/
def start (fleet : Fleet) (enabled : Json) : Recovering :=
  ⟨⟨true, none, none, none, none, none, none⟩, fleet, enabled, []⟩

end Recovering

/-! ### What the reports tell -/

/-- What a `Boolean` column has of a value that it takes. -/
def column (v : Json) : Option Bool :=
  match booleanColumn v with
  | .ok b => b
  | .error _ => none

/-- What was last reported of a field. -/
def lastReport (field : String) (payloads : List Members) : Option Bool :=
  (payloads.filterMap (·.lookup field)).getLast?.bind column

/-- A heartbeat after others that begins or ends an incident: the configuration was restored, which
was not so at the last report, or the recovery mode is over, which it was not. -/
def incident (payloads : List Members) (payload : Members) : Option String :=
  if lastReport lkgField payloads ≠ some true ∧ payload.lookup lkgField = some (.bool true) then
    some "last_known_good_restored"
  else if lastReport modeField payloads = some true ∧
      payload.lookup modeField = some (.bool false) then
    some "recovery_exit"
  else none

/-- The heartbeats. -/
def payloadsOf (log : List Event) : List Members :=
  log.filterMap fun
    | .reported payload _ => some payload
    | .answered _ _ => none

/-- Their triggers. -/
def triggersOf (log : List Event) : List String :=
  log.filterMap fun
    | .reported _ trigger => trigger
    | .answered _ _ => none

/-- The triggers that were pushed for or lost. -/
def answeredOf (log : List Event) : List String :=
  log.filterMap fun
    | .reported _ _ => none
    | .answered trigger _ => some trigger

/-- What the hub knows of the reports, which `log` has in full.

* The columns have the last reports.
* A heartbeat has a trigger when the reports before it say so.
* A trigger is answered once, or waits. -/
structure Told (log : List Event) (s : Recovering) : Prop where
  mode : s.managed.reportedRecoveryMode = lastReport modeField (payloadsOf log)
  restored : s.managed.reportedLastKnownGoodRestored = lastReport lkgField (payloadsOf log)
  triggers : ∀ before payload trigger after, log = before ++ .reported payload trigger :: after →
    trigger = incident (payloadsOf before) payload
  answered : (answeredOf log ++ s.pending).Perm (triggersOf log)

section
variable {field : String} {payloads more : List Members} {payload p q : Members} {m m' : Managed}
  {log : List Event} {trigger : Option String} {v : Json}

theorem lastReport_snoc (field : String) (payloads : List Members) (payload : Members) :
    lastReport field (payloads ++ [payload]) =
      (payload.lookup field).elim (lastReport field payloads) column := by
  rw [lastReport, List.filterMap_append]
  cases hfield : payload.lookup field with
  | none => simp [hfield, lastReport]
  | some v => simp [hfield]

theorem hotColumn_ok {old new : Option Bool} (h : hotColumn payload field old = .ok new) :
    new = (payload.lookup field).elim old column := by
  rw [hotColumn] at h
  cases hfield : payload.lookup field with
  | none =>
      rw [hfield] at h
      exact (Except.ok.inj h).symm
  | some v =>
      rw [hfield] at h
      have hnew : booleanColumn v = .ok new := h
      rw [Option.elim_some, column, hnew]

/-- Something has been reported that the last report is by. -/
theorem exists_report {P : Option Bool → Prop} (hbefore : ¬P (lastReport field payloads))
    (hafter : P (lastReport field (payloads ++ more))) :
    ∃ r ∈ more, ∃ v, r.lookup field = some v ∧ P (column v) := by
  -- By the reports from the last: one without the field leaves the last report as it was.
  induction more using List.reverseRecOn with
  | nil =>
      rw [List.append_nil] at hafter
      exact absurd hafter hbefore
  | append_singleton more r ih =>
      rw [← List.append_assoc, lastReport_snoc] at hafter
      cases hfield : r.lookup field with
      | none =>
          rw [hfield] at hafter
          obtain ⟨r', hr', hreport⟩ := ih hafter
          exact ⟨r', List.mem_append_left _ hr', hreport⟩
      | some v =>
          rw [hfield] at hafter
          exact ⟨r, by simp, v, hfield, hafter⟩

/-- What has to be reported before the same incident comes again. -/
def Rearms (trigger : String) (payload : Members) : Prop :=
  if trigger = "recovery_exit" then
    ∃ v, payload.lookup modeField = some v ∧ column v = some true
  else ∃ v, payload.lookup lkgField = some v ∧ column v ≠ some true

theorem exists_rearms {trigger : String} (hp : incident payloads p = some trigger)
    (hq : incident (payloads ++ p :: more) q = some trigger) : ∃ r ∈ more, Rearms trigger r := by
  rw [List.append_cons] at hq
  unfold incident at hp
  split at hp
  · next hrise =>
      obtain rfl := Option.some.inj hp
      -- After `p` the last report is that of the incident, before `q` it is not.
      have hlast : ¬lastReport lkgField (payloads ++ [p]) ≠ some true := by
        rw [lastReport_snoc, hrise.2]
        exact not_not.mpr rfl
      have hnext : lastReport lkgField (payloads ++ [p] ++ more) ≠ some true := by
        unfold incident at hq
        split at hq
        · next hrise' => exact hrise'.1
        · split at hq
          · exact absurd (Option.some.inj hq) (by decide)
          · cases hq
      obtain ⟨r, hr, hreport⟩ := exists_report (P := (· ≠ some true)) hlast hnext
      exact ⟨r, hr, hreport⟩
  · split at hp
    · next hfall =>
        obtain rfl := Option.some.inj hp
        have hlast : ¬lastReport modeField (payloads ++ [p]) = some true := by
          rw [lastReport_snoc, hfall.2, Option.elim_some]
          decide
        have hnext : lastReport modeField (payloads ++ [p] ++ more) = some true := by
          unfold incident at hq
          split at hq
          · exact absurd (Option.some.inj hq) (by decide)
          · split at hq
            · next hfall' => exact hfall'.1
            · cases hq
        obtain ⟨r, hr, hreport⟩ := exists_report (P := (· = some true)) hlast hnext
        exact ⟨r, hr, hreport⟩
    · cases hp

/-- What a heartbeat stores. -/
theorem recordRecovery_ok (h : recordRecovery m payload = .ok (m', trigger)) :
    m'.reportedRecoveryMode = (payload.lookup modeField).elim m.reportedRecoveryMode column ∧
      m'.reportedLastKnownGoodRestored =
        (payload.lookup lkgField).elim m.reportedLastKnownGoodRestored column ∧
      trigger = recoveryTrigger m payload ∧ m'.desiredConfig = m.desiredConfig := by
  obtain ⟨mode, hmode, h⟩ := bind_eq_ok h
  obtain ⟨restored, hrestored, h⟩ := bind_eq_ok h
  obtain ⟨rfl, rfl⟩ := Prod.mk.inj (Except.ok.inj h)
  exact ⟨hotColumn_ok hmode, hotColumn_ok hrestored, rfl, rfl⟩

/-- What pushes do not write. -/
def Managed.kept (m : Managed) : Option Bool × Option Bool × Option Members :=
  (m.reportedRecoveryMode, m.reportedLastKnownGoodRestored, m.desiredConfig)

theorem kept_pushDesiredConfig {deviceId : String} {describe : CommandError → String} {now : Time}
    {newId : String} {user : Option String} {f : Fleet} :
    (pushDesiredConfig deviceId describe now newId user m f).1.kept = m.kept := by
  unfold pushDesiredConfig
  split
  · rfl
  · split
    · rfl
    · rfl
    · split <;> rfl

theorem kept_recovered {deviceId : String} {spell : Json → String}
    {describe : CommandError → String} {s : Recovering} {now : Time} {newId : String} :
    (s.recovered deviceId spell describe now newId).1.kept = s.managed.kept := by
  unfold Recovering.recovered maybePushAfterRecovery
  split
  · rfl
  · rfl
  · split
    · rfl
    · exact kept_pushDesiredConfig

/-! ### Steps and runs -/

variable {deviceId : String} {spell : Json → String} {describe : CommandError → String}
  {s s' : Recovering} {now : Time}

/-- A step that is no report. -/
theorem Told.of_kept (h : Told log s) (hkept : s'.managed.kept = s.managed.kept)
    (hpending : s'.pending = s.pending) : Told log s' := by
  obtain ⟨hmode, hrest⟩ := Prod.mk.inj hkept
  obtain ⟨hrestored, -⟩ := Prod.mk.inj hrest
  exact ⟨hmode.trans h.mode, hrestored.trans h.restored, h.triggers, hpending ▸ h.answered⟩

/-- An answer to a trigger. -/
theorem Told.answer {trigger : String} {result : Option PushResult} (h : Told log s)
    (hmem : trigger ∈ s.pending) (hkept : s'.managed.kept = s.managed.kept)
    (hpending : s'.pending = s.pending.erase trigger) :
    Told (log ++ [.answered trigger result]) s' := by
  have hpayloads : payloadsOf (log ++ [.answered trigger result]) = payloadsOf log := by
    simp [payloadsOf]
  have htriggers : triggersOf (log ++ [.answered trigger result]) = triggersOf log := by
    simp [triggersOf]
  have hanswered : answeredOf (log ++ [.answered trigger result]) =
      answeredOf log ++ [trigger] := by
    simp [answeredOf]
  obtain ⟨hmode, hrest⟩ := Prod.mk.inj hkept
  obtain ⟨hrestored, -⟩ := Prod.mk.inj hrest
  constructor
  · rw [hpayloads]
    exact hmode.trans h.mode
  · rw [hpayloads]
    exact hrestored.trans h.restored
  · intro before payload trigger' after hlog
    rcases snoc_split hlog with ⟨hother, -⟩ | ⟨later, -, hold⟩
    · cases hother
    · exact h.triggers before payload trigger' later hold
  -- The trigger moves from those that wait to those answered.
  · rw [hanswered, htriggers, hpending, List.append_assoc, List.singleton_append]
    exact ((List.perm_cons_erase hmem).symm.append_left _).trans h.answered

/-- A report. -/
theorem Told.report (h : Told log s) (hrecord : recordRecovery s.managed payload = .ok (m, trigger)) :
    Told (log ++ [.reported payload trigger])
      { s with managed := m, pending := s.pending ++ trigger.toList } := by
  obtain ⟨hmode, hrestored, htrigger, -⟩ := recordRecovery_ok hrecord
  have hpayloads : payloadsOf (log ++ [.reported payload trigger]) =
      payloadsOf log ++ [payload] := by
    simp [payloadsOf]
  have htriggers : triggersOf (log ++ [.reported payload trigger]) =
      triggersOf log ++ trigger.toList := by
    cases trigger <;> simp [triggersOf]
  have hanswered : answeredOf (log ++ [.reported payload trigger]) = answeredOf log := by
    simp [answeredOf]
  constructor
  · rw [hpayloads, lastReport_snoc, ← h.mode]
    exact hmode
  · rw [hpayloads, lastReport_snoc, ← h.restored]
    exact hrestored
  · intro before payload' trigger' after hlog
    rcases snoc_split hlog with ⟨hsame, -, rfl⟩ | ⟨later, -, hold⟩
    · obtain ⟨rfl, rfl⟩ := Event.reported.inj hsame
      rw [htrigger, recoveryTrigger, h.mode, h.restored, incident]
    · exact h.triggers before payload' trigger' later hold
  · rw [hanswered, htriggers, ← List.append_assoc]
    exact h.answered.append_right _

theorem Told.step {a : Time × ConfigStep} (h : Told log s) (hok : s.ok a) :
    Told (log ++ s.out deviceId spell describe a) (s.step deviceId spell describe a) := by
  obtain ⟨now, action⟩ := a
  cases action with
  | set payload mode =>
      rw [Recovering.out, List.append_nil, Recovering.step]
      dsimp only
      cases hset : setDesiredConfig now payload mode s.managed with
      | error e => exact h
      | ok m =>
          obtain ⟨ms, -, hm⟩ := bind_eq_ok hset
          obtain rfl := Except.ok.inj hm
          exact ⟨h.mode, h.restored, h.triggers, h.answered⟩
  | restore desired mode =>
      rw [Recovering.out, List.append_nil]
      exact ⟨h.mode, h.restored, h.triggers, h.answered⟩
  | central b =>
      rw [Recovering.out, List.append_nil]
      exact h.of_kept rfl rfl
  | feature v =>
      rw [Recovering.out, List.append_nil]
      exact h.of_kept rfl rfl
  | queue f =>
      rw [Recovering.out, List.append_nil]
      exact h.of_kept rfl rfl
  | push user newId =>
      rw [Recovering.out, List.append_nil]
      exact h.of_kept kept_pushDesiredConfig rfl
  | heartbeat payload refused =>
      rw [Recovering.out, Recovering.step]
      dsimp only
      cases hrecord : recordRecovery s.managed payload with
      | error e => rwa [List.append_nil]
      | ok r =>
          obtain ⟨m, trigger⟩ := r
          cases refused with
          | true =>
              dsimp only
              rwa [if_pos rfl, if_pos rfl, List.append_nil]
          | false => exact h.report hrecord
  | recover trigger newId => exact h.answer hok kept_recovered rfl
  | lose trigger => exact h.answer hok rfl rfl

theorem Told.run {fleet : Fleet} {enabled : Json} {as : List (Time × ConfigStep)}
    (has : Admits (Recovering.step deviceId spell describe) Recovering.ok
      (Recovering.start fleet enabled) as) :
    Told (emitted (Recovering.step deviceId spell describe)
        (Recovering.out deviceId spell describe) (Recovering.start fleet enabled) as)
      (Runs.run (Recovering.step deviceId spell describe) (Recovering.start fleet enabled) as) := by
  have hstart : Told [] (Recovering.start fleet enabled) :=
    ⟨rfl, rfl, by simp, List.Perm.refl _⟩
  exact emitted_invariant (I := Told) (fun _ _ _ h hok => h.step hok) hstart has

/-! ### Pushes -/

/-- What a push after a recovery needs. -/
structure Ready (deviceId : String) (spell : Json → String) (s : Recovering) (now : Time)
    (newId : String) : Prop where
  feature : isFeatureEnabled spell s.enabled
  central : s.managed.centralManagementEnabled
  desired : ∃ ms, s.managed.desiredConfig = some ms ∧ ms ≠ [] ∧
    ∀ k ∈ ms.map Prod.fst, k ∈ applyConfigAllowedTopLevel
  device : (s.fleet.device deviceId).isSome
  fresh : s.fleet.command newId = none
  expires : minTime ≤ now + seconds 600 ∧ now + seconds 600 ≤ maxTime

theorem validatePayload_config {ms : Members} {x : Json} :
    validatePayload "apply_config" (.obj ms) = .ok x ↔
      ms ≠ [] ∧ (∀ k ∈ ms.map Prod.fst, k ∈ applyConfigAllowedTopLevel) ∧ x = .obj ms := by
  have hconfig : validatePayload "apply_config" (.obj ms) = validateApplyConfig (.obj ms) := by
    rw [validatePayload, Json.orEmpty_obj]
    rfl
  rw [hconfig]
  cases ms with
  | nil => simp [validateApplyConfig]
  | cons m ms =>
      rw [validateApplyConfig]
      split
      · next hnone =>
          rw [List.filter_eq_nil_iff] at hnone
          have hkeys : ∀ k ∈ (m :: ms).map Prod.fst, k ∈ applyConfigAllowedTopLevel :=
            fun k hk => not_not.mp fun hout => hnone k hk (decide_eq_true hout)
          exact ⟨fun h => ⟨List.cons_ne_nil _ _, hkeys, (Except.ok.inj h).symm⟩,
            fun h => congrArg Except.ok h.2.2.symm⟩
      · next hsome =>
          constructor
          · intro h
            cases h
          · intro h
            refine absurd (List.filter_eq_nil_iff.mpr fun k hk hout => ?_) hsome
            exact of_decide_eq_true hout (h.2.1 k hk)

theorem expiry_config {now expires : Time} : expiry now (.int 600) = .ok expires ↔
    (minTime ≤ now + seconds 600 ∧ now + seconds 600 ≤ maxTime) ∧ expires = now + seconds 600 := by
  have hexpiry : expiry now (.int 600) =
      if minTime ≤ now + seconds 600 ∧ now + seconds 600 ≤ maxTime then .ok (now + seconds 600)
      else .error .overflowError := rfl
  rw [hexpiry]
  split
  · next hfits => exact ⟨fun h => ⟨hfits, (Except.ok.inj h).symm⟩, fun h => congrArg _ h.2.symm⟩
  · next hout =>
      constructor
      · intro h
        cases h
      · intro h
        exact absurd h.1 hout

theorem enqueueable_push {f : Fleet} {newId : String} {ms : Members} {user : Option String} :
    Enqueueable f now newId (pushArgs deviceId ms user) ↔
      (ms ≠ [] ∧ ∀ k ∈ ms.map Prod.fst, k ∈ applyConfigAllowedTopLevel) ∧
        (f.device deviceId).isSome ∧ f.command newId = none ∧
        minTime ≤ now + seconds 600 ∧ now + seconds 600 ≤ maxTime := by
  constructor
  · rintro ⟨-, ⟨x, hpayload⟩, ⟨expires, hexpiry⟩, ⟨d, hdevice, -⟩, hfresh⟩
    obtain ⟨hne, hkeys, -⟩ := validatePayload_config.mp hpayload
    have hfound : f.device deviceId = some d := hdevice
    exact ⟨⟨hne, hkeys⟩, by rw [hfound]; rfl, hfresh, (expiry_config.mp hexpiry).1⟩
  · rintro ⟨⟨hne, hkeys⟩, hdevice, hfresh, hexpires⟩
    obtain ⟨d, hfound⟩ := Option.isSome_iff_exists.mp hdevice
    have hpower : "apply_config" ∉ powerTypes := by decide
    exact
      { type := (by decide : "apply_config" ∈ allowedTypes)
        payload := ⟨.obj ms, validatePayload_config.mpr ⟨hne, hkeys, rfl⟩⟩
        expiry := ⟨_, expiry_config.mpr ⟨hexpires, rfl⟩⟩
        device := ⟨d, hfound, fun h => hpower h.1⟩
        fresh := hfresh }

theorem Ready.enqueueable {newId : String} {ms : Members}
    (hdesired : s.managed.desiredConfig = some ms) (h : Ready deviceId spell s now newId) :
    Enqueueable s.fleet now newId (pushArgs deviceId ms none) := by
  obtain ⟨ms', hdesired', hconfig⟩ := h.desired
  obtain rfl : ms = ms' := Option.some.inj (hdesired.symm.trans hdesired')
  exact enqueueable_push.mpr ⟨hconfig, h.device, h.fresh, h.expires⟩

/-- A push that is made has what it needs. -/
theorem ready_of_enqueued {newId : String}
    (h : (s.recovered deviceId spell describe now newId).2.2.enqueued = true) :
    Ready deviceId spell s now newId := by
  unfold Recovering.recovered maybePushAfterRecovery at h
  split at h
  · cases h
  · cases h
  · next ms hnil hdesired =>
      split at h
      · cases h
      · next hfeature =>
          unfold pushDesiredConfig at h
          split at h
          · cases h
          · next hcentral =>
              rw [hdesired] at h
              split at h
              · cases h
              · cases h
              · next ms' hnil' hsame =>
                  obtain rfl := Option.some.inj hsame
                  split at h
                  · next f cmd event henqueue =>
                      have hpush := enqueueable_push.mp (enqueueForDevice_eq_ok_iff.mp henqueue).1
                      obtain ⟨hconfig, hdevice, hfresh, hexpires⟩ := hpush
                      exact ⟨not_not.mp hfeature, not_not.mp hcentral, ⟨ms, hdesired, hconfig⟩,
                        hdevice, hfresh, hexpires⟩
                  · cases h

/-- One command carries the configuration as it is. -/
theorem Ready.recovered {newId : String} {ms : Members}
    (hdesired : s.managed.desiredConfig = some ms) (h : Ready deviceId spell s now newId) :
    (s.recovered deviceId spell describe now newId).2.2.enqueued = true ∧
      (s.recovered deviceId spell describe now newId).2.1.commands = s.fleet.commands ++
        [newCommand now newId (pushArgs deviceId ms none) (.obj ms) (now + seconds 600)] := by
  obtain ⟨r, henqueue⟩ := enqueueForDevice_isOk_iff.mpr (h.enqueueable hdesired)
  obtain ⟨hpush, target, payload, expires, -, hpayload, hexpiry, rfl⟩ :=
    enqueueForDevice_eq_ok_iff.mp henqueue
  obtain ⟨hne, -, rfl⟩ := validatePayload_config.mp hpayload
  obtain ⟨-, rfl⟩ := expiry_config.mp hexpiry
  cases ms with
  | nil => exact absurd rfl hne
  | cons m ms =>
      have hrecovered : s.recovered deviceId spell describe now newId =
          pushDesiredConfig deviceId describe now newId none s.managed s.fleet := by
        unfold Recovering.recovered maybePushAfterRecovery
        rw [hdesired]
        dsimp only
        rw [if_neg (not_not.mpr h.feature)]
      rw [hrecovered]
      unfold pushDesiredConfig
      rw [if_neg (not_not.mpr h.central), hdesired]
      dsimp only
      rw [henqueue]
      exact ⟨rfl, rfl⟩

/-- What `set_desired_config` stores is what a push can carry. -/
def Pushable (desired : Option Members) : Prop :=
  ∀ ms, desired = some ms → ms ≠ [] ∧ ∀ k ∈ ms.map Prod.fst, k ∈ applyConfigAllowedTopLevel

theorem checkDesiredConfig_ok {x : Json} {mode : Option String} {ms : Members}
    (h : checkDesiredConfig x mode = .ok ms) :
    ∀ k ∈ ms.map Prod.fst, k ∈ applyConfigAllowedTopLevel := by
  unfold checkDesiredConfig at h
  split at h
  · next ms' =>
      obtain ⟨u, hkeys, h⟩ := bind_eq_ok h
      obtain ⟨u', -, h⟩ := bind_eq_ok h
      obtain ⟨u'', -, h⟩ := bind_eq_ok h
      obtain rfl := Except.ok.inj h
      rw [checkKeys] at hkeys
      split at hkeys
      · next hnone =>
          intro k hk
          have hallowed := List.filter_eq_nil_iff.mp hnone k hk
          exact not_not.mp fun hout => hallowed (decide_eq_true hout)
      · cases hkeys
  · cases h

theorem pushable_setDesiredConfig {mode : Option String} {x : Json}
    (h : setDesiredConfig now x mode m = .ok m') : Pushable m'.desiredConfig := by
  obtain ⟨ms, hcheck, hm⟩ := bind_eq_ok h
  obtain rfl := Except.ok.inj hm
  intro ms' hms'
  dsimp only at hms'
  split at hms'
  · cases hms'
  · next hne =>
      obtain rfl := Option.some.inj hms'
      exact ⟨hne, checkDesiredConfig_ok hcheck⟩

theorem desiredConfig_of_kept (h : m'.kept = m.kept) : m'.desiredConfig = m.desiredConfig :=
  (Prod.mk.inj (Prod.mk.inj h).2).2

/-- Without restored backups. -/
theorem pushable_run {fleet : Fleet} {enabled : Json} {as : List (Time × ConfigStep)}
    (hunrestored : ∀ a ∈ as, ∀ desired mode, a.2 ≠ .restore desired mode) :
    Pushable (Runs.run (Recovering.step deviceId spell describe) (Recovering.start fleet enabled)
      as).managed.desiredConfig := by
  have hstart : Pushable (Recovering.start fleet enabled).managed.desiredConfig := by
    intro ms h
    cases h
  refine labels_invariant (I := fun _ (s : Recovering) => Pushable s.managed.desiredConfig) as ?_ hstart
  rintro pre s ⟨now, action⟩ ha hs
  cases action with
  | set payload mode =>
      rw [Recovering.step]
      dsimp only
      cases hset : setDesiredConfig now payload mode s.managed with
      | error e => exact hs
      | ok m => exact pushable_setDesiredConfig hset
  | restore desired mode => exact absurd rfl (hunrestored _ ha desired mode)
  | central b => exact hs
  | feature v => exact hs
  | queue f => exact hs
  | lose trigger => exact hs
  | push user newId => exact (desiredConfig_of_kept kept_pushDesiredConfig).symm ▸ hs
  | recover trigger newId => exact (desiredConfig_of_kept kept_recovered).symm ▸ hs
  | heartbeat payload refused =>
      rw [Recovering.step]
      dsimp only
      cases hrecord : recordRecovery s.managed payload with
      | error e => exact hs
      | ok r =>
          obtain ⟨m, trigger⟩ := r
          cases refused with
          | true => exact hs
          | false => exact (recordRecovery_ok hrecord).2.2.2.symm ▸ hs

end

/-- **Recoveries.**  However heartbeats, edits of the desired configuration, restored backups,
settings, pushes and lost processes come in turn:

* the triggers are those that the full list of reports has, and each is answered at most once;
* between two triggers of one kind the device has reported that the first incident was over, or a
  new one had begun;
* a push is made exactly when it has what it needs, and then one command has the configuration;
* what operators set, and no backup restored, always has the keys that a push needs. -/
theorem recoveries (deviceId : String) (spell : Json → String) (describe : CommandError → String)
    {fleet : Fleet} {enabled : Json} {as : List (Time × ConfigStep)}
    (has : Admits (Recovering.step deviceId spell describe) Recovering.ok
      (Recovering.start fleet enabled) as) :
    Told (emitted (Recovering.step deviceId spell describe)
        (Recovering.out deviceId spell describe) (Recovering.start fleet enabled) as)
      (run (Recovering.step deviceId spell describe) (Recovering.start fleet enabled) as) ∧
    (∀ before p mid q after trigger, emitted (Recovering.step deviceId spell describe)
        (Recovering.out deviceId spell describe) (Recovering.start fleet enabled) as =
          before ++ .reported p (some trigger) :: (mid ++ .reported q (some trigger) :: after) →
      ∃ r ∈ payloadsOf mid, Rearms trigger r) ∧
    (∀ s : Recovering,
        s = run (Recovering.step deviceId spell describe) (Recovering.start fleet enabled) as →
      ∀ now newId, ((s.recovered deviceId spell describe now newId).2.2.enqueued = true ↔
          Ready deviceId spell s now newId) ∧
        ∀ ms, s.managed.desiredConfig = some ms → Ready deviceId spell s now newId →
          (s.recovered deviceId spell describe now newId).2.1.commands = s.fleet.commands ++
            [newCommand now newId (pushArgs deviceId ms none) (.obj ms) (now + seconds 600)]) ∧
    ((∀ a ∈ as, ∀ desired mode, a.2 ≠ .restore desired mode) → Pushable
      (run (Recovering.step deviceId spell describe) (Recovering.start fleet enabled)
        as).managed.desiredConfig) := by
  have htold := Told.run has
  refine ⟨htold, fun before p mid q after trigger hlog => ?_, fun s _ now newId => ⟨⟨?_, ?_⟩, ?_⟩,
    pushable_run⟩
  · have hp := htold.triggers _ _ _ _ hlog
    have hsplit : before ++ .reported p (some trigger) ::
          (mid ++ .reported q (some trigger) :: after) =
        (before ++ .reported p (some trigger) :: mid) ++ .reported q (some trigger) :: after := by
      simp
    have hq := htold.triggers _ _ _ _ (hlog.trans hsplit)
    have hpayloads : payloadsOf (before ++ .reported p (some trigger) :: mid) =
        payloadsOf before ++ p :: payloadsOf mid := by
      simp [payloadsOf]
    rw [hpayloads] at hq
    exact exists_rearms hp.symm hq.symm
  · exact ready_of_enqueued
  · intro hready
    obtain ⟨ms, hdesired, -⟩ := hready.desired
    exact (hready.recovered hdesired).1
  · intro ms hdesired hready
    exact (hready.recovered hdesired).2

/-- The one device of a hub. -/
def rackFleet : Fleet := ⟨[⟨"rack", none, none, false, false, none⟩], [], []⟩

/-- A device with a configuration restores an old one. -/
def restoringRun : List (Time × ConfigStep) :=
  [(1, .set (.obj [("device_name", .str "Rack")]) (some "smart_plug")), (2, .feature (.str " On")),
    (3, .heartbeat [("last_known_good_restored", .bool true)] false)]

def restoring : Recovering :=
  run (Recovering.step "rack" (fun _ => "") fun _ => "")
    (Recovering.start rackFleet (.bool false)) restoringRun

theorem ready_restoring : Ready "rack" (fun _ => "") restoring 4 "command" where
  feature := by decide
  central := rfl
  desired := ⟨_, rfl, by decide, by decide⟩
  device := rfl
  fresh := rfl
  expires := by decide

/-- It gets the configuration again. -/
theorem restoring_recovered :
    (restoring.recovered "rack" (fun _ => "") (fun _ => "") 4 "command").2.2.enqueued = true :=
  have hadmits : Admits (Recovering.step "rack" (fun _ => "") fun _ => "") Recovering.ok
      (Recovering.start rackFleet (.bool false)) restoringRun :=
    ⟨trivial, trivial, trivial, trivial⟩
  ((recoveries "rack" (fun _ => "") (fun _ => "") hadmits).2.2.1 restoring rfl 4 "command").1.mpr
    ready_restoring

end RebooterHub.Devices
