import Mathlib.Data.List.Sort
import RebooterHub.Data.Equality
import RebooterHub.Watchdog.Actions
import RebooterHub.Watchdog.Validation

/-!
# Watchdog — Conflicts

`services/conflict_detection`: what a proposed rule has against the rules and schedules there are.

* `contradiction_symm`: a rule is told to contradict another exactly when the other, proposed
  against it, is.

The dictionaries hold whatever JSON is in them; an error is the name of the exception it ends in.
-/

namespace RebooterHub.Conflicts
open RebooterHub.Fallible
open RebooterHub.Schedules (resolveTargetDevices)
open RebooterHub.Watchdog (className isOneOf)

/-- The severities. -/
inductive Severity where
  | block
  | warn
  | info
deriving DecidableEq, Repr

/-- The kinds of conflict. -/
inductive ConflictKind where
  | contradictoryActions
  | watchdogVsSchedule
  | overlappingSchedules
  | duplicateRule
  | powerCycleLoop
  | modeRuleMismatch
deriving DecidableEq, Repr

/-- `ConflictFinding`. -/
structure ConflictFinding where
  severity : Severity
  kind : ConflictKind
  message : String
  relatedIds : List Json
deriving DecidableEq, Repr

/-- The keys of a rule-shaped dictionary that the detection reads. -/
structure RuleShape where
  id : String
  name : String
  probe : Json
  target : Json
  action : Json
  failureThreshold : Json
  windowSeconds : Json
  cooldownSeconds : Json
deriving DecidableEq, Repr

/-- A serialized schedule. -/
structure ScheduleShape where
  id : String
  name : String
  kind : String
  target : Json
  atTimeUtc : Option String
  startAt : Option String
deriving DecidableEq, Repr

/-- The columns of a `devices` row that the detection reads. -/
structure DeviceMode where
  id : String
  displayName : Option String
  desiredMode : Option String
deriving DecidableEq, Repr

/-- What the detection reads besides the rules: the tables, as the caller's scope shows them. -/
structure Surroundings where
  /-- Group and device. -/
  memberships : List (String × String)
  schedules : List ScheduleShape
  devices : List DeviceMode
  /-- `str(x)` of a value that is not a text. -/
  str : Json → String

/-- `str(x)`. -/
def Surroundings.text (env : Surroundings) : Json → String
  | .str s => s
  | x => env.str x

/-! ### What an action does to power -/

/-- `_KEEP_ON_ACTIONS`. -/
def keepOnActions : List String := ["relay_on"]

/-- `_KEEP_OFF_ACTIONS`. -/
def keepOffActions : List String := ["hold_off", "relay_off"]

/-- `_CYCLE_ACTIONS`. -/
def cycleActions : List String := ["cycle"]

/-- A set of at most one kind: none for a falsy one. -/
def kindSet (kind : Json) : Except PyError (List Json) :=
  if !kind.truthy then .ok []
  else if kind.hashable then .ok [kind]
  else .error .typeError

/-- The kind of a binding's edge. -/
def edgeKind (action : Json) (edge : String) : Except PyError (List Json) := do
  let sub ← action.get edge
  kindSet (← sub.orEmpty.get "kind")

/-- `_leaf_action_kinds`. -/
def leafKinds (action : Json) : Except PyError (List Json) := do
  let action := action.orEmpty
  let kind ← action.get "kind"
  if kind = .str "binding" then
    return (← edgeKind action "on_active") ++ (← edgeKind action "on_clear")
  kindSet kind

/-- `_power_intents`. -/
structure Intents where
  on : Bool
  off : Bool
  cycle : Bool
deriving DecidableEq, Repr

/-- The intents of some leaf kinds. -/
def intentsOf (kinds : List Json) : Intents where
  on := kinds.any (isOneOf · keepOnActions)
  off := kinds.any (isOneOf · keepOffActions)
  cycle := kinds.any (isOneOf · cycleActions)

/-- `_power_intents`. -/
def powerIntents (action : Json) : Except PyError Intents := do
  return intentsOf (← leafKinds action)

/-- `_action_drives_power`. -/
def actionDrivesPower (action : Json) : Except PyError Bool := do
  let kinds ← leafKinds action
  return kinds.any (isOneOf · (keepOnActions ++ keepOffActions ++ cycleActions))

/-- One keeps power on and the other off. -/
def Intents.oppose (a b : Intents) : Bool := a.on && b.off || a.off && b.on

/-! ### Signatures -/

/-- The order of pairs of a text and an integer. -/
def PairLe (a b : String × Int) : Prop := a.1 < b.1 ∨ a.1 = b.1 ∧ a.2 ≤ b.2

instance : DecidableRel PairLe := fun _ _ => inferInstanceAs (Decidable (_ ∨ _ ∧ _))

/-- An entry of `targets` in an internet probe's signature; what is no object is left out. -/
def targetPair (env : Surroundings) (t : Json) : Except PyError (Option (String × Int)) :=
  match t with
  | .obj ms => do
    let host := (ms.lookup "host").getD (.str "")
    let port := Watchdog.field ms "port"
    return some (env.text host, ← (if port.truthy then port else .int 0).toInt)
  | _ => return none

/-- `_probe_signature`; a tuple is an array. -/
def probeSignature (env : Surroundings) (probe : Json) : Except PyError Json := do
  let probe := probe.orEmpty
  let kind ← probe.get "kind"
  if kind = .str "internet" then
    let targets ← (← probe.get "targets").orNil.iter
    let pairs ← targets.mapM (targetPair env)
    let sorted := (pairs.reduceOption).insertionSort PairLe
    return .arr [.str "internet", .arr (sorted.map fun p => .arr [.str p.1, .int p.2])]
  if kind = .str "ping" then return .arr [.str "ping", ← probe.get "host"]
  if kind = .str "tcp" then return .arr [.str "tcp", ← probe.get "host", ← probe.get "port"]
  if kind = .str "http" then return .arr [.str "http", ← probe.get "url"]
  if kind = .str "dns" then return .arr [.str "dns", ← probe.get "hostname"]
  if kind = .str "gateway" then return .arr [.str "gateway"]
  if isOneOf kind ["power_above", "power_below", "power_zero_while_on"] then
    return .arr [kind, ← probe.get "device_id", ← probe.get "threshold_w",
      ← probe.get "near_zero_threshold_w"]
  return .arr [kind, ← probe.get "source_id", ← probe.get "entity_id", ← probe.get "app_name",
    ← probe.get "topic", ← probe.get "field", ← probe.get "interface", ← probe.get "show"]

/-- A key of a binding's edge. -/
def edgeItem (action : Json) (edge key : String) : Except PyError Json := do
  (← action.get edge).orEmpty.get key

/-- `_action_signature`. -/
def actionSignature (action : Json) : Except PyError Json := do
  let action := action.orEmpty
  let kind ← action.get "kind"
  if kind = .str "cycle" then return .arr [.str "cycle", ← action.get "power_off_seconds"]
  if kind = .str "binding" then
    return .arr [.str "binding", ← edgeItem action "on_active" "kind",
      ← edgeItem action "on_active" "scene_id", ← edgeItem action "on_clear" "kind",
      ← edgeItem action "on_clear" "scene_id"]
  if kind = .str "apply_scene" then return .arr [.str "apply_scene", ← action.get "scene_id"]
  return .arr [kind]

/-- What the duplicate check compares. -/
def ruleSignature (env : Surroundings) (r : RuleShape) : Except PyError Json := do
  let probe ← probeSignature env r.probe.orEmpty
  let action ← actionSignature r.action.orEmpty
  let kind ← r.target.orEmpty.get "kind"
  let id ← r.target.orEmpty.get "id"
  let tag ← r.target.orEmpty.get "tag"
  return .arr [probe, action, kind, if id.truthy then id else tag]

/-! ### Targets -/

/-- `_resolve_devices`: a set, empty where anything is raised. -/
def resolveDevices (env : Surroundings) (target : Json) : List Json :=
  match resolveTargetDevices env.memberships target.orEmpty with
  | .ok ids => if ids.all Json.hashable then ids else []
  | .error _ => []

/-- `a & b` of two sets. -/
def shared (a b : List Json) : List Json := a.filter fun x => b.any x.same

/-- The order of device ids. -/
def idLe : Json → Json → Bool
  | .str a, .str b => a ≤ b
  | _, _ => true

/-- `sorted(...)` of device ids. -/
def sortedIds (ids : List Json) : List Json := ids.insertionSort (idLe · ·)

/-! ### The checks -/

/-- Check 1, against one rule. -/
def contradictoryWith (env : Surroundings) (devices : List Json) (intents : Intents)
    (r : RuleShape) : Except PyError (List ConflictFinding) := do
  let common := shared devices (resolveDevices env r.target)
  if common.isEmpty then return []
  let other ← powerIntents r.action.orEmpty
  if intents.oppose other then
    return [{
      severity := .block
      kind := .contradictoryActions
      message := "This rule and rule \"" ++ r.name ++ "\" drive opposite power states on the " ++
        "same device — one wants power ON, the other OFF. Mains power would stick or oscillate."
      relatedIds := .str r.id :: sortedIds common }]
  return []

/-- Check 2, against one schedule. -/
def scheduleFight (env : Surroundings) (devices : List Json) (intents : Intents)
    (s : ScheduleShape) : List ConflictFinding :=
  let common := shared devices (resolveDevices env s.target)
  if s.kind ≠ "power_cycle" ∨ common.isEmpty then []
  else [{
    severity := if intents.off then .block else .warn
    kind := .watchdogVsSchedule
    message := "This rule and schedule \"" ++ s.name ++ "\" both control power on the same " ++
      "device — " ++
      if intents.off then
        "the rule holds the device powered off while the schedule power-cycles it on a timer " ++
          "— they fight."
      else
        "both act on the device's power — confirm the timed cycle will not interrupt the " ++
          "watchdog's recovery."
    relatedIds := .str s.id :: sortedIds common }]

/-- `s.get("at_time_utc") or s.get("start_at") or ""`. -/
def ScheduleShape.slot (s : ScheduleShape) : String :=
  (s.atTimeUtc.filter (· ≠ "")).getD (s.startAt.getD "")

/-- The slots that a power schedule takes on some devices. -/
def slotsTaken (env : Surroundings) (devices : List Json) (s : ScheduleShape) :
    List ((Json × String) × ScheduleShape) :=
  if s.kind ≠ "power_cycle" ∨ s.slot = "" then []
  else (shared devices (resolveDevices env s.target)).map fun dev => ((dev, s.slot), s)

/-- Check 3. -/
def slotCollisions (env : Surroundings) (devices : List Json) : List ConflictFinding :=
  let taken := env.schedules.flatMap (slotsTaken env devices)
  (taken.map (·.1)).eraseDups.flatMap fun key =>
    let slot := (taken.filter (·.1 = key)).map (·.2)
    if slot.length ≤ 1 then []
    else [{
      severity := .warn
      kind := .overlappingSchedules
      message := "The device this rule targets already has " ++ toString slot.length ++
        " power schedules firing at " ++ key.2 ++
        " — overlapping power actions at the same time."
      relatedIds := slot.map (fun s => .str s.id) ++ [key.1] }]

/-- Check 4, against one rule. -/
def duplicateOf (env : Surroundings) (signature : Json) (r : RuleShape) :
    Except PyError (List ConflictFinding) := do
  let other ← ruleSignature env r
  if other.same signature then
    return [{
      severity := .info
      kind := .duplicateRule
      message := "Rule \"" ++ r.name ++ "\" already does the same thing — same probe, same " ++
        "target, same action. This rule is likely redundant."
      relatedIds := [.str r.id] }]
  return []

/-- `int(x)`, `None` where it raises or there is nothing to convert. -/
def intOrNone (x : Json) : Option Int :=
  match x.toInt with
  | .ok n => some n
  | .error _ => none

/-- `_holdoff_seconds`. -/
def holdoffSeconds (action : Json) : Except PyError (Option Int) := do
  let action := action.orEmpty
  if (← action.get "kind") ≠ .str "cycle" then return none
  return intOrNone (← action.get "post_reboot_holdoff_seconds")

/-- A finding about the rule's own timing. -/
def loopFinding (message : String) : ConflictFinding := ⟨.warn, .powerCycleLoop, message, []⟩

/-- Check 5. -/
def powerCycleLoops (r : RuleShape) : Except PyError (List ConflictFinding) := do
  match ← holdoffSeconds r.action.orEmpty with
  | none => return []
  | some holdoff =>
    let cooled := match intOrNone r.cooldownSeconds with
      | some cooldown =>
        if cooldown < holdoff then
          [loopFinding ("cooldown_seconds (" ++ toString cooldown ++ "s) is shorter than this " ++
            "rule's post-reboot hold-off (" ++ toString holdoff ++ "s) — the rule can re-fire " ++
            "before the device has finished coming back, causing a power-cycle loop.")]
        else []
      | none => []
    let window := match intOrNone r.failureThreshold, intOrNone r.windowSeconds with
      | some ft, some ws =>
        if ft ≠ 0 ∧ ws ≠ 0 ∧ ft * ws < holdoff then
          [loopFinding ("failure_threshold x window_seconds (" ++ toString ft ++ " x " ++
            toString ws ++ " = " ++ toString (ft * ws) ++ "s) is shorter than the post-reboot " ++
            "hold-off (" ++ toString holdoff ++ "s) — the device cannot finish rebooting " ++
            "before the rule fires again.")]
        else []
      | _, _ => []
    return cooled ++ window

/-- Check 6, of one device. -/
def modeMismatch (env : Surroundings) (dev : Json) : Except String (List ConflictFinding) :=
  match dev with
  | .str id => match env.devices.find? (·.id = id) with
    | some d =>
      if d.desiredMode = some "smart_plug" then
        .ok [{
          severity := .warn
          kind := .modeRuleMismatch
          message := "Device \"" ++ (d.displayName.filter (· ≠ "")).getD id ++ "\" is set to " ++
            "smart-plug mode, which is not meant to run watchdog rules. Confirm you meant to " ++
            "change the device's role."
          relatedIds := [.str id] }]
      else .ok []
    | none => .ok []
  -- the id is compared with a text column
  | _ => .error "ProgrammingError"

/-- An exception, by its name. -/
def named {α : Type} : Except PyError α → Except String α := Except.mapError className

/-- Most severe first. -/
def bySeverity (findings : List ConflictFinding) : List ConflictFinding :=
  findings.filter (·.severity = .block) ++ findings.filter (·.severity = .warn) ++
    findings.filter (·.severity = .info)

/-- Check 1; `acts` says that the proposed rule drives the power of some device. -/
def contradictions (env : Surroundings) (acts : Bool) (devices : List Json) (intents : Intents)
    (existing : List RuleShape) : Except PyError (List (List ConflictFinding)) :=
  if acts then existing.mapM (contradictoryWith env devices intents) else .ok []

/-- Check 6. -/
def modeMismatches (env : Surroundings) (acts : Bool) (devices : List Json) :
    Except String (List (List ConflictFinding)) :=
  if acts then (sortedIds devices).mapM (modeMismatch env) else .ok []

/-- `detect_conflicts`. -/
def detectConflicts (env : Surroundings) (rules : List RuleShape) (proposed : RuleShape)
    (excludeRuleId : Option String) : Except String (List ConflictFinding) := do
  let devices := resolveDevices env proposed.target
  let existing := rules.filter fun r => some r.id ≠ excludeRuleId
  let intents ← named (powerIntents proposed.action.orEmpty)
  let drives ← named (actionDrivesPower proposed.action.orEmpty)
  let acts := drives && !devices.isEmpty
  let contradictory ← named (contradictions env acts devices intents existing)
  let fights := if acts then env.schedules.flatMap (scheduleFight env devices intents) else []
  let signature ← named (ruleSignature env proposed)
  let duplicates ← named (existing.mapM (duplicateOf env signature))
  let loops ← named (powerCycleLoops proposed)
  let modes ← modeMismatches env acts devices
  return bySeverity (contradictory.flatten ++ fights ++ slotCollisions env devices ++
    duplicates.flatten ++ loops ++ modes.flatten)

/-! ### What a check leaves -/

section
variable {env : Surroundings} {r : RuleShape} {action : Json} {devices : List Json}
  {intents : Intents} {findings : List ConflictFinding}

@[simp] theorem orEmpty_orEmpty (x : Json) : x.orEmpty.orEmpty = x.orEmpty := by
  by_cases hx : x.truthy
  · have hself : x.orEmpty = x := if_pos hx
    rw [hself, hself]
  · have hempty : x.orEmpty = .obj [] := if_neg hx
    rw [hempty]
    rfl

theorem named_eq_ok {α : Type} {x : Except PyError α} {y : α} : named x = .ok y ↔ x = .ok y := by
  cases x with
  | error e => simp [named, Except.mapError]
  | ok z => simp [named, Except.mapError]

/-- Whether an action drives power is read off its intents. -/
theorem actionDrivesPower_of_intents (h : powerIntents action = .ok intents) :
    actionDrivesPower action = .ok (intents.on || intents.off || intents.cycle) := by
  obtain ⟨kinds, hkinds, hintents⟩ := bind_eq_ok h
  obtain rfl := Except.ok.inj hintents
  rw [actionDrivesPower, hkinds, ok_bind]
  refine congrArg Except.ok (Bool.eq_iff_iff.mpr ?_)
  simp only [intentsOf, isOneOf, List.any_append, Bool.or_eq_true, List.any_eq_true, exists_or,
    and_or_left]

/-- Where the intents are read, the timing is: both ask an object for its kind. -/
theorem powerCycleLoops_of_intents (h : powerIntents r.action.orEmpty = .ok intents) :
    ∃ loops, powerCycleLoops r = .ok loops := by
  obtain ⟨kinds, hkinds, -⟩ := bind_eq_ok h
  obtain ⟨kind, hkind, -⟩ := bind_eq_ok hkinds
  rw [orEmpty_orEmpty] at hkind
  have hholdoff : ∃ holdoff, holdoffSeconds r.action.orEmpty = .ok holdoff := by
    rw [holdoffSeconds, orEmpty_orEmpty]
    cases haction : r.action.orEmpty with
    | obj ms =>
        simp only [Json.get_obj, ok_bind]
        split
        · exact ⟨none, rfl⟩
        · exact ⟨_, rfl⟩
    | null | bool x | int n | float q | str s | arr xs =>
        rw [haction] at hkind
        cases hkind
  obtain ⟨holdoff, hholdoff⟩ := hholdoff
  rw [powerCycleLoops, hholdoff, ok_bind]
  cases holdoff with
  | none => exact ⟨[], rfl⟩
  | some n => exact ⟨_, rfl⟩

/-- A rule is compared for a duplicate when it has a signature, and then told as nothing else. -/
theorem duplicateOf_eq_ok {signature : Json} (h : duplicateOf env signature r = .ok findings) :
    (∃ other, ruleSignature env r = .ok other) ∧ ∀ f ∈ findings, f.kind = .duplicateRule := by
  obtain ⟨other, hother, hfindings⟩ := bind_eq_ok h
  refine ⟨⟨other, hother⟩, ?_⟩
  split at hfindings
  all_goals
    obtain rfl := Except.ok.inj hfindings
    simp

theorem scheduleFight_kind {s : ScheduleShape} :
    ∀ f ∈ scheduleFight env devices intents s, f.kind = .watchdogVsSchedule := by
  intro f hf
  rw [scheduleFight] at hf
  split at hf
  · cases hf
  · rw [List.mem_singleton.mp hf]

theorem slotCollisions_kind : ∀ f ∈ slotCollisions env devices, f.kind = .overlappingSchedules := by
  intro f hf
  obtain ⟨key, -, hf⟩ := List.mem_flatMap.mp hf
  dsimp only at hf
  split at hf
  · cases hf
  · rw [List.mem_singleton.mp hf]

theorem powerCycleLoops_kind (h : powerCycleLoops r = .ok findings) :
    ∀ f ∈ findings, f.kind = .powerCycleLoop := by
  obtain ⟨holdoff, -, h⟩ := bind_eq_ok h
  cases holdoff with
  | none =>
      obtain rfl := Except.ok.inj h
      simp
  | some n =>
      obtain rfl := Except.ok.inj h
      intro f hf
      rcases List.mem_append.mp hf with hf | hf
      · split at hf
        · split at hf
          · rw [List.mem_singleton.mp hf, loopFinding]
          · cases hf
        · cases hf
      · split at hf
        · split at hf
          · rw [List.mem_singleton.mp hf, loopFinding]
          · cases hf
        · cases hf

theorem modeMismatch_kind {dev : Json} (h : modeMismatch env dev = .ok findings) :
    ∀ f ∈ findings, f.kind = .modeRuleMismatch := by
  intro f hf
  cases dev with
  | str id =>
      rw [modeMismatch] at h
      split at h
      · split at h
        · obtain rfl := Except.ok.inj h
          rw [List.mem_singleton.mp hf]
        · obtain rfl := Except.ok.inj h
          cases hf
      · obtain rfl := Except.ok.inj h
        cases hf
  | null | bool x | int n | float q | arr xs | obj ms => cases h

/-- A device's mode is looked up when its id is a text. -/
theorem exists_modeMismatch {dev : Json} :
    (∃ findings, modeMismatch env dev = .ok findings) ↔ ∃ id, dev = .str id := by
  cases dev with
  | str id =>
      refine iff_of_true ?_ ⟨id, rfl⟩
      rw [modeMismatch]
      split
      · split
        · exact ⟨_, rfl⟩
        · exact ⟨[], rfl⟩
      · exact ⟨[], rfl⟩
  | null | bool x | int n | float q | arr xs | obj ms => simp [modeMismatch]

/-- What the first check says of a rule. -/
theorem contradictoryWith_eq_ok (h : contradictoryWith env devices intents r = .ok findings) :
    (∃ f ∈ findings, f.kind = .contradictoryActions) ↔
      shared devices (resolveDevices env r.target) ≠ [] ∧
        ∃ other, powerIntents r.action.orEmpty = .ok other ∧ intents.oppose other := by
  rw [contradictoryWith] at h
  split at h
  · next hnone =>
      obtain rfl := Except.ok.inj h
      simp [List.isEmpty_iff.mp hnone]
  · next hcommon =>
      obtain ⟨other, hother, h⟩ := bind_eq_ok h
      rw [List.isEmpty_iff] at hcommon
      split at h
      · next hoppose =>
          obtain rfl := Except.ok.inj h
          simp [hcommon, hother, hoppose]
      · next hoppose =>
          obtain rfl := Except.ok.inj h
          simp [hother, hoppose]

theorem contradictoryWith_kind (h : contradictoryWith env devices intents r = .ok findings) :
    ∀ f ∈ findings, f.kind = .contradictoryActions := by
  intro f hf
  rw [contradictoryWith] at h
  split at h
  · obtain rfl := Except.ok.inj h
    cases hf
  · obtain ⟨other, -, h⟩ := bind_eq_ok h
    split at h
    · obtain rfl := Except.ok.inj h
      rw [List.mem_singleton.mp hf]
    · obtain rfl := Except.ok.inj h
      cases hf

/-- The first check raises on a rule only where it needs its intents. -/
theorem exists_contradictoryWith (env : Surroundings) (devices : List Json) (intents : Intents)
    {other : Intents} (h : powerIntents r.action.orEmpty = .ok other) :
    ∃ findings, contradictoryWith env devices intents r = .ok findings := by
  rw [contradictoryWith, h]
  split
  · exact ⟨[], rfl⟩
  · rw [ok_bind]
    split
    · exact ⟨_, rfl⟩
    · exact ⟨[], rfl⟩

theorem exists_duplicateOf (env : Surroundings) (signature : Json) {other : Json}
    (h : ruleSignature env r = .ok other) :
    ∃ findings, duplicateOf env signature r = .ok findings := by
  rw [duplicateOf, h, ok_bind]
  split
  · exact ⟨_, rfl⟩
  · exact ⟨[], rfl⟩

end

/-! ### Symmetry -/

/-- The rule `a`, proposed where the rule `b` is, is told to contradict it. -/
def ReportsContradiction (env : Surroundings) (a b : RuleShape) : Prop :=
  ∃ findings, detectConflicts env [b] a none = .ok findings ∧
    ∃ f ∈ findings, f.kind = .contradictoryActions

/-- Two sets have a device in common. -/
def Meets (a b : List Json) : Prop := ∃ x ∈ a, ∃ y ∈ b, x.same y

section
variable {env : Surroundings} {a b : RuleShape} {devices devices' : List Json}

theorem shared_ne_nil : shared devices devices' ≠ [] ↔ Meets devices devices' := by
  simp [shared, Meets, List.filter_eq_nil_iff]

/-- The ids in a resolved target can be held in a set. -/
theorem resolveDevices_hashable (target : Json) : ∀ d ∈ resolveDevices env target, d.hashable := by
  intro d hd
  rw [resolveDevices] at hd
  split at hd
  · split at hd
    · next hall => exact List.all_eq_true.mp hall d hd
    · cases hd
  · cases hd

/-- A target stands for one id, or for ids that are texts. -/
theorem resolveTargetDevices_cases {memberships : List (String × String)} {target : Json}
    {ids : List Json} (h : resolveTargetDevices memberships target = .ok ids) :
    (∃ d, ids = [d]) ∨ ∀ d ∈ ids, ∃ id, d = .str id := by
  rw [resolveTargetDevices] at h
  split at h
  · next kind id _ _ =>
      by_cases hdevice : kind = .str "device"
      · rw [if_pos hdevice] at h
        obtain rfl := Except.ok.inj h
        split
        · exact .inl ⟨id, rfl⟩
        · exact .inr nofun
      · rw [if_neg hdevice] at h
        split at h
        · split at h
          · obtain rfl := Except.ok.inj h
            exact .inr nofun
          · split at h
            · obtain rfl := Except.ok.inj h
              refine .inr fun d hd => ?_
              obtain ⟨id, -, rfl⟩ := List.mem_map.mp hd
              exact ⟨id, rfl⟩
            · cases h
        · obtain rfl := Except.ok.inj h
          exact .inr nofun
  · cases h

theorem resolveDevices_cases (env : Surroundings) (target : Json) :
    (∃ d, resolveDevices env target = [d]) ∨
      ∀ d ∈ resolveDevices env target, ∃ id, d = .str id := by
  rw [resolveDevices]
  split
  · next ids hids =>
      split
      · exact resolveTargetDevices_cases hids
      · exact .inr nofun
  · exact .inr nofun

theorem Meets.symm (h : Meets (resolveDevices env a.target) (resolveDevices env b.target)) :
    Meets (resolveDevices env b.target) (resolveDevices env a.target) := by
  obtain ⟨x, hx, y, hy, hxy⟩ := h
  refine ⟨y, hy, x, hx, ?_⟩
  rwa [Json.same_comm (resolveDevices_hashable b.target y hy)
    (resolveDevices_hashable a.target x hx)]

/-- Of two targets with a device in common, both have ids that are texts or neither. -/
theorem Meets.texts (h : Meets (resolveDevices env a.target) (resolveDevices env b.target))
    (ha : ∀ d ∈ resolveDevices env a.target, ∃ id, d = .str id) :
    ∀ d ∈ resolveDevices env b.target, ∃ id, d = .str id := by
  obtain ⟨x, hx, y, hy, hxy⟩ := h
  obtain ⟨id, rfl⟩ := ha x hx
  rw [Json.str_same, decide_eq_true_eq] at hxy
  rcases resolveDevices_cases env b.target with ⟨d, hd⟩ | htexts
  · intro e he
    rw [hd, List.mem_singleton] at he hy
    exact ⟨id, he.trans (hy.symm.trans hxy)⟩
  · exact htexts

theorem mem_bySeverity {findings : List ConflictFinding} {f : ConflictFinding} :
    f ∈ bySeverity findings ↔ f ∈ findings := by
  cases hseverity : f.severity with
  | block | warn | info => simp [bySeverity, hseverity]

/-- The mode of each device is looked up when their ids are texts. -/
theorem modes_eq_ok_iff :
    (∃ modes, (sortedIds devices).mapM (modeMismatch env) = .ok modes) ↔
      ∀ d ∈ devices, ∃ id, d = .str id := by
  have hmem : ∀ d, d ∈ sortedIds devices ↔ d ∈ devices := fun d => List.mem_insertionSort _
  constructor
  · rintro ⟨modes, hmodes⟩ d hd
    obtain ⟨findings, -, hd⟩ := exists_mem_of_mapM hmodes ((hmem d).mpr hd)
    exact exists_modeMismatch.mp ⟨findings, hd⟩
  · intro htexts
    exact exists_mapM fun d hd => exists_modeMismatch.mpr (htexts d ((hmem d).mp hd))

theorem oppose_comm (i j : Intents) : i.oppose j = j.oppose i := by
  rw [Intents.oppose, Intents.oppose, Bool.or_comm, Bool.and_comm i.off, Bool.and_comm i.on]

/-- What the detection went through, and which check a finding comes from. -/
theorem detectConflicts_eq_ok {findings : List ConflictFinding}
    (h : detectConflicts env [b] a none = .ok findings) :
    ∃ i drives contradictory s duplicates,
      powerIntents a.action.orEmpty = .ok i ∧
      contradictions env (drives && !(resolveDevices env a.target).isEmpty)
        (resolveDevices env a.target) i [b] = .ok contradictory ∧
      ruleSignature env a = .ok s ∧ [b].mapM (duplicateOf env s) = .ok duplicates ∧
      (∃ modes, modeMismatches env (drives && !(resolveDevices env a.target).isEmpty)
        (resolveDevices env a.target) = .ok modes) ∧
      ∀ f ∈ findings, (f.kind = .contradictoryActions → f ∈ contradictory.flatten) ∧
        (f.kind = .duplicateRule → f ∈ duplicates.flatten) := by
  have hexisting : [b].filter (fun r => decide (some r.id ≠ none)) = [b] := rfl
  obtain ⟨i, hi, h⟩ := bind_eq_ok h
  obtain ⟨drives, -, h⟩ := bind_eq_ok h
  obtain ⟨contradictory, hcontradictory, h⟩ := bind_eq_ok h
  obtain ⟨s, hs, h⟩ := bind_eq_ok h
  obtain ⟨duplicates, hduplicates, h⟩ := bind_eq_ok h
  obtain ⟨loops, hloops, h⟩ := bind_eq_ok h
  obtain ⟨modes, hmodes, h⟩ := bind_eq_ok h
  obtain rfl := Except.ok.inj h
  rw [named_eq_ok] at hi hs hduplicates hloops hcontradictory
  rw [hexisting] at hcontradictory hduplicates
  refine ⟨i, drives, contradictory, s, duplicates, hi, hcontradictory, hs, hduplicates,
    ⟨modes, hmodes⟩, fun f hf => ?_⟩
  -- a finding of another kind comes from neither of the two checks
  have hother : ∀ {kind}, f.kind = kind → kind ≠ .contradictoryActions → kind ≠ .duplicateRule →
      (f.kind = .contradictoryActions → f ∈ contradictory.flatten) ∧
        (f.kind = .duplicateRule → f ∈ duplicates.flatten) := fun h hne hne' =>
    ⟨fun hkind => absurd (h.symm.trans hkind) hne, fun hkind => absurd (h.symm.trans hkind) hne'⟩
  rw [mem_bySeverity] at hf
  simp only [List.mem_append] at hf
  rcases hf with ((((hf | hf) | hf) | hf) | hf) | hf
  · refine ⟨fun _ => hf, fun hkind => ?_⟩
    obtain ⟨xs, hxs, hf⟩ := List.mem_flatten.mp hf
    rw [contradictions] at hcontradictory
    split at hcontradictory
    · obtain ⟨r, -, hr⟩ := mem_of_mapM hcontradictory hxs
      exact absurd ((contradictoryWith_kind hr f hf).symm.trans hkind) (by decide)
    · obtain rfl := Except.ok.inj hcontradictory
      cases hxs
  · split at hf
    · obtain ⟨schedule, -, hf⟩ := List.mem_flatMap.mp hf
      exact hother (scheduleFight_kind f hf) (by decide) (by decide)
    · cases hf
  · exact hother (slotCollisions_kind f hf) (by decide) (by decide)
  · refine ⟨fun hkind => ?_, fun _ => hf⟩
    obtain ⟨xs, hxs, hf⟩ := List.mem_flatten.mp hf
    obtain ⟨r, -, hr⟩ := mem_of_mapM hduplicates hxs
    exact absurd (((duplicateOf_eq_ok hr).2 f hf).symm.trans hkind) (by decide)
  · exact hother (powerCycleLoops_kind hloops f hf) (by decide) (by decide)
  · obtain ⟨xs, hxs, hf⟩ := List.mem_flatten.mp hf
    rw [modeMismatches] at hmodes
    split at hmodes
    · obtain ⟨dev, -, hdev⟩ := mem_of_mapM hmodes hxs
      exact hother (modeMismatch_kind hdev f hf) (by decide) (by decide)
    · obtain rfl := Except.ok.inj hmodes
      cases hxs

/-- A rule told to contradict another has what it takes. -/
theorem parts_of_reportsContradiction (h : ReportsContradiction env a b) :
    (∃ i j, powerIntents a.action.orEmpty = .ok i ∧ powerIntents b.action.orEmpty = .ok j ∧
        i.oppose j) ∧
      Meets (resolveDevices env a.target) (resolveDevices env b.target) ∧
      (∀ d ∈ resolveDevices env a.target, ∃ id, d = .str id) ∧
      (∃ s, ruleSignature env a = .ok s) ∧ ∃ s, ruleSignature env b = .ok s := by
  obtain ⟨findings, hfindings, f, hf, hkind⟩ := h
  obtain ⟨i, drives, contradictory, s, duplicates, hi, hcontradictory, hs, hduplicates,
    ⟨modes, hmodes⟩, horigin⟩ := detectConflicts_eq_ok hfindings
  obtain ⟨ys, -, hys⟩ := exists_mem_of_mapM hduplicates List.mem_cons_self
  obtain ⟨xs, hxs, hf⟩ := List.mem_flatten.mp ((horigin f hf).1 hkind)
  cases hacts : drives && !(resolveDevices env a.target).isEmpty with
  | false =>
      rw [hacts] at hcontradictory
      obtain rfl := Except.ok.inj hcontradictory
      cases hxs
  | true =>
      rw [hacts] at hcontradictory hmodes
      obtain ⟨c, hc, hchecked⟩ := mem_of_mapM hcontradictory hxs
      obtain rfl := List.mem_singleton.mp hc
      obtain ⟨hmeets, j, hj, hoppose⟩ := (contradictoryWith_eq_ok hchecked).mp ⟨f, hf, hkind⟩
      exact ⟨⟨i, j, hi, hj, hoppose⟩, shared_ne_nil.mp hmeets, modes_eq_ok_iff.mp ⟨modes, hmodes⟩,
        ⟨s, hs⟩, (duplicateOf_eq_ok hys).1⟩

/-- A rule that has what it takes is told to contradict the other. -/
theorem reportsContradiction_of_parts {i j : Intents}
    (hi : powerIntents a.action.orEmpty = .ok i) (hj : powerIntents b.action.orEmpty = .ok j)
    (hoppose : i.oppose j)
    (hmeets : Meets (resolveDevices env a.target) (resolveDevices env b.target))
    (htexts : ∀ d ∈ resolveDevices env a.target, ∃ id, d = .str id)
    (ha : ∃ s, ruleSignature env a = .ok s) (hb : ∃ s, ruleSignature env b = .ok s) :
    ReportsContradiction env a b := by
  have hexisting : [b].filter (fun r => decide (some r.id ≠ none)) = [b] := rfl
  obtain ⟨s, hs⟩ := ha
  obtain ⟨t, ht⟩ := hb
  have hacts : ((i.on || i.off || i.cycle) && !(resolveDevices env a.target).isEmpty) = true := by
    obtain ⟨x, hx, -⟩ := hmeets
    have hdevices : (resolveDevices env a.target).isEmpty = false := by
      rw [List.isEmpty_eq_false_iff]
      exact List.ne_nil_of_mem hx
    rw [hdevices]
    rw [Intents.oppose] at hoppose
    grind
  obtain ⟨first, hfirst⟩ := exists_contradictoryWith env (resolveDevices env a.target) i hj
  obtain ⟨duplicates, hduplicates⟩ := exists_duplicateOf env s ht
  obtain ⟨loops, hloops⟩ := powerCycleLoops_of_intents hi
  obtain ⟨modes, hmodes⟩ := modes_eq_ok_iff.mpr htexts
  obtain ⟨f, hf, hkind⟩ :=
    (contradictoryWith_eq_ok hfirst).mpr ⟨shared_ne_nil.mpr hmeets, j, hj, hoppose⟩
  have hdrives := actionDrivesPower_of_intents hi
  have hcontradictory : contradictions env true (resolveDevices env a.target) i [b] = .ok [first] := by
    rw [contradictions, if_pos rfl, List.mapM_cons, hfirst]
    rfl
  have hsecond : [b].mapM (duplicateOf env s) = .ok [duplicates] := by
    rw [List.mapM_cons, hduplicates]
    rfl
  have hlooked : modeMismatches env true (resolveDevices env a.target) = .ok modes := hmodes
  have hrun : detectConflicts env [b] a none = .ok (bySeverity ([first].flatten ++
      env.schedules.flatMap (scheduleFight env (resolveDevices env a.target) i) ++
      slotCollisions env (resolveDevices env a.target) ++ [duplicates].flatten ++ loops ++
      modes.flatten)) := by
    simp only [detectConflicts, hexisting, named_eq_ok.mpr hi, named_eq_ok.mpr hdrives, ok_bind,
      hacts, named_eq_ok.mpr hcontradictory, named_eq_ok.mpr hs, named_eq_ok.mpr hsecond,
      named_eq_ok.mpr hloops, hlooked]
    rfl
  refine ⟨_, hrun, f, mem_bySeverity.mpr ?_, hkind⟩
  simp [hf]

/-- **Contradiction is symmetric.**  Whatever the two rules hold and whatever devices there are,
one is told to contradict the other exactly when the other, proposed against it, is. -/
theorem contradiction_symm (env : Surroundings) (a b : RuleShape) :
    ReportsContradiction env a b ↔ ReportsContradiction env b a := by
  have hflip : ∀ a b, ReportsContradiction env a b → ReportsContradiction env b a := by
    intro a b h
    obtain ⟨⟨i, j, hi, hj, hoppose⟩, hmeets, htexts, ha, hb⟩ := parts_of_reportsContradiction h
    refine reportsContradiction_of_parts hj hi ?_ hmeets.symm (hmeets.texts htexts) hb ha
    rwa [oppose_comm]
  exact ⟨hflip a b, hflip b a⟩

end

end RebooterHub.Conflicts
