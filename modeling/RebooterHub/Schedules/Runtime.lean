import RebooterHub.Commands.Queue
import RebooterHub.Schedules.Rows

/-!
# Schedules — Runtime

`schedule_runtime.tick`: one tick over the stored schedules.

The commands of a power cycle are committed one by one, and the maintenance flag by its own
transaction; the schedule rows are committed once, after the loop and the reconciliation of the
flag.  What raises on the way (`compute_next_run_at`, which stands outside the `try`, and the
final flush) rolls the rows back and leaves the commands (`tick`).
-/

namespace RebooterHub.Schedules
open RebooterHub.Commands

/-! ### The maintenance flag -/

/-- The value of the flag `maintenance_mode_active`, without its `set_at`, which nothing reads. -/
structure MaintenanceFlag where
  on : Bool
  reason : Option String
  operatorOverrideAt : Option Time
deriving DecidableEq, Repr

/-- The flag's default. -/
def MaintenanceFlag.default : MaintenanceFlag := ⟨false, none, none⟩

/-- The reason, cut to 200 characters. -/
def cutReason (reason : Option String) : Option String :=
  reason.map fun text =>
    if 200 < text.length then String.ofList (text.toList.take 197) ++ "..." else text

/-- `set_maintenance_mode`, at `now`.  Every reason but the reconciler's own two stamps an
override. -/
def setMaintenanceMode (on : Bool) (reason : Option String) (now : Time) : MaintenanceFlag :=
  let reason := cutReason reason
  { on := on
    reason := reason
    operatorOverrideAt :=
      if reason = some "schedule" ∨ reason = some "schedule_window_ended" then none
      else some now }

/-- The schedule's maintenance window is open. -/
def windowOpen (now : Time) (s : Schedule) : Bool :=
  s.enabled && s.kind = .maintenance &&
    match s.lastRunAt with
    | none => false
    | some at_ => decide (at_ ≤ now ∧ now ≤ at_ + seconds s.durationSeconds)

/-- The start of the first open window. -/
def activeWindowStart (schedules : List Schedule) (now : Time) : Option Time :=
  (schedules.find? (windowOpen now)).bind (·.lastRunAt)

/-- `_reconcile_maintenance_flag`. -/
def reconcileMaintenanceFlag (schedules : List Schedule) (flag : MaintenanceFlag) (now : Time) :
    MaintenanceFlag :=
  match activeWindowStart schedules now with
  | some start =>
    let operatorOverrodeInThisWindow := flag.operatorOverrideAt.any fun at_ => start ≤ at_
    if !flag.on && !operatorOverrodeInThisWindow then setMaintenanceMode true (some "schedule") now
    else flag
  | none =>
    if flag.on && flag.reason = some "schedule" then
      setMaintenanceMode false (some "schedule_window_ended") now
    else flag

/-! ### Firing -/

/-- What one tick is given: the clock, the switch, the group memberships, and the id of the
command that is enqueued as the `n`-th row of the table. -/
structure TickInput where
  now : Time
  /-- `REBOOTER_SCHEDULER_DISABLED=1`. -/
  schedulerDisabled : Bool
  /-- Group and device. -/
  memberships : List (String × String)
  newId : Nat → String

/-- `resolve_target_devices`; an error is the name of the exception. -/
def resolveTargetDevices (memberships : List (String × String)) (target : Json) :
    Except String (List Json) :=
  match target.get "kind", target.get "id" with
  | .ok kind, .ok id =>
    if kind = .str "device" then .ok (if id.truthy then [id] else [])
    else if kind = .str "group" then
      if !id.truthy then .ok []
      else match id with
        | .str gid => .ok (((memberships.filter (·.1 = gid)).map (·.2)).filter (· ≠ "") |>.map .str)
        -- the id is compared with a text column
        | _ => .error "ProgrammingError"
    else .ok []
  | _, _ => .error "AttributeError"

/-- The arguments of the relay cycle of a schedule on a device. -/
def cycleArgs (s : Schedule) (did : String) : EnqueueArgs where
  deviceId := did
  cmdType := "relay_cycle"
  payload := .obj [("power_off_seconds", .int s.powerOffSeconds),
    ("post_reboot_holdoff_seconds", .int s.postRebootHoldoffSeconds)]
  issuedByUserId := none
  ttlSeconds := .null
  groupId := none
  overrideLockout := false
  setHoldOff := false

/-- One relay cycle: the tables after it, and whether it was enqueued. -/
def enqueueCycle (inp : TickInput) (s : Schedule) (fleet : Fleet) (did : Json) : Fleet × Bool :=
  match did with
  | .str did => match enqueueForDevice fleet inp.now (inp.newId fleet.commands.length)
      (cycleArgs s did) with
    | .ok (fleet, _, _) => (fleet, true)
    | .error _ => (fleet, false)
  -- looking up a device by another value raises
  | _ => (fleet, false)

/-- The tables after the relay cycles on some devices. -/
def enqueueCycles (inp : TickInput) (s : Schedule) : Fleet → List Json → Fleet
  | fleet, [] => fleet
  | fleet, did :: dids => enqueueCycles inp s (enqueueCycle inp s fleet did).1 dids

/-- The number of relay cycles that are enqueued. -/
def countEnqueued (inp : TickInput) (s : Schedule) : Fleet → List Json → Nat
  | _, [] => 0
  | fleet, did :: dids =>
    let (fleet, accepted) := enqueueCycle inp s fleet did
    countEnqueued inp s fleet dids + if accepted then 1 else 0

/-- `_fire_power_cycle`. -/
def firePowerCycle (inp : TickInput) (fleet : Fleet) (s : Schedule) :
    Except String (Fleet × Outcome) := do
  let dids ← resolveTargetDevices inp.memberships s.target.orEmpty
  if dids.isEmpty then return (fleet, .noTargetDevices)
  let enqueued := countEnqueued inp s fleet dids
  let failed := dids.length - enqueued
  return (enqueueCycles inp s fleet dids,
    if failed = 0 then .enqueued enqueued else .enqueuedFailed enqueued failed)

/-- `_fire_schedule`. -/
def fireSchedule (inp : TickInput) (fleet : Fleet) (s : Schedule) :
    Except String (Fleet × Outcome) :=
  match s.kind with
  | .powerCycle => firePowerCycle inp fleet s
  | .maintenance => .ok (fleet, .maintenanceWindowOpen)
  | .other text => .ok (fleet, .unsupportedKind text)

/-- The tables and the outcome of a schedule that fires, an exception recorded as its outcome. -/
def fired (inp : TickInput) (fleet : Fleet) (s : Schedule) : Fleet × Outcome :=
  match fireSchedule inp fleet s with
  | .ok r => r
  | .error name => (fleet, .error name)

/-! ### The tick -/

/-- The schedule is due. -/
def isDue (now : Time) (s : Schedule) : Bool :=
  s.enabled && s.nextRunAt.any fun at_ => decide (at_ ≤ now)

/-- The schedule has not been given its first run. -/
def isUnscheduled (s : Schedule) : Bool := s.enabled && s.nextRunAt.isNone

/-- What one schedule's part of the tick leaves behind. -/
structure RowTick where
  row : Schedule
  fleet : Fleet
  raised : Option PyError

/-- The row with `next_run_at` recomputed. -/
def rearm (now : Time) (s : Schedule) (fleet : Fleet) : RowTick :=
  match computeNextRunAt s now with
  | .ok next => ⟨{ s with nextRunAt := next }, fleet, none⟩
  | .error e => ⟨s, fleet, some e⟩

/-- One schedule's part of the tick: the body of its loop. -/
def tickRow (inp : TickInput) (fleet : Fleet) (s : Schedule) : RowTick :=
  if isUnscheduled s then rearm inp.now s fleet
  else if isDue inp.now s then
    let (fleet, outcome) := fired inp fleet s
    rearm inp.now { s with lastOutcome := some outcome, lastRunAt := some inp.now } fleet
  else ⟨s, fleet, none⟩

/-- What a tick works on. -/
structure Plant where
  schedules : List Schedule
  fleet : Fleet
  flag : MaintenanceFlag

/-- What the loop leaves behind. -/
structure LoopResult where
  rows : List Schedule
  fleet : Fleet
  raised : Option PyError

/-- The loop of the tick, up to the first exception. -/
def tickRows (inp : TickInput) : Fleet → List Schedule → LoopResult
  | fleet, [] => ⟨[], fleet, none⟩
  | fleet, s :: ss =>
    let t := tickRow inp fleet s
    match t.raised with
    | some e => ⟨t.row :: ss, t.fleet, some e⟩
    | none =>
      let rest := tickRows inp t.fleet ss
      ⟨t.row :: rest.rows, rest.fleet, rest.raised⟩

/-- What leaves the tick. -/
inductive TickError where
  | raised (e : PyError)
  /-- The flush: a text too long for its column. -/
  | dataError
deriving DecidableEq, Repr

/-- The flush writes the rows of the schedules that were due. -/
def flushFits (now : Time) (before after : List Schedule) : Bool :=
  (before.zip after).all fun (s, s') => !isDue now s || s'.lastOutcome.all Outcome.fits

/-- `tick`.  An exception leaves `session_scope` and rolls the schedule rows back. -/
def tick (inp : TickInput) (p : Plant) : Plant × Option TickError :=
  if inp.schedulerDisabled then (p, none)
  else
    let r := tickRows inp p.fleet p.schedules
    match r.raised with
    | some e => ({ p with fleet := r.fleet }, some (.raised e))
    | none =>
      let flag := reconcileMaintenanceFlag r.rows p.flag inp.now
      if flushFits inp.now p.schedules r.rows then (⟨r.rows, r.fleet, flag⟩, none)
      else (⟨p.schedules, r.fleet, flag⟩, some .dataError)

end RebooterHub.Schedules
