import RebooterHub.Commands.ServiceApi
import RebooterHub.Schedules.Isolation
import RebooterHub.Watchdog.Actions

/-!
# Automation — Protection

The paths a command is enqueued on, and protected equipment.

A device, a service token and a group reach the queue with what their request carries; a watchdog
tick and a schedule tick make their calls themselves.  Whatever the path, its step is made of
calls of `enqueue_for_device` that carry the override of the request and, for the two automated
paths, none (`EnqueuePath.run_enqueues`).

* `power_rows_spare_protected`: in any sequence of enqueues on any paths, between which devices
  are put under protection and taken out of it, a power command is created for a protected
  device on an override only, and the automated paths carry none.
-/

namespace RebooterHub.Schedules
open RebooterHub.Commands

/-! ### A schedule tick's calls -/

/-- The relay cycles the loop of a tick asks for: those of the rows up to the first that
raises. -/
def attemptedCycles (inp : TickInput) : Fleet → List Schedule → List (Schedule × Json)
  | _, [] => []
  | fleet, s :: ss =>
    dueCycles inp [s] ++
      match (tickRow inp fleet s).raised with
      | some _ => []
      | none => attemptedCycles inp (tickRow inp fleet s).fleet ss

/-- The relay cycles a tick asks for. -/
def tickCycles (inp : TickInput) (p : Plant) : List (Schedule × Json) :=
  if inp.schedulerDisabled then [] else attemptedCycles inp p.fleet p.schedules

theorem tickRows_fleet {inp : TickInput} (hon : inp.schedulerDisabled = false) (fleet : Fleet)
    (ss : List Schedule) :
    (tickRows inp fleet ss).fleet = enqueueAll inp fleet (attemptedCycles inp fleet ss) := by
  induction ss generalizing fleet with
  | nil => rfl
  | cons s ss ih =>
      rw [tickRows, attemptedCycles, enqueueAll_append, ← tickRow_fleet hon]
      cases hraised : (tickRow inp fleet s).raised with
      | some e => rfl
      | none => exact ih _

theorem tick_fleet (inp : TickInput) (p : Plant) :
    (tick inp p).1.fleet = enqueueAll inp p.fleet (tickCycles inp p) := by
  rw [tick, tickCycles]
  cases hon : inp.schedulerDisabled with
  | true => rfl
  | false =>
      have hloop := tickRows_fleet hon p.fleet p.schedules
      simp only [Bool.false_eq_true, if_false]
      split
      · exact hloop
      · split <;> exact hloop

theorem enqueues_enqueueCycle {P : EnqueueArgs → Prop} {inp : TickInput} {s : Schedule}
    {did : Json} (h : ∀ d, did = .str d → P (cycleArgs s d)) (fleet : Fleet) :
    Enqueues P fleet (enqueueCycle inp s fleet did).1 := by
  rw [enqueueCycle.eq_def]
  split
  · next d =>
      split
      · next hr => exact .single (h d rfl) hr
      · exact .refl _
  · exact .refl _

theorem enqueues_enqueueAll {P : EnqueueArgs → Prop} {inp : TickInput}
    {cycles : List (Schedule × Json)} (h : ∀ s d, (s, .str d) ∈ cycles → P (cycleArgs s d))
    (fleet : Fleet) : Enqueues P fleet (enqueueAll inp fleet cycles) := by
  induction cycles generalizing fleet with
  | nil => exact .refl _
  | cons c cycles ih =>
      obtain ⟨s, did⟩ := c
      have hone : Enqueues P fleet (enqueueCycle inp s fleet did).1 :=
        enqueues_enqueueCycle (fun d hd => h s d (hd ▸ List.mem_cons_self)) fleet
      exact hone.trans (ih (fun s d hd => h s d (List.mem_cons_of_mem _ hd)) _)

/-- The devices a tick cycles. -/
def tickSwitchedOn (inp : TickInput) (p : Plant) : List String :=
  (tickCycles inp p).filterMap fun (_, did) => Watchdog.asText did

theorem tick_enqueues (inp : TickInput) (p : Plant) :
    Enqueues (Watchdog.Call (tickSwitchedOn inp p)) p.fleet (tick inp p).1.fleet := by
  rw [tick_fleet]
  refine enqueues_enqueueAll (fun s d hd => ⟨rfl, fun _ => ?_⟩) p.fleet
  exact List.mem_filterMap.mpr ⟨_, hd, rfl⟩

end RebooterHub.Schedules

namespace RebooterHub.Automation
open RebooterHub.Commands RebooterHub.Runs
open RebooterHub.Schedules (Plant Schedule MaintenanceFlag)
open RebooterHub.Watchdog (ActionEnv Call WatchdogRule tickFleet)

/-! ### The paths -/

/-- The paths to the queue, each with what it is given. -/
inductive EnqueuePath where
  /-- A page or an endpoint of an operator, or the hub itself, for one device. -/
  | device (now : Time) (newId : String) (a : EnqueueArgs)
  /-- `services_enqueue`. -/
  | service (hash : String → String) (tokens : List ApiToken) (sites : List (String × String))
      (subscribers : List (Subscriber BusEvent)) (now : Time) (newId authorization : String)
      (deviceId : String) (body : Option Json)
  | group (memberships : List (String × String)) (now : Time) (newId : Nat → String)
      (a : GroupArgs)
  | watchdog (env : ActionEnv) (inp : Watchdog.TickInput) (rules : List WatchdogRule)
  | schedules (inp : Schedules.TickInput) (rows : List Schedule) (flag : MaintenanceFlag)

namespace EnqueuePath

/-- Nobody asked for it. -/
def automated : EnqueuePath → Bool
  | watchdog .. | schedules .. => true
  | device .. | service .. | group .. => false

/-- The override of the request; a tick has no request. -/
def overridden : EnqueuePath → Bool
  | device _ _ a => a.overrideLockout
  | service _ _ _ _ _ _ _ deviceId body => match enqueueArgs deviceId body with
    | .ok a => a.overrideLockout
    | .error _ => false
  | group _ _ _ a => a.overrideLockout
  | watchdog .. | schedules .. => false

/-- The tables after the path was taken. -/
def run (f : Fleet) : EnqueuePath → Fleet
  | device now newId a => match enqueueForDevice f now newId a with
    | .ok r => r.1
    | .error _ => f
  | service hash tokens sites subscribers now newId authorization deviceId body =>
      (servicesEnqueue hash ⟨tokens, sites, f, subscribers⟩ now newId authorization deviceId
        body).1.fleet
  | group memberships now newId a => match enqueueForGroup f memberships now newId a with
    | .ok r => r.1
    | .error _ => f
  | watchdog env inp rules => tickFleet env inp rules f
  | schedules inp rows flag => (Schedules.tick inp ⟨rows, f, flag⟩).1.fleet

/-- The request of a service makes one call, with the override of its body. -/
theorem service_enqueues (hash : String → String) (p : Portal) (now : Time)
    (newId authorization deviceId : String) (body : Option Json) :
    Enqueues (fun b => ∃ a, enqueueArgs deviceId body = .ok a ∧ b = a) p.fleet
      (servicesEnqueue hash p now newId authorization deviceId body).1.fleet := by
  have hfleet := resolve_fleet hash p now authorization
  rw [servicesEnqueue]
  dsimp only
  split
  · rw [hfleet]
    exact .refl _
  · split
    · rw [hfleet]
      exact .refl _
    · next a hargs =>
        split
        · rw [hfleet]
          exact .refl _
        · next hr =>
            rw [hfleet] at hr
            exact .single ⟨a, hargs, rfl⟩ hr

/-- **What a path does.**  It makes calls of `enqueue_for_device`, each with the override of the
request. -/
theorem run_enqueues (f : Fleet) (p : EnqueuePath) :
    Enqueues (fun b => b.overrideLockout = p.overridden) f (p.run f) := by
  cases p with
  | device now newId a =>
      rw [run]
      split
      · next hr => exact .single rfl hr
      · exact .refl f
  | service hash tokens sites subscribers now newId authorization deviceId body =>
      refine (service_enqueues hash ⟨tokens, sites, f, subscribers⟩ now newId authorization
        deviceId body).mono fun b => ?_
      rintro ⟨a, hargs, rfl⟩
      simp only [overridden, hargs]
  | group memberships now newId a =>
      rw [run]
      split
      · next hr => exact enqueues_enqueueForGroup hr
      · exact .refl f
  | watchdog env inp rules =>
      exact (Watchdog.tickFleet_enqueues env inp rules f).mono fun _ ha => ha.noOverride
  | schedules inp rows flag =>
      exact (Schedules.tick_enqueues inp ⟨rows, f, flag⟩).mono fun _ ha => ha.noOverride

end EnqueuePath

/-! ### Runs -/

/-- A step: a path is taken, or the protection of a device is set. -/
inductive FleetStep where
  | enqueue (p : EnqueuePath)
  | setProtected (deviceId : String) (on : Bool)

/-- The tables after a step. -/
def fleetStep (f : Fleet) : FleetStep → Fleet
  | .enqueue p => p.run f
  | .setProtected deviceId on => f.updateDevice deviceId fun d => { d with isProtected := on }

/-- Taking path `p` at `f` honours protection: each of its calls has the override of the request,
no call of an automated path has one, and without one no power command is created for a device
that is protected. -/
structure SparesProtected (f : Fleet) (p : EnqueuePath) : Prop where
  calls : Enqueues (fun a => a.overrideLockout = p.overridden) f (p.run f)
  automated : p.automated = true → Enqueues (fun a => a.overrideLockout = false) f (p.run f)
  rows : ∀ c ∈ (p.run f).commands.drop f.commands.length, c.type ∈ powerTypes →
    f.Protected c.deviceId → p.overridden = true

theorem overridden_of_automated {p : EnqueuePath} (h : p.automated = true) :
    p.overridden = false := by
  cases p with
  | device | service | group => cases h
  | watchdog | schedules => rfl

/-- Every path honours protection. -/
theorem sparesProtected (f : Fleet) (p : EnqueuePath) : SparesProtected f p where
  calls := p.run_enqueues f
  automated hauto := by
    rw [← overridden_of_automated hauto]
    exact p.run_enqueues f
  rows := by
    intro c hc hpower ⟨d, hd, hprotected⟩
    obtain ⟨new, hnew, hcreated⟩ := (p.run_enqueues f).guarded.created
    rw [hnew, List.drop_left] at hc
    obtain ⟨a, ⟨ha, d', hd', hguard⟩, hdid, htype⟩ := hcreated c hc
    rw [hdid] at hd'
    obtain rfl : d = d' := Option.some.inj (hd.symm.trans hd')
    rw [← ha]
    by_contra hoverride
    exact hguard ⟨htype ▸ hpower, hprotected, hoverride⟩

/-- **Protected equipment.**  In every sequence of enqueues through any paths, with devices
protected and unprotected in between, each enqueue honours protection as it stands then. -/
theorem power_rows_spare_protected (f : Fleet) (steps : List FleetStep) :
    Admits fleetStep (fun g s => ∀ p, s = .enqueue p → SparesProtected g p) f steps :=
  admits_of_forall (fun g _ p _ => sparesProtected g p) f steps

end RebooterHub.Automation
