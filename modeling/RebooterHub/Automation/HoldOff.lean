import RebooterHub.Automation.Protection
import RebooterHub.Watchdog.Isolation

/-!
# Automation — HoldOff

Hold-off under the automated actors.

`enqueue_for_device` clears a device's hold-off on every command that switches the relay on,
whoever calls; neither the executors of the watchdog nor those of the schedules look at the flag
before they call.  What keeps a device held off is therefore that no action that fires asks for
`relay_on` or `relay_cycle` on it (`AutomatedStep.switchedOn`), or that it is protected.

* `heldOff_run`: in a run of ticks of which each meets this, the device stays held off and no
  command that switches it on is enqueued.
-/

namespace RebooterHub.Automation
open RebooterHub.Commands RebooterHub.Runs
open RebooterHub.Schedules (Schedule MaintenanceFlag)
open RebooterHub.Watchdog (ActionEnv Call WatchdogRule)

/-- A tick of one of the automated actors. -/
inductive AutomatedStep where
  | watchdog (env : ActionEnv) (inp : Watchdog.TickInput) (rules : List WatchdogRule)
  | schedules (inp : Schedules.TickInput) (rows : List Schedule) (flag : MaintenanceFlag)

namespace AutomatedStep

/-- Its path to the queue. -/
def path : AutomatedStep → EnqueuePath
  | watchdog env inp rules => .watchdog env inp rules
  | schedules inp rows flag => .schedules inp rows flag

/-- The devices its actions that fire ask `relay_on` or `relay_cycle` for. -/
def switchedOn (f : Fleet) : AutomatedStep → List String
  | watchdog env inp rules => Watchdog.tickSwitchedOn env inp rules
  | schedules inp rows flag => Schedules.tickSwitchedOn inp ⟨rows, f, flag⟩

end AutomatedStep

/-- The tables after a tick. -/
def automatedStep (f : Fleet) (s : AutomatedStep) : Fleet := s.path.run f

/-- No action that fires switches the device on, unless it is protected. -/
def Spares (did : String) (f : Fleet) (s : AutomatedStep) : Prop :=
  did ∈ s.switchedOn f → f.Protected did

/-- From `f` to `g` the device stayed held off and was not switched on. -/
structure StaysOff (did : String) (f g : Fleet) : Prop where
  heldOff : g.HeldOff did
  commands : ∃ new, g.commands = f.commands ++ new ∧
    ∀ c ∈ new, c.deviceId = did → c.type ∉ powerOnTypes

theorem StaysOff.refl {did : String} {f : Fleet} (h : f.HeldOff did) : StaysOff did f f :=
  ⟨h, [], (List.append_nil _).symm, fun _ hc => absurd hc List.not_mem_nil⟩

theorem StaysOff.trans {did : String} {f g k : Fleet} (h : StaysOff did f g)
    (h' : StaysOff did g k) : StaysOff did f k := by
  obtain ⟨new, hnew, hoff⟩ := h.commands
  obtain ⟨new', hnew', hoff'⟩ := h'.commands
  refine ⟨h'.heldOff, new ++ new', by rw [hnew', hnew, List.append_assoc], fun c hc => ?_⟩
  rcases List.mem_append.mp hc with hc | hc
  · exact hoff c hc
  · exact hoff' c hc

theorem mem_powerTypes {cmdType : String} (h : cmdType ∈ powerOnTypes) : cmdType ∈ powerTypes := by
  revert h
  simp only [powerOnTypes, powerTypes, List.mem_cons, List.not_mem_nil, or_false]
  rintro (rfl | rfl | rfl) <;> simp

/-- The calls of an automated actor. -/
theorem automatedStep_enqueues (f : Fleet) (s : AutomatedStep) :
    Enqueues (Call (s.switchedOn f)) f (automatedStep f s) := by
  cases s with
  | watchdog env inp rules => exact Watchdog.tickFleet_enqueues env inp rules f
  | schedules inp rows flag => exact Schedules.tick_enqueues inp ⟨rows, f, flag⟩

/-- The step: a tick that spares the device leaves it off. -/
theorem staysOff_automatedStep {did : String} {f : Fleet} {s : AutomatedStep}
    (hheld : f.HeldOff did) (hs : Spares did f s) : StaysOff did f (automatedStep f s) := by
  have hcalls := (automatedStep_enqueues f s).guarded
  -- a call for the device that switches it on would have met the guard
  have hspared : ∀ a, Call (s.switchedOn f) a ∧ Guarded f a → a.cmdType ∈ powerOnTypes →
      a.deviceId ≠ did := by
    rintro a ⟨hcall, d, hd, hguard⟩ hon rfl
    obtain ⟨d', hd', hprotected⟩ := hs (hcall.switches hon)
    obtain rfl : d = d' := Option.some.inj (hd.symm.trans hd')
    exact hguard ⟨mem_powerTypes hon, hprotected, by simp [hcall.noOverride]⟩
  refine ⟨hcalls.heldOff hspared hheld, ?_⟩
  obtain ⟨new, hnew, hcreated⟩ := hcalls.created
  refine ⟨new, hnew, fun c hc hdid hon => ?_⟩
  obtain ⟨a, ha, hadid, htype⟩ := hcreated c hc
  exact hspared a ha (htype ▸ hon) (hadid.trans hdid)

/-- **Hold-off under automation.**  In a run of ticks that spare a device that is held off, it
stays held off and nothing that switches it on is enqueued. -/
theorem heldOff_run {did : String} {f : Fleet} {steps : List AutomatedStep}
    (hheld : f.HeldOff did) (hspared : Admits automatedStep (Spares did) f steps) :
    StaysOff did f (run automatedStep f steps) := by
  refine run_invariant (I := StaysOff did f) (fun g s hg hs => ?_) (.refl hheld) hspared
  exact hg.trans (staysOff_automatedStep hg.heldOff hs)

/-- Two devices, the second held off. -/
def oneHeldOff : Fleet :=
  ⟨[⟨"dev_1", none, none, false, false, none⟩, ⟨"dev_2", none, none, false, true, none⟩], [], []⟩

/-- A tick of the watchdog at which the probe of a rule fails that cycles a device. -/
def cycleTick (did : String) : AutomatedStep :=
  .watchdog ⟨0, [], [], fun _ => "cmd_0", fun _ => "", id⟩ (Watchdog.probeTick 0 false).toTickInput
    [{ Watchdog.cycleRule with target := .obj [("kind", .str "device"), ("id", .str did)] }]

/-- A tick of the scheduler at which the power cycle of the first device is due. -/
def nightlyTick : AutomatedStep :=
  .schedules (Schedules.secondDay 0) [Schedules.nightlyCycle] .default

/-- Cycling the first device, by a rule and by a schedule, leaves the second off. -/
theorem heldOff_run_elsewhere :
    StaysOff "dev_2" oneHeldOff (run automatedStep oneHeldOff [cycleTick "dev_1", nightlyTick]) :=
  heldOff_run ⟨_, rfl, rfl⟩
    ⟨fun h => absurd h (by decide), fun h => absurd h (by decide), trivial⟩

/-- A rule that cycles a device switches it on again although an operator holds it off. -/
theorem heldOff_cycled :
    ¬ ∀ did f steps, f.HeldOff did → StaysOff did f (run automatedStep f steps) := by
  intro h
  obtain ⟨d, hd, hoff⟩ := (h "dev_2" oneHeldOff [cycleTick "dev_2"] ⟨_, rfl, rfl⟩).heldOff
  have hcycled : ((run automatedStep oneHeldOff [cycleTick "dev_2"]).device "dev_2").map
      Device.isHeldOff = some false := by decide
  rw [hd, Option.map_some, hoff] at hcycled
  cases hcycled

end RebooterHub.Automation
