import RebooterHub.Schedules.Runtime

/-!
# Schedules — Isolation

What one schedule's stored content can do to the others of a tick.

`RowStep` says what a tick that raises nothing does to a row, `tickRows_spec` what its loop does
to the rows and to the command tables, and `tick_raised_iff` from which content a tick raises.
`schedule_tick_isolated_iff` then says when a tick keeps its schedules apart.
-/

namespace RebooterHub.Schedules
open RebooterHub.Commands

/-! ### What a tick does to a row -/

/-- The kind, recorded as an outcome, fits the outcome's column. -/
def kindFits (s : Schedule) : Bool :=
  match s.kind with
  | .other text => (Outcome.unsupportedKind text).fits
  | _ => true

/-- A row before and after a tick at `now` that raised nothing. -/
inductive RowStep (now : Time) : Schedule → Schedule → Prop where
  | idle {s : Schedule} : isUnscheduled s = false → isDue now s = false → RowStep now s s
  | scheduled {s : Schedule} {next : Option Time} :
      isUnscheduled s = true → computeNextRunAt s now = .ok next →
      RowStep now s { s with nextRunAt := next }
  | fired {s : Schedule} {next : Option Time} {outcome : Outcome} :
      isDue now s = true → outcome.fits = kindFits s →
      computeNextRunAt { s with lastOutcome := some outcome, lastRunAt := some now } now
        = .ok next →
      RowStep now s
        { s with lastOutcome := some outcome, lastRunAt := some now, nextRunAt := next }

theorem isDue_eq_false_of_isUnscheduled {now : Time} {s : Schedule} (h : isUnscheduled s = true) :
    isDue now s = false := by
  simp only [isUnscheduled, Bool.and_eq_true, Option.isNone_iff_eq_none] at h
  simp [isDue, h.2]

theorem fired_fits (inp : TickInput) (fleet : Fleet) (s : Schedule) :
    (fired inp fleet s).2.fits = kindFits s := by
  rw [fired, fireSchedule, kindFits]
  cases hk : s.kind with
  | maintenance | other text => rfl
  | powerCycle =>
      simp only [firePowerCycle]
      cases resolveTargetDevices inp.memberships s.target.orEmpty with
      | error name => rfl
      | ok dids =>
          cases dids with
          | nil => rfl
          | cons did dids =>
              change Outcome.fits (if _ = 0 then Outcome.enqueued _ else .enqueuedFailed _ _) = true
              split <;> rfl

theorem rearm_raised_iff {now : Time} {s : Schedule} {fleet : Fleet} :
    (rearm now s fleet).raised = none ↔ Rearmable s := by
  rw [← computeNextRunAt_isOk_iff s now, rearm]
  cases computeNextRunAt s now <;> simp

/-- The content a tick reads of the schedule can be read: a row that is unscheduled or due is
rearmable. -/
def RowReads (now : Time) (s : Schedule) : Prop :=
  isUnscheduled s = true ∨ isDue now s = true → Rearmable s

theorem tickRow_raised_iff {inp : TickInput} {fleet : Fleet} {s : Schedule} :
    (tickRow inp fleet s).raised = none ↔ RowReads inp.now s := by
  rw [tickRow, RowReads]
  cases hu : isUnscheduled s with
  | true => simp [rearm_raised_iff]
  | false =>
      cases hd : isDue inp.now s with
      | true =>
          simp only [Bool.false_eq_true, if_false, if_true, or_true, forall_const, rearm_raised_iff]
          rfl
      | false => simp

theorem tickRow_step {inp : TickInput} {fleet : Fleet} {s : Schedule}
    (h : (tickRow inp fleet s).raised = none) : RowStep inp.now s (tickRow inp fleet s).row := by
  rw [tickRow] at h ⊢
  cases hu : isUnscheduled s with
  | true =>
      simp only [hu, if_true, rearm] at h ⊢
      cases hn : computeNextRunAt s inp.now with
      | ok next => exact .scheduled hu hn
      | error e => simp [hn] at h
  | false =>
      cases hd : isDue inp.now s with
      | true =>
          simp only [hu, hd, Bool.false_eq_true, if_false, if_true, rearm] at h ⊢
          cases hn : computeNextRunAt { s with
              lastOutcome := some (fired inp fleet s).2, lastRunAt := some inp.now } inp.now with
          | ok next => exact .fired hd (fired_fits inp fleet s) hn
          | error e => simp [hn] at h
      | false => exact .idle hu hd

/-! ### What a tick enqueues -/

/-- The devices a schedule's target resolves to. -/
def targetDevices (inp : TickInput) (s : Schedule) : List Json :=
  match resolveTargetDevices inp.memberships s.target.orEmpty with
  | .ok dids => dids
  | .error _ => []

/-- The schedule is a power cycle that is due at the tick. -/
def dueCycle (inp : TickInput) (s : Schedule) : Bool :=
  !inp.schedulerDisabled && isDue inp.now s && s.kind = .powerCycle

/-- The relay cycles of the due power cycles: one for each device of each of them, in order. -/
def dueCycles (inp : TickInput) (schedules : List Schedule) : List (Schedule × Json) :=
  (schedules.filter (dueCycle inp)).flatMap fun s => (targetDevices inp s).map fun did => (s, did)

/-- The tables after some relay cycles. -/
def enqueueAll (inp : TickInput) (fleet : Fleet) (cycles : List (Schedule × Json)) : Fleet :=
  cycles.foldl (fun fleet c => (enqueueCycle inp c.1 fleet c.2).1) fleet

theorem enqueueAll_append (inp : TickInput) (fleet : Fleet) (cs ds : List (Schedule × Json)) :
    enqueueAll inp fleet (cs ++ ds) = enqueueAll inp (enqueueAll inp fleet cs) ds :=
  List.foldl_append

theorem enqueueCycles_eq (inp : TickInput) (s : Schedule) (fleet : Fleet) (dids : List Json) :
    enqueueCycles inp s fleet dids = enqueueAll inp fleet (dids.map fun did => (s, did)) := by
  induction dids generalizing fleet with
  | nil => rfl
  | cons did dids ih => exact ih _

/-- Firing a schedule enqueues a relay cycle for each of its devices, if it is a power cycle. -/
theorem fired_fleet (inp : TickInput) (fleet : Fleet) (s : Schedule) :
    (fired inp fleet s).1
      = if s.kind = .powerCycle then
          enqueueAll inp fleet ((targetDevices inp s).map fun did => (s, did))
        else fleet := by
  rw [fired, fireSchedule]
  cases hk : s.kind with
  | maintenance | other text => simp
  | powerCycle =>
      simp only [firePowerCycle, targetDevices, if_true]
      cases resolveTargetDevices inp.memberships s.target.orEmpty with
      | error name => rfl
      | ok dids =>
          cases dids with
          | nil => rfl
          | cons did dids => exact enqueueCycles_eq inp s fleet (did :: dids)

theorem rearm_fleet (now : Time) (s : Schedule) (fleet : Fleet) :
    (rearm now s fleet).fleet = fleet := by
  rw [rearm]
  split <;> rfl

theorem tickRow_fleet {inp : TickInput} (hon : inp.schedulerDisabled = false) (fleet : Fleet)
    (s : Schedule) : (tickRow inp fleet s).fleet = enqueueAll inp fleet (dueCycles inp [s]) := by
  rw [tickRow]
  cases hu : isUnscheduled s with
  | true =>
      have hd : isDue inp.now s = false := isDue_eq_false_of_isUnscheduled hu
      simp [rearm_fleet, dueCycles, dueCycle, hd, enqueueAll]
  | false =>
      cases hd : isDue inp.now s with
      | false => simp [dueCycles, dueCycle, hd, enqueueAll]
      | true =>
          simp only [Bool.false_eq_true, if_false, if_true, rearm_fleet, fired_fleet]
          by_cases hk : s.kind = .powerCycle <;> simp [dueCycles, dueCycle, hd, hon, hk, enqueueAll]

theorem dueCycles_cons (inp : TickInput) (s : Schedule) (ss : List Schedule) :
    dueCycles inp (s :: ss) = dueCycles inp [s] ++ dueCycles inp ss := by
  cases h : dueCycle inp s <;> simp [dueCycles, h]

/-- **The loop.**  When nothing raises, each row takes its step and the due cycles are enqueued
once each, in the order of the rows. -/
theorem tickRows_spec {inp : TickInput} (hon : inp.schedulerDisabled = false) {fleet : Fleet}
    {ss : List Schedule} (h : (tickRows inp fleet ss).raised = none) :
    List.Forall₂ (RowStep inp.now) ss (tickRows inp fleet ss).rows ∧
      (tickRows inp fleet ss).fleet = enqueueAll inp fleet (dueCycles inp ss) := by
  induction ss generalizing fleet with
  | nil => exact ⟨.nil, rfl⟩
  | cons s ss ih =>
      cases hr : (tickRow inp fleet s).raised with
      | some e => simp [tickRows, hr] at h
      | none =>
          simp only [tickRows, hr] at h ⊢
          obtain ⟨hrows, hfleet⟩ := ih h
          refine ⟨.cons (tickRow_step hr) hrows, ?_⟩
          rw [hfleet, dueCycles_cons, enqueueAll_append, tickRow_fleet hon]

theorem tickRows_raised_iff {inp : TickInput} {fleet : Fleet} {ss : List Schedule} :
    (tickRows inp fleet ss).raised = none ↔ ∀ s ∈ ss, RowReads inp.now s := by
  induction ss generalizing fleet with
  | nil => simp [tickRows]
  | cons s ss ih =>
      rw [List.forall_mem_cons, ← @tickRow_raised_iff inp fleet]
      cases hr : (tickRow inp fleet s).raised with
      | some e => simp [tickRows, hr]
      | none => simp [tickRows, hr, ih]

/-- Without a due cycle the loop leaves the tables alone, also when it raises. -/
theorem tickRows_fleet_of_no_cycle {inp : TickInput} (hon : inp.schedulerDisabled = false)
    {fleet : Fleet} {ss : List Schedule} (h : ∀ s ∈ ss, dueCycle inp s = false) :
    (tickRows inp fleet ss).fleet = fleet := by
  induction ss generalizing fleet with
  | nil => rfl
  | cons s ss ih =>
      obtain ⟨hs, hss⟩ := List.forall_mem_cons.mp h
      have hrow : (tickRow inp fleet s).fleet = fleet := by
        rw [tickRow_fleet hon]
        simp [dueCycles, hs, enqueueAll]
      rw [tickRows]
      cases (tickRow inp fleet s).raised with
      | some e => exact hrow
      | none => exact (ih hss).trans hrow

/-! ### The tick -/

/-- The flush fits when each row takes a step and no due row has a kind too long to record. -/
theorem flushFits_iff {now : Time} {ss ss' : List Schedule}
    (h : List.Forall₂ (RowStep now) ss ss') :
    flushFits now ss ss' = true ↔ ∀ s ∈ ss, isDue now s = true → kindFits s = true := by
  induction h with
  | nil => simp [flushFits]
  | cons hs _ ih =>
      rw [List.forall_mem_cons, ← ih]
      simp only [flushFits, List.zip_cons_cons, List.all_cons, Bool.and_eq_true]
      refine and_congr_left fun _ => ?_
      cases hs with
      | idle _ hd => simp [hd]
      | scheduled hu => simp [isDue_eq_false_of_isUnscheduled hu]
      | fired hd hfit => simp [hd, ← hfit]

/-- What a tick reads and writes of the schedule has the shape and the width it needs. -/
def RowWell (now : Time) (s : Schedule) : Prop :=
  RowReads now s ∧ (isDue now s = true → kindFits s = true)

/-- **What a tick raises.**  A tick raises nothing exactly when every unscheduled or due row is
rearmable and every due row's kind can be recorded. -/
theorem tick_raised_iff {inp : TickInput} (hon : inp.schedulerDisabled = false) {p : Plant} :
    (tick inp p).2 = none ↔ ∀ s ∈ p.schedules, RowWell inp.now s := by
  simp only [tick, hon, Bool.false_eq_true, if_false]
  simp only [RowWell, forall_and, ← @tickRows_raised_iff inp p.fleet]
  cases hr : (tickRows inp p.fleet p.schedules).raised with
  | some e => simp
  | none =>
      rw [← flushFits_iff (tickRows_spec hon hr).1]
      cases flushFits inp.now p.schedules (tickRows inp p.fleet p.schedules).rows <;> simp

/-- **A committed tick.** -/
theorem tick_spec {inp : TickInput} (hon : inp.schedulerDisabled = false) {p : Plant}
    (h : (tick inp p).2 = none) :
    List.Forall₂ (RowStep inp.now) p.schedules (tick inp p).1.schedules ∧
      (tick inp p).1.fleet = enqueueAll inp p.fleet (dueCycles inp p.schedules) ∧
      (tick inp p).1.flag
        = reconcileMaintenanceFlag (tick inp p).1.schedules p.flag inp.now := by
  simp only [tick, hon, Bool.false_eq_true, if_false] at h ⊢
  cases hr : (tickRows inp p.fleet p.schedules).raised with
  | some e => simp [hr] at h
  | none =>
      cases hf : flushFits inp.now p.schedules (tickRows inp p.fleet p.schedules).rows with
      | false => simp [hr, hf] at h
      | true =>
          obtain ⟨hrows, hfleet⟩ := tickRows_spec hon hr
          simp only [if_true]
          exact ⟨hrows, hfleet, trivial⟩

/-- A tick that raises leaves the schedule rows alone. -/
theorem tick_schedules_of_raised {inp : TickInput} {p : Plant} {e : TickError}
    (h : (tick inp p).2 = some e) : (tick inp p).1.schedules = p.schedules := by
  simp only [tick] at h ⊢
  split at h
  · cases h
  · next hon =>
      simp only [hon, Bool.false_eq_true, if_false]
      cases hr : (tickRows inp p.fleet p.schedules).raised with
      | some e => rfl
      | none =>
          cases hf : flushFits inp.now p.schedules (tickRows inp p.fleet p.schedules).rows with
          | false => rfl
          | true => simp [hr, hf] at h

/-- The row waits for a run after `now`, or for none. -/
def Rearmed (now : Time) (s : Schedule) : Prop := ∀ at_ ∈ s.nextRunAt, now < at_

theorem RowStep.rearmed {now : Time} {s s' : Schedule} (h : RowStep now s s')
    (hd : isDue now s = true) : Rearmed now s' := by
  cases h with
  | idle _ hnot => simp [hnot] at hd
  | scheduled hu => simp [isDue_eq_false_of_isUnscheduled hu] at hd
  | fired _ _ hnext =>
      rintro at_ hat
      obtain rfl : _ = some at_ := hat
      exact lt_of_computeNextRunAt hnext

theorem not_rearmed_of_isDue {now : Time} {s : Schedule} (hd : isDue now s = true) :
    ¬ Rearmed now s := by
  intro h
  cases hn : s.nextRunAt with
  | none => simp [isDue, hn] at hd
  | some at_ =>
      have hlt := h at_ hn
      simp only [isDue, hn, Option.any_some, Bool.and_eq_true, decide_eq_true_eq] at hd
      exact absurd hlt (Int.not_lt.mpr hd.2)

/-- The tick keeps its schedules apart: each due power cycle enqueues the relay cycles of its
devices once and is rearmed, and nothing was enqueued in a tick whose rows were rolled back. -/
structure Isolated (inp : TickInput) (p : Plant) : Prop where
  enqueued : (tick inp p).1.fleet = enqueueAll inp p.fleet (dueCycles inp p.schedules)
  rearmed : List.Forall₂ (fun s s' => dueCycle inp s = true → Rearmed inp.now s') p.schedules
    (tick inp p).1.schedules
  kept : (tick inp p).2.isSome = true → (tick inp p).1.fleet = p.fleet

theorem isDue_of_dueCycle {inp : TickInput} {s : Schedule} (h : dueCycle inp s = true) :
    inp.schedulerDisabled = false ∧ isDue inp.now s = true := by
  simp only [dueCycle, Bool.and_eq_true, Bool.not_eq_true'] at h
  exact h.1

theorem dueCycles_eq_nil {inp : TickInput} {ss : List Schedule}
    (h : ∀ s ∈ ss, dueCycle inp s = false) : dueCycles inp ss = [] := by
  rw [dueCycles, List.filter_eq_nil_iff.mpr fun s hs => by simp [h s hs], List.flatMap_nil]

/-- A tick keeps the number and order of its rows. -/
theorem tick_rows_related {inp : TickInput} {p : Plant} {R : Schedule → Schedule → Prop}
    (hstep : ∀ s ∈ p.schedules, ∀ s', RowStep inp.now s s' → R s s')
    (hsame : ∀ s ∈ p.schedules, (tick inp p).2 ≠ none ∨ inp.schedulerDisabled = true → R s s) :
    List.Forall₂ R p.schedules (tick inp p).1.schedules := by
  cases hon : inp.schedulerDisabled with
  | true =>
      have hrows : (tick inp p).1.schedules = p.schedules := by simp [tick, hon]
      rw [hrows]
      exact List.forall₂_same.mpr fun s hs => hsame s hs (.inr hon)
  | false =>
      cases hr : (tick inp p).2 with
      | some e =>
          rw [tick_schedules_of_raised hr]
          exact List.forall₂_same.mpr fun s hs => hsame s hs (.inl (by simp [hr]))
      | none =>
          exact (List.forall₂_iff_get.mp (tick_spec hon hr).1).elim fun hlen hget =>
            List.forall₂_iff_get.mpr ⟨hlen, fun i h₁ h₂ =>
              hstep _ (List.get_mem _ _) _ (hget i h₁ h₂)⟩

theorem tick_fleet_of_no_cycle {inp : TickInput} {p : Plant}
    (h : ∀ s ∈ p.schedules, dueCycle inp s = false) : (tick inp p).1.fleet = p.fleet := by
  cases hon : inp.schedulerDisabled with
  | true => simp [tick, hon]
  | false =>
      have hfleet := @tickRows_fleet_of_no_cycle _ hon p.fleet _ h
      simp only [tick, hon, Bool.false_eq_true, if_false]
      split
      · exact hfleet
      · split <;> exact hfleet

theorem isolated_of_no_cycle {inp : TickInput} {p : Plant}
    (h : ∀ s ∈ p.schedules, dueCycle inp s = false) : Isolated inp p where
  enqueued := by
    rw [tick_fleet_of_no_cycle h, dueCycles_eq_nil h]
    rfl
  rearmed := by
    refine tick_rows_related (fun s hs s' _ hcycle => ?_) fun s hs _ hcycle => ?_ <;>
      simp [h s hs] at hcycle
  kept _ := tick_fleet_of_no_cycle h

/-- **A tick isolates its schedules** exactly when no power cycle is due at it, or every
unscheduled or due row has content from which a next run can be computed and, when due, a kind
short enough to be recorded. -/
theorem schedule_tick_isolated_iff (inp : TickInput) (p : Plant) :
    Isolated inp p ↔
      (∀ s ∈ p.schedules, dueCycle inp s = false) ∨ ∀ s ∈ p.schedules, RowWell inp.now s := by
  constructor
  · intro h
    by_cases hno : ∀ s ∈ p.schedules, dueCycle inp s = false
    · exact .inl hno
    push Not at hno
    obtain ⟨s, hs, hcycle⟩ := hno
    obtain ⟨hon, hd⟩ := isDue_of_dueCycle (Bool.of_not_eq_false hcycle)
    refine .inr ((tick_raised_iff hon).mp ?_)
    cases hr : (tick inp p).2 with
    | none => rfl
    | some e =>
        -- the rows were rolled back, so the due row is still due
        have hrearmed := h.rearmed
        rw [tick_schedules_of_raised hr, List.forall₂_same] at hrearmed
        exact absurd (hrearmed s hs (Bool.of_not_eq_false hcycle)) (not_rearmed_of_isDue hd)
  · rintro (hno | hwell)
    · exact isolated_of_no_cycle hno
    cases hon : inp.schedulerDisabled with
    | true => exact isolated_of_no_cycle (by simp [dueCycle, hon])
    | false =>
        have hr := (tick_raised_iff hon).mpr hwell
        refine ⟨(tick_spec hon hr).2.1, ?_, by simp [hr]⟩
        refine tick_rows_related (fun s _ s' hstep hcycle => ?_) fun s _ hback => ?_
        · exact hstep.rearmed (isDue_of_dueCycle hcycle).2
        · simp [hr, hon] at hback

/-- A daily power cycle of a device at 00:00, due since the second day began. -/
def nightlyCycle : Schedule where
  id := "sch_1"
  name := "nightly"
  enabled := true
  kind := .powerCycle
  recurrence := .daily
  atTimeUtc := some "00:00"
  weekdays := .arr []
  startAt := none
  durationSeconds := 0
  target := .obj [("kind", .str "device"), ("id", .str "dev_1")]
  powerOffSeconds := 5
  postRebootHoldoffSeconds := 180
  lastRunAt := none
  nextRunAt := some (days 1)
  lastOutcome := none

/-- A schedule that a backup import wrote, with a time text that is no time of day. -/
def importedSchedule : Schedule :=
  { nightlyCycle with id := "sch_2", name := "imported", atTimeUtc := some "25:00", nextRunAt := none }

/-- One device and no commands. -/
def oneDevice : Fleet := ⟨[⟨"dev_1", none, none, false, false, none⟩], [], []⟩

/-- A tick `t` seconds into the second day. -/
def secondDay (t : Int) : TickInput where
  now := days 1 + seconds t
  schedulerDisabled := false
  memberships := []
  newId n := if n = 0 then "cmd_1" else "cmd_2"

/-- An imported row makes every tick raise after the power cycle of another schedule was
enqueued, and roll its rows back: thirty seconds later the device is cycled again. -/
theorem schedule_tick_not_isolated :
    let p : Plant := ⟨[nightlyCycle, importedSchedule], oneDevice, .default⟩
    ¬ Isolated (secondDay 0) p ∧
      (tick (secondDay 0) p).2 = some (.raised .valueError) ∧
      (tick (secondDay 0) p).1.fleet.commands.map (·.type) = ["relay_cycle"] ∧
      (tick (secondDay 30) (tick (secondDay 0) p).1).1.fleet.commands.map (·.type)
        = ["relay_cycle", "relay_cycle"] := by
  have hraised : (tick (secondDay 0)
      ⟨[nightlyCycle, importedSchedule], oneDevice, .default⟩).2 = some (.raised .valueError) := by
    decide
  refine ⟨fun h => ?_, hraised, by decide, by decide⟩
  have hkept := congrArg (fun f : Fleet => f.commands.length) (h.kept (by rw [hraised]; rfl))
  revert hkept
  decide

end RebooterHub.Schedules
