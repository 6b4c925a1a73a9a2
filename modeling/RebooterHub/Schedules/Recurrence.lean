import Mathlib.Data.List.GetD
import RebooterHub.Schedules.Isolation
import RebooterHub.Support.Fallible
import RebooterHub.Support.Occurrences
import RebooterHub.Support.Runs

/-!
# Schedules — Recurrence

When an accepted schedule fires, over a run of ticks.

`occurrences` are the calendar occurrences that the arguments of `create` ask for, read off the
time text and the weekdays as the operator typed them.  `create_spec` says what is stored of
them, `computeNextRunAt_isLeast` that the next run is the least instant that matches, and
`computeNextRunAt_isNext` that it is the next occurrence: the row is a timer armed for them.

A `ScheduleTick` is a tick as one row meets it: whatever other rows, command tables and flag
stand beside it.  `schedule_fires_on_occurrences` is about the runs in which the other rows'
content does not raise: there a daily or weekly schedule fires at a tick exactly when an
occurrence has come since the tick before, and a one-shot schedule once at most and not before
its start.
-/

namespace RebooterHub.Schedules
open RebooterHub.Occurrences RebooterHub.Runs RebooterHub.Fallible RebooterHub.Commands

/-! ### What creation stores -/

/-- The row is configured as the arguments of an accepted `create` ask. -/
structure Configured (a : CreateArgs) (s : Schedule) : Prop where
  enabled : s.enabled = true
  kind : s.kind = .powerCycle ∨ s.kind = .maintenance
  recurrence : s.recurrence = .ofText a.recurrence
  known : s.recurrence = .once ∨ s.recurrence = .daily ∨ s.recurrence = .weekly
  time : s.recurrence ≠ .once →
    ∃ text, normalizeTime a.atTimeUtc = .ok text ∧ s.atTimeUtc = some text
  weekdays : s.recurrence = .weekly → cleanWeekdays a.weekdays = .ok s.weekdays
  startAt : s.startAt = a.startAt

theorem raising_eq_ok {α : Type} {x : Except PyError α} {y : α} (h : raising x = .ok y) :
    x = .ok y := by
  cases x with
  | error e => cases h
  | ok z => exact congrArg Except.ok (Except.ok.inj h)

/-- **What `create` stores.** -/
theorem create_spec {a : CreateArgs} {now : Time} {newId : String} {s : Schedule}
    (h : create a now newId = .ok s) :
    Configured a s ∧ s.lastRunAt = none ∧ computeNextRunAt s now = .ok s.nextRunAt := by
  obtain ⟨name, -, h⟩ := bind_eq_ok h
  obtain ⟨kind, hkind, h⟩ := bind_eq_ok h
  obtain ⟨recurrence, hrec, h⟩ := bind_eq_ok h
  obtain ⟨atTimeUtc, htime, h⟩ := bind_eq_ok h
  obtain ⟨weekdays, hdays, h⟩ := bind_eq_ok h
  obtain ⟨_, -, h⟩ := bind_eq_ok h
  obtain ⟨_, -, h⟩ := bind_eq_ok h
  obtain ⟨_, -, h⟩ := bind_eq_ok h
  obtain ⟨next, hnext, h⟩ := bind_eq_ok h
  obtain rfl := Except.ok.inj h
  have hrec' : recurrence = .ofText a.recurrence ∧
      (recurrence = .once ∨ recurrence = .daily ∨ recurrence = .weekly) := by
    rw [knownRecurrence] at hrec
    cases hr : Recurrence.ofText a.recurrence with
    | other text => simp [hr] at hrec
    | once | daily | weekly =>
        rw [hr] at hrec
        obtain rfl := Except.ok.inj hrec
        simp
  have hkind' : kind = .powerCycle ∨ kind = .maintenance := by
    rw [knownKind] at hkind
    cases hk : ScheduleKind.ofText a.kind with
    | other text => simp [hk] at hkind
    | powerCycle | maintenance =>
        rw [hk] at hkind
        obtain rfl := Except.ok.inj hkind
        simp
  refine ⟨⟨rfl, hkind', hrec'.1, hrec'.2, fun hne => ?_, fun hw => ?_, rfl⟩, rfl,
    raising_eq_ok hnext⟩
  · have htext : (some <$> normalizeTime a.atTimeUtc : Except CreateError (Option String))
        = .ok atTimeUtc := by
      rcases hrec'.2 with rfl | rfl | rfl
      · exact absurd rfl hne
      · exact htime
      · exact htime
    cases hn : normalizeTime a.atTimeUtc with
    | error e => rw [hn] at htext; cases htext
    | ok text =>
        rw [hn] at htext
        exact ⟨text, rfl, (Except.ok.inj htext).symm⟩
  · obtain rfl : recurrence = .weekly := hw
    exact hdays

/-! ### The calendar of a schedule -/

/-- The time of day the arguments ask for. -/
def requestedTime (a : CreateArgs) : Option (Int × Int) := do
  let (g₁, g₂) ← matchTime (Text.strip (← a.atTimeUtc).toList)
  return (← Text.int g₁, ← Text.int g₂)

/-- The calendar occurrences of the daily or weekly schedule that the arguments ask for: the time
of day, on every day or on every day whose weekday is listed. -/
def occurrences (a : CreateArgs) : Set Time :=
  {t | ∃ p ∈ requestedTime a, ∃ day, t = timeOn day p.1 p.2 ∧
    (a.recurrence = "weekly" →
      ∃ ds, weekdayNumbers a.weekdays = .ok ds ∧ weekdayOf day ∈ ds)}

theorem colon_not_decimal {c : Char} (h : decimalDigit c = true) : c ≠ ':' := by
  rintro rfl
  revert h
  decide

/-- The minutes of a time text are two digits. -/
theorem matchTime_colon {cs g₁ g₂ : List Char} (h : matchTime cs = some (g₁, g₂)) : ':' ∉ g₂ := by
  have hdigits : ∃ c d, g₂ = [c, d] ∧ decimalDigit c = true ∧ decimalDigit d = true := by
    rw [matchTime.eq_def] at h
    split at h
    · split at h
      · next hall =>
          simp only [Bool.and_eq_true] at hall
          obtain ⟨-, rfl⟩ := Prod.mk.inj (Option.some.inj h)
          exact ⟨_, _, rfl, hall.1.2, hall.2⟩
      · cases h
    · split at h
      · next hall =>
          simp only [Bool.and_eq_true] at hall
          obtain ⟨-, rfl⟩ := Prod.mk.inj (Option.some.inj h)
          exact ⟨_, _, rfl, hall.1.2, hall.2⟩
      · cases h
    · cases h
  obtain ⟨c, d, rfl, hc, hd⟩ := hdigits
  simp [(colon_not_decimal hc).symm, (colon_not_decimal hd).symm]

theorem twoDigits_spec {hh : Int} (h₀ : 0 ≤ hh) (h₁ : hh ≤ 23) :
    ':' ∉ twoDigits hh ∧ Text.int (twoDigits hh) = some hh := by
  obtain ⟨n, rfl⟩ := Int.eq_ofNat_of_zero_le h₀
  have hn : n < 24 := by omega
  clear h₀ h₁
  revert n
  decide

/-- A normalised time text is read back. -/
theorem hoursMinutes_normalized {hh mm : Int} {g₂ : List Char} (h₀ : 0 ≤ hh) (h₁ : hh ≤ 23)
    (hg : ':' ∉ g₂) (hmm : Text.int g₂ = some mm) :
    hoursMinutes (String.ofList (twoDigits hh ++ ':' :: g₂)) = some (hh, mm) := by
  obtain ⟨hcolon, hint⟩ := twoDigits_spec h₀ h₁
  simp only [hoursMinutes, String.toList_ofList,
    List.splitOn_append_cons_self_of_not_mem hcolon, List.splitOn_eq_singleton hg, hint, hmm]
  rfl

/-- The time text that is stored names the time of day that was asked for. -/
theorem normalizeTime_spec {a : CreateArgs} {text : String}
    (h : normalizeTime a.atTimeUtc = .ok text) :
    ∃ p, requestedTime a = some p ∧ (0 ≤ p.1 ∧ p.1 ≤ 23 ∧ 0 ≤ p.2 ∧ p.2 ≤ 59) ∧
      text ≠ "" ∧ hoursMinutes text = some p := by
  rw [normalizeTime] at h
  cases hat : a.atTimeUtc with
  | none => rw [hat] at h; cases h
  | some at_ =>
      rw [hat] at h
      by_cases hempty : at_ = ""
      · simp [hempty, Option.filter] at h
      · simp only [Option.filter_some, hempty, ne_eq, not_false_eq_true, decide_true, if_true] at h
        cases hm : matchTime (Text.strip at_.toList) with
        | none => simp [hm] at h
        | some g =>
            obtain ⟨g₁, g₂⟩ := g
            simp only [hm] at h
            cases hhh : Text.int g₁ with
            | none => simp [hhh] at h
            | some hh =>
                cases hmm : Text.int g₂ with
                | none => simp [hhh, hmm] at h
                | some mm =>
                    simp only [hhh, hmm] at h
                    split at h
                    · next hrange =>
                        obtain rfl := Except.ok.inj h
                        refine ⟨(hh, mm), ?_, hrange, ?_, ?_⟩
                        · simp [requestedTime, hat, hm, hhh, hmm]
                        · intro htext
                          have := congrArg String.toList htext
                          simp [twoDigits] at this
                        · exact hoursMinutes_normalized hrange.1 hrange.2.1 (matchTime_colon hm) hmm
                    · cases h

theorem mapM_toInt (ds : List Int) : (ds.map Json.int).mapM Json.toInt = .ok ds := by
  induction ds with
  | nil => rfl
  | cons d ds ih =>
      rw [List.map_cons, List.mapM_cons, ih]
      rfl

/-- Weekdays that are not empty run through at least one value. -/
theorem weekdayNumbers_ne_nil {w : Json} {ds : List Int} (ht : w.truthy = true)
    (h : weekdayNumbers w = .ok ds) : ds ≠ [] := by
  obtain ⟨xs, hxs, h⟩ := bind_eq_ok h
  have hne : xs ≠ [] := by
    rw [Json.orNil, if_pos ht] at hxs
    cases w with
    | null | bool _ | int _ | float _ => cases hxs
    | str text =>
        obtain rfl := Except.ok.inj hxs
        simpa [Json.truthy] using ht
    | arr xs =>
        obtain rfl := Except.ok.inj hxs
        simpa [Json.truthy] using ht
    | obj ms =>
        obtain rfl := Except.ok.inj hxs
        simpa [Json.truthy] using ht
  rintro rfl
  exact hne (List.eq_nil_of_length_eq_zero (mapM_length h).symm)

/-- The weekdays that are stored are those that were asked for, and there is one. -/
theorem cleanWeekdays_spec {w w' : Json} (h : cleanWeekdays w = .ok w') :
    ∃ ds ds', weekdayNumbers w = .ok ds ∧ weekdayNumbers w' = .ok ds' ∧
      (∀ d, d ∈ ds' ↔ d ∈ ds) ∧ ∃ d ∈ ds', 0 ≤ d ∧ d ≤ 6 := by
  rw [cleanWeekdays] at h
  cases ht : w.truthy with
  | false => rw [ht] at h; cases h
  | true =>
      rw [ht] at h
      obtain ⟨ds, hds, h⟩ := bind_eq_ok h
      replace hds := raising_eq_ok hds
      dsimp only at h
      split at h
      · cases h
      · next hrange =>
          obtain rfl := Except.ok.inj h
          have hmem : ∀ d, d ∈ ds.dedup.insertionSort (· ≤ ·) ↔ d ∈ ds := by simp
          obtain ⟨d, hd⟩ := List.exists_mem_of_ne_nil ds (weekdayNumbers_ne_nil ht hds)
          refine ⟨ds, ds.dedup.insertionSort (· ≤ ·), hds, ?_, hmem, d, (hmem d).mpr hd, ?_⟩
          · have horNil : (Json.arr ((ds.dedup.insertionSort (· ≤ ·)).map .int)).orNil
                = .arr ((ds.dedup.insertionSort (· ≤ ·)).map .int) := by
              rw [Json.orNil]
              split
              · rfl
              · next hf =>
                  have : (ds.dedup.insertionSort (· ≤ ·)).map Json.int = [] := by
                    simpa [Json.truthy] using hf
                  rw [this]
            rw [weekdayNumbers, horNil]
            exact mapM_toInt _
          · simp only [List.any_eq_true, decide_eq_true_eq, not_exists, not_and] at hrange
            have := hrange d ((hmem d).mpr hd)
            omega

/-! ### The next run is the next occurrence -/

theorem dayOf_timeOn {day hh mm : Int} (hr : 0 ≤ hh ∧ hh ≤ 23 ∧ 0 ≤ mm ∧ mm ≤ 59) :
    dayOf (timeOn day hh mm) = day := by
  simp only [Time, dayOf, timeOn, days]
  omega

/-- The candidate is `hh:mm` of the first day on which that time is after `now`. -/
theorem nextCandidate_eq_timeOn {now hh mm c : Int} (h : nextCandidate now hh mm = .ok c) :
    ∃ day, c = timeOn day hh mm ∧ now < timeOn day hh mm ∧
      ∀ d, now < timeOn d hh mm → day ≤ d := by
  have hr := (nextCandidate_isOk_iff now hh mm).mp ⟨c, h⟩
  obtain ⟨hlt, hc⟩ := nextCandidate_spec h
  rcases hc with rfl | ⟨rfl, hle⟩
  · refine ⟨dayOf now, rfl, hlt, fun d hd => ?_⟩
    simp only [Time, dayOf, timeOn, days] at hd ⊢
    omega
  · refine ⟨dayOf now + 1, rfl, hlt, fun d hd => ?_⟩
    simp only [Time, dayOf, timeOn, days] at hd hle ⊢
    omega

/-- Walking forward finds the first of the days whose weekday is listed. -/
theorem walkForward_spec {ds : List Int} {hh mm : Int} (hr : 0 ≤ hh ∧ hh ≤ 23 ∧ 0 ≤ mm ∧ mm ≤ 59)
    (n : Nat) (day : Int) :
    (∃ k : Nat, k < n ∧ walkForward ds n (timeOn day hh mm) = some (timeOn (day + k) hh mm) ∧
        weekdayOf (day + k) ∈ ds ∧ ∀ j : Nat, j < k → weekdayOf (day + j) ∉ ds) ∨
      (walkForward ds n (timeOn day hh mm) = none ∧
        ∀ j : Nat, j < n → weekdayOf (day + j) ∉ ds) := by
  induction n generalizing day with
  | zero => exact .inr ⟨rfl, by simp⟩
  | succ n ih =>
      have hweekday : weekday (timeOn day hh mm) = weekdayOf day := by
        rw [weekday, dayOf_timeOn hr]
      have hnext : timeOn day hh mm + days 1 = timeOn (day + 1) hh mm := by
        simp only [Time, timeOn, days]
        omega
      by_cases hmem : weekdayOf day ∈ ds
      · refine .inl ⟨0, Nat.succ_pos n, ?_, by simpa using hmem, by simp⟩
        rw [walkForward, hweekday, if_pos hmem]
        simp
      · have hwalk : walkForward ds (n + 1) (timeOn day hh mm)
            = walkForward ds n (timeOn (day + 1) hh mm) := by
          rw [walkForward, hweekday, if_neg hmem, hnext]
        -- the days after the first are those of the walk from the next day
        have hshift : ∀ j : Nat, (day + 1 + j : Int) = day + (j + 1 : Nat) := by
          intro j
          push_cast
          omega
        have hbefore : ∀ k : Nat, (∀ j : Nat, j < k → weekdayOf (day + 1 + j) ∉ ds) →
            ∀ j : Nat, j < k + 1 → weekdayOf (day + j) ∉ ds := by
          intro k hk j hj
          cases j with
          | zero => simpa using hmem
          | succ j =>
              rw [← hshift]
              exact hk j (by omega)
        rcases ih (day + 1) with ⟨k, hk, hfound, hlisted, hfirst⟩ | ⟨hnone, hall⟩
        · refine .inl ⟨k + 1, by omega, ?_, ?_, hbefore k hfirst⟩
          · rw [hwalk, hfound, hshift]
          · rwa [← hshift]
        · exact .inr ⟨hwalk.trans hnone, hbefore n hall⟩

theorem ofText_eq_weekly {text : String} (h : Recurrence.ofText text = .weekly) :
    text = "weekly" := by
  rw [Recurrence.ofText.eq_def] at h
  split at h <;> first | rfl | cases h

theorem ofText_eq_once {text : String} (h : Recurrence.ofText text = .once) : text = "once" := by
  rw [Recurrence.ofText.eq_def] at h
  split at h <;> first | rfl | cases h

theorem ofText_once : Recurrence.ofText "once" = .once := by decide

theorem ofText_weekly : Recurrence.ofText "weekly" = .weekly := by decide

/-- A daily or weekly schedule has a next run, and it is the first calendar occurrence from then
on. -/
theorem computeNextRunAt_isLeast {a : CreateArgs} {s : Schedule} (hs : Configured a s)
    (hne : s.recurrence ≠ .once) (now : Time) :
    ∃ next, computeNextRunAt s now = .ok (some next) ∧
      IsLeast {t | t ∈ occurrences a ∧ now < t} next := by
  obtain ⟨text, htext, hstored⟩ := hs.time hne
  obtain ⟨⟨hh, mm⟩, hasked, hr, hempty, hread⟩ := normalizeTime_spec htext
  have hparsed : (s.atTimeUtc.filter (· ≠ "")).bind hoursMinutes = some (hh, mm) := by
    simp [hstored, Option.filter, hempty, hread]
  obtain ⟨c, hc⟩ := (nextCandidate_isOk_iff now hh mm).mpr hr
  obtain ⟨day, rfl, hlt, hleast⟩ := nextCandidate_eq_timeOn hc
  rcases hs.known with honce | hdaily | hweekly
  · exact absurd honce hne
  · have hnot : a.recurrence ≠ "weekly" := by
      intro h
      rw [hs.recurrence, h, ofText_weekly] at hdaily
      cases hdaily
    refine ⟨timeOn day hh mm, ?_, ?_, ?_⟩
    · rw [computeNextRunAt, hdaily]
      simp only [hparsed, hc]
      rfl
    · exact ⟨⟨(hh, mm), hasked, day, rfl, fun h => absurd h hnot⟩, hlt⟩
    · rintro t ⟨⟨p, hp, d, rfl, -⟩, ht⟩
      obtain rfl : (hh, mm) = p := Option.some.inj (hasked.symm.trans hp)
      have hd := hleast d ht
      simp only [Time, timeOn, days]
      omega
  · have hrec : a.recurrence = "weekly" := ofText_eq_weekly (hs.recurrence.symm.trans hweekly)
    obtain ⟨ds, ds', hds, hds', hmem, e, he, hrange⟩ := cleanWeekdays_spec (hs.weekdays hweekly)
    have hcompute : computeNextRunAt s now = .ok (walkForward ds' 7 (timeOn day hh mm)) := by
      rw [computeNextRunAt, hweekly]
      simp only [hparsed, hc, hds']
      rfl
    rcases walkForward_spec hr 7 day with ⟨k, -, hfound, hlisted, hfirst⟩ | ⟨-, hall⟩
    · refine ⟨timeOn (day + k) hh mm, by rw [hcompute, hfound], ?_⟩
      refine ⟨⟨⟨(hh, mm), hasked, day + k, rfl, fun _ => ⟨ds, hds, (hmem _).mp hlisted⟩⟩, ?_⟩, ?_⟩
      · simp only [Time, timeOn, days] at hlt ⊢
        omega
      · rintro t ⟨⟨p, hp, d, rfl, hweek⟩, ht⟩
        obtain rfl : (hh, mm) = p := Option.some.inj (hasked.symm.trans hp)
        obtain ⟨ds₂, hds₂, hd⟩ := hweek hrec
        obtain rfl : ds = ds₂ := Except.ok.inj (hds.symm.trans hds₂)
        have hge := hleast d ht
        -- an occurrence before day `k` would have been found
        have hk : day + k ≤ d := by
          by_contra hlt'
          obtain ⟨j, rfl⟩ : ∃ j : Nat, d = day + j := ⟨(d - day).toNat, by omega⟩
          exact hfirst j (by omega) ((hmem _).mpr hd)
        simp only [Time, timeOn, days]
        omega
    · -- one of seven days in a row has the weekday `e`
      obtain ⟨j, hj, hje⟩ : ∃ j : Nat, j < 7 ∧ weekdayOf (day + j) = e :=
        ⟨((e - day - 3) % 7).toNat, by omega, by simp only [weekdayOf]; omega⟩
      exact absurd (hje ▸ he) (hall j hj)

/-- **The next run** of a daily or weekly schedule is its next calendar occurrence. -/
theorem computeNextRunAt_isNext {a : CreateArgs} {s : Schedule} (hs : Configured a s)
    (hne : s.recurrence ≠ .once) (now : Time) :
    ∃ next, computeNextRunAt s now = .ok next ∧ IsNext (occurrences a) now next := by
  obtain ⟨next, hnext, hleast⟩ := computeNextRunAt_isLeast hs hne now
  exact ⟨some next, hnext, hleast⟩

/-- **A recurring schedule runs next** at the first time after `now` with the time of day, and on
one of the weekdays, that were asked for. -/
theorem recurring_next_run (a : CreateArgs) (created now : Time) (newId : String) (s : Schedule)
    (hcreate : create a created newId = .ok s)
    (hrec : a.recurrence = "daily" ∨ a.recurrence = "weekly") :
    ∃ next, computeNextRunAt s now = .ok (some next) ∧
      IsLeast {t | t ∈ occurrences a ∧ now < t} next := by
  obtain ⟨hs, -, -⟩ := create_spec hcreate
  refine computeNextRunAt_isLeast hs ?_ now
  intro honce
  have htext := ofText_eq_once (hs.recurrence.symm.trans honce)
  obtain hdaily | hweekly := hrec
  · rw [hdaily] at htext
    exact absurd htext (by decide)
  · rw [hweekly] at htext
    exact absurd htext (by decide)

/-! ### A tick as one schedule meets it -/

/-- A tick, and what stands beside the schedule at it. -/
structure ScheduleTick where
  inp : TickInput
  before : List Schedule
  after : List Schedule
  fleet : Fleet
  flag : MaintenanceFlag

/-- What the tick works on. -/
def ScheduleTick.plant (l : ScheduleTick) (s : Schedule) : Plant :=
  ⟨l.before ++ s :: l.after, l.fleet, l.flag⟩

/-- The row after the tick. -/
def afterTick (s : Schedule) (l : ScheduleTick) : Schedule :=
  (tick l.inp (l.plant s)).1.schedules.getD l.before.length s

/-- The schedule fires at the tick: its turn comes, and it is due. -/
def Fires (s : Schedule) (l : ScheduleTick) : Prop :=
  l.inp.schedulerDisabled = false ∧ (tickRows l.inp l.fleet l.before).raised = none ∧
    isDue l.inp.now s = true

/-- The scheduler runs, and the content of no other row makes the tick raise. -/
def OthersWell (_ : Schedule) (l : ScheduleTick) : Prop :=
  l.inp.schedulerDisabled = false ∧ ∀ o ∈ l.before ++ l.after, RowWell l.inp.now o

theorem Configured.rearmable {a : CreateArgs} {s : Schedule} (h : Configured a s) :
    Rearmable s := by
  rw [← computeNextRunAt_isOk_iff s 0]
  by_cases honce : s.recurrence = .once
  · rw [computeNextRunAt, honce]
    dsimp only
    split <;> exact ⟨_, rfl⟩
  · obtain ⟨next, hnext, -⟩ := computeNextRunAt_isNext h honce 0
    exact ⟨next, hnext⟩

theorem Configured.rowWell {a : CreateArgs} {s : Schedule} (h : Configured a s) (now : Time) :
    RowWell now s := by
  refine ⟨fun _ => h.rearmable, fun _ => ?_⟩
  rw [kindFits]
  rcases h.kind with hk | hk <;> rw [hk]

/-- **One tick.**  A tick at which the other rows are well takes the row's step. -/
theorem afterTick_step {a : CreateArgs} {s : Schedule} {l : ScheduleTick} (hs : Configured a s)
    (hl : OthersWell s l) :
    RowStep l.inp.now s (afterTick s l) ∧
      (tick l.inp (l.plant s)).1.fleet = enqueueAll l.inp l.fleet
        (dueCycles l.inp l.before ++ dueCycles l.inp [s] ++ dueCycles l.inp l.after) := by
  have hwell : ∀ o ∈ (l.plant s).schedules, RowWell l.inp.now o := by
    intro o ho
    rcases List.mem_append.mp ho with hb | hmem
    · exact hl.2 o (List.mem_append_left _ hb)
    · rcases List.mem_cons.mp hmem with rfl | ha
      · exact hs.rowWell _
      · exact hl.2 o (List.mem_append_right _ ha)
  obtain ⟨hrows, hfleet, -⟩ := tick_spec hl.1 ((tick_raised_iff hl.1).mpr hwell)
  constructor
  · obtain ⟨hlen, hget⟩ := List.forall₂_iff_get.mp hrows
    have h₁ : l.before.length < (l.plant s).schedules.length := by simp [ScheduleTick.plant]
    have hstep := hget l.before.length h₁ (hlen ▸ h₁)
    have hs' : (l.plant s).schedules.get ⟨l.before.length, h₁⟩ = s := by
      simp [ScheduleTick.plant]
    rw [hs'] at hstep
    rwa [afterTick, List.getD_eq_getElem _ _ (hlen ▸ h₁)]
  · rw [hfleet]
    simp [ScheduleTick.plant, dueCycles, List.filter_append, List.flatMap_append,
      List.filter_cons]
    split <;> simp

theorem fires_iff {a : CreateArgs} {s : Schedule} {l : ScheduleTick} (hs : Configured a s)
    (hl : OthersWell s l) : Fires s l ↔ Due s.nextRunAt l.inp.now := by
  have hreached : (tickRows l.inp l.fleet l.before).raised = none :=
    tickRows_raised_iff.mpr fun o ho => (hl.2 o (List.mem_append_left _ ho)).1
  simp only [Fires, hl.1, hreached, true_and, isDue, hs.enabled, Bool.true_and, Due,
    Option.any_eq_true, decide_eq_true_eq, Option.mem_def]

/-! ### Runs of ticks -/

theorem RowStep.ran {now : Time} {s s' : Schedule} (h : RowStep now s s')
    (hd : isDue now s = true) : s'.lastRunAt = some now := by
  cases h with
  | idle _ hnot => simp [hnot] at hd
  | scheduled hu => simp [isDue_eq_false_of_isUnscheduled hu] at hd
  | fired _ _ _ => rfl

theorem RowStep.configured {a : CreateArgs} {now : Time} {s s' : Schedule} (h : RowStep now s s')
    (hs : Configured a s) : Configured a s' := by
  cases h with
  | idle _ _ => exact hs
  | scheduled _ _ => exact ⟨hs.1, hs.2, hs.3, hs.4, hs.5, hs.6, hs.7⟩
  | fired _ _ _ => exact ⟨hs.1, hs.2, hs.3, hs.4, hs.5, hs.6, hs.7⟩

/-- A daily or weekly row stays armed for its occurrences. -/
theorem RowStep.isNext {a : CreateArgs} {t now : Time} {s s' : Schedule} (h : RowStep now s s')
    (hs : Configured a s) (hne : s.recurrence ≠ .once) (ht : t ≤ now)
    (hnext : IsNext (occurrences a) t s.nextRunAt) : IsNext (occurrences a) now s'.nextRunAt := by
  cases h with
  | idle _ hd =>
      refine hnext.skip ht fun ⟨at_, hat, hle⟩ => ?_
      rw [Option.mem_def] at hat
      simp [isDue, hs.enabled, hat, hle] at hd
  | scheduled _ hc =>
      obtain ⟨next, hc', harmed⟩ := computeNextRunAt_isNext hs hne now
      obtain rfl := Except.ok.inj (hc.symm.trans hc')
      exact harmed
  | @fired _ outcome _ _ hc =>
      have hs' : Configured a { s with lastOutcome := some outcome, lastRunAt := some now } :=
        ⟨hs.1, hs.2, hs.3, hs.4, hs.5, hs.6, hs.7⟩
      obtain ⟨next, hc', harmed⟩ := computeNextRunAt_isNext hs' hne now
      obtain rfl := Except.ok.inj (hc.symm.trans hc')
      exact harmed

/-- The clock of the last of some ticks, or `t` before the first. -/
def lastClock (t : Time) (ls : List ScheduleTick) : Time := (ls.map (·.inp.now)).getLastD t

/-- The clocks of the ticks increase, from `t` on. -/
def Increasing (t : Time) (ls : List ScheduleTick) : Prop :=
  (t :: ls.map (·.inp.now)).IsChain (· < ·)

theorem increasing_cons {t : Time} {l : ScheduleTick} {ls : List ScheduleTick} :
    Increasing t (l :: ls) ↔ t < l.inp.now ∧ Increasing l.inp.now ls := by
  rw [Increasing, List.map_cons, List.isChain_cons_cons, Increasing]

/-- **A run** keeps a daily or weekly row armed for its occurrences. -/
theorem isNext_run {a : CreateArgs} {t : Time} {s : Schedule} {ls : List ScheduleTick}
    (hs : Configured a s) (hne : a.recurrence ≠ "once")
    (hnext : IsNext (occurrences a) t s.nextRunAt) (hok : Admits afterTick OthersWell s ls)
    (hlt : Increasing t ls) :
    Configured a (run afterTick s ls) ∧
      IsNext (occurrences a) (lastClock t ls) (run afterTick s ls).nextRunAt := by
  induction ls generalizing t s with
  | nil => exact ⟨hs, hnext⟩
  | cons l ls ih =>
      obtain ⟨hl, hok⟩ := hok
      obtain ⟨htl, hlt⟩ := increasing_cons.mp hlt
      have hstep := (afterTick_step hs hl).1
      have hrec : s.recurrence ≠ .once := fun h => hne (ofText_eq_once (hs.recurrence ▸ h))
      have := ih (hstep.configured hs) (hstep.isNext hs hrec htl.le hnext) hok hlt
      rwa [lastClock, List.map_cons, List.getLastD_cons, ← lastClock]

/-- What a one-shot row keeps: its next run can only be its start, and there is none once it has
run. -/
structure OneShot (a : CreateArgs) (s : Schedule) : Prop where
  configured : Configured a s
  once : s.recurrence = .once
  start : ∀ at_ ∈ s.nextRunAt, a.startAt = some at_
  spent : s.lastRunAt.isSome = true → s.nextRunAt = none

theorem computeNextRunAt_once {s : Schedule} (honce : s.recurrence = .once) {now : Time}
    {next : Option Time} (h : computeNextRunAt s now = .ok next) :
    (∀ at_ ∈ next, s.startAt = some at_) ∧ (s.lastRunAt.isSome = true → next = none) := by
  rw [computeNextRunAt, honce] at h
  cases hstart : s.startAt with
  | none =>
      obtain rfl : none = next := by simpa [hstart] using h
      simp
  | some start =>
      cases hlast : s.lastRunAt with
      | some at_ =>
          obtain rfl : none = next := by simpa [hstart, hlast] using h
          simp
      | none =>
          obtain rfl : (if now < start then some start else none) = next := by
            simpa [hstart, hlast] using h
          split <;> simp

theorem RowStep.oneShot {a : CreateArgs} {now : Time} {s s' : Schedule} (h : RowStep now s s')
    (hs : OneShot a s) : OneShot a s' := by
  have hconf := h.configured hs.configured
  cases h with
  | idle _ _ => exact hs
  | scheduled _ hc =>
      obtain ⟨hstart, hspent⟩ := computeNextRunAt_once hs.once hc
      exact ⟨hconf, hs.once, fun at_ hat => hs.configured.startAt ▸ hstart at_ hat, hspent⟩
  | @fired _ outcome _ _ hc =>
      obtain ⟨hstart, hspent⟩ := computeNextRunAt_once
        (s := { s with lastOutcome := some outcome, lastRunAt := some now }) hs.once hc
      exact ⟨hconf, hs.once, fun at_ hat => hs.configured.startAt ▸ hstart at_ hat, hspent⟩

theorem RowStep.lastRunAt_isSome {now : Time} {s s' : Schedule} (h : RowStep now s s')
    (hs : s.lastRunAt.isSome = true) : s'.lastRunAt.isSome = true := by
  cases h with
  | idle _ _ => exact hs
  | scheduled _ _ => exact hs
  | fired _ _ _ => rfl

theorem oneShot_run {a : CreateArgs} {s : Schedule} {ls : List ScheduleTick} (hs : OneShot a s)
    (hok : Admits afterTick OthersWell s ls) : OneShot a (run afterTick s ls) :=
  run_invariant (I := OneShot a)
    (fun _ _ hs hl => (afterTick_step hs.configured hl).1.oneShot hs) hs hok

/-- A one-shot row that has run does not fire. -/
theorem OneShot.not_fires {a : CreateArgs} {s : Schedule} {l : ScheduleTick} (hs : OneShot a s)
    (hran : s.lastRunAt.isSome = true) : ¬ Fires s l := by
  rintro ⟨-, -, hd⟩
  simp [isDue, hs.spent hran] at hd

/-- **When a schedule fires**, at the last tick of a run from its creation at whose ticks the
other rows are well.  A daily or weekly schedule fires exactly when an occurrence has come since
the tick before; a one-shot schedule not before its start, and not when it has fired before; and
a schedule that fires is run once. -/
theorem schedule_fires_on_occurrences {a : CreateArgs} {t₀ : Time} {newId : String} {s : Schedule}
    (hcreate : create a t₀ newId = .ok s) (ls : List ScheduleTick) (l : ScheduleTick)
    (hok : Admits afterTick OthersWell s (ls ++ [l])) :
    let s' := run afterTick s ls
    (a.recurrence ≠ "once" → Increasing t₀ ls →
      (Fires s' l ↔ ∃ t ∈ occurrences a, lastClock t₀ ls < t ∧ t ≤ l.inp.now)) ∧
    (a.recurrence = "once" → Fires s' l →
      (∃ start ∈ a.startAt, start ≤ l.inp.now) ∧
        ∀ ls₁ l₁ ls₂, ls = ls₁ ++ l₁ :: ls₂ → ¬ Fires (run afterTick s ls₁) l₁) ∧
    (Fires s' l → (afterTick s' l).lastRunAt = some l.inp.now) ∧
    (tick l.inp (l.plant s')).1.fleet = enqueueAll l.inp l.fleet
      (dueCycles l.inp l.before ++ dueCycles l.inp [s'] ++ dueCycles l.inp l.after) := by
  obtain ⟨hs, hlast, hnext⟩ := create_spec hcreate
  obtain ⟨hls, hl, -⟩ := (admits_append s ls [l]).mp hok
  have hconf : Configured a (run afterTick s ls) :=
    run_invariant (I := Configured a)
      (fun _ _ hs hl => (afterTick_step hs hl).1.configured hs) hs hls
  obtain ⟨hstep, hfleet⟩ := afterTick_step hconf hl
  refine ⟨fun hne hlt => ?_, fun honce hfires => ?_, fun hfires => hstep.ran hfires.2.2, hfleet⟩
  · have hrec : s.recurrence ≠ .once := fun h => hne (ofText_eq_once (hs.recurrence ▸ h))
    obtain ⟨next, hnext', harmed⟩ := computeNextRunAt_isNext hs hrec t₀
    obtain rfl := Except.ok.inj (hnext'.symm.trans hnext)
    rw [fires_iff hconf hl]
    exact (isNext_run hs hne harmed hls hlt).2.due_iff
  · have hrec : s.recurrence = .once := by rw [hs.recurrence, honce, ofText_once]
    have hfresh : OneShot a s :=
      ⟨hs, hrec, fun at_ hat => hs.startAt ▸ (computeNextRunAt_once hrec hnext).1 at_ hat,
        fun h => by simp [hlast] at h⟩
    have hshot := oneShot_run hfresh hls
    constructor
    · obtain ⟨at_, hat, hle⟩ := (fires_iff hconf hl).mp hfires
      exact ⟨at_, hshot.start at_ hat, hle⟩
    · rintro ls₁ l₁ ls₂ rfl hfires₁
      obtain ⟨hls₁, hl₁, hls₂⟩ := (admits_append s ls₁ (l₁ :: ls₂)).mp hls
      have hshot₁ := oneShot_run hfresh hls₁
      have hstep₁ := (afterTick_step hshot₁.configured hl₁).1
      -- having run is kept by the ticks in between
      have hran : (run afterTick s (ls₁ ++ l₁ :: ls₂)).lastRunAt.isSome = true := by
        rw [run_append, run_cons]
        refine (run_invariant (I := fun s => OneShot a s ∧ s.lastRunAt.isSome = true)
          (fun s l ⟨hs, hran⟩ hl => ?_) ⟨hstep₁.oneShot hshot₁, ?_⟩ hls₂).2
        · have hstep := (afterTick_step hs.configured hl).1
          exact ⟨hstep.oneShot hs, hstep.lastRunAt_isSome hran⟩
        · simp [hstep₁.ran hfires₁.2.2]
      exact hshot.not_fires hran hfires

/-- The request for `nightlyCycle`. -/
def nightlyArgs : CreateArgs where
  name := "nightly"
  kind := "power_cycle"
  recurrence := "daily"
  target := .obj [("kind", .str "device"), ("id", .str "dev_1")]
  atTimeUtc := some "00:00"
  weekdays := .null
  startAt := none
  durationSeconds := 0
  powerOffSeconds := 5
  postRebootHoldoffSeconds := 180

theorem create_nightlyArgs : create nightlyArgs 0 "sch_1" = .ok nightlyCycle := by
  have hname : checkedName "nightly" = .ok "nightly" := by decide
  have htime : storedTime .daily (some "00:00") = .ok (some "00:00") := by decide
  have hkind : knownKind "power_cycle" = .ok .powerCycle := by decide
  have hrec : knownRecurrence "daily" = .ok .daily := by decide
  have hdays : storedWeekdays .daily .null = .ok (.arr []) := rfl
  have htarget : checkTarget .powerCycle nightlyArgs.target = .ok () := by decide
  have horEmpty : nightlyArgs.target.orEmpty = nightlyCycle.target := rfl
  have hnext :
      computeNextRunAt { nightlyCycle with nextRunAt := none } 0 = .ok (some (days 1)) := by
    decide +kernel
  simp only [nightlyArgs, nightlyCycle] at htarget horEmpty hnext
  rw [create.eq_def]
  simp only [nightlyArgs, hname, hkind, hrec, htime, hdays, htarget, horEmpty, checkStart,
    checkDuration, bind, Except.bind]
  simp [hnext, raising]
  rfl

/-- The nightly schedule runs next at the midnight to come. -/
theorem recurring_next_run_nightly :
    ∃ next, computeNextRunAt nightlyCycle (seconds 30) = .ok (some next) ∧
      IsLeast {t | t ∈ occurrences nightlyArgs ∧ seconds 30 < t} next :=
  recurring_next_run nightlyArgs 0 (seconds 30) "sch_1" nightlyCycle create_nightlyArgs
    (.inl rfl)

/-- A tick `t` seconds into the second day, beside one device and some later rows. -/
def secondDayTick (t : Int) (after : List Schedule) : ScheduleTick where
  inp := secondDay t
  before := []
  after := after
  fleet := oneDevice
  flag := .default

theorem no_occurrence_after_midnight :
    ¬ ∃ t ∈ occurrences nightlyArgs,
      lastClock 0 [secondDayTick 0 []] < t ∧ t ≤ (secondDay 30).now := by
  rintro ⟨t, ⟨p, hp, day, rfl, -⟩, hlt, hle⟩
  obtain rfl : p = (0, 0) := by
    rw [show requestedTime nightlyArgs = some (0, 0) by decide] at hp
    exact (Option.some.inj hp).symm
  simp only [Time, lastClock, secondDayTick, secondDay, List.map, List.getLastD, List.getLast,
    timeOn, days, seconds] at hlt hle
  omega

/-- Alone, the nightly schedule does not fire again after midnight. -/
theorem schedule_fires_on_occurrences_after_midnight :
    ¬ Fires (run afterTick nightlyCycle [secondDayTick 0 []]) (secondDayTick 30 []) := by
  have hok : Admits afterTick OthersWell nightlyCycle
      ([secondDayTick 0 []] ++ [secondDayTick 30 []]) :=
    ⟨⟨rfl, by simp [secondDayTick]⟩, ⟨rfl, by simp [secondDayTick]⟩, trivial⟩
  rw [(schedule_fires_on_occurrences create_nightlyArgs [secondDayTick 0 []] (secondDayTick 30 [])
    hok).1 (by decide) (by simp [Increasing, secondDayTick, secondDay, days, seconds])]
  exact no_occurrence_after_midnight

/-- Beside an imported row from which no next run can be computed, the nightly schedule fires
at midnight and again thirty seconds later. -/
theorem schedule_fires_without_occurrence :
    create nightlyArgs 0 "sch_1" = .ok nightlyCycle ∧
      Increasing 0 [secondDayTick 0 [importedSchedule], secondDayTick 30 [importedSchedule]] ∧
      Fires nightlyCycle (secondDayTick 0 [importedSchedule]) ∧
      Fires (run afterTick nightlyCycle [secondDayTick 0 [importedSchedule]])
        (secondDayTick 30 [importedSchedule]) ∧
      ¬ ∃ t ∈ occurrences nightlyArgs,
        lastClock 0 [secondDayTick 0 [importedSchedule]] < t ∧ t ≤ (secondDay 30).now := by
  refine ⟨create_nightlyArgs, ?_, ?_, ?_, no_occurrence_after_midnight⟩
  · simp [Increasing, secondDayTick, secondDay, days, seconds]
  · exact ⟨rfl, rfl, by decide⟩
  · exact ⟨rfl, rfl, by decide⟩

end RebooterHub.Schedules
