import Mathlib.Data.List.Dedup
import Mathlib.Data.List.Sort
import RebooterHub.Data.Text
import RebooterHub.Data.Time

/-!
# Schedules — Rows

The `schedules` row, `schedules.create` and `compute_next_run_at`.

`create` validates what it stores; a backup import does not, so the columns of a row hold any
kind, recurrence, time text, weekdays and target.  A stored time text is one of at most five
characters and the integers are 32 bit wide.
-/

namespace RebooterHub.Schedules

/-- The `kind` column: a member of `KNOWN_KINDS`, or another text. -/
inductive ScheduleKind where
  | powerCycle
  | maintenance
  | other (text : String)
deriving DecidableEq, Repr

/-- The kind a text is. -/
def ScheduleKind.ofText : String → ScheduleKind
  | "power_cycle" => .powerCycle
  | "maintenance" => .maintenance
  | text => .other text

/-- The `recurrence` column: a member of `KNOWN_RECURRENCES`, or another text. -/
inductive Recurrence where
  | once
  | daily
  | weekly
  | other (text : String)
deriving DecidableEq, Repr

/-- The recurrence a text is. -/
def Recurrence.ofText : String → Recurrence
  | "once" => .once
  | "daily" => .daily
  | "weekly" => .weekly
  | text => .other text

/-- What `last_outcome` can hold. -/
inductive Outcome where
  | enqueued (n : Nat)
  | enqueuedFailed (n failed : Nat)
  | noTargetDevices
  | maintenanceWindowOpen
  | unsupportedKind (kind : String)
  | error (name : String)
deriving DecidableEq, Repr

/-- The text stored in the column. -/
def Outcome.text : Outcome → String
  | .enqueued n => "enqueued:" ++ toString n
  | .enqueuedFailed n failed => "enqueued:" ++ toString n ++ " failed:" ++ toString failed
  | .noTargetDevices => "no_target_devices"
  | .maintenanceWindowOpen => "maintenance_window_open"
  | .unsupportedKind kind => "unsupported_kind:" ++ kind
  | .error name => "error: " ++ name

/-- The text fits the column's 40 characters.  Only a stored kind can make it longer: counts of
devices and names of exceptions are short. -/
def Outcome.fits : Outcome → Bool
  | .unsupportedKind kind => decide (kind.length ≤ 23)
  | _ => true

/-- A row of `schedules`. -/
structure Schedule where
  id : String
  name : String
  enabled : Bool
  kind : ScheduleKind
  recurrence : Recurrence
  atTimeUtc : Option String
  weekdays : Json
  startAt : Option Time
  durationSeconds : Int
  target : Json
  powerOffSeconds : Int
  postRebootHoldoffSeconds : Int
  lastRunAt : Option Time
  nextRunAt : Option Time
  lastOutcome : Option Outcome

/-! ### The calendar -/

/-- `timedelta(days=n)`. -/
def days (n : Int) : Time := n * 86400000000

/-- The day `t` lies in, counted from 1970-01-01. -/
def dayOf (t : Time) : Int := t / 86400000000

/-- `hh:mm` of a day. -/
def timeOn (day hh mm : Int) : Time := days day + hh * 3600000000 + mm * 60000000

/-- The weekday of a day, Monday being 0. -/
def weekdayOf (day : Int) : Int := (day + 3) % 7

/-- `t.weekday()`. -/
def weekday (t : Time) : Int := weekdayOf (dayOf t)

/-- `t.replace(hour=hh, minute=mm, second=0, microsecond=0)`. -/
def replaceTime (t : Time) (hh mm : Int) : Except PyError Time :=
  if 0 ≤ hh ∧ hh ≤ 23 ∧ 0 ≤ mm ∧ mm ≤ 59 then .ok (timeOn (dayOf t) hh mm) else .error .valueError

/-! ### The next run -/

/-- `hh, mm = [int(x) for x in at_time_utc.split(":")]`; `none` where it raises. -/
def hoursMinutes (atTimeUtc : String) : Option (Int × Int) :=
  match atTimeUtc.toList.splitOn ':' with
  | [hh, mm] => do return (← Text.int hh, ← Text.int mm)
  | _ => none

/-- `sorted(int(d) for d in (weekdays or []))`, in the stored order. -/
def weekdayNumbers (weekdays : Json) : Except PyError (List Int) := do
  (← weekdays.orNil.iter).mapM Json.toInt

/-- The first of `n` days from `candidate` on whose weekday is listed. -/
def walkForward (weekdays : List Int) : Nat → Time → Option Time
  | 0, _ => none
  | n + 1, candidate =>
    if weekday candidate ∈ weekdays then some candidate
    else walkForward weekdays n (candidate + days 1)

/-- The candidate of a daily or weekly schedule: the next `hh:mm` after `now`. -/
def nextCandidate (now : Time) (hh mm : Int) : Except PyError Time := do
  let candidate ← replaceTime now hh mm
  return if candidate ≤ now then candidate + days 1 else candidate

/-- `compute_next_run_at`. -/
def computeNextRunAt (s : Schedule) (now : Time) : Except PyError (Option Time) :=
  match s.recurrence with
  | .once => match s.startAt, s.lastRunAt with
    | some startAt, none => .ok (if now < startAt then some startAt else none)
    | _, _ => .ok none
  | .daily => match (s.atTimeUtc.filter (· ≠ "")).bind hoursMinutes with
    | none => .ok none
    | some (hh, mm) => do return some (← nextCandidate now hh mm)
  | .weekly => match (s.atTimeUtc.filter (· ≠ "")).bind hoursMinutes with
    | none => .ok none
    | some (hh, mm) => do
        let candidate ← nextCandidate now hh mm
        return walkForward (← weekdayNumbers s.weekdays) 7 candidate
  | .other _ => .ok none

/-- The hours and minutes of a schedule's time text, when it is one. -/
def parsedTime (s : Schedule) : Option (Int × Int) :=
  (s.atTimeUtc.filter (· ≠ "")).bind hoursMinutes

/-- The hours and minutes that the time text names are those of a day. -/
def TimeOfDay (s : Schedule) : Prop :=
  ∀ p ∈ parsedTime s, 0 ≤ p.1 ∧ p.1 ≤ 23 ∧ 0 ≤ p.2 ∧ p.2 ≤ 59

/-- The content of a schedule from which a next run can be computed. -/
def Rearmable (s : Schedule) : Prop :=
  match s.recurrence with
  | .daily => TimeOfDay s
  | .weekly => TimeOfDay s ∧ ((parsedTime s).isSome = true → ∃ ds, weekdayNumbers s.weekdays = .ok ds)
  | .once | .other _ => True

theorem replaceTime_isOk_iff (t : Time) (hh mm : Int) :
    (∃ c, replaceTime t hh mm = .ok c) ↔ 0 ≤ hh ∧ hh ≤ 23 ∧ 0 ≤ mm ∧ mm ≤ 59 := by
  rw [replaceTime]
  split <;> simp [*]

/-- A candidate is `hh:mm` of the day of `now` or of the next one, whichever comes first after
`now`. -/
theorem nextCandidate_spec {now hh mm c : Int} (h : nextCandidate now hh mm = .ok c) :
    now < c ∧ (c = timeOn (dayOf now) hh mm ∨
      c = timeOn (dayOf now + 1) hh mm ∧ timeOn (dayOf now) hh mm ≤ now) := by
  rw [nextCandidate, replaceTime] at h
  split at h
  · next hrange =>
      have hc : (if timeOn (dayOf now) hh mm ≤ now then timeOn (dayOf now) hh mm + days 1
          else timeOn (dayOf now) hh mm) = c := Except.ok.inj h
      subst hc
      by_cases hle : timeOn (dayOf now) hh mm ≤ now
      · rw [if_pos hle]
        simp only [Time, timeOn, days, dayOf] at hle ⊢
        omega
      · rw [if_neg hle]
        exact ⟨Int.not_le.mp hle, .inl rfl⟩
  · cases h

theorem nextCandidate_isOk_iff (now : Time) (hh mm : Int) :
    (∃ c, nextCandidate now hh mm = .ok c) ↔ 0 ≤ hh ∧ hh ≤ 23 ∧ 0 ≤ mm ∧ mm ≤ 59 := by
  rw [← replaceTime_isOk_iff now, nextCandidate]
  cases replaceTime now hh mm with
  | ok c => exact ⟨fun _ => ⟨c, rfl⟩, fun _ => ⟨_, rfl⟩⟩
  | error e => exact ⟨fun ⟨_, h⟩ => (by cases h), fun ⟨_, h⟩ => by cases h⟩

theorem walkForward_lt {ds : List Int} {n : Nat} {now c r : Int} (hc : now < c)
    (h : walkForward ds n c = some r) : now < r := by
  induction n generalizing c with
  | zero => cases h
  | succ n ih =>
      rw [walkForward] at h
      split at h
      · obtain rfl := Option.some.inj h
        exact hc
      · refine ih ?_ h
        simp only [days]
        omega

/-- **A next run is after now.** -/
theorem lt_of_computeNextRunAt {s : Schedule} {now n : Time}
    (h : computeNextRunAt s now = .ok (some n)) : now < n := by
  rw [computeNextRunAt] at h
  split at h
  · split at h
    · split at h
      · next hlt =>
          obtain rfl := Option.some.inj (Except.ok.inj h)
          exact hlt
      · cases h
    · cases h
  · split at h
    · cases h
    · next hh mm _ =>
        cases hc : nextCandidate now hh mm with
        | error e => rw [hc] at h; cases h
        | ok c =>
            rw [hc] at h
            obtain rfl : c = n := Option.some.inj (Except.ok.inj h)
            exact (nextCandidate_spec hc).1
  · split at h
    · cases h
    · next hh mm _ =>
        cases hc : nextCandidate now hh mm with
        | error e => rw [hc] at h; cases h
        | ok c =>
            cases hd : weekdayNumbers s.weekdays with
            | error e => rw [hc, hd] at h; cases h
            | ok ds =>
                rw [hc, hd] at h
                exact walkForward_lt (nextCandidate_spec hc).1 (Except.ok.inj h)
  · cases h

/-- **A next run can be computed** exactly from rearmable content, whatever the time. -/
theorem computeNextRunAt_isOk_iff (s : Schedule) (now : Time) :
    (∃ n, computeNextRunAt s now = .ok n) ↔ Rearmable s := by
  rw [computeNextRunAt, Rearmable, TimeOfDay]
  cases s.recurrence with
  | once =>
      refine iff_of_true ?_ trivial
      dsimp only
      split <;> exact ⟨_, rfl⟩
  | other text => exact iff_of_true ⟨none, rfl⟩ trivial
  | daily =>
      dsimp only
      rw [← parsedTime]
      cases parsedTime s with
      | none => simp
      | some p =>
          obtain ⟨hh, mm⟩ := p
          have hc := nextCandidate_isOk_iff now hh mm
          simp only [Option.mem_def, Option.some.injEq, forall_eq', ← hc]
          cases nextCandidate now hh mm with
          | ok c => exact ⟨fun _ => ⟨c, rfl⟩, fun _ => ⟨_, rfl⟩⟩
          | error e => exact ⟨fun ⟨_, h⟩ => (by cases h), fun ⟨_, h⟩ => by cases h⟩
  | weekly =>
      dsimp only
      rw [← parsedTime]
      cases parsedTime s with
      | none => simp
      | some p =>
          obtain ⟨hh, mm⟩ := p
          have hc := nextCandidate_isOk_iff now hh mm
          simp only [Option.mem_def, Option.some.injEq, forall_eq', ← hc, Option.isSome_some,
            forall_const]
          cases nextCandidate now hh mm with
          | error e => exact ⟨fun ⟨_, h⟩ => (by cases h), fun ⟨⟨_, h⟩, _⟩ => by cases h⟩
          | ok c =>
              cases weekdayNumbers s.weekdays with
              | ok ds => exact ⟨fun _ => ⟨⟨c, rfl⟩, ds, rfl⟩, fun _ => ⟨_, rfl⟩⟩
              | error e => exact ⟨fun ⟨_, h⟩ => (by cases h), fun ⟨_, _, h⟩ => by cases h⟩

/-! ### Creation -/

/-- What `create` raises. -/
inductive CreateError where
  | validation (message : String)
  | raised (e : PyError)
deriving DecidableEq, Repr

/-- An exception of Python in `create`. -/
def raising {α : Type} : Except PyError α → Except CreateError α
  | .ok x => .ok x
  | .error e => .error (.raised e)

/-- The character is a decimal digit. -/
def decimalDigit (c : Char) : Bool := (Text.decimal c).isSome

/-- `re.fullmatch(r"(\d{1,2}):(\d{2})", text)`: the two groups. -/
def matchTime : List Char → Option (List Char × List Char)
  | [a, ':', c, d] =>
    if (decimalDigit a && decimalDigit c && decimalDigit d) then some ([a], [c, d]) else none
  | [a, b, ':', c, d] =>
    if (decimalDigit a && decimalDigit b && decimalDigit c && decimalDigit d) then
      some ([a, b], [c, d])
    else none
  | _ => none

/-- Two digits, zero padded. -/
def twoDigits (n : Int) : List Char :=
  [Char.ofNat (48 + (n / 10).toNat), Char.ofNat (48 + (n % 10).toNat)]

/-- The normalised time text of a daily or weekly schedule. -/
def normalizeTime (atTimeUtc : Option String) : Except CreateError String :=
  match atTimeUtc.filter (· ≠ "") with
  | none => .error (.validation "at_time_utc is required for daily/weekly")
  | some text =>
    let invalid := .error (.validation "at_time_utc must be HH:MM (00:00 to 23:59)")
    match matchTime (Text.strip text.toList) with
    | none => invalid
    | some (g₁, g₂) => match Text.int g₁, Text.int g₂ with
      | some hh, some mm =>
        if 0 ≤ hh ∧ hh ≤ 23 ∧ 0 ≤ mm ∧ mm ≤ 59 then
          .ok (String.ofList (twoDigits hh ++ ':' :: g₂))
        else invalid
      | _, _ => invalid

/-- The cleaned weekdays of a weekly schedule. -/
def cleanWeekdays (weekdays : Json) : Except CreateError Json := do
  if !weekdays.truthy then throw (.validation "weekdays is required for weekly")
  let numbers ← raising (weekdayNumbers weekdays)
  let cleaned := numbers.dedup.insertionSort (· ≤ ·)
  if cleaned.any fun d => decide (d < 0 ∨ 6 < d) then
    throw (.validation "weekdays must be integers 0 (Mon) to 6 (Sun)")
  return .arr (cleaned.map .int)

/-- The name, stripped. -/
def checkedName (name : String) : Except CreateError String := do
  let name := Text.strip name.toList
  if name.isEmpty then throw (.validation "name is required")
  if 120 < name.length then throw (.validation "name must be 120 characters or fewer")
  return String.ofList name

/-- The kind is a member of `KNOWN_KINDS`. -/
def knownKind (kind : String) : Except CreateError ScheduleKind :=
  match ScheduleKind.ofText kind with
  | .other _ => .error (.validation "kind must be one of ('power_cycle', 'maintenance')")
  | kind => .ok kind

/-- The recurrence is a member of `KNOWN_RECURRENCES`. -/
def knownRecurrence (recurrence : String) : Except CreateError Recurrence :=
  match Recurrence.ofText recurrence with
  | .other _ => .error (.validation "recurrence must be one of ('once', 'daily', 'weekly')")
  | recurrence => .ok recurrence

/-- The time text that is stored. -/
def storedTime (recurrence : Recurrence) (atTimeUtc : Option String) :
    Except CreateError (Option String) :=
  match recurrence with
  | .daily | .weekly => some <$> normalizeTime atTimeUtc
  | .once | .other _ => .ok atTimeUtc

/-- The weekdays that are stored. -/
def storedWeekdays (recurrence : Recurrence) (weekdays : Json) : Except CreateError Json :=
  match recurrence with
  | .weekly => cleanWeekdays weekdays
  | .daily | .once | .other _ => .ok weekdays.orNil

/-- A one-shot schedule has a start. -/
def checkStart (recurrence : Recurrence) (startAt : Option Time) : Except CreateError Unit :=
  if recurrence = .once ∧ startAt.isNone then
    .error (.validation "start_at is required for once")
  else .ok ()

/-- The target of a power cycle names a kind. -/
def checkTarget (kind : ScheduleKind) (target : Json) : Except CreateError Unit :=
  let bad := .error (.validation "power_cycle requires target.kind in \x7bdevice,group,tag\x7d")
  if kind ≠ .powerCycle then .ok ()
  else if !target.truthy then bad
  else match target.get "kind" with
    | .error e => .error (.raised e)
    | .ok kind =>
      if kind = .str "device" ∨ kind = .str "group" ∨ kind = .str "tag" then .ok () else bad

/-- A maintenance schedule lasts. -/
def checkDuration (kind : ScheduleKind) (durationSeconds : Int) : Except CreateError Unit :=
  if kind = .maintenance ∧ durationSeconds ≤ 0 then
    .error (.validation "maintenance schedule needs duration_seconds > 0")
  else .ok ()

/-- The arguments of `create`. -/
structure CreateArgs where
  name : String
  kind : String
  recurrence : String
  target : Json
  atTimeUtc : Option String
  weekdays : Json
  startAt : Option Time
  durationSeconds : Int
  powerOffSeconds : Int
  postRebootHoldoffSeconds : Int

/-- `create`, at `now` and with the id the new row gets. -/
def create (a : CreateArgs) (now : Time) (newId : String) : Except CreateError Schedule := do
  let name ← checkedName a.name
  let kind ← knownKind a.kind
  let recurrence ← knownRecurrence a.recurrence
  let atTimeUtc ← storedTime recurrence a.atTimeUtc
  let weekdays ← storedWeekdays recurrence a.weekdays
  checkStart recurrence a.startAt
  checkTarget kind a.target
  checkDuration kind a.durationSeconds
  let s : Schedule :=
    { id := newId
      name := name
      enabled := true
      kind := kind
      recurrence := recurrence
      atTimeUtc := atTimeUtc
      weekdays := weekdays
      startAt := a.startAt
      durationSeconds := a.durationSeconds
      target := a.target.orEmpty
      powerOffSeconds := a.powerOffSeconds
      postRebootHoldoffSeconds := a.postRebootHoldoffSeconds
      lastRunAt := none
      nextRunAt := none
      lastOutcome := none }
  return { s with nextRunAt := ← raising (computeNextRunAt s now) }

end RebooterHub.Schedules
