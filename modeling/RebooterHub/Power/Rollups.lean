import Mathlib.Tactic.Linarith
import RebooterHub.Power.Sources
import RebooterHub.Support.Runs

/-!
# Power — Rollups

The table of the daily rollups over time: samples come in with the uploads and the heartbeats, some
of them late, the nightly job aggregates a day, and devices are deleted with their rows.

* `rollups_kept`: what the table says at any time, of the samples that there are then.
-/

namespace RebooterHub.Power
open Rows Runs

/-- What happens to the tables. -/
inductive MeterStep where
  /-- An upload, or the summary of a heartbeat. -/
  | ingest (rows : List DevicePowerSample)
  /-- `compute_daily_rollups`. -/
  | rollup (day : Option Time)
  /-- `delete_device`. -/
  | delete (deviceId : String)

/-- `device_power_samples` and `device_power_rollups`, and the clock. -/
structure Meters where
  samples : List DevicePowerSample
  rollups : List DevicePowerRollup
  clock : Time

/-- The day that the job aggregates. -/
def rollupDay (now : Time) (day : Option Time) : Time := midnight (day.getD (now - seconds 86400))

namespace Meters

/-- A step at a time. -/
def step (s : Meters) (a : Time × MeterStep) : Meters :=
  match a.2 with
  | .ingest rows => { s with samples := s.samples ++ rows, clock := a.1 }
  | .rollup day =>
    { s with rollups := computeDailyRollups s.rollups s.samples a.1 day, clock := a.1 }
  | .delete deviceId =>
    { samples := s.samples.filter (·.deviceId ≠ deviceId)
      rollups := s.rollups.filter (·.deviceId ≠ deviceId)
      clock := a.1 }

/-- The job's time and day. -/
def out (_ : Meters) (a : Time × MeterStep) : List (Time × Time) :=
  match a.2 with
  | .rollup day => [(a.1, rollupDay a.1 day)]
  | _ => []

/-- Time goes on, and a sample is received when it comes in. -/
def ok (s : Meters) (a : Time × MeterStep) : Prop :=
  s.clock ≤ a.1 ∧ match a.2 with
    | .ingest rows => ∀ x ∈ rows, x.receivedAt = a.1
    | _ => True

/-- Nothing yet. -/
def start (now : Time) : Meters := ⟨[], [], now⟩

end Meters

/-! ### What one run of the job stores -/

section
variable {rollups rs : List DevicePowerRollup} {samples : List DevicePowerSample}
  {r r' : DevicePowerRollup} {now day : Time} {deviceId : String}

theorem mem_upsert (h : r ∈ upsert rollups r') : r = r' ∨ r ∈ rollups ∧ r.key ≠ r'.key := by
  rw [upsert] at h
  split at h
  · rcases mem_amend h with hr | ⟨old, -, hkey, rfl⟩
    · exact .inr hr
    · obtain ⟨hid, hday⟩ := Prod.mk.inj hkey
      refine .inl ?_
      rw [hid, hday]
  · next hnew =>
      rcases mem_snoc.mp h with h | h
      · refine .inr ⟨h, fun hkey => hnew (any_eq_iff.mpr ?_)⟩
        exact hkey ▸ List.mem_map_of_mem h
      · exact .inl h

theorem keyed_upsert (h : Keyed DevicePowerRollup.key rollups) :
    Keyed DevicePowerRollup.key (upsert rollups r) := by
  rw [upsert]
  split
  · exact h.amend fun _ => rfl
  · next hnew =>
      refine h.append (find?_eq_none_iff.mpr fun hkey => hnew ?_)
      exact any_eq_iff.mpr hkey

theorem keyed_foldl_upsert (h : Keyed DevicePowerRollup.key rollups) :
    Keyed DevicePowerRollup.key (rs.foldl upsert rollups) := by
  induction rs generalizing rollups with
  | nil => exact h
  | cons r rs ih => exact ih (keyed_upsert h)

/-- A stored row is one that was written, or is there from before. -/
theorem of_mem_foldl_upsert (h : r ∈ rs.foldl upsert rollups) :
    r ∈ rs ∨ r ∈ rollups ∧ ∀ r' ∈ rs, r.key ≠ r'.key := by
  induction rs generalizing rollups with
  | nil => exact .inr ⟨h, by simp⟩
  | cons r' rs ih =>
      rcases ih h with hmem | ⟨hmem, hne⟩
      · exact .inl (List.mem_cons_of_mem r' hmem)
      · rcases mem_upsert hmem with rfl | ⟨hmem, hne'⟩
        · exact .inl List.mem_cons_self
        · exact .inr ⟨hmem, List.forall_mem_cons.mpr ⟨hne', hne⟩⟩

/-- A key that is stored stays stored. -/
theorem exists_mem_foldl_upsert (h : r ∈ rollups) :
    ∃ r' ∈ rs.foldl upsert rollups, r'.key = r.key := by
  induction rs generalizing rollups r with
  | nil => exact ⟨r, h, rfl⟩
  | cons r₀ rs ih =>
      by_cases hkey : r.key = r₀.key
      · obtain ⟨r', hr', hsame⟩ := ih (mem_upsert_self rollups r₀)
        exact ⟨r', hr', hsame.trans hkey.symm⟩
      · exact ih (mem_upsert_of_ne h hkey)

theorem daySamples_append (samples samples' : List DevicePowerSample) :
    daySamples (samples ++ samples') day deviceId =
      daySamples samples day deviceId ++ daySamples samples' day deviceId := by
  rw [daySamples, channelSamples, List.filter_append, List.filter_append]
  rfl

theorem mem_daySamples {x : DevicePowerSample} : x ∈ daySamples samples day deviceId ↔
    x ∈ samples ∧ x.deviceId = deviceId ∧ x.channelId = 0 ∧ day ≤ x.sampledAt ∧
      x.sampledAt < day + seconds 86400 := by
  simp only [daySamples, channelSamples, List.mem_filter, decide_eq_true_iff, and_assoc]

/-- The samples of the other devices. -/
theorem daySamples_filter {gone : String} (hne : deviceId ≠ gone) :
    daySamples (samples.filter (·.deviceId ≠ gone)) day deviceId =
      daySamples samples day deviceId := by
  have hchannel : channelSamples (samples.filter (·.deviceId ≠ gone)) deviceId 0 =
      channelSamples samples deviceId 0 := by
    rw [channelSamples, List.filter_filter, channelSamples]
    refine List.filter_congr fun x _ => ?_
    by_cases hid : x.deviceId = deviceId
    · simp [hid, hne]
    · simp [hid]
  rw [daySamples, hchannel, daySamples]

/-- A device's row is written for each device with a sample of the day. -/
theorem day_of_mem_dayRollups (h : r ∈ dayRollups samples now day) :
    r.dayBucket = day ∧ r.computedAt = now ∧ daySamples samples day r.deviceId ≠ [] := by
  obtain ⟨deviceId, hdevice, rfl⟩ := List.mem_map.mp h
  refine ⟨rfl, rfl, ?_⟩
  obtain ⟨x, hx, rfl⟩ := List.mem_map.mp (List.mem_dedup.mp hdevice)
  obtain ⟨hmem, hday⟩ := List.mem_filter.mp hx
  obtain ⟨hchannel, hfrom, hto⟩ := of_decide_eq_true hday
  exact List.ne_nil_of_mem (mem_daySamples.mpr ⟨hmem, rfl, hchannel, hfrom, hto⟩)

end

/-! ### What is stored over time -/

/-- A row aggregates the samples of its day that had come in when it was computed, of which there
were some. -/
def Made (samples : List DevicePowerSample) (r : DevicePowerRollup) : Prop :=
  ∃ before after, samples = before ++ after ∧
    daySamples before r.dayBucket r.deviceId ≠ [] ∧
    r = rollupOf r.computedAt r.dayBucket r.deviceId (daySamples before r.dayBucket r.deviceId) ∧
    (∀ x ∈ before, x.receivedAt ≤ r.computedAt) ∧ ∀ x ∈ after, r.computedAt ≤ x.receivedAt

/-- What the tables say, where `log` has the runs of the job.

* There is one row for a device and day.
* A row aggregates what had come in when it was computed.
* That was at the last run for its day.
* A device has a row for each day that the job ran for when a sample of the device had come in. -/
structure Kept (log : List (Time × Time)) (s : Meters) : Prop where
  keyed : Keyed DevicePowerRollup.key s.rollups
  made : ∀ r ∈ s.rollups, Made s.samples r
  last : ∀ r ∈ s.rollups, ∀ e ∈ log, e.2 = r.dayBucket → e.1 ≤ r.computedAt
  complete : ∀ e ∈ log, ∀ deviceId, ∀ x ∈ daySamples s.samples e.2 deviceId, x.receivedAt < e.1 →
    ∃ r ∈ s.rollups, r.key = (deviceId, e.2)

/-- The tables, and what is past. -/
structure Metered (log : List (Time × Time)) (s : Meters) : Prop where
  kept : Kept log s
  received : ∀ x ∈ s.samples, x.receivedAt ≤ s.clock
  past : ∀ e ∈ log, e.1 ≤ s.clock
  computed : ∀ r ∈ s.rollups, r.computedAt ≤ s.clock

section
variable {log : List (Time × Time)} {s : Meters} {now : Time}

theorem Made.ingest {samples rows : List DevicePowerSample} {r : DevicePowerRollup}
    (h : Made samples r) (hrows : ∀ x ∈ rows, r.computedAt ≤ x.receivedAt) :
    Made (samples ++ rows) r := by
  obtain ⟨before, after, rfl, hsome, hmade, hbefore, hafter⟩ := h
  refine ⟨before, after ++ rows, List.append_assoc .., hsome, hmade, hbefore, fun x hx => ?_⟩
  rcases List.mem_append.mp hx with hx | hx
  · exact hafter x hx
  · exact hrows x hx

theorem Made.delete {samples : List DevicePowerSample} {r : DevicePowerRollup} {gone : String}
    (h : Made samples r) (hne : r.deviceId ≠ gone) :
    Made (samples.filter (·.deviceId ≠ gone)) r := by
  obtain ⟨before, after, rfl, hsome, hmade, hbefore, hafter⟩ := h
  refine ⟨_, _, List.filter_append .., ?_, ?_, fun x hx => hbefore x (List.mem_of_mem_filter hx),
    fun x hx => hafter x (List.mem_of_mem_filter hx)⟩
  · rwa [daySamples_filter hne]
  · rwa [daySamples_filter hne]

theorem Metered.ingest (h : Metered log s) {rows : List DevicePowerSample} (hclock : s.clock ≤ now)
    (hrows : ∀ x ∈ rows, x.receivedAt = now) :
    Metered log { s with samples := s.samples ++ rows, clock := now } where
  kept :=
    { keyed := h.kept.keyed
      made := fun r hr => (h.kept.made r hr).ingest fun x hx =>
        (hrows x hx) ▸ (h.computed r hr).trans hclock
      last := h.kept.last
      complete := by
        intro e he deviceId x hx hearlier
        rw [daySamples_append] at hx
        rcases List.mem_append.mp hx with hx | hx
        · exact h.kept.complete e he deviceId x hx hearlier
        · -- what comes in now is no earlier than the run of the job
          have hpast := h.past e he
          have hnow := hrows x (mem_daySamples.mp hx).1
          linarith }
  received x hx := by
    rcases List.mem_append.mp hx with hx | hx
    · exact (h.received x hx).trans hclock
    · exact (hrows x hx).le
  past e he := (h.past e he).trans hclock
  computed r hr := (h.computed r hr).trans hclock

theorem Metered.delete (h : Metered log s) {gone : String} (hclock : s.clock ≤ now) :
    Metered log ⟨s.samples.filter (·.deviceId ≠ gone), s.rollups.filter (·.deviceId ≠ gone), now⟩
    where
  kept :=
    { keyed := h.kept.keyed.filter _
      made := by
        intro r hr
        obtain ⟨hr, hne⟩ := List.mem_filter.mp hr
        exact (h.kept.made r hr).delete (of_decide_eq_true hne)
      last := fun r hr => h.kept.last r (List.mem_of_mem_filter hr)
      complete := by
        intro e he deviceId x hx hearlier
        obtain ⟨hmem, hid, hday⟩ := mem_daySamples.mp hx
        obtain ⟨hmem, hne⟩ := List.mem_filter.mp hmem
        obtain ⟨r, hr, hkey⟩ :=
          h.kept.complete e he deviceId x (mem_daySamples.mpr ⟨hmem, hid, hday⟩) hearlier
        refine ⟨r, List.mem_filter.mpr ⟨hr, decide_eq_true fun hgone => ?_⟩, hkey⟩
        have hdevice : r.deviceId = deviceId := (Prod.mk.inj hkey).1
        exact of_decide_eq_true hne (hid.trans (hdevice.symm.trans hgone)) }
  received x hx := (h.received x (List.mem_of_mem_filter hx)).trans hclock
  past e he := (h.past e he).trans hclock
  computed r hr := (h.computed r (List.mem_of_mem_filter hr)).trans hclock

/-- A row that the job leaves is of another day. -/
theorem Metered.day_ne (h : Metered log s) {day : Time} {r : DevicePowerRollup} (hr : r ∈ s.rollups)
    (hother : ∀ r' ∈ dayRollups s.samples now day, r.key ≠ r'.key) : day ≠ r.dayBucket := by
  rintro rfl
  obtain ⟨before, after, hsamples, hsome, -⟩ := h.kept.made r hr
  obtain ⟨x, hx⟩ := List.exists_mem_of_ne_nil _ hsome
  have hmem : x ∈ daySamples s.samples r.dayBucket r.deviceId := by
    rw [hsamples, daySamples_append]
    exact List.mem_append_left _ hx
  obtain ⟨r', hr', hid⟩ : ∃ r' ∈ dayRollups s.samples now r.dayBucket, r'.deviceId = r.deviceId :=
    exists_dayRollup hmem
  refine hother r' hr' ?_
  rw [DevicePowerRollup.key, DevicePowerRollup.key, hid, (day_of_mem_dayRollups hr').1]

theorem Metered.rollup (h : Metered log s) {day : Option Time} (hclock : s.clock ≤ now) :
    Metered (log ++ [(now, rollupDay now day)])
      { s with rollups := computeDailyRollups s.rollups s.samples now day, clock := now } := by
  have hmem : ∀ r ∈ computeDailyRollups s.rollups s.samples now day,
      r ∈ dayRollups s.samples now (rollupDay now day) ∨
        r ∈ s.rollups ∧ ∀ r' ∈ dayRollups s.samples now (rollupDay now day), r.key ≠ r'.key :=
    fun r hr => of_mem_foldl_upsert hr
  constructor
  · constructor
    · exact keyed_foldl_upsert h.kept.keyed
    · intro r hr
      rcases hmem r hr with hnew | ⟨hold, -⟩
      · obtain ⟨hday, hnow, hsome⟩ := day_of_mem_dayRollups hnew
        have hrow := of_mem_dayRollups hnew
        rw [← hday] at hsome hrow
        refine ⟨s.samples, [], (List.append_nil _).symm, hsome, ?_, fun x hx => ?_, by simp⟩
        · rwa [hnow]
        · rw [hnow]
          exact (h.received x hx).trans hclock
      · exact h.kept.made r hold
    · intro r hr e he hday
      rcases hmem r hr with hnew | ⟨hold, hother⟩
      · rw [(day_of_mem_dayRollups hnew).2.1]
        rcases mem_snoc.mp he with he | rfl
        · exact (h.past e he).trans hclock
        · exact le_rfl
      · rcases mem_snoc.mp he with he | rfl
        · exact h.kept.last r hold e he hday
        · exact absurd hday (h.day_ne hold hother)
    · intro e he deviceId x hx hearlier
      rcases mem_snoc.mp he with he | rfl
      · obtain ⟨r, hr, hkey⟩ := h.kept.complete e he deviceId x hx hearlier
        obtain ⟨r', hr', hsame⟩ := exists_mem_foldl_upsert hr
        exact ⟨r', hr', hsame.trans hkey⟩
      · obtain ⟨r, hr, hid⟩ : ∃ r ∈ dayRollups s.samples now (rollupDay now day),
            r.deviceId = deviceId := exists_dayRollup hx
        refine ⟨r, mem_computeDailyRollups s.rollups s.samples now day hr, ?_⟩
        rw [DevicePowerRollup.key, hid, (day_of_mem_dayRollups hr).1]
  · exact fun x hx => (h.received x hx).trans hclock
  · intro e he
    rcases mem_snoc.mp he with he | rfl
    · exact (h.past e he).trans hclock
    · exact le_rfl
  · intro r hr
    rcases hmem r hr with hnew | ⟨hold, -⟩
    · exact (day_of_mem_dayRollups hnew).2.1.le
    · exact (h.computed r hold).trans hclock

theorem Metered.step (h : Metered log s) {a : Time × MeterStep} (hok : s.ok a) :
    Metered (log ++ s.out a) (s.step a) := by
  obtain ⟨now, action⟩ := a
  obtain ⟨hclock, hok⟩ := hok
  cases action with
  | ingest rows =>
      rw [Meters.out, List.append_nil]
      exact h.ingest hclock hok
  | rollup day => exact h.rollup hclock
  | delete deviceId =>
      rw [Meters.out, List.append_nil]
      exact h.delete hclock

theorem Metered.run {start : Time} {as : List (Time × MeterStep)}
    (has : Admits Meters.step Meters.ok (Meters.start start) as) :
    Metered (emitted Meters.step Meters.out (Meters.start start) as)
      (Runs.run Meters.step (Meters.start start) as) := by
  have hstart : Metered [] (Meters.start start) :=
    { kept := ⟨List.nodup_nil, by simp [Meters.start], by simp [Meters.start], by simp⟩
      received := by simp [Meters.start]
      past := by simp
      computed := by simp [Meters.start] }
  exact emitted_invariant (I := Metered) (fun _ _ _ h hok => h.step hok) hstart has

end

/-- A reading of a device's counter. -/
def counterSample (t : Time) (wh : ℤ) : DevicePowerSample :=
  { sampleOf "plug" t "steady" (some 5) with energyWh := some wh }

/-- Two days, and the job in the night after each. -/
def twoDays : List (Time × MeterStep) :=
  [(seconds 36000, .ingest [counterSample (seconds 36000) 100]),
    (seconds 72000, .ingest [counterSample (seconds 72000) 130]),
    (seconds 86700, .rollup none),
    (seconds 108000, .ingest [counterSample (seconds 108000) 150]),
    (seconds 158400, .ingest [counterSample (seconds 158400) 160]),
    (seconds 173100, .rollup none)]

theorem admits_twoDays : Admits Meters.step Meters.ok (Meters.start 0) twoDays := by
  simp [twoDays, Admits, Meters.ok, Meters.start, Meters.step, counterSample, sampleOf,
    seconds]

end RebooterHub.Power
