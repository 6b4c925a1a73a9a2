import Mathlib.Tactic.FieldSimp
import Mathlib.Tactic.Linarith
import Mathlib.Tactic.Ring
import RebooterHub.Power.Rollups
import RebooterHub.Support.Extents

/-!
# Power — Energy

The energy that the rollups of successive days report, against the counter of the device.

`rollups_energy`: the rollups leave out what the counter grew from the last reading of a day to the
first of the next, and nothing else.
-/

namespace RebooterHub.Power
open Extents Rows Runs

/-- A day that is `i` days later. -/
def daysLater (day : Time) (i : ℕ) : Time := day + i * seconds 86400

/-- The readings of a device's counter on a day. -/
def readings (samples : List DevicePowerSample) (deviceId : String) (day : Time) : List ℤ :=
  (daySamples samples day deviceId).filterMap (·.energyWh)

/-- The readings of `n` days, day by day. -/
def dailyReadings (samples : List DevicePowerSample) (deviceId : String) (day : Time) (n : ℕ) :
    List (List ℤ) :=
  (List.range n).map fun i => readings samples deviceId (daysLater day i)

/-- The readings of `n` days. -/
def periodReadings (samples : List DevicePowerSample) (deviceId : String) (day : Time) (n : ℕ) :
    List ℤ :=
  ((channelSamples samples deviceId 0).filter fun x =>
    day ≤ x.sampledAt ∧ x.sampledAt < daysLater day n).filterMap (·.energyWh)

/-- The energy that the rollup of a day reports. -/
def storedKwh (rollups : List DevicePowerRollup) (deviceId : String) (day : Time) : ℚ :=
  ((rollups.find? (·.key = (deviceId, day))).bind (·.kwh)).getD 0

/-- The counter of a device does not fall. -/
def Counts (samples : List DevicePowerSample) (deviceId : String) : Prop :=
  ∀ x ∈ channelSamples samples deviceId 0, ∀ y ∈ channelSamples samples deviceId 0,
    x.sampledAt < y.sampledAt → ∀ a ∈ x.energyWh, ∀ b ∈ y.energyWh, a ≤ b

section
variable {samples : List DevicePowerSample} {deviceId : String} {day now : Time} {n : ℕ}

theorem kwh_rollupOf (rows : List DevicePowerSample) :
    (rollupOf now day deviceId rows).kwh.getD 0 =
      ((extent (rows.filterMap (·.energyWh)) : ℤ) : ℚ) / 1000 := by
  by_cases hnone : rows.filterMap (·.energyWh) = []
  · have hkwh : (rollupOf now day deviceId rows).kwh = none := by
      simp only [rollupOf, hnone, List.max?_nil]
    rw [hkwh, hnone, extent_nil, Option.getD_none, Int.cast_zero, zero_div]
  · obtain ⟨lo, hi, hspans⟩ := exists_spans hnone
    have hkwh : (rollupOf now day deviceId rows).kwh = some (((hi - lo : ℤ) : ℚ) / 1000) := by
      simp only [rollupOf]
      rw [hspans.max, hspans.min]
    rw [hkwh, hspans.extent, Option.getD_some]

theorem mem_readings {e : ℤ} : e ∈ readings samples deviceId day ↔
    ∃ x ∈ channelSamples samples deviceId 0,
      (day ≤ x.sampledAt ∧ x.sampledAt < day + seconds 86400) ∧ x.energyWh = some e := by
  simp only [readings, daySamples, List.mem_filterMap, List.mem_filter, decide_eq_true_iff,
    and_assoc]

theorem mem_periodReadings {e : ℤ} : e ∈ periodReadings samples deviceId day n ↔
    ∃ x ∈ channelSamples samples deviceId 0,
      (day ≤ x.sampledAt ∧ x.sampledAt < daysLater day n) ∧ x.energyWh = some e := by
  simp only [periodReadings, List.mem_filterMap, List.mem_filter, decide_eq_true_iff, and_assoc]

theorem daysLater_succ (day : Time) (i : ℕ) :
    daysLater day (i + 1) = daysLater day i + seconds 86400 := by
  rw [daysLater, daysLater]
  push_cast
  ring

theorem daysLater_mono {i j : ℕ} (h : i ≤ j) : daysLater day i ≤ daysLater day j := by
  have hday : (0 : ℤ) ≤ seconds 86400 := by decide
  have hcast : (i : ℤ) ≤ j := Int.ofNat_le.mpr h
  rw [daysLater, daysLater]
  exact Int.add_le_add_left (Int.mul_le_mul_of_nonneg_right hcast hday) day

/-- A time in a period is in one of its days. -/
theorem exists_day {t : Time} (hfrom : day ≤ t) (hto : t < daysLater day n) :
    ∃ i < n, daysLater day i ≤ t ∧ t < daysLater day i + seconds 86400 := by
  induction n with
  | zero =>
      have hzero : daysLater day 0 = day := by simp [daysLater]
      rw [hzero] at hto
      exact absurd hto (not_lt.mpr hfrom)
  | succ n ih =>
      rcases lt_or_ge t (daysLater day n) with hlt | hge
      · obtain ⟨i, hi, hday⟩ := ih hlt
        exact ⟨i, Nat.lt_succ_of_lt hi, hday⟩
      · exact ⟨n, Nat.lt_succ_self n, hge, daysLater_succ day n ▸ hto⟩

/-- The days of a period have its readings. -/
theorem mem_flatten_dailyReadings {e : ℤ} :
    e ∈ (dailyReadings samples deviceId day n).flatten ↔
      e ∈ periodReadings samples deviceId day n := by
  rw [mem_periodReadings, List.mem_flatten]
  constructor
  · rintro ⟨_, hblock, he⟩
    obtain ⟨i, hi, rfl⟩ := List.mem_map.mp hblock
    obtain ⟨x, hx, ⟨hfrom, hto⟩, hen⟩ := mem_readings.mp he
    have hstart : daysLater day 0 ≤ daysLater day i := daysLater_mono (Nat.zero_le i)
    have hend : daysLater day (i + 1) ≤ daysLater day n := daysLater_mono (List.mem_range.mp hi)
    rw [daysLater_succ] at hend
    have hzero : daysLater day 0 = day := by simp [daysLater]
    rw [hzero] at hstart
    exact ⟨x, hx, ⟨hstart.trans hfrom, lt_of_lt_of_le hto hend⟩, hen⟩
  · rintro ⟨x, hx, ⟨hfrom, hto⟩, hen⟩
    obtain ⟨i, hi, hday⟩ := exists_day hfrom hto
    refine ⟨_, List.mem_map.mpr ⟨i, List.mem_range.mpr hi, rfl⟩, ?_⟩
    exact mem_readings.mpr ⟨x, hx, hday, hen⟩

/-- The readings of a counter that does not fall ascend from day to day. -/
theorem ascending_dailyReadings (h : Counts samples deviceId) :
    Ascending (dailyReadings samples deviceId day n) := by
  rw [Ascending, dailyReadings, List.pairwise_map]
  refine (List.pairwise_lt_range).imp fun {i j} hij a ha b hb => ?_
  obtain ⟨x, hx, ⟨-, hto⟩, hxa⟩ := mem_readings.mp ha
  obtain ⟨y, hy, ⟨hfrom, -⟩, hyb⟩ := mem_readings.mp hb
  have hdays : daysLater day (i + 1) ≤ daysLater day j := daysLater_mono hij
  rw [daysLater_succ] at hdays
  exact h x hx y hy (lt_of_lt_of_le hto (hdays.trans hfrom)) a hxa b hyb

theorem sum_div (zs : List ℤ) :
    (zs.map fun z : ℤ => (z : ℚ) / 1000).sum = ((zs.sum : ℤ) : ℚ) / 1000 := by
  induction zs with
  | nil => simp
  | cons z zs ih =>
      rw [List.map_cons, List.sum_cons, ih, List.sum_cons]
      push_cast
      ring

/-- The row of a day is that of all its samples, once the job has run after they came in. -/
theorem Kept.storedKwh {log : List (Time × Time)} {s : Meters} (h : Kept log s)
    (hjob : ∃ e ∈ log, e.2 = day ∧ ∀ x ∈ daySamples s.samples day deviceId, x.receivedAt < e.1) :
    storedKwh s.rollups deviceId day =
      ((extent (readings s.samples deviceId day) : ℤ) : ℚ) / 1000 := by
  obtain ⟨e, he, rfl, hreceived⟩ := hjob
  have hmade : ∀ r ∈ s.rollups, r.key = (deviceId, e.2) →
      daySamples s.samples e.2 deviceId ≠ [] ∧
        r.kwh.getD 0 = ((extent (readings s.samples deviceId e.2) : ℤ) : ℚ) / 1000 := by
    intro r hr hkey
    obtain ⟨hid, hday⟩ := Prod.mk.inj hkey
    obtain ⟨before, after, hsamples, hsome, hrow, -, hafter⟩ := h.made r hr
    rw [hid, hday] at hsome hrow
    -- nothing of the day came in after the job
    have hnone : daySamples after e.2 deviceId = [] := by
      refine List.eq_nil_iff_forall_not_mem.mpr fun x hx => ?_
      have hlater := hafter x (mem_daySamples.mp hx).1
      have hlast := h.last r hr e he hday.symm
      have hearlier : x.receivedAt < e.1 := hreceived x (by
        rw [hsamples, daySamples_append]
        exact List.mem_append_right _ hx)
      linarith
    have hall : daySamples s.samples e.2 deviceId = daySamples before e.2 deviceId := by
      rw [hsamples, daySamples_append, hnone, List.append_nil]
    refine ⟨hall ▸ hsome, ?_⟩
    rw [hrow, kwh_rollupOf, readings, hall]
  rw [Power.storedKwh]
  cases hfind : s.rollups.find? (·.key = (deviceId, e.2)) with
  | some r =>
      obtain ⟨hr, hkey⟩ := find?_key hfind
      exact (hmade r hr hkey).2
  | none =>
      have hempty : daySamples s.samples e.2 deviceId = [] := by
        by_contra hsome
        obtain ⟨x, hx⟩ := List.exists_mem_of_ne_nil _ hsome
        obtain ⟨r, hr, hkey⟩ := h.complete e he deviceId x hx (hreceived x hx)
        exact find?_eq_none_iff.mp hfind (hkey ▸ List.mem_map_of_mem hr)
      rw [readings, hempty]
      simp [extent_nil]

end

/-- **The energy of the rollups.**  When the job has run for each of `n` successive days after all
samples of a device for the day had come in, and the counter of the device does not fall, the
rollups of these days report what the counter grew over them, except for what it grew from the last
reading of a day to the first reading of the next day that has one. -/
theorem rollups_energy {start : Time} {as : List (Time × MeterStep)}
    (has : Admits Meters.step Meters.ok (Meters.start start) as) {deviceId : String} {day : Time}
    {n : ℕ}
    (hjob : ∀ i < n, ∃ e ∈ emitted Meters.step Meters.out (Meters.start start) as,
      e.2 = daysLater day i ∧ ∀ x ∈ daySamples (run Meters.step (Meters.start start) as).samples
        (daysLater day i) deviceId, x.receivedAt < e.1)
    (hcounts : Counts (run Meters.step (Meters.start start) as).samples deviceId) :
    ((List.range n).map fun i => storedKwh (run Meters.step (Meters.start start) as).rollups deviceId
        (daysLater day i)).sum =
      ((extent (periodReadings (run Meters.step (Meters.start start) as).samples deviceId day n) -
        between none (dailyReadings (run Meters.step (Meters.start start) as).samples deviceId day
          n) : ℤ) : ℚ) / 1000 ∧
      0 ≤ between none (dailyReadings (run Meters.step (Meters.start start) as).samples deviceId day
        n) := by
  have hkept := (Metered.run has).kept
  have hascending : Ascending
      (dailyReadings (run Meters.step (Meters.start start) as).samples deviceId day n) :=
    ascending_dailyReadings hcounts
  refine ⟨?_, between_nonneg hascending⟩
  have hdays : (List.range n).map (fun i => storedKwh
        (run Meters.step (Meters.start start) as).rollups deviceId (daysLater day i)) =
      ((dailyReadings (run Meters.step (Meters.start start) as).samples deviceId day n).map
        extent).map fun z : ℤ => (z : ℚ) / 1000 := by
    rw [dailyReadings, List.map_map, List.map_map]
    exact List.map_congr_left fun i hi => hkept.storedKwh (hjob i (List.mem_range.mp hi))
  rw [hdays, sum_div, ← extent_congr fun e => mem_flatten_dailyReadings, extent_flatten hascending,
    add_sub_cancel_right]

/-- The job runs for each of two days, and the night between them is in no rollup. -/
theorem twoDays_energy :
    ((List.range 2).map fun i => storedKwh (run Meters.step (Meters.start 0) twoDays).rollups "plug"
        (daysLater 0 i)).sum = ((60 - 20 : ℤ) : ℚ) / 1000 := by
  have hjob : ∀ i < 2, ∃ e ∈ emitted Meters.step Meters.out (Meters.start 0) twoDays,
      e.2 = daysLater 0 i ∧ ∀ x ∈ daySamples (run Meters.step (Meters.start 0) twoDays).samples
        (daysLater 0 i) "plug", x.receivedAt < e.1 := by
    decide
  have hcounts : Counts (run Meters.step (Meters.start 0) twoDays).samples "plug" := by
    unfold Counts
    decide
  exact (rollups_energy admits_twoDays hjob hcounts).1

end RebooterHub.Power
