import Mathlib.Algebra.BigOperators.Group.List.Lemmas
import RebooterHub.Power.Series
import RebooterHub.Support.Rows

/-!
# Power — Sources

Real and synthetic samples: the kind that a sample is tagged with (`source_kind`), the counts by
source (`power_source_breakdown`), the synthetic count of a day's rollup
(`compute_daily_rollups`) and the counts of the chart's buckets.

A rollup's averages are kept as they are computed; the columns round them.

* `same_tallies_iff`: over the same samples the four counts are those of the measured and the other
  samples, unless a sample came with a heartbeat.
-/

namespace RebooterHub.Power
open Rows

/-- `ALLOWED_POWER_SOURCES`. -/
def allowedPowerSources : List String := ["steady", "burst", "synthetic", "heartbeat"]

/-- The sources whose samples are measured. -/
def measuredSources : List String := ["steady", "burst", "heartbeat"]

/-! ### The breakdown by source -/

/-- What `power_source_breakdown` returns. -/
structure Breakdown where
  windowSeconds : Int
  total : Nat
  real : Nat
  synthetic : Nat
  bySource : List (String × Nat)

/-- The length of the breakdown's window. -/
def breakdownWindow (windowSeconds : Int) : Int :=
  max 60 (min (if windowSeconds = 0 then 3600 else windowSeconds) 2592000)

/-- The samples of the breakdown's window. -/
def breakdownSamples (samples : List DevicePowerSample) (now : Time) (deviceId : String)
    (channelId windowSeconds : Int) : List DevicePowerSample :=
  (channelSamples samples deviceId channelId).filter
    (now - seconds (breakdownWindow windowSeconds) ≤ ·.sampledAt)

/-- `SELECT source, COUNT(id) GROUP BY source`. -/
def countBySource (rows : List DevicePowerSample) : List (String × Nat) :=
  (rows.map (·.source)).dedup.map fun src => (src, (rows.map (·.source)).count src)

/-- `power_source_breakdown`. -/
def powerSourceBreakdown (samples : List DevicePowerSample) (now : Time) (deviceId : String)
    (channelId windowSeconds : Int) : Breakdown :=
  let bySource := if deviceId = "" then []
    else countBySource (breakdownSamples samples now deviceId channelId windowSeconds)
  let total := (bySource.map Prod.snd).sum
  let real := ((bySource.filter (·.1 ∈ realPowerSources)).map Prod.snd).sum
  { windowSeconds := breakdownWindow windowSeconds
    total := total
    real := real
    synthetic := total - real
    bySource := bySource }

/-! ### The daily rollups -/

/-- A row of `device_power_rollups`. -/
structure DevicePowerRollup where
  deviceId : String
  dayBucket : Time
  computedAt : Time
  sampleCount : Nat
  syntheticSampleCount : Option Nat
  avgW : Option Rat
  minW : Option Rat
  maxW : Option Rat
  kwh : Option Rat

/-- The unique columns of a rollup. -/
def DevicePowerRollup.key (r : DevicePowerRollup) : String × Time := (r.deviceId, r.dayBucket)

/-- Midnight, UTC. -/
def midnight (t : Time) : Time := t / 86400000000 * 86400000000

/-- The samples of a device's day. -/
def daySamples (samples : List DevicePowerSample) (day : Time) (deviceId : String) :
    List DevicePowerSample :=
  (channelSamples samples deviceId 0).filter fun s =>
    day ≤ s.sampledAt ∧ s.sampledAt < day + seconds 86400

/-- The aggregates of a device's day. -/
def rollupOf (now day : Time) (deviceId : String) (rows : List DevicePowerSample) :
    DevicePowerRollup :=
  let watts := rows.filterMap (·.pW)
  let energy := rows.filterMap (·.energyWh)
  { deviceId := deviceId
    dayBucket := day
    computedAt := now
    sampleCount := rows.length
    syntheticSampleCount := some (rows.countP (·.source = "synthetic"))
    avgW := if watts = [] then none else some (watts.sum / watts.length)
    minW := watts.min?
    maxW := watts.max?
    kwh := match energy.max?, energy.min? with
      | some most, some least => some ((most - least : Int) / 1000)
      | _, _ => none }

/-- The rollups of a day, one for each device that has a sample. -/
def dayRollups (samples : List DevicePowerSample) (now day : Time) : List DevicePowerRollup :=
  let selected := samples.filter fun s =>
    s.channelId = 0 ∧ day ≤ s.sampledAt ∧ s.sampledAt < day + seconds 86400
  (selected.map (·.deviceId)).dedup.map fun deviceId =>
    rollupOf now day deviceId (daySamples samples day deviceId)

/-- `INSERT ... ON CONFLICT (device_id, day_bucket) DO UPDATE`. -/
def upsert (rollups : List DevicePowerRollup) (r : DevicePowerRollup) : List DevicePowerRollup :=
  if rollups.any (·.key = r.key) then
    amend (·.key) r.key (fun old => { r with deviceId := old.deviceId, dayBucket := old.dayBucket })
      rollups
  else rollups ++ [r]

/-- `compute_daily_rollups`, of `yesterday` without a day. -/
def computeDailyRollups (rollups : List DevicePowerRollup) (samples : List DevicePowerSample)
    (now : Time) (day : Option Time) : List DevicePowerRollup :=
  (dayRollups samples now (midnight (day.getD (now - seconds 86400)))).foldl upsert rollups

/-! ### The stored rollups -/

theorem mem_upsert_self (rollups : List DevicePowerRollup) (r : DevicePowerRollup) :
    r ∈ upsert rollups r := by
  rw [upsert]
  split
  · next h =>
      obtain ⟨old, hold, hkey⟩ := List.mem_map.mp (any_eq_iff.mp h)
      -- the columns of the key are those of the row that was there
      obtain ⟨hid, hday⟩ := Prod.mk.inj hkey
      refine List.mem_map.mpr ⟨old, hold, ?_⟩
      simp only [hkey, if_true, hid, hday]
  · exact List.mem_append_right _ (List.mem_singleton_self r)

theorem mem_upsert_of_ne {rollups : List DevicePowerRollup} {r r' : DevicePowerRollup}
    (h : r ∈ rollups) (hkey : r.key ≠ r'.key) : r ∈ upsert rollups r' := by
  rw [upsert]
  split
  · exact mem_amend_of_ne h hkey
  · exact List.mem_append_left _ h

/-- What is written for different devices is there afterwards. -/
theorem mem_foldl_upsert {rs : List DevicePowerRollup} (hkeys : Keyed (·.key) rs)
    {r : DevicePowerRollup} (h : r ∈ rs) (rollups : List DevicePowerRollup) :
    r ∈ rs.foldl upsert rollups := by
  have hstays : ∀ (rs : List DevicePowerRollup) rollups, r ∈ rollups →
      (∀ r' ∈ rs, r.key ≠ r'.key) → r ∈ rs.foldl upsert rollups := by
    intro rs
    induction rs with
    | nil => exact fun _ h _ => h
    | cons r' rs ih =>
        intro rollups h hne
        obtain ⟨hr', hrs⟩ := List.forall_mem_cons.mp hne
        exact ih _ (mem_upsert_of_ne h hr') hrs
  induction rs generalizing rollups with
  | nil => cases h
  | cons r' rs ih =>
      obtain ⟨hr', hrs⟩ := List.nodup_cons.mp hkeys
      rcases List.mem_cons.mp h with rfl | h
      · refine hstays rs _ (mem_upsert_self rollups r) fun r' hmem hkey => hr' ?_
        exact List.mem_map.mpr ⟨r', hmem, hkey.symm⟩
      · exact ih hrs h _

theorem keyed_dayRollups (samples : List DevicePowerSample) (now day : Time) :
    Keyed (·.key) (dayRollups samples now day) := by
  rw [Keyed, dayRollups, List.map_map]
  exact (List.nodup_dedup _).map fun a b h => (Prod.mk.inj h).1

/-- The rollups of a day are stored, whatever was stored before. -/
theorem mem_computeDailyRollups (rollups : List DevicePowerRollup)
    (samples : List DevicePowerSample) (now : Time) (day : Option Time) {r : DevicePowerRollup}
    (h : r ∈ dayRollups samples now (midnight (day.getD (now - seconds 86400)))) :
    r ∈ computeDailyRollups rollups samples now day :=
  mem_foldl_upsert (keyed_dayRollups _ _ _) h rollups

/-! ### The four counts -/

/-- Real and synthetic samples. -/
structure Tally where
  real : Nat
  synthetic : Nat
deriving DecidableEq

/-- The samples counted by their kind. -/
def kindTally (rows : List DevicePowerSample) : Tally :=
  ⟨rows.countP (sourceKind ·.source = "real"), rows.countP (sourceKind ·.source = "synthetic")⟩

/-- The counts of a breakdown. -/
def Breakdown.tally (b : Breakdown) : Tally := ⟨b.real, b.synthetic⟩

/-- The counts of a rollup that has its synthetic count. -/
def DevicePowerRollup.tally (r : DevicePowerRollup) : Option Tally :=
  r.syntheticSampleCount.map fun n => ⟨r.sampleCount - n, n⟩

/-- The counts of the chart's buckets. -/
def PowerSeries.tally (s : PowerSeries) : Tally :=
  ⟨(s.buckets.map (·.real)).sum, (s.buckets.map (·.synthetic)).sum⟩

/-- The samples counted by what they are: measured or not. -/
def measuredTally (rows : List DevicePowerSample) : Tally :=
  ⟨rows.countP (·.source ∈ measuredSources), rows.countP (·.source ∉ measuredSources)⟩

/-! ### What the counts count -/

section
variable (rows : List DevicePowerSample)

theorem kindTally_eq : kindTally rows =
    ⟨rows.countP (·.source ∈ realPowerSources), rows.countP (·.source ∉ realPowerSources)⟩ := by
  have hreal : ∀ s : DevicePowerSample,
      sourceKind s.source = "real" ↔ s.source ∈ realPowerSources := by
    intro s
    rw [sourceKind]
    split <;> simp [*]
  have hsynthetic : ∀ s : DevicePowerSample,
      sourceKind s.source = "synthetic" ↔ s.source ∉ realPowerSources := by
    intro s
    rw [sourceKind]
    split <;> simp [*]
  simp only [kindTally, hreal, hsynthetic]

/-- The groups add up to the rows. -/
theorem sum_countBySource : ((countBySource rows).map Prod.snd).sum = rows.length := by
  rw [countBySource, List.map_map]
  exact (List.sum_map_count_dedup_eq_length _).trans (List.length_map _)

theorem sum_filter_countBySource (p : String → Bool) :
    (((countBySource rows).filter fun m => p m.1).map Prod.snd).sum =
      rows.countP fun s => p s.source := by
  rw [countBySource, List.filter_map, List.map_map]
  exact (List.sum_map_count_dedup_filter_eq_countP p _).trans List.countP_map

/-- What is not counted. -/
theorem length_sub_countP (p : DevicePowerSample → Prop) [DecidablePred p] :
    rows.length - rows.countP (p ·) = rows.countP (¬ p ·) := by
  have h := rows.length_eq_countP_add_countP fun s => decide (p s)
  simp only [Bool.not_eq_true, decide_eq_false_iff_not] at h
  omega

theorem sum_ite (p : DevicePowerSample → Prop) [DecidablePred p] :
    (rows.map fun s => if p s then 1 else 0).sum = rows.countP (p ·) := by
  induction rows with
  | nil => rfl
  | cons s rows ih =>
      rw [List.map_cons, List.sum_cons, ih, List.countP_cons]
      simp [Nat.add_comm]

variable {samples : List DevicePowerSample} {now : Time} {deviceId : String}

theorem tally_powerSourceBreakdown (hdevice : deviceId ≠ "") (channelId windowSeconds : Int) :
    (powerSourceBreakdown samples now deviceId channelId windowSeconds).tally =
      kindTally (breakdownSamples samples now deviceId channelId windowSeconds) := by
  rw [kindTally_eq, ← length_sub_countP, Breakdown.tally, powerSourceBreakdown, if_neg hdevice]
  simp only [sum_countBySource, sum_filter_countBySource _ fun src => src ∈ realPowerSources]

theorem tally_intradayPowerSeries (hdevice : deviceId ≠ "")
    (channelId windowSeconds buckets : Int) :
    (intradayPowerSeries samples now deviceId channelId windowSeconds buckets).tally =
      kindTally (seriesSamples samples now deviceId channelId windowSeconds) := by
  have hreal (s : DevicePowerSample) (b : Slot) : (Slot.add s b).real =
      b.real + if s.source ∈ realPowerSources then 1 else 0 := by
    by_cases hs : s.source ∈ realPowerSources <;> simp [Slot.add, hs]
  have hsynth (s : DevicePowerSample) (b : Slot) : (Slot.add s b).synth =
      b.synth + if s.source ∉ realPowerSources then 1 else 0 := by
    by_cases hs : s.source ∈ realPowerSources <;> simp [Slot.add, hs]
  rw [kindTally_eq, PowerSeries.tally, map_buckets _ _ _ _ _ _ hdevice fun _ _ => rfl,
    map_buckets _ _ _ _ _ _ hdevice fun _ _ => rfl, sum_seriesSlots _ _ _ _ _ _ rfl hreal,
    sum_seriesSlots _ _ _ _ _ _ rfl hsynth, sum_ite, sum_ite]

/-- A rollup that was written aggregates the samples of its device's day. -/
theorem of_mem_dayRollups {day : Time} {r : DevicePowerRollup}
    (h : r ∈ dayRollups samples now day) :
    r = rollupOf now day r.deviceId (daySamples samples day r.deviceId) := by
  obtain ⟨deviceId, -, rfl⟩ := List.mem_map.mp h
  rfl

theorem tally_dayRollups {day : Time} {r : DevicePowerRollup}
    (h : r ∈ dayRollups samples now day) (hdevice : r.deviceId = deviceId) :
    r.tally =
      some ⟨(daySamples samples day deviceId).countP (·.source ≠ "synthetic"),
        (daySamples samples day deviceId).countP (·.source = "synthetic")⟩ := by
  rw [of_mem_dayRollups h, ← length_sub_countP, hdevice]
  rfl

end

/-! ### Where they agree -/

/-- What is measured is what the code calls real, and what came with a heartbeat. -/
theorem countP_measuredSources (rows : List DevicePowerSample) :
    rows.countP (·.source ∈ measuredSources) =
      rows.countP (·.source ∈ realPowerSources) + rows.countP (·.source = "heartbeat") := by
  induction rows with
  | nil => rfl
  | cons s rows ih =>
      have hmem : s.source ∈ measuredSources ↔
          s.source ∈ realPowerSources ∨ s.source = "heartbeat" := by
        simp [measuredSources, realPowerSources, or_assoc]
      have hdisjoint : s.source = "heartbeat" → s.source ∉ realPowerSources := by
        intro h
        rw [h]
        decide
      simp only [List.countP_cons, ih, hmem, decide_eq_true_eq]
      by_cases hreal : s.source ∈ realPowerSources
      · have hheartbeat : s.source ≠ "heartbeat" := fun h => hdisjoint h hreal
        simp only [hreal, hheartbeat, true_or, if_true, if_false]
        omega
      · simp only [hreal, false_or, if_false]
        omega

theorem exists_heartbeat_iff {rows : List DevicePowerSample} :
    rows.countP (·.source = "heartbeat") = 0 ↔ ∀ s ∈ rows, s.source ≠ "heartbeat" := by
  simp [List.countP_eq_zero]

/-- The kinds are those of the measurements unless a sample came with a heartbeat. -/
theorem kindTally_eq_measuredTally {rows : List DevicePowerSample} :
    kindTally rows = measuredTally rows ↔ ∀ s ∈ rows, s.source ≠ "heartbeat" := by
  rw [← exists_heartbeat_iff, kindTally_eq, measuredTally, Tally.mk.injEq,
    ← length_sub_countP, ← length_sub_countP, countP_measuredSources]
  omega

section
variable {rows : List DevicePowerSample} (haccepted : ∀ s ∈ rows, s.source ∈ allowedPowerSources)
include haccepted

/-- Of the accepted sources only `synthetic` is not measured. -/
theorem measuredTally_eq :
    measuredTally rows =
      ⟨rows.countP (·.source ≠ "synthetic"), rows.countP (·.source = "synthetic")⟩ := by
  have hmeasured : ∀ s ∈ rows, s.source ∈ measuredSources ↔ s.source ≠ "synthetic" := by
    intro s hs
    have hsource := haccepted s hs
    simp only [allowedPowerSources, measuredSources, List.mem_cons, List.not_mem_nil, or_false]
      at hsource ⊢
    rcases hsource with h | h | h | h <;> simp [h]
  rw [measuredTally, Tally.mk.injEq]
  constructor
  · exact List.countP_congr fun s hs => by simpa using hmeasured s hs
  · exact List.countP_congr fun s hs => by simpa using not_congr (hmeasured s hs)

end

/-- The real and synthetic counts of a device's samples `rows` are the same by their kinds, in the
breakdown, in the rollup of the day and in the chart. -/
structure SameTallies (samples : List DevicePowerSample) (now : Time) (deviceId : String)
    (window day window' buckets : Int) (rows : List DevicePowerSample) : Prop where
  breakdown : (powerSourceBreakdown samples now deviceId 0 window).tally = kindTally rows
  rollup : ∀ r ∈ dayRollups samples now day, r.deviceId = deviceId →
    r.tally = some (kindTally rows)
  series : (intradayPowerSeries samples now deviceId 0 window' buckets).tally = kindTally rows

/-- A device with a sample has a rollup. -/
theorem exists_dayRollup {samples : List DevicePowerSample} {now day : Time} {deviceId : String}
    {s : DevicePowerSample} (hs : s ∈ daySamples samples day deviceId) :
    ∃ r ∈ dayRollups samples now day, r.deviceId = deviceId := by
  obtain ⟨hchannel, hday⟩ := List.mem_filter.mp hs
  obtain ⟨hmem, hdevice⟩ := List.mem_filter.mp hchannel
  obtain ⟨rfl, hzero⟩ := of_decide_eq_true hdevice
  refine ⟨_, List.mem_map.mpr ⟨s.deviceId, List.mem_dedup.mpr (List.mem_map_of_mem ?_), rfl⟩, rfl⟩
  exact List.mem_filter.mpr ⟨hmem, decide_eq_true ⟨hzero, of_decide_eq_true hday⟩⟩

/-- **Real and synthetic counts.**  Where the breakdown, the rollup and the chart look at the same
samples of a device, from accepted sources, their counts are the same if and only if none of the
samples came with a heartbeat; and only then does the kind of a sample say whether it is measured.
-/
theorem same_tallies_iff {samples rows : List DevicePowerSample} {now : Time} {deviceId : String}
    {window day window' : Int} (buckets : Int) (hdevice : deviceId ≠ "")
    (haccepted : ∀ s ∈ samples, s.source ∈ allowedPowerSources)
    (hbreakdown : breakdownSamples samples now deviceId 0 window = rows)
    (hday : daySamples samples day deviceId = rows)
    (hseries : seriesSamples samples now deviceId 0 window' = rows) :
    (SameTallies samples now deviceId window day window' buckets rows ↔
        ∀ s ∈ rows, s.source ≠ "heartbeat") ∧
      (kindTally rows = measuredTally rows ↔ ∀ s ∈ rows, s.source ≠ "heartbeat") := by
  refine ⟨?_, kindTally_eq_measuredTally⟩
  have hrows : ∀ s ∈ rows, s.source ∈ allowedPowerSources := by
    intro s hs
    rw [← hday] at hs
    exact haccepted s (List.mem_of_mem_filter (List.mem_of_mem_filter hs))
  -- the rollup counts what is measured
  have hrollup : ∀ r ∈ dayRollups samples now day, r.deviceId = deviceId →
      r.tally = some (measuredTally rows) := by
    intro r hr hid
    rw [tally_dayRollups hr hid, hday, measuredTally_eq hrows]
  constructor
  · intro h s hs
    obtain ⟨r, hr, hid⟩ : ∃ r ∈ dayRollups samples now day, r.deviceId = deviceId :=
      exists_dayRollup (hday ▸ hs)
    have hkinds := (h.rollup r hr hid).symm.trans (hrollup r hr hid)
    exact kindTally_eq_measuredTally.mp (Option.some.inj hkinds) s hs
  · intro h
    have hkinds := kindTally_eq_measuredTally.mpr h
    refine ⟨?_, fun r hr hid => ?_, ?_⟩
    · rw [tally_powerSourceBreakdown hdevice, hbreakdown]
    · rw [hrollup r hr hid, hkinds]
    · rw [tally_intradayPowerSeries hdevice, hseries]

/-- A sample of a heartbeat and one of the burst before it. -/
def burstAndHeartbeat : List DevicePowerSample :=
  [sampleOf "dev_1" 0 "burst" (some 90), sampleOf "dev_1" 1 "heartbeat" (some 5)]

theorem same_tallies_burst :
    SameTallies [sampleOf "dev_1" 0 "burst" (some 90)] 1 "dev_1" 60 0 600 12
      [sampleOf "dev_1" 0 "burst" (some 90)] :=
  (same_tallies_iff 12 (by decide) (by decide) rfl rfl rfl).1.mpr (by decide)

/-- The heartbeat's sample is synthetic for three of the counts, and measured for the rollup. -/
theorem heartbeat_tallies_differ :
    (∀ s ∈ burstAndHeartbeat, s.source ∈ allowedPowerSources) ∧
      breakdownSamples burstAndHeartbeat 2 "dev_1" 0 60 = burstAndHeartbeat ∧
      daySamples burstAndHeartbeat 0 "dev_1" = burstAndHeartbeat ∧
      seriesSamples burstAndHeartbeat 2 "dev_1" 0 600 = burstAndHeartbeat ∧
      (powerSourceBreakdown burstAndHeartbeat 2 "dev_1" 0 60).tally = ⟨1, 1⟩ ∧
      (dayRollups burstAndHeartbeat 2 0).map (·.tally) = [some ⟨2, 0⟩] ∧
      (intradayPowerSeries burstAndHeartbeat 2 "dev_1" 0 600 12).tally = ⟨1, 1⟩ ∧
      ¬ SameTallies burstAndHeartbeat 2 "dev_1" 60 0 600 12 burstAndHeartbeat := by
  refine ⟨by decide, rfl, rfl, rfl, by decide, by decide, ?_, fun h => ?_⟩
  · exact (tally_intradayPowerSeries (by decide) 0 600 12).trans (by decide)
  · exact absurd (h.rollup _ (List.mem_cons_self ..) rfl) (by decide)

end RebooterHub.Power
