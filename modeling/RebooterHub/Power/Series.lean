import RebooterHub.Power.Samples
import RebooterHub.Support.Buckets

/-!
# Power — Series

`device_power.intraday_power_series`: the samples of a window, sorted into buckets of one width.

The arithmetic is that of rational numbers.  A bucket's counts and its sum are kept in one `Slot`.
The clock is far enough from the ends of the calendar for the window to start in it.

* `intraday_conserves`: each sample of the window is counted in one bucket, the one whose interval
  it lies in, and nothing else is.
-/

namespace RebooterHub.Power
open Watchdog (roundRat)
open Commands (roundHalfEven)
open Buckets

/-- What a bucket gathers. -/
structure Slot where
  sum : Rat
  count : Nat
  real : Nat
  synth : Nat

/-- An empty bucket. -/
def Slot.empty : Slot := ⟨0, 0, 0, 0⟩

/-- A bucket after a row. -/
def Slot.add (s : DevicePowerSample) (b : Slot) : Slot where
  sum := match s.pW with
    | none => b.sum
    | some w => b.sum + w
  count := if s.pW.isSome then b.count + 1 else b.count
  real := if s.source ∈ realPowerSources then b.real + 1 else b.real
  synth := if s.source ∈ realPowerSources then b.synth else b.synth + 1

/-- `int(x)` of a float: it is cut towards zero. -/
def truncated (q : Rat) : Int := if 0 ≤ q then q.floor else q.ceil

/-- The bucket of a row, of `n` that are `bucketSeconds` wide. -/
def slotIndex (cutoff : Time) (bucketSeconds : Rat) (n : Nat) (s : DevicePowerSample) :
    Option Nat :=
  let idx := truncated (((s.sampledAt - cutoff : Int) : Rat) / 1000000 / bucketSeconds)
  if idx < 0 ∨ n ≤ idx then none else some idx.toNat

/-- A bucket of the chart. -/
structure Bucket where
  t : String
  avgW : Option Rat
  sampleCount : Nat
  real : Nat
  synthetic : Nat

/-- What the chart is drawn from; without a device only the first two are there. -/
structure PowerSeries where
  windowSeconds : Int
  buckets : List Bucket
  bucketSeconds : Option Int
  maxW : Option Rat
  pointCount : Option Nat

/-- The length of the window. -/
def seriesWindow (windowSeconds : Int) : Int :=
  max 600 (min (if windowSeconds = 0 then 86400 else windowSeconds) 2592000)

/-- The number of buckets. -/
def seriesBuckets (buckets : Int) : Nat :=
  (max 12 (min (if buckets = 0 then 144 else buckets) 1440)).toNat

/-- The width of a bucket. -/
def bucketSeconds (windowSeconds buckets : Int) : Rat :=
  seriesWindow windowSeconds / seriesBuckets buckets

/-- Where the window starts. -/
def seriesCutoff (now : Time) (windowSeconds : Int) : Time :=
  now - seconds (seriesWindow windowSeconds)

/-- The buckets after the rows that the query selects. -/
def seriesSlots (samples : List DevicePowerSample) (now : Time) (deviceId : String)
    (channelId windowSeconds buckets : Int) : List Slot :=
  let cutoff := seriesCutoff now windowSeconds
  fill (slotIndex cutoff (bucketSeconds windowSeconds buckets) (seriesBuckets buckets)) Slot.add
    (List.replicate (seriesBuckets buckets) Slot.empty)
    ((channelSamples samples deviceId channelId).filter (cutoff ≤ ·.sampledAt))

/-- The average of a bucket. -/
def Slot.avgW (b : Slot) : Option Rat :=
  if b.count = 0 then none else some (roundRat (b.sum / b.count) 2)

/-- The `i`-th bucket of the chart. -/
def chartBucket (now : Time) (windowSeconds buckets : Int) (i : Nat) (b : Slot) : Bucket where
  t := strftime (seriesCutoff now windowSeconds +
    roundHalfEven (i * bucketSeconds windowSeconds buckets * 1000000))
  avgW := b.avgW
  sampleCount := b.count
  real := b.real
  synthetic := b.synth

/-- `intraday_power_series`. -/
def intradayPowerSeries (samples : List DevicePowerSample) (now : Time) (deviceId : String)
    (channelId windowSeconds buckets : Int) : PowerSeries :=
  if deviceId = "" then ⟨0, [], none, none, none⟩
  else
    let slots := seriesSlots samples now deviceId channelId windowSeconds buckets
    let averages := slots.filterMap Slot.avgW
    { windowSeconds := seriesWindow windowSeconds
      buckets := slots.mapIdx (chartBucket now windowSeconds buckets)
      bucketSeconds := some (truncated (bucketSeconds windowSeconds buckets))
      maxW := some (averages.foldl max 0)
      pointCount := some averages.length }

/-! ### What a bucket holds -/

/-- What some rows add up to. -/
def Slot.of (rows : List DevicePowerSample) : Slot where
  sum := (rows.filterMap (·.pW)).sum
  count := (rows.filterMap (·.pW)).length
  real := rows.countP fun s => s.source ∈ realPowerSources
  synth := rows.countP fun s => s.source ∉ realPowerSources

theorem Slot.foldl_add (rows : List DevicePowerSample) (b : Slot) :
    rows.foldl (fun b s => Slot.add s b) b =
      ⟨b.sum + (Slot.of rows).sum, b.count + (Slot.of rows).count, b.real + (Slot.of rows).real,
        b.synth + (Slot.of rows).synth⟩ := by
  induction rows generalizing b with
  | nil => simp [Slot.of]
  | cons s rows ih =>
      rw [List.foldl_cons, ih]
      -- the reading and the source of the row are read apart
      cases hp : s.pW <;> by_cases hs : s.source ∈ realPowerSources <;>
        simp [Slot.add, Slot.of, hp, hs, add_assoc, add_comm, add_left_comm]

theorem Slot.foldl_empty (rows : List DevicePowerSample) :
    rows.foldl (fun b s => Slot.add s b) Slot.empty = Slot.of rows := by
  rw [Slot.foldl_add]
  simp [Slot.empty]

/-- Each row is real or synthetic. -/
theorem Slot.real_add_synth (rows : List DevicePowerSample) :
    (Slot.of rows).real + (Slot.of rows).synth = rows.length := by
  have h := rows.length_eq_countP_add_countP fun s => decide (s.source ∈ realPowerSources)
  simpa [Slot.of] using h.symm

/-! ### The bucket of a sample -/

/-- The point lies in the `i`-th of the intervals of this width, in seconds. -/
def InSlice (cutoff : Time) (width : Rat) (i : Nat) (t : Time) : Prop :=
  (i : Rat) * width ≤ ((t - cutoff : Int) : Rat) / 1000000 ∧
    ((t - cutoff : Int) : Rat) / 1000000 < (i + 1) * width

instance (cutoff : Time) (width : Rat) (i : Nat) (t : Time) : Decidable (InSlice cutoff width i t) :=
  inferInstanceAs (Decidable (_ ∧ _))

theorem truncated_of_nonneg {q : Rat} (h : 0 ≤ q) : truncated q = ⌊q⌋ := by
  rw [truncated, if_pos h]
  rfl

theorem slotIndex_eq_some_iff {cutoff : Time} {width : Rat} {n i : Nat} {s : DevicePowerSample}
    (hwidth : 0 < width) (hcutoff : cutoff ≤ s.sampledAt) :
    slotIndex cutoff width n s = some i ↔ i < n ∧ InSlice cutoff width i s.sampledAt := by
  have hseconds : (0 : Rat) ≤ ((s.sampledAt - cutoff : Int) : Rat) / 1000000 := by
    have : (0 : Rat) ≤ ((s.sampledAt - cutoff : Int) : Rat) := by
      exact_mod_cast Int.sub_nonneg.mpr hcutoff
    positivity
  have hfloor := Int.floor_nonneg.mpr (div_nonneg hseconds hwidth.le)
  have hslice := floor_div_eq_iff (x := ((s.sampledAt - cutoff : Int) : Rat) / 1000000) hwidth
    (i := (i : Int))
  rw [Int.cast_natCast] at hslice
  rw [slotIndex, truncated_of_nonneg (div_nonneg hseconds hwidth.le), InSlice, ← hslice]
  generalize ⌊((s.sampledAt - cutoff : Int) : Rat) / 1000000 / width⌋ = k at hfloor ⊢
  split <;> simp only [Option.some.injEq, reduceCtorEq, false_iff] <;> omega

section
variable (samples : List DevicePowerSample) (now : Time) (deviceId : String)
  (channelId windowSeconds buckets : Int)

/-- The samples of the window. -/
def seriesSamples : List DevicePowerSample :=
  (channelSamples samples deviceId channelId).filter fun s =>
    seriesCutoff now windowSeconds ≤ s.sampledAt ∧
      s.sampledAt < seriesCutoff now windowSeconds + seconds (seriesWindow windowSeconds)

theorem seriesWindow_pos : 0 < seriesWindow windowSeconds := by
  rw [seriesWindow]
  omega

theorem seriesBuckets_pos : 0 < seriesBuckets buckets := by
  rw [seriesBuckets]
  omega

theorem bucketSeconds_pos : 0 < bucketSeconds windowSeconds buckets := by
  have hwindow := seriesWindow_pos windowSeconds
  have hbuckets := seriesBuckets_pos buckets
  rw [bucketSeconds]
  positivity

/-- The last bucket ends where the window does. -/
theorem width_mul_buckets :
    bucketSeconds windowSeconds buckets * seriesBuckets buckets = seriesWindow windowSeconds := by
  have hbuckets : (seriesBuckets buckets : Rat) ≠ 0 :=
    Nat.cast_ne_zero.mpr (seriesBuckets_pos buckets).ne'
  rw [bucketSeconds, div_mul_cancel₀ _ hbuckets]

/-- A point from the start of the window on is before its end if it lies in a bucket. -/
theorem exists_inSlice_iff {t : Time} (hcutoff : seriesCutoff now windowSeconds ≤ t) :
    (∃ i, i < seriesBuckets buckets ∧
        InSlice (seriesCutoff now windowSeconds) (bucketSeconds windowSeconds buckets) i t) ↔
      t < seriesCutoff now windowSeconds + seconds (seriesWindow windowSeconds) := by
  have hwidth := bucketSeconds_pos windowSeconds buckets
  have hend : ((t - seriesCutoff now windowSeconds : Int) : Rat) / 1000000 <
        bucketSeconds windowSeconds buckets * seriesBuckets buckets ↔
      t < seriesCutoff now windowSeconds + seconds (seriesWindow windowSeconds) := by
    rw [width_mul_buckets, div_lt_iff₀ (by norm_num), seconds]
    norm_cast
    exact sub_lt_iff_lt_add'
  rw [← hend]
  constructor
  · rintro ⟨i, hi, -, hlt⟩
    have hle : ((i : Rat) + 1) ≤ seriesBuckets buckets := by exact_mod_cast hi
    calc _ < ((i : Rat) + 1) * bucketSeconds windowSeconds buckets := hlt
      _ ≤ seriesBuckets buckets * bucketSeconds windowSeconds buckets := by gcongr
      _ = _ := mul_comm _ _
  · intro hlt
    obtain ⟨k, hk⟩ : ∃ k : Nat, ⌊((t - seriesCutoff now windowSeconds : Int) : Rat) / 1000000 /
        bucketSeconds windowSeconds buckets⌋ = k := by
      refine ⟨_, (Int.toNat_of_nonneg (Int.floor_nonneg.mpr (div_nonneg ?_ hwidth.le))).symm⟩
      have : (0 : Rat) ≤ ((t - seriesCutoff now windowSeconds : Int) : Rat) := by
        exact_mod_cast Int.sub_nonneg.mpr hcutoff
      positivity
    have hslice := (floor_div_eq_iff hwidth).mp hk
    rw [Int.cast_natCast] at hslice
    refine ⟨k, ?_, hslice⟩
    have hcast := hslice.1.trans_lt (hlt.trans_eq (mul_comm _ _))
    exact_mod_cast lt_of_mul_lt_mul_right hcast hwidth.le

/-- The rows of a bucket are the samples of the window that lie in it. -/
theorem filter_slotIndex {i : Nat} (hi : i < seriesBuckets buckets) :
    (((channelSamples samples deviceId channelId).filter
        (seriesCutoff now windowSeconds ≤ ·.sampledAt)).filter fun s =>
      slotIndex (seriesCutoff now windowSeconds) (bucketSeconds windowSeconds buckets)
        (seriesBuckets buckets) s = some i) =
      (seriesSamples samples now deviceId channelId windowSeconds).filter fun s =>
        InSlice (seriesCutoff now windowSeconds) (bucketSeconds windowSeconds buckets) i
          s.sampledAt := by
  rw [seriesSamples, List.filter_filter, List.filter_filter]
  refine List.filter_congr fun s _ => ?_
  rw [← Bool.decide_and, ← Bool.decide_and, decide_eq_decide]
  constructor
  · rintro ⟨hidx, hcutoff⟩
    have hslice := (slotIndex_eq_some_iff (bucketSeconds_pos _ _) hcutoff).mp hidx
    exact ⟨hslice.2, hcutoff, (exists_inSlice_iff now windowSeconds buckets hcutoff).mp
      ⟨i, hslice⟩⟩
  · rintro ⟨hslice, hcutoff, -⟩
    exact ⟨(slotIndex_eq_some_iff (bucketSeconds_pos _ _) hcutoff).mpr ⟨hi, hslice⟩, hcutoff⟩

theorem length_seriesSlots :
    (seriesSlots samples now deviceId channelId windowSeconds buckets).length =
      seriesBuckets buckets :=
  length_fill.trans List.length_replicate

theorem getElem?_seriesSlots {i : Nat} (hi : i < seriesBuckets buckets) :
    (seriesSlots samples now deviceId channelId windowSeconds buckets)[i]? =
      some (Slot.of ((seriesSamples samples now deviceId channelId windowSeconds).filter fun s =>
        InSlice (seriesCutoff now windowSeconds) (bucketSeconds windowSeconds buckets) i
          s.sampledAt)) := by
  rw [seriesSlots, getElem?_fill, filter_slotIndex _ _ _ _ _ _ hi, List.getElem?_replicate,
    if_pos hi, Option.map_some, Slot.foldl_empty]

/-- What the buckets count is what the samples of the window do. -/
theorem sum_seriesSlots {m : Slot → Nat} {w : DevicePowerSample → Nat} (hempty : m Slot.empty = 0)
    (hadd : ∀ s b, m (Slot.add s b) = m b + w s) :
    ((seriesSlots samples now deviceId channelId windowSeconds buckets).map m).sum =
      ((seriesSamples samples now deviceId channelId windowSeconds).map w).sum := by
  rw [seriesSlots, sum_fill hadd, List.map_replicate, hempty, List.sum_replicate_nat,
    Nat.mul_zero, Nat.zero_add, seriesSamples, List.filter_filter, List.length_replicate]
  congr 2
  refine List.filter_congr fun s _ => ?_
  rw [Bool.eq_iff_iff, Bool.and_eq_true, decide_eq_true_eq, decide_eq_true_eq, Option.any_eq_true,
    and_comm]
  refine and_congr_right fun hcutoff => ?_
  rw [← exists_inSlice_iff now windowSeconds buckets hcutoff]
  refine exists_congr fun i => ?_
  rw [slotIndex_eq_some_iff (bucketSeconds_pos _ _) hcutoff, decide_eq_true_eq]
  exact ⟨fun h => h.1, fun h => ⟨h, h.1⟩⟩

/-- A sample of the window lies in one bucket. -/
theorem existsUnique_inSlice {s : DevicePowerSample}
    (hs : s ∈ seriesSamples samples now deviceId channelId windowSeconds) :
    ∃! i, i < seriesBuckets buckets ∧
      InSlice (seriesCutoff now windowSeconds) (bucketSeconds windowSeconds buckets) i
        s.sampledAt := by
  have hwindow := of_decide_eq_true (List.mem_filter.mp hs).2
  obtain ⟨i, hi⟩ := (exists_inSlice_iff now windowSeconds buckets hwindow.1).mpr hwindow.2
  refine ⟨i, hi, fun j hj => ?_⟩
  -- both are the index the code computes
  have hidx := (slotIndex_eq_some_iff (bucketSeconds_pos _ _) hwindow.1).mpr hi
  have hidx' := (slotIndex_eq_some_iff (bucketSeconds_pos _ _) hwindow.1).mpr hj
  exact Option.some.inj (hidx'.symm.trans hidx)

theorem buckets_intradayPowerSeries (hdevice : deviceId ≠ "") :
    (intradayPowerSeries samples now deviceId channelId windowSeconds buckets).buckets =
      (seriesSlots samples now deviceId channelId windowSeconds buckets).mapIdx
        (chartBucket now windowSeconds buckets) := by
  rw [intradayPowerSeries, if_neg hdevice]

/-- What the chart counts over its buckets is what the slots do. -/
theorem map_buckets {m : Bucket → Nat} {v : Slot → Nat} (hdevice : deviceId ≠ "")
    (hm : ∀ i b, m (chartBucket now windowSeconds buckets i b) = v b) :
    (intradayPowerSeries samples now deviceId channelId windowSeconds buckets).buckets.map m =
      (seriesSlots samples now deviceId channelId windowSeconds buckets).map v := by
  rw [buckets_intradayPowerSeries _ _ _ _ _ _ hdevice]
  refine List.ext_getElem? fun i => ?_
  rw [List.getElem?_map, List.getElem?_mapIdx, List.getElem?_map, Option.map_map]
  exact congrArg (fun f => Option.map f _) (funext fun b => hm i b)

/-- **The buckets conserve the samples.**  Each sample of the window lies in one bucket's half-open
interval; each bucket is made of the exact sum and the counts of the samples in its interval; and
the real and synthetic counts of all buckets add up to the number of samples. -/
theorem intraday_conserves (hdevice : deviceId ≠ "") :
    let rows := seriesSamples samples now deviceId channelId windowSeconds
    let within (i : Nat) (s : DevicePowerSample) :=
      InSlice (seriesCutoff now windowSeconds) (bucketSeconds windowSeconds buckets) i s.sampledAt
    let slots := seriesSlots samples now deviceId channelId windowSeconds buckets
    let chart := intradayPowerSeries samples now deviceId channelId windowSeconds buckets
    (∀ s ∈ rows, ∃! i, i < seriesBuckets buckets ∧ within i s) ∧
      chart.buckets.length = seriesBuckets buckets ∧
      (∀ i < seriesBuckets buckets,
        slots[i]? = some (Slot.of (rows.filter (within i ·))) ∧
          chart.buckets[i]? =
            some (chartBucket now windowSeconds buckets i (Slot.of (rows.filter (within i ·))))) ∧
      (chart.buckets.map fun b => b.real + b.synthetic).sum = rows.length := by
  intro rows within slots chart
  have hbuckets : chart.buckets = _ := buckets_intradayPowerSeries _ _ _ _ _ _ hdevice
  refine ⟨fun s hs => existsUnique_inSlice _ _ _ _ _ _ hs, ?_, fun i hi => ?_, ?_⟩
  · rw [hbuckets, List.length_mapIdx, length_seriesSlots]
  · have hslot := getElem?_seriesSlots samples now deviceId channelId windowSeconds buckets hi
    refine ⟨hslot, ?_⟩
    rw [hbuckets, List.getElem?_mapIdx, hslot, Option.map_some]
  · rw [map_buckets (v := fun b => b.real + b.synth) _ _ _ _ _ _ hdevice fun _ _ => rfl,
      sum_seriesSlots (w := fun _ => 1) _ _ _ _ _ _ rfl fun s b => ?_, List.map_const',
      List.sum_replicate_nat, Nat.mul_one]
    by_cases hs : s.source ∈ realPowerSources <;> simp [Slot.add, hs] <;> omega

/-- One sample where the window starts, and one of a reading that is missing where it ends. -/
theorem intraday_conserves_one :
    ((intradayPowerSeries [sampleOf "dev_1" 0 "steady" (some 5), sampleOf "dev_1" (seconds 600)
      "steady" none] (seconds 600) "dev_1" 0 600 12).buckets.map fun b => b.real + b.synthetic).sum
        = 1 :=
  (intraday_conserves _ _ _ _ _ _ (by decide)).2.2.2.trans (by decide)

end

end RebooterHub.Power
