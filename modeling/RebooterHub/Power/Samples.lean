import Mathlib.Data.Nat.Size
import RebooterHub.Support.Dict
import RebooterHub.Support.Latest
import RebooterHub.Watchdog.Probes

/-!
# Power — Samples

`device_power`: the rows of `device_power_samples`, how one is serialized, and the latest sample of
a device, looked up alone (`latest_sample`) and for many devices at once
(`latest_samples_by_device`); with the batched look-up of the latest heartbeats
(`_latest_heartbeat_by_device`), which is built the same way.

The two batched queries have no `ORDER BY`: `order` is the order in which the database returns the
rows of a join.

* `batched_lookups`: with distinct timestamps for each device, the batched look-ups return for each
  device what the look-up for it alone returns.
-/

namespace RebooterHub.Power
open Watchdog (PowerSample Heartbeat newestFirst ageSeconds)
open Latest Dict

/-- A row of `device_power_samples`. -/
structure DevicePowerSample extends PowerSample where
  id : Int
  receivedAt : Time
  sampledUptimeSeconds : Option Int
  source : String
  sourceFlags : Int
  vV : Option Rat
  iMa : Option Int
  iMaEstimated : Option Bool
  iMaEstimate : Option Int
  sVa : Option Rat
  pf : Option Rat
  hz : Option Rat
  energyWh : Option Int
  rssiDbm : Option Int
  chipType : Option String

/-- `MAX_FRESH_SAMPLE_AGE_SECONDS`. -/
def maxFreshSampleAgeSeconds : Int := 300

/-- `REAL_POWER_SOURCES`. -/
def realPowerSources : List String := ["steady", "burst"]

/-- `POWER_SOURCE_FLAG_NAMES`. -/
def powerSourceFlagNames : List String :=
  ["SYNTHETIC", "REAL", "VOLTAGE_VALID", "CURRENT_VALID", "POWER_VALID", "FREQUENCY_VALID",
    "ENERGY_VALID", "CURRENT_ESTIMATED"]

/-- `decode_source_flags`. -/
def decodeSourceFlags (flags : Int) : Json :=
  let raw := flags.toNat
  let bits := (List.range raw.size).filter raw.testBit
  let names := bits.filterMap (powerSourceFlagNames[·]?)
  .obj [("raw", .int raw), ("bits_set", .arr (bits.map fun i => .int i)),
    ("names", .arr (names.map .str))]

/-- `source_kind`. -/
def sourceKind (source : String) : String :=
  if source ∈ realPowerSources then "real" else "synthetic"

/-- A column that may be `NULL`. -/
def nullable {α : Type} (toJson : α → Json) : Option α → Json
  | none => .null
  | some x => toJson x

/-- `_serialize_sample`. -/
def serializeSample (now : Time) (s : DevicePowerSample) : Json :=
  .obj [("id", .int s.id), ("modality", .str "power"), ("channel_id", .int s.channelId),
    ("sampled_at", .str (strftime s.sampledAt)), ("received_at", .str (strftime s.receivedAt)),
    ("age_seconds", .int (ageSeconds now s.toPowerSample)),
    ("is_stale", .bool (maxFreshSampleAgeSeconds < ageSeconds now s.toPowerSample)),
    ("source", .str s.source), ("source_kind", .str (sourceKind s.source)),
    ("source_flags", .int s.sourceFlags),
    ("source_flags_decoded", decodeSourceFlags s.sourceFlags),
    ("v_v", nullable .float s.vV), ("i_ma", nullable .int s.iMa),
    ("i_ma_estimated", nullable .bool s.iMaEstimated),
    ("i_ma_estimate", nullable .int s.iMaEstimate), ("p_w", nullable .float s.pW),
    ("s_va", nullable .float s.sVa), ("pf", nullable .float s.pf), ("hz", nullable .float s.hz),
    ("energy_wh", nullable .int s.energyWh), ("rssi_dbm", nullable .int s.rssiDbm),
    ("chip_type", nullable .str s.chipType),
    ("sampled_uptime_seconds", nullable .int s.sampledUptimeSeconds)]

/-- The samples of a channel of a device. -/
def channelSamples (samples : List DevicePowerSample) (deviceId : String) (channelId : Int) :
    List DevicePowerSample :=
  samples.filter fun s => s.deviceId = deviceId ∧ s.channelId = channelId

/-- `latest_sample`. -/
def latestSample (samples : List DevicePowerSample) (now : Time) (deviceId : String)
    (channelId : Int) : Option Json :=
  if deviceId = "" then none
  else ((newestFirst (·.sampledAt) (channelSamples samples deviceId channelId)).head?).map
    (serializeSample now)

/-- The samples that the batched query joins. -/
def joinedSamples (samples : List DevicePowerSample) (ids : List String) (channelId : Int) :
    List DevicePowerSample :=
  let groups := groupMax (·.deviceId) (·.sampledAt)
    (samples.filter fun s => s.deviceId ∈ ids ∧ s.channelId = channelId)
  samples.filter fun s => (s.deviceId, s.sampledAt) ∈ groups ∧ s.channelId = channelId

/-- `latest_samples_by_device`. -/
def latestSamplesByDevice (order : List DevicePowerSample → List DevicePowerSample)
    (samples : List DevicePowerSample) (now : Time) (deviceIds : List String) (channelId : Int) :
    List (String × Json) :=
  let ids := deviceIds.filter (· ≠ "")
  mapValues (fun _ => serializeSample now)
    (firstWins (·.deviceId) (order (joinedSamples samples ids channelId)))

/-- The heartbeats that the batched query joins. -/
def joinedHeartbeats (heartbeats : List Heartbeat) (ids : List String) : List Heartbeat :=
  let newest := groupMax (·.deviceId) (·.receivedAt) (heartbeats.filter (·.deviceId ∈ ids))
  heartbeats.filter fun h => (h.deviceId, h.receivedAt) ∈ newest

/-- `_latest_heartbeat_by_device`. -/
def latestHeartbeatByDevice (order : List Heartbeat → List Heartbeat)
    (heartbeats : List Heartbeat) (deviceIds : List String) : List (String × Heartbeat) :=
  let ids := deviceIds.filter (· ≠ "")
  firstWins (·.deviceId) (order (joinedHeartbeats heartbeats ids))

/-! ### Batched and single look-ups -/

section
variable {samples : List DevicePowerSample} {heartbeats : List Heartbeat}
  {deviceIds : List String} {deviceId : String}

theorem perm_joinedSamples {order : List DevicePowerSample → List DevicePowerSample}
    (horder : ∀ rows, (order rows).Perm rows) (ids : List String) (channelId : Int) :
    (order (joinedSamples samples ids channelId)).Perm
      (let rows := samples.filter fun s => s.deviceId ∈ ids ∧ s.channelId = channelId
      joined (·.deviceId) (·.sampledAt) (groupMax (·.deviceId) (·.sampledAt) rows) rows) :=
  (horder _).trans (.of_eq (filter_mem_groupMax _ _ _ _ _))

theorem perm_joinedHeartbeats {order : List Heartbeat → List Heartbeat}
    (horder : ∀ rows, (order rows).Perm rows) (ids : List String) :
    (order (joinedHeartbeats heartbeats ids)).Perm
      (let rows := heartbeats.filter fun h => h.deviceId ∈ ids ∧ True
      joined (·.deviceId) (·.receivedAt) (groupMax (·.deviceId) (·.receivedAt) rows) rows) := by
  have h := filter_mem_groupMax (·.deviceId) (·.receivedAt) heartbeats ids fun _ => True
  refine (horder _).trans (.of_eq ?_)
  simpa only [joinedHeartbeats, and_true] using h

/-- The rows of a device among those of the devices asked for. -/
theorem filter_ids {α : Type} (key : α → String) (rows : List α) (p : α → Prop)
    [DecidablePred p] :
    (rows.filter fun a => key a ∈ deviceIds.filter (· ≠ "") ∧ p a).filter (key · = deviceId) =
      if deviceId ∈ deviceIds ∧ deviceId ≠ "" then rows.filter fun a => key a = deviceId ∧ p a
      else [] := by
  rw [List.filter_filter]
  split
  · next h =>
      refine List.filter_congr fun a _ => ?_
      rw [← Bool.decide_and, decide_eq_decide, List.mem_filter]
      exact ⟨fun ha => ⟨ha.1, ha.2.2⟩,
        fun ha => ⟨ha.1, ⟨ha.1 ▸ h.1, decide_eq_true (ha.1 ▸ h.2)⟩, ha.2⟩⟩
  · next h =>
      refine List.filter_eq_nil_iff.mpr fun a _ ha => h ?_
      rw [← Bool.decide_and, decide_eq_true_eq, List.mem_filter] at ha
      exact ⟨ha.1 ▸ ha.2.1.1, ha.1 ▸ of_decide_eq_true ha.2.1.2⟩

theorem lookup_latestSamplesByDevice {order : List DevicePowerSample → List DevicePowerSample}
    (horder : ∀ rows, (order rows).Perm rows)
    (hsamples : (samples.map fun s => (s.deviceId, s.sampledAt)).Nodup) (now : Time)
    (channelId : Int) :
    (latestSamplesByDevice order samples now deviceIds channelId).lookup deviceId =
      if deviceId ∈ deviceIds then latestSample samples now deviceId channelId else none := by
  have hfirst := lookup_firstWins_joined (hsamples.sublist (List.filter_sublist.map _))
    (perm_joinedSamples horder (deviceIds.filter (· ≠ "")) channelId) deviceId
  rw [filter_ids (fun s : DevicePowerSample => s.deviceId) samples (·.channelId = channelId)]
    at hfirst
  rw [latestSamplesByDevice, lookup_mapValues, hfirst, latestSample]
  by_cases hid : deviceId = ""
  · rw [if_neg (fun h => h.2 hid), if_pos hid, ite_self]
    rfl
  · rw [if_neg hid]
    by_cases hmem : deviceId ∈ deviceIds
    · rw [if_pos ⟨hmem, hid⟩, if_pos hmem]
      rfl
    · rw [if_neg (fun h => hmem h.1), if_neg hmem]
      rfl

theorem lookup_latestHeartbeatByDevice {order : List Heartbeat → List Heartbeat}
    (horder : ∀ rows, (order rows).Perm rows)
    (hheartbeats : (heartbeats.map fun h => (h.deviceId, h.receivedAt)).Nodup) :
    (latestHeartbeatByDevice order heartbeats deviceIds).lookup deviceId =
      if deviceId ∈ deviceIds ∧ deviceId ≠ "" then
        latest (·.receivedAt) (heartbeats.filter (·.deviceId = deviceId))
      else none := by
  have hfirst := lookup_firstWins_joined (hheartbeats.sublist (List.filter_sublist.map _))
    (perm_joinedHeartbeats horder (deviceIds.filter (· ≠ ""))) deviceId
  rw [filter_ids (fun h : Heartbeat => h.deviceId) heartbeats fun _ => True] at hfirst
  rw [latestHeartbeatByDevice, hfirst]
  split
  · simp only [and_true]
  · rfl

/-- **Batched look-ups.**  If the samples and the heartbeats of each device have timestamps of
their own, then in whatever order the database returns the joined rows, the batched look-up gives
for each device what `latest_sample` gives for it, and its newest heartbeat. -/
theorem batched_lookups {order : List DevicePowerSample → List DevicePowerSample}
    {order' : List Heartbeat → List Heartbeat} (horder : ∀ rows, (order rows).Perm rows)
    (horder' : ∀ rows, (order' rows).Perm rows)
    (hsamples : (samples.map fun s => (s.deviceId, s.sampledAt)).Nodup)
    (hheartbeats : (heartbeats.map fun h => (h.deviceId, h.receivedAt)).Nodup)
    (deviceIds : List String) (now : Time) (channelId : Int) :
    (∀ deviceId, (latestSamplesByDevice order samples now deviceIds channelId).lookup deviceId =
        if deviceId ∈ deviceIds then latestSample samples now deviceId channelId else none) ∧
      ∀ deviceId h, (latestHeartbeatByDevice order' heartbeats deviceIds).lookup deviceId = some h ↔
        (deviceId ∈ deviceIds ∧ deviceId ≠ "") ∧
          Newest (·.receivedAt) (heartbeats.filter (·.deviceId = deviceId)) h := by
  refine ⟨fun _ => lookup_latestSamplesByDevice horder hsamples now channelId, fun deviceId h => ?_⟩
  have hstamps : ((heartbeats.filter (·.deviceId = deviceId)).map (·.receivedAt)).Nodup :=
    nodup_stamps hheartbeats deviceId
  rw [lookup_latestHeartbeatByDevice horder' hheartbeats]
  split
  · next hid => rw [latest_eq_some_iff hstamps, and_iff_right hid]
  · next hid => exact ⟨nofun, fun h => absurd h.1 hid⟩

/-- A sample of the first channel. -/
def sampleOf (deviceId : String) (sampledAt : Time) (source : String) (pW : Option Rat) :
    DevicePowerSample where
  id := sampledAt
  deviceId := deviceId
  channelId := 0
  sampledAt := sampledAt
  receivedAt := sampledAt
  sampledUptimeSeconds := none
  source := source
  sourceFlags := 2
  vV := none
  iMa := none
  iMaEstimated := none
  iMaEstimate := none
  pW := pW
  sVa := none
  pf := none
  hz := none
  energyWh := none
  rssiDbm := none
  chipType := none

/-- The samples of two devices, joined in the reverse of the table's order. -/
theorem batched_lookups_reversed :
    let samples := [sampleOf "dev_1" 1 "steady" (some 5), sampleOf "dev_1" 2 "burst" none,
      sampleOf "dev_2" 1 "steady" none]
    let heartbeats : List Heartbeat := [⟨"dev_1", 2, none⟩, ⟨"dev_1", 1, some true⟩]
    (∀ deviceId,
        (latestSamplesByDevice List.reverse samples 3 ["dev_1", ""] 0).lookup deviceId =
          if deviceId ∈ ["dev_1", ""] then latestSample samples 3 deviceId 0 else none) ∧
      ∀ deviceId h,
        (latestHeartbeatByDevice List.reverse heartbeats ["dev_1", ""]).lookup deviceId = some h ↔
          (deviceId ∈ ["dev_1", ""] ∧ deviceId ≠ "") ∧
            Newest (·.receivedAt) (heartbeats.filter (·.deviceId = deviceId)) h :=
  batched_lookups List.reverse_perm List.reverse_perm (by decide) (by decide) _ _ _

end

end RebooterHub.Power
