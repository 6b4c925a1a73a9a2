import Mathlib.Data.List.Sort
import RebooterHub.Commands.Queue
import RebooterHub.Watchdog.Tick
import RebooterHub.Watchdog.Validation

/-!
# Watchdog — Probes

`_probes_integrations`: the probes that compare a stored measurement with a threshold, over the
tables of samples they read.

A probe answers an outcome with its details, or raises; `run_probe` answers `failure` for one that
raises.  The probes of the other kinds are a parameter of `runProbe`.  A float is the rational
number it stands for, and is not rounded to a double.
-/

namespace RebooterHub.Watchdog
open Commands (maxTime minTime roundHalfEven)

/-! ### The stored samples -/

/-- A row of `external_sensor_samples`. -/
structure SensorSample where
  sourceId : String
  sampledAt : Time
  payload : Json

/-- A row of `device_power_samples`. -/
structure PowerSample where
  deviceId : String
  channelId : Int
  sampledAt : Time
  pW : Option Rat

/-- A row of `device_heartbeats`. -/
structure Heartbeat where
  deviceId : String
  receivedAt : Time
  relayOn : Option Bool

/-- The tables the probes read. -/
structure Telemetry where
  sensors : List SensorSample
  power : List PowerSample
  heartbeats : List Heartbeat

/-- `order_by(at.desc())`. -/
def newestFirst {α : Type} (at_ : α → Time) (rows : List α) : List α :=
  rows.insertionSort fun a b => at_ b ≤ at_ a

/-- `datetime.now(timezone.utc) - timedelta(seconds=max_age_seconds)`. -/
def cutoff (now : Time) (maxAge : Int) : Except PyError Time :=
  let at_ := now - seconds maxAge
  if minTime ≤ at_ ∧ at_ ≤ maxTime then .ok at_ else .error .overflowError

/-- `external_sensors.latest_sample`. -/
def latestSample (db : Telemetry) (now : Time) (sourceId : String) (maxAge : Int) :
    Except PyError (Option SensorSample) := do
  let oldest ← cutoff now maxAge
  return (newestFirst (·.sampledAt)
    (db.sensors.filter fun s => s.sourceId = sourceId ∧ oldest ≤ s.sampledAt)).head?

/-- `external_sensors.last_two_samples`. -/
def lastTwoSamples (db : Telemetry) (now : Time) (sourceId : String) (maxAge : Int) :
    Except PyError (Option (SensorSample × SensorSample)) := do
  let oldest ← cutoff now maxAge
  return match newestFirst (·.sampledAt) (db.sensors.filter (·.sourceId = sourceId)) with
    | newer :: older :: _ => if newer.sampledAt < oldest then none else some (newer, older)
    | _ => none

/-- The samples of a device's first channel. -/
def channelSamples (db : Telemetry) (deviceId : String) : List PowerSample :=
  db.power.filter fun s => s.deviceId = deviceId ∧ s.channelId = 0

/-- `device_power.latest_sample`. -/
def latestPower (db : Telemetry) (deviceId : String) : Option PowerSample :=
  (newestFirst (·.sampledAt) (channelSamples db deviceId)).head?

/-- The `age_seconds` of a power sample. -/
def ageSeconds (now : Time) (s : PowerSample) : Int := max 0 ((now - s.sampledAt) / 1000000)

/-- `device_power.recent_samples`, with its default limit. -/
def recentSamples (db : Telemetry) (now : Time) (deviceId : String) (window : Int) :
    Except PyError (List PowerSample) := do
  let oldest ← cutoff now (max 60 (min window 86400))
  return (newestFirst (·.sampledAt)
    ((channelSamples db deviceId).filter (oldest ≤ ·.sampledAt))).take 720

/-- The `relay_on` of the device's latest heartbeat. -/
def relayOnHeartbeat (db : Telemetry) (deviceId : String) : Bool :=
  match newestFirst (·.receivedAt) (db.heartbeats.filter (·.deviceId = deviceId)) with
  | [] => false
  | hb :: _ => hb.relayOn.getD false

/-! ### Reading a probe -/

/-- A value, or `None` where `except (TypeError, ValueError)` takes over. -/
def caught {α : Type} : Except PyError α → Except PyError (Option α)
  | .ok x => .ok (some x)
  | .error .typeError | .error .valueError => .ok none
  | .error e => .error e

/-- `int(probe.get(name) or default)`, the default if it is no number. -/
def intField (ms : List (String × Json)) (name : String) (default : Int) :
    Except PyError Int := do
  let x := field ms name
  return (← caught (if x.truthy then x else .int default).toInt).getD default

/-- `(probe.get(name) or "").strip()`. -/
def textField (ms : List (String × Json)) (name : String) : Except PyError String := do
  return String.ofList (← strippedText (field ms name))

/-- `x.get(k) if isinstance(x, dict) else None`. -/
def member (x : Json) (k : String) : Json :=
  match x with
  | .obj ms => field ms k
  | _ => .null

/-- `s or None`. -/
def textOrNone (s : String) : Json := if s = "" then .null else .str s

/-- A float in the details, one that is not finite as `json.dumps` spells it. -/
def floatJson : PyFloat → Json
  | .fin q => .float q
  | .inf negative => .str (if negative then "-Infinity" else "Infinity")
  | .nan => .str "NaN"

/-- `round(q, digits)`. -/
def roundRat (q : Rat) (digits : Nat) : Rat := roundHalfEven (q * 10 ^ digits) / 10 ^ digits

/-- `round(x, digits)`. -/
def roundFloat (x : PyFloat) (digits : Nat) : PyFloat :=
  match x with
  | .fin q => .fin (roundRat q digits)
  | x => x

/-- What a probe answers: whether it succeeds, with the details. -/
abbrev Answer := Bool × Json

/-- `"failure", {"reason": reason, ...}`. -/
def failed (reason : String) (more : List (String × Json)) : Answer :=
  (false, .obj (("reason", .str reason) :: more))

/-- `"success", {"reason": reason, ...}`. -/
def passed (reason : String) (more : List (String × Json)) : Answer :=
  (true, .obj (("reason", .str reason) :: more))

/-- The gate of the probes that read the latest sample of a source. -/
def staleSample (sourceId : String) (maxAge : Int) : Answer :=
  failed "stale_sample"
    [("source_id", .str sourceId), ("max_sample_age_seconds", .int maxAge)]

/-! ### Home Assistant and solar sources -/

/-- `_probe_ha_numeric`. -/
def probeHaNumeric (db : Telemetry) (now : Time) (ms : List (String × Json)) (kind : String) :
    Except PyError Answer := do
  let sourceId ← textField ms "source_id"
  let entityId ← textField ms "entity_id"
  if sourceId = "" ∨ entityId = "" then
    return failed "missing source_id / entity_id" []
  let attr ← textField ms "attribute"
  let some threshold ← caught (field ms "threshold").toFloat
    | return failed "missing or non-numeric threshold" []
  let maxAge ← intField ms "max_sample_age_seconds" 60
  let some sample ← latestSample db now sourceId maxAge
    | return staleSample sourceId maxAge
  let sampledAt := Json.str (strftime sample.sampledAt)
  match member (member sample.payload.orEmpty "entities").orEmpty entityId with
  | .obj entry =>
    let raw ← if attr = "" then .ok (field entry "state")
      else (field entry "attributes").orEmpty.get attr
    let some value ← caught raw.toFloat
      | return failed "non_numeric_reading"
          [("source_id", .str sourceId), ("entity_id", .str entityId),
            ("attribute", textOrNone attr), ("raw_value", raw), ("sampled_at", sampledAt)]
    let details := .obj
      [("source_id", .str sourceId), ("entity_id", .str entityId),
        ("attribute", textOrNone attr), ("value", floatJson value),
        ("threshold", floatJson threshold), ("last_changed", field entry "last_changed"),
        ("sampled_at", sampledAt)]
    if kind = "ha_numeric_above" then return (!threshold.lt value, details)
    else return (!value.lt threshold, details)
  | _ =>
    return failed "entity_not_found"
      [("source_id", .str sourceId), ("entity_id", .str entityId), ("sampled_at", sampledAt)]

/-- `_probe_solar`. -/
def probeSolar (db : Telemetry) (now : Time) (ms : List (String × Json)) (kind : String) :
    Except PyError Answer := do
  let sourceId ← textField ms "source_id"
  if sourceId = "" then return failed "missing source_id" []
  let some threshold ← caught (field ms "threshold_w").toFloat
    | return failed "missing threshold_w" [("source_id", .str sourceId)]
  let maxAge ← intField ms "max_sample_age_seconds" 1800
  let some sample ← latestSample db now sourceId maxAge
    | return staleSample sourceId maxAge
  let sampledAt := Json.str (strftime sample.sampledAt)
  let raw := member sample.payload.orEmpty "production_w"
  if raw = .null then
    return failed "no_production_reading"
      [("source_id", .str sourceId), ("sampled_at", sampledAt)]
  let some productionW ← caught raw.toFloat
    | return failed "bad_production_reading" [("source_id", .str sourceId)]
  let details := .obj
    [("source_id", .str sourceId), ("production_w", floatJson (roundFloat productionW 1)),
      ("threshold_w", floatJson threshold), ("vendor", member sample.payload.orEmpty "vendor"),
      ("sampled_at", sampledAt)]
  if kind = "solar_production_above" then return (!threshold.lt productionW, details)
  else return (!productionW.lt threshold, details)

/-! ### Device power -/

/-- `_probe_power`. -/
def probePower (db : Telemetry) (now : Time) (ms : List (String × Json)) (kind : String) :
    Except PyError Answer := do
  let deviceId ← textField ms "device_id"
  if deviceId = "" then return failed "missing device_id" []
  let window := min (max (← intField ms "window_seconds" 300) 30) 86400
  let maxAge ← intField ms "max_sample_age_seconds" 600
  let some latest := latestPower db deviceId
    | return failed "no_samples" [("device_id", .str deviceId)]
  let age := ageSeconds now latest
  -- the gate for stale samples comes before the window
  if maxAge < age then
    return failed "stale_sample"
      [("device_id", .str deviceId), ("sample_age_seconds", .int age),
        ("max_sample_age_seconds", .int maxAge)]
  let recent ← recentSamples db now deviceId window
  if recent.isEmpty then
    return failed "no_samples_in_window"
      [("device_id", .str deviceId), ("window_seconds", .int window)]
  match recent.filterMap (·.pW) with
  | [] =>
    return failed "no_real_power_readings"
      [("device_id", .str deviceId), ("sample_count", .int recent.length)]
  | v :: vs =>
    let avgW := (v :: vs).sum / (v :: vs).length
    let details :=
      [("device_id", .str deviceId), ("window_seconds", .int window),
        ("sample_count", .int recent.length), ("avg_w", .float (roundRat avgW 3)),
        ("min_w", .float (roundRat (vs.foldl min v) 3)),
        ("max_w", .float (roundRat (vs.foldl max v) 3)),
        ("latest_sample_age_seconds", .int age)]
    if kind = "power_above" ∨ kind = "power_below" then
      let some threshold ← caught (field ms "threshold_w").toFloat
        | return (false, .obj (details ++ [("reason", .str "missing threshold_w")]))
      let details := .obj (details ++ [("threshold_w", floatJson threshold)])
      if kind = "power_above" then return (!threshold.lt (.fin avgW), details)
      else return (!(PyFloat.fin avgW).lt threshold, details)
    else
      -- the relay is read off the heartbeat, not off the sample
      let x := field ms "near_zero_threshold_w"
      let nearZero :=
        (← caught (if x.truthy then x else .float (1 / 2)).toFloat).getD (.fin (1 / 2))
      let relayOn := relayOnHeartbeat db deviceId
      let details := .obj (details ++
        [("near_zero_threshold_w", floatJson nearZero), ("relay_on", .bool relayOn)])
      return (!(relayOn && (PyFloat.fin avgW).lt nearZero), details)

/-! ### SNMP rates -/

/-- The front half of the SNMP rate probes: an answer, or the interface's counters in the newer and
the older sample, the seconds between the two and the time of the newer. -/
inductive PairInterface where
  | early (answer : Answer)
  | usable (newer older : List (String × Json)) (dt : Rat) (sampledAt : Time)

/-- The entry of an interface in a sample. -/
def interfaceEntry (s : SensorSample) (interface : String) : Except PyError Json := do
  return member (← s.payload.orEmpty.get "interfaces").orEmpty interface

/-- `_snmp_pair_interface`. -/
def snmpPairInterface (db : Telemetry) (now : Time) (ms : List (String × Json)) :
    Except PyError PairInterface := do
  let sourceId ← textField ms "source_id"
  let interface ← textField ms "interface"
  if sourceId = "" ∨ interface = "" then
    return .early (failed "missing source_id / interface" [])
  let maxAge ← intField ms "max_sample_age_seconds" 600
  -- one sample, or stale ones: not actionable
  let some (newer, older) ← lastTwoSamples db now sourceId maxAge
    | return .early (passed "insufficient_history" [("source_id", .str sourceId)])
  match ← interfaceEntry newer interface, ← interfaceEntry older interface with
  | .obj newerIf, .obj olderIf =>
    let dt : Rat := (newer.sampledAt - older.sampledAt : Int) / 1000000
    if dt ≤ 0 then
      return .early (passed "bad_interval" [("source_id", .str sourceId)])
    return .usable newerIf olderIf dt newer.sampledAt
  | _, _ =>
    return .early (failed "interface_not_found"
      [("source_id", .str sourceId), ("interface", .str interface)])

/-- A number as the operand of an arithmetic operation with a float. -/
def operand (x : Json) : Except PyError Rat :=
  match x, x.asInt with
  | .float q, _ => .ok q
  | _, some n => if PyFloat.overflow ≤ |(n : Rat)| then .error .overflowError else .ok n
  | _, none => .error .typeError

/-- `x - y`. -/
def difference (x y : Json) : Except PyError Rat :=
  match x.asInt, y.asInt with
  | some m, some n => .ok (m - n : Int)
  | _, _ => do return (← operand x) - (← operand y)

/-- `_snmp_counter_delta`. -/
def snmpCounterDelta (newer older : List (String × Json)) (name : String) :
    Except PyError (Option Rat) := do
  let n := field newer name
  let o := field older name
  if n = .null ∨ o = .null then return none
  let delta ← difference n o
  return if 0 ≤ delta then some delta else none

/-- The sum of two counters' deltas, if neither was reset. -/
def bothDeltas (newer older : List (String × Json)) (in_ out : String) :
    Except PyError (Option Rat) := do
  let dIn ← snmpCounterDelta newer older in_
  let dOut ← snmpCounterDelta newer older out
  return match dIn, dOut with
    | some a, some b => some (a + b)
    | _, _ => none

/-- What an SNMP rate probe answers when a counter was reset. -/
def counterReset (ms : List (String × Json)) : Except PyError Answer := do
  return passed "counter_reset"
    [("source_id", .str (← textField ms "source_id")),
      ("interface", .str (← textField ms "interface"))]

/-- `(probe.get("direction") or "total").strip().lower()`, on the letters a direction can have. -/
def direction (ms : List (String × Json)) : Except PyError String := do
  let x := field ms "direction"
  let cs ← strippedText (if x.truthy then x else .str "total")
  return String.ofList (cs.map Char.toLower)

/-- `_probe_snmp_throughput`. -/
def probeSnmpThroughput (db : Telemetry) (now : Time) (ms : List (String × Json))
    (kind : String) : Except PyError Answer := do
  let direction ← direction ms
  if direction ∉ ["in", "out", "total"] then
    return failed "direction must be in / out / total" []
  let some threshold ← caught (field ms "threshold_bps").toFloat
    | return failed "missing or non-numeric threshold_bps" []
  match ← snmpPairInterface db now ms with
  | .early answer => return answer
  | .usable newer older dt sampledAt =>
    let octets ←
      if direction = "in" then snmpCounterDelta newer older "in_octets"
      else if direction = "out" then snmpCounterDelta newer older "out_octets"
      else bothDeltas newer older "in_octets" "out_octets"
    let some octets := octets | counterReset ms
    if PyFloat.overflow ≤ octets * 8 then throw .overflowError
    let bps := octets * 8 / dt
    let details := .obj
      [("source_id", .str (← textField ms "source_id")),
        ("interface", .str (← textField ms "interface")), ("direction", .str direction),
        ("throughput_bps", .float (roundRat bps 1)), ("threshold_bps", floatJson threshold),
        ("interval_seconds", .float (roundRat dt 1)), ("sampled_at", .str (strftime sampledAt))]
    if kind = "snmp_throughput_above" then return (!threshold.lt (.fin bps), details)
    else return (!(PyFloat.fin bps).lt threshold, details)

/-- `_probe_snmp_error_rate`. -/
def probeSnmpErrorRate (db : Telemetry) (now : Time) (ms : List (String × Json)) :
    Except PyError Answer := do
  let some threshold ← caught (field ms "threshold_errors_per_min").toFloat
    | return failed "missing or non-numeric threshold_errors_per_min" []
  match ← snmpPairInterface db now ms with
  | .early answer => return answer
  | .usable newer older dt sampledAt =>
    let some errors ← bothDeltas newer older "in_errors" "out_errors" | counterReset ms
    if PyFloat.overflow ≤ errors then throw .overflowError
    let errorsPerMin := errors / dt * 60
    return (!threshold.lt (.fin errorsPerMin), .obj
      [("source_id", .str (← textField ms "source_id")),
        ("interface", .str (← textField ms "interface")),
        ("errors_per_min", .float (roundRat errorsPerMin 2)),
        ("threshold_errors_per_min", floatJson threshold),
        ("interval_seconds", .float (roundRat dt 1)), ("sampled_at", .str (strftime sampledAt))])

/-! ### The dispatcher -/

/-- The class of an exception. -/
def exceptionName : PyError → String
  | .attributeError => "AttributeError"
  | .typeError => "TypeError"
  | .keyError => "KeyError"
  | .valueError => "ValueError"
  | .overflowError => "OverflowError"

/-- The answer of `run_probe`'s `try`.  The text of an exception is its class here. -/
def guarded : Except PyError Answer → ProbeRun
  | .ok (ok, details) => .done ok details
  | .error e => .done false
      (.obj [("reason", .str "probe_exception"), ("error", .str (exceptionName e))])

/-- `run_probe`, on the tables as they are at `now`; `elsewhere` answers for the probes that compare
no stored measurement. -/
def runProbe (db : Telemetry) (now : Time) (elsewhere : Json → ProbeRun) (probe : Json) :
    ProbeRun :=
  match probe with
  | .obj ms => match field ms "kind" with
    | .str "ha_numeric_above" => guarded (probeHaNumeric db now ms "ha_numeric_above")
    | .str "ha_numeric_below" => guarded (probeHaNumeric db now ms "ha_numeric_below")
    | .str "power_above" => guarded (probePower db now ms "power_above")
    | .str "power_below" => guarded (probePower db now ms "power_below")
    | .str "power_zero_while_on" => guarded (probePower db now ms "power_zero_while_on")
    | .str "solar_production_above" => guarded (probeSolar db now ms "solar_production_above")
    | .str "solar_production_below" => guarded (probeSolar db now ms "solar_production_below")
    | .str "snmp_throughput_above" =>
      guarded (probeSnmpThroughput db now ms "snmp_throughput_above")
    | .str "snmp_throughput_below" =>
      guarded (probeSnmpThroughput db now ms "snmp_throughput_below")
    | .str "snmp_error_rate_above" => guarded (probeSnmpErrorRate db now ms)
    | _ => elsewhere probe
  | probe => elsewhere probe

end RebooterHub.Watchdog
