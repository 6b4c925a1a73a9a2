import RebooterHub.Watchdog.NetworkProbes
import RebooterHub.Watchdog.Requests
import RebooterHub.Watchdog.SourceProbes

/-!
# Watchdog — Faults

The runs of a probe, and the faults a run can have that are the probe's own.

A probe that is accepted agrees with the runtime when no run of it ends in an exception or in a
failure that says that its own fields are missing or badly shaped, and when an internet probe fails
only after each of its targets was tried and failed.  What a stored sample that is not well formed
makes a probe raise is not its own fault.

* `ProbeAgrees`: the agreement of a probe with the runtime.
* `Matches`: what the runtime takes the fields of an accepted probe for.
-/

namespace RebooterHub.Watchdog
open Fallible
open Commands (minTime maxTime)

/-! ### Running a probe -/

/-- What a run of a probe depends on besides its fields and the clock. -/
structure World where
  db : Telemetry
  epg : List EpgRow
  lastHeartbeatAt : String → Option Time
  net : Network

/-- The clock, a day after the first instant of a datetime at least. -/
structure Clock where
  now : Time
  low : minTime + seconds 86400 ≤ now
  high : now ≤ maxTime

section
variable (p : Platform) (clock : Clock) (w : World)

/-- The probes that ask the network, by their kind. -/
def networkHandler (ms : List (String × Json)) : Json → Option Traced
  | .str "internet" => some (probeInternet p w.net ms)
  | .str "ping" => some (probePing p w.net ms)
  | .str "tcp" => some (probeConnect p w.net ms 0)
  | .str "host_awake" => some (probeConnect p w.net ms 22)
  | .str "http" => some (do return plain (← probeHttp p w.net (fieldOrBlank ms "url")))
  | .str "dns" => some (do return plain (← probeDns p w.net (fieldOrBlank ms "hostname")))
  | _ => none

/-- What a probe that asks the network answers and tries. -/
def networkTrace (ms : List (String × Json)) : Option Traced :=
  networkHandler p w ms (field ms "kind")

/-- The answer of a kind that the runtime does not know. -/
def unknownKind (kind : Json) : ProbeRun :=
  .done false
    (.obj [("reason", .str ("unknown probe kind: " ++ String.ofList (kind.text p.spell)))])

/-- The probes that match what is stored. -/
def runStored (ms : List (String × Json)) : ProbeRun :=
  match field ms "kind" with
  | .str "roku_app_active" => guarded (probeRokuAppActive w.db clock.now ms)
  | .str "ha_state_is" => guarded (probeHaStateIs p.spell w.db clock.now ms)
  | .str "weather_alert_active" => guarded (probeWeatherAlertActive p.spell w.db clock.now ms)
  | .str "ical_event_active" => guarded (probeIcalEventActive p.spell w.db clock.now ms)
  | .str "snmp_interface_down" => guarded (probeSnmpInterfaceDown w.db clock.now ms)
  | .str "media_session_active" => guarded (probeMediaSessionActive p.spell w.db clock.now ms)
  | .str "webhook_field_equals" => guarded (probeWebhookFieldEquals p.spell w.db clock.now ms)
  | .str "mqtt_topic_equals" => guarded (probeMqttTopicEquals p.spell w.db clock.now ms)
  | .str "epg_show_airing" => guarded (probeEpgShowAiring w.epg clock.now ms)
  | .str "device_heartbeat_stale" =>
    guarded (probeDeviceHeartbeatStale w.lastHeartbeatAt clock.now ms)
  | .str "gateway" =>
    .done true (.obj [("skipped", .str "gateway probe needs device-side gateway info")])
  -- a list or an object is not looked up in a set
  | .arr _ | .obj _ => .raised (exceptionName .typeError)
  | kind => unknownKind p kind

/-- The probes that compare no stored measurement. -/
def runElsewhere (probe : Json) : ProbeRun :=
  match probe.orEmpty with
  | .obj ms => match networkTrace p w ms with
    | some trace => guarded (trace.map (·.1))
    | none => runStored p clock w ms
  | _ => .raised (exceptionName .attributeError)

/-- `run_probe`. -/
def World.run (probe : Json) : ProbeRun :=
  runProbe w.db clock.now (runElsewhere p clock w) probe

/-! ### Faults -/

/-- The reasons that blame the fields of a probe. -/
def ownReasons : List String :=
  ["probe_exception", "missing host", "missing source_id", "missing app_name",
    "missing source_id / entity_id / expected_state", "missing source_id / entity_id",
    "missing or non-numeric threshold", "missing device_id", "missing threshold_w",
    "missing source_id / interface", "direction must be in / out / total",
    "missing or non-numeric threshold_bps", "missing or non-numeric threshold_errors_per_min",
    "missing source_id / field", "missing source_id / topic", "missing show"]

/-- The details give such a reason. -/
def BlamesFields (details : Json) : Prop :=
  ∃ reason ∈ ownReasons, member details "reason" = .str reason

/-- The details name a target of a bad shape. -/
def BlamesTarget (details : Json) : Prop :=
  ∃ t ∈ listMember details "targets_failed", member t "error" = .str badTargetShape

/-- The probe gave up before it tried anything on the network. -/
def TriedNothing (probe : Json) : Prop :=
  ∃ ms answer, probe = .obj ms ∧ networkTrace p w ms = some (.ok (answer, []))

/-- The run ends in an exception, or in a failure that blames the probe's fields. -/
def Fault (probe : Json) : Prop :=
  ∃ details, w.run p clock probe = .done false details ∧
    (BlamesFields details ∨ BlamesTarget details ∨ TriedNothing p w probe)

/-! ### Well-formed samples -/

/-- A reading that `float` does not refuse for its size. -/
def EntryReadable (entry : List (String × Json)) : Prop :=
  Floats (field entry "state") ∧
    ∃ attributes, (field entry "attributes").orEmpty = .obj attributes ∧
      ∀ name, Floats (field attributes name)

/-- A 64-bit counter, or none. -/
def IsCounter (x : Json) : Prop := x = .null ∨ ∃ n : Int, x = .int n ∧ 0 ≤ n ∧ n < 2 ^ 64

/-- The counters of an interface. -/
def counterNames : List String := ["in_octets", "out_octets", "in_errors", "out_errors"]

/-- The times of an event have offsets, and a day after its start is still a datetime. -/
def EventReadable (spell : Json → String) (event : List (String × Json)) : Prop :=
  (∀ start, eventTime (strOrEmpty spell (field event "start")) = some start →
      start.aware = true ∧ start.instant + seconds 86400 ≤ maxTime) ∧
    ∀ stop, eventTime ((field event "end").text spell) = some stop → stop.aware = true

/-- The payload of a sample as the pollers and the webhooks store it. -/
structure PayloadWellFormed (spell : Json → String) (payload : List (String × Json)) : Prop where
  activeApp : Strippable (field payload "active_app")
  entities : ∀ id entry, member (field payload "entities").orEmpty id = .obj entry →
    EntryReadable entry
  interfaces : ∀ name entry, member (field payload "interfaces").orEmpty name = .obj entry →
    ∀ counter ∈ counterNames, IsCounter (field entry counter)
  production : Floats (field payload "production_w")
  events : ∀ event, .obj event ∈ listMember (.obj payload) "events" → EventReadable spell event

/-- Each stored sample has a payload, and the payload is well formed. -/
def World.WellFormed : Prop :=
  ∀ s ∈ w.db.sensors, ∃ payload, s.payload.orEmpty = .obj payload ∧
    PayloadWellFormed p.spell payload

/-! ### Agreement -/

/-- The target of an internet probe is this host and this port. -/
def IsTarget (t : Json) (host : String) (port : Int) : Prop :=
  ∃ ms, t = .obj ms ∧ targetHost p ms = host ∧ targetPort ms = .ok port

/-- Each target of the list was tried and failed. -/
def TriedAndFailed (ts : List Json) (tried : List Attempt) : Prop :=
  ∀ t ∈ ts, ∃ host port, IsTarget p t host port ∧ .tcp host port ∈ tried ∧
    w.net.tcp host port = false

/-- The targets of an internet probe. -/
def targetsOf (ms : List (String × Json)) : List Json :=
  (configuredTargets ms).getD defaultInternetTargets

/-- The probe agrees with the runtime. -/
structure ProbeAgrees (ms : List (String × Json)) : Prop where
  /-- With well-formed samples no run ends in an exception or blames the fields. -/
  noFault : ∀ w : World, w.WellFormed p → ¬ Fault p clock w (.obj ms)
  /-- An internet probe fails when each of its targets was tried and failed. -/
  allTried : field ms "kind" = .str "internet" → ∀ w : World, ∀ details,
    w.run p clock (.obj ms) = .done false details →
    ∃ answer tried, probeInternet p w.net ms = .ok (answer, tried) ∧
      TriedAndFailed p w (targetsOf ms) tried

/-! ### The fields that agree -/

/-- A text. -/
def IsStr (x : Json) : Prop := ∃ s, x = .str s

/-- Samples of the probe's greatest age are asked for within the range of a datetime. -/
def InReach (ms : List (String × Json)) (default : Int) : Prop :=
  ∃ n, intField ms "max_sample_age_seconds" default = .ok n ∧ Passes (cutoff clock.now n)

/-- What the runtime asks of the fields of a probe of stored samples: the required fields are
texts, the optional ones texts or false. -/
structure Reads (ms : List (String × Json)) (texts options : List String) : Prop where
  texts : ∀ name ∈ texts, IsStr (field ms name)
  options : ∀ name ∈ options, Strippable (field ms name)

/-- The name that a host is asked by. -/
def Resolves (ms : List (String × Json)) (name : String) : Prop :=
  ∃ s, field ms name = .str s ∧ p.resolvable s

/-- A ping to the host can be run, or its fallback tried. -/
def PingRuns (ms : List (String × Json)) : Prop :=
  ∃ s n, field ms "host" = .str s ∧ intField ms "timeout_seconds" 3 = .ok n ∧
    let host := Text.stripped s
    if p.hasPing then
      p.launch host (max 1 n) = .runs ∨
        p.launch host (max 1 n) = .missing ∧ p.resolvable host
    else p.resolvable host

/-- The targets that are tried have names that the resolver takes, and the others are among
them. -/
structure TargetsTried (ms : List (String × Json)) : Prop where
  resolvable : ∀ t ∈ triedTargets ms, ∀ host port, IsTarget p t host port → p.resolvable host
  covered : ∀ t ∈ targetsOf ms, ∃ t' ∈ triedTargets ms, ∃ host port,
    IsTarget p t host port ∧ IsTarget p t' host port

/-- The fields of the probe are what the runtime takes them for. -/
def Matches (ms : List (String × Json)) : Prop :=
  match field ms "kind" with
  | .str "internet" => TargetsTried p ms
  | .str "ping" => PingRuns p ms
  | .str "tcp" | .str "host_awake" => Resolves p ms "host"
  | .str "dns" => Resolves p ms "hostname"
  | .str "http" => ∃ s, field ms "url" = .str s ∧ p.fetchable s
  | .str "roku_app_active" => Reads ms ["source_id", "app_name"] [] ∧ InReach clock ms 120
  | .str "ha_state_is" =>
    Reads ms ["source_id", "entity_id"] [] ∧ (field ms "expected_state").truthy ∧
      InReach clock ms 60
  | .str "ha_numeric_above" | .str "ha_numeric_below" =>
    Reads ms ["source_id", "entity_id"] ["attribute"] ∧ InReach clock ms 60
  | .str "weather_alert_active" =>
    Reads ms ["source_id"] ["event_contains"] ∧ InReach clock ms 600
  | .str "ical_event_active" =>
    Reads ms ["source_id"] ["summary_contains"] ∧ InReach clock ms 1800
  | .str "power_above" | .str "power_below" | .str "power_zero_while_on"
  | .str "device_heartbeat_stale" => Reads ms ["device_id"] []
  | .str "solar_production_above" | .str "solar_production_below" =>
    Reads ms ["source_id"] [] ∧ InReach clock ms 1800
  | .str "snmp_interface_down" | .str "snmp_error_rate_above" =>
    Reads ms ["source_id", "interface"] [] ∧ InReach clock ms 600
  | .str "snmp_throughput_above" | .str "snmp_throughput_below" =>
    Reads ms ["source_id", "interface"] [] ∧ InReach clock ms 600 ∧
      ∃ d ∈ ["in", "out", "total"], direction ms = .ok d
  | .str "media_session_active" =>
    Reads ms ["source_id"] [] ∧
      ∃ presumed, intField ms "presumed_duration_seconds" 7200 = .ok presumed ∧
        InReach clock ms presumed
  | .str "webhook_field_equals" => Reads ms ["source_id", "field"] [] ∧ InReach clock ms 3600
  | .str "mqtt_topic_equals" => Reads ms ["source_id", "topic"] [] ∧ InReach clock ms 300
  | .str "epg_show_airing" => Reads ms ["show"] ["network"]
  | _ => True

end

end RebooterHub.Watchdog
