import RebooterHub.Data.Spelling
import RebooterHub.Watchdog.Probes

/-!
# Watchdog — SourceProbes

`_probes_integrations`: the probes that match what a source last reported, the programme guide and
the heartbeats.

`spell` is `str` of a float, a list or a dict.  Texts are compared after `Text.lower`, which folds
the letters of ASCII.
-/

namespace RebooterHub.Watchdog
open Commands (maxTime)

/-- `needle in text`. -/
def occursIn (needle text : List Char) : Bool := decide (needle <:+: text)

section
variable (spell : Json → String)

/-- `str(x or "")`. -/
def strOrEmpty (x : Json) : List Char := if x.truthy then x.text spell else []

/-- `str(x if x is not None else "")`. -/
def strUnlessNone (x : Json) : List Char := if x = .null then [] else x.text spell

/-- The time of a sample, in the details. -/
def SensorSample.stamp (s : SensorSample) : Json := .str (strftime s.sampledAt)

/-! ### Roku and Home Assistant -/

/-- `_probe_roku_app_active`. -/
def probeRokuAppActive (db : Telemetry) (now : Time) (ms : List (String × Json)) :
    Except PyError Answer := do
  let sourceId ← textField ms "source_id"
  let expected ← textField ms "app_name"
  if sourceId = "" then return failed "missing source_id" []
  if expected = "" then return failed "missing app_name" []
  let maxAge ← intField ms "max_sample_age_seconds" 120
  let some sample ← latestSample db now sourceId maxAge
    | return staleSample sourceId maxAge
  let payload := sample.payload.orEmpty
  let actual ← strippedText (← payload.get "active_app")
  let screensaver := ("screensaver_active", member payload "screensaver_active")
  if actual = [] then
    return failed "no_active_app"
      [("source_id", .str sourceId), ("sampled_at", sample.stamp), screensaver]
  return (occursIn (Text.lower expected.toList) (Text.lower actual),
    .obj [("source_id", .str sourceId), ("expected_app", .str expected),
      ("actual_app", .str (String.ofList actual)), ("sampled_at", sample.stamp), screensaver])

/-- `_probe_ha_state_is`. -/
def probeHaStateIs (db : Telemetry) (now : Time) (ms : List (String × Json)) :
    Except PyError Answer := do
  let sourceId ← textField ms "source_id"
  let entityId ← textField ms "entity_id"
  let expected := Text.strip (strOrEmpty spell (field ms "expected_state"))
  if sourceId = "" ∨ entityId = "" ∨ expected = [] then
    return failed "missing source_id / entity_id / expected_state" []
  let maxAge ← intField ms "max_sample_age_seconds" 60
  let some sample ← latestSample db now sourceId maxAge
    | return staleSample sourceId maxAge
  match member (member sample.payload.orEmpty "entities").orEmpty entityId with
  | .obj entry =>
    let actual := strOrEmpty spell (field entry "state")
    return (Text.lower actual = Text.lower expected,
      .obj [("source_id", .str sourceId), ("entity_id", .str entityId),
        ("expected_state", .str (String.ofList expected)),
        ("actual_state", .str (String.ofList actual)),
        ("last_changed", field entry "last_changed"), ("sampled_at", sample.stamp)])
  | _ =>
    return failed "entity_not_found"
      [("source_id", .str sourceId), ("entity_id", .str entityId), ("sampled_at", sample.stamp)]

/-! ### Weather and calendars -/

/-- `sev_rank.get(severity.lower(), 0)`. -/
def severityRank (severity : List Char) : Nat :=
  match String.ofList (Text.lower severity) with
  | "minor" => 1
  | "moderate" => 2
  | "severe" => 3
  | "extreme" => 4
  | _ => 0

/-- The elements of a list in a payload. -/
def listMember (payload : Json) (name : String) : List Json :=
  match member payload name with
  | .arr xs => xs
  | _ => []

/-- An alert that the filters let through, as it stands in the details. -/
def matchedAlert (eventSubstr : List Char) (minRank : Nat) (alert : Json) : Option Json :=
  match alert with
  | .obj a =>
    let event := strOrEmpty spell (field a "event")
    if eventSubstr ≠ [] ∧ !occursIn eventSubstr (Text.lower event) then none
    else if minRank ≠ 0 ∧ severityRank (strOrEmpty spell (field a "severity")) < minRank then none
    else some (.obj [("event", .str (String.ofList event)), ("severity", field a "severity"),
      ("headline", field a "headline"), ("ends", field a "ends")])
  | _ => none

/-- `_probe_weather_alert_active`. -/
def probeWeatherAlertActive (db : Telemetry) (now : Time) (ms : List (String × Json)) :
    Except PyError Answer := do
  let sourceId ← textField ms "source_id"
  if sourceId = "" then return failed "missing source_id" []
  let eventSubstr := Text.lower (← textField ms "event_contains").toList
  let minSeverity ← textField ms "min_severity"
  let maxAge ← intField ms "max_sample_age_seconds" 600
  let some sample ← latestSample db now sourceId maxAge
    | return staleSample sourceId maxAge
  let alerts := listMember sample.payload.orEmpty "alerts"
  let matched := alerts.filterMap
    (matchedAlert spell eventSubstr (severityRank minSeverity.toList))
  return (!matched.isEmpty,
    .obj [("source_id", .str sourceId), ("alerts_total", .int alerts.length),
      ("alerts_matched", .arr matched), ("event_filter", textOrNone (String.ofList eventSubstr)),
      ("min_severity", textOrNone minSeverity), ("sampled_at", sample.stamp)])

/-- A time of an event: the instant, and whether it has an offset. -/
structure EventTime where
  instant : Time
  aware : Bool

/-- `datetime.fromisoformat(text.replace("Z", "+00:00"))`; `none` is its `ValueError`.  A text
without an offset is one that takes one. -/
def eventTime (text : List Char) : Option EventTime :=
  let iso := String.ofList (text.flatMap fun c => if c = 'Z' then "+00:00".toList else [c])
  (fromisoformat iso).map fun t => ⟨t, (fromisoformat (iso ++ "+00:00")).isNone⟩

/-- The end of an event: a day after its start, if it has none. -/
def eventEnd (start : EventTime) (stop : Json) : Except PyError EventTime :=
  match (if stop.truthy then eventTime (stop.text spell) else none) with
  | some stop => .ok stop
  | none =>
    let stop := start.instant + seconds 86400
    if maxTime < stop then .error .overflowError else .ok { start with instant := stop }

/-- `start <= now < end`; a time without an offset cannot be compared with `now`. -/
def isAiring (now : Time) (start stop : EventTime) : Except PyError Bool :=
  if !start.aware then .error .typeError
  else if start.instant ≤ now then
    if stop.aware then .ok (now < stop.instant) else .error .typeError
  else .ok false

/-- An event that is airing and matches, as it stands in the details. -/
def activeEvent (now : Time) (needle : List Char) (event : Json) :
    Except PyError (Option Json) :=
  match event with
  | .obj e =>
    let summary := strOrEmpty spell (field e "summary")
    if needle ≠ [] ∧ !occursIn needle (Text.lower summary) then .ok none
    else match eventTime (strOrEmpty spell (field e "start")) with
      | none => .ok none
      | some start => do
        let stop ← eventEnd spell start (field e "end")
        return if ← isAiring now start stop then
          some (.obj [("summary", .str (String.ofList summary)), ("start", field e "start"),
            ("end", field e "end")])
        else none
  | _ => .ok none

/-- `_probe_ical_event_active`. -/
def probeIcalEventActive (db : Telemetry) (now : Time) (ms : List (String × Json)) :
    Except PyError Answer := do
  let sourceId ← textField ms "source_id"
  if sourceId = "" then return failed "missing source_id" []
  let needle := Text.lower (← textField ms "summary_contains").toList
  let maxAge ← intField ms "max_sample_age_seconds" 1800
  let some sample ← latestSample db now sourceId maxAge
    | return staleSample sourceId maxAge
  let events := listMember sample.payload.orEmpty "events"
  let active := (← events.mapM (activeEvent spell now needle)).filterMap id
  return (!active.isEmpty,
    .obj [("source_id", .str sourceId), ("events_total", .int events.length),
      ("events_active", .arr active), ("summary_filter", textOrNone (String.ofList needle)),
      ("sampled_at", sample.stamp)])

/-! ### SNMP links -/

/-- `_probe_snmp_interface_down`. -/
def probeSnmpInterfaceDown (db : Telemetry) (now : Time) (ms : List (String × Json)) :
    Except PyError Answer := do
  let sourceId ← textField ms "source_id"
  let interface ← textField ms "interface"
  if sourceId = "" ∨ interface = "" then return failed "missing source_id / interface" []
  let maxAge ← intField ms "max_sample_age_seconds" 600
  let some sample ← latestSample db now sourceId maxAge
    | return staleSample sourceId maxAge
  match ← interfaceEntry sample interface with
  | .obj entry =>
    let status := field entry "oper_status"
    return (status = .str "up",
      .obj [("source_id", .str sourceId), ("interface", .str interface), ("oper_status", status),
        ("sampled_at", sample.stamp)])
  | _ =>
    return failed "interface_not_found"
      [("source_id", .str sourceId), ("interface", .str interface), ("sampled_at", sample.stamp)]

/-! ### Events that a source sends -/

/-- `_MEDIA_STOPPED_TOKENS`. -/
def mediaStoppedTokens : List String := ["stop", "pause"]

/-- `_MEDIA_PLAYING_TOKENS`. -/
def mediaPlayingTokens : List String :=
  ["play", "start", "resume", "progress", "scrobble", "unpause"]

/-- The event is one of playing media. -/
def mediaActive (event : List Char) : Bool :=
  !mediaStoppedTokens.any (fun tok => occursIn tok.toList event) &&
    mediaPlayingTokens.any fun tok => occursIn tok.toList event

/-- `_probe_media_session_active`. -/
def probeMediaSessionActive (db : Telemetry) (now : Time) (ms : List (String × Json)) :
    Except PyError Answer := do
  let sourceId ← textField ms "source_id"
  if sourceId = "" then return failed "missing source_id" []
  let presumed ← intField ms "presumed_duration_seconds" 7200
  let maxAge ← intField ms "max_sample_age_seconds" presumed
  let some sample ← latestSample db now sourceId maxAge
    | return failed "no_recent_event"
        [("source_id", .str sourceId), ("max_sample_age_seconds", .int maxAge)]
  let payload := sample.payload.orEmpty
  let named ← payload.get "event"
  let event := if named.truthy then named
    else if (member payload "NotificationType").truthy then member payload "NotificationType"
    else member payload "Event"
  let event := Text.lower (strOrEmpty spell event)
  return (mediaActive event,
    .obj [("source_id", .str sourceId), ("event", textOrNone (String.ofList event)),
      ("media_active", .bool (mediaActive event)), ("sampled_at", sample.stamp)])

/-- `_probe_webhook_field_equals`. -/
def probeWebhookFieldEquals (db : Telemetry) (now : Time) (ms : List (String × Json)) :
    Except PyError Answer := do
  let sourceId ← textField ms "source_id"
  let name ← textField ms "field"
  let expected := Text.strip (strUnlessNone spell (field ms "expected"))
  if sourceId = "" ∨ name = "" then return failed "missing source_id / field" []
  let maxAge ← intField ms "max_sample_age_seconds" 3600
  let some sample ← latestSample db now sourceId maxAge
    | return staleSample sourceId maxAge
  let actual := strUnlessNone spell (member sample.payload.orEmpty name)
  return (Text.lower (Text.strip actual) = Text.lower expected,
    .obj [("source_id", .str sourceId), ("field", .str name),
      ("expected", .str (String.ofList expected)), ("actual", .str (String.ofList actual)),
      ("sampled_at", sample.stamp)])

/-- `external_sensors.latest_sample_for_topic`. -/
def latestSampleForTopic (db : Telemetry) (now : Time) (sourceId topic : String) (maxAge : Int) :
    Except PyError (Option SensorSample) := do
  let oldest ← cutoff now maxAge
  let rows := newestFirst (·.sampledAt)
    (db.sensors.filter fun s => s.sourceId = sourceId ∧ oldest ≤ s.sampledAt)
  return (rows.take 500).find? fun s => member s.payload.orEmpty "topic" = .str topic

/-- `_probe_mqtt_topic_equals`. -/
def probeMqttTopicEquals (db : Telemetry) (now : Time) (ms : List (String × Json)) :
    Except PyError Answer := do
  let sourceId ← textField ms "source_id"
  let topic ← textField ms "topic"
  let expected := Text.strip (strUnlessNone spell (field ms "expected_value"))
  if sourceId = "" ∨ topic = "" then return failed "missing source_id / topic" []
  let maxAge ← intField ms "max_sample_age_seconds" 300
  let some sample ← latestSampleForTopic db now sourceId topic maxAge
    | return failed "no_recent_message"
        [("source_id", .str sourceId), ("topic", .str topic),
          ("max_sample_age_seconds", .int maxAge)]
  let msg := strOrEmpty spell (← sample.payload.orEmpty.get "msg")
  return (Text.lower (Text.strip msg) = Text.lower expected,
    .obj [("source_id", .str sourceId), ("topic", .str topic),
      ("expected_value", .str (String.ofList expected)),
      ("actual_value", .str (String.ofList msg)), ("sampled_at", sample.stamp)])

end

/-! ### The programme guide -/

/-- A row of `external_epg_cache`. -/
structure EpgRow where
  provider : String
  channelId : String
  showTitle : String
  episodeTitle : Option String
  airingStart : Time
  airingEnd : Time

/-- `text LIKE pattern`. -/
def likeMatch : List Char → List Char → Bool
  | [], text => text.isEmpty
  | '%' :: pattern, text => text.tails.any (likeMatch pattern)
  | '_' :: pattern, _ :: text => likeMatch pattern text
  | c :: pattern, d :: text => c = d && likeMatch pattern text
  | _ :: _, [] => false

/-- `show_title.ilike(f"%{show}%")`. -/
def showMatches (show_ title : String) : Bool :=
  likeMatch ('%' :: Text.lower show_.toList ++ ['%']) (Text.lower title.toList)

/-- `epg.show_airing_now`. -/
def showAiringNow (epg : List EpgRow) (now : Time) (show_ network : String) : Option EpgRow :=
  (newestFirst (·.airingStart) (epg.filter fun row =>
    row.provider = "tvmaze" ∧ row.airingStart ≤ now ∧ now < row.airingEnd ∧
      showMatches show_ row.showTitle ∧
      (network = "" ∨
        Text.lower row.channelId.toList = Text.lower network.toList))).head?

/-- `_probe_epg_show_airing`. -/
def probeEpgShowAiring (epg : List EpgRow) (now : Time) (ms : List (String × Json)) :
    Except PyError Answer := do
  let title ← textField ms "show"
  if title = "" then return failed "missing show" []
  let network ← textField ms "network"
  match showAiringNow epg now title network with
  | none =>
    let reason := if epg.any (·.provider = "tvmaze") then "not_airing" else "epg_cache_empty"
    return failed reason [("show", .str title), ("network", textOrNone network)]
  | some row =>
    return (true, .obj [("show", .str title), ("network", textOrNone network),
      ("matched_show", .str row.showTitle), ("channel", .str row.channelId),
      ("episode_title", match row.episodeTitle with
        | some t => .str t
        | none => .null),
      ("airing_end", .str (strftime row.airingEnd))])

/-! ### Heartbeats -/

/-- `isoformat()` of an instant in UTC. -/
def isoformat (t : Time) : String :=
  let micros := t % 1000000
  let fraction := if micros = 0 then "" else "." ++ Iso.padded 6 micros
  String.ofList (strftime t).toList.dropLast ++ fraction ++ "+00:00"

/-- `_probe_device_heartbeat_stale`; `lastHeartbeatAt` is the column of the device of an id. -/
def probeDeviceHeartbeatStale (lastHeartbeatAt : String → Option Time) (now : Time)
    (ms : List (String × Json)) : Except PyError Answer := do
  let deviceId ← textField ms "device_id"
  if deviceId = "" then return failed "missing device_id" []
  let maxAge := min (max (← intField ms "max_age_seconds" 300) 30) 86400
  match lastHeartbeatAt deviceId with
  | none =>
    return failed "no_heartbeat"
      [("device_id", .str deviceId), ("max_age_seconds", .int maxAge)]
  | some last =>
    let age : Rat := (now - last : Int) / 1000000
    let details :=
      [("device_id", .str deviceId), ("age_seconds", .float (roundRat age 1)),
        ("max_age_seconds", .int maxAge), ("last_heartbeat_at", .str (isoformat last))]
    if maxAge < age then
      return (false, .obj (details ++ [("reason", .str "heartbeat_stale")]))
    return (true, .obj details)

end RebooterHub.Watchdog
