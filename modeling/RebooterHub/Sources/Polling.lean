import RebooterHub.Backup.Sources
import RebooterHub.Support.Rows
import RebooterHub.Support.Runs
import RebooterHub.Watchdog.Probes

/-!
# Sources — Polling

`external_sensors`: the polls of the sources, the events they push, and the samples both leave.

What a source answers is in the labels of the steps.  `poll_all_due` lists the sources that are due
and then polls them one after the other, each in a transaction of its own, so that other requests
come between; polls of one source do not overlap.
-/

namespace RebooterHub.Sources
open Backup (webhookKinds)
open Watchdog (SensorSample)

/-- `SUBSCRIBER_KINDS`. -/
def subscriberKinds : List String := ["mqtt"]

/-- The kinds that `_poll_kind` knows. -/
def polledKinds : List String :=
  ["roku", "home_assistant", "weather", "ical", "solaredge", "enphase_envoy", "snmp",
    "google_calendar"]

/-- A row of `external_sensor_sources`. -/
structure Source where
  id : String
  kind : String
  enabled : Bool
  pollIntervalSeconds : Int
  lastPolledAt : Option Time
  lastSuccessAt : Option Time
  lastError : Option String

/-- The tables of the sources. -/
structure Store where
  sources : List Source
  samples : List SensorSample

/-- What `poll_source` and the inbound writers return. -/
inductive PollAnswer where
  | error (message : String)
  | sampled (at_ : Time) (payload : Json)

namespace Store

/-- The source with an id. -/
def source (db : Store) (id : String) : Option Source := db.sources.find? (·.id = id)

/-- A sample is stored, and the source has succeeded. -/
def record (now : Time) (id : String) (payload : Json) (db : Store) : Store where
  sources := Rows.amend Source.id id (fun src =>
    { src with lastPolledAt := some now, lastSuccessAt := some now, lastError := none }) db.sources
  samples := db.samples ++ [{ sourceId := id, sampledAt := now, payload := payload }]

/-- A poll failed. -/
def fail (now : Time) (id message : String) (db : Store) : Store :=
  { db with sources := Rows.amend Source.id id (fun src =>
      { src with
        lastPolledAt := some now
        lastError := some (String.ofList (message.toList.take 500)) }) db.sources }

end Store

/-- `_poll_kind`, where `fetched` is what the poll of the source's kind returned or raised. -/
def pollKind (fetched : Except String Json) (src : Source) : Except String Json :=
  if src.kind ∈ polledKinds then fetched
  else .error ("ValueError: unsupported source kind: " ++ src.kind)

/-- `poll_source`. -/
def pollSource (now : Time) (fetched : Except String Json) (id : String) (db : Store) :
    PollAnswer × Store :=
  match db.source id with
  | none => (.error "source not found", db)
  | some src =>
    if src.kind ∈ webhookKinds then
      (.error "This is a webhook source — it receives inbound events and is not polled.", db)
    else if src.kind ∈ subscriberKinds then
      (.error ("This is an MQTT source — a background subscriber receives messages; it is not " ++
        "polled."), db)
    else match pollKind fetched src with
      | .error message => (.error message, db.fail now id message)
      | .ok payload => (.sampled now payload, db.record now id payload)

/-- `payload if isinstance(payload, dict) else {}`. -/
def objectOrEmpty : Json → Json
  | .obj ms => .obj ms
  | _ => .obj []

/-- `record_webhook_event`. -/
def recordWebhookEvent (now : Time) (id : String) (payload : Json) (db : Store) :
    PollAnswer × Store :=
  match db.source id with
  | none => (.error "source not found", db)
  | some src =>
    if src.kind ∉ webhookKinds then (.error "source is not a webhook kind", db)
    else if !src.enabled then (.error "source disabled", db)
    else (.sampled now (objectOrEmpty payload), db.record now id (objectOrEmpty payload))

/-- `record_mqtt_message`. -/
def recordMqttMessage (now : Time) (id : String) (topic msg : String) (db : Store) :
    PollAnswer × Store :=
  match db.source id with
  | none => (.error "source missing/disabled/not mqtt", db)
  | some src =>
    if src.kind ≠ "mqtt" ∨ !src.enabled then (.error "source missing/disabled/not mqtt", db)
    else
      let payload := .obj [("topic", .str (String.ofList (topic.toList.take 400))),
        ("msg", .str (String.ofList (msg.toList.take 2000))), ("received_at", .str (strftime now))]
      (.sampled now payload, db.record now id payload)

/-- A source that the tick considers: `enabled`, and of a kind that is polled. -/
def Source.considered (src : Source) : Bool :=
  src.enabled && decide (src.kind ∉ webhookKinds ++ subscriberKinds)

/-- The interval of a source is over. -/
def Source.due (now : Time) (src : Source) : Bool :=
  match src.lastPolledAt with
  | none => true
  | some last => seconds src.pollIntervalSeconds ≤ now - last

/-- The `due_ids` of `poll_all_due`. -/
def dueIds (now : Time) (db : Store) : List String :=
  ((db.sources.filter Source.considered).filter (Source.due now)).map (·.id)

/-- `create_source`, after its checks. -/
def createSource (id kind : String) (interval : Int) (db : Store) : Store :=
  { db with sources := db.sources ++ [{
      id := id
      kind := kind
      enabled := true
      pollIntervalSeconds := interval
      lastPolledAt := none
      lastSuccessAt := none
      lastError := none }] }

/-- `set_enabled`. -/
def setEnabled (id : String) (enabled : Bool) (db : Store) : Store :=
  { db with sources := Rows.amend Source.id id ({ · with enabled := enabled }) db.sources }

/-- `delete_source`; the samples of a source go with it. -/
def deleteSource (id : String) (db : Store) : Store where
  sources := db.sources.filter (·.id ≠ id)
  samples := db.samples.filter (·.sourceId ≠ id)

/-! ### Runs -/

/-- The hub's sources, the clock, the sources that the running tick has still to poll, and the ids
that were given out. -/
structure Poller where
  db : Store
  clock : Time
  pending : List String
  issued : List String

/-- A request, or a step of the tick. -/
inductive Request where
  | create (id kind : String) (interval : Int)
  | enable (id : String) (enabled : Bool)
  | delete (id : String)
  | webhook (id : String) (payload : Json)
  | message (id topic msg : String)
  | poll (id : String) (fetched : Except String Json)
  | tick
  | pollDue (fetched : Except String Json)

/-- A poll that the tick made: of which source, when, and the interval of the source. -/
structure Polled where
  id : String
  at_ : Time
  interval : Int

namespace Poller

/-- The sources after a request. -/
def after (now : Time) (s : Poller) : Request → Store
  | .create id kind interval => createSource id kind interval s.db
  | .enable id enabled => setEnabled id enabled s.db
  | .delete id => deleteSource id s.db
  | .webhook id payload => (recordWebhookEvent now id payload s.db).2
  | .message id topic msg => (recordMqttMessage now id topic msg s.db).2
  | .poll id fetched => (pollSource now fetched id s.db).2
  | .tick => s.db
  | .pollDue fetched => match s.pending with
    | [] => s.db
    | id :: _ => (pollSource now fetched id s.db).2

/-- A step at a time. -/
def step (s : Poller) (a : Time × Request) : Poller where
  db := s.after a.1 a.2
  clock := a.1
  pending := match a.2 with
    | .tick => dueIds a.1 s.db
    | .pollDue _ => s.pending.tail
    | _ => s.pending
  issued := match a.2 with
    | .create id _ _ => id :: s.issued
    | _ => s.issued

/-- Time goes on, ids are not given out twice, and there is one tick at a time. -/
def ok (s : Poller) (a : Time × Request) : Prop :=
  s.clock ≤ a.1 ∧ match a.2 with
    | .create id _ _ => id ∉ s.issued
    | .tick => s.pending = []
    | _ => True

/-- The poll that a step of the tick makes. -/
def out (s : Poller) (a : Time × Request) : List Polled :=
  match a.2, s.pending with
  | .pollDue _, id :: _ => match s.db.source id with
    | some src =>
      if src.kind ∈ webhookKinds ++ subscriberKinds then []
      else [{ id := id, at_ := a.1, interval := src.pollIntervalSeconds }]
    | none => []
  | _, _ => []

/-- No source yet. -/
def start (now : Time) : Poller := { db := ⟨[], []⟩, clock := now, pending := [], issued := [] }

end Poller

end RebooterHub.Sources
