import RebooterHub.Sync.Applier

/-!
# Devices — Contacts

What a device's contacts write to its row and its history: an authenticated request
(`_resolve_device`), a heartbeat (`record_heartbeat`) and the relay agent's callback
(`services_state_confirmed`).  Each has a transaction of its own.

Of a heartbeat's history row the columns are here that the views of the relay state choose by and
read.  A heartbeat that the database refuses leaves everything as it was.
-/

namespace RebooterHub.Devices
open Sync

/-- The members of a JSON object. -/
abbrev Members := List (String × Json)

/-- `payload.get(key)`. -/
def get (payload : Members) (key : String) : Json := (payload.lookup key).getD .null

/-- What a `Boolean` column stores for a value that is bound to it. -/
def booleanColumn : Json → Except PyError (Option Bool)
  | .null => .ok none
  | .bool b => .ok (some b)
  | .int n =>
    if n = 0 then .ok (some false) else if n = 1 then .ok (some true) else .error .valueError
  | .float q =>
    if q = 0 then .ok (some false) else if q = 1 then .ok (some true) else .error .typeError
  | .str _ | .arr _ | .obj _ => .error .typeError

/-- A row of `device_heartbeats`. -/
structure DeviceHeartbeat where
  receivedAt : Time
  relayOn : Option Bool
deriving DecidableEq, Repr

/-- A device: its row, and its heartbeats in the order of their ids. -/
structure DeviceState where
  row : Row
  heartbeats : List DeviceHeartbeat

/-- A contact that changes the device. -/
inductive Contact where
  /-- A request with the device's token. -/
  | authenticated (now : Time)
  | heartbeat (now : Time) (payload : Members)
  | stateConfirmed (body : Members)

/-- `_DEVICE_HOT_FIELDS`, under the columns that mirror them. -/
def deviceHotFields : List (Column × String) :=
  [(.reportedRecoveryMode, "recovery_mode"),
    (.reportedAutoRecoveryTriggered, "auto_recovery_triggered"),
    (.reportedLastKnownGoodRestored, "last_known_good_restored"),
    (.reportedConsecutiveUnhealthyBoots, "consecutive_unhealthy_boots"),
    (.reportedInCaptivePortal, "in_captive_portal"),
    (.reportedCentralEnabled, "central_enabled"),
    (.reportedCentralRegistered, "central_registered"),
    (.reportedCentralState, "central_state")]

/-- The columns that `_resolve_device` sets. -/
def contactChanges (now : Time) : Payload
  | .lastSeenAt => some (.datetime now)
  | _ => none

/-- The scan that lands: a list, and not an empty one. -/
def wifiScan (payload : Members) : Option Json :=
  match get payload "wifi_scan" with
  | .arr (x :: xs) => some (.arr (x :: xs))
  | _ => none

/-- The columns that `record_heartbeat` sets. -/
def heartbeatChanges (now : Time) (payload : Members) : Payload
  | .lastHeartbeatAt | .lastSeenAt => some (.datetime now)
  | .lastKnownRelayOn => some .null
  | .firmwareVersion =>
    let version := get payload "firmware_version"
    if version.truthy then some (.json version) else none
  | .localIp =>
    let ip := get payload "local_ip"
    if ip.truthy then some (.json ip) else none
  | .lastWifiScan => (wifiScan payload).map .json
  | .lastWifiScanAt => (wifiScan payload).map fun _ => .datetime now
  | .lastReportedConfig =>
    match get payload "reported_config" with
    | .obj ms => some (.json (.obj ms))
    | _ => none
  | c => (deviceHotFields.lookup c).bind fun field => (payload.lookup field).map .json

/-- The columns that `services_state_confirmed` sets. -/
def confirmedChanges (relayOn : Bool) : Payload
  | .lastKnownRelayOn => some (.bool relayOn)
  | _ => none

/-- `record_heartbeat`. -/
def recordHeartbeat (d : DeviceState) (now : Time) (payload : Members) :
    Except PyError DeviceState := do
  let relayOn ← booleanColumn (get payload "relay_on")
  return {
    row := updatedRow d.row (heartbeatChanges now payload)
    heartbeats := d.heartbeats ++ [⟨now, relayOn⟩] }

/-- `services_state_confirmed`; without `relay_on` it answers 400. -/
def servicesStateConfirmed (d : DeviceState) (body : Members) : DeviceState :=
  match body.lookup "relay_on" with
  | some relayOn => { d with row := updatedRow d.row (confirmedChanges relayOn.truthy) }
  | none => d

/-- A contact. -/
def DeviceState.step (d : DeviceState) : Contact → DeviceState
  | .authenticated now => { d with row := updatedRow d.row (contactChanges now) }
  | .heartbeat now payload =>
    match recordHeartbeat d now payload with
    | .ok d' => d'
    | .error _ => d
  | .stateConfirmed body => servicesStateConfirmed d body

/-- `_latest_heartbeat_by_device`: of the heartbeats with the latest time, the first. -/
def latestHeartbeat (heartbeats : List DeviceHeartbeat) : Option DeviceHeartbeat :=
  heartbeats.find? fun h => heartbeats.all fun h' => h'.receivedAt ≤ h.receivedAt

/-- `latest_relay_on` in `list_devices`. -/
def listedRelayOn (d : DeviceState) : Option Bool :=
  (latestHeartbeat d.heartbeats).map fun h => h.relayOn.getD false

/-- `latest_relay_on` in `devices_live`. -/
def liveRelayOn (d : DeviceState) : Option Bool :=
  if d.row .lastKnownRelayOn ≠ .null then some (d.row .lastKnownRelayOn).truthy
  else (latestHeartbeat d.heartbeats).map fun h => h.relayOn.getD false

/-! ### What a contact changes -/

section
variable (d : DeviceState) (now : Time) (payload body : Members)

/-- A heartbeat is refused, or recorded. -/
theorem step_heartbeat :
    (∃ e, booleanColumn (get payload "relay_on") = .error e ∧
        d.step (.heartbeat now payload) = d) ∨
      ∃ relayOn, booleanColumn (get payload "relay_on") = .ok relayOn ∧
        d.step (.heartbeat now payload) =
          ⟨updatedRow d.row (heartbeatChanges now payload), d.heartbeats ++ [⟨now, relayOn⟩]⟩ := by
  cases hrelay : booleanColumn (get payload "relay_on") with
  | error e => exact .inl ⟨e, rfl, by rw [DeviceState.step, recordHeartbeat, hrelay]; rfl⟩
  | ok relayOn => exact .inr ⟨relayOn, rfl, by rw [DeviceState.step, recordHeartbeat, hrelay]; rfl⟩

/-- A callback without a relay state changes nothing. -/
theorem step_stateConfirmed :
    (body.lookup "relay_on" = none ∧ d.step (.stateConfirmed body) = d) ∨
      ∃ relayOn, body.lookup "relay_on" = some relayOn ∧ d.step (.stateConfirmed body) =
        ⟨updatedRow d.row (confirmedChanges relayOn.truthy), d.heartbeats⟩ := by
  cases hrelay : body.lookup "relay_on" with
  | none => exact .inl ⟨rfl, by rw [DeviceState.step, servicesStateConfirmed, hrelay]⟩
  | some relayOn =>
      exact .inr ⟨relayOn, rfl, by rw [DeviceState.step, servicesStateConfirmed, hrelay]⟩

end

end RebooterHub.Devices
