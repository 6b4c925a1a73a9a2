import RebooterHub.Devices.Contacts
import RebooterHub.Sync.Emission

/-!
# Devices — Replication

Which contacts of a device are sent to the peer hubs.

A contact changes telemetry only.  The list of columns that are not emitted lacks four that a
contact changes: the last contact, the relay agent's hint, and the Wi-Fi scan with its time.

* `contact_emission_iff`: a contact is not emitted exactly when it leaves these four alone, and an
  update that changes a configuration column is emitted once.
* `contact_emitted`: each kind of contact is.
-/

namespace RebooterHub.Devices
open Sync

/-- The columns of a device that its contacts report. -/
def telemetryColumns : List Column :=
  [.updatedAt, .lastHeartbeatAt, .lastSeenAt, .lastKnownRelayOn, .firmwareVersion, .localIp,
    .lastReportedConfig, .lastWifiScan, .lastWifiScanAt, .reportedRecoveryMode,
    .reportedAutoRecoveryTriggered, .reportedLastKnownGoodRestored,
    .reportedConsecutiveUnhealthyBoots, .reportedInCaptivePortal, .reportedCentralEnabled,
    .reportedCentralRegistered, .reportedCentralState]

/-- Those of them that are emitted. -/
def emittedTelemetry : List Column :=
  [.lastSeenAt, .lastKnownRelayOn, .lastWifiScan, .lastWifiScanAt]

/-- An update changes telemetry only. -/
def TelemetryOnly (row row' : Row) : Prop := ∀ c, row' c ≠ row c → c ∈ telemetryColumns

/-- An update changes a column of the configuration. -/
def ConfigurationChanged (row row' : Row) : Prop :=
  ∃ c ∈ Model.device.columns, c ∉ telemetryColumns ∧ row' c ≠ row c

/-- Telemetry is not emitted, and a change of the configuration once. -/
structure Disciplined (h : Hub) (now : Time) (id : String) (row row' : Row) : Prop where
  telemetry : TelemetryOnly row row' → afterUpdate h now .device id row row' = []
  configuration : ConfigurationChanged row row' →
    (afterUpdate h now .device id row row').length = 1

/-- A contact sets the four columns to what they are. -/
def Unmoved (row : Row) : Contact → Prop
  | .authenticated now => row .lastSeenAt = .datetime now
  | .heartbeat now payload =>
    (booleanColumn (get payload "relay_on")).isOk →
      row .lastSeenAt = .datetime now ∧ row .lastKnownRelayOn = .null ∧
        ∀ scan, wifiScan payload = some scan →
          row .lastWifiScan = .json scan ∧ row .lastWifiScanAt = .datetime now
  | .stateConfirmed body =>
    ∀ relayOn, body.lookup "relay_on" = some relayOn → row .lastKnownRelayOn = .bool relayOn.truthy

section
variable {h : Hub} {now : Time} {id : String} {row row' : Row}

/-- What is telemetry and not among the four is on the list. -/
theorem nonEmitting_of_telemetry {c : Column} (hc : c ∈ telemetryColumns)
    (hnot : c ∉ emittedTelemetry) : c ∈ Model.device.nonEmittingColumns := by
  revert hc hnot
  cases c <;> decide

theorem emitted_of_mem {c : Column} (hc : c ∈ emittedTelemetry) :
    c ∈ Model.device.columns ∧ c ∉ Model.device.nonEmittingColumns ∧ c ∈ telemetryColumns := by
  revert hc
  cases c <;> decide

theorem telemetry_of_nonEmitting {c : Column} (hc : c ∈ Model.device.nonEmittingColumns) :
    c ∈ telemetryColumns := by
  revert hc
  cases c <;> decide

/-- A change of the configuration is emitted once. -/
theorem emitted_once (hconfig : ConfigurationChanged row row') :
    (afterUpdate h now .device id row row').length = 1 := by
  obtain ⟨c, hc, hnot, hne⟩ := hconfig
  have hchange : EmittedChange .device row row' := ⟨c, hc, mt telemetry_of_nonEmitting hnot, hne⟩
  rw [afterUpdate, if_pos hchange]
  rfl

/-- An update of telemetry is not emitted exactly when it leaves the four columns alone. -/
theorem silent_iff (honly : TelemetryOnly row row') :
    afterUpdate h now .device id row row' = [] ↔ ∀ c ∈ emittedTelemetry, row' c = row c := by
  have hsilent : afterUpdate h now .device id row row' = [] ↔ ¬ EmittedChange .device row row' := by
    rw [afterUpdate]
    split
    · exact ⟨nofun, fun hno => absurd ‹_› hno⟩
    · exact ⟨fun _ => ‹_›, fun _ => rfl⟩
  rw [hsilent]
  constructor
  · intro hno c hc
    obtain ⟨hcolumn, hemitted, -⟩ := emitted_of_mem hc
    by_contra hne
    exact hno ⟨c, hcolumn, hemitted, hne⟩
  · rintro hsame ⟨c, -, hemitted, hne⟩
    refine hne (hsame c ?_)
    by_contra hnot
    exact hemitted (nonEmitting_of_telemetry (honly c hne) hnot)

theorem disciplined_iff (honly : TelemetryOnly row row') :
    Disciplined h now id row row' ↔ ∀ c ∈ emittedTelemetry, row' c = row c := by
  rw [← silent_iff honly]
  exact ⟨fun hd => hd.telemetry honly, fun hsilent => ⟨fun _ => hsilent, emitted_once⟩⟩

/-! ### The contacts -/

/-- An update that sets telemetry only changes telemetry only. -/
theorem telemetryOnly_updatedRow {changes : Payload}
    (hchanges : ∀ c, c ∉ telemetryColumns → changes c = none) :
    TelemetryOnly row (updatedRow row changes) := by
  intro c hne
  by_contra hnot
  refine hne ?_
  rw [updatedRow, hchanges c hnot]
  split <;> rfl

/-- A contact changes telemetry only. -/
theorem telemetryOnly_step (d : DeviceState) (c : Contact) :
    TelemetryOnly d.row (d.step c).row := by
  have hself : TelemetryOnly d.row d.row := fun _ hne => absurd rfl hne
  cases c with
  | authenticated now =>
      refine telemetryOnly_updatedRow fun c hc => ?_
      cases c <;> first | rfl | exact absurd (by decide) hc
  | heartbeat now payload =>
      obtain ⟨_, -, hstep⟩ | ⟨_, -, hstep⟩ := step_heartbeat d now payload
      · rw [hstep]
        exact hself
      · rw [hstep]
        refine telemetryOnly_updatedRow fun c hc => ?_
        cases c <;> first | rfl | exact absurd (by decide) hc
  | stateConfirmed body =>
      obtain ⟨-, hstep⟩ | ⟨_, -, hstep⟩ := step_stateConfirmed d body
      · rw [hstep]
        exact hself
      · rw [hstep]
        refine telemetryOnly_updatedRow fun c hc => ?_
        cases c <;> first | rfl | exact absurd (by decide) hc

theorem forall_emittedTelemetry {P : Column → Prop} : (∀ c ∈ emittedTelemetry, P c) ↔
    P .lastSeenAt ∧ P .lastKnownRelayOn ∧ P .lastWifiScan ∧ P .lastWifiScanAt := by
  simp [emittedTelemetry]

/-- The four columns after a contact are as before exactly when it sets them to that. -/
theorem unmoved_iff (d : DeviceState) (c : Contact) :
    (∀ col ∈ emittedTelemetry, (d.step c).row col = d.row col) ↔ Unmoved d.row c := by
  cases c with
  | authenticated now =>
      simp [emittedTelemetry, Unmoved, DeviceState.step, updatedRow, contactChanges, eq_comm]
  | heartbeat now payload =>
      obtain ⟨e, hrelay, hstep⟩ | ⟨relayOn, hrelay, hstep⟩ := step_heartbeat d now payload
      · simp [hstep, Unmoved, hrelay, Except.isOk, Except.toBool]
      · have hscan : updatedRow d.row (heartbeatChanges now payload) .lastWifiScan =
            ((wifiScan payload).map Value.json).getD (d.row .lastWifiScan) := rfl
        have hat : updatedRow d.row (heartbeatChanges now payload) .lastWifiScanAt =
            ((wifiScan payload).map fun _ => .datetime now).getD (d.row .lastWifiScanAt) := rfl
        rw [hstep, forall_emittedTelemetry]
        dsimp only
        rw [hscan, hat, Unmoved, hrelay]
        constructor
        · rintro ⟨hseen, hhint, hsame, hsameAt⟩ -
          refine ⟨hseen.symm, hhint.symm, fun scan hlands => ?_⟩
          rw [hlands] at hsame hsameAt
          exact ⟨hsame.symm, hsameAt.symm⟩
        · intro hunmoved
          obtain ⟨hseen, hhint, hlands⟩ := hunmoved rfl
          refine ⟨hseen.symm, hhint.symm, ?_⟩
          cases hscanned : wifiScan payload with
          | none => exact ⟨rfl, rfl⟩
          | some scan => exact ⟨(hlands scan hscanned).1.symm, (hlands scan hscanned).2.symm⟩
  | stateConfirmed body =>
      obtain ⟨hrelay, hstep⟩ | ⟨relayOn, hrelay, hstep⟩ := step_stateConfirmed d body
      · simp [hstep, Unmoved, hrelay]
      · simp [hstep, Unmoved, hrelay, emittedTelemetry, updatedRow, confirmedChanges, eq_comm]

end

/-- **Telemetry is not emitted**, for a contact, exactly when the contact sets the last contact,
the agent's hint and the scan to what they are; and an update that changes a column of the
configuration is emitted once. -/
theorem contact_emission_iff (h : Hub) (now : Time) (id : String) (d : DeviceState) (c : Contact) :
    (Disciplined h now id d.row (d.step c).row ↔ Unmoved d.row c) ∧
      ∀ row row', ConfigurationChanged row row' →
        (afterUpdate h now .device id row row').length = 1 :=
  ⟨(disciplined_iff (telemetryOnly_step d c)).trans (unmoved_iff d c), fun _ _ => emitted_once⟩

namespace Replication

/-- A device that was switched on by the relay agent, last seen at 0. -/
def switchedOn : DeviceState :=
  ⟨Function.update (Function.update (fun _ => .null) .lastSeenAt (.datetime 0))
    .lastKnownRelayOn (.bool true), []⟩

/-- The events of a contact. -/
def emittedBy (c : Contact) : List OutboxEvent :=
  afterUpdate (Hub.empty [] false) (seconds 60) .device "dev_1" switchedOn.row
    (switchedOn.step c).row

end Replication

open Replication

/-- **Contacts are sent to the peers**: a poll a minute later, a heartbeat, and a callback of the
agent that switches the device off. -/
theorem contact_emitted :
    (emittedBy (.authenticated (seconds 60))).length = 1 ∧
      (emittedBy (.heartbeat (seconds 60) [("relay_on", .bool true)])).length = 1 ∧
      (emittedBy (.stateConfirmed [("relay_on", .bool false)])).length = 1 ∧
      TelemetryOnly switchedOn.row (switchedOn.step (.authenticated (seconds 60))).row ∧
      TelemetryOnly switchedOn.row
        (switchedOn.step (.heartbeat (seconds 60) [("relay_on", .bool true)])).row ∧
      TelemetryOnly switchedOn.row
        (switchedOn.step (.stateConfirmed [("relay_on", .bool false)])).row := by
  refine ⟨?_, ?_, ?_, telemetryOnly_step _ _, telemetryOnly_step _ _, telemetryOnly_step _ _⟩ <;>
  · rw [emittedBy, afterUpdate, if_pos (by decide)]
    rfl

end RebooterHub.Devices
