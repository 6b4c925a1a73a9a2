import RebooterHub.Devices.Contacts
import RebooterHub.Support.Runs

/-!
# Devices — RelayState

The relay state that the live endpoint and the devices list show, and the one last reported.

A heartbeat clears the agent's hint, with a relay state or without; the history row of one without
reads as off, and the list does not look at the hint.

* `relay_shown_iff`: both show the relay state last reported exactly when the newest heartbeat
  carries it, a heartbeat without one carrying off.
* `relay_shown_stale`: a partial heartbeat after one that reported on, and a callback after one
  that reported off.
-/

namespace RebooterHub.Devices
open Runs Sync

/-- A device that nothing has been heard of. -/
structure Unheard (d : DeviceState) : Prop where
  hint : d.row .lastKnownRelayOn = .null
  heartbeats : d.heartbeats = []

/-- The history row of a heartbeat, when the database takes it. -/
def Contact.recorded : Contact → Option DeviceHeartbeat
  | .heartbeat now payload => (booleanColumn (get payload "relay_on")).toOption.map (⟨now, ·⟩)
  | .authenticated _ | .stateConfirmed _ => none

/-- The relay state that a contact reports. -/
def Contact.reported : Contact → Option Bool
  | .heartbeat _ payload => (booleanColumn (get payload "relay_on")).toOption.join
  | .stateConfirmed body => (body.lookup "relay_on").map Json.truthy
  | .authenticated _ => none

/-- The relay state last reported. -/
def lastReported (contacts : List Contact) : Option Bool :=
  (contacts.filterMap Contact.reported).getLast?

/-- The newest heartbeat carries what was reported last, or nothing where that is off; without a
heartbeat nothing was reported. -/
structure Carried (contacts : List Contact) : Prop where
  newest : ∀ h, latestHeartbeat (contacts.filterMap Contact.recorded) = some h →
    lastReported contacts = some (h.relayOn.getD false)
  unheard : latestHeartbeat (contacts.filterMap Contact.recorded) = none →
    lastReported contacts = none

/-- What the hint and the history are after some contacts. -/
structure Tracked (contacts : List Contact) (d : DeviceState) : Prop where
  heartbeats : d.heartbeats = contacts.filterMap Contact.recorded
  hint : d.row .lastKnownRelayOn = .null ∨
    ∃ b, d.row .lastKnownRelayOn = .bool b ∧ lastReported contacts = some b

section
variable {contacts : List Contact} {c : Contact} {d : DeviceState}

theorem filterMap_snoc {β : Type} (f : Contact → Option β) :
    (contacts ++ [c]).filterMap f = contacts.filterMap f ++ (f c).toList := by
  rw [List.filterMap_append]
  cases hf : f c with
  | none => rw [List.filterMap_cons_none hf]; rfl
  | some b => rw [List.filterMap_cons_some hf]; rfl

theorem lastReported_snoc :
    lastReported (contacts ++ [c]) = c.reported.or (lastReported contacts) := by
  rw [lastReported, filterMap_snoc, List.getLast?_append]
  cases c.reported <;> rfl

/-- A contact that leaves the hint and the history alone, and reports nothing. -/
theorem Tracked.idle {d' : DeviceState} (ht : Tracked contacts d)
    (hhint : d'.row .lastKnownRelayOn = d.row .lastKnownRelayOn)
    (hheartbeats : d'.heartbeats = d.heartbeats) (hrecorded : c.recorded = none)
    (hreported : c.reported = none) : Tracked (contacts ++ [c]) d' where
  heartbeats := by
    rw [hheartbeats, ht.heartbeats, filterMap_snoc, hrecorded]
    exact (List.append_nil _).symm
  hint := by
    rw [hhint, lastReported_snoc, hreported]
    exact ht.hint

/-- **The step lemma.** -/
theorem Tracked.step (ht : Tracked contacts d) (c : Contact) :
    Tracked (contacts ++ [c]) (d.step c) := by
  cases c with
  | authenticated now => exact ht.idle rfl rfl rfl rfl
  | heartbeat now payload =>
      obtain ⟨e, hrelay, hstep⟩ | ⟨relayOn, hrelay, hstep⟩ := step_heartbeat d now payload
      · rw [hstep]
        exact ht.idle rfl rfl (by rw [Contact.recorded, hrelay]; rfl)
          (by rw [Contact.reported, hrelay]; rfl)
      · rw [hstep]
        refine ⟨?_, .inl rfl⟩
        rw [ht.heartbeats, filterMap_snoc, Contact.recorded, hrelay]
        rfl
  | stateConfirmed body =>
      obtain ⟨hrelay, hstep⟩ | ⟨relayOn, hrelay, hstep⟩ := step_stateConfirmed d body
      · rw [hstep]
        exact ht.idle rfl rfl rfl (by rw [Contact.reported, hrelay]; rfl)
      · rw [hstep]
        refine ⟨?_, .inr ⟨relayOn.truthy, rfl, ?_⟩⟩
        · rw [ht.heartbeats, filterMap_snoc]
          exact (List.append_nil _).symm
        · rw [lastReported_snoc, Contact.reported, hrelay]
          rfl

theorem Tracked.run (hd : Unheard d) (contacts : List Contact) :
    Tracked contacts (Runs.run DeviceState.step d contacts) :=
  labels_invariant contacts (fun _ _ c _ ht => ht.step c) ⟨hd.heartbeats, .inl hd.hint⟩

/-- The list shows the newest heartbeat. -/
theorem Tracked.listed_iff (ht : Tracked contacts d) :
    listedRelayOn d = lastReported contacts ↔ Carried contacts := by
  rw [listedRelayOn, ht.heartbeats]
  cases hnewest : latestHeartbeat (contacts.filterMap Contact.recorded) with
  | none =>
      constructor
      · intro hlast
        exact {
          newest := fun h hh => by
            rw [hnewest] at hh
            cases hh
          unheard := fun _ => hlast.symm }
      · exact fun hcarried => (hcarried.unheard hnewest).symm
  | some h =>
      constructor
      · intro hlast
        exact {
          newest := fun h' hh => by
            rw [hnewest] at hh
            cases hh
            exact hlast.symm
          unheard := fun hh => by
            rw [hnewest] at hh
            cases hh }
      · exact fun hcarried => (hcarried.newest h hnewest).symm

/-- The live endpoint shows the hint, or what the list shows. -/
theorem Tracked.live (ht : Tracked contacts d) (hlisted : listedRelayOn d = lastReported contacts) :
    liveRelayOn d = lastReported contacts := by
  obtain hnull | ⟨b, hb, hlast⟩ := ht.hint
  · rw [liveRelayOn, if_neg (not_not.mpr hnull)]
    exact hlisted
  · rw [liveRelayOn, if_pos (by rw [hb]; nofun), hb, hlast]
    rfl

end

/-- **The relay state shown is the last one reported**, in both views, exactly when the newest
heartbeat carries it, or carries none and it is off, or nothing was reported. -/
theorem relay_shown_iff (d : DeviceState) (contacts : List Contact) (hd : Unheard d) :
    (liveRelayOn (run DeviceState.step d contacts) = lastReported contacts ∧
      listedRelayOn (run DeviceState.step d contacts) = lastReported contacts) ↔
      Carried contacts := by
  have ht := Tracked.run hd contacts
  rw [← ht.listed_iff]
  exact ⟨And.right, fun hlisted => ⟨ht.live hlisted, hlisted⟩⟩

namespace RelayState

/-- A device without a hint. -/
def unheardDevice : DeviceState := ⟨fun _ => .null, []⟩

theorem unheard_unheardDevice : Unheard unheardDevice := ⟨rfl, rfl⟩

/-- A heartbeat that reports the relay. -/
def beat (now : Int) (relayOn : Bool) : Contact :=
  .heartbeat (seconds now) [("relay_on", .bool relayOn)]

/-- A heartbeat that does not. -/
def partialBeat (now : Int) : Contact := .heartbeat (seconds now) [("uptime_seconds", .int 60)]

/-- A callback of the agent. -/
def confirmed (relayOn : Bool) : Contact := .stateConfirmed [("relay_on", .bool relayOn)]

end RelayState

open RelayState

/-- Off, switched on by the agent, and on in the next heartbeat. -/
theorem relay_shown_confirmed :
    let d := run DeviceState.step unheardDevice [beat 0 false, confirmed true, beat 60 true]
    liveRelayOn d = some true ∧ listedRelayOn d = some true := by
  have hshown := relay_shown_iff unheardDevice [beat 0 false, confirmed true, beat 60 true]
    unheard_unheardDevice
  exact hshown.mpr ⟨by decide, by decide⟩

/-- **The relay state shown is stale** after a partial heartbeat, and in the list after a
callback. -/
theorem relay_shown_stale :
    let partially := [beat 0 true, partialBeat 60]
    let confirmedOn := [beat 0 false, confirmed true]
    (lastReported partially = some true ∧
      liveRelayOn (run DeviceState.step unheardDevice partially) = some false) ∧
    lastReported confirmedOn = some true ∧
      liveRelayOn (run DeviceState.step unheardDevice confirmedOn) = some true ∧
      listedRelayOn (run DeviceState.step unheardDevice confirmedOn) = some false := by
  decide

end RebooterHub.Devices
