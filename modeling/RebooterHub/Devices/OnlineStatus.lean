import RebooterHub.Data.Time

/-!
# Devices — OnlineStatus

The three views of the fleet that say which devices are online: the status inbox (`inbox._compute`),
the dashboard (`dashboard.stats`) and the devices list (`list_devices`, through
`_heartbeat_state_for`).

Of the inbox what it derives from the heartbeats is here: the counts and their attention items.  Of
the dashboard the counts of devices are here, of the list a device's heartbeat state.

* `online_counts_iff`: the views count alike exactly if as many devices are at the threshold, for
  the list offline, as are kept online by a contact that is no heartbeat.
-/

namespace RebooterHub.Devices

/-- The columns of a device that the views read. -/
structure DeviceRow where
  id : String
  displayName : String
  registrationState : String
  isQaFixture : Bool
  createdAt : Time
  lastHeartbeatAt : Option Time
  lastSeenAt : Option Time
deriving DecidableEq

/-! ### The inbox -/

/-- An item of the attention feed. -/
structure AttentionItem where
  kind : String
  id : String
  severity : String
  title : String
  deviceId : String
  deviceName : String
  since : String
  hint : Option String
  rank : Nat
deriving DecidableEq

/-- An item about a device. -/
def attentionItem (kind severity title : String) (hint : Option String) (rank : Nat)
    (d : DeviceRow) (since : Time) : AttentionItem where
  kind := kind
  id := kind ++ ":" ++ d.id
  severity := severity
  title := title
  deviceId := d.id
  deviceName := if d.displayName = "" then d.id else d.displayName
  since := strftime since
  hint := hint
  rank := rank

/-- The item of a device that enrolled within the hour. -/
def enrollmentPending (d : DeviceRow) : AttentionItem :=
  attentionItem "enrollment_pending" "info" "Newly enrolled — waiting for first heartbeat" none 30
    d d.createdAt

/-- The item of a device that has been silent since it enrolled. -/
def deviceNever (d : DeviceRow) : AttentionItem :=
  attentionItem "device_never" "warn" "Never heartbeated since enrolment"
    (some "Check the firmware: device powered? Wi-Fi joined? `central_base_url` correct?") 50
    d d.createdAt

/-- The item of a device without a heartbeat for a day. -/
def deviceOfflineLong (d : DeviceRow) (hb : Time) : AttentionItem :=
  attentionItem "device_offline_long" "warn" "Offline > 24 h" none 60 d hb

/-- The item of a device without a heartbeat for three minutes. -/
def deviceOfflineShort (d : DeviceRow) (hb : Time) : AttentionItem :=
  attentionItem "device_offline_short" "warn" "Offline > 3 min" none 40 d hb

/-- What the inbox has counted, and its feed. -/
structure Inbox where
  devicesTotal : Nat
  devicesOnline : Nat
  devicesOfflineShort : Nat
  devicesOfflineLong : Nat
  devicesNever : Nat
  enrollmentsPending : Nat
  attention : List AttentionItem

/-- `SHORT_OFFLINE_SECONDS`. -/
def shortOfflineSeconds : Int := 180

/-- `LONG_OFFLINE_SECONDS`. -/
def longOfflineSeconds : Int := 86400

/-- `NEVER_HEARTBEATED_GRACE_SECONDS`. -/
def neverHeartbeatedGraceSeconds : Int := 1800

/-- `ENROLLMENT_PENDING_WINDOW_SECONDS`. -/
def enrollmentPendingWindowSeconds : Int := 3600

/-- The inbox after a device. -/
def Inbox.add (now : Time) (b : Inbox) (d : DeviceRow) : Inbox :=
  let b := { b with devicesTotal := b.devicesTotal + 1 }
  match d.lastHeartbeatAt with
  | none =>
    if now - seconds enrollmentPendingWindowSeconds ≤ d.createdAt then
      { b with enrollmentsPending := b.enrollmentsPending + 1,
               attention := b.attention ++ [enrollmentPending d] }
    else if d.createdAt < now - seconds neverHeartbeatedGraceSeconds then
      { b with devicesNever := b.devicesNever + 1, attention := b.attention ++ [deviceNever d] }
    else b
  | some hb =>
    if hb < now - seconds longOfflineSeconds then
      { b with devicesOfflineLong := b.devicesOfflineLong + 1,
               attention := b.attention ++ [deviceOfflineLong d hb] }
    else if hb < now - seconds shortOfflineSeconds then
      { b with devicesOfflineShort := b.devicesOfflineShort + 1,
               attention := b.attention ++ [deviceOfflineShort d hb] }
    else { b with devicesOnline := b.devicesOnline + 1 }

/-- What `_compute` derives from the heartbeats. -/
def inbox (now : Time) (devices : List DeviceRow) : Inbox :=
  (devices.filter fun d => !d.isQaFixture).foldl (Inbox.add now) ⟨0, 0, 0, 0, 0, 0, []⟩

/-! ### The dashboard -/

/-- The counts of devices in `stats`. -/
structure DashboardStats where
  devicesTotal : Nat
  devicesOnline : Nat
  devicesOffline : Nat
  devicesOfflineWithHistory : Nat
  devicesNeverHeartbeated : Nat
  devicesActive : Nat

/-- `stats`, with its default threshold. -/
def stats (now : Time) (devices : List DeviceRow) : DashboardStats :=
  let total := devices.length
  let online := devices.countP fun d => d.lastHeartbeatAt.any (now - seconds 180 ≤ ·)
  let never := devices.countP fun d => d.lastHeartbeatAt.isNone
  { devicesTotal := total
    devicesOnline := online
    devicesOffline := total - online
    devicesOfflineWithHistory := total - online - never
    devicesNeverHeartbeated := never
    devicesActive := devices.countP fun d => d.registrationState = "active" }

/-! ### The devices list -/

/-- `effective_last_contact`. -/
def effectiveLastContact : Option Time → Option Time → Option Time
  | some hb, some seen => some (max hb seen)
  | some hb, none => some hb
  | none, some seen => some seen
  | none, none => none

/-- `_heartbeat_state_for`. -/
def heartbeatStateFor (now : Time) (offlineThresholdSeconds : Int)
    (lastHeartbeatAt lastSeenAt : Option Time) : String :=
  match effectiveLastContact lastHeartbeatAt lastSeenAt with
  | none => "never"
  | some lastContact =>
    if now - lastContact < seconds offlineThresholdSeconds then "online" else "offline"

/-- A device of the list with its heartbeat state. -/
structure ListedDevice where
  id : String
  heartbeatState : String
  online : Bool

/-- `list_devices`, unfiltered and with its default threshold. -/
def listDevices (now : Time) (devices : List DeviceRow) : List ListedDevice :=
  devices.map fun d =>
    let state := heartbeatStateFor now 180 d.lastHeartbeatAt d.lastSeenAt
    { id := d.id, heartbeatState := state, online := state = "online" }

/-! ### What each view counts -/

/-- The last heartbeat is recent. -/
def HasHeartbeat (now : Time) (d : DeviceRow) : Prop :=
  ∃ hb, d.lastHeartbeatAt = some hb ∧ now - seconds 180 ≤ hb

/-- The last contact is recent. -/
def HasContact (now : Time) (d : DeviceRow) : Prop :=
  ∃ t, effectiveLastContact d.lastHeartbeatAt d.lastSeenAt = some t ∧ now - seconds 180 < t

instance (now : Time) (d : DeviceRow) : Decidable (HasHeartbeat now d) :=
  decidable_of_iff (d.lastHeartbeatAt.any (now - seconds 180 ≤ ·) = true) (by
    simp [HasHeartbeat, Option.any_eq_true])

instance (now : Time) (d : DeviceRow) : Decidable (HasContact now d) :=
  decidable_of_iff ((effectiveLastContact d.lastHeartbeatAt d.lastSeenAt).any
    (now - seconds 180 < ·) = true) (by simp [HasContact, Option.any_eq_true])

/-- The last heartbeat is exactly at the threshold, and no contact is later. -/
def AtThreshold (now : Time) (d : DeviceRow) : Prop :=
  d.lastHeartbeatAt = some (now - seconds 180) ∧ ∀ seen ∈ d.lastSeenAt, seen ≤ now - seconds 180

/-- A contact is recent and no heartbeat is. -/
def SeenOnly (now : Time) (d : DeviceRow) : Prop :=
  (∃ seen ∈ d.lastSeenAt, now - seconds 180 < seen) ∧
    ∀ hb ∈ d.lastHeartbeatAt, hb < now - seconds 180

instance (now : Time) (d : DeviceRow) : Decidable (AtThreshold now d) :=
  inferInstanceAs (Decidable (_ ∧ _))

instance (now : Time) (d : DeviceRow) : Decidable (SeenOnly now d) :=
  inferInstanceAs (Decidable (_ ∧ _))

section
variable (now : Time) (devices : List DeviceRow)

theorem online_add (b : Inbox) (d : DeviceRow) :
    (b.add now d).devicesOnline =
      b.devicesOnline + if HasHeartbeat now d then 1 else 0 := by
  cases hhb : d.lastHeartbeatAt with
  | none =>
      have hnot : ¬ HasHeartbeat now d := by simp [HasHeartbeat, hhb]
      rw [if_neg hnot, Inbox.add, hhb]
      dsimp only
      split
      · rfl
      · split <;> rfl
  | some hb =>
      have hiff : HasHeartbeat now d ↔ now - seconds 180 ≤ hb := by simp [HasHeartbeat, hhb]
      have hlong : now - seconds longOfflineSeconds ≤ now - seconds 180 := by
        simp only [seconds, longOfflineSeconds, Time]
        omega
      rw [Inbox.add, hhb]
      simp only [hiff]
      split
      · next hold =>
          have hnot : ¬ now - seconds 180 ≤ hb := Int.not_le.2 (Int.lt_of_lt_of_le hold hlong)
          rw [if_neg hnot]
          rfl
      · split
        · next hstale =>
            have hnot : ¬ now - seconds 180 ≤ hb := Int.not_le.2 hstale
            rw [if_neg hnot]
            rfl
        · next hfresh =>
            have hyes : now - seconds 180 ≤ hb := Int.not_lt.1 hfresh
            rw [if_pos hyes]

theorem online_foldl (b : Inbox) :
    (devices.foldl (Inbox.add now) b).devicesOnline =
      b.devicesOnline + devices.countP (HasHeartbeat now ·) := by
  induction devices generalizing b with
  | nil => rfl
  | cons d rest ih =>
      rw [List.foldl_cons, ih, online_add, List.countP_cons]
      simp only [decide_eq_true_eq]
      omega

theorem online_inbox (hfixtures : ∀ d ∈ devices, d.isQaFixture = false) :
    (inbox now devices).devicesOnline = devices.countP (HasHeartbeat now ·) := by
  have hall : (devices.filter fun d => !d.isQaFixture) = devices :=
    List.filter_eq_self.2 fun d hd => by simp [hfixtures d hd]
  rw [inbox, hall, online_foldl, Nat.zero_add]

theorem online_stats :
    (stats now devices).devicesOnline = devices.countP (HasHeartbeat now ·) := by
  refine List.countP_congr fun d _ => ?_
  rw [decide_eq_true_eq]
  simp [HasHeartbeat, Option.any_eq_true]

theorem online_heartbeatStateFor (d : DeviceRow) :
    heartbeatStateFor now 180 d.lastHeartbeatAt d.lastSeenAt = "online" ↔ HasContact now d := by
  unfold heartbeatStateFor HasContact
  cases effectiveLastContact d.lastHeartbeatAt d.lastSeenAt with
  | none => simp
  | some t =>
      have hlt : now - t < seconds 180 ↔ now - seconds 180 < t := by
        simp only [seconds, Time]
        omega
      simp [hlt]

theorem online_listDevices :
    (listDevices now devices).countP (·.online) = devices.countP (HasContact now ·) := by
  rw [listDevices, List.countP_map]
  refine List.countP_congr fun d _ => ?_
  simp [online_heartbeatStateFor]

/-! ### Where the counts part -/

theorem atThreshold_iff (d : DeviceRow) :
    AtThreshold now d ↔ HasHeartbeat now d ∧ ¬ HasContact now d := by
  unfold AtThreshold HasHeartbeat HasContact
  cases d.lastHeartbeatAt <;> cases d.lastSeenAt <;>
    simp [effectiveLastContact, seconds, Time] <;> omega

theorem seenOnly_iff (d : DeviceRow) :
    SeenOnly now d ↔ HasContact now d ∧ ¬ HasHeartbeat now d := by
  unfold SeenOnly HasHeartbeat HasContact
  cases d.lastHeartbeatAt <;> cases d.lastSeenAt <;>
    simp [effectiveLastContact, seconds, Time] <;> omega

end

theorem countP_split {α : Type} (p q : α → Prop) [DecidablePred p] [DecidablePred q]
    (l : List α) :
    l.countP (p ·) = l.countP (fun a => p a ∧ q a) + l.countP (fun a => p a ∧ ¬ q a) := by
  induction l with
  | nil => rfl
  | cons a l ih =>
      simp only [List.countP_cons, ih, decide_eq_true_eq]
      by_cases hp : p a <;> by_cases hq : q a <;> simp [hp, hq] <;> omega

/-- Two counts agree exactly if as many are counted by the first alone as by the second alone. -/
theorem countP_eq_iff {α : Type} (p q : α → Prop) [DecidablePred p] [DecidablePred q]
    (l : List α) :
    l.countP (p ·) = l.countP (q ·) ↔
      l.countP (fun a => p a ∧ ¬ q a) = l.countP (fun a => q a ∧ ¬ p a) := by
  have hboth : l.countP (fun a => p a ∧ q a) = l.countP (fun a => q a ∧ p a) :=
    List.countP_congr fun a _ => by simp [and_comm]
  rw [countP_split p q, countP_split q p, hboth, Nat.add_left_cancel_iff]

/-- The inbox, the dashboard and the list count the same devices online exactly if as many devices
have a heartbeat exactly as old as the threshold, and no later contact, as have a recent contact
and no recent heartbeat. -/
theorem online_counts_iff (now : Time) (devices : List DeviceRow)
    (hfixtures : ∀ d ∈ devices, d.isQaFixture = false) :
    ((inbox now devices).devicesOnline = (stats now devices).devicesOnline ∧
        (stats now devices).devicesOnline = (listDevices now devices).countP (·.online)) ↔
      devices.countP (AtThreshold now ·) = devices.countP (SeenOnly now ·) := by
  have hinbox : (inbox now devices).devicesOnline = (stats now devices).devicesOnline := by
    rw [online_inbox now devices hfixtures, online_stats]
  have hlist : (stats now devices).devicesOnline = (listDevices now devices).countP (·.online) ↔
      devices.countP (HasHeartbeat now ·) = devices.countP (HasContact now ·) := by
    rw [online_stats, online_listDevices]
  have hthreshold : devices.countP (AtThreshold now ·) =
      devices.countP fun d => HasHeartbeat now d ∧ ¬ HasContact now d :=
    List.countP_congr fun d _ => by simp [atThreshold_iff]
  have hseen : devices.countP (SeenOnly now ·) =
      devices.countP fun d => HasContact now d ∧ ¬ HasHeartbeat now d :=
    List.countP_congr fun d _ => by simp [seenOnly_iff]
  rw [hthreshold, hseen, ← countP_eq_iff, ← hlist]
  exact and_iff_right hinbox

/-- A device that polls for commands between two heartbeats. -/
def polling : DeviceRow where
  id := "d1"
  displayName := "Porch"
  registrationState := "active"
  isQaFixture := false
  createdAt := seconds 0
  lastHeartbeatAt := some (seconds 5000)
  lastSeenAt := some (seconds 5500)

/-- With a heartbeat a minute ago all three views count it. -/
theorem online_counts_fresh :
    (inbox (seconds 5060) [polling]).devicesOnline = (stats (seconds 5060) [polling]).devicesOnline ∧
      (stats (seconds 5060) [polling]).devicesOnline =
        (listDevices (seconds 5060) [polling]).countP (·.online) :=
  (online_counts_iff (seconds 5060) [polling] (by decide)).2 (by decide)

/-- Ten minutes after its heartbeat only the list counts it. -/
theorem polling_counts_differ :
    (∀ d ∈ [polling], d.isQaFixture = false) ∧ (inbox (seconds 5600) [polling]).devicesOnline = 0 ∧
      (stats (seconds 5600) [polling]).devicesOnline = 0 ∧
      (listDevices (seconds 5600) [polling]).countP (·.online) = 1 := by
  decide

end RebooterHub.Devices
