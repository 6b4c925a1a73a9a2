import RebooterHub.Data.Json
import RebooterHub.Data.Time
import RebooterHub.Support.Runs
import Mathlib.Data.List.Induction
import Mathlib.Data.Int.Order.Basic

/-!
# Devices — Reboots

The reboot detection of `record_heartbeat`.  A heartbeat may carry the uptime of the device or leave
it out; its history row keeps what it carried.

* `detects_iff`: a heartbeat tells a reboot exactly when its uptime is lower than the one reported
  last, unless the newest heartbeat before it carried none.
* `reboots_detected_iff`: the same over every sequence of heartbeats.
* `lastUptime_of_increasing`: where the clock only goes forward, the one reported last is the last
  in the sequence.
-/

namespace RebooterHub.Devices
open RebooterHub.Runs

/-- What `record_heartbeat` reads of a heartbeat to detect a reboot: its clock, and the payload's
fields. -/
structure Heartbeat where
  now : Time
  uptimeSeconds : Option Int
  resetReason : Option String
  lastPlannedRestartReason : Option String
deriving DecidableEq, Repr

/-- A row of `device_heartbeats`, of the columns that the prior uptime is read from. -/
structure UptimeRow where
  receivedAt : Time
  uptimeSeconds : Option Int
deriving DecidableEq, Repr

/-- A row of `device_events`. -/
structure DeviceEvent where
  type : String
  timestamp : Time
  receivedAt : Time
  message : String
  details : Json
deriving DecidableEq, Repr

/-- The history of a device: its heartbeats in the order of their ids, and its events. -/
structure UptimeHistory where
  rows : List UptimeRow
  events : List DeviceEvent
deriving DecidableEq, Repr

/-- `ORDER BY received_at DESC LIMIT 1`: of the rows with the latest time, the first. -/
def newestRow (rows : List UptimeRow) : Option UptimeRow :=
  rows.find? fun row => rows.all fun other => other.receivedAt ≤ row.receivedAt

/-- `prior_uptime`. -/
def priorUptime (rows : List UptimeRow) : Option Int := (newestRow rows).bind (·.uptimeSeconds)

/-- A text of the payload, or what stands for a missing or an empty one. -/
def textOr (text : Option String) (fallback : String) : String :=
  (text.filter (· ≠ "")).getD fallback

/-- The event of a reboot. -/
def rebootedEvent (h : Heartbeat) (priorUptime newUptime : Int) : DeviceEvent :=
  let resetReason := textOr h.resetReason "unknown"
  let planned := textOr h.lastPlannedRestartReason ""
  { type := "device.rebooted"
    timestamp := h.now
    receivedAt := h.now
    message := "Device rebooted: prior uptime " ++ toString priorUptime ++ "s, now " ++
      toString newUptime ++ "s, reset_reason=" ++ resetReason ++
      if planned = "" then "" else ", planned_reason=" ++ planned
    details := .obj [("prior_uptime_seconds", .int priorUptime),
      ("new_uptime_seconds", .int newUptime), ("reset_reason", .str resetReason),
      ("last_planned_restart_reason", .str planned)] }

/-- The events that the reboot detection adds at a heartbeat. -/
def detectReboot (rows : List UptimeRow) (h : Heartbeat) : List DeviceEvent :=
  match priorUptime rows, h.uptimeSeconds with
  | some prior, some new => if new < prior then [rebootedEvent h prior new] else []
  | _, _ => []

/-- `record_heartbeat`, of its history row and the reboot detection. -/
def UptimeHistory.record (s : UptimeHistory) (h : Heartbeat) : UptimeHistory where
  rows := s.rows ++ [⟨h.now, h.uptimeSeconds⟩]
  events := s.events ++ detectReboot s.rows h

/-! ### What is to be detected -/

/-- The uptime reported last: the one on the newest of the heartbeats that carry one. -/
def lastUptime (rows : List UptimeRow) : Option Int :=
  priorUptime (rows.filter (·.uptimeSeconds.isSome))

/-- A heartbeat reports an uptime lower than the one reported last. -/
def Rebooted (rows : List UptimeRow) (h : Heartbeat) : Prop :=
  ∃ new prior, h.uptimeSeconds = some new ∧ lastUptime rows = some prior ∧ new < prior

/-- A heartbeat leaves a `device.rebooted` event exactly when it is to. -/
def Detects (s : UptimeHistory) (h : Heartbeat) : Prop :=
  (∃ e ∈ detectReboot s.rows h, e.type = "device.rebooted") ↔ Rebooted s.rows h

/-- At a reboot, the newest heartbeat before carries an uptime. -/
def PriorShown (s : UptimeHistory) (h : Heartbeat) : Prop :=
  Rebooted s.rows h → ∃ row, newestRow s.rows = some row ∧ row.uptimeSeconds.isSome

/-! ### The newest row -/

section
variable {rows : List UptimeRow} {row : UptimeRow} {h : Heartbeat} {s : UptimeHistory}

theorem newestRow_eq_some :
    newestRow rows = some row ↔
      (∀ other ∈ rows, other.receivedAt ≤ row.receivedAt) ∧ ∃ before after,
        rows = before ++ row :: after ∧ ∀ other ∈ before, other.receivedAt < row.receivedAt := by
  rw [newestRow, List.find?_eq_some_iff_append]
  simp only [List.all_eq_true, decide_eq_true_eq, Bool.not_eq_true', Bool.eq_false_iff, ne_eq,
    not_forall]
  refine and_congr_right fun hmax => exists₂_congr fun before after => ?_
  refine and_congr_right fun hrows => forall₂_congr fun other hother => ?_
  constructor
  · rintro ⟨later, hlater, hlt⟩
    exact lt_of_lt_of_le (not_le.mp hlt) (hmax later hlater)
  · intro hlt
    have hmem : row ∈ rows := by
      rw [hrows]
      exact List.mem_append_right before List.mem_cons_self
    exact ⟨row, hmem, not_le.mpr hlt⟩

/-- The newest row, if it passes a filter, is the newest of those that do. -/
theorem newestRow_filter {p : UptimeRow → Bool} (hnewest : newestRow rows = some row)
    (hp : p row) : newestRow (rows.filter p) = some row := by
  obtain ⟨hmax, before, after, hrows, hbefore⟩ := newestRow_eq_some.mp hnewest
  refine newestRow_eq_some.mpr
    ⟨fun other hother => hmax other (List.mem_filter.mp hother).1, before.filter p,
      after.filter p, ?_, fun other hother => hbefore other (List.mem_filter.mp hother).1⟩
  rw [hrows, List.filter_append, List.filter_cons_of_pos hp]

/-- A newest heartbeat that carries an uptime carries the one reported last. -/
theorem priorUptime_eq_lastUptime (hnewest : newestRow rows = some row)
    (hcarries : row.uptimeSeconds.isSome) : priorUptime rows = lastUptime rows := by
  rw [lastUptime, priorUptime, priorUptime, newestRow_filter hnewest hcarries, hnewest]

/-- Where the times increase along the sequence, the newest row is the last. -/
theorem newestRow_of_increasing (hrows : rows.Pairwise fun a b => a.receivedAt < b.receivedAt) :
    newestRow rows = rows.getLast? := by
  induction rows using List.reverseRecOn with
  | nil => rfl
  | append_singleton before last ih =>
      obtain ⟨-, -, hlast⟩ := List.pairwise_append.mp hrows
      have hlt : ∀ other ∈ before, other.receivedAt < last.receivedAt := fun other hother =>
        hlast other hother last List.mem_cons_self
      rw [List.getLast?_concat]
      refine newestRow_eq_some.mpr ⟨fun other hother => ?_, before, [], rfl, hlt⟩
      rcases mem_snoc.mp hother with hother | rfl
      · exact le_of_lt (hlt other hother)
      · exact le_rfl

/-- Where the clock only goes forward, the uptime reported last is the last of the sequence. -/
theorem lastUptime_of_increasing
    (hrows : rows.Pairwise fun a b => a.receivedAt < b.receivedAt) :
    lastUptime rows = (rows.filterMap (·.uptimeSeconds)).getLast? := by
  rw [lastUptime, priorUptime, newestRow_of_increasing (hrows.filter _)]
  clear hrows
  induction rows using List.reverseRecOn with
  | nil => rfl
  | append_singleton before last ih =>
      rw [List.filter_append, List.filterMap_append]
      cases huptime : last.uptimeSeconds with
      | none => simpa [huptime] using ih
      | some uptime => simp [huptime]

/-! ### Detection -/

theorem detectReboot_iff :
    (∃ e ∈ detectReboot s.rows h, e.type = "device.rebooted") ↔
      ∃ new prior, h.uptimeSeconds = some new ∧ priorUptime s.rows = some prior ∧ new < prior := by
  rw [detectReboot]
  cases hprior : priorUptime s.rows with
  | none => simp
  | some prior =>
      cases hnew : h.uptimeSeconds with
      | none => simp
      | some new =>
          by_cases hlt : new < prior
          · simp [hlt, rebootedEvent]
          · simp [hlt]

/-- At each heartbeat, a reboot is told where it is to be exactly when the newest heartbeat
before it shows the uptime. -/
theorem detects_iff : Detects s h ↔ PriorShown s h := by
  rw [Detects, detectReboot_iff]
  constructor
  · intro hdetects hreboot
    obtain ⟨new, prior, -, hprior, -⟩ := hdetects.mpr hreboot
    obtain ⟨row, hrow, huptime⟩ := Option.bind_eq_some_iff.mp hprior
    exact ⟨row, hrow, Option.isSome_of_eq_some huptime⟩
  · intro hshown
    constructor
    · rintro ⟨new, prior, hnew, hprior, hlt⟩
      obtain ⟨row, hrow, huptime⟩ := Option.bind_eq_some_iff.mp hprior
      have hlast := priorUptime_eq_lastUptime hrow (Option.isSome_of_eq_some huptime)
      exact ⟨new, prior, hnew, hlast ▸ hprior, hlt⟩
    · intro hreboot
      obtain ⟨row, hrow, hcarries⟩ := hshown hreboot
      obtain ⟨new, prior, hnew, hprior, hlt⟩ := hreboot
      exact ⟨new, prior, hnew, (priorUptime_eq_lastUptime hrow hcarries).trans hprior, hlt⟩

end

/-- **Reboot detection.**  Over a sequence of heartbeats, every reboot is told and nothing else is
exactly when at every reboot the newest heartbeat before it carries an uptime. -/
theorem reboots_detected_iff (s : UptimeHistory) (heartbeats : List Heartbeat) :
    Admits UptimeHistory.record Detects s heartbeats ↔
      Admits UptimeHistory.record PriorShown s heartbeats := by
  induction heartbeats generalizing s with
  | nil => rfl
  | cons h heartbeats ih => rw [admits_cons, admits_cons, detects_iff, ih]

/-- A full heartbeat, a partial one, and a full one after a restart. -/
def hiddenReboot : List Heartbeat :=
  [⟨0, some 100, none, none⟩, ⟨1, none, none, none⟩, ⟨2, some 5, none, none⟩]

/-- The partial heartbeat hides the uptime before it: no reboot is told. -/
theorem hidden_reboot :
    ¬∀ heartbeats : List Heartbeat,
      Admits UptimeHistory.record Detects ⟨[], []⟩ heartbeats := by
  intro hdetects
  obtain ⟨-, -, hlast, -⟩ := hdetects hiddenReboot
  obtain ⟨e, he, -⟩ := hlast.mpr ⟨5, 100, rfl, rfl, by decide⟩
  exact List.not_mem_nil he

end RebooterHub.Devices
