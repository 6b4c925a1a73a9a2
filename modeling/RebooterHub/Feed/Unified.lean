import RebooterHub.Data.Json
import RebooterHub.Data.Text
import RebooterHub.Data.Time
import RebooterHub.Support.Dict
import RebooterHub.Support.Fallible
import RebooterHub.Support.TopRows

/-!
# Feed — Unified

`query_unified`, the history feed, with no filter set: the audit events, the probe events of the
watchdog and the events the devices report, merged newest first.

What the caller may not see is cut out by the queries themselves, before their limits, so a source
is the rows it has for the caller.  A query does not say how it arranges rows of one instant; an
answer is any of the arrangements (`Fetched`).

* `unified_merges_iff`: whatever the queries answer, the feed is the first entries of the three
  sources together exactly if each device event whose details are no object has a whole page of
  device events after it.
-/

namespace RebooterHub.Feed
open RebooterHub.Fallible RebooterHub.TopRows

/-! ### The sources -/

/-- A row of `audit_events`. -/
structure AuditEvent where
  at_ : Time
  actorUserId : Option String
  actorEmailSnapshot : Option String
  action : String
  targetType : Option String
  targetId : Option String
  details : Json
  ip : Option String

/-- A row of `watchdog_probe_events`. -/
structure WatchdogProbeEvent where
  at_ : Time
  ruleId : String
  outcome : String
  details : Json

/-- A row of `device_events`.  Its details are what the device sent. -/
structure DeviceEvent where
  timestamp : Time
  deviceId : String
  type : String
  mode : Option String
  message : Option String
  details : Json

/-- The three tables, of the rows the caller may see. -/
structure Store where
  audit : List AuditEvent
  probes : List WatchdogProbeEvent
  events : List DeviceEvent

/-- An answer to the three queries with this limit. -/
structure Fetched (s : Store) (limit : Nat) where
  audit : List AuditEvent
  probes : List WatchdogProbeEvent
  events : List DeviceEvent
  audit_top : Top (·.at_) limit s.audit audit
  probes_top : Top (·.at_) limit s.probes probes
  events_top : Top (·.timestamp) limit s.events events

/-- The answer that keeps rows of one instant in the order of the table. -/
def answer (s : Store) (limit : Nat) : Fetched s limit where
  audit := (sorted (·.at_) s.audit).take limit
  probes := (sorted (·.at_) s.probes).take limit
  events := (sorted (·.timestamp) s.events).take limit
  audit_top := top_sorted _ _ _
  probes_top := top_sorted _ _ _
  events_top := top_sorted _ _ _

/-! ### The rows of the feed -/

/-- A row of the feed. -/
structure HistoryRow where
  source : String
  shownAt : String
  actor : String
  action : String
  targetType : Option String
  targetId : Option String
  details : Json
  ip : Option String
deriving DecidableEq, Inhabited

/-- A row with its `at_dt`. -/
structure DatedRow where
  atDt : Time
  row : HistoryRow

/-- `s or ""`. -/
def orEmptyText (s : Option String) : Option String := s.filter (· ≠ "")

/-- `_row_audit`. -/
def rowAudit (e : AuditEvent) : DatedRow where
  atDt := e.at_
  row :=
    { source := "audit"
      shownAt := strftime e.at_
      actor := ((orEmptyText e.actorEmailSnapshot).or (orEmptyText e.actorUserId)).getD ""
      action := e.action
      targetType := e.targetType
      targetId := e.targetId
      details := e.details.orEmpty
      ip := e.ip }

/-- `_row_probe`. -/
def rowProbe (e : WatchdogProbeEvent) : DatedRow where
  atDt := e.at_
  row :=
    { source := "watchdog_probe"
      shownAt := strftime e.at_
      actor := "watchdog"
      action := "watchdog_probe." ++ e.outcome
      targetType := some "watchdog_rule"
      targetId := some e.ruleId
      details := e.details.orEmpty
      ip := none }

/-- A text or null. -/
def textOrNull : Option String → Json
  | none => .null
  | some s => .str s

/-- The row of a device event with these members in its details. -/
def deviceRow (e : DeviceEvent) (members : List (String × Json)) : DatedRow where
  atDt := e.timestamp
  row :=
    { source := "device_event"
      shownAt := strftime e.timestamp
      actor := e.deviceId
      action := "device_event." ++ e.type
      targetType := some "device"
      targetId := some e.deviceId
      details := .obj (Dict.update
        [("mode", textOrNull e.mode), ("message", textOrNull e.message)] members)
      ip := none }

/-- `_row_device_evt`; only an object can be unpacked into another. -/
def rowDeviceEvt (e : DeviceEvent) : Except PyError DatedRow :=
  match e.details.orEmpty with
  | .obj members => .ok (deviceRow e members)
  | _ => .error .typeError

/-- `max(1, min(limit, 1000))`. -/
def clampLimit (limit : Int) : Nat := (max 1 (min limit 1000)).toNat

/-- The source that is asked for. -/
def historySource (source : Option String) : String :=
  let src := String.ofList (Text.lower (match source with
    | none => "audit".toList
    | some "" => "audit".toList
    | some s => s.toList))
  if src ∈ ["audit", "watchdog_probe", "device_event", "all"] then src else "audit"

/-- `query_unified` without filters, the queries having answered `f`. -/
def queryUnified {s : Store} (source : Option String) (limit : Int)
    (f : Fetched s (clampLimit limit)) : Except PyError (List HistoryRow) := do
  let src := historySource source
  let audit := if src ∈ ["audit", "all"] then f.audit.map rowAudit else []
  let probes := if src ∈ ["watchdog_probe", "all"] then f.probes.map rowProbe else []
  let events ← if src ∈ ["device_event", "all"] then f.events.mapM rowDeviceEvt else .ok []
  let out := audit ++ probes ++ events
  let out := if src = "all" then sorted (·.atDt) out else out
  return (out.map (·.row)).take (clampLimit limit)

/-! ### The merge -/

/-- An entry of one of the sources. -/
inductive Entry where
  | audit (e : AuditEvent)
  | probe (e : WatchdogProbeEvent)
  | deviceEvent (e : DeviceEvent)

/-- The time an entry shows, of which the row drops the fraction of the second. -/
def Entry.time : Entry → Time
  | .audit e => e.at_
  | .probe e => e.at_
  | .deviceEvent e => e.timestamp

/-- The dated row of an entry. -/
def Entry.dated : Entry → Except PyError DatedRow
  | .audit e => .ok (rowAudit e)
  | .probe e => .ok (rowProbe e)
  | .deviceEvent e => rowDeviceEvt e

/-- All entries. -/
def Store.entries (s : Store) : List Entry :=
  s.audit.map .audit ++ s.probes.map .probe ++ s.events.map .deviceEvent

/-- The rows are those of the first `limit` entries, newest first. -/
def IsMerge (s : Store) (limit : Nat) (rows : List HistoryRow) : Prop :=
  ∃ top dated, Top Entry.time limit s.entries top ∧ top.mapM Entry.dated = .ok dated ∧
    rows = dated.map (·.row)

/-- The details hold something that is no object. -/
def DeviceEvent.NoObject (e : DeviceEvent) : Prop :=
  e.details.truthy = true ∧ ∀ members, e.details ≠ .obj members

section
variable {s : Store} {k : Nat}

theorem rowDeviceEvt_eq_ok {e : DeviceEvent} {r : DatedRow} (h : rowDeviceEvt e = .ok r) :
    r.atDt = e.timestamp := by
  rw [rowDeviceEvt] at h
  split at h
  · obtain rfl := Except.ok.inj h
    rfl
  · cases h

theorem rowDeviceEvt_isOk {e : DeviceEvent} :
    (∃ r, rowDeviceEvt e = .ok r) ↔ ¬ e.NoObject := by
  unfold rowDeviceEvt DeviceEvent.NoObject Json.orEmpty
  cases htruthy : e.details.truthy with
  | false => simp
  | true => cases e.details <;> simp

theorem time_dated {e : Entry} {r : DatedRow} (h : e.dated = .ok r) : r.atDt = e.time := by
  cases e with
  | audit e =>
      obtain rfl := Except.ok.inj h
      rfl
  | probe e =>
      obtain rfl := Except.ok.inj h
      rfl
  | deviceEvent e => exact rowDeviceEvt_eq_ok h

/-- The entries that were fetched. -/
def Fetched.entries (f : Fetched s k) : List Entry :=
  f.audit.map .audit ++ f.probes.map .probe ++ f.events.map .deviceEvent

/-- The first of the fetched entries are the first of all. -/
theorem Fetched.top (f : Fetched s k) {top : List Entry} (h : Top Entry.time k f.entries top) :
    Top Entry.time k s.entries top := by
  have haudit : Top Entry.time k (s.audit.map .audit) (f.audit.map .audit) :=
    f.audit_top.map Entry.audit
  have hprobes : Top Entry.time k (s.probes.map .probe) (f.probes.map .probe) :=
    f.probes_top.map Entry.probe
  have hevents : Top Entry.time k (s.events.map .deviceEvent) (f.events.map .deviceEvent) :=
    f.events_top.map Entry.deviceEvent
  have hrotate {a b c : List Entry} (h : Top Entry.time k (a ++ b ++ c) top) :
      Top Entry.time k (c ++ a ++ b) top :=
    h.perm (by rw [List.append_assoc c]; exact List.perm_append_comm)
  exact hrotate ((hrotate ((hrotate (h.widen hevents)).widen hprobes)).widen haudit)

theorem mapM_dated (f : Fetched s k) : f.entries.mapM Entry.dated = (do
    let events ← f.events.mapM rowDeviceEvt
    return f.audit.map rowAudit ++ f.probes.map rowProbe ++ events) := by
  have haudit : (f.audit.map Entry.audit).mapM Entry.dated = .ok (f.audit.map rowAudit) := by
    rw [List.mapM_map]
    exact mapM_eq_ok fun _ _ => rfl
  have hprobes : (f.probes.map Entry.probe).mapM Entry.dated = .ok (f.probes.map rowProbe) := by
    rw [List.mapM_map]
    exact mapM_eq_ok fun _ _ => rfl
  rw [Fetched.entries, List.mapM_append, List.mapM_append, haudit, hprobes, List.mapM_map]
  rfl

/-- What the feed returns, by the entries that were fetched. -/
theorem queryUnified_all {limit : Int} (f : Fetched s (clampLimit limit)) :
    queryUnified (some "all") limit f = (do
      let dated ← f.entries.mapM Entry.dated
      return ((sorted (·.atDt) dated).map (·.row)).take (clampLimit limit)) := by
  have hsource : historySource (some "all") = "all" := by decide +kernel
  rw [queryUnified, hsource, mapM_dated, bind_assoc]
  rfl

/-- The dated row of an entry that has one. -/
def Entry.datedRow (e : Entry) : DatedRow :=
  match e.dated with
  | .ok r => r
  | .error _ => ⟨e.time, default⟩

theorem time_datedRow (e : Entry) : e.datedRow.atDt = e.time := by
  unfold Entry.datedRow
  split
  · next h => exact time_dated h
  · rfl

/-- The rows of the feed, if there are any, are the first of all. -/
theorem isMerge_of_ok {limit : Int} {f : Fetched s (clampLimit limit)} {rows : List HistoryRow}
    (h : queryUnified (some "all") limit f = .ok rows) : IsMerge s (clampLimit limit) rows := by
  rw [queryUnified_all] at h
  obtain ⟨dated, hdated, h⟩ := bind_eq_ok h
  obtain rfl := Except.ok.inj h
  have heach : ∀ e ∈ f.entries, e.dated = .ok e.datedRow := by
    intro e he
    obtain ⟨r, -, hr⟩ := exists_mem_of_mapM hdated he
    rw [hr, Entry.datedRow, hr]
  have hall : dated = f.entries.map Entry.datedRow :=
    Except.ok.inj (hdated.symm.trans (mapM_eq_ok heach))
  have hsort : sorted (·.atDt) dated = (sorted Entry.time f.entries).map Entry.datedRow := by
    rw [hall, ← map_sorted]
    simp only [time_datedRow]
  have htop := top_sorted Entry.time (clampLimit limit) f.entries
  refine ⟨_, _, f.top htop, mapM_eq_ok fun e he => heach e (htop.subset he), ?_⟩
  rw [hsort, List.map_take, List.map_take]

theorem queryUnified_isOk {limit : Int} (f : Fetched s (clampLimit limit)) :
    (∃ rows, queryUnified (some "all") limit f = .ok rows) ↔ ∀ e ∈ f.events, ¬ e.NoObject := by
  rw [queryUnified_all, mapM_dated]
  constructor
  · rintro ⟨rows, h⟩ e he
    obtain ⟨dated, h, -⟩ := bind_eq_ok h
    obtain ⟨events, hevents, -⟩ := bind_eq_ok h
    obtain ⟨r, -, hr⟩ := exists_mem_of_mapM hevents he
    exact rowDeviceEvt_isOk.mp ⟨r, hr⟩
  · intro h
    obtain ⟨events, hevents⟩ := exists_mapM fun e he => rowDeviceEvt_isOk.mpr (h e he)
    rw [hevents]
    exact ⟨_, rfl⟩

end

/-- **The feed is a merge.**  Whatever the queries answer, the feed is the first entries of the
three sources together exactly if each device event whose details are no object has at least
`limit` device events after it. -/
theorem unified_merges_iff (s : Store) (limit : Int) (hlow : 1 ≤ limit) (hhigh : limit ≤ 1000) :
    (∀ f : Fetched s (clampLimit limit), ∃ rows,
        queryUnified (some "all") limit f = .ok rows ∧ IsMerge s limit.toNat rows) ↔
      ∀ e ∈ s.events, e.NoObject → limit.toNat ≤ s.events.countP (e.timestamp < ·.timestamp) := by
  have hclamp : clampLimit limit = limit.toNat := by
    rw [clampLimit]
    omega
  rw [← hclamp]
  constructor
  · intro h e he hbad
    by_contra hfew
    obtain ⟨events, hevents, hmem⟩ := exists_top_mem_iff.mpr ⟨he, not_le.mp hfew⟩
    obtain ⟨rows, hrows, -⟩ := h
      { answer s (clampLimit limit) with events := events, events_top := hevents }
    exact (queryUnified_isOk _).mp ⟨rows, hrows⟩ e hmem hbad
  · intro h f
    have hgood : ∀ e ∈ f.events, ¬ e.NoObject := fun e he hbad => by
      obtain ⟨hmem, hfew⟩ := exists_top_mem_iff.mp ⟨f.events, f.events_top, he⟩
      exact absurd (h e hmem hbad) (not_le.mpr hfew)
    obtain ⟨rows, hrows⟩ := (queryUnified_isOk f).mpr hgood
    exact ⟨rows, hrows, isMerge_of_ok hrows⟩

/-- An overload a device reports with these details. -/
def overload (details : Json) : DeviceEvent where
  timestamp := seconds 60
  deviceId := "d1"
  type := "overload"
  mode := none
  message := none
  details := details

/-- A store of one device event. -/
def reported (details : Json) : Store := ⟨[], [], [overload details]⟩

/-- With details that are an object the event is in the feed. -/
theorem unified_merges_object :
    ∃ rows, queryUnified (some "all") 200 (answer (reported (.obj [])) 200) = .ok rows ∧
      IsMerge (reported (.obj [])) 200 rows :=
  (unified_merges_iff (reported (.obj [])) 200 (by decide) (by decide)).2
    (by simp [reported, overload, DeviceEvent.NoObject, Json.truthy]) (answer _ 200)

/-- With details that are an array the feed fails. -/
theorem unified_fails :
    queryUnified (some "all") 200 (answer (reported (.arr [.str "L1"])) 200) =
      .error .typeError := by
  decide +kernel

end RebooterHub.Feed
