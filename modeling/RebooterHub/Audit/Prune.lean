import Mathlib.Data.List.Sort
import RebooterHub.Commands.Queue
import RebooterHub.Data.Text
import RebooterHub.Support.Refills
import RebooterHub.Support.Transaction

/-!
# Audit — Prune

`prune_old_audit_events`: the audit events older than the retention are copied to the archive and
deleted, in one transaction, and the day is marked in another.

The job runs in the system scope, so its statements see the events of every organization.  Other
sessions write events while it runs; what it writes itself they see from its commit on, so until
then it is kept apart from the tables.  The ids of the events come from the database; an event whose
id is taken is not written.
-/

namespace RebooterHub.Audit
open Commands (maxTime minTime)
open Refills

/-! ### The tables -/

/-- A row of `audit_events`. -/
structure AuditEvent where
  id : Int
  at_ : Time
  actorUserId : Option String
  actorEmailSnapshot : Option String
  action : String
  targetType : Option String
  targetId : Option String
  details : Json
  ip : Option String
  organizationId : Option String
deriving DecidableEq, Repr

/-- A row of `audit_events_archive`. -/
structure AuditEventArchive where
  id : Int
  at_ : Time
  actorUserId : Option String
  actorEmailSnapshot : Option String
  action : String
  targetType : Option String
  targetId : Option String
  details : Json
  ip : Option String
  organizationId : Option String
  archivedAt : Time
deriving DecidableEq, Repr

/-- The row an event is copied to. -/
def archiveRow (now : Time) (event : AuditEvent) : AuditEventArchive where
  id := event.id
  at_ := event.at_
  actorUserId := event.actorUserId
  actorEmailSnapshot := event.actorEmailSnapshot
  action := event.action
  targetType := event.targetType
  targetId := event.targetId
  details := event.details
  ip := event.ip
  organizationId := event.organizationId
  archivedAt := now

/-- The event an archived row holds. -/
def AuditEventArchive.event (row : AuditEventArchive) : AuditEvent where
  id := row.id
  at_ := row.at_
  actorUserId := row.actorUserId
  actorEmailSnapshot := row.actorEmailSnapshot
  action := row.action
  targetType := row.targetType
  targetId := row.targetId
  details := row.details
  ip := row.ip
  organizationId := row.organizationId

@[simp] theorem event_archiveRow (now : Time) (event : AuditEvent) :
    (archiveRow now event).event = event := rfl

/-- What is stored, and what was ever written. -/
structure AuditStore where
  /-- `audit_events`. -/
  live : Store AuditEvent.id
  /-- `audit_events_archive`. -/
  archive : Store AuditEventArchive.id
  /-- `system.audit_prune_last_run_date`, if it is set. -/
  lastRun : Option Json
  /-- All events that were written to `audit_events`; no operation reads it. -/
  written : List AuditEvent

/-- The events in the archive. -/
def AuditStore.archived (s : AuditStore) : List AuditEvent :=
  s.archive.rows.map AuditEventArchive.event

/-- Any two tables; what they hold has been written. -/
def AuditStore.start (live : Store AuditEvent.id) (archive : Store AuditEventArchive.id)
    (lastRun : Option Json) : AuditStore where
  live
  archive
  lastRun
  written := live.rows ++ archive.rows.map AuditEventArchive.event

/-- `record`, of an event under the id the database gives it. -/
def AuditStore.record (s : AuditStore) (event : AuditEvent) : AuditStore :=
  match s.live.insertAll [event] with
  | some live => { s with live, written := s.written ++ [event] }
  | none => s

/-- Events that are written one after the other. -/
def AuditStore.recordAll (s : AuditStore) (events : List AuditEvent) : AuditStore :=
  events.foldl AuditStore.record s

/-! ### A run -/

/-- The steps of a run that can fail on their own account. -/
inductive PruneStep where
  | readRetention
  | readLastRun
  | select
  | copy
  | delete
  | commit
  | mark
deriving DecidableEq, Repr

/-- What a run raises, or reports. -/
inductive PruneError where
  /-- The step failed, with this text. -/
  | failed (message : String)
  /-- An id is in the archive already. -/
  | integrityError
  | python (e : PyError)
deriving DecidableEq, Repr

/-- What a run meets. -/
structure PruneRun where
  /-- `system.audit_retention_days`, if it is set. -/
  retentionDays : Option Json
  /-- `REBOOTER_AUDIT_RETENTION_DAYS`, if it is set. -/
  retentionEnv : Option String
  /-- The clock when the day is taken, when the cut-off is, and when the events are copied. -/
  today : Time
  now : Time
  archivedAt : Time
  /-- The steps that fail. -/
  fails : PruneStep → Option String
  /-- What other sessions write before a step. -/
  meanwhile : PruneStep → List AuditEvent

/-- What `prune_old_audit_events` returns; a key that is not there has its falsy value. -/
structure PruneStats where
  archived : Nat
  pruned : Nat
  skipped : Bool
  errors : List PruneError
deriving DecidableEq, Repr

/-- The tables, and the counts so far. -/
structure Pruning where
  store : AuditStore
  archived : Nat
  pruned : Nat

abbrev Prune := EStateM PruneError Pruning

/-- `runtime_settings.get`, of what is stored. -/
def resolve (stored : Option Json) (env : Option String) (fallback : Json) : Json :=
  match stored, env with
  | some v, _ => v
  | none, some text => .str text
  | none, none => fallback

/-- `.date().isoformat()`. -/
def dateText (t : Time) : String :=
  let (y, m, d) := Iso.civil (t / 86400000000)
  Iso.padded 4 y ++ "-" ++ Iso.padded 2 m ++ "-" ++ Iso.padded 2 d

namespace PruneRun
variable (r : PruneRun)

/-- `int(rs.get("system.audit_retention_days", ...))`. -/
def days : Except PruneError Int :=
  match (resolve r.retentionDays r.retentionEnv (.int 90)).toInt with
  | .ok n => .ok n
  | .error e => .error (.python e)

/-- `datetime.now(timezone.utc) - timedelta(days=retention_days)`. -/
def cutoffFor (days : Int) : Except PruneError Time :=
  let at_ := r.now - seconds (86400 * days)
  if minTime ≤ at_ ∧ at_ ≤ maxTime then .ok at_ else .error (.python .overflowError)

/-- A step is come to: other sessions have written, and it may fail. -/
def attempt (p : PruneStep) : Prune PUnit := do
  modify fun x => { x with store := x.store.recordAll (r.meanwhile p) }
  match r.fails p with
  | some message => throw (.failed message)
  | none => pure ()

/-- `rs.set_(_LAST_RUN_DATE_KEY, today)`, in a transaction of its own. -/
def mark (today : String) : Prune PUnit := do
  r.attempt .mark
  modify fun x => { x with store := { x.store with lastRun := some (.str today) } }

/-- The events are copied and deleted in the session; this is the archive it sees. -/
def copyAndDelete (oldEvents : List AuditEvent) : Prune (Store AuditEventArchive.id) := do
  modify fun x => { x with archived := oldEvents.length }
  r.attempt .copy
  let x ← get
  match x.store.archive.insertAll (oldEvents.map (archiveRow r.archivedAt)) with
  | none => throw .integrityError
  | some archive => do
    r.attempt .delete
    modify fun x => { x with
      pruned := x.store.live.rows.countP (·.id ∈ oldEvents.map AuditEvent.id) }
    return archive

/-- The session commits: both tables change. -/
def commit (oldEvents : List AuditEvent) (archive : Store AuditEventArchive.id) : Prune PUnit := do
  r.attempt .commit
  modify fun x => { x with store := { x.store with
    live := x.store.live.filter (·.id ∉ oldEvents.map AuditEvent.id)
    archive } }

end PruneRun

/-- `select(AuditEvent).where(AuditEvent.at < cutoff).order_by(AuditEvent.id)`. -/
def AuditStore.oldEvents (s : AuditStore) (cutoff : Time) : List AuditEvent :=
  (s.live.rows.filter (·.at_ < cutoff)).insertionSort (·.id ≤ ·.id)

namespace PruneRun
variable (r : PruneRun)

/-- What the run does about the events it has read. -/
def move (today : String) (oldEvents : List AuditEvent) : Prune PUnit :=
  match oldEvents with
  -- the marker is written before the session, which has written nothing, commits
  | [] => do
    r.mark today
    r.attempt .commit
  | _ :: _ => do
    let archive ← r.copyAndDelete oldEvents
    r.commit oldEvents archive
    r.mark today

/-- The part of the run whose failures are reported. -/
def body (today : String) (cutoff : Time) : Prune PUnit := do
  r.attempt .select
  let x ← get
  r.move today (x.store.oldEvents cutoff)

/-- What the body raises is reported. -/
def reported (today : String) (cutoff : Time) : Prune PruneStats := fun x =>
  match r.body today cutoff x with
  | .ok _ x => .ok ⟨x.archived, x.pruned, false, []⟩ x
  | .error e x => .ok ⟨x.archived, x.pruned, false, [e]⟩ x

/-- `prune_old_audit_events`. -/
def pruneOldAuditEvents : Prune PruneStats := do
  r.attempt .readRetention
  match r.days with
  | .error e => throw e
  | .ok retentionDays => do
    let today := dateText r.today
    r.attempt .readLastRun
    let x ← get
    if resolve x.store.lastRun none .null = .str today then return ⟨0, 0, true, []⟩
    else match r.cutoffFor retentionDays with
      | .error e => throw e
      | .ok cutoff => r.reported today cutoff

/-- The run raises, or reports an error. -/
def Failed (s : AuditStore) : Prop :=
  match r.pruneOldAuditEvents ⟨s, 0, 0⟩ with
  | .ok stats _ => stats.errors ≠ []
  | .error _ _ => True

instance (s : AuditStore) : Decidable (r.Failed s) := by
  unfold Failed
  cases r.pruneOldAuditEvents ⟨s, 0, 0⟩ with
  | ok stats _ => exact inferInstanceAs (Decidable (stats.errors ≠ []))
  | error _ _ => exact .isTrue trivial

/-- The events before this time are old: what the retention of the run asks. -/
def cutoff : Except PruneError Time := r.days.bind r.cutoffFor

end PruneRun

/-! ### Runs -/

/-- What happens to the audit tables. -/
inductive AuditAction where
  | record (event : AuditEvent)
  | prune (r : PruneRun)

/-- What an action leaves. -/
def AuditStore.step (s : AuditStore) : AuditAction → AuditStore
  | .record event => s.record event
  | .prune r => (Transaction.exec r.pruneOldAuditEvents ⟨s, 0, 0⟩).store

end RebooterHub.Audit
