import Mathlib.Data.List.Induction
import RebooterHub.Sync.Outbox

/-!
# Sync — Replicator

`sync_replicator`: one pass over one peer.  The hub's state and the applier are parameters here
(`H`, `applier`): the replicator itself only counts, keeps the last error and moves the cursor.
-/

namespace RebooterHub.Sync

/-- The row of `sync_cursors` for a peer. -/
structure SyncCursor where
  lastSeq : Nat
  lastError : Option String
deriving DecidableEq, Repr

/-- `stats` of a batch. -/
structure BatchStats where
  applied : Nat
  skipped : Nat
  errors : Nat
deriving DecidableEq, Repr

/-- What `_apply_event_batch` has at hand between two events. -/
structure BatchState (H : Type) where
  hub : H
  stats : BatchStats
  lastSeq : Option Nat
  lastError : Option String

variable {H : Type} (applier : H → OutboxEvent → Except String (H × Bool))

/-- The body of `_apply_event_batch`'s loop: one event in a transaction of its own.  The event is
passed over whatever became of it. -/
def applyEvent (b : BatchState H) (e : OutboxEvent) : BatchState H :=
  match applier b.hub e with
  | .ok (hub, true) =>
      { b with hub, stats := { b.stats with applied := b.stats.applied + 1 },
               lastSeq := some e.seq }
  | .ok (hub, false) =>
      { b with hub, stats := { b.stats with skipped := b.stats.skipped + 1 },
               lastSeq := some e.seq }
  | .error x =>
      { b with stats := { b.stats with errors := b.stats.errors + 1 },
               lastSeq := some e.seq, lastError := some x }

/-- `_apply_event_batch` without its cursor update. -/
def applyEvents (hub : H) (events : List OutboxEvent) : BatchState H :=
  events.foldl (applyEvent applier) ⟨hub, ⟨0, 0, 0⟩, none, none⟩

/-- `update_sync_cursor`: a clean batch clears the last error. -/
def updateSyncCursor (lastSeq : Nat) (error : Option String) : SyncCursor := ⟨lastSeq, error⟩

/-- `get_sync_cursor`. -/
def getSyncCursor (cursor : Option SyncCursor) : Nat := (cursor.map SyncCursor.lastSeq).getD 0

/-- The cursor after a batch. -/
def BatchState.cursor (b : BatchState H) (cursor : Option SyncCursor) : Option SyncCursor :=
  match b.lastSeq with
  | some seq => some (updateSyncCursor seq b.lastError)
  | none => cursor

/-- The events a tick asks for at a time. -/
def fetchLimit : Nat := 100

/-- What can go wrong in a tick outside the application of an event. -/
inductive TickFault where
  | none
  /-- The request fails, or its answer is lost. -/
  | fetch
  /-- The events are applied, and the cursor update fails. -/
  | cursor
deriving DecidableEq, Repr

/-- `tick` for one peer: the hub and cursor after it, and the events the poll returned. -/
def tick (fault : TickFault) (peer : Outbox) (hub : H) (cursor : Option SyncCursor) :
    H × Option SyncCursor × List OutboxEvent :=
  match fault with
  | .fetch => (hub, cursor, [])
  | .none =>
    let page := syncSince peer (getSyncCursor cursor) fetchLimit
    let b := applyEvents applier hub page.events
    (b.hub, b.cursor cursor, page.events)
  | .cursor =>
    let page := syncSince peer (getSyncCursor cursor) fetchLimit
    ((applyEvents applier hub page.events).hub, cursor, page.events)

variable {applier}

theorem applyEvent_lastSeq (b : BatchState H) (e : OutboxEvent) :
    (applyEvent applier b e).lastSeq = some e.seq := by
  unfold applyEvent
  split <;> rfl

/-- The last number of a batch is that of its last event, whatever became of the events. -/
theorem foldl_applyEvent_lastSeq (b : BatchState H) (events : List OutboxEvent) :
    (events.foldl (applyEvent applier) b).lastSeq
      = (events.getLast?.map OutboxEvent.seq).or b.lastSeq := by
  induction events using List.reverseRecOn with
  | nil => rfl
  | append_singleton es e _ =>
      rw [List.foldl_append, List.foldl_cons, List.foldl_nil, applyEvent_lastSeq]
      simp

theorem applyEvents_lastSeq (hub : H) (events : List OutboxEvent) :
    (applyEvents applier hub events).lastSeq = events.getLast?.map OutboxEvent.seq := by
  rw [applyEvents, foldl_applyEvent_lastSeq, Option.or_none]

/-- **The cursor after a batch** is the mark after a read of it. -/
theorem getSyncCursor_applyEvents (hub : H) (cursor : Option SyncCursor)
    (events : List OutboxEvent) :
    getSyncCursor ((applyEvents applier hub events).cursor cursor)
      = HighWater.advance OutboxEvent.seq (getSyncCursor cursor) events := by
  rw [BatchState.cursor, applyEvents_lastSeq, HighWater.advance]
  cases events.getLast? <;> rfl

end RebooterHub.Sync
