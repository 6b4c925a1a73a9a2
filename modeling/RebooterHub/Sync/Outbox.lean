import RebooterHub.Support.HighWater
import RebooterHub.Sync.Columns

/-!
# Sync — Outbox

The `outbox_events` table of a hub, and the page of it `/api/v1/sync/since` answers with.

A transaction that inserts an outbox row takes its `seq` from the table's sequence at once
(`Outbox.insert`); the row is seen by other sessions only after the transaction commits
(`Outbox.commit`), and a rollback leaves its numbers unused.
-/

namespace RebooterHub.Sync

/-- A row of `outbox_events`, as the peer decodes it. -/
structure OutboxEvent where
  seq : Nat
  at_ : Value
  eventType : String
  entityType : String
  entityId : String
  payload : Payload
  /-- `scope_claims`, a JSON object or `None`. -/
  scopeClaims : Option (List (String × Json))
  tombstoneFor : Option String

/-- The outbox table: committed rows, and those of the transactions still open. -/
structure Outbox where
  nextSeq : Nat
  committed : List OutboxEvent
  uncommitted : List (Nat × OutboxEvent)

namespace Outbox

/-- The table of a fresh database; its sequence starts at 1. -/
def empty : Outbox := ⟨1, [], []⟩

/-- `_emit`: transaction `txn` inserts a row and takes the next number. -/
def insert (o : Outbox) (txn : Nat) (e : OutboxEvent) : Outbox where
  nextSeq := o.nextSeq + 1
  committed := o.committed
  uncommitted := o.uncommitted ++ [(txn, { e with seq := o.nextSeq })]

/-- The rows of a transaction. -/
def rowsOf (o : Outbox) (txn : Nat) : List OutboxEvent :=
  (o.uncommitted.filter (·.1 = txn)).map Prod.snd

/-- Transaction `txn` commits. -/
def commit (o : Outbox) (txn : Nat) : Outbox where
  nextSeq := o.nextSeq
  committed := o.committed ++ o.rowsOf txn
  uncommitted := o.uncommitted.filter (·.1 ≠ txn)

/-- Transaction `txn` is rolled back. -/
def rollback (o : Outbox) (txn : Nat) : Outbox where
  nextSeq := o.nextSeq
  committed := o.committed
  uncommitted := o.uncommitted.filter (·.1 ≠ txn)

/-- `fetch_outbox_events_since`. -/
def fetchOutboxEventsSince (o : Outbox) (sinceSeq limit : Nat) : List OutboxEvent :=
  HighWater.batch OutboxEvent.seq sinceSeq limit o.committed

end Outbox

/-- The answer of `/api/v1/sync/since`. -/
structure SyncPage where
  events : List OutboxEvent
  nextSeq : Nat
  hasMore : Bool

/-- `sync_since`. -/
def syncSince (o : Outbox) (seq limit : Nat) : SyncPage :=
  let limit := min limit 1000
  let events := o.fetchOutboxEventsSince seq limit
  { events
    nextSeq := (events.getLast?.map OutboxEvent.seq).getD seq
    hasMore := events.length == limit }

end RebooterHub.Sync
