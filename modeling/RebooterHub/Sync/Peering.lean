import RebooterHub.Support.Replicas
import RebooterHub.Support.Runs
import RebooterHub.Sync.Emission
import RebooterHub.Sync.Replicator

/-!
# Sync — Peering

Two hubs that pull from each other.

`Peered` is the two hubs, the outbox of each and how much of it the other has pulled.  Its steps
are the transactions of either hub, each with the events it emits, and the applications of single
events, so that a hub's own transactions may come between the events of one batch.  A tick of the
replicator is a run of such steps (`tick_eq_run`).  Transactions here do not overlap; what becomes
of the outbox where they do is the subject of `Cursor`.
-/

namespace RebooterHub.Sync
open RebooterHub.Runs RebooterHub.Replicas

/-- Two hubs, the outbox of each, and how many of the other's events each has pulled. -/
structure Peered where
  hub : Side → Hub
  outbox : Side → List OutboxEvent
  pulled : Side → Nat

/-- A transaction of a hub's own, or the application of the next event of its peer. -/
inductive PeeredStep where
  | own (s : Side) (env : LocalEnv) (scope : Scope) (op : LocalOp)
  | pull (s : Side) (env : ApplyEnv)

/-- Rows inserted into an outbox of `n` rows take the next numbers. -/
def numbered (n : Nat) (es : List OutboxEvent) : List OutboxEvent :=
  es.mapIdx fun i e => { e with seq := n + 1 + i }

namespace Peered

/-- Two hubs that have nothing to pull. -/
def start (left right : Hub) : Peered where
  hub
    | .left => left
    | .right => right
  outbox _ := []
  pulled _ := 0

/-- The events a hub has not pulled yet. -/
def pending (p : Peered) (s : Side) : List OutboxEvent := (p.outbox s.other).drop (p.pulled s)

/-- A transaction of a hub commits, with the events it emits. -/
def commit (p : Peered) (s : Side) (h : Hub) (es : List OutboxEvent) : Peered :=
  { p with
    hub := Function.update p.hub s h
    outbox := Function.update p.outbox s (p.outbox s ++ numbered (p.outbox s).length es) }

/-- A hub applies an event. -/
def deliver (p : Peered) (s : Side) (env : ApplyEnv) (e : OutboxEvent) : Peered :=
  { p with
    hub := Function.update p.hub s (applied env (p.hub s) e)
    pulled := Function.update p.pulled s (p.pulled s + 1) }

/-- What a step does. -/
def step (p : Peered) : PeeredStep → Peered
  | .own s env scope op => match op.perform env scope (p.hub s) with
    | .error _ => p
    | .ok (h, es) => p.commit s h es
  | .pull s env => match p.pending s with
    | [] => p
    | e :: _ => p.deliver s env e

variable {p : Peered} {s t : Side} {h : Hub} {env : ApplyEnv} {e : OutboxEvent}
  {es rest : List OutboxEvent}

theorem step_pull (hq : p.pending s = e :: es) : p.step (.pull s env) = p.deliver s env e := by
  simp [step, hq]

theorem pending_deliver_self (hq : p.pending s = e :: es) :
    (p.deliver s env e).pending s = es := by
  have hdrop : (p.outbox s.other).drop (p.pulled s) = e :: es := hq
  unfold pending deliver
  dsimp only
  rw [Function.update_self, ← List.drop_drop, hdrop]
  rfl

theorem pending_deliver_of_ne (ht : t ≠ s) : (p.deliver s env e).pending t = p.pending t := by
  unfold pending deliver
  dsimp only
  rw [Function.update_of_ne ht]

/-! ### Numbers -/

/-- The rows of an outbox are numbered from 1 on, and no hub has pulled more than there is. -/
structure Numbered (p : Peered) : Prop where
  seq : ∀ s, (p.outbox s).map OutboxEvent.seq = List.range' 1 (p.outbox s).length
  pulled_le : ∀ s, p.pulled s ≤ (p.outbox s.other).length

theorem numbered_start (left right : Hub) : (start left right).Numbered :=
  ⟨fun _ => rfl, fun _ => le_rfl⟩

theorem length_numbered (n : Nat) : (numbered n es).length = es.length := List.length_mapIdx

theorem seq_numbered (n : Nat) :
    (numbered n es).map OutboxEvent.seq = List.range' (n + 1) es.length := by
  refine List.ext_getElem (by simp [numbered]) fun i _ _ => ?_
  simp [numbered]

theorem Numbered.commit (hn : p.Numbered) : (p.commit s h es).Numbered := by
  refine ⟨fun t => ?_, fun t => ?_⟩
  · unfold Peered.commit
    by_cases ht : t = s
    · subst ht
      dsimp only
      rw [Function.update_self, List.map_append, hn.seq, seq_numbered, List.length_append,
        length_numbered, Nat.add_comm (p.outbox t).length 1, List.range'_append_1]
    · dsimp only
      rw [Function.update_of_ne ht]
      exact hn.seq t
  · refine (hn.pulled_le t).trans ?_
    unfold Peered.commit
    by_cases ht : t.other = s
    · subst ht
      simp
    · dsimp only
      rw [Function.update_of_ne ht]

theorem Numbered.deliver (hn : p.Numbered) (hq : p.pending s = e :: es) :
    (p.deliver s env e).Numbered := by
  refine ⟨hn.seq, fun t => ?_⟩
  unfold Peered.deliver
  by_cases ht : t = s
  · subst ht
    dsimp only
    rw [Function.update_self]
    by_contra hle
    rw [pending, List.drop_eq_nil_of_le (Nat.le_of_not_lt hle)] at hq
    cases hq
  · dsimp only
    rw [Function.update_of_ne ht]
    exact hn.pulled_le t

theorem Numbered.step (hn : p.Numbered) (l : PeeredStep) : (p.step l).Numbered := by
  cases l with
  | own s env scope op =>
    unfold Peered.step
    dsimp only
    cases op.perform env scope (p.hub s) with
    | error x => exact hn
    | ok r => exact hn.commit
  | pull s env =>
    cases hq : p.pending s with
    | nil =>
      rw [show p.step (.pull s env) = p by simp [Peered.step, hq]]
      exact hn
    | cons e es =>
      rw [step_pull hq]
      exact hn.deliver hq

/-! ### Ticks -/

/-- The outbox of a hub, as a table all of whose transactions have committed. -/
def table (p : Peered) (s : Side) : Outbox := ⟨(p.outbox s).length + 1, p.outbox s, []⟩

/-- The applier of a tick, which reads `envs` for an event, and tells of an error by a text. -/
def applier (envs : Nat → ApplyEnv) (text : SyncError → String) (h : Hub) (e : OutboxEvent) :
    Except String (Hub × Bool) :=
  (applyOutboxEvent (envs e.seq) h e).mapError text

theorem hub_applyEvents (envs : Nat → ApplyEnv) (text : SyncError → String) (h : Hub)
    (es : List OutboxEvent) :
    (applyEvents (applier envs text) h es).hub =
      es.foldl (fun h e => applied (envs e.seq) h e) h := by
  have hstep : ∀ (b : BatchState Hub) (e : OutboxEvent),
      (applyEvent (applier envs text) b e).hub = applied (envs e.seq) b.hub e := by
    intro b e
    unfold applyEvent applier applied
    cases applyOutboxEvent (envs e.seq) b.hub e with
    | error x => rfl
    | ok r =>
      obtain ⟨h', _ | _⟩ := r
      · rfl
      · rfl
  have hfold : ∀ (b : BatchState Hub),
      (es.foldl (applyEvent (applier envs text)) b).hub =
        es.foldl (fun h e => applied (envs e.seq) h e) b.hub := by
    induction es with
    | nil => exact fun _ => rfl
    | cons e es ih =>
      intro b
      rw [List.foldl_cons, List.foldl_cons, ih, hstep]
  exact hfold _

/-- A run of pulls takes events from the front of what is pending. -/
theorem run_pulls (envs : Nat → ApplyEnv) (hq : p.pending s = es ++ rest) :
    let p' := run step p (es.map fun e => .pull s (envs e.seq))
    p'.hub s = es.foldl (fun h e => applied (envs e.seq) h e) (p.hub s) ∧
      p'.pulled s = p.pulled s + es.length := by
  induction es generalizing p with
  | nil => exact ⟨rfl, rfl⟩
  | cons e es ih =>
    rw [List.cons_append] at hq
    have hnext : (p.deliver s (envs e.seq) e).pending s = es ++ rest := pending_deliver_self hq
    obtain ⟨hhub, hpulled⟩ := ih hnext
    rw [List.map_cons, run_cons, step_pull hq]
    refine ⟨hhub.trans ?_, hpulled.trans ?_⟩
    · simp [deliver]
    · simp only [deliver, Function.update_self, List.length_cons]
      omega

/-- **A tick is a run of pulls**: it applies the next events, at most as many as it asks for, and
its cursor ends at the last of them. -/
theorem tick_eq_run (hn : p.Numbered) (envs : Nat → ApplyEnv) (text : SyncError → String)
    {cursor : Option SyncCursor} (hc : getSyncCursor cursor = p.pulled s) :
    let r := tick (applier envs text) .none (p.table s.other) (p.hub s) cursor
    let p' := run step p (r.2.2.map fun e => .pull s (envs e.seq))
    p'.hub s = r.1 ∧ p'.pulled s = getSyncCursor r.2.1 := by
  have hpage : (syncSince (p.table s.other) (getSyncCursor cursor) fetchLimit).events =
      (p.pending s).take fetchLimit := by
    rw [hc]
    exact HighWater.batch_of_consecutive (hn.seq s.other)
  have hsplit : p.pending s =
      (p.pending s).take fetchLimit ++ (p.pending s).drop fetchLimit := by simp
  obtain ⟨hhub, hpulled⟩ := run_pulls envs hsplit
  unfold tick
  dsimp only
  rw [hpage]
  refine ⟨hhub.trans (hub_applyEvents envs text ..).symm, hpulled.trans ?_⟩
  rw [getSyncCursor_applyEvents, hc, HighWater.advance_of_consecutive]
  -- the numbers of what is pending follow the number pulled
  rw [List.map_take, pending, List.map_drop, hn.seq]
  refine List.ext_getElem (by simp) fun i _ _ => ?_
  rw [List.getElem_take, List.getElem_drop, List.getElem_range', List.getElem_range']
  omega

end Peered

end RebooterHub.Sync
