import RebooterHub.Support.Runs
import RebooterHub.Sync.Replicator

/-!
# Sync — Cursor

The replicator's cursor against the outbox of a peer whose transactions commit in any order.

`Polling` is the peer's outbox, the polling hub and its cursor; `returned` records what the
polls have returned.  The cursor is a single high-water mark, so a row whose transaction is still
open when the cursor passes its number is never asked for again.  `PollsBehind` is the condition
on a poll that excludes this, in terms of the outbox before the poll;
`outbox_events_all_returned` says that it is exactly what keeps the cursor behind every open
row, and that then every committed event is returned after enough further polls.
-/

namespace RebooterHub.Sync
open RebooterHub.Runs

/-- A hub that polls a peer, and that peer's outbox. -/
structure Polling (H : Type) where
  outbox : Outbox
  hub : H
  cursor : Option SyncCursor
  /-- What the polls have returned so far. -/
  returned : List OutboxEvent

/-- A step of a transaction of the peer, or a tick of the replicator. -/
inductive PollStep where
  | insert (txn : Nat) (e : OutboxEvent)
  | commit (txn : Nat)
  | rollback (txn : Nat)
  | poll (fault : TickFault)

variable {H : Type} (applier : H → OutboxEvent → Except String (H × Bool))

namespace Polling

/-- What a step does. -/
def step (s : Polling H) : PollStep → Polling H
  | .insert txn e => { s with outbox := s.outbox.insert txn e }
  | .commit txn => { s with outbox := s.outbox.commit txn }
  | .rollback txn => { s with outbox := s.outbox.rollback txn }
  | .poll fault =>
    let (hub, cursor, events) := tick applier fault s.outbox s.hub s.cursor
    { s with hub, cursor, returned := s.returned ++ events }

/-- Before the first poll of a fresh outbox. -/
def start (hub : H) : Polling H := ⟨.empty, hub, none, []⟩

/-- The cursor's number. -/
def mark (s : Polling H) : Nat := getSyncCursor s.cursor

/-- The cursor has passed no row of an open transaction. -/
def Ahead (s : Polling H) : Prop := ∀ p ∈ s.outbox.uncommitted, s.mark < p.2.seq

/-- A poll that moves the cursor stays below the rows of the open transactions. -/
def PollsBehind (s : Polling H) : PollStep → Prop
  | .poll .none => ∀ p ∈ s.outbox.uncommitted,
      HighWater.StaysBelow OutboxEvent.seq s.mark fetchLimit s.outbox.committed p.2.seq
  | _ => True

/-- The polls of a run that move the cursor. -/
def completedPolls (steps : List PollStep) : Nat :=
  steps.countP fun
    | .poll .none => true
    | _ => false

/-! ### One step -/

/-- Numbers are given out once and the cursor is one of them. -/
structure Numbered (s : Polling H) : Prop where
  distinct : (s.outbox.committed.map OutboxEvent.seq
    ++ s.outbox.uncommitted.map fun p => p.2.seq).Nodup
  committed_lt : ∀ e ∈ s.outbox.committed, e.seq < s.outbox.nextSeq
  uncommitted_lt : ∀ p ∈ s.outbox.uncommitted, p.2.seq < s.outbox.nextSeq
  mark_lt : s.mark < s.outbox.nextSeq

/-- Every committed event the cursor has passed was returned. -/
def Caught (s : Polling H) : Prop :=
  ∀ e ∈ s.outbox.committed, e.seq ≤ s.mark → e ∈ s.returned

/-- What a poll asks for. -/
def page (s : Polling H) : List OutboxEvent :=
  HighWater.batch OutboxEvent.seq s.mark fetchLimit s.outbox.committed

/-- The cursor after a poll. -/
def markAfter (s : Polling H) : TickFault → Nat
  | .none => HighWater.advance OutboxEvent.seq s.mark s.page
  | .fetch | .cursor => s.mark

/-- What a poll returns. -/
def returnedBy (s : Polling H) : TickFault → List OutboxEvent
  | .none | .cursor => s.page
  | .fetch => []

theorem poll_outbox (s : Polling H) (fault : TickFault) :
    (s.step applier (.poll fault)).outbox = s.outbox := by cases fault <;> rfl

theorem poll_mark (s : Polling H) (fault : TickFault) :
    (s.step applier (.poll fault)).mark = s.markAfter fault := by
  cases fault with
  | none => exact getSyncCursor_applyEvents s.hub s.cursor s.page
  | fetch | cursor => rfl

theorem poll_returned (s : Polling H) (fault : TickFault) :
    (s.step applier (.poll fault)).returned = s.returned ++ s.returnedBy fault := by
  cases fault <;> rfl

theorem Numbered.distinct_committed {s : Polling H} (h : Numbered s) :
    HighWater.Distinct OutboxEvent.seq s.outbox.committed :=
  (List.nodup_append.mp h.distinct).1

theorem Numbered.page_lt {s : Polling H} (h : Numbered s) :
    HighWater.advance OutboxEvent.seq s.mark s.page < s.outbox.nextSeq := by
  by_cases hnil : s.page = []
  · simpa [hnil, HighWater.advance] using h.mark_lt
  · obtain ⟨e, he, hadv⟩ :=
      HighWater.advance_eq_of_ne_nil OutboxEvent.seq s.mark hnil
    rw [hadv]
    exact h.committed_lt e (HighWater.mem_of_mem_batch he).1

theorem mem_rowsOf {o : Outbox} {txn : Nat} {e : OutboxEvent} :
    e ∈ o.rowsOf txn ↔ (txn, e) ∈ o.uncommitted := by
  simp only [Outbox.rowsOf, List.mem_map, List.mem_filter, decide_eq_true_eq]
  constructor
  · rintro ⟨p, ⟨hp, rfl⟩, rfl⟩
    exact hp
  · intro h
    exact ⟨(txn, e), ⟨h, rfl⟩, rfl⟩

/-- The numbers in a table stay distinct as rows are moved from one part to the other. -/
theorem perm_commit (o : Outbox) (txn : Nat) :
    ((o.commit txn).committed.map OutboxEvent.seq
        ++ (o.commit txn).uncommitted.map fun p => p.2.seq).Perm
      (o.committed.map OutboxEvent.seq ++ o.uncommitted.map fun p => p.2.seq) := by
  have hsplit := (List.filter_append_perm (fun p : Nat × OutboxEvent => decide (p.1 = txn))
    o.uncommitted).map fun p => p.2.seq
  simp only [Outbox.commit, Outbox.rowsOf, List.map_append, List.append_assoc, List.map_map]
  refine List.Perm.append_left _ ?_
  simpa [List.map_append, Function.comp_def] using hsplit

/-- Every step keeps the numbering. -/
theorem Numbered.step {s : Polling H} (h : Numbered s) (l : PollStep) :
    Numbered (s.step applier l) := by
  cases l with
  | insert txn e =>
      have hnew : ∀ n ∈ s.outbox.committed.map OutboxEvent.seq
          ++ s.outbox.uncommitted.map fun p => p.2.seq, n ≠ s.outbox.nextSeq := by
        intro n hn
        rcases List.mem_append.mp hn with hc | hu
        · obtain ⟨e', he', rfl⟩ := List.mem_map.mp hc
          exact (h.committed_lt e' he').ne
        · obtain ⟨p, hp, rfl⟩ := List.mem_map.mp hu
          exact (h.uncommitted_lt p hp).ne
      refine ⟨?_, ?_, ?_, ?_⟩
      · simp only [Polling.step, Outbox.insert, List.map_append, List.map_cons, List.map_nil,
          ← List.append_assoc]
        exact List.nodup_append.mpr ⟨h.distinct, List.nodup_singleton _, fun a ha b hb =>
          List.mem_singleton.mp hb ▸ hnew a ha⟩
      · intro e' he'
        exact (h.committed_lt e' he').trans (Nat.lt_succ_self _)
      · intro p hp
        rcases List.mem_append.mp hp with hp | hp
        · exact (h.uncommitted_lt p hp).trans (Nat.lt_succ_self _)
        · rw [List.mem_singleton.mp hp]
          exact Nat.lt_succ_self _
      · exact h.mark_lt.trans (Nat.lt_succ_self _)
  | commit txn =>
      refine ⟨(perm_commit s.outbox txn).nodup_iff.mpr h.distinct, ?_, ?_, h.mark_lt⟩
      · intro e he
        rcases List.mem_append.mp he with he | he
        · exact h.committed_lt e he
        · exact h.uncommitted_lt _ (mem_rowsOf.mp he)
      · intro p hp
        exact h.uncommitted_lt p (List.mem_of_mem_filter hp)
  | rollback txn =>
      refine ⟨?_, h.committed_lt, ?_, h.mark_lt⟩
      · refine h.distinct.sublist (List.Sublist.append (List.Sublist.refl _) ?_)
        exact List.Sublist.map _ List.filter_sublist
      · intro p hp
        exact h.uncommitted_lt p (List.mem_of_mem_filter hp)
  | poll fault =>
      have ho := poll_outbox applier s fault
      have hmark : (s.step applier (.poll fault)).mark < s.outbox.nextSeq := by
        rw [poll_mark]
        cases fault with
        | none => exact h.page_lt
        | fetch | cursor => exact h.mark_lt
      exact ⟨ho ▸ h.distinct, ho ▸ h.committed_lt, ho ▸ h.uncommitted_lt, ho ▸ hmark⟩

/-- Behind open rows a step keeps what the cursor has passed returned. -/
theorem Caught.step {s : Polling H} (hn : Numbered s) (ha : Ahead s) (hc : Caught s)
    (l : PollStep) : Caught (s.step applier l) := by
  cases l with
  | insert txn e => exact hc
  | commit txn =>
      intro e he hle
      rcases List.mem_append.mp he with he | he
      · exact hc e he hle
      · exact absurd hle (Nat.not_le.mpr (ha _ (mem_rowsOf.mp he)))
  | rollback txn => exact hc
  | poll fault =>
      intro e he hle
      rw [poll_outbox] at he
      rw [poll_mark] at hle
      rw [poll_returned]
      by_cases hpast : e.seq ≤ s.mark
      · exact List.mem_append_left _ (hc e he hpast)
      · refine List.mem_append_right _ ?_
        cases fault with
        | none =>
            exact HighWater.mem_batch_of_le hn.distinct_committed he (Nat.lt_of_not_le hpast) hle
        | fetch | cursor => exact absurd hle hpast

/-- **One step.**  From behind the open rows, a step stays behind them exactly when its poll
does. -/
theorem ahead_step_iff {s : Polling H} (hn : Numbered s) (ha : Ahead s) (l : PollStep) :
    Ahead (s.step applier l) ↔ PollsBehind s l := by
  cases l with
  | insert txn e =>
      refine iff_of_true ?_ trivial
      intro p hp
      rcases List.mem_append.mp hp with hp | hp
      · exact ha p hp
      · rw [List.mem_singleton.mp hp]
        exact hn.mark_lt
  | commit txn | rollback txn =>
      exact iff_of_true (fun p hp => ha p (List.mem_of_mem_filter hp)) trivial
  | poll fault =>
      rw [Ahead, poll_outbox, poll_mark]
      cases fault with
      | none => exact forall₂_congr fun p hp => HighWater.advance_lt_iff (ha p hp)
      | fetch | cursor => exact iff_of_true ha trivial

/-! ### Runs -/

theorem numbered_start (hub : H) : Numbered (start hub) :=
  ⟨by simp [start, Outbox.empty], by simp [start, Outbox.empty], by simp [start, Outbox.empty],
    by simp [start, Outbox.empty, mark, getSyncCursor]⟩

/-- A run polls behind the open rows exactly when the cursor stays behind them throughout. -/
theorem admits_ahead_iff {s : Polling H} (hn : Numbered s) (ha : Ahead s)
    (steps : List PollStep) :
    Admits (step applier) PollsBehind s steps
      ↔ Admits (step applier) (fun s l => Ahead (s.step applier l)) s steps := by
  induction steps generalizing s with
  | nil => exact Iff.rfl
  | cons l ls ih =>
      simp only [admits_cons]
      constructor
      · rintro ⟨hl, hls⟩
        have ha' := (ahead_step_iff applier hn ha l).mpr hl
        exact ⟨ha', (ih (hn.step applier l) ha').mp hls⟩
      · rintro ⟨ha', hls⟩
        exact ⟨(ahead_step_iff applier hn ha l).mp ha', (ih (hn.step applier l) ha').mpr hls⟩

/-- What a run that polls behind the open rows keeps. -/
theorem caught_run {hub : H} {steps : List PollStep}
    (h : Admits (step applier) PollsBehind (start hub) steps) :
    let s := run (step applier) (start hub) steps
    Numbered s ∧ Ahead s ∧ Caught s := by
  refine run_invariant (I := fun s => Numbered s ∧ Ahead s ∧ Caught s) ?_
    ⟨numbered_start hub, ?_, ?_⟩ h
  · rintro s l ⟨hn, ha, hc⟩ hl
    exact ⟨hn.step applier l, (ahead_step_iff applier hn ha l).mpr hl, hc.step applier hn ha l⟩
  · intro p hp
    cases hp
  · intro e he
    cases he

theorem returned_step {s : Polling H} {e : OutboxEvent} (h : e ∈ s.returned) (l : PollStep) :
    e ∈ (s.step applier l).returned := by
  cases l with
  | insert | commit | rollback => exact h
  | poll fault =>
      rw [poll_returned]
      exact List.mem_append_left _ h

theorem returned_run {s : Polling H} {e : OutboxEvent} (h : e ∈ s.returned)
    (steps : List PollStep) : e ∈ (run (step applier) s steps).returned := by
  induction steps generalizing s with
  | nil => exact h
  | cons l ls ih => exact ih (returned_step applier h l)

theorem committed_step {s : Polling H} {e : OutboxEvent} (h : e ∈ s.outbox.committed)
    (l : PollStep) : e ∈ (s.step applier l).outbox.committed := by
  cases l with
  | insert | rollback => exact h
  | commit => exact List.mem_append_left _ h
  | poll fault => rw [poll_outbox]; exact h

/-- **Enough polls.**  A committed event the cursor has not passed is returned once the polls
outnumber the numbers between: each of them returns it, or moves the cursor towards it. -/
theorem returned_of_completedPolls {s : Polling H} (hn : Numbered s) {e : OutboxEvent}
    (he : e ∈ s.outbox.committed) (hm : s.mark < e.seq) (steps : List PollStep)
    (hp : e.seq - s.mark ≤ completedPolls steps) :
    e ∈ (run (step applier) s steps).returned := by
  induction steps generalizing s with
  | nil =>
      simp only [completedPolls, List.countP_nil] at hp
      omega
  | cons l ls ih =>
      have hn' := hn.step applier l
      have he' := committed_step applier he l
      by_cases hl : l = .poll .none
      · subst hl
        have hcount : completedPolls (.poll .none :: ls) = completedPolls ls + 1 := by
          simp [completedPolls]
        by_cases hret : e ∈ s.page
        · refine returned_run applier ?_ ls
          rw [poll_returned]
          exact List.mem_append_right _ hret
        · have hlt : HighWater.advance OutboxEvent.seq s.mark s.page < e.seq := by
            by_contra hge
            exact hret (HighWater.mem_batch_of_le hn.distinct_committed he hm
              (Nat.le_of_not_lt hge))
          have hmoves : s.mark < HighWater.advance OutboxEvent.seq s.mark s.page :=
            HighWater.lt_advance (by decide) he hm
          have hmark : (s.step applier (.poll .none)).mark
              = HighWater.advance OutboxEvent.seq s.mark s.page := poll_mark applier s .none
          exact ih hn' he' (hmark ▸ hlt) (by omega)
      · have hcount : completedPolls (l :: ls) = completedPolls ls := by
          rcases l with _ | _ | _ | (_ | _ | _) <;> first | rfl | exact absurd rfl hl
        have hmark : (s.step applier l).mark = s.mark := by
          rcases l with _ | _ | _ | fault
          · rfl
          · rfl
          · rfl
          · rw [poll_mark]
            cases fault with
            | none => exact absurd rfl hl
            | fetch | cursor => rfl
        exact ih hn' he' (hmark ▸ hm) (by rw [hmark, ← hcount]; exact hp)

end Polling

open Polling

/-- **The cursor and open transactions.**  A run keeps its cursor behind every row of an open
transaction exactly when each poll stays below these rows, and then every committed event has
been returned after at most as many further completed polls as its number, whatever else
happens between them. -/
theorem outbox_events_all_returned (hub : H) (steps : List PollStep) :
    (Admits (step applier) PollsBehind (start hub) steps
      ↔ Admits (step applier) (fun s l => Ahead (s.step applier l)) (start hub) steps) ∧
    (Admits (step applier) PollsBehind (start hub) steps →
      ∀ e ∈ (run (step applier) (start hub) steps).outbox.committed, ∀ more : List PollStep,
        e.seq ≤ completedPolls more →
          e ∈ (run (step applier) (start hub) (steps ++ more)).returned) := by
  refine ⟨admits_ahead_iff applier (numbered_start hub) ?_ steps, ?_⟩
  · intro p hp
    cases hp
  · intro h e he more hp
    obtain ⟨hn, -, hc⟩ := caught_run applier h
    rw [run_append]
    by_cases hm : e.seq ≤ (run (step applier) (start hub) steps).mark
    · exact returned_run applier (hc e he hm) more
    · exact returned_of_completedPolls applier hn he (Nat.lt_of_not_le hm) more (by omega)

/-- The delete event of a site. -/
def siteDeleted : OutboxEvent where
  seq := 0
  at_ := .datetime 0
  eventType := "site.deleted"
  entityType := "site"
  entityId := "site-1"
  payload _ := none
  scopeClaims := none
  tombstoneFor := some "site-1"

/-- A hub that applies whatever it is sent. -/
def acceptAll (hub : Unit) (_ : OutboxEvent) : Except String (Unit × Bool) := .ok (hub, true)

/-- Transaction 1 inserts first and commits last, and a poll comes in between. -/
def overtakingRun : List PollStep :=
  [.insert 1 siteDeleted, .insert 2 siteDeleted, .commit 2, .poll .none, .commit 1]

theorem overtakingRun_polls (n : Nat) :
    run (step acceptAll) (run (step acceptAll) (start ()) overtakingRun)
        (List.replicate n (.poll .none))
      = run (step acceptAll) (start ()) overtakingRun := by
  induction n with
  | zero => rfl
  | succ n ih => exact ih

/-- An event is lost: its transaction commits after the cursor has passed its number. -/
theorem outbox_event_overtaken :
    ¬ ∀ (steps : List PollStep),
      ∀ e ∈ (run (step acceptAll) (start ()) steps).outbox.committed,
        ∃ n, ∀ more : List PollStep, n ≤ completedPolls more →
          e ∈ (run (step acceptAll) (start ()) (steps ++ more)).returned := by
  intro h
  have hmem : ({ siteDeleted with seq := 1 } : OutboxEvent)
      ∈ (run (step acceptAll) (start ()) overtakingRun).outbox.committed :=
    .tail _ (.head _)
  obtain ⟨n, hn⟩ := h overtakingRun _ hmem
  have hret := hn (List.replicate n (.poll .none)) (by simp [completedPolls, List.countP_replicate])
  rw [run_append, overtakingRun_polls] at hret
  have hseq : (run (step acceptAll) (start ()) overtakingRun).returned.map OutboxEvent.seq
      = [2] := by decide
  have := List.mem_map_of_mem (f := OutboxEvent.seq) hret
  rw [hseq] at this
  simp at this

end RebooterHub.Sync
