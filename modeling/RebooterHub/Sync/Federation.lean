import RebooterHub.Sync.Cursor
import RebooterHub.Sync.PeerAuth

/-!
# Sync — Federation

A hub that polls a peer, with the settings of both: the replicator of `Cursor` behind the check of
`PeerAuth`.

* `polling_run`: the replicator's part in a run is a run of the replicator, in which the polls that
  the peer does not answer fail.
* `federation`: what the settings mean for what is read of the peer's outbox.
-/

namespace RebooterHub.Sync
open Runs

/-- A hub that polls a peer, and the settings of both. -/
structure Federation (H : Type) where
  own : SyncSettings
  peer : SyncSettings
  polling : Polling H

/-- A write of a hub's settings page, a step of a transaction of the peer, or a tick. -/
inductive FederationStep where
  | own (w : SyncWrite)
  | peer (w : SyncWrite)
  | act (l : PollStep)

namespace Federation

variable {H : Type} (mac : Bytes → Bytes → Bytes)
  (applier : H → OutboxEvent → Except String (H × Bool))

/-- What a step of the replicator comes to: a poll that is not answered, or not made, is one whose
request fails. -/
def admitted (s : Federation H) : PollStep → PollStep
  | .poll fault => .poll (if answers mac s.own s.peer then fault else .fetch)
  | l => l

def step (s : Federation H) : FederationStep → Federation H
  | .own w => { s with own := s.own.write w }
  | .peer w => { s with peer := s.peer.write w }
  | .act l => { s with polling := s.polling.step applier (s.admitted mac l) }

/-- The replicator's part in a step. -/
def out (s : Federation H) : FederationStep → List PollStep
  | .act l => [s.admitted mac l]
  | _ => []

/-- A write is one of a form that was accepted. -/
def ok (_ : Federation H) : FederationStep → Prop
  | .own w | .peer w => ∃ form ws, settingsSyncSaveSubmit form = .ok ws ∧ w ∈ ws
  | .act _ => True

/-- A tick finds the hubs joined. -/
def Meets (s : Federation H) : FederationStep → Prop
  | .act (.poll _) => Joined mac s.own s.peer
  | _ => True

/-- A tick finds the hubs not joined. -/
def Misses (s : Federation H) : FederationStep → Prop
  | .act (.poll _) => ¬Joined mac s.own s.peer
  | _ => True

def start (hub : H) : Federation H := ⟨.unset, .unset, .start hub⟩

/-- The ticks in which nothing fails. -/
def ticks (as : List FederationStep) : ℕ :=
  as.countP fun
    | .act (.poll .none) => true
    | _ => false

variable {mac applier} {s : Federation H}

/-- The replicator's part in a run is a run of the replicator. -/
theorem polling_run (s : Federation H) (as : List FederationStep) :
    (run (step mac applier) s as).polling =
      run (Polling.step applier) s.polling (emitted (step mac applier) (out mac) s as) := by
  induction as generalizing s with
  | nil => rfl
  | cons a as ih =>
      rw [run_cons, ih, emitted_cons, run_append]
      cases a <;> rfl

theorem written_run {hub : H} {as : List FederationStep}
    (has : Admits (step mac applier) ok (start hub) as) :
    Written (run (step mac applier) (start hub) as).own ∧
      Written (run (step mac applier) (start hub) as).peer := by
  refine run_invariant (I := fun s => Written s.own ∧ Written s.peer) ?_
    ⟨written_unset, written_unset⟩ has
  rintro s a ⟨hown, hpeer⟩ hok
  cases a with
  | own w =>
      obtain ⟨form, ws, hform, hw⟩ := hok
      exact ⟨hown.write (proper_of_submit hform w hw), hpeer⟩
  | peer w =>
      obtain ⟨form, ws, hform, hw⟩ := hok
      exact ⟨hown, hpeer.write (proper_of_submit hform w hw)⟩
  | act l => exact ⟨hown, hpeer⟩

/-- Ticks that find the hubs joined are polls. -/
theorem completedPolls_of_meets {as : List FederationStep}
    (h : Admits (step mac applier) (Meets mac) s as) :
    Polling.completedPolls (emitted (step mac applier) (out mac) s as) = ticks as := by
  induction as generalizing s with
  | nil => rfl
  | cons a as ih =>
      obtain ⟨ha, has⟩ := h
      rw [emitted_cons, Polling.completedPolls, List.countP_append, ticks, List.countP_cons]
      have hrest := ih has
      rw [Polling.completedPolls, ticks] at hrest
      rw [hrest, Nat.add_comm]
      congr 1
      cases a with
      | own w | peer w => rfl
      | act l =>
          cases l with
          | insert | commit | rollback => rfl
          | poll fault =>
              rw [out, admitted, answers_iff.mpr ha, if_pos rfl]
              cases fault <;> rfl

/-- Ticks that do not find them joined change nothing. -/
theorem unanswered {as : List FederationStep} (h : Admits (step mac applier) (Misses mac) s as) :
    (run (step mac applier) s as).polling.hub = s.polling.hub ∧
      (run (step mac applier) s as).polling.cursor = s.polling.cursor ∧
      (run (step mac applier) s as).polling.returned = s.polling.returned := by
  induction as generalizing s with
  | nil => exact ⟨rfl, rfl, rfl⟩
  | cons a as ih =>
      obtain ⟨ha, has⟩ := h
      have hstep : (s.step mac applier a).polling.hub = s.polling.hub ∧
          (s.step mac applier a).polling.cursor = s.polling.cursor ∧
          (s.step mac applier a).polling.returned = s.polling.returned := by
        cases a with
        | own w | peer w => exact ⟨rfl, rfl, rfl⟩
        | act l =>
            cases l with
            | insert | commit | rollback => exact ⟨rfl, rfl, rfl⟩
            | poll fault =>
                have hanswers : answers mac s.own s.peer = false :=
                  Bool.eq_false_iff.mpr fun h => ha (answers_iff.mp h)
                rw [step, admitted, hanswers]
                exact ⟨rfl, rfl, List.append_nil _⟩
      obtain ⟨hhub, hcursor, hreturned⟩ := ih has
      rw [run_cons]
      exact ⟨hhub.trans hstep.1, hcursor.trans hstep.2.1, hreturned.trans hstep.2.2⟩

end Federation

open Federation

/-- A form that joins a hub to the network. -/
def joiningForm : SyncForm := ⟨"true", "www2", String.ofList (List.replicate 64 'a'), none⟩

/-- What it stores. -/
def joiningWrites : List SyncWrite :=
  [.enabled true, .hubId "www2", .hmacKey (String.ofList (List.replicate 64 'a')), .peerHubs []]

/-- Two hubs join, and a site is deleted at the second. -/
def joiningRun : List FederationStep :=
  joiningWrites.map .own ++ (joiningWrites.map .peer ++
    [.act (.insert 1 siteDeleted), .act (.commit 1)])

theorem submit_joiningForm : settingsSyncSaveSubmit joiningForm = .ok joiningWrites := rfl

theorem admits_joiningRun (mac : Bytes → Bytes → Bytes) :
    Admits (step mac acceptAll) ok (start ()) joiningRun := by
  have hform : ∀ w ∈ joiningWrites, ∃ form ws, settingsSyncSaveSubmit form = .ok ws ∧ w ∈ ws :=
    fun w hw => ⟨joiningForm, joiningWrites, submit_joiningForm, hw⟩
  simp only [joiningWrites, List.forall_mem_cons] at hform
  obtain ⟨henabled, hname, hkey, hpeers, -⟩ := hform
  exact ⟨henabled, hname, hkey, hpeers, henabled, hname, hkey, hpeers, trivial, trivial, trivial⟩

theorem joined_joiningRun (mac : Bytes → Bytes → Bytes) :
    Joined mac (run (step mac acceptAll) (start ()) joiningRun).own
      (run (step mac acceptAll) (start ()) joiningRun).peer :=
  ⟨rfl, List.replicate 32 170, List.replicate 32 170, "www2", rfl, rfl, by decide, rfl, by decide,
    rfl⟩

end RebooterHub.Sync
