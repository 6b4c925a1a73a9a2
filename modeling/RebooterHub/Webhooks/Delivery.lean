import Mathlib
import RebooterHub.Support.Retry
import RebooterHub.Support.Runs
import RebooterHub.Tenancy.Notifications

/-!
# Webhooks — Delivery

The queue of webhook deliveries: `send_one`, which makes one attempt at one of them, and `tick`,
which makes one at each that is due.

The attempt is a row's transaction: the request goes out before the row is written, and the first
characters of the answer are among what is written.

* `deliveries_disciplined`: while the database stores what the attempts write, a delivery is
  attempted at most `MAX_ATTEMPTS` times, with the back-off between, not again once it is sent,
  dead or blocked, and is dead when that many have failed.
* `nul_answer`: PostgreSQL stores no NUL, so the attempt that is answered with one is rolled back
  and the next tick makes it again.
-/

namespace RebooterHub.Webhooks
open Rows Runs Retry Tenancy

/-- `MAX_ATTEMPTS`. -/
def maxAttempts : Nat := 5

/-- `BATCH_SIZE`. -/
def batchSize : Nat := 20

/-- `_backoff_delay`. -/
def backoffDelay (attempts : Nat) : Time := seconds (60 * (attempts * attempts))

/-- A row of `webhook_deliveries`. -/
structure Delivery extends WebhookDelivery where
  id : Nat
  httpStatus : Option Nat
  responseSnippet : Option String
  updatedAt : Time
deriving DecidableEq, Repr

/-- What formatting a delivery and `safe_request` come to. -/
inductive Outcome where
  | response (statusCode : Nat) (text : String)
  /-- An `SSRFBlockedError`. -/
  | blocked (reason : String)
  /-- Another exception, and the status that had been read before it. -/
  | raised (statusCode : Option Nat) (error : String)
deriving DecidableEq, Repr

/-- `200 <= resp.status_code < 300`. -/
def Outcome.succeeded : Outcome → Bool
  | .response statusCode _ => 200 ≤ statusCode && statusCode < 300
  | _ => false

/-- The attempt is one that may be repeated. -/
def Outcome.failed : Outcome → Bool
  | .blocked _ => false
  | o => !o.succeeded

/-- An attempt, and what the clock reads during it: when it is counted, when the next one is
scheduled and when the row is done. -/
structure Request where
  outcome : Outcome
  startedAt : Time
  scheduledAt : Time
  finishedAt : Time
  ordered : startedAt ≤ scheduledAt
deriving DecidableEq, Repr

/-- What `send_one` finds. -/
inductive Send where
  /-- The row has gone since the tick read it, with its channel. -/
  | gone
  | noChannel (now : Time)
  | request (r : Request)
deriving DecidableEq, Repr

/-- `text[:500]`. -/
def snippet (text : String) : String := String.ofList (text.toList.take 500)

/-- The answer that an attempt leaves on the row. -/
def Outcome.writes : Outcome → String
  | .response statusCode text =>
      snippet
        (if 200 ≤ statusCode ∧ statusCode < 300 then text else s!"HTTP {statusCode}")
  | .blocked reason => snippet ("blocked by SSRF guard: " ++ reason)
  | .raised _ error => snippet error

/-- The text that `send_one` writes. -/
def Send.writes : Send → Option String
  | .gone => none
  | .noChannel _ => some "channel deleted"
  | .request r => some r.outcome.writes

/-- `_schedule_retry_or_dead`. -/
def Delivery.scheduleRetryOrDead (d : Delivery) (error : String) (now : Time) : Delivery :=
  let d := { d with responseSnippet := some (snippet error) }
  if maxAttempts ≤ d.attempts then { d with status := .dead, nextAttemptAt := none }
  else { d with status := .failed, nextAttemptAt := some (now + backoffDelay d.attempts) }

/-- What the outcome of an attempt does to the row. -/
def Delivery.record (d : Delivery) (r : Request) : Delivery :=
  match r.outcome with
  | .response statusCode text =>
      let d := { d with httpStatus := some statusCode, responseSnippet := some (snippet text) }
      if 200 ≤ statusCode ∧ statusCode < 300 then { d with status := .sent, nextAttemptAt := none }
      else d.scheduleRetryOrDead s!"HTTP {statusCode}" r.scheduledAt
  | .blocked reason =>
      { d with
        status := .dead
        nextAttemptAt := none
        responseSnippet := some (snippet ("blocked by SSRF guard: " ++ reason)) }
  | .raised statusCode error =>
      { d with httpStatus := statusCode.or d.httpStatus }.scheduleRetryOrDead error r.scheduledAt

/-- `send_one`, up to its commit. -/
def Delivery.sendOne (d : Delivery) : Send → Delivery
  | .gone => d
  | .noChannel now =>
      { d with status := .dead, responseSnippet := some "channel deleted", updatedAt := now }
  | .request r =>
      { ({ d with attempts := d.attempts + 1 } : Delivery).record r with updatedAt := r.finishedAt }

@[simp] theorem Delivery.scheduleRetryOrDead_id (d : Delivery) (error : String) (now : Time) :
    (d.scheduleRetryOrDead error now).id = d.id := by
  rw [scheduleRetryOrDead]
  split <;> rfl

@[simp] theorem Delivery.record_id (d : Delivery) (r : Request) : (d.record r).id = d.id := by
  rw [record]
  split
  · split
    · rfl
    · exact scheduleRetryOrDead_id ..
  · rfl
  · exact scheduleRetryOrDead_id ..

@[simp] theorem Delivery.sendOne_id (d : Delivery) (s : Send) : (d.sendOne s).id = d.id := by
  cases s with
  | gone => rfl
  | noChannel now => rfl
  | request r => exact record_id ..

/-- An attempt that was made, and at which delivery. -/
structure Attempt where
  delivery : Nat
  request : Request
deriving DecidableEq, Repr

/-- The queue, and the attempts made so far, the latest first. -/
structure Worker where
  rows : List Delivery
  nextId : Nat
  attempts : List Attempt
  keyed : Keyed Delivery.id rows
  fresh : ∀ d ∈ rows, d.id < nextId

namespace Worker

def empty : Worker where
  rows := []
  nextId := 1
  attempts := []
  keyed := List.nodup_nil
  fresh := List.forall_mem_nil _

/-- The attempts at a delivery, the latest first. -/
def history (w : Worker) (id : Nat) : List Request :=
  (w.attempts.filter (·.delivery = id)).map (·.request)

/-- `_queue_for_channel`: the row is added. -/
def queue (w : Worker) (channel : WebhookChannel) (e : Event) : Worker where
  rows := w.rows ++ [⟨queueForChannel channel e, w.nextId, none, none, e.now⟩]
  nextId := w.nextId + 1
  attempts := w.attempts
  keyed := by
    refine w.keyed.append (find?_eq_none_iff.mpr fun h => ?_)
    obtain ⟨d, hd, hid⟩ := List.mem_map.mp h
    exact absurd (w.fresh d hd) (by rw [hid]; exact Nat.lt_irrefl _)
  fresh := by
    intro d hd
    rcases List.mem_append.mp hd with hd | hd
    · exact Nat.lt_succ_of_lt (w.fresh d hd)
    · rw [List.mem_singleton.mp hd]
      exact Nat.lt_succ_self _

/-- A row is deleted, or a channel with its rows. -/
def delete (w : Worker) (p : Delivery → Bool) : Worker where
  rows := w.rows.filter (!p ·)
  nextId := w.nextId
  attempts := w.attempts
  keyed := w.keyed.filter _
  fresh := fun d hd => w.fresh d (List.mem_of_mem_filter hd)

/-- The commit of `send_one`. -/
def commit (w : Worker) (id : Nat) (s : Send) : Worker where
  rows := amend Delivery.id id (·.sendOne s) w.rows
  nextId := w.nextId
  attempts := w.attempts
  keyed := w.keyed.amend (Delivery.sendOne_id · s)
  fresh := forall_amend w.fresh fun d hd _ => by
    rw [Delivery.sendOne_id]
    exact w.fresh d hd

/-- The request of an attempt is made. -/
def attempt (w : Worker) (id : Nat) : Send → Worker
  | .request r => { w with attempts := ⟨id, r⟩ :: w.attempts }
  | _ => w

end Worker

/-- How `send_one` ends. -/
inductive Ending where
  /-- `delivery not found`. -/
  | missing
  | returned (status : DeliveryStatus)
  /-- The commit raised a `DataError`. -/
  | raised
deriving DecidableEq, Repr

/-- The counts that a tick returns. -/
structure Stats where
  considered : Nat := 0
  sent : Nat := 0
  failed : Nat := 0
  dead : Nat := 0
deriving DecidableEq, Repr

/-- The turn of one delivery, in the counts. -/
def Stats.count (stats : Stats) (status : Option DeliveryStatus) : Stats :=
  let stats := { stats with considered := stats.considered + 1 }
  match status with
  | some .sent => { stats with sent := stats.sent + 1 }
  | some .dead => { stats with dead := stats.dead + 1 }
  | some .failed => { stats with failed := stats.failed + 1 }
  | _ => stats

namespace Worker
variable (stores : String → Bool)

/-- `send_one`.  Where the database does not store the text of the row, the row stays as it was. -/
def sendOne (w : Worker) (id : Nat) (s : Send) : Worker × Ending :=
  match w.rows.find? (·.id = id) with
  | none => (w, .missing)
  | some d =>
      if s = .gone then (w.delete (·.id = id), .missing)
      else if (d.sendOne s).responseSnippet.all stores then
        ((w.attempt id s).commit id s, .returned (d.sendOne s).status)
      else (w.attempt id s, .raised)

/-- The loop of `tick`: an exception ends it. -/
def drain (sends : Nat → Send) : List Nat → Worker → Stats → Worker × Option Stats
  | [], w, stats => (w, some stats)
  | id :: ids, w, stats =>
      match w.sendOne stores id (sends id) with
      | (w, .missing) => drain sends ids w (stats.count none)
      | (w, .returned status) => drain sends ids w (stats.count (some status))
      | (w, .raised) => (w, none)

end Worker

/-- A delivery that the query of a tick finds. -/
def Delivery.due (d : Delivery) (now : Time) : Bool :=
  (d.status = .pending || d.status = .failed) && d.nextAttemptAt.any (· ≤ now)

/-- What a tick meets: the time of its query and what becomes of each delivery it sends.  The
clock does not go back while it runs. -/
structure Tick where
  now : Time
  sends : Nat → Send
  ordered : ∀ id r, sends id = .request r → now ≤ r.startedAt

namespace Worker

/-- `due_ids`. -/
def dueIds (w : Worker) (now : Time) : List Nat :=
  let due := w.rows.filter (Delivery.due · now)
  let sorted := due.insertionSort fun d d' => d.nextAttemptAt.getD now ≤ d'.nextAttemptAt.getD now
  (sorted.take batchSize).map (·.id)

/-- `tick`. -/
def tick (stores : String → Bool) (w : Worker) (t : Tick) : Worker × Option Stats :=
  w.drain stores t.sends (w.dueIds t.now) {}

end Worker

/-- What happens to the queue. -/
inductive Step where
  | queue (channel : WebhookChannel) (e : Event)
  /-- `delete_channel`. -/
  | deleteChannel (channelId : String)
  | tick (t : Tick)

/-- One step. -/
def Worker.step (stores : String → Bool) (w : Worker) : Step → Worker
  | .queue channel e => w.queue channel e
  | .deleteChannel channelId => w.delete (·.channelId = channelId)
  | .tick t => (w.tick stores t).1

/-! ### What one attempt leaves -/

/-- The policy of the queue. -/
def policy : Policy Request Time where
  budget := maxAttempts
  failed := (·.outcome.failed)
  startedAt := (·.startedAt)
  retryAt := fun n r => r.scheduledAt + backoffDelay n

namespace Delivery
variable {d : Delivery} {r : Request} {s : Send}

/-- The text that is written is the one that the send says. -/
theorem sendOne_responseSnippet (hs : s ≠ .gone) : (d.sendOne s).responseSnippet = s.writes := by
  cases s with
  | gone => exact absurd rfl hs
  | noChannel now => rfl
  | request r =>
      obtain ⟨o, startedAt, scheduledAt, finishedAt, hordered⟩ := r
      cases o with
      | response statusCode text =>
          by_cases h : 200 ≤ statusCode ∧ statusCode < 300
          · simp [sendOne, record, Send.writes, Outcome.writes, h]
          · simp only [sendOne, record, Send.writes, Outcome.writes, scheduleRetryOrDead, if_neg h]
            split <;> rfl
      | blocked reason => rfl
      | raised statusCode error =>
          simp only [sendOne, record, Send.writes, Outcome.writes, scheduleRetryOrDead]
          split <;> rfl

/-- What an attempt comes to does not change the count. -/
theorem record_attempts (d : Delivery) (r : Request) : (d.record r).attempts = d.attempts := by
  have hretry : ∀ (d : Delivery) error now,
      (d.scheduleRetryOrDead error now).attempts = d.attempts := by
    intro d error now
    rw [scheduleRetryOrDead]
    split <;> rfl
  rw [record]
  split
  · split
    · rfl
    · exact hretry ..
  · rfl
  · exact hretry ..

/-- A failure schedules the next attempt, or leaves the delivery dead. -/
theorem scheduleRetryOrDead_cases (d : Delivery) (error : String) (now : Time) :
    (d.attempts < maxAttempts ∧ (d.scheduleRetryOrDead error now).status = .failed ∧
      (d.scheduleRetryOrDead error now).nextAttemptAt = some (now + backoffDelay d.attempts)) ∨
    (d.scheduleRetryOrDead error now).status = .dead := by
  rw [scheduleRetryOrDead]
  split
  · exact .inr rfl
  · next h => exact .inl ⟨Nat.lt_of_not_le h, rfl, rfl⟩

/-- An attempt that is recorded failed and another is scheduled, or it was not one to repeat and
the delivery is sent, or the delivery is dead. -/
theorem record_cases (d : Delivery) (r : Request) :
    (r.outcome.failed ∧ d.attempts < maxAttempts ∧ (d.record r).status = .failed ∧
      (d.record r).nextAttemptAt = some (r.scheduledAt + backoffDelay d.attempts)) ∨
    (¬r.outcome.failed ∧ (d.record r).status = .sent) ∨ (d.record r).status = .dead := by
  obtain ⟨o, startedAt, scheduledAt, finishedAt, hordered⟩ := r
  cases o with
  | response statusCode text =>
      by_cases h : 200 ≤ statusCode ∧ statusCode < 300
      · exact .inr (.inl (by simp [record, Outcome.failed, Outcome.succeeded, h]))
      · have hfailed : (Outcome.response statusCode text).failed := by
          simpa [Outcome.failed, Outcome.succeeded, -not_and, not_and_or] using h
        have hrecord :
            d.record ⟨.response statusCode text, startedAt, scheduledAt, finishedAt, hordered⟩ =
            ({ d with
                httpStatus := some statusCode
                responseSnippet := some (snippet text) } : Delivery).scheduleRetryOrDead
              s!"HTTP {statusCode}" scheduledAt := by
          rw [record]
          exact if_neg h
        rw [hrecord]
        rcases scheduleRetryOrDead_cases
            { d with httpStatus := some statusCode, responseSnippet := some (snippet text) }
            s!"HTTP {statusCode}" scheduledAt with hagain | hdead
        · exact .inl ⟨hfailed, hagain⟩
        · exact .inr (.inr hdead)
  | blocked reason => exact .inr (.inr rfl)
  | raised statusCode error =>
      rcases scheduleRetryOrDead_cases { d with httpStatus := statusCode.or d.httpStatus } error
        scheduledAt with hagain | hdead
      · exact .inl ⟨rfl, hagain⟩
      · exact .inr (.inr hdead)

end Delivery

/-- A row agrees with the attempts that were made at it. -/
structure Tracks (as : List Request) (d : Delivery) : Prop where
  count : as.length = d.attempts
  active : d.status = .pending ∨ d.status = .failed →
    ∃ t, d.nextAttemptAt = some t ∧ Open policy as t
  exhausted : maxAttempts ≤ (as.filter (·.outcome.failed)).length → d.status = .dead

section
variable {as : List Request} {d : Delivery} {r : Request} {t now : Time}

theorem Tracks.of_settled {d' : Delivery} (h : Tracks as d) (hattempts : d'.attempts = d.attempts)
    (hdead : d'.status = .dead) : Tracks as d' where
  count := h.count.trans hattempts.symm
  active := by simp [hdead]
  exhausted := fun _ => hdead

/-- A due row may be attempted. -/
theorem Tracks.open_of_due (h : Tracks as d) (hdue : d.due now) : Open policy as now := by
  rw [Delivery.due, Bool.and_eq_true, Bool.or_eq_true, decide_eq_true_eq, decide_eq_true_eq] at hdue
  obtain ⟨t, ht, hopen⟩ := h.active hdue.1
  have hle : t ≤ now := by simpa [ht] using hdue.2
  exact ⟨hopen.length, hopen.failed, fun a ha => (hopen.retryAt a ha).trans hle⟩

/-- An attempt at a row that may be attempted. -/
theorem Tracks.request (h : Tracks as d) (hopen : Open policy as t) :
    Tracks (r :: as) (d.sendOne (.request r)) := by
  have hcount : (r :: as).length = d.attempts + 1 := by rw [List.length_cons, h.count]
  have hfailed : ((r :: as).filter (·.outcome.failed)).length ≤ d.attempts + 1 :=
    (List.length_filter_le _ _).trans hcount.le
  have hattempts : (d.sendOne (.request r)).attempts = d.attempts + 1 := Delivery.record_attempts ..
  rcases Delivery.record_cases { d with attempts := d.attempts + 1 } r with
    ⟨hr, hlt, hstatus, hnext⟩ | ⟨hr, hstatus⟩ | hdead
  · refine ⟨hcount.trans hattempts.symm, fun _ => ⟨_, hnext, ?_⟩, fun hmax => ?_⟩
    · have hlength : as.length + 1 < policy.budget := by rwa [h.count]
      have hagain : Open policy (r :: as) (r.scheduledAt + backoffDelay (as.length + 1)) :=
        hopen.again hr hlength
      rwa [h.count] at hagain
    · exact absurd (hmax.trans hfailed) (Nat.not_le_of_lt hlt)
  · have hsent : (d.sendOne (.request r)).status = .sent := hstatus
    refine ⟨hcount.trans hattempts.symm, fun hactive => by simp [hsent] at hactive, fun hmax => ?_⟩
    -- the attempts before it are too few
    have hskip : (r :: as).filter (·.outcome.failed) = as.filter (·.outcome.failed) :=
      List.filter_cons_of_neg hr
    rw [hskip] at hmax
    exact absurd (hmax.trans (List.length_filter_le _ _)) (Nat.not_le_of_lt hopen.length)
  · have hdead : (d.sendOne (.request r)).status = .dead := hdead
    exact ⟨hcount.trans hattempts.symm, fun hactive => by simp [hdead] at hactive, fun _ => hdead⟩

end

/-! ### One step of the queue -/

/-- What the attempts at a delivery and its row were, they are still, unless the row has gone. -/
structure Untouched (id : Nat) (w w' : Worker) : Prop where
  history : w'.history id = w.history id
  nextId : w'.nextId = w.nextId
  rows : ∀ d ∈ w'.rows, d.id = id → d ∈ w.rows

theorem Untouched.refl (id : Nat) (w : Worker) : Untouched id w w := ⟨rfl, rfl, fun _ hd _ => hd⟩

theorem Untouched.trans {id : Nat} {w w' w'' : Worker} (h : Untouched id w w')
    (h' : Untouched id w' w'') : Untouched id w w'' :=
  ⟨h'.history.trans h.history, h'.nextId.trans h.nextId,
    fun d hd hid => h.rows d (h'.rows d hd hid) hid⟩

/-- The queue agrees with the attempts, and these keep to the policy. -/
structure Worker.Sound (w : Worker) : Prop where
  paced : ∀ id, Paced policy (w.history id)
  unused : ∀ id, w.nextId ≤ id → w.history id = []
  tracks : ∀ d ∈ w.rows, Tracks (w.history d.id) d

namespace Worker
variable {w : Worker} {stores : String → Bool} {id id' : Nat} {s : Send} {now : Time}

theorem history_attempt_ne (h : id' ≠ id) : (w.attempt id s).history id' = w.history id' := by
  cases s with
  | gone => rfl
  | noChannel now => rfl
  | request r =>
      rw [history, attempt, List.filter_cons_of_neg (by simpa using Ne.symm h)]
      rfl

theorem history_attempt_self (w : Worker) (id : Nat) (r : Request) :
    (w.attempt id (.request r)).history id = r :: w.history id := by
  rw [history, attempt, List.filter_cons_of_pos (by simp)]
  rfl

@[simp] theorem rows_attempt (w : Worker) (id : Nat) (s : Send) :
    (w.attempt id s).rows = w.rows := by
  cases s <;> rfl

@[simp] theorem nextId_attempt (w : Worker) (id : Nat) (s : Send) :
    (w.attempt id s).nextId = w.nextId := by
  cases s <;> rfl

/-- What `send_one` can do. -/
theorem sendOne_cases (stores : String → Bool) (w : Worker) (id : Nat) (s : Send) :
    ((∀ d ∈ w.rows, d.id ≠ id) ∧ w.sendOne stores id s = (w, .missing)) ∨
    (s = .gone ∧ w.sendOne stores id s = (w.delete (·.id = id), .missing)) ∨
    (s ≠ .gone ∧ ∃ d ∈ w.rows, d.id = id ∧
      ((s.writes.all stores ∧ w.sendOne stores id s =
          ((w.attempt id s).commit id s, .returned (d.sendOne s).status)) ∨
        (¬s.writes.all stores ∧ w.sendOne stores id s = (w.attempt id s, .raised)))) := by
  cases hfind : w.rows.find? (·.id = id) with
  | none =>
      refine .inl ⟨fun d hd hid => ?_, by simp only [sendOne, hfind]⟩
      exact find?_eq_none_iff.mp hfind (List.mem_map.mpr ⟨d, hd, hid⟩)
  | some d =>
      obtain ⟨hd, hid⟩ := find?_key hfind
      by_cases hs : s = .gone
      · exact .inr (.inl ⟨hs, by simp only [sendOne, hfind, if_pos hs]⟩)
      · refine .inr (.inr ⟨hs, d, hd, hid, ?_⟩)
        by_cases hstores : s.writes.all stores
        · refine .inl ⟨hstores, ?_⟩
          simp only [sendOne, hfind, if_neg hs, Delivery.sendOne_responseSnippet hs, if_pos hstores]
        · refine .inr ⟨hstores, ?_⟩
          simp only [sendOne, hfind, if_neg hs, Delivery.sendOne_responseSnippet hs, if_neg hstores]

/-- `send_one` leaves the other deliveries alone. -/
theorem sendOne_untouched (stores : String → Bool) (w : Worker) (s : Send) (h : id' ≠ id) :
    Untouched id' w (w.sendOne stores id s).1 := by
  have hattempt : Untouched id' w (w.attempt id s) :=
    ⟨history_attempt_ne h, nextId_attempt .., fun d hd _ => by rwa [rows_attempt] at hd⟩
  rcases sendOne_cases stores w id s with
    ⟨-, heq⟩ | ⟨-, heq⟩ | ⟨-, d, -, -, ⟨-, heq⟩ | ⟨-, heq⟩⟩ <;> rw [heq]
  · exact .refl ..
  · exact ⟨rfl, rfl, fun d hd _ => List.mem_of_mem_filter hd⟩
  · refine hattempt.trans ⟨rfl, rfl, fun d hd hid => ?_⟩
    rcases mem_amend hd with ⟨hd, -⟩ | ⟨d, -, hk, rfl⟩
    · exact hd
    · exact absurd (hid.symm.trans ((Delivery.sendOne_id ..).trans hk)) h
  · exact hattempt

theorem nextId_sendOne (stores : String → Bool) (w : Worker) (id : Nat) (s : Send) :
    (w.sendOne stores id s).1.nextId = w.nextId :=
  (sendOne_untouched stores w s (Nat.succ_ne_self id)).nextId

/-- One attempt at a due delivery, whose text the database stores. -/
theorem Sound.sendOne (hw : w.Sound) (hdue : ∀ d ∈ w.rows, d.id = id → d.due now)
    (hordered : ∀ r, s = .request r → now ≤ r.startedAt) (hstores : s.writes.all stores) :
    (w.sendOne stores id s).1.Sound := by
  have hother : ∀ id', id' ≠ id → Untouched id' w (w.sendOne stores id s).1 :=
    fun id' h => sendOne_untouched stores w s h
  suffices h : Paced policy ((w.sendOne stores id s).1.history id) ∧
      (w.nextId ≤ id → (w.sendOne stores id s).1.history id = []) ∧
      ∀ d ∈ (w.sendOne stores id s).1.rows, d.id = id →
        Tracks ((w.sendOne stores id s).1.history id) d by
    obtain ⟨hpaced, hunused, htracks⟩ := h
    refine ⟨fun id' => ?_, fun id' hid' => ?_, fun d hd => ?_⟩
    · by_cases h : id' = id
      · rwa [h]
      · rw [(hother id' h).history]
        exact hw.paced id'
    · rw [nextId_sendOne] at hid'
      by_cases h : id' = id
      · rw [h] at hid' ⊢
        exact hunused hid'
      · rw [(hother id' h).history]
        exact hw.unused id' hid'
    · by_cases h : d.id = id
      · rw [h]
        exact htracks d hd h
      · rw [(hother d.id h).history]
        exact hw.tracks d ((hother d.id h).rows d hd rfl)
  rcases sendOne_cases stores w id s with
    ⟨hnone, heq⟩ | ⟨-, heq⟩ | ⟨hs, d, hd, rfl, ⟨-, heq⟩ | ⟨hnot, -⟩⟩
  · rw [heq]
    exact ⟨hw.paced id, hw.unused id, fun d hd hid => absurd hid (hnone d hd)⟩
  · rw [heq]
    refine ⟨hw.paced id, hw.unused id, fun d hd hid => ?_⟩
    simp [delete, hid] at hd
  · rw [heq]
    have htracks := hw.tracks d hd
    have hused : ¬w.nextId ≤ d.id := Nat.not_le_of_lt (w.fresh d hd)
    have hrow : ∀ d' ∈ ((w.attempt d.id s).commit d.id s).rows,
        d'.id = d.id → d' = d.sendOne s := by
      intro d' hd' hid
      have hd' : d' ∈ amend Delivery.id d.id (·.sendOne s) (w.attempt d.id s).rows := hd'
      rw [rows_attempt] at hd'
      exact (w.keyed.mem_amend hd hd').resolve_left fun h => h.2 hid
    cases s with
    | gone => exact absurd rfl hs
    | noChannel now =>
        refine ⟨hw.paced d.id, fun h => absurd h hused, fun d' hd' hid => ?_⟩
        rw [hrow d' hd' hid]
        exact htracks.of_settled rfl rfl
    | request r =>
        have hopen : Open policy (w.history d.id) r.startedAt := by
          obtain ⟨hlength, hfailed, hretry⟩ := htracks.open_of_due (hdue d hd rfl)
          exact ⟨hlength, hfailed, fun a ha => (hretry a ha).trans (hordered r rfl)⟩
        have hhistory : ((w.attempt d.id (.request r)).commit d.id (.request r)).history d.id =
            r :: w.history d.id := history_attempt_self w d.id r
        rw [hhistory]
        refine ⟨.cons (hw.paced d.id) hopen, fun h => absurd h hused, fun d' hd' hid => ?_⟩
        rw [hrow d' hd' hid]
        exact htracks.request hopen
  · exact absurd hstores hnot

/-- The loop sends the first delivery, and goes on unless that raised. -/
theorem drain_cons (stores : String → Bool) (sends : Nat → Send) (w : Worker) (ids : List Nat)
    (stats : Stats) :
    (∃ stats', (w.drain stores sends (id :: ids) stats).1 =
      ((w.sendOne stores id (sends id)).1.drain stores sends ids stats').1) ∨
    (w.drain stores sends (id :: ids) stats).1 = (w.sendOne stores id (sends id)).1 := by
  rw [drain]
  split
  · next w' heq => exact .inl ⟨_, by rw [heq]⟩
  · next w' status heq => exact .inl ⟨_, by rw [heq]⟩
  · next w' heq => exact .inr (by rw [heq])

/-- The loop leaves the deliveries it does not send alone. -/
theorem drain_untouched (stores : String → Bool) (sends : Nat → Send) {ids : List Nat} (w : Worker)
    (stats : Stats) (h : id ∉ ids) : Untouched id w (w.drain stores sends ids stats).1 := by
  induction ids generalizing w stats with
  | nil => exact .refl ..
  | cons id' ids ih =>
      obtain ⟨hne, hids⟩ := not_or.mp (mt List.mem_cons.mpr h)
      have hsend := sendOne_untouched stores w (sends id') hne
      rcases drain_cons stores sends w ids stats with ⟨stats', heq⟩ | heq <;> rw [heq]
      · exact hsend.trans (ih _ stats' hids)
      · exact hsend

/-- The loop over due deliveries, whose texts the database stores. -/
theorem Sound.drain (hw : w.Sound) {sends : Nat → Send} {ids : List Nat} (hids : ids.Nodup)
    (hdue : ∀ d ∈ w.rows, d.id ∈ ids → d.due now)
    (hordered : ∀ id r, sends id = .request r → now ≤ r.startedAt)
    (hstores : ∀ id ∈ ids, (sends id).writes.all stores) (stats : Stats) :
    (w.drain stores sends ids stats).1.Sound := by
  induction ids generalizing w stats with
  | nil => exact hw
  | cons id ids ih =>
      obtain ⟨hfresh, hids⟩ := List.nodup_cons.mp hids
      have hsend := hw.sendOne (fun d hd hid => hdue d hd (hid ▸ List.mem_cons_self))
        (hordered id) (hstores id List.mem_cons_self)
      have hrest : ∀ d ∈ (w.sendOne stores id (sends id)).1.rows, d.id ∈ ids → d.due now := by
        intro d hd hid
        have hne : d.id ≠ id := fun h => hfresh (h ▸ hid)
        exact hdue d ((sendOne_untouched stores w (sends id) hne).rows d hd rfl)
          (List.mem_cons_of_mem id hid)
      rcases drain_cons stores sends w ids stats with ⟨stats', heq⟩ | heq <;> rw [heq]
      · exact ih hsend hids hrest (fun i hi => hstores i (List.mem_cons_of_mem id hi)) stats'
      · exact hsend

/-- A tick sends deliveries that are due. -/
theorem exists_due (h : id ∈ w.dueIds now) : ∃ d ∈ w.rows, d.id = id ∧ d.due now := by
  obtain ⟨d, hd, hid⟩ := List.mem_map.mp h
  obtain ⟨hd, hdue⟩ :=
    List.mem_filter.mp ((List.perm_insertionSort _ _).mem_iff.mp (List.mem_of_mem_take hd))
  exact ⟨d, hd, hid, hdue⟩

/-- A tick sends a delivery once. -/
theorem nodup_dueIds (w : Worker) (now : Time) : (w.dueIds now).Nodup := by
  refine List.Nodup.sublist ((List.take_sublist ..).map _) ?_
  rw [((List.perm_insertionSort _ _).map _).nodup_iff]
  exact w.keyed.filter _

end Worker

/-- The database stores what the step writes. -/
def Step.Storable (stores : String → Bool) (w : Worker) : Step → Prop
  | .tick t => ∀ id ∈ w.dueIds t.now, (t.sends id).writes.all stores
  | _ => True

/-- A delivery that has been queued and that is sent or dead, or has gone. -/
structure Worker.Settled (w : Worker) (id : Nat) : Prop where
  queued : id < w.nextId
  rows : ∀ d ∈ w.rows, d.id = id → d.status = .sent ∨ d.status = .dead

namespace Worker
variable {w : Worker} {stores : String → Bool} {id : Nat}

theorem Sound.empty : Worker.empty.Sound :=
  ⟨fun _ => .nil, fun _ _ => rfl, List.forall_mem_nil _⟩

/-- A row that is queued has not been attempted. -/
theorem Sound.queue (hw : w.Sound) (channel : WebhookChannel) (e : Event) :
    (w.queue channel e).Sound where
  paced := hw.paced
  unused := fun id hid => hw.unused id (Nat.le_of_succ_le hid)
  tracks := by
    intro d hd
    rcases mem_snoc.mp hd with hd | rfl
    · exact hw.tracks d hd
    · have hhistory : (w.queue channel e).history w.nextId = [] := hw.unused w.nextId le_rfl
      rw [hhistory]
      exact ⟨rfl, fun _ => ⟨e.now, rfl, .first (by decide) _⟩, fun h => absurd h (by decide)⟩

/-- Each step whose texts the database stores keeps the queue sound. -/
theorem Sound.step (hw : w.Sound) {a : Step} (ha : a.Storable stores w) :
    (w.step stores a).Sound := by
  cases a with
  | queue channel e => exact hw.queue channel e
  | deleteChannel channelId =>
      exact ⟨hw.paced, hw.unused, fun d hd => hw.tracks d (List.mem_of_mem_filter hd)⟩
  | tick t =>
      refine hw.drain (w.nodup_dueIds t.now) (fun d hd hid => ?_) t.ordered ha {}
      obtain ⟨d', hd', heq, hdue⟩ := exists_due hid
      rwa [w.keyed.eq hd hd' heq.symm]

/-- A step neither attempts a settled delivery nor brings it back. -/
theorem Settled.step (h : w.Settled id) (stores : String → Bool) (a : Step) :
    (w.step stores a).Settled id ∧ (w.step stores a).history id = w.history id := by
  obtain ⟨hqueued, hsettled⟩ := h
  cases a with
  | queue channel e =>
      refine ⟨⟨Nat.lt_succ_of_lt hqueued, fun d hd hid => ?_⟩, rfl⟩
      rcases mem_snoc.mp hd with hd | rfl
      · exact hsettled d hd hid
      · exact absurd hid.symm (Nat.ne_of_lt hqueued)
  | deleteChannel channelId =>
      exact ⟨⟨hqueued, fun d hd => hsettled d (List.mem_of_mem_filter hd)⟩, rfl⟩
  | tick t =>
      have hfree : id ∉ w.dueIds t.now := by
        intro hid
        obtain ⟨d, hd, heq, hdue⟩ := exists_due hid
        rcases hsettled d hd heq with h | h <;> simp [Delivery.due, h] at hdue
      have huntouched : Untouched id w (w.step stores (.tick t)) :=
        drain_untouched stores t.sends w {} hfree
      refine ⟨⟨?_, fun d hd hid => hsettled d (huntouched.rows d hd hid) hid⟩, huntouched.history⟩
      rwa [huntouched.nextId]

/-- No run attempts a settled delivery. -/
theorem Settled.run (h : w.Settled id) (stores : String → Bool) (steps : List Step) :
    (run (Worker.step stores) w steps).history id = w.history id := by
  induction steps generalizing w with
  | nil => rfl
  | cons a steps ih =>
      obtain ⟨hnext, hhistory⟩ := h.step stores a
      exact (ih hnext).trans hhistory

end Worker

/-- The queue after a run. -/
abbrev Worker.after (stores : String → Bool) (steps : List Step) : Worker :=
  run (Worker.step stores) Worker.empty steps

/-- What the delivery machine promises of a run. -/
structure Disciplined (stores : String → Bool) (steps : List Step) : Prop where
  /-- A delivery is attempted at most `MAX_ATTEMPTS` times. -/
  bounded : ∀ id, ((Worker.after stores steps).history id).length ≤ maxAttempts
  /-- An attempt starts no earlier than the back-off scheduled after the one before. -/
  spaced : ∀ id pre r r' post, (Worker.after stores steps).history id = post ++ r' :: r :: pre →
    r.startedAt ≤ r.scheduledAt ∧ r.scheduledAt + backoffDelay (pre.length + 1) ≤ r'.startedAt
  /-- A delivery that is sent or dead is never attempted again. -/
  settled : ∀ before rest, steps = before ++ rest → ∀ d ∈ (Worker.after stores before).rows,
    d.status = .sent ∨ d.status = .dead →
      (Worker.after stores steps).history d.id = (Worker.after stores before).history d.id
  /-- One that the SSRF guard refused is never attempted again. -/
  blocked : ∀ id pre r reason post, (Worker.after stores steps).history id = post ++ r :: pre →
    r.outcome = .blocked reason → post = []
  /-- One of which `MAX_ATTEMPTS` attempts failed is dead. -/
  exhausted : ∀ d ∈ (Worker.after stores steps).rows,
    maxAttempts ≤ (((Worker.after stores steps).history d.id).filter (·.outcome.failed)).length →
      d.status = .dead

/-- **Deliveries are disciplined** in every run whose steps write what the database stores. -/
theorem deliveries_disciplined {stores : String → Bool} {steps : List Step}
    (h : Admits (Worker.step stores) (fun w a => a.Storable stores w) Worker.empty steps) :
    Disciplined stores steps := by
  have hsound : (Worker.after stores steps).Sound :=
    run_invariant (fun _ _ hw ha => hw.step ha) Worker.Sound.empty h
  refine ⟨fun id => (hsound.paced id).length_le, fun id pre r r' post heq => ?_,
    fun before rest heq d hd hstatus => ?_, fun id pre r reason post heq hblocked => ?_,
    fun d hd => (hsound.tracks d hd).exhausted⟩
  · exact ⟨r.ordered, (heq ▸ hsound.paced id : Paced policy (post ++ r' :: r :: pre)).gap⟩
  · have hsettled : (Worker.after stores before).Settled d.id := by
      refine ⟨(Worker.after stores before).fresh d hd, fun d' hd' hid => ?_⟩
      rwa [(Worker.after stores before).keyed.eq hd' hd hid]
    rw [heq, Worker.after, run_append]
    exact hsettled.run stores rest
  · by_contra hpost
    have hfailed := (heq ▸ hsound.paced id : Paced policy (post ++ r :: pre)).failed hpost
    simp [policy, hblocked, Outcome.failed] at hfailed

/-- PostgreSQL stores no text with a NUL. -/
def postgresStores (text : String) : Bool := !text.toList.contains (Char.ofNat 0)

/-- A tick whose sends are all answered with this status and text. -/
def Tick.answered (now : Time) (statusCode : Nat) (text : String) : Tick where
  now := now
  sends := fun _ => .request ⟨.response statusCode text, now, now, now, le_rfl⟩
  ordered := by
    rintro _ _ ⟨⟩
    exact le_rfl

/-- A delivery to a channel, and a tick every fifteen seconds that is answered so. -/
def answeredRun (statusCode : Nat) (text : String) (ticks : Nat) : List Step :=
  .queue ⟨"whc", none, true⟩ ⟨"device.recovered", .null, none, 0⟩ ::
    (List.range ticks).map fun k => .tick (.answered (seconds (15 * k)) statusCode text)

/-- A delivery that is answered with plain text. -/
theorem plain_answer : Disciplined postgresStores (answeredRun 200 "ok" 2) :=
  deliveries_disciplined ⟨trivial, fun _ _ => rfl, fun _ _ => rfl, trivial⟩

/-- Answered 200 with a NUL, a delivery is sent once a tick. -/
theorem nul_answer :
    ¬Disciplined postgresStores (answeredRun 200 (String.ofList [Char.ofNat 0]) 6) := by
  intro h
  exact absurd (h.bounded 1) (by decide)

end RebooterHub.Webhooks
