import RebooterHub.Support.Runs

/-!
# Commands — EventBus

`services/event_bus`: the in-process bus that fans events out to every open subscriber.

A subscriber's queue is bounded; an event that finds it full is dropped for that subscriber
alone.  `delivered_append_queue` is what a stream gets over its life: exactly the events published
while it had room, in order.
-/

namespace RebooterHub.Commands
open RebooterHub.Runs

variable {α : Type}

/-- `Subscriber`: one open stream. -/
structure Subscriber (α : Type) where
  queue : List α
  maxSize : Nat
  closed : Bool
deriving DecidableEq, Repr

namespace Subscriber

/-- There is room for one more event. -/
def hasRoom (s : Subscriber α) : Bool := !s.closed && decide (s.queue.length < s.maxSize)

/-- `put_nowait`, the event dropped when there is no room. -/
def put (s : Subscriber α) (ev : α) : Subscriber α :=
  if s.hasRoom then { s with queue := s.queue ++ [ev] } else s

/-- `queue.get`: the next event leaves the queue. -/
def pop (s : Subscriber α) : Subscriber α := { s with queue := s.queue.tail }

/-- `close`. -/
def close (s : Subscriber α) : Subscriber α := { s with closed := true }

end Subscriber

/-- `_DEFAULT_QUEUE_SIZE`. -/
def defaultQueueSize : Nat := 100

/-- `subscribe`. -/
def subscribe : Subscriber α := ⟨[], defaultQueueSize, false⟩

/-- `publish`: closed subscribers are dropped, the others are offered the event. -/
def publish (subscribers : List (Subscriber α)) (ev : α) : List (Subscriber α) :=
  (subscribers.filter fun s => !s.closed).map (·.put ev)

/-! ### The life of a stream -/

/-- What happens while a stream is open. -/
inductive StreamStep (α : Type) where
  | publish (ev : α)
  /-- The generator takes the next event and yields it. -/
  | next

namespace Subscriber

/-- What a step does to the stream's queue. -/
def step (s : Subscriber α) : StreamStep α → Subscriber α
  | .publish ev => s.put ev
  | .next => s.pop

/-- What a step delivers. -/
def delivers (s : Subscriber α) : StreamStep α → List α
  | .publish _ => []
  | .next => s.queue.head?.toList

/-- What a step queues. -/
def queues (s : Subscriber α) : StreamStep α → List α
  | .publish ev => if s.hasRoom then [ev] else []
  | .next => []

/-- **A stream delivers what was queued for it**, in order; what it has not delivered yet is still
waiting. -/
theorem delivered_append_queue (s : Subscriber α) (steps : List (StreamStep α)) :
    emitted step delivers s steps ++ (run step s steps).queue
      = s.queue ++ emitted step queues s steps := by
  induction steps generalizing s with
  | nil => simp
  | cons l ls ih =>
      simp only [emitted_cons, run_cons, List.append_assoc]
      rw [ih]
      cases l with
      | publish ev =>
          by_cases h : s.hasRoom
          · simp [delivers, queues, step, put, h]
          · simp [delivers, queues, step, put, h]
      | next =>
          cases hq : s.queue with
          | nil => simp [delivers, queues, step, pop, hq]
          | cons e es => simp [delivers, queues, step, pop, hq]

end Subscriber

end RebooterHub.Commands
