import RebooterHub.Support.LastWriter
import Mathlib.Logic.Function.Basic

/-!
# Support — Replicas

Two replicas of a keyed store.  Each writes on its own, and what it writes waits in a queue until
the other applies it.

A write of a stamped record is dropped by a newer one; a deletion takes a record away and clears
the references to it.  `Independent` lists the pairs of changes whose order does not matter, and
`Admissible` asks of a write that it is independent of what the writer has still to apply.
`settled_step` is the result: the replicas keep agreeing on what they will hold, so that they hold
the same once the queues are empty (`rows_eq_of_delivered`).
-/

namespace RebooterHub.Replicas
open RebooterHub.LastWriter

variable {K R S : Type*} [LinearOrder S]

/-- The records of a store: their stamps, and what becomes of the one under `k` when the one under
`gone` is deleted. -/
structure Schema (K R S : Type*) [LinearOrder S] where
  stamp : R → S
  clear : (gone k : K) → R → R
  stamp_clear : ∀ gone k r, stamp (clear gone k r) = stamp r
  clear_comm : ∀ gone gone' k r, clear gone k (clear gone' k r) = clear gone' k (clear gone k r)

/-- A change to a store. -/
inductive Change (K R : Type*) where
  | put (k : K) (r : R)
  | del (k : K)

/-- The replicas. -/
inductive Side where
  | left
  | right
deriving DecidableEq, Repr

/-- The replica across. -/
def Side.other : Side → Side
  | .left => .right
  | .right => .left

@[simp] theorem Side.other_other (s : Side) : s.other.other = s := by
  cases s <;> rfl

@[simp] theorem Side.other_ne (s : Side) : s.other ≠ s := by
  cases s <;> nofun

@[simp] theorem Side.ne_other (s : Side) : s ≠ s.other := by
  cases s <;> nofun

theorem Side.eq_or_other (s t : Side) : t = s ∨ t = s.other := by
  cases s <;> cases t <;> simp [other]

/-- What the replicas hold, and what each has still to apply. -/
structure State (K R : Type*) where
  rows : Side → K → Option R
  queue : Side → List (Change K R)

/-- A replica writes, or applies what is first in its queue.  With a write go the changes `echo`,
which the writer announces but has not made. -/
inductive Label (K R : Type*) where
  | write (s : Side) (c : Change K R) (echo : List (Change K R))
  | deliver (s : Side)

variable [DecidableEq K] (σ : Schema K R S)

namespace Schema

/-- What a change does. -/
def act (rows : K → Option R) : Change K R → K → Option R
  | .put k r => Function.update rows k (write σ.stamp (rows k) r)
  | .del k => fun k' => if k' = k then none else (rows k').map (σ.clear k k')

/-- Two changes whose order does not matter. -/
def Independent : Change K R → Change K R → Prop
  | .put k r, .put k' r' => k = k' → σ.stamp r ≠ σ.stamp r'
  | .put k r, .del gone | .del gone, .put k r => k ≠ gone ∧ σ.clear gone k r = r
  | .del _, .del _ => True

/-- What a step does. -/
def step (st : State K R) : Label K R → State K R
  | .write s c echo =>
    { rows := Function.update st.rows s (σ.act (st.rows s) c)
      queue := Function.update st.queue s.other (st.queue s.other ++ (echo ++ [c])) }
  | .deliver s => match st.queue s with
    | [] => st
    | c :: cs =>
      { rows := Function.update st.rows s (σ.act (st.rows s) c)
        queue := Function.update st.queue s cs }

/-- The change is a write the replica's record covers, and the record is not about to go. -/
def Echoes (st : State K R) (s : Side) (e : Change K R) : Prop :=
  ∃ k r, e = .put k r ∧ Covers σ.stamp (st.rows s k) r ∧ .del k ∉ st.queue s

/-- What a write has to meet. -/
def Admissible (st : State K R) : Label K R → Prop
  | .write s c echo => (∀ d ∈ st.queue s, σ.Independent c d) ∧ ∀ e ∈ echo, σ.Echoes st s e
  | .deliver _ => True

/-- What a replica will hold, if it is left to itself. -/
def settled (st : State K R) (s : Side) : K → Option R := (st.queue s).foldl σ.act (st.rows s)

variable {σ} {rows : K → Option R} {k k' gone : K} {r r' : R} {c d : Change K R}
  {st : State K R}

@[simp] theorem act_put_self : σ.act rows (.put k r) k = write σ.stamp (rows k) r :=
  Function.update_self ..

theorem act_put_of_ne (hne : k' ≠ k) : σ.act rows (.put k r) k' = rows k' :=
  Function.update_of_ne hne ..

@[simp] theorem act_del_self : σ.act rows (.del k) k = none := if_pos rfl

theorem act_del_of_ne (hne : k' ≠ k) : σ.act rows (.del k) k' = (rows k').map (σ.clear k k') :=
  if_neg hne

theorem act_put_of_covers (hc : Covers σ.stamp (rows k) r) : σ.act rows (.put k r) = rows := by
  funext k'
  by_cases hk : k' = k
  · rw [hk, act_put_self, write_of_covers hc]
  · rw [act_put_of_ne hk]

omit [DecidableEq K] in
theorem covers_clear {cur : Option R} :
    Covers σ.stamp (cur.map (σ.clear gone k)) r ↔ Covers σ.stamp cur r := by
  constructor
  · rintro ⟨c, hc, hle⟩
    obtain ⟨c', rfl, rfl⟩ := Option.map_eq_some_iff.1 hc
    exact ⟨c', rfl, by rwa [σ.stamp_clear] at hle⟩
  · rintro ⟨c, rfl, hle⟩
    exact ⟨σ.clear gone k c, rfl, by rwa [σ.stamp_clear]⟩

theorem act_put_put (h : k = k' → σ.stamp r ≠ σ.stamp r') :
    σ.act (σ.act rows (.put k r)) (.put k' r') = σ.act (σ.act rows (.put k' r')) (.put k r) := by
  by_cases hk : k = k'
  · subst hk
    funext k'
    by_cases hk' : k' = k
    · subst hk'
      simpa using write_comm (h rfl)
    · simp [act_put_of_ne hk']
  · funext x
    by_cases hx : x = k
    · subst hx
      simp [act_put_of_ne hk]
    · by_cases hx' : x = k'
      · subst hx'
        simp [act_put_of_ne hx]
      · simp [act_put_of_ne hx, act_put_of_ne hx']

theorem act_put_del (hk : k ≠ gone) (hr : σ.clear gone k r = r) :
    σ.act (σ.act rows (.put k r)) (.del gone) = σ.act (σ.act rows (.del gone)) (.put k r) := by
  funext x
  by_cases hx : x = gone
  · subst hx
    rw [act_del_self, act_put_of_ne hk.symm, act_del_self]
  · rw [act_del_of_ne hx]
    by_cases hx' : x = k
    · subst hx'
      rw [act_put_self, act_put_self, act_del_of_ne hx, map_write (σ.stamp_clear gone x), hr]
    · rw [act_put_of_ne hx', act_put_of_ne hx', act_del_of_ne hx]

theorem act_del_del :
    σ.act (σ.act rows (.del k)) (.del k') = σ.act (σ.act rows (.del k')) (.del k) := by
  funext x
  by_cases hx : x = k
  · subst hx
    by_cases hx' : x = k'
    · rw [hx']
    · rw [act_del_self, act_del_of_ne hx', act_del_self, Option.map_none]
  · by_cases hx' : x = k'
    · subst hx'
      rw [act_del_self, act_del_of_ne hx, act_del_self, Option.map_none]
    · rw [act_del_of_ne hx, act_del_of_ne hx', act_del_of_ne hx, act_del_of_ne hx', Option.map_map,
        Option.map_map]
      congr 1
      funext r
      exact σ.clear_comm ..

/-- Independent changes commute. -/
theorem act_comm (h : σ.Independent c d) :
    σ.act (σ.act rows c) d = σ.act (σ.act rows d) c := by
  cases c with
  | put k r =>
    cases d with
    | put k' r' => exact act_put_put h
    | del gone => exact act_put_del h.1 h.2
  | del gone =>
    cases d with
    | put k r => exact (act_put_del h.1 h.2).symm
    | del k => exact act_del_del

/-- A change commutes with a sequence of changes it is independent of. -/
theorem foldl_act_comm {ds : List (Change K R)} (h : ∀ d ∈ ds, σ.Independent c d) :
    ds.foldl σ.act (σ.act rows c) = σ.act (ds.foldl σ.act rows) c := by
  induction ds generalizing rows with
  | nil => rfl
  | cons d ds ih =>
    rw [List.foldl_cons, List.foldl_cons, act_comm (h d List.mem_cons_self),
      ih fun d' hd' => h d' (List.mem_cons_of_mem d hd')]

/-- What is covered stays covered, unless it is deleted. -/
theorem covers_foldl_act {ds : List (Change K R)} (hc : Covers σ.stamp (rows k) r)
    (hd : .del k ∉ ds) : Covers σ.stamp (ds.foldl σ.act rows k) r := by
  induction ds generalizing rows with
  | nil => exact hc
  | cons d ds ih =>
    rw [List.mem_cons, not_or] at hd
    refine ih ?_ hd.2
    cases d with
    | put k' r' =>
      by_cases hk : k = k'
      · subst hk
        rw [act_put_self]
        exact hc.write r'
      · rwa [act_put_of_ne hk]
    | del gone =>
      have hk : k ≠ gone := fun hk => hd.1 (hk ▸ rfl)
      rw [act_del_of_ne hk]
      exact covers_clear.2 hc

/-- Covered writes change nothing. -/
theorem foldl_act_of_covers {es : List (Change K R)}
    (h : ∀ e ∈ es, ∃ k r, e = .put k r ∧ Covers σ.stamp (rows k) r) :
    es.foldl σ.act rows = rows := by
  induction es with
  | nil => rfl
  | cons e es ih =>
    obtain ⟨k, r, rfl, hc⟩ := h e List.mem_cons_self
    rw [List.foldl_cons, act_put_of_covers hc]
    exact ih fun e he => h e (List.mem_cons_of_mem _ he)

/-! ### Steps and runs -/

theorem settled_write_self {s : Side} {echo : List (Change K R)}
    (h : ∀ d ∈ st.queue s, σ.Independent c d) :
    σ.settled (σ.step st (.write s c echo)) s = σ.act (σ.settled st s) c := by
  simp only [settled, step, Function.update_self, Function.update_of_ne s.ne_other]
  exact foldl_act_comm h

theorem settled_write_other {s : Side} {echo : List (Change K R)} :
    σ.settled (σ.step st (.write s c echo)) s.other =
      σ.act (echo.foldl σ.act (σ.settled st s.other)) c := by
  simp only [settled, step, Function.update_self, Function.update_of_ne s.other_ne,
    List.foldl_append, List.foldl_cons, List.foldl_nil]

theorem step_deliver_nil {s : Side} (hq : st.queue s = []) : σ.step st (.deliver s) = st := by
  simp [step, hq]

theorem step_deliver_cons {s : Side} {cs : List (Change K R)} (hq : st.queue s = c :: cs) :
    σ.step st (.deliver s) =
      { rows := Function.update st.rows s (σ.act (st.rows s) c)
        queue := Function.update st.queue s cs } := by
  simp [step, hq]

theorem settled_deliver (s t : Side) :
    σ.settled (σ.step st (.deliver s)) t = σ.settled st t := by
  cases hq : st.queue s with
  | nil => rw [step_deliver_nil hq]
  | cons c cs =>
    rw [step_deliver_cons hq]
    unfold settled
    dsimp only
    by_cases ht : t = s
    · subst ht
      rw [Function.update_self, Function.update_self, hq, List.foldl_cons]
    · rw [Function.update_of_ne ht, Function.update_of_ne ht]

/-- **Agreement.**  An admissible step keeps the replicas' agreement on what they will hold. -/
theorem settled_step {l : Label K R} (hagree : σ.settled st .left = σ.settled st .right)
    (hl : σ.Admissible st l) :
    σ.settled (σ.step st l) .left = σ.settled (σ.step st l) .right := by
  cases l with
  | deliver s => rw [settled_deliver, settled_deliver, hagree]
  | write s c echo =>
    obtain ⟨hind, hecho⟩ := hl
    have hsides : σ.settled st s = σ.settled st s.other := by
      cases s with
      | left => exact hagree
      | right => exact hagree.symm
    have habsorbed : echo.foldl σ.act (σ.settled st s.other) = σ.settled st s.other := by
      rw [← hsides]
      refine foldl_act_of_covers fun e he => ?_
      obtain ⟨k, r, rfl, hc, hd⟩ := hecho e he
      exact ⟨k, r, rfl, covers_foldl_act hc hd⟩
    have hstep : σ.settled (σ.step st (.write s c echo)) s =
        σ.settled (σ.step st (.write s c echo)) s.other := by
      rw [settled_write_self hind, settled_write_other, habsorbed, hsides]
    cases s with
    | left => exact hstep
    | right => exact hstep.symm

/-- What was settled is held once everything is delivered. -/
theorem rows_eq_of_delivered (hagree : σ.settled st .left = σ.settled st .right)
    (hempty : ∀ s, st.queue s = []) : st.rows .left = st.rows .right := by
  simpa [settled, hempty] using hagree

end Schema

end RebooterHub.Replicas
