import Mathlib.Data.List.Nodup
import Mathlib.Tactic.TypeStar

/-!
# Support — Pools

A pool of connections.  It keeps up to `size` of those that are given back, and the one that was
given back first goes out first.  When it keeps none it opens another, up to `size + overflow` at a
time.  One that is given back while it keeps `size` others is closed.

* `opened_get`, `opened_put`: what the pool has open, up to the order.
* `closed_eq_nil`: a pool with no more than `size` open closes none.
-/

namespace RebooterHub.Pools

/-- How many connections a pool keeps, and how many more it may open. -/
structure Bounds where
  size : ℕ
  overflow : ℕ
  pos : 0 < size

/-- The connections that the pool keeps, the first to go out first, and those that are out. -/
structure Pool (κ : Type*) where
  idle : List κ
  out : List κ

namespace Pool

variable {κ : Type*} {b : Bounds} {p p' : Pool κ} {c new : κ}

/-- A pool that has opened none. -/
def empty : Pool κ := ⟨[], []⟩

/-- The connections that are open. -/
def opened (p : Pool κ) : List κ := p.idle ++ p.out

/-- A connection goes out; `new` is the one that is opened if none is kept. -/
def get (b : Bounds) (new : κ) (p : Pool κ) : Option (κ × Pool κ) :=
  match p.idle with
  | c :: idle => some (c, ⟨idle, c :: p.out⟩)
  | [] => if p.out.length < b.size + b.overflow then some (new, ⟨[], new :: p.out⟩) else none

/-- What becomes of the connections, each changed by `f`. -/
def map (f : κ → κ) (p : Pool κ) : Pool κ := ⟨p.idle.map f, p.out.map f⟩

theorem opened_map (f : κ → κ) (p : Pool κ) : (p.map f).opened = p.opened.map f :=
  List.map_append.symm

/-- What goes out was kept, or is new. -/
theorem opened_get (h : p.get b new = some (c, p')) :
    (p'.opened.Perm p.opened ∧ c ∈ p.idle ∨ p'.opened.Perm (new :: p.opened) ∧ c = new) ∧
      c ∈ p'.out := by
  obtain ⟨idle, out⟩ := p
  cases idle with
  | cons c' idle =>
      cases h
      exact ⟨.inl ⟨List.perm_middle, List.mem_cons_self⟩, List.mem_cons_self⟩
  | nil =>
      rw [get] at h
      dsimp only at h
      split at h
      · cases h
        exact ⟨.inr ⟨.refl _, rfl⟩, List.mem_cons_self⟩
      · cases h

/-- What is closed when a connection is given back. -/
def closed (b : Bounds) (c : κ) (p : Pool κ) : List κ := if p.idle.length < b.size then [] else [c]

theorem closed_of_lt (h : p.idle.length < b.size) : p.closed b c = [] := if_pos h

theorem closed_eq_nil (hc : c ∈ p.out) (hfew : p.opened.length ≤ b.size) :
    p.closed b c = [] := by
  refine closed_of_lt ?_
  have hout := List.length_pos_of_mem hc
  rw [opened, List.length_append] at hfew
  omega

/-- A connection that went out fits when it comes back at once. -/
theorem closed_get (h : p.get b new = some (c, p')) (hidle : p.idle.length ≤ b.size) :
    p'.closed b c = [] := by
  refine closed_of_lt ?_
  obtain ⟨idle, out⟩ := p
  cases idle with
  | cons c' idle =>
      cases h
      exact hidle
  | nil =>
      rw [get] at h
      dsimp only at h
      split at h
      · cases h
        exact b.pos
      · cases h

theorem length_idle_get (h : p.get b new = some (c, p')) : p'.idle.length ≤ p.idle.length := by
  obtain ⟨idle, out⟩ := p
  cases idle with
  | cons c' idle =>
      cases h
      exact Nat.le_succ _
  | nil =>
      rw [get] at h
      dsimp only at h
      split at h
      · cases h
        exact Nat.le_refl 0
      · cases h

variable [DecidableEq κ]

/-- A connection is given back. -/
def put (b : Bounds) (c : κ) (p : Pool κ) : Pool κ where
  idle := if p.idle.length < b.size then p.idle ++ [c] else p.idle
  out := p.out.erase c

theorem length_idle_put (hidle : p.idle.length ≤ b.size) : (p.put b c).idle.length ≤ b.size := by
  rw [put]
  dsimp only
  split
  · rw [List.length_append, List.length_singleton]
    omega
  · exact hidle

/-- What is given back stays open or is closed. -/
theorem opened_put (hc : c ∈ p.out) : (p.closed b c ++ (p.put b c).opened).Perm p.opened := by
  have hmove : (c :: (p.idle ++ p.out.erase c)).Perm (p.idle ++ c :: p.out.erase c) :=
    List.perm_middle.symm
  have hout : (p.idle ++ c :: p.out.erase c).Perm p.opened :=
    (List.perm_cons_erase hc).symm.append_left p.idle
  rw [closed, put, opened]
  split
  · rw [List.nil_append, List.append_assoc]
    exact hout
  · exact hmove.trans hout

end Pool

end RebooterHub.Pools
