import Mathlib.Order.Bounds.Basic

/-!
# Support — Occurrences

A timer armed for the times of a set `S`: it holds the next of them, fires once that time has
come, and is armed anew when it has fired.

* `IsNext S t next` says that `next` is the first time of `S` after `t`.
* `IsNext.due_iff`: a timer armed at `t` is due at `u` exactly when a time of `S` lies after `t`
  and not after `u`.
* `IsNext.skip`: a timer that is not due stays armed as it is.
-/

namespace RebooterHub.Occurrences

variable {T : Type*} [LinearOrder T] {S : Set T} {t u : T} {next : Option T}

/-- `next` is the first time of `S` after `t`, if there is one. -/
def IsNext (S : Set T) (t : T) : Option T → Prop
  | some n => IsLeast {x | x ∈ S ∧ t < x} n
  | none => ∀ x ∈ S, x ≤ t

/-- The time the timer is armed for has come. -/
def Due (next : Option T) (u : T) : Prop := ∃ n ∈ next, n ≤ u

/-- **A timer is due** exactly when a time of `S` has come since it was armed. -/
theorem IsNext.due_iff (h : IsNext S t next) : Due next u ↔ ∃ x ∈ S, t < x ∧ x ≤ u := by
  cases next with
  | none =>
      refine iff_of_false (by rintro ⟨n, hn, -⟩; cases hn) ?_
      rintro ⟨x, hx, hlt, -⟩
      exact absurd hlt (not_lt.mpr (h x hx))
  | some n =>
      constructor
      · rintro ⟨m, hm, hle⟩
        obtain rfl : n = m := Option.some.inj hm
        exact ⟨n, h.1.1, h.1.2, hle⟩
      · rintro ⟨x, hx, hlt, hle⟩
        exact ⟨n, rfl, (h.2 ⟨hx, hlt⟩).trans hle⟩

/-- A timer that is not due at `u` is armed as if it had been armed then. -/
theorem IsNext.skip (h : IsNext S t next) (hu : t ≤ u) (hd : ¬ Due next u) : IsNext S u next := by
  cases next with
  | none => exact fun x hx => (h x hx).trans hu
  | some n =>
      have hlt : u < n := not_le.mp fun hle => hd ⟨n, rfl, hle⟩
      exact ⟨⟨h.1.1, hlt⟩, fun x hx => h.2 ⟨hx.1, hu.trans_lt hx.2⟩⟩

end RebooterHub.Occurrences
