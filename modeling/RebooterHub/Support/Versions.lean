import Mathlib.Tactic.TypeStar

/-!
# Support — Versions

A value that is written over and over.  Its log holds the writes with their times, the newest
first; what the value is now heads it.

`InForce` says that a value was the current one at a time, whatever was written since.
-/

namespace RebooterHub.Versions

variable {τ α : Type*} [LE τ]

/-- `v` is current at `t`: it was written by then, and all later writes are no earlier. -/
inductive InForce (v : α) (t : τ) : List (τ × α) → Prop
  | head {at_ : τ} (log : List (τ × α)) (h : at_ ≤ t) : InForce v t ((at_, v) :: log)
  | cons {log : List (τ × α)} (e : τ × α) (hlater : t ≤ e.1) (h : InForce v t log) :
      InForce v t (e :: log)

variable {v : α} {t : τ} {log : List (τ × α)}

/-- The current value is in force. -/
theorem inForce_of_head? {e : τ × α} (h : log.head? = some e) (ht : e.1 ≤ t) :
    InForce e.2 t log := by
  cases log with
  | nil => cases h
  | cons e' log =>
      obtain rfl := Option.some.inj h
      exact .head log ht

/-- Of two writes the older value is in force only until the newer one. -/
theorem not_inForce_pair {old new : α} (hne : old ≠ new) {at_ at' : τ} (h : ¬t ≤ at') :
    ¬InForce old t [(at', new), (at_, old)] := by
  intro hforce
  cases hforce with
  | head _ _ => exact hne rfl
  | cons _ hlater _ => exact h hlater

end RebooterHub.Versions
