import Mathlib.Order.Defs.PartialOrder
import Mathlib.Tactic.TypeStar

/-!
# Support — Retry

Attempts at one thing under a budget and a back-off.  A history is the list of the attempts made,
the latest first.

* `Open` says that another attempt may start at a time, `Paced` that each attempt of a history
  started when it might.
* `Paced.length_le`, `Paced.gap`, `Paced.failed`: a paced history keeps to the budget and to the
  back-off, and no attempt follows one that did not fail.
-/

namespace RebooterHub.Retry

/-- When another attempt may be made. -/
structure Policy (α τ : Type*) where
  /-- How many attempts may be made. -/
  budget : Nat
  failed : α → Bool
  startedAt : α → τ
  /-- When the attempt after the `n`-th may start. -/
  retryAt : Nat → α → τ

variable {α τ : Type*} [Preorder τ]

/-- After the attempts `as` another may start at `t`. -/
structure Open (p : Policy α τ) (as : List α) (t : τ) : Prop where
  length : as.length < p.budget
  failed : ∀ a ∈ as, p.failed a
  retryAt : ∀ a ∈ as.head?, p.retryAt as.length a ≤ t

/-- Each attempt started when it might. -/
inductive Paced (p : Policy α τ) : List α → Prop where
  | nil : Paced p []
  | cons {a : α} {as : List α} (h : Paced p as) (ha : Open p as (p.startedAt a)) :
      Paced p (a :: as)

variable {p : Policy α τ} {as pre post : List α} {a b : α} {t : τ}

/-- The first attempt may start at any time. -/
theorem Open.first (h : 0 < p.budget) (t : τ) : Open p [] t :=
  ⟨h, List.forall_mem_nil _, fun _ h => nomatch h⟩

/-- After one that failed another may start, if there is one left. -/
theorem Open.again (h : Open p as t) (ha : p.failed a) (hlength : as.length + 1 < p.budget) :
    Open p (a :: as) (p.retryAt (as.length + 1) a) where
  length := hlength
  failed := List.forall_mem_cons.mpr ⟨ha, h.failed⟩
  retryAt := by
    rintro b ⟨⟩
    exact le_rfl

/-- A paced history keeps to the budget. -/
theorem Paced.length_le (h : Paced p as) : as.length ≤ p.budget := by
  cases h with
  | nil => exact Nat.zero_le _
  | cons _ ha => exact ha.length

/-- What came before the latest attempts is paced. -/
theorem Paced.of_append (h : Paced p (post ++ pre)) : Paced p pre := by
  induction post with
  | nil => exact h
  | cons c post ih =>
      cases h with
      | cons h _ => exact ih h

/-- An attempt starts no earlier than the back-off after the one before allows. -/
theorem Paced.gap (h : Paced p (post ++ b :: a :: pre)) :
    p.retryAt (pre.length + 1) a ≤ p.startedAt b := by
  cases h.of_append with
  | cons _ hb => exact hb.retryAt a rfl

/-- An attempt that another follows failed. -/
theorem Paced.failed (h : Paced p (post ++ a :: pre)) (hpost : post ≠ []) : p.failed a := by
  cases post with
  | nil => exact absurd rfl hpost
  | cons b post =>
      cases h with
      | cons _ hb => exact hb.failed a (by simp)

end RebooterHub.Retry
