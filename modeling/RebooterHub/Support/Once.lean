import Mathlib.Tactic.ByContra
import RebooterHub.Support.Runs

/-!
# Support — Once

Runs in which something is taken at most once.  A step takes it when it puts something out;
`free s` says that it is still to be had, and `I` is an invariant of the states.

* `once_of_admits`: if every step that takes it finds it free, it is taken at most once.
* `admits_of_once`: if whoever is about to take it has seen it free, and only taking it changes
  that, then in a run that takes it at most once every step that takes it finds it free.
-/

namespace RebooterHub.Once
open RebooterHub.Runs

variable {σ α ε : Type*} {step : σ → α → σ} {out : σ → α → List ε} {free I : σ → Prop}

/-- A step that takes it finds it free. -/
def FindsFree (out : σ → α → List ε) (free : σ → Prop) (s : σ) (a : α) : Prop :=
  out s a ≠ [] → free s

/-- Once taken, it is not taken again by steps that find it free. -/
theorem emitted_eq_nil (hI : ∀ s a, I s → I (step s a))
    (hkeep : ∀ s a, I s → ¬free s → ¬free (step s a)) {s : σ} {as : List α} (hs : I s)
    (htaken : ¬free s) (h : Admits step (FindsFree out free) s as) : emitted step out s as = [] := by
  induction as generalizing s with
  | nil => rfl
  | cons a as ih =>
      have hout : out s a = [] := by
        by_contra hne
        exact htaken (h.1 hne)
      rw [emitted_cons, hout, List.nil_append]
      exact ih (hI s a hs) (hkeep s a hs htaken) h.2

/-- **At most once.** -/
theorem once_of_admits (hI : ∀ s a, I s → I (step s a)) (hlength : ∀ s a, (out s a).length ≤ 1)
    (hkeep : ∀ s a, I s → ¬free s → ¬free (step s a))
    (htake : ∀ s a, I s → out s a ≠ [] → ¬free (step s a)) {s : σ} {as : List α} (hs : I s)
    (h : Admits step (FindsFree out free) s as) : (emitted step out s as).length ≤ 1 := by
  induction as generalizing s with
  | nil => exact Nat.zero_le 1
  | cons a as ih =>
      rw [emitted_cons]
      by_cases hout : out s a = []
      · rw [hout, List.nil_append]
        exact ih (hI s a hs) h.2
      · rw [emitted_eq_nil hI hkeep (hI s a hs) (htake s a hs hout) h.2, List.append_nil]
        exact hlength s a

/-- A run that takes nothing has no step that does not find it free. -/
theorem admits_of_emitted_eq_nil {s : σ} {as : List α} (h : emitted step out s as = []) :
    Admits step (FindsFree out free) s as := by
  induction as generalizing s with
  | nil => trivial
  | cons a as ih =>
      rw [emitted_cons, List.append_eq_nil_iff] at h
      exact ⟨fun hne => absurd h.1 hne, ih h.2⟩

/-- **The converse.**  Here `I` is what holds as long as nothing was taken. -/
theorem admits_of_once (hfree : ∀ s a, I s → out s a ≠ [] → free s)
    (hstep : ∀ s a, I s → out s a = [] → I (step s a)) {s : σ} {as : List α} (hs : I s)
    (h : (emitted step out s as).length ≤ 1) : Admits step (FindsFree out free) s as := by
  induction as generalizing s with
  | nil => trivial
  | cons a as ih =>
      refine ⟨hfree s a hs, ?_⟩
      rw [emitted_cons, List.length_append] at h
      by_cases hout : out s a = []
      · rw [hout, List.length_nil, Nat.zero_add] at h
        exact ih (hstep s a hs hout) h
      · have hpos : 0 < (out s a).length := List.length_pos_iff.mpr hout
        exact admits_of_emitted_eq_nil (List.eq_nil_of_length_eq_zero (by omega))

end RebooterHub.Once
