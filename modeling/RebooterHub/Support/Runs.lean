import Mathlib.Tactic.TypeStar

/-!
# Support — Runs

The runs of a deterministic labelled system.  What a system may do next is in its labels, so a
step is a function `σ → α → σ` and a run is a list of labels.

* `run` is the state a run ends in, `emitted` what its steps put out on the way.
* `Admits ok` says that each label meets `ok` at the state it is taken in: a condition on the
  steps of a run.
* `run_invariant` is the induction rule: what every admitted step keeps, an admitted run keeps.
* `emitted_invariant` is the same rule for what holds of the state and of all that was put out
  before it, `labels_invariant` for the state and the labels, and `admits_of_invariant` for what
  the invariant says of each step.
-/

namespace RebooterHub.Runs

variable {σ α ε : Type*} {step : σ → α → σ} {ok : σ → α → Prop} {out : σ → α → List ε}

/-- The state in which the run `as` from `s` ends. -/
def run (step : σ → α → σ) : σ → List α → σ
  | s, [] => s
  | s, a :: as => run step (step s a) as

/-- What the run `as` from `s` puts out, in order. -/
def emitted (step : σ → α → σ) (out : σ → α → List ε) : σ → List α → List ε
  | _, [] => []
  | s, a :: as => out s a ++ emitted step out (step s a) as

/-- Each label of the run `as` from `s` meets `ok` at the state it is taken in. -/
def Admits (step : σ → α → σ) (ok : σ → α → Prop) : σ → List α → Prop
  | _, [] => True
  | s, a :: as => ok s a ∧ Admits step ok (step s a) as

@[simp] theorem run_nil (s : σ) : run step s [] = s := rfl

@[simp] theorem run_cons (s : σ) (a : α) (as : List α) :
    run step s (a :: as) = run step (step s a) as := rfl

@[simp] theorem emitted_nil (s : σ) : emitted step out s [] = [] := rfl

@[simp] theorem emitted_cons (s : σ) (a : α) (as : List α) :
    emitted step out s (a :: as) = out s a ++ emitted step out (step s a) as := rfl

@[simp] theorem admits_nil (s : σ) : Admits step ok s [] := trivial

@[simp] theorem admits_cons (s : σ) (a : α) (as : List α) :
    Admits step ok s (a :: as) ↔ ok s a ∧ Admits step ok (step s a) as := Iff.rfl

/-- A run is run in two parts. -/
theorem run_append (s : σ) (as bs : List α) :
    run step s (as ++ bs) = run step (run step s as) bs := by
  induction as generalizing s with
  | nil => rfl
  | cons a as ih => exact ih (step s a)

/-- **The invariant rule.**  What each admitted step keeps, an admitted run keeps. -/
theorem run_invariant {I : σ → Prop} (hstep : ∀ s a, I s → ok s a → I (step s a)) {s : σ}
    {as : List α} (hs : I s) (has : Admits step ok s as) : I (run step s as) := by
  induction as generalizing s with
  | nil => exact hs
  | cons a as ih => exact ih (hstep s a hs has.1) has.2

/-- A run puts out what its parts put out. -/
theorem emitted_append (s : σ) (as bs : List α) :
    emitted step out s (as ++ bs) =
      emitted step out s as ++ emitted step out (run step s as) bs := by
  induction as generalizing s with
  | nil => rfl
  | cons a as ih =>
      rw [List.cons_append, emitted_cons, ih, emitted_cons, run_cons, List.append_assoc]

/-- The conditions on a run are those on its parts. -/
theorem admits_append (s : σ) (as bs : List α) :
    Admits step ok s (as ++ bs) ↔ Admits step ok s as ∧ Admits step ok (run step s as) bs := by
  induction as generalizing s with
  | nil => exact ⟨fun h => ⟨trivial, h⟩, And.right⟩
  | cons a as ih => rw [List.cons_append, admits_cons, ih, admits_cons, run_cons, and_assoc]

/-- **The invariant rule, with what was put out.**  What each admitted step keeps of the state
and the output before it, an admitted run keeps. -/
theorem emitted_invariant {I : List ε → σ → Prop}
    (hstep : ∀ es s a, I es s → ok s a → I (es ++ out s a) (step s a)) {es : List ε} {s : σ}
    {as : List α} (hs : I es s) (has : Admits step ok s as) :
    I (es ++ emitted step out s as) (run step s as) := by
  induction as generalizing s es with
  | nil => rwa [emitted_nil, List.append_nil]
  | cons a as ih =>
      rw [emitted_cons, ← List.append_assoc]
      exact ih (hstep es s a hs has.1) has.2

theorem mem_snoc {a b : α} {as : List α} : a ∈ as ++ [b] ↔ a ∈ as ∨ a = b := by
  rw [List.mem_append, List.mem_singleton]

/-- An entry of a log to which one is added. -/
theorem snoc_split {log before after : List α} {a x : α} (h : log ++ [x] = before ++ a :: after) :
    a = x ∧ after = [] ∧ log = before ∨
      ∃ later, after = later ++ [x] ∧ log = before ++ a :: later := by
  rcases List.eq_nil_or_concat after with rfl | ⟨later, y, rfl⟩
  · obtain ⟨hlog, hlast⟩ := List.append_inj' h rfl
    exact .inl ⟨(List.singleton_inj.mp hlast).symm, rfl, hlog⟩
  · rw [List.concat_eq_append, ← List.cons_append, ← List.append_assoc] at h
    obtain ⟨hlog, hlast⟩ := List.append_inj' h rfl
    exact .inr ⟨later, by rw [List.concat_eq_append, List.singleton_inj.mp hlast], hlog⟩

/-- **The invariant rule, with the labels.**  What each step keeps of the labels and the state
after them, a run keeps. -/
theorem labels_invariant {I : List α → σ → Prop} {s : σ} (as : List α)
    (hstep : ∀ pre s a, a ∈ as → I pre s → I (pre ++ [a]) (step s a)) (hs : I [] s) :
    I as (run step s as) := by
  have hrun : ∀ pre s, I pre s → I (pre ++ as) (run step s as) := by
    clear hs
    induction as with
    | nil =>
        intro pre s hs
        rwa [List.append_nil]
    | cons a as ih =>
        intro pre s hs
        rw [List.append_cons]
        exact ih (fun pre s b hb => hstep pre s b (List.mem_cons_of_mem a hb)) _ _
          (hstep pre s a List.mem_cons_self hs)
  exact hrun [] s hs

/-- **The invariant rule, for conditions.**  A condition that follows from another on the states
that keep an invariant follows on the run. -/
theorem admits_of_invariant {ok' : σ → α → Prop} {I : σ → Prop}
    (hstep : ∀ s a, I s → ok s a → I (step s a) ∧ ok' s a) {s : σ} {as : List α} (hs : I s)
    (has : Admits step ok s as) : Admits step ok' s as := by
  induction as generalizing s with
  | nil => trivial
  | cons a as ih =>
      obtain ⟨hnext, hok⟩ := hstep s a hs has.1
      exact ⟨hok, ih hnext has.2⟩

/-- A condition that every label meets is met by every run. -/
theorem admits_of_forall (h : ∀ s a, ok s a) (s : σ) (as : List α) : Admits step ok s as := by
  induction as generalizing s with
  | nil => trivial
  | cons a as ih => exact ⟨h s a, ih (step s a)⟩

end RebooterHub.Runs
