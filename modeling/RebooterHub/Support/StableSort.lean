import Mathlib.Data.List.Sort

/-!
# Support — Stable sort

What the head of a stable sort is.

* `First r l a` says that `a` is the first of the least elements of `l`.
* `first_of_insertionSort`: the head of the sorted list is that element.
* `First.unique`: there is one only.
-/

namespace RebooterHub.StableSort

variable {α : Type*} {r : α → α → Prop} {l : List α} {a b : α}

/-- `a` is the first of the elements of `l` that are least under `r`. -/
def First (r : α → α → Prop) (l : List α) (a : α) : Prop :=
  ∃ before after, l = before ++ a :: after ∧ (∀ b ∈ before, ¬r b a) ∧ ∀ b ∈ after, r a b

theorem First.mem (h : First r l a) : a ∈ l := by
  obtain ⟨before, after, rfl, -⟩ := h
  simp

/-- The first of the least is one element. -/
theorem First.unique (ha : First r l a) (hb : First r l b) : a = b := by
  obtain ⟨before, after, rfl, hbefore, hafter⟩ := ha
  obtain ⟨before', after', heq, hbefore', hafter'⟩ := hb
  rcases List.append_eq_append_iff.mp heq with ⟨mid, rfl, hmid⟩ | ⟨mid, rfl, hmid⟩
  · cases mid with
    | nil => exact (List.cons.inj hmid).1
    | cons c mid =>
        -- `a` stands before `b`
        obtain ⟨rfl, rfl⟩ := List.cons.inj hmid
        exact absurd (hafter b (by simp)) (hbefore' _ (by simp))
  · cases mid with
    | nil => exact (List.cons.inj hmid).1.symm
    | cons c mid =>
        obtain ⟨rfl, rfl⟩ := List.cons.inj hmid
        exact absurd (hafter' a (by simp)) (hbefore _ (by simp))

variable [DecidableRel r] [Std.Total r] [IsTrans α r]

/-- **The head of a stable sort.**  It is the first of the least. -/
theorem first_of_insertionSort : ∀ {l : List α} {a : α} {t : List α},
    l.insertionSort r = a :: t → First r l a
  | [], _, _, h => by cases h
  | c :: l, a, t, h => by
      rw [List.insertionSort_cons] at h
      cases hsort : l.insertionSort r with
      | nil =>
          have hnil : l = [] := by
            have := (List.perm_insertionSort r l).length_eq
            rw [hsort] at this
            exact List.eq_nil_of_length_eq_zero this.symm
          rw [hsort] at h
          obtain ⟨rfl, -⟩ := List.cons.inj h
          exact ⟨[], [], by rw [hnil]; rfl, by simp, by simp⟩
      | cons b u =>
          obtain ⟨before, after, hl, hbefore, hafter⟩ := first_of_insertionSort hsort
          rw [hsort, List.orderedInsert_cons] at h
          split at h
          · next hcb =>
              obtain ⟨rfl, -⟩ := List.cons.inj h
              refine ⟨[], l, rfl, by simp, fun d hd => ?_⟩
              rw [hl, List.mem_append, List.mem_cons] at hd
              rcases hd with hd | rfl | hd
              · exact IsTrans.trans _ _ _ hcb ((Std.Total.total d b).resolve_left (hbefore d hd))
              · exact hcb
              · exact IsTrans.trans _ _ _ hcb (hafter d hd)
          · next hcb =>
              obtain ⟨rfl, -⟩ := List.cons.inj h
              refine ⟨c :: before, after, by rw [hl]; rfl, ?_, hafter⟩
              rintro d hd
              rcases List.mem_cons.mp hd with rfl | hd
              · exact hcb
              · exact hbefore d hd

end RebooterHub.StableSort
