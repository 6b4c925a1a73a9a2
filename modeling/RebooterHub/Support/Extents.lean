import Mathlib.Algebra.BigOperators.Group.List.Lemmas
import Mathlib.Algebra.Order.Group.Defs
import Mathlib.Data.List.MinMax
import Mathlib.Tactic.Abel

/-!
# Support — Extents

How far apart the least and the greatest of some readings are.

`extent_flatten`: for blocks of readings, each above the ones before, the extent of all readings is
that of the blocks, and what lies between them.
-/

namespace RebooterHub.Extents

variable {α : Type*} [LinearOrder α] {xs ys : List α} {lo hi t : α} {blocks : List (List α)}

/-- Each block is above the ones before. -/
def Ascending (blocks : List (List α)) : Prop :=
  blocks.Pairwise fun xs ys => ∀ x ∈ xs, ∀ y ∈ ys, x ≤ y

/-- The least and the greatest reading. -/
structure Spans (xs : List α) (lo hi : α) : Prop where
  max : xs.max? = some hi
  min : xs.min? = some lo

theorem exists_spans (h : xs ≠ []) : ∃ lo hi, Spans xs lo hi := by
  cases hmax : xs.max? with
  | none => exact absurd (List.max?_eq_none_iff.mp hmax) h
  | some hi =>
      cases hmin : xs.min? with
      | none => exact absurd (List.min?_eq_none_iff.mp hmin) h
      | some lo => exact ⟨lo, hi, hmax, hmin⟩

theorem Spans.mem (h : Spans xs lo hi) : lo ∈ xs ∧ hi ∈ xs ∧ ∀ x ∈ xs, lo ≤ x ∧ x ≤ hi := by
  obtain ⟨hhi, hle⟩ := List.max?_eq_some_iff.mp h.max
  obtain ⟨hlo, hge⟩ := List.min?_eq_some_iff.mp h.min
  exact ⟨hlo, hhi, fun x hx => ⟨hge x hx, hle x hx⟩⟩

/-- Readings and those above them. -/
theorem Spans.append {lo' hi' : α} (h : Spans xs lo hi) (h' : Spans ys lo' hi')
    (hle : ∀ x ∈ xs, ∀ y ∈ ys, x ≤ y) : Spans (xs ++ ys) lo hi' := by
  obtain ⟨hlo, hhi, hxs⟩ := h.mem
  obtain ⟨hlo', hhi', hys⟩ := h'.mem
  constructor
  · refine List.max?_eq_some_iff.mpr ⟨List.mem_append_right _ hhi', fun x hx => ?_⟩
    rcases List.mem_append.mp hx with hx | hx
    · exact hle x hx hi' hhi'
    · exact (hys x hx).2
  · refine List.min?_eq_some_iff.mpr ⟨List.mem_append_left _ hlo, fun x hx => ?_⟩
    rcases List.mem_append.mp hx with hx | hx
    · exact (hxs x hx).1
    · exact hle lo hlo x hx

theorem Ascending.flatten (h : Ascending (xs :: blocks)) :
    ∀ x ∈ xs, ∀ y ∈ blocks.flatten, x ≤ y := by
  intro x hx y hy
  obtain ⟨ys, hys, hy⟩ := List.mem_flatten.mp hy
  exact (List.pairwise_cons.mp h).1 ys hys x hx y hy

variable [AddCommGroup α]

/-- The greatest reading less the least. -/
def extent (xs : List α) : α :=
  match xs.max?, xs.min? with
  | some hi, some lo => hi - lo
  | _, _ => 0

/-- What lies between the blocks that have readings, after one that ends at `top`. -/
def between : Option α → List (List α) → α
  | _, [] => 0
  | top, xs :: blocks =>
    match xs.max?, xs.min? with
    | some hi, some lo => (top.elim 0 fun t => lo - t) + between (some hi) blocks
    | _, _ => between top blocks

theorem Spans.extent (h : Spans xs lo hi) : extent xs = hi - lo := by
  rw [Extents.extent, h.max, h.min]

theorem Spans.between (h : Spans xs lo hi) (top : Option α) :
    between top (xs :: blocks) = (top.elim 0 fun t => lo - t) + between (some hi) blocks := by
  rw [Extents.between, h.max, h.min]

/-- The extent is that of the readings, however they are listed. -/
theorem extent_congr (h : ∀ x, x ∈ xs ↔ x ∈ ys) : extent xs = extent ys := by
  by_cases hxs : xs = []
  · have hys : ys = [] := List.eq_nil_iff_forall_not_mem.mpr fun x hx => by
      have hmem := (h x).mpr hx
      rw [hxs] at hmem
      cases hmem
    rw [hxs, hys]
  · obtain ⟨lo, hi, hspans⟩ := exists_spans hxs
    obtain ⟨hlo, hhi, hbounds⟩ := hspans.mem
    have hspans' : Spans ys lo hi :=
      { max := List.max?_eq_some_iff.mpr ⟨(h hi).mp hhi, fun x hx => (hbounds x ((h x).mpr hx)).2⟩
        min := List.min?_eq_some_iff.mpr ⟨(h lo).mp hlo, fun x hx => (hbounds x ((h x).mpr hx)).1⟩ }
    rw [hspans.extent, hspans'.extent]

theorem extent_nil : extent ([] : List α) = 0 := rfl

theorem between_nil_cons (top : Option α) : between top ([] :: blocks) = between top blocks := rfl

/-- From the end of a block on: the blocks and what lies between them reach the greatest reading. -/
theorem between_some (h : Ascending blocks) (t : α) :
    (blocks.map extent).sum + between (some t) blocks =
      blocks.flatten.max?.elim 0 fun hi => hi - t := by
  induction blocks generalizing t with
  | nil => exact add_zero 0
  | cons xs blocks ih =>
      have hrest := (List.pairwise_cons.mp h).2
      by_cases hxs : xs = []
      · subst hxs
        rw [List.map_cons, List.sum_cons, extent_nil, zero_add, between_nil_cons, ih hrest]
        rfl
      · obtain ⟨lo, hi, hspans⟩ := exists_spans hxs
        rw [List.map_cons, List.sum_cons, hspans.extent, hspans.between, List.flatten_cons]
        have hsum := ih hrest hi
        by_cases hys : blocks.flatten = []
        · rw [hys] at hsum ⊢
          rw [List.append_nil, hspans.max]
          simp only [List.max?_nil, Option.elim_none] at hsum
          simp only [Option.elim_some]
          rw [add_add_add_comm, hsum]
          abel
        · obtain ⟨lo', hi', hspans'⟩ := exists_spans hys
          rw [(hspans.append hspans' h.flatten).max]
          rw [hspans'.max] at hsum
          simp only [Option.elim_some] at hsum ⊢
          rw [add_add_add_comm, hsum]
          abel

/-- **Extents of blocks.** -/
theorem extent_flatten (h : Ascending blocks) :
    extent blocks.flatten = (blocks.map extent).sum + between none blocks := by
  induction blocks with
  | nil => exact (add_zero 0).symm
  | cons xs blocks ih =>
      have hrest := (List.pairwise_cons.mp h).2
      by_cases hxs : xs = []
      · subst hxs
        rw [List.map_cons, List.sum_cons, extent_nil, zero_add, between_nil_cons, ← ih hrest]
        rfl
      · obtain ⟨lo, hi, hspans⟩ := exists_spans hxs
        have hsum := between_some hrest hi
        rw [List.map_cons, List.sum_cons, hspans.extent, hspans.between, List.flatten_cons,
          Option.elim_none, zero_add, add_assoc, hsum]
        by_cases hys : blocks.flatten = []
        · rw [hys, List.append_nil, hspans.extent]
          exact (add_zero _).symm
        · obtain ⟨lo', hi', hspans'⟩ := exists_spans hys
          rw [(hspans.append hspans' h.flatten).extent, hspans'.max, Option.elim_some]
          abel

variable [IsOrderedAddMonoid α]

theorem between_some_nonneg (h : Ascending blocks) (ht : ∀ x ∈ blocks.flatten, t ≤ x) :
    0 ≤ between (some t) blocks := by
  induction blocks generalizing t with
  | nil => exact le_rfl
  | cons xs blocks ih =>
      have hrest := (List.pairwise_cons.mp h).2
      by_cases hxs : xs = []
      · subst hxs
        exact ih hrest ht
      · obtain ⟨lo, hi, hspans⟩ := exists_spans hxs
        obtain ⟨hlo, hhi, -⟩ := hspans.mem
        rw [hspans.between, Option.elim_some]
        refine add_nonneg (sub_nonneg.mpr (ht lo ?_)) (ih hrest (h.flatten hi hhi))
        exact List.mem_append_left _ hlo

/-- What lies between is not less than nothing. -/
theorem between_nonneg (h : Ascending blocks) : 0 ≤ between none blocks := by
  induction blocks with
  | nil => exact le_rfl
  | cons xs blocks ih =>
      have hrest := (List.pairwise_cons.mp h).2
      by_cases hxs : xs = []
      · subst hxs
        exact ih hrest
      · obtain ⟨lo, hi, hspans⟩ := exists_spans hxs
        rw [hspans.between, Option.elim_none, zero_add]
        exact between_some_nonneg hrest (h.flatten hi hspans.mem.2.1)

end RebooterHub.Extents
