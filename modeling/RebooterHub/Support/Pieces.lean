import Mathlib.Data.List.Basic
import Mathlib.Data.List.TakeWhile

/-!
# Support — Pieces

The pieces that a list falls into at its separators.

* `mem_splitOnP`: `List.splitOnP` finds the pieces, and only them.
-/

namespace RebooterHub.Pieces

universe u v

variable {α : Type u} {β : Type v} {p : α → Bool} {xs piece : List α}

/-- A piece of a list: it has no separator, and lies between separators or the ends. -/
def Piece (p : α → Bool) (xs piece : List α) : Prop :=
  ∃ before after, xs = before ++ piece ++ after ∧ (∀ c ∈ before.getLast?, p c) ∧
    (∀ c ∈ after.head?, p c) ∧ ∀ c ∈ piece, p c = false

/-- A list without separators, or its first piece and the rest. -/
theorem cut (p : α → Bool) (xs : List α) : (∀ c ∈ xs, p c = false) ∨
    ∃ first s rest, xs = first ++ s :: rest ∧ (∀ c ∈ first, p c = false) ∧ p s := by
  induction xs with
  | nil => exact .inl (List.forall_mem_nil _)
  | cons x xs ih =>
      by_cases hx : p x
      · exact .inr ⟨[], x, xs, rfl, List.forall_mem_nil _, hx⟩
      · have hx : p x = false := eq_false_of_ne_true hx
        rcases ih with h | ⟨first, s, rest, rfl, hfirst, hs⟩
        · exact .inl (List.forall_mem_cons.mpr ⟨hx, h⟩)
        · exact .inr ⟨x :: first, s, rest, rfl, List.forall_mem_cons.mpr ⟨hx, hfirst⟩, hs⟩

/-- The pieces of what follows a separator are pieces. -/
theorem Piece.append_cons {rest : List α} {s : α} (h : Piece p rest piece) (hs : p s)
    (first : List α) : Piece p (first ++ s :: rest) piece := by
  obtain ⟨before, after, rfl, hbefore, hafter, hpiece⟩ := h
  refine ⟨first ++ s :: before, after, by simp, ?_, hafter, hpiece⟩
  intro c hc
  cases before with
  | nil =>
      rw [List.getLast?_append, List.getLast?_singleton] at hc
      cases hc
      exact hs
  | cons b before =>
      rw [List.getLast?_append, List.getLast?_cons_cons] at hc
      refine hbefore c ?_
      cases hlast : (b :: before).getLast? with
      | none => simp at hlast
      | some d =>
          rw [hlast] at hc
          exact hc

theorem piece_of_mem_splitOnP (h : piece ∈ xs.splitOnP p) : Piece p xs piece := by
  induction hlength : xs.length using Nat.strong_induction_on generalizing xs with
  | _ n ih =>
      rcases cut p xs with hnone | ⟨first, s, rest, rfl, hfirst, hs⟩
      · rw [List.splitOnP_eq_singleton hnone, List.mem_singleton] at h
        subst h
        exact ⟨[], [], by simp, by simp, by simp, hnone⟩
      · rw [List.splitOnP_append_cons_of_forall_mem hfirst s hs, List.mem_cons] at h
        rcases h with rfl | h
        · exact ⟨[], s :: rest, by simp, by simp, by simpa using hs, hfirst⟩
        · exact (ih rest.length (by simp at hlength; omega) h rfl).append_cons hs first

theorem Piece.mem_splitOnP (h : Piece p xs piece) : piece ∈ xs.splitOnP p := by
  obtain ⟨before, after, rfl, hbefore, hafter, hpiece⟩ := h
  have hrest : piece ∈ (piece ++ after).splitOnP p := by
    cases after with
    | nil => simp [List.splitOnP_eq_singleton hpiece]
    | cons s after =>
        rw [List.splitOnP_append_cons_of_forall_mem hpiece s (hafter s rfl)]
        exact List.mem_cons_self
  rcases List.eq_nil_or_concat' before with rfl | ⟨first, s, rfl⟩
  · exact hrest
  · have hs : p s := hbefore s (by simp)
    rw [List.append_assoc, List.append_assoc, List.singleton_append,
      List.splitOnP_append_cons first (piece ++ after) hs]
    exact List.mem_append_right _ hrest

/-- **The pieces are found.** -/
theorem mem_splitOnP : piece ∈ xs.splitOnP p ↔ Piece p xs piece :=
  ⟨piece_of_mem_splitOnP, Piece.mem_splitOnP⟩

/-- Pieces that are joined by a separator are found again. -/
theorem splitOnP_intercalate {s : α} (hs : p s) {pieces : List (List α)} (hne : pieces ≠ [])
    (h : ∀ l ∈ pieces, ∀ c ∈ l, p c = false) : ([s].intercalate pieces).splitOnP p = pieces := by
  induction pieces with
  | nil => exact absurd rfl hne
  | cons first rest ih =>
      obtain ⟨hfirst, hrest⟩ := List.forall_mem_cons.mp h
      cases rest with
      | nil => simpa using List.splitOnP_eq_singleton hfirst
      | cons second rest =>
          rw [List.intercalate_cons_cons, List.append_assoc, List.singleton_append,
            List.splitOnP_append_cons_of_forall_mem hfirst s hs,
            ih (List.cons_ne_nil _ _) hrest]

/-- The pieces of the images are the images of the pieces. -/
theorem splitOnP_map (p : β → Bool) (f : α → β) (xs : List α) :
    (xs.map f).splitOnP p = (xs.splitOnP (p ∘ f)).map (List.map f) := by
  induction xs with
  | nil => rfl
  | cons x xs ih =>
      rw [List.map_cons, List.splitOnP_cons_eq_if_modifyHead, List.splitOnP_cons_eq_if_modifyHead,
        ih, Function.comp_apply]
      split
      · rfl
      · cases xs.splitOnP (p ∘ f) <;> rfl

/-- What comes before the only separator, and what comes after it. -/
theorem takeWhile_append_cons {a : α} [DecidableEq α] {before : List α} (after : List α)
    (h : a ∉ before) :
    (before ++ a :: after).takeWhile (· ≠ a) = before ∧
      ((before ++ a :: after).dropWhile (· ≠ a)).drop 1 = after := by
  have hbefore : ∀ c ∈ before, decide (c ≠ a) = true :=
    fun c hc => decide_eq_true fun hca => h (hca ▸ hc)
  constructor
  · rw [List.takeWhile_append_of_pos hbefore, List.takeWhile_cons_of_neg (by simp),
      List.append_nil]
  · rw [List.dropWhile_append_of_pos hbefore, List.dropWhile_cons_of_neg (by simp)]
    rfl

/-- A list in which `a` stands once, taken apart there. -/
theorem count_eq_one {a : α} [DecidableEq α] : xs.count a = 1 ↔
    ∃ before after, xs = before ++ a :: after ∧ a ∉ before ∧ a ∉ after := by
  constructor
  · intro hcount
    obtain ⟨before, after, rfl, hbefore⟩ :=
      List.eq_append_cons_of_mem (List.count_pos_iff.mp (by omega : 0 < xs.count a))
    refine ⟨before, after, rfl, hbefore, ?_⟩
    rw [List.count_append, List.count_cons_self, List.count_eq_zero.mpr hbefore] at hcount
    exact List.count_eq_zero.mp (by omega)
  · rintro ⟨before, after, rfl, hbefore, hafter⟩
    rw [List.count_append, List.count_cons_self, List.count_eq_zero.mpr hbefore,
      List.count_eq_zero.mpr hafter]

end RebooterHub.Pieces
