import Mathlib.Algebra.Order.Floor.Ring
import Mathlib.Algebra.Order.Field.Basic
import Mathlib.Tactic.Linarith

/-!
# Support — Buckets

Sorting the rows of a table into numbered slots (`fill`): each row is added to the slot its index
names, and a row without an index to none.

* `getElem?_fill`: a slot holds the rows of its index.
* `sum_fill`: what is counted over all slots is what the rows with a slot count.
* `floor_div_eq_iff`: with slots of one width, the index of a point is that of the half-open
  interval it lies in.
-/

namespace RebooterHub.Buckets

variable {α β : Type*}

section
variable (idx : α → Option ℕ) (add : α → β → β)

/-- The slots after a row. -/
def place (slots : List β) (a : α) : List β :=
  match idx a with
  | none => slots
  | some i => slots.modify i (add a)

/-- The slots after some rows. -/
def fill (slots : List β) (rows : List α) : List β := rows.foldl (place idx add) slots

variable {idx add} {slots : List β} {rows : List α}

theorem length_place (a : α) : (place idx add slots a).length = slots.length := by
  rw [place]
  split
  · rfl
  · exact List.length_modify _ _ _

theorem length_fill : (fill idx add slots rows).length = slots.length := by
  induction rows generalizing slots with
  | nil => rfl
  | cons a rows ih => exact ih.trans (length_place a)

theorem getElem?_place (a : α) (i : ℕ) :
    (place idx add slots a)[i]? = slots[i]?.map (if idx a = some i then add a else id) := by
  rw [place]
  split
  · next h => rw [h, if_neg nofun, Option.map_id, id]
  · next j h =>
      rw [List.getElem?_modify, h]
      by_cases hj : j = i
      · simp only [if_pos hj, if_pos (congrArg some hj)]
        rfl
      · simp only [if_neg hj, if_neg fun h => hj (Option.some.inj h), Option.map_id]
        exact congrFun Option.map_id _

/-- A slot holds the rows of its index. -/
theorem getElem?_fill (i : ℕ) :
    (fill idx add slots rows)[i]? =
      slots[i]?.map fun b => (rows.filter (idx · = some i)).foldl (fun b a => add a b) b := by
  induction rows generalizing slots with
  | nil => simp [fill]
  | cons a rows ih =>
      rw [fill, List.foldl_cons, ← fill, ih, getElem?_place, Option.map_map]
      congr 1
      funext b
      by_cases h : idx a = some i
      · rw [List.filter_cons_of_pos (by simpa using h), List.foldl_cons, if_pos h]
        rfl
      · rw [List.filter_cons_of_neg (by simpa using h), if_neg h]
        rfl

theorem sum_modify {m : β → ℕ} {f : β → β} {w : ℕ} (hf : ∀ b, m (f b) = m b + w) {i : ℕ}
    (hi : i < slots.length) : ((slots.modify i f).map m).sum = (slots.map m).sum + w := by
  induction slots generalizing i with
  | nil => exact absurd hi (Nat.not_lt_zero i)
  | cons b slots ih =>
      cases i with
      | zero => simp only [List.modify_zero_cons, List.map_cons, List.sum_cons, hf]; omega
      | succ i =>
          have hsum := ih (Nat.lt_of_succ_lt_succ hi)
          simp only [List.modify_succ_cons, List.map_cons, List.sum_cons, hsum]
          omega

/-- What is counted over all slots is what the rows with a slot count. -/
theorem sum_fill {m : β → ℕ} {w : α → ℕ} (hadd : ∀ a b, m (add a b) = m b + w a) :
    ((fill idx add slots rows).map m).sum =
      (slots.map m).sum +
        ((rows.filter fun a => (idx a).any fun i => i < slots.length).map w).sum := by
  induction rows generalizing slots with
  | nil => simp [fill]
  | cons a rows ih =>
      have hplace : ((place idx add slots a).map m).sum =
          (slots.map m).sum + if (idx a).any fun i => i < slots.length then w a else 0 := by
        cases hidx : idx a with
        | none => simp [place, hidx]
        | some i =>
            by_cases hi : i < slots.length
            · simpa [place, hidx, hi] using sum_modify (hadd a) hi
            · rw [place, hidx]
              simp [hi, List.modify_eq_self (Nat.le_of_not_lt hi)]
      rw [fill, List.foldl_cons, ← fill, ih, hplace, length_place, List.filter_cons]
      split
      · rw [List.map_cons, List.sum_cons]
        omega
      · omega

end

/-- The index of a point is that of the half-open interval of one width it lies in. -/
theorem floor_div_eq_iff {K : Type*} [Field K] [LinearOrder K] [IsStrictOrderedRing K]
    [FloorRing K] {width x : K} (hwidth : 0 < width) {i : ℤ} :
    ⌊x / width⌋ = i ↔ i * width ≤ x ∧ x < (i + 1) * width := by
  rw [Int.floor_eq_iff, le_div_iff₀ hwidth, div_lt_iff₀ hwidth]

end RebooterHub.Buckets
