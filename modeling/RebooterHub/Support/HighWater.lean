import Mathlib.Data.List.Sort
import Mathlib.Data.List.Nodup

/-!
# Support — High water

A reader that remembers one number, its mark, reads a log of numbered entries in batches: the
entries above the mark in the order of their numbers, at most `limit` of them (`batch`), and
then moves the mark to the last number it got (`advance`).

The log may gain entries in any order, so the mark can pass a number before an entry under it
appears.  `advance_lt_iff` says when a batch stays below a given number, `mem_batch_of_le` that
nothing present is passed over, and `lt_advance` that a batch with something to read moves the
mark.
-/

namespace RebooterHub.HighWater

variable {ε : Type*} {num : ε → ℕ} {mark limit : ℕ} {log : List ε}

/-- The entries of the log above the mark, in the order of their numbers. -/
def above (num : ε → ℕ) (mark : ℕ) (log : List ε) : List ε :=
  (log.filter (mark < num ·)).insertionSort (num · ≤ num ·)

/-- What one read returns. -/
def batch (num : ε → ℕ) (mark limit : ℕ) (log : List ε) : List ε :=
  (above num mark log).take limit

/-- The mark after a read. -/
def advance (num : ε → ℕ) (mark : ℕ) (read : List ε) : ℕ := (read.getLast?.map num).getD mark

/-- No two entries of the log have one number. -/
def Distinct (num : ε → ℕ) (log : List ε) : Prop := (log.map num).Nodup

theorem mem_above {e : ε} : e ∈ above num mark log ↔ e ∈ log ∧ mark < num e := by
  simp [above, List.mem_insertionSort]

theorem above_sorted (num : ε → ℕ) (mark : ℕ) (log : List ε) :
    (above num mark log).Pairwise (num · ≤ num ·) :=
  haveI : Std.Total (fun a b : ε => num a ≤ num b) := ⟨fun a b => Nat.le_total (num a) (num b)⟩
  haveI : IsTrans ε (fun a b => num a ≤ num b) := ⟨fun _ _ _ => Nat.le_trans⟩
  List.pairwise_insertionSort _ _

theorem mem_of_mem_batch {e : ε} (h : e ∈ batch num mark limit log) :
    e ∈ log ∧ mark < num e :=
  mem_above.mp (List.mem_of_mem_take h)

/-- The last number of a sorted list is its greatest. -/
theorem le_advance_of_mem {read : List ε} (hs : read.Pairwise (num · ≤ num ·)) {e : ε}
    (he : e ∈ read) : num e ≤ advance num mark read := by
  obtain ⟨init, last, rfl⟩ : ∃ init last, read = init ++ [last] :=
    ⟨_, _, (List.dropLast_append_getLast (List.ne_nil_of_mem he)).symm⟩
  simp only [advance, List.getLast?_concat, Option.map_some, Option.getD_some]
  rcases List.mem_append.mp he with hi | hl
  · exact (List.pairwise_append.mp hs).2.2 e hi last (List.mem_singleton_self last)
  · rw [List.mem_singleton.mp hl]

theorem advance_eq_of_ne_nil (num : ε → ℕ) (mark : ℕ) {read : List ε} (h : read ≠ []) :
    ∃ e ∈ read, advance num mark read = num e :=
  ⟨read.getLast h, List.getLast_mem h, by simp [advance, List.getLast?_eq_getLast_of_ne_nil h]⟩

theorem batch_sorted : (batch num mark limit log).Pairwise (num · ≤ num ·) :=
  (above_sorted num mark log).sublist (List.take_sublist _ _)

/-- What the batch leaves behind lies beyond all it takes. -/
theorem le_of_mem_drop {b e : ε} (hb : b ∈ batch num mark limit log)
    (he : e ∈ (above num mark log).drop limit) : num b ≤ num e := by
  have hs := above_sorted num mark log
  rw [← List.take_append_drop limit (above num mark log)] at hs
  exact (List.pairwise_append.mp hs).2.2 b hb e he

/-- An entry above the mark is read or left behind. -/
theorem mem_batch_or_drop (limit : ℕ) {e : ε} (he : e ∈ log) (hm : mark < num e) :
    e ∈ batch num mark limit log ∨ e ∈ (above num mark log).drop limit := by
  have h : e ∈ above num mark log := mem_above.mpr ⟨he, hm⟩
  rw [← List.take_append_drop limit (above num mark log)] at h
  exact List.mem_append.mp h

/-- **Nothing present is passed over**: an entry the mark moves past is in the batch. -/
theorem mem_batch_of_le (hd : Distinct num log) {e : ε} (he : e ∈ log) (hm : mark < num e)
    (hle : num e ≤ advance num mark (batch num mark limit log)) :
    e ∈ batch num mark limit log := by
  rcases mem_batch_or_drop limit he hm with h | h
  · exact h
  · by_cases hnil : batch num mark limit log = []
    · simp only [hnil, advance, List.getLast?_nil, Option.map_none, Option.getD_none] at hle
      omega
    · obtain ⟨b, hb, hadv⟩ := advance_eq_of_ne_nil num mark hnil
      have hbe : num b = num e := le_antisymm (le_of_mem_drop hb h) (hadv ▸ hle)
      have : b = e := List.inj_on_of_nodup_map hd (mem_of_mem_batch hb).1 he hbe
      rwa [← this]

/-- With something to read, the mark moves. -/
theorem lt_advance (hl : 0 < limit) {e : ε} (he : e ∈ log) (hm : mark < num e) :
    mark < advance num mark (batch num mark limit log) := by
  have hne : batch num mark limit log ≠ [] := by
    intro h
    rcases List.take_eq_nil_iff.mp h with h0 | h0
    · omega
    · have := mem_above.mpr ⟨he, hm⟩
      rw [h0] at this
      cases this
  obtain ⟨b, hb, hadv⟩ := advance_eq_of_ne_nil num mark hne
  rw [hadv]
  exact (mem_of_mem_batch hb).2

/-- A read stays below `n`: everything present does, or enough entries come before `n` to fill
the batch. -/
def StaysBelow (num : ε → ℕ) (mark limit : ℕ) (log : List ε) (n : ℕ) : Prop :=
  (∀ e ∈ log, num e < n) ∨ limit ≤ (log.filter (mark < num ·)).countP (num · < n)

/-- **When a read passes a number.**  The mark stays below a number above it exactly when the
read does. -/
theorem advance_lt_iff {n : ℕ} (hm : mark < n) :
    advance num mark (batch num mark limit log) < n ↔ StaysBelow num mark limit log n := by
  have hcount : (log.filter (mark < num ·)).countP (num · < n)
      = (above num mark log).countP (num · < n) :=
    ((List.perm_insertionSort _ _).countP_eq _).symm
  rw [StaysBelow, hcount]
  have hsplit : (above num mark log).countP (num · < n)
      = (batch num mark limit log).countP (num · < n)
        + ((above num mark log).drop limit).countP (num · < n) := by
    conv_lhs => rw [← List.take_append_drop limit (above num mark log), List.countP_append]
    rfl
  constructor
  · intro h
    by_cases hfull : limit ≤ (above num mark log).length
    · -- the batch is full and all of it lies below `n`
      right
      have hall : (batch num mark limit log).countP (num · < n)
          = (batch num mark limit log).length := by
        rw [List.countP_eq_length]
        intro b hb
        simpa using (le_advance_of_mem batch_sorted hb).trans_lt h
      have hlen : (batch num mark limit log).length = limit := by
        simp only [batch, List.length_take, Nat.min_eq_left hfull]
      omega
    · -- the batch is all there is
      left
      intro e he
      by_cases hme : mark < num e
      · have hb : e ∈ batch num mark limit log := by
          rw [batch, List.take_of_length_le (by omega)]
          exact mem_above.mpr ⟨he, hme⟩
        exact (le_advance_of_mem batch_sorted hb).trans_lt h
      · omega
  · intro h
    by_contra hge
    have hne : batch num mark limit log ≠ [] := by
      intro hnil
      simp only [hnil, advance, List.getLast?_nil, Option.map_none, Option.getD_none] at hge
      omega
    obtain ⟨b, hb, hadv⟩ := advance_eq_of_ne_nil num mark hne
    rw [hadv] at hge
    rcases h with h | h
    · exact hge (h b (mem_of_mem_batch hb).1)
    · -- the batch has an entry that is not below `n`, and what is left lies beyond that entry
      have hdrop : ((above num mark log).drop limit).countP (num · < n) = 0 := by
        rw [List.countP_eq_zero]
        intro e he
        have := le_of_mem_drop hb he
        simp only [decide_eq_true_eq]
        omega
      have hlt : (batch num mark limit log).countP (num · < n)
          < (batch num mark limit log).length := by
        refine lt_of_le_of_ne List.countP_le_length fun heq => ?_
        have := (List.countP_eq_length.mp heq) b hb
        simp only [decide_eq_true_eq] at this
        exact hge this
      have hlen : (batch num mark limit log).length ≤ limit := List.length_take_le _ _
      omega

/-! ### A log in order -/

theorem filter_of_consecutive {first : ℕ} (h : log.map num = List.range' first log.length) :
    log.filter (mark < num ·) = log.drop (mark + 1 - first) := by
  induction log generalizing first with
  | nil => simp
  | cons e es ih =>
      simp only [List.map_cons, List.length_cons, List.range'_succ, List.cons.injEq] at h
      obtain ⟨hnum, hrest⟩ := h
      rw [List.filter_cons, hnum, ih hrest]
      by_cases hm : mark < first
      · rw [if_pos (by simpa using hm), Nat.sub_eq_zero_of_le (by omega),
          Nat.sub_eq_zero_of_le (by omega), List.drop_zero, List.drop_zero]
      · rw [if_neg (by simpa using hm), show mark + 1 - first = mark - first + 1 by omega,
          List.drop_succ_cons, show mark + 1 - (first + 1) = mark - first by omega]

/-- Of a log whose entries are numbered from 1 on, a read takes the next ones. -/
theorem batch_of_consecutive (h : log.map num = List.range' 1 log.length) :
    batch num mark limit log = (log.drop mark).take limit := by
  have hsorted : (log.drop mark).Pairwise (num · ≤ num ·) := by
    refine List.Pairwise.drop ?_
    rw [← List.pairwise_map (R := (· ≤ ·)), h]
    exact List.pairwise_le_range'
  rw [batch, above, filter_of_consecutive h, Nat.add_sub_cancel, hsorted.insertionSort_eq]

/-- The mark after a read of consecutive entries. -/
theorem advance_of_consecutive {read : List ε}
    (h : read.map num = List.range' (mark + 1) read.length) :
    advance num mark read = mark + read.length := by
  rcases List.eq_nil_or_concat' read with rfl | ⟨init, last, rfl⟩
  · rfl
  · have hlast := congrArg List.getLast? h
    rw [List.getLast?_map, List.getLast?_concat, List.length_append, List.length_singleton,
      List.range'_concat, List.getLast?_concat, Option.map_some] at hlast
    rw [advance, List.getLast?_concat, Option.map_some, Option.getD_some, Option.some.inj hlast,
      List.length_append, List.length_singleton]
    omega

end RebooterHub.HighWater
