import Mathlib.Data.List.Sort
import Mathlib.Data.Prod.Lex

/-!
# Support — Top rows

The first `k` rows of a table in descending order of a stamp.  The order leaves open how rows with
one stamp are arranged, so a query with a limit has several possible answers.

* `Top stamp k rows top` says that `top` is one of them.
* `Top.widen`: a part of a table may be cut to its own first `k` rows beforehand.
* `forall_top_iff`: which tables have a row with a property in every answer.
* `exists_top_mem_iff`: which rows are in some answer.
-/

namespace RebooterHub.TopRows

variable {α τ : Type*} [LinearOrder τ] {stamp : α → τ} {k : ℕ} {rows rows' top : List α}

/-- The rows in descending order of their stamps. -/
def Arranged (stamp : α → τ) (rows order : List α) : Prop :=
  order.Perm rows ∧ order.Pairwise fun a b => stamp b ≤ stamp a

/-- The first `k` rows of an arrangement. -/
def Top (stamp : α → τ) (k : ℕ) (rows top : List α) : Prop :=
  ∃ order, Arranged stamp rows order ∧ top = order.take k

/-- `rows.sort(key=stamp, reverse=True)`. -/
def sorted (stamp : α → τ) (rows : List α) : List α :=
  rows.insertionSort fun a b => stamp b ≤ stamp a

/-- `max(rows, key=stamp)`, the first of the greatest. -/
def maxBy (stamp : α → τ) : List α → Option α
  | [] => none
  | a :: rows => some (rows.foldl (fun m b => if stamp m < stamp b then b else m) a)

theorem arranged_sorted (stamp : α → τ) (rows : List α) :
    Arranged stamp rows (sorted stamp rows) :=
  ⟨List.perm_insertionSort _ rows, List.pairwise_insertionSort _ rows⟩

theorem top_sorted (stamp : α → τ) (k : ℕ) (rows : List α) :
    Top stamp k rows ((sorted stamp rows).take k) :=
  ⟨_, arranged_sorted stamp rows, rfl⟩

theorem Top.perm (h : Top stamp k rows top) (hperm : rows.Perm rows') :
    Top stamp k rows' top := by
  obtain ⟨order, ⟨horder, hdesc⟩, rfl⟩ := h
  exact ⟨order, ⟨horder.trans hperm, hdesc⟩, rfl⟩

/-- What the first rows are, without the arrangement of the others. -/
theorem top_iff : Top stamp k rows top ↔
    top.length = min k rows.length ∧ (top.Pairwise fun a b => stamp b ≤ stamp a) ∧
      ∃ rest, (top ++ rest).Perm rows ∧ ∀ a ∈ top, ∀ b ∈ rest, stamp b ≤ stamp a := by
  constructor
  · rintro ⟨order, ⟨hperm, hdesc⟩, rfl⟩
    refine ⟨by rw [List.length_take, hperm.length_eq], hdesc.sublist (List.take_sublist _ _),
      order.drop k, by rwa [List.take_append_drop], fun a ha b hb => ?_⟩
    rw [← List.take_append_drop k order, List.pairwise_append] at hdesc
    exact hdesc.2.2 a ha b hb
  · rintro ⟨hlength, hdesc, rest, hperm, hbelow⟩
    obtain ⟨hrest, hrestdesc⟩ := arranged_sorted stamp rest
    refine ⟨top ++ sorted stamp rest, ⟨(hrest.append_left top).trans hperm, ?_⟩, ?_⟩
    · exact List.pairwise_append.mpr
        ⟨hdesc, hrestdesc, fun a ha b hb => hbelow a ha b (hrest.mem_iff.mp hb)⟩
    · have htotal := hperm.length_eq
      rw [List.length_append] at htotal
      rcases Nat.lt_or_ge rows.length k with hfew | hmany
      · -- all rows are among the first
        have hnil : rest = [] := List.eq_nil_of_length_eq_zero (by omega)
        rw [hnil, sorted, List.insertionSort_nil, List.append_nil, List.take_of_length_le]
        omega
      · rw [List.take_left' (by omega)]

theorem Top.subset (h : Top stamp k rows top) : top ⊆ rows := by
  obtain ⟨-, -, rest, hperm, -⟩ := top_iff.mp h
  exact fun a ha => hperm.subset (List.mem_append_left rest ha)

/-- The first rows of a table of which a part was cut to its first rows. -/
theorem Top.widen {others part cut : List α} (h : Top stamp k (others ++ cut) top)
    (hcut : Top stamp k part cut) : Top stamp k (others ++ part) top := by
  obtain ⟨hlength, hdesc, rest, hperm, hbelow⟩ := top_iff.mp h
  obtain ⟨hcutLength, -, cutRest, hcutPerm, hcutBelow⟩ := top_iff.mp hcut
  rw [List.length_append] at hlength
  refine top_iff.mpr ⟨by rw [List.length_append]; omega, hdesc, rest ++ cutRest, ?_, ?_⟩
  · rw [← List.append_assoc]
    refine (hperm.append_right cutRest).trans ?_
    rw [List.append_assoc]
    exact hcutPerm.append_left others
  · intro a ha b hb
    rcases List.mem_append.mp hb with hb | hb
    · exact hbelow a ha b hb
    · -- were `b` above `a`, all of the cut were, and they filled the first rows
      by_contra hlt
      have habove : ∀ c ∈ cut, stamp a < stamp c := fun c hc =>
        lt_of_lt_of_le (not_le.mp hlt) (hcutBelow c hc b hb)
      have hfull : cut.length = k := by
        have htotal := hcutPerm.length_eq
        have hsome := List.length_pos_of_mem hb
        rw [List.length_append] at htotal
        omega
      have hcount := hperm.countP_eq (stamp a < stamp ·)
      have hcutAll := (List.countP_eq_length (p := (stamp a < stamp ·))).mpr fun c hc =>
        decide_eq_true (habove c hc)
      have hrestNone := (List.countP_eq_zero (p := (stamp a < stamp ·))).mpr fun c hc =>
        by simpa using hbelow a ha c hc
      have htopAll : top.countP (stamp a < stamp ·) = top.length := by
        have hle := List.countP_le_length (p := (stamp a < stamp ·)) (l := top)
        rw [List.countP_append, List.countP_append, hcutAll, hrestNone] at hcount
        omega
      exact lt_irrefl _ (of_decide_eq_true (List.countP_eq_length.mp htopAll a ha))

/-- An answer for a finer stamp. -/
theorem Top.coarsen {σ : Type*} [LinearOrder σ] {fine : α → σ} (h : Top fine k rows top)
    (hle : ∀ a b, fine b ≤ fine a → stamp b ≤ stamp a) : Top stamp k rows top := by
  obtain ⟨order, ⟨hperm, hdesc⟩, rfl⟩ := h
  exact ⟨order, ⟨hperm, hdesc.imp fun {a b} => hle a b⟩, rfl⟩

/-- A row that is not among those counted leaves fewer than all. -/
theorem countP_lt_length {p : α → Bool} {a : α} (ha : a ∈ top) (hp : p a = false) :
    top.countP p < top.length := by
  refine lt_of_le_of_ne List.countP_le_length fun hall => ?_
  rw [List.countP_eq_length.mp hall a ha] at hp
  cases hp

/-- Every answer has a row with `p` exactly if for one of these rows fewer than `k` of the others
are as high. -/
theorem forall_top_iff (p : α → Prop) [DecidablePred p] :
    (∀ top, Top stamp k rows top → ∃ a ∈ top, p a) ↔
      ∃ a ∈ rows, p a ∧ rows.countP (fun b => ¬ p b ∧ stamp a ≤ stamp b) < k := by
  constructor
  · intro h
    -- the answer that prefers the rows without `p`
    let worst : α → τ ×ₗ ℕ := fun b => toLex (stamp b, if p b then 0 else 1)
    have hworst := top_sorted worst k rows
    obtain ⟨a, ha, hpa⟩ := h _ (hworst.coarsen fun b c hle => by
      rcases Prod.Lex.le_iff.mp hle with hlt | ⟨heq, -⟩
      · exact hlt.le
      · exact heq.le)
    obtain ⟨hlength, -, rest, hperm, hbelow⟩ := top_iff.mp hworst
    refine ⟨a, hworst.subset ha, hpa, ?_⟩
    have hrest : rest.countP (fun b => ¬ p b ∧ stamp a ≤ stamp b) = 0 := by
      refine List.countP_eq_zero.mpr fun b hb => ?_
      rw [decide_eq_true_eq]
      rintro ⟨hpb, hle⟩
      rcases Prod.Lex.le_iff.mp (hbelow a ha b hb) with hlt | ⟨-, hone⟩
      · exact absurd hlt (not_lt.mpr hle)
      · simp [worst, hpa, hpb] at hone
    have htop := countP_lt_length (p := fun b => ¬ p b ∧ stamp a ≤ stamp b) ha (by simp [hpa])
    rw [← hperm.countP_eq, List.countP_append, hrest]
    omega
  · rintro ⟨a, ha, hpa, hcount⟩ top htop
    obtain ⟨hlength, -, rest, hperm, hbelow⟩ := top_iff.mp htop
    by_contra hnone
    have hnot : ∀ b ∈ top, ¬ p b := fun b hb hpb => hnone ⟨b, hb, hpb⟩
    have harest : a ∈ rest := by
      rcases List.mem_append.mp (hperm.mem_iff.mpr ha) with hmem | hmem
      · exact absurd hpa (hnot a hmem)
      · exact hmem
    have hall : top.countP (fun b => ¬ p b ∧ stamp a ≤ stamp b) = top.length :=
      List.countP_eq_length.mpr fun b hb => decide_eq_true ⟨hnot b hb, hbelow b hb a harest⟩
    have htotal := hperm.length_eq
    have hsome := List.length_pos_of_mem harest
    rw [← hperm.countP_eq, List.countP_append, hall] at hcount
    rw [List.length_append] at htotal
    omega

/-- A row is in some answer exactly if fewer than `k` rows are above it. -/
theorem exists_top_mem_iff {a : α} : (∃ top, Top stamp k rows top ∧ a ∈ top) ↔
    a ∈ rows ∧ rows.countP (stamp a < stamp ·) < k := by
  classical
  constructor
  · rintro ⟨top, htop, ha⟩
    obtain ⟨hlength, -, rest, hperm, hbelow⟩ := top_iff.mp htop
    have hrest : rest.countP (stamp a < stamp ·) = 0 :=
      List.countP_eq_zero.mpr fun b hb => by simpa using hbelow a ha b hb
    have hlt := countP_lt_length (p := (stamp a < stamp ·)) ha (by simp)
    refine ⟨htop.subset ha, ?_⟩
    rw [← hperm.countP_eq, List.countP_append, hrest]
    omega
  · rintro ⟨ha, hcount⟩
    -- the answer that prefers `a` among the rows of its stamp
    let best : α → τ ×ₗ ℕ := fun b => toLex (stamp b, if b = a then 1 else 0)
    have hbest := top_sorted best k rows
    refine ⟨_, hbest.coarsen fun b c hle => ?_, ?_⟩
    · rcases Prod.Lex.le_iff.mp hle with hlt | ⟨heq, -⟩
      · exact hlt.le
      · exact heq.le
    obtain ⟨hlength, -, rest, hperm, hbelow⟩ := top_iff.mp hbest
    rcases List.mem_append.mp (hperm.mem_iff.mpr ha) with htop | hrest
    · exact htop
    · by_contra hnot
      have hall : ((sorted best rows).take k).countP (stamp a < stamp ·) = _ :=
        List.countP_eq_length.mpr fun b hb => by
          have hne : b ≠ a := fun heq => hnot (heq ▸ hb)
          rcases Prod.Lex.le_iff.mp (hbelow b hb a hrest) with hlt | ⟨-, hone⟩
          · exact decide_eq_true hlt
          · simp [best, hne] at hone
      have htotal := hperm.length_eq
      have hsome := List.length_pos_of_mem hrest
      rw [← hperm.countP_eq, List.countP_append, hall] at hcount
      rw [List.length_append] at htotal
      omega

/-- The answers for a table that is computed from another. -/
theorem Top.map {β : Type*} {rows top : List β} (f : β → α)
    (h : Top (fun b => stamp (f b)) k rows top) : Top stamp k (rows.map f) (top.map f) := by
  obtain ⟨order, ⟨hperm, hdesc⟩, rfl⟩ := h
  exact ⟨order.map f, ⟨hperm.map f, List.pairwise_map.mpr hdesc⟩, List.map_take⟩

theorem map_sorted {β : Type*} (f : β → α) (rows : List β) :
    (sorted (fun b => stamp (f b)) rows).map f = sorted stamp (rows.map f) :=
  List.map_insertionSort _ _ f rows fun _ _ _ _ => Iff.rfl

/-! ### The greatest row -/

theorem foldl_max (a : α) :
    rows.foldl (fun m b => if stamp m < stamp b then b else m) a ∈ a :: rows ∧
      ∀ b ∈ a :: rows,
        stamp b ≤ stamp (rows.foldl (fun m b => if stamp m < stamp b then b else m) a) := by
  induction rows generalizing a with
  | nil => simp
  | cons b rows ih =>
      rw [List.foldl_cons]
      split
      · next hlt =>
          obtain ⟨hmem, hmax⟩ := ih b
          refine ⟨List.mem_cons_of_mem a hmem, fun c hc => ?_⟩
          rcases List.mem_cons.mp hc with rfl | hc
          · exact hlt.le.trans (hmax b List.mem_cons_self)
          · exact hmax c hc
      · next hle =>
          obtain ⟨hmem, hmax⟩ := ih a
          refine ⟨?_, fun c hc => ?_⟩
          · rcases List.mem_cons.mp hmem with heq | hmem
            · rw [heq]
              exact List.mem_cons_self
            · exact List.mem_cons_of_mem _ (List.mem_cons_of_mem _ hmem)
          · rcases List.mem_cons.mp hc with rfl | hc
            · exact hmax _ List.mem_cons_self
            · rcases List.mem_cons.mp hc with rfl | hc
              · exact (not_lt.mp hle).trans (hmax a List.mem_cons_self)
              · exact hmax c (List.mem_cons_of_mem a hc)

theorem maxBy_spec {a : α} (h : maxBy stamp rows = some a) :
    a ∈ rows ∧ ∀ b ∈ rows, stamp b ≤ stamp a := by
  cases rows with
  | nil => cases h
  | cons b rows =>
      obtain rfl := Option.some.inj h
      exact foldl_max b

theorem maxBy_eq_none : maxBy stamp rows = none ↔ rows = [] := by
  cases rows <;> simp [maxBy]

end RebooterHub.TopRows
