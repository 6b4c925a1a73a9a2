import Mathlib.Data.List.Dedup
import Mathlib.Data.List.Perm.Basic
import Mathlib.Data.List.Sort
import Mathlib.Order.MinMax

/-!
# Support — Latest

The latest row of each group of a table, read in two ways: from the rows of the group in
descending order (`latest`), and for all groups at once, joining the table with the greatest stamp
of each group (`joined`) and keeping the first row of each key (`firstWins`).

* `Newest rows a` says that `a` is a row and none is newer.
* `lookup_firstWins_joined`: if the rows of a group have distinct stamps, the two agree, in
  whatever order the join returns its rows.
-/

namespace RebooterHub.Latest

variable {α κ τ : Type*} [DecidableEq κ] [LinearOrder τ]

/-- `a` is one of the rows, and none is newer. -/
def Newest (stamp : α → τ) (rows : List α) (a : α) : Prop :=
  a ∈ rows ∧ ∀ b ∈ rows, stamp b ≤ stamp a

/-- `ORDER BY stamp DESC LIMIT 1`. -/
def latest (stamp : α → τ) (rows : List α) : Option α :=
  (rows.insertionSort fun a b => stamp b ≤ stamp a).head?

/-- `SELECT key, MAX(stamp) GROUP BY key`. -/
def groupMax (key : α → κ) (stamp : α → τ) (rows : List α) : List (κ × τ) :=
  (rows.map key).dedup.filterMap fun k =>
    (((rows.filter (key · = k)).map stamp).max?).map (k, ·)

/-- The rows whose key and stamp are those of a group. -/
def joined (key : α → κ) (stamp : α → τ) (groups : List (κ × τ)) (rows : List α) : List α :=
  rows.filter fun a => (key a, stamp a) ∈ groups

/-- The dict that keeps the first row of each key. -/
def firstWins (key : α → κ) (rows : List α) : List (κ × α) :=
  rows.foldl (fun d a => if (d.lookup (key a)).isSome then d else d ++ [(key a, a)]) []

/-! ### The latest row of a group -/

section
variable {stamp : α → τ} {rows : List α} {a b : α}

theorem Newest.unique (hstamps : (rows.map stamp).Nodup) (ha : Newest stamp rows a)
    (hb : Newest stamp rows b) : a = b :=
  List.inj_on_of_nodup_map hstamps ha.1 hb.1 (le_antisymm (hb.2 a ha.1) (ha.2 b hb.1))

theorem newest_latest (h : latest stamp rows = some a) : Newest stamp rows a := by
  rw [latest, List.head?_eq_some_iff] at h
  obtain ⟨older, hsort⟩ := h
  have hmem : ∀ b, b ∈ rows ↔ b ∈ a :: older := fun b => by
    rw [← hsort, List.mem_insertionSort]
  have hsorted := List.pairwise_insertionSort (fun a b => stamp b ≤ stamp a) rows
  rw [hsort, List.pairwise_cons] at hsorted
  refine ⟨(hmem a).mpr List.mem_cons_self, fun b hb => ?_⟩
  rcases List.mem_cons.mp ((hmem b).mp hb) with rfl | hb
  · exact le_rfl
  · exact hsorted.1 b hb

theorem latest_eq_none : latest stamp rows = none ↔ rows = [] := by
  rw [latest, List.head?_eq_none_iff, ← List.length_eq_zero_iff, List.length_insertionSort,
    List.length_eq_zero_iff]

/-- With distinct stamps the latest row is the newest. -/
theorem latest_eq_some_iff (hstamps : (rows.map stamp).Nodup) :
    latest stamp rows = some a ↔ Newest stamp rows a := by
  refine ⟨newest_latest, fun h => ?_⟩
  cases hlatest : latest stamp rows with
  | none =>
      rw [latest_eq_none] at hlatest
      rw [hlatest] at h
      cases h.1
  | some b => rw [(newest_latest hlatest).unique hstamps h]

end

/-! ### The first rows -/

omit [LinearOrder τ] in
/-- Of the first rows those with `p` are all the rows with `p` and `q` exactly if `q` holds of them
and of no later row with `p`. -/
theorem perm_filter_take_iff (rows : List α) (k : ℕ) (p q : α → Prop) [DecidablePred p]
    [DecidablePred q] :
    ((rows.take k).filter (p ·)).Perm (rows.filter fun a => p a ∧ q a) ↔
      (∀ a ∈ rows.take k, p a → q a) ∧ ∀ a ∈ rows.drop k, p a → ¬ q a := by
  have hsplit : (rows.filter fun a => p a ∧ q a) =
      ((rows.take k).filter fun a => p a ∧ q a) ++ (rows.drop k).filter fun a => p a ∧ q a := by
    rw [← List.filter_append, List.take_append_drop]
  have hlater : ((rows.drop k).filter fun a => p a ∧ q a) = [] ↔
      ∀ a ∈ rows.drop k, p a → ¬ q a := by
    simp [List.filter_eq_nil_iff]
  have hfirst (h : ∀ a ∈ rows.take k, p a → q a) :
      ((rows.take k).filter fun a => p a ∧ q a) = (rows.take k).filter (p ·) := by
    refine List.filter_congr fun a ha => ?_
    rw [decide_eq_decide]
    exact and_iff_left_of_imp (h a ha)
  rw [hsplit]
  constructor
  · intro hperm
    have hq : ∀ a ∈ rows.take k, p a → q a := by
      intro a ha hp
      have hmem := hperm.mem_iff.mp (List.mem_filter.mpr ⟨ha, decide_eq_true hp⟩)
      rw [← List.filter_append] at hmem
      exact (of_decide_eq_true (List.mem_filter.mp hmem).2).2
    refine ⟨hq, hlater.mp ?_⟩
    have hlength := hperm.length_eq
    rw [hfirst hq, List.length_append] at hlength
    exact List.eq_nil_of_length_eq_zero (by omega)
  · rintro ⟨hq, hnot⟩
    rw [hfirst hq, hlater.mpr hnot, List.append_nil]

/-! ### The greatest stamp of each group -/

section
variable {key : α → κ} {stamp : α → τ} {rows : List α} {k : κ} {t : τ} {a : α}

theorem mem_groupMax : (k, t) ∈ groupMax key stamp rows ↔
    ∃ a, Newest stamp (rows.filter (key · = k)) a ∧ stamp a = t := by
  simp only [groupMax, List.mem_filterMap, List.mem_dedup, Option.map_eq_some_iff,
    Prod.mk.injEq, Newest]
  constructor
  · rintro ⟨_, -, _, hmax, rfl, rfl⟩
    obtain ⟨hmem, hle⟩ := List.max?_eq_some_iff.mp hmax
    obtain ⟨a, ha, rfl⟩ := List.mem_map.mp hmem
    exact ⟨a, ⟨ha, fun b hb => hle _ (List.mem_map_of_mem hb)⟩, rfl⟩
  · rintro ⟨a, ⟨ha, hle⟩, rfl⟩
    obtain ⟨hrow, hkey⟩ := List.mem_filter.mp ha
    refine ⟨k, List.mem_map.mpr ⟨a, hrow, of_decide_eq_true hkey⟩, stamp a, ?_, rfl, rfl⟩
    refine List.max?_eq_some_iff.mpr ⟨List.mem_map_of_mem ha, fun s hs => ?_⟩
    obtain ⟨b, hb, rfl⟩ := List.mem_map.mp hs
    exact hle b hb

/-- The join hands over the newest rows of the groups. -/
theorem mem_joined : a ∈ joined key stamp (groupMax key stamp rows) rows ↔
    Newest stamp (rows.filter (key · = key a)) a := by
  rw [joined, List.mem_filter, decide_eq_true_eq, mem_groupMax]
  constructor
  · rintro ⟨ha, b, hb, hstamp⟩
    exact ⟨List.mem_filter.mpr ⟨ha, by simp⟩, hstamp ▸ hb.2⟩
  · exact fun h => ⟨(List.mem_filter.mp h.1).1, a, h, rfl⟩

/-- Joining the whole table is joining the rows that were grouped: a group has the key of one of
them. -/
theorem filter_mem_groupMax (key : α → κ) (stamp : α → τ) (rows : List α) (ids : List κ)
    (p : α → Prop) [DecidablePred p] :
    (rows.filter fun a =>
        (key a, stamp a) ∈ groupMax key stamp (rows.filter fun a => key a ∈ ids ∧ p a) ∧ p a) =
      joined key stamp (groupMax key stamp (rows.filter fun a => key a ∈ ids ∧ p a))
        (rows.filter fun a => key a ∈ ids ∧ p a) := by
  rw [joined, List.filter_filter]
  refine List.filter_congr fun a _ => ?_
  rw [← Bool.decide_and, decide_eq_decide]
  refine and_congr_right fun hgroup => ?_
  obtain ⟨b, hb, -⟩ := mem_groupMax.mp hgroup
  have hkey : key b = key a := by simpa using (List.mem_filter.mp hb.1).2
  have hids : key b ∈ ids := by
    have := (List.mem_filter.mp (List.mem_filter.mp hb.1).1).2
    exact (of_decide_eq_true this).1
  exact ⟨fun h => ⟨hkey ▸ hids, h⟩, fun h => h.2⟩

end

/-! ### The first row of each key -/

section
variable {key : α → κ} {k : κ}

theorem lookup_firstWins (rows : List α) :
    (firstWins key rows).lookup k = rows.find? (key · = k) := by
  have h : ∀ d : List (κ × α),
      (rows.foldl (fun d a => if (d.lookup (key a)).isSome then d else d ++ [(key a, a)]) d).lookup k =
        (d.lookup k).or (rows.find? (key · = k)) := by
    induction rows with
    | nil => exact fun d => by rw [List.foldl_nil, List.find?_nil, Option.or_none]
    | cons a rows ih =>
        intro d
        rw [List.foldl_cons, ih, List.find?_cons]
        by_cases hkey : key a = k
        · -- the row has the key: it stays out if the dict has one
          subst hkey
          cases hd : d.lookup (key a) with
          | none =>
              rw [if_neg (by simp), List.lookup_append, hd, Option.none_or, List.lookup_cons_self,
                decide_eq_true rfl, Option.some_or, Option.none_or]
          | some b =>
              rw [if_pos (by simp), hd, Option.some_or, Option.some_or]
        · rw [decide_eq_false hkey]
          split
          · rfl
          · rw [List.lookup_append, List.lookup_cons, beq_false_of_ne (Ne.symm hkey),
              List.lookup_nil, Option.or_none]
  rw [firstWins, h, List.lookup_nil, Option.none_or]

end

/-! ### Joined and ordered -/

section
variable {key : α → κ} {stamp : α → τ} {rows found : List α}

omit [LinearOrder τ] in
theorem nodup_stamps (hrows : (rows.map fun a => (key a, stamp a)).Nodup) (k : κ) :
    ((rows.filter (key · = k)).map stamp).Nodup := by
  refine List.Nodup.of_map (k, ·) ?_
  have hsub : ((rows.filter (key · = k)).map fun a => (key a, stamp a)).Nodup :=
    hrows.sublist (List.filter_sublist.map _)
  rw [List.map_map]
  refine (List.map_congr_left fun a ha => ?_) ▸ hsub
  have hkey : key a = k := of_decide_eq_true (List.mem_filter.mp ha).2
  rw [hkey, Function.comp_apply]

/-- The first joined row of a key is the newest of its group. -/
theorem find?_joined (hrows : (rows.map fun a => (key a, stamp a)).Nodup)
    (hfound : found.Perm (joined key stamp (groupMax key stamp rows) rows)) (k : κ) :
    found.find? (key · = k) = latest stamp (rows.filter (key · = k)) := by
  cases hfind : found.find? (key · = k) with
  | some a =>
      have hkey : key a = k := by simpa using List.find?_some hfind
      have hnewest := mem_joined.mp (hfound.mem_iff.mp (List.mem_of_find?_eq_some hfind))
      rw [hkey] at hnewest
      exact ((latest_eq_some_iff (nodup_stamps hrows k)).mpr hnewest).symm
  | none =>
      rw [List.find?_eq_none] at hfind
      cases hlatest : latest stamp (rows.filter (key · = k)) with
      | none => rfl
      | some a =>
          -- the newest of the group is among the joined rows
          have hnewest := newest_latest hlatest
          have hkey : key a = k := of_decide_eq_true (List.mem_filter.mp hnewest.1).2
          rw [← hkey] at hnewest
          exact absurd (decide_eq_true hkey)
            (hfind a (hfound.mem_iff.mpr (mem_joined.mpr hnewest)))

/-- **Joined on the greatest stamps or read in order.**  Both give the latest row of a group. -/
theorem lookup_firstWins_joined (hrows : (rows.map fun a => (key a, stamp a)).Nodup)
    (hfound : found.Perm (joined key stamp (groupMax key stamp rows) rows)) (k : κ) :
    (firstWins key found).lookup k = latest stamp (rows.filter (key · = k)) := by
  rw [lookup_firstWins, find?_joined hrows hfound]

end

end RebooterHub.Latest
