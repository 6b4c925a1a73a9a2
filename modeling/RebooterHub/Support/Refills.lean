import RebooterHub.Support.Rows

/-!
# Support — Refills

A store under a unique key that is refilled from time to time: some of its rows are dropped, and a
batch is inserted.

* `firsts` are the rows of a batch that are the first under their key.
* `Store.insertAll` fails when a key would be there twice.
* `refill_again`: a refill that drops what an earlier one inserted gives what it gives without
  the earlier one.
* `dropped_of_refill`: a refill with the same keys has to drop what the earlier one inserted.
-/

namespace RebooterHub.Refills
open RebooterHub.Rows

variable {ρ κ : Type*} {key : ρ → κ}

/-! ### The first row of each key -/

section
variable [DecidableEq κ] {seen : List κ} {rows : List ρ} {r : ρ}

/-- The rows that are the first under their key; `seen` are keys that came before. -/
def firsts (key : ρ → κ) : List κ → List ρ → List ρ
  | _, [] => []
  | seen, r :: rs =>
    if key r ∈ seen then firsts key seen rs else r :: firsts key (key r :: seen) rs

theorem mem_firsts :
    r ∈ firsts key seen rows ↔ key r ∉ seen ∧ rows.find? (key · = key r) = some r := by
  induction rows generalizing seen with
  | nil => simp [firsts]
  | cons a rows ih =>
      by_cases hkey : key a = key r
      · rw [List.find?_cons_of_pos (by simpa using hkey), Option.some.injEq, firsts, hkey]
        split
        · next hseen => simp [ih, hseen]
        · next hseen => simp [ih, hseen, eq_comm]
      · have hne : r ≠ a := by
          rintro rfl
          exact hkey rfl
        rw [List.find?_cons_of_neg (by simpa using hkey), firsts]
        split
        · rw [ih]
        · rw [List.mem_cons, ih, List.mem_cons, or_iff_right hne, or_iff_right (Ne.symm hkey)]

/-- Each of them has its own key. -/
theorem keyed_firsts : Keyed key (firsts key seen rows) := by
  induction rows generalizing seen with
  | nil => exact List.nodup_nil
  | cons a rows ih =>
      rw [firsts]
      split
      · exact ih
      · refine List.nodup_cons.mpr ⟨fun hmem => ?_, ih⟩
        obtain ⟨r, hr, hkey⟩ := List.mem_map.mp hmem
        exact (mem_firsts.mp hr).1 (hkey ▸ List.mem_cons_self)

/-- Every key of the batch has its first row. -/
theorem exists_firsts (hr : r ∈ rows) : ∃ a ∈ firsts key [] rows, key a = key r := by
  cases hfind : rows.find? (key · = key r) with
  | none => exact absurd (List.mem_map_of_mem hr) (find?_eq_none_iff.mp hfind)
  | some a =>
      obtain ⟨-, hkey⟩ := find?_key hfind
      exact ⟨a, mem_firsts.mpr ⟨List.not_mem_nil, hkey ▸ hfind⟩, hkey⟩

end

/-! ### Stores -/

/-- Rows of which no two have the same key. -/
@[ext]
structure Store (key : ρ → κ) where
  rows : List ρ
  keyed : Keyed key rows

namespace Store

variable {s s₁ s₂ t : Store key} {batch batch' : List ρ} {keep keep' : ρ → Bool}

/-- The rows that are kept. -/
def filter (keep : ρ → Bool) (s : Store key) : Store key :=
  ⟨s.rows.filter keep, s.keyed.filter keep⟩

@[simp] theorem rows_filter : (s.filter keep).rows = s.rows.filter keep := rfl

theorem filter_filter :
    (s.filter keep).filter keep' = s.filter fun r => keep r && keep' r := by
  ext1
  simp only [rows_filter, List.filter_filter, Bool.and_comm]

variable [DecidableEq κ]

/-- Rows are inserted, unless a key would be there twice. -/
def insertAll (s : Store key) (batch : List ρ) : Option (Store key) :=
  if h : ((s.rows ++ batch).map key).Nodup then some ⟨s.rows ++ batch, h⟩ else none

theorem insertAll_eq_some : s.insertAll batch = some t ↔ t.rows = s.rows ++ batch := by
  rw [insertAll]
  split
  · next h =>
      rw [Option.some.injEq, Store.ext_iff]
      exact eq_comm
  · next h => exact iff_of_false nofun fun heq => h (heq ▸ t.keyed)

/-- Rows of different keys can be inserted if none of the keys is there. -/
theorem exists_insertAll (hbatch : Keyed key batch) :
    (∃ t, s.insertAll batch = some t) ↔ ∀ r ∈ batch, ∀ a ∈ s.rows, key a ≠ key r := by
  rw [insertAll]
  have happend : ((s.rows ++ batch).map key).Nodup ↔
      ∀ r ∈ batch, ∀ a ∈ s.rows, key a ≠ key r := by
    have hrows : (s.rows.map key).Nodup := s.keyed
    have hnew : (batch.map key).Nodup := hbatch
    rw [List.map_append, List.nodup_append, and_iff_right hrows, and_iff_right hnew]
    simp only [List.mem_map, forall_exists_index, and_imp, forall_apply_eq_imp_iff₂]
    exact ⟨fun h r hr a ha => h a ha r hr, fun h a ha r hr => h r hr a ha⟩
  rw [← happend]
  split
  · next h => exact iff_of_true ⟨_, rfl⟩ h
  · next h => exact iff_of_false nofun h

/-- A refill: the rows that are not kept are dropped, and the batch is inserted. -/
def refill (keep : ρ → Bool) (batch : List ρ) (s : Store key) : Option (Store key) :=
  (s.filter keep).insertAll batch

theorem refill_eq_some :
    s.refill keep batch = some t ↔ t.rows = s.rows.filter keep ++ batch := insertAll_eq_some

theorem exists_refill (hbatch : Keyed key batch) : (∃ t, s.refill keep batch = some t) ↔
    ∀ r ∈ batch, ∀ a ∈ s.rows, keep a = true → key a ≠ key r := by
  rw [refill, exists_insertAll hbatch]
  simp only [rows_filter, List.mem_filter, and_imp]

/-- **A refill again.**  The second keeps fewer of the rows there were, and none of the batch. -/
theorem refill_again (hkeep : ∀ r, keep' r = true → keep r = true)
    (hdrop : ∀ r ∈ batch, keep' r = false) (h : s.refill keep batch = some s₁) :
    s₁.refill keep' batch' = s.refill keep' batch' := by
  have hbatch : batch.filter keep' = [] :=
    List.filter_eq_nil_iff.mpr fun r hr => by simp [hdrop r hr]
  have hrows : s₁.filter keep' = s.filter keep' := by
    ext1
    rw [rows_filter, rows_filter, refill_eq_some.mp h, List.filter_append, hbatch, List.append_nil,
      List.filter_filter]
    refine List.filter_congr fun r _ => ?_
    cases hr : keep' r with
    | false => rfl
    | true => rw [hkeep r hr, Bool.and_self]
  rw [refill, hrows, refill]

/-- A row that the second refill keeps stands in the way of the one under its key. -/
theorem dropped_of_refill (hkeys : ∀ r ∈ batch, ∃ a ∈ batch', key a = key r)
    (h : s.refill keep batch = some s₁) (h' : s₁.refill keep' batch' = some s₂) :
    ∀ r ∈ batch, keep' r = false := by
  intro r hr
  by_contra hkept
  obtain ⟨a, ha, hkey⟩ := hkeys r hr
  have hmem : r ∈ s₁.rows.filter keep' := by
    rw [List.mem_filter, refill_eq_some.mp h]
    exact ⟨List.mem_append_right _ hr, by simpa using hkept⟩
  have hnodup : ((s₁.rows.filter keep' ++ batch').map key).Nodup :=
    refill_eq_some.mp h' ▸ s₂.keyed
  rw [List.map_append] at hnodup
  exact (List.disjoint_of_nodup_append hnodup) (List.mem_map_of_mem hmem)
    (hkey ▸ List.mem_map_of_mem ha)

end Store

end RebooterHub.Refills
