import Mathlib.Data.Option.Basic
import Mathlib.Order.Lattice

/-!
# Support — Last writer

A last-writer-wins register: an optional record, and writes of stamped records of which one that
is not newer than the record held is dropped.

`Covers` says that a write would be dropped; it is what a write brings about and every later
write keeps.  From it follow the order and repetition of the writes: `foldl_write_eq` reads the
register after any sequence of writes off their set.
-/

namespace RebooterHub.LastWriter

variable {R S : Type*} [LinearOrder S] {stamp : R → S} {cur : Option R} {r r' : R}

/-- A record is written: it replaces an older one. -/
def write (stamp : R → S) (cur : Option R) (r : R) : Option R :=
  match cur with
  | none => some r
  | some c => if stamp r ≤ stamp c then some c else some r

/-- The register holds a record at least as new. -/
def Covers (stamp : R → S) (cur : Option R) (r : R) : Prop :=
  ∃ c, cur = some c ∧ stamp r ≤ stamp c

theorem write_of_covers (h : Covers stamp cur r) : write stamp cur r = cur := by
  obtain ⟨c, rfl, hle⟩ := h
  exact if_pos hle

theorem write_of_not_covers (h : ¬ Covers stamp cur r) : write stamp cur r = some r := by
  cases cur with
  | none => rfl
  | some c => exact if_neg fun hle => h ⟨c, rfl, hle⟩

/-- A write can be seen through a change of records that keeps the stamp. -/
theorem map_write {f : R → R} (hf : ∀ r, stamp (f r) = stamp r) (cur : Option R) (r : R) :
    (write stamp cur r).map f = write stamp (cur.map f) (f r) := by
  cases cur with
  | none => rfl
  | some c =>
    simp only [write, Option.map_some, hf]
    split <;> rfl

/-- A write covers its record. -/
theorem covers_write_self (cur : Option R) (r : R) : Covers stamp (write stamp cur r) r := by
  by_cases h : Covers stamp cur r
  · rwa [write_of_covers h]
  · exact ⟨r, write_of_not_covers h, le_rfl⟩

/-- What is covered stays covered. -/
theorem Covers.write (h : Covers stamp cur r) (r' : R) :
    Covers stamp (LastWriter.write stamp cur r') r := by
  by_cases h' : Covers stamp cur r'
  · rwa [write_of_covers h']
  · obtain ⟨c, rfl, hle⟩ := h
    have hlt : stamp c < stamp r' := lt_of_not_ge fun hle' => h' ⟨c, rfl, hle'⟩
    exact ⟨r', write_of_not_covers h', hle.trans hlt.le⟩

/-- Two writes with different stamps commute. -/
theorem write_comm (hne : stamp r ≠ stamp r') :
    write stamp (write stamp cur r) r' = write stamp (write stamp cur r') r := by
  rcases lt_or_gt_of_ne hne with hlt | hlt
  · rw [write_of_covers ((covers_write_self cur r').imp fun c hc => ⟨hc.1, hlt.le.trans hc.2⟩)]
    by_cases h : Covers stamp cur r
    · rw [write_of_covers h]
    · rw [write_of_not_covers h]
      by_cases h' : Covers stamp cur r'
      · exact absurd (h'.imp fun c hc => ⟨hc.1, hlt.le.trans hc.2⟩) h
      · rw [write_of_not_covers h']
        exact if_neg (not_le_of_gt hlt)
  · rw [write_of_covers (r := r') ((covers_write_self cur r).imp fun c hc =>
      ⟨hc.1, hlt.le.trans hc.2⟩)]
    by_cases h' : Covers stamp cur r'
    · rw [write_of_covers h']
    · rw [write_of_not_covers h']
      by_cases h : Covers stamp cur r
      · exact absurd (h.imp fun c hc => ⟨hc.1, hlt.le.trans hc.2⟩) h'
      · rw [write_of_not_covers h]
        exact (if_neg (not_le_of_gt hlt)).symm

theorem covers_foldl (h : Covers stamp cur r) (rs : List R) :
    Covers stamp (rs.foldl (write stamp) cur) r := by
  induction rs generalizing cur with
  | nil => exact h
  | cons r' rs ih => exact ih (h.write r')

/-- Every record written is covered in the end. -/
theorem covers_foldl_of_mem {rs : List R} (h : r ∈ rs) :
    Covers stamp (rs.foldl (write stamp) cur) r := by
  induction rs generalizing cur with
  | nil => cases h
  | cons r' rs ih =>
    rcases List.mem_cons.1 h with rfl | h
    · exact covers_foldl (covers_write_self cur r) rs
    · exact ih h

/-- The register holds what it held, or one of the records written. -/
theorem foldl_write_mem (stamp : R → S) (cur : Option R) (rs : List R) :
    rs.foldl (write stamp) cur = cur ∨ ∃ r ∈ rs, rs.foldl (write stamp) cur = some r := by
  induction rs generalizing cur with
  | nil => exact .inl rfl
  | cons r rs ih =>
    rw [List.foldl_cons]
    rcases ih (write stamp cur r) with h | ⟨r', hr', h⟩
    · rw [h]
      by_cases hc : Covers stamp cur r
      · exact .inl (write_of_covers hc)
      · exact .inr ⟨r, List.mem_cons_self, write_of_not_covers hc⟩
    · exact .inr ⟨r', List.mem_cons_of_mem r hr', h⟩

/-- **Order and repetition do not matter.**  After writes of records with stamps of their own the
register holds the newest of them, unless it held one at least as new before. -/
theorem foldl_write_eq {rs : List R} (hinj : ∀ r ∈ rs, ∀ r' ∈ rs, stamp r = stamp r' → r = r')
    (hr : r ∈ rs) (hmax : ∀ r' ∈ rs, stamp r' ≤ stamp r) :
    rs.foldl (write stamp) cur = write stamp cur r := by
  obtain ⟨c, hc, hle⟩ : Covers stamp (rs.foldl (write stamp) cur) r := covers_foldl_of_mem hr
  rcases foldl_write_mem stamp cur rs with h | ⟨r', hr', h⟩
  · rw [h] at hc ⊢
    exact (write_of_covers ⟨c, hc, hle⟩).symm
  · obtain rfl : r' = c := Option.some.inj (h.symm.trans hc)
    obtain rfl : r' = r := hinj r' hr' r hr (le_antisymm (hmax r' hr') hle)
    rw [h]
    by_cases hcov : Covers stamp cur r'
    · -- then the register never changed
      rw [write_of_covers hcov, ← h]
      have hcovers : ∀ r'' ∈ rs, Covers stamp cur r'' := fun r'' hr'' =>
        hcov.imp fun c hc => ⟨hc.1, (hmax r'' hr'').trans hc.2⟩
      clear h hc hr hr' hmax hinj
      induction rs with
      | nil => rfl
      | cons r'' rs ih =>
        rw [List.foldl_cons, write_of_covers (hcovers r'' List.mem_cons_self)]
        exact ih fun r hr => hcovers r (List.mem_cons_of_mem r'' hr)
    · exact (write_of_not_covers hcov).symm

end RebooterHub.LastWriter
