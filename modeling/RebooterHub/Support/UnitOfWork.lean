import RebooterHub.Support.Rows

/-!
# Support — Unit of work

What flushing the pending changes of a session does to the rows of a database: the new rows are
inserted, the changed ones written, the deleted ones removed, and the foreign keys of the others
act on the removal.

* `fate` is what becomes of one stored row.
* `mem_rows_iff`: a stored row is among the flushed rows exactly when its fate is to stay as it is.
* `updated_eq_self_iff` and `fate_eq_some_iff`: what that asks of the changes and the deletions.
-/

namespace RebooterHub.UnitOfWork
open RebooterHub.Rows

variable {ρ κ : Type*} [DecidableEq ρ]

/-- A loaded row: as stored and as it is in the session. -/
structure Change (ρ : Type*) where
  stored : ρ
  current : ρ
deriving DecidableEq, Repr

/-- The content of a session. -/
structure Pending (ρ : Type*) where
  new : List ρ
  dirty : List (Change ρ)
  deleted : List ρ
deriving DecidableEq, Repr

/-- `session.is_modified(obj)`. -/
def Change.isModified (c : Change ρ) : Bool := c.current ≠ c.stored

/-- A stored row with what the session writes to it. -/
def Pending.updated (p : Pending ρ) (r : ρ) : ρ :=
  ((p.dirty.find? (·.stored = r)).map (·.current)).getD r

/-- What becomes of a stored row; `onDelete deleted` is what its foreign keys do. -/
def Pending.fate (onDelete : List ρ → ρ → Option ρ) (p : Pending ρ) (r : ρ) : Option ρ :=
  if r ∈ p.deleted then none else onDelete p.deleted (p.updated r)

/-- The rows after the flush. -/
def Pending.rows (onDelete : List ρ → ρ → Option ρ) (p : Pending ρ) (table : List ρ) : List ρ :=
  table.filterMap (p.fate onDelete) ++ p.new

/-- A session's content, of a table with a primary key. -/
structure Consistent (key : ρ → κ) (table : List ρ) (p : Pending ρ) : Prop where
  keyed : Keyed key table
  /-- A row is loaded once. -/
  once : (p.dirty.map (·.stored)).Nodup
  /-- A change keeps the key. -/
  key_eq : ∀ c ∈ p.dirty, key c.current = key c.stored

section
variable {key : ρ → κ} {onDelete : List ρ → ρ → Option ρ} {table : List ρ} {p : Pending ρ} {r : ρ}

theorem updated_of_mem (h : Consistent key table p) {c : Change ρ} (hc : c ∈ p.dirty) :
    p.updated c.stored = c.current := by
  have hsome : (p.dirty.find? (·.stored = c.stored)).isSome :=
    List.find?_isSome.mpr ⟨c, hc, by simp⟩
  obtain ⟨c', hfind⟩ := Option.isSome_iff_exists.mp hsome
  have hstored : c'.stored = c.stored := by simpa using List.find?_some hfind
  have hsame : c' = c := List.inj_on_of_nodup_map h.once (List.mem_of_find?_eq_some hfind) hc hstored
  rw [Pending.updated, hfind, hsame]
  rfl

/-- A row is written by one of its changes, or not at all. -/
theorem updated_cases (p : Pending ρ) (r : ρ) :
    p.updated r = r ∨ ∃ c ∈ p.dirty, c.stored = r ∧ p.updated r = c.current := by
  rw [Pending.updated]
  cases hfind : p.dirty.find? (·.stored = r) with
  | none => exact .inl rfl
  | some c =>
      exact .inr ⟨c, List.mem_of_find?_eq_some hfind, by simpa using List.find?_some hfind, rfl⟩

/-- A row stays as it is when each of its changes leaves it so. -/
theorem updated_eq_self_iff (h : Consistent key table p) :
    p.updated r = r ↔ ∀ c ∈ p.dirty, c.stored = r → c.isModified = false := by
  constructor
  · rintro hr c hc rfl
    rw [updated_of_mem h hc] at hr
    simp [Change.isModified, hr]
  · intro hall
    rcases updated_cases p r with hr | ⟨c, hc, hstored, hr⟩
    · exact hr
    · have hsame : c.current = c.stored := by simpa [Change.isModified] using hall c hc hstored
      rw [hr, hsame, hstored]

theorem updated_key (h : Consistent key table p) : key (p.updated r) = key r := by
  rcases updated_cases p r with hr | ⟨c, hc, rfl, hr⟩
  · rw [hr]
  · rw [hr, h.key_eq c hc]

/-- **A row after a flush.**  A stored row is still there when its fate is to stay as it is. -/
theorem mem_rows_iff (h : Consistent key table p)
    (honDelete : ∀ deleted r r', onDelete deleted r = some r' → key r' = key r)
    (hr : r ∈ table) (hnew : r ∉ p.new) :
    r ∈ p.rows onDelete table ↔ p.fate onDelete r = some r := by
  rw [Pending.rows, List.mem_append, or_iff_left hnew, List.mem_filterMap]
  constructor
  · rintro ⟨r', hr', hfate⟩
    -- the row it comes from has its key, so is the same row
    have hkey : key r = key r' := by
      rw [Pending.fate] at hfate
      split at hfate
      · cases hfate
      · rw [honDelete _ _ _ hfate, updated_key h]
    rwa [h.keyed.eq hr' hr hkey.symm] at hfate
  · intro hfate
    exact ⟨r, hr, hfate⟩

theorem fate_eq_some_iff {r' : ρ} : p.fate onDelete r = some r' ↔
    r ∉ p.deleted ∧ onDelete p.deleted (p.updated r) = some r' := by
  rw [Pending.fate]
  split
  · next hdeleted => exact iff_of_false (by simp) fun h => h.1 hdeleted
  · next hdeleted => exact (and_iff_right hdeleted).symm

end

end RebooterHub.UnitOfWork
