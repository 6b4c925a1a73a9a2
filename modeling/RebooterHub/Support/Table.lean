import Mathlib.Data.List.Nodup
import Mathlib.Logic.Function.Basic

/-!
# Support — Table

A table with a primary key: a finite map that can be looked up and run through.

`find` is the map and `keys` its domain, in the order of insertion; the structure carries that
they fit.  `insert`, `erase` and `map` are described by what `find` gives afterwards.
-/

namespace RebooterHub

universe u v

/-- A table of rows `V` under primary keys `K`. -/
structure Table (K : Type u) (V : Type v) where
  keys : List K
  find : K → Option V
  nodup : keys.Nodup
  mem_keys : ∀ k, k ∈ keys ↔ (find k).isSome = true

namespace Table

variable {K : Type u} {V : Type v} {t : Table K V} {k k' : K} {v : V}

/-- The table without rows. -/
def empty : Table K V := ⟨[], fun _ => none, List.nodup_nil, fun _ => by simp⟩

/-- The rows with their keys. -/
def entries (t : Table K V) : List (K × V) :=
  t.keys.filterMap fun k => (t.find k).map fun v => (k, v)

theorem mem_entries : (k, v) ∈ t.entries ↔ t.find k = some v := by
  unfold entries
  rw [List.mem_filterMap]
  constructor
  · rintro ⟨k', -, h⟩
    obtain ⟨v', hv', heq⟩ := Option.map_eq_some_iff.1 h
    cases heq
    exact hv'
  · intro h
    exact ⟨k, (t.mem_keys k).2 (by rw [h]; rfl), by rw [h]; rfl⟩

/-- Every row is changed in the same way. -/
def map (t : Table K V) (f : V → V) : Table K V where
  keys := t.keys
  find k := (t.find k).map f
  nodup := t.nodup
  mem_keys k := by rw [t.mem_keys, Option.isSome_map]

@[simp] theorem find_map (f : V → V) : (t.map f).find k = (t.find k).map f := rfl

variable [DecidableEq K]

/-- A row is inserted, or takes the place of the one under its key. -/
def insert (t : Table K V) (k : K) (v : V) : Table K V where
  keys := if k ∈ t.keys then t.keys else t.keys ++ [k]
  find := Function.update t.find k (some v)
  nodup := by
    split
    · exact t.nodup
    · case _ hk =>
      refine t.nodup.append (List.nodup_singleton k) ?_
      rintro _ hk' hmem
      exact hk (List.mem_singleton.1 hmem ▸ hk')
  mem_keys k' := by
    by_cases hk : k' = k
    · subst hk
      rw [Function.update_self]
      split <;> simp [*]
    · rw [Function.update_of_ne hk, ← t.mem_keys]
      split <;> simp [hk]

@[simp] theorem find_insert_self : (t.insert k v).find k = some v := Function.update_self ..

theorem find_insert_of_ne (hk : k' ≠ k) : (t.insert k v).find k' = t.find k' :=
  Function.update_of_ne hk ..

/-- A row is deleted. -/
def erase (t : Table K V) (k : K) : Table K V where
  keys := t.keys.filter (· ≠ k)
  find := Function.update t.find k none
  nodup := t.nodup.filter _
  mem_keys k' := by
    rw [List.mem_filter, t.mem_keys]
    by_cases hk : k' = k
    · subst hk
      simp
    · simp [hk, Function.update_of_ne]

@[simp] theorem find_erase_self : (t.erase k).find k = none := Function.update_self ..

theorem find_erase_of_ne (hk : k' ≠ k) : (t.erase k).find k' = t.find k' :=
  Function.update_of_ne hk ..

end Table

end RebooterHub
