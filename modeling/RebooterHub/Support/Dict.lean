import RebooterHub.Support.Rows

/-!
# Support — Dict

Dictionaries as lists of members.

* `mapValues f` changes the values, each by its key.
* `update ms ms'` is `dict.update`: the members of `ms'` written into `ms`.
* `given` keeps the entries that have a value.
-/

namespace RebooterHub.Dict
open RebooterHub.Rows

variable {κ α β γ : Type*}

/-- The values changed by `f`, which sees their keys. -/
def mapValues (f : κ → α → β) (ms : List (κ × α)) : List (κ × β) := ms.map fun m => (m.1, f m.1 m.2)

@[simp] theorem mapValues_nil (f : κ → α → β) : mapValues f [] = [] := rfl

@[simp] theorem mapValues_cons (f : κ → α → β) (m : κ × α) (ms : List (κ × α)) :
    mapValues f (m :: ms) = (m.1, f m.1 m.2) :: mapValues f ms := rfl

theorem mapValues_mapValues (g : κ → β → γ) (f : κ → α → β) (ms : List (κ × α)) :
    mapValues g (mapValues f ms) = mapValues (fun k v => g k (f k v)) ms := by
  simp [mapValues, Function.comp_def]

theorem mapValues_self {f : κ → α → α} (h : ∀ k v, f k v = v) (ms : List (κ × α)) :
    mapValues f ms = ms := by
  induction ms with
  | nil => rfl
  | cons m ms ih => rw [mapValues_cons, h, ih]

theorem mapValues_congr {f g : κ → α → β} {ms : List (κ × α)}
    (h : ∀ m ∈ ms, f m.1 m.2 = g m.1 m.2) :
    mapValues f ms = mapValues g ms :=
  List.map_congr_left fun m hm => by rw [h m hm]

/-- A change that `g` does not see. -/
theorem mapValues_absorb {g : κ → α → β} {f : κ → α → α} (h : ∀ k v, g k (f k v) = g k v)
    (ms : List (κ × α)) : mapValues g (mapValues f ms) = mapValues g ms := by
  rw [mapValues_mapValues]
  exact mapValues_congr fun m _ => h m.1 m.2

variable [DecidableEq κ]

theorem lookup_mapValues (f : κ → α → β) (ms : List (κ × α)) (k : κ) :
    (mapValues f ms).lookup k = (ms.lookup k).map (f k) := by
  induction ms with
  | nil => rfl
  | cons m ms ih =>
      rw [mapValues_cons, List.lookup_cons, List.lookup_cons, ih]
      by_cases hk : k = m.1
      · simp [hk]
      · simp [beq_false_of_ne hk]

/-- What is looked up under a member's key is the member's value. -/
theorem lookup_of_mem {ms : List (κ × α)} {m : κ × α} (hms : Keyed Prod.fst ms) (hm : m ∈ ms) :
    ms.lookup m.1 = some m.2 := by
  induction ms with
  | nil => cases hm
  | cons a ms ih =>
      obtain ⟨hfresh, hkeyed⟩ := List.nodup_cons.mp hms
      rcases List.mem_cons.mp hm with rfl | hm
      · exact List.lookup_cons_self
      · have hne : m.1 ≠ a.1 := fun heq => hfresh (heq ▸ List.mem_map_of_mem hm)
        rw [List.lookup_cons, beq_false_of_ne hne]
        exact ih hkeyed hm

/-- `d[k] = v`. -/
def put (k : κ) (v : α) : List (κ × α) → List (κ × α)
  | [] => [(k, v)]
  | m :: ms => if m.1 = k then (k, v) :: ms else m :: put k v ms

/-- `d.update(d')`. -/
def update (ms ms' : List (κ × α)) : List (κ × α) := ms'.foldl (fun d m => put m.1 m.2 d) ms

/-- Writing a member that is there already changes nothing. -/
theorem put_of_mem {ms : List (κ × α)} {m : κ × α} (hms : Keyed Prod.fst ms) (hm : m ∈ ms) :
    put m.1 m.2 ms = ms := by
  induction ms with
  | nil => cases hm
  | cons a ms ih =>
      obtain ⟨hfresh, hkeyed⟩ := List.nodup_cons.mp hms
      rw [put]
      split
      · next hk =>
          rcases List.mem_cons.mp hm with rfl | hm
          · rfl
          · exact absurd (hk ▸ List.mem_map_of_mem hm) hfresh
      · next hk =>
          rcases List.mem_cons.mp hm with rfl | hm
          · exact absurd rfl hk
          · rw [ih hkeyed hm]

theorem update_of_mem {ms ms' : List (κ × α)} (hms : Keyed Prod.fst ms) (h : ∀ m ∈ ms', m ∈ ms) :
    update ms ms' = ms := by
  induction ms' with
  | nil => rfl
  | cons m ms' ih =>
      rw [update, List.foldl_cons, put_of_mem hms (h m List.mem_cons_self), ← update]
      exact ih fun a ha => h a (List.mem_cons_of_mem m ha)

/-! ### Entries that may be missing -/

/-- The entries that have a value. -/
def given (entries : List (κ × Option α)) : List (κ × α) :=
  entries.filterMap fun e => e.2.map (e.1, ·)

omit [DecidableEq κ] in
theorem given_append (entries entries' : List (κ × Option α)) :
    given (entries ++ entries') = given entries ++ given entries' := List.filterMap_append

theorem lookup_given_of_notMem {entries : List (κ × Option α)} {k : κ}
    (h : k ∉ entries.map Prod.fst) : (given entries).lookup k = none := by
  induction entries with
  | nil => rfl
  | cons e entries ih =>
      rw [List.map_cons, List.mem_cons, not_or] at h
      obtain ⟨name, value⟩ := e
      cases value with
      | none => exact ih h.2
      | some v =>
          change List.lookup k ((name, v) :: given entries) = none
          rw [List.lookup_cons, beq_false_of_ne h.1]
          exact ih h.2

/-- Under the name of an entry stands its value. -/
theorem lookup_given {entries : List (κ × Option α)} {k : κ} {value : Option α}
    (hentries : Keyed Prod.fst entries) (h : (k, value) ∈ entries) :
    (given entries).lookup k = value := by
  induction entries with
  | nil => cases h
  | cons e entries ih =>
      obtain ⟨hfresh, hkeyed⟩ := List.nodup_cons.mp hentries
      obtain ⟨name, v⟩ := e
      rcases List.mem_cons.mp h with heq | hmem
      · obtain ⟨rfl, rfl⟩ := Prod.mk.inj heq
        cases value with
        | none =>
            change (given entries).lookup k = none
            exact lookup_given_of_notMem hfresh
        | some v => exact List.lookup_cons_self
      · have hne : k ≠ name := by
          rintro rfl
          have hname := List.mem_map_of_mem (f := Prod.fst) hmem
          exact hfresh hname
        cases v with
        | none =>
            change (given entries).lookup k = value
            exact ih hkeyed hmem
        | some v =>
            change List.lookup k ((name, v) :: given entries) = value
            rw [List.lookup_cons, beq_false_of_ne hne]
            exact ih hkeyed hmem

end RebooterHub.Dict
