import RebooterHub.Support.Logged
import RebooterHub.Support.Rows

/-!
# Support — Natural keys

Records written into a table under a natural key: a record goes to the last row of its name, and
makes a new row when there was none when the import began.

* `firsts` are the records that have a name, the first of each.
* `Importer.write` writes one record; `write_created_iff` and `write_updated_iff` say when.
* `Importer.exists_returns_iff`: when a loop of writes does as planned.
* `Importer.exists_returns_new` and `Importer.returns_own`: what it makes of a table when each
  record goes to a new row, and when each goes to a row of its own.
* `Importer.Lawful`: what a loop leaves the names and the ids to be.
-/

namespace RebooterHub.NaturalKey
open RebooterHub.Logged RebooterHub.Rows RebooterHub.Fallible

variable {R ρ κ ι : Type*} [DecidableEq κ]

/-! ### The first of each name -/

section
variable {name : R → κ} {blank : κ} {seen : List κ} {rs : List R}

/-- The records that have a name, the first of each; `seen` are names that came before. -/
def firsts (name : R → κ) (blank : κ) : List κ → List R → List R
  | _, [] => []
  | seen, r :: rs =>
    if name r = blank ∨ name r ∈ seen then firsts name blank seen rs
    else r :: firsts name blank (name r :: seen) rs

/-- Records of different names are all there. -/
theorem firsts_eq_self (hblank : ∀ r ∈ rs, name r ≠ blank) (hseen : ∀ r ∈ rs, name r ∉ seen)
    (h : (rs.map name).Nodup) : firsts name blank seen rs = rs := by
  induction rs generalizing seen with
  | nil => rfl
  | cons r rs ih =>
      rw [List.map_cons, List.nodup_cons] at h
      rw [firsts, if_neg (not_or.mpr ⟨hblank r List.mem_cons_self, hseen r List.mem_cons_self⟩)]
      refine congrArg (r :: ·) (ih (fun a ha => hblank a (List.mem_cons_of_mem r ha)) ?_ h.2)
      intro a ha hmem
      rcases List.mem_cons.mp hmem with heq | hmem
      · exact h.1 (heq ▸ List.mem_map_of_mem ha)
      · exact hseen a (List.mem_cons_of_mem r ha) hmem

end

/-! ### Importers -/

/-- What became of a record. -/
inductive Deed where
  | created
  | updated
  | skipped
deriving DecidableEq, Repr

universe u v w x y

/-- How records are written into a table. -/
structure Importer (R : Type u) (ρ : Type v) (ε : Type w) (κ : Type x) (ι : Type y) where
  key : R → κ
  nameOf : ρ → κ
  idOf : ρ → ι
  /-- The new row of a record; it may depend on the rows there are. -/
  create : List ρ → R → Except ε ρ
  /-- What a record changes of its row. -/
  update : R → Except ε (ρ → ρ)

namespace Importer

section
variable {R : Type u} {ρ : Type v} {ε : Type w} {κ : Type x} {ι : Type y}
  (m : Importer R ρ ε κ ι) {existing rows : List ρ} {r : R} {k : κ} {row : ρ}
  {rs : List R}

/-- The id and the name of a row. -/
def tag (row : ρ) : ι × κ := (m.idOf row, m.nameOf row)

theorem map_tag_id : (rows.map m.tag).map Prod.fst = rows.map m.idOf := by
  rw [List.map_map]
  rfl

variable [DecidableEq κ]

/-- The row of a name; of several the last. -/
def find (existing : List ρ) (k : κ) : Option ρ := existing.reverse.find? (m.nameOf · = k)

theorem find_eq_none : m.find existing k = none ↔ k ∉ existing.map m.nameOf := by
  rw [find, find?_eq_none_iff, List.map_reverse, List.mem_reverse]

theorem find_spec (h : m.find existing k = some row) : row ∈ existing ∧ m.nameOf row = k := by
  obtain ⟨hmem, hname⟩ := find?_key h
  exact ⟨List.mem_reverse.mp hmem, hname⟩

/-- The one row of a name is found. -/
theorem find_of_unique (hrow : row ∈ existing)
    (huniq : ∀ row' ∈ existing, m.nameOf row' = m.nameOf row → row' = row) :
    m.find existing (m.nameOf row) = some row := by
  cases hfind : m.find existing (m.nameOf row) with
  | none => exact absurd (List.mem_map_of_mem hrow) (m.find_eq_none.mp hfind)
  | some row' =>
      obtain ⟨hmem, hname⟩ := m.find_spec hfind
      rw [huniq row' hmem hname]

/-! #### Ids and names -/

/-- The records whose names are new. -/
def newcomers (existing : List ρ) (rs : List R) : List R :=
  rs.filter (m.key · ∉ existing.map m.nameOf)

theorem newcomers_append : m.newcomers existing (rs ++ [r]) = m.newcomers existing rs ++
    if m.key r ∈ existing.map m.nameOf then [] else [r] := by
  rw [newcomers, List.filter_append, ← newcomers]
  by_cases hkey : m.key r ∈ existing.map m.nameOf
  · rw [if_pos hkey, List.filter_cons_of_neg (by simpa using hkey), List.filter_nil]
  · rw [if_neg hkey, List.filter_cons_of_pos (by simpa using hkey), List.filter_nil]

/-- The ids and the names of the new rows. -/
def newTags (newId : Nat → ι) (existing : List ρ) (rs : List R) : List (ι × κ) :=
  (m.newcomers existing rs).mapIdx fun i r => (newId (existing.length + i), m.key r)

theorem map_newTags_id {newId : Nat → ι} : (m.newTags newId existing rs).map Prod.fst =
    (List.range (m.newcomers existing rs).length).map fun i => newId (existing.length + i) :=
  List.ext_getElem (by simp [newTags]) (by simp [newTags])

theorem map_newTags_name {newId : Nat → ι} :
    (m.newTags newId existing rs).map Prod.snd = (m.newcomers existing rs).map m.key :=
  List.ext_getElem (by simp [newTags]) (by simp [newTags])

theorem find_tag :
    (m.find rows k).map m.tag = (rows.map m.tag).reverse.find? (·.2 = k) := by
  rw [find, ← List.map_reverse, List.find?_map]
  rfl

variable [DecidableEq ι]

/-! #### Writing -/

/-- One record written; `existing` are the rows the import began with. -/
def write (existing rows : List ρ) (r : R) : Except ε (List ρ × Deed) :=
  match m.find existing (m.key r) with
  | none => do return (rows ++ [← m.create rows r], .created)
  | some found => do return (amend m.idOf (m.idOf found) (← m.update r) rows, .updated)

theorem write_created_iff {t : List ρ} : m.write existing rows r = .ok (t, .created) ↔
    m.key r ∉ existing.map m.nameOf ∧ ∃ row, m.create rows r = .ok row ∧ t = rows ++ [row] := by
  rw [← m.find_eq_none, write]
  split
  · next hfind =>
      rw [hfind]
      constructor
      · intro h
        obtain ⟨row, hrow, h⟩ := bind_eq_ok h
        exact ⟨rfl, row, hrow, (Prod.mk.inj (Except.ok.inj h)).1.symm⟩
      · rintro ⟨-, row, hrow, rfl⟩
        rw [hrow]
        rfl
  · next found hfind =>
      rw [hfind]
      constructor
      · intro h
        obtain ⟨g, -, h⟩ := bind_eq_ok h
        exact nomatch (Prod.mk.inj (Except.ok.inj h)).2
      · rintro ⟨h, -⟩
        cases h

theorem write_updated_iff {t : List ρ} : m.write existing rows r = .ok (t, .updated) ↔
    ∃ found g, m.find existing (m.key r) = some found ∧ m.update r = .ok g ∧
      t = amend m.idOf (m.idOf found) g rows := by
  rw [write]
  split
  · next hfind =>
      rw [hfind]
      constructor
      · intro h
        obtain ⟨row, -, h⟩ := bind_eq_ok h
        cases (Prod.mk.inj (Except.ok.inj h)).2
      · rintro ⟨found, g, h, -⟩
        cases h
  · next found hfind =>
      constructor
      · intro h
        obtain ⟨g, hg, h⟩ := bind_eq_ok h
        exact ⟨found, g, hfind, hg, (Prod.mk.inj (Except.ok.inj h)).1.symm⟩
      · rintro ⟨found', g, hfind', hg, rfl⟩
        obtain rfl := Option.some.inj (hfind.symm.trans hfind')
        rw [hg]
        rfl

theorem write_cases {t : List ρ} {d : Deed} (hw : m.write existing rows r = .ok (t, d)) :
    (m.key r ∉ existing.map m.nameOf ∧
        ∃ row, m.create rows r = .ok row ∧ t = rows ++ [row] ∧ d = .created) ∨
      (m.key r ∈ existing.map m.nameOf ∧ ∃ found g, m.update r = .ok g ∧
        t = amend m.idOf (m.idOf found) g rows ∧ d = .updated) := by
  cases d with
  | created =>
      obtain ⟨hnew, row, hrow, rfl⟩ := m.write_created_iff.mp hw
      exact .inl ⟨hnew, row, hrow, rfl, rfl⟩
  | updated =>
      obtain ⟨found, g, hfind, hg, rfl⟩ := m.write_updated_iff.mp hw
      obtain ⟨hmem, hname⟩ := m.find_spec hfind
      exact .inr ⟨hname ▸ List.mem_map_of_mem hmem, found, g, hg, rfl, rfl⟩
  | skipped =>
      rw [write] at hw
      split at hw
      · obtain ⟨row, -, hw⟩ := bind_eq_ok hw
        cases (Prod.mk.inj (Except.ok.inj hw)).2
      · obtain ⟨g, -, hw⟩ := bind_eq_ok hw
        cases (Prod.mk.inj (Except.ok.inj hw)).2

/-- Whether a record is written as planned: `known` says that it was planned to update a row. -/
theorem write_asPlanned_iff {known : Prop} [Decidable known] :
    (∃ t, m.write existing rows r = .ok (t, if known then .updated else .created)) ↔
      (m.key r ∈ existing.map m.nameOf ↔ known) ∧
        if m.key r ∈ existing.map m.nameOf then ∃ g, m.update r = .ok g
        else ∃ row, m.create rows r = .ok row := by
  by_cases hknown : known
  · simp only [if_pos hknown, write_updated_iff, iff_true_right hknown]
    constructor
    · rintro ⟨t, found, g, hfind, hg, -⟩
      obtain ⟨hmem, hname⟩ := m.find_spec hfind
      have hkey : m.key r ∈ existing.map m.nameOf := hname ▸ List.mem_map_of_mem hmem
      exact ⟨hkey, by rw [if_pos hkey]; exact ⟨g, hg⟩⟩
    · rintro ⟨hkey, hupdate⟩
      rw [if_pos hkey] at hupdate
      obtain ⟨g, hg⟩ := hupdate
      cases hfind : m.find existing (m.key r) with
      | none => exact absurd hkey (m.find_eq_none.mp hfind)
      | some found => exact ⟨_, found, g, rfl, hg, rfl⟩
  · simp only [if_neg hknown, write_created_iff, iff_false_right hknown]
    constructor
    · rintro ⟨t, hkey, row, hrow, -⟩
      exact ⟨hkey, by rw [if_neg hkey]; exact ⟨row, hrow⟩⟩
    · rintro ⟨hkey, hcreate⟩
      rw [if_neg hkey] at hcreate
      obtain ⟨row, hrow⟩ := hcreate
      exact ⟨_, hkey, row, hrow, rfl⟩

/-! #### What a loop returns with -/

section
variable {known : R → Prop} [DecidablePred known] {creates updates : R → Prop}

/-- Whether a loop does as planned, when the new rows do not depend on those there are. -/
theorem exists_returns_iff (hcreate : ∀ rows r, (∃ row, m.create rows r = .ok row) ↔ creates r)
    (hupdate : ∀ r, (∃ g, m.update r = .ok g) ↔ updates r) :
    (∃ t, Returns (m.write existing) rows rs (fun r => if known r then .updated else .created) t) ↔
      ∀ r ∈ rs, (m.key r ∈ existing.map m.nameOf ↔ known r) ∧
        if m.key r ∈ existing.map m.nameOf then updates r else creates r :=
  returns_iff_forall fun rows r _ => by rw [write_asPlanned_iff, hcreate, hupdate]

end

/-- Rows are named after their records, and changing a row keeps its name. -/
structure Named : Prop where
  create_name : ∀ rows r row, m.create rows r = .ok row → m.nameOf row = m.key r
  update_name : ∀ r g, m.update r = .ok g → ∀ row, m.nameOf (g row) = m.nameOf row

/-- Rows that are named after their records get the id `newId n` when they are added to `n` rows,
and changing a row keeps its id. -/
structure Lawful (newId : Nat → ι) : Prop extends m.Named where
  create_id : ∀ rows r row, m.create rows r = .ok row → m.idOf row = newId rows.length
  update_id : ∀ r g, m.update r = .ok g → ∀ row, m.idOf (g row) = m.idOf row

variable {m} {newId : Nat → ι} {d : Deed} {expected : R → Deed} {t : List ρ}

namespace Named

theorem write_names (h : m.Named) (hw : m.write existing rows r = .ok (t, d)) :
    t.map m.nameOf = rows.map m.nameOf ++
      if m.key r ∈ existing.map m.nameOf then [] else [m.key r] := by
  rcases m.write_cases hw with ⟨hnew, row, hrow, rfl, -⟩ | ⟨hknown, found, g, hg, rfl, -⟩
  · rw [if_neg hnew, List.map_append, List.map_singleton, h.create_name rows r row hrow]
  · rw [if_pos hknown, List.append_nil, map_amend (h.update_name r g hg)]

/-- The names after a loop. -/
theorem returns_names (h : m.Named) (hr : Returns (m.write existing) existing rs expected t) :
    t.map m.nameOf = existing.map m.nameOf ++ (m.newcomers existing rs).map m.key := by
  have hstart : existing.map m.nameOf =
      existing.map m.nameOf ++ (m.newcomers existing []).map m.key := by
    simp [newcomers]
  refine hr.invariant
    (I := fun pre rows => rows.map m.nameOf =
      existing.map m.nameOf ++ (m.newcomers existing pre).map m.key)
    (fun pre r rows t hrows hw => ?_) hstart
  rw [h.write_names hw, hrows, newcomers_append, List.map_append, List.append_assoc]
  split <;> rfl

theorem mem_names (h : m.Named) (hr : Returns (m.write existing) existing rs expected t) :
    k ∈ t.map m.nameOf ↔ k ∈ existing.map m.nameOf ∨ k ∈ rs.map m.key := by
  rw [h.returns_names hr, List.mem_append]
  by_cases hk : k ∈ existing.map m.nameOf
  · exact iff_of_true (.inl hk) (.inl hk)
  · rw [or_iff_right hk, or_iff_right hk, newcomers, List.mem_map, List.mem_map]
    constructor
    · rintro ⟨r, hmem, rfl⟩
      exact ⟨r, (List.mem_filter.mp hmem).1, rfl⟩
    · rintro ⟨r, hmem, rfl⟩
      exact ⟨r, List.mem_filter.mpr ⟨hmem, by simpa using hk⟩, rfl⟩

/-- Whether a loop does as planned, when new rows need new names: no two records make rows of one
name. -/
theorem exists_returns_iff {known : R → Prop} [DecidablePred known] {creates updates : R → Prop}
    (h : m.Named)
    (hcreate : ∀ rows r, (∃ row, m.create rows r = .ok row) ↔
      m.key r ∉ rows.map m.nameOf ∧ creates r)
    (hupdate : ∀ r, (∃ g, m.update r = .ok g) ↔ updates r) :
    (∃ t, Returns (m.write existing) existing rs
        (fun r => if known r then .updated else .created) t) ↔
      (∀ r ∈ rs, (m.key r ∈ existing.map m.nameOf ↔ known r) ∧
        if m.key r ∈ existing.map m.nameOf then updates r else creates r) ∧
          ((m.newcomers existing rs).map m.key).Nodup := by
  have hstep : ∀ (pre : List R) (r : R) (rows : List ρ),
      rows.map m.nameOf = existing.map m.nameOf ++ (m.newcomers existing pre).map m.key →
      ((∃ t, m.write existing rows r = .ok (t, if known r then .updated else .created)) ↔
        ((m.key r ∈ existing.map m.nameOf ↔ known r) ∧
          if m.key r ∈ existing.map m.nameOf then updates r else creates r) ∧
            (decide (m.key r ∉ existing.map m.nameOf) = true →
              m.key r ∉ (m.newcomers existing pre).map m.key)) := by
    intro pre r rows hrows
    rw [decide_eq_true_iff, write_asPlanned_iff, and_assoc, hcreate, hupdate, hrows,
      List.mem_append, not_or]
    refine and_congr_right fun _ => ?_
    by_cases hkey : m.key r ∈ existing.map m.nameOf
    · rw [if_pos hkey, if_pos hkey, and_iff_left (absurd hkey)]
    · rw [if_neg hkey, if_neg hkey, and_iff_right hkey, and_comm, imp_iff_right hkey]
  have hkeep : ∀ (pre : List R) (r : R) (rows t : List ρ),
      rows.map m.nameOf = existing.map m.nameOf ++ (m.newcomers existing pre).map m.key →
      m.write existing rows r = .ok (t, if known r then .updated else .created) →
      t.map m.nameOf = existing.map m.nameOf ++ (m.newcomers existing (pre ++ [r])).map m.key := by
    intro pre r rows t hrows hw
    rw [h.write_names hw, hrows, newcomers_append, List.map_append, List.append_assoc]
    split <;> rfl
  have hstart : existing.map m.nameOf =
      existing.map m.nameOf ++ (m.newcomers existing []).map m.key := by
    simp [newcomers]
  exact returns_iff_nodup hstep hkeep hstart

end Named

namespace Lawful

theorem write_tags (h : m.Lawful newId) (hw : m.write existing rows r = .ok (t, d)) :
    t.map m.tag = rows.map m.tag ++
      if m.key r ∈ existing.map m.nameOf then [] else [(newId rows.length, m.key r)] := by
  rcases m.write_cases hw with ⟨hnew, row, hrow, rfl, -⟩ | ⟨hknown, found, g, hg, rfl, -⟩
  · rw [if_neg hnew, List.map_append, List.map_singleton, tag, h.create_name rows r row hrow,
      h.create_id rows r row hrow]
  · rw [if_pos hknown, List.append_nil, map_amend fun row => ?_]
    rw [tag, h.update_name r g hg, h.update_id r g hg, ← tag]

/-- The ids and the names after a loop. -/
theorem returns_tags (h : m.Lawful newId) (hr : Returns (m.write existing) existing rs expected t) :
    t.map m.tag = existing.map m.tag ++ m.newTags newId existing rs := by
  have hstart : existing.map m.tag = existing.map m.tag ++ m.newTags newId existing [] := by
    simp [newTags, newcomers]
  refine hr.invariant
    (I := fun pre rows => rows.map m.tag = existing.map m.tag ++ m.newTags newId existing pre)
    (fun pre r rows t hrows hw => ?_) hstart
  have hlength : rows.length = existing.length + (m.newcomers existing pre).length := by
    simpa [newTags] using congrArg List.length hrows
  rw [h.write_tags hw, hrows, List.append_assoc, newTags, newTags, newcomers_append,
    List.mapIdx_append, hlength]
  by_cases hkey : m.key r ∈ existing.map m.nameOf
  · rw [if_pos hkey, if_pos hkey, List.mapIdx_nil]
  · rw [if_neg hkey, if_neg hkey, List.mapIdx_singleton, Nat.zero_add]

variable (h : m.Lawful newId) (hr : Returns (m.write existing) existing rs expected t)

include h hr

/-- The ids there are afterwards: those of before and new ones. -/
theorem ids_eq : t.map m.idOf = existing.map m.idOf ++
    (List.range (m.newcomers existing rs).length).map fun i => newId (existing.length + i) := by
  have := congrArg (List.map Prod.fst) (h.returns_tags hr)
  rwa [List.map_append, map_tag_id, map_tag_id, map_newTags_id] at this

/-- The rows have different ids when the new ids are new. -/
theorem keyed (hkeyed : Keyed m.idOf existing) (hinj : Function.Injective newId)
    (hfresh : ∀ n, newId n ∉ existing.map m.idOf) : Keyed m.idOf t := by
  rw [Keyed, h.ids_eq hr]
  refine List.Nodup.append hkeyed ?_ fun i hi hnew => ?_
  · exact List.nodup_range.map fun i j hij => Nat.add_left_cancel (hinj hij)
  · obtain ⟨n, -, rfl⟩ := List.mem_map.mp hnew
    exact hfresh _ hi

/-- A name that was there is found where it was. -/
theorem find_old (hk : k ∈ existing.map m.nameOf) :
    (m.find t k).map m.idOf = (m.find existing k).map m.idOf := by
  have hnone : (m.newTags newId existing rs).reverse.find? (·.2 = k) = none := by
    rw [find?_eq_none_iff, List.map_reverse, List.mem_reverse, map_newTags_name]
    rintro hmem
    obtain ⟨r, hr, rfl⟩ := List.mem_map.mp hmem
    exact absurd hk (by simpa using (List.mem_filter.mp hr).2)
  have htag : (m.find t k).map m.tag = (m.find existing k).map m.tag := by
    rw [find_tag, find_tag, h.returns_tags hr, List.reverse_append, List.find?_append, hnone,
      Option.none_or]
  simpa [Function.comp_def, tag] using congrArg (Option.map Prod.fst) htag

/-- A name that was not there is found with a new id. -/
theorem find_new (hk : k ∉ existing.map m.nameOf) (hfind : m.find t k = some row) :
    ∃ n, m.idOf row = newId n := by
  have hnone : (existing.map m.tag).reverse.find? (·.2 = k) = none := by
    rw [← find_tag, m.find_eq_none.mpr hk, Option.map_none]
  have hfound : (m.newTags newId existing rs).reverse.find? (·.2 = k) = some (m.tag row) := by
    have htag : (m.find t k).map m.tag = some (m.tag row) := by rw [hfind, Option.map_some]
    rwa [find_tag, h.returns_tags hr, List.reverse_append, List.find?_append, hnone,
      Option.or_none] at htag
  have hid : m.idOf row ∈ (m.newTags newId existing rs).map Prod.fst :=
    List.mem_map_of_mem (List.mem_reverse.mp (List.mem_of_find?_eq_some hfound))
  rw [map_newTags_id] at hid
  obtain ⟨n, -, hn⟩ := List.mem_map.mp hid
  exact ⟨_, hn.symm⟩

end Lawful

/-- The importer of records that `f` makes. -/
def comap {R' : Type*} (f : R' → R) : Importer R' ρ ε κ ι where
  key r := m.key (f r)
  nameOf := m.nameOf
  idOf := m.idOf
  create rows r := m.create rows (f r)
  update r := m.update (f r)

/-- **Each record to a new row.**  `Q` is what is said of the row that a record makes. -/
theorem exists_returns_new {Q : R → ρ → Prop} (hnew : ∀ r ∈ rs, m.key r ∉ existing.map m.nameOf)
    (hrows : ∀ r ∈ rs, m.key r ∉ rows.map m.nameOf) (hkeys : (rs.map m.key).Nodup)
    (hcreate : ∀ r ∈ rs, ∀ rows', m.key r ∉ rows'.map m.nameOf →
      ∃ row, m.create rows' r = .ok row ∧ m.nameOf row = m.key r ∧ Q r row) :
    ∃ new, Returns (m.write existing) rows rs (fun _ => .created) (rows ++ new) ∧
      List.Forall₂ (fun r row => m.nameOf row = m.key r ∧ Q r row) rs new := by
  induction rs generalizing rows with
  | nil =>
      refine ⟨[], returns_nil.mpr ?_, .nil⟩
      rw [List.append_nil]
  | cons r rs ih =>
      obtain ⟨hfresh, hrest⟩ := List.nodup_cons.mp hkeys
      obtain ⟨row, hrow, hname, hQ⟩ :=
        hcreate r List.mem_cons_self rows (hrows r List.mem_cons_self)
      have hrows' : ∀ a ∈ rs, m.key a ∉ (rows ++ [row]).map m.nameOf := by
        intro a ha hmem
        rw [List.map_append, List.map_singleton, List.mem_append, List.mem_singleton, hname] at hmem
        rcases hmem with hmem | hsame
        · exact hrows a (List.mem_cons_of_mem r ha) hmem
        · exact hfresh (hsame ▸ List.mem_map_of_mem ha)
      obtain ⟨new, hloop, hall⟩ := ih (fun a ha => hnew a (List.mem_cons_of_mem r ha)) hrows' hrest
        fun a ha => hcreate a (List.mem_cons_of_mem r ha)
      refine ⟨row :: new, returns_cons.mpr ⟨rows ++ [row], m.write_created_iff.mpr
        ⟨hnew r List.mem_cons_self, row, hrow, rfl⟩, ?_⟩, .cons ⟨hname, hQ⟩ hall⟩
      rwa [List.append_assoc] at hloop

/-- **Each record to its own row.**  `rec row` is the record of a row, which is found by its name,
and `g` is what writing a row's record makes of the row. -/
theorem returns_own {rec : ρ → R} {g : ρ → ρ} {own : List ρ} (hkeyed : Keyed m.idOf rows)
    (hmem : ∀ row ∈ own, row ∈ rows)
    (hfind : ∀ row ∈ own, m.find rows (m.key (rec row)) = some row)
    (hupdate : ∀ row ∈ own, ∃ f, m.update (rec row) = .ok f ∧ f row = g row)
    (hg : ∀ row, m.idOf (g row) = m.idOf row) (hown : (own.map m.idOf).Nodup) :
    Returns (fun s row => m.write rows s (rec row)) rows own (fun _ => .updated)
      (rows.map fun row => if m.idOf row ∈ own.map m.idOf then g row else row) := by
  -- the rows whose records were written are those with an id in `done`
  suffices h : ∀ done : List ι, (∀ row ∈ own, m.idOf row ∉ done) →
      Returns (fun s row => m.write rows s (rec row))
        (rows.map fun row => if m.idOf row ∈ done then g row else row) own (fun _ => .updated)
        (rows.map fun row => if m.idOf row ∈ done ++ own.map m.idOf then g row else row) by
    simpa using h [] (by simp)
  induction own with
  | nil =>
      intro done _
      rw [List.map_nil, List.append_nil]
      exact returns_nil.mpr rfl
  | cons row own ih =>
      intro done hdone
      obtain ⟨hfresh, hrest⟩ := List.nodup_cons.mp hown
      obtain ⟨f, hf, hrow⟩ := hupdate row List.mem_cons_self
      refine returns_cons.mpr ⟨_, m.write_updated_iff.mpr
        ⟨row, f, hfind row List.mem_cons_self, hf, rfl⟩, ?_⟩
      have htail := ih (fun r hr => hmem r (List.mem_cons_of_mem row hr))
        (fun r hr => hfind r (List.mem_cons_of_mem row hr))
        (fun r hr => hupdate r (List.mem_cons_of_mem row hr)) hrest (done ++ [m.idOf row])
        (by
          intro r hr hin
          rcases List.mem_append.mp hin with hin | hin
          · exact hdone r (List.mem_cons_of_mem row hr) hin
          · exact hfresh (List.mem_singleton.mp hin ▸ List.mem_map_of_mem hr))
      have hstep : amend m.idOf (m.idOf row) f
          (rows.map fun row => if m.idOf row ∈ done then g row else row) =
          rows.map fun r => if m.idOf r ∈ done ++ [m.idOf row] then g r else r := by
        rw [amend, List.map_map]
        refine List.map_congr_left fun r hr => ?_
        rw [Function.comp_apply]
        by_cases hid : m.idOf r = m.idOf row
        · obtain rfl := hkeyed.eq hr (hmem row List.mem_cons_self) hid
          rw [if_neg (hdone r List.mem_cons_self), if_pos rfl, hrow, if_pos (by simp)]
        · have hsame : m.idOf (if m.idOf r ∈ done then g r else r) = m.idOf r := by
            split
            · exact hg r
            · rfl
          rw [hsame, if_neg hid]
          simp [hid]
      rw [hstep]
      simpa using htail

end

end Importer

end RebooterHub.NaturalKey
