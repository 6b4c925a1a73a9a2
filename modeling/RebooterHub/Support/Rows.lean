import Mathlib.Data.List.Nodup
import Mathlib.Data.List.Perm.Basic
import Mathlib.Tactic.TypeStar

/-!
# Support — Rows

Rows of a table as a list, under a key.

* `amend key k g` changes the rows with key `k`; `updateFirst p f` changes the first row with a
  property.
* `Keyed key rows` says that `key` is a primary key of the rows.  Under it a row is the one
  `find?` gives for its key, and amending changes that one row only.
-/

namespace RebooterHub.Rows

variable {α κ β : Type*} {key : α → κ} {k : κ} {g : α → α} {rows : List α} {r : α}

/-- `key` is a primary key of the rows. -/
def Keyed (key : α → κ) (rows : List α) : Prop := (rows.map key).Nodup

theorem Keyed.filter (h : Keyed key rows) (p : α → Bool) : Keyed key (rows.filter p) :=
  h.sublist (List.filter_sublist.map key)

/-- Two rows with one key are the same. -/
theorem Keyed.eq (h : Keyed key rows) {r' : α} (hr : r ∈ rows) (hr' : r' ∈ rows)
    (hk : key r = key r') : r = r' :=
  List.inj_on_of_nodup_map h hr hr' hk

/-- The keys of the rows that `f` keeps are some of the keys. -/
theorem filterMap_key_sublist {f : α → Option β} :
    (rows.filterMap fun r => (f r).map fun _ => key r).Sublist (rows.map key) := by
  induction rows with
  | nil => exact .slnil
  | cons a rows ih =>
      rw [List.map_cons]
      cases ha : f a with
      | none =>
          rw [List.filterMap_cons_none (by rw [ha]; rfl)]
          exact ih.cons (key a)
      | some b =>
          rw [List.filterMap_cons_some (by rw [ha]; rfl)]
          exact ih.cons_cons (key a)

/-- Two rows that are told apart by a partial key are the same. -/
theorem eq_of_nodup_filterMap {f : α → Option β} {x : β} {r' : α} (h : (rows.filterMap f).Nodup)
    (hr : r ∈ rows) (hr' : r' ∈ rows) (hx : f r = some x) (hx' : f r' = some x) : r = r' := by
  have hpairs := List.pairwise_filterMap.mp h
  clear h
  induction rows with
  | nil => cases hr
  | cons a rows ih =>
      obtain ⟨hhead, htail⟩ := List.pairwise_cons.mp hpairs
      rcases List.mem_cons.mp hr with rfl | hmem
      · rcases List.mem_cons.mp hr' with rfl | hmem'
        · rfl
        · exact absurd rfl (hhead r' hmem' x hx x hx')
      · rcases List.mem_cons.mp hr' with rfl | hmem'
        · exact absurd rfl (hhead r hmem x hx' x hx)
        · exact ih hmem hmem' htail

/-- What related rows have in common. -/
theorem map_eq_of_forall₂ {ω : Type*} {P : ω → α → Prop} {f : α → β} {g : ω → β} {ws : List ω}
    (h : List.Forall₂ P ws rows) (hP : ∀ w r, P w r → f r = g w) : rows.map f = ws.map g := by
  induction h with
  | nil => rfl
  | cons hw _ ih => rw [List.map_cons, List.map_cons, hP _ _ hw, ih]

variable [DecidableEq κ]

/-- The rows with key `k` are changed by `g`. -/
def amend (key : α → κ) (k : κ) (g : α → α) (rows : List α) : List α :=
  rows.map fun r => if key r = k then g r else r

theorem mem_amend {r' : α} (h : r' ∈ amend key k g rows) :
    (r' ∈ rows ∧ key r' ≠ k) ∨ ∃ r ∈ rows, key r = k ∧ r' = g r := by
  obtain ⟨r, hr, rfl⟩ := List.mem_map.mp h
  by_cases hk : key r = k
  · exact .inr ⟨r, hr, hk, if_pos hk⟩
  · rw [if_neg hk]
    exact .inl ⟨hr, hk⟩

/-- What holds of all rows and of the amended ones holds afterwards. -/
theorem forall_amend {P : α → Prop} (h : ∀ r ∈ rows, P r) (hg : ∀ r ∈ rows, key r = k → P (g r)) :
    ∀ r ∈ amend key k g rows, P r := by
  intro r hr
  rcases mem_amend hr with ⟨hmem, -⟩ | ⟨r₀, hr₀, hk, rfl⟩
  · exact h r hmem
  · exact hg r₀ hr₀ hk

theorem mem_amend_self (hr : r ∈ rows) : g r ∈ amend key (key r) g rows :=
  List.mem_map.mpr ⟨r, hr, if_pos rfl⟩

theorem mem_amend_of_ne (hr : r ∈ rows) (hk : key r ≠ k) : r ∈ amend key k g rows :=
  List.mem_map.mpr ⟨r, hr, if_neg hk⟩

/-- Each row is still there, changed or as it was. -/
theorem amend_mem (hr : r ∈ rows) : (if key r = k then g r else r) ∈ amend key k g rows :=
  List.mem_map_of_mem hr

/-- What `g` keeps of a row, amending keeps of the rows. -/
theorem map_amend {f : α → β} (hf : ∀ r, f (g r) = f r) :
    (amend key k g rows).map f = rows.map f := by
  rw [amend, List.map_map]
  refine List.map_congr_left fun r _ => ?_
  rw [Function.comp_apply]
  split
  · exact hf r
  · rfl

/-- Amending rows keeps a key that it leaves alone. -/
theorem Keyed.amend {key' : α → β} (h : Keyed key' rows) (hg : ∀ r, key' (g r) = key' r) :
    Keyed key' (Rows.amend key k g rows) := by
  rw [Keyed, map_amend hg]
  exact h

theorem any_eq_iff : (rows.any fun r => key r = k) = true ↔ k ∈ rows.map key := by
  rw [List.any_eq_true, List.mem_map]
  simp only [decide_eq_true_eq]

theorem find?_eq_none_iff : rows.find? (key · = k) = none ↔ k ∉ rows.map key := by
  rw [List.find?_eq_none, List.mem_map]
  constructor
  · rintro h ⟨r, hr, rfl⟩
    exact h r hr (decide_eq_true rfl)
  · intro h r hr hk
    exact h ⟨r, hr, of_decide_eq_true hk⟩

/-- An added row is found under its key, if that is new. -/
theorem find?_append_new (key : α → κ) (hr : rows.find? (key · = key r) = none) :
    (rows ++ [r]).find? (key · = key r) = some r := by
  rw [List.find?_append, hr, Option.none_or, List.find?_cons_of_pos (by simp)]

/-- A row with a new key may be added. -/
theorem Keyed.append (h : Keyed key rows) (hr : rows.find? (key · = key r) = none) :
    Keyed key (rows ++ [r]) := by
  rw [Keyed, List.map_append, List.map_singleton]
  refine List.Nodup.append h (List.nodup_singleton _) ?_
  intro k hk hk'
  rw [List.mem_singleton.mp hk'] at hk
  exact find?_eq_none_iff.mp hr hk

theorem find?_key (h : rows.find? (key · = k) = some r) : r ∈ rows ∧ key r = k :=
  ⟨List.mem_of_find?_eq_some h, by simpa using List.find?_some h⟩

/-- A row is found under its key. -/
theorem Keyed.find? (h : Keyed key rows) (hr : r ∈ rows) : rows.find? (key · = key r) = some r := by
  cases hfind : rows.find? (key · = key r) with
  | none => exact absurd (List.mem_map_of_mem hr) (find?_eq_none_iff.mp hfind)
  | some r' =>
      obtain ⟨hr', hk⟩ := find?_key hfind
      rw [h.eq hr' hr hk]

/-- A row with the key of a found one is that row. -/
theorem Keyed.eq_of_find? (h : Keyed key rows) {r' : α} (hfind : rows.find? (key · = k) = some r)
    (hr' : r' ∈ rows) (hk : key r' = k) : r' = r := by
  obtain ⟨hr, hkey⟩ := find?_key hfind
  exact h.eq hr' hr (hk.trans hkey.symm)

/-- One row has a key. -/
theorem Keyed.filter_eq (h : Keyed key rows) (hr : r ∈ rows) :
    rows.filter (key · = key r) = [r] := by
  induction rows with
  | nil => cases hr
  | cons x xs ih =>
      obtain ⟨hx, hxs⟩ := List.nodup_cons.mp h
      rcases List.mem_cons.mp hr with rfl | hr
      · rw [List.filter_cons_of_pos (by simp), List.cons_inj_right, List.filter_eq_nil_iff]
        intro y hy hk
        exact hx (of_decide_eq_true hk ▸ List.mem_map_of_mem hy)
      · have hne : key x ≠ key r := fun hk => hx (hk ▸ List.mem_map_of_mem hr)
        rw [List.filter_cons_of_neg (by simpa using hne), ih hxs hr]

/-- Rows taken by their keys, and the rows that are left. -/
theorem Keyed.perm_left_append (h : Keyed key rows) {taken : List α} (htaken : taken.Nodup)
    (hsub : ∀ r ∈ taken, r ∈ rows) :
    (rows.filter (key · ∉ taken.map key) ++ taken).Perm rows := by
  have hrows : rows.Nodup := List.Nodup.of_map key h
  have hpart : (rows.filter (key · ∈ taken.map key)).Perm taken := by
    refine (List.perm_ext_iff_of_nodup (hrows.filter _) htaken).mpr fun r => ?_
    rw [List.mem_filter, decide_eq_true_eq, List.mem_map]
    constructor
    · rintro ⟨hr, r', hr', hkey⟩
      rwa [← h.eq (hsub r' hr') hr hkey]
    · intro hr
      exact ⟨hsub r hr, r, hr, rfl⟩
  have hsplit : (rows.filter (key · ∈ taken.map key) ++
      rows.filter (key · ∉ taken.map key)).Perm rows := by
    simpa only [decide_not] using List.filter_append_perm (key · ∈ taken.map key) rows
  exact List.perm_append_comm.trans ((hpart.symm.append_right _).trans hsplit)

/-- The rows with other keys are as they were. -/
theorem filter_amend_ne (hg : ∀ r, key (g r) = key r) :
    (amend key k g rows).filter (key · ≠ k) = rows.filter (key · ≠ k) := by
  induction rows with
  | nil => rfl
  | cons x xs ih =>
      rw [amend, List.map_cons, ← amend]
      by_cases hk : key x = k
      · rw [if_pos hk, List.filter_cons_of_neg (by simpa [hg] using hk),
          List.filter_cons_of_neg (by simpa using hk), ih]
      · rw [if_neg hk, List.filter_cons_of_pos (by simpa using hk),
          List.filter_cons_of_pos (by simpa using hk), ih]

/-- With a primary key, amending changes one row. -/
theorem Keyed.mem_amend (h : Keyed key rows) (hr : r ∈ rows) {r' : α}
    (hr' : r' ∈ Rows.amend key (key r) g rows) : (r' ∈ rows ∧ key r' ≠ key r) ∨ r' = g r := by
  obtain ⟨hmem, hk⟩ | ⟨r₀, hr₀, hk, rfl⟩ := Rows.mem_amend hr'
  · exact .inl ⟨hmem, hk⟩
  · rw [h.eq hr₀ hr hk]
    exact .inr rfl

/-- Changing other keys changes nothing. -/
theorem amend_eq_self (h : ∀ r ∈ rows, key r ≠ k) : amend key k g rows = rows := by
  rw [amend]
  conv_rhs => rw [← List.map_id rows]
  exact List.map_congr_left fun r hr => if_neg (h r hr)

/-- With a primary key, amending changes a count by one row. -/
theorem Keyed.countP_amend (h : Keyed key rows) (hr : r ∈ rows) (p : α → Bool) :
    (Rows.amend key (key r) g rows).countP p + (p r).toNat =
      rows.countP p + (p (g r)).toNat := by
  induction rows with
  | nil => cases hr
  | cons x xs ih =>
      obtain ⟨hx, hxs⟩ := List.nodup_cons.mp h
      rw [Rows.amend, List.map_cons, ← Rows.amend, List.countP_cons, List.countP_cons]
      rcases List.mem_cons.mp hr with rfl | hr
      · have hall : Rows.amend key (key r) g xs = xs :=
          amend_eq_self fun y hy hk => hx (hk ▸ List.mem_map_of_mem hy)
        rw [hall, if_pos rfl]
        cases p r <;> cases p (g r) <;> simp
      · have hne : key x ≠ key r := fun hk => hx (hk ▸ List.mem_map_of_mem hr)
        have hrest := ih hxs hr
        rw [if_neg hne]
        omega

/-- With a primary key, a count is that of the other rows and one row. -/
theorem Keyed.countP_filter_ne (h : Keyed key rows) (hr : r ∈ rows) (p : α → Bool) :
    (rows.filter (key · ≠ key r)).countP p + (p r).toNat = rows.countP p := by
  induction rows with
  | nil => cases hr
  | cons x xs ih =>
      obtain ⟨hx, hxs⟩ := List.nodup_cons.mp h
      rw [List.countP_cons]
      rcases List.mem_cons.mp hr with rfl | hr
      · have hall : xs.filter (key · ≠ key r) = xs :=
          List.filter_eq_self.mpr fun y hy =>
            decide_eq_true fun hk => hx (hk ▸ List.mem_map_of_mem hy)
        rw [List.filter_cons_of_neg (by simp), hall]
        cases p r <;> simp
      · have hne : key x ≠ key r := fun hk => hx (hk ▸ List.mem_map_of_mem hr)
        have hrest := ih hxs hr
        rw [List.filter_cons_of_pos (by simpa using hne), List.countP_cons]
        omega

/-- **The last of several changes.**  What the rows are after changes to their keys: those that no
change was made to as they were, the others as the last change made to them left them. -/
theorem forall_foldl_amend {ω : Type*} {target : ω → κ} {g : ω → α → α} {P : α → Prop}
    {Q : ω → Prop} (hkey : ∀ w r, key (g w r) = key r) (hP : ∀ w r, P (g w r) ↔ Q w) {ws : List ω}
    (hws : ∀ w ∈ ws, target w ∈ rows.map key) :
    (∀ r ∈ ws.foldl (fun rows w => Rows.amend key (target w) (g w) rows) rows, P r) ↔
      (∀ r ∈ rows, key r ∉ ws.map target → P r) ∧
        ∀ pre w post, ws = pre ++ w :: post → target w ∉ post.map target → Q w := by
  induction ws generalizing rows with
  | nil =>
      refine ⟨fun h => ⟨fun r hr _ => h r hr, fun pre w post h => ?_⟩, fun h r hr => h.1 r hr ?_⟩
      · simp at h
      · simp
  | cons w ws ih =>
      have hkeys : (Rows.amend key (target w) (g w) rows).map key = rows.map key :=
        map_amend fun r => hkey w r
      rw [List.foldl_cons, ih fun w' hw' => by
        rw [hkeys]
        exact hws w' (List.mem_cons_of_mem w hw')]
      constructor
      · rintro ⟨hrows, hlast⟩
        refine ⟨fun r hr hfree => ?_, fun pre w' post hsplit hw' => ?_⟩
        · rw [List.map_cons, List.mem_cons, not_or] at hfree
          exact hrows r (mem_amend_of_ne hr hfree.1) hfree.2
        · cases pre with
          | nil =>
              obtain ⟨rfl, rfl⟩ := List.cons.inj hsplit
              obtain ⟨r, hr, hrw⟩ := List.mem_map.mp (hws w List.mem_cons_self)
              have hmem : g w r ∈ Rows.amend key (target w) (g w) rows := by
                rw [← hrw]
                exact mem_amend_self hr
              exact (hP w r).mp (hrows _ hmem (by rwa [hkey, hrw]))
          | cons w₀ pre =>
              obtain ⟨rfl, htail⟩ := List.cons.inj hsplit
              exact hlast pre w' post htail hw'
      · rintro ⟨hrows, hlast⟩
        refine ⟨fun r hr hfree => ?_, fun pre w' post hsplit => hlast (w :: pre) w' post
          (by rw [hsplit]; rfl)⟩
        obtain ⟨hr, hne⟩ | ⟨r₀, hr₀, hk, rfl⟩ := mem_amend hr
        · exact hrows r hr (by simpa [hne] using hfree)
        · rw [hkey, hk] at hfree
          exact (hP w r₀).mpr (hlast [] w ws rfl hfree)

/-- **Changes with different targets.**  Each row is changed by the change for its key. -/
theorem foldl_amend {ω : Type*} {target : ω → κ} {g : ω → α → α} {ws : List ω}
    (hkey : ∀ w r, key (g w r) = key r) (hws : (ws.map target).Nodup) :
    ws.foldl (fun rows w => Rows.amend key (target w) (g w) rows) rows =
      rows.map fun r => match ws.find? (target · = key r) with
        | some w => g w r
        | none => r := by
  induction ws generalizing rows with
  | nil => simp
  | cons w ws ih =>
      obtain ⟨hfresh, hrest⟩ := List.nodup_cons.mp hws
      rw [List.foldl_cons, ih hrest, Rows.amend, List.map_map]
      refine List.map_congr_left fun r _ => ?_
      rw [Function.comp_apply]
      by_cases hr : key r = target w
      · have hnone : ws.find? (target · = key r) = none := by
          rw [hr]
          exact find?_eq_none_iff.mpr hfresh
        rw [if_pos hr, hkey, hnone, List.find?_cons_of_pos (by simpa using hr.symm)]
      · rw [if_neg hr, List.find?_cons_of_neg (by simpa using Ne.symm hr)]

/-! ### The first row with a property -/

section
variable {p q : α → Bool} {f : α → α}

/-- The first row with the property `p` is changed by `f`. -/
def updateFirst (p : α → Bool) (f : α → α) : List α → List α
  | [] => []
  | r :: rows => if p r then f r :: rows else r :: updateFirst p f rows

theorem mem_updateFirst {r : α} (h : r ∈ updateFirst p f rows) :
    r ∈ rows ∨ ∃ r₀ ∈ rows, p r₀ ∧ r = f r₀ := by
  induction rows with
  | nil => exact .inl h
  | cons a rows ih =>
      rw [updateFirst] at h
      split at h
      · next hp =>
          rcases List.mem_cons.mp h with rfl | hmem
          · exact .inr ⟨a, List.mem_cons_self, hp, rfl⟩
          · exact .inl (List.mem_cons_of_mem a hmem)
      · rcases List.mem_cons.mp h with rfl | hmem
        · exact .inl List.mem_cons_self
        · rcases ih hmem with hmem | ⟨r₀, hr₀, hp, rfl⟩
          · exact .inl (List.mem_cons_of_mem a hmem)
          · exact .inr ⟨r₀, List.mem_cons_of_mem a hr₀, hp, rfl⟩

/-- A row without the property stays. -/
theorem mem_updateFirst_of_not {r : α} (hr : r ∈ rows) (hp : p r = false) :
    r ∈ updateFirst p f rows := by
  induction rows with
  | nil => cases hr
  | cons a rows ih =>
      rw [updateFirst]
      split
      · next ha =>
          rcases List.mem_cons.mp hr with rfl | hmem
          · rw [hp] at ha
            cases ha
          · exact List.mem_cons_of_mem _ hmem
      · rcases List.mem_cons.mp hr with rfl | hmem
        · exact List.mem_cons_self
        · exact List.mem_cons_of_mem _ (ih hmem)

/-- What the change keeps of a row is still said of some row. -/
theorem any_updateFirst (hf : ∀ r, q (f r) = q r) : (updateFirst p f rows).any q = rows.any q := by
  induction rows with
  | nil => rfl
  | cons a rows ih =>
      rw [updateFirst]
      split
      · rw [List.any_cons, List.any_cons, hf]
      · rw [List.any_cons, List.any_cons, ih]

end

end RebooterHub.Rows
