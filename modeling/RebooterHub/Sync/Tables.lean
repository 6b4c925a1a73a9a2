import RebooterHub.Support.Table
import RebooterHub.Sync.Columns

/-!
# Sync — Tables

The tables of a hub that replication reads and writes, as a session sees them.

A session runs under a `Scope` (`tenant_scope`): reads of the tenant-scoped models are filtered by
it in enforce mode, writes are stamped and guarded at the flush.  A flush that breaks a constraint
rolls the whole transaction back, so each write here is an `Except`; `Accepts` collects the
constraints on an inserted or updated row, `Blocked` is the one a deletion can break.
-/

namespace RebooterHub.Sync

/-- A row of `organizations`. -/
structure Organization where
  id : String
  slug : String
deriving DecidableEq, Repr

/-- A row of `tombstones`. -/
structure Tombstone where
  entityId : String
  entityType : String
  createdAt : Time
  fromOutboxSeq : Nat
deriving DecidableEq, Repr

/-- The committed state of a hub; every row of it is well-formed. -/
structure Hub where
  organizations : List Organization
  table : Model → Table String Row
  tombstones : List Tombstone
  /-- `org_isolation.enforce`: enforce mode, else shadow mode. -/
  enforcing : Bool
  wellFormed : ∀ m id row, (table m).find id = some row → WellFormed m id row

/-- A hub without rows. -/
def Hub.empty (organizations : List Organization) (enforcing : Bool) : Hub where
  organizations
  table _ := Table.empty
  tombstones := []
  enforcing
  wellFormed := by
    intro m id row hrow
    cases hrow

/-- What ends the application of an event. -/
inductive SyncError where
  | unknownOrg (org : String)
  | crossOrgWrite (rowOrg : Value) (activeOrg : String)
  | integrity
  | runtime (message : String)
  | python (e : PyError)
deriving DecidableEq, Repr

/-- What a session is bound to: nothing (`system()`), or an organization (`org_context`). -/
inductive Scope where
  | system
  | org (id : String)
deriving DecidableEq, Repr

variable {h : Hub} {m m' : Model} {id id' : String} {r : Row} {scope : Scope}

namespace Model

/-- The models with a foreign key at this one. -/
def all : List Model := [.device, .site, .group, .user]

theorem mem_all (m : Model) : m ∈ all := by
  cases m <;> decide

/-- The row refers to a row of `target`. -/
def RefersTo (m : Model) (row : Row) (target : Model) (id : String) : Prop :=
  ∃ p ∈ m.references, p.2 = target ∧ row p.1 = .text id

instance (m : Model) (row : Row) (target : Model) (id : String) :
    Decidable (m.RefersTo row target id) :=
  inferInstanceAs (Decidable (∃ p ∈ m.references, _))

/-- `ON DELETE SET NULL`: what becomes of a row when a row of `target` goes. -/
def clear (m target : Model) (id : String) (row : Row) : Row := fun c =>
  if (c, target) ∈ m.references ∧ c ∉ m.required ∧ row c = .text id then .null else row c

theorem reference_column {p : Column × Model} (hp : p ∈ m.references) :
    p.1 ∈ m.columns ∧ p.1 ≠ .id ∧ p.1.isDateTime = false := by
  cases m with
  | device =>
    simp only [references, List.mem_cons, List.not_mem_nil, or_false] at hp
    rcases hp with rfl | rfl <;> decide
  | group =>
    simp only [references, List.mem_cons, List.not_mem_nil, or_false] at hp
    rcases hp with rfl
    decide
  | site => cases hp
  | user => cases hp

theorem clear_of_not_refersTo {target : Model} (hr : ¬ m.RefersTo r target id) :
    m.clear target id r = r := by
  funext c
  unfold clear
  split
  · case _ hc => exact absurd ⟨_, hc.1, rfl, hc.2.2⟩ hr
  · rfl

theorem clear_apply_of_not_reference {target : Model} {c : Column}
    (hc : (c, target) ∉ m.references) : m.clear target id r c = r c :=
  if_neg fun h => hc h.1

end Model

theorem WellFormed.clear (w : WellFormed m id r) (target : Model) (gone : String) :
    WellFormed m id (m.clear target gone r) := by
  refine ⟨?_, ?_, ?_, ?_⟩
  · rw [Model.clear_apply_of_not_reference fun hc => (Model.reference_column hc).2.1 rfl]
    exact w.row_id
  · intro c hc
    rw [Model.clear, if_neg fun h => h.2.1 hc]
    exact w.required c hc
  · intro c hc
    rw [Model.clear_apply_of_not_reference fun hr => by
      rw [(Model.reference_column hr).2.2] at hc
      cases hc]
    exact w.dateTime c hc
  · intro c hc
    rw [Model.clear_apply_of_not_reference fun hr => hc (Model.reference_column hr).1]
    exact w.off c hc

namespace Hub

/-- The row under a primary key. -/
def row (h : Hub) (m : Model) (id : String) : Option Row := (h.table m).find id

/-- Two hubs hold the same rows. -/
def SameRows (h h' : Hub) : Prop := ∀ m id, h.row m id = h'.row m id

/-! ### Reads -/

/-- The filter `_add_tenant_filter` puts on a read. -/
def visible (h : Hub) (scope : Scope) (m : Model) (row : Row) : Bool :=
  match scope with
  | .system => true
  | .org org => !(h.enforcing && m.tenantScoped) || row .organizationId = .text org

/-- `session.get`. -/
def get (h : Hub) (scope : Scope) (m : Model) (id : String) : Option Row :=
  (h.row m id).filter (h.visible scope m)

/-- The rows of a filtered `select`, in the order of the table. -/
def select (h : Hub) (scope : Scope) (m : Model) (p : Row → Bool) : List (String × Row) :=
  (h.table m).entries.filter fun e => h.visible scope m e.2 && p e.2

theorem get_eq_some : h.get scope m id = some r ↔
    h.row m id = some r ∧ h.visible scope m r = true := by
  simp [get, Option.filter_eq_some_iff]

theorem mem_select {p : Row → Bool} {e : String × Row} :
    e ∈ h.select scope m p ↔
      h.row m e.1 = some e.2 ∧ h.visible scope m e.2 = true ∧ p e.2 = true := by
  unfold select Hub.row
  rw [List.mem_filter, ← Table.mem_entries, Bool.and_eq_true]

/-! ### Writes -/

/-- A row is stored. -/
def put (h : Hub) (m : Model) (id : String) (row : Row) (w : WellFormed m id row) : Hub :=
  { h with
    table := Function.update h.table m ((h.table m).insert id row)
    wellFormed := by
      intro m' id' row' hrow
      by_cases hm : m' = m
      · subst hm
        rw [Function.update_self] at hrow
        by_cases hid : id' = id
        · subst hid
          rw [Table.find_insert_self] at hrow
          exact Option.some.inj hrow ▸ w
        · rw [Table.find_insert_of_ne hid] at hrow
          exact h.wellFormed m' id' row' hrow
      · rw [Function.update_of_ne hm] at hrow
        exact h.wellFormed m' id' row' hrow }

@[simp] theorem row_put_self (w : WellFormed m id r) : (h.put m id r w).row m id = some r := by
  simp [put, Hub.row]

theorem row_put_of_ne (w : WellFormed m id r) (hne : ¬ (m' = m ∧ id' = id)) :
    (h.put m id r w).row m' id' = h.row m' id' := by
  unfold put Hub.row
  by_cases hm : m' = m
  · subst hm
    have hid : id' ≠ id := fun hid => hne ⟨rfl, hid⟩
    simp [Table.find_insert_of_ne hid]
  · simp [Function.update_of_ne hm]

/-- A row is deleted, and the references to it become `NULL`. -/
def drop (h : Hub) (m : Model) (id : String) : Hub :=
  { h with
    table := fun m' =>
      (Function.update h.table m ((h.table m).erase id) m').map (m'.clear m id)
    wellFormed := by
      intro m' id' row' hmap
      rw [Table.find_map] at hmap
      obtain ⟨row, hrow, rfl⟩ := Option.map_eq_some_iff.1 hmap
      refine WellFormed.clear ?_ m id
      by_cases hm : m' = m
      · subst hm
        rw [Function.update_self] at hrow
        by_cases hid : id' = id
        · subst hid
          rw [Table.find_erase_self] at hrow
          cases hrow
        · rw [Table.find_erase_of_ne hid] at hrow
          exact h.wellFormed m' id' row hrow
      · rw [Function.update_of_ne hm] at hrow
        exact h.wellFormed m' id' row hrow }

@[simp] theorem row_drop_self : (h.drop m id).row m id = none := by
  simp [drop, Hub.row]

theorem row_drop_of_ne (hne : ¬ (m' = m ∧ id' = id)) :
    (h.drop m id).row m' id' = (h.row m' id').map (m'.clear m id) := by
  unfold drop Hub.row
  by_cases hm : m' = m
  · subst hm
    have hid : id' ≠ id := fun hid => hne ⟨rfl, hid⟩
    simp [Table.find_erase_of_ne hid]
  · simp [Function.update_of_ne hm]

/-- Two rows of a model break its unique constraint: `users.email`, or the name of a site or a
group in its organization. -/
def Clash (m : Model) (row row' : Row) : Prop :=
  match m with
  | .device => False
  | .user => row .email = row' .email
  | .site | .group => row .organizationId = row' .organizationId ∧ row .name = row' .name

instance (m : Model) (row row' : Row) : Decidable (Clash m row row') := by
  unfold Clash
  cases m <;> infer_instance

/-- A foreign key holds: it is `NULL`, or points at a row, which may be the row itself. -/
def Resolved (h : Hub) (m : Model) (id : String) (target : Model) (v : Value) : Prop :=
  match v with
  | .null => True
  | .text ref => (h.row target ref).isSome = true ∨ (target = m ∧ ref = id)
  | _ => False

instance (h : Hub) (m : Model) (id : String) (target : Model) (v : Value) :
    Decidable (h.Resolved m id target v) := by
  unfold Resolved
  split <;> infer_instance

/-- The constraints a row has to meet to be stored under a key. -/
structure Accepts (h : Hub) (m : Model) (id : String) (row : Row) : Prop where
  wellFormed : WellFormed m id row
  references : ∀ p ∈ m.references, h.Resolved m id p.2 (row p.1)
  organization : m.tenantScoped = true →
    ∃ org ∈ h.organizations, row .organizationId = .text org.id
  unique : ∀ e ∈ (h.table m).entries, e.1 ≠ id → ¬ Clash m e.2 row

instance (h : Hub) (m : Model) (id : String) (row : Row) : Decidable (h.Accepts m id row) :=
  decidable_of_iff (WellFormed m id row ∧ (∀ p ∈ m.references, h.Resolved m id p.2 (row p.1)) ∧
      (m.tenantScoped = true → ∃ org ∈ h.organizations, row .organizationId = .text org.id) ∧
        ∀ e ∈ (h.table m).entries, e.1 ≠ id → ¬ Clash m e.2 row)
    ⟨fun ⟨h₁, h₂, h₃, h₄⟩ => ⟨h₁, h₂, h₃, h₄⟩, fun ⟨h₁, h₂, h₃, h₄⟩ => ⟨h₁, h₂, h₃, h₄⟩⟩

/-- `_guard_one`, of a row of a tenant-scoped model: it is stamped with the scope's organization
where it has none, and in enforce mode refused where it has another. -/
def guardWrite (h : Hub) (scope : Scope) (m : Model) (row : Row) : Except SyncError Row :=
  match scope with
  | .system => .ok row
  | .org org =>
    if !m.tenantScoped then .ok row
    else if row .organizationId = .null then
      .ok (Function.update row .organizationId (.text org))
    else if row .organizationId = .text org then .ok row
    else if h.enforcing then .error (.crossOrgWrite (row .organizationId) org)
    else .ok row

/-- The flush of an inserted or changed row. -/
def flushRow (h : Hub) (scope : Scope) (m : Model) (id : String) (row : Row) :
    Except SyncError Hub :=
  match h.guardWrite scope m row with
  | .error e => .error e
  | .ok row => if w : h.Accepts m id row then .ok (h.put m id row w.wellFormed) else .error .integrity

/-- The flush of an inserted row: its primary key is new. -/
def flushInsert (h : Hub) (scope : Scope) (m : Model) (id : String) (row : Row) :
    Except SyncError Hub :=
  if (h.row m id).isSome then .error .integrity else h.flushRow scope m id row

/-- The deletion breaks a constraint: `SET NULL` on a column that is `NOT NULL`. -/
def Blocked (h : Hub) (m : Model) (id : String) : Prop :=
  ∃ m' ∈ Model.all, ∃ e ∈ (h.table m').entries, ∃ p ∈ m'.references,
    p.2 = m ∧ p.1 ∈ m'.required ∧ e.2 p.1 = .text id

instance (h : Hub) (m : Model) (id : String) : Decidable (h.Blocked m id) :=
  inferInstanceAs (Decidable (∃ m' ∈ Model.all, _))

/-- The flush of a deleted row. -/
def flushDelete (h : Hub) (m : Model) (id : String) : Except SyncError Hub :=
  if h.Blocked m id then .error .integrity else .ok (h.drop m id)

/-- `is_tombstoned`. -/
def isTombstoned (h : Hub) (entityId : String) : Bool :=
  h.tombstones.any (·.entityId = entityId)

/-- `add_tombstone`. -/
def addTombstone (h : Hub) (now : Time) (entityId entityType : String) (fromOutboxSeq : Nat) : Hub :=
  if h.isTombstoned entityId then h
  else { h with tombstones := h.tombstones ++ [⟨entityId, entityType, now, fromOutboxSeq⟩] }

end Hub

end RebooterHub.Sync
