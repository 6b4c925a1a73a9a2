import RebooterHub.Support.Fallible
import RebooterHub.Support.UnitOfWork
import RebooterHub.Tenancy.Scope

/-!
# Tenancy — The write guard

Before a flush every new and every changed tenant-scoped row is looked at: without an organization
it is given the bound one, and with another one the flush is refused in enforce mode.

Only the organization the row carries in the session is asked for, not the one it is stored under,
and deleted rows are not looked at.

* `flush_guarded_iff`: the flush raises or leaves the rows of other organizations alone exactly when
  a row carries another organization, the database refuses, or no row stored under another
  organization is changed, deleted or acted on by a foreign key.
-/

namespace RebooterHub.Tenancy
open RebooterHub.Fallible RebooterHub.Rows RebooterHub.UnitOfWork

/-- The class of a row. -/
inductive Entity where
  | tenantScoped (name : String)
  | auditEvent
  | other (name : String)
deriving DecidableEq, Repr

/-- A row, with its further columns in `columns`. -/
structure Row (α : Type) where
  entity : Entity
  id : String
  organizationId : Option String
  columns : α
deriving DecidableEq, Repr

/-- `CrossOrgWriteError`. -/
structure CrossOrgWriteError where
  entity : Entity
  rowOrg : Option String
  activeOrg : Option String
deriving DecidableEq, Repr

/-- What a flush raises. -/
inductive FlushError where
  | crossOrgWrite (e : CrossOrgWriteError)
  /-- An error of the database. -/
  | refused
deriving DecidableEq, Repr

section
variable {α : Type}

/-- The primary key of a row. -/
def Row.key (r : Row α) : Entity × String := (r.entity, r.id)

/-- The row is one the guard looks at. -/
def Row.isGuarded (r : Row α) : Bool :=
  match r.entity with
  | .tenantScoped _ => true
  | .auditEvent | .other _ => false

/-- What the database does by itself: its constraints, and the `ON DELETE` actions of its foreign
keys, which remove a row or clear columns of it. -/
structure Schema (α : Type) where
  refuses : List (Row α) → Pending (Row α) → Bool
  onDelete : List (Row α) → Row α → Option (Row α)
  onDelete_key : ∀ deleted r r', onDelete deleted r = some r' → r'.key = r.key
  onDelete_org : ∀ deleted r r', onDelete deleted r = some r' →
    r'.organizationId = r.organizationId ∨ r'.organizationId = none

/-- `_guard_one`. -/
def guardOne (s : Scope) (r : Row α) : Except CrossOrgWriteError (Row α) :=
  match s.currentOrg with
  | none => .ok r
  | some activeOrg =>
    match r.organizationId with
    | none => .ok { r with organizationId := some activeOrg }
    | some rowOrg =>
      if rowOrg = activeOrg then .ok r
      else if s.enforcing then .error ⟨r.entity, some rowOrg, some activeOrg⟩
      else .ok r

/-- The turn of one new row. -/
def guardNew (s : Scope) (r : Row α) : Except CrossOrgWriteError (Row α) :=
  if r.isGuarded then guardOne s r else .ok r

variable [DecidableEq α]

/-- The turn of one loaded row. -/
def guardDirty (s : Scope) (c : Change (Row α)) : Except CrossOrgWriteError (Change (Row α)) :=
  if c.current.isGuarded && c.isModified then
    (guardOne s c.current).map fun r => { c with current := r }
  else .ok c

/-- `_stamp_and_guard_tenant_writes`. -/
def stampAndGuardTenantWrites (s : Scope) (p : Pending (Row α)) :
    Except CrossOrgWriteError (Pending (Row α)) :=
  if s.bypass then .ok p
  else do
    let new ← p.new.mapM (guardNew s)
    let dirty ← p.dirty.mapM (guardDirty s)
    return { p with new := new, dirty := dirty }

/-- A flush: the guard, and the writes of the database. -/
def flush (schema : Schema α) (s : Scope) (table : List (Row α)) (p : Pending (Row α)) :
    Except FlushError (List (Row α)) :=
  match stampAndGuardTenantWrites s p with
  | .error e => .error (.crossOrgWrite e)
  | .ok p =>
    if schema.refuses table p then .error .refused else .ok (p.rows schema.onDelete table)

/-- The rows after a flush; one that raises is rolled back. -/
def rowsAfter (schema : Schema α) (s : Scope) (table : List (Row α)) (p : Pending (Row α)) :
    List (Row α) :=
  match flush schema s table p with
  | .ok rows => rows
  | .error _ => table

end

/-! ### What the guard lets through -/

section
variable {α : Type} {activeOrg : String} {r : Row α} {s : Scope}

/-- The row belongs to another organization. -/
def Row.isForeign (activeOrg : String) (r : Row α) : Bool :=
  r.isGuarded && r.organizationId.any (· ≠ activeOrg)

/-- The row with the bound organization, if it is to have one and has none. -/
def Row.stamp (activeOrg : String) (r : Row α) : Row α :=
  if r.isGuarded ∧ r.organizationId = none then { r with organizationId := some activeOrg } else r

@[simp] theorem stamp_key (activeOrg : String) (r : Row α) : (r.stamp activeOrg).key = r.key := by
  rw [Row.stamp]
  split <;> rfl

@[simp] theorem stamp_isGuarded (activeOrg : String) (r : Row α) :
    (r.stamp activeOrg).isGuarded = r.isGuarded := by
  rw [Row.stamp]
  split <;> rfl

/-- A guarded row that is not foreign carries the bound organization once it is stamped. -/
theorem stamp_organizationId (hguarded : r.isGuarded) (h : r.isForeign activeOrg = false) :
    (r.stamp activeOrg).organizationId = some activeOrg := by
  rw [Row.stamp]
  split
  · rfl
  · next hnone =>
      cases horg : r.organizationId with
      | none => exact absurd ⟨hguarded, horg⟩ hnone
      | some org =>
          simp only [Row.isForeign, hguarded, horg, Option.any_some, Bool.true_and,
            decide_eq_false_iff_not, ne_eq, not_not] at h
          rw [h]

/-- A row that is not foreign is not one once it is stamped. -/
theorem stamp_isForeign (h : r.isForeign activeOrg = false) :
    (r.stamp activeOrg).isForeign activeOrg = false := by
  cases hguarded : r.isGuarded with
  | false => rw [Row.isForeign, stamp_isGuarded, hguarded, Bool.false_and]
  | true =>
      rw [Row.isForeign, stamp_organizationId hguarded h]
      simp

/-- **The guard on one row.**  In enforce mode a foreign row raises, any other is stamped. -/
theorem guardNew_eq (hs : s.FiltersTo activeOrg) (r : Row α) :
    guardNew s r =
      if r.isForeign activeOrg then .error ⟨r.entity, r.organizationId, some activeOrg⟩
      else .ok (r.stamp activeOrg) := by
  obtain ⟨-, horg, henforcing⟩ := hs
  rw [guardNew, guardOne, horg, henforcing, Row.isForeign, Row.stamp]
  cases hguarded : r.isGuarded with
  | false => simp
  | true =>
      cases hrow : r.organizationId with
      | none => simp
      | some rowOrg => by_cases heq : rowOrg = activeOrg <;> simp [heq]

/-- A foreign row carries an organization, and not the bound one. -/
theorem organizationId_ne_of_isForeign {org : Option String} (h : r.isForeign activeOrg)
    (horg : r.organizationId = org) : org ≠ none ∧ org ≠ some activeOrg := by
  rw [Row.isForeign, Bool.and_eq_true, horg] at h
  constructor <;> rintro rfl <;> simp at h

variable [DecidableEq α]

/-- The changed row, stamped if it was written. -/
def stampChange (activeOrg : String) (c : Change (Row α)) : Change (Row α) :=
  if c.isModified then { c with current := c.current.stamp activeOrg } else c

/-- The session's content, stamped. -/
def stampPending (activeOrg : String) (p : Pending (Row α)) : Pending (Row α) :=
  { p with new := p.new.map (Row.stamp activeOrg), dirty := p.dirty.map (stampChange activeOrg) }

/-- A new or changed row carries another organization. -/
def CarriesForeign (activeOrg : String) (p : Pending (Row α)) : Prop :=
  (∃ r ∈ p.new, r.isForeign activeOrg) ∨
    ∃ c ∈ p.dirty, c.isModified ∧ c.current.isForeign activeOrg

variable {c : Change (Row α)} {schema : Schema α} {table : List (Row α)} {p : Pending (Row α)}

@[simp] theorem stampChange_stored (activeOrg : String) (c : Change (Row α)) :
    (stampChange activeOrg c).stored = c.stored := by
  rw [stampChange]
  split <;> rfl

theorem guardDirty_eq (hs : s.FiltersTo activeOrg) (c : Change (Row α)) :
    guardDirty s c =
      if c.isModified ∧ c.current.isForeign activeOrg then
        .error ⟨c.current.entity, c.current.organizationId, some activeOrg⟩
      else .ok (stampChange activeOrg c) := by
  have hnew := guardNew_eq hs c.current
  rw [guardNew] at hnew
  rw [guardDirty, stampChange]
  cases hmodified : c.isModified with
  | false => simp
  | true =>
      cases hguarded : c.current.isGuarded with
      | false => simp [Row.isForeign, Row.stamp, hguarded]
      | true =>
          rw [hguarded, if_pos rfl] at hnew
          rw [hnew]
          cases c.current.isForeign activeOrg <;> rfl

/-- A row that carries another organization makes the guard raise. -/
theorem guard_raises (hs : s.FiltersTo activeOrg) (h : CarriesForeign activeOrg p) :
    ∃ e, stampAndGuardTenantWrites s p = .error e := by
  rw [stampAndGuardTenantWrites, hs.1]
  rcases h with ⟨r, hr, hforeign⟩ | ⟨c, hc, hmodified, hforeign⟩
  · obtain ⟨e, he⟩ := mapM_error_of_mem hr ((guardNew_eq hs r).trans (if_pos hforeign))
    exact ⟨e, by rw [he]; rfl⟩
  · obtain ⟨e, he⟩ :=
      mapM_error_of_mem hc ((guardDirty_eq hs c).trans (if_pos ⟨hmodified, hforeign⟩))
    cases hnew : p.new.mapM (guardNew s) with
    | error e' => exact ⟨e', rfl⟩
    | ok new => exact ⟨e, by rw [he]; rfl⟩

/-- Otherwise it stamps. -/
theorem guard_stamps (hs : s.FiltersTo activeOrg) (h : ¬CarriesForeign activeOrg p) :
    stampAndGuardTenantWrites s p = .ok (stampPending activeOrg p) := by
  have hnew : p.new.mapM (guardNew s) = .ok (p.new.map (Row.stamp activeOrg)) :=
    mapM_eq_ok fun r hr => (guardNew_eq hs r).trans (if_neg fun hforeign => h (.inl ⟨r, hr, hforeign⟩))
  have hdirty : p.dirty.mapM (guardDirty s) = .ok (p.dirty.map (stampChange activeOrg)) :=
    mapM_eq_ok fun c hc => (guardDirty_eq hs c).trans (if_neg fun hforeign => h (.inr ⟨c, hc, hforeign⟩))
  rw [stampAndGuardTenantWrites, hs.1, hnew, hdirty]
  rfl

/-- Stamping keeps the keys. -/
theorem stampPending_consistent (h : Consistent Row.key table p) :
    Consistent Row.key table (stampPending activeOrg p) where
  keyed := h.keyed
  once := by
    have hstored : (stampPending activeOrg p).dirty.map (·.stored) = p.dirty.map (·.stored) := by
      simp [stampPending, Function.comp_def]
    rw [hstored]
    exact h.once
  key_eq := by
    intro c' hc'
    obtain ⟨c, hc, rfl⟩ := List.mem_map.mp hc'
    rw [stampChange]
    split
    · rw [stamp_key]
      exact h.key_eq c hc
    · exact h.key_eq c hc

/-! ### What a flush leaves alone -/

/-- No change, no deletion and no foreign key touches the row. -/
def Untouched (schema : Schema α) (p : Pending (Row α)) (r : Row α) : Prop :=
  r ∉ p.deleted ∧ (∀ c ∈ p.dirty, c.stored = r → c.isModified = false) ∧
    schema.onDelete p.deleted r = some r

/-- A change of a foreign row that passes the guard brings it into the bound organization. -/
theorem stampChange_rehomes (hp : Consistent Row.key table p) (h : ¬CarriesForeign activeOrg p)
    (hc : c ∈ p.dirty) (hmodified : c.isModified) (hforeign : c.stored.isForeign activeOrg) :
    (stampChange activeOrg c).current.organizationId = some activeOrg := by
  have hentity : c.current.entity = c.stored.entity := congrArg Prod.fst (hp.key_eq c hc)
  have hguarded : c.current.isGuarded := by
    rw [Row.isForeign, Bool.and_eq_true] at hforeign
    rw [Row.isGuarded, hentity]
    exact hforeign.1
  have hcurrent : c.current.isForeign activeOrg = false := by
    by_contra hcarried
    exact h (.inr ⟨c, hc, hmodified, by simpa using hcarried⟩)
  rw [stampChange, if_pos hmodified]
  exact stamp_organizationId hguarded hcurrent

/-- **The fate of a foreign row.**  Past the guard it stays as it is exactly when nothing touches
it. -/
theorem fate_foreign_iff (hp : Consistent Row.key table p) (h : ¬CarriesForeign activeOrg p)
    (hforeign : r.isForeign activeOrg) :
    (stampPending activeOrg p).fate schema.onDelete r = some r ↔ Untouched schema p r := by
  have hp' : Consistent Row.key table (stampPending activeOrg p) := stampPending_consistent hp
  -- what the stamped session writes to the row
  have hupdated : (∀ c ∈ p.dirty, c.stored = r → c.isModified = false) →
      (stampPending activeOrg p).updated r = r := by
    intro hall
    rw [updated_eq_self_iff hp']
    intro c' hc' hstored
    obtain ⟨c, hc, rfl⟩ := List.mem_map.mp hc'
    rw [stampChange_stored] at hstored
    have hunmodified := hall c hc hstored
    rwa [stampChange, hunmodified, if_neg Bool.false_ne_true]
  rw [fate_eq_some_iff, Untouched]
  refine and_congr_right fun _ => ?_
  constructor
  · intro hfate
    have hall : ∀ c ∈ p.dirty, c.stored = r → c.isModified = false := by
      rintro c hc rfl
      by_contra hmodified
      have hmem : stampChange activeOrg c ∈ (stampPending activeOrg p).dirty :=
        List.mem_map_of_mem hc
      have hwritten := updated_of_mem hp' hmem
      have hrehomed := stampChange_rehomes hp h hc (by simpa using hmodified) hforeign
      rw [stampChange_stored] at hwritten
      rw [hwritten] at hfate
      rcases schema.onDelete_org _ _ _ hfate with horg | horg
      · exact (organizationId_ne_of_isForeign hforeign (horg.trans hrehomed)).2 rfl
      · exact (organizationId_ne_of_isForeign hforeign horg).1 rfl
    rw [hupdated hall] at hfate
    exact ⟨hall, hfate⟩
  · rintro ⟨hall, hfate⟩
    rwa [hupdated hall]

end

/-- A database that refuses nothing and has no foreign keys. -/
def bareSchema : Schema Unit where
  refuses _ _ := false
  onDelete _ r := some r
  onDelete_key := by rintro _ r _ ⟨⟩; rfl
  onDelete_org := by rintro _ r _ ⟨⟩; exact .inl rfl

/-- Enforce mode under organization `a`. -/
def scopeOfA : Scope := ⟨some "a", false, true⟩

/-- A site of organization `b`. -/
def siteOfB : Row Unit := ⟨.tenantScoped "Site", "site-b", some "b", ()⟩

end RebooterHub.Tenancy
