import RebooterHub.Support.LastWriter
import RebooterHub.Sync.Emission

/-!
# Sync — Snapshots

What the applier does with the full snapshot of a row: where the row's references resolve and no
other row stands in its way, it writes a last-writer-wins register, the cell of the row's id.

`Resolves` collects what the receiving hub has to offer; `applyOutboxEvent_snapshot` is the
applier's specification there, and `snapshots_order_independent` what follows for a set of
snapshots of one entity in any order, with any repetitions.
-/

namespace RebooterHub.Sync

/-- The row a payload is a snapshot of. -/
def snapshotRow (e : OutboxEvent) : Row := fun c => (e.payload c).getD .null

/-- A create or update event with a full snapshot of the row `id`. -/
structure IsSnapshot (m : Model) (id : String) (e : OutboxEvent) : Prop where
  entityType : e.entityType = m.text
  entityId : e.entityId = id
  deletes : deletes e = none
  payload : e.payload = entityToDict m (snapshotRow e)
  wellFormed : WellFormed m id (snapshotRow e)

/-- The row under the organization of the event's claim, which a tenant-scoped row is pinned to. -/
def pinned (scope : Scope) (m : Model) (row : Row) : Row :=
  match scope with
  | .system => row
  | .org org =>
    if m.tenantScoped then Function.update row .organizationId (.text org) else row

/-- A hub has the rows of another but for one cell. -/
structure SameElsewhere (m : Model) (id : String) (h h' : Hub) : Prop where
  organizations : h'.organizations = h.organizations
  enforcing : h'.enforcing = h.enforcing
  tombstones : h'.tombstones = h.tombstones
  row : ∀ m' id', ¬ (m' = m ∧ id' = id) → h'.row m' id' = h.row m' id'

/-- The snapshot resolves on the hub, whatever the cell of its id holds: the claim's organization
and the site exist, the constraints are met, and no other row has its natural key. -/
structure Resolves (h : Hub) (m : Model) (id : String) (e : OutboxEvent) (scope : Scope) : Prop where
  scope_eq : eventScope h e = .ok scope
  site : m = .device ∨ m = .group → ∀ v, snapshotRow e .siteId = v → v.truthy = true →
    ∃ site, v = .text site ∧ (h.get scope .site site).isSome = true
  accepts : h.Accepts m id (pinned scope m (snapshotRow e))
  natural : ∀ p ∈ naturalMatches h scope m (entityToDict m (pinned scope m (snapshotRow e))),
    p.1 = id

variable {h h' : Hub} {m : Model} {id : String} {e : OutboxEvent} {scope : Scope} {row : Row}
  {env : ApplyEnv}

/-! ### The steps of the applier on a snapshot -/

theorem entityToDict_of_mem {c : Column} (hc : c ∈ m.columns) :
    entityToDict m row c = some (row c) := if_pos hc

theorem snapshotRow_eq (w : WellFormed m id row) (hp : e.payload = entityToDict m row) :
    snapshotRow e = row := by
  funext c
  unfold snapshotRow
  rw [hp]
  by_cases hc : c ∈ m.columns
  · rw [entityToDict_of_mem hc]
    rfl
  · rw [w.off c hc, entityToDict, if_neg hc]
    rfl

/-- An event that carries a stored row is a snapshot. -/
theorem isSnapshot_of_payload (w : WellFormed m id row) (hp : e.payload = entityToDict m row)
    (htype : e.entityType = m.text) (hid : e.entityId = id) (hd : deletes e = none) :
    IsSnapshot m id e := by
  have hrow := snapshotRow_eq w hp
  exact ⟨htype, hid, hd, by rw [hrow, hp], by rw [hrow]; exact w⟩

theorem columnsOf_entityToDict (w : WellFormed m id row) :
    columnsOf m (entityToDict m row) = entityToDict m row := by
  funext c
  unfold columnsOf entityToDict
  by_cases hc : c ∈ m.columns
  · rw [if_neg (not_not_intro hc), if_pos hc, Option.map_some]
    cases hd : c.isDateTime with
    | false => rfl
    | true =>
      rcases w.dateTime c hd with hnull | ⟨t, ht⟩
      · simp [hnull, Value.coerceDatetime]
      · simp [ht, Value.coerceDatetime]
  · rw [if_pos hc, if_neg hc]

theorem Model.updatedAt_mem (m : Model) : .updatedAt ∈ m.columns := by
  cases m <;> decide

theorem Model.organizationId_mem (hm : m.tenantScoped = true) : .organizationId ∈ m.columns := by
  cases m with
  | site => decide
  | group => decide
  | device => cases hm
  | user => cases hm

theorem pinOrganization_entityToDict :
    pinOrganization scope m (entityToDict m row) = entityToDict m (pinned scope m row) := by
  unfold pinOrganization pinned
  cases scope with
  | system => rfl
  | org org =>
    dsimp only
    cases hm : m.tenantScoped with
    | false => rfl
    | true =>
      funext c
      by_cases hc : c = .organizationId
      · subst hc
        simp [entityToDict, Model.organizationId_mem hm]
      · simp [entityToDict, Function.update_of_ne hc]

theorem WellFormed.pinned (w : WellFormed m id row) (scope : Scope) :
    WellFormed m id (pinned scope m row) := by
  unfold Sync.pinned
  cases scope with
  | system => exact w
  | org org =>
    dsimp only
    cases hm : m.tenantScoped with
    | false => exact w
    | true =>
      refine ⟨?_, ?_, ?_, ?_⟩
      · exact w.row_id
      · intro c hc
        by_cases hc' : c = .organizationId
        · subst hc'
          simp
        · simpa [Function.update_of_ne hc'] using w.required c hc
      · intro c hc
        have hc' : c ≠ .organizationId := by
          rintro rfl
          cases hc
        simpa [Function.update_of_ne hc'] using w.dateTime c hc
      · intro c hc
        have hc' : c ≠ .organizationId := by
          rintro rfl
          exact hc (Model.organizationId_mem hm)
        simpa [Function.update_of_ne hc'] using w.off c hc

@[simp] theorem pinned_apply_of_ne {c : Column} (hc : c ≠ .organizationId) :
    pinned scope m row c = row c := by
  unfold pinned
  cases scope with
  | system => rfl
  | org org =>
    dsimp only
    split
    · exact Function.update_of_ne hc ..
    · rfl

@[simp] theorem pinned_stamp : (pinned scope m row).stamp = row.stamp := by
  unfold Row.stamp
  rw [pinned_apply_of_ne (by decide)]

/-- A column that may be `NULL`, and is not one of JSON, has no default. -/
theorem Model.default_of_nullable (now : Time) {c : Column} (hc : c ∈ m.columns)
    (hr : c ∉ m.required) (hj : c.isJson = false) : m.default now c = .null := by
  cases m <;> cases c <;> first
    | rfl
    | exact absurd (by decide) hr
    | exact absurd hj (by decide)
    | exact absurd hc (by decide)

/-- Inserting a snapshot stores its row. -/
theorem insertedRow_entityToDict (w : WellFormed m id row) (now : Time) (newId : String) :
    insertedRow m now newId (entityToDict m row) = row := by
  funext c
  unfold insertedRow
  by_cases hc : c ∈ m.columns
  · rw [if_neg (not_not_intro hc), entityToDict_of_mem hc]
    dsimp only
    split
    · case _ hnull =>
      have hr : c ∉ m.required := fun hr => w.required c hr hnull.1
      have hid : c ≠ .id := by
        rintro rfl
        rw [w.row_id] at hnull
        cases hnull.1
      rw [if_neg hid, Model.default_of_nullable now hc hr hnull.2, hnull.1]
    · rfl
  · rw [if_pos hc, w.off c hc]

/-- Setting the columns of a snapshot stores its row. -/
theorem updatedRow_entityToDict {stored : Row} (w : WellFormed m id row)
    (ws : WellFormed m id stored) : updatedRow stored (entityToDict m row) = row := by
  funext c
  unfold updatedRow
  by_cases hid : c = .id
  · subst hid
    rw [if_pos rfl, w.row_id, ws.row_id]
  rw [if_neg hid]
  unfold entityToDict
  by_cases hc : c ∈ m.columns
  · rw [if_pos hc]
    rfl
  · rw [if_neg hc, w.off c hc]
    exact ws.off c hc

theorem guardWrite_pinned : h.guardWrite scope m (pinned scope m row) = .ok (pinned scope m row) := by
  unfold Hub.guardWrite
  cases scope with
  | system => rfl
  | org org =>
    dsimp only
    cases hm : m.tenantScoped with
    | false => rfl
    | true => simp [pinned, hm]

theorem flushRow_pinned (ha : h.Accepts m id (pinned scope m row)) :
    h.flushRow scope m id (pinned scope m row) =
      .ok (h.put m id (pinned scope m row) ha.wellFormed) := by
  unfold Hub.flushRow
  rw [guardWrite_pinned]
  exact dif_pos ha

theorem incomingUpdated_snapshot (hs : IsSnapshot m id e) :
    incomingUpdated e = .ok (some (snapshotRow e).stamp) := by
  unfold incomingUpdated
  rw [hs.payload, entityToDict_of_mem m.updatedAt_mem, hs.wellFormed.updatedAt]
  rfl

theorem remapSite_snapshot (hs : IsSnapshot m id e) (hr : Resolves h m id e scope) :
    remapSite env h scope m (entityToDict m (pinned scope m (snapshotRow e))) =
      .ok (h, entityToDict m (pinned scope m (snapshotRow e))) := by
  unfold remapSite
  split
  · case _ hc =>
    obtain ⟨hm, htruthy⟩ := hc
    have hmem : Column.siteId ∈ m.columns := by
      rcases hm with rfl | rfl <;> decide
    rw [entityToDict_of_mem hmem, pinned_apply_of_ne (by decide)] at htruthy ⊢
    obtain ⟨site, hsite, hget⟩ := hr.site hm _ rfl htruthy
    rw [hsite]
    obtain ⟨row, hrow⟩ := Option.isSome_iff_exists.1 hget
    simp [hrow]
  · rfl

theorem findExisting_snapshot (hs : IsSnapshot m id e) (hr : Resolves h m id e scope)
    (hvisible : ∀ stored, h.row m id = some stored → h.visible scope m stored = true) :
    findExisting h scope m e.entityId (entityToDict m (pinned scope m (snapshotRow e))) =
      (h.row m id).map fun stored => (id, stored) := by
  unfold findExisting
  rw [hs.entityId]
  cases hstored : h.row m id with
  | some stored =>
    rw [Hub.get_eq_some.2 ⟨hstored, hvisible stored hstored⟩]
    rfl
  | none =>
    rw [show h.get scope m id = none by simp [Hub.get, hstored]]
    cases hmatches : naturalMatches h scope m
        (entityToDict m (pinned scope m (snapshotRow e))) with
    | nil => rfl
    | cons p ps =>
      -- a match would be the row `id`, which there is not
      have hp : p ∈ naturalMatches h scope m
          (entityToDict m (pinned scope m (snapshotRow e))) := by
        rw [hmatches]
        exact List.mem_cons_self
      have hid := hr.natural p hp
      unfold naturalMatches at hp
      split at hp
      · cases hp
      · rw [Hub.mem_select, hid, hstored] at hp
        cases hp.1

theorem applyOutboxEvent_of_resolves (env : ApplyEnv) (hs : IsSnapshot m id e)
    (hr : Resolves h m id e scope)
    (hvisible : ∀ stored, h.row m id = some stored → h.visible scope m stored = true)
    (ht : h.isTombstoned id = false) :
    applyOutboxEvent env h e = match h.row m id with
      | none => (h.insert scope m env.now env.newId
          (entityToDict m (pinned scope m (snapshotRow e)))).map fun h => (h, true)
      | some stored =>
        if (snapshotRow e).stamp ≤ stored.stamp then .ok (h, false)
        else (h.flushRow scope m id (pinned scope m (snapshotRow e))).map fun h => (h, true) := by
  have w := hs.wellFormed.pinned scope
  have hall : (m.columns.all fun c =>
      (columnsOf m (entityToDict m (snapshotRow e)) c).isNone) = false := by
    rw [columnsOf_entityToDict hs.wellFormed, List.all_eq_false]
    exact ⟨.id, m.id_mem, by simp [entityToDict_of_mem m.id_mem]⟩
  unfold applyOutboxEvent
  rw [hr.scope_eq]
  dsimp only
  unfold applyScoped
  rw [hs.entityId, ht, if_neg Bool.false_ne_true, hs.entityType, Model.ofText_text]
  dsimp only
  rw [hs.deletes]
  dsimp only
  unfold applyUpsert
  rw [hs.payload, if_neg (by rw [hall]; exact Bool.false_ne_true),
    columnsOf_entityToDict hs.wellFormed, pinOrganization_entityToDict, remapSite_snapshot hs hr]
  dsimp only
  rw [incomingUpdated_snapshot hs]
  dsimp only
  rw [findExisting_snapshot hs hr hvisible]
  cases hstored : h.row m id with
  | none =>
    dsimp only [Option.map_none]
    rw [withId, entityToDict_of_mem m.id_mem, Option.isSome_some, if_pos rfl]
  | some stored =>
    have ws := h.wellFormed m id stored hstored
    dsimp only [Option.map_some]
    rw [ws.updatedAt, updatedRow_entityToDict w ws]
    simp [Value.asUtc, isStale]

/-- A stale snapshot is skipped. -/
theorem applyOutboxEvent_stale (env : ApplyEnv) (hs : IsSnapshot m id e)
    (hr : Resolves h m id e scope)
    (hvisible : ∀ stored, h.row m id = some stored → h.visible scope m stored = true)
    (ht : h.isTombstoned id = false)
    (hc : LastWriter.Covers Row.stamp (h.row m id) (snapshotRow e)) :
    applyOutboxEvent env h e = .ok (h, false) := by
  obtain ⟨stored, hstored, hle⟩ := hc
  rw [applyOutboxEvent_of_resolves env hs hr hvisible ht, hstored]
  exact if_pos hle

/-- A newer snapshot is stored. -/
theorem applyOutboxEvent_newer (env : ApplyEnv) (hs : IsSnapshot m id e)
    (hr : Resolves h m id e scope)
    (hvisible : ∀ stored, h.row m id = some stored → h.visible scope m stored = true)
    (ht : h.isTombstoned id = false)
    (hc : ¬ LastWriter.Covers Row.stamp (h.row m id) (snapshotRow e)) :
    applyOutboxEvent env h e =
      .ok (h.put m id (pinned scope m (snapshotRow e)) hr.accepts.wellFormed, true) := by
  rw [applyOutboxEvent_of_resolves env hs hr hvisible ht]
  cases hstored : h.row m id with
  | none =>
    dsimp only
    unfold Hub.insert
    rw [insertedRow_entityToDict hr.accepts.wellFormed]
    dsimp only
    rw [hr.accepts.wellFormed.row_id]
    dsimp only
    unfold Hub.flushInsert
    rw [hstored, if_neg (by simp), flushRow_pinned hr.accepts]
    rfl
  | some stored =>
    dsimp only
    rw [if_neg fun hle => hc ⟨stored, hstored, hle⟩, flushRow_pinned hr.accepts]
    rfl

/-! ### Cells -/

theorem SameElsewhere.refl (m : Model) (id : String) (h : Hub) : SameElsewhere m id h h :=
  ⟨rfl, rfl, rfl, fun _ _ _ => rfl⟩

theorem SameElsewhere.trans {h'' : Hub} (h₁ : SameElsewhere m id h h')
    (h₂ : SameElsewhere m id h' h'') : SameElsewhere m id h h'' :=
  ⟨h₂.organizations.trans h₁.organizations, h₂.enforcing.trans h₁.enforcing,
    h₂.tombstones.trans h₁.tombstones,
    fun m' id' hne => (h₂.row m' id' hne).trans (h₁.row m' id' hne)⟩

theorem sameElsewhere_put (w : WellFormed m id row) : SameElsewhere m id h (h.put m id row w) :=
  ⟨rfl, rfl, rfl, fun _ _ hne => Hub.row_put_of_ne w hne⟩

theorem SameElsewhere.visible (hs : SameElsewhere m id h h') (m' : Model) (row : Row) :
    h'.visible scope m' row = h.visible scope m' row := by
  unfold Hub.visible
  rw [hs.enforcing]

theorem SameElsewhere.isTombstoned (hs : SameElsewhere m id h h') (entityId : String) :
    h'.isTombstoned entityId = h.isTombstoned entityId := by
  unfold Hub.isTombstoned
  rw [hs.tombstones]

theorem SameElsewhere.accepts (hs : SameElsewhere m id h h') (ha : h.Accepts m id row) :
    h'.Accepts m id row := by
  refine ⟨ha.wellFormed, ?_, ?_, ?_⟩
  · intro p hp
    have hresolved := ha.references p hp
    unfold Hub.Resolved at hresolved ⊢
    split at hresolved
    · trivial
    · case _ ref heq =>
      by_cases hself : p.2 = m ∧ ref = id
      · exact .inr hself
      · rw [hs.row _ _ hself]
        exact hresolved
    · exact hresolved
  · rw [hs.organizations]
    exact ha.organization
  · intro p hp hne
    refine ha.unique p ?_ hne
    rw [Table.mem_entries] at hp ⊢
    exact (hs.row m p.1 fun hself => hne hself.2).symm.trans hp

/-- Whether a snapshot resolves is no matter of the cell it is written to. -/
theorem Resolves.congr (hr : Resolves h m id e scope) (hs : SameElsewhere m id h h') :
    Resolves h' m id e scope := by
  refine ⟨?_, ?_, hs.accepts hr.accepts, ?_⟩
  · have := hr.scope_eq
    unfold eventScope at this ⊢
    rwa [hs.organizations]
  · intro hm v hv htruthy
    obtain ⟨site, rfl, hget⟩ := hr.site hm v hv htruthy
    refine ⟨site, rfl, ?_⟩
    have hne : ¬ (Model.site = m ∧ site = id) := by
      rintro ⟨rfl, -⟩
      rcases hm with hm | hm <;> cases hm
    unfold Hub.get at hget ⊢
    have hfilter : h'.visible scope .site = h.visible scope .site :=
      funext fun row => hs.visible .site row
    rw [hs.row _ _ hne, hfilter]
    exact hget
  · intro p hp
    by_contra hne
    refine hne (hr.natural p ?_)
    unfold naturalMatches at hp ⊢
    split at hp
    · cases hp
    · rw [Hub.mem_select] at hp ⊢
      obtain ⟨hrow, hvisible, hp⟩ := hp
      exact ⟨(hs.row m p.1 fun hself => hne hself.2).symm.trans hrow,
        (hs.visible m p.2).symm.trans hvisible, hp⟩

/-- **A resolved snapshot is a write to a last-writer-wins register**, the cell of its id. -/
theorem applied_snapshot (env : ApplyEnv) (hs : IsSnapshot m id e) (hr : Resolves h m id e scope)
    (hvisible : ∀ stored, h.row m id = some stored → h.visible scope m stored = true)
    (ht : h.isTombstoned id = false) :
    SameElsewhere m id h (applied env h e) ∧
      (applied env h e).row m id =
        LastWriter.write Row.stamp (h.row m id) (pinned scope m (snapshotRow e)) := by
  unfold applied
  by_cases hc : LastWriter.Covers Row.stamp (h.row m id) (snapshotRow e)
  · rw [applyOutboxEvent_stale env hs hr hvisible ht hc]
    refine ⟨SameElsewhere.refl m id h, (LastWriter.write_of_covers ?_).symm⟩
    simpa [LastWriter.Covers] using hc
  · rw [applyOutboxEvent_newer env hs hr hvisible ht hc]
    refine ⟨sameElsewhere_put _, (Hub.row_put_self _).trans (LastWriter.write_of_not_covers ?_).symm⟩
    simpa [LastWriter.Covers] using hc

/-! ### Order independence -/

/-- The scope of an event's claim. -/
def claimScope (e : OutboxEvent) : Scope :=
  match eventOrgId e with
  | none => .system
  | some org => .org org

/-- The row an event writes. -/
def eventRow (m : Model) (e : OutboxEvent) : Row := pinned (claimScope e) m (snapshotRow e)

/-- Every event can see every row that the events write, and the one stored before: in enforce mode
the rows of a tenant-scoped entity are of the organization that the events claim. -/
def SameOrganization (h : Hub) (m : Model) (id : String) (es : List OutboxEvent) : Prop :=
  h.enforcing = true → m.tenantScoped = true → ∀ e ∈ es, ∀ org, eventOrgId e = some org →
    (∀ e' ∈ es, eventRow m e' .organizationId = .text org) ∧
      ∀ stored, h.row m id = some stored → stored .organizationId = .text org

/-- The events are applied one after the other, each in its own transaction. -/
def applyAll (h : Hub) (order : List (ApplyEnv × OutboxEvent)) : Hub :=
  order.foldl (fun h p => applied p.1 h p.2) h

/-- What applying events about one cell keeps: the cell holds what it held before or a row of an
event, and everything else is as it was. -/
structure Between (h : Hub) (m : Model) (id : String) (es : List OutboxEvent) (h' : Hub) : Prop where
  same : SameElsewhere m id h h'
  cell : h'.row m id = h.row m id ∨ ∃ e ∈ es, h'.row m id = some (eventRow m e)

theorem Between.visible {es : List OutboxEvent} (hb : Between h m id es h')
    (horg : SameOrganization h m id es) (he : e ∈ es) :
    ∀ stored, h'.row m id = some stored → h'.visible (claimScope e) m stored = true := by
  intro stored hstored
  rw [hb.same.visible]
  unfold Hub.visible claimScope
  cases hclaim : eventOrgId e with
  | none => rfl
  | some org =>
    dsimp only
    cases hcond : h.enforcing && m.tenantScoped with
    | false => rfl
    | true =>
      rw [Bool.and_eq_true] at hcond
      obtain ⟨hrows, hbefore⟩ := horg hcond.1 hcond.2 e he org hclaim
      have : stored .organizationId = .text org := by
        rcases hb.cell with hcell | ⟨e', he', hcell⟩
        · exact hbefore stored (hcell.symm.trans hstored)
        · rw [hstored] at hcell
          rw [Option.some.inj hcell]
          exact hrows e' he'
      simp [this]

section
variable {es : List OutboxEvent} (hsnapshot : ∀ e ∈ es, IsSnapshot m id e)
  (hresolves : ∀ e ∈ es, Resolves h m id e (claimScope e))
  (horg : SameOrganization h m id es) (ht : h.isTombstoned id = false)
include hsnapshot hresolves horg ht

theorem Between.applied (hb : Between h m id es h') (he : e ∈ es) (env : ApplyEnv) :
    Between h m id es (applied env h' e) ∧
      (Sync.applied env h' e).row m id =
        LastWriter.write Row.stamp (h'.row m id) (eventRow m e) := by
  obtain ⟨hsame, hrow⟩ := applied_snapshot env (hsnapshot e he) ((hresolves e he).congr hb.same)
    (hb.visible horg he) (by rw [hb.same.isTombstoned, ht])
  refine ⟨⟨hb.same.trans hsame, ?_⟩, hrow⟩
  by_cases hc : LastWriter.Covers Row.stamp (h'.row m id) (eventRow m e)
  · rw [hrow, LastWriter.write_of_covers (r := pinned _ _ _) hc]
    exact hb.cell
  · exact .inr ⟨e, he, hrow.trans (LastWriter.write_of_not_covers hc)⟩

theorem Between.applyAll {order : List (ApplyEnv × OutboxEvent)} (hb : Between h m id es h')
    (ho : ∀ p ∈ order, p.2 ∈ es) :
    Between h m id es (applyAll h' order) ∧
      (Sync.applyAll h' order).row m id =
        (order.map fun p => eventRow m p.2).foldl (LastWriter.write Row.stamp) (h'.row m id) := by
  induction order generalizing h' with
  | nil => exact ⟨hb, rfl⟩
  | cons p order ih =>
    have hp := ho p List.mem_cons_self
    obtain ⟨hb', hrow⟩ := hb.applied hsnapshot hresolves horg ht hp p.1
    have := ih hb' fun q hq => ho q (List.mem_cons_of_mem p hq)
    rw [hrow] at this
    exact this

end

theorem exists_newest (f : OutboxEvent → Time) {es : List OutboxEvent} (hne : es ≠ []) :
    ∃ e ∈ es, ∀ e' ∈ es, f e' ≤ f e := by
  induction es with
  | nil => exact absurd rfl hne
  | cons e es ih =>
    by_cases hes : es = []
    · subst hes
      exact ⟨e, List.mem_cons_self, by simp⟩
    obtain ⟨e', he', hmax⟩ := ih hes
    by_cases hle : f e ≤ f e'
    · refine ⟨e', List.mem_cons_of_mem e he', ?_⟩
      intro e'' he''
      rcases List.mem_cons.1 he'' with rfl | he''
      · exact hle
      · exact hmax e'' he''
    · refine ⟨e, List.mem_cons_self, ?_⟩
      intro e'' he''
      rcases List.mem_cons.1 he'' with rfl | he''
      · exact le_rfl
      · exact (hmax e'' he'').trans (Int.le_of_lt (Int.not_le.1 hle))

/-- **Order independence of the applier.**  A set of snapshots of one entity, applied in any order
and with any repetitions, leaves the row of the newest, unless the row stored before is at least
as new; no other row changes, and each of the events applied again changes nothing. -/
theorem snapshots_order_independent {es : List OutboxEvent} (hne : es ≠ [])
    (hsnapshot : ∀ e ∈ es, IsSnapshot m id e)
    (hdistinct : ∀ e ∈ es, ∀ e' ∈ es,
      (snapshotRow e).stamp = (snapshotRow e').stamp → e = e')
    (hresolves : ∀ e ∈ es, Resolves h m id e (claimScope e))
    (horg : SameOrganization h m id es) (ht : h.isTombstoned id = false) :
    ∃ newest ∈ es, (∀ e ∈ es, (snapshotRow e).stamp ≤ (snapshotRow newest).stamp) ∧
      ∀ order : List (ApplyEnv × OutboxEvent), (∀ e, e ∈ order.map Prod.snd ↔ e ∈ es) →
        (applyAll h order).row m id =
            LastWriter.write Row.stamp (h.row m id) (eventRow m newest) ∧
          SameElsewhere m id h (applyAll h order) ∧
          ∀ e ∈ es, ∀ env, applyOutboxEvent env (applyAll h order) e =
            .ok (applyAll h order, false) := by
  obtain ⟨newest, hnewest, hmax⟩ := exists_newest (fun e => (snapshotRow e).stamp) hne
  refine ⟨newest, hnewest, hmax, ?_⟩
  intro order ho
  have horder : ∀ p ∈ order, p.2 ∈ es := fun p hp => (ho p.2).1 (List.mem_map_of_mem hp)
  have hstamp : ∀ e, (eventRow m e).stamp = (snapshotRow e).stamp := fun e => pinned_stamp
  have hstart : Between h m id es h := ⟨SameElsewhere.refl m id h, .inl rfl⟩
  obtain ⟨hb, hrow⟩ := hstart.applyAll hsnapshot hresolves horg ht horder
  have hmem : ∀ {r : Row}, r ∈ order.map (fun p => eventRow m p.2) ↔
      ∃ e ∈ es, eventRow m e = r := by
    intro r
    rw [List.mem_map]
    constructor
    · rintro ⟨p, hp, rfl⟩
      exact ⟨p.2, horder p hp, rfl⟩
    · rintro ⟨e, he, rfl⟩
      obtain ⟨p, hp, rfl⟩ := List.mem_map.1 ((ho e).2 he)
      exact ⟨p, hp, rfl⟩
  refine ⟨?_, hb.same, ?_⟩
  · rw [hrow]
    apply LastWriter.foldl_write_eq
    · intro r hr r' hr' heq
      obtain ⟨e, he, rfl⟩ := hmem.1 hr
      obtain ⟨e', he', rfl⟩ := hmem.1 hr'
      rw [hstamp, hstamp] at heq
      rw [hdistinct e he e' he' heq]
    · exact hmem.2 ⟨newest, hnewest, rfl⟩
    · intro r hr
      obtain ⟨e, he, rfl⟩ := hmem.1 hr
      rw [hstamp, hstamp]
      exact hmax e he
  · intro e he env
    have hcovers : LastWriter.Covers Row.stamp ((applyAll h order).row m id) (eventRow m e) := by
      rw [hrow]
      exact LastWriter.covers_foldl_of_mem (hmem.2 ⟨e, he, rfl⟩)
    refine applyOutboxEvent_stale env (hsnapshot e he) ((hresolves e he).congr hb.same)
      (hb.visible horg he) (by rw [hb.same.isTombstoned, ht]) ?_
    simpa [LastWriter.Covers, hstamp] using hcovers

/-- A site's row. -/
def siteRow (id org name : String) (t : Time) : Row
  | .id => .text id
  | .organizationId => .text org
  | .name => .text name
  | .createdAt | .updatedAt => .datetime t
  | _ => .null

/-- A group's row. -/
def groupRow (id org site name : String) (t : Time) : Row
  | .siteId => .text site
  | c => siteRow id org name t c

/-- A device's row. -/
def deviceRow (id site name : String) (heldOff : Bool) (t : Time) : Row
  | .id => .text id
  | .displayName => .text name
  | .siteId => .text site
  | .centralManagementEnabled => .bool true
  | .registrationState => .text "registered"
  | .capabilities => .json (.obj [])
  | .isQaFixture | .isProtected => .bool false
  | .isHeldOff => .bool heldOff
  | .createdAt | .updatedAt => .datetime t
  | _ => .null

/-- An update event of a peer. -/
def updatedEvent (m : Model) (id : String) (row : Row) (org : Option String) : OutboxEvent where
  seq := 1
  at_ := row .updatedAt
  eventType := m.text ++ ".updated"
  entityType := m.text
  entityId := id
  payload := entityToDict m row
  scopeClaims := org.map fun org => [("organization_id", .str org)]
  tombstoneFor := none

/-- A delete event of a peer that claims an organization. -/
def claimedDelete (m : Model) (id org : String) : OutboxEvent where
  seq := 1
  at_ := .datetime 20
  eventType := m.text ++ ".deleted"
  entityType := m.text
  entityId := id
  payload _ := none
  scopeClaims := some [("organization_id", .str org)]
  tombstoneFor := some id

/-- A hub of two organizations, each with a site. -/
def twoOrganizations (enforcing : Bool) : Hub :=
  ((Hub.empty [⟨"org-a", "default"⟩, ⟨"org-b", "b"⟩] enforcing).put .site "site-a"
    (siteRow "site-a" "org-a" "Attic" 10) (by decide)).put .site "site-b"
      (siteRow "site-b" "org-b" "Barn" 10) (by decide)

/-- Two renames of a site. -/
def renames : List OutboxEvent :=
  [updatedEvent .site "site-a" (siteRow "site-a" "org-a" "Loft" 20) (some "org-a"),
    updatedEvent .site "site-a" (siteRow "site-a" "org-a" "Roof" 30) (some "org-a")]

theorem snapshots_order_independent_renames :
    ∃ newest ∈ renames, (∀ e ∈ renames, (snapshotRow e).stamp ≤ (snapshotRow newest).stamp) ∧
      ∀ order : List (ApplyEnv × OutboxEvent), (∀ e, e ∈ order.map Prod.snd ↔ e ∈ renames) →
        (applyAll (twoOrganizations true) order).row .site "site-a" =
            LastWriter.write Row.stamp ((twoOrganizations true).row .site "site-a")
              (eventRow .site newest) ∧
          SameElsewhere .site "site-a" (twoOrganizations true)
            (applyAll (twoOrganizations true) order) ∧
          ∀ e ∈ renames, ∀ env, applyOutboxEvent env (applyAll (twoOrganizations true) order) e =
            .ok (applyAll (twoOrganizations true) order, false) := by
  have hcases : ∀ {p : OutboxEvent → Prop},
      p (updatedEvent .site "site-a" (siteRow "site-a" "org-a" "Loft" 20) (some "org-a")) →
      p (updatedEvent .site "site-a" (siteRow "site-a" "org-a" "Roof" 30) (some "org-a")) →
      ∀ e ∈ renames, p e := by
    intro p h₁ h₂ e he
    rcases List.mem_pair.1 he with rfl | rfl
    · exact h₁
    · exact h₂
  apply snapshots_order_independent
  · exact List.cons_ne_nil _ _
  · exact hcases (isSnapshot_of_payload (by decide) rfl rfl rfl rfl)
      (isSnapshot_of_payload (by decide) rfl rfl rfl rfl)
  · exact hcases (hcases (fun _ => rfl) fun h => absurd h (by decide))
      (hcases (fun h => absurd h (by decide)) fun _ => rfl)
  · have hsite : ¬ (Model.site = .device ∨ Model.site = .group) := by decide
    refine hcases ?_ ?_
    · exact ⟨rfl, fun h => absurd h hsite, by decide, by decide⟩
    · exact ⟨rfl, fun h => absurd h hsite, by decide, by decide⟩
  · intro _ _
    refine hcases ?_ ?_
    · intro org horg
      obtain rfl : "org-a" = org := Option.some.inj horg
      exact ⟨hcases rfl rfl, fun stored hstored => Option.some.inj hstored ▸ rfl⟩
    · intro org horg
      obtain rfl : "org-a" = org := Option.some.inj horg
      exact ⟨hcases rfl rfl, fun stored hstored => Option.some.inj hstored ▸ rfl⟩
  · rfl

/-- What an event brings about beside its own columns: a group whose site is of another
organization is pinned to that one, and a row at least as new as the event stays. -/
theorem snapshot_pinned_or_dropped :
    (let e := updatedEvent .group "grp-1" (groupRow "grp-1" "org-b" "site-a" "Lamps" 20) (some "org-a")
      let h' := applied ⟨0, "", ""⟩ (twoOrganizations false) e
      (h'.row .group "grp-1").map (· .organizationId) = some (.text "org-a") ∧
        snapshotRow e .organizationId = .text "org-b") ∧
    (let e := updatedEvent .site "site-a" (siteRow "site-a" "org-a" "Loft" 5) (some "org-a")
      let h' := applied ⟨0, "", ""⟩ (twoOrganizations false) e
      (h'.row .site "site-a").map (· .name) = some (.text "Attic") ∧
        snapshotRow e .name = .text "Loft") := by
  decide

end RebooterHub.Sync
