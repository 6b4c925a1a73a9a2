import RebooterHub.Sync.Emission

/-!
# Sync — Effects

What one event can do to the tables: `UpsertEffect` lists the ways a create or update event ends
without an error, `applyDelete_row` says it of a delete event.  What holds of every event is
derived from these, and the applier is not unfolded again.  The last section says it of the hub's
own operations.
-/

namespace RebooterHub.Sync

/-- Every row is as it was; there may be new ones. -/
def Hub.Extends (h h' : Hub) : Prop := ∀ m id row, h.row m id = some row → h'.row m id = some row

/-- What an accepted create or update event does: nothing, at most the creation of the default
site, or besides it the creation of a row, or the change of one it has found. -/
inductive UpsertEffect (env : ApplyEnv) (h : Hub) (scope : Scope) (m : Model) (e : OutboxEvent) :
    Hub → Prop where
  | nothing : UpsertEffect env h scope m e h
  | stale {h₁ : Hub} {incoming : Payload}
      (hremap : remapSite env h scope m (pinOrganization scope m (columnsOf m e.payload)) =
        .ok (h₁, incoming)) : UpsertEffect env h scope m e h₁
  | created {h₁ : Hub} {incoming : Payload} {id : String} {row : Row}
      (hremap : remapSite env h scope m (pinOrganization scope m (columnsOf m e.payload)) =
        .ok (h₁, incoming))
      (hfind : findExisting h scope m e.entityId incoming = none)
      (hid : insertedRow m env.now env.newId (withId e.entityId incoming) .id = .text id)
      (hguard : h₁.guardWrite scope m
        (insertedRow m env.now env.newId (withId e.entityId incoming)) = .ok row)
      (hnew : h₁.row m id = none) (haccepts : h₁.Accepts m id row) :
      UpsertEffect env h scope m e (h₁.put m id row haccepts.wellFormed)
  | updated {h₁ : Hub} {incoming : Payload} {time : Option Time} {id : String} {row row' : Row}
      (hall : (m.columns.all fun c => (columnsOf m e.payload c).isNone) = false)
      (hremap : remapSite env h scope m (pinOrganization scope m (columnsOf m e.payload)) =
        .ok (h₁, incoming))
      (htime : incomingUpdated e = .ok time)
      (hfind : findExisting h scope m e.entityId incoming = some (id, row))
      (hstale : isStale time (some row.stamp) = false)
      (hguard : h₁.guardWrite scope m (updatedRow row incoming) = .ok row')
      (haccepts : h₁.Accepts m id row') :
      UpsertEffect env h scope m e (h₁.put m id row' haccepts.wellFormed)

variable {env : ApplyEnv} {h h' h₁ : Hub} {org : String} {m : Model} {id : String} {e : OutboxEvent}
  {row : Row} {scope : Scope} {incoming incoming' : Payload}

theorem Hub.Extends.refl (h : Hub) : h.Extends h := fun _ _ _ => id

theorem Hub.Extends.trans {h'' : Hub} (h₁ : h.Extends h') (h₂ : h'.Extends h'') : h.Extends h'' :=
  fun m id row hrow => h₂ m id row (h₁ m id row hrow)

theorem Hub.extends_put (w : WellFormed m id row) (hnew : h.row m id = none) :
    h.Extends (h.put m id row w) := by
  intro m' id' row' hrow'
  rw [Hub.row_put_of_ne w, hrow']
  rintro ⟨rfl, rfl⟩
  rw [hnew] at hrow'
  cases hrow'

/-- What a flush stores is the row itself, or the row stamped by the guard. -/
theorem flushRow_ok (hf : h.flushRow scope m id row = .ok h') :
    ∃ row', h.guardWrite scope m row = .ok row' ∧
      ∃ ha : h.Accepts m id row', h' = h.put m id row' ha.wellFormed := by
  unfold Hub.flushRow at hf
  split at hf
  · cases hf
  · case _ row' hguard =>
    split at hf
    · case _ ha => exact ⟨row', hguard, ha, (Except.ok.inj hf).symm⟩
    · cases hf

/-- The guard stamps `organization_id` at most. -/
theorem guardWrite_apply {row' : Row} (hg : h.guardWrite scope m row = .ok row') {c : Column}
    (hc : c ≠ .organizationId) : row' c = row c := by
  unfold Hub.guardWrite at hg
  split at hg
  · exact congrFun (Except.ok.inj hg).symm c
  split at hg
  · exact congrFun (Except.ok.inj hg).symm c
  split at hg
  · rw [← Except.ok.inj hg]
    exact Function.update_of_ne hc ..
  split at hg
  · exact congrFun (Except.ok.inj hg).symm c
  split at hg
  · cases hg
  · exact congrFun (Except.ok.inj hg).symm c

/-- An insert adds one row under a key that was free. -/
theorem insert_ok {now : Time} {newId : String} (hi : h.insert scope m now newId incoming = .ok h') :
    ∃ id row, ∃ w : WellFormed m id row, h.row m id = none ∧ h' = h.put m id row w ∧
      insertedRow m now newId incoming .id = .text id ∧
      h.guardWrite scope m (insertedRow m now newId incoming) = .ok row ∧ h.Accepts m id row := by
  unfold Hub.insert at hi
  dsimp only at hi
  split at hi
  · case _ id hid =>
    unfold Hub.flushInsert at hi
    split at hi
    · cases hi
    · case _ hnew =>
      obtain ⟨row, hguard, ha, rfl⟩ := flushRow_ok hi
      exact ⟨id, row, ha.wellFormed, by simpa using hnew, rfl, hid, hguard, ha⟩
  · cases hi

theorem exists_of_map_eq_ok {α β : Type} {f : α → β} {x : Except SyncError α} {b : β}
    (hx : x.map f = .ok b) :
    ∃ a, x = .ok a ∧ f a = b := by
  cases x with
  | error e => cases hx
  | ok a => exact ⟨a, rfl, Except.ok.inj hx⟩

theorem resolveDefaultSiteId_ok {site : String}
    (hr : resolveDefaultSiteId env h scope = .ok (h', site)) :
    h' = h ∨ ∃ row, ∃ w : WellFormed .site env.newSiteId row,
      h.row .site env.newSiteId = none ∧ h' = h.put .site env.newSiteId row w := by
  unfold resolveDefaultSiteId at hr
  split at hr
  · cases hr
    exact .inl rfl
  split at hr
  · cases hr
    exact .inl rfl
  split at hr
  · cases hr
  · obtain ⟨a, ha, heq⟩ := exists_of_map_eq_ok hr
    cases heq
    obtain ⟨id, row, w, hnew, heq, hid, -⟩ := insert_ok ha
    obtain rfl : env.newSiteId = id := Json.str.inj (Value.json.inj hid)
    exact .inr ⟨row, w, hnew, heq⟩

/-- Resolving the site changes `site_id` only, and leaves the table of the event's model alone
where it creates a site. -/
theorem remapSite_ok (hr : remapSite env h scope m incoming = .ok (h₁, incoming')) :
    (h₁ = h ∨ m ≠ .site ∧ ∃ row, ∃ w : WellFormed .site env.newSiteId row,
        h.row .site env.newSiteId = none ∧ h₁ = h.put .site env.newSiteId row w) ∧
      ∀ c, c ≠ .siteId → incoming' c = incoming c := by
  unfold remapSite at hr
  split at hr
  · case _ hc =>
    split at hr
    · cases hr
      exact ⟨.inl rfl, fun _ _ => rfl⟩
    · obtain ⟨⟨h₂, site⟩, hsite, heq⟩ := exists_of_map_eq_ok hr
      cases heq
      refine ⟨(resolveDefaultSiteId_ok hsite).imp_right fun hput => ⟨?_, hput⟩, ?_⟩
      · rintro rfl
        rcases hc.1 with hm | hm <;> cases hm
      · intro c hc
        exact Function.update_of_ne hc ..
  · cases hr
    exact ⟨.inl rfl, fun _ _ => rfl⟩

theorem Hub.extends_of_remapSite (hr : remapSite env h scope m incoming = .ok (h₁, incoming')) :
    h.Extends h₁ := by
  rcases (remapSite_ok hr).1 with rfl | ⟨-, row, w, hnew, rfl⟩
  · exact Hub.Extends.refl _
  · exact Hub.extends_put w hnew

/-- The row an event is about is looked up in the table of its model, which resolving the site
leaves alone. -/
theorem findExisting_remapped (hr : remapSite env h scope m incoming = .ok (h₁, incoming'))
    (entityId : String) (p : Payload) :
    findExisting h₁ scope m entityId p = findExisting h scope m entityId p := by
  rcases (remapSite_ok hr).1 with rfl | ⟨hm, row, w, -, rfl⟩
  · rfl
  · have htable : (h.put .site env.newSiteId row w).table m = h.table m := Function.update_of_ne hm ..
    unfold findExisting naturalMatches Hub.get Hub.select Hub.row Hub.visible
    rw [htable]
    rfl

theorem Model.naturalKey_spec {c : Column} (hc : m.naturalKey = some c) :
    c ∈ m.columns ∧ c ∈ m.required ∧ c ≠ .id ∧ c ≠ .siteId ∧ c ≠ .organizationId ∧
      c.isJson = false ∧ ∀ now, m.default now c = .null := by
  cases m <;> cases hc <;> exact ⟨by decide, by decide, by decide, by decide, by decide, rfl,
    fun _ => rfl⟩

/-- Pinning and the resolution of the site leave the natural key alone. -/
theorem incomingKey_remapped
    (hr : remapSite env h scope m (pinOrganization scope m (columnsOf m e.payload)) =
      .ok (h₁, incoming)) :
    incomingKey m incoming = incomingKey m (columnsOf m e.payload) := by
  unfold incomingKey
  cases hc : m.naturalKey with
  | none => rfl
  | some c =>
    obtain ⟨-, -, -, hsite, horg, -⟩ := Model.naturalKey_spec hc
    have hcol : incoming c = columnsOf m e.payload c := by
      rw [(remapSite_ok hr).2 c hsite]
      unfold pinOrganization
      split
      · rfl
      split
      · exact Function.update_of_ne horg ..
      · rfl
    dsimp only
    rw [hcol]

theorem naturalMatches_remapped
    (hr : remapSite env h scope m (pinOrganization scope m (columnsOf m e.payload)) =
      .ok (h₁, incoming)) :
    naturalMatches h scope m incoming = naturalMatches h scope m (columnsOf m e.payload) := by
  unfold naturalMatches
  rw [incomingKey_remapped hr]

/-- The row an event is about, looked up by what the payload carries. -/
theorem findExisting_columnsOf
    (hr : remapSite env h scope m (pinOrganization scope m (columnsOf m e.payload)) =
      .ok (h₁, incoming)) :
    findExisting h scope m e.entityId incoming =
      findExisting h scope m e.entityId (columnsOf m e.payload) := by
  unfold findExisting
  rw [naturalMatches_remapped hr]

/-- The row an event is about is a visible row of the hub. -/
theorem findExisting_row (hf : findExisting h scope m e.entityId incoming = some (id, row)) :
    h.row m id = some row := by
  unfold findExisting at hf
  split at hf
  · case _ hget =>
    cases hf
    exact (Hub.get_eq_some.1 hget).1
  · have hmem := List.mem_of_head? hf
    unfold naturalMatches at hmem
    split at hmem
    · cases hmem
    · exact (Hub.mem_select.1 hmem).1

/-- What an accepted upsert does is one of the effects. -/
theorem applyUpsert_effect {b : Bool} (ha : applyUpsert env h scope m e = .ok (h', b)) :
    UpsertEffect env h scope m e h' := by
  unfold applyUpsert at ha
  dsimp only at ha
  split at ha
  · cases ha
    exact .nothing
  case _ hall =>
  split at ha
  · cases ha
  case _ h₁ incoming hremap =>
  split at ha
  · cases ha
  case _ updated hupdated =>
  rw [findExisting_remapped hremap] at ha
  split at ha
  · case _ hfind =>
    obtain ⟨h₂, hinsert, heq⟩ := exists_of_map_eq_ok ha
    cases heq
    obtain ⟨id, row, w, hnew, rfl, hid, hguard, haccepts⟩ := insert_ok hinsert
    exact .created hremap hfind hid hguard hnew haccepts
  case _ id row hfind =>
  have hrow := Hub.extends_of_remapSite hremap m id row (findExisting_row hfind)
  rw [(h₁.wellFormed m id row hrow).updatedAt] at ha
  dsimp only [Value.asUtc] at ha
  split at ha
  · cases ha
    exact .stale hremap
  case _ hstale =>
  obtain ⟨h₂, hflush, heq⟩ := exists_of_map_eq_ok ha
  cases heq
  obtain ⟨row', hguard, haccepts, rfl⟩ := flushRow_ok hflush
  exact .updated (by simpa using hall) hremap hupdated hfind (by simpa using hstale) hguard haccepts

/-- The organization of a tenant-scoped payload is the one of the claim, so the guard has nothing
to say. -/
theorem guardWrite_of_remapped
    (hr : remapSite env h (.org org) m (pinOrganization (.org org) m (columnsOf m e.payload)) =
      .ok (h₁, incoming)) :
    h₁.guardWrite (.org org) m (updatedRow row incoming) = .ok (updatedRow row incoming) := by
  unfold Hub.guardWrite
  dsimp only
  cases hm : m.tenantScoped with
  | false => rfl
  | true =>
    have hpin : incoming .organizationId = some (.text org) := by
      rw [(remapSite_ok hr).2 _ (by decide)]
      simp [pinOrganization, hm]
    have horg : updatedRow row incoming .organizationId = .text org := by
      simp [updatedRow, hpin]
    simp [horg]

theorem applyUpsert_update {updated : Option Time}
    (hall : (m.columns.all fun c => (columnsOf m e.payload c).isNone) = false)
    (hr : remapSite env h (.org org) m (pinOrganization (.org org) m (columnsOf m e.payload)) =
      .ok (h₁, incoming))
    (hu : incomingUpdated e = .ok updated)
    (hf : findExisting h (.org org) m e.entityId incoming = some (id, row))
    (hstale : isStale updated (some row.stamp) = false)
    (ha : h₁.Accepts m id (updatedRow row incoming)) :
    applyUpsert env h (.org org) m e =
      .ok (h₁.put m id (updatedRow row incoming) ha.wellFormed, true) := by
  have hrow := Hub.extends_of_remapSite hr m id row (findExisting_row hf)
  unfold applyUpsert
  dsimp only
  rw [hall, if_neg Bool.false_ne_true, hr]
  dsimp only
  rw [hu]
  dsimp only
  rw [findExisting_remapped hr, hf]
  dsimp only
  rw [(h₁.wellFormed m id row hrow).updatedAt]
  dsimp only [Value.asUtc]
  rw [hstale, if_neg Bool.false_ne_true]
  unfold Hub.flushRow
  rw [guardWrite_of_remapped hr]
  dsimp only
  rw [dif_pos ha]
  rfl

/-! ### Deletes -/

theorem row_addTombstone (now : Time) (entityId entityType : String) (seq : Nat) :
    (h.addTombstone now entityId entityType seq).row = h.row := by
  unfold Hub.addTombstone
  split <;> rfl

theorem table_addTombstone (now : Time) (entityId entityType : String) (seq : Nat) :
    (h.addTombstone now entityId entityType seq).table = h.table := by
  unfold Hub.addTombstone
  split <;> rfl

theorem get_addTombstone (now : Time) (entityId entityType : String) (seq : Nat) :
    (h.addTombstone now entityId entityType seq).get = h.get := by
  unfold Hub.addTombstone
  split <;> rfl

theorem blocked_addTombstone (now : Time) (entityId entityType : String) (seq : Nat)
    (target : String) :
    (h.addTombstone now entityId entityType seq).Blocked m target ↔ h.Blocked m target := by
  unfold Hub.Blocked
  rw [table_addTombstone]

/-- The rows after a delete event that finds its row and breaks no constraint, and otherwise. -/
theorem applyDelete_row (env : ApplyEnv) (h : Hub) (scope : Scope) (m : Model) (e : OutboxEvent)
    (target : String) :
    if (h.get scope m target).isSome = true ∧ ¬ h.Blocked m target then
      ∃ h', applyDelete env h scope m e target = .ok (h', true) ∧
        h'.row = (h.drop m target).row
    else ∀ h' b, applyDelete env h scope m e target = .ok (h', b) → h'.row = h.row := by
  have hget := get_addTombstone (h := h) env.now target e.entityType e.seq
  have hblocked := blocked_addTombstone (h := h) (m := m) env.now target e.entityType e.seq target
  unfold applyDelete
  dsimp only
  rw [hget]
  cases hg : h.get scope m target with
  | none =>
    rw [if_neg (by simp)]
    rintro h' b heq
    cases heq
    exact row_addTombstone ..
  | some row =>
    unfold Hub.flushDelete
    by_cases hb : h.Blocked m target
    · rw [if_neg (by simp [hb])]
      rintro h' b heq
      rw [if_pos (hblocked.2 hb)] at heq
      cases heq
    · rw [if_pos ⟨rfl, hb⟩]
      refine ⟨_, by rw [if_neg fun hb' => hb (hblocked.1 hb')]; rfl, ?_⟩
      funext m' id'
      by_cases hself : m' = m ∧ id' = target
      · obtain ⟨rfl, rfl⟩ := hself
        rw [Hub.row_drop_self, Hub.row_drop_self]
      · rw [Hub.row_drop_of_ne hself, Hub.row_drop_of_ne hself, row_addTombstone]

/-! ### Local operations -/

/-- What a create does: a row under the generated id, and its event. -/
theorem perform_create_ok {env : LocalEnv} {values : Payload} {es : List OutboxEvent}
    (hp : (LocalOp.create m values).perform env scope h = .ok (h', es)) :
    ∃ row, ∃ w : WellFormed m env.newId row, h.row m env.newId = none ∧
      h.guardWrite scope m (insertedRow m env.now env.newId (Function.update values .id none)) =
        .ok row ∧
      h' = h.put m env.newId row w ∧ es = afterInsert h' env.now m env.newId row := by
  obtain ⟨h₁, hinsert, heq⟩ := exists_of_map_eq_ok hp
  cases heq
  obtain ⟨id, row, w, hnew, rfl, hid, hguard, -⟩ := insert_ok hinsert
  -- no service passes an `id`, so the row's is the generated one
  have hkey : insertedRow m env.now env.newId (Function.update values .id none) .id =
      .text env.newId := by
    unfold insertedRow
    rw [if_neg (not_not_intro m.id_mem), Function.update_self]
    rfl
  obtain rfl : env.newId = id := Json.str.inj (Value.json.inj (hkey.symm.trans hid))
  exact ⟨row, w, hnew, hguard, rfl, by rw [Hub.row_put_self]⟩

/-- What an update does: nothing where there is no row, else the row is set, and its event. -/
theorem perform_update_ok {env : LocalEnv} {changes : Payload} {es : List OutboxEvent}
    (hp : (LocalOp.update m id changes).perform env scope h = .ok (h', es)) :
    h' = h ∧ es = [] ∨ ∃ row row', ∃ w : WellFormed m id row',
      h.get scope m id = some row ∧ h.guardWrite scope m (updatedRow row changes) = .ok row' ∧
        h' = h.put m id row' w ∧ es = afterUpdate h' env.now m id row row' := by
  unfold LocalOp.perform at hp
  dsimp only at hp
  split at hp
  · cases hp
    exact .inl ⟨rfl, rfl⟩
  case _ row hget =>
  obtain ⟨h₁, hflush, heq⟩ := exists_of_map_eq_ok hp
  cases heq
  obtain ⟨row', hguard, ha, rfl⟩ := flushRow_ok hflush
  exact .inr ⟨row, row', ha.wellFormed, hget, hguard, rfl, by rw [Hub.row_put_self]⟩

/-- What a delete does: nothing where there is no row, else the row goes; its event comes after
those of the devices it powered. -/
theorem perform_delete_ok {env : LocalEnv} {es : List OutboxEvent}
    (hp : (LocalOp.delete m id).perform env scope h = .ok (h', es)) :
    h.get scope m id = none ∧ h' = h ∧ es = [] ∨
      (h.get scope m id).isSome = true ∧ h' = h.drop m id ∧
        es = ((poweredDevices h m id).flatMap fun e =>
          afterUpdate h env.now .device e.1 e.2 (Model.device.clear m id e.2))
            ++ afterDelete h' env.now m id := by
  unfold LocalOp.perform at hp
  dsimp only at hp
  split at hp
  · case _ hget =>
    cases hp
    exact .inl ⟨hget, rfl, rfl⟩
  case _ row hget =>
  obtain ⟨h₁, hflush, heq⟩ := exists_of_map_eq_ok hp
  cases heq
  unfold Hub.flushDelete at hflush
  split at hflush
  · cases hflush
  · cases hflush
    exact .inr ⟨by rw [hget]; rfl, rfl, rfl⟩

end RebooterHub.Sync
