import RebooterHub.Sync.Effects
import RebooterHub.Sync.Peering
import RebooterHub.Sync.Services
import RebooterHub.Sync.Snapshots

/-!
# Sync — Convergence

Whether two hubs that pull from each other come to hold the same.

`abs` reads a pair of hubs as a pair of replicas, whose rows are the hubs' without their telemetry
and whose queues are the events still to be pulled.  `Admissible` is the condition on a step, and
`hubs_converge` the result: after a run of admissible steps, once everything is pulled, the hubs
have the same rows but for telemetry.
-/

namespace RebooterHub.Sync
open RebooterHub.Runs RebooterHub.Replicas

/-! ### The hubs as replicas -/

theorem stamp_clear (m gone : Model) (id : String) (row : Row) :
    (m.clear gone id row).stamp = row.stamp := by
  unfold Row.stamp
  rw [Model.clear_apply_of_not_reference]
  intro hc
  have := (Model.reference_column hc).2.2
  cases this

/-- References to two rows are cleared in either order. -/
theorem clear_comm (m gone gone' : Model) (id id' : String) (row : Row) :
    m.clear gone id (m.clear gone' id' row) = m.clear gone' id' (m.clear gone id row) := by
  funext c
  simp only [Model.clear]
  split_ifs <;> simp_all

/-- The rows of the syncable models. -/
def rowSchema : Schema (Model × String) Row Time where
  stamp := Row.stamp
  clear gone k row := k.1.clear gone.1 gone.2 row
  stamp_clear gone k row := stamp_clear k.1 gone.1 gone.2 row
  clear_comm gone gone' k row := clear_comm k.1 gone.1 gone'.1 gone.2 gone'.2 row

/-- The configuration state of a row: what its columns hold, those of telemetry left out. -/
def config (m : Model) (row : Row) : Row := fun c =>
  if c ∈ m.nonEmittingColumns ∧ c ≠ .updatedAt then .null else row c

/-- The rows of a hub, under model and id. -/
def Hub.rows (h : Hub) (k : Model × String) : Option Row := (h.row k.1 k.2).map (config k.1)

/-- Two hubs have the same ids, and agree on the replicated columns that are not telemetry. -/
def SameConfig (h h' : Hub) : Prop :=
  ∀ m id, (h.row m id).map (config m) = (h'.row m id).map (config m)

/-- What an event says has been done. -/
def changeOf (e : OutboxEvent) : Option (Change (Model × String) Row) :=
  (Model.ofText e.entityType).map fun m => match deletes e with
    | some target => .del (m, target)
    | none => .put (m, e.entityId) (config m (snapshotRow e))

namespace Peered

/-- The hubs as replicas. -/
def abs (p : Peered) : State (Model × String) Row where
  rows s := (p.hub s).rows
  queue s := (p.pending s).filterMap changeOf

/-- The change is independent of everything the hub has still to pull. -/
def Unraced (p : Peered) (s : Side) (c : Change (Model × String) Row) : Prop :=
  ∀ d ∈ p.abs.queue s, rowSchema.Independent c d

end Peered

/-- The hub can do what the event says: the entity has no tombstone there; a row resolves, in the
scope of the event's claim, to itself; a deletion breaks no constraint, and where the row is gone
already, so are the references to it. -/
structure Delivers (h : Hub) (e : OutboxEvent) : Prop where
  tombstoned : h.isTombstoned e.entityId = false
  put : ∀ m, Model.ofText e.entityType = some m → deletes e = none → ∃ scope,
    Resolves h m e.entityId e scope ∧ pinned scope m (snapshotRow e) = snapshotRow e ∧
      ∀ stored, h.row m e.entityId = some stored → h.visible scope m stored = true
  del : ∀ m target, Model.ofText e.entityType = some m → deletes e = some target →
    ¬ h.Blocked m target ∧ (h.row m target = none → ∀ m' id row, h.row m' id = some row →
      ¬ m'.RefersTo row m target)

/-- The condition on a step.

* A new row races with nothing that the hub has still to pull.
* An update changes telemetry at most, or it changes a column whose change is emitted, moves
  `updated_at` forward, and races with nothing.
* A deletion races with nothing, and the devices it cuts off are not about to be deleted.
* A hub can do what the event it pulls says. -/
def Peered.Admissible (p : Peered) : PeeredStep → Prop
  | .own s env scope (.create m values) => ∀ row,
      (p.hub s).guardWrite scope m
        (insertedRow m env.now env.newId (Function.update values .id none)) = .ok row →
      p.Unraced s (.put (m, env.newId) (config m row))
  | .own s _ scope (.update m id changes) => ∀ stored row,
      (p.hub s).get scope m id = some stored →
      (p.hub s).guardWrite scope m (updatedRow stored changes) = .ok row →
      config m row = config m stored ∨ stored.stamp < row.stamp ∧ EmittedChange m stored row ∧
        p.Unraced s (.put (m, id) (config m row))
  | .own s _ scope (.delete m id) => ((p.hub s).get scope m id).isSome = true →
      id ≠ "" ∧ p.Unraced s (.del (m, id)) ∧
        ∀ d ∈ poweredDevices (p.hub s) m id, .del (.device, d.1) ∉ p.abs.queue s
  | .pull s _ => ∀ e, (p.pending s).head? = some e → Delivers (p.hub s) e

/-- An event a hub emits: the snapshot of a row, or a deletion without a claim. -/
inductive Emitted (e : OutboxEvent) : Prop where
  | put (m : Model) (id : String) (hs : IsSnapshot m id e)
  | del (m : Model) (htype : e.entityType = m.text) (hdeletes : deletes e = some e.entityId)
      (hclaim : eventOrgId e = none)

variable {env : ApplyEnv} {h h' : Hub} {m : Model} {id : String} {e : OutboxEvent} {row : Row}
  {scope : Scope} {p : Peered} {s : Side}

/-! ### What the hubs do is what the replicas do -/

theorem stamp_config (m : Model) (row : Row) : (config m row).stamp = row.stamp := by
  rw [Row.stamp, config, if_neg fun hc => hc.2 rfl]
  rfl

theorem clear_config (m gone : Model) (id : String) (row : Row) :
    m.clear gone id (config m row) = config m (m.clear gone id row) := by
  funext c
  unfold config Model.clear
  dsimp only
  by_cases hc : c ∈ m.nonEmittingColumns ∧ c ≠ .updatedAt
  · simp [hc]
  · simp [hc]

/-- A row with the configuration of another has nothing to emit. -/
theorem not_emittedChange {row' : Row} (heq : config m row' = config m row) :
    ¬ EmittedChange m row row' := by
  rintro ⟨c, -, hc, hne⟩
  refine hne ?_
  have := congrFun heq c
  rwa [config, config, if_neg fun h => hc h.1, if_neg fun h => hc h.1] at this

theorem rows_of_row (hrow : h.row m id = some row) : h.rows (m, id) = some (config m row) := by
  rw [Hub.rows, hrow]
  rfl

theorem rows_put (w : WellFormed m id row) :
    (h.put m id row w).rows = Function.update h.rows (m, id) (some (config m row)) := by
  funext k
  by_cases hk : k = (m, id)
  · subst hk
    rw [Function.update_self]
    exact rows_of_row (Hub.row_put_self w)
  · rw [Function.update_of_ne hk, Hub.rows, Hub.row_put_of_ne w]
    · rfl
    · exact fun hself => hk (Prod.ext hself.1 hself.2)

/-- A newer row is stored. -/
theorem rows_put_of_not_covers (w : WellFormed m id row)
    (hc : ¬ LastWriter.Covers Row.stamp (h.rows (m, id)) (config m row)) :
    (h.put m id row w).rows = rowSchema.act h.rows (.put (m, id) (config m row)) := by
  rw [rows_put, ← LastWriter.write_of_not_covers hc]
  rfl

theorem rows_drop : (h.drop m id).rows = rowSchema.act h.rows (.del (m, id)) := by
  funext k
  by_cases hk : k = (m, id)
  · subst hk
    rw [Schema.act_del_self, Hub.rows, Hub.row_drop_self]
    rfl
  · rw [Schema.act_del_of_ne hk, Hub.rows, Hub.rows,
      Hub.row_drop_of_ne fun hself => hk (Prod.ext hself.1 hself.2), Option.map_map, Option.map_map]
    congr 1
    funext row
    exact (clear_config ..).symm

/-- Nothing refers to the row, and it is gone. -/
theorem act_del_of_absent (hrow : h.row m id = none)
    (hrefs : ∀ m' id' row, h.row m' id' = some row → ¬ m'.RefersTo row m id) :
    rowSchema.act h.rows (.del (m, id)) = h.rows := by
  rw [← rows_drop]
  funext k
  by_cases hk : k = (m, id)
  · subst hk
    rw [Hub.rows, Hub.rows, Hub.row_drop_self, hrow]
  · rw [Hub.rows, Hub.rows, Hub.row_drop_of_ne fun hself => hk (Prod.ext hself.1 hself.2)]
    cases hr : h.row k.1 k.2 with
    | none => rfl
    | some row => rw [Option.map_some, Model.clear_of_not_refersTo (hrefs k.1 k.2 row hr)]

theorem changeOf_put (hs : IsSnapshot m id e) :
    changeOf e = some (.put (m, id) (config m (snapshotRow e))) := by
  unfold changeOf
  rw [hs.entityType, Model.ofText_text, hs.deletes, hs.entityId]
  rfl

theorem changeOf_del (htype : e.entityType = m.text) (hd : deletes e = some id) :
    changeOf e = some (.del (m, id)) := by
  unfold changeOf
  rw [htype, Model.ofText_text, hd]
  rfl

/-- A snapshot that can be delivered is written to the row's cell. -/
theorem rows_applied_put (hs : IsSnapshot m id e) (hd : Delivers h e) :
    (applied env h e).rows = rowSchema.act h.rows (.put (m, id) (config m (snapshotRow e))) := by
  obtain ⟨scope, hr, hpin, hvisible⟩ :=
    hd.put m (by rw [hs.entityType, Model.ofText_text]) hs.deletes
  have ht := hd.tombstoned
  rw [hs.entityId] at hr hvisible ht
  obtain ⟨hsame, hcell⟩ := applied_snapshot env hs hr hvisible ht
  funext k
  by_cases hk : k = (m, id)
  · subst hk
    rw [Schema.act_put_self, Hub.rows, hcell, hpin]
    exact LastWriter.map_write (stamp_config m) ..
  · rw [Schema.act_put_of_ne hk, Hub.rows,
      hsame.row k.1 k.2 fun hself => hk (Prod.ext hself.1 hself.2)]
    rfl

/-- A deletion that can be delivered takes the row away. -/
theorem rows_applied_del (htype : e.entityType = m.text) (hdeletes : deletes e = some e.entityId)
    (hclaim : eventOrgId e = none) (hd : Delivers h e) :
    (applied env h e).rows = rowSchema.act h.rows (.del (m, e.entityId)) := by
  obtain ⟨hblocked, hrefs⟩ := hd.del m _ (by rw [htype, Model.ofText_text]) hdeletes
  have happly : applyOutboxEvent env h e = applyDelete env h .system m e e.entityId := by
    simp [applyOutboxEvent, eventScope, hclaim, applyScoped, hd.tombstoned, htype, hdeletes]
  have hspec := applyDelete_row env h .system m e e.entityId
  unfold applied
  rw [happly]
  split at hspec
  · obtain ⟨h', heq, hrow⟩ := hspec
    rw [heq, ← rows_drop]
    funext k
    exact congrArg (Option.map (config k.1)) (congrFun (congrFun hrow k.1) k.2)
  · case _ hc =>
    have habsent : h.row m e.entityId = none := by
      cases hrow : h.row m e.entityId with
      | none => rfl
      | some row => exact absurd ⟨by rw [Hub.get_eq_some.2 ⟨hrow, rfl⟩]; rfl, hblocked⟩ hc
    rw [act_del_of_absent habsent (hrefs habsent)]
    split
    · case _ h' b heq =>
      funext k
      exact congrArg (Option.map (config k.1)) (congrFun (congrFun (hspec h' b heq) k.1) k.2)
    · rfl

/-- An event that can be delivered does to the rows what it says. -/
theorem rows_applied (env : ApplyEnv) (he : Emitted e) (hd : Delivers h e) :
    ∃ c, changeOf e = some c ∧ (applied env h e).rows = rowSchema.act h.rows c := by
  cases he with
  | put m id hs => exact ⟨_, changeOf_put hs, rows_applied_put hs hd⟩
  | del m htype hdeletes hclaim =>
    exact ⟨_, changeOf_del htype hdeletes, rows_applied_del htype hdeletes hclaim hd⟩

theorem emitted_row (h : Hub) (now : Time) (verb : String) (w : WellFormed m id row) :
    Emitted (emit h now m id verb (entityToDict m row) none) ∧
      changeOf (emit h now m id verb (entityToDict m row) none) =
        some (.put (m, id) (config m row)) := by
  have hs : IsSnapshot m id (emit h now m id verb (entityToDict m row) none) :=
    isSnapshot_of_payload w rfl rfl rfl rfl
  refine ⟨.put m id hs, ?_⟩
  rw [changeOf_put hs, snapshotRow_eq w rfl]

theorem emitted_delete (h : Hub) (m : Model) (now : Time) (hid : id ≠ "") :
    ∀ e ∈ afterDelete h now m id, Emitted e ∧ changeOf e = some (.del (m, id)) := by
  intro e he
  obtain rfl := List.mem_singleton.1 he
  have hd : deletes (emit h now m id "deleted" (fun _ => none) (some id)) = some id := by
    simp [deletes, emit, hid]
  exact ⟨.del m rfl hd (by cases m <;> rfl), changeOf_del rfl hd⟩

/-! ### Steps -/

namespace Peered

/-- What every reachable pair of hubs meets. -/
structure Inv (p : Peered) : Prop where
  numbered : p.Numbered
  emitted : ∀ s, ∀ e ∈ p.outbox s, Emitted e
  agree : rowSchema.settled p.abs .left = rowSchema.settled p.abs .right

theorem inv_start {left right : Hub} (hsame : SameConfig left right) : (start left right).Inv := by
  refine ⟨numbered_start left right, fun _ _ he => ?_, ?_⟩
  · cases he
  funext k
  exact hsame k.1 k.2

theorem changeOf_numbered (n : Nat) (es : List OutboxEvent) :
    (numbered n es).filterMap changeOf = es.filterMap changeOf := by
  induction es generalizing n with
  | nil => rfl
  | cons e es ih =>
    have hcons : numbered n (e :: es) = { e with seq := n + 1 } :: numbered (n + 1) es := by
      unfold numbered
      rw [List.mapIdx_cons]
      congr 1
      refine List.mapIdx_eq_mapIdx_iff.2 fun i _ => ?_
      rw [show n + 1 + (i + 1) = n + 1 + 1 + i by omega]
    rw [hcons, List.filterMap_cons, List.filterMap_cons, ih]
    rfl

theorem Emitted.numbered {n : Nat} {es : List OutboxEvent} (hes : ∀ e ∈ es, Emitted e) :
    ∀ e ∈ Sync.numbered n es, Emitted e := by
  intro e he
  obtain ⟨i, hi, rfl⟩ := List.mem_mapIdx.1 he
  cases hes _ (List.getElem_mem hi) with
  | put m id hs => exact .put m id ⟨hs.entityType, hs.entityId, hs.deletes, hs.payload, hs.wellFormed⟩
  | del m htype hdeletes hclaim => exact .del m htype hdeletes hclaim

/-- A transaction adds to what the other hub has to pull. -/
theorem abs_commit (hn : p.Numbered) (es : List OutboxEvent) :
    (p.commit s h es).abs =
      { rows := Function.update p.abs.rows s h.rows
        queue := Function.update p.abs.queue s.other
          (p.abs.queue s.other ++ es.filterMap changeOf) } := by
  unfold abs pending commit
  congr 1
  · funext t
    by_cases ht : t = s
    · subst ht
      simp
    · simp [Function.update_of_ne ht]
  · funext t
    rcases s.eq_or_other t with rfl | rfl
    · simp [Function.update_of_ne]
    · have hle := hn.pulled_le s.other
      rw [Side.other_other] at hle
      simp [List.drop_append_of_le_length hle, changeOf_numbered]

/-- The events of a hub, once a transaction has committed. -/
theorem emitted_commit {es : List OutboxEvent} (ho : ∀ s, ∀ e ∈ p.outbox s, Emitted e)
    (hes : ∀ e ∈ es, Emitted e) : ∀ t, ∀ e ∈ (p.commit s h es).outbox t, Emitted e := by
  intro t e he
  unfold commit at he
  dsimp only at he
  by_cases ht : t = s
  · subst ht
    rw [Function.update_self] at he
    exact (List.mem_append.1 he).elim (ho t e) (Emitted.numbered hes e)
  · rw [Function.update_of_ne ht] at he
    exact ho t e he

/-- A transaction that changes the rows as the events it emits say, the last of them, and that
races with nothing, keeps the invariant. -/
theorem Inv.commit (hi : p.Inv) {es : List OutboxEvent} {c : Change (Model × String) Row}
    {echo : List (Change (Model × String) Row)} (hrows : h.rows = rowSchema.act (p.hub s).rows c)
    (hes : ∀ e ∈ es, Emitted e) (hchanges : es.filterMap changeOf = echo ++ [c])
    (hraced : p.Unraced s c) (hecho : ∀ e ∈ echo, rowSchema.Echoes p.abs s e) :
    (p.commit s h es).Inv := by
  refine ⟨hi.numbered.commit, emitted_commit hi.emitted hes, ?_⟩
  have hstep : rowSchema.step p.abs (.write s c echo) = (p.commit s h es).abs := by
    rw [abs_commit hi.numbered, hrows, hchanges]
    rfl
  rw [← hstep]
  exact Schema.settled_step hi.agree ⟨hraced, hecho⟩

/-- A transaction that changes nothing keeps it. -/
theorem Inv.idle (hi : p.Inv) (hrows : h.rows = (p.hub s).rows) : (p.commit s h []).Inv := by
  refine ⟨hi.numbered.commit, emitted_commit hi.emitted nofun, ?_⟩
  have habs : (p.commit s h []).abs = p.abs := by
    rw [abs_commit hi.numbered, hrows]
    simp [abs]
  rw [habs]
  exact hi.agree

theorem Inv.create (hi : p.Inv) {env : LocalEnv} {values : Payload} {es : List OutboxEvent}
    (hp : (LocalOp.create m values).perform env scope (p.hub s) = .ok (h, es))
    (ha : p.Admissible (.own s env scope (.create m values))) :
    (p.commit s h es).Inv := by
  obtain ⟨row, w, hnew, hguard, rfl, rfl⟩ := perform_create_ok hp
  obtain ⟨hemitted, hchange⟩ := emitted_row ((p.hub s).put m env.newId row w) env.now "created" w
  have hchanges : (afterInsert ((p.hub s).put m env.newId row w) env.now m env.newId row).filterMap
      changeOf = [] ++ [.put (m, env.newId) (config m row)] := by simp [afterInsert, hchange]
  refine hi.commit (rows_put_of_not_covers w ?_) ?_ hchanges (ha row hguard) fun e h => by cases h
  · rintro ⟨stored, hstored, -⟩
    rw [Hub.rows, hnew] at hstored
    cases hstored
  · intro e he
    rw [List.mem_singleton.1 he]
    exact hemitted

theorem Inv.update (hi : p.Inv) {env : LocalEnv} {changes : Payload} {es : List OutboxEvent}
    (hp : (LocalOp.update m id changes).perform env scope (p.hub s) = .ok (h, es))
    (ha : p.Admissible (.own s env scope (.update m id changes))) :
    (p.commit s h es).Inv := by
  rcases perform_update_ok hp with ⟨rfl, rfl⟩ | ⟨stored, row, w, hget, hguard, rfl, rfl⟩
  · exact hi.idle rfl
  have hstored := (Hub.get_eq_some.1 hget).1
  rcases ha stored row hget hguard with hsame | ⟨hlt, hemits, hraced⟩
  · rw [show afterUpdate _ env.now m id stored row = [] from if_neg (not_emittedChange hsame)]
    refine hi.idle ?_
    rw [rows_put, hsame, ← rows_of_row hstored]
    exact Function.update_eq_self ..
  · obtain ⟨hemitted, hchange⟩ := emitted_row ((p.hub s).put m id row w) env.now "updated" w
    rw [show afterUpdate _ env.now m id stored row = [_] from if_pos hemits]
    have hchanges : List.filterMap changeOf [emit ((p.hub s).put m id row w) env.now m id "updated"
        (entityToDict m row) none] = [] ++ [.put (m, id) (config m row)] := by simp [hchange]
    refine hi.commit (rows_put_of_not_covers w ?_) ?_ hchanges hraced fun e h => by cases h
    · rintro ⟨stored', hstored', hle⟩
      rw [rows_of_row hstored] at hstored'
      obtain rfl : config m stored = stored' := Option.some.inj hstored'
      refine absurd hle (not_le_of_gt ?_)
      rwa [stamp_config, stamp_config]
    · intro e he
      rw [List.mem_singleton.1 he]
      exact hemitted

/-- The events about the devices a deletion cuts off say nothing the other hub does not hold. -/
theorem echoes_powered {now : Time} {e : OutboxEvent}
    (hsafe : ∀ d ∈ poweredDevices (p.hub s) m id, .del (.device, d.1) ∉ p.abs.queue s)
    (he : e ∈ (poweredDevices (p.hub s) m id).flatMap fun d =>
      afterUpdate (p.hub s) now .device d.1 d.2 (Model.device.clear m id d.2)) :
    Emitted e ∧ ∀ d, changeOf e = some d → rowSchema.Echoes p.abs s d := by
  obtain ⟨d, hd, he⟩ := List.mem_flatMap.1 he
  have hrow : (p.hub s).row .device d.1 = some d.2 := by
    unfold poweredDevices at hd
    split at hd
    · exact Table.mem_entries.1 (List.mem_of_mem_filter hd)
    · cases hd
  unfold afterUpdate at he
  split at he
  · obtain ⟨hemitted, hchange⟩ := emitted_row (p.hub s) now "updated"
      (((p.hub s).wellFormed .device d.1 d.2 hrow).clear m id)
    rw [List.mem_singleton.1 he]
    refine ⟨hemitted, fun c hc => ?_⟩
    rw [hchange] at hc
    obtain rfl := Option.some.inj hc
    refine ⟨_, _, rfl, ⟨_, rows_of_row hrow, ?_⟩, hsafe d hd⟩
    rw [← clear_config]
    exact (stamp_clear ..).le
  · cases he

theorem Inv.delete (hi : p.Inv) {env : LocalEnv} {es : List OutboxEvent}
    (hp : (LocalOp.delete m id).perform env scope (p.hub s) = .ok (h, es))
    (ha : p.Admissible (.own s env scope (.delete m id))) :
    (p.commit s h es).Inv := by
  rcases perform_delete_ok hp with ⟨-, rfl, rfl⟩ | ⟨hsome, rfl, rfl⟩
  · exact hi.idle rfl
  obtain ⟨hid, hraced, hsafe⟩ := ha hsome
  have hdel := emitted_delete ((p.hub s).drop m id) m env.now hid
  have hchanges : (afterDelete ((p.hub s).drop m id) env.now m id).filterMap changeOf =
      [.del (m, id)] := by
    rw [afterDelete, List.filterMap_cons_some (hdel _ (List.mem_singleton_self _)).2]
    rfl
  refine hi.commit rows_drop ?_ ((List.filterMap_append ..).trans (congrArg _ hchanges)) hraced ?_
  · intro e he
    rcases List.mem_append.1 he with he | he
    · exact (echoes_powered hsafe he).1
    · exact (hdel e he).1
  · intro d hd
    obtain ⟨e, he, hd⟩ := List.mem_filterMap.1 hd
    exact (echoes_powered hsafe he).2 d hd

/-- What a hub applies is what is first in the queue. -/
theorem abs_deliver {es : List OutboxEvent} (hq : p.pending s = e :: es)
    {c : Change (Model × String) Row} (hc : changeOf e = some c)
    (hrows : (applied env (p.hub s) e).rows = rowSchema.act (p.hub s).rows c) :
    (p.deliver s env e).abs = rowSchema.step p.abs (.deliver s) := by
  have hqueue : p.abs.queue s = c :: es.filterMap changeOf := by
    unfold abs
    dsimp only
    rw [hq, List.filterMap_cons_some hc]
  rw [Schema.step_deliver_cons hqueue]
  unfold abs
  congr 1
  · funext t
    by_cases ht : t = s
    · subst ht
      simp [deliver, hrows]
    · simp [deliver, Function.update_of_ne ht]
  · funext t
    by_cases ht : t = s
    · subst ht
      rw [Function.update_self, pending_deliver_self hq]
    · rw [Function.update_of_ne ht, pending_deliver_of_ne ht]

theorem Inv.pull (hi : p.Inv) (ha : p.Admissible (.pull s env)) :
    (p.step (.pull s env)).Inv := by
  cases hq : p.pending s with
  | nil =>
    rw [show p.step (.pull s env) = p by simp [Peered.step, hq]]
    exact hi
  | cons e es =>
    rw [step_pull hq]
    have hmem : e ∈ p.outbox s.other := List.mem_of_mem_drop (hq ▸ List.mem_cons_self)
    obtain ⟨c, hc, hrows⟩ := rows_applied env (hi.emitted s.other e hmem)
      (ha e (by rw [hq]; rfl))
    refine ⟨hi.numbered.deliver hq, hi.emitted, ?_⟩
    rw [abs_deliver hq hc hrows]
    exact Schema.settled_step hi.agree trivial

/-- An admissible step keeps the invariant. -/
theorem Inv.step (hi : p.Inv) {l : PeeredStep} (ha : p.Admissible l) : (p.step l).Inv := by
  cases l with
  | pull s env => exact hi.pull ha
  | own s env scope op =>
    unfold Peered.step
    dsimp only
    cases hp : op.perform env scope (p.hub s) with
    | error x => exact hi
    | ok r =>
      obtain ⟨h, es⟩ := r
      cases op with
      | create m values => exact hi.create hp ha
      | update m id changes => exact hi.update hp ha
      | delete m id => exact hi.delete hp ha

end Peered

open Peered

/-! ### The services -/

/-- A service that touches the row moves `updated_at` forward where the clock has. -/
theorem admissible_touch {env : LocalEnv} {changes : Payload}
    (htouch : ∀ stored row, (p.hub s).get scope m id = some stored →
      (p.hub s).guardWrite scope m (updatedRow stored (touch env.now changes)) = .ok row →
      stored.stamp < env.now ∧ EmittedChange m stored row ∧
        p.Unraced s (.put (m, id) (config m row))) :
    p.Admissible (.own s env scope (.update m id (touch env.now changes))) := by
  intro stored row hget hguard
  obtain ⟨hlt, hrest⟩ := htouch stored row hget hguard
  have hstamp : row.stamp = env.now := by
    rw [Row.stamp, guardWrite_apply hguard (by decide)]
    exact stamp_touch env.now changes stored
  exact .inr ⟨hstamp ▸ hlt, hrest⟩

/-- The command path's flip of the hold-off flag is never admissible. -/
theorem not_admissible_holdOffChange {env : LocalEnv} {stored : Row} (cmdType : String)
    (setHoldOff : Bool) (hget : (p.hub s).get scope .device id = some stored)
    (hflip : updatedRow stored (holdOffChange cmdType setHoldOff stored) .isHeldOff ≠
      stored .isHeldOff) :
    ¬ p.Admissible
      (.own s env scope (.update .device id (holdOffChange cmdType setHoldOff stored))) := by
  intro ha
  have hguard : (p.hub s).guardWrite scope .device
      (updatedRow stored (holdOffChange cmdType setHoldOff stored)) =
        .ok (updatedRow stored (holdOffChange cmdType setHoldOff stored)) := by
    cases scope <;> rfl
  rcases ha stored _ hget hguard with hsame | ⟨hlt, -⟩
  · exact hflip (congrFun hsame .isHeldOff)
  · rw [stamp_holdOffChange] at hlt
    exact lt_irrefl _ hlt

/-- **Convergence.**  Two hubs that start with the same rows have the same rows after every run of
admissible steps, once each has pulled all that the other has emitted. -/
theorem hubs_converge (left right : Hub) (hsame : SameConfig left right) (steps : List PeeredStep)
    (hadmits : Admits Peered.step Admissible (start left right) steps)
    (hpulled : ∀ s, (run Peered.step (start left right) steps).pending s = []) :
    SameConfig ((run Peered.step (start left right) steps).hub .left)
      ((run Peered.step (start left right) steps).hub .right) := by
  have hinv : (run Peered.step (start left right) steps).Inv :=
    run_invariant (fun _ _ hi ha => hi.step ha) (inv_start hsame) hadmits
  have hrows := Schema.rows_eq_of_delivered hinv.agree fun s => by simp [Peered.abs, hpulled]
  intro m id
  exact congrFun hrows (m, id)

/-- A user's row. -/
def userRow (id email name : String) (t : Time) : Row
  | .id => .text id
  | .email => .text email
  | .passwordHash => .text ""
  | .displayName => .text name
  | .isActive | .isAdmin => .bool true
  | .isSuperAdmin => .bool false
  | .role => .text "admin"
  | .tokensValidAfter | .createdAt | .updatedAt => .datetime t
  | _ => .null

/-- A hub with a user. -/
def oneUser : Hub :=
  (Hub.empty [⟨"org-a", "default"⟩] false).put .user "usr-1" (userRow "usr-1" "ann@hub" "Ann" 10)
    (by decide)

/-- The user is renamed on one hub and gets a role on the other, before either pulls. -/
def crossingUpdates : List PeeredStep :=
  [.own .left ⟨20, ""⟩ .system (.update .user "usr-1" (updateUserDisplayName 20 "Anna")),
    .own .right ⟨30, ""⟩ .system (.update .user "usr-1" (updateUserRole 30 "viewer")),
    .pull .right ⟨40, "", ""⟩, .pull .left ⟨40, "", ""⟩]

theorem hubs_converge_crossing_updates :
    SameConfig ((run Peered.step (start oneUser oneUser) crossingUpdates).hub .left)
      ((run Peered.step (start oneUser oneUser) crossingUpdates).hub .right) := by
  refine hubs_converge _ _ (fun _ _ => rfl) _ ?_ ?_
  · refine ⟨admissible_touch ?_, admissible_touch ?_, ?_, ?_, trivial⟩
    · intro stored row hget hguard
      obtain rfl := Option.some.inj hget
      obtain rfl := Except.ok.inj hguard
      exact ⟨by decide, by decide, nofun⟩
    · intro stored row hget hguard
      obtain rfl := Option.some.inj hget
      obtain rfl := Except.ok.inj hguard
      refine ⟨by decide, by decide, fun d hd => ?_⟩
      obtain rfl := List.mem_singleton.1 hd
      exact fun _ => by decide
    · intro e he
      obtain rfl := Option.some.inj he
      refine ⟨rfl, fun m hm _ => ?_, fun _ _ _ hd => by cases hd⟩
      obtain rfl : Model.user = m := Option.some.inj hm
      refine ⟨.system, ⟨rfl, fun hm => ?_, by decide, by decide⟩, rfl, fun _ _ => rfl⟩
      rcases hm with hm | hm <;> cases hm
    · intro e he
      obtain rfl := Option.some.inj he
      refine ⟨rfl, fun m hm _ => ?_, fun _ _ _ hd => by cases hd⟩
      obtain rfl : Model.user = m := Option.some.inj hm
      refine ⟨.system, ⟨rfl, fun hm => ?_, by decide, by decide⟩, rfl, fun _ _ => rfl⟩
      rcases hm with hm | hm <;> cases hm
  · intro s
    cases s <;> rfl

/-- A hub with a device. -/
def oneDevice : Hub :=
  (twoOrganizations false).put .device "dev-a" (deviceRow "dev-a" "site-a" "Pump" false 10)
    (by decide)

/-- A command holds the device off on one hub, and the other pulls what that emits. -/
def holdOff : List PeeredStep :=
  [.own .left ⟨20, ""⟩ .system (.update .device "dev-a"
      (holdOffChange "relay_off" true (deviceRow "dev-a" "site-a" "Pump" false 10))),
    .pull .right ⟨30, "", ""⟩]

/-- The hubs had the same rows and have pulled everything, and one holds the device off. -/
theorem hold_off_not_replicated :
    let p := run Peered.step (start oneDevice oneDevice) holdOff
    SameConfig oneDevice oneDevice ∧ (p.outbox .left).length = 1 ∧ (∀ s, p.pending s = []) ∧
      ¬ SameConfig (p.hub .left) (p.hub .right) := by
  refine ⟨fun _ _ => rfl, rfl, fun s => ?_, fun hsame => ?_⟩
  · cases s <;> rfl
  · have hflag := congrArg (Option.map (· .isHeldOff)) (hsame .device "dev-a")
    revert hflag
    decide

end RebooterHub.Sync
