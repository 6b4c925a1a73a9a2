import RebooterHub.Support.Runs
import RebooterHub.Sync.Snapshots
import RebooterHub.Sync.Effects

/-!
# Sync — Deletion

Whether a row that was deleted on a hub stays away.

A peer's delete event leaves a tombstone, which the applier looks for under the event's entity id;
a deletion of the hub's own leaves none.  `History` records both kinds of deletion beside the hub.
`Guarded` is the condition on a step: no event reaches the insert for an id the hub has deleted
itself, or, by a payload that names another id than the event does, for one a peer has.
`deleted_stays_absent` is the result over runs.
-/

namespace RebooterHub.Sync
open RebooterHub.Runs

/-- A hub, and the rows that have been deleted on it. -/
structure History where
  hub : Hub
  deletedHere : List (Model × String)
  deletedByPeer : List (Model × String)

/-- A transaction of the hub's own, or the application of an event. -/
inductive HistoryStep where
  | own (env : LocalEnv) (scope : Scope) (op : LocalOp)
  | peer (env : ApplyEnv) (e : OutboxEvent)

/-- The row an operation deletes where it succeeds. -/
def LocalOp.deletedRow (h : Hub) (scope : Scope) : LocalOp → List (Model × String)
  | .delete m id => if (h.get scope m id).isSome then [(m, id)] else []
  | .create .. | .update .. => []

/-- The row an applied delete event leaves absent. -/
def deletedRow (h' : Hub) (e : OutboxEvent) (wasApplied : Bool) : List (Model × String) :=
  match Model.ofText e.entityType, deletes e with
  | some m, some target => if wasApplied ∧ (h'.row m target).isNone then [(m, target)] else []
  | _, _ => []

/-- The id a row created for an event gets: the payload's, else the event's. -/
def insertKey (env : ApplyEnv) (m : Model) (e : OutboxEvent) : Option String :=
  match columnsOf m e.payload .id with
  | none => some e.entityId
  | some .null => some env.newId
  | some (.text id) => some id
  | some _ => none

/-- The event reaches the insert, of a row `id`. -/
structure Inserts (env : ApplyEnv) (h : Hub) (m : Model) (e : OutboxEvent) (id : String) : Prop where
  tombstoned : h.isTombstoned e.entityId = false
  entityType : Model.ofText e.entityType = some m
  deletes : deletes e = none
  notFound : ∃ scope, eventScope h e = .ok scope ∧
    findExisting h scope m e.entityId (columnsOf m e.payload) = none
  key : insertKey env m e = some id

namespace History

/-- Before anything was deleted. -/
def start (hub : Hub) : History := ⟨hub, [], []⟩

/-- The row has been deleted on the hub. -/
def Deleted (s : History) (m : Model) (id : String) : Prop :=
  (m, id) ∈ s.deletedHere ∨ (m, id) ∈ s.deletedByPeer

instance (s : History) (m : Model) (id : String) : Decidable (s.Deleted m id) :=
  inferInstanceAs (Decidable (_ ∨ _))

/-- What a step does. -/
def step (s : History) : HistoryStep → History
  | .own env scope op => match op.perform env scope s.hub with
    | .error _ => s
    | .ok (hub, _) =>
      { s with hub, deletedHere := s.deletedHere ++ op.deletedRow s.hub scope }
  | .peer env e => match applyOutboxEvent env s.hub e with
    | .error _ => s
    | .ok (hub, wasApplied) =>
      { s with hub, deletedByPeer := s.deletedByPeer ++ deletedRow hub e wasApplied }

/-- The ids a hub generates are not those of deleted rows, and an event that reaches the insert
does so for an id that was not deleted here, nor, where it is not the event's own id, by a peer. -/
def Guarded (s : History) : HistoryStep → Prop
  | .own env _ (.create m _) => ¬ s.Deleted m env.newId
  | .own _ _ (.update ..) | .own _ _ (.delete ..) => True
  | .peer env e => ¬ s.Deleted .site env.newSiteId ∧
      ∀ m id, Inserts env s.hub m e id →
        (m, id) ∉ s.deletedHere ∧ (id ≠ e.entityId → (m, id) ∉ s.deletedByPeer)

end History

/-- No row appears but those in `new`, and no tombstone goes. -/
structure Hub.Gains (new : Model → String → Prop) (h h' : Hub) : Prop where
  absent : ∀ m id, h.row m id = none → ¬ new m id → h'.row m id = none
  tombstoned : ∀ entityId, h.isTombstoned entityId = true → h'.isTombstoned entityId = true

variable {new : Model → String → Prop} {env : ApplyEnv} {h h' h₁ : Hub} {m : Model} {id : String}
  {e : OutboxEvent} {row : Row} {scope : Scope} {incoming : Payload}

/-! ### What a step can create -/

theorem Hub.Gains.refl (h : Hub) : h.Gains new h := ⟨fun _ _ habsent _ => habsent, fun _ => id⟩

theorem Hub.Gains.trans {h'' : Hub} (h₁ : h.Gains new h') (h₂ : h'.Gains new h'') :
    h.Gains new h'' :=
  ⟨fun m id habsent hnew => h₂.absent m id (h₁.absent m id habsent hnew) hnew,
    fun entityId ht => h₂.tombstoned entityId (h₁.tombstoned entityId ht)⟩

/-- A row is stored that there was, or that is one of the new ones. -/
theorem Hub.gains_put (w : WellFormed m id row) (hw : h.row m id = none → new m id) :
    h.Gains new (h.put m id row w) := by
  refine ⟨fun m' id' habsent hnew => ?_, fun _ ht => ht⟩
  rw [Hub.row_put_of_ne w, habsent]
  rintro ⟨rfl, rfl⟩
  exact hnew (hw habsent)

theorem Hub.gains_drop (m : Model) (id : String) : h.Gains new (h.drop m id) := by
  refine ⟨fun m' id' habsent _ => ?_, fun _ ht => ht⟩
  by_cases hself : m' = m ∧ id' = id
  · obtain ⟨rfl, rfl⟩ := hself
    exact Hub.row_drop_self
  · rw [Hub.row_drop_of_ne hself, habsent]
    rfl

theorem Hub.isTombstoned_addTombstone (now : Time) (entityId entityType : String) (seq : Nat) :
    (h.addTombstone now entityId entityType seq).isTombstoned entityId = true := by
  unfold Hub.addTombstone
  split
  · case _ ht => exact ht
  · simp [Hub.isTombstoned]

theorem Hub.gains_addTombstone (now : Time) (entityId entityType : String) (seq : Nat) :
    h.Gains new (h.addTombstone now entityId entityType seq) := by
  refine ⟨fun m id habsent _ => by rw [row_addTombstone, habsent], fun id ht => ?_⟩
  unfold Hub.addTombstone
  split
  · exact ht
  · unfold Hub.isTombstoned at ht ⊢
    rw [List.any_append, ht]
    rfl

/-- A delete event creates nothing, and leaves a tombstone. -/
theorem applyDelete_ok {target : String} {b : Bool}
    (ha : applyDelete env h scope m e target = .ok (h', b)) :
    h.Gains new h' ∧ h'.isTombstoned target = true := by
  have hgains : h.Gains new _ := Hub.gains_addTombstone env.now target e.entityType e.seq
  have ht := Hub.isTombstoned_addTombstone (h := h) env.now target e.entityType e.seq
  unfold applyDelete at ha
  dsimp only at ha
  split at ha
  · cases ha
    exact ⟨hgains, ht⟩
  · obtain ⟨h₂, hflush, heq⟩ := exists_of_map_eq_ok ha
    cases heq
    unfold Hub.flushDelete at hflush
    split at hflush
    · cases hflush
    · cases hflush
      exact ⟨hgains.trans (Hub.gains_drop m target), ht⟩

theorem insertKey_of_inserted
    (hr : remapSite env h scope m (pinOrganization scope m (columnsOf m e.payload)) =
      .ok (h₁, incoming))
    (hid : insertedRow m env.now env.newId (withId e.entityId incoming) .id = .text id) :
    insertKey env m e = some id := by
  have hcol : incoming .id = columnsOf m e.payload .id := by
    rw [(remapSite_ok hr).2 .id (by decide)]
    unfold pinOrganization
    split
    · rfl
    split
    · exact Function.update_of_ne (by decide) ..
    · rfl
  unfold insertedRow at hid
  rw [if_neg (not_not_intro m.id_mem), if_pos rfl] at hid
  unfold insertKey
  rw [← hcol]
  unfold withId at hid
  cases hi : incoming .id with
  | none =>
    rw [hi, if_neg (by simp), Function.update_self] at hid
    exact congrArg some (Json.str.inj (Value.json.inj hid))
  | some v =>
    dsimp only at hid
    rw [hi, if_pos (by rfl), hi] at hid
    dsimp only at hid
    split at hid
    · case _ hnull =>
      rw [hnull.1]
      exact congrArg some (Json.str.inj (Value.json.inj hid))
    · rw [hid]

/-- What an event can create: the row it reaches the insert for, and the default site. -/
theorem applied_gains {b : Bool} (ha : applyOutboxEvent env h e = .ok (h', b)) :
    h.Gains (fun m id => Inserts env h m e id ∨ m = .site ∧ id = env.newSiteId) h' := by
  unfold applyOutboxEvent at ha
  split at ha
  · cases ha
  case _ scope hscope =>
  unfold applyScoped at ha
  split at ha
  · cases ha
    exact Hub.Gains.refl _
  case _ ht =>
  split at ha
  · cases ha
    exact Hub.Gains.refl _
  case _ m htype =>
  split at ha
  · exact (applyDelete_ok ha).1
  case _ hdeletes =>
  have hremapped : ∀ {h₁ : Hub} {incoming : Payload},
      remapSite env h scope m (pinOrganization scope m (columnsOf m e.payload)) =
        .ok (h₁, incoming) →
      h.Gains (fun m id => Inserts env h m e id ∨ m = .site ∧ id = env.newSiteId) h₁ := by
    intro h₁ incoming hr
    rcases (remapSite_ok hr).1 with rfl | ⟨-, row, w, -, rfl⟩
    · exact Hub.Gains.refl _
    · exact Hub.gains_put w fun _ => .inr ⟨rfl, rfl⟩
  cases applyUpsert_effect ha with
  | nothing => exact Hub.Gains.refl _
  | stale hr => exact hremapped hr
  | created hr hfind hid _ _ haccepts =>
    refine (hremapped hr).trans (Hub.gains_put haccepts.wellFormed fun _ => .inl ?_)
    exact ⟨by simpa using ht, htype, hdeletes, ⟨scope, hscope, findExisting_columnsOf hr ▸ hfind⟩,
      insertKey_of_inserted hr hid⟩
  | @updated h₁ incoming time id row row' _ hr _ hfind _ _ haccepts =>
    refine (hremapped hr).trans (Hub.gains_put haccepts.wellFormed fun habsent => ?_)
    have hrow := Hub.extends_of_remapSite hr m id row (findExisting_row hfind)
    rw [habsent] at hrow
    cases hrow

/-- What an applied delete event counts as deleted has a tombstone. -/
theorem isTombstoned_of_mem_deletedRow {b : Bool} (ha : applyOutboxEvent env h e = .ok (h', b))
    (hm : (m, id) ∈ deletedRow h' e b) : h'.row m id = none ∧ h'.isTombstoned id = true := by
  unfold deletedRow at hm
  split at hm
  · case _ m' target htype hdeletes =>
    split at hm
    · case _ hc =>
      obtain ⟨rfl, habsent⟩ := hc
      cases List.mem_singleton.1 hm
      refine ⟨by simpa using habsent, ?_⟩
      unfold applyOutboxEvent at ha
      split at ha
      · cases ha
      unfold applyScoped at ha
      split at ha
      · cases ha
      rw [htype] at ha
      dsimp only at ha
      rw [hdeletes] at ha
      have hspec : h.Gains (fun _ _ => False) h' ∧ _ := applyDelete_ok ha
      exact hspec.2
    · cases hm
  · cases hm

/-- What an operation of the hub can create: a row under a generated id. -/
theorem perform_gains {env : LocalEnv} {op : LocalOp} {es : List OutboxEvent}
    (hp : op.perform env scope h = .ok (h', es)) :
    h.Gains (fun m id => (∃ values, op = .create m values) ∧ id = env.newId) h' := by
  cases op with
  | create m values =>
    obtain ⟨row, w, -, -, rfl, -⟩ := perform_create_ok hp
    exact Hub.gains_put w fun _ => ⟨⟨values, rfl⟩, rfl⟩
  | update m id changes =>
    rcases perform_update_ok hp with ⟨rfl, -⟩ | ⟨row, row', w, hget, -, rfl, -⟩
    · exact Hub.Gains.refl _
    · refine Hub.gains_put w fun habsent => ?_
      have hrow := (Hub.get_eq_some.1 hget).1
      rw [habsent] at hrow
      cases hrow
  | delete m id =>
    rcases perform_delete_ok hp with ⟨-, rfl, -⟩ | ⟨-, rfl, -⟩
    · exact Hub.Gains.refl _
    · exact Hub.gains_drop m id

theorem row_of_mem_deletedRow {env : LocalEnv} {op : LocalOp} {es : List OutboxEvent}
    (hp : op.perform env scope h = .ok (h', es)) (hm : (m, id) ∈ op.deletedRow h scope) :
    h'.row m id = none := by
  cases op with
  | create m' values | update m' id' changes => cases hm
  | delete m' id' =>
    unfold LocalOp.deletedRow at hm
    dsimp only at hm
    split at hm
    · case _ hsome =>
      cases List.mem_singleton.1 hm
      rcases perform_delete_ok hp with ⟨hnone, -⟩ | ⟨-, rfl, -⟩
      · rw [hnone] at hsome
        cases hsome
      · exact Hub.row_drop_self
    · cases hm

/-! ### Runs -/

namespace History

/-- Deleted rows are absent, and those a peer deleted have tombstones. -/
structure Inv (s : History) : Prop where
  absent : ∀ m id, s.Deleted m id → s.hub.row m id = none
  tombstoned : ∀ m id, (m, id) ∈ s.deletedByPeer → s.hub.isTombstoned id = true

theorem inv_start (hub : Hub) : (start hub).Inv := by
  refine ⟨fun m id hd => ?_, fun m id hd => ?_⟩
  · rcases hd with hd | hd <;> cases hd
  · cases hd

/-- A guarded step keeps the invariant. -/
theorem Inv.step {s : History} (hi : s.Inv) {l : HistoryStep} (hg : s.Guarded l) :
    (s.step l).Inv := by
  cases l with
  | own env scope op =>
    unfold History.step
    dsimp only
    cases hp : op.perform env scope s.hub with
    | error x => exact hi
    | ok r =>
      obtain ⟨h', es⟩ := r
      have hgains := perform_gains hp
      refine ⟨fun m id hd => ?_, fun m id hd => hgains.tombstoned id (hi.tombstoned m id hd)⟩
      have hold : s.Deleted m id → h'.row m id = none := by
        intro hbefore
        refine hgains.absent m id (hi.absent m id hbefore) ?_
        rintro ⟨⟨values, rfl⟩, rfl⟩
        exact hg hbefore
      rcases hd with hd | hd
      · rcases List.mem_append.1 hd with hd | hd
        · exact hold (.inl hd)
        · exact row_of_mem_deletedRow hp hd
      · exact hold (.inr hd)
  | peer env e =>
    obtain ⟨hsite, hinserts⟩ := hg
    unfold History.step
    dsimp only
    cases ha : applyOutboxEvent env s.hub e with
    | error x => exact hi
    | ok r =>
      obtain ⟨h', b⟩ := r
      have hgains := applied_gains ha
      have hold : ∀ m id, s.Deleted m id → h'.row m id = none := by
        intro m id hd
        refine hgains.absent m id (hi.absent m id hd) ?_
        rintro (hins | ⟨rfl, rfl⟩)
        · obtain ⟨hhere, hpeer⟩ := hinserts m id hins
          rcases hd with hd | hd
          · exact hhere hd
          -- a peer's deletion left a tombstone, so the event names another entity
          · refine hpeer ?_ hd
            rintro rfl
            have ht := hi.tombstoned m e.entityId hd
            rw [hins.tombstoned] at ht
            cases ht
        · exact hsite hd
      refine ⟨fun m id hd => ?_, fun m id hd => ?_⟩
      · rcases hd with hd | hd
        · exact hold m id (.inl hd)
        rcases List.mem_append.1 hd with hd | hd
        · exact hold m id (.inr hd)
        · exact (isTombstoned_of_mem_deletedRow ha hd).1
      · rcases List.mem_append.1 hd with hd | hd
        · exact hgains.tombstoned id (hi.tombstoned m id hd)
        · exact (isTombstoned_of_mem_deletedRow ha hd).2

theorem Deleted.step {s : History} (hd : s.Deleted m id) (l : HistoryStep) :
    (s.step l).Deleted m id := by
  cases l with
  | own env scope op =>
    unfold History.step
    dsimp only
    cases op.perform env scope s.hub with
    | error x => exact hd
    | ok r => exact hd.imp_left (List.mem_append_left _)
  | peer env e =>
    unfold History.step
    dsimp only
    cases applyOutboxEvent env s.hub e with
    | error x => exact hd
    | ok r => exact hd.imp_right (List.mem_append_left _)

theorem Deleted.run {s : History} (hd : s.Deleted m id) (steps : List HistoryStep) :
    (run History.step s steps).Deleted m id := by
  induction steps generalizing s with
  | nil => exact hd
  | cons l ls ih => exact ih (hd.step l)

end History

open History

/-- **No resurrection.**  In a run of guarded steps, of the hub's own operations and of events in
any order, a row that has been deleted is absent in every later state. -/
theorem deleted_stays_absent (hub : Hub) (steps later : List HistoryStep) (m : Model) (id : String)
    (hg : Admits History.step Guarded (start hub) (steps ++ later))
    (hd : (run History.step (start hub) steps).Deleted m id) :
    (run History.step (start hub) (steps ++ later)).hub.row m id = none := by
  have hinv : (run History.step (start hub) (steps ++ later)).Inv :=
    run_invariant (fun _ _ hi hg => hi.step hg) (inv_start hub) hg
  refine hinv.absent m id ?_
  rw [run_append]
  exact hd.run later

/-- The event of a peer's change to a site of the second organization. -/
def siteUpdate (t : Time) : OutboxEvent :=
  updatedEvent .site "site-b" (siteRow "site-b" "org-b" "Cellar" t) (some "org-b")

theorem deleted_stays_absent_late_update :
    (run History.step (start (twoOrganizations false))
      ([.peer ⟨20, "", "site-c"⟩ (claimedDelete .site "site-b" "org-b")] ++
        [.peer ⟨30, "", "site-c"⟩ (siteUpdate 30)])).hub.row .site "site-b" = none := by
  refine deleted_stays_absent _ _ _ _ _ ?_ (.inr (by decide))
  refine ⟨⟨by decide, fun m id hins => ?_⟩, ⟨by decide, fun m id hins => ?_⟩, trivial⟩
  · exact absurd hins.deletes (by decide)
  · exact absurd hins.tombstoned (by decide)

/-- A hub deletes a site itself, and a peer's change to it brings the site back; and so does, after
a peer's delete event, an event about another entity whose payload has the site's id. -/
theorem deleted_comes_back :
    let own : List HistoryStep := [.own ⟨20, ""⟩ .system (.delete .site "site-b")]
    let peer : List HistoryStep :=
      [.peer ⟨20, "", "site-c"⟩ (claimedDelete .site "site-b" "org-b")]
    let late : HistoryStep := .peer ⟨30, "", "site-c"⟩ (siteUpdate 30)
    let other : HistoryStep := .peer ⟨30, "", "site-c"⟩ { siteUpdate 30 with entityId := "site-d" }
    let s := start (twoOrganizations false)
    ((run History.step s own).Deleted .site "site-b" ∧
      ((run History.step s (own ++ [late])).hub.row .site "site-b").isSome = true) ∧
    ((run History.step s peer).Deleted .site "site-b" ∧
      ((run History.step s (peer ++ [other])).hub.row .site "site-b").isSome = true) :=
  ⟨⟨.inl (by decide), by decide⟩, .inr (by decide), by decide⟩

end RebooterHub.Sync
