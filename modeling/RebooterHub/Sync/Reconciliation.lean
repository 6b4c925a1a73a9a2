import RebooterHub.Support.Runs
import RebooterHub.Sync.Effects
import RebooterHub.Sync.Snapshots

/-!
# Sync — Reconciliation

A peer's row `x` that the hub has under another id, `y`: the applier finds it by its natural key.

Nothing records that `x` is `y` here; every event about `x` looks the key up again, and a delete
event does not look it up at all.  `KeepsKey` is what an event has to meet for the lookup to give
`y`, and `reconciliation_kept` says that as long as every event meets it, each acts on `y` alone.
-/

namespace RebooterHub.Sync
open RebooterHub.Runs

/-- The applier finds no row `x` for the event about it, and takes it for the row `y` that has its
natural key. -/
structure Reconciles (h : Hub) (m : Model) (x y : String) (e : OutboxEvent) : Prop where
  entityType : e.entityType = m.text
  entityId : e.entityId = x
  deletes : deletes e = none
  absent : h.row m x = none
  found : ∃ scope, eventScope h e = .ok scope ∧
    (naturalMatches h scope m (columnsOf m e.payload)).head?.map Prod.fst = some y

/-- The event is about `x`, deletes nothing, and where it has a natural key, the row it finds by
that is `y`. -/
def KeepsKey (m : Model) (x y : String) (h : Hub) (p : ApplyEnv × OutboxEvent) : Prop :=
  (p.2.entityType = m.text ∧ p.2.entityId = x) ∧ deletes p.2 = none ∧
    match eventScope h p.2 with
    | .error _ => True
    | .ok scope => (incomingKey m (columnsOf m p.2.payload)).isSome = true →
        (naturalMatches h scope m (columnsOf m p.2.payload)).head?.map Prod.fst = some y

/-- What events about `x` have done to the hub if each acted on `y`. -/
structure ActedOn (m : Model) (x y : String) (h h' : Hub) : Prop where
  absent : h'.row m x = none
  present : (h'.row m y).isSome = true
  keys : ∀ id, (h'.row m id).isSome = (h.row m id).isSome
  others : ∀ m' id row, ¬ (m' = m ∧ id = y) → h.row m' id = some row → h'.row m' id = some row

variable {env : ApplyEnv} {h h' h₁ : Hub} {m : Model} {id x y : String} {e : OutboxEvent}
  {row : Row} {scope : Scope} {incoming incoming' : Payload}

/-! ### Events about a reconciled row -/

/-- A row without its natural key is not accepted. -/
theorem not_accepts_of_incomingKey (hm : m.naturalKey.isSome = true)
    (hkey : incomingKey m incoming = none) {now : Time} {newId : String}
    (hguard : h.guardWrite scope m (insertedRow m now newId (withId e.entityId incoming)) =
      .ok row) : ¬ h.Accepts m id row := by
  obtain ⟨c, hc⟩ := Option.isSome_iff_exists.1 hm
  obtain ⟨hmem, hreq, hid, -, horg, hjson, hdefault⟩ := Model.naturalKey_spec hc
  intro ha
  refine ha.wellFormed.required c hreq ?_
  have hcell : withId e.entityId incoming c = incoming c := by
    unfold withId
    split
    · rfl
    · exact Function.update_of_ne hid ..
  have hnull : insertedRow m now newId (withId e.entityId incoming) c = .null := by
    unfold insertedRow
    rw [if_neg (not_not_intro hmem), hcell, if_neg hid, hdefault]
    unfold incomingKey at hkey
    rw [hc] at hkey
    dsimp only at hkey ⊢
    split
    · rfl
    · case _ v hv =>
      rw [hv] at hkey
      split at hkey
      · case _ heq => cases heq
      · case _ heq => simp [Option.some.inj heq, hjson]
      · cases hkey
  exact (guardWrite_apply hguard horg).trans hnull

theorem ActedOn.refl (hx : h.row m x = none) (hy : (h.row m y).isSome = true) :
    ActedOn m x y h h :=
  ⟨hx, hy, fun _ => rfl, fun _ _ _ _ => id⟩

/-- The default site is created at most. -/
theorem ActedOn.remapped (ha : ActedOn m x y h h')
    (hr : remapSite env h' scope m incoming = .ok (h₁, incoming')) : ActedOn m x y h h₁ := by
  have hrow : ∀ id, h₁.row m id = h'.row m id := by
    intro id
    rcases (remapSite_ok hr).1 with rfl | ⟨hm, row, w, -, rfl⟩
    · rfl
    · exact Hub.row_put_of_ne w fun hself => hm hself.1
  refine ⟨(hrow x).trans ha.absent, by rw [hrow]; exact ha.present, fun id => by rw [hrow, ha.keys],
    fun m' id row hne hr' => Hub.extends_of_remapSite hr m' id row (ha.others m' id row hne hr')⟩

/-- The row `y` is changed. -/
theorem ActedOn.put (ha : ActedOn m x y h h') (w : WellFormed m y row) :
    ActedOn m x y h (h'.put m y row w) := by
  have hxy : x ≠ y := by
    rintro rfl
    have := ha.present
    rw [ha.absent] at this
    cases this
  refine ⟨?_, by rw [Hub.row_put_self]; rfl, ?_, ?_⟩
  · rw [Hub.row_put_of_ne w fun hself => hxy hself.2]
    exact ha.absent
  · intro id
    by_cases hid : id = y
    · subst hid
      rw [Hub.row_put_self, ← ha.keys id, ha.present]
      rfl
    · rw [Hub.row_put_of_ne w fun hself => hid hself.2, ha.keys]
  · intro m' id row' hne hr
    rw [Hub.row_put_of_ne w hne]
    exact ha.others m' id row' hne hr

/-- An event whose natural key is that of `y` acts on `y`. -/
theorem ActedOn.step (hm : m.naturalKey.isSome = true) (ha : ActedOn m x y h h')
    {p : ApplyEnv × OutboxEvent} (hk : KeepsKey m x y h' p) :
    ActedOn m x y h (applied p.1 h' p.2) := by
  obtain ⟨env, e⟩ := p
  obtain ⟨⟨htype, hid⟩, hdeletes, hkey⟩ := hk
  dsimp only at htype hid hdeletes hkey ⊢
  unfold applied
  cases happly : applyOutboxEvent env h' e with
  | error err => exact ha
  | ok r =>
    obtain ⟨h'', b⟩ := r
    dsimp only
    unfold applyOutboxEvent at happly
    cases hscope : eventScope h' e with
    | error err => simp [hscope] at happly
    | ok scope =>
      rw [hscope] at happly hkey
      dsimp only at happly hkey
      unfold applyScoped at happly
      split at happly
      · cases happly
        exact ha
      rw [htype, Model.ofText_text] at happly
      dsimp only at happly
      rw [hdeletes] at happly
      dsimp only at happly
      cases applyUpsert_effect happly with
      | nothing => exact ha
      | stale hr => exact ha.remapped hr
      | created hr hfind _ hguard _ haccepts =>
        -- `x` is absent, so no row had the key: then the event has none, and is not accepted
        exfalso
        unfold findExisting at hfind
        rw [hid, show h'.get scope m x = none by simp [Hub.get, ha.absent]] at hfind
        dsimp only at hfind
        rw [naturalMatches_remapped hr, List.head?_eq_none_iff] at hfind
        cases hk : incomingKey m (columnsOf m e.payload) with
        | none =>
          exact not_accepts_of_incomingKey hm ((incomingKey_remapped hr).trans hk) hguard haccepts
        | some ck =>
          have := hkey (by rw [hk]; rfl)
          rw [hfind] at this
          cases this
      | @updated h₁ incoming time id row row' _ hr _ hfind _ _ haccepts =>
        unfold findExisting at hfind
        rw [hid, show h'.get scope m x = none by simp [Hub.get, ha.absent]] at hfind
        dsimp only at hfind
        rw [naturalMatches_remapped hr] at hfind
        have hsome : (incomingKey m (columnsOf m e.payload)).isSome = true := by
          cases hk : incomingKey m (columnsOf m e.payload) with
          | none => simp [naturalMatches, hk] at hfind
          | some ck => rfl
        have hy := hkey hsome
        rw [hfind] at hy
        obtain rfl : id = y := Option.some.inj hy
        exact (ha.remapped hr).put haccepts.wellFormed

theorem Reconciles.keepsKey (hr : Reconciles h m x y e) (env : ApplyEnv) :
    KeepsKey m x y h (env, e) := by
  obtain ⟨scope, hscope, hfound⟩ := hr.found
  refine ⟨⟨hr.entityType, hr.entityId⟩, hr.deletes, ?_⟩
  dsimp only
  rw [hscope]
  exact fun _ => hfound

theorem Reconciles.present (hr : Reconciles h m x y e) : (h.row m y).isSome = true := by
  obtain ⟨scope, -, hfound⟩ := hr.found
  obtain ⟨p, hp, rfl⟩ := Option.map_eq_some_iff.1 hfound
  have hmem := List.mem_of_head? hp
  unfold naturalMatches at hmem
  split at hmem
  · cases hmem
  · rw [(Hub.mem_select.1 hmem).1]
    rfl

theorem Reconciles.naturalKey (hr : Reconciles h m x y e) : m.naturalKey.isSome = true := by
  obtain ⟨scope, -, hfound⟩ := hr.found
  cases hk : m.naturalKey with
  | some c => rfl
  | none => simp [naturalMatches, incomingKey, hk] at hfound

/-- An event is applied in its own transaction, or changes nothing. -/
def applyStep (h : Hub) (p : ApplyEnv × OutboxEvent) : Hub := applied p.1 h p.2

/-- **Reconciliation is kept** as long as events have the key.  After a create event about `x` that
is taken for `y`, and any sequence of events about `x` none of which deletes it or has another
natural key than `y`: there is no row `x`, there is a row `y`, the table has gained and lost no
row, and no other row has changed. -/
theorem reconciliation_kept (h : Hub) (m : Model) (x y : String) (env : ApplyEnv) (e : OutboxEvent)
    (es : List (ApplyEnv × OutboxEvent)) (hr : Reconciles h m x y e)
    (hkeeps : Admits applyStep (KeepsKey m x y) (applied env h e) es) :
    ActedOn m x y h (run applyStep (applied env h e) es) := by
  have hm := hr.naturalKey
  have hstart := (ActedOn.refl hr.absent hr.present).step hm (hr.keepsKey env)
  exact run_invariant (I := ActedOn m x y h) (fun _ _ ha hk => ha.step hm hk) hstart hkeeps

/-- A hub's own site `Default`, under its own id. -/
def ownDefault : Hub :=
  (Hub.empty [⟨"org-a", "default"⟩] false).put .site "site-y"
    (siteRow "site-y" "org-a" "Default" 10) (by decide)

/-- The peer's event about its `Default`. -/
def peerDefault (name : String) (t : Time) : OutboxEvent :=
  updatedEvent .site "site-x" (siteRow "site-x" "org-a" name t) (some "org-a")

/-- The peer's event about the deletion of its `Default`. -/
def peerDelete : OutboxEvent :=
  { peerDefault "Default" 30 with payload := fun _ => none, tombstoneFor := some "site-x" }

theorem reconciliation_kept_two_updates :
    ActedOn .site "site-x" "site-y" ownDefault
      (run applyStep (applied ⟨20, "", ""⟩ ownDefault (peerDefault "Default" 20))
        [(⟨30, "", ""⟩, peerDefault "Default" 30)]) := by
  refine reconciliation_kept _ _ _ _ _ _ _ ⟨rfl, rfl, rfl, rfl, _, rfl, by decide⟩ ?_
  exact ⟨⟨⟨rfl, rfl⟩, rfl, fun _ => by decide⟩, trivial⟩

/-- After a rename there is a second row, and after a delete event the row is still there. -/
theorem reconciliation_lost :
    let h := applied ⟨20, "", ""⟩ ownDefault (peerDefault "Default" 20)
    Reconciles ownDefault .site "site-x" "site-y" (peerDefault "Default" 20) ∧
      ((applied ⟨30, "", ""⟩ h (peerDefault "Attic" 30)).row .site "site-x").isSome = true ∧
      ((applied ⟨30, "", ""⟩ h peerDelete).row .site "site-y").isSome = true :=
  ⟨⟨rfl, rfl, rfl, rfl, _, rfl, by decide⟩, by decide⟩

end RebooterHub.Sync
