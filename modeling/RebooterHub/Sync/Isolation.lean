import RebooterHub.Sync.Effects
import RebooterHub.Sync.Snapshots

/-!
# Sync — Isolation

Whose rows an event may touch: the claim of an event names an organization, and a row that belongs
to another one should stay as it is.

The filter of enforce mode hides sites and groups of other organizations from the applier, devices
it does not know of, and shadow mode filters nothing; `Trespass` says when an event reaches a row
of another organization, and `untouched_iff` that there is no other way.
-/

namespace RebooterHub.Sync

/-- The row belongs to an organization, by its own `organization_id` or through its site. -/
def Belongs (h : Hub) (m : Model) (row : Row) (org : String) : Prop :=
  (m.tenantScoped = true ∧ row .organizationId = .text org) ∨
    ((m = .device ∨ m = .group) ∧ ∃ id site, row .siteId = .text id ∧
      h.row .site id = some site ∧ site .organizationId = .text org)

/-- The row belongs to an organization other than `org`. -/
def Foreign (h : Hub) (org : String) (m : Model) (row : Row) : Prop :=
  ∃ other, Belongs h m row other ∧ other ≠ org

/-- Every row of another organization is as it was. -/
def Untouched (h h' : Hub) (org : String) : Prop :=
  ∀ m id row, h.row m id = some row → Foreign h org m row → h'.row m id = some row

/-- A delete event reaches a row of another organization: it finds one under the id it deletes, or
the row it deletes is one that such a row refers to. -/
def TrespassDelete (h : Hub) (org : String) (m : Model) (target : String) : Prop :=
  ¬ h.Blocked m target ∧ (h.get (.org org) m target).isSome = true ∧
    ∃ m' id row, h.row m' id = some row ∧ Foreign h org m' row ∧
      ((m' = m ∧ id = target) ∨ m'.RefersTo row m target)

/-- A create or update event reaches a row of another organization: it finds one under its id or
its natural key, is newer, and the columns it sets differ from the row's and meet the constraints. -/
def TrespassUpsert (env : ApplyEnv) (h : Hub) (org : String) (m : Model) (e : OutboxEvent) : Prop :=
  (m.columns.all fun c => (columnsOf m e.payload c).isNone) = false ∧
    ∃ h₁ incoming updated id row,
      remapSite env h (.org org) m (pinOrganization (.org org) m (columnsOf m e.payload)) =
        .ok (h₁, incoming) ∧
      incomingUpdated e = .ok updated ∧
      findExisting h (.org org) m e.entityId incoming = some (id, row) ∧ Foreign h org m row ∧
      isStale updated (some row.stamp) = false ∧
      updatedRow row incoming ≠ row ∧ h₁.Accepts m id (updatedRow row incoming)

/-- An event reaches a row of an organization other than the one it claims. -/
def Trespass (env : ApplyEnv) (h : Hub) (org : String) (e : OutboxEvent) : Prop :=
  (∃ o ∈ h.organizations, o.id = org) ∧ h.isTombstoned e.entityId = false ∧
    ∃ m, Model.ofText e.entityType = some m ∧
      match deletes e with
      | some target => TrespassDelete h org m target
      | none => TrespassUpsert env h org m e

variable {env : ApplyEnv} {h h' h₁ : Hub} {org : String} {m : Model} {id : String} {e : OutboxEvent}
  {row : Row} {scope : Scope} {incoming incoming' : Payload}

theorem Hub.Extends.untouched (hx : h.Extends h') (org : String) : Untouched h h' org :=
  fun m id row hrow _ => hx m id row hrow

theorem clear_ne_of_refersTo {m' : Model} {target : String} (hblocked : ¬ h.Blocked m target)
    (hrow : h.row m' id = some row) (hr : m'.RefersTo row m target) :
    m'.clear m target row ≠ row := by
  obtain ⟨⟨c, m₀⟩, hp, rfl, hc⟩ := hr
  have hnullable : c ∉ m'.required := fun hreq =>
    hblocked ⟨m', m'.mem_all, (id, row), Table.mem_entries.2 hrow, (c, m₀), hp, rfl, hreq, hc⟩
  intro heq
  have := congrFun heq c
  rw [Model.clear, if_pos ⟨hp, hnullable, hc⟩, hc] at this
  cases this

theorem untouched_of_row_eq (hrow : h'.row = h.row) (org : String) : Untouched h h' org := by
  intro m id row hr _
  rw [hrow]
  exact hr

theorem untouched_drop_iff {target : String} (hblocked : ¬ h.Blocked m target)
    (hget : (h.get (.org org) m target).isSome = true) (hrow : h'.row = (h.drop m target).row) :
    Untouched h h' org ↔ ¬ TrespassDelete h org m target := by
  constructor
  · rintro huntouched ⟨-, -, m', id, row, hr, hforeign, hreach⟩
    have hsame := huntouched m' id row hr hforeign
    rw [hrow] at hsame
    by_cases hself : m' = m ∧ id = target
    · obtain ⟨rfl, rfl⟩ := hself
      rw [Hub.row_drop_self] at hsame
      cases hsame
    · rw [Hub.row_drop_of_ne hself, hr] at hsame
      exact clear_ne_of_refersTo hblocked hr (hreach.resolve_left hself) (Option.some.inj hsame)
  · intro hnot m' id row hr hforeign
    rw [hrow]
    have hreach : ¬ ((m' = m ∧ id = target) ∨ m'.RefersTo row m target) := fun hreach =>
      hnot ⟨hblocked, hget, m', id, row, hr, hforeign, hreach⟩
    rw [not_or] at hreach
    rw [Hub.row_drop_of_ne hreach.1, hr, Option.map_some, Model.clear_of_not_refersTo hreach.2]

theorem untouched_delete_iff (target : String) :
    (∀ h' b, applyDelete env h (.org org) m e target = .ok (h', b) → Untouched h h' org) ↔
      ¬ TrespassDelete h org m target := by
  have hspec := applyDelete_row env h (.org org) m e target
  split at hspec
  · case _ hc =>
    obtain ⟨h', heq, hrow⟩ := hspec
    rw [← untouched_drop_iff hc.2 hc.1 hrow]
    constructor
    · exact fun hall => hall h' true heq
    · intro huntouched h'' b heq'
      cases heq.symm.trans heq'
      exact huntouched
  · case _ hc =>
    refine iff_of_true (fun h' b heq => untouched_of_row_eq (hspec h' b heq) org) ?_
    rintro ⟨hblocked, hget, -⟩
    exact hc ⟨hget, hblocked⟩

theorem untouched_upsert_iff :
    (∀ h' b, applyUpsert env h (.org org) m e = .ok (h', b) → Untouched h h' org) ↔
      ¬ TrespassUpsert env h org m e := by
  constructor
  · rintro hall ⟨hsome, h₁, incoming, updated, id, row, hr, hu, hf, hforeign, hstale, hne, ha⟩
    have huntouched := hall _ _ (applyUpsert_update hsome hr hu hf hstale ha)
    have hsame := huntouched m id row (findExisting_row hf) hforeign
    rw [Hub.row_put_self] at hsame
    exact hne (Option.some.inj hsame)
  · intro hnot h' b heq
    cases applyUpsert_effect heq with
    | nothing => exact (Hub.Extends.refl h).untouched org
    | stale hr => exact (Hub.extends_of_remapSite hr).untouched org
    | created hr hf hid hguard hnew ha =>
      exact ((Hub.extends_of_remapSite hr).trans (Hub.extends_put ha.wellFormed hnew)).untouched org
    | @updated h₁ incoming updated id row row' hsome hr hu hf hstale hguard ha =>
      obtain rfl : updatedRow row incoming = row' :=
        Except.ok.inj ((guardWrite_of_remapped hr).symm.trans hguard)
      intro m' id' row' hrow' hforeign
      by_cases hself : m' = m ∧ id' = id
      · obtain ⟨rfl, rfl⟩ := hself
        obtain rfl : row = row' := Option.some.inj ((findExisting_row hf).symm.trans hrow')
        rw [Hub.row_put_self]
        by_contra hne
        exact hnot ⟨hsome, h₁, incoming, updated, id', row, hr, hu, hf, hforeign, hstale,
          fun heq => hne (congrArg some heq), ha⟩
      · rw [Hub.row_put_of_ne ha.wellFormed hself]
        exact Hub.extends_of_remapSite hr m' id' row' hrow'

theorem untouched_applied_iff :
    Untouched h (applied env h e) org ↔
      ∀ h' b, applyOutboxEvent env h e = .ok (h', b) → Untouched h h' org := by
  unfold applied
  cases happly : applyOutboxEvent env h e with
  | error x =>
    refine iff_of_true ((Hub.Extends.refl h).untouched org) ?_
    rintro h' b ⟨⟩
  | ok r =>
    constructor
    · rintro huntouched h' b ⟨⟩
      exact huntouched
    · exact fun hall => hall r.1 r.2 rfl

/-- **Isolation.**  An event that claims an organization leaves every row of another one as it is,
if and only if it does not trespass. -/
theorem untouched_iff_not_trespass (env : ApplyEnv) (h : Hub) (e : OutboxEvent) (org : String)
    (hclaim : eventOrgId e = some org) :
    Untouched h (applied env h e) org ↔ ¬ Trespass env h org e := by
  rw [untouched_applied_iff]
  unfold applyOutboxEvent eventScope Trespass
  rw [hclaim]
  dsimp only
  have hextends : ∀ h' b, Except.ok (h, false) = (.ok (h', b) : Except SyncError (Hub × Bool)) →
      Untouched h h' org := by
    rintro h' b ⟨⟩
    exact (Hub.Extends.refl h).untouched org
  by_cases horg : ∃ o ∈ h.organizations, o.id = org
  · rw [if_pos (by simpa using horg)]
    dsimp only
    unfold applyScoped
    cases ht : h.isTombstoned e.entityId with
    | true => exact iff_of_true hextends (by simp)
    | false =>
      cases htype : Model.ofText e.entityType with
      | none => exact iff_of_true hextends (by simp)
      | some m =>
        cases hdeletes : deletes e with
        | some target => simpa [horg] using untouched_delete_iff target
        | none => simpa [horg] using untouched_upsert_iff
  · rw [if_neg (by simpa using horg)]
    refine iff_of_true ?_ fun htrespass => horg htrespass.1
    rintro h' b ⟨⟩

theorem untouched_iff_not_trespass_hidden_site :
    Untouched (twoOrganizations true)
      (applied ⟨30, "", ""⟩ (twoOrganizations true) (claimedDelete .site "site-b" "org-a"))
      "org-a" := by
  refine (untouched_iff_not_trespass _ _ _ "org-a" rfl).2 ?_
  rintro ⟨-, -, m, hm, htrespass⟩
  obtain rfl : Model.site = m := Option.some.inj hm
  exact absurd htrespass.2.1 (by decide)

/-- A hub in enforce mode, with a device of the second organization. -/
def foreignDevice : Hub :=
  (twoOrganizations true).put .device "dev-b" (deviceRow "dev-b" "site-b" "Pump" false 10)
    (by decide)

/-- An event that claims the first organization takes the device into it, enforce mode or not. -/
theorem foreign_device_rehomed :
    let e := updatedEvent .device "dev-b" (deviceRow "dev-b" "site-a" "Pump" false 20) (some "org-a")
    eventOrgId e = some "org-a" ∧
      Foreign foreignDevice "org-a" .device (deviceRow "dev-b" "site-b" "Pump" false 10) ∧
      ¬ Untouched foreignDevice (applied ⟨30, "", ""⟩ foreignDevice e) "org-a" := by
  have hforeign : Foreign foreignDevice "org-a" .device
      (deviceRow "dev-b" "site-b" "Pump" false 10) :=
    ⟨"org-b", .inr ⟨.inl rfl, "site-b", _, rfl, rfl, rfl⟩, by decide⟩
  refine ⟨rfl, hforeign, fun huntouched => ?_⟩
  have hsame := congrArg (Option.map (· .siteId))
    (huntouched .device "dev-b" (deviceRow "dev-b" "site-b" "Pump" false 10) rfl hforeign)
  revert hsame
  decide

end RebooterHub.Sync
