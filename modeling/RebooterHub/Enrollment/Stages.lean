import RebooterHub.Enrollment.Lifecycle
import RebooterHub.Support.Runs

/-!
# Enrollment — Stages

The stage of an announcement, as its timestamps encode it and the two decoders read it.

* `Sealed`: a consumed announcement caches no secret.
* `Quiet`: a rejected announcement stays rejected and is given no secret, token or delivery.
* `operatorState_told`: the device and the operator are told the same stage.
* `Guarded` is what the operations leave unchecked: an adoption of a consumed row, an automatic
  rebind of a rejected one, and a poll by a row that is consumed but was never adopted.
* `stages_run`: the three hold along every run of guarded operations.
-/

namespace RebooterHub.Enrollment
open RebooterHub.Transaction RebooterHub.Runs

/-! ### The guard -/

/-- The automatic rebind of a row goes through. -/
def willRebind (hash : String → String) (ctx : Context) (row : Announcement) (h : Hub) : Prop :=
  ∃ d ∈ rebindTarget h row, CanMint hash ctx (rebindArgs row d) h

instance (hash : String → String) (ctx : Context) (row : Announcement) (h : Hub) :
    Decidable (willRebind hash ctx row h) := by
  unfold willRebind
  infer_instance

/-- An adoption with these arguments goes through. -/
def willAdopt (hash : String → String) (ctx : Context) (byUserId displayName target : Option String)
    (row : Announcement) (h : Hub) : Prop :=
  row.rejectedAt = none ∧ row.adoptedAt = none ∧ checkTarget h row target = .ok () ∧
    CanMint hash ctx (adoptionArgs row byUserId displayName target) h

instance (hash : String → String) (ctx : Context) (byUserId displayName target : Option String)
    (row : Announcement) (h : Hub) :
    Decidable (willAdopt hash ctx byUserId displayName target row h) := by
  unfold willAdopt
  infer_instance

/-- A step that leads to none of the three things the operations leave unchecked. -/
def Guarded (hash : String → String) (h : Hub) : Operation → Prop
  | .announce ctx a => ∀ s ∈ polled ctx a h,
      (s.1.rejectedAt.isSome → ¬willRebind hash ctx.unbound s.1 s.2) ∧
      (s.1.consumedAt.isSome → s.1.adoptedAt = none → s.1.rejectedAt = none →
        (rebindTarget s.2 s.1).isSome)
  | .adopt ctx id byUserId displayName mode target =>
      ∀ t ∈ (restoreTarget mode target).toOption, ∀ row ∈ visibleAnnouncement h ctx.scope id,
        willAdopt hash ctx byUserId displayName t row h → row.consumedAt = none
  | _ => True

instance (hash : String → String) (h : Hub) : (op : Operation) → Decidable (Guarded hash h op)
  | .announce .. | .adopt .. => by
    unfold Guarded
    infer_instance
  | .mint .. | .revoke .. | .reject .. | .forceAdopt .. | .register .. | .merge .. =>
    .isTrue trivial

/-! ### The promises -/

/-- A consumed announcement caches no secret. -/
def Sealed (row : Announcement) : Prop := row.consumedAt.isSome → row.adoptionTokenSecret = none

/-- The row stays rejected, and is given no secret, no token and no delivery. -/
structure StaysRejected (row row' : Announcement) : Prop where
  rejectedAt : row'.rejectedAt = row.rejectedAt
  secret : row'.adoptionTokenSecret = none ∨ row'.adoptionTokenSecret = row.adoptionTokenSecret
  token : row'.enrollmentTokenId = none ∨ row'.enrollmentTokenId = row.enrollmentTokenId
  deliveredAt : row'.deliveredAt = row.deliveredAt

instance (row row' : Announcement) : Decidable (StaysRejected row row') :=
  decidable_of_iff (row'.rejectedAt = row.rejectedAt ∧
      (row'.adoptionTokenSecret = none ∨ row'.adoptionTokenSecret = row.adoptionTokenSecret) ∧
      (row'.enrollmentTokenId = none ∨ row'.enrollmentTokenId = row.enrollmentTokenId) ∧
      row'.deliveredAt = row.deliveredAt)
    ⟨fun ⟨a, b, c, d⟩ => ⟨a, b, c, d⟩, fun ⟨a, b, c, d⟩ => ⟨a, b, c, d⟩⟩

/-- Rejected announcements stay rejected. -/
def Quiet (h h' : Hub) : Prop :=
  ∀ row ∈ h.announcements, row.rejectedAt.isSome →
    ∃ row' ∈ h'.announcements, row'.id = row.id ∧ StaysRejected row row'

instance (h h' : Hub) : Decidable (Quiet h h') := by
  unfold Quiet
  infer_instance

/-- What the operator is shown at the stage a device is told. -/
def DeviceStatus.shown : DeviceStatus → OperatorState
  | .rejected => .rejected
  | .pending => .pending
  | .adopted _ => .awaitingRegister
  | .registered => .registered
  | .awaitingRegister => .awaitingRegister

/-- The row of a poll after it, and the answer, if it is answered. -/
def answered (hash : String → String) (h : Hub) : Operation → Option (Announcement × AnnounceReply)
  | .announce ctx a => returned (upsertAnnouncement hash ctx a) h
  | _ => none

/-- What a step promises: rejected announcements stay rejected, and a poll is told the stage the
operator is shown; no token is minted for a rejected row. -/
structure Faithful (hash : String → String) (h : Hub) (op : Operation) : Prop where
  quiet : Quiet h (step hash h op)
  same : ∀ r ∈ answered hash h op, r.1 ∈ (step hash h op).announcements ∧
    operatorState r.1 = r.2.status.shown
  unminted : ∀ r ∈ answered hash h op, r.1.rejectedAt.isSome →
    (step hash h op).tokens = h.tokens

/-! ### The decoders -/

section
variable {row : Announcement}

theorem deviceStatus_of_rejected (hr : row.rejectedAt.isSome) : deviceStatus row = .rejected :=
  if_pos hr

theorem told_of_rejected (now : Time) (hr : row.rejectedAt.isSome) : told now row = row := by
  rw [told, deviceStatus_of_rejected hr]

/-- **The decoders agree.**  After a poll the operator is shown the stage the device was told. -/
theorem operatorState_told (hs : Staged row) (hsealed : Sealed row) (now : Time)
    (hc : row.consumedAt.isSome → row.adoptedAt = none → row.rejectedAt.isSome) :
    operatorState (told now row) = (deviceStatus row).shown := by
  cases hrej : row.rejectedAt with
  | some at_ =>
      have hr : row.rejectedAt.isSome := by rw [hrej]; rfl
      rw [told_of_rejected now hr, deviceStatus_of_rejected hr, operatorState, if_pos hr]
      rfl
  | none =>
      cases had : row.adoptedAt with
      | none =>
          -- never adopted: not consumed by `hc`, not delivered since it is staged
          have hstatus : deviceStatus row = .pending := by
            rw [deviceStatus, hrej, had]
            rfl
          have hconsumed : row.consumedAt = none := by
            by_contra hne
            have := hc (Option.isSome_iff_ne_none.mpr hne) had
            rw [hrej] at this
            cases this
          have hdelivered : row.deliveredAt = none := by
            by_contra hne
            have := hs.delivered (Option.isSome_iff_ne_none.mpr hne)
            rw [had] at this
            cases this
          rw [told, hstatus, operatorState, hrej, had, hconsumed, hdelivered]
          rfl
      | some at_ =>
          have hadopted : row.adoptedAt.isSome := by rw [had]; rfl
          cases hsecret : nonEmpty row.adoptionTokenSecret with
          | some secret =>
              -- a cached secret: not consumed since it is sealed, and delivered now
              have hstatus : deviceStatus row = .adopted secret := by
                rw [deviceStatus, hrej, had, hsecret]
                rfl
              have hconsumed : row.consumedAt = none := by
                by_contra hne
                rw [hsealed (Option.isSome_iff_ne_none.mpr hne)] at hsecret
                cases hsecret
              rw [told, hstatus]
              simp only [operatorState, hrej, hconsumed]
              cases row.deliveredAt <;> rfl
          | none =>
              -- no cached secret: consumed since it is staged
              have hconsumed : row.consumedAt.isSome := by
                refine Option.isSome_iff_ne_none.mpr fun hne => ?_
                have := hs.secret hadopted hne
                rw [hsecret] at this
                cases this
              have hstatus : deviceStatus row = .registered := by
                rw [deviceStatus, hrej, had, hsecret]
                exact if_pos hconsumed
              rw [told, hstatus, operatorState, hrej, hconsumed]
              rfl

end

/-! ### Rejected rows -/

theorem StaysRejected.refl (row : Announcement) : StaysRejected row row :=
  ⟨rfl, .inr rfl, .inr rfl, rfl⟩

theorem StaysRejected.trans {row row' row'' : Announcement} (h₁ : StaysRejected row row')
    (h₂ : StaysRejected row' row'') : StaysRejected row row'' :=
  ⟨h₂.rejectedAt.trans h₁.rejectedAt,
    h₂.secret.elim .inl fun h => h₁.secret.imp h.trans h.trans,
    h₂.token.elim .inl fun h => h₁.token.imp h.trans h.trans,
    h₂.deliveredAt.trans h₁.deliveredAt⟩

namespace Quiet

variable {hash : String → String} {ctx : Context} {h h' h'' : Hub}

theorem of_announcements (ha : h'.announcements = h.announcements) : Quiet h h' :=
  fun row hrow _ => ⟨row, ha ▸ hrow, rfl, .refl row⟩

theorem trans (h₁ : Quiet h h') (h₂ : Quiet h' h'') : Quiet h h'' := by
  intro row hrow hrej
  obtain ⟨row', hrow', hid, hs⟩ := h₁ row hrow hrej
  obtain ⟨row'', hrow'', hid', hs'⟩ := h₂ row' hrow' (hs.rejectedAt ▸ hrej)
  exact ⟨row'', hrow'', hid'.trans hid, hs.trans hs'⟩

/-- An update that does not give a rejected row anything. -/
theorem updateAnnouncement {id : String} {g : Announcement → Announcement}
    (hid : ∀ row, (g row).id = row.id)
    (hg : ∀ row ∈ h.announcements, row.id = id → row.rejectedAt.isSome → StaysRejected row (g row)) :
    Quiet h (h.updateAnnouncement id g) := by
  intro row hrow hrej
  refine ⟨_, Rows.amend_mem hrow, ?_⟩
  split
  · next hk => exact ⟨hid row, hg row hrow hk hrej⟩
  · exact ⟨rfl, .refl row⟩

theorem deleteToken (id : String) : Quiet h (h.deleteToken id) := by
  intro row hrow _
  refine ⟨_, List.mem_map_of_mem hrow, ?_⟩
  split
  · exact ⟨rfl, rfl, .inr rfl, .inl rfl, rfl⟩
  · exact ⟨rfl, .refl row⟩

theorem stampLastSeen (now : Time) (mac : String) (h : Hub) :
    Quiet h (stampLastSeen now mac h) :=
  of_announcements (stampLastSeen_announcements now mac h)

theorem markConsumed (now : Time) (mac : String) (h : Hub) : Quiet h (markConsumed now mac h) := by
  rcases markConsumed_cases now mac h with heq | ⟨row, -, -, heq⟩
  · rw [heq]
    exact of_announcements rfl
  · rw [heq]
    exact updateAnnouncement (fun _ => rfl) fun row _ _ _ => ⟨rfl, .inl rfl, .inr rfl, rfl⟩

theorem upserts {mac : String} {c : Claims} {a : AnnounceArgs} {row : Announcement}
    (hrow : Upserts ctx mac c a h row h') : Quiet h h' := by
  cases hrow with
  | created => exact fun row hrow _ => ⟨row, List.mem_append_left _ hrow, rfl, .refl row⟩
  | refreshed =>
      exact updateAnnouncement (fun _ => rfl) fun row _ _ _ => ⟨rfl, .inr rfl, .inr rfl, rfl⟩

/-- The automatic rebind of a row that is not rejected. -/
theorem rebinds (hh : Keyed h) {row row' : Announcement} (hmem : row ∈ h.announcements)
    (hre : Rebinds hash ctx row h row' h') (hnot : row.rejectedAt.isSome → ¬willRebind hash ctx row h) :
    Quiet h h' := by
  cases hre with
  | kept => exact of_announcements rfl
  | @rebound d org hd hm =>
      refine updateAnnouncement (fun _ => rfl) fun row₁ hmem₁ hid hrej => ?_
      -- the only row that is written is the one of the poll
      rw [hh.announcements.eq hmem₁ hmem hid] at hrej
      exact absurd ⟨d, hd, org, hm⟩ (hnot hrej)

theorem reject {id : String} (byUserId : Option String) :
    Quiet h (h.updateAnnouncement id (rejected ctx byUserId)) := by
  refine updateAnnouncement (Keyed.rejected_id _) fun row _ _ hrej => ?_
  obtain ⟨org, by_, heq⟩ := rejected_eq ctx byUserId row
  obtain ⟨at_, hat⟩ := Option.isSome_iff_exists.mp hrej
  rw [heq]
  exact ⟨by rw [hat]; rfl, .inr rfl, .inr rfl, rfl⟩

end Quiet

/-! ### Polls -/

/-- The self-healing finds `row₀` in the tables `g₀` and leaves `row` in the tables `g`. -/
structure Healed (hash : String → String) (ctx : Context) (row₀ : Announcement) (g₀ : Hub)
    (row : Announcement) (g : Hub) : Prop where
  found : Orderly g₀ ∧ row₀ ∈ g₀.announcements
  rebinds : Rebinds hash ctx.unbound row₀ g₀ row g
  left : Orderly g ∧ row ∈ g.announcements
  rejected : row₀.rejectedAt.isSome → ¬willRebind hash ctx.unbound row₀ g₀
  unadopted : row₀.consumedAt.isSome → row₀.adoptedAt = none → row₀.rejectedAt = none →
    (rebindTarget g₀ row₀).isSome

section
variable {hash : String → String} {ctx : Context} {h h' : Hub} {a : AnnounceArgs}
  {row : Announcement}

/-- What a guarded poll of orderly tables does. -/
theorem Polls.healed (hpoll : Polls hash ctx a h row h') (ho : Orderly h)
    (hg : Guarded hash h (.announce ctx a)) :
    ∃ mac c row₀ g₀ g, Upserts ctx mac c a h row₀ g₀ ∧
      Healed hash ctx row₀ (stampLastSeen ctx.now mac g₀) row g ∧
      h' = g.updateAnnouncement row.id (told ctx.now) := by
  obtain ⟨raw, c, row₀, g₀, g, hraw, hc, hrow, ho₀, hfound, hre, hog, hmem, rfl⟩ :=
    hpoll.orderly ho
  refine ⟨normalizeMac raw, c, row₀, g₀, g, hrow, ?_, rfl⟩
  rcases hrow.cases_polled hraw hc with rfl | hs
  · exact ⟨⟨ho₀, hfound⟩, hre, ⟨hog, hmem⟩, fun hr => (nomatch hr), fun hc => (nomatch hc)⟩
  · obtain ⟨hrej, hun⟩ := hg _ hs
    exact ⟨⟨ho₀, hfound⟩, hre, ⟨hog, hmem⟩, hrej, hun⟩

theorem Healed.quiet {row₀ : Announcement} (hh : Healed hash ctx row₀ h row h') : Quiet h h' :=
  .rebinds hh.found.1.keyed hh.found.2 hh.rebinds hh.rejected

/-- The row a poll leaves is adopted or rejected if it is consumed. -/
theorem Healed.consumed {row₀ : Announcement} (hh : Healed hash ctx row₀ h row h')
    (hc : row.consumedAt.isSome) (had : row.adoptedAt = none) : row.rejectedAt.isSome := by
  cases hh.rebinds with
  | kept hnone =>
      refine Option.isSome_iff_ne_none.mpr fun hrej => ?_
      have := hh.unadopted hc had hrej
      rw [hnone] at this
      cases this
  | rebound => cases hc

/-- Nothing is minted for a rejected row. -/
theorem Healed.unminted {row₀ : Announcement} (hh : Healed hash ctx row₀ h row h')
    (hrej : row.rejectedAt.isSome) : h'.tokens = h.tokens := by
  cases hh.rebinds with
  | kept => rfl
  | @rebound d org hd hm => exact absurd ⟨d, hd, org, hm⟩ (hh.rejected hrej)

/-- What is told to a rejected row is that it is rejected. -/
theorem Quiet.tell (id : String) (now : Time) : Quiet h (h.updateAnnouncement id (told now)) :=
  updateAnnouncement (Keyed.told_id now) fun row _ _ hrej => by
    rw [told_of_rejected now hrej]
    exact .refl row

end

/-! ### Consumed rows -/

/-- Every announcement is sealed. -/
def AllSealed (h : Hub) : Prop := ∀ row ∈ h.announcements, Sealed row

instance (h : Hub) : Decidable (AllSealed h) := by
  unfold AllSealed Sealed
  infer_instance

namespace AllSealed

variable {hash : String → String} {ctx : Context} {h h' : Hub}

theorem updateAnnouncement (hs : AllSealed h) {id : String} {g : Announcement → Announcement}
    (hg : ∀ row, Sealed row → Sealed (g row)) : AllSealed (h.updateAnnouncement id g) :=
  Rows.forall_amend hs fun row hrow _ => hg row (hs row hrow)

theorem deleteToken (hs : AllSealed h) (id : String) : AllSealed (h.deleteToken id) :=
  forall_deleteToken hs (fun _ h => h) id

theorem stampLastSeen (hs : AllSealed h) (now : Time) (mac : String) :
    AllSealed (stampLastSeen now mac h) := by
  rwa [AllSealed, stampLastSeen_announcements]

theorem markConsumed (hs : AllSealed h) (now : Time) (mac : String) :
    AllSealed (markConsumed now mac h) := by
  rcases markConsumed_cases now mac h with heq | ⟨row, -, -, heq⟩
  · rwa [heq]
  · rw [heq]
    exact hs.updateAnnouncement fun _ _ _ => rfl

theorem upserts (hs : AllSealed h) {mac : String} {c : Claims} {a : AnnounceArgs}
    {row : Announcement} (hrow : Upserts ctx mac c a h row h') : AllSealed h' :=
  hrow.forall hs (fun hc => nomatch hc) fun _ h => h

theorem rebinds (hs : AllSealed h) {row row' : Announcement}
    (hre : Rebinds hash ctx row h row' h') : AllSealed h' := by
  cases hre with
  | kept => exact hs
  | rebound => exact hs.updateAnnouncement fun _ _ hc => (nomatch hc)

theorem tell (hs : AllSealed h) (id : String) (now : Time) :
    AllSealed (h.updateAnnouncement id (told now)) := by
  refine hs.updateAnnouncement fun row h => ?_
  obtain ⟨at_, heq⟩ := told_eq now row
  rw [heq]
  exact h

theorem reject (hs : AllSealed h) (id : String) (byUserId : Option String) :
    AllSealed (h.updateAnnouncement id (rejected ctx byUserId)) := by
  refine hs.updateAnnouncement fun row h => ?_
  obtain ⟨org, by_, heq⟩ := rejected_eq ctx byUserId row
  rw [heq]
  exact h

/-- An adoption keeps the rows sealed when the adopted one is not consumed. -/
theorem adopt (hs : AllSealed h) (hh : Keyed h) {id : String} {row : Announcement}
    (hrow : h.announcement id = some row) (hc : row.consumedAt = none) (byUserId : Option String)
    (tokenId secret : String) :
    AllSealed (h.updateAnnouncement id (adopted ctx byUserId tokenId secret)) := by
  refine Rows.forall_amend hs fun row' hrow' hid hconsumed => ?_
  rw [hh.announcements.eq_of_find? hrow hrow' hid] at hconsumed
  rw [Enrollment.adopted, stamped, hc] at hconsumed
  cases hconsumed

end AllSealed

/-! ### Steps and runs -/

theorem sealed_step (hash : String → String) {h : Hub} (ho : Orderly h) (hs : AllSealed h)
    {op : Operation} (hop : Guarded hash h op) : AllSealed (step hash h op) := by
  rcases step_cases hash h op with heq | hdoes
  · rwa [heq]
  · generalize step hash h op = h' at hdoes
    cases hdoes with
    | mint => exact hs
    | revoke => exact hs.deleteToken _
    | announce hpoll =>
        obtain ⟨mac, c, row₀, g₀, g, hrow, hheal, rfl⟩ := hpoll.healed ho hop
        exact (((hs.upserts hrow).stampLastSeen _ _).rebinds hheal.rebinds).tell _ _
    | @adopt ctx id mode byUserId displayName target t row h' ht hadopt =>
        cases hadopt with
        | already => exact hs
        | @adopted row org hrow hrej had htarget hm =>
            have hc : row.consumedAt = none :=
              hop t (by rw [ht]; rfl) row hrow ⟨hrej, had, htarget, org, hm⟩
            exact hs.adopt ho.keyed (Option.filter_eq_some_iff.mp hrow).1 hc _ _ _
    | reject => exact hs.reject _ _
    | forceAdopt => exact hs.updateAnnouncement fun _ _ _ => rfl
    | @register ctx token body p et d g hp het hunused hvalid hd =>
        have hg : AllSealed g := by
          rwa [AllSealed, hd.announcements]
        exact hg.markConsumed _ _
    | merge => exact hs

theorem quiet_step (hash : String → String) {h : Hub} (ho : Orderly h) {op : Operation}
    (hop : Guarded hash h op) : Quiet h (step hash h op) := by
  rcases step_cases hash h op with heq | hdoes
  · rw [heq]
    exact .of_announcements rfl
  · generalize step hash h op = h' at hdoes
    cases hdoes with
    | mint => exact .of_announcements rfl
    | revoke => exact .deleteToken _
    | announce hpoll =>
        obtain ⟨mac, c, row₀, g₀, g, hrow, hheal, rfl⟩ := hpoll.healed ho hop
        exact ((Quiet.upserts hrow).trans (.stampLastSeen _ _ _)).trans (hheal.quiet.trans (.tell _ _))
    | adopt ht hadopt =>
        cases hadopt with
        | already => exact .of_announcements rfl
        | @adopted row org hrow hrej had htarget hm =>
            refine Quiet.updateAnnouncement (fun _ => rfl) fun row' hrow' hid hrej' => ?_
            have hfound := (Option.filter_eq_some_iff.mp hrow).1
            rw [ho.keyed.announcements.eq_of_find? hfound hrow' hid, hrej] at hrej'
            cases hrej'
    | reject => exact .reject _
    | forceAdopt =>
        exact .updateAnnouncement (fun _ => rfl) fun _ _ _ _ => ⟨rfl, .inl rfl, .inr rfl, rfl⟩
    | @register ctx token body p et d g hp het hunused hvalid hd =>
        exact (Quiet.of_announcements hd.announcements).trans (.markConsumed _ _ _)
    | merge => exact .of_announcements rfl

/-- A guarded poll is told the stage the operator is shown, and mints nothing for a rejected
row. -/
theorem answered_step (hash : String → String) {h : Hub} (ho : Orderly h) (hs : AllSealed h)
    {op : Operation} (hop : Guarded hash h op) {r : Announcement × AnnounceReply}
    (hr : r ∈ answered hash h op) :
    r.1 ∈ (step hash h op).announcements ∧ operatorState r.1 = r.2.status.shown ∧
      (r.1.rejectedAt.isSome → (step hash h op).tokens = h.tokens) := by
  cases op with
  | announce ctx a =>
      rw [answered, returned] at hr
      cases hx : upsertAnnouncement hash ctx a h with
      | error e h' =>
          rw [hx] at hr
          cases hr
      | ok r' h' =>
          rw [hx] at hr
          cases hr
          rw [step, exec_of_ok hx]
          obtain ⟨row, hpoll, rfl⟩ := upsertAnnouncement_eq_ok hx
          obtain ⟨mac, c, row₀, g₀, g, hrow, hheal, rfl⟩ := hpoll.healed ho hop
          have hsealed := ((hs.upserts hrow).stampLastSeen ctx.now mac).rebinds hheal.rebinds
          obtain ⟨hog, hmem⟩ := hheal.left
          refine ⟨Rows.mem_amend_self hmem, ?_, fun hrej => ?_⟩
          · rw [answer_status]
            exact operatorState_told (hog.staged row hmem) (hsealed row hmem) ctx.now hheal.consumed
          · obtain ⟨at_, heq⟩ := told_eq ctx.now row
            rw [heq] at hrej
            calc g.tokens
                = (stampLastSeen ctx.now mac g₀).tokens := hheal.unminted hrej
              _ = g₀.tokens := stampLastSeen_tokens ctx.now mac g₀
              _ = h.tokens := hrow.tokens
  | mint | revoke | adopt | reject | forceAdopt | register | merge => cases hr

/-- **The lifecycle of announcements.**  Along a run of guarded operations from tables without
announcements, consumed announcements cache no secret, rejected ones stay rejected and are given
nothing, and every poll is told the stage the operator is shown. -/
theorem stages_run (hash : String → String) {h : Hub} (hh : Keyed h) (hnone : h.announcements = [])
    {ops : List Operation} (hops : Admits (step hash) (Guarded hash) h ops) :
    AllSealed (run (step hash) h ops) ∧ Admits (step hash) (Faithful hash) h ops := by
  have hstart : Orderly h ∧ AllSealed h := ⟨.start hh hnone, by simp [AllSealed, hnone]⟩
  have hstep (g : Hub) (op : Operation) (hg : Orderly g ∧ AllSealed g) (hop : Guarded hash g op) :
      Orderly (step hash g op) ∧ AllSealed (step hash g op) :=
    ⟨hg.1.step hash op, sealed_step hash hg.1 hg.2 hop⟩
  refine ⟨(run_invariant hstep hstart hops).2,
    admits_of_invariant (I := fun g => Orderly g ∧ AllSealed g) ?_ hstart hops⟩
  intro g op hg hop
  have hanswer (r : Announcement × AnnounceReply) (hr : r ∈ answered hash g op) :=
    answered_step hash hg.1 hg.2 hop hr
  exact ⟨hstep g op hg hop, quiet_step hash hg.1 hop,
    fun r hr => ⟨(hanswer r hr).1, (hanswer r hr).2.1⟩, fun r hr => (hanswer r hr).2.2⟩

/-- A device announces itself, is adopted, picks its token up and registers with it. -/
def adoption : List Operation :=
  [.announce (request 1 none "a") (pollOf "AA:BB:CC:DD:EE:FF" "10.0.0.7"),
   .adopt (request 2 (some "org") "b") "ann-a" none none "fresh" none,
   .announce (request 3 none "c") (pollOf "AA:BB:CC:DD:EE:FF" "10.0.0.7"),
   .register (request 4 none "d") "et_b"
     (("local_ip", .str "10.0.0.7") :: bodyOf "AA:BB:CC:DD:EE:FF")]

theorem stages_run_adoption : AllSealed (run (step id) oneSite adoption) ∧
    Admits (step id) (Faithful id) oneSite adoption :=
  stages_run id (Keyed.start _ _) rfl ⟨by decide, by decide, by decide, trivial, trivial⟩

/-- A device registers with another token while its announcement is pending, and the operator
adopts the announcement. -/
def lateAdoption : List Operation :=
  [.mint (request 0 (some "org") "a") (mintFor (some "site") none),
   .announce (request 1 none "b") (pollOf "AA:BB:CC:DD:EE:FF" "10.0.0.7"),
   .register (request 2 none "c") "et_a" (bodyOf "AA:BB:CC:DD:EE:FF"),
   .adopt (request 3 (some "org") "d") "ann-b" none none "fresh" none]

/-- The next poll of the device. -/
def nextPoll (tag : String) : Operation :=
  .announce (request 9 none tag) (pollOf "AA:BB:CC:DD:EE:FF" "10.0.0.7")

theorem stages_broken :
    ¬AllSealed (run (step id) oneSite lateAdoption) ∧
      (¬∀ r ∈ answered id (run (step id) oneSite (lateAdoption.take 3)) (nextPoll "e"),
        operatorState r.1 = r.2.status.shown) ∧
      ¬Quiet (run (step id) oneSite (adoption ++ [.reject (request 5 none "f") "ann-a" none]))
        (run (step id) oneSite
          (adoption ++ [.reject (request 5 none "f") "ann-a" none, nextPoll "g"])) :=
  ⟨by decide, by decide, by decide⟩

end RebooterHub.Enrollment
