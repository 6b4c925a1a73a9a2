import RebooterHub.Enrollment.Keys

/-!
# Enrollment — Lifecycle

What the nullable columns of an announcement say about each other, in every reachable state.

* `Staged`: a secret is cached, and was delivered, only on an adopted row, and an adopted row that
  is not consumed caches one.  No row is stranded, so the recovery has nothing to do.
* `Orderly.step`: every operation keeps this, with the keys of the tables.
* `Polls.orderly`: what a poll does on such tables.
-/

namespace RebooterHub.Enrollment
open RebooterHub.Transaction

/-- What the columns of an announcement say about each other. -/
structure Staged (row : Announcement) : Prop where
  adopted : (nonEmpty row.adoptionTokenSecret).isSome → row.adoptedAt.isSome
  secret : row.adoptedAt.isSome → row.consumedAt = none → (nonEmpty row.adoptionTokenSecret).isSome
  delivered : row.deliveredAt.isSome → row.adoptedAt.isSome

/-- The tables keep their keys, and the announcements are staged. -/
structure Orderly (h : Hub) : Prop where
  keyed : Keyed h
  staged : ∀ row ∈ h.announcements, Staged row

theorem nonEmpty_secret (ctx : Context) :
    nonEmpty (some ctx.enrollmentSecret) = some ctx.enrollmentSecret := by
  refine Option.filter_eq_some_iff.mpr ⟨rfl, decide_eq_true fun h => ?_⟩
  have hlen := congrArg String.length h
  rw [Context.enrollmentSecret, String.length_append] at hlen
  exact absurd hlen (by simp)

namespace Staged

variable {ctx : Context} {row : Announcement}

theorem new (ctx : Context) (mac : String) (c : Claims) (a : AnnounceArgs) :
    Staged (newAnnouncement ctx mac c a) :=
  ⟨fun h => (nomatch h), fun h => (nomatch h), fun h => (nomatch h)⟩

theorem seenAgain (h : Staged row) (now : Time) (c : Claims) (a : AnnounceArgs) :
    Staged (seenAgain now c a row) := ⟨h.adopted, h.secret, h.delivered⟩

theorem rebound (now : Time) (tokenId : String) (ctx : Context) (row : Announcement) :
    Staged (rebound now tokenId ctx.enrollmentSecret row) :=
  ⟨fun _ => rfl, fun _ _ => by rw [Enrollment.rebound, nonEmpty_secret]; rfl, fun h => nomatch h⟩

theorem adopt (ctx : Context) (byUserId : Option String) (tokenId : String)
    (row : Announcement) :
    Staged (Enrollment.adopted ctx byUserId tokenId ctx.enrollmentSecret row) :=
  ⟨fun _ => rfl, fun _ _ => by rw [Enrollment.adopted, stamped, nonEmpty_secret]; rfl, fun _ => rfl⟩

theorem consume (h : Staged row) (now : Time) : Staged (consumed now row) :=
  ⟨fun hs => (nomatch hs), fun _ hc => (nomatch hc), h.delivered⟩

theorem stamp (h : Staged row) (sc : Scope) : Staged (stamped sc row) :=
  ⟨h.adopted, h.secret, h.delivered⟩

theorem reject (h : Staged row) (ctx : Context) (byUserId : Option String) :
    Staged (rejected ctx byUserId row) := by
  obtain ⟨org, by_, heq⟩ := rejected_eq ctx byUserId row
  rw [heq]
  exact ⟨h.adopted, h.secret, h.delivered⟩

/-- A row that was told a secret is adopted. -/
theorem tell (h : Staged row) (now : Time) : Staged (told now row) := by
  rw [told]
  split
  · next secret hstatus =>
      refine ⟨h.adopted, h.secret, fun _ => ?_⟩
      rw [deviceStatus] at hstatus
      split at hstatus
      · cases hstatus
      · split at hstatus
        · cases hstatus
        · next had => exact Option.isSome_iff_ne_none.mpr fun hn => had (hn ▸ rfl)
  · exact h

/-- No row is stranded. -/
theorem isStranded_eq_false (h : Staged row) : isStranded row = false := by
  by_contra hs
  rw [Bool.not_eq_false, isStranded] at hs
  simp only [Bool.and_eq_true, Option.isNone_iff_eq_none] at hs
  obtain ⟨⟨⟨⟨had, -⟩, hsecret⟩, hc⟩, -⟩ := hs
  have := h.secret had hc
  rw [hsecret] at this
  cases this

end Staged

namespace Orderly

variable {hash : String → String} {ctx : Context} {h h' : Hub}

/-- Tables without announcements are orderly. -/
theorem start (hh : Keyed h) (hnone : h.announcements = []) : Orderly h :=
  ⟨hh, by simp [hnone]⟩

theorem updateAnnouncement (ho : Orderly h) {id : String} {g : Announcement → Announcement}
    (hid : ∀ row, (g row).id = row.id) (hg : ∀ row, Staged row → Staged (g row)) :
    Orderly (h.updateAnnouncement id g) :=
  ⟨ho.keyed.updateAnnouncement hid,
    Rows.forall_amend ho.staged fun row hrow _ => hg row (ho.staged row hrow)⟩

theorem mint (ho : Orderly h) {a : MintArgs} {org : String} (hm : Mintable hash ctx a h org) :
    Orderly { h with tokens := h.tokens ++ [newToken hash ctx org a] } :=
  ⟨ho.keyed.mint hm, ho.staged⟩

theorem deleteToken (ho : Orderly h) (id : String) : Orderly (h.deleteToken id) :=
  ⟨ho.keyed.deleteToken id,
    forall_deleteToken ho.staged (fun _ hs => ⟨hs.adopted, hs.secret, hs.delivered⟩) id⟩

theorem stampLastSeen (ho : Orderly h) (now : Time) (mac : String) :
    Orderly (stampLastSeen now mac h) := by
  refine ⟨ho.keyed.stampLastSeen now mac, ?_⟩
  rw [stampLastSeen_announcements]
  exact ho.staged

theorem markConsumed (ho : Orderly h) (now : Time) (mac : String) :
    Orderly (markConsumed now mac h) := by
  rcases markConsumed_cases now mac h with heq | ⟨row, -, -, heq⟩
  · rwa [heq]
  · rw [heq]
    exact ho.updateAnnouncement (fun _ => rfl) fun row hs => hs.consume now

theorem upserts (ho : Orderly h) {mac : String} {c : Claims} {a : AnnounceArgs}
    {row : Announcement} (hrow : Upserts ctx mac c a h row h') :
    Orderly h' ∧ row ∈ h'.announcements := by
  have hstaged := hrow.forall ho.staged (.new ctx mac c a) fun row hs => hs.seenAgain ctx.now c a
  refine ⟨⟨ho.keyed.upserts hrow, hstaged⟩, ?_⟩
  cases hrow with
  | created => exact List.mem_append_right _ (List.mem_singleton_self _)
  | refreshed hrow => exact Rows.mem_amend_self (List.mem_of_find?_eq_some hrow)

theorem rebinds (ho : Orderly h) {row row' : Announcement} (hmem : row ∈ h.announcements)
    (hre : Rebinds hash ctx row h row' h') : Orderly h' ∧ row' ∈ h'.announcements := by
  cases hre with
  | kept => exact ⟨ho, hmem⟩
  | rebound hd hm =>
      exact ⟨(ho.mint hm).updateAnnouncement (fun _ => rfl) fun row _ => .rebound _ _ ctx row,
        Rows.mem_amend_self hmem⟩

end Orderly

/-! ### Polls -/

/-- The row of a poll by a known MAC and the tables, as the self-healing finds them. -/
def polled (ctx : Context) (a : AnnounceArgs) (h : Hub) : Option (Announcement × Hub) :=
  match announcedMac a.macAddress, announcedClaims a with
  | .ok raw, .ok c => (h.announcements.find? (·.macAddress = normalizeMac raw)).map fun row =>
      (seenAgain ctx.now c a row, stampLastSeen ctx.now (normalizeMac raw)
        (h.updateAnnouncement row.id (seenAgain ctx.now c a)))
  | _, _ => none

/-- The self-healing of a poll finds a new row, or the refreshed one. -/
theorem Upserts.cases_polled {ctx : Context} {h h' : Hub} {a : AnnounceArgs} {row : Announcement}
    {raw : String} {c : Claims}
    (hraw : announcedMac a.macAddress = .ok raw) (hc : announcedClaims a = .ok c)
    (hrow : Upserts ctx (normalizeMac raw) c a h row h') :
    row = newAnnouncement ctx (normalizeMac raw) c a ∨
      polled ctx a h = some (row, stampLastSeen ctx.now (normalizeMac raw) h') := by
  cases hrow with
  | created => exact .inl rfl
  | refreshed hfound =>
      rw [polled, hraw, hc]
      simp only [hfound, Option.map_some]
      exact .inr trivial

/-- A poll of orderly tables: the row is created or refreshed, and possibly rebound; there is
nothing to recover. -/
theorem Polls.orderly {hash : String → String} {ctx : Context} {h h' : Hub} {a : AnnounceArgs}
    {row : Announcement} (hpoll : Polls hash ctx a h row h') (ho : Orderly h) :
    ∃ raw c row₀ g₀ g, announcedMac a.macAddress = .ok raw ∧ announcedClaims a = .ok c ∧
      Upserts ctx (normalizeMac raw) c a h row₀ g₀ ∧
      Orderly (stampLastSeen ctx.now (normalizeMac raw) g₀) ∧
      row₀ ∈ (stampLastSeen ctx.now (normalizeMac raw) g₀).announcements ∧
      Rebinds hash ctx.unbound row₀ (stampLastSeen ctx.now (normalizeMac raw) g₀) row g ∧
      Orderly g ∧ row ∈ g.announcements ∧ h' = g.updateAnnouncement row.id (told ctx.now) := by
  cases hpoll with
  | @poll raw c row₀ row₁ _ g₀ g₁ g₂ hraw hc hrow hre hrec =>
      obtain ⟨ho₀, hmem₀⟩ := ho.upserts hrow
      have hstamped := ho₀.stampLastSeen ctx.now (normalizeMac raw)
      have hmem : row₀ ∈ (stampLastSeen ctx.now (normalizeMac raw) g₀).announcements := by
        rwa [stampLastSeen_announcements]
      obtain ⟨ho₁, hmem₁⟩ := hstamped.rebinds hmem hre
      -- the recovery acts on stranded rows only
      have hnot := (ho₁.staged row₁ hmem₁).isStranded_eq_false
      cases hrec with
      | kept => exact ⟨raw, c, row₀, g₀, g₁, hraw, hc, hrow, hstamped, hmem, hre, ho₁, hmem₁, rfl⟩
      | reconciled hs => exact absurd (hnot.symm.trans hs) Bool.false_ne_true
      | rearmed hs => exact absurd (hnot.symm.trans hs) Bool.false_ne_true

/-- Every operation keeps the tables orderly. -/
theorem Orderly.step (hash : String → String) {h : Hub} (ho : Orderly h) (op : Operation) :
    Orderly (step hash h op) := by
  rcases step_cases hash h op with heq | hdoes
  · rwa [heq]
  · generalize Enrollment.step hash h op = h' at hdoes
    cases hdoes with
    | mint hm => exact ho.mint hm
    | revoke ht hunused => exact ho.deleteToken _
    | announce hpoll =>
        obtain ⟨raw, c, row₀, g₀, g, -, -, -, -, -, -, hg, -, rfl⟩ := hpoll.orderly ho
        exact hg.updateAnnouncement (Keyed.told_id _) fun row hs => hs.tell _
    | adopt ht hadopt =>
        cases hadopt with
        | already => exact ho
        | adopted hrow hrej had htarget hm =>
            exact (ho.mint hm).updateAnnouncement (fun _ => rfl) fun row _ => .adopt _ _ _ row
    | reject hrow =>
        exact ho.updateAnnouncement (Keyed.rejected_id _) fun row hs => hs.reject _ _
    | forceAdopt hrow hc =>
        exact ho.updateAnnouncement (fun _ => rfl) fun row hs => (hs.consume _).stamp _
    | @register ctx token body p et d g hp het hunused hvalid hd =>
        have hg : Orderly g := ⟨ho.keyed.redeems hd, hd.announcements ▸ ho.staged⟩
        exact hg.markConsumed _ _
    | merge => exact ⟨ho.keyed.updateDevice fun _ => rfl, ho.staged⟩

end RebooterHub.Enrollment
