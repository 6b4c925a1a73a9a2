import RebooterHub.Enrollment.Lifecycle
import RebooterHub.Support.Runs

/-!
# Enrollment — HandedOut

The token a device is handed when it polls.  Its secret is cached on the announcement, its
validity is on the token's own row.

* `Backed`: every secret an announcement tells is that of a token that is not consumed.
* `InStep` is what keeps the two in step: a token whose secret is told is not revoked, a
  registration with it clears the secret, and a secret is told while its token is valid.
* `handed_out_run`: in a run of such steps every secret that is told can be redeemed.
-/

namespace RebooterHub.Enrollment
open RebooterHub.Transaction RebooterHub.Runs

/-- A device that presents this secret is let in. -/
def Redeemable (hash : String → String) (h : Hub) (now : Time) (secret : String) : Prop :=
  ∃ t ∈ h.tokenWithHash (hash secret), t.consumedAt = none ∧ now < t.expiresAt

instance (hash : String → String) (h : Hub) (now : Time) (secret : String) :
    Decidable (Redeemable hash h now secret) := by
  unfold Redeemable
  infer_instance

/-- A poll that is told a secret is told one that can be redeemed. -/
def Honoured (hash : String → String) (h : Hub) (op : Operation) : Prop :=
  match op with
  | .announce ctx a => ∀ r ∈ returned (upsertAnnouncement hash ctx a) h, ∀ secret,
      r.2.status = .adopted secret → Redeemable hash (step hash h op) ctx.now secret
  | _ => True

/-! ### The condition -/

/-- The secret the device of a row is told. -/
def toldSecret (row : Announcement) : Option String :=
  match deviceStatus row with
  | .adopted secret => some secret
  | _ => none

/-- The row tells the secret of this token. -/
def tells (hash : String → String) (row : Announcement) (t : EnrollmentToken) : Prop :=
  ∃ secret ∈ toldSecret row, t.tokenHash = hash secret

instance (hash : String → String) (row : Announcement) (t : EnrollmentToken) :
    Decidable (tells hash row t) := by
  unfold tells
  infer_instance

/-- The token of the secret the row tells has not expired. -/
def unexpired (hash : String → String) (h : Hub) (now : Time) (row : Announcement) : Prop :=
  ∀ secret ∈ toldSecret row, ∀ t ∈ h.tokenWithHash (hash secret), now < t.expiresAt

instance (hash : String → String) (h : Hub) (now : Time) (row : Announcement) :
    Decidable (unexpired hash h now row) := by
  unfold unexpired
  infer_instance

/-- There is a site for the device of a token, or one is created. -/
def hasSite (ctx : Context) (h : Hub) (et : EnrollmentToken) : Prop :=
  match nonEmpty et.siteId with
  | some s => (h.site s).isSome
  | none => (defaultSite h.sites).isSome ∨
      (resolveDefaultOrgId h.orgs).isSome ∧ h.site ctx.siteId = none

instance (ctx : Context) (h : Hub) (et : EnrollmentToken) : Decidable (hasSite ctx h et) := by
  unfold hasSite
  split <;> infer_instance

/-- The registration with `p` of a valid token goes through. -/
def accepted (hash : String → String) (ctx : Context) (h : Hub) (p : Registration)
    (et : EnrollmentToken) : Prop :=
  match nonEmpty et.targetDeviceId with
  | none => ¬isRegistered h p.macAddress ∧ hasSite ctx h et ∧ h.device ctx.deviceId = none ∧
      ∀ c ∈ h.credentials, c.deviceId ≠ ctx.deviceId ∧ c.tokenHash ≠ hash ctx.bearerToken
  | some target => (∃ d ∈ h.device target, d.isLive ∧
      ¬(comparedMac p.macAddress ≠ "" ∧ comparedMac d.macAddress ≠ "" ∧
        comparedMac p.macAddress ≠ comparedMac d.macAddress)) ∧
      ∀ c ∈ h.credentials, c.deviceId ≠ target → c.tokenHash ≠ hash ctx.bearerToken

instance (hash : String → String) (ctx : Context) (h : Hub) (p : Registration)
    (et : EnrollmentToken) : Decidable (accepted hash ctx h p et) := by
  unfold accepted
  exact match nonEmpty et.targetDeviceId with
    | none => inferInstance
    | some _ => inferInstance

/-- The MAC of the device after the registration with `p` of a token. -/
def registeredMac (h : Hub) (p : Registration) (et : EnrollmentToken) : Option String :=
  match nonEmpty et.targetDeviceId with
  | none => p.macAddress
  | some target => (h.device target).bind fun d => (restoredDevice 0 p d).macAddress

/-- The registration of a device with this MAC clears the secret of a row. -/
def clears (h : Hub) (mac : String) (row : Announcement) : Prop :=
  normalizeMac mac ≠ "" ∧ announcementOfMac h (normalizeMac mac) = some row ∧ row.consumedAt = none

instance (h : Hub) (mac : String) (row : Announcement) : Decidable (clears h mac row) := by
  unfold clears
  infer_instance

/-- A step that keeps the secrets and the tokens in step. -/
def InStep (hash : String → String) (h : Hub) : Operation → Prop
  | .revoke sc id => ∀ t ∈ visibleToken h sc id, t.consumedAt = none →
      ∀ row ∈ h.announcements, ¬tells hash row t
  | .register ctx token body => ∀ p ∈ (checkRegistration body).toOption,
      ∀ et ∈ h.tokenWithHash (hash token), et.consumedAt = none → ctx.now < et.expiresAt →
        accepted hash ctx h p et → ∀ row ∈ h.announcements, tells hash row et →
          clears h ((registeredMac h p et).getD "") row
  | .announce ctx a => ∀ s ∈ polled ctx a h, unexpired hash h ctx.now s.1
  | _ => True

instance (hash : String → String) (h : Hub) : (op : Operation) → Decidable (InStep hash h op)
  | .revoke .. | .register .. | .announce .. => by
    unfold InStep
    infer_instance
  | .mint .. | .adopt .. | .reject .. | .forceAdopt .. | .merge .. => .isTrue trivial

/-! ### Told secrets -/

theorem deviceStatus_adopted {row : Announcement} {secret : String}
    (hs : deviceStatus row = .adopted secret) :
    row.rejectedAt = none ∧ nonEmpty row.adoptionTokenSecret = some secret := by
  rw [deviceStatus] at hs
  split at hs
  · cases hs
  · next hrej =>
      split at hs
      · cases hs
      · split at hs
        · next secret' hsecret =>
            cases hs
            exact ⟨Option.not_isSome_iff_eq_none.mp hrej, hsecret⟩
        · split at hs <;> cases hs

theorem mem_toldSecret {row : Announcement} {secret : String} :
    secret ∈ toldSecret row ↔ deviceStatus row = .adopted secret := by
  rw [toldSecret, Option.mem_def]
  split
  · next secret' hstatus => rw [hstatus, Option.some_inj, DeviceStatus.adopted.injEq]
  · next hnot => exact ⟨fun hs => (nomatch hs), fun hs => absurd hs (hnot secret)⟩

/-- A secret that is told is cached, on a row that is not rejected. -/
theorem cached_of_told {row : Announcement} {secret : String} (hs : secret ∈ toldSecret row) :
    row.rejectedAt = none ∧ nonEmpty row.adoptionTokenSecret = some secret :=
  deviceStatus_adopted (mem_toldSecret.mp hs)

/-- Every secret an announcement tells is that of a token that is not consumed. -/
def Backed (hash : String → String) (h : Hub) : Prop :=
  ∀ row ∈ h.announcements, ∀ secret ∈ toldSecret row,
    ∃ t ∈ h.tokens, t.tokenHash = hash secret ∧ t.consumedAt = none

namespace Backed

variable {hash : String → String} {ctx : Context} {h h' : Hub}

theorem mint (hb : Backed hash h) (t : EnrollmentToken) :
    Backed hash { h with tokens := h.tokens ++ [t] } := by
  intro row hrow secret hs
  obtain ⟨t', ht', hhash, hunused⟩ := hb row hrow secret hs
  exact ⟨t', List.mem_append_left _ ht', hhash, hunused⟩

/-- Rows may tell what they told, nothing, or the secret of a token that is not consumed. -/
theorem updateAnnouncement (hb : Backed hash h) {id : String} {g : Announcement → Announcement}
    (hg : ∀ row, ∀ secret ∈ toldSecret (g row), secret ∈ toldSecret row ∨
      ∃ t ∈ h.tokens, t.tokenHash = hash secret ∧ t.consumedAt = none) :
    Backed hash (h.updateAnnouncement id g) := by
  refine Rows.forall_amend hb fun row hrow _ secret hs => ?_
  rcases hg row secret hs with hold | hnew
  · exact hb row hrow secret hold
  · exact hnew

/-- The row that is given the secret of a new token. -/
theorem give (hb : Backed hash h) {a : MintArgs} {org id : String}
    {g : Announcement → Announcement}
    (hg : ∀ row, (g row).adoptionTokenSecret = some ctx.enrollmentSecret) :
    Backed hash (Hub.updateAnnouncement
      { h with tokens := h.tokens ++ [newToken hash ctx org a] } id g) := by
  refine (hb.mint _).updateAnnouncement fun row secret hs => .inr ?_
  have hcached := (cached_of_told hs).2
  rw [hg row, nonEmpty_secret] at hcached
  refine ⟨newToken hash ctx org a, List.mem_append_right _ (List.mem_singleton_self _), ?_, rfl⟩
  rw [← Option.some_inj.mp hcached]
  rfl

theorem stampLastSeen (hb : Backed hash h) (now : Time) (mac : String) :
    Backed hash (stampLastSeen now mac h) := by
  rwa [Backed, stampLastSeen_announcements, stampLastSeen_tokens]

theorem upserts (hb : Backed hash h) {mac : String} {c : Claims} {a : AnnounceArgs}
    {row : Announcement} (hrow : Upserts ctx mac c a h row h') : Backed hash h' := by
  rw [Backed, hrow.tokens]
  exact hrow.forall hb (fun _ hs => nomatch hs) fun _ h => h

theorem rebinds (hb : Backed hash h) {row row' : Announcement}
    (hre : Rebinds hash ctx row h row' h') : Backed hash h' := by
  cases hre with
  | kept => exact hb
  | rebound => exact hb.give fun _ => rfl

theorem tell (hb : Backed hash h) (id : String) (now : Time) :
    Backed hash (h.updateAnnouncement id (told now)) := by
  refine hb.updateAnnouncement fun row secret hs => ?_
  obtain ⟨at_, heq⟩ := told_eq now row
  rw [heq] at hs
  exact .inl hs

/-- A rejected row tells nothing. -/
theorem reject (hb : Backed hash h) (id : String) (byUserId : Option String) :
    Backed hash (h.updateAnnouncement id (rejected ctx byUserId)) := by
  refine hb.updateAnnouncement fun row secret hs => ?_
  have hrej := (cached_of_told hs).1
  obtain ⟨org, by_, heq⟩ := rejected_eq ctx byUserId row
  rw [heq] at hrej
  cases hat : row.rejectedAt with
  | none =>
      rw [hat] at hrej
      cases hrej
  | some at_ =>
      rw [hat] at hrej
      cases hrej

/-- A token whose secret no row tells may be deleted. -/
theorem deleteToken (hb : Backed hash h) (hh : Keyed h) {t : EnrollmentToken} (ht : t ∈ h.tokens)
    (hfree : ∀ row ∈ h.announcements, ¬tells hash row t) : Backed hash (h.deleteToken t.id) := by
  refine forall_deleteToken (fun row hrow secret hs => ?_) (fun _ h => h) t.id
  obtain ⟨t', ht', hhash, hunused⟩ := hb row hrow secret hs
  refine ⟨t', List.mem_filter.mpr ⟨ht', decide_eq_true fun hid => ?_⟩, hhash, hunused⟩
  rw [hh.tokens.eq ht' ht hid] at hhash
  exact hfree row hrow ⟨secret, hs, hhash⟩

end Backed

/-! ### Registrations -/

section
variable {hash : String → String} {ctx : Context} {h g : Hub} {p : Registration}
  {et : EnrollmentToken} {d : Device}

theorem SiteChoice.hasSite {siteId : String} {sites : List Site}
    (hc : SiteChoice ctx et h siteId sites) (hthere : (sites.find? (·.id = siteId)).isSome) :
    hasSite ctx h et := by
  rw [Enrollment.hasSite]
  cases hc with
  | own hs =>
      rw [hs]
      exact hthere
  | default hs hsite =>
      rw [hs, hsite]
      exact .inl rfl
  | created hs hnone horg hnew =>
      rw [hs, horg]
      exact .inr ⟨rfl, hnew⟩

theorem Redeems.accepted (hd : Redeems hash ctx p et h d g) : accepted hash ctx h p et := by
  rw [Enrollment.accepted]
  cases hd with
  | restore ht hd hlive hmac hcred =>
      rw [ht]
      refine ⟨⟨_, hd, hlive, hmac⟩, fun c hc hne => ?_⟩
      exact (hcred c (List.mem_filter.mpr ⟨hc, decide_eq_true hne⟩)).2
  | fresh ht hmac hsite hthere hnew hcred =>
      rw [ht]
      exact ⟨hmac, hsite.hasSite hthere, hnew, hcred⟩

theorem Redeems.mac (hd : Redeems hash ctx p et h d g) : d.macAddress = registeredMac h p et := by
  rw [registeredMac]
  cases hd with
  | restore ht hd hlive hmac hcred =>
      simp only [ht, hd]
      rfl
  | fresh ht hmac hsite hthere hnew hcred => simp only [ht, freshDevice]

theorem announcementOfMac_mem {mac : String} {row : Announcement}
    (hrow : announcementOfMac h mac = some row) : row ∈ h.announcements := by
  rw [announcementOfMac] at hrow
  cases hfirst : h.announcements.find? (·.macAddress = mac) with
  | some row' =>
      rw [hfirst] at hrow
      cases hrow
      exact List.mem_of_find?_eq_some hfirst
  | none =>
      rw [hfirst] at hrow
      exact List.mem_of_find?_eq_some hrow

/-- A row that tells a secret after a registration is one the registration did not clear. -/
theorem kept_of_markConsumed (hh : Keyed h) {now : Time} {mac secret : String}
    {row : Announcement} (hrow : row ∈ (markConsumed now mac h).announcements)
    (hs : secret ∈ toldSecret row) : row ∈ h.announcements ∧ ¬clears h mac row := by
  rw [markConsumed] at hrow
  split at hrow
  · -- the registration brought no MAC
    next hempty => exact ⟨hrow, fun hc => hc.1 hempty⟩
  · cases hfound : announcementOfMac h (normalizeMac mac) with
    | none =>
        rw [hfound] at hrow
        refine ⟨hrow, fun hc => ?_⟩
        rw [clears, hfound] at hc
        cases hc.2.1
    | some row₁ =>
        rw [hfound] at hrow
        simp only at hrow
        have hsame (hc : clears h mac row) : row = row₁ := by
          rw [clears, hfound] at hc
          exact (Option.some_inj.mp hc.2.1).symm
        split at hrow
        · next hconsumed =>
            refine ⟨hrow, fun hc => ?_⟩
            rw [← hsame hc, hc.2.2] at hconsumed
            cases hconsumed
        · -- the row of the MAC is cleared: only the others tell anything
          rcases hh.announcements.mem_amend (announcementOfMac_mem hfound) hrow with
            ⟨hmem, hne⟩ | rfl
          · exact ⟨hmem, fun hc => hne (congrArg Announcement.id (hsame hc))⟩
          · cases (cached_of_told hs).2

/-- A registration keeps the told secrets backed when it clears those of its token. -/
theorem Backed.register (hb : Backed hash h) (hh : Keyed h) (het : et ∈ h.tokens)
    (hd : Redeems hash ctx p et h d g)
    (hclear : ∀ row ∈ h.announcements, tells hash row et →
      clears h ((registeredMac h p et).getD "") row) :
    Backed hash (markConsumed ctx.now (d.macAddress.getD "") g) := by
  intro row hrow secret hs
  obtain ⟨hmem, hnot⟩ := kept_of_markConsumed (hh.redeems hd) hrow hs
  rw [hd.announcements] at hmem
  obtain ⟨t, ht, hhash, hunused⟩ := hb row hmem secret hs
  -- were it the redeemed token, the registration would have cleared the row
  have hne : t.id ≠ et.id := by
    intro hid
    rw [hh.tokens.eq ht het hid] at hhash
    have hc := hclear row hmem ⟨secret, hs, hhash⟩
    rw [clears, announcementOfMac, ← hd.announcements, ← hd.mac] at hc
    exact hnot hc
  rw [markConsumed_tokens, hd.tokens]
  exact ⟨t, Rows.mem_amend_of_ne ht hne, hhash, hunused⟩

end

/-! ### Steps and runs -/

theorem backed_step (hash : String → String) {h : Hub} (ho : Orderly h) (hb : Backed hash h)
    {op : Operation} (hop : InStep hash h op) : Backed hash (step hash h op) := by
  rcases step_cases hash h op with heq | hdoes
  · rwa [heq]
  · generalize step hash h op = h' at hdoes
    cases hdoes with
    | mint => exact hb.mint _
    | @revoke sc id t ht hunused =>
        obtain ⟨hmem, rfl⟩ := Rows.find?_key (Option.filter_eq_some_iff.mp ht).1
        exact hb.deleteToken ho.keyed hmem (hop t ht hunused)
    | announce hpoll =>
        obtain ⟨raw, c, row₀, g₀, g, -, -, hrow, -, -, hre, -, -, rfl⟩ := hpoll.orderly ho
        exact (((hb.upserts hrow).stampLastSeen _ _).rebinds hre).tell _ _
    | adopt ht hadopt =>
        cases hadopt with
        | already => exact hb
        | adopted => exact hb.give fun _ => rfl
    | reject => exact hb.reject _ _
    | forceAdopt =>
        refine hb.updateAnnouncement fun row secret hs => ?_
        cases (cached_of_told hs).2
    | @register ctx token body p et d g hp het hunused hvalid hd =>
        have hclear := hop p (by rw [hp]; rfl) et het hunused hvalid hd.accepted
        exact hb.register ho.keyed (List.mem_of_find?_eq_some het) hd hclear
    | merge => exact hb

/-- A token that is in the table is the one its secret redeems. -/
theorem redeemable_of_mem {hash : String → String} {h : Hub} (hh : Keyed h) {t : EnrollmentToken}
    (ht : t ∈ h.tokens) {now : Time} {secret : String} (hhash : t.tokenHash = hash secret)
    (hunused : t.consumedAt = none) (hvalid : now < t.expiresAt) :
    Redeemable hash h now secret :=
  ⟨t, by rw [Hub.tokenWithHash, ← hhash]; exact hh.hashes.find? ht, hunused, hvalid⟩

/-- The secret a poll tells is that of a token that is not consumed and has not expired. -/
theorem Polls.token {hash : String → String} {ctx : Context} {h h' : Hub} {a : AnnounceArgs}
    {row : Announcement} {secret : String} (hpoll : Polls hash ctx a h row h') (ho : Orderly h)
    (hb : Backed hash h) (hop : InStep hash h (.announce ctx a))
    (hstatus : deviceStatus row = .adopted secret) :
    ∃ t ∈ h'.tokens, t.tokenHash = hash secret ∧ t.consumedAt = none ∧ ctx.now < t.expiresAt := by
  have htold := mem_toldSecret.mpr hstatus
  obtain ⟨raw, c, row₀, g₀, g, hraw, hc, hrow, -, -, hre, -, hmem, rfl⟩ := hpoll.orderly ho
  have hb₀ := (hb.upserts hrow).stampLastSeen ctx.now (normalizeMac raw)
  cases hre with
  | kept =>
      -- a cached secret: its token is one of `h`, where the condition speaks of it
      obtain ⟨t, ht, hhash, hunused⟩ := hb₀ row hmem secret htold
      refine ⟨t, ht, hhash, hunused, ?_⟩
      rw [stampLastSeen_tokens, hrow.tokens] at ht
      rcases hrow.cases_polled hraw hc with rfl | hs
      · cases hstatus
      · refine hop _ hs secret htold t ?_
        rw [Hub.tokenWithHash, ← hhash]
        exact ho.keyed.hashes.find? ht
  | @rebound d org hd hm =>
      -- the token was minted by this poll
      have hnew := (nonEmpty_secret ctx).symm.trans (cached_of_told htold).2
      refine ⟨_, List.mem_append_right _ (List.mem_singleton_self _), ?_, rfl, ?_⟩
      · rw [← Option.some_inj.mp hnew]
        rfl
      · have hpos : (0 : Int) < 86400 := by decide
        exact newToken_valid hash ctx.unbound org rfl hpos

/-- A poll that is told a secret in step is told one that can be redeemed. -/
theorem honoured_step (hash : String → String) {h : Hub} (ho : Orderly h) (hb : Backed hash h)
    {op : Operation} (hop : InStep hash h op) : Honoured hash h op := by
  cases op with
  | announce ctx a =>
      intro r hr secret hstatus
      rw [returned] at hr
      cases hx : upsertAnnouncement hash ctx a h with
      | error e h' =>
          rw [hx] at hr
          cases hr
      | ok r' h' =>
          rw [hx] at hr
          cases hr
          rw [step, exec_of_ok hx]
          obtain ⟨row, hpoll, rfl⟩ := upsertAnnouncement_eq_ok hx
          rw [answer_status] at hstatus
          obtain ⟨t, ht, hhash, hunused, hvalid⟩ := hpoll.token ho hb hop hstatus
          exact redeemable_of_mem (ho.keyed.polls hpoll) ht hhash hunused hvalid
  | mint | revoke | adopt | reject | forceAdopt | register | merge => trivial

/-- **A token that is handed out is redeemable.**  Along a run of operations in step, from tables
without announcements, every secret a poll is told is that of a token that exists, is not consumed
and has not expired. -/
theorem handed_out_run (hash : String → String) {h : Hub} (hh : Keyed h)
    (hnone : h.announcements = []) {ops : List Operation}
    (hops : Admits (step hash) (InStep hash) h ops) :
    Admits (step hash) (Honoured hash) h ops := by
  have hstart : Orderly h ∧ Backed hash h := ⟨.start hh hnone, by simp [Backed, hnone]⟩
  refine admits_of_invariant (I := fun g => Orderly g ∧ Backed hash g) ?_ hstart hops
  intro g op hg hop
  exact ⟨⟨hg.1.step hash op, backed_step hash hg.1 hg.2 hop⟩, honoured_step hash hg.1 hg.2 hop⟩

/-- A device announces itself, is adopted, and picks its token up at `now`. -/
def pickUp (between : List Operation) (now : Time) : List Operation :=
  [.announce (request 1 none "a") (pollOf "AA:BB:CC:DD:EE:FF" "10.0.0.7"),
   .adopt (request 2 (some "org") "b") "ann-a" none none "fresh" none] ++ between ++
  [.announce (request now none "c") (pollOf "AA:BB:CC:DD:EE:FF" "10.0.0.7")]

theorem handed_out_run_fresh : Admits (step id) (Honoured id) oneSite (pickUp [] 3) :=
  handed_out_run id (Keyed.start _ _) rfl ⟨by decide, by decide, by decide, trivial⟩

/-- The runs that break it: the token is revoked before the device picks it up, the device
registers without its MAC and polls again, and the device first polls after a week. -/
theorem handed_out_dead :
    ¬Admits (step id) (Honoured id) oneSite
      (pickUp [.revoke ⟨some "org", false⟩ "et-b"] 3) ∧
    ¬Admits (step id) (Honoured id) oneSite
      (pickUp [.register (request 3 none "d") "et_b" []] 4) ∧
    ¬Admits (step id) (Honoured id) oneSite (pickUp [] (2 + seconds 604800)) := by
  refine ⟨fun h => ?_, fun h => ?_, fun h => ?_⟩
  · exact absurd (h.2.2.2.1 _ rfl "et_b" rfl) (by decide)
  · exact absurd (h.2.2.2.1 _ rfl "et_b" rfl) (by decide)
  · exact absurd (h.2.2.1 _ rfl "et_b" rfl) (by decide)

end RebooterHub.Enrollment
