import RebooterHub.Enrollment.Keys
import RebooterHub.Support.Runs

/-!
# Enrollment — Redemption

A token is redeemed once, for one device with one credential, and a redemption that raises leaves
the tables as they were.  Redemptions of one token are serialized by the lock on its row, so a run
takes them one after the other.

* `Grows` is what no operation undoes: a consumed token stays, and so do devices and credentials.
* `exchange_of_ok` is what one redemption does.
* `redeemed_once` is the result for every run of the operations.
-/

namespace RebooterHub.Enrollment
open RebooterHub.Transaction RebooterHub.Runs

/-- The redemption of an operation, if it is a registration that returns. -/
def redeemed (hash : String → String) (h : Hub) : Operation → List Redeemed
  | .register ctx token body => (returned (consumeEnrollmentToken hash ctx token body) h).toList
  | _ => []

/-- The token was not consumed before and is now, for the device; there is one such device, with
one credential, and the other devices are as they were. -/
structure Exchange (hash : String → String) (h : Hub) (r : Redeemed) (h' : Hub) : Prop where
  unused : r.token ∈ h.tokens ∧ r.token.consumedAt = none
  used : ∃ t ∈ h'.tokens, t.id = r.token.id ∧ t.consumedAt.isSome ∧
    t.consumedByDeviceId = some r.device.id
  device : h'.devices.filter (·.id = r.device.id) = [r.device]
  others : h'.devices.filter (·.id ≠ r.device.id) = h.devices.filter (·.id ≠ r.device.id)
  credential : h'.credentials.filter (·.deviceId = r.device.id) =
    [⟨r.device.id, hash r.rawSecret⟩]

/-- No operation undoes these. -/
structure Grows (h h' : Hub) : Prop where
  used : ∀ t ∈ h.tokens, t.consumedAt.isSome → ∃ t' ∈ h'.tokens, t'.id = t.id ∧ t'.consumedAt.isSome
  devices : ∀ id ∈ h.devices.map (·.id), id ∈ h'.devices.map (·.id)
  credentials : ∀ id ∈ h.credentials.map (·.deviceId), id ∈ h'.credentials.map (·.deviceId)

namespace Grows

variable {hash : String → String} {ctx : Context} {h h' h'' : Hub}

theorem trans (h₁ : Grows h h') (h₂ : Grows h' h'') : Grows h h'' where
  used t ht hused := by
    obtain ⟨t', ht', hid, hused'⟩ := h₁.used t ht hused
    obtain ⟨t'', ht'', hid', hused''⟩ := h₂.used t' ht' hused'
    exact ⟨t'', ht'', hid'.trans hid, hused''⟩
  devices id hid := h₂.devices id (h₁.devices id hid)
  credentials id hid := h₂.credentials id (h₁.credentials id hid)

/-- What only adds tokens and keeps the ids of devices. -/
theorem of_keeps (ht : h.tokens ⊆ h'.tokens) (hd : h'.devices.map (·.id) = h.devices.map (·.id))
    (hc : h'.credentials = h.credentials) : Grows h h' where
  used t hmem hused := ⟨t, ht hmem, rfl, hused⟩
  devices _ hid := hd ▸ hid
  credentials _ hid := hc ▸ hid

theorem refl (h : Hub) : Grows h h := of_keeps (List.Subset.refl _) rfl rfl

theorem updateDevice {id : String} {g : Device → Device} (hg : ∀ d, (g d).id = d.id) :
    Grows h (h.updateDevice id g) := of_keeps (List.Subset.refl _) (Rows.map_amend hg) rfl

theorem updateAnnouncement (id : String) (g : Announcement → Announcement) :
    Grows h (h.updateAnnouncement id g) := of_keeps (List.Subset.refl _) rfl rfl

theorem mint (t : EnrollmentToken) : Grows h { h with tokens := h.tokens ++ [t] } :=
  of_keeps (List.subset_append_left _ _) rfl rfl

/-- A token that is not consumed may be deleted. -/
theorem deleteToken (hh : Keyed h) {t : EnrollmentToken} (ht : t ∈ h.tokens)
    (hunused : t.consumedAt = none) : Grows h (h.deleteToken t.id) where
  used t' ht' hused := by
    refine ⟨t', List.mem_filter.mpr ⟨ht', ?_⟩, rfl, hused⟩
    refine decide_eq_true fun hid => ?_
    rw [hh.tokens.eq ht' ht hid, hunused] at hused
    cases hused
  devices _ hid := hid
  credentials _ hid := hid

theorem stampLastSeen (now : Time) (mac : String) : Grows h (stampLastSeen now mac h) := by
  rcases stampLastSeen_cases now mac h with heq | ⟨id, heq⟩
  · rw [heq]
    exact refl h
  · rw [heq]
    exact updateDevice fun _ => rfl

theorem markConsumed (now : Time) (mac : String) : Grows h (markConsumed now mac h) := by
  rcases markConsumed_cases now mac h with heq | ⟨row, -, -, heq⟩
  · rw [heq]
    exact refl h
  · rw [heq]
    exact updateAnnouncement _ _

theorem upserts {mac : String} {c : Claims} {a : AnnounceArgs} {row : Announcement}
    (hrow : Upserts ctx mac c a h row h') : Grows h h' := by
  cases hrow with
  | created => exact of_keeps (List.Subset.refl _) rfl rfl
  | refreshed => exact updateAnnouncement _ _

theorem rebinds {row row' : Announcement} (hre : Rebinds hash ctx row h row' h') : Grows h h' := by
  cases hre with
  | kept => exact refl h
  | rebound hd hm => exact (mint _).trans (updateAnnouncement _ _)

theorem recovers (hh : Keyed h) {row row' : Announcement}
    (hrec : Recovers hash ctx row h row' h') : Grows h h' := by
  cases hrec with
  | kept => exact refl h
  | reconciled => exact updateAnnouncement _ _
  | @rearmed org hs hunused hm =>
      have hre : Grows h (Hub.updateAnnouncement
          { h with tokens := h.tokens ++
              [newToken hash ctx org (recoveryArgs row (heldToken h row))] }
          row.id (rearmed ctx.tokenId ctx.enrollmentSecret)) :=
        (mint _).trans (updateAnnouncement _ _)
      refine hre.trans ?_
      cases ht : heldToken h row with
      | none => exact refl _
      | some t =>
          rw [ht] at hunused hm
          have hmem : t ∈ h.tokens := by
            obtain ⟨id, -, hfind⟩ := Option.bind_eq_some_iff.mp ht
            exact (Rows.find?_key hfind).1
          have hkeyed : Keyed (Hub.updateAnnouncement _ row.id
              (rearmed ctx.tokenId ctx.enrollmentSecret)) :=
            (hh.mint hm).updateAnnouncement fun _ => rfl
          exact deleteToken hkeyed (List.mem_append_left _ hmem) hunused

theorem polls (hh : Keyed h) {a : AnnounceArgs} {row : Announcement}
    (hpoll : Polls hash ctx a h row h') : Grows h h' := by
  cases hpoll with
  | poll hraw hc hrow hre hrec =>
      have hkeyed := ((hh.upserts hrow).stampLastSeen ctx.now _).rebinds hre
      exact ((((upserts hrow).trans (stampLastSeen _ _)).trans (rebinds hre)).trans
        (recovers hkeyed hrec)).trans (updateAnnouncement _ _)

theorem redeems {p : Registration} {et : EnrollmentToken} {d : Device}
    (hd : Redeems hash ctx p et h d h') : Grows h h' := by
  have hspent (id : String) : ∀ t ∈ h.tokens, t.consumedAt.isSome →
      ∃ t' ∈ (h.updateToken et.id (spent ctx.now id)).tokens, t'.id = t.id ∧
        t'.consumedAt.isSome := by
    intro t ht hused
    refine ⟨_, Rows.amend_mem ht, ?_⟩
    split
    · exact ⟨rfl, rfl⟩
    · exact ⟨rfl, hused⟩
  cases hd with
  | @restore target d ht hd hlive hmac hcred =>
      refine ⟨hspent _, fun id hid => ?_, fun id hid => ?_⟩
      · exact (updateDevice (g := restoredDevice ctx.now p) fun _ => rfl).devices id hid
      · obtain ⟨c, hc, rfl⟩ := List.mem_map.mp hid
        rw [List.map_append, List.mem_append]
        by_cases hc' : c.deviceId = target
        · exact .inr (List.mem_singleton.mpr hc')
        · exact .inl (List.mem_map_of_mem (List.mem_filter.mpr ⟨hc, decide_eq_true hc'⟩))
  | fresh =>
      refine ⟨hspent _, fun id hid => ?_, fun id hid => ?_⟩
      · rw [List.map_append]
        exact List.mem_append_left _ hid
      · rw [List.map_append]
        exact List.mem_append_left _ hid

theorem step (hh : Keyed h) (op : Operation) : Grows h (step hash h op) := by
  rcases step_cases hash h op with heq | hdoes
  · rw [heq]
    exact refl h
  · generalize Enrollment.step hash h op = h' at hdoes
    cases hdoes with
    | mint hm => exact mint _
    | revoke ht hunused =>
        obtain ⟨hmem, hid⟩ := Rows.find?_key (Option.filter_eq_some_iff.mp ht).1
        exact hid ▸ deleteToken hh hmem hunused
    | announce hpoll => exact polls hh hpoll
    | adopt ht hadopt =>
        cases hadopt with
        | already => exact refl h
        | adopted => exact (mint _).trans (updateAnnouncement _ _)
    | reject => exact updateAnnouncement _ _
    | forceAdopt => exact updateAnnouncement _ _
    | register hp het hunused hvalid hd => exact (redeems hd).trans (markConsumed _ _)
    | merge => exact updateDevice fun _ => rfl

end Grows

/-! ### One redemption -/

section
variable {hash : String → String} {ctx : Context} {h h' : Hub}

theorem exchange_of_redeems (hh : Keyed h) {p : Registration} {et : EnrollmentToken} {d : Device}
    (het : et ∈ h.tokens) (hunused : et.consumedAt = none) (hd : Redeems hash ctx p et h d h') :
    Exchange hash h ⟨d, ctx.bearerToken, et⟩ h' := by
  have hkeyed := hh.redeems hd
  cases hd with
  | @restore target d ht hd hlive hmac hcred =>
      obtain ⟨hmem, rfl⟩ := Rows.find?_key hd
      refine ⟨⟨het, hunused⟩, ⟨_, Rows.mem_amend_self het, rfl, rfl, rfl⟩, ?_, ?_, ?_⟩
      · exact hkeyed.devices.filter_eq (Rows.mem_amend_self hmem)
      · exact Rows.filter_amend_ne fun _ => rfl
      · exact hkeyed.credentials.filter_eq (List.mem_append_right _ (List.mem_singleton_self _))
  | @fresh siteId sites ht hmac hsite hthere hnew hcred =>
      refine ⟨⟨het, hunused⟩, ⟨_, Rows.mem_amend_self het, rfl, rfl, rfl⟩, ?_, ?_, ?_⟩
      · exact hkeyed.devices.filter_eq (List.mem_append_right _ (List.mem_singleton_self _))
      · rw [List.filter_append, List.filter_cons_of_neg (by simp), List.filter_nil,
          List.append_nil]
      · exact hkeyed.credentials.filter_eq (List.mem_append_right _ (List.mem_singleton_self _))

/-- What a redemption that succeeds does. -/
theorem exchange_of_ok (hh : Keyed h) {token : String} {body : List (String × Json)} {r : Redeemed}
    (hr : consumeEnrollmentToken hash ctx token body h = .ok r h') : Exchange hash h r h' := by
  obtain ⟨p, g, -, hredeem, hh'⟩ := consumeEnrollmentToken_eq_ok hr
  obtain ⟨device, rawSecret, et⟩ := r
  obtain ⟨het, hunused, -, hd, rfl⟩ := redeem_eq_ok hredeem
  obtain ⟨rows, htables⟩ := markConsumed_tables ctx.now (device.macAddress.getD "") g
  obtain ⟨h₁, h₂, h₃, h₄, h₅⟩ := exchange_of_redeems hh (List.mem_of_find?_eq_some het) hunused hd
  rw [hh', htables]
  exact ⟨h₁, h₂, h₃, h₄, h₅⟩

theorem redeemed_cases (hash : String → String) (hh : Keyed h) (op : Operation) :
    redeemed hash h op = [] ∨
      ∃ r, redeemed hash h op = [r] ∧ Exchange hash h r (step hash h op) := by
  cases op with
  | register ctx token body =>
      rw [redeemed, returned, step, exec]
      cases hr : consumeEnrollmentToken hash ctx token body h with
      | ok r h' => exact .inr ⟨r, rfl, exchange_of_ok hh hr⟩
      | error e h' => exact .inl rfl
  | mint | revoke | announce | adopt | reject | forceAdopt | merge => exact .inl rfl

end

/-! ### Every run -/

/-- The redemptions so far, and the tables: each token was redeemed once and is consumed, and each
device has a credential. -/
structure Settled (rs : List Redeemed) (h : Hub) : Prop where
  keyed : Keyed h
  once : (rs.map (·.token.id)).Nodup
  used : ∀ r ∈ rs, ∃ t ∈ h.tokens, t.id = r.token.id ∧ t.consumedAt.isSome
  device : ∀ r ∈ rs, r.device.id ∈ h.devices.map (·.id)
  credential : ∀ r ∈ rs, r.device.id ∈ h.credentials.map (·.deviceId)

theorem Settled.grow {rs : List Redeemed} {h h' : Hub} (hs : Settled rs h) (hg : Grows h h')
    (hh' : Keyed h') : Settled rs h' where
  keyed := hh'
  once := hs.once
  used r hr := by
    obtain ⟨t, ht, hid, hused⟩ := hs.used r hr
    obtain ⟨t', ht', hid', hused'⟩ := hg.used t ht hused
    exact ⟨t', ht', hid'.trans hid, hused'⟩
  device r hr := hg.devices _ (hs.device r hr)
  credential r hr := hg.credentials _ (hs.credential r hr)

theorem settled_step (hash : String → String) {rs : List Redeemed} {h : Hub} (hs : Settled rs h)
    (op : Operation) : Settled (rs ++ redeemed hash h op) (step hash h op) := by
  have hgrown := hs.grow (Grows.step hs.keyed op) (hs.keyed.step hash op)
  rcases redeemed_cases hash hs.keyed op with hnone | ⟨r, hr, hex⟩
  · rw [hnone, List.append_nil]
    exact hgrown
  · rw [hr]
    -- a token that was redeemed before is consumed, and this one was not
    have hnew : r.token.id ∉ rs.map (·.token.id) := by
      intro hmem
      obtain ⟨r', hr', hid⟩ := List.mem_map.mp hmem
      obtain ⟨t, ht, htid, hused⟩ := hs.used r' hr'
      obtain ⟨het, hunused⟩ := hex.unused
      rw [hs.keyed.tokens.eq ht het (htid.trans hid), hunused] at hused
      cases hused
    have hdevice : r.device ∈ (step hash h op).devices :=
      List.mem_of_mem_filter (hex.device ▸ List.mem_singleton_self _)
    have hcredential : ⟨r.device.id, hash r.rawSecret⟩ ∈ (step hash h op).credentials :=
      List.mem_of_mem_filter (hex.credential ▸ List.mem_singleton_self _)
    refine ⟨hgrown.keyed, ?_, ?_, ?_, ?_⟩
    · rw [List.map_append, List.map_singleton]
      exact hs.once.append (List.nodup_singleton _) (by simpa using hnew)
    · intro r' hr'
      rcases List.mem_append.mp hr' with hr' | hr'
      · exact hgrown.used r' hr'
      · obtain ⟨t, ht, hid, hused, -⟩ := hex.used
        exact List.mem_singleton.mp hr' ▸ ⟨t, ht, hid, hused⟩
    · intro r' hr'
      rcases List.mem_append.mp hr' with hr' | hr'
      · exact hgrown.device r' hr'
      · exact List.mem_singleton.mp hr' ▸ List.mem_map_of_mem hdevice
    · intro r' hr'
      rcases List.mem_append.mp hr' with hr' | hr'
      · exact hgrown.credential r' hr'
      · exact List.mem_singleton.mp hr' ▸ List.mem_map.mpr ⟨_, hcredential, rfl⟩

/-- **Single use.**  In every run of the operations from tables that keep their keys, no token is
redeemed twice; a redemption that raises leaves the tables as they were, and one that succeeds
exchanges its token for one device with one credential; at the end each device that was handed out
is still one device with one credential. -/
theorem redeemed_once (hash : String → String) {h : Hub} (hh : Keyed h) (ops : List Operation) :
    ((emitted (step hash) (redeemed hash) h ops).map (·.token.id)).Nodup ∧
      Admits (step hash) (fun g op => ∀ ctx token body, op = .register ctx token body →
        (∀ e g', consumeEnrollmentToken hash ctx token body g = .error e g' → g' = g) ∧
        ∀ r g', consumeEnrollmentToken hash ctx token body g = .ok r g' →
          Exchange hash g r g') h ops ∧
      ∀ r ∈ emitted (step hash) (redeemed hash) h ops,
        ((run (step hash) h ops).devices.filter (·.id = r.device.id)).length = 1 ∧
          ((run (step hash) h ops).credentials.filter (·.deviceId = r.device.id)).length = 1 := by
  have hstart : Settled [] h := ⟨hh, List.nodup_nil, by simp, by simp, by simp⟩
  have hall : Admits (step hash) (fun _ _ => True) h ops := admits_of_forall (fun _ _ => trivial) h ops
  have hs := emitted_invariant (I := Settled) (fun _ _ op hs _ => settled_step hash hs op) hstart hall
  rw [List.nil_append] at hs
  refine ⟨hs.once, ?_, ?_⟩
  · refine admits_of_invariant (I := Keyed) (fun g op hg _ => ⟨hg.step hash op, ?_⟩) hh hall
    intro ctx token body _
    exact ⟨fun e g' => atomic_consumeEnrollmentToken hash ctx token body g e g',
      fun r g' => exchange_of_ok hg⟩
  · intro r hr
    obtain ⟨d, hd, hid⟩ := List.mem_map.mp (hs.device r hr)
    obtain ⟨c, hc, hcid⟩ := List.mem_map.mp (hs.credential r hr)
    rw [← hid, hs.keyed.devices.filter_eq hd, hid, ← hcid, hs.keyed.credentials.filter_eq hc]
    exact ⟨rfl, rfl⟩

/-- A token is minted and presented twice. -/
def replay : List Operation :=
  [.mint (request 0 (some "org") "a") (mintFor (some "site") none),
   .register (request 1 none "b") "et_a" (bodyOf "AA:BB:CC:DD:EE:FF"),
   .register (request 2 none "c") "et_a" (bodyOf "11:22:33:44:55:66")]

theorem redeemed_once_replay :
    (emitted (step id) (redeemed id) oneSite replay).map (·.token.id) = ["et-a"] ∧
      ((emitted (step id) (redeemed id) oneSite replay).map (·.token.id)).Nodup ∧
      ∀ r ∈ emitted (step id) (redeemed id) oneSite replay,
        ((run (step id) oneSite replay).credentials.filter (·.deviceId = r.device.id)).length = 1 :=
  have h := redeemed_once id (Keyed.start _ _) replay
  ⟨by decide, h.1, fun r hr => (h.2.2 r hr).2⟩

end RebooterHub.Enrollment
