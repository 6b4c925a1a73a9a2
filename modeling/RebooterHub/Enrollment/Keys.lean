import RebooterHub.Enrollment.Operations

/-!
# Enrollment — Keys

The keys of the tables: every operation keeps them.

An update of a row keeps its key, an insert checks its own, and the credentials of a device are
deleted before it is given a new one.
-/

namespace RebooterHub.Enrollment
open RebooterHub.Transaction

/-- The unique columns the services rely on. -/
structure Keyed (h : Hub) : Prop where
  devices : Rows.Keyed (·.id) h.devices
  credentials : Rows.Keyed (·.deviceId) h.credentials
  tokens : Rows.Keyed (·.id) h.tokens
  hashes : Rows.Keyed (·.tokenHash) h.tokens
  announcements : Rows.Keyed (·.id) h.announcements

namespace Keyed

variable {hash : String → String} {ctx : Context} {h h' : Hub}

theorem start (orgs : List Organization) (sites : List Site) : Keyed (Hub.start orgs sites) :=
  ⟨List.nodup_nil, List.nodup_nil, List.nodup_nil, List.nodup_nil, List.nodup_nil⟩

theorem updateDevice (hh : Keyed h) {id : String} {g : Device → Device}
    (hg : ∀ d, (g d).id = d.id) : Keyed (h.updateDevice id g) :=
  ⟨hh.devices.amend hg, hh.credentials, hh.tokens, hh.hashes, hh.announcements⟩

theorem updateAnnouncement (hh : Keyed h) {id : String} {g : Announcement → Announcement}
    (hg : ∀ a, (g a).id = a.id) : Keyed (h.updateAnnouncement id g) :=
  ⟨hh.devices, hh.credentials, hh.tokens, hh.hashes, hh.announcements.amend hg⟩

theorem mint (hh : Keyed h) {a : MintArgs} {org : String} (hm : Mintable hash ctx a h org) :
    Keyed { h with tokens := h.tokens ++ [newToken hash ctx org a] } :=
  ⟨hh.devices, hh.credentials, hh.tokens.append hm.stored.id, hh.hashes.append hm.stored.hash,
    hh.announcements⟩

theorem deleteToken (hh : Keyed h) (id : String) : Keyed (h.deleteToken id) := by
  refine ⟨hh.devices, hh.credentials, hh.tokens.filter _, hh.hashes.filter _, ?_⟩
  rw [Rows.Keyed, Hub.deleteToken, List.map_map]
  refine (List.map_congr_left fun a _ => ?_) ▸ hh.announcements
  rw [Function.comp_apply]
  split <;> rfl

theorem dropToken (hh : Keyed h) (old : Option EnrollmentToken) : Keyed (h.dropToken old) := by
  cases old with
  | none => exact hh
  | some t => exact hh.deleteToken t.id

theorem stampLastSeen (hh : Keyed h) (now : Time) (mac : String) :
    Keyed (stampLastSeen now mac h) := by
  rcases stampLastSeen_cases now mac h with heq | ⟨id, heq⟩
  · rwa [heq]
  · rw [heq]
    exact hh.updateDevice fun _ => rfl

theorem markConsumed (hh : Keyed h) (now : Time) (mac : String) : Keyed (markConsumed now mac h) := by
  rcases markConsumed_cases now mac h with heq | ⟨row, -, -, heq⟩
  · rwa [heq]
  · rw [heq]
    exact hh.updateAnnouncement fun _ => rfl

theorem upserts (hh : Keyed h) {mac : String} {c : Claims} {a : AnnounceArgs} {row : Announcement}
    (hrow : Upserts ctx mac c a h row h') : Keyed h' := by
  cases hrow with
  | created hnone hnew =>
      exact ⟨hh.devices, hh.credentials, hh.tokens, hh.hashes, hh.announcements.append hnew⟩
  | refreshed hrow => exact hh.updateAnnouncement fun _ => rfl

theorem rebinds (hh : Keyed h) {row row' : Announcement} (hre : Rebinds hash ctx row h row' h') :
    Keyed h' := by
  cases hre with
  | kept => exact hh
  | rebound hd hm => exact (hh.mint hm).updateAnnouncement fun _ => rfl

theorem recovers (hh : Keyed h) {row row' : Announcement} (hrec : Recovers hash ctx row h row' h') :
    Keyed h' := by
  cases hrec with
  | kept => exact hh
  | reconciled hs hat => exact hh.updateAnnouncement fun _ => rfl
  | rearmed hs hunused hm =>
      have harmed : Keyed (Hub.updateAnnouncement _ row.id
          (rearmed ctx.tokenId ctx.enrollmentSecret)) := (hh.mint hm).updateAnnouncement fun _ => rfl
      exact harmed.dropToken _

theorem told_id (now : Time) (row : Announcement) : (told now row).id = row.id := by
  obtain ⟨at_, heq⟩ := told_eq now row
  rw [heq]

theorem polls (hh : Keyed h) {a : AnnounceArgs} {row : Announcement}
    (hpoll : Polls hash ctx a h row h') : Keyed h' := by
  cases hpoll with
  | poll hraw hc hrow hre hrec =>
      have hup := ((hh.upserts hrow).stampLastSeen ctx.now _).rebinds hre
      exact (hup.recovers hrec).updateAnnouncement (told_id ctx.now)

theorem rejected_id (byUserId : Option String) (row : Announcement) :
    (rejected ctx byUserId row).id = row.id := by
  obtain ⟨org, by_, heq⟩ := rejected_eq ctx byUserId row
  rw [heq]

theorem redeems (hh : Keyed h) {p : Registration} {et : EnrollmentToken} {d : Device}
    (hd : Redeems hash ctx p et h d h') : Keyed h' := by
  have htokens (id : String) : Rows.Keyed (·.id) (h.updateToken et.id (spent ctx.now id)).tokens :=
    hh.tokens.amend fun _ => rfl
  have hhashes (id : String) :
      Rows.Keyed (·.tokenHash) (h.updateToken et.id (spent ctx.now id)).tokens :=
    hh.hashes.amend fun _ => rfl
  cases hd with
  | restore ht hd hlive hmac hcred =>
      -- the old credentials of the target are gone
      refine ⟨hh.devices.amend fun _ => rfl, (hh.credentials.filter _).append ?_, htokens _,
        hhashes _, hh.announcements⟩
      exact List.find?_eq_none.mpr fun c hc hid => (hcred c hc).1 (of_decide_eq_true hid)
  | fresh ht hmac hsite hthere hnew hcred =>
      refine ⟨hh.devices.append hnew, hh.credentials.append ?_, htokens _, hhashes _,
        hh.announcements⟩
      exact List.find?_eq_none.mpr fun c hc hid => (hcred c hc).1 (of_decide_eq_true hid)

/-- Every operation keeps the keys. -/
theorem step (hash : String → String) (hh : Keyed h) (op : Operation) : Keyed (step hash h op) := by
  rcases step_cases hash h op with heq | hdoes
  · rwa [heq]
  · generalize Enrollment.step hash h op = h' at hdoes
    cases hdoes with
    | mint hm => exact hh.mint hm
    | revoke ht hunused => exact hh.deleteToken _
    | announce hpoll => exact hh.polls hpoll
    | adopt ht hadopt =>
        cases hadopt with
        | already => exact hh
        | adopted hrow hrej had htarget hm => exact (hh.mint hm).updateAnnouncement fun _ => rfl
    | reject hrow => exact hh.updateAnnouncement (rejected_id _)
    | forceAdopt hrow hc => exact hh.updateAnnouncement fun _ => rfl
    | register hp het hunused hvalid hd => exact (hh.redeems hd).markConsumed _ _
    | merge => exact hh.updateDevice fun _ => rfl

end Keyed

end RebooterHub.Enrollment
