import RebooterHub.Enrollment.Registration
import RebooterHub.Support.Runs

/-!
# Enrollment — Operations

`find_by_mac`, `merge_retire_device`, and the operations of enrolment as the steps of one system.

Each operation says in one lemma what it does to the tables when it succeeds; one that raises
leaves them as they were.  The invariants are read off these lemmas.
-/

namespace RebooterHub.Enrollment
open RebooterHub.Transaction

/-! ### Duplicate rows -/

/-- `find_by_mac`: the devices a MAC is looked up as. -/
def findByMac (h : Hub) (mac : String) : List Device :=
  if stripUpper mac = "" then []
  else h.devices.filter fun d => d.isLive && d.macAddress.any (sqlForm · = stripUpper mac)

/-- The row a merge retires. -/
def retired (now : Time) (d : Device) : Device :=
  { d with registrationState := .decommissioned, updatedAt := now }

/-- `merge_retire_device`. -/
def mergeRetireDevice (now : Time) (keepId retireId : String) : Op Unit := do
  if keepId = "" ∨ retireId = "" then
    throw (.mergeRefused "validation_failed" "keep_device_id and retire_device_id are required")
  else if keepId = retireId then
    throw (.mergeRefused "validation_failed" "keep and retire device must be different")
  else scope do
    let h ← get
    match h.device keepId, h.device retireId with
    | none, _ => throw (.mergeRefused "not_found" ("keep device " ++ keepId ++ " not found"))
    | _, none => throw (.mergeRefused "not_found" ("retire device " ++ retireId ++ " not found"))
    | some keep, some retire => do
      require keep.isLive (.mergeRefused "validation_failed"
        "keep device is decommissioned; pick an active row to keep")
      require retire.isLive (.mergeRefused "already_retired"
        ("device " ++ retireId ++ " is already decommissioned"))
      let keepMac := String.ofList (Text.strip (keep.macAddress.getD "").toList)
      let retireMac := String.ofList (Text.strip (retire.macAddress.getD "").toList)
      require (keepMac ≠ "" ∧ retireMac ≠ "") (.mergeRefused "mac_mismatch"
        "both devices must have a MAC address to merge")
      let matched := (findByMac h keepMac).map (·.id)
      require (retireId ∈ matched ∧ keepId ∈ matched) (.mergeRefused "mac_mismatch"
        "the two devices do not share a MAC address; refusing to merge")
      modify fun h => h.updateDevice retireId (retired now)

/-! ### Steps -/

/-- The operations of enrolment, with what each is given. -/
inductive Operation where
  | mint (ctx : Context) (a : MintArgs)
  | revoke (sc : Scope) (tokenId : String)
  | announce (ctx : Context) (a : AnnounceArgs)
  | adopt (ctx : Context) (id : String) (byUserId displayName : Option String) (mode : String)
      (target : Option String)
  | reject (ctx : Context) (id : String) (byUserId : Option String)
  | forceAdopt (ctx : Context) (id : String)
  | register (ctx : Context) (token : String) (body : List (String × Json))
  | merge (now : Time) (keepId retireId : String)

/-- The tables after an operation. -/
def step (hash : String → String) (h : Hub) : Operation → Hub
  | .mint ctx a => exec (mintEnrollmentToken hash ctx a) h
  | .revoke sc tokenId => (revokeEnrollmentToken sc tokenId h).1
  | .announce ctx a => exec (upsertAnnouncement hash ctx a) h
  | .adopt ctx id byUserId displayName mode target =>
      exec (adopt hash ctx id byUserId displayName mode target) h
  | .reject ctx id byUserId => reject ctx id byUserId h
  | .forceAdopt ctx id => exec (forceAdoptReconcile ctx id) h
  | .register ctx token body => exec (consumeEnrollmentToken hash ctx token body) h
  | .merge now keepId retireId => exec (mergeRetireDevice now keepId retireId) h

/-- A bulk revocation is a run of revocations. -/
theorem revokeEnrollmentTokensBulk_eq_run (hash : String → String) (sc : Scope) (ids : List String)
    (h : Hub) :
    revokeEnrollmentTokensBulk sc ids h = Runs.run (step hash) h (ids.map (.revoke sc)) := by
  induction ids generalizing h with
  | nil => rfl
  | cons id ids ih => exact ih (revokeEnrollmentToken sc id h).1

/-- The tables without devices, tokens and announcements. -/
def Hub.start (orgs : List Organization) (sites : List Site) : Hub := ⟨orgs, sites, [], [], [], []⟩

/-- The tables of a hub with one organization and its site. -/
def oneSite : Hub := .start [⟨"org", "default"⟩] [⟨"site", "Default", "org"⟩]

/-- A request at `now` for an organization, with the default settings, whose ids and secrets are
marked with `tag`. -/
def request (now : Time) (org : Option String) (tag : String) : Context where
  now := now
  scope := ⟨org, false⟩
  enrollmentTokenTtlSeconds := 86400
  announcePendingRetryAfterSeconds := 5
  publicBaseUrl := "https://hub"
  tokenId := "et-" ++ tag
  secret := tag
  deviceId := "dev-" ++ tag
  deviceToken := tag
  siteId := "site-" ++ tag
  announcementId := "ann-" ++ tag

/-- A mint without a hint, for a site and a target. -/
def mintFor (siteId targetDeviceId : Option String) : MintArgs :=
  ⟨none, siteId, none, none, none, targetDeviceId⟩

/-- A poll with a MAC and an address. -/
def pollOf (mac ip : String) : AnnounceArgs :=
  ⟨.str mac, .null, .null, .null, .str ip, .null, .null, some ip, none⟩

/-- The body of a registration with a MAC. -/
def bodyOf (mac : String) : List (String × Json) := [("mac_address", .str mac)]

/-- What an operation that changed something did. -/
inductive Does (hash : String → String) (h : Hub) : Operation → Hub → Prop
  | mint {ctx : Context} {a : MintArgs} {org : String} (hm : Mintable hash ctx a h org) :
      Does hash h (.mint ctx a) { h with tokens := h.tokens ++ [newToken hash ctx org a] }
  | revoke {sc : Scope} {id : String} {t : EnrollmentToken} (ht : visibleToken h sc id = some t)
      (hunused : t.consumedAt = none) : Does hash h (.revoke sc id) (h.deleteToken id)
  | announce {ctx : Context} {a : AnnounceArgs} {row : Announcement} {h' : Hub}
      (hpoll : Polls hash ctx a h row h') : Does hash h (.announce ctx a) h'
  | adopt {ctx : Context} {id mode : String} {byUserId displayName target t : Option String}
      {row : Announcement} {h' : Hub} (ht : restoreTarget mode target = .ok t)
      (hadopt : Adopts hash ctx id byUserId displayName t h row h') :
      Does hash h (.adopt ctx id byUserId displayName mode target) h'
  | reject {ctx : Context} {id : String} {byUserId : Option String} {row : Announcement}
      (hrow : visibleAnnouncement h ctx.scope id = some row) :
      Does hash h (.reject ctx id byUserId) (h.updateAnnouncement id (rejected ctx byUserId))
  | forceAdopt {ctx : Context} {id : String} {row : Announcement}
      (hrow : visibleAnnouncement h ctx.scope id = some row) (hc : row.consumedAt = none) :
      Does hash h (.forceAdopt ctx id)
        (h.updateAnnouncement id fun row => stamped ctx.scope (consumed ctx.now row))
  | register {ctx : Context} {token : String} {body : List (String × Json)} {p : Registration}
      {et : EnrollmentToken} {d : Device} {g : Hub} (hp : checkRegistration body = .ok p)
      (het : h.tokenWithHash (hash token) = some et) (hunused : et.consumedAt = none)
      (hvalid : ctx.now < et.expiresAt) (hd : Redeems hash ctx p et h d g) :
      Does hash h (.register ctx token body) (markConsumed ctx.now (d.macAddress.getD "") g)
  | merge {now : Time} {keepId retireId : String} :
      Does hash h (.merge now keepId retireId) (h.updateDevice retireId (retired now))

theorem mergeRetireDevice_eq_ok {now : Time} {keepId retireId : String} {u : Unit} {h h' : Hub}
    (hr : mergeRetireDevice now keepId retireId h = .ok u h') :
    h' = h.updateDevice retireId (retired now) := by
  rw [mergeRetireDevice] at hr
  split at hr
  · cases hr
  · split at hr
    · cases hr
    · replace hr := scope_eq_ok hr
      rw [get_bind] at hr
      cases hkeep : h.device keepId with
      | none =>
          simp only [hkeep] at hr
          cases hr
      | some keep =>
          cases hretire : h.device retireId with
          | none =>
              simp only [hkeep, hretire] at hr
              cases hr
          | some retire =>
              simp only [hkeep, hretire] at hr
              obtain ⟨-, hr⟩ := require_bind_eq_ok hr
              obtain ⟨-, hr⟩ := require_bind_eq_ok hr
              obtain ⟨-, hr⟩ := require_bind_eq_ok hr
              obtain ⟨-, hr⟩ := require_bind_eq_ok hr
              cases hr
              rfl

theorem atomic_mergeRetireDevice (now : Time) (keepId retireId : String) :
    Atomic (mergeRetireDevice now keepId retireId) := by
  rw [mergeRetireDevice]
  split
  · intro h e h' hr
    cases hr
    rfl
  · split
    · intro h e h' hr
      cases hr
      rfl
    · exact atomic_scope _

/-- **The inversion of a step.**  An operation changes nothing, or did what it is for. -/
theorem step_cases (hash : String → String) (h : Hub) (op : Operation) :
    step hash h op = h ∨ Does hash h op (step hash h op) := by
  cases op with
  | mint ctx a =>
      refine ((atomic_scope _).exec_cases h).imp_right ?_
      rintro ⟨r, hr⟩
      obtain ⟨org, hm, -, hh⟩ := mintInSession_eq_ok (scope_eq_ok hr)
      rw [step, mintEnrollmentToken, hh]
      exact .mint hm
  | revoke sc id =>
      rw [step, revokeEnrollmentToken]
      cases ht : visibleToken h sc id with
      | none => exact .inl rfl
      | some t =>
          simp only
          split
          · exact .inl rfl
          · next hc => exact .inr (.revoke ht (Option.not_isSome_iff_eq_none.mp hc))
  | announce ctx a =>
      refine ((atomic_upsertAnnouncement hash ctx a).exec_cases h).imp_right ?_
      rintro ⟨r, hr⟩
      obtain ⟨row, hpoll, -⟩ := upsertAnnouncement_eq_ok hr
      exact .announce hpoll
  | adopt ctx id byUserId displayName mode target =>
      refine ((atomic_adopt hash ctx id byUserId displayName mode target).exec_cases h).imp_right ?_
      rintro ⟨row, hr⟩
      obtain ⟨t, ht, hadopt⟩ := adopt_eq_ok hr
      exact .adopt ht hadopt
  | reject ctx id byUserId =>
      rw [step, reject]
      cases hrow : visibleAnnouncement h ctx.scope id with
      | none => exact .inl rfl
      | some row => exact .inr (.reject hrow)
  | forceAdopt ctx id =>
      refine ((atomic_scope _).exec_cases h).imp_right ?_
      rintro ⟨row, hr⟩
      obtain ⟨row₀, hrow, hc, hh⟩ := forceAdoptReconcile_eq_ok hr
      rw [step, forceAdoptReconcile, hh]
      exact .forceAdopt hrow hc
  | register ctx token body =>
      refine ((atomic_consumeEnrollmentToken hash ctx token body).exec_cases h).imp_right ?_
      rintro ⟨r, hr⟩
      obtain ⟨p, g, hp, hredeem, hh⟩ := consumeEnrollmentToken_eq_ok hr
      obtain ⟨het, hunused, hvalid, hd, -⟩ := redeem_eq_ok hredeem
      rw [step, hh]
      exact .register hp het hunused hvalid hd
  | merge now keepId retireId =>
      refine ((atomic_mergeRetireDevice now keepId retireId).exec_cases h).imp_right ?_
      rintro ⟨u, hr⟩
      rw [step, mergeRetireDevice_eq_ok hr]
      exact .merge

end RebooterHub.Enrollment
