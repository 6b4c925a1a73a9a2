import RebooterHub.Enrollment.Announcements

/-!
# Enrollment — Registration

`consume_enrollment_token`: an enrolment token is exchanged for a device and its credential.

A token with a target device rebinds that device, any other creates one.  Everything is written in
one transaction (`redeem`); what follows the commit, the cross-link to the announcement of the
device's MAC and the commands a restored device is sent, does not raise.
-/

namespace RebooterHub.Enrollment
open RebooterHub.Transaction

/-! ### The request -/

/-- The fields of a registration, as texts. -/
structure Registration where
  displayName : Option String
  hardwareModel : Option String
  hardwareRevision : Option String
  firmwareVersion : Option String
  macAddress : Option String
  serialNumber : Option String
  localIp : Option String
  capabilities : Json
  qaFixture : Bool

/-- The checks of `consume_enrollment_token` on a request body. -/
def checkRegistration (body : List (String × Json)) : Except HubError Registration := do
  let field k := (body.lookup k).getD .null
  let displayName ← checkField "display_name" 120 (field "display_name")
  let hardwareModel ← checkField "hardware_model" 80 (field "hardware_model")
  let hardwareRevision ← checkField "hardware_revision" 40 (field "hardware_revision")
  let firmwareVersion ← checkField "firmware_version" 40 (field "firmware_version")
  let macAddress ← checkField "mac_address" 40 (field "mac_address")
  let serialNumber ← checkField "serial_number" 80 (field "serial_number")
  let localIp ← checkField "local_ip" 64 (field "local_ip")
  if (nonEmpty macAddress).all isMacText then
    return ⟨displayName, hardwareModel, hardwareRevision, firmwareVersion, macAddress,
      serialNumber, localIp, (field "capabilities").orEmpty, (field "qa_fixture").truthy⟩
  else throw (invalid "mac_address must contain only hex digits, ':', '-', '.', or spaces")

/-- `(mac or "").strip().upper()`. -/
def comparedMac (mac : Option String) : String := stripUpper (mac.getD "")

/-- `_QA_PREFIXES`. -/
def qaPrefixes : List String := ["qa ", "qa-", "qa_", "test-", "playwright"]

/-- `_looks_like_qa`. -/
def looksLikeQa (candidates : List (Option String)) : Bool :=
  candidates.any fun c => qaPrefixes.any fun start =>
    start.toList.isPrefixOf ((Text.strip (c.getD "").toList).map Char.toLower)

/-! ### The default site -/

/-- `resolve_default_org_id`. -/
def resolveDefaultOrgId (orgs : List Organization) : Option String :=
  match orgs.find? (·.slug = "default") with
  | some org => some org.id
  | none => match orgs with
    | [org] => some org.id
    | _ => none

/-- The site a device without one is given, if it need not be created. -/
def defaultSite (sites : List Site) : Option Site :=
  match sites.find? (·.name = "Default") with
  | some site => some site
  | none => match sites with
    | [site] => some site
    | _ => none

/-- `resolve_default_site_id`. -/
def resolveDefaultSiteId (ctx : Context) : Op String := do
  let h ← get
  match defaultSite h.sites with
  | some site => return site.id
  | none => match resolveDefaultOrgId h.orgs with
    | none => throw .runtime
    | some org => do
      require (h.site ctx.siteId = none) .integrity
      modify fun h => { h with sites := h.sites ++ [⟨ctx.siteId, "Default", org⟩] }
      return ctx.siteId

/-! ### The redemption -/

/-- The device a fresh registration creates. -/
def freshDevice (ctx : Context) (et : EnrollmentToken) (p : Registration) (siteId : String) :
    Device :=
  let resolvedName := ((nonEmpty p.displayName <|> nonEmpty et.displayNameHint).getD "")
  { id := ctx.deviceId
    displayName := resolvedName
    hardwareModel := p.hardwareModel
    hardwareRevision := p.hardwareRevision
    firmwareVersion := p.firmwareVersion
    macAddress := p.macAddress
    serialNumber := p.serialNumber
    localIp := p.localIp
    siteId := some siteId
    centralManagementEnabled := true
    registrationState := .active
    capabilities := p.capabilities
    lastHeartbeatAt := none
    lastSeenAt := none
    isQaFixture := p.qaFixture || looksLikeQa [some resolvedName, et.displayNameHint, et.note]
    updatedAt := ctx.now }

/-- The target of a restore, after it registered. -/
def restoredDevice (now : Time) (p : Registration) (d : Device) : Device :=
  { d with
    firmwareVersion := nonEmpty p.firmwareVersion <|> d.firmwareVersion
    hardwareRevision := nonEmpty p.hardwareRevision <|> d.hardwareRevision
    localIp := nonEmpty p.localIp <|> d.localIp
    macAddress :=
      if comparedMac p.macAddress ≠ "" ∧ comparedMac d.macAddress = "" then p.macAddress
      else d.macAddress
    registrationState := .active
    capabilities := if p.capabilities.truthy then p.capabilities else d.capabilities.orEmpty
    lastHeartbeatAt := none
    updatedAt := now }

/-- The credential of a device is stored; there is one for each device and for each hash. -/
def storeCredential (c : Credential) : Op Unit := do
  let h ← get
  require (∀ c' ∈ h.credentials, c'.deviceId ≠ c.deviceId ∧ c'.tokenHash ≠ c.tokenHash) .integrity
  modify fun h => { h with credentials := h.credentials ++ [c] }

/-- The branch of a token with a target device: the row after it. -/
def restore (hash : String → String) (ctx : Context) (p : Registration) (target : String) :
    Op Device := do
  let h ← get
  match (h.device target).filter Device.isLive with
  | none => throw (.refused "enrollment_invalid" "Restore target device no longer exists.")
  | some d => do
    require (¬(comparedMac p.macAddress ≠ "" ∧ comparedMac d.macAddress ≠ "" ∧
        comparedMac p.macAddress ≠ comparedMac d.macAddress))
      (.refused "device_mismatch" "MAC address does not match restore target.")
    modify fun h => h.updateDevice target (restoredDevice ctx.now p)
    modify fun h => { h with credentials := h.credentials.filter (·.deviceId ≠ target) }
    storeCredential ⟨target, hash ctx.bearerToken⟩
    return restoredDevice ctx.now p d

/-- An active device has this MAC. -/
def isRegistered (h : Hub) (mac : Option String) : Prop :=
  comparedMac mac ≠ "" ∧ ∃ d ∈ h.devices, d.registrationState = .active ∧
    comparedMac d.macAddress = comparedMac mac

instance (h : Hub) (mac : Option String) : Decidable (isRegistered h mac) := by
  unfold isRegistered
  infer_instance

/-- `et.site_id or resolve_default_site_id(session)`. -/
def chooseSite (ctx : Context) (et : EnrollmentToken) : Op String :=
  match nonEmpty et.siteId with
  | some s => pure s
  | none => resolveDefaultSiteId ctx

/-- The branch of a token without a target: the new row. -/
def createDevice (hash : String → String) (ctx : Context) (et : EnrollmentToken)
    (p : Registration) : Op Device := do
  let h ← get
  require (¬isRegistered h p.macAddress) (.refused "device_already_registered"
    ("An active device with this MAC address already exists. Use the Restore path "
      ++ "(pending-adoption -> 'Restore to this device') to rebind the existing device row "
      ++ "instead of creating a duplicate."))
  let siteId ← chooseSite ctx et
  let h ← get
  require (h.device ctx.deviceId = none ∧ (h.site siteId).isSome) .integrity
  modify fun h => { h with devices := h.devices ++ [freshDevice ctx et p siteId] }
  storeCredential ⟨ctx.deviceId, hash ctx.bearerToken⟩
  return freshDevice ctx et p siteId

/-- The device of a registration: the token's target, or a new one. -/
def registerDevice (hash : String → String) (ctx : Context) (et : EnrollmentToken)
    (p : Registration) : Op Device :=
  match nonEmpty et.targetDeviceId with
  | some target => restore hash ctx p target
  | none => createDevice hash ctx et p

/-- The token was exchanged for a device. -/
def spent (now : Time) (deviceId : String) (et : EnrollmentToken) : EnrollmentToken :=
  { et with consumedAt := some now, consumedByDeviceId := some deviceId }

/-- What a redemption returns: the device with its bearer token, and the token that was
exchanged. -/
structure Redeemed where
  device : Device
  rawSecret : String
  token : EnrollmentToken

/-- The transaction of `consume_enrollment_token`. -/
def redeem (hash : String → String) (ctx : Context) (token : String) (p : Registration) :
    Op Redeemed := do
  let h ← get
  match h.tokenWithHash (hash token) with
  | none => throw (.refused "enrollment_invalid" "Enrollment token is not recognized.")
  | some et => do
    require (et.consumedAt = none) (.refused "enrollment_consumed" "Enrollment token already used.")
    require (ctx.now < et.expiresAt) (.refused "enrollment_expired" "Enrollment token has expired.")
    let device ← registerDevice hash ctx et p
    modify fun h => h.updateToken et.id (spent ctx.now device.id)
    return ⟨device, ctx.bearerToken, et⟩

/-- `consume_enrollment_token`. -/
def consumeEnrollmentToken (hash : String → String) (ctx : Context) (token : String)
    (body : List (String × Json)) : Op Redeemed := do
  let p ← lift (checkRegistration body)
  let r ← scope (redeem hash ctx token p)
  modify (markConsumed ctx.now (r.device.macAddress.getD ""))
  return r

/-! ### What a registration does -/

/-- The site a device without one is given, and the sites after that. -/
inductive SiteChoice (ctx : Context) (et : EnrollmentToken) (h : Hub) : String → List Site → Prop
  | own {s : String} (hs : nonEmpty et.siteId = some s) : SiteChoice ctx et h s h.sites
  | default {site : Site} (hs : nonEmpty et.siteId = none)
      (hsite : defaultSite h.sites = some site) : SiteChoice ctx et h site.id h.sites
  | created {org : String} (hs : nonEmpty et.siteId = none) (hnone : defaultSite h.sites = none)
      (horg : resolveDefaultOrgId h.orgs = some org) (hnew : h.site ctx.siteId = none) :
      SiteChoice ctx et h ctx.siteId (h.sites ++ [⟨ctx.siteId, "Default", org⟩])

/-- A registration with token `et` leads from `h` to a device and the tables after it. -/
inductive Redeems (hash : String → String) (ctx : Context) (p : Registration)
    (et : EnrollmentToken) (h : Hub) : Device → Hub → Prop
  | restore {target : String} {d : Device} (ht : nonEmpty et.targetDeviceId = some target)
      (hd : h.device target = some d) (hlive : d.isLive = true)
      (hmac : ¬(comparedMac p.macAddress ≠ "" ∧ comparedMac d.macAddress ≠ "" ∧
        comparedMac p.macAddress ≠ comparedMac d.macAddress))
      (hcred : ∀ c ∈ h.credentials.filter (·.deviceId ≠ target),
        c.deviceId ≠ target ∧ c.tokenHash ≠ hash ctx.bearerToken) :
      Redeems hash ctx p et h (restoredDevice ctx.now p d)
        { h with
          devices := (h.updateDevice target (restoredDevice ctx.now p)).devices
          credentials := h.credentials.filter (·.deviceId ≠ target)
            ++ [⟨target, hash ctx.bearerToken⟩]
          tokens := (h.updateToken et.id (spent ctx.now d.id)).tokens }
  | fresh {siteId : String} {sites : List Site} (ht : nonEmpty et.targetDeviceId = none)
      (hmac : ¬isRegistered h p.macAddress) (hsite : SiteChoice ctx et h siteId sites)
      (hthere : (sites.find? (·.id = siteId)).isSome) (hnew : h.device ctx.deviceId = none)
      (hcred : ∀ c ∈ h.credentials,
        c.deviceId ≠ ctx.deviceId ∧ c.tokenHash ≠ hash ctx.bearerToken) :
      Redeems hash ctx p et h (freshDevice ctx et p siteId)
        { h with
          sites := sites
          devices := h.devices ++ [freshDevice ctx et p siteId]
          credentials := h.credentials ++ [⟨ctx.deviceId, hash ctx.bearerToken⟩]
          tokens := (h.updateToken et.id (spent ctx.now ctx.deviceId)).tokens }

section
variable {hash : String → String} {ctx : Context} {et : EnrollmentToken} {p : Registration}
  {h h' : Hub}

theorem Redeems.announcements {d : Device} (hd : Redeems hash ctx p et h d h') :
    h'.announcements = h.announcements := by
  cases hd <;> rfl

theorem Redeems.tokens {d : Device} (hd : Redeems hash ctx p et h d h') :
    h'.tokens = Rows.amend (·.id) et.id (spent ctx.now d.id) h.tokens := by
  cases hd <;> rfl

theorem storeCredential_eq_ok {c : Credential} {u : Unit}
    (hr : storeCredential c h = .ok u h') :
    (∀ c' ∈ h.credentials, c'.deviceId ≠ c.deviceId ∧ c'.tokenHash ≠ c.tokenHash) ∧
      h' = { h with credentials := h.credentials ++ [c] } := by
  rw [storeCredential, get_bind] at hr
  obtain ⟨hnew, hr⟩ := require_bind_eq_ok hr
  cases hr
  exact ⟨hnew, rfl⟩

theorem resolveDefaultSiteId_eq_ok {siteId : String} (hs : nonEmpty et.siteId = none)
    (hr : resolveDefaultSiteId ctx h = .ok siteId h') :
    ∃ sites, SiteChoice ctx et h siteId sites ∧ h' = { h with sites := sites } := by
  rw [resolveDefaultSiteId, get_bind] at hr
  cases hsite : defaultSite h.sites with
  | some site =>
      simp only [hsite] at hr
      cases hr
      exact ⟨h.sites, .default hs hsite, rfl⟩
  | none =>
      cases horg : resolveDefaultOrgId h.orgs with
      | none =>
          simp only [hsite, horg] at hr
          cases hr
      | some org =>
          simp only [hsite, horg] at hr
          obtain ⟨hnew, hr⟩ := require_bind_eq_ok hr
          cases hr
          exact ⟨_, .created hs hsite horg hnew, rfl⟩

theorem chooseSite_eq_ok {siteId : String} (hr : chooseSite ctx et h = .ok siteId h') :
    ∃ sites, SiteChoice ctx et h siteId sites ∧ h' = { h with sites := sites } := by
  rw [chooseSite] at hr
  cases hs : nonEmpty et.siteId with
  | some s =>
      simp only [hs] at hr
      cases hr
      exact ⟨h.sites, .own hs, rfl⟩
  | none =>
      simp only [hs] at hr
      exact resolveDefaultSiteId_eq_ok hs hr

theorem restore_eq_ok {target : String} {d' : Device} (ht : nonEmpty et.targetDeviceId = some target)
    (hr : restore hash ctx p target h = .ok d' h') :
    Redeems hash ctx p et h d' (h'.updateToken et.id (spent ctx.now d'.id)) := by
  rw [restore, get_bind] at hr
  cases hfound : (h.device target).filter Device.isLive with
  | none =>
      simp only [hfound] at hr
      cases hr
  | some d =>
      simp only [hfound] at hr
      obtain ⟨hd, hlive⟩ := Option.filter_eq_some_iff.mp hfound
      obtain ⟨hmac, hr⟩ := require_bind_eq_ok hr
      rw [modify_bind, modify_bind] at hr
      obtain ⟨u, g, hcred, hr⟩ := bind_eq_ok hr
      obtain ⟨hnew, rfl⟩ := storeCredential_eq_ok hcred
      cases hr
      exact .restore ht hd hlive hmac hnew

theorem createDevice_eq_ok {d : Device} (ht : nonEmpty et.targetDeviceId = none)
    (hr : createDevice hash ctx et p h = .ok d h') :
    Redeems hash ctx p et h d (h'.updateToken et.id (spent ctx.now d.id)) := by
  rw [createDevice, get_bind] at hr
  obtain ⟨hmac, hr⟩ := require_bind_eq_ok hr
  obtain ⟨siteId, g, hsite, hr⟩ := bind_eq_ok hr
  obtain ⟨sites, hchoice, rfl⟩ := chooseSite_eq_ok hsite
  rw [get_bind] at hr
  obtain ⟨⟨hnew, hthere⟩, hr⟩ := require_bind_eq_ok hr
  rw [modify_bind] at hr
  obtain ⟨u, g, hstore, hr⟩ := bind_eq_ok hr
  obtain ⟨hfree, rfl⟩ := storeCredential_eq_ok hstore
  cases hr
  exact .fresh ht hmac hchoice hthere hnew hfree

theorem registerDevice_eq_ok {d : Device} (hr : registerDevice hash ctx et p h = .ok d h') :
    Redeems hash ctx p et h d (h'.updateToken et.id (spent ctx.now d.id)) := by
  rw [registerDevice] at hr
  cases ht : nonEmpty et.targetDeviceId with
  | some target =>
      simp only [ht] at hr
      exact restore_eq_ok ht hr
  | none =>
      simp only [ht] at hr
      exact createDevice_eq_ok ht hr

/-- What a redemption that succeeds did. -/
theorem redeem_eq_ok {token : String} {r : Redeemed} (hr : redeem hash ctx token p h = .ok r h') :
    h.tokenWithHash (hash token) = some r.token ∧ r.token.consumedAt = none ∧
      ctx.now < r.token.expiresAt ∧ Redeems hash ctx p r.token h r.device h' ∧
      r.rawSecret = ctx.bearerToken := by
  rw [redeem, get_bind] at hr
  cases het : h.tokenWithHash (hash token) with
  | none =>
      simp only [het] at hr
      cases hr
  | some et =>
      simp only [het] at hr
      obtain ⟨hunused, hr⟩ := require_bind_eq_ok hr
      obtain ⟨hvalid, hr⟩ := require_bind_eq_ok hr
      obtain ⟨d, g, hd, hr⟩ := bind_eq_ok hr
      cases hr
      exact ⟨rfl, hunused, hvalid, registerDevice_eq_ok hd, rfl⟩

/-- What a registration that succeeds did. -/
theorem consumeEnrollmentToken_eq_ok {token : String} {body : List (String × Json)} {r : Redeemed}
    (hr : consumeEnrollmentToken hash ctx token body h = .ok r h') :
    ∃ p g, checkRegistration body = .ok p ∧ redeem hash ctx token p h = .ok r g ∧
      h' = markConsumed ctx.now (r.device.macAddress.getD "") g := by
  obtain ⟨p, hp, hr⟩ := lift_bind_eq_ok hr
  obtain ⟨r', g, hredeem, hr⟩ := bind_eq_ok hr
  cases hr
  exact ⟨p, g, hp, scope_eq_ok hredeem, rfl⟩

/-- A registration that raises leaves everything as it was. -/
theorem atomic_consumeEnrollmentToken (hash : String → String) (ctx : Context) (token : String)
    (body : List (String × Json)) : Atomic (consumeEnrollmentToken hash ctx token body) :=
  atomic_lift_bind fun _ => (atomic_scope _).bind fun r _ => ⟨r, _, rfl⟩

end

end RebooterHub.Enrollment
