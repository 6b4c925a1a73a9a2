import RebooterHub.Enrollment.Tokens

/-!
# Enrollment — Announcements

`services/announcements`: devices that announce themselves, and what the operator makes of them.

A device polls with its MAC until it is adopted, and registers with the token it is then given.
The stage of an announcement is in its timestamps and its cached secret; `answer` decodes them for
the device, `operatorState` for the operator.
-/

namespace RebooterHub.Enrollment
open RebooterHub.Transaction

/-! ### Arguments -/

/-- The arguments of `upsert_announcement`. -/
structure AnnounceArgs where
  macAddress : Json
  hardwareModel : Json
  hardwareRevision : Json
  firmwareVersion : Json
  localIp : Json
  serialNumber : Json
  displayNameHint : Json
  sourceIp : Option String
  userAgent : Option String

/-- The claims of a device, without the empty ones. -/
structure Claims where
  hardwareModel : Option String
  hardwareRevision : Option String
  firmwareVersion : Option String
  localIp : Option String
  serialNumber : Option String
  displayNameHint : Option String

/-- The MAC of a poll. -/
def announcedMac (mac : Json) : Except HubError String :=
  match (if mac.truthy then mac else .str "") with
  | .str s =>
    let raw := String.ofList (Text.strip s.toList)
    if raw = "" then .error (invalid "mac_address is required")
    else if 40 < raw.length then .error (invalid "mac_address must be 40 characters or fewer")
    else if !isMacText raw then
      .error (invalid "mac_address must contain only hex digits, ':', '-', '.', or spaces")
    else .ok raw
  | _ => .error (.python .attributeError)

/-- The claims of a poll. -/
def announcedClaims (a : AnnounceArgs) : Except HubError Claims := do
  let hardwareModel ← checkField "claimed_hardware_model" 80 a.hardwareModel
  let hardwareRevision ← checkField "claimed_hardware_revision" 40 a.hardwareRevision
  let firmwareVersion ← checkField "claimed_firmware_version" 40 a.firmwareVersion
  let localIp ← checkField "claimed_local_ip" 64 a.localIp
  let serialNumber ← checkField "claimed_serial_number" 80 a.serialNumber
  let displayNameHint ← checkField "claimed_display_name_hint" 120 a.displayNameHint
  return ⟨nonEmpty hardwareModel, nonEmpty hardwareRevision, nonEmpty firmwareVersion,
    nonEmpty localIp, nonEmpty serialNumber, nonEmpty displayNameHint⟩

/-- `user_agent[:200]`. -/
def cutUserAgent (agent : Option String) : Option String :=
  (nonEmpty agent).map fun s => String.ofList (s.toList.take 200)

/-! ### The row -/

/-- The row of a MAC that announces itself for the first time. -/
def newAnnouncement (ctx : Context) (mac : String) (c : Claims) (a : AnnounceArgs) :
    Announcement where
  id := ctx.announcementId
  organizationId := none
  macAddress := mac
  claimedHardwareModel := c.hardwareModel
  claimedHardwareRevision := c.hardwareRevision
  claimedFirmwareVersion := c.firmwareVersion
  claimedLocalIp := c.localIp
  claimedSerialNumber := c.serialNumber
  claimedDisplayNameHint := c.displayNameHint
  sourceIp := a.sourceIp
  userAgent := cutUserAgent a.userAgent
  firstSeenAt := ctx.now
  lastSeenAt := ctx.now
  announceCount := 1
  adoptedAt := none
  adoptedByUserId := none
  adoptionTokenSecret := none
  enrollmentTokenId := none
  deliveredAt := none
  consumedAt := none
  rejectedAt := none

/-- The row of a MAC that announces itself again. -/
def seenAgain (now : Time) (c : Claims) (a : AnnounceArgs) (row : Announcement) : Announcement :=
  { row with
    lastSeenAt := now
    announceCount := row.announceCount + 1
    sourceIp := a.sourceIp
    userAgent := cutUserAgent a.userAgent <|> row.userAgent
    claimedHardwareModel := c.hardwareModel <|> row.claimedHardwareModel
    claimedHardwareRevision := c.hardwareRevision <|> row.claimedHardwareRevision
    claimedFirmwareVersion := c.firmwareVersion <|> row.claimedFirmwareVersion
    claimedLocalIp := c.localIp <|> row.claimedLocalIp
    claimedSerialNumber := c.serialNumber <|> row.claimedSerialNumber
    claimedDisplayNameHint := c.displayNameHint <|> row.claimedDisplayNameHint }

/-- The row of a poll, created or refreshed. -/
def upsertRow (ctx : Context) (mac : String) (c : Claims) (a : AnnounceArgs) : Op Announcement := do
  let h ← get
  match h.announcements.find? (·.macAddress = mac) with
  | none => do
    require (h.announcement ctx.announcementId = none) .integrity
    modify fun h => { h with announcements := h.announcements ++ [newAnnouncement ctx mac c a] }
    return newAnnouncement ctx mac c a
  | some row => do
    modify fun h => h.updateAnnouncement row.id (seenAgain ctx.now c a)
    return seenAgain ctx.now c a row

/-- The first of some devices with this canonical MAC. -/
def deviceWithMac (devices : List Device) (p : Device → Bool) (mac : String) : Option Device :=
  devices.find? fun d => p d && normalizeMac (d.macAddress.getD "") = mac

/-- A poll is contact with the device of its MAC. -/
def stampLastSeen (now : Time) (mac : String) (h : Hub) : Hub :=
  match deviceWithMac h.devices Device.isLive mac with
  | none => h
  | some d => h.updateDevice d.id fun d => { d with lastSeenAt := some now }

/-! ### Self-healing -/

/-- The name of a device that nobody named. -/
def fallbackName (mac : String) : String :=
  "device-" ++ String.ofList ((mac.toList.drop (mac.length - 5)).filter (· ≠ ':'))

/-- `(ip or "").strip()`. -/
def strippedIp (ip : Option String) : String := String.ofList (Text.strip (ip.getD "").toList)

/-- The device `_maybe_prepare_auto_rebind` rebinds. -/
def rebindTarget (h : Hub) (row : Announcement) : Option Device :=
  if row.consumedAt.isNone || (nonEmpty row.adoptionTokenSecret).isSome then none
  else match deviceWithMac h.devices (fun d => d.isLive && d.centralManagementEnabled)
      (normalizeMac row.macAddress) with
    | none => none
    | some d =>
      let known := strippedIp d.localIp
      if known = "" ∨ (strippedIp row.claimedLocalIp ≠ known ∧ strippedIp row.sourceIp ≠ known)
      then none
      else some d

/-- The token of an automatic rebind. -/
def rebindArgs (row : Announcement) (d : Device) : MintArgs where
  issuedByUserId := none
  siteId := d.siteId
  displayNameHint := nonEmpty row.claimedDisplayNameHint <|> nonEmpty (some d.displayName) <|>
    some (fallbackName row.macAddress)
  note := some ("Auto-rebind after device-side token loss (announcement " ++ row.id ++ ", device "
    ++ d.id ++ ", MAC " ++ row.macAddress ++ ")")
  ttlSeconds := some 86400
  targetDeviceId := some d.id

/-- The row is adopted anew, with a token that is not delivered yet. -/
def rebound (now : Time) (tokenId secret : String) (row : Announcement) : Announcement :=
  { row with
    adoptedAt := some now
    adoptedByUserId := none
    adoptionTokenSecret := some secret
    enrollmentTokenId := some tokenId
    deliveredAt := none
    consumedAt := none }

/-- `_maybe_prepare_auto_rebind`. -/
def maybePrepareAutoRebind (hash : String → String) (ctx : Context) (row : Announcement) :
    Op Announcement := do
  let h ← get
  match rebindTarget h row with
  | none => return row
  | some d => do
    let minted ← mintInSession hash ctx (rebindArgs row d)
    modify fun h => h.updateAnnouncement row.id (rebound ctx.now minted.1.id minted.2)
    return rebound ctx.now minted.1.id minted.2 row

/-- The row lost its secret between delivery and registration. -/
def isStranded (row : Announcement) : Bool :=
  row.adoptedAt.isSome && row.rejectedAt.isNone && (nonEmpty row.adoptionTokenSecret).isNone &&
    row.consumedAt.isNone && row.deliveredAt.isSome

/-- The token in the place of a lost one. -/
def recoveryArgs (row : Announcement) (old : Option EnrollmentToken) : MintArgs where
  issuedByUserId := none
  siteId := old.bind (·.siteId)
  displayNameHint := nonEmpty (old.bind (·.displayNameHint)) <|>
    nonEmpty row.claimedDisplayNameHint <|> some (fallbackName row.macAddress)
  note := some ("Re-mint after stranded awaiting_register (announcement " ++ row.id ++ ", MAC "
    ++ row.macAddress ++ ")")
  ttlSeconds := some (86400 * 7)
  targetDeviceId := old.bind (·.targetDeviceId)

/-- The row has a secret to deliver again. -/
def rearmed (tokenId secret : String) (row : Announcement) : Announcement :=
  { row with
    adoptionTokenSecret := some secret
    enrollmentTokenId := some tokenId
    deliveredAt := none }

/-- The token a row refers to. -/
def heldToken (h : Hub) (row : Announcement) : Option EnrollmentToken :=
  row.enrollmentTokenId.bind h.token

/-- The token a row referred to is deleted, if there was one. -/
def Hub.dropToken (h : Hub) : Option EnrollmentToken → Hub
  | some t => h.deleteToken t.id
  | none => h

/-- `_maybe_recover_stranded_pickup`. -/
def maybeRecoverStrandedPickup (hash : String → String) (ctx : Context) (row : Announcement) :
    Op Announcement := do
  let h ← get
  if !isStranded row then return row
  else match (heldToken h row).bind (·.consumedAt) with
    | some at_ => do
      modify fun h => h.updateAnnouncement row.id fun row => { row with consumedAt := some at_ }
      return { row with consumedAt := some at_ }
    | none => do
      let minted ← mintInSession hash ctx (recoveryArgs row (heldToken h row))
      modify fun g => g.updateAnnouncement row.id (rearmed minted.1.id minted.2)
      modify fun g => g.dropToken (heldToken h row)
      return rearmed minted.1.id minted.2 row

/-! ### The answer -/

/-- The status a device is told, with the secret it may register with. -/
inductive DeviceStatus where
  | rejected
  | pending
  | adopted (enrollmentToken : String)
  | registered
  | awaitingRegister
deriving DecidableEq, Repr

/-- The answer to a poll. -/
structure AnnounceReply where
  status : DeviceStatus
  retryAfterSeconds : Int
  message : String
  centralRegisterUrl : Option String

/-- The status of a row, as the device is told. -/
def deviceStatus (row : Announcement) : DeviceStatus :=
  if row.rejectedAt.isSome then .rejected
  else if row.adoptedAt.isNone then .pending
  else match nonEmpty row.adoptionTokenSecret with
    | some secret => .adopted secret
    | none => if row.consumedAt.isSome then .registered else .awaitingRegister

/-- The answer that tells a status. -/
def answer (ctx : Context) (status : DeviceStatus) : AnnounceReply :=
  match status with
  | .rejected => ⟨status, 3600,
      "This device was rejected by the operator. Reset device or contact admin.", none⟩
  | .pending => ⟨status, ctx.announcePendingRetryAfterSeconds,
      "Awaiting operator adoption. Visit /app/pending-adoption.", none⟩
  | .adopted _ => ⟨status, 0, "Adopted. Use this token to register.",
      some (String.ofList (ctx.publicBaseUrl.toList.rdropWhile (· = '/'))
        ++ "/api/v1/device/register")⟩
  | .registered => ⟨status, 0,
      "Device already registered. Use device_token, not enrollment_token.", none⟩
  | .awaitingRegister => ⟨status, 60, "Token already delivered. Complete /register.", none⟩

/-- The row after its status was told. -/
def told (now : Time) (row : Announcement) : Announcement :=
  match deviceStatus row with
  | .adopted _ => { row with deliveredAt := row.deliveredAt <|> some now }
  | _ => row

/-- `upsert_announcement`, which runs without an organization: the row after the poll and the
answer to it. -/
def upsertAnnouncement (hash : String → String) (ctx : Context) (a : AnnounceArgs) :
    Op (Announcement × AnnounceReply) := do
  let raw ← lift (announcedMac a.macAddress)
  let claims ← lift (announcedClaims a)
  scope do
    let row ← upsertRow ctx (normalizeMac raw) claims a
    modify (stampLastSeen ctx.now (normalizeMac raw))
    let row ← maybePrepareAutoRebind hash ctx.unbound row
    let row ← maybeRecoverStrandedPickup hash ctx.unbound row
    modify fun h => h.updateAnnouncement row.id (told ctx.now)
    return (told ctx.now row, answer ctx (deviceStatus row))

/-! ### The operator -/

/-- What the operator is shown as the state of an announcement. -/
inductive OperatorState where
  | pending
  | rejected
  | registered
  | awaitingRegister
  | awaitingPickup
deriving DecidableEq, Repr

/-- The `state` of `serialize`. -/
def operatorState (row : Announcement) : OperatorState :=
  if row.rejectedAt.isSome then .rejected
  else if row.consumedAt.isSome then .registered
  else if row.deliveredAt.isSome then .awaitingRegister
  else if row.adoptedAt.isSome then .awaitingPickup
  else .pending

/-- The announcement with this id, when the request can see it. -/
def visibleAnnouncement (h : Hub) (sc : Scope) (id : String) : Option Announcement :=
  (h.announcement id).filter fun a => sc.sees a.organizationId

/-- A row that is written gets the organization of the request, if it has none. -/
def stamped (sc : Scope) (row : Announcement) : Announcement :=
  { row with organizationId := row.organizationId <|> sc.org }

/-- What a restore asks of its target. -/
def checkRestore (h : Hub) (row : Announcement) (target : String) : Except HubError Unit :=
  match h.device target with
  | none => .error (.refused "not_found" ("target device " ++ target ++ " not found"))
  | some d =>
    if !d.isLive then .error (invalid "target device is decommissioned; cannot restore")
    else
      let announced := stripUpper row.macAddress
      let stored := stripUpper (d.macAddress.getD "")
      if announced ≠ "" ∧ stored ≠ "" ∧ announced ≠ stored then
        .error (invalid "MAC mismatch between announcement and target device")
      else .ok ()

/-- The check of an adoption: a restore has a target. -/
def checkTarget (h : Hub) (row : Announcement) : Option String → Except HubError Unit
  | none => .ok ()
  | some d => checkRestore h row d

/-- The token of an adoption; `target` is the device a restore rebinds. -/
def adoptionArgs (row : Announcement) (byUserId displayName target : Option String) : MintArgs where
  issuedByUserId := byUserId
  siteId := none
  displayNameHint := nonEmpty displayName <|> nonEmpty row.claimedDisplayNameHint <|>
    some (fallbackName row.macAddress)
  note := some (match target with
    | none => "Adopted via /app/pending-adoption (announcement " ++ row.id ++ ", MAC "
        ++ row.macAddress ++ ")"
    | some d => "Restored to existing device " ++ d ++ " via /app/pending-adoption (announcement "
        ++ row.id ++ ", MAC " ++ row.macAddress ++ ")")
  ttlSeconds := some (86400 * 7)
  targetDeviceId := target

/-- The row an operator adopted. -/
def adopted (ctx : Context) (byUserId : Option String) (tokenId secret : String)
    (row : Announcement) : Announcement :=
  stamped ctx.scope { row with
    adoptedAt := some ctx.now
    adoptedByUserId := byUserId
    adoptionTokenSecret := some secret
    enrollmentTokenId := some tokenId }

/-- The device an adoption restores to. -/
def restoreTarget (mode : String) (target : Option String) : Except HubError (Option String) :=
  if mode = "fresh" then .ok none
  else if mode = "restore" then
    match nonEmpty target with
    | none => .error (invalid "restore mode requires target_device_id")
    | some d => .ok (some d)
  else .error (invalid ("unknown adopt mode: " ++ mode))

/-- `adopt`: the row after it. -/
def adopt (hash : String → String) (ctx : Context) (id : String)
    (byUserId displayName : Option String) (mode : String) (target : Option String) :
    Op Announcement := do
  let target ← lift (restoreTarget mode target)
  scope do
    let h ← get
    match visibleAnnouncement h ctx.scope id with
    | none => throw (.refused "not_found" "Announcement not found")
    | some row =>
      if row.rejectedAt.isSome then
        throw (.refused "rejected" "Announcement was rejected; cannot adopt")
      else if row.adoptedAt.isSome then return row
      else do
        lift (checkTarget h row target)
        let minted ← mintEnrollmentToken hash ctx (adoptionArgs row byUserId displayName target)
        modify fun h => h.updateAnnouncement id (adopted ctx byUserId minted.1.id minted.2)
        return adopted ctx byUserId minted.1.id minted.2 row

/-- `adopted_by_user_id` after a rejection: the column serves both. -/
def rejector (byUserId : Option String) (row : Announcement) : Option String :=
  if (nonEmpty byUserId).isSome && row.adoptedByUserId.isNone then byUserId
  else row.adoptedByUserId

/-- The row an operator rejected. -/
def rejected (ctx : Context) (byUserId : Option String) (row : Announcement) : Announcement :=
  if row.rejectedAt.isSome && rejector byUserId row = row.adoptedByUserId then row
  else stamped ctx.scope { row with
    rejectedAt := row.rejectedAt <|> some ctx.now
    adoptedByUserId := rejector byUserId row }

/-- `reject`. -/
def reject (ctx : Context) (id : String) (byUserId : Option String) (h : Hub) : Hub :=
  match visibleAnnouncement h ctx.scope id with
  | none => h
  | some _ => h.updateAnnouncement id (rejected ctx byUserId)

/-- The announcement a registered MAC belongs to. -/
def announcementOfMac (h : Hub) (mac : String) : Option Announcement :=
  h.announcements.find? (·.macAddress = mac) <|>
    h.announcements.find? (normalizeMac ·.macAddress = mac)

/-- The row of a device that registered: the secret is cleared. -/
def consumed (now : Time) (row : Announcement) : Announcement :=
  { row with consumedAt := some now, adoptionTokenSecret := none }

/-- `mark_consumed`. -/
def markConsumed (now : Time) (mac : String) (h : Hub) : Hub :=
  if normalizeMac mac = "" then h
  else match announcementOfMac h (normalizeMac mac) with
    | none => h
    | some row => if row.consumedAt.isSome then h else h.updateAnnouncement row.id (consumed now)

/-- `force_adopt_reconcile`: the row after it. -/
def forceAdoptReconcile (ctx : Context) (id : String) : Op Announcement := scope do
  let h ← get
  match visibleAnnouncement h ctx.scope id with
  | none => throw (.refused "not_found" "Announcement not found")
  | some row =>
    if row.consumedAt.isSome then throw (.refused "already_consumed"
      "Announcement is already reconciled (consumed_at set).")
    else
      let target := normalizeMac row.macAddress
      let isActive := fun d : Device => decide (d.registrationState = .active)
      if target = "" ∨ deviceWithMac h.devices isActive target = none then
        throw (.refused "no_active_device" ("No active device with this MAC — force-adopt only "
          ++ "reconciles rows whose device has already registered. Use Adopt or Reject instead."))
      else do
        modify fun h => h.updateAnnouncement id fun row => stamped ctx.scope (consumed ctx.now row)
        return stamped ctx.scope (consumed ctx.now row)

/-! ### What the services do -/

section
variable {hash : String → String} {ctx : Context} {h h' : Hub}

theorem stampLastSeen_cases (now : Time) (mac : String) (h : Hub) :
    stampLastSeen now mac h = h ∨ ∃ id, stampLastSeen now mac h =
      h.updateDevice id fun d => { d with lastSeenAt := some now } := by
  rw [stampLastSeen]
  cases deviceWithMac h.devices Device.isLive mac with
  | none => exact .inl rfl
  | some d => exact .inr ⟨d.id, rfl⟩

theorem markConsumed_cases (now : Time) (mac : String) (h : Hub) :
    markConsumed now mac h = h ∨ ∃ row, announcementOfMac h (normalizeMac mac) = some row ∧
      row.consumedAt = none ∧ markConsumed now mac h = h.updateAnnouncement row.id (consumed now) := by
  rw [markConsumed]
  split
  · exact .inl rfl
  · cases hrow : announcementOfMac h (normalizeMac mac) with
    | none => exact .inl rfl
    | some row =>
        simp only
        split
        · exact .inl rfl
        · next hc => exact .inr ⟨row, rfl, Option.not_isSome_iff_eq_none.mp hc, rfl⟩

/-- A poll stamps devices only. -/
theorem stampLastSeen_tables (now : Time) (mac : String) (h : Hub) :
    ∃ devices, stampLastSeen now mac h = { h with devices := devices } := by
  rcases stampLastSeen_cases now mac h with heq | ⟨id, heq⟩
  · exact ⟨h.devices, heq⟩
  · exact ⟨_, heq⟩

@[simp] theorem stampLastSeen_announcements (now : Time) (mac : String) (h : Hub) :
    (stampLastSeen now mac h).announcements = h.announcements := by
  obtain ⟨devices, heq⟩ := stampLastSeen_tables now mac h
  rw [heq]

@[simp] theorem stampLastSeen_tokens (now : Time) (mac : String) (h : Hub) :
    (stampLastSeen now mac h).tokens = h.tokens := by
  obtain ⟨devices, heq⟩ := stampLastSeen_tables now mac h
  rw [heq]

/-- A registration consumes announcements only. -/
theorem markConsumed_tables (now : Time) (mac : String) (h : Hub) :
    ∃ rows, markConsumed now mac h = { h with announcements := rows } := by
  rcases markConsumed_cases now mac h with heq | ⟨row, -, -, heq⟩
  · exact ⟨h.announcements, heq⟩
  · exact ⟨_, heq⟩

@[simp] theorem markConsumed_tokens (now : Time) (mac : String) (h : Hub) :
    (markConsumed now mac h).tokens = h.tokens := by
  obtain ⟨rows, heq⟩ := markConsumed_tables now mac h
  rw [heq]

/-- A rejection writes when it was made and by whom, and the organization. -/
theorem rejected_eq (ctx : Context) (byUserId : Option String) (row : Announcement) :
    ∃ org by_, rejected ctx byUserId row = { row with
      organizationId := org
      adoptedByUserId := by_
      rejectedAt := row.rejectedAt <|> some ctx.now } := by
  rw [rejected]
  split
  · next hsame =>
      obtain ⟨at_, hat⟩ := Option.isSome_iff_exists.mp (Bool.and_eq_true_iff.mp hsame).1
      refine ⟨row.organizationId, row.adoptedByUserId, ?_⟩
      rw [show (row.rejectedAt <|> some ctx.now) = row.rejectedAt by rw [hat]; rfl]
  · exact ⟨_, _, rfl⟩

/-- Telling a status writes when the secret was delivered. -/
theorem told_eq (now : Time) (row : Announcement) :
    ∃ at_, told now row = { row with deliveredAt := at_ } := by
  rw [told]
  split
  · exact ⟨_, rfl⟩
  · exact ⟨row.deliveredAt, rfl⟩

theorem answer_status (ctx : Context) (status : DeviceStatus) :
    (answer ctx status).status = status := by
  cases status <;> rfl

/-- A poll leads from `h` to its row and the tables with the row in them. -/
inductive Upserts (ctx : Context) (mac : String) (c : Claims) (a : AnnounceArgs) (h : Hub) :
    Announcement → Hub → Prop
  | created (hnone : h.announcements.find? (·.macAddress = mac) = none)
      (hnew : h.announcement ctx.announcementId = none) :
      Upserts ctx mac c a h (newAnnouncement ctx mac c a)
        { h with announcements := h.announcements ++ [newAnnouncement ctx mac c a] }
  | refreshed {row : Announcement} (hrow : h.announcements.find? (·.macAddress = mac) = some row) :
      Upserts ctx mac c a h (seenAgain ctx.now c a row)
        (h.updateAnnouncement row.id (seenAgain ctx.now c a))

theorem Upserts.tokens {mac : String} {c : Claims} {a : AnnounceArgs} {row : Announcement}
    (hrow : Upserts ctx mac c a h row h') : h'.tokens = h.tokens := by
  cases hrow <;> rfl

/-- A poll keeps what holds of the announcements, of a new one and of one that is seen again. -/
theorem Upserts.forall {P : Announcement → Prop} {mac : String} {c : Claims} {a : AnnounceArgs}
    {row : Announcement} (hrow : Upserts ctx mac c a h row h') (hp : ∀ row ∈ h.announcements, P row)
    (hnew : P (newAnnouncement ctx mac c a)) (hseen : ∀ row, P row → P (seenAgain ctx.now c a row)) :
    ∀ row ∈ h'.announcements, P row := by
  cases hrow with
  | created =>
      intro row hrow
      rcases List.mem_append.mp hrow with hrow | hrow
      · exact hp row hrow
      · rw [List.mem_singleton.mp hrow]
        exact hnew
  | refreshed => exact Rows.forall_amend hp fun row hrow _ => hseen row (hp row hrow)

theorem upsertRow_eq_ok {mac : String} {c : Claims} {a : AnnounceArgs} {row : Announcement}
    (hr : upsertRow ctx mac c a h = .ok row h') : Upserts ctx mac c a h row h' := by
  rw [upsertRow, get_bind] at hr
  cases hrow : h.announcements.find? (·.macAddress = mac) with
  | none =>
      simp only [hrow] at hr
      obtain ⟨hnew, hr⟩ := require_bind_eq_ok hr
      cases hr
      exact .created hrow hnew
  | some row =>
      simp only [hrow] at hr
      cases hr
      exact .refreshed hrow

/-- The automatic rebind leaves a row alone or rebinds its device. -/
inductive Rebinds (hash : String → String) (ctx : Context) (row : Announcement) (h : Hub) :
    Announcement → Hub → Prop
  | kept (hnone : rebindTarget h row = none) : Rebinds hash ctx row h row h
  | rebound {d : Device} {org : String} (hd : rebindTarget h row = some d)
      (hm : Mintable hash ctx (rebindArgs row d) h org) :
      Rebinds hash ctx row h (rebound ctx.now ctx.tokenId ctx.enrollmentSecret row)
        (Hub.updateAnnouncement
          { h with tokens := h.tokens ++ [newToken hash ctx org (rebindArgs row d)] }
          row.id (rebound ctx.now ctx.tokenId ctx.enrollmentSecret))

theorem maybePrepareAutoRebind_eq_ok {row row' : Announcement}
    (hr : maybePrepareAutoRebind hash ctx row h = .ok row' h') : Rebinds hash ctx row h row' h' := by
  rw [maybePrepareAutoRebind, get_bind] at hr
  cases hd : rebindTarget h row with
  | none =>
      simp only [hd] at hr
      cases hr
      exact .kept hd
  | some d =>
      simp only [hd] at hr
      obtain ⟨minted, g, hmint, hr⟩ := bind_eq_ok hr
      obtain ⟨org, hm, rfl, rfl⟩ := mintInSession_eq_ok hmint
      cases hr
      exact .rebound hd hm

/-- The recovery leaves a row alone, marks it consumed or arms it anew. -/
inductive Recovers (hash : String → String) (ctx : Context) (row : Announcement) (h : Hub) :
    Announcement → Hub → Prop
  | kept (hnot : isStranded row = false) : Recovers hash ctx row h row h
  | reconciled {at_ : Time} (hs : isStranded row = true)
      (hat : (heldToken h row).bind (·.consumedAt) = some at_) :
      Recovers hash ctx row h { row with consumedAt := some at_ }
        (h.updateAnnouncement row.id fun row => { row with consumedAt := some at_ })
  | rearmed {org : String} (hs : isStranded row = true)
      (hunused : (heldToken h row).bind (·.consumedAt) = none)
      (hm : Mintable hash ctx (recoveryArgs row (heldToken h row)) h org) :
      Recovers hash ctx row h (rearmed ctx.tokenId ctx.enrollmentSecret row)
        (Hub.dropToken (Hub.updateAnnouncement
          { h with
            tokens := h.tokens ++ [newToken hash ctx org (recoveryArgs row (heldToken h row))] }
          row.id (rearmed ctx.tokenId ctx.enrollmentSecret)) (heldToken h row))

theorem maybeRecoverStrandedPickup_eq_ok {row row' : Announcement}
    (hr : maybeRecoverStrandedPickup hash ctx row h = .ok row' h') :
    Recovers hash ctx row h row' h' := by
  rw [maybeRecoverStrandedPickup, get_bind] at hr
  cases hs : isStranded row with
  | false =>
      simp only [hs] at hr
      cases hr
      exact .kept hs
  | true =>
      cases hat : (heldToken h row).bind (·.consumedAt) with
      | some at_ =>
          simp only [hs, hat] at hr
          cases hr
          exact .reconciled hs hat
      | none =>
          simp only [hs, hat] at hr
          obtain ⟨minted, g, hmint, hr⟩ := bind_eq_ok hr
          obtain ⟨org, hm, rfl, rfl⟩ := mintInSession_eq_ok hmint
          cases hr
          exact .rearmed hs hat hm

/-- A poll leads from `h` to a row, before its status is told, and the tables after it is told. -/
inductive Polls (hash : String → String) (ctx : Context) (a : AnnounceArgs) (h : Hub) :
    Announcement → Hub → Prop
  | poll {raw : String} {c : Claims} {row row₁ row₂ : Announcement} {g g₁ g₂ : Hub}
      (hraw : announcedMac a.macAddress = .ok raw) (hc : announcedClaims a = .ok c)
      (hrow : Upserts ctx (normalizeMac raw) c a h row g)
      (hre : Rebinds hash ctx.unbound row (stampLastSeen ctx.now (normalizeMac raw) g) row₁ g₁)
      (hrec : Recovers hash ctx.unbound row₁ g₁ row₂ g₂) :
      Polls hash ctx a h row₂ (g₂.updateAnnouncement row₂.id (told ctx.now))

theorem upsertAnnouncement_eq_ok {a : AnnounceArgs} {r : Announcement × AnnounceReply}
    (hr : upsertAnnouncement hash ctx a h = .ok r h') :
    ∃ row, Polls hash ctx a h row h' ∧ r = (told ctx.now row, answer ctx (deviceStatus row)) := by
  obtain ⟨raw, hraw, hr⟩ := lift_bind_eq_ok hr
  obtain ⟨c, hc, hr⟩ := lift_bind_eq_ok hr
  obtain ⟨row, g, hrow, hr⟩ := bind_eq_ok (scope_eq_ok hr)
  rw [modify_bind] at hr
  obtain ⟨row₁, g₁, hre, hr⟩ := bind_eq_ok hr
  obtain ⟨row₂, g₂, hrec, hr⟩ := bind_eq_ok hr
  cases hr
  exact ⟨row₂, .poll hraw hc (upsertRow_eq_ok hrow) (maybePrepareAutoRebind_eq_ok hre)
    (maybeRecoverStrandedPickup_eq_ok hrec), rfl⟩

theorem atomic_upsertAnnouncement (hash : String → String) (ctx : Context) (a : AnnounceArgs) :
    Atomic (upsertAnnouncement hash ctx a) :=
  atomic_lift_bind fun _ => atomic_lift_bind fun _ => atomic_scope _

/-- An adoption of row `id` leaves an adopted row alone or adopts the row. -/
inductive Adopts (hash : String → String) (ctx : Context) (id : String)
    (byUserId displayName target : Option String) (h : Hub) : Announcement → Hub → Prop
  | already {row : Announcement} (hrow : visibleAnnouncement h ctx.scope id = some row)
      (hrej : row.rejectedAt = none) (had : row.adoptedAt.isSome) :
      Adopts hash ctx id byUserId displayName target h row h
  | adopted {row : Announcement} {org : String}
      (hrow : visibleAnnouncement h ctx.scope id = some row) (hrej : row.rejectedAt = none)
      (had : row.adoptedAt = none) (htarget : checkTarget h row target = .ok ())
      (hm : Mintable hash ctx (adoptionArgs row byUserId displayName target) h org) :
      Adopts hash ctx id byUserId displayName target h
        (adopted ctx byUserId ctx.tokenId ctx.enrollmentSecret row)
        (Hub.updateAnnouncement
          { h with tokens := h.tokens ++
              [newToken hash ctx org (adoptionArgs row byUserId displayName target)] }
          id (adopted ctx byUserId ctx.tokenId ctx.enrollmentSecret))

theorem adopt_eq_ok {id mode : String} {byUserId displayName target : Option String}
    {row : Announcement}
    (hr : adopt hash ctx id byUserId displayName mode target h = .ok row h') :
    ∃ t, restoreTarget mode target = .ok t ∧ Adopts hash ctx id byUserId displayName t h row h' := by
  obtain ⟨t, ht, hr⟩ := lift_bind_eq_ok hr
  refine ⟨t, ht, ?_⟩
  replace hr := scope_eq_ok hr
  rw [get_bind] at hr
  cases hrow : visibleAnnouncement h ctx.scope id with
  | none =>
      simp only [hrow] at hr
      cases hr
  | some row₀ =>
      simp only [hrow] at hr
      split at hr
      · cases hr
      · next hrej =>
          split at hr
          · next had =>
              cases hr
              exact .already hrow (Option.not_isSome_iff_eq_none.mp hrej) had
          · next had =>
              obtain ⟨u, htarget, hr⟩ := lift_bind_eq_ok hr
              obtain ⟨minted, g, hmint, hr⟩ := bind_eq_ok hr
              obtain ⟨org, hm, rfl, rfl⟩ := mintInSession_eq_ok (scope_eq_ok hmint)
              cases hr
              exact .adopted hrow (Option.not_isSome_iff_eq_none.mp hrej)
                (Option.not_isSome_iff_eq_none.mp had) htarget hm

theorem atomic_adopt (hash : String → String) (ctx : Context) (id : String)
    (byUserId displayName : Option String) (mode : String) (target : Option String) :
    Atomic (adopt hash ctx id byUserId displayName mode target) :=
  atomic_lift_bind fun _ => atomic_scope _

/-- What a reconciliation that succeeds did. -/
theorem forceAdoptReconcile_eq_ok {id : String} {row : Announcement}
    (hr : forceAdoptReconcile ctx id h = .ok row h') :
    ∃ row₀, visibleAnnouncement h ctx.scope id = some row₀ ∧ row₀.consumedAt = none ∧
      h' = h.updateAnnouncement id fun row => stamped ctx.scope (consumed ctx.now row) := by
  replace hr := scope_eq_ok hr
  rw [get_bind] at hr
  cases hrow : visibleAnnouncement h ctx.scope id with
  | none =>
      simp only [hrow] at hr
      cases hr
  | some row₀ =>
      simp only [hrow] at hr
      split at hr
      · cases hr
      · next hc =>
          split at hr
          · cases hr
          · cases hr
            exact ⟨row₀, rfl, Option.not_isSome_iff_eq_none.mp hc, rfl⟩

end

end RebooterHub.Enrollment
