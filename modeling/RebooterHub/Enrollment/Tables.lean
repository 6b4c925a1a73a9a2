import RebooterHub.Data.Time
import RebooterHub.Enrollment.Mac
import RebooterHub.Support.Rows
import RebooterHub.Support.Transaction

/-!
# Enrollment — Tables

The rows enrolment works on, the scope a request runs in, and what the services share: the
exceptions, the check of a text field and the constraints of the database.

A hub is a state of the tables; an operation is an `EStateM` computation on it.  Ids, secrets and
the clock are given to an operation (`Context`); a new id or hash that is already there violates
its constraint.
-/

namespace RebooterHub.Enrollment
open RebooterHub.Transaction

/-! ### Rows -/

/-- A row of `organizations`. -/
structure Organization where
  id : String
  slug : String
deriving DecidableEq, Repr

/-- A row of `sites`. -/
structure Site where
  id : String
  name : String
  organizationId : String
deriving DecidableEq, Repr

/-- `REGISTRATION_STATES`. -/
inductive RegistrationState where
  | pending
  | active
  | disabled
  | revoked
  | decommissioned
deriving DecidableEq, Repr

/-- The columns of a device that enrolment reads or writes. -/
structure Device where
  id : String
  displayName : String
  hardwareModel : Option String
  hardwareRevision : Option String
  firmwareVersion : Option String
  macAddress : Option String
  serialNumber : Option String
  localIp : Option String
  siteId : Option String
  centralManagementEnabled : Bool
  registrationState : RegistrationState
  capabilities : Json
  lastHeartbeatAt : Option Time
  lastSeenAt : Option Time
  isQaFixture : Bool
  updatedAt : Time
deriving DecidableEq, Repr

/-- The device is not decommissioned. -/
def Device.isLive (d : Device) : Bool := d.registrationState ≠ .decommissioned

/-- A row of `device_credentials`. -/
structure Credential where
  deviceId : String
  tokenHash : String
deriving DecidableEq, Repr

/-- A row of `enrollment_tokens`. -/
structure EnrollmentToken where
  id : String
  organizationId : String
  tokenHash : String
  issuedByUserId : Option String
  siteId : Option String
  displayNameHint : Option String
  note : Option String
  consumedAt : Option Time
  consumedByDeviceId : Option String
  expiresAt : Time
  targetDeviceId : Option String
deriving DecidableEq, Repr

/-- A row of `device_announcements`. -/
structure Announcement where
  id : String
  organizationId : Option String
  macAddress : String
  claimedHardwareModel : Option String
  claimedHardwareRevision : Option String
  claimedFirmwareVersion : Option String
  claimedLocalIp : Option String
  claimedSerialNumber : Option String
  claimedDisplayNameHint : Option String
  sourceIp : Option String
  userAgent : Option String
  firstSeenAt : Time
  lastSeenAt : Time
  announceCount : Nat
  adoptedAt : Option Time
  adoptedByUserId : Option String
  adoptionTokenSecret : Option String
  enrollmentTokenId : Option String
  deliveredAt : Option Time
  consumedAt : Option Time
  rejectedAt : Option Time
deriving DecidableEq, Repr

/-- The tables. -/
structure Hub where
  orgs : List Organization
  sites : List Site
  devices : List Device
  credentials : List Credential
  tokens : List EnrollmentToken
  announcements : List Announcement

namespace Hub

/-- `session.get(Site, id)`. -/
def site (h : Hub) (id : String) : Option Site := h.sites.find? (·.id = id)

/-- `session.get(Device, id)`. -/
def device (h : Hub) (id : String) : Option Device := h.devices.find? (·.id = id)

/-- `session.get(EnrollmentToken, id)`. -/
def token (h : Hub) (id : String) : Option EnrollmentToken := h.tokens.find? (·.id = id)

/-- `session.get(DeviceAnnouncement, id)`. -/
def announcement (h : Hub) (id : String) : Option Announcement :=
  h.announcements.find? (·.id = id)

/-- The token with this hash. -/
def tokenWithHash (h : Hub) (hash : String) : Option EnrollmentToken :=
  h.tokens.find? (·.tokenHash = hash)

/-- The device with this id, changed. -/
def updateDevice (h : Hub) (id : String) (g : Device → Device) : Hub :=
  { h with devices := Rows.amend (·.id) id g h.devices }

/-- The token with this id, changed. -/
def updateToken (h : Hub) (id : String) (g : EnrollmentToken → EnrollmentToken) : Hub :=
  { h with tokens := Rows.amend (·.id) id g h.tokens }

/-- The announcement with this id, changed. -/
def updateAnnouncement (h : Hub) (id : String) (g : Announcement → Announcement) : Hub :=
  { h with announcements := Rows.amend (·.id) id g h.announcements }

end Hub

/-! ### Requests -/

/-- The tenant scope of a request: the organization bound to it and whether the isolation is
enforced.  The endpoints of the devices run without an organization. -/
structure Scope where
  org : Option String
  enforcing : Bool

/-- A row of this organization is not filtered out. -/
def Scope.sees (sc : Scope) (org : Option String) : Bool :=
  !sc.enforcing || sc.org.isNone || org = sc.org

/-- What an operation is given besides its arguments: the clock, the scope, the settings it reads,
and the ids and secrets it draws. -/
structure Context where
  now : Time
  scope : Scope
  enrollmentTokenTtlSeconds : Int
  announcePendingRetryAfterSeconds : Int
  publicBaseUrl : String
  tokenId : String
  secret : String
  deviceId : String
  deviceToken : String
  siteId : String
  announcementId : String

/-- The secret of a token it mints. -/
def Context.enrollmentSecret (ctx : Context) : String := "et_" ++ ctx.secret

/-- The bearer token of a device it registers. -/
def Context.bearerToken (ctx : Context) : String := "dt_" ++ ctx.deviceToken

/-- The same request outside of every organization. -/
def Context.unbound (ctx : Context) : Context :=
  { ctx with scope := { ctx.scope with org := none } }

/-- The exceptions. -/
inductive HubError where
  /-- `EnrollmentError` and `AnnouncementError`. -/
  | refused (code message : String)
  /-- `MergeRetireError`. -/
  | mergeRefused (code message : String)
  /-- `IntegrityError` of the database. -/
  | integrity
  /-- `DataError` of the database: a text too long for its column. -/
  | data
  /-- `RuntimeError`. -/
  | runtime
  /-- Another exception of the interpreter. -/
  | python (e : PyError)
deriving DecidableEq, Repr

/-- A computation on the tables. -/
abbrev Op (α : Type) := EStateM HubError Hub α

/-- `validation_failed`. -/
def invalid (message : String) : HubError := .refused "validation_failed" message

/-- `x or None` of a text. -/
def nonEmpty (s : Option String) : Option String := s.filter (· ≠ "")

/-- The check of a text field: its type and its length. -/
def checkField (field : String) (max : Nat) (v : Json) : Except HubError (Option String) :=
  match v with
  | .null => .ok none
  | .str s =>
    if max < s.length then .error (invalid (field ++ " must be " ++ toString max
      ++ " characters or fewer"))
    else .ok (some s)
  | _ => .error (invalid (field ++ " must be a string"))

/-- What is raised outside of the database. -/
def lift {α : Type} : Except HubError α → Op α
  | .ok a => pure a
  | .error e => throw e

theorem lift_ok_bind {α β : Type} (a : α) (f : α → Op β) : (lift (.ok a) >>= f) = f a := rfl

theorem lift_bind_eq_ok {α β : Type} {x : Except HubError α} {f : α → Op β} {h h' : Hub} {b : β}
    (hx : (lift x >>= f) h = .ok b h') : ∃ a, x = .ok a ∧ f a h = .ok b h' := by
  cases x with
  | ok a => exact ⟨a, rfl, hx⟩
  | error e => cases hx

theorem atomic_lift_bind {α β : Type} {x : Except HubError α} {f : α → Op β}
    (hf : ∀ a, Atomic (f a)) : Atomic (lift x >>= f) := by
  cases x with
  | ok a => exact hf a
  | error e =>
      intro h e' h' hx
      cases hx
      rfl

end RebooterHub.Enrollment
