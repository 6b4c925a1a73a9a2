import RebooterHub.Data.Json
import RebooterHub.Data.Time

/-!
# Sync — Columns

The four syncable models (`_SYNCABLE_MODELS`): their columns, and the values a column holds.

A datetime travels between hubs as its ISO text (`entity_to_dict`); a payload keeps that text as
the instant it denotes, so `Value` has datetimes of its own beside JSON.  A text that reached a
payload any other way is still a text, and `coerceDatetime` parses it.
-/

namespace RebooterHub.Sync

/-- What a column holds, or a payload has under its name. -/
inductive Value where
  | datetime (t : Time)
  | json (j : Json)
deriving DecidableEq, Repr

namespace Value

/-- `NULL`, Python's `None`. -/
@[match_pattern] abbrev null : Value := .json .null

/-- A text. -/
@[match_pattern] abbrev text (s : String) : Value := .json (.str s)

/-- A truth value. -/
@[match_pattern] abbrev bool (b : Bool) : Value := .json (.bool b)

/-- `bool(value)`; every datetime is true. -/
def truthy : Value → Bool
  | .datetime _ => true
  | .json j => j.truthy

/-- `_coerce_datetime`: a text is parsed, `None` when it cannot be; anything else passes. -/
def coerceDatetime : Value → Value
  | .text s => match fromisoformat s with
    | some t => .datetime t
    | none => .null
  | v => v

/-- `_as_utc`: reading the `tzinfo` of anything but a datetime raises. -/
def asUtc : Value → Except PyError (Option Time)
  | .null => .ok none
  | .datetime t => .ok (some t)
  | _ => .error .attributeError

end Value

/-- The syncable models. -/
inductive Model where
  | device
  | site
  | group
  | user
deriving DecidableEq, Repr

/-- The columns of the syncable models. -/
inductive Column where
  | id | organizationId | siteId | name | description | createdAt | updatedAt
  | displayName | hardwareModel | hardwareRevision | firmwareVersion | macAddress
  | serialNumber | localIp | notes | centralManagementEnabled | registrationState
  | capabilities | lastHeartbeatAt | lastSeenAt | isQaFixture | isProtected | isHeldOff
  | powerSourceDeviceId | lastKnownRelayOn | desiredConfig | desiredMode | lastReportedConfig
  | desiredConfigUpdatedAt | lastConfigPushedAt | reportedRecoveryMode
  | reportedAutoRecoveryTriggered | reportedLastKnownGoodRestored
  | reportedConsecutiveUnhealthyBoots | reportedInCaptivePortal | reportedCentralEnabled
  | reportedCentralRegistered | reportedCentralState | lastWifiScan | lastWifiScanAt
  | email | passwordHash | isActive | isAdmin | isSuperAdmin | role | tokensValidAfter
  | lastLoginAt
deriving DecidableEq, Repr

/-- All of them. -/
def Column.all : List Column :=
  [.id, .organizationId, .siteId, .name, .description, .createdAt, .updatedAt, .displayName,
    .hardwareModel, .hardwareRevision, .firmwareVersion, .macAddress, .serialNumber, .localIp,
    .notes, .centralManagementEnabled, .registrationState, .capabilities, .lastHeartbeatAt,
    .lastSeenAt, .isQaFixture, .isProtected, .isHeldOff, .powerSourceDeviceId, .lastKnownRelayOn,
    .desiredConfig, .desiredMode, .lastReportedConfig, .desiredConfigUpdatedAt,
    .lastConfigPushedAt, .reportedRecoveryMode, .reportedAutoRecoveryTriggered,
    .reportedLastKnownGoodRestored, .reportedConsecutiveUnhealthyBoots, .reportedInCaptivePortal,
    .reportedCentralEnabled, .reportedCentralRegistered, .reportedCentralState, .lastWifiScan,
    .lastWifiScanAt, .email, .passwordHash, .isActive, .isAdmin, .isSuperAdmin, .role,
    .tokensValidAfter, .lastLoginAt]

theorem Column.mem_all (c : Column) : c ∈ all := by
  cases c <;> decide

/-- The column is a `DateTime`. -/
def Column.isDateTime : Column → Bool
  | .createdAt | .updatedAt | .lastHeartbeatAt | .lastSeenAt | .desiredConfigUpdatedAt
  | .lastConfigPushedAt | .lastWifiScanAt | .tokensValidAfter | .lastLoginAt => true
  | _ => false

/-- The column is a `JSON`: it stores a `None` that is written to it as JSON's `null`. -/
def Column.isJson : Column → Bool
  | .capabilities | .desiredConfig | .lastReportedConfig | .lastWifiScan => true
  | _ => false

namespace Model

/-- The entity type's text, the key of `_SYNCABLE_MODELS`. -/
def text : Model → String
  | .device => "device"
  | .site => "site"
  | .group => "group"
  | .user => "user"

/-- `_SYNCABLE_MODELS.get(entity_type)`. -/
def ofText (s : String) : Option Model :=
  if s = "device" then some .device
  else if s = "site" then some .site
  else if s = "group" then some .group
  else if s = "user" then some .user
  else none

@[simp] theorem ofText_text (m : Model) : ofText m.text = some m := by
  cases m <;> decide

/-- The columns of a model's table. -/
def columns : Model → List Column
  | .device =>
    [.id, .displayName, .hardwareModel, .hardwareRevision, .firmwareVersion, .macAddress,
      .serialNumber, .localIp, .notes, .siteId, .centralManagementEnabled, .registrationState,
      .capabilities, .lastHeartbeatAt, .lastSeenAt, .isQaFixture, .isProtected, .isHeldOff,
      .powerSourceDeviceId, .lastKnownRelayOn, .desiredConfig, .desiredMode,
      .lastReportedConfig, .desiredConfigUpdatedAt, .lastConfigPushedAt,
      .reportedRecoveryMode, .reportedAutoRecoveryTriggered, .reportedLastKnownGoodRestored,
      .reportedConsecutiveUnhealthyBoots, .reportedInCaptivePortal, .reportedCentralEnabled,
      .reportedCentralRegistered, .reportedCentralState, .lastWifiScan, .lastWifiScanAt,
      .createdAt, .updatedAt]
  | .site => [.organizationId, .id, .name, .description, .createdAt, .updatedAt]
  | .group => [.organizationId, .id, .name, .description, .siteId, .createdAt, .updatedAt]
  | .user =>
    [.id, .email, .passwordHash, .displayName, .isActive, .isAdmin, .isSuperAdmin, .role,
      .tokensValidAfter, .createdAt, .updatedAt, .lastLoginAt]

/-- The columns declared `NOT NULL`, those of JSON apart; `devices.site_id` is since its backfill. -/
def required : Model → List Column
  | .device =>
    [.id, .displayName, .siteId, .centralManagementEnabled, .registrationState, .isQaFixture,
      .isProtected, .isHeldOff, .createdAt, .updatedAt]
  | .site => [.organizationId, .id, .name, .createdAt, .updatedAt]
  | .group => [.organizationId, .id, .name, .createdAt, .updatedAt]
  | .user =>
    [.id, .email, .passwordHash, .displayName, .isActive, .isAdmin, .isSuperAdmin, .role,
      .tokensValidAfter, .createdAt, .updatedAt]

/-- The default a column takes in a row inserted at `now` without a value for it. -/
def default (now : Time) : Model → Column → Value
  | _, .createdAt | _, .updatedAt | .user, .tokensValidAfter => .datetime now
  | _, .displayName => .text ""
  | _, .centralManagementEnabled | .user, .isActive | .user, .isAdmin => .bool true
  | _, .registrationState => .text "pending"
  | _, .capabilities => .json (.obj [])
  | _, .isQaFixture | _, .isProtected | _, .isHeldOff | _, .isSuperAdmin => .bool false
  | _, .role => .text "admin"
  | _, _ => .null

/-- The model is `TenantScoped`: its rows carry their organization themselves. -/
def tenantScoped : Model → Bool
  | .site | .group => true
  | .device | .user => false

/-- `_NATURAL_KEY`. -/
def naturalKey : Model → Option Column
  | .user => some .email
  | .site | .group => some .name
  | .device => none

/-- `_NON_EMITTING_COLUMNS`. -/
def nonEmittingColumns : Model → List Column
  | .device =>
    [.updatedAt, .lastHeartbeatAt, .firmwareVersion, .localIp, .lastReportedConfig,
      .reportedRecoveryMode, .reportedAutoRecoveryTriggered, .reportedLastKnownGoodRestored,
      .reportedConsecutiveUnhealthyBoots, .reportedInCaptivePortal, .reportedCentralEnabled,
      .reportedCentralRegistered, .reportedCentralState]
  | .site => [.updatedAt]
  | .group => [.updatedAt]
  | .user => [.updatedAt, .lastLoginAt]

/-- The foreign keys of a model that point at a syncable model; all are `ON DELETE SET NULL`. -/
def references : Model → List (Column × Model)
  | .device => [(.siteId, .site), (.powerSourceDeviceId, .device)]
  | .group => [(.siteId, .site)]
  | .site | .user => []

end Model

/-- A row of a model's table; a column the model does not have holds `NULL`. -/
abbrev Row := Column → Value

/-- The members of a payload under the names of columns. -/
abbrev Payload := Column → Option Value

/-- What the database and the column types ask of a row by itself.  The types of the columns that
hold no datetime, and the lengths of texts, are not modelled. -/
structure WellFormed (m : Model) (id : String) (row : Row) : Prop where
  row_id : row .id = .text id
  required : ∀ c ∈ m.required, row c ≠ .null
  dateTime : ∀ c, c.isDateTime = true → row c = .null ∨ ∃ t, row c = .datetime t
  off : ∀ c, c ∉ m.columns → row c = .null

/-- `updated_at`. -/
def Row.stamp (row : Row) : Time :=
  match row .updatedAt with
  | .datetime t => t
  | .json _ => 0

theorem Model.id_mem (m : Model) : .id ∈ m.columns := by
  cases m <;> decide

theorem Model.updatedAt_required (m : Model) : .updatedAt ∈ m.required := by
  cases m <;> decide

/-- The `updated_at` of a row that is stored is a datetime. -/
theorem WellFormed.updatedAt {m : Model} {id : String} {row : Row} (w : WellFormed m id row) :
    row .updatedAt = .datetime row.stamp := by
  obtain hnull | ⟨t, ht⟩ := w.dateTime .updatedAt rfl
  · exact absurd hnull (w.required _ m.updatedAt_required)
  · rw [Row.stamp, ht]

/-- A cell is `NULL` or a datetime. -/
def Value.isTime : Value → Bool
  | .datetime _ | .null => true
  | .json _ => false

theorem Value.isTime_iff (v : Value) : v.isTime = true ↔ v = .null ∨ ∃ t, v = .datetime t := by
  cases v with
  | datetime t => simp [isTime]
  | json j => cases j <;> simp [isTime]

instance (m : Model) (id : String) (row : Row) : Decidable (WellFormed m id row) :=
  decidable_of_iff (row .id = .text id ∧ (∀ c ∈ m.required, row c ≠ .null) ∧
      (∀ c ∈ Column.all, c.isDateTime = true → (row c).isTime = true) ∧
        ∀ c ∈ Column.all, c ∉ m.columns → row c = .null) <| by
    simp only [Value.isTime_iff, Column.mem_all, forall_const]
    exact ⟨fun ⟨h₁, h₂, h₃, h₄⟩ => ⟨h₁, h₂, h₃, h₄⟩, fun ⟨h₁, h₂, h₃, h₄⟩ => ⟨h₁, h₂, h₃, h₄⟩⟩

end RebooterHub.Sync
