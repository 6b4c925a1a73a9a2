import RebooterHub.Backup.Tables
import RebooterHub.Support.Dict

/-!
# Backup — Export

`export_config`: the tables as records under natural keys, and the document they make.

A plain export redacts a runtime setting by its name and the members of a source's configuration
by their keys.
-/

namespace RebooterHub.Backup
open RebooterHub.Watchdog (RuleRow)

/-- `FORMAT_NAME`. -/
def formatName : String := "rebooter-hub-config"

/-- `FORMAT_VERSION`. -/
def formatVersion : Int := 1

/-- `REDACTED_SENTINEL`. -/
def redactedSentinel : Json := .str "__redacted__"

/-- `_SECRET_KEY_TOKENS`. -/
def secretKeyTokens : List String := ["password", "secret", "token", "api_key", "hmac"]

/-- `_EXT_SECRET_SUBKEYS`. -/
def extSecretSubkeys : List String :=
  ["token", "api_key", "jwt", "community", "password", "secret"]

/-- What an export or an import raises. -/
inductive BackupError where
  /-- A `ConfigBackupError`. -/
  | message (text : String)
  /-- `unsupported backup format_version {version!r} (this hub reads version 1)` -/
  | unsupportedVersion (version : Json)
  /-- An exception of Python. -/
  | raised (e : PyError)
deriving DecidableEq, Repr

/-- `any(tok in name.lower() for tok in tokens)`. -/
def mentions (tokens : List String) (name : String) : Bool :=
  tokens.any fun tok => decide (tok.toList <:+: Text.lower name.toList)

/-- `_is_secret_key`. -/
def isSecretKey (name : String) : Bool := mentions secretKeyTokens name

/-- `_redact_ext_config`. -/
def redactExtConfig (config : Option Members) : Option Members :=
  config.map (Dict.mapValues fun k v => if mentions extSecretSubkeys k then redactedSentinel else v)

/-! ### Records -/

/-- A row of `runtime_settings` as a record. -/
def settingRecord (includeSecrets : Bool) (r : RuntimeSetting) : Members :=
  let value := (r.value.lookup "v").getD .null
  [("name", .str r.name),
    ("value", if !includeSecrets && isSecretKey r.name then redactedSentinel else value)]

/-- A row of `sites` as a record. -/
def siteRecord (s : Site) : Members := [("name", .str s.name), ("description", s.description)]

/-- `site_name_by_id.get(site_id)`. -/
def siteNameById (sites : List Site) (siteId : Option String) : Json :=
  match siteId.bind fun id => sites.find? (·.id = id) with
  | some s => .str s.name
  | none => .null

/-- A row of `groups` as a record. -/
def groupRecord (sites : List Site) (g : Group) : Members :=
  [("name", .str g.name), ("description", g.description),
    ("site_name", siteNameById sites g.siteId)]

/-- A row of `group_memberships` as a record; one without a group name or a MAC is dropped. -/
def membershipRecord (groups : List Group) (devices : List Device) (m : GroupMembership) :
    Option Members := do
  let gname ← ((groups.find? (·.id = m.groupId)).map (·.name)).filter (· ≠ "")
  let mac ← (devices.find? (·.id = m.deviceId)).bind Device.mac?
  return [("group_name", .str gname), ("device_mac", .str mac)]

/-- The id in a nullable reference. -/
def refId : Json → Option String
  | .str id => some id
  | _ => none

/-- A row of `watchdog_rules` as a record. -/
def ruleRecord (sites : List Site) (r : RuleRow) : Members :=
  [("name", .str r.name), ("description", r.description), ("enabled", .bool r.rule.enabled),
    ("probe", r.rule.probe.orEmpty), ("target", r.rule.target.orEmpty),
    ("action", r.rule.action.orEmpty), ("escalation", r.rule.escalation.orEmpty),
    ("maintenance_windows", r.rule.maintenanceWindows.orNil),
    ("failure_threshold", .int r.rule.failureThreshold),
    ("recovery_threshold", .int r.rule.recoveryThreshold),
    ("window_seconds", .int r.rule.windowSeconds),
    ("cooldown_seconds", .int r.rule.cooldownSeconds), ("max_retries", .int r.maxRetries),
    ("retry_delay_seconds", .int r.retryDelaySeconds),
    ("site_name", siteNameById sites (refId r.siteId))]

/-- A row of `schedules` as a record. -/
def scheduleRecord (s : Schedule) : Members :=
  [("name", .str s.name), ("description", s.description), ("enabled", .bool s.enabled),
    ("kind", s.kind), ("recurrence", s.recurrence), ("at_time_utc", s.atTimeUtc),
    ("weekdays", s.weekdays.orNil), ("duration_seconds", .int s.durationSeconds),
    ("target", s.target.orEmpty), ("power_off_seconds", .int s.powerOffSeconds),
    ("post_reboot_holdoff_seconds", .int s.postRebootHoldoffSeconds)]

/-- A row of `scenes` as a record. -/
def sceneRecord (s : Scene) : Members :=
  [("name", .str s.name), ("description", s.description), ("items", s.items.orNil)]

/-- A configuration as a value. -/
def configJson : Option Members → Json
  | some config => .obj config
  | none => .null

/-- A row of `external_sensor_sources` as a record. -/
def sourceRecord (includeSecrets : Bool) (e : ExternalSensorSource) : Members :=
  [("display_name", .str e.displayName), ("kind", e.kind), ("host", e.host),
    ("port", .int e.port), ("enabled", .bool e.enabled),
    ("poll_interval_seconds", .int e.pollIntervalSeconds),
    ("config", configJson (if includeSecrets then e.config else redactExtConfig e.config))]

/-- A device as a record, with its MAC; one with nothing desired is skipped. -/
def deviceRecord (d : Device) : Option (String × Members) := do
  let mac ← d.mac?
  if d.desiredConfig = .null ∧ d.desiredMode = .null then none
  else some (mac, [("mac_address", .str mac), ("desired_config", d.desiredConfig),
    ("desired_mode", d.desiredMode)])

/-! ### The document -/

/-- `_collect_sections`. -/
def collectSections (c : Collation) (includeSecrets : Bool) (hub : Hub) : Section → List Members
  | .runtimeSettings => (c.orderBy (·.name) hub.settings).map (settingRecord includeSecrets)
  | .sites => (c.orderBy (·.name) hub.sites).map siteRecord
  | .groups => (c.orderBy (·.name) hub.groups).map (groupRecord hub.sites)
  | .groupMemberships => hub.memberships.filterMap (membershipRecord hub.groups hub.devices)
  | .watchdogRules => (c.orderBy (·.name) hub.rules).map (ruleRecord hub.sites)
  | .schedules => (c.orderBy (·.name) hub.schedules).map scheduleRecord
  | .scenes => (c.orderBy (·.name) hub.scenes).map sceneRecord
  | .externalSources => (c.orderBy (·.displayName) hub.sources).map (sourceRecord includeSecrets)
  -- the devices that are skipped may be skipped before the sort
  | .deviceConfig => (c.orderBy (·.1) (hub.devices.filterMap deviceRecord)).map (·.2)

/-- The `sections` of the document. -/
def sectionsJson (records : Section → List Members) : Json :=
  .obj (allSections.map fun s => (s.text, .arr ((records s).map .obj)))

/-- The document of an export. -/
def exportDocument (c : Collation) (now : String) (includeSecrets : Bool) (hub : Hub) : Members :=
  [("format", .str formatName), ("format_version", .int formatVersion), ("exported_at", .str now),
    ("include_secrets", .bool includeSecrets),
    ("sections", sectionsJson (collectSections c includeSecrets hub))]

/-- `export_config`, with `encrypt_document` for the encryption of a document that holds secrets. -/
def exportConfig (c : Collation) (encrypt : Members → String → Members) (now : String)
    (includeSecrets : Bool) (passphrase : Option String) (hub : Hub) :
    Except BackupError Members :=
  let doc := exportDocument c now includeSecrets hub
  match includeSecrets, passphrase.filter (· ≠ "") with
  | false, _ => .ok doc
  | true, some passphrase => .ok (encrypt doc passphrase)
  | true, none => .error (.message "including secrets requires a passphrase to encrypt the file")

end RebooterHub.Backup
