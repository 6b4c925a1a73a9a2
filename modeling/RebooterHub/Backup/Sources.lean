import RebooterHub.Backup.Export
import RebooterHub.Data.Number

/-!
# Backup — Sources

The external sensor sources of the hub: what configuration each kind stores, and what the admin
API shows of a source.

`spell` is Python's `str` of a value that is not a text, and `minted` what `secrets.token_hex`
returned.
-/

namespace RebooterHub.Backup

/-- `WEBHOOK_KINDS`. -/
def webhookKinds : List String := ["plex", "jellyfin", "ios_shortcut"]

/-- `KIND_TO_MODALITY`. -/
def kindToModality : List (String × String) :=
  [("roku", "media"), ("home_assistant", "appliance_state"), ("weather", "weather"),
    ("ical", "calendar"), ("solaredge", "solar"), ("enphase_envoy", "solar"), ("snmp", "network"),
    ("plex", "media"), ("jellyfin", "media"), ("ios_shortcut", "automation"),
    ("mqtt", "appliance_state"), ("google_calendar", "calendar")]

/-! ### Validation -/

/-- What the validation of a configuration raises. -/
inductive SourceError where
  /-- A `ValueError` with its text. -/
  | value (message : String)
  | raised (e : PyError)
deriving DecidableEq, Repr

/-- `str(x)`. -/
def str (spell : Json → String) : Json → String
  | .str s => s
  | x => spell x

/-- `str(config.get(key) or "")`. -/
def configText (spell : Json → String) (config : Members) (key : String) : String :=
  let x := (config.lookup key).getD .null
  if x.truthy then str spell x else ""

/-- `str(config.get(key) or "").strip()`. -/
def configStripped (spell : Json → String) (config : Members) (key : String) : String :=
  Text.stripped (configText spell config key)

/-- `[str(x).strip() for x in xs if str(x).strip()]`. -/
def strippedTexts (spell : Json → String) (xs : List Json) : List String :=
  (xs.map fun x => Text.stripped (str spell x)).filter (· ≠ "")

/-- The characters `str.splitlines` ends a line at. -/
def isLineBreak (c : Char) : Bool :=
  let n := c.toNat
  decide (10 ≤ n ∧ n ≤ 13 ∨ 28 ≤ n ∧ n ≤ 30 ∨ n = 0x85 ∨ n = 0x2028 ∨ n = 0x2029)

/-- `[t.strip() for t in text.splitlines() if t.strip()]`.  That a carriage return and a line feed
end one line makes no difference, since blank lines are left out. -/
def textLines (text : String) : List String :=
  ((text.toList.splitOnP isLineBreak).map fun cs => String.ofList (Text.strip cs)).filter (· ≠ "")

/-- A member that is stored when it is not empty. -/
def member? (key text : String) : Members := if text ≠ "" then [(key, .str text)] else []

/-- The configuration of a Home Assistant source. -/
def homeAssistantConfig (spell : Json → String) (config : Members) : Except SourceError Members :=
  let token := configStripped spell config "token"
  if token = "" then
    .error (.value "home_assistant config.token is required (HA long-lived access token)")
  else .ok ([("token", .str token)] ++ match config.lookup "verify_ssl" with
    | none | some .null => []
    | some x => [("verify_ssl", .bool x.truthy)])

/-- The configuration of a SolarEdge source. -/
def solaredgeConfig (spell : Json → String) (config : Members) : Except SourceError Members :=
  let siteId := configStripped spell config "site_id"
  let apiKey := configStripped spell config "api_key"
  if siteId = "" then .error (.value "solaredge config.site_id is required")
  else if apiKey = "" then
    .error (.value "solaredge config.api_key is required (monitoring API key)")
  else .ok [("site_id", .str siteId), ("api_key", .str apiKey)]

/-- `float(x)` of a coordinate; it catches `TypeError` and `ValueError`. -/
def coordinate (x : Json) : Except SourceError PyFloat :=
  match x.toFloat with
  | .ok q => .ok q
  | .error .overflowError => .error (.raised .overflowError)
  | .error _ => .error (.value "weather config requires numeric lat + lng (decimal degrees)")

/-- The configuration of a weather source. -/
def weatherConfig (config : Members) : Except SourceError Members := do
  let lat ← coordinate ((config.lookup "lat").getD .null)
  let lng ← coordinate ((config.lookup "lng").getD .null)
  match lat, lng with
  | .fin lat, .fin lng =>
    if -90 ≤ lat ∧ lat ≤ 90 ∧ -180 ≤ lng ∧ lng ≤ 180 then
      return [("lat", .float lat), ("lng", .float lng)]
    else throw (.value "weather lat/lng out of range")
  | _, _ => throw (.value "weather lat/lng out of range")

/-- The configuration of an iCal source. -/
def icalConfig (spell : Json → String) (config : Members) : Except SourceError Members :=
  let url := configStripped spell config "url"
  if url = "" then .error (.value "ical config.url is required (.ics feed URL)")
  else if "webcal://".toList <+: url.toList then
    .ok [("url", .str ("https://" ++ String.ofList (url.toList.drop "webcal://".length)))]
  else if "http://".toList <+: url.toList ∨ "https://".toList <+: url.toList then
    .ok [("url", .str url)]
  else .error (.value "ical url must use http://, https://, or webcal:// scheme")

/-- The topics an MQTT source is given: a list, or a text with one a line. -/
def topicList : Json → List Json
  | .str text => (textLines text).map .str
  | .arr xs => xs
  | _ => []

/-- The configuration of an MQTT source. -/
def mqttConfig (spell : Json → String) (minted : String) (config : Members) :
    Except SourceError Members :=
  let raw := topicList ((config.lookup "topics").getD .null)
  let topics := strippedTexts spell raw
  let clientId := configStripped spell config "client_id"
  if raw.isEmpty then
    .error (.value "mqtt config.topics is required (a non-empty list of topic filters)")
  else if topics.isEmpty then
    .error (.value "mqtt config.topics must contain at least one topic")
  else .ok ([("topics", .arr (topics.map .str))]
    ++ member? "username" (configStripped spell config "username")
    ++ member? "password" (configText spell config "password")
    ++ [("client_id", .str (if clientId ≠ "" then clientId else "rebooter-droids-" ++ minted))])

/-- The configuration of a source that is posted to. -/
def webhookConfig (spell : Json → String) (minted : String) (config : Members) : Members :=
  let secret := configStripped spell config "webhook_secret"
  [("webhook_secret", .str (if secret ≠ "" then secret else minted))]
    ++ member? "server_name"
      (String.ofList ((configStripped spell config "server_name").toList.take 120))

/-- `str(v3.get(key) or default).strip().upper()`. -/
def snmpProto (spell : Json → String) (v3 : Members) (key default : String) : String :=
  let x := (v3.lookup key).getD .null
  String.ofList (Text.upper (Text.strip (if x.truthy then str spell x else default).toList))

/-- The `v3` block of an SNMP source. -/
def snmpV3 (spell : Json → String) (v3 : Members) : Except SourceError Members :=
  let user := configStripped spell v3 "user"
  let authKey := configStripped spell v3 "auth_key"
  let privKey := configStripped spell v3 "priv_key"
  let authProto := snmpProto spell v3 "auth_proto" "SHA"
  let privProto := snmpProto spell v3 "priv_proto" "AES"
  if user = "" ∨ authKey = "" ∨ privKey = "" then
    .error (.value "snmp v3 requires v3.user, v3.auth_key, and v3.priv_key")
  else if authProto ≠ "SHA" ∧ authProto ≠ "MD5" then
    .error (.value "snmp v3.auth_proto must be SHA or MD5")
  else if privProto ≠ "AES" ∧ privProto ≠ "DES" then
    .error (.value "snmp v3.priv_proto must be AES or DES")
  else .ok [("user", .str user), ("auth_proto", .str authProto), ("auth_key", .str authKey),
    ("priv_proto", .str privProto), ("priv_key", .str privKey)]

/-- The interfaces of an SNMP source, if it lists some. -/
def interfaceFilter (spell : Json → String) (config : Members) : Except SourceError Members :=
  let x := (config.lookup "interface_filter").getD .null
  match x.truthy, x with
  | false, _ => .ok []
  | true, .arr xs =>
    let names := strippedTexts spell xs
    .ok (if names.isEmpty then [] else [("interface_filter", .arr (names.map .str))])
  | true, _ => .error (.value "snmp config.interface_filter must be a list")

/-- The credentials of an SNMP source, by its version. -/
def snmpAccess (spell : Json → String) (version : String) (config : Members) :
    Except SourceError Members :=
  let community := configStripped spell config "community"
  if version = "2c" then
    if community = "" then .error (.value "snmp config.community is required for SNMP v2c")
    else .ok [("community", .str community)]
  else if version = "3" then
    match ((config.lookup "v3").getD .null).orEmpty with
    | .obj v3 => (snmpV3 spell v3).map fun v3 => [("v3", .obj v3)]
    | _ => .error (.value "snmp config.v3 must be an object")
  else .error (.value "snmp config.version must be '2c' or '3'")

/-- The configuration of an SNMP source. -/
def snmpConfig (spell : Json → String) (config : Members) : Except SourceError Members := do
  let x := (config.lookup "version").getD .null
  let version := String.ofList
    (Text.lower (Text.strip (if x.truthy then str spell x else "2c").toList))
  let access ← snmpAccess spell version config
  return [("version", .str version)] ++ access ++ (← interfaceFilter spell config)

/-- The configuration of a Google calendar source. -/
def googleCalendarConfig (spell : Json → String) (config : Members) :
    Except SourceError Members :=
  let refreshToken := configStripped spell config "refresh_token"
  let calendarId := configStripped spell config "calendar_id"
  if refreshToken = "" then
    .error (.value ("google_calendar config.refresh_token is required "
      ++ "(set by the OAuth connect flow)"))
  else .ok ([("refresh_token", .str refreshToken),
      ("calendar_id", .str (if calendarId ≠ "" then calendarId else "primary"))]
    ++ member? "access_token" (configStripped spell config "access_token")
    ++ member? "access_token_expires_at" (configStripped spell config "access_token_expires_at"))

/-- `_validate_kind_config`. -/
def validateKindConfig (spell : Json → String) (minted : String) (kind : String) (config : Json) :
    Except SourceError Members :=
  match config with
  | .obj config =>
    if kind = "roku" then .ok []
    else if kind = "home_assistant" then homeAssistantConfig spell config
    else if kind = "weather" then weatherConfig config
    else if kind = "ical" then icalConfig spell config
    else if kind = "solaredge" then solaredgeConfig spell config
    else if kind = "enphase_envoy" then .ok (member? "jwt" (configStripped spell config "jwt"))
    else if kind = "mqtt" then mqttConfig spell minted config
    else if kind ∈ webhookKinds then .ok (webhookConfig spell minted config)
    else if kind = "snmp" then snmpConfig spell config
    else if kind = "google_calendar" then googleCalendarConfig spell config
    else .ok []
  | _ => .error (.value "config must be an object")

/-! ### Serialization -/

/-- `_SECRET_CONFIG_KEYS`. -/
def secretConfigKeys : List String := ["token", "api_key", "jwt", "community", "password"]

/-- `_SECRET_V3_KEYS`. -/
def secretV3Keys : List String := ["auth_key", "priv_key"]

/-- What stands in for a secret. -/
def masked : Json := .str "********"

/-- The members of some keys masked, unless they are empty. -/
def maskKeys (keys : List String) : Members → Members :=
  Dict.mapValues fun k v => if k ∈ keys ∧ v.truthy = true then masked else v

/-- What `_redact_config` makes of a member. -/
def redactMember (k : String) (v : Json) : Json :=
  match k, if k ∈ secretConfigKeys ∧ v.truthy = true then masked else v with
  | "v3", .obj v3 => .obj (maskKeys secretV3Keys v3)
  | _, v => v

theorem redactMember_v3 (v3 : Members) :
    redactMember "v3" (.obj v3) = .obj (maskKeys secretV3Keys v3) := by
  have hkey : "v3" ∉ secretConfigKeys := by decide
  simp [redactMember, hkey]

/-- `_redact_config`. -/
def redactConfig : Members → Members := Dict.mapValues redactMember

/-- A text that may be missing. -/
def textJson : Option String → Json
  | some s => .str s
  | none => .null

/-- `_serialize`; `iso` spells a time. -/
def serialize (iso : Time → String) (latestSample : Json) (row : ExternalSensorSource) : Members :=
  [("id", .str row.id), ("kind", row.kind),
    ("modality", match row.kind with
      | .str kind => textJson (kindToModality.lookup kind)
      | _ => .null),
    ("display_name", .str row.displayName), ("host", row.host), ("port", .int row.port),
    ("enabled", .bool row.enabled), ("poll_interval_seconds", .int row.pollIntervalSeconds),
    ("last_polled_at", textJson (row.lastPolledAt.map iso)),
    ("last_success_at", textJson (row.lastSuccessAt.map iso)),
    ("last_error", textJson row.lastError), ("created_at", .str (iso row.createdAt)),
    ("config", .obj (redactConfig (row.config.getD []))), ("latest_sample", latestSample)]

end RebooterHub.Backup
