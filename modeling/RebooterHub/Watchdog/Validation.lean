import RebooterHub.Data.Number
import RebooterHub.Watchdog.Rules

/-!
# Watchdog — Validation

`services/watchdog/_validate` and the pre-flight of `create_rule` and `update_rule`.

A probe kind has its own list of checks, made from three kinds of check on a field
(`requireField`, `requireNumeric`, `requireInt`).  What a check says of a value it spells with the
value itself; `RuleMessage` keeps that value in place of its spelling.
-/

namespace RebooterHub.Watchdog

/-- The text of a `WatchdogValidationError`. -/
inductive RuleMessage where
  | text (message : String)
  /-- `probe.{field} is required when probe.kind={kind!r}` -/
  | required (field : String) (kind : Json)
  /-- `probe.{field} must be numeric (got ...: {raw!r})` -/
  | notNumeric (field : String) (raw : Json)
  /-- `probe.{field} must be an integer (got ...: {raw!r})` -/
  | notInteger (field : String) (raw : Json)
  /-- `probe.{field} must be between {low} and {high} (got {v})` -/
  | outOfRange (field : String) (low high : Int) (raw : Json)
  /-- `probe.min_severity must be one of ... (got {sev!r})` -/
  | unknownSeverity (severity : String)
  /-- `target.id is required when target.kind={kind!r}` -/
  | targetId (kind : Json)
  /-- `probe.kind={kind!r} is canonical but has no validator` -/
  | noValidator (kind : Json)
deriving DecidableEq, Repr

/-- What the validation and the mutations of rules raise. -/
inductive RuleError where
  | validation (message : RuleMessage)
  | raised (e : PyError)
  /-- The id of the new row is taken. -/
  | integrity
deriving DecidableEq, Repr

/-- A validation error with a fixed text. -/
def RuleError.text (message : String) : RuleError := .validation (.text message)

/-- An exception of Python. -/
def raising {α : Type} : Except PyError α → Except RuleError α
  | .ok x => .ok x
  | .error e => .error (.raised e)

/-- `KNOWN_PROBE_KINDS`. -/
def knownProbeKinds : List String :=
  ["internet", "ping", "tcp", "http", "dns", "gateway", "host_awake", "roku_app_active",
    "ha_state_is", "ha_numeric_above", "ha_numeric_below", "weather_alert_active",
    "ical_event_active", "power_above", "power_below", "power_zero_while_on",
    "solar_production_above", "solar_production_below", "snmp_interface_down",
    "snmp_throughput_above", "snmp_throughput_below", "snmp_error_rate_above",
    "media_session_active", "webhook_field_equals", "mqtt_topic_equals", "epg_show_airing",
    "device_heartbeat_stale"]

/-- `LEAF_ACTION_KINDS`. -/
def leafActionKinds : List String :=
  ["cycle", "hold_off", "notify_only", "relay_on", "relay_off", "apply_scene"]

/-- `KNOWN_ACTION_KINDS`. -/
def knownActionKinds : List String := leafActionKinds ++ ["binding"]

/-- `_WEATHER_SEVERITIES`. -/
def weatherSeverities : List String := ["Minor", "Moderate", "Severe", "Extreme"]

/-- A tuple of texts, as Python prints it. -/
def tupleText (texts : List String) : String :=
  "(" ++ ", ".intercalate (texts.map fun t => "'" ++ t ++ "'") ++ ")"

/-- The value is one of some texts. -/
def isOneOf (x : Json) (texts : List String) : Bool := texts.any fun t => x = .str t

/-- `(x or "").strip()`. -/
def strippedText (x : Json) : Except PyError (List Char) :=
  match x with
  | .str s => .ok (Text.strip s.toList)
  | x => if x.truthy then .error .attributeError else .ok []

/-- A text, or a value that is false. -/
def Strippable (x : Json) : Prop := x.truthy = false ∨ ∃ s, x = .str s

theorem exists_strippedText {x : Json} : (∃ cs, strippedText x = .ok cs) ↔ Strippable x := by
  cases x with
  | str s => exact ⟨fun _ => .inr ⟨s, rfl⟩, fun _ => ⟨_, rfl⟩⟩
  | null | bool _ | int _ | float _ | arr _ | obj _ =>
      dsimp only [strippedText, Strippable]
      split
      · next h => simp [h]
      · next h => simp [h]

/-- `not str(x or "").strip()`. -/
def isBlank : Json → Bool
  | .str s => (Text.strip s.toList).isEmpty
  | x => !x.truthy

/-! ### Probes -/

/-- `probe.get(field)`. -/
def field (ms : List (String × Json)) (name : String) : Json := (ms.lookup name).getD .null

/-- `_require`. -/
def requireField (ms : List (String × Json)) (name : String) : Except RuleError Unit :=
  match field ms name with
  | .null => .error (.validation (.required name (field ms "kind")))
  | .str s =>
    if (Text.strip s.toList).isEmpty then
      .error (.validation (.required name (field ms "kind")))
    else .ok ()
  | _ => .ok ()

/-- `_require_numeric`. -/
def requireNumeric (ms : List (String × Json)) (name : String) (low high : Int) :
    Except RuleError Unit :=
  let raw := field ms name
  if raw = .null then .error (.validation (.required name (field ms "kind")))
  else match raw.toFloat with
    | .error .typeError | .error .valueError => .error (.validation (.notNumeric name raw))
    | .error e => .error (.raised e)
    | .ok v =>
      if v.lt (.fin low) || (PyFloat.fin high).lt v then
        .error (.validation (.outOfRange name low high raw))
      else .ok ()

/-- `_require_int`. -/
def requireInt (ms : List (String × Json)) (name : String) (low high : Int) :
    Except RuleError Unit :=
  let raw := field ms name
  if raw = .null then .error (.validation (.required name (field ms "kind")))
  else match raw.toInt with
    | .error .typeError | .error .valueError => .error (.validation (.notInteger name raw))
    | .error e => .error (.raised e)
    | .ok v =>
      if v < low ∨ high < v then .error (.validation (.outOfRange name low high raw))
      else .ok ()

/-- A check made when the field is there. -/
def ifPresent (ms : List (String × Json)) (name : String) (check : Except RuleError Unit) :
    Except RuleError Unit :=
  if ms.any (·.1 = name) then check else .ok ()

theorem field_of_absent {ms : List (String × Json)} {name : String}
    (h : ¬ ms.any (·.1 = name)) : field ms name = .null := by
  have hlookup : ms.lookup name = none := by
    rw [List.lookup_eq_none_iff]
    intro m hm
    simp only [List.any_eq_true, decide_eq_true_eq, not_exists, not_and] at h
    have hne : m.1 ≠ name := h m hm
    exact bne_iff_ne.mpr hne.symm
  rw [field, hlookup]
  rfl

/-- An integer that is not zero is true. -/
theorem truthy_of_toInt {x : Json} {n : Int} (h : x.toInt = .ok n) (hne : n ≠ 0) :
    x.truthy = true := by
  by_contra hfalse
  cases x with
  | bool b =>
      obtain rfl : b = false := by simpa [Json.truthy] using hfalse
      cases h
      exact hne rfl
  | int m =>
      obtain rfl : m = 0 := by simpa [Json.truthy] using hfalse
      cases h
      exact hne rfl
  | float q =>
      obtain rfl : q = 0 := by simpa [Json.truthy] using hfalse
      cases h
      exact hne rfl
  | str s =>
      obtain rfl : s = "" := by simpa [Json.truthy] using hfalse
      cases h
  | null | arr _ | obj _ => cases h

/-- An accepted integer is read, and lies between the bounds. -/
theorem requireInt_ok {ms : List (String × Json)} {name : String} {low high : Int}
    (h : requireInt ms name low high = .ok ()) :
    ∃ n : Int, (field ms name).toInt = .ok n ∧ low ≤ n ∧ n ≤ high := by
  rw [requireInt] at h
  split at h
  · cases h
  · cases hx : (field ms name).toInt with
    | error e =>
        rw [hx] at h
        cases e <;> cases h
    | ok n =>
        rw [hx] at h
        dsimp only at h
        split at h
        · cases h
        · next hrange => exact ⟨n, rfl, by omega, by omega⟩

/-- `probe.targets[{i}]`. -/
def targetAt (i : Nat) : String := "probe.targets[" ++ toString i ++ "]"

/-- One entry of an internet probe's `targets`. -/
def checkInternetTarget (i : Nat) (t : Json) : Except RuleError Unit :=
  match t with
  | .obj ms =>
    if isBlank (field ms "host") then .error (.text (targetAt i ++ ".host is required"))
    else
      let port := field ms "port"
      match (if port.truthy then port else .int 0).toInt with
      | .error .typeError | .error .valueError =>
        .error (.text (targetAt i ++ ".port must be an integer"))
      | .error e => .error (.raised e)
      | .ok port =>
        if port < 1 ∨ 65535 < port then
          .error (.text (targetAt i ++ ".port must be between 1 and 65535"))
        else .ok ()
  | _ => .error (.text (targetAt i ++ " must be an object with host + port"))

/-- The entries of an internet probe's `targets`, from the `i`-th on. -/
def checkInternetTargets : Nat → List Json → Except RuleError Unit
  | _, [] => .ok ()
  | i, t :: ts => do
    checkInternetTarget i t
    checkInternetTargets (i + 1) ts

/-- An internet probe. -/
def validateInternet (ms : List (String × Json)) : Except RuleError Unit :=
  match field ms "targets" with
  | .null => .ok ()
  | .arr ts =>
    if 10 < ts.length then .error (.text "probe.targets accepts at most 10 entries")
    else checkInternetTargets 0 ts
  | _ => .error (.text "probe.targets must be a list of \x7bhost, port\x7d objects")

/-- An http probe. -/
def validateHttp (ms : List (String × Json)) : Except RuleError Unit := do
  let url ← raising (strippedText (field ms "url"))
  if url.isEmpty then throw (.text "probe.url is required when probe.kind='http'")
  if !("http://".toList.isPrefixOf url || "https://".toList.isPrefixOf url) then
    throw (.text "probe.url must use http:// or https:// scheme")

/-- A weather probe. -/
def validateWeather (ms : List (String × Json)) : Except RuleError Unit := do
  requireField ms "source_id"
  let severity ← raising (strippedText (field ms "min_severity"))
  if !severity.isEmpty && !weatherSeverities.contains (String.ofList severity) then
    throw (.validation (.unknownSeverity (String.ofList severity)))

/-- `validate_probe`. -/
def validateProbe (probe : Json) : Except RuleError Unit :=
  match probe with
  | .obj ms =>
    match field ms "kind" with
    | .str "internet" => validateInternet ms
    | .str "ping" => requireField ms "host"
    | .str "tcp" => do
      requireField ms "host"
      requireInt ms "port" 1 65535
    | .str "http" => validateHttp ms
    | .str "dns" => requireField ms "hostname"
    | .str "gateway" => .ok ()
    | .str "roku_app_active" => do
      requireField ms "source_id"
      requireField ms "app_name"
    | .str "ha_state_is" => do
      requireField ms "source_id"
      requireField ms "entity_id"
      requireField ms "expected_state"
    | .str "weather_alert_active" => validateWeather ms
    | .str "ical_event_active" => requireField ms "source_id"
    | .str "power_above" | .str "power_below" => do
      requireField ms "device_id"
      requireNumeric ms "threshold_w" 0 10000
      ifPresent ms "window_seconds" (requireInt ms "window_seconds" 30 86400)
    | .str "power_zero_while_on" => do
      requireField ms "device_id"
      ifPresent ms "near_zero_threshold_w" (requireNumeric ms "near_zero_threshold_w" 0 100)
      ifPresent ms "window_seconds" (requireInt ms "window_seconds" 30 86400)
    | .str "device_heartbeat_stale" => do
      requireField ms "device_id"
      ifPresent ms "max_age_seconds" (requireInt ms "max_age_seconds" 30 86400)
    | .str "ha_numeric_above" | .str "ha_numeric_below" => do
      requireField ms "source_id"
      requireField ms "entity_id"
      requireNumeric ms "threshold" (-1000000) 1000000
    | .str "solar_production_above" | .str "solar_production_below" => do
      requireField ms "source_id"
      requireNumeric ms "threshold_w" 0 1000000
    | .str "snmp_interface_down" => do
      requireField ms "source_id"
      requireField ms "interface"
    | .str "snmp_throughput_above" | .str "snmp_throughput_below" => do
      requireField ms "source_id"
      requireField ms "interface"
      requireNumeric ms "threshold_bps" 0 1000000000000
    | .str "snmp_error_rate_above" => do
      requireField ms "source_id"
      requireField ms "interface"
      requireNumeric ms "threshold_errors_per_min" 0 1000000000
    | .str "media_session_active" => requireField ms "source_id"
    | .str "webhook_field_equals" => do
      requireField ms "source_id"
      requireField ms "field"
    | .str "mqtt_topic_equals" => do
      requireField ms "source_id"
      requireField ms "topic"
    | .str "epg_show_airing" => requireField ms "show"
    | .str "host_awake" => do
      requireField ms "host"
      ifPresent ms "port" (requireInt ms "port" 1 65535)
    | kind => .error (.validation (.noValidator kind))
  | _ => .error (.text "probe must be a JSON object")

/-! ### Actions -/

/-- One entry of a scene's `items`. -/
def checkSceneItem (path : String) (item : Json) : Except RuleError Unit :=
  match item with
  | .obj ms =>
    let relay := field ms "relay"
    let config := field ms "config"
    if isBlank (field ms "device_id") then .error (.text (path ++ ".device_id is required"))
    else if relay ≠ .null ∧ !isOneOf relay ["on", "off", "cycle"] then
      .error (.text (path ++ ".relay must be 'on', 'off' or 'cycle'"))
    else match config with
      | .null | .obj [] =>
        if relay = .null then
          .error (.text (path ++ " needs a 'relay' state or a 'config' payload"))
        else .ok ()
      | .obj _ => .ok ()
      | _ => .error (.text (path ++ ".config must be a JSON object"))
  | _ => .error (.text (path ++ " must be a JSON object"))

/-- The entries of a scene's `items`, from the `i`-th on. -/
def checkSceneItems (path : String) : Nat → List Json → Except RuleError Unit
  | _, [] => .ok ()
  | i, item :: items => do
    checkSceneItem (path ++ ".items[" ++ toString i ++ "]") item
    checkSceneItems path (i + 1) items

/-- A scene action: one that names a saved scene, or carries its `items`. -/
def validateScene (path : String) (ms : List (String × Json)) : Except RuleError Unit :=
  match field ms "scene_id" with
  | .null => match field ms "items" with
    | .arr (item :: items) =>
      if 50 < (item :: items).length then
        .error (.text (path ++ ".items accepts at most 50 entries"))
      else checkSceneItems path 0 (item :: items)
    | _ => .error (.text
        (path ++ ".items (or " ++ path ++ ".scene_id) is required for an apply_scene action"))
  | .str s =>
    if (Text.strip s.toList).isEmpty then
      .error (.text (path ++ ".scene_id must be a non-empty string"))
    else .ok ()
  | _ => .error (.text (path ++ ".scene_id must be a non-empty string"))

/-- `_validate_leaf`. -/
def validateLeaf (path : String) (ms : List (String × Json)) : Except RuleError Unit :=
  let kind := field ms "kind"
  if !isOneOf kind leafActionKinds then
    .error (.text (path ++ ".kind must be one of " ++ tupleText knownActionKinds))
  else if kind ≠ .str "apply_scene" then .ok ()
  else validateScene path ms

/-- One edge of a binding. -/
def validateEdge (path : String) (ms : List (String × Json)) (sub : String) :
    Except RuleError Unit :=
  match field ms sub with
  | .obj leaf =>
    if field leaf "kind" = .str "binding" then
      .error (.text (path ++ "." ++ sub ++ " cannot itself be a binding"))
    else validateLeaf (path ++ "." ++ sub) leaf
  | _ => .error (.text
      (path ++ "." ++ sub ++ " is required for a binding action and must be a JSON object"))

/-- `validate_action`. -/
def validateAction (action : Json) : Except RuleError Unit :=
  match action with
  | .obj ms =>
    if field ms "kind" = .str "binding" then do
      validateEdge "action" ms "on_active"
      validateEdge "action" ms "on_clear"
    else validateLeaf "action" ms
  | _ => .error (.text "action must be a JSON object")

/-! ### The pre-flight -/

/-- What `create_rule` and `update_rule` are called with. -/
structure RuleInputs where
  name : Json
  probe : Json
  target : Json
  action : Json
  siteId : Json
  description : Json
  failureThreshold : Json
  recoveryThreshold : Json
  windowSeconds : Json
  cooldownSeconds : Json
  maxRetries : Json
  retryDelaySeconds : Json
  escalation : Json
  maintenanceWindows : Json

/-- The rule's name, stripped. -/
def checkName (name : Json) : Except RuleError String := do
  let name ← raising (strippedText name)
  if name.isEmpty then throw (.text "name is required")
  if 120 < name.length then throw (.text "name must be 120 characters or fewer")
  return String.ofList name

/-- The probe is an object of a known kind. -/
def checkProbeKind (probe : Json) : Except RuleError Unit :=
  let unknown := .error (.text ("probe.kind must be one of " ++ tupleText knownProbeKinds))
  match probe with
  | .obj ms => if isOneOf (field ms "kind") knownProbeKinds then .ok () else unknown
  | _ => unknown

/-- The target names a device, a group or a tag. -/
def checkTarget (target : Json) : Except RuleError Unit :=
  let unknown := .error (.text "target.kind must be 'device' | 'group' | 'tag'")
  match target with
  | .obj ms => do
    let kind := field ms "kind"
    if !isOneOf kind ["device", "group", "tag"] then unknown
    if isOneOf kind ["device", "group"] then
      if (← raising (strippedText (field ms "id"))).isEmpty then
        throw (.validation (.targetId kind))
    if kind = .str "tag" then
      if (← raising (strippedText (field ms "tag"))).isEmpty then
        throw (.text "target.tag is required when target.kind='tag'")
  | _ => unknown

/-- A number of the rule lies in its range. -/
def checkBound (x : Json) (low high : Int) (message : String) : Except RuleError Unit := do
  let n ← raising x.toInt
  if n < low ∨ high < n then throw (.text message)

/-- `_validate_rule_inputs`. -/
def validateRuleInputs (i : RuleInputs) : Except RuleError String := do
  let name ← checkName i.name
  checkProbeKind i.probe
  validateProbe i.probe
  checkTarget i.target
  validateAction i.action
  checkBound i.failureThreshold 1 100 "failure_threshold must be between 1 and 100"
  checkBound i.recoveryThreshold 1 100 "recovery_threshold must be between 1 and 100"
  checkBound i.windowSeconds 5 86400 "window_seconds must be between 5 and 86400 (1 day)"
  checkBound i.cooldownSeconds 0 86400 "cooldown_seconds must be between 0 and 86400 (1 day)"
  return name

end RebooterHub.Watchdog
