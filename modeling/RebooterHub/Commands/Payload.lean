import Mathlib.Data.List.Sort
import RebooterHub.Data.Json
import RebooterHub.Support.Fallible

/-!
# Commands — Payload

The command types the hub accepts, and `_validate_payload`: what is stored as a command's payload
and the error each malformed payload is refused with.
-/

namespace RebooterHub.Commands

/-- The exceptions of the command service. -/
inductive CommandError where
  /-- `ValueError`, with its text. -/
  | value (message : String)
  /-- `LookupError`. -/
  | lookup (id : String)
  /-- `DeviceLockedError`. -/
  | locked (deviceId : String)
  /-- An exception the service does not raise itself. -/
  | python (e : PyError)
  /-- `IntegrityError` of the database. -/
  | integrity
deriving DecidableEq, Repr

/-- `ALLOWED_TYPES`. -/
def allowedTypes : List String :=
  ["relay_on", "relay_off", "relay_toggle", "relay_cycle", "device_restart", "factory_reset",
    "set_mode", "apply_config", "check_firmware", "start_firmware_update", "lan_scan",
    "lan_proxy", "lan_ota_push"]

/-- `SET_MODE_ALLOWED`. -/
def setModeAllowed : List String := ["smart_plug", "internet_watchdog", "device_watchdog"]

/-- `APPLY_CONFIG_ALLOWED_TOP_LEVEL`. -/
def applyConfigAllowedTopLevel : List String :=
  ["device_name", "relay_restore_behavior", "monitor_interval_seconds", "boot_warmup_seconds",
    "manual_button_enabled", "internet", "device", "notifications", "power"]

/-- `_POWER_TYPES`. -/
def powerTypes : List String :=
  ["relay_on", "relay_off", "relay_toggle", "relay_cycle", "device_restart"]

/-- `_POWER_ON_TYPES`. -/
def powerOnTypes : List String := ["relay_on", "relay_toggle", "relay_cycle"]

/-- An exception the service leaves to its caller. -/
def raising {α : Type} : Except PyError α → Except CommandError α
  | .ok a => .ok a
  | .error e => .error (.python e)

/-- `sorted(xs)` of texts. -/
def sorted (xs : List String) : List String := xs.insertionSort (· ≤ ·)

/-- The text Python shows a list of texts as. -/
def reprTexts (xs : List String) : String :=
  "[" ++ ", ".intercalate (xs.map fun x => "'" ++ x ++ "'") ++ "]"

/-- `set_mode`. -/
def validateSetMode (payload : Json) : Except CommandError Json := do
  let mode ← raising (payload.get "mode")
  match mode with
  -- a list or an object cannot be looked up in a set
  | .arr _ | .obj _ => .error (.python .typeError)
  | .str m =>
    if m ∈ setModeAllowed then .ok (.obj [("mode", .str m)])
    else .error (.value ("set_mode.mode must be one of " ++ reprTexts (sorted setModeAllowed)))
  | _ => .error (.value ("set_mode.mode must be one of " ++ reprTexts (sorted setModeAllowed)))

/-- `apply_config`. -/
def validateApplyConfig (payload : Json) : Except CommandError Json :=
  match payload with
  | .obj (m :: ms) =>
    let unknown := ((m :: ms).map Prod.fst).filter (· ∉ applyConfigAllowedTopLevel)
    if unknown = [] then .ok payload
    else .error (.value ("apply_config contains unsupported top-level keys: "
      ++ ", ".intercalate (sorted unknown) ++ ". Allowed: "
      ++ reprTexts (sorted applyConfigAllowedTopLevel)))
  | _ => .error (.value "apply_config payload must be a non-empty object")

/-- The check of one key of `relay_cycle`. -/
def checkCycleKey (payload : Json) (k : String) : Except CommandError Unit := do
  if ← raising (payload.contains k) then
    let v ← raising (payload.item k)
    if v.asInt = none then .error (.value ("relay_cycle." ++ k ++ " must be an integer"))
    else .ok ()
  else .ok ()

/-- `relay_cycle`. -/
def validateRelayCycle (payload : Json) : Except CommandError Json := do
  checkCycleKey payload "power_off_seconds"
  checkCycleKey payload "post_reboot_holdoff_seconds"
  return payload

/-- `lan_scan`. -/
def validateLanScan (payload : Json) : Except CommandError Json := do
  let start ← raising (payload.get "start")
  let stop ← raising (payload.get "end")
  match start.asInt, stop.asInt with
  | some a, some b =>
    if ¬(1 ≤ a ∧ a ≤ 254 ∧ 1 ≤ b ∧ b ≤ 254 ∧ a ≤ b) then
      .error (.value "lan_scan start/end must be in 1..254 with start <= end")
    else if b - a > 254 then .error (.value "lan_scan range too wide (max 254 IPs)")
    else .ok (.obj [("start", start), ("end", stop)])
  | _, _ => .error (.value "lan_scan requires integer 'start' and 'end'")

/-- A text that is not empty. -/
def nonEmptyText : Json → Option String
  | .str s => if s = "" then none else some s
  | _ => none

/-- `str.startswith`. -/
def startsWith (s start : String) : Bool := start.toList.isPrefixOf s.toList

/-- `str.upper` on the characters whose upper case is ASCII. -/
def upper (s : String) : String :=
  String.ofList (s.toList.flatMap fun c =>
    if c = 'ſ' then ['S'] else if c = 'ı' then ['I']
    else if c = 'ﬅ' ∨ c = 'ﬆ' then ['S', 'T'] else [c.toUpper])

/-- `(payload.get("method") or "GET").upper()`. -/
def proxyMethod (payload : Json) : Except CommandError String := do
  let method ← raising (payload.get "method")
  if method.truthy then
    match method with
    | .str m => .ok (upper m)
    | _ => .error (.python .attributeError)
  else .ok "GET"

/-- A text that starts with one of `starts`. -/
def startsWithAny (starts : List String) : Json → Bool
  | .str s => starts.any (startsWith s)
  | _ => false

/-- The member `k` of the payload, when it has one. -/
def optionalMember (payload : Json) (k : String) : Except CommandError (List (String × Json)) := do
  if ← raising (payload.contains k) then
    let v ← raising (payload.get k)
    return [(k, v)]
  else return []

/-- `lan_proxy`. -/
def validateLanProxy (payload : Json) : Except CommandError Json := do
  let ip ← raising (payload.get "ip")
  let path ← raising (payload.get "path")
  if nonEmptyText ip = none then .error (.value "lan_proxy requires non-empty 'ip'")
  else if !startsWithAny ["/"] path then
    .error (.value "lan_proxy 'path' must be a string starting with '/'")
  else do
    let method ← proxyMethod payload
    if method ≠ "GET" ∧ method ≠ "POST" then
      .error (.value "lan_proxy 'method' must be GET or POST")
    else do
      let body ← optionalMember payload "body"
      let headers := match ← raising (payload.get "headers") with
        | .obj ms => [("headers", .obj ms)]
        | _ => []
      .ok (.obj ([("ip", ip), ("path", path), ("method", .str method)] ++ body ++ headers))

/-- `lan_ota_push`. -/
def validateLanOtaPush (payload : Json) : Except CommandError Json := do
  let ip ← raising (payload.get "ip")
  let url ← raising (payload.get "url")
  if nonEmptyText ip = none then .error (.value "lan_ota_push requires non-empty 'ip'")
  else if !startsWithAny ["http://", "https://"] url then
    .error (.value "lan_ota_push 'url' must be a http(s) URL")
  else do
    let sha256 ← optionalMember payload "sha256"
    .ok (.obj ([("ip", ip), ("url", url)] ++ sha256))

/-- `_validate_payload`. -/
def validatePayload (cmdType : String) (payload : Json) : Except CommandError Json :=
  let payload := payload.orEmpty
  if cmdType = "set_mode" then validateSetMode payload
  else if cmdType = "apply_config" then validateApplyConfig payload
  else if cmdType = "relay_cycle" then validateRelayCycle payload
  else if cmdType = "lan_scan" then validateLanScan payload
  else if cmdType = "lan_proxy" then validateLanProxy payload
  else if cmdType = "lan_ota_push" then validateLanOtaPush payload
  else .ok payload

example : validatePayload "lan_scan" (.obj [("start", .int 5), ("end", .int 2)])
    = .error (.value "lan_scan start/end must be in 1..254 with start <= end") := by decide

/-! ### What a payload is refused for -/

open Fallible

/-- The refusal is not that of a protected device. -/
def CommandError.OfArguments (e : CommandError) : Prop := ∀ did, e ≠ .locked did

theorem failsWith_raising {α : Type} (x : Except PyError α) :
    FailsWith CommandError.OfArguments (raising x) := by
  cases x with
  | ok a => exact .ok a
  | error e => exact .error nofun

theorem failsWith_optionalMember (payload : Json) (k : String) :
    FailsWith CommandError.OfArguments (optionalMember payload k) :=
  (failsWith_raising _).bind fun _ =>
    .ite ((failsWith_raising _).bind fun _ => .ok _) (.ok _)

theorem failsWith_checkCycleKey (payload : Json) (k : String) :
    FailsWith CommandError.OfArguments (checkCycleKey payload k) :=
  (failsWith_raising _).bind fun _ =>
    .ite ((failsWith_raising _).bind fun _ => .ite (.error nofun) (.ok _)) (.ok _)

theorem failsWith_validateSetMode (payload : Json) :
    FailsWith CommandError.OfArguments (validateSetMode payload) := by
  refine (failsWith_raising _).bind fun mode => ?_
  cases mode with
  | arr | obj => exact .error nofun
  | str => exact .ite (.ok _) (.error nofun)
  | null | bool | int | float => exact .error nofun

theorem failsWith_validateApplyConfig (payload : Json) :
    FailsWith CommandError.OfArguments (validateApplyConfig payload) := by
  unfold validateApplyConfig
  split
  · exact .ite (.ok _) (.error nofun)
  · exact .error nofun

theorem failsWith_validateLanScan (payload : Json) :
    FailsWith CommandError.OfArguments (validateLanScan payload) := by
  refine (failsWith_raising _).bind fun start => (failsWith_raising _).bind fun stop => ?_
  split
  · exact .ite (.error nofun) (.ite (.error nofun) (.ok _))
  · exact .error nofun

theorem failsWith_proxyMethod (payload : Json) :
    FailsWith CommandError.OfArguments (proxyMethod payload) := by
  refine (failsWith_raising _).bind fun method => .ite ?_ (.ok _)
  split
  · exact .ok _
  · exact .error nofun

theorem failsWith_validateLanProxy (payload : Json) :
    FailsWith CommandError.OfArguments (validateLanProxy payload) :=
  (failsWith_raising _).bind fun _ => (failsWith_raising _).bind fun _ =>
    .ite (.error nofun) <| .ite (.error nofun) <| (failsWith_proxyMethod payload).bind fun _ =>
      .ite (.error nofun) <| (failsWith_optionalMember payload _).bind fun _ =>
        (failsWith_raising _).bind fun _ => .ok _

theorem failsWith_validateLanOtaPush (payload : Json) :
    FailsWith CommandError.OfArguments (validateLanOtaPush payload) :=
  (failsWith_raising _).bind fun _ => (failsWith_raising _).bind fun _ =>
    .ite (.error nofun) <| .ite (.error nofun) <| (failsWith_optionalMember payload _).bind fun _ =>
      .ok _

/-- A payload is never refused as a protected device is. -/
theorem failsWith_validatePayload (cmdType : String) (payload : Json) :
    FailsWith CommandError.OfArguments (validatePayload cmdType payload) :=
  .ite (failsWith_validateSetMode _) <| .ite (failsWith_validateApplyConfig _) <|
    .ite ((failsWith_checkCycleKey _ _).bind fun _ =>
      (failsWith_checkCycleKey _ _).bind fun _ => .ok _) <|
    .ite (failsWith_validateLanScan _) <| .ite (failsWith_validateLanProxy _) <|
    .ite (failsWith_validateLanOtaPush _) (.ok _)

end RebooterHub.Commands
