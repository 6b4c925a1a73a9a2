import RebooterHub.Watchdog.Probes
import RebooterHub.Watchdog.Validation

/-!
# Watchdog — RuleForms

`blueprints/admin/_rules_forms`: the builders that make the probe, the target, the action and the
maintenance window of a rule from the fields of a form.
-/

namespace RebooterHub.Watchdog

/-- A submitted form: its fields in order, a name as often as it was sent. -/
abbrev RuleForm := List (String × String)

/-- What a builder raises. -/
inductive FormError where
  /-- A `RuleFormError`. -/
  | ruleForm (message : String)
  /-- An exception of Python. -/
  | raised (e : PyError)
deriving DecidableEq, Repr

/-! ### The fields -/

namespace RuleForm
variable (form : RuleForm)

/-- `form.getlist(name)`. -/
def getlist (name : String) : List String := (form.filter (·.1 = name)).map (·.2)

/-- `form.get(name) or ""`. -/
def raw (name : String) : List Char := ((form.lookup name).getD "").toList

/-- `(form.get(name) or "").strip()`. -/
def text (name : String) : String := String.ofList (Text.strip (form.raw name))

/-- `int(form.get(name) or default)`; `none` is its `ValueError`. -/
def int (name : String) (default : Int) : Option Int :=
  if form.raw name = [] then some default else Text.int (form.raw name)

/-- `float(form.get(name) or default)`; `none` is its `ValueError`. -/
def float (name : String) (default : Rat) : Option PyFloat :=
  if form.raw name = [] then some (.fin default) else Text.float (form.raw name)

/-- A number that nothing is put in place of. -/
def required (n : Option Int) : Except FormError Int :=
  match n with
  | some n => .ok n
  | none => .error (.raised .valueError)

/-- A text that is left out when it is empty. -/
def unlessBlank (key : String) (text : String) : List (String × Json) :=
  if text = "" then [] else [(key, .str text)]

/-- `max_sample_age_seconds`, left out when it is no number. -/
def maxSampleAge (name : String) (default : Int) : List (String × Json) :=
  match form.int name default with
  | some n => [("max_sample_age_seconds", .int n)]
  | none => []

end RuleForm

/-! ### The builders -/

section
variable (form : RuleForm)

/-- One row of the table of targets; none if both of its fields are empty. -/
def internetTarget (host port : String) : Option Json :=
  let host := Text.stripped host
  let port := Text.strip port.toList
  if host = "" ∧ port = [] then none
  else
    let n := if port = [] then 0 else (Text.int port).getD 0
    some (.obj [("host", .str host), ("port", .int n)])

/-- The rows of the table of targets. -/
def internetTargets : List Json :=
  ((form.getlist "internet_target_host[]").zip (form.getlist "internet_target_port[]")).filterMap
    fun (host, port) => internetTarget host port

/-- `int(port or 0)`, of `host, _, port = arg.partition(":")`. -/
def tcpPort (arg : List Char) : Option Int :=
  let port := (arg.dropWhile (· ≠ ':')).drop 1
  if port = [] then some 0 else Text.int port

/-- A tcp probe from `host:port`. -/
def buildTcp (arg : List Char) : Except FormError Json := do
  let host := arg.takeWhile (· ≠ ':')
  let port ← RuleForm.required (tcpPort arg)
  return .obj [("kind", .str "tcp"), ("host", .str (String.ofList host)), ("port", .int port)]

/-- The members that the power probes end with. -/
def powerWindow : List (String × Json) :=
  ("window_seconds", .int ((form.int "power_window_seconds" 300).getD 300)) ::
    form.maxSampleAge "power_max_sample_age_seconds" 600

/-- `power_above` and `power_below`. -/
def buildPower (kind : String) : Except FormError Json :=
  match form.float "power_threshold_w" 0 with
  | none => .error (.ruleForm "threshold_w must be a number (e.g. 1500 for 1500W).")
  | some threshold => .ok (.obj
      ([("kind", .str kind), ("device_id", .str (form.text "power_device_id")),
        ("threshold_w", floatJson threshold)] ++ powerWindow form))

/-- `build_probe_from_form`. -/
def buildProbeFromForm : Except FormError Json :=
  let arg := form.text "probe_arg"
  match form.text "probe_kind" with
  | "internet" =>
    let targets := internetTargets form
    .ok (.obj (("kind", .str "internet") ::
      if targets = [] then [] else [("targets", .arr targets)]))
  | "ping" => .ok (.obj [("kind", .str "ping"), ("host", .str arg)])
  | "tcp" => buildTcp arg.toList
  | "http" => .ok (.obj [("kind", .str "http"), ("url", .str arg)])
  | "dns" => .ok (.obj [("kind", .str "dns"), ("hostname", .str arg)])
  | "gateway" => .ok (.obj [("kind", .str "gateway")])
  | "roku_app_active" => .ok (.obj
      ([("kind", .str "roku_app_active"), ("source_id", .str (form.text "roku_source_id")),
        ("app_name", .str (form.text "roku_app_name"))] ++
        form.maxSampleAge "roku_max_sample_age_seconds" 120))
  | "ha_state_is" => .ok (.obj
      ([("kind", .str "ha_state_is"), ("source_id", .str (form.text "ha_source_id")),
        ("entity_id", .str (form.text "ha_entity_id")),
        ("expected_state", .str (form.text "ha_expected_state"))] ++
        form.maxSampleAge "ha_max_sample_age_seconds" 60))
  | "weather_alert_active" => .ok (.obj
      ([("kind", .str "weather_alert_active"),
        ("source_id", .str (form.text "weather_source_id"))] ++
        RuleForm.unlessBlank "event_contains" (form.text "weather_event_contains") ++
        RuleForm.unlessBlank "min_severity" (form.text "weather_min_severity") ++
        form.maxSampleAge "weather_max_sample_age_seconds" 600))
  | "ical_event_active" => .ok (.obj
      ([("kind", .str "ical_event_active"), ("source_id", .str (form.text "ical_source_id"))] ++
        RuleForm.unlessBlank "summary_contains" (form.text "ical_summary_contains") ++
        form.maxSampleAge "ical_max_sample_age_seconds" 1800))
  | "epg_show_airing" => .ok (.obj
      ([("kind", .str "epg_show_airing"), ("show", .str (form.text "epg_show"))] ++
        RuleForm.unlessBlank "network" (form.text "epg_network")))
  | "power_above" => buildPower form "power_above"
  | "power_below" => buildPower form "power_below"
  | "power_zero_while_on" =>
    let nearZero := (form.float "power_near_zero_threshold_w" (1 / 2)).getD (.fin (1 / 2))
    .ok (.obj
      ([("kind", .str "power_zero_while_on"), ("device_id", .str (form.text "power_device_id")),
        ("near_zero_threshold_w", floatJson nearZero)] ++ powerWindow form))
  | _ => .error (.ruleForm "Unsupported probe kind.")

/-- `build_target_from_form`. -/
def buildTargetFromForm : Except FormError Json :=
  let id := Json.str (form.text "target_id")
  match form.text "target_kind" with
  | "device" => .ok (.obj [("kind", .str "device"), ("id", id)])
  | "group" => .ok (.obj [("kind", .str "group"), ("id", id)])
  | "tag" => .ok (.obj [("kind", .str "tag"), ("tag", id)])
  | _ => .error (.ruleForm "Pick a target.")

/-- An action that applies a saved scene. -/
def applyScene (sceneId : String) : Json :=
  .obj [("kind", .str "apply_scene"), ("scene_id", .str sceneId)]

/-- `(form.get("action_kind") or "cycle").strip()`. -/
def formActionKind : String :=
  if form.raw "action_kind" = [] then "cycle" else form.text "action_kind"

/-- `build_action_from_form`. -/
def buildActionFromForm : Except FormError Json :=
  match formActionKind form with
  | "cycle" => do
    let powerOff ← RuleForm.required (form.int "power_off_seconds" 5)
    let holdoff ← RuleForm.required (form.int "post_reboot_holdoff_seconds" 180)
    return .obj [("kind", .str "cycle"), ("power_off_seconds", .int powerOff),
      ("post_reboot_holdoff_seconds", .int holdoff)]
  | "hold_off" => .ok (.obj [("kind", .str "hold_off")])
  | "notify_only" => .ok (.obj [("kind", .str "notify_only")])
  | "relay_on" => .ok (.obj [("kind", .str "relay_on")])
  | "relay_off" => .ok (.obj [("kind", .str "relay_off")])
  | "apply_scene" =>
    let sceneId := form.text "scene_id"
    if sceneId = "" then .error (.ruleForm "Pick a scene for the apply_scene action.")
    else .ok (applyScene sceneId)
  | "binding" =>
    let active := form.text "binding_active_scene_id"
    let clear := form.text "binding_clear_scene_id"
    if active = "" ∨ clear = "" then
      .error (.ruleForm ("A binding needs a scene for both the active and " ++
        "cleared states. Create scenes under Scenes first."))
    else .ok (.obj [("kind", .str "binding"), ("on_active", applyScene active),
      ("on_clear", applyScene clear)])
  | _ => .error (.ruleForm "Unsupported action.")

/-- A time of a maintenance window, as it is stored: one to the minute is UTC. -/
def storedStamp (stamp : String) : String :=
  if stamp.length = 16 then stamp ++ ":00+00:00" else stamp

/-- `build_maintenance_windows_from_form`. -/
def buildMaintenanceWindowsFromForm : Json :=
  let start := form.text "maint_start"
  let stop := form.text "maint_end"
  if start = "" ∨ stop = "" then .null
  else .arr [.obj [("start", .str (storedStamp start)), ("end", .str (storedStamp stop))]]

end

end RebooterHub.Watchdog
