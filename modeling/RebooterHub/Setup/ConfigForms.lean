import RebooterHub.Data.Equality
import RebooterHub.Data.Spelling
import RebooterHub.Setup.Configure
import RebooterHub.Support.Dict
import RebooterHub.Support.Pieces

/-!
# Setup — ConfigForms

`blueprints/admin/_device_config_forms`: the structured form for a device's desired configuration,
its builder, the values it is filled with, and the test that a configuration can be edited with it.

* `roundTrips_iff`: the configurations that come back from the form as they were.
* `blankConfig_dropped`: one that the test admits and the form drops.
-/

namespace RebooterHub.ConfigForms
open Watchdog (field strippedText)
open Setup (isLineBreak allowedDesiredConfigKeys Named)
open Dict Fallible

abbrev Members := List (String × Json)

/-! ### The schema -/

/-- `RELAY_RESTORE_CHOICES`. -/
def relayRestoreChoices : List String := ["restore_previous", "always_on", "always_off"]

/-- `INTERNET_INT_SUBKEYS`. -/
def internetIntSubkeys : List String :=
  ["failure_threshold_seconds", "power_off_seconds", "post_reboot_holdoff_seconds",
    "max_cycles_per_incident", "max_cycles_per_hour", "cooldown_seconds", "dns_refresh_seconds",
    "recovery_stability_seconds"]

/-- `DEVICE_INT_SUBKEYS`. -/
def deviceIntSubkeys : List String :=
  ["failure_threshold_seconds", "power_off_seconds", "post_reboot_holdoff_seconds",
    "max_cycles_per_incident", "max_cycles_per_hour", "cooldown_seconds",
    "recovery_stability_seconds"]

/-- `POWER_INT_SUBKEYS`. -/
def powerIntSubkeys : List String := ["sample_rate_hz", "batch_seconds"]

/-- `NOTIFICATIONS_BOOL_SUBKEYS`. -/
def notificationsBoolSubkeys : List String :=
  ["enabled", "send_on_trigger", "send_on_recovery", "send_on_max_cycles_reached",
    "send_test_notification_enabled"]

/-- `NOTIFICATIONS_STR_SUBKEYS`. -/
def notificationsStrSubkeys : List String := ["type", "webhook_url", "webhook_method"]

/-- `NOTIFICATIONS_SECRET_SUBKEY`. -/
def notificationsSecretSubkey : String := "webhook_auth_token"

/-- What the builder raises. -/
inductive FormError where
  /-- A `DeviceConfigFormError`. -/
  | text (message : String)
  /-- `{label} must be a whole number (got {raw!r}).` -/
  | notWhole (label raw : String)
  /-- `Internal error: form produced unsupported keys ...` -/
  | unsupportedKeys (unknown : List String)
  /-- An exception of Python. -/
  | raised (e : PyError)
deriving DecidableEq, Repr

/-! ### The fields of a form -/

section
variable (spell : Json → String)

/-- `_raw`. -/
def rawField (form : Members) (name : String) : List Char :=
  match form.lookup name with
  | none | some .null => []
  | some x => Text.strip (x.text spell)

/-- `_form_bool`. -/
def formBool (form : Members) (name : String) : Bool :=
  decide (String.ofList (Text.lower (rawField spell form name)) ∈ ["1", "true", "on", "yes"])

/-- `_form_int`. -/
def formInt (form : Members) (name label : String) : Except FormError (Option Int) :=
  let raw := rawField spell form name
  if raw.isEmpty then .ok none
  else match Text.int raw with
    | some n => .ok (some n)
    | none => .error (.notWhole label (String.ofList raw))

/-- `_form_str`. -/
def formStr (form : Members) (name : String) : Option String :=
  let raw := rawField spell form name
  if raw.isEmpty then none else some (String.ofList raw)

/-- `(form.get(name) or "").strip()`. -/
def strippedField (form : Members) (name : String) : Except FormError (List Char) :=
  match strippedText (field form name) with
  | .ok cs => .ok cs
  | .error e => .error (.raised e)

/-- A checkbox, which its marker tells from one that is not on the form. -/
def formFlag (form : Members) (name : String) : Except FormError (Option Bool) := do
  let present ← strippedField form (name ++ "_present")
  return if present.isEmpty then none else some (formBool spell form name)

/-- `[ln.strip() for ln in raw.splitlines() if ln.strip()]`.  That a carriage return and a line feed
end one line makes no difference. -/
def linesOf (raw : List Char) : List (List Char) :=
  ((raw.splitOnP isLineBreak).map Text.strip).filter (!·.isEmpty)

/-- The text of a text area. -/
def areaText (form : Members) (name : String) : List Char :=
  match form.lookup name with
  | none | some .null => []
  | some x => x.text spell

/-- The lines of a text, if there are any. -/
def targetsOf (raw : List Char) : Option (List String) :=
  if (linesOf raw).isEmpty then none else some ((linesOf raw).map String.ofList)

/-- The text area of targets. -/
def formTargets (form : Members) (name : String) : Option (List String) :=
  targetsOf (areaText spell form name)

/-! ### From the form -/

/-- `sub.replace("_", " ")`. -/
def spaced (sub : String) : String :=
  String.ofList (sub.toList.map fun c => if c = '_' then ' ' else c)

/-- What is read for some keys of a block. -/
def readKeys (subkeys : List String) (read : String → Except FormError (Option Json)) :
    Except FormError (List (String × Option Json)) :=
  subkeys.mapM fun sub => do return (sub, ← read sub)

/-- The numbers of a block. -/
def formInts (form : Members) (start title : String) (subkeys : List String) :
    Except FormError (List (String × Option Json)) :=
  readKeys subkeys fun sub =>
    (formInt spell form (start ++ sub) (title ++ " " ++ spaced sub)).map (·.map .int)

/-- A list of targets. -/
def targetsJson (targets : List String) : Json := .arr (targets.map .str)

/-- `_build_watchdog_block`. -/
def buildWatchdogBlock (form : Members) (start title : String) (intSubkeys : List String)
    (targetsField targetField : Option String) : Except FormError Members := do
  let targets := targetsField.bind (formTargets spell form)
  let target := targetField.bind (formStr spell form)
  let ints ← formInts spell form start title intSubkeys
  return given (("targets", targets.map targetsJson) :: ("target", target.map .str) :: ints)

/-- The power block. -/
def buildPowerBlock (form : Members) : Except FormError Members := do
  let enabled ← formFlag spell form "cfg_power_enabled"
  let ints ← formInts spell form "cfg_power_" "Power" powerIntSubkeys
  return given (("enabled", enabled.map .bool) :: ints)

/-- The secret that is kept when its field is blank. -/
def keptSecret (existingNotifications : Json) : Option Json :=
  match existingNotifications with
  | .obj ms =>
    let token := field ms notificationsSecretSubkey
    if token.truthy then some token else none
  | _ => none

/-- `_build_notifications_block`. -/
def buildNotificationsBlock (form : Members) (existingNotifications : Json) :
    Except FormError Members := do
  let flags ← readKeys notificationsBoolSubkeys fun sub =>
    (formFlag spell form ("cfg_notifications_" ++ sub)).map (·.map .bool)
  let texts := notificationsStrSubkeys.map fun sub =>
    (sub, (formStr spell form ("cfg_notifications_" ++ sub)).map Json.str)
  let token ← strippedField form ("cfg_notifications_" ++ notificationsSecretSubkey)
  let secret := if token.isEmpty then keptSecret existingNotifications
    else some (.str (String.ofList token))
  return given (flags ++ texts ++ [(notificationsSecretSubkey, secret)])

/-- A block that has members. -/
def nonEmptyBlock (block : Members) : Option Json :=
  if block.isEmpty then none else some (.obj block)

/-- The check of a device name. -/
def checkDeviceName (name : Option String) : Except FormError Unit :=
  if name.any (120 < ·.length) then .error (.text "Device name must be 120 characters or fewer.")
  else .ok ()

/-- The check of a choice. -/
def checkRelay (relay : Option String) : Except FormError Unit :=
  if relay.any (· ∉ relayRestoreChoices) then
    .error (.text ("Relay restore behavior must be one of restore_previous, always_on, " ++
      "always_off."))
  else .ok ()

/-- The backstop at the end of the builder. -/
def checkKeys (cfg : Members) : Except FormError Members :=
  let unknown := (cfg.map (·.1)).filter (· ∉ allowedDesiredConfigKeys)
  if unknown = [] then .ok cfg else .error (.unsupportedKeys unknown)

/-- `build_desired_config_from_form`. -/
def buildDesiredConfigFromForm (form existing : Members) : Except FormError Members := do
  let deviceName := formStr spell form "cfg_device_name"
  checkDeviceName deviceName
  let relay := formStr spell form "cfg_relay_restore_behavior"
  checkRelay relay
  let monitor ← formInt spell form "cfg_monitor_interval_seconds" "Monitor interval"
  let warmup ← formInt spell form "cfg_boot_warmup_seconds" "Boot warm-up"
  let manual ← formFlag spell form "cfg_manual_button_enabled"
  let internet ← buildWatchdogBlock spell form "cfg_internet_" "Internet" internetIntSubkeys
    (some "cfg_internet_targets") none
  let device ← buildWatchdogBlock spell form "cfg_device_" "Device" deviceIntSubkeys
    none (some "cfg_device_target")
  let power ← buildPowerBlock spell form
  let notifications ← buildNotificationsBlock spell form (field existing "notifications")
  checkKeys (given [("device_name", deviceName.map .str),
    ("relay_restore_behavior", relay.map .str), ("monitor_interval_seconds", monitor.map .int),
    ("boot_warmup_seconds", warmup.map .int), ("manual_button_enabled", manual.map .bool),
    ("internet", nonEmptyBlock internet), ("device", nonEmptyBlock device),
    ("power", nonEmptyBlock power), ("notifications", nonEmptyBlock notifications)])

/-! ### To the form -/

/-- A block that is a dict. -/
def blockOf (cfg : Members) (key : String) : Members :=
  match field cfg key with
  | .obj block => block
  | _ => []

/-- `bool(x)`. -/
def truth (x : Json) : Json := .bool x.truthy

/-- The text area of targets. -/
def targetLines (block : Members) : Option Json :=
  match field block "targets" with
  | .arr targets =>
    some (.str (String.ofList (['\n'].intercalate (targets.map (Json.text spell)))))
  | _ => none

/-- The values of some fields of a block. -/
def valuesOf (block : Members) (start : String) (subkeys : List String) (f : Json → Json) :
    List (String × Option Json) :=
  subkeys.map fun sub => (start ++ sub, (block.lookup sub).map f)

/-- The fields with their values. -/
def formValues (cfg : Members) : List (String × Option Json) :=
  [("cfg_device_name", cfg.lookup "device_name"),
    ("cfg_relay_restore_behavior", cfg.lookup "relay_restore_behavior"),
    ("cfg_monitor_interval_seconds", cfg.lookup "monitor_interval_seconds"),
    ("cfg_boot_warmup_seconds", cfg.lookup "boot_warmup_seconds"),
    ("cfg_manual_button_enabled", (cfg.lookup "manual_button_enabled").map truth),
    ("cfg_internet_targets", targetLines spell (blockOf cfg "internet")),
    ("cfg_device_target", (blockOf cfg "device").lookup "target"),
    ("cfg_power_enabled", ((blockOf cfg "power").lookup "enabled").map truth)] ++
  valuesOf (blockOf cfg "internet") "cfg_internet_" internetIntSubkeys id ++
  valuesOf (blockOf cfg "device") "cfg_device_" deviceIntSubkeys id ++
  valuesOf (blockOf cfg "power") "cfg_power_" powerIntSubkeys id ++
  valuesOf (blockOf cfg "notifications") "cfg_notifications_" notificationsBoolSubkeys truth ++
  valuesOf (blockOf cfg "notifications") "cfg_notifications_" notificationsStrSubkeys id

/-- `desired_config_to_form_values`. -/
def desiredConfigToFormValues (cfg : Members) : Members := given (formValues spell cfg)

/-- The checkboxes. -/
def booleanFields : List String :=
  "cfg_manual_button_enabled" :: "cfg_power_enabled" ::
    notificationsBoolSubkeys.map ("cfg_notifications_" ++ ·)

/-- The markers of the checkboxes that have a value. -/
def markers (values : Members) : List (String × Option Json) :=
  booleanFields.map fun name =>
    (name ++ "_present", if (values.lookup name).isSome then some (.str "1") else none)

/-- The form as it is filled, submitted without a change. -/
def unmodifiedForm (cfg : Members) : Members :=
  desiredConfigToFormValues spell cfg ++ given (markers (desiredConfigToFormValues spell cfg))

end

/-! ### The test -/

/-- `representable_subkeys`. -/
def representableSubkeys : List (String × List String) :=
  [("internet", "targets" :: internetIntSubkeys), ("device", "target" :: deviceIntSubkeys),
    ("power", "enabled" :: powerIntSubkeys),
    ("notifications", notificationsBoolSubkeys ++ notificationsStrSubkeys ++
      [notificationsSecretSubkey])]

/-- A flat list of scalars, if there is one. -/
def flatTargets (block : Members) : Bool :=
  match block.lookup "targets" with
  | none => true
  | some (.arr targets) => targets.all fun
    | .arr _ | .obj _ => false
    | _ => true
  | some _ => false

/-- A block has no other keys than these. -/
def onlyKeys (block : Members) (allowed : List String) : Bool :=
  block.all fun m => decide (m.1 ∈ allowed)

/-- `is_form_representable`. -/
def isFormRepresentable (cfg : Json) : Bool :=
  match cfg with
  | .obj ms =>
    ms.isEmpty || onlyKeys ms allowedDesiredConfigKeys &&
      representableSubkeys.all fun (key, allowed) =>
        match field ms key with
        | .null => true
        | .obj block => onlyKeys block allowed && (key != "internet" || flatTargets block)
        | _ => false
  | cfg => !cfg.truthy

/-! ### What the form keeps -/

/-- What stands under a key, if anything does. -/
def Holds (P : Json → Prop) (ms : Members) (key : String) : Prop :=
  ∀ x, ms.lookup key = some x → P x

/-- A text that is not blank and has no white space around it. -/
def IsText (x : Json) : Prop := ∃ s, x = .str s ∧ Named s

def IsWhole (x : Json) : Prop := ∃ n, x = .int n

def IsFlag (x : Json) : Prop := ∃ b, x = .bool b

/-- One of the choices for the relay. -/
def IsChoice (x : Json) : Prop := ∃ s ∈ relayRestoreChoices, x = .str s

/-- Some texts of one line each. -/
def IsTargets (x : Json) : Prop :=
  ∃ ts, x = targetsJson ts ∧ ts ≠ [] ∧ ∀ t ∈ ts, Named t ∧ ∀ c ∈ t.toList, isLineBreak c = false

/-- A dict that is not empty. -/
def IsBlock (P : Members → Prop) (x : Json) : Prop := ∃ block, x = .obj block ∧ block ≠ [] ∧ P block

/-- What the form keeps of the internet block. -/
structure InternetKept (block : Members) : Prop where
  targets : Holds IsTargets block "targets"
  ints : ∀ sub ∈ internetIntSubkeys, Holds IsWhole block sub

structure DeviceKept (block : Members) : Prop where
  target : Holds IsText block "target"
  ints : ∀ sub ∈ deviceIntSubkeys, Holds IsWhole block sub

structure PowerKept (block : Members) : Prop where
  enabled : Holds IsFlag block "enabled"
  ints : ∀ sub ∈ powerIntSubkeys, Holds IsWhole block sub

structure NotificationsKept (block : Members) : Prop where
  flags : ∀ sub ∈ notificationsBoolSubkeys, Holds IsFlag block sub
  texts : ∀ sub ∈ notificationsStrSubkeys, Holds IsText block sub
  secret : Holds (·.truthy = true) block notificationsSecretSubkey

/-- A configuration whose values are of the types and in the spelling that the form gives them. -/
structure Kept (cfg : Members) : Prop where
  deviceName : Holds IsText cfg "device_name"
  relay : Holds IsChoice cfg "relay_restore_behavior"
  monitor : Holds IsWhole cfg "monitor_interval_seconds"
  warmup : Holds IsWhole cfg "boot_warmup_seconds"
  manual : Holds IsFlag cfg "manual_button_enabled"
  internet : Holds (IsBlock InternetKept) cfg "internet"
  device : Holds (IsBlock DeviceKept) cfg "device"
  power : Holds (IsBlock PowerKept) cfg "power"
  notifications : Holds (IsBlock NotificationsKept) cfg "notifications"

/-- The configuration that is built from the unmodified form is the one that filled it. -/
def RoundTrips (spell : Json → String) (cfg : Members) : Prop :=
  ∃ cfg', buildDesiredConfigFromForm spell (unmodifiedForm spell cfg) cfg = .ok cfg' ∧
    Json.Equal (.obj cfg') (.obj cfg)

/-! ### One field -/

section
variable {spell : Json → String} {form : Members} {name label : String} {v : Option Json}

/-- What is read under a name agrees with a value. -/
abbrev Agree (read v : Option Json) : Prop := Option.Rel Json.Equal read v

theorem agree_none {read : Option Json} : Agree read none ↔ read = none := by
  constructor
  · rintro ⟨⟩
    rfl
  · rintro rfl
    exact .none

theorem agree_some {read : Option Json} {y : Json} :
    Agree read (some y) ↔ ∃ x, read = some x ∧ Json.Equal x y := by
  constructor
  · intro h
    cases h with
    | some h => exact ⟨_, rfl, h⟩
  · rintro ⟨x, rfl, h⟩
    exact .some h

theorem agree_formStr (h : form.lookup name = v) :
    Agree ((formStr spell form name).map .str) v ↔ ∀ x, v = some x → IsText x := by
  cases v with
  | none => simp [formStr, rawField, h]
  | some y =>
      simp only [agree_some, Option.some.injEq, forall_eq', Option.map_eq_some_iff]
      constructor
      · rintro ⟨_, ⟨s, hs, rfl⟩, hequal⟩
        obtain rfl := Json.equal_str.mp hequal
        have hraw : rawField spell form name = Text.strip s.toList := by
          rw [rawField, h]
          rfl
        rw [formStr, hraw] at hs
        split at hs
        · cases hs
        · next hne =>
            have hstrip : Text.strip s.toList = s.toList := by
              rw [← Option.some.inj hs, String.toList_ofList, Text.strip_strip]
            refine ⟨s, rfl, ?_, hstrip⟩
            rintro rfl
            exact hne rfl
      · rintro ⟨s, rfl, hnamed⟩
        refine ⟨.str s, ⟨s, ?_, rfl⟩, .refl _⟩
        have hraw : rawField spell form name = s.toList := by
          rw [rawField, h]
          exact hnamed.2
        have hne : s.toList.isEmpty = false := by simpa using hnamed.1
        rw [formStr, hraw, hne]
        exact congrArg some String.ofList_toList

theorem exists_formInt (h : form.lookup name = v) :
    (∃ n, formInt spell form name label = .ok n ∧ Agree (n.map .int) v) ↔
      ∀ x, v = some x → IsWhole x := by
  cases v with
  | none =>
      have hread : formInt spell form name label = .ok none := by simp [formInt, rawField, h]
      refine iff_of_true ⟨none, hread, .none⟩ nofun
  | some y =>
      simp only [agree_some, Option.some.injEq, forall_eq', Option.map_eq_some_iff]
      constructor
      · rintro ⟨_, -, _, ⟨n, -, rfl⟩, hequal⟩
        exact ⟨n, Json.equal_int.mp hequal⟩
      · rintro ⟨n, rfl⟩
        have hraw : rawField spell form name = Text.ofInt n := by
          rw [rawField, h]
          exact Text.strip_digits (Text.isspace_ofInt n)
        have hne : (Text.ofInt n).isEmpty = false := by simpa using Text.ofInt_ne_nil n
        refine ⟨some n, ?_, _, ⟨n, rfl, rfl⟩, .refl _⟩
        simp [formInt, hraw, hne, Text.int_ofInt]

/-- The marker of a checkbox says whether there is a value. -/
theorem exists_formFlag (h : form.lookup name = v.map truth)
    (hmarker : form.lookup (name ++ "_present") = if v.isSome then some (.str "1") else none) :
    (∃ b, formFlag spell form name = .ok b ∧ Agree (b.map .bool) v) ↔
      ∀ x, v = some x → IsFlag x := by
  cases v with
  | none =>
      have hread : formFlag spell form name = .ok none := by
        rw [formFlag, strippedField, field, hmarker]
        rfl
      exact iff_of_true ⟨none, hread, .none⟩ fun x h => by cases h
  | some y =>
      have hbool : formBool spell form name = y.truthy := by
        have hraw : rawField spell form name =
            Text.strip (if y.truthy then "True".toList else "False".toList) := by
          rw [rawField, h]
          rfl
        rw [formBool, hraw]
        cases y.truthy <;> decide
      have hread : formFlag spell form name = .ok (some y.truthy) := by
        rw [formFlag, strippedField, field, hmarker, hbool]
        rfl
      simp only [hread, Except.ok.injEq, exists_eq_left', Option.map_some, agree_some,
        Option.some.injEq, forall_eq', Json.equal_bool]
      constructor
      · intro heq
        exact ⟨_, heq⟩
      · rintro ⟨b, rfl⟩
        cases b <;> rfl

end

/-! ### The lines -/

/-- A line that the form keeps. -/
structure IsLine (l : List Char) : Prop where
  nonempty : l ≠ []
  stripped : Text.strip l = l
  oneLine : ∀ c ∈ l, isLineBreak c = false

theorem isLine_of_mem_linesOf {raw l : List Char} (h : l ∈ linesOf raw) : IsLine l := by
  obtain ⟨hl, hne⟩ := List.mem_filter.mp h
  obtain ⟨piece, hpiece, rfl⟩ := List.mem_map.mp hl
  obtain ⟨-, -, -, -, -, hnone⟩ := Pieces.mem_splitOnP.mp hpiece
  exact ⟨by simpa using hne, Text.strip_strip piece, fun c hc => hnone c (Text.mem_of_mem_strip hc)⟩

/-- Lines that are joined are found again. -/
theorem linesOf_intercalate {ls : List (List Char)} (hne : ls ≠ []) (h : ∀ l ∈ ls, IsLine l) :
    linesOf (['\n'].intercalate ls) = ls := by
  rw [linesOf, Pieces.splitOnP_intercalate (by decide) hne fun l hl => (h l hl).oneLine]
  have hstrip : ls.map Text.strip = ls :=
    (List.map_congr_left (g := id) fun l hl => (h l hl).stripped).trans (List.map_id ls)
  rw [hstrip, List.filter_eq_self]
  intro l hl
  simpa using (h l hl).nonempty

theorem isTargets_iff {x : Json} :
    IsTargets x ↔ ∃ ts, x = targetsJson ts ∧ ts ≠ [] ∧ ∀ t ∈ ts, IsLine t.toList := by
  refine exists_congr fun ts => and_congr_right fun _ => and_congr_right fun _ =>
    forall_congr' fun t => forall_congr' fun _ => ?_
  constructor
  · rintro ⟨⟨hne, hstrip⟩, hline⟩
    exact ⟨by simpa using hne, hstrip, hline⟩
  · rintro ⟨hne, hstrip, hline⟩
    exact ⟨⟨by simpa using hne, hstrip⟩, hline⟩

section
variable {spell : Json → String} {form : Members} {name : String}

/-- The lines of the text area are those that filled it. -/
theorem agree_formTargets {block : Members} (hflat : flatTargets block)
    (h : form.lookup name = targetLines spell block) :
    Agree ((formTargets spell form name).map targetsJson) (block.lookup "targets") ↔
      Holds IsTargets block "targets" := by
  rw [Holds]
  rw [flatTargets] at hflat
  cases hv : block.lookup "targets" with
  | none =>
      have hnone : form.lookup name = none := by rw [h, targetLines, field, hv]; rfl
      refine iff_of_true ?_ fun y h => by cases h
      rw [formTargets, areaText, hnone]
      exact .none
  | some y =>
      rw [hv] at hflat
      cases y with
      | arr xs =>
          simp only [agree_some, Option.some.injEq, forall_eq', Option.map_eq_some_iff,
            isTargets_iff]
          have harea : areaText spell form name =
              ['\n'].intercalate (xs.map (Json.text spell)) := by
            rw [areaText, h, targetLines, field, hv]
            exact String.toList_ofList
          rw [formTargets, harea, targetsOf]
          constructor
          · rintro ⟨_, ⟨ts, hts, rfl⟩, hequal⟩
            refine ⟨ts, Json.equal_texts.mp hequal, ?_⟩
            split at hts
            · cases hts
            · next hne =>
                obtain rfl := Option.some.inj hts
                refine ⟨by simpa using hne, fun t ht => ?_⟩
                obtain ⟨l, hl, rfl⟩ := List.mem_map.mp ht
                rw [String.toList_ofList]
                exact isLine_of_mem_linesOf hl
          · rintro ⟨ts, hxs, hne, hlines⟩
            obtain rfl := Json.arr.inj hxs
            have htexts : (ts.map Json.str).map (Json.text spell) = ts.map String.toList := by
              rw [List.map_map]
              rfl
            have hfound : linesOf (['\n'].intercalate (ts.map String.toList)) =
                ts.map String.toList := by
              refine linesOf_intercalate (by simpa using hne) fun l hl => ?_
              obtain ⟨t, ht, rfl⟩ := List.mem_map.mp hl
              exact hlines t ht
            have hback : (ts.map String.toList).map String.ofList = ts := by
              rw [List.map_map]
              exact (List.map_congr_left (g := id) fun t _ => String.ofList_toList).trans
                (List.map_id ts)
            refine ⟨_, ⟨ts, ?_, rfl⟩, .refl _⟩
            rw [htexts, hfound, if_neg (by simpa using hne), hback]
      | null | bool _ | int _ | float _ | str _ | obj _ => cases hflat

end

/-! ### The unmodified form -/

section
variable {spell : Json → String} {cfg : Members} {name : String} {v : Option Json}

/-- The entries of the unmodified form. -/
def formEntries (spell : Json → String) (cfg : Members) : List (String × Option Json) :=
  formValues spell cfg ++ markers (desiredConfigToFormValues spell cfg)

theorem unmodifiedForm_eq : unmodifiedForm spell cfg = given (formEntries spell cfg) :=
  (given_append _ _).symm

/-- The names do not depend on the configuration. -/
theorem map_fst_formEntries :
    (formEntries spell cfg).map Prod.fst = (formEntries (fun _ => "") []).map Prod.fst := rfl

theorem keyed_formEntries : Rows.Keyed Prod.fst (formEntries spell cfg) := by
  rw [Rows.Keyed, map_fst_formEntries]
  decide +kernel

theorem keyed_formValues : Rows.Keyed Prod.fst (formValues spell cfg) := by
  have hall : Rows.Keyed Prod.fst (formEntries spell cfg) := keyed_formEntries
  rw [Rows.Keyed, formEntries, List.map_append] at hall
  exact hall.of_append_left

theorem lookup_form (h : (name, v) ∈ formValues spell cfg) :
    (unmodifiedForm spell cfg).lookup name = v := by
  rw [unmodifiedForm_eq]
  exact lookup_given keyed_formEntries (List.mem_append_left _ h)

theorem lookup_marker (hname : name ∈ booleanFields) (h : (name, v) ∈ formValues spell cfg) :
    (unmodifiedForm spell cfg).lookup (name ++ "_present") =
      if v.isSome then some (.str "1") else none := by
  rw [unmodifiedForm_eq]
  refine lookup_given keyed_formEntries (List.mem_append_right _ ?_)
  have hvalue : (desiredConfigToFormValues spell cfg).lookup name = v :=
    lookup_given keyed_formValues h
  exact List.mem_map.mpr ⟨name, hname, by rw [hvalue]⟩

/-- A checkbox of the unmodified form. -/
theorem exists_flagField (hname : name ∈ booleanFields)
    (h : (name, v.map truth) ∈ formValues spell cfg) :
    (∃ b, formFlag spell (unmodifiedForm spell cfg) name = .ok b ∧ Agree (b.map .bool) v) ↔
      ∀ x, v = some x → IsFlag x := by
  have hmarker := lookup_marker hname h
  rw [Option.isSome_map] at hmarker
  exact exists_formFlag (lookup_form h) hmarker

/-- The fields of the loops. -/
theorem lookup_loop {block : Members} {start sub : String} {subkeys : List String}
    {f : Json → Json}
    (hloop : ∀ e ∈ valuesOf block start subkeys f, e ∈ formValues spell cfg)
    (hsub : sub ∈ subkeys) :
    (unmodifiedForm spell cfg).lookup (start ++ sub) = (block.lookup sub).map f :=
  lookup_form (hloop _ (List.mem_map.mpr ⟨sub, hsub, rfl⟩))

theorem lookup_internet {sub : String} (hsub : sub ∈ internetIntSubkeys) :
    (unmodifiedForm spell cfg).lookup ("cfg_internet_" ++ sub) =
      (blockOf cfg "internet").lookup sub := by
  rw [lookup_loop (fun e he => ?_) hsub, Option.map_id, id]
  simp only [formValues, List.mem_append, he, or_true, true_or]

theorem lookup_device {sub : String} (hsub : sub ∈ deviceIntSubkeys) :
    (unmodifiedForm spell cfg).lookup ("cfg_device_" ++ sub) =
      (blockOf cfg "device").lookup sub := by
  rw [lookup_loop (fun e he => ?_) hsub, Option.map_id, id]
  simp only [formValues, List.mem_append, he, or_true, true_or]

theorem lookup_power {sub : String} (hsub : sub ∈ powerIntSubkeys) :
    (unmodifiedForm spell cfg).lookup ("cfg_power_" ++ sub) =
      (blockOf cfg "power").lookup sub := by
  rw [lookup_loop (fun e he => ?_) hsub, Option.map_id, id]
  simp only [formValues, List.mem_append, he, or_true, true_or]

theorem lookup_text {sub : String} (hsub : sub ∈ notificationsStrSubkeys) :
    (unmodifiedForm spell cfg).lookup ("cfg_notifications_" ++ sub) =
      (blockOf cfg "notifications").lookup sub := by
  rw [lookup_loop (fun e he => ?_) hsub, Option.map_id, id]
  simp only [formValues, List.mem_append, he, or_true]

theorem mem_flags {sub : String} (hsub : sub ∈ notificationsBoolSubkeys) :
    ("cfg_notifications_" ++ sub, ((blockOf cfg "notifications").lookup sub).map truth) ∈
      formValues spell cfg := by
  have hmem : ("cfg_notifications_" ++ sub,
      ((blockOf cfg "notifications").lookup sub).map truth) ∈
        valuesOf (blockOf cfg "notifications") "cfg_notifications_" notificationsBoolSubkeys
          truth := List.mem_map.mpr ⟨sub, hsub, rfl⟩
  simp only [formValues, List.mem_append, hmem, or_true, true_or]

end

/-! ### One block -/

section
variable {spell : Json → String} {form block : Members}

/-- Objects are equal when one is given the values of the other. -/
theorem equal_given {entries : List (String × Option Json)}
    (hkeyed : Rows.Keyed Prod.fst entries) (honly : ∀ m ∈ block, m.1 ∈ entries.map Prod.fst) :
    Json.Equal (.obj (given entries)) (.obj block) ↔
      ∀ e ∈ entries, Agree e.2 (block.lookup e.1) := by
  rw [Json.equal_obj]
  constructor
  · intro h e he
    have hkey := h e.1
    rwa [lookup_given hkeyed he] at hkey
  · intro h k
    by_cases hk : k ∈ entries.map Prod.fst
    · obtain ⟨e, he, rfl⟩ := List.mem_map.mp hk
      rw [lookup_given hkeyed he]
      exact h e he
    · have hnone : block.lookup k = none := by
        rw [List.lookup_eq_none_iff]
        intro m hm
        rw [bne_iff_ne]
        rintro rfl
        exact hk (honly m hm)
      rw [lookup_given_of_notMem hk, hnone]
      exact .none

/-- Equal objects are empty together. -/
theorem equal_nil {ms : Members} (h : Json.Equal (.obj ms) (.obj block)) :
    ms = [] ↔ block = [] := by
  have hempty : ∀ {a b : Members}, (∀ k, (a.lookup k).isSome → (b.lookup k).isSome) → b = [] →
      a = [] := by
    rintro (_ | ⟨m, a⟩) b hkeys rfl
    · rfl
    · have hm := hkeys m.1 (by rw [List.lookup_cons_self]; rfl)
      cases hm
  rw [Json.equal_obj] at h
  constructor
  · refine hempty fun k hk => ?_
    have hrel := h k
    revert hrel hk
    generalize ms.lookup k = x
    generalize block.lookup k = y
    rintro hk ⟨⟩
    · rfl
    · cases hk
  · refine hempty fun k hk => ?_
    have hrel := h k
    revert hrel hk
    generalize ms.lookup k = x
    generalize block.lookup k = y
    rintro hk ⟨⟩
    · rfl
    · cases hk

/-- A traversal of some keys whose answers agree with a block. -/
theorem exists_readKeys {read : String → Except FormError (Option Json)} {P : Json → Prop}
    {subkeys : List String}
    (h : ∀ sub ∈ subkeys, (∃ x, read sub = .ok x ∧ Agree x (block.lookup sub)) ↔
      Holds P block sub) :
    (∃ es, readKeys subkeys read = .ok es ∧ ∀ e ∈ es, Agree e.2 (block.lookup e.1)) ↔
      ∀ sub ∈ subkeys, Holds P block sub := by
  constructor
  · rintro ⟨es, hes, hagree⟩ sub hsub
    obtain ⟨e, he, hread⟩ := exists_mem_of_mapM hes hsub
    obtain ⟨x, hx, he'⟩ := bind_eq_ok hread
    obtain rfl := Except.ok.inj he'
    exact (h sub hsub).mp ⟨x, hx, hagree _ he⟩
  · intro hholds
    have hread : ∀ sub ∈ subkeys, ∃ e, (do return (sub, ← read sub)) =
        (.ok e : Except FormError (String × Option Json)) ∧ Agree e.2 (block.lookup e.1) := by
      intro sub hsub
      obtain ⟨x, hx, hagree⟩ := (h sub hsub).mpr (hholds sub hsub)
      exact ⟨(sub, x), by rw [hx]; rfl, hagree⟩
    obtain ⟨es, hes⟩ := exists_mapM fun sub hsub => (hread sub hsub).imp fun e he => he.1
    refine ⟨es, hes, fun e he => ?_⟩
    obtain ⟨sub, hsub, hsome⟩ := mem_of_mapM hes he
    obtain ⟨e', he', hagree⟩ := hread sub hsub
    obtain rfl := Except.ok.inj (hsome.symm.trans he')
    exact hagree

theorem map_fst_readKeys {read : String → Except FormError (Option Json)} {subkeys : List String}
    {es : List (String × Option Json)} (h : readKeys subkeys read = .ok es) :
    es.map Prod.fst = subkeys := by
  refine map_mapM (fun sub e he => ?_) h
  obtain ⟨x, -, he⟩ := bind_eq_ok he
  rw [← Except.ok.inj he]

/-- What is said of a value that is converted after it is read. -/
theorem exists_map {α : Type} {x : Except FormError (Option α)} {f : α → Json} {v : Option Json} :
    (∃ y, x.map (Option.map f) = .ok y ∧ Agree y v) ↔ ∃ a, x = .ok a ∧ Agree (a.map f) v := by
  cases x with
  | error e =>
      constructor
      · rintro ⟨_, h, -⟩
        cases h
      · rintro ⟨_, h, -⟩
        cases h
  | ok a =>
      constructor
      · rintro ⟨_, h, hagree⟩
        obtain rfl := Except.ok.inj h
        exact ⟨a, rfl, hagree⟩
      · rintro ⟨b, h, hagree⟩
        obtain rfl := Except.ok.inj h
        exact ⟨_, rfl, hagree⟩

theorem exists_formInts {start title : String} {subkeys : List String}
    (h : ∀ sub ∈ subkeys, form.lookup (start ++ sub) = block.lookup sub) :
    (∃ ints, formInts spell form start title subkeys = .ok ints ∧
        ∀ e ∈ ints, Agree e.2 (block.lookup e.1)) ↔ ∀ sub ∈ subkeys, Holds IsWhole block sub := by
  refine exists_readKeys fun sub hsub => ?_
  rw [exists_map, exists_formInt (h sub hsub), Holds]

/-- A watchdog block is read back when its target and its numbers are. -/
theorem exists_buildWatchdogBlock {start title : String} {subkeys : List String}
    {targetsField targetField : Option String}
    (hlookup : ∀ sub ∈ subkeys, form.lookup (start ++ sub) = block.lookup sub)
    (hnodup : ("targets" :: "target" :: subkeys).Nodup)
    (honly : ∀ m ∈ block, m.1 ∈ "targets" :: "target" :: subkeys) :
    (∃ b, buildWatchdogBlock spell form start title subkeys targetsField targetField = .ok b ∧
        Json.Equal (.obj b) (.obj block)) ↔
      Agree ((targetsField.bind (formTargets spell form)).map targetsJson)
          (block.lookup "targets") ∧
        Agree ((targetField.bind (formStr spell form)).map .str) (block.lookup "target") ∧
        ∀ sub ∈ subkeys, Holds IsWhole block sub := by
  rw [← exists_formInts hlookup, buildWatchdogBlock, exists_bind_and]
  have hgiven : ∀ {ints : List (String × Option Json)} {x y : Option Json},
      formInts spell form start title subkeys = .ok ints →
      (Json.Equal (.obj (given (("targets", x) :: ("target", y) :: ints))) (.obj block) ↔
        Agree x (block.lookup "targets") ∧ Agree y (block.lookup "target") ∧
          ∀ e ∈ ints, Agree e.2 (block.lookup e.1)) := by
    intro ints x y hints
    have hkeys : (("targets", x) :: ("target", y) :: ints).map Prod.fst =
        "targets" :: "target" :: subkeys := by
      rw [List.map_cons, List.map_cons, map_fst_readKeys hints]
    rw [equal_given (by rw [Rows.Keyed, hkeys]; exact hnodup) (by rw [hkeys]; exact honly),
      List.forall_mem_cons, List.forall_mem_cons]
  constructor
  · rintro ⟨ints, hints, b, hb, hequal⟩
    obtain rfl := Except.ok.inj hb
    obtain ⟨htargets, htarget, hagree⟩ := (hgiven hints).mp hequal
    exact ⟨htargets, htarget, ints, hints, hagree⟩
  · rintro ⟨htargets, htarget, ints, hints, hagree⟩
    exact ⟨ints, hints, _, rfl, (hgiven hints).mpr ⟨htargets, htarget, hagree⟩⟩

/-- A key that a block may not have. -/
theorem agree_missing {key : String} {allowed : List String} (hkey : key ∉ allowed)
    (honly : ∀ m ∈ block, m.1 ∈ allowed) : Agree none (block.lookup key) := by
  have hnone : block.lookup key = none := by
    rw [List.lookup_eq_none_iff]
    intro m hm
    rw [bne_iff_ne]
    rintro rfl
    exact hkey (honly m hm)
  rw [hnone]
  exact .none

end

/-! ### The blocks of a configuration -/

section
variable {spell : Json → String} {cfg : Members}

/-- The internet block, from its fields. -/
def readInternet (spell : Json → String) (form : Members) : Except FormError Members :=
  buildWatchdogBlock spell form "cfg_internet_" "Internet" internetIntSubkeys
    (some "cfg_internet_targets") none

@[inherit_doc readInternet]
def readDevice (spell : Json → String) (form : Members) : Except FormError Members :=
  buildWatchdogBlock spell form "cfg_device_" "Device" deviceIntSubkeys none
    (some "cfg_device_target")

theorem exists_readInternet
    (honly : ∀ m ∈ blockOf cfg "internet", m.1 ∈ "targets" :: internetIntSubkeys)
    (hflat : flatTargets (blockOf cfg "internet")) :
    (∃ b, readInternet spell (unmodifiedForm spell cfg) = .ok b ∧
        Json.Equal (.obj b) (.obj (blockOf cfg "internet"))) ↔
      InternetKept (blockOf cfg "internet") := by
  have htargets : (unmodifiedForm spell cfg).lookup "cfg_internet_targets" =
      targetLines spell (blockOf cfg "internet") := lookup_form (by simp [formValues])
  have hmissing : Agree none ((blockOf cfg "internet").lookup "target") :=
    agree_missing (by decide) honly
  rw [readInternet, exists_buildWatchdogBlock (fun _ => lookup_internet) (by decide)
    fun m hm => ?_]
  · rw [Option.bind_some, Option.bind_none, agree_formTargets hflat htargets]
    constructor
    · rintro ⟨htargets, -, hints⟩
      exact ⟨htargets, hints⟩
    · rintro ⟨htargets, hints⟩
      exact ⟨htargets, hmissing, hints⟩
  · rcases List.mem_cons.mp (honly m hm) with h | h
    · exact h ▸ List.mem_cons_self
    · exact List.mem_cons_of_mem _ (List.mem_cons_of_mem _ h)

theorem exists_readDevice
    (honly : ∀ m ∈ blockOf cfg "device", m.1 ∈ "target" :: deviceIntSubkeys) :
    (∃ b, readDevice spell (unmodifiedForm spell cfg) = .ok b ∧
        Json.Equal (.obj b) (.obj (blockOf cfg "device"))) ↔
      DeviceKept (blockOf cfg "device") := by
  have htarget : (unmodifiedForm spell cfg).lookup "cfg_device_target" =
      (blockOf cfg "device").lookup "target" := lookup_form (by simp [formValues])
  have hmissing : Agree none ((blockOf cfg "device").lookup "targets") :=
    agree_missing (by decide) honly
  rw [readDevice, exists_buildWatchdogBlock (fun _ => lookup_device) (by decide)
    fun m hm => List.mem_cons_of_mem _ (honly m hm)]
  rw [Option.bind_some, Option.bind_none, agree_formStr htarget]
  constructor
  · rintro ⟨-, htarget, hints⟩
    exact ⟨htarget, hints⟩
  · rintro ⟨htarget, hints⟩
    exact ⟨hmissing, htarget, hints⟩

theorem exists_buildPowerBlock
    (honly : ∀ m ∈ blockOf cfg "power", m.1 ∈ "enabled" :: powerIntSubkeys) :
    (∃ b, buildPowerBlock spell (unmodifiedForm spell cfg) = .ok b ∧
        Json.Equal (.obj b) (.obj (blockOf cfg "power"))) ↔ PowerKept (blockOf cfg "power") := by
  have hmem : ("cfg_power_enabled", ((blockOf cfg "power").lookup "enabled").map truth) ∈
      formValues spell cfg := by simp [formValues]
  have henabled := exists_flagField (by decide) hmem
  have hints : (∃ ints, formInts spell (unmodifiedForm spell cfg) "cfg_power_" "Power"
        powerIntSubkeys = .ok ints ∧ ∀ e ∈ ints, Agree e.2 ((blockOf cfg "power").lookup e.1)) ↔
      ∀ sub ∈ powerIntSubkeys, Holds IsWhole (blockOf cfg "power") sub :=
    exists_formInts fun _ => lookup_power
  have hgiven : ∀ {ints : List (String × Option Json)} {x : Option Json},
      formInts spell (unmodifiedForm spell cfg) "cfg_power_" "Power" powerIntSubkeys = .ok ints →
      (Json.Equal (.obj (given (("enabled", x) :: ints))) (.obj (blockOf cfg "power")) ↔
        Agree x ((blockOf cfg "power").lookup "enabled") ∧
          ∀ e ∈ ints, Agree e.2 ((blockOf cfg "power").lookup e.1)) := by
    intro ints x hints
    have hkeys : (("enabled", x) :: ints).map Prod.fst = "enabled" :: powerIntSubkeys := by
      rw [List.map_cons, map_fst_readKeys hints]
    rw [equal_given (by rw [Rows.Keyed, hkeys]; decide) (by rw [hkeys]; exact honly),
      List.forall_mem_cons]
  rw [buildPowerBlock, exists_bind_and]
  simp only [exists_bind_and]
  constructor
  · rintro ⟨enabled, hflag, ints, hread, b, hb, hequal⟩
    obtain rfl := Except.ok.inj hb
    obtain ⟨hagree, hall⟩ := (hgiven hread).mp hequal
    exact ⟨henabled.mp ⟨enabled, hflag, hagree⟩, hints.mp ⟨ints, hread, hall⟩⟩
  · rintro ⟨hflag, hwhole⟩
    obtain ⟨enabled, hflag, hagree⟩ := henabled.mpr hflag
    obtain ⟨ints, hread, hall⟩ := hints.mpr hwhole
    exact ⟨enabled, hflag, ints, hread, _, rfl, (hgiven hread).mpr ⟨hagree, hall⟩⟩

/-- The field of the secret is never filled. -/
theorem strippedField_secret : strippedField (unmodifiedForm spell cfg)
    ("cfg_notifications_" ++ notificationsSecretSubkey) = .ok [] := by
  have hnone : (unmodifiedForm spell cfg).lookup
      ("cfg_notifications_" ++ notificationsSecretSubkey) = none := by
    rw [unmodifiedForm_eq]
    refine lookup_given_of_notMem ?_
    rw [map_fst_formEntries]
    decide +kernel
  rw [strippedField, field, hnone]
  rfl

/-- A secret that is kept is the one that was there. -/
theorem agree_keptSecret {block : Members} :
    Agree (keptSecret (.obj block)) (block.lookup notificationsSecretSubkey) ↔
      Holds (·.truthy = true) block notificationsSecretSubkey := by
  rw [keptSecret, field, Holds]
  cases block.lookup notificationsSecretSubkey with
  | none => exact iff_of_true .none fun x h => by cases h
  | some x =>
      simp only [Option.getD_some, Option.some.injEq, forall_eq', agree_some]
      split
      · next htruthy => exact iff_of_true ⟨x, rfl, .refl x⟩ htruthy
      · next hfalse =>
          refine iff_of_false ?_ hfalse
          rintro ⟨_, h, -⟩
          cases h

/-- The configuration that is there is the one that filled the form. -/
theorem keptSecret_field : keptSecret (field cfg "notifications") =
    keptSecret (.obj (blockOf cfg "notifications")) := by
  rw [blockOf]
  cases field cfg "notifications" <;> rfl

theorem exists_flags : (∃ flags, readKeys notificationsBoolSubkeys (fun sub =>
        (formFlag spell (unmodifiedForm spell cfg) ("cfg_notifications_" ++ sub)).map
          (·.map .bool)) = .ok flags ∧
      ∀ e ∈ flags, Agree e.2 ((blockOf cfg "notifications").lookup e.1)) ↔
    ∀ sub ∈ notificationsBoolSubkeys, Holds IsFlag (blockOf cfg "notifications") sub := by
  refine exists_readKeys fun sub hsub => ?_
  have hname : "cfg_notifications_" ++ sub ∈ booleanFields :=
    List.mem_cons_of_mem _ (List.mem_cons_of_mem _ (List.mem_map_of_mem hsub))
  rw [exists_map, exists_flagField hname (mem_flags hsub), Holds]

theorem exists_buildNotificationsBlock
    (honly : ∀ m ∈ blockOf cfg "notifications", m.1 ∈ notificationsBoolSubkeys ++
      notificationsStrSubkeys ++ [notificationsSecretSubkey]) :
    (∃ b, buildNotificationsBlock spell (unmodifiedForm spell cfg) (field cfg "notifications") =
        .ok b ∧ Json.Equal (.obj b) (.obj (blockOf cfg "notifications"))) ↔
      NotificationsKept (blockOf cfg "notifications") := by
  have htexts : (∀ e ∈ notificationsStrSubkeys.map fun sub => (sub, (formStr spell
        (unmodifiedForm spell cfg) ("cfg_notifications_" ++ sub)).map Json.str),
      Agree e.2 ((blockOf cfg "notifications").lookup e.1)) ↔
      ∀ sub ∈ notificationsStrSubkeys, Holds IsText (blockOf cfg "notifications") sub := by
    rw [List.forall_mem_map]
    exact forall_congr' fun sub => forall_congr' fun hsub => agree_formStr (lookup_text hsub)
  have hgiven : ∀ {flags : List (String × Option Json)} {x : Option Json},
      readKeys notificationsBoolSubkeys (fun sub =>
        (formFlag spell (unmodifiedForm spell cfg) ("cfg_notifications_" ++ sub)).map
          (·.map .bool)) = .ok flags →
      (Json.Equal (.obj (given (flags ++ notificationsStrSubkeys.map (fun sub => (sub,
          (formStr spell (unmodifiedForm spell cfg) ("cfg_notifications_" ++ sub)).map Json.str)) ++
          [(notificationsSecretSubkey, x)]))) (.obj (blockOf cfg "notifications")) ↔
        (∀ e ∈ flags, Agree e.2 ((blockOf cfg "notifications").lookup e.1)) ∧
          (∀ sub ∈ notificationsStrSubkeys, Holds IsText (blockOf cfg "notifications") sub) ∧
          Agree x ((blockOf cfg "notifications").lookup notificationsSecretSubkey)) := by
    intro flags x hflags
    have hkeys : (flags ++ notificationsStrSubkeys.map (fun sub => (sub,
        (formStr spell (unmodifiedForm spell cfg) ("cfg_notifications_" ++ sub)).map Json.str)) ++
        [(notificationsSecretSubkey, x)]).map Prod.fst = notificationsBoolSubkeys ++
          notificationsStrSubkeys ++ [notificationsSecretSubkey] := by
      rw [List.map_append, List.map_append, map_fst_readKeys hflags]
      rfl
    rw [equal_given (by rw [Rows.Keyed, hkeys]; decide) (by rw [hkeys]; exact honly),
      List.forall_mem_append, List.forall_mem_append, htexts, List.forall_mem_singleton, and_assoc]
  rw [buildNotificationsBlock, exists_bind_and]
  simp only [strippedField_secret, ok_bind, keptSecret_field]
  constructor
  · rintro ⟨flags, hread, b, hb, hequal⟩
    obtain rfl := Except.ok.inj hb
    obtain ⟨hflags, htexts, hsecret⟩ := (hgiven hread).mp hequal
    exact ⟨exists_flags.mp ⟨flags, hread, hflags⟩, htexts, agree_keptSecret.mp hsecret⟩
  · rintro ⟨hflags, htexts, hsecret⟩
    obtain ⟨flags, hread, hflags⟩ := exists_flags.mpr hflags
    exact ⟨flags, hread, _, rfl, (hgiven hread).mpr ⟨hflags, htexts, agree_keptSecret.mpr hsecret⟩⟩

theorem blockOf_eq_nil {key : String} (h : cfg.lookup key = none ∨ cfg.lookup key = some .null) :
    blockOf cfg key = [] := by
  rcases h with h | h
  · rw [blockOf, field, h]
    rfl
  · rw [blockOf, field, h]
    rfl

theorem blockOf_eq {key : String} {block : Members} (h : cfg.lookup key = some (.obj block)) :
    blockOf cfg key = block := by
  rw [blockOf, field, h]
  rfl

/-- A block is read back when it is missing, or has members that are. -/
theorem exists_nonEmptyBlock {key : String} {build : Except FormError Members}
    {P : Members → Prop}
    (hbuild : (∃ b, build = .ok b ∧ Json.Equal (.obj b) (.obj (blockOf cfg key))) ↔
      P (blockOf cfg key))
    (hempty : P [])
    (hshape : cfg.lookup key = none ∨ cfg.lookup key = some .null ∨
      ∃ block, cfg.lookup key = some (.obj block)) :
    (∃ b, build = .ok b ∧ Agree (nonEmptyBlock b) (cfg.lookup key)) ↔
      Holds (IsBlock P) cfg key := by
  rw [Holds]
  rcases hshape with h | h | ⟨block, h⟩
  · have hblock := blockOf_eq_nil (.inl h)
    rw [h]
    refine iff_of_true ?_ nofun
    rw [hblock] at hbuild
    obtain ⟨b, hb, hequal⟩ := hbuild.mpr hempty
    refine ⟨b, hb, ?_⟩
    rw [(equal_nil hequal).mpr rfl]
    exact .none
  · rw [h]
    refine iff_of_false ?_ ?_
    · rintro ⟨b, -, hagree⟩
      obtain ⟨x, hx, hequal⟩ := agree_some.mp hagree
      rw [nonEmptyBlock] at hx
      split at hx
      · cases hx
      · obtain rfl := Option.some.inj hx
        cases hequal
    · intro hall
      obtain ⟨_, h, -⟩ := hall _ rfl
      cases h
  · have hblock := blockOf_eq h
    rw [hblock] at hbuild
    rw [h]
    simp only [Option.some.injEq, forall_eq', agree_some]
    constructor
    · rintro ⟨b, hb, x, hx, hequal⟩
      rw [nonEmptyBlock] at hx
      split at hx
      · cases hx
      · next hne =>
          obtain rfl := Option.some.inj hx
          refine ⟨block, rfl, fun hnil => hne ?_, hbuild.mp ⟨b, hb, hequal⟩⟩
          rw [(equal_nil hequal).mpr hnil]
          rfl
    · rintro ⟨block', hblock', hne, hP⟩
      obtain rfl := Json.obj.inj hblock'
      obtain ⟨b, hb, hequal⟩ := hbuild.mpr hP
      have hne' : b.isEmpty = false := by
        rw [List.isEmpty_eq_false_iff]
        exact fun hnil => hne ((equal_nil hequal).mp hnil)
      exact ⟨b, hb, _, by rw [nonEmptyBlock, hne']; rfl, hequal⟩

end

/-! ### The configuration -/

section
variable {spell : Json → String} {cfg : Members}

/-- What the test promises. -/
structure Representable (cfg : Members) : Prop where
  keys : ∀ m ∈ cfg, m.1 ∈ allowedDesiredConfigKeys
  shape : ∀ e ∈ representableSubkeys, cfg.lookup e.1 = none ∨ cfg.lookup e.1 = some .null ∨
    ∃ block, cfg.lookup e.1 = some (.obj block)
  subkeys : ∀ e ∈ representableSubkeys, ∀ m ∈ blockOf cfg e.1, m.1 ∈ e.2
  flat : flatTargets (blockOf cfg "internet")

theorem mem_of_onlyKeys {block : Members} {allowed : List String} (h : onlyKeys block allowed) :
    ∀ m ∈ block, m.1 ∈ allowed := by
  intro m hm
  exact of_decide_eq_true (List.all_eq_true.mp h m hm)

theorem representable_of_test (h : isFormRepresentable (.obj cfg)) : Representable cfg := by
  rw [isFormRepresentable, Bool.or_eq_true, Bool.and_eq_true] at h
  rcases h with hempty | ⟨hkeys, hblocks⟩
  · obtain rfl := List.isEmpty_iff.mp hempty
    exact ⟨List.forall_mem_nil _, fun _ _ => .inl rfl, fun _ _ => List.forall_mem_nil _, rfl⟩
  · have hblock : ∀ e ∈ representableSubkeys, (cfg.lookup e.1 = none ∨ cfg.lookup e.1 = some .null ∨
        ∃ block, cfg.lookup e.1 = some (.obj block)) ∧ (∀ m ∈ blockOf cfg e.1, m.1 ∈ e.2) ∧
        (e.1 = "internet" → flatTargets (blockOf cfg e.1)) := by
      intro e he
      have hcheck := List.all_eq_true.mp hblocks e he
      simp only [field] at hcheck
      cases hv : cfg.lookup e.1 with
      | none =>
          rw [blockOf_eq_nil (.inl hv)]
          exact ⟨.inl rfl, List.forall_mem_nil _, fun _ => rfl⟩
      | some x =>
          rw [hv] at hcheck
          cases x with
          | null =>
              rw [blockOf_eq_nil (.inr hv)]
              exact ⟨.inr (.inl rfl), List.forall_mem_nil _, fun _ => rfl⟩
          | obj block =>
              obtain ⟨honly, hflat⟩ := Bool.and_eq_true_iff.mp hcheck
              rw [blockOf_eq hv]
              refine ⟨.inr (.inr ⟨block, rfl⟩), mem_of_onlyKeys honly, fun hkey => ?_⟩
              rw [hkey] at hflat
              exact hflat
          | bool _ | int _ | float _ | str _ | arr _ => cases hcheck
    exact ⟨mem_of_onlyKeys hkeys, fun e he => (hblock e he).1, fun e he => (hblock e he).2.1,
      (hblock ("internet", _) List.mem_cons_self).2.2 rfl⟩

/-- A choice is read back when it is one of the choices. -/
theorem exists_checkRelay {name : String} {form : Members} {v : Option Json}
    (h : form.lookup name = v) :
    ((∃ u, checkRelay (formStr spell form name) = .ok u) ∧
        Agree ((formStr spell form name).map .str) v) ↔ ∀ x, v = some x → IsChoice x := by
  rw [agree_formStr h]
  constructor
  · rintro ⟨⟨u, hu⟩, htext⟩ x hx
    obtain ⟨s, rfl, hnamed⟩ := htext x hx
    have hagree : Agree ((formStr spell form name).map .str) v := (agree_formStr h).mpr htext
    rw [hx] at hagree
    obtain ⟨_, hread, hequal⟩ := agree_some.mp hagree
    obtain ⟨t, ht, rfl⟩ := Option.map_eq_some_iff.mp hread
    obtain rfl := Json.str.inj (Json.equal_str.mp hequal)
    refine ⟨_, ?_, rfl⟩
    rw [checkRelay, ht] at hu
    by_contra hchoice
    simp [hchoice] at hu
  · intro hchoice
    have htext : ∀ x, v = some x → IsText x := by
      intro x hx
      obtain ⟨s, hs, rfl⟩ := hchoice x hx
      refine ⟨s, rfl, ?_⟩
      simp only [relayRestoreChoices, List.mem_cons, List.not_mem_nil, or_false] at hs
      rcases hs with rfl | rfl | rfl <;> exact ⟨by decide, by decide⟩
    refine ⟨⟨(), ?_⟩, htext⟩
    have hagree : Agree ((formStr spell form name).map .str) v := (agree_formStr h).mpr htext
    rw [checkRelay]
    cases hread : formStr spell form name with
    | none => rfl
    | some t =>
        rw [hread] at hagree
        cases v with
        | none => cases hagree
        | some x =>
            obtain ⟨s, hs, rfl⟩ := hchoice x rfl
            obtain ⟨_, hx, hequal⟩ := agree_some.mp hagree
            obtain rfl := Option.some.inj hx
            obtain rfl := Json.str.inj (Json.equal_str.mp hequal)
            simp [hs]

/-- A device name that was accepted is accepted again. -/
theorem exists_checkDeviceName {name : String} {form : Members} {v : Option Json}
    (h : form.lookup name = v) (hshort : ∀ s, v = some (.str s) → s.length ≤ 120) :
    ((∃ u, checkDeviceName (formStr spell form name) = .ok u) ∧
        Agree ((formStr spell form name).map .str) v) ↔ ∀ x, v = some x → IsText x := by
  rw [agree_formStr h, and_iff_right_of_imp]
  intro htext
  have hagree : Agree ((formStr spell form name).map .str) v := (agree_formStr h).mpr htext
  refine ⟨(), ?_⟩
  rw [checkDeviceName]
  cases hread : formStr spell form name with
  | none => rfl
  | some t =>
      rw [hread] at hagree
      cases v with
      | none => cases hagree
      | some x =>
          obtain ⟨_, hx, hequal⟩ := agree_some.mp hagree
          obtain rfl := Option.some.inj hx
          obtain rfl := Json.equal_str.mp hequal
          simpa using hshort t rfl

/-- The length of a device name is checked when it is stored. -/
theorem length_of_accepted {mode : Option String} {s : String}
    (h : Setup.checkDesiredConfig (.obj cfg) mode = .ok ())
    (hname : cfg.lookup "device_name" = some (.str s)) : s.length ≤ 120 := by
  have hfield : field cfg "device_name" = .str s := by rw [field, hname]; rfl
  by_contra hlong
  simp only [Setup.checkDesiredConfig, hfield, if_pos (Nat.lt_of_not_le hlong)] at h
  split at h
  · cases h
  · cases h

/-- The keys of what is given are among the names. -/
theorem mem_of_given {entries : List (String × Option Json)} {m : String × Json}
    (h : m ∈ given entries) : m.1 ∈ entries.map Prod.fst := by
  obtain ⟨e, he, hm⟩ := List.mem_filterMap.mp h
  obtain ⟨x, -, rfl⟩ := Option.map_eq_some_iff.mp hm
  exact List.mem_map_of_mem he

/-- The backstop never refuses. -/
theorem checkKeys_given {entries : List (String × Option Json)}
    (h : ∀ k ∈ entries.map Prod.fst, k ∈ allowedDesiredConfigKeys) :
    checkKeys (given entries) = .ok (given entries) := by
  have hnone : ((given entries).map (·.1)).filter (· ∉ allowedDesiredConfigKeys) = [] := by
    rw [List.filter_eq_nil_iff]
    intro k hk
    obtain ⟨m, hm, rfl⟩ := List.mem_map.mp hk
    simpa using h _ (mem_of_given hm)
  rw [checkKeys, hnone]
  rfl

/-- The members of the configuration, from what was read. -/
theorem exists_members (hkeys : ∀ m ∈ cfg, m.1 ∈ allowedDesiredConfigKeys)
    {deviceName relay monitor warmup manual internet device power notifications : Option Json} :
    (∃ cfg', checkKeys (given [("device_name", deviceName), ("relay_restore_behavior", relay),
        ("monitor_interval_seconds", monitor), ("boot_warmup_seconds", warmup),
        ("manual_button_enabled", manual), ("internet", internet), ("device", device),
        ("power", power), ("notifications", notifications)]) = .ok cfg' ∧
        Json.Equal (.obj cfg') (.obj cfg)) ↔
      Agree deviceName (cfg.lookup "device_name") ∧
      Agree relay (cfg.lookup "relay_restore_behavior") ∧
      Agree monitor (cfg.lookup "monitor_interval_seconds") ∧
      Agree warmup (cfg.lookup "boot_warmup_seconds") ∧
      Agree manual (cfg.lookup "manual_button_enabled") ∧
      Agree internet (cfg.lookup "internet") ∧ Agree device (cfg.lookup "device") ∧
      Agree power (cfg.lookup "power") ∧ Agree notifications (cfg.lookup "notifications") := by
  have hnames : ([("device_name", deviceName), ("relay_restore_behavior", relay),
      ("monitor_interval_seconds", monitor), ("boot_warmup_seconds", warmup),
      ("manual_button_enabled", manual), ("internet", internet), ("device", device),
      ("power", power), ("notifications", notifications)] : List (String × Option Json)).map
        Prod.fst = ["device_name", "relay_restore_behavior", "monitor_interval_seconds",
          "boot_warmup_seconds", "manual_button_enabled", "internet", "device", "power",
          "notifications"] := rfl
  rw [checkKeys_given (by rw [hnames]; decide)]
  simp only [Except.ok.injEq, exists_eq_left']
  rw [equal_given (by rw [Rows.Keyed, hnames]; decide) fun m hm => ?_]
  · simp only [List.forall_mem_cons, List.not_mem_nil, IsEmpty.forall_iff, implies_true, and_true]
  · rw [hnames]
    have hallowed := hkeys m hm
    revert hallowed
    generalize m.1 = k
    simp only [allowedDesiredConfigKeys, List.mem_cons, List.not_mem_nil, or_false]
    tauto

/-- What is read from the unmodified form for each key of the configuration. -/
structure ReadsBack (spell : Json → String) (cfg : Members) : Prop where
  deviceName : ((∃ u, checkDeviceName (formStr spell (unmodifiedForm spell cfg) "cfg_device_name") =
      .ok u) ∧ Agree ((formStr spell (unmodifiedForm spell cfg) "cfg_device_name").map .str)
        (cfg.lookup "device_name")) ↔ Holds IsText cfg "device_name"
  relay : ((∃ u, checkRelay (formStr spell (unmodifiedForm spell cfg)
      "cfg_relay_restore_behavior") = .ok u) ∧
      Agree ((formStr spell (unmodifiedForm spell cfg) "cfg_relay_restore_behavior").map .str)
        (cfg.lookup "relay_restore_behavior")) ↔ Holds IsChoice cfg "relay_restore_behavior"
  monitor : (∃ n, formInt spell (unmodifiedForm spell cfg) "cfg_monitor_interval_seconds"
      "Monitor interval" = .ok n ∧ Agree (n.map .int) (cfg.lookup "monitor_interval_seconds")) ↔
    Holds IsWhole cfg "monitor_interval_seconds"
  warmup : (∃ n, formInt spell (unmodifiedForm spell cfg) "cfg_boot_warmup_seconds"
      "Boot warm-up" = .ok n ∧ Agree (n.map .int) (cfg.lookup "boot_warmup_seconds")) ↔
    Holds IsWhole cfg "boot_warmup_seconds"
  manual : (∃ b, formFlag spell (unmodifiedForm spell cfg) "cfg_manual_button_enabled" = .ok b ∧
      Agree (b.map .bool) (cfg.lookup "manual_button_enabled")) ↔
    Holds IsFlag cfg "manual_button_enabled"
  internet : (∃ b, readInternet spell (unmodifiedForm spell cfg) = .ok b ∧
      Agree (nonEmptyBlock b) (cfg.lookup "internet")) ↔ Holds (IsBlock InternetKept) cfg "internet"
  device : (∃ b, readDevice spell (unmodifiedForm spell cfg) = .ok b ∧
      Agree (nonEmptyBlock b) (cfg.lookup "device")) ↔ Holds (IsBlock DeviceKept) cfg "device"
  power : (∃ b, buildPowerBlock spell (unmodifiedForm spell cfg) = .ok b ∧
      Agree (nonEmptyBlock b) (cfg.lookup "power")) ↔ Holds (IsBlock PowerKept) cfg "power"
  notifications : (∃ b, buildNotificationsBlock spell (unmodifiedForm spell cfg)
      (field cfg "notifications") = .ok b ∧ Agree (nonEmptyBlock b) (cfg.lookup "notifications")) ↔
    Holds (IsBlock NotificationsKept) cfg "notifications"

theorem holds_nil {P : Json → Prop} {key : String} : Holds P [] key := nofun

theorem readsBack {mode : Option String}
    (haccepted : Setup.checkDesiredConfig (.obj cfg) mode = .ok ()) (h : Representable cfg) :
    ReadsBack spell cfg where
  deviceName := exists_checkDeviceName (lookup_form (by simp [formValues]))
    fun _ => length_of_accepted haccepted
  relay := exists_checkRelay (lookup_form (by simp [formValues]))
  monitor := exists_formInt (lookup_form (by simp [formValues]))
  warmup := exists_formInt (lookup_form (by simp [formValues]))
  manual := exists_flagField (by decide) (by simp [formValues])
  internet := exists_nonEmptyBlock (exists_readInternet
    (h.subkeys ("internet", "targets" :: internetIntSubkeys) (by simp [representableSubkeys]))
    h.flat) ⟨holds_nil, fun _ _ => holds_nil⟩
    (h.shape ("internet", "targets" :: internetIntSubkeys) (by simp [representableSubkeys]))
  device := exists_nonEmptyBlock (exists_readDevice
    (h.subkeys ("device", "target" :: deviceIntSubkeys) (by simp [representableSubkeys])))
    ⟨holds_nil, fun _ _ => holds_nil⟩
    (h.shape ("device", "target" :: deviceIntSubkeys) (by simp [representableSubkeys]))
  power := exists_nonEmptyBlock (exists_buildPowerBlock
    (h.subkeys ("power", "enabled" :: powerIntSubkeys) (by simp [representableSubkeys])))
    ⟨holds_nil, fun _ _ => holds_nil⟩
    (h.shape ("power", "enabled" :: powerIntSubkeys) (by simp [representableSubkeys]))
  notifications := exists_nonEmptyBlock (exists_buildNotificationsBlock
    (h.subkeys ("notifications", notificationsBoolSubkeys ++ notificationsStrSubkeys ++
      [notificationsSecretSubkey]) (by simp [representableSubkeys])))
    ⟨fun _ _ => holds_nil, fun _ _ => holds_nil, holds_nil⟩
    (h.shape ("notifications", notificationsBoolSubkeys ++ notificationsStrSubkeys ++
      [notificationsSecretSubkey]) (by simp [representableSubkeys]))

/-- **The configurations that come back** from the form. -/
theorem roundTrips_iff {mode : Option String}
    (haccepted : Setup.checkDesiredConfig (.obj cfg) mode = .ok ())
    (htest : isFormRepresentable (.obj cfg)) : RoundTrips spell cfg ↔ Kept cfg := by
  have h := representable_of_test htest
  have hread : ReadsBack spell cfg := readsBack haccepted h
  rw [RoundTrips, buildDesiredConfigFromForm]
  simp only [exists_bind_and, exists_members h.keys]
  constructor
  · rintro ⟨u, hname, u', hchoice, monitor, hmonitor, warmup, hwarmup, manual, hmanual, internet,
      hinternet, device, hdevice, power, hpower, notifications, hnotifications, hall⟩
    obtain ⟨a, b, c, d, e, f, g, i, j⟩ := hall
    exact ⟨hread.deviceName.mp ⟨⟨u, hname⟩, a⟩, hread.relay.mp ⟨⟨u', hchoice⟩, b⟩,
      hread.monitor.mp ⟨monitor, hmonitor, c⟩, hread.warmup.mp ⟨warmup, hwarmup, d⟩,
      hread.manual.mp ⟨manual, hmanual, e⟩, hread.internet.mp ⟨internet, hinternet, f⟩,
      hread.device.mp ⟨device, hdevice, g⟩, hread.power.mp ⟨power, hpower, i⟩,
      hread.notifications.mp ⟨notifications, hnotifications, j⟩⟩
  · intro hkept
    obtain ⟨⟨u, hname⟩, a⟩ := hread.deviceName.mpr hkept.deviceName
    obtain ⟨⟨u', hchoice⟩, b⟩ := hread.relay.mpr hkept.relay
    obtain ⟨monitor, hmonitor, c⟩ := hread.monitor.mpr hkept.monitor
    obtain ⟨warmup, hwarmup, d⟩ := hread.warmup.mpr hkept.warmup
    obtain ⟨manual, hmanual, e⟩ := hread.manual.mpr hkept.manual
    obtain ⟨internet, hinternet, f⟩ := hread.internet.mpr hkept.internet
    obtain ⟨device, hdevice, g⟩ := hread.device.mpr hkept.device
    obtain ⟨power, hpower, i⟩ := hread.power.mpr hkept.power
    obtain ⟨notifications, hnotifications, j⟩ := hread.notifications.mpr hkept.notifications
    exact ⟨u, hname, u', hchoice, monitor, hmonitor, warmup, hwarmup, manual, hmanual, internet,
      hinternet, device, hdevice, power, hpower, notifications, hnotifications,
      a, b, c, d, e, f, g, i, j⟩

end

/-! ### Two configurations -/

/-- A configuration that the form wrote. -/
def writtenConfig : Members :=
  [("device_name", .str "Modem"), ("manual_button_enabled", .bool false),
    ("internet", .obj [("targets", .arr [.str "1.1.1.1", .str "8.8.8.8"]),
      ("cooldown_seconds", .int 600)])]

theorem kept_writtenConfig : Kept writtenConfig := by
  have hmodem : Named "Modem" := ⟨by decide, by decide⟩
  have hline : ∀ t ∈ ["1.1.1.1", "8.8.8.8"], IsLine t.toList := by
    intro t ht
    simp only [List.mem_cons, List.not_mem_nil, or_false] at ht
    rcases ht with rfl | rfl
    · exact ⟨by decide, by decide, by simp [isLineBreak]⟩
    · exact ⟨by decide, by decide, by simp [isLineBreak]⟩
  have htargets : IsTargets (.arr [.str "1.1.1.1", .str "8.8.8.8"]) :=
    isTargets_iff.mpr ⟨_, rfl, List.cons_ne_nil _ _, hline⟩
  have hinternet : InternetKept [("targets", .arr [.str "1.1.1.1", .str "8.8.8.8"]),
      ("cooldown_seconds", .int 600)] := by
    constructor
    · simpa [Holds, List.lookup_cons] using htargets
    · simp [Holds, List.lookup_cons, internetIntSubkeys, IsWhole]
  constructor
  · simpa [Holds, writtenConfig, List.lookup_cons, IsText] using hmodem
  · simp [Holds, writtenConfig, List.lookup_cons]
  · simp [Holds, writtenConfig, List.lookup_cons]
  · simp [Holds, writtenConfig, List.lookup_cons]
  · simp [Holds, writtenConfig, List.lookup_cons, IsFlag]
  · simpa [Holds, writtenConfig, List.lookup_cons, IsBlock] using hinternet
  · simp [Holds, writtenConfig, List.lookup_cons]
  · simp [Holds, writtenConfig, List.lookup_cons]
  · simp [Holds, writtenConfig, List.lookup_cons]

theorem roundTrips_writtenConfig : RoundTrips (fun _ => "") writtenConfig := by
  have haccepted : Setup.checkDesiredConfig (.obj writtenConfig) none = .ok () := by
    decide +kernel
  exact (roundTrips_iff haccepted (by decide +kernel)).mpr kept_writtenConfig

/-- A choice that is null and a block without members. -/
def blankConfig : Members := [("relay_restore_behavior", .null), ("internet", .obj [])]

/-- They are dropped, although the test calls the configuration representable. -/
theorem blankConfig_dropped :
    Setup.checkDesiredConfig (.obj blankConfig) none = .ok () ∧
      isFormRepresentable (.obj blankConfig) ∧
      buildDesiredConfigFromForm (fun _ => "") (unmodifiedForm (fun _ => "") blankConfig)
        blankConfig = .ok [] ∧
      ¬RoundTrips (fun _ => "") blankConfig := by
  have hbuilt : buildDesiredConfigFromForm (fun _ => "")
      (unmodifiedForm (fun _ => "") blankConfig) blankConfig = .ok [] := by decide +kernel
  refine ⟨by decide +kernel, by decide +kernel, hbuilt, ?_⟩
  rintro ⟨cfg', hcfg', hequal⟩
  obtain rfl := Except.ok.inj (hbuilt.symm.trans hcfg')
  exact List.cons_ne_nil _ _ ((equal_nil hequal).mp rfl)

end RebooterHub.ConfigForms
