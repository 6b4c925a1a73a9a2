import RebooterHub.Support.Fallible
import RebooterHub.Watchdog.Mutations

/-!
# Setup — Picker

`services/setup_wizard`: the answers of the mode picker, translated into a device's desired
configuration and the watchdog rule that goes with it.

* `applyPicker` is the translator, one function for each mode.
* `rule_accepted`: what `create_rule` accepts of the rules that it makes.
-/

namespace RebooterHub.Setup
open Watchdog Fallible

/-- `RULE_MARKER`. -/
def ruleMarker : String := "Created by the setup wizard"

/-- `DEFAULT_INTERNET_TARGETS`. -/
def defaultInternetTargets : List String := ["1.1.1.1", "8.8.8.8"]

/-- `PROBE_WINDOW_SECONDS`. -/
def probeWindowSeconds : Int := 30

/-- The text of a `SetupWizardError`, with the values it spells. -/
inductive WizardError where
  | text (message : String)
  /-- `{label} must be a whole number (got {value!r}).` -/
  | notWhole (label value : String)
  /-- `{label} must be between {lo} and {hi} (got {v}).` -/
  | outOfRange (label : String) (lo hi v : Int)
  /-- `The port in {address!r} must be a number.` -/
  | portNotNumber (address : String)
  /-- `The port in {address!r} must be between 1 and 65535.` -/
  | portRange (address : String)
  /-- `Unknown setup mode {mode!r} ...` -/
  | unknownMode (mode : String)
deriving DecidableEq, Repr

/-- The answers that the picker's form posts. -/
structure Answers where
  deviceName : Option String := none
  relayRestoreBehavior : Option String := none
  internetTargets : Option String := none
  watchAddress : Option String := none
  offlineToleranceSeconds : Option String := none
  powerOffSeconds : Option String := none
  postRebootHoldoffSeconds : Option String := none
  cooldownSeconds : Option String := none
  maxCyclesPerHour : Option String := none
deriving DecidableEq, Repr

/-! ### Helpers -/

/-- `_coerce_int`. -/
def coerceInt (value : Option String) (label : String) (default lo hi : Int) :
    Except WizardError Int :=
  let text := Text.strip (value.getD "").toList
  if text.isEmpty then .ok default
  else match Text.int text with
    | none => .error (.notWhole label (value.getD ""))
    | some v => if v < lo ∨ hi < v then .error (.outOfRange label lo hi v) else .ok v

/-- `_clean_name`. -/
def cleanName (a : Answers) : Except WizardError String :=
  let name := Text.strip (a.deviceName.getD "").toList
  if name.isEmpty then .error (.text "Please give the device a friendly name.")
  else if 120 < name.length then
    .error (.text "The device name must be 120 characters or fewer.")
  else .ok (String.ofList name)

/-- `_tolerance_to_threshold`: the tolerance in probe windows, rounded up. -/
def toleranceToThreshold (toleranceSeconds : Int) : Int :=
  max 1 (-(-toleranceSeconds / probeWindowSeconds))

/-- `_wizard_rule_name`. -/
def wizardRuleName (deviceId mode : String) : String :=
  let suffix := if mode = "internet_watchdog" then "internet" else "device"
  "Setup wizard — " ++ suffix ++ " watchdog for " ++ deviceId

/-- The timers of a watchdog mode. -/
structure Timers where
  powerOffSeconds : Int
  postRebootHoldoffSeconds : Int
  cooldownSeconds : Int
  maxCyclesPerHour : Int
deriving DecidableEq, Repr

/-- The answer to "Power-off duration". -/
def powerOff (a : Answers) : Except WizardError Int :=
  coerceInt a.powerOffSeconds "Power-off duration" 5 1 600

/-- `_cycle_action`, of the seconds it is off. -/
def cycleAction (powerOffSeconds : Int) : Json :=
  .obj [("kind", .str "cycle"), ("power_off_seconds", .int powerOffSeconds)]

/-- `_watchdog_timers`. -/
def watchdogTimers (a : Answers) : Except WizardError Timers := do
  let powerOffSeconds ← powerOff a
  let postRebootHoldoffSeconds ←
    coerceInt a.postRebootHoldoffSeconds "Post-reboot hold-off" 180 0 3600
  let cooldownSeconds ← coerceInt a.cooldownSeconds "Cooldown" 600 0 86400
  let maxCyclesPerHour ← coerceInt a.maxCyclesPerHour "Max cycles per hour" 6 1 60
  return { powerOffSeconds, postRebootHoldoffSeconds, cooldownSeconds, maxCyclesPerHour }

/-- The timers, in a block of the desired configuration. -/
def Timers.members (t : Timers) : List (String × Json) :=
  [("power_off_seconds", .int t.powerOffSeconds),
    ("post_reboot_holdoff_seconds", .int t.postRebootHoldoffSeconds),
    ("cooldown_seconds", .int t.cooldownSeconds),
    ("max_cycles_per_hour", .int t.maxCyclesPerHour)]

/-- The answer to "Offline tolerance". -/
def offlineTolerance (a : Answers) : Except WizardError Int :=
  coerceInt a.offlineToleranceSeconds "Offline tolerance" 180 probeWindowSeconds 3600

/-- The line boundaries of `str.splitlines`. -/
def isLineBreak (c : Char) : Bool :=
  let n := c.toNat
  decide (10 ≤ n ∧ n ≤ 13 ∨ 28 ≤ n ∧ n ≤ 30 ∨ n = 0x85 ∨ n = 0x2028 ∨ n = 0x2029)

/-- `_parse_targets`. -/
def parseTargets (raw : Option String) : List String :=
  let text := (raw.getD "").toList.map fun c => if c = ',' then '\n' else c
  (((text.splitOnP isLineBreak).map Text.strip).filter (!·.isEmpty)).map String.ofList

/-- The text is an http or https address. -/
def isWebAddress (text : List Char) : Bool :=
  "http://".toList.isPrefixOf text || "https://".toList.isPrefixOf text

/-- The host and the port of `address.partition(":")`. -/
def hostPart (address : String) : List Char := Text.strip (address.toList.takeWhile (· ≠ ':'))

@[inherit_doc hostPart]
def portPart (address : String) : List Char :=
  Text.strip ((address.toList.dropWhile (· ≠ ':')).drop 1)

/-- `_address_to_probe`. -/
def addressToProbe (address : String) : Except WizardError Json :=
  let ping := .ok (.obj [("kind", .str "ping"), ("host", .str address)])
  if isWebAddress (Text.lower address.toList) then
    .ok (.obj [("kind", .str "http"), ("url", .str address)])
  else if address.toList.count ':' = 1 then
    if (hostPart address).isEmpty || (portPart address).isEmpty then ping
    else match Text.int (portPart address) with
      | none => .error (.portNotNumber address)
      | some n =>
        if n < 1 ∨ 65535 < n then .error (.portRange address)
        else .ok (.obj [("kind", .str "tcp"), ("host", .str (String.ofList (hostPart address))),
          ("port", .int n)])
  else ping

/-! ### The modes -/

/-- A `rule_payload`. -/
structure RulePayload where
  name : String
  probe : Json
  target : Json
  action : Json
  failureThreshold : Int
  cooldownSeconds : Int
  maxCyclesPerHour : Int

/-- What the picker makes of the answers. -/
structure Picked where
  desiredMode : String
  desiredConfig : Json
  rulePayload : Option RulePayload

/-- The desired configuration of a smart switch. -/
def smartPlugConfig (name behavior : String) : Json :=
  .obj [("device_name", .str name), ("relay_restore_behavior", .str behavior)]

/-- The answer to "what should it do after a power outage?". -/
def behavior (a : Answers) : String :=
  let given := a.relayRestoreBehavior.getD ""
  Text.stripped (if given = "" then "restore_previous" else given)

/-- `apply_smart_plug`. -/
def applySmartPlug (a : Answers) : Except WizardError Picked := do
  let name ← cleanName a
  if behavior a ∉ ["restore_previous", "always_on", "always_off"] then
    throw (.text ("Power-restore behaviour must be one of " ++
      "'restore_previous', 'always_on' or 'always_off'."))
  return ⟨"smart_plug", smartPlugConfig name (behavior a), none⟩

/-- The target of a rule for one device. -/
def deviceTarget (deviceId : String) : Json := .obj [("kind", .str "device"), ("id", .str deviceId)]

/-- The rule of a watchdog mode. -/
def rulePayload (deviceId mode : String) (probe : Json) (tolerance : Int) (t : Timers) :
    RulePayload where
  name := wizardRuleName deviceId mode
  probe := probe
  target := deviceTarget deviceId
  action := cycleAction t.powerOffSeconds
  failureThreshold := toleranceToThreshold tolerance
  cooldownSeconds := t.cooldownSeconds
  maxCyclesPerHour := t.maxCyclesPerHour

/-- The desired configuration of "keep my internet alive". -/
def internetConfig (name : String) (targets : List String) (tolerance : Int) (t : Timers) : Json :=
  .obj [("device_name", .str name),
    ("internet", .obj (("targets", .arr (targets.map .str)) ::
      ("failure_threshold_seconds", .int tolerance) :: t.members))]

/-- The probe of "keep my internet alive". -/
def internetProbe (targets : List String) : Json :=
  .obj [("kind", .str "internet"),
    ("targets", .arr (targets.map fun h => .obj [("host", .str h), ("port", .int 53)]))]

/-- The answer to "how do you want us to check?". -/
def targets (a : Answers) : List String :=
  let given := parseTargets a.internetTargets
  if given.isEmpty then defaultInternetTargets else given

/-- `apply_internet_watchdog`. -/
def applyInternetWatchdog (deviceId : String) (a : Answers) : Except WizardError Picked := do
  let name ← cleanName a
  if 10 < (targets a).length then
    throw (.text "Please list at most 10 things to check for internet connectivity.")
  let tolerance ← offlineTolerance a
  let timers ← watchdogTimers a
  return ⟨"internet_watchdog", internetConfig name (targets a) tolerance timers,
    some (rulePayload deviceId "internet_watchdog" (internetProbe (targets a)) tolerance timers)⟩

/-- The desired configuration of "restart one device when it locks up". -/
def deviceConfig (name address : String) (tolerance : Int) (t : Timers) : Json :=
  .obj [("device_name", .str name),
    ("device", .obj (("target", .str address) ::
      ("failure_threshold_seconds", .int tolerance) :: t.members))]

/-- The answer to "what's the address of the thing to watch?". -/
def address (a : Answers) : String := Text.stripped (a.watchAddress.getD "")

/-- `apply_device_watchdog`. -/
def applyDeviceWatchdog (deviceId : String) (a : Answers) : Except WizardError Picked := do
  let name ← cleanName a
  if address a = "" then
    throw (.text ("Please tell us the address of the device to watch " ++
      "(an IP, a hostname, or a web address)."))
  let probe ← addressToProbe (address a)
  let tolerance ← offlineTolerance a
  let timers ← watchdogTimers a
  return ⟨"device_watchdog", deviceConfig name (address a) tolerance timers,
    some (rulePayload deviceId "device_watchdog" probe tolerance timers)⟩

/-- `apply_picker`. -/
def applyPicker (deviceId mode : String) (a : Answers) : Except WizardError Picked :=
  if mode = "smart_plug" then applySmartPlug a
  else if mode = "internet_watchdog" then applyInternetWatchdog deviceId a
  else if mode = "device_watchdog" then applyDeviceWatchdog deviceId a
  else .error (.unknownMode mode)

/-- The inputs of `create_rule` that the route passes: those of `_CREATE_RULE_KEYS`. -/
def RulePayload.inputs (p : RulePayload) (siteId : Json) : RuleInputs where
  name := .str p.name
  probe := p.probe
  target := p.target
  action := p.action
  siteId := siteId
  description := .str ruleMarker
  failureThreshold := .int p.failureThreshold
  recoveryThreshold := .int 2
  windowSeconds := .int probeWindowSeconds
  cooldownSeconds := .int p.cooldownSeconds
  maxRetries := .int 3
  retryDelaySeconds := .int 60
  escalation := .null
  maintenanceWindows := .null

/-! ### What the picker makes -/

/-- A number in the range that its question allows, or the default. -/
theorem coerceInt_bounds {value : Option String} {label : String} {default lo hi v : Int}
    (h : coerceInt value label default lo hi = .ok v) (hdefault : lo ≤ default ∧ default ≤ hi) :
    lo ≤ v ∧ v ≤ hi := by
  rw [coerceInt] at h
  split at h
  · cases h
    exact hdefault
  · split at h
    · cases h
    · split at h
      · cases h
      · cases h
        omega

/-- The timers lie in their ranges. -/
theorem watchdogTimers_cooldown {a : Answers} {t : Timers} (h : watchdogTimers a = .ok t) :
    0 ≤ t.cooldownSeconds ∧ t.cooldownSeconds ≤ 86400 := by
  obtain ⟨powerOffSeconds, -, h⟩ := bind_eq_ok h
  obtain ⟨holdoff, -, h⟩ := bind_eq_ok h
  obtain ⟨cooldown, hcooldown, h⟩ := bind_eq_ok h
  obtain ⟨maxCycles, -, h⟩ := bind_eq_ok h
  cases h
  exact coerceInt_bounds hcooldown (by decide)

/-- A name that is given is short. -/
theorem cleanName_length {a : Answers} {name : String} (h : cleanName a = .ok name) :
    name.length ≤ 120 := by
  rw [cleanName] at h
  split at h
  · cases h
  · split at h
    · cases h
    · next hlength =>
        cases h
        simpa using hlength

/-- A text to watch: there is more to it than white space around it. -/
def Named (text : String) : Prop := text ≠ "" ∧ Text.strip text.toList = text.toList

theorem named_strip {cs : List Char} (h : Text.strip cs ≠ []) :
    Named (String.ofList (Text.strip cs)) :=
  ⟨fun hempty => h (String.ofList_eq_empty_iff.mp hempty),
    by rw [String.toList_ofList, Text.strip_strip]⟩

/-- What is left of the targets is named. -/
theorem parseTargets_named {raw : Option String} {t : String} (h : t ∈ parseTargets raw) :
    Named t := by
  obtain ⟨cs, hcs, rfl⟩ := List.mem_map.mp h
  obtain ⟨hcs, hne⟩ := List.mem_filter.mp hcs
  obtain ⟨line, -, rfl⟩ := List.mem_map.mp hcs
  exact named_strip (by simpa using hne)

theorem targets_named {a : Answers} {t : String} (h : t ∈ targets a) : Named t := by
  rw [targets] at h
  split at h
  · rcases List.mem_cons.mp h with rfl | h
    · exact ⟨by decide, by decide⟩
    · rw [List.mem_singleton.mp h]
      exact ⟨by decide, by decide⟩
  · exact parseTargets_named h

/-- What the picker makes of answers that it accepts. -/
inductive Makes (deviceId : String) (a : Answers) : String → Picked → Prop where
  | smartPlug {name : String} (hname : name.length ≤ 120) :
      Makes deviceId a "smart_plug" ⟨"smart_plug", smartPlugConfig name (behavior a), none⟩
  | internet {name : String} {tolerance : Int} {t : Timers} (hname : name.length ≤ 120)
      (hlength : (targets a).length ≤ 10) (htolerance : offlineTolerance a = .ok tolerance)
      (htimers : watchdogTimers a = .ok t) :
      Makes deviceId a "internet_watchdog"
        ⟨"internet_watchdog", internetConfig name (targets a) tolerance t,
          some (rulePayload deviceId "internet_watchdog" (internetProbe (targets a)) tolerance t)⟩
  | device {name : String} {probe : Json} {tolerance : Int} {t : Timers}
      (hname : name.length ≤ 120) (haddress : Named (address a))
      (hprobe : addressToProbe (address a) = .ok probe)
      (htolerance : offlineTolerance a = .ok tolerance) (htimers : watchdogTimers a = .ok t) :
      Makes deviceId a "device_watchdog"
        ⟨"device_watchdog", deviceConfig name (address a) tolerance t,
          some (rulePayload deviceId "device_watchdog" probe tolerance t)⟩

theorem makes_of_applyPicker {deviceId mode : String} {a : Answers} {picked : Picked}
    (h : applyPicker deviceId mode a = .ok picked) : Makes deviceId a mode picked := by
  rw [applyPicker] at h
  split_ifs at h with hsmart hinternet hdevice
  · subst hsmart
    obtain ⟨name, hname, h⟩ := bind_eq_ok h
    split at h
    · cases h
    · cases h
      exact .smartPlug (cleanName_length hname)
  · subst hinternet
    obtain ⟨name, hname, h⟩ := bind_eq_ok h
    split at h
    · cases h
    · next hlength =>
        obtain ⟨tolerance, htolerance, h⟩ := bind_eq_ok h
        obtain ⟨timers, htimers, h⟩ := bind_eq_ok h
        cases h
        exact .internet (cleanName_length hname) (Nat.le_of_not_lt hlength) htolerance htimers
  · subst hdevice
    obtain ⟨name, hname, h⟩ := bind_eq_ok h
    split at h
    · cases h
    · next haddress =>
        obtain ⟨probe, hprobe, h⟩ := bind_eq_ok h
        obtain ⟨tolerance, htolerance, h⟩ := bind_eq_ok h
        obtain ⟨timers, htimers, h⟩ := bind_eq_ok h
        cases h
        have hnamed : Named (address a) :=
          named_strip fun hnil => haddress (by rw [address, Text.stripped, hnil])
        exact .device (cleanName_length hname) hnamed hprobe htolerance htimers

/-! ### What `create_rule` accepts -/

/-- The form of the ids that `new_id` makes, in a column of 40 characters. -/
structure PlainId (id : String) : Prop where
  nonempty : id ≠ ""
  short : id.length ≤ 40
  noSpace : ∀ c ∈ id.toList, Text.isspace c = false

/-- The answers ask for a rule that `create_rule` accepts: at most a hundred probes in a row may
fail, and the scheme of a web address is written in small letters. -/
structure Fits (mode : String) (a : Answers) : Prop where
  tolerance : mode = "internet_watchdog" ∨ mode = "device_watchdog" →
    ∀ t, offlineTolerance a = .ok t → t ≤ 3000
  scheme : mode = "device_watchdog" → isWebAddress (Text.lower (address a).toList) →
    isWebAddress (address a).toList

theorem PlainId.strip {id : String} (h : PlainId id) : Text.strip id.toList = id.toList :=
  Text.strip_of_ends (fun _ hc => h.noSpace _ (List.mem_of_mem_head? hc))
    fun _ hc => h.noSpace _ (List.mem_of_mem_getLast? hc)

theorem Named.strip_ne_nil {text : String} (h : Named text) : Text.strip text.toList ≠ [] := by
  rw [h.2]
  exact fun hnil => h.1 (String.toList_eq_nil_iff.mp hnil)

/-- A rule's name is its text, before the device. -/
theorem wizardRuleName_named {deviceId : String} (h : PlainId deviceId) (mode : String) :
    Named (wizardRuleName deviceId mode) := by
  have hne : deviceId.toList ≠ [] := fun hnil => h.nonempty (String.toList_eq_nil_iff.mp hnil)
  obtain ⟨pre, hpre, hhead⟩ : ∃ pre,
      (wizardRuleName deviceId mode).toList = pre ++ deviceId.toList ∧ pre.head? = some 'S' := by
    refine ⟨_, String.toList_append .., ?_⟩
    split <;> rfl
  refine ⟨fun hempty => ?_, Text.strip_of_ends (fun c hc => ?_) fun c hc => ?_⟩
  · rw [hempty] at hpre
    exact hne (List.append_eq_nil_iff.mp hpre.symm).2
  · rw [hpre, List.head?_append, hhead] at hc
    cases hc
    decide
  · rw [hpre, List.getLast?_append_of_ne_nil _ hne] at hc
    exact h.noSpace c (List.mem_of_mem_getLast? hc)

theorem wizardRuleName_length {deviceId : String} (h : PlainId deviceId) (mode : String) :
    (wizardRuleName deviceId mode).length ≤ 120 := by
  have hlength : (wizardRuleName deviceId mode).length =
      ("Setup wizard — " ++ (if mode = "internet_watchdog" then "internet" else "device") ++
        " watchdog for ").length + deviceId.length := String.length_append ..
  have hinternet : ("Setup wizard — " ++ "internet" ++ " watchdog for ").length = 37 := by decide
  have hdevice : ("Setup wizard — " ++ "device" ++ " watchdog for ").length = 35 := by decide
  rewrite [hlength]
  split
  · rewrite [hinternet]
    exact (Nat.add_le_add_left h.short 37).trans (by decide)
  · rewrite [hdevice]
    exact (Nat.add_le_add_left h.short 35).trans (by decide)

theorem checkName_named {name : String} (h : Named name) (hlength : name.length ≤ 120) :
    checkName (.str name) = .ok name := by
  have hne : name.toList.isEmpty = false := by
    simpa [h.2] using h.strip_ne_nil
  have hlong : ¬120 < name.toList.length := by
    rw [String.length_toList]
    exact Nat.not_lt.mpr hlength
  simp [checkName, strippedText, h.2, raising, hne, hlong, bind, Except.bind, pure, Except.pure]

/-- Targets that are named are accepted. -/
theorem checkInternetTargets_named {ts : List String} (h : ∀ t ∈ ts, Named t) (i : Nat) :
    checkInternetTargets i (ts.map fun t => .obj [("host", .str t), ("port", .int 53)]) =
      .ok () := by
  induction ts generalizing i with
  | nil => rfl
  | cons t ts ih =>
      obtain ⟨ht, hts⟩ := List.forall_mem_cons.mp h
      have htarget :
          checkInternetTarget i (.obj [("host", .str t), ("port", .int 53)]) = .ok () := by
        simp [checkInternetTarget, field, List.lookup_cons, isBlank, ht.strip_ne_nil, Json.truthy,
          Json.toInt]
      rw [List.map_cons, checkInternetTargets, htarget]
      exact ih hts (i + 1)

theorem validateProbe_internet {a : Answers} (h : (targets a).length ≤ 10) :
    validateProbe (internetProbe (targets a)) = .ok () := by
  have hall := checkInternetTargets_named (fun t (ht : t ∈ targets a) => targets_named ht) 0
  simp [validateProbe, internetProbe, field, List.lookup_cons, validateInternet, Nat.not_lt.mpr h, hall]

/-- A field that is named is there. -/
theorem requireField_named {ms : List (String × Json)} {name text : String}
    (h : field ms name = .str text) (hnamed : Named text) : requireField ms name = .ok () := by
  simp [requireField, h, hnamed.strip_ne_nil]

theorem requireInt_int {ms : List (String × Json)} {name : String} {n low high : Int}
    (h : field ms name = .int n) (hn : low ≤ n ∧ n ≤ high) :
    requireInt ms name low high = .ok () := by
  have hbound : ¬(n < low ∨ high < n) := by omega
  simp [requireInt, h, Json.toInt, hbound]

theorem validateProbe_tcp {host : String} {port : Int} (h : Named host)
    (hport : 1 ≤ port ∧ port ≤ 65535) :
    validateProbe (.obj [("kind", .str "tcp"), ("host", .str host), ("port", .int port)]) =
      .ok () := by
  have hhost := requireField_named (rfl : field [("kind", .str "tcp"), ("host", .str host),
    ("port", .int port)] "host" = .str host) h
  have hbound := requireInt_int (rfl : field [("kind", .str "tcp"), ("host", .str host),
    ("port", .int port)] "port" = .int port) hport
  change (do requireField _ "host"; requireInt _ "port" 1 65535) = _
  rw [hhost, Fallible.ok_bind, hbound]

/-- The probe of an address, if its scheme is in small letters. -/
theorem validateProbe_address {address : String} {probe : Json} (h : Named address)
    (hprobe : addressToProbe address = .ok probe)
    (hscheme : isWebAddress (Text.lower address.toList) → isWebAddress address.toList) :
    checkProbeKind probe = .ok () ∧ validateProbe probe = .ok () := by
  have hping : checkProbeKind (.obj [("kind", .str "ping"), ("host", .str address)]) = .ok () ∧
      validateProbe (.obj [("kind", .str "ping"), ("host", .str address)]) = .ok () := by
    have hhost : requireField [("kind", .str "ping"), ("host", .str address)] "host" = .ok () :=
      requireField_named rfl h
    exact ⟨rfl, hhost⟩
  rw [addressToProbe] at hprobe
  split at hprobe
  · next hweb =>
      cases hprobe
      refine ⟨rfl, ?_⟩
      have hscheme := hscheme hweb
      rw [isWebAddress] at hscheme
      have hempty : address.toList.isEmpty = false := by simpa [h.2] using h.strip_ne_nil
      have hurl : field [("kind", .str "http"), ("url", .str address)] "url" = .str address := rfl
      change validateHttp [("kind", .str "http"), ("url", .str address)] = .ok ()
      simp only [validateHttp, hurl, strippedText, raising, h.2, hempty, hscheme, Fallible.ok_bind,
        Bool.not_true, Bool.false_eq_true, if_false]
      rfl
  · split at hprobe
    · split at hprobe
      · cases hprobe
        exact hping
      · next hgiven =>
          split at hprobe
          · cases hprobe
          · next n hn =>
              split at hprobe
              · cases hprobe
              · next hrange =>
                  cases hprobe
                  rw [Bool.or_eq_true, not_or, List.isEmpty_iff] at hgiven
                  have hnamed : Named (String.ofList (hostPart address)) := named_strip hgiven.1
                  exact ⟨rfl, validateProbe_tcp hnamed (by omega)⟩
    · cases hprobe
      exact hping

theorem checkBound_int {n low high : Int} {message : String} (h : low ≤ n ∧ n ≤ high) :
    checkBound (.int n) low high message = .ok () := by
  have hbound : ¬(n < low ∨ high < n) := by omega
  simp [checkBound, raising, Json.toInt, hbound, bind, Except.bind, pure, Except.pure]

theorem toleranceToThreshold_bounds {t : Int} (h : t ≤ 3000) :
    1 ≤ toleranceToThreshold t ∧ toleranceToThreshold t ≤ 100 := by
  rw [toleranceToThreshold, probeWindowSeconds]
  omega

/-- **The rule is accepted** when the answers fit. -/
theorem rule_accepted {deviceId mode : String} {a : Answers} {picked : Picked} {p : RulePayload}
    (hid : PlainId deviceId) (hmakes : Makes deviceId a mode picked)
    (hp : picked.rulePayload = some p) (hfits : Fits mode a) (siteId : Json) :
    validateRuleInputs (p.inputs siteId) = .ok p.name := by
  suffices h : (checkProbeKind p.probe = .ok () ∧ validateProbe p.probe = .ok ()) ∧
      p.target = deviceTarget deviceId ∧ (∃ n, p.action = cycleAction n) ∧
      p.failureThreshold ≤ 100 ∧ 1 ≤ p.failureThreshold ∧
      0 ≤ p.cooldownSeconds ∧ p.cooldownSeconds ≤ 86400 ∧ p.name = wizardRuleName deviceId mode by
    obtain ⟨⟨hkind, hprobe⟩, htarget, ⟨n, haction⟩, hmost, hleast, hcooldown, hcooldown',
      hname⟩ := h
    have hid' : deviceId.toList.isEmpty = false := by
      simpa using hid.nonempty
    have hcheckTarget : checkTarget (deviceTarget deviceId) = .ok () := by
      simp [checkTarget, deviceTarget, field, List.lookup_cons, isOneOf, strippedText, hid.strip,
        raising, hid', bind, Except.bind, pure, Except.pure]
    have hcheckAction : validateAction (cycleAction n) = .ok () := rfl
    rw [validateRuleInputs]
    simp only [RulePayload.inputs, hname, checkName_named (wizardRuleName_named hid mode)
      (wizardRuleName_length hid mode), hkind, hprobe, htarget, hcheckTarget, haction, hcheckAction,
      checkBound_int ⟨hleast, hmost⟩, checkBound_int ⟨hcooldown, hcooldown'⟩, Fallible.ok_bind]
    rfl
  cases hmakes with
  | smartPlug => cases hp
  | internet hname hlength htolerance htimers =>
      cases hp
      have hthreshold := toleranceToThreshold_bounds (hfits.tolerance (.inl rfl) _ htolerance)
      obtain ⟨hcooldown, hcooldown'⟩ := watchdogTimers_cooldown htimers
      exact ⟨⟨rfl, validateProbe_internet hlength⟩, rfl, ⟨_, rfl⟩, hthreshold.2, hthreshold.1,
        hcooldown, hcooldown', rfl⟩
  | device hname haddress hprobe htolerance htimers =>
      cases hp
      have hthreshold := toleranceToThreshold_bounds (hfits.tolerance (.inr rfl) _ htolerance)
      obtain ⟨hcooldown, hcooldown'⟩ := watchdogTimers_cooldown htimers
      exact ⟨validateProbe_address haddress hprobe (hfits.scheme rfl), rfl, ⟨_, rfl⟩, hthreshold.2,
        hthreshold.1, hcooldown, hcooldown', rfl⟩

end RebooterHub.Setup
