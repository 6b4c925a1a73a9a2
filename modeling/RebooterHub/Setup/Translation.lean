import RebooterHub.Setup.Configure
import RebooterHub.Support.Pieces

/-!
# Setup — Translation

What the rule of a watchdog mode does with the answers it is made of.

`Listed` and `Watches` say what is watched in terms of the text that was typed, not of the code
that splits it.  A rule fires after `failure_threshold` windows.

* `translated_iff`: for which device ids and answers the rule is right.
* `translation_refused`: answers that the picker accepts and `create_rule` does not.
-/

namespace RebooterHub.Setup
open Watchdog Fallible Pieces

/-! ### What the operator asked for -/

/-- A comma or the end of a line. -/
def isSeparator (c : Char) : Bool := c = ',' || isLineBreak c

/-- A host of the list that was typed: one of its pieces, without the white space around it. -/
def Listed (text host : String) : Prop :=
  host ≠ "" ∧ ∃ piece, Piece isSeparator text.toList piece ∧ Text.strip piece = host.toList

/-- An address with a port: a host and a number on the two sides of the only colon. -/
def HostPort (address : String) (host port : List Char) : Prop :=
  ∃ before after, address.toList = before ++ ':' :: after ∧ ':' ∉ before ∧ ':' ∉ after ∧
    Text.strip before = host ∧ Text.strip after = port ∧ host ≠ [] ∧ port ≠ []

/-- A probe that watches an address: a web address is fetched, a port is connected to, and
anything else is pinged. -/
inductive Watches (address : String) : Json → Prop where
  | web (hweb : isWebAddress (Text.lower address.toList)) :
      Watches address (.obj [("kind", .str "http"), ("url", .str address)])
  | port {host port : List Char} {n : Int} (hweb : ¬isWebAddress (Text.lower address.toList))
      (hsplit : HostPort address host port) (hport : Text.int port = some n)
      (hrange : 1 ≤ n ∧ n ≤ 65535) :
      Watches address
        (.obj [("kind", .str "tcp"), ("host", .str (String.ofList host)), ("port", .int n)])
  | bare (hweb : ¬isWebAddress (Text.lower address.toList))
      (hsplit : ∀ host port, ¬HostPort address host port) :
      Watches address (.obj [("kind", .str "ping"), ("host", .str address)])

/-- The hosts that are checked for connectivity: those that were typed, or the default pair. -/
def Hosts (text : String) (hosts : List String) : Prop :=
  (∀ h, h ∈ hosts ↔ Listed text h) ∨
    (∀ h, ¬Listed text h) ∧ hosts = defaultInternetTargets

/-- The probe watches what the answers say. -/
def Watching (mode : String) (a : Answers) (probe : Json) : Prop :=
  if mode = "internet_watchdog" then
    ∃ hosts, Hosts (a.internetTargets.getD "") hosts ∧ probe = internetProbe hosts
  else Watches (address a) probe

/-- `create_rule` accepts the payload, for any site, in a table without the new id. -/
def RulePayload.Creatable (p : RulePayload) : Prop :=
  ∀ (rules : List RuleRow) (newId : String) (siteId : Json), getRule rules newId = none →
    ∃ result, createRule rules newId (p.inputs siteId) = .ok result

/-- The seconds of failing probes after which the rule fires. -/
def RulePayload.fires (p : RulePayload) : Int := p.failureThreshold * probeWindowSeconds

/-- The rule that was made of the answers is accepted, watches what they name, and fires within a
window of the tolerance. -/
def Translated (mode : String) (a : Answers) (picked : Picked) : Prop :=
  ∃ p tolerance, picked.rulePayload = some p ∧ offlineTolerance a = .ok tolerance ∧
    p.Creatable ∧ Watching mode a p.probe ∧
    tolerance ≤ p.fires ∧ p.fires < tolerance + probeWindowSeconds

/-- The answers and the device stay within what `create_rule` allows: at most a hundred probes
may fail in a row, the scheme of a web address is in small letters, and the device's id is
not blank and short enough for the rule's name. -/
structure Translatable (deviceId mode : String) (a : Answers) : Prop where
  fits : Fits mode a
  named : Text.strip deviceId.toList ≠ []
  short : (Text.strip (wizardRuleName deviceId mode).toList).length ≤ 120

/-! ### The hosts -/

/-- The code's two steps, commas to line breaks and then lines, cut at the separators. -/
theorem splitOnP_commas (cs : List Char) :
    ((cs.map fun c => if c = ',' then '\n' else c).splitOnP isLineBreak) =
      cs.splitOnP isSeparator := by
  have hsep : (isLineBreak ∘ fun c => if c = ',' then '\n' else c) = isSeparator := by
    funext c
    by_cases hc : c = ','
    · subst hc
      decide
    · simp [isSeparator, hc]
  rw [splitOnP_map, hsep]
  refine List.map_congr_left (g := id) (fun piece hpiece => ?_) |>.trans (List.map_id _)
  obtain ⟨-, -, -, -, -, hnone⟩ := mem_splitOnP.mp hpiece
  refine (List.map_congr_left (g := id) fun c hc => ?_).trans (List.map_id _)
  have hcomma : c ≠ ',' := by
    rintro rfl
    exact absurd (hnone _ hc) (by decide)
  rw [if_neg hcomma]
  rfl

theorem mem_parseTargets {raw : Option String} {host : String} :
    host ∈ parseTargets raw ↔ Listed (raw.getD "") host := by
  rw [parseTargets, splitOnP_commas, List.mem_map]
  constructor
  · rintro ⟨cs, hcs, rfl⟩
    obtain ⟨hcs, hne⟩ := List.mem_filter.mp hcs
    obtain ⟨piece, hpiece, rfl⟩ := List.mem_map.mp hcs
    refine ⟨fun hempty => ?_, piece, mem_splitOnP.mp hpiece, String.toList_ofList.symm⟩
    rw [String.ofList_eq_empty_iff.mp hempty] at hne
    cases hne
  · rintro ⟨hne, piece, hpiece, hstrip⟩
    refine ⟨host.toList, List.mem_filter.mpr ⟨?_, ?_⟩, String.ofList_toList⟩
    · rw [← hstrip]
      exact List.mem_map_of_mem (mem_splitOnP.mpr hpiece)
    · simpa using hne

theorem hosts_targets (a : Answers) : Hosts (a.internetTargets.getD "") (targets a) := by
  rw [targets]
  split
  · next hempty =>
      refine .inr ⟨fun host hlisted => ?_, rfl⟩
      have hmem := mem_parseTargets.mpr hlisted
      rw [List.isEmpty_iff.mp hempty] at hmem
      cases hmem
  · exact .inl fun host => mem_parseTargets

/-! ### The address -/

/-- The code's test: one colon, and something on either side of it. -/
theorem hostPort_iff {address : String} {host port : List Char} :
    HostPort address host port ↔ address.toList.count ':' = 1 ∧ hostPart address = host ∧
      portPart address = port ∧ host ≠ [] ∧ port ≠ [] := by
  constructor
  · rintro ⟨before, after, haddress, hbefore, hafter, hhost, hport, hne, hne'⟩
    obtain ⟨htake, hdrop⟩ := takeWhile_append_cons after hbefore
    refine ⟨count_eq_one.mpr ⟨before, after, haddress, hbefore, hafter⟩, ?_, ?_, hne, hne'⟩
    · rw [hostPart, haddress, htake, hhost]
    · rw [portPart, haddress, hdrop, hport]
  · rintro ⟨hcount, hhost, hport, hne, hne'⟩
    obtain ⟨before, after, haddress, hbefore, hafter⟩ := count_eq_one.mp hcount
    obtain ⟨htake, hdrop⟩ := takeWhile_append_cons after hbefore
    refine ⟨before, after, haddress, hbefore, hafter, ?_, ?_, hne, hne'⟩
    · rw [← hhost, hostPart, haddress, htake]
    · rw [← hport, portPart, haddress, hdrop]

/-- The probe of an address watches it. -/
theorem watches_addressToProbe {address : String} {probe : Json}
    (h : addressToProbe address = .ok probe) : Watches address probe := by
  rw [addressToProbe] at h
  split at h
  · next hweb =>
      cases h
      exact .web hweb
  · next hweb =>
      split at h
      · next hcount =>
          split at h
          · next hblank =>
              cases h
              refine .bare hweb fun host port hsplit => ?_
              obtain ⟨-, rfl, rfl, hne, hne'⟩ := hostPort_iff.mp hsplit
              simp [hne, hne'] at hblank
          · next hgiven =>
              rw [Bool.or_eq_true, not_or, List.isEmpty_iff, List.isEmpty_iff] at hgiven
              split at h
              · cases h
              · next n hn =>
                  split at h
                  · cases h
                  · cases h
                    exact .port hweb (hostPort_iff.mpr ⟨hcount, rfl, rfl, hgiven⟩) hn (by omega)
      · next hcount =>
          cases h
          exact .bare hweb fun host port hsplit => hcount (hostPort_iff.mp hsplit).1

/-! ### What `create_rule` accepts -/

/-- Only a range that contains the number lets it through. -/
theorem checkBound_int_iff {n low high : Int} {message : String} :
    (∃ u, checkBound (.int n) low high message = .ok u) ↔ low ≤ n ∧ n ≤ high := by
  refine ⟨fun ⟨u, hu⟩ => ?_, fun h => ⟨(), checkBound_int h⟩⟩
  rw [checkBound] at hu
  by_contra hn
  have hout : n < low ∨ high < n := by omega
  simp [raising, Json.toInt, hout, bind, Except.bind, throw, throwThe, MonadExceptOf.throw] at hu

theorem checkName_iff {name : String} :
    (∃ n, checkName (.str name) = .ok n) ↔
      Text.strip name.toList ≠ [] ∧ (Text.strip name.toList).length ≤ 120 := by
  have hread : raising (strippedText (.str name)) = .ok (Text.strip name.toList) := rfl
  rw [checkName, hread, ok_bind]
  by_cases hempty : Text.strip name.toList = []
  · simp [hempty, bind, Except.bind, throw, throwThe, MonadExceptOf.throw]
  · by_cases hlong : 120 < (Text.strip name.toList).length
    · simp [hempty, hlong, bind, Except.bind, throw, throwThe, MonadExceptOf.throw]
    · simp [hempty, hlong, Nat.le_of_not_lt hlong, pure, Except.pure]

theorem checkTarget_iff {deviceId : String} :
    (∃ u, checkTarget (deviceTarget deviceId) = .ok u) ↔ Text.strip deviceId.toList ≠ [] := by
  by_cases hempty : Text.strip deviceId.toList = []
  · simp [checkTarget, deviceTarget, field, List.lookup_cons, isOneOf, strippedText, raising, hempty,
      bind, Except.bind, throw, throwThe, MonadExceptOf.throw]
  · simp [checkTarget, deviceTarget, field, List.lookup_cons, isOneOf, strippedText, raising, hempty,
      bind, Except.bind, pure, Except.pure]

/-- The name of the rule is not blank. -/
theorem strip_wizardRuleName (deviceId mode : String) :
    Text.strip (wizardRuleName deviceId mode).toList ≠ [] := by
  intro hnil
  obtain ⟨pre, hpre, hhead⟩ : ∃ pre,
      (wizardRuleName deviceId mode).toList = pre ++ deviceId.toList ∧ pre.head? = some 'S' := by
    refine ⟨_, String.toList_append .., ?_⟩
    split <;> rfl
  have hfirst : 'S' ∈ (wizardRuleName deviceId mode).toList := by
    rw [hpre]
    exact List.mem_append_left _ (List.mem_of_mem_head? hhead)
  have hspace : Text.isspace 'S' = false := by decide
  rw [Text.strip_eq_nil.mp hnil 'S' hfirst] at hspace
  cases hspace

theorem checkProbeKind_address {address : String} {probe : Json}
    (h : addressToProbe address = .ok probe) : checkProbeKind probe = .ok () := by
  cases watches_addressToProbe h with
  | web | port | bare => rfl

/-- An address is let through with its scheme in small letters. -/
theorem validateProbe_address_iff {address : String} {probe : Json} (h : Named address)
    (hprobe : addressToProbe address = .ok probe) :
    (∃ u, validateProbe probe = .ok u) ↔
      (isWebAddress (Text.lower address.toList) → isWebAddress address.toList) := by
  refine ⟨fun ⟨u, hu⟩ hweb => ?_, fun hscheme =>
    ⟨(), (validateProbe_address h hprobe hscheme).2⟩⟩
  rw [addressToProbe, if_pos hweb] at hprobe
  cases hprobe
  have hurl : field [("kind", .str "http"), ("url", .str address)] "url" = .str address := rfl
  change validateHttp [("kind", .str "http"), ("url", .str address)] = .ok u at hu
  have hread : raising (strippedText (.str address)) = .ok address.toList := by
    rw [strippedText, h.2, raising]
  rw [validateHttp, hurl, hread, ok_bind] at hu
  by_contra hscheme
  rw [isWebAddress, Bool.not_eq_true] at hscheme
  rw [hscheme] at hu
  by_cases hempty : address.toList.isEmpty <;>
    simp [hempty, bind, Except.bind, throw, throwThe, MonadExceptOf.throw] at hu

/-- The checks of the payload decide whether the rule is created. -/
theorem creatable_iff {p : RulePayload} :
    p.Creatable ↔ ∃ name, validateRuleInputs (p.inputs .null) = .ok name := by
  constructor
  · intro h
    obtain ⟨result, hresult⟩ := h [] "" .null rfl
    obtain ⟨name, hname, -⟩ := bind_eq_ok hresult
    exact ⟨name, hname⟩
  · rintro ⟨name, hname⟩ rules newId siteId hfresh
    have hvalid : validateRuleInputs (p.inputs siteId) = .ok name := hname
    obtain ⟨row, hrow⟩ :
        ∃ row, (newRow newId).configure name (p.inputs siteId) = .ok row := ⟨_, rfl⟩
    refine ⟨(rules ++ [row], row), ?_⟩
    simp only [createRule, hvalid, hrow, hfresh, ok_bind]
    rfl

/-- What decides whether a rule of a watchdog mode is created. -/
theorem rulePayload_creatable {deviceId mode : String} {probe : Json} {tolerance : Int}
    {t : Timers} (hkind : checkProbeKind probe = .ok ())
    (hcooldown : 0 ≤ t.cooldownSeconds ∧ t.cooldownSeconds ≤ 86400) :
    (rulePayload deviceId mode probe tolerance t).Creatable ↔
      (∃ u, validateProbe probe = .ok u) ∧ tolerance ≤ 3000 ∧
        Text.strip deviceId.toList ≠ [] ∧
        (Text.strip (wizardRuleName deviceId mode).toList).length ≤ 120 := by
  have haction : validateAction (cycleAction t.powerOffSeconds) = .ok () := rfl
  have hthreshold : 1 ≤ toleranceToThreshold tolerance ∧ toleranceToThreshold tolerance ≤ 100 ↔
      tolerance ≤ 3000 := by
    rw [toleranceToThreshold, probeWindowSeconds]
    omega
  have hrecovery : checkBound (.int 2) 1 100 "recovery_threshold must be between 1 and 100" =
      .ok () := rfl
  have hwindow : checkBound (.int probeWindowSeconds) 5 86400
      "window_seconds must be between 5 and 86400 (1 day)" = .ok () := rfl
  rw [creatable_iff, validateRuleInputs]
  simp only [RulePayload.inputs, rulePayload, hkind, ok_bind, haction, hrecovery, hwindow,
    checkBound_int hcooldown]
  have hpure : ∀ name : String, ∃ b, (pure name : Except RuleError String) = .ok b :=
    fun name => ⟨name, rfl⟩
  simp only [exists_bind, exists_and_right, checkTarget_iff, checkBound_int_iff, hthreshold,
    hpure, and_true, checkName_iff, ne_eq, strip_wizardRuleName, not_false_eq_true, true_and]
  constructor
  · rintro ⟨hshort, hprobe, hid, htolerance⟩
    exact ⟨hprobe, htolerance, hid, hshort⟩
  · rintro ⟨hprobe, htolerance, hid, hshort⟩
    exact ⟨hshort, hprobe, hid, htolerance⟩

/-- The time to fire is the tolerance, rounded up to a window. -/
theorem fires_bounds {deviceId mode : String} {probe : Json} {tolerance : Int} {t : Timers}
    (h : 30 ≤ tolerance) :
    tolerance ≤ (rulePayload deviceId mode probe tolerance t).fires ∧
      (rulePayload deviceId mode probe tolerance t).fires < tolerance + probeWindowSeconds := by
  have hfires : (rulePayload deviceId mode probe tolerance t).fires =
      toleranceToThreshold tolerance * probeWindowSeconds := rfl
  rw [hfires, toleranceToThreshold, probeWindowSeconds]
  omega

theorem offlineTolerance_bounds {a : Answers} {tolerance : Int}
    (h : offlineTolerance a = .ok tolerance) : 30 ≤ tolerance ∧ tolerance ≤ 3600 :=
  coerceInt_bounds h (by decide)

/-- A payload whose probe watches the answers is right when it is created. -/
theorem translated_iff_creatable {mode : String} {a : Answers} {deviceId desiredMode : String}
    {config probe : Json} {tolerance : Int} {t : Timers}
    (htolerance : offlineTolerance a = .ok tolerance) (hwatching : Watching mode a probe) :
    Translated mode a ⟨desiredMode, config, some (rulePayload deviceId mode probe tolerance t)⟩ ↔
      (rulePayload deviceId mode probe tolerance t).Creatable := by
  constructor
  · rintro ⟨p, tolerance', hp, -, hcreatable, -⟩
    cases hp
    exact hcreatable
  · intro hcreatable
    exact ⟨_, tolerance, rfl, htolerance, hcreatable, hwatching,
      fires_bounds (offlineTolerance_bounds htolerance).1⟩

/-- The tolerance, where it is the one that was read. -/
theorem fits_iff {mode : String} {a : Answers} {tolerance : Int} (hmode : mode ∈ watchdogModes)
    (htolerance : offlineTolerance a = .ok tolerance) :
    Fits mode a ↔ tolerance ≤ 3000 ∧ (mode = "device_watchdog" →
      isWebAddress (Text.lower (address a).toList) → isWebAddress (address a).toList) := by
  have hwatchdog : mode = "internet_watchdog" ∨ mode = "device_watchdog" := by
    simpa [watchdogModes] using hmode
  constructor
  · intro h
    exact ⟨h.tolerance hwatchdog _ htolerance, h.scheme⟩
  · rintro ⟨hle, hscheme⟩
    refine ⟨fun _ t ht => ?_, hscheme⟩
    rw [htolerance] at ht
    cases ht
    exact hle

/-- **The rule is right** for the device ids and answers within the limits, and only for those. -/
theorem translated_iff {deviceId mode : String} {a : Answers} {picked : Picked}
    (hmode : mode ∈ watchdogModes) (h : applyPicker deviceId mode a = .ok picked) :
    Translated mode a picked ↔ Translatable deviceId mode a := by
  have hmakes := makes_of_applyPicker h
  cases hmakes with
  | smartPlug => exact absurd hmode (by simp [watchdogModes])
  | internet hname hlength htolerance htimers =>
      have hwatching : Watching "internet_watchdog" a (internetProbe (targets a)) := by
        rw [Watching, if_pos rfl]
        exact ⟨targets a, hosts_targets a, rfl⟩
      have hprobe : ∃ u, validateProbe (internetProbe (targets a)) = .ok u :=
        ⟨(), validateProbe_internet hlength⟩
      rw [translated_iff_creatable htolerance hwatching,
        rulePayload_creatable rfl (watchdogTimers_cooldown htimers)]
      constructor
      · rintro ⟨-, hle, hid, hshort⟩
        exact ⟨(fits_iff hmode htolerance).mpr ⟨hle, fun hdevice => absurd hdevice (by decide)⟩,
          hid, hshort⟩
      · rintro ⟨hfits, hid, hshort⟩
        exact ⟨hprobe, ((fits_iff hmode htolerance).mp hfits).1, hid, hshort⟩
  | @device _ probe _ _ hname haddress hprobe htolerance htimers =>
      have hwatching : Watching "device_watchdog" a probe := by
        rw [Watching, if_neg (by decide)]
        exact watches_addressToProbe hprobe
      rw [translated_iff_creatable htolerance hwatching, rulePayload_creatable
        (checkProbeKind_address hprobe) (watchdogTimers_cooldown htimers),
        validateProbe_address_iff haddress hprobe]
      constructor
      · rintro ⟨hscheme, hle, hid, hshort⟩
        exact ⟨(fits_iff hmode htolerance).mpr ⟨hle, fun _ => hscheme⟩, hid, hshort⟩
      · rintro ⟨hfits, hid, hshort⟩
        obtain ⟨hle, hscheme⟩ := (fits_iff hmode htolerance).mp hfits
        exact ⟨hscheme rfl, hle, hid, hshort⟩

/-- "Keep my internet alive", with the defaults. -/
theorem translated_defaults : ∃ picked,
    applyPicker "dev_1" "internet_watchdog" { deviceName := some "Modem" } = .ok picked ∧
      Translated "internet_watchdog" { deviceName := some "Modem" } picked := by
  refine ⟨_, rfl,
    (@translated_iff "dev_1" "internet_watchdog" _ _ (by decide) rfl).mpr ⟨⟨?_, ?_⟩, ?_, ?_⟩⟩
  · intro _ t ht
    cases ht
    decide
  · intro hdevice
    exact absurd hdevice (by decide)
  · decide +kernel
  · decide +kernel

/-- Whether `create_rule` accepts the rule of the answers. -/
def created (deviceId mode : String) (a : Answers) : Except WizardError (Option Bool) :=
  (applyPicker deviceId mode a).map fun picked =>
    picked.rulePayload.map fun p => (createRule [] "wdr_1" (p.inputs .null)).isOk

theorem not_translated {deviceId mode : String} {a : Answers}
    (h : created deviceId mode a = .ok (some false)) :
    ∃ picked, applyPicker deviceId mode a = .ok picked ∧ ¬Translated mode a picked := by
  obtain ⟨picked, hpicked, hcreated⟩ := map_eq_ok h
  refine ⟨picked, hpicked, fun ⟨p, _, hp, _, hcreatable, _⟩ => ?_⟩
  obtain ⟨result, hresult⟩ := hcreatable [] "wdr_1" .null rfl
  rw [hp, Option.map_some, hresult] at hcreated
  cases hcreated

/-- An hour of tolerance, and a web address in capitals: the picker accepts them, `create_rule`
does not. -/
theorem translation_refused :
    (∃ picked, applyPicker "dev_1" "internet_watchdog"
        { deviceName := some "Modem", offlineToleranceSeconds := some "3600" } = .ok picked ∧
      ¬Translated "internet_watchdog"
        { deviceName := some "Modem", offlineToleranceSeconds := some "3600" } picked) ∧
    ∃ picked, applyPicker "dev_1" "device_watchdog"
        { deviceName := some "Camera", watchAddress := some "HTTP://camera.lan" } = .ok picked ∧
      ¬Translated "device_watchdog"
        { deviceName := some "Camera", watchAddress := some "HTTP://camera.lan" } picked := by
  refine ⟨not_translated ?_, not_translated ?_⟩
  · decide +kernel
  · decide +kernel

end RebooterHub.Setup
