import RebooterHub.Backup.DryRun
import RebooterHub.Backup.Exported

/-!
# Backup — Reimport

An exported document imported on the hub that it is from.

* `rewritten m rec r` is what the record `rec r` makes of the row `r` that it is from.
* `reimported`: what an import changes of an exported record.
* `imports_reimportedHub` and `collectSections_reimportedHub`: the import on the same hub, and the
  export after it.
-/

namespace RebooterHub.Backup
open RebooterHub.Fallible RebooterHub.NaturalKey RebooterHub.Rows
open RebooterHub.Logged (Returns)
open RebooterHub.Watchdog (RuleRow field orStop)

/-! ### Rows written over themselves -/

section
variable {ρ : Type} {m : Table ρ} {key : String} {rec rec' : ρ → Members} {rows own : List ρ}
  {c : Collation} {r : ρ} {f : ρ → ρ}

/-- What the record of a row makes of the row. -/
def rewritten (m : Table ρ) (rec : ρ → Members) (r : ρ) : ρ :=
  match m.update (rec r) with
  | .ok f => f r
  | .error _ => r

theorem rewritten_eq (h : m.update (rec r) = .ok f) : rewritten m rec r = f r := by
  rw [rewritten, h]

theorem rewritten_keeps {α : Type} {g : ρ → α}
    (h : ∀ ms f, m.update ms = .ok f → ∀ r, g (f r) = g r) : g (rewritten m rec r) = g r := by
  rw [rewritten]
  split
  · next f hf => exact h _ f hf r
  · rfl

/-- The records of some rows, each written over its row. -/
theorem returns_rewritten (hkey : m.key = rawText key)
    (hrec : ∀ r, field (rec r) key = .str (m.nameOf r))
    (hid : ∀ ms f, m.update ms = .ok f → ∀ r, m.idOf (f r) = m.idOf r) (hids : Keyed m.idOf rows)
    (hnames : NaturalNames (rows.map m.nameOf)) (hmem : ∀ r ∈ own, r ∈ rows)
    (hown : (own.map m.idOf).Nodup) (hupdate : ∀ r ∈ own, ∃ f, m.update (rec r) = .ok f) :
    Returns (m.write rows) rows (own.map rec) (namedDeed key (rows.map m.nameOf))
      (rows.map fun r => if m.idOf r ∈ own.map m.idOf then rewritten m rec r else r) := by
  have hname : ∀ r, m.key (rec r) = m.nameOf r := by
    intro r
    rw [hkey, rawText_of_str (hrec r)]
  have hfind : ∀ r ∈ own, m.find rows (m.key (rec r)) = some r := by
    intro r hr
    have hkeyed : Keyed m.nameOf rows := hnames.nodup
    rw [hname]
    exact m.find_of_unique (hmem r hr) fun r' hr' h => hkeyed.eq hr' (hmem r hr) h
  have hrewritten : ∀ r ∈ own, ∃ f, m.update (rec r) = .ok f ∧ f r = rewritten m rec r := by
    intro r hr
    obtain ⟨f, hf⟩ := hupdate r hr
    exact ⟨f, hf, (rewritten_eq hf).symm⟩
  rw [Logged.returns_map]
  refine (Logged.returns_expected fun r hr => ?_).mp
    (m.returns_own hids hmem hfind hrewritten (fun _ => rewritten_keeps hid) hown)
  have hknown : strippedName key (rec r) ∈ rows.map m.nameOf := by
    have hmemname : m.nameOf r ∈ rows.map m.nameOf := List.mem_map_of_mem (hmem r hr)
    rw [strippedName, rawText_of_str (hrec r), (hnames.plain _ hmemname).2]
    exact hmemname
  exact (if_pos hknown).symm

/-- The records of a section, each written over its row. -/
theorem returns_reimport (hkey : m.key = rawText key)
    (hrec : ∀ r, field (rec r) key = .str (m.nameOf r))
    (hid : ∀ ms f, m.update ms = .ok f → ∀ r, m.idOf (f r) = m.idOf r) (hids : Keyed m.idOf rows)
    (hnames : NaturalNames (rows.map m.nameOf))
    (hupdate : ∀ r ∈ rows, ∃ f, m.update (rec r) = .ok f) :
    Returns (m.write rows) rows
      (firsts (strippedName key) "" [] ((c.orderBy m.nameOf rows).map rec))
      (namedDeed key (rows.map m.nameOf)) (rows.map (rewritten m rec)) := by
  have hown : ((c.orderBy m.nameOf rows).map m.idOf).Nodup :=
    (c.orderBy_perm.map m.idOf).nodup_iff.mpr hids
  have hloop := returns_rewritten hkey hrec hid hids hnames
    (fun r hr => c.mem_orderBy.mp hr) hown fun r hr => hupdate r (c.mem_orderBy.mp hr)
  have hall : (rows.map fun r => if m.idOf r ∈ (c.orderBy m.nameOf rows).map m.idOf then
      rewritten m rec r else r) = rows.map (rewritten m rec) :=
    List.map_congr_left fun r hr => if_pos (List.mem_map_of_mem (c.mem_orderBy.mpr hr))
  rwa [hall, ← firsts_orderBy hrec hnames] at hloop

/-- The export of rows written over themselves. -/
theorem orderBy_rewritten {norm : Members → Members}
    (hname : ∀ ms f, m.update ms = .ok f → ∀ r, m.nameOf (f r) = m.nameOf r)
    (hrec : ∀ r ∈ rows, ∃ f, m.update (rec r) = .ok f ∧ rec' (f r) = norm (rec' r)) :
    (c.orderBy m.nameOf (rows.map (rewritten m rec))).map rec' =
      ((c.orderBy m.nameOf rows).map rec').map norm := by
  rw [c.orderBy_map (rewritten m rec) fun _ => rewritten_keeps hname, List.map_map, List.map_map]
  refine List.map_congr_left fun r hr => ?_
  obtain ⟨f, hf, hnorm⟩ := hrec r (c.mem_orderBy.mp hr)
  rw [Function.comp_apply, Function.comp_apply, rewritten_eq hf, hnorm]

end

/-! ### What an import changes of a record -/

/-- An empty escalation comes back as a stop. -/
def stopEscalation : Members → Members :=
  Dict.mapValues fun k v => if k = "escalation" then orStop v else v

/-- An empty configuration comes back as none. -/
def nullConfig : Members → Members :=
  Dict.mapValues fun k v => if k = "config" ∧ v.truthy = false then .null else v

/-- What a record of a section comes back as. -/
def reimported : Section → Members → Members
  | .watchdogRules => stopEscalation
  | .externalSources => nullConfig
  | _ => id

theorem orStop_truthy (x : Json) : (orStop x).truthy = true := by
  rw [orStop]
  split
  · assumption
  · rfl

theorem orEmpty_orStop (x : Json) : (orStop x).orEmpty = orStop x := if_pos (orStop_truthy x)

section
variable {env : Env} {sites : List Site}

theorem siteRecord_rewritten {s : Site} (h : env.nullable .text s.description) :
    ∃ f, (sitesTable env).update (siteRecord s) = .ok f ∧ f s = s :=
  ⟨_, if_pos h, rfl⟩

theorem knowsSite_group (g : Group) : KnowsSite sites (groupRecord sites g) :=
  siteNameById_cases sites g.siteId

theorem knowsSite_rule (r : RuleRow) : KnowsSite sites (ruleRecord sites r) :=
  siteNameById_cases sites (refId r.siteId)

/-- A group goes back to its site. -/
theorem groupRecord_rewritten {g : Group} (hids : Keyed (·.id) sites)
    (h : env.nullable .text g.description) :
    ∃ f, (groupsTable env sites).update (groupRecord sites g) = .ok f ∧
      groupRecord sites (f g) = groupRecord sites g := by
  obtain ⟨siteId, hsite, hname⟩ := siteByName_knows hids (knowsSite_group g)
  refine ⟨fun row => { row with description := g.description, siteId := siteId }, ?_, ?_⟩
  · dsimp only [groupsTable]
    rw [hsite]
    exact if_pos h
  · dsimp only [groupRecord]
    rw [hname]
    rfl

theorem ruleValues_fits {r : RuleRow} {siteId : Json} (h : RuleColumns env r) :
    (ruleValues siteId r).fits env := by
  simp [RuleFields.fits, ruleValues, h.description, h.failureThreshold, h.recoveryThreshold,
    h.windowSeconds, h.cooldownSeconds, h.maxRetries, h.retryDelaySeconds]

/-- The export of a row that a rule's fields were assigned to. -/
theorem ruleRecord_assign {sites₀ : List Site} {r row : RuleRow} {siteId : Json}
    (hname : row.name = r.name)
    (hsite : siteNameById sites (refId siteId) = siteNameById sites₀ (refId r.siteId)) :
    ruleRecord sites ((ruleValues siteId r).assign row) = stopEscalation (ruleRecord sites₀ r) := by
  simp [ruleRecord, ruleValues, RuleFields.assign, stopEscalation, Dict.mapValues, hname, hsite,
    orEmpty_orStop]

theorem ruleRecord_rewritten {r : RuleRow} (hids : Keyed (·.id) sites) (h : RuleColumns env r) :
    ∃ f, (rulesTable env sites).update (ruleRecord sites r) = .ok f ∧
      ruleRecord sites (f r) = stopEscalation (ruleRecord sites r) := by
  obtain ⟨siteId, hsite, hname⟩ := importedSite_knows hids (knowsSite_rule r)
  refine ⟨(ruleValues siteId r).assign, ?_, ruleRecord_assign rfl hname⟩
  dsimp only [rulesTable]
  rw [ruleFields_record hsite]
  exact if_pos (ruleValues_fits h)

theorem scheduleValues_fits {s : Schedule} (h : ScheduleColumns env s) :
    (scheduleValues s).fits env := by
  simp [ScheduleFields.fits, scheduleValues, h.description, h.kind, h.recurrence, h.atTimeUtc,
    h.durationSeconds, h.powerOffSeconds, h.postRebootHoldoffSeconds]

theorem scheduleRecord_assign {s row : Schedule} (hname : row.name = s.name) :
    scheduleRecord ((scheduleValues s).assign row) = scheduleRecord s := by
  simp [scheduleRecord, scheduleValues, ScheduleFields.assign, hname]

theorem scheduleRecord_rewritten {s : Schedule} (h : ScheduleColumns env s) :
    ∃ f, (schedulesTable env).update (scheduleRecord s) = .ok f ∧
      scheduleRecord (f s) = scheduleRecord s := by
  refine ⟨(scheduleValues s).assign, ?_, scheduleRecord_assign rfl⟩
  dsimp only [schedulesTable]
  rw [scheduleFields_record]
  exact if_pos (scheduleValues_fits h)

theorem sceneRecord_rewritten {s : Scene} (h : env.nullable (.varchar 500) s.description) :
    ∃ f, (scenesTable env).update (sceneRecord s) = .ok f ∧ sceneRecord (f s) = sceneRecord s := by
  refine ⟨_, if_pos h, ?_⟩
  change [("name", Json.str s.name), ("description", s.description),
    ("items", s.items.orNil.orNil.orNil)] = _
  rw [orNil_orNil, orNil_orNil]
  rfl

theorem sourceValues_fits {includeSecrets : Bool} {e : ExternalSensorSource}
    (h : SourceColumns env e) : (sourceValues includeSecrets e).fits env := by
  obtain ⟨text, htext, hhost⟩ := h.host
  simp [SourceFields.fits, sourceValues, h.kind, hhost, h.port, h.pollIntervalSeconds]

/-- What is exported of a configuration and not redacted is in it. -/
theorem mem_of_exported (includeSecrets : Bool) {config : Members} {m : String × Json}
    (hm : m ∈ if includeSecrets then config else (redactExtConfig (some config)).getD [])
    (hvalue : m.2 ≠ redactedSentinel) : m ∈ config := by
  cases includeSecrets with
  | true => exact hm
  | false =>
      obtain ⟨⟨k, v⟩, hmem, rfl⟩ := List.mem_map.mp hm
      dsimp only at hvalue ⊢
      by_cases hsecret : mentions extSecretSubkeys k
      · exact absurd (if_pos hsecret) hvalue
      · rwa [if_neg hsecret]

/-- A source's configuration updated with what was exported of it. -/
theorem update_exportedConfig (includeSecrets : Bool) {e : ExternalSensorSource}
    (h : ∀ cfg ∈ e.config, Keyed Prod.fst cfg) :
    Dict.update (e.config.getD []) (dropRedacted ((exportedConfig includeSecrets e).getD [])) =
      e.config.getD [] := by
  rw [exportedConfig]
  cases he : e.config with
  | none => cases includeSecrets <;> rfl
  | some config =>
      refine Dict.update_of_mem (h config he) fun m hm => ?_
      obtain ⟨hmem, hvalue⟩ := List.mem_filter.mp hm
      refine mem_of_exported includeSecrets ?_ (of_decide_eq_true hvalue)
      cases includeSecrets <;> exact hmem

theorem sourceRecord_nullConfig {includeSecrets : Bool} {e : ExternalSensorSource} :
    sourceRecord includeSecrets { e with config := orNone (e.config.getD []) } =
      nullConfig (sourceRecord includeSecrets e) := by
  have hconfig : configJson (if includeSecrets then orNone (e.config.getD [])
        else redactExtConfig (orNone (e.config.getD []))) =
      let v := configJson (if includeSecrets then e.config else redactExtConfig e.config)
      if v.truthy = false then .null else v := by
    cases e.config with
    | none => cases includeSecrets <;> rfl
    | some config => cases config <;> cases includeSecrets <;> rfl
  simp [sourceRecord, nullConfig, Dict.mapValues, hconfig]

theorem sourceRecord_rewritten (includeSecrets includeSecrets' : Bool) {e : ExternalSensorSource}
    (h : SourceColumns env e) :
    ∃ f, (sourcesTable env).update (sourceRecord includeSecrets e) = .ok f ∧
      sourceRecord includeSecrets' (f e) = nullConfig (sourceRecord includeSecrets' e) := by
  obtain ⟨text, htext, -⟩ := h.host
  refine ⟨fun row => { row with
    kind := e.kind, host := e.host, port := e.port, enabled := e.enabled
    pollIntervalSeconds := e.pollIntervalSeconds
    config := orNone (Dict.update (row.config.getD []) (sourceValues includeSecrets e).config) },
    ?_, ?_⟩
  · dsimp only [sourcesTable]
    rw [sourceFields_record ⟨text, htext⟩]
    exact if_pos (sourceValues_fits h)
  · rw [← sourceRecord_nullConfig, ← update_exportedConfig includeSecrets h.config]
    rfl

end

/-! ### Settings -/

section
variable {env : Env} {c : Collation} {includeSecrets includeSecrets' : Bool}
  {settings : List RuntimeSetting} {r : RuntimeSetting}

/-- The settings that are imported. -/
def importedSettings (c : Collation) (includeSecrets : Bool) (settings : List RuntimeSetting) :
    List RuntimeSetting :=
  (c.orderBy (·.name) settings).filter fun r => importable (settingRecord includeSecrets r)

theorem filter_settings :
    ((c.orderBy (·.name) settings).map (settingRecord includeSecrets)).filter importable =
      (importedSettings c includeSecrets settings).map (settingRecord includeSecrets) := by
  rw [List.filter_map, importedSettings, Function.comp_def]

/-- An imported setting has its value in the file. -/
theorem value_of_importable (h : importable (settingRecord includeSecrets r)) :
    field (settingRecord includeSecrets r) "value" = (r.value.lookup "v").getD .null := by
  obtain ⟨-, hvalue, -⟩ := of_decide_eq_true h
  change (if !includeSecrets && isSecretKey r.name then redactedSentinel else _) = _
  change (if !includeSecrets && isSecretKey r.name then redactedSentinel else _) ≠ _ at hvalue
  split at hvalue
  · exact absurd rfl hvalue
  · next hplain => exact if_neg hplain

theorem settingRecord_rewritten (h : importable (settingRecord includeSecrets r)) :
    settingRecord includeSecrets'
        (rewritten (settingsTable env) (settingRecord includeSecrets) r) =
      settingRecord includeSecrets' r := by
  have hrow : rewritten (settingsTable env) (settingRecord includeSecrets) r =
      { r with value := [("v", (r.value.lookup "v").getD .null)] } := by
    rw [← value_of_importable h]
    rfl
  rw [hrow]
  rfl

/-- The settings after an import of their export. -/
def reimportedSettings (env : Env) (c : Collation) (includeSecrets : Bool)
    (settings : List RuntimeSetting) : List RuntimeSetting :=
  settings.map fun r => if r.name ∈ (importedSettings c includeSecrets settings).map (·.name) then
    rewritten (settingsTable env) (settingRecord includeSecrets) r else r

theorem returns_settings (hnames : NaturalNames (settings.map (·.name))) :
    Returns ((settingsTable env).write settings) settings
      (((c.orderBy (·.name) settings).map (settingRecord includeSecrets)).filter importable)
      (namedDeed "name" (settings.map (·.name)))
      (reimportedSettings env c includeSecrets settings) := by
  have hkeyed : Keyed (·.name) settings := hnames.nodup
  have hown : ((importedSettings c includeSecrets settings).map (·.name)).Nodup :=
    ((c.orderBy_perm.map _).nodup_iff.mpr hkeyed).sublist (List.filter_sublist.map _)
  have hname : ∀ ms f, (settingsTable env).update ms = .ok f → ∀ r, (f r).name = r.name :=
    settingsTable_named.update_name
  rw [filter_settings]
  exact returns_rewritten rfl (fun _ => rfl) hname hkeyed
    hnames (fun r hr => c.mem_orderBy.mp (List.mem_filter.mp hr).1) hown fun r _ => ⟨_, rfl⟩

theorem export_reimportedSettings (hnames : NaturalNames (settings.map (·.name))) :
    (c.orderBy (·.name) (reimportedSettings env c includeSecrets settings)).map
        (settingRecord includeSecrets') =
      (c.orderBy (·.name) settings).map (settingRecord includeSecrets') := by
  have hkeyed : Keyed (·.name) settings := hnames.nodup
  rw [reimportedSettings, c.orderBy_map, List.map_map]
  · refine List.map_congr_left fun r hr => ?_
    rw [Function.comp_apply]
    split
    · next hname =>
        obtain ⟨r', hr', hsame⟩ := List.mem_map.mp hname
        obtain ⟨hmem, himportable⟩ := List.mem_filter.mp hr'
        obtain rfl := hkeyed.eq (c.mem_orderBy.mp hmem) (c.mem_orderBy.mp hr) hsame
        exact settingRecord_rewritten himportable
    · rfl
  · intro r
    split
    · exact rewritten_keeps settingsTable_named.update_name
    · rfl

end

/-! ### Devices -/

section
variable {c : Collation} {includeSecrets : Bool} {hub : Hub} {k : Device → Device}

theorem map_mac? (hk : ∀ d, (k d).macAddress = d.macAddress) {devices : List Device} :
    (devices.map k).filterMap Device.mac? = devices.filterMap Device.mac? := by
  rw [List.filterMap_map]
  refine List.filterMap_congr fun d _ => ?_
  rw [Function.comp_apply, Device.mac?, hk, Device.mac?]

/-- What a device's record is. -/
theorem mem_deviceConfig {ms : Members} :
    ms ∈ collectSections c includeSecrets hub .deviceConfig ↔
      ∃ d ∈ hub.devices, ∃ mac, deviceRecord d = some (mac, ms) := by
  rw [collectSections, List.mem_map]
  constructor
  · rintro ⟨⟨mac, ms⟩, hmem, rfl⟩
    obtain ⟨d, hd, hrec⟩ := List.mem_filterMap.mp (c.mem_orderBy.mp hmem)
    exact ⟨d, hd, mac, hrec⟩
  · rintro ⟨d, hd, mac, hrec⟩
    exact ⟨(mac, ms), c.mem_orderBy.mpr (List.mem_filterMap.mpr ⟨d, hd, hrec⟩), rfl⟩

variable (hk : ∀ d, (k d).id = d.id ∧ (k d).macAddress = d.macAddress)
  (hids : Keyed (·.id) hub.devices) (hmacs : NaturalNames (hub.devices.filterMap Device.mac?))

include hk hmacs

/-- The device of a record is found by its MAC, where the devices may have other settings. -/
theorem deviceByMac_record {d : Device} {mac : String} {ms : Members} (hd : d ∈ hub.devices)
    (hrec : deviceRecord d = some (mac, ms)) :
    rawText "mac_address" ms = mac ∧ strippedName "mac_address" ms = mac ∧
      deviceByMac (hub.devices.map k) mac = some (k d) := by
  obtain ⟨mac', hmac, -, hpair⟩ := deviceRecord_eq_some.mp hrec
  obtain ⟨rfl, rfl⟩ := Prod.mk.inj hpair
  have hplain := (hmacs.plain mac (List.mem_filterMap.mpr ⟨d, hd, hmac⟩)).2
  refine ⟨rfl, hplain, ?_⟩
  have hmacs' : NaturalNames ((hub.devices.map k).filterMap Device.mac?) := by
    rwa [map_mac? fun d => (hk d).2]
  refine hmacs'.deviceByMac_eq (List.mem_map_of_mem hd) ?_
  rw [Device.mac?, (hk d).2]
  exact hmac

theorem targetId_record {d : Device} {mac : String} {ms : Members} (hd : d ∈ hub.devices)
    (hrec : deviceRecord d = some (mac, ms)) : targetId (hub.devices.map k) ms = d.id := by
  obtain ⟨hraw, -, hfind⟩ := deviceByMac_record hk hmacs hd hrec
  rw [targetId, hraw, hfind]
  exact (hk d).1

include hids

theorem keyed_targetId :
    Keyed (targetId (hub.devices.map k)) (collectSections c includeSecrets hub .deviceConfig) := by
  have hperm : ((collectSections c includeSecrets hub .deviceConfig).map
      (targetId (hub.devices.map k))).Perm
        (hub.devices.filterMap fun d => (deviceRecord d).map fun _ => d.id) := by
    have hsame : (hub.devices.filterMap deviceRecord).map
        (fun r => targetId (hub.devices.map k) r.2) =
          hub.devices.filterMap fun d => (deviceRecord d).map fun _ => d.id := by
      rw [List.map_filterMap]
      refine List.filterMap_congr fun d hd => ?_
      cases hrec : deviceRecord d with
      | none => rfl
      | some r => exact congrArg some (targetId_record hk hmacs hd hrec)
    rw [← hsame, collectSections, List.map_map]
    exact c.orderBy_perm.map _
  exact hperm.nodup_iff.mpr (filterMap_key_sublist.nodup hids)

/-- **The devices.**  Importing the exported configurations gives each device its own. -/
theorem returns_devices :
    Returns writeDevice (hub.devices.map k)
      ((collectSections c includeSecrets hub .deviceConfig).filter (attachable (hub.devices.map k)))
      (fun _ => .updated)
      (hub.devices.map fun d => if (deviceRecord d).isSome then
        { k d with desiredConfig := d.desiredConfig, desiredMode := d.desiredMode } else k d) := by
  have hall : (collectSections c includeSecrets hub .deviceConfig).filter
      (attachable (hub.devices.map k)) = collectSections c includeSecrets hub .deviceConfig := by
    refine List.filter_eq_self.mpr fun ms hms => ?_
    obtain ⟨d, hd, mac, hrec⟩ := mem_deviceConfig.mp hms
    obtain ⟨-, hstripped, hfind⟩ := deviceByMac_record hk hmacs hd hrec
    rw [attachable, hstripped, hfind]
    rfl
  have hkeyed : Keyed (targetId (hub.devices.map k))
      (collectSections c includeSecrets hub .deviceConfig) := keyed_targetId hk hids hmacs
  rw [hall, returns_devices_iff rfl]
  refine ⟨fun ms hms => ?_, ?_⟩
  · obtain ⟨d, hd, mac, hrec⟩ := mem_deviceConfig.mp hms
    obtain ⟨hraw, -, hfind⟩ := deviceByMac_record hk hmacs hd hrec
    rw [hraw, hfind]
    rfl
  · rw [desired, foldl_amend (g := desire) (fun _ _ => rfl) hkeyed, List.map_map]
    refine List.map_congr_left fun d hd => ?_
    rw [Function.comp_apply, (hk d).1]
    cases hrec : deviceRecord d with
    | none =>
        have hfind : (collectSections c includeSecrets hub .deviceConfig).find?
            (targetId (hub.devices.map k) · = d.id) = none := by
          refine find?_eq_none_iff.mpr fun hmem => ?_
          obtain ⟨ms, hms, hid⟩ := List.mem_map.mp hmem
          obtain ⟨d', hd', mac, hrec'⟩ := mem_deviceConfig.mp hms
          rw [targetId_record hk hmacs hd' hrec'] at hid
          obtain rfl := hids.eq hd' hd hid
          cases hrec.symm.trans hrec'
        rw [hfind]
        rfl
    | some r =>
        obtain ⟨mac, ms⟩ := r
        have hfind : (collectSections c includeSecrets hub .deviceConfig).find?
            (targetId (hub.devices.map k) · = d.id) = some ms := by
          rw [← targetId_record hk hmacs hd hrec]
          exact hkeyed.find? (mem_deviceConfig.mpr ⟨d, hd, mac, hrec⟩)
        obtain ⟨mac', -, -, hpair⟩ := deviceRecord_eq_some.mp hrec
        obtain ⟨-, rfl⟩ := Prod.mk.inj hpair
        rw [hfind]
        rfl

end

/-! ### The hub -/

section
variable {env : Env} {c : Collation} {includeSecrets includeSecrets' : Bool} {hub : Hub}

/-- The hub after an import of its export. -/
def reimportedHub (env : Env) (c : Collation) (includeSecrets : Bool) (hub : Hub) : Hub where
  settings := reimportedSettings env c includeSecrets hub.settings
  sites := hub.sites
  groups := hub.groups.map (rewritten (groupsTable env hub.sites) (groupRecord hub.sites))
  memberships := hub.memberships
  rules := hub.rules.map (rewritten (rulesTable env hub.sites) (ruleRecord hub.sites))
  schedules := hub.schedules.map (rewritten (schedulesTable env) scheduleRecord)
  scenes := hub.scenes.map (rewritten (scenesTable env) sceneRecord)
  sources := hub.sources.map (rewritten (sourcesTable env) (sourceRecord includeSecrets))
  devices := hub.devices

theorem returns_sites (hportable : Portable hub) (hstored : WellStored env hub) :
    Returns ((sitesTable env).write hub.sites) hub.sites
      (firsts (strippedName "name") "" [] ((c.orderBy (·.name) hub.sites).map siteRecord))
      (namedDeed "name" (hub.sites.map (·.name))) hub.sites := by
  have hloop : Returns ((sitesTable env).write hub.sites) hub.sites
      (firsts (strippedName "name") "" [] ((c.orderBy (·.name) hub.sites).map siteRecord))
      (namedDeed "name" (hub.sites.map (·.name)))
      (hub.sites.map (rewritten (sitesTable env) siteRecord)) := by
    refine returns_reimport rfl (fun _ => rfl) sitesTable_lawful.update_id hstored.siteIds
      hportable.sites fun s hs => ?_
    obtain ⟨f, hf, -⟩ := siteRecord_rewritten (hstored.sites s hs).2
    exact ⟨f, hf⟩
  have hsame : hub.sites.map (rewritten (sitesTable env) siteRecord) = hub.sites.map id := by
    refine List.map_congr_left fun s hs => ?_
    obtain ⟨f, hf, hself⟩ := siteRecord_rewritten (hstored.sites s hs).2
    exact (rewritten_eq hf).trans hself
  rwa [hsame, List.map_id] at hloop

/-- **The import on the same hub.** -/
theorem imports_reimportedHub (hportable : Portable hub) (hstored : WellStored env hub) :
    Imports env hub (writtenRecords hub (collectSections c includeSecrets hub))
      (reimportedHub env c includeSecrets hub) where
  settings := returns_settings hportable.settings
  sites := returns_sites hportable hstored
  groups := by
    refine returns_reimport rfl (fun _ => rfl) groupsTable_lawful.update_id hstored.groupIds
      hportable.groups fun g hg => ?_
    obtain ⟨f, hf, -⟩ := groupRecord_rewritten hstored.siteIds (hstored.groups g hg).2
    exact ⟨f, hf⟩
  memberships := by
    rw [writtenRecords_memberships hportable.groups hportable.macs]
    exact Logged.returns_nil.mpr rfl
  rules := by
    refine returns_reimport rfl (fun _ => rfl) rulesTable_lawful.update_id hstored.ruleIds
      hportable.rules fun r hr => ?_
    obtain ⟨f, hf, -⟩ := ruleRecord_rewritten hstored.siteIds (hstored.rules r hr)
    exact ⟨f, hf⟩
  schedules := by
    refine returns_reimport rfl (fun _ => rfl) schedulesTable_lawful.update_id hstored.scheduleIds
      hportable.schedules fun s hs => ?_
    obtain ⟨f, hf, -⟩ := scheduleRecord_rewritten (hstored.schedules s hs)
    exact ⟨f, hf⟩
  scenes := by
    refine returns_reimport rfl (fun _ => rfl) scenesTable_lawful.update_id hstored.sceneIds
      hportable.scenes fun s hs => ?_
    obtain ⟨f, hf, -⟩ := sceneRecord_rewritten (hstored.scenes s hs).2
    exact ⟨f, hf⟩
  sources := by
    refine returns_reimport rfl (fun _ => rfl) sourcesTable_lawful.update_id hstored.sourceIds
      hportable.sources fun e he => ?_
    obtain ⟨f, hf, -⟩ := sourceRecord_rewritten includeSecrets includeSecrets (hstored.sources e he)
    exact ⟨f, hf⟩
  devices := by
    have hloop : Returns writeDevice (hub.devices.map id)
        ((collectSections c includeSecrets hub .deviceConfig).filter
          (attachable (hub.devices.map id))) (fun _ => .updated) (hub.devices.map fun d =>
            if (deviceRecord d).isSome then
              { id d with desiredConfig := d.desiredConfig, desiredMode := d.desiredMode }
            else id d) :=
      returns_devices (fun _ => ⟨rfl, rfl⟩) hstored.deviceIds hportable.macs
    have hself : (fun d : Device => if (deviceRecord d).isSome then
        { id d with desiredConfig := d.desiredConfig, desiredMode := d.desiredMode } else id d) =
          id := by
      funext d
      split <;> rfl
    rw [hself, List.map_id] at hloop
    exact hloop
  fits := hstored.devices

/-- **The export after an import on the same hub.** -/
theorem collectSections_reimportedHub (hportable : Portable hub) (hstored : WellStored env hub)
    (s : Section) : collectSections c includeSecrets' (reimportedHub env c includeSecrets hub) s =
      (collectSections c includeSecrets' hub s).map (reimported s) := by
  cases s with
  | runtimeSettings =>
      exact (export_reimportedSettings hportable.settings).trans (List.map_id _).symm
  | sites | deviceConfig => exact (List.map_id _).symm
  | groups =>
      refine orderBy_rewritten groupsTable_lawful.update_name fun g hg => ?_
      exact groupRecord_rewritten hstored.siteIds (hstored.groups g hg).2
  | groupMemberships =>
      refine Eq.trans ?_ (List.map_id _).symm
      refine List.filterMap_congr fun m _ => ?_
      rw [membershipRecord, membershipRecord]
      have hid : ∀ g, (rewritten (groupsTable env hub.sites) (groupRecord hub.sites) g).id = g.id :=
        fun _ => rewritten_keeps groupsTable_lawful.update_id
      have hname : ∀ g,
          (rewritten (groupsTable env hub.sites) (groupRecord hub.sites) g).name = g.name :=
        fun _ => rewritten_keeps groupsTable_lawful.update_name
      have hgroup : ((reimportedHub env c includeSecrets hub).groups.find? (·.id = m.groupId)).map
          (·.name) = (hub.groups.find? (·.id = m.groupId)).map (·.name) := by
        rw [reimportedHub, List.find?_map, Option.map_map]
        simp only [Function.comp_def, hid, hname]
      rw [hgroup]
      rfl
  | watchdogRules =>
      refine orderBy_rewritten rulesTable_lawful.update_name fun r hr => ?_
      exact ruleRecord_rewritten hstored.siteIds (hstored.rules r hr)
  | schedules =>
      refine orderBy_rewritten schedulesTable_lawful.update_name fun s hs => ?_
      exact scheduleRecord_rewritten (hstored.schedules s hs)
  | scenes =>
      refine orderBy_rewritten scenesTable_lawful.update_name fun s hs => ?_
      exact sceneRecord_rewritten (hstored.scenes s hs).2
  | externalSources =>
      refine orderBy_rewritten sourcesTable_lawful.update_name fun e he => ?_
      exact sourceRecord_rewritten includeSecrets includeSecrets' (hstored.sources e he)

end

end RebooterHub.Backup
