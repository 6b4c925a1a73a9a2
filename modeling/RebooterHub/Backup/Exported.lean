import RebooterHub.Backup.Announced

/-!
# Backup — Exported

What a plan makes of an exported document.

* `Portable`: what can be told apart by its natural key.
* `WellStored`: what the database promises of the tables.
* `exists_plan`: there is a plan for an exported document, on any hub.
* `writtenRecords_named` and the like: which of its records the plan writes.
-/

namespace RebooterHub.Backup
open RebooterHub.Fallible RebooterHub.NaturalKey RebooterHub.Rows
open RebooterHub.Watchdog (RuleRow field strippedText)

/-! ### Hubs -/

/-- Names that are keys: different ones, none of them blank, without blanks around them. -/
structure NaturalNames (names : List String) : Prop where
  nodup : names.Nodup
  plain : ∀ n ∈ names, n ≠ "" ∧ Text.stripped n = n

/-- The names and the MACs of a hub are keys. -/
structure Portable (hub : Hub) : Prop where
  settings : NaturalNames (hub.settings.map (·.name))
  sites : NaturalNames (hub.sites.map (·.name))
  groups : NaturalNames (hub.groups.map (·.name))
  rules : NaturalNames (hub.rules.map (·.name))
  schedules : NaturalNames (hub.schedules.map (·.name))
  scenes : NaturalNames (hub.scenes.map (·.name))
  sources : NaturalNames (hub.sources.map (·.displayName))
  macs : NaturalNames (hub.devices.filterMap Device.mac?)

/-- The columns of a rule fit. -/
structure RuleColumns (env : Env) (r : RuleRow) : Prop where
  name : env.holds (.varchar 120) (.str r.name)
  description : env.nullable (.varchar 500) r.description
  failureThreshold : env.fitsInt r.rule.failureThreshold
  recoveryThreshold : env.fitsInt r.rule.recoveryThreshold
  windowSeconds : env.fitsInt r.rule.windowSeconds
  cooldownSeconds : env.fitsInt r.rule.cooldownSeconds
  maxRetries : env.fitsInt r.maxRetries
  retryDelaySeconds : env.fitsInt r.retryDelaySeconds

/-- The columns of a schedule fit. -/
structure ScheduleColumns (env : Env) (s : Schedule) : Prop where
  name : env.holds (.varchar 120) (.str s.name)
  description : env.nullable (.varchar 500) s.description
  kind : env.required (.varchar 40) s.kind
  recurrence : env.required (.varchar 20) s.recurrence
  atTimeUtc : env.nullable (.varchar 5) s.atTimeUtc
  durationSeconds : env.fitsInt s.durationSeconds
  powerOffSeconds : env.fitsInt s.powerOffSeconds
  postRebootHoldoffSeconds : env.fitsInt s.postRebootHoldoffSeconds

/-- The columns of a source fit; a host is a text, and the keys of a dict are different. -/
structure SourceColumns (env : Env) (e : ExternalSensorSource) : Prop where
  name : env.holds (.varchar 200) (.str e.displayName)
  kind : env.required (.varchar 40) e.kind
  host : ∃ text, e.host = .str text ∧ env.holds (.varchar 200) e.host
  port : env.fitsInt e.port
  pollIntervalSeconds : env.fitsInt e.pollIntervalSeconds
  config : ∀ cfg ∈ e.config, Keyed Prod.fst cfg

/-- What the database promises: primary keys, foreign keys and columns. -/
structure WellStored (env : Env) (hub : Hub) : Prop where
  siteIds : Keyed (·.id) hub.sites
  groupIds : Keyed (·.id) hub.groups
  ruleIds : Keyed (·.rule.id) hub.rules
  scheduleIds : Keyed (·.id) hub.schedules
  sceneIds : Keyed (·.id) hub.scenes
  sourceIds : Keyed (·.id) hub.sources
  deviceIds : Keyed (·.id) hub.devices
  memberships : hub.memberships.Nodup
  settings : ∀ r ∈ hub.settings, env.holds (.varchar 80) (.str r.name)
  sites : ∀ s ∈ hub.sites, env.holds (.varchar 120) (.str s.name) ∧ env.nullable .text s.description
  groups : ∀ g ∈ hub.groups, env.holds (.varchar 120) (.str g.name) ∧ env.nullable .text g.description
  rules : ∀ r ∈ hub.rules, RuleColumns env r
  schedules : ∀ s ∈ hub.schedules, ScheduleColumns env s
  scenes : ∀ s ∈ hub.scenes,
    env.holds (.varchar 120) (.str s.name) ∧ env.nullable (.varchar 500) s.description
  sources : ∀ e ∈ hub.sources, SourceColumns env e
  devices : devicesFit env hub.devices

/-! ### The document -/

variable {c : Collation} {now : String} {includeSecrets : Bool} {hub hub₀ : Hub} {s : Section}

theorem objects_map_obj {mss : List Members} : objects (mss.map .obj) = mss := by
  induction mss with
  | nil => rfl
  | cons ms mss ih =>
      rw [List.map_cons, objects_cons rfl, ih]

/-- The sections of an exported document. -/
theorem lookup_sections {records : Section → List Members} :
    (allSections.map fun s => (s.text, Json.arr ((records s).map .obj))).lookup s.text =
      some (.arr ((records s).map .obj)) := by
  cases s <;> rfl

theorem documentRecords_export : documentRecords (exportDocument c now includeSecrets hub) s =
    collectSections c includeSecrets hub s := by
  have hsections : field (exportDocument c now includeSecrets hub) "sections" =
      sectionsJson (collectSections c includeSecrets hub) := rfl
  rw [documentRecords, hsections, sectionsJson]
  dsimp only
  rw [field, lookup_sections, Option.getD_some]
  exact objects_map_obj

theorem sectionRecords_export {records : Section → List Members} :
    sectionRecords (allSections.map fun s => (s.text, .arr ((records s).map .obj))) s =
      .ok ((records s).map .obj) := by
  rw [sectionRecords, lookup_sections, Option.getD_some]
  cases records s <;> rfl

/-- The names of the records of a section, where the planner looks for them. -/
def Named (key : String) (mss : List Members) : Prop := ∀ ms ∈ mss, ∃ name, field ms key = .str name

theorem recordName_of_str {key name : String} {ms : Members} (h : field ms key = .str name) :
    recordName key ms = .ok (Text.stripped name) := by
  rw [recordName, h]
  rfl

theorem exists_planRuntimeSettings {existing : List String} {mss : List Members}
    (h : Named "name" mss) : ∃ items, planRuntimeSettings existing (mss.map .obj) = .ok items := by
  induction mss with
  | nil => exact ⟨[], rfl⟩
  | cons ms mss ih =>
      obtain ⟨name, hname⟩ := h ms List.mem_cons_self
      obtain ⟨items, hitems⟩ := ih fun ms' h' => h ms' (List.mem_cons_of_mem ms h')
      rw [List.map_cons, planRuntimeSettings, asRecord, ok_bind, recordName_of_str hname, ok_bind,
        hitems, ok_bind]
      exact ⟨_, rfl⟩

theorem exists_planKeyed {texts : NamedTexts} {existing seen : List String} {mss : List Members}
    (h : Named texts.key mss)
    (hnote : ∀ known, ∀ ms ∈ mss, ∃ note, texts.note known ms = .ok note) :
    ∃ items, planKeyed texts existing seen (mss.map .obj) = .ok items := by
  induction mss generalizing seen with
  | nil => exact ⟨[], rfl⟩
  | cons ms mss ih =>
      obtain ⟨name, hname⟩ := h ms List.mem_cons_self
      obtain ⟨note, hnotems⟩ := hnote (decide (Text.stripped name ∈ existing)) ms List.mem_cons_self
      have ih : ∀ seen, ∃ items, planKeyed texts existing seen (mss.map .obj) = .ok items := by
        intro seen
        exact ih (fun ms' h' => h ms' (List.mem_cons_of_mem ms h'))
          fun known ms' h' => hnote known ms' (List.mem_cons_of_mem ms h')
      rw [List.map_cons, planKeyed, asRecord, ok_bind, recordName_of_str hname, ok_bind]
      split
      · obtain ⟨items, hitems⟩ := ih seen
        rw [hitems, ok_bind]
        exact ⟨_, rfl⟩
      · split
        · obtain ⟨items, hitems⟩ := ih seen
          rw [hitems, ok_bind]
          exact ⟨_, rfl⟩
        · obtain ⟨items, hitems⟩ := ih (Text.stripped name :: seen)
          rw [hnotems, ok_bind, hitems, ok_bind]
          exact ⟨_, rfl⟩

theorem exists_planNamed {existing : List String} {mss : List Members} (h : Named "name" mss) :
    ∃ items, planNamed existing (mss.map .obj) = .ok items :=
  exists_planKeyed h fun _ _ _ => ⟨_, rfl⟩

theorem exists_planGroupMemberships {groups : List Group} {devices : List Device}
    {memberships : List GroupMembership} {mss : List Members} (hgroups : Named "group_name" mss)
    (hmacs : Named "device_mac" mss) :
    ∃ items, planGroupMemberships groups devices memberships (mss.map .obj) = .ok items := by
  refine exists_mapM fun rec hrec => ?_
  obtain ⟨ms, hms, rfl⟩ := List.mem_map.mp hrec
  obtain ⟨gname, hgname⟩ := hgroups ms hms
  obtain ⟨mac, hmac⟩ := hmacs ms hms
  rw [asRecord, ok_bind, recordName_of_str hgname, ok_bind, recordName_of_str hmac, ok_bind]
  exact ⟨_, rfl⟩

theorem exists_planDeviceConfig {devices : List Device} {mss : List Members}
    (h : Named "mac_address" mss) : ∃ items, planDeviceConfig devices (mss.map .obj) = .ok items := by
  refine exists_mapM fun rec hrec => ?_
  obtain ⟨ms, hms, rfl⟩ := List.mem_map.mp hrec
  obtain ⟨mac, hmac⟩ := h ms hms
  rw [asRecord, ok_bind, recordName_of_str hmac, ok_bind]
  exact ⟨_, rfl⟩

/-- The records of a query have names when each row's has one. -/
theorem named_map {α : Type} {key : String} {nameOf : α → String} {rec : α → Members} {rows : List α}
    (h : ∀ a, field (rec a) key = .str (nameOf a)) : Named key (rows.map rec) := by
  intro ms hms
  obtain ⟨a, -, rfl⟩ := List.mem_map.mp hms
  exact ⟨nameOf a, h a⟩

theorem membershipRecord_eq_some {groups : List Group} {devices : List Device}
    {m : GroupMembership} {ms : Members} : membershipRecord groups devices m = some ms ↔
      ∃ group, groups.find? (·.id = m.groupId) = some group ∧ group.name ≠ "" ∧
        ∃ device, devices.find? (·.id = m.deviceId) = some device ∧
          ∃ mac, device.mac? = some mac ∧
            ms = [("group_name", .str group.name), ("device_mac", .str mac)] := by
  rw [membershipRecord]
  constructor
  · intro h
    obtain ⟨gname, hgname, h⟩ := Option.bind_eq_some_iff.mp h
    obtain ⟨mac, hmac, h⟩ := Option.bind_eq_some_iff.mp h
    obtain ⟨hgname, hblank⟩ := Option.filter_eq_some_iff.mp hgname
    obtain ⟨group, hgroup, rfl⟩ := Option.map_eq_some_iff.mp hgname
    obtain ⟨device, hdevice, hmac⟩ := Option.bind_eq_some_iff.mp hmac
    exact ⟨group, hgroup, of_decide_eq_true hblank, device, hdevice, mac, hmac,
      (Option.some.inj h).symm⟩
  · rintro ⟨group, hgroup, hblank, device, hdevice, mac, hmac, rfl⟩
    rw [hgroup, hdevice, Option.map_some, Option.filter_some, if_pos (by simpa using hblank),
      Option.bind_some]
    dsimp only [Option.bind_eq_bind, Option.bind_some]
    rw [hmac]
    rfl

theorem deviceRecord_eq_some {d : Device} {r : String × Members} : deviceRecord d = some r ↔
    ∃ mac, d.mac? = some mac ∧ ¬(d.desiredConfig = .null ∧ d.desiredMode = .null) ∧
      r = (mac, [("mac_address", .str mac), ("desired_config", d.desiredConfig),
        ("desired_mode", d.desiredMode)]) := by
  rw [deviceRecord]
  constructor
  · intro h
    obtain ⟨mac, hmac, h⟩ := Option.bind_eq_some_iff.mp h
    split at h
    · cases h
    · next hdesired => exact ⟨mac, hmac, hdesired, (Option.some.inj h).symm⟩
  · rintro ⟨mac, hmac, hdesired, rfl⟩
    rw [hmac]
    exact if_neg hdesired

theorem exists_planSection (c : Collation) (includeSecrets : Bool) (hub hub₀ : Hub) (s : Section) :
    ∃ items, planSection hub₀ s ((collectSections c includeSecrets hub s).map .obj) = .ok items := by
  cases s with
  | runtimeSettings => exact exists_planRuntimeSettings (named_map fun _ => rfl)
  | sites | groups | watchdogRules | schedules | scenes =>
      exact exists_planNamed (named_map fun _ => rfl)
  | groupMemberships =>
      have hrecords : ∀ ms ∈ collectSections c includeSecrets hub .groupMemberships,
          ∃ gname mac, ms = [("group_name", .str gname), ("device_mac", .str mac)] := by
        intro ms hms
        obtain ⟨m, -, hm⟩ := List.mem_filterMap.mp hms
        obtain ⟨group, -, -, device, -, mac, -, rfl⟩ := membershipRecord_eq_some.mp hm
        exact ⟨group.name, mac, rfl⟩
      refine exists_planGroupMemberships (fun ms hms => ?_) fun ms hms => ?_
      · obtain ⟨gname, mac, rfl⟩ := hrecords ms hms
        exact ⟨gname, rfl⟩
      · obtain ⟨gname, mac, rfl⟩ := hrecords ms hms
        exact ⟨mac, rfl⟩
  | externalSources =>
      refine exists_planKeyed (named_map fun _ => rfl) fun known ms hms => ?_
      obtain ⟨e, -, rfl⟩ := List.mem_map.mp hms
      have hconfig : ∃ cfg, (field (sourceRecord includeSecrets e) "config").orEmpty = .obj cfg := by
        change ∃ cfg, (configJson _).orEmpty = .obj cfg
        generalize (if includeSecrets then e.config else redactExtConfig e.config) = config
        cases config with
        | none => exact ⟨[], rfl⟩
        | some cfg => cases cfg <;> exact ⟨_, rfl⟩
      obtain ⟨cfg, hcfg⟩ := hconfig
      dsimp only [sourceTexts]
      rw [hcfg]
      exact ⟨_, rfl⟩
  | deviceConfig =>
      refine exists_planDeviceConfig fun ms hms => ?_
      obtain ⟨r, hr, rfl⟩ := List.mem_map.mp hms
      obtain ⟨d, -, hd⟩ := List.mem_filterMap.mp (c.mem_orderBy.mp hr)
      obtain ⟨mac, -, -, rfl⟩ := deviceRecord_eq_some.mp hd
      exact ⟨mac, rfl⟩

/-- There is a plan for an exported document, on any hub. -/
theorem exists_plan {decrypt : Members → Except BackupError Json} {raw : Json}
    (hopen : openDocument decrypt raw = .ok (exportDocument c now includeSecrets hub)) :
    ∃ plan, parseAndPlan decrypt hub₀ raw = .ok plan := by
  let sections : Members :=
    allSections.map fun s => (s.text, .arr ((collectSections c includeSecrets hub s).map .obj))
  have hsections : documentSections (exportDocument c now includeSecrets hub) = .ok sections := rfl
  obtain ⟨plans, hplans⟩ : ∃ plans, (allSections.mapM fun s => do
      return (⟨s, ← planSection hub₀ s (← sectionRecords sections s)⟩ : SectionPlan)) =
        (.ok plans : Except PyError (List SectionPlan)) := by
    refine exists_mapM fun s _ => ?_
    obtain ⟨items, hitems⟩ := exists_planSection c includeSecrets hub hub₀ s
    rw [sectionRecords_export, ok_bind, hitems, ok_bind]
    exact ⟨_, rfl⟩
  rw [parseAndPlan, hopen, ok_bind, hsections, ok_bind, hplans]
  exact ⟨_, rfl⟩

/-! ### The records that are written -/

theorem rawText_of_str {key name : String} {ms : Members} (h : field ms key = .str name) :
    rawText key ms = name := by
  rw [rawText, h]

/-- All records of a section of natural names are written. -/
theorem firsts_orderBy {ρ : Type} {key : String} {nameOf : ρ → String} {rec : ρ → Members}
    {rows : List ρ} (hrec : ∀ r, field (rec r) key = .str (nameOf r))
    (hnames : NaturalNames (rows.map nameOf)) :
    firsts (strippedName key) "" [] ((c.orderBy nameOf rows).map rec) =
      (c.orderBy nameOf rows).map rec := by
  have hstripped : ∀ r ∈ c.orderBy nameOf rows, strippedName key (rec r) = nameOf r := by
    intro r hr
    rw [strippedName, rawText_of_str (hrec r)]
    exact (hnames.plain _ (List.mem_map_of_mem (c.mem_orderBy.mp hr))).2
  refine firsts_eq_self (fun ms hms => ?_) (fun _ _ => List.not_mem_nil) ?_
  · obtain ⟨r, hr, rfl⟩ := List.mem_map.mp hms
    rw [hstripped r hr]
    exact (hnames.plain _ (List.mem_map_of_mem (c.mem_orderBy.mp hr))).1
  · have hsame : ((c.orderBy nameOf rows).map rec).map (strippedName key) =
        (c.orderBy nameOf rows).map nameOf := by
      rw [List.map_map]
      exact List.map_congr_left hstripped
    rw [hsame]
    exact (c.orderBy_perm.map nameOf).nodup_iff.mpr hnames.nodup

variable {devices : List Device} {d : Device} {mac : String}

/-- A device with a natural MAC is found by it. -/
theorem NaturalNames.deviceByMac_eq (h : NaturalNames (devices.filterMap Device.mac?))
    (hd : d ∈ devices) (hmac : d.mac? = some mac) : deviceByMac devices mac = some d := by
  cases hfind : deviceByMac devices mac with
  | none =>
      rw [deviceByMac, List.find?_eq_none] at hfind
      exact absurd (decide_eq_true hmac) (hfind d (List.mem_reverse.mpr hd))
  | some d' =>
      obtain ⟨hd', hmac'⟩ := find?_key hfind
      rw [eq_of_nodup_filterMap h.nodup (List.mem_reverse.mp hd') hd hmac' hmac]

theorem NaturalNames.groupByName_eq {groups : List Group} {g : Group}
    (h : NaturalNames (groups.map (·.name))) (hg : g ∈ groups) :
    groupByName groups g.name = some g := by
  have hkeyed : Keyed (·.name) groups.reverse := by
    rw [Keyed, List.map_reverse, List.nodup_reverse]
    exact h.nodup
  exact hkeyed.find? (List.mem_reverse.mpr hg)

/-- A membership of the hub is not planned again. -/
theorem writtenRecords_memberships (hgroups : NaturalNames (hub.groups.map (·.name)))
    (hmacs : NaturalNames (hub.devices.filterMap Device.mac?)) :
    writtenRecords hub (collectSections c includeSecrets hub) .groupMemberships = [] := by
  refine List.filter_eq_nil_iff.mpr fun ms hms => ?_
  obtain ⟨m, hm, hrec⟩ := List.mem_filterMap.mp hms
  obtain ⟨group, hgroup, -, device, hdevice, mac, hmac, rfl⟩ := membershipRecord_eq_some.mp hrec
  obtain ⟨hgmem, hgid⟩ := find?_key hgroup
  obtain ⟨hdmem, hdid⟩ := find?_key hdevice
  have hgname : strippedName "group_name"
      [("group_name", .str group.name), ("device_mac", .str mac)] = group.name :=
    (hgroups.plain _ (List.mem_map_of_mem hgmem)).2
  have hdmac : strippedName "device_mac"
      [("group_name", .str group.name), ("device_mac", .str mac)] = mac :=
    (hmacs.plain _ (List.mem_filterMap.mpr ⟨device, hdmem, hmac⟩)).2
  have hhas : HasMembership hub group.name mac :=
    ⟨group, hgroups.groupByName_eq hgmem, device, hmacs.deviceByMac_eq hdmem hmac,
      by rwa [hgid, hdid]⟩
  simp [joinable, hgname, hdmac, hhas]

/-! ### Exported records read back -/

@[simp] theorem orEmpty_orEmpty (x : Json) : x.orEmpty.orEmpty = x.orEmpty := by
  cases hx : x.truthy with
  | true =>
      have hself : x.orEmpty = x := if_pos hx
      rw [hself, hself]
  | false =>
      have hempty : x.orEmpty = .obj [] := if_neg (by simp [hx])
      rw [hempty]
      rfl

@[simp] theorem orNil_orNil (x : Json) : x.orNil.orNil = x.orNil := by
  cases hx : x.truthy with
  | true =>
      have hself : x.orNil = x := if_pos hx
      rw [hself, hself]
  | false =>
      have hempty : x.orNil = .arr [] := if_neg (by simp [hx])
      rw [hempty]
      rfl

/-- The name of a site that is there. -/
theorem siteNameById_cases (sites : List Site) (siteId : Option String) :
    siteNameById sites siteId = .null ∨
      ∃ s ∈ sites, siteNameById sites siteId = .str s.name := by
  rw [siteNameById]
  split
  · next s hs =>
      obtain ⟨id, -, hfind⟩ := Option.bind_eq_some_iff.mp hs
      exact .inr ⟨s, List.mem_of_find?_eq_some hfind, rfl⟩
  · exact .inl rfl

/-- A site is named by its id. -/
theorem siteNameById_id {sites : List Site} (hids : Keyed (·.id) sites) {s : Site} (hs : s ∈ sites) :
    siteNameById sites (some s.id) = .str s.name := by
  rw [siteNameById, Option.bind_some, hids.find? hs]

/-- The sites there are name the site of the record, if it has one. -/
def KnowsSite (sites : List Site) (ms : Members) : Prop :=
  field ms "site_name" = .null ∨ ∃ s ∈ sites, field ms "site_name" = .str s.name

theorem exists_find_name {sites : List Site} {s : Site} (hs : s ∈ sites) :
    ∃ s' ∈ sites, sites.reverse.find? (·.name = s.name) = some s' ∧ s'.name = s.name := by
  cases hfind : sites.reverse.find? (·.name = s.name) with
  | none => exact absurd (List.mem_map_of_mem (List.mem_reverse.mpr hs)) (find?_eq_none_iff.mp hfind)
  | some s' =>
      obtain ⟨hmem, hname⟩ := find?_key hfind
      exact ⟨s', List.mem_reverse.mp hmem, rfl, hname⟩

/-- The site that a group's record names. -/
theorem siteByName_knows {sites : List Site} {ms : Members} (hids : Keyed (·.id) sites)
    (h : KnowsSite sites ms) :
    ∃ siteId, siteByName sites ms = .ok siteId ∧ siteNameById sites siteId = field ms "site_name" := by
  rcases h with h | ⟨s, hs, h⟩
  · exact ⟨none, by rw [siteByName, h], h.symm⟩
  · obtain ⟨s', hs', hfind, hname⟩ := exists_find_name hs
    refine ⟨some s'.id, ?_, ?_⟩
    · rw [siteByName, h]
      dsimp only
      rw [hfind, Option.map_some]
    rw [siteNameById_id hids hs', hname, h]

theorem lookup_names {sites : List Site} {name : String} :
    (sites.map fun s => (s.name, s.id)).lookup name = (sites.find? (·.name = name)).map (·.id) := by
  induction sites with
  | nil => rfl
  | cons s sites ih =>
      rw [List.map_cons, List.lookup_cons, List.find?_cons, ih]
      by_cases h : s.name = name
      · simp [h]
      · simp [h, beq_false_of_ne (Ne.symm h)]

/-- The site that a rule's record names. -/
theorem importedSite_knows {sites : List Site} {ms : Members} (hids : Keyed (·.id) sites)
    (h : KnowsSite sites ms) :
    ∃ siteId, Watchdog.importedSite (sites.reverse.map fun s => (s.name, s.id)) ms = .ok siteId ∧
      siteNameById sites (refId siteId) = field ms "site_name" := by
  rcases h with h | ⟨s, hs, h⟩
  · exact ⟨.null, by rw [Watchdog.importedSite, h], h.symm⟩
  · obtain ⟨s', hs', hfind, hname⟩ := exists_find_name hs
    refine ⟨.str s'.id, ?_, ?_⟩
    · rw [Watchdog.importedSite, h]
      dsimp only
      rw [lookup_names, hfind, Option.map_some]
    rw [refId, siteNameById_id hids hs', hname, h]

/-- The fields of an exported rule. -/
def ruleValues (siteId : Json) (r : RuleRow) : RuleFields where
  description := r.description
  enabled := r.rule.enabled
  probe := r.rule.probe.orEmpty
  target := r.rule.target.orEmpty
  action := r.rule.action.orEmpty
  escalation := Watchdog.orStop r.rule.escalation.orEmpty
  maintenanceWindows := r.rule.maintenanceWindows.orNil
  failureThreshold := r.rule.failureThreshold
  recoveryThreshold := r.rule.recoveryThreshold
  windowSeconds := r.rule.windowSeconds
  cooldownSeconds := r.rule.cooldownSeconds
  maxRetries := r.maxRetries
  retryDelaySeconds := r.retryDelaySeconds
  siteId := siteId

theorem ruleFields_record {sites sites₀ : List Site} {r : RuleRow} {siteId : Json}
    (h : Watchdog.importedSite (sites.reverse.map fun s => (s.name, s.id)) (ruleRecord sites₀ r) =
      .ok siteId) : ruleFields sites (ruleRecord sites₀ r) = .ok (ruleValues siteId r) := by
  have hread : ruleFields sites (ruleRecord sites₀ r) = .ok { ruleValues siteId r with
      probe := r.rule.probe.orEmpty.orEmpty, target := r.rule.target.orEmpty.orEmpty
      action := r.rule.action.orEmpty.orEmpty
      maintenanceWindows := r.rule.maintenanceWindows.orNil.orNil } := by
    rw [ruleFields, h]
    rfl
  rw [hread]
  simp only [orEmpty_orEmpty, orNil_orNil]
  rfl

/-- The fields of an exported schedule. -/
def scheduleValues (s : Schedule) : ScheduleFields where
  description := s.description
  enabled := s.enabled
  kind := s.kind
  recurrence := s.recurrence
  atTimeUtc := s.atTimeUtc
  weekdays := s.weekdays.orNil
  durationSeconds := s.durationSeconds
  target := s.target.orEmpty
  powerOffSeconds := s.powerOffSeconds
  postRebootHoldoffSeconds := s.postRebootHoldoffSeconds

theorem scheduleFields_record (s : Schedule) :
    scheduleFields (scheduleRecord s) = .ok (scheduleValues s) := by
  have hread : scheduleFields (scheduleRecord s) = .ok { scheduleValues s with
      weekdays := s.weekdays.orNil.orNil, target := s.target.orEmpty.orEmpty } := rfl
  rw [hread]
  simp only [orEmpty_orEmpty, orNil_orNil]
  rfl

/-- The configuration of a source as it is exported. -/
def exportedConfig (includeSecrets : Bool) (e : ExternalSensorSource) : Option Members :=
  if includeSecrets then e.config else redactExtConfig e.config

/-- The fields of an exported source. -/
def sourceValues (includeSecrets : Bool) (e : ExternalSensorSource) : SourceFields where
  kind := e.kind
  host := e.host
  port := e.port
  enabled := e.enabled
  pollIntervalSeconds := e.pollIntervalSeconds
  config := dropRedacted ((exportedConfig includeSecrets e).getD [])

theorem sourceFields_record {e : ExternalSensorSource} (hhost : ∃ text, e.host = .str text) :
    sourceFields (sourceRecord includeSecrets e) = .ok (sourceValues includeSecrets e) := by
  obtain ⟨text, hhost⟩ := hhost
  have hconfig : asRecord (field (sourceRecord includeSecrets e) "config").orEmpty =
      .ok ((exportedConfig includeSecrets e).getD []) := by
    change asRecord (configJson (exportedConfig includeSecrets e)).orEmpty = _
    cases exportedConfig includeSecrets e with
    | none => rfl
    | some cfg => cases cfg <;> rfl
  have htext : (if (field (sourceRecord includeSecrets e) "host").truthy then
      field (sourceRecord includeSecrets e) "host" else .str "") = e.host := by
    change (if e.host.truthy then e.host else .str "") = e.host
    rw [hhost]
    by_cases hblank : text = ""
    · rw [hblank]
      rfl
    · exact if_pos (by simpa [Json.truthy] using hblank)
  rw [sourceFields, hconfig, htext]
  rfl

end RebooterHub.Backup
