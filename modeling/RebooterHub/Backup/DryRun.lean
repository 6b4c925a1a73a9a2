import RebooterHub.Backup.Announced

/-!
# Backup — Dry run

Whether an import does what its plan announced.

A planner strips a record's name, an applier does not; a planner does not look at the columns, and
does not know which groups there will be when the memberships are written.

* `DryRunAgrees`: the import returns, and does to each record what the plan announced.
* `ImportAgrees`: what the records and the hub have to satisfy.
* `dryRunAgrees_iff`: the dry run agrees exactly then.
-/

namespace RebooterHub.Backup
open RebooterHub.Fallible RebooterHub.NaturalKey RebooterHub.Rows
open RebooterHub.Logged (Returns)
open RebooterHub.Watchdog (field fieldOr importedSite)

/-! ### The agreement -/

/-- An import did what was announced: record by record, and count by count. -/
structure AsPlanned (plan : ImportPlan) (r : ImportResult) : Prop where
  deeds : ∀ s, r.deeds s = (plan.items s).map (·.disposition.deed)
  created : ∀ sp ∈ plan.sections, r.count sp.part .created = sp.counts .create
  updated : ∀ sp ∈ plan.sections, r.count sp.part .updated = sp.counts .update
  skipped : ∀ sp ∈ plan.sections,
    r.count sp.part .skipped = sp.counts .skip + sp.counts .conflict

/-- `apply_plan` does not fail, and does what was announced. -/
def DryRunAgrees (env : Env) (hub : Hub) (plan : ImportPlan) : Prop :=
  ∃ hub' r, applyPlan env hub plan = .ok (hub', r) ∧ AsPlanned plan r

/-- The counts follow from the records. -/
theorem asPlanned_of_deeds {plan : ImportPlan} {r : ImportResult}
    (hparts : plan.sections.map (·.part) = allSections)
    (h : ∀ s, r.deeds s = (plan.items s).map (·.disposition.deed)) : AsPlanned plan r := by
  have hitems : ∀ sp ∈ plan.sections, plan.items sp.part = sp.items := by
    intro sp hsp
    have hkeyed : Keyed (·.part) plan.sections := by
      rw [Keyed, hparts]
      decide
    rw [ImportPlan.items, hkeyed.find? hsp]
  have hcount : ∀ sp ∈ plan.sections, ∀ d, r.count sp.part d =
      sp.items.countP fun it => it.disposition.deed = d := by
    intro sp hsp d
    rw [ImportResult.count, h, hitems sp hsp, List.count, List.countP_map]
    refine List.countP_congr fun it _ => ?_
    simp
  have hsame : ∀ (items : List PlanItem) d p, (∀ x : Disposition, x.deed = d ↔ x = p) →
      items.countP (fun it => it.disposition.deed = d) =
        items.countP fun it => it.disposition = p := by
    intro items d p hdp
    exact List.countP_congr fun it _ => by simp [hdp]
  refine ⟨h, fun sp hsp => ?_, fun sp hsp => ?_, fun sp hsp => ?_⟩
  · rw [hcount sp hsp, SectionPlan.counts]
    exact hsame _ _ _ fun x => by cases x <;> simp [Disposition.deed]
  · rw [hcount sp hsp, SectionPlan.counts]
    exact hsame _ _ _ fun x => by cases x <;> simp [Disposition.deed]
  · rw [hcount sp hsp, SectionPlan.counts, SectionPlan.counts]
    induction sp.items with
    | nil => rfl
    | cons it items ih =>
        rw [List.countP_cons, List.countP_cons, List.countP_cons, ih]
        cases it.disposition <;> simp [Disposition.deed] <;> omega

/-! ### What the records have to satisfy -/

/-- A record goes where it was planned to: its name is known with the blanks around it when it is
known without, and the row that it makes or changes fits. -/
def Lands (key : String) (names : List String) (creates updates : Members → Prop) (ms : Members) :
    Prop :=
  (rawText key ms ∈ names ↔ strippedName key ms ∈ names) ∧
    if rawText key ms ∈ names then updates ms else creates ms

/-- The `site_name` can be looked up. -/
def NamesSite (ms : Members) : Prop :=
  match field ms "site_name" with
  | .arr _ | .obj _ => False
  | _ => True

/-- The value is read as an integer, which fits its column. -/
def FitsInteger (env : Env) (v : Json) : Prop := ∃ n, v.toInt = .ok n ∧ env.fitsInt n

/-- A setting that makes a row. -/
def SettingCreates (env : Env) (ms : Members) : Prop :=
  env.holds (.varchar 80) (.str (rawText "name" ms))

/-- A site that changes a row. -/
def SiteUpdates (env : Env) (ms : Members) : Prop := env.nullable .text (field ms "description")

/-- A group that changes a row. -/
def GroupUpdates (env : Env) (ms : Members) : Prop :=
  NamesSite ms ∧ env.nullable .text (field ms "description")

/-- A rule that changes a row. -/
structure RuleUpdates (env : Env) (ms : Members) : Prop where
  site : NamesSite ms
  description : env.nullable (.varchar 500) (field ms "description")
  failureThreshold : FitsInteger env (fieldOr ms "failure_threshold" (.int 3))
  recoveryThreshold : FitsInteger env (fieldOr ms "recovery_threshold" (.int 2))
  windowSeconds : FitsInteger env (fieldOr ms "window_seconds" (.int 60))
  cooldownSeconds : FitsInteger env (fieldOr ms "cooldown_seconds" (.int 300))
  maxRetries : FitsInteger env (fieldOr ms "max_retries" (.int 3))
  retryDelaySeconds : FitsInteger env (fieldOr ms "retry_delay_seconds" (.int 60))

/-- A schedule with this `recurrence` that changes a row. -/
structure ScheduleFits (env : Env) (recurrence : Json) (ms : Members) : Prop where
  description : env.nullable (.varchar 500) (field ms "description")
  kind : env.required (.varchar 40) (field ms "kind")
  recurrence : env.required (.varchar 20) recurrence
  atTimeUtc : env.nullable (.varchar 5) (field ms "at_time_utc")
  durationSeconds : FitsInteger env (fieldOr ms "duration_seconds" (.int 0))
  powerOffSeconds : FitsInteger env (fieldOr ms "power_off_seconds" (.int 5))
  postRebootHoldoffSeconds : FitsInteger env (fieldOr ms "post_reboot_holdoff_seconds" (.int 180))

/-- A schedule that changes a row. -/
def ScheduleUpdates (env : Env) (ms : Members) : Prop := ScheduleFits env (field ms "recurrence") ms

/-- A schedule that makes a row; a new row without a recurrence has the default one. -/
def ScheduleCreates (env : Env) (ms : Members) : Prop :=
  ScheduleFits env
    (if field ms "recurrence" = .null then .str "daily" else field ms "recurrence") ms

/-- A scene that changes a row. -/
def SceneUpdates (env : Env) (ms : Members) : Prop :=
  env.nullable (.varchar 500) (field ms "description")

/-- A source that changes a row. -/
structure SourceUpdates (env : Env) (ms : Members) : Prop where
  config : ∃ cfg, asRecord (field ms "config").orEmpty = .ok cfg
  kind : env.required (.varchar 40) (field ms "kind")
  host : env.holds (.varchar 200)
    (if (field ms "host").truthy then field ms "host" else .str "")
  port : FitsInteger env (fieldOr ms "port" (.int 8060))
  pollIntervalSeconds : FitsInteger env (fieldOr ms "poll_interval_seconds" (.int 30))

/-- A named record that makes a row of an organization. -/
def Creates (env : Env) (key : String) (n : Nat) (updates : Members → Prop) (ms : Members) : Prop :=
  env.fitsNew n (rawText key ms) ∧ updates ms

/-- A membership that is made: its group and its device are found by their names as they stand,
among the groups that there will be, and do not make a pair yet. -/
def Joins (hub : Hub) (written : Section → List Members) (ms : Members) : Prop :=
  ∃ gname, field ms "group_name" = .str gname ∧
    (gname ∈ hub.groups.map (·.name) ∨ gname ∈ (written .groups).map (rawText "name")) ∧
      (deviceByMac hub.devices (rawText "device_mac" ms)).isSome ∧
        ¬HasMembership hub gname (rawText "device_mac" ms)

/-- What the records that are to be written have to satisfy. -/
structure ImportAgrees (env : Env) (hub : Hub) (written : Section → List Members) : Prop where
  settings : ∀ ms ∈ written .runtimeSettings,
    Lands "name" (hub.settings.map (·.name)) (SettingCreates env) (fun _ => True) ms
  settingsOnce : (((written .runtimeSettings).filter fun ms =>
    rawText "name" ms ∉ hub.settings.map (·.name)).map (rawText "name")).Nodup
  sites : ∀ ms ∈ written .sites, Lands "name" (hub.sites.map (·.name))
    (Creates env "name" 120 (SiteUpdates env)) (SiteUpdates env) ms
  groups : ∀ ms ∈ written .groups, Lands "name" (hub.groups.map (·.name))
    (Creates env "name" 120 (GroupUpdates env)) (GroupUpdates env) ms
  memberships : ∀ ms ∈ written .groupMemberships, Joins hub written ms
  membershipsOnce : ((written .groupMemberships).map fun ms =>
    (rawText "group_name" ms, rawText "device_mac" ms)).Nodup
  rules : ∀ ms ∈ written .watchdogRules, Lands "name" (hub.rules.map (·.name))
    (Creates env "name" 120 (RuleUpdates env)) (RuleUpdates env) ms
  schedules : ∀ ms ∈ written .schedules, Lands "name" (hub.schedules.map (·.name))
    (Creates env "name" 120 (ScheduleCreates env)) (ScheduleUpdates env) ms
  scenes : ∀ ms ∈ written .scenes, Lands "name" (hub.scenes.map (·.name))
    (Creates env "name" 120 (SceneUpdates env)) (SceneUpdates env) ms
  sources : ∀ ms ∈ written .externalSources, Lands "display_name" (hub.sources.map (·.displayName))
    (Creates env "display_name" 200 (SourceUpdates env)) (SourceUpdates env) ms
  devices : ∀ ms ∈ written .deviceConfig,
    (deviceByMac hub.devices (rawText "mac_address" ms)).isSome
  modes : ∀ pre ms post, written .deviceConfig = pre ++ ms :: post →
    rawText "mac_address" ms ∉ post.map (rawText "mac_address") →
      env.nullable (.varchar 40) (field ms "desired_mode")

/-- What the database and `new_id()` promise. -/
structure Stored (env : Env) (hub : Hub) : Prop where
  groups : Keyed (·.id) hub.groups
  devices : Keyed (·.id) hub.devices
  memberships : ∀ m ∈ hub.memberships, m.groupId ∈ hub.groups.map (·.id)
  modes : devicesFit env hub.devices
  newIds : Function.Injective (env.newId .groups)
  freshIds : ∀ n, env.newId .groups n ∉ hub.groups.map (·.id)

/-! ### Writing into the tables -/

section
variable {env : Env} {ms : Members}

theorem exists_siteByName {sites : List Site} :
    (∃ site, siteByName sites ms = .ok site) ↔ NamesSite ms := by
  rw [siteByName, NamesSite]
  split <;> simp_all

theorem exists_importedSite {sites : List (String × String)} :
    (∃ site, importedSite sites ms = .ok site) ↔ NamesSite ms := by
  rw [importedSite, NamesSite]
  split <;> simp_all

theorem sitesTable_create {rows : List Site} :
    (∃ row, (sitesTable env).create rows ms = .ok row) ↔
      Creates env "name" 120 (SiteUpdates env) ms := by
  rw [sitesTable, exists_admitted, Bool.and_eq_true, Creates, SiteUpdates]

theorem sitesTable_update : (∃ g, (sitesTable env).update ms = .ok g) ↔ SiteUpdates env ms := by
  rw [sitesTable, exists_admitted, SiteUpdates]

theorem groupsTable_create {sites : List Site} {rows : List Group} :
    (∃ row, (groupsTable env sites).create rows ms = .ok row) ↔
      Creates env "name" 120 (GroupUpdates env) ms := by
  simp only [groupsTable, exists_bind, exists_admitted, raising_eq_ok, Bool.and_eq_true, Creates,
    GroupUpdates, exists_and_right, exists_siteByName]
  exact and_left_comm

theorem groupsTable_update {sites : List Site} :
    (∃ g, (groupsTable env sites).update ms = .ok g) ↔ GroupUpdates env ms := by
  simp only [groupsTable, exists_bind, exists_admitted, raising_eq_ok, GroupUpdates,
    exists_and_right, exists_siteByName]

theorem exists_ruleFields {sites : List Site} :
    (∃ f, ruleFields sites ms = .ok f ∧ f.fits env) ↔ RuleUpdates env ms := by
  simp only [ruleFields, exists_bind_and, pure, Except.pure, Except.ok.injEq, exists_eq_left',
    RuleFields.fits, Bool.and_eq_true]
  constructor
  · rintro ⟨site, hsite, n₁, h₁, n₂, h₂, n₃, h₃, n₄, h₄, n₅, h₅, n₆, h₆, hfits⟩
    obtain ⟨⟨⟨⟨⟨⟨hdescription, f₁⟩, f₂⟩, f₃⟩, f₄⟩, f₅⟩, f₆⟩ := hfits
    exact ⟨exists_importedSite.mp ⟨site, hsite⟩, hdescription, ⟨n₁, h₁, f₁⟩, ⟨n₂, h₂, f₂⟩,
      ⟨n₃, h₃, f₃⟩, ⟨n₄, h₄, f₄⟩, ⟨n₅, h₅, f₅⟩, ⟨n₆, h₆, f₆⟩⟩
  · rintro ⟨hsite, hdescription, ⟨n₁, h₁, f₁⟩, ⟨n₂, h₂, f₂⟩, ⟨n₃, h₃, f₃⟩, ⟨n₄, h₄, f₄⟩,
      ⟨n₅, h₅, f₅⟩, ⟨n₆, h₆, f₆⟩⟩
    obtain ⟨site, hsite⟩ := exists_importedSite.mpr hsite
    exact ⟨site, hsite, n₁, h₁, n₂, h₂, n₃, h₃, n₄, h₄, n₅, h₅, n₆, h₆,
      ⟨⟨⟨⟨⟨⟨hdescription, f₁⟩, f₂⟩, f₃⟩, f₄⟩, f₅⟩, f₆⟩⟩

theorem rulesTable_create {sites : List Site} {rows : List Watchdog.RuleRow} :
    (∃ row, (rulesTable env sites).create rows ms = .ok row) ↔
      Creates env "name" 120 (RuleUpdates env) ms := by
  simp only [rulesTable, exists_bind, exists_admitted, raising_eq_ok, Bool.and_eq_true, Creates]
  calc (∃ f, ruleFields sites ms = .ok f ∧ env.fitsNew 120 (rawText "name" ms) ∧ f.fits env)
      ↔ ∃ f, env.fitsNew 120 (rawText "name" ms) ∧ ruleFields sites ms = .ok f ∧ f.fits env :=
        exists_congr fun f => and_left_comm
    _ ↔ env.fitsNew 120 (rawText "name" ms) ∧ RuleUpdates env ms := by
        rw [exists_and_left, exists_ruleFields]

theorem rulesTable_update {sites : List Site} :
    (∃ g, (rulesTable env sites).update ms = .ok g) ↔ RuleUpdates env ms := by
  simp only [rulesTable, exists_bind, exists_admitted, raising_eq_ok]
  exact exists_ruleFields

theorem exists_scheduleFields {r : Json → Json} :
    (∃ f, scheduleFields ms = .ok f ∧ { f with recurrence := r f.recurrence }.fits env) ↔
      ScheduleFits env (r (field ms "recurrence")) ms := by
  simp only [scheduleFields, exists_bind_and, pure, Except.pure, Except.ok.injEq, exists_eq_left',
    ScheduleFields.fits, Bool.and_eq_true]
  constructor
  · rintro ⟨n₁, h₁, n₂, h₂, n₃, h₃, hfits⟩
    obtain ⟨⟨⟨⟨⟨⟨hdescription, hkind⟩, hrecurrence⟩, htime⟩, f₁⟩, f₂⟩, f₃⟩ := hfits
    exact ⟨hdescription, hkind, hrecurrence, htime, ⟨n₁, h₁, f₁⟩, ⟨n₂, h₂, f₂⟩, ⟨n₃, h₃, f₃⟩⟩
  · rintro ⟨hdescription, hkind, hrecurrence, htime, ⟨n₁, h₁, f₁⟩, ⟨n₂, h₂, f₂⟩, ⟨n₃, h₃, f₃⟩⟩
    exact ⟨n₁, h₁, n₂, h₂, n₃, h₃,
      ⟨⟨⟨⟨⟨⟨hdescription, hkind⟩, hrecurrence⟩, htime⟩, f₁⟩, f₂⟩, f₃⟩⟩

theorem schedulesTable_create {rows : List Schedule} :
    (∃ row, (schedulesTable env).create rows ms = .ok row) ↔
      Creates env "name" 120 (ScheduleCreates env) ms := by
  simp only [schedulesTable, exists_bind, exists_admitted, raising_eq_ok, Bool.and_eq_true, Creates]
  calc (∃ f, scheduleFields ms = .ok f ∧ env.fitsNew 120 (rawText "name" ms) ∧ f.defaulted.fits env)
      ↔ ∃ f, env.fitsNew 120 (rawText "name" ms) ∧
          scheduleFields ms = .ok f ∧ f.defaulted.fits env := exists_congr fun f => and_left_comm
    _ ↔ env.fitsNew 120 (rawText "name" ms) ∧ ScheduleCreates env ms := by
        rw [exists_and_left, ScheduleCreates]
        exact and_congr_right' (exists_scheduleFields (r := fun x => if x = .null then _ else x))

theorem schedulesTable_update :
    (∃ g, (schedulesTable env).update ms = .ok g) ↔ ScheduleUpdates env ms := by
  simp only [schedulesTable, exists_bind, exists_admitted, raising_eq_ok]
  exact exists_scheduleFields (r := id)

theorem scenesTable_create {rows : List Scene} :
    (∃ row, (scenesTable env).create rows ms = .ok row) ↔
      Creates env "name" 120 (SceneUpdates env) ms := by
  rw [scenesTable, exists_admitted, Bool.and_eq_true, Creates, SceneUpdates]

theorem scenesTable_update : (∃ g, (scenesTable env).update ms = .ok g) ↔ SceneUpdates env ms := by
  rw [scenesTable, exists_admitted, SceneUpdates]

theorem exists_sourceFields :
    (∃ f, sourceFields ms = .ok f ∧ f.fits env) ↔ SourceUpdates env ms := by
  simp only [sourceFields, exists_bind_and, pure, Except.pure, Except.ok.injEq, exists_eq_left',
    SourceFields.fits, Bool.and_eq_true]
  constructor
  · rintro ⟨cfg, hcfg, n₁, h₁, n₂, h₂, ⟨⟨⟨hkind, hhost⟩, f₁⟩, f₂⟩⟩
    exact ⟨⟨cfg, hcfg⟩, hkind, hhost, ⟨n₁, h₁, f₁⟩, ⟨n₂, h₂, f₂⟩⟩
  · rintro ⟨⟨cfg, hcfg⟩, hkind, hhost, ⟨n₁, h₁, f₁⟩, ⟨n₂, h₂, f₂⟩⟩
    exact ⟨cfg, hcfg, n₁, h₁, n₂, h₂, ⟨⟨⟨hkind, hhost⟩, f₁⟩, f₂⟩⟩

theorem sourcesTable_create {rows : List ExternalSensorSource} :
    (∃ row, (sourcesTable env).create rows ms = .ok row) ↔
      Creates env "display_name" 200 (SourceUpdates env) ms := by
  simp only [sourcesTable, exists_bind, exists_admitted, raising_eq_ok, Bool.and_eq_true, Creates]
  calc (∃ f, sourceFields ms = .ok f ∧ env.fitsNew 200 (rawText "display_name" ms) ∧ f.fits env)
      ↔ ∃ f, env.fitsNew 200 (rawText "display_name" ms) ∧ sourceFields ms = .ok f ∧ f.fits env :=
        exists_congr fun f => and_left_comm
    _ ↔ env.fitsNew 200 (rawText "display_name" ms) ∧ SourceUpdates env ms := by
        rw [exists_and_left, exists_sourceFields]

theorem sourcesTable_update :
    (∃ g, (sourcesTable env).update ms = .ok g) ↔ SourceUpdates env ms := by
  simp only [sourcesTable, exists_bind, exists_admitted, raising_eq_ok]
  exact exists_sourceFields

/-! ### The loops -/

/-- A table whose new rows may have any name. -/
theorem exists_returns_iff {ρ : Type} {m : Table ρ} {existing : List ρ} {key : String}
    {names : List String} {creates updates : Members → Prop} {written : List Members}
    (hkey : m.key = rawText key) (hnames : existing.map m.nameOf = names)
    (hcreate : ∀ rows ms, (∃ row, m.create rows ms = .ok row) ↔ creates ms)
    (hupdate : ∀ ms, (∃ g, m.update ms = .ok g) ↔ updates ms) :
    (∃ t, Returns (m.write existing) existing written (namedDeed key names) t) ↔
      ∀ ms ∈ written, Lands key names creates updates ms := by
  have hloop : (∃ t, Returns (m.write existing) existing written
      (fun ms => if strippedName key ms ∈ names then .updated else .created) t) ↔
      ∀ ms ∈ written, (m.key ms ∈ existing.map m.nameOf ↔ strippedName key ms ∈ names) ∧
        if m.key ms ∈ existing.map m.nameOf then updates ms else creates ms :=
    m.exists_returns_iff hcreate hupdate
  rw [hkey, hnames] at hloop
  exact hloop

/-- The settings: of two new ones of a name the second is refused. -/
theorem exists_settings_iff {existing : List RuntimeSetting} {written : List Members} :
    (∃ t, Returns ((settingsTable env).write existing) existing written
        (namedDeed "name" (existing.map (·.name))) t) ↔
      (∀ ms ∈ written, Lands "name" (existing.map (·.name)) (SettingCreates env) (fun _ => True) ms) ∧
        ((written.filter fun ms => rawText "name" ms ∉ existing.map (·.name)).map
          (rawText "name")).Nodup := by
  change (∃ t, Returns ((settingsTable env).write existing) existing written
    (fun ms => if strippedName "name" ms ∈ existing.map (·.name) then .updated else .created) t) ↔ _
  refine settingsTable_named.exists_returns_iff (fun rows ms => ?_) fun ms => ?_
  · rw [settingsTable, exists_admitted, Bool.and_eq_true, decide_eq_true_eq, SettingCreates]
  · exact iff_of_true ⟨_, rfl⟩ trivial

/-! ### Memberships -/

/-- The membership of the group and the device of these names. -/
def resolve (groups : List Group) (devices : List Device) (names : String × String) :
    Option GroupMembership := do
  let group ← groupByName groups names.1
  let device ← deviceByMac devices names.2
  return ⟨group.id, device.id⟩

theorem resolve_eq_some {groups : List Group} {devices : List Device} {names : String × String}
    {m : GroupMembership} : resolve groups devices names = some m ↔
      ∃ group, groupByName groups names.1 = some group ∧
        ∃ device, deviceByMac devices names.2 = some device ∧ ⟨group.id, device.id⟩ = m := by
  simp only [resolve, Option.bind_eq_bind, Option.bind_eq_some_iff, Option.pure_def,
    Option.some.injEq]

theorem deviceByMac_spec {devices : List Device} {mac : String} {d : Device}
    (h : deviceByMac devices mac = some d) : d ∈ devices ∧ d.mac? = some mac := by
  obtain ⟨hmem, hmac⟩ := find?_key h
  exact ⟨List.mem_reverse.mp hmem, hmac⟩

theorem groupByName_spec {groups : List Group} {name : String} {g : Group}
    (h : groupByName groups name = some g) : g ∈ groups ∧ g.name = name := by
  obtain ⟨hmem, hname⟩ := find?_key h
  exact ⟨List.mem_reverse.mp hmem, hname⟩

/-- A membership is of one group and one device. -/
theorem resolve_inj {groups : List Group} {devices : List Device} {p q : String × String}
    {m : GroupMembership} (hgroups : Keyed (·.id) groups) (hdevices : Keyed (·.id) devices)
    (hp : resolve groups devices p = some m) (hq : resolve groups devices q = some m) : p = q := by
  obtain ⟨g, hg, d, hd, rfl⟩ := resolve_eq_some.mp hp
  obtain ⟨g', hg', d', hd', heq⟩ := resolve_eq_some.mp hq
  obtain ⟨hgid, hdid⟩ := GroupMembership.mk.inj heq
  obtain ⟨hmem, hname⟩ := groupByName_spec hg
  obtain ⟨hmem', hname'⟩ := groupByName_spec hg'
  obtain rfl := hgroups.eq hmem' hmem hgid
  obtain ⟨hdmem, hmac⟩ := deviceByMac_spec hd
  obtain ⟨hdmem', hmac'⟩ := deviceByMac_spec hd'
  obtain rfl := hdevices.eq hdmem' hdmem hdid
  exact Prod.ext (hname.symm.trans hname') (Option.some.inj (hmac.symm.trans hmac'))

theorem groupOf_eq_some {groups : List Group} {g : Group} : groupOf groups ms = .ok (some g) ↔
    ∃ gname, field ms "group_name" = .str gname ∧ groupByName groups gname = some g := by
  rw [groupOf]
  constructor
  · intro h
    split at h
    · next gname hfield => exact ⟨gname, hfield, Except.ok.inj h⟩
    all_goals cases h
  · rintro ⟨gname, hfield, hg⟩
    rw [hfield, ← hg]

theorem writeMembership_iff {groups : List Group} {devices : List Device}
    {rows t : List GroupMembership} :
    writeMembership groups devices rows ms = .ok (t, .created) ↔ ∃ gname m,
      field ms "group_name" = .str gname ∧
        resolve groups devices (gname, rawText "device_mac" ms) = some m ∧ m ∉ rows ∧
          t = rows ++ [m] := by
  constructor
  · intro h
    obtain ⟨group, hgroup, h⟩ := bind_eq_ok h
    cases group with
    | none => exact nomatch (Prod.mk.inj (Except.ok.inj h)).2
    | some group =>
        obtain ⟨gname, hfield, hg⟩ := groupOf_eq_some.mp (raising_eq_ok.mp hgroup)
        cases hd : deviceByMac devices (rawText "device_mac" ms) with
        | none =>
            rw [hd] at h
            exact nomatch (Prod.mk.inj (Except.ok.inj h)).2
        | some device =>
            rw [hd] at h
            dsimp only at h
            split at h
            · exact nomatch (Prod.mk.inj (Except.ok.inj h)).2
            · next hnew =>
                exact ⟨gname, _, hfield, resolve_eq_some.mpr ⟨group, hg, device, hd, rfl⟩, hnew,
                  (Prod.mk.inj (Except.ok.inj h)).1.symm⟩
  · rintro ⟨gname, m, hfield, hresolve, hnew, rfl⟩
    obtain ⟨group, hg, device, hd, rfl⟩ := resolve_eq_some.mp hresolve
    rw [writeMembership, raising_eq_ok.mpr (groupOf_eq_some.mpr ⟨gname, hfield, hg⟩), ok_bind, hd]
    exact if_neg hnew

/-- The memberships, given the groups that there are by then. -/
theorem exists_memberships_iff {hub : Hub} {groups : List Group} {written : List Members}
    (hgroups : Keyed (·.id) groups) (hdevices : Keyed (·.id) hub.devices) :
    (∃ t, Returns (writeMembership groups hub.devices) hub.memberships written
        (fun _ => .created) t) ↔
      (∀ ms ∈ written, ∃ gname m, field ms "group_name" = .str gname ∧
        resolve groups hub.devices (gname, rawText "device_mac" ms) = some m ∧
          m ∉ hub.memberships) ∧
        (written.map fun ms => (rawText "group_name" ms, rawText "device_mac" ms)).Nodup := by
  let pair (ms : Members) : String × String := (rawText "group_name" ms, rawText "device_mac" ms)
  have hpair : ∀ ms gname, field ms "group_name" = .str gname →
      (gname, rawText "device_mac" ms) = pair ms := by
    intro ms gname hfield
    exact congrArg (·, rawText "device_mac" ms) (by rw [rawText, hfield])
  -- the pairs there are after some records
  let I (pre : List Members) (rows : List GroupMembership) : Prop :=
    ∀ m, m ∈ rows ↔ m ∈ hub.memberships ∨ ∃ p ∈ pre.map pair, resolve groups hub.devices p = some m
  let Q (ms : Members) : Prop := ∃ gname m, field ms "group_name" = .str gname ∧
    resolve groups hub.devices (gname, rawText "device_mac" ms) = some m ∧ m ∉ hub.memberships
  have hstep : ∀ pre ms rows, I pre rows →
      ((∃ t, writeMembership groups hub.devices rows ms = .ok (t, .created)) ↔
        Q ms ∧ (true → pair ms ∉ ((pre.filter fun _ => true).map pair))) := by
    intro pre ms rows hI
    rw [List.filter_true]
    constructor
    · rintro ⟨t, h⟩
      obtain ⟨gname, m, hfield, hresolve, hnew, -⟩ := writeMembership_iff.mp h
      rw [hI, not_or] at hnew
      refine ⟨⟨gname, m, hfield, hresolve, hnew.1⟩, fun _ hmem => hnew.2 ⟨_, hmem, ?_⟩⟩
      rw [← hpair ms gname hfield]
      exact hresolve
    · rintro ⟨⟨gname, m, hfield, hresolve, hnew⟩, hfirst⟩
      refine ⟨_, writeMembership_iff.mpr ⟨gname, m, hfield, hresolve, ?_, rfl⟩⟩
      rw [hI, not_or]
      refine ⟨hnew, ?_⟩
      rintro ⟨p, hp, hresolve'⟩
      refine hfirst rfl ?_
      rw [← hpair ms gname hfield, resolve_inj hgroups hdevices hresolve hresolve']
      exact hp
  have hkeep : ∀ pre ms rows t, I pre rows →
      writeMembership groups hub.devices rows ms = .ok (t, .created) → I (pre ++ [ms]) t := by
    intro pre ms rows t hI h m'
    obtain ⟨gname, m, hfield, hresolve, -, rfl⟩ := writeMembership_iff.mp h
    rw [hpair ms gname hfield] at hresolve
    rw [List.mem_append, hI, or_assoc, List.map_append]
    refine or_congr_right ?_
    simp only [List.mem_append, or_and_right, exists_or, List.map_singleton, List.mem_singleton,
      exists_eq_left, hresolve, Option.some.injEq, eq_comm]
  have hstart : I [] hub.memberships := by simp [I]
  have hloop : (∃ t, Returns (writeMembership groups hub.devices) hub.memberships written
      (fun _ => .created) t) ↔
      (∀ ms ∈ written, Q ms) ∧ ((written.filter fun _ => true).map pair).Nodup :=
    Logged.returns_iff_nodup hstep hkeep hstart
  rwa [List.filter_true] at hloop

/-- With the groups that the import leaves, a membership is made as the file and the hub before it
say. -/
theorem joins_iff {hub : Hub} {written : Section → List Members} {groups : List Group}
    (hstored : Stored env hub)
    (hgroups : Returns ((groupsTable env hub.sites).write hub.groups) hub.groups (written .groups)
      (announcedDeed hub .groups) groups) :
    (∃ gname m, field ms "group_name" = .str gname ∧
        resolve groups hub.devices (gname, rawText "device_mac" ms) = some m ∧
          m ∉ hub.memberships) ↔ Joins hub written ms := by
  have hlaw : (groupsTable env hub.sites).Lawful (env.newId .groups) := groupsTable_lawful
  have hnames : ∀ gname, (∃ g, groupByName groups gname = some g) ↔
      gname ∈ hub.groups.map (·.name) ∨ gname ∈ (written .groups).map (rawText "name") := by
    intro gname
    refine Iff.trans ?_ (hlaw.mem_names hgroups)
    rw [← not_iff_not, ← (groupsTable env hub.sites).find_eq_none, ← Option.isSome_iff_exists,
      Option.not_isSome_iff_eq_none]
    rfl
  -- a group that was there is found with its id, a new one with a new id
  have hids : ∀ gname g, groupByName groups gname = some g →
      (∃ g₀, groupByName hub.groups gname = some g₀ ∧ g₀.id = g.id) ∨
        (groupByName hub.groups gname = none ∧ g.id ∉ hub.groups.map (·.id)) := by
    intro gname g hg
    by_cases hold : gname ∈ hub.groups.map (·.name)
    · have hsame := hlaw.find_old hgroups hold
      change (groupByName groups gname).map (·.id) = (groupByName hub.groups gname).map (·.id)
        at hsame
      rw [hg, Option.map_some, eq_comm, Option.map_eq_some_iff] at hsame
      exact .inl hsame
    · obtain ⟨n, hn⟩ := hlaw.find_new hgroups hold hg
      refine .inr ⟨(groupsTable env hub.sites).find_eq_none.mpr hold, ?_⟩
      exact fun hmem => hstored.freshIds n (hn ▸ hmem)
  rw [Joins]
  refine exists_congr fun gname => ?_
  rw [exists_and_left]
  refine and_congr_right fun _ => ?_
  constructor
  · rintro ⟨m, hresolve, hnew⟩
    obtain ⟨g, hg, d, hd, rfl⟩ := resolve_eq_some.mp hresolve
    refine ⟨(hnames gname).mp ⟨g, hg⟩, Option.isSome_iff_exists.mpr ⟨d, hd⟩, ?_⟩
    rintro ⟨g₀, hg₀, d', hd', hmem⟩
    obtain rfl := Option.some.inj (hd.symm.trans hd')
    rcases hids gname g hg with ⟨g₁, hg₁, hid⟩ | ⟨hnone, -⟩
    · obtain rfl := Option.some.inj (hg₁.symm.trans hg₀)
      exact hnew (hid ▸ hmem)
    · cases hnone.symm.trans hg₀
  · rintro ⟨hknown, hdevice, hfree⟩
    obtain ⟨g, hg⟩ := (hnames gname).mpr hknown
    obtain ⟨d, hd⟩ := Option.isSome_iff_exists.mp hdevice
    refine ⟨⟨g.id, d.id⟩, resolve_eq_some.mpr ⟨g, hg, d, hd, rfl⟩, fun hmem => ?_⟩
    rcases hids gname g hg with ⟨g₀, hg₀, hid⟩ | ⟨-, hfresh⟩
    · exact hfree ⟨g₀, hg₀, d, hd, hid ▸ hmem⟩
    · exact hfresh (hstored.memberships _ hmem)

/-! ### Devices -/

/-- The device with what a record wants of it. -/
def desire (ms : Members) (d : Device) : Device :=
  { d with desiredConfig := field ms "desired_config", desiredMode := field ms "desired_mode" }

/-- The id of the device of a record. -/
def targetId (devices : List Device) (ms : Members) : String :=
  ((deviceByMac devices (rawText "mac_address" ms)).map (·.id)).getD ""

/-- The devices after some records. -/
def desired (devices₀ devices : List Device) (written : List Members) : List Device :=
  written.foldl (fun devices ms => amend (·.id) (targetId devices₀ ms) (desire ms) devices) devices

theorem deviceByMac_id {devices : List Device} {mac : String} : (deviceByMac devices mac).map (·.id) =
    ((devices.map fun d => (d.id, d.macAddress)).reverse.find? fun t =>
      t.2.filter (· ≠ "") = some mac).map (·.1) := by
  rw [deviceByMac, ← List.map_reverse, List.find?_map, Option.map_map]
  rfl

theorem returns_devices_iff {devices₀ devices t : List Device} {written : List Members}
    (hsame : devices.map (fun d => (d.id, d.macAddress)) =
      devices₀.map fun d => (d.id, d.macAddress)) :
    Returns writeDevice devices written (fun _ => .updated) t ↔
      (∀ ms ∈ written, (deviceByMac devices₀ (rawText "mac_address" ms)).isSome) ∧
        desired devices₀ devices written = t := by
  induction written generalizing devices with
  | nil => rw [Logged.returns_nil, desired, List.foldl_nil, and_iff_right nofun]
  | cons ms written ih =>
      have hid : (deviceByMac devices (rawText "mac_address" ms)).map (·.id) =
          (deviceByMac devices₀ (rawText "mac_address" ms)).map (·.id) := by
        rw [deviceByMac_id, deviceByMac_id, hsame]
      have hstep : ∀ u, writeDevice devices ms = .ok (u, .updated) ↔
          (deviceByMac devices₀ (rawText "mac_address" ms)).isSome ∧
            amend (·.id) (targetId devices₀ ms) (desire ms) devices = u := by
        intro u
        rw [writeDevice, targetId, ← hid, ← Option.isSome_map (f := Device.id), ← hid,
          Option.isSome_map]
        cases deviceByMac devices (rawText "mac_address" ms) with
        | none => exact iff_of_false (fun h => nomatch (Prod.mk.inj (Except.ok.inj h)).2) nofun
        | some d =>
            constructor
            · intro h
              exact ⟨rfl, (Prod.mk.inj (Except.ok.inj h)).1⟩
            · rintro ⟨-, rfl⟩
              rfl
      have hkept : (amend (·.id) (targetId devices₀ ms) (desire ms) devices).map
          (fun d => (d.id, d.macAddress)) = devices₀.map fun d => (d.id, d.macAddress) := by
        refine Eq.trans ?_ hsame
        exact map_amend fun _ => rfl
      rw [Logged.returns_cons, List.forall_mem_cons, and_assoc]
      simp only [hstep, and_assoc, exists_and_left, exists_eq_left', ih hkept]
      rfl

/-- The devices: the last record of a device decides whether its row fits. -/
theorem exists_devices_iff {hub : Hub} {written : List Members} (hstored : Stored env hub) :
    (∃ t, Returns writeDevice hub.devices written (fun _ => .updated) t ∧ devicesFit env t) ↔
      (∀ ms ∈ written, (deviceByMac hub.devices (rawText "mac_address" ms)).isSome) ∧
        ∀ pre ms post, written = pre ++ ms :: post →
          rawText "mac_address" ms ∉ post.map (rawText "mac_address") →
            env.nullable (.varchar 40) (field ms "desired_mode") := by
  simp only [returns_devices_iff rfl, and_assoc, exists_and_left, exists_eq_left']
  refine and_congr_right fun hknown => ?_
  have htarget : ∀ ms ∈ written, ∃ d ∈ hub.devices, d.mac? = some (rawText "mac_address" ms) ∧
      targetId hub.devices ms = d.id := by
    intro ms hms
    obtain ⟨d, hd⟩ := Option.isSome_iff_exists.mp (hknown ms hms)
    obtain ⟨hmem, hmac⟩ := deviceByMac_spec hd
    exact ⟨d, hmem, hmac, by rw [targetId, hd]; rfl⟩
  -- two records are for one device when they have one MAC
  have hsame : ∀ ms ∈ written, ∀ ms' ∈ written,
      (targetId hub.devices ms = targetId hub.devices ms' ↔
        rawText "mac_address" ms = rawText "mac_address" ms') := by
    intro ms hms ms' hms'
    obtain ⟨d, hd, hmac, hid⟩ := htarget ms hms
    obtain ⟨d', hd', hmac', hid'⟩ := htarget ms' hms'
    constructor
    · intro h
      obtain rfl := hstored.devices.eq hd hd' (hid.symm.trans (h.trans hid'))
      exact Option.some.inj (hmac.symm.trans hmac')
    · intro h
      rw [targetId, targetId, h]
  have hlast : (∀ d ∈ desired hub.devices hub.devices written,
      env.nullable (.varchar 40) d.desiredMode) ↔
      (∀ d ∈ hub.devices, d.id ∉ written.map (targetId hub.devices) →
        env.nullable (.varchar 40) d.desiredMode) ∧
        ∀ pre ms post, written = pre ++ ms :: post →
          targetId hub.devices ms ∉ post.map (targetId hub.devices) →
            env.nullable (.varchar 40) (field ms "desired_mode") :=
    forall_foldl_amend (g := desire) (P := fun d => env.nullable (.varchar 40) d.desiredMode)
      (Q := fun ms => env.nullable (.varchar 40) (field ms "desired_mode"))
      (fun _ _ => rfl) (fun _ _ => Iff.rfl) fun ms hms => by
      obtain ⟨d, hd, -, hid⟩ := htarget ms hms
      exact List.mem_map.mpr ⟨d, hd, hid.symm⟩
  rw [devicesFit, List.all_eq_true]
  refine hlast.trans ?_
  rw [and_iff_right fun d hd _ => List.all_eq_true.mp hstored.modes d hd]
  refine forall_congr' fun pre => forall_congr' fun ms => forall_congr' fun post =>
    forall_congr' fun hsplit => imp_congr_left (not_congr ?_)
  have hms : ms ∈ written := hsplit ▸ List.mem_append_right pre List.mem_cons_self
  have hpost : ∀ ms' ∈ post, ms' ∈ written := fun ms' h =>
    hsplit ▸ List.mem_append_right pre (List.mem_cons_of_mem ms h)
  rw [List.mem_map, List.mem_map]
  exact exists_congr fun ms' => and_congr_right fun h => hsame ms' (hpost ms' h) ms hms

end

/-! ### The dry run -/

section
variable {env : Env} {hub : Hub} {written : Section → List Members}

theorem exists_sites_iff : (∃ t, Returns ((sitesTable env).write hub.sites) hub.sites
    (written .sites) (announcedDeed hub .sites) t) ↔
      ∀ ms ∈ written .sites, Lands "name" (hub.sites.map (·.name))
        (Creates env "name" 120 (SiteUpdates env)) (SiteUpdates env) ms :=
  exists_returns_iff rfl rfl (fun _ _ => sitesTable_create) fun _ => sitesTable_update

theorem exists_groups_iff : (∃ t, Returns ((groupsTable env hub.sites).write hub.groups) hub.groups
    (written .groups) (announcedDeed hub .groups) t) ↔
      ∀ ms ∈ written .groups, Lands "name" (hub.groups.map (·.name))
        (Creates env "name" 120 (GroupUpdates env)) (GroupUpdates env) ms :=
  exists_returns_iff rfl rfl (fun _ _ => groupsTable_create) fun _ => groupsTable_update

theorem exists_rules_iff (sites : List Site) :
    (∃ t, Returns ((rulesTable env sites).write hub.rules) hub.rules
      (written .watchdogRules) (announcedDeed hub .watchdogRules) t) ↔
      ∀ ms ∈ written .watchdogRules, Lands "name" (hub.rules.map (·.name))
        (Creates env "name" 120 (RuleUpdates env)) (RuleUpdates env) ms :=
  exists_returns_iff rfl rfl (fun _ _ => rulesTable_create) fun _ => rulesTable_update

theorem exists_schedules_iff : (∃ t, Returns ((schedulesTable env).write hub.schedules) hub.schedules
    (written .schedules) (announcedDeed hub .schedules) t) ↔
      ∀ ms ∈ written .schedules, Lands "name" (hub.schedules.map (·.name))
        (Creates env "name" 120 (ScheduleCreates env)) (ScheduleUpdates env) ms :=
  exists_returns_iff rfl rfl (fun _ _ => schedulesTable_create) fun _ => schedulesTable_update

theorem exists_scenes_iff : (∃ t, Returns ((scenesTable env).write hub.scenes) hub.scenes
    (written .scenes) (announcedDeed hub .scenes) t) ↔
      ∀ ms ∈ written .scenes, Lands "name" (hub.scenes.map (·.name))
        (Creates env "name" 120 (SceneUpdates env)) (SceneUpdates env) ms :=
  exists_returns_iff rfl rfl (fun _ _ => scenesTable_create) fun _ => scenesTable_update

theorem exists_sources_iff : (∃ t, Returns ((sourcesTable env).write hub.sources) hub.sources
    (written .externalSources) (announcedDeed hub .externalSources) t) ↔
      ∀ ms ∈ written .externalSources, Lands "display_name" (hub.sources.map (·.displayName))
        (Creates env "display_name" 200 (SourceUpdates env)) (SourceUpdates env) ms :=
  exists_returns_iff rfl rfl (fun _ _ => sourcesTable_create) fun _ => sourcesTable_update

/-- When the records are each done to what was announced. -/
theorem exists_imports_iff (hstored : Stored env hub) :
    (∃ hub', Imports env hub written hub') ↔ ImportAgrees env hub written := by
  have hkeyed : ∀ {groups}, Returns ((groupsTable env hub.sites).write hub.groups) hub.groups
      (written .groups) (announcedDeed hub .groups) groups → Keyed (·.id) groups := fun h =>
    groupsTable_lawful.keyed h hstored.groups hstored.newIds hstored.freshIds
  constructor
  · rintro ⟨hub', h⟩
    obtain ⟨hsettings, honce⟩ := exists_settings_iff.mp ⟨_, h.settings⟩
    obtain ⟨hmemberships, hpairs⟩ :=
      (exists_memberships_iff (hkeyed h.groups) hstored.devices).mp ⟨_, h.memberships⟩
    obtain ⟨hdevices, hmodes⟩ := (exists_devices_iff hstored).mp ⟨_, h.devices, h.fits⟩
    exact {
      settings := hsettings
      settingsOnce := honce
      sites := exists_sites_iff.mp ⟨_, h.sites⟩
      groups := exists_groups_iff.mp ⟨_, h.groups⟩
      memberships := fun ms hms => (joins_iff hstored h.groups).mp (hmemberships ms hms)
      membershipsOnce := hpairs
      rules := (exists_rules_iff hub'.sites).mp ⟨_, h.rules⟩
      schedules := exists_schedules_iff.mp ⟨_, h.schedules⟩
      scenes := exists_scenes_iff.mp ⟨_, h.scenes⟩
      sources := exists_sources_iff.mp ⟨_, h.sources⟩
      devices := hdevices
      modes := hmodes }
  · intro h
    obtain ⟨settings, hsettings⟩ := exists_settings_iff.mpr ⟨h.settings, h.settingsOnce⟩
    obtain ⟨sites, hsites⟩ := exists_sites_iff.mpr h.sites
    obtain ⟨groups, hgroups⟩ := exists_groups_iff.mpr h.groups
    obtain ⟨memberships, hmemberships⟩ :=
      (exists_memberships_iff (hkeyed hgroups) hstored.devices).mpr
        ⟨fun ms hms => (joins_iff hstored hgroups).mpr (h.memberships ms hms), h.membershipsOnce⟩
    obtain ⟨rules, hrules⟩ := (exists_rules_iff sites).mpr h.rules
    obtain ⟨schedules, hschedules⟩ := exists_schedules_iff.mpr h.schedules
    obtain ⟨scenes, hscenes⟩ := exists_scenes_iff.mpr h.scenes
    obtain ⟨sources, hsources⟩ := exists_sources_iff.mpr h.sources
    obtain ⟨devices, hdevices, hfits⟩ := (exists_devices_iff hstored).mpr ⟨h.devices, h.modes⟩
    exact ⟨⟨settings, sites, groups, memberships, rules, schedules, scenes, sources, devices⟩,
      hsettings, hsites, hgroups, hmemberships, hrules, hschedules, hscenes, hsources, hdevices,
      hfits⟩

variable {decrypt : Members → Except BackupError Json} {raw : Json} {doc : Members}
  {plan : ImportPlan}

/-- **The dry run.**  An import does what its plan announced exactly when the records that it
writes find the rows without their blanks that they find with them, fit the columns, and name
groups and devices that are there, none of them twice. -/
theorem dryRunAgrees_iff (hplan : parseAndPlan decrypt hub raw = .ok plan)
    (hdoc : openDocument decrypt raw = .ok doc) (hstored : Stored env hub) :
    DryRunAgrees env hub plan ↔ ImportAgrees env hub (writtenRecords hub (documentRecords doc)) := by
  rw [← exists_imports_iff hstored, DryRunAgrees]
  refine exists_congr fun hub' => Iff.trans ?_ (applyPlan_iff (parseAndPlan_announces hplan hdoc))
  refine exists_congr fun r => and_congr_right fun _ => ?_
  exact ⟨AsPlanned.deeds, asPlanned_of_deeds (parseAndPlan_sections hplan hdoc).1⟩

end

/-! ### A hub with one site -/

/-- An organization's import into PostgreSQL. -/
def acmeEnv : Env where
  holds
    | .varchar n, .str s => s.toList.length ≤ n
    | .text, .str _ => true
    | .integer, .int n => -2 ^ 31 ≤ n ∧ n < 2 ^ 31
    | _, _ => false
  org := some "acme"
  newId _ n := String.ofList (List.replicate n 'n')
  now := default

/-- A hub with a site and nothing else. -/
def atticHub : Hub := { Hub.empty with sites := [⟨"s1", "Attic", .null⟩] }

/-- A backup file with one site, and the passphrase of none. -/
def siteFile (name : String) : Members :=
  [("format", .str formatName), ("format_version", .int formatVersion),
    ("sections", .obj [("sites", .arr [.obj [("name", .str name)]])])]

/-- A file that is not encrypted needs no passphrase. -/
def noPassphrase (_ : Members) : Except BackupError Json :=
  .error (.message "an encrypted backup requires a passphrase")

theorem atticHub_stored : Stored acmeEnv atticHub where
  groups := List.nodup_nil
  devices := List.nodup_nil
  memberships := nofun
  modes := rfl
  newIds := by
    intro i j h
    simpa [acmeEnv] using congrArg List.length (String.ofList_injective h)
  freshIds := fun _ => List.not_mem_nil

/-- A name with a blank before it: the plan announces an update of the site, the import makes a
second one. -/
theorem blank_name_makes_site : Stored acmeEnv atticHub ∧
    ¬∀ plan, parseAndPlan noPassphrase atticHub (.obj (siteFile " Attic")) = .ok plan →
      DryRunAgrees acmeEnv atticHub plan := by
  refine ⟨atticHub_stored, fun h => ?_⟩
  obtain ⟨plan, hplan, hannounced, hdone⟩ : ∃ plan,
      parseAndPlan noPassphrase atticHub (.obj (siteFile " Attic")) = .ok plan ∧
        (plan.items .sites).map (·.disposition.deed) = [.updated] ∧
          (applyPlan acmeEnv atticHub plan).toOption.map (·.2.deeds .sites) = some [.created] :=
    ⟨_, rfl, by decide +kernel, by decide +kernel⟩
  obtain ⟨hub', r, happly, hagrees⟩ := h plan hplan
  rw [happly] at hdone
  have hdeeds : r.deeds .sites = [.created] := Option.some.inj hdone
  rw [hagrees.deeds, hannounced] at hdeeds
  cases hdeeds

/-- The same file without the blank. -/
theorem plain_name_updates_site : ∃ plan,
    parseAndPlan noPassphrase atticHub (.obj (siteFile "Attic")) = .ok plan ∧
      DryRunAgrees acmeEnv atticHub plan := by
  have hwritten : ∀ s, writtenRecords atticHub (documentRecords (siteFile "Attic")) s =
      if s = .sites then [[("name", .str "Attic")]] else [] := by
    intro s
    cases s <;> decide +kernel
  have hdoc : openDocument noPassphrase (.obj (siteFile "Attic")) = .ok (siteFile "Attic") := rfl
  have hnone : ∀ s, s ≠ .sites → writtenRecords atticHub (documentRecords (siteFile "Attic")) s = [] :=
    fun s hs => (hwritten s).trans (if_neg hs)
  have hvacuous : ∀ s (P : Members → Prop), s ≠ .sites →
      ∀ ms ∈ writtenRecords atticHub (documentRecords (siteFile "Attic")) s, P ms := by
    intro s P hs ms hms
    rw [hnone s hs] at hms
    cases hms
  have hlands : Lands "name" ["Attic"] (Creates acmeEnv "name" 120 (SiteUpdates acmeEnv))
      (SiteUpdates acmeEnv) [("name", .str "Attic")] := by
    refine ⟨by decide +kernel, ?_⟩
    rw [if_pos (by decide +kernel)]
    exact (by decide +kernel : acmeEnv.nullable .text (field [("name", .str "Attic")] "description"))
  refine ⟨_, rfl, (dryRunAgrees_iff rfl hdoc atticHub_stored).mpr {
    settings := hvacuous _ _ nofun
    settingsOnce := by
      rw [hnone .runtimeSettings nofun]
      exact List.nodup_nil
    sites := by
      rw [hwritten, if_pos rfl, List.forall_mem_singleton]
      exact hlands
    groups := hvacuous _ _ nofun
    memberships := hvacuous _ _ nofun
    membershipsOnce := by
      rw [hnone .groupMemberships nofun]
      exact List.nodup_nil
    rules := hvacuous _ _ nofun
    schedules := hvacuous _ _ nofun
    scenes := hvacuous _ _ nofun
    sources := hvacuous _ _ nofun
    devices := hvacuous _ _ nofun
    modes := by
      intro pre ms post hsplit
      rw [hnone .deviceConfig nofun] at hsplit
      simp at hsplit }⟩

end RebooterHub.Backup
