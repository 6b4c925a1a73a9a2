import RebooterHub.Backup.Plan
import RebooterHub.Support.NaturalKey

/-!
# Backup — Apply

`apply_plan`: the items of a plan written into the tables, in one transaction.

An applier looks a record up by its name as it stands in the file.  What the database refuses it
refuses at a flush; nothing of the import is kept then, so the checks are made here where a row is
written.  The devices, which may be written twice, are checked at the end.
-/

namespace RebooterHub.Backup
open RebooterHub.Watchdog (RuleRow field fieldOr orStop importedSite newRow)
open RebooterHub.Fallible (bind_eq_ok)
open RebooterHub.NaturalKey (Deed Importer)

/-- The types of the columns that take the values of a document as they are. -/
inductive ColumnType where
  | varchar (n : Nat)
  | text
  | integer
deriving DecidableEq, Repr

/-- Where an import runs. -/
structure Env where
  /-- The database stores the value in a column of the type. -/
  holds : ColumnType → Json → Bool
  /-- The organization that the flush stamps on new rows. -/
  org : Option String
  /-- `new_id()` of the row that is added to so many. -/
  newId : Section → Nat → String
  now : Time

/-- What an import raises. -/
inductive ApplyError where
  | raised (e : PyError)
  /-- The database refused a row. -/
  | integrity
deriving DecidableEq, Repr

/-- The value fits a column that may be null. -/
def Env.nullable (env : Env) (ty : ColumnType) (v : Json) : Bool :=
  decide (v = .null) || env.holds ty v

/-- The value fits a column that may not be null. -/
def Env.required (env : Env) (ty : ColumnType) (v : Json) : Bool :=
  decide (v ≠ .null) && env.holds ty v

/-- The integer fits its column. -/
def Env.fitsInt (env : Env) (n : Int) : Bool := env.holds .integer (.int n)

/-- The name of a new row of an organization fits. -/
def Env.fitsNew (env : Env) (n : Nat) (name : String) : Bool :=
  env.org.isSome && env.holds (.varchar n) (.str name)

/-- A row that is written unless the database refuses it. -/
def admitted {α : Type} (fits : Bool) (a : α) : Except ApplyError α :=
  if fits then .ok a else .error .integrity

/-- An exception of Python in an import. -/
def raising {α : Type} : Except PyError α → Except ApplyError α
  | .ok a => .ok a
  | .error e => .error (.raised e)

/-- `rec[key]` of a planned record, which is a text. -/
def rawText (key : String) (ms : Members) : String :=
  match field ms key with
  | .str s => s
  | _ => ""

/-- How the records of a section are written. -/
abbrev Table (ρ : Type) := Importer Members ρ ApplyError String String

/-! ### Runtime settings and sites -/

/-- `runtime_settings`: two new rows of one name are refused. -/
def settingsTable (env : Env) : Table RuntimeSetting where
  key := rawText "name"
  nameOf := (·.name)
  idOf := (·.name)
  create rows ms :=
    let name := rawText "name" ms
    admitted (decide (name ∉ rows.map (·.name)) && env.holds (.varchar 80) (.str name))
      { name := name, value := [("v", field ms "value")] }
  update ms := .ok fun row => { row with value := [("v", field ms "value")] }

/-- `sites`. -/
def sitesTable (env : Env) : Table Site where
  key := rawText "name"
  nameOf := (·.name)
  idOf := (·.id)
  create rows ms :=
    admitted (env.fitsNew 120 (rawText "name" ms) && env.nullable .text (field ms "description"))
      { id := env.newId .sites rows.length, name := rawText "name" ms
        description := field ms "description" }
  update ms := admitted (env.nullable .text (field ms "description"))
    fun row => { row with description := field ms "description" }

/-! ### Groups and memberships -/

/-- `site_by_name.get(rec.get("site_name"))`: of several sites of the name the last. -/
def siteByName (sites : List Site) (ms : Members) : Except PyError (Option String) :=
  match field ms "site_name" with
  | .str name => .ok ((sites.reverse.find? (·.name = name)).map (·.id))
  -- a list or an object cannot be looked up in a dict
  | .arr _ | .obj _ => .error .typeError
  | _ => .ok none

/-- `groups`; `sites` are those that were there when the import began. -/
def groupsTable (env : Env) (sites : List Site) : Table Group where
  key := rawText "name"
  nameOf := (·.name)
  idOf := (·.id)
  create rows ms := do
    let siteId ← raising (siteByName sites ms)
    admitted (env.fitsNew 120 (rawText "name" ms) && env.nullable .text (field ms "description"))
      { id := env.newId .groups rows.length, name := rawText "name" ms
        description := field ms "description", siteId := siteId }
  update ms := do
    let siteId ← raising (siteByName sites ms)
    admitted (env.nullable .text (field ms "description"))
      fun row => { row with description := field ms "description", siteId := siteId }

/-- `group_by_name.get(rec.get("group_name"))`. -/
def groupOf (groups : List Group) (ms : Members) : Except PyError (Option Group) :=
  match field ms "group_name" with
  | .str name => .ok (groupByName groups name)
  | .arr _ | .obj _ => .error .typeError
  | _ => .ok none

/-- One membership; `groups` are those after the flush. -/
def writeMembership (groups : List Group) (devices : List Device)
    (memberships : List GroupMembership) (ms : Members) :
    Except ApplyError (List GroupMembership × Deed) := do
  let group ← raising (groupOf groups ms)
  match group, deviceByMac devices (rawText "device_mac" ms) with
  | some group, some device =>
    if ⟨group.id, device.id⟩ ∈ memberships then return (memberships, .skipped)
    else return (memberships ++ [⟨group.id, device.id⟩], .created)
  | _, _ => return (memberships, .skipped)

/-! ### Watchdog rules -/

/-- The `fields` of a rule. -/
structure RuleFields where
  description : Json
  enabled : Bool
  probe : Json
  target : Json
  action : Json
  escalation : Json
  maintenanceWindows : Json
  failureThreshold : Int
  recoveryThreshold : Int
  windowSeconds : Int
  cooldownSeconds : Int
  maxRetries : Int
  retryDelaySeconds : Int
  siteId : Json

/-- The `fields` of a rule's record; `sites` are those after the flush. -/
def ruleFields (sites : List Site) (ms : Members) : Except PyError RuleFields := do
  let siteId ← importedSite (sites.reverse.map fun s => (s.name, s.id)) ms
  let failureThreshold ← (fieldOr ms "failure_threshold" (.int 3)).toInt
  let recoveryThreshold ← (fieldOr ms "recovery_threshold" (.int 2)).toInt
  let windowSeconds ← (fieldOr ms "window_seconds" (.int 60)).toInt
  let cooldownSeconds ← (fieldOr ms "cooldown_seconds" (.int 300)).toInt
  let maxRetries ← (fieldOr ms "max_retries" (.int 3)).toInt
  let retryDelaySeconds ← (fieldOr ms "retry_delay_seconds" (.int 60)).toInt
  return {
    description := field ms "description"
    enabled := (fieldOr ms "enabled" (.bool true)).truthy
    probe := (field ms "probe").orEmpty
    target := (field ms "target").orEmpty
    action := (field ms "action").orEmpty
    escalation := orStop (field ms "escalation")
    maintenanceWindows := (field ms "maintenance_windows").orNil
    failureThreshold := failureThreshold
    recoveryThreshold := recoveryThreshold
    windowSeconds := windowSeconds
    cooldownSeconds := cooldownSeconds
    maxRetries := maxRetries
    retryDelaySeconds := retryDelaySeconds
    siteId := siteId }

/-- The fields fit their columns. -/
def RuleFields.fits (env : Env) (f : RuleFields) : Bool :=
  env.nullable (.varchar 500) f.description && env.fitsInt f.failureThreshold &&
    env.fitsInt f.recoveryThreshold && env.fitsInt f.windowSeconds &&
    env.fitsInt f.cooldownSeconds && env.fitsInt f.maxRetries && env.fitsInt f.retryDelaySeconds

/-- The row with the fields assigned to its columns. -/
def RuleFields.assign (f : RuleFields) (row : RuleRow) : RuleRow :=
  { row with
    rule := { row.rule with
      enabled := f.enabled
      probe := f.probe
      target := f.target
      action := f.action
      escalation := f.escalation
      maintenanceWindows := f.maintenanceWindows
      failureThreshold := f.failureThreshold
      recoveryThreshold := f.recoveryThreshold
      windowSeconds := f.windowSeconds
      cooldownSeconds := f.cooldownSeconds }
    description := f.description
    siteId := f.siteId
    maxRetries := f.maxRetries
    retryDelaySeconds := f.retryDelaySeconds }

/-- `watchdog_rules`. -/
def rulesTable (env : Env) (sites : List Site) : Table RuleRow where
  key := rawText "name"
  nameOf := (·.name)
  idOf := (·.rule.id)
  create rows ms := do
    let f ← raising (ruleFields sites ms)
    admitted (env.fitsNew 120 (rawText "name" ms) && f.fits env)
      (f.assign { newRow (env.newId .watchdogRules rows.length) with name := rawText "name" ms })
  update ms := do
    let f ← raising (ruleFields sites ms)
    admitted (f.fits env) f.assign

/-! ### Schedules and scenes -/

/-- The `fields` of a schedule. -/
structure ScheduleFields where
  description : Json
  enabled : Bool
  kind : Json
  recurrence : Json
  atTimeUtc : Json
  weekdays : Json
  durationSeconds : Int
  target : Json
  powerOffSeconds : Int
  postRebootHoldoffSeconds : Int

/-- The `fields` of a schedule's record. -/
def scheduleFields (ms : Members) : Except PyError ScheduleFields := do
  let durationSeconds ← (fieldOr ms "duration_seconds" (.int 0)).toInt
  let powerOffSeconds ← (fieldOr ms "power_off_seconds" (.int 5)).toInt
  let postRebootHoldoffSeconds ← (fieldOr ms "post_reboot_holdoff_seconds" (.int 180)).toInt
  return {
    description := field ms "description"
    enabled := (fieldOr ms "enabled" (.bool true)).truthy
    kind := field ms "kind"
    recurrence := field ms "recurrence"
    atTimeUtc := field ms "at_time_utc"
    weekdays := (field ms "weekdays").orNil
    durationSeconds := durationSeconds
    target := (field ms "target").orEmpty
    powerOffSeconds := powerOffSeconds
    postRebootHoldoffSeconds := postRebootHoldoffSeconds }

/-- The fields fit their columns. -/
def ScheduleFields.fits (env : Env) (f : ScheduleFields) : Bool :=
  env.nullable (.varchar 500) f.description && env.required (.varchar 40) f.kind &&
    env.required (.varchar 20) f.recurrence && env.nullable (.varchar 5) f.atTimeUtc &&
    env.fitsInt f.durationSeconds && env.fitsInt f.powerOffSeconds &&
    env.fitsInt f.postRebootHoldoffSeconds

/-- The fields of a new row: an insert leaves a column that is `None` to its default. -/
def ScheduleFields.defaulted (f : ScheduleFields) : ScheduleFields :=
  { f with recurrence := if f.recurrence = .null then .str "daily" else f.recurrence }

/-- The row with the fields assigned to its columns. -/
def ScheduleFields.assign (f : ScheduleFields) (row : Schedule) : Schedule :=
  { row with
    description := f.description
    enabled := f.enabled
    kind := f.kind
    recurrence := f.recurrence
    atTimeUtc := f.atTimeUtc
    weekdays := f.weekdays
    durationSeconds := f.durationSeconds
    target := f.target
    powerOffSeconds := f.powerOffSeconds
    postRebootHoldoffSeconds := f.postRebootHoldoffSeconds }

/-- A new schedule, its columns at their defaults. -/
def newSchedule (id name : String) : Schedule where
  id := id
  name := name
  description := .null
  enabled := true
  kind := .null
  recurrence := .str "daily"
  atTimeUtc := .null
  weekdays := .arr []
  startAt := none
  durationSeconds := 0
  target := .obj []
  powerOffSeconds := 5
  postRebootHoldoffSeconds := 180

/-- `schedules`. -/
def schedulesTable (env : Env) : Table Schedule where
  key := rawText "name"
  nameOf := (·.name)
  idOf := (·.id)
  create rows ms := do
    let f ← raising (scheduleFields ms)
    admitted (env.fitsNew 120 (rawText "name" ms) && f.defaulted.fits env)
      (f.defaulted.assign (newSchedule (env.newId .schedules rows.length) (rawText "name" ms)))
  update ms := do
    let f ← raising (scheduleFields ms)
    admitted (f.fits env) f.assign

/-- `scenes`. -/
def scenesTable (env : Env) : Table Scene where
  key := rawText "name"
  nameOf := (·.name)
  idOf := (·.id)
  create rows ms :=
    admitted (env.fitsNew 120 (rawText "name" ms) &&
        env.nullable (.varchar 500) (field ms "description"))
      { id := env.newId .scenes rows.length, name := rawText "name" ms
        description := field ms "description", items := (field ms "items").orNil }
  update ms := admitted (env.nullable (.varchar 500) (field ms "description"))
    fun row => { row with description := field ms "description", items := (field ms "items").orNil }

/-! ### External sensor sources -/

/-- The `fields` of a source, with its configuration. -/
structure SourceFields where
  kind : Json
  host : Json
  port : Int
  enabled : Bool
  pollIntervalSeconds : Int
  config : Members

/-- `{k: v for k, v in cfg.items() if v != REDACTED_SENTINEL}`. -/
def dropRedacted (cfg : Members) : Members := cfg.filter (·.2 ≠ redactedSentinel)

/-- `cfg or None`. -/
def orNone (cfg : Members) : Option Members := if cfg.isEmpty then none else some cfg

/-- The `fields` of a source's record. -/
def sourceFields (ms : Members) : Except PyError SourceFields := do
  let cfg ← asRecord (field ms "config").orEmpty
  let port ← (fieldOr ms "port" (.int 8060)).toInt
  let pollIntervalSeconds ← (fieldOr ms "poll_interval_seconds" (.int 30)).toInt
  return {
    kind := field ms "kind"
    host := if (field ms "host").truthy then field ms "host" else .str ""
    port := port
    enabled := (fieldOr ms "enabled" (.bool true)).truthy
    pollIntervalSeconds := pollIntervalSeconds
    config := dropRedacted cfg }

/-- The fields fit their columns. -/
def SourceFields.fits (env : Env) (f : SourceFields) : Bool :=
  env.required (.varchar 40) f.kind && env.holds (.varchar 200) f.host && env.fitsInt f.port &&
    env.fitsInt f.pollIntervalSeconds

/-- `external_sensor_sources`. -/
def sourcesTable (env : Env) : Table ExternalSensorSource where
  key := rawText "display_name"
  nameOf := (·.displayName)
  idOf := (·.id)
  create rows ms := do
    let f ← raising (sourceFields ms)
    admitted (env.fitsNew 200 (rawText "display_name" ms) && f.fits env)
      { id := env.newId .externalSources rows.length, kind := f.kind
        displayName := rawText "display_name" ms, host := f.host, port := f.port
        enabled := f.enabled, pollIntervalSeconds := f.pollIntervalSeconds, lastPolledAt := none
        lastSuccessAt := none, lastError := none, config := orNone f.config, createdAt := env.now }
  update ms := do
    let f ← raising (sourceFields ms)
    admitted (f.fits env) fun row =>
      { row with
        kind := f.kind, host := f.host, port := f.port, enabled := f.enabled
        pollIntervalSeconds := f.pollIntervalSeconds
        -- the secrets there are stay
        config := orNone (Dict.update (row.config.getD []) f.config) }

/-! ### Devices -/

/-- One device's configuration. -/
def writeDevice (devices : List Device) (ms : Members) :
    Except ApplyError (List Device × Deed) :=
  match deviceByMac devices (rawText "mac_address" ms) with
  | none => .ok (devices, .skipped)
  | some device => .ok (Rows.amend (·.id) device.id (fun d =>
      { d with desiredConfig := field ms "desired_config", desiredMode := field ms "desired_mode" })
      devices, .updated)

/-- The columns of the devices fit. -/
def devicesFit (env : Env) (devices : List Device) : Bool :=
  devices.all fun d => env.nullable (.varchar 40) d.desiredMode

/-! ### Names and ids -/

section
variable {env : Env}

theorem exists_admitted {α : Type} {fits : Bool} {a : α} :
    (∃ x, admitted fits a = .ok x) ↔ fits = true := by
  cases fits with
  | true => exact iff_of_true ⟨a, rfl⟩ rfl
  | false => exact iff_of_false (fun ⟨_, h⟩ => nomatch h) nofun

theorem admitted_eq_ok {α : Type} {fits : Bool} {a x : α} (h : admitted fits a = .ok x) : a = x := by
  cases fits with
  | true => exact Except.ok.inj h
  | false => cases h

theorem raising_eq_ok {α : Type} {x : Except PyError α} {a : α} : raising x = .ok a ↔ x = .ok a := by
  cases x with
  | ok b => rw [raising, Except.ok.injEq, Except.ok.injEq]
  | error e => exact iff_of_false nofun nofun

theorem settingsTable_named : (settingsTable env).Named where
  create_name := by
    intro rows ms row hrow
    rw [← admitted_eq_ok hrow]
    rfl
  update_name := by
    intro ms g hg row
    rw [← Except.ok.inj hg]
    rfl

/-- A table whose rows are written with some fields of the record. -/
theorem lawful_of_fields {ρ φ : Type} {m : Table ρ} {newId : Nat → String}
    {fields : Members → Except ApplyError φ} {creates updates : Members → φ → Bool}
    {make : List ρ → Members → φ → ρ} {assign : Members → φ → ρ → ρ}
    (hcreate : ∀ rows ms, m.create rows ms =
      fields ms >>= fun f => admitted (creates ms f) (make rows ms f))
    (hupdate : ∀ ms, m.update ms = fields ms >>= fun f => admitted (updates ms f) (assign ms f))
    (hmake : ∀ rows ms f, m.nameOf (make rows ms f) = m.key ms ∧
      m.idOf (make rows ms f) = newId rows.length)
    (hassign : ∀ ms f row, m.nameOf (assign ms f row) = m.nameOf row ∧
      m.idOf (assign ms f row) = m.idOf row) : m.Lawful newId := by
  have hrow : ∀ rows ms row, m.create rows ms = .ok row → ∃ f, make rows ms f = row := by
    intro rows ms row h
    rw [hcreate] at h
    obtain ⟨f, -, h⟩ := bind_eq_ok h
    exact ⟨f, admitted_eq_ok h⟩
  have hchange : ∀ ms g, m.update ms = .ok g → ∃ f, assign ms f = g := by
    intro ms g h
    rw [hupdate] at h
    obtain ⟨f, -, h⟩ := bind_eq_ok h
    exact ⟨f, admitted_eq_ok h⟩
  refine ⟨⟨fun rows ms row h => ?_, fun ms g h row => ?_⟩, fun rows ms row h => ?_,
    fun ms g h row => ?_⟩
  · obtain ⟨f, rfl⟩ := hrow rows ms row h
    exact (hmake rows ms f).1
  · obtain ⟨f, rfl⟩ := hchange ms g h
    exact (hassign ms f row).1
  · obtain ⟨f, rfl⟩ := hrow rows ms row h
    exact (hmake rows ms f).2
  · obtain ⟨f, rfl⟩ := hchange ms g h
    exact (hassign ms f row).2

theorem sitesTable_lawful : (sitesTable env).Lawful (env.newId .sites) where
  create_name := fun _ _ _ h => by
    rw [← admitted_eq_ok h]
    rfl
  create_id := fun _ _ _ h => by
    rw [← admitted_eq_ok h]
    rfl
  update_name := fun _ _ h _ => by
    rw [← admitted_eq_ok h]
    rfl
  update_id := fun _ _ h _ => by
    rw [← admitted_eq_ok h]
    rfl

theorem groupsTable_lawful {sites : List Site} :
    (groupsTable env sites).Lawful (env.newId .groups) :=
  lawful_of_fields (fun _ _ => rfl) (fun _ => rfl) (fun _ _ _ => ⟨rfl, rfl⟩) fun _ _ _ => ⟨rfl, rfl⟩

theorem rulesTable_lawful {sites : List Site} :
    (rulesTable env sites).Lawful (env.newId .watchdogRules) :=
  lawful_of_fields (fun _ _ => rfl) (fun _ => rfl) (fun _ _ _ => ⟨rfl, rfl⟩) fun _ _ _ => ⟨rfl, rfl⟩

theorem schedulesTable_lawful : (schedulesTable env).Lawful (env.newId .schedules) :=
  lawful_of_fields (fun _ _ => rfl) (fun _ => rfl) (fun _ _ _ => ⟨rfl, rfl⟩) fun _ _ _ => ⟨rfl, rfl⟩

theorem scenesTable_lawful : (scenesTable env).Lawful (env.newId .scenes) where
  create_name := fun _ _ _ h => by
    rw [← admitted_eq_ok h]
    rfl
  create_id := fun _ _ _ h => by
    rw [← admitted_eq_ok h]
    rfl
  update_name := fun _ _ h _ => by
    rw [← admitted_eq_ok h]
    rfl
  update_id := fun _ _ h _ => by
    rw [← admitted_eq_ok h]
    rfl

theorem sourcesTable_lawful : (sourcesTable env).Lawful (env.newId .externalSources) :=
  lawful_of_fields (fun _ _ => rfl) (fun _ => rfl) (fun _ _ _ => ⟨rfl, rfl⟩) fun _ _ _ => ⟨rfl, rfl⟩

end

/-! ### The plan -/

/-- The items of a section; those that are not to be written are counted and left alone. -/
def applyItems {σ : Type} (write : σ → Members → Except ApplyError (σ × Deed)) (s : σ)
    (items : List PlanItem) : Except ApplyError (σ × List Deed) :=
  Logged.loop (fun s it => if it.disposition.writes then write s it.record else .ok (s, .skipped))
    s items

/-- What became of each record, section by section. -/
structure ImportResult where
  deeds : Section → List Deed

/-- How many records of a section a deed was done to: `created`, `updated` and `skipped`. -/
def ImportResult.count (r : ImportResult) (s : Section) (d : Deed) : Nat := (r.deeds s).count d

/-- `apply_plan`. -/
def applyPlan (env : Env) (hub : Hub) (plan : ImportPlan) :
    Except ApplyError (Hub × ImportResult) := do
  let (settings, settingDeeds) ←
    applyItems ((settingsTable env).write hub.settings) hub.settings (plan.items .runtimeSettings)
  let (sites, siteDeeds) ←
    applyItems ((sitesTable env).write hub.sites) hub.sites (plan.items .sites)
  -- the new sites are not flushed yet, so the groups do not see them
  let (groups, groupDeeds) ←
    applyItems ((groupsTable env hub.sites).write hub.groups) hub.groups (plan.items .groups)
  let (memberships, membershipDeeds) ←
    applyItems (writeMembership groups hub.devices) hub.memberships (plan.items .groupMemberships)
  let (rules, ruleDeeds) ←
    applyItems ((rulesTable env sites).write hub.rules) hub.rules (plan.items .watchdogRules)
  let (schedules, scheduleDeeds) ←
    applyItems ((schedulesTable env).write hub.schedules) hub.schedules (plan.items .schedules)
  let (scenes, sceneDeeds) ←
    applyItems ((scenesTable env).write hub.scenes) hub.scenes (plan.items .scenes)
  let (sources, sourceDeeds) ←
    applyItems ((sourcesTable env).write hub.sources) hub.sources (plan.items .externalSources)
  let (devices, deviceDeeds) ← applyItems writeDevice hub.devices (plan.items .deviceConfig)
  if !devicesFit env devices then throw .integrity
  return (
    { settings, sites, groups, memberships, rules, schedules, scenes, sources, devices },
    { deeds := fun
        | .runtimeSettings => settingDeeds
        | .sites => siteDeeds
        | .groups => groupDeeds
        | .groupMemberships => membershipDeeds
        | .watchdogRules => ruleDeeds
        | .schedules => scheduleDeeds
        | .scenes => sceneDeeds
        | .externalSources => sourceDeeds
        | .deviceConfig => deviceDeeds })

end RebooterHub.Backup
