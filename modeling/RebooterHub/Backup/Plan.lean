import RebooterHub.Backup.Export
import RebooterHub.Data.Text
import RebooterHub.Watchdog.Validation

/-!
# Backup — Plan

`parse_and_plan`: the checks of an uploaded document, and for each of its records what an import
would do with it.

A planner looks a record up by its name without surrounding blanks.
-/

namespace RebooterHub.Backup
open RebooterHub.Watchdog (field strippedText)

/-- What is planned for a record. -/
inductive Disposition where
  | create
  | update
  | skip
  | conflict
deriving DecidableEq, Repr

/-- The item is written. -/
def Disposition.writes : Disposition → Bool
  | .create | .update => true
  | .skip | .conflict => false

/-- `PlanItem`. -/
structure PlanItem where
  key : String
  disposition : Disposition
  note : String
  record : Members
deriving DecidableEq, Repr

/-- `SectionPlan`. -/
structure SectionPlan where
  part : Section
  items : List PlanItem
deriving DecidableEq, Repr

/-- `SectionPlan.counts`. -/
def SectionPlan.counts (sp : SectionPlan) (d : Disposition) : Nat :=
  sp.items.countP (·.disposition = d)

/-- `ImportPlan`. -/
structure ImportPlan where
  sections : List SectionPlan
  warnings : List String
  document : Members
deriving DecidableEq, Repr

/-- `ImportPlan.total_writes`. -/
def ImportPlan.totalWrites (plan : ImportPlan) : Nat :=
  (plan.sections.map fun sp => sp.counts .create + sp.counts .update).sum

/-- The items of a section. -/
def ImportPlan.items (plan : ImportPlan) (s : Section) : List PlanItem :=
  match plan.sections.find? (·.part = s) with
  | some sp => sp.items
  | none => []

/-! ### Look-ups -/

/-- A record has to be a dict. -/
def asRecord : Json → Except PyError Members
  | .obj ms => .ok ms
  | _ => .error .attributeError

/-- `(rec.get(key) or "").strip()`. -/
def recordName (key : String) (ms : Members) : Except PyError String :=
  (strippedText (field ms key)).map String.ofList

/-- `group_by_name.get(name)`. -/
def groupByName (groups : List Group) (name : String) : Option Group :=
  groups.reverse.find? (·.name = name)

/-- `device_by_mac.get(mac)`: of several devices with the MAC the last. -/
def deviceByMac (devices : List Device) (mac : String) : Option Device :=
  devices.reverse.find? (·.mac? = some mac)

/-! ### The sections -/

/-- The item of a runtime setting. -/
def settingItem (existing : List String) (name : String) (ms : Members) : PlanItem :=
  if field ms "value" = redactedSentinel then
    ⟨name, .skip, "redacted secret — not importable", ms⟩
  else if "network.".toList <+: name.toList then
    ⟨name, .skip, "network key — host-specific, skipped to protect this hub", ms⟩
  else if name ∈ existing then ⟨name, .update, "overwrites the current value", ms⟩
  else ⟨name, .create, "", ms⟩

/-- `_plan_runtime_settings`. -/
def planRuntimeSettings (existing : List String) : List Json → Except PyError (List PlanItem)
  | [] => .ok []
  | rec :: recs => do
    let ms ← asRecord rec
    let name ← recordName "name" ms
    let items ← planRuntimeSettings existing recs
    return if name = "" then items else settingItem existing name ms :: items

/-- What the two planners of named records do differently. -/
structure NamedTexts where
  key : String
  unnamed : String
  duplicate : String
  /-- The note of a record that is written; the first argument says that its name is known. -/
  note : Bool → Members → Except PyError String

/-- The item of a record that is written. -/
def namedItem (existing : List String) (name note : String) (ms : Members) : PlanItem :=
  ⟨name, if name ∈ existing then .update else .create, note, ms⟩

/-- A section of named records, given the names that came before. -/
def planKeyed (texts : NamedTexts) (existing : List String) :
    List String → List Json → Except PyError (List PlanItem)
  | _, [] => .ok []
  | seen, rec :: recs => do
    let ms ← asRecord rec
    let name ← recordName texts.key ms
    if name = "" then
      return ⟨"(unnamed)", .skip, texts.unnamed, ms⟩ :: (← planKeyed texts existing seen recs)
    else if name ∈ seen then
      return ⟨name, .conflict, texts.duplicate, ms⟩ :: (← planKeyed texts existing seen recs)
    else
      let note ← texts.note (decide (name ∈ existing)) ms
      return namedItem existing name note ms :: (← planKeyed texts existing (name :: seen) recs)

/-- The texts of `_plan_named`. -/
def namedTexts : NamedTexts where
  key := "name"
  unnamed := "record has no name"
  duplicate := "duplicate name within the backup file"
  note known _ := .ok (if known then "updates the existing record" else "")

/-- `_plan_named`. -/
def planNamed (existing : List String) (recs : List Json) : Except PyError (List PlanItem) :=
  planKeyed namedTexts existing [] recs

/-- The texts of `_plan_external_sources`. -/
def sourceTexts : NamedTexts where
  key := "display_name"
  unnamed := "record has no display_name"
  duplicate := "duplicate display_name within the backup"
  note known ms :=
    match (field ms "config").orEmpty with
    | .obj cfg => .ok (
        if cfg.any (·.2 = redactedSentinel) then
          "config has redacted secrets — re-enter them after import"
        else if known then "updates the existing source" else "")
    | _ => .error .attributeError

/-- `_plan_external_sources`. -/
def planExternalSources (existing : List String) (recs : List Json) :
    Except PyError (List PlanItem) :=
  planKeyed sourceTexts existing [] recs

/-- The item of a group membership. -/
def membershipItem (groups : List Group) (devices : List Device)
    (memberships : List GroupMembership) (gname mac : String) (ms : Members) : PlanItem :=
  let key := gname ++ " / " ++ mac
  match deviceByMac devices mac with
  | none => ⟨key, .skip, "device not enrolled here (MAC not found)", ms⟩
  | some device =>
    -- a group that the same import will create has no row yet
    if (groupByName groups gname).any fun g => ⟨g.id, device.id⟩ ∈ memberships then
      ⟨key, .skip, "membership already exists", ms⟩
    else ⟨key, .create, "", ms⟩

/-- `_plan_group_memberships`. -/
def planGroupMemberships (groups : List Group) (devices : List Device)
    (memberships : List GroupMembership) (recs : List Json) : Except PyError (List PlanItem) :=
  recs.mapM fun rec => do
    let ms ← asRecord rec
    let gname ← recordName "group_name" ms
    let mac ← recordName "device_mac" ms
    return membershipItem groups devices memberships gname mac ms

/-- The item of a device's configuration. -/
def deviceItem (devices : List Device) (mac : String) (ms : Members) : PlanItem :=
  if mac = "" then ⟨"(no mac)", .skip, "record has no mac_address", ms⟩
  else if (deviceByMac devices mac).isNone then ⟨mac, .skip, "device not enrolled here", ms⟩
  else ⟨mac, .update, "re-attaches desired_config to this device", ms⟩

/-- `_plan_device_config`. -/
def planDeviceConfig (devices : List Device) (recs : List Json) : Except PyError (List PlanItem) :=
  recs.mapM fun rec => do
    let ms ← asRecord rec
    let mac ← recordName "mac_address" ms
    return deviceItem devices mac ms

/-! ### The document -/

/-- `for rec in records or []`. -/
def sectionRecords (sections : Members) (s : Section) : Except PyError (List Json) :=
  ((sections.lookup s.text).getD (.arr [])).orNil.iter

/-- `version == 1`, which `True` and `1.0` satisfy. -/
def isFormatVersion : Json → Bool
  | .int n => n = formatVersion
  | .float q => q = formatVersion
  | .bool b => b
  | _ => false

/-- An exception of Python. -/
def raised {α : Type} : Except PyError α → Except BackupError α
  | .ok a => .ok a
  | .error e => .error (.raised e)

/-- The document in an uploaded file, with `decrypt_document` for an encrypted one. -/
def openDocument (decrypt : Members → Except BackupError Json) (raw : Json) :
    Except BackupError Members :=
  match raw with
  | .obj raw =>
    if field raw "format" ≠ .str formatName then
      .error (.message ("not a Rebooter hub config backup (expected format '"
        ++ formatName ++ "')"))
    else if (field raw "encrypted").truthy then do raised (asRecord (← decrypt raw))
    else .ok raw
  | _ => .error (.message "backup file must be a JSON object")

/-- The sections of a document of the format's version. -/
def documentSections (doc : Members) : Except BackupError Members :=
  if ¬isFormatVersion (field doc "format_version") then
    .error (.unsupportedVersion (field doc "format_version"))
  else match field doc "sections" with
    | .obj sections => .ok sections
    | _ => .error (.message "backup document has no `sections` object")

/-- The warning about network settings. -/
def networkWarning : String :=
  "Network settings (network.*) were found in the backup and default to SKIP — importing them "
    ++ "onto a different hostname would break this hub."

/-- The items of the sections. -/
def planSection (hub : Hub) (s : Section) (recs : List Json) : Except PyError (List PlanItem) :=
  match s with
  | .runtimeSettings => planRuntimeSettings (hub.settings.map (·.name)) recs
  | .sites => planNamed (hub.sites.map (·.name)) recs
  | .groups => planNamed (hub.groups.map (·.name)) recs
  | .groupMemberships => planGroupMemberships hub.groups hub.devices hub.memberships recs
  | .watchdogRules => planNamed (hub.rules.map (·.name)) recs
  | .schedules => planNamed (hub.schedules.map (·.name)) recs
  | .scenes => planNamed (hub.scenes.map (·.name)) recs
  | .externalSources => planExternalSources (hub.sources.map (·.displayName)) recs
  | .deviceConfig => planDeviceConfig hub.devices recs

/-- `parse_and_plan`, on the JSON value of the file. -/
def parseAndPlan (decrypt : Members → Except BackupError Json) (hub : Hub) (raw : Json) :
    Except BackupError ImportPlan := do
  let doc ← openDocument decrypt raw
  let sections ← documentSections doc
  let plans ← raised (allSections.mapM fun s => do
    return (⟨s, ← planSection hub s (← sectionRecords sections s)⟩ : SectionPlan))
  let network := plans.any fun sp =>
    sp.part = .runtimeSettings ∧ sp.items.any fun it => "network key".toList <+: it.note.toList
  return { sections := plans, warnings := if network then [networkWarning] else [], document := doc }

end RebooterHub.Backup
