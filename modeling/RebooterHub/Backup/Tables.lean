import Mathlib.Data.List.Sort
import RebooterHub.Data.Text
import RebooterHub.Watchdog.Mutations

/-!
# Backup — Tables

The tables that a backup of the hub's configuration covers, with the columns it reads or writes,
as a session of the hub sees them.

A column that an import fills with whatever the document holds is a JSON value.  The rows of
`watchdog_rules` are those of the watchdog.
-/

namespace RebooterHub.Backup

/-- A Python dict with texts for keys: its members in order. -/
abbrev Members := List (String × Json)

/-- A row of `runtime_settings`; `name` is its primary key. -/
structure RuntimeSetting where
  name : String
  value : Members
deriving DecidableEq, Repr

/-- A row of `sites`. -/
structure Site where
  id : String
  name : String
  description : Json
deriving DecidableEq, Repr

/-- A row of `groups`. -/
structure Group where
  id : String
  name : String
  description : Json
  siteId : Option String
deriving DecidableEq, Repr

/-- A row of `group_memberships`. -/
structure GroupMembership where
  groupId : String
  deviceId : String
deriving DecidableEq, Repr

/-- A row of `schedules`. -/
structure Schedule where
  id : String
  name : String
  description : Json
  enabled : Bool
  kind : Json
  recurrence : Json
  atTimeUtc : Json
  weekdays : Json
  startAt : Option Time
  durationSeconds : Int
  target : Json
  powerOffSeconds : Int
  postRebootHoldoffSeconds : Int
deriving DecidableEq, Repr

/-- A row of `scenes`. -/
structure Scene where
  id : String
  name : String
  description : Json
  items : Json
deriving DecidableEq, Repr

/-- A row of `external_sensor_sources`. -/
structure ExternalSensorSource where
  id : String
  kind : Json
  displayName : String
  host : Json
  port : Int
  enabled : Bool
  pollIntervalSeconds : Int
  lastPolledAt : Option Time
  lastSuccessAt : Option Time
  lastError : Option String
  config : Option Members
  createdAt : Time
deriving DecidableEq, Repr

/-- A row of `devices`. -/
structure Device where
  id : String
  macAddress : Option String
  desiredConfig : Json
  desiredMode : Json
deriving DecidableEq, Repr

/-- The MAC of a device that has one: a missing and an empty one are none. -/
def Device.mac? (d : Device) : Option String := d.macAddress.filter (· ≠ "")

/-- The tables. -/
structure Hub where
  settings : List RuntimeSetting
  sites : List Site
  groups : List Group
  memberships : List GroupMembership
  rules : List Watchdog.RuleRow
  schedules : List Schedule
  scenes : List Scene
  sources : List ExternalSensorSource
  devices : List Device

/-- A hub with nothing on it. -/
def Hub.empty : Hub where
  settings := []
  sites := []
  groups := []
  memberships := []
  rules := []
  schedules := []
  scenes := []
  sources := []
  devices := []

/-! ### Sections -/

/-- `ALL_SECTIONS`. -/
inductive Section where
  | runtimeSettings
  | sites
  | groups
  | groupMemberships
  | watchdogRules
  | schedules
  | scenes
  | externalSources
  | deviceConfig
deriving DecidableEq, Repr

/-- The key of a section in the document. -/
def Section.text : Section → String
  | .runtimeSettings => "runtime_settings"
  | .sites => "sites"
  | .groups => "groups"
  | .groupMemberships => "group_memberships"
  | .watchdogRules => "watchdog_rules"
  | .schedules => "schedules"
  | .scenes => "scenes"
  | .externalSources => "external_sensor_sources"
  | .deviceConfig => "device_config"

/-- The sections in the order of the document. -/
def allSections : List Section :=
  [.runtimeSettings, .sites, .groups, .groupMemberships, .watchdogRules, .schedules, .scenes,
    .externalSources, .deviceConfig]

/-! ### The order of a query -/

/-- What `ORDER BY` sorts texts by. -/
structure Collation where
  le : String → String → Bool
  total : ∀ a b, le a b ∨ le b a
  trans : ∀ a b c, le a b → le b c → le a c

/-- The rows ordered by a text. -/
def Collation.orderBy {α : Type} (c : Collation) (key : α → String) (rows : List α) : List α :=
  rows.insertionSort fun a b => c.le (key a) (key b)

namespace Collation

variable {α β : Type} (c : Collation) {key : α → String} {rows : List α}

/-- Sorting by a text that a change of the rows keeps. -/
theorem orderBy_map {key : β → String} {key' : α → String} (f : α → β) (h : ∀ a, key (f a) = key' a)
    (rows : List α) : c.orderBy key (rows.map f) = (c.orderBy key' rows).map f := by
  refine (List.map_insertionSort _ _ f rows fun a _ b _ => ?_).symm
  rw [h, h]

theorem orderBy_perm : (c.orderBy key rows).Perm rows := List.perm_insertionSort _ rows

theorem mem_orderBy {a : α} : a ∈ c.orderBy key rows ↔ a ∈ rows := c.orderBy_perm.mem_iff

/-- Ordered rows are in order. -/
theorem orderBy_pairwise : (c.orderBy key rows).Pairwise fun a b => c.le (key a) (key b) := by
  have htotal : Std.Total fun a b : α => (c.le (key a) (key b) : Prop) := ⟨fun a b => c.total _ _⟩
  have htrans : IsTrans α fun a b => c.le (key a) (key b) := ⟨fun a b d => c.trans _ _ _⟩
  exact List.pairwise_insertionSort _ rows

/-- Rows in order stay as they are. -/
theorem orderBy_of_pairwise (h : rows.Pairwise fun a b => c.le (key a) (key b)) :
    c.orderBy key rows = rows :=
  h.insertionSort_eq

end Collation

/-- The order of code points. -/
def codePoints : Collation where
  le a b := decide (a ≤ b)
  total a b := by simpa using String.le_total a b
  trans a b c := by simpa using String.le_trans

end RebooterHub.Backup
