import RebooterHub.Support.Runs
import RebooterHub.Watchdog.Tick
import RebooterHub.Watchdog.Validation

/-!
# Watchdog — Mutations

The writers of the table of rules: `create_rule`, `update_rule`, `delete_rule` and `set_enabled`,
the backup import's `_apply_watchdog_rules`, and the tick.

An import reads the records that `_plan_named` lets through: those with a name, the first of each
name.  It finds an existing row by the name as written in the file.
-/

namespace RebooterHub.Watchdog

/-- A row of `watchdog_rules`, with the columns that the runtime does not read. -/
structure RuleRow where
  rule : WatchdogRule
  name : String
  description : Json
  siteId : Json
  maxRetries : Int
  retryDelaySeconds : Int

/-- `x or None`. -/
def orNone (x : Json) : Json := if x.truthy then x else .null

/-- `escalation or {"kind": "stop"}`. -/
def orStop (escalation : Json) : Json :=
  if escalation.truthy then escalation else .obj [("kind", .str "stop")]

/-! ### The services -/

/-- The row with the inputs assigned to its columns. -/
def RuleRow.configure (row : RuleRow) (name : String) (i : RuleInputs) :
    Except RuleError RuleRow := do
  let failureThreshold ← raising i.failureThreshold.toInt
  let recoveryThreshold ← raising i.recoveryThreshold.toInt
  let windowSeconds ← raising i.windowSeconds.toInt
  let cooldownSeconds ← raising i.cooldownSeconds.toInt
  let maxRetries ← raising i.maxRetries.toInt
  let retryDelaySeconds ← raising i.retryDelaySeconds.toInt
  return {
    rule := { row.rule with
      probe := i.probe
      failureThreshold := failureThreshold
      recoveryThreshold := recoveryThreshold
      windowSeconds := windowSeconds
      cooldownSeconds := cooldownSeconds
      target := i.target
      action := i.action
      escalation := orStop i.escalation
      maintenanceWindows := i.maintenanceWindows.orNil }
    name := name
    description := orNone i.description
    siteId := i.siteId
    maxRetries := maxRetries
    retryDelaySeconds := retryDelaySeconds }

/-- A new row, its columns at their defaults. -/
def newRow (id : String) : RuleRow where
  rule :=
    { id := id
      enabled := true
      status := .armed
      probe := .obj []
      failureThreshold := 3
      recoveryThreshold := 2
      windowSeconds := 60
      cooldownSeconds := 300
      target := .obj []
      action := .obj []
      escalation := .obj []
      maintenanceWindows := .arr []
      failureStreak := 0
      recoveryStreak := 0
      lastProbedAt := none
      lastActionAt := none
      lastOutcome := none }
  name := ""
  description := .null
  siteId := .null
  maxRetries := 3
  retryDelaySeconds := 60

/-- `session.get(WatchdogRule, rule_id)`. -/
def getRule (rows : List RuleRow) (ruleId : String) : Option RuleRow :=
  rows.find? (·.rule.id = ruleId)

/-- The table with the row of an id replaced. -/
def putRule (rows : List RuleRow) (ruleId : String) (row : RuleRow) : List RuleRow :=
  rows.map fun r => if r.rule.id = ruleId then row else r

/-- `create_rule`, with the id the new row gets: the table and the row. -/
def createRule (rows : List RuleRow) (newId : String) (i : RuleInputs) :
    Except RuleError (List RuleRow × RuleRow) := do
  let name ← validateRuleInputs i
  let row ← (newRow newId).configure name i
  if (getRule rows newId).isSome then throw .integrity
  return (rows ++ [row], row)

/-- The runtime state reset: the streaks, and the status of a rule that is not disabled. -/
def RuleRow.reset (row : RuleRow) : RuleRow :=
  { row with rule := { row.rule with
      failureStreak := 0
      recoveryStreak := 0
      status := if row.rule.enabled && row.rule.status != .disabled then .armed
        else row.rule.status } }

/-- `update_rule`; `none` if there is no such rule. -/
def updateRule (rows : List RuleRow) (ruleId : String) (i : RuleInputs) :
    Except RuleError (List RuleRow × Option RuleRow) := do
  let name ← validateRuleInputs i
  match getRule rows ruleId with
  | none => return (rows, none)
  | some row =>
    let row := (← row.configure name i).reset
    return (putRule rows ruleId row, some row)

/-- `delete_rule`. -/
def deleteRule (rows : List RuleRow) (ruleId : String) : List RuleRow × Bool :=
  (rows.filter (·.rule.id ≠ ruleId), (getRule rows ruleId).isSome)

/-- `set_enabled`. -/
def setEnabled (rows : List RuleRow) (ruleId : String) (enabled : Bool) : List RuleRow × Bool :=
  match getRule rows ruleId with
  | none => (rows, false)
  | some row =>
    (putRule rows ruleId { row with rule := { row.rule with
      enabled := enabled
      status := if enabled then .armed else .disabled } }, true)

/-! ### The import -/

/-- The records of the section that `_plan_named` plans to write, given the names seen before. -/
def plannedRecords : List (List Char) → List Json → Except PyError (List (List (String × Json)))
  | _, [] => .ok []
  | seen, .obj ms :: recs =>
    match strippedText (field ms "name") with
    | .error e => .error e
    | .ok name =>
      if name.isEmpty ∨ name ∈ seen then plannedRecords seen recs
      else do return ms :: (← plannedRecords (name :: seen) recs)
  | _, _ :: _ => .error .attributeError

/-- `rec.get(name, default)`. -/
def fieldOr (ms : List (String × Json)) (name : String) (default : Json) : Json :=
  (ms.lookup name).getD default

/-- `bool(rec.get("enabled", True))`. -/
def importedEnabled (ms : List (String × Json)) : Bool := (fieldOr ms "enabled" (.bool true)).truthy

/-- The id of the site a record names, if there is one. -/
def importedSite (sites : List (String × String)) (ms : List (String × Json)) :
    Except PyError Json :=
  match field ms "site_name" with
  | .str name => .ok (match sites.lookup name with
    | some id => .str id
    | none => .null)
  -- a list or an object cannot be looked up in a dict
  | .arr _ | .obj _ => .error .typeError
  | _ => .ok .null

/-- The row with a record's fields assigned to its columns. -/
def RuleRow.assign (row : RuleRow) (sites : List (String × String)) (ms : List (String × Json)) :
    Except PyError RuleRow := do
  let siteId ← importedSite sites ms
  let failureThreshold ← (fieldOr ms "failure_threshold" (.int 3)).toInt
  let recoveryThreshold ← (fieldOr ms "recovery_threshold" (.int 2)).toInt
  let windowSeconds ← (fieldOr ms "window_seconds" (.int 60)).toInt
  let cooldownSeconds ← (fieldOr ms "cooldown_seconds" (.int 300)).toInt
  let maxRetries ← (fieldOr ms "max_retries" (.int 3)).toInt
  let retryDelaySeconds ← (fieldOr ms "retry_delay_seconds" (.int 60)).toInt
  return { row with
    rule := { row.rule with
      enabled := importedEnabled ms
      probe := (field ms "probe").orEmpty
      target := (field ms "target").orEmpty
      action := (field ms "action").orEmpty
      escalation := orStop (field ms "escalation")
      maintenanceWindows := (field ms "maintenance_windows").orNil
      failureThreshold := failureThreshold
      recoveryThreshold := recoveryThreshold
      windowSeconds := windowSeconds
      cooldownSeconds := cooldownSeconds }
    description := field ms "description"
    siteId := siteId
    maxRetries := maxRetries
    retryDelaySeconds := retryDelaySeconds }

/-- The row of a name; of several the last read. -/
def rowNamed (rows : List RuleRow) (name : Json) : Option RuleRow :=
  rows.reverse.find? fun r => name = .str r.name

/-- One record of the import; `existing` are the rows the import began with. -/
def applyRecord (sites : List (String × String)) (newId : Nat → String)
    (existing rows : List RuleRow) (ms : List (String × Json)) :
    Except RuleError (List RuleRow) :=
  match rowNamed existing (field ms "name") with
  | none => do
    let id := newId rows.length
    let name := match field ms "name" with
      | .str name => name
      | _ => ""
    let row ← raising ({ newRow id with name := name }.assign sites ms)
    if (getRule rows id).isSome then throw .integrity
    return rows ++ [row]
  | some found => match getRule rows found.rule.id with
    | none => .ok rows
    | some row => do return putRule rows row.rule.id (← raising (row.assign sites ms))

/-- The records of the import, in order. -/
def applyRecords (sites : List (String × String)) (newId : Nat → String)
    (existing : List RuleRow) :
    List RuleRow → List (List (String × Json)) → Except RuleError (List RuleRow)
  | rows, [] => .ok rows
  | rows, ms :: recs => do
    applyRecords sites newId existing (← applyRecord sites newId existing rows ms) recs

/-- `_apply_watchdog_rules`, on the records of a backup's section. -/
def applyWatchdogRules (sites : List (String × String)) (newId : Nat → String)
    (rows : List RuleRow) (records : List Json) : Except RuleError (List RuleRow) := do
  applyRecords sites newId rows rows (← raising (plannedRecords [] records))

/-! ### The table over time -/

/-- The table after a tick. -/
def tickTable (inp : TickInput) (rows : List RuleRow) : List RuleRow :=
  (rows.zip (tick inp (rows.map (·.rule))).rules).map fun (row, rule) => { row with rule }

/-- A write of the table. -/
inductive RuleStep where
  | create (newId : String) (i : RuleInputs)
  | update (ruleId : String) (i : RuleInputs)
  | delete (ruleId : String)
  | setEnabled (ruleId : String) (enabled : Bool)
  | importRules (sites : List (String × String)) (newId : Nat → String) (records : List Json)
  | tick (inp : TickInput)

/-- The table after a write.  What raises is rolled back. -/
def tableStep (rows : List RuleRow) : RuleStep → List RuleRow
  | .create newId i => match createRule rows newId i with
    | .ok (rows, _) => rows
    | .error _ => rows
  | .update ruleId i => match updateRule rows ruleId i with
    | .ok (rows, _) => rows
    | .error _ => rows
  | .delete ruleId => (deleteRule rows ruleId).1
  | .setEnabled ruleId enabled => (Watchdog.setEnabled rows ruleId enabled).1
  | .importRules sites newId records => match applyWatchdogRules sites newId rows records with
    | .ok rows => rows
    | .error _ => rows
  | .tick inp => tickTable inp rows

end RebooterHub.Watchdog
