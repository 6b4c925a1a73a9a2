import RebooterHub.Data.Json
import RebooterHub.Data.Time

/-!
# Watchdog — Rules

The `watchdog_rules` row as the probe runtime reads and writes it, and the events it logs.

`last_outcome` is one text column in which every branch of the runtime writes; the texts are
`LastOutcome`, and `LastOutcome.text` spells them.  The JSON columns (`probe`, `target`,
`action`, `escalation`, `maintenance_windows`) hold whatever JSON was stored.
-/

namespace RebooterHub.Watchdog

/-- `KNOWN_RULE_STATUSES`. -/
inductive RuleStatus where
  | armed
  | firing
  | cooledDown
  | suspended
  | disabled
deriving DecidableEq, Repr

/-- The outcome of one probe, `probe_error` when the probe raised. -/
inductive ProbeOutcome where
  | success
  | failure
  | probeError
deriving DecidableEq, Repr

/-- The text of an outcome. -/
def ProbeOutcome.text : ProbeOutcome → String
  | .success => "success"
  | .failure => "failure"
  | .probeError => "probe_error"

/-- The two edges of a binding. -/
inductive Edge where
  | active
  | cleared
deriving DecidableEq, Repr

namespace Edge

/-- The opposite edge. -/
def other : Edge → Edge
  | .active => .cleared
  | .cleared => .active

/-- The text of an edge. -/
def text : Edge → String
  | .active => "active"
  | .cleared => "cleared"

/-- The key of the leaf action that belongs to an edge. -/
def leafKey : Edge → String
  | .active => "on_active"
  | .cleared => "on_clear"

end Edge

/-- What `last_outcome` can hold. -/
inductive LastOutcome where
  /-- The outcome of the probe itself. -/
  | probe (o : ProbeOutcome)
  | maintenanceSkip
  | settling (o : ProbeOutcome)
  | binding (e : Edge)
deriving DecidableEq, Repr

/-- The text stored in the column. -/
def LastOutcome.text : LastOutcome → String
  | .probe o => o.text
  | .maintenanceSkip => "maintenance_skip"
  | .settling o => "binding_settling:" ++ o.text
  | .binding e => "binding:" ++ e.text

/-- A row of `watchdog_rules`. -/
structure WatchdogRule where
  id : String
  enabled : Bool
  status : RuleStatus
  probe : Json
  failureThreshold : Int
  recoveryThreshold : Int
  windowSeconds : Int
  cooldownSeconds : Int
  target : Json
  action : Json
  escalation : Json
  maintenanceWindows : Json
  failureStreak : Nat
  recoveryStreak : Nat
  lastProbedAt : Option Time
  lastActionAt : Option Time
  lastOutcome : Option LastOutcome

/-- What an event of `watchdog_probe_events` records, with its details. -/
inductive EventRecord where
  | probe (outcome : ProbeOutcome) (details : Json)
  | maintenanceSkip (reason : String)
  | recovery (reason : String)
  | cooldownSkip (failureStreak : Nat)
  | actionFired (report : Json)
  | bindingApplied (edge : Edge) (outcome : ProbeOutcome) (leafAction result : Json)

/-- The `outcome` text of an event. -/
def EventRecord.outcome : EventRecord → String
  | .probe o _ => o.text
  | .maintenanceSkip _ => "maintenance_skip"
  | .recovery _ => "recovery"
  | .cooldownSkip _ => "cooldown_skip"
  | .actionFired _ => "action_fired"
  | .bindingApplied .. => "binding_applied"

/-- The edge of a `binding_applied` event. -/
def EventRecord.edge? : EventRecord → Option Edge
  | .bindingApplied e .. => some e
  | _ => none

/-- A row of `watchdog_probe_events`. -/
structure ProbeEvent where
  ruleId : String
  at_ : Time
  record : EventRecord

end RebooterHub.Watchdog
