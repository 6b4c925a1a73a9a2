import RebooterHub.Watchdog.Rules

/-!
# Watchdog — Tick

`watchdog_runtime`: one tick of the probe runtime over the stored rules.

The answers of the world are the tick's input (`TickInput`): the clock, the two switches that
stop the runtime, what each rule's probe returns and what the action executors return.  A rule's
part of the tick is `tickRule`; it yields the new row, the events logged, the leaf actions
handed to the executors and the exception that left it, if one did.  The executors enqueue
commands in transactions of their own, so what was dispatched stands even when an exception
rolls the tick's own transaction back (`tick`).
-/

namespace RebooterHub.Watchdog

/-- What `run_probe` does: it returns an outcome with details, or raises. -/
inductive ProbeRun where
  | done (ok : Bool) (details : Json)
  | raised (error : String)

/-- What the world answers during one tick. -/
structure TickInput where
  now : Time
  /-- `REBOOTER_WATCHDOG_DISABLED=1`. -/
  watchdogDisabled : Bool
  /-- The portal-wide maintenance mode. -/
  maintenanceMode : Bool
  runProbe : WatchdogRule → ProbeRun
  /-- `_dispatch_one(rule, action, target)`: the report, or the text of what it raised. -/
  dispatchOne : WatchdogRule → Json → Json → Except String Json

/-- What one rule's part of a tick leaves behind. -/
structure RuleTick where
  rule : WatchdogRule
  events : List EventRecord
  /-- The leaf actions handed to the executors. -/
  dispatched : List Json
  raised : Option PyError

/-! ### Scheduling -/

/-- `_rule_is_due`. -/
def ruleIsDue (rule : WatchdogRule) (now : Time) : Bool :=
  match rule.lastProbedAt with
  | none => true
  | some at_ => decide (seconds rule.windowSeconds ≤ now - at_)

/-- The endpoint `key` of a window; `none` where Python's subscript or parse raises. -/
def windowEndpoint (w : Json) (key : String) : Option Time :=
  match w.item key with
  | .ok (.str s) => fromisoformat s
  | _ => none

/-- The window `w` is well formed and `now` lies in it. -/
def windowContains (now : Time) (w : Json) : Bool :=
  match windowEndpoint w "start", windowEndpoint w "end" with
  | some start, some stop => decide (start ≤ now ∧ now ≤ stop)
  | _, _ => false

/-- `_in_maintenance_window`.  Malformed windows are skipped, but the column itself is iterated
over outside the `try`: a number there raises. -/
def inMaintenanceWindow (rule : WatchdogRule) (now : Time) : Except PyError Bool :=
  if !rule.maintenanceWindows.truthy then .ok false
  else match rule.maintenanceWindows with
    | .arr ws => .ok (ws.any (windowContains now))
    -- the keys of an object and the characters of a text are texts: subscripting them raises
    -- inside the `try`
    | .obj _ | .str _ => .ok false
    | _ => .error .typeError

/-! ### Actions -/

/-- The `kind` of an action, `None` when it has none. -/
def actionKind (action : Json) : Except PyError Json := action.orEmpty.get "kind"

/-- What the executors report, an exception of theirs captured in the report. -/
def actionReport (kind : Json) : Except String Json → Json
  | .ok report => report
  | .error e => .obj [("action", kind), ("error", .str e)]

/-- `_fire_action`, and `apply_binding_action` for a leaf of a binding.  Reading the `kind` of an
action that is not an object raises in the `try` and again in its handler. -/
def fireAction (inp : TickInput) (rule : WatchdogRule) (action : Json) : Except PyError Json := do
  let kind ← actionKind action
  return actionReport kind (inp.dispatchOne rule action.orEmpty rule.target.orEmpty)

/-- `_run_escalation_and_emit` guards its two notifications; only reading the escalation of a rule
whose `escalation` is not an object escapes. -/
def runEscalationAndEmit (rule : WatchdogRule) : Option PyError :=
  match rule.escalation.orEmpty with
  | .obj _ => none
  | _ => some .attributeError

/-! ### Bindings -/

/-- The streaks after an outcome. -/
def countOutcome (rule : WatchdogRule) : ProbeOutcome → WatchdogRule
  | .success => { rule with recoveryStreak := rule.recoveryStreak + 1, failureStreak := 0 }
  | .failure => { rule with failureStreak := rule.failureStreak + 1, recoveryStreak := 0 }
  | .probeError => rule

/-- The row with `last_probed_at` stamped. -/
def probedAt (rule : WatchdogRule) (now : Time) : WatchdogRule :=
  { rule with lastProbedAt := some now }

/-- The edge the streaks are long enough to assert. -/
def assertedEdge (rule : WatchdogRule) : Option Edge :=
  if max 1 rule.recoveryThreshold ≤ rule.recoveryStreak then some .active
  else if max 1 rule.failureThreshold ≤ rule.failureStreak then some .cleared
  else none

/-- The leaf of a binding that belongs to an edge. -/
def bindingLeaf (rule : WatchdogRule) (edge : Edge) : Except PyError Json := do
  return (← rule.action.orEmpty.get edge.leafKey).orEmpty

/-- The row after an edge was applied. -/
def markApplied (rule : WatchdogRule) (edge : Edge) (now : Time) : WatchdogRule :=
  { rule with
    lastOutcome := some (.binding edge)
    lastActionAt := some now
    status := match edge with
      | .active => .firing
      | .cleared => .armed }

/-- `_binding_tick` once the streaks assert `edge`. -/
def applyEdge (inp : TickInput) (rule : WatchdogRule) (outcome : ProbeOutcome) (edge : Edge) :
    RuleTick :=
  if rule.lastOutcome = some (.binding edge) then ⟨rule, [], [], none⟩
  else match bindingLeaf rule edge with
    | .error e => ⟨rule, [], [], some e⟩
    | .ok leaf => match fireAction inp rule leaf, actionKind leaf with
      | .ok result, .ok kind =>
          ⟨markApplied rule edge inp.now, [.bindingApplied edge outcome kind result], [leaf],
            none⟩
      | .error e, _ | _, .error e => ⟨rule, [], [], some e⟩

/-- `_binding_tick`. -/
def bindingTick (inp : TickInput) (rule : WatchdogRule) (outcome : ProbeOutcome) : RuleTick :=
  match outcome with
  | .probeError =>
      ⟨{ probedAt rule inp.now with lastOutcome := some (.probe outcome) }, [], [], none⟩
  | .success | .failure =>
    let rule := countOutcome (probedAt rule inp.now) outcome
    match assertedEdge rule with
    | none => ⟨{ rule with lastOutcome := some (.settling outcome) }, [], [], none⟩
    | some edge => applyEdge inp rule outcome edge

/-! ### Edge-triggered rules -/

/-- The success branch of `_update_state_and_maybe_fire`. -/
def recordSuccess (rule : WatchdogRule) : RuleTick :=
  if 0 < rule.failureStreak ∨ rule.status = .firing then
    let rule := { rule with recoveryStreak := rule.recoveryStreak + 1 }
    if rule.recoveryThreshold ≤ rule.recoveryStreak then
      ⟨{ rule with failureStreak := 0, recoveryStreak := 0, status := .armed },
        [.recovery "recovery_threshold reached"], [], none⟩
    else ⟨rule, [], [], none⟩
  else ⟨{ rule with recoveryStreak := 0 }, [], [], none⟩

/-- The rule is inside its cooldown. -/
def coolingDown (rule : WatchdogRule) (now : Time) : Bool :=
  match rule.lastActionAt with
  | none => false
  | some at_ => decide (now - at_ < seconds rule.cooldownSeconds)

/-- The failure branch of `_update_state_and_maybe_fire`. -/
def recordFailure (inp : TickInput) (rule : WatchdogRule) : RuleTick :=
  let rule := { rule with recoveryStreak := 0, failureStreak := rule.failureStreak + 1 }
  if (rule.failureStreak : Int) < rule.failureThreshold then ⟨rule, [], [], none⟩
  else if coolingDown rule inp.now then
    ⟨rule, [.cooldownSkip rule.failureStreak], [], none⟩
  else match fireAction inp rule rule.action with
    | .error e => ⟨rule, [], [], some e⟩
    | .ok report =>
        ⟨{ rule with status := .firing, lastActionAt := some inp.now }, [.actionFired report],
          [rule.action.orEmpty], runEscalationAndEmit rule⟩

/-- `_update_state_and_maybe_fire`. -/
def updateStateAndMaybeFire (inp : TickInput) (rule : WatchdogRule) (outcome : ProbeOutcome) :
    RuleTick :=
  match actionKind rule.action with
  | .error e => ⟨rule, [], [], some e⟩
  | .ok kind =>
    if kind = .str "binding" then bindingTick inp rule outcome
    else
      let rule := { probedAt rule inp.now with lastOutcome := some (.probe outcome) }
      match outcome with
      | .success => recordSuccess rule
      | .failure => recordFailure inp rule
      | .probeError => ⟨rule, [], [], none⟩

/-! ### The tick -/

/-- The outcome and details of a rule's probe. -/
def probeOutcome : ProbeRun → ProbeOutcome × Json
  | .done true details => (.success, details)
  | .done false details => (.failure, details)
  | .raised e => (.probeError, .obj [("error", .str e)])

/-- The rule is among those the tick loads. -/
def isLoaded (rule : WatchdogRule) : Bool := rule.enabled && rule.status != .disabled

/-- One rule's part of the tick: the body of its loop. -/
def tickRule (inp : TickInput) (rule : WatchdogRule) : RuleTick :=
  if !isLoaded rule || !ruleIsDue rule inp.now then ⟨rule, [], [], none⟩
  else match inMaintenanceWindow rule inp.now with
    | .error e => ⟨rule, [], [], some e⟩
    | .ok true =>
        ⟨{ probedAt rule inp.now with lastOutcome := some .maintenanceSkip },
          [.maintenanceSkip "rule maintenance window"], [], none⟩
    | .ok false =>
        let (outcome, details) := probeOutcome (inp.runProbe rule)
        let t := updateStateAndMaybeFire inp rule outcome
        { t with events := .probe outcome details :: t.events }

/-- What a tick leaves behind: the committed rows and events, what was dispatched, and the
exception that rolled the tick back, if one did. -/
structure TickResult where
  rules : List WatchdogRule
  events : List ProbeEvent
  dispatched : List (String × Json)
  raised : Option PyError

/-- The events of one rule, as rows. -/
def RuleTick.rows (t : RuleTick) (now : Time) : List ProbeEvent :=
  t.events.map fun r => ⟨t.rule.id, now, r⟩

/-- The loop of the tick, up to the first exception. -/
def tickRules (inp : TickInput) : List WatchdogRule → TickResult
  | [] => ⟨[], [], [], none⟩
  | rule :: rules =>
    let t := tickRule inp rule
    let fired := t.dispatched.map fun a => (rule.id, a)
    match t.raised with
    | some e => ⟨t.rule :: rules, t.rows inp.now, fired, some e⟩
    | none =>
      let rest := tickRules inp rules
      ⟨t.rule :: rest.rules, t.rows inp.now ++ rest.events, fired ++ rest.dispatched,
        rest.raised⟩

/-- `tick`.  An exception leaves `session_scope` and rolls every row and event back. -/
def tick (inp : TickInput) (rules : List WatchdogRule) : TickResult :=
  if inp.watchdogDisabled || inp.maintenanceMode then ⟨rules, [], [], none⟩
  else
    let r := tickRules inp rules
    match r.raised with
    | some e => ⟨rules, [], r.dispatched, some e⟩
    | none => r

end RebooterHub.Watchdog
