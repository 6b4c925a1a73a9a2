import RebooterHub.Commands.Groups
import RebooterHub.Schedules.Runtime
import RebooterHub.Watchdog.Tick

/-!
# Watchdog — Actions

`watchdog_runtime/_actions`: the executors a tick hands its leaf actions to.

Each enqueues by `enqueue_for_device`, one transaction for each command, so what was enqueued
before an exception stands.  `dispatchOne_enqueues` says which calls an action can make: none of
them carries the lockout override, and one that switches a relay on is for a device in
`switchedOn`.
-/

namespace RebooterHub.Watchdog
open RebooterHub.Commands RebooterHub.Fallible
open RebooterHub.Schedules (resolveTargetDevices)

/-- What the executors read besides the rule, and the id of the command that is enqueued as the
`n`-th row of the table. -/
structure ActionEnv where
  now : Time
  /-- Group and device. -/
  memberships : List (String × String)
  /-- Each scene's `items`. -/
  scenes : List (String × Json)
  newId : Nat → String
  /-- `str(x)` of a value that is not a text. -/
  str : Json → String
  /-- `str(e)` of an exception that no service raises itself, by its class. -/
  errorText : String → String

/-- The class of an exception. -/
def className : PyError → String
  | .attributeError => "AttributeError"
  | .typeError => "TypeError"
  | .keyError => "KeyError"
  | .valueError => "ValueError"
  | .overflowError => "OverflowError"

/-- `str(x)`. -/
def ActionEnv.text (env : ActionEnv) : Json → String
  | .str s => s
  | x => env.str x

/-- `str(e)` of an exception of the command service. -/
def ActionEnv.message (env : ActionEnv) : CommandError → String
  | .value m => m
  | .lookup id => id
  | .locked d => "device " ++ d ++ " is protected; override_lockout=True required"
  | .python e => env.errorText (className e)
  | .integrity => env.errorText "IntegrityError"

/-! ### Enqueueing -/

/-- The arguments the executors call `enqueue_for_device` with. -/
def actionArgs (cmdType : String) (payload : Json) (setHoldOff : Bool) (did : String) :
    EnqueueArgs where
  deviceId := did
  cmdType := cmdType
  payload := payload
  issuedByUserId := none
  ttlSeconds := .null
  groupId := none
  overrideLockout := false
  setHoldOff := setHoldOff

/-- One call: the tables after it, and the command or the text of the exception. -/
def enqueueOne (env : ActionEnv) (args : String → EnqueueArgs) (fleet : Fleet) (did : Json) :
    Fleet × Except String Command :=
  match did with
  | .str did => match enqueueForDevice fleet env.now (env.newId fleet.commands.length) (args did) with
    | .ok (fleet, cmd, _) => (fleet, .ok cmd)
    | .error e => (fleet, .error (env.message e))
  -- the id is compared with a text column
  | _ => (fleet, .error (env.errorText "ProgrammingError"))

/-- The loop of an executor over the target's devices. -/
def enqueueEach (env : ActionEnv) (args : String → EnqueueArgs) :
    Fleet → List Json → Fleet × List (Json × Except String Command)
  | fleet, [] => (fleet, [])
  | fleet, did :: dids =>
    let (fleet, r) := enqueueOne env args fleet did
    let (fleet, rs) := enqueueEach env args fleet dids
    (fleet, (did, r) :: rs)

/-- The entries of `skipped`. -/
def skippedEntries (rs : List (Json × Except String Command)) : Json :=
  .arr (rs.filterMap fun (did, r) => match r with
    | .ok _ => none
    | .error e => some (.obj [("device_id", did), ("error", .str e)]))

/-- The ids in `enqueued`. -/
def enqueuedIds (rs : List (Json × Except String Command)) : Json :=
  .arr (rs.filterMap fun (_, r) => match r with
    | .ok cmd => some (.str cmd.id)
    | .error _ => none)

/-- The devices in `held`. -/
def heldIds (rs : List (Json × Except String Command)) : Json :=
  .arr (rs.filterMap fun (did, r) => match r with
    | .ok _ => some did
    | .error _ => none)

/-! ### The executors -/

/-- The part the executors on a target share: they call with `args` for each of its devices and
report `result`. -/
def fireOnTarget (env : ActionEnv) (fleet : Fleet) (action : String) (target : Json)
    (args : Except PyError (String → EnqueueArgs))
    (result : List (Json × Except String Command) → Json) : Fleet × Except String Json :=
  match resolveTargetDevices env.memberships target with
  | .error e => (fleet, .error (env.errorText e))
  | .ok dids =>
    if dids.isEmpty then
      (fleet, .ok (.obj [("action", .str action), ("skipped", .str "no devices in target")]))
    else match args with
      | .error e => (fleet, .error (env.errorText (className e)))
      | .ok args =>
        let (fleet, rs) := enqueueEach env args fleet dids
        (fleet, .ok (result rs))

/-- `_fire_relay_set`. -/
def fireRelaySet (env : ActionEnv) (fleet : Fleet) (rule : WatchdogRule) (target : Json)
    (cmdType : String) : Fleet × Except String Json :=
  fireOnTarget env fleet cmdType target (.ok (actionArgs cmdType .null false)) fun rs =>
    .obj [("action", .str cmdType), ("rule_id", .str rule.id), ("enqueued", enqueuedIds rs),
      ("skipped", skippedEntries rs)]

/-- `int(action.get(key, default))`. -/
def intMember (action : Json) (key : String) (default : Int) : Except PyError Int :=
  match action with
  | .obj ms => ((ms.lookup key).getD (.int default)).toInt
  | _ => .error .attributeError

/-- The payload of a cycle. -/
def cyclePayload (action : Json) : Except PyError Json := do
  let powerOff ← intMember action "power_off_seconds" 5
  let holdoff ← intMember action "post_reboot_holdoff_seconds" 180
  return .obj [("power_off_seconds", .int powerOff), ("post_reboot_holdoff_seconds", .int holdoff)]

/-- `_fire_cycle`.  The payload is read after the target was found to have devices. -/
def fireCycle (env : ActionEnv) (fleet : Fleet) (rule : WatchdogRule) (target action : Json) :
    Fleet × Except String Json :=
  match cyclePayload action with
  | .ok payload =>
      fireOnTarget env fleet "cycle" target (.ok (actionArgs "relay_cycle" payload false)) fun rs =>
        .obj [("action", .str "cycle"), ("rule_id", .str rule.id), ("enqueued", enqueuedIds rs),
          ("skipped", skippedEntries rs), ("payload", payload)]
  | .error e => fireOnTarget env fleet "cycle" target (.error e) fun _ => .null

/-- `_fire_hold_off`. -/
def fireHoldOff (env : ActionEnv) (fleet : Fleet) (rule : WatchdogRule) (target : Json) :
    Fleet × Except String Json :=
  fireOnTarget env fleet "hold_off" target (.ok (actionArgs "relay_off" .null true)) fun rs =>
    .obj [("action", .str "hold_off"), ("rule_id", .str rule.id), ("held", heldIds rs),
      ("skipped", skippedEntries rs)]

/-! ### Scenes -/

/-- The key a value stands for when a row is looked up by it: a list is taken as the columns of
the key. -/
def sceneKey : Json → Option String
  | .str id | .arr [.str id] => some id
  | _ => none

/-- `list(x or [])`; an error is the class of the exception. -/
def listOf (x : Json) : Except String (List Json) :=
  match x.orNil.iter with
  | .ok xs => .ok xs
  | .error e => .error (className e)

/-- `scene_items`; an error is the class of the exception. -/
def sceneItems (scenes : List (String × Json)) (sceneId : Json) :
    Except String (Option (List Json)) :=
  match sceneKey sceneId with
  | none => .error "ProgrammingError"
  | some id => match scenes.lookup id with
    | none => .ok none
    | some items => (listOf items).map some

/-- The items of an `apply_scene` action, `none` for a scene that is not there. -/
def actionItems (scenes : List (String × Json)) (ms : List (String × Json)) :
    Except String (Option (List Json)) :=
  let sceneId := (ms.lookup "scene_id").getD .null
  if sceneId.truthy then sceneItems scenes sceneId
  else (listOf ((ms.lookup "items").getD .null)).map some

/-- The device an item names, without the spaces around it. -/
def itemDevice (env : ActionEnv) (ms : List (String × Json)) : String :=
  let did := (ms.lookup "device_id").getD .null
  if did.truthy then String.ofList (Text.strip (env.text did).toList) else ""

/-- The commands an item stands for, in order. -/
def itemCommands (ms : List (String × Json)) : List (String × Json) :=
  let relay := (ms.lookup "relay").getD .null
  let config := (ms.lookup "config").getD .null
  (if relay = .str "on" then [("relay_on", .null)]
    else if relay = .str "off" then [("relay_off", .null)]
    else if relay = .str "cycle" then
      [("relay_cycle", .obj [("power_off_seconds", .int 5),
        ("post_reboot_holdoff_seconds", .int 180)])]
    else []) ++
  match config with
  | .obj (_ :: _) => [("apply_config", config)]
  | _ => []

/-- The commands of an item, up to the first exception. -/
def enqueueItem (env : ActionEnv) (did : String) :
    Fleet → List (String × Json) → Fleet × Except String Unit
  | fleet, [] => (fleet, .ok ())
  | fleet, (cmdType, payload) :: cmds =>
    match enqueueOne env (actionArgs cmdType payload false) fleet (.str did) with
    | (fleet, .error e) => (fleet, .error e)
    | (fleet, .ok _) => enqueueItem env did fleet cmds

/-- The entries of a scene's report. -/
structure SceneReport where
  applied : List Json
  skipped : List Json

/-- The loop of `_fire_scene`.  An item that is not an object raises. -/
def fireItems (env : ActionEnv) : Fleet → List Json → Fleet × Except String SceneReport
  | fleet, [] => (fleet, .ok ⟨[], []⟩)
  | fleet, item :: items =>
    match item.orEmpty with
    | .obj ms =>
      let did := itemDevice env ms
      if did = "" then
        let (fleet, r) := fireItems env fleet items
        (fleet, r.map fun r => { r with
          skipped := .obj [("item", item), ("error", .str "missing device_id")] :: r.skipped })
      else
        let (fleet, done) := enqueueItem env did fleet (itemCommands ms)
        let (fleet, r) := fireItems env fleet items
        (fleet, r.map fun r => match done with
          | .ok _ => { r with applied := .obj [("device_id", .str did),
              ("commands", .arr ((itemCommands ms).map fun c => .str c.1))] :: r.applied }
          | .error e => { r with skipped := .obj [("device_id", .str did),
              ("error", .str e)] :: r.skipped })
    | _ => (fleet, .error (env.errorText "AttributeError"))

/-- `_fire_scene`. -/
def fireScene (env : ActionEnv) (fleet : Fleet) (rule : WatchdogRule) (action : Json) :
    Fleet × Except String Json :=
  match action.orEmpty with
  | .obj ms => match actionItems env.scenes ms with
    | .error e => (fleet, .error (env.errorText e))
    | .ok none => (fleet, .ok (.obj [("action", .str "apply_scene"), ("rule_id", .str rule.id),
        ("error", .str ("scene " ++ env.text ((ms.lookup "scene_id").getD .null) ++ " not found")),
        ("applied", .arr []), ("skipped", .arr [])]))
    | .ok (some items) =>
      let (fleet, r) := fireItems env fleet items
      (fleet, r.map fun r => .obj [("action", .str "apply_scene"), ("rule_id", .str rule.id),
        ("applied", .arr r.applied), ("skipped", .arr r.skipped)])
  | _ => (fleet, .error (env.errorText "AttributeError"))

/-! ### Dispatch -/

/-- `_dispatch_one`. -/
def dispatchOne (env : ActionEnv) (fleet : Fleet) (rule : WatchdogRule) (action target : Json) :
    Fleet × Except String Json :=
  match actionKind action with
  | .error e => (fleet, .error (env.errorText (className e)))
  | .ok kind =>
    if kind = .str "cycle" then fireCycle env fleet rule target action
    else if kind = .str "hold_off" then fireHoldOff env fleet rule target
    else if kind = .str "relay_on" then fireRelaySet env fleet rule target "relay_on"
    else if kind = .str "relay_off" then fireRelaySet env fleet rule target "relay_off"
    else if kind = .str "apply_scene" then fireScene env fleet rule action
    else if kind = .str "notify_only" then
      (fleet, .ok (.obj [("action", .str "notify_only"), ("note", .str "no power action")]))
    else (fleet, .ok (.obj [("action", kind), ("error",
      .str ("unsupported action: " ++ match kind with
        | .null => "None"
        | kind => env.text kind))]))

/-! ### What an action can call -/

/-- The text a value is. -/
def asText : Json → Option String
  | .str s => some s
  | _ => none

/-- The devices of a target. -/
def targetIds (memberships : List (String × String)) (target : Json) : List String :=
  match resolveTargetDevices memberships target with
  | .ok dids => dids.filterMap asText
  | .error _ => []

/-- The device an item switches on, if it does. -/
def itemSwitchedOn (env : ActionEnv) (ms : List (String × Json)) : List String :=
  if itemDevice env ms ≠ "" ∧ (itemCommands ms).any (·.1 ∈ powerOnTypes) then [itemDevice env ms]
  else []

/-- The devices the items of a scene switch on, up to an item that is not an object. -/
def itemsSwitchedOn (env : ActionEnv) : List Json → List String
  | [] => []
  | item :: items =>
    match item.orEmpty with
    | .obj ms => itemSwitchedOn env ms ++ itemsSwitchedOn env items
    | _ => []

/-- The devices a scene switches on. -/
def sceneSwitchedOn (env : ActionEnv) (action : Json) : List String :=
  match action.orEmpty with
  | .obj ms => match actionItems env.scenes ms with
    | .ok (some items) => itemsSwitchedOn env items
    | _ => []
  | _ => []

/-- The devices an action switches on: those it asks `relay_on` or `relay_cycle` for. -/
def switchedOn (env : ActionEnv) (action target : Json) : List String :=
  match actionKind action with
  | .error _ => []
  | .ok kind =>
    if kind = .str "cycle" then
      match cyclePayload action with
      | .ok _ => targetIds env.memberships target
      | .error _ => []
    else if kind = .str "relay_on" then targetIds env.memberships target
    else if kind = .str "apply_scene" then sceneSwitchedOn env action
    else []

/-- A call without the override, for one of `on` if it switches a relay on. -/
structure Call (on : List String) (a : EnqueueArgs) : Prop where
  noOverride : a.overrideLockout = false
  switches : a.cmdType ∈ powerOnTypes → a.deviceId ∈ on

theorem Call.mono {on on' : List String} (h : ∀ d ∈ on, d ∈ on') {a : EnqueueArgs}
    (ha : Call on a) : Call on' a :=
  ⟨ha.noOverride, fun ht => h _ (ha.switches ht)⟩

theorem call_of_not_powerOn {on : List String} {cmdType : String} (h : cmdType ∉ powerOnTypes)
    (payload : Json) (setHoldOff : Bool) (did : String) :
    Call on (actionArgs cmdType payload setHoldOff did) :=
  ⟨rfl, fun ht => absurd ht h⟩

theorem call_of_mem {on : List String} {did : String} (h : did ∈ on) (cmdType : String)
    (payload : Json) (setHoldOff : Bool) :
    Call on (actionArgs cmdType payload setHoldOff did) :=
  ⟨rfl, fun _ => h⟩

section
variable {P : EnqueueArgs → Prop} {env : ActionEnv}

theorem enqueues_enqueueOne {args : String → EnqueueArgs} {did : Json} {fleet : Fleet}
    (h : ∀ d, did = .str d → P (args d)) :
    Enqueues P fleet (enqueueOne env args fleet did).1 := by
  rw [enqueueOne.eq_def]
  split
  · next d =>
      split
      · next hr => exact .single (h d rfl) hr
      · exact .refl _
  · exact .refl _

theorem enqueues_enqueueEach {args : String → EnqueueArgs} {dids : List Json} {fleet : Fleet}
    (h : ∀ d, .str d ∈ dids → P (args d)) :
    Enqueues P fleet (enqueueEach env args fleet dids).1 := by
  induction dids generalizing fleet with
  | nil => exact .refl _
  | cons did dids ih =>
      have hone : Enqueues P fleet (enqueueOne env args fleet did).1 :=
        enqueues_enqueueOne fun d hd => h d (hd ▸ List.mem_cons_self)
      exact hone.trans (ih fun d hd => h d (List.mem_cons_of_mem _ hd))

theorem enqueues_fireOnTarget {action : String} {target : Json} {fleet : Fleet}
    {args : Except PyError (String → EnqueueArgs)}
    {result : List (Json × Except String Command) → Json}
    (h : ∀ as, args = .ok as → ∀ d ∈ targetIds env.memberships target, P (as d)) :
    Enqueues P fleet (fireOnTarget env fleet action target args result).1 := by
  rw [fireOnTarget]
  split
  · exact .refl _
  · next dids hdids =>
      split
      · exact .refl _
      · split
        · exact .refl _
        · next as =>
            refine enqueues_enqueueEach fun d hd => h as rfl d ?_
            rw [targetIds, hdids]
            exact List.mem_filterMap.mpr ⟨_, hd, rfl⟩

theorem enqueues_enqueueItem {did : String} {cmds : List (String × Json)} {fleet : Fleet}
    (h : ∀ c ∈ cmds, P (actionArgs c.1 c.2 false did)) :
    Enqueues P fleet (enqueueItem env did fleet cmds).1 := by
  induction cmds generalizing fleet with
  | nil => exact .refl _
  | cons c cmds ih =>
      obtain ⟨cmdType, payload⟩ := c
      have hone : Enqueues P fleet
          (enqueueOne env (actionArgs cmdType payload false) fleet (.str did)).1 :=
        enqueues_enqueueOne fun d hd => by
          obtain rfl := Json.str.inj hd
          exact h _ List.mem_cons_self
      rw [enqueueItem]
      split
      · next heq => rwa [heq] at hone
      · next heq =>
          rw [heq] at hone
          exact hone.trans (ih fun c hc => h c (List.mem_cons_of_mem _ hc))

end

theorem enqueues_fireItems {env : ActionEnv} {items : List Json} {fleet : Fleet} :
    Enqueues (Call (itemsSwitchedOn env items)) fleet (fireItems env fleet items).1 := by
  induction items generalizing fleet with
  | nil => exact .refl _
  | cons item items ih =>
      rw [fireItems, itemsSwitchedOn]
      split
      · next ms _ =>
          have htail : ∀ f, Enqueues (Call (itemSwitchedOn env ms ++ itemsSwitchedOn env items)) f
              (fireItems env f items).1 := fun f =>
            ih.mono fun _ ha => ha.mono fun d hd => List.mem_append_right _ hd
          by_cases hdid : itemDevice env ms = ""
          · simp only [hdid, if_true]
            exact htail _
          · simp only [hdid, if_false]
            refine Enqueues.trans (enqueues_enqueueItem fun c hc => ?_) (htail _)
            refine ⟨rfl, fun ht => List.mem_append_left _ ?_⟩
            rw [itemSwitchedOn,
              if_pos ⟨hdid, List.any_eq_true.mpr ⟨c, hc, decide_eq_true ht⟩⟩]
            exact List.mem_singleton_self _
      · exact .refl _

theorem enqueues_fireScene {env : ActionEnv} {rule : WatchdogRule} {action : Json}
    {fleet : Fleet} :
    Enqueues (Call (sceneSwitchedOn env action)) fleet (fireScene env fleet rule action).1 := by
  rw [fireScene, sceneSwitchedOn]
  split
  · next ms _ =>
      rcases hitems : actionItems env.scenes ms with e | _ | items
      · exact .refl _
      · exact .refl _
      · exact enqueues_fireItems
  · exact .refl _

/-- **What an action can call**: nothing with the override, and nothing that switches a relay on
but for the devices in `switchedOn`. -/
theorem dispatchOne_enqueues (env : ActionEnv) (fleet : Fleet) (rule : WatchdogRule)
    (action target : Json) :
    Enqueues (Call (switchedOn env action target)) fleet
      (dispatchOne env fleet rule action target).1 := by
  rw [dispatchOne, switchedOn]
  split
  · exact .refl _
  · next kind _ =>
      by_cases hcycle : kind = .str "cycle"
      · rw [if_pos hcycle, if_pos hcycle, fireCycle]
        split
        · refine enqueues_fireOnTarget fun as has d hd => ?_
          obtain rfl := Except.ok.inj has
          exact call_of_mem hd _ _ _
        · exact enqueues_fireOnTarget fun as has => by cases has
      rw [if_neg hcycle, if_neg hcycle]
      by_cases hhold : kind = .str "hold_off"
      · rw [if_pos hhold]
        refine enqueues_fireOnTarget fun as has d _ => ?_
        obtain rfl := Except.ok.inj has
        exact call_of_not_powerOn (by simp [powerOnTypes]) _ _ _
      rw [if_neg hhold]
      by_cases hon : kind = .str "relay_on"
      · rw [if_pos hon, if_pos hon]
        refine enqueues_fireOnTarget fun as has d hd => ?_
        obtain rfl := Except.ok.inj has
        exact call_of_mem hd _ _ _
      rw [if_neg hon, if_neg hon]
      by_cases hoff : kind = .str "relay_off"
      · rw [if_pos hoff]
        refine enqueues_fireOnTarget fun as has d _ => ?_
        obtain rfl := Except.ok.inj has
        exact call_of_not_powerOn (by simp [powerOnTypes]) _ _ _
      rw [if_neg hoff]
      by_cases hscene : kind = .str "apply_scene"
      · rw [if_pos hscene, if_pos hscene]
        exact enqueues_fireScene
      rw [if_neg hscene, if_neg hscene]
      split <;> exact .refl _

/-! ### Over a tick -/

/-- The leaf actions the loop of a tick hands over, each with its rule, up to the first
exception. -/
def dispatchedActions (inp : TickInput) : List WatchdogRule → List (WatchdogRule × Json)
  | [] => []
  | rule :: rules =>
    (tickRule inp rule).dispatched.map (fun a => (rule, a)) ++
      match (tickRule inp rule).raised with
      | some _ => []
      | none => dispatchedActions inp rules

/-- The leaf actions a tick hands over. -/
def firedActions (inp : TickInput) (rules : List WatchdogRule) : List (WatchdogRule × Json) :=
  if inp.watchdogDisabled || inp.maintenanceMode then [] else dispatchedActions inp rules

theorem tickRules_dispatched (inp : TickInput) (rules : List WatchdogRule) :
    (tickRules inp rules).dispatched
      = (dispatchedActions inp rules).map fun (rule, a) => (rule.id, a) := by
  induction rules with
  | nil => rfl
  | cons rule rules ih =>
      rw [tickRules, dispatchedActions]
      cases hraised : (tickRule inp rule).raised with
      | some e => simp
      | none => simp [ih]

/-- They are those the tick reports. -/
theorem tick_dispatched (inp : TickInput) (rules : List WatchdogRule) :
    (tick inp rules).dispatched = (firedActions inp rules).map fun (rule, a) => (rule.id, a) := by
  rw [tick, firedActions]
  split
  · rfl
  · dsimp only
    split <;> exact tickRules_dispatched inp rules

/-- The tables after a tick: what an executor enqueued stands, also when the tick is rolled
back. -/
def tickFleet (env : ActionEnv) (inp : TickInput) (rules : List WatchdogRule) (fleet : Fleet) :
    Fleet :=
  (firedActions inp rules).foldl
    (fun f (rule, action) => (dispatchOne env f rule action rule.target.orEmpty).1) fleet

/-- The devices a tick switches on. -/
def tickSwitchedOn (env : ActionEnv) (inp : TickInput) (rules : List WatchdogRule) : List String :=
  (firedActions inp rules).flatMap fun (rule, action) =>
    switchedOn env action rule.target.orEmpty

theorem tickFleet_enqueues (env : ActionEnv) (inp : TickInput) (rules : List WatchdogRule)
    (fleet : Fleet) :
    Enqueues (Call (tickSwitchedOn env inp rules)) fleet (tickFleet env inp rules fleet) := by
  rw [tickFleet, tickSwitchedOn]
  induction firedActions inp rules generalizing fleet with
  | nil => exact .refl _
  | cons ra ras ih =>
      obtain ⟨rule, action⟩ := ra
      rw [List.foldl_cons, List.flatMap_cons]
      have hone := (dispatchOne_enqueues env fleet rule action rule.target.orEmpty).mono
        fun _ ha => ha.mono fun d hd => List.mem_append_left
          (ras.flatMap fun (rule, action) => switchedOn env action rule.target.orEmpty) hd
      exact hone.trans <| (ih _).mono fun _ ha => ha.mono fun d hd => List.mem_append_right _ hd

/-! ### The reports

A tick takes what the executors report from its input.  What it fires does not depend on it, so
that the input may be the reports of the very executors `tickFleet` runs.
-/

/-- A rule's part of a tick, without the reports of the executors. -/
def RuleTick.outline (t : RuleTick) : WatchdogRule × List Json × Option PyError :=
  (t.rule, t.dispatched, t.raised)

section
variable (inp : TickInput) (reports : WatchdogRule → Json → Json → Except String Json)
  (rule : WatchdogRule)

theorem applyEdge_reports (o : ProbeOutcome) (e : Edge) :
    (applyEdge { inp with dispatchOne := reports } rule o e).outline
      = (applyEdge inp rule o e).outline := by
  rw [applyEdge, applyEdge]
  split
  · rfl
  · cases bindingLeaf rule e with
    | error x => rfl
    | ok leaf =>
        simp only [fireAction]
        cases actionKind leaf with
        | error x => rfl
        | ok kind => rfl

theorem recordFailure_reports :
    (recordFailure { inp with dispatchOne := reports } rule).outline
      = (recordFailure inp rule).outline := by
  simp only [recordFailure, fireAction]
  split
  · rfl
  · split
    · rfl
    · cases actionKind rule.action with
      | error x => rfl
      | ok kind => rfl

theorem updateStateAndMaybeFire_reports (o : ProbeOutcome) :
    (updateStateAndMaybeFire { inp with dispatchOne := reports } rule o).outline
      = (updateStateAndMaybeFire inp rule o).outline := by
  rw [updateStateAndMaybeFire, updateStateAndMaybeFire]
  cases actionKind rule.action with
  | error x => rfl
  | ok kind =>
      dsimp only
      split
      · cases o with
        | probeError => rfl
        | success | failure =>
            simp only [bindingTick]
            split
            · rfl
            · exact applyEdge_reports inp reports _ _ _
      · cases o with
        | success | probeError => rfl
        | failure => exact recordFailure_reports inp reports _

theorem tickRule_reports :
    (tickRule { inp with dispatchOne := reports } rule).outline = (tickRule inp rule).outline := by
  simp only [tickRule]
  split
  · rfl
  · cases inMaintenanceWindow rule inp.now with
    | error e => rfl
    | ok inWindow =>
        cases inWindow
        · exact updateStateAndMaybeFire_reports inp reports rule _
        · rfl

end

theorem firedActions_reports (inp : TickInput)
    (reports : WatchdogRule → Json → Json → Except String Json) (rules : List WatchdogRule) :
    firedActions { inp with dispatchOne := reports } rules = firedActions inp rules := by
  have hloop : dispatchedActions { inp with dispatchOne := reports } rules
      = dispatchedActions inp rules := by
    induction rules with
    | nil => rfl
    | cons rule rules ih =>
        have hrule := tickRule_reports inp reports rule
        have hdispatched := congrArg (·.2.1) hrule
        have hraised := congrArg (·.2.2) hrule
        simp only [RuleTick.outline] at hdispatched hraised
        rw [dispatchedActions, dispatchedActions, hdispatched, hraised, ih]
  rw [firedActions, firedActions, hloop]

end RebooterHub.Watchdog
