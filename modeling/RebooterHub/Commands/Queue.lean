import RebooterHub.Commands.Payload
import RebooterHub.Data.Time

/-!
# Commands — Queue

`services/commands`: the queue of commands to the devices.

`enqueueForDevice` stores a pending command and announces it on the event bus;
`listPendingForDevice` is what a heartbeat or poll hands to the device, and `recordResult`,
`cancelPendingCommand` and `expireOverdueCommands` close a command.  A command row keeps its id,
device, type and payload from its creation on (`Fleet.SameCommands`).
-/

namespace RebooterHub.Commands

/-- The columns of a device the command path reads or writes. -/
structure Device where
  id : String
  siteId : Option String
  localIp : Option String
  isProtected : Bool
  isHeldOff : Bool
  lastKnownRelayOn : Option Bool
deriving DecidableEq, Repr

/-- The statuses of a command. -/
inductive CommandStatus where
  | pending
  | accepted
  | running
  | completed
  | failed
  | expired
  | cancelled
deriving DecidableEq, Repr

/-- `ALLOWED_RESULT_STATUSES`, by their text. -/
def CommandStatus.ofResult : String → Option CommandStatus
  | "accepted" => some .accepted
  | "running" => some .running
  | "completed" => some .completed
  | "failed" => some .failed
  | "expired" => some .expired
  | _ => none

/-- The command is neither closed nor cancelled. -/
def CommandStatus.isOpen : CommandStatus → Bool
  | .pending | .accepted | .running => true
  | _ => false

/-- A row of `commands`. -/
structure Command where
  id : String
  deviceId : String
  groupId : Option String
  issuedByUserId : Option String
  type : String
  payload : Json
  status : CommandStatus
  createdAt : Time
  expiresAt : Time
  deliveredAt : Option Time
  ackReceivedAt : Option Time
  completedAt : Option Time
deriving DecidableEq, Repr

/-- A row of `command_results`. -/
structure CommandResult where
  commandId : String
  deviceId : String
  status : CommandStatus
  message : Option String
  result : Json
  completedAt : Time
deriving DecidableEq, Repr

/-- The tables the command path works on. -/
structure Fleet where
  devices : List Device
  commands : List Command
  results : List CommandResult

/-- What is published on the event bus. -/
inductive BusEvent where
  | commandQueued (commandId deviceId : String) (deviceLocalIp : Option String)
      (type : String) (payload : Json) (createdAt : Time)
  | deviceStateChanged (deviceId : String) (localIp : Option String) (latestRelayOn : Bool)
      (commandId : Json) (ts : Time)
deriving DecidableEq, Repr

namespace Fleet

/-- `session.get(Device, id)`. -/
def device (f : Fleet) (id : String) : Option Device := f.devices.find? (·.id = id)

/-- `session.get(Command, id)`. -/
def command (f : Fleet) (id : String) : Option Command := f.commands.find? (·.id = id)

/-- The device with this id, changed. -/
def updateDevice (f : Fleet) (id : String) (g : Device → Device) : Fleet :=
  { f with devices := f.devices.map fun d => if d.id = id then g d else d }

/-- The commands `p` holds of, changed. -/
def updateCommands (f : Fleet) (p : Command → Bool) (g : Command → Command) : Fleet :=
  { f with commands := f.commands.map fun c => if p c then g c else c }

end Fleet

theorem Fleet.device_updateDevice (f : Fleet) (id id' : String) (g : Device → Device)
    (hg : ∀ d, (g d).id = d.id) :
    (f.updateDevice id' g).device id
      = (f.device id).map fun d => if id = id' then g d else d := by
  have hpred : (fun d => decide (d.id = id)) ∘ (fun d => if d.id = id' then g d else d)
      = fun d => decide (d.id = id) := by
    funext d
    by_cases h : d.id = id' <;> simp [h, hg]
  simp only [device, updateDevice, List.find?_map, hpred]
  cases hd : f.devices.find? fun d => decide (d.id = id) with
  | none => rfl
  | some d =>
      have : d.id = id := by simpa using List.find?_some hd
      simp [this]

/-! ### Enqueueing -/

/-- The arguments of `enqueue_for_device`. -/
structure EnqueueArgs where
  deviceId : String
  cmdType : String
  payload : Json
  issuedByUserId : Option String
  ttlSeconds : Json
  groupId : Option String
  overrideLockout : Bool
  setHoldOff : Bool

/-- The latest and the earliest instant a `datetime` can hold. -/
def maxTime : Time := 253402300799999999
def minTime : Time := -62135596800000000

/-- The nearest integer, the even one of two. -/
def roundHalfEven (q : Rat) : Int :=
  let n := q.floor
  let r := q - n
  if r < 1 / 2 then n else if 1 / 2 < r then n + 1 else if n % 2 = 0 then n else n + 1

/-- `timedelta(seconds=ttl_seconds or DEFAULT_TTL_SECONDS)`. -/
def ttl (ttlSeconds : Json) : Except PyError Time :=
  if !ttlSeconds.truthy then .ok (seconds 600)
  else match ttlSeconds with
    | .int n => .ok (seconds n)
    | .bool _ => .ok (seconds 1)
    | .float q => .ok (roundHalfEven (q * 1000000))
    | _ => .error .typeError

/-- The command's `expires_at`. -/
def expiry (now : Time) (ttlSeconds : Json) : Except PyError Time := do
  let at_ := now + (← ttl ttlSeconds)
  if minTime ≤ at_ ∧ at_ ≤ maxTime then return at_ else throw .overflowError

/-- The device's hold-off flag after a command was enqueued. -/
def holdOffAfter (cmdType : String) (setHoldOff isHeldOff : Bool) : Bool :=
  if setHoldOff then true
  else if cmdType ∈ powerOnTypes ∧ isHeldOff then false
  else isHeldOff

/-- The command a call of `enqueue_for_device` stores. -/
def newCommand (now : Time) (id : String) (a : EnqueueArgs) (payload : Json) (expires : Time) :
    Command where
  id := id
  deviceId := a.deviceId
  groupId := a.groupId
  issuedByUserId := a.issuedByUserId
  type := a.cmdType
  payload := payload
  status := .pending
  createdAt := now
  expiresAt := expires
  deliveredAt := none
  ackReceivedAt := none
  completedAt := none

/-- The `command_queued` event of a command. -/
def queuedEvent (c : Command) (target : Device) : BusEvent :=
  .commandQueued c.id c.deviceId target.localIp c.type c.payload c.createdAt

/-- The tables once a command is stored and the hold-off flag follows it. -/
def Fleet.enqueued (f : Fleet) (a : EnqueueArgs) (cmd : Command) : Fleet :=
  let f := f.updateDevice a.deviceId fun d =>
    { d with isHeldOff := holdOffAfter a.cmdType a.setHoldOff d.isHeldOff }
  { f with commands := f.commands ++ [cmd] }

/-- `enqueue_for_device`, at `now` and with the id the new row gets: the tables, the command and
the event published after the commit. -/
def enqueueForDevice (f : Fleet) (now : Time) (newId : String) (a : EnqueueArgs) :
    Except CommandError (Fleet × Command × BusEvent) := do
  if a.cmdType ∉ allowedTypes then
    throw (.value ("unsupported command type: " ++ a.cmdType))
  let payload ← validatePayload a.cmdType a.payload
  let expires ← raising (expiry now a.ttlSeconds)
  match f.device a.deviceId with
  | none => throw (.lookup a.deviceId)
  | some target =>
    if a.cmdType ∈ powerTypes ∧ target.isProtected ∧ ¬a.overrideLockout then
      throw (.locked a.deviceId)
    else if (f.command newId).isSome then throw .integrity
    else
      let cmd := newCommand now newId a payload expires
      return (f.enqueued a cmd, cmd, queuedEvent cmd target)

/-- What `enqueue_for_device` asks of its arguments and of the tables. -/
structure Enqueueable (f : Fleet) (now : Time) (newId : String) (a : EnqueueArgs) : Prop where
  type : a.cmdType ∈ allowedTypes
  payload : ∃ payload, validatePayload a.cmdType a.payload = .ok payload
  expiry : ∃ at_, expiry now a.ttlSeconds = .ok at_
  device : ∃ d, f.device a.deviceId = some d ∧
    ¬(a.cmdType ∈ powerTypes ∧ d.isProtected ∧ ¬a.overrideLockout)
  fresh : f.command newId = none

/-- **What `enqueue_for_device` does**: it returns exactly on what it asks for. -/
theorem enqueueForDevice_eq_ok_iff {f : Fleet} {now : Time} {newId : String} {a : EnqueueArgs}
    {r : Fleet × Command × BusEvent} :
    enqueueForDevice f now newId a = .ok r ↔
      Enqueueable f now newId a ∧ ∃ target payload expires,
        f.device a.deviceId = some target ∧
        validatePayload a.cmdType a.payload = .ok payload ∧
        expiry now a.ttlSeconds = .ok expires ∧
        r = (f.enqueued a (newCommand now newId a payload expires),
          newCommand now newId a payload expires,
          queuedEvent (newCommand now newId a payload expires) target) := by
  constructor
  · intro h
    unfold enqueueForDevice at h
    by_cases ht : a.cmdType ∈ allowedTypes
    · cases hp : validatePayload a.cmdType a.payload with
      | error e => simp [ht, hp, bind, Except.bind] at h
      | ok payload =>
          cases he : expiry now a.ttlSeconds with
          | error e => simp [ht, hp, he, raising, bind, Except.bind] at h
          | ok expires =>
              cases hd : f.device a.deviceId with
              | none =>
                  simp [ht, hp, he, hd, raising, bind, Except.bind, throw, throwThe,
                    MonadExceptOf.throw] at h
              | some target =>
                  simp only [ht, hp, he, hd, raising, bind, Except.bind, pure, Except.pure,
                    not_true, if_false] at h
                  split at h
                  · cases h
                  · next hlock =>
                      split at h
                      · cases h
                      · next hid =>
                          cases h
                          exact ⟨⟨ht, ⟨_, hp⟩, ⟨_, he⟩, ⟨_, hd, hlock⟩, by simpa using hid⟩,
                            target, payload, expires, rfl, rfl, rfl, rfl⟩
    · simp [ht, bind, Except.bind, throw, throwThe, MonadExceptOf.throw] at h
  · rintro ⟨⟨ht, -, -, ⟨d, hd', hlock⟩, hid⟩, target, payload, expires, hd, hp, he, rfl⟩
    obtain rfl : d = target := Option.some.inj (hd'.symm.trans hd)
    simp only [enqueueForDevice, ht, hp, he, hd, hid, hlock, raising, bind, Except.bind, pure,
      Except.pure, not_true, if_false, Option.isSome_none, Bool.false_eq_true]

theorem enqueueForDevice_isOk_iff {f : Fleet} {now : Time} {newId : String} {a : EnqueueArgs} :
    (∃ r, enqueueForDevice f now newId a = .ok r) ↔ Enqueueable f now newId a := by
  constructor
  · rintro ⟨r, hr⟩
    exact (enqueueForDevice_eq_ok_iff.mp hr).1
  · intro h
    obtain ⟨payload, hp⟩ := h.payload
    obtain ⟨expires, he⟩ := h.expiry
    obtain ⟨d, hd, -⟩ := h.device
    exact ⟨_, enqueueForDevice_eq_ok_iff.mpr ⟨h, d, payload, expires, hd, hp, he, rfl⟩⟩

/-! ### Delivery and results -/

/-- The row is open, of this device and not past its expiry. -/
def isDeliverable (now : Time) (deviceId : String) (grace : Option Int) (c : Command) : Bool :=
  c.deviceId = deviceId && c.status.isOpen && decide (now < c.expiresAt) &&
    match grace, c.deliveredAt with
    | some g, some at_ => decide (at_ ≤ now - seconds g)
    | _, _ => true

/-- A pending row is marked as handed off. -/
def markDelivered (now : Time) (c : Command) : Command :=
  if c.status = .pending then { c with status := .accepted, deliveredAt := some now } else c

/-- `list_pending_for_device`, which marks what it returns. -/
def listPendingForDevice (f : Fleet) (now : Time) (deviceId : String) (grace : Option Int) :
    Fleet × List Command :=
  (f.updateCommands (isDeliverable now deviceId grace) (markDelivered now),
    ((f.commands.filter (isDeliverable now deviceId grace)).insertionSort
      (·.createdAt ≤ ·.createdAt)).map (markDelivered now))

/-- `POST_PIGGYBACK_GRACE_S`. -/
def postPiggybackGraceS : Int := 10

/-- `record_result`. -/
def recordResult (f : Fleet) (now : Time) (deviceId commandId status : String)
    (message : Option String) (result : Json) (completedAt : Option Time) :
    Except CommandError Fleet :=
  match CommandStatus.ofResult status with
  | none => .error (.value ("unsupported result status: " ++ status))
  | some st =>
    match f.command commandId with
    | none => .error (.lookup commandId)
    | some cmd =>
      if cmd.deviceId ≠ deviceId then .error (.lookup commandId)
      else
        let completed := completedAt.getD now
        let f := f.updateCommands (·.id = commandId) fun c =>
          { c with
            ackReceivedAt := some (c.ackReceivedAt.getD now)
            status := st
            completedAt := some completed }
        .ok { f with results :=
          f.results ++ [⟨commandId, deviceId, st, message, result.orEmpty, completed⟩] }

/-- `cancel_pending_command`. -/
def cancelPendingCommand (f : Fleet) (now : Time) (commandId : String) : Fleet × Bool :=
  match f.command commandId with
  | none => (f, false)
  | some cmd =>
    if cmd.status ≠ .pending then (f, false)
    else (f.updateCommands (·.id = commandId) fun c =>
      { c with status := .cancelled, completedAt := some now }, true)

/-- `expire_overdue_commands`. -/
def expireOverdueCommands (f : Fleet) (now : Time) : Fleet :=
  f.updateCommands (fun c => c.status.isOpen && decide (c.expiresAt ≤ now)) fun c =>
    { c with status := .expired }

/-! ### What stays of a command -/

/-- What never changes in a command row. -/
def Command.identity (c : Command) : String × String × String × Json :=
  (c.id, c.deviceId, c.type, c.payload)

/-- Both fleets have the same commands, up to their progress. -/
def Fleet.SameCommands (f f' : Fleet) : Prop :=
  f'.commands.map Command.identity = f.commands.map Command.identity

theorem Fleet.sameCommands_update (f : Fleet) (p : Command → Bool) {g : Command → Command}
    (hg : ∀ c, (g c).identity = c.identity) : f.SameCommands (f.updateCommands p g) := by
  simp only [SameCommands, updateCommands, List.map_map]
  refine List.map_congr_left fun c _ => ?_
  by_cases h : p c
  · simp [h, hg]
  · simp [h]

theorem markDelivered_identity (now : Time) (c : Command) :
    (markDelivered now c).identity = c.identity := by
  unfold markDelivered
  split <;> rfl

theorem listPendingForDevice_same (f : Fleet) (now : Time) (deviceId : String)
    (grace : Option Int) : f.SameCommands (listPendingForDevice f now deviceId grace).1 :=
  f.sameCommands_update _ (markDelivered_identity now)

theorem recordResult_same {f f' : Fleet} {now : Time} {deviceId commandId status : String}
    {message : Option String} {result : Json} {completedAt : Option Time}
    (h : recordResult f now deviceId commandId status message result completedAt = .ok f') :
    f.SameCommands f' := by
  unfold recordResult at h
  split at h
  · cases h
  · split at h
    · cases h
    · split at h
      · cases h
      · cases h
        exact f.sameCommands_update _ fun _ => rfl

theorem cancelPendingCommand_same (f : Fleet) (now : Time) (commandId : String) :
    f.SameCommands (cancelPendingCommand f now commandId).1 := by
  unfold cancelPendingCommand
  split
  · rfl
  · split
    · rfl
    · exact f.sameCommands_update _ fun _ => rfl

theorem expireOverdueCommands_same (f : Fleet) (now : Time) :
    f.SameCommands (expireOverdueCommands f now) :=
  f.sameCommands_update _ fun _ => rfl

/-- What is handed to a device is its own, and in the queue. -/
theorem mem_listPending {f : Fleet} {now : Time} {deviceId : String} {grace : Option Int}
    {c : Command} (h : c ∈ (listPendingForDevice f now deviceId grace).2) :
    ∃ c₀ ∈ f.commands, isDeliverable now deviceId grace c₀ = true ∧
      c.identity = c₀.identity := by
  obtain ⟨c₀, hc₀, rfl⟩ := List.mem_map.mp h
  have hmem := (List.mem_insertionSort _).mp hc₀
  obtain ⟨hin, hdel⟩ := List.mem_filter.mp hmem
  exact ⟨c₀, hin, hdel, markDelivered_identity now c₀⟩

/-- A hand-off hands each command over once. -/
theorem listPending_nodup {f : Fleet} (hf : (f.commands.map Command.id).Nodup) (now : Time)
    (deviceId : String) (grace : Option Int) :
    ((listPendingForDevice f now deviceId grace).2.map Command.id).Nodup := by
  have hid : Command.id ∘ markDelivered now = Command.id := by
    funext c
    exact congrArg Prod.fst (markDelivered_identity now c)
  simp only [listPendingForDevice, List.map_map, hid]
  rw [((List.perm_insertionSort _ _).map _).nodup_iff]
  exact hf.sublist (List.Sublist.map _ List.filter_sublist)

end RebooterHub.Commands
