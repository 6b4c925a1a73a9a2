import RebooterHub.Commands.ServiceApi
import RebooterHub.Data.Text

/-!
# Commands — HandOff

The two endpoints of `blueprints/device_api` that hand commands to a device, `heartbeat` and
`poll_commands`, over a run.

A poll that found nothing may be held open and look again every second, so `DeviceApi` keeps the
open polls, and a step is one look at the queue or one change of it.  A look stamps the rows it
finds pending and no others.  `Graced` is what the grace period is for; `Spaced` is what a look
needs for it, and `no_double_hand_off` is about the runs whose looks are all `Spaced`.
-/

namespace RebooterHub.Commands
open RebooterHub.Runs

/-! ### The endpoints -/

/-- The settings the heartbeat's answer reads. -/
structure DeviceSettings where
  pollIntervalSeconds : Int
  heartbeatIntervalSeconds : Int

/-- A command as it is handed to the device; its times are in whole seconds. -/
structure HandedCommand where
  commandId : String
  type : String
  createdAt : Int
  expiresAt : Int
  payload : Json
deriving DecidableEq, Repr

/-- The device's view of a row. -/
def Command.handed (c : Command) : HandedCommand where
  commandId := c.id
  type := c.type
  createdAt := c.createdAt / 1000000
  expiresAt := c.expiresAt / 1000000
  payload := c.payload

/-- What the device is answered. -/
inductive DeviceAnswer where
  | heartbeat (nextPollAfterSeconds nextHeartbeatAfterSeconds : Int)
      (pendingCommands : List HandedCommand)
  /-- With the `wait` of the header `Preference-Applied`, if it is sent. -/
  | commands (commands : List HandedCommand) (preferenceApplied : Option Int)
  | err (code message : String) (status : Nat)
deriving DecidableEq, Repr

/-- The commands an answer hands over. -/
def DeviceAnswer.handed : DeviceAnswer → List HandedCommand
  | .heartbeat _ _ cmds | .commands cmds _ => cmds
  | .err .. => []

/-- A poll that is held open. -/
structure OpenPoll where
  deviceId : String
  requestedWait : Int
  /-- On the monotonic clock. -/
  deadline : Int

/-- The hub, as its devices meet it. -/
structure DeviceApi where
  fleet : Fleet
  waiting : List OpenPoll
  /-- The looks at the queue so far: the device, and the time. -/
  looks : List (String × Time)

/-- `LONG_POLL_MAX_WAIT_SECONDS`. -/
def longPollMaxWaitSeconds : Int := 30

/-- `value.strip('"')`. -/
def stripQuotes (cs : List Char) : List Char :=
  ((cs.dropWhile (· = '"')).reverse.dropWhile (· = '"')).reverse

/-- The wait one preference of the header asks for, if it is `wait=`. -/
def waitPreference (token : List Char) : Option Int :=
  match (Text.strip token).map Char.toLower with
  | 'w' :: 'a' :: 'i' :: 't' :: '=' :: value =>
    some (match Text.int (stripQuotes (Text.strip value)) with
      | none => 0
      | some n => if n < 0 then 0 else min n longPollMaxWaitSeconds)
  | _ => none

/-- `_parse_prefer_wait`. -/
def parsePreferWait (preferHeader : Option String) : Int :=
  match preferHeader with
  | none => 0
  | some header => ((header.toList.splitOn ',').findSome? waitPreference).getD 0

/-- One look at the queue of a device, by whichever endpoint: the rows that are handed over. -/
def DeviceApi.look (api : DeviceApi) (now : Time) (deviceId : String) :
    DeviceApi × List HandedCommand :=
  let (fleet, rows) := listPendingForDevice api.fleet now deviceId (some postPiggybackGraceS)
  ({ api with fleet, looks := api.looks ++ [(deviceId, now)] }, rows.map Command.handed)

/-- The id in a request is truthy and not that of the authenticated device. -/
def idMismatch (requestId : Json) (deviceId : String) : Bool :=
  requestId.truthy && requestId ≠ .str deviceId

/-- `heartbeat`.  `recorded` says whether `record_heartbeat`, which writes no command, found the
device. -/
def heartbeat (settings : DeviceSettings) (api : DeviceApi) (now : Time) (deviceId : String)
    (bodyId : Json) (recorded : Bool) : DeviceApi × DeviceAnswer :=
  if idMismatch bodyId deviceId then
    (api, .err "device_mismatch" "device_id in body does not match authenticated device." 400)
  else if !recorded then (api, .err "device_unknown" "Device not found." 404)
  else
    let (api, pendingCmds) := api.look now deviceId
    let idlePoll := if settings.pollIntervalSeconds = 30 then 300 else settings.pollIntervalSeconds
    (api, .heartbeat (if pendingCmds.isEmpty then idlePoll else 2)
      settings.heartbeatIntervalSeconds pendingCmds)

/-- `poll_commands`, up to its first look; `mono` is the monotonic clock.  A poll that is held
open is answered later. -/
def pollCommands (api : DeviceApi) (now : Time) (deviceId : String) (queryId : Json)
    (longPollDisabled : Bool) (prefer : Option String) (mono : Int) :
    DeviceApi × Option DeviceAnswer :=
  if idMismatch queryId deviceId then
    (api, some (.err "device_mismatch"
      "device_id in query does not match authenticated device." 400))
  else
    let requestedWait := if longPollDisabled then 0 else parsePreferWait prefer
    let (api, cmds) := api.look now deviceId
    if !cmds.isEmpty ∨ requestedWait ≤ 0 then
      (api, some (.commands cmds (if requestedWait ≤ 0 then none else some requestedWait)))
    else
      ({ api with waiting := api.waiting ++ [⟨deviceId, requestedWait, mono + seconds requestedWait⟩] },
        none)

/-- One turn of the loop of the `i`-th open poll, at whose head the monotonic clock is `mono`. -/
def recheck (api : DeviceApi) (now : Time) (i : Nat) (mono : Int) :
    DeviceApi × Option DeviceAnswer :=
  match api.waiting[i]? with
  | none => (api, none)
  | some p =>
    let closed := api.waiting.eraseIdx i
    if mono < p.deadline then
      let (api, cmds) := api.look now p.deviceId
      if cmds.isEmpty then (api, none)
      else ({ api with waiting := closed }, some (.commands cmds (some p.requestedWait)))
    else ({ api with waiting := closed }, some (.commands [] (some p.requestedWait)))

/-! ### The queue over time -/

/-- A step of the hub. -/
inductive ApiStep where
  | heartbeat (settings : DeviceSettings) (now : Time) (deviceId : String) (bodyId : Json)
      (recorded : Bool)
  | poll (now : Time) (deviceId : String) (queryId : Json) (longPollDisabled : Bool)
      (prefer : Option String) (mono : Int)
  | recheck (now : Time) (i : Nat) (mono : Int)
  | enqueue (now : Time) (newId : String) (args : EnqueueArgs)
  | result (now : Time) (deviceId commandId status : String) (message : Option String)
      (result : Json) (completedAt : Option Time)
  | cancel (now : Time) (commandId : String)
  | expire (now : Time)

namespace DeviceApi

/-- What a step does, and the answer that leaves the hub with it. -/
def serve (api : DeviceApi) : ApiStep → DeviceApi × Option DeviceAnswer
  | .heartbeat settings now deviceId bodyId recorded =>
    let (api, answer) := Commands.heartbeat settings api now deviceId bodyId recorded
    (api, some answer)
  | .poll now deviceId queryId longPollDisabled prefer mono =>
    pollCommands api now deviceId queryId longPollDisabled prefer mono
  | .recheck now i mono => Commands.recheck api now i mono
  | .enqueue now newId args => match enqueueForDevice api.fleet now newId args with
    | .error _ => (api, none)
    | .ok (fleet, _, _) => ({ api with fleet }, none)
  | .result now deviceId commandId status message result completedAt =>
    match recordResult api.fleet now deviceId commandId status message result completedAt with
    | .error _ => (api, none)
    | .ok fleet => ({ api with fleet }, none)
  | .cancel now commandId =>
    ({ api with fleet := (cancelPendingCommand api.fleet now commandId).1 }, none)
  | .expire now => ({ api with fleet := expireOverdueCommands api.fleet now }, none)

/-- The state after a step. -/
def step (api : DeviceApi) (l : ApiStep) : DeviceApi := (api.serve l).1

end DeviceApi

/-- The time of a step at which the queue may be looked at. -/
def ApiStep.now : ApiStep → Time
  | .heartbeat _ now _ _ _ | .poll now _ _ _ _ _ | .recheck now _ _ | .enqueue now _ _
  | .result now _ _ _ _ _ _ | .cancel now _ | .expire now => now

/-- A command was handed over. -/
structure HandOff where
  at_ : Time
  commandId : String
deriving DecidableEq, Repr

/-- The hand-offs of a step. -/
def handOffs (api : DeviceApi) (l : ApiStep) : List HandOff :=
  ((api.serve l).2.map DeviceAnswer.handed).getD [] |>.map fun c => ⟨l.now, c.commandId⟩

/-- The device whose queue a step looks at, if it does. -/
def looksAt (api : DeviceApi) : ApiStep → Option String
  | .heartbeat _ _ deviceId bodyId recorded =>
    if !idMismatch bodyId deviceId && recorded then some deviceId else none
  | .poll _ deviceId queryId _ _ _ => if idMismatch queryId deviceId then none else some deviceId
  | .recheck _ i mono => match api.waiting[i]? with
    | some p => if mono < p.deadline then some p.deviceId else none
    | none => none
  | .enqueue .. | .result .. | .cancel .. | .expire .. => none

/-- No earlier hand-off of the command is less than the grace period before this one. -/
def Graced (es : List HandOff) (h : HandOff) : Prop :=
  ∀ e ∈ es, e.commandId = h.commandId → e.at_ + seconds postPiggybackGraceS ≤ h.at_

/-- When a step looks at a device's queue, no row that it finds open and no longer pending was
there to be found, its stamp being old enough or missing, at a look of the device less than the
grace period before. -/
def Spaced (api : DeviceApi) (l : ApiStep) : Prop :=
  ∀ deviceId ∈ looksAt api l, ∀ c ∈ api.fleet.commands,
    isDeliverable l.now deviceId (some postPiggybackGraceS) c = true → c.status ≠ .pending →
      ∀ t, (deviceId, t) ∈ api.looks →
        (∀ at_ ∈ c.deliveredAt, at_ + seconds postPiggybackGraceS ≤ t) →
        t + seconds postPiggybackGraceS ≤ l.now

/-! ### What a step does to the rows -/

/-- A row that was handed off or closed is still there, with its device and its stamp. -/
structure RowsKept (f f' : Fleet) : Prop where
  ids : (f.commands.map Command.id).Nodup → (f'.commands.map Command.id).Nodup
  kept : ∀ c ∈ f.commands, c.status ≠ .pending → ∃ c' ∈ f'.commands,
    c'.id = c.id ∧ c'.deviceId = c.deviceId ∧ c'.status ≠ .pending ∧ c'.deliveredAt = c.deliveredAt

theorem RowsKept.refl (f : Fleet) : RowsKept f f :=
  ⟨id, fun c hc hp => ⟨c, hc, rfl, rfl, hp, rfl⟩⟩

theorem ids_of_same {f f' : Fleet} (h : f.SameCommands f') :
    f'.commands.map Command.id = f.commands.map Command.id := by
  have := congrArg (List.map Prod.fst) h
  simpa only [List.map_map, Function.comp_def, Command.identity] using this

/-- An update that leaves no row pending that was not, and no stamp changed on such a row. -/
theorem rowsKept_update {f : Fleet} {p : Command → Bool} {g : Command → Command}
    (hg : ∀ c, (g c).identity = c.identity)
    (hkeep : ∀ c, c.status ≠ .pending →
      p c = true → (g c).status ≠ .pending ∧ (g c).deliveredAt = c.deliveredAt) :
    RowsKept f (f.updateCommands p g) := by
  refine ⟨fun hn => ?_, fun c hc hpend => ?_⟩
  · rwa [ids_of_same (f.sameCommands_update p hg)]
  · refine ⟨if p c then g c else c, List.mem_map_of_mem hc, ?_⟩
    cases hp : p c with
    | false => exact ⟨rfl, rfl, hpend, rfl⟩
    | true =>
        obtain ⟨hstatus, hstamp⟩ := hkeep c hpend hp
        exact ⟨congrArg (·.1) (hg c), congrArg (·.2.1) (hg c), hstatus, hstamp⟩

theorem rowsKept_enqueue {f : Fleet} {now : Time} {newId : String} {a : EnqueueArgs}
    {r : Fleet × Command × BusEvent} (h : enqueueForDevice f now newId a = .ok r) :
    RowsKept f r.1 := by
  obtain ⟨hok, target, payload, expires, -, -, -, rfl⟩ := enqueueForDevice_eq_ok_iff.mp h
  refine ⟨fun hn => ?_, fun c hc hpend => ⟨c, List.mem_append_left _ hc, rfl, rfl, hpend, rfl⟩⟩
  have hnew : newId ∉ f.commands.map Command.id := by
    rintro hmem
    obtain ⟨c, hc, rfl⟩ := List.mem_map.mp hmem
    have := List.find?_eq_none.mp hok.fresh c hc
    simp at this
  simp only [Fleet.enqueued, Fleet.updateDevice, List.map_append, List.map_cons, List.map_nil]
  refine List.nodup_append.mpr ⟨hn, List.nodup_singleton _, ?_⟩
  rintro _ hmem _ hone rfl
  have hid : _ = newId := List.mem_singleton.mp hone
  exact hnew (hid ▸ hmem)

theorem ofResult_ne_pending {text : String} {st : CommandStatus}
    (h : CommandStatus.ofResult text = some st) : st ≠ .pending := by
  rw [CommandStatus.ofResult.eq_def] at h
  rintro rfl
  split at h <;> cases h

theorem rowsKept_result {f f' : Fleet} {now : Time} {deviceId commandId status : String}
    {message : Option String} {result : Json} {completedAt : Option Time}
    (h : recordResult f now deviceId commandId status message result completedAt = .ok f') :
    RowsKept f f' := by
  rw [recordResult] at h
  split at h
  · cases h
  · next st hst =>
      split at h
      · cases h
      · split at h
        · cases h
        · obtain rfl := Except.ok.inj h
          have hkept := rowsKept_update (f := f) (p := (·.id = commandId))
            (g := fun c => { c with
              ackReceivedAt := some (c.ackReceivedAt.getD now)
              status := st
              completedAt := some (completedAt.getD now) })
            (fun _ => rfl) (fun _ _ _ => ⟨ofResult_ne_pending hst, rfl⟩)
          exact ⟨hkept.ids, hkept.kept⟩

theorem rowsKept_cancel (f : Fleet) (now : Time) (commandId : String) :
    RowsKept f (cancelPendingCommand f now commandId).1 := by
  rw [cancelPendingCommand]
  split
  · exact .refl f
  · split
    · exact .refl f
    · exact rowsKept_update (fun _ => rfl) fun _ _ _ => ⟨nofun, rfl⟩

theorem rowsKept_expire (f : Fleet) (now : Time) : RowsKept f (expireOverdueCommands f now) :=
  rowsKept_update (fun _ => rfl) fun _ _ _ => ⟨nofun, rfl⟩

/-- A look changes no row that is not pending. -/
theorem rowsKept_look (f : Fleet) (now : Time) (deviceId : String) (grace : Option Int) :
    RowsKept f (listPendingForDevice f now deviceId grace).1 := by
  refine rowsKept_update (markDelivered_identity now) fun c hpend _ => ?_
  rw [markDelivered, if_neg hpend]
  exact ⟨hpend, rfl⟩

/-- The hand-offs of a look, by the rows. -/
theorem look_ids (api : DeviceApi) (now : Time) (deviceId : String) :
    (api.look now deviceId).2.map (fun c => (⟨now, c.commandId⟩ : HandOff))
      = (listPendingForDevice api.fleet now deviceId (some postPiggybackGraceS)).2.map
          fun c => ⟨now, c.id⟩ := by
  simp [DeviceApi.look, Command.handed]

theorem look_ids_of_isEmpty {api : DeviceApi} {now : Time} {deviceId : String}
    (h : (api.look now deviceId).2.isEmpty = true) :
    (listPendingForDevice api.fleet now deviceId (some postPiggybackGraceS)).2.map
      (fun c => (⟨now, c.id⟩ : HandOff)) = [] := by
  rw [← look_ids, List.isEmpty_iff.mp h, List.map_nil]

/-- **What a step does.**  It looks at the queue of one device and hands over what it finds, or
it hands nothing over. -/
theorem serve_cases (api : DeviceApi) (l : ApiStep) :
    (∃ deviceId, looksAt api l = some deviceId ∧
      (api.step l).fleet
        = (listPendingForDevice api.fleet l.now deviceId (some postPiggybackGraceS)).1 ∧
      (api.step l).looks = api.looks ++ [(deviceId, l.now)] ∧
      handOffs api l
        = (listPendingForDevice api.fleet l.now deviceId (some postPiggybackGraceS)).2.map
            fun c => ⟨l.now, c.id⟩) ∨
    handOffs api l = [] ∧ (api.step l).looks = api.looks ∧
      RowsKept api.fleet (api.step l).fleet := by
  cases l with
  | heartbeat settings now deviceId bodyId recorded =>
      simp only [DeviceApi.step, handOffs, DeviceApi.serve, heartbeat, looksAt]
      cases idMismatch bodyId deviceId with
      | true => exact .inr ⟨rfl, rfl, .refl _⟩
      | false =>
          cases recorded with
          | false => exact .inr ⟨rfl, rfl, .refl _⟩
          | true =>
              exact .inl ⟨deviceId, rfl, rfl, rfl, look_ids api now deviceId⟩
  | poll now deviceId queryId longPollDisabled prefer mono =>
      simp only [DeviceApi.step, handOffs, DeviceApi.serve, pollCommands, looksAt]
      cases idMismatch queryId deviceId with
      | true => exact .inr ⟨rfl, rfl, .refl _⟩
      | false =>
          refine .inl ⟨deviceId, rfl, ?_⟩
          rw [if_neg Bool.false_ne_true]
          generalize (if longPollDisabled then 0 else parsePreferWait prefer) = requestedWait
          split
          · exact ⟨rfl, rfl, look_ids api now deviceId⟩
          · next hheld =>
              -- the poll is parked, so its first look found nothing
              have hempty : (api.look now deviceId).2.isEmpty = true := by
                simpa using (not_or.mp hheld).1
              exact ⟨rfl, rfl, (look_ids_of_isEmpty hempty).symm⟩
  | recheck now i mono =>
      simp only [DeviceApi.step, handOffs, DeviceApi.serve, recheck, looksAt]
      cases hp : api.waiting[i]? with
      | none => exact .inr ⟨rfl, rfl, .refl _⟩
      | some p =>
          by_cases hlt : mono < p.deadline
          · refine .inl ⟨p.deviceId, by simp [hlt], ?_⟩
            simp only [hlt, if_true]
            split
            · next hempty => exact ⟨rfl, rfl, (look_ids_of_isEmpty hempty).symm⟩
            · exact ⟨rfl, rfl, look_ids api now p.deviceId⟩
          · -- past its deadline the poll returns without a look
            refine .inr ?_
            dsimp only
            rw [if_neg hlt]
            exact ⟨rfl, rfl, .refl _⟩
  | enqueue now newId args =>
      refine .inr ?_
      simp only [DeviceApi.step, handOffs, DeviceApi.serve]
      cases h : enqueueForDevice api.fleet now newId args with
      | error e => exact ⟨rfl, rfl, .refl _⟩
      | ok r => exact ⟨rfl, rfl, rowsKept_enqueue h⟩
  | result now deviceId commandId status message result completedAt =>
      refine .inr ?_
      simp only [DeviceApi.step, handOffs, DeviceApi.serve]
      cases h : recordResult api.fleet now deviceId commandId status message result completedAt with
      | error e => exact ⟨rfl, rfl, .refl _⟩
      | ok f => exact ⟨rfl, rfl, rowsKept_result h⟩
  | cancel now commandId => exact .inr ⟨rfl, rfl, rowsKept_cancel _ _ _⟩
  | expire now => exact .inr ⟨rfl, rfl, rowsKept_expire _ _⟩

/-! ### Runs -/

/-- Each hand-off so far is of a row that is no longer pending.  It was the one that stamped the
row, or a look that found the row's stamp old enough or missing. -/
structure Remembered (es : List HandOff) (api : DeviceApi) : Prop where
  ids : (api.fleet.commands.map Command.id).Nodup
  rows : ∀ e ∈ es, ∃ c ∈ api.fleet.commands, c.id = e.commandId ∧ c.status ≠ .pending ∧
    (c.deliveredAt = some e.at_ ∨
      (∀ at_ ∈ c.deliveredAt, at_ + seconds postPiggybackGraceS ≤ e.at_) ∧
        (c.deviceId, e.at_) ∈ api.looks)

/-- The earlier hand-offs stay remembered. -/
theorem Remembered.kept {es : List HandOff} {api api' : DeviceApi} (h : Remembered es api)
    (hrows : RowsKept api.fleet api'.fleet) (hlooks : ∀ p ∈ api.looks, p ∈ api'.looks) :
    Remembered es api' := by
  refine ⟨hrows.ids h.ids, fun e he => ?_⟩
  obtain ⟨c, hc, hid, hpend, hwhen⟩ := h.rows e he
  obtain ⟨c', hc', hid', hdev, hpend', hstamp⟩ := hrows.kept c hc hpend
  refine ⟨c', hc', hid'.trans hid, hpend', ?_⟩
  rw [hstamp, hdev]
  exact hwhen.imp_right fun ⟨hold, hlook⟩ => ⟨hold, hlooks _ hlook⟩

/-- The row of a hand-off, before the look and after it. -/
theorem mem_handed {f : Fleet} {now : Time} {deviceId : String} {grace : Option Int}
    {h : HandOff} (hh : h ∈ (listPendingForDevice f now deviceId grace).2.map
      fun c => (⟨now, c.id⟩ : HandOff)) :
    h.at_ = now ∧ ∃ c ∈ f.commands, c.id = h.commandId ∧
      isDeliverable now deviceId grace c = true ∧
      markDelivered now c ∈ (listPendingForDevice f now deviceId grace).1.commands := by
  obtain ⟨c', hc', rfl⟩ := List.mem_map.mp hh
  obtain ⟨c, hc, rfl⟩ := List.mem_map.mp hc'
  obtain ⟨hin, hdel⟩ := List.mem_filter.mp ((List.mem_insertionSort _).mp hc)
  refine ⟨rfl, c, hin, (congrArg (·.1) (markDelivered_identity now c)).symm, hdel, ?_⟩
  have := List.mem_map_of_mem
    (f := fun c => if isDeliverable now deviceId grace c then markDelivered now c else c) hin
  simp only [hdel, if_true] at this
  exact this

theorem isDeliverable_spec {now : Time} {deviceId : String} {g : Int} {c : Command}
    (h : isDeliverable now deviceId (some g) c = true) :
    c.deviceId = deviceId ∧ ∀ at_ ∈ c.deliveredAt, at_ + seconds g ≤ now := by
  simp only [isDeliverable, Bool.and_eq_true, decide_eq_true_eq] at h
  obtain ⟨⟨⟨hdev, -⟩, -⟩, hgrace⟩ := h
  refine ⟨hdev, fun at_ hat => ?_⟩
  rw [Option.mem_def] at hat
  rw [hat, decide_eq_true_eq] at hgrace
  exact Int.add_le_of_le_sub_right hgrace

/-- **One step** remembers its hand-offs. -/
theorem Remembered.step {es : List HandOff} {api : DeviceApi} (h : Remembered es api)
    (l : ApiStep) : Remembered (es ++ handOffs api l) (api.step l) := by
  rcases serve_cases api l with ⟨deviceId, -, hfleet, hlooks, hhanded⟩ | ⟨hnone, hlooks, hrows⟩
  · have hkept : Remembered es (api.step l) := by
      refine h.kept (hfleet ▸ rowsKept_look _ _ _ _) fun p hp => ?_
      exact hlooks ▸ List.mem_append_left _ hp
    refine ⟨hkept.ids, fun e he => ?_⟩
    rcases List.mem_append.mp he with he | he
    · exact hkept.rows e he
    · rw [hhanded] at he
      obtain ⟨hat, c, -, hid, hdel, hmem⟩ := mem_handed he
      obtain ⟨hdev, hold⟩ := isDeliverable_spec hdel
      refine ⟨markDelivered l.now c, hfleet ▸ hmem, ?_, ?_⟩
      · exact (congrArg (·.1) (markDelivered_identity l.now c)).trans hid
      · rw [markDelivered, hat]
        split
        · exact ⟨nofun, .inl rfl⟩
        · next hpend =>
            refine ⟨hpend, .inr ⟨hold, ?_⟩⟩
            rw [hlooks, hdev]
            exact List.mem_append_right _ (List.mem_singleton_self _)
  · rw [hnone, List.append_nil]
    exact h.kept hrows fun p hp => hlooks ▸ hp

/-- **One hand-off** of a spaced look is graced. -/
theorem Remembered.graced {es : List HandOff} {api : DeviceApi} (hr : Remembered es api)
    {l : ApiStep} (hl : Spaced api l) {h : HandOff} (hh : h ∈ handOffs api l) : Graced es h := by
  rcases serve_cases api l with ⟨deviceId, hlook, -, -, hhanded⟩ | ⟨hnone, -, -⟩
  · rw [hhanded] at hh
    obtain ⟨hat, c, hc, hid, hdel, -⟩ := mem_handed hh
    obtain ⟨hdev, hold⟩ := isDeliverable_spec hdel
    intro e he heq
    obtain ⟨c', hc', hid', hpend, hwhen⟩ := hr.rows e he
    -- ids are unique, so the hand-offs are of one row
    obtain rfl : c' = c :=
      List.inj_on_of_nodup_map hr.ids hc' hc (hid'.trans (heq.trans hid.symm))
    rw [hat]
    rcases hwhen with hstamp | ⟨hfound, hmem⟩
    · exact hold _ hstamp
    · exact hl deviceId hlook c' hc hdel hpend _ (hdev ▸ hmem) hfound
  · simp [hnone] at hh

/-- **No double hand-off inside the grace period**, in the runs whose looks are all spaced: what
a step hands over was not handed over by an earlier step less than the grace period before, and
no command is handed over twice by one step. -/
theorem no_double_hand_off {fleet : Fleet} (hids : (fleet.commands.map Command.id).Nodup)
    (ls : List ApiStep) (l : ApiStep)
    (hok : Admits DeviceApi.step Spaced ⟨fleet, [], []⟩ (ls ++ [l])) :
    let api := run DeviceApi.step ⟨fleet, [], []⟩ ls
    (∀ h ∈ handOffs api l, Graced (emitted DeviceApi.step handOffs ⟨fleet, [], []⟩ ls) h) ∧
      ((handOffs api l).map HandOff.commandId).Nodup := by
  intro api
  obtain ⟨hls, hl, -⟩ := (admits_append _ ls [l]).mp hok
  have hstart : Remembered [] ⟨fleet, [], []⟩ := ⟨hids, by simp⟩
  have hr : Remembered (emitted DeviceApi.step handOffs ⟨fleet, [], []⟩ ls) api := by
    have hstep : ∀ es api l, Remembered es api → Spaced api l →
        Remembered (es ++ handOffs api l) (api.step l) := fun _ _ l hr _ => hr.step l
    simpa only [List.nil_append] using emitted_invariant hstep hstart hls
  refine ⟨fun h hh => hr.graced hl hh, ?_⟩
  rcases serve_cases api l with ⟨deviceId, -, -, -, hhanded⟩ | ⟨hnone, -, -⟩
  · rw [hhanded, List.map_map]
    exact listPending_nodup hr.ids l.now deviceId _
  · simp [hnone]

/-- A look at least the grace period after all earlier ones is spaced. -/
theorem spaced_of_apart {api : DeviceApi} {l : ApiStep}
    (h : ∀ p ∈ api.looks, p.2 + seconds postPiggybackGraceS ≤ l.now) : Spaced api l :=
  fun _ _ _ _ _ _ _ hmem _ => h _ hmem

/-- A toggle that waits for its device. -/
def queuedToggle : Command where
  id := "cmd_1"
  deviceId := "dev_1"
  groupId := none
  issuedByUserId := none
  type := "relay_toggle"
  payload := .obj []
  status := .pending
  createdAt := 0
  expiresAt := seconds 600
  deliveredAt := none
  ackReceivedAt := none
  completedAt := none

/-- The device of the toggle, and the toggle. -/
def oneToggle : Fleet := ⟨[⟨"dev_1", none, none, false, false, none⟩], [queuedToggle], []⟩

/-- A heartbeat of the device, `t` seconds on. -/
def heartbeatAt (t : Int) : ApiStep := .heartbeat ⟨30, 60⟩ (seconds t) "dev_1" .null true

/-- A poll of the device without a wait, `t` seconds on. -/
def pollAt (t : Int) : ApiStep := .poll (seconds t) "dev_1" .null false none 0

instance (es : List HandOff) (h : HandOff) : Decidable (Graced es h) :=
  inferInstanceAs (Decidable (∀ e ∈ es, _ → _))

/-- A heartbeat and two polls ten seconds apart hand the toggle over in good order. -/
theorem no_double_hand_off_ten_seconds_apart :
    let api := run DeviceApi.step ⟨oneToggle, [], []⟩ [heartbeatAt 0, pollAt 10]
    (handOffs api (pollAt 20) = [⟨seconds 20, "cmd_1"⟩]) ∧
      ∀ h ∈ handOffs api (pollAt 20), Graced [⟨0, "cmd_1"⟩, ⟨seconds 10, "cmd_1"⟩] h := by
  refine ⟨by decide, ?_⟩
  have hok : Admits DeviceApi.step Spaced ⟨oneToggle, [], []⟩
      ([heartbeatAt 0, pollAt 10] ++ [pollAt 20]) :=
    ⟨spaced_of_apart (by decide), spaced_of_apart (by decide), spaced_of_apart (by decide), trivial⟩
  exact (no_double_hand_off (by decide) [heartbeatAt 0, pollAt 10] (pollAt 20) hok).1

/-- After two hand-offs ten seconds apart, a poll two seconds later hands the toggle over
again. -/
theorem double_hand_off :
    let api := run DeviceApi.step ⟨oneToggle, [], []⟩ [heartbeatAt 0, pollAt 10]
    emitted DeviceApi.step handOffs ⟨oneToggle, [], []⟩ [heartbeatAt 0, pollAt 10]
        = [⟨0, "cmd_1"⟩, ⟨seconds 10, "cmd_1"⟩] ∧
      handOffs api (pollAt 12) = [⟨seconds 12, "cmd_1"⟩] ∧
      ¬ ∀ h ∈ handOffs api (pollAt 12),
        Graced (emitted DeviceApi.step handOffs ⟨oneToggle, [], []⟩ [heartbeatAt 0, pollAt 10]) h := by
  refine ⟨by decide, by decide, ?_⟩
  decide

end RebooterHub.Commands
