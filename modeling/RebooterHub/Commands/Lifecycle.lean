import RebooterHub.Commands.Groups

/-!
# Commands — Lifecycle

What becomes of a command once it is closed: completed, failed, expired or cancelled.

Every operation on the queue reads the status of a row before it writes it, except
`record_result`, which stores whatever status the device reports.  `Final` says of a step that it
leaves every closed command closed as it is and hands none over; `terminal_final_iff` says that
the steps of a run are `Final` exactly when no result report changes the status of a closed
command (`Settled`).
-/

namespace RebooterHub.Commands
open RebooterHub.Runs

/-! ### Operations -/

/-- An operation on the queue: a step of the hub, or a fan-out. -/
inductive Operation where
  | api (l : ApiStep)
  | group (now : Time) (newId : Nat → String) (memberships : List (String × String))
      (args : GroupArgs)

/-- The state after an operation. -/
def DeviceApi.operate (api : DeviceApi) : Operation → DeviceApi
  | .api l => api.step l
  | .group now newId memberships args =>
    match enqueueForGroup api.fleet memberships now newId args with
    | .error _ => api
    | .ok (fleet, _) => { api with fleet }

/-- The ids of the commands an operation hands to a device. -/
def handedOver (api : DeviceApi) : Operation → List String
  | .api l => (handOffs api l).map HandOff.commandId
  | .group .. => []

/-- The operation leaves every closed command with its status, and hands none over. -/
def Final (api : DeviceApi) (op : Operation) : Prop :=
  ∀ id c, api.fleet.command id = some c → c.status.isOpen = false →
    ((api.operate op).fleet.command id).map Command.status = some c.status ∧
      id ∉ handedOver api op

/-- No result report gives a closed command another status. -/
def Settled (api : DeviceApi) : Operation → Prop
  | .api (.result _ deviceId commandId status _ _ _) =>
    ∀ st c, CommandStatus.ofResult status = some st → api.fleet.command commandId = some c →
      c.deviceId = deviceId → c.status.isOpen = false → st = c.status
  | _ => True

/-! ### One operation -/

/-- An update of some commands, read at an id. -/
theorem Fleet.command_updateCommands (f : Fleet) (p : Command → Bool) {g : Command → Command}
    (hg : ∀ c, (g c).identity = c.identity) (id : String) :
    (f.updateCommands p g).command id = (f.command id).map fun c => if p c then g c else c := by
  have hpred : (fun c : Command => decide (c.id = id)) ∘ (fun c => if p c then g c else c)
      = fun c => decide (c.id = id) := by
    funext c
    have : (g c).id = c.id := congrArg Prod.fst (hg c)
    by_cases hp : p c <;> simp [hp, this]
  rw [Fleet.command, Fleet.updateCommands, List.find?_map, hpred, Fleet.command]

/-- An update that spares the closed commands keeps their status. -/
theorem status_updateCommands {f : Fleet} {p : Command → Bool} {g : Command → Command}
    (hg : ∀ c, (g c).identity = c.identity) {id : String} {c : Command}
    (hc : f.command id = some c) (hp : p c = false) :
    ((f.updateCommands p g).command id).map Command.status = some c.status := by
  simp [f.command_updateCommands p hg, hc, hp]

theorem isDeliverable_open {now : Time} {deviceId : String} {grace : Option Int} {c : Command}
    (h : isDeliverable now deviceId grace c = true) : c.status.isOpen = true := by
  simp only [isDeliverable, Bool.and_eq_true] at h
  exact h.1.1.2

/-- A look keeps the closed commands. -/
theorem status_look {f : Fleet} {id : String} {c : Command} (hc : f.command id = some c)
    (hclosed : c.status.isOpen = false) (now : Time) (deviceId : String) (grace : Option Int) :
    ((listPendingForDevice f now deviceId grace).1.command id).map Command.status
      = some c.status := by
  refine status_updateCommands (markDelivered_identity now) hc ?_
  by_contra h
  rw [isDeliverable_open (Bool.not_eq_false _ ▸ h)] at hclosed
  cases hclosed

theorem status_cancel {f : Fleet} {id : String} {c : Command} (hc : f.command id = some c)
    (hclosed : c.status.isOpen = false) (now : Time) (commandId : String) :
    ((cancelPendingCommand f now commandId).1.command id).map Command.status
      = some c.status := by
  rw [cancelPendingCommand]
  cases hcmd : f.command commandId with
  | none => simp [hc]
  | some cmd =>
      dsimp only
      split
      · simp [hc]
      · next hpending =>
          -- the cancelled command is pending, so it is another one
          refine status_updateCommands ?_ hc (decide_eq_false fun heq => ?_)
          · exact fun _ => rfl
          have hid : c.id = id := by simpa using List.find?_some hc
          rw [show commandId = id from heq.symm.trans hid, hc] at hcmd
          obtain rfl := Option.some.inj hcmd
          rw [not_not.mp hpending] at hclosed
          cases hclosed

theorem status_expire {f : Fleet} {id : String} {c : Command} (hc : f.command id = some c)
    (hclosed : c.status.isOpen = false) (now : Time) :
    ((expireOverdueCommands f now).command id).map Command.status = some c.status := by
  refine status_updateCommands ?_ hc ?_
  · exact fun _ => rfl
  · simp [hclosed]

/-- A report on a command, read at any id. -/
theorem recordResult_command {f f' : Fleet} {now : Time} {deviceId commandId status : String}
    {message : Option String} {result : Json} {completedAt : Option Time}
    (h : recordResult f now deviceId commandId status message result completedAt = .ok f') :
    ∃ st c, CommandStatus.ofResult status = some st ∧ f.command commandId = some c ∧
      c.deviceId = deviceId ∧ ∀ id, (f'.command id).map Command.status
        = if id = commandId then some st else (f.command id).map Command.status := by
  rw [recordResult] at h
  split at h
  · cases h
  · next st hst =>
      split at h
      · cases h
      · next c hc =>
          split at h
          · cases h
          · next hdev =>
              obtain rfl := Except.ok.inj h
              refine ⟨st, c, hst, hc, not_not.mp hdev, fun id => ?_⟩
              have hupdate := f.command_updateCommands (·.id = commandId)
                (g := fun c => { c with
                  ackReceivedAt := some (c.ackReceivedAt.getD now)
                  status := st
                  completedAt := some (completedAt.getD now) }) (fun _ => rfl) id
              refine (congrArg (Option.map Command.status) hupdate).trans ?_
              rcases eq_or_ne id commandId with rfl | hne
              · have hid : c.id = id := by simpa using List.find?_some hc
                simp [hc, hid]
              · cases hfound : f.command id with
                | none => simp [hne]
                | some c' =>
                    have hid : c'.id = id := by simpa using List.find?_some hfound
                    simp [hid, hne]

/-- A step of the hub keeps the closed commands, a result report those it is not about. -/
theorem status_step {api : DeviceApi} {l : ApiStep} {id : String} {c : Command}
    (hc : api.fleet.command id = some c) (hclosed : c.status.isOpen = false)
    (hl : Settled api (.api l)) :
    ((api.step l).fleet.command id).map Command.status = some c.status := by
  have hsame : (api.fleet.command id).map Command.status = some c.status := by simp [hc]
  have hlook := fun now deviceId grace => status_look hc hclosed now deviceId grace
  cases l with
  | heartbeat settings now deviceId bodyId recorded =>
      simp only [DeviceApi.step, DeviceApi.serve, heartbeat]
      split
      · exact hsame
      · split
        · exact hsame
        · exact hlook _ _ _
  | poll now deviceId queryId longPollDisabled prefer mono =>
      simp only [DeviceApi.step, DeviceApi.serve, pollCommands]
      split
      · exact hsame
      · generalize (if longPollDisabled then 0 else parsePreferWait prefer) = requestedWait
        split <;> exact hlook _ _ _
  | recheck now i mono =>
      simp only [DeviceApi.step, DeviceApi.serve, recheck]
      split
      · exact hsame
      · split
        · split <;> exact hlook _ _ _
        · exact hsame
  | enqueue now newId args =>
      simp only [DeviceApi.step, DeviceApi.serve]
      split
      · exact hsame
      · next fleet cmd ev hr =>
          have hcalls : Enqueues (fun _ => True) api.fleet fleet := .single trivial hr
          simp [hcalls.command hc]
  | result now deviceId commandId status message result completedAt =>
      simp only [DeviceApi.step, DeviceApi.serve]
      split
      · exact hsame
      · next fleet hr =>
          obtain ⟨st, c', hst, hc', hdev, hread⟩ := recordResult_command hr
          rw [hread]
          split
          · next heq =>
              subst heq
              obtain rfl : c' = c := Option.some.inj (hc'.symm.trans hc)
              rw [hl st c' hst hc' hdev hclosed]
          · exact hsame
  | cancel now commandId => exact status_cancel hc hclosed now commandId
  | expire now => exact status_expire hc hclosed now

/-- What a step hands over was open before it. -/
theorem open_of_handOff {api : DeviceApi} (hids : (api.fleet.commands.map Command.id).Nodup)
    {l : ApiStep} {h : HandOff} (hh : h ∈ handOffs api l) {c : Command}
    (hc : api.fleet.command h.commandId = some c) : c.status.isOpen = true := by
  rcases serve_cases api l with ⟨deviceId, -, -, -, hhanded⟩ | ⟨hnone, -, -⟩
  · rw [hhanded] at hh
    obtain ⟨-, c', hmem, hid, hdel, -⟩ := mem_handed hh
    have hid' : c.id = h.commandId := by simpa using List.find?_some hc
    obtain rfl : c' = c :=
      List.inj_on_of_nodup_map hids hmem (List.mem_of_find?_eq_some hc) (hid.trans hid'.symm)
    exact isDeliverable_open hdel
  · simp [hnone] at hh

/-- **One operation** is final exactly when it is no report on a closed command that changes its
status. -/
theorem final_iff_settled {api : DeviceApi} (hids : (api.fleet.commands.map Command.id).Nodup)
    (op : Operation) : Final api op ↔ Settled api op := by
  constructor
  · intro hfinal
    cases op with
    | group => trivial
    | api l =>
        cases l with
        | result now deviceId commandId status message result completedAt =>
            intro st c hst hc hdev hclosed
            have hkept := (hfinal commandId c hc hclosed).1
            simp only [DeviceApi.operate, DeviceApi.step, DeviceApi.serve] at hkept
            split at hkept
            · next e hr =>
                simp [recordResult, hst, hc, hdev] at hr
            · next fleet hr =>
                obtain ⟨st', -, hst', -, -, hread⟩ := recordResult_command hr
                rw [hread, if_pos rfl] at hkept
                exact (Option.some.inj (hst.symm.trans hst')).trans (Option.some.inj hkept)
        | _ => trivial
  · intro hsettled id c hc hclosed
    cases op with
    | api l =>
        refine ⟨status_step hc hclosed hsettled, fun hmem => ?_⟩
        obtain ⟨h, hh, rfl⟩ := List.mem_map.mp hmem
        rw [open_of_handOff hids hh hc] at hclosed
        cases hclosed
    | group now newId memberships args =>
        refine ⟨?_, List.not_mem_nil⟩
        simp only [DeviceApi.operate]
        split
        · simp [hc]
        · next fleet r hr =>
            simp [(enqueues_enqueueForGroup hr).command hc]

/-- An operation keeps the ids distinct. -/
theorem ids_operate {api : DeviceApi} (hids : (api.fleet.commands.map Command.id).Nodup)
    (op : Operation) : ((api.operate op).fleet.commands.map Command.id).Nodup := by
  cases op with
  | api l =>
      rcases serve_cases api l with ⟨deviceId, -, hfleet, -, -⟩ | ⟨-, -, hrows⟩
      · rw [DeviceApi.operate, hfleet]
        exact (rowsKept_look _ _ _ _).ids hids
      · exact hrows.ids hids
  | group now newId memberships args =>
      simp only [DeviceApi.operate]
      split
      · exact hids
      · next fleet r hr => exact (enqueues_enqueueForGroup hr).ids hids

/-- **A closed command stays closed**, in every run of operations from tables with distinct
command ids, exactly when no result report of the run gives a closed command another status: each
operation then leaves the status of every completed, failed, expired or cancelled command and
hands none of them over. -/
theorem terminal_final_iff {api : DeviceApi} (hids : (api.fleet.commands.map Command.id).Nodup)
    (ops : List Operation) :
    Admits DeviceApi.operate Final api ops ↔ Admits DeviceApi.operate Settled api ops := by
  induction ops generalizing api with
  | nil => exact Iff.rfl
  | cons op ops ih => exact and_congr (final_iff_settled hids op) (ih (ids_operate hids op))

/-- A cancelled toggle is polled for and swept. -/
theorem terminal_final_after_cancel :
    Admits DeviceApi.operate Final ⟨oneToggle, [], []⟩
      [.api (.cancel (seconds 1) "cmd_1"), .api (pollAt 2), .api (.expire (seconds 900))] :=
  (terminal_final_iff (by decide) _).mpr ⟨trivial, trivial, trivial, trivial⟩

/-- A late report reopens a cancelled toggle, and the next poll hands it over. -/
theorem terminal_reopened :
    ¬Admits DeviceApi.operate Final ⟨oneToggle, [], []⟩
        [.api (.cancel (seconds 1) "cmd_1"),
          .api (.result (seconds 2) "dev_1" "cmd_1" "running" none .null none)] ∧
      handedOver (Runs.run DeviceApi.operate ⟨oneToggle, [], []⟩
        [.api (.cancel (seconds 1) "cmd_1"),
          .api (.result (seconds 2) "dev_1" "cmd_1" "running" none .null none)])
        (.api (pollAt 3)) = ["cmd_1"] := by
  refine ⟨fun h => ?_, by decide⟩
  have hrow := (h.2.1 "cmd_1" { queuedToggle with
    status := .cancelled, completedAt := some (seconds 1) } (by decide) rfl).1
  revert hrow
  decide

end RebooterHub.Commands
