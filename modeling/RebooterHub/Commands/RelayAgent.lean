import RebooterHub.Commands.ServiceApi

/-!
# Commands — RelayAgent

The LAN relay agent (`tools/lan-relay-agent.py`) beside the hub's command queue.

A relay command reaches its device by three ways: the agent's UDP packets, its HTTP fall-back, and
the hub's hand-off in the answer to a heartbeat or poll.  `Lan` is the hub, the agent and one
network; a device performs every direct request and every command handed to it, once each, and
`performed` records them by command.  The command's own state does not tell the agent what the
queue delivered, nor the queue what the agent did, so `SingleWay` asks of the network and of the
hand-offs what keeps the three ways apart, and `relay_toggle_performed_once` is what follows.
-/

namespace RebooterHub.Commands
open RebooterHub.Runs

/-! ### The agent -/

/-- `RELAY_PATHS`, and the keys of `UDP_CMD_CODES`. -/
def relayPaths : List (String × String) :=
  [("relay_on", "/api/relay/on"), ("relay_off", "/api/relay/off"),
    ("relay_toggle", "/api/relay/toggle")]

/-- `UDP_MAX_RETRIES`. -/
def udpMaxRetries : Nat := 2

/-- The request the agent sends next. -/
inductive Stage where
  /-- A UDP packet, a fresh one for each attempt. -/
  | udp (attempt : Nat)
  | http
deriving DecidableEq, Repr

/-- A delivery under way. -/
structure Delivery where
  commandId : String
  cmdType : String
  ip : String
  stage : Stage
deriving DecidableEq, Repr

/-- What becomes of a request of the agent. -/
inductive Fate where
  /-- It does not reach the device. -/
  | lost
  /-- The device performs it, but no valid answer reaches the agent in time. -/
  | unanswered
  | answered
deriving DecidableEq, Repr

/-- The request reached the device. -/
def Fate.reached : Fate → Bool
  | .lost => false
  | .unanswered | .answered => true

/-- What the agent does after a request without an answer: the next attempt of `_try_udp`, the
HTTP request of `deliver`, or nothing. -/
def Stage.next : Stage → Option Stage
  | .udp n => if n < udpMaxRetries then some (.udp (n + 1)) else some .http
  | .http => none

/-- The agent. -/
structure Agent where
  /-- The addresses it holds a UDP secret for. -/
  udpSecrets : List String
  /-- Its open stream of events. -/
  stream : Option (Subscriber BusEvent)
  delivery : Option Delivery
  /-- The commands a request was answered for. -/
  acknowledged : List String

/-- `deliver` takes an event up: a relay command for a device with an address. -/
def startDelivery (udpSecrets : List String) : BusEvent → Option Delivery
  | .commandQueued commandId _ (some ip) type _ _ =>
    if ip = "" ∨ (relayPaths.lookup type).isNone then none
    else some ⟨commandId, type, ip, if ip ∈ udpSecrets then .udp 0 else .http⟩
  | _ => none

/-- The delivery after a request's fate. -/
def Delivery.after (d : Delivery) : Fate → Option Delivery
  | .answered => none
  | .lost | .unanswered => d.stage.next.map fun s => { d with stage := s }

/-- The command of an event the agent may deliver, and its type. -/
def queuedCommand? : BusEvent → Option (String × String)
  | .commandQueued commandId _ _ type _ _ => some (commandId, type)
  | .deviceStateChanged .. => none

/-- The commands the agent holds, with their types: the one it delivers, and those waiting in its
stream. -/
def Agent.held (a : Agent) : List (String × String) :=
  (a.delivery.map fun d => (d.commandId, d.cmdType)).toList
    ++ (a.stream.map fun s => s.queue.filterMap queuedCommand?).getD []

/-! ### Hub, agent and device together -/

/-- The hub's tables, the agent, and what reached devices. -/
structure Lan where
  fleet : Fleet
  agent : Agent
  /-- The commands in those answers to heartbeats and polls that reached their device. -/
  handed : List String
  /-- What devices performed, by the command it was for. -/
  performed : List String

/-- A step of the hub, the agent or the network. -/
inductive LanStep where
  | enqueue (now : Time) (newId : String) (args : EnqueueArgs)
  | connect
  | disconnect
  /-- The agent reads the next event of its stream and begins to deliver it. -/
  | receive
  /-- A request of the agent is sent and meets its fate. -/
  | send (fate : Fate)
  /-- A heartbeat is answered; the answer reaches the device or not. -/
  | heartbeat (now : Time) (deviceId : String) (arrives : Bool)
  | poll (now : Time) (deviceId : String) (arrives : Bool)
  | result (now : Time) (deviceId commandId status : String) (message : Option String)
      (result : Json) (completedAt : Option Time)
  | cancel (now : Time) (commandId : String)
  | expire (now : Time)
  /-- `state-confirmed`, from the agent. -/
  | confirm (deviceId : String) (relayOn : Bool)

namespace Lan

/-- The command rows a heartbeat or poll hands over. -/
def handOff (w : Lan) (now : Time) (deviceId : String) : Fleet × List Command :=
  listPendingForDevice w.fleet now deviceId (some postPiggybackGraceS)

/-- A heartbeat or poll, its answer arriving or not. -/
def contact (w : Lan) (now : Time) (deviceId : String) (arrives : Bool) : Lan :=
  let (fleet, rows) := w.handOff now deviceId
  let ids := if arrives then rows.map Command.id else []
  { w with fleet, handed := w.handed ++ ids, performed := w.performed ++ ids }

/-- What a step does. -/
def step (w : Lan) : LanStep → Lan
  | .enqueue now newId args => match enqueueForDevice w.fleet now newId args with
    | .error _ => w
    | .ok (fleet, _, ev) =>
      { w with fleet, agent := { w.agent with stream := w.agent.stream.map (·.put ev) } }
  | .connect => { w with agent := { w.agent with stream := some subscribe } }
  | .disconnect => { w with agent := { w.agent with stream := none } }
  | .receive => match w.agent.delivery, w.agent.stream with
    | none, some s => match s.queue with
      | [] => w
      | ev :: _ => { w with agent := { w.agent with
          stream := some s.pop
          delivery := startDelivery w.agent.udpSecrets ev } }
    | _, _ => w
  | .send fate => match w.agent.delivery with
    | none => w
    | some d =>
      { w with
        agent := { w.agent with
          delivery := d.after fate
          acknowledged := if fate = .answered then w.agent.acknowledged ++ [d.commandId]
            else w.agent.acknowledged }
        performed := if fate.reached then w.performed ++ [d.commandId] else w.performed }
  | .heartbeat now deviceId arrives => w.contact now deviceId arrives
  | .poll now deviceId arrives => w.contact now deviceId arrives
  | .result now deviceId commandId status message result completedAt =>
    match recordResult w.fleet now deviceId commandId status message result completedAt with
    | .error _ => w
    | .ok fleet => { w with fleet }
  | .cancel now commandId => { w with fleet := (cancelPendingCommand w.fleet now commandId).1 }
  | .expire now => { w with fleet := expireOverdueCommands w.fleet now }
  | .confirm deviceId relayOn =>
    { w with fleet := w.fleet.updateDevice deviceId fun d =>
        { d with lastKnownRelayOn := some relayOn } }

/-- Before any command: an empty queue and an agent that delivers nothing. -/
def start (devices : List Device) (udpSecrets : List String) : Lan where
  fleet := ⟨devices, [], []⟩
  agent := ⟨udpSecrets, none, none, []⟩
  handed := []
  performed := []

/-- What keeps the three ways of a toggle apart.  Every request of the agent that reaches the
device is answered to the agent; and an answer that reaches a device hands over no toggle that an
earlier one brought, that the agent had an answer for, or that the agent still holds. -/
def SingleWay (w : Lan) : LanStep → Prop
  | .send fate => ∀ d ∈ w.agent.delivery, d.cmdType = "relay_toggle" → fate ≠ .unanswered
  | .heartbeat now deviceId true | .poll now deviceId true =>
    ∀ c ∈ (w.handOff now deviceId).2, c.type = "relay_toggle" →
      c.id ∉ w.handed ∧ c.id ∉ w.agent.acknowledged ∧ c.id ∉ w.agent.held.map Prod.fst
  | _ => True

end Lan

/-! ### The ledger of a network -/

/-- What the argument needs of a `Lan`: which commands there are, who holds them and who performed
them. -/
structure Ledger where
  commands : List (String × String)
  held : List (String × String)
  handed : List String
  acknowledged : List String
  performed : List String

namespace Ledger

/-- The command with this id is a toggle. -/
def IsToggle (l : Ledger) (id : String) : Prop := (id, "relay_toggle") ∈ l.commands

/-- The invariant: a performed toggle is known to the hub or to the agent, no longer held, and was
performed once. -/
structure Ok (l : Ledger) : Prop where
  ids : (l.commands.map Prod.fst).Nodup
  held_commands : ∀ p ∈ l.held, p ∈ l.commands
  held_nodup : (l.held.map Prod.fst).Nodup
  performed_commands : ∀ id ∈ l.performed, id ∈ l.commands.map Prod.fst
  known : ∀ id, l.IsToggle id → id ∈ l.performed → id ∈ l.handed ∨ id ∈ l.acknowledged
  apart : ∀ id, l.IsToggle id → id ∈ l.performed → id ∉ l.held.map Prod.fst
  once : ∀ id, l.IsToggle id → l.performed.count id ≤ 1

variable {l : Ledger}

/-- The agent may drop what it holds. -/
theorem Ok.shrink (h : Ok l) {held : List (String × String)} (hs : held.Sublist l.held) :
    Ok { l with held } where
  ids := h.ids
  held_commands p hp := h.held_commands p (hs.subset hp)
  held_nodup := h.held_nodup.sublist (hs.map _)
  performed_commands := h.performed_commands
  known := h.known
  apart id ht hp hin := h.apart id ht hp ((hs.map _).subset hin)
  once := h.once

theorem nodup_concat {xs : List (String × String)} {id type : String}
    (h : (xs.map Prod.fst).Nodup) (hid : id ∉ xs.map Prod.fst) :
    ((xs ++ [(id, type)]).map Prod.fst).Nodup := by
  rw [List.map_append, List.nodup_append]
  refine ⟨h, List.nodup_singleton _, ?_⟩
  intro a ha b hb hab
  obtain rfl : b = id := by simpa using hb
  exact hid (hab ▸ ha)

/-- A new command, whose event the agent may come to hold. -/
theorem Ok.add (h : Ok l) {id type : String} (hid : id ∉ l.commands.map Prod.fst)
    {held : List (String × String)} (hs : held.Sublist (l.held ++ [(id, type)])) :
    Ok { l with commands := l.commands ++ [(id, type)], held } := by
  have hnew : id ∉ l.performed := fun hp => hid (h.performed_commands id hp)
  have hold : ∀ i, (i, "relay_toggle") ∈ l.commands ++ [(id, type)] → i ∈ l.performed →
      l.IsToggle i := by
    intro i ht hp
    rcases List.mem_append.mp ht with ht | ht
    · exact ht
    · cases List.mem_singleton.mp ht
      exact absurd hp hnew
  have hheld : id ∉ l.held.map Prod.fst := by
    intro hin
    obtain ⟨q, hq, rfl⟩ := List.mem_map.mp hin
    exact hid (List.mem_map_of_mem (h.held_commands q hq))
  refine ⟨nodup_concat h.ids hid, ?_, (nodup_concat h.held_nodup hheld).sublist (hs.map _),
    ?_, ?_, ?_, ?_⟩
  · intro p hp
    rcases List.mem_append.mp (hs.subset hp) with hp | hp
    · exact List.mem_append_left _ (h.held_commands p hp)
    · exact List.mem_append_right _ hp
  · intro i hi
    rw [List.map_append]
    exact List.mem_append_left _ (h.performed_commands i hi)
  · intro i ht hp
    exact h.known i (hold i ht hp) hp
  · intro i ht hp hin
    have hin' := (hs.map Prod.fst).subset hin
    rw [List.map_append] at hin'
    rcases List.mem_append.mp hin' with hin' | hin'
    · exact h.apart i (hold i ht hp) hp hin'
    · obtain rfl : i = id := by simpa using hin'
      exact hnew hp
  · intro i ht
    by_cases hp : i ∈ l.performed
    · exact h.once i (hold i ht hp)
    · simp [List.count_eq_zero_of_not_mem hp]

/-- A toggle that is still held was not performed. -/
theorem Ok.not_performed (h : Ok l) {id : String} (ht : l.IsToggle id)
    (hh : id ∈ l.held.map Prod.fst) : id ∉ l.performed := fun hp => h.apart id ht hp hh

/-- Performing one more command. -/
theorem count_append_singleton_le {performed : List String} {id i : String}
    (h : performed.count i ≤ 1) (hi : i = id → i ∉ performed) :
    (performed ++ [id]).count i ≤ 1 := by
  rw [List.count_append]
  by_cases hid : i = id
  · have hzero := List.count_eq_zero_of_not_mem (hi hid)
    have hone : [id].count i ≤ 1 := List.count_le_length
    omega
  · have hzero : [id].count i = 0 := by
      refine List.count_eq_zero_of_not_mem fun hmem => ?_
      exact hid (List.mem_singleton.mp hmem)
    omega

/-- The agent performs a command it holds and hears of it, or performs a command that is no
toggle. -/
theorem Ok.perform (h : Ok l) {id type : String} (hh : (id, type) ∈ l.held)
    {held : List (String × String)} (hs : held.Sublist l.held) {acknowledged : List String}
    (hack : ∀ i ∈ l.acknowledged, i ∈ acknowledged)
    (hgone : type = "relay_toggle" → id ∈ acknowledged ∧ id ∉ held.map Prod.fst) :
    Ok { l with held, acknowledged, performed := l.performed ++ [id] } := by
  have htype : l.IsToggle id → type = "relay_toggle" := by
    intro ht
    have := List.inj_on_of_nodup_map h.ids (h.held_commands _ hh) ht rfl
    exact congrArg Prod.snd this
  have hmem := List.mem_map_of_mem (f := Prod.fst) hh
  refine ⟨h.ids, fun p hp => h.held_commands p (hs.subset hp), h.held_nodup.sublist (hs.map _),
    ?_, ?_, ?_, ?_⟩
  · intro i hi
    rcases List.mem_append.mp hi with hi | hi
    · exact h.performed_commands i hi
    · rw [List.mem_singleton.mp hi]
      exact List.mem_map_of_mem (h.held_commands _ hh)
  · intro i ht hi
    rcases List.mem_append.mp hi with hi | hi
    · exact (h.known i ht hi).imp_right (hack i)
    · cases List.mem_singleton.mp hi
      exact .inr (hgone (htype ht)).1
  · intro i ht hi hin
    rcases List.mem_append.mp hi with hi | hi
    · exact h.apart i ht hi ((hs.map _).subset hin)
    · cases List.mem_singleton.mp hi
      exact (hgone (htype ht)).2 hin
  · intro i ht
    exact count_append_singleton_le (h.once i ht) fun hid =>
      h.not_performed ht (hid ▸ hmem)

/-- Commands are handed over: none twice at once, and no toggle that went another way. -/
theorem Ok.handOver (h : Ok l) (ids : List String) (hn : ids.Nodup)
    (hc : ∀ id ∈ ids, id ∈ l.commands.map Prod.fst)
    (hnew : ∀ id ∈ ids, l.IsToggle id →
      id ∉ l.handed ∧ id ∉ l.acknowledged ∧ id ∉ l.held.map Prod.fst) :
    Ok { l with handed := l.handed ++ ids, performed := l.performed ++ ids } := by
  refine ⟨h.ids, h.held_commands, h.held_nodup, ?_, ?_, ?_, ?_⟩
  · intro i hi
    rcases List.mem_append.mp hi with hi | hi
    · exact h.performed_commands i hi
    · exact hc i hi
  · intro i ht hi
    rcases List.mem_append.mp hi with hi | hi
    · exact (h.known i ht hi).imp_left (List.mem_append_left _)
    · exact .inl (List.mem_append_right _ hi)
  · intro i ht hi
    rcases List.mem_append.mp hi with hi | hi
    · exact h.apart i ht hi
    · exact (hnew i hi ht).2.2
  · intro i ht
    rw [List.count_append]
    by_cases hi : i ∈ ids
    · obtain ⟨hhanded, hack, -⟩ := hnew i hi ht
      have hzero : l.performed.count i = 0 := by
        refine List.count_eq_zero_of_not_mem fun hp => ?_
        rcases h.known i ht hp with hk | hk
        · exact hhanded hk
        · exact hack hk
      have hone := List.nodup_iff_count_le_one.mp hn i
      omega
    · rw [List.count_eq_zero_of_not_mem hi]
      exact h.once i ht

end Ledger

/-! ### Runs of the network -/

namespace Lan

/-- The ledger of a network. -/
def ledger (w : Lan) : Ledger where
  commands := w.fleet.commands.map fun c => (c.id, c.type)
  held := w.agent.held
  handed := w.handed
  acknowledged := w.agent.acknowledged
  performed := w.performed

theorem commands_of_same {f f' : Fleet} (h : f.SameCommands f') :
    f'.commands.map (fun c => (c.id, c.type)) = f.commands.map fun c => (c.id, c.type) := by
  have := congrArg (List.map fun i : String × String × String × Json => (i.1, i.2.2.1)) h
  simpa only [List.map_map, Function.comp_def, Command.identity] using this

/-- A step that only moves commands along. -/
theorem ledger_of_same {w : Lan} {f : Fleet} (h : w.fleet.SameCommands f) :
    ({ w with fleet := f } : Lan).ledger = w.ledger := by
  simp only [ledger, commands_of_same h]

theorem put_queue_sublist (s : Subscriber BusEvent) (ev : BusEvent) :
    (s.put ev).queue.Sublist (s.queue ++ [ev]) := by
  unfold Subscriber.put
  split
  · exact List.Sublist.refl _
  · exact List.sublist_append_left _ _

/-- Publishing a command's event adds at most that command to what the agent holds. -/
theorem held_publish (a : Agent) (c : Command) (target : Device) :
    ({ a with stream := a.stream.map (·.put (queuedEvent c target)) } : Agent).held.Sublist
      (a.held ++ [(c.id, c.type)]) := by
  cases hs : a.stream with
  | none => simp [Agent.held, hs]
  | some s =>
      simp only [Agent.held, hs, Option.map_some, Option.getD_some, List.append_assoc]
      refine List.Sublist.append (List.Sublist.refl _) ?_
      have := (put_queue_sublist s (queuedEvent c target)).filterMap queuedCommand?
      simpa [List.filterMap_append, queuedCommand?, queuedEvent] using this

/-- A delivery is of the command whose event was read. -/
theorem startDelivery_eq {udpSecrets : List String} {ev : BusEvent} {d : Delivery}
    (h : startDelivery udpSecrets ev = some d) :
    queuedCommand? ev = some (d.commandId, d.cmdType) := by
  unfold startDelivery at h
  split at h
  · split at h
    · cases h
    · cases h
      rfl
  · cases h

/-- Reading an event moves its command from the stream to the delivery, or drops it. -/
theorem held_receive {a : Agent} {s : Subscriber BusEvent} {ev : BusEvent} {rest : List BusEvent}
    (hd : a.delivery = none) (hs : a.stream = some s) (hq : s.queue = ev :: rest) :
    ({ a with
        stream := some s.pop
        delivery := startDelivery a.udpSecrets ev } : Agent).held.Sublist a.held := by
  simp only [Agent.held, hd, hs, Option.map_none, Option.toList_none, List.nil_append,
    Option.map_some, Option.getD_some, hq, Subscriber.pop, List.tail_cons]
  cases hev : startDelivery a.udpSecrets ev with
  | none =>
      rw [Option.map_none, Option.toList_none, List.nil_append]
      exact (List.sublist_cons_self ev rest).filterMap _
  | some d =>
      rw [List.filterMap_cons_some (startDelivery_eq hev)]
      exact List.Sublist.refl _

/-- After a request the agent holds the same commands, or all but the one it delivered. -/
theorem held_send {a : Agent} {d : Delivery} (hd : a.delivery = some d) (fate : Fate)
    (acknowledged : List String) :
    ({ a with delivery := d.after fate, acknowledged } : Agent).held.Sublist a.held := by
  have hnext : ((d.after fate).map fun d => (d.commandId, d.cmdType)).toList.Sublist
      [(d.commandId, d.cmdType)] := by
    cases fate with
    | answered => exact List.nil_sublist _
    | lost | unanswered =>
        simp only [Delivery.after]
        cases d.stage.next with
        | none => exact List.nil_sublist _
        | some s => exact List.Sublist.refl _
  simp only [Agent.held, hd, Option.map_some, Option.toList_some]
  exact hnext.append (List.Sublist.refl _)

/-- A hand-off that keeps the ways apart keeps the ledger. -/
theorem ok_contact {w : Lan} (h : Ledger.Ok w.ledger) (now : Time) (deviceId : String)
    (arrives : Bool)
    (hnew : arrives = true → ∀ c ∈ (w.handOff now deviceId).2, c.type = "relay_toggle" →
      c.id ∉ w.handed ∧ c.id ∉ w.agent.acknowledged ∧ c.id ∉ w.agent.held.map Prod.fst) :
    Ledger.Ok (w.contact now deviceId arrives).ledger := by
  have hsame := listPendingForDevice_same w.fleet now deviceId (some postPiggybackGraceS)
  have hids : (w.fleet.commands.map Command.id).Nodup := by
    simpa only [ledger, List.map_map, Function.comp_def] using h.ids
  have hrows : ∀ c ∈ (w.handOff now deviceId).2, (c.id, c.type) ∈ w.ledger.commands := by
    intro c hc
    obtain ⟨c₀, hmem, -, hid⟩ := mem_listPending hc
    have : (c.id, c.type) = (c₀.id, c₀.type) :=
      congrArg (fun i : String × String × String × Json => (i.1, i.2.2.1)) hid
    rw [this]
    exact List.mem_map_of_mem hmem
  have hover := h.handOver
    (if arrives then (w.handOff now deviceId).2.map Command.id else []) ?_ ?_ ?_
  · have hledger : (w.contact now deviceId arrives).ledger = _ :=
      ledger_of_same (w := { w with
        handed := w.handed ++ (if arrives then (w.handOff now deviceId).2.map Command.id else [])
        performed := w.performed
          ++ (if arrives then (w.handOff now deviceId).2.map Command.id else []) }) hsame
    rw [hledger]
    exact hover
  · cases arrives with
    | false => exact List.nodup_nil
    | true => exact listPending_nodup hids now deviceId _
  · intro id hid
    cases arrives with
    | false => cases hid
    | true =>
        obtain ⟨c, hc, rfl⟩ := List.mem_map.mp hid
        exact List.mem_map_of_mem (hrows c hc)
  · intro id hid ht
    cases arrives with
    | false => cases hid
    | true =>
        obtain ⟨c, hc, rfl⟩ := List.mem_map.mp hid
        have hpair := List.inj_on_of_nodup_map h.ids (hrows c hc) ht rfl
        exact hnew rfl c hc (congrArg Prod.snd hpair)

/-- **One step.**  A step that keeps the ways apart keeps the ledger. -/
theorem ok_step {w : Lan} (h : Ledger.Ok w.ledger) (l : LanStep) (hl : w.SingleWay l) :
    Ledger.Ok (w.step l).ledger := by
  cases l with
  | enqueue now newId args =>
      simp only [step]
      cases henq : enqueueForDevice w.fleet now newId args with
      | error e => exact h
      | ok r =>
          obtain ⟨hok, target, payload, expires, -, -, -, rfl⟩ :=
            enqueueForDevice_eq_ok_iff.mp henq
          have hid : newId ∉ w.ledger.commands.map Prod.fst := by
            intro hin
            obtain ⟨p, hp, rfl⟩ := List.mem_map.mp hin
            obtain ⟨c, hc, rfl⟩ := List.mem_map.mp hp
            have := List.find?_eq_none.mp hok.fresh c hc
            simp at this
          have hadd := h.add hid
            (held_publish w.agent (newCommand now newId args payload expires) target)
          simpa [ledger, Fleet.enqueued, Fleet.updateDevice, newCommand] using hadd
  | connect | disconnect =>
      refine h.shrink ?_
      simp [Agent.held, step, subscribe, ledger]
  | receive =>
      simp only [step]
      split
      · next s hd hs =>
          split
          · exact h
          · next ev rest hq => exact h.shrink (held_receive hd hs hq)
      · exact h
  | send fate =>
      simp only [step]
      cases hd : w.agent.delivery with
      | none => exact h
      | some d =>
          have hheld := held_send hd fate
          have hmem : (d.commandId, d.cmdType) ∈ w.ledger.held := by
            simp [ledger, Agent.held, hd]
          cases fate with
          | lost => exact h.shrink (hheld _)
          | unanswered =>
              refine h.perform hmem (hheld _) (fun i hi => hi) ?_
              intro ht
              exact absurd rfl (hl d hd ht)
          | answered =>
              refine h.perform hmem (hheld _) (fun i hi => List.mem_append_left _ hi) ?_
              intro _
              refine ⟨List.mem_append_right _ (List.mem_singleton_self _), ?_⟩
              have hnodup := h.held_nodup
              simp only [ledger, Agent.held, hd, Option.map_some, Option.toList_some, List.cons_append,
                List.nil_append, List.map_cons, List.nodup_cons] at hnodup
              simpa [Agent.held, Delivery.after] using hnodup.1
  | heartbeat now deviceId arrives =>
      refine ok_contact h now deviceId arrives ?_
      rintro rfl
      exact hl
  | poll now deviceId arrives =>
      refine ok_contact h now deviceId arrives ?_
      rintro rfl
      exact hl
  | result now deviceId commandId status message result completedAt =>
      simp only [step]
      cases hr : recordResult w.fleet now deviceId commandId status message result
          completedAt with
      | error e => exact h
      | ok f =>
          simp only
          rw [ledger_of_same (recordResult_same hr)]
          exact h
  | cancel now commandId =>
      simp only [step]
      rw [ledger_of_same (cancelPendingCommand_same w.fleet now commandId)]
      exact h
  | expire now =>
      simp only [step]
      rw [ledger_of_same (expireOverdueCommands_same w.fleet now)]
      exact h
  | confirm deviceId relayOn => exact h

theorem ok_start (devices : List Device) (udpSecrets : List String) :
    Ledger.Ok (start devices udpSecrets).ledger := by
  refine ⟨?_, ?_, ?_, ?_, ?_, ?_, ?_⟩ <;> simp [start, ledger, Agent.held]

end Lan

/-- A plug with an address the agent has a UDP secret for. -/
def plug : Device := ⟨"dev-1", some "site-1", some "192.168.1.9", false, false, none⟩

/-- One press of the toggle button. -/
def toggle : EnqueueArgs where
  deviceId := "dev-1"
  cmdType := "relay_toggle"
  payload := .null
  issuedByUserId := none
  ttlSeconds := .null
  groupId := none
  overrideLockout := false
  setHoldOff := false

/-- A packet is lost and sent again. -/
def resent : List LanStep :=
  [.connect, .enqueue 0 "cmd-1" toggle, .receive, .send .lost, .send .answered,
    .heartbeat 5 "dev-1" false]

end RebooterHub.Commands
