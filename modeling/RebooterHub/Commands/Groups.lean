import RebooterHub.Commands.HandOff
import RebooterHub.Support.Fallible

/-!
# Commands — Groups

`enqueue_for_group`: one command for each member of a group.

Whatever enqueues, on whichever path, does so by calls of `enqueue_for_device` or, here, by the
same steps inside one transaction.  `Enqueues P` is the tables such calls lead to when the
arguments of each meet `P`; what the calls leave alone is read off it once for all paths.

* `enqueueForGroup_eq_each`: a fan-out leaves what one call for each member in turn leaves, where
  a refused call is skipped.
-/

namespace RebooterHub.Commands
open RebooterHub.Fallible

/-- A command that is stored leaves the others as they are. -/
theorem command_enqueued {f : Fleet} {id : String} {c : Command} (hc : f.command id = some c)
    (a : EnqueueArgs) (cmd : Command) : (f.enqueued a cmd).command id = some c := by
  simp only [Fleet.command, Fleet.enqueued, Fleet.updateDevice, List.find?_append] at hc ⊢
  rw [hc, Option.some_or]

/-- The calls of `enqueue_for_device` that succeed, each with arguments that meet `P`, lead from
one state of the tables to another. -/
inductive Enqueues (P : EnqueueArgs → Prop) : Fleet → Fleet → Prop where
  | refl (f : Fleet) : Enqueues P f f
  | call {f g : Fleet} {now : Time} {newId : String} {a : EnqueueArgs}
      {r : Fleet × Command × BusEvent} (h : Enqueues P f g) (ha : P a)
      (hr : enqueueForDevice g now newId a = .ok r) : Enqueues P f r.1

/-- The guard lets the call past: its device is there, and not protected from it. -/
def Guarded (f : Fleet) (a : EnqueueArgs) : Prop :=
  ∃ d, f.device a.deviceId = some d ∧
    ¬(a.cmdType ∈ powerTypes ∧ d.isProtected ∧ ¬a.overrideLockout)

/-- A device after a command was stored for another or for itself. -/
theorem device_enqueued (f : Fleet) (a : EnqueueArgs) (cmd : Command) (id : String) :
    (f.enqueued a cmd).device id = (f.device id).map fun d =>
      if id = a.deviceId then
        { d with isHeldOff := holdOffAfter a.cmdType a.setHoldOff d.isHeldOff }
      else d :=
  f.device_updateDevice id a.deviceId _ fun _ => rfl

/-- The device is there and held off. -/
def Fleet.HeldOff (f : Fleet) (did : String) : Prop :=
  ∃ d, f.device did = some d ∧ d.isHeldOff = true

/-- The device is there and protected. -/
def Fleet.Protected (f : Fleet) (did : String) : Prop :=
  ∃ d, f.device did = some d ∧ d.isProtected = true

namespace Enqueues

variable {P Q : EnqueueArgs → Prop} {f g k : Fleet}

theorem single {now : Time} {newId : String} {a : EnqueueArgs} {r : Fleet × Command × BusEvent}
    (ha : P a) (hr : enqueueForDevice f now newId a = .ok r) : Enqueues P f r.1 :=
  .call (.refl f) ha hr

theorem trans (h : Enqueues P f g) (h' : Enqueues P g k) : Enqueues P f k := by
  induction h' with
  | refl => exact h
  | call _ ha hr ih => exact .call ih ha hr

theorem mono (hPQ : ∀ a, P a → Q a) (h : Enqueues P f g) : Enqueues Q f g := by
  induction h with
  | refl => exact .refl _
  | call _ ha hr ih => exact .call ih (hPQ _ ha) hr

/-- A command that is there stays as it is. -/
theorem command (h : Enqueues P f g) {id : String} {c : Command} (hc : f.command id = some c) :
    g.command id = some c := by
  induction h with
  | refl => exact hc
  | call _ _ hr ih =>
      obtain ⟨-, target, payload, expires, -, -, -, rfl⟩ := enqueueForDevice_eq_ok_iff.mp hr
      exact command_enqueued ih _ _

theorem ids (h : Enqueues P f g) (hf : (f.commands.map Command.id).Nodup) :
    (g.commands.map Command.id).Nodup := by
  induction h with
  | refl => exact hf
  | call _ _ hr ih => exact (rowsKept_enqueue hr).ids ih

/-- No call changes a device's protection. -/
theorem isProtected (h : Enqueues P f g) (id : String) :
    (g.device id).map Device.isProtected = (f.device id).map Device.isProtected := by
  induction h with
  | refl => rfl
  | call _ _ hr ih =>
      obtain ⟨-, target, payload, expires, -, -, -, rfl⟩ := enqueueForDevice_eq_ok_iff.mp hr
      rw [← ih, device_enqueued, Option.map_map]
      refine congrArg (Option.map · _) (funext fun d => ?_)
      dsimp only [Function.comp_apply]
      split <;> rfl

/-- The guard let each of the calls past as it would at their beginning. -/
theorem guarded (h : Enqueues P f g) : Enqueues (fun a => P a ∧ Guarded f a) f g := by
  induction h with
  | refl => exact .refl _
  | @call g now newId a r h ha hr ih =>
      obtain ⟨d, hd, hlock⟩ := (enqueueForDevice_eq_ok_iff.mp hr).1.device
      have hprot := h.isProtected a.deviceId
      rw [hd, Option.map_some] at hprot
      obtain ⟨d₀, hd₀, heq⟩ := Option.map_eq_some_iff.mp hprot.symm
      exact .call ih ⟨ha, d₀, hd₀, fun hl => hlock ⟨hl.1, heq ▸ hl.2.1, hl.2.2⟩⟩ hr

/-- **The rows calls create.**  They are added to the table, each for a call. -/
theorem created (h : Enqueues P f g) :
    ∃ new, g.commands = f.commands ++ new ∧
      ∀ c ∈ new, ∃ a, P a ∧ a.deviceId = c.deviceId ∧ a.cmdType = c.type := by
  induction h with
  | refl => exact ⟨[], (List.append_nil _).symm, fun _ hc => absurd hc List.not_mem_nil⟩
  | @call g now newId a r h ha hr ih =>
      obtain ⟨-, target, payload, expires, -, -, -, rfl⟩ := enqueueForDevice_eq_ok_iff.mp hr
      obtain ⟨new, hnew, hcreated⟩ := ih
      refine ⟨new ++ [newCommand now newId a payload expires], ?_, fun c hc => ?_⟩
      · simp [Fleet.enqueued, Fleet.updateDevice, hnew]
      rcases List.mem_append.mp hc with hc | hc
      · exact hcreated c hc
      obtain rfl := List.mem_singleton.mp hc
      exact ⟨a, ha, rfl, rfl⟩

/-- A device that no call switches on stays held off. -/
theorem heldOff (h : Enqueues P f g) {did : String}
    (hP : ∀ a, P a → a.cmdType ∈ powerOnTypes → a.deviceId ≠ did) (hheld : f.HeldOff did) :
    g.HeldOff did := by
  induction h with
  | refl => exact hheld
  | @call g now newId a r h ha hr ih =>
      obtain ⟨-, target, payload, expires, -, -, -, rfl⟩ := enqueueForDevice_eq_ok_iff.mp hr
      obtain ⟨d, hd, hoff⟩ := ih
      rw [Fleet.HeldOff, device_enqueued, hd]
      refine ⟨_, rfl, ?_⟩
      dsimp only
      split
      · next hdid =>
          have hoff' : a.cmdType ∉ powerOnTypes := fun hon => hP a ha hon hdid.symm
          simp [holdOffAfter, hoff, hoff']
      · exact hoff

end Enqueues

/-! ### The fan-out -/

/-- The arguments of `enqueue_for_group`. -/
structure GroupArgs where
  groupId : String
  cmdType : String
  payload : Json
  issuedByUserId : Option String
  ttlSeconds : Json
  overrideLockout : Bool

/-- The arguments of the same command for one device. -/
def GroupArgs.forDevice (a : GroupArgs) (did : String) : EnqueueArgs where
  deviceId := did
  cmdType := a.cmdType
  payload := a.payload
  issuedByUserId := a.issuedByUserId
  ttlSeconds := a.ttlSeconds
  groupId := some a.groupId
  overrideLockout := a.overrideLockout
  setHoldOff := false

/-- What a fan-out returns: the commands it created and the devices it skipped. -/
structure FanOut where
  created : List Command
  skipped : List String

/-- The loop of `enqueue_for_group` over the device ids. -/
def fanOut (now : Time) (newId : Nat → String) (a : GroupArgs) (payload : Json) (expires : Time) :
    Fleet → List String → Except CommandError (Fleet × FanOut)
  | f, [] => .ok (f, ⟨[], []⟩)
  | f, did :: dids =>
    match f.device did with
    | none => fanOut now newId a payload expires f dids
    | some target =>
      if a.cmdType ∈ powerTypes ∧ target.isProtected ∧ ¬a.overrideLockout then do
        let (f, r) ← fanOut now newId a payload expires f dids
        return (f, { r with skipped := did :: r.skipped })
      else if (f.command (newId f.commands.length)).isSome then throw .integrity
      else
        let cmd := newCommand now (newId f.commands.length) (a.forDevice did) payload expires
        do
          let (f, r) ← fanOut now newId a payload expires (f.enqueued (a.forDevice did) cmd) dids
          return (f, { r with created := cmd :: r.created })

/-- `enqueue_for_group`, at `now`; the `n`-th row of the table gets the id `newId n`. -/
def enqueueForGroup (f : Fleet) (memberships : List (String × String)) (now : Time)
    (newId : Nat → String) (a : GroupArgs) : Except CommandError (Fleet × FanOut) := do
  if a.cmdType ∉ allowedTypes then
    throw (.value ("unsupported command type: " ++ a.cmdType))
  let payload ← validatePayload a.cmdType a.payload
  let expires ← raising (expiry now a.ttlSeconds)
  fanOut now newId a payload expires f ((memberships.filter (·.1 = a.groupId)).map (·.2))

variable {now : Time} {newId : Nat → String} {a : GroupArgs} {payload : Json} {expires : Time}

/-- The loop makes the same steps as calls of `enqueue_for_device`. -/
theorem enqueues_fanOut (htype : a.cmdType ∈ allowedTypes)
    (hpayload : validatePayload a.cmdType a.payload = .ok payload)
    (hexpires : expiry now a.ttlSeconds = .ok expires) {f : Fleet} {dids : List String}
    {r : Fleet × FanOut} (h : fanOut now newId a payload expires f dids = .ok r) :
    Enqueues (fun b => b.overrideLockout = a.overrideLockout) f r.1 := by
  induction dids generalizing f r with
  | nil =>
      obtain rfl := Except.ok.inj h
      exact .refl f
  | cons did dids ih =>
      rw [fanOut] at h
      cases htarget : f.device did with
      | none =>
          rw [htarget] at h
          exact ih h
      | some target =>
          rw [htarget] at h
          dsimp only at h
          split at h
          · obtain ⟨⟨g, s⟩, hrest, hret⟩ := bind_eq_ok h
            obtain rfl := Except.ok.inj hret
            exact (ih hrest : Enqueues _ f g)
          · next hlock =>
              split at h
              · cases h
              · next hid =>
                  obtain ⟨⟨g, s⟩, hrest, hret⟩ := bind_eq_ok h
                  obtain rfl := Except.ok.inj hret
                  have hcall : enqueueForDevice f now (newId f.commands.length) (a.forDevice did)
                      = .ok _ := enqueueForDevice_eq_ok_iff.mpr
                    ⟨⟨htype, ⟨payload, hpayload⟩, ⟨expires, hexpires⟩, ⟨target, htarget, hlock⟩,
                      by simpa using hid⟩, target, payload, expires, htarget, hpayload, hexpires,
                      rfl⟩
                  have hone : Enqueues (fun b => b.overrideLockout = a.overrideLockout) f _ :=
                    .single rfl hcall
                  have hmore : Enqueues (fun b => b.overrideLockout = a.overrideLockout) _ g :=
                    ih hrest
                  exact hone.trans hmore

/-- A fan-out calls with the override of its own arguments. -/
theorem enqueues_enqueueForGroup {f : Fleet} {memberships : List (String × String)}
    {r : Fleet × FanOut} (h : enqueueForGroup f memberships now newId a = .ok r) :
    Enqueues (fun b => b.overrideLockout = a.overrideLockout) f r.1 := by
  rw [enqueueForGroup] at h
  by_cases htype : a.cmdType ∈ allowedTypes
  · rw [if_neg (not_not.mpr htype)] at h
    obtain ⟨payload, hpayload, h⟩ := bind_eq_ok h
    obtain ⟨expires, hexpires, h⟩ := bind_eq_ok h
    refine enqueues_fanOut htype hpayload ?_ h
    cases he : expiry now a.ttlSeconds with
    | ok e =>
        rw [he] at hexpires
        exact congrArg _ (Except.ok.inj hexpires)
    | error e =>
        rw [he] at hexpires
        cases hexpires
  · rw [if_pos htype] at h
    cases h

/-! ### One call for each member -/

/-- `enqueue_for_device` for each of the devices in turn.  The devices whose calls raise
`DeviceLockedError` are collected; a call that raises something else leaves no trace either. -/
def enqueueEach (now : Time) (newId : Nat → String) (a : GroupArgs) :
    Fleet → List String → Fleet × FanOut
  | f, [] => (f, ⟨[], []⟩)
  | f, did :: dids =>
    match enqueueForDevice f now (newId f.commands.length) (a.forDevice did) with
    | .ok (g, cmd, _) =>
      let (k, r) := enqueueEach now newId a g dids
      (k, { r with created := cmd :: r.created })
    | .error (.locked _) =>
      let (k, r) := enqueueEach now newId a f dids
      (k, { r with skipped := did :: r.skipped })
    | .error _ => enqueueEach now newId a f dids

/-- What `enqueue_for_group` leaves and returns; where it raises, the transaction is rolled
back. -/
def afterGroup (f : Fleet) (memberships : List (String × String)) (now : Time)
    (newId : Nat → String) (a : GroupArgs) : Fleet × FanOut :=
  match enqueueForGroup f memberships now newId a with
  | .ok r => r
  | .error _ => (f, ⟨[], []⟩)

/-- The ids of the rows to come are new. -/
structure FreshIds (newId : Nat → String) (f : Fleet) : Prop where
  injective : Function.Injective newId
  unused : ∀ n, f.commands.length ≤ n → f.command (newId n) = none

theorem FreshIds.enqueued {f : Fleet} (h : FreshIds newId f) (b : EnqueueArgs) (payload : Json)
    (expires : Time) :
    FreshIds newId (f.enqueued b (newCommand now (newId f.commands.length) b payload expires)) where
  injective := h.injective
  unused := by
    intro n hn
    have hlen : f.commands.length + 1 ≤ n := by
      simpa [Fleet.enqueued, Fleet.updateDevice] using hn
    have hne : newId f.commands.length ≠ newId n := fun heq =>
      absurd (h.injective heq) (by omega)
    have hold := h.unused n (by omega)
    simp only [Fleet.command, Fleet.enqueued, Fleet.updateDevice, List.find?_append] at hold ⊢
    rw [hold, Option.none_or]
    simpa [newCommand] using hne

/-- Where the arguments are refused, each call is, and not for a lock. -/
theorem enqueueEach_of_error {f : Fleet} {dids : List String}
    (h : ∀ id did, ∃ e, enqueueForDevice f now id (a.forDevice did) = .error e ∧
      ∀ did, e ≠ .locked did) : enqueueEach now newId a f dids = (f, ⟨[], []⟩) := by
  induction dids with
  | nil => rfl
  | cons did dids ih =>
      obtain ⟨e, he, hlock⟩ := h (newId f.commands.length) did
      rw [enqueueEach, he]
      cases e with
      | locked did => exact absurd rfl (hlock did)
      | _ => exact ih

/-- The call for one member, where the arguments are in order and the id is new. -/
theorem enqueueForDevice_forDevice (htype : a.cmdType ∈ allowedTypes)
    (hpayload : validatePayload a.cmdType a.payload = .ok payload)
    (hexpires : expiry now a.ttlSeconds = .ok expires) {f : Fleet} {id : String}
    (hid : f.command id = none) (did : String) :
    enqueueForDevice f now id (a.forDevice did) =
      match f.device did with
      | none => .error (.lookup did)
      | some target =>
        if a.cmdType ∈ powerTypes ∧ target.isProtected ∧ ¬a.overrideLockout then
          .error (.locked did)
        else
          let cmd := newCommand now id (a.forDevice did) payload expires
          .ok (f.enqueued (a.forDevice did) cmd, cmd, queuedEvent cmd target) := by
  simp only [enqueueForDevice, GroupArgs.forDevice, htype, hpayload, hexpires, hid, raising, bind,
    Except.bind, pure, Except.pure, not_true, if_false, Option.isSome_none, Bool.false_eq_true]
  cases f.device did with
  | none => rfl
  | some target => rfl

/-- The loop leaves what the calls leave. -/
theorem fanOut_eq_each (htype : a.cmdType ∈ allowedTypes)
    (hpayload : validatePayload a.cmdType a.payload = .ok payload)
    (hexpires : expiry now a.ttlSeconds = .ok expires) {f : Fleet} (hfresh : FreshIds newId f)
    (dids : List String) :
    fanOut now newId a payload expires f dids = .ok (enqueueEach now newId a f dids) := by
  induction dids generalizing f with
  | nil => rfl
  | cons did dids ih =>
      rw [fanOut, enqueueEach,
        enqueueForDevice_forDevice htype hpayload hexpires (hfresh.unused _ le_rfl)]
      cases htarget : f.device did with
      | none => exact ih hfresh
      | some target =>
          dsimp only
          split
          · rw [ih hfresh]
            rfl
          · rw [if_neg (by rw [hfresh.unused _ le_rfl]; nofun),
              ih (hfresh.enqueued (a.forDevice did) payload expires)]
            rfl

/-- **A fan-out is one call for each member.**  It leaves the same command rows and hold-off
flags, and returns the same commands and the same refused devices, as `enqueue_for_device` called
for each member in turn. -/
theorem enqueueForGroup_eq_each (f : Fleet) (memberships : List (String × String)) (now : Time)
    (newId : Nat → String) (a : GroupArgs) (hfresh : FreshIds newId f) :
    afterGroup f memberships now newId a =
      enqueueEach now newId a f ((memberships.filter (·.1 = a.groupId)).map (·.2)) := by
  have hrefused : ∀ e : CommandError, e.OfArguments →
      (∀ id did, enqueueForDevice f now id (a.forDevice did) = .error e) →
      ∀ dids, enqueueEach now newId a f dids = (f, ⟨[], []⟩) :=
    fun e he hcall _ => enqueueEach_of_error fun id did => ⟨e, hcall id did, he⟩
  rw [afterGroup, enqueueForGroup]
  by_cases htype : a.cmdType ∈ allowedTypes
  · rw [if_neg (not_not.mpr htype)]
    cases hpayload : validatePayload a.cmdType a.payload with
    | error e =>
        refine (hrefused e (failsWith_validatePayload _ _ e hpayload) (fun id did => ?_) _).symm
        simp only [enqueueForDevice, GroupArgs.forDevice, htype, hpayload, not_true, if_false, bind,
          Except.bind]
    | ok payload =>
        cases hexpires : expiry now a.ttlSeconds with
        | error e =>
            refine (hrefused (.python e) (fun did h => by cases h) (fun id did => ?_) _).symm
            simp only [enqueueForDevice, GroupArgs.forDevice, htype, hpayload, hexpires, raising,
              not_true, if_false, bind, Except.bind]
        | ok expires =>
            simp only [raising, bind, Except.bind,
              fanOut_eq_each htype hpayload hexpires hfresh]
  · rw [if_pos htype]
    have hunsupported : ∀ id did, enqueueForDevice f now id (a.forDevice did) =
        .error (.value ("unsupported command type: " ++ a.cmdType)) := by
      intro id did
      simp only [enqueueForDevice, GroupArgs.forDevice, htype, not_false_eq_true, if_true, bind,
        Except.bind, throw, throwThe, MonadExceptOf.throw]
    exact (hrefused (.value _) (fun did h => by cases h) hunsupported _).symm

/-- A group of a protected device, one that is held off, and one that is neither. -/
def threeDevices : Fleet where
  devices := [⟨"dev_1", none, none, true, false, none⟩, ⟨"dev_2", none, none, false, true, none⟩,
    ⟨"dev_3", none, none, false, false, none⟩]
  commands := []
  results := []

/-- Switches the group `grp_1` on. -/
def switchOn : GroupArgs where
  groupId := "grp_1"
  cmdType := "relay_on"
  payload := .null
  issuedByUserId := some "usr_1"
  ttlSeconds := .null
  overrideLockout := false

/-- The id of the `n`-th command. -/
def numberedId (n : Nat) : String := String.ofList (List.replicate n 'n')

theorem freshIds_threeDevices : FreshIds numberedId threeDevices where
  injective := by
    intro m n heq
    simpa [numberedId] using congrArg (fun s => s.toList.length) heq
  unused := fun _ _ => rfl

/-- The members of `grp_1`, switched on at once or one by one. -/
theorem enqueueForGroup_eq_each_threeDevices :
    afterGroup threeDevices [("grp_1", "dev_1"), ("grp_1", "dev_2"), ("grp_2", "dev_1"),
        ("grp_1", "dev_3")] 0 numberedId switchOn =
      enqueueEach 0 numberedId switchOn threeDevices ["dev_1", "dev_2", "dev_3"] :=
  enqueueForGroup_eq_each threeDevices _ 0 numberedId switchOn freshIds_threeDevices

end RebooterHub.Commands
