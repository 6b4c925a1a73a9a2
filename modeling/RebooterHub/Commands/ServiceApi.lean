import RebooterHub.Commands.EventBus
import RebooterHub.Commands.Queue

/-!
# Commands — ServiceApi

The endpoints an API token reaches: `services_enqueue`, `services_state_confirmed` and the
`events/commands` stream, with the token's verification.

A token belongs to an organization; a device does through its site.  The endpoints ask for a
token and its `write` scope, and compare no organization: `services_stay_in_org_iff` says which
requests nevertheless touch no device of another one, and what a stream has to be spared.
-/

namespace RebooterHub.Commands
open RebooterHub.Runs

/-! ### Tokens -/

/-- A row of `api_tokens`. -/
structure ApiToken where
  id : String
  name : String
  tokenHash : String
  scopes : List String
  siteId : Option String
  organizationId : Option String
  createdByUserId : Option String
  expiresAt : Option Time
  lastUsedAt : Option Time
  revoked : Bool

/-- The principal `verify` returns. -/
structure Principal where
  tokenId : String
  name : String
  scopes : List String
  siteId : Option String
  organizationId : Option String
  createdByUserId : Option String

/-- `str.strip`. -/
def strip (s : String) : String :=
  String.ofList ((s.toList.dropWhile Char.isWhitespace).reverse.dropWhile Char.isWhitespace).reverse

/-- `_presented_token`. -/
def presentedToken (authorization : String) : Option String :=
  if startsWith authorization "Bearer " then
    let candidate := strip (String.ofList (authorization.toList.drop 7))
    if startsWith candidate "rbt_" then some candidate else none
  else none

/-- `is_expired`. -/
def ApiToken.isExpired (t : ApiToken) (now : Time) : Bool :=
  match t.expiresAt with
  | none => false
  | some at_ => decide (at_ < now)

/-- The hub as the service endpoints see it. -/
structure Portal where
  tokens : List ApiToken
  /-- Each site's `organization_id`. -/
  sites : List (String × String)
  fleet : Fleet
  subscribers : List (Subscriber BusEvent)

/-- `verify`, with the hash it stores tokens under; `last_used_at` is stamped on success. -/
def verify (hash : String → String) (p : Portal) (now : Time) (presented : String) :
    Portal × Option Principal :=
  let presented := strip presented
  if !startsWith presented "rbt_" then (p, none)
  else match p.tokens.find? (·.tokenHash = hash presented) with
    | none => (p, none)
    | some row =>
      if row.revoked || row.isExpired now then (p, none)
      else
        ({ p with tokens := p.tokens.map fun t =>
            if t.id = row.id then { t with lastUsedAt := some now } else t },
          some ⟨row.id, row.name, row.scopes, row.siteId, row.organizationId,
            row.createdByUserId⟩)

/-- `resolve_api_token_principal`. -/
def resolveApiTokenPrincipal (hash : String → String) (p : Portal) (now : Time)
    (authorization : String) : Portal × Option Principal :=
  match presentedToken authorization with
  | none => (p, none)
  | some presented => verify hash p now presented

/-! ### Endpoints -/

/-- The text of an error. -/
inductive Message where
  | text (s : String)
  /-- `unsupported command type: …`, of a type that is no text. -/
  | unsupportedType (type : Json)
deriving DecidableEq, Repr

/-- The answer to a request. -/
inductive Response where
  | ok (status : Nat) (data : Json)
  | err (code : String) (message : Message) (status : Nat)
deriving DecidableEq, Repr

/-- The answer to an unhandled exception. -/
def internalError : Response := .err "internal_error" (.text "An internal error occurred.") 500

/-- The answer to an exception of `enqueue_for_device`. -/
def enqueueFailed : CommandError → Response
  | .lookup _ | .python .keyError => .err "device_unknown" (.text "Device not found.") 404
  | .locked d => .err "device_locked"
      (.text ("device " ++ d ++ " is protected; override_lockout=True required")) 409
  | .value m => .err "validation_failed" (.text m) 400
  | .python .valueError => .err "validation_failed" (.text "") 400
  | .python _ | .integrity => internalError

/-- The arguments the body of an enqueue request stands for. -/
def enqueueArgs (deviceId : String) (body : Option Json) : Except Response EnqueueArgs :=
  match (body.getD .null).orEmpty with
  | .obj ms =>
    let field k := (ms.lookup k).getD .null
    let type := field "type"
    if !type.truthy then .error (.err "validation_failed" (.text "type is required.") 400)
    else match type with
      | .str t => .ok
          { deviceId
            cmdType := t
            payload := (field "payload").orEmpty
            issuedByUserId := none
            ttlSeconds := field "ttl_seconds"
            groupId := none
            overrideLockout := (field "override_lockout").truthy
            setHoldOff := false }
      -- a list or an object cannot be looked up in a set
      | .arr _ | .obj _ => .error internalError
      | t => .error (.err "validation_failed" (.unsupportedType t) 400)
  | _ => .error internalError

/-- The check both service endpoints make of the caller. -/
def authorizeWrite (principal : Option Principal) : Option Response :=
  match principal with
  | none => some (.err "auth_required" (.text "Authentication required.") 401)
  | some q =>
    if "write" ∈ q.scopes then none
    else some (.err "forbidden" (.text "Token lacks write scope.") 403)

/-- `services_enqueue`. -/
def servicesEnqueue (hash : String → String) (p : Portal) (now : Time) (newId : String)
    (authorization deviceId : String) (body : Option Json) : Portal × Response :=
  let (p, principal) := resolveApiTokenPrincipal hash p now authorization
  match authorizeWrite principal with
  | some r => (p, r)
  | none => match enqueueArgs deviceId body with
    | .error r => (p, r)
    | .ok args => match enqueueForDevice p.fleet now newId args with
      | .error e => (p, enqueueFailed e)
      | .ok (fleet, cmd, ev) =>
        ({ p with fleet, subscribers := publish p.subscribers ev },
          .ok 201 (.obj [("command_id", .str cmd.id), ("type", .str cmd.type),
            ("status", .str "pending")]))

/-- The relay state and command id the body of a confirmation names. -/
def confirmedRelay (body : Option Json) : Except Response (Bool × Json) :=
  let body := (body.getD .null).orEmpty
  match body.contains "relay_on" with
  | .error _ => .error internalError
  | .ok false => .error (.err "validation_failed" (.text "relay_on is required.") 400)
  | .ok true => match body.item "relay_on", body.get "command_id" with
    | .ok relayOn, .ok commandId => .ok (relayOn.truthy, commandId)
    | _, _ => .error internalError

/-- `services_state_confirmed`. -/
def servicesStateConfirmed (hash : String → String) (p : Portal) (now : Time)
    (authorization deviceId : String) (body : Option Json) : Portal × Response :=
  let (p, principal) := resolveApiTokenPrincipal hash p now authorization
  match authorizeWrite principal with
  | some r => (p, r)
  | none => match confirmedRelay body with
    | .error r => (p, r)
    | .ok (relayOn, commandId) => match p.fleet.device deviceId with
      | none => (p, .err "device_unknown" (.text "Device not found.") 404)
      | some d =>
        ({ p with
            fleet := p.fleet.updateDevice deviceId fun d =>
              { d with lastKnownRelayOn := some relayOn }
            subscribers := publish p.subscribers
              (.deviceStateChanged deviceId d.localIp relayOn commandId now) },
          .ok 200 (.obj [("device_id", .str deviceId), ("relay_on", .bool relayOn),
            ("source", .str "agent_ack")]))

/-- `events_commands_stream`, for a caller without a session. -/
def eventsCommandsStream (hash : String → String) (p : Portal) (now : Time)
    (authorization : String) : Portal × Option (Subscriber BusEvent) :=
  let (p, principal) := resolveApiTokenPrincipal hash p now authorization
  match principal with
  | none => (p, none)
  | some _ => ({ p with subscribers := p.subscribers ++ [subscribe] }, some subscribe)

/-! ### Organizations -/

/-- The organization a device belongs to, through its site. -/
def Portal.orgOf (p : Portal) (d : Device) : Option String := d.siteId.bind (p.sites.lookup ·)

/-- The device belongs to an organization other than `org`. -/
def Portal.Foreign (p : Portal) (org deviceId : String) : Prop :=
  ∃ d other, p.fleet.device deviceId = some d ∧ p.orgOf d = some other ∧ other ≠ org

/-- From `p` to `p'` no command was created for, and no column changed on, a device of another
organization. -/
structure Portal.StaysIn (p p' : Portal) (org : String) : Prop where
  commands : ∀ c ∈ p'.fleet.commands, c ∈ p.fleet.commands ∨ ¬ p.Foreign org c.deviceId
  devices : ∀ id, p.Foreign org id → p'.fleet.device id = p.fleet.device id

/-- The device an event is about. -/
def BusEvent.deviceId : BusEvent → String
  | .commandQueued _ d .. => d
  | .deviceStateChanged d .. => d

theorem verify_fleet (hash : String → String) (p : Portal) (now : Time) (presented : String) :
    (verify hash p now presented).1.fleet = p.fleet := by
  unfold verify
  dsimp only
  split
  · rfl
  · split
    · rfl
    · split <;> rfl

/-- Resolving a token leaves the fleet alone. -/
theorem resolve_fleet (hash : String → String) (p : Portal) (now : Time)
    (authorization : String) :
    (resolveApiTokenPrincipal hash p now authorization).1.fleet = p.fleet := by
  unfold resolveApiTokenPrincipal
  split
  · rfl
  · exact verify_fleet hash p now _

theorem authorizeWrite_eq_none_iff {principal : Principal} :
    authorizeWrite (some principal) = none ↔ "write" ∈ principal.scopes := by
  simp [authorizeWrite]

/-- A portal with the same fleet stays within every organization. -/
theorem Portal.staysIn_of_fleet {p p' : Portal} (h : p'.fleet = p.fleet) (org : String) :
    p.StaysIn p' org :=
  ⟨fun c hc => .inl (h ▸ hc), fun id _ => by rw [h]⟩

/-- Enqueueing for a device stays within an organization unless the device is foreign to it. -/
theorem staysIn_enqueue_iff {p p' : Portal} {org : String} {now : Time} {newId : String}
    {a : EnqueueArgs} {cmd : Command} {ev : BusEvent}
    (h : enqueueForDevice p.fleet now newId a = .ok (p'.fleet, cmd, ev)) :
    p.StaysIn p' org ↔ ¬ p.Foreign org a.deviceId := by
  obtain ⟨hok, target, payload, expires, -, -, -, hr⟩ := enqueueForDevice_eq_ok_iff.mp h
  have hfleet : p'.fleet = p.fleet.enqueued a (newCommand now newId a payload expires) :=
    congrArg Prod.fst hr
  constructor
  · intro hs hf
    have hmem : newCommand now newId a payload expires ∈ p'.fleet.commands := by
      rw [hfleet]
      exact List.mem_append_right _ (List.mem_singleton_self _)
    rcases hs.commands _ hmem with hold | hown
    · have := List.find?_eq_none.mp hok.fresh _ hold
      simp [newCommand] at this
    · exact hown hf
  · intro hown
    refine ⟨fun c hc => ?_, fun id hid => ?_⟩
    · rw [hfleet] at hc
      rcases List.mem_append.mp hc with hold | hnew
      · exact .inl hold
      · rw [List.mem_singleton.mp hnew]
        exact .inr hown
    · have hne : id ≠ a.deviceId := fun h => hown (h ▸ hid)
      have hget := p.fleet.device_updateDevice id a.deviceId
        (fun d => { d with isHeldOff := holdOffAfter a.cmdType a.setHoldOff d.isHeldOff })
        fun _ => rfl
      simp only [hne, if_false, Option.map_id'] at hget
      rw [hfleet]
      exact hget

/-- Confirming a relay state stays within an organization unless it changes a foreign device. -/
theorem staysIn_confirm_iff {p p' : Portal} {org deviceId : String} (relayOn : Bool)
    (hdev : p'.fleet = p.fleet.updateDevice deviceId fun d =>
      { d with lastKnownRelayOn := some relayOn }) :
    p.StaysIn p' org ↔ ¬(p.Foreign org deviceId ∧
      ∃ d, p.fleet.device deviceId = some d ∧ d.lastKnownRelayOn ≠ some relayOn) := by
  have hget : ∀ id, p'.fleet.device id = (p.fleet.device id).map fun d =>
      if id = deviceId then { d with lastKnownRelayOn := some relayOn } else d := by
    intro id
    rw [hdev]
    exact p.fleet.device_updateDevice id deviceId _ fun _ => rfl
  constructor
  · rintro hs ⟨hf, d, hd, hne⟩
    have := hs.devices deviceId hf
    rw [hget, hd] at this
    simp only [if_true, Option.map_some, Option.some.injEq] at this
    exact hne (congrArg Device.lastKnownRelayOn this).symm
  · intro hno
    refine ⟨fun c hc => .inl (by rw [hdev] at hc; exact hc), fun id hid => ?_⟩
    rw [hget]
    by_cases heq : id = deviceId
    · subst heq
      obtain ⟨d, other, hd, hother⟩ := hid
      have hlast : d.lastKnownRelayOn = some relayOn := by
        by_contra hne
        exact hno ⟨⟨d, other, hd, hother⟩, d, hd, hne⟩
      rw [hd]
      simp [← hlast]
    · simp [heq]

theorem enqueueArgs_deviceId {deviceId : String} {body : Option Json} {args : EnqueueArgs}
    (h : enqueueArgs deviceId body = .ok args) : args.deviceId = deviceId := by
  unfold enqueueArgs at h
  split at h
  · dsimp only at h
    split at h
    · cases h
    · split at h <;> cases h
      rfl
  · cases h

/-- **What the service endpoints touch.**  A token of organization `org` creates a command for a
foreign device exactly when its enqueue request is otherwise acceptable, changes one exactly when
it confirms a new relay state, and its stream delivers every event published while it has room,
whichever organization the event's device belongs to. -/
theorem services_stay_in_org_iff (hash : String → String) (p : Portal) (now : Time)
    (authorization org : String) (principal : Principal)
    (hp : (resolveApiTokenPrincipal hash p now authorization).2 = some principal)
    (_ho : principal.organizationId = some org) :
    (∀ newId deviceId body,
      p.StaysIn (servicesEnqueue hash p now newId authorization deviceId body).1 org ↔
        ¬("write" ∈ principal.scopes ∧ p.Foreign org deviceId ∧
          ∃ args, enqueueArgs deviceId body = .ok args ∧
            Enqueueable p.fleet now newId args)) ∧
    (∀ deviceId body,
      p.StaysIn (servicesStateConfirmed hash p now authorization deviceId body).1 org ↔
        ¬("write" ∈ principal.scopes ∧ p.Foreign org deviceId ∧
          ∃ relayOn commandId, confirmedRelay body = .ok (relayOn, commandId) ∧
            ∃ d, p.fleet.device deviceId = some d ∧ d.lastKnownRelayOn ≠ some relayOn)) ∧
    (eventsCommandsStream hash p now authorization).2 = some subscribe ∧
    (∀ steps : List (StreamStep (Portal × BusEvent)),
      (∀ x ∈ emitted Subscriber.step Subscriber.delivers subscribe steps
          ++ (run Subscriber.step subscribe steps).queue,
        ¬ x.1.Foreign org x.2.deviceId) ↔
      (∀ x ∈ emitted Subscriber.step Subscriber.queues subscribe steps,
        ¬ x.1.Foreign org x.2.deviceId)) := by
  obtain ⟨p₁, hres⟩ : ∃ p₁, resolveApiTokenPrincipal hash p now authorization
      = (p₁, some principal) := ⟨_, Prod.ext rfl hp⟩
  have hfleet : p₁.fleet = p.fleet := by
    rw [← resolve_fleet hash p now authorization, hres]
  refine ⟨fun newId deviceId body => ?_, fun deviceId body => ?_, ?_, fun steps => ?_⟩
  · simp only [servicesEnqueue, hres]
    by_cases hw : "write" ∈ principal.scopes
    · rw [authorizeWrite_eq_none_iff.mpr hw]
      simp only [hw, true_and]
      cases hargs : enqueueArgs deviceId body with
      | error r => simp [Portal.staysIn_of_fleet hfleet]
      | ok args =>
          have hdev : args.deviceId = deviceId := enqueueArgs_deviceId hargs
          simp only [hfleet, Except.ok.injEq, exists_eq_left']
          cases henq : enqueueForDevice p.fleet now newId args with
          | error e =>
              have hno : ¬ Enqueueable p.fleet now newId args := by
                intro h
                obtain ⟨r, hr⟩ := enqueueForDevice_isOk_iff.mpr h
                rw [henq] at hr
                cases hr
              simp [Portal.staysIn_of_fleet hfleet, hno]
          | ok r =>
              obtain ⟨fleet, cmd, ev⟩ := r
              have hyes := enqueueForDevice_isOk_iff.mp ⟨_, henq⟩
              simp only [hyes, and_true]
              rw [← hdev]
              exact staysIn_enqueue_iff henq
    · obtain ⟨r, hr⟩ : ∃ r, authorizeWrite (some principal) = some r :=
        Option.ne_none_iff_exists'.mp fun h => hw (authorizeWrite_eq_none_iff.mp h)
      simp [hr, hw, Portal.staysIn_of_fleet hfleet]
  · simp only [servicesStateConfirmed, hres]
    by_cases hw : "write" ∈ principal.scopes
    · rw [authorizeWrite_eq_none_iff.mpr hw]
      simp only [hw, true_and]
      cases hbody : confirmedRelay body with
      | error r => simp [Portal.staysIn_of_fleet hfleet]
      | ok r =>
          obtain ⟨relayOn, commandId⟩ := r
          simp only [hfleet]
          cases hd : p.fleet.device deviceId with
          | none => simp [Portal.staysIn_of_fleet hfleet, Portal.Foreign, hd]
          | some d =>
              rw [staysIn_confirm_iff relayOn rfl, hd]
              simp
    · obtain ⟨r, hr⟩ : ∃ r, authorizeWrite (some principal) = some r :=
        Option.ne_none_iff_exists'.mp fun h => hw (authorizeWrite_eq_none_iff.mp h)
      simp [hr, hw, Portal.staysIn_of_fleet hfleet]
  · simp only [eventsCommandsStream, hres]
  · rw [Subscriber.delivered_append_queue]
    simp [subscribe]

/-- A fleet with one device, of `org-b`, and a token of `org-a`. -/
def twoOrgs : Portal where
  tokens := [
    { id := "apt-1"
      name := "relay agent"
      tokenHash := "rbt_a"
      scopes := ["read", "write"]
      siteId := none
      organizationId := some "org-a"
      createdByUserId := none
      expiresAt := none
      lastUsedAt := none
      revoked := false }]
  sites := [("site-b", "org-b")]
  fleet := ⟨[⟨"dev-b", some "site-b", some "192.168.1.9", false, false, none⟩], [], []⟩
  subscribers := []

/-- The principal of its token. -/
def agentOfOrgA : Principal :=
  ⟨"apt-1", "relay agent", ["read", "write"], none, some "org-a", none⟩

theorem services_stay_in_org_at_missing_device :
    twoOrgs.StaysIn (servicesEnqueue id twoOrgs 0 "cmd-1" "Bearer rbt_a" "dev-x"
      (some (.obj [("type", .str "relay_off")]))).1 "org-a" := by
  have hp : (resolveApiTokenPrincipal id twoOrgs 0 "Bearer rbt_a").2 = some agentOfOrgA := rfl
  refine ((services_stay_in_org_iff id twoOrgs 0 "Bearer rbt_a" "org-a" agentOfOrgA hp rfl).1
    "cmd-1" "dev-x" _).mpr ?_
  rintro ⟨-, ⟨d, other, hd, -⟩, -⟩
  cases hd

/-- A token of one organization switches a relay of another off. -/
theorem service_token_leaves_org :
    ¬ ∀ (hash : String → String) (p : Portal) (now : Time) (authorization org : String)
      (principal : Principal) (newId deviceId : String) (body : Option Json),
      (resolveApiTokenPrincipal hash p now authorization).2 = some principal →
      principal.organizationId = some org →
      p.StaysIn (servicesEnqueue hash p now newId authorization deviceId body).1 org := by
  intro h
  have hs := h id twoOrgs 0 "Bearer rbt_a" "org-a" agentOfOrgA "cmd-1" "dev-b"
    (some (.obj [("type", .str "relay_off")])) rfl rfl
  have hcmd : (servicesEnqueue id twoOrgs 0 "cmd-1" "Bearer rbt_a" "dev-b"
      (some (.obj [("type", .str "relay_off")]))).1.fleet.commands.map Command.deviceId
      = ["dev-b"] := by decide
  obtain ⟨c, hc, hdev⟩ : ∃ c ∈ (servicesEnqueue id twoOrgs 0 "cmd-1" "Bearer rbt_a" "dev-b"
      (some (.obj [("type", .str "relay_off")]))).1.fleet.commands, c.deviceId = "dev-b" :=
    List.mem_map.mp (hcmd ▸ List.mem_singleton_self _)
  rcases hs.commands c hc with hold | hown
  · cases hold
  · rw [hdev] at hown
    exact hown ⟨_, "org-b", rfl, rfl, by decide⟩

end RebooterHub.Commands
