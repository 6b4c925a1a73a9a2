import RebooterHub.Sync.Applier

/-!
# Sync — Emission

The hub's own writes to the syncable models, with the outbox rows the mapper hooks
(`sync_emission`) add to each in the same transaction.

The service functions reach the tables through three operations of the session, inserting,
changing and deleting an object; `LocalOp` is one of them with its arguments.
-/

namespace RebooterHub.Sync

/-- `entity_to_dict`. -/
def entityToDict (m : Model) (row : Row) : Payload := fun c =>
  if c ∈ m.columns then some (row c) else none

/-- `_scope_claims_for`. -/
def scopeClaimsFor (h : Hub) (m : Model) (payload : Payload) : Option (List (String × Json)) :=
  let org : Value := match m with
    | .site => (payload .organizationId).getD .null
    | .device | .group => match payload .siteId with
      | some (.text site) =>
        if site = "" then .null else ((h.row .site site).map (· .organizationId)).getD .null
      | _ => .null
    | .user => .null
  match org with
  | .json org => if org.truthy then some [("organization_id", org)] else none
  | .datetime _ => none

/-- `_emit`; the outbox gives the row its number. -/
def emit (h : Hub) (now : Time) (m : Model) (entityId verb : String) (payload : Payload)
    (tombstoneFor : Option String) : OutboxEvent where
  seq := 0
  at_ := .datetime now
  eventType := m.text ++ "." ++ verb
  entityType := m.text
  entityId
  payload
  scopeClaims := scopeClaimsFor h m payload
  tombstoneFor

/-- `_after_insert`. -/
def afterInsert (h : Hub) (now : Time) (m : Model) (id : String) (row : Row) : List OutboxEvent :=
  [emit h now m id "created" (entityToDict m row) none]

/-- A column whose change is emitted has changed. -/
def EmittedChange (m : Model) (row row' : Row) : Prop :=
  ∃ c ∈ m.columns, c ∉ m.nonEmittingColumns ∧ row' c ≠ row c

instance (m : Model) (row row' : Row) : Decidable (EmittedChange m row row') :=
  inferInstanceAs (Decidable (∃ c ∈ m.columns, _))

/-- `_after_update`. -/
def afterUpdate (h : Hub) (now : Time) (m : Model) (id : String) (row row' : Row) :
    List OutboxEvent :=
  if EmittedChange m row row' then [emit h now m id "updated" (entityToDict m row') none] else []

/-- `_after_delete`. -/
def afterDelete (h : Hub) (now : Time) (m : Model) (id : String) : List OutboxEvent :=
  [emit h now m id "deleted" (fun _ => none) (some id)]

/-- The devices a device powers: the session sets their `power_source_device_id` to `NULL` before
it deletes the device. -/
def poweredDevices (h : Hub) (m : Model) (id : String) : List (String × Row) :=
  if m = .device then
    (h.table .device).entries.filter fun e => e.1 ≠ id ∧ e.2 .powerSourceDeviceId = .text id
  else []

/-- An operation on one object. -/
inductive LocalOp where
  /-- The constructor's arguments; no service passes an `id`. -/
  | create (m : Model) (values : Payload)
  | update (m : Model) (id : String) (changes : Payload)
  | delete (m : Model) (id : String)

/-- What a local operation reads besides. -/
structure LocalEnv where
  now : Time
  /-- The next `new_id` of the model. -/
  newId : String

/-- The operation in a transaction of its own: the hub after it, and the outbox rows it adds.  A
row the session does not find is left to the caller. -/
def LocalOp.perform (env : LocalEnv) (scope : Scope) (h : Hub) :
    LocalOp → Except SyncError (Hub × List OutboxEvent)
  | .create m values =>
    (h.insert scope m env.now env.newId (Function.update values .id none)).map fun h' =>
      (h', match h'.row m env.newId with
        | some row => afterInsert h' env.now m env.newId row
        | none => [])
  | .update m id changes => match h.get scope m id with
    | none => .ok (h, [])
    | some row => (h.flushRow scope m id (updatedRow row changes)).map fun h' =>
        (h', match h'.row m id with
          | some row' => afterUpdate h' env.now m id row row'
          | none => [])
  | .delete m id => match h.get scope m id with
    | none => .ok (h, [])
    | some _ => (h.flushDelete m id).map fun h' =>
        (h', ((poweredDevices h m id).flatMap fun e =>
            afterUpdate h env.now .device e.1 e.2 (Model.device.clear m id e.2))
          ++ afterDelete h' env.now m id)

end RebooterHub.Sync
