import RebooterHub.Sync.Outbox
import RebooterHub.Sync.Tables

/-!
# Sync — Applier

`apply_outbox_event`: what a hub does with one event of a peer.  It runs in a transaction of its
own; an error rolls that back, and the event has changed nothing.
-/

namespace RebooterHub.Sync

/-- What the application of an event reads beside the event and the tables. -/
structure ApplyEnv where
  now : Time
  /-- The next `new_id` of the event's model, for a payload whose `id` is `None`. -/
  newId : String
  /-- The next `new_id("site")`. -/
  newSiteId : String

/-- `event_org_id`. -/
def eventOrgId (e : OutboxEvent) : Option String :=
  match (e.scopeClaims.getD []).lookup "organization_id" with
  | some (.str org) => if org = "" then none else some org
  | _ => none

/-- The row an insert stores: a column without a value, or with `None` for one (JSON apart), takes
its default. -/
def insertedRow (m : Model) (now : Time) (newId : String) (incoming : Payload) : Row := fun c =>
  if c ∉ m.columns then .null
  else
    let default := if c = .id then .text newId else m.default now c
    match incoming c with
    | none => default
    | some v => if v = .null ∧ c.isJson = false then default else v

/-- `session.add` of a new object, and its flush. -/
def Hub.insert (h : Hub) (scope : Scope) (m : Model) (now : Time) (newId : String)
    (incoming : Payload) : Except SyncError Hub :=
  let row := insertedRow m now newId incoming
  match row .id with
  | .text id => h.flushInsert scope m id row
  | _ => .error .integrity

/-- The columns of an object are set, its primary key apart. -/
def updatedRow (row : Row) (incoming : Payload) : Row := fun c =>
  if c = .id then row c else (incoming c).getD (row c)

/-- `resolve_default_org_id`. -/
def resolveDefaultOrgId (h : Hub) : Option String :=
  match h.organizations.find? (·.slug = "default") with
  | some org => some org.id
  | none => match h.organizations with
    | [org] => some org.id
    | _ => none

/-- `DEFAULT_SITE_NAME`. -/
def defaultSiteName : String := "Default"

/-- `resolve_default_site_id`. -/
def resolveDefaultSiteId (env : ApplyEnv) (h : Hub) (scope : Scope) :
    Except SyncError (Hub × String) :=
  match (h.select scope .site fun row => row .name = .text defaultSiteName).head? with
  | some site => .ok (h, site.1)
  | none => match h.select scope .site fun _ => true with
    | [site] => .ok (h, site.1)
    | _ => match resolveDefaultOrgId h with
      | none => .error (.runtime ("resolve_default_site_id: cannot create the Default site — no " ++
          "organization exists to own it. The default-organization " ++
          "backfill should have run at startup."))
      | some org =>
        let site : Payload := fun
          | .name => some (.text defaultSiteName)
          | .organizationId => some (.text org)
          | _ => none
        (h.insert scope .site env.now env.newSiteId site).map fun h => (h, env.newSiteId)

/-- The members of a payload that are columns of the model, their datetimes parsed. -/
def columnsOf (m : Model) (payload : Payload) : Payload := fun c =>
  if c ∉ m.columns then none
  else (payload c).map fun v => if c.isDateTime then v.coerceDatetime else v

/-- A tenant-scoped payload is pinned to the organization of the event's claim. -/
def pinOrganization (scope : Scope) (m : Model) (incoming : Payload) : Payload :=
  match scope with
  | .system => incoming
  | .org org =>
    if m.tenantScoped then Function.update incoming .organizationId (some (.text org)) else incoming

/-- An unknown site is replaced by the default one. -/
def remapSite (env : ApplyEnv) (h : Hub) (scope : Scope) (m : Model) (incoming : Payload) :
    Except SyncError (Hub × Payload) :=
  if (m = .device ∨ m = .group) ∧ ((incoming .siteId).getD .null).truthy then
    match (match incoming .siteId with
      | some (.text site) => h.get scope .site site
      | _ => none) with
    | some _ => .ok (h, incoming)
    | none => (resolveDefaultSiteId env h scope).map fun (h, site) =>
        (h, Function.update incoming .siteId (some (.text site)))
  else .ok (h, incoming)

/-- `incoming_updated`. -/
def incomingUpdated (e : OutboxEvent) : Except PyError (Option Time) :=
  let updated := ((e.payload .updatedAt).getD .null).coerceDatetime
  (if updated.truthy then updated else e.at_.coerceDatetime).asUtc

/-- The natural key of an incoming row, where it has one. -/
def incomingKey (m : Model) (incoming : Payload) : Option (Column × Value) :=
  match m.naturalKey with
  | none => none
  | some c => match incoming c with
    | none | some .null => none
    | some v => some (c, v)

/-- The rows an incoming natural key matches. -/
def naturalMatches (h : Hub) (scope : Scope) (m : Model) (incoming : Payload) :
    List (String × Row) :=
  match incomingKey m incoming with
  | none => []
  | some (c, v) => h.select scope m fun row => row c = v

/-- The row an event is about: the one under its id, else one its natural key matches. -/
def findExisting (h : Hub) (scope : Scope) (m : Model) (entityId : String) (incoming : Payload) :
    Option (String × Row) :=
  match h.get scope m entityId with
  | some row => some (entityId, row)
  | none => (naturalMatches h scope m incoming).head?

/-- `incoming.setdefault("id", entity_id)`. -/
def withId (entityId : String) (incoming : Payload) : Payload :=
  if (incoming .id).isSome then incoming
  else Function.update incoming .id (some (.text entityId))

/-- Last writer wins: an incoming write that is not strictly newer is stale. -/
def isStale : Option Time → Option Time → Bool
  | some incoming, some existing => incoming ≤ existing
  | _, _ => false

/-- `_apply_outbox_event` on a create or update event. -/
def applyUpsert (env : ApplyEnv) (h : Hub) (scope : Scope) (m : Model) (e : OutboxEvent) :
    Except SyncError (Hub × Bool) :=
  let incoming := columnsOf m e.payload
  if m.columns.all fun c => (incoming c).isNone then .ok (h, false)
  else match remapSite env h scope m (pinOrganization scope m incoming) with
    | .error x => .error x
    | .ok (h, incoming) => match incomingUpdated e with
      | .error x => .error (.python x)
      | .ok updated => match findExisting h scope m e.entityId incoming with
        | none => (h.insert scope m env.now env.newId (withId e.entityId incoming)).map
            fun h => (h, true)
        | some (id, row) => match (row .updatedAt).asUtc with
          | .error x => .error (.python x)
          | .ok existing =>
            if isStale updated existing then .ok (h, false)
            else (h.flushRow scope m id (updatedRow row incoming)).map fun h => (h, true)

/-- `_apply_outbox_event` on a delete event. -/
def applyDelete (env : ApplyEnv) (h : Hub) (scope : Scope) (m : Model) (e : OutboxEvent)
    (target : String) : Except SyncError (Hub × Bool) :=
  let h := h.addTombstone env.now target e.entityType e.seq
  match h.get scope m target with
  | none => .ok (h, true)
  | some _ => (h.flushDelete m target).map fun h => (h, true)

/-- The entity a delete event names; an empty text is none. -/
def deletes (e : OutboxEvent) : Option String :=
  e.tombstoneFor.filter (· ≠ "")

/-- `_apply_outbox_event`. -/
def applyScoped (env : ApplyEnv) (h : Hub) (scope : Scope) (e : OutboxEvent) :
    Except SyncError (Hub × Bool) :=
  if h.isTombstoned e.entityId then .ok (h, false)
  else match Model.ofText e.entityType with
    | none => .ok (h, false)
    | some m => match deletes e with
      | some target => applyDelete env h scope m e target
      | none => applyUpsert env h scope m e

/-- The scope an event is applied in: that of its claim, whose organization has to exist. -/
def eventScope (h : Hub) (e : OutboxEvent) : Except SyncError Scope :=
  match eventOrgId e with
  | none => .ok .system
  | some org =>
    if h.organizations.any (·.id = org) then .ok (.org org) else .error (.unknownOrg org)

/-- `apply_outbox_event`. -/
def applyOutboxEvent (env : ApplyEnv) (h : Hub) (e : OutboxEvent) : Except SyncError (Hub × Bool) :=
  match eventScope h e with
  | .error x => .error x
  | .ok scope => applyScoped env h scope e

/-- The hub after an event: an error rolls the transaction back. -/
def applied (env : ApplyEnv) (h : Hub) (e : OutboxEvent) : Hub :=
  match applyOutboxEvent env h e with
  | .ok (h', _) => h'
  | .error _ => h

end RebooterHub.Sync
