import RebooterHub.Data.Json
import RebooterHub.Data.Time
import RebooterHub.Support.Rows
import RebooterHub.Tenancy.Scope

/-!
# Tenancy — Notifications

`notifications.emit`: the deliveries an event puts on the queue, one for each enabled subscription
with an enabled channel.

Subscriptions and channels are read under the scope of the caller, and nothing else ties them to the
organization the event is about.

* `emit_confined_iff`: no delivery goes to another organization's channel, and the deliveries of an
  organization do not depend on what others hold, exactly when the caller's scope filters to that
  organization (or the event is unknown).
* `watchdog_emits_across`: the scheduler's jobs run without a filter.
-/

namespace RebooterHub.Tenancy
open RebooterHub.Rows

/-- `EVENT_TYPES`. -/
def eventTypes : List String :=
  ["watchdog.rule_fired", "watchdog.rule_escalated", "device.went_offline", "device.recovered",
    "device.failsafe", "firmware.deployment_completed"]

/-- The columns of a `webhook_channels` row that `emit` reads. -/
structure WebhookChannel where
  id : String
  organizationId : Option String
  enabled : Bool
deriving DecidableEq, Repr

/-- A row of `notification_subscriptions`. -/
structure NotificationSubscription where
  id : String
  organizationId : Option String
  eventType : String
  channelId : String
  siteId : Option String
  enabled : Bool
deriving DecidableEq, Repr

/-- `DELIVERY_STATUSES`. -/
inductive DeliveryStatus where
  | pending
  | sent
  | failed
  | dead
deriving DecidableEq, Repr

/-- A row of `webhook_deliveries`. -/
structure WebhookDelivery where
  channelId : String
  eventType : String
  payload : Json
  status : DeliveryStatus
  attempts : Nat
  nextAttemptAt : Option Time
  organizationId : Option String
deriving DecidableEq, Repr

/-- The channels, with their primary key, and the subscriptions of a hub. -/
structure Wiring where
  channels : List WebhookChannel
  subscriptions : List NotificationSubscription
  keyed : Keyed WebhookChannel.id channels

/-- What a caller of `emit` passes, and the clock. -/
structure Event where
  eventType : String
  payload : Json
  siteId : Option String
  now : Time
deriving DecidableEq, Repr

/-- `sub.site_id and site_id and sub.site_id != site_id`. -/
def NotificationSubscription.skips (sub : NotificationSubscription) (siteId : Option String) : Bool :=
  match sub.siteId.filter (· ≠ ""), siteId.filter (· ≠ "") with
  | some own, some given => own ≠ given
  | _, _ => false

/-- The enabled subscriptions to an event that a scope shows. -/
def Wiring.subscribed (w : Wiring) (s : Scope) (eventType : String) : List NotificationSubscription :=
  (w.subscriptions.filter fun sub => s.sees sub.organizationId).filter fun sub =>
    sub.eventType = eventType && sub.enabled

/-- `session.get(WebhookChannel, channel_id)`. -/
def Wiring.channel (w : Wiring) (s : Scope) (channelId : String) : Option WebhookChannel :=
  (w.channels.filter fun c => s.sees c.organizationId).find? (·.id = channelId)

/-- `_queue_for_channel`. -/
def queueForChannel (channel : WebhookChannel) (e : Event) : WebhookDelivery :=
  ⟨channel.id, e.eventType, e.payload.orEmpty, .pending, 0, some e.now, channel.organizationId⟩

/-- The turn of one subscription: its channel, unless it is for another site or off. -/
def Wiring.target (w : Wiring) (s : Scope) (siteId : Option String)
    (sub : NotificationSubscription) : Option WebhookChannel :=
  if sub.skips siteId then none else (w.channel s sub.channelId).filter (·.enabled)

/-- The channels an event is queued for. -/
def Wiring.targets (w : Wiring) (s : Scope) (e : Event) : List WebhookChannel :=
  (w.subscribed s e.eventType).filterMap (w.target s e.siteId)

/-- `emit`: the deliveries it adds to the queue.  A transaction that fails adds none. -/
def Wiring.emit (w : Wiring) (s : Scope) (commits : Bool) (e : Event) : List WebhookDelivery :=
  if e.eventType ∈ eventTypes ∧ commits then (w.targets s e).map (queueForChannel · e) else []

/-! ### Callers -/

/-- The columns of a rule that its notifications read. -/
structure FiredRule where
  id : String
  name : String
  siteId : Option String
  escalation : Json
deriving DecidableEq, Repr

/-- `(rule.escalation or {}).get(key)`. -/
def FiredRule.escalationItem (rule : FiredRule) (key : String) : Json :=
  match rule.escalation.orEmpty.get key with
  | .ok v => v
  | .error _ => .null

/-- The event of a rule that fired. -/
def FiredRule.firedEvent (rule : FiredRule) (details : Json) (now : Time) : Event where
  eventType := "watchdog.rule_fired"
  payload := .obj [("rule_id", .str rule.id), ("rule_name", .str rule.name),
    ("outcome", .str "action_fired"), ("details", details)]
  siteId := rule.siteId
  now := now

/-- The event of a rule's escalation. -/
def FiredRule.escalatedEvent (rule : FiredRule) (now : Time) : Event where
  eventType := "watchdog.rule_escalated"
  payload := .obj [("rule_id", .str rule.id), ("rule_name", .str rule.name)]
  siteId := rule.siteId
  now := now

/-- `_run_escalation_and_emit`: the deliveries it queues. -/
def Wiring.runEscalationAndEmit (w : Wiring) (s : Scope) (commits : Bool) (rule : FiredRule)
    (details : Json) (now : Time) : List WebhookDelivery :=
  w.emit s commits (rule.firedEvent details now) ++
    if rule.escalationItem "kind" = .str "webhook" ∧ (rule.escalationItem "url").truthy then
      w.emit s commits (rule.escalatedEvent now)
    else []

/-! ### Confinement -/

/-- Two hubs with the same channels and subscriptions of an organization. -/
def Wiring.AgreeOn (org : String) (w w' : Wiring) : Prop :=
  w.channels.filter (·.organizationId = some org) = w'.channels.filter (·.organizationId = some org) ∧
    w.subscriptions.filter (·.organizationId = some org) =
      w'.subscriptions.filter (·.organizationId = some org)

/-- No delivery is queued on a channel of another organization. -/
def Wiring.StaysIn (w : Wiring) (org : String) (deliveries : List WebhookDelivery) : Prop :=
  ∀ d ∈ deliveries, ∀ c ∈ w.channels, c.id = d.channelId →
    ∀ owner, c.organizationId = some owner → owner = org

/-- The deliveries of one organization. -/
def deliveriesOf (org : String) (deliveries : List WebhookDelivery) : List WebhookDelivery :=
  deliveries.filter (·.organizationId = some org)

section
variable {w w' : Wiring} {s : Scope} {org : String} {e : Event} {commits : Bool} {d : WebhookDelivery}

/-- A delivery is queued for a channel that the scope shows, and inherits its organization. -/
theorem mem_emit (h : d ∈ w.emit s commits e) :
    ∃ c ∈ w.channels, s.sees c.organizationId ∧ d.channelId = c.id ∧
      d.organizationId = c.organizationId := by
  rw [Wiring.emit] at h
  split at h
  · obtain ⟨c, hc, rfl⟩ := List.mem_map.mp h
    obtain ⟨sub, -, htarget⟩ := List.mem_filterMap.mp hc
    rw [Wiring.target] at htarget
    split at htarget
    · cases htarget
    · obtain ⟨hfind, -⟩ := Option.filter_eq_some_iff.mp htarget
      obtain ⟨hmem, hsees⟩ := List.mem_filter.mp (List.mem_of_find?_eq_some hfind)
      exact ⟨c, hmem, hsees, rfl, rfl⟩
  · cases h

/-- Under a scope that filters to an organization nothing leaves it. -/
theorem emit_staysIn (hs : s.FiltersTo org) : w.StaysIn org (w.emit s commits e) := by
  intro d hd c hc hid owner howner
  obtain ⟨c', hc', hsees, hchannel, -⟩ := mem_emit hd
  obtain rfl : c = c' := w.keyed.eq hc hc' (hid.trans hchannel)
  rw [hs.sees, decide_eq_true_eq] at hsees
  exact Option.some_inj.mp (howner.symm.trans hsees)

/-- Under such a scope the organization's rows decide what is emitted. -/
theorem emit_congr (hs : s.FiltersTo org) (h : w.AgreeOn org w') :
    w.emit s commits e = w'.emit s commits e := by
  have hsubscribed : w.subscribed s e.eventType = w'.subscribed s e.eventType := by
    simp only [Wiring.subscribed, hs.sees, h.2]
  have hchannel : w.channel s = w'.channel s := by
    funext channelId
    simp only [Wiring.channel, hs.sees, h.1]
  have htarget : w.target s e.siteId = w'.target s e.siteId := by
    funext sub
    rw [Wiring.target, Wiring.target, hchannel]
  rw [Wiring.emit, Wiring.emit, Wiring.targets, Wiring.targets, hsubscribed, htarget]

end

/-- A hub with one channel of an organization, subscribed to an event. -/
def Wiring.single (org eventType : String) : Wiring where
  channels := [⟨"whc", some org, true⟩]
  subscriptions := [⟨"nsub", some org, eventType, "whc", none, true⟩]
  keyed := by simp [Keyed]

/-- Where the scope shows the organization, its channel gets the event. -/
theorem emit_single {s : Scope} {org : String} (hsees : s.sees (some org)) {e : Event}
    (he : e.eventType ∈ eventTypes) :
    (Wiring.single org e.eventType).emit s true e = [queueForChannel ⟨"whc", some org, true⟩ e] := by
  have hsubscribed : (Wiring.single org e.eventType).subscribed s e.eventType =
      [⟨"nsub", some org, e.eventType, "whc", none, true⟩] := by
    simp [Wiring.subscribed, Wiring.single, hsees]
  have htarget : (Wiring.single org e.eventType).target s e.siteId
      ⟨"nsub", some org, e.eventType, "whc", none, true⟩ = some ⟨"whc", some org, true⟩ := by
    simp [Wiring.target, NotificationSubscription.skips, Wiring.channel, Wiring.single, hsees]
  rw [Wiring.emit, if_pos ⟨he, rfl⟩, Wiring.targets, hsubscribed, List.filterMap_cons_some htarget]
  rfl

/-- **Notifications and tenants.**  For an event of a known type, no delivery leaves the
organization and its deliveries do not depend on what others hold, over all hubs, exactly when the
scope filters to the organization. -/
theorem emit_confined_iff (s : Scope) (org : String) (e : Event) :
    ((∀ (w : Wiring) (commits : Bool), w.StaysIn org (w.emit s commits e)) ∧
      ∀ (w w' : Wiring) (commits : Bool), w.AgreeOn org w' →
        deliveriesOf org (w.emit s commits e) = deliveriesOf org (w'.emit s commits e)) ↔
    e.eventType ∉ eventTypes ∨ s.FiltersTo org := by
  by_cases he : e.eventType ∈ eventTypes
  · rw [or_iff_right (not_not.mpr he)]
    constructor
    · rintro ⟨hstays, -⟩
      by_contra hs
      obtain ⟨other, hne, hsees⟩ := Scope.sees_other hs
      have h := hstays (.single other e.eventType) true
      rw [emit_single hsees he] at h
      exact hne (h _ List.mem_cons_self ⟨"whc", some other, true⟩ List.mem_cons_self rfl other rfl)
    · intro hs
      exact ⟨fun w commits => emit_staysIn hs, fun w w' commits h => by rw [emit_congr hs h]⟩
  · have hnone : ∀ (w : Wiring) commits, w.emit s commits e = [] := fun w commits =>
      if_neg fun h => he h.1
    refine iff_of_true ⟨fun w commits => ?_, fun w w' commits _ => ?_⟩ (.inl he)
    · rw [hnone]
      exact fun d hd => absurd hd List.not_mem_nil
    · rw [hnone, hnone]

/-- A rule of organization `a` that fires. -/
def ruleOfA : FiredRule := ⟨"wr", "router", none, .null⟩

/-- The scheduler's jobs run in the system context: a rule of `a` that fires there is told to the
channel of `b`, in enforce mode as well. -/
theorem watchdog_emits_across :
    ¬∀ (w : Wiring) (commits : Bool), w.StaysIn "a"
      (w.runEscalationAndEmit (Scope.system ⟨none, false, true⟩) commits ruleOfA .null 0) := by
  intro h
  have hb := h (.single "b" "watchdog.rule_fired") true
    (queueForChannel ⟨"whc", some "b", true⟩ (ruleOfA.firedEvent .null 0)) (by decide)
    ⟨"whc", some "b", true⟩ (by decide) rfl "b" rfl
  exact absurd hb (by decide)

end RebooterHub.Tenancy
