import RebooterHub.Tenancy.Notifications

/-!
# Tenancy — Subscriptions

The deliveries `notifications.emit` queues against those the subscriptions ask for: one for each
enabled subscription to the event whose channel exists and is enabled, and whose site filter, when
it has one, is the site of the event.

* `emitCounted_eq`: the loop of `emit` adds the rows of `Wiring.emit` and returns their number.
* `emit_exact_iff`: they are what is asked for exactly when the event has a site, or no subscription
  with an enabled channel filters by one.  An event without a site passes every filter.
-/

namespace RebooterHub.Tenancy
open RebooterHub.Rows

/-! ### The loop -/

/-- The loop of `emit`: the rows added to the session, and `queued`. -/
def Wiring.queueEach (w : Wiring) (s : Scope) (e : Event) :
    List NotificationSubscription → List WebhookDelivery × Nat → List WebhookDelivery × Nat
  | [], acc => acc
  | sub :: subs, (rows, queued) =>
    match w.target s e.siteId sub with
    | none => w.queueEach s e subs (rows, queued)
    | some channel => w.queueEach s e subs (rows ++ [queueForChannel channel e], queued + 1)

/-- `emit`: the rows it leaves in the database, and the number it returns. -/
def Wiring.emitCounted (w : Wiring) (s : Scope) (commits : Bool) (e : Event) :
    List WebhookDelivery × Nat :=
  if e.eventType ∉ eventTypes then ([], 0)
  else
    let outcome := w.queueEach s e (w.subscribed s e.eventType) ([], 0)
    -- A failed flush or commit is logged, and answered with 0.
    if commits then outcome else ([], 0)

/-! ### What is asked for -/

/-- A site filter, unless it is not set, is the site of the event. -/
def NotificationSubscription.matchesSite (sub : NotificationSubscription)
    (siteId : Option String) : Bool :=
  match sub.siteId.filter (· ≠ "") with
  | none => true
  | some own => siteId = some own

/-- The channel of a subscription, where it exists and is enabled. -/
def Wiring.enabledChannel (w : Wiring) (s : Scope) (sub : NotificationSubscription) :
    Option WebhookChannel :=
  (w.channel s sub.channelId).filter (·.enabled)

/-- The channels that are to get an event, one for each subscription that asks for it. -/
def Wiring.asked (w : Wiring) (s : Scope) (e : Event) : List WebhookChannel :=
  ((w.subscribed s e.eventType).filter (·.matchesSite e.siteId)).filterMap (w.enabledChannel s)

/-- An outcome of `emit` is one delivery for each subscription that asks for it, and their number. -/
def Wiring.IsExactly (w : Wiring) (s : Scope) (e : Event)
    (outcome : List WebhookDelivery × Nat) : Prop :=
  outcome.1 = (w.asked s e).map (queueForChannel · e) ∧ outcome.2 = (w.asked s e).length

/-- The event has a site, or no subscription that could get it filters by one. -/
def Wiring.SitesKnown (w : Wiring) (s : Scope) (e : Event) : Prop :=
  e.siteId.filter (· ≠ "") ≠ none ∨
    ∀ sub ∈ w.subscribed s e.eventType, (w.enabledChannel s sub).isSome →
      sub.siteId.filter (· ≠ "") = none

/-! ### The loop and the list -/

section
variable (w : Wiring) (s : Scope) (e : Event)

theorem queueEach_eq (subs : List NotificationSubscription) (rows : List WebhookDelivery)
    (queued : Nat) :
    w.queueEach s e subs (rows, queued) =
      (rows ++ (subs.filterMap (w.target s e.siteId)).map (queueForChannel · e),
        queued + (subs.filterMap (w.target s e.siteId)).length) := by
  induction subs generalizing rows queued with
  | nil => simp [Wiring.queueEach]
  | cons sub subs ih =>
      cases htarget : w.target s e.siteId sub with
      | none => simp only [Wiring.queueEach, htarget, ih, List.filterMap_cons_none htarget]
      | some channel =>
          simp only [Wiring.queueEach, htarget, ih, List.filterMap_cons_some htarget, List.map_cons,
            List.append_assoc, List.singleton_append, List.length_cons, Nat.add_assoc, Nat.add_comm 1]

/-- The rows are those of `Wiring.emit`, and the number is theirs. -/
theorem emitCounted_eq (commits : Bool) :
    w.emitCounted s commits e = (w.emit s commits e, (w.emit s commits e).length) := by
  by_cases he : e.eventType ∈ eventTypes
  · cases commits with
    | false => simp [Wiring.emitCounted, Wiring.emit]
    | true => simp [Wiring.emitCounted, Wiring.emit, Wiring.targets, he, queueEach_eq]
  · simp [Wiring.emitCounted, Wiring.emit, he]

end

/-! ### The site filter -/

/-- Two filters of one list, of which the first is the finer, keep the same for `f` exactly when
they agree where `f` is defined. -/
theorem filterMap_filter_eq_iff {α β : Type*} {p q : α → Bool} (hpq : ∀ a, p a → q a)
    (f : α → Option β) (l : List α) :
    (l.filter q).filterMap f = (l.filter p).filterMap f ↔
      ∀ a ∈ l, (f a).isSome → q a → p a := by
  induction l with
  | nil => simp
  | cons a l ih =>
      rw [List.forall_mem_cons, ← ih]
      cases hf : f a with
      | none => by_cases hp : p a <;> by_cases hq : q a <;> simp [hp, hq, hf]
      | some b =>
          by_cases hp : p a
          · simp [hp, hpq a hp, hf]
          · by_cases hq : q a
            · -- One more delivery than there should be: the lengths differ.
              have hlen : ((l.filter p).filterMap f).length ≤ ((l.filter q).filterMap f).length :=
                ((List.monotone_filter_right l hpq).filterMap f).length_le
              have hne : b :: (l.filter q).filterMap f ≠ (l.filter p).filterMap f := by
                intro h
                rw [← h, List.length_cons] at hlen
                omega
              simp [hp, hq, hf, hne]
            · simp [hp, hq]

section
variable (sub : NotificationSubscription) (siteId : Option String)

/-- A subscription whose filter is met is not passed over. -/
theorem not_skips_of_matchesSite (h : sub.matchesSite siteId) : !sub.skips siteId := by
  rw [NotificationSubscription.matchesSite] at h
  rw [NotificationSubscription.skips]
  cases hown : sub.siteId.filter (· ≠ "") with
  | none => rfl
  | some own =>
      simp only [hown, decide_eq_true_eq] at h
      subst h
      have hne : own ≠ "" := by
        simpa using (Option.filter_eq_some_iff.mp hown).2
      simp [Option.filter_some, hne]

/-- For an event without a site no subscription is passed over. -/
theorem not_skips_of_no_site (h : siteId.filter (· ≠ "") = none) : !sub.skips siteId := by
  rw [NotificationSubscription.skips, h]
  cases sub.siteId.filter (· ≠ "") with
  | none => rfl
  | some own => rfl

/-- A subscription that is not passed over meets its filter, unless it has one and the event has
no site. -/
theorem matchesSite_iff (h : !sub.skips siteId) :
    sub.matchesSite siteId ↔
      siteId.filter (· ≠ "") ≠ none ∨ sub.siteId.filter (· ≠ "") = none := by
  rw [NotificationSubscription.skips] at h
  rw [NotificationSubscription.matchesSite]
  cases hown : sub.siteId.filter (· ≠ "") with
  | none => simp
  | some own =>
      cases hgiven : siteId.filter (· ≠ "") with
      | none =>
          have hne : siteId ≠ some own := by
            rintro rfl
            have hblank := (Option.filter_eq_some_iff.mp hown).2
            rw [Option.filter_some, if_pos hblank] at hgiven
            cases hgiven
          simp [hne]
      | some given =>
          simp only [hown, hgiven, ne_eq, Bool.not_eq_true', decide_eq_false_iff_not,
            not_not] at h
          obtain ⟨hsite, -⟩ := Option.filter_eq_some_iff.mp hgiven
          simp [hsite, h]

end

/-- The turns of the loop, as a filter and the channels of what passes it. -/
theorem targets_eq (w : Wiring) (s : Scope) (e : Event) :
    w.targets s e =
      ((w.subscribed s e.eventType).filter fun sub => !sub.skips e.siteId).filterMap
        (w.enabledChannel s) := by
  rw [Wiring.targets, List.filterMap_filter]
  congr 1
  funext sub
  rw [Wiring.target, Wiring.enabledChannel]
  cases sub.skips e.siteId with
  | false => rfl
  | true => rfl

/-- An outcome that counts its rows is what is asked for when its rows are. -/
theorem isExactly_iff (w : Wiring) (s : Scope) (e : Event) (rows : List WebhookDelivery) :
    w.IsExactly s e (rows, rows.length) ↔ rows = (w.asked s e).map (queueForChannel · e) := by
  refine ⟨And.left, fun h => ⟨h, ?_⟩⟩
  rw [h, List.length_map]

/-- **Emission and subscriptions.**  For an event of a known type, what `emit` queues and returns
is what is asked for exactly when the event has a site or no subscription that could get it filters
by one; where the transaction fails, exactly when nothing is asked for. -/
theorem emit_exact_iff (w : Wiring) (s : Scope) (commits : Bool) (e : Event)
    (he : e.eventType ∈ eventTypes) :
    w.IsExactly s e (w.emitCounted s commits e) ↔
      if commits then w.SitesKnown s e else w.asked s e = [] := by
  rw [emitCounted_eq, isExactly_iff]
  cases commits with
  | false => simp [Wiring.emit]
  | true =>
      have hemit : w.emit s true e = (w.targets s e).map (queueForChannel · e) := if_pos ⟨he, rfl⟩
      have hpass : ∀ sub : NotificationSubscription, sub.matchesSite e.siteId → !sub.skips e.siteId :=
        fun sub => not_skips_of_matchesSite sub e.siteId
      rw [hemit, targets_eq, Wiring.asked, List.map_filterMap, List.map_filterMap,
        filterMap_filter_eq_iff hpass, if_pos rfl, Wiring.SitesKnown]
      by_cases hsite : e.siteId.filter (· ≠ "") = none
      · rw [or_iff_right (not_not.mpr hsite)]
        refine forall₂_congr fun sub _ => ?_
        have hturn : !sub.skips e.siteId := not_skips_of_no_site sub e.siteId hsite
        rw [Option.isSome_map, matchesSite_iff sub e.siteId hturn, or_iff_right (not_not.mpr hsite)]
        exact ⟨fun h hchannel => h hchannel hturn, fun h hchannel _ => h hchannel⟩
      · refine iff_of_true (fun sub _ _ hturn => ?_) (.inl hsite)
        exact (matchesSite_iff sub e.siteId hturn).mpr (.inl hsite)

/-- A channel with a subscription for one site. -/
def oneSiteWiring : Wiring where
  channels := [⟨"whc", none, true⟩]
  subscriptions := [⟨"nsub", none, "device.recovered", "whc", some "site-1", true⟩]
  keyed := by simp [Keyed]

/-- An event without a site is queued for the channel of a subscription to one site. -/
theorem emit_without_site :
    ¬∀ (w : Wiring) (s : Scope) (e : Event), e.eventType ∈ eventTypes →
      w.IsExactly s e (w.emitCounted s true e) := by
  intro h
  have hqueued := (h oneSiteWiring ⟨none, true, false⟩ ⟨"device.recovered", .null, none, 0⟩
    (by decide)).2
  exact absurd hqueued (by decide)

/-- With the site it is queued where it is asked for. -/
theorem emit_exact_oneSite :
    "device.recovered" ∈ eventTypes ∧
      oneSiteWiring.IsExactly ⟨none, true, false⟩ ⟨"device.recovered", .null, some "site-1", 0⟩
        (oneSiteWiring.emitCounted ⟨none, true, false⟩ true
          ⟨"device.recovered", .null, some "site-1", 0⟩) :=
  ⟨by decide, (emit_exact_iff oneSiteWiring ⟨none, true, false⟩ true
    ⟨"device.recovered", .null, some "site-1", 0⟩ (by decide)).mpr (.inl (by decide))⟩

end RebooterHub.Tenancy
