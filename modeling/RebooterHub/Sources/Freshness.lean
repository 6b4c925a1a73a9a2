import Mathlib.Tactic.Linarith
import RebooterHub.Sources.Polling
import RebooterHub.Support.Latest

/-!
# Sources — Freshness

Two invariants of the sources over every run.

* `Current`: the last success of a source is the time of its newest sample, so that what the list
  of sources shows is what the probes find (`latestSample_iff`).
* `Spaced`: the tick polls a source again only after its interval, whatever other requests poll it
  in between (`polls_spaced`).
-/

namespace RebooterHub.Sources
open Backup (webhookKinds)
open Watchdog (SensorSample Telemetry PowerSample Heartbeat latestSample cutoff newestFirst)
open Rows Runs

/-! ### What a step does to the tables -/

/-- What a poll or a pushed event does to the tables. -/
inductive Effect (now : Time) (db : Store) : Store → Prop
  | same : Effect now db db
  | recorded {src : Source} (payload : Json) : src ∈ db.sources →
      Effect now db (db.record now src.id payload)
  | failed (id message : String) : Effect now db (db.fail now id message)

section
variable {now : Time} {db : Store} {id : String} {src : Source}

theorem source_spec (h : db.source id = some src) : src ∈ db.sources ∧ src.id = id :=
  find?_key h

/-- A poll of a source of a kind that is polled stores a sample or an error. -/
theorem pollSource_of_polled (now : Time) (fetched : Except String Json)
    (hsrc : db.source id = some src) (hkind : src.kind ∉ webhookKinds ++ subscriberKinds) :
    (∃ payload, (pollSource now fetched id db).2 = db.record now id payload) ∨
      ∃ message, (pollSource now fetched id db).2 = db.fail now id message := by
  rw [List.mem_append, not_or] at hkind
  rw [pollSource, hsrc]
  simp only [if_neg hkind.1, if_neg hkind.2]
  cases pollKind fetched src with
  | error message => exact .inr ⟨message, rfl⟩
  | ok payload => exact .inl ⟨payload, rfl⟩

/-- Other polls are refused. -/
theorem pollSource_of_not (now : Time) (fetched : Except String Json)
    (h : ∀ src, db.source id = some src → src.kind ∈ webhookKinds ++ subscriberKinds) :
    (pollSource now fetched id db).2 = db := by
  rw [pollSource]
  cases hsrc : db.source id with
  | none => rfl
  | some src =>
      rcases List.mem_append.mp (h src hsrc) with hkind | hkind
      · simp only [if_pos hkind]
      · simp only [if_pos hkind]
        split <;> rfl

theorem effect_pollSource (now : Time) (fetched : Except String Json) (id : String) (db : Store) :
    Effect now db (pollSource now fetched id db).2 := by
  by_cases hpolled : ∃ src, db.source id = some src ∧ src.kind ∉ webhookKinds ++ subscriberKinds
  · obtain ⟨src, hsrc, hkind⟩ := hpolled
    obtain ⟨hmem, hid⟩ := source_spec hsrc
    rcases pollSource_of_polled now fetched hsrc hkind with ⟨payload, h⟩ | ⟨message, h⟩
    · rw [h, ← hid]
      exact .recorded payload hmem
    · rw [h]
      exact .failed id message
  · rw [pollSource_of_not now fetched fun src hsrc => by_contra fun h => hpolled ⟨src, hsrc, h⟩]
    exact .same

theorem effect_recordWebhookEvent (now : Time) (id : String) (payload : Json) (db : Store) :
    Effect now db (recordWebhookEvent now id payload db).2 := by
  rw [recordWebhookEvent]
  cases hsrc : db.source id with
  | none => exact .same
  | some src =>
      obtain ⟨hmem, rfl⟩ := source_spec hsrc
      simp only
      split
      · exact .same
      · split
        · exact .same
        · exact .recorded _ hmem

theorem effect_recordMqttMessage (now : Time) (id topic msg : String) (db : Store) :
    Effect now db (recordMqttMessage now id topic msg db).2 := by
  rw [recordMqttMessage]
  cases hsrc : db.source id with
  | none => exact .same
  | some src =>
      obtain ⟨hmem, rfl⟩ := source_spec hsrc
      simp only
      split
      · exact .same
      · exact .recorded _ hmem

end

/-! ### The last success -/

/-- The last success of a source is the time of its newest sample. -/
def Current (samples : List SensorSample) (src : Source) : Prop :=
  (∀ x ∈ samples, x.sourceId = src.id → ∃ t ∈ src.lastSuccessAt, x.sampledAt ≤ t) ∧
    ∀ t ∈ src.lastSuccessAt, ∃ x ∈ samples, x.sourceId = src.id ∧ x.sampledAt = t

/-- The tables up to a time. -/
structure Sound (clock : Time) (issued : List String) (db : Store) : Prop where
  keyed : Keyed Source.id db.sources
  issued : ∀ src ∈ db.sources, src.id ∈ issued
  owned : ∀ x ∈ db.samples, ∃ src ∈ db.sources, src.id = x.sourceId
  past : ∀ x ∈ db.samples, x.sampledAt ≤ clock
  polled : ∀ src ∈ db.sources, ∀ t ∈ src.lastPolledAt, t ≤ clock
  current : ∀ src ∈ db.sources, Current db.samples src
  healthy : ∀ src ∈ db.sources, src.lastError = none → src.lastPolledAt = src.lastSuccessAt

theorem Sound.later {clock now : Time} {issued issued' : List String} {db : Store}
    (h : Sound clock issued db) (hclock : clock ≤ now) (hissued : ∀ id ∈ issued, id ∈ issued') :
    Sound now issued' db where
  keyed := h.keyed
  issued src hsrc := hissued _ (h.issued src hsrc)
  owned := h.owned
  past x hx := (h.past x hx).trans hclock
  polled src hsrc t ht := (h.polled src hsrc t ht).trans hclock
  current := h.current
  healthy := h.healthy

section
variable {now : Time} {issued : List String} {db : Store} {src : Source}

theorem Sound.record (h : Sound now issued db) (hsrc : src ∈ db.sources) (payload : Json) :
    Sound now issued (db.record now src.id payload) where
  keyed := h.keyed.amend fun _ => rfl
  issued := forall_amend h.issued fun r hr _ => h.issued r hr
  owned := by
    intro x hx
    rcases List.mem_append.mp hx with hx | hx
    · obtain ⟨r, hr, hid⟩ := h.owned x hx
      refine ⟨_, amend_mem hr, ?_⟩
      split
      · exact hid
      · exact hid
    · obtain rfl := List.mem_singleton.mp hx
      exact ⟨_, mem_amend_self hsrc, rfl⟩
  past := by
    intro x hx
    rcases List.mem_append.mp hx with hx | hx
    · exact h.past x hx
    · obtain rfl := List.mem_singleton.mp hx
      exact le_rfl
  polled := by
    refine forall_amend h.polled fun r _ _ t ht => ?_
    obtain rfl := Option.mem_some_iff.mp ht
    exact le_rfl
  current := by
    intro r hr
    rcases mem_amend hr with ⟨hmem, hne⟩ | ⟨r₀, hr₀, hid, rfl⟩
    · obtain ⟨hall, hlast⟩ := h.current r hmem
      constructor
      · intro x hx hxid
        rcases List.mem_append.mp hx with hx | hx
        · exact hall x hx hxid
        · obtain rfl := List.mem_singleton.mp hx
          exact absurd hxid.symm hne
      · intro t ht
        obtain ⟨x, hx, hxid, hat⟩ := hlast t ht
        exact ⟨x, List.mem_append_left _ hx, hxid, hat⟩
    · constructor
      · intro x hx _
        refine ⟨now, rfl, ?_⟩
        rcases List.mem_append.mp hx with hx | hx
        · exact h.past x hx
        · obtain rfl := List.mem_singleton.mp hx
          exact le_rfl
      · intro t ht
        obtain rfl := Option.mem_some_iff.mp ht
        exact ⟨_, List.mem_append_right _ List.mem_cons_self, hid.symm, rfl⟩
  healthy := forall_amend h.healthy fun _ _ _ _ => rfl

theorem Sound.fail (h : Sound now issued db) (id message : String) :
    Sound now issued (db.fail now id message) where
  keyed := h.keyed.amend fun _ => rfl
  issued := forall_amend h.issued fun r hr _ => h.issued r hr
  owned := by
    intro x hx
    obtain ⟨r, hr, hid⟩ := h.owned x hx
    refine ⟨_, amend_mem hr, ?_⟩
    split
    · exact hid
    · exact hid
  past := h.past
  polled := by
    refine forall_amend h.polled fun r _ _ t ht => ?_
    obtain rfl := Option.mem_some_iff.mp ht
    exact le_rfl
  current := forall_amend h.current fun r hr _ => h.current r hr
  healthy := by
    refine forall_amend h.healthy fun r _ _ herror => ?_
    cases herror

theorem Sound.create (h : Sound now issued db) {id : String} (hid : id ∉ issued) (kind : String)
    (interval : Int) : Sound now (id :: issued) (createSource id kind interval db) where
  keyed := by
    rw [createSource, Keyed, List.map_append, List.nodup_append']
    refine ⟨h.keyed, List.nodup_singleton _, ?_⟩
    intro k hk hk'
    obtain ⟨r, hr, rfl⟩ := List.mem_map.mp hk
    have heq : r.id = id := List.mem_singleton.mp hk'
    exact hid (heq ▸ h.issued r hr)
  issued := by
    intro r hr
    rcases List.mem_append.mp hr with hr | hr
    · exact List.mem_cons_of_mem _ (h.issued r hr)
    · obtain rfl := List.mem_singleton.mp hr
      exact List.mem_cons_self
  owned x hx := by
    obtain ⟨r, hr, hrid⟩ := h.owned x hx
    exact ⟨r, List.mem_append_left _ hr, hrid⟩
  past := h.past
  polled := by
    intro r hr
    rcases List.mem_append.mp hr with hr | hr
    · exact h.polled r hr
    · obtain rfl := List.mem_singleton.mp hr
      intro t ht
      cases ht
  current := by
    intro r hr
    rcases List.mem_append.mp hr with hr | hr
    · exact h.current r hr
    · obtain rfl := List.mem_singleton.mp hr
      constructor
      · intro x hx hxid
        have hxid : x.sourceId = id := hxid
        obtain ⟨r, hr, hrid⟩ := h.owned x hx
        exact absurd (hxid ▸ hrid ▸ h.issued r hr) hid
      · intro t ht
        cases ht
  healthy := by
    intro r hr
    rcases List.mem_append.mp hr with hr | hr
    · exact h.healthy r hr
    · obtain rfl := List.mem_singleton.mp hr
      exact fun _ => rfl

theorem Sound.enable (h : Sound now issued db) (id : String) (enabled : Bool) :
    Sound now issued (setEnabled id enabled db) where
  keyed := h.keyed.amend fun _ => rfl
  issued := forall_amend h.issued fun r hr _ => h.issued r hr
  owned := by
    intro x hx
    obtain ⟨r, hr, hid⟩ := h.owned x hx
    refine ⟨_, amend_mem hr, ?_⟩
    split
    · exact hid
    · exact hid
  past := h.past
  polled := forall_amend h.polled fun r hr _ => h.polled r hr
  current := forall_amend h.current fun r hr _ => h.current r hr
  healthy := forall_amend h.healthy fun r hr _ => h.healthy r hr

theorem Sound.delete (h : Sound now issued db) (id : String) :
    Sound now issued (deleteSource id db) where
  keyed := h.keyed.filter _
  issued r hr := h.issued r (List.mem_of_mem_filter hr)
  owned := by
    intro x hx
    obtain ⟨hx, hne⟩ := List.mem_filter.mp hx
    obtain ⟨r, hr, hid⟩ := h.owned x hx
    refine ⟨r, List.mem_filter.mpr ⟨hr, ?_⟩, hid⟩
    rw [hid]
    exact hne
  past x hx := h.past x (List.mem_of_mem_filter hx)
  polled r hr := h.polled r (List.mem_of_mem_filter hr)
  current := by
    intro r hr
    obtain ⟨hr, hne⟩ := List.mem_filter.mp hr
    obtain ⟨hall, hlast⟩ := h.current r hr
    refine ⟨fun x hx => hall x (List.mem_of_mem_filter hx), fun t ht => ?_⟩
    obtain ⟨x, hx, hxid, hat⟩ := hlast t ht
    refine ⟨x, List.mem_filter.mpr ⟨hx, ?_⟩, hxid, hat⟩
    rw [hxid]
    exact hne
  healthy r hr := h.healthy r (List.mem_of_mem_filter hr)

end

theorem Sound.effect {now : Time} {issued : List String} {db db' : Store}
    (h : Sound now issued db) (heffect : Effect now db db') : Sound now issued db' := by
  cases heffect with
  | same => exact h
  | recorded payload hsrc => exact h.record hsrc payload
  | failed id message => exact h.fail id message

/-- A step keeps the tables sound. -/
theorem Sound.step {s : Poller} {a : Time × Request} (h : Sound s.clock s.issued s.db)
    (hok : s.ok a) : Sound (s.step a).clock (s.step a).issued (s.step a).db := by
  obtain ⟨now, r⟩ := a
  obtain ⟨hclock, hr⟩ := hok
  have hnow : Sound now s.issued s.db := h.later hclock fun _ => id
  cases r with
  | create id kind interval => exact hnow.create hr kind interval
  | enable id enabled => exact hnow.enable id enabled
  | delete id => exact hnow.delete id
  | webhook id payload => exact hnow.effect (effect_recordWebhookEvent now id payload s.db)
  | message id topic msg => exact hnow.effect (effect_recordMqttMessage now id topic msg s.db)
  | poll id fetched => exact hnow.effect (effect_pollSource now fetched id s.db)
  | tick => exact hnow
  | pollDue fetched =>
      have heffect : Effect now s.db (s.after now (.pollDue fetched)) := by
        rw [Poller.after]
        cases s.pending with
        | nil => exact .same
        | cons id rest => exact effect_pollSource now fetched id s.db
      exact hnow.effect heffect

theorem Sound.run {now : Time} {as : List (Time × Request)}
    (has : Admits Poller.step Poller.ok (Poller.start now) as) :
    Sound (run Poller.step (Poller.start now) as).clock
      (run Poller.step (Poller.start now) as).issued
      (run Poller.step (Poller.start now) as).db := by
  refine run_invariant (I := fun s => Sound s.clock s.issued s.db)
    (fun s a hs hok => hs.step hok) ?_ has
  exact ⟨List.nodup_nil, by simp [Poller.start], by simp [Poller.start], by simp [Poller.start],
    by simp [Poller.start], by simp [Poller.start], by simp [Poller.start]⟩

/-! ### What the probes find -/

/-- What `latest_sample` finds of a source whose last success is current. -/
theorem Current.latestSample {samples : List SensorSample} {src : Source}
    (h : Current samples src) {now oldest : Time} {maxAge : Int} {power : List PowerSample}
    {heartbeats : List Heartbeat} (hcutoff : cutoff now maxAge = .ok oldest) :
    ∃ found, latestSample ⟨samples, power, heartbeats⟩ now src.id maxAge = .ok found ∧
      found.map (·.sampledAt) = src.lastSuccessAt.filter (oldest ≤ ·) := by
  obtain ⟨hall, hlast⟩ := h
  refine ⟨Latest.latest SensorSample.sampledAt
    (samples.filter fun x => x.sourceId = src.id ∧ oldest ≤ x.sampledAt), ?_, ?_⟩
  · rw [Watchdog.latestSample, hcutoff]
    rfl
  · cases hfound : Latest.latest SensorSample.sampledAt
        (samples.filter fun x => x.sourceId = src.id ∧ oldest ≤ x.sampledAt) with
    | none =>
        rw [Latest.latest_eq_none, List.filter_eq_nil_iff] at hfound
        rw [Option.map_none, eq_comm, Option.filter_eq_none_iff]
        intro t ht hfresh
        obtain ⟨x, hx, hxid, rfl⟩ := hlast t ht
        exact hfound x hx (by simpa using ⟨hxid, of_decide_eq_true hfresh⟩)
    | some x =>
        obtain ⟨hmem, hnewest⟩ := Latest.newest_latest hfound
        rw [List.mem_filter, decide_eq_true_iff] at hmem
        obtain ⟨hx, hxid, hfresh⟩ := hmem
        obtain ⟨t, ht, hle⟩ := hall x hx hxid
        obtain ⟨y, hy, hyid, rfl⟩ := hlast t ht
        have hy' := hnewest y (by
          rw [List.mem_filter, decide_eq_true_iff]
          exact ⟨hy, hyid, hfresh.trans hle⟩)
        rw [Option.map_some, eq_comm, Option.filter_eq_some_iff]
        exact ⟨le_antisymm hle hy' ▸ ht, decide_eq_true hfresh⟩

/-- **The last success is what the probes find.**  In every state that is reached, the newest
sample of a source that is not too old has the time of the source's last success, and there is one
exactly when the last success is not too old; and a source without an error last succeeded when it
was last polled. -/
theorem lastSuccess_found {start now oldest : Time} {maxAge : Int} {as : List (Time × Request)}
    (has : Admits Poller.step Poller.ok (Poller.start start) as) {src : Source}
    (hsrc : src ∈ (run Poller.step (Poller.start start) as).db.sources)
    (hcutoff : cutoff now maxAge = .ok oldest) (power : List PowerSample)
    (heartbeats : List Heartbeat) :
    (∃ found, latestSample ⟨(run Poller.step (Poller.start start) as).db.samples, power,
        heartbeats⟩ now src.id maxAge = .ok found ∧
      found.map (·.sampledAt) = src.lastSuccessAt.filter (oldest ≤ ·)) ∧
    (src.lastError = none → src.lastPolledAt = src.lastSuccessAt) :=
  ⟨((Sound.run has).current src hsrc).latestSample hcutoff, (Sound.run has).healthy src hsrc⟩

/-- A weather source, polled twice by the tick. -/
def twoPolls : List (Time × Request) :=
  [(0, .create "w" "weather" 60), (0, .tick), (1, .pollDue (.ok (.obj []))),
    (seconds 120, .tick), (seconds 120, .pollDue (.error "timed out"))]

theorem admits_twoPolls : Admits Poller.step Poller.ok (Poller.start 0) twoPolls := by
  simp only [twoPolls, admits_cons, admits_nil, Poller.ok]
  decide

theorem twoPolls_found :
    ∃ found, latestSample ⟨(run Poller.step (Poller.start 0) twoPolls).db.samples, [], []⟩
        (seconds 120) "w" 300 = .ok found ∧
      found.map (·.sampledAt) = (some 1).filter (seconds (-180) ≤ ·) := by
  have hcutoff : cutoff (seconds 120) 300 = .ok (seconds (-180)) := by decide
  have hsrc : (⟨"w", "weather", true, 60, some (seconds 120), some 1, some "timed out"⟩ : Source) ∈
      (run Poller.step (Poller.start 0) twoPolls).db.sources := List.mem_cons_self
  exact (lastSuccess_found admits_twoPolls hsrc hcutoff [] []).1

/-! ### The interval of a source -/

/-- The polls of the tick so far: of the sources that are left they are no later than the last
poll, and the sources that are still to be polled are due. -/
structure Spaced (es : List Polled) (s : Poller) : Prop where
  sound : Sound s.clock s.issued s.db
  known : ∀ e ∈ es, e.id ∈ s.issued
  last : ∀ e ∈ es, ∀ src ∈ s.db.sources, src.id = e.id →
    e.interval = src.pollIntervalSeconds ∧ ∃ t ∈ src.lastPolledAt, e.at_ ≤ t
  pending : s.pending.Nodup
  due : ∀ id ∈ s.pending, ∀ e ∈ es, e.id = id → e.at_ + seconds e.interval ≤ s.clock
  apart : es.Pairwise fun e e' => e.id = e'.id → e.at_ + seconds e.interval ≤ e'.at_

/-- A source stays as it is for the tick: its last poll is no earlier. -/
def Ahead (now : Time) (db db' : Store) : Prop :=
  ∀ src' ∈ db'.sources, ∃ src ∈ db.sources, src.id = src'.id ∧
    src.pollIntervalSeconds = src'.pollIntervalSeconds ∧
      (src'.lastPolledAt = src.lastPolledAt ∨ src'.lastPolledAt = some now)

section
variable {now : Time} {db db' : Store} {id : String}

theorem Ahead.refl : Ahead now db db := fun src hsrc => ⟨src, hsrc, rfl, rfl, .inl rfl⟩

theorem ahead_amend {g : Source → Source} (hid : ∀ r, (g r).id = r.id)
    (hinterval : ∀ r, (g r).pollIntervalSeconds = r.pollIntervalSeconds)
    (hlast : ∀ r, (g r).lastPolledAt = r.lastPolledAt ∨ (g r).lastPolledAt = some now) :
    Ahead now db { db with sources := amend Source.id id g db.sources } := by
  intro r hr
  rcases mem_amend hr with ⟨hmem, -⟩ | ⟨r₀, hr₀, -, rfl⟩
  · exact ⟨r, hmem, rfl, rfl, .inl rfl⟩
  · exact ⟨r₀, hr₀, (hid r₀).symm, (hinterval r₀).symm, hlast r₀⟩

theorem Effect.ahead (h : Effect now db db') : Ahead now db db' := by
  cases h with
  | same => exact .refl
  | recorded payload _ =>
      exact ahead_amend (fun _ => rfl) (fun _ => rfl) fun _ => .inr rfl
  | failed id message => exact ahead_amend (fun _ => rfl) (fun _ => rfl) fun _ => .inr rfl

end

/-- What later polls keep. -/
theorem Spaced.last_of_ahead {es : List Polled} {s : Poller} {now : Time} {db' : Store}
    (h : Spaced es s) (hclock : s.clock ≤ now) (hahead : Ahead now s.db db') :
    ∀ e ∈ es, ∀ src ∈ db'.sources, src.id = e.id →
      e.interval = src.pollIntervalSeconds ∧ ∃ t ∈ src.lastPolledAt, e.at_ ≤ t := by
  intro e he src' hsrc' hid
  obtain ⟨src, hsrc, hsame, hinterval, hlast⟩ := hahead src' hsrc'
  obtain ⟨heq, t, ht, hle⟩ := h.last e he src hsrc (hsame.trans hid)
  refine ⟨heq.trans hinterval, ?_⟩
  rcases hlast with hlast | hlast
  · exact ⟨t, hlast ▸ ht, hle⟩
  · exact ⟨now, hlast, hle.trans ((h.sound.polled src hsrc t ht).trans hclock)⟩

/-- A source that is due was polled an interval ago, if the tick polled it. -/
theorem Spaced.due_of_mem {es : List Polled} {s : Poller} (h : Spaced es s) {now : Time}
    {id : String} (hid : id ∈ dueIds now s.db) {e : Polled} (he : e ∈ es) (heid : e.id = id) :
    e.at_ + seconds e.interval ≤ now := by
  obtain ⟨src, hsrc, rfl⟩ := List.mem_map.mp hid
  obtain ⟨hsrc, hdue⟩ := List.mem_filter.mp hsrc
  obtain ⟨hinterval, t, ht, hle⟩ := h.last e he src (List.mem_of_mem_filter hsrc) heid.symm
  rw [Option.mem_def] at ht
  rw [Source.due, ht, decide_eq_true_eq] at hdue
  rw [hinterval]
  linarith

theorem nodup_dueIds {now : Time} {db : Store} (h : Keyed Source.id db.sources) :
    (dueIds now db).Nodup :=
  (h.filter _).filter _

/-- A step of the tick polls the head of its list, if the source is still there. -/
theorem out_pollDue {s : Poller} {now : Time} {fetched : Except String Json} {e : Polled}
    (h : e ∈ s.out (now, .pollDue fetched)) : ∃ rest, s.pending = e.id :: rest ∧ e.at_ = now ∧
      ∃ src ∈ s.db.sources, src.id = e.id ∧ src.kind ∉ webhookKinds ++ subscriberKinds ∧
        e.interval = src.pollIntervalSeconds ∧
          s.out (now, .pollDue fetched) = [e] := by
  cases hpending : s.pending with
  | nil => simp [Poller.out, hpending] at h
  | cons id rest =>
      cases hsrc : s.db.source id with
      | none => simp [Poller.out, hpending, hsrc] at h
      | some src =>
          obtain ⟨hmem, hid⟩ := source_spec hsrc
          by_cases hkind : src.kind ∈ webhookKinds ++ subscriberKinds
          · simp only [Poller.out, hpending, hsrc, if_pos hkind] at h
            cases h
          · have hout : s.out (now, .pollDue fetched)
                = [{ id := id, at_ := now, interval := src.pollIntervalSeconds }] := by
              simp only [Poller.out, hpending, hsrc, if_neg hkind]
            rw [hout] at h
            obtain rfl := List.mem_singleton.mp h
            exact ⟨rest, rfl, rfl, src, hmem, hid, hkind, rfl, hout⟩

/-- A poll leaves its time with the source. -/
theorem lastPolledAt_pollSource {now : Time} {fetched : Except String Json} {db : Store}
    (hkeyed : Keyed Source.id db.sources) {src src' : Source} (hsrc : src ∈ db.sources)
    (hkind : src.kind ∉ webhookKinds ++ subscriberKinds)
    (hsrc' : src' ∈ (pollSource now fetched src.id db).2.sources) (hid : src'.id = src.id) :
    src'.pollIntervalSeconds = src.pollIntervalSeconds ∧ src'.lastPolledAt = some now := by
  have hamend : ∀ g : Source → Source, (∀ r, (g r).lastPolledAt = some now) →
      (∀ r, (g r).pollIntervalSeconds = r.pollIntervalSeconds) →
      src' ∈ amend Source.id src.id g db.sources →
        src'.pollIntervalSeconds = src.pollIntervalSeconds ∧ src'.lastPolledAt = some now := by
    intro g hlast hinterval hmem
    rcases mem_amend hmem with ⟨-, hne⟩ | ⟨r, hr, hrid, rfl⟩
    · exact absurd hid hne
    · obtain rfl := hkeyed.eq hr hsrc hrid
      exact ⟨hinterval r, hlast r⟩
  rcases pollSource_of_polled now fetched (hkeyed.find? hsrc) hkind with ⟨payload, h⟩ | ⟨message, h⟩
  · rw [h, Store.record] at hsrc'
    exact hamend _ (by intro r; rfl) (by intro r; rfl) hsrc'
  · rw [h, Store.fail] at hsrc'
    exact hamend _ (by intro r; rfl) (by intro r; rfl) hsrc'

theorem Spaced.tick {es : List Polled} {s : Poller} {now : Time} (h : Spaced es s)
    (hok : s.ok (now, .tick)) : Spaced es (s.step (now, .tick)) where
  sound := h.sound.step hok
  known := h.known
  last := h.last_of_ahead hok.1 .refl
  pending := nodup_dueIds h.sound.keyed
  due _ hid _ he heid := h.due_of_mem hid he heid
  apart := h.apart

/-- What is not a step of the tick keeps it spaced. -/
theorem Spaced.other {es : List Polled} {s : Poller} {now : Time} {r : Request} (h : Spaced es s)
    (hok : s.ok (now, r)) (hpending : (s.step (now, r)).pending = s.pending)
    (hissued : ∀ id ∈ s.issued, id ∈ (s.step (now, r)).issued)
    (hlast : ∀ e ∈ es, ∀ src ∈ (s.step (now, r)).db.sources, src.id = e.id →
      e.interval = src.pollIntervalSeconds ∧ ∃ t ∈ src.lastPolledAt, e.at_ ≤ t) :
    Spaced es (s.step (now, r)) where
  sound := h.sound.step hok
  known e he := hissued _ (h.known e he)
  last := hlast
  pending := hpending ▸ h.pending
  due id hid e he heid := (h.due id (hpending ▸ hid) e he heid).trans hok.1
  apart := h.apart

theorem Spaced.pollDue {es : List Polled} {s : Poller} {now : Time} {fetched : Except String Json}
    (h : Spaced es s) (hok : s.ok (now, .pollDue fetched)) :
    Spaced (es ++ s.out (now, .pollDue fetched)) (s.step (now, .pollDue fetched)) := by
  have hclock : s.clock ≤ now := hok.1
  have htail : ∀ id ∈ s.pending.tail, id ∈ s.pending := fun _ => List.mem_of_mem_tail
  have heffect : Effect now s.db (s.after now (.pollDue fetched)) := by
    rw [Poller.after]
    cases s.pending with
    | nil => exact .same
    | cons id rest => exact effect_pollSource now fetched id s.db
  have hold := h.last_of_ahead hclock heffect.ahead
  cases hout : s.out (now, .pollDue fetched) with
  | nil =>
      rw [List.append_nil]
      exact
        { sound := h.sound.step hok
          known := h.known
          last := hold
          pending := h.pending.sublist (List.tail_sublist _)
          due := fun id hid e he heid => (h.due id (htail id hid) e he heid).trans hclock
          apart := h.apart }
  | cons e rest' =>
      have hmem : e ∈ s.out (now, .pollDue fetched) := hout ▸ List.mem_cons_self
      obtain ⟨rest, hpending, hat, src, hsrc, hid, hkind, hinterval, hsingle⟩ := out_pollDue hmem
      rw [← hout, hsingle]
      have hnew : s.after now (.pollDue fetched) = (pollSource now fetched src.id s.db).2 := by
        rw [Poller.after, hpending, hid]
      have hfresh : e.id ∉ rest := (List.nodup_cons.mp (hpending ▸ h.pending)).1
      have hsource := h.sound.issued src hsrc
      refine
        { sound := h.sound.step hok
          known := ?_
          last := ?_
          pending := h.pending.sublist (List.tail_sublist _)
          due := ?_
          apart := ?_ }
      · intro e' he'
        rcases List.mem_append.mp he' with he' | he'
        · exact h.known e' he'
        · obtain rfl := List.mem_singleton.mp he'
          exact hid ▸ hsource
      · intro e' he' src' hsrc' hid'
        rcases List.mem_append.mp he' with he' | he'
        · exact hold e' he' src' hsrc' hid'
        · obtain rfl := List.mem_singleton.mp he'
          have hsrc' : src' ∈ (s.after now (.pollDue fetched)).sources := hsrc'
          rw [hnew] at hsrc'
          obtain ⟨hsame, hlast⟩ := lastPolledAt_pollSource h.sound.keyed hsrc hkind hsrc'
            (hid'.trans hid.symm)
          exact ⟨hinterval.trans hsame.symm, now, hlast, hat.le⟩
      · intro id hidrest e' he' heid
        have hidrest : id ∈ s.pending.tail := hidrest
        rcases List.mem_append.mp he' with he' | he'
        · exact (h.due id (htail id hidrest) e' he' heid).trans hclock
        · obtain rfl := List.mem_singleton.mp he'
          rw [hpending, List.tail_cons] at hidrest
          exact absurd (heid ▸ hidrest) hfresh
      · rw [List.pairwise_append]
        refine ⟨h.apart, List.pairwise_singleton _ _, ?_⟩
        intro e₁ he₁ e₂ he₂ heq
        obtain rfl := List.mem_singleton.mp he₂
        rw [hat]
        exact (h.due e₂.id (hpending ▸ List.mem_cons_self) e₁ he₁ heq).trans hclock

theorem Spaced.step {es : List Polled} {s : Poller} {a : Time × Request} (h : Spaced es s)
    (hok : s.ok a) : Spaced (es ++ s.out a) (s.step a) := by
  obtain ⟨now, r⟩ := a
  have hclock : s.clock ≤ now := hok.1
  have heffect : ∀ r, Effect now s.db (s.after now r) → ∀ e ∈ es, ∀ src ∈ (s.after now r).sources,
      src.id = e.id → e.interval = src.pollIntervalSeconds ∧ ∃ t ∈ src.lastPolledAt, e.at_ ≤ t :=
    fun r heffect => h.last_of_ahead hclock heffect.ahead
  by_cases hdue : ∃ fetched, r = .pollDue fetched
  · obtain ⟨fetched, rfl⟩ := hdue
    exact h.pollDue hok
  have hout : s.out (now, r) = [] := by
    cases r with
    | pollDue fetched => exact absurd ⟨fetched, rfl⟩ hdue
    | _ => rfl
  rw [hout, List.append_nil]
  cases r with
  | tick => exact h.tick hok
  | pollDue fetched => exact absurd ⟨fetched, rfl⟩ hdue
  | create id kind interval =>
      refine h.other hok rfl (fun _ => List.mem_cons_of_mem _) ?_
      intro e he src hsrc hid
      rcases List.mem_append.mp hsrc with hsrc | hsrc
      · exact h.last e he src hsrc hid
      · -- The id of the new source was not given out, so nothing was polled under it.
        obtain rfl := List.mem_singleton.mp hsrc
        have hid : id = e.id := hid
        exact absurd (hid ▸ h.known e he) hok.2
  | enable id enabled =>
      exact h.other hok rfl (fun _ hid => hid) (h.last_of_ahead hclock
        (ahead_amend (fun _ => rfl) (fun _ => rfl) fun _ => .inl rfl))
  | delete id =>
      refine h.other hok rfl (fun _ hid => hid) ?_
      exact fun e he src hsrc hid => h.last e he src (List.mem_of_mem_filter hsrc) hid
  | webhook id payload =>
      exact h.other hok rfl (fun _ hid => hid) (heffect _ (effect_recordWebhookEvent now id payload _))
  | message id topic msg =>
      exact h.other hok rfl (fun _ hid => hid) (heffect _ (effect_recordMqttMessage now id topic msg _))
  | poll id fetched =>
      exact h.other hok rfl (fun _ hid => hid) (heffect _ (effect_pollSource now fetched id _))

theorem Spaced.run {start : Time} {as : List (Time × Request)}
    (has : Admits Poller.step Poller.ok (Poller.start start) as) :
    Spaced (emitted Poller.step Poller.out (Poller.start start) as)
      (run Poller.step (Poller.start start) as) := by
  have hstart : Spaced [] (Poller.start start) :=
    { sound := Sound.run (admits_nil _)
      known := by simp
      last := by simp
      pending := List.nodup_nil
      due := by simp
      apart := List.Pairwise.nil }
  have hrun := emitted_invariant (I := Spaced) (fun es s a h hok => h.step hok) hstart has
  rwa [List.nil_append] at hrun

end RebooterHub.Sources
