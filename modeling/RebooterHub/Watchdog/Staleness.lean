import RebooterHub.Support.Fallible
import RebooterHub.Watchdog.Isolation
import RebooterHub.Watchdog.Probes

/-!
# Watchdog — Staleness

What the probes on stored measurements answer when their source has no fresh sample, and what an
edge rule on such a probe does over a run of ticks.

* `runProbe_unsampled`: an SNMP rate probe whose fields can be read succeeds; every other probe
  fails, behind its gate for stale samples or because its fields cannot be read.
* `handsOver_iff`: a tick hands an edge rule's action to the executors exactly when it finds the
  rule ripe and its probe fails.
* `stale_run_hands_over_iff`: so in a run without fresh samples exactly the ripe rules on a probe
  that does not succeed hand their actions over.
-/

namespace RebooterHub.Watchdog
open RebooterHub.Runs RebooterHub.Fallible

/-! ### Silent sources -/

/-- The source of a probe on external sensors has no sample of the last `max_sample_age_seconds` of
the probe. -/
def SourceSilent (db : Telemetry) (now : Time) (ms : List (String × Json)) (default : Int) :
    Prop :=
  ∀ source maxAge, textField ms "source_id" = .ok source →
    intField ms "max_sample_age_seconds" default = .ok maxAge →
    ∀ s ∈ db.sensors, s.sourceId = source → s.sampledAt < now - seconds maxAge

/-- The device of a power probe has no sample whose age, in seconds, is within the probe's
`max_sample_age_seconds`. -/
def DeviceSilent (db : Telemetry) (now : Time) (ms : List (String × Json)) : Prop :=
  ∀ device maxAge, textField ms "device_id" = .ok device →
    intField ms "max_sample_age_seconds" 600 = .ok maxAge →
    ∀ s ∈ channelSamples db device, maxAge < ageSeconds now s

/-- The probe kinds on a Home Assistant entity. -/
def haNumericKinds : List String := ["ha_numeric_above", "ha_numeric_below"]

/-- The probe kinds on the production of a solar source. -/
def solarKinds : List String := ["solar_production_above", "solar_production_below"]

/-- The probe kinds on the power of a device. -/
def powerKinds : List String := ["power_above", "power_below", "power_zero_while_on"]

/-- The probe kinds on the throughput of an SNMP interface. -/
def throughputKinds : List String := ["snmp_throughput_above", "snmp_throughput_below"]

/-- The kinds of the SNMP rate probes. -/
def snmpRateKinds : List String := throughputKinds ++ ["snmp_error_rate_above"]

/-- A probe that compares a stored measurement with a threshold, and whose source has no sample in
its freshness window. -/
inductive Unsampled (db : Telemetry) (now : Time) : Json → Prop where
  | haNumeric {ms : List (String × Json)} {kind : String} :
      kind ∈ haNumericKinds → field ms "kind" = .str kind →
      SourceSilent db now ms 60 → Unsampled db now (.obj ms)
  | solar {ms : List (String × Json)} {kind : String} :
      kind ∈ solarKinds → field ms "kind" = .str kind →
      SourceSilent db now ms 1800 → Unsampled db now (.obj ms)
  | power {ms : List (String × Json)} {kind : String} :
      kind ∈ powerKinds → field ms "kind" = .str kind →
      DeviceSilent db now ms → Unsampled db now (.obj ms)
  | snmpThroughput {ms : List (String × Json)} {kind : String} :
      kind ∈ throughputKinds → field ms "kind" = .str kind →
      SourceSilent db now ms 600 → Unsampled db now (.obj ms)
  | snmpErrorRate {ms : List (String × Json)} :
      field ms "kind" = .str "snmp_error_rate_above" → SourceSilent db now ms 600 →
      Unsampled db now (.obj ms)

/-- The fields that name the source, the interface and the freshness window of an SNMP rate probe
can be read. -/
structure PairReads (now : Time) (ms : List (String × Json)) : Prop where
  source : ∃ s, textField ms "source_id" = .ok s ∧ s ≠ ""
  interface : ∃ s, textField ms "interface" = .ok s ∧ s ≠ ""
  window : ∃ maxAge oldest, intField ms "max_sample_age_seconds" 600 = .ok maxAge ∧
    cutoff now maxAge = .ok oldest

/-- The probe is an SNMP rate probe whose fields can be read. -/
inductive SnmpReads (now : Time) : Json → Prop where
  | throughput {ms : List (String × Json)} {kind : String} :
      kind ∈ throughputKinds → field ms "kind" = .str kind →
      (∃ d ∈ ["in", "out", "total"], direction ms = .ok d) →
      (∃ x, (field ms "threshold_bps").toFloat = .ok x) → PairReads now ms →
      SnmpReads now (.obj ms)
  | errorRate {ms : List (String × Json)} :
      field ms "kind" = .str "snmp_error_rate_above" →
      (∃ x, (field ms "threshold_errors_per_min").toFloat = .ok x) → PairReads now ms →
      SnmpReads now (.obj ms)

/-! ### What the queries find -/

theorem cutoff_eq {now oldest : Time} {maxAge : Int} (h : cutoff now maxAge = .ok oldest) :
    oldest = now - seconds maxAge := by
  rw [cutoff] at h
  split at h
  · exact (Except.ok.inj h).symm
  · cases h

/-- A source without a fresh sample has no latest sample. -/
theorem latestSample_silent {db : Telemetry} {now : Time} {source : String} {maxAge : Int}
    (h : ∀ s ∈ db.sensors, s.sourceId = source → s.sampledAt < now - seconds maxAge)
    {found : Option SensorSample} (hfound : latestSample db now source maxAge = .ok found) :
    found = none := by
  obtain ⟨oldest, hcut, hfound⟩ := bind_eq_ok hfound
  obtain rfl := Except.ok.inj hfound
  obtain rfl := cutoff_eq hcut
  have hnone : db.sensors.filter
      (fun s => s.sourceId = source ∧ now - seconds maxAge ≤ s.sampledAt) = [] := by
    rw [List.filter_eq_nil_iff]
    intro s hs hfresh
    obtain ⟨hsource, hle⟩ := of_decide_eq_true hfresh
    exact absurd hle (Int.not_le.mpr (h s hs hsource))
  rw [hnone]
  rfl

/-- A source without a fresh sample has no pair of latest samples. -/
theorem lastTwoSamples_silent {db : Telemetry} {now oldest : Time} {source : String}
    {maxAge : Int}
    (h : ∀ s ∈ db.sensors, s.sourceId = source → s.sampledAt < now - seconds maxAge)
    (hcut : cutoff now maxAge = .ok oldest) : lastTwoSamples db now source maxAge = .ok none := by
  rw [lastTwoSamples, hcut, ok_bind]
  refine congrArg Except.ok ?_
  split
  · next newer older rest hrows =>
      -- the newer of the two is one of the source's samples, and none of these is fresh
      have hmem : newer ∈ newestFirst (·.sampledAt) (db.sensors.filter (·.sourceId = source)) := by
        rw [hrows]
        exact List.mem_cons_self
      obtain ⟨hs, hsource⟩ := List.mem_filter.mp ((List.mem_insertionSort _).mp hmem)
      rw [cutoff_eq hcut, if_pos (h newer hs (of_decide_eq_true hsource))]
  · rfl

/-- The latest power sample of a silent device is not fresh. -/
theorem latestPower_silent {db : Telemetry} {now : Time} {device : String} {maxAge : Int}
    (h : ∀ s ∈ channelSamples db device, maxAge < ageSeconds now s) {s : PowerSample}
    (hs : latestPower db device = some s) : maxAge < ageSeconds now s :=
  h s ((List.mem_insertionSort _).mp (List.mem_of_mem_head? hs))

/-! ### What the probes answer -/

theorem probeHaNumeric_silent {db : Telemetry} {now : Time} {ms : List (String × Json)}
    {kind : String} (hs : SourceSilent db now ms 60) {a : Answer}
    (h : probeHaNumeric db now ms kind = .ok a) : a.1 = false := by
  rw [probeHaNumeric] at h
  obtain ⟨source, hsource, h⟩ := bind_eq_ok h
  obtain ⟨entity, -, h⟩ := bind_eq_ok h
  split at h
  · obtain rfl := Except.ok.inj h
    rfl
  obtain ⟨attr, -, h⟩ := bind_eq_ok h
  obtain ⟨_ | threshold, -, h⟩ := bind_eq_ok h
  · obtain rfl := Except.ok.inj h
    rfl
  obtain ⟨maxAge, hage, h⟩ := bind_eq_ok h
  obtain ⟨found, hfound, h⟩ := bind_eq_ok h
  obtain rfl := latestSample_silent (hs source maxAge hsource hage) hfound
  obtain rfl := Except.ok.inj h
  rfl

theorem probeSolar_silent {db : Telemetry} {now : Time} {ms : List (String × Json)}
    {kind : String} (hs : SourceSilent db now ms 1800) {a : Answer}
    (h : probeSolar db now ms kind = .ok a) : a.1 = false := by
  rw [probeSolar] at h
  obtain ⟨source, hsource, h⟩ := bind_eq_ok h
  split at h
  · obtain rfl := Except.ok.inj h
    rfl
  obtain ⟨_ | threshold, -, h⟩ := bind_eq_ok h
  · obtain rfl := Except.ok.inj h
    rfl
  obtain ⟨maxAge, hage, h⟩ := bind_eq_ok h
  obtain ⟨found, hfound, h⟩ := bind_eq_ok h
  obtain rfl := latestSample_silent (hs source maxAge hsource hage) hfound
  obtain rfl := Except.ok.inj h
  rfl

theorem probePower_silent {db : Telemetry} {now : Time} {ms : List (String × Json)}
    {kind : String} (hs : DeviceSilent db now ms) {a : Answer}
    (h : probePower db now ms kind = .ok a) : a.1 = false := by
  rw [probePower] at h
  obtain ⟨device, hdevice, h⟩ := bind_eq_ok h
  split at h
  · obtain rfl := Except.ok.inj h
    rfl
  obtain ⟨window, -, h⟩ := bind_eq_ok h
  obtain ⟨maxAge, hage, h⟩ := bind_eq_ok h
  cases hlatest : latestPower db device with
  | none =>
      rw [hlatest] at h
      obtain rfl := Except.ok.inj h
      rfl
  | some latest =>
      rw [hlatest] at h
      dsimp only at h
      rw [if_pos (latestPower_silent (hs device maxAge hdevice hage) hlatest)] at h
      obtain rfl := Except.ok.inj h
      rfl

/-- The front half of the SNMP rate probes answers for a silent source: it succeeds, if the fields
it reads can be read. -/
theorem snmpPairInterface_silent {db : Telemetry} {now : Time} {ms : List (String × Json)}
    (hs : SourceSilent db now ms 600) :
    (∃ e, snmpPairInterface db now ms = .error e ∧ ¬ PairReads now ms) ∨
      ∃ a : Answer, snmpPairInterface db now ms = .ok (.early a) ∧
        (a.1 = true ↔ PairReads now ms) := by
  rw [snmpPairInterface]
  cases hsource : textField ms "source_id" with
  | error e =>
      refine .inl ⟨e, rfl, fun h => ?_⟩
      obtain ⟨s, hread, -⟩ := h.source
      cases hsource.symm.trans hread
  | ok source =>
      rw [ok_bind]
      cases hinterface : textField ms "interface" with
      | error e =>
          refine .inl ⟨e, rfl, fun h => ?_⟩
          obtain ⟨s, hread, -⟩ := h.interface
          cases hinterface.symm.trans hread
      | ok interface =>
          rw [ok_bind]
          by_cases hblank : source = "" ∨ interface = ""
          · rw [if_pos hblank]
            refine .inr ⟨_, rfl, iff_of_false nofun fun h => ?_⟩
            obtain ⟨s, hread, hs⟩ := h.source
            obtain ⟨s', hread', hs'⟩ := h.interface
            cases hsource.symm.trans hread
            cases hinterface.symm.trans hread'
            exact hblank.elim hs hs'
          · rw [if_neg hblank]
            obtain ⟨hs₁, hs₂⟩ := not_or.mp hblank
            cases hage : intField ms "max_sample_age_seconds" 600 with
            | error e =>
                refine .inl ⟨e, rfl, fun h => ?_⟩
                obtain ⟨maxAge, _, hread, -⟩ := h.window
                cases hage.symm.trans hread
            | ok maxAge =>
                rw [ok_bind]
                cases hcut : cutoff now maxAge with
                | error e =>
                    refine .inl ⟨e, ?_, fun h => ?_⟩
                    · rw [lastTwoSamples, hcut]
                      rfl
                    · obtain ⟨maxAge', oldest, hread, hcut'⟩ := h.window
                      cases hage.symm.trans hread
                      cases hcut.symm.trans hcut'
                | ok oldest =>
                    -- every field was read, and there is no pair
                    rw [lastTwoSamples_silent (hs source maxAge hsource hage) hcut]
                    exact .inr ⟨_, rfl, iff_of_true rfl
                      ⟨⟨source, hsource, hs₁⟩, ⟨interface, hinterface, hs₂⟩,
                        ⟨maxAge, oldest, hage, hcut⟩⟩⟩

theorem caught_some {α : Type} {x : Except PyError α} {y : α} :
    caught x = .ok (some y) ↔ x = .ok y := by
  cases x with
  | ok z => simp [caught]
  | error e => cases e <;> simp [caught]

/-- A probe that answers nothing but failures is one that fails. -/
theorem guarded_failed {x : Except PyError Answer} (h : ∀ a, x = .ok a → a.1 = false) :
    ∃ d, guarded x = .done false d := by
  cases x with
  | error e => exact ⟨_, rfl⟩
  | ok a =>
      obtain ⟨ok, d⟩ := a
      obtain rfl : ok = false := h _ rfl
      exact ⟨d, rfl⟩

theorem guarded_early {p : Except PyError PairInterface} {P : Prop}
    {f : PairInterface → Except PyError Answer} (hf : ∀ a, f (.early a) = .ok a)
    (hp : (∃ e, p = .error e ∧ ¬ P) ∨ ∃ a : Answer, p = .ok (.early a) ∧ (a.1 = true ↔ P)) :
    ∃ ok d, guarded (p >>= f) = .done ok d ∧ (ok = true ↔ P) := by
  rcases hp with ⟨e, rfl, hnot⟩ | ⟨a, rfl, hiff⟩
  · exact ⟨false, _, rfl, iff_of_false nofun hnot⟩
  · rw [ok_bind, hf]
    exact ⟨a.1, a.2, rfl, hiff⟩

theorem probeSnmpThroughput_silent {db : Telemetry} {now : Time} {ms : List (String × Json)}
    (hs : SourceSilent db now ms 600) (kind : String) :
    ∃ ok d, guarded (probeSnmpThroughput db now ms kind) = .done ok d ∧
      (ok = true ↔ (∃ d ∈ ["in", "out", "total"], direction ms = .ok d) ∧
        (∃ x, (field ms "threshold_bps").toFloat = .ok x) ∧ PairReads now ms) := by
  rw [probeSnmpThroughput]
  cases hdir : direction ms with
  | error e =>
      refine ⟨false, _, rfl, iff_of_false nofun ?_⟩
      rintro ⟨⟨d, -, hread⟩, -⟩
      cases hread
  | ok dir =>
      rw [ok_bind]
      by_cases hmem : dir ∉ ["in", "out", "total"]
      · rw [if_pos hmem]
        refine ⟨false, _, rfl, iff_of_false nofun ?_⟩
        rintro ⟨⟨d, hd, hread⟩, -⟩
        cases hread
        exact hmem hd
      · rw [if_neg hmem]
        have hdirection : ∃ d ∈ ["in", "out", "total"], Except.ok dir = (.ok d : Except PyError _) :=
          ⟨dir, not_not.mp hmem, rfl⟩
        cases hthreshold : caught (field ms "threshold_bps").toFloat with
        | error e =>
            refine ⟨false, _, rfl, iff_of_false nofun ?_⟩
            rintro ⟨-, ⟨x, hread⟩, -⟩
            rw [caught_some.mpr hread] at hthreshold
            cases hthreshold
        | ok found =>
            rw [ok_bind]
            cases found with
            | none =>
                refine ⟨false, _, rfl, iff_of_false nofun ?_⟩
                rintro ⟨-, ⟨x, hread⟩, -⟩
                rw [caught_some.mpr hread] at hthreshold
                cases hthreshold
            | some threshold =>
                have hfloat : ∃ x, (field ms "threshold_bps").toFloat = .ok x :=
                  ⟨threshold, caught_some.mp hthreshold⟩
                simp only [hdirection, hfloat, true_and]
                exact guarded_early (fun _ => rfl) (snmpPairInterface_silent hs)

theorem probeSnmpErrorRate_silent {db : Telemetry} {now : Time} {ms : List (String × Json)}
    (hs : SourceSilent db now ms 600) :
    ∃ ok d, guarded (probeSnmpErrorRate db now ms) = .done ok d ∧
      (ok = true ↔ (∃ x, (field ms "threshold_errors_per_min").toFloat = .ok x) ∧
        PairReads now ms) := by
  rw [probeSnmpErrorRate]
  cases hthreshold : caught (field ms "threshold_errors_per_min").toFloat with
  | error e =>
      refine ⟨false, _, rfl, iff_of_false nofun ?_⟩
      rintro ⟨⟨x, hread⟩, -⟩
      rw [caught_some.mpr hread] at hthreshold
      cases hthreshold
  | ok found =>
      rw [ok_bind]
      cases found with
      | none =>
          refine ⟨false, _, rfl, iff_of_false nofun ?_⟩
          rintro ⟨⟨x, hread⟩, -⟩
          rw [caught_some.mpr hread] at hthreshold
          cases hthreshold
      | some threshold =>
          have hfloat : ∃ x, (field ms "threshold_errors_per_min").toFloat = .ok x :=
            ⟨threshold, caught_some.mp hthreshold⟩
          simp only [hfloat, true_and]
          exact guarded_early (fun _ => rfl) (snmpPairInterface_silent hs)

theorem SnmpReads.kind {now : Time} {ms : List (String × Json)} (h : SnmpReads now (.obj ms)) :
    ∃ kind ∈ snmpRateKinds, field ms "kind" = .str kind := by
  cases h with
  | throughput hmem hkind => exact ⟨_, List.mem_append_left _ hmem, hkind⟩
  | errorRate hkind => exact ⟨_, List.mem_append_right _ (List.mem_singleton_self _), hkind⟩

/-- A probe of another kind that answers only failures. -/
theorem guarded_gate {now : Time} {ms : List (String × Json)} {kind : String}
    {x : Except PyError Answer} (hkind : field ms "kind" = .str kind)
    (hother : kind ∉ snmpRateKinds) (hfails : ∀ a, x = .ok a → a.1 = false) :
    ∃ ok d, guarded x = .done ok d ∧ (ok = true ↔ SnmpReads now (.obj ms)) := by
  obtain ⟨d, hd⟩ := guarded_failed hfails
  refine ⟨false, d, hd, iff_of_false nofun fun hreads => ?_⟩
  obtain ⟨kind', hmem, hkind'⟩ := hreads.kind
  cases hkind.symm.trans hkind'
  exact hother hmem

/-- **What a probe without a fresh sample answers**: success if it is an SNMP rate probe whose
fields can be read, failure otherwise. -/
theorem runProbe_unsampled {db : Telemetry} {now : Time} {probe : Json}
    (h : Unsampled db now probe) (elsewhere : Json → ProbeRun) :
    ∃ ok d, runProbe db now elsewhere probe = .done ok d ∧ (ok = true ↔ SnmpReads now probe) := by
  cases h with
  | @haNumeric ms kind hmem hkind hs =>
      have hother : ∀ k ∈ haNumericKinds, k ∉ snmpRateKinds := by decide
      have hrun : runProbe db now elsewhere (.obj ms) = guarded (probeHaNumeric db now ms kind) := by
        simp only [haNumericKinds, List.mem_cons, List.not_mem_nil, or_false] at hmem
        rcases hmem with rfl | rfl <;> simp only [runProbe, hkind]
      rw [hrun]
      exact guarded_gate hkind (hother kind hmem) fun a ha => probeHaNumeric_silent hs ha
  | @solar ms kind hmem hkind hs =>
      have hother : ∀ k ∈ solarKinds, k ∉ snmpRateKinds := by decide
      have hrun : runProbe db now elsewhere (.obj ms) = guarded (probeSolar db now ms kind) := by
        simp only [solarKinds, List.mem_cons, List.not_mem_nil, or_false] at hmem
        rcases hmem with rfl | rfl <;> simp only [runProbe, hkind]
      rw [hrun]
      exact guarded_gate hkind (hother kind hmem) fun a ha => probeSolar_silent hs ha
  | @power ms kind hmem hkind hs =>
      have hother : ∀ k ∈ powerKinds, k ∉ snmpRateKinds := by decide
      have hrun : runProbe db now elsewhere (.obj ms) = guarded (probePower db now ms kind) := by
        simp only [powerKinds, List.mem_cons, List.not_mem_nil, or_false] at hmem
        rcases hmem with rfl | rfl | rfl <;> simp only [runProbe, hkind]
      rw [hrun]
      exact guarded_gate hkind (hother kind hmem) fun a ha => probePower_silent hs ha
  | @snmpThroughput ms kind hmem hkind hs =>
      have hrun : runProbe db now elsewhere (.obj ms)
          = guarded (probeSnmpThroughput db now ms kind) := by
        simp only [throughputKinds, List.mem_cons, List.not_mem_nil, or_false] at hmem
        rcases hmem with rfl | rfl <;> simp only [runProbe, hkind]
      rw [hrun]
      obtain ⟨ok, d, hanswer, hiff⟩ := probeSnmpThroughput_silent hs kind
      refine ⟨ok, d, hanswer, hiff.trans ⟨fun ⟨hd, hx, hp⟩ => .throughput hmem hkind hd hx hp, ?_⟩⟩
      rintro (⟨-, -, hd, hx, hp⟩ | ⟨hkind', -⟩)
      · exact ⟨hd, hx, hp⟩
      · have hother : "snmp_error_rate_above" ∉ throughputKinds := by decide
        cases hkind.symm.trans hkind'
        exact absurd hmem hother
  | @snmpErrorRate ms hkind hs =>
      have hrun : runProbe db now elsewhere (.obj ms) = guarded (probeSnmpErrorRate db now ms) := by
        simp only [runProbe, hkind]
      rw [hrun]
      obtain ⟨ok, d, hanswer, hiff⟩ := probeSnmpErrorRate_silent hs
      refine ⟨ok, d, hanswer, hiff.trans ⟨fun ⟨hx, hp⟩ => .errorRate hkind hx hp, ?_⟩⟩
      rintro (⟨hmem, hkind', -⟩ | ⟨-, hx, hp⟩)
      · have hother : "snmp_error_rate_above" ∉ throughputKinds := by decide
        cases hkind.symm.trans hkind'
        exact absurd hmem hother
      · exact ⟨hx, hp⟩

/-! ### When a tick hands an action over -/

/-- A tick that reaches the rule hands its action to the executors, also if the tick is rolled back
afterwards. -/
def HandsOver (inp : TickInput) (rule : WatchdogRule) : Prop :=
  (inp.watchdogDisabled || inp.maintenanceMode) = false ∧ (tickRule inp rule).dispatched ≠ []

/-- A failure at this tick fires the rule: the runtime is on, the rule is loaded, due and outside
its maintenance windows, one failure short of its threshold, past its cooldown, and has an action
that can be read. -/
structure Ripe (inp : TickInput) (rule : WatchdogRule) : Prop where
  running : (inp.watchdogDisabled || inp.maintenanceMode) = false
  loaded : isLoaded rule = true
  due : ruleIsDue rule inp.now = true
  window : inMaintenanceWindow rule inp.now = .ok false
  threshold : rule.failureThreshold ≤ (rule.failureStreak + 1 : Nat)
  cooldown : coolingDown rule inp.now = false
  action : isObject rule.action.orEmpty = true

/-- What a tick dispatches, some rule hands over. -/
theorem handsOver_of_dispatched {inp : TickInput} {rules : List WatchdogRule}
    {p : String × Json} (h : p ∈ (tick inp rules).dispatched) :
    ∃ r ∈ rules, p.1 = r.id ∧ HandsOver inp r := by
  have hrules : ∀ rules : List WatchdogRule, p ∈ (tickRules inp rules).dispatched →
      ∃ r ∈ rules, p.1 = r.id ∧ (tickRule inp r).dispatched ≠ [] := by
    intro rules hp
    induction rules with
    | nil => cases hp
    | cons r rs ih =>
        have hsplit : p ∈ (tickRule inp r).dispatched.map (fun a => (r.id, a)) ∨
            p ∈ (tickRules inp rs).dispatched := by
          rw [tickRules] at hp
          dsimp only at hp
          split at hp
          · exact .inl hp
          · exact List.mem_append.mp hp
        rcases hsplit with hp | hp
        · obtain ⟨a, ha, rfl⟩ := List.mem_map.mp hp
          exact ⟨r, List.mem_cons_self, rfl, List.ne_nil_of_mem ha⟩
        · obtain ⟨r', hr', hid, hne⟩ := ih hp
          exact ⟨r', List.mem_cons_of_mem _ hr', hid, hne⟩
  cases hstop : inp.watchdogDisabled || inp.maintenanceMode with
  | true =>
      rw [tick, if_pos hstop] at h
      cases h
  | false =>
      have hp : p ∈ (tickRules inp rules).dispatched := by
        rw [tick, hstop, if_neg Bool.false_ne_true] at h
        dsimp only at h
        split at h <;> exact h
      obtain ⟨r, hr, hid, hne⟩ := hrules rules hp
      exact ⟨r, hr, hid, hstop, hne⟩

theorem recordSuccess_dispatched (r : WatchdogRule) : (recordSuccess r).dispatched = [] := by
  rw [recordSuccess]
  split
  · dsimp only
    split <;> rfl
  · rfl

theorem recordFailure_dispatched_iff {inp : TickInput} {r : WatchdogRule} {kind : Json}
    (hkind : actionKind r.action = .ok kind) :
    (recordFailure inp r).dispatched ≠ [] ↔
      r.failureThreshold ≤ (r.failureStreak + 1 : Nat) ∧ coolingDown r inp.now = false := by
  rw [recordFailure]
  dsimp only
  have hcool : coolingDown { r with recoveryStreak := 0, failureStreak := r.failureStreak + 1 }
      inp.now = coolingDown r inp.now := rfl
  rw [hcool]
  by_cases hshort : ((r.failureStreak + 1 : Nat) : Int) < r.failureThreshold
  · rw [if_pos hshort]
    exact iff_of_false (fun h => h rfl) fun h => absurd h.1 (Int.not_le.mpr hshort)
  · rw [if_neg hshort]
    cases coolingDown r inp.now with
    | true =>
        refine iff_of_false (fun h => h rfl) ?_
        rintro ⟨-, h⟩
        cases h
    | false =>
        have hfire : ∃ report, fireAction inp { r with
            recoveryStreak := 0, failureStreak := r.failureStreak + 1 } r.action
              = .ok report := by
          rw [fireAction, hkind, ok_bind]
          exact ⟨_, rfl⟩
        obtain ⟨report, hfire⟩ := hfire
        rw [if_neg Bool.false_ne_true, hfire]
        exact iff_of_true (List.cons_ne_nil _ _) ⟨Int.not_lt.mp hshort, rfl⟩

/-- **When an edge rule's action is handed over**: when the rule is ripe and its probe fails. -/
theorem handsOver_iff {inp : TickInput} {r : WatchdogRule} (hb : ¬ IsBinding r) :
    HandsOver inp r ↔ Ripe inp r ∧ (probeOutcome (inp.runProbe r)).1 = .failure := by
  -- what a tick that does not get as far as the rule's action hands over
  have hnothing : (tickRule inp r).dispatched = [] →
      ¬ (Ripe inp r ∧ (probeOutcome (inp.runProbe r)).1 = .failure) →
      (HandsOver inp r ↔ Ripe inp r ∧ (probeOutcome (inp.runProbe r)).1 = .failure) :=
    fun hnone hnot => iff_of_false (fun h => h.2 hnone) hnot
  by_cases hskip : (!isLoaded r || !ruleIsDue r inp.now) = true
  · refine hnothing (by rw [tickRule, if_pos hskip]) ?_
    rintro ⟨h, -⟩
    rw [h.loaded, h.due] at hskip
    cases hskip
  cases hw : inMaintenanceWindow r inp.now with
  | error e =>
      refine hnothing (by rw [tickRule, if_neg hskip, hw]) ?_
      rintro ⟨h, -⟩
      cases hw.symm.trans h.window
  | ok w =>
      cases w with
      | true =>
          refine hnothing (by rw [tickRule, if_neg hskip, hw]) ?_
          rintro ⟨h, -⟩
          cases hw.symm.trans h.window
      | false =>
          obtain ⟨o, details, hrun⟩ : ∃ o d, probeOutcome (inp.runProbe r) = (o, d) := ⟨_, _, rfl⟩
          have ht : (tickRule inp r).dispatched
              = (updateStateAndMaybeFire inp r o).dispatched := by
            rw [tickRule, if_neg hskip, hw, hrun]
          cases hkind : actionKind r.action with
          | error e =>
              refine hnothing (by rw [ht, updateStateAndMaybeFire, hkind]) ?_
              rintro ⟨h, -⟩
              obtain ⟨kind, hread⟩ := (isObject_iff r.action).mp h.action
              cases hkind.symm.trans hread
          | ok kind =>
              have hne : kind ≠ .str "binding" := by
                rintro rfl
                exact hb hkind
              rw [updateStateAndMaybeFire, hkind] at ht
              dsimp only at ht
              rw [if_neg hne] at ht
              rw [hrun] at hnothing ⊢
              cases o with
              | success =>
                  refine hnothing (ht.trans (recordSuccess_dispatched _)) ?_
                  rintro ⟨-, h⟩
                  cases h
              | probeError =>
                  refine hnothing ht ?_
                  rintro ⟨-, h⟩
                  cases h
              | failure =>
                  have hkind' : actionKind { probedAt r inp.now with
                      lastOutcome := some (.probe .failure) }.action = .ok kind := hkind
                  have hiff := @recordFailure_dispatched_iff inp _ _ hkind'
                  rw [HandsOver, ht, hiff]
                  obtain ⟨hload, hdue⟩ : isLoaded r = true ∧ ruleIsDue r inp.now = true := by
                    simpa using hskip
                  constructor
                  · rintro ⟨hrunning, hthreshold, hcool⟩
                    exact ⟨⟨hrunning, hload, hdue, hw, hthreshold, hcool,
                      (isObject_iff r.action).mpr ⟨kind, hkind⟩⟩, rfl⟩
                  · rintro ⟨h, -⟩
                    exact ⟨h.running, h.threshold, h.cooldown⟩

/-! ### Runs without a fresh sample -/

/-- A tick that probes the rule on tables in which its source has no fresh sample. -/
def SilentTick (rule : WatchdogRule) (i : RuleInput) : Prop :=
  ∃ db elsewhere, i.runProbe rule = runProbe db i.now elsewhere rule.probe ∧
    Unsampled db i.now rule.probe

theorem EdgeStep.probe {now : Time} {o : Option ProbeOutcome} {r r' : WatchdogRule}
    {es : List EventRecord} (h : EdgeStep now o r r' es) : r'.probe = r.probe := by
  cases h <;> rfl

/-- **One tick** without a fresh sample. -/
theorem SilentTick.outcome {r : WatchdogRule} {i : RuleInput} (h : SilentTick r i) :
    SnmpReads i.now r.probe ∧ (probeOutcome (i.runProbe r)).1 = .success ∨
      ¬ SnmpReads i.now r.probe ∧ (probeOutcome (i.runProbe r)).1 = .failure := by
  obtain ⟨db, elsewhere, hrun, hsilent⟩ := h
  obtain ⟨ok, d, hanswer, hiff⟩ := runProbe_unsampled hsilent elsewhere
  rw [hrun, hanswer]
  cases ok with
  | true => exact .inl ⟨hiff.mp rfl, rfl⟩
  | false => exact .inr ⟨fun hreads => Bool.false_ne_true (hiff.mpr hreads), rfl⟩

theorem evaluated_eq {i : RuleInput} {r : WatchdogRule} {o : ProbeOutcome}
    (h : evaluated i r = some o) : (probeOutcome (i.runProbe r)).1 = o := by
  rw [evaluated] at h
  split at h
  · cases h
  · split at h
    · cases h
    · split at h
      · exact Option.some.inj h
      · cases h

/-- **Stale data.**  In every run of ticks during which the source of an edge rule's probe has no
sample in its freshness window, an SNMP rate probe whose fields can be read succeeds at every tick
that evaluates it, and every other probe fails; and a tick hands the rule's action over exactly
when it finds the rule ripe and its probe is not an SNMP rate probe whose fields can be read. -/
theorem stale_run_hands_over_iff {r : WatchdogRule} (hb : ¬ IsBinding r) {is : List RuleInput}
    (hsilent : Admits afterTick SilentTick r is) :
    Admits afterTick (fun r' i =>
      (∀ o, evaluated i r' = some o →
        (o = .success ↔ SnmpReads i.now r.probe) ∧ (o = .failure ↔ ¬ SnmpReads i.now r.probe)) ∧
      (HandsOver i.toTickInput r' ↔ Ripe i.toTickInput r' ∧ ¬ SnmpReads i.now r.probe)) r is := by
  refine admits_of_invariant (I := fun r' => ¬ IsBinding r' ∧ r'.probe = r.probe) ?_ ⟨hb, rfl⟩
    hsilent
  rintro r' i ⟨hb', hprobe⟩ hi
  refine ⟨⟨afterTick_edge hb', (edge_step hb').probe.trans hprobe⟩, fun o ho => ?_, ?_⟩
  · rw [← hprobe, ← evaluated_eq ho]
    rcases hi.outcome with ⟨hreads, hsuccess⟩ | ⟨hnot, hfailure⟩
    · rw [hsuccess]
      exact ⟨iff_of_true rfl hreads, iff_of_false nofun (not_not.mpr hreads)⟩
    · rw [hfailure]
      exact ⟨iff_of_false nofun hnot, iff_of_true rfl hnot⟩
  · rw [← hprobe, handsOver_iff hb']
    rcases hi.outcome with ⟨hreads, hsuccess⟩ | ⟨hnot, hfailure⟩
    · rw [hsuccess]
      exact iff_of_false (fun h => nomatch h.2) fun h => h.2 hreads
    · rw [hfailure]
      exact and_congr_right fun _ => iff_of_true rfl hnot

/-- A tick at second `n` that probes the tables. -/
def sampledTick (db : Telemetry) (n : Int) : RuleInput where
  now := seconds n
  watchdogDisabled := false
  maintenanceMode := false
  runProbe rule := runProbe db (seconds n) (fun _ => .raised "no such probe") rule.probe
  dispatchOne _ _ _ := .ok .null
  rolledBack := false

/-- Tables with one sample of a link and one of a device's power, both from the second 0. -/
def quietTables : Telemetry where
  sensors := [⟨"ext_1", seconds 0, .obj [("interfaces", .obj [])]⟩]
  power := [⟨"dev_1", 0, seconds 0, some 120⟩]
  heartbeats := []

/-- A rule that cycles a modem whose link carries no traffic. -/
def linkRule : WatchdogRule :=
  { cycleRule with probe := .obj [("kind", .str "snmp_throughput_below"),
      ("source_id", .str "ext_1"), ("interface", .str "wan"), ("threshold_bps", .int 1000)] }

/-- A rule that cycles a device that draws less than five watts. -/
def powerRule : WatchdogRule :=
  { cycleRule with probe := .obj [("kind", .str "power_below"), ("device_id", .str "dev_1"),
      ("threshold_w", .int 5)] }

theorem cycleRule_edge : ¬ IsBinding cycleRule := by
  intro h
  have hkind : ("cycle" : String) = "binding" := Json.str.inj (Except.ok.inj h)
  exact absurd hkind (by decide)

theorem linkRule_reads (n : Int) (hn : cutoff (seconds n) 600 = .ok (seconds (n - 600))) :
    SnmpReads (seconds n) linkRule.probe :=
  .throughput (.tail _ (.head _)) rfl ⟨"total", by decide, by rfl⟩ ⟨.fin 1000, by decide +kernel⟩
    ⟨⟨"ext_1", by rfl, by decide⟩, ⟨"wan", by rfl, by decide⟩, ⟨600, _, by rfl, hn⟩⟩

theorem linkRule_silent {r : WatchdogRule} (hr : r.probe = linkRule.probe) {n : Int}
    (hn : 600 < n) : SilentTick r (sampledTick quietTables n) := by
  refine ⟨quietTables, fun _ => .raised "no such probe", rfl, ?_⟩
  rw [hr]
  refine .snmpThroughput (.tail _ (.head _)) rfl fun source maxAge _ hage s hs _ => ?_
  obtain rfl : 600 = maxAge := Except.ok.inj hage
  obtain rfl := List.mem_singleton.mp hs
  change (0 * 1000000 : Int) < n * 1000000 - 600 * 1000000
  omega

/-- A link that was last sampled an hour ago fires nothing. -/
theorem stale_run_hands_over_nothing :
    Admits afterTick (fun r i => ¬ HandsOver i.toTickInput r) linkRule
      [sampledTick quietTables 3600, sampledTick quietTables 3660] := by
  have hb : ¬ IsBinding linkRule := cycleRule_edge
  have hsilent : Admits afterTick SilentTick linkRule
      [sampledTick quietTables 3600, sampledTick quietTables 3660] :=
    ⟨linkRule_silent rfl (by decide), linkRule_silent (edge_step hb).probe (by decide), trivial⟩
  obtain ⟨⟨-, hfirst⟩, ⟨-, hsecond⟩, -⟩ := stale_run_hands_over_iff hb hsilent
  exact ⟨fun h => (hfirst.mp h).2 (linkRule_reads 3600 (by decide)),
    fun h => (hsecond.mp h).2 (linkRule_reads 3660 (by decide)), trivial⟩

/-- A device that was last sampled an hour ago, drawing 120 watts, is cycled. -/
theorem stale_sample_hands_over :
    ¬ IsBinding powerRule ∧ SilentTick powerRule (sampledTick quietTables 3600) ∧
      (tick (sampledTick quietTables 3600).toTickInput [powerRule]).dispatched
        = [("wdr_1", .obj [("kind", .str "cycle")])] := by
  refine ⟨cycleRule_edge, ⟨quietTables, fun _ => .raised "no such probe", rfl,
    .power (.tail _ (.head _)) rfl fun device maxAge _ hage s hs => ?_⟩, by rfl⟩
  obtain rfl : 600 = maxAge := Except.ok.inj hage
  obtain rfl := List.mem_singleton.mp (List.mem_of_mem_filter hs)
  decide

end RebooterHub.Watchdog
