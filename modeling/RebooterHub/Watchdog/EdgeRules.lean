import RebooterHub.Watchdog.Bindings

/-!
# Watchdog — Edge rules

The edge-triggered rules over a run of ticks: every rule whose action is not a binding.

`EdgeStep` lists what a committed tick can do to such a rule, one constructor for each branch of
`_update_state_and_maybe_fire`, and `edge_step` says that a tick does one of them.  The results
about runs are inductions over these steps.

* `fires_after_consecutive_failures`: in a run that takes up no interrupted streak, an action
  fires only when the last `failure_threshold` outcomes were failures.
* `edge_rule_invariant`: the cooldown between two firings, the range of `recovery_streak`, what
  the status `firing` says, and the failure between two recoveries.
-/

namespace RebooterHub.Watchdog
open RebooterHub.Runs

/-! ### What a tick does to an edge rule -/

/-- The row with `last_probed_at` and `last_outcome` stamped. -/
def noted (rule : WatchdogRule) (now : Time) (outcome : ProbeOutcome) : WatchdogRule :=
  { probedAt rule now with lastOutcome := some (.probe outcome) }

/-- A committed tick at `now` that evaluated `outcome`, on an edge rule: the row before it, the
row after it, and the events it records. -/
inductive EdgeStep (now : Time) :
    Option ProbeOutcome → WatchdogRule → WatchdogRule → List EventRecord → Prop where
  | idle {o : Option ProbeOutcome} {r : WatchdogRule} : EdgeStep now o r r []
  | skipped {r : WatchdogRule} (reason : String) :
      EdgeStep now none r { probedAt r now with lastOutcome := some .maintenanceSkip }
        [.maintenanceSkip reason]
  | probeError {r : WatchdogRule} (details : Json) :
      EdgeStep now (some .probeError) r (noted r now .probeError) [.probe .probeError details]
  | steady {r : WatchdogRule} (details : Json) :
      r.failureStreak = 0 → r.status ≠ .firing →
      EdgeStep now (some .success) r { noted r now .success with recoveryStreak := 0 }
        [.probe .success details]
  | recovering {r : WatchdogRule} (details : Json) :
      (r.recoveryStreak + 1 : Nat) < r.recoveryThreshold →
      EdgeStep now (some .success) r
        { noted r now .success with recoveryStreak := r.recoveryStreak + 1 }
        [.probe .success details]
  | recovered {r : WatchdogRule} (details : Json) (reason : String) :
      0 < r.failureStreak ∨ r.status = .firing →
      EdgeStep now (some .success) r
        { noted r now .success with failureStreak := 0, recoveryStreak := 0, status := .armed }
        [.probe .success details, .recovery reason]
  | failing {r : WatchdogRule} (details : Json) :
      EdgeStep now (some .failure) r
        { noted r now .failure with
          recoveryStreak := 0, failureStreak := r.failureStreak + 1 }
        [.probe .failure details]
  | cooling {r : WatchdogRule} (details : Json) :
      EdgeStep now (some .failure) r
        { noted r now .failure with
          recoveryStreak := 0, failureStreak := r.failureStreak + 1 }
        [.probe .failure details, .cooldownSkip (r.failureStreak + 1)]
  | fired {r : WatchdogRule} (details report : Json) :
      r.failureThreshold ≤ (r.failureStreak + 1 : Nat) → coolingDown r now = false →
      EdgeStep now (some .failure) r
        { noted r now .failure with
          recoveryStreak := 0, failureStreak := r.failureStreak + 1, status := .firing
          lastActionAt := some now }
        [.probe .failure details, .actionFired report]

/-- The state machine of an edge rule, once the probe's outcome is known. -/
theorem edge_update {inp : TickInput} {r : WatchdogRule} (hb : ¬ IsBinding r) (o : ProbeOutcome)
    (details : Json) (hraised : (updateStateAndMaybeFire inp r o).raised = none) :
    EdgeStep inp.now (some o) r (updateStateAndMaybeFire inp r o).rule
      (.probe o details :: (updateStateAndMaybeFire inp r o).events) := by
  cases hkind : actionKind r.action with
  | error e => simp [updateStateAndMaybeFire, hkind] at hraised
  | ok kind =>
      have hne : kind ≠ .str "binding" := by
        rintro rfl
        exact hb hkind
      cases o with
      | probeError =>
          simp only [updateStateAndMaybeFire, hkind, hne, if_false]
          exact .probeError details
      | success =>
          have hupd : updateStateAndMaybeFire inp r .success
              = recordSuccess (noted r inp.now .success) := by
            simp only [updateStateAndMaybeFire, hkind, hne, if_false]
            rfl
          rw [hupd]
          by_cases hopen : 0 < r.failureStreak ∨ r.status = .firing
          · by_cases hreach : r.recoveryThreshold ≤ (r.recoveryStreak + 1 : Nat)
            · have hrec : recordSuccess (noted r inp.now .success)
                  = ⟨{ noted r inp.now .success with
                        failureStreak := 0, recoveryStreak := 0, status := .armed },
                      [.recovery "recovery_threshold reached"], [], none⟩ := by
                simp only [recordSuccess, noted, probedAt, hopen, hreach, if_true]
              rw [hrec]
              exact .recovered details _ hopen
            · have hrec : recordSuccess (noted r inp.now .success)
                  = ⟨{ noted r inp.now .success with recoveryStreak := r.recoveryStreak + 1 },
                      [], [], none⟩ := by
                simp only [recordSuccess, noted, probedAt, hopen, hreach, if_true, if_false]
              rw [hrec]
              exact .recovering details (by omega)
          · have hrec : recordSuccess (noted r inp.now .success)
                = ⟨{ noted r inp.now .success with recoveryStreak := 0 }, [], [], none⟩ := by
              simp only [recordSuccess, noted, probedAt, hopen, if_false]
            rw [hrec]
            obtain ⟨hstreak, hstatus⟩ := not_or.mp hopen
            exact .steady details (by omega) hstatus
      | failure =>
          have hupd : updateStateAndMaybeFire inp r .failure
              = recordFailure inp (noted r inp.now .failure) := by
            simp only [updateStateAndMaybeFire, hkind, hne, if_false]
            rfl
          rw [hupd] at hraised ⊢
          by_cases hshort : ((r.failureStreak + 1 : Nat) : Int) < r.failureThreshold
          · have hrec : recordFailure inp (noted r inp.now .failure)
                = ⟨{ noted r inp.now .failure with
                      recoveryStreak := 0, failureStreak := r.failureStreak + 1 },
                    [], [], none⟩ := by
              simp only [recordFailure, noted, probedAt, hshort, if_true]
            rw [hrec]
            exact .failing details
          · cases hcool : coolingDown r inp.now with
            | true =>
                have hrec : recordFailure inp (noted r inp.now .failure)
                    = ⟨{ noted r inp.now .failure with
                          recoveryStreak := 0, failureStreak := r.failureStreak + 1 },
                        [.cooldownSkip (r.failureStreak + 1)], [], none⟩ := by
                  have hcool' : coolingDown { noted r inp.now .failure with
                      recoveryStreak := 0, failureStreak := r.failureStreak + 1 } inp.now
                        = true := hcool
                  simp only [noted, probedAt] at hcool'
                  simp only [recordFailure, noted, probedAt, hshort, if_false, hcool', if_true]
                rw [hrec]
                exact .cooling details
            | false =>
                have hcool' : coolingDown { noted r inp.now .failure with
                    recoveryStreak := 0, failureStreak := r.failureStreak + 1 } inp.now
                      = false := hcool
                simp only [noted, probedAt] at hcool'
                simp only [recordFailure, noted, probedAt, hshort, if_false, hcool',
                  Bool.false_eq_true] at hraised ⊢
                split at hraised
                · cases hraised
                · exact .fired details _ (by omega) hcool

/-- **What a tick does to an edge rule.** -/
theorem edge_step {i : RuleInput} {r : WatchdogRule} (hb : ¬ IsBinding r) :
    EdgeStep i.now (evaluated i r) r (afterTick r i) (committedTick i r).events := by
  rw [afterTick]
  rcases committedTick_cases i r with
    ⟨he, -, raised, ht⟩ | ⟨he, -, ht⟩ | ⟨o, details, he, -, ⟨e, hr, ht⟩ | ⟨hr, ht⟩⟩
  · rw [he, ht]
    exact .idle
  · rw [he, ht]
    exact .skipped _
  · rw [ht]
    exact .idle
  · rw [he, ht]
    exact edge_update hb o details hr

/-- A step leaves the operator's columns alone. -/
theorem EdgeStep.config {now : Time} {o : Option ProbeOutcome} {r r' : WatchdogRule}
    {es : List EventRecord} (h : EdgeStep now o r r' es) :
    r'.action = r.action ∧ r'.failureThreshold = r.failureThreshold ∧
      r'.recoveryThreshold = r.recoveryThreshold ∧ r'.cooldownSeconds = r.cooldownSeconds := by
  cases h <;> exact ⟨rfl, rfl, rfl, rfl⟩

theorem afterTick_edge {i : RuleInput} {r : WatchdogRule} (hb : ¬ IsBinding r) :
    ¬ IsBinding (afterTick r i) := by
  rw [IsBinding, (edge_step (i := i) hb).config.1]
  exact hb

/-- A rule whose streaks have not started, as `create_rule` and a backup import insert it. -/
structure Unfired (rule : WatchdogRule) : Prop where
  failureStreak : rule.failureStreak = 0
  recoveryStreak : rule.recoveryStreak = 0
  status : rule.status ≠ .firing

/-- The events a run of ticks records for the rule, in order. -/
def ruleEvents (rule : WatchdogRule) (is : List RuleInput) : List ProbeEvent :=
  emitted afterTick (fun r i => (committedTick i r).rows i.now) rule is

/-- What every step keeps of an edge rule and its events holds after every run. -/
theorem edge_invariant {I : List ProbeEvent → WatchdogRule → Prop}
    {ok : WatchdogRule → RuleInput → Prop}
    (hstep : ∀ h i r r' es, EdgeStep i.now (evaluated i r) r r' es → ok r i → I h r →
      I (h ++ es.map (fun e => ⟨r'.id, i.now, e⟩)) r')
    {r : WatchdogRule} {is : List RuleInput} (hb : ¬ IsBinding r) (h0 : I [] r)
    (hok : Admits afterTick ok r is) :
    I (ruleEvents r is) (run afterTick r is) := by
  refine (emitted_invariant (I := fun h r => I h r ∧ ¬ IsBinding r) ?_ ⟨h0, hb⟩ hok).1
  rintro h r i ⟨hI, hb⟩ hi
  exact ⟨hstep h i r _ _ (edge_step hb) hi hI, afterTick_edge hb⟩

/-! ### A rule on one probe -/

/-- A tick at `now` seconds in which every probe answers `ok`. -/
def probeTick (now : Int) (ok : Bool) : RuleInput where
  now := seconds now
  watchdogDisabled := false
  maintenanceMode := false
  runProbe _ := .done ok (.obj [])
  dispatchOne _ _ _ := .ok (.obj [])
  rolledBack := false

/-- A fresh rule with the given thresholds and cooldown that notifies. -/
def notifyRule (failureThreshold recoveryThreshold cooldownSeconds : Int) : WatchdogRule where
  id := "wdr_1"
  enabled := true
  status := .armed
  probe := .obj [("kind", .str "ping"), ("host", .str "192.168.1.1")]
  failureThreshold := failureThreshold
  recoveryThreshold := recoveryThreshold
  windowSeconds := 60
  cooldownSeconds := cooldownSeconds
  target := .obj [("kind", .str "device"), ("id", .str "dev_1")]
  action := .obj [("kind", .str "notify_only")]
  escalation := .obj [("kind", .str "stop")]
  maintenanceWindows := .arr []
  failureStreak := 0
  recoveryStreak := 0
  lastProbedAt := none
  lastActionAt := none
  lastOutcome := none

theorem notifyRule_edge (n m c : Int) : ¬ IsBinding (notifyRule n m c) := by
  intro h
  have hkind : ("notify_only" : String) = "binding" := Json.str.inj (Except.ok.inj h)
  exact absurd hkind (by decide)

theorem notifyRule_unfired (n m c : Int) : Unfired (notifyRule n m c) :=
  ⟨rfl, rfl, by rintro ⟨⟩⟩

/-! ### Consecutive failures -/

/-- The outcome of an event that is a probe's success or failure. -/
def EventRecord.verdict? : EventRecord → Option ProbeOutcome
  | .probe .success _ => some .success
  | .probe .failure _ => some .failure
  | _ => none

/-- The success and failure outcomes among events, in order. -/
def verdicts (h : List ProbeEvent) : List ProbeOutcome := h.filterMap fun e => e.record.verdict?

/-- A tick records that the rule's action fired. -/
def Fires (i : RuleInput) (rule : WatchdogRule) : Prop :=
  ∃ report, .actionFired report ∈ (committedTick i rule).events

/-- A failure the tick evaluates does not take up a streak that a success has interrupted. -/
def TakesUpNoStreak (rule : WatchdogRule) (i : RuleInput) : Prop :=
  evaluated i rule = some .failure →
    rule.failureThreshold ≤ 1 ∨ rule.failureStreak = 0 ∨ rule.recoveryStreak = 0

/-- While no recovery has begun, the failure streak is a run of failures at the end of the
verdicts; a threshold of one needs no streak. -/
def CountsFailures (threshold : Int) (h : List ProbeEvent) (rule : WatchdogRule) : Prop :=
  rule.failureThreshold = threshold ∧
    (threshold ≤ 1 ∨
      (rule.recoveryStreak = 0 → List.replicate rule.failureStreak .failure <:+ verdicts h))

@[simp] theorem verdicts_append (h h' : List ProbeEvent) :
    verdicts (h ++ h') = verdicts h ++ verdicts h' := List.filterMap_append

/-- One more failure after `n` at the end. -/
theorem suffix_failure {os : List ProbeOutcome} {n : Nat}
    (h : List.replicate n ProbeOutcome.failure <:+ os) :
    List.replicate (n + 1) ProbeOutcome.failure <:+ os ++ [.failure] := by
  rw [List.replicate_succ']
  exact List.suffix_append_self_iff.mpr h

/-- A failure that takes up no interrupted streak lengthens the run of failures. -/
theorem CountsFailures.failure {n : Int} {h : List ProbeEvent} {r : WatchdogRule}
    (hc : CountsFailures n h r)
    (hok : r.failureThreshold ≤ 1 ∨ r.failureStreak = 0 ∨ r.recoveryStreak = 0) :
    n ≤ 1 ∨ List.replicate (r.failureStreak + 1) .failure <:+ verdicts h ++ [.failure] := by
  obtain ⟨hn, hc⟩ := hc
  rcases hc with hle | hc
  · exact .inl hle
  rcases hok with hle | hzero | hrec
  · exact .inl (hn ▸ hle)
  · rw [hzero]
    exact .inr (suffix_failure List.nil_suffix)
  · exact .inr (suffix_failure (hc hrec))

/-- **One tick.**  A tick that takes up no interrupted streak keeps the count. -/
theorem EdgeStep.countsFailures {n : Int} {now : Time} {o : Option ProbeOutcome}
    {r r' : WatchdogRule} {es : List EventRecord} {h : List ProbeEvent}
    (hs : EdgeStep now o r r' es) (hc : CountsFailures n h r)
    (hok : o = some .failure →
      r.failureThreshold ≤ 1 ∨ r.failureStreak = 0 ∨ r.recoveryStreak = 0) :
    CountsFailures n (h ++ es.map fun e => ⟨r'.id, now, e⟩) r' := by
  cases hs with
  | idle => simpa using hc
  | skipped | probeError =>
      simpa [CountsFailures, verdicts, EventRecord.verdict?, noted, probedAt] using hc
  | steady details hstreak hstatus =>
      refine ⟨hc.1, .inr fun _ => ?_⟩
      simp [noted, probedAt, hstreak]
  | recovering details hshort =>
      refine ⟨hc.1, .inr fun hrec => ?_⟩
      cases hrec
  | recovered details reason hopen => exact ⟨hc.1, .inr fun _ => List.nil_suffix⟩
  | failing details | cooling details | fired details =>
      refine ⟨hc.1, (hc.failure (hok rfl)).imp_right fun hsuffix _ => ?_⟩
      simpa [verdicts, EventRecord.verdict?] using hsuffix

/-- An action fires on a failure that completes the threshold. -/
theorem EdgeStep.of_fired {now : Time} {o : Option ProbeOutcome} {r r' : WatchdogRule}
    {es : List EventRecord} (hs : EdgeStep now o r r' es) {report : Json}
    (hmem : .actionFired report ∈ es) :
    o = some .failure ∧ r.failureThreshold ≤ (r.failureStreak + 1 : Nat) ∧
      es.filterMap EventRecord.verdict? = [.failure] := by
  cases hs with
  | fired details report hreach hcool => exact ⟨rfl, hreach, rfl⟩
  | _ => simp at hmem

/-- **An action fires after consecutive failures.**  In a run of ticks in which no failure takes
up a streak that a success interrupted, whenever a tick records that the rule's action fired, the
last `failure_threshold` success and failure outcomes of its probe were failures. -/
theorem fires_after_consecutive_failures {r : WatchdogRule} (hb : ¬ IsBinding r) (h0 : Unfired r)
    {is : List RuleInput} {i : RuleInput}
    (hrun : Admits afterTick TakesUpNoStreak r (is ++ [i]))
    (hfires : Fires i (run afterTick r is)) :
    List.replicate r.failureThreshold.toNat .failure <:+ verdicts (ruleEvents r (is ++ [i])) := by
  obtain ⟨his, hi, -⟩ := (admits_append r is [i]).mp hrun
  obtain ⟨hc, hb'⟩ : CountsFailures r.failureThreshold (ruleEvents r is) (run afterTick r is) ∧
      ¬ IsBinding (run afterTick r is) := by
    refine ⟨edge_invariant (fun h i r r' es hs hok hc => hs.countsFailures hc hok) hb ?_ his,
      run_invariant (I := fun r => ¬ IsBinding r) (fun r i hb _ => afterTick_edge hb) hb his⟩
    refine ⟨rfl, .inr fun _ => ?_⟩
    rw [h0.failureStreak]
    exact List.nil_suffix
  generalize hr' : run afterTick r is = r' at *
  have hevents : ruleEvents r (is ++ [i]) = ruleEvents r is ++ (committedTick i r').rows i.now := by
    rw [ruleEvents, emitted_append, hr', emitted_cons, emitted_nil, List.append_nil]
    rfl
  rw [hevents, verdicts_append]
  obtain ⟨report, hmem⟩ := hfires
  obtain ⟨hfail, hreach, hes⟩ := (edge_step (i := i) hb').of_fired hmem
  have hrows : verdicts ((committedTick i r').rows i.now) = [.failure] := by
    rw [← hes, verdicts, RuleTick.rows, List.filterMap_map]
    rfl
  rw [hrows]
  rcases hc.failure (hi hfail) with hone | hsuffix
  · refine List.IsSuffix.trans ?_ (List.suffix_append _ _)
    have hle : r.failureThreshold.toNat ≤ 1 := by omega
    rcases Nat.le_one_iff_eq_zero_or_eq_one.mp hle with hn | hn <;> simp [hn]
  · refine List.IsSuffix.trans ?_ hsuffix
    have hle : r.failureThreshold.toNat ≤ r'.failureStreak + 1 := by
      have := hc.1
      omega
    exact List.suffix_replicate_iff.mpr ⟨by simpa using hle, by simp⟩

/-- Two failures in a row fire a rule with threshold two. -/
theorem fires_after_two_failures :
    List.replicate (notifyRule 2 2 300).failureThreshold.toNat .failure <:+
      verdicts (ruleEvents (notifyRule 2 2 300) ([probeTick 0 false] ++ [probeTick 60 false])) := by
  refine fires_after_consecutive_failures (notifyRule_edge 2 2 300) (notifyRule_unfired 2 2 300)
    ⟨fun _ => .inr (.inl rfl), fun _ => .inr (.inr rfl), trivial⟩ ⟨.obj [], ?_⟩
  exact .tail _ (.head _)

/-- A failure, a success and a failure fire a rule with threshold two. -/
theorem fires_after_interrupted_failures :
    Fires (probeTick 120 false)
        (run afterTick (notifyRule 2 2 300) [probeTick 0 false, probeTick 60 true]) ∧
      ¬ List.replicate (notifyRule 2 2 300).failureThreshold.toNat .failure <:+
        verdicts (ruleEvents (notifyRule 2 2 300)
          ([probeTick 0 false, probeTick 60 true] ++ [probeTick 120 false])) := by
  refine ⟨⟨.obj [], .tail _ (.head _)⟩, ?_⟩
  decide

/-! ### The state machine's invariant -/

/-- The time of an event that records a firing. -/
def ProbeEvent.firedAt? (e : ProbeEvent) : Option Time :=
  match e.record with
  | .actionFired _ => some e.at_
  | _ => none

/-- The two events that turn an edge rule. -/
inductive Turn where
  | failed
  | recovered
deriving DecidableEq

/-- An event as a turn. -/
def EventRecord.turn? : EventRecord → Option Turn
  | .probe .failure _ => some .failed
  | .recovery _ => some .recovered
  | _ => none

/-- The times of the firings among events, in order. -/
def firings (h : List ProbeEvent) : List Time := h.filterMap ProbeEvent.firedAt?

/-- The failures and recoveries among events, in order. -/
def turns (h : List ProbeEvent) : List Turn := h.filterMap fun e => e.record.turn?

@[simp] theorem firings_append (h h' : List ProbeEvent) :
    firings (h ++ h') = firings h ++ firings h' := List.filterMap_append

@[simp] theorem turns_append (h h' : List ProbeEvent) :
    turns (h ++ h') = turns h ++ turns h' := List.filterMap_append

/-- What holds of an edge rule with cooldown `c`, and of the events recorded for it, after every
tick. -/
structure EdgeHistory (c : Int) (h : List ProbeEvent) (rule : WatchdogRule) : Prop where
  cooldown : rule.cooldownSeconds = c
  /-- Firings are a cooldown apart. -/
  spaced : (firings h).IsChain fun s t => seconds c ≤ t - s
  lastFired : ∀ t ∈ (firings h).getLast?, rule.lastActionAt = some t
  /-- A recovery in progress has not reached its threshold. -/
  recovering : (rule.recoveryStreak : Int) ≤ max 1 rule.recoveryThreshold - 1
  firing : rule.status = .firing →
    rule.failureThreshold ≤ rule.failureStreak ∧ rule.lastActionAt.isSome
  /-- No recovery follows a recovery. -/
  turned : (turns h).IsChain fun s t => s = .failed ∨ t = .failed
  /-- After a recovery and before the next failure the rule rests. -/
  rested : (turns h).getLast? = some .recovered →
    rule.failureStreak = 0 ∧ rule.status ≠ .firing

theorem Unfired.edgeHistory {r : WatchdogRule} (h0 : Unfired r) :
    EdgeHistory r.cooldownSeconds [] r where
  cooldown := rfl
  spaced := .nil
  lastFired t h := by cases h
  recovering := by
    have := h0.recoveryStreak
    omega
  firing h := absurd h h0.status
  turned := .nil
  rested h := by cases h

/-- Events in which no action fires and nothing turns, and a row with the same streaks, status
and last action. -/
theorem EdgeHistory.quiet {c : Int} {h es : List ProbeEvent} {r r' : WatchdogRule}
    (hi : EdgeHistory c h r) (hf : firings es = []) (ht : turns es = [])
    (hrow : r' = { r with lastProbedAt := r'.lastProbedAt, lastOutcome := r'.lastOutcome }) :
    EdgeHistory c (h ++ es) r' := by
  obtain ⟨hcool, hspaced, hlast, hrec, hfiring, hturned, hrested⟩ := hi
  rw [hrow]
  constructor <;> simp only [firings_append, turns_append, hf, ht, List.append_nil]
  · exact hcool
  · exact hspaced
  · exact hlast
  · exact hrec
  · exact hfiring
  · exact hturned
  · exact hrested

/-- A failure that fires nothing. -/
theorem EdgeHistory.failed {c : Int} {h es : List ProbeEvent} {r r' : WatchdogRule}
    (hi : EdgeHistory c h r) (hf : firings es = []) (ht : turns es = [.failed])
    (hrow : r' = { r with
      lastProbedAt := r'.lastProbedAt, lastOutcome := r'.lastOutcome
      recoveryStreak := 0, failureStreak := r.failureStreak + 1 }) :
    EdgeHistory c (h ++ es) r' := by
  obtain ⟨hcool, hspaced, hlast, hrec, hfiring, hturned, hrested⟩ := hi
  rw [hrow]
  constructor <;> simp only [firings_append, turns_append, hf, ht, List.append_nil]
  · exact hcool
  · exact hspaced
  · exact hlast
  · omega
  · intro hstatus
    obtain ⟨hreach, hset⟩ := hfiring hstatus
    exact ⟨by omega, hset⟩
  · exact List.isChain_append.mpr ⟨hturned, .singleton _, by simp⟩
  · simp

/-- **One tick.**  A tick keeps the invariant of an edge rule. -/
theorem EdgeStep.edgeHistory {c : Int} {now : Time} {o : Option ProbeOutcome}
    {r r' : WatchdogRule} {es : List EventRecord} {h : List ProbeEvent}
    (hs : EdgeStep now o r r' es) (hi : EdgeHistory c h r) :
    EdgeHistory c (h ++ es.map fun e => ⟨r'.id, now, e⟩) r' := by
  cases hs with
  | idle => simpa using hi
  | skipped | probeError => exact hi.quiet rfl rfl rfl
  | failing | cooling => exact hi.failed rfl rfl rfl
  | steady details hstreak hstatus =>
      have hq : EdgeHistory c (h ++ [⟨r.id, now, .probe .success details⟩]) (noted r now .success) :=
        hi.quiet rfl rfl rfl
      exact ⟨hq.cooldown, hq.spaced, hq.lastFired, by dsimp only; omega, hq.firing, hq.turned,
        hq.rested⟩
  | recovering details hshort =>
      have hq : EdgeHistory c (h ++ [⟨r.id, now, .probe .success details⟩]) (noted r now .success) :=
        hi.quiet rfl rfl rfl
      refine ⟨hq.cooldown, hq.spaced, hq.lastFired, ?_, hq.firing, hq.turned, hq.rested⟩
      dsimp only [noted, probedAt]
      omega
  | recovered details reason hopen =>
      have hfresh : ∀ t ∈ (turns h).getLast?, t = .failed := by
        intro t ht
        cases t with
        | failed => rfl
        | recovered =>
            obtain ⟨hstreak, hstatus⟩ := hi.rested ht
            rcases hopen with hpos | hfiring
            · omega
            · exact absurd hfiring hstatus
      refine ⟨hi.cooldown, ?_, ?_, ?_, ?_, ?_, ?_⟩
      · rw [firings_append]
        change List.IsChain _ (firings h ++ [])
        rw [List.append_nil]
        exact hi.spaced
      · rw [firings_append]
        change ∀ t ∈ (firings h ++ []).getLast?, _
        rw [List.append_nil]
        exact hi.lastFired
      · dsimp only [noted, probedAt]
        omega
      · intro hstatus
        cases hstatus
      · rw [turns_append]
        refine List.isChain_append.mpr ⟨hi.turned, .singleton _, fun s hs t _ => ?_⟩
        exact .inl (hfresh s hs)
      · exact fun _ => ⟨rfl, nofun⟩
  | fired details report hreach hcool =>
      refine ⟨hi.cooldown, ?_, ?_, ?_, ?_, ?_, ?_⟩
      · rw [firings_append]
        refine List.isChain_append.mpr ⟨hi.spaced, .singleton _, fun s hs t ht => ?_⟩
        obtain rfl : now = t := Option.some.inj ht
        rw [coolingDown, hi.lastFired s hs, hi.cooldown] at hcool
        have hlong : ¬ now - s < seconds c := of_decide_eq_false hcool
        exact Int.not_lt.mp hlong
      · rw [firings_append]
        change ∀ t ∈ (firings h ++ [now]).getLast?, _
        simp
      · dsimp only [noted, probedAt]
        omega
      · exact fun _ => ⟨hreach, rfl⟩
      · rw [turns_append]
        exact List.isChain_append.mpr ⟨hi.turned, .singleton _, by simp [turns, EventRecord.turn?]⟩
      · simp [turns, EventRecord.turn?]

/-- Between two events that are recoveries there is one that is a failure. -/
theorem failure_between {es as bs cs : List EventRecord} {x y : EventRecord}
    (hc : (es.filterMap EventRecord.turn?).IsChain fun s t => s = .failed ∨ t = .failed)
    (hes : es = as ++ x :: (bs ++ y :: cs)) (hx : x.turn? = some .recovered)
    (hy : y.turn? = some .recovered) : ∃ e ∈ bs, e.turn? = some .failed := by
  subst hes
  rw [List.filterMap_append, List.filterMap_cons_some hx, List.filterMap_append,
    List.filterMap_cons_some hy] at hc
  have hmid := (List.isChain_append.mp hc).2.1
  cases hbs : bs.filterMap EventRecord.turn? with
  | nil =>
      rw [hbs, List.nil_append, List.isChain_cons_cons] at hmid
      simp at hmid
  | cons t ts =>
      rw [hbs, List.cons_append, List.isChain_cons_cons] at hmid
      have ht : t ∈ bs.filterMap EventRecord.turn? := by simp [hbs]
      obtain ⟨e, he, het⟩ := List.mem_filterMap.mp ht
      obtain rfl : t = .failed := hmid.1.resolve_left nofun
      exact ⟨e, he, het⟩

/-- **The invariant of an edge rule.**  In every run of ticks, firings are at least the cooldown
apart; after every tick the recovery streak is below the threshold (which counts as one when it
is less), and the status `firing` means that the failure threshold was reached and an action has
fired; and between two recoveries a failure is recorded. -/
theorem edge_rule_invariant {r : WatchdogRule} (hb : ¬ IsBinding r) (h0 : Unfired r)
    (is : List RuleInput) :
    (firings (ruleEvents r is)).IsChain (fun s t => seconds r.cooldownSeconds ≤ t - s) ∧
      ((run afterTick r is).recoveryStreak : Int) ≤ max 1 r.recoveryThreshold - 1 ∧
      ((run afterTick r is).status = .firing →
        r.failureThreshold ≤ (run afterTick r is).failureStreak ∧
          (run afterTick r is).lastActionAt.isSome) ∧
      ∀ as bs cs d e, (ruleEvents r is).map ProbeEvent.record
          = as ++ .recovery d :: (bs ++ .recovery e :: cs) →
        ∃ details, .probe .failure details ∈ bs := by
  have hi : EdgeHistory r.cooldownSeconds (ruleEvents r is) (run afterTick r is) ∧
      (run afterTick r is).failureThreshold = r.failureThreshold ∧
      (run afterTick r is).recoveryThreshold = r.recoveryThreshold := by
    have hall : Admits afterTick (fun _ _ => True) r is :=
      admits_of_forall (fun _ _ => trivial) r is
    refine edge_invariant (I := fun h r' => EdgeHistory r.cooldownSeconds h r' ∧
        r'.failureThreshold = r.failureThreshold ∧ r'.recoveryThreshold = r.recoveryThreshold)
      ?_ hb ⟨h0.edgeHistory, rfl, rfl⟩ hall
    rintro h i r₁ r₂ es hs - ⟨hi, hn, hm⟩
    exact ⟨hs.edgeHistory hi, hs.config.2.1.trans hn, hs.config.2.2.1.trans hm⟩
  obtain ⟨hi, hn, hm⟩ := hi
  refine ⟨hi.spaced, hm ▸ hi.recovering, hn ▸ hi.firing, fun as bs cs d e hrecords => ?_⟩
  have hturns : turns (ruleEvents r is)
      = ((ruleEvents r is).map ProbeEvent.record).filterMap EventRecord.turn? := by
    rw [List.filterMap_map]
    rfl
  have hturned := hi.turned
  rw [hturns] at hturned
  obtain ⟨x, hx, hfailed⟩ := failure_between hturned hrecords rfl rfl
  cases x with
  | probe o details =>
      cases o with
      | failure => exact ⟨details, hx⟩
      | success | probeError => cases hfailed
  | _ => cases hfailed

/-- Without a cooldown, three failures fire a rule with threshold two twice. -/
theorem edge_rule_invariant_two_firings :
    firings (ruleEvents (notifyRule 2 2 0)
        [probeTick 0 false, probeTick 60 false, probeTick 120 false])
          = [seconds 60, seconds 120] ∧
      ((run afterTick (notifyRule 2 2 0)
          [probeTick 0 false, probeTick 60 false, probeTick 120 false]).status = .firing →
        (notifyRule 2 2 0).failureThreshold
            ≤ (run afterTick (notifyRule 2 2 0)
                [probeTick 0 false, probeTick 60 false, probeTick 120 false]).failureStreak ∧
          (run afterTick (notifyRule 2 2 0)
            [probeTick 0 false, probeTick 60 false, probeTick 120 false]).lastActionAt.isSome) :=
  ⟨by decide, (edge_rule_invariant (notifyRule_edge 2 2 0) (notifyRule_unfired 2 2 0) _).2.2.1⟩

/-- With the recovery threshold `0` that an imported rule may carry, no count of successes is
below the threshold. -/
theorem recovery_streak_not_below_zero :
    ¬ ((run afterTick (notifyRule 2 0 300) [probeTick 0 true]).recoveryStreak : Int)
      ≤ (notifyRule 2 0 300).recoveryThreshold - 1 := by
  decide

end RebooterHub.Watchdog
