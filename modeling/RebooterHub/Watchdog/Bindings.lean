import Mathlib.Data.List.Chain
import RebooterHub.Support.Runs
import RebooterHub.Watchdog.Tick

/-!
# Watchdog — Bindings

The edges a binding rule applies over a run of ticks.

`committedTick` is a tick as one rule meets it: stopped by a switch, rolled back because some
rule's content raised, or run.  `tick_rows` says that the tick over the whole table is
`committedTick` on every row.

A binding's streaks follow its probe alone, so what a tick does to the rule is told by a
`Signal`: nothing, the loss of the applied-state marker in `last_outcome`, or the assertion of an
edge.  `appliedEdges_eq` reads the applied edges off the signals of a run, and
`binding_edges_alternate_iff` says when they alternate: exactly when no tick asserts the edge
asserted last after the marker was lost (`Undisturbed`).
-/

namespace RebooterHub.Watchdog
open RebooterHub.Runs

/-! ### A tick as one rule meets it -/

/-- A tick's input, and whether another rule's content raised and rolled the tick back. -/
structure RuleInput extends TickInput where
  rolledBack : Bool

/-- What a tick does to one rule. -/
def committedTick (i : RuleInput) (rule : WatchdogRule) : RuleTick :=
  if i.watchdogDisabled || i.maintenanceMode || i.rolledBack then ⟨rule, [], [], none⟩
  else
    let t := tickRule i.toTickInput rule
    match t.raised with
    | some e => ⟨rule, [], t.dispatched, some e⟩
    | none => t

/-- The outcome a tick hands to the rule's state machine; `none` when the tick does not probe
the rule. -/
def evaluated (i : RuleInput) (rule : WatchdogRule) : Option ProbeOutcome :=
  if i.watchdogDisabled || i.maintenanceMode || i.rolledBack then none
  else if !isLoaded rule || !ruleIsDue rule i.now then none
  else match inMaintenanceWindow rule i.now with
    | .ok false => some (probeOutcome (i.runProbe rule)).1
    | _ => none

/-- The row after a tick. -/
def afterTick (rule : WatchdogRule) (i : RuleInput) : WatchdogRule := (committedTick i rule).rule

/-- The edges a tick's `binding_applied` events are for. -/
def tickEdges (rule : WatchdogRule) (i : RuleInput) : List Edge :=
  (committedTick i rule).events.filterMap EventRecord.edge?

/-- The edges of the `binding_applied` events of a run of ticks, in order. -/
def appliedEdges (rule : WatchdogRule) (is : List RuleInput) : List Edge :=
  emitted afterTick tickEdges rule is

/-- The rule is of kind binding. -/
def IsBinding (rule : WatchdogRule) : Prop := actionKind rule.action = .ok (.str "binding")

/-- No edge has been applied yet, as in a row `create_rule` has just written. -/
def Unapplied (rule : WatchdogRule) : Prop := ∀ e, rule.lastOutcome ≠ some (.binding e)

theorem tickRules_of_raised_none {inp : TickInput} {rules : List WatchdogRule}
    (h : (tickRules inp rules).raised = none) :
    (∀ r ∈ rules, (tickRule inp r).raised = none) ∧
      (tickRules inp rules).rules = rules.map (fun r => (tickRule inp r).rule) ∧
      (tickRules inp rules).events = rules.flatMap (fun r => (tickRule inp r).rows inp.now) := by
  induction rules with
  | nil => simp [tickRules]
  | cons r rs ih =>
      cases hr : (tickRule inp r).raised with
      | some e => simp [tickRules, hr] at h
      | none =>
          simp only [tickRules, hr] at h ⊢
          obtain ⟨hall, hrules, hevents⟩ := ih h
          refine ⟨?_, by simp [hrules], by simp [hevents]⟩
          rintro r' (_ | ⟨_, hr'⟩)
          · exact hr
          · exact hall r' hr'

/-- **The tick, row by row.**  The committed rows and events of a tick are those of
`committedTick` on each row, rolled back when the tick raised. -/
theorem tick_rows (inp : TickInput) (rules : List WatchdogRule) :
    (tick inp rules).rules
        = rules.map (fun r => afterTick r ⟨inp, (tick inp rules).raised.isSome⟩) ∧
      (tick inp rules).events
        = rules.flatMap
            (fun r => (committedTick ⟨inp, (tick inp rules).raised.isSome⟩ r).rows inp.now) := by
  by_cases hstop : inp.watchdogDisabled || inp.maintenanceMode
  · simp [tick, afterTick, committedTick, hstop, RuleTick.rows]
  · cases hr : (tickRules inp rules).raised with
    | some e => simp [tick, afterTick, committedTick, hstop, hr, RuleTick.rows]
    | none =>
        obtain ⟨hall, hrules, hevents⟩ := tickRules_of_raised_none hr
        have hc : ∀ r ∈ rules, committedTick ⟨inp, false⟩ r = tickRule inp r := by
          intro r hmem
          simp [committedTick, hstop, hall r hmem]
        simp only [tick, hstop, hr, hrules, hevents, Bool.false_eq_true, if_false,
          Option.isSome_none, afterTick]
        exact ⟨List.map_congr_left fun r hmem => by rw [hc r hmem],
          List.flatMap_congr fun r hmem => by rw [hc r hmem]⟩

/-! ### Signals -/

/-- What a tick means to a binding's applied edge. -/
inductive Signal where
  /-- The rule's row is left alone. -/
  | idle
  /-- A probe error, a maintenance skip, or streaks too short for either edge. -/
  | lost
  | asserts (e : Edge)
deriving DecidableEq, Repr

/-- The leaf of an edge is an object, so that applying it does not raise. -/
def leafReadable (rule : WatchdogRule) (e : Edge) : Bool :=
  match bindingLeaf rule e with
  | .ok leaf => (actionKind leaf).isOk
  | .error _ => false

/-- The signal of a probe outcome, from the streaks it leaves. -/
def outcomeSignal (rule : WatchdogRule) : ProbeOutcome → Signal
  | .probeError => .lost
  | outcome => match assertedEdge (countOutcome rule outcome) with
    | none => .lost
    | some e => if leafReadable rule e then .asserts e else .idle

/-- The signal of a tick. -/
def signal (i : RuleInput) (rule : WatchdogRule) : Signal :=
  if i.watchdogDisabled || i.maintenanceMode || i.rolledBack then .idle
  else if !isLoaded rule || !ruleIsDue rule i.now then .idle
  else match inMaintenanceWindow rule i.now with
    | .error _ => .idle
    | .ok true => .lost
    | .ok false => outcomeSignal rule (probeOutcome (i.runProbe rule)).1

/-- The signals of a run of ticks. -/
def signals (rule : WatchdogRule) (is : List RuleInput) : List Signal :=
  emitted afterTick (fun r i => [signal i r]) rule is

/-- The edge asserted last, with `true` while nothing has been lost since. -/
abbrev Marker := Option (Edge × Bool)

/-- The marker after a signal. -/
def Marker.next (m : Marker) : Signal → Marker
  | .idle => m
  | .lost => m.map fun p => (p.1, false)
  | .asserts e => some (e, true)

/-- The edges the signals apply: an asserted edge, unless its marker is intact. -/
def edgesOf : Marker → List Signal → List Edge
  | _, [] => []
  | m, s :: ss =>
    (match s with
      | .asserts e => if m = some (e, true) then [] else [e]
      | _ => []) ++ edgesOf (m.next s) ss

/-- No signal asserts the edge asserted last after a loss. -/
def Undisturbed : Marker → List Signal → Prop
  | _, [] => True
  | m, .idle :: ss => Undisturbed (m.next .idle) ss
  | m, .lost :: ss => Undisturbed (m.next .lost) ss
  | m, .asserts e :: ss => m ≠ some (e, false) ∧ Undisturbed (m.next (.asserts e)) ss

/-- Whether signals are undisturbed is decided by reading them off. -/
def Undisturbed.dec : (m : Marker) → (ss : List Signal) → Decidable (Undisturbed m ss)
  | _, [] => isTrue trivial
  | m, .idle :: ss => Undisturbed.dec (m.next .idle) ss
  | m, .lost :: ss => Undisturbed.dec (m.next .lost) ss
  | m, .asserts e :: ss =>
    @instDecidableAnd _ _ inferInstance (Undisturbed.dec (m.next (.asserts e)) ss)

instance (m : Marker) (ss : List Signal) : Decidable (Undisturbed m ss) := Undisturbed.dec m ss

/-- The applied edges alternate, the edge asserted before them included, exactly when the
signals are undisturbed. -/
theorem edgesOf_chain_iff (m : Marker) (ss : List Signal) :
    ((m.map Prod.fst).toList ++ edgesOf m ss).IsChain (· ≠ ·) ↔ Undisturbed m ss := by
  induction ss generalizing m with
  | nil => cases m <;> simp [edgesOf, Undisturbed]
  | cons s ss ih =>
      cases s with
      | idle => simpa [edgesOf, Undisturbed, Marker.next] using ih m
      | lost =>
          have hm : ((m.next .lost).map Prod.fst).toList = (m.map Prod.fst).toList := by
            cases m <;> rfl
          simpa [edgesOf, Undisturbed, hm] using ih (m.next .lost)
      | asserts e =>
          have htail := ih (some (e, true))
          simp only [Option.map_some, Option.toList_some, List.singleton_append] at htail
          rcases m with _ | ⟨d, b⟩
          · simpa [edgesOf, Undisturbed, Marker.next] using htail
          · by_cases hde : d = e
            · subst hde
              cases b with
              | true => simpa [edgesOf, Undisturbed, Marker.next] using htail
              | false => simp [edgesOf, Undisturbed]
            · have hne : ∀ b', (some (d, b) : Marker) ≠ some (e, b') := by
                intro b' h
                exact hde (congrArg Prod.fst (Option.some.inj h))
              simpa [edgesOf, Undisturbed, Marker.next, hne, hde] using htail

/-! ### Ticks read as signals -/

/-- `m` is what the row remembers: an intact marker is the one in `last_outcome`, whose leaf can
be read. -/
structure Remembers (m : Marker) (rule : WatchdogRule) : Prop where
  marker : ∀ e, rule.lastOutcome = some (.binding e) ↔ m = some (e, true)
  readable : ∀ e, m = some (e, true) → leafReadable rule e = true

theorem leafReadable_congr {r r' : WatchdogRule} (h : r'.action = r.action) (e : Edge) :
    leafReadable r' e = leafReadable r e := by
  simp only [leafReadable, bindingLeaf, h]

/-- Losing the marker: whatever text is written, it is not an applied edge. -/
theorem Remembers.lose {m : Marker} {r : WatchdogRule} (ho : Unapplied r) :
    Remembers (m.next .lost) r where
  marker e := by
    refine ⟨fun h => absurd h (ho e), fun h => ?_⟩
    cases m <;> simp [Marker.next] at h
  readable e h := by cases m <;> simp [Marker.next] at h

theorem Remembers.congr {m : Marker} {r r' : WatchdogRule} (hm : Remembers m r)
    (ho : r'.lastOutcome = r.lastOutcome) (ha : r'.action = r.action) : Remembers m r' where
  marker e := by rw [ho]; exact hm.marker e
  readable e h := by rw [leafReadable_congr ha]; exact hm.readable e h

/-- Applying an edge whose leaf can be read. -/
theorem applyEdge_spec {i : TickInput} {r : WatchdogRule} {o : ProbeOutcome} {e : Edge}
    {m : Marker} (hm : Remembers m r) (hl : leafReadable r e = true) :
    (applyEdge i r o e).raised = none ∧
      (applyEdge i r o e).events.filterMap EventRecord.edge?
        = (if m = some (e, true) then [] else [e]) ∧
      Remembers (some (e, true)) (applyEdge i r o e).rule := by
  by_cases hmark : r.lastOutcome = some (.binding e)
  · have hme := (hm.marker e).mp hmark
    subst hme
    simp only [applyEdge, hmark, if_true, List.filterMap_nil]
    exact ⟨trivial, trivial, hm⟩
  · have hme : m ≠ some (e, true) := fun h => hmark ((hm.marker e).mpr h)
    have hread := hl
    simp only [leafReadable] at hl
    cases hleaf : bindingLeaf r e with
    | error x => simp [hleaf] at hl
    | ok leaf =>
        cases hkind : actionKind leaf with
        | error x => simp [hleaf, hkind, Except.isOk, Except.toBool] at hl
        | ok kind =>
            have hfire : ∃ result, fireAction i r leaf = .ok result :=
              ⟨_, by simp only [fireAction, hkind]; rfl⟩
            obtain ⟨result, hfire⟩ := hfire
            simp only [applyEdge, hmark, if_false, hleaf, hfire, hkind, hme]
            refine ⟨trivial, rfl, ⟨fun d => ?_, fun d h => ?_⟩⟩
            · simp only [markApplied, Option.some.injEq, LastOutcome.binding.injEq,
                Prod.mk.injEq, and_true]
            · obtain rfl : e = d := by simpa using h
              exact (leafReadable_congr rfl e).trans hread

/-- Applying an edge whose leaf cannot be read raises, as its marker is never written. -/
theorem applyEdge_unreadable {i : TickInput} {r : WatchdogRule} {o : ProbeOutcome} {e : Edge}
    {m : Marker} (hm : Remembers m r) (hl : leafReadable r e = false) :
    (applyEdge i r o e).raised.isSome = true := by
  have hmark : r.lastOutcome ≠ some (.binding e) := by
    intro h
    have := hm.readable e ((hm.marker e).mp h)
    rw [hl] at this
    cases this
  simp only [leafReadable] at hl
  simp only [applyEdge, hmark, if_false]
  cases hleaf : bindingLeaf r e with
  | error x => rfl
  | ok leaf =>
      rw [hleaf] at hl
      cases hkind : actionKind leaf with
      | error x =>
          have hfire : fireAction i r leaf = .error x := by simp only [fireAction, hkind]; rfl
          simp [hfire]
      | ok kind => simp [hkind, Except.isOk, Except.toBool] at hl

theorem countOutcome_lastOutcome (r : WatchdogRule) (o : ProbeOutcome) :
    (countOutcome r o).lastOutcome = r.lastOutcome := by cases o <;> rfl

theorem countOutcome_action (r : WatchdogRule) (o : ProbeOutcome) :
    (countOutcome r o).action = r.action := by cases o <;> rfl

theorem applyEdge_action (i : TickInput) (r : WatchdogRule) (o : ProbeOutcome) (e : Edge) :
    (applyEdge i r o e).rule.action = r.action := by
  unfold applyEdge
  split
  · rfl
  · split
    · rfl
    · split <;> rfl

/-- A binding's evaluation is told by the signal of its outcome. -/
theorem bindingTick_signal {i : TickInput} {r : WatchdogRule} {m : Marker} (hm : Remembers m r)
    (o : ProbeOutcome) :
    ((bindingTick i r o).raised.isSome = true ∧ outcomeSignal r o = .idle) ∨
      ((bindingTick i r o).raised = none ∧
        (bindingTick i r o).events.filterMap EventRecord.edge?
          = edgesOf m [outcomeSignal r o] ∧
        Remembers (m.next (outcomeSignal r o)) (bindingTick i r o).rule) := by
  by_cases ho : o = .probeError
  · subst ho
    exact .inr ⟨rfl, rfl, .lose fun e h => by cases h⟩
  · -- the streaks, and with them the asserted edge, do not depend on `last_probed_at`
    have hasserted : assertedEdge (countOutcome (probedAt r i.now) o)
        = assertedEdge (countOutcome r o) := by cases o <;> rfl
    have hcount : Remembers m (countOutcome (probedAt r i.now) o) :=
      hm.congr (countOutcome_lastOutcome _ o) (countOutcome_action _ o)
    have hbind : bindingTick i r o
        = match assertedEdge (countOutcome r o) with
          | none => ⟨{ countOutcome (probedAt r i.now) o with
              lastOutcome := some (.settling o) }, [], [], none⟩
          | some e => applyEdge i (countOutcome (probedAt r i.now) o) o e := by
      cases o with
      | success | failure => rw [← hasserted]; rfl
      | probeError => exact absurd rfl ho
    have hsig : outcomeSignal r o
        = match assertedEdge (countOutcome r o) with
          | none => .lost
          | some e => if leafReadable r e then .asserts e else .idle := by
      cases o with
      | success | failure => rfl
      | probeError => exact absurd rfl ho
    rw [hbind, hsig]
    cases assertedEdge (countOutcome r o) with
    | none => exact .inr ⟨rfl, rfl, .lose fun e h => by cases h⟩
    | some e =>
        have hread : leafReadable (countOutcome (probedAt r i.now) o) e
            = leafReadable r e := leafReadable_congr (countOutcome_action _ o) e
        cases hl : leafReadable r e with
        | false =>
            refine .inl ⟨applyEdge_unreadable hcount (hread.trans hl), ?_⟩
            simp only [hl, Bool.false_eq_true, if_false]
        | true =>
            obtain ⟨hraised, hedges, hrem⟩ :=
              applyEdge_spec (i := i) (o := o) hcount (hread.trans hl)
            simp only [hl, if_true]
            exact .inr ⟨hraised, by simpa [edgesOf] using hedges, hrem⟩

theorem bindingTick_action (i : TickInput) (r : WatchdogRule) (o : ProbeOutcome) :
    (bindingTick i r o).rule.action = r.action := by
  cases o with
  | probeError => rfl
  | success | failure =>
      simp only [bindingTick]
      split
      · exact countOutcome_action _ _
      · rw [applyEdge_action]; exact countOutcome_action _ _

/-- **A tick, as one rule meets it**: it leaves the row alone, skips the rule in a maintenance
window, or evaluates the rule's probe, and is rolled back when the state machine raises. -/
theorem committedTick_cases (i : RuleInput) (r : WatchdogRule) :
    (evaluated i r = none ∧ signal i r = .idle ∧
        ∃ raised, committedTick i r = ⟨r, [], [], raised⟩) ∨
      (evaluated i r = none ∧ signal i r = .lost ∧ committedTick i r
        = ⟨{ probedAt r i.now with lastOutcome := some .maintenanceSkip },
          [.maintenanceSkip "rule maintenance window"], [], none⟩) ∨
      ∃ o details, evaluated i r = some o ∧ signal i r = outcomeSignal r o ∧
        ((∃ e, (updateStateAndMaybeFire i.toTickInput r o).raised = some e ∧ committedTick i r
            = ⟨r, [], (updateStateAndMaybeFire i.toTickInput r o).dispatched, some e⟩) ∨
          (updateStateAndMaybeFire i.toTickInput r o).raised = none ∧ committedTick i r
            = { updateStateAndMaybeFire i.toTickInput r o with
                events := .probe o details ::
                  (updateStateAndMaybeFire i.toTickInput r o).events }) := by
  rw [evaluated, signal, committedTick]
  by_cases hstop : (i.watchdogDisabled || i.maintenanceMode || i.rolledBack) = true
  · rw [if_pos hstop, if_pos hstop, if_pos hstop]
    exact .inl ⟨rfl, rfl, none, rfl⟩
  rw [if_neg hstop, if_neg hstop, if_neg hstop, tickRule]
  by_cases hskip : (!isLoaded r || !ruleIsDue r i.now) = true
  · rw [if_pos hskip, if_pos hskip, if_pos hskip]
    exact .inl ⟨rfl, rfl, none, rfl⟩
  rw [if_neg hskip, if_neg hskip, if_neg hskip]
  cases inMaintenanceWindow r i.now with
  | error e => exact .inl ⟨rfl, rfl, some e, rfl⟩
  | ok w =>
      cases w with
      | true => exact .inr (.inl ⟨rfl, rfl, rfl⟩)
      | false =>
          obtain ⟨o, details, hrun⟩ : ∃ o d, probeOutcome (i.runProbe r) = (o, d) := ⟨_, _, rfl⟩
          dsimp only
          rw [hrun]
          refine .inr (.inr ⟨o, details, rfl, rfl, ?_⟩)
          dsimp only
          cases hr : (updateStateAndMaybeFire i.toTickInput r o).raised with
          | some e => exact .inl ⟨e, rfl, rfl⟩
          | none => exact .inr ⟨rfl, rfl⟩

/-- The state machine of a binding. -/
theorem update_of_binding {inp : TickInput} {r : WatchdogRule} (hb : IsBinding r)
    (o : ProbeOutcome) : updateStateAndMaybeFire inp r o = bindingTick inp r o := by
  have hkind : actionKind r.action = .ok (.str "binding") := hb
  simp only [updateStateAndMaybeFire, hkind, if_true]

/-- **One tick.**  A tick applies the edges its signal says, and the row goes on remembering. -/
theorem committedTick_signal {i : RuleInput} {r : WatchdogRule} {m : Marker} (hb : IsBinding r)
    (hm : Remembers m r) :
    tickEdges r i = edgesOf m [signal i r] ∧ Remembers (m.next (signal i r)) (afterTick r i) ∧
      IsBinding (afterTick r i) := by
  rw [tickEdges, afterTick]
  rcases committedTick_cases i r with
    ⟨-, hs, raised, ht⟩ | ⟨-, hs, ht⟩ | ⟨o, details, -, hs, hcommit⟩
  · rw [hs, ht]
    exact ⟨rfl, hm, hb⟩
  · rw [hs, ht]
    exact ⟨rfl, .lose (fun e h => by cases h), hb⟩
  · rw [update_of_binding hb] at hcommit
    rw [hs]
    rcases bindingTick_signal (i := i.toTickInput) hm o with
      ⟨hraised, hidle⟩ | ⟨hraised, hedges, hrem⟩
    · rcases hcommit with ⟨e, -, ht⟩ | ⟨hnone, -⟩
      · rw [hidle, ht]
        exact ⟨rfl, hm, hb⟩
      · rw [hnone] at hraised
        cases hraised
    · rcases hcommit with ⟨e, hsome, -⟩ | ⟨-, ht⟩
      · cases hsome.symm.trans hraised
      · rw [ht]
        refine ⟨(List.filterMap_cons_none rfl).trans hedges, hrem, ?_⟩
        rw [IsBinding, bindingTick_action]
        exact hb

theorem edgesOf_cons (m : Marker) (s : Signal) (ss : List Signal) :
    edgesOf m (s :: ss) = edgesOf m [s] ++ edgesOf (m.next s) ss := by
  simp [edgesOf]

/-- **A run of ticks.**  The edges a run applies are those its signals say. -/
theorem appliedEdges_eq {r : WatchdogRule} {m : Marker} (hb : IsBinding r) (hm : Remembers m r)
    (is : List RuleInput) : appliedEdges r is = edgesOf m (signals r is) := by
  induction is generalizing r m with
  | nil => rfl
  | cons i is ih =>
      obtain ⟨hedges, hrem, hb'⟩ := committedTick_signal (i := i) hb hm
      have htail := ih hb' hrem
      simp only [appliedEdges, signals, emitted_cons, List.singleton_append] at htail ⊢
      rw [edgesOf_cons, hedges, htail]

/-- A binding that holds a device off while its probe succeeds. -/
def holdBinding : WatchdogRule where
  id := "wdr-1"
  enabled := true
  status := .armed
  probe := .obj [("kind", .str "tcp")]
  failureThreshold := 1
  recoveryThreshold := 1
  windowSeconds := 60
  cooldownSeconds := 0
  target := .obj [("device_id", .str "dev-1")]
  action := .obj [("kind", .str "binding"),
    ("on_active", .obj [("kind", .str "set_hold_off")]),
    ("on_clear", .obj [("kind", .str "relay_on")])]
  escalation := .null
  maintenanceWindows := .null
  failureStreak := 0
  recoveryStreak := 0
  lastProbedAt := none
  lastActionAt := none
  lastOutcome := none

/-- A tick at second `n` in which every probe answers `answer`. -/
def tickAt (n : Int) (answer : ProbeRun) : RuleInput where
  now := seconds n
  watchdogDisabled := false
  maintenanceMode := false
  runProbe _ := answer
  dispatchOne _ _ _ := .ok .null
  rolledBack := false

end RebooterHub.Watchdog
