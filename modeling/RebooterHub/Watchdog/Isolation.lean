import RebooterHub.Watchdog.EdgeRules

/-!
# Watchdog — Isolation

What one rule's stored content can do to the others of a tick.

The probe runs inside the tick's `try`; the reading of `maintenance_windows`, `action`,
`escalation` and the leaves of a binding does not.  `ReadsWell` says that what a tick reads of a
due rule outside the `try` has the shape it is read with, and `tickRule_raised_iff` that nothing
else raises.  `tick_isolated_iff` then says when a tick keeps its rules apart: exactly when the
runtime is stopped or every due rule reads well.
-/

namespace RebooterHub.Watchdog

/-- The value is an object. -/
def isObject : Json → Bool
  | .obj _ => true
  | _ => false

/-- The windows can be iterated over: nothing, a list, an object or a text. -/
def windowsIterable (rule : WatchdogRule) : Bool :=
  !rule.maintenanceWindows.truthy ||
    match rule.maintenanceWindows with
    | .arr _ | .obj _ | .str _ => true
    | _ => false

/-- What a tick that evaluates `outcome` reads of a binding: the leaf of the edge it has to
apply. -/
def BindingReads (rule : WatchdogRule) (outcome : ProbeOutcome) : Prop :=
  outcome ≠ .probeError → ∀ e, assertedEdge (countOutcome rule outcome) = some e →
    rule.lastOutcome ≠ some (.binding e) → leafReadable rule e = true

/-- What a tick that evaluates `outcome` reads of an edge rule: the escalation, when the action
fires. -/
def EscalationReads (rule : WatchdogRule) (now : Time) (outcome : ProbeOutcome) : Prop :=
  outcome = .failure → rule.failureThreshold ≤ (rule.failureStreak + 1 : Nat) →
    coolingDown rule now = false → isObject rule.escalation.orEmpty = true

/-- What the tick reads of a due rule outside its `try` has the shape it is read with. -/
structure ReadsWell (inp : TickInput) (rule : WatchdogRule) : Prop where
  windows : windowsIterable rule = true
  action : inMaintenanceWindow rule inp.now = .ok false → isObject rule.action.orEmpty = true
  binding : inMaintenanceWindow rule inp.now = .ok false → IsBinding rule →
    BindingReads rule (probeOutcome (inp.runProbe rule)).1
  escalation : inMaintenanceWindow rule inp.now = .ok false → ¬ IsBinding rule →
    EscalationReads rule inp.now (probeOutcome (inp.runProbe rule)).1

/-! ### What raises -/

theorem windowsIterable_iff (r : WatchdogRule) (now : Time) :
    windowsIterable r = true ↔ ∃ w, inMaintenanceWindow r now = .ok w := by
  rw [windowsIterable, inMaintenanceWindow]
  cases r.maintenanceWindows.truthy with
  | false => simp
  | true => cases r.maintenanceWindows <;> simp

theorem isObject_iff (x : Json) : isObject x.orEmpty = true ↔ ∃ kind, actionKind x = .ok kind := by
  rw [actionKind]
  cases x.orEmpty <;> simp [isObject, Json.get]

theorem runEscalationAndEmit_eq_none_iff (r : WatchdogRule) :
    runEscalationAndEmit r = none ↔ isObject r.escalation.orEmpty = true := by
  rw [runEscalationAndEmit]
  cases r.escalation.orEmpty <;> simp [isObject]

theorem recordSuccess_raised (r : WatchdogRule) : (recordSuccess r).raised = none := by
  dsimp only [recordSuccess]
  split
  · split <;> rfl
  · rfl

theorem recordFailure_raised_iff {inp : TickInput} {r : WatchdogRule} {kind : Json}
    (hkind : actionKind r.action = .ok kind) :
    (recordFailure inp r).raised = none ↔ EscalationReads r inp.now .failure := by
  have hcool : ∀ n m, coolingDown { r with recoveryStreak := n, failureStreak := m } inp.now
      = coolingDown r inp.now := fun _ _ => rfl
  have hesc : ∀ n m, runEscalationAndEmit { r with recoveryStreak := n, failureStreak := m }
      = runEscalationAndEmit r := fun _ _ => rfl
  dsimp only [recordFailure]
  by_cases hshort : ((r.failureStreak + 1 : Nat) : Int) < r.failureThreshold
  · simp only [hshort, if_true, EscalationReads, true_iff]
    intro _ hreach
    omega
  · have hreach : r.failureThreshold ≤ (r.failureStreak + 1 : Nat) := by omega
    simp only [hshort, if_false, hcool]
    cases hc : coolingDown r inp.now with
    | true => simp [EscalationReads, hc]
    | false =>
        have hfire : fireAction inp { r with
            recoveryStreak := 0, failureStreak := r.failureStreak + 1 } r.action
              = .ok (actionReport kind (inp.dispatchOne { r with
                  recoveryStreak := 0, failureStreak := r.failureStreak + 1 }
                  r.action.orEmpty r.target.orEmpty)) := by
          simp only [fireAction, hkind]
          rfl
        simp only [Bool.false_eq_true, if_false, hfire, hesc, runEscalationAndEmit_eq_none_iff,
          EscalationReads, hc, hreach, forall_const]

theorem applyEdge_raised_iff {inp : TickInput} {r : WatchdogRule} {o : ProbeOutcome} {e : Edge} :
    (applyEdge inp r o e).raised = none ↔
      (r.lastOutcome ≠ some (.binding e) → leafReadable r e = true) := by
  by_cases hmark : r.lastOutcome = some (.binding e)
  · simp [applyEdge, hmark]
  · simp only [applyEdge, hmark, if_false, ne_eq, not_false_eq_true, forall_const, leafReadable]
    cases hleaf : bindingLeaf r e with
    | error x => simp
    | ok leaf =>
        cases hkind : actionKind leaf with
        | error x =>
            have hfire : fireAction inp r leaf = .error x := by simp only [fireAction, hkind]; rfl
            simp [hfire, hkind, Except.isOk, Except.toBool]
        | ok kind =>
            have hfire : fireAction inp r leaf = .ok (actionReport kind
                (inp.dispatchOne r leaf.orEmpty r.target.orEmpty)) := by
              simp only [fireAction, hkind]
              rfl
            simp [hfire, hkind, Except.isOk, Except.toBool]

theorem bindingTick_raised_iff {inp : TickInput} {r : WatchdogRule} {o : ProbeOutcome} :
    (bindingTick inp r o).raised = none ↔ BindingReads r o := by
  have hasserted : assertedEdge (countOutcome (probedAt r inp.now) o)
      = assertedEdge (countOutcome r o) := by cases o <;> rfl
  have hread : ∀ e, leafReadable (countOutcome (probedAt r inp.now) o) e = leafReadable r e :=
    leafReadable_congr (countOutcome_action _ o)
  have hlast : (countOutcome (probedAt r inp.now) o).lastOutcome = r.lastOutcome :=
    countOutcome_lastOutcome _ o
  cases o with
  | probeError => simp [bindingTick, BindingReads]
  | success | failure =>
      simp only [bindingTick, BindingReads, hasserted]
      cases assertedEdge (countOutcome r _) with
      | none => simp
      | some e => simp [applyEdge_raised_iff, hread, hlast]

theorem updateStateAndMaybeFire_raised_iff {inp : TickInput} {r : WatchdogRule}
    {o : ProbeOutcome} :
    (updateStateAndMaybeFire inp r o).raised = none ↔
      isObject r.action.orEmpty = true ∧ (IsBinding r → BindingReads r o) ∧
        (¬ IsBinding r → EscalationReads r inp.now o) := by
  rw [isObject_iff, updateStateAndMaybeFire]
  cases hkind : actionKind r.action with
  | error e => simp
  | ok kind =>
      by_cases hb : kind = .str "binding"
      · have hbind : IsBinding r := by rw [IsBinding, hkind, hb]
        simp [hb, hbind, bindingTick_raised_iff]
      · have hedge : ¬ IsBinding r := by
          rintro h
          exact hb (Except.ok.inj (hkind.symm.trans h))
        simp only [hb, if_false, hedge, false_implies, not_false_eq_true, forall_const, true_and]
        cases o with
        | success => simp [recordSuccess_raised, EscalationReads]
        | failure =>
            have hkind' : actionKind { probedAt r inp.now with
                lastOutcome := some (.probe .failure) }.action = .ok kind := hkind
            simp only [recordFailure_raised_iff hkind', Except.ok.injEq, exists_eq', true_and]
            rfl
        | probeError => simp [EscalationReads]

/-- **What a rule's content raises.**  A rule's part of the tick raises nothing exactly when the
rule is not due or reads well. -/
theorem tickRule_raised_iff {inp : TickInput} {r : WatchdogRule} :
    (tickRule inp r).raised = none ↔
      (isLoaded r = true → ruleIsDue r inp.now = true → ReadsWell inp r) := by
  by_cases hskip : (!isLoaded r || !ruleIsDue r inp.now) = true
  · simp only [tickRule, hskip, if_true, true_iff]
    intro hload hdue
    simp [hload, hdue] at hskip
  · obtain ⟨hload, hdue⟩ : isLoaded r = true ∧ ruleIsDue r inp.now = true := by
      simpa using hskip
    simp only [tickRule, hload, hdue, Bool.not_true, Bool.or_self, Bool.false_eq_true, if_false,
      forall_const]
    constructor
    · intro h
      cases hw : inMaintenanceWindow r inp.now with
      | error e => simp [hw] at h
      | ok w =>
          have hiter : windowsIterable r = true := (windowsIterable_iff r inp.now).mpr ⟨w, hw⟩
          cases w with
          | true => exact ⟨hiter, by simp [hw], by simp [hw], by simp [hw]⟩
          | false =>
              simp only [hw] at h
              obtain ⟨haction, hbinding, hesc⟩ := updateStateAndMaybeFire_raised_iff.mp h
              exact ⟨hiter, fun _ => haction, fun _ => hbinding, fun _ => hesc⟩
    · intro h
      obtain ⟨w, hw⟩ := (windowsIterable_iff r inp.now).mp h.windows
      cases w with
      | true => simp [hw]
      | false =>
          simp only [hw]
          exact updateStateAndMaybeFire_raised_iff.mpr ⟨h.action hw, h.binding hw, h.escalation hw⟩

/-! ### The tick -/

theorem tickRules_of_raised {inp : TickInput} {rules : List WatchdogRule}
    (h : ∀ r ∈ rules, (tickRule inp r).raised = none) : (tickRules inp rules).raised = none := by
  induction rules with
  | nil => rfl
  | cons r rs ih =>
      simp only [tickRules, h r (.head _)]
      exact ih fun r' hr' => h r' (.tail _ hr')

/-- A tick raises nothing when it is stopped, or when no rule's part of it raises. -/
theorem tick_raised_iff {inp : TickInput} {rules : List WatchdogRule} :
    (tick inp rules).raised = none ↔
      (inp.watchdogDisabled || inp.maintenanceMode) = true ∨
        ∀ r ∈ rules, (tickRule inp r).raised = none := by
  by_cases hstop : (inp.watchdogDisabled || inp.maintenanceMode) = true
  · simp [tick, hstop]
  · have hraised : (tick inp rules).raised = (tickRules inp rules).raised := by
      simp only [tick, hstop, Bool.false_eq_true, if_false]
      split <;> simp [*]
    rw [hraised, or_iff_right hstop]
    exact ⟨fun h => (tickRules_of_raised_none h).1, tickRules_of_raised⟩

/-- The tick keeps its rules apart: it raises nothing; each row is left as by a tick in which its
rule is the only one; and nothing was dispatched in a tick whose rows were rolled back. -/
structure Isolated (inp : TickInput) (rules : List WatchdogRule) : Prop where
  raised : (tick inp rules).raised = none
  alone : (tick inp rules).rules = rules.flatMap fun r => (tick inp [r]).rules
  dispatched : (tick inp rules).raised.isSome = true → (tick inp rules).dispatched = []

theorem tick_alone {inp : TickInput} {rules : List WatchdogRule}
    (h : (tick inp rules).raised = none) :
    (tick inp rules).rules = rules.flatMap fun r => (tick inp [r]).rules := by
  have halone : ∀ r ∈ rules, (tick inp [r]).raised = none := by
    intro r hr
    rw [tick_raised_iff] at h ⊢
    refine h.imp_right fun hall r' hr' => hall r' ?_
    rwa [List.mem_singleton.mp hr']
  have hrow : ∀ r ∈ rules, (tick inp [r]).rules = [afterTick r ⟨inp, false⟩] := by
    intro r hr
    rw [(tick_rows inp [r]).1, halone r hr]
    rfl
  rw [(tick_rows inp rules).1, h, List.flatMap_congr hrow]
  exact List.map_eq_flatMap

/-- A rule that cycles a device on the first failure. -/
def cycleRule : WatchdogRule :=
  { notifyRule 1 1 300 with action := .obj [("kind", .str "cycle")] }

/-- A rule that a backup import wrote, with a number for its maintenance windows. -/
def numberedWindows : WatchdogRule :=
  { notifyRule 3 2 300 with id := "wdr_2", maintenanceWindows := .int 5 }

end RebooterHub.Watchdog
