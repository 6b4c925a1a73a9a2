import RebooterHub.Watchdog.EdgeRules
import RebooterHub.Watchdog.Enablement

/-!
# Watchdog — Editing

What a binding applies after `update_rule` has given it another probe or other leaves.

The edit resets the streaks and leaves `last_outcome` alone, where the runtime keeps the edge it
applied last.  `binding_step` says what a tick can do to a binding whose leaves can be read,
`steady_applies` and `steady_suppressed` what ticks of one outcome do, and
`edited_binding_takes_effect_iff` when the new leaf of that outcome is applied.
-/

namespace RebooterHub.Watchdog
open RebooterHub.Runs RebooterHub.Fallible

/-! ### Applied leaves -/

/-- The outcome an edge belongs to. -/
def Edge.outcome : Edge → ProbeOutcome
  | .active => .success
  | .cleared => .failure

/-- The threshold of an edge. -/
def edgeThreshold (rule : WatchdogRule) : Edge → Int
  | .active => rule.recoveryThreshold
  | .cleared => rule.failureThreshold

/-- The streak that asserts an edge. -/
def edgeStreak (rule : WatchdogRule) : Edge → Nat
  | .active => rule.recoveryStreak
  | .cleared => rule.failureStreak

/-- The edges a tick applies, each with the leaf that is handed to the executors. -/
def tickLeaves (rule : WatchdogRule) (i : RuleInput) : List (Edge × Json) :=
  (tickEdges rule i).zip (committedTick i rule).dispatched

/-- The leaves a run of ticks applies. -/
def appliedLeaves (rule : WatchdogRule) (is : List RuleInput) : List (Edge × Json) :=
  emitted afterTick tickLeaves rule is

/-- The outcomes a run of ticks evaluates. -/
def evaluations (rule : WatchdogRule) (is : List RuleInput) : List ProbeOutcome :=
  emitted afterTick (fun r i => (evaluated i r).toList) rule is

/-- The tick evaluates the probe to `o`, or leaves the rule alone. -/
def Steady (o : ProbeOutcome) (rule : WatchdogRule) (i : RuleInput) : Prop :=
  evaluated i rule = some o ∨ evaluated i rule = none ∧ afterTick rule i = rule

/-- The leaf of an edge is applied in the run. -/
def TakesEffect (rule : WatchdogRule) (e : Edge) (is : List RuleInput) : Prop :=
  ∃ leaf, bindingLeaf rule e = .ok leaf ∧ (e, leaf) ∈ appliedLeaves rule is

/-- A binding whose leaves can be read. -/
structure Readable (rule : WatchdogRule) : Prop where
  binding : IsBinding rule
  leaves : ∀ e, ∃ leaf kind, bindingLeaf rule e = .ok leaf ∧ actionKind leaf = .ok kind

theorem Readable.congr {r r' : WatchdogRule} (h : Readable r) (ha : r'.action = r.action) :
    Readable r' := by
  refine ⟨?_, fun e => ?_⟩
  · rw [IsBinding, ha]
    exact h.binding
  · rw [bindingLeaf, ha]
    exact h.leaves e

/-! ### What a tick does to a binding -/

/-- The row with `last_probed_at` stamped and the outcome of an edge counted. -/
def counted (rule : WatchdogRule) (now : Time) (e : Edge) : WatchdogRule :=
  countOutcome (probedAt rule now) e.outcome

@[simp] theorem edgeStreak_counted (r : WatchdogRule) (now : Time) (e : Edge) :
    edgeStreak (counted r now e) e = edgeStreak r e + 1 := by cases e <;> rfl

theorem counted_action (r : WatchdogRule) (now : Time) (e : Edge) :
    (counted r now e).action = r.action := countOutcome_action _ _

theorem counted_lastOutcome (r : WatchdogRule) (now : Time) (e : Edge) :
    (counted r now e).lastOutcome = r.lastOutcome := countOutcome_lastOutcome _ _

/-- A committed tick at `now` that evaluated an outcome, on a binding: the row before it, the row
after it, and the leaves it applies. -/
inductive BindingStep (now : Time) :
    Option ProbeOutcome → WatchdogRule → WatchdogRule → List (Edge × Json) → Prop where
  | idle {r : WatchdogRule} : BindingStep now none r r []
  | skipped {r : WatchdogRule} :
      BindingStep now none r { probedAt r now with lastOutcome := some .maintenanceSkip } []
  | probeError {r : WatchdogRule} :
      BindingStep now (some .probeError) r (noted r now .probeError) []
  | settling {r : WatchdogRule} (e : Edge) :
      (edgeStreak r e + 1 : Nat) < max 1 (edgeThreshold r e) →
      BindingStep now (some e.outcome) r
        { counted r now e with lastOutcome := some (.settling e.outcome) } []
  | standing {r : WatchdogRule} (e : Edge) :
      max 1 (edgeThreshold r e) ≤ (edgeStreak r e + 1 : Nat) →
      r.lastOutcome = some (.binding e) →
      BindingStep now (some e.outcome) r (counted r now e) []
  | applied {r : WatchdogRule} (e : Edge) (leaf : Json) :
      max 1 (edgeThreshold r e) ≤ (edgeStreak r e + 1 : Nat) →
      r.lastOutcome ≠ some (.binding e) → bindingLeaf r e = .ok leaf →
      BindingStep now (some e.outcome) r (markApplied (counted r now e) e now) [(e, leaf)]

/-- After an outcome was counted, its edge is asserted or none is. -/
theorem assertedEdge_counted (r : WatchdogRule) (now : Time) (e : Edge) :
    assertedEdge (counted r now e)
      = if max 1 (edgeThreshold r e) ≤ (edgeStreak r e + 1 : Nat) then some e else none := by
  cases e with
  | active =>
      have hcleared : ¬ max 1 r.failureThreshold ≤ 0 := by omega
      simp [assertedEdge, counted, countOutcome, probedAt, Edge.outcome, edgeThreshold,
        edgeStreak, hcleared]
  | cleared =>
      have hactive : ¬ max 1 r.recoveryThreshold ≤ 0 := by omega
      simp [assertedEdge, counted, countOutcome, probedAt, Edge.outcome, edgeThreshold,
        edgeStreak, hactive]

theorem bindingTick_eq (inp : TickInput) (r : WatchdogRule) (e : Edge) :
    bindingTick inp r e.outcome
      = match assertedEdge (counted r inp.now e) with
        | none => ⟨{ counted r inp.now e with lastOutcome := some (.settling e.outcome) }, [], [],
            none⟩
        | some d => applyEdge inp (counted r inp.now e) e.outcome d := by
  cases e <;> rfl

/-- Applying an edge that is not the one applied last hands its leaf over. -/
theorem applyEdge_fresh {inp : TickInput} {r : WatchdogRule} {o : ProbeOutcome} {e : Edge}
    {leaf kind : Json} (hmark : r.lastOutcome ≠ some (.binding e))
    (hleaf : bindingLeaf r e = .ok leaf) (hkind : actionKind leaf = .ok kind) :
    ∃ result, applyEdge inp r o e
      = ⟨markApplied r e inp.now, [.bindingApplied e o kind result], [leaf], none⟩ := by
  have hfire : ∃ result, fireAction inp r leaf = .ok result :=
    ⟨_, by rw [fireAction, hkind]; rfl⟩
  obtain ⟨result, hfire⟩ := hfire
  refine ⟨result, ?_⟩
  rw [applyEdge, if_neg hmark, hleaf]
  dsimp only
  rw [hfire, hkind]

/-- The evaluation of a binding whose leaves can be read does not raise. -/
theorem binding_update {inp : TickInput} {r : WatchdogRule} (h : Readable r) (o : ProbeOutcome) :
    (bindingTick inp r o).raised = none ∧
      BindingStep inp.now (some o) r (bindingTick inp r o).rule
        (((bindingTick inp r o).events.filterMap EventRecord.edge?).zip
          (bindingTick inp r o).dispatched) := by
  have hedge : ∀ e : Edge, (bindingTick inp r e.outcome).raised = none ∧
      BindingStep inp.now (some e.outcome) r (bindingTick inp r e.outcome).rule
        (((bindingTick inp r e.outcome).events.filterMap EventRecord.edge?).zip
          (bindingTick inp r e.outcome).dispatched) := by
    intro e
    rw [bindingTick_eq, assertedEdge_counted]
    by_cases hreach : max 1 (edgeThreshold r e) ≤ (edgeStreak r e + 1 : Nat)
    · rw [if_pos hreach]
      dsimp only
      by_cases hmark : r.lastOutcome = some (.binding e)
      · have hmark' : (counted r inp.now e).lastOutcome = some (.binding e) :=
          (counted_lastOutcome r inp.now e).trans hmark
        rw [applyEdge, if_pos hmark']
        exact ⟨rfl, .standing e hreach hmark⟩
      · have hmark' : (counted r inp.now e).lastOutcome ≠ some (.binding e) := by
          rw [counted_lastOutcome]
          exact hmark
        obtain ⟨leaf, kind, hleaf, hkind⟩ := h.leaves e
        have hleaf' : bindingLeaf (counted r inp.now e) e = .ok leaf := by
          rw [bindingLeaf, counted_action]
          exact hleaf
        obtain ⟨result, happly⟩ : ∃ result, applyEdge inp (counted r inp.now e) e.outcome e
            = ⟨markApplied (counted r inp.now e) e inp.now,
              [.bindingApplied e e.outcome kind result], [leaf], none⟩ :=
          applyEdge_fresh hmark' hleaf' hkind
        rw [happly]
        exact ⟨rfl, .applied e leaf hreach hmark hleaf⟩
    · rw [if_neg hreach]
      exact ⟨rfl, .settling e (by omega)⟩
  cases o with
  | probeError => exact ⟨rfl, .probeError⟩
  | success => exact hedge .active
  | failure => exact hedge .cleared

/-- **What a tick does to a binding** whose leaves can be read. -/
theorem binding_step {i : RuleInput} {r : WatchdogRule} (h : Readable r) :
    BindingStep i.now (evaluated i r) r (afterTick r i) (tickLeaves r i) := by
  rw [afterTick, tickLeaves, tickEdges]
  rcases committedTick_cases i r with
    ⟨he, -, raised, ht⟩ | ⟨he, -, ht⟩ | ⟨o, details, he, -, hcommit⟩
  · rw [he, ht]
    exact .idle
  · rw [he, ht]
    exact .skipped
  · obtain ⟨hraised, hstep⟩ := @binding_update i.toTickInput r h o
    rw [update_of_binding h.binding] at hcommit
    rcases hcommit with ⟨e, hsome, -⟩ | ⟨-, ht⟩
    · cases hsome.symm.trans hraised
    · rw [he, ht]
      exact hstep

/-- A step leaves the action and the thresholds alone. -/
theorem BindingStep.config {now : Time} {o : Option ProbeOutcome} {r r' : WatchdogRule}
    {ls : List (Edge × Json)} (h : BindingStep now o r r' ls) :
    r'.action = r.action ∧ ∀ e, edgeThreshold r' e = edgeThreshold r e := by
  cases h with
  | idle | skipped | probeError => exact ⟨rfl, fun _ => rfl⟩
  | settling d | standing d | applied d =>
      refine ⟨counted_action r now d, fun e => ?_⟩
      cases d <;> cases e <;> rfl

theorem Readable.afterTick {r : WatchdogRule} (h : Readable r) (i : RuleInput) :
    Readable (afterTick r i) := h.congr (binding_step h).config.1

theorem bindingLeaf_afterTick {r : WatchdogRule} (h : Readable r) (i : RuleInput) (e : Edge) :
    bindingLeaf (afterTick r i) e = bindingLeaf r e := by
  rw [bindingLeaf, (binding_step h).config.1, bindingLeaf]

theorem Edge.outcome_inj {d e : Edge} (h : d.outcome = e.outcome) : d = e := by
  cases d <;> cases e <;> first | rfl | cases h

/-- A tick that evaluates nothing applies nothing. -/
theorem BindingStep.of_none {now : Time} {r r' : WatchdogRule} {ls : List (Edge × Json)}
    (h : BindingStep now none r r' ls) : ls = [] := by
  cases h <;> rfl

/-- What a tick that evaluates the outcome of an edge does to it. -/
theorem BindingStep.of_outcome {now : Time} {r r' : WatchdogRule} {ls : List (Edge × Json)}
    {e : Edge} (h : BindingStep now (some e.outcome) r r' ls) :
    edgeStreak r' e = edgeStreak r e + 1 ∧
      ((edgeStreak r e + 1 : Nat) < max 1 (edgeThreshold r e) ∧
          r'.lastOutcome ≠ some (.binding e) ∧ ls = [] ∨
        max 1 (edgeThreshold r e) ≤ (edgeStreak r e + 1 : Nat) ∧
          r'.lastOutcome = some (.binding e) ∧
          (r.lastOutcome = some (.binding e) ∧ ls = [] ∨
            r.lastOutcome ≠ some (.binding e) ∧
              ∃ leaf, bindingLeaf r e = .ok leaf ∧ ls = [(e, leaf)])) := by
  generalize ho : some e.outcome = o at h
  cases h with
  | idle | skipped => cases ho
  | probeError => cases e <;> cases ho
  | settling d hshort =>
      obtain rfl := Edge.outcome_inj (Option.some.inj ho)
      refine ⟨?_, .inl ⟨hshort, nofun, rfl⟩⟩
      cases e <;> rfl
  | standing d hreach hmark =>
      obtain rfl := Edge.outcome_inj (Option.some.inj ho)
      refine ⟨edgeStreak_counted r now e, .inr ⟨hreach, ?_, .inl ⟨hmark, rfl⟩⟩⟩
      rw [counted_lastOutcome]
      exact hmark
  | applied d leaf hreach hmark hleaf =>
      obtain rfl := Edge.outcome_inj (Option.some.inj ho)
      refine ⟨?_, .inr ⟨hreach, rfl, .inr ⟨hmark, leaf, hleaf, rfl⟩⟩⟩
      cases e <;> rfl

/-! ### Ticks of one outcome -/

@[simp] theorem appliedLeaves_cons (r : WatchdogRule) (i : RuleInput) (is : List RuleInput) :
    appliedLeaves r (i :: is) = tickLeaves r i ++ appliedLeaves (afterTick r i) is := rfl

@[simp] theorem evaluations_cons (r : WatchdogRule) (i : RuleInput) (is : List RuleInput) :
    evaluations r (i :: is) = (evaluated i r).toList ++ evaluations (afterTick r i) is := rfl

/-- **Ticks of one outcome apply its leaf**, once they are as many as its threshold, unless the
first of them finds it standing. -/
theorem steady_applies {e : Edge} {leaf : Json} {r : WatchdogRule} {is : List RuleInput}
    (h : Readable r) (hleaf : bindingLeaf r e = .ok leaf)
    (hfresh : r.lastOutcome ≠ some (.binding e) ∨
      (edgeStreak r e + 1 : Nat) < max 1 (edgeThreshold r e))
    (hsteady : Admits afterTick (Steady e.outcome) r is)
    (hsome : 0 < (evaluations r is).length)
    (hlong : max 1 (edgeThreshold r e) ≤ (edgeStreak r e + (evaluations r is).length : Nat)) :
    (e, leaf) ∈ appliedLeaves r is := by
  induction is generalizing r with
  | nil => exact absurd hsome (Nat.lt_irrefl 0)
  | cons i is ih =>
      obtain ⟨hi, his⟩ := hsteady
      have hstep := binding_step (i := i) h
      rw [appliedLeaves_cons]
      rw [evaluations_cons] at hsome hlong
      rcases hi with he | ⟨he, hsame⟩
      · -- the tick counts the outcome: its edge settles, stands, or is applied
        rw [he] at hstep hsome hlong
        simp only [Option.toList_some, List.length_append, List.length_singleton] at hsome hlong
        obtain ⟨hcount, ⟨hshort, hlost, -⟩ | ⟨hreach, -, hmark⟩⟩ := hstep.of_outcome
        · refine List.mem_append_right _ (ih (h.afterTick i) ?_ (.inl hlost) his ?_ ?_)
          · rw [bindingLeaf_afterTick h]
            exact hleaf
          · omega
          · rw [hcount, hstep.config.2]
            omega
        · rcases hmark with ⟨hmark, -⟩ | ⟨-, leaf', hleaf', happlied⟩
          · rcases hfresh with hfresh | hfresh
            · exact absurd hmark hfresh
            · omega
          · obtain rfl : leaf = leaf' := Except.ok.inj (hleaf.symm.trans hleaf')
            rw [happlied]
            exact List.mem_append_left _ (List.mem_singleton_self _)
      · rw [he, Option.toList_none, List.nil_append, hsame] at hsome hlong
        rw [hsame] at his ⊢
        exact List.mem_append_right _ (ih h hleaf hfresh his hsome hlong)

/-- **Ticks of one outcome apply nothing** while its edge stands. -/
theorem steady_suppressed {e : Edge} {r : WatchdogRule} {is : List RuleInput} (h : Readable r)
    (hmark : r.lastOutcome = some (.binding e))
    (hreach : max 1 (edgeThreshold r e) ≤ (edgeStreak r e + 1 : Nat))
    (hsteady : Admits afterTick (Steady e.outcome) r is) : appliedLeaves r is = [] := by
  induction is generalizing r with
  | nil => rfl
  | cons i is ih =>
      obtain ⟨hi, his⟩ := hsteady
      have hstep := binding_step (i := i) h
      rw [appliedLeaves_cons]
      rcases hi with he | ⟨he, hsame⟩
      · -- the streak only grows, so the edge is asserted again and found standing
        rw [he] at hstep
        obtain ⟨hcount, ⟨hshort, -, -⟩ | ⟨-, hmark', hnone⟩⟩ := hstep.of_outcome
        · omega
        · have hleaves : tickLeaves r i = [] := by
            rcases hnone with ⟨-, hnone⟩ | ⟨hfresh, -⟩
            · exact hnone
            · exact absurd hmark hfresh
          rw [hleaves, List.nil_append]
          refine ih (h.afterTick i) hmark' ?_ his
          rw [hcount, hstep.config.2]
          omega
      · rw [he] at hstep
        rw [hstep.of_none, List.nil_append]
        rw [hsame] at his ⊢
        exact ih h hmark hreach his

/-- After any ticks, either the leaf of an edge has been applied, or the edge does not stand, or it
has stood from the start and every tick was of its outcome. -/
theorem applied_or_fresh {e : Edge} {leaf : Json} {r : WatchdogRule} (h : Readable r)
    (hleaf : bindingLeaf r e = .ok leaf) (is : List RuleInput) :
    (e, leaf) ∈ appliedLeaves r is ∨ (run afterTick r is).lastOutcome ≠ some (.binding e) ∨
      r.lastOutcome = some (.binding e) ∧ Admits afterTick (Steady e.outcome) r is := by
  induction is generalizing r with
  | nil =>
      by_cases hmark : r.lastOutcome = some (.binding e)
      · exact .inr (.inr ⟨hmark, trivial⟩)
      · exact .inr (.inl hmark)
  | cons i is ih =>
      have hleaf' := (bindingLeaf_afterTick h i e).trans hleaf
      rcases ih (h.afterTick i) hleaf' with happlied | hfresh | ⟨hmark, his⟩
      · exact .inl (List.mem_append_right _ happlied)
      · exact .inr (.inl hfresh)
      · -- the edge stands after the first tick: which step can that have been?
        have hstep := binding_step (i := i) h
        generalize ho : evaluated i r = o at hstep
        generalize hr : afterTick r i = r' at *
        generalize hls : tickLeaves r i = ls at *
        cases hstep with
        | idle =>
            refine .inr (.inr ⟨hmark, .inr ⟨ho, hr⟩, ?_⟩)
            rw [hr]
            exact his
        | skipped | probeError | settling d => cases hmark
        | standing d hreach hstands =>
            rw [counted_lastOutcome, hstands] at hmark
            cases hmark
            refine .inr (.inr ⟨hstands, .inl ho, ?_⟩)
            rw [hr]
            exact his
        | applied d leaf' hreach hnew hleaf₀ =>
            cases hmark
            obtain rfl : leaf = leaf' := Except.ok.inj (hleaf.symm.trans hleaf₀)
            refine .inl (List.mem_append_left _ ?_)
            rw [hls]
            exact List.mem_singleton_self _

/-! ### The edit -/

/-- An edge that is accepted has an object for its leaf. -/
theorem validateEdge_leaf {path : String} {ms : List (String × Json)} {sub : String}
    (h : validateEdge path ms sub = .ok ()) : ∃ leaf, field ms sub = .obj leaf := by
  rw [validateEdge] at h
  split at h
  · next leaf hleaf => exact ⟨leaf, hleaf⟩
  · cases h

/-- A binding whose action is accepted can be read. -/
theorem readable_of_valid {rule : WatchdogRule} (hb : IsBinding rule)
    (h : validateAction rule.action = .ok ()) : Readable rule := by
  rw [validateAction.eq_def] at h
  cases ha : rule.action with
  | obj ms =>
      have hkind : field ms "kind" = .str "binding" := by
        rw [IsBinding, ha, actionKind, Json.orEmpty_obj] at hb
        exact Except.ok.inj hb
      rw [ha] at h
      simp only [hkind, if_true] at h
      obtain ⟨_, hactive, hcleared⟩ := bind_eq_ok h
      have hedge : ∀ e : Edge, ∃ leaf, field ms e.leafKey = .obj leaf := by
        intro e
        cases e with
        | active => exact validateEdge_leaf hactive
        | cleared => exact validateEdge_leaf hcleared
      refine ⟨hb, fun e => ?_⟩
      obtain ⟨leaf, hleaf⟩ := hedge e
      refine ⟨.obj leaf, field leaf "kind", ?_, ?_⟩
      · have hread : bindingLeaf rule e = .ok (field ms e.leafKey).orEmpty := by
          rw [bindingLeaf, ha, Json.orEmpty_obj]
          rfl
        rw [hread, hleaf, Json.orEmpty_obj]
      · rw [actionKind, Json.orEmpty_obj]
        rfl
  | _ => simp [ha] at h

/-- A number that is accepted lies in its range. -/
theorem checkBound_spec {x : Json} {low high : Int} {message : String}
    (h : checkBound x low high message = .ok ()) : ∃ n, x.toInt = .ok n ∧ low ≤ n := by
  obtain ⟨n, hn, h⟩ := bind_eq_ok h
  refine ⟨n, raising_eq_ok hn, ?_⟩
  by_cases hlow : n < low
  · simp [hlow] at h
  · omega

theorem validateRuleInputs_spec {i : RuleInputs} {name : String}
    (h : validateRuleInputs i = .ok name) :
    validateAction i.action = .ok () ∧ (∃ n, i.failureThreshold.toInt = .ok n ∧ 1 ≤ n) ∧
      ∃ n, i.recoveryThreshold.toInt = .ok n ∧ 1 ≤ n := by
  obtain ⟨_, -, h⟩ := bind_eq_ok h
  obtain ⟨_, -, h⟩ := bind_eq_ok h
  obtain ⟨_, -, h⟩ := bind_eq_ok h
  obtain ⟨_, -, h⟩ := bind_eq_ok h
  obtain ⟨_, haction, h⟩ := bind_eq_ok h
  obtain ⟨_, hfailure, h⟩ := bind_eq_ok h
  obtain ⟨_, hrecovery, -⟩ := bind_eq_ok h
  exact ⟨haction, checkBound_spec hfailure, checkBound_spec hrecovery⟩

/-- What an edit leaves of the row: the new action, thresholds of at least one, streaks of zero,
and the `last_outcome` of before. -/
theorem updateRule_row {rows rows' : List RuleRow} {ruleId : String} {i : RuleInputs}
    {old row : RuleRow} (hold : getRule rows ruleId = some old)
    (h : updateRule rows ruleId i = .ok (rows', some row)) :
    validateAction row.rule.action = .ok () ∧ (∀ e, 1 ≤ edgeThreshold row.rule e) ∧
      (∀ e, edgeStreak row.rule e = 0) ∧ row.rule.lastOutcome = old.rule.lastOutcome := by
  -- the row exists, so it was configured and then reset
  obtain ⟨⟨name, hvalid⟩, ⟨-, hnone, -⟩ | ⟨old', configured, _, hold', hconf, hrow, -⟩⟩ :=
    updateRule_spec h
  · cases hnone
  · obtain rfl : old = old' := Option.some.inj (hold.symm.trans hold')
    obtain rfl : row = configured.reset := Option.some.inj hrow
    obtain ⟨f, r, w, c, hrule, hf, hr⟩ := configure_spec hconf
    obtain ⟨haction, ⟨f', hf', hf1⟩, ⟨r', hr', hr1⟩⟩ := validateRuleInputs_spec hvalid
    obtain rfl : f = f' := Except.ok.inj (hf.symm.trans hf')
    obtain rfl : r = r' := Except.ok.inj (hr.symm.trans hr')
    refine ⟨?_, fun e => ?_, fun e => ?_, ?_⟩
    · rw [RuleRow.reset, hrule]
      exact haction
    · rw [RuleRow.reset, hrule]
      cases e with
      | active => exact hr1
      | cleared => exact hf1
    · cases e <;> rfl
    · rw [RuleRow.reset, hrule]

/-- **When an edited binding takes effect.**  Let a rule be edited into a binding, and let ticks
follow, the last of which all evaluate its probe to one outcome, at least as often as that
outcome's threshold.  Then the leaf that the edited rule has for the outcome is applied, unless
`last_outcome` at the edit says that the outcome's edge was applied last, the threshold is one, and
the ticks before those were of that outcome too. -/
theorem edited_binding_takes_effect_iff {rows rows' : List RuleRow} {ruleId : String}
    {i : RuleInputs} {old row : RuleRow} (hold : getRule rows ruleId = some old)
    (hupdate : updateRule rows ruleId i = .ok (rows', some row)) (hb : IsBinding row.rule)
    (e : Edge) (before is : List RuleInput)
    (hsteady : Admits afterTick (Steady e.outcome) (run afterTick row.rule before) is)
    (hlong : edgeThreshold row.rule e ≤ (evaluations (run afterTick row.rule before) is).length) :
    TakesEffect row.rule e (before ++ is) ↔
      ¬(old.rule.lastOutcome = some (.binding e) ∧ edgeThreshold row.rule e = 1 ∧
        Admits afterTick (Steady e.outcome) row.rule before) := by
  obtain ⟨hvalid, hbound, hstreak, hlast⟩ := updateRule_row hold hupdate
  have hread : Readable row.rule := readable_of_valid hb hvalid
  have hpos := hbound e
  constructor
  · rintro ⟨leaf, -, hmem⟩ ⟨hmark, hone, hbefore⟩
    have hnone : appliedLeaves row.rule (before ++ is) = [] := by
      refine steady_suppressed hread (hlast.trans hmark) ?_
        ((admits_append _ _ _).mpr ⟨hbefore, hsteady⟩)
      rw [hone, hstreak]
      decide
    rw [hnone] at hmem
    cases hmem
  · intro hcond
    obtain ⟨leaf, kind, hleaf, -⟩ := hread.leaves e
    refine ⟨leaf, hleaf, ?_⟩
    have hparts : appliedLeaves row.rule (before ++ is)
        = appliedLeaves row.rule before ++ appliedLeaves (run afterTick row.rule before) is :=
      emitted_append _ _ _
    have hend : Readable (run afterTick row.rule before) ∧
        bindingLeaf (run afterTick row.rule before) e = .ok leaf ∧
        edgeThreshold (run afterTick row.rule before) e = edgeThreshold row.rule e := by
      have hall : Admits afterTick (fun _ _ => True) row.rule before :=
        admits_of_forall (fun _ _ => trivial) _ _
      refine run_invariant (I := fun r => Readable r ∧ bindingLeaf r e = .ok leaf ∧
          edgeThreshold r e = edgeThreshold row.rule e) ?_ ⟨hread, hleaf, rfl⟩ hall
      rintro r t ⟨hr, hl, ht⟩ -
      exact ⟨hr.afterTick t, (bindingLeaf_afterTick hr t e).trans hl,
        ((binding_step hr).config.2 e).trans ht⟩
    rcases applied_or_fresh hread hleaf before with happlied | hfresh | ⟨hmark, hbefore⟩
    · rw [hparts]
      exact List.mem_append_left _ happlied
    · rw [hparts]
      refine List.mem_append_right _
        (steady_applies hend.1 hend.2.1 (.inl hfresh) hsteady (by omega) ?_)
      rw [hend.2.2]
      omega
    · -- the edge stands, so the threshold is two or more and the first tick unsettles it
      have hone : edgeThreshold row.rule e ≠ 1 :=
        fun hone => hcond ⟨hlast.symm.trans hmark, hone, hbefore⟩
      have hcount : (evaluations row.rule (before ++ is)).length
          = (evaluations row.rule before).length
            + (evaluations (run afterTick row.rule before) is).length := by
        rw [evaluations, emitted_append, List.length_append]
        rfl
      refine steady_applies hread hleaf (.inr ?_) ((admits_append _ _ _).mpr ⟨hbefore, hsteady⟩)
        ?_ ?_
      · rw [hstreak]
        omega
      · rw [hcount]
        omega
      · rw [hcount, hstreak]
        omega

/-- The inputs of a binding that hands `leaf` over while its probe succeeds. -/
def holdInputs (leaf : String) : RuleInputs where
  name := .str "hold"
  probe := .obj [("kind", .str "gateway")]
  target := .obj [("kind", .str "tag"), ("tag", .str "lab")]
  action := .obj [("kind", .str "binding"), ("on_active", .obj [("kind", .str leaf)]),
    ("on_clear", .obj [("kind", .str "relay_on")])]
  siteId := .null
  description := .null
  failureThreshold := .int 1
  recoveryThreshold := .int 1
  windowSeconds := .int 60
  cooldownSeconds := .int 0
  maxRetries := .int 3
  retryDelaySeconds := .int 60
  escalation := .null
  maintenanceWindows := .null

/-- The table after a binding was created and one tick found its probe succeeding. -/
def heldTable : List RuleRow :=
  run tableStep [] [.create "wdr_1" (holdInputs "hold_off"),
    .tick (tickAt 0 (.done true .null)).toTickInput]

/-- The row of that binding. -/
def heldRow : RuleRow where
  rule :=
    { id := "wdr_1"
      enabled := true
      status := .firing
      probe := (holdInputs "hold_off").probe
      failureThreshold := 1
      recoveryThreshold := 1
      windowSeconds := 60
      cooldownSeconds := 0
      target := (holdInputs "hold_off").target
      action := (holdInputs "hold_off").action
      escalation := .obj [("kind", .str "stop")]
      maintenanceWindows := .arr []
      failureStreak := 0
      recoveryStreak := 1
      lastProbedAt := some (seconds 0)
      lastActionAt := some (seconds 0)
      lastOutcome := some (.binding .active) }
  name := "hold"
  description := .null
  siteId := .null
  maxRetries := 3
  retryDelaySeconds := 60

theorem heldTable_row : getRule heldTable "wdr_1" = some heldRow := by rfl

/-- The row after its action was edited to hand `leaf` over. -/
def editedRow (leaf : String) : RuleRow :=
  { heldRow with rule := { heldRow.rule with
      action := (holdInputs leaf).action
      status := .armed
      recoveryStreak := 0 } }

theorem heldTable_edit : updateRule heldTable "wdr_1" (holdInputs "cycle")
    = .ok ([editedRow "cycle"], some (editedRow "cycle")) := by rfl

/-- A failure and a success after the edit apply the new leaf. -/
theorem edited_binding_takes_effect_after_failure :
    TakesEffect (editedRow "cycle").rule .active
      ([tickAt 60 (.done false .null)] ++ [tickAt 120 (.done true .null)]) := by
  refine (edited_binding_takes_effect_iff heldTable_row heldTable_edit rfl .active
    [tickAt 60 (.done false .null)] [tickAt 120 (.done true .null)]
    ⟨.inl rfl, trivial⟩ (by decide)).mpr ?_
  rintro ⟨-, -, heval | ⟨heval, -⟩, -⟩ <;> cases heval

/-- Successes after the edit never apply it: `last_outcome` still says that the edge `active` was
applied. -/
theorem edited_leaf_not_applied :
    heldTable = [heldRow] ∧ heldRow.rule.lastOutcome = some (.binding .active) ∧
      updateRule heldTable "wdr_1" (holdInputs "cycle")
        = .ok ([editedRow "cycle"], some (editedRow "cycle")) ∧
      bindingLeaf (editedRow "cycle").rule .active ≠ bindingLeaf heldRow.rule .active ∧
      evaluations (editedRow "cycle").rule
          [tickAt 60 (.done true .null), tickAt 120 (.done true .null)] = [.success, .success] ∧
      edgeThreshold (editedRow "cycle").rule .active = 1 ∧
      ¬ TakesEffect (editedRow "cycle").rule .active
        [tickAt 60 (.done true .null), tickAt 120 (.done true .null)] := by
  have hnone : appliedLeaves (editedRow "cycle").rule
      [tickAt 60 (.done true .null), tickAt 120 (.done true .null)] = [] := by rfl
  refine ⟨rfl, rfl, heldTable_edit, ?_, rfl, rfl, ?_⟩
  · have hold : bindingLeaf heldRow.rule .active = .ok (.obj [("kind", .str "hold_off")]) := rfl
    have hnew : bindingLeaf (editedRow "cycle").rule .active
        = .ok (.obj [("kind", .str "cycle")]) := rfl
    rw [hold, hnew]
    simp
  · rintro ⟨leaf, -, hmem⟩
    rw [hnone] at hmem
    cases hmem

end RebooterHub.Watchdog
