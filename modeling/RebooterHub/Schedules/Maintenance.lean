import RebooterHub.Schedules.Runtime
import RebooterHub.Support.Runs

/-!
# Schedules — Maintenance

The maintenance flag under two writers: the operator's toggles and the reconciler of the schedule
tick.

The flag does not say who wrote it last; the reconciler reads that off its reason and its override
stamp.  `Maintenance` keeps the last write beside the flag, `Respects` says in its terms what the
reconciler owes the operator, and `reconcile_respects_operator_iff` says, for every state that a
run reaches, at which reconciliations it does.
-/

namespace RebooterHub.Schedules
open RebooterHub.Runs

/-! ### The last write -/

/-- A write of the flag. -/
inductive FlagWrite where
  | operator (on : Bool) (reason : Option String) (at_ : Time)
  | reconciler (on : Bool)

/-- The flag after a write. -/
def FlagWrite.flag : FlagWrite → MaintenanceFlag
  | .operator on reason at_ => setMaintenanceMode on reason at_
  | .reconciler on =>
    setMaintenanceMode on (some (if on then "schedule" else "schedule_window_ended")) 0

/-- The flag, and the last write of it in the run. -/
structure Maintenance where
  flag : MaintenanceFlag
  last : Option FlagWrite

/-- A toggle of the operator's, or a reconciliation with the schedules as they then are. -/
inductive MaintenanceStep where
  | toggle (on : Bool) (reason : Option String) (at_ : Time)
  | reconcile (schedules : List Schedule) (now : Time)

/-- What a step does.  The reconciler writes the flag only to flip it. -/
def Maintenance.step (m : Maintenance) : MaintenanceStep → Maintenance
  | .toggle on reason at_ => ⟨setMaintenanceMode on reason at_, some (.operator on reason at_)⟩
  | .reconcile schedules now =>
    let flag := reconcileMaintenanceFlag schedules m.flag now
    ⟨flag, if flag.on = m.flag.on then m.last else some (.reconciler flag.on)⟩

/-- What a reconciliation owes the operator. -/
structure Respects (m : Maintenance) (schedules : List Schedule) (now : Time) : Prop where
  /-- A switch-off in a window that is still open stays. -/
  off_kept : ∀ reason at_, m.last = some (.operator false reason at_) →
    (∃ s ∈ schedules, windowOpen at_ s = true ∧ windowOpen now s = true) →
    (reconcileMaintenanceFlag schedules m.flag now).on = false
  /-- A switch-on stays. -/
  on_kept : ∀ reason at_, m.last = some (.operator true reason at_) →
    (reconcileMaintenanceFlag schedules m.flag now).on = true
  /-- The reconciler's own switch-on is cleared outside all windows. -/
  cleared : m.last = some (.reconciler true) → (∀ s ∈ schedules, windowOpen now s = false) →
    (reconcileMaintenanceFlag schedules m.flag now).on = false
  /-- The order of the rows does not matter. -/
  unordered : ∀ schedules', schedules.Perm schedules' →
    reconcileMaintenanceFlag schedules' m.flag now = reconcileMaintenanceFlag schedules m.flag now

/-! ### Open windows -/

/-- The starts of the open windows, in the order of the rows. -/
def openStarts (schedules : List Schedule) (now : Time) : List Time :=
  schedules.filterMap fun s => if windowOpen now s then s.lastRunAt else none

theorem windowOpen_spec {now : Time} {s : Schedule} (h : windowOpen now s = true) :
    ∃ start, s.lastRunAt = some start ∧ start ≤ now := by
  simp only [windowOpen, Bool.and_eq_true] at h
  cases hs : s.lastRunAt with
  | none => simp [hs] at h
  | some start =>
      simp only [hs, decide_eq_true_eq] at h
      exact ⟨start, rfl, h.2.1⟩

theorem activeWindowStart_eq (schedules : List Schedule) (now : Time) :
    activeWindowStart schedules now = (openStarts schedules now).head? := by
  rw [activeWindowStart, openStarts]
  induction schedules with
  | nil => rfl
  | cons s ss ih =>
      cases hs : windowOpen now s with
      | false => simpa [hs] using ih
      | true =>
          obtain ⟨start, hstart, -⟩ := windowOpen_spec hs
          simp [hs, hstart]

theorem mem_openStarts {schedules : List Schedule} {now start : Time} :
    start ∈ openStarts schedules now ↔
      ∃ s ∈ schedules, windowOpen now s = true ∧ s.lastRunAt = some start := by
  simp only [openStarts, List.mem_filterMap]
  refine exists_congr fun s => and_congr_right fun _ => ?_
  cases windowOpen now s <;> simp

theorem openStarts_eq_nil_iff {schedules : List Schedule} {now : Time} :
    openStarts schedules now = [] ↔ ∀ s ∈ schedules, windowOpen now s = false := by
  rw [List.eq_nil_iff_forall_not_mem]
  constructor
  · intro h s hs
    by_contra hopen
    obtain ⟨start, hstart, -⟩ := windowOpen_spec (Bool.of_not_eq_false hopen)
    exact h start (mem_openStarts.mpr ⟨s, hs, Bool.of_not_eq_false hopen, hstart⟩)
  · rintro h start hmem
    obtain ⟨s, hs, hopen, -⟩ := mem_openStarts.mp hmem
    simp [h s hs] at hopen

/-! ### What the reconciler does -/

/-- The operator's override falls into the window that began at `start`. -/
def Overridden (flag : MaintenanceFlag) (start : Time) : Prop :=
  ∃ at_ ∈ flag.operatorOverrideAt, start ≤ at_

theorem overridden_iff {flag : MaintenanceFlag} {start : Time} :
    (flag.operatorOverrideAt.any fun at_ => decide (start ≤ at_)) = true ↔
      Overridden flag start := by
  simp [Overridden, Option.any_eq_true]

/-- The flag is off: the first open window flips it, unless it was overridden in it. -/
theorem reconcile_off {flag : MaintenanceFlag} (hoff : flag.on = false)
    (schedules : List Schedule) (now : Time) :
    (reconcileMaintenanceFlag schedules flag now).on = true ↔
      ∃ start ∈ (openStarts schedules now).head?, ¬ Overridden flag start := by
  rw [reconcileMaintenanceFlag, activeWindowStart_eq]
  cases (openStarts schedules now).head? with
  | none => simp [hoff]
  | some start =>
      simp only [hoff, ← overridden_iff]
      split <;> simp_all [setMaintenanceMode]

/-- The flag is on: it is cleared outside all windows, if the reason is the reconciler's. -/
theorem reconcile_on {flag : MaintenanceFlag} (hon : flag.on = true)
    (schedules : List Schedule) (now : Time) :
    (reconcileMaintenanceFlag schedules flag now).on = false ↔
      openStarts schedules now = [] ∧ flag.reason = some "schedule" := by
  rw [reconcileMaintenanceFlag, activeWindowStart_eq]
  cases openStarts schedules now with
  | cons start starts => simp [hon]
  | nil =>
      simp only [hon, List.head?_nil, Bool.true_and]
      split <;> simp_all [setMaintenanceMode]

/-- A reconciliation leaves the flag alone, or flips it. -/
theorem reconcile_cases (schedules : List Schedule) (flag : MaintenanceFlag) (now : Time) :
    reconcileMaintenanceFlag schedules flag now = flag ∨
      reconcileMaintenanceFlag schedules flag now = (FlagWrite.reconciler (!flag.on)).flag := by
  rw [reconcileMaintenanceFlag]
  cases activeWindowStart schedules now with
  | none =>
      dsimp only
      split
      · next h =>
          simp only [Bool.and_eq_true] at h
          rw [h.1]
          exact .inr rfl
      · exact .inl rfl
  | some start =>
      dsimp only
      split
      · next h =>
          simp only [Bool.and_eq_true, Bool.not_eq_true'] at h
          rw [h.1]
          exact .inr rfl
      · exact .inl rfl

/-- Two reconciliations of one flag that agree on whether it is on agree. -/
theorem reconcile_eq_of_on {ss ss' : List Schedule} {flag : MaintenanceFlag} {now : Time}
    (h : (reconcileMaintenanceFlag ss flag now).on = (reconcileMaintenanceFlag ss' flag now).on) :
    reconcileMaintenanceFlag ss flag now = reconcileMaintenanceFlag ss' flag now := by
  have hflip : ∀ on : Bool, (FlagWrite.reconciler on).flag.on = on := fun _ => rfl
  rcases reconcile_cases ss flag now with h₁ | h₁ <;>
    rcases reconcile_cases ss' flag now with h₂ | h₂ <;> rw [h₁, h₂] at h ⊢
  · simp [hflip] at h
  · simp [hflip] at h

/-- Cutting makes no short text. -/
theorem cutReason_eq_some_iff {reason : Option String} {text : String} (h : text.length < 200) :
    cutReason reason = some text ↔ reason = some text := by
  cases reason with
  | none => simp [cutReason]
  | some r =>
      simp only [cutReason, Option.map_some, Option.some.injEq]
      split
      · next hlong =>
          refine iff_of_false ?_ ?_
          · rintro rfl
            -- a text that was cut has 200 characters
            have hlen : (r.toList.take 197).length = 197 := by
              rw [List.length_take, String.length_toList]
              omega
            rw [String.length_append, String.length_ofList, hlen] at h
            exact absurd h (by decide)
          · rintro rfl
            omega
      · rfl

/-! ### When the operator is respected -/

/-- The reason is one of the reconciler's own two. -/
def Reserved (reason : Option String) : Prop :=
  reason = some "schedule" ∨ reason = some "schedule_window_ended"

/-- What a reconciliation can read off the flag is what happened. -/
structure Legible (m : Maintenance) (schedules : List Schedule) (now : Time) : Prop where
  /-- The override of a flag that is off does not fall between the starts of open windows. -/
  apart : m.flag.on = false → ∀ at_ ∈ m.flag.operatorOverrideAt,
    (∀ start ∈ openStarts schedules now, start ≤ at_) ∨
      ∀ start ∈ openStarts schedules now, at_ < start
  /-- A switch-off whose window is still open does not give a reason of the reconciler's. -/
  off_reason : ∀ reason at_, m.last = some (.operator false reason at_) → Reserved reason →
    ¬ ∃ s ∈ schedules, windowOpen at_ s = true ∧ windowOpen now s = true
  /-- A switch-on does not give the reconciler's reason, unless a window is open. -/
  on_reason : ∀ at_, m.last = some (.operator true (some "schedule") at_) →
    openStarts schedules now ≠ []

/-- The flag is as its last write left it. -/
def Written (m : Maintenance) : Prop := ∀ w ∈ m.last, m.flag = w.flag

theorem Written.step {m : Maintenance} (h : Written m) (l : MaintenanceStep) :
    Written (m.step l) := by
  cases l with
  | toggle on reason at_ =>
      intro w hw
      obtain rfl : FlagWrite.operator on reason at_ = w := Option.some.inj hw
      rfl
  | reconcile schedules now =>
      intro w hw
      simp only [Maintenance.step] at hw ⊢
      rcases reconcile_cases schedules m.flag now with hsame | hflip
      · rw [hsame] at hw ⊢
        rw [if_pos rfl] at hw
        exact h w hw
      · have hon : (reconcileMaintenanceFlag schedules m.flag now).on = !m.flag.on := by
          rw [hflip]
          rfl
        rw [hon, if_neg (by simp)] at hw
        obtain rfl : FlagWrite.reconciler (!m.flag.on) = w := Option.some.inj hw
        exact hflip

theorem written_run {m : Maintenance} (h : Written m) (ls : List MaintenanceStep) :
    Written (run Maintenance.step m ls) :=
  run_invariant (I := Written) (fun _ l hm (_ : True) => hm.step l) h
    (admits_of_forall (fun _ _ => trivial) m ls)

/-- What an operator's write leaves in the flag. -/
theorem operator_flag {m : Maintenance} (h : Written m) {on : Bool} {reason : Option String}
    {at_ : Time} (hlast : m.last = some (.operator on reason at_)) :
    m.flag = setMaintenanceMode on reason at_ := h _ hlast

theorem operator_on {m : Maintenance} (h : Written m) {on : Bool} {reason : Option String}
    {at_ : Time} (hlast : m.last = some (.operator on reason at_)) : m.flag.on = on := by
  rw [operator_flag h hlast]
  rfl

theorem setMaintenanceMode_override (on : Bool) (reason : Option String) (at_ : Time) :
    (setMaintenanceMode on reason at_).operatorOverrideAt = none ↔ Reserved reason := by
  simp only [setMaintenanceMode, Reserved,
    cutReason_eq_some_iff (show "schedule".length < 200 by decide),
    cutReason_eq_some_iff (show "schedule_window_ended".length < 200 by decide)]
  split <;> simp [*]

theorem override_of_not_reserved {on : Bool} {reason : Option String} {at_ : Time}
    (h : ¬ Reserved reason) : (setMaintenanceMode on reason at_).operatorOverrideAt = some at_ := by
  have hsome := mt (setMaintenanceMode_override on reason at_).mp h
  revert hsome
  simp only [setMaintenanceMode]
  split <;> simp

/-- Some order of the rows reads a given open window first. -/
theorem exists_perm_head {schedules : List Schedule} {now start : Time}
    (h : start ∈ openStarts schedules now) :
    ∃ schedules', schedules.Perm schedules' ∧
      (openStarts schedules' now).head? = some start := by
  obtain ⟨s, hs, hopen, hstart⟩ := mem_openStarts.mp h
  obtain ⟨before, after, rfl⟩ := List.append_of_mem hs
  refine ⟨s :: (before ++ after), List.perm_middle, ?_⟩
  simp [openStarts, hopen, hstart]

theorem openStarts_perm {ss ss' : List Schedule} (h : ss.Perm ss') (now : Time) :
    (openStarts ss now).Perm (openStarts ss' now) := h.filterMap _

/-- Whether any window is open does not depend on the order of the rows. -/
theorem openStarts_eq_nil_perm {ss ss' : List Schedule} (h : ss.Perm ss') (now : Time) :
    openStarts ss now = [] ↔ openStarts ss' now = [] := by
  have hperm := openStarts_perm h now
  constructor
  · intro hnil
    rw [hnil] at hperm
    exact hperm.nil_eq.symm
  · intro hnil
    rw [hnil] at hperm
    exact hperm.eq_nil

/-- The flag is off and its override is not between the starts of open windows: whether it is
flipped is a matter of the set of windows. -/
theorem reconcile_off_apart {m : Maintenance} {schedules : List Schedule} {now : Time}
    (hoff : m.flag.on = false) (h : Legible m schedules now) :
    (reconcileMaintenanceFlag schedules m.flag now).on = true ↔
      openStarts schedules now ≠ [] ∧ ∀ start ∈ openStarts schedules now,
        ¬ Overridden m.flag start := by
  rw [reconcile_off hoff]
  constructor
  · rintro ⟨first, hfirst, hnot⟩
    have hmem := List.mem_of_mem_head? hfirst
    refine ⟨List.ne_nil_of_mem hmem, fun start hstart hover => ?_⟩
    obtain ⟨at_, hat, hle⟩ := hover
    rcases h.apart hoff at_ hat with hall | hall
    · exact hnot ⟨at_, hat, hall first hmem⟩
    · exact absurd hle (Int.not_le.mpr (hall start hstart))
  · rintro ⟨hne, hall⟩
    obtain ⟨first, hfirst⟩ : ∃ first, _ = some first := ⟨_, List.head?_eq_some_head hne⟩
    exact ⟨first, hfirst, hall first (List.mem_of_mem_head? hfirst)⟩

theorem Legible.perm {m : Maintenance} {ss ss' : List Schedule} {now : Time}
    (h : Legible m ss now) (hp : ss.Perm ss') : Legible m ss' now where
  apart hoff at_ hat := by
    simpa only [(openStarts_perm hp now).mem_iff] using h.apart hoff at_ hat
  off_reason reason at_ hlast hres := by
    simpa only [hp.mem_iff] using h.off_reason reason at_ hlast hres
  on_reason at_ hlast hnil := h.on_reason at_ hlast ((openStarts_eq_nil_perm hp now).mpr hnil)

/-- **A legible flag is reconciled as the operator is owed.** -/
theorem Legible.respects {m : Maintenance} (hw : Written m) {schedules : List Schedule}
    {now : Time} (h : Legible m schedules now) : Respects m schedules now where
  off_kept reason at_ hlast := by
    rintro ⟨s, hs, hthen, hopen⟩
    obtain ⟨start, hstart, hle⟩ := windowOpen_spec hthen
    have hflag := operator_flag hw hlast
    have hoff := operator_on hw hlast
    have hres : ¬ Reserved reason := fun hres =>
      h.off_reason reason at_ hlast hres ⟨s, hs, hthen, hopen⟩
    have hat : m.flag.operatorOverrideAt = some at_ := by
      rw [hflag, override_of_not_reserved hres]
    rw [← Bool.not_eq_true, reconcile_off_apart hoff h]
    rintro ⟨-, hall⟩
    exact hall start (mem_openStarts.mpr ⟨s, hs, hopen, hstart⟩) ⟨at_, hat, hle⟩
  on_kept reason at_ hlast := by
    have hflag := operator_flag hw hlast
    have hon := operator_on hw hlast
    rw [← Bool.not_eq_false, reconcile_on hon]
    rintro ⟨hnone, hreason⟩
    rw [hflag] at hreason
    obtain rfl := (cutReason_eq_some_iff (by decide)).mp hreason
    exact h.on_reason at_ hlast hnone
  cleared hlast hclosed := by
    have hflag : m.flag = (FlagWrite.reconciler true).flag := hw _ hlast
    have hon : m.flag.on = true := by rw [hflag]; rfl
    rw [reconcile_on hon]
    refine ⟨openStarts_eq_nil_iff.mpr hclosed, ?_⟩
    rw [hflag]
    decide
  unordered schedules' hp := by
    refine reconcile_eq_of_on ?_
    cases hon : m.flag.on with
    | true =>
        refine Bool.eq_iff_iff.mpr (not_iff_not.mp ?_)
        rw [Bool.not_eq_true, Bool.not_eq_true, reconcile_on hon, reconcile_on hon]
        exact and_congr_left fun _ => openStarts_eq_nil_perm hp.symm now
    | false =>
        refine Bool.eq_iff_iff.mpr ?_
        rw [reconcile_off_apart hon h, reconcile_off_apart hon (h.perm hp)]
        simp only [(openStarts_perm hp now).mem_iff]
        exact and_congr_left fun _ => not_congr (openStarts_eq_nil_perm hp.symm now)

/-- **What the operator is owed makes the flag legible.** -/
theorem Respects.legible {m : Maintenance} (hw : Written m) {schedules : List Schedule}
    {now : Time} (h : Respects m schedules now) : Legible m schedules now where
  apart hoff at_ hat := by
    by_contra hnot
    push Not at hnot
    obtain ⟨⟨late, hlate, hlt⟩, early, hearly, hle⟩ := hnot
    -- the window read first decides, and either can be
    obtain ⟨ss₁, hp₁, hhead₁⟩ := exists_perm_head hlate
    obtain ⟨ss₂, hp₂, hhead₂⟩ := exists_perm_head hearly
    have hsame := (h.unordered ss₁ hp₁).trans (h.unordered ss₂ hp₂).symm
    have hon : (reconcileMaintenanceFlag ss₁ m.flag now).on = true := by
      rw [reconcile_off hoff]
      refine ⟨late, hhead₁, ?_⟩
      rintro ⟨at', hat', hle'⟩
      obtain rfl : at_ = at' := Option.some.inj (hat.symm.trans hat')
      exact absurd hle' (Int.not_le.mpr hlt)
    rw [hsame, reconcile_off hoff] at hon
    obtain ⟨start, hstart, hover⟩ := hon
    obtain rfl : early = start := Option.some.inj (hhead₂.symm.trans hstart)
    exact hover ⟨at_, hat, hle⟩
  off_reason reason at_ hlast hres := by
    rintro ⟨s, hs, hthen, hopen⟩
    have hflag := operator_flag hw hlast
    have hoff := operator_on hw hlast
    obtain ⟨start, hstart, -⟩ := windowOpen_spec hopen
    have hne : openStarts schedules now ≠ [] :=
      List.ne_nil_of_mem (mem_openStarts.mpr ⟨s, hs, hopen, hstart⟩)
    obtain ⟨first, hfirst⟩ : ∃ first, _ = some first := ⟨_, List.head?_eq_some_head hne⟩
    -- a reserved reason leaves no override, so the open window switches the flag on again
    have hon : (reconcileMaintenanceFlag schedules m.flag now).on = true := by
      rw [reconcile_off hoff]
      refine ⟨first, hfirst, ?_⟩
      rintro ⟨at', hat', -⟩
      rw [hflag, (setMaintenanceMode_override false reason at_).mpr hres] at hat'
      cases hat'
    rw [h.off_kept reason at_ hlast ⟨s, hs, hthen, hopen⟩] at hon
    cases hon
  on_reason at_ hlast hnone := by
    have hflag := operator_flag hw hlast
    have hon := operator_on hw hlast
    have hcleared : (reconcileMaintenanceFlag schedules m.flag now).on = false := by
      rw [reconcile_on hon]
      refine ⟨hnone, ?_⟩
      rw [hflag]
      exact (cutReason_eq_some_iff (by decide)).mpr rfl
    rw [h.on_kept _ at_ hlast] at hcleared
    cases hcleared

/-- **When a reconciliation respects the operator**, whatever toggles and reconciliations were
before it, and with whatever flag they began. -/
theorem reconcile_respects_operator_iff (flag : MaintenanceFlag) (ls : List MaintenanceStep)
    (schedules : List Schedule) (now : Time) :
    Respects (run Maintenance.step ⟨flag, none⟩ ls) schedules now ↔
      Legible (run Maintenance.step ⟨flag, none⟩ ls) schedules now := by
  have hw : Written (run Maintenance.step ⟨flag, none⟩ ls) := written_run (fun w hw => by cases hw) ls
  exact ⟨Respects.legible hw, Legible.respects hw⟩

/-- A maintenance schedule whose two-hour window began `t` seconds into the first day. -/
def windowFrom (id : String) (t : Int) : Schedule where
  id := id
  name := "maintenance"
  enabled := true
  kind := .maintenance
  recurrence := .daily
  atTimeUtc := some "00:00"
  weekdays := .arr []
  startAt := none
  durationSeconds := 7200
  target := .obj []
  powerOffSeconds := 5
  postRebootHoldoffSeconds := 180
  lastRunAt := some (seconds t)
  nextRunAt := some 86400000000
  lastOutcome := some .maintenanceWindowOpen

/-- A window begins at 0 s and the reconciler switches the flag on; the operator switches it off
at 1800 s. -/
def switchedOff (reason : String) : Maintenance :=
  run Maintenance.step ⟨.default, none⟩
    [.reconcile [windowFrom "sch_1" 0] 0, .toggle false (some reason) (seconds 1800)]

/-- The operator is not respected: a second window that begins before the first has ended undoes
the switch-off, if its row is read first; a switch-off with a reason of the reconciler's is undone
at once; and a switch-on with its reason is cleared. -/
theorem reconcile_overrules_operator :
    ¬ Respects (switchedOff "done early") [windowFrom "sch_2" 3600, windowFrom "sch_1" 0]
        (seconds 3630) ∧
      (reconcileMaintenanceFlag [windowFrom "sch_2" 3600, windowFrom "sch_1" 0]
        (switchedOff "done early").flag (seconds 3630)).on = true ∧
      (reconcileMaintenanceFlag [windowFrom "sch_1" 0, windowFrom "sch_2" 3600]
        (switchedOff "done early").flag (seconds 3630)).on = false ∧
      (reconcileMaintenanceFlag [windowFrom "sch_1" 0]
        (switchedOff "schedule").flag (seconds 1830)).on = true ∧
      (reconcileMaintenanceFlag [] (setMaintenanceMode true (some "schedule") 0)
        (seconds 30)).on = false := by
  have hundone : (reconcileMaintenanceFlag [windowFrom "sch_2" 3600, windowFrom "sch_1" 0]
      (switchedOff "done early").flag (seconds 3630)).on = true := by decide
  refine ⟨fun h => ?_, hundone, by decide, by decide, by decide⟩
  have hkept := h.off_kept (some "done early") (seconds 1800) rfl
    ⟨windowFrom "sch_1" 0, by simp, by decide, by decide⟩
  rw [hundone] at hkept
  cases hkept

end RebooterHub.Schedules
