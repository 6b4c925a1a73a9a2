import Mathlib.Data.List.Nodup
import RebooterHub.Support.Fallible
import RebooterHub.Watchdog.Bindings
import RebooterHub.Watchdog.Mutations

/-!
# Watchdog — Enablement

The two columns that say whether a rule is enabled, over a run of writes of the table.

* `Enablement` says that the two agree in every row, so that the tick loads the rules that are
  shown as enabled and no others.
* `coherent_step`: every write but an import keeps it, whatever it is called with, and an import
  does when its records agree with the rows they find (`ImportAgrees`).
-/

namespace RebooterHub.Watchdog
open RebooterHub.Runs RebooterHub.Fallible

/-- The two columns of a rule agree. -/
def Agrees (rule : WatchdogRule) : Prop := rule.enabled = true ↔ rule.status ≠ .disabled

/-- A rule is enabled exactly when its status is not `disabled`, and exactly then loaded. -/
def Enablement (rows : List RuleRow) : Prop :=
  ∀ r ∈ rows, Agrees r.rule ∧ isLoaded r.rule = r.rule.enabled

/-- The invariant: ids are unique, and the two columns agree in every row. -/
structure Coherent (rows : List RuleRow) : Prop where
  ids : (rows.map (·.rule.id)).Nodup
  agrees : ∀ r ∈ rows, Agrees r.rule

theorem Agrees.isLoaded {rule : WatchdogRule} (h : Agrees rule) :
    isLoaded rule = rule.enabled := by
  rw [Watchdog.isLoaded]
  cases he : rule.enabled with
  | false => rfl
  | true => simpa using h.mp he

theorem Coherent.enablement {rows : List RuleRow} (h : Coherent rows) : Enablement rows :=
  fun r hr => ⟨h.agrees r hr, (h.agrees r hr).isLoaded⟩

/-! ### Ticks -/

/-- What a tick keeps of a rule, whose status may change but is not disabled by it. -/
structure Kept (r r' : WatchdogRule) : Prop where
  id : r'.id = r.id
  enabled : r'.enabled = r.enabled
  status : r.status ≠ .disabled → r'.status ≠ .disabled

theorem Kept.refl (r : WatchdogRule) : Kept r r := ⟨rfl, rfl, fun hr => hr⟩

theorem Kept.trans {r s t : WatchdogRule} (h : Kept r s) (h' : Kept s t) : Kept r t :=
  ⟨h'.id.trans h.id, h'.enabled.trans h.enabled, fun hr => h'.status (h.status hr)⟩

theorem kept_recordSuccess (r : WatchdogRule) : Kept r (recordSuccess r).rule := by
  rw [recordSuccess]
  split
  · dsimp only
    split
    · exact ⟨rfl, rfl, fun _ => nofun⟩
    · exact ⟨rfl, rfl, id⟩
  · exact ⟨rfl, rfl, id⟩

theorem kept_recordFailure (inp : TickInput) (r : WatchdogRule) :
    Kept r (recordFailure inp r).rule := by
  rw [recordFailure]
  dsimp only
  split
  · exact ⟨rfl, rfl, id⟩
  · split
    · exact ⟨rfl, rfl, id⟩
    · split
      · exact ⟨rfl, rfl, id⟩
      · exact ⟨rfl, rfl, fun _ => nofun⟩

theorem kept_applyEdge (inp : TickInput) (r : WatchdogRule) (o : ProbeOutcome) (e : Edge) :
    Kept r (applyEdge inp r o e).rule := by
  rw [applyEdge]
  split
  · exact .refl r
  · split
    · exact .refl r
    · split
      · refine ⟨rfl, rfl, fun _ => ?_⟩
        cases e <;> rintro ⟨⟩
      · exact .refl r
      · exact .refl r

theorem kept_countOutcome (r : WatchdogRule) (now : Time) (o : ProbeOutcome) :
    Kept r (countOutcome (probedAt r now) o) := by
  cases o <;> exact ⟨rfl, rfl, id⟩

theorem kept_bindingTick (inp : TickInput) (r : WatchdogRule) (o : ProbeOutcome) :
    Kept r (bindingTick inp r o).rule := by
  have hcount : Kept r (countOutcome (probedAt r inp.now) o) := kept_countOutcome r inp.now o
  cases o with
  | probeError => exact ⟨rfl, rfl, id⟩
  | success | failure =>
      rw [bindingTick]
      split
      · exact hcount.trans ⟨rfl, rfl, id⟩
      · exact hcount.trans (kept_applyEdge _ _ _ _)

theorem kept_update (inp : TickInput) (r : WatchdogRule) (o : ProbeOutcome) :
    Kept r (updateStateAndMaybeFire inp r o).rule := by
  rw [updateStateAndMaybeFire]
  split
  · exact .refl r
  · split
    · exact kept_bindingTick inp r o
    · have hnoted : Kept r { probedAt r inp.now with lastOutcome := some (.probe o) } :=
        ⟨rfl, rfl, id⟩
      cases o with
      | success => exact hnoted.trans (kept_recordSuccess _)
      | failure => exact hnoted.trans (kept_recordFailure inp _)
      | probeError => exact hnoted

/-- A tick leaves a rule it does not load alone, and disables no other. -/
theorem kept_tickRule (inp : TickInput) (r : WatchdogRule) :
    Kept r (tickRule inp r).rule ∧ (isLoaded r = false → (tickRule inp r).rule = r) := by
  rw [tickRule]
  split
  · exact ⟨.refl r, fun _ => rfl⟩
  · next hloaded =>
      have hnot : isLoaded r = false → False := by
        intro h
        simp [h] at hloaded
      refine ⟨?_, fun h => (hnot h).elim⟩
      split
      · exact .refl r
      · exact ⟨rfl, rfl, id⟩
      · exact kept_update inp r _

theorem Agrees.tickRule {inp : TickInput} {r : WatchdogRule} (h : Agrees r) :
    Agrees (tickRule inp r).rule := by
  obtain ⟨hkept, hsame⟩ := kept_tickRule inp r
  cases he : r.enabled with
  | false => rwa [hsame (h.isLoaded.trans he)]
  | true => exact iff_of_true (hkept.enabled.trans he) (hkept.status (h.mp he))

theorem afterTick_kept (r : WatchdogRule) (i : RuleInput) (h : Agrees r) :
    (afterTick r i).id = r.id ∧ Agrees (afterTick r i) := by
  rw [afterTick, committedTick]
  split
  · exact ⟨rfl, h⟩
  · dsimp only
    split
    · exact ⟨rfl, h⟩
    · exact ⟨(kept_tickRule i.toTickInput r).1.id, h.tickRule⟩

theorem map_zip_rules (f : WatchdogRule → WatchdogRule) (rows : List RuleRow) :
    (rows.zip ((rows.map (·.rule)).map f)).map
        (fun p : RuleRow × WatchdogRule => { p.1 with rule := p.2 })
      = rows.map fun row => { row with rule := f row.rule } := by
  induction rows with
  | nil => rfl
  | cons row rows ih => simp only [List.map_cons, List.zip_cons_cons, ih]

/-- The table after a tick, row by row. -/
theorem tickTable_eq (inp : TickInput) (rows : List RuleRow) :
    ∃ i : RuleInput, tickTable inp rows
      = rows.map fun row => { row with rule := afterTick row.rule i } := by
  refine ⟨⟨inp, (tick inp (rows.map (·.rule))).raised.isSome⟩, ?_⟩
  rw [tickTable, (tick_rows inp (rows.map (·.rule))).1]
  exact map_zip_rules _ rows

theorem Coherent.tick {rows : List RuleRow} (h : Coherent rows) (inp : TickInput) :
    Coherent (tickTable inp rows) := by
  obtain ⟨i, hrows⟩ := tickTable_eq inp rows
  rw [hrows]
  refine ⟨?_, fun r hr => ?_⟩
  · have hids : (rows.map fun row => { row with rule := afterTick row.rule i }).map (·.rule.id)
        = rows.map (·.rule.id) := by
      rw [List.map_map]
      exact List.map_congr_left fun r hr => (afterTick_kept r.rule i (h.agrees r hr)).1
    rw [hids]
    exact h.ids
  · obtain ⟨row, hrow, rfl⟩ := List.mem_map.mp hr
    exact (afterTick_kept row.rule i (h.agrees row hrow)).2

/-! ### The services -/

theorem getRule_spec {rows : List RuleRow} {ruleId : String} {row : RuleRow}
    (h : getRule rows ruleId = some row) : row ∈ rows ∧ row.rule.id = ruleId :=
  ⟨List.mem_of_find?_eq_some h, by simpa using List.find?_some h⟩

/-- A row is put in the place of the one of its id. -/
theorem Coherent.put {rows : List RuleRow} (h : Coherent rows) {ruleId : String} {row : RuleRow}
    (hid : row.rule.id = ruleId) (hrow : Agrees row.rule) : Coherent (putRule rows ruleId row) := by
  refine ⟨?_, fun r hr => ?_⟩
  · have hids : (putRule rows ruleId row).map (·.rule.id) = rows.map (·.rule.id) := by
      rw [putRule, List.map_map]
      refine List.map_congr_left fun r _ => ?_
      by_cases hr : r.rule.id = ruleId <;> simp [hr, hid]
    rw [hids]
    exact h.ids
  · obtain ⟨r₀, hr₀, rfl⟩ := List.mem_map.mp hr
    split
    · exact hrow
    · exact h.agrees r₀ hr₀

/-- A row with a new id is added. -/
theorem Coherent.add {rows : List RuleRow} (h : Coherent rows) {row : RuleRow}
    (hnew : getRule rows row.rule.id = none) (hrow : Agrees row.rule) :
    Coherent (rows ++ [row]) := by
  refine ⟨?_, fun r hr => ?_⟩
  · rw [List.map_append, List.nodup_append]
    refine ⟨h.ids, List.nodup_singleton _, ?_⟩
    rintro id hid _ hone rfl
    obtain ⟨r, hr, hrid⟩ := List.mem_map.mp hid
    have hother := List.find?_eq_none.mp hnew r hr
    rw [List.mem_singleton.mp hone] at hrid
    simp [hrid] at hother
  · rcases List.mem_append.mp hr with hr | hr
    · exact h.agrees r hr
    · rw [List.mem_singleton.mp hr]
      exact hrow

theorem raising_eq_ok {α : Type} {x : Except PyError α} {y : α} (h : raising x = .ok y) :
    x = .ok y := by
  cases x with
  | error e => cases h
  | ok z => exact congrArg Except.ok (Except.ok.inj h)

/-- The inputs are assigned to the configuration, and to nothing else. -/
theorem configure_spec {row row' : RuleRow} {name : String} {i : RuleInputs}
    (h : row.configure name i = .ok row') :
    ∃ f r w c, row'.rule = { row.rule with
      probe := i.probe
      failureThreshold := f
      recoveryThreshold := r
      windowSeconds := w
      cooldownSeconds := c
      target := i.target
      action := i.action
      escalation := orStop i.escalation
      maintenanceWindows := i.maintenanceWindows.orNil } ∧
      i.failureThreshold.toInt = .ok f ∧ i.recoveryThreshold.toInt = .ok r := by
  obtain ⟨f, hf, h⟩ := bind_eq_ok h
  obtain ⟨r, hr, h⟩ := bind_eq_ok h
  obtain ⟨w, -, h⟩ := bind_eq_ok h
  obtain ⟨c, -, h⟩ := bind_eq_ok h
  obtain ⟨_, -, h⟩ := bind_eq_ok h
  obtain ⟨_, -, h⟩ := bind_eq_ok h
  obtain rfl := Except.ok.inj h
  exact ⟨f, r, w, c, rfl, raising_eq_ok hf, raising_eq_ok hr⟩

theorem createRule_spec {rows rows' : List RuleRow} {newId : String} {i : RuleInputs}
    {row : RuleRow} (h : createRule rows newId i = .ok (rows', row)) :
    rows' = rows ++ [row] ∧ (∃ name, (newRow newId).configure name i = .ok row) ∧
      getRule rows newId = none := by
  obtain ⟨name, -, h⟩ := bind_eq_ok h
  obtain ⟨row', hrow, h⟩ := bind_eq_ok h
  cases hnew : getRule rows newId with
  | some r =>
      rw [hnew] at h
      cases h
  | none =>
      rw [hnew] at h
      obtain ⟨rfl, rfl⟩ := Prod.mk.inj (Except.ok.inj h)
      exact ⟨rfl, ⟨name, hrow⟩, rfl⟩

theorem updateRule_spec {rows rows' : List RuleRow} {ruleId : String} {i : RuleInputs}
    {row : Option RuleRow} (h : updateRule rows ruleId i = .ok (rows', row)) :
    (∃ name, validateRuleInputs i = .ok name) ∧
      (getRule rows ruleId = none ∧ row = none ∧ rows' = rows ∨
        ∃ old configured name, getRule rows ruleId = some old ∧
          old.configure name i = .ok configured ∧ row = some configured.reset ∧
          rows' = putRule rows ruleId configured.reset) := by
  obtain ⟨name, hname, h⟩ := bind_eq_ok h
  refine ⟨⟨name, hname⟩, ?_⟩
  cases hold : getRule rows ruleId with
  | none =>
      rw [hold] at h
      obtain ⟨rfl, rfl⟩ := Prod.mk.inj (Except.ok.inj h)
      exact .inl ⟨rfl, rfl, rfl⟩
  | some old =>
      rw [hold] at h
      obtain ⟨configured, hconf, h⟩ := bind_eq_ok h
      obtain ⟨rfl, rfl⟩ := Prod.mk.inj (Except.ok.inj h)
      exact .inr ⟨old, configured, name, rfl, hconf, rfl, rfl⟩

theorem Agrees.reset {row : RuleRow} (h : Agrees row.rule) : Agrees row.reset.rule := by
  simp only [RuleRow.reset, Agrees]
  cases hl : row.rule.enabled && row.rule.status != .disabled with
  | false => simpa only [Bool.false_eq_true, if_false, Agrees] using h
  | true =>
      simp only [Bool.and_eq_true] at hl
      simp [hl.1]

theorem Coherent.create {rows : List RuleRow} (h : Coherent rows) (newId : String)
    (i : RuleInputs) : Coherent (tableStep rows (.create newId i)) := by
  simp only [tableStep]
  cases hc : createRule rows newId i with
  | error e => exact h
  | ok r =>
      obtain ⟨rows', row⟩ := r
      obtain ⟨rfl, ⟨name, hrow⟩, hnew⟩ := createRule_spec hc
      obtain ⟨_, _, _, _, hrule, -, -⟩ := configure_spec hrow
      refine h.add ?_ ?_
      · rw [hrule]
        exact hnew
      · rw [hrule]
        exact iff_of_true rfl nofun

theorem Coherent.update {rows : List RuleRow} (h : Coherent rows) (ruleId : String)
    (i : RuleInputs) : Coherent (tableStep rows (.update ruleId i)) := by
  simp only [tableStep]
  cases hu : updateRule rows ruleId i with
  | error e => exact h
  | ok r =>
      obtain ⟨rows', row⟩ := r
      obtain ⟨-, ⟨-, -, rfl⟩ | ⟨old, configured, name, hold, hconf, -, rfl⟩⟩ := updateRule_spec hu
      · exact h
      · obtain ⟨hmem, hid⟩ := getRule_spec hold
        obtain ⟨_, _, _, _, hrule, -, -⟩ := configure_spec hconf
        have hagrees : Agrees configured.rule := by
          rw [hrule]
          exact h.agrees old hmem
        refine h.put ?_ hagrees.reset
        rw [RuleRow.reset, hrule]
        exact hid

theorem Coherent.setEnabled {rows : List RuleRow} (h : Coherent rows) (ruleId : String)
    (enabled : Bool) : Coherent (Watchdog.setEnabled rows ruleId enabled).1 := by
  rw [Watchdog.setEnabled]
  cases hr : getRule rows ruleId with
  | none => exact h
  | some row =>
      refine h.put (getRule_spec hr).2 ?_
      cases enabled <;> simp [Agrees]

theorem Coherent.delete {rows : List RuleRow} (h : Coherent rows) (ruleId : String) :
    Coherent (deleteRule rows ruleId).1 :=
  ⟨h.ids.sublist (List.filter_sublist.map _), fun r hr => h.agrees r (List.mem_of_mem_filter hr)⟩

/-! ### The import -/

/-- A record agrees with the row it finds: an existing rule is imported as enabled exactly when its
status is not `disabled`, a new one as enabled. -/
def RecordAgrees (rows : List RuleRow) (ms : List (String × Json)) : Prop :=
  match rowNamed rows (field ms "name") with
  | some row => importedEnabled ms = true ↔ row.rule.status ≠ .disabled
  | none => importedEnabled ms = true

/-- The records of an import agree with the rows they find. -/
def ImportAgrees (rows : List RuleRow) : RuleStep → Prop
  | .importRules _ _ records =>
    ∀ recs, plannedRecords [] records = .ok recs → ∀ ms ∈ recs, RecordAgrees rows ms
  | _ => True

/-- The rows in the course of an import that began with `existing`. -/
structure Importing (existing rows : List RuleRow) : Prop where
  coherent : Coherent rows
  present : ∀ e ∈ existing, ∃ r ∈ rows, r.rule.id = e.rule.id ∧ r.rule.status = e.rule.status

theorem assign_spec {row row' : RuleRow} {sites : List (String × String)}
    {ms : List (String × Json)} (h : row.assign sites ms = .ok row') :
    row'.rule.id = row.rule.id ∧ row'.rule.status = row.rule.status ∧
      row'.rule.enabled = importedEnabled ms := by
  obtain ⟨_, -, h⟩ := bind_eq_ok h
  obtain ⟨_, -, h⟩ := bind_eq_ok h
  obtain ⟨_, -, h⟩ := bind_eq_ok h
  obtain ⟨_, -, h⟩ := bind_eq_ok h
  obtain ⟨_, -, h⟩ := bind_eq_ok h
  obtain ⟨_, -, h⟩ := bind_eq_ok h
  obtain ⟨_, -, h⟩ := bind_eq_ok h
  obtain rfl := Except.ok.inj h
  exact ⟨rfl, rfl, rfl⟩

theorem rowNamed_mem {rows : List RuleRow} {name : Json} {row : RuleRow}
    (h : rowNamed rows name = some row) : row ∈ rows :=
  List.mem_reverse.mp (List.mem_of_find?_eq_some h)

/-- In a table with unique ids a row is the one of its id. -/
theorem Coherent.eq_of_id {rows : List RuleRow} (h : Coherent rows) {r r' : RuleRow}
    (hr : r ∈ rows) (hr' : r' ∈ rows) (hid : r.rule.id = r'.rule.id) : r = r' :=
  List.inj_on_of_nodup_map h.ids hr hr' hid

/-- **One record** of an import that agrees with the row it finds. -/
theorem Importing.record {existing rows rows' : List RuleRow} (h : Importing existing rows)
    {sites : List (String × String)} {newId : Nat → String} {ms : List (String × Json)}
    (hagrees : RecordAgrees existing ms)
    (hr : applyRecord sites newId existing rows ms = .ok rows') : Importing existing rows' := by
  rw [applyRecord] at hr
  rw [RecordAgrees] at hagrees
  cases hfound : rowNamed existing (field ms "name") with
  | none =>
      rw [hfound] at hr hagrees
      obtain ⟨row, hrow, hr⟩ := bind_eq_ok hr
      obtain ⟨hid, hstatus, henabled⟩ := assign_spec (raising_eq_ok hrow)
      cases hnew : getRule rows (newId rows.length) with
      | some r =>
          rw [hnew] at hr
          cases hr
      | none =>
          rw [hnew] at hr
          obtain rfl := Except.ok.inj hr
          refine ⟨h.coherent.add ?_ ?_, fun e he => ?_⟩
          · rw [hid]
            exact hnew
          · exact iff_of_true (henabled.trans hagrees) (by rw [hstatus]; nofun)
          · obtain ⟨r, hr, hsame⟩ := h.present e he
            exact ⟨r, List.mem_append_left _ hr, hsame⟩
  | some found =>
      rw [hfound] at hr hagrees
      dsimp only at hr hagrees
      cases hrow : getRule rows found.rule.id with
      | none =>
          rw [hrow] at hr
          obtain rfl := Except.ok.inj hr
          exact h
      | some row =>
          rw [hrow] at hr
          obtain ⟨row', hassign, hr⟩ := bind_eq_ok hr
          obtain rfl := Except.ok.inj hr
          obtain ⟨hid', hstatus', henabled'⟩ := assign_spec (raising_eq_ok hassign)
          obtain ⟨hmem, hid⟩ := getRule_spec hrow
          -- the row found has the status it had when the import began
          have hstatus : row.rule.status = found.rule.status := by
            obtain ⟨r, hr, hrid, hrstatus⟩ := h.present found (rowNamed_mem hfound)
            rw [h.coherent.eq_of_id hmem hr (hid.trans hrid.symm)]
            exact hrstatus
          refine ⟨h.coherent.put hid' ?_, fun e he => ?_⟩
          · rw [Agrees, henabled', hstatus', hstatus]
            exact hagrees
          · obtain ⟨r, hr, hrid, hrstatus⟩ := h.present e he
            refine ⟨if r.rule.id = row.rule.id then row' else r,
              List.mem_map_of_mem hr, ?_⟩
            split
            · next hsame =>
                rw [← h.coherent.eq_of_id hr hmem hsame] at hid' hstatus'
                exact ⟨hid'.trans hrid, hstatus'.trans hrstatus⟩
            · exact ⟨hrid, hrstatus⟩

theorem Importing.records {existing rows rows' : List RuleRow} (h : Importing existing rows)
    {sites : List (String × String)} {newId : Nat → String}
    {recs : List (List (String × Json))}
    (hagrees : ∀ ms ∈ recs, RecordAgrees existing ms)
    (hr : applyRecords sites newId existing rows recs = .ok rows') : Importing existing rows' := by
  induction recs generalizing rows with
  | nil =>
      obtain rfl := Except.ok.inj hr
      exact h
  | cons ms recs ih =>
      obtain ⟨rows₁, hfirst, hr⟩ := bind_eq_ok hr
      exact ih (h.record (hagrees ms (List.mem_cons_self ..)) hfirst)
        (fun ms' hms' => hagrees ms' (List.mem_cons_of_mem _ hms')) hr

theorem Coherent.importRules {rows : List RuleRow} (h : Coherent rows)
    {sites : List (String × String)} {newId : Nat → String} {records : List Json}
    (hagrees : ImportAgrees rows (.importRules sites newId records)) :
    Coherent (tableStep rows (.importRules sites newId records)) := by
  simp only [tableStep]
  cases ha : applyWatchdogRules sites newId rows records with
  | error e => exact h
  | ok rows' =>
      obtain ⟨recs, hrecs, ha⟩ := bind_eq_ok ha
      have hstart : Importing rows rows := ⟨h, fun e he => ⟨e, he, rfl, rfl⟩⟩
      exact (hstart.records (hagrees recs (raising_eq_ok hrecs)) ha).coherent

/-! ### Runs -/

/-- **One write** of the table. -/
theorem coherent_step {rows : List RuleRow} (h : Coherent rows) (l : RuleStep)
    (hl : ImportAgrees rows l) : Coherent (tableStep rows l) := by
  cases l with
  | create newId i => exact h.create newId i
  | update ruleId i => exact h.update ruleId i
  | delete ruleId => exact h.delete ruleId
  | setEnabled ruleId enabled => exact h.setEnabled ruleId enabled
  | importRules sites newId records => exact h.importRules hl
  | tick inp => exact h.tick inp

/-- **A rule is enabled exactly when it is not disabled**, and exactly then loaded, in every state
that is reached from the empty table by writes whose imports agree with the rows they find. -/
theorem rule_enabled_iff_loaded (ls : List RuleStep) (hok : Admits tableStep ImportAgrees [] ls) :
    Enablement (run tableStep [] ls) :=
  (run_invariant (I := Coherent) (fun _ l h hl => coherent_step h l hl)
    ⟨by simp, by simp⟩ hok).enablement

/-- A record of a backup. -/
def backupRecord (enabled : Bool) : Json :=
  .obj [("name", .str "gateway"), ("enabled", .bool enabled)]

/-- An import of one record. -/
def importOne (enabled : Bool) : RuleStep := .importRules [] (fun _ => "wdr_1") [backupRecord enabled]

/-- A rule that was imported and then switched off and on again. -/
theorem rule_enabled_iff_loaded_after_import :
    Enablement (run tableStep []
      [importOne true, .setEnabled "wdr_1" false, .setEnabled "wdr_1" true]) := by
  refine rule_enabled_iff_loaded _ ⟨?_, trivial, trivial, trivial⟩
  intro recs hrecs ms hms
  obtain rfl : [[("name", Json.str "gateway"), ("enabled", .bool true)]] = recs :=
    Except.ok.inj hrecs
  obtain rfl := List.mem_singleton.mp hms
  rfl

/-- A backup that was made before a rule was switched off, once it is imported, leaves the rule
enabled and `disabled`, and no tick loads it; and a rule that is imported as not enabled is
`armed`. -/
theorem rule_enabled_not_loaded :
    let table := run tableStep [] [importOne true, .setEnabled "wdr_1" false, importOne true]
    table.map (fun r => (r.rule.enabled, r.rule.status, isLoaded r.rule))
        = [(true, .disabled, false)] ∧
      ¬ Enablement table ∧
      (run tableStep [] [importOne false]).map (fun r => (r.rule.enabled, r.rule.status))
        = [(false, .armed)] := by
  intro table
  have hrows : table.map (fun r => (r.rule.enabled, r.rule.status, isLoaded r.rule))
      = [(true, .disabled, false)] := by decide
  refine ⟨hrows, fun h => ?_, by decide⟩
  obtain ⟨r, hr, hcols⟩ := List.mem_map.mp (hrows ▸ List.mem_singleton_self _)
  simp only [Prod.mk.injEq] at hcols
  obtain ⟨henabled, hstatus, -⟩ := hcols
  exact absurd hstatus ((h r hr).1.mp henabled)

end RebooterHub.Watchdog
