import RebooterHub.Watchdog.Faults

/-!
# Watchdog — StoredAnswers

What the handlers of the probes that match stored samples answer when the samples are well formed.

* `blameless_probeHaNumeric` and its siblings: the fields of an accepted probe for which a handler
  answers, and blames no field.
-/

namespace RebooterHub.Watchdog
open Fallible
open Commands (minTime maxTime)

/-! ### Blameless answers -/

/-- The answer is no failure that blames a field or a target. -/
def Blameless (a : Answer) : Prop := a.1 = false → ¬ BlamesFields a.2 ∧ ¬ BlamesTarget a.2

theorem not_blamesTarget {details : Json} (h : listMember details "targets_failed" = []) :
    ¬ BlamesTarget details := by
  rintro ⟨t, ht, -⟩
  rw [h] at ht
  cases ht

/-- A reason that blames no field. -/
theorem blameless_reason {ok : Bool} {reason : String} {details : List (String × Json)}
    (hreason : field details "reason" = .str reason) (h : reason ∉ ownReasons)
    (htargets : listMember (.obj details) "targets_failed" = []) :
    Blameless (ok, .obj details) := by
  refine fun _ => ⟨?_, not_blamesTarget htargets⟩
  rintro ⟨own, hmem, heq⟩
  obtain rfl := Json.str.inj (hreason.symm.trans heq)
  exact h hmem

theorem blameless_failed {reason : String} {more : List (String × Json)} (h : reason ∉ ownReasons)
    (htargets : listMember (.obj more) "targets_failed" = []) :
    Yields Blameless (.ok (failed reason more) : Except PyError Answer) :=
  yields_ok.mpr (blameless_reason rfl h htargets)

theorem not_blameless_failed {reason : String} {more : List (String × Json)}
    (h : reason ∈ ownReasons) : ¬ Blameless (failed reason more) :=
  fun hn => (hn rfl).1 ⟨reason, h, rfl⟩

theorem blameless_passed {reason : String} {more : List (String × Json)} :
    Blameless (passed reason more) := nofun

/-- Details without a reason. -/
theorem blameless_details {ok : Bool} {details : List (String × Json)}
    (h : field details "reason" = .null)
    (htargets : listMember (.obj details) "targets_failed" = []) :
    Yields Blameless (.ok (ok, .obj details) : Except PyError Answer) := by
  refine yields_ok.mpr fun _ => ⟨?_, not_blamesTarget htargets⟩
  rintro ⟨own, -, heq⟩
  cases h.symm.trans heq

/-! ### Reading the fields -/

section
variable {ms : List (String × Json)} {name : String}

/-- A required field that is a text is not blank. -/
theorem exists_textField (h : Passes (requireField ms name)) :
    (∃ x, textField ms name = .ok x ∧ x ≠ "") ↔ IsStr (field ms name) := by
  rw [textField]
  obtain ⟨u, h⟩ := h
  rw [requireField] at h
  cases hfield : field ms name with
  | str s =>
      refine iff_of_true ⟨_, rfl, fun hblank => ?_⟩ ⟨s, rfl⟩
      rw [hfield] at h
      dsimp only at h
      split at h
      · cases h
      · next hne => exact hne (by simpa using hblank)
  | null =>
      rw [hfield] at h
      cases h
  | bool _ | int _ | float _ | arr _ | obj _ =>
      refine iff_of_false ?_ ?_
      · rintro ⟨x, hx, hne⟩
        dsimp only [strippedText] at hx
        split at hx
        · cases hx
        · exact hne (Except.ok.inj hx).symm
      · rintro ⟨s, hs⟩
        cases hs

theorem exists_optionField : (∃ x, textField ms name = .ok x) ↔ Strippable (field ms name) := by
  rw [← exists_strippedText, textField, exists_bind]
  exact exists_congr fun cs => and_iff_left ⟨_, rfl⟩

theorem exists_intField (ms : List (String × Json)) (name : String) (default : Int) :
    ∃ n, intField ms name default = .ok n := by
  rw [intField]
  cases h : (if (field ms name).truthy then field ms name else .int default).toInt with
  | ok n => exact ⟨n, rfl⟩
  | error e => rcases raised_by_toInt h with rfl | rfl <;> exact ⟨default, rfl⟩

/-- A check that blames a field. -/
theorem blameless_guard {c : Prop} [Decidable c] {reason : String} {more : List (String × Json)}
    {rest : Except PyError Answer} (h : reason ∈ ownReasons) :
    Yields Blameless (if c then pure (failed reason more) else rest) ↔
      ¬ c ∧ Yields Blameless rest :=
  yields_guard (not_blameless_failed h)

variable {α : Type} {Q : α → Prop} {P : Prop}

/-- One required field. -/
theorem yields_oneText {body : String → Except PyError α}
    (h : Passes (requireField ms name)) (hbody : ∀ x, Yields Q (body x) ↔ x ≠ "" ∧ P) :
    Yields Q (do body (← textField ms name)) ↔ Reads ms [name] [] ∧ P := by
  simp only [yields_bind, hbody, ← and_assoc, exists_and_right]
  refine and_congr_left fun _ => ?_
  rw [exists_textField h]
  exact ⟨fun hstr => ⟨by simpa using hstr, nofun⟩, fun hreads => hreads.texts name (by simp)⟩

/-- Two required fields. -/
theorem yields_twoTexts {name' : String} {body : String → String → Except PyError α}
    (h : Passes (requireField ms name)) (h' : Passes (requireField ms name'))
    (hbody : ∀ x y, Yields Q (body x y) ↔ (x ≠ "" ∧ y ≠ "") ∧ P) :
    Yields Q (do
      let x ← textField ms name
      let y ← textField ms name'
      body x y) ↔ Reads ms [name, name'] [] ∧ P := by
  simp only [yields_bind, hbody]
  constructor
  · rintro ⟨x, hx, y, hy, ⟨hxne, hyne⟩, hP⟩
    refine ⟨⟨?_, nofun⟩, hP⟩
    have hstr := (exists_textField h).mp ⟨x, hx, hxne⟩
    have hstr' := (exists_textField h').mp ⟨y, hy, hyne⟩
    simpa using ⟨hstr, hstr'⟩
  · rintro ⟨hreads, hP⟩
    obtain ⟨x, hx, hxne⟩ := (exists_textField h).mpr (hreads.texts name (by simp))
    obtain ⟨y, hy, hyne⟩ := (exists_textField h').mpr (hreads.texts name' (by simp))
    exact ⟨x, hx, y, hy, ⟨hxne, hyne⟩, hP⟩

/-- A probe with an optional field. -/
theorem reads_option {texts : List String} :
    Reads ms texts [name] ↔ Reads ms texts [] ∧ Strippable (field ms name) :=
  ⟨fun h => ⟨⟨h.texts, nofun⟩, h.options name (by simp)⟩,
    fun h => ⟨h.1.texts, by simpa using h.2⟩⟩

/-- An optional field. -/
theorem yields_option {rest : String → Except PyError α} (hrest : ∀ x, Yields Q (rest x) ↔ P) :
    Yields Q (do rest (← textField ms name)) ↔ Strippable (field ms name) ∧ P := by
  simp only [yields_bind, hrest, exists_and_right, exists_optionField]

end

/-! ### Reading the samples -/

section
variable {p : Platform} {clock : Clock} {w : World} {ms : List (String × Json)}

theorem mem_newestFirst {α : Type} {at_ : α → Time} {rows : List α} {a : α} :
    a ∈ newestFirst at_ rows ↔ a ∈ rows := (List.perm_insertionSort _ rows).mem_iff

/-- What is looked up no further back than an age is read if the age is in reach. -/
theorem yields_lookup {α β : Type} {Q : β → Prop} {find : Time → Option α} {default : Int}
    {answer : Int → Option α → Except PyError β}
    (h : ∀ n oldest, Yields Q (answer n (find oldest))) :
    Yields Q (do
      let n ← intField ms "max_sample_age_seconds" default
      let o ← (do
        let oldest ← cutoff clock.now n
        return find oldest)
      answer n o) ↔ InReach clock ms default := by
  simp only [yields_bind, InReach, Passes]
  refine exists_congr fun n => and_congr_right fun _ => ?_
  cases cutoff clock.now n with
  | error e =>
      refine iff_of_false ?_ ?_
      · rintro ⟨o, ho, -⟩
        cases ho
      · rintro ⟨u, hu⟩
        cases hu
  | ok oldest => exact iff_of_true ⟨_, rfl, h n oldest⟩ ⟨oldest, rfl⟩

theorem blameless_latestSample {sourceId : String} {default : Int}
    {answer : Int → Option SensorSample → Except PyError Answer}
    (hnone : ∀ n, Yields Blameless (answer n none))
    (hsome : ∀ n, ∀ s ∈ w.db.sensors, Yields Blameless (answer n (some s))) :
    Yields Blameless (do
      let n ← intField ms "max_sample_age_seconds" default
      let o ← latestSample w.db clock.now sourceId n
      answer n o) ↔ InReach clock ms default := by
  refine yields_lookup fun n oldest => ?_
  cases hs : (newestFirst (·.sampledAt) (w.db.sensors.filter fun s =>
      s.sourceId = sourceId ∧ oldest ≤ s.sampledAt)).head? with
  | none => exact hnone n
  | some s =>
      have hmem := mem_newestFirst.mp (List.mem_of_head? hs)
      exact hsome n s (List.mem_of_mem_filter hmem)

theorem blameless_staleSample {sourceId : String} {n : Int} :
    Yields Blameless (pure (staleSample sourceId n) : Except PyError Answer) :=
  blameless_failed (by decide) rfl

theorem blameless_probeRokuAppActive (hw : w.WellFormed p)
    (hsource : Passes (requireField ms "source_id")) (happ : Passes (requireField ms "app_name")) :
    Yields Blameless (probeRokuAppActive w.db clock.now ms) ↔
      Reads ms ["source_id", "app_name"] [] ∧ InReach clock ms 120 := by
  rw [probeRokuAppActive]
  refine yields_twoTexts hsource happ fun sourceId expected => ?_
  rw [blameless_guard (by decide), blameless_guard (by decide), and_assoc]
  refine and_congr_right fun _ => and_congr_right fun _ => ?_
  refine blameless_latestSample (fun n => blameless_staleSample) fun n s hs => ?_
  obtain ⟨payload, hpayload, hwell⟩ := hw s hs
  dsimp only
  rw [hpayload]
  obtain ⟨actual, hactual⟩ := exists_strippedText.mpr hwell.activeApp
  refine yields_bind.mpr ⟨field payload "active_app", rfl, yields_bind.mpr ⟨actual, hactual, ?_⟩⟩
  split
  · exact blameless_failed (by decide) rfl
  · exact blameless_details rfl rfl

/-- A value that is not blank is spelled by no blank. -/
theorem strip_text_ne {x : Json} (h : isBlank x = false) :
    x.truthy = true ∧ Text.strip (x.text p.spell) ≠ [] := by
  cases x with
  | str s =>
      have hne : Text.strip s.toList ≠ [] := by simpa [isBlank] using h
      refine ⟨bne_iff_ne.mpr ?_, hne⟩
      rintro rfl
      exact hne rfl
  | null => cases h
  | bool b =>
      obtain rfl : b = true := by simpa [isBlank, Json.truthy] using h
      exact ⟨rfl, (by decide : Text.strip "True".toList ≠ [])⟩
  | int n =>
      refine ⟨by simpa [isBlank] using h, ?_⟩
      rw [Json.text, Text.strip_digits (Text.isspace_ofInt n)]
      exact Text.ofInt_ne_nil n
  | float _ | arr _ | obj _ => exact ⟨by simpa [isBlank] using h, p.spell_ne _⟩

/-- A required value that is true is not blank. -/
theorem isBlank_of_required (h : Passes (requireField ms name))
    (htrue : (field ms name).truthy = true) : isBlank (field ms name) = false := by
  cases hfield : field ms name with
  | str s =>
      obtain ⟨u, h⟩ := h
      rw [requireField, hfield] at h
      dsimp only at h
      split at h
      · cases h
      · next hne => simpa [isBlank] using hne
  | null | bool _ | int _ | float _ | arr _ | obj _ =>
      rw [hfield] at htrue
      simp [isBlank, htrue]

theorem strip_strOrEmpty (h : Passes (requireField ms name)) :
    Text.strip (strOrEmpty p.spell (field ms name)) ≠ [] ↔ (field ms name).truthy := by
  rw [strOrEmpty]
  by_cases htrue : (field ms name).truthy = true
  · rw [if_pos htrue]
    exact iff_of_true (strip_text_ne (isBlank_of_required h htrue)).2 htrue
  · rw [if_neg htrue]
    exact iff_of_false (fun hne => hne rfl) htrue

theorem blameless_probeHaStateIs (hsource : Passes (requireField ms "source_id"))
    (hentity : Passes (requireField ms "entity_id"))
    (hexpected : Passes (requireField ms "expected_state")) :
    Yields Blameless (probeHaStateIs p.spell w.db clock.now ms) ↔
      Reads ms ["source_id", "entity_id"] [] ∧ (field ms "expected_state").truthy ∧
        InReach clock ms 60 := by
  rw [probeHaStateIs]
  refine yields_twoTexts hsource hentity fun sourceId entityId => ?_
  dsimp only
  rw [blameless_guard (by decide), not_or, not_or, ← strip_strOrEmpty (p := p) hexpected, and_assoc,
    and_assoc, and_assoc]
  refine and_congr_right fun _ => and_congr_right fun _ => and_congr_right fun _ => ?_
  refine blameless_latestSample (fun n => blameless_staleSample) fun n s hs => ?_
  dsimp only
  split
  · exact blameless_details rfl rfl
  · exact blameless_failed (by decide) rfl

theorem blameless_probeWeatherAlertActive (hsource : Passes (requireField ms "source_id"))
    (hseverity : Strippable (field ms "min_severity")) :
    Yields Blameless (probeWeatherAlertActive p.spell w.db clock.now ms) ↔
      Reads ms ["source_id"] ["event_contains"] ∧ InReach clock ms 600 := by
  rw [probeWeatherAlertActive, reads_option, and_assoc]
  refine yields_oneText hsource fun sourceId => ?_
  rw [blameless_guard (by decide)]
  refine and_congr_right fun _ => yields_option fun event => ?_
  refine (yields_option fun severity => ?_).trans (and_iff_right hseverity)
  refine blameless_latestSample (fun n => blameless_staleSample) fun n s hs => ?_
  exact blameless_details rfl rfl

theorem blameless_probeSnmpInterfaceDown (hw : w.WellFormed p)
    (hsource : Passes (requireField ms "source_id"))
    (hinterface : Passes (requireField ms "interface")) :
    Yields Blameless (probeSnmpInterfaceDown w.db clock.now ms) ↔
      Reads ms ["source_id", "interface"] [] ∧ InReach clock ms 600 := by
  rw [probeSnmpInterfaceDown]
  refine yields_twoTexts hsource hinterface fun sourceId interface => ?_
  rw [blameless_guard (by decide), not_or]
  refine and_congr_right fun _ => ?_
  refine blameless_latestSample (fun n => blameless_staleSample) fun n s hs => ?_
  obtain ⟨payload, hpayload, hwell⟩ := hw s hs
  dsimp only
  rw [interfaceEntry, hpayload]
  refine yields_bind.mpr ⟨_, rfl, ?_⟩
  split
  · exact blameless_details rfl rfl
  · exact blameless_failed (by decide) rfl

theorem exists_activeEvent {now : Time} {needle : List Char} {event : Json}
    (h : ∀ e, event = .obj e → EventReadable p.spell e) :
    ∃ found, activeEvent p.spell now needle event = .ok found := by
  cases event with
  | obj e =>
      obtain ⟨hstart, hstop⟩ := h e rfl
      rw [activeEvent]
      split
      · exact ⟨none, rfl⟩
      · cases hs : eventTime (strOrEmpty p.spell (field e "start")) with
        | none => exact ⟨none, rfl⟩
        | some start =>
            obtain ⟨haware, hday⟩ := hstart start hs
            have hend : ∃ stop, eventEnd p.spell start (field e "end") = .ok stop ∧
                stop.aware = true := by
              rw [eventEnd]
              split
              · next stop hread =>
                  split at hread
                  · exact ⟨stop, rfl, hstop stop hread⟩
                  · cases hread
              · dsimp only
                rw [if_neg (not_lt.mpr hday)]
                exact ⟨_, rfl, haware⟩
            obtain ⟨stop, hend, hstopAware⟩ := hend
            have hairing : ∃ b, isAiring now start stop = .ok b := by
              rw [isAiring, haware, hstopAware]
              by_cases hbegun : start.instant ≤ now
              · exact ⟨_, if_pos hbegun⟩
              · exact ⟨_, if_neg hbegun⟩
            obtain ⟨b, hb⟩ := hairing
            dsimp only
            rw [hend, ok_bind, hb]
            exact ⟨_, rfl⟩
  | null | bool _ | int _ | float _ | str _ | arr _ => exact ⟨none, rfl⟩

theorem blameless_probeIcalEventActive (hw : w.WellFormed p)
    (hsource : Passes (requireField ms "source_id")) :
    Yields Blameless (probeIcalEventActive p.spell w.db clock.now ms) ↔
      Reads ms ["source_id"] ["summary_contains"] ∧ InReach clock ms 1800 := by
  rw [probeIcalEventActive, reads_option, and_assoc]
  refine yields_oneText hsource fun sourceId => ?_
  rw [blameless_guard (by decide)]
  refine and_congr_right fun _ => yields_option fun summary => ?_
  refine blameless_latestSample (fun n => blameless_staleSample) fun n s hs => ?_
  obtain ⟨payload, hpayload, hwell⟩ := hw s hs
  dsimp only
  rw [hpayload]
  have hevents : ∃ found, (listMember (.obj payload) "events").mapM
      (activeEvent p.spell clock.now (Text.lower summary.toList)) = .ok found :=
    exists_mapM fun event hmem => exists_activeEvent fun e he => hwell.events e (he ▸ hmem)
  obtain ⟨found, hfound⟩ := hevents
  exact yields_bind.mpr ⟨found, hfound, blameless_details rfl rfl⟩

theorem blameless_probeMediaSessionActive (hw : w.WellFormed p)
    (hsource : Passes (requireField ms "source_id")) :
    Yields Blameless (probeMediaSessionActive p.spell w.db clock.now ms) ↔
      Reads ms ["source_id"] [] ∧
        ∃ presumed, intField ms "presumed_duration_seconds" 7200 = .ok presumed ∧
          InReach clock ms presumed := by
  rw [probeMediaSessionActive]
  refine yields_oneText hsource fun sourceId => ?_
  rw [blameless_guard (by decide), yields_bind]
  refine and_congr_right fun _ => exists_congr fun presumed => and_congr_right fun _ => ?_
  refine blameless_latestSample (fun n => blameless_failed (by decide) rfl) fun n s hs => ?_
  obtain ⟨payload, hpayload, -⟩ := hw s hs
  dsimp only
  rw [hpayload]
  exact yields_bind.mpr ⟨_, rfl, blameless_details rfl rfl⟩

theorem blameless_probeWebhookFieldEquals (hsource : Passes (requireField ms "source_id"))
    (hname : Passes (requireField ms "field")) :
    Yields Blameless (probeWebhookFieldEquals p.spell w.db clock.now ms) ↔
      Reads ms ["source_id", "field"] [] ∧ InReach clock ms 3600 := by
  rw [probeWebhookFieldEquals]
  refine yields_twoTexts hsource hname fun sourceId name => ?_
  dsimp only
  rw [blameless_guard (by decide), not_or]
  refine and_congr_right fun _ => ?_
  exact blameless_latestSample (fun n => blameless_staleSample) fun n s hs =>
    blameless_details rfl rfl

theorem blameless_latestSampleForTopic {sourceId topic : String} {default : Int}
    {answer : Int → Option SensorSample → Except PyError Answer}
    (hnone : ∀ n, Yields Blameless (answer n none))
    (hsome : ∀ n, ∀ s ∈ w.db.sensors, Yields Blameless (answer n (some s))) :
    Yields Blameless (do
      let n ← intField ms "max_sample_age_seconds" default
      let o ← latestSampleForTopic w.db clock.now sourceId topic n
      answer n o) ↔ InReach clock ms default := by
  refine yields_lookup fun n oldest => ?_
  cases hs : ((newestFirst (·.sampledAt) (w.db.sensors.filter fun s =>
      s.sourceId = sourceId ∧ oldest ≤ s.sampledAt)).take 500).find? fun s =>
        member s.payload.orEmpty "topic" = .str topic with
  | none => exact hnone n
  | some s =>
      have hmem := (List.take_sublist _ _).subset (List.mem_of_find?_eq_some hs)
      exact hsome n s (List.mem_of_mem_filter (mem_newestFirst.mp hmem))

theorem blameless_probeMqttTopicEquals (hw : w.WellFormed p)
    (hsource : Passes (requireField ms "source_id")) (htopic : Passes (requireField ms "topic")) :
    Yields Blameless (probeMqttTopicEquals p.spell w.db clock.now ms) ↔
      Reads ms ["source_id", "topic"] [] ∧ InReach clock ms 300 := by
  rw [probeMqttTopicEquals]
  refine yields_twoTexts hsource htopic fun sourceId topic => ?_
  dsimp only
  rw [blameless_guard (by decide), not_or]
  refine and_congr_right fun _ => ?_
  refine blameless_latestSampleForTopic (fun n => blameless_failed (by decide) rfl) fun n s hs => ?_
  obtain ⟨payload, hpayload, -⟩ := hw s hs
  dsimp only
  rw [hpayload]
  exact yields_bind.mpr ⟨_, rfl, blameless_details rfl rfl⟩

theorem blameless_probeEpgShowAiring (hshow : Passes (requireField ms "show")) :
    Yields Blameless (probeEpgShowAiring w.epg clock.now ms) ↔ Reads ms ["show"] ["network"] := by
  rw [probeEpgShowAiring, reads_option]
  refine yields_oneText hshow fun title => ?_
  rw [blameless_guard (by decide)]
  refine and_congr_right fun _ => ?_
  rw [yields_bind, ← exists_optionField]
  refine exists_congr fun network => and_iff_left ?_
  cases showAiringNow w.epg clock.now title network with
  | none =>
      dsimp only
      split
      · exact blameless_failed (by decide) rfl
      · exact blameless_failed (by decide) rfl
  | some row => exact blameless_details rfl rfl

theorem blameless_probeDeviceHeartbeatStale (hdevice : Passes (requireField ms "device_id")) :
    Yields Blameless (probeDeviceHeartbeatStale w.lastHeartbeatAt clock.now ms) ↔
      Reads ms ["device_id"] [] := by
  rw [probeDeviceHeartbeatStale, ← and_true (Reads _ _ _)]
  refine yields_oneText hdevice fun deviceId => ?_
  rw [blameless_guard (by decide)]
  refine and_congr_right fun _ => iff_of_true ?_ trivial
  obtain ⟨n, hn⟩ := exists_intField ms "max_age_seconds" 300
  refine yields_bind.mpr ⟨n, hn, ?_⟩
  cases w.lastHeartbeatAt deviceId with
  | none => exact blameless_failed (by decide) rfl
  | some last =>
      dsimp only
      split
      · exact yields_ok.mpr (blameless_reason rfl (by decide) rfl)
      · exact blameless_details rfl rfl

/-! ### Reading the measurements -/

/-- An accepted number is read. -/
theorem caught_threshold {low high : Int} (h : Passes (requireNumeric ms name low high)) :
    ∃ x, caught (field ms name).toFloat = .ok (some x) := by
  obtain ⟨u, h⟩ := h
  rw [requireNumeric] at h
  split at h
  · cases h
  · cases hx : (field ms name).toFloat with
    | ok x => exact ⟨x, rfl⟩
    | error e =>
        rw [hx] at h
        cases e <;> cases h

theorem exists_caught {x : Json} (h : Floats x) : ∃ o, caught x.toFloat = .ok o := by
  cases hx : x.toFloat with
  | ok y => exact ⟨some y, rfl⟩
  | error e =>
      rcases raised_by_toFloat hx with rfl | rfl | rfl
      · exact ⟨none, rfl⟩
      · exact ⟨none, rfl⟩
      · exact (h hx).elim

/-- The reading of an entity that is well formed. -/
theorem EntryReadable.yields {α : Type} {Q : α → Prop} {entry : List (String × Json)}
    {attr : String} {answer : Json → Option PyFloat → Except PyError α} (h : EntryReadable entry)
    (hanswer : ∀ raw o, Yields Q (answer raw o)) :
    Yields Q (if attr = "" then do
        let raw ← .ok (field entry "state")
        let o ← caught raw.toFloat
        answer raw o
      else do
        let raw ← (field entry "attributes").orEmpty.get attr
        let o ← caught raw.toFloat
        answer raw o) := by
  obtain ⟨hstate, attributes, hattributes, hfloats⟩ := h
  split
  · obtain ⟨o, ho⟩ := exists_caught hstate
    exact yields_bind.mpr ⟨_, rfl, yields_bind.mpr ⟨o, ho, hanswer _ o⟩⟩
  · obtain ⟨o, ho⟩ := exists_caught (hfloats attr)
    rw [hattributes]
    exact yields_bind.mpr ⟨_, rfl, yields_bind.mpr ⟨o, ho, hanswer _ o⟩⟩

theorem blameless_probeHaNumeric {kind : String} {low high : Int} (hw : w.WellFormed p)
    (hsource : Passes (requireField ms "source_id"))
    (hentity : Passes (requireField ms "entity_id"))
    (hthreshold : Passes (requireNumeric ms "threshold" low high)) :
    Yields Blameless (probeHaNumeric w.db clock.now ms kind) ↔
      Reads ms ["source_id", "entity_id"] ["attribute"] ∧ InReach clock ms 60 := by
  rw [probeHaNumeric, reads_option, and_assoc]
  refine yields_twoTexts hsource hentity fun sourceId entityId => ?_
  rw [blameless_guard (by decide), not_or]
  refine and_congr_right fun _ => yields_option fun attr => ?_
  obtain ⟨threshold, hx⟩ := caught_threshold hthreshold
  rw [yields_of_ok hx]
  refine blameless_latestSample (fun n => blameless_staleSample) fun n s hs => ?_
  obtain ⟨payload, hpayload, hwell⟩ := hw s hs
  dsimp only
  rw [hpayload]
  split
  · next entry hentry =>
      refine (hwell.entities _ _ hentry).yields fun raw value => ?_
      cases value with
      | none => exact blameless_failed (by decide) rfl
      | some value =>
          dsimp only
          split
          · exact blameless_details rfl rfl
          · exact blameless_details rfl rfl
  · exact blameless_failed (by decide) rfl

theorem blameless_probeSolar {kind : String} {low high : Int} (hw : w.WellFormed p)
    (hsource : Passes (requireField ms "source_id"))
    (hthreshold : Passes (requireNumeric ms "threshold_w" low high)) :
    Yields Blameless (probeSolar w.db clock.now ms kind) ↔
      Reads ms ["source_id"] [] ∧ InReach clock ms 1800 := by
  rw [probeSolar]
  refine yields_oneText hsource fun sourceId => ?_
  rw [blameless_guard (by decide)]
  refine and_congr_right fun _ => ?_
  obtain ⟨threshold, hx⟩ := caught_threshold hthreshold
  rw [yields_of_ok hx]
  refine blameless_latestSample (fun n => blameless_staleSample) fun n s hs => ?_
  obtain ⟨payload, hpayload, hwell⟩ := hw s hs
  dsimp only
  rw [hpayload]
  split
  · exact blameless_failed (by decide) rfl
  · obtain ⟨production, hproduction⟩ := exists_caught hwell.production
    rw [member, yields_of_ok hproduction]
    cases production with
    | none => exact blameless_failed (by decide) rfl
    | some production =>
        dsimp only
        split
        · exact blameless_details rfl rfl
        · exact blameless_details rfl rfl

theorem exists_recentSamples (clock : Clock) (db : Telemetry) (deviceId : String) (window : Int) :
    ∃ rows, recentSamples db clock.now deviceId window = .ok rows := by
  obtain ⟨now, hlow, hhigh⟩ := clock
  simp only [seconds, Time] at hlow hhigh
  have hreach : minTime ≤ now - seconds (max 60 (min window 86400)) ∧
      now - seconds (max 60 (min window 86400)) ≤ maxTime := by
    simp only [seconds, Time]
    omega
  rw [recentSamples, cutoff, if_pos hreach]
  exact ⟨_, rfl⟩

theorem floats_orDefault {x : Json} {default : Rat} (h : Floats x) :
    Floats (if x.truthy then x else .float default) := by
  split
  · exact h
  · nofun

theorem blameless_probePower {kind : String}
    (hdevice : Passes (requireField ms "device_id"))
    (hthreshold : kind = "power_above" ∨ kind = "power_below" →
      Passes (requireNumeric ms "threshold_w" 0 10000))
    (hzero : ¬ (kind = "power_above" ∨ kind = "power_below") →
      Floats (field ms "near_zero_threshold_w")) :
    Yields Blameless (probePower w.db clock.now ms kind) ↔ Reads ms ["device_id"] [] := by
  rw [probePower, ← and_true (Reads _ _ _)]
  refine yields_oneText hdevice fun deviceId => ?_
  rw [blameless_guard (by decide)]
  refine and_congr_right fun _ => iff_of_true ?_ trivial
  obtain ⟨window, hwindow⟩ := exists_intField ms "window_seconds" 300
  obtain ⟨maxAge, hmaxAge⟩ := exists_intField ms "max_sample_age_seconds" 600
  rw [yields_of_ok hwindow, yields_of_ok hmaxAge]
  cases latestPower w.db deviceId with
  | none => exact blameless_failed (by decide) rfl
  | some latest =>
      dsimp only
      split
      · exact blameless_failed (by decide) rfl
      · obtain ⟨rows, hrows⟩ := exists_recentSamples clock w.db deviceId
          (min (max window 30) 86400)
        rw [yields_of_ok hrows]
        split
        · exact blameless_failed (by decide) rfl
        · cases rows.filterMap (·.pW) with
          | nil => exact blameless_failed (by decide) rfl
          | cons v vs =>
              dsimp only
              split
              · next hkind =>
                  obtain ⟨threshold, hx⟩ := caught_threshold (hthreshold hkind)
                  rw [yields_of_ok hx]
                  dsimp only
                  split
                  · exact blameless_details rfl rfl
                  · exact blameless_details rfl rfl
              · next hkind =>
                  obtain ⟨o, ho⟩ := exists_caught (floats_orDefault (hzero hkind))
                  rw [yields_of_ok ho]
                  exact blameless_details rfl rfl

/-! ### Reading the counters -/

/-- The counters of an interface are counters. -/
def Counts (entry : List (String × Json)) : Prop :=
  ∀ name ∈ counterNames, IsCounter (field entry name)

theorem exists_counterDelta {newer older : List (String × Json)} (hn : Counts newer)
    (ho : Counts older) (hname : name ∈ counterNames) :
    ∃ o, snmpCounterDelta newer older name = .ok o ∧ ∀ q, o = some q → q < 2 ^ 64 := by
  rw [snmpCounterDelta]
  rcases hn name hname with hnull | ⟨n, hn, -, hlt⟩
  · exact ⟨none, if_pos (.inl hnull), nofun⟩
  · rcases ho name hname with hnull | ⟨m, hm, hle, -⟩
    · exact ⟨none, if_pos (.inr hnull), nofun⟩
    · rw [hn, hm]
      refine ⟨_, rfl, fun q hq => ?_⟩
      split at hq
      · obtain rfl := Option.some.inj hq
        have : n - m < 2 ^ 64 := by omega
        exact_mod_cast this
      · cases hq

theorem exists_bothDeltas {newer older : List (String × Json)} (in_ out : String)
    (hn : Counts newer) (ho : Counts older) (hin : in_ ∈ counterNames)
    (hout : out ∈ counterNames) :
    ∃ o, bothDeltas newer older in_ out = .ok o ∧ ∀ q, o = some q → q < 2 ^ 65 := by
  obtain ⟨a, ha, halt⟩ := exists_counterDelta hn ho hin
  obtain ⟨b, hb, hblt⟩ := exists_counterDelta hn ho hout
  rw [bothDeltas, ha, ok_bind, hb, ok_bind]
  refine ⟨_, rfl, fun q hq => ?_⟩
  split at hq
  · obtain rfl := Option.some.inj hq
    have := halt _ rfl
    have := hblt _ rfl
    linarith
  · cases hq

theorem exists_interfaceEntry {s : SensorSample} (hw : w.WellFormed p) (hs : s ∈ w.db.sensors)
    (interface : String) : ∃ x, interfaceEntry s interface = .ok x ∧
      ∀ entry, x = .obj entry → Counts entry := by
  obtain ⟨payload, hpayload, hwell⟩ := hw s hs
  rw [interfaceEntry, hpayload]
  exact ⟨_, rfl, fun entry hentry => hwell.interfaces _ entry hentry⟩

theorem mem_of_lastTwoSamples {db : Telemetry} {now : Time} {sourceId : String} {maxAge : Int}
    {newer older : SensorSample}
    (h : lastTwoSamples db now sourceId maxAge = .ok (some (newer, older))) :
    newer ∈ db.sensors ∧ older ∈ db.sensors := by
  obtain ⟨oldest, -, h⟩ := bind_eq_ok h
  have hmem : ∀ s, s ∈ newestFirst (·.sampledAt) (db.sensors.filter (·.sourceId = sourceId)) →
      s ∈ db.sensors := fun s hs => List.mem_of_mem_filter (mem_newestFirst.mp hs)
  have h := Except.ok.inj h
  split at h
  · next newer' older' rest hrows =>
      rw [hrows] at hmem
      split at h
      · cases h
      · cases h
        exact ⟨hmem _ (by simp), hmem _ (by simp)⟩
  · cases h

/-- A usable pair has counters. -/
theorem snmpPairInterface_usable {newer older : List (String × Json)} {dt : Rat} {at_ : Time}
    (hw : w.WellFormed p)
    (h : snmpPairInterface w.db clock.now ms = .ok (.usable newer older dt at_)) :
    Counts newer ∧ Counts older := by
  obtain ⟨sourceId, -, h⟩ := bind_eq_ok h
  obtain ⟨interface, -, h⟩ := bind_eq_ok h
  split at h
  · cases h
  · obtain ⟨maxAge, -, h⟩ := bind_eq_ok h
    obtain ⟨found, hfound, h⟩ := bind_eq_ok h
    cases found with
    | none => cases h
    | some pair =>
        obtain ⟨hnewer, holder⟩ := mem_of_lastTwoSamples hfound
        obtain ⟨x, hx, hxcounts⟩ := exists_interfaceEntry hw hnewer interface
        obtain ⟨y, hy, hycounts⟩ := exists_interfaceEntry hw holder interface
        dsimp only at h
        rw [hx, ok_bind, hy, ok_bind] at h
        split at h
        · split at h
          · cases h
          · cases h
            exact ⟨hxcounts _ rfl, hycounts _ rfl⟩
        · cases h

/-- The answer blames no field, if it is one. -/
def PairInterface.Blameless : PairInterface → Prop
  | .early answer => Watchdog.Blameless answer
  | .usable .. => True

theorem blameless_snmpPairInterface (hw : w.WellFormed p)
    (hsource : Passes (requireField ms "source_id"))
    (hinterface : Passes (requireField ms "interface")) :
    Yields PairInterface.Blameless (snmpPairInterface w.db clock.now ms) ↔
      Reads ms ["source_id", "interface"] [] ∧ InReach clock ms 600 := by
  rw [snmpPairInterface]
  refine yields_twoTexts hsource hinterface fun sourceId interface => ?_
  have hmissing : ¬ PairInterface.Blameless (.early (failed "missing source_id / interface" [])) :=
    not_blameless_failed (by decide)
  rw [yields_guard hmissing, not_or]
  refine and_congr_right fun _ => ?_
  rw [InReach, yields_bind]
  refine exists_congr fun maxAge => and_congr_right fun _ => ?_
  cases hcut : cutoff clock.now maxAge with
  | error e =>
      rw [lastTwoSamples, hcut]
      exact iff_of_false nofun nofun
  | ok oldest =>
      refine iff_of_true ?_ ⟨oldest, rfl⟩
      obtain ⟨found, hfound⟩ : ∃ found,
          lastTwoSamples w.db clock.now sourceId maxAge = .ok found := by
        rw [lastTwoSamples, hcut]
        exact ⟨_, rfl⟩
      rw [yields_of_ok hfound]
      cases found with
      | none => exact yields_ok.mpr blameless_passed
      | some pair =>
          obtain ⟨hnewer, holder⟩ := mem_of_lastTwoSamples hfound
          obtain ⟨x, hx, -⟩ := exists_interfaceEntry hw hnewer interface
          obtain ⟨y, hy, -⟩ := exists_interfaceEntry hw holder interface
          dsimp only
          rw [yields_of_ok hx, yields_of_ok hy]
          split
          · split
            · exact yields_ok.mpr blameless_passed
            · exact yields_ok.mpr trivial
          · exact yields_ok.mpr (blameless_reason rfl (by decide) rfl)

/-- The back half of a rate probe, for a pair whose fields were read. -/
theorem blameless_pair {answer : PairInterface → Except PyError Answer} (hw : w.WellFormed p)
    (hsource : Passes (requireField ms "source_id"))
    (hinterface : Passes (requireField ms "interface"))
    (hearly : ∀ a, answer (.early a) = .ok a)
    (husable : ∀ newer older dt at_, Reads ms ["source_id", "interface"] [] → Counts newer →
      Counts older → Yields Blameless (answer (.usable newer older dt at_))) :
    Yields Blameless (do answer (← snmpPairInterface w.db clock.now ms)) ↔
      Reads ms ["source_id", "interface"] [] ∧ InReach clock ms 600 := by
  rw [← blameless_snmpPairInterface hw hsource hinterface, yields_bind]
  refine exists_congr fun pair => and_congr_right fun hpair => ?_
  cases pair with
  | early a =>
      rw [hearly]
      exact yields_ok
  | usable newer older dt at_ =>
      obtain ⟨hnewer, holder⟩ := snmpPairInterface_usable hw hpair
      have hreads := (blameless_snmpPairInterface hw hsource hinterface).mp
        ⟨_, hpair, trivial⟩
      exact iff_of_true (husable _ _ _ _ hreads.1 hnewer holder) trivial

theorem lt_overflow {q : Rat} (h : q < 2 ^ 68) : ¬ PyFloat.overflow ≤ q := by
  have hoverflow : (2 : Rat) ^ 68 ≤ PyFloat.overflow := by decide +kernel
  exact not_le.mpr (h.trans_le hoverflow)

theorem yields_named {α : Type} {Q : α → Prop} {answer : String → String → Except PyError α}
    (h : Reads ms ["source_id", "interface"] []) (hanswer : ∀ s i, Yields Q (answer s i)) :
    Yields Q (do answer (← textField ms "source_id") (← textField ms "interface")) := by
  obtain ⟨s, hs⟩ := exists_optionField.mpr (.inr (h.texts "source_id" (by simp)))
  obtain ⟨i, hi⟩ := exists_optionField.mpr (.inr (h.texts "interface" (by simp)))
  rw [yields_of_ok hs, yields_of_ok hi]
  exact hanswer s i

theorem blameless_counterReset (h : Reads ms ["source_id", "interface"] []) :
    Yields Blameless (counterReset ms) := by
  rw [counterReset]
  exact yields_named h fun s i => yields_ok.mpr blameless_passed

theorem blameless_probeSnmpErrorRate {low high : Int} (hw : w.WellFormed p)
    (hsource : Passes (requireField ms "source_id"))
    (hinterface : Passes (requireField ms "interface"))
    (hthreshold : Passes (requireNumeric ms "threshold_errors_per_min" low high)) :
    Yields Blameless (probeSnmpErrorRate w.db clock.now ms) ↔
      Reads ms ["source_id", "interface"] [] ∧ InReach clock ms 600 := by
  obtain ⟨threshold, hx⟩ := caught_threshold hthreshold
  rw [probeSnmpErrorRate, yields_of_ok hx]
  refine blameless_pair hw hsource hinterface (fun a => rfl) ?_
  intro newer older dt at_ hreads hn ho
  obtain ⟨errors, herrors, hlt⟩ := exists_bothDeltas "in_errors" "out_errors" hn ho (by decide)
    (by decide)
  dsimp only
  rw [yields_of_ok herrors]
  cases errors with
  | none => exact blameless_counterReset hreads
  | some errors =>
      have hlt := hlt errors rfl
      have hsmall : errors < 2 ^ 68 := by linarith
      dsimp only
      rw [if_neg (lt_overflow hsmall)]
      exact yields_named hreads fun s i => blameless_details rfl rfl

/-- The octets of a direction. -/
theorem yields_octets {α : Type} {Q : α → Prop} {newer older : List (String × Json)}
    {direction : String} {answer : Option Rat → Except PyError α} (hn : Counts newer)
    (ho : Counts older) (hanswer : ∀ o, (∀ q, o = some q → q < 2 ^ 65) → Yields Q (answer o)) :
    Yields Q (if direction = "in" then do answer (← snmpCounterDelta newer older "in_octets")
      else if direction = "out" then do answer (← snmpCounterDelta newer older "out_octets")
      else do answer (← bothDeltas newer older "in_octets" "out_octets")) := by
  have one : ∀ {name : String}, name ∈ counterNames →
      Yields Q (do answer (← snmpCounterDelta newer older name)) := by
    intro name hname
    obtain ⟨o, h, hlt⟩ := exists_counterDelta hn ho hname
    exact yields_bind.mpr ⟨o, h, hanswer o fun q hq => (hlt q hq).trans (by norm_num)⟩
  split
  · exact one (by decide)
  · split
    · exact one (by decide)
    · obtain ⟨o, h, hlt⟩ := exists_bothDeltas "in_octets" "out_octets" hn ho (by decide)
        (by decide)
      exact yields_bind.mpr ⟨o, h, hanswer o hlt⟩

theorem blameless_probeSnmpThroughput {kind : String} {low high : Int} (hw : w.WellFormed p)
    (hsource : Passes (requireField ms "source_id"))
    (hinterface : Passes (requireField ms "interface"))
    (hthreshold : Passes (requireNumeric ms "threshold_bps" low high)) :
    Yields Blameless (probeSnmpThroughput w.db clock.now ms kind) ↔
      Reads ms ["source_id", "interface"] [] ∧ InReach clock ms 600 ∧
        ∃ d ∈ ["in", "out", "total"], direction ms = .ok d := by
  obtain ⟨threshold, hx⟩ := caught_threshold hthreshold
  rw [probeSnmpThroughput, yields_bind, ← and_assoc, and_comm, ← exists_and_right]
  refine exists_congr fun d => ?_
  rw [blameless_guard (by decide), not_not, ← and_assoc, and_comm (a := _ = _)]
  refine and_congr_right fun _ => ?_
  rw [yields_of_ok hx]
  refine blameless_pair hw hsource hinterface (fun a => rfl) ?_
  intro newer older dt at_ hreads hn ho
  refine yields_octets hn ho fun octets hlt => ?_
  cases octets with
  | none => exact blameless_counterReset hreads
  | some octets =>
      have hlt := hlt octets rfl
      have hsmall : octets * 8 < 2 ^ 68 := by linarith
      dsimp only
      rw [if_neg (lt_overflow hsmall)]
      refine yields_named hreads fun s i => ?_
      split
      · exact blameless_details rfl rfl
      · exact blameless_details rfl rfl

end

end RebooterHub.Watchdog
