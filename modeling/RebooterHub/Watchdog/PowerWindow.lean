import RebooterHub.Support.Latest
import RebooterHub.Watchdog.Staleness

/-!
# Watchdog — PowerWindow

`_probe_power`: which samples the average is taken over.  The probe hands its window to
`recent_samples`, which has a least window of its own, no upper end, and a limit on the rows.

`averagedSamples` is the front of the probe, up to the average; `powerVerdict` is the comparison
that follows.

* `probePower_verdict`: the probe compares the average over those samples.
* `averages_window_iff`: they are the window's exactly when the limit and the least window leave the
  window's readings alone.
-/

namespace RebooterHub.Watchdog
open RebooterHub.Fallible

/-- The samples that the average is taken over, if the probe gets to it. -/
def averagedSamples (db : Telemetry) (now : Time) (ms : List (String × Json)) :
    Except PyError (Option (List PowerSample)) := do
  let deviceId ← textField ms "device_id"
  if deviceId = "" then return none
  let window := min (max (← intField ms "window_seconds" 300) 30) 86400
  let maxAge ← intField ms "max_sample_age_seconds" 600
  let some latest := latestPower db deviceId | return none
  if maxAge < ageSeconds now latest then return none
  let recent ← recentSamples db now deviceId window
  return if recent.filterMap (·.pW) = [] then none else some recent

/-- The mean of the readings of some samples. -/
def meanPower (rows : List PowerSample) : Rat :=
  (rows.filterMap (·.pW)).sum / (rows.filterMap (·.pW)).length

/-- The outcome of the probe on an average; a threshold that cannot be read is a failure. -/
def powerVerdict (db : Telemetry) (ms : List (String × Json)) (kind : String) (avgW : Rat) :
    Except PyError Bool := do
  if kind = "power_above" ∨ kind = "power_below" then
    let some threshold ← caught (field ms "threshold_w").toFloat | return false
    return if kind = "power_above" then !threshold.lt (.fin avgW)
      else !(PyFloat.fin avgW).lt threshold
  else
    let x := field ms "near_zero_threshold_w"
    let nearZero :=
      (← caught (if x.truthy then x else .float (1 / 2)).toFloat).getD (.fin (1 / 2))
    return !(relayOnHeartbeat db (← textField ms "device_id") && (PyFloat.fin avgW).lt nearZero)

/-- The outcome of a probe that gets to the average, and failure for one that does not. -/
def averagedVerdict (db : Telemetry) (ms : List (String × Json)) (kind : String) :
    Option (List PowerSample) → Except PyError Bool
  | none => .ok false
  | some rows => powerVerdict db ms kind (meanPower rows)

section
variable {db : Telemetry} {now : Time} {ms : List (String × Json)} {kind : String}

/-- **What is compared.**  The probe compares the mean over the averaged samples. -/
theorem probePower_verdict :
    (probePower db now ms kind).map Prod.fst =
      averagedSamples db now ms >>= averagedVerdict db ms kind := by
  rw [probePower, averagedSamples]
  cases hdevice : textField ms "device_id" with
  | error e => rfl
  | ok deviceId =>
      rw [ok_bind, ok_bind]
      split
      · rfl
      · cases intField ms "window_seconds" 300 with
        | error e => rfl
        | ok window =>
            cases intField ms "max_sample_age_seconds" 600 with
            | error e => rfl
            | ok maxAge =>
                simp only [ok_bind]
                cases latestPower db deviceId with
                | none => rfl
                | some latest =>
                    dsimp only
                    split
                    · rfl
                    · cases recentSamples db now deviceId (min (max window 30) 86400) with
                      | error e => rfl
                      | ok recent =>
                          cases hvals : recent.filterMap (·.pW) with
                          | nil =>
                              rw [ok_bind, ok_bind, hvals, if_pos rfl]
                              split <;> rfl
                          | cons v vs =>
                              have hmean : meanPower recent =
                                  (v :: vs).sum / (v :: vs).length := by
                                rw [meanPower, hvals]
                              have hsome : ¬ recent.isEmpty = true := by
                                rintro h
                                rw [List.isEmpty_iff.mp h] at hvals
                                cases hvals
                              rw [ok_bind, ok_bind, hvals, if_neg (List.cons_ne_nil v vs),
                                if_neg hsome]
                              change _ = powerVerdict db ms kind (meanPower recent)
                              rw [hmean, powerVerdict, hdevice]
                              dsimp only
                              split
                              · cases caught (field ms "threshold_w").toFloat with
                                | error e => rfl
                                | ok threshold => cases threshold with
                                  | none => rfl
                                  | some threshold =>
                                      simp only [ok_bind]
                                      split <;> rfl
                              · cases caught (if (field ms "near_zero_threshold_w").truthy then
                                  field ms "near_zero_threshold_w" else .float (1 / 2)).toFloat with
                                | error e => rfl
                                | ok x => rfl

end

/-! ### The window -/

/-- The window of a probe. -/
def probeWindow (ms : List (String × Json)) : Int :=
  match (field ms "window_seconds").toInt with
  | .ok n => n
  | .error _ => 300

/-- The sample lies in the window before now. -/
def InWindow (now : Time) (window : Int) (s : PowerSample) : Prop :=
  now - seconds window ≤ s.sampledAt ∧ s.sampledAt ≤ now

instance (now : Time) (window : Int) (s : PowerSample) : Decidable (InWindow now window s) :=
  inferInstanceAs (Decidable (_ ∧ _))

/-- The samples of the window before now. -/
def windowSamples (db : Telemetry) (now : Time) (deviceId : String) (window : Int) :
    List PowerSample :=
  (channelSamples db deviceId).filter (InWindow now window ·)

/-- The samples since the start of the window, or of the last minute, newest first. -/
def samplesSince (db : Telemetry) (now : Time) (deviceId : String) (window : Int) :
    List PowerSample :=
  newestFirst (·.sampledAt)
    ((channelSamples db deviceId).filter (now - seconds (max 60 window) ≤ ·.sampledAt))

/-- Of the samples since the start of the window, or of the last minute, the newest 720 have all
readings of the window and no other. -/
def WindowFits (db : Telemetry) (now : Time) (deviceId : String) (window : Int) : Prop :=
  (∀ s ∈ (samplesSince db now deviceId window).take 720, s.pW.isSome → InWindow now window s) ∧
    ∀ s ∈ (samplesSince db now deviceId window).drop 720, s.pW.isSome → ¬ InWindow now window s

section
variable {db : Telemetry} {now : Time} {ms : List (String × Json)} {kind deviceId : String}
  {rows : List PowerSample}

theorem windowCheck_of_validateProbe (hkind : kind ∈ powerKinds)
    (hfield : field ms "kind" = .str kind) (hvalid : validateProbe (.obj ms) = .ok ()) :
    ifPresent ms "window_seconds" (requireInt ms "window_seconds" 30 86400) = .ok () := by
  rw [validateProbe, hfield] at hvalid
  simp only [powerKinds, List.mem_cons, List.not_mem_nil, or_false] at hkind
  rcases hkind with rfl | rfl | rfl
  · obtain ⟨_, -, hvalid⟩ := bind_eq_ok hvalid
    obtain ⟨_, -, hvalid⟩ := bind_eq_ok hvalid
    exact hvalid
  · obtain ⟨_, -, hvalid⟩ := bind_eq_ok hvalid
    obtain ⟨_, -, hvalid⟩ := bind_eq_ok hvalid
    exact hvalid
  · obtain ⟨_, -, hvalid⟩ := bind_eq_ok hvalid
    obtain ⟨_, -, hvalid⟩ := bind_eq_ok hvalid
    exact hvalid

/-- The window that a validated probe has, and that the runtime reads. -/
theorem intField_window (hkind : kind ∈ powerKinds) (hfield : field ms "kind" = .str kind)
    (hvalid : validateProbe (.obj ms) = .ok ()) :
    intField ms "window_seconds" 300 = .ok (probeWindow ms) ∧ 30 ≤ probeWindow ms ∧
      probeWindow ms ≤ 86400 := by
  have hcheck := windowCheck_of_validateProbe hkind hfield hvalid
  rw [ifPresent] at hcheck
  split at hcheck
  · -- the field is there: the validator reads it as the runtime does
    obtain ⟨n, hn, hlow, hhigh⟩ := requireInt_ok hcheck
    have htruthy := truthy_of_toInt hn (by omega)
    have hwindow : probeWindow ms = n := by rw [probeWindow, hn]
    rw [hwindow, intField, if_pos htruthy, hn]
    exact ⟨rfl, hlow, hhigh⟩
  · next habsent =>
      have hnull := field_of_absent habsent
      have hwindow : probeWindow ms = 300 := by rw [probeWindow, hnull]; rfl
      rw [hwindow, intField, hnull]
      exact ⟨rfl, by decide, by decide⟩

/-! ### The samples of the average -/

theorem averagedSamples_eq (hdevice : textField ms "device_id" = .ok deviceId)
    (hwindow : intField ms "window_seconds" 300 = .ok (probeWindow ms))
    (hlow : 30 ≤ probeWindow ms) (hhigh : probeWindow ms ≤ 86400)
    (hreach : averagedSamples db now ms = .ok (some rows)) :
    rows = (samplesSince db now deviceId (probeWindow ms)).take 720 := by
  have hclamp : min (max (probeWindow ms) 30) 86400 = probeWindow ms := by omega
  have hleast : max 60 (min (probeWindow ms) 86400) = max 60 (probeWindow ms) := by omega
  rw [averagedSamples, hdevice, ok_bind] at hreach
  split at hreach
  · cases hreach
  · rw [hwindow, ok_bind, hclamp] at hreach
    obtain ⟨maxAge, -, hreach⟩ := bind_eq_ok hreach
    cases hlatest : latestPower db deviceId with
    | none =>
        rw [hlatest] at hreach
        cases hreach
    | some latest =>
        rw [hlatest] at hreach
        dsimp only at hreach
        split at hreach
        · cases hreach
        · obtain ⟨recent, hrecent, hreach⟩ := bind_eq_ok hreach
          obtain ⟨oldest, hcut, hrecent⟩ := bind_eq_ok hrecent
          obtain rfl := cutoff_eq hcut
          rw [hleast] at hrecent
          obtain rfl := Except.ok.inj hrecent
          split at hreach
          · cases hreach
          · exact (Option.some.inj (Except.ok.inj hreach)).symm

/-- The samples of the window are among those that the query selects. -/
theorem perm_windowSamples (window : Int) :
    ((samplesSince db now deviceId window).filter fun s => s.pW.isSome ∧ InWindow now window s).Perm
      ((windowSamples db now deviceId window).filter (·.pW.isSome)) := by
  refine ((List.perm_insertionSort _ _).filter _).trans (.of_eq ?_)
  rw [windowSamples, List.filter_filter, List.filter_filter]
  refine List.filter_congr fun s _ => ?_
  rw [Bool.eq_iff_iff]
  simp only [Bool.and_eq_true, decide_eq_true_eq]
  refine and_iff_left_of_imp fun h => ?_
  have hstart := h.2.1
  simp only [seconds, Time] at hstart ⊢
  omega

theorem meanPower_congr {rows rows' : List PowerSample}
    (h : (rows.filter (·.pW.isSome)).Perm (rows'.filter (·.pW.isSome))) :
    meanPower rows = meanPower rows' := by
  have hreadings (rows : List PowerSample) :
      (rows.filter (·.pW.isSome)).filterMap (·.pW) = rows.filterMap (·.pW) := by
    rw [List.filterMap_filter]
    refine List.filterMap_congr fun s _ => ?_
    cases s.pW <;> rfl
  have hperm := h.filterMap (·.pW)
  rw [hreadings, hreadings] at hperm
  rw [meanPower, meanPower, hperm.sum_eq, hperm.length_eq]

/-- **The window of a power probe.**  A validated probe that gets to its comparison compares the
mean over some of the device's samples; these are the samples of its window, as far as they have a
reading, if and only if the least window and the limit on the rows leave the window's readings
alone; and then the mean is the window's. -/
theorem averages_window_iff (hkind : kind ∈ powerKinds) (hfield : field ms "kind" = .str kind)
    (hvalid : validateProbe (.obj ms) = .ok ()) (hdevice : textField ms "device_id" = .ok deviceId)
    (hreach : averagedSamples db now ms = .ok (some rows)) :
    (probePower db now ms kind).map Prod.fst = powerVerdict db ms kind (meanPower rows) ∧
      ((rows.filter (·.pW.isSome)).Perm
          ((windowSamples db now deviceId (probeWindow ms)).filter (·.pW.isSome)) ↔
        WindowFits db now deviceId (probeWindow ms)) ∧
      (WindowFits db now deviceId (probeWindow ms) →
        meanPower rows = meanPower (windowSamples db now deviceId (probeWindow ms))) := by
  obtain ⟨hwindow, hlow, hhigh⟩ := intField_window hkind hfield hvalid
  have hrows := averagedSamples_eq hdevice hwindow hlow hhigh hreach
  have hiff : (rows.filter (·.pW.isSome)).Perm
        ((windowSamples db now deviceId (probeWindow ms)).filter (·.pW.isSome)) ↔
      WindowFits db now deviceId (probeWindow ms) := by
    rw [← (perm_windowSamples (probeWindow ms)).congr_right, hrows]
    simpa [WindowFits] using Latest.perm_filter_take_iff
      (samplesSince db now deviceId (probeWindow ms)) 720
      (·.pW.isSome = true) (InWindow now (probeWindow ms))
  refine ⟨?_, hiff, fun hfits => meanPower_congr (hiff.mpr hfits)⟩
  rw [probePower_verdict, hreach]
  rfl

/-- The limits leave the window alone if no reading is stamped after now, none lies between the
last minute's start and a shorter window's, and there are no more than 720 samples. -/
theorem windowFits_of_few {window : Int}
    (hnow : ∀ s ∈ channelSamples db deviceId, s.pW.isSome → s.sampledAt ≤ now)
    (hminute : ∀ s ∈ channelSamples db deviceId, s.pW.isSome →
      now - seconds 60 ≤ s.sampledAt → now - seconds window ≤ s.sampledAt)
    (hfew : (samplesSince db now deviceId window).length ≤ 720) :
    WindowFits db now deviceId window := by
  refine ⟨fun s hs hreading => ?_, ?_⟩
  · have hsince := (List.mem_insertionSort _).mp (List.mem_of_mem_take hs)
    obtain ⟨hmem, hstart⟩ := List.mem_filter.mp hsince
    have hstart := of_decide_eq_true hstart
    refine ⟨?_, hnow s hmem hreading⟩
    rcases le_total window 60 with h | h
    · rw [max_eq_left h] at hstart
      exact hminute s hmem hreading hstart
    · rwa [max_eq_right h] at hstart
  · rw [List.drop_eq_nil_of_le hfew]
    intro s hs
    cases hs

end

/-- A probe on the last half minute. -/
def halfMinuteProbe : List (String × Json) :=
  [("kind", .str "power_above"), ("device_id", .str "dev_1"), ("threshold_w", .int 60),
    ("window_seconds", .int 30)]

/-- A reading of 100 W ten seconds ago. -/
def loadNow : PowerSample := ⟨"dev_1", 0, seconds 990, some 100⟩

/-- The device was idle before. -/
def idleBefore : PowerSample := ⟨"dev_1", 0, seconds 955, some 0⟩

/-- The tables with some power samples. -/
def powerTables (rows : List PowerSample) : Telemetry := ⟨[], rows, []⟩

theorem averages_window_load :
    (probePower (powerTables [loadNow]) (seconds 1000) halfMinuteProbe "power_above").map
        Prod.fst = powerVerdict (powerTables [loadNow]) halfMinuteProbe "power_above"
          (meanPower (windowSamples (powerTables [loadNow]) (seconds 1000) "dev_1"
            (probeWindow halfMinuteProbe))) := by
  have hfield : field halfMinuteProbe "kind" = .str "power_above" := rfl
  have hdevice : textField halfMinuteProbe "device_id" = .ok "dev_1" := rfl
  have hreach : averagedSamples (powerTables [loadNow]) (seconds 1000) halfMinuteProbe =
      .ok (some [loadNow]) := rfl
  have h := averages_window_iff (by decide) hfield (by decide +kernel) hdevice hreach
  rw [h.1, h.2.2 (windowFits_of_few (by decide) (by decide) (by decide))]

/-- The mean over the half minute is above the threshold; the probe averages a minute. -/
theorem half_minute_averages_a_minute :
    let db := powerTables [loadNow, idleBefore]
    validateProbe (.obj halfMinuteProbe) = .ok () ∧
      averagedSamples db (seconds 1000) halfMinuteProbe = .ok (some [loadNow, idleBefore]) ∧
      windowSamples db (seconds 1000) "dev_1" (probeWindow halfMinuteProbe) = [loadNow] ∧
      (probePower db (seconds 1000) halfMinuteProbe "power_above").map Prod.fst = .ok true ∧
      powerVerdict db halfMinuteProbe "power_above" (meanPower [loadNow]) = .ok false := by
  refine ⟨by decide +kernel, rfl, rfl, ?_, ?_⟩
  · decide +kernel
  · decide +kernel

end RebooterHub.Watchdog
