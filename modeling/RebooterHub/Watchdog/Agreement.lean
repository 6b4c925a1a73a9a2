import RebooterHub.Watchdog.StoredAnswers

/-!
# Watchdog — Agreement

The validation of a probe against the runtime that runs it.

* `agrees_iff`: the accepted probes that agree with the runtime.
* `disagrees`: an internet probe of nine targets, and a host that is a number.
-/

namespace RebooterHub.Watchdog
open Fallible

variable {p : Platform} {clock : Clock} {w : World} {ms : List (String × Json)}

/-! ### Runs -/

/-- A probe of stored samples has no fault when its answer is blameless. -/
theorem not_fault_of_stored {x : Except PyError Answer} (hnet : networkTrace p w ms = none)
    (hrun : w.run p clock (.obj ms) = guarded x) :
    ¬ Fault p clock w (.obj ms) ↔ Yields Blameless x := by
  cases x with
  | error e =>
      refine iff_of_false (not_not.mpr ⟨_, hrun, .inl ⟨"probe_exception", by decide, rfl⟩⟩) nofun
  | ok a =>
      obtain ⟨b, details⟩ := a
      rw [yields_ok, Fault]
      constructor
      · rintro h rfl
        exact ⟨fun hb => h ⟨details, hrun, .inl hb⟩, fun hb => h ⟨details, hrun, .inr (.inl hb)⟩⟩
      · rintro h ⟨details', hdone, hfault⟩
        cases hrun.symm.trans hdone
        obtain ⟨hfields, htarget⟩ := h rfl
        rcases hfault with hb | hb | ⟨ms', answer, heq, hnothing⟩
        · exact hfields hb
        · exact htarget hb
        · cases heq
          cases hnet.symm.trans hnothing

/-- The answer is blameless, and a failure tried something. -/
def Tried (r : Answer × List Attempt) : Prop := Blameless r.1 ∧ (r.1.1 = false → r.2 ≠ [])

/-- A probe of the network has no fault when it tried something and its answer is blameless. -/
theorem not_fault_of_network {x : Traced} (hnet : networkTrace p w ms = some x)
    (hrun : w.run p clock (.obj ms) = guarded (x.map (·.1))) :
    ¬ Fault p clock w (.obj ms) ↔ Yields Tried x := by
  cases x with
  | error e =>
      refine iff_of_false (not_not.mpr ⟨_, hrun, .inl ⟨"probe_exception", by decide, rfl⟩⟩) nofun
  | ok r =>
      obtain ⟨⟨b, details⟩, tried⟩ := r
      rw [yields_ok, Fault]
      constructor
      · intro h
        refine ⟨?_, ?_⟩
        · rintro rfl
          exact ⟨fun hb => h ⟨details, hrun, .inl hb⟩, fun hb => h ⟨details, hrun, .inr (.inl hb)⟩⟩
        · rintro rfl rfl
          exact h ⟨details, hrun, .inr (.inr ⟨ms, _, rfl, hnet⟩)⟩
      · rintro ⟨h, htried⟩ ⟨details', hdone, hfault⟩
        cases hrun.symm.trans hdone
        obtain ⟨hfields, htarget⟩ := h rfl
        rcases hfault with hb | hb | ⟨ms', answer, heq, hnothing⟩
        · exact hfields hb
        · exact htarget hb
        · cases heq
          cases hnet.symm.trans hnothing
          exact htried rfl rfl

/-! ### tcp, dns and http -/

/-- A required field is there. -/
theorem fieldOrBlank_of_required {name : String} (h : Passes (requireField ms name)) :
    fieldOrBlank ms name = field ms name := by
  rw [fieldOrBlank, field]
  cases hlookup : ms.lookup name with
  | some x => rfl
  | none =>
      obtain ⟨u, h⟩ := h
      rw [requireField, field, hlookup] at h
      cases h

theorem tried_plain {ok : Bool} {a : Attempt} {tried : List Attempt} :
    Tried (plain (ok, a :: tried)) := by
  refine ⟨fun _ => ⟨?_, not_blamesTarget rfl⟩, nofun⟩
  rintro ⟨own, -, heq⟩
  cases heq

theorem not_tried_nothing {details : Json} : ¬ Tried ((false, details), []) :=
  fun h => h.2 rfl rfl

/-- A required text is true. -/
theorem truthy_of_required {name s : String} (h : Passes (requireField ms name))
    (hs : field ms name = .str s) : (Json.str s).truthy = true := by
  obtain ⟨u, h⟩ := h
  rw [requireField, hs] at h
  dsimp only at h
  split at h
  · cases h
  · next hne =>
      rw [Json.truthy]
      refine bne_iff_ne.mpr ?_
      rintro rfl
      exact hne rfl

/-- What a name is asked for. -/
def asked (p : Platform) (answer : String → Bool) (attempt : String → Attempt) (name : Json) :
    Except PyError (Bool × List Attempt) :=
  if !name.truthy then .ok (false, [])
  else match name with
    | .str s => if p.resolvable s then .ok (answer s, [attempt s]) else .error .valueError
    | _ => .error .typeError

theorem probeTcp_eq {net : Network} {host : Json} {port : Int} (h : port ≠ 0) :
    probeTcp p net host port = asked p (net.tcp · port) (.tcp · port) host := by
  unfold probeTcp asked
  by_cases hfalse : (!host.truthy) = true
  · rw [if_pos (.inl hfalse), if_pos hfalse]
  · exact (if_neg (not_or.mpr ⟨hfalse, h⟩)).trans (if_neg hfalse).symm

theorem probeDns_eq {net : Network} {hostname : Json} :
    probeDns p net hostname = asked p net.dns .dns hostname := rfl

/-- A required name is asked for when the resolver takes it. -/
theorem tried_asked {answer : String → Bool} {attempt : String → Attempt} {name : String}
    (h : Passes (requireField ms name)) :
    Yields Tried (do return plain (← asked p answer attempt (fieldOrBlank ms name))) ↔
      Resolves p ms name := by
  rw [fieldOrBlank_of_required h]
  unfold asked
  split
  · next hfalse =>
      refine iff_of_false (fun ⟨r, hr, htried⟩ => ?_) fun ⟨s, hs, _⟩ => ?_
      · cases hr
        exact not_tried_nothing htried
      · rw [hs, truthy_of_required h hs] at hfalse
        cases hfalse
  · cases hfield : field ms name with
    | str s =>
        dsimp only
        split
        · next hs => exact iff_of_true (yields_ok.mpr tried_plain) ⟨s, hfield, hs⟩
        · next hs =>
            refine iff_of_false nofun ?_
            rintro ⟨s', hs', hresolves⟩
            cases hfield.symm.trans hs'
            exact hs hresolves
    | null | bool _ | int _ | float _ | arr _ | obj _ =>
        refine iff_of_false nofun ?_
        rintro ⟨s, hs, -⟩
        cases hfield.symm.trans hs

/-- An accepted port is read, and is not zero. -/
theorem exists_port {default : Int} (h : Passes (requireInt ms "port" 1 65535)) :
    ∃ n : Int, (if (field ms "port").truthy then field ms "port" else .int default).toInt = .ok n ∧
      n ≠ 0 := by
  obtain ⟨u, h⟩ := h
  obtain ⟨n, hx, hrange⟩ := requireInt_ok h
  have hne : n ≠ 0 := by omega
  rw [if_pos (truthy_of_toInt hx hne)]
  exact ⟨n, hx, hne⟩

theorem tried_probeConnect {default : Int} (h : Passes (requireField ms "host"))
    (hport : ∃ n : Int,
      (if (field ms "port").truthy then field ms "port" else .int default).toInt = .ok n ∧ n ≠ 0) :
    Yields Tried (probeConnect p w.net ms default) ↔ Resolves p ms "host" := by
  obtain ⟨n, hn, hne⟩ := hport
  rw [probeConnect, yields_of_ok hn, probeTcp_eq hne]
  exact tried_asked h

theorem exists_optionalPort (h : Passes (ifPresent ms "port" (requireInt ms "port" 1 65535))) :
    ∃ n : Int, (if (field ms "port").truthy then field ms "port" else .int 22).toInt = .ok n ∧
      n ≠ 0 := by
  rw [ifPresent] at h
  split at h
  · exact exists_port h
  · next habsent =>
      rw [field_of_absent habsent]
      exact ⟨22, rfl, by decide⟩

/-- The first request of an http probe. -/
theorem tried_followHttp {net : Network} {n : Nat} {url : String} (hne : url ≠ "") :
    Tried (plain (followHttp p net (n + 1) url [])) ↔ p.fetchable url := by
  rw [followHttp]
  by_cases hfetch : p.fetchable url = true
  · refine iff_of_true ?_ hfetch
    have hgo : ¬ (url = "" ∨ url ∈ [] ∨ (!p.fetchable url) = true) := by simp [hne, hfetch]
    rw [if_neg hgo]
    split
    · exact tried_plain
    · split
      · exact tried_plain
      · split
        · split
          · exact tried_plain
          · exact tried_plain
        · exact tried_plain
  · refine iff_of_false ?_ hfetch
    rw [if_pos (.inr (.inr (by simpa using hfetch)))]
    exact not_tried_nothing

/-- An accepted address is a text. -/
theorem exists_url (h : Passes (validateHttp ms)) : ∃ s, field ms "url" = .str s ∧ s ≠ "" := by
  obtain ⟨u, h⟩ := h
  rw [validateHttp] at h
  obtain ⟨cs, hcs, h⟩ := bind_eq_ok h
  cases hfield : field ms "url" with
  | str s =>
      refine ⟨s, rfl, ?_⟩
      rintro rfl
      rw [hfield] at hcs
      cases hcs
      cases h
  | null | bool _ | int _ | float _ | arr _ | obj _ =>
      rw [hfield] at hcs
      dsimp only [strippedText] at hcs
      split at hcs
      · cases hcs
      · cases hcs
        cases h

theorem tried_probeHttp (h : Passes (validateHttp ms)) :
    Yields Tried (do return plain (← probeHttp p w.net (fieldOrBlank ms "url"))) ↔
      ∃ s, field ms "url" = .str s ∧ p.fetchable s := by
  obtain ⟨s, hs, hne⟩ := exists_url h
  have hfield : fieldOrBlank ms "url" = .str s := by
    rw [field] at hs
    rw [fieldOrBlank]
    cases hlookup : ms.lookup "url" with
    | some x =>
        rw [hlookup] at hs
        exact hs
    | none =>
        rw [hlookup] at hs
        cases hs
  rw [hfield, hs]
  refine (yields_ok.trans (tried_followHttp hne)).trans ⟨fun hfetch => ⟨s, rfl, hfetch⟩, ?_⟩
  rintro ⟨s', heq, hfetch⟩
  cases heq
  exact hfetch

/-! ### ping -/

theorem tried_reason {ok : Bool} {reason : String} {details : List (String × Json)} {a : Attempt}
    {tried : List Attempt} (hreason : field details "reason" = .str reason)
    (h : reason ∉ ownReasons) (htargets : listMember (.obj details) "targets_failed" = []) :
    Tried ((ok, .obj details), a :: tried) := ⟨blameless_reason hreason h htargets, nofun⟩

theorem probeTcp_named {net : Network} {host : String} {port : Int} (hne : host ≠ "")
    (hport : port ≠ 0) : probeTcp p net (.str host) port =
      if p.resolvable host then .ok (net.tcp host port, [.tcp host port])
      else .error .valueError := by
  have htrue : (Json.str host).truthy = true := bne_iff_ne.mpr hne
  rw [probeTcp_eq hport]
  unfold asked
  rw [htrue]
  rfl

theorem tried_pingFallback {host reason : String} (hne : host ≠ "") (h : reason ∉ ownReasons) :
    Yields Tried (pingFallback p w.net host reason) ↔ p.resolvable host := by
  rw [pingFallback, probeTcp_named hne (by decide)]
  split
  · next hs => exact iff_of_true (yields_ok.mpr (tried_reason rfl h rfl)) hs
  · next hs => exact iff_of_false nofun hs

/-- A ping to a host, or its fallback. -/
theorem tried_pingHost {host : String} {timeout : Int} (hne : host ≠ "") :
    Yields Tried (pingHost p w.net host timeout) ↔
      if p.hasPing then
        p.launch host timeout = .runs ∨ p.launch host timeout = .missing ∧ p.resolvable host
      else p.resolvable host := by
  rw [pingHost]
  cases p.hasPing with
  | false => exact tried_pingFallback hne (by decide)
  | true =>
      cases p.launch host timeout with
      | refused e => exact iff_of_false nofun (by simp)
      | missing => simpa using tried_pingFallback hne (by decide)
      | runs =>
          refine iff_of_true ?_ (.inl rfl)
          dsimp only
          cases w.net.ping host timeout with
          | timeout => exact yields_ok.mpr (tried_reason rfl (by decide) rfl)
          | exited code stdout stderr =>
              dsimp only
              by_cases hcode : code = 0
              · rw [if_pos hcode]
                exact yields_ok.mpr ⟨nofun, nofun⟩
              · rw [if_neg hcode]
                refine yields_ok.mpr (tried_reason rfl ?_ rfl)
                split
                · decide
                · decide

/-- A required text, stripped. -/
theorem textField_iff {name x : String} (h : Passes (requireField ms name)) :
    textField ms name = .ok x ∧ x ≠ "" ↔ ∃ s, field ms name = .str s ∧ x = Text.stripped s := by
  constructor
  · rintro ⟨hx, hne⟩
    obtain ⟨s, hs⟩ := (exists_textField h).mp ⟨x, hx, hne⟩
    rw [textField, hs] at hx
    exact ⟨s, hs, (Except.ok.inj hx).symm⟩
  · rintro ⟨s, hs, rfl⟩
    obtain ⟨x, hx, hne⟩ := (exists_textField h).mpr ⟨s, hs⟩
    rw [textField, hs] at hx
    obtain rfl := Except.ok.inj hx
    exact ⟨by rw [textField, hs]; rfl, hne⟩

theorem tried_probePing (h : Passes (requireField ms "host")) :
    Yields Tried (probePing p w.net ms) ↔ PingRuns p ms := by
  have hmissing : ¬ Tried (failed "missing host" [], []) := not_tried_nothing
  obtain ⟨n, hn⟩ := exists_intField ms "timeout_seconds" 3
  rw [probePing, yields_bind]
  constructor
  · rintro ⟨host, hhost, hrun⟩
    obtain ⟨hne, hrun⟩ := (yields_guard hmissing).mp hrun
    obtain ⟨s, hs, rfl⟩ := (textField_iff h).mp ⟨hhost, hne⟩
    exact ⟨s, n, hs, hn, (tried_pingHost hne).mp ((yields_of_ok hn).mp hrun)⟩
  · rintro ⟨s, n', hs, hn', hlaunch⟩
    obtain ⟨hhost, hne⟩ := (textField_iff h).mpr ⟨s, hs, rfl⟩
    exact ⟨_, hhost, (yields_guard hmissing).mpr
      ⟨hne, (yields_of_ok hn').mpr ((tried_pingHost hne).mpr hlaunch)⟩⟩

/-! ### internet -/

/-- Where a target points. -/
def address (p : Platform) : Json → String × Int
  | .obj ms => (targetHost p ms, (targetPort ms).toOption.getD 0)
  | _ => ("", 0)

theorem IsTarget.address {t : Json} {host : String} {port : Int} (h : IsTarget p t host port) :
    Watchdog.address p t = (host, port) := by
  obtain ⟨ms, rfl, rfl, hport⟩ := h
  rw [Watchdog.address, hport]
  rfl

/-- The target points somewhere. -/
structure Usable (p : Platform) (t : Json) : Prop where
  isTarget : IsTarget p t (address p t).1 (address p t).2
  named : (address p t).1 ≠ ""
  numbered : 0 < (address p t).2

/-- How an address fares. -/
def fare (net : Network) (a : String × Int) : TargetResult :=
  if net.tcp a.1 a.2 then .succeeded a.1 a.2 else .failed a.1 (.int a.2) "tcp_connect_failed"

theorem probeTarget_eq {net : Network} {t : Json} (h : Usable p t) :
    probeTarget p net t =
      if p.resolvable (address p t).1 then
        .ok (fare net (address p t), [.tcp (address p t).1 (address p t).2])
      else .error .valueError := by
  obtain ⟨⟨ms, ht, hhost, hread⟩, hne, hport⟩ := h
  generalize address p t = a at hhost hread hne hport
  obtain ⟨host, port⟩ := a
  subst ht
  have hgo : ¬ (host = "" ∨ port ≤ 0) := by
    rintro (hblank | hle)
    · exact hne hblank
    · exact absurd hport (not_lt.mpr hle)
  have hne' : port ≠ 0 := ne_of_gt hport
  unfold probeTarget
  dsimp only at hhost hread ⊢
  rw [hread, hhost]
  dsimp only
  rw [if_neg hgo, probeTcp_named hne hne']
  split
  · rfl
  · rfl

/-- Usable targets are tried one after the other, if the resolver takes their names. -/
theorem probeTargets_eq {net : Network} {ts : List Json} (h : ∀ t ∈ ts, Usable p t) :
    probeTargets p net ts =
      if ∀ t ∈ ts, p.resolvable (address p t).1 then
        .ok (ts.map (fun t => fare net (address p t)),
          ts.map fun t => .tcp (address p t).1 (address p t).2)
      else .error .valueError := by
  induction ts with
  | nil => rfl
  | cons t ts ih =>
      rw [probeTargets, probeTarget_eq (h t (by simp)), ih fun t' ht' => h t' (by simp [ht'])]
      simp only [List.forall_mem_cons]
      by_cases ht : p.resolvable (address p t).1 = true
      · simp only [ht, true_and, ↓reduceIte]
        by_cases hts : ∀ t ∈ ts, p.resolvable (address p t).1 = true
        · rw [if_pos hts, if_pos hts]
          rfl
        · rw [if_neg hts, if_neg hts]
          rfl
      · simp only [ht, false_and, Bool.false_eq_true, ↓reduceIte]
        rfl

/-- No address answers. -/
theorem successes_eq_nil {net : Network} {ts : List Json} :
    (ts.map fun t => fare net (address p t)).filterMap TargetResult.success? = [] ↔
      ∀ t ∈ ts, net.tcp (address p t).1 (address p t).2 = false := by
  rw [List.filterMap_map, List.filterMap_eq_nil_iff]
  refine forall₂_congr fun t _ => ?_
  rw [Function.comp_apply, fare]
  cases net.tcp (address p t).1 (address p t).2 with
  | true => simp [TargetResult.success?]
  | false => simp [TargetResult.success?]

/-- What failed is not blamed on its shape. -/
theorem not_badShape {net : Network} {ts : List Json} {x : Json}
    (h : x ∈ (ts.map fun t => fare net (address p t)).filterMap TargetResult.failure?) :
    member x "error" ≠ .str badTargetShape := by
  rw [List.filterMap_map, List.mem_filterMap] at h
  obtain ⟨t, -, ht⟩ := h
  rw [Function.comp_apply, fare] at ht
  split at ht
  · cases ht
  · obtain rfl := Option.some.inj ht
    exact fun heq => absurd (Json.str.inj heq) (by decide)

/-- The details of the internet probe blame nothing. -/
theorem blameless_internet {succeeded total : Json} {net : Network} {ts : List Json} {c : Bool} :
    Blameless (false, .obj ([("targets_succeeded", succeeded),
      ("targets_failed", .arr ((ts.map fun t => fare net (address p t)).filterMap
        TargetResult.failure?)), ("targets_total", total)] ++
        if c then [("used_default_targets", .bool true)] else [])) := by
  refine fun _ => ⟨?_, ?_⟩
  · rintro ⟨own, -, heq⟩
    cases c with
    | false => cases heq
    | true => cases heq
  · rintro ⟨x, hx, heq⟩
    exact not_badShape hx heq

/-- What the internet probe tries. -/
theorem probeInternet_eq (net : Network) (h : ∀ t ∈ triedTargets ms, Usable p t)
    (hall : ∀ t ∈ triedTargets ms, p.resolvable (address p t).1) :
    ∃ ok details, probeInternet p net ms =
      .ok ((ok, details),
        (triedTargets ms).map fun t => .tcp (address p t).1 (address p t).2) ∧
        Blameless (false, details) ∧
        (ok = false ↔ ∀ t ∈ triedTargets ms, net.tcp (address p t).1 (address p t).2 = false) := by
  rw [probeInternet, probeTargets_eq h, if_pos hall]
  refine ⟨_, _, rfl, blameless_internet, ?_⟩
  rw [← successes_eq_nil, Bool.not_eq_false', List.isEmpty_iff]

theorem tried_probeInternet (h : ∀ t ∈ triedTargets ms, Usable p t) (hne : triedTargets ms ≠ []) :
    Yields Tried (probeInternet p w.net ms) ↔
      ∀ t ∈ triedTargets ms, p.resolvable (address p t).1 := by
  by_cases hall : ∀ t ∈ triedTargets ms, p.resolvable (address p t).1 = true
  · refine iff_of_true ?_ hall
    obtain ⟨ok, details, heq, hblameless, -⟩ := probeInternet_eq w.net h hall
    rw [heq]
    refine yields_ok.mpr ⟨?_, fun _ => by simpa using hne⟩
    rintro rfl
    exact hblameless rfl
  · rw [probeInternet, probeTargets_eq h, if_neg hall]
    exact iff_of_false nofun hall

theorem targetHost_ne (h : isBlank (field ms "host") = false) : targetHost p ms ≠ "" := by
  obtain ⟨htrue, hne⟩ := strip_text_ne (p := p) h
  rw [targetHost, if_pos htrue]
  simpa using hne

theorem Usable.mk' {t : Json} {host : String} {port : Int} (h : IsTarget p t host port)
    (hne : host ≠ "") (hport : 0 < port) : Usable p t := by
  have haddress := h.address
  refine ⟨?_, ?_, ?_⟩
  · rwa [haddress]
  · rwa [haddress]
  · rwa [haddress]

theorem usable_of_checked {i : Nat} {t : Json} (h : Passes (checkInternetTarget i t)) :
    Usable p t := by
  obtain ⟨u, h⟩ := h
  unfold checkInternetTarget at h
  split at h
  · next ms =>
      split at h
      · cases h
      · next hblank =>
          dsimp only at h
          split at h
          · cases h
          · cases h
          · cases h
          · next port hport =>
              split at h
              · cases h
              · next hrange =>
                  have hne := targetHost_ne (p := p) (by simpa using hblank)
                  exact .mk' ⟨ms, rfl, rfl, hport⟩ hne (by omega)
  · cases h

theorem usable_of_checkedAll {ts : List Json} {i : Nat} (h : Passes (checkInternetTargets i ts)) :
    ∀ t ∈ ts, Usable p t := by
  induction ts generalizing i with
  | nil => exact fun _ => nofun
  | cons t ts ih =>
      obtain ⟨u, h⟩ := h
      obtain ⟨v, hv, h⟩ := bind_eq_ok h
      rw [List.forall_mem_cons]
      exact ⟨usable_of_checked ⟨v, hv⟩, ih ⟨u, h⟩⟩

theorem usable_default : ∀ t ∈ defaultInternetTargets, Usable p t := by
  intro t ht
  rw [defaultInternetTargets, List.mem_map] at ht
  obtain ⟨host, hhost, rfl⟩ := ht
  have hnamed : ∀ host ∈ ["1.1.1.1", "8.8.8.8", "4.2.2.2"], isBlank (.str host) = false := by
    decide
  exact .mk' ⟨_, rfl, rfl, rfl⟩ (targetHost_ne (hnamed host hhost)) (by decide)

/-- The targets of an accepted internet probe. -/
theorem usable_targetsOf (h : Passes (validateInternet ms)) : ∀ t ∈ targetsOf ms, Usable p t := by
  obtain ⟨u, h⟩ := h
  rw [validateInternet] at h
  rw [targetsOf, configuredTargets]
  split at h
  · next hnull =>
      rw [hnull]
      exact usable_default
  · next ts hts =>
      rw [hts]
      split at h
      · cases h
      · cases ts with
        | nil => exact usable_default
        | cons t ts => exact usable_of_checkedAll ⟨u, h⟩
  · cases h

theorem triedTargets_eq : triedTargets ms = (targetsOf ms).take 8 := by
  rw [triedTargets, targetsOf]
  cases configuredTargets ms with
  | none => rfl
  | some ts => rfl

theorem triedTargets_ne : triedTargets ms ≠ [] := by
  have hne : targetsOf ms ≠ [] := by
    rw [targetsOf, configuredTargets]
    split
    · exact nofun
    · exact nofun
  rw [triedTargets_eq]
  simpa using hne

/-! ### Agreement -/

/-- The world in which nothing is stored, and nothing answers. -/
def World.silent : World where
  db := ⟨[], [], []⟩
  epg := []
  lastHeartbeatAt _ := none
  net := ⟨fun _ _ => false, fun _ => false, fun _ _ => .timeout, fun _ => none⟩

theorem wellFormed_silent : World.silent.WellFormed p := fun _ => nofun

/-- The probes that read what is stored, by their kind. -/
def storedHandler (p : Platform) (clock : Clock) (w : World) (ms : List (String × Json)) :
    String → Option (Except PyError Answer)
  | "ha_numeric_above" => some (probeHaNumeric w.db clock.now ms "ha_numeric_above")
  | "ha_numeric_below" => some (probeHaNumeric w.db clock.now ms "ha_numeric_below")
  | "power_above" => some (probePower w.db clock.now ms "power_above")
  | "power_below" => some (probePower w.db clock.now ms "power_below")
  | "power_zero_while_on" => some (probePower w.db clock.now ms "power_zero_while_on")
  | "solar_production_above" => some (probeSolar w.db clock.now ms "solar_production_above")
  | "solar_production_below" => some (probeSolar w.db clock.now ms "solar_production_below")
  | "snmp_throughput_above" =>
    some (probeSnmpThroughput w.db clock.now ms "snmp_throughput_above")
  | "snmp_throughput_below" =>
    some (probeSnmpThroughput w.db clock.now ms "snmp_throughput_below")
  | "snmp_error_rate_above" => some (probeSnmpErrorRate w.db clock.now ms)
  | "roku_app_active" => some (probeRokuAppActive w.db clock.now ms)
  | "ha_state_is" => some (probeHaStateIs p.spell w.db clock.now ms)
  | "weather_alert_active" => some (probeWeatherAlertActive p.spell w.db clock.now ms)
  | "ical_event_active" => some (probeIcalEventActive p.spell w.db clock.now ms)
  | "snmp_interface_down" => some (probeSnmpInterfaceDown w.db clock.now ms)
  | "media_session_active" => some (probeMediaSessionActive p.spell w.db clock.now ms)
  | "webhook_field_equals" => some (probeWebhookFieldEquals p.spell w.db clock.now ms)
  | "mqtt_topic_equals" => some (probeMqttTopicEquals p.spell w.db clock.now ms)
  | "epg_show_airing" => some (probeEpgShowAiring w.epg clock.now ms)
  | "device_heartbeat_stale" => some (probeDeviceHeartbeatStale w.lastHeartbeatAt clock.now ms)
  | _ => none

section
variable {kind : String} {P : Prop} (hkind : field ms "kind" = .str kind)
include hkind

theorem networkTrace_eq : networkTrace p w ms = networkHandler p w ms (.str kind) := by
  rw [networkTrace, hkind]

/-- The runs of the probes of the network. -/
theorem run_network {x : Traced} (hx : networkHandler p w ms (.str kind) = some x) :
    w.run p clock (.obj ms) = guarded (x.map (·.1)) := by
  have hnet := (networkTrace_eq hkind).trans hx
  have helsewhere : runElsewhere p clock w (.obj ms) = guarded (x.map (·.1)) := by
    rw [runElsewhere, Json.orEmpty_obj]
    simp only [hnet]
  rw [World.run, ← helsewhere]
  unfold networkHandler at hx
  unfold runProbe
  dsimp only
  rw [hkind]
  split at hx
  case h_7 => cases hx
  all_goals
    next hk =>
      rw [hk]
      rfl

/-- The runs of the probes that read what is stored. -/
theorem run_stored {x : Except PyError Answer}
    (hx : storedHandler p clock w ms kind = some x) :
    w.run p clock (.obj ms) = guarded x ∧ networkTrace p w ms = none := by
  rw [networkTrace_eq hkind, World.run]
  unfold runProbe
  dsimp only
  rw [hkind, runElsewhere, Json.orEmpty_obj]
  dsimp only
  rw [networkTrace_eq hkind]
  unfold runStored
  rw [hkind]
  unfold storedHandler at hx
  split at hx
  case h_21 => cases hx
  all_goals
    obtain rfl := Option.some.inj hx
    exact ⟨rfl, rfl⟩

theorem agrees_of_faults (hinternet : kind ≠ "internet")
    (h : ∀ w : World, w.WellFormed p → (¬ Fault p clock w (.obj ms) ↔ P)) :
    ProbeAgrees p clock ms ↔ P := by
  constructor
  · intro hagrees
    exact (h .silent wellFormed_silent).mp (hagrees.noFault _ wellFormed_silent)
  · intro hP
    refine ⟨fun w hw => (h w hw).mpr hP, fun heq => ?_⟩
    exact (hinternet (Json.str.inj (hkind.symm.trans heq))).elim

/-- A probe that asks the network. -/
theorem agrees_of_network {x : World → Traced} (hinternet : kind ≠ "internet")
    (hx : ∀ w, networkHandler p w ms (.str kind) = some (x w))
    (h : ∀ w, Yields Tried (x w) ↔ P) : ProbeAgrees p clock ms ↔ P :=
  agrees_of_faults hkind hinternet fun w _ =>
    (not_fault_of_network ((networkTrace_eq hkind).trans (hx w))
      (run_network hkind (hx w))).trans (h w)

/-- A probe that reads what is stored. -/
theorem agrees_of_stored {x : World → Except PyError Answer}
    (hinternet : kind ≠ "internet") (hx : ∀ w, storedHandler p clock w ms kind = some (x w))
    (h : ∀ w : World, w.WellFormed p → (Yields Blameless (x w) ↔ P)) :
    ProbeAgrees p clock ms ↔ P :=
  agrees_of_faults hkind hinternet fun w hw =>
    have hrun := run_stored hkind (hx w)
    (not_fault_of_stored hrun.2 hrun.1).trans (h w hw)

end

theorem internet_agrees (hkind : field ms "kind" = .str "internet")
    (h : Passes (validateInternet ms)) : ProbeAgrees p clock ms ↔ TargetsTried p ms := by
  have hrun : ∀ w : World,
      w.run p clock (.obj ms) = guarded ((probeInternet p w.net ms).map (·.1)) :=
    fun w => run_network hkind rfl
  have husable := usable_targetsOf (p := p) h
  have hused : ∀ t ∈ triedTargets ms, Usable p t := fun t ht => by
    rw [triedTargets_eq] at ht
    exact husable t ((List.take_sublist _ _).subset ht)
  have hfault : ∀ w, ¬ Fault p clock w (.obj ms) ↔
      ∀ t ∈ triedTargets ms, p.resolvable (address p t).1 := fun w =>
    (not_fault_of_network (networkTrace_eq hkind) (hrun w)).trans
      (tried_probeInternet hused triedTargets_ne)
  constructor
  · intro hagrees
    have hresolve := (hfault .silent).mp (hagrees.noFault _ wellFormed_silent)
    refine ⟨fun t ht host port htarget => ?_, fun t ht => ?_⟩
    · have hname := hresolve t ht
      rwa [htarget.address] at hname
    · obtain ⟨ok, details, hprobe, -, hok⟩ := probeInternet_eq World.silent.net hused hresolve
      obtain rfl := hok.mpr fun _ _ => rfl
      have hsilent : World.silent.run p clock (.obj ms) = .done false details := by
        rw [hrun, hprobe]
        rfl
      obtain ⟨answer, tried, hprobe', hall⟩ := hagrees.allTried hkind _ details hsilent
      cases hprobe.symm.trans hprobe'
      obtain ⟨host, port, htarget, hmem, -⟩ := hall t ht
      obtain ⟨t', ht', heq⟩ := List.mem_map.mp hmem
      obtain ⟨rfl, rfl⟩ := Attempt.tcp.inj heq
      exact ⟨t', ht', _, _, htarget, (hused t' ht').isTarget⟩
  · rintro ⟨hresolvable, hcovered⟩
    have hresolve : ∀ t ∈ triedTargets ms, p.resolvable (address p t).1 = true :=
      fun t ht => hresolvable t ht _ _ (hused t ht).isTarget
    refine ⟨fun w _ => (hfault w).mpr hresolve, fun _ w details hdone => ?_⟩
    obtain ⟨ok, details', hprobe, -, hok⟩ := probeInternet_eq w.net hused hresolve
    rw [hrun, hprobe] at hdone
    cases hdone
    refine ⟨_, _, hprobe, fun t ht => ?_⟩
    obtain ⟨t', ht', host, port, htarget, htarget'⟩ := hcovered t ht
    have hfailed := hok.mp rfl t' ht'
    rw [htarget'.address] at hfailed
    refine ⟨host, port, htarget, List.mem_map.mpr ⟨t', ht', ?_⟩, hfailed⟩
    rw [htarget'.address]

theorem strippable_of_raising {x : Json} {cs : List Char}
    (h : raising (strippedText x) = .ok cs) : Strippable x := by
  cases hx : strippedText x with
  | ok cs' => exact exists_strippedText.mp ⟨cs', hx⟩
  | error e =>
      rw [hx] at h
      cases h

theorem floats_of_ifPresent {name : String} {low high : Int}
    (h : Passes (ifPresent ms name (requireNumeric ms name low high))) :
    Floats (field ms name) := by
  rw [ifPresent] at h
  split at h
  · obtain ⟨x, hx⟩ := caught_threshold h
    intro hoverflow
    rw [hoverflow] at hx
    cases hx
  · next habsent =>
      rw [field_of_absent habsent]
      intro hoverflow
      cases hoverflow

theorem gateway_agrees (hkind : field ms "kind" = .str "gateway") : ProbeAgrees p clock ms := by
  refine (agrees_of_faults (P := True) hkind (by decide) fun w _ => ?_).mpr trivial
  refine iff_of_true ?_ trivial
  rintro ⟨details, hdone, -⟩
  rw [World.run] at hdone
  unfold runProbe at hdone
  dsimp only at hdone
  rw [hkind, runElsewhere, Json.orEmpty_obj] at hdone
  dsimp only at hdone
  rw [networkTrace_eq hkind] at hdone
  unfold runStored at hdone
  rw [hkind] at hdone
  cases hdone

/-- **Agreement.** An accepted probe agrees with the runtime exactly when its fields are what the
runtime takes them for. -/
theorem agrees_iff (p : Platform) (clock : Clock) (ms : List (String × Json))
    (h : validateProbe (.obj ms) = .ok ()) : ProbeAgrees p clock ms ↔ Matches p clock ms := by
  dsimp only [validateProbe] at h
  unfold Matches
  split at h
  case h_1 hk =>
    rw [hk]
    exact internet_agrees hk ⟨(), h⟩
  case h_2 hk =>
    rw [hk]
    exact agrees_of_network hk (by decide) (fun w => rfl) fun w => tried_probePing ⟨(), h⟩
  case h_3 hk =>
    obtain ⟨u, hhost, hport⟩ := bind_eq_ok h
    rw [hk]
    exact agrees_of_network hk (by decide) (fun w => rfl) fun w =>
      tried_probeConnect ⟨u, hhost⟩ (exists_port ⟨(), hport⟩)
  case h_4 hk =>
    rw [hk]
    exact agrees_of_network hk (by decide) (fun w => rfl) fun w => tried_probeHttp ⟨(), h⟩
  case h_5 hk =>
    rw [hk]
    exact agrees_of_network hk (by decide) (fun w => rfl) fun w => tried_asked ⟨(), h⟩
  case h_6 hk =>
    rw [hk]
    exact iff_of_true (gateway_agrees hk) trivial
  case h_7 hk =>
    obtain ⟨u, h₁, h₂⟩ := bind_eq_ok h
    rw [hk]
    exact agrees_of_stored hk (by decide) (fun w => rfl) fun w hw =>
      blameless_probeRokuAppActive hw ⟨u, h₁⟩ ⟨(), h₂⟩
  case h_8 hk =>
    obtain ⟨u, h₁, h⟩ := bind_eq_ok h
    obtain ⟨v, h₂, h₃⟩ := bind_eq_ok h
    rw [hk]
    exact agrees_of_stored hk (by decide) (fun w => rfl) fun w hw =>
      blameless_probeHaStateIs ⟨u, h₁⟩ ⟨v, h₂⟩ ⟨(), h₃⟩
  case h_9 hk =>
    obtain ⟨u, h₁, h⟩ := bind_eq_ok h
    obtain ⟨severity, h₂, -⟩ := bind_eq_ok h
    rw [hk]
    exact agrees_of_stored hk (by decide) (fun w => rfl) fun w hw =>
      blameless_probeWeatherAlertActive ⟨u, h₁⟩ (strippable_of_raising h₂)
  case h_10 hk =>
    rw [hk]
    exact agrees_of_stored hk (by decide) (fun w => rfl) fun w hw =>
      blameless_probeIcalEventActive hw ⟨(), h⟩
  case h_11 hk =>
    obtain ⟨u, h₁, h⟩ := bind_eq_ok h
    obtain ⟨v, h₂, h₃⟩ := bind_eq_ok h
    rw [hk]
    exact agrees_of_stored hk (by decide) (fun w => rfl) fun w hw =>
      blameless_probePower ⟨u, h₁⟩ (fun _ => ⟨v, h₂⟩) fun hn => (hn (by decide)).elim
  case h_12 hk =>
    obtain ⟨u, h₁, h⟩ := bind_eq_ok h
    obtain ⟨v, h₂, h₃⟩ := bind_eq_ok h
    rw [hk]
    exact agrees_of_stored hk (by decide) (fun w => rfl) fun w hw =>
      blameless_probePower ⟨u, h₁⟩ (fun _ => ⟨v, h₂⟩) fun hn => (hn (by decide)).elim
  case h_13 hk =>
    obtain ⟨u, h₁, h⟩ := bind_eq_ok h
    obtain ⟨v, h₂, h₃⟩ := bind_eq_ok h
    have hzero := floats_of_ifPresent ⟨v, h₂⟩
    rw [hk]
    exact agrees_of_stored hk (by decide) (fun w => rfl) fun w hw =>
      blameless_probePower ⟨u, h₁⟩ (fun hn => (not_or.mpr (by decide) hn).elim) fun _ => hzero
  case h_14 hk =>
    obtain ⟨u, h₁, h₂⟩ := bind_eq_ok h
    rw [hk]
    exact agrees_of_stored hk (by decide) (fun w => rfl) fun w hw =>
      blameless_probeDeviceHeartbeatStale ⟨u, h₁⟩
  case h_15 hk =>
    obtain ⟨u, h₁, h⟩ := bind_eq_ok h
    obtain ⟨v, h₂, h₃⟩ := bind_eq_ok h
    rw [hk]
    exact agrees_of_stored hk (by decide) (fun w => rfl) fun w hw =>
      blameless_probeHaNumeric hw ⟨u, h₁⟩ ⟨v, h₂⟩ ⟨(), h₃⟩
  case h_16 hk =>
    obtain ⟨u, h₁, h⟩ := bind_eq_ok h
    obtain ⟨v, h₂, h₃⟩ := bind_eq_ok h
    rw [hk]
    exact agrees_of_stored hk (by decide) (fun w => rfl) fun w hw =>
      blameless_probeHaNumeric hw ⟨u, h₁⟩ ⟨v, h₂⟩ ⟨(), h₃⟩
  case h_17 hk =>
    obtain ⟨u, h₁, h₂⟩ := bind_eq_ok h
    rw [hk]
    exact agrees_of_stored hk (by decide) (fun w => rfl) fun w hw =>
      blameless_probeSolar hw ⟨u, h₁⟩ ⟨(), h₂⟩
  case h_18 hk =>
    obtain ⟨u, h₁, h₂⟩ := bind_eq_ok h
    rw [hk]
    exact agrees_of_stored hk (by decide) (fun w => rfl) fun w hw =>
      blameless_probeSolar hw ⟨u, h₁⟩ ⟨(), h₂⟩
  case h_19 hk =>
    obtain ⟨u, h₁, h₂⟩ := bind_eq_ok h
    rw [hk]
    exact agrees_of_stored hk (by decide) (fun w => rfl) fun w hw =>
      blameless_probeSnmpInterfaceDown hw ⟨u, h₁⟩ ⟨(), h₂⟩
  case h_20 hk =>
    obtain ⟨u, h₁, h⟩ := bind_eq_ok h
    obtain ⟨v, h₂, h₃⟩ := bind_eq_ok h
    rw [hk]
    exact agrees_of_stored hk (by decide) (fun w => rfl) fun w hw =>
      blameless_probeSnmpThroughput hw ⟨u, h₁⟩ ⟨v, h₂⟩ ⟨(), h₃⟩
  case h_21 hk =>
    obtain ⟨u, h₁, h⟩ := bind_eq_ok h
    obtain ⟨v, h₂, h₃⟩ := bind_eq_ok h
    rw [hk]
    exact agrees_of_stored hk (by decide) (fun w => rfl) fun w hw =>
      blameless_probeSnmpThroughput hw ⟨u, h₁⟩ ⟨v, h₂⟩ ⟨(), h₃⟩
  case h_22 hk =>
    obtain ⟨u, h₁, h⟩ := bind_eq_ok h
    obtain ⟨v, h₂, h₃⟩ := bind_eq_ok h
    rw [hk]
    exact agrees_of_stored hk (by decide) (fun w => rfl) fun w hw =>
      blameless_probeSnmpErrorRate hw ⟨u, h₁⟩ ⟨v, h₂⟩ ⟨(), h₃⟩
  case h_23 hk =>
    rw [hk]
    exact agrees_of_stored hk (by decide) (fun w => rfl) fun w hw =>
      blameless_probeMediaSessionActive hw ⟨(), h⟩
  case h_24 hk =>
    obtain ⟨u, h₁, h₂⟩ := bind_eq_ok h
    rw [hk]
    exact agrees_of_stored hk (by decide) (fun w => rfl) fun w hw =>
      blameless_probeWebhookFieldEquals ⟨u, h₁⟩ ⟨(), h₂⟩
  case h_25 hk =>
    obtain ⟨u, h₁, h₂⟩ := bind_eq_ok h
    rw [hk]
    exact agrees_of_stored hk (by decide) (fun w => rfl) fun w hw =>
      blameless_probeMqttTopicEquals hw ⟨u, h₁⟩ ⟨(), h₂⟩
  case h_26 hk =>
    rw [hk]
    exact agrees_of_stored hk (by decide) (fun w => rfl) fun w hw =>
      blameless_probeEpgShowAiring ⟨(), h⟩
  case h_27 hk =>
    obtain ⟨u, hhost, hport⟩ := bind_eq_ok h
    rw [hk]
    exact agrees_of_network hk (by decide) (fun w => rfl) fun w =>
      tried_probeConnect ⟨u, hhost⟩ (exists_optionalPort ⟨(), hport⟩)
  case h_28 => cases h

/-! ### A platform, and probes on it -/

/-- A platform with a ping program. -/
def plainPlatform : Platform where
  spell _ := "..."
  spell_ne _ := by decide
  resolvable s := s.length < 64
  hasPing := true
  launch _ _ := .runs
  fetchable s := "http".toList.isPrefixOf s.toList
  urljoin _ l := some l

/-- The first of January 2026, at noon. -/
def noon : Clock where
  now := seconds 1767268800
  low := by decide
  high := by decide

/-- A probe of a router's port. -/
def routerProbe : List (String × Json) :=
  [("kind", .str "tcp"), ("host", .str "router"), ("port", .int 80)]

theorem routerProbe_agrees :
    validateProbe (.obj routerProbe) = .ok () ∧ ProbeAgrees plainPlatform noon routerProbe :=
  ⟨rfl, (agrees_iff plainPlatform noon routerProbe rfl).mpr ⟨"router", rfl, rfl⟩⟩

/-- An internet probe of nine hosts. -/
def nineTargets : List (String × Json) :=
  [("kind", .str "internet"),
    ("targets", .arr (["192.0.2.1", "192.0.2.2", "192.0.2.3", "192.0.2.4", "192.0.2.5",
      "192.0.2.6", "192.0.2.7", "192.0.2.8", "192.0.2.9"].map fun host =>
        .obj [("host", .str host), ("port", .int 53)]))]

/-- The world in which the ninth host answers, and no other. -/
def ninthAnswers : World :=
  { World.silent with net := { World.silent.net with tcp := fun host _ => host == "192.0.2.9" } }

/-- A probe whose host is a number. -/
def numberedHost : List (String × Json) :=
  [("kind", .str "tcp"), ("host", .int 7), ("port", .int 80)]

/-- Nine targets are accepted, and the ninth is never tried; a host that is a number is accepted,
and its probe ends in an exception. -/
theorem disagrees :
    validateProbe (.obj nineTargets) = .ok () ∧
      (∃ details, ninthAnswers.run plainPlatform noon (.obj nineTargets) = .done false details) ∧
      ¬ ProbeAgrees plainPlatform noon nineTargets ∧
      validateProbe (.obj numberedHost) = .ok () ∧
      Fault plainPlatform noon ninthAnswers (.obj numberedHost) := by
  have hrun : ∃ details,
      ninthAnswers.run plainPlatform noon (.obj nineTargets) = .done false details := ⟨_, rfl⟩
  refine ⟨rfl, hrun, fun hagrees => ?_, rfl, _, rfl, .inl ⟨"probe_exception", by decide, rfl⟩⟩
  obtain ⟨details, hdone⟩ := hrun
  obtain ⟨answer, tried, -, hall⟩ := hagrees.allTried rfl ninthAnswers details hdone
  obtain ⟨host, port, htarget, -, hfailed⟩ :=
    hall (.obj [("host", .str "192.0.2.9"), ("port", .int 53)]) (by decide)
  cases htarget.address
  cases hfailed

end RebooterHub.Watchdog
