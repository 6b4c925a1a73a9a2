import RebooterHub.Watchdog.Conflicts
import RebooterHub.Watchdog.Probes

/-!
# Watchdog — Duplicates

The duplicate check of `detect_conflicts`, against what the two rules do.  The signatures it compares
are made from some of the fields; `watched` lists, for each kind of probe, the fields that say what
is watched and on which condition, with the value the runtime takes each for.

* `duplicates_sound_iff`: two rules told to be duplicates do the same exactly when they agree on the
  fields that the signatures leave out.
-/

namespace RebooterHub.Conflicts
open RebooterHub.Fallible
open RebooterHub.Watchdog (field isOneOf knownProbeKinds checkProbeKind checkTarget validateProbe
  validateAction intMember itemCommands floatJson)

/-! ### What a probe watches -/

/-- The members of an object. -/
def members : Json → List (String × Json)
  | .obj ms => ms
  | _ => []

/-- The kind of a probe. -/
def kindOf (probe : Json) : String :=
  match field (members probe) "kind" with
  | .str kind => kind
  | _ => ""

/-- A field of a probe, with the value that the runtime takes it for. -/
structure Watched where
  name : String
  read : Json → Json

/-- A field that is taken as it is. -/
def plain (name : String) : Watched := ⟨name, id⟩

/-- `(x or default).strip()`. -/
def strippedOr (default : String) : Json → Json
  | .str s => if s = "" then .str default else .str (Text.stripped s)
  | x => if x.truthy then x else .str default

/-- A text that is compared without regard to case. -/
def foldedOr (default : String) (x : Json) : Json :=
  match strippedOr default x with
  | .str s => .str (String.ofList (Text.lower s.toList))
  | x => x

/-- `str(x).strip()`, compared without regard to case. -/
def textValue (env : Surroundings) (x : Json) : Json :=
  .str (String.ofList (Text.lower (Text.strip (env.text x).toList)))

/-- `str(x or "").strip()`, compared without regard to case. -/
def expectedState (env : Surroundings) (x : Json) : Json :=
  textValue env (if x.truthy then x else .str "")

/-- `str(x if x is not None else "").strip()`, compared without regard to case. -/
def expectedText (env : Surroundings) (x : Json) : Json :=
  textValue env (if x = .null then .str "" else x)

/-- `int(x or default)`. -/
def intOr (default : Int) (x : Json) : Json :=
  match (if x.truthy then x else .int default).toInt with
  | .ok n => .int n
  | .error _ => .int default

/-- `float(x)`. -/
def numberOf (x : Json) : Json :=
  match x.toFloat with
  | .ok q => floatJson q
  | .error _ => x

/-- The fields that identify what a probe of a kind watches, and its thresholds; those of an
internet probe are its targets. -/
def watched (env : Surroundings) (kind : String) : List Watched :=
  match kind with
  | "ping" => [plain "host"]
  | "tcp" => [plain "host", plain "port"]
  | "host_awake" => [plain "host", ⟨"port", intOr 22⟩]
  | "http" => [plain "url"]
  | "dns" => [plain "hostname"]
  | "roku_app_active" => [plain "source_id", plain "app_name"]
  | "ha_state_is" => [plain "source_id", plain "entity_id", ⟨"expected_state", expectedState env⟩]
  | "ha_numeric_above" | "ha_numeric_below" =>
    [plain "source_id", plain "entity_id", ⟨"attribute", strippedOr ""⟩, ⟨"threshold", numberOf⟩]
  | "weather_alert_active" =>
    [plain "source_id", ⟨"event_contains", foldedOr ""⟩, ⟨"min_severity", foldedOr ""⟩]
  | "ical_event_active" => [plain "source_id", ⟨"summary_contains", foldedOr ""⟩]
  | "power_above" | "power_below" =>
    [plain "device_id", plain "threshold_w", ⟨"window_seconds", intOr 300⟩]
  | "power_zero_while_on" =>
    [plain "device_id", plain "near_zero_threshold_w", ⟨"window_seconds", intOr 300⟩]
  | "solar_production_above" | "solar_production_below" =>
    [plain "source_id", ⟨"threshold_w", numberOf⟩]
  | "snmp_interface_down" => [plain "source_id", plain "interface"]
  | "snmp_throughput_above" | "snmp_throughput_below" =>
    [plain "source_id", plain "interface", ⟨"direction", foldedOr "total"⟩,
      ⟨"threshold_bps", numberOf⟩]
  | "snmp_error_rate_above" =>
    [plain "source_id", plain "interface", ⟨"threshold_errors_per_min", numberOf⟩]
  | "media_session_active" => [plain "source_id"]
  | "webhook_field_equals" => [plain "source_id", plain "field", ⟨"expected", expectedText env⟩]
  | "mqtt_topic_equals" => [plain "source_id", plain "topic", ⟨"expected_value", expectedText env⟩]
  | "epg_show_airing" => [plain "show", ⟨"network", foldedOr ""⟩]
  | "device_heartbeat_stale" => [plain "device_id", ⟨"max_age_seconds", intOr 300⟩]
  | _ => []

/-- Two probes agree on a field. -/
def Watched.Agree (w : Watched) (p q : Json) : Prop :=
  (w.read (field (members q) w.name)).same (w.read (field (members p) w.name)) = true

instance (w : Watched) (p q : Json) : Decidable (w.Agree p q) := inferInstanceAs (Decidable (_ = true))

/-- The hosts and ports of an internet probe. -/
def targetPairs (env : Surroundings) (probe : Json) : Except PyError (List (String × Int)) := do
  let targets ← (field (members probe) "targets").orNil.iter
  return (← targets.mapM (targetPair env)).reduceOption

/-- Two sets of targets are the same, whatever their order. -/
def SameTargets (env : Surroundings) (p q : Json) : Prop :=
  ∃ ps qs, targetPairs env p = .ok ps ∧ targetPairs env q = .ok qs ∧ ps.Perm qs

/-- Two probes watch the same thing under the same condition. -/
def SameWatch (env : Surroundings) (p q : Json) : Prop :=
  kindOf p = kindOf q ∧ (∀ w ∈ watched env (kindOf p), w.Agree p q) ∧
    (kindOf p = "internet" → SameTargets env p q)

/-! ### What a rule acts on, and how -/

/-- Two targets name the same device, group or tag. -/
def SameTarget (t u : Json) : Prop :=
  field (members t) "kind" = field (members u) "kind" ∧
    if field (members t) "kind" = .str "tag" then
      field (members t) "tag" = field (members u) "tag"
    else field (members t) "id" = field (members u) "id"

/-- What a leaf action does: the settings of a cycle, the scene that is saved or the commands of the
inline items, or nothing but its kind. -/
inductive LeafEffect where
  | cycle (powerOff holdoff : Except PyError Int)
  | savedScene (id : Json)
  | steps (commands : List (String × List (String × Json)))
  | other (kind : Json)

/-- The device and the commands of an inline scene item. -/
def sceneStep (env : Surroundings) (item : Json) : String × List (String × Json) :=
  let did := field (members item) "device_id"
  (if did.truthy then Text.stripped (env.text did) else "", itemCommands (members item))

/-- The commands of the inline items. -/
def sceneSteps (env : Surroundings) (ms : List (String × Json)) :
    List (String × List (String × Json)) :=
  match field ms "items" with
  | .arr items => items.map (sceneStep env)
  | _ => []

/-- The effect of a leaf action. -/
def leafEffect (env : Surroundings) (ms : List (String × Json)) : LeafEffect :=
  let kind := field ms "kind"
  if kind = .str "cycle" then
    .cycle (intMember (.obj ms) "power_off_seconds" 5)
      (intMember (.obj ms) "post_reboot_holdoff_seconds" 180)
  else if kind = .str "apply_scene" then
    if (field ms "scene_id").truthy then .savedScene (field ms "scene_id")
    else .steps (sceneSteps env ms)
  else .other kind

/-- The members of a binding's edge. -/
def edgeMembers (action : Json) (edge : String) : List (String × Json) :=
  members (field (members action) edge)

/-- The effect of an action, on each of its edges. -/
def actionEffect (env : Surroundings) (action : Json) : List LeafEffect :=
  if field (members action) "kind" = .str "binding" then
    [leafEffect env (edgeMembers action "on_active"), leafEffect env (edgeMembers action "on_clear")]
  else [leafEffect env (members action)]

/-- Two rules do the same. -/
def SameRule (env : Surroundings) (a b : RuleShape) : Prop :=
  SameWatch env a.probe b.probe ∧ SameTarget a.target b.target ∧
    actionEffect env a.action = actionEffect env b.action

/-! ### What the signatures leave out -/

/-- The fields of a probe in its signature. -/
def signatureFields (kind : String) : List String :=
  match kind with
  | "internet" | "gateway" => []
  | "ping" => ["host"]
  | "tcp" => ["host", "port"]
  | "http" => ["url"]
  | "dns" => ["hostname"]
  | "power_above" | "power_below" | "power_zero_while_on" =>
    ["device_id", "threshold_w", "near_zero_threshold_w"]
  | _ => ["source_id", "entity_id", "app_name", "topic", "field", "interface", "show"]

/-- A member is there. -/
def has (ms : List (String × Json)) (name : String) : Bool := (ms.lookup name).isSome

/-- Two leaf actions of one kind agree on what no signature has: the hold-off of a cycle and the
inline items of a scene. -/
def LeavesAgree (env : Surroundings) (a b : List (String × Json)) : Prop :=
  (field a "kind" = .str "cycle" →
    intMember (.obj a) "post_reboot_holdoff_seconds" 180 =
      intMember (.obj b) "post_reboot_holdoff_seconds" 180) ∧
  (field a "kind" = .str "apply_scene" → field a "scene_id" = .null →
    sceneSteps env a = sceneSteps env b)

/-- Two edges of bindings agree on what their signature leaves out: the power-off time as well. -/
def EdgesAgree (env : Surroundings) (a b : List (String × Json)) : Prop :=
  LeavesAgree env a b ∧
    (field a "kind" = .str "cycle" →
      intMember (.obj a) "power_off_seconds" 5 = intMember (.obj b) "power_off_seconds" 5)

/-- Two actions agree on what the signature of an action leaves out.  It takes a missing power-off
time, which stands for 5 seconds, for the same as an explicit `None`. -/
def ActionsAgree (env : Surroundings) (a b : Json) : Prop :=
  if field (members a) "kind" = .str "binding" then
    EdgesAgree env (edgeMembers a "on_active") (edgeMembers b "on_active") ∧
      EdgesAgree env (edgeMembers a "on_clear") (edgeMembers b "on_clear")
  else
    LeavesAgree env (members a) (members b) ∧
      (field (members a) "kind" = .str "cycle" →
        has (members a) "power_off_seconds" = has (members b) "power_off_seconds")

/-- Two rules agree on what the signatures leave out. -/
structure OmittedAgree (env : Surroundings) (a b : RuleShape) : Prop where
  probe : ∀ w ∈ watched env (kindOf a.probe), w.name ∉ signatureFields (kindOf a.probe) →
    w.Agree a.probe b.probe
  tag : field (members a.target) "kind" = .str "tag" →
    field (members a.target) "tag" = field (members b.target) "tag"
  action : ActionsAgree env a.action b.action

/-- The validators accept a rule's probe, target and action. -/
structure Accepted (r : RuleShape) : Prop where
  kind : checkProbeKind r.probe = .ok ()
  probe : validateProbe r.probe = .ok ()
  target : checkTarget r.target = .ok ()
  action : validateAction r.action = .ok ()

/-- The rule `a`, proposed where the rule `b` is, is told to duplicate it. -/
def ReportsDuplicate (env : Surroundings) (a b : RuleShape) : Prop :=
  ∃ findings, detectConflicts env [b] a none = .ok findings ∧
    ∃ f ∈ findings, f.kind = .duplicateRule

/-! ### Signatures of accepted rules -/

section
variable {env : Surroundings} {a b r : RuleShape} {ms : List (String × Json)} {kind : String}
  {signature : Json}

/-- An object with a member that is not null is its own `x or {}`. -/
theorem orEmpty_of_field (name : String) (h : field ms name ≠ .null) :
    (Json.obj ms).orEmpty = .obj ms := by
  cases ms with
  | nil => exact absurd rfl h
  | cons m ms => rfl

theorem sameArr_map {names : List String} {f g : String → Json} :
    Json.sameArr (names.map f) (names.map g) = true ↔ ∀ n ∈ names, (f n).same (g n) = true := by
  induction names with
  | nil => simp [Json.sameArr]
  | cons n names ih => simp [Json.sameArr, ih]

theorem probeSignature_of_kind (hkind : field ms "kind" = .str kind)
    (hknown : kind ∈ knownProbeKinds) (hinternet : kind ≠ "internet") :
    probeSignature env (.obj ms) =
      .ok (.arr (.str kind :: (signatureFields kind).map (field ms))) := by
  have hself : (Json.obj ms).orEmpty = .obj ms := orEmpty_of_field "kind" (by simp [hkind])
  have hget : ∀ name, (Json.obj ms).get name = .ok (field ms name) := fun name => rfl
  rw [probeSignature, hself]
  simp only [hget, hkind, ok_bind, Json.str.injEq, isOneOf, List.any_cons, List.any_nil,
    Bool.or_false, Bool.or_eq_true, decide_eq_true_eq]
  simp only [knownProbeKinds, List.mem_cons, List.not_mem_nil, or_false] at hknown
  rcases hknown with rfl | rfl | rfl | rfl | rfl | rfl | rfl | rfl | rfl | rfl | rfl | rfl | rfl |
    rfl | rfl | rfl | rfl | rfl | rfl | rfl | rfl | rfl | rfl | rfl | rfl | rfl | rfl
  · exact absurd rfl hinternet
  all_goals rfl

/-- A pair in the signature of an internet probe. -/
def pairJson (p : String × Int) : Json := .arr [.str p.1, .int p.2]

theorem probeSignature_internet (hkind : field ms "kind" = .str "internet") :
    probeSignature env (.obj ms) = (targetPairs env (.obj ms)).map fun pairs =>
      .arr [.str "internet", .arr ((pairs.insertionSort PairLe).map pairJson)] := by
  have hself : (Json.obj ms).orEmpty = .obj ms := orEmpty_of_field "kind" (by simp [hkind])
  have hget : ∀ name, (Json.obj ms).get name = .ok (field ms name) := fun name => rfl
  rw [probeSignature, hself, targetPairs, members]
  simp only [hget, hkind, ok_bind, if_pos]
  cases (field ms "targets").orNil.iter with
  | error e => rfl
  | ok targets =>
      rw [ok_bind, ok_bind]
      cases targets.mapM (targetPair env) with
      | error e => rfl
      | ok pairs => rfl

theorem sameArr_pairs {ps qs : List (String × Int)} :
    Json.sameArr (ps.map pairJson) (qs.map pairJson) = true ↔ ps = qs := by
  induction ps generalizing qs with
  | nil => cases qs <;> simp [Json.sameArr]
  | cons p ps ih =>
      cases qs with
      | nil => simp [Json.sameArr]
      | cons q qs =>
          have hpair : (pairJson p).same (pairJson q) = true ↔ p = q := by
            simp only [pairJson, Json.same, Json.sameArr, Json.number, Bool.and_true,
              Bool.and_eq_true, decide_eq_true_eq, Option.some.injEq, Int.cast_inj, Prod.ext_iff]
            exact and_congr_right fun _ => eq_comm
          simp [Json.sameArr, ih, hpair]

/-- An accepted probe is an object of a known kind. -/
theorem Accepted.probe_obj (h : Accepted r) :
    ∃ ms kind, r.probe = .obj ms ∧ field ms "kind" = .str kind ∧ kind ∈ knownProbeKinds := by
  have hkind := h.kind
  cases hprobe : r.probe with
  | obj ms =>
      rw [hprobe, checkProbeKind] at hkind
      split at hkind
      · next hknown =>
          obtain ⟨kind, hmem, hfield⟩ := List.any_eq_true.mp hknown
          exact ⟨ms, kind, rfl, of_decide_eq_true hfield, hmem⟩
      · cases hkind
  | null | bool x | int n | float q | str s | arr xs =>
      rw [hprobe] at hkind
      cases hkind

/-- What equal signatures say of two accepted probes. -/
theorem probes_of_same (ha : Accepted a) (hb : Accepted b) {s t : Json}
    (hs : probeSignature env a.probe.orEmpty = .ok s) (ht : probeSignature env b.probe.orEmpty = .ok t)
    (hsame : t.same s = true) :
    kindOf a.probe = kindOf b.probe ∧
      (∀ n ∈ signatureFields (kindOf a.probe),
        (field (members b.probe) n).same (field (members a.probe) n) = true) ∧
      (kindOf a.probe = "internet" → SameTargets env a.probe b.probe) := by
  obtain ⟨p, k, hp, hk, hknown⟩ := ha.probe_obj
  obtain ⟨q, l, hq, hl, hknown'⟩ := hb.probe_obj
  have hself : (Json.obj p).orEmpty = .obj p := orEmpty_of_field "kind" (by simp [hk])
  have hself' : (Json.obj q).orEmpty = .obj q := orEmpty_of_field "kind" (by simp [hl])
  have hkp : kindOf (.obj p) = k := by simp [kindOf, members, hk]
  have hkq : kindOf (.obj q) = l := by simp [kindOf, members, hl]
  rw [hp, hself] at hs
  rw [hq, hself'] at ht
  rw [hp, hq, hkp, hkq]
  by_cases hi : k = "internet"
  · by_cases hj : l = "internet"
    · subst hi hj
      rw [probeSignature_internet hk] at hs
      rw [probeSignature_internet hl] at ht
      obtain ⟨ps, hps, rfl⟩ := map_eq_ok hs
      obtain ⟨qs, hqs, rfl⟩ := map_eq_ok ht
      refine ⟨rfl, nofun, fun _ => ⟨ps, qs, hps, hqs, ?_⟩⟩
      have hsorted : qs.insertionSort PairLe = ps.insertionSort PairLe := by
        simpa [Json.same, Json.sameArr, sameArr_pairs] using hsame
      exact ((ps.perm_insertionSort PairLe).symm.trans (hsorted ▸ .refl _)).trans
        (qs.perm_insertionSort PairLe)
    · subst hi
      rw [probeSignature_internet hk] at hs
      rw [probeSignature_of_kind hl hknown' hj] at ht
      obtain ⟨ps, -, rfl⟩ := map_eq_ok hs
      obtain rfl := Except.ok.inj ht
      simp only [Json.same, Json.sameArr, Bool.and_eq_true, decide_eq_true_eq] at hsame
      exact absurd hsame.1 hj
  · rw [probeSignature_of_kind hk hknown hi] at hs
    obtain rfl := Except.ok.inj hs
    by_cases hj : l = "internet"
    · subst hj
      rw [probeSignature_internet hl] at ht
      obtain ⟨qs, -, rfl⟩ := map_eq_ok ht
      simp only [Json.same, Json.sameArr, Bool.and_eq_true, decide_eq_true_eq] at hsame
      exact absurd hsame.1.symm hi
    · rw [probeSignature_of_kind hl hknown' hj] at ht
      obtain rfl := Except.ok.inj ht
      simp only [Json.same, Json.sameArr, Bool.and_eq_true, decide_eq_true_eq] at hsame
      obtain ⟨rfl, hfields⟩ := hsame
      exact ⟨rfl, sameArr_map.mp hfields, fun h => absurd h hi⟩

/-- A field of a known kind that its signature has is taken as it is. -/
theorem read_of_signed (hknown : kind ∈ knownProbeKinds) :
    ∀ w ∈ watched env kind, w.name ∈ signatureFields kind → w.read = id := by
  simp only [knownProbeKinds, List.mem_cons, List.not_mem_nil, or_false] at hknown
  rcases hknown with rfl | rfl | rfl | rfl | rfl | rfl | rfl | rfl | rfl | rfl | rfl | rfl | rfl |
    rfl | rfl | rfl | rfl | rfl | rfl | rfl | rfl | rfl | rfl | rfl | rfl | rfl | rfl
  all_goals simp [watched, signatureFields, plain]

/-- Two accepted probes with equal signatures watch the same when they agree on what is left out. -/
theorem sameWatch_iff (ha : Accepted a) (hb : Accepted b) {s t : Json}
    (hs : probeSignature env a.probe.orEmpty = .ok s) (ht : probeSignature env b.probe.orEmpty = .ok t)
    (hsame : t.same s = true) :
    SameWatch env a.probe b.probe ↔ ∀ w ∈ watched env (kindOf a.probe),
      w.name ∉ signatureFields (kindOf a.probe) → w.Agree a.probe b.probe := by
  obtain ⟨hkind, hsigned, htargets⟩ := probes_of_same ha hb hs ht hsame
  obtain ⟨p, k, hp, hk, hknown⟩ := ha.probe_obj
  have hkp : kindOf a.probe = k := by simp [hp, kindOf, members, hk]
  constructor
  · rintro ⟨-, hagree, -⟩ w hw -
    exact hagree w hw
  · intro homitted
    refine ⟨hkind, fun w hw => ?_, htargets⟩
    by_cases hname : w.name ∈ signatureFields (kindOf a.probe)
    · rw [Watched.Agree, read_of_signed (hkp ▸ hknown) w hw hname]
      exact hsigned w.name hname
    · exact homitted w hw hname

/-! ### Targets -/

/-- What has a text left when it is stripped is a text. -/
theorem text_of_strippedText {x : Json} {cs : List Char}
    (h : Watchdog.strippedText x = .ok cs) (hne : ¬cs.isEmpty) : ∃ s, x = .str s ∧ s ≠ "" := by
  cases x with
  | str s =>
      refine ⟨s, rfl, ?_⟩
      rintro rfl
      obtain rfl := Except.ok.inj h
      exact absurd rfl hne
  | null =>
      obtain rfl := Except.ok.inj h
      exact absurd rfl hne
  | bool y | int n | float q | arr xs | obj ms =>
      rw [Watchdog.strippedText] at h
      · split at h
        · cases h
        · obtain rfl := Except.ok.inj h
          exact absurd rfl hne
      · nofun

theorem raising_eq_ok {α : Type} {x : Except PyError α} {y : α}
    (h : Watchdog.raising x = .ok y) : x = .ok y := by
  cases x with
  | error e => cases h
  | ok z => exact congrArg Except.ok (Except.ok.inj h)

/-- An accepted target names a device or group by its id, or a tag. -/
theorem Accepted.target_obj (h : Accepted r) :
    ∃ ms kind, r.target = .obj ms ∧ field ms "kind" = .str kind ∧
      (kind ≠ "tag" → ∃ id, field ms "id" = .str id ∧ id ≠ "") := by
  have htarget := h.target
  cases hobj : r.target with
  | obj ms =>
      rw [hobj, checkTarget] at htarget
      dsimp only at htarget
      split at htarget
      · cases htarget
      · next hknown =>
          rw [Bool.not_eq_true', Bool.not_eq_false] at hknown
          obtain ⟨kind, hmem, hkind⟩ := List.any_eq_true.mp hknown
          refine ⟨ms, kind, rfl, of_decide_eq_true hkind, fun htag => ?_⟩
          have hnamed : isOneOf (field ms "kind") ["device", "group"] := by
            rw [of_decide_eq_true hkind]
            simp only [List.mem_cons, List.not_mem_nil, or_false] at hmem
            rcases hmem with rfl | rfl | rfl
            · rfl
            · rfl
            · exact absurd rfl htag
          rw [if_pos hnamed] at htarget
          obtain ⟨cs, hcs, htarget⟩ := bind_eq_ok htarget
          split at htarget
          · cases htarget
          · next hne => exact text_of_strippedText (raising_eq_ok hcs) hne
  | null | bool x | int n | float q | str s | arr xs =>
      rw [hobj] at htarget
      cases htarget

/-- `target.get("id") or target.get("tag")`. -/
def idOrTag (target : Json) : Json :=
  if (field (members target) "id").truthy then field (members target) "id"
  else field (members target) "tag"

theorem idOrTag_of_id {id : String} (h : field ms "id" = .str id) (hne : id ≠ "") :
    idOrTag (.obj ms) = .str id := by
  have hid : field (members (.obj ms)) "id" = .str id := h
  have htruthy : (Json.str id).truthy = true := by simp [Json.truthy, hne]
  rw [idOrTag, hid, if_pos htruthy]

/-- Two accepted targets that the signatures take for the same are, but for their tags. -/
theorem sameTarget_iff (ha : Accepted a) (hb : Accepted b)
    (hkind : (field (members b.target) "kind").same (field (members a.target) "kind") = true)
    (hid : (idOrTag b.target).same (idOrTag a.target) = true) :
    SameTarget a.target b.target ↔ (field (members a.target) "kind" = .str "tag" →
      field (members a.target) "tag" = field (members b.target) "tag") := by
  obtain ⟨t, k, ht, hk, hta⟩ := ha.target_obj
  obtain ⟨u, l, hu, hl, htb⟩ := hb.target_obj
  have hkt : field (members a.target) "kind" = .str k := by rw [ht]; exact hk
  have hlu : field (members b.target) "kind" = .str l := by rw [hu]; exact hl
  rw [hkt, hlu, Json.same_str, decide_eq_true_eq] at hkind
  obtain rfl := Json.str.inj hkind
  rw [SameTarget, hkt, hlu]
  by_cases htag : l = "tag"
  · subst htag
    simp
  · obtain ⟨i, hi, hine⟩ := hta htag
    obtain ⟨j, hj, hjne⟩ := htb htag
    rw [ht, hu, idOrTag_of_id hi hine, idOrTag_of_id hj hjne, Json.same_str,
      decide_eq_true_eq] at hid
    have hij : field (members a.target) "id" = field (members b.target) "id" := by
      rw [ht, hu]
      exact hi.trans (hid.symm.trans hj.symm)
    simp [htag, hij]

/-! ### Actions -/

/-- An accepted leaf action has a kind, and a scene of one that is saved is named by a text. -/
theorem leaf_of_validateLeaf {path : String} (h : Watchdog.validateLeaf path ms = .ok ()) :
    (∃ kind, field ms "kind" = .str kind) ∧
      (field ms "kind" = .str "apply_scene" →
        field ms "scene_id" = .null ∨ ∃ id, field ms "scene_id" = .str id ∧ id ≠ "") := by
  rw [Watchdog.validateLeaf] at h
  split at h
  · cases h
  · next hknown =>
      rw [Bool.not_eq_true', Bool.not_eq_false] at hknown
      obtain ⟨kind, -, hkind⟩ := List.any_eq_true.mp hknown
      refine ⟨⟨kind, of_decide_eq_true hkind⟩, fun hscene => ?_⟩
      rw [if_neg (not_not.mpr hscene), Watchdog.validateScene] at h
      split at h
      · next hnull => exact .inl hnull
      · next id hid =>
          refine .inr ⟨id, hid, ?_⟩
          rintro rfl
          cases h
      · cases h

theorem leaf_of_validateEdge {path sub : String}
    (h : Watchdog.validateEdge path ms sub = .ok ()) :
    ∃ leaf, field ms sub = .obj leaf ∧ ∃ path, Watchdog.validateLeaf path leaf = .ok () := by
  rw [Watchdog.validateEdge] at h
  split at h
  · next leaf hleaf =>
      split at h
      · cases h
      · exact ⟨leaf, hleaf, _, h⟩
  · cases h

/-- An accepted action is a leaf, or a binding of two leaves. -/
theorem Accepted.action_obj (h : Accepted r) :
    ∃ ms, r.action = .obj ms ∧
      (field ms "kind" = .str "binding" ∧
          (∃ leaf, field ms "on_active" = .obj leaf ∧
            ∃ path, Watchdog.validateLeaf path leaf = .ok ()) ∧
          (∃ leaf, field ms "on_clear" = .obj leaf ∧
            ∃ path, Watchdog.validateLeaf path leaf = .ok ()) ∨
        field ms "kind" ≠ .str "binding" ∧ ∃ path, Watchdog.validateLeaf path ms = .ok ()) := by
  have haction := h.action
  cases hobj : r.action with
  | obj ms =>
      rw [hobj, validateAction] at haction
      refine ⟨ms, rfl, ?_⟩
      split at haction
      · next hbinding =>
          obtain ⟨_, hactive, hclear⟩ := bind_eq_ok haction
          exact .inl ⟨hbinding, leaf_of_validateEdge hactive, leaf_of_validateEdge hclear⟩
      · next hleaf => exact .inr ⟨hleaf, _, haction⟩
  | null | bool x | int n | float q | str s | arr xs =>
      rw [hobj] at haction
      cases haction

/-- `int` of a number cuts it towards zero. -/
theorem toInt_of_number {x : Json} {q : Rat} (h : x.number = some q) :
    x.toInt = .ok (if 0 ≤ q then q.floor else q.ceil) := by
  cases x with
  | bool b =>
      obtain rfl := Option.some_inj.mp h
      cases b <;> rfl
  | int n =>
      obtain rfl := Option.some_inj.mp h
      simp [Json.toInt]
  | float r =>
      obtain rfl := Option.some_inj.mp h
      rfl
  | null | str s | arr xs | obj ms => cases h

/-- What is equal is the same for `int`. -/
theorem toInt_of_same {x y : Json} (h : x.same y = true) : x.toInt = y.toInt := by
  cases hx : x.number with
  | some q =>
      rw [Json.same_of_number hx, decide_eq_true_eq] at h
      rw [toInt_of_number hx, toInt_of_number h]
  | none =>
      cases x with
      | null =>
          rw [Json.null_same, decide_eq_true_eq] at h
          rw [h]
      | str s =>
          rw [Json.str_same, decide_eq_true_eq] at h
          rw [h]
      | arr xs =>
          cases y with
          | arr ys => rfl
          | null | bool b | int n | float q | str s | obj ms => simp [Json.same] at h
      | obj ms =>
          cases y with
          | obj ns => rfl
          | null | bool b | int n | float q | str s | arr xs => simp [Json.same] at h
      | bool b | int n | float q => cases hx

/-- Two leaf actions of one kind that name the same scene have the same effect when they agree on
what no signature has and cycle for the same time. -/
theorem leafEffect_eq_iff {a b : List (String × Json)} {path : String}
    (ha : Watchdog.validateLeaf path a = .ok ())
    (hkind : (field b "kind").same (field a "kind") = true)
    (hscene : field a "kind" = .str "apply_scene" →
      (field b "scene_id").same (field a "scene_id") = true) :
    leafEffect env a = leafEffect env b ↔ EdgesAgree env a b := by
  obtain ⟨⟨k, hk⟩, hsaved⟩ := leaf_of_validateLeaf ha
  have hkb : field b "kind" = .str k := by
    rw [hk, Json.same_str, decide_eq_true_eq] at hkind
    exact hkind
  rw [leafEffect, leafEffect, EdgesAgree, LeavesAgree, hk, hkb]
  by_cases hcycle : k = "cycle"
  · subst hcycle
    simp [and_comm]
  · by_cases happly : k = "apply_scene"
    · subst happly
      have hid := hscene hk
      rcases hsaved hk with hnull | ⟨id, hidA, hne⟩
      · rw [hnull, Json.same_null, decide_eq_true_eq] at hid
        simp [hnull, hid, Json.truthy]
      · rw [hidA, Json.same_str, decide_eq_true_eq] at hid
        simp [hidA, hid, Json.truthy, hne]
    · simp [hcycle, happly]

/-- `get` of an edge of an accepted action. -/
theorem edgeItem_of_obj {leaf : List (String × Json)} {edge key : String}
    (hleaf : field ms edge = .obj leaf) :
    edgeItem (.obj ms) edge key = .ok (field leaf key) := by
  have hget : (Json.obj ms).get edge = .ok (.obj leaf) := congrArg Except.ok hleaf
  rw [edgeItem, hget, ok_bind]
  cases leaf with
  | nil => rfl
  | cons m leaf => rfl

/-- Equal members stand for the same number, where both are there or neither is. -/
theorem intMember_eq_iff {a b : List (String × Json)} {name : String} {default : Int}
    (h : (field b name).same (field a name) = true) :
    intMember (.obj a) name default = intMember (.obj b) name default ↔
      has a name = has b name := by
  rw [field, field] at h
  rw [intMember, intMember, has, has]
  cases ha : a.lookup name with
  | none =>
      cases hb : b.lookup name with
      | none => simp
      | some y =>
          rw [ha, hb, Option.getD_none, Option.getD_some, Json.same_null, decide_eq_true_eq] at h
          simp [h, Json.toInt]
  | some x =>
      cases hb : b.lookup name with
      | none =>
          rw [ha, hb, Option.getD_none, Option.getD_some, Json.null_same, decide_eq_true_eq] at h
          simp [h, Json.toInt]
      | some y =>
          rw [ha, hb, Option.getD_some, Option.getD_some] at h
          simp [toInt_of_same h]

/-- The rest of a leaf action's signature, after its kind. -/
def leafSignature (kind : String) (ms : List (String × Json)) : List Json :=
  if kind = "cycle" then [field ms "power_off_seconds"]
  else if kind = "apply_scene" then [field ms "scene_id"]
  else []

theorem actionSignature_leaf (hkind : field ms "kind" = .str kind) (hleaf : kind ≠ "binding") :
    actionSignature (.obj ms) = .ok (.arr (.str kind :: leafSignature kind ms)) := by
  have hself : (Json.obj ms).orEmpty = .obj ms := orEmpty_of_field "kind" (by simp [hkind])
  have hget : ∀ name, (Json.obj ms).get name = .ok (field ms name) := fun name => rfl
  rw [actionSignature, hself]
  simp only [hget, hkind, ok_bind, Json.str.injEq, leafSignature]
  by_cases hcycle : kind = "cycle"
  · subst hcycle
    rfl
  · by_cases hscene : kind = "apply_scene"
    · subst hscene
      rfl
    · simp only [if_neg hcycle, if_neg hscene, if_neg hleaf]
      rfl

theorem actionSignature_binding {active clear : List (String × Json)}
    (hkind : field ms "kind" = .str "binding") (hactive : field ms "on_active" = .obj active)
    (hclear : field ms "on_clear" = .obj clear) :
    actionSignature (.obj ms) = .ok (.arr [.str "binding", field active "kind",
      field active "scene_id", field clear "kind", field clear "scene_id"]) := by
  have hself : (Json.obj ms).orEmpty = .obj ms := orEmpty_of_field "kind" (by simp [hkind])
  have hget : (Json.obj ms).get "kind" = .ok (field ms "kind") := rfl
  rw [actionSignature, hself]
  simp only [hget, hkind, ok_bind, edgeItem_of_obj hactive, edgeItem_of_obj hclear]
  rfl

theorem edgeMembers_of_obj {edge : String} {leaf : List (String × Json)}
    (h : field ms edge = .obj leaf) : edgeMembers (.obj ms) edge = leaf := by
  rw [edgeMembers, members, h]
  rfl

theorem sameArr_cons {x y : Json} {xs ys : List Json} :
    (Json.arr (x :: xs)).same (.arr (y :: ys)) = true ↔
      x.same y = true ∧ (Json.arr xs).same (.arr ys) = true := by
  simp [Json.same, Json.sameArr]

/-- Two accepted actions with equal signatures have the same effect when they agree on what is
left out. -/
theorem actionEffect_eq_iff (ha : Accepted a) (hb : Accepted b) {s t : Json}
    (hs : actionSignature a.action.orEmpty = .ok s) (ht : actionSignature b.action.orEmpty = .ok t)
    (hsame : t.same s = true) :
    actionEffect env a.action = actionEffect env b.action ↔ ActionsAgree env a.action b.action := by
  obtain ⟨p, hp, hpa⟩ := ha.action_obj
  obtain ⟨q, hq, hqa⟩ := hb.action_obj
  rw [hp] at hs ⊢
  rw [hq] at ht ⊢
  have hmembers : ∀ ms, members (.obj ms) = ms := fun ms => rfl
  rcases hpa with ⟨hpk, ⟨pa, hpactive, _, hpav⟩, ⟨pc, hpclear, _, hpcv⟩⟩ | ⟨hpk, _, hpv⟩
  · rw [orEmpty_of_field "kind" (by simp [hpk]),
      actionSignature_binding hpk hpactive hpclear] at hs
    obtain rfl := Except.ok.inj hs
    rcases hqa with ⟨hqk, ⟨qa, hqactive, -, -⟩, ⟨qc, hqclear, -, -⟩⟩ | ⟨hqk, _, hqv⟩
    · rw [orEmpty_of_field "kind" (by simp [hqk]),
        actionSignature_binding hqk hqactive hqclear] at ht
      obtain rfl := Except.ok.inj ht
      simp only [sameArr_cons] at hsame
      obtain ⟨-, hka, hsa, hkc, hsc, -⟩ := hsame
      rw [actionEffect, actionEffect, ActionsAgree, hmembers, hmembers, if_pos hpk, if_pos hqk,
        if_pos hpk, edgeMembers_of_obj hpactive, edgeMembers_of_obj hpclear,
        edgeMembers_of_obj hqactive, edgeMembers_of_obj hqclear,
        ← leafEffect_eq_iff hpav hka fun _ => hsa, ← leafEffect_eq_iff hpcv hkc fun _ => hsc]
      simp
    · obtain ⟨⟨k, hk⟩, -⟩ := leaf_of_validateLeaf hqv
      have hne : k ≠ "binding" := fun h => hqk (hk.trans (congrArg Json.str h))
      rw [orEmpty_of_field "kind" (by simp [hk]), actionSignature_leaf hk hne] at ht
      obtain rfl := Except.ok.inj ht
      rw [sameArr_cons, Json.same_str, decide_eq_true_eq] at hsame
      exact absurd (Json.str.inj hsame.1) hne
  · obtain ⟨⟨k, hk⟩, -⟩ := leaf_of_validateLeaf hpv
    have hne : k ≠ "binding" := fun h => hpk (hk.trans (congrArg Json.str h))
    rw [orEmpty_of_field "kind" (by simp [hk]), actionSignature_leaf hk hne] at hs
    obtain rfl := Except.ok.inj hs
    rcases hqa with ⟨hqk, ⟨qa, hqactive, -, -⟩, ⟨qc, hqclear, -, -⟩⟩ | ⟨hqk, _, hqv⟩
    · rw [orEmpty_of_field "kind" (by simp [hqk]),
        actionSignature_binding hqk hqactive hqclear] at ht
      obtain rfl := Except.ok.inj ht
      rw [sameArr_cons, Json.str_same, decide_eq_true_eq] at hsame
      exact absurd (Json.str.inj hsame.1) hne
    · obtain ⟨⟨l, hl⟩, -⟩ := leaf_of_validateLeaf hqv
      have hne' : l ≠ "binding" := fun h => hqk (hl.trans (congrArg Json.str h))
      rw [orEmpty_of_field "kind" (by simp [hl]), actionSignature_leaf hl hne'] at ht
      obtain rfl := Except.ok.inj ht
      rw [sameArr_cons, Json.same_str, decide_eq_true_eq] at hsame
      obtain ⟨hkl, hrest⟩ := hsame
      obtain rfl := Json.str.inj hkl
      have hkind : (field q "kind").same (field p "kind") = true := by rw [hk, hl]; simp
      have hscene : field p "kind" = .str "apply_scene" →
          (field q "scene_id").same (field p "scene_id") = true := by
        intro h
        obtain rfl := Json.str.inj (hk.symm.trans h)
        exact (sameArr_cons.mp hrest).1
      have hpower : field p "kind" = .str "cycle" →
          (field q "power_off_seconds").same (field p "power_off_seconds") = true := by
        intro h
        obtain rfl := Json.str.inj (hk.symm.trans h)
        exact (sameArr_cons.mp hrest).1
      rw [actionEffect, actionEffect, ActionsAgree, hmembers, hmembers, if_neg hpk, if_neg hqk,
        if_neg hpk, List.cons.injEq, and_iff_left rfl, leafEffect_eq_iff hpv hkind hscene, EdgesAgree]
      exact and_congr_right fun _ => forall_congr' fun h => intMember_eq_iff (hpower h)

/-! ### Soundness -/

/-- A rule told to be a duplicate has the signature of the other. -/
theorem signatures_of_reportsDuplicate (h : ReportsDuplicate env a b) :
    ∃ s t, ruleSignature env a = .ok s ∧ ruleSignature env b = .ok t ∧ t.same s = true := by
  obtain ⟨findings, hfindings, f, hf, hkind⟩ := h
  obtain ⟨_, _, _, s, duplicates, _, _, hs, hduplicates, _, horigin⟩ :=
    detectConflicts_eq_ok hfindings
  obtain ⟨xs, hxs, hf⟩ := List.mem_flatten.mp ((horigin f hf).2 hkind)
  obtain ⟨r, hr, hchecked⟩ := mem_of_mapM hduplicates hxs
  obtain rfl := List.mem_singleton.mp hr
  obtain ⟨t, ht, hchecked⟩ := bind_eq_ok hchecked
  split at hchecked
  · next hsame => exact ⟨s, t, hs, ht, hsame⟩
  · obtain rfl := Except.ok.inj hchecked
    cases hf

/-- The signature of an accepted rule, by its parts. -/
theorem ruleSignature_eq_ok (ha : Accepted r) {s : Json} (hs : ruleSignature env r = .ok s) :
    ∃ probe action, probeSignature env r.probe.orEmpty = .ok probe ∧
      actionSignature r.action.orEmpty = .ok action ∧
      s = .arr [probe, action, field (members r.target) "kind", idOrTag r.target] := by
  obtain ⟨ms, kind, hobj, hkind, -⟩ := ha.target_obj
  obtain ⟨probe, hprobe, hs⟩ := bind_eq_ok hs
  obtain ⟨action, haction, hs⟩ := bind_eq_ok hs
  rw [hobj, orEmpty_of_field "kind" (by simp [hkind])] at hs
  obtain rfl := Except.ok.inj hs
  exact ⟨probe, action, hprobe, haction, by rw [hobj]; rfl⟩

/-- A rule that watches for a device's silence and switches its relay on. -/
def silenceRule (id deviceId : String) : RuleShape where
  id := id
  name := "silence"
  probe := .obj [("kind", .str "device_heartbeat_stale"), ("device_id", .str deviceId)]
  target := .obj [("kind", .str "device"), ("id", .str "plug")]
  action := .obj [("kind", .str "relay_on")]
  failureThreshold := .int 3
  windowSeconds := .int 60
  cooldownSeconds := .int 600

/-- A hub without groups, schedules and devices. -/
def bareHub : Surroundings := ⟨[], [], [], fun _ => ""⟩

theorem silenceRule_accepted {id deviceId : String} (h : deviceId = "router" ∨ deviceId = "switch") :
    Accepted (silenceRule id deviceId) := by
  rcases h with rfl | rfl
  all_goals exact ⟨by rfl, by rfl, by rfl, by rfl⟩

/-- The signature has no device: two rules about the silence of different devices are duplicates. -/
theorem silenceRules_duplicate (a b : String) :
    ReportsDuplicate bareHub (silenceRule a "router") (silenceRule b "switch") :=
  ⟨_, rfl, _, List.mem_cons_self, rfl⟩

theorem silenceRules_agree :
    OmittedAgree bareHub (silenceRule "a" "router") (silenceRule "b" "router") where
  probe := by decide +kernel
  tag _ := rfl
  action := by
    have hkind : field (members (silenceRule "a" "router").action) "kind" = .str "relay_on" := rfl
    rw [ActionsAgree, hkind, if_neg (by decide), LeavesAgree, hkind]
    simp

end

end RebooterHub.Conflicts
