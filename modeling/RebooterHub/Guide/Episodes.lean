import RebooterHub.Watchdog.SourceProbes

/-!
# Guide — Episodes

`_parse_episode`: an episode of the schedule as the columns of a row of `external_epg_cache`.

An episode without a title, a channel or an air time is skipped.  One whose values are of the wrong
kind may raise instead, and an air time near the ends of the calendar does.  `spell` is `str` of a
float, a list or a dict.

* `parseEpisode_fits`: what is made of an episode has a title and a channel that fit their columns,
  and ends after it starts.
-/

namespace RebooterHub.Guide
open Commands (maxTime minTime)
open Fallible
open Watchdog (caught eventTime field strippedText)

/-- The columns of `external_epg_cache` that an episode gives. -/
structure Airing where
  channelId : String
  airingStart : Time
  airingEnd : Time
  showTitle : String
  episodeTitle : Json
  season : Option Int
  episode : Option Int
  extra : Json
deriving DecidableEq, Repr

/-- `text[:n]`. -/
def cut (n : Nat) (cs : List Char) : String := String.ofList (cs.take n)

/-- `x[:n]`; to a dict the slice is a key that it lacks. -/
def sliced (n : Nat) : Json → Except PyError Json
  | .str s => .ok (.str (cut n s.toList))
  | .arr xs => .ok (.arr (xs.take n))
  | .obj _ => .error .keyError
  | .null | .bool _ | .int _ | .float _ => .error .typeError

/-- `x or None`. -/
def orNone (x : Json) : Json := if x.truthy then x else .null

/-! ### The runtime -/

/-- A runtime, in minutes. -/
structure Runtime where
  minutes : Int
  pos : 0 < minutes

/-- `_DEFAULT_RUNTIME_MIN`. -/
def defaultRuntimeMin : Runtime := ⟨30, by decide⟩

/-- The runtime of an episode `e` of a show `s`. -/
def runtimeOf (e s : List (String × Json)) : Except PyError Runtime := do
  let x :=
    if (field e "runtime").truthy then field e "runtime"
    else if (field s "averageRuntime").truthy then field s "averageRuntime"
    else .int defaultRuntimeMin.minutes
  let n := (← caught x.toInt).getD defaultRuntimeMin.minutes
  return if h : 0 < n then ⟨n, h⟩ else defaultRuntimeMin

/-- `start.astimezone(timezone.utc)`. -/
def astimezone (start : Time) : Except PyError Time :=
  if start < minTime ∨ maxTime < start then .error .overflowError else .ok start

/-- `start + timedelta(minutes=runtime)`. -/
def endOf (start : Time) (runtime : Runtime) : Except PyError Time :=
  if maxTime < start + seconds (60 * runtime.minutes) then .error .overflowError
  else .ok (start + seconds (60 * runtime.minutes))

/-! ### The episode -/

/-- The name of the channel: of the network, else of the web channel. -/
def channelName (s : List (String × Json)) : Except PyError (List Char) :=
  let network :=
    if (field s "network").truthy then field s "network" else (field s "webChannel").orEmpty
  match network with
  | .obj n => strippedText (field n "name")
  | _ => .ok []

/-- The genres of a show. -/
def genresOf (s : List (String × Json)) : List Json :=
  match field s "genres" with
  | .arr xs => xs
  | _ => []

/-- The row of an episode that has a title, a channel and an air time. -/
def airingOf (e s : List (String × Json)) (title channel : List Char) (start : Time) :
    Except PyError Airing := do
  let start ← astimezone start
  let runtime ← runtimeOf e s
  let stop ← endOf start runtime
  let name := field e "name"
  let episodeTitle ← sliced 300 (if name.truthy then name else .str "")
  let season ← caught (field e "season").toInt
  let episode ← caught (field e "number").toInt
  return {
    channelId := cut 80 channel
    airingStart := start
    airingEnd := stop
    showTitle := cut 300 title
    episodeTitle := orNone episodeTitle
    season := season
    episode := episode
    extra := .obj [("genres", .arr ((genresOf s).take 8)), ("runtime_min", .int runtime.minutes)] }

variable (spell : Json → String)

/-- `_parse_episode`. -/
def parseEpisode (ep : Json) : Except PyError (Option Airing) :=
  match ep with
  | .obj e => match (field e "show").orEmpty with
    | .obj s => do
      let title ← strippedText (field s "name")
      if title = [] then return none
      let channel ← channelName s
      if channel = [] then return none
      if !(field e "airstamp").truthy then return none
      match eventTime ((field e "airstamp").text spell) with
      | none => return none
      | some start => return some (← airingOf e s title channel start.instant)
    | _ => .error .attributeError
  | _ => .ok none

/-! ### What is made of an episode -/

/-- A row that can stand in the table, and that is on the air for a while. -/
structure Airing.Fits (a : Airing) : Prop where
  channel : a.channelId ≠ "" ∧ a.channelId.length ≤ 80
  title : a.showTitle ≠ "" ∧ a.showTitle.length ≤ 300
  airs : a.airingStart < a.airingEnd
  dates : minTime ≤ a.airingStart ∧ a.airingEnd ≤ maxTime

section
variable {e s : List (String × Json)} {title channel : List Char} {start : Time} {a : Airing}

theorem cut_fits {n : Nat} {cs : List Char} (hn : 0 < n) (hcs : cs ≠ []) :
    cut n cs ≠ "" ∧ (cut n cs).length ≤ n := by
  constructor
  · intro hempty
    have htake : cs.take n = [] := by
      simpa [cut] using congrArg String.toList hempty
    rcases List.take_eq_nil_iff.mp htake with hzero | hnil
    · exact absurd hzero (Nat.pos_iff_ne_zero.mp hn)
    · exact hcs hnil
  · rw [cut, String.length_ofList]
    exact List.length_take_le n cs

theorem endOf_eq_ok {runtime : Runtime} {stop : Time} (h : endOf start runtime = .ok stop) :
    start < stop ∧ stop ≤ maxTime := by
  have hpos := runtime.pos
  rw [endOf] at h
  split at h
  · cases h
  · next hle =>
      obtain rfl := Except.ok.inj h
      refine ⟨?_, not_lt.mp hle⟩
      simp only [seconds, Time] at *
      omega

theorem astimezone_eq_ok {t : Time} (h : astimezone start = .ok t) : minTime ≤ t := by
  rw [astimezone] at h
  split at h
  · cases h
  · next hrange =>
      obtain rfl := Except.ok.inj h
      exact not_lt.mp (not_or.mp hrange).1

theorem airingOf_fits (htitle : title ≠ []) (hchannel : channel ≠ [])
    (h : airingOf e s title channel start = .ok a) : a.Fits := by
  rw [airingOf] at h
  obtain ⟨start, hstart, h⟩ := bind_eq_ok h
  obtain ⟨runtime, -, h⟩ := bind_eq_ok h
  obtain ⟨stop, hstop, h⟩ := bind_eq_ok h
  obtain ⟨episodeTitle, -, h⟩ := bind_eq_ok h
  obtain ⟨season, -, h⟩ := bind_eq_ok h
  obtain ⟨episode, -, h⟩ := bind_eq_ok h
  obtain rfl := Except.ok.inj h
  obtain ⟨hairs, hmax⟩ := endOf_eq_ok hstop
  exact ⟨cut_fits (by decide) hchannel, cut_fits (by decide) htitle, hairs,
    astimezone_eq_ok hstart, hmax⟩

end

/-- **Episodes.**  What is made of an episode can stand in the table. -/
theorem parseEpisode_fits {ep : Json} {a : Airing} (h : parseEpisode spell ep = .ok (some a)) :
    a.Fits := by
  unfold parseEpisode at h
  split at h
  · split at h
    · obtain ⟨title, -, h⟩ := bind_eq_ok h
      split at h
      · cases h
      next htitle =>
      obtain ⟨channel, -, h⟩ := bind_eq_ok h
      split at h
      · cases h
      next hchannel =>
      split at h
      · cases h
      split at h
      · cases h
      · obtain ⟨b, hb, h⟩ := bind_eq_ok h
        obtain rfl := Option.some.inj (Except.ok.inj h)
        exact airingOf_fits htitle hchannel hb
    · cases h
  · cases h

end RebooterHub.Guide
