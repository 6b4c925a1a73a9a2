import RebooterHub.Guide.Episodes
import RebooterHub.Power.Sources
import RebooterHub.Support.Refills

/-!
# Guide — Refresh

`refresh_epg`: the schedules of today and tomorrow are fetched, and what was cached from the
beginning of today is replaced by what they list.

The session does not flush on its own, so the janitor runs over the rows there were, and the
unique key is checked when the new rows are flushed after it.  A refresh that raises leaves the
cache as it was.

* `refreshes_iff`: what a refresh leaves.
-/

namespace RebooterHub.Guide
open Fallible Refills
open Power (midnight)

/-! ### The cache -/

/-- A row of `external_epg_cache`. -/
structure ExternalEpgCache extends Airing where
  provider : String
  fetchedAt : Time
deriving DecidableEq

/-- The key by which a batch is rid of repeats. -/
def Airing.key (a : Airing) : String × Time × String := (a.channelId, a.airingStart, a.showTitle)

/-- `uq_epg_cache_provider_channel_start_show`. -/
def ExternalEpgCache.key (r : ExternalEpgCache) : String × String × Time × String :=
  (r.provider, r.toAiring.key)

/-- The rows of `external_epg_cache`. -/
abbrev EpgCache := Store ExternalEpgCache.key

/-- `_PROVIDER`. -/
def tvmaze : String := "tvmaze"

/-- The row of an airing that was fetched. -/
def stored (now : Time) (a : Airing) : ExternalEpgCache :=
  { a with provider := tvmaze, fetchedAt := now }

/-! ### The schedules -/

/-- The days whose schedules are fetched. -/
inductive Day where
  | today
  | tomorrow
deriving DecidableEq, Repr

/-- What each fetch gives; `none` is one that raises. -/
abbrev Responses := Day → Option (List Json)

/-- The usable rows so far, with the counts of the episodes and of the failures. -/
structure Schedules where
  rows : List Airing
  fetched : Nat
  errors : Nat

/-- What `refresh_epg` counts. -/
structure RefreshStats where
  fetched : Nat
  stored : Nat
  pruned : Nat
  errors : Nat
deriving DecidableEq, Repr

/-- What a refresh raises. -/
inductive EpgError where
  | parsing (e : PyError)
  | integrityError
deriving DecidableEq, Repr

section
variable (spell : Json → String) (responses : Responses)

/-- One day's schedule is fetched and parsed. -/
def fetchDay (s : Schedules) (d : Day) : Except PyError Schedules :=
  match responses d with
  | none => .ok { s with errors := s.errors + 1 }
  | some episodes => do
    let parsed ← episodes.mapM (parseEpisode spell)
    return { s with
      rows := s.rows ++ parsed.reduceOption
      fetched := s.fetched + episodes.length }

/-- The schedules of both days. -/
def fetchSchedules : Except PyError Schedules :=
  [Day.today, Day.tomorrow].foldlM (fetchDay spell responses) ⟨[], 0, 0⟩

end

/-! ### The refresh -/

/-- A row of the window that is replaced: from the beginning of today. -/
def inWindow (now : Time) (r : ExternalEpgCache) : Bool :=
  r.provider = tvmaze ∧ midnight now ≤ r.airingStart

/-- `now - timedelta(hours=24)`. -/
def cutoff (now : Time) : Time := now - seconds 86400

/-- A row that the janitor prunes. -/
def isOver (now : Time) (r : ExternalEpgCache) : Bool := r.airingEnd < cutoff now

/-- The rows that are inserted: of those with one key the first. -/
def batch (now : Time) (rows : List Airing) : List ExternalEpgCache :=
  (firsts Airing.key [] rows).map (stored now)

/-- The window is replaced, unless there is nothing to put there and a fetch failed. -/
def replaceWindow (now : Time) (s : Schedules) (cache : EpgCache) :
    Except EpgError (RefreshStats × EpgCache) :=
  if s.rows = [] ∧ s.errors ≠ 0 then .ok (⟨s.fetched, 0, 0, s.errors⟩, cache)
  else
    let opened := cache.filter (!inWindow now ·)
    let pruned := opened.filter (!isOver now ·)
    match pruned.insertAll (batch now s.rows) with
    | none => .error .integrityError
    | some refilled => .ok
      (⟨s.fetched, (batch now s.rows).length, opened.rows.countP (isOver now), s.errors⟩, refilled)

/-- `refresh_epg`. -/
def refreshEpg (spell : Json → String) (now : Time) (responses : Responses) (cache : EpgCache) :
    Except EpgError (RefreshStats × EpgCache) :=
  match fetchSchedules spell responses with
  | .error e => .error (.parsing e)
  | .ok s => replaceWindow now s cache

/-! ### What is listed -/

section
variable (spell : Json → String) (responses : Responses)

/-- The usable episodes of a day's schedule. -/
def listedOn (d : Day) : List Airing :=
  ((responses d).getD []).filterMap fun ep => (parseEpisode spell ep).toOption.join

/-- The usable episodes of both schedules. -/
def listed : List Airing :=
  listedOn spell responses .today ++ listedOn spell responses .tomorrow

/-- Some schedule was not fetched. -/
def SomeFailed : Prop := ∃ d, responses d = none

instance : Decidable (SomeFailed responses) :=
  decidable_of_iff (responses .today = none ∨ responses .tomorrow = none)
    ⟨fun h => h.elim (⟨_, ·⟩) (⟨_, ·⟩), fun ⟨d, hd⟩ => by cases d <;> simp [hd]⟩

/-- No episode of a schedule makes the parser raise. -/
def ReadableOn (d : Day) : Prop :=
  ∀ episodes, responses d = some episodes → ∀ ep ∈ episodes, ∃ a, parseEpisode spell ep = .ok a

/-- No fetched episode makes the parser raise. -/
def Readable : Prop := ∀ d, ReadableOn spell responses d

variable {spell responses} {s t : Schedules} {d : Day}

/-- The schedules with one more day's. -/
def Schedules.add (spell : Json → String) (responses : Responses) (s : Schedules) (d : Day) :
    Schedules where
  rows := s.rows ++ listedOn spell responses d
  fetched := s.fetched + ((responses d).getD []).length
  errors := s.errors + if responses d = none then 1 else 0

theorem parseAll_eq_ok {episodes : List Json} {parsed : List (Option Airing)} :
    episodes.mapM (parseEpisode spell) = .ok parsed ↔
      (∀ ep ∈ episodes, ∃ a, parseEpisode spell ep = .ok a) ∧
        parsed = episodes.map fun ep => (parseEpisode spell ep).toOption.join := by
  have hvalues (hall : ∀ ep ∈ episodes, ∃ a, parseEpisode spell ep = .ok a) :
      episodes.mapM (parseEpisode spell) =
        .ok (episodes.map fun ep => (parseEpisode spell ep).toOption.join) := by
    refine mapM_eq_ok fun ep hep => ?_
    obtain ⟨a, ha⟩ := hall ep hep
    rw [ha]
    rfl
  constructor
  · intro h
    have hall := exists_mapM_iff.mp ⟨parsed, h⟩
    exact ⟨hall, Except.ok.inj (h.symm.trans (hvalues hall))⟩
  · rintro ⟨hall, rfl⟩
    exact hvalues hall

theorem reduceOption_map {α β : Type} (f : α → Option β) (xs : List α) :
    (xs.map f).reduceOption = xs.filterMap f :=
  List.filterMap_map

theorem fetchDay_eq_ok : fetchDay spell responses s d = .ok t ↔
    ReadableOn spell responses d ∧ t = s.add spell responses d := by
  rw [fetchDay, ReadableOn, Schedules.add, listedOn]
  cases responses d with
  | none => simp [eq_comm]
  | some episodes =>
      simp only [Option.some.injEq, forall_eq', Option.getD_some, reduceCtorEq, if_false]
      constructor
      · intro h
        obtain ⟨parsed, hparsed, h⟩ := bind_eq_ok h
        obtain ⟨hall, rfl⟩ := parseAll_eq_ok.mp hparsed
        obtain rfl := Except.ok.inj h
        rw [reduceOption_map]
        exact ⟨hall, rfl⟩
      · rintro ⟨hall, rfl⟩
        rw [parseAll_eq_ok.mpr ⟨hall, rfl⟩, ok_bind, reduceOption_map]
        rfl

theorem fetchSchedules_eq_ok : fetchSchedules spell responses = .ok s ↔
    Readable spell responses ∧
      s = ((⟨[], 0, 0⟩ : Schedules).add spell responses .today).add spell responses .tomorrow := by
  have hstep : ∀ s d t, fetchDay spell responses s d = .ok t ↔
      ReadableOn spell responses d ∧ t = s.add spell responses d := fun _ _ _ => fetchDay_eq_ok
  rw [fetchSchedules, foldlM_eq_ok_iff hstep]
  refine and_congr ⟨fun h d => h d ?_, fun h d _ => h d⟩ Iff.rfl
  cases d <;> simp

theorem errors_pos : (((⟨[], 0, 0⟩ : Schedules).add spell responses .today).add spell responses
    .tomorrow).errors ≠ 0 ↔ SomeFailed responses := by
  simp only [Schedules.add, SomeFailed]
  constructor
  · intro h
    by_contra hnone
    rw [not_exists] at hnone
    simp [hnone] at h
  · rintro ⟨d, hd⟩
    cases d <;> simp [hd]

/-! ### What a refresh leaves -/

variable {now : Time} {cache after : EpgCache}

/-- A refresh that completes, and the rows it leaves. -/
def Refreshes (spell : Json → String) (responses : Responses) (now : Time)
    (cache after : EpgCache) : Prop :=
  ∃ stats, refreshEpg spell now responses cache = .ok (stats, after)

/-- The rows that a refresh keeps. -/
def isKept (now : Time) (r : ExternalEpgCache) : Bool := !inWindow now r && !isOver now r

theorem replaceWindow_iff : (∃ stats, replaceWindow now s cache = .ok (stats, after)) ↔
    if s.rows = [] ∧ s.errors ≠ 0 then after = cache
    else cache.refill (isKept now) (batch now s.rows) = some after := by
  have hrefill : cache.refill (isKept now) (batch now s.rows) =
      ((cache.filter (!inWindow now ·)).filter (!isOver now ·)).insertAll (batch now s.rows) := by
    rw [Store.refill, Store.filter_filter]
    rfl
  rw [replaceWindow, hrefill]
  split
  · simp [eq_comm]
  · dsimp only
    split
    · next hnone => simp [hnone]
    · next refilled hsome => simp [hsome]

/-- **What a refresh leaves.**  It completes if no episode makes the parser raise; then either
nothing was listed and a fetch failed, and the cache stays, or it is refilled. -/
theorem refreshes_iff : Refreshes spell responses now cache after ↔
    Readable spell responses ∧
      if listed spell responses = [] ∧ SomeFailed responses then after = cache
      else cache.refill (isKept now) (batch now (listed spell responses)) = some after := by
  rw [Refreshes, refreshEpg]
  cases hfetch : fetchSchedules spell responses with
  | error e =>
      refine iff_of_false (by simp) fun h => ?_
      rw [fetchSchedules_eq_ok.mpr ⟨h.1, rfl⟩] at hfetch
      cases hfetch
  | ok s =>
      obtain ⟨hread, rfl⟩ := fetchSchedules_eq_ok.mp hfetch
      rw [and_iff_right hread]
      refine replaceWindow_iff.trans ?_
      simp only [errors_pos]
      rfl

end

end RebooterHub.Guide
