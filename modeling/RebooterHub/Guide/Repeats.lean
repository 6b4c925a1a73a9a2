import RebooterHub.Guide.Refresh

/-!
# Guide — Repeats

`refresh_epg` repeated on one day: what twice gives beside once, and what a failed fetch leaves.

What a refresh deletes starts today or later, whichever day failed; what it inserts may start
before.  So a programme of a day that failed is lost unless the other day lists it, and one from
before midnight stands in the way of the next refresh until the janitor takes it.

* `refresh_repeats_iff`: exactly when it is safe to repeat a refresh.
-/

namespace RebooterHub.Guide
open Power (midnight)
open Refills Rows

/-! ### What is expected -/

/-- Two instants of one day. -/
structure Repetition where
  first : Time
  second : Time
  later : first ≤ second
  sameDay : midnight second = midnight first

/-- The days after today. -/
def Day.offset : Day → Int
  | .today => 0
  | .tomorrow => 1

/-- A time on a day, as seen at `now`. -/
def OnDay (now : Time) (d : Day) (t : Time) : Prop :=
  midnight now + seconds (86400 * d.offset) ≤ t ∧
    t < midnight now + seconds (86400 * (d.offset + 1))

/-- A row of the provider that starts on the day. -/
def AirsOn (now : Time) (d : Day) (r : ExternalEpgCache) : Prop :=
  r.provider = tvmaze ∧ OnDay now d r.airingStart

/-- The first of those listed under its key. -/
def FirstListed (rows : List Airing) (a : Airing) : Prop := rows.find? (·.key = a.key) = some a

instance (rows : List Airing) (a : Airing) : Decidable (FirstListed rows a) :=
  inferInstanceAs (Decidable (_ = _))

/-- The day keeps the rows it had. -/
def Keeps (now : Time) (d : Day) (before after : EpgCache) : Prop :=
  ∀ r ∈ before.rows, AirsOn now d r → ∃ r' ∈ after.rows, AirsOn now d r' ∧ r'.toAiring = r.toAiring

/-- The day has the rows that were listed, one for each key. -/
def Replaced (now : Time) (d : Day) (rows : List Airing) (after : EpgCache) : Prop :=
  ∀ a : Airing, (∃ r ∈ after.rows, AirsOn now d r ∧ r.toAiring = a) ↔
    FirstListed rows a ∧ OnDay now d a.airingStart

/-- Twice completes and leaves the rows of once; a day that failed keeps its rows, and one that was
fetched has those that were listed. -/
def SafeToRepeat (spell : Json → String) (t : Repetition) (responses : Responses)
    (cache : EpgCache) : Prop :=
  ∃ once twice, Refreshes spell responses t.first cache once ∧
    Refreshes spell responses t.second once twice ∧
    Refreshes spell responses t.second cache twice ∧
    ∀ d, if responses d = none then Keeps t.first d cache once
      else Replaced t.first d (listed spell responses) once

/-- The condition. -/
structure Repeatable (spell : Json → String) (t : Repetition) (responses : Responses)
    (cache : EpgCache) : Prop where
  readable : Readable spell responses
  /-- What starts before today was over a day before the second refresh. -/
  ended : ∀ a, FirstListed (listed spell responses) a → a.airingStart < midnight t.first →
    a.airingEnd < cutoff t.second
  /-- So was what is cached under the key of such a programme, before the first. -/
  free : ∀ a ∈ listed spell responses, a.airingStart < midnight t.first →
    ∀ r ∈ cache.rows, r.key = (tvmaze, a.key) → r.airingEnd < cutoff t.first
  /-- What a failed day has is listed by the other. -/
  kept : listed spell responses ≠ [] → ∀ d, responses d = none →
    ∀ r ∈ cache.rows, AirsOn t.first d r → FirstListed (listed spell responses) r.toAiring
  /-- If nothing is listed and a day failed, the other has nothing to lose. -/
  empty : listed spell responses = [] → SomeFailed responses → ∀ d, responses d ≠ none →
    ∀ r ∈ cache.rows, ¬ AirsOn t.first d r

/-! ### The window -/

section
variable {now now' : Time} {d : Day} {r : ExternalEpgCache} {a : Airing} {rows : List Airing}
  {cache after : EpgCache}

theorem mem_batch : r ∈ batch now rows ↔ ∃ a, FirstListed rows a ∧ stored now a = r := by
  rw [batch, List.mem_map]
  refine exists_congr fun a => and_congr_left fun _ => ?_
  rw [mem_firsts, and_iff_right List.not_mem_nil, FirstListed]

theorem keyed_batch : Keyed ExternalEpgCache.key (batch now rows) := by
  have hkeys : (batch now rows).map ExternalEpgCache.key =
      ((firsts Airing.key [] rows).map Airing.key).map (tvmaze, ·) := by
    rw [batch, List.map_map, List.map_map]
    rfl
  rw [Keyed, hkeys]
  exact keyed_firsts.map fun _ _ h => (Prod.mk.inj h).2

theorem isKept_iff : isKept now r = true ↔
    (r.provider = tvmaze → r.airingStart < midnight now) ∧ cutoff now ≤ r.airingEnd := by
  simp [isKept, inWindow, isOver, imp_iff_not_or]

/-- A refresh drops what it would insert, except what started before today. -/
theorem isKept_stored : isKept now (stored now' a) = false ↔
    (a.airingStart < midnight now → a.airingEnd < cutoff now) := by
  rw [← Bool.not_eq_true, isKept_iff, not_and, not_le]
  exact ⟨fun h hstart => h fun _ => hstart, fun h hwindow => h (hwindow rfl)⟩

theorem OnDay.midnight_le {t : Time} (h : OnDay now d t) : midnight now ≤ t := by
  have hstart := h.1
  cases d <;> simp only [Day.offset, seconds, Time] at * <;> omega

/-- Under the key of a programme that is listed the cache has only what is dropped. -/
theorem exists_refill_iff : (∃ after, cache.refill (isKept now) (batch now' rows) = some after) ↔
    ∀ a ∈ rows, a.airingStart < midnight now → ∀ r ∈ cache.rows, r.key = (tvmaze, a.key) →
      r.airingEnd < cutoff now := by
  rw [Store.exists_refill keyed_batch]
  constructor
  · intro h a ha hstart r hr hkey
    obtain ⟨b, hb, hba⟩ : ∃ b ∈ firsts Airing.key [] rows, b.key = a.key := exists_firsts ha
    by_contra hover
    refine h (stored now' b) (List.mem_map_of_mem hb) r hr (isKept_iff.mpr ?_) ?_
    · have hsame : r.airingStart = a.airingStart := congrArg (·.2.2.1) hkey
      exact ⟨fun _ => hsame ▸ hstart, not_lt.mp hover⟩
    · exact hkey.trans (congrArg (tvmaze, ·) hba.symm)
  · rintro h b hb r hr hkept hkey
    obtain ⟨a, ha, rfl⟩ := mem_batch.mp hb
    obtain ⟨hwindow, hend⟩ := isKept_iff.mp hkept
    have hprovider : r.provider = tvmaze := congrArg (·.1) hkey
    have hstart : r.airingStart = a.airingStart := congrArg (·.2.2.1) hkey
    have hlisted : a ∈ rows := List.mem_of_find?_eq_some ha
    exact absurd (h a hlisted (hstart ▸ hwindow hprovider) r hr hkey) (not_lt.mpr hend)

/-! ### The days -/

theorem mem_day_of_refill (h : cache.refill (isKept now) (batch now rows) = some after) :
    (∃ r ∈ after.rows, AirsOn now d r ∧ r.toAiring = a) ↔
      FirstListed rows a ∧ OnDay now d a.airingStart := by
  rw [Store.refill_eq_some.mp h]
  constructor
  · rintro ⟨r, hr, ⟨hprovider, hday⟩, rfl⟩
    rcases List.mem_append.mp hr with hold | hnew
    · -- what is kept starts before today
      have hstart := (isKept_iff.mp (List.mem_filter.mp hold).2).1 hprovider
      exact absurd hstart (not_lt.mpr hday.midnight_le)
    · obtain ⟨b, hb, rfl⟩ := mem_batch.mp hnew
      exact ⟨hb, hday⟩
  · rintro ⟨ha, hday⟩
    exact ⟨stored now a, List.mem_append_right _ (mem_batch.mpr ⟨a, ha, rfl⟩), ⟨rfl, hday⟩, rfl⟩

/-- A day that is refilled keeps what is listed. -/
theorem keeps_of_refill (h : cache.refill (isKept now) (batch now rows) = some after) :
    Keeps now d cache after ↔ ∀ r ∈ cache.rows, AirsOn now d r → FirstListed rows r.toAiring := by
  refine forall₃_congr fun r _ hday => ?_
  rw [mem_day_of_refill h, and_iff_left hday.2]

/-- A day that stays as it was has nothing listed. -/
theorem replaced_nil : Replaced now d [] cache ↔ ∀ r ∈ cache.rows, ¬ AirsOn now d r := by
  constructor
  · intro h r hr hday
    cases ((h r.toAiring).mp ⟨r, hr, hday, rfl⟩).1
  · intro h a
    refine iff_of_false ?_ fun hlisted => nomatch hlisted.1
    rintro ⟨r, hr, hday, -⟩
    exact h r hr hday

end

/-! ### Twice -/

section
variable {spell : Json → String} {t : Repetition} {responses : Responses} {cache : EpgCache}

theorem Repetition.cutoff_le (t : Repetition) : cutoff t.first ≤ cutoff t.second :=
  sub_le_sub_right t.later _

/-- The later refresh keeps fewer rows. -/
theorem Repetition.isKept_mono (t : Repetition) {r : ExternalEpgCache}
    (h : isKept t.second r = true) : isKept t.first r = true := by
  obtain ⟨hwindow, hend⟩ := isKept_iff.mp h
  exact isKept_iff.mpr ⟨t.sameDay ▸ hwindow, t.cutoff_le.trans hend⟩

/-- A refresh that leaves the cache as it was fails a day that was fetched and has rows. -/
theorem safe_iff_of_stays (hread : Readable spell responses)
    (hlisted : listed spell responses = []) (hfailed : SomeFailed responses) :
    SafeToRepeat spell t responses cache ↔
      ∀ d, responses d ≠ none → ∀ r ∈ cache.rows, ¬ AirsOn t.first d r := by
  have hstays : ∀ now before after, Refreshes spell responses now before after ↔ after = before :=
    fun now before after => by
      rw [refreshes_iff, and_iff_right hread, if_pos ⟨hlisted, hfailed⟩]
  simp only [SafeToRepeat, hstays, hlisted]
  constructor
  · rintro ⟨once, twice, rfl, -, -, hdays⟩ d hd
    have hday := hdays d
    rw [if_neg hd] at hday
    exact replaced_nil.mp hday
  · intro h
    refine ⟨cache, cache, rfl, rfl, rfl, fun d => ?_⟩
    split
    · exact fun r hr hday => ⟨r, hr, hday, rfl⟩
    · next hd => exact replaced_nil.mpr (h d hd)

/-- A refresh that refills the cache. -/
theorem safe_iff_of_refill (hread : Readable spell responses)
    (hrefill : ¬ (listed spell responses = [] ∧ SomeFailed responses)) :
    SafeToRepeat spell t responses cache ↔
      (∀ a, FirstListed (listed spell responses) a → a.airingStart < midnight t.first →
        a.airingEnd < cutoff t.second) ∧
      (∀ a ∈ listed spell responses, a.airingStart < midnight t.first →
        ∀ r ∈ cache.rows, r.key = (tvmaze, a.key) → r.airingEnd < cutoff t.first) ∧
      ∀ d, responses d = none → ∀ r ∈ cache.rows, AirsOn t.first d r →
        FirstListed (listed spell responses) r.toAiring := by
  have hrefills : ∀ now before after, Refreshes spell responses now before after ↔
      before.refill (isKept now) (batch now (listed spell responses)) = some after :=
    fun now before after => by
      rw [refreshes_iff, and_iff_right hread, if_neg hrefill]
  simp only [SafeToRepeat, hrefills]
  constructor
  · rintro ⟨once, twice, honce, htwice, -, hdays⟩
    refine ⟨fun a ha hstart => ?_, exists_refill_iff.mp ⟨once, honce⟩, fun d hd => ?_⟩
    · have hkeys : ∀ r ∈ batch t.first (listed spell responses),
          ∃ r' ∈ batch t.second (listed spell responses), r'.key = r.key := by
        intro r hr
        obtain ⟨b, hb, rfl⟩ := mem_batch.mp hr
        exact ⟨stored t.second b, mem_batch.mpr ⟨b, hb, rfl⟩, rfl⟩
      have hdropped := Store.dropped_of_refill hkeys honce htwice (stored t.first a)
        (mem_batch.mpr ⟨a, ha, rfl⟩)
      exact isKept_stored.mp hdropped (t.sameDay ▸ hstart)
    · have hday := hdays d
      rw [if_pos hd] at hday
      exact (keeps_of_refill honce).mp hday
  · rintro ⟨hover, hfree, hkept⟩
    obtain ⟨once, honce⟩ := exists_refill_iff.mpr hfree
    have hdrop : ∀ r ∈ batch t.first (listed spell responses), isKept t.second r = false := by
      intro r hr
      obtain ⟨a, ha, rfl⟩ := mem_batch.mp hr
      exact isKept_stored.mpr fun hstart => hover a ha (t.sameDay ▸ hstart)
    have hagain : once.refill (isKept t.second) (batch t.second (listed spell responses)) =
        cache.refill (isKept t.second) (batch t.second (listed spell responses)) :=
      Store.refill_again (fun r => t.isKept_mono) hdrop honce
    obtain ⟨twice, htwice⟩ :=
      exists_refill_iff.mpr fun a ha hstart r hr hkey =>
        (hfree a ha (t.sameDay ▸ hstart) r hr hkey).trans_le t.cutoff_le
    refine ⟨once, twice, honce, hagain.trans htwice, htwice, fun d => ?_⟩
    split
    · next hd => exact (keeps_of_refill honce).mpr (hkept d hd)
    · exact fun a => mem_day_of_refill honce

end

/-! ### A day lost, and a clash -/

/-- An episode on the network W, without a runtime. -/
def episodeOf (title airstamp : String) : Json :=
  .obj [("airstamp", .str airstamp),
    ("show", .obj [("name", .str title), ("network", .obj [("name", .str "W")])])]

/-- What is made of it. -/
def halfHour (title : String) (start : Time) : Airing where
  channelId := "W"
  airingStart := start
  airingEnd := start + seconds 1800
  showTitle := title
  episodeTitle := .null
  season := none
  episode := none
  extra := .obj [("genres", .arr []), ("runtime_min", .int 30)]

/-- Today's schedule is one episode. -/
def single (ep : Json) (tomorrow : Option (List Json)) : Responses
  | .today => some [ep]
  | .tomorrow => tomorrow

section
variable {spell : Json → String} {ep : Json} {a : Airing} {tomorrow : Option (List Json)}

theorem readable_single (hep : parseEpisode spell ep = .ok (some a))
    (htomorrow : tomorrow.getD [] = []) : Readable spell (single ep tomorrow) := by
  intro d episodes hd x hx
  cases d with
  | today =>
      obtain rfl := Option.some.inj hd
      obtain rfl := List.mem_singleton.mp hx
      exact ⟨_, hep⟩
  | tomorrow =>
      have hnil : episodes = [] := by
        rw [← htomorrow, show tomorrow = some episodes from hd, Option.getD_some]
      rw [hnil] at hx
      cases hx

theorem listed_single (tomorrow : Option (List Json))
    (hep : parseEpisode spell ep = .ok (some a))
    (htomorrow : tomorrow.getD [] = []) : listed spell (single ep tomorrow) = [a] := by
  simp [listed, listedOn, single, hep, htomorrow, Except.toOption]

end

/-- Six in the morning and noon of 2 January 2026. -/
def morningAndNoon : Repetition where
  first := 1767333600000000
  second := 1767355200000000
  later := by decide
  sameDay := by decide

end RebooterHub.Guide
