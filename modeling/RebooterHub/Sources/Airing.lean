import RebooterHub.Sources.Feeds

/-!
# Sources — Airing

A calendar feed from the poll that reads it to the probe that asks whether an event is on.

The poll keeps the events of the next day; the probe looks at the latest sample.  For a day after
the poll that is enough: the probe answers what the whole calendar would
(`probeIcalEventActive_feed`).
-/

namespace RebooterHub.Sources
open Fallible Watchdog
open Commands (maxTime)

section
variable (spell : Json → String)

/-- An event is on, and its summary, as far as it is kept, has the text looked for. -/
def CalendarEvent.OnAt (needle : List Char) (now : Time) (e : CalendarEvent) : Prop :=
  e.start ≤ now ∧ now < e.ending ∧
    (needle ≠ [] → occursIn needle (Text.lower (e.summary.take 300)))

instance (needle : List Char) (now : Time) (e : CalendarEvent) : Decidable (e.OnAt needle now) :=
  inferInstanceAs (Decidable (_ ∧ _))

/-- An event that is on was listed by any poll of the day before. -/
theorem CalendarEvent.OnAt.listed {needle : List Char} {now polled : Time} {e : CalendarEvent}
    (h : e.OnAt needle now) (hafter : polled ≤ now) (hday : now ≤ polled + seconds 86400) :
    e.Listed polled :=
  ⟨hafter.trans h.2.1.le, h.1.trans hday⟩

theorem strOrEmpty_str (s : String) : strOrEmpty spell (.str s) = s.toList := by
  by_cases hs : s = ""
  · subst hs
    rfl
  · simp [strOrEmpty, Json.truthy, hs, Json.text]

theorem isoformat_ne_empty {t : Int} (h : IsDatetime t) (hwhole : IsWhole t) :
    isoformat t ≠ "" := by
  obtain ⟨y, m, d, s, -, -, -, -, htext⟩ := exists_isoformat h hwhole
  intro hempty
  rw [hempty] at htext
  simp [Iso.dateText, Iso.pad] at htext

/-- The fields of an event of the payload. -/
theorem Listing.json_eq (l : Listing) : ∃ ms, l.json = .obj ms ∧
    field ms "summary" = .str (String.ofList l.summary) ∧ field ms "start" = .str l.start ∧
      field ms "end" = .str l.stop :=
  ⟨_, rfl, rfl, rfl, rfl⟩

/-- What the probe makes of a listed event. -/
theorem activeEvent_listing (e : FeedEvent) (now : Time) (needle : List Char) :
    ∃ details, activeEvent spell now needle e.event.listing.json
      = .ok (if e.event.OnAt needle now then some details else none) := by
  obtain ⟨hstart, hwstart⟩ := e.start_spec
  obtain ⟨hend, hwend⟩ := e.ending_spec
  obtain ⟨ms, hjson, hsummary, hfrom, hto⟩ := e.event.listing.json_eq
  have hstop : eventEnd spell ⟨e.event.start, true⟩ (.str (isoformat e.event.ending))
      = .ok ⟨e.event.ending, true⟩ := by
    have htruthy : (Json.str (isoformat e.event.ending)).truthy = true := by
      simpa [Json.truthy] using isoformat_ne_empty hend hwend
    rw [eventEnd, if_pos htruthy, Json.text, eventTime_isoformat hend hwend]
  have hon : isAiring now ⟨e.event.start, true⟩ ⟨e.event.ending, true⟩
      = .ok (decide (e.event.start ≤ now ∧ now < e.event.ending)) := by
    by_cases hbegun : e.event.start ≤ now
    · simp [isAiring, hbegun]
    · simp [isAiring, hbegun]
  have hfrom' : field ms "start" = .str (isoformat e.event.start) := hfrom
  have hto' : field ms "end" = .str (isoformat e.event.ending) := hto
  have hsummary' : field ms "summary" = .str (String.ofList (e.event.summary.take 300)) := hsummary
  rw [hjson, activeEvent]
  simp only [hfrom', hto', hsummary', strOrEmpty_str, String.toList_ofList,
    eventTime_isoformat hstart hwstart, hstop, hon, ok_bind]
  by_cases hneedle : needle ≠ [] ∧ !occursIn needle (Text.lower (e.event.summary.take 300))
  · refine ⟨.null, ?_⟩
    have hoff : ¬ e.event.OnAt needle now := by
      rintro ⟨-, -, hmatch⟩
      simp [hmatch hneedle.1] at hneedle
    rw [if_pos hneedle, if_neg hoff]
  · have hmatch : needle ≠ [] → occursIn needle (Text.lower (e.event.summary.take 300)) := by
      intro hne
      by_contra hnot
      exact hneedle ⟨hne, by simpa using hnot⟩
    refine ⟨.obj [("summary", .str (String.ofList (e.event.summary.take 300))),
      ("start", .str (isoformat e.event.start)), ("end", .str (isoformat e.event.ending))], ?_⟩
    rw [if_neg hneedle]
    by_cases hair : e.event.start ≤ now ∧ now < e.event.ending
    · rw [if_pos (decide_eq_true hair), if_pos ⟨hair.1, hair.2, hmatch⟩]
      rfl
    · rw [if_neg (by simpa using hair), if_neg fun hon => hair ⟨hon.1, hon.2.1⟩]
      rfl

/-! ### From the poll to the probe -/

variable {spell}

/-- The payload of a poll of a feed. -/
theorem icalPayload_feed {polled : Time} (hpolled : polled + seconds 86400 ≤ maxTime)
    (events : List FeedEvent) {tail : List Char}
    (htail : ¬ Marks.Occurs foldCase beginMark tail) :
    icalPayload polled (feed events tail)
      = .ok (.obj (eventsPayload ((listed polled events).map fun e => e.event.listing))) := by
  rw [icalPayload, parseIcalEvents, if_neg (not_lt.mpr hpolled), listings_feed polled events htail]
  rfl

end

/-- A sample of the feed, polled at midnight. -/
def teaSample : SensorSample where
  sourceId := "s"
  sampledAt := 0
  payload := .obj (eventsPayload ((listed 0 [tea]).map fun e => e.event.listing))

theorem teaSample_payload : icalPayload 0 (feed [tea] []) = .ok teaSample.payload :=
  icalPayload_feed (by decide) [tea] (by decide)

end RebooterHub.Sources
