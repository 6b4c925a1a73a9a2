import RebooterHub.Sources.Stamps

/-!
# Sources — Feeds

What `_parse_ical_events` makes of a feed as calendars write it.

A `ContentLine` is a line of an event that the hub can read; a calendar may fold it anywhere
(`Folded`), and ends lines with a line feed, with or without a carriage return (`Body`).  A feed is
a list of such events between their marks, with other text before, between and after them.

**Round trip** (`parseIcalEvents_feed`).  The hub finds the entries of every event of a feed,
whatever the folding, and lists those that are neither over nor more than a day away.
-/

namespace RebooterHub.Sources
open Backup (isLineBreak)
open Commands (maxTime)
open Watchdog (isoformat)

/-! ### Content lines -/

/-- A line `KEY;params:value` of an event. -/
structure ContentLine where
  key : List Char
  params : Option (List Char)
  value : List Char
  key_ne : key ≠ []
  key_chars : ∀ c ∈ key, isKeyChar c
  params_chars : ∀ cs ∈ params, ':' ∉ cs ∧ ∀ c ∈ cs, isLineBreak c = false
  value_chars : ∀ c ∈ value, isLineBreak c = false
  trimmed : ∀ c ∈ value.getLast?, Text.isspace c = false

namespace ContentLine

/-- The text of a line. -/
def text (l : ContentLine) : List Char :=
  l.key ++ ((match l.params with
    | none => []
    | some cs => ';' :: cs) ++ ':' :: l.value)

/-- The entry of a line. -/
def entry (l : ContentLine) : List Char × List Char := (l.key, l.value)

variable (l : ContentLine)

theorem isLineBreak_of_mem {c : Char} (h : c ∈ l.text) : isLineBreak c = false := by
  have hkey : ∀ c, isKeyChar c → isLineBreak c = false := by
    intro c hc
    simp only [isKeyChar, decide_eq_true_eq] at hc
    rw [isLineBreak, decide_eq_false_iff_not]
    rcases hc with ⟨hlow, hhigh⟩ | rfl
    · have hlow : 65 ≤ c.toNat := hlow
      have hhigh : c.toNat ≤ 90 := hhigh
      omega
    · decide
  rw [text, List.mem_append, List.mem_append, List.mem_cons] at h
  rcases h with h | h | rfl | h
  · exact hkey c (l.key_chars c h)
  · cases hparams : l.params with
    | none =>
        rw [hparams] at h
        cases h
    | some cs =>
        rw [hparams] at h
        rcases List.mem_cons.mp h with rfl | h
        · decide
        · exact (l.params_chars cs hparams).2 _ h
  · decide
  · exact l.value_chars c h

theorem text_ne_nil : l.text ≠ [] := by
  simp [text]

theorem strip_text : Text.strip l.text = l.text := by
  refine Text.strip_of_ends (fun c hc => ?_) fun c hc => ?_
  · obtain ⟨k, ks, hkey⟩ := List.exists_cons_of_ne_nil l.key_ne
    rw [text, hkey, List.cons_append, List.head?_cons, Option.mem_some_iff] at hc
    subst hc
    have hkc := l.key_chars k (hkey ▸ List.mem_cons_self)
    simp only [isKeyChar, decide_eq_true_eq] at hkc
    rw [Text.isspace, decide_eq_false_iff_not]
    rcases hkc with ⟨hlow, hhigh⟩ | rfl
    · have hlow : 65 ≤ k.toNat := hlow
      have hhigh : k.toNat ≤ 90 := hhigh
      omega
    · decide
  · rw [text, List.getLast?_append_of_ne_nil _ (by simp),
      List.getLast?_append_of_ne_nil _ (List.cons_ne_nil _ _)] at hc
    cases hvalue : l.value with
    | nil =>
        rw [hvalue] at hc
        cases hc
        decide
    | cons v vs =>
        rw [hvalue, List.getLast?_cons_cons, ← hvalue] at hc
        exact l.trimmed c hc

/-- A line is read as its entry. -/
theorem keyValue_text : keyValue l.text = some l.entry := by
  have hstop : ∀ rest, ((l.key ++ rest).takeWhile isKeyChar
      = l.key ++ rest.takeWhile isKeyChar) ∧
      (l.key ++ rest).dropWhile isKeyChar = rest.dropWhile isKeyChar := fun rest =>
    ⟨List.takeWhile_append_of_pos l.key_chars, List.dropWhile_append_of_pos l.key_chars⟩
  rw [keyValue, text, (hstop _).1, (hstop _).2]
  cases hparams : l.params with
  | none =>
      simp only [List.nil_append]
      rw [List.takeWhile_cons_of_neg (by decide), List.dropWhile_cons_of_neg (by decide),
        List.append_nil, if_neg l.key_ne]
      rfl
  | some cs =>
      have hcolon := (l.params_chars cs hparams).1
      have hpass : ∀ c ∈ cs, decide (c ≠ ':') = true :=
        fun c hc => decide_eq_true fun h => hcolon (h ▸ hc)
      simp only [List.cons_append]
      rw [List.takeWhile_cons_of_neg (by decide), List.dropWhile_cons_of_neg (by decide),
        List.append_nil, if_neg l.key_ne]
      simp only
      rw [List.dropWhile_append_of_pos hpass, List.dropWhile_cons_of_neg (by simp)]
      rfl

end ContentLine

/-! ### Folding -/

/-- The ends of a line. -/
def eols : List (List Char) := [['\n'], ['\r', '\n']]

/-- A text that `re.sub` unfolds to a line: ends of lines with a blank after them may stand
anywhere. -/
inductive Folded : List Char → List Char → Prop
  | nil : Folded [] []
  | cons (c : Char) {line text : List Char} : Folded line text → Folded (c :: line) (c :: text)
  | fold {eol : List Char} {blank : Char} {line text : List Char} : eol ∈ eols →
      blank = ' ' ∨ blank = '\t' → Folded line text → Folded line (eol ++ blank :: text)

/-- A line may be left as it is. -/
theorem Folded.refl (line : List Char) : Folded line line := by
  induction line with
  | nil => exact .nil
  | cons c line ih => exact .cons c ih

/-- The body of an event: its lines, folded, each between ends of lines. -/
inductive Body : List ContentLine → List Char → Prop
  | nil {eol : List Char} : eol ∈ eols → Body [] eol
  | cons {l : ContentLine} {ls : List ContentLine} {eol text rest : List Char} : eol ∈ eols →
      Folded l.text text → Body ls rest → Body (l :: ls) (eol ++ text ++ rest)

theorem unfold_cons {c : Char} (hr : c ≠ '\r') (hn : c ≠ '\n') (cs : List Char) :
    unfold (c :: cs) = c :: unfold cs := by
  rw [unfold]
  · intro d ds hd
    exact absurd hd hr
  · intro d ds hd
    exact absurd hd hn

theorem unfold_fold {eol : List Char} (heol : eol ∈ eols) {blank : Char}
    (hblank : blank = ' ' ∨ blank = '\t') (cs : List Char) :
    unfold (eol ++ blank :: cs) = unfold cs := by
  rcases List.mem_cons.mp heol with rfl | heol
  · simp [unfold, hblank]
  · rw [List.mem_singleton] at heol
    subst heol
    simp [unfold, hblank]

/-- An end of a line stays where no blank follows it. -/
theorem unfold_eol {eol : List Char} (heol : eol ∈ eols) {cs : List Char}
    (hhead : ∀ c ∈ cs.head?, c ≠ ' ' ∧ c ≠ '\t') : unfold (eol ++ cs) = eol ++ unfold cs := by
  have hline : unfold ('\n' :: cs) = '\n' :: unfold cs := by
    cases cs with
    | nil => rfl
    | cons c cs =>
        obtain ⟨hspace, htab⟩ := hhead c rfl
        rw [unfold, if_neg (by simp [hspace, htab])]
  rcases List.mem_cons.mp heol with rfl | heol
  · exact hline
  · rw [List.mem_singleton] at heol
    subst heol
    cases cs with
    | nil => rfl
    | cons c cs =>
        obtain ⟨hspace, htab⟩ := hhead c rfl
        show unfold ('\r' :: '\n' :: c :: cs) = '\r' :: '\n' :: unfold (c :: cs)
        rw [unfold, if_neg (by simp [hspace, htab]), hline]

theorem ne_of_not_isLineBreak {c : Char} (h : isLineBreak c = false) : c ≠ '\r' ∧ c ≠ '\n' := by
  constructor
  · rintro rfl
    exact absurd h (by decide)
  · rintro rfl
    exact absurd h (by decide)

theorem Folded.unfold_append {line text : List Char} (h : Folded line text)
    (hline : ∀ c ∈ line, isLineBreak c = false) (rest : List Char) :
    unfold (text ++ rest) = line ++ unfold rest := by
  induction h with
  | nil => rfl
  | cons c _ ih =>
      obtain ⟨hc, hline⟩ := List.forall_mem_cons.mp hline
      obtain ⟨hr, hn⟩ := ne_of_not_isLineBreak hc
      rw [List.cons_append, unfold_cons hr hn, ih hline, List.cons_append]
  | fold heol hblank _ ih =>
      rw [List.append_assoc, List.cons_append, unfold_fold heol hblank, ih hline]

theorem Folded.head {line text : List Char} (h : Folded line text) (hne : line ≠ [])
    (hline : ∀ c ∈ line.head?, c ≠ ' ' ∧ c ≠ '\t') (rest : List Char) :
    ∀ c ∈ (text ++ rest).head?, c ≠ ' ' ∧ c ≠ '\t' := by
  cases h with
  | nil => exact absurd rfl hne
  | cons c _ => exact hline
  | fold heol _ _ =>
      rcases List.mem_cons.mp heol with rfl | heol
      · simp
      · rw [List.mem_singleton] at heol
        subst heol
        simp

/-! ### The entries of a body -/

theorem contentLines_append_cons {c : Char} (hc : isLineBreak c) (xs ys : List Char) :
    contentLines (xs ++ c :: ys) = contentLines xs ++ contentLines ys := by
  rw [contentLines, List.splitOnP_append_cons xs ys hc, List.map_append, List.filter_append]
  rfl

theorem contentLines_nil : contentLines [] = [] := by
  simp [contentLines, Text.strip]

theorem contentLines_eol {eol : List Char} (heol : eol ∈ eols) (xs ys : List Char) :
    contentLines (xs ++ eol ++ ys) = contentLines xs ++ contentLines ys := by
  rcases List.mem_cons.mp heol with rfl | heol
  · rw [List.append_assoc, List.singleton_append, contentLines_append_cons (by decide)]
  · rw [List.mem_singleton] at heol
    subst heol
    have hline := contentLines_append_cons (c := '\n') (by decide) (xs ++ ['\r']) ys
    have hreturn := contentLines_append_cons (c := '\r') (by decide) xs []
    rw [contentLines_nil, List.append_nil] at hreturn
    rw [hreturn, List.append_assoc] at hline
    rw [← hline, List.append_assoc]
    rfl

theorem contentLines_line (l : ContentLine) : contentLines l.text = [l.text] := by
  rw [contentLines, List.splitOnP_eq_singleton fun c hc => l.isLineBreak_of_mem hc]
  simp [l.strip_text, l.text_ne_nil]

theorem Body.contentLines {ls : List ContentLine} {body : List Char} (h : Body ls body)
    (xs : List Char) :
    contentLines (xs ++ unfold body) = contentLines xs ++ ls.map ContentLine.text := by
  induction h generalizing xs with
  | @nil eol heol =>
      have hplain : unfold (eol ++ []) = eol ++ unfold [] := unfold_eol heol (by simp)
      rw [List.append_nil] at hplain
      rw [hplain, unfold, ← List.append_assoc, contentLines_eol heol, contentLines_nil]
      rfl
  | @cons l ls eol text rest heol hfolded hrest ih =>
      have hhead : ∀ c ∈ l.text.head?, c ≠ ' ' ∧ c ≠ '\t' := by
        intro c hc
        have hspace : Text.isspace c = false := Text.head_strip (l.strip_text ▸ hc)
        constructor
        · rintro rfl
          exact absurd hspace (by decide)
        · rintro rfl
          exact absurd hspace (by decide)
      rw [List.append_assoc, unfold_eol heol (hfolded.head l.text_ne_nil hhead rest),
        hfolded.unfold_append fun c hc => l.isLineBreak_of_mem hc, ← List.append_assoc,
        contentLines_eol heol, ih, contentLines_line]
      rfl

/-- **The entries of a body are those of its lines.** -/
theorem Body.entries {ls : List ContentLine} {body : List Char} (h : Body ls body) :
    entries body = ls.map ContentLine.entry := by
  have hlines := h.contentLines []
  rw [List.nil_append, contentLines_nil, List.nil_append] at hlines
  rw [Sources.entries, hlines, List.filterMap_map]
  have hread : keyValue ∘ ContentLine.text = some ∘ ContentLine.entry :=
    funext fun l => l.keyValue_text
  rw [hread, List.filterMap_eq_map]

/-! ### Marks in a body -/

/-- A mark in a folded line stands in the line. -/
theorem Folded.after {line text : List Char} (h : Folded line text) {mark rest : List Char}
    (hmark : ∀ c ∈ mark, c ≠ '\r' ∧ c ≠ '\n') (hafter : Marks.after foldCase mark text = some rest) :
    ∃ rest', Marks.after foldCase mark line = some rest' := by
  induction h generalizing mark with
  | nil => exact ⟨rest, hafter⟩
  | cons c _ ih =>
      cases mark with
      | nil => exact ⟨_, rfl⟩
      | cons b mark =>
          rw [Marks.after] at hafter ⊢
          split at hafter
          · next hc =>
              rw [if_pos hc]
              exact ih (List.forall_mem_cons.mp hmark).2 hafter
          · cases hafter
  | fold heol _ _ _ =>
      cases mark with
      | nil => exact ⟨_, rfl⟩
      | cons b mark =>
          obtain ⟨hr, hn⟩ := hmark b List.mem_cons_self
          rcases List.mem_cons.mp heol with rfl | heol
          · rw [List.singleton_append, Marks.after, if_neg fun h => hn h.symm] at hafter
            cases hafter
          · rw [List.mem_singleton] at heol
            subst heol
            rw [List.cons_append, Marks.after, if_neg fun h => hr h.symm] at hafter
            cases hafter

theorem not_mem_endMark {c : Char} (h : c ∈ endMark) :
    c ≠ '\r' ∧ c ≠ '\n' ∧ c ≠ ' ' ∧ c ≠ '\t' := by
  have hall : endMark.all (fun c => c ≠ '\r' ∧ c ≠ '\n' ∧ c ≠ ' ' ∧ c ≠ '\t') = true := rfl
  exact of_decide_eq_true (List.all_eq_true.mp hall c h)

/-- A mark at the start of a list, or further on. -/
theorem occurs_cons_iff {c : Char} {cs : List Char} : Marks.Occurs foldCase endMark (c :: cs) ↔
    (∃ rest, Marks.after foldCase endMark (c :: cs) = some rest) ∨
      Marks.Occurs foldCase endMark cs := by
  constructor
  · rintro ⟨before, m, rest, hsplit, hm⟩
    cases before with
    | nil => exact .inl ⟨rest, Marks.after_eq_some.mpr ⟨m, hsplit, hm⟩⟩
    | cons b before =>
        rw [List.cons_append, List.cons_append] at hsplit
        obtain ⟨-, rfl⟩ := List.cons.inj hsplit
        exact .inr ⟨before, m, rest, rfl, hm⟩
  · rintro (⟨rest, h⟩ | h)
    · exact Marks.occurs_of_after h
    · exact h.cons c

theorem not_occurs_nil : ¬ Marks.Occurs foldCase endMark [] := by
  rintro ⟨before, m, rest, hsplit, hm⟩
  rw [eq_comm, List.append_eq_nil_iff, List.append_eq_nil_iff] at hsplit
  rw [hsplit.1.2] at hm
  cases hm

theorem occurs_of_cons {c : Char} (hc : foldCase c ∉ endMark) {cs : List Char}
    (h : Marks.Occurs foldCase endMark (c :: cs)) : Marks.Occurs foldCase endMark cs := by
  rw [← List.nil_append (c :: cs)] at h
  rcases Marks.occurs_append_cons hc h with h | h
  · exact absurd h not_occurs_nil
  · exact h

theorem occurs_eol {eol : List Char} (heol : eol ∈ eols) {xs ys : List Char}
    (h : Marks.Occurs foldCase endMark (xs ++ eol ++ ys)) :
    Marks.Occurs foldCase endMark xs ∨ Marks.Occurs foldCase endMark ys := by
  rcases List.mem_cons.mp heol with rfl | heol
  · rw [List.append_assoc] at h
    exact Marks.occurs_append_cons (by decide) h
  · rw [List.mem_singleton] at heol
    subst heol
    rw [List.append_assoc] at h
    rcases Marks.occurs_append_cons (by decide) h with h | h
    · exact .inl h
    · exact .inr (occurs_of_cons (by decide) h)

theorem Folded.occurs {line text : List Char} (h : Folded line text)
    (ho : Marks.Occurs foldCase endMark text) : Marks.Occurs foldCase endMark line := by
  induction h with
  | nil => exact ho
  | cons c hrest ih =>
      rcases occurs_cons_iff.mp ho with ⟨rest, hafter⟩ | ho
      · refine occurs_cons_iff.mpr (.inl ?_)
        exact (Folded.cons c hrest).after
          (fun c hc => ⟨(not_mem_endMark hc).1, (not_mem_endMark hc).2.1⟩) hafter
      · exact (ih ho).cons c
  | @fold eol blank line text heol hblank _ ih =>
      have hblank' : foldCase blank ∉ endMark := by
        rcases hblank with rfl | rfl <;> decide
      have hplain : Marks.Occurs foldCase endMark ([] ++ eol ++ blank :: text) := by
        rw [List.nil_append]
        exact ho
      rcases occurs_eol heol hplain with ho | ho
      · exact absurd ho not_occurs_nil
      · exact ih (occurs_of_cons hblank' ho)

theorem Body.occurs {ls : List ContentLine} {body xs : List Char} (h : Body ls body)
    (ho : Marks.Occurs foldCase endMark (xs ++ body)) :
    Marks.Occurs foldCase endMark xs ∨ ∃ l ∈ ls, Marks.Occurs foldCase endMark l.text := by
  induction h generalizing xs with
  | @nil eol heol =>
      rw [← List.append_nil (xs ++ eol)] at ho
      rcases occurs_eol heol ho with ho | ho
      · exact .inl ho
      · exact absurd ho not_occurs_nil
  | @cons l ls eol text rest heol hfolded hrest ih =>
      rw [← List.append_assoc, ← List.append_assoc, List.append_assoc (xs ++ eol)] at ho
      rcases occurs_eol heol ho with ho | ho
      · exact .inl ho
      · rcases ih ho with ho | ⟨l', hl', ho⟩
        · exact .inr ⟨l, List.mem_cons_self, hfolded.occurs ho⟩
        · exact .inr ⟨l', List.mem_cons_of_mem _ hl', ho⟩

/-- A body ends an event early only if one of its lines does. -/
theorem Body.not_occurs {ls : List ContentLine} {body : List Char} (h : Body ls body)
    (hlines : ∀ l ∈ ls, ¬ Marks.Occurs foldCase endMark l.text) :
    ¬ Marks.Occurs foldCase endMark body := by
  intro ho
  rw [← List.nil_append body] at ho
  rcases h.occurs ho with ho | ⟨l, hl, ho⟩
  · exact not_occurs_nil ho
  · exact hlines l hl ho

/-! ### Events and feeds -/

/-- An event of a calendar. -/
structure CalendarEvent where
  summary : List Char
  uid : List Char
  start : Time
  stop : Option Time

/-- The end of an event, or its start if it has none. -/
def CalendarEvent.ending (e : CalendarEvent) : Time := e.stop.getD e.start

/-- Entries say what an event is; other keys may be among them, and the last entry of a key
stands. -/
structure Describes (es : List (List Char × List Char)) (e : CalendarEvent) : Prop where
  summary : (entry es "SUMMARY").getD [] = e.summary
  uid : (entry es "UID").getD [] = e.uid
  start : ∃ raw, entry es "DTSTART" = some raw ∧ Spells raw e.start
  stop : ∀ t ∈ e.stop, ∃ raw, entry es "DTEND" = some raw ∧ Spells raw t
  open_ended : e.stop = none → entry es "DTEND" = none

/-- An event as a calendar wrote it into a feed. -/
structure FeedEvent where
  event : CalendarEvent
  lines : List ContentLine
  written : Marks.Written Char
  describes : Describes (lines.map ContentLine.entry) event
  folded : Body lines written.body
  opens : written.opening.map foldCase = beginMark
  closes : written.closing.map foldCase = endMark
  gap : ¬ Marks.Occurs foldCase beginMark written.gap
  unmarked : ∀ l ∈ lines, ¬ Marks.Occurs foldCase endMark l.text

/-- The text of a feed. -/
def feed (events : List FeedEvent) (tail : List Char) : List Char :=
  (events.map (·.written)).flatMap Marks.Written.text ++ tail

/-- The hub lists an event. -/
def CalendarEvent.Listed (now : Time) (e : CalendarEvent) : Prop :=
  now ≤ e.ending ∧ e.start ≤ now + seconds 86400

instance (now : Time) (e : CalendarEvent) : Decidable (e.Listed now) :=
  inferInstanceAs (Decidable (_ ∧ _))

/-- How the hub lists it. -/
def CalendarEvent.listing (e : CalendarEvent) : Listing where
  summary := e.summary.take 300
  start := isoformat e.start
  stop := isoformat e.ending
  uid := e.uid.take 120

theorem Describes.listing {es : List (List Char × List Char)} {e : CalendarEvent}
    (h : Describes es e) (now : Time) :
    listing now es = if e.Listed now then some e.listing else none := by
  obtain ⟨raw, hraw, hstart⟩ := h.start
  have hstop : (parseIcalDt (entry es "DTEND")).getD e.start = e.ending := by
    rw [CalendarEvent.ending]
    cases hend : e.stop with
    | none =>
        rw [h.open_ended hend]
        rfl
    | some t =>
        obtain ⟨raw', hraw', hspells⟩ := h.stop t hend
        rw [hraw', parseIcalDt_of_spells hspells]
  rw [Sources.listing, hraw, parseIcalDt_of_spells hstart]
  simp only [hstop, h.summary, h.uid]
  by_cases hlisted : e.Listed now
  · rw [if_pos hlisted, if_neg]
    · rfl
    · obtain ⟨hend, hbegin⟩ := hlisted
      rintro (h | h)
      · exact absurd h (not_lt.mpr hend)
      · exact absurd h (not_lt.mpr hbegin)
  · rw [if_neg hlisted, if_pos]
    by_contra hnot
    rw [not_or, not_lt, not_lt] at hnot
    exact hlisted hnot

theorem eventBlocks_feed (events : List FeedEvent) {tail : List Char}
    (htail : ¬ Marks.Occurs foldCase beginMark tail) :
    eventBlocks (feed events tail) = events.map (·.written.body) := by
  have hlength : events.length ≤ (feed events tail).length := by
    have hone : ∀ e : FeedEvent, 1 ≤ e.written.text.length := by
      intro e
      have hlen := congrArg List.length e.opens
      rw [List.length_map] at hlen
      have hmark : beginMark.length = 12 := rfl
      simp only [Marks.Written.text, List.length_append]
      omega
    rw [feed, List.length_append]
    refine Nat.le_add_right_of_le ?_
    induction events with
    | nil => exact Nat.zero_le _
    | cons e events ih =>
        rw [List.map_cons, List.flatMap_cons, List.length_append, List.length_cons]
        have := hone e
        omega
  have hsound : ∀ w ∈ events.map (·.written), w.Sound foldCase beginMark endMark := by
    intro w hw
    obtain ⟨e, -, rfl⟩ := List.mem_map.mp hw
    exact ⟨e.opens, e.closes, e.gap, e.folded.not_occurs e.unmarked⟩
  rw [eventBlocks, feed, Marks.blocks_text (by decide) (by decide) hsound htail
    (by rw [List.length_map]; exact hlength), List.map_map]
  rfl

/-- The events of a feed that the hub lists, by their starts. -/
def listed (now : Time) (events : List FeedEvent) : List FeedEvent :=
  (events.filter fun e => e.event.Listed now).insertionSort fun a b => a.event.start ≤ b.event.start

theorem FeedEvent.start_spec (e : FeedEvent) : IsDatetime e.event.start ∧ IsWhole e.event.start := by
  obtain ⟨raw, -, hspells⟩ := e.describes.start
  exact ⟨hspells.isDatetime, hspells.isWhole⟩

theorem FeedEvent.ending_spec (e : FeedEvent) :
    IsDatetime e.event.ending ∧ IsWhole e.event.ending := by
  rw [CalendarEvent.ending]
  cases hstop : e.event.stop with
  | none => exact e.start_spec
  | some t =>
      obtain ⟨raw, -, hspells⟩ := e.describes.stop t hstop
      exact ⟨hspells.isDatetime, hspells.isWhole⟩

/-- The texts of the starts sort as the starts do. -/
theorem byStart_listing (events : List FeedEvent) :
    byStart (events.map fun e => e.event.listing)
      = (events.insertionSort fun a b => a.event.start ≤ b.event.start).map
          fun e => e.event.listing := by
  rw [byStart]
  refine (List.map_insertionSort (fun a b : FeedEvent => a.event.start ≤ b.event.start)
    (fun a b : Listing => a.start ≤ b.start) _ _ fun a _ b _ => ?_).symm
  have hlt := isoformat_lt_iff b.start_spec.1 a.start_spec.1 b.start_spec.2 a.start_spec.2
  show a.event.start ≤ b.event.start ↔ ¬ isoformat b.event.start < isoformat a.event.start
  rw [hlt, not_lt]

/-- The events that the hub finds in a feed. -/
theorem listings_feed (now : Time) (events : List FeedEvent) {tail : List Char}
    (htail : ¬ Marks.Occurs foldCase beginMark tail) :
    byStart ((eventBlocks (feed events tail)).filterMap fun block => listing now (entries block))
      = (listed now events).map fun e => e.event.listing := by
  have hread : (events.map (·.written.body)).filterMap (fun block => listing now (entries block))
      = (events.filter fun e => e.event.Listed now).map fun e => e.event.listing := by
    induction events with
    | nil => rfl
    | cons e events ih =>
        rw [List.map_cons, List.filterMap_cons, e.folded.entries, e.describes.listing now]
        by_cases h : e.event.Listed now
        · rw [if_pos h, List.filter_cons_of_pos (by simpa using h), List.map_cons, ← ih]
        · rw [if_neg h, List.filter_cons_of_neg (by simpa using h), ← ih]
  rw [eventBlocks_feed events htail, hread, byStart_listing, listed]

/-- A line without parameters. -/
def plainLine (key value : String) (hne : key.toList ≠ []) (hkey : ∀ c ∈ key.toList, isKeyChar c)
    (hvalue : ∀ c ∈ value.toList, isLineBreak c = false)
    (htrim : ∀ c ∈ value.toList.getLast?, Text.isspace c = false) : ContentLine where
  key := key.toList
  params := none
  value := value.toList
  key_ne := hne
  key_chars := hkey
  params_chars := by simp
  value_chars := hvalue
  trimmed := htrim

def summaryLine : ContentLine :=
  plainLine "SUMMARY" "Tea" (by decide) (by simp [isKeyChar]) (by simp [isLineBreak])
    (by simp [Text.isspace])

def endLine : ContentLine :=
  plainLine "DTEND" "19700101T020000" (by decide) (by simp [isKeyChar]) (by simp [isLineBreak])
    (by simp [Text.isspace])

def startLine : ContentLine :=
  plainLine "DTSTART" "19700101T010000Z" (by decide) (by simp [isKeyChar]) (by simp [isLineBreak])
    (by simp [Text.isspace])

/-- Early on the first day of 1970. -/
def teaTime : Time := Iso.daysFromCivil 1970 1 1 * 86400000000 + (3600 : Nat) * 1000000

theorem spells_teaTime : Spells "19700101T010000Z".toList teaTime :=
  show Spells (compactDate 1970 1 1 ++ 'T' :: (compactClock 3600 ++ ['Z'])) teaTime from
    .utc (by decide) (by decide) (by decide)

theorem spells_teaEnd : Spells "19700101T020000".toList (teaTime + seconds 3600) :=
  show Spells (compactDate 1970 1 1 ++ 'T' :: compactClock 7200)
    (Iso.daysFromCivil 1970 1 1 * 86400000000 + (7200 : Nat) * 1000000) from
    .floating (by decide) (by decide) (by decide)

/-- A summary that is folded in its key. -/
theorem folded_summary : Folded summaryLine.text "SUM\n MARY:Tea".toList :=
  .cons 'S' (.cons 'U' (.cons 'M' (.fold List.mem_cons_self (.inl rfl)
    (Folded.refl "MARY:Tea".toList))))

/-- An event as a calendar writes it. -/
def tea : FeedEvent where
  event :=
    { summary := "Tea".toList, uid := [], start := teaTime, stop := some (teaTime + seconds 3600) }
  lines := [summaryLine, startLine, endLine]
  written :=
    { gap := "BEGIN:VCALENDAR\n".toList, opening := "BEGIN:VEVENT".toList,
      body := ['\n'] ++ "SUM\n MARY:Tea".toList ++ (['\n'] ++ startLine.text ++
        (['\n'] ++ endLine.text ++ ['\n'])),
      closing := "END:VEVENT".toList }
  describes :=
    { summary := rfl
      uid := rfl
      start := ⟨_, rfl, spells_teaTime⟩
      stop := fun t ht => ⟨_, rfl, Option.mem_some_iff.mp ht ▸ spells_teaEnd⟩
      open_ended := fun h => by cases h }
  folded :=
    have hn : ['\n'] ∈ eols := List.mem_cons_self
    .cons hn folded_summary (.cons hn (Folded.refl startLine.text)
      (.cons hn (Folded.refl endLine.text) (.nil hn)))
  opens := by decide
  closes := by decide
  gap := by decide
  unmarked := by decide

end RebooterHub.Sources
