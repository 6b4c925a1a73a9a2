import RebooterHub.Data.Spelling
import RebooterHub.Sources.Calendar

/-!
# Sources — Stamps

The texts of calendar times, read back.

* `Spells raw t`: `raw` is a UTC, a floating or a date-only text of the instant `t`.
* `parseIcalDt_of_spells`: such a text is read as its instant.
* `eventTime_isoformat`: so is the text that a listed event carries, by the probe that reads it.
-/

namespace RebooterHub.Sources
open Iso Watchdog

/-! ### Digits -/

theorem ofDigitChars_pad (width n init : Nat) :
    Nat.ofDigitChars 10 (pad width n) init = init * 10 ^ width + n % 10 ^ width := by
  induction width generalizing init with
  | zero => simp [pad, Nat.mod_one]
  | succ width ih =>
      have hdigit : (Nat.digitChar (n / 10 ^ width % 10)).toNat - '0'.toNat
          = n / 10 ^ width % 10 := by
        have hlt : n / 10 ^ width % 10 < 10 := Nat.mod_lt _ (by decide)
        interval_cases n / 10 ^ width % 10 <;> rfl
      rw [pad, Nat.ofDigitChars_cons, ih, hdigit, Nat.mod_pow_succ, Nat.pow_succ, Nat.add_mul]
      ring

theorem int_digits {cs : List Char} (hne : cs ≠ []) (h : ∀ c ∈ cs, c.isDigit) :
    Text.int cs = some ((Nat.ofDigitChars 10 cs 0 : Nat) : Int) := by
  have hstrip : Text.strip cs = cs :=
    Text.strip_digits fun c hc => Text.isspace_of_isDigit (h c hc)
  cases cs with
  | nil => exact absurd rfl hne
  | cons c cs =>
      obtain ⟨hc, hcs⟩ := List.forall_mem_cons.mp h
      rw [Text.int, hstrip]
      split
      · next heq =>
          cases heq
          exact absurd hc (by decide)
      · next heq =>
          cases heq
          exact absurd hc (by decide)
      · simp [Text.natural, Text.decimal_of_isDigit hc, Text.moreDigits_of_isDigit hcs,
          Nat.ofDigitChars_cons]

theorem int_pad {width n : Nat} (h : n < 10 ^ (width + 1)) :
    Text.int (pad (width + 1) n) = some (n : Int) := by
  have hne : pad (width + 1) n ≠ [] := List.cons_ne_nil _ _
  rw [int_digits hne fun c hc => isDigit_of_mem_pad hc, ofDigitChars_pad, Nat.zero_mul,
    Nat.zero_add, Nat.mod_eq_of_lt h]

theorem isDecimal_digitChar (k : Nat) : isDecimal (Nat.digitChar (k % 10)) = true := by
  have hk : k % 10 < 10 := Nat.mod_lt _ (by decide)
  interval_cases k % 10 <;> rfl

/-! ### Fields -/

/-- The first match of a field, if the rest of the format matches after it. -/
theorem matching_field {alternatives : List (List (Char → Bool))} {format : List Directive}
    {cs taken rest rest' : List Char} {fields : List (List Char)}
    (hfirst : (alternatives.filterMap (sequence · cs)).head? = some (taken, rest))
    (hrest : (matching format rest).head? = some (fields, rest')) :
    (matching (.field alternatives :: format) cs).head? = some (taken :: fields, rest') := by
  rw [matching]
  cases hall : alternatives.filterMap (sequence · cs) with
  | nil =>
      rw [hall] at hfirst
      cases hfirst
  | cons r rs =>
      rw [hall] at hfirst
      cases hfirst
      rw [List.flatMap_cons, List.head?_append, List.head?_map, hrest]
      rfl

theorem matching_literal {format : List Directive} (d : Char) (cs : List Char) :
    matching (.literal d :: format) (d :: cs) = matching format cs := by
  rw [matching, if_pos rfl]

theorem sequence_suffix {ps : List (Char → Bool)} {cs taken rest : List Char}
    (h : sequence ps cs = some (taken, rest)) : rest <:+ cs := by
  induction ps generalizing cs taken with
  | nil =>
      cases h
      exact List.suffix_rfl
  | cons p ps ih =>
      cases cs with
      | nil => cases h
      | cons c cs =>
          rw [sequence] at h
          split at h
          · obtain ⟨⟨taken', rest'⟩, hseq, heq⟩ := Option.map_eq_some_iff.mp h
            cases heq
            exact (ih hseq).trans (List.suffix_cons _ _)
          · cases h

/-- What a format matches has a character for each of its own. -/
theorem mem_of_matching {format : List Directive} {cs : List Char}
    {r : List (List Char) × List Char} {d : Char} (h : r ∈ matching format cs)
    (hd : Directive.literal d ∈ format) : ∃ c ∈ cs, foldCase c = foldCase d := by
  induction format generalizing cs r with
  | nil => cases hd
  | cons directive format ih =>
      cases directive with
      | literal d' =>
          cases cs with
          | nil => cases h
          | cons c cs =>
              rw [matching] at h
              split at h
              · next hc =>
                  rcases List.mem_cons.mp hd with heq | hd
                  · cases heq
                    exact ⟨c, List.mem_cons_self, hc⟩
                  · obtain ⟨c', hc', hfold⟩ := ih h hd
                    exact ⟨c', List.mem_cons_of_mem _ hc', hfold⟩
              · cases h
      | field alternatives =>
          rw [matching, List.mem_flatMap] at h
          obtain ⟨⟨taken, rest⟩, htaken, h⟩ := h
          obtain ⟨⟨fields, rest'⟩, hmatch, rfl⟩ := List.mem_map.mp h
          rcases List.mem_cons.mp hd with heq | hd
          · cases heq
          · obtain ⟨c, hc, hfold⟩ := ih hmatch hd
            obtain ⟨ps, -, hseq⟩ := List.mem_filterMap.mp htaken
            exact ⟨c, (sequence_suffix hseq).subset hc, hfold⟩

section
variable {format : List Directive} {rest rest' : List Char} {fields : List (List Char)} {n : Nat}

open Directive

theorem year_pad (hrest : (matching format rest).head? = some (fields, rest')) (y : Nat) :
    (matching (year :: format) (pad 4 y ++ rest)).head? = some (pad 4 y :: fields, rest') := by
  refine matching_field ?_ hrest
  simp [pad, sequence, isDecimal_digitChar]

theorem month_pad (hrest : (matching format rest).head? = some (fields, rest')) (h1 : 1 ≤ n)
    (h : n ≤ 12) :
    (matching (month :: format) (pad 2 n ++ rest)).head? = some (pad 2 n :: fields, rest') := by
  refine matching_field ?_ hrest
  interval_cases n <;> rfl

theorem day_pad (hrest : (matching format rest).head? = some (fields, rest')) (h1 : 1 ≤ n)
    (h : n ≤ 31) :
    (matching (day :: format) (pad 2 n ++ rest)).head? = some (pad 2 n :: fields, rest') := by
  refine matching_field ?_ hrest
  interval_cases n <;> rfl

theorem hour_pad (hrest : (matching format rest).head? = some (fields, rest')) (h : n < 24) :
    (matching (hour :: format) (pad 2 n ++ rest)).head? = some (pad 2 n :: fields, rest') := by
  refine matching_field ?_ hrest
  interval_cases n <;> rfl

theorem minute_pad (hrest : (matching format rest).head? = some (fields, rest')) (h : n < 60) :
    (matching (minute :: format) (pad 2 n ++ rest)).head? = some (pad 2 n :: fields, rest') := by
  refine matching_field ?_ hrest
  interval_cases n <;> rfl

theorem second_pad (hrest : (matching format rest).head? = some (fields, rest')) (h : n < 60) :
    (matching (second :: format) (pad 2 n ++ rest)).head? = some (pad 2 n :: fields, rest') := by
  refine matching_field ?_ hrest
  interval_cases n <;> rfl

end

/-! ### Texts of an instant -/

/-- `YYYYMMDD`. -/
def compactDate (y m d : Nat) : List Char := pad 4 y ++ (pad 2 m ++ pad 2 d)

/-- `HHMMSS`, of the seconds since midnight. -/
def compactClock (s : Nat) : List Char := pad 2 (s / 3600) ++ (pad 2 (s / 60 % 60) ++ pad 2 (s % 60))

/-- The texts of a calendar for an instant. -/
inductive Spells : List Char → Time → Prop
  | utc {y m d s : Nat} : IsDate y m d → y ≤ 9999 → s < 86400 →
      Spells (compactDate y m d ++ 'T' :: (compactClock s ++ ['Z']))
        (daysFromCivil y m d * 86400000000 + s * 1000000)
  | floating {y m d s : Nat} : IsDate y m d → y ≤ 9999 → s < 86400 →
      Spells (compactDate y m d ++ 'T' :: compactClock s)
        (daysFromCivil y m d * 86400000000 + s * 1000000)
  | date {y m d : Nat} : IsDate y m d → y ≤ 9999 →
      Spells (compactDate y m d) (daysFromCivil y m d * 86400000000)

theorem Spells.isDatetime {raw : List Char} {t : Time} (h : Spells raw t) : IsDatetime t := by
  have hrange : ∀ {y m d : Nat}, IsDate y m d → y ≤ 9999 → ∀ s : Nat, s < 86400 →
      IsDatetime (daysFromCivil y m d * 86400000000 + s * 1000000) := by
    intro y m d hdate hy s hs
    have hfirst := lt_daysFromCivil hdate
    have hlast := daysFromCivil_le hdate
    have hyears := daysBeforeYear_le (a := (y : Int)) (b := 9999) (by omega)
    have hstart := daysBeforeYear_le (a := 0) (b := (y : Int) - 1) (by
      have := hdate.1
      omega)
    rw [IsDatetime]
    omega
  cases h with
  | utc hdate hy hs => exact hrange hdate hy _ hs
  | floating hdate hy hs => exact hrange hdate hy _ hs
  | date hdate hy => simpa using hrange hdate hy 0 (by decide)

theorem Spells.isWhole {raw : List Char} {t : Time} (h : Spells raw t) : IsWhole t := by
  cases h with
  | utc => rw [IsWhole]; omega
  | floating => rw [IsWhole]; omega
  | date => rw [IsWhole]; omega

/-- Every whole second of a `datetime` has a text. -/
theorem exists_spells {t : Int} (h : IsDatetime t) (hwhole : IsWhole t) : ∃ raw, Spells raw t := by
  obtain ⟨y, m, d, s, -, hdate, hy, -, hs, hsum⟩ := h.exists_fields
  rw [hwhole, Int.sub_zero] at hsum
  exact ⟨_, hsum ▸ Spells.utc hdate hy hs⟩

section
variable {y m d s : Nat}

theorem matching_date (hdate : IsDate y m d) (rest : List Char) {format : List Directive}
    {fields : List (List Char)} {rest' : List Char}
    (hrest : (matching format rest).head? = some (fields, rest')) :
    (matching (Directive.year :: Directive.month :: Directive.day :: format)
      (compactDate y m d ++ rest)).head? = some (pad 4 y :: pad 2 m :: pad 2 d :: fields, rest') := by
  obtain ⟨-, hm1, hm, hd1, hd⟩ := hdate
  rw [compactDate, List.append_assoc, List.append_assoc]
  exact year_pad (month_pad (day_pad hrest hd1 (hd.trans (daysInMonth_le y m))) hm1 hm) y

theorem matching_clock (hs : s < 86400) (rest : List Char) {format : List Directive}
    {fields : List (List Char)} {rest' : List Char}
    (hrest : (matching format rest).head? = some (fields, rest')) :
    (matching (Directive.hour :: Directive.minute :: Directive.second :: format)
      (compactClock s ++ rest)).head?
      = some (pad 2 (s / 3600) :: pad 2 (s / 60 % 60) :: pad 2 (s % 60) :: fields, rest') := by
  rw [compactClock, List.append_assoc, List.append_assoc]
  exact hour_pad (minute_pad (second_pad hrest (by omega)) (by omega)) (by omega)

theorem datetime_fields (hdate : IsDate y m d) (hs : s < 86400) :
    datetime y m d (s / 3600) (s / 60 % 60) (s % 60)
      = some (daysFromCivil y m d * 86400000000 + s * 1000000) := by
  obtain ⟨hy, hm1, hm, hd1, hd⟩ := hdate
  have hsum : s / 3600 * 3600 + s / 60 % 60 * 60 + s % 60 = s := by omega
  rw [datetime, if_pos ⟨hy, hm1, hm, hd1, hd, by omega, by omega, by omega⟩, hsum]

theorem int_pad_toNat {width n : Nat} (h : n < 10 ^ (width + 1)) :
    (Text.int (pad (width + 1) n)).map Int.toNat = some n := by
  rw [int_pad h]
  rfl

theorem readStamp_clock {raw : List Char} {format : List Directive} (hdate : IsDate y m d)
    (hy : y ≤ 9999) (hs : s < 86400)
    (hmatch : (matching format raw).head? = some ([pad 4 y, pad 2 m, pad 2 d, pad 2 (s / 3600),
      pad 2 (s / 60 % 60), pad 2 (s % 60)], [])) :
    readStamp format raw = some (daysFromCivil y m d * 86400000000 + s * 1000000) := by
  have hd := hdate.2.2.2.2.trans (daysInMonth_le y m)
  have hm := hdate.2.2.1
  have hfields : strptime format raw
      = some [y, m, d, s / 3600, s / 60 % 60, s % 60] := by
    rw [strptime, hmatch]
    simp only [List.mapM_cons, List.mapM_nil]
    rw [int_pad_toNat (by omega), int_pad_toNat (by omega), int_pad_toNat (by omega),
      int_pad_toNat (by omega), int_pad_toNat (by omega), int_pad_toNat (by omega)]
    rfl
  rw [readStamp, hfields]
  exact datetime_fields hdate hs

theorem readStamp_date (hdate : IsDate y m d) (hy : y ≤ 9999) :
    readStamp dateFormat (compactDate y m d) = some (daysFromCivil y m d * 86400000000) := by
  have hd := hdate.2.2.2.2.trans (daysInMonth_le y m)
  have hm := hdate.2.2.1
  have hend : (matching [] []).head? = some ([], []) := rfl
  have hmatch := matching_date hdate [] hend
  rw [List.append_nil] at hmatch
  have hfields : strptime dateFormat (compactDate y m d) = some [y, m, d] := by
    rw [strptime, dateFormat, hmatch]
    simp only [List.mapM_cons, List.mapM_nil]
    rw [int_pad_toNat (by omega), int_pad_toNat (by omega), int_pad_toNat (by omega)]
    rfl
  have hzero := datetime_fields (s := 0) hdate (by decide)
  rw [readStamp, hfields]
  simpa using hzero

end

/-- The characters of a text of an instant. -/
theorem Spells.isDigit {raw : List Char} {t : Time} (h : Spells raw t) :
    ∀ c ∈ raw, c.isDigit ∨ c = 'T' ∨ c = 'Z' := by
  intro c hc
  cases h with
  | utc hdate hy hs =>
      simp only [compactDate, compactClock, List.mem_append, List.mem_cons, List.not_mem_nil,
        or_false] at hc
      rcases hc with (hc | hc | hc) | rfl | (hc | hc | hc) | rfl <;>
        first
        | exact .inl (isDigit_of_mem_pad hc)
        | simp
  | floating hdate hy hs =>
      simp only [compactDate, compactClock, List.mem_append, List.mem_cons] at hc
      rcases hc with (hc | hc | hc) | rfl | hc | hc | hc <;>
        first
        | exact .inl (isDigit_of_mem_pad hc)
        | simp
  | date hdate hy =>
      simp only [compactDate, List.mem_append] at hc
      rcases hc with hc | hc | hc <;> exact .inl (isDigit_of_mem_pad hc)

theorem foldCase_of_isDigit {c : Char} (h : c.isDigit) : foldCase c = c := by
  rw [Char.isDigit, Bool.and_eq_true, decide_eq_true_eq, decide_eq_true_eq] at h
  have hhigh : c.toNat ≤ 57 := h.2
  have hletter : ¬ ('A' ≤ c ∧ c ≤ 'Z') := fun hc => by
    have hlow : 65 ≤ c.toNat := hc.1
    omega
  rw [foldCase, if_neg hletter, if_neg (by omega), if_neg (by omega), if_neg (by omega)]

/-- Only the UTC format asks for a `Z`. -/
theorem readStamp_utc_floating {y m d s : Nat} :
    readStamp utcFormat (compactDate y m d ++ 'T' :: compactClock s) = none := by
  have hnone : matching utcFormat (compactDate y m d ++ 'T' :: compactClock s) = [] := by
    rw [List.eq_nil_iff_forall_not_mem]
    intro r hr
    obtain ⟨c, hc, hfold⟩ := mem_of_matching (d := 'Z') hr (by simp [utcFormat])
    have hdigit : c.isDigit ∨ c = 'T' := by
      simp only [compactDate, compactClock, List.mem_append, List.mem_cons] at hc
      rcases hc with (hc | hc | hc) | rfl | hc | hc | hc <;>
        first
        | exact .inl (isDigit_of_mem_pad hc)
        | exact .inr rfl
    rcases hdigit with hdigit | rfl
    · rw [foldCase_of_isDigit hdigit] at hfold
      subst hfold
      exact absurd hdigit (by decide)
    · exact absurd hfold (by decide)
  rw [readStamp, strptime, hnone]
  rfl

/-- **A calendar time is read as its instant.** -/
theorem parseIcalDt_of_spells {raw : List Char} {t : Time} (h : Spells raw t) :
    parseIcalDt (some raw) = some t := by
  have hstrip : Text.strip raw = raw := by
    refine Text.strip_digits fun c hc => ?_
    rcases h.isDigit c hc with hdigit | rfl | rfl
    · exact Text.isspace_of_isDigit hdigit
    · decide
    · decide
  have hread : parseIcalDt (some raw) =
      if raw.length = 8 ∧ raw.all isDecimal then readStamp dateFormat raw
      else (readStamp utcFormat raw).or (readStamp floatingFormat raw) := by
    have hne : raw ≠ [] := by
      cases h <;> simp [compactDate, pad]
    obtain ⟨c, cs, rfl⟩ := List.exists_cons_of_ne_nil hne
    rw [parseIcalDt, hstrip]
    intro hnil
    cases hnil
  rw [hread]
  cases h with
  | utc hdate hy hs =>
      rw [if_neg fun hlen => by simp [compactDate, compactClock] at hlen]
      have hend : (matching [.literal 'Z'] ['Z']).head? = some ([], []) := rfl
      have hclock := matching_clock hs ['Z'] hend
      rw [← matching_literal 'T'] at hclock
      have hread : readStamp utcFormat _ = _ :=
        readStamp_clock hdate hy hs (matching_date hdate _ hclock)
      rw [hread, Option.some_or]
  | floating hdate hy hs =>
      rw [if_neg fun hlen => by simp [compactDate, compactClock] at hlen, readStamp_utc_floating,
        Option.none_or]
      have hend : (matching [] []).head? = some ([], []) := rfl
      have hclock := matching_clock hs [] hend
      rw [List.append_nil, ← matching_literal 'T'] at hclock
      exact readStamp_clock hdate hy hs (matching_date hdate _ hclock)
  | @date y m d hdate hy =>
      have hdigits : (compactDate y m d).all isDecimal = true := by
        rw [List.all_eq_true]
        intro c hc
        simp only [compactDate, List.mem_append] at hc
        have hdigit : c.isDigit := by
          rcases hc with hc | hc | hc <;> exact isDigit_of_mem_pad hc
        rw [isDecimal, Text.decimal_of_isDigit hdigit]
        rfl
      rw [if_pos ⟨by simp [compactDate], hdigits⟩]
      exact readStamp_date hdate hy

/-! ### The texts of the payload -/

/-- `isoformat` of a whole second. -/
theorem exists_isoformat {t : Int} (h : IsDatetime t) (hwhole : IsWhole t) : ∃ y m d s : Nat,
    IsDate y m d ∧ y ≤ 9999 ∧ s < 86400 ∧ daysFromCivil y m d * 86400000000 + s * 1000000 = t ∧
      (isoformat t).toList = dateText y m d ++ 'T' :: (clockText s ++ "+00:00".toList) := by
  obtain ⟨y, m, d, s, hcivil, hdate, hy, hs, hlt, hsum⟩ := h.exists_fields
  have htext := strftime_toList hcivil hdate hy hs hlt
  have hmicros : t % 1000000 = 0 := hwhole
  refine ⟨y, m, d, s, hdate, hy, hlt, by rw [hsum, hmicros, Int.sub_zero], ?_⟩
  simp only [isoformat]
  rw [htext, List.dropLast_concat, if_pos hmicros]
  simp

/-- The texts of whole seconds are in their order. -/
theorem isoformat_lt_iff {t u : Int} (ht : IsDatetime t) (hu : IsDatetime u) (hwt : IsWhole t)
    (hwu : IsWhole u) : isoformat t < isoformat u ↔ t < u := by
  obtain ⟨y, m, d, s, hdate, hy, hs, rfl, htext⟩ := exists_isoformat ht hwt
  obtain ⟨y', m', d', s', hdate', hy', hs', rfl, htext'⟩ := exists_isoformat hu hwu
  rw [String.lt_iff_toList_lt, htext, htext', dateText_cons_lt_iff hdate hdate' hy hy',
    clockText_append_lt_iff hs hs']
  omega

/-- The probe of calendar events reads the text of a listed event as its instant in UTC. -/
theorem eventTime_isoformat {t : Int} (h : IsDatetime t) (hwhole : IsWhole t) :
    eventTime (isoformat t).toList = some ⟨t, true⟩ := by
  obtain ⟨y, m, d, s, hdate, hy, hs, hsum, htext⟩ := exists_isoformat h hwhole
  have hsame : (isoformat t).toList.flatMap (fun c => if c = 'Z' then "+00:00".toList else [c])
      = (isoformat t).toList := by
    have hmap : ∀ c ∈ (isoformat t).toList,
        (if c = 'Z' then "+00:00".toList else [c]) = [c] := by
      intro c hc
      refine if_neg ?_
      rintro rfl
      rw [htext] at hc
      have hpad : ∀ width n, 'Z' ∉ pad width n :=
        fun width n hz => absurd (isDigit_of_mem_pad hz) (by decide)
      simp [dateText, clockText, hpad] at hc
    rw [List.flatMap_congr hmap]
    simp
  have hoffset : offset "+00:00".toList = some 0 := rfl
  have hread := fromisoformat_fields hdate hy hs rfl hoffset 'T'
  have hnone : (fromisoformat (String.ofList
      (dateText y m d ++ 'T' :: (clockText s ++ "+00:00+00:00".toList)))).isNone := by
    rw [fromisoformat, String.toList_ofList, date_dateText hdate hy]
    simp only [Option.bind_eq_bind, Option.bind_some]
    rw [timeOfDay_clockText hs]
    rfl
  simp only [eventTime, hsame, String.ofList_toList]
  have hiso : isoformat t
      = String.ofList (dateText y m d ++ 'T' :: (clockText s ++ "+00:00".toList)) := by
    rw [← htext, String.ofList_toList]
  have happend : isoformat t ++ "+00:00" = String.ofList
      (dateText y m d ++ 'T' :: (clockText s ++ "+00:00+00:00".toList)) := by
    apply String.toList_injective
    rw [String.toList_append, htext]
    simp
  rw [happend, hnone, hiso, hread, hsum]
  rfl

end RebooterHub.Sources
