import Mathlib.Tactic.IntervalCases
import Mathlib.Tactic.Linarith
import RebooterHub.Data.Time

/-!
# Data — Calendar

The proleptic Gregorian calendar: `Iso.civil` is right about every day from 0001-01-01 on
(`civil_spec`).

A year is counted from 1 March, so that its leap day is its last; `Iso.civil` looks for the year
in an era of 400 years, which splits into centuries and spans of four years.

* `daysFromCivil_lt_iff`: days are in the order of their dates.
-/

namespace RebooterHub.Iso

/-- A date of the calendar. -/
def IsDate (y m d : Nat) : Prop := 1 ≤ y ∧ 1 ≤ m ∧ m ≤ 12 ∧ 1 ≤ d ∧ d ≤ daysInMonth y m

instance (y m d : Nat) : Decidable (IsDate y m d) := inferInstanceAs (Decidable (_ ∧ _))

/-! ### Leap years -/

theorem isLeap_iff {y : Nat} : isLeap y = true ↔ y % 4 = 0 ∧ (y % 100 ≠ 0 ∨ y % 400 = 0) := by
  simp [isLeap]

/-- The leap days up to the end of a year. -/
theorem leapDays (y : Nat) :
    ((y : Int) - 1) / 4 - ((y : Int) - 1) / 100 + ((y : Int) - 1) / 400
      + (if isLeap y then 1 else 0) = (y : Int) / 4 - (y : Int) / 100 + (y : Int) / 400 := by
  by_cases h : isLeap y = true
  · rw [if_pos h]
    rw [isLeap_iff] at h
    omega
  · rw [if_neg h]
    rw [isLeap_iff] at h
    omega

theorem daysInMonth_two (y : Nat) : (daysInMonth y 2 : Int) = 28 + if isLeap y then 1 else 0 := by
  by_cases h : isLeap y = true
  · simp [daysInMonth, h]
  · simp [daysInMonth, h]

/-! ### The day of an era -/

/-- A day of an era as century, span of four years, year of the span and day of the span. -/
theorem exists_spans {doe : Int} (h0 : 0 ≤ doe) (h1 : doe < 146097) : ∃ c q s j : Int,
    doe = 36524 * c + 1461 * q + s ∧ 0 ≤ c ∧ c ≤ 3 ∧ 0 ≤ q ∧ q ≤ 24 ∧ 0 ≤ j ∧ j ≤ 3 ∧
      365 * j ≤ s ∧ (s < 365 * (j + 1) ∨ s = 1460 ∧ j = 3 ∧ (q < 24 ∨ c = 3)) := by
  by_cases hlast : doe = 146096
  · exact ⟨3, 24, 1460, 3, by omega⟩
  by_cases hspan : doe % 36524 % 1461 = 1460
  · exact ⟨doe / 36524, doe % 36524 / 1461, 1460, 3, by omega⟩
  · exact ⟨doe / 36524, doe % 36524 / 1461, doe % 36524 % 1461, doe % 36524 % 1461 / 365,
      by omega⟩

section
variable {doe c q s j era : Int}

/-- The year of the era, as `civil` computes it. -/
theorem yearOfEra (h : doe = 36524 * c + 1461 * q + s) (hc0 : 0 ≤ c) (hc : c ≤ 3) (hq0 : 0 ≤ q)
    (hq : q ≤ 24) (hj0 : 0 ≤ j) (hj : j ≤ 3) (hs0 : 365 * j ≤ s)
    (hs : s < 365 * (j + 1) ∨ s = 1460 ∧ j = 3 ∧ (q < 24 ∨ c = 3)) :
    (doe - doe / 1460 + doe / 36524 - doe / 146096) / 365 = 100 * c + 4 * q + j := by
  obtain ⟨t, ht0, ht1, ht⟩ : ∃ t : Int, (t = 0 ∨ t = 1 ∧ 1364 ≤ s) ∧ (t = 0 → s ≤ 1459) ∧
      doe / 1460 = 25 * c + q + t := by
    by_cases hlate : 24 * c + q + s < 1460
    · exact ⟨0, by omega⟩
    · exact ⟨1, by omega⟩
  have hcent : doe / 36524 - doe / 146096 = c := by
    by_cases hlast : doe = 146096
    · omega
    · have hr : 1461 * q + s < 36524 := by omega
      clear ht ht0 ht1 hs
      omega
  have hdays : doe - doe / 1460 + doe / 36524 - doe / 146096
      = 365 * (100 * c + 4 * q) + (s - t) := by omega
  rw [hdays]
  omega

/-- The last year of a span ends in a leap day, if the span is not the last of a common century. -/
theorem isLeap_of_spans {Y : Nat} (hY : (Y : Int) = 100 * c + 4 * q + 3 + era * 400)
    (hq0 : 0 ≤ q) (hq : q ≤ 24) (h : q < 24 ∨ c = 3) : isLeap (Y + 1) := by
  rw [isLeap_iff]
  omega

/-- The days before 1 March of a year. -/
theorem days_of_spans {Y : Nat} (hY : (Y : Int) = 100 * c + 4 * q + j + era * 400)
    (hc0 : 0 ≤ c) (hc : c ≤ 3) (hq0 : 0 ≤ q) (hq : q ≤ 24) (hj0 : 0 ≤ j) (hj : j ≤ 3) :
    (365 * Y + (Y / 4 - Y / 100 + Y / 400) : Int)
      = era * 146097 + 36524 * c + 1461 * q + 365 * j := by
  have h4 : (Y : Int) / 4 = 100 * era + 25 * c + q := by omega
  have h100 : (Y : Int) / 100 = 4 * era + c := by omega
  have h400 : (Y : Int) / 400 = era := by omega
  rw [h4, h100, h400, hY]
  linarith

end

/-! ### The date of a day of the year -/

/-- The date of a day of the year that starts on 1 March of the year `Y`. -/
def marchDate (Y doy : Int) : Int × Int × Int :=
  let mp := (5 * doy + 2) / 153
  let m := if mp < 10 then mp + 3 else mp - 9
  (Y + (if m ≤ 2 then 1 else 0), m, doy - (153 * mp + 2) / 5 + 1)

/-- The days from 1 March to the first of the month `mp`, counted from March. -/
def marchDays (mp : Nat) : Nat := (153 * mp + 2) / 5

theorem daysInMonth_march (y : Nat) {mp : Nat} (h : mp < 10) :
    daysInMonth y (mp + 3) = marchDays (mp + 1) - marchDays mp := by
  interval_cases mp <;> rfl

theorem daysBeforeMonth_succ (y m : Nat) :
    daysBeforeMonth y (m + 2) = daysBeforeMonth y (m + 1) + daysInMonth y (m + 1) := by
  simp [daysBeforeMonth, List.range_succ]

theorem daysBeforeMonth_march (y : Nat) {mp : Nat} (h : mp < 10) :
    daysBeforeMonth y (mp + 3) = 31 + daysInMonth y 2 + marchDays mp := by
  induction mp with
  | zero => rfl
  | succ mp ih =>
      have hmono : marchDays mp ≤ marchDays (mp + 1) := Nat.div_le_div_right (by omega)
      have hlen := daysInMonth_march y (Nat.lt_of_succ_lt h)
      rw [show mp + 1 + 3 = mp + 2 + 2 from rfl, daysBeforeMonth_succ, ih (Nat.lt_of_succ_lt h), hlen]
      omega

section
variable {Y doy mp : Nat}

theorem marchDate_eq (hmp : mp = (5 * doy + 2) / 153) :
    marchDate Y doy =
      ((Y : Int) + (if (if (mp : Int) < 10 then (mp : Int) + 3 else mp - 9) ≤ 2 then 1 else 0),
        if (mp : Int) < 10 then (mp : Int) + 3 else mp - 9, (doy : Int) - marchDays mp + 1) := by
  subst hmp
  rfl

theorem marchDays_bounds (hmp : mp = (5 * doy + 2) / 153) :
    marchDays mp ≤ doy ∧ doy < marchDays (mp + 1) := by
  simp only [marchDays]
  omega

/-- From March on the year is `Y`. -/
theorem marchDate_of_lt (hm : mp < 10) (hmp : mp = (5 * doy + 2) / 153) (hY : 1 ≤ Y) :
    ∃ y m d : Nat, marchDate Y doy = ((y : Int), (m : Int), (d : Int)) ∧ IsDate y m d ∧
      daysFromCivil y m d = 365 * Y + (Y / 4 - Y / 100 + Y / 400) + doy - 719468 := by
  obtain ⟨hlo, hhi⟩ := marchDays_bounds hmp
  have hm' : (mp : Int) < 10 := by exact_mod_cast hm
  have hlen := daysInMonth_march Y hm
  have hvalid : IsDate Y (mp + 3) (doy - marchDays mp + 1) :=
    ⟨hY, by omega, by omega, by omega, by omega⟩
  refine ⟨Y, mp + 3, doy - marchDays mp + 1, ?_, hvalid, ?_⟩
  · rw [marchDate_eq hmp, if_pos hm', if_neg (by linarith)]
    push_cast [hlo]
    rw [add_zero]
  · have hleap := leapDays Y
    rw [daysFromCivil, daysBeforeMonth_march Y hm]
    push_cast [hlo]
    rw [daysInMonth_two Y]
    linarith

/-- January and February are of the year after `Y`. -/
theorem marchDate_of_le (hm : 10 ≤ mp) (hmp : mp = (5 * doy + 2) / 153) (hdoy : doy ≤ 365)
    (hleap : doy = 365 → isLeap (Y + 1)) :
    ∃ y m d : Nat, marchDate Y doy = ((y : Int), (m : Int), (d : Int)) ∧ IsDate y m d ∧
      daysFromCivil y m d = 365 * Y + (Y / 4 - Y / 100 + Y / 400) + doy - 719468 := by
  obtain ⟨hlo, hhi⟩ := marchDays_bounds hmp
  have hm' : ¬ (mp : Int) < 10 := by exact_mod_cast Nat.not_lt.mpr hm
  have hcount : ∀ m d : Nat, (daysBeforeMonth (Y + 1) m : Int) + d = doy - 305 →
      daysFromCivil (Y + 1) m d = 365 * Y + (Y / 4 - Y / 100 + Y / 400) + doy - 719468 := by
    intro m d h
    rw [daysFromCivil]
    push_cast
    rw [add_sub_cancel_right]
    linarith
  obtain rfl | rfl : mp = 10 ∨ mp = 11 := by omega
  · have hdays : marchDays 10 = 306 ∧ marchDays 11 = 337 := by decide
    rw [hdays.1] at hlo
    rw [hdays.2] at hhi
    have hvalid : IsDate (Y + 1) 1 (doy - 306 + 1) :=
      ⟨by omega, le_rfl, by decide, by omega, show doy - 306 + 1 ≤ 31 by omega⟩
    refine ⟨Y + 1, 1, doy - 306 + 1, ?_, hvalid, hcount _ _ ?_⟩
    · rw [marchDate_eq hmp, if_neg hm', hdays.1]
      push_cast [hlo]
      rfl
    · push_cast [hlo]
      rw [show daysBeforeMonth (Y + 1) 1 = 0 from rfl]
      push_cast
      linarith
  · have hdays : marchDays 11 = 337 := by decide
    rw [hdays] at hlo
    have hfeb : doy - 337 + 1 ≤ daysInMonth (Y + 1) 2 := by
      have hlen := daysInMonth_two (Y + 1)
      by_cases he : doy = 365
      · rw [if_pos (hleap he)] at hlen
        omega
      · split at hlen <;> omega
    have hvalid : IsDate (Y + 1) 2 (doy - 337 + 1) :=
      ⟨by omega, by decide, by decide, by omega, hfeb⟩
    refine ⟨Y + 1, 2, doy - 337 + 1, ?_, hvalid, hcount _ _ ?_⟩
    · rw [marchDate_eq hmp, if_neg hm', hdays]
      push_cast [hlo]
      rfl
    · push_cast [hlo]
      rw [show daysBeforeMonth (Y + 1) 2 = 31 from rfl]
      push_cast
      linarith

end

/-- `civil` gives the date of every day from 0001-01-01 on. -/
theorem civil_spec {days : Int} (h : -719162 ≤ days) : ∃ y m d : Nat,
    civil days = ((y : Int), (m : Int), (d : Int)) ∧ IsDate y m d ∧ daysFromCivil y m d = days := by
  obtain ⟨era, doe, hera, hrest, hz, h0, h1⟩ : ∃ era doe : Int, (days + 719468) / 146097 = era ∧
      (days + 719468) % 146097 = doe ∧ days + 719468 = era * 146097 + doe ∧ 0 ≤ doe ∧
      doe < 146097 := ⟨_, _, rfl, rfl, by omega⟩
  obtain ⟨c, q, s, j, hdoe, hc0, hc, hq0, hq, hj0, hj, hs0, hs⟩ := exists_spans h0 h1
  obtain ⟨doy, he⟩ : ∃ doy : Nat, (doy : Int) = s - 365 * j := ⟨(s - 365 * j).toNat, by omega⟩
  obtain ⟨Y, hY⟩ : ∃ Y : Nat, (Y : Int) = 100 * c + 4 * q + j + era * 400 :=
    ⟨(100 * c + 4 * q + j + era * 400).toNat, by clear hera hrest; omega⟩
  have hyoe := yearOfEra hdoe hc0 hc hq0 hq hj0 hj hs0 hs
  have hdoy : doe - (365 * (100 * c + 4 * q + j) + (100 * c + 4 * q + j) / 4
      - (100 * c + 4 * q + j) / 100) = doy := by
    have h4 : (100 * c + 4 * q + j) / 4 = 25 * c + q := by clear hera hrest hyoe; omega
    have h100 : (100 * c + 4 * q + j) / 100 = c := by clear hera hrest hyoe; omega
    rw [h4, h100, hdoe, he]
    linarith
  have hciv : civil days = marchDate Y doy := by
    simp only [civil, hera, hrest, hyoe, hdoy, hY, marchDate]
  clear hera hrest hyoe hdoy
  have hcount := days_of_spans hY hc0 hc hq0 hq hj0 hj
  have hleap : doy = 365 → isLeap (Y + 1) := by
    intro hd
    obtain hs | ⟨rfl, rfl, hs⟩ := hs
    · clear hcount
      omega
    · exact isLeap_of_spans hY hq0 hq hs
  have hdate : ∃ y m d : Nat, marchDate Y doy = ((y : Int), (m : Int), (d : Int)) ∧ IsDate y m d ∧
      daysFromCivil y m d = 365 * Y + (Y / 4 - Y / 100 + Y / 400) + doy - 719468 := by
    by_cases hm : (5 * doy + 2) / 153 < 10
    · refine marchDate_of_lt hm rfl ?_
      clear hcount
      omega
    · refine marchDate_of_le (Nat.not_lt.mp hm) rfl ?_ hleap
      clear hcount
      omega
  obtain ⟨y, m, d, hdate, hvalid, hdays⟩ := hdate
  refine ⟨y, m, d, hciv.trans hdate, hvalid, ?_⟩
  rw [hdays, hcount, he]
  linarith

/-- The years of `datetime` have at most four digits. -/
theorem year_le {y m d : Nat} (h : IsDate y m d) (hdays : daysFromCivil y m d ≤ 2932896) :
    y ≤ 9999 := by
  obtain ⟨hy, -, -, hd, -⟩ := h
  rw [daysFromCivil] at hdays
  by_contra hbig
  obtain ⟨n, hn⟩ : ∃ n : Int, (y : Int) - 1 = n := ⟨_, rfl⟩
  rw [hn] at hdays
  have hlow : 9999 ≤ n := by omega
  clear hn
  omega

/-! ### The order of dates -/

theorem daysBeforeMonth_lt {y m m' : Nat} (h1 : 1 ≤ m) (h : m < m') :
    daysBeforeMonth y m + daysInMonth y m ≤ daysBeforeMonth y m' := by
  obtain ⟨k, rfl⟩ := Nat.exists_eq_add_of_le' h1
  induction m' with
  | zero => cases h
  | succ m' ih =>
      cases m' with
      | zero => omega
      | succ m' =>
          rw [daysBeforeMonth_succ]
          rcases Nat.lt_or_eq_of_le (Nat.le_of_lt_succ h) with hlt | heq
          · exact (ih hlt).trans (Nat.le_add_right _ _)
          · rw [← heq]

/-- A year ends with its last day. -/
theorem daysFromCivil_le {y m d : Nat} (h : IsDate y m d) :
    daysFromCivil y m d ≤ 365 * y + (y / 4 - y / 100 + y / 400) - 719163 := by
  obtain ⟨hy, hm1, hm, hd1, hd⟩ := h
  have hlast : daysBeforeMonth y m + d ≤ 337 + daysInMonth y 2 := by
    have hdec : daysBeforeMonth y 12 = 31 + daysInMonth y 2 + marchDays 9 :=
      daysBeforeMonth_march y (by decide)
    have hlen : daysInMonth y 12 = 31 := rfl
    have hmarch : marchDays 9 = 275 := rfl
    rcases Nat.lt_or_eq_of_le hm with hlt | rfl
    · have := daysBeforeMonth_lt (y := y) hm1 hlt
      omega
    · omega
  have hleap := leapDays y
  have hfeb := daysInMonth_two y
  have hlast' : (daysBeforeMonth y m : Int) + d ≤ 337 + daysInMonth y 2 := by exact_mod_cast hlast
  rw [hfeb] at hlast'
  rw [daysFromCivil]
  linarith

theorem lt_daysFromCivil {y m d : Nat} (h : IsDate y m d) :
    365 * ((y : Int) - 1) + (((y : Int) - 1) / 4 - ((y : Int) - 1) / 100 + ((y : Int) - 1) / 400) - 719163
      < daysFromCivil y m d := by
  have hd : (1 : Int) ≤ d := by exact_mod_cast h.2.2.2.1
  have hb : (0 : Int) ≤ daysBeforeMonth y m := Int.natCast_nonneg _
  rw [daysFromCivil]
  linarith

/-- The days before a year grow with the year. -/
theorem daysBeforeYear_le {a b : Int} (h : a ≤ b) :
    365 * a + (a / 4 - a / 100 + a / 400) ≤ 365 * b + (b / 4 - b / 100 + b / 400) := by
  rcases Int.lt_or_eq_of_le h with hlt | rfl
  · omega
  · exact le_rfl

theorem daysFromCivil_lt {y m d y' m' d' : Nat} (h : IsDate y m d) (h' : IsDate y' m' d')
    (hlt : y < y' ∨ y = y' ∧ (m < m' ∨ m = m' ∧ d < d')) :
    daysFromCivil y m d < daysFromCivil y' m' d' := by
  rcases hlt with hy | ⟨rfl, hm | ⟨rfl, hd⟩⟩
  · have hend := daysFromCivil_le h
    have hstart := lt_daysFromCivil h'
    have hyears := daysBeforeYear_le (a := (y : Int)) (b := (y' : Int) - 1) (by omega)
    linarith
  · have hmonths := daysBeforeMonth_lt (y := y) h.2.1 hm
    have hd := h.2.2.2.2
    have hd' := h'.2.2.2.1
    have hsum : (daysBeforeMonth y m : Int) + d < daysBeforeMonth y m' + d' := by
      exact_mod_cast (by omega : daysBeforeMonth y m + d < daysBeforeMonth y m' + d')
    rw [daysFromCivil, daysFromCivil]
    linarith
  · have hd : (d : Int) < d' := by exact_mod_cast hd
    rw [daysFromCivil, daysFromCivil]
    linarith

/-- Days are in the order of their dates. -/
theorem daysFromCivil_lt_iff {y m d y' m' d' : Nat} (h : IsDate y m d) (h' : IsDate y' m' d') :
    daysFromCivil y m d < daysFromCivil y' m' d' ↔
      y < y' ∨ y = y' ∧ (m < m' ∨ m = m' ∧ d < d') := by
  refine ⟨fun hlt => ?_, daysFromCivil_lt h h'⟩
  by_contra hnot
  by_cases heq : y = y' ∧ m = m' ∧ d = d'
  · obtain ⟨rfl, rfl, rfl⟩ := heq
    exact absurd hlt (lt_irrefl _)
  · exact absurd hlt (daysFromCivil_lt h' h (by omega)).not_gt

theorem daysFromCivil_inj {y m d y' m' d' : Nat} (h : IsDate y m d) (h' : IsDate y' m' d')
    (heq : daysFromCivil y m d = daysFromCivil y' m' d') : y = y' ∧ m = m' ∧ d = d' := by
  have hlt := daysFromCivil_lt_iff h h'
  have hgt := daysFromCivil_lt_iff h' h
  rw [heq] at hlt hgt
  simp only [lt_irrefl, false_iff] at hlt hgt
  omega

end RebooterHub.Iso
