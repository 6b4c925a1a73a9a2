import Mathlib.Data.String.Basic
import RebooterHub.Data.Calendar

/-!
# Data — Stamps

The texts of datetimes, and reading them back.

* `strftime_toList`: a stamp spells the date and the time of day, each field in its digits.
* `date_dateText` and `timeOfDay_clockText`: `fromisoformat` reads such fields.
* `fromisoformat_strftime`: a stamp denotes the second it was made in.
* `strftime_lt_iff`: stamps sort as their seconds do.
-/

namespace RebooterHub

/-- The instants a `datetime` can hold: those of the years 1 to 9999. -/
def IsDatetime (t : Int) : Prop := -62135596800000000 ≤ t ∧ t ≤ 253402300799999999

/-- The instants of whole seconds. -/
def IsWhole (t : Int) : Prop := t % 1000000 = 0

namespace Iso

/-! ### Numbers of a fixed width -/

/-- A number in `width` digits. -/
def pad : Nat → Nat → List Char
  | 0, _ => []
  | width + 1, n => Nat.digitChar (n / 10 ^ width % 10) :: pad width n

@[simp] theorem length_pad (width n : Nat) : (pad width n).length = width := by
  induction width with
  | zero => rfl
  | succ width ih => rw [pad, List.length_cons, ih]

theorem digit?_digitChar {k : Nat} (h : k < 10) : digit? (Nat.digitChar k) = some k := by
  interval_cases k <;> rfl

theorem isDigit_of_mem_pad {width n : Nat} {c : Char} (h : c ∈ pad width n) : c.isDigit := by
  induction width with
  | zero => cases h
  | succ width ih =>
      rcases List.mem_cons.mp h with rfl | h
      · have hk : n / 10 ^ width % 10 < 10 := Nat.mod_lt _ (by decide)
        interval_cases n / 10 ^ width % 10 <;> rfl
      · exact ih h

/-- `digits` reads as many digits as were written. -/
theorem digits_pad (width n : Nat) (rest : List Char) :
    digits width (pad width n ++ rest) = some (n % 10 ^ width, rest) := by
  induction width with
  | zero => simp [digits, pad, Nat.mod_one]
  | succ width ih =>
      rw [pad, List.cons_append, digits, digit?_digitChar (Nat.mod_lt _ (by decide)), ih,
        Nat.mod_pow_succ, Nat.add_comm (n % 10 ^ width), Nat.mul_comm (10 ^ width)]
      rfl

theorem digits_pad_of_lt {width n : Nat} (h : n < 10 ^ width) (rest : List Char) :
    digits width (pad width n ++ rest) = some (n, rest) := by
  rw [digits_pad, Nat.mod_eq_of_lt h]

theorem pad_succ (width n : Nat) :
    pad (width + 1) n = pad width (n / 10) ++ [Nat.digitChar (n % 10)] := by
  induction width with
  | zero => simp [pad]
  | succ width ih =>
      rw [pad, ih, pad, Nat.div_div_eq_div_mul, Nat.pow_succ, Nat.mul_comm (10 ^ width) 10]
      rfl

/-- Zeros before the digits of a number that fit. -/
theorem pad_eq_toDigits {width n : Nat} (h : n < 10 ^ (width + 1)) :
    pad (width + 1) n = List.replicate (width + 1 - (Nat.toDigits 10 n).length) '0' ++
      Nat.toDigits 10 n := by
  induction width generalizing n with
  | zero =>
      have hn : n < 10 := h
      simp [Nat.toDigits_of_lt_base hn, pad, Nat.mod_eq_of_lt hn]
  | succ width ih =>
      rw [pad_succ, ih (by omega)]
      by_cases hn : n < 10
      · rw [Nat.toDigits_of_lt_base hn, Nat.div_eq_of_lt hn, Nat.mod_eq_of_lt hn]
        simp [List.replicate_succ', Nat.toDigits_zero]
      · rw [Nat.toDigits_of_base_le (by decide) (Nat.not_lt.mp hn), List.append_assoc,
          List.length_append, List.length_singleton, Nat.add_sub_add_right]

theorem toList_pushn (s : String) (c : Char) (n : Nat) :
    (s.pushn c n).toList = s.toList ++ List.replicate n c := by
  rw [String.pushn_eq_repeat_push]
  induction n with
  | zero => simp [Nat.repeat]
  | succ n ih => rw [Nat.repeat, String.toList_push, ih, List.append_assoc, List.replicate_succ']

/-- `padded` writes a number that fits in exactly its width. -/
theorem toList_padded {width n : Nat} (h : n < 10 ^ (width + 1)) :
    (padded (width + 1) n).toList = pad (width + 1) n := by
  have htext : (toString (n : Int)).toList = Nat.toDigits 10 n := by
    rw [Int.toString_eq_repr]
    exact Nat.toList_repr
  rw [pad_eq_toDigits h, padded]
  simp only [String.toList_append, toList_pushn, htext]
  rw [← String.length_toList, htext]
  rfl

theorem digitChar_lt_iff {a b : Nat} (ha : a < 10) (hb : b < 10) :
    Nat.digitChar a < Nat.digitChar b ↔ a < b := by
  have h : ∀ a b : Fin 10, Nat.digitChar a < Nat.digitChar b ↔ a.val < b.val := by decide
  exact h ⟨a, ha⟩ ⟨b, hb⟩

/-- Numbers of one width are ordered as their texts are. -/
theorem pad_append_lt_iff {a b : Nat} (width : Nat) (xs ys : List Char) :
    pad width a ++ xs < pad width b ++ ys ↔
      a % 10 ^ width < b % 10 ^ width ∨ a % 10 ^ width = b % 10 ^ width ∧ xs < ys := by
  induction width with
  | zero => simp [pad, Nat.mod_one]
  | succ width ih =>
      have hP : 0 < 10 ^ width := Nat.pow_pos (by decide)
      have ha := Nat.mod_lt a hP
      have hb := Nat.mod_lt b hP
      have hda : a / 10 ^ width % 10 < 10 := Nat.mod_lt _ (by decide)
      have hdb : b / 10 ^ width % 10 < 10 := Nat.mod_lt _ (by decide)
      rw [pad, pad, List.cons_append, List.cons_append, List.cons_lt_cons_iff, ih,
        digitChar_lt_iff hda hdb, Nat.mod_pow_succ, Nat.mod_pow_succ]
      generalize a / 10 ^ width % 10 = p at *
      generalize b / 10 ^ width % 10 = q at *
      generalize a % 10 ^ width = r at *
      generalize b % 10 ^ width = s at *
      generalize 10 ^ width = P at *
      have hchar : Nat.digitChar p = Nat.digitChar q ↔ p = q := by
        have h : ∀ p q : Fin 10, Nat.digitChar p = Nat.digitChar q ↔ p.val = q.val := by decide
        exact h ⟨p, hda⟩ ⟨q, hdb⟩
      rw [hchar]
      rcases Nat.lt_trichotomy p q with hpq | rfl | hpq
      · have hmul : P * (p + 1) ≤ P * q := Nat.mul_le_mul_left P hpq
        rw [Nat.mul_add, Nat.mul_one] at hmul
        constructor
        · intro _
          exact .inl (by omega)
        · intro _
          exact .inl hpq
      · constructor
        · rintro (h | ⟨-, h | ⟨rfl, h⟩⟩)
          · exact absurd h (Nat.lt_irrefl _)
          · exact .inl (by omega)
          · exact .inr ⟨rfl, h⟩
        · rintro (h | ⟨h, hxs⟩)
          · exact .inr ⟨rfl, .inl (by omega)⟩
          · exact .inr ⟨rfl, .inr ⟨by omega, hxs⟩⟩
      · have hmul : P * (q + 1) ≤ P * p := Nat.mul_le_mul_left P hpq
        rw [Nat.mul_add, Nat.mul_one] at hmul
        constructor
        · rintro (h | ⟨rfl, -⟩)
          · omega
          · exact absurd hpq (Nat.lt_irrefl _)
        · rintro (h | ⟨h, -⟩)
          · omega
          · omega

theorem pad_cons_lt_iff {a b width : Nat} (ha : a < 10 ^ width) (hb : b < 10 ^ width) (c : Char)
    (xs ys : List Char) :
    pad width a ++ c :: xs < pad width b ++ c :: ys ↔ a < b ∨ a = b ∧ xs < ys := by
  rw [pad_append_lt_iff, Nat.mod_eq_of_lt ha, Nat.mod_eq_of_lt hb, List.cons_lt_cons_iff]
  simp

/-! ### Dates and times of day -/

/-- `YYYY-MM-DD`. -/
def dateText (y m d : Nat) : List Char := pad 4 y ++ '-' :: (pad 2 m ++ '-' :: pad 2 d)

/-- `HH:MM:SS`, of the seconds since midnight. -/
def clockText (s : Nat) : List Char :=
  pad 2 (s / 3600) ++ ':' :: (pad 2 (s / 60 % 60) ++ ':' :: pad 2 (s % 60))

theorem daysInMonth_le (y m : Nat) : daysInMonth y m ≤ 31 := by
  rw [daysInMonth]
  split
  · split <;> decide
  · split <;> decide

theorem date_dateText {y m d : Nat} (h : IsDate y m d) (hy : y ≤ 9999) (rest : List Char) :
    date (dateText y m d ++ rest) = some (daysFromCivil y m d, rest) := by
  have hd := h.2.2.2.2.trans (daysInMonth_le y m)
  have hm := h.2.2.1
  rw [date, dateText]
  simp only [List.append_assoc, List.cons_append]
  rw [digits_pad_of_lt (by omega)]
  simp only [Option.bind_eq_bind, Option.bind_some, char, if_true]
  rw [digits_pad_of_lt (by omega)]
  simp only [Option.bind_some, if_true]
  rw [digits_pad_of_lt (by omega)]
  simp only [Option.bind_some]
  exact if_pos h

theorem char_self (c : Char) (cs : List Char) : char c (c :: cs) = some cs := if_pos rfl

theorem timeOfDay_clockText {s : Nat} (hs : s < 86400) (rest : List Char) :
    timeOfDay (clockText s ++ rest) = (char '.' rest).elim (some (s * 1000000, rest)) fun rest =>
      (fraction rest).map fun read => (s * 1000000 + read.1, read.2) := by
  have hsum : s / 3600 * 3600000000 + s / 60 % 60 * 60000000 + s % 60 * 1000000 = s * 1000000 := by
    omega
  rw [timeOfDay, clockText]
  simp only [List.append_assoc, List.cons_append]
  rw [digits_pad_of_lt (by omega)]
  simp only [Option.bind_eq_bind, Option.bind_some]
  rw [if_neg (by omega)]
  simp only [char_self]
  rw [digits_pad_of_lt (by omega)]
  simp only [Option.bind_some]
  rw [if_neg (by omega)]
  simp only [char_self]
  rw [digits_pad_of_lt (by omega)]
  simp only [Option.bind_some]
  rw [if_neg (by omega)]
  cases char '.' rest with
  | none => exact congrArg (fun n => some (n, rest)) hsum
  | some cs => exact congrArg (fun n => (fraction cs).map fun read => (n + read.1, read.2)) hsum

theorem dateText_cons_lt_iff {y m d y' m' d' : Nat} (h : IsDate y m d) (h' : IsDate y' m' d')
    (hy : y ≤ 9999) (hy' : y' ≤ 9999) (c : Char) (xs ys : List Char) :
    dateText y m d ++ c :: xs < dateText y' m' d' ++ c :: ys ↔
      daysFromCivil y m d < daysFromCivil y' m' d' ∨
        daysFromCivil y m d = daysFromCivil y' m' d' ∧ xs < ys := by
  have hd := h.2.2.2.2.trans (daysInMonth_le y m)
  have hd' := h'.2.2.2.2.trans (daysInMonth_le y' m')
  have hm := h.2.2.1
  have hm' := h'.2.2.1
  have hsame : daysFromCivil y m d = daysFromCivil y' m' d' ↔ y = y' ∧ m = m' ∧ d = d' := by
    refine ⟨daysFromCivil_inj h h', ?_⟩
    rintro ⟨rfl, rfl, rfl⟩
    rfl
  rw [dateText, dateText]
  simp only [List.append_assoc, List.cons_append]
  rw [pad_cons_lt_iff (by omega) (by omega), pad_cons_lt_iff (by omega) (by omega),
    pad_cons_lt_iff (by omega) (by omega), daysFromCivil_lt_iff h h', hsame]
  tauto

theorem clockText_append_lt_iff {s s' : Nat} (hs : s < 86400) (hs' : s' < 86400)
    (tail : List Char) : clockText s ++ tail < clockText s' ++ tail ↔ s < s' := by
  rw [clockText, clockText]
  simp only [List.append_assoc, List.cons_append]
  rw [pad_cons_lt_iff (by omega) (by omega), pad_cons_lt_iff (by omega) (by omega),
    pad_append_lt_iff]
  have htail : ¬ tail < tail := List.lt_irrefl tail
  simp only [htail, and_false, or_false]
  omega

end Iso

open Iso

/-! ### Stamps -/

/-- The date and the second of the day of an instant. -/
theorem IsDatetime.exists_fields {t : Int} (h : IsDatetime t) : ∃ y m d s : Nat,
    civil (t / 86400000000) = ((y : Int), (m : Int), (d : Int)) ∧ IsDate y m d ∧ y ≤ 9999 ∧
      t % 86400000000 / 1000000 = s ∧ s < 86400 ∧
      daysFromCivil y m d * 86400000000 + s * 1000000 = t - t % 1000000 := by
  obtain ⟨hlow, hhigh⟩ := h
  have hfirst : -719162 ≤ t / 86400000000 := by omega
  obtain ⟨y, m, d, hcivil, hdate, hdays⟩ := civil_spec hfirst
  refine ⟨y, m, d, (t % 86400000000 / 1000000).toNat, hcivil, hdate, ?_, by omega, by omega, ?_⟩
  · exact year_le hdate (by omega)
  · rw [hdays]
    omega

theorem strftime_toList {t : Int} {y m d s : Nat}
    (hcivil : civil (t / 86400000000) = ((y : Int), (m : Int), (d : Int))) (hdate : IsDate y m d)
    (hy : y ≤ 9999) (hs : t % 86400000000 / 1000000 = s) (_ : s < 86400) :
    (strftime t).toList = dateText y m d ++ 'T' :: clockText s ++ ['Z'] := by
  have hd := hdate.2.2.2.2.trans (daysInMonth_le y m)
  have hm := hdate.2.2.1
  have hhour : (s : Int) / 3600 = (s / 3600 : Nat) := rfl
  have hminute : (s : Int) / 60 % 60 = (s / 60 % 60 : Nat) := rfl
  have hsecond : (s : Int) % 60 = (s % 60 : Nat) := rfl
  rw [strftime, hcivil]
  simp only [hs, hhour, hminute, hsecond, String.toList_append]
  rw [toList_padded (by omega), toList_padded (by omega), toList_padded (by omega),
    toList_padded (by omega), toList_padded (by omega), toList_padded (by omega)]
  simp [dateText, clockText]

/-- Reading a date, a time of day in seconds, and an offset of none. -/
theorem fromisoformat_fields {y m d s : Nat} (hdate : IsDate y m d) (hy : y ≤ 9999)
    (hs : s < 86400) {rest : List Char} (hdot : char '.' rest = none)
    (hoffset : offset rest = some 0) (c : Char) :
    fromisoformat (String.ofList (dateText y m d ++ c :: (clockText s ++ rest)))
      = some (daysFromCivil y m d * 86400000000 + s * 1000000) := by
  rw [fromisoformat, String.toList_ofList, date_dateText hdate hy]
  simp only [Option.bind_eq_bind, Option.bind_some]
  rw [timeOfDay_clockText hs, hdot, Option.elim_none]
  simp only [Option.bind_some]
  rw [hoffset]
  simp

/-- A stamp reads as the second it was made in. -/
theorem fromisoformat_strftime {t : Int} (h : IsDatetime t) :
    fromisoformat (strftime t) = some (t - t % 1000000) := by
  obtain ⟨y, m, d, s, hcivil, hdate, hy, hs, hlt, hsum⟩ := h.exists_fields
  have htext := strftime_toList hcivil hdate hy hs hlt
  rw [List.append_assoc, List.cons_append] at htext
  rw [← String.ofList_toList (s := strftime t), htext,
    fromisoformat_fields hdate hy hlt rfl rfl, hsum]

/-- Stamps are in the order of their seconds. -/
theorem strftime_lt_iff {t u : Int} (ht : IsDatetime t) (hu : IsDatetime u) :
    strftime t < strftime u ↔ t - t % 1000000 < u - u % 1000000 := by
  obtain ⟨y, m, d, s, hcivil, hdate, hy, hs, hlt, hsum⟩ := ht.exists_fields
  obtain ⟨y', m', d', s', hcivil', hdate', hy', hs', hlt', hsum'⟩ := hu.exists_fields
  have htext := strftime_toList hcivil hdate hy hs hlt
  have htext' := strftime_toList hcivil' hdate' hy' hs' hlt'
  rw [List.append_assoc, List.cons_append] at htext htext'
  rw [String.lt_iff_toList_lt, htext, htext', dateText_cons_lt_iff hdate hdate' hy hy',
    clockText_append_lt_iff hlt hlt', ← hsum, ← hsum']
  omega

end RebooterHub
