import Mathlib.Algebra.GroupWithZero.Nat

/-!
# Data — Time

Datetimes.  The hub compares datetimes only after reading a naive one as UTC (`_as_utc`,
`as_aware`), so a datetime is the UTC instant it denotes, in microseconds since the epoch, the
resolution Python's `datetime` has.

`fromisoformat` is `datetime.fromisoformat` on the extended ISO-8601 format `isoformat` writes
and the forms submit: a date, and optionally a separator, a time with one, two or three fields
and three or six fraction digits, and `Z` or an offset.
-/

namespace RebooterHub

/-- A UTC instant, in microseconds since 1970-01-01. -/
abbrev Time := Int

/-- `timedelta(seconds=n)`. -/
def seconds (n : Int) : Time := n * 1000000

namespace Iso

/-- A year is leap. -/
def isLeap (y : Nat) : Bool := y % 4 == 0 && (y % 100 != 0 || y % 400 == 0)

/-- The days of a month. -/
def daysInMonth (y m : Nat) : Nat :=
  if m = 2 then (if isLeap y then 29 else 28)
  else if m = 4 ∨ m = 6 ∨ m = 9 ∨ m = 11 then 30 else 31

/-- The days of a year before its month `m`. -/
def daysBeforeMonth (y m : Nat) : Nat :=
  ((List.range (m - 1)).map fun k => daysInMonth y (k + 1)).sum

/-- Days since 1970-01-01 in the proleptic Gregorian calendar. -/
def daysFromCivil (y m d : Nat) : Int :=
  ((y - 1) * 365 + (y - 1) / 4 - (y - 1) / 100 + (y - 1) / 400
    + daysBeforeMonth y m + d : Int) - 719163

/-- The value of a decimal digit. -/
def digit? (c : Char) : Option Nat :=
  if '0' ≤ c ∧ c ≤ '9' then some (c.toNat - '0'.toNat) else none

/-- Exactly `n` decimal digits, and what follows them. -/
def digits : Nat → List Char → Option (Nat × List Char)
  | 0, cs => some (0, cs)
  | _ + 1, [] => none
  | n + 1, c :: cs => do
      let d ← digit? c
      let (m, rest) ← digits n cs
      some (d * 10 ^ n + m, rest)

/-- A character that has to stand here. -/
def char (c : Char) : List Char → Option (List Char)
  | [] => none
  | c' :: cs => if c' = c then some cs else none

/-- `YYYY-MM-DD`, as days since the epoch. -/
def date (cs : List Char) : Option (Int × List Char) := do
  let (y, cs) ← digits 4 cs
  let cs ← char '-' cs
  let (m, cs) ← digits 2 cs
  let cs ← char '-' cs
  let (d, cs) ← digits 2 cs
  if 1 ≤ y ∧ 1 ≤ m ∧ m ≤ 12 ∧ 1 ≤ d ∧ d ≤ daysInMonth y m then
    some (daysFromCivil y m d, cs)
  else none

/-- The fraction of a second, of three or six digits. -/
def fraction (cs : List Char) : Option (Nat × List Char) :=
  match digits 6 cs with
  | some r => some r
  | none => (digits 3 cs).map fun (n, rest) => (n * 1000, rest)

/-- `HH[:MM[:SS[.fff[fff]]]]`, in microseconds. -/
def timeOfDay (cs : List Char) : Option (Nat × List Char) := do
  let (h, cs) ← digits 2 cs
  if 24 ≤ h then none else
  match char ':' cs with
  | none => some (h * 3600000000, cs)
  | some cs =>
    let (mi, cs) ← digits 2 cs
    if 60 ≤ mi then none else
    match char ':' cs with
    | none => some (h * 3600000000 + mi * 60000000, cs)
    | some cs =>
      let (s, cs) ← digits 2 cs
      if 60 ≤ s then none else
      let whole := h * 3600000000 + mi * 60000000 + s * 1000000
      match char '.' cs with
      | none => some (whole, cs)
      | some cs => (fraction cs).map fun (f, rest) => (whole + f, rest)

/-- The offset from UTC: nothing (a naive datetime, read as UTC), `Z`, or `±HH[:MM[:SS]]`. -/
def offset : List Char → Option Int
  | [] => some 0
  | ['Z'] => some 0
  | '+' :: cs => match timeOfDay cs with
    | some (n, []) => some n
    | _ => none
  | '-' :: cs => match timeOfDay cs with
    | some (n, []) => some (-n)
    | _ => none
  | _ => none

end Iso

/-- `datetime.fromisoformat(s)`, as a UTC instant; `none` is its `ValueError`. -/
def fromisoformat (s : String) : Option Time := do
  let (days, cs) ← Iso.date s.toList
  match cs with
  | [] => some (days * 86400000000)
  | _ :: cs =>
    let (tod, cs) ← Iso.timeOfDay cs
    let off ← Iso.offset cs
    some (days * 86400000000 + tod - off)

/-- The date of a day, as year, month and day. -/
def Iso.civil (days : Int) : Int × Int × Int :=
  -- counted from 1 March of the year 0, in eras of 400 years
  let z := days + 719468
  let era := z / 146097
  let doe := z % 146097
  let yoe := (doe - doe / 1460 + doe / 36524 - doe / 146096) / 365
  let doy := doe - (365 * yoe + yoe / 4 - yoe / 100)
  let mp := (5 * doy + 2) / 153
  let m := if mp < 10 then mp + 3 else mp - 9
  (yoe + era * 400 + (if m ≤ 2 then 1 else 0), m, doy - (153 * mp + 2) / 5 + 1)

/-- A number of at least `width` digits. -/
def Iso.padded (width : Nat) (n : Int) : String :=
  let s := toString n
  "".pushn '0' (width - s.length) ++ s

/-- `strftime("%Y-%m-%dT%H:%M:%SZ")`. -/
def strftime (t : Time) : String :=
  let (y, m, d) := Iso.civil (t / 86400000000)
  let s := t % 86400000000 / 1000000
  Iso.padded 4 y ++ "-" ++ Iso.padded 2 m ++ "-" ++ Iso.padded 2 d ++ "T" ++
    Iso.padded 2 (s / 3600) ++ ":" ++ Iso.padded 2 (s / 60 % 60) ++ ":" ++
    Iso.padded 2 (s % 60) ++ "Z"

example : strftime 951827696500000 = "2000-02-29T12:34:56Z" := by decide +kernel

example : fromisoformat "1970-01-02T00:00:01.500000+00:00" = some 86401500000 := by decide

example : fromisoformat "2026-02-29T00:00:00" = none := by decide

end RebooterHub
