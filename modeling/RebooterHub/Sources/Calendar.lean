import Mathlib.Data.List.Sort
import RebooterHub.Backup.Sources
import RebooterHub.Data.Stamps
import RebooterHub.Support.Marks
import RebooterHub.Watchdog.SourceProbes

/-!
# Sources — Calendar

`_parse_ical_events`: the events of an iCalendar feed that the hub keeps of a poll.

`datetime.strptime` compiles its format to a pattern whose fields have alternatives of different
lengths; `matches` lists the ways in which a format matches the start of a text in the order in
which the pattern tries them.
-/

namespace RebooterHub.Sources
open Backup (isLineBreak)
open Commands (maxTime)
open Watchdog (isoformat)

/-! ### strptime -/

/-- What `re.IGNORECASE` compares of a character with an ASCII letter: its lower-case letter, with
the few others that have an ASCII one. -/
def foldCase (c : Char) : Char :=
  if 'A' ≤ c ∧ c ≤ 'Z' then Char.ofNat (c.toNat + 32)
  else if c.toNat = 0x130 ∨ c.toNat = 0x131 then 'i'
  else if c.toNat = 0x17f then 's'
  else if c.toNat = 0x212a then 'k'
  else c

/-- A field of a format, by the alternatives of its pattern, or a character of the format. -/
inductive Directive where
  | field (alternatives : List (List (Char → Bool)))
  | literal (c : Char)

/-- `\d`. -/
def isDecimal (c : Char) : Bool := (Text.decimal c).isSome

/-- A range of characters. -/
def among (low high : Char) (c : Char) : Bool := low ≤ c ∧ c ≤ high

namespace Directive

/-- `%Y`. -/
def year : Directive := .field [[isDecimal, isDecimal, isDecimal, isDecimal]]

/-- `%m`. -/
def month : Directive := .field [[(· = '1'), among '0' '2'], [(· = '0'), among '1' '9'], [among '1' '9']]

/-- `%d`. -/
def day : Directive :=
  .field [[(· = '3'), among '0' '1'], [among '1' '2', isDecimal], [(· = '0'), among '1' '9'],
    [among '1' '9'], [(· = ' '), among '1' '9']]

/-- `%H`. -/
def hour : Directive :=
  .field [[(· = '2'), among '0' '3'], [among '0' '1', isDecimal], [isDecimal]]

/-- `%M`. -/
def minute : Directive := .field [[among '0' '5', isDecimal], [isDecimal]]

/-- `%S`. -/
def second : Directive := .field [[(· = '6'), among '0' '1'], [among '0' '5', isDecimal], [isDecimal]]

end Directive

/-- A sequence of characters of given kinds, and what follows it. -/
def sequence : List (Char → Bool) → List Char → Option (List Char × List Char)
  | [], cs => some ([], cs)
  | _ :: _, [] => none
  | p :: ps, c :: cs =>
    if p c then (sequence ps cs).map fun (taken, rest) => (c :: taken, rest) else none

/-- The ways in which a format matches the start of a text, with the texts of its fields. -/
def matching : List Directive → List Char → List (List (List Char) × List Char)
  | [], cs => [([], cs)]
  | .literal d :: format, cs => match cs with
    | [] => []
    | c :: cs => if foldCase c = foldCase d then matching format cs else []
  | .field alternatives :: format, cs =>
    (alternatives.filterMap (sequence · cs)).flatMap fun (taken, rest) =>
      (matching format rest).map fun (fields, rest) => (taken :: fields, rest)

/-- `datetime.strptime`, as the values of the fields of a format; `none` is the `ValueError` of a
text that the format does not match, or that goes on after it. -/
def strptime (format : List Directive) (cs : List Char) : Option (List Nat) :=
  match (matching format cs).head? with
  | some (fields, []) => fields.mapM fun taken => (Text.int taken).map Int.toNat
  | _ => none

/-- `datetime(y, m, d, h, mi, s)` in UTC; `none` is its `ValueError`. -/
def datetime (y m d h mi s : Nat) : Option Time :=
  if 1 ≤ y ∧ 1 ≤ m ∧ m ≤ 12 ∧ 1 ≤ d ∧ d ≤ Iso.daysInMonth y m ∧ h < 24 ∧ mi < 60 ∧ s < 60 then
    some (Iso.daysFromCivil y m d * 86400000000 + (h * 3600 + mi * 60 + s : Nat) * 1000000)
  else none

open Directive in
/-- `"%Y%m%d"`. -/
def dateFormat : List Directive := [year, month, day]

open Directive in
/-- `"%Y%m%dT%H%M%S"`. -/
def floatingFormat : List Directive :=
  [year, month, day, .literal 'T', hour, minute, second]

/-- `"%Y%m%dT%H%M%SZ"`. -/
def utcFormat : List Directive := floatingFormat ++ [.literal 'Z']

/-- `datetime.strptime(raw, format)`, read as UTC. -/
def readStamp (format : List Directive) (raw : List Char) : Option Time :=
  match strptime format raw with
  | some [y, m, d] => datetime y m d 0 0 0
  | some [y, m, d, h, mi, s] => datetime y m d h mi s
  | _ => none

/-- `_parse_ical_dt`. -/
def parseIcalDt (raw : Option (List Char)) : Option Time :=
  match raw with
  | none | some [] => none
  | some raw =>
    let raw := Text.strip raw
    if raw.length = 8 ∧ raw.all isDecimal then readStamp dateFormat raw
    else (readStamp utcFormat raw).or (readStamp floatingFormat raw)

/-! ### Lines -/

/-- `BEGIN:VEVENT`. -/
def beginMark : List Char := "begin:vevent".toList

/-- `END:VEVENT`. -/
def endMark : List Char := "end:vevent".toList

/-- `_ICAL_EVENT_RE.finditer(text)`, as the first groups of the matches. -/
def eventBlocks (text : List Char) : List (List Char) :=
  Marks.blocks foldCase beginMark endMark text.length text

/-- `re.sub(r"\r?\n[ \t]", "", block)`. -/
def unfold : List Char → List Char
  | '\r' :: '\n' :: c :: cs =>
    if c = ' ' ∨ c = '\t' then unfold cs else '\r' :: unfold ('\n' :: c :: cs)
  | '\n' :: c :: cs => if c = ' ' ∨ c = '\t' then unfold cs else '\n' :: unfold (c :: cs)
  | c :: cs => c :: unfold cs
  | [] => []

/-- The stripped lines of a text that are not blank.  That a carriage return and a line feed end
one line makes no difference to them. -/
def contentLines (text : List Char) : List (List Char) :=
  ((text.splitOnP isLineBreak).map Text.strip).filter (· ≠ [])

/-- `[A-Z\-]`. -/
def isKeyChar (c : Char) : Bool := 'A' ≤ c ∧ c ≤ 'Z' ∨ c = '-'

/-- `_ICAL_KV_RE.match(line)`, as its groups. -/
def keyValue (line : List Char) : Option (List Char × List Char) :=
  let key := line.takeWhile isKeyChar
  if key = [] then none
  else match line.dropWhile isKeyChar with
    | ':' :: value => some (key, value)
    | ';' :: params => match params.dropWhile (· ≠ ':') with
      | ':' :: value => some (key, value)
      | _ => none
    | _ => none

/-- The entries of a block, in their order. -/
def entries (block : List Char) : List (List Char × List Char) :=
  (contentLines (unfold block)).filterMap keyValue

/-- `ev.get(key)`: the last entry of a key stands. -/
def entry (es : List (List Char × List Char)) (key : String) : Option (List Char) :=
  es.reverse.lookup key.toList

/-! ### Events -/

/-- An event as the payload of a poll lists it. -/
structure Listing where
  summary : List Char
  start : String
  stop : String
  uid : List Char
deriving DecidableEq

/-- The event of a block, unless it has no start, is over, or starts after the horizon. -/
def listing (now : Time) (es : List (List Char × List Char)) : Option Listing :=
  match parseIcalDt (entry es "DTSTART") with
  | none => none
  | some start =>
    let stop := (parseIcalDt (entry es "DTEND")).getD start
    if stop < now ∨ now + seconds 86400 < start then none
    else some
      { summary := ((entry es "SUMMARY").getD []).take 300
        start := isoformat start
        stop := isoformat stop
        uid := ((entry es "UID").getD []).take 120 }

/-- `out.sort(key=lambda e: e["start"])`. -/
def byStart (out : List Listing) : List Listing :=
  out.insertionSort fun a b => a.start ≤ b.start

/-- `_parse_ical_events`; the horizon has to be a `datetime`. -/
def parseIcalEvents (now : Time) (text : List Char) : Except PyError (List Listing) :=
  if maxTime < now + seconds 86400 then .error .overflowError
  else .ok (byStart ((eventBlocks text).filterMap fun block => listing now (entries block)))

/-- An event in the payload. -/
def Listing.json (l : Listing) : Json :=
  .obj [("summary", .str (String.ofList l.summary)), ("start", .str l.start),
    ("end", .str l.stop), ("uid", .str (String.ofList l.uid))]

/-- The payload of a list of events; the first fifty are stored. -/
def eventsPayload (events : List Listing) : List (String × Json) :=
  [("event_count", .int events.length), ("events", .arr ((events.take 50).map Listing.json))]

/-- The payload that `_poll_ical` returns for the text of a feed. -/
def icalPayload (now : Time) (text : List Char) : Except PyError Json := do
  return .obj (eventsPayload (← parseIcalEvents now text))

end RebooterHub.Sources
