import Mathlib.Data.Rat.Floor
import RebooterHub.Data.Text

/-!
# Data — Number

Python's `float(...)` of a text and of a JSON value.

A finite float is the rational number written; it is not rounded to a double.  What is at least
`overflow`, where rounding leaves the doubles, is infinite in a text and raises in an integer.
-/

namespace RebooterHub

/-- A float. -/
inductive PyFloat where
  | fin (q : Rat)
  | inf (negative : Bool)
  | nan
deriving DecidableEq, Repr

namespace PyFloat

/-- `a < b`: nothing is less than or greater than `nan`. -/
def lt : PyFloat → PyFloat → Bool
  | .fin p, .fin q => decide (p < q)
  | .inf m, .inf n => m && !n
  | .inf m, .fin _ => m
  | .fin _, .inf n => !n
  | .nan, _ | _, .nan => false

/-- `a <= b`. -/
def le : PyFloat → PyFloat → Bool
  | .fin p, .fin q => decide (p ≤ q)
  | .inf m, .inf n => m || !n
  | .inf m, .fin _ => m
  | .fin _, .inf n => !n
  | .nan, _ | _, .nan => false

/-- The least magnitude that rounds to no double. -/
def overflow : Rat := 2 ^ 1024 - 2 ^ 970

/-- The float of a number that was written out. -/
def ofRat (q : Rat) : PyFloat :=
  if overflow ≤ q then .inf false else if q ≤ -overflow then .inf true else .fin q

end PyFloat

namespace Text

/-- More digits of a run, with single underscores between them: the value, the number of digits
and what follows. -/
def digitRun : Nat → Nat → List Char → Nat × Nat × List Char
  | n, k, '_' :: c :: cs => match decimal c with
    | some d => digitRun (n * 10 + d) (k + 1) cs
    | none => (n, k, '_' :: c :: cs)
  | n, k, c :: cs => match decimal c with
    | some d => digitRun (n * 10 + d) (k + 1) cs
    | none => (n, k, c :: cs)
  | n, k, [] => (n, k, [])

/-- A run of digits, if one begins here. -/
def digitPart : List Char → Option (Nat × Nat × List Char)
  | [] => none
  | c :: cs => (decimal c).map fun d => digitRun d 1 cs

/-- An optional sign. -/
def sign : List Char → Bool × List Char
  | '-' :: cs => (true, cs)
  | '+' :: cs => (false, cs)
  | cs => (false, cs)

/-- The exponent that ends a float, zero if there is none. -/
def exponent : List Char → Option Int
  | [] => some 0
  | c :: cs =>
    if c = 'e' ∨ c = 'E' then
      let (negative, cs) := sign cs
      match digitPart cs with
      | some (n, _, []) => some (if negative then -n else n)
      | _ => none
    else none

/-- The digits of a float's mantissa: their value, how many follow the point, and the rest. -/
def mantissa (cs : List Char) : Option (Nat × Nat × List Char) :=
  match digitPart cs with
  | some (n, _, '.' :: cs) => match digitPart cs with
    | some (m, k, rest) => some (n * 10 ^ k + m, k, rest)
    | none => some (n, 0, cs)
  | some (n, _, cs) => some (n, 0, cs)
  | none => match cs with
    | '.' :: cs => (digitPart cs).map fun (m, k, rest) => (m, k, rest)
    | _ => none

/-- The magnitude of a float. -/
def magnitude (cs : List Char) : Option PyFloat :=
  let word := cs.map Char.toLower
  if word = "inf".toList ∨ word = "infinity".toList then some (.inf false)
  else if word = "nan".toList then some .nan
  else do
    let (n, k, rest) ← mantissa cs
    return .ofRat ((n : Rat) * (10 : Rat) ^ ((← exponent rest) - k))

/-- `float(text)`; `none` is its `ValueError`. -/
def float (cs : List Char) : Option PyFloat :=
  let (negative, cs) := sign (strip cs)
  (magnitude cs).map fun x => match negative, x with
    | true, .fin q => .fin (-q)
    | true, .inf n => .inf !n
    | _, x => x

example : float " -1_2.50e1".toList = some (.fin (-125)) ∧ float "1.2.3".toList = none ∧
    float "NaN".toList = some .nan := by
  decide +kernel

end Text

namespace Json

/-- `float(x)`. -/
def toFloat : Json → Except PyError PyFloat
  | .bool b => .ok (.fin (if b then 1 else 0))
  | .int n => if PyFloat.overflow ≤ |(n : Rat)| then .error .overflowError else .ok (.fin n)
  | .float q => .ok (.fin q)
  | .str s => match Text.float s.toList with
    | some x => .ok x
    | none => .error .valueError
  | .null | .arr _ | .obj _ => .error .typeError

end Json

end RebooterHub
