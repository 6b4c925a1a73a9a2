import Mathlib.Data.List.TakeWhile
import RebooterHub.Data.Json

/-!
# Data — Text

Python's `str.strip`, `str.lower` and `str.upper`, `int(...)` of a text and of a JSON value, and
iteration over a JSON value.

`int` and the pattern `\d` accept every Unicode decimal digit; `decimalZeros` lists the ten-digit
blocks.  The limit that an interpreter may set on the number of digits is left out.
-/

namespace RebooterHub.Text

/-- `str.isspace` of one character. -/
def isspace (c : Char) : Bool :=
  let n := c.toNat
  decide (9 ≤ n ∧ n ≤ 13 ∨ 28 ≤ n ∧ n ≤ 32 ∨ n = 0x85 ∨ n = 0xa0 ∨ n = 0x1680 ∨
    0x2000 ≤ n ∧ n ≤ 0x200a ∨ n = 0x2028 ∨ n = 0x2029 ∨ n = 0x202f ∨ n = 0x205f ∨ n = 0x3000)

/-- `str.strip`, on characters. -/
def strip (cs : List Char) : List Char :=
  ((cs.dropWhile isspace).reverse.dropWhile isspace).reverse

/-- `str.strip`. -/
def stripped (s : String) : String := String.ofList (strip s.toList)

theorem dropWhile_of_head {p : Char → Bool} {cs : List Char} (h : ∀ c ∈ cs.head?, p c = false) :
    cs.dropWhile p = cs := by
  cases cs with
  | nil => rfl
  | cons c cs => rw [List.dropWhile_cons_of_neg (by simp [h c rfl])]

theorem head_dropWhile {p : Char → Bool} {cs : List Char} {c : Char}
    (h : c ∈ (cs.dropWhile p).head?) : p c = false := by
  have hnot := List.head?_dropWhile_not p cs
  rw [h] at hnot
  exact hnot

/-- A text that neither starts nor ends with white space is its own `strip`. -/
theorem strip_of_ends {cs : List Char} (hhead : ∀ c ∈ cs.head?, isspace c = false)
    (hlast : ∀ c ∈ cs.getLast?, isspace c = false) : strip cs = cs := by
  rw [strip, dropWhile_of_head hhead, dropWhile_of_head (by simpa using hlast),
    List.reverse_reverse]

theorem head_strip {cs : List Char} {c : Char} (h : c ∈ (strip cs).head?) : isspace c = false := by
  obtain ⟨pre, hpre⟩ := List.dropWhile_suffix isspace (l := (cs.dropWhile isspace).reverse)
  have hsplit : cs.dropWhile isspace = strip cs ++ pre.reverse := by
    rw [strip, ← List.reverse_append, hpre, List.reverse_reverse]
  have hhead : c ∈ (cs.dropWhile isspace).head? := by
    rw [hsplit, List.head?_append, h]
    rfl
  exact head_dropWhile hhead

theorem last_strip {cs : List Char} {c : Char} (h : c ∈ (strip cs).getLast?) :
    isspace c = false := by
  rw [strip, List.getLast?_reverse] at h
  exact head_dropWhile h

/-- A stripped text is its own `strip`. -/
theorem strip_strip (cs : List Char) : strip (strip cs) = strip cs :=
  strip_of_ends (fun _ => head_strip) fun _ => last_strip

/-- Only white space strips to nothing. -/
theorem strip_eq_nil {cs : List Char} : strip cs = [] ↔ ∀ c ∈ cs, isspace c := by
  rw [strip, List.reverse_eq_nil_iff, List.dropWhile_eq_nil_iff]
  constructor
  · intro h c hc
    by_contra hspace
    cases hdrop : cs.dropWhile isspace with
    | nil => exact hspace (List.dropWhile_eq_nil_iff.mp hdrop c hc)
    | cons d ds =>
        have hhead : isspace d = false := head_dropWhile (by rw [hdrop]; rfl)
        rw [h d (by rw [hdrop]; simp)] at hhead
        cases hhead
  · intro h c hc
    rw [List.mem_reverse] at hc
    exact h c ((List.dropWhile_sublist isspace).subset hc)

theorem mem_of_mem_strip {cs : List Char} {c : Char} (h : c ∈ strip cs) : c ∈ cs := by
  rw [strip, List.mem_reverse] at h
  have hc := (List.dropWhile_sublist isspace).subset h
  exact (List.dropWhile_sublist isspace).subset (List.mem_reverse.mp hc)

/-- `str.lower` of one character, as far as it makes ASCII letters: besides those of ASCII the
Kelvin sign and the dotted capital I have some. -/
def lowerChar (c : Char) : List Char :=
  if 'A' ≤ c ∧ c ≤ 'Z' then [Char.ofNat (c.toNat + 32)]
  else if c.toNat = 0x212a then ['k']
  else if c.toNat = 0x130 then ['i', Char.ofNat 0x307]
  else [c]

/-- `str.lower`, on characters. -/
def lower (cs : List Char) : List Char := cs.flatMap lowerChar

/-- `str.upper` of one character, as far as it makes an ASCII letter alone: besides those of ASCII
the long s and the dotless i do. -/
def upperChar (c : Char) : Char :=
  if 'a' ≤ c ∧ c ≤ 'z' then Char.ofNat (c.toNat - 32)
  else if c.toNat = 0x17f then 'S'
  else if c.toNat = 0x131 then 'I'
  else c

/-- `str.upper`, on characters. -/
def upper (cs : List Char) : List Char := cs.map upperChar

/-- The zeros of the decimal digits of Unicode. -/
def decimalZeros : List Nat :=
  [0x30, 0x660, 0x6f0, 0x7c0, 0x966, 0x9e6, 0xa66, 0xae6, 0xb66, 0xbe6, 0xc66, 0xce6, 0xd66,
    0xde6, 0xe50, 0xed0, 0xf20, 0x1040, 0x1090, 0x17e0, 0x1810, 0x1946, 0x19d0, 0x1a80, 0x1a90,
    0x1b50, 0x1bb0, 0x1c40, 0x1c50, 0xa620, 0xa8d0, 0xa900, 0xa9d0, 0xa9f0, 0xaa50, 0xabf0,
    0xff10, 0x104a0, 0x10d30, 0x11066, 0x110f0, 0x11136, 0x111d0, 0x112f0, 0x11450, 0x114d0,
    0x11650, 0x116c0, 0x11730, 0x118e0, 0x11950, 0x11c50, 0x11d50, 0x11da0, 0x11f50, 0x16a60,
    0x16ac0, 0x16b50, 0x1d7ce, 0x1d7d8, 0x1d7e2, 0x1d7ec, 0x1d7f6, 0x1e140, 0x1e2f0, 0x1e4f0,
    0x1e950, 0x1fbf0]

/-- The value of a decimal digit. -/
def decimal (c : Char) : Option Nat :=
  (decimalZeros.find? fun z => z ≤ c.toNat ∧ c.toNat < z + 10).map (c.toNat - ·)

/-- The digits of an integer after its first one, with single underscores between them. -/
def moreDigits : Nat → List Char → Option Nat
  | n, [] => some n
  | n, '_' :: c :: cs => do moreDigits (n * 10 + (← decimal c)) cs
  | n, c :: cs => do moreDigits (n * 10 + (← decimal c)) cs

/-- The digits of an integer. -/
def natural : List Char → Option Nat
  | [] => none
  | c :: cs => do moreDigits (← decimal c) cs

/-- `int(text)`; `none` is its `ValueError`. -/
def int (cs : List Char) : Option Int :=
  match strip cs with
  | '-' :: cs => (natural cs).map fun n => -(n : Int)
  | '+' :: cs => (natural cs).map fun n => (n : Int)
  | cs => (natural cs).map fun n => (n : Int)

example : int " 1_2 ".toList = some 12 ∧ int "-7".toList = some (-7) ∧ int "1:2".toList = none := by
  decide

end RebooterHub.Text

namespace RebooterHub.Json

/-- `int(x)`. -/
def toInt : Json → Except PyError Int
  | .bool b => .ok (if b then 1 else 0)
  | .int n => .ok n
  -- a float is cut towards zero
  | .float q => .ok (if 0 ≤ q then q.floor else q.ceil)
  | .str s => match Text.int s.toList with
    | some n => .ok n
    | none => .error .valueError
  | .null | .arr _ | .obj _ => .error .typeError

/-- The values `for x in ...` runs through. -/
def iter : Json → Except PyError (List Json)
  | .arr xs => .ok xs
  | .obj ms => .ok (ms.map fun m => .str m.1)
  | .str s => .ok (s.toList.map fun c => .str (String.singleton c))
  | .null | .bool _ | .int _ | .float _ => .error .typeError

/-- `x or []`. -/
def orNil (x : Json) : Json := if x.truthy then x else .arr []

end RebooterHub.Json
