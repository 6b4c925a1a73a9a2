import Mathlib.Data.List.Infix

/-!
# Data — Json

JSON values as Python holds them after `json.loads`, and the few operations on them the hub's
services use: truth (`x or {}`), `dict.get`, subscripting and `in`, with the exception each
raises on a value of the wrong kind.
-/

namespace RebooterHub

/-- The Python exceptions the modelled code can meet. -/
inductive PyError where
  | attributeError
  | typeError
  | keyError
  | valueError
  | overflowError
deriving DecidableEq, Repr

/-- A decoded JSON value.  An object is its members in order; a lookup takes the first. -/
inductive Json where
  | null
  | bool (b : Bool)
  | int (n : Int)
  | float (q : Rat)
  | str (s : String)
  | arr (xs : List Json)
  | obj (members : List (String × Json))
deriving Repr, Inhabited

namespace Json

mutual

/-- Equality of JSON values, decided by recursion over both. -/
def eqDec : (a b : Json) → Decidable (a = b)
  | .null, .null => isTrue rfl
  | .bool a, .bool b => decidable_of_iff (a = b) (by simp)
  | .int a, .int b => decidable_of_iff (a = b) (by simp)
  | .float a, .float b => decidable_of_iff (a = b) (by simp)
  | .str a, .str b => decidable_of_iff (a = b) (by simp)
  | .arr a, .arr b => @decidable_of_iff _ (a = b) (by simp) (eqDecArr a b)
  | .obj a, .obj b => @decidable_of_iff _ (a = b) (by simp) (eqDecObj a b)
  | .null, .bool _ | .null, .int _ | .null, .float _ | .null, .str _ | .null, .arr _
  | .null, .obj _ | .bool _, .null | .bool _, .int _ | .bool _, .float _ | .bool _, .str _
  | .bool _, .arr _ | .bool _, .obj _ | .int _, .null | .int _, .bool _ | .int _, .float _
  | .int _, .str _ | .int _, .arr _ | .int _, .obj _ | .float _, .null | .float _, .bool _
  | .float _, .int _ | .float _, .str _ | .float _, .arr _ | .float _, .obj _
  | .str _, .null | .str _, .bool _ | .str _, .int _ | .str _, .float _ | .str _, .arr _
  | .str _, .obj _ | .arr _, .null | .arr _, .bool _ | .arr _, .int _ | .arr _, .float _
  | .arr _, .str _ | .arr _, .obj _ | .obj _, .null | .obj _, .bool _ | .obj _, .int _
  | .obj _, .float _ | .obj _, .str _ | .obj _, .arr _ => isFalse (by simp)

/-- Equality of arrays of JSON values. -/
def eqDecArr : (a b : List Json) → Decidable (a = b)
  | [], [] => isTrue rfl
  | [], _ :: _ | _ :: _, [] => isFalse (by simp)
  | x :: xs, y :: ys =>
      @decidable_of_iff _ (x = y ∧ xs = ys) (by simp)
        (@instDecidableAnd _ _ (eqDec x y) (eqDecArr xs ys))

/-- Equality of the members of JSON objects. -/
def eqDecObj : (a b : List (String × Json)) → Decidable (a = b)
  | [], [] => isTrue rfl
  | [], _ :: _ | _ :: _, [] => isFalse (by simp)
  | (k, x) :: xs, (l, y) :: ys =>
      @decidable_of_iff _ (k = l ∧ x = y ∧ xs = ys) (by simp [and_assoc])
        (@instDecidableAnd _ _ (decEq k l)
          (@instDecidableAnd _ _ (eqDec x y) (eqDecObj xs ys)))

end

instance : DecidableEq Json := eqDec

/-- `bool(x)`: null, false, zero and the empty text, list and object are false. -/
def truthy : Json → Bool
  | .null => false
  | .bool b => b
  | .int n => n != 0
  | .float q => q != 0
  | .str s => s != ""
  | .arr xs => !xs.isEmpty
  | .obj ms => !ms.isEmpty

/-- `x or {}`. -/
def orEmpty (x : Json) : Json := if x.truthy then x else .obj []

theorem orEmpty_obj (ms : List (String × Json)) : (Json.obj ms).orEmpty = .obj ms := by
  cases ms <;> rfl

/-- `x.get(k)`: `None` for a missing key, `AttributeError` on anything but a dict. -/
def get (x : Json) (k : String) : Except PyError Json :=
  match x with
  | .obj ms => .ok ((ms.lookup k).getD .null)
  | _ => .error .attributeError

/-- `x[k]` with a text `k`: `KeyError` for a missing key, `TypeError` on anything but a dict. -/
def item (x : Json) (k : String) : Except PyError Json :=
  match x with
  | .obj ms => match ms.lookup k with
    | some v => .ok v
    | none => .error .keyError
  | _ => .error .typeError

/-- `k in x` with a text `k`: a member of a dict or list, or a part of a text. -/
def contains (x : Json) (k : String) : Except PyError Bool :=
  match x with
  | .obj ms => .ok (ms.any (·.1 = k))
  | .arr xs => .ok (xs.any (· = .str k))
  | .str s => .ok (decide (k.toList <:+: s.toList))
  | _ => .error .typeError

/-- `int(x)` of an instance of `int`; the truth values are instances of it. -/
def asInt : Json → Option Int
  | .int n => some n
  | .bool b => some (if b then 1 else 0)
  | _ => none

@[simp] theorem get_obj (ms : List (String × Json)) (k : String) :
    get (.obj ms) k = .ok ((ms.lookup k).getD .null) := rfl

end Json

end RebooterHub
