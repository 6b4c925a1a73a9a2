import Mathlib.Data.Rat.Cast.Order
import RebooterHub.Data.Json

/-!
# Data — Equality

Python's `==` on JSON values.  Numbers are compared by their value whatever their type (`1`, `1.0`
and `True` are equal), objects by their members whatever their order.

`Equal` tells the types of numbers apart as well.
-/

namespace RebooterHub.Json

/-- The number a value is; the truth values are 0 and 1. -/
def number : Json → Option Rat
  | .bool b => some (if b then 1 else 0)
  | .int n => some n
  | .float q => some q
  | .null | .str _ | .arr _ | .obj _ => none

mutual

/-- `a == b`. -/
def same : (a b : Json) → Bool
  | .null, .null => true
  | .str a, .str b => a = b
  | .arr a, .arr b => sameArr a b
  | .obj a, .obj b => a.length = b.length && sameObj a b
  | .bool a, b => b.number = some (if a then 1 else 0)
  | .int a, b => b.number = some (a : Rat)
  | .float a, b => b.number = some a
  | .null, _ | .str _, _ | .arr _, _ | .obj _, _ => false

/-- `==` of lists. -/
def sameArr : (a b : List Json) → Bool
  | [], [] => true
  | x :: xs, y :: ys => same x y && sameArr xs ys
  | [], _ :: _ | _ :: _, [] => false

/-- Each member of an object is one of another. -/
def sameObj : (a b : List (String × Json)) → Bool
  | [], _ => true
  | (k, x) :: xs, ys =>
    (match ys.lookup k with
      | some y => same x y
      | none => false) && sameObj xs ys

end

/-- A value that a set can hold, of those that `json.loads` makes. -/
def hashable : Json → Bool
  | .arr _ | .obj _ => false
  | _ => true

example : (Json.int 1).same (.bool true) = true ∧ (Json.str "1").same (.int 1) = false := by
  simp [same, number]

example : (Json.obj [("a", .null), ("b", .arr [.float 2])]).same
    (.obj [("b", .arr [.int 2]), ("a", .null)]) = true := by
  decide +kernel

/-- A number equals the values of the same number. -/
theorem same_of_number {a : Json} {q : Rat} (ha : a.number = some q) (b : Json) :
    a.same b = decide (b.number = some q) := by
  cases a with
  | bool x | int n | float r =>
      obtain rfl := Option.some_inj.mp ha
      rw [same]
  | null => cases ha
  | str s => cases ha
  | arr xs => cases ha
  | obj ms => cases ha

@[simp] theorem same_str (a : Json) (s : String) : a.same (.str s) = decide (a = .str s) := by
  cases a <;> simp [same, number]

@[simp] theorem str_same (s : String) (a : Json) : (Json.str s).same a = decide (a = .str s) := by
  cases a <;> simp [same, eq_comm]

@[simp] theorem same_null (a : Json) : a.same .null = decide (a = .null) := by
  cases a <;> simp [same, number]

@[simp] theorem null_same (a : Json) : Json.null.same a = decide (a = .null) := by
  cases a <;> simp [same]

/-- `==` is symmetric on what a set can hold. -/
theorem same_comm {a b : Json} (ha : a.hashable) (hb : b.hashable) : a.same b = b.same a := by
  cases hna : a.number with
  | some q =>
      rw [same_of_number hna]
      cases hnb : b.number with
      | some r => rw [same_of_number hnb, hna]; simp [eq_comm]
      | none =>
          cases b with
          | null => simp [Json.number] at hna ⊢; rintro rfl; cases hna
          | str s => simp; rintro rfl; cases hna
          | bool x => cases hnb
          | int n => cases hnb
          | float r => cases hnb
          | arr xs => cases hb
          | obj ms => cases hb
  | none =>
      cases a with
      | null => simp
      | str s => simp
      | bool x => cases hna
      | int n => cases hna
      | float r => cases hna
      | arr xs => cases ha
      | obj ms => cases ha

/-! ### Equality with types -/

/-- The same value: objects are compared by their members whatever their order, and no value equals
one of another type. -/
inductive Equal : Json → Json → Prop where
  | refl (x : Json) : Equal x x
  | arr {xs ys : List Json} (hlength : xs.length = ys.length)
      (hitems : ∀ (i : Nat) (x y : Json), xs[i]? = some x → ys[i]? = some y → Equal x y) :
      Equal (.arr xs) (.arr ys)
  | obj {ms ns : List (String × Json)}
      (hkeys : ∀ k, (ms.lookup k).isSome = (ns.lookup k).isSome)
      (hvalues : ∀ (k : String) (x y : Json), ms.lookup k = some x → ns.lookup k = some y →
        Equal x y) :
      Equal (.obj ms) (.obj ns)

theorem equal_str {s : String} {y : Json} : Equal (.str s) y ↔ y = .str s := by
  constructor
  · rintro ⟨⟩
    rfl
  · rintro rfl
    exact .refl _

theorem equal_int {n : Int} {y : Json} : Equal (.int n) y ↔ y = .int n := by
  constructor
  · rintro ⟨⟩
    rfl
  · rintro rfl
    exact .refl _

theorem equal_bool {b : Bool} {y : Json} : Equal (.bool b) y ↔ y = .bool b := by
  constructor
  · rintro ⟨⟩
    rfl
  · rintro rfl
    exact .refl _

/-- A list of texts equals itself only. -/
theorem equal_texts {ts : List String} {y : Json} :
    Equal (.arr (ts.map .str)) y ↔ y = .arr (ts.map .str) := by
  constructor
  · intro h
    cases h with
    | refl => rfl
    | @arr _ ys hlength hitems =>
        refine congrArg Json.arr (List.ext_getElem? fun i => ?_)
        cases hx : (ts.map Json.str)[i]? with
        | none =>
            rw [List.getElem?_eq_none_iff] at hx ⊢
            rwa [← hlength]
        | some x =>
            obtain ⟨t, -, rfl⟩ := List.mem_map.mp (List.mem_of_getElem? hx)
            obtain ⟨hi, -⟩ := List.getElem?_eq_some_iff.mp hx
            rw [List.getElem?_eq_getElem (hlength ▸ hi)]
            exact congrArg some (equal_str.mp (hitems i _ _ hx
              (List.getElem?_eq_getElem (hlength ▸ hi))))
  · rintro rfl
    exact .refl _

/-- Objects are equal when they have equal values, or none, under each key. -/
theorem equal_obj {ms ns : List (String × Json)} :
    Equal (.obj ms) (.obj ns) ↔ ∀ k, Option.Rel Equal (ms.lookup k) (ns.lookup k) := by
  have hrefl : ∀ x : Option Json, Option.Rel Equal x x := by
    rintro (_ | x)
    · exact .none
    · exact .some (.refl x)
  constructor
  · intro h k
    cases h with
    | refl => exact hrefl _
    | obj hkeys hvalues =>
        cases hx : ms.lookup k with
        | none =>
            have hy := hkeys k
            rw [hx, Option.isSome_none, Eq.comm, Option.isSome_eq_false_iff,
              Option.isNone_iff_eq_none] at hy
            rw [hy]
            exact .none
        | some x =>
            have hy := hkeys k
            rw [hx, Option.isSome_some, Eq.comm, Option.isSome_iff_exists] at hy
            obtain ⟨y, hy⟩ := hy
            rw [hy]
            exact .some (hvalues k x y hx hy)
  · intro h
    refine .obj (fun k => ?_) fun k x y hx hy => ?_
    · have hk := h k
      generalize ms.lookup k = x at hk
      generalize ns.lookup k = y at hk
      cases hk with
      | some => rfl
      | none => rfl
    · have hk := h k
      rw [hx, hy] at hk
      cases hk with
      | some hxy => exact hxy

end RebooterHub.Json
