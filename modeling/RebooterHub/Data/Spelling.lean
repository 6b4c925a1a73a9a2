import RebooterHub.Data.Text

/-!
# Data — Spelling

`str(x)` of a JSON value, and `int` of the text of a whole number.

* `Text.int_ofInt`: `int(str(n))` is `n`.
-/

namespace RebooterHub.Text

/-- `str(n)` of a whole number. -/
def ofInt : Int → List Char
  | .ofNat n => Nat.toDigits 10 n
  | .negSucc n => '-' :: Nat.toDigits 10 (n + 1)

theorem decimal_of_isDigit {c : Char} (h : c.isDigit) : decimal c = some (c.toNat - '0'.toNat) := by
  have hrange : 48 ≤ c.toNat ∧ c.toNat < 48 + 10 := by
    rw [Char.isDigit, Bool.and_eq_true, decide_eq_true_eq, decide_eq_true_eq] at h
    exact ⟨h.1, Nat.lt_succ_of_le h.2⟩
  rw [decimal, decimalZeros, List.find?_cons_of_pos (by simpa using hrange), Option.map_some]
  rfl

theorem moreDigits_of_isDigit {n : Nat} {cs : List Char} (h : ∀ c ∈ cs, c.isDigit) :
    moreDigits n cs = some (Nat.ofDigitChars 10 cs n) := by
  induction cs generalizing n with
  | nil => rfl
  | cons c cs ih =>
      obtain ⟨hc, hcs⟩ := List.forall_mem_cons.mp h
      have hunderscore : c ≠ '_' := by
        rintro rfl
        exact absurd hc (by decide)
      rw [moreDigits, decimal_of_isDigit hc, Option.bind_eq_bind, Option.bind_some, ih hcs,
        Nat.ofDigitChars_cons, Nat.mul_comm n]
      · intro d ds hd
        exact absurd hd hunderscore

theorem isDigit_toDigits {n : Nat} : ∀ c ∈ Nat.toDigits 10 n, c.isDigit :=
  fun _ hc => Nat.isDigit_of_mem_toDigits (by decide) (by decide) hc

theorem natural_toDigits (n : Nat) : natural (Nat.toDigits 10 n) = some n := by
  cases hdigits : Nat.toDigits 10 n with
  | nil => exact absurd hdigits Nat.toDigits_ne_nil
  | cons c cs =>
      have hall := isDigit_toDigits (n := n)
      rw [hdigits] at hall
      obtain ⟨hc, hcs⟩ := List.forall_mem_cons.mp hall
      have hvalue := Nat.ofDigitChars_ten_toDigits (n := n)
      rw [hdigits, Nat.ofDigitChars_cons, Nat.mul_zero, Nat.zero_add] at hvalue
      rw [natural, decimal_of_isDigit hc, Option.bind_eq_bind, Option.bind_some,
        moreDigits_of_isDigit hcs, hvalue]

theorem isspace_of_isDigit {c : Char} (h : c.isDigit) : isspace c = false := by
  rw [Char.isDigit, Bool.and_eq_true, decide_eq_true_eq, decide_eq_true_eq] at h
  have hlow : 48 ≤ c.toNat := h.1
  have hhigh : c.toNat ≤ 57 := h.2
  rw [isspace, decide_eq_false_iff_not]
  omega

/-- A text of digits, with or without a sign, is its own `strip`. -/
theorem strip_digits {cs : List Char} (h : ∀ c ∈ cs, isspace c = false) : strip cs = cs :=
  strip_of_ends (fun _ hc => h _ (List.mem_of_mem_head? hc))
    fun _ hc => h _ (List.mem_of_mem_getLast? hc)

theorem isspace_ofInt (n : Int) : ∀ c ∈ ofInt n, isspace c = false := by
  intro c hc
  cases n with
  | ofNat n => exact isspace_of_isDigit (isDigit_toDigits c hc)
  | negSucc n =>
      rcases List.mem_cons.mp hc with rfl | hc
      · decide
      · exact isspace_of_isDigit (isDigit_toDigits c hc)

theorem ofInt_ne_nil (n : Int) : ofInt n ≠ [] := by
  cases n with
  | ofNat n => exact Nat.toDigits_ne_nil
  | negSucc n => exact List.cons_ne_nil _ _

/-- `int(str(n))`. -/
theorem int_ofInt (n : Int) : int (ofInt n) = some n := by
  rw [int, strip_digits (isspace_ofInt n)]
  cases n with
  | ofNat n =>
      rw [ofInt]
      split
      · next cs hcs =>
          exact absurd (isDigit_toDigits '-' (hcs ▸ List.mem_cons_self)) (by decide)
      · next cs hcs =>
          exact absurd (isDigit_toDigits '+' (hcs ▸ List.mem_cons_self)) (by decide)
      · rw [natural_toDigits]
        rfl
  | negSucc n => simp [ofInt, natural_toDigits, Int.negSucc_eq]

end RebooterHub.Text

namespace RebooterHub.Json

/-- `str(x)`, where `spell` writes a float, a list or a dict. -/
def text (spell : Json → String) : Json → List Char
  | .null => "None".toList
  | .bool b => if b then "True".toList else "False".toList
  | .int n => Text.ofInt n
  | .str s => s.toList
  | x => (spell x).toList

end RebooterHub.Json
