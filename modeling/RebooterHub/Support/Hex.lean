import Mathlib.Data.List.Basic
import RebooterHub.Support.Fallible

/-!
# Support — Hex

Bytes as text.

* `encode` is `bytes.hex`, and `decode` is `bytes.fromhex`: blanks may stand between the bytes.
* `decode_encode`: the bytes come back.
-/

namespace RebooterHub.Hex
open Fallible

/-- The digit of a value below 16. -/
def digit (n : Nat) : Char := Char.ofNat (if n < 10 then 48 + n else 87 + n)

/-- The value of a digit, of either case. -/
def value (c : Char) : Option Nat :=
  if '0' ≤ c ∧ c ≤ '9' then some (c.toNat - 48)
  else if 'a' ≤ c ∧ c ≤ 'f' then some (c.toNat - 87)
  else if 'A' ≤ c ∧ c ≤ 'F' then some (c.toNat - 55)
  else none

/-- The blanks of ASCII. -/
def isBlank (c : Char) : Bool := c = ' ' ∨ 9 ≤ c.toNat ∧ c.toNat ≤ 13

/-- The digits of some bytes. -/
def encode (bs : List UInt8) : List Char :=
  bs.flatMap fun b => [digit (b.toNat / 16), digit (b.toNat % 16)]

/-- The bytes of some digits, or the position of what is not a digit; `pos` came before. -/
def decodeFrom (pos : Nat) : List Char → Except Nat (List UInt8)
  | [] => .ok []
  | [c] => if isBlank c then .ok [] else .error (if value c = none then pos else pos + 1)
  | c :: c' :: cs =>
    if isBlank c then decodeFrom (pos + 1) (c' :: cs)
    else match value c, value c' with
      | none, _ => .error pos
      | some _, none => .error (pos + 1)
      | some hi, some lo => do return UInt8.ofNat (16 * hi + lo) :: (← decodeFrom (pos + 2) cs)

/-- The bytes of a text.  In a text that is not of ASCII the first such character is reported. -/
def decode (cs : List Char) : Except Nat (List UInt8) :=
  match cs.findIdx? (128 ≤ ·.toNat) with
  | some i => .error i
  | none => decodeFrom 0 cs

theorem digit_spec {n : Nat} (h : n < 16) :
    value (digit n) = some n ∧ isBlank (digit n) = false ∧ (digit n).toNat < 128 := by
  have hall : ∀ n : Fin 16, value (digit n) = some n.val ∧ isBlank (digit n) = false ∧
      (digit n).toNat < 128 := by decide
  exact hall ⟨n, h⟩

theorem decodeFrom_encode (pos : Nat) (bs : List UInt8) : decodeFrom pos (encode bs) = .ok bs := by
  induction bs generalizing pos with
  | nil => rfl
  | cons b bs ih =>
      have hb : b.toNat < 256 := b.toNat_lt
      obtain ⟨hhigh, hblank, -⟩ := digit_spec (n := b.toNat / 16) (by omega)
      obtain ⟨hlow, -, -⟩ := digit_spec (n := b.toNat % 16) (by omega)
      have hbyte : UInt8.ofNat (16 * (b.toNat / 16) + b.toNat % 16) = b := by
        rw [Nat.div_add_mod, UInt8.ofNat_toNat]
      change decodeFrom pos (digit (b.toNat / 16) :: digit (b.toNat % 16) :: encode bs) = _
      rw [decodeFrom, if_neg (by rw [hblank]; nofun), hhigh, hlow]
      dsimp only
      rw [ih, hbyte]
      rfl

/-- **The bytes come back.** -/
theorem decode_encode (bs : List UInt8) : decode (encode bs) = .ok bs := by
  have hascii : (encode bs).findIdx? (128 ≤ ·.toNat) = none := by
    refine List.findIdx?_eq_none_iff.mpr fun c hc => ?_
    obtain ⟨b, -, hc⟩ := List.mem_flatMap.mp hc
    have hb : b.toNat < 256 := b.toNat_lt
    have hsmall : c.toNat < 128 := by
      rcases List.mem_pair.mp hc with rfl | rfl
      · exact (digit_spec (by omega)).2.2
      · exact (digit_spec (by omega)).2.2
    exact decide_eq_false (Nat.not_le.mpr hsmall)
  rw [decode, hascii]
  exact decodeFrom_encode 0 bs

/-- A byte takes two digits. -/
theorem length_decodeFrom {pos : Nat} {cs : List Char} {bs : List UInt8}
    (h : decodeFrom pos cs = .ok bs) : 2 * bs.length ≤ cs.length := by
  fun_induction decodeFrom pos cs generalizing bs with
  | case1 | case2 =>
      obtain rfl := Except.ok.inj h
      exact Nat.zero_le _
  | case3 | case5 | case6 => cases h
  | case4 pos c c' cs hblank ih => exact Nat.le_trans (ih h) (Nat.le_succ _)
  | case7 pos c c' cs hblank hi hhi lo hlo ih =>
      obtain ⟨rest, hrest, h⟩ := bind_eq_ok h
      obtain rfl := Except.ok.inj h
      have hle := ih hrest
      simp only [List.length_cons]
      omega

theorem length_decode {cs : List Char} {bs : List UInt8} (h : decode cs = .ok bs) :
    2 * bs.length ≤ cs.length := by
  rw [decode] at h
  split at h
  · cases h
  · exact length_decodeFrom h

/-- A text that does not start with a blank has bytes. -/
theorem decode_ne_nil {c : Char} {cs : List Char} {bs : List UInt8} (h : decode (c :: cs) = .ok bs)
    (hc : isBlank c = false) : bs ≠ [] := by
  rw [decode] at h
  split at h
  · cases h
  · cases cs with
    | nil =>
        rw [decodeFrom, hc] at h
        cases h
    | cons c' cs =>
        rw [decodeFrom, hc] at h
        rintro rfl
        rw [if_neg Bool.false_ne_true] at h
        split at h
        · cases h
        · cases h
        · obtain ⟨rest, -, h⟩ := bind_eq_ok h
          cases h

theorem encode_injective : Function.Injective encode := by
  intro bs bs' h
  have hdecode := decode_encode bs
  rw [h, decode_encode] at hdecode
  exact (Except.ok.inj hdecode).symm

theorem mem_encode {c : Char} {bs : List UInt8} (h : c ∈ encode bs) : ∃ n < 16, c = digit n := by
  obtain ⟨b, -, hc⟩ := List.mem_flatMap.mp h
  have hb : b.toNat < 256 := b.toNat_lt
  rcases List.mem_pair.mp hc with rfl | rfl
  · exact ⟨b.toNat / 16, by omega, rfl⟩
  · exact ⟨b.toNat % 16, by omega, rfl⟩

end RebooterHub.Hex
