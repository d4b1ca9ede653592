import Mathlib.Data.Nat.Bitwise
import Mathlib.Tactic.Ring
import Mathlib.Tactic.NormNum

/-!
# Big-endian words

A byte string read as a base-256 numeral, most significant byte first, and the
shift-and-mask loads and stores of 16, 32 and 64-bit words that compute it.
Everything here is about bytes and words only.
-/

namespace VTRemote
namespace BigEndian

/-!
## Numerals
-/

/-- The number a byte string denotes. -/
def value : List UInt8 -> Nat
  | [] => 0
  | b :: rest => b.toNat * 256 ^ rest.length + value rest

/-- The low `width` base-256 digits of a number. -/
def digits : Nat -> Nat -> List UInt8
  | 0, _ => []
  | width + 1, n => UInt8.ofNat (n / 256 ^ width) :: digits width n

@[simp] theorem digits_length (width n : Nat) :
    (digits width n).length = width := by
  induction width with
  | zero => rfl
  | succ width ih => simp [digits, ih]

theorem value_lt (bytes : List UInt8) :
    value bytes < 256 ^ bytes.length := by
  induction bytes with
  | nil => simp [value]
  | cons b rest ih =>
      have hb : b.toNat < 256 := b.toNat_lt
      have hmul : b.toNat * 256 ^ rest.length ≤ 255 * 256 ^ rest.length :=
        Nat.mul_le_mul_right _ (by omega)
      simp only [value, List.length_cons, Nat.pow_succ]
      omega

theorem value_snoc (bytes : List UInt8) (b : UInt8) :
    value (bytes ++ [b]) = value bytes * 256 + b.toNat := by
  induction bytes with
  | nil => simp [value]
  | cons head rest ih =>
      rw [List.cons_append, value, value, ih, List.length_append,
        List.length_singleton, Nat.pow_succ]
      ring

theorem value_digits_mod (width n : Nat) :
    value (digits width n) = n % 256 ^ width := by
  induction width with
  | zero => simp [digits, value, Nat.mod_one]
  | succ width ih =>
      have hhead : (UInt8.ofNat (n / 256 ^ width)).toNat =
          n / 256 ^ width % 256 := by
        simp
      simp only [digits, value, digits_length, ih, hhead]
      rw [Nat.pow_succ, Nat.mod_mul, Nat.mul_comm, Nat.add_comm]

theorem value_digits {width n : Nat} (h : n < 256 ^ width) :
    value (digits width n) = n := by
  rw [value_digits_mod, Nat.mod_eq_of_lt h]

theorem digits_add_mul (width n k : Nat) :
    digits width (k * 256 ^ width + n) = digits width n := by
  induction width generalizing k with
  | zero => rfl
  | succ width ih =>
      have hpos : 0 < 256 ^ width := Nat.pow_pos (by decide)
      have hsplit : k * 256 ^ (width + 1) + n =
          k * 256 * 256 ^ width + n := by
        rw [Nat.pow_succ]
        ring
      have hdiv : (k * 256 * 256 ^ width + n) / 256 ^ width =
          k * 256 + n / 256 ^ width := by
        rw [Nat.add_comm, Nat.add_mul_div_right _ _ hpos, Nat.add_comm]
      have hhead : UInt8.ofNat (k * 256 + n / 256 ^ width) =
          UInt8.ofNat (n / 256 ^ width) := by
        apply UInt8.toNat_inj.mp
        simp
      simp only [digits]
      rw [hsplit, hdiv, hhead, ih]

theorem digits_value (bytes : List UInt8) :
    digits bytes.length (value bytes) = bytes := by
  induction bytes with
  | nil => rfl
  | cons b rest ih =>
      have hlt := value_lt rest
      have hpos : 0 < 256 ^ rest.length := Nat.pow_pos (by decide)
      have hdiv : (b.toNat * 256 ^ rest.length + value rest) /
          256 ^ rest.length = b.toNat := by
        rw [Nat.add_comm, Nat.add_mul_div_right _ _ hpos,
          Nat.div_eq_of_lt hlt, Nat.zero_add]
      simp only [value, List.length_cons, digits, hdiv, digits_add_mul, ih,
        UInt8.ofNat_toNat]

/-!
## Word loads and stores

The shift-and-or forms that C macros and hand-written readers spell out.
-/

def load16 (b0 b1 : UInt8) : UInt16 :=
  (b0.toUInt16 <<< 8) ||| b1.toUInt16

def load32 (b0 b1 b2 b3 : UInt8) : UInt32 :=
  (b0.toUInt32 <<< 24) ||| (b1.toUInt32 <<< 16) ||| (b2.toUInt32 <<< 8) |||
    b3.toUInt32

def load64 (b0 b1 b2 b3 b4 b5 b6 b7 : UInt8) : UInt64 :=
  (b0.toUInt64 <<< 56) ||| (b1.toUInt64 <<< 48) ||| (b2.toUInt64 <<< 40) |||
    (b3.toUInt64 <<< 32) ||| (b4.toUInt64 <<< 24) ||| (b5.toUInt64 <<< 16) |||
    (b6.toUInt64 <<< 8) ||| b7.toUInt64

def store16 (v : UInt16) : List UInt8 :=
  [(v >>> 8).toUInt8, v.toUInt8]

def store32 (v : UInt32) : List UInt8 :=
  [(v >>> 24).toUInt8, (v >>> 16).toUInt8, (v >>> 8).toUInt8, v.toUInt8]

def store64 (v : UInt64) : List UInt8 :=
  [(v >>> 56).toUInt8, (v >>> 48).toUInt8, (v >>> 40).toUInt8,
    (v >>> 32).toUInt8, (v >>> 24).toUInt8, (v >>> 16).toUInt8,
    (v >>> 8).toUInt8, v.toUInt8]

/-- Oring a byte into the free low bits appends it as the next digit. -/
theorem lor_digit (n k : Nat) (b : UInt8) :
    n * 2 ^ (k + 8) ||| b.toNat * 2 ^ k = (n * 256 + b.toNat) * 2 ^ k := by
  have hlt : b.toNat * 2 ^ k < 2 ^ (k + 8) := by
    have hb : b.toNat < 2 ^ 8 := by simpa using b.toNat_lt
    rw [Nat.pow_add, Nat.mul_comm (2 ^ k)]
    exact Nat.mul_lt_mul_of_pos_right hb (Nat.pow_pos (by decide))
  rw [Nat.mul_comm n, <- Nat.two_pow_add_eq_or_of_lt hlt n, Nat.pow_add]
  ring

private theorem byte_shift_toNat (b : UInt8) {k w : Nat} (h : k + 8 ≤ w) :
    b.toNat <<< k % 2 ^ w = b.toNat * 2 ^ k := by
  have hb : b.toNat < 2 ^ 8 := by simpa using b.toNat_lt
  have hlt : b.toNat * 2 ^ k < 2 ^ w := by
    calc b.toNat * 2 ^ k < 2 ^ 8 * 2 ^ k :=
          Nat.mul_lt_mul_of_pos_right hb (Nat.pow_pos (by decide))
      _ = 2 ^ (k + 8) := by rw [Nat.pow_add, Nat.mul_comm]
      _ ≤ 2 ^ w := Nat.pow_le_pow_right (by decide) h
  rw [Nat.shiftLeft_eq, Nat.mod_eq_of_lt hlt]

theorem shift_lor_toNat {word : UInt32} (h : word.toNat < 2 ^ 24) (b : UInt8) :
    ((word <<< 8) ||| b.toUInt32).toNat = word.toNat * 256 + b.toNat := by
  have hlt : word.toNat * 2 ^ 8 < 2 ^ 32 := by
    calc word.toNat * 2 ^ 8 < 2 ^ 24 * 2 ^ 8 :=
          Nat.mul_lt_mul_of_pos_right h (by decide)
      _ = 2 ^ 32 := by norm_num
  have hdigit := lor_digit word.toNat 0 b
  rw [Nat.pow_zero, Nat.mul_one, Nat.mul_one, Nat.zero_add] at hdigit
  rw [UInt32.toNat_or, UInt32.toNat_shiftLeft, UInt8.toNat_toUInt32]
  rw [show (8 : UInt32).toNat % 32 = 8 from rfl, Nat.shiftLeft_eq,
    Nat.mod_eq_of_lt hlt]
  exact hdigit

theorem load16_toNat (b0 b1 : UInt8) :
    (load16 b0 b1).toNat = value [b0, b1] := by
  have h0 := byte_shift_toNat b0 (k := 8) (w := 16) (by decide)
  have h1 := lor_digit b0.toNat 0 b1
  simp only [load16, UInt16.toNat_or, UInt16.toNat_shiftLeft,
    UInt8.toNat_toUInt16, UInt16.reduceToNat, value] at *
  norm_num at *
  rw [h0, h1]

theorem load32_toNat (b0 b1 b2 b3 : UInt8) :
    (load32 b0 b1 b2 b3).toNat = value [b0, b1, b2, b3] := by
  have h0 := byte_shift_toNat b0 (k := 24) (w := 32) (by decide)
  have h1 := byte_shift_toNat b1 (k := 16) (w := 32) (by decide)
  have h2 := byte_shift_toNat b2 (k := 8) (w := 32) (by decide)
  have g1 := lor_digit b0.toNat 16 b1
  have g2 := lor_digit (b0.toNat * 256 + b1.toNat) 8 b2
  have g3 := lor_digit ((b0.toNat * 256 + b1.toNat) * 256 + b2.toNat) 0 b3
  simp only [load32, UInt32.toNat_or, UInt32.toNat_shiftLeft,
    UInt8.toNat_toUInt32, UInt32.reduceToNat, value] at *
  norm_num at *
  rw [h0, h1, h2, g1, g2, g3]
  ring

theorem load64_toNat (b0 b1 b2 b3 b4 b5 b6 b7 : UInt8) :
    (load64 b0 b1 b2 b3 b4 b5 b6 b7).toNat =
      value [b0, b1, b2, b3, b4, b5, b6, b7] := by
  have h0 := byte_shift_toNat b0 (k := 56) (w := 64) (by decide)
  have h1 := byte_shift_toNat b1 (k := 48) (w := 64) (by decide)
  have h2 := byte_shift_toNat b2 (k := 40) (w := 64) (by decide)
  have h3 := byte_shift_toNat b3 (k := 32) (w := 64) (by decide)
  have h4 := byte_shift_toNat b4 (k := 24) (w := 64) (by decide)
  have h5 := byte_shift_toNat b5 (k := 16) (w := 64) (by decide)
  have h6 := byte_shift_toNat b6 (k := 8) (w := 64) (by decide)
  have g1 := lor_digit b0.toNat 48 b1
  have g2 := lor_digit (b0.toNat * 256 + b1.toNat) 40 b2
  have g3 := lor_digit ((b0.toNat * 256 + b1.toNat) * 256 + b2.toNat) 32 b3
  have g4 := lor_digit
    (((b0.toNat * 256 + b1.toNat) * 256 + b2.toNat) * 256 + b3.toNat) 24 b4
  have g5 := lor_digit
    ((((b0.toNat * 256 + b1.toNat) * 256 + b2.toNat) * 256 + b3.toNat) * 256 +
      b4.toNat) 16 b5
  have g6 := lor_digit
    (((((b0.toNat * 256 + b1.toNat) * 256 + b2.toNat) * 256 + b3.toNat) * 256 +
      b4.toNat) * 256 + b5.toNat) 8 b6
  have g7 := lor_digit
    ((((((b0.toNat * 256 + b1.toNat) * 256 + b2.toNat) * 256 + b3.toNat) * 256 +
      b4.toNat) * 256 + b5.toNat) * 256 + b6.toNat) 0 b7
  simp only [load64, UInt64.toNat_or, UInt64.toNat_shiftLeft,
    UInt8.toNat_toUInt64, UInt64.reduceToNat, value] at *
  norm_num at *
  rw [h0, h1, h2, h3, h4, h5, h6, g1, g2, g3, g4, g5, g6, g7]
  ring

/-!
## Stores are digits
-/

theorem store16_eq (v : UInt16) : store16 v = digits 2 v.toNat := by
  simp only [store16, digits]
  refine congrArg₂ _ ?_ (congrArg₂ _ ?_ rfl) <;>
    · apply UInt8.toNat_inj.mp
      simp [Nat.shiftRight_eq_div_pow]

theorem store32_eq (v : UInt32) : store32 v = digits 4 v.toNat := by
  simp only [store32, digits]
  refine congrArg₂ _ ?_ (congrArg₂ _ ?_ (congrArg₂ _ ?_
    (congrArg₂ _ ?_ rfl))) <;>
    · apply UInt8.toNat_inj.mp
      simp [Nat.shiftRight_eq_div_pow]

theorem store64_eq (v : UInt64) : store64 v = digits 8 v.toNat := by
  simp only [store64, digits]
  refine congrArg₂ _ ?_ (congrArg₂ _ ?_ (congrArg₂ _ ?_ (congrArg₂ _ ?_
    (congrArg₂ _ ?_ (congrArg₂ _ ?_ (congrArg₂ _ ?_
      (congrArg₂ _ ?_ rfl))))))) <;>
    · apply UInt8.toNat_inj.mp
      simp [Nat.shiftRight_eq_div_pow]

@[simp] theorem store16_length (v : UInt16) : (store16 v).length = 2 := rfl

@[simp] theorem store32_length (v : UInt32) : (store32 v).length = 4 := rfl

@[simp] theorem store64_length (v : UInt64) : (store64 v).length = 8 := rfl

end BigEndian
end VTRemote
