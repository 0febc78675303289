import Mathlib.Data.List.Basic
import Mathlib.Tactic.Linarith
import Mathlib.Tactic.Positivity
import Mathlib.Tactic.Ring

/-!
Owns the little-endian byte representation of integers: `leBytes` writes the
low bytes of an integer, `leValue` reads a byte list back as a natural number,
and `toSigned` reads a natural number as a two's complement one.

`toSigned_leValue_leBytes` is the round trip: writing and reading at a width
wraps an integer to that width.
-/

namespace Thingsee.Support

variable (count : Nat) (value : Int)

/-- The `count` low bytes of `value`, least significant first. -/
def leBytes : Nat → Int → List UInt8
  | 0, _ => []
  | count + 1, value => UInt8.ofNat (value % 256).toNat :: leBytes count (value / 256)

def leValue : List UInt8 → Nat
  | [] => 0
  | byte :: rest => byte.toNat + 256 * leValue rest

/-- Two's complement reading of a natural number of `bits` bits. -/
def toSigned (bits : Nat) (value : Int) : Int := value.bmod (2 ^ bits)

@[simp] theorem leBytes_length (count : Nat) (value : Int) :
    (leBytes count value).length = count := by
  induction count generalizing value with
  | zero => rfl
  | succ count ih => simp [leBytes, ih]

/-- Remainder by a product: the low remainder, plus the scaled remainder of the
quotient. -/
private theorem emod_mul_eq_add (divisor factor : Int) (divisorPos : 0 < divisor)
    (factorPos : 0 < factor) :
    value % (divisor * factor) = value % divisor + divisor * (value / divisor % factor) := by
  have lowNonneg := Int.emod_nonneg value divisorPos.ne'
  have lowLt := Int.emod_lt_of_pos value divisorPos
  have highNonneg := Int.emod_nonneg (value / divisor) factorPos.ne'
  have highLt := Int.emod_lt_of_pos (value / divisor) factorPos
  have expansion : value =
      (value % divisor + divisor * (value / divisor % factor)) +
        divisor * factor * (value / divisor / factor) := by
    have outer := Int.emod_add_mul_ediv value divisor
    have inner := Int.emod_add_mul_ediv (value / divisor) factor
    calc value = value % divisor + divisor * (value / divisor) := outer.symm
      _ = value % divisor + divisor * (value / divisor % factor +
            factor * (value / divisor / factor)) := by rw [inner]
      _ = _ := by ring
  conv_lhs => rw [expansion]
  rw [Int.add_mul_emod_self_left]
  apply Int.emod_eq_of_lt
  · positivity
  · nlinarith

theorem leValue_leBytes : (leValue (leBytes count value) : Int) = value % 256 ^ count := by
  induction count generalizing value with
  | zero => simp [leBytes, leValue]
  | succ count ih =>
    have digitNonneg : 0 ≤ value % 256 := Int.emod_nonneg _ (by decide)
    have digitLt : value % 256 < 256 := Int.emod_lt_of_pos _ (by decide)
    have digit : ((UInt8.ofNat (value % 256).toNat).toNat : Int) = value % 256 := by
      rw [UInt8.toNat_ofNat', Nat.mod_eq_of_lt (by omega), Int.toNat_of_nonneg digitNonneg]
    have split := emod_mul_eq_add value (256 : Int) (256 ^ count) (by decide) (by positivity)
    rw [pow_succ, mul_comm]
    simp only [leBytes, leValue, Nat.cast_add, Nat.cast_mul, Nat.cast_ofNat, digit,
      ih, split]

theorem toSigned_of_range (bits : Nat) {value : Int} (lower : -2 ^ bits ≤ value)
    (upper : value < 2 ^ bits) : toSigned (bits + 1) value = value := by
  have double : (2 : Int) ^ (bits + 1) = 2 * 2 ^ bits := by ring
  apply Int.bmod_eq_of_le
  · push_cast
    omega
  · push_cast
    omega

theorem two_pow_eight_mul : ((2 ^ (8 * count) : Nat) : Int) = 256 ^ count := by
  push_cast
  rw [pow_mul]
  norm_num

theorem toSigned_leValue_leBytes :
    toSigned (8 * count) (leValue (leBytes count value)) = toSigned (8 * count) value := by
  unfold toSigned
  rw [leValue_leBytes, ← two_pow_eight_mul, Int.emod_bmod]

theorem leBytes_emod : leBytes count (value % 256 ^ count) = leBytes count value := by
  induction count generalizing value with
  | zero => rfl
  | succ count ih =>
    have split := emod_mul_eq_add value (256 : Int) (256 ^ count) (by decide) (by positivity)
    have lowLt := Int.emod_lt_of_pos value (show (0 : Int) < 256 by decide)
    have lowNonneg := Int.emod_nonneg value (show (256 : Int) ≠ 0 by decide)
    have low : value % 256 ^ (count + 1) % 256 = value % 256 := by
      rw [pow_succ, mul_comm, split]
      omega
    have high : value % 256 ^ (count + 1) / 256 = value / 256 % 256 ^ count := by
      rw [pow_succ, mul_comm, split]
      omega
    rw [leBytes, leBytes, low, high, ih]

theorem leBytes_toSigned : leBytes count (toSigned (8 * count) value) = leBytes count value := by
  rw [← leBytes_emod, ← leBytes_emod count value]
  congr 1
  unfold toSigned
  rw [← two_pow_eight_mul, Int.bmod_emod]

theorem leValue_leBytes_of_lt {count value : Nat} (small : value < 256 ^ count) :
    leValue (leBytes count value) = value := by
  have read := leValue_leBytes count value
  rw [Int.emod_eq_of_lt (by omega) (by exact_mod_cast small)] at read
  exact_mod_cast read

theorem leBytes_leValue (bytes : List UInt8) : leBytes bytes.length (leValue bytes) = bytes := by
  induction bytes with
  | nil => rfl
  | cons byte rest ih =>
    have small := byte.toNat_lt
    have low : ((leValue (byte :: rest) : Nat) : Int) % 256 = byte.toNat := by
      rw [leValue]
      omega
    have high : ((leValue (byte :: rest) : Nat) : Int) / 256 = leValue rest := by
      rw [leValue]
      omega
    rw [List.length_cons, leBytes, low, high, ih]
    simp

end Thingsee.Support
