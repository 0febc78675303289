import Thingsee.Json.Items
import Mathlib.Algebra.Order.Field.Rat
import Mathlib.Data.Rat.Floor
import Mathlib.Tactic.NormNum

/-!
Owns an arithmetic that never rounds: rational numbers with a sign bit, so that there are two
zeros. `rationals_exact` says that it does what is asked of `double` on integers.
-/

namespace Thingsee.Json

/-- A rational number by its sign and its magnitude. -/
structure SignedRat where
  negative : Bool
  magnitude : Rat

def SignedRat.value (number : SignedRat) : Rat :=
  if number.negative then -number.magnitude else number.magnitude

def rationals : Doubles SignedRat where
  ofInt value := ⟨decide (value < 0), value.natAbs⟩
  toInt number := if number.negative then -number.magnitude.floor else number.magnitude.floor
  toFloat number := number
  signBit number := number.negative
  isInt number := decide (-0x80000000 ≤ number.value ∧ number.value ≤ 0x7fffffff)
  equal left right := decide (left.value = right.value)
  dblEqual left right := decide (|left.value - right.value| ≤
    min |left.value| |right.value| / 0x10000000000000)
  accumulate number digit := ⟨number.negative, number.magnitude * 10 + digit⟩
  scale number exponent := ⟨number.negative, number.magnitude * (10 : Rat) ^ exponent⟩
  copySign number negative := ⟨negative, number.magnitude⟩
  render _ := []

theorem value_ofInt (value : Int) : (rationals.ofInt value).value = value := by
  have magnitude : ((value.natAbs : Nat) : Rat) = |(value : Rat)| := by
    rw [Nat.cast_natAbs, Int.cast_abs]
  show (if decide (value < 0) = true then -((value.natAbs : Nat) : Rat)
    else ((value.natAbs : Nat) : Rat)) = value
  rw [magnitude]
  by_cases negative : value < 0
  · have cast : (value : Rat) < 0 := by exact_mod_cast negative
    rw [if_pos (decide_eq_true negative), abs_of_neg cast, neg_neg]
  · have cast : (0 : Rat) ≤ value := by exact_mod_cast Int.not_lt.mp negative
    rw [if_neg (by simpa using negative), abs_of_nonneg cast]

theorem ofInt_natCast (value : Nat) :
    rationals.ofInt (value : Int) = ⟨false, (value : Rat)⟩ := by
  show SignedRat.mk (decide ((value : Int) < 0)) ((value : Int).natAbs : Rat) = _
  rw [Int.natAbs_natCast, decide_eq_false (by omega)]

theorem rationals_exact : rationals.Exact where
  toInt_ofInt := by
    intro value _
    show (if decide (value < 0) = true then -((value.natAbs : Nat) : Rat).floor
      else ((value.natAbs : Nat) : Rat).floor) = value
    rw [← Int.cast_natCast value.natAbs, Rat.floor_intCast]
    by_cases negative : value < 0
    · rw [if_pos (decide_eq_true negative)]
      omega
    · rw [if_neg (by simpa using negative)]
      omega
  equal_ofInt := by
    intro left right _ _
    show decide ((rationals.ofInt left).value = (rationals.ofInt right).value) = _
    rw [value_ofInt, value_ofInt]
    exact decide_eq_decide.mpr Int.cast_inj
  dblEqual_ofInt := by
    intro value _
    apply decide_eq_true
    rw [sub_self, abs_zero]
    positivity
  signBit_ofInt := fun _ => rfl
  isInt_ofInt := by
    intro value fits
    apply decide_eq_true
    rw [value_ofInt]
    exact ⟨by exact_mod_cast fits.1, by exact_mod_cast fits.2⟩
  accumulate_ofInt := by
    intro value digit _ _
    rw [ofInt_natCast, ofInt_natCast]
    push_cast
    rfl
  scale_zero := by
    intro value _
    rw [ofInt_natCast]
    show SignedRat.mk false ((value : Rat) * (10 : Rat) ^ (0 : Int)) = _
    rw [zpow_zero, mul_one]
  equal_zero := by
    intro value _
    show decide ((rationals.ofInt value).value = (rationals.ofInt 0).value) = _
    rw [value_ofInt, value_ofInt]
    apply decide_eq_decide.mpr
    norm_num
  copySign_positive := by
    intro value _
    rw [ofInt_natCast]
    rfl
  copySign_negative := by
    intro value positive _
    rw [ofInt_natCast]
    show SignedRat.mk true (value : Rat) = SignedRat.mk (decide (-(value : Int) < 0))
      ((-(value : Int)).natAbs : Rat)
    rw [decide_eq_true (by omega), Int.natAbs_neg, Int.natAbs_natCast]
  negativeZero_equal := by decide +kernel
  negativeZero_signBit := rfl
  negativeZero_toInt := by decide +kernel
  negativeZero_toFloat := rfl

end Thingsee.Json
