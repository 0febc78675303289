import Mathlib.Data.List.GetD
import Thingsee.Support.ByteField
import Thingsee.Support.LongDivision
import Thingsee.Display.ErrorCorrection

/-!
Owns the rounds of `qr_simple_calculate_polynomial` as a long division over the field with 256
elements. The value table is right for all powers, and the index table for all values but two:
0 has no power and the entry of 255 is missing, and the code takes both for the power 0.
`window_eq` is the simulation, with a multiplier that is 1 for these two values.
-/

namespace Thingsee.QrSimple

open Polynomial Support List

theorem valuePolynom_eq : valuePolynom = List.iterate double 1 255 := by
  decide +kernel

theorem ofByte_getValuePolynomial {power : UInt16} (small : power.toNat < 255) :
    ofByte (getValuePolynomial power) = alpha ^ power.toNat := by
  have entry : getValuePolynomial power = double^[power.toNat] 1 := by
    unfold getValuePolynomial
    rw [valuePolynom_eq, getD_eq_getElem _ _ (by rw [length_iterate]; exact small),
      getElem_iterate]
  rw [entry, ofByte_double_iterate, ofByte_one, mul_one]

def hasPower (value : UInt8) : Bool := value != 0 && value != 255

variable (value : UInt8) (input : Nat → UInt8) (mult : MultPolynomial) (rounds : Nat)

theorem getIndexPolynomial_lt : (getIndexPolynomial value).toNat < 255 := by
  have all : ∀ byte : Fin 256, (getIndexPolynomial (UInt8.ofFin byte)).toNat < 255 := by
    decide +kernel
  exact all value.toFin

theorem getValuePolynomial_getIndexPolynomial :
    getValuePolynomial (getIndexPolynomial value).toUInt16 =
      if hasPower value then value else 1 := by
  have all : ∀ byte : Fin 256,
      getValuePolynomial (getIndexPolynomial (UInt8.ofFin byte)).toUInt16 =
        if hasPower (UInt8.ofFin byte) then UInt8.ofFin byte else 1 := by
    decide +kernel
  exact all value.toFin

open Classical in
noncomputable def multiplier (lead : ByteField) : ByteField :=
  if lead = 0 ∨ lead = ofByte 255 then 1 else lead

theorem multiplier_ofByte :
    multiplier (ofByte value) = ofByte (if hasPower value then value else 1) := by
  have without : (ofByte value = 0 ∨ ofByte value = ofByte 255) ↔ hasPower value = false := by
    rw [← ofByte_zero, ofByte_injective.eq_iff, ofByte_injective.eq_iff]
    unfold hasPower
    grind
  unfold multiplier
  cases known : hasPower value with
  | false => rw [if_pos (without.mpr known), if_neg Bool.false_ne_true, ofByte_one]
  | true => rw [if_neg (by rw [without, known]; exact Bool.noConfusion), if_pos rfl]

theorem alpha_pow_getIndexPolynomial :
    alpha ^ (getIndexPolynomial value).toNat = multiplier (ofByte value) := by
  have small := getIndexPolynomial_lt value
  have power : (getIndexPolynomial value).toUInt16.toNat = (getIndexPolynomial value).toNat :=
    UInt8.toNat_toUInt16 _
  rw [multiplier_ofByte, ← getValuePolynomial_getIndexPolynomial,
    ofByte_getValuePolynomial (by omega), power]

noncomputable def divisor (place : Nat) : ByteField :=
  alpha ^ (generatorPolynomial.getD place 0).toNat

theorem generatorPolynomial_lt (place : Nat) :
    (generatorPolynomial.getD place 0).toNat < 255 := by
  by_cases small : place < 11
  · have all : ∀ index : Fin 11, (generatorPolynomial.getD index 0).toNat < 255 := by decide
    exact all ⟨place, small⟩
  · rw [getD_eq_default]
    · decide
    · exact Nat.le_of_not_lt small

theorem ofByte_addPowers {left right : UInt8} (leftSmall : left.toNat < 255)
    (rightSmall : right.toNat < 255) :
    ofByte (getValuePolynomial (addPowers left right)) =
      alpha ^ left.toNat * alpha ^ right.toNat := by
  have total : (left.toUInt16 + right.toUInt16).toNat = left.toNat + right.toNat := by
    rw [UInt16.toNat_add, UInt8.toNat_toUInt16, UInt8.toNat_toUInt16]
    omega
  unfold addPowers
  split_ifs with beyond
  · have reduced : (left.toUInt16 + right.toUInt16 - 0xFF).toNat =
        left.toNat + right.toNat - 255 := by
      rw [UInt16.toNat_sub_of_le _ _ beyond, total]
      rfl
    have enough : 255 ≤ left.toNat + right.toNat := by
      rw [← total]
      exact UInt16.le_iff_toNat_le.mp beyond
    rw [ofByte_getValuePolynomial (by omega), reduced, ← pow_add]
    conv_rhs => rw [← Nat.sub_add_cancel enough, pow_add, alpha_pow_order, mul_one]
  · have inside : left.toNat + right.toNat < 255 := by
      rw [← total]
      exact Nat.lt_of_not_le fun high => beyond (UInt16.le_iff_toNat_le.mpr high)
    rw [ofByte_getValuePolynomial (by omega), total, pow_add]

noncomputable def dataAt (input : Nat → UInt8) (index : Nat) : ByteField :=
  if index < 34 then ofByte (input index) else 0

theorem window_eq {place : Nat} (small : place < 11) :
    ofByte (roundsFrom input mult rounds place) =
      windowAt multiplier 10 divisor (dataAt input) rounds place := by
  induction rounds generalizing place with
  | zero =>
    rw [roundsFrom_zero input mult small, windowAt, dataAt, if_pos (by omega)]
  | succ rounds ih =>
    rw [roundsFrom_succ, divisionRound_apply input _ rounds small, windowAt]
    by_cases inside : place < 10
    · rw [if_pos inside, if_pos inside, ofByte_xor, ih (by omega),
        ofByte_addPowers (getIndexPolynomial_lt _) (generatorPolynomial_lt _),
        alpha_pow_getIndexPolynomial, ih (by omega), CharTwo.sub_eq_add]
      rfl
    · rw [if_neg inside, if_neg inside, dataAt]
      by_cases data : rounds < 23
      · rw [if_pos data, if_pos (by omega), show rounds + 1 + 10 = rounds + 11 by omega]
      · rw [if_neg data, if_neg (by omega), ofByte_zero]

theorem leadAt_eq :
    leadAt multiplier 10 divisor (dataAt input) rounds =
      ofByte (roundsFrom input mult rounds 0) :=
  (window_eq input mult rounds (by omega)).symm

/-- Bytes as a polynomial, the last one the leading coefficient. -/
noncomputable def ascending : List UInt8 → ByteField[X]
  | [] => 0
  | byte :: bytes => X * ascending bytes + C (ofByte byte)

/-- The product with the linear polynomial of a power, plus a carry. -/
def timesRoot (power : Nat) : UInt8 → List UInt8 → List UInt8
  | carry, [] => [carry]
  | carry, byte :: bytes => (carry ^^^ double^[power] byte) :: timesRoot power byte bytes

theorem ascending_timesRoot (power : Nat) (carry : UInt8) (bytes : List UInt8) :
    ascending (timesRoot power carry bytes) =
      (X - C (alpha ^ power)) * ascending bytes + C (ofByte carry) := by
  induction bytes generalizing carry with
  | nil => simp only [timesRoot, ascending, mul_zero]
  | cons byte bytes ih =>
    rw [timesRoot, ascending, ih, ascending, ofByte_xor, ofByte_double_iterate,
      map_add, map_mul]
    have signs : (-C (alpha ^ power) : ByteField[X]) = C (alpha ^ power) := by
      rw [← map_neg, CharTwo.neg_eq]
    linear_combination -C (ofByte byte) * signs

theorem descending_ofByte (count : Nat) (bytes : Nat → UInt8) :
    (descending count fun index => ofByte (bytes index)) =
      ascending ((List.range count).reverse.map bytes) := by
  induction count with
  | zero => rfl
  | succ count ih =>
    rw [descending_succ, ih, range_succ, reverse_append]
    rfl

noncomputable def generator : ByteField[X] :=
  ∏ power ∈ Finset.range 10, (X - C (alpha ^ power))

theorem generator_eq : generator = descending 11 divisor := by
  have product : ∀ count, ∏ power ∈ Finset.range count, (X - C (alpha ^ power)) =
      ascending ((List.range count).foldl (fun bytes power => timesRoot power 0 bytes) [1]) := by
    intro count
    induction count with
    | zero => simp only [Finset.range_zero, Finset.prod_empty, range_zero, foldl_nil,
        ascending, mul_zero, zero_add, ofByte_one, map_one]
    | succ count ih =>
      rw [Finset.prod_range_succ, ih, range_succ, foldl_append,
        foldl_cons, foldl_nil, ascending_timesRoot, ofByte_zero, map_zero, add_zero,
        mul_comm]
  have values : descending 11 divisor = descending 11 fun place =>
    ofByte (getValuePolynomial (generatorPolynomial.getD place 0).toUInt16) := by
    refine descending_congr fun place _ => ?_
    have small := generatorPolynomial_lt place
    rw [ofByte_getValuePolynomial (by rw [UInt8.toNat_toUInt16]; exact small),
      UInt8.toNat_toUInt16]
    rfl
  rw [generator, product, values, descending_ofByte]
  refine congrArg ascending ?_
  decide +kernel

end Thingsee.QrSimple
