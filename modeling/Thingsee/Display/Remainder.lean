import Thingsee.Display.FieldDivision
import Thingsee.Display.DroppedCoefficients

/-!
Owns when the error correction bytes are the remainder by the generator polynomial. A leading
coefficient 0 is divided as if it were 1, and so is 255, because the index table has an entry too
few. What is dropped then never cancels, so that the bytes are right just when no coefficient of
the quotient is 0 or 255.
-/

namespace Thingsee.QrSimple

open Polynomial Support

variable (input : Nat → UInt8) (mult : MultPolynomial) (round : Nat)

noncomputable def dataPolynomial (input : Nat → UInt8) : ByteField[X] :=
  descending 34 fun index => ofByte (input index)

noncomputable def eccPolynomial (ecc : Nat → UInt8) : ByteField[X] :=
  descending 10 fun index => ofByte (ecc index)

noncomputable def codeword (input ecc : Nat → UInt8) : ByteField[X] :=
  dataPolynomial input * X ^ 10 + eccPolynomial ecc

/-- The error correction bytes are those of the Reed-Solomon code. -/
def IsRemainder (input ecc : Nat → UInt8) : Prop :=
  eccPolynomial ecc = (dataPolynomial input * X ^ 10) %ₘ generator

/-- The codeword has the zeros of the generator polynomial. -/
def HasZeros (input ecc : Nat → UInt8) : Prop :=
  ∀ power < 10, (codeword input ecc).eval (alpha ^ power) = 0

def residueOf (lead : UInt8) : UInt8 := lead ^^^ (if hasPower lead then lead else 1)

theorem residueOf_spec (lead : UInt8) :
    residueOf lead ∈ residues ∧ (residueOf lead = 0 ↔ hasPower lead = true) := by
  have all : ∀ byte : Fin 256, residueOf (UInt8.ofFin byte) ∈ residues ∧
      (residueOf (UInt8.ofFin byte) = 0 ↔ hasPower (UInt8.ofFin byte) = true) := by
    decide +kernel
  exact all lead.toFin

def droppedByte (input : Nat → UInt8) (mult : MultPolynomial) (round : Nat) : UInt8 :=
  residueOf (roundsFrom input mult round 0)

theorem ofByte_droppedByte :
    ofByte (droppedByte input mult round) =
      droppedAt multiplier 10 divisor (dataAt input) round := by
  rw [droppedAt, leadAt_eq input mult, multiplier_ofByte, CharTwo.sub_eq_add, droppedByte,
    residueOf, ofByte_xor]

theorem droppedByte_mem : droppedByte input mult round ∈ residues :=
  (residueOf_spec _).1

theorem droppedByte_eq_zero_iff :
    droppedByte input mult round = 0 ↔ hasPower (roundsFrom input mult round 0) = true :=
  (residueOf_spec _).2

theorem dataPolynomial_eq : dataPolynomial input = descending 34 (dataAt input) :=
  descending_congr fun _ small => by rw [dataAt, if_pos small]

theorem dataAt_zeros : ∀ index ≥ 34, dataAt input index = 0 :=
  fun _ beyond => if_neg (Nat.not_lt.mpr beyond)

theorem divisor_zero : divisor 0 = 1 := by
  exact pow_zero alpha

theorem eccPolynomial_eq :
    eccPolynomial (getEcc (calculatePolynomial input mult)) =
      descending 10 (windowAt multiplier 10 divisor (dataAt input) 34) := by
  unfold eccPolynomial getEcc
  refine descending_congr fun _ small => ?_
  rw [calculatePolynomial_eq, window_eq input mult 34 (by omega)]

theorem eval_generator {power : Nat} (low : power < 10) :
    generator.eval (alpha ^ power) = 0 := by
  unfold generator
  rw [eval_prod]
  refine Finset.prod_eq_zero (Finset.mem_range.mpr low) ?_
  rw [eval_sub, eval_X, eval_C, sub_self]

theorem eval_codeword {power : Nat} (low : power < 10) :
    (codeword input (getEcc (calculatePolynomial input mult))).eval (alpha ^ power) =
      (∑ place ∈ Finset.range 34,
        ofByte (droppedByte input mult (33 - place)) * alpha ^ (power * place)) *
          (alpha ^ power) ^ 10 := by
  have identity := division_identity multiplier 10 divisor (dataAt input) (dataAt_zeros input)
    divisor_zero
  unfold codeword
  rw [eccPolynomial_eq, dataPolynomial_eq, identity, ← generator_eq]
  have twice : ∀ value : ByteField, value + value = 0 := CharTwo.add_self_eq_zero
  rw [eval_add, eval_add, eval_add, eval_mul, eval_mul, eval_generator low, mul_zero, add_zero,
    add_comm (eval _ _) (eval _ _ * _), add_assoc, twice, add_zero, eval_pow, eval_X,
    eval_descending]
  congr 1
  refine Finset.sum_congr rfl fun place _ => ?_
  rw [ofByte_droppedByte, pow_mul]

theorem hasZeros_iff_hasPower :
    HasZeros input (getEcc (calculatePolynomial input mult)) ↔
      ∀ round < 34, hasPower (roundsFrom input mult round 0) = true := by
  have unit : ∀ power, IsUnit ((alpha ^ power) ^ 10) := fun power =>
    (isUnit_alpha.pow power).pow 10
  have vanish : HasZeros input (getEcc (calculatePolynomial input mult)) ↔
      Vanishes fun place => droppedByte input mult (33 - place) := by
    refine forall₂_congr fun power low => ?_
    rw [eval_codeword input mult low, (unit power).mul_left_eq_zero]
  rw [vanish]
  constructor
  · intro vanishes round small
    have zero := dropped_eq_zero (fun place _ => droppedByte_mem input mult (33 - place)) vanishes
      (33 - round) (by omega)
    rw [show 33 - (33 - round) = round by omega] at zero
    exact (droppedByte_eq_zero_iff input mult round).mp zero
  · intro powers power _
    refine Finset.sum_eq_zero fun place _ => ?_
    simp only
    rw [(droppedByte_eq_zero_iff input mult _).mpr (powers (33 - place) (by omega)), ofByte_zero,
      zero_mul]

theorem droppedAt_iff_hasPower :
    (∀ round < 34, droppedAt multiplier 10 divisor (dataAt input) round = 0) ↔
      ∀ round < 34, hasPower (roundsFrom input mult round 0) = true := by
  refine forall₂_congr fun round _ => ?_
  rw [← ofByte_droppedByte input mult, ← droppedByte_eq_zero_iff, ← ofByte_zero,
    ofByte_injective.eq_iff]

instance : Nontrivial ByteField := CharP.nontrivial_of_char_ne_one (by decide : 2 ≠ 1)

theorem isRemainder_iff_hasPower :
    IsRemainder input (getEcc (calculatePolynomial input mult)) ↔
      ∀ round < 34, hasPower (roundsFrom input mult round 0) = true := by
  constructor
  · intro isRemainder
    rw [← hasZeros_iff_hasPower]
    intro power low
    have divided := modByMonic_add_div (dataPolynomial input * X ^ 10) generator
    have twice : ∀ value : ByteField, value + value = 0 := CharTwo.add_self_eq_zero
    rw [← isRemainder] at divided
    unfold codeword
    rw [← divided, eval_add, eval_add, eval_mul, eval_generator low, zero_mul, add_zero, twice]
  · intro powers
    unfold IsRemainder
    rw [eccPolynomial_eq, dataPolynomial_eq, generator_eq]
    exact (quotient_and_remainder multiplier 10 divisor (dataAt input) (dataAt_zeros input)
      divisor_zero ((droppedAt_iff_hasPower input mult).mpr powers)).2.symm

/-- No coefficient of the quotient is 0 or 255. -/
def QuotientHasPowers (input : Nat → UInt8) : Prop :=
  ∀ index < 34,
    ((dataPolynomial input * X ^ 10) /ₘ generator).coeff index ≠ ofByte 0 ∧
      ((dataPolynomial input * X ^ 10) /ₘ generator).coeff index ≠ ofByte 255

theorem multiplier_eq_self_iff (lead : ByteField) :
    multiplier lead = lead ↔ lead ≠ ofByte 0 ∧ lead ≠ ofByte 255 := by
  obtain ⟨byte, rfl⟩ := ofByte_surjective lead
  rw [multiplier_ofByte, ofByte_injective.eq_iff, Ne, Ne, ofByte_injective.eq_iff,
    ofByte_injective.eq_iff]
  unfold hasPower
  grind

theorem quotientHasPowers_iff :
    QuotientHasPowers input ↔ ∀ round < 34, hasPower (roundsFrom input mult round 0) = true := by
  rw [← droppedAt_iff_hasPower, exact_iff_quotient_exact multiplier 10 divisor (dataAt input)
    (dataAt_zeros input) divisor_zero, ← dataPolynomial_eq, ← generator_eq]
  exact forall₂_congr fun index _ => (multiplier_eq_self_iff _).symm

/-- The error correction bytes are right just for these blocks, whatever the array has held. -/
theorem calculatePolynomial_right_iff (input : Nat → UInt8) (mult : MultPolynomial) :
    (IsRemainder input (getEcc (calculatePolynomial input mult)) ↔ QuotientHasPowers input) ∧
      (HasZeros input (getEcc (calculatePolynomial input mult)) ↔ QuotientHasPowers input) := by
  rw [isRemainder_iff_hasPower, hasZeros_iff_hasPower, quotientHasPowers_iff input mult]
  exact ⟨Iff.rfl, Iff.rfl⟩

section Congruence

variable {other : Nat → UInt8} (same : ∀ index < 34, input index = other index)
include same

theorem dataPolynomial_congr : dataPolynomial input = dataPolynomial other := by
  unfold dataPolynomial descending
  refine Finset.sum_congr rfl fun index small => ?_
  simp only [same index (Finset.mem_range.mp small)]

theorem isRemainder_congr {ecc otherEcc : Nat → UInt8} (parity : ∀ i < 10, ecc i = otherEcc i) :
    IsRemainder input ecc ↔ IsRemainder other otherEcc := by
  have equal : eccPolynomial ecc = eccPolynomial otherEcc := by
    unfold eccPolynomial descending
    refine Finset.sum_congr rfl fun index small => ?_
    simp only [parity index (Finset.mem_range.mp small)]
  rw [IsRemainder, IsRemainder, equal, dataPolynomial_congr input same]

theorem quotientHasPowers_congr : QuotientHasPowers input ↔ QuotientHasPowers other := by
  rw [QuotientHasPowers, QuotientHasPowers, dataPolynomial_congr input same]

end Congruence

/-- A text of the 8-bit mode in its block: the mode, the length, and fillers. -/
def block (bytes : List UInt8) (index : Nat) : UInt8 :=
  if index < bytes.length then bytes.getD index 0
  else if (index - bytes.length) % 2 = 0 then 0xEC else 0x11

/-- The bytes of the text `thingsee.com`. -/
def thingseeCom : List UInt8 :=
  [0x40, 0xC7, 0x46, 0x86, 0x96, 0xE6, 0x77, 0x36, 0x56, 0x52, 0xE6, 0x36, 0xF6, 0xD0]

/-- The thirteenth round of this text meets 255. -/
theorem thingseeCom_round :
    hasPower (roundsFrom (block thingseeCom) (fun _ => 0) 12 0) = false := by
  decide +kernel

theorem calculatePolynomial_thingseeCom :
    (List.range 10).map (getEcc (calculatePolynomial (block thingseeCom) fun _ => 0)) =
        [79, 76, 0, 11, 88, 79, 33, 146, 239, 57] ∧
      ¬ IsRemainder (block thingseeCom)
          (getEcc (calculatePolynomial (block thingseeCom) fun _ => 0)) ∧
      ¬ HasZeros (block thingseeCom)
          (getEcc (calculatePolynomial (block thingseeCom) fun _ => 0)) := by
  have missing := thingseeCom_round
  rw [isRemainder_iff_hasPower, hasZeros_iff_hasPower]
  refine ⟨by decide +kernel, fun powers => ?_, fun powers => ?_⟩
  all_goals exact Bool.false_ne_true (missing.symm.trans (powers 12 (by decide)))

/-- The text `thingsee` is encoded right. -/
example : HasZeros (block [0x40, 0x87, 0x46, 0x86, 0x96, 0xE6, 0x77, 0x36, 0x56, 0x50])
    (getEcc (calculatePolynomial
      (block [0x40, 0x87, 0x46, 0x86, 0x96, 0xE6, 0x77, 0x36, 0x56, 0x50]) fun _ => 0)) := by
  rw [hasZeros_iff_hasPower]
  decide +kernel

end Thingsee.QrSimple
