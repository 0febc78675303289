import Mathlib.RingTheory.AdjoinRoot
import Mathlib.Algebra.CharP.Algebra
import Mathlib.Algebra.CharP.Two
import Mathlib.Algebra.Field.ZMod

/-!
Owns the binary polynomials modulo `x^8 + x^4 + x^3 + x^2 + 1`, and bytes as their residues: the
exclusive or of bytes is their sum, and doubling with reduction is multiplication by the root.
Bytes and residues correspond one to one, and the 255th power of the root is one.
-/

namespace Thingsee.Support

open Polynomial

noncomputable def byteModulus : (ZMod 2)[X] := X ^ 8 + (X ^ 4 + X ^ 3 + X ^ 2 + 1)

abbrev ByteField : Type := AdjoinRoot byteModulus

noncomputable def alpha : ByteField := AdjoinRoot.root byteModulus

def ofBit {R : Type} [Zero R] [One R] (bit : Bool) : R := if bit then 1 else 0

noncomputable def bytePolynomial (byte : UInt8) : (ZMod 2)[X] :=
  ∑ index ∈ Finset.range 8, C (ofBit (byte.toNat.testBit index)) * X ^ index

noncomputable def ofByte (byte : UInt8) : ByteField :=
  AdjoinRoot.mk byteModulus (bytePolynomial byte)

def double (byte : UInt8) : UInt8 := (byte <<< 1) ^^^ (if byte < 128 then 0 else 0x1d)

theorem monic_byteModulus : byteModulus.Monic := by
  apply monic_X_pow_add
  compute_degree!

theorem natDegree_byteModulus : byteModulus.natDegree = 8 := by
  unfold byteModulus
  compute_degree!

instance : CharP ByteField 2 := by
  have degree : byteModulus.degree ≠ 0 := by
    rw [degree_eq_natDegree monic_byteModulus.ne_zero, natDegree_byteModulus]
    decide
  exact charP_of_injective_ringHom (AdjoinRoot.of.injective_of_degree_ne_zero degree) 2

theorem alpha_pow_eight : alpha ^ 8 = alpha ^ 4 + alpha ^ 3 + alpha ^ 2 + 1 := by
  have root : AdjoinRoot.mk byteModulus (X ^ 8 + (X ^ 4 + X ^ 3 + X ^ 2 + 1)) = 0 :=
    AdjoinRoot.mk_self
  simp only [map_add, map_pow, map_one, AdjoinRoot.mk_X] at root
  exact CharTwo.add_eq_zero.mp root

theorem ofBit_xor {R : Type} [Semiring R] [CharP R 2] (left right : Bool) :
    (ofBit (left ^^ right) : R) = ofBit left + ofBit right := by
  cases left <;> cases right <;> simp [ofBit, CharTwo.add_self_eq_zero]

variable (byte : UInt8)

theorem ofByte_eq_sum :
    ofByte byte =
      ∑ index ∈ Finset.range 8, ofBit (byte.toNat.testBit index) * alpha ^ index := by
  unfold ofByte bytePolynomial
  rw [map_sum]
  refine Finset.sum_congr rfl fun index _ => ?_
  rw [map_mul, map_pow, AdjoinRoot.mk_X]
  cases byte.toNat.testBit index <;> simp [ofBit, alpha]

theorem ofByte_xor (left right : UInt8) :
    ofByte (left ^^^ right) = ofByte left + ofByte right := by
  rw [ofByte_eq_sum, ofByte_eq_sum, ofByte_eq_sum, ← Finset.sum_add_distrib]
  refine Finset.sum_congr rfl fun index _ => ?_
  rw [UInt8.toNat_xor, Nat.testBit_xor, ofBit_xor, add_mul]

theorem ofByte_zero : ofByte 0 = 0 := by
  rw [ofByte_eq_sum]
  exact Finset.sum_eq_zero fun index _ => by simp [ofBit]

theorem ofByte_one : ofByte 1 = 1 := by
  rw [ofByte_eq_sum]
  simp [Finset.sum_range_succ, ofBit, Nat.testBit]

theorem testBit_double :
    (double byte).toNat.testBit 0 = byte.toNat.testBit 7 ∧
      (double byte).toNat.testBit 1 = byte.toNat.testBit 0 ∧
      (double byte).toNat.testBit 2 = (byte.toNat.testBit 1 ^^ byte.toNat.testBit 7) ∧
      (double byte).toNat.testBit 3 = (byte.toNat.testBit 2 ^^ byte.toNat.testBit 7) ∧
      (double byte).toNat.testBit 4 = (byte.toNat.testBit 3 ^^ byte.toNat.testBit 7) ∧
      (double byte).toNat.testBit 5 = byte.toNat.testBit 4 ∧
      (double byte).toNat.testBit 6 = byte.toNat.testBit 5 ∧
      (double byte).toNat.testBit 7 = byte.toNat.testBit 6 := by
  have all : ∀ bits < 256,
      (double (UInt8.ofNat bits)).toNat.testBit 0 = bits.testBit 7 ∧
        (double (UInt8.ofNat bits)).toNat.testBit 1 = bits.testBit 0 ∧
        (double (UInt8.ofNat bits)).toNat.testBit 2 = (bits.testBit 1 ^^ bits.testBit 7) ∧
        (double (UInt8.ofNat bits)).toNat.testBit 3 = (bits.testBit 2 ^^ bits.testBit 7) ∧
        (double (UInt8.ofNat bits)).toNat.testBit 4 = (bits.testBit 3 ^^ bits.testBit 7) ∧
        (double (UInt8.ofNat bits)).toNat.testBit 5 = bits.testBit 4 ∧
        (double (UInt8.ofNat bits)).toNat.testBit 6 = bits.testBit 5 ∧
        (double (UInt8.ofNat bits)).toNat.testBit 7 = bits.testBit 6 := by
    decide +kernel
  have its := all byte.toNat byte.toNat_lt
  rw [UInt8.ofNat_toNat] at its
  exact its

theorem ofByte_double : ofByte (double byte) = alpha * ofByte byte := by
  obtain ⟨bit0, bit1, bit2, bit3, bit4, bit5, bit6, bit7⟩ := testBit_double byte
  rw [ofByte_eq_sum, ofByte_eq_sum]
  simp only [Finset.sum_range_succ, Finset.sum_range_zero, bit0, bit1, bit2, bit3, bit4, bit5,
    bit6, bit7, ofBit_xor]
  linear_combination -(ofBit (byte.toNat.testBit 7)) * alpha_pow_eight

theorem ofByte_double_iterate (count : Nat) (byte : UInt8) :
    ofByte (double^[count] byte) = alpha ^ count * ofByte byte := by
  induction count with
  | zero => simp
  | succ count inductionHypothesis =>
    rw [Function.iterate_succ_apply', ofByte_double, inductionHypothesis, pow_succ']
    ring

noncomputable def coordinate (index : Nat) : ByteField →ₗ[ZMod 2] ZMod 2 :=
  lcoeff (ZMod 2) index ∘ₗ AdjoinRoot.modByMonicHom monic_byteModulus

theorem coeff_bytePolynomial (index : Nat) :
    (bytePolynomial byte).coeff index =
      if index < 8 then ofBit (byte.toNat.testBit index) else 0 := by
  unfold bytePolynomial
  simp only [finsetSum_coeff, coeff_C_mul, coeff_X_pow, mul_ite, mul_one, mul_zero,
    Finset.sum_ite_eq, Finset.mem_range]

theorem coordinate_ofByte {index : Nat} (small : index < 8) (byte : UInt8) :
    coordinate index (ofByte byte) = ofBit (byte.toNat.testBit index) := by
  have reduced : (bytePolynomial byte).degree < byteModulus.degree := by
    rw [degree_eq_natDegree monic_byteModulus.ne_zero, natDegree_byteModulus]
    apply (degree_lt_iff_coeff_zero _ 8).mpr
    intro high beyond
    rw [coeff_bytePolynomial, if_neg (by omega)]
  unfold coordinate ofByte
  rw [LinearMap.comp_apply, AdjoinRoot.modByMonicHom_mk,
    (modByMonic_eq_self_iff monic_byteModulus).mpr reduced, lcoeff_apply, coeff_bytePolynomial,
    if_pos small]

theorem ofByte_injective : Function.Injective ofByte := by
  intro left right same
  apply UInt8.toNat_inj.mp
  apply Nat.eq_of_testBit_eq
  intro index
  by_cases small : index < 8
  · have bits := congrArg (coordinate index) same
    rw [coordinate_ofByte small, coordinate_ofByte small] at bits
    revert bits
    cases left.toNat.testBit index <;> cases right.toNat.testBit index <;> decide
  · have high : 2 ^ 8 ≤ 2 ^ index := Nat.pow_le_pow_right (by decide) (by omega)
    rw [Nat.testBit_lt_two_pow (left.toNat_lt.trans_le high),
      Nat.testBit_lt_two_pow (right.toNat_lt.trans_le high)]

theorem ofByte_surjective : Function.Surjective ofByte := by
  intro element
  induction element using AdjoinRoot.induction_on with
  | ih polynomial =>
    induction polynomial using Polynomial.induction_on' with
    | add left right leftIs rightIs =>
      obtain ⟨leftByte, leftSame⟩ := leftIs
      obtain ⟨rightByte, rightSame⟩ := rightIs
      exact ⟨leftByte ^^^ rightByte, by rw [ofByte_xor, leftSame, rightSame, map_add]⟩
    | monomial degree coefficient =>
      by_cases zero : coefficient = 0
      · exact ⟨0, by rw [ofByte_zero, zero, map_zero, map_zero]⟩
      · have one : coefficient = 1 := by
          revert coefficient
          decide
        refine ⟨double^[degree] 1, ?_⟩
        rw [ofByte_double_iterate, ofByte_one, mul_one, one, ← X_pow_eq_monomial, map_pow,
          AdjoinRoot.mk_X]
        rfl

theorem alpha_pow_order : alpha ^ 255 = 1 := by
  have cycle : double^[255] 1 = 1 := by
    decide +kernel
  have power := ofByte_double_iterate 255 1
  rw [cycle, ofByte_one, mul_one] at power
  exact power.symm

theorem isUnit_alpha : IsUnit alpha :=
  IsUnit.of_pow_eq_one alpha_pow_order (by decide)

end Thingsee.Support
