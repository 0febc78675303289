import Mathlib.Algebra.Polynomial.Div
import Mathlib.Algebra.Polynomial.BigOperators
import Mathlib.Tactic.LinearCombination

/-!
Owns polynomial long division as it is done with a window of coefficients: subtract a multiple of
the divisor, drop the leading coefficient, take up the next one. The multiple may come from a
multiplier that is wrong for some leading coefficients. `division_identity` accounts for what is
dropped then, `quotient_and_remainder` is the division when nothing is, and
`exact_iff_quotient_exact` says by the true quotient when that is the case.
-/

namespace Thingsee.Support

open Polynomial Finset

variable {R : Type} [CommRing R] (count : Nat) (coefficients : Nat → R)

/-- The window of `degree + 1` coefficients after some steps. -/
def windowAt (multiplier : R → R) (degree : Nat) (divisor data : Nat → R) : Nat → Nat → R
  | 0, place => data place
  | step + 1, place =>
    let window := windowAt multiplier degree divisor data step
    if place < degree then window (place + 1) - multiplier (window 0) * divisor (place + 1)
    else data (step + 1 + degree)

def leadAt (multiplier : R → R) (degree : Nat) (divisor data : Nat → R) (step : Nat) : R :=
  windowAt multiplier degree divisor data step 0

/-- Some coefficients as a polynomial, the first one the leading one. -/
noncomputable def descending (count : Nat) (coefficients : Nat → R) : R[X] :=
  ∑ index ∈ Finset.range count, C (coefficients index) * X ^ (count - 1 - index)

theorem coeff_descending {count : Nat} {index : Nat} (small : index < count) :
    (descending count coefficients).coeff index = coefficients (count - 1 - index) := by
  unfold descending
  simp only [finsetSum_coeff, coeff_C_mul, coeff_X_pow, mul_ite, mul_one, mul_zero]
  rw [sum_eq_single (count - 1 - index)]
  · rw [if_pos (by omega)]
  · intro other member different
    rw [mem_range] at member
    rw [if_neg (by omega)]
  · intro outside
    rw [mem_range] at outside
    omega

theorem eval_descending (point : R) :
    (descending count coefficients).eval point =
      ∑ index ∈ Finset.range count, coefficients (count - 1 - index) * point ^ index := by
  unfold descending
  rw [eval_finsetSum, ← sum_range_reflect]
  refine sum_congr rfl fun index member => ?_
  rw [mem_range] at member
  rw [eval_mul, eval_C, eval_pow, eval_X, show count - 1 - (count - 1 - index) = index by omega]

theorem degree_descending_lt : (descending count coefficients).degree < count := by
  apply (degree_lt_iff_coeff_zero _ count).mpr
  intro high beyond
  unfold descending
  simp only [finsetSum_coeff, coeff_C_mul, coeff_X_pow, mul_ite, mul_one, mul_zero]
  refine sum_eq_zero fun index member => ?_
  rw [mem_range] at member
  rw [if_neg (by omega)]

theorem descending_succ :
    descending (count + 1) coefficients =
      X * descending count coefficients + C (coefficients count) := by
  unfold descending
  rw [sum_range_succ, mul_sum]
  congr 1
  · refine sum_congr rfl fun index member => ?_
    rw [mem_range] at member
    rw [show count + 1 - 1 - index = count - 1 - index + 1 by omega, pow_succ]
    ring
  · rw [show count + 1 - 1 - count = 0 by omega, pow_zero, mul_one]

theorem descending_succ' :
    descending (count + 1) coefficients =
      C (coefficients 0) * X ^ count + descending count fun index => coefficients (index + 1) := by
  unfold descending
  rw [sum_range_succ', add_comm]
  congr 1
  refine sum_congr rfl fun index member => ?_
  rw [show count + 1 - 1 - (index + 1) = count - 1 - index by omega]

theorem descending_sub_mul (left right : Nat → R) (factor : R) :
    (descending count fun index => left index - factor * right index) =
      descending count left - C factor * descending count right := by
  unfold descending
  rw [mul_sum, ← sum_sub_distrib]
  refine sum_congr rfl fun index _ => ?_
  rw [map_sub, map_mul]
  ring

theorem descending_congr {count : Nat} {left right : Nat → R}
    (same : ∀ index < count, left index = right index) :
    descending count left = descending count right := by
  refine sum_congr rfl fun index member => ?_
  rw [same index (mem_range.mp member)]

theorem descending_add {count : Nat} {coefficients : Nat → R}
    (zeros : ∀ index ≥ count, coefficients index = 0) (more : Nat) :
    descending (count + more) coefficients = X ^ more * descending count coefficients := by
  induction more with
  | zero => rw [Nat.add_zero, pow_zero, one_mul]
  | succ more ih =>
    rw [← Nat.add_assoc, descending_succ, zeros _ (Nat.le_add_right count more), map_zero,
      add_zero, ih, pow_succ]
    ring

section Division

variable (multiplier : R → R) (degree : Nat) (divisor data : Nat → R)

def droppedAt (step : Nat) : R :=
  leadAt multiplier degree divisor data step -
    multiplier (leadAt multiplier degree divisor data step)

theorem window_succ (monic : divisor 0 = 1) (step : Nat) :
    descending (degree + 1) (windowAt multiplier degree divisor data (step + 1)) =
      X * (descending (degree + 1) (windowAt multiplier degree divisor data step) -
        C (multiplier (leadAt multiplier degree divisor data step)) *
          descending (degree + 1) divisor -
        C (droppedAt multiplier degree divisor data step) * X ^ degree) +
      C (data (step + 1 + degree)) := by
  have last : windowAt multiplier degree divisor data (step + 1) degree =
      data (step + 1 + degree) := by
    rw [windowAt, if_neg (Nat.lt_irrefl degree)]
  have others : descending degree (windowAt multiplier degree divisor data (step + 1)) =
      descending degree (fun place => windowAt multiplier degree divisor data step (place + 1)) -
        C (multiplier (leadAt multiplier degree divisor data step)) *
          descending degree fun place => divisor (place + 1) := by
    rw [← descending_sub_mul]
    refine descending_congr fun place small => ?_
    rw [windowAt, if_pos small]
    rfl
  rw [descending_succ, last, others, descending_succ' degree divisor, monic, map_one,
    descending_succ', droppedAt, map_sub]
  unfold leadAt
  ring

theorem descending_data (monic : divisor 0 = 1) (step : Nat) :
    descending (step + (degree + 1)) data =
      descending (degree + 1) (windowAt multiplier degree divisor data step) +
        X * (descending step
          (fun index => multiplier (leadAt multiplier degree divisor data index)) *
            descending (degree + 1) divisor +
          descending step (droppedAt multiplier degree divisor data) * X ^ degree) := by
  induction step with
  | zero =>
    rw [Nat.zero_add]
    unfold descending
    simp only [sum_range_zero, zero_mul, add_zero, mul_zero]
    rfl
  | succ step ih =>
    rw [show step + 1 + (degree + 1) = step + (degree + 1) + 1 by omega, descending_succ,
      ih, window_succ multiplier degree divisor data monic, descending_succ step,
      descending_succ step, show step + (degree + 1) = step + 1 + degree by omega]
    ring

variable {steps : Nat} (zeros : ∀ index ≥ steps, data index = 0)

include zeros

theorem division_identity (monic : divisor 0 = 1) :
    descending steps data * X ^ degree =
      descending degree (windowAt multiplier degree divisor data steps) +
        descending steps (fun index => multiplier (leadAt multiplier degree divisor data index)) *
          descending (degree + 1) divisor +
        descending steps (droppedAt multiplier degree divisor data) * X ^ degree := by
  have last : windowAt multiplier degree divisor data steps degree = 0 := by
    cases steps with
    | zero => exact zeros degree (Nat.zero_le degree)
    | succ step =>
      rw [windowAt, if_neg (Nat.lt_irrefl degree)]
      exact zeros _ (Nat.le_add_right _ _)
  have divided := descending_data multiplier degree divisor data monic steps
  rw [descending_add zeros, descending_succ degree, last, map_zero, add_zero] at divided
  apply (isRegular_X : IsRegular (X : R[X])).left
  calc X * (descending steps data * X ^ degree)
      = X ^ (degree + 1) * descending steps data := by ring
    _ = _ := divided
    _ = _ := by ring

omit zeros in
theorem monic_descending (monic : divisor 0 = 1) : (descending (degree + 1) divisor).Monic := by
  rw [descending_succ', monic, map_one, one_mul]
  exact monic_X_pow_add (degree_descending_lt degree _)

omit zeros in
theorem degree_descending [Nontrivial R] (monic : divisor 0 = 1) :
    (descending (degree + 1) divisor).degree = degree := by
  rw [descending_succ', monic, map_one, one_mul, add_comm]
  rw [degree_add_eq_right_of_degree_lt]
  · exact degree_X_pow degree
  · rw [degree_X_pow]
    exact degree_descending_lt degree _

theorem quotient_and_remainder [Nontrivial R] (monic : divisor 0 = 1)
    (exact : ∀ step < steps, droppedAt multiplier degree divisor data step = 0) :
    (descending steps data * X ^ degree) /ₘ descending (degree + 1) divisor =
        descending steps (leadAt multiplier degree divisor data) ∧
      (descending steps data * X ^ degree) %ₘ descending (degree + 1) divisor =
        descending degree (windowAt multiplier degree divisor data steps) := by
  have leads : descending steps
      (fun index => multiplier (leadAt multiplier degree divisor data index)) =
      descending steps (leadAt multiplier degree divisor data) :=
    descending_congr fun step small => (sub_eq_zero.mp (exact step small)).symm
  have nothing : descending steps (droppedAt multiplier degree divisor data) = 0 :=
    sum_eq_zero fun step member => by
      rw [exact step (mem_range.mp member), map_zero, zero_mul]
  have identity := division_identity multiplier degree divisor data zeros monic
  rw [leads, nothing, zero_mul, add_zero, mul_comm (descending steps _) (descending _ divisor)]
    at identity
  refine div_modByMonic_unique _ _ (monic_descending degree divisor monic) ⟨identity.symm, ?_⟩
  rw [degree_descending degree divisor monic]
  exact degree_descending_lt degree _

omit zeros in
theorem windowAt_eq {step : Nat}
    (right : ∀ earlier < step, multiplier (leadAt id degree divisor data earlier) =
      leadAt id degree divisor data earlier) :
    windowAt multiplier degree divisor data step = windowAt id degree divisor data step := by
  induction step with
  | zero => rfl
  | succ step ih =>
    have before := ih fun earlier small => right earlier (by omega)
    have now := right step (Nat.lt_succ_self step)
    unfold leadAt at now
    funext place
    rw [windowAt, windowAt, before, now]
    rfl

theorem exact_iff_quotient_exact [Nontrivial R] (monic : divisor 0 = 1) :
    (∀ step < steps, droppedAt multiplier degree divisor data step = 0) ↔
      ∀ index < steps, multiplier
          (((descending steps data * X ^ degree) /ₘ descending (degree + 1) divisor).coeff index) =
        ((descending steps data * X ^ degree) /ₘ descending (degree + 1) divisor).coeff index := by
  constructor
  · intro exact index small
    rw [(quotient_and_remainder multiplier degree divisor data zeros monic exact).1,
      coeff_descending _ small]
    exact (sub_eq_zero.mp (exact (steps - 1 - index) (by omega))).symm
  · intro right step small
    have division := (quotient_and_remainder id degree divisor data zeros monic
      fun step _ => sub_self _).1
    have leads : ∀ earlier < steps, multiplier (leadAt id degree divisor data earlier) =
        leadAt id degree divisor data earlier := by
      intro earlier bound
      have its := right (steps - 1 - earlier) (by omega)
      rw [division, coeff_descending _ (by omega), show steps - 1 - (steps - 1 - earlier) = earlier
        by omega] at its
      exact its
    have same := windowAt_eq multiplier degree divisor data
      fun earlier before => leads earlier (before.trans small)
    have lead : leadAt multiplier degree divisor data step = leadAt id degree divisor data step :=
      congrFun same 0
    rw [droppedAt, lead, leads step small, sub_self]

end Division

end Thingsee.Support
