import Thingsee.Support.Syndromes

/-!
Owns why the coefficients that the division drops never cancel: no polynomial of degree below 34
with the coefficients 0, 1 and 254 alone has the first ten powers of the root as its zeros. The
coefficients at five places decide those at eight others, each by two parities of the ten values,
and one of the eight would have to be 255.
-/

namespace Thingsee.QrSimple

open Support Finset

/-- What can be dropped of a leading coefficient: 1 of 0, 254 of 255, and nothing of the others. -/
def residues : List UInt8 := [0, 1, 254]

def informationPlaces : List Nat := [0, 6, 9, 25, 28]

/-- A decided place with two masks of the ten values. A row has two bits for each place: whether
1 and whether 254 at this place changes the parity under the mask. -/
structure Certificate where
  target : Nat
  oneMask : Nat
  oneRow : Nat
  otherMask : Nat
  otherRow : Nat

def certificates : List Certificate :=
  [⟨31, 0x9600b174b00043e52902, 0x410c000000083002, 0x2500ba16a8004b774803, 0x80000000000c0000⟩,
   ⟨3, 0xe6004c72180067c19702, 0x300000000041043, 0x200bf315a00a400ff03, 0xc000000000080⟩,
   ⟨4, 0xb003a177d009a311a01, 0x30c000000041103, 0x66005813d40085abec00, 0x3040000000c2201⟩,
   ⟨2, 0x6f001f8f5b00c1b63703, 0x204000000001013, 0x4200ce44e2008d0b1901, 0x104000000040020⟩,
   ⟨27, 0xe005c25a800793d8202, 0x1440000000c0003, 0x4000c6b51700d369a700, 0x18c000000042003⟩,
   ⟨32, 0x5b00c9e563000928c001, 0x1030c000000080002, 0xa60033209000fb097e02,
    0x20008000000080001⟩,
   ⟨10, 0xab008414f5006741b600, 0x204000000182002, 0x4b00ccbb6100c6945901, 0x20c000000202001⟩,
   ⟨24, 0xc900db130f00a9020103, 0x209000000041001, 0x97009199e600972c1d03, 0x20a000000002002⟩]

def rowBit (row place : Nat) (residue : UInt8) : Bool :=
  (residue == 1 && row.testBit (2 * place)) || (residue == 254 && row.testBit (2 * place + 1))

def maskRows : List (Nat × Nat) :=
  certificates.flatMap fun certificate =>
    [(certificate.oneMask, certificate.oneRow), (certificate.otherMask, certificate.otherRow)]

theorem parity_columns : ∀ residue ∈ residues, ∀ entry ∈ (columns 10 34 residue).zipIdx,
    ∀ pair ∈ maskRows,
      parity (pair.1 &&& joined entry.1) = rowBit pair.2 entry.2 residue := by
  decide +kernel

theorem weight_column {residue : UInt8} (possible : residue ∈ residues) {place : Nat}
    (small : place < 34) {pair : Nat × Nat} (member : pair ∈ maskRows) :
    weight pair.1 (column 10 place residue) = ofBit (rowBit pair.2 place residue) := by
  have entry : (column 10 place residue, place) ∈ (columns 10 34 residue).zipIdx := by
    rw [List.mk_mem_zipIdx_iff_getElem?, columns_eq, List.getElem?_map,
      List.getElem?_range small, Option.map_some]
  exact congrArg ofBit (parity_columns residue possible _ entry pair member)

/-- Polynomials of degree below 34 that have the first ten powers as zeros. -/
def Vanishes (dropped : Nat → UInt8) : Prop :=
  ∀ power < 10, ∑ place ∈ Finset.range 34, ofByte (dropped place) * alpha ^ (power * place) = 0

section Parities

variable {dropped : Nat → UInt8} (possible : ∀ place < 34, dropped place ∈ residues)
  (vanishes : Vanishes dropped)

include possible vanishes

theorem sum_rowBit_eq_zero {pair : Nat × Nat} (member : pair ∈ maskRows) :
    ∑ place ∈ Finset.range 34, (ofBit (rowBit pair.2 place (dropped place)) : ZMod 2) = 0 := by
  have zero : ∀ power ∈ List.range 10,
      ∑ place ∈ Finset.range 34, ofByte (double^[power * place] (dropped place)) = 0 := by
    intro power low
    rw [← vanishes power (List.mem_range.mp low)]
    refine sum_congr rfl fun place _ => ?_
    rw [ofByte_double_iterate, mul_comm]
  rw [← sum_weight_eq_zero zero pair.1]
  refine sum_congr rfl fun place bound => ?_
  have small := mem_range.mp bound
  exact (weight_column (possible place small) small member).symm

end Parities

variable {dropped : Nat → UInt8}

def known (row : Nat) (values : List UInt8) : Bool :=
  (List.zipWith (rowBit row) informationPlaces values).foldr xor false

theorem rowBit_of_notMem : ∀ certificate ∈ certificates, ∀ residue ∈ residues, ∀ place < 34,
    place ∉ informationPlaces →
      rowBit certificate.oneRow place residue = (place == certificate.target && residue == 1) ∧
        rowBit certificate.otherRow place residue =
          (place == certificate.target && residue == 254) := by
  decide +kernel

theorem target_lt : ∀ certificate ∈ certificates,
    certificate.target < 34 ∧ certificate.target ∉ informationPlaces := by
  decide

theorem conflicts : (residues.all fun first => first == 0 || residues.all fun second =>
  residues.all fun third => residues.all fun fourth => residues.all fun fifth =>
    certificates.any fun certificate =>
      known certificate.oneRow [first, second, third, fourth, fifth] &&
        known certificate.otherRow [first, second, third, fourth, fifth]) = true := by
  decide +kernel

theorem exists_conflict : ∀ first ∈ residues, first ≠ 0 → ∀ second ∈ residues,
    ∀ third ∈ residues, ∀ fourth ∈ residues, ∀ fifth ∈ residues,
      ∃ certificate ∈ certificates,
        known certificate.oneRow [first, second, third, fourth, fifth] = true ∧
          known certificate.otherRow [first, second, third, fourth, fifth] = true := by
  have every := conflicts
  simp only [List.all_eq_true, List.any_eq_true, Bool.or_eq_true, Bool.and_eq_true,
    beq_iff_eq] at every
  intro first member nonzero
  exact (every first member).resolve_left nonzero

theorem sum_rowBit {row target : Nat} {residue : UInt8}
    (outside : ∀ place < 34, place ∉ informationPlaces →
      rowBit row place (dropped place) = (place == target && dropped place == residue))
    (inRange : target < 34) (beside : target ∉ informationPlaces) :
    ∑ place ∈ Finset.range 34, (ofBit (rowBit row place (dropped place)) : ZMod 2) =
      ofBit (known row (informationPlaces.map dropped) ^^ (dropped target == residue)) := by
  have inside : (Finset.range 34).filter (· ∈ informationPlaces) = informationPlaces.toFinset := by
    decide
  have others : ∑ place ∈ (Finset.range 34).filter (· ∉ informationPlaces),
      (ofBit (rowBit row place (dropped place)) : ZMod 2) = ofBit (dropped target == residue) := by
    rw [sum_eq_single target]
    · rw [outside target inRange beside, beq_self_eq_true, Bool.true_and]
    · intro place member different
      obtain ⟨low, notIn⟩ := mem_filter.mp member
      rw [outside place (mem_range.mp low) notIn, beq_eq_false_iff_ne.mpr different]
      rfl
    · intro absent
      exact absurd (mem_filter.mpr ⟨mem_range.mpr inRange, beside⟩) absent
  have informed : ∑ place ∈ informationPlaces.toFinset,
      (ofBit (rowBit row place (dropped place)) : ZMod 2) =
        ofBit (known row (informationPlaces.map dropped)) := by
    rw [List.sum_toFinset _ (by decide)]
    simp only [known, informationPlaces, List.map_cons, List.map_nil, List.zipWith_cons_cons,
      List.zipWith_nil_right, List.sum_cons, List.sum_nil, List.foldr_cons, List.foldr_nil,
      ofBit_xor]
    rfl
  rw [← sum_filter_add_sum_filter_not _ (· ∈ informationPlaces), inside, informed, others,
    ofBit_xor]

theorem dropped_zero (possible : ∀ place < 34, dropped place ∈ residues)
    (vanishes : Vanishes dropped) : dropped 0 = 0 := by
  by_contra nonzero
  obtain ⟨certificate, member, one, other⟩ := exists_conflict (dropped 0)
    (possible 0 (by decide)) nonzero (dropped 6) (possible 6 (by decide)) (dropped 9)
    (possible 9 (by decide)) (dropped 25) (possible 25 (by decide)) (dropped 28)
    (possible 28 (by decide))
  obtain ⟨inRange, beside⟩ := target_lt certificate member
  have rows := fun place small => rowBit_of_notMem certificate member _ (possible place small)
    place small
  have oneIn : (certificate.oneMask, certificate.oneRow) ∈ maskRows :=
    List.mem_flatMap.mpr ⟨certificate, member, by simp⟩
  have otherIn : (certificate.otherMask, certificate.otherRow) ∈ maskRows :=
    List.mem_flatMap.mpr ⟨certificate, member, by simp⟩
  have bit : ∀ bit : Bool, (ofBit (true ^^ bit) : ZMod 2) = 0 → bit = true := by
    decide
  have isOne := sum_rowBit_eq_zero possible vanishes oneIn
  rw [sum_rowBit (fun place small notIn => (rows place small notIn).1) inRange beside] at isOne
  have isOther := sum_rowBit_eq_zero possible vanishes otherIn
  rw [sum_rowBit (fun place small notIn => (rows place small notIn).2) inRange beside] at isOther
  have one' : known certificate.oneRow (informationPlaces.map dropped) = true := one
  have other' : known certificate.otherRow (informationPlaces.map dropped) = true := other
  rw [one'] at isOne
  rw [other'] at isOther
  have both := (beq_iff_eq.mp (bit _ isOne)).symm.trans (beq_iff_eq.mp (bit _ isOther))
  exact absurd both (by decide)

def shifted (first : Nat) (dropped : Nat → UInt8) (place : Nat) : UInt8 :=
  if first + place < 34 then dropped (first + place) else 0

theorem vanishes_shifted (vanishes : Vanishes dropped) {first : Nat} (inRange : first < 34)
    (zeros : ∀ place < first, dropped place = 0) : Vanishes (shifted first dropped) := by
  intro power low
  have unit : IsUnit (alpha ^ (power * first)) := isUnit_alpha.pow _
  rw [← unit.mul_right_inj, mul_zero, mul_sum]
  have split : ∑ place ∈ Finset.range 34, ofByte (dropped place) * alpha ^ (power * place) =
      ∑ place ∈ Finset.range (34 - first),
        ofByte (dropped (first + place)) * alpha ^ (power * (first + place)) := by
    rw [← Nat.add_sub_of_le (Nat.le_of_lt inRange), sum_range_add,
      sum_eq_zero, zero_add, Nat.add_sub_of_le (Nat.le_of_lt inRange)]
    intro place member
    rw [zeros place (mem_range.mp member), ofByte_zero, zero_mul]
  rw [← vanishes power low, split]
  symm
  apply sum_subset_zero_on_sdiff (range_subset_range.mpr (Nat.sub_le 34 first))
  · intro place member
    rw [mem_sdiff, mem_range, mem_range] at member
    rw [shifted, if_neg (by omega), ofByte_zero, zero_mul, mul_zero]
  · intro place member
    rw [mem_range] at member
    rw [shifted, if_pos (by omega), Nat.mul_add, pow_add]
    ring

theorem dropped_eq_zero (possible : ∀ place < 34, dropped place ∈ residues)
    (vanishes : Vanishes dropped) : ∀ place < 34, dropped place = 0 := by
  have before : ∀ first ≤ 34, ∀ place < first, dropped place = 0 := by
    intro first
    induction first with
    | zero => exact fun _ place below => absurd below (Nat.not_lt_zero place)
    | succ first ih =>
      intro bound place below
      have zeros := ih (Nat.le_of_lt bound)
      rcases Nat.lt_succ_iff_lt_or_eq.mp below with earlier | rfl
      · exact zeros place earlier
      · have inRange : place < 34 := bound
        have stillPossible : ∀ other < 34, shifted place dropped other ∈ residues := by
          intro other _
          unfold shifted
          split_ifs with inside
          · exact possible _ inside
          · decide
        have lowest := dropped_zero stillPossible (vanishes_shifted vanishes inRange zeros)
        rw [shifted, Nat.add_zero, if_pos inRange] at lowest
        exact lowest
  exact before 34 (Nat.le_refl 34)

end Thingsee.QrSimple
