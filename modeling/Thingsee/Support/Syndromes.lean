import Thingsee.Support.ByteField

/-!
Owns how sums over the field of bytes are refuted by evaluation: the bytes of some sums are joined
to one number, and the parity of the bits under a mask is additive over the summands.
-/

namespace Thingsee.Support

open List

def joined : List UInt8 → Nat
  | [] => 0
  | byte :: bytes => byte.toNat ^^^ (joined bytes <<< 8)

variable (count : Nat) (places : List Nat) (mask : Nat) (left right : Nat → UInt8)

theorem joined_xor :
    joined (places.map fun place => left place ^^^ right place) =
      joined (places.map left) ^^^ joined (places.map right) := by
  induction places with
  | nil => exact (Nat.xor_self 0).symm
  | cons place places ih =>
    simp only [map_cons, joined]
    rw [ih, UInt8.toNat_xor, Nat.shiftLeft_xor_distrib]
    ac_rfl

theorem joined_zero : joined (places.map fun _ => 0) = 0 := by
  induction places with
  | nil => rfl
  | cons place places ih =>
    simp only [map_cons, joined]
    rw [ih]
    rfl

/-- One halving of the bits, each half added to the other. -/
def halve (bits width : Nat) : Nat := bits ^^^ (bits >>> width)

theorem halve_xor (left right width : Nat) :
    halve (left ^^^ right) width = halve left width ^^^ halve right width := by
  unfold halve
  rw [Nat.shiftRight_xor_distrib]
  ac_rfl

/-- The parity of the bits below `2 ^ 128`. -/
def parity (bits : Nat) : Bool :=
  ([64, 32, 16, 8, 4, 2, 1].foldl halve bits).testBit 0

theorem parity_xor (left right : Nat) :
    parity (left ^^^ right) = (parity left ^^ parity right) := by
  have halved : ∀ (widths : List Nat) (left right : Nat),
      widths.foldl halve (left ^^^ right) =
        widths.foldl halve left ^^^ widths.foldl halve right := by
    intro widths
    induction widths with
    | nil => intro left right; rfl
    | cons width widths ih =>
      intro left right
      rw [foldl_cons, halve_xor, ih]
      rfl
  unfold parity
  rw [halved, Nat.testBit_xor]

def weight (mask : Nat) (bytes : List UInt8) : ZMod 2 := ofBit (parity (mask &&& joined bytes))

theorem weight_xor :
    weight mask (places.map fun place => left place ^^^ right place) =
      weight mask (places.map left) + weight mask (places.map right) := by
  unfold weight
  rw [joined_xor, Nat.and_xor_distrib_left, parity_xor, ofBit_xor]

theorem weight_zero : weight mask (places.map fun _ => 0) = 0 := by
  unfold weight
  rw [joined_zero, Nat.and_zero]
  rfl

theorem sum_weight_eq_zero {places : List Nat} {bytes : Nat → Nat → UInt8} {count : Nat}
    (zero : ∀ place ∈ places, ∑ index ∈ Finset.range count, ofByte (bytes index place) = 0)
    (mask : Nat) :
    ∑ index ∈ Finset.range count, weight mask (places.map (bytes index)) = 0 := by
  -- The byte of each sum, together with the parity that it has.
  have total : ∃ total : Nat → UInt8,
      (∀ place, ofByte (total place) = ∑ index ∈ Finset.range count, ofByte (bytes index place)) ∧
        weight mask (places.map total) =
          ∑ index ∈ Finset.range count, weight mask (places.map (bytes index)) := by
    clear zero
    induction count with
    | zero => exact ⟨fun _ => 0, fun _ => ofByte_zero, weight_zero places mask⟩
    | succ count ih =>
      obtain ⟨total, sums, parities⟩ := ih
      refine ⟨fun place => total place ^^^ bytes count place, fun place => ?_, ?_⟩
      · rw [Finset.sum_range_succ, ofByte_xor, sums]
      · rw [Finset.sum_range_succ, weight_xor, parities]
  obtain ⟨total, sums, parities⟩ := total
  have zeros : places.map total = places.map fun _ => 0 :=
    map_congr_left fun place member => ofByte_injective <| by
      rw [sums, zero place member, ofByte_zero]
  rw [← parities, zeros, weight_zero]

/-- The bytes that a coefficient contributes to the values at the first powers of the root. -/
def column (count place : Nat) (byte : UInt8) : List UInt8 :=
  (List.range count).map fun power => double^[power * place] byte

def nextColumn (bytes : List UInt8) : List UInt8 :=
  bytes.mapIdx fun power byte => double^[power] byte

theorem nextColumn_column (place : Nat) (byte : UInt8) :
    nextColumn (column count place byte) = column count (place + 1) byte := by
  unfold nextColumn column
  refine ext_getElem (by simp) fun index _ _ => ?_
  rw [getElem_mapIdx, getElem_map, getElem_map, getElem_range,
    ← Function.iterate_add_apply, Nat.mul_succ, Nat.add_comm]

def columns (count places : Nat) (byte : UInt8) : List (List UInt8) :=
  List.iterate nextColumn (List.replicate count byte) places

theorem columns_eq (places : Nat) (byte : UInt8) :
    columns count places byte = (List.range places).map fun place => column count place byte := by
  have first : List.replicate count byte = column count 0 byte := by
    unfold column
    refine ext_getElem (by simp) fun index _ _ => ?_
    rw [getElem_replicate, getElem_map, Nat.mul_zero]
    rfl
  have iterates : ∀ place, nextColumn^[place] (column count 0 byte) = column count place byte := by
    intro place
    induction place with
    | zero => rfl
    | succ place ih =>
      rw [Function.iterate_succ_apply', ih, nextColumn_column]
  unfold columns
  refine ext_getElem (by simp) fun index _ _ => ?_
  rw [getElem_iterate, getElem_map, getElem_range, first, iterates]

end Thingsee.Support
