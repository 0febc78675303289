import Mathlib.Logic.Function.Basic
import Mathlib.Data.UInt

/-!
Owns `qr_simple_calculate_polynomial`: the error correction bytes of a version 2-L symbol by a
window of 11 bytes and two tables of 256 entries. Both tables have 255 initializers, so that
their last entries are zero; the index table needs one more.
-/

namespace Thingsee.QrSimple

/-- `g_index_polynom`, as far as it is initialized. -/
def indexPolynom : List UInt8 :=
  [0, 0, 1, 25, 2, 50, 26, 198, 3, 223, 51, 238, 27, 104, 199, 75, 4, 100, 224, 14, 52, 141, 239,
    129, 28, 193, 105, 248, 200, 8, 76, 113, 5, 138, 101, 47, 225, 36, 15, 33, 53, 147, 142, 218,
    240, 18, 130, 69, 29, 181, 194, 125, 106, 39, 249, 185, 201, 154, 9, 120, 77, 228, 114, 166,
    6, 191, 139, 98, 102, 221, 48, 253, 226, 152, 37, 179, 16, 145, 34, 136, 54, 208, 148, 206,
    143, 150, 219, 189, 241, 210, 19, 92, 131, 56, 70, 64, 30, 66, 182, 163, 195, 72, 126, 110,
    107, 58, 40, 84, 250, 133, 186, 61, 202, 94, 155, 159, 10, 21, 121, 43, 78, 212, 229, 172,
    115, 243, 167, 87, 7, 112, 192, 247, 140, 128, 99, 13, 103, 74, 222, 237, 49, 197, 254, 24,
    227, 165, 153, 119, 38, 184, 180, 124, 17, 68, 146, 217, 35, 32, 137, 46, 55, 63, 209, 91,
    149, 188, 207, 205, 144, 135, 151, 178, 220, 252, 190, 97, 242, 86, 211, 171, 20, 42, 93, 158,
    132, 60, 57, 83, 71, 109, 65, 162, 31, 45, 67, 216, 183, 123, 164, 118, 196, 23, 73, 236, 127,
    12, 111, 246, 108, 161, 59, 82, 41, 157, 85, 170, 251, 96, 134, 177, 187, 204, 62, 90, 203,
    89, 95, 176, 156, 169, 160, 81, 11, 245, 22, 235, 122, 117, 44, 215, 79, 174, 213, 233, 230,
    231, 173, 232, 116, 214, 244, 234, 168, 80, 88]

/-- `g_value_polynom`, as far as it is initialized. -/
def valuePolynom : List UInt8 :=
  [1, 2, 4, 8, 16, 32, 64, 128, 29, 58, 116, 232, 205, 135, 19, 38, 76, 152, 45, 90, 180, 117,
    234, 201, 143, 3, 6, 12, 24, 48, 96, 192, 157, 39, 78, 156, 37, 74, 148, 53, 106, 212, 181,
    119, 238, 193, 159, 35, 70, 140, 5, 10, 20, 40, 80, 160, 93, 186, 105, 210, 185, 111, 222,
    161, 95, 190, 97, 194, 153, 47, 94, 188, 101, 202, 137, 15, 30, 60, 120, 240, 253, 231, 211,
    187, 107, 214, 177, 127, 254, 225, 223, 163, 91, 182, 113, 226, 217, 175, 67, 134, 17, 34, 68,
    136, 13, 26, 52, 104, 208, 189, 103, 206, 129, 31, 62, 124, 248, 237, 199, 147, 59, 118, 236,
    197, 151, 51, 102, 204, 133, 23, 46, 92, 184, 109, 218, 169, 79, 158, 33, 66, 132, 21, 42, 84,
    168, 77, 154, 41, 82, 164, 85, 170, 73, 146, 57, 114, 228, 213, 183, 115, 230, 209, 191, 99,
    198, 145, 63, 126, 252, 229, 215, 179, 123, 246, 241, 255, 227, 219, 171, 75, 150, 49, 98,
    196, 149, 55, 110, 220, 165, 87, 174, 65, 130, 25, 50, 100, 200, 141, 7, 14, 28, 56, 112, 224,
    221, 167, 83, 166, 81, 162, 89, 178, 121, 242, 249, 239, 195, 155, 43, 86, 172, 69, 138, 9,
    18, 36, 72, 144, 61, 122, 244, 245, 247, 243, 251, 235, 203, 139, 11, 22, 44, 88, 176, 125,
    250, 233, 207, 131, 27, 54, 108, 216, 173, 71, 142]

def getIndexPolynomial (value : UInt8) : UInt8 := indexPolynom.getD value.toNat 0

def getValuePolynomial (power : UInt16) : UInt8 := valuePolynom.getD power.toNat 0

/-- `g_generator_polynomial`: the powers of the coefficients. -/
def generatorPolynomial : List UInt8 := [0, 251, 67, 46, 61, 118, 70, 64, 94, 32, 45]

/-- `g_mult_polynomial`, by index. -/
abbrev MultPolynomial := Nat → UInt8

def eccMove2left (input : Nat → UInt8) (index : Nat) (mult : MultPolynomial) : MultPolynomial :=
  let mult := (List.range 10).foldl (fun mult i => Function.update mult i (mult (i + 1))) mult
  let i := index + 11
  if index < 23 then Function.update mult 10 (input i) else Function.update mult 10 0

/-- The inner loop: the generator polynomial times the power of the leading value. -/
def addGenerator (fetchedPower : UInt8) (mult : MultPolynomial) : MultPolynomial :=
  (List.range 11).foldl (fun mult j =>
    let calculatedPower := fetchedPower.toUInt16 + (generatorPolynomial.getD j 0).toUInt16
    let calculatedPower :=
      if calculatedPower ≥ 0xFF then calculatedPower - 0xFF else calculatedPower
    let fetchedValue := getValuePolynomial calculatedPower
    let calculatedValue := mult j ^^^ fetchedValue
    Function.update mult j calculatedValue) mult

def divisionRound (input : Nat → UInt8) (mult : MultPolynomial) (i : Nat) : MultPolynomial :=
  let fetchedPower := getIndexPolynomial (mult 0)
  eccMove2left input i (addGenerator fetchedPower mult)

/-- The static array is overwritten before it is read. -/
def calculatePolynomial (input : Nat → UInt8) (mult : MultPolynomial) : MultPolynomial :=
  let mult := (List.range 11).foldl (fun mult i => Function.update mult i (input i)) mult
  (List.range 34).foldl (divisionRound input) mult

/-- `qr_simple_get_ecc`: the callers copy 10 bytes of it. -/
def getEcc (mult : MultPolynomial) : Nat → UInt8 := mult

theorem foldl_update {change : Nat → MultPolynomial → UInt8}
    (later : ∀ (place : Nat) (before after : MultPolynomial),
      (∀ other ≥ place, before other = after other) → change place before = change place after)
    (count : Nat) (mult : MultPolynomial) :
    (List.range count).foldl (fun mult i => Function.update mult i (change i mult)) mult =
      fun place => if place < count then change place mult else mult place := by
  induction count with
  | zero => rfl
  | succ count ih =>
    rw [List.range_succ, List.foldl_append, ih, List.foldl_cons, List.foldl_nil]
    funext place
    rcases Nat.lt_trichotomy place count with below | here | above
    · rw [Function.update_of_ne (by omega), if_pos below, if_pos (by omega)]
    · subst here
      rw [Function.update_self, if_pos (by omega)]
      refine later place _ _ fun other beyond => ?_
      rw [if_neg (by omega)]
    · rw [Function.update_of_ne (by omega), if_neg (by omega), if_neg (by omega)]

variable (input : Nat → UInt8) (mult : MultPolynomial) {place : Nat}

theorem eccMove2left_apply (index : Nat) (mult : MultPolynomial) (place : Nat) :
    eccMove2left input index mult place =
      if place = 10 then (if index < 23 then input (index + 11) else 0)
      else if place < 10 then mult (place + 1) else mult place := by
  unfold eccMove2left
  rw [foldl_update fun place before after same => same (place + 1) (by omega)]
  split_ifs with data last inside last inside
  · rw [last, Function.update_self]
  · rw [Function.update_of_ne last, if_pos inside]
  · rw [Function.update_of_ne last, if_neg inside]
  · rw [last, Function.update_self]
  · rw [Function.update_of_ne last, if_pos inside]
  · rw [Function.update_of_ne last, if_neg inside]

def addPowers (left right : UInt8) : UInt16 :=
  if left.toUInt16 + right.toUInt16 ≥ 0xFF then left.toUInt16 + right.toUInt16 - 0xFF
  else left.toUInt16 + right.toUInt16

theorem addGenerator_apply (fetchedPower : UInt8) (mult : MultPolynomial) (small : place < 11) :
    addGenerator fetchedPower mult place =
      mult place ^^^
        getValuePolynomial (addPowers fetchedPower (generatorPolynomial.getD place 0)) := by
  have loop := foldl_update (fun place before after same =>
    congrArg (· ^^^ getValuePolynomial (addPowers fetchedPower (generatorPolynomial.getD place 0)))
      (same place (Nat.le_refl place))) 11 mult
  exact (congrFun loop place).trans (if_pos small)

theorem divisionRound_apply (i : Nat) (small : place < 11) :
    divisionRound input mult i place =
      if place < 10 then
        mult (place + 1) ^^^ getValuePolynomial
          (addPowers (getIndexPolynomial (mult 0)) (generatorPolynomial.getD (place + 1) 0))
      else if i < 23 then input (i + 11) else 0 := by
  unfold divisionRound
  rw [eccMove2left_apply]
  by_cases inside : place < 10
  · rw [if_neg (by omega), if_pos inside, if_pos inside, addGenerator_apply _ mult (by omega)]
  · rw [if_pos (by omega), if_neg inside]

def roundsFrom (input : Nat → UInt8) (mult : MultPolynomial) (rounds : Nat) : MultPolynomial :=
  (List.range rounds).foldl (divisionRound input)
    ((List.range 11).foldl (fun mult i => Function.update mult i (input i)) mult)

theorem calculatePolynomial_eq : calculatePolynomial input mult = roundsFrom input mult 34 := by
  rfl

theorem roundsFrom_zero (small : place < 11) : roundsFrom input mult 0 place = input place := by
  have loop := foldl_update (fun place (before after : MultPolynomial) _ =>
    (rfl : input place = input place)) 11 mult
  exact (congrFun loop place).trans (if_pos small)

theorem roundsFrom_succ (rounds : Nat) :
    roundsFrom input mult (rounds + 1) =
      divisionRound input (roundsFrom input mult rounds) rounds := by
  exact (congrArg (List.foldl _ _) List.range_succ).trans
    ((List.foldl_append).trans rfl)

end Thingsee.QrSimple
