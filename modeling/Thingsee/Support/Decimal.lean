import Thingsee.Support.LittleEndian
import Mathlib.Tactic.IntervalCases

/-!
Owns decimal numbers as text: `strtol` and the unsigned conversion it is built
on, in base ten and on a 32 bit `long`, and `decimal`, the text a number is
printed as. `strtol_decimal` is the round trip.
-/

namespace Thingsee.Support

variable {char : Char} (number : Nat)

def isDigit (char : UInt8) : Bool := decide (48 ≤ char ∧ char ≤ 57)

/-- `strtoul` in base ten, before the wrap of its accumulator. -/
def strtoul (accum : Nat) : List UInt8 → Nat
  | [] => accum
  | char :: rest =>
    if isDigit char then strtoul (accum * 10 + (char.toNat - 48)) rest else accum

/-- `strtol` in base ten on a 32 bit `long`, of a text without leading spaces. -/
def strtol : List UInt8 → Int
  | 45 :: rest => toSigned 32 (-(strtoul 0 rest : Int))
  | 43 :: rest => toSigned 32 (strtoul 0 rest)
  | text => toSigned 32 (strtoul 0 text)

def digits (number : Nat) : List UInt8 :=
  (Nat.toDigits 10 number).map (fun char => UInt8.ofNat char.toNat)

def decimal (number : Int) : List UInt8 :=
  if number < 0 then 45 :: digits number.natAbs else digits number.natAbs

theorem digit_toNat (digit : char.isDigit = true) : 48 ≤ char.toNat ∧ char.toNat ≤ 57 := by
  have bounds : 48 ≤ char.val ∧ char.val ≤ 57 := by
    simpa [Char.isDigit] using digit
  exact ⟨by simpa using UInt32.le_iff_toNat_le.mp bounds.1,
    by simpa using UInt32.le_iff_toNat_le.mp bounds.2⟩

theorem byte_toNat (digit : char.isDigit = true) : (UInt8.ofNat char.toNat).toNat = char.toNat := by
  have bounds := digit_toNat digit
  rw [UInt8.toNat_ofNat']
  exact Nat.mod_eq_of_lt (by omega)

theorem isDigit_byte (digit : char.isDigit = true) : isDigit (UInt8.ofNat char.toNat) = true := by
  have bounds := digit_toNat digit
  simp only [isDigit, decide_eq_true_eq, UInt8.le_iff_toNat_le, byte_toNat digit]
  exact ⟨bounds.1, bounds.2⟩

theorem isDigit_of_mem_digits {char : UInt8} (member : char ∈ digits number) :
    isDigit char = true := by
  obtain ⟨original, inDigits, rfl⟩ := List.mem_map.mp member
  exact isDigit_byte (Nat.isDigit_of_mem_toDigits (by decide) (by decide) inDigits)

theorem digits_ne_nil : digits number ≠ [] := by
  simp [digits]

theorem strtoul_map {chars : List Char} (allDigits : ∀ char ∈ chars, char.isDigit = true)
    (accum : Nat) :
    strtoul accum (chars.map (fun char => UInt8.ofNat char.toNat)) =
      Nat.ofDigitChars 10 chars accum := by
  induction chars generalizing accum with
  | nil => simp [strtoul]
  | cons char rest ih =>
    have digit := allDigits char (by simp)
    have value : accum * 10 + ((UInt8.ofNat char.toNat).toNat - 48) =
        10 * accum + (char.toNat - '0'.toNat) := by
      rw [byte_toNat digit, Nat.mul_comm]
      rfl
    rw [List.map_cons, strtoul, if_pos (isDigit_byte digit), Nat.ofDigitChars_cons, value]
    exact ih (fun later member => allDigits later (by simp [member])) _

theorem strtoul_digits : strtoul 0 (digits number) = number := by
  unfold digits
  rw [strtoul_map, Nat.ofDigitChars_toDigits (by decide) (by decide)]
  intro char member
  exact Nat.isDigit_of_mem_toDigits (by decide) (by decide) member

theorem strtol_decimal {number : Int} (fits : toSigned 32 number = number) :
    strtol (decimal number) = number := by
  by_cases negative : number < 0
  · have magnitude : -(number.natAbs : Int) = number := by omega
    have signed (text : List UInt8) : strtol (45 :: text) = toSigned 32 (-(strtoul 0 text : Int)) :=
      rfl
    rw [decimal, if_pos negative, signed, strtoul_digits, magnitude, fits]
  · have magnitude : (number.natAbs : Int) = number := by omega
    rw [decimal, if_neg negative]
    cases text : digits number.natAbs with
    | nil => exact absurd text (digits_ne_nil _)
    | cons first rest =>
      have digit : isDigit first = true :=
        isDigit_of_mem_digits (number.natAbs) (by rw [text]; simp)
      have unsigned : strtol (first :: rest) = toSigned 32 (strtoul 0 (first :: rest)) := by
        unfold strtol
        split
        · next heads => rw [(List.cons.inj heads).1] at digit; exact absurd digit (by decide)
        · next heads => rw [(List.cons.inj heads).1] at digit; exact absurd digit (by decide)
        · rfl
      rw [unsigned, ← text, strtoul_digits, magnitude, fits]

theorem digits_length (size : Nat) (positive : 0 < size) (small : number < 10 ^ size) :
    (digits number).length ≤ size := by
  rw [digits, List.length_map]
  exact (Nat.length_toDigits_le_iff (by decide) positive).mpr small

theorem decimal_length {number : Int} (lower : -2 ^ 31 ≤ number) (upper : number < 2 ^ 31) :
    (decimal number).length ≤ 11 := by
  have short := digits_length number.natAbs 10 (by decide) (by omega)
  unfold decimal
  split
  · rw [List.length_cons]
    omega
  · omega

end Thingsee.Support
