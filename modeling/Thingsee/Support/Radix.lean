import Thingsee.Support.Scanf

/-!
Owns numbers that are read in any base, with the white space and the signs that
`strtol` skips, and hexadecimal numbers of a fixed number of lower case digits.
-/

namespace Thingsee.Support

open List

/-- `strtol` on a 32 bit `long`, over the conversion of the unsigned part. -/
def signedOf (unsigned : List UInt8 → Nat) (text : List UInt8) : Int :=
  match text.dropWhile isSpace with
  | 45 :: rest => toSigned 32 (-(unsigned (rest.dropWhile isSpace) : Int))
  | 43 :: rest => toSigned 32 (unsigned (rest.dropWhile isSpace))
  | rest => toSigned 32 (unsigned rest)

/-- `lib_isbasedigit` in base sixteen. -/
def hexDigitValue (char : UInt8) : Option Nat :=
  if 48 ≤ char ∧ char ≤ 57 then some (char.toNat - 48)
  else if 97 ≤ char ∧ char ≤ 102 then some (char.toNat - 87)
  else if 65 ≤ char ∧ char ≤ 70 then some (char.toNat - 55)
  else none

/-- The digits that `strtoul` accumulates in base sixteen, before the wrap. -/
def accumulateHex (accum : Nat) : List UInt8 → Nat
  | [] => accum
  | char :: rest =>
    match hexDigitValue char with
    | some value => accumulateHex (accum * 16 + value) rest
    | none => accum

/-- `strtoul` in base sixteen: a leading `0x` is discarded. -/
def strtoulHex : List UInt8 → Nat
  | 48 :: 120 :: rest => accumulateHex 0 rest
  | 48 :: 88 :: rest => accumulateHex 0 rest
  | text => accumulateHex 0 text

def lowerHex (digit : Nat) : UInt8 := UInt8.ofNat (if digit < 10 then 48 + digit else 87 + digit)

/-- The low hexadecimal digits of a number, the most significant first. -/
def hexDigits : Nat → Nat → List UInt8
  | 0, _ => []
  | count + 1, number => hexDigits count (number / 16) ++ [lowerHex (number % 16)]

theorem lowerHex_properties : ∀ digit : Fin 16,
    hexDigitValue (lowerHex digit) = some digit.val ∧
      (48 ≤ lowerHex digit ∧ lowerHex digit ≤ 57 ∨
        97 ≤ lowerHex digit ∧ lowerHex digit ≤ 102) := by
  decide

theorem hexDigitValue_lowerHex {digit : Nat} (small : digit < 16) :
    hexDigitValue (lowerHex digit) = some digit :=
  (lowerHex_properties ⟨digit, small⟩).1

variable {count : Nat} {text : List UInt8} {number : Nat} {char : UInt8}

theorem mem_hexDigits (isIn : char ∈ hexDigits count number) :
    48 ≤ char ∧ char ≤ 57 ∨ 97 ≤ char ∧ char ≤ 102 := by
  induction count generalizing number with
  | zero => exact absurd isIn (not_mem_nil)
  | succ count ih =>
    rcases mem_append.mp isIn with before | last
    · exact ih before
    · rw [mem_singleton.mp last]
      exact (lowerHex_properties ⟨number % 16, Nat.mod_lt _ (by decide)⟩).2

@[simp] theorem hexDigits_length (count number : Nat) :
    (hexDigits count number).length = count := by
  induction count generalizing number with
  | zero => rfl
  | succ count ih =>
    rw [hexDigits, length_append, ih, length_singleton]

theorem hexDigitValue_isSome (isIn : char ∈ hexDigits count number) :
    (hexDigitValue char).isSome = true := by
  unfold hexDigitValue
  rcases mem_hexDigits isIn with decimal | letter
  · rw [if_pos decimal]
    rfl
  · split
    · rfl
    · rfl

theorem accumulateHex_append (digits : ∀ char ∈ text, (hexDigitValue char).isSome = true)
    (accum : Nat) (rest : List UInt8) :
    accumulateHex accum (text ++ rest) = accumulateHex (accumulateHex accum text) rest := by
  induction text generalizing accum with
  | nil => rfl
  | cons char others ih =>
    obtain ⟨value, isValue⟩ := Option.isSome_iff_exists.mp (digits char mem_cons_self)
    rw [cons_append, accumulateHex, accumulateHex, isValue]
    exact ih (fun later isIn => digits later (mem_cons_of_mem _ isIn)) _

theorem accumulateHex_hexDigits (count number accum : Nat) :
    accumulateHex accum (hexDigits count number) = accum * 16 ^ count + number % 16 ^ count := by
  induction count generalizing number with
  | zero => simp [hexDigits, accumulateHex, Nat.mod_one]
  | succ count ih =>
    have split : number % 16 ^ (count + 1) = number % 16 + 16 * (number / 16 % 16 ^ count) := by
      rw [Nat.pow_succ', Nat.mod_mul]
    rw [hexDigits, accumulateHex_append (fun char => hexDigitValue_isSome), ih,
      accumulateHex,
      hexDigitValue_lowerHex (Nat.mod_lt _ (by decide))]
    dsimp only
    rw [accumulateHex, split, Nat.pow_succ]
    ring

theorem strtoulHex_hexDigits (count number : Nat) :
    strtoulHex (48 :: 120 :: hexDigits count number) = number % 16 ^ count := by
  rw [strtoulHex, accumulateHex_hexDigits, Nat.zero_mul, Nat.zero_add]

theorem signedOf_unsigned {unsigned : List UInt8 → Nat} {first : UInt8} {rest : List UInt8}
    (notSpace : isSpace first = false) (notMinus : first ≠ 45) (notPlus : first ≠ 43) :
    signedOf unsigned (first :: rest) = toSigned 32 (unsigned (first :: rest)) := by
  unfold signedOf
  rw [dropWhile_isSpace rfl notSpace]
  split
  · next heads => exact absurd (List.cons.inj heads).1 notMinus
  · next heads => exact absurd (List.cons.inj heads).1 notPlus
  · rfl

theorem dropWhile_of_visible (visible : ∀ char ∈ text, isSpace char = false) :
    text.dropWhile isSpace = text := by
  cases text with
  | nil => rfl
  | cons first rest => exact dropWhile_isSpace rfl (visible first mem_cons_self)

theorem strtol_cases (text : List UInt8) :
    (∃ rest, text = 45 :: rest ∧ strtol text = toSigned 32 (-(strtoul 0 rest : Int))) ∨
    (∃ rest, text = 43 :: rest ∧ strtol text = toSigned 32 (strtoul 0 rest)) ∨
    (∀ rest, text ≠ 45 :: rest) ∧ (∀ rest, text ≠ 43 :: rest) ∧
      strtol text = toSigned 32 (strtoul 0 text) := by
  unfold strtol
  split
  · next rest => exact Or.inl ⟨rest, rfl, rfl⟩
  · next rest => exact Or.inr (Or.inl ⟨rest, rfl, rfl⟩)
  · next notMinus notPlus => exact Or.inr (Or.inr ⟨notMinus, notPlus, rfl⟩)

theorem signedOf_eq_strtol (visible : ∀ char ∈ text, isSpace char = false) :
    signedOf (strtoul 0) text = strtol text := by
  have inner (first : UInt8) (rest : List UInt8) (heads : text = first :: rest) :
      rest.dropWhile isSpace = rest := by
    rw [heads] at visible
    exact dropWhile_of_visible (fun char isIn => visible char (mem_cons_of_mem _ isIn))
  have apart : (43 : UInt8) ≠ 45 := by decide
  unfold signedOf
  rw [dropWhile_of_visible visible]
  rcases strtol_cases text with ⟨rest, heads, read⟩ | ⟨rest, heads, read⟩ |
    ⟨notMinus, notPlus, read⟩
  · rw [read]
    split
    · rw [inner _ _ rfl, (List.cons.inj heads).2]
    · exact absurd (List.cons.inj heads).1 apart
    · next notMinus _ => exact absurd heads (notMinus _)
  · rw [read]
    split
    · exact absurd (List.cons.inj heads).1.symm apart
    · rw [inner _ _ rfl, (List.cons.inj heads).2]
    · next _ notPlus => exact absurd heads (notPlus _)
  · rw [read]
    split
    · exact absurd rfl (notMinus _)
    · exact absurd rfl (notPlus _)
    · rfl

theorem signedOf_decimal {number : Int} (fits : toSigned 32 number = number) :
    signedOf (strtoul 0) (decimal number) = number := by
  rw [signedOf_eq_strtol (fun char isIn => (decimal_char isIn).1), strtol_decimal fits]

end Thingsee.Support
