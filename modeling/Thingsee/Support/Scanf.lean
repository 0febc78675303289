import Thingsee.Support.Decimal
import Mathlib.Data.List.Basic

/-!
Owns text that is printed into buffers and scanned from them: what `snprintf` stores,
`strtok_r` with one delimiter, and `vsscanf` with string, integer and literal parts.

`vsscanf` finds the end of a string by the delimiter behind it in the format. It does
not know how long the destination is; a string that is longer is an overrun here, and
the scan has no result.
-/

namespace Thingsee.Support

open List

variable {number : Int} {delimiter : UInt8} {rest : List UInt8}

/-- What `snprintf` stores of a text in a buffer of `size` characters. -/
def snprintf (size : Nat) (text : List UInt8) : List UInt8 :=
  text.take (size - 1)

variable {text token : List UInt8}

theorem snprintf_of_fits {size : Nat} (fits : text.length < size) : snprintf size text = text :=
  take_of_length_le (by omega)

theorem snprintf_length (size : Nat) (text : List UInt8) :
    (snprintf size text).length = min (size - 1) text.length :=
  length_take

/-- The tokens that repeated calls of `strtok_r` return. -/
def strtok (delimiter : UInt8) (text : List UInt8) : List (List UInt8) :=
  (text.splitOn delimiter).filter (fun token => decide (token ≠ []))

/-- Tokens that are not empty and do not contain the delimiter. -/
def Tokens (delimiter : UInt8) (tokens : List (List UInt8)) : Prop :=
  ∀ token ∈ tokens, token ≠ [] ∧ delimiter ∉ token

theorem strtok_intercalate {tokens : List (List UInt8)} (nonempty : tokens ≠ [])
    (separate : Tokens delimiter tokens) :
    strtok delimiter ([delimiter].intercalate tokens) = tokens := by
  unfold strtok
  rw [splitOn_intercalate delimiter (fun token isIn => (separate token isIn).2) nonempty,
    filter_eq_self]
  intro token isIn
  simpa using (separate token isIn).1

theorem strtok_append_flatMap {first : List UInt8} {rest : List (List UInt8)}
    (separate : Tokens delimiter (first :: rest)) :
    strtok delimiter (first ++ rest.flatMap (fun token => delimiter :: token)) =
      first :: rest := by
  have same : first ++ rest.flatMap (fun token => delimiter :: token) =
      [delimiter].intercalate (first :: rest) := by
    induction rest generalizing first with
    | nil => simp [List.intercalate]
    | cons second others ih =>
      have inner : second ++ others.flatMap (fun token => delimiter :: token) =
          [delimiter].intercalate (second :: others) :=
        ih fun token isIn => separate token (mem_cons_of_mem _ isIn)
      rw [flatMap_cons, cons_append, inner]
      simp [List.intercalate]
  rw [same]
  exact strtok_intercalate (by simp) separate

/-- The characters that `isspace` accepts. -/
def isSpace (char : UInt8) : Bool :=
  decide (char = 32) || (decide (9 ≤ char) && decide (char ≤ 13))

/-- A part of a scan format: `%s` into a buffer of some size, `%d`, or a character. -/
inductive Directive where
  | string (capacity : Nat)
  | int
  | char (char : UInt8)

inductive Field where
  | text (text : List UInt8)
  | number (number : Int)

/-- `findwidth`, with the rest of the format. -/
def findWidth (next : List Directive) (text : List UInt8) : Nat :=
  match next with
  | .char delimiter :: _ =>
    if delimiter ∈ text then text.idxOf delimiter
    else (text.takeWhile (fun char => !isSpace char)).length
  | _ => (text.takeWhile (fun char => !isSpace char)).length

/-- How many characters `strtol` uses. -/
def numberLength : List UInt8 → Nat
  | 45 :: rest => 1 + (rest.takeWhile isDigit).length
  | 43 :: rest => 1 + (rest.takeWhile isDigit).length
  | text => (text.takeWhile isDigit).length

/-- `vsscanf`: the assigned fields, or `none` after a string that does not fit its
buffer. -/
def vsscanf : List Directive → List UInt8 → Option (List Field)
  | [], _ => some []
  | .string capacity :: rest, text =>
    if text = [] then vsscanf rest []
    else
      let text := text.dropWhile isSpace
      let width := min 127 (findWidth rest text)
      if capacity ≤ width then none
      else (vsscanf rest (text.drop width)).map (.text (text.take width) :: ·)
  | .int :: rest, text =>
    if text = [] then vsscanf rest []
    else
      let text := text.dropWhile isSpace
      let digits := text.take (min 127 (findWidth rest text))
      if numberLength digits = 0 then some []
      else (vsscanf rest (text.drop (numberLength digits))).map (.number (strtol digits) :: ·)
  | .char expected :: rest, text =>
    match text.dropWhile isSpace with
    | [] => some []
    | char :: later => if expected = char then vsscanf rest later else some []

theorem dropWhile_isSpace {first : UInt8} (starts : text = first :: rest)
    (notSpace : isSpace first = false) : text.dropWhile isSpace = text := by
  rw [starts, dropWhile_cons_of_neg (by simp [notSpace])]

theorem idxOf_append (absent : delimiter ∉ token) (rest : List UInt8) :
    (token ++ delimiter :: rest).idxOf delimiter = token.length := by
  rw [idxOf_append_of_notMem absent, idxOf_cons_self, Nat.add_zero]

theorem vsscanf_string {capacity : Nat} {format : List Directive} {first : UInt8}
    {others : List UInt8} (rest : List UInt8) (starts : token = first :: others)
    (notSpace : isSpace first = false) (visible : isSpace delimiter = false)
    (absent : delimiter ∉ token) (short : token.length ≤ 127) :
    vsscanf (.string capacity :: .char delimiter :: format) (token ++ delimiter :: rest) =
      if capacity ≤ token.length then none
      else (vsscanf format rest).map (.text token :: ·) := by
  have whole : token ++ delimiter :: rest = first :: (others ++ delimiter :: rest) := by
    rw [starts]
    rfl
  have width : min 127 (findWidth (.char delimiter :: format) (token ++ delimiter :: rest)) =
      token.length := by
    unfold findWidth
    dsimp only
    rw [if_pos (by simp), idxOf_append absent]
    omega
  have later : vsscanf (.char delimiter :: format) (delimiter :: rest) = vsscanf format rest := by
    conv_lhs => unfold vsscanf
    rw [dropWhile_isSpace rfl visible]
    dsimp only
    rw [if_pos rfl]
  conv_lhs => unfold vsscanf
  rw [if_neg (by simp)]
  dsimp only
  rw [dropWhile_isSpace whole notSpace, width, drop_left, take_left, later]

theorem mem_decimal {char : UInt8} (isIn : char ∈ decimal number) :
    isDigit char = true ∨ char = 45 := by
  unfold decimal at isIn
  split at isIn
  · rcases mem_cons.mp isIn with same | isLater
    · exact Or.inr same
    · exact Or.inl (isDigit_of_mem_digits _ isLater)
  · exact Or.inl (isDigit_of_mem_digits _ isIn)

theorem decimal_char {char : UInt8} (isIn : char ∈ decimal number) :
    isSpace char = false ∧ 45 ≤ char ∧ char ≤ 57 := by
  have range : 45 ≤ char ∧ char ≤ 57 := by
    rcases mem_decimal isIn with digit | same
    · have bounds : 48 ≤ char ∧ char ≤ 57 := by simpa [isDigit] using digit
      exact ⟨UInt8.le_trans (by decide) bounds.1, bounds.2⟩
    · rw [same]
      decide
  refine ⟨?_, range⟩
  have low : (45 : Nat) ≤ char.toNat := UInt8.le_iff_toNat_le.mp range.1
  have notBlank : char ≠ 32 := by
    rintro rfl
    exact absurd low (by decide)
  have notControl : ¬ char ≤ 13 := by
    intro small
    have small : char.toNat ≤ 13 := UInt8.le_iff_toNat_le.mp small
    omega
  simp [isSpace, notBlank, notControl]

theorem decimal_ne_nil (number : Int) : decimal number ≠ [] := by
  unfold decimal
  split
  · simp
  · exact digits_ne_nil _

theorem numberLength_decimal (number : Int) :
    numberLength (decimal number) = (decimal number).length := by
  have whole : (digits number.natAbs).takeWhile isDigit = digits number.natAbs := by
    have all : (digits number.natAbs ++ []).takeWhile isDigit =
        digits number.natAbs ++ ([] : List UInt8).takeWhile isDigit :=
      takeWhile_append_of_pos fun char isIn => isDigit_of_mem_digits _ isIn
    simpa using all
  unfold decimal
  split
  · rw [numberLength, whole, length_cons, Nat.add_comm]
  · cases text : digits number.natAbs with
    | nil => exact absurd text (digits_ne_nil _)
    | cons first rest =>
      have digit : isDigit first = true :=
        isDigit_of_mem_digits number.natAbs (by rw [text]; simp)
      rw [text] at whole
      unfold numberLength
      split
      · next heads => rw [(List.cons.inj heads).1] at digit; exact absurd digit (by decide)
      · next heads => rw [(List.cons.inj heads).1] at digit; exact absurd digit (by decide)
      · rw [whole]

section

variable (fits : toSigned 32 number = number) (short : (decimal number).length ≤ 127)
include fits short

theorem vsscanf_decimal {format : List Directive}
    (width : findWidth format (decimal number ++ rest) = (decimal number).length) :
    vsscanf (.int :: format) (decimal number ++ rest) =
      (vsscanf format rest).map (.number number :: ·) := by
  obtain ⟨first, others, starts⟩ := exists_cons_of_ne_nil (decimal_ne_nil number)
  have notSpace : isSpace first = false := (@decimal_char number _ (by simp [starts])).1
  have whole : decimal number ++ rest = first :: (others ++ rest) := by
    rw [starts]
    rfl
  have least : min 127 (decimal number).length = (decimal number).length := by omega
  have some : (decimal number).length ≠ 0 := by simp [starts]
  conv_lhs => unfold vsscanf
  rw [if_neg (by simp [starts])]
  dsimp only
  rw [dropWhile_isSpace whole notSpace, width, least, take_left, numberLength_decimal,
    if_neg some, drop_left, strtol_decimal fits]

theorem vsscanf_int (visible : isSpace delimiter = false)
    (outside : ¬ (45 ≤ delimiter ∧ delimiter ≤ 57)) (format : List Directive) (rest : List UInt8) :
    vsscanf (.int :: .char delimiter :: format) (decimal number ++ delimiter :: rest) =
      (vsscanf format rest).map (.number number :: ·) := by
  have absent : delimiter ∉ decimal number := fun isIn => outside (decimal_char isIn).2
  have later : vsscanf (.char delimiter :: format) (delimiter :: rest) = vsscanf format rest := by
    conv_lhs => unfold vsscanf
    rw [dropWhile_isSpace rfl visible]
    dsimp only
    rw [if_pos rfl]
  rw [vsscanf_decimal fits short, later]
  unfold findWidth
  dsimp only
  rw [if_pos (by simp), idxOf_append absent]

theorem vsscanf_last (ends : rest = [] ∨ ∃ char others, rest = char :: others ∧
    isSpace char = true) :
    vsscanf [.int] (decimal number ++ rest) = some [.number number] := by
  have width : findWidth [] (decimal number ++ rest) = (decimal number).length := by
    have visible : ∀ char ∈ decimal number, (!isSpace char) = true := by
      intro char isIn
      simp [(decimal_char isIn).1]
    unfold findWidth
    rw [takeWhile_append_of_pos visible]
    rcases ends with none | ⟨char, others, some, space⟩
    · simp [none]
    · rw [some, takeWhile_cons_of_neg (by simp [space]), append_nil]
  rw [vsscanf_decimal fits short width]
  rfl

end

end Thingsee.Support
