import Thingsee.Json.Parse
import Thingsee.Support.Hex
import Mathlib.Data.List.TakeWhile

/-!
Owns the tokens of the JSON grammar of RFC 7159, strings and numbers, as data from which their
text is read off, and what the parser makes of each text.

A string has no escapes of surrogates and of code point zero. A number may have zeros put in front
of its integer part, which the grammar does not allow.
-/

namespace Thingsee.Json

open Support Support.Scanner List

/-! ## Strings -/

def isPlain (char : UInt8) : Bool := decide (32 ≤ char ∧ char ≠ 34 ∧ char ≠ 92)

/-- The characters that may stand behind a backslash, with what they stand for. -/
def escapes : List (UInt8 × UInt8) :=
  [(34, 34), (92, 92), (47, 47), (98, 8), (102, 12), (110, 10), (114, 13), (116, 9)]

def isHexDigit (char : UInt8) : Bool :=
  decide (48 ≤ char ∧ char ≤ 57) || decide (65 ≤ char ∧ char ≤ 70) ||
    decide (97 ≤ char ∧ char ≤ 102)

def hexDigitValue (char : UInt8) : Nat :=
  if char ≤ 57 then char.toNat - 48
  else if char ≤ 70 then char.toNat - 55
  else char.toNat - 87

def codePoint (digits : List UInt8) : Nat :=
  digits.foldl (fun number digit => number * 16 + hexDigitValue digit) 0

/-- The bytes of a code point below two to the power of 16. -/
def utf8 (code : Nat) : List UInt8 :=
  if code < 0x80 then [UInt8.ofNat code]
  else if code < 0x800 then [UInt8.ofNat (0xc0 + code / 64), UInt8.ofNat (0x80 + code % 64)]
  else
    [UInt8.ofNat (0xe0 + code / 4096), UInt8.ofNat (0x80 + code / 64 % 64),
      UInt8.ofNat (0x80 + code % 64)]

def isScalarCode (code : Nat) : Bool := decide (code ≠ 0 ∧ ¬ (0xd800 ≤ code ∧ code ≤ 0xdfff))

inductive StringChar where
  | plain (byte : UInt8) (allowed : isPlain byte = true)
  | escape (letter value : UInt8) (allowed : (letter, value) ∈ escapes)
  | unicode (digits : List UInt8) (four : digits.length = 4) (hex : digits.all isHexDigit = true)
      (allowed : isScalarCode (codePoint digits) = true)

namespace StringChar

def text : StringChar → List UInt8
  | .plain byte _ => [byte]
  | .escape letter _ _ => [92, letter]
  | .unicode digits _ _ _ => 92 :: 117 :: digits

def content : StringChar → List UInt8
  | .plain byte _ => [byte]
  | .escape _ value _ => [value]
  | .unicode digits _ _ _ => utf8 (codePoint digits)

end StringChar

def charsText (chars : List StringChar) : List UInt8 := chars.flatMap StringChar.text

def contents (chars : List StringChar) : List UInt8 := chars.flatMap StringChar.content

def stringText (chars : List StringChar) : List UInt8 := 34 :: charsText chars ++ [34]

theorem continuationByte_eq (code : Nat) :
    continuationByte code = UInt8.ofNat (0x80 + code % 64) := by
  have small : ∀ byte, byte < 256 → (byte ||| 0x80) &&& 0xbf = 0x80 + byte % 64 := by
    decide +kernel
  have low : (code ||| 0x80) &&& 0xbf = (code % 256 ||| 0x80) &&& 0xbf := by
    have masked (number : Nat) : number &&& 0xbf = number % 2 ^ 8 &&& 0xbf := by
      rw [← Nat.and_two_pow_sub_one_eq_mod, Nat.and_assoc]
      rfl
    rw [masked (code ||| 0x80), Nat.or_mod_two_pow]
  unfold continuationByte
  rw [low, small _ (Nat.mod_lt _ (by decide)), Nat.mod_mod_of_dvd _ (by decide)]

variable {code : Nat} {digit : UInt8}

/-- The bit operations of the source encode a code point in UTF-8. -/
theorem transcode_eq (small : code < 0x10000) : transcode code = utf8 code := by
  have two : ∀ high, high < 32 → high ||| 0xc0 = 0xc0 + high := by decide
  have three : ∀ high, high < 16 → high ||| 0xe0 = 0xe0 + high := by decide
  unfold transcode utf8
  split
  · rw [Nat.or_zero]
  · split
    · rw [continuationByte_eq, Nat.shiftRight_eq_div_pow, two _ (by omega)]
    · rw [continuationByte_eq, continuationByte_eq, Nat.shiftRight_eq_div_pow,
        Nat.shiftRight_eq_div_pow, three _ (by omega)]

theorem utf8_ne_zero (nonzero : code ≠ 0) (small : code < 0x10000) :
    ∀ byte ∈ utf8 code, byte ≠ 0 := by
  have ofNat_ne {number : Nat} (positive : number ≠ 0) (fits : number < 256) :
      UInt8.ofNat number ≠ 0 := by
    intro zero
    have value := congrArg UInt8.toNat zero
    rw [UInt8.toNat_ofNat', Nat.mod_eq_of_lt fits] at value
    exact positive value
  unfold utf8
  split
  · simp only [mem_singleton, forall_eq]
    exact ofNat_ne nonzero (by omega)
  · split
    · simp only [mem_cons, not_mem_nil, or_false, forall_eq_or_imp, forall_eq]
      exact ⟨ofNat_ne (by omega) (by omega), ofNat_ne (by omega) (by omega)⟩
    · simp only [mem_cons, not_mem_nil, or_false, forall_eq_or_imp, forall_eq]
      exact ⟨ofNat_ne (by omega) (by omega), ofNat_ne (by omega) (by omega),
        ofNat_ne (by omega) (by omega)⟩

theorem run_streamParseHex (hex : isHexDigit digit = true) (rest : List UInt8) :
    streamParseHex.run (digit :: rest) = .ok (some (hexDigitValue digit), rest) := by
  unfold streamParseHex hexDigitValue
  rw [run_peekChar_bind, headD_cons]
  by_cases decimal : 48 ≤ digit ∧ digit ≤ 57
  · rw [if_pos decimal, if_pos decimal.2]
    rfl
  · by_cases upper : 65 ≤ digit ∧ digit ≤ 70
    · have value : 0xA + digit.toNat - 65 = digit.toNat - 55 := by omega
      rw [if_neg decimal, if_pos upper, if_neg (by grind), if_pos upper.2, ← value]
      rfl
    · have lower : 97 ≤ digit ∧ digit ≤ 102 := by
        simpa [isHexDigit, decimal, upper] using hex
      have value : 0xa + digit.toNat - 97 = digit.toNat - 87 := by omega
      rw [if_neg decimal, if_neg upper, if_pos lower, if_neg (by grind), if_neg (by grind), ← value]
      rfl

variable {digits : List UInt8}

theorem run_parseHexDigits (hex : digits.all isHexDigit = true) (number : Nat) (rest : List UInt8) :
    (parseHexDigits digits.length number).run (digits ++ rest) =
      .ok (digits.foldl (fun number digit => number * 16 + hexDigitValue digit) number, rest) := by
  induction digits generalizing number with
  | nil => rfl
  | cons digit digits ih =>
    rw [all_cons, Bool.and_eq_true] at hex
    rw [length_cons, parseHexDigits, cons_append,
      run_bind_ok (run_streamParseHex hex.1 _)]
    exact ih hex.2 _

theorem hexDigitValue_lt (hex : isHexDigit digit = true) : hexDigitValue digit < 16 := by
  revert hex
  revert digit
  apply forall_octet
  decide +kernel

theorem codePoint_lt (four : digits.length = 4) (hex : digits.all isHexDigit = true) :
    codePoint digits < 0x10000 := by
  match digits, four with
  | [first, second, third, fourth], _ =>
    simp only [all_cons, all_nil, Bool.and_true, Bool.and_eq_true] at hex
    have := hexDigitValue_lt hex.1
    have := hexDigitValue_lt hex.2.1
    have := hexDigitValue_lt hex.2.2.1
    have := hexDigitValue_lt hex.2.2.2
    simp only [codePoint, foldl_cons, foldl_nil]
    omega

theorem run_parseEscape_letter {letter value : UInt8} (allowed : (letter, value) ∈ escapes)
    (rest : List UInt8) : parseEscape.run (letter :: rest) = .ok ([value], rest) := by
  have each : escapes.all (fun pair =>
    decide (escapeValue pair.1 ≠ 117 ∧ escapeValue pair.1 = pair.2)) = true := rfl
  obtain ⟨other, same⟩ := of_decide_eq_true (all_eq_true.mp each _ allowed)
  unfold parseEscape
  rw [run_peekChar_bind, headD_cons, if_neg other]
  unfold parsePlainEscape
  rw [run_peekChar_bind, run_getChar_bind, headD_cons, same]
  rfl

theorem run_parseEscape_unicode (four : digits.length = 4) (hex : digits.all isHexDigit = true)
    (allowed : isScalarCode (codePoint digits) = true) (rest : List UInt8) :
    parseEscape.run (117 :: digits ++ rest) = .ok (utf8 (codePoint digits), rest) := by
  have scalar : codePoint digits ≠ 0 ∧ ¬ (0xd800 ≤ codePoint digits ∧ codePoint digits ≤ 0xdfff) :=
    of_decide_eq_true allowed
  have hex4 : streamParseHex4.run (digits ++ rest) = .ok (codePoint digits, rest) := by
    have digitsRun := run_parseHexDigits hex 0 rest
    rw [four] at digitsRun
    exact digitsRun
  unfold parseEscape
  rw [cons_append, run_peekChar_bind, headD_cons, if_pos (by decide), run_getChar_bind,
    tail_cons]
  unfold parseUnicode
  rw [run_bind_ok hex4, if_neg (by omega), if_neg (by omega), transcode_eq (codePoint_lt four hex)]
  rfl

namespace StringChar

variable (char : StringChar)

theorem length_text_pos : 0 < char.text.length := by
  cases char <;> exact Nat.succ_pos _

theorem content_ne_zero : ∀ byte ∈ char.content, byte ≠ 0 := by
  cases char with
  | plain byte allowed =>
    have bounds : 32 ≤ byte ∧ byte ≠ 34 ∧ byte ≠ 92 := of_decide_eq_true allowed
    simp only [content, mem_singleton, forall_eq]
    rintro rfl
    exact absurd bounds.1 (by decide)
  | escape letter value allowed =>
    have each : escapes.all (fun pair => decide (pair.2 ≠ 0)) = true := rfl
    simp only [content, mem_singleton, forall_eq]
    exact of_decide_eq_true (all_eq_true.mp each _ allowed)
  | unicode digits four hex allowed =>
    have scalar : codePoint digits ≠ 0 ∧ _ := of_decide_eq_true allowed
    exact utf8_ne_zero scalar.1 (codePoint_lt four hex)

theorem run_parseChars (fuel : Nat) (out rest : List UInt8) :
    (parseChars (fuel + 1) out).run (char.text ++ rest) =
      (parseChars fuel (out ++ char.content)).run rest := by
  rw [parseChars]
  cases char with
  | plain byte allowed =>
    have bounds : 32 ≤ byte ∧ byte ≠ 34 ∧ byte ≠ 92 := of_decide_eq_true allowed
    have inside : ¬ (byte = 34 ∨ byte = 0) := by
      rintro (quote | zero)
      · exact bounds.2.1 quote
      · exact absurd bounds.1 (by rw [zero]; decide)
    simp only [text, content, cons_append, nil_append]
    rw [run_peekChar_bind, headD_cons, if_neg inside, run_getChar_bind, if_pos bounds.2.2]
    rfl
  | escape letter value allowed =>
    simp only [text, content, cons_append, nil_append]
    rw [run_peekChar_bind, headD_cons, if_neg (by decide), run_getChar_bind,
      if_neg (by decide), tail_cons, run_bind_ok (run_parseEscape_letter allowed rest)]
  | unicode digits four hex allowed =>
    simp only [text, content, cons_append]
    rw [run_peekChar_bind, headD_cons, if_neg (by decide), run_getChar_bind,
      if_neg (by decide), tail_cons, ← cons_append,
      run_bind_ok (run_parseEscape_unicode four hex allowed rest)]

end StringChar

variable (chars : List StringChar)

theorem length_le_charsText : chars.length ≤ (charsText chars).length := by
  induction chars with
  | nil => exact Nat.le_refl _
  | cons char chars ih =>
    have positive := char.length_text_pos
    have split : charsText (char :: chars) = char.text ++ charsText chars := rfl
    rw [split, length_append, length_cons]
    omega

theorem run_parseChars {fuel : Nat} (enough : chars.length < fuel) (out rest : List UInt8) :
    (parseChars fuel out).run (charsText chars ++ 34 :: rest) =
      .ok (out ++ contents chars, 34 :: rest) := by
  induction chars generalizing fuel out with
  | nil =>
    obtain ⟨fuel, rfl⟩ := Nat.exists_eq_succ_of_ne_zero (Nat.pos_iff_ne_zero.mp enough)
    simp [parseChars, charsText, contents]
  | cons char chars ih =>
    rw [length_cons] at enough
    obtain ⟨fuel, rfl⟩ := Nat.exists_eq_succ_of_ne_zero (show fuel ≠ 0 by omega)
    have split : charsText (char :: chars) = char.text ++ charsText chars := rfl
    have content : contents (char :: chars) = char.content ++ contents chars := rfl
    rw [split, content, append_assoc, char.run_parseChars, ← append_assoc]
    exact ih (by omega) _

theorem cString_contents : cString (contents chars) = contents chars := by
  unfold cString
  rw [takeWhile_eq_self_iff]
  intro byte member
  obtain ⟨char, _, inside⟩ := mem_flatMap.mp member
  exact decide_eq_true (char.content_ne_zero byte inside)

/-- A string token is read to its contents. -/
theorem run_streamParseString {fuel : Nat} (enough : (charsText chars).length < fuel)
    (rest : List UInt8) :
    (streamParseString fuel).run (stringText chars ++ rest) = .ok (contents chars, rest) := by
  have shape : stringText chars ++ rest = 34 :: (charsText chars ++ 34 :: rest) := by
    simp [stringText]
  have inside := run_parseChars chars
    (Nat.lt_of_le_of_lt (length_le_charsText chars) enough) [] rest
  unfold streamParseString
  rw [shape, run_peekChar_bind, headD_cons, if_neg (by decide), run_getChar_bind,
    tail_cons, run_bind_ok inside, run_peekChar_bind, headD_cons, if_pos rfl,
    nil_append, cString_contents]
  rfl

/-! ## Numbers -/

structure ExponentToken where
  mark : UInt8
  sign : List UInt8
  digits : List UInt8
  mark_allowed : mark = 101 ∨ mark = 69
  sign_allowed : sign = [] ∨ sign = [43] ∨ sign = [45]
  digits_allowed : digits.all isDigit = true
  digits_ne_nil : digits ≠ []

/-- A number. An empty `fraction` stands for none, and `zeros` is how many zeros are put in front.
-/
structure NumberToken where
  negative : Bool
  zeros : Nat
  integer : List UInt8
  fraction : List UInt8
  exponent : Option ExponentToken
  integer_allowed : integer.all isDigit = true
  integer_ne_nil : integer ≠ []
  integer_zero : integer.head? = some 48 → integer = [48]
  fraction_allowed : fraction.all isDigit = true

def ExponentToken.text (exponent : ExponentToken) : List UInt8 :=
  exponent.mark :: (exponent.sign ++ exponent.digits)

def ExponentToken.subscale (exponent : ExponentToken) : Int :=
  accumulateExponent exponent.digits * if exponent.sign = [45] then -1 else 1

namespace NumberToken

def fractionText (number : NumberToken) : List UInt8 :=
  if number.fraction = [] then [] else 46 :: number.fraction

def exponentText (number : NumberToken) : List UInt8 :=
  (number.exponent.map ExponentToken.text).getD []

def partsText (number : NumberToken) : List UInt8 := number.fractionText ++ number.exponentText

def signText (number : NumberToken) : List UInt8 := if number.negative then [45] else []

def text (number : NumberToken) : List UInt8 :=
  number.signText ++ List.replicate number.zeros 48 ++ number.integer ++ number.partsText

def significant (number : NumberToken) : List UInt8 :=
  if number.integer = [48] then [] else number.integer

def value {D : Type} (doubles : Doubles D) (number : NumberToken) : D :=
  let n := accumulateDigits doubles
    (accumulateDigits doubles (doubles.ofInt 0) number.significant) number.fraction
  let subscale := (number.exponent.map ExponentToken.subscale).getD 0
  let n :=
    if doubles.equal n (doubles.ofInt 0) then n
    else doubles.scale n (toSigned 32 (-number.fraction.length + subscale))
  doubles.copySign n number.negative

/-- A number without fraction and exponent, and with at most nine digits. -/
def IsPlain (number : NumberToken) : Prop :=
  number.fraction = [] ∧ number.exponent = none ∧ number.integer.length ≤ 9

instance (number : NumberToken) : Decidable number.IsPlain :=
  inferInstanceAs (Decidable (_ ∧ number.exponent = none ∧ _))

def int (number : NumberToken) : Int :=
  let magnitude := number.integer.foldl (fun value digit => value * 10 + digitValue digit) 0
  if number.negative then -(magnitude : Int) else magnitude

end NumberToken

structure EndsNumber (rest : List UInt8) : Prop where
  digit : isDigit (rest.headD 0) = false
  point : rest.headD 0 ≠ 46
  mark : rest.headD 0 ≠ 101 ∧ rest.headD 0 ≠ 69

section

variable {digits rest : List UInt8} (allowed : digits.all isDigit = true)
  (ends : isDigit (rest.headD 0) = false)
include allowed ends

theorem scan_digits :
    (digits ++ rest).takeWhile isDigit = digits ∧ (digits ++ rest).dropWhile isDigit = rest := by
  have each : ∀ digit ∈ digits, isDigit digit = true := all_eq_true.mp allowed
  have stops : rest.takeWhile isDigit = [] ∧ rest.dropWhile isDigit = rest := by
    cases rest with
    | nil => exact ⟨rfl, rfl⟩
    | cons char rest =>
      have other : ¬ isDigit char = true := by
        rw [headD_cons] at ends
        simp [ends]
      exact ⟨takeWhile_cons_of_neg other, dropWhile_cons_of_neg other⟩
  rw [takeWhile_append_of_pos each, dropWhile_append_of_pos each, stops.1, stops.2,
    append_nil]
  exact ⟨rfl, rfl⟩

theorem run_scanDigits : scanDigits.run (digits ++ rest) = .ok (digits, rest) := by
  obtain ⟨taken, left⟩ := scan_digits allowed ends
  unfold scanDigits
  rw [run_scanWhile, taken, left]

end

section Numbers

variable {D : Type} {doubles : Doubles D}

variable {digits rest : List UInt8}

theorem run_parseInteger (allowed : digits.all isDigit = true) (nonempty : digits ≠ [])
    (nonzero : digits.head? ≠ some 48) (ends : isDigit (rest.headD 0) = false) (n : D) :
    (parseInteger doubles n).run (digits ++ rest) =
      .ok (accumulateDigits doubles n digits, rest) := by
  obtain ⟨first, digits, rfl⟩ := exists_cons_of_ne_nil nonempty
  have range : 49 ≤ first ∧ first ≤ 57 := by
    rw [all_cons, Bool.and_eq_true] at allowed
    have bounds : 48 ≤ first ∧ first ≤ 57 := of_decide_eq_true allowed.1
    have other : first ≠ 48 := fun zero => nonzero (by rw [zero]; rfl)
    grind
  unfold parseInteger
  rw [run_peekChar_bind, cons_append, headD_cons, if_pos range, ← cons_append,
    run_bind_ok (run_scanDigits allowed ends)]
  rfl

theorem run_parseInteger_none (other : isDigit (rest.headD 0) = false) (n : D) :
    (parseInteger doubles n).run rest = .ok (n, rest) := by
  have outside : ¬ (49 ≤ rest.headD 0 ∧ rest.headD 0 ≤ 57) := by
    have bounds : ¬ (48 ≤ rest.headD 0 ∧ rest.headD 0 ≤ 57) := of_decide_eq_false other
    grind
  unfold parseInteger
  rw [run_peekChar_bind, if_neg outside]
  rfl

theorem run_parseFraction (allowed : digits.all isDigit = true)
    (ends : isDigit (rest.headD 0) = false) (other : rest.headD 0 ≠ 46) (n : D) :
    (parseFraction doubles n).run ((if digits = [] then [] else 46 :: digits) ++ rest) =
      .ok ((accumulateDigits doubles n digits, -digits.length), rest) := by
  unfold parseFraction
  by_cases empty : digits = []
  · subst empty
    rw [if_pos rfl, nil_append, run_peekChar_bind, if_neg other]
    rfl
  · rw [if_neg empty, cons_append, run_peekChar_bind, headD_cons, if_pos rfl,
      run_getChar_bind, tail_cons, run_bind_ok (run_scanDigits allowed ends)]
    rfl

theorem ExponentToken.run_parseExponent (exponent : ExponentToken)
    (ends : isDigit (rest.headD 0) = false) :
    parseExponent.run (exponent.text ++ rest) = .ok (exponent.subscale, rest) := by
  have signRun : parseExponentSign.run (exponent.sign ++ exponent.digits ++ rest) =
      .ok (if exponent.sign = [45] then -1 else 1, exponent.digits ++ rest) := by
    unfold parseExponentSign
    rcases exponent.sign_allowed with none | plus | minus
    · obtain ⟨first, digits, digits_eq⟩ := exists_cons_of_ne_nil exponent.digits_ne_nil
      have bounds : 48 ≤ first ∧ first ≤ 57 := by
        have allowed := exponent.digits_allowed
        rw [digits_eq, all_cons, Bool.and_eq_true] at allowed
        exact of_decide_eq_true allowed.1
      rw [none, digits_eq, nil_append, cons_append, run_peekChar_bind, headD_cons,
        if_neg (by grind), if_neg (by grind), if_neg (by decide)]
      rfl
    · rw [plus]
      rfl
    · rw [minus]
      rfl
  unfold parseExponent ExponentToken.text
  rw [cons_append, run_peekChar_bind, headD_cons, if_pos exponent.mark_allowed,
    run_getChar_bind, tail_cons, run_bind_ok signRun,
    run_bind_ok (run_scanDigits exponent.digits_allowed ends)]
  rfl

theorem run_parseExponent_none (ends : EndsNumber rest) :
    parseExponent.run rest = .ok (0, rest) := by
  unfold parseExponent
  rw [run_peekChar_bind, if_neg (not_or.mpr ends.mark)]
  rfl

namespace NumberToken

variable (number : NumberToken) {rest : List UInt8}

theorem run_parseExponent (ends : EndsNumber rest) :
    parseExponent.run (number.exponentText ++ rest) =
      .ok ((number.exponent.map ExponentToken.subscale).getD 0, rest) := by
  unfold exponentText
  cases number.exponent with
  | none => exact run_parseExponent_none ends
  | some exponent => exact exponent.run_parseExponent ends.digit

theorem exponentText_head (ends : EndsNumber rest) :
    isDigit ((number.exponentText ++ rest).headD 0) = false ∧
      (number.exponentText ++ rest).headD 0 ≠ 46 := by
  unfold exponentText
  cases number.exponent with
  | none => exact ⟨ends.digit, ends.point⟩
  | some exponent =>
    have head : ((Option.map ExponentToken.text (some exponent)).getD [] ++ rest).headD 0 =
        exponent.mark := rfl
    rw [head]
    rcases exponent.mark_allowed with mark | mark <;> rw [mark] <;> decide

theorem partsText_head (ends : EndsNumber rest) :
    isDigit ((number.partsText ++ rest).headD 0) = false := by
  unfold partsText fractionText
  by_cases empty : number.fraction = []
  · rw [if_pos empty, nil_append]
    exact (number.exponentText_head ends).1
  · rw [if_neg empty]
    rfl

theorem run_parseParts {text : List UInt8} (ends : EndsNumber rest)
    (integerRun : (parseInteger doubles (doubles.ofInt 0)).run text =
      .ok (accumulateDigits doubles (doubles.ofInt 0) number.significant,
      number.partsText ++ rest)) :
    (parseParts doubles number.negative).run text = .ok (number.value doubles, rest) := by
  obtain ⟨noDigit, noPoint⟩ := number.exponentText_head ends
  have fractionRun := @run_parseFraction D doubles _ _ number.fraction_allowed noDigit noPoint
    (accumulateDigits doubles (doubles.ofInt 0) number.significant)
  have split : number.partsText ++ rest =
      (if number.fraction = [] then [] else 46 :: number.fraction) ++
        (number.exponentText ++ rest) := by
    rw [← append_assoc]
    rfl
  unfold parseParts
  rw [run_bind_ok integerRun, split, run_bind_ok fractionRun,
    run_bind_ok (number.run_parseExponent ends)]
  rfl

theorem run_parseSign (digit : isDigit (rest.headD 0)) :
    parseSign.run (number.signText ++ rest) = .ok (number.negative, rest) := by
  unfold parseSign signText
  cases number.negative with
  | true => rfl
  | false =>
    have bounds : 48 ≤ rest.headD 0 ∧ rest.headD 0 ≤ 57 := of_decide_eq_true digit
    rw [if_neg (by decide), nil_append, run_peekChar_bind, if_neg (by grind)]
    rfl

theorem integer_head (rest : List UInt8) : isDigit ((number.integer ++ rest).headD 0) = true := by
  obtain ⟨first, digits, integer_eq⟩ := exists_cons_of_ne_nil number.integer_ne_nil
  have allowed := number.integer_allowed
  rw [integer_eq, all_cons, Bool.and_eq_true] at allowed
  rw [integer_eq]
  exact allowed.1

variable {number : NumberToken}

/-- A number token is read to its value. -/
theorem run_streamParseNumber (arithmetic : doubles.Exact) (grammatical : number.zeros = 0)
    (ends : EndsNumber rest) :
    (streamParseNumber doubles).run (number.text ++ rest) = .ok (number.value doubles, rest) := by
  have split : number.text ++ rest =
      number.signText ++ (number.integer ++ (number.partsText ++ rest)) := by
    simp [text, grammatical]
  have signRun := number.run_parseSign (number.integer_head (number.partsText ++ rest))
  unfold streamParseNumber
  rw [split, run_bind_ok signRun, run_peekChar_bind]
  by_cases zero : number.integer = [48]
  · have none : number.significant = [] := if_pos zero
    rw [zero, cons_append, headD_cons, if_pos rfl, run_getChar_bind, tail_cons,
      nil_append, run_peekChar_bind]
    by_cases more : (number.partsText ++ rest).headD 0 ≠ 46 ∧
        (number.partsText ++ rest).headD 0 ≠ 101 ∧ (number.partsText ++ rest).headD 0 ≠ 69
    · have noFraction : number.fraction = [] := by
        by_contra some
        apply more.1
        simp [partsText, fractionText, some]
      have noExponent : number.exponent = Option.none := by
        cases exponent_eq : number.exponent with
        | none => rfl
        | some exponent =>
          have head : (number.partsText ++ rest).headD 0 = exponent.mark := by
            simp [partsText, fractionText, noFraction, exponentText, exponent_eq,
              ExponentToken.text]
          rw [head] at more
          rcases exponent.mark_allowed with mark | mark
          · exact absurd mark more.2.1
          · exact absurd mark more.2.2
      have noParts : number.partsText = [] := by
        simp [partsText, fractionText, noFraction, exponentText, noExponent]
      have value : number.value doubles =
          doubles.copySign (doubles.ofInt 0) number.negative := by
        have same : doubles.equal (doubles.ofInt 0) (doubles.ofInt 0) = true := by
          simpa using arithmetic.equal_ofInt (show IsInt32 0 by decide) (show IsInt32 0 by decide)
        unfold NumberToken.value
        rw [none, noFraction]
        simp only [accumulateDigits, foldl_nil, same, if_true]
      rw [if_pos more, value, noParts]
      rfl
    · rw [if_neg more]
      apply number.run_parseParts ends
      rw [none]
      exact run_parseInteger_none (number.partsText_head ends) _
  · have nonzero : number.integer.head? ≠ some 48 := fun head => zero (number.integer_zero head)
    have other : (number.integer ++ (number.partsText ++ rest)).headD 0 ≠ 48 := by
      obtain ⟨first, digits, integer_eq⟩ := exists_cons_of_ne_nil number.integer_ne_nil
      rw [integer_eq] at nonzero ⊢
      exact fun head => nonzero (congrArg some head)
    have all : number.significant = number.integer := if_neg zero
    rw [if_neg other]
    apply number.run_parseParts ends
    rw [all]
    exact run_parseInteger number.integer_allowed number.integer_ne_nil nonzero
      (number.partsText_head ends) _

/-- Behind a leading zero the digits are left unread. -/
theorem run_streamParseNumber_zeros (zeros : 0 < number.zeros) (rest : List UInt8) :
    ∃ left, (streamParseNumber doubles).run (number.text ++ rest) =
        .ok (doubles.copySign (doubles.ofInt 0) number.negative, left) ∧
      isDigit (left.headD 0) = true := by
  obtain ⟨count, count_eq⟩ := Nat.exists_eq_succ_of_ne_zero (Nat.pos_iff_ne_zero.mp zeros)
  let left := List.replicate count 48 ++ (number.integer ++ (number.partsText ++ rest))
  have split : number.text ++ rest = number.signText ++ (48 :: left) := by
    simp [text, count_eq, replicate_succ, left]
  have digit : isDigit (left.headD 0) = true := by
    cases count with
    | zero => exact number.integer_head _
    | succ count => rfl
  have bounds : 48 ≤ left.headD 0 ∧ left.headD 0 ≤ 57 := of_decide_eq_true digit
  refine ⟨left, ?_, digit⟩
  unfold streamParseNumber
  rw [split, run_bind_ok (@run_parseSign number (48 :: left) rfl), run_peekChar_bind,
    headD_cons, if_pos rfl, run_getChar_bind, tail_cons, run_peekChar_bind,
    if_pos ⟨by grind, by grind, by grind⟩]
  rfl

end NumberToken

def digitsValue (value : Nat) (digits : List UInt8) : Nat :=
  digits.foldl (fun value digit => value * 10 + digitValue digit) value

theorem digitValue_lt {digit : UInt8} (allowed : isDigit digit = true) : digitValue digit < 10 := by
  have bounds : 48 ≤ digit ∧ digit ≤ 57 := of_decide_eq_true allowed
  have upper : digit.toNat ≤ 57 := UInt8.le_iff_toNat_le.mp bounds.2
  unfold digitValue
  omega

theorem le_digitsValue (value : Nat) (digits : List UInt8) : value ≤ digitsValue value digits := by
  induction digits generalizing value with
  | nil => exact Nat.le_refl _
  | cons digit digits ih =>
    have later := ih (value * 10 + digitValue digit)
    have split : digitsValue value (digit :: digits) =
        digitsValue (value * 10 + digitValue digit) digits := rfl
    omega

variable {digits : List UInt8}

theorem digitsValue_lt (allowed : digits.all isDigit = true) (value : Nat) :
    digitsValue value digits < (value + 1) * 10 ^ digits.length := by
  induction digits generalizing value with
  | nil => simp [digitsValue]
  | cons digit digits ih =>
    rw [all_cons, Bool.and_eq_true] at allowed
    have small := digitValue_lt allowed.1
    have split : digitsValue value (digit :: digits) =
        digitsValue (value * 10 + digitValue digit) digits := rfl
    calc digitsValue value (digit :: digits)
        < (value * 10 + digitValue digit + 1) * 10 ^ digits.length := by
          rw [split]
          exact ih allowed.2 _
      _ ≤ ((value + 1) * 10) * 10 ^ digits.length := Nat.mul_le_mul_right _ (by omega)
      _ = (value + 1) * 10 ^ (digits.length + 1) := by rw [Nat.mul_assoc, ← Nat.pow_succ']

theorem accumulateDigits_ofInt (arithmetic : doubles.Exact) (allowed : digits.all isDigit = true)
    {value : Nat} (small : digitsValue value digits < 0x20000000000000) :
    accumulateDigits doubles (doubles.ofInt value) digits =
      doubles.ofInt (digitsValue value digits) := by
  induction digits generalizing value with
  | nil => rfl
  | cons digit digits ih =>
    rw [all_cons, Bool.and_eq_true] at allowed
    have split : digitsValue value (digit :: digits) =
        digitsValue (value * 10 + digitValue digit) digits := rfl
    rw [split] at small
    have below := le_digitsValue (value * 10 + digitValue digit) digits
    have step := arithmetic.accumulate_ofInt (digitValue_lt allowed.1)
      (show value * 10 + digitValue digit < 0x20000000000000 by omega)
    rw [split, ← ih allowed.2 small, ← step]
    rfl

namespace NumberToken

def magnitude (number : NumberToken) : Nat := digitsValue 0 number.integer

theorem int_eq (number : NumberToken) :
    number.int = if number.negative then -(number.magnitude : Int) else number.magnitude := rfl

variable {number : NumberToken}

theorem value_eq (arithmetic : doubles.Exact) (noFraction : number.fraction = [])
    (noExponent : number.exponent = none) (small : number.magnitude < 0x20000000000000) :
    number.value doubles =
      doubles.copySign (doubles.ofInt number.magnitude) number.negative := by
  have accumulated : accumulateDigits doubles (doubles.ofInt 0) number.significant =
      doubles.ofInt number.magnitude := by
    by_cases zero : number.integer = [48]
    · have none : number.significant = [] := if_pos zero
      rw [none, magnitude, zero]
      rfl
    · have all : number.significant = number.integer := if_neg zero
      rw [all]
      exact accumulateDigits_ofInt arithmetic number.integer_allowed small
  have zeroScale : toSigned 32 0 = 0 := by decide
  have scaled : (if doubles.equal (doubles.ofInt number.magnitude) (doubles.ofInt 0) then
      doubles.ofInt number.magnitude
      else doubles.scale (doubles.ofInt number.magnitude) 0) = doubles.ofInt number.magnitude := by
    rw [arithmetic.scale_zero small, ite_self]
  unfold value
  rw [accumulated, noFraction, noExponent]
  simp only [accumulateDigits, foldl_nil, length_nil, Option.map_none, Option.getD_none,
    Nat.cast_zero, neg_zero, add_zero, zeroScale]
  rw [scaled]

theorem setValueNumber_value (arithmetic : doubles.Exact) (noFraction : number.fraction = [])
    (noExponent : number.exponent = none) (fits : IsInt32 number.int) :
    (setValueNumber doubles (number.value doubles)).valueInt doubles = number.int ∧
      doubles.equal ((setValueNumber doubles (number.value doubles)).valueDouble doubles)
        (doubles.ofInt number.int) = true := by
  have bounds : -0x80000000 ≤ number.int ∧ number.int ≤ 0x7fffffff := fits
  have sign := number.int_eq
  have small : number.magnitude < 0x20000000000000 := by
    split at sign <;> omega
  have ofInt (same : number.value doubles = doubles.ofInt number.int) :
      (setValueNumber doubles (number.value doubles)).valueInt doubles = number.int ∧
        doubles.equal ((setValueNumber doubles (number.value doubles)).valueDouble doubles)
          (doubles.ofInt number.int) = true := by
    have stored := setValueNumber_ofInt arithmetic fits
    rw [← same] at stored
    simp only [Value.shown, Shown.number.injEq] at stored
    rw [stored.1, stored.2, same, arithmetic.equal_ofInt fits fits]
    exact ⟨rfl, decide_eq_true rfl⟩
  have valueEq := number.value_eq arithmetic noFraction noExponent small
  cases negative : number.negative with
  | false =>
    rw [negative] at sign valueEq
    rw [if_neg (by decide)] at sign
    rw [arithmetic.copySign_positive small, ← sign] at valueEq
    exact ofInt valueEq
  | true =>
    rw [negative] at sign valueEq
    rw [if_pos rfl] at sign
    by_cases zero : number.magnitude = 0
    · rw [zero] at sign valueEq
      have stored : setValueNumber doubles (number.value doubles) =
          .float (number.value doubles) := by
        rw [valueEq]
        unfold setValueNumber
        rw [Nat.cast_zero, if_pos arithmetic.negativeZero_equal,
          if_pos arithmetic.negativeZero_signBit, arithmetic.negativeZero_toFloat]
      rw [stored, valueEq, sign]
      exact ⟨arithmetic.negativeZero_toInt, arithmetic.negativeZero_equal⟩
    · rw [arithmetic.copySign_negative (Nat.pos_of_ne_zero zero) small, ← sign] at valueEq
      exact ofInt valueEq

theorem IsPlain.isInt32 (plain : number.IsPlain) : IsInt32 number.int := by
  have small : number.magnitude < 10 ^ 9 := by
    calc number.magnitude < (0 + 1) * 10 ^ number.integer.length :=
          digitsValue_lt number.integer_allowed 0
      _ ≤ 10 ^ 9 := by
          rw [Nat.zero_add, Nat.one_mul]
          exact Nat.pow_le_pow_right (by decide) plain.2.2
  have sign := number.int_eq
  show -0x80000000 ≤ number.int ∧ number.int ≤ 0x7fffffff
  split at sign <;> omega

end NumberToken

end Numbers

end Thingsee.Json
