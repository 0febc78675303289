import Thingsee.Json.Items
import Thingsee.Support.Decimal
import Thingsee.Support.Scanner

/-!
Owns the parser of JSON texts, from `apps/netutils/json/cJSON_stream_parse.c`: the stream with
one character of look-ahead, numbers, strings with their escapes, and the values, arrays and
objects that are parsed by calls of each other.

The functions are scanners, and `exec` carries them out on the stream. `exec_eq_run` says that
its look-ahead does not show: what a function does only depends on what is left of the text.
-/

namespace Thingsee.Json

open Support Support.Scanner

/-- `cJSON_instream` over `getc_string`. `curr` is the character that was looked at. -/
structure Stream where
  text : List UInt8
  curr : Option UInt8

/-- The characters in front of the zero that ends a string. -/
def cString (memory : List UInt8) : List UInt8 := memory.takeWhile fun char => decide (char ≠ 0)

/-- `getc_string`: the zero at the end of the text is read again and again. -/
def getcString : List UInt8 → UInt8 × List UInt8
  | [] => (0, [])
  | char :: rest => (char, rest)

def streamGet (stream : Stream) : UInt8 × Stream :=
  match stream.curr with
  | some char => (char, ⟨stream.text, none⟩)
  | none => ((getcString stream.text).1, ⟨(getcString stream.text).2, none⟩)

def streamPeek (stream : Stream) : UInt8 × Stream :=
  match stream.curr with
  | some char => (char, stream)
  | none =>
    ((getcString stream.text).1, ⟨(getcString stream.text).2, some (getcString stream.text).1⟩)

/-- The characters that a loop gets from the one that was looked at on. -/
def scanText (condition : UInt8 → Bool) (char : UInt8) : List UInt8 → List UInt8 × Stream
  | [] => if condition char then ([char], ⟨[], some 0⟩) else ([], ⟨[], some char⟩)
  | next :: rest =>
    if condition char then
      (char :: (scanText condition next rest).1, (scanText condition next rest).2)
    else ([], ⟨next :: rest, some char⟩)

/-- `while (condition (stream_peek (in))) stream_get (in)`, with what was got. -/
def streamScan (condition : UInt8 → Bool) (stream : Stream) : List UInt8 × Stream :=
  scanText condition (streamPeek stream).1 (streamPeek stream).2.text

/--
Why a function has no result: it returned `NULL`, it wrote an item that does not fit its memory, or
it did not come to its end.
-/
inductive Failure where
  | null
  | corrupted
  | exhausted

/-- A function of the parser. -/
abbrev Parser (α : Type) := Scanner Failure α

def exec {α : Type} : Parser α → Stream → Except Failure (α × Stream)
  | .done result, stream => .ok (result, stream)
  | .stop reason, _ => .error reason
  | .peek next, stream => exec (next (streamPeek stream).1) (streamPeek stream).2
  | .get next, stream => exec (next (streamGet stream).1) (streamGet stream).2
  | .scan condition _ next, stream =>
    exec (next (streamScan condition stream).1) (streamScan condition stream).2

def fresh (rest : List UInt8) : Stream := ⟨rest, none⟩

def peeked (rest : List UInt8) : Stream := ⟨rest.tail, some (rest.headD 0)⟩

/-- What is left of the text behind the characters that were got. -/
inductive Stream.Left : Stream → List UInt8 → Prop
  | fresh (rest : List UInt8) : Stream.Left (fresh rest) rest
  | peeked (rest : List UInt8) : Stream.Left (peeked rest) rest

variable {stream : Stream} {rest : List UInt8}

theorem Stream.Left.peek (left : stream.Left rest) :
    streamPeek stream = (rest.headD 0, Json.peeked rest) := by
  cases left with
  | fresh => cases rest <;> rfl
  | peeked => rfl

theorem Stream.Left.get (left : stream.Left rest) :
    streamGet stream = (rest.headD 0, Json.fresh rest.tail) := by
  cases left with
  | fresh => cases rest <;> rfl
  | peeked => rfl

theorem scanText_eq (condition : UInt8 → Bool) (char : UInt8) (rest : List UInt8) :
    scanText condition char rest =
      ((char :: rest).takeWhile condition, peeked ((char :: rest).dropWhile condition)) := by
  induction rest generalizing char with
  | nil => by_cases met : condition char = true <;> simp [scanText, met, peeked]
  | cons next rest ih =>
    by_cases met : condition char = true
    · rw [scanText, if_pos met, ih, List.takeWhile_cons_of_pos met,
        List.dropWhile_cons_of_pos met]
    · rw [scanText, if_neg met, List.takeWhile_cons_of_neg met, List.dropWhile_cons_of_neg met]
      rfl

theorem Stream.Left.scan (left : stream.Left rest) {condition : UInt8 → Bool}
    (ends : condition 0 = false) :
    streamScan condition stream =
      (rest.takeWhile condition, Json.peeked (rest.dropWhile condition)) := by
  unfold streamScan
  rw [left.peek]
  cases rest with
  | nil => simp [scanText, Json.peeked, ends]
  | cons char rest => exact scanText_eq condition char rest

theorem exec_eq_run {α : Type} (parser : Parser α) (left : stream.Left rest) :
    match parser.run rest with
    | .ok (result, rest) => ∃ after, exec parser stream = .ok (result, after) ∧ after.Left rest
    | .error reason => exec parser stream = .error reason := by
  induction parser generalizing stream rest with
  | done result => exact ⟨stream, rfl, left⟩
  | stop reason => rfl
  | peek next ih =>
    unfold exec run
    rw [left.peek]
    exact ih _ (.peeked rest)
  | get next ih =>
    unfold exec run
    rw [left.get]
    exact ih _ (.fresh rest.tail)
  | scan condition ends next ih =>
    unfold exec run
    rw [left.scan ends]
    exact ih _ (.peeked (rest.dropWhile condition))

/-- The condition of `skip`. -/
def isSkipped (char : UInt8) : Bool := decide (char ≠ 0 ∧ char ≤ 32)

def skip : Parser Unit := do
  let _ ← scanWhile isSkipped (by decide)
  return ()

/-- `while (stream_peek (in) >= '0' && stream_peek (in) <= '9')`. -/
def scanDigits : Parser (List UInt8) := scanWhile isDigit (by decide)

def digitValue (char : UInt8) : Nat := char.toNat - 48

section Numbers

variable {D : Type} (doubles : Doubles D)

/-- The loops over the digits of the integer and of the fractional part. -/
def accumulateDigits (n : D) (digits : List UInt8) : D :=
  digits.foldl (fun n digit => doubles.accumulate n (digitValue digit)) n

/-- The loop over the digits of the exponent, in `int`. -/
def accumulateExponent (digits : List UInt8) : Int :=
  digits.foldl (fun subscale digit => toSigned 32 (subscale * 10 + digitValue digit)) 0

def parseInteger (n : D) : Parser D := do
  let first ← peekChar
  if 49 ≤ first ∧ first ≤ 57 then do
    let digits ← scanDigits
    return accumulateDigits doubles n digits
  else return n

def parseFraction (n : D) : Parser (D × Int) := do
  let first ← peekChar
  if first = 46 then do
    let _ ← getChar
    let digits ← scanDigits
    return (accumulateDigits doubles n digits, -digits.length)
  else return (n, 0)

def parseExponentSign : Parser Int := do
  let sign ← peekChar
  if sign = 43 then do
    let _ ← getChar
    return 1
  else if sign = 45 then do
    let _ ← getChar
    return -1
  else return 1

def parseExponent : Parser Int := do
  let first ← peekChar
  if first = 101 ∨ first = 69 then do
    let _ ← getChar
    let signsubscale ← parseExponentSign
    let digits ← scanDigits
    return accumulateExponent digits * signsubscale
  else return 0

def parseParts (negative : Bool) : Parser D := do
  let n ← parseInteger doubles (doubles.ofInt 0)
  let (n, scale) ← parseFraction doubles n
  let subscale ← parseExponent
  let n :=
    if doubles.equal n (doubles.ofInt 0) then n
    else doubles.scale n (toSigned 32 (scale + subscale))
  return doubles.copySign n negative

def parseSign : Parser Bool := do
  let first ← peekChar
  if first = 45 then do
    let _ ← getChar
    return true
  else return false

def streamParseNumber : Parser D := do
  let negative ← parseSign
  let first ← peekChar
  if first = 48 then do
    let _ ← getChar
    let next ← peekChar
    if next ≠ 46 ∧ next ≠ 101 ∧ next ≠ 69 then
      return doubles.copySign (doubles.ofInt 0) negative
    else parseParts doubles negative
  else parseParts doubles negative

end Numbers

def streamParseHex : Parser (Option Nat) := do
  let ascii ← peekChar
  if 48 ≤ ascii ∧ ascii ≤ 57 then do
    let _ ← getChar
    return some (ascii.toNat - 48)
  else if 65 ≤ ascii ∧ ascii ≤ 70 then do
    let _ ← getChar
    return some (0xA + ascii.toNat - 65)
  else if 97 ≤ ascii ∧ ascii ≤ 102 then do
    let _ ← getChar
    return some (0xa + ascii.toNat - 97)
  else return none

/-- The digits of `stream_parse_hex4` that are left. -/
def parseHexDigits : Nat → Nat → Parser Nat
  | 0, h => return h
  | count + 1, h => do
      let val ← streamParseHex
      match val with
      | some val => parseHexDigits count (h * 16 + val)
      | none => return 0

def streamParseHex4 : Parser Nat := parseHexDigits 4 0

/-- `((uc | 0x80) & 0xbf)`. -/
def continuationByte (uc : Nat) : UInt8 := UInt8.ofNat ((uc ||| 0x80) &&& 0xbf)

/-- The bytes of a code point. The first byte is marked with the number of bytes. -/
def transcode (uc : Nat) : List UInt8 :=
  if uc < 0x80 then [UInt8.ofNat (uc ||| 0x00)]
  else if uc < 0x800 then [UInt8.ofNat (uc >>> 6 ||| 0xc0), continuationByte uc]
  else if uc < 0x10000 then
    [UInt8.ofNat (uc >>> 12 ||| 0xe0), continuationByte (uc >>> 6), continuationByte uc]
  else
    [UInt8.ofNat (uc >>> 18 ||| 0xf0), continuationByte (uc >>> 12), continuationByte (uc >>> 6),
      continuationByte uc]

/-- The character that an escape other than `\u` stands for. -/
def escapeValue (val : UInt8) : UInt8 :=
  if val = 98 then 8
  else if val = 102 then 12
  else if val = 110 then 10
  else if val = 114 then 13
  else if val = 116 then 9
  else val

/-- An escape that is not `\u`, from `next_escape` on. -/
def parsePlainEscape : Parser (List UInt8) := do
  let val ← peekChar
  let _ ← getChar
  return [escapeValue val]

/-- The second half of a surrogate pair, for the first half `uc`. -/
def parseSurrogate (uc : Nat) : Parser (List UInt8) := do
  let char ← peekChar
  if char ≠ 92 then return []
  else do
    let _ ← getChar
    let char ← peekChar
    if char ≠ 117 then parsePlainEscape
    else do
      let _ ← getChar
      let uc2 ← streamParseHex4
      if uc2 < 0xdc00 ∨ 0xdfff < uc2 then return []
      else return transcode (0x10000 ||| (uc &&& 0x3ff) <<< 10 ||| uc2 &&& 0x3ff)

/-- A `\u` escape behind its `u`. -/
def parseUnicode : Parser (List UInt8) := do
  let uc ← streamParseHex4
  if (0xdc00 ≤ uc ∧ uc ≤ 0xdfff) ∨ uc = 0 then return []
  else if 0xd800 ≤ uc ∧ uc ≤ 0xdbff then parseSurrogate uc
  else return transcode uc

def parseEscape : Parser (List UInt8) := do
  let val ← peekChar
  if escapeValue val = 117 then do
    let _ ← getChar
    parseUnicode
  else parsePlainEscape

/-- The loop of `stream_parse_string` over the characters in front of the closing quote. -/
def parseChars : Nat → List UInt8 → Parser (List UInt8)
  | 0, _ => .stop .exhausted
  | fuel + 1, out => do
      let char ← peekChar
      if char = 34 ∨ char = 0 then return out
      else do
        let _ ← getChar
        if char ≠ 92 then parseChars fuel (out ++ [char])
        else do
          let escaped ← parseEscape
          parseChars fuel (out ++ escaped)

/-- `stream_parse_string`. The closing quote may be missing. -/
def streamParseString (fuel : Nat) : Parser (List UInt8) := do
  let char ← peekChar
  if char ≠ 34 then .stop .null
  else do
    let _ ← getChar
    let out ← parseChars fuel []
    let char ← peekChar
    if char = 34 then do
      let _ ← getChar
      return cString out
    else return cString out

/-- `struct stream_parse_value`. -/
inductive Parsed (D : Type) where
  | null
  | bool (value : Bool)
  | number (value : D)
  | string (text : List UInt8)
  | container (type : Container) (packed : Bool) (children : Items (Value D))

/-- `match_strings`. -/
def literals {D : Type} : List (List UInt8 × Parsed D) :=
  [([110, 117, 108, 108], .null), ([102, 97, 108, 115, 101], .bool false),
    ([116, 114, 117, 101], .bool true)]

def matchLiteral : List UInt8 → Parser Unit
  | [] => return ()
  | char :: rest => do
      let next ← getChar
      if next = char then matchLiteral rest else .stop .null

section Values

variable {D : Type} (doubles : Doubles D)

def createItem (name : Option (List UInt8)) : Parsed D → Option (Items (Value D))
  | .null => createNamed name .null
  | .bool value => createNamed name (.bool value)
  | .number value => createNamedNumber doubles name value
  | .string text => createNamed name (.string text)
  | .container type packed children => setItemName type packed children (name.getD [])

def streamParseCreateItem (value : Parsed D) (name : Option (List UInt8)) :
    Parser (Items (Value D)) :=
  match createItem doubles name value with
  | some item => return item
  | none => .stop .corrupted

/-- An element of an array: `skip (stream_parse_value (skip (in)))`. -/
def parseElement (value : Parser (Parsed D)) : Parser (Items (Value D)) := do
  skip
  let parsed ← value
  skip
  streamParseCreateItem doubles parsed none

def parseMember (fuel : Nat) (value : Parser (Parsed D)) : Parser (Items (Value D)) := do
  skip
  let name ← streamParseString fuel
  skip
  let char ← peekChar
  if char ≠ 58 then .stop .null
  else do
    let _ ← getChar
    skip
    let parsed ← value
    skip
    streamParseCreateItem doubles parsed (some name)

/-- The loop over the items behind commas, which are added to those in front. -/
def parseItems (item : Parser (Items (Value D))) : Nat → Items (Value D) →
    Parser (Items (Value D))
  | 0, _ => .stop .exhausted
  | fuel + 1, children => do
      let char ← peekChar
      if char = 44 then do
        let _ ← getChar
        let next ← item
        parseItems item fuel (children.append next)
      else return children

/-- An array or an object between its two brackets. The items are packed at the end. -/
def parseContainer (type : Container) (opening closing : UInt8) (item : Parser (Items (Value D)))
    (fuel : Nat) : Parser (Parsed D) := do
  let char ← peekChar
  if char ≠ opening then .stop .null
  else do
    let _ ← getChar
    skip
    let char ← peekChar
    if char = closing then do
      let _ ← getChar
      return .container type false .nil
    else do
      let first ← item
      let children ← parseItems item fuel first
      let char ← peekChar
      if char = closing then do
        let _ ← getChar
        return .container type true children
      else .stop .null

def streamParseArray (fuel : Nat) (value : Parser (Parsed D)) : Parser (Parsed D) :=
  parseContainer .array 91 93 (parseElement doubles value) fuel

def streamParseObject (fuel : Nat) (value : Parser (Parsed D)) : Parser (Parsed D) :=
  parseContainer .object 123 125 (parseMember doubles fuel value) fuel

/-- `stream_parse_value`, behind the look at the first character. -/
def parseValueFrom (fuel : Nat) (value : Parser (Parsed D)) (char : UInt8) : Parser (Parsed D) :=
  match literals.find? fun literal => decide (literal.1.head? = some char) with
  | some (literal, parsed) => do
      matchLiteral literal
      return parsed
  | none =>
    if char = 34 then do
      let text ← streamParseString fuel
      return .string text
    else if char = 45 ∨ (48 ≤ char ∧ char ≤ 57) then do
      let number ← streamParseNumber doubles
      return .number number
    else if char = 91 then streamParseArray doubles fuel value
    else if char = 123 then streamParseObject doubles fuel value
    else .stop .null

def streamParseValue : Nat → Parser (Parsed D)
  | 0 => .stop .exhausted
  | fuel + 1 => do
      let char ← peekChar
      parseValueFrom doubles fuel (streamParseValue fuel) char

/-- `cJSON_Parse_Stream`: nothing but spaces may stand behind the value. -/
def cJSONParseStream (fuel : Nat) : Parser (Items (Value D)) := do
  skip
  let value ← streamParseValue doubles fuel
  let item ← streamParseCreateItem doubles value none
  skip
  let char ← getChar
  if char ≠ 0 then .stop .null else return item

/--
`cJSON_Parse`. No loop and no chain of calls is longer than the text, with the end of the text
looked at once more.
-/
def cJSONParse (memory : List UInt8) : Except Failure (Items (Value D)) :=
  (exec (cJSONParseStream doubles ((cString memory).length + 2)) (fresh (cString memory))).map
    Prod.fst

theorem cJSONParse_eq (memory : List UInt8) :
    cJSONParse doubles memory =
      ((cJSONParseStream doubles ((cString memory).length + 2)).run (cString memory)).map
        Prod.fst := by
  have same := exec_eq_run (cJSONParseStream doubles ((cString memory).length + 2))
    (.fresh (cString memory))
  unfold cJSONParse
  cases returned : (cJSONParseStream doubles ((cString memory).length + 2)).run
      (cString memory) with
  | ok result =>
    rw [returned] at same
    obtain ⟨after, result_eq, _⟩ := same
    rw [result_eq]
    rfl
  | error reason =>
    rw [returned] at same
    rw [same]
    rfl

end Values

end Thingsee.Json
