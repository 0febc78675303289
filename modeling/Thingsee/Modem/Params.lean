import Thingsee.Modem.Reader
import Thingsee.Modem.Stream

/-!
Owns what one parameter of a response line looks like as text (`Param`), which
value it stands for, and that the parameter reader turns the one into the other:
`takeParam` says that a valid text is taken whole, and that the separator or the
end of the line then stores exactly the encoding of its value.

A parameter that is being read as a string is described by `holding`: the stream
it started from, the place holder of its length, and the characters so far.
-/

namespace Thingsee.Modem

open Support List

/-- A parameter as it stands in a line: as it is, or with a quoted part. -/
inductive Param where
  | bare (chars : List UInt8)
  | quoted (before content after : List UInt8)

def Param.text : Param → List UInt8
  | .bare chars => chars
  | .quoted before content after => before ++ 34 :: (content ++ 34 :: after)

def Param.content : Param → List UInt8
  | .bare _ => []
  | .quoted _ content _ => content

def isNumeric (char : UInt8) : Bool := decide (char = 45 ∨ char = 43) || isDigit char

/-- The integer a text stands for: what is no part of a number is skipped, and
`null_terminate_buf` leaves 31 characters. -/
def Param.number (param : Param) : Int :=
  strtol ((param.text.filter isNumeric).take (statebufSize - 1))

def Param.value (fmt : RespFormat) (param : Param) : Value :=
  match fmt with
  | .int8 | .int16 | .int32 => .integer (toSigned (8 * fmt.width) param.number)
  | .datalen => .integer (param.number % 65536)
  | .string | .stringToEol => .bytes (param.text.dropWhile (· == 32))
  | .quotedString | .quotedDatabuf => .bytes param.content

def Param.datalenAfter (fmt : RespFormat) (datalen : Nat) (param : Param) : Nat :=
  match fmt with
  | .datalen => (param.number % 65536).toNat
  | .quotedDatabuf => datalen - param.content.length
  | _ => datalen

/-- A character that neither separates parameters nor ends the line. -/
def isInner (char : UInt8) : Bool := char != 44 && !isEndOfLine char

def isUnquoted (char : UInt8) : Bool := isInner char && char != 34

/-- Whether a parameter is a text of its format. A quoted data buffer has the
pending length and any content. -/
def Param.valid (fmt : RespFormat) (datalen : Nat) (param : Param) : Bool :=
  match fmt with
  | .int8 | .int16 | .int32 | .datalen | .string => param.text.all isInner
  | .stringToEol => param.text.all (fun char => !isEndOfLine char)
  | .quotedString =>
    match param with
    | .bare chars => chars.all isUnquoted
    | .quoted before content after =>
      before.all isUnquoted && content.all (fun char => char != 34 && !isEndOfLine char) &&
        after.all (· == 32)
  | .quotedDatabuf =>
    match param with
    | .bare chars => chars.all isUnquoted
    | .quoted before content after =>
      before.all isUnquoted && content.length == datalen && after.all (· == 32)

def Param.size (fmt : RespFormat) (param : Param) : Nat :=
  (encodeParam fmt (param.value fmt)).length

namespace Reader

variable {reader start : Reader} {fmt : RespFormat} {param : Param} (rest : List UInt8)
  {text : List UInt8}

/-- `parse_parameter_byte` without its end-of-line part. -/
def paramByte (reader : Reader) (char : UInt8) : Reader × Bool :=
  if reader.skipsTrailingSpace char then (reader.openQuoted, false)
  else reader.formatByte char (isEndOfLine char)

def takeText : Reader → List UInt8 → Option Reader
  | reader, [] => some reader
  | reader, char :: rest =>
    if (reader.paramByte char).2 then none else (reader.paramByte char).1.takeText rest

theorem takeText_cons {next : Reader} {char : UInt8}
    (taken : reader.paramByte char = (next, false)) :
    reader.takeText (char :: rest) = next.takeText rest := by
  rw [takeText, taken]
  rfl

theorem takeText_append {next : Reader} {front : List UInt8}
    (taken : reader.takeText front = some next) :
    reader.takeText (front ++ rest) = next.takeText rest := by
  induction front generalizing reader with
  | nil =>
    have same : reader = next := by simpa [takeText] using taken
    rw [same, nil_append]
  | cons char front ih =>
    simp only [takeText, cons_append] at taken ⊢
    split at taken
    · simp at taken
    · next stays =>
      rw [if_neg stays]
      exact ih taken

structure Ready (reader : Reader) (fmt : RespFormat) : Prop where
  fmt : reader.fmt = fmt
  statebuf : reader.statebuf = []
  strlenPos : reader.strlenPos = none
  quotes : reader.quotes = 0

structure Stored (before after : Reader) (bytes : List UInt8) (datalen : Nat) : Prop where
  stream : after.stream = before.stream ++ bytes
  numParams : after.numParams = before.numParams + 1
  datalen : after.datalen = datalen
  strlenPos : after.strlenPos = none
  overflow : after.overflow = before.overflow
  nullWrite : after.nullWrite = before.nullWrite

def closes (fmt : RespFormat) (char : UInt8) : Bool :=
  isEndOfLine char || (char == 44 && fmt != .stringToEol)

/-- A reader inside a string or data buffer parameter that began at `reader`. -/
def holding (reader : Reader) (content : List UInt8) (quotes : UInt8) : Reader :=
  { reader with
    stream := reader.stream ++ [255, 255] ++ content
    strlenPos := some reader.stream.length
    strlen := content.length
    quotes := quotes }

theorem addDigit_eq (reader : Reader) (char : UInt8) :
    reader.addDigit char =
      if isNumeric char ∧ reader.statebuf.length < statebufSize then
        { reader with statebuf := reader.statebuf ++ [char] }
      else reader := by
  unfold addDigit isNumeric
  congr 1
  simp only [Bool.or_eq_true, decide_eq_true_eq, or_assoc]

def isIntegerFormat : RespFormat → Bool
  | .int8 | .int16 | .int32 | .datalen => true
  | _ => false

/-! ## Integers -/

theorem paramByte_integer (reader : Reader) (integer : isIntegerFormat reader.fmt = true)
    (char : UInt8) :
    reader.paramByte char =
      if char = 44 ∨ isEndOfLine char = true then (reader.closeInteger, true)
      else (reader.addDigit char, false) := by
  cases fmt : reader.fmt <;> simp_all [paramByte, skipsTrailingSpace, formatByte, isIntegerFormat]

theorem takeText_integer (reader : Reader) (integer : isIntegerFormat reader.fmt = true)
    (inner : text.all isInner = true) (short : reader.statebuf.length ≤ statebufSize) :
    reader.takeText text =
      some { reader with
        statebuf := (reader.statebuf ++ text.filter isNumeric).take statebufSize } := by
  induction text generalizing reader with
  | nil => simp [takeText, take_of_length_le short]
  | cons char rest ih =>
    obtain ⟨charInner, restInner⟩ : isInner char = true ∧ rest.all isInner = true := by
      simpa using inner
    have stays : ¬ (char = 44 ∨ isEndOfLine char = true) := by
      simpa [isInner] using charInner
    rw [takeText_cons rest
      ((paramByte_integer reader integer char).trans (if_neg stays)), addDigit_eq]
    by_cases numeric : isNumeric char = true
    · by_cases room : reader.statebuf.length < statebufSize
      · rw [if_pos ⟨numeric, room⟩, ih
          { reader with statebuf := reader.statebuf ++ [char] } integer restInner (by simpa)]
        simp [numeric]
      · rw [if_neg (fun both => room both.2), ih reader integer restInner short]
        have full : reader.statebuf.length = statebufSize := by omega
        simp [full]
    · rw [if_neg (fun both => numeric both.1),
        ih reader integer restInner short]
      simp [numeric]

theorem hasRoom_of_le {count : Nat} (room : reader.stream.length + count ≤ maxResponseStreamLen) :
    reader.hasRoom count = true := decide_eq_true room

theorem streamGetStrlenpos_eq_holding (room : reader.stream.length + 2 ≤ maxResponseStreamLen) :
    reader.streamGetStrlenpos = reader.holding [] reader.quotes := by
  rw [streamGetStrlenpos, if_pos (hasRoom_of_le room)]
  simp [holding]

theorem streamPutChar_holding (reader : Reader) (content : List UInt8) (quotes : UInt8)
    (room : reader.stream.length + 2 + content.length + 1 ≤ maxResponseStreamLen)
    (char : UInt8) :
    (reader.holding content quotes).streamPutChar char =
      reader.holding (content ++ [char]) quotes := by
  have fits : (reader.holding content quotes).stream.length + 1 ≤ maxResponseStreamLen := by
    simp only [holding, length_append, length_cons, length_nil]
    omega
  rw [streamPutChar, if_pos (hasRoom_of_le fits)]
  simp [holding]

theorem leBytes_two (length : Nat) :
    leBytes 2 (length : Int) =
      [UInt8.ofNat (length % 256), UInt8.ofNat (length / 256 % 256)] := by
  have low : ((length : Int) % 256).toNat = length % 256 := by omega
  have high : ((length : Int) / 256 % 256).toNat = length / 256 % 256 := by omega
  simp only [leBytes, low, high]

/-- A held string is closed to its encoding. -/
theorem closeString_holding (reader : Reader) (content : List UInt8) (quotes : UInt8)
    (room : reader.stream.length + (encodeString content).length ≤ maxResponseStreamLen) :
    (reader.holding content quotes).closeString =
      { reader with
        stream := reader.stream ++ encodeString content
        numParams := reader.numParams + 1
        strlenPos := none
        strlen := content.length
        quotes := quotes } := by
  have fits : reader.stream.length + (content.length + 1 + 1) + 1 ≤ maxResponseStreamLen := by
    simp only [encodeString, length_append, leBytes_length, length_singleton] at room
    omega
  simp [closeString, streamPut, hasRoom, holding, streamSetStrlen, encodeString, leBytes_two, fits]

/-- What a string has collected after more text: leading spaces are skipped. -/
def collected (content text : List UInt8) : List UInt8 :=
  if content = [] then text.dropWhile (· == 32) else content ++ text

def isStringFormat : RespFormat → Bool
  | .string | .stringToEol => true
  | _ => false

/-! ## Strings -/

theorem paramByte_string (isString : isStringFormat reader.fmt = true) (char : UInt8) :
    reader.paramByte char =
      if closes reader.fmt char then (reader.openString.closeString, true)
      else if char = 32 ∧ reader.openString.strlen = 0 then (reader.openString, false)
      else (reader.openString.streamPutChar char, false) := by
  cases fmt : reader.fmt with
  | string | stringToEol => simp [paramByte, skipsTrailingSpace, formatByte, fmt, closes]
  | _ => simp [isStringFormat, fmt] at isString

theorem collected_cons_space (content rest : List UInt8) (empty : content = []) :
    collected content (32 :: rest) = collected content rest := by
  simp [collected, empty]

theorem collected_cons {content : List UInt8} {char : UInt8} (kept : ¬ (char = 32 ∧ content = [])) :
    collected content (char :: rest) = collected (content ++ [char]) rest := by
  by_cases empty : content = []
  · have visible : char ≠ 32 := fun space => kept ⟨space, empty⟩
    simp [collected, empty, visible]
  · simp [collected, empty]

theorem takeText_string {content : List UInt8} {quotes : UInt8}
    (isString : isStringFormat reader.fmt = true) (sameFmt : start.fmt = reader.fmt)
    (opened : start.openString = reader.holding content quotes)
    (inside : ∀ char ∈ text, closes reader.fmt char = false)
    (room : reader.stream.length + (encodeString (collected content text)).length ≤
      maxResponseStreamLen) :
    ∃ held, start.takeText text = some held ∧ held.fmt = reader.fmt ∧
      held.openString = reader.holding (collected content text) quotes := by
  induction text generalizing start content with
  | nil =>
    have unchanged : collected content [] = content := by
      by_cases empty : content = [] <;> simp [collected, empty]
    exact ⟨start, rfl, sameFmt, by rw [unchanged, opened]⟩
  | cons char rest ih =>
    have stays : closes start.fmt char = false := by
      rw [sameFmt]
      exact inside char (by simp)
    have byte := paramByte_string (by rw [sameFmt]; exact isString) char
    rw [stays, if_neg Bool.false_ne_true, opened] at byte
    have restInside : ∀ later ∈ rest, closes reader.fmt later = false := by
      intro later member
      exact inside later (by simp [member])
    by_cases skipped : char = 32 ∧ content = []
    · obtain ⟨rfl, empty⟩ := skipped
      rw [if_pos ⟨rfl, by simp [holding, empty]⟩] at byte
      rw [takeText_cons rest byte, collected_cons_space content rest empty]
      rw [collected_cons_space content rest empty] at room
      exact ih rfl rfl restInside room
    · rw [if_neg (by simpa [holding] using skipped)] at byte
      rw [collected_cons rest skipped] at room ⊢
      have grows : content.length + 1 ≤ (collected (content ++ [char]) rest).length := by
        simp [collected]
      have fits : reader.stream.length + 2 + content.length + 1 ≤ maxResponseStreamLen := by
        simp only [encodeString, length_append, leBytes_length, length_singleton]
          at room
        omega
      rw [streamPutChar_holding reader content quotes fits] at byte
      rw [takeText_cons rest byte]
      exact ih rfl rfl restInside room

def isQuotedFormat : RespFormat → Bool
  | .quotedString | .quotedDatabuf => true
  | _ => false

theorem paramByte_quoted (reader : Reader) (isQuoted : isQuotedFormat reader.fmt = true)
    (char : UInt8) :
    reader.paramByte char =
      if reader.openQuoted.quotes = 2 ∧ char = 32 then (reader.openQuoted, false)
      else if reader.openQuoted.endsQuoted char (isEndOfLine char) then
        (reader.openQuoted.closeString, true)
      else (reader.openQuoted.addQuoted char, false) := by
  cases fmt : reader.fmt with
  | quotedString | quotedDatabuf => simp [paramByte, skipsTrailingSpace, formatByte, fmt]
  | _ => simp [isQuotedFormat, fmt] at isQuoted

theorem openQuoted_holding (reader : Reader) (content : List UInt8) (quotes : UInt8) :
    (reader.holding content quotes).openQuoted = reader.holding content quotes := rfl

theorem openQuoted_ready (ready : reader.Ready fmt)
    (room : reader.stream.length + 2 ≤ maxResponseStreamLen) :
    reader.openQuoted = reader.holding [] 0 := by
  simp only [openQuoted, ready.strlenPos, streamGetStrlenpos_eq_holding room]
  rfl

theorem paramByte_holding {content : List UInt8} {quotes : UInt8}
    (isQuoted : isQuotedFormat reader.fmt = true) {char : UInt8}
    (notSkipped : ¬ (quotes = 2 ∧ char = 32))
    (stays : (reader.holding content quotes).endsQuoted char (isEndOfLine char) = false) :
    (reader.holding content quotes).paramByte char =
      ((reader.holding content quotes).addQuoted char, false) := by
  have notEnded :
      ¬ (reader.holding content quotes).endsQuoted char (isEndOfLine char) = true := by
    simp [stays]
  have notHere : ¬ ((reader.holding content quotes).quotes = 2 ∧ char = 32) := notSkipped
  rw [paramByte_quoted (reader.holding content quotes) isQuoted, openQuoted_holding,
    if_neg notHere, if_neg notEnded]

section

variable (isQuoted : isQuotedFormat reader.fmt = true) (sameFmt : start.fmt = reader.fmt)
  (opened : start.openQuoted = reader.holding [] 0)
include isQuoted sameFmt opened

theorem takeText_beforeQuote (unquoted : text.all isUnquoted = true) :
    ∃ held, start.takeText text = some held ∧ held.fmt = reader.fmt ∧
      held.openQuoted = reader.holding [] 0 := by
  induction text generalizing start with
  | nil => exact ⟨start, rfl, sameFmt, opened⟩
  | cons char rest ih =>
    obtain ⟨charUnquoted, restUnquoted⟩ :
        isUnquoted char = true ∧ rest.all isUnquoted = true := by
      simpa using unquoted
    obtain ⟨⟨noComma, noEnd⟩, noQuote⟩ :
        (char ≠ 44 ∧ isEndOfLine char = false) ∧ char ≠ 34 := by
      simpa [isUnquoted, isInner] using charUnquoted
    have byte : start.paramByte char = (reader.holding [] 0, false) := by
      rw [paramByte_quoted start (by rw [sameFmt]; exact isQuoted), opened,
        if_neg (by simp [holding])]
      simp [endsQuoted, addQuoted, holding, noComma, noEnd, noQuote]
    rw [takeText_cons rest byte]
    exact ih rfl rfl restUnquoted

theorem paramByte_openingQuote : start.paramByte 34 = (reader.holding [] 1, false) := by
  have notEnd : isEndOfLine 34 = false := rfl
  rw [paramByte_quoted start (by rw [sameFmt]; exact isQuoted), opened, if_neg (by simp [holding])]
  simp [endsQuoted, addQuoted, holding, notEnd]

end

variable {content : List UInt8}

theorem takeText_quotedString (fmt : reader.fmt = .quotedString)
    (inside : text.all (fun char => char != 34 && !isEndOfLine char) = true)
    (room : reader.stream.length + 2 + (content ++ text).length ≤ maxResponseStreamLen) :
    (reader.holding content 1).takeText text = some (reader.holding (content ++ text) 1) := by
  induction text generalizing content with
  | nil => simp [takeText]
  | cons char rest ih =>
    obtain ⟨⟨noQuote, noEnd⟩, restInside⟩ :
        (char ≠ 34 ∧ isEndOfLine char = false) ∧
          rest.all (fun char => char != 34 && !isEndOfLine char) = true := by
      simpa using inside
    have room' : reader.stream.length + 2 + content.length + 1 ≤ maxResponseStreamLen := by
      simp only [length_append, length_cons] at room
      omega
    have byte : (reader.holding content 1).paramByte char =
        (reader.holding (content ++ [char]) 1, false) := by
      rw [paramByte_holding (by rw [fmt]; rfl) (by simp)
        (by simp [endsQuoted, holding, fmt, noEnd]),
          ← streamPutChar_holding reader content 1 room' char]
      simp [addQuoted, holding, fmt, noQuote]
    rw [takeText_cons rest byte, ih restInside (by simpa using room)]
    simp

theorem takeText_quotedDatabuf (fmt : reader.fmt = .quotedDatabuf) (pending : Nat)
    (room : reader.stream.length + 2 + (content ++ text).length ≤ maxResponseStreamLen) :
    ({ reader with datalen := pending + text.length }.holding content 1).takeText text =
      some ({ reader with datalen := pending }.holding (content ++ text) 1) := by
  induction text generalizing content with
  | nil => simp [takeText]
  | cons char rest ih =>
    have room' : reader.stream.length + 2 + content.length + 1 ≤ maxResponseStreamLen := by
      simp only [length_append, length_cons] at room
      omega
    have byte :
        ({ reader with datalen := pending + (char :: rest).length }.holding content
            1).paramByte char =
          ({ reader with datalen := pending + rest.length }.holding (content ++ [char]) 1,
            false) := by
      rw [paramByte_holding (by simp [fmt, isQuotedFormat]) (by simp)
        (by simp [endsQuoted, holding, fmt])]
      have put := streamPutChar_holding { reader with datalen := pending + rest.length } content 1
        room' char
      rw [← put]
      simp [addQuoted, holding, fmt]
    rw [takeText_cons rest byte, ih (by simpa using room)]
    simp

theorem paramByte_closingQuote (reader : Reader) (isQuoted : isQuotedFormat reader.fmt = true)
    (content : List UInt8) (done : reader.fmt = .quotedDatabuf → reader.datalen = 0) :
    (reader.holding content 1).paramByte 34 = (reader.holding content 2, false) := by
  have notEnd : isEndOfLine 34 = false := rfl
  cases fmt : reader.fmt with
  | quotedString =>
    rw [paramByte_holding isQuoted (by simp) (by simp [endsQuoted, holding, fmt, notEnd])]
    simp [addQuoted, holding, fmt]
  | quotedDatabuf =>
    rw [paramByte_holding isQuoted (by simp) (by simp [endsQuoted, holding, fmt])]
    simp [addQuoted, holding, fmt, done fmt]
  | _ => simp [isQuotedFormat, fmt] at isQuoted

theorem takeText_afterQuote (reader : Reader) (isQuoted : isQuotedFormat reader.fmt = true)
    (content : List UInt8) (spaces : text.all (· == 32) = true) :
    (reader.holding content 2).takeText text = some (reader.holding content 2) := by
  induction text with
  | nil => rfl
  | cons char rest ih =>
    obtain ⟨rfl, restSpaces⟩ : char = 32 ∧ rest.all (· == 32) = true := by simpa using spaces
    have byte : (reader.holding content 2).paramByte 32 = (reader.holding content 2, false) := by
      rw [paramByte_quoted (reader.holding content 2) isQuoted, openQuoted_holding,
        if_pos ⟨rfl, rfl⟩]
    rw [takeText_cons rest byte]
    exact ih restSpaces

theorem formatByte_integer (isInteger : isIntegerFormat reader.fmt = true) (char : UInt8)
    (endOfLine : Bool) :
    reader.formatByte char endOfLine =
      if char = 44 ∨ endOfLine = true then (reader.closeInteger, true)
      else (reader.addDigit char, false) := by
  cases fmt : reader.fmt <;> simp_all [isIntegerFormat, Reader.formatByte]

theorem formatByte_string (isString : isStringFormat reader.fmt = true) (char : UInt8)
    (endOfLine : Bool) :
    reader.formatByte char endOfLine =
      if endOfLine = true ∨ (reader.fmt = .string ∧ char = 44) then
        (reader.openString.closeString, true)
      else if char = 32 ∧ reader.openString.strlen = 0 then (reader.openString, false)
      else (reader.openString.streamPutChar char, false) := by
  cases fmt : reader.fmt <;> simp_all [isStringFormat, Reader.formatByte]

theorem formatByte_quoted (isQuoted : isQuotedFormat reader.fmt = true) (char : UInt8)
    (endOfLine : Bool) :
    reader.formatByte char endOfLine =
      if reader.openQuoted.endsQuoted char endOfLine = true then
        (reader.openQuoted.closeString, true)
      else (reader.openQuoted.addQuoted char, false) := by
  cases fmt : reader.fmt <;> simp_all [isQuotedFormat, Reader.formatByte]

theorem format_kinds (fmt : RespFormat) :
    isIntegerFormat fmt = true ∨ isStringFormat fmt = true ∨ isQuotedFormat fmt = true := by
  cases fmt <;> decide

theorem stored_closeString (content : List UInt8) (quotes : UInt8) (datalen : Nat)
    (room : reader.stream.length + (encodeString content).length ≤ maxResponseStreamLen) :
    reader.Stored ({ reader with datalen := datalen }.holding content quotes).closeString
      (encodeString content) datalen := by
  rw [closeString_holding { reader with datalen := datalen } content quotes room]
  exact ⟨rfl, rfl, rfl, rfl, rfl, rfl⟩

theorem takeParam_integer (integer : isIntegerFormat fmt = true) (ready : reader.Ready fmt)
    (inner : param.text.all isInner = true)
    (room : reader.stream.length + param.size fmt ≤ maxResponseStreamLen) :
    ∃ held, reader.takeText param.text = some held ∧ ∀ char, closes fmt char = true →
      ∃ after, held.paramByte char = (after, true) ∧
        reader.Stored after (encodeParam fmt (param.value fmt))
          (param.datalenAfter fmt reader.datalen) := by
  have isInteger : isIntegerFormat reader.fmt = true := by rw [ready.fmt]; exact integer
  let held : Reader :=
    { reader with
      statebuf := (reader.statebuf ++ param.text.filter isNumeric).take statebufSize }
  refine ⟨held, takeText_integer reader isInteger inner (by simp [ready.statebuf]), ?_⟩
  intro char ends
  have endsHere : char = 44 ∨ isEndOfLine char = true := by
    simp only [closes, Bool.or_eq_true, Bool.and_eq_true, beq_iff_eq] at ends
    rcases ends with endOfLine | ⟨comma, -⟩
    · exact Or.inr endOfLine
    · exact Or.inl comma
  refine ⟨_, (paramByte_integer held isInteger char).trans (if_pos endsHere), ?_⟩
  have digits : strtol (nullTerminated ((reader.statebuf ++ param.text.filter isNumeric).take
      statebufSize)) = param.number := by
    rw [ready.statebuf, nil_append, nullTerminated, take_take]
    rfl
  have fits : ∀ width : Nat, param.size fmt = width →
      reader.stream.length + width ≤ maxResponseStreamLen := by
    intro width size
    rw [← size]
    exact room
  have wrap (width : Nat) : leBytes width (toSigned (8 * width) param.number) =
      leBytes width param.number := leBytes_toSigned width param.number
  cases fmt with
  | int8 =>
    have enough := fits 1 (by simp [Param.size, Param.value, encodeParam, RespFormat.width])
    simp only [held, closeInteger, ready.fmt, digits, streamPut, hasRoom, leBytes_length,
      decide_eq_true enough, ↓reduceIte, Param.value, encodeParam, RespFormat.width, wrap]
    exact ⟨rfl, rfl, rfl, ready.strlenPos, rfl, rfl⟩
  | int16 =>
    have enough := fits 2 (by simp [Param.size, Param.value, encodeParam, RespFormat.width])
    simp only [held, closeInteger, ready.fmt, digits, streamPut, hasRoom, leBytes_length,
      decide_eq_true enough, ↓reduceIte, Param.value, encodeParam, RespFormat.width, wrap]
    exact ⟨rfl, rfl, rfl, ready.strlenPos, rfl, rfl⟩
  | int32 =>
    have enough := fits 4 (by simp [Param.size, Param.value, encodeParam, RespFormat.width])
    simp only [held, closeInteger, ready.fmt, digits, streamPut, hasRoom, leBytes_length,
      decide_eq_true enough, ↓reduceIte, Param.value, encodeParam, RespFormat.width, wrap]
    exact ⟨rfl, rfl, rfl, ready.strlenPos, rfl, rfl⟩
  | datalen =>
    simp only [held, closeInteger, ready.fmt, digits]
    exact ⟨(append_nil _).symm, rfl, rfl, ready.strlenPos, rfl, rfl⟩
  | _ => simp [isIntegerFormat] at integer

theorem takeParam_string (isString : isStringFormat fmt = true) (ready : reader.Ready fmt)
    (inside : ∀ char ∈ param.text, closes fmt char = false)
    (room : reader.stream.length + (encodeString (param.text.dropWhile (· == 32))).length ≤
      maxResponseStreamLen) :
    ∃ held, reader.takeText param.text = some held ∧ ∀ char, closes fmt char = true →
      ∃ after, held.paramByte char = (after, true) ∧
        reader.Stored after (encodeString (param.text.dropWhile (· == 32))) reader.datalen := by
  have isStringReader : isStringFormat reader.fmt = true := by rw [ready.fmt]; exact isString
  have roomForLength : reader.stream.length + 2 ≤ maxResponseStreamLen := by
    simp only [encodeString, length_append, leBytes_length] at room
    omega
  have opened : reader.openString = reader.holding [] reader.quotes := by
    simp only [openString, ready.strlenPos, streamGetStrlenpos_eq_holding roomForLength]
  have whole : collected [] param.text = param.text.dropWhile (· == 32) := if_pos rfl
  obtain ⟨held, taken, sameFmt, heldOpened⟩ := takeText_string isStringReader rfl opened
    (by rw [ready.fmt]; exact inside) (by rw [whole]; exact room)
  rw [whole] at heldOpened
  refine ⟨held, taken, ?_⟩
  intro char ends
  have closed : closes held.fmt char = true := by rw [sameFmt, ready.fmt]; exact ends
  refine ⟨_, (paramByte_string (by rw [sameFmt]; exact isStringReader) char).trans
    (if_pos closed), ?_⟩
  rw [heldOpened]
  exact stored_closeString _ _ reader.datalen room

theorem paramByte_closes_quoted (reader : Reader) {held : Reader}
    (isQuoted : isQuotedFormat reader.fmt = true) (sameFmt : held.fmt = reader.fmt) {quotes : UInt8}
    (outside : quotes ≠ 1) (opened : held.openQuoted = reader.holding content quotes) {char : UInt8}
    (ends : closes reader.fmt char = true) :
    held.paramByte char = ((reader.holding content quotes).closeString, true) := by
  have endsHere : isEndOfLine char = true ∨ char = 44 := by
    simp only [closes, Bool.or_eq_true, Bool.and_eq_true, beq_iff_eq] at ends
    rcases ends with endOfLine | ⟨comma, -⟩
    · exact Or.inl endOfLine
    · exact Or.inr comma
  have visible : char ≠ 32 := by
    rintro rfl
    exact absurd endsHere (by decide)
  rw [paramByte_quoted held (by rw [sameFmt]; exact isQuoted), opened,
    if_neg (fun skipped => visible skipped.2), if_pos]
  simp only [endsQuoted, holding]
  rcases endsHere with endOfLine | comma
  · simp [endOfLine, outside]
  · simp [comma, outside]

theorem takeParam_quoted (isQuoted : isQuotedFormat fmt = true) (ready : reader.Ready fmt)
    (valid : param.valid fmt reader.datalen = true)
    (room : reader.stream.length + (encodeString param.content).length ≤ maxResponseStreamLen) :
    ∃ held, reader.takeText param.text = some held ∧ ∀ char, closes fmt char = true →
      ∃ after, held.paramByte char = (after, true) ∧
        reader.Stored after (encodeString param.content)
          (param.datalenAfter fmt reader.datalen) := by
  have isQuotedReader : isQuotedFormat reader.fmt = true := by rw [ready.fmt]; exact isQuoted
  have roomForLength : reader.stream.length + 2 ≤ maxResponseStreamLen := by
    simp only [encodeString, length_append, leBytes_length] at room
    omega
  have opened := openQuoted_ready ready roomForLength
  cases param with
  | bare chars =>
    have unquoted : chars.all isUnquoted = true := by
      cases fmt <;> first | exact valid | simp [isQuotedFormat] at isQuoted
    have unchanged : (Param.bare chars).datalenAfter fmt reader.datalen = reader.datalen := by
      cases fmt <;> first | rfl | simp [isQuotedFormat] at isQuoted
    obtain ⟨held, taken, sameFmt, heldOpened⟩ :=
      takeText_beforeQuote isQuotedReader rfl opened unquoted
    refine ⟨held, taken, ?_⟩
    intro char ends
    refine ⟨_, paramByte_closes_quoted reader isQuotedReader sameFmt (by decide) heldOpened
      (by rw [ready.fmt]; exact ends), ?_⟩
    rw [unchanged]
    exact stored_closeString _ _ reader.datalen room
  | quoted before content after =>
    have parts : before.all isUnquoted = true ∧ after.all (· == 32) = true := by
      cases fmt with
      | quotedString | quotedDatabuf =>
        simp only [Param.valid, Bool.and_eq_true] at valid
        exact ⟨valid.1.1, valid.2⟩
      | _ => simp [isQuotedFormat] at isQuoted
    obtain ⟨front, frontTaken, frontFmt, frontOpened⟩ :=
      takeText_beforeQuote isQuotedReader rfl opened parts.1
    have quote := paramByte_openingQuote isQuotedReader frontFmt frontOpened
    have roomForContent : reader.stream.length + 2 + ([] ++ content).length ≤
        maxResponseStreamLen := by
      simp only [encodeString, Param.content, length_append, leBytes_length,
        length_nil] at room ⊢
      omega
    -- The reader after the content, with its data length used up.
    let rest : Reader :=
      { reader with
        datalen := (Param.quoted before content after).datalenAfter fmt reader.datalen }
    have filled : (reader.holding [] 1).takeText content = some (rest.holding content 1) := by
      cases fmt with
      | quotedString =>
        have inside : content.all (fun char => char != 34 && !isEndOfLine char) = true := by
          simp_all [Param.valid]
        simpa [rest, Param.datalenAfter] using
          takeText_quotedString ready.fmt inside roomForContent
      | quotedDatabuf =>
        have announced : content.length = reader.datalen := by simp_all [Param.valid]
        have taken := takeText_quotedDatabuf ready.fmt 0 roomForContent
        rw [zero_add, announced] at taken
        have nothing : rest = { reader with datalen := 0 } := by
          simp [rest, Param.datalenAfter, Param.content, announced]
        rw [nothing]
        exact taken
      | _ => simp [isQuotedFormat] at isQuoted
    have used : rest.fmt = .quotedDatabuf → rest.datalen = 0 := by
      intro isDatabuf
      have databuf : fmt = .quotedDatabuf := by rw [← ready.fmt]; exact isDatabuf
      subst databuf
      have announced : content.length = reader.datalen := by simp_all [Param.valid]
      simp [rest, Param.datalenAfter, Param.content, announced]
    have closing := paramByte_closingQuote rest isQuotedReader content used
    refine ⟨rest.holding content 2, ?_, ?_⟩
    · rw [Param.text, takeText_append _ frontTaken, takeText_cons _ quote,
        takeText_append _ filled, takeText_cons _ closing]
      exact takeText_afterQuote rest isQuotedReader content parts.2
    · intro char ends
      have endsHere : closes rest.fmt char = true := by
        rw [show rest.fmt = fmt from ready.fmt]
        exact ends
      have outside : (2 : UInt8) ≠ 1 := by decide
      have sameFmt : (rest.holding content 2).fmt = rest.fmt := rfl
      refine ⟨_, paramByte_closes_quoted rest isQuotedReader sameFmt outside
        (openQuoted_holding rest content 2) endsHere, ?_⟩
      exact stored_closeString _ _ _ room

/-- Each valid parameter is stored under its encoding, whatever its format. -/
theorem takeParam (ready : reader.Ready fmt) (valid : param.valid fmt reader.datalen = true)
    (room : reader.stream.length + param.size fmt ≤ maxResponseStreamLen) :
    ∃ held, reader.takeText param.text = some held ∧ ∀ char, closes fmt char = true →
      ∃ after, held.paramByte char = (after, true) ∧
        reader.Stored after (encodeParam fmt (param.value fmt))
          (param.datalenAfter fmt reader.datalen) := by
  have innerOpen : ∀ text : List UInt8, text.all isInner = true →
      ∀ char ∈ text, closes .string char = false := by
    intro text inner char member
    have charInner := all_eq_true.mp inner char member
    simp_all [isInner, closes]
  cases fmt with
  | int8 | int16 | int32 | datalen => exact takeParam_integer rfl ready valid room
  | string => exact takeParam_string rfl ready (innerOpen _ valid) room
  | stringToEol =>
    refine takeParam_string rfl ready ?_ room
    intro char member
    have inner := all_eq_true.mp valid char member
    simp_all [closes]
  | quotedString | quotedDatabuf => exact takeParam_quoted rfl ready valid room

end Reader

end Thingsee.Modem
