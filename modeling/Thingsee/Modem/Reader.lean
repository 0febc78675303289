import Thingsee.Modem.Types
import Thingsee.Support.Decimal

/-!
Owns the parameter sub-state machine of
`apps/system/ubmodem/ubmodem_parser.c`: the response stream with its put
functions, and the `switch` of `parse_parameter_byte`.

* A byte list models each buffer together with its position: `statebuf` is
  `statebuf[0..statebufpos)` and `stream` is `stream.buf[0..stream.pos)`. Bytes
  at or above the position are never seen before they are written again.
* `strlenPos` is the pointer `param.stream_strlen_pos`, as an index.
* `overflow` and `nullWrite` are no members of the source: whether a put into
  the stream failed for lack of space, and whether a string length was written
  through a null pointer.

The debug assertions of the source are compiled out.
-/

namespace Thingsee.Modem

open Support

def maxResponseStreamLen : Nat := 1024 + 32

/-- The members of `struct at_parser_s` that the parameter parser works on: the
state buffer, `param`, `stream`, and `num_params` and `datalen` of `response`. -/
structure Reader where
  statebuf : List UInt8
  strlenPos : Option Nat
  strlen : Nat
  fmt : RespFormat
  quotes : UInt8
  stream : List UInt8
  numParams : Nat
  datalen : Nat
  overflow : Bool
  nullWrite : Bool

def Reader.zeroed : Reader where
  statebuf := []
  strlenPos := none
  strlen := 0
  fmt := .int8
  quotes := 0
  stream := []
  numParams := 0
  datalen := 0
  overflow := false
  nullWrite := false

/-- The string `null_terminate_buf` leaves in a full or partly filled
`statebuf`. -/
def nullTerminated (statebuf : List UInt8) : List UInt8 := statebuf.take (statebufSize - 1)

namespace Reader

/-- Whether `count` more bytes fit the stream. -/
def hasRoom (reader : Reader) (count : Nat) : Bool :=
  decide (reader.stream.length + count ≤ maxResponseStreamLen)

/-- `modem_stream_put_int8`, `_int16` and `_int32`: the bytes are added whole or
not at all. -/
def streamPut (reader : Reader) (bytes : List UInt8) : Reader :=
  if reader.hasRoom bytes.length then { reader with stream := reader.stream ++ bytes }
  else { reader with overflow := true }

/-- `modem_stream_get_strlenpos` with the place holder it writes, and the reset
of `param.strlen` that follows each call. -/
def streamGetStrlenpos (reader : Reader) : Reader :=
  if reader.hasRoom 2 then
    { reader with
      stream := reader.stream ++ [255, 255]
      strlenPos := some reader.stream.length
      strlen := 0 }
  else { reader with overflow := true, strlen := 0 }

/-- Adds one character to the current string and counts it if it fitted. -/
def streamPutChar (reader : Reader) (char : UInt8) : Reader :=
  if reader.hasRoom 1 then
    { reader with stream := reader.stream ++ [char], strlen := reader.strlen + 1 }
  else { reader with overflow := true }

def streamSetStrlen (reader : Reader) : Reader :=
  match reader.strlenPos with
  | some position =>
    { reader with
      stream := (reader.stream.set position (UInt8.ofNat (reader.strlen % 256))).set
        (position + 1) (UInt8.ofNat (reader.strlen / 256 % 256)) }
  | none => { reader with nullWrite := true }

/-- The reset of parameter count and stream in front of a parameter line. -/
def beginParams (reader : Reader) : Reader := { reader with numParams := 0, stream := [] }

def streamReset (reader : Reader) : Reader := { reader with stream := [] }

def clearParam (reader : Reader) : Reader :=
  { reader with statebuf := [], strlenPos := none, strlen := 0, fmt := .int8, quotes := 0 }

/-- The end of an integer parameter: the collected digits are stored in the
width of the format, or kept as data length. -/
def closeInteger (reader : Reader) : Reader :=
  let reader := { reader with numParams := reader.numParams + 1 }
  let value := strtol (nullTerminated reader.statebuf)
  match reader.fmt with
  | .int8 => reader.streamPut (leBytes 1 value)
  | .int16 => reader.streamPut (leBytes 2 value)
  | .int32 => reader.streamPut (leBytes 4 value)
  | .datalen => { reader with datalen := (value % 65536).toNat }
  | _ => reader

/-- One character of an integer parameter that does not end it. -/
def addDigit (reader : Reader) (char : UInt8) : Reader :=
  if (char = 45 ∨ char = 43 ∨ isDigit char) ∧ reader.statebuf.length < statebufSize then
    { reader with statebuf := reader.statebuf ++ [char] }
  else reader

/-- The end of a string or data buffer parameter: a null character is added and
the length is filled in. -/
def closeString (reader : Reader) : Reader :=
  let reader := { reader with numParams := reader.numParams + 1 }
  { (reader.streamPut [0]).streamSetStrlen with strlenPos := none }

/-- The start of a string parameter, when its length has no place yet. -/
def openString (reader : Reader) : Reader :=
  match reader.strlenPos with
  | some _ => reader
  | none => reader.streamGetStrlenpos

/-- The start of a quoted parameter, when its length has no place yet. -/
def openQuoted (reader : Reader) : Reader :=
  match reader.strlenPos with
  | some _ => reader
  | none => { reader.streamGetStrlenpos with quotes := 0 }

/-- `end_of_param` of a quoted parameter. A data buffer ends only outside of its
quotes, a quoted string also where the line ends. -/
def endsQuoted (reader : Reader) (char : UInt8) (endOfLine : Bool) : Bool :=
  if reader.fmt = .quotedString then
    endOfLine || (reader.quotes != 1 && char == 44)
  else reader.quotes != 1 && (endOfLine || char == 44)

def addQuoted (reader : Reader) (char : UInt8) : Reader :=
  if reader.quotes = 0 then
    if char = 34 then { reader with quotes := 1 } else reader
  else if reader.fmt = .quotedString then
    if char = 34 then { reader with quotes := reader.quotes + 1 } else reader.streamPutChar char
  else if reader.datalen = 0 then
    if char = 34 then { reader with quotes := reader.quotes + 1 } else reader
  else { reader with datalen := reader.datalen - 1 }.streamPutChar char

/-- The `switch` of `parse_parameter_byte`: the reader after it, and whether the
parameter has ended. -/
def formatByte (reader : Reader) (char : UInt8) (endOfLine : Bool) : Reader × Bool :=
  match reader.fmt with
  | .int8 | .int16 | .int32 | .datalen =>
    if char = 44 ∨ endOfLine then (reader.closeInteger, true)
    else (reader.addDigit char, false)
  | .string | .stringToEol =>
    let reader := reader.openString
    if endOfLine ∨ (reader.fmt = .string ∧ char = 44) then (reader.closeString, true)
    else if char = 32 ∧ reader.strlen = 0 then (reader, false)
    else (reader.streamPutChar char, false)
  | .quotedString | .quotedDatabuf =>
    let reader := reader.openQuoted
    if reader.endsQuoted char endOfLine then (reader.closeString, true)
    else (reader.addQuoted char, false)

/-- Whether `parse_parameter_byte` returns early: a space after the closing
quote of a quoted parameter. -/
def skipsTrailingSpace (reader : Reader) (char : UInt8) : Bool :=
  (reader.fmt == .quotedString || reader.fmt == .quotedDatabuf) &&
    reader.openQuoted.quotes == 2 && char == 32

@[simp] theorem streamPut_frame (reader : Reader) (bytes : List UInt8) :
    (reader.streamPut bytes).fmt = reader.fmt ∧
      (reader.streamPut bytes).numParams = reader.numParams ∧
      (reader.streamPut bytes).datalen = reader.datalen := by
  unfold streamPut
  split <;> exact ⟨rfl, rfl, rfl⟩

@[simp] theorem streamPutChar_frame (reader : Reader) (char : UInt8) :
    (reader.streamPutChar char).fmt = reader.fmt ∧
      (reader.streamPutChar char).numParams = reader.numParams ∧
      (reader.streamPutChar char).datalen = reader.datalen := by
  unfold streamPutChar
  split <;> exact ⟨rfl, rfl, rfl⟩

@[simp] theorem streamSetStrlen_frame (reader : Reader) :
    reader.streamSetStrlen.fmt = reader.fmt ∧
      reader.streamSetStrlen.numParams = reader.numParams ∧
      reader.streamSetStrlen.datalen = reader.datalen := by
  unfold streamSetStrlen
  split <;> exact ⟨rfl, rfl, rfl⟩

@[simp] theorem streamGetStrlenpos_frame (reader : Reader) :
    reader.streamGetStrlenpos.fmt = reader.fmt ∧
      reader.streamGetStrlenpos.numParams = reader.numParams ∧
      reader.streamGetStrlenpos.datalen = reader.datalen := by
  unfold streamGetStrlenpos
  split <;> exact ⟨rfl, rfl, rfl⟩

@[simp] theorem openString_frame (reader : Reader) :
    reader.openString.fmt = reader.fmt ∧
      reader.openString.numParams = reader.numParams ∧
      reader.openString.datalen = reader.datalen := by
  unfold openString
  split <;> simp

@[simp] theorem openQuoted_frame (reader : Reader) :
    reader.openQuoted.fmt = reader.fmt ∧
      reader.openQuoted.numParams = reader.numParams ∧
      reader.openQuoted.datalen = reader.datalen := by
  unfold openQuoted
  split <;> simp

@[simp] theorem closeString_frame (reader : Reader) :
    reader.closeString.fmt = reader.fmt ∧
      reader.closeString.numParams = reader.numParams + 1 ∧
      reader.closeString.datalen = reader.datalen := by
  simp [closeString]

@[simp] theorem closeInteger_frame (reader : Reader) :
    reader.closeInteger.fmt = reader.fmt ∧
      reader.closeInteger.numParams = reader.numParams + 1 := by
  simp only [closeInteger]
  split <;> simp

@[simp] theorem addDigit_frame (reader : Reader) (char : UInt8) :
    (reader.addDigit char).fmt = reader.fmt ∧
      (reader.addDigit char).numParams = reader.numParams ∧
      (reader.addDigit char).datalen = reader.datalen := by
  unfold addDigit
  split <;> exact ⟨rfl, rfl, rfl⟩

@[simp] theorem addQuoted_frame (reader : Reader) (char : UInt8) :
    (reader.addQuoted char).fmt = reader.fmt ∧
      (reader.addQuoted char).numParams = reader.numParams := by
  unfold addQuoted
  split
  · split <;> exact ⟨rfl, rfl⟩
  · split
    · split <;> simp
    · split
      · split <;> exact ⟨rfl, rfl⟩
      · simp

theorem formatByte_frame (reader : Reader) (char : UInt8) (endOfLine : Bool) :
    (reader.formatByte char endOfLine).1.fmt = reader.fmt ∧
      (reader.formatByte char endOfLine).1.numParams =
        reader.numParams + (reader.formatByte char endOfLine).2.toNat := by
  cases fmt : reader.fmt <;> simp only [formatByte, fmt]
  all_goals split
  all_goals first | simp [fmt] | (split <;> simp [fmt])

end Reader

end Thingsee.Modem
