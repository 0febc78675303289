import Thingsee.Modem.Types
import Thingsee.Support.LittleEndian

/-!
Owns the binary stream a handler is given: how parameter values are encoded in
it, and the `__ubmodem_stream_get_*` readers of
`apps/system/ubmodem/ubmodem_parser.h`.

`readParams_encodeParams` is the round trip between both. Does not own how the
parser fills the stream.
-/

namespace Thingsee.Modem

open Support List

/-- A parameter value: an integer, or the bytes of a string or data buffer. -/
inductive Value where
  | integer (number : Int)
  | bytes (content : List UInt8)
deriving DecidableEq

def RespFormat.width : RespFormat → Nat
  | .int8 => 1
  | .int16 => 2
  | .int32 => 4
  | _ => 0

/-- What kind of value a format holds, and in which range. A data length is kept
in a 16 bit field, and so is the length of a string. -/
def Value.Fits : RespFormat → Value → Prop
  | .int8, .integer number => toSigned 8 number = number
  | .int16, .integer number => toSigned 16 number = number
  | .int32, .integer number => toSigned 32 number = number
  | .datalen, .integer number => 0 ≤ number ∧ number < 65536
  | .string, .bytes content | .stringToEol, .bytes content
  | .quotedString, .bytes content | .quotedDatabuf, .bytes content => content.length < 65536
  | _, _ => False

/-- The bytes of a string in the stream: its length, its content and a null
character. -/
def encodeString (content : List UInt8) : List UInt8 :=
  leBytes 2 content.length ++ content ++ [0]

/-- The bytes of one parameter in the stream. A data length has none. -/
def encodeParam (fmt : RespFormat) : Value → List UInt8
  | .integer number => leBytes fmt.width number
  | .bytes content => encodeString content

/-- The concatenation of the encodings of a list of parameters. -/
def encodeParams : List RespFormat → List Value → List UInt8
  | fmt :: formats, value :: values => encodeParam fmt value ++ encodeParams formats values
  | _, _ => []

/-- The values a handler can read back: all but the data lengths. -/
def storedValues : List RespFormat → List Value → List Value
  | .datalen :: formats, _ :: values => storedValues formats values
  | _ :: formats, value :: values => value :: storedValues formats values
  | _, _ => []

/-- `__ubmodem_stream_get_int8`, `_int16` and `_int32`, by their width. -/
def streamGetInt (width : Nat) (stream : List UInt8) : Option (Int × List UInt8) :=
  if stream.length < width then none
  else some (toSigned (8 * width) (leValue (stream.take width)), stream.drop width)

def streamGetInt8 : List UInt8 → Option (Int × List UInt8) := streamGetInt 1

def streamGetInt16 : List UInt8 → Option (Int × List UInt8) := streamGetInt 2

def streamGetInt32 : List UInt8 → Option (Int × List UInt8) := streamGetInt 4

/-- `__ubmodem_stream_get_string`: the length is read into an unsigned 16 bit
variable. -/
def streamGetString (stream : List UInt8) : Option (List UInt8 × List UInt8) :=
  match streamGetInt16 stream with
  | none => none
  | some (length, rest) =>
    let slen := (length % 65536).toNat
    if rest.length < slen + 1 then none else some (rest.take slen, rest.drop (slen + 1))

def readParam (fmt : RespFormat) (stream : List UInt8) : Option (Value × List UInt8) :=
  match fmt with
  | .int8 => (streamGetInt8 stream).map (fun result => (.integer result.1, result.2))
  | .int16 => (streamGetInt16 stream).map (fun result => (.integer result.1, result.2))
  | .int32 => (streamGetInt32 stream).map (fun result => (.integer result.1, result.2))
  | _ => (streamGetString stream).map (fun result => (.bytes result.1, result.2))

/-- Reading a list of parameters one after the other. Nothing is read for a data
length. -/
def readParams : List RespFormat → List UInt8 → Option (List Value × List UInt8)
  | [], stream => some ([], stream)
  | .datalen :: formats, stream => readParams formats stream
  | fmt :: formats, stream => do
      let (value, rest) ← readParam fmt stream
      let (values, rest) ← readParams formats rest
      pure (value :: values, rest)

theorem streamGetInt_leBytes (width : Nat) (number : Int) (rest : List UInt8)
    (fits : toSigned (8 * width) number = number) :
    streamGetInt width (leBytes width number ++ rest) = some (number, rest) := by
  have enough : ¬ (leBytes width number ++ rest).length < width := by
    rw [length_append, leBytes_length]
    omega
  rw [streamGetInt, if_neg enough, take_append_of_le_length (by simp),
    drop_append_of_le_length (by simp), take_of_length_le (by simp),
    drop_of_length_le (by simp), toSigned_leValue_leBytes, fits, nil_append]

theorem streamGetString_encodeString {content : List UInt8} (short : content.length < 65536)
    (rest : List UInt8) :
    streamGetString (encodeString content ++ rest) = some (content, rest) := by
  have length : streamGetInt16 (encodeString content ++ rest) =
      some (toSigned 16 content.length, content ++ [0] ++ rest) := by
    have wraps : leBytes 2 (content.length : Int) = leBytes 2 (toSigned 16 content.length) :=
      (leBytes_toSigned 2 content.length).symm
    have idempotent : toSigned (8 * 2) (toSigned 16 (content.length : Int)) =
        toSigned 16 content.length := Int.bmod_bmod
    rw [encodeString, append_assoc, append_assoc, wraps, streamGetInt16,
      streamGetInt_leBytes 2 _ _ idempotent, append_assoc]
  have slen : (toSigned 16 (content.length : Int) % 65536).toNat = content.length := by
    have wrapped : toSigned 16 (content.length : Int) % 65536 = (content.length : Int) % 65536 := by
      have := Int.bmod_emod (x := (content.length : Int)) (m := 65536)
      simpa [toSigned] using this
    rw [wrapped]
    omega
  have enough : ¬ (content ++ [0] ++ rest).length < content.length + 1 := by
    simp only [length_append, length_singleton]
    omega
  simp only [streamGetString, length, slen, if_neg enough]
  simp [append_assoc, drop_append]

theorem readParam_encodeParam {fmt : RespFormat} {value : Value} (fits : Value.Fits fmt value)
    (stored : fmt ≠ .datalen) (rest : List UInt8) :
    readParam fmt (encodeParam fmt value ++ rest) = some (value, rest) := by
  cases value with
  | integer number =>
    cases fmt <;> simp only [Value.Fits, ne_eq, not_true_eq_false] at fits stored
    · simp [readParam, encodeParam, RespFormat.width, streamGetInt8,
        streamGetInt_leBytes 1 number rest fits]
    · simp [readParam, encodeParam, RespFormat.width, streamGetInt16,
        streamGetInt_leBytes 2 number rest fits]
    · simp [readParam, encodeParam, RespFormat.width, streamGetInt32,
        streamGetInt_leBytes 4 number rest fits]
  | bytes content =>
    cases fmt <;> simp only [Value.Fits] at fits <;>
      simp [readParam, encodeParam, streamGetString_encodeString fits rest]

theorem readParams_encodeParams {formats : List RespFormat} {values : List Value}
    (fits : List.Forall₂ Value.Fits formats values) (rest : List UInt8) :
    readParams formats (encodeParams formats values ++ rest) =
      some (storedValues formats values, rest) := by
  induction fits with
  | nil => rfl
  | @cons fmt value formats values head tail ih =>
    by_cases isLength : fmt = .datalen
    · subst isLength
      cases value with
      | integer number =>
        simpa [readParams, storedValues, encodeParams, encodeParam, RespFormat.width, leBytes]
          using ih
      | bytes content => exact absurd head id
    · have first := readParam_encodeParam head isLength (encodeParams formats values ++ rest)
      have unfoldRead : readParams (fmt :: formats) (encodeParams (fmt :: formats)
            (value :: values) ++ rest) =
          (readParam fmt (encodeParam fmt value ++ (encodeParams formats values ++ rest))).bind
            (fun result => (readParams formats result.2).bind
              (fun tail => some (result.1 :: tail.1, tail.2))) := by
        rw [encodeParams, append_assoc]
        cases fmt <;> first | rfl | exact absurd rfl isLength
      have unfoldStored : storedValues (fmt :: formats) (value :: values) =
          value :: storedValues formats values := by
        cases fmt <;> first | rfl | exact absurd rfl isLength
      rw [unfoldRead, first, unfoldStored]
      simp [ih]

end Thingsee.Modem
