import Thingsee.Support.Radix

/-!
Owns the entries of the engine logs (log.c, value.c): the payload of an event, the
line that `serialize_payload` writes of it and `deserialize_payload` of a line.

Memory is always there. Left out are the values that are doubles or hexadecimal
strings, arrays inside arrays, and arrays with a string in front: the reader has no
defined result for them here.
-/

namespace Thingsee.Logs

open Support

/-- A value that is no array. -/
inductive Scalar where
  | uint16 (number : UInt16)
  | uint32 (number : UInt32)
  | int16 (number : Int16)
  | int32 (number : Int32)
  | string (text : List UInt8)
  | bool (flag : Bool)

/-- `struct ts_value`. -/
inductive Value where
  | scalar (scalar : Scalar)
  | array (items : List Scalar)

/-- `struct timespec`. -/
structure Timespec where
  sec : UInt32
  nsec : Int32

/-- `struct ts_sense_value`. -/
structure Sense where
  name : List UInt8
  sId : UInt32
  value : Value
  ts : Timespec

/-- `struct ts_ids`. -/
structure Ids where
  pId : List UInt8
  puId : Int32
  stId : Int32
  evId : Int32
  ts : Timespec

/-- `struct ts_payload`. -/
structure Payload where
  state : Ids
  senses : List Sense

/-- `g_true_str` and `g_false_str`. -/
def boolText : Bool → List UInt8
  | true => [116, 114, 117, 101]
  | false => [102, 97, 108, 115, 101]

def Scalar.valuetype : Scalar → Int
  | .uint16 _ => 1
  | .uint32 _ => 2
  | .int16 _ => 3
  | .int32 _ => 4
  | .string _ => 5
  | .bool _ => 7

def Scalar.print : Scalar → List UInt8
  | .uint16 number => decimal number.toNat
  | .uint32 number => decimal number.toNat
  | .int16 number => decimal number.toInt
  | .int32 number => decimal number.toInt
  | .string text => text
  | .bool flag => boolText flag

def printType (valuetype : Int) : List UInt8 := decimal valuetype ++ [58]

/-- `snprintf` behind the text that a buffer of `size` characters already holds. -/
def append (size : Nat) (buffer text : List UInt8) : List UInt8 :=
  buffer ++ snprintf (size - buffer.length) text

/-- `__value_serialize` of a scalar. -/
def serializeScalar (size : Nat) (buffer : List UInt8) (scalar : Scalar) : List UInt8 :=
  append size (append size buffer (printType scalar.valuetype)) scalar.print

/-- The items of an array: a space behind each, and a bracket behind the last. -/
def serializeItems (size : Nat) (buffer : List UInt8) : List Scalar → List UInt8
  | [] => buffer
  | [item] => append size (serializeScalar size buffer item) [32, 93]
  | item :: next :: rest =>
    serializeItems size (append size (serializeScalar size buffer item) [32]) (next :: rest)

def valueSerialize (size : Nat) : Value → List UInt8
  | .scalar scalar => serializeScalar size [] scalar
  | .array items =>
    serializeItems size (append size (append size [] (printType 6)) [91, 32]) items

def field (number : Int) : List UInt8 := 44 :: decimal number

def Timespec.print (ts : Timespec) : List UInt8 :=
  field (toSigned 32 ts.sec.toNat) ++ field ts.nsec.toInt

def Ids.print (state : Ids) : List UInt8 :=
  state.pId ++ (field state.puId.toInt ++ (field state.stId.toInt ++
    (field state.evId.toInt ++ state.ts.print)))

def Sense.print (sense : Sense) (valuebuf : List UInt8) : List UInt8 :=
  sense.name ++ 44 :: ((48 :: 120 :: hexDigits 8 sense.sId.toNat) ++ 44 :: (valuebuf ++
    sense.ts.print))

/-- The `retry` loop of `serialize_payload`: the size of the buffer and its text. -/
def serializeSense (text : List UInt8) (size : Nat) (buffer : List UInt8) :
    Nat × List UInt8 :=
  let entry := append size buffer text
  if entry.length = size - 1 then serializeSense text (size + 64) buffer
  else (size, entry)
termination_by buffer.length + text.length + 2 - size
decreasing_by
  rename_i full
  simp only [entry, append, snprintf, List.length_append, List.length_take] at full
  omega

/-- `serialize_payload`: the size of the buffer and what is stored in it. -/
def serializePayload (payload : Payload) : Nat × List UInt8 :=
  let entry := payload.senses.foldl
    (fun entry sense =>
      serializeSense (59 :: sense.print (valueSerialize 128 sense.value)) entry.1 entry.2)
    (512, append 512 [] payload.state.print)
  (entry.1, entry.2 ++ [10, 0])

/-- Why a line has no payload: the reader refuses it, it stores more than one of its
buffers holds, or the value that it stores is not defined. -/
inductive Failure where
  | rejected
  | overrun
  | undefined

def readType (text : List UInt8) : Except Failure (Int × List UInt8) :=
  match vsscanf [.int, .char 58] text with
  | some [.number valuetype] =>
    if 58 ∈ text then .ok (valuetype, text.drop (text.idxOf 58 + 1)) else .error .undefined
  | _ => .error .undefined

def readScalar (valuetype : Int) (text : List UInt8) : Except Failure Scalar :=
  if valuetype = 7 then .ok (.bool (decide (text = boolText true)))
  else if valuetype = 5 then .ok (.string text)
  else if valuetype = 3 then .ok (.int16 (Int16.ofInt (signedOf (strtoul 0) text)))
  else if valuetype = 1 then
    .ok (.uint16 (UInt16.ofNat (strtoul 0 (text.dropWhile isSpace))))
  else if valuetype = 4 then .ok (.int32 (Int32.ofInt (signedOf (strtoul 0) text)))
  else if valuetype = 2 then
    .ok (.uint32 (UInt32.ofNat (strtoul 0 (text.dropWhile isSpace))))
  else .error .undefined

/-- `__value_deserialize` of an item. -/
def deserializeScalar (text : List UInt8) : Except Failure Scalar :=
  match readType text with
  | .ok (valuetype, rest) => readScalar valuetype rest
  | .error failure => .error failure

def itemTokens (text : List UInt8) : List (List UInt8) :=
  (strtok 32 text).takeWhile (fun token => decide (token.head? ≠ some 93))

def valueDeserialize (text : List UInt8) : Except Failure Value :=
  match readType text with
  | .ok (valuetype, rest) =>
    if valuetype = 6 then
      if rest.take 2 = [91, 32] then
        ((itemTokens (rest.drop 2)).mapM deserializeScalar).map .array
      else .error .undefined
    else (readScalar valuetype rest).map .scalar
  | .error failure => .error failure

/-- `"%s,%d,%d,%d,%d,%d"` into a buffer of 32 characters. -/
def stateFormat : List Directive :=
  [.string 32, .char 44, .int, .char 44, .int, .char 44, .int, .char 44, .int, .char 44, .int]

/-- `"%s,%s,%s,%d,%d"` into buffers of 32 characters. -/
def causeFormat : List Directive :=
  [.string 32, .char 44, .string 32, .char 44, .string 32, .char 44, .int, .char 44, .int]

def deserializeState (text : List UInt8) : Except Failure Ids :=
  match vsscanf stateFormat text with
  | none => .error .overrun
  | some [.text pId, .number puId, .number stId, .number evId, .number sec, .number nsec] =>
    .ok { pId := pId, puId := Int32.ofInt puId, stId := Int32.ofInt stId,
          evId := Int32.ofInt evId, ts := ⟨UInt32.ofInt sec, Int32.ofInt nsec⟩ }
  | some _ => .error .rejected

def deserializeCause (text : List UInt8) : Except Failure Sense :=
  match vsscanf causeFormat text with
  | none => .error .overrun
  | some [.text name, .text idBuf, .text valueBuf, .number sec, .number nsec] =>
    (valueDeserialize valueBuf).map (fun value =>
      { name := name, sId := UInt32.ofInt (signedOf strtoulHex idBuf), value := value,
        ts := ⟨UInt32.ofInt sec, Int32.ofInt nsec⟩ })
  | some _ => .error .rejected

def deserializePayload (line : List UInt8) : Except Failure Payload :=
  match deserializeState ((strtok 59 line).headD line) with
  | .ok state => ((strtok 59 line).tail.mapM deserializeCause).map (fun senses => ⟨state, senses⟩)
  | .error failure => .error failure

end Thingsee.Logs
