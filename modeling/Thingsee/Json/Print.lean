import Thingsee.Json.Items
import Thingsee.Support.Decimal

/-!
Owns the printing of JSON trees, from `apps/netutils/json/cJSON_stream_print.c`: the text of each
item, and the two passes of `cJSON_Print_String`, the first of which only counts.
-/

namespace Thingsee.Json

open Support

universe u

/-- A digit of `%x`. -/
def hexDigit (digit : Nat) : UInt8 := UInt8.ofNat (if digit < 10 then 48 + digit else 87 + digit)

/-- What `stream_print_string_ptr` puts behind the backslash. -/
def escapeText (token : UInt8) : List UInt8 :=
  if token = 92 then [92]
  else if token = 34 then [34]
  else if token = 8 then [98]
  else if token = 12 then [102]
  else if token = 10 then [110]
  else if token = 13 then [114]
  else if token = 9 then [116]
  else [117, 48, 48, hexDigit (token.toNat / 16), hexDigit (token.toNat % 16)]

/-- What `stream_print_string_ptr` puts for a character. -/
def charText (char : UInt8) : List UInt8 :=
  if 31 < char ∧ char ≠ 34 ∧ char ≠ 92 then [char] else 92 :: escapeText char

def streamPrintStringPtr (text : List UInt8) : List UInt8 := 34 :: text.flatMap charText ++ [34]

section Print

variable {D : Type u} (doubles : Doubles D)

def streamPrintNumber (stored : Number D) : List UInt8 :=
  let d := stored.valueDouble doubles
  let intD := stored.valueInt doubles
  if intD = 0 ∧ doubles.equal d (doubles.ofInt 0) then
    if doubles.signBit d then [45, 48, 46, 48] else [48]
  else if intD ≠ 0 ∧ doubles.isInt d ∧ doubles.dblEqual d (doubles.ofInt intD) then decimal intD
  else doubles.render d

/-- The two digits that `%02X` prints for a byte of a buffer. -/
def bufferText (byte : UInt8) : List UInt8 :=
  let digit (half : Nat) : UInt8 := UInt8.ofNat (if half < 10 then 48 + half else 55 + half)
  [digit (byte.toNat / 16), digit (byte.toNat % 16)]

/-- `stream_print_value` of an item that is no container. -/
def printLeaf : Value D → List UInt8
  | .null => [110, 117, 108, 108]
  | .bool false => [102, 97, 108, 115, 101]
  | .bool true => [116, 114, 117, 101]
  | .number stored => streamPrintNumber doubles stored
  | .string text => streamPrintStringPtr text
  | .buffer bytes => 40 :: bytes.flatMap bufferText ++ [41]

/-- What stands in front of a value: in an object its name and a colon. -/
def beforeValue (fmt : Bool) (depth : Nat) (name : List UInt8) : Container → List UInt8
  | .array => []
  | .object =>
    (if fmt then List.replicate depth 9 else []) ++ streamPrintStringPtr name ++ [58] ++
      if fmt then [9] else []

def afterValue (fmt last : Bool) : Container → List UInt8
  | .array => if last then [] else 44 :: if fmt then [32] else []
  | .object => (if last then [] else [44]) ++ if fmt then [10] else []

def opening (fmt : Bool) : Container → List UInt8
  | .array => [91]
  | .object => 123 :: if fmt then [10] else []

def closing (fmt : Bool) (depth : Nat) : Container → List UInt8
  | .array => [93]
  | .object => (if fmt then List.replicate (depth - 1) 9 else []) ++ [125]

def Items.isNil {V : Type u} : Items V → Bool
  | .nil => true
  | .leaf _ _ _ | .branch _ _ _ _ _ => false

/-- The loops of `stream_print_array` and `stream_print_object` over the items. -/
def printItems (fmt : Bool) : Container → Nat → Items (Value D) → List UInt8
  | _, _, .nil => []
  | parent, depth, .leaf name value rest =>
    beforeValue fmt depth name parent ++ printLeaf doubles value ++
      afterValue fmt rest.isNil parent ++ printItems fmt parent depth rest
  | parent, depth, .branch name type _ children rest =>
    beforeValue fmt depth name parent ++
      (opening fmt type ++ printItems fmt type (depth + 1) children ++
        closing fmt (depth + 1) type) ++
      afterValue fmt rest.isNil parent ++ printItems fmt parent depth rest

/-- `stream_print_array` and `stream_print_object`. -/
def streamPrintContainer (fmt : Bool) (depth : Nat) (type : Container)
    (children : Items (Value D)) : List UInt8 :=
  opening fmt type ++ printItems doubles fmt type depth children ++ closing fmt depth type

/-- `stream_print_value` of the first item. -/
def streamPrintValue (fmt : Bool) (depth : Nat) : Items (Value D) → List UInt8
  | .nil => []
  | .leaf _ value _ => printLeaf doubles value
  | .branch _ type _ children _ => streamPrintContainer doubles fmt depth type children

/-- `struct putc_string_priv_s`, with the characters that are in the buffer. -/
structure PutcString where
  buf : List UInt8
  buflen : Nat
  numput : Nat

def putcString (priv : PutcString) (char : UInt8) : PutcString :=
  if priv.buflen ≤ priv.numput then { priv with numput := priv.numput + 1 }
  else { priv with buf := priv.buf ++ [char], numput := priv.numput + 1 }

/-- `cJSON_Print_Stream` to `putc_string`. -/
def cJSONPrintStream (formatted : Bool) (item : Items (Value D)) (priv : PutcString) :
    PutcString :=
  (streamPrintValue doubles formatted 0 item).foldl putcString priv

/-- The first pass of `cJSON_Print_String`. -/
def firstPass (formatted : Bool) (item : Items (Value D)) : PutcString :=
  cJSONPrintStream doubles formatted item ⟨[], 0, 0⟩

/-- The second pass of `cJSON_Print_String`. -/
def secondPass (formatted : Bool) (item : Items (Value D)) : PutcString :=
  cJSONPrintStream doubles formatted item ⟨[], (firstPass doubles formatted item).numput, 0⟩

/-- The memory that `cJSON_Print_String` returns, up to the zero that it puts at the end. -/
def cJSONPrintString (formatted : Bool) (item : Items (Value D)) : List UInt8 :=
  (secondPass doubles formatted item).buf ++ [0]

def cJSONPrint (item : Items (Value D)) : List UInt8 := cJSONPrintString doubles true item

def cJSONPrintUnformatted (item : Items (Value D)) : List UInt8 :=
  cJSONPrintString doubles false item

variable (text : List UInt8) (formatted : Bool) (priv : PutcString) (item : Items (Value D))

theorem numput_foldl : (text.foldl putcString priv).numput = priv.numput + text.length := by
  induction text generalizing priv with
  | nil => rfl
  | cons char rest ih =>
    have step : (putcString priv char).numput = priv.numput + 1 := by
      unfold putcString
      split <;> rfl
    rw [List.foldl_cons, ih, step, List.length_cons]
    omega

theorem buf_foldl (room : priv.numput + text.length ≤ priv.buflen) :
    (text.foldl putcString priv).buf = priv.buf ++ text := by
  induction text generalizing priv with
  | nil => simp
  | cons char rest ih =>
    rw [List.length_cons] at room
    have step : putcString priv char =
        { priv with buf := priv.buf ++ [char], numput := priv.numput + 1 } :=
      if_neg (by omega)
    have later : priv.numput + 1 + rest.length ≤ priv.buflen := by omega
    rw [List.foldl_cons, step, ih _ later, List.append_assoc]
    rfl

theorem secondPass_numput :
    (secondPass doubles formatted item).numput = (firstPass doubles formatted item).numput := by
  unfold secondPass firstPass cJSONPrintStream
  rw [numput_foldl, numput_foldl]

theorem cJSONPrintString_eq :
    cJSONPrintString doubles formatted item = streamPrintValue doubles formatted 0 item ++ [0] := by
  have counted : (firstPass doubles formatted item).numput =
      0 + (streamPrintValue doubles formatted 0 item).length :=
    numput_foldl _ _
  unfold cJSONPrintString secondPass cJSONPrintStream
  rw [buf_foldl _ _ counted.ge]
  rfl

end Print

end Thingsee.Json
