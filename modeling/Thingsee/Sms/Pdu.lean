import Thingsee.Support.Hex

/-!
Owns `ubmodem_pdu_util.c`: the packing of phone numbers, and the SMS-SUBMIT texts
of the parts of a message.

Texts are lists of bytes without their terminating zero. `allocated` tells if
memory is available where the source asks for it.

Does not own the conversion of UTF-8 to UCS2: the message is given as the octets
of its user data.
-/

namespace Thingsee.Sms

open Support

def ENOMEM : Int := 12

def isspace (char : UInt8) : Bool :=
  char == 32 || char == 9 || char == 10 || char == 13 || char == 12 || char == 11

/-- Characters that `__ubmodem_address_to_pdu` skips: white space and `-`. -/
def isSkipped (char : UInt8) : Bool := isspace char || char == 45

def isDigit (char : UInt8) : Bool := decide (48 ≤ char ∧ char ≤ 57)

/-- Whether an address begins with `+`. -/
def isInternational (address : List UInt8) : Bool := address.head? == some 43

/-- An address without its leading `+`. -/
def addressBody (address : List UInt8) : List UInt8 :=
  if isInternational address then address.tail else address

/-- The validity check: the number of digits, if there is nothing else. -/
def numcount : List UInt8 → Option Nat
  | [] => some 0
  | char :: rest =>
    if isSkipped char then numcount rest
    else if isDigit char then (numcount rest).map (· + 1)
    else none

structure Packing where
  currnum : Nat
  prev : UInt8
  pdu : List UInt8

def Packing.turn (packing : Packing) (char : UInt8) : Packing :=
  if isSkipped char then packing
  else if packing.currnum % 2 = 0 then
    { packing with prev := char - 48, currnum := packing.currnum + 1 }
  else
    { packing with
      pdu := packing.pdu ++ [((char - 48) <<< 4) ||| packing.prev]
      currnum := packing.currnum + 1 }

def addressToPdu (address : List UInt8) (allocated : Bool) : Except Int (List UInt8) :=
  if address = [] then .ok []
  else
    match numcount (addressBody address) with
    | none => .error (-1)
    | some count =>
      if allocated then
        let type : UInt8 := if isInternational address then 0x91 else 0x81
        let packing := (addressBody address).foldl Packing.turn ⟨0, 0, [type]⟩
        if count % 2 = 1 then .ok (packing.pdu ++ [0xF0 ||| packing.prev]) else .ok packing.pdu
      else .error (-ENOMEM)

/-- The text that is being written, and how far it is. There is no buffer while
its length is being counted. -/
structure PduBuffer where
  chars : Option (List UInt8)
  pos : Nat

def tohex (value : UInt8) : UInt8 := value + if 9 < value then 65 - 10 else 48

def PduBuffer.pushPduChar (buffer : PduBuffer) (value : UInt8) : PduBuffer where
  chars := buffer.chars.map (fun chars =>
    chars ++ [tohex ((value >>> 4) &&& 15), tohex (value &&& 15)])
  pos := buffer.pos + 2

/-- `struct multipdu_iter_s`. -/
structure MultipduIter where
  msgPos : Nat
  partPos : UInt8
  partCount : UInt8
  refNum : UInt8
deriving DecidableEq

/-- `part_count` in `__ubmodem_pdu_multipart_iterator_init`. -/
def partCountFor (msgPdulen : Nat) : Nat :=
  if msgPdulen ≤ 70 * 2 then 1
  else msgPdulen / (67 * 2) + if msgPdulen % (67 * 2) ≠ 0 then 1 else 0

def pduMultipartIteratorInit (msgPdulen : Nat) (refNum : UInt8) : Option MultipduIter :=
  if 0xff < partCountFor msgPdulen then none
  else
    some
      { msgPos := 0
        partPos := 0
        partCount := UInt8.ofNat (partCountFor msgPdulen)
        refNum := refNum }

/-- What `__ubmodem_prepare_pdu_string` returns: 0, `-ENOMEM` or a text and its
length. -/
inductive Prepared where
  | done
  | outOfMemory
  | pdu (pdulen : Nat) (text : List UInt8)
deriving DecidableEq

namespace MultipduIter

def multipart (iter : MultipduIter) : Bool := decide (1 < iter.partCount)

/-- The octets of the message that the next part takes. -/
def nextPayload (iter : MultipduIter) (msgPdu : List UInt8) : List UInt8 :=
  let rest := msgPdu.drop iter.msgPos
  if iter.multipart then rest.take (67 * 2) else rest

def fill (iter : MultipduIter) (recvPdu payload : List UInt8) (buffer : PduBuffer) : PduBuffer :=
  let pduflags : UInt8 := if iter.multipart then 0x01 ||| 0x40 else 0x01
  let buffer := buffer.pushPduChar 0x00
  let buffer := buffer.pushPduChar pduflags
  let buffer := buffer.pushPduChar 0x00
  let buffer := buffer.pushPduChar ((UInt8.ofNat recvPdu.length - 1) * 2)
  let buffer := recvPdu.foldl PduBuffer.pushPduChar buffer
  let buffer := buffer.pushPduChar 0x00
  let buffer := buffer.pushPduChar 0x08
  let buffer :=
    if iter.multipart then
      let buffer := buffer.pushPduChar (UInt8.ofNat (payload.length + 6))
      let buffer := buffer.pushPduChar 0x05
      let buffer := buffer.pushPduChar 0x00
      let buffer := buffer.pushPduChar 0x03
      let buffer := buffer.pushPduChar iter.refNum
      let buffer := buffer.pushPduChar iter.partCount
      buffer.pushPduChar (iter.partPos + 1)
    else buffer.pushPduChar (UInt8.ofNat payload.length)
  payload.foldl PduBuffer.pushPduChar buffer

/-- `__ubmodem_prepare_pdu_string`. The text is filled in twice: once without a
buffer to know its length, and then for the buffer of that length. -/
def preparePduString (iter : MultipduIter) (recvPdu msgPdu : List UInt8) (allocated : Bool) :
    Prepared × MultipduIter :=
  let payload := iter.nextPayload msgPdu
  if payload.length = 0 then (.done, iter)
  else if iter.partPos = iter.partCount then (.done, iter)
  else
    let pdulen := (iter.fill recvPdu payload ⟨none, 0⟩).pos
    if allocated then
      let filled := iter.fill recvPdu payload ⟨some [], 0⟩
      (.pdu pdulen (filled.chars.getD []),
        { iter with msgPos := iter.msgPos + payload.length, partPos := iter.partPos + 1 })
    else (.outOfMemory, iter)

end MultipduIter

theorem tohex_eq (value : UInt8) : tohex value = hexChar value := rfl

theorem foldl_pushPduChar (octets : List UInt8) (chars : List UInt8) (pos : Nat) :
    octets.foldl PduBuffer.pushPduChar ⟨some chars, pos⟩ =
      ⟨some (chars ++ hexText octets), pos + 2 * octets.length⟩ := by
  induction octets generalizing chars pos with
  | nil => simp [hexText]
  | cons octet rest ih =>
    have pushed : PduBuffer.pushPduChar ⟨some chars, pos⟩ octet =
        ⟨some (chars ++ hexPair octet), pos + 2⟩ := by
      simp [PduBuffer.pushPduChar, hexPair, tohex_eq, high_half]
    rw [List.foldl_cons, pushed, ih]
    simp only [hexText, List.flatMap_cons, List.append_assoc, List.length_cons]
    congr 1
    omega

theorem foldl_pushPduChar_pos (octets : List UInt8) (buffer : PduBuffer) :
    (octets.foldl PduBuffer.pushPduChar buffer).pos = buffer.pos + 2 * octets.length := by
  induction octets generalizing buffer with
  | nil => rfl
  | cons octet rest ih =>
    rw [List.foldl_cons, ih, List.length_cons]
    simp only [PduBuffer.pushPduChar]
    omega

namespace MultipduIter

/-- The user data header of a part, with the length of the user data in front. -/
def userDataHeader (iter : MultipduIter) (payload : List UInt8) : List UInt8 :=
  if iter.multipart then
    [UInt8.ofNat (payload.length + 6), 5, 0, 3, iter.refNum, iter.partCount, iter.partPos + 1]
  else [UInt8.ofNat payload.length]

def octets (iter : MultipduIter) (recvPdu payload : List UInt8) : List UInt8 :=
  [0, if iter.multipart then 0x41 else 0x01, 0, (UInt8.ofNat recvPdu.length - 1) * 2] ++
    recvPdu ++ [0, 8] ++ iter.userDataHeader payload ++ payload

theorem fill_eq (iter : MultipduIter) (recvPdu payload : List UInt8) (buffer : PduBuffer) :
    iter.fill recvPdu payload buffer =
      (iter.octets recvPdu payload).foldl PduBuffer.pushPduChar buffer := by
  have flags : (0x01 ||| 0x40 : UInt8) = 0x41 := by decide
  cases several : iter.multipart with
  | true => simp [fill, octets, userDataHeader, several, flags, List.foldl_append]
  | false => simp [fill, octets, userDataHeader, several, List.foldl_append]

theorem preparePduString_eq (iter : MultipduIter) (recvPdu msgPdu : List UInt8)
    (allocated : Bool) :
    iter.preparePduString recvPdu msgPdu allocated =
      let payload := iter.nextPayload msgPdu
      let text := hexText (iter.octets recvPdu payload)
      if payload = [] ∨ iter.partPos = iter.partCount then (.done, iter)
      else if allocated then
        (.pdu text.length text,
          { iter with msgPos := iter.msgPos + payload.length, partPos := iter.partPos + 1 })
      else (.outOfMemory, iter) := by
  unfold preparePduString
  dsimp only
  rw [fill_eq, fill_eq, foldl_pushPduChar_pos, foldl_pushPduChar, length_hexText]
  by_cases empty : iter.nextPayload msgPdu = []
  · simp [empty]
  · by_cases ended : iter.partPos = iter.partCount
    · simp [ended]
    · simp [empty, ended]

end MultipduIter

end Thingsee.Sms
