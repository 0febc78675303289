import Thingsee.Support.LittleEndian

/-!
Owns the stream of the GPS module (ubx.c, ubgps_internal.c): UBX frames as
`ubx_msg_send` writes them, the receiver `ubx_msg_receive`, the lines of
`nmea_receiver` and the loop of `ubgps_receiver` over both.

Memory is always there, and so is a timer. The callback for a message is recorded as
the message: what the state machine does in it leaves the receiver waiting, as it is
when the callback returns.
-/

namespace Thingsee.Gps

open Support

/-- `UBX_SYNC_CHAR_1` and `UBX_SYNC_CHAR_2`. -/
def syncChar1 : UInt8 := 0xB5

def syncChar2 : UInt8 := 0x62

/-- `UBX_CLASS_ACK` and `UBX_CLASS_CFG`. -/
def classAck : UInt8 := 0x05

def classCfg : UInt8 := 0x06

def maxPayloadLength : Nat := 1024

/-- `struct ubx_msg_s`. -/
structure UbxMsg where
  classId : UInt8
  msgId : UInt8
  length : Nat
  payload : List UInt8
deriving DecidableEq

def UbxMsg.bytes (msg : UbxMsg) : List UInt8 :=
  msg.classId :: msg.msgId :: (leBytes 2 msg.length ++ msg.payload)

def fletcher (sum : UInt8 × UInt8) (byte : UInt8) : UInt8 × UInt8 :=
  (sum.1 + byte, sum.2 + (sum.1 + byte))

def checksum (bytes : List UInt8) : UInt8 × UInt8 := bytes.foldl fletcher (0, 0)

/-- What `ubx_msg_send` writes. -/
def UbxMsg.encode (msg : UbxMsg) : List UInt8 :=
  syncChar1 :: syncChar2 :: (msg.bytes ++ [(checksum msg.bytes).1, (checksum msg.bytes).2])

/-- `ubx_state_t`. -/
inductive UbxState where
  | wait
  | sync
  | header
  | payload
  | checksum1
  | checksum2
deriving DecidableEq

/-- `struct ubx_receiver_s`. `stored` is what was stored of a header, `msg` the message
with what was stored of its payload, and a timer is running or not. -/
structure Receiver where
  state : UbxState
  ckA : UInt8
  ckB : UInt8
  stored : List UInt8
  msg : UbxMsg
  receiveTimer : Bool
  sendTimer : Bool
  waitingAck : UInt8 × UInt8

/-- `ubx_msg_send`: nothing while an acknowledgment is awaited, and a message of the class
`CFG` waits for one. -/
def Receiver.msgSend (receiver : Receiver) (msg : UbxMsg) : Option (Receiver × List UInt8) :=
  if receiver.sendTimer then none
  else if msg.classId = classCfg then
    some ({ receiver with waitingAck := (msg.classId, msg.msgId), sendTimer := true }, msg.encode)
  else some (receiver, msg.encode)

/-- The end of `ubx_msg_receive`, and `ubx_timeout` for the receive timer. -/
def Receiver.reset (receiver : Receiver) : Receiver :=
  { receiver with receiveTimer := false, state := .wait, ckA := 0, ckB := 0 }

def parseHeader : List UInt8 → UbxMsg
  | classId :: msgId :: length =>
    { classId := classId, msgId := msgId, length := leValue length, payload := [] }
  | _ => { classId := 0, msgId := 0, length := 0, payload := [] }

/-- A message that acknowledges the one that waits stops the send timer. -/
def Receiver.acknowledged (receiver : Receiver) : Receiver :=
  if receiver.sendTimer ∧ receiver.msg.length = 2 ∧ receiver.msg.classId = classAck ∧
      (receiver.msg.msgId = 1 ∨ receiver.msg.msgId = 0) ∧
      receiver.msg.payload = [receiver.waitingAck.1, receiver.waitingAck.2] then
    { receiver with sendTimer := false }
  else receiver

/-- What becomes of a byte: it is accepted, maybe with a message, the next receiver gets
it, or it is tried again. -/
inductive Verdict where
  | accepted (msg : Option UbxMsg)
  | ignored
  | again

/-- The checksum runs over the header and the payload. -/
def Receiver.summed (receiver : Receiver) (data : UInt8) : Receiver :=
  match receiver.state with
  | .header | .payload =>
    { receiver with ckA := (fletcher (receiver.ckA, receiver.ckB) data).1,
                    ckB := (fletcher (receiver.ckA, receiver.ckB) data).2 }
  | _ => receiver

/-- The `switch` of `ubx_msg_receive`. -/
def Receiver.tryReceive (receiver : Receiver) (data : UInt8) : Receiver × Verdict :=
  match receiver.state with
  | .wait =>
    if data = syncChar1 then
      ({ receiver with state := .sync, receiveTimer := true }, .accepted none)
    else (receiver, .ignored)
  | .sync =>
    if data ≠ syncChar2 then (receiver.reset, .again)
    else ({ receiver with stored := [], state := .header }, .accepted none)
  | .header =>
    let stored := receiver.stored ++ [data]
    if stored.length < 4 then ({ receiver with stored := stored }, .accepted none)
    else if maxPayloadLength < (parseHeader stored).length then
      ({ receiver with stored := stored }.reset, .again)
    else
      ({ receiver with
          stored := stored, msg := parseHeader stored,
          state := if 0 < (parseHeader stored).length then .payload else .checksum1 },
        .accepted none)
  | .payload =>
    let payload := receiver.msg.payload ++ [data]
    ({ receiver with
        msg := { receiver.msg with payload := payload },
        state := if receiver.msg.length ≤ payload.length then .checksum1 else .payload },
      .accepted none)
  | .checksum1 =>
    if receiver.ckA ≠ data then (receiver.reset, .again)
    else ({ receiver with state := .checksum2 }, .accepted none)
  | .checksum2 =>
    if receiver.ckB ≠ data then (receiver.reset, .again)
    else (receiver.acknowledged.reset, .accepted (some receiver.msg))

/-- `ubx_msg_receive`: a byte that is invalid is tried again, by a receiver that waits. -/
def Receiver.msgReceive (receiver : Receiver) (data : UInt8) : Receiver × Verdict :=
  match (receiver.summed data).tryReceive data with
  | (next, .again) => (next.summed data).tryReceive data
  | (next, .accepted msg) => (next, .accepted msg)
  | (next, .ignored) => (next, .ignored)

inductive UbxTimer where
  | send
  | receive

/-- `ubx_timeout`, for a timer that is running. -/
def Receiver.timeout (receiver : Receiver) : UbxTimer → Receiver
  | .send => { receiver with sendTimer := false }
  | .receive => if receiver.receiveTimer then receiver.reset else receiver

/-- The line buffer, and the lines that were published. -/
structure Nmea where
  line : List UInt8
  published : List (List UInt8)

/-- `NMEA_BUFFER_LINE_LEN`. -/
def lineSize : Nat := 128

/-- The end of `nmea_receiver`: a line is published as a string. -/
def Nmea.send (nmea : Nmea) : Nmea :=
  if 1 < nmea.line.length then
    { line := [],
      published := nmea.published ++ [nmea.line.takeWhile (fun char => decide (char ≠ 0))] }
  else nmea

/-- `nmea_receiver`. -/
def Nmea.receive (nmea : Nmea) (data : UInt8) : Nmea :=
  if data = 13 ∨ data = 10 then
    match nmea.line.getLast? with
    | none => nmea
    | some last =>
      if last ≠ 0 then { nmea with line := nmea.line ++ [0] }.send
      else nmea.send
  else
    let line := nmea.line ++ [data]
    if line.length = lineSize - 1 then { nmea with line := line ++ [0] }.send
    else { nmea with line := line }

/-- The receivers of `struct ubgps_s`, and the messages that were delivered. -/
structure Ubgps where
  ubx : Receiver
  nmea : Nmea
  delivered : List UbxMsg

/-- One byte of `ubgps_receiver`. -/
def Ubgps.receiveByte (gps : Ubgps) (data : UInt8) : Ubgps :=
  match gps.ubx.msgReceive data with
  | (ubx, .accepted msg) => { gps with ubx := ubx, delivered := gps.delivered ++ msg.toList }
  | (ubx, .ignored) => { gps with ubx := ubx, nmea := gps.nmea.receive data }
  | (ubx, .again) => { gps with ubx := ubx }

/-- `ubgps_receiver`: the bytes of each read. -/
def Ubgps.receive (gps : Ubgps) (reads : List (List UInt8)) : Ubgps :=
  reads.foldl (fun gps input => input.foldl Ubgps.receiveByte gps) gps

/-- A timer of the UBX receiver runs out. -/
def Ubgps.timeout (gps : Ubgps) (timer : UbxTimer) : Ubgps :=
  { gps with ubx := gps.ubx.timeout timer }

/-- The receivers after `ubgps_initialize`. -/
def Ubgps.initial : Ubgps :=
  { ubx := { state := .wait, ckA := 0, ckB := 0, stored := [],
             msg := { classId := 0, msgId := 0, length := 0, payload := [] },
             receiveTimer := false, sendTimer := false, waitingAck := (0, 0) }
    nmea := { line := [], published := [] }
    delivered := [] }

end Thingsee.Gps
