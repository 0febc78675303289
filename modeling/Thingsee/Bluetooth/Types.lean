import Mathlib.Data.List.Basic

/-!
Owns the receiver of the Bluetooth module (bluetooth.c, btle_receiver.c, bluetooth_poll.c): frames
from the UART, the handlers of their types, and the messages that the data handler puts together.

A read returns any bytes. Each byte meets its own luck with memory and with `write`. The bytes
behind those that a read has returned are not known, and a run ends where the loop goes on with
them, or calls a handler that is not set. Timers run out between reads, and their times are left
out. What callbacks do does not come back to the receiver. Buffers carry a serial number, and there
is a record of what happened to them.
-/

namespace Thingsee.Bluetooth

/-- Whether there is memory for a timer, a message and a response, and whether a response is written
in full. -/
structure Resources where
  timer : Bool
  message : Bool
  response : Bool
  written : Bool

def Resources.plenty : Resources := ⟨true, true, true, true⟩

/-- `BTLE_SYNC_CHAR`. -/
def syncChar : UInt8 := 0xB5

def addToChecksum (sum : UInt8 × UInt8) (data : UInt8) : UInt8 × UInt8 :=
  (sum.1 + data, sum.2 + (sum.1 + data))

def checksum (bytes : List UInt8) : UInt8 × UInt8 := bytes.foldl addToChecksum (0, 0)

/-- An event with its data. What is read of a profile that was not written is `none`. -/
inductive Event where
  | deviceProfile (size : Nat) (profile : List (Option UInt8))
  | cloudProfile (size : Nat) (profile : List (Option UInt8))
  | connectionState (state : UInt8)

/-- `bluetooth_event_id_t`. -/
def Event.id : Event → UInt32
  | .connectionState _ => 1
  | .deviceProfile _ _ => 2
  | .cloudProfile _ _ => 4

/-- `btle_ack_t`, as far as it is used. -/
inductive Ack where
  | timeout
  | ok

def Ack.value : Ack → UInt8
  | .timeout => 129
  | .ok => 0

/-- `struct btle_ack_msg_s` as `btle_send_response` writes it. -/
def ackMsg (seqNum : UInt8) (reason : Ack) : List UInt8 :=
  let msg := [1, 7, 0x80, seqNum, 1, 0, reason.value]
  msg ++ [(checksum msg).1, (checksum msg).2]

inductive Deed where
  | publish (event : Event)
  | respond (seqNum : UInt8) (reason : Ack)

/-- `btle_data_state_t`. -/
inductive DataState where
  | wait
  | header
  | payload
  | checksum1
  | checksum2

/-- The states from `BTLE_STATE_MSG_PAYLOAD` on. -/
def DataState.holds : DataState → Bool
  | .wait | .header => false
  | .payload | .checksum1 | .checksum2 => true

/-- The header of `struct btle_msg_s`. -/
structure Header where
  msgId : UInt8
  seqNum : UInt8
  lengthLow : UInt8
  lengthHigh : UInt8

def Header.length (header : Header) : Nat := header.lengthLow.toNat + 256 * header.lengthHigh.toNat

/-- `rbuf[offset] = data`. -/
def Header.store (header : Header) (data : UInt8) : Nat → Header
  | 0 => { header with msgId := data }
  | 1 => { header with seqNum := data }
  | 2 => { header with lengthLow := data }
  | 3 => { header with lengthHigh := data }
  | _ => header

/-- `struct btle_msg_s` in a buffer of its own. -/
structure Msg where
  serial : Nat
  header : Header
  payload : List (Option UInt8)

/-- `struct btle_data_receiver_s`, with the timers of `struct btle_s`. `msg` is not reset when its
buffer is released. The record has the number of buffers that were allocated, those in use, those
released, the offsets at which a payload was stored with its length, and whether the message that is
received has got a timer. -/
structure DataReceiver where
  state : DataState
  header : Header
  msg : Option Msg
  offset : Nat
  ckA : UInt8
  ckB : UInt8
  receiveTimerId : Int
  timers : List UInt16
  timerIdCnt : UInt16
  serials : Nat
  heap : List Nat
  released : List Nat
  stores : List (Nat × Nat)
  timed : Bool

namespace DataReceiver

/-- `bluetooth_set_timer` for the receive timer. -/
def setTimer (receiver : DataReceiver) (allocated : Bool) : DataReceiver :=
  if allocated then
    { receiver with
      timerIdCnt := receiver.timerIdCnt + 1
      timers := receiver.timers ++ [receiver.timerIdCnt + 1]
      receiveTimerId := (receiver.timerIdCnt + 1).toNat
      timed := true }
  else { receiver with receiveTimerId := -1, timed := false }

def removeTimer (receiver : DataReceiver) : DataReceiver :=
  if 0 ≤ receiver.receiveTimerId then
    { receiver with
      timers := receiver.timers.erase (UInt16.ofNat receiver.receiveTimerId.toNat)
      receiveTimerId := -1 }
  else receiver

/-- `malloc` for a message, with its header. -/
def allocate (receiver : DataReceiver) : DataReceiver :=
  { receiver with
    msg := some ⟨receiver.serials, receiver.header, List.replicate receiver.header.length none⟩
    serials := receiver.serials + 1
    heap := receiver.serials :: receiver.heap }

/-- Releases the buffer of the message, in the states that have one. -/
def freeMsg (receiver : DataReceiver) : DataReceiver :=
  match receiver.state.holds, receiver.msg with
  | true, some msg =>
    { receiver with
      heap := receiver.heap.erase msg.serial
      released := msg.serial :: receiver.released }
  | _, _ => receiver

def restart (receiver : DataReceiver) : DataReceiver :=
  { receiver with state := .wait, ckA := 0, ckB := 0 }

/-- The end of `btle_receive_data`, and of `btle_receiver_reset`. -/
def reset (receiver : DataReceiver) : DataReceiver := receiver.removeTimer.freeMsg.restart

/-- `receiver->state.msg->payload[receiver->state.offset++] = data`. -/
def storePayload (receiver : DataReceiver) (data : UInt8) : DataReceiver :=
  match receiver.msg with
  | none => receiver
  | some msg =>
    { receiver with
      msg := some { msg with payload := msg.payload.set receiver.offset (some data) }
      offset := receiver.offset + 1
      stores := (receiver.offset, msg.header.length) :: receiver.stores }

/-- `receiver->state.msg->length`. -/
def msgLength (receiver : DataReceiver) : Nat :=
    (receiver.msg.map fun msg => msg.header.length).getD 0

/-- The checksum, which runs over the header and the payload. -/
def summed (receiver : DataReceiver) (data : UInt8) : DataReceiver :=
  { receiver with
    ckA := (addToChecksum (receiver.ckA, receiver.ckB) data).1
    ckB := (addToChecksum (receiver.ckA, receiver.ckB) data).2 }

def dataReceived (receiver : DataReceiver) : List Deed :=
  match receiver.msg with
  | none => []
  | some msg =>
    match receiver.header.msgId with
    | 1 =>
      [.publish (.deviceProfile receiver.header.length msg.payload),
        .respond msg.header.seqNum .ok]
    | 2 =>
      [.publish (.cloudProfile receiver.header.length msg.payload),
        .respond msg.header.seqNum .ok]
    | 3 => [.respond msg.header.seqNum .ok]
    | _ => []

/-- How the `switch` of `btle_receive_data` is left. -/
inductive Verdict where
  | returned
  | broken (invalid : Bool)

/-- `BTLE_STATE_MSG_WAIT`. -/
def receiveSync (receiver : DataReceiver) (data : UInt8) (resources : Resources) : DataReceiver :=
  if data = syncChar then
    { receiver with state := .header, offset := 0 }.setTimer resources.timer
  else receiver

/-- `rbuf[receiver->state.offset++] = data`. -/
def storeHeader (receiver : DataReceiver) (data : UInt8) : DataReceiver :=
  { receiver with
    header := receiver.header.store data receiver.offset
    offset := receiver.offset + 1 }

/-- The end of `BTLE_STATE_MSG_HEADER`. `MAX_PAYLOAD_LENGTH` is 4096. -/
def finishHeader (receiver : DataReceiver) (resources : Resources) : DataReceiver × Verdict :=
  if 4096 < receiver.header.length then (receiver, .broken false)
  else if resources.message = false then ({ receiver with msg := none }, .broken false)
  else if 0 < receiver.header.length then
    ({ receiver.allocate with offset := 0, state := .payload }, .returned)
  else ({ receiver.allocate with state := .checksum1 }, .returned)

/-- `BTLE_STATE_MSG_HEADER`. -/
def receiveHeader (receiver : DataReceiver) (data : UInt8) (resources : Resources) :
    DataReceiver × Verdict :=
  if (receiver.storeHeader data).offset < 4 then (receiver.storeHeader data, .returned)
  else (receiver.storeHeader data).finishHeader resources

/-- `BTLE_STATE_MSG_PAYLOAD`. A new timeout for the timer changes nothing here. -/
def receivePayload (receiver : DataReceiver) (data : UInt8) : DataReceiver :=
  if (receiver.storePayload data).msgLength ≤ (receiver.storePayload data).offset then
    { receiver.storePayload data with state := .checksum1 }
  else receiver.storePayload data

/-- The `switch` of `btle_receive_data`. -/
def tryReceive (receiver : DataReceiver) (data : UInt8) (resources : Resources) :
    (DataReceiver × Verdict) × List Deed :=
  match receiver.state with
  | .wait => ((receiver.receiveSync data resources, .returned), [])
  | .header => ((receiver.summed data).receiveHeader data resources, [])
  | .payload => (((receiver.summed data).receivePayload data, .returned), [])
  | .checksum1 =>
    if receiver.ckA = data then (({ receiver with state := .checksum2 }, .returned), [])
    else ((receiver, .broken true), [])
  | .checksum2 =>
    if receiver.ckB = data then ((receiver, .broken false), receiver.dataReceived)
    else ((receiver, .broken true), [])

/-- `btle_receive_data`. A byte that is not the checksum may start the next message. -/
def receive (receiver : DataReceiver) (data : UInt8) (resources : Resources) :
    DataReceiver × List Deed :=
  match receiver.tryReceive data resources with
  | ((receiver, .returned), deeds) => (receiver, deeds)
  | ((receiver, .broken false), deeds) => (receiver.reset, deeds)
  | ((receiver, .broken true), _) => (receiver.reset.receiveSync data resources, [])

/-- `bluetooth_handle_expired_timer` with `btle_transfer_timeout`. -/
def expire (receiver : DataReceiver) (id : UInt16) : DataReceiver × List Deed :=
  if id ∈ receiver.timers then
    let receiver := { receiver with timers := receiver.timers.erase id }
    if (id.toNat : Int) = receiver.receiveTimerId then
      ({ receiver with receiveTimerId := -1 }.freeMsg.restart,
        [.respond receiver.header.seqNum .timeout])
    else (receiver, [])
  else (receiver, [])

/-- The part of `btle_receiver_initialize` for data, behind `memset`. -/
def initial : DataReceiver where
  state := .wait
  header := ⟨0, 0, 0, 0⟩
  msg := none
  offset := 0
  ckA := 0
  ckB := 0
  receiveTimerId := -1
  timers := []
  timerIdCnt := 0
  serials := 0
  heap := []
  released := []
  stores := []
  timed := false

end DataReceiver

/-- `btle_ind_state_t`. -/
inductive IndState where
  | wait
  | connState
  | gapState

/-- `struct btle_ind_receiver_s`. -/
structure IndReceiver where
  state : IndState
  connState : UInt8
  gapState : UInt8

/-- The functions `rx_handler` can be. -/
inductive Handler where
  | data
  | hci
  | ind

/-- `struct bluetooth_callback_entry_s`. -/
structure Callback where
  eventMask : UInt32
  callback : Nat

/-- The registered callbacks. `bluetooth_callback_register` and `bluetooth_callback_unregister` keep
the mask over those of all entries. -/
structure Callbacks where
  eventMask : UInt32
  entries : List Callback
  covers : ∀ entry ∈ entries, ∀ id, entry.eventMask &&& id ≠ 0 → eventMask &&& id ≠ 0

/-- What the module does: a callback is called, or a response is written. -/
inductive Output where
  | called (callback : Nat) (event : Event)
  | wrote (bytes : List UInt8)

/-- `struct btle_s`. `underflowed` says that `payload_len` has gone below zero. -/
structure Btle where
  fd : Int
  state : UInt8
  callbacks : Callbacks
  rxHandler : Option Handler
  payloadLen : UInt8
  data : DataReceiver
  ind : IndReceiver
  underflowed : Bool
  log : List Output

namespace Btle

/-- `btle_publish_event`. -/
def published (btle : Btle) (event : Event) : List Output :=
  if btle.callbacks.eventMask &&& event.id = 0 then []
  else
    (btle.callbacks.entries.filter fun entry => entry.eventMask &&& event.id != 0).map
      fun entry => .called entry.callback event

/-- `btle_send_response`. -/
def responded (btle : Btle) (seqNum : UInt8) (reason : Ack) (resources : Resources) : List Output :=
  if btle.fd < 1 then []
  else if resources.response && resources.written then [.wrote (ackMsg seqNum reason)]
  else []

def outputs (btle : Btle) (resources : Resources) : Deed → List Output
  | .publish event => btle.published event
  | .respond seqNum reason => btle.responded seqNum reason resources

def perform (btle : Btle) (resources : Resources) (received : DataReceiver × List Deed) : Btle :=
  { btle with
    data := received.1
    log := btle.log ++ received.2.flatMap (btle.outputs resources) }

def receiverReset (btle : Btle) : Btle := { btle with rxHandler := none, data := btle.data.reset }

def connected : UInt8 := 6

/-- A change from connected to `BTLE_STATE_INIT` or `BTLE_STATE_STARTED`. -/
def drops (btle : Btle) (gapState : UInt8) : Bool :=
  btle.state == connected && (gapState == 0 || gapState == 1)

/-- `btle_receive_ind`. `BTLE_IND_EVENT_MAX` is 2. -/
def receiveInd (btle : Btle) (data : UInt8) : Btle :=
  match btle.ind.state with
  | .wait =>
    if 2 < data then btle
    else { btle with ind := { btle.ind with state := .gapState, connState := data } }
  | .connState => { btle with ind := { btle.ind with state := .gapState, connState := data } }
  | .gapState =>
    let after := if btle.drops data then btle.receiverReset else btle
    { after with
      ind := { btle.ind with state := .wait, gapState := data }
      state := data
      log := btle.log ++ btle.published (.connectionState data) }

/-- The call of a handler. `btle_receive_hci` does nothing yet. -/
def invoke (btle : Btle) (handler : Handler) (data : UInt8) (resources : Resources) : Btle :=
  match handler with
  | .data => btle.perform resources (btle.data.receive data resources)
  | .hci => btle
  | .ind => btle.receiveInd data

/-- `btle_setup_rx_handler`. `DATA_MSG_LENGTH` is 20 and `IND_MSG_LENGTH` is 2. -/
def setupRxHandler (btle : Btle) (msgType payloadLen : UInt8) : Bool × Btle :=
  match msgType with
  | 1 =>
    if payloadLen ≠ 20 then (false, { btle with rxHandler := none })
    else (true, { btle with rxHandler := some .data, payloadLen })
  | 2 => (true, { btle with rxHandler := some .hci, payloadLen })
  | 3 =>
    if payloadLen ≠ 2 then (false, { btle with rxHandler := none })
    else (true, { btle with rxHandler := some .ind, payloadLen })
  | _ => (false, { btle with rxHandler := none, payloadLen })

/-- The module after `bluetooth_initialize`, with callbacks. -/
def initial (fd : Int) (callbacks : Callbacks) : Btle where
  fd
  state := 0
  callbacks
  rxHandler := none
  payloadLen := 0
  data := .initial
  ind := ⟨.wait, 0, 0⟩
  underflowed := false
  log := []

end Btle

/-- A byte with its resources. -/
abbrev Input := UInt8 × Resources

/-- Why a run ends: a handler is called that is not set, or the bytes behind a read are handled. -/
inductive Fault where
  | nullHandler
  | overread

/-- Where the module is: between reads, with what it has left of the last one, or in the loop over
the bytes of a read. `behind` is the byte that lies behind them. -/
inductive Config where
  | polling (btle : Btle) (left : List Input)
  | reading (btle : Btle) (input : List Input) (behind : UInt8)
  | stopped (fault : Fault)

inductive Action where
  | read (input : List Input) (behind : UInt8)
  | turn
  | expire (id : UInt16) (resources : Resources)

def Btle.handle (btle : Btle) (data : Input) (rest : List Input) (behind : UInt8) : Config :=
  match btle.rxHandler with
  | none => .stopped .nullHandler
  | some handler =>
    let after := btle.invoke handler data.1 data.2
    .reading
      { after with
        payloadLen := after.payloadLen - 1
        underflowed := after.underflowed || after.payloadLen == 0 }
      rest behind

/-- The start of a frame at the bytes that are left, where `next` goes on behind its header. A
header of one byte is completed by what lies behind the read. -/
def Btle.startFrame (btle : Btle) (input : List Input) (behind : UInt8)
    (next : Btle → List Input → Config) : Config :=
  match input with
  | [] => .polling btle []
  | [msgType] =>
    match btle.setupRxHandler msgType.1 behind with
    | (false, btle) => .polling btle [msgType]
    | (true, _) => .stopped .overread
  | msgType :: payloadLen :: rest =>
    match btle.setupRxHandler msgType.1 payloadLen.1 with
    | (false, btle) => .polling btle rest
    | (true, btle) => next btle rest

/-- `bluetooth_receiver` from a `read` to its loop over the bytes. -/
def Btle.startRead (btle : Btle) (input : List Input) (behind : UInt8) : Config :=
  match input with
  | [] => .polling btle []
  | input =>
    let btle := if btle.payloadLen = 0 then { btle with rxHandler := none } else btle
    match btle.rxHandler with
    | none => btle.startFrame input behind fun btle rest => .reading btle rest behind
    | some _ => .reading btle input behind

def Btle.turn (btle : Btle) (input : List Input) (behind : UInt8) : Config :=
  match input with
  | [] => .polling btle []
  | data :: rest =>
    if btle.payloadLen = 0 then
      btle.startFrame (data :: rest) behind fun btle rest =>
        match rest with
        | [] => .stopped .overread
        | data :: rest => btle.handle data rest behind
    else btle.handle data rest behind

/-- One step of a run. A step that is not possible changes nothing. -/
def Config.step : Config → Action → Config
  | .polling btle _, .read input behind => btle.startRead input behind
  | .polling btle left, .expire id resources =>
    .polling (btle.perform resources (btle.data.expire id)) left
  | .reading btle input behind, .turn => btle.turn input behind
  | config, _ => config

end Thingsee.Bluetooth
