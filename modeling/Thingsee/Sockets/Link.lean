import Thingsee.Sockets.Requests
import Thingsee.Usrsock.Received

/-!
Owns the link between the daemon and the kernel: the bytes that the daemon's messages
have on `/dev/usrsock`, and the request that `__ubmodem_usrsock_handle_request` reads
from there.
-/

namespace Thingsee.Sockets

open Support List
open Usrsock (System field)

/-- `struct sockaddr_in`. -/
def Address.bytes (addr : Address) : List UInt8 :=
  leBytes 2 addr.family ++ leBytes 2 addr.port ++ leBytes 4 addr.addr

/-- The bytes of a value in a response: an address is cut to its length. -/
def RespValue.bytes : RespValue → List UInt8
  | .address addr length => addr.bytes.take length
  | .int value => leBytes 4 value
  | .linger onoff seconds => leBytes 4 onoff ++ leBytes 4 seconds

/-- `valuelen_nontrunc` of a response. -/
def RespValue.nontrunc : RespValue → Nat
  | .address _ _ => sizeofAddress
  | .int _ => 4
  | .linger _ _ => 8

def SocketEvent.flag : SocketEvent → Nat
  | .sendtoReady => 2
  | .recvfromAvail => 4
  | .remoteClosed => 8

/-- `struct usrsock_message_req_ack_s`. -/
def reqAck (xid : Nat) (inprogress : Bool) (result : Int) : List UInt8 :=
  [0, if inprogress then 1 else 0, UInt8.ofNat xid] ++ leBytes 4 result

/-- `struct usrsock_message_datareq_ack_s`. -/
def datareqAck (xid : Nat) (result : Int) (valuelen nontrunc : Nat) : List UInt8 :=
  [1, 0, UInt8.ofNat xid] ++ leBytes 4 result ++ leBytes 2 valuelen ++ leBytes 2 nontrunc

/-- The writes of a message. Only the answer to a request for data has bytes behind its
value, and it leaves out a value without bytes. -/
def Message.writes : Message → List (List UInt8)
  | .response xid inprogress result => [reqAck xid inprogress result]
  | .dataResponse xid result value data =>
    let header := datareqAck xid result value.bytes.length value.nontrunc
    match value with
    | .address _ _ =>
      if value.bytes = [] then [header, data] else [header, value.bytes, data]
    | _ => [header, value.bytes]
  | .event usockid events => [[2, 2] ++ leBytes 2 usockid ++ leBytes 2 events.flag]

theorem field_leBytes (front rest : List UInt8) (offset width : Nat) (value : Int)
    (place : front.length = offset) :
    field (front ++ (leBytes width value ++ rest)) offset width =
      leValue (leBytes width value) := by
  rw [field, ← place, drop_left, take_append_of_le_length (by simp),
    take_of_length_le (by simp)]

theorem reqAck_length (xid : Nat) (inprogress : Bool) (result : Int) :
    (reqAck xid inprogress result).length = Usrsock.reqAckSize := by
  simp [reqAck, Usrsock.reqAckSize]

theorem reqAck_header {n : Nat} (few : n ≤ 255) (i : Fin n) (result : Int) :
    System.AckHeader (reqAck (Usrsock.getXid i) true result) i := by
  have small : Usrsock.getXid i < 256 := by
    unfold Usrsock.getXid
    omega
  have wraps : Usrsock.getXid i % 256 = Usrsock.getXid i := Nat.mod_eq_of_lt small
  constructor
  · exact reqAck_length _ _ _
  · simp [System.isResponse, reqAck, Usrsock.isEvent, field, leValue,
      show Nat.testBit 1 1 = false from rfl]
  · simp [Usrsock.msgid, reqAck, field, leValue, Usrsock.responseAck]
  · simp [Usrsock.respXid, reqAck, field, leValue, wraps]
  · simp [Usrsock.reqInProgress, reqAck, field, leValue]

theorem datareqAck_header {n : Nat} (few : n ≤ 255) (i : Fin n) {result valuelen nontrunc : Nat}
    (resultFits : result < 2147483648) (valuelenFits : valuelen < 65536)
    (nontruncFits : nontrunc < 65536) :
    System.DataHeader (datareqAck (Usrsock.getXid i) result valuelen nontrunc) i result valuelen
      nontrunc := by
  have small : Usrsock.getXid i < 256 := by
    unfold Usrsock.getXid
    omega
  have wraps : Usrsock.getXid i % 256 = Usrsock.getXid i := Nat.mod_eq_of_lt small
  constructor
  · simp [datareqAck, Usrsock.datareqAckSize]
  · simp [System.isResponse, datareqAck, Usrsock.isEvent, field, leValue]
  · simp [Usrsock.msgid, datareqAck, field, leValue, Usrsock.responseDataAck]
  · simp [Usrsock.respXid, datareqAck, field, leValue, wraps]
  · simp [Usrsock.reqInProgress, datareqAck, field, leValue]
  · have place := field_leBytes [1, 0, UInt8.ofNat (Usrsock.getXid i)]
      (leBytes 2 valuelen ++ leBytes 2 nontrunc) 3 4 result rfl
    have signed : toSigned 32 (result : Int) = result :=
      toSigned_of_range 31 (by omega) (by omega)
    rw [Usrsock.respResult, datareqAck, append_assoc, append_assoc, place]
    exact (toSigned_leValue_leBytes 4 _).trans signed
  · have place := field_leBytes ([1, 0, UInt8.ofNat (Usrsock.getXid i)] ++ leBytes 4 result)
      (leBytes 2 nontrunc) 7 2 valuelen (by simp)
    rw [Usrsock.respValuelen, datareqAck, append_assoc _ (leBytes 2 _) _, place]
    exact leValue_leBytes_of_lt valuelenFits
  · have place := field_leBytes ([1, 0, UInt8.ofNat (Usrsock.getXid i)] ++ leBytes 4 result ++
      leBytes 2 valuelen) [] 9 2 nontrunc (by simp)
    rw [append_nil] at place
    rw [Usrsock.respValuelenNontrunc, datareqAck, place]
    exact leValue_leBytes_of_lt nontruncFits

theorem Address.bytes_length (addr : Address) : addr.bytes.length = sizeofAddress := by
  simp [Address.bytes, sizeofAddress]

/-- How many bytes a request has behind its head, by its number. -/
def requestLength : Nat → Option Nat
  | 0 => some 6
  | 1 => some 2
  | 2 => some 4
  | 3 => some 6
  | 4 => some 6
  | 5 => some 8
  | 6 => some 8
  | 8 => some 4
  | _ => none

/-- A signed 16 bit number of a request, at an offset behind the head. -/
def signedField (fields : List UInt8) (offset : Nat) : Int := toSigned 16 (field fields offset 2)

def requestOf (fields : List UInt8) : Nat → Option Request
  | 0 => some (.socket (signedField fields 0) (signedField fields 2))
  | 1 => some (.close (signedField fields 0))
  | 2 => some (.connect (signedField fields 0) (field fields 2 2))
  | 3 => some (.sendto (signedField fields 0) (field fields 2 2) (field fields 4 2))
  | 4 => some (.recvfrom (signedField fields 0) (field fields 2 2) (field fields 4 2))
  | 5 => some (.setsockopt (signedField fields 0) (signedField fields 2) (signedField fields 4)
      (field fields 6 2))
  | 6 => some (.getsockopt (signedField fields 0) (signedField fields 2) (signedField fields 4)
      (field fields 6 2))
  | 8 => some (.bind (signedField fields 0) (field fields 2 2))
  | _ => none

/-- The reading of a request by `__ubmodem_usrsock_handle_request`, with its exchange id.
`none` is the error answer to a request that is not supported or not complete. -/
def readRequest {n m : Nat} (sys : System n m) : System n m × Option (Nat × Request) :=
  let head := sys.usrsockdevRead 2
  if head.2.length ≠ 2 then (head.1, none)
  else
    match requestLength (field head.2 0 1) with
    | none => (head.1, none)
    | some length =>
      let rest := head.1.usrsockdevRead length
      if rest.2.length ≠ length then (rest.1, none)
      else
        (rest.1, (requestOf rest.2 (field head.2 0 1)).map (fun request =>
          (field head.2 1 1, request)))

theorem readRequest_single {n m : Nat} {sys : System n m} {reqid : UInt8} {xid : Nat}
    {fields : List UInt8} {length : Nat} {request : Request} (small : xid < 256)
    (line : sys.dev.iov = some [Usrsock.Iovec.ofBytes (reqid :: UInt8.ofNat xid :: fields)])
    (atStart : sys.dev.pos = 0) (known : requestLength reqid.toNat = some length)
    (whole : fields.length = length) (isRequest : requestOf fields reqid.toNat = some request) :
    readRequest sys =
      (sys.setDev { sys.dev with pos := length + 2 }, some (xid, request)) := by
  have head : sys.usrsockdevRead 2 =
      (sys.setDev { sys.dev with pos := 2 }, [reqid, UInt8.ofNat xid]) := by
    simp [System.usrsockdevRead, line, atStart, Usrsock.iovecGet, Usrsock.copyFrom,
      Usrsock.Iovec.ofBytes]
  have isReqid : field [reqid, UInt8.ofNat xid] 0 1 = reqid.toNat := by
    simp [field, leValue]
  have isXid : field [reqid, UInt8.ofNat xid] 1 1 = xid := by
    have wraps : xid % 256 = xid := Nat.mod_eq_of_lt small
    simp [field, leValue, wraps]
  have positive : 0 < length := by
    unfold requestLength at known
    split at known <;> simp at known <;> omega
  have rest : (sys.setDev { sys.dev with pos := 2 }).usrsockdevRead length =
      (sys.setDev { sys.dev with pos := length + 2 }, fields) := by
    have filled : length ≠ 0 := by omega
    have all : (fields.take length).take length = fields := by
      rw [take_take, Nat.min_self, take_of_length_le (Nat.le_of_eq whole)]
    simp [System.usrsockdevRead, System.setDev, line, Usrsock.iovecGet, Usrsock.copyFrom,
      Usrsock.Iovec.ofBytes, whole, filled, all]
    omega
  simp only [readRequest, head, isReqid, known, rest, whole, isXid, isRequest]
  simp

end Thingsee.Sockets
