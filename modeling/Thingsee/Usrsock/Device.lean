import Thingsee.Usrsock.Event

/-!
Owns `nuttx/net/usrsock/usrsock_dev.c`: what the daemon does with the device
node, and the request line that socket calls share.

`usrsockdev_write`, `usrsockdev_read` and `usrsockdev_open` are one step each.
`usrsockdev_do_request` and `usrsockdev_close` wait in between, so that every
section of them that holds the network lock is a function of its own. Polling of
the device node is left out, and so is `usrsockdev_seek`.
-/

namespace Thingsee.Usrsock

open Support

variable {n m : Nat}

/-- The little-endian number of `width` bytes at an offset of a message. -/
def field (buffer : List UInt8) (offset width : Nat) : Nat :=
  leValue ((buffer.drop offset).take width)

/-- `USRSOCK_MESSAGE_IS_EVENT`. -/
def isEvent (buffer : List UInt8) : Bool := (field buffer 1 1).testBit 1

def reqInProgress (buffer : List UInt8) : Bool := (field buffer 1 1).testBit 0

/-- `head.msgid`. -/
def msgid (buffer : List UInt8) : Nat := field buffer 0 1

/-- `xid` of a response. -/
def respXid (buffer : List UInt8) : Nat := field buffer 2 1

/-- `result` of a response. -/
def respResult (buffer : List UInt8) : Int := toSigned 32 (field buffer 3 4)

/-- `valuelen` of a response with data. -/
def respValuelen (buffer : List UInt8) : Nat := field buffer 7 2

/-- `valuelen_nontrunc` of a response with data. -/
def respValuelenNontrunc (buffer : List UInt8) : Nat := field buffer 9 2

/-- `USRSOCK_MESSAGE_RESPONSE_ACK`, `USRSOCK_MESSAGE_RESPONSE_DATA_ACK` and
`USRSOCK_MESSAGE_SOCKET_EVENT`. -/
def responseAck : Nat := 0
def responseDataAck : Nat := 1
def socketEvent : Nat := 2

def commonSize : Nat := 2
def reqAckSize : Nat := 7
def datareqAckSize : Nat := 11
def socketEventSize : Nat := 6

/-- The events of a socket event message, without the internal ones. -/
def messageEvents (buffer : List UInt8) : Events :=
  let events := field buffer 4 2
  { abort := events.testBit 0
    sendtoReady := events.testBit 1
    recvfromAvail := events.testBit 2
    remoteClosed := events.testBit 3 }

/-- The announced data of a response: the value comes first, and a positive
result is the length of a second buffer. -/
def announced (buffer : List UInt8) : Nat :=
  respValuelen buffer + (respResult buffer).toNat

namespace System

/-- `usrsockdev_handle_event`: the system after it, and what is returned. -/
def handleEvent (sys : System n m) (buffer : List UInt8) : System n m × Int :=
  if msgid buffer = socketEvent then
    if buffer.length < socketEventSize then (sys, -EINVAL)
    else
      let usockid := toSigned 16 (field buffer 2 2)
      match sys.active.find? (fun i => decide ((sys.conns i).usockid = usockid)) with
      | none => (sys, -ENOENT)
      | some i => (sys.usrsockEvent i (messageEvents buffer), socketEventSize)
  else (sys, -EINVAL)

def handleResponse (sys : System n m) (i : Fin n) (buffer : List UInt8) : System n m × Int :=
  let conn := sys.conns i
  if reqInProgress buffer then
    (sys.setConn i { conn with resp := { conn.resp with inprogress := true } }, reqAckSize)
  else
    let resp :=
      { conn.resp with inprogress := false, xid := 0, result := respResult buffer }
    ((sys.setConn i { conn with resp := resp }).completeRequest i, reqAckSize)

/-- The buffers of a data response, cut to the announced lengths: the value comes
first, and a positive result is the length of a second buffer. `none` if there
are too few buffers or if one is too small. -/
def cutBuffers (iov : List Iovec) (valuelen : Nat) (result : Int) : Option (List Iovec) :=
  match iov with
  | [] => none
  | value :: rest =>
    if valueFits : valuelen ≤ value.len then
      if 0 < result then
        match rest with
        | [] => none
        | data :: _ =>
          if dataFits : result.toNat ≤ data.len then
            some [value.shorten valuelen valueFits, data.shorten result.toNat dataFits]
          else none
      else some [value.shorten valuelen valueFits]
    else none

/-- The value buffer, whose length is adjusted before the second buffer is looked
at, when a data response is refused. -/
def refusedBuffers (iov : List Iovec) (valuelen : Nat) (result : Int) : List Iovec :=
  match iov with
  | value :: data :: rest =>
    if fits : valuelen ≤ value.len then
      if 0 < result then value.shorten valuelen fits :: data :: rest else iov
    else iov
  | _ => iov

def refusedTotal (datain : Datain) (valuelen : Nat) (result : Int) : Nat :=
  match datain.iov with
  | [] => datain.total
  | value :: rest =>
    if 0 < result ∧ rest = [] then datain.total
    else if valuelen ≤ value.len then valuelen else 0

def handleDatareqResponse (sys : System n m) (i : Fin n) (buffer : List UInt8) :
    System n m × Int :=
  let conn := sys.conns i
  let result := respResult buffer
  let valuelen := respValuelen buffer
  if reqInProgress buffer then
    if 0 < result ∨ 0 < valuelen then (sys, -EINVAL)
    else
      (sys.setConn i { conn with resp := { conn.resp with inprogress := true } }, datareqAckSize)
  else
    let resp :=
      { conn.resp with
        inprogress := false
        xid := 0
        result := result
        valuelen := valuelen
        valuelenNontrunc := respValuelenNontrunc buffer }
    let cleared := sys.setConn i { conn with resp := resp }
    if result < 0 then
      if 0 < valuelen ∨ 0 < respValuelenNontrunc buffer then (cleared, -EINVAL)
      else (cleared.completeRequest i, datareqAckSize)
    else
      match cutBuffers resp.datain.iov valuelen result with
      | none =>
        let datain :=
          { resp.datain with
            iov := refusedBuffers resp.datain.iov valuelen result
            total := refusedTotal resp.datain valuelen result }
        (sys.setConn i { conn with resp := { resp with datain := datain } }, -EINVAL)
      | some iov =>
        let datain := { resp.datain with iov := iov, total := announced buffer }
        let prepared := sys.setConn i { conn with resp := { resp with datain := datain } }
        (prepared.setDev { prepared.dev with datainConn := some i }, datareqAckSize)

def acknowledge (sys : System n m) (xid : Nat) : System n m :=
  if sys.dev.ackXid = xid ∧ sys.dev.iov.isSome then
    sys.setDev { sys.dev with iov := none, acksem := sys.dev.acksem + 1 }
  else sys

/-- The first allocated connection that waits for a response with `xid`. -/
def waitingFor (sys : System n m) (xid : Nat) : Option (Fin n) :=
  sys.active.find? (fun i => decide ((sys.conns i).resp.xid = xid))

def handleReqResponse (sys : System n m) (buffer : List UInt8) : System n m × Int :=
  if msgid buffer = responseAck then
    if buffer.length < reqAckSize then (sys, -EINVAL)
    else
      match sys.waitingFor (respXid buffer) with
      | none => (sys, -EINVAL)
      | some i => (sys.acknowledge (respXid buffer)).handleResponse i buffer
  else if msgid buffer = responseDataAck then
    if buffer.length < datareqAckSize then (sys, -EINVAL)
    else
      match sys.waitingFor (respXid buffer) with
      | none => (sys, -EINVAL)
      | some i => (sys.acknowledge (respXid buffer)).handleDatareqResponse i buffer
  else (sys, -EINVAL)

def handleMessage (sys : System n m) (buffer : List UInt8) : System n m × Int :=
  if isEvent buffer then sys.handleEvent buffer else sys.handleReqResponse buffer

/-- The copying of written bytes into the buffers of a data response: the response
after it and what is returned. `consumed` bytes of the write have been a
message. -/
def storeData (resp : Resp) (buffer : List UInt8) (consumed : Nat) : Resp × Int :=
  match iovecPut resp.datain.iov resp.datain.pos buffer with
  | none =>
    ({ resp with result := -EINVAL, datain := { resp.datain with pos := resp.datain.total } },
      -EINVAL)
  | some (count, iov) =>
    ({ resp with datain := { resp.datain with iov := iov, pos := resp.datain.pos + count } },
      ((consumed + count : Nat) : Int))

/-- The data input handling of `usrsockdev_write`. -/
def dataInput (sys : System n m) (i : Fin n) (buffer : List UInt8) (consumed : Nat) :
    System n m × Int :=
  let conn := sys.conns i
  let written := storeData conn.resp buffer consumed
  let stored := sys.setConn i { conn with resp := written.1 }
  if written.1.datain.pos = written.1.datain.total then
    ((stored.setDev { stored.dev with datainConn := none }).completeRequest i, written.2)
  else (stored, written.2)

def usrsockdevWrite (sys : System n m) (buffer : List UInt8) : System n m × Int :=
  if buffer = [] then (sys, 0)
  else
    match sys.dev.datainConn with
    | some i => sys.dataInput i buffer 0
    | none =>
      if buffer.length < commonSize then (sys, -EINVAL)
      else
        let handled := sys.handleMessage buffer
        match handled.1.dev.datainConn with
        | none => handled
        | some i => handled.1.dataInput i (buffer.drop handled.2.toNat) handled.2.toNat

/-- `usrsockdev_read`: the system after it and the bytes read. -/
def usrsockdevRead (sys : System n m) (len : Nat) : System n m × List UInt8 :=
  match sys.dev.iov with
  | none => (sys, [])
  | some iov =>
    match iovecGet iov sys.dev.pos len with
    | none => (sys, [])
    | some bytes => (sys.setDev { sys.dev with pos := sys.dev.pos + bytes.length }, bytes)

def usrsockdevOpen (sys : System n m) : System n m × Int :=
  if 1 < sys.dev.ocount + 1 then (sys, -EPERM)
  else (sys.setDev { sys.dev with ocount := sys.dev.ocount + 1 }, 0)

/-- The element behind `i` in a queue. -/
def behind (queue : List (Fin n)) (i : Fin n) : Option (Fin n) :=
  (queue.dropWhile (fun j => decide (j ≠ i))).tail.head?

attribute [local instance] lawfulBEq_fin

/-- `usrsock_nextconn`. A connection that was freed in the meantime is linked into
the queue of free ones. -/
def nextconn (sys : System n m) : Option (Fin n) → Option (Fin n)
  | none => sys.active.head?
  | some i => if i ∈ sys.active then behind sys.active i else behind sys.free i

/-- The aborting of one connection by `usrsockdev_close`. -/
def abortConn (sys : System n m) (i : Fin n) : System n m :=
  let conn := sys.conns i
  let resp := { conn.resp with inprogress := false, xid := 0 }
  (sys.setConn i { conn with resp := resp }).usrsockEvent i { abort := true }

/-- One section of `usrsockdev_close`: the next connection is aborted, or, when
there is none, the device is marked as closed. Then pending requests are woken up
until there is none. -/
def closeSection (sys : System n m) : System n m :=
  match sys.dev.closing with
  | .no => sys
  | .aborting last =>
    match sys.nextconn last with
    | some i => (sys.abortConn i).setDev { sys.dev with closing := .aborting (some i) }
    | none => sys.setDev { sys.dev with ocount := sys.dev.ocount - 1, closing := .draining }
  | .draining =>
    if sys.dev.nbusy = 0 then sys.setDev { sys.dev with iov := none, closing := .no }
    else sys.setDev { sys.dev with iov := none, acksem := sys.dev.acksem + 1 }

/-- `usrsockdev_close` begins. -/
def usrsockdevClose (sys : System n m) : System n m :=
  sys.setDev { sys.dev with closing := .aborting none }

/-- The first section of `usrsockdev_do_request`: the connection is prepared for
the response. `none` stands for the error when no daemon has opened the
device. -/
def beginRequest (sys : System n m) (t : Fin m) (frame : Frame n) : Option (System n m) :=
  if sys.dev.ocount = 0 then none
  else
    let conn := sys.conns frame.conn
    let resp := { conn.resp with xid := getXid frame.conn, result := -EACCES }
    let frame := { frame with stage := .waitReq, tag := sys.nextTag }
    let prepared := sys.setConn frame.conn { conn with resp := resp, tag := sys.nextTag }
    some { (prepared.setThread t (some frame)).setDev
        { sys.dev with nbusy := (sys.dev.nbusy + 1) % 65536 } with
      nextTag := sys.nextTag + 1 }

end System

namespace Device

/-- `req.sem` is taken and the request goes onto the line. -/
def putRequest (dev : Device n) (frame : Frame n) : Device n :=
  { dev with
    sem := dev.sem - 1
    ackXid := getXid frame.conn
    iov := some frame.request
    pos := 0
    reqTag := frame.tag }

/-- The end of `usrsockdev_do_request`: the request line is free for the next
command. -/
def endRequest (dev : Device n) : Device n :=
  { dev with sem := dev.sem + 1, nbusy := (dev.nbusy + 65535) % 65536 }

/-- `req.sem` is taken, but the daemon has closed the device. -/
def skipRequest (dev : Device n) : Device n := endRequest { dev with sem := dev.sem - 1 }

/-- `req.acksem` is taken. -/
def takeAck (dev : Device n) : Device n := endRequest { dev with acksem := dev.acksem - 1 }

end Device

end Thingsee.Usrsock
