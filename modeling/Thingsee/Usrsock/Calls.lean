import Thingsee.Usrsock.Device

/-!
Owns the socket calls of `nuttx/net/usrsock`, section by section, and the runs of
the system: every section that holds the network lock is one step, and steps of
different threads and of the daemon interleave freely.

`close` is `usrsock_close` followed by the `usrsock_free` of `net_close`. The
references of duplicated sockets are left out, and so is what only the caller of
a call sees: copied address lengths and the fields of its `struct socket`.
-/

namespace Thingsee.Usrsock

open Support

variable {n m : Nat}

/-- `SOCK_STREAM` and `SOCK_SEQPACKET`. -/
def isConnectionMode (type : Int) : Bool := type == 0 || type == 2

def fitsInt16 (value : Int) : Bool := toSigned 16 value == value

/-- A length, limited to `UINT16_MAX`. -/
def limited (len : Nat) : Nat := min len 65535

/-- The fields of a request behind its head, and the buffers behind these.
`none` if a number does not fit into its field. -/
def Call.requestBody (usockid : Int) : Call → Option (List UInt8 × List (List UInt8))
  | .socket domain type protocol =>
    if fitsInt16 domain && fitsInt16 type && fitsInt16 protocol then
      some (leBytes 2 domain ++ leBytes 2 type ++ leBytes 2 protocol, [])
    else none
  | .close => some (leBytes 2 usockid, [])
  | .connect addr _ =>
    let len := limited addr.length
    some (leBytes 2 usockid ++ leBytes 2 len, [addr.take len])
  | .bind addr =>
    let len := addr.length % 65536
    some (leBytes 2 usockid ++ leBytes 2 len, [addr.take len])
  | .sendto buf addr _ =>
    let address := addr.getD []
    let addrlen := limited address.length
    let buflen := limited buf.length
    some (leBytes 2 usockid ++ leBytes 2 addrlen ++ leBytes 2 buflen,
      [address.take addrlen, buf.take buflen])
  | .recvfrom buf addr _ =>
    some (leBytes 2 usockid ++ leBytes 2 (limited buf.length) ++ leBytes 2 (limited addr.length),
      [])
  | .setsockopt level option value =>
    if fitsInt16 level && fitsInt16 option then
      let len := limited value.length
      some (leBytes 2 usockid ++ leBytes 2 level ++ leBytes 2 option ++ leBytes 2 len,
        [value.take len])
    else none
  | .getsockopt level option value =>
    if fitsInt16 level && fitsInt16 option then
      some (leBytes 2 usockid ++ leBytes 2 level ++ leBytes 2 option ++
        leBytes 2 (limited value.length), [])
    else none
  | .getsockname addr => some (leBytes 2 usockid ++ leBytes 2 (limited addr.length), [])

/-- `enum usrsock_request_types_e`. -/
def Kind.reqid : Kind → UInt8
  | .socket => 0
  | .close => 1
  | .connect => 2
  | .sendto => 3
  | .recvfrom => 4
  | .setsockopt => 5
  | .getsockopt => 6
  | .getsockname => 7
  | .bind => 8

/-- The buffers of a request: its structure and what follows it. -/
def Call.request (call : Call) (usockid : Int) (xid : Nat) : Option (List Iovec) :=
  (call.requestBody usockid).map (fun body =>
    Iovec.ofBytes (call.kind.reqid :: UInt8.ofNat xid :: body.1) :: body.2.map Iovec.ofBytes)

def Call.inbufs : Call → List Iovec
  | .recvfrom buf addr _ => [Iovec.ofBytes addr, Iovec.ofBytes buf]
  | .getsockopt _ _ value => [Iovec.ofBytes value]
  | .getsockname addr => [Iovec.ofBytes addr]
  | _ => []

def Call.receives : Call → Bool
  | .recvfrom _ _ _ | .getsockopt _ _ _ | .getsockname _ => true
  | _ => false

/-- `setup_conn_recvfrom`, `setup_conn_getsockopt` and
`setup_conn_getsockname`. -/
def Conn.setupDatain (conn : Conn m) (iov : List Iovec) : Conn m :=
  { conn with resp := { conn.resp with datain := ⟨iov, totalLen iov, 0⟩ } }

/-- The events a call waits for while its request is outstanding. -/
def requestEvents : Events := { abort := true, reqComplete := true }

/-- The request state `usrsock_setup_request_callback` begins with. -/
def Reqstate.fresh : Reqstate := ⟨-EAGAIN, 0, 0, 0⟩

def Kind.returnValue : Kind → Int → Int
  | .socket, result => if result < 0 then result else 0
  | .close, result => if result < 0 then 0 else result
  | _, result => result

namespace System

def usrsockAlloc (sys : System n m) : Option (Fin n × System n m) :=
  match sys.free with
  | [] => none
  | i :: rest =>
    some (i, { sys.setConn i (Conn.cleared m) with active := sys.active ++ [i], free := rest })

def usrsockFree (sys : System n m) (i : Fin n) : System n m :=
  { sys.setConn i (Conn.cleared m) with
    active := sys.active.erase i
    free := sys.free ++ [i] }

def leave (sys : System n m) (t : Fin m) : System n m := sys.setThread t none

/-- The end of `usrsock_close`: the connection is free to be freed. -/
def markClosed (sys : System n m) (t : Fin m) (frame : Frame n) : System n m :=
  let conn := sys.conns frame.conn
  (sys.setConn frame.conn { conn with state := .uninitialized, usockid := -1 }).setThread t
    (some { frame with stage := .closed })

/-- Takes the buffers of a call that receives data away from the connection. -/
def resetDatain (sys : System n m) (frame : Frame n) : System n m :=
  if frame.call.receives then
    sys.setConn frame.conn ((sys.conns frame.conn).setupDatain [])
  else sys

/-- The request could not be made: the callback is taken down again. A socket is
freed, and a socket to be closed counts as closed. -/
def requestFailed (sys : System n m) (t : Fin m) (frame : Frame n) : System n m :=
  let sys := (sys.resetDatain frame).teardownRequestCallback t frame.conn
  match frame.call with
  | .socket _ _ _ => (sys.usrsockFree frame.conn).leave t
  | .close => sys.markClosed t frame
  | _ => sys.leave t

def makeRequest (sys : System n m) (t : Fin m) (frame : Frame n) : System n m :=
  let frame := { frame with state := Reqstate.fresh }
  match sys.setupRequestCallback t frame.conn frame.call.kind requestEvents with
  | none =>
    match frame.call with
    | .socket _ _ _ => (sys.usrsockFree frame.conn).leave t
    | _ => sys.leave t
  | some sys =>
    let conn := sys.conns frame.conn
    let conn := if frame.call.receives then conn.setupDatain frame.call.inbufs else conn
    let conn := if frame.call.kind = .connect then { conn with state := .connecting } else conn
    let sys := sys.setConn frame.conn conn
    match frame.call.request conn.usockid (getXid frame.conn) with
    | none => sys.requestFailed t frame
    | some request =>
      (sys.beginRequest t { frame with request := request }).getD (sys.requestFailed t frame)

/-- The events a call waits for before its request, if it waits for any. -/
def readyEvents : Call → Option (Events × Bool)
  | .sendto _ _ nonblock =>
    some ({ abort := true, sendtoReady := true, remoteClosed := true }, nonblock)
  | .recvfrom _ _ nonblock =>
    some ({ abort := true, recvfromAvail := true, remoteClosed := true }, nonblock)
  | _ => none

def isReady (flags : Events) : Call → Bool
  | .sendto _ _ _ => flags.sendtoReady
  | .recvfrom _ _ _ => flags.recvfromAvail
  | _ => true

/-- One turn of the loop in `usrsock_sendto` and `usrsock_recvfrom`; the other
calls make their request at once. -/
def turn (sys : System n m) (t : Fin m) (frame : Frame n) : System n m :=
  match readyEvents frame.call with
  | none => sys.makeRequest t frame
  | some (events, nonblock) =>
    let conn := sys.conns frame.conn
    if conn.flags.remoteClosed then sys.leave t
    else if isReady conn.flags frame.call then sys.makeRequest t frame
    else if nonblock then sys.leave t
    else
      match sys.setupRequestCallback t frame.conn frame.call.kind events with
      | none => sys.leave t
      | some sys =>
        sys.setThread t (some { frame with stage := .waitReady, state := Reqstate.fresh })

/-- Whether the checks at the beginning of a call refuse it. `usrsock_close` has
its own. -/
def refuses (conn : Conn m) : Call → Bool
  | .connect _ _ =>
    (conn.connected && isConnectionMode conn.type) || conn.state == .connecting
  | .sendto _ addr _ =>
    (isConnectionMode conn.type && (!conn.connected || addr.isSome)) ||
      conn.state == .connecting
  | .recvfrom _ _ _ =>
    (isConnectionMode conn.type && !conn.connected) || conn.state == .connecting
  | _ => false

/-- A thread calls a function for the connection `i`. -/
def start (sys : System n m) (t : Fin m) (i : Fin n) (call : Call) : System n m :=
  let conn := sys.conns i
  let frame : Frame n := ⟨call, i, .allocated, [], 0, Reqstate.fresh⟩
  if conn.state = .uninitialized ∨ conn.state = .aborted then
    match call with
    | .close => sys.markClosed t frame
    | _ => sys
  else if refuses conn call then sys
  else sys.turn t frame

/-- A thread calls `usrsock_socket`: a connection is allocated. -/
def startSocket (sys : System n m) (t : Fin m) (domain type protocol : Int) : System n m :=
  match sys.usrsockAlloc with
  | none => sys
  | some (i, sys) =>
    sys.setThread t (some ⟨.socket domain type protocol, i, .allocated, [], 0, Reqstate.fresh⟩)

def returnResult (sys : System n m) (t : Fin m) (frame : Frame n) : System n m :=
  let kind := frame.call.kind
  let returned : Return := ⟨frame.tag, kind, kind.returnValue frame.state.result⟩
  { sys.leave t with returns := sys.returns ++ [returned] }

/-- The section behind the completion of the request. Sending and receiving try
again if the daemon was not ready. -/
def finish (sys : System n m) (t : Fin m) (frame : Frame n) : System n m :=
  let result := frame.state.result
  let sys := (sys.resetDatain frame).teardownRequestCallback t frame.conn
  match frame.call with
  | .socket _ type _ =>
    if result < 0 then (sys.usrsockFree frame.conn).returnResult t frame
    else
      let conn := sys.conns frame.conn
      (sys.setConn frame.conn { conn with type := toSigned 8 type }).returnResult t frame
  | .close => { (sys.markClosed t frame) with
      returns := sys.returns ++ [⟨frame.tag, .close, Kind.close.returnValue result⟩] }
  | .sendto _ _ _ | .recvfrom _ _ _ =>
    if result = -EAGAIN then sys.turn t frame else sys.returnResult t frame
  | _ => sys.returnResult t frame

/-- The section behind the waiting for a daemon that is ready. -/
def ready (sys : System n m) (t : Fin m) (frame : Frame n) : System n m :=
  let sys := sys.teardownRequestCallback t frame.conn
  let conn := sys.conns frame.conn
  if conn.state = .aborted ∨ conn.flags.remoteClosed then sys.leave t
  else sys.makeRequest t frame

/-- Whether `usrsock_connect` returns without waiting for its request. -/
def returnsEarly (sys : System n m) (frame : Frame n) : Bool :=
  match frame.call with
  | .connect _ nonblock => (sys.conns frame.conn).resp.inprogress && nonblock
  | _ => false

def requestMade (sys : System n m) (t : Fin m) (frame : Frame n) : System n m :=
  if sys.returnsEarly frame then (sys.teardownRequestCallback t frame.conn).leave t
  else sys.setThread t (some { frame with stage := .waitDone })

/-- The section a thread is about to run, if the semaphore it waits for lets
it. -/
def proceed (sys : System n m) (t : Fin m) (frame : Frame n) : System n m :=
  match frame.stage with
  | .allocated => sys.makeRequest t frame
  | .waitReq =>
    if sys.dev.sem = 0 then sys
    else if sys.dev.ocount = 0 then (sys.setDev sys.dev.skipRequest).requestMade t frame
    else
      (sys.setDev (sys.dev.putRequest frame)).setThread t (some { frame with stage := .waitAck })
  | .waitAck =>
    if sys.dev.acksem = 0 then sys
    else (sys.setDev sys.dev.takeAck).requestMade t frame
  | .waitReady => if frame.state.recvsem = 0 then sys else sys.ready t frame
  | .waitDone => if frame.state.recvsem = 0 then sys else sys.finish t frame
  | .closed => (sys.usrsockFree frame.conn).leave t

/-- A wait that ends without its semaphore, by a signal or by a timeout: of
`usrsock_connect` for its request, and of sending and receiving for a daemon that
is ready. All other waits are repeated. -/
def giveUp (sys : System n m) (t : Fin m) (frame : Frame n) : System n m :=
  let ends : Bool :=
    match frame.stage with
    | .waitDone => frame.call.kind == .connect
    | .waitReady => true
    | _ => false
  if ends then (sys.teardownRequestCallback t frame.conn).leave t else sys

end System

/-- What happens next: a thread makes a call or runs its next section, or the
daemon does something with the device. -/
inductive Action (n m : Nat) where
  | startSocket (t : Fin m) (domain type protocol : Int)
  | start (t : Fin m) (i : Fin n) (call : Call)
  | proceed (t : Fin m)
  | giveUp (t : Fin m)
  | openDev
  | read (len : Nat)
  | write (buffer : List UInt8)
  | closeDev
  | closeSection

namespace System

def inUse (sys : System n m) : Bool := sys.dev.ocount != 0 && sys.dev.closing == .no

/-- One step of a run. A step that is not possible changes nothing. -/
def step (sys : System n m) : Action n m → System n m
  | .startSocket t domain type protocol =>
    if (sys.threads t).isNone then sys.startSocket t domain type protocol else sys
  | .start t i call =>
    match call with
    | .socket _ _ _ => sys
    | call => if (sys.threads t).isNone then sys.start t i call else sys
  | .proceed t =>
    match sys.threads t with
    | none => sys
    | some frame => sys.proceed t frame
  | .giveUp t =>
    match sys.threads t with
    | none => sys
    | some frame => sys.giveUp t frame
  | .openDev => if sys.dev.closing = .no then sys.usrsockdevOpen.1 else sys
  | .read len => if sys.inUse then (sys.usrsockdevRead len).1 else sys
  | .write buffer => if sys.inUse then (sys.usrsockdevWrite buffer).1 else sys
  | .closeDev => if sys.inUse then sys.usrsockdevClose else sys
  | .closeSection => sys.closeSection

def run (sys : System n m) (actions : List (Action n m)) : System n m := actions.foldl step sys

end System

end Thingsee.Usrsock
