import Thingsee.Support.LittleEndian
import Thingsee.Usrsock.Iovec

/-!
Owns the state of the user-space socket layer in `nuttx/net/usrsock`: the
connections, the callbacks registered with them, the threads inside of socket
calls and the device node `/dev/usrsock`.

`n` is the number of connection structures and `m` the number of threads.
Semaphores are counters. Numbers called `tag` are not in the source: every
request gets a new one, so that requests with the same exchange id can be told
apart.

Does not own what the calls and the device do with the state.
-/

namespace Thingsee.Usrsock

theorem neZero_one : NeZero 1 := ⟨Nat.one_ne_zero⟩

theorem lawfulBEq_fin (n : Nat) : LawfulBEq (Fin n) := inferInstance

def EAGAIN : Int := 11
def ENOMEM : Int := 12
def EACCES : Int := 13
def EINVAL : Int := 22
def EPIPE : Int := 32
def ENOENT : Int := 2
def EPERM : Int := 1
def ENETDOWN : Int := 100
def ECONNABORTED : Int := 103
def ECONNREFUSED : Int := 111
def EINPROGRESS : Int := 115

/-- `enum usrsock_conn_state_e`. -/
inductive ConnState where
  | uninitialized
  | aborted
  | ready
  | connecting
deriving DecidableEq

/-- A set of `USRSOCK_EVENT` flags. -/
structure Events where
  abort : Bool := false
  sendtoReady : Bool := false
  recvfromAvail : Bool := false
  remoteClosed : Bool := false
  reqComplete : Bool := false
  connectResp : Bool := false
deriving DecidableEq

def Events.meets (events mask : Events) : Bool :=
  (events.abort && mask.abort) || (events.sendtoReady && mask.sendtoReady) ||
    (events.recvfromAvail && mask.recvfromAvail) || (events.remoteClosed && mask.remoteClosed) ||
    (events.reqComplete && mask.reqComplete) || (events.connectResp && mask.connectResp)

/-- A socket call, by its `usrsock_` function. -/
inductive Kind where
  | socket
  | close
  | connect
  | sendto
  | recvfrom
  | setsockopt
  | getsockopt
  | getsockname
  | bind
deriving DecidableEq

/-- `struct devif_callback_s` as `usrsock_setup_request_callback` fills it in:
the event function of a kind of call, for the request state of a thread. A
callback that has stopped further callbacks is not `active`. -/
structure Callback (m : Nat) where
  thread : Fin m
  kind : Kind
  flags : Events
  active : Bool

/-- `resp.datain` of a connection. `iovcnt` is the number of buffers. -/
structure Datain where
  iov : List Iovec
  total : Nat
  pos : Nat

/-- `resp` of a connection. -/
structure Resp where
  xid : Nat
  inprogress : Bool
  valuelen : Nat
  valuelenNontrunc : Nat
  result : Int
  datain : Datain

/-- `struct usrsock_conn_s`. `tag` is the last request. -/
structure Conn (m : Nat) where
  state : ConnState
  connected : Bool
  type : Int
  usockid : Int
  flags : Events
  resp : Resp
  list : List (Callback m)
  tag : Nat

/-- A connection after `usrsock_alloc` or `usrsock_free`. -/
def Conn.cleared (m : Nat) : Conn m where
  state := .uninitialized
  connected := false
  type := 0
  usockid := -1
  flags := {}
  resp := ⟨0, false, 0, 0, 0, ⟨[], 0, 0⟩⟩
  list := []
  tag := 0

/-- The arguments of a socket call. A buffer to receive into is given by its
contents before the call. -/
inductive Call where
  | socket (domain type protocol : Int)
  | close
  | connect (addr : List UInt8) (nonblock : Bool)
  | sendto (buf : List UInt8) (addr : Option (List UInt8)) (nonblock : Bool)
  | recvfrom (buf addr : List UInt8) (nonblock : Bool)
  | setsockopt (level option : Int) (value : List UInt8)
  | getsockopt (level option : Int) (value : List UInt8)
  | getsockname (addr : List UInt8)
  | bind (addr : List UInt8)

def Call.kind : Call → Kind
  | .socket _ _ _ => .socket
  | .close => .close
  | .connect _ _ => .connect
  | .sendto _ _ _ => .sendto
  | .recvfrom _ _ _ => .recvfrom
  | .setsockopt _ _ _ => .setsockopt
  | .getsockopt _ _ _ => .getsockopt
  | .getsockname _ => .getsockname
  | .bind _ => .bind

/-- Where a thread waits inside of a socket call, or between two sections that
hold the network lock. -/
inductive Stage where
  | allocated
  | waitReq
  | waitAck
  | waitReady
  | waitDone
  | closed
deriving DecidableEq

/-- Whether the thread is inside of `usrsockdev_do_request`. -/
def Stage.inRequest : Stage → Bool
  | .waitReq | .waitAck => true
  | _ => false

/-- `struct usrsock_data_reqstate_s`. -/
structure Reqstate where
  result : Int
  recvsem : Nat
  valuelen : Nat
  valuelenNontrunc : Nat

/-- A thread inside of a socket call: `request` are the buffers of the request it
makes, and `tag` tells which one it is. -/
structure Frame (n : Nat) where
  call : Call
  conn : Fin n
  stage : Stage
  request : List Iovec
  tag : Nat
  state : Reqstate

/-- How far `usrsockdev_close` is: it aborts the connections one by one, the one
behind `last` next, and then wakes up pending requests. -/
inductive Closing (n : Nat) where
  | no
  | aborting (last : Option (Fin n))
  | draining
deriving DecidableEq

/-- `struct usrsockdev_s`. `reqTag` is the request on the request line. -/
structure Device (n : Nat) where
  ocount : Nat
  iov : Option (List Iovec)
  pos : Nat
  sem : Nat
  acksem : Nat
  ackXid : Nat
  nbusy : Nat
  datainConn : Option (Fin n)
  closing : Closing n
  reqTag : Nat

/-- The device after `usrsockdev_register`. -/
def Device.registered (n : Nat) : Device n where
  ocount := 0
  iov := none
  pos := 0
  sem := 1
  acksem := 0
  ackXid := 0
  nbusy := 0
  datainConn := none
  closing := .no
  reqTag := 0

/-- A call that has waited for the completion of its request and returns. -/
structure Return where
  tag : Nat
  kind : Kind
  value : Int

/-- Connections, threads and device. `active` and `free` are the queues of
connections, `cbfree` is the number of free callback structures, `delivered` the
record of `USRSOCK_EVENT_REQ_COMPLETE` events and `returns` that of calls. -/
structure System (n m : Nat) where
  conns : Fin n → Conn m
  active : List (Fin n)
  free : List (Fin n)
  cbfree : Nat
  threads : Fin m → Option (Frame n)
  dev : Device n
  nextTag : Nat
  delivered : List (Fin n)
  returns : List Return

/-- The system after `usrsock_initialize`, with `callbacks` callback
structures. -/
def System.initial (n m callbacks : Nat) : System n m where
  conns := fun _ => Conn.cleared m
  active := []
  free := List.finRange n
  cbfree := callbacks
  threads := fun _ => none
  dev := Device.registered n
  nextTag := 0
  delivered := []
  returns := []

/-- `usrsockdev_get_xid`. More than 255 connections do not compile, so that the
number fits into its 8 bits. -/
def getXid {n : Nat} (conn : Fin n) : Nat := conn.val + 1

namespace System

variable {n m : Nat}

def setConn (sys : System n m) (i : Fin n) (conn : Conn m) : System n m :=
  { sys with conns := Function.update sys.conns i conn }

def setThread (sys : System n m) (t : Fin m) (thread : Option (Frame n)) : System n m :=
  { sys with threads := Function.update sys.threads t thread }

def setDev (sys : System n m) (dev : Device n) : System n m := { sys with dev := dev }

end System

end Thingsee.Usrsock
