import Thingsee.Modem.Stream
import Thingsee.Usrsock.Types

/-!
Owns the data of the socket daemon in `apps/system/ubmodem/ubmodem_usrsock*`: the
sockets of the modem, the requests it reads from `/dev/usrsock`, what it writes there,
and the AT command and the timers it waits for.

Sockets are numbers, as pointers are in the source. The identifiers of timers are not
used again.
-/

namespace Thingsee.Sockets

open Modem (RespStatus)

def EBADF : Int := 9
def EDESTADDRREQ : Int := 89
def EMSGSIZE : Int := 90
def ENOPROTOOPT : Int := 92
def EPROTONOSUPPORT : Int := 93
def EAFNOSUPPORT : Int := 97
def ENOBUFS : Int := 105

/-- `modem_socket_error_to_system_errno`. The numbers of the modem are those of the
system; there is none for `ESHUTDOWN`. -/
def modemSocketErrorToSystemErrno (error : Int) : Int :=
  if error ∈ [0, 2, 4, 5, 9, 10, 11, 12, 14, 22, 32, 38, 92, 98, 103, 104, 105, 107, 110, 113, 115]
  then error
  else Usrsock.EPIPE

/-- `enum usrsock_request_types_e`, as far as the daemon has handlers. -/
inductive Reqid where
  | socket
  | close
  | connect
  | sendto
  | recvfrom
  | setsockopt
  | getsockopt
  | bind

/-- `struct usrsock_request_common_s`. -/
structure Head where
  reqid : Reqid
  xid : Nat

/-- `struct sockaddr_in`. The port is in network order. -/
structure Address where
  family : Nat
  port : Nat
  addr : Nat
deriving DecidableEq

def AF_INET : Nat := 2

/-- `sizeof(struct sockaddr_in)`. The structure has no padding behind the address. -/
def sizeofAddress : Nat := 8

/-- The types that a socket can have: `SOCK_STREAM` and `SOCK_DGRAM`. -/
inductive SockType where
  | stream
  | dgram
deriving DecidableEq

/-- `enum modem_socket_state_e`. -/
inductive SocketState where
  | inactive
  | opening
  | closing
  | connecting
  | sending
  | receiving
  | checkingTxfull
  | socketConfig
  | free
deriving DecidableEq

/-- The union of the state of `bind` and the state of the socket options. -/
inductive Config where
  | bind (addr : Address)
  | setgetsock (level option valuesize : Nat)

/-- `setgetsock.level`. -/
def Config.level : Config → Nat
  | .bind addr => addr.family
  | .setgetsock level _ _ => level

/-- `setgetsock.option`. -/
def Config.option : Config → Nat
  | .bind addr => addr.port
  | .setgetsock _ option _ => option

/-- `bind.addr.sin_port`. -/
def Config.port : Config → Nat
  | .bind addr => addr.port
  | .setgetsock _ option _ => option

/-- `struct modem_socket_s`. -/
structure Socket where
  usockid : Int
  modemSd : Int
  type : SockType
  state : SocketState
  timerid : Option Nat
  isClosed : Bool
  isWaitingRecv : Bool
  isWaitingConn : Bool
  isClosing : Bool
  txBufFull : Bool
  txBufFullRecheck : Bool
  isSocketConfigPending : Bool
  isFreeingPending : Bool
  req : Head
  peeraddr : Address
  toaddr : Address
  buflen : Nat
  numUnackStart : Int
  avail : Nat
  maxAddrlen : Nat
  maxBuflen : Nat
  config : Config

def maxSocketsOpen : Nat := 7

/-- `MODEM_MAX_BINARY_SOCKET_WRITE_BYTES`. -/
def maxSocketWrite : Nat := 1024

/-- `MODEM_MAX_BINARY_SOCKET_READ_BYTES`. -/
def maxSocketRead : Nat := 1024

def maxPacketPayload : Nat := 1024

def maxResponseStreamLen : Nat := 1024 + 32

/-- `MODEM_SOL_SOCKET`. -/
def MODEM_SOL_SOCKET : Nat := 65535

/-- `MODEM_SO_LINGER`. -/
def MODEM_SO_LINGER : Nat := 128

/-- A value in a response with data. -/
inductive RespValue where
  | address (addr : Address) (length : Nat)
  | int (value : Int)
  | linger (onoff linger : Int)

inductive SocketEvent where
  | sendtoReady
  | recvfromAvail
  | remoteClosed

/-- What is written to `/dev/usrsock`. -/
inductive Message where
  | response (xid : Nat) (inprogress : Bool) (result : Int)
  | dataResponse (xid : Nat) (result : Int) (value : RespValue) (data : List UInt8)
  | event (usockid : Int) (events : SocketEvent)

/-- The AT commands of the daemon with their arguments. -/
inductive Command where
  | usocr (type : Nat)
  | usocl (sd : Int)
  | usoco (sd : Int) (addr : Address)
  | usord (sd : Int) (length : Nat)
  | usorf (sd : Int) (length : Nat)
  | usostBinary (sd : Int) (addr : Address) (length : Nat)
  | usowrBinary (sd : Int) (length : Nat)
  | usostData (data : List UInt8)
  | usowrData (data : List UInt8)
  | usoctl (sd : Int)
  | usoso (sd : Int) (level option : Nat) (values : List Int)
  | usogo (sd : Int) (level option : Nat)
  | usoli (sd : Int) (port : Nat)
  | cmee
  | usoer
deriving DecidableEq

inductive TimerKind where
  | dataPromptDelay
  | txbufFullRecheckDelay
deriving DecidableEq

/-- A timer that is pending. -/
structure Timer where
  id : Nat
  kind : TimerKind
  socket : Nat

inductive Task where
  | recoverStuckHardware
  | reinitializeGprs

/-- The states of the main state machine that matter here: `MODEM_STATE_WAITING` and
`MODEM_STATE_DO_SOCKET_WORK`. -/
inductive MainState where
  | waiting
  | doSocketWork
deriving DecidableEq

/-- `struct ubmodem_s` with its sockets. `sent` has the newest message first, and
`outstanding` is the AT command whose result is awaited, with the socket it is for. -/
structure Ubmodem where
  state : MainState
  socket : Nat → Socket
  list : List Nat
  nextSocket : Nat
  usockidCounter : Nat
  pollOffCount : Nat
  pollOffList : List Nat
  outstanding : Option (Command × Nat)
  timers : List Timer
  nextTimer : Nat
  sent : List Message
  tasks : List Task

/-- What a handler finds around it: whether a timer, the memory for the `+CMEE` check
or a socket can be allocated, whether a command or raw data can be sent, what it reads
from `/dev/usrsock`, and whether the limit of failed DNS queries is reached. -/
structure Env where
  timerSet : Bool
  cmeeAllocated : Bool
  socketAllocated : Bool
  commandSent : Bool
  rawSent : Bool
  data : Option (List UInt8)
  address : Option Address
  value : Option (Int × Int)
  dnsFailed : Bool

/-- Nothing fails, and there is nothing to read. -/
def Env.usual : Env where
  timerSet := true
  cmeeAllocated := true
  socketAllocated := true
  commandSent := true
  rawSent := true
  data := none
  address := none
  value := none
  dnsFailed := false

end Thingsee.Sockets
