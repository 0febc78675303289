import Thingsee.Sockets.Daemon

/-!
Owns the requests of the socket daemon, `__ubmodem_usrsock_handle_request` with the
handlers for each kind of request, and the runs of the daemon: the order of requests,
results of AT commands, timers, unsolicited results and socket work is arbitrary.
-/

namespace Thingsee.Sockets

open Modem (RespStatus)
open Usrsock (EAGAIN EPIPE EINVAL ENOMEM EINPROGRESS)

/-- A request that has been read, without its head. -/
inductive Request where
  | socket (domain type : Int)
  | close (usockid : Int)
  | connect (usockid : Int) (addrlen : Nat)
  | sendto (usockid : Int) (addrlen buflen : Nat)
  | recvfrom (usockid : Int) (maxBuflen maxAddrlen : Nat)
  | setsockopt (usockid level option : Int) (valuelen : Nat)
  | getsockopt (usockid level option : Int) (maxValuelen : Nat)
  | bind (usockid : Int) (addrlen : Nat)
deriving DecidableEq

def Request.reqid : Request → Reqid
  | .socket _ _ => .socket
  | .close _ => .close
  | .connect _ _ => .connect
  | .sendto _ _ _ => .sendto
  | .recvfrom _ _ _ => .recvfrom
  | .setsockopt _ _ _ _ => .setsockopt
  | .getsockopt _ _ _ _ => .getsockopt
  | .bind _ _ => .bind

def sockType (type : Int) : Option SockType :=
  if type = 0 then some .stream else if type = 1 then some .dgram else none

def Socket.new (usockid : Int) (type : SockType) (head : Head) : Socket where
  usockid := usockid
  modemSd := -1
  type := type
  state := .opening
  timerid := none
  isClosed := false
  isWaitingRecv := false
  isWaitingConn := false
  isClosing := false
  txBufFull := false
  txBufFullRecheck := false
  isSocketConfigPending := false
  isFreeingPending := false
  req := head
  peeraddr := ⟨0, 0, 0⟩
  toaddr := ⟨0, 0, 0⟩
  buflen := 0
  numUnackStart := 0
  avail := 0
  maxAddrlen := 0
  maxBuflen := 0
  config := .setgetsock 0 0 0

/-- The option of the modem, and the size of its value, for an option of a socket. -/
def modemOption (option : Int) : Option (Nat × Nat) :=
  if option = 2 then some (32, 4)
  else if option = 3 then some (4, 4)
  else if option = 4 then some (8, 4)
  else if option = 5 then some (128, 8)
  else none

namespace Ubmodem

def socketGetByUsockid (modem : Ubmodem) (usockid : Int) : Option Nat :=
  modem.list.find? (fun s => decide ((modem.socket s).usockid = usockid))

def socketGetNumActive (modem : Ubmodem) : Nat :=
  modem.list.countP (fun s => decide ((modem.socket s).state ≠ .free))

/-- The search for an identifier that no socket uses, in at most `fuel` turns: the
identifier and the counter after it. -/
def pickUsockid (modem : Ubmodem) : Nat → Nat → Option (Int × Nat)
  | 0, _ => none
  | fuel + 1, counter =>
    let usockid : Int := ↑(counter % 2048 + 1)
    match modem.socketGetByUsockid usockid with
    | none => some (usockid, counter + 1)
    | some _ => modem.pickUsockid fuel (counter + 1)

def handleSocketRequest (env : Env) (head : Head) (domain type : Int) (modem : Ubmodem) :
    Ubmodem :=
  if domain ≠ AF_INET then modem.usrsockSendResponse head false (-EAFNOSUPPORT)
  else
    match sockType type with
    | none => modem.usrsockSendResponse head false (-EPROTONOSUPPORT)
    | some type =>
      if maxSocketsOpen ≤ modem.socketGetNumActive then
        modem.usrsockSendResponse head false (-ENOBUFS)
      else if env.socketAllocated = false then modem.usrsockSendResponse head false (-ENOMEM)
      else
        match modem.pickUsockid 2048 modem.usockidCounter with
        | none => modem
        | some (usockid, counter) =>
          let s := modem.nextSocket
          { modem with
            socket := Function.update modem.socket s (Socket.new usockid type head)
            list := s :: modem.list
            nextSocket := s + 1
            usockidCounter := counter }.usrsockSendResponse head true (-EINPROGRESS)

def handleCloseRequest (head : Head) (usockid : Int) (modem : Ubmodem) : Ubmodem :=
  match modem.socketGetByUsockid usockid with
  | none => modem.usrsockSendResponse head false (-EBADF)
  | some s =>
    if (modem.socket s).isClosed ∨ (modem.socket s).modemSd < 0 then
      ((modem.modify s (fun sock => { sock with isFreeingPending := true })).updateState
        s).usrsockSendResponse
        head false 0
    else
      ((modem.modify s (fun sock => { sock with isClosing := true, req := head })).updateState
        s).usrsockSendResponse
        head true (-EINPROGRESS)

def handleConnectRequest (env : Env) (head : Head) (usockid : Int) (addrlen : Nat)
    (modem : Ubmodem) : Ubmodem :=
  match modem.socketGetByUsockid usockid with
  | none => modem.usrsockSendResponse head false (-EBADF)
  | some s =>
    if (modem.socket s).isClosed ∨ (modem.socket s).modemSd < 0 then
      modem.usrsockSendResponse head false (-EPIPE)
    else if addrlen < sizeofAddress then modem.usrsockSendResponse head false (-EINVAL)
    else
      match env.address with
      | none => modem.usrsockSendResponse head false (-EMSGSIZE)
      | some addr =>
        if addr.family ≠ AF_INET then modem.usrsockSendResponse head false (-EINVAL)
        else
          match (modem.socket s).type with
          | .stream =>
            ((modem.modify s (fun sock =>
              { sock with peeraddr := addr, isWaitingConn := true, req := head })).updateState
                s).usrsockSendResponse head true (-EINPROGRESS)
          | .dgram =>
            (modem.modify s (fun sock =>
              { sock with peeraddr := addr, isWaitingConn := false })).usrsockSendResponse
                head false 0

/-- The address of a `sendto` request for a datagram socket, or an error. -/
def sendtoAddress (env : Env) (sock : Socket) (addrlen buflen : Nat) : Except Int Address :=
  let toaddr : Except Int Address :=
    if addrlen < sizeofAddress then
      if addrlen = 0 ∧ sock.peeraddr.addr ≠ 0 then .ok sock.peeraddr
      else if 0 < addrlen then .error (-EINVAL)
      else .error (-EDESTADDRREQ)
    else
      match env.address with
      | none => .error (-EMSGSIZE)
      | some addr => .ok addr
  match toaddr with
  | .error err => .error err
  | .ok addr =>
    if addr.family ≠ AF_INET then .error (-EINVAL)
    else if maxPacketPayload < buflen then .error (-EMSGSIZE)
    else .ok addr

def handleSendtoRequest (env : Env) (head : Head) (usockid : Int) (addrlen buflen : Nat)
    (modem : Ubmodem) : Ubmodem :=
  match modem.socketGetByUsockid usockid with
  | none => modem.usrsockSendResponse head false (-EBADF)
  | some s =>
    let sock := modem.socket s
    if sock.isClosed ∨ sock.modemSd < 0 then modem.usrsockSendResponse head false (-EPIPE)
    else
      let toaddr :=
        match sock.type with
        | .dgram => sendtoAddress env sock addrlen buflen
        | .stream => .ok ⟨0, 0, 0⟩
      match toaddr with
      | .error err => modem.usrsockSendResponse head false err
      | .ok toaddr =>
        if sock.txBufFull then modem.usrsockSendResponse head false (-EAGAIN)
        else
          (modem.modify s (fun sock =>
            { sock with toaddr := toaddr, buflen := buflen, req := head })).updateState s

def handleRecvfromRequest (head : Head) (usockid : Int) (maxBuflen maxAddrlen : Nat)
    (modem : Ubmodem) : Ubmodem :=
  match modem.socketGetByUsockid usockid with
  | none => modem.usrsockSendResponse head false (-EBADF)
  | some s =>
    if (modem.socket s).isClosed ∨ (modem.socket s).modemSd < 0 then
      modem.usrsockSendResponse head false (-EPIPE)
    else if (modem.socket s).avail = 0 then modem.usrsockSendResponse head false (-EAGAIN)
    else
      ((modem.modify s (fun sock =>
        { sock with
          req := head
          isWaitingRecv := true
          maxAddrlen := maxAddrlen
          maxBuflen := maxBuflen })).updateState s).usrsockSendResponse head true (-EINPROGRESS)

def handleSetgetsockoptRequest (head : Head) (usockid level option : Int) (valuelen : Nat)
    (set : Bool) (modem : Ubmodem) : Ubmodem :=
  match modem.socketGetByUsockid usockid with
  | none => modem.usrsockSendResponse head false (-EBADF)
  | some s =>
    if (modem.socket s).isClosed ∨ (modem.socket s).modemSd < 0 then
      modem.usrsockSendResponse head false (-EBADF)
    else if level ≠ 0 then modem.usrsockSendResponse head false (-ENOPROTOOPT)
    else
      match modemOption option with
      | none => modem.usrsockSendResponse head false (-ENOPROTOOPT)
      | some (option, valuesize) =>
        if valuelen < valuesize then modem.usrsockSendResponse head false (-EINVAL)
        else
          let modem := (modem.modify s (fun sock =>
            { sock with
              req := head
              isSocketConfigPending := true
              config := .setgetsock MODEM_SOL_SOCKET option valuesize })).updateState s
          if set then modem else modem.usrsockSendResponse head true (-EINPROGRESS)

def handleBindRequest (env : Env) (head : Head) (usockid : Int) (addrlen : Nat)
    (modem : Ubmodem) : Ubmodem :=
  match modem.socketGetByUsockid usockid with
  | none => modem.usrsockSendResponse head false (-EBADF)
  | some s =>
    if (modem.socket s).isClosed ∨ (modem.socket s).modemSd < 0 then
      modem.usrsockSendResponse head false (-EBADF)
    else if addrlen < sizeofAddress then modem.usrsockSendResponse head false (-EINVAL)
    else
      match env.address with
      | none => modem.usrsockSendResponse head false (-EMSGSIZE)
      | some addr =>
        if addr.family ≠ AF_INET then modem.usrsockSendResponse head false (-EINVAL)
        else if (modem.socket s).type = .stream ∨ addr.port = 0 then
          (modem.modify s (fun sock =>
            { sock with isSocketConfigPending := false })).usrsockSendResponse head false 0
        else
          ((modem.modify s (fun sock =>
            { sock with
              req := head
              isSocketConfigPending := true
              config := .bind addr })).updateState s).usrsockSendResponse head true (-EINPROGRESS)

/-- The handlers of `__ubmodem_usrsock_handle_request`. -/
def handleRequest (env : Env) (xid : Nat) (request : Request) (modem : Ubmodem) : Ubmodem :=
  let head : Head := ⟨request.reqid, xid⟩
  let modem := modem.addXidToPollOffList xid
  match request with
  | .socket domain type => modem.handleSocketRequest env head domain type
  | .close usockid => modem.handleCloseRequest head usockid
  | .connect usockid addrlen => modem.handleConnectRequest env head usockid addrlen
  | .sendto usockid addrlen buflen => modem.handleSendtoRequest env head usockid addrlen buflen
  | .recvfrom usockid maxBuflen maxAddrlen =>
    modem.handleRecvfromRequest head usockid maxBuflen maxAddrlen
  | .setsockopt usockid level option valuelen =>
    modem.handleSetgetsockoptRequest head usockid level option valuelen true
  | .getsockopt usockid level option maxValuelen =>
    modem.handleSetgetsockoptRequest head usockid level option maxValuelen false
  | .bind usockid addrlen => modem.handleBindRequest env head usockid addrlen

def handleResult (env : Env) (inetAddr : List UInt8 → Nat) (command : Command) (s : Nat)
    (status : RespStatus) (stream : List UInt8) (modem : Ubmodem) : Ubmodem :=
  match command with
  | .usocr _ => modem.openSocketHandler env s status stream
  | .usocl _ => modem.closeSocketHandler env s status
  | .usoco _ _ => modem.connectSocketHandler env s status
  | .usord _ _ | .usorf _ _ => modem.socketRecvfromHandler env inetAddr s status stream
  | .usostBinary _ _ _ | .usowrBinary _ _ => modem.dataPromptHandler env s status
  | .usostData _ | .usowrData _ => modem.socketWriteHandler env s status stream
  | .usoctl _ => modem.getTcpUnackBytesHandler env s status stream
  | .usoso _ _ _ _ => modem.setsockoptHandler s status
  | .usogo _ _ _ => modem.getsockoptHandler s status stream
  | .usoli _ _ => modem.bindUdpHandler s status
  | .cmee => modem.socketErrorCmeeHandler env s (readCmee status stream)
  | .usoer => modem.getSocketErrorHandler s status stream

def handleTimer (env : Env) (timer : Timer) (modem : Ubmodem) : Ubmodem :=
  match timer.kind with
  | .dataPromptDelay => modem.dataPromptDelayHandler env timer.socket
  | .txbufFullRecheckDelay => modem.txbufFullRecheckDelayHandler timer.socket

/-- What happens next. `result` is the result of the AT command that is awaited,
`timer` the expiry of one of the pending timers, and `work` the start of socket work by
the main state machine. -/
inductive Input where
  | request (xid : Nat) (request : Request)
  | result (status : RespStatus) (stream : List UInt8)
  | timer (id : Nat)
  | urcRead (stream : List UInt8)
  | urcClose (stream : List UInt8)
  | work

variable (inetAddr : List UInt8 → Nat)

/-- One step of a run. A step that is not possible changes nothing. -/
def step (modem : Ubmodem) (input : Input × Env) : Ubmodem :=
  let env := input.2
  match input.1 with
  | .request xid request =>
    if modem.pollOffCount = 0 then modem.handleRequest env xid request else modem
  | .result status stream =>
    match modem.outstanding with
    | none => modem
    | some (command, s) =>
      { modem with outstanding := none }.handleResult env inetAddr command s status stream
  | .timer id =>
    match modem.timers.find? (fun timer => decide (timer.id = id)) with
    | none => modem
    | some timer => (modem.removeTimer id).handleTimer env timer
  | .urcRead stream => modem.urcSocketReadHandler stream
  | .urcClose stream => modem.urcSocketCloseHandler stream
  | .work =>
    if modem.state = .waiting ∧
      modem.list.any (fun s => decide ((modem.socket s).state ≠ .inactive))
    then { modem with state := .doSocketWork }.doUsrsockWork env
    else modem

def run (modem : Ubmodem) (inputs : List (Input × Env)) : Ubmodem :=
  inputs.foldl (step inetAddr) modem

/-- The daemon after `__ubmodem_usrsock_initialize`. -/
def initial : Ubmodem where
  state := .waiting
  socket := fun _ => Socket.new 0 .stream ⟨.socket, 0⟩
  list := []
  nextSocket := 0
  usockidCounter := 0
  pollOffCount := 0
  pollOffList := List.replicate (maxSocketsOpen + 1) 0
  outstanding := none
  timers := []
  nextTimer := 0
  sent := []
  tasks := []

end Ubmodem

end Thingsee.Sockets
