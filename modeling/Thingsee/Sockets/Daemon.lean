import Thingsee.Sockets.Types
import Mathlib.Logic.Function.Basic

/-!
Owns the work of the socket daemon: `ubmodem_usrsock.c` and the handlers of
`ubmodem_usrsock_{socket,close,connect,sendto,recvfrom,setgetsock,bind}.c` for the
results of AT commands, for timers and for unsolicited results.

A failed assertion does nothing, as in a build without `CONFIG_DEBUG`. Waking the main
state machine is left out: it may do the next work whenever it waits.
-/

namespace Thingsee.Sockets

open Modem (RespStatus streamGetInt8 streamGetInt16 streamGetInt32 streamGetString)
open Usrsock (EAGAIN EPIPE EINVAL ENETDOWN ECONNREFUSED EINPROGRESS)

def respStatusIsErrorOrTimeout (status : RespStatus) : Bool :=
  decide (status ∈ [.error, .cmeError, .cmsError, .timeout])

namespace Ubmodem

def modify (modem : Ubmodem) (s : Nat) (change : Socket → Socket) : Ubmodem :=
  { modem with socket := Function.update modem.socket s (change (modem.socket s)) }

def removeXidFromPollOffList (modem : Ubmodem) (xid : Nat) : Ubmodem :=
  if modem.pollOffCount = 0 then modem
  else if xid ∈ modem.pollOffList then
    { modem with
      pollOffList := modem.pollOffList.set (modem.pollOffList.idxOf xid) 0
      pollOffCount := modem.pollOffCount - 1 }
  else modem

def addXidToPollOffList (modem : Ubmodem) (xid : Nat) : Ubmodem :=
  if 0 ∈ modem.pollOffList then
    { modem with
      pollOffList := modem.pollOffList.set (modem.pollOffList.idxOf 0) xid
      pollOffCount := modem.pollOffCount + 1 }
  else modem

/-- A `write` to the link. -/
def write (modem : Ubmodem) (message : Message) : Ubmodem :=
  { modem with sent := message :: modem.sent }

def usrsockSendResponse (modem : Ubmodem) (req : Head) (inprogress : Bool) (result : Int) :
    Ubmodem :=
  (modem.write (.response req.xid inprogress result)).removeXidFromPollOffList req.xid

def usrsockSendEvent (modem : Ubmodem) (s : Nat) (events : SocketEvent) : Ubmodem :=
  modem.write (.event (modem.socket s).usockid events)

def removeTimer (modem : Ubmodem) (id : Nat) : Ubmodem :=
  { modem with timers := modem.timers.filter (fun timer => timer.id ≠ id) }

/-- `sock->timerid = __ubmodem_set_timer (...)`. -/
def setTimer (env : Env) (kind : TimerKind) (s : Nat) (modem : Ubmodem) : Ubmodem :=
  if env.timerSet then
    { modem.modify s (fun sock => { sock with timerid := some modem.nextTimer }) with
      timers := modem.timers ++ [⟨modem.nextTimer, kind, s⟩]
      nextTimer := modem.nextTimer + 1 }
  else modem.modify s (fun sock => { sock with timerid := none })

/-- `__ubmodem_send_cmd`, with the assertion that it succeeds. -/
def sendCmd (env : Env) (command : Command) (s : Nat) (modem : Ubmodem) : Ubmodem :=
  if env.commandSent then { modem with outstanding := some (command, s) } else modem

/-- `__ubmodem_send_raw`, with the assertion that it succeeds. -/
def sendRaw (env : Env) (command : Command) (s : Nat) (modem : Ubmodem) : Ubmodem :=
  if env.rawSent then { modem with outstanding := some (command, s) } else modem

def recoverStuckHardware (modem : Ubmodem) : Ubmodem :=
  { modem with tasks := modem.tasks ++ [.recoverStuckHardware] }

end Ubmodem

/-- The work that `__ubsocket_update_state` finds for an inactive socket, and whether
it makes the socket the first one. -/
def Socket.pendingWork (sock : Socket) : Option (SocketState × Bool) :=
  if sock.isFreeingPending then some (.free, true)
  else if sock.isClosing then some (.closing, true)
  else if sock.isSocketConfigPending then some (.socketConfig, true)
  else if sock.isWaitingConn then some (.connecting, true)
  else if sock.txBufFullRecheck then some (.checkingTxfull, false)
  else if sock.isWaitingRecv then some (.receiving, false)
  else if 0 < sock.buflen then some (.sending, false)
  else none

/-- What `__ubsocket_work_done` clears for the state of the socket. -/
def Socket.clearWork (sock : Socket) : Socket :=
  match sock.state with
  | .sending => { sock with buflen := 0 }
  | .receiving => { sock with isWaitingRecv := false }
  | .connecting => { sock with isWaitingConn := false }
  | .checkingTxfull => { sock with txBufFullRecheck := false }
  | .socketConfig => { sock with isSocketConfigPending := false }
  | _ => sock

namespace Ubmodem

def removeSocketTimer (s : Nat) (modem : Ubmodem) : Ubmodem :=
  match (modem.socket s).timerid with
  | none => modem
  | some id => (modem.removeTimer id).modify s (fun sock => { sock with timerid := none })

def updateState (s : Nat) (modem : Ubmodem) : Ubmodem :=
  if (modem.socket s).state ≠ .inactive then modem
  else
    match (modem.socket s).pendingWork with
    | none => modem
    | some (state, makeFirst) =>
      let modem := modem.modify s (fun sock => { sock with state := state })
      let modem := if state = .free then modem.removeSocketTimer s else modem
      let others := modem.list.erase s
      { modem with list := if makeFirst then s :: others else others ++ [s] }

/-- `__ubsocket_work_done`. -/
def workDone (s : Nat) (modem : Ubmodem) : Ubmodem :=
  let modem := modem.modify s (fun sock => { sock.clearWork with state := .inactive })
  { modem.updateState s with state := .waiting }

/-- The common end of work: a final response, and `__ubsocket_work_done`. -/
def finish (s : Nat) (result : Int) (modem : Ubmodem) : Ubmodem :=
  (modem.usrsockSendResponse (modem.socket s).req false result).workDone s

def handleSendtoBufferFull (s : Nat) (modem : Ubmodem) : Ubmodem :=
  let sock := modem.socket s
  if sock.isClosed ∨ sock.modemSd < 0 then modem
  else
    modem.modify s (fun sock =>
      { sock with txBufFull := true, txBufFullRecheck := true, numUnackStart := -1 })

def socketCompleteError (s : Nat) (err : Int) (modem : Ubmodem) : Ubmodem :=
  match (modem.socket s).state with
  | .opening =>
    (modem.modify s (fun sock => { sock with isFreeingPending := true })).finish s err
  | .sending =>
    if err = -EAGAIN then
      match (modem.socket s).type with
      | .stream => (modem.handleSendtoBufferFull s).finish s err
      | .dgram => modem.finish s (modem.socket s).buflen
    else modem.finish s err
  | .connecting => modem.finish s (if err = -EPIPE then -ECONNREFUSED else err)
  | _ => modem.finish s err

def getSocketErrorHandler (s : Nat) (status : RespStatus) (stream : List UInt8)
    (modem : Ubmodem) : Ubmodem :=
  if respStatusIsErrorOrTimeout status ∨ status ≠ .ok then modem.socketCompleteError s (-EPIPE)
  else
    match streamGetInt32 stream with
    | none => modem
    | some (errorCode, _) =>
      let err := -modemSocketErrorToSystemErrno errorCode
      modem.socketCompleteError s (if err = 0 then -EPIPE else err)

/-- `read_CMEE_handler`: whether the setting is as it should be. -/
def readCmee (status : RespStatus) (stream : List UInt8) : Bool :=
  if respStatusIsErrorOrTimeout status ∨ status ≠ .ok then false
  else
    match streamGetInt8 stream with
    | none => false
    | some (setting, _) => decide (setting = 1)

def socketErrorCmeeHandler (env : Env) (s : Nat) (cmeeOk : Bool) (modem : Ubmodem) : Ubmodem :=
  if cmeeOk = false then (modem.socketCompleteError s (-EPIPE)).recoverStuckHardware
  else if (modem.socket s).isClosed then modem.socketCompleteError s (-EPIPE)
  else modem.sendCmd env .usoer s

/-- `__ubmodem_get_socket_error`. Without memory for the check nothing is sent. -/
def getSocketError (env : Env) (s : Nat) (modem : Ubmodem) : Ubmodem :=
  if env.cmeeAllocated then modem.sendCmd env .cmee s else modem

def openSocket (env : Env) (s : Nat) (modem : Ubmodem) : Ubmodem :=
  modem.sendCmd env
    (.usocr (match (modem.socket s).type with | .stream => 6 | .dgram => 17)) s

def openSocketHandler (env : Env) (s : Nat) (status : RespStatus) (stream : List UInt8)
    (modem : Ubmodem) : Ubmodem :=
  let freeing (modem : Ubmodem) := modem.modify s (fun sock =>
    { sock with isFreeingPending := true })
  let req := (modem.socket s).req
  if status = .error then modem.getSocketError env s
  else if status = .timeout then
    ((freeing (modem.usrsockSendResponse req false (-ENETDOWN))).workDone s).recoverStuckHardware
  else if respStatusIsErrorOrTimeout status ∨ status ≠ .ok then
    (freeing (modem.usrsockSendResponse req false (-ENOBUFS))).workDone s
  else
    match streamGetInt8 stream with
    | none => modem
    | some (sockid, _) =>
      let modem := modem.modify s (fun sock => { sock with modemSd := sockid })
      let modem := modem.usrsockSendResponse req false (modem.socket s).usockid
      let modem :=
        if (modem.socket s).type = .dgram then modem.usrsockSendEvent s .sendtoReady else modem
      modem.workDone s

def socketIsClosed (s : Nat) (modem : Ubmodem) : Ubmodem :=
  let modem := modem.modify s (fun sock => { sock with isClosed := true, modemSd := -1 })
  let modem := modem.usrsockSendResponse (modem.socket s).req false 0
  (modem.modify s (fun sock => { sock with isFreeingPending := true })).workDone s

def closeSocket (env : Env) (s : Nat) (modem : Ubmodem) : Ubmodem :=
  let sock := modem.socket s
  if sock.isClosed ∨ sock.modemSd < 0 then modem.socketIsClosed s
  else modem.sendCmd env (.usocl sock.modemSd) s

def closeSocketHandler (env : Env) (s : Nat) (status : RespStatus) (modem : Ubmodem) : Ubmodem :=
  let modem := modem.socketIsClosed s
  if status = .timeout then modem.recoverStuckHardware
  else if env.dnsFailed then { modem with tasks := modem.tasks ++ [.reinitializeGprs] }
  else modem

def connectSocket (env : Env) (s : Nat) (modem : Ubmodem) : Ubmodem :=
  modem.sendCmd env (.usoco (modem.socket s).modemSd (modem.socket s).peeraddr) s

def connectSocketHandler (env : Env) (s : Nat) (status : RespStatus) (modem : Ubmodem) : Ubmodem :=
  if (modem.socket s).isClosed then modem.finish s (-EPIPE)
  else if status = .error then modem.getSocketError env s
  else if respStatusIsErrorOrTimeout status ∨ status ≠ .ok then modem.finish s (-EPIPE)
  else
    let modem := modem.usrsockSendResponse (modem.socket s).req false 0
    (modem.usrsockSendEvent s .sendtoReady).workDone s

def socketWriteHandler (env : Env) (s : Nat) (status : RespStatus) (stream : List UInt8)
    (modem : Ubmodem) : Ubmodem :=
  let sock := modem.socket s
  if sock.isClosed ∨ sock.modemSd < 0 then modem.finish s (-EPIPE)
  else if status = .error then modem.getSocketError env s
  else if respStatusIsErrorOrTimeout status ∨ status ≠ .ok then modem.finish s (-EPIPE)
  else
    match streamGetInt8 stream with
    | none => modem.finish s (-EPIPE)
    | some (sockid, rest) =>
      match streamGetInt16 rest with
      | none => modem.finish s (-EPIPE)
      | some (buflen, _) =>
        if sockid ≠ sock.modemSd ∨ buflen ≠ sock.buflen then modem.finish s (-EPIPE)
        else (modem.finish s sock.buflen).usrsockSendEvent s .sendtoReady

def dataPromptDelayHandler (env : Env) (s : Nat) (modem : Ubmodem) : Ubmodem :=
  let modem := modem.modify s (fun sock => { sock with timerid := none })
  let sock := modem.socket s
  match env.data with
  | none => modem.finish s (-EPIPE)
  | some data =>
    if data.length ≠ sock.buflen then modem.finish s (-EPIPE)
    else
      let modem := modem.usrsockSendResponse sock.req true (-EINPROGRESS)
      modem.sendRaw env
        (match sock.type with | .dgram => .usostData data | .stream => .usowrData data) s

def dataPromptHandler (env : Env) (s : Nat) (status : RespStatus) (modem : Ubmodem) : Ubmodem :=
  if respStatusIsErrorOrTimeout status ∨ status ≠ .dataprompt then modem.finish s (-EPIPE)
  else
    let modem := modem.setTimer env .dataPromptDelay s
    if env.timerSet then modem else modem.dataPromptDelayHandler env s

def sendtoSocket (env : Env) (s : Nat) (modem : Ubmodem) : Ubmodem :=
  if (modem.socket s).isClosed then modem.finish s (-EPIPE)
  else
    let modem := modem.modify s (fun sock =>
      { sock with buflen := min (min sock.buflen maxResponseStreamLen) maxSocketWrite })
    let sock := modem.socket s
    modem.sendCmd env
      (match sock.type with
        | .dgram => .usostBinary sock.modemSd sock.toaddr sock.buflen
        | .stream => .usowrBinary sock.modemSd sock.buflen) s

def txbufFullRecheckDelayHandler (s : Nat) (modem : Ubmodem) : Ubmodem :=
  (modem.modify s (fun sock =>
    { sock with timerid := none, txBufFullRecheck := true })).updateState s

def setupSendtoBufferFullTimer (env : Env) (s : Nat) (modem : Ubmodem) : Ubmodem :=
  let modem := modem.setTimer env .txbufFullRecheckDelay s
  if env.timerSet then modem else modem.txbufFullRecheckDelayHandler s

/-- The answer to `+USOCTL=<sock>,11`: the number of unacknowledged bytes, or nothing if
it is not well formed. -/
def readUnackedBytes (modemSd : Int) (status : RespStatus) (stream : List UInt8) : Option Int :=
  if respStatusIsErrorOrTimeout status ∨ status ≠ .ok then none
  else
    match streamGetInt8 stream with
    | none => none
    | some (sockid, rest) =>
      if sockid ≠ modemSd then none
      else
        match streamGetInt8 rest with
        | none => none
        | some (ctlreqid, rest) =>
          if ctlreqid ≠ 11 then none
          else (streamGetInt32 rest).map (fun result => result.1)

/-- Whether the modem has space for a buffer of maximal size. -/
def hasSpace (numUnackStart nbytesUnacked : Int) : Bool :=
  decide (nbytesUnacked = 0 ∨ numUnackStart - nbytesUnacked ≥ maxSocketWrite)

def getTcpUnackBytesHandler (env : Env) (s : Nat) (status : RespStatus) (stream : List UInt8)
    (modem : Ubmodem) : Ubmodem :=
  let sock := modem.socket s
  if sock.isClosed ∨ sock.modemSd < 0 then modem.workDone s
  else
    match readUnackedBytes sock.modemSd status stream with
    | none => (modem.usrsockSendEvent s .sendtoReady).workDone s
    | some nbytesUnacked =>
      let start := if sock.numUnackStart < 0 then nbytesUnacked else sock.numUnackStart
      let modem := modem.modify s (fun sock => { sock with numUnackStart := start })
      if hasSpace start nbytesUnacked then
        let modem := modem.modify s (fun sock =>
          { sock with numUnackStart := -1, txBufFull := false })
        ((modem.removeSocketTimer s).usrsockSendEvent s .sendtoReady).workDone s
      else (modem.setupSendtoBufferFullTimer env s).workDone s

def checkTxfullSocket (env : Env) (s : Nat) (modem : Ubmodem) : Ubmodem :=
  modem.sendCmd env (.usoctl (modem.socket s).modemSd) s

/-- `__ubmodem_stream_max_readbuf_len` for the command that reads from a socket, less
the space for an address. -/
def maxReadbufLen : SockType → Nat
  | .stream => maxResponseStreamLen - 1 - 3
  | .dgram => maxResponseStreamLen - 1 - 2 - 4 - 3 - 16

def recvfromSocket (env : Env) (s : Nat) (modem : Ubmodem) : Ubmodem :=
  let sock := modem.socket s
  if sock.isClosed then modem.finish s (-EPIPE)
  else
    let inlen := min sock.avail sock.maxBuflen
    let recvlen := min (min (maxReadbufLen sock.type) maxSocketRead) inlen
    modem.sendCmd env
      (match sock.type with
        | .dgram => .usorf sock.modemSd recvlen
        | .stream => .usord sock.modemSd recvlen) s

/-- The address in the answer to `+USORF`, and the rest of the answer. `inetAddr` reads
the text of an address. -/
def readAddress (inetAddr : List UInt8 → Nat) (stream : List UInt8) :
    Option (Address × List UInt8) :=
  match streamGetString stream with
  | none => none
  | some (addrstr, rest) =>
    match streamGetInt32 rest with
    | none => none
    | some (port, rest) =>
      some (⟨AF_INET, (port % 65536).toNat / 256 + (port % 256).toNat * 256, inetAddr addrstr⟩,
        rest)

def socketRecvfromHandler (env : Env) (inetAddr : List UInt8 → Nat) (s : Nat)
    (status : RespStatus) (stream : List UInt8) (modem : Ubmodem) : Ubmodem :=
  let sock := modem.socket s
  if sock.isClosed then modem.finish s (-EPIPE)
  else if status = .error then modem.getSocketError env s
  else if respStatusIsErrorOrTimeout status ∨ status ≠ .ok then modem.finish s (-EPIPE)
  else
    match streamGetInt8 stream with
    | none => modem.finish s (-EPIPE)
    | some (sockid, rest) =>
      if sockid ≠ sock.modemSd then modem.finish s (-EPIPE)
      else
        let peer :=
          match sock.type with
          | .dgram => readAddress inetAddr rest
          | .stream => some (sock.peeraddr, rest)
        match peer with
        | none => modem.finish s (-EPIPE)
        | some (addr, rest) =>
          match streamGetString rest with
          | none => modem.finish s (-EPIPE)
          | some (buf, _) =>
            (modem.write (.dataResponse sock.req.xid buf.length
              (.address addr (min sizeofAddress sock.maxAddrlen)) buf)).workDone s

/-- `__ubmodem_setsockopt_socket`. A value that is not read completely is answered, but
the work is not marked as done. -/
def setsockoptSocket (env : Env) (s : Nat) (modem : Ubmodem) : Ubmodem :=
  let sock := modem.socket s
  match env.value with
  | none => modem.usrsockSendResponse sock.req false (-EMSGSIZE)
  | some (onoff, linger) =>
    let modem := modem.usrsockSendResponse sock.req true (-EINPROGRESS)
    let setting : Int := if onoff = 0 then 0 else 1
    if sock.config.option = MODEM_SO_LINGER then
      let msec := if onoff = 0 then 0 else max 0 (min (linger * 1000) 32767)
      modem.sendCmd env
        (.usoso sock.modemSd sock.config.level sock.config.option [setting, msec]) s
    else
      modem.sendCmd env (.usoso sock.modemSd sock.config.level sock.config.option [setting]) s

/-- `setsockopt_handler` and `bind_udp_handler`, which are the same. -/
def configHandler (s : Nat) (status : RespStatus) (modem : Ubmodem) : Ubmodem :=
  let sock := modem.socket s
  if sock.isClosed ∨ sock.modemSd < 0 then modem.finish s (-EBADF)
  else if respStatusIsErrorOrTimeout status ∨ status ≠ .ok then modem.finish s (-EINVAL)
  else modem.finish s 0

def setsockoptHandler : Nat → RespStatus → Ubmodem → Ubmodem := configHandler

def bindUdpHandler : Nat → RespStatus → Ubmodem → Ubmodem := configHandler

def getsockoptSocket (env : Env) (s : Nat) (modem : Ubmodem) : Ubmodem :=
  let sock := modem.socket s
  modem.sendCmd env (.usogo sock.modemSd sock.config.level sock.config.option) s

/-- The option value in the answer to `+USOGO`. -/
def readOptval (option : Nat) (stream : List UInt8) : Option RespValue :=
  match streamGetInt32 stream with
  | none => none
  | some (first, rest) =>
    let onoff : Int := if first = 0 then 0 else 1
    if option = MODEM_SO_LINGER then
      (streamGetInt32 rest).map (fun second => .linger onoff (second.1.tdiv 1000))
    else some (.int onoff)

def getsockoptHandler (s : Nat) (status : RespStatus) (stream : List UInt8) (modem : Ubmodem) :
    Ubmodem :=
  let sock := modem.socket s
  if sock.isClosed ∨ sock.modemSd < 0 then modem.finish s (-EBADF)
  else if respStatusIsErrorOrTimeout status ∨ status ≠ .ok then modem.finish s (-EINVAL)
  else
    match readOptval sock.config.option stream with
    | none => modem
    | some value => (modem.write (.dataResponse sock.req.xid 0 value [])).workDone s

def bindSocket (env : Env) (s : Nat) (modem : Ubmodem) : Ubmodem :=
  modem.sendCmd env (.usoli (modem.socket s).modemSd (modem.socket s).config.port) s

/-- `__ubmodem_do_socket_config`. A request of another kind is answered, but the work is
not marked as done. -/
def doSocketConfig (env : Env) (s : Nat) (modem : Ubmodem) : Ubmodem :=
  let sock := modem.socket s
  if sock.isClosed then modem.finish s (-EBADF)
  else
    match sock.req.reqid with
    | .setsockopt => modem.setsockoptSocket env s
    | .getsockopt => modem.getsockoptSocket env s
    | .bind => modem.bindSocket env s
    | _ => modem.usrsockSendResponse sock.req false (-EINVAL)

/-- `__ubmodem_do_usrsock_work`, for the state `MODEM_STATE_DO_SOCKET_WORK`. -/
def doUsrsockWork (env : Env) (modem : Ubmodem) : Ubmodem :=
  match modem.list.find? (fun s => decide ((modem.socket s).state ≠ .inactive)) with
  | none => { modem with state := .waiting }
  | some s =>
    match (modem.socket s).state with
    | .opening => modem.openSocket env s
    | .closing => modem.closeSocket env s
    | .connecting => modem.connectSocket env s
    | .sending => modem.sendtoSocket env s
    | .receiving => modem.recvfromSocket env s
    | .checkingTxfull => modem.checkTxfullSocket env s
    | .socketConfig => modem.doSocketConfig env s
    | .free => { modem with list := modem.list.erase s, state := .waiting }
    | .inactive => modem

def urcSocketReadHandler (stream : List UInt8) (modem : Ubmodem) : Ubmodem :=
  match streamGetInt8 stream with
  | none => modem
  | some (sockid, rest) =>
    match streamGetInt32 rest with
    | none => modem
    | some (datalen, _) =>
      match modem.list.find? (fun s => decide ((modem.socket s).modemSd = sockid ∧
          (modem.socket s).isClosed = false)) with
      | none => modem
      | some s =>
        (modem.modify s (fun sock =>
          { sock with avail := (datalen % 65536).toNat })).usrsockSendEvent
          s .recvfromAvail

def urcSocketCloseHandler (stream : List UInt8) (modem : Ubmodem) : Ubmodem :=
  match streamGetInt8 stream with
  | none => modem
  | some (sockid, _) =>
    match modem.list.find? (fun s => decide ((modem.socket s).modemSd = sockid)) with
    | none => modem
    | some s =>
      let modem := modem.modify s (fun sock => { sock with isClosed := true, modemSd := -1 })
      (modem.usrsockSendEvent s .remoteClosed).updateState s

end Ubmodem

end Thingsee.Sockets
