import Mathlib.Data.List.Basic

/-!
Owns the socket daemon of the WiFi thread (conman_cc3000.c): the requests that it reads from
the usrsock link, the notifications of the CC3000 chip and the scan of its two tables. One table
has the sockets of the chip and is indexed by their number; the other one has the slots for the
sockets of the system. Both have `CC3000_MAX_SOCKETS` elements.

What the chip and the link answer is part of an action. The chip may hand out any socket number.
The bytes that are sent are left out.
-/

namespace Thingsee.Wifi

abbrev maxSockets : Nat := 5

def afInet : Nat := 2
def sockStream : Nat := 0
def sockDgram : Nat := 1

/-- `sizeof(struct sockaddr_in)`. -/
def sockaddrLength : Nat := 8

/-- `CC3000_USRSOCK_UDP_MAX_PACKET_PAYLOAD`, also the length of `iobuf`. -/
def maxPayload : Nat := 548

/-- The errors of a response. `link` is one that the usrsock link gave. -/
inductive Errno where
  | afnosupport
  | protonosupport
  | nobufs
  | badf
  | pipe
  | inval
  | destaddrreq
  | msgsize
  | again
  | inprogress
  | timedout
  | already
  | opnotsupp
  | link (errno : Nat)

def cc3000ErrorToErrno (err : Int) : Errno :=
  if err = -85 ∨ err = -119 then .inval
  else if err = -121 then .timedout
  else if err = -127 then .already
  else if err = -126 then .opnotsupp
  else if err = -122 then .badf
  else if err = -58 then .again
  else if err = -68 ∨ err = -128 then .nobufs
  else .pipe

/-- `struct sockaddr_in`. -/
structure SockAddr where
  family : Nat
  port : Nat
  addr : Nat

/-- The events of `struct usrsock_message_socket_event_s` that the daemon sends. -/
structure Events where
  sendtoReady : Bool := false
  recvfromAvail : Bool := false

def Events.isEmpty (events : Events) : Bool := !events.sendtoReady && !events.recvfromAvail

/-- What the daemon writes to the usrsock link: the result of a request, the data that a
socket received, or an event. -/
inductive Message where
  | response (xid : Nat) (inprogress : Bool) (result : Except Errno Int)
  | dataResponse (xid : Nat) (data : List UInt8) (addr : Option SockAddr) (valuelen nontrunc : Nat)
  | event (usockid : Int) (events : Events)

/-- `struct wifi_socket_stat_s`. -/
structure Stat where
  opened : Bool
  remoteClosed : Bool

/-- `struct wifi_socket_s`. For the statements: whether the peer of the chip's socket has
closed since the slot was opened, and whether such a report came for the connected slot and
the table was not scanned yet. -/
structure Slot where
  active : Bool
  connected : Bool
  sendReady : Bool
  recvAvail : Bool
  remoteClosed : Bool
  recvZeroRead : Bool
  wifisd : Int
  usockid : Int
  type : Nat
  remoteaddr : SockAddr
  reported : Bool
  unseen : Bool

/-- A slot after `memset`. -/
def Slot.zero : Slot where
  active := false
  connected := false
  sendReady := false
  recvAvail := false
  remoteClosed := false
  recvZeroRead := false
  wifisd := 0
  usockid := 0
  type := 0
  remoteaddr := ⟨0, 0, 0⟩
  reported := false
  unseen := false

/-- The two tables and what is written to the link. `outside` are the indices with which the
table of the chip's sockets was accessed where it has no element. -/
structure Daemon where
  stats : Fin maxSockets → Stat
  slots : Fin maxSockets → Slot
  link : List Message
  outside : List Int

def tableIndex (index : Int) : Option (Fin maxSockets) :=
  if inside : index.toNat < maxSockets ∧ 0 ≤ index then some ⟨index.toNat, inside.1⟩ else none

def Daemon.setStat (index : Int) (stat : Stat) (daemon : Daemon) : Daemon :=
  match tableIndex index with
  | some wifisd =>
    { daemon with stats := fun other => if other = wifisd then stat else daemon.stats other }
  | none => { daemon with outside := daemon.outside ++ [index] }

def Daemon.setSlot (i : Fin maxSockets) (slot : Slot) (daemon : Daemon) : Daemon :=
  { daemon with slots := fun other => if other = i then slot else daemon.slots other }

def Daemon.send (message : Message) (daemon : Daemon) : Daemon :=
  { daemon with link := daemon.link ++ [message] }

/-- `cc3000_usrsock_send_response` with the result of a request. -/
def Daemon.respond (xid : Nat) (result : Except Errno Int) (daemon : Daemon) : Daemon :=
  daemon.send (.response xid false result)

/-- The slot that `cc3000_usrsock_get_free_sock` finds. -/
def Daemon.getFreeSock (daemon : Daemon) : Option (Fin maxSockets) :=
  (List.finRange maxSockets).find? fun i => !(daemon.slots i).active

/-- `cc3000_usrsock_get_sock`. -/
def Daemon.getSock (usockid : Int) (daemon : Daemon) : Option (Fin maxSockets) :=
  (List.finRange maxSockets).find? fun i =>
    (daemon.slots i).active && decide ((daemon.slots i).usockid = usockid)

/-- What `cc3000_socket` returns. -/
inductive Opened where
  | socket (wifisd : Fin maxSockets)
  | failed (err : Int)

inductive LinkRead (α : Type) where
  | whole (value : α)
  | short
  | fails (errno : Nat)

def LinkRead.toExcept {α : Type} : LinkRead α → Except Errno α
  | .whole value => .ok value
  | .short => .error .msgsize
  | .fails errno => .error (.link errno)

def Daemon.stealSocket (i : Fin maxSockets) (wifisd : Int) (daemon : Daemon) : Daemon :=
  { daemon with slots := fun other =>
    if other ≠ i ∧ (daemon.slots other).wifisd = wifisd then
      { daemon.slots other with wifisd := -1 }
    else daemon.slots other }

/-- `cc3000_usrsock_handle_socket_request`. `written` tells whether the response is written. -/
def Daemon.socketRequest (xid domain type : Nat) (result : Opened) (written : Bool)
    (daemon : Daemon) : Daemon :=
  if domain ≠ afInet then daemon.respond xid (.error .afnosupport)
  else if type ≠ sockStream ∧ type ≠ sockDgram then daemon.respond xid (.error .protonosupport)
  else
    match daemon.getFreeSock with
    | none => daemon.respond xid (.error .nobufs)
    | some i =>
      match result with
      | .failed err =>
        (daemon.setSlot i Slot.zero).respond xid (.error (cc3000ErrorToErrno err))
      | .socket ret =>
        let wifisd : Int := ret.val
        let usockid : Int := i.val + 0xCC3
        let sock := { Slot.zero with active := true, wifisd, type, usockid }
        let opened := (daemon.setStat wifisd ⟨true, false⟩).setSlot i sock
        if written then
          let responded := opened.respond xid (.ok usockid)
          let ready :=
            if type = sockDgram then
              (responded.send (.event usockid { sendtoReady := true })).setSlot i
                { sock with sendReady := true }
            else responded
          ready.stealSocket i wifisd
        else opened

def Daemon.closeRequest (xid : Nat) (usockid : Int) (daemon : Daemon) : Daemon :=
  match daemon.getSock usockid with
  | none => daemon.respond xid (.error .badf)
  | some i =>
    let sock := daemon.slots i
    let closed := daemon.setStat sock.wifisd ⟨false, false⟩
    (closed.setSlot i { sock with active := false, wifisd := -1, usockid := -1 }).respond xid
      (.ok 0)

/-- `struct usrsock_request_sendto_s`, what the link gives for the address and the data behind
it, and what the chip returns. `seek` is the error of `lseek`, if there is one. -/
structure Sendto where
  xid : Nat
  usockid : Int
  addrlen : Nat
  buflen : Nat
  address : LinkRead SockAddr
  seek : Option Nat
  buffer : LinkRead Unit
  wlen : Int

/-- The part of `cc3000_usrsock_handle_sendto_request` that reads the address. -/
def Sendto.readAddress (sendto : Sendto) (sock : Slot) : Except Errno Unit :=
  let skip : Except Errno Unit :=
    match sendto.seek with
    | some errno => .error (.link errno)
    | none => .ok ()
  if sock.type = sockDgram then do
    let toaddr ←
      if sendto.addrlen < sockaddrLength then
        if sendto.addrlen = 0 ∧ sock.remoteaddr.addr ≠ 0 then .ok sock.remoteaddr
        else if 0 < sendto.addrlen then .error .inval
        else .error .destaddrreq
      else do
        let toaddr ← sendto.address.toExcept
        if sockaddrLength < sendto.addrlen then skip
        .ok toaddr
    if toaddr.family ≠ afInet then .error .inval
    else if maxPayload < sendto.buflen then .error .msgsize
    else .ok ()
  else if 0 < sendto.addrlen then skip
  else .ok ()

def Daemon.sendtoRequest (sendto : Sendto) (daemon : Daemon) : Daemon :=
  match daemon.getSock sendto.usockid with
  | none => daemon.respond sendto.xid (.error .badf)
  | some i =>
    let sock := daemon.slots i
    if sock.wifisd < 0 then daemon.respond sendto.xid (.error .pipe)
    else
      match sendto.readAddress sock with
      | .error err => daemon.respond sendto.xid (.error err)
      | .ok () =>
        if sock.remoteClosed then daemon.respond sendto.xid (.error .pipe)
        else
          match sendto.buffer.toExcept with
          | .error err => daemon.respond sendto.xid (.error err)
          | .ok () =>
            let sent := daemon.setSlot i { sock with sendReady := decide (0 < sendto.wlen) }
            if sendto.wlen = -2 then sent.respond sendto.xid (.error .again)
            else if sendto.wlen < 0 then
              sent.respond sendto.xid (.error (cc3000ErrorToErrno sendto.wlen))
            else
              let responded := sent.respond sendto.xid (.ok sendto.wlen)
              if 0 < sendto.wlen then
                responded.send (.event sock.usockid { sendtoReady := true })
              else responded

/-- What `cc3000_recv` or `cc3000_recvfrom` returns. -/
inductive Received where
  | data (bytes : List UInt8) (fromaddr : SockAddr) (fromlen : Nat)
  | failed (err : Int)

/-- `cc3000_usrsock_handle_recvfrom_request`. No event follows the data, as `recv_avail` is
cleared before. -/
def Daemon.recvfromRequest (xid : Nat) (usockid : Int) (maxBuflen maxAddrlen : Nat)
    (received : Received) (daemon : Daemon) : Daemon :=
  match daemon.getSock usockid with
  | none => daemon.respond xid (.error .badf)
  | some i =>
    let sock := daemon.slots i
    if sock.wifisd < 0 then daemon.respond xid (.error .pipe)
    else if sock.recvAvail = false then daemon.respond xid (.error .again)
    else if sock.remoteClosed ∧ sock.recvZeroRead then daemon.respond xid (.error .pipe)
    else
      let sock := { sock with recvAvail := false }
      match received with
      | .failed err =>
        (daemon.setSlot i sock).respond xid (.error (cc3000ErrorToErrno err))
      | .data bytes fromaddr fromlen =>
        let data := bytes.take (min maxPayload maxBuflen)
        let nontrunc := if sock.type = sockDgram then fromlen else 0
        let valuelen := min nontrunc maxAddrlen
        let sock :=
          if data = [] then { sock with recvZeroRead := true } else sock
        (daemon.setSlot i sock).send
          (.dataResponse xid data (if 0 < valuelen then some fromaddr else none) valuelen nontrunc)

/-- `cc3000_usrsock_handle_connect_request`. `written` is the error of the first response, if
it is not written, and `ret` what `cc3000_connect` returns. -/
def Daemon.connectRequest (xid : Nat) (usockid : Int) (addrlen : Nat)
    (address : LinkRead SockAddr) (unwritten : Option Nat) (ret : Int) (daemon : Daemon) : Daemon :=
  match daemon.getSock usockid with
  | none => daemon.respond xid (.error .badf)
  | some i =>
    let sock := daemon.slots i
    if sock.wifisd < 0 then daemon.respond xid (.error .pipe)
    else if addrlen < sockaddrLength then daemon.respond xid (.error .inval)
    else
      match address.toExcept with
      | .error err => daemon.respond xid (.error err)
      | .ok connaddr =>
        if connaddr.family ≠ afInet then daemon.respond xid (.error .inval)
        else
          let sock := { sock with remoteaddr := connaddr }
          let stored := daemon.setSlot i sock
          if sock.type = sockDgram then stored.respond xid (.ok 0)
          else
            match unwritten with
            | some errno => stored.respond xid (.error (.link errno))
            | none =>
              let progress := stored.send (.response xid true (.error .inprogress))
              if ret < 0 then progress.respond xid (.error (cc3000ErrorToErrno ret))
              else (progress.setSlot i { sock with connected := true }).respond xid (.ok 0)

/-- `HCI_EVNT_BSD_TCP_CLOSE_WAIT` in `wifi_async_callback`. -/
def Daemon.closeWait (wifisd : Int) (daemon : Daemon) : Daemon :=
  let noted := { daemon with slots := fun i =>
    let slot := daemon.slots i
    if slot.active ∧ slot.wifisd = wifisd then
      { slot with reported := true, unseen := slot.unseen || slot.connected }
    else slot }
  match tableIndex wifisd with
  | some sd =>
    if (daemon.stats sd).opened then noted.setStat wifisd ⟨true, true⟩ else noted
  | none => daemon

/-- The three sets of `cc3000_select`. -/
structure FdSets where
  readfds : Fin maxSockets → Bool
  writefds : Fin maxSockets → Bool
  exceptfds : Fin maxSockets → Bool

/-- `CC3000_FD_ISSET`. -/
def fdIsset (wifisd : Int) (set : Fin maxSockets → Bool) : Bool :=
  match tableIndex wifisd with
  | some sd => set sd
  | none => false

def FdSets.count (sets : FdSets) : Nat :=
  (List.finRange maxSockets).countP sets.readfds +
    (List.finRange maxSockets).countP sets.writefds +
    (List.finRange maxSockets).countP sets.exceptfds

/-- What `cc3000_select` does: it fails and leaves the sets as they are, or fills them in. -/
inductive Selected where
  | failed
  | ready (sets : FdSets)

/-- Whether `cc3000_usrsock_getfds` takes a slot. -/
def Slot.polled (slot : Slot) : Bool :=
  slot.active && decide (0 ≤ slot.wifisd) && !(slot.type == sockStream && !slot.connected)

/-- The sets of `cc3000_usrsock_getfds`. -/
def Daemon.getfds (daemon : Daemon) : FdSets where
  readfds sd := (List.finRange maxSockets).any fun i =>
    (daemon.slots i).polled && !(daemon.slots i).recvAvail && (daemon.slots i).wifisd == sd.val
  writefds sd := (List.finRange maxSockets).any fun i =>
    (daemon.slots i).polled && !(daemon.slots i).sendReady && (daemon.slots i).wifisd == sd.val
  exceptfds sd := (List.finRange maxSockets).any fun i =>
    (daemon.slots i).polled && !(daemon.slots i).recvAvail && (daemon.slots i).wifisd == sd.val

/-- One slot in `cc3000_usrsock_handle_select_results`, and the events for it. -/
def Slot.handleSelectResults (sets : FdSets) (slot : Slot) : Slot × Events :=
  if slot.polled then
    let readable := !slot.recvAvail && fdIsset slot.wifisd sets.readfds
    let recvAvail := slot.recvAvail || readable
    let excepted := !recvAvail && fdIsset slot.wifisd sets.exceptfds
    let sendReady := slot.sendReady || excepted
    let writable := !sendReady && fdIsset slot.wifisd sets.writefds
    ({ slot with recvAvail := recvAvail || excepted, sendReady := sendReady || writable },
      { recvfromAvail := readable || excepted, sendtoReady := excepted || writable })
  else (slot, {})

def Daemon.handleSelectResults (sets : FdSets) (daemon : Daemon) : Daemon :=
  { daemon with
    slots := fun i => ((daemon.slots i).handleSelectResults sets).1
    link := daemon.link ++ (List.finRange maxSockets).filterMap fun i =>
      let events := ((daemon.slots i).handleSelectResults sets).2
      if events.isEmpty then none else some (.event (daemon.slots i).usockid events) }

/-- Whether the loop of `do_wifi_thread` over the chip's sockets takes the slot with the
number `wifisd`. -/
def Daemon.shuts (wifisd : Fin maxSockets) (daemon : Daemon) : Bool :=
  (daemon.stats wifisd).opened && (daemon.stats wifisd).remoteClosed &&
    (daemon.slots wifisd).active

def Daemon.shutSlot (daemon : Daemon) (i : Fin maxSockets) : Slot :=
  if daemon.shuts i then { daemon.slots i with remoteClosed := true } else daemon.slots i

/-- The sets after `cc3000_select`. -/
def Selected.sets (selected : Selected) (daemon : Daemon) : FdSets :=
  match selected with
  | .failed => daemon.getfds
  | .ready sets => sets

/-- The number of sockets that it returns. A failure counts as none. -/
def Selected.nfds : Selected → Nat
  | .failed => 0
  | .ready sets => sets.count

def Daemon.shutSets (selected : Selected) (daemon : Daemon) : FdSets :=
  { selected.sets daemon with
    exceptfds := fun sd => (selected.sets daemon).exceptfds sd || daemon.shuts sd }

def Daemon.shutCount (selected : Selected) (daemon : Daemon) : Nat :=
  selected.nfds + (List.finRange maxSockets).countP fun sd =>
    daemon.shuts sd && !(selected.sets daemon).exceptfds sd

/-- Whether `cc3000_usrsock_getfds` finds a socket. -/
def Daemon.polls (daemon : Daemon) : Bool :=
  (List.finRange maxSockets).any fun i => (daemon.slots i).polled

def Slot.seen (slot : Slot) : Slot := { slot with unseen := false }

/-- The part of `do_wifi_thread` that asks the chip for activity and scans the table of its
sockets. -/
def Daemon.scan (selected : Selected) (daemon : Daemon) : Daemon :=
  if daemon.polls then
    let shut := { daemon with slots := daemon.shutSlot }
    let handled :=
      if 0 < daemon.shutCount selected then shut.handleSelectResults (daemon.shutSets selected)
      else shut
    { handled with slots := fun i => (handled.slots i).seen }
  else daemon

inductive Action where
  | socket (xid domain type : Nat) (result : Opened) (written : Bool)
  | close (xid : Nat) (usockid : Int)
  | sendto (sendto : Sendto)
  | recvfrom (xid : Nat) (usockid : Int) (maxBuflen maxAddrlen : Nat) (received : Received)
  | connect (xid : Nat) (usockid : Int) (addrlen : Nat) (address : LinkRead SockAddr)
      (unwritten : Option Nat) (ret : Int)
  | closeWait (wifisd : Int)
  | scan (selected : Selected)

def Daemon.step (daemon : Daemon) : Action → Daemon
  | .socket xid domain type result written => daemon.socketRequest xid domain type result written
  | .close xid usockid => daemon.closeRequest xid usockid
  | .sendto sendto => daemon.sendtoRequest sendto
  | .recvfrom xid usockid maxBuflen maxAddrlen received =>
    daemon.recvfromRequest xid usockid maxBuflen maxAddrlen received
  | .connect xid usockid addrlen address unwritten ret =>
    daemon.connectRequest xid usockid addrlen address unwritten ret
  | .closeWait wifisd => daemon.closeWait wifisd
  | .scan selected => daemon.scan selected

/-- The daemon after it has opened the link. -/
def Daemon.initial : Daemon where
  stats _ := ⟨false, false⟩
  slots _ := Slot.zero
  link := []
  outside := []

end Thingsee.Wifi
