import Mathlib.Algebra.Group.Nat.Defs
import Mathlib.Data.List.Basic

/-!
Owns the connection manager's server side (conman_ctl.c, conman_ubmodem.c, conman_cc3000.c):
the listed connections, the reference counts of the two radios, the level that is asked of
the modem, the status of the cellular connection and the queue of short messages.

A step is one call into the manager: a request of a client, or a callback of the modem. The
modem answers later, in steps of its own. Whether memory is there, a WiFi thread starts, or
the modem takes a request is in `Outcomes`. Texts and addresses are left out.
-/

namespace Thingsee.Conman

/-- `enum ubmodem_func_level_e`. -/
inductive FuncLevel where
  | poweredOff
  | stuckHardware
  | poweredOn
  | cmdPrompt
  | simEnabled
  | network
  | gprs
deriving DecidableEq

def FuncLevel.value : FuncLevel → Nat
  | .poweredOff => 0
  | .stuckHardware => 1
  | .poweredOn => 2
  | .cmdPrompt => 3
  | .simEnabled => 4
  | .network => 5
  | .gprs => 6

/-- `enum conman_connection_type_e`. -/
inductive ConnectionType where
  | none
  | cellular
  | wifi
  | data
  | sms
deriving DecidableEq

/-- `enum conman_status_type_e`. -/
inductive Status where
  | off
  | establishing
  | established
  | failed
  | destroying
deriving DecidableEq

/-- `ubmodem_info_type_t`, the four types that are asked for. -/
inductive InfoType where
  | imei
  | imsi
  | udopn
  | mccMnc

/-- `enum conman_event_type_e`, the events of the cellular connection. -/
inductive ConmanEvent where
  | lostConnection
  | connectionRequestFailed
  | connectionEstablished

/-- `CONMAN_CONNID_CLEAR`, `CONMAN_CONNID_MIN`, `CONMAN_CONNID_MAX` and `CONMAN_CONNID_ALL`. -/
def connidClear : Nat := 0
def connidMin : Nat := connidClear + 1
def connidAll : Nat := 2 ^ 32 - 1
def connidMax : Nat := connidAll - 1

/-- `struct conman_connid_s`. `serial` tells the entries apart: the number of those that were
created before. -/
structure Conn where
  connid : Nat
  type : ConnectionType
  destroyed : Bool
  serial : Nat

inductive WifiThread where
  | connecting
  | scanningOnly
deriving DecidableEq

/-- `connections.current`, the numbers of configured connections, and the WiFi thread.
`created` counts the connections and `released` has those that gave up their radio, for
the statements. -/
structure Connections where
  amountCellular : Nat
  amountWifi : Nat
  connids : List Conn
  connidNext : Nat
  cellularRefcnt : Nat
  wifiRefcnt : Nat
  wifi : Option WifiThread
  created : Nat
  released : List Nat

/-- What a step did, for the statements: a status that was set, with the target level and the
level reached at that moment, and an event for the clients. -/
inductive Entry where
  | status (before after : Status) (target : FuncLevel) (reached : Option FuncLevel)
  | broadcast (event : ConmanEvent)

/-- The part `ub` of `struct conman_s`, without the texts and the short messages. The last
five fields are a record for the statements: the level that the modem was asked for last,
the level that it reached last since a transition failed, how many connections had been
created when one failed, whether the connection was established since it was asked for, and
what the present step did. -/
structure Ub where
  targetLevel : FuncLevel
  status : Status
  infoRequested : Bool
  imeiRequested : Bool
  imsiRequested : Bool
  udopnRequested : Bool
  mccMncRequested : Bool
  establishingLost : Bool
  requestedLevel : FuncLevel
  reachedLevel : Option FuncLevel
  createdAtFailure : Nat
  establishedSince : Bool
  log : List Entry

/-- The queue of short messages, with the messages that were ever queued, those that were
handed to the modem and those whose result is outstanding, for the statements. -/
structure Sms (M : Type) where
  connectionRequested : Bool
  sendingActive : Bool
  queue : List M
  connid : Nat
  queued : List M
  handed : List M
  inFlight : List M

/-- `struct conman_s`. `failedCreate` has the counters and the list before a request for a
connection that failed in the last step, for the statements. -/
structure Manager (M : Type) where
  connections : Connections
  ub : Ub
  sms : Sms M
  failedCreate : Option Connections

structure Outcomes (M : Type) where
  /-- There is memory for a connection. -/
  allocated : Bool
  /-- There is memory for a message. -/
  messageAllocated : Bool
  /-- A WiFi thread starts. -/
  wifiStarts : Bool
  /-- The modem takes a request for information. -/
  getInfo : InfoType → Bool
  /-- The modem takes a message. -/
  sendSms : M → Bool

variable {M : Type}

def Ub.requestLevel (level : FuncLevel) (ub : Ub) : Ub := { ub with requestedLevel := level }

/-- `__conman_send_boardcast_event`. -/
def Ub.broadcast (event : ConmanEvent) (ub : Ub) : Ub :=
  { ub with log := ub.log ++ [.broadcast event] }

def Ub.setStatus (status : Status) (ub : Ub) : Ub :=
  { ub with
    status := status,
    establishedSince := ub.establishedSince || status == .established,
    log := ub.log ++ [.status ub.status status ub.targetLevel ub.reachedLevel] }

def Ub.powerOff (ub : Ub) : Ub :=
  { ub.setStatus .destroying with targetLevel := .poweredOff }.requestLevel .poweredOff

def Ub.establish (level : FuncLevel) (ub : Ub) : Ub :=
  { ub.setStatus .establishing with
    targetLevel := level, establishedSince := false }.requestLevel level

def Ub.pending (ub : Ub) : Bool :=
  ub.imeiRequested || ub.imsiRequested || ub.udopnRequested || ub.mccMncRequested

/-- A decrement of a `uint32_t`. -/
def decrement (count : Nat) : Nat := if count = 0 then 2 ^ 32 - 1 else count - 1

/-- `__conman_ubmodem_request_connection` with `CONMAN_NONE`: whether it succeeds. -/
def Manager.releaseCellular (conman : Manager M) : Manager M × Bool :=
  if conman.connections.amountCellular = 0 then (conman, false)
  else if conman.connections.cellularRefcnt = 0 ∧ conman.ub.targetLevel = .poweredOff then
    (conman, true)
  else
    let conman :=
      if conman.connections.cellularRefcnt = 0 then conman
      else { conman with connections := { conman.connections with
        cellularRefcnt := conman.connections.cellularRefcnt - 1 } }
    if 0 < conman.connections.cellularRefcnt then (conman, true)
    else if conman.ub.targetLevel = .poweredOff then (conman, true)
    else ({ conman with ub := conman.ub.powerOff }, true)

/-- `__conman_ubmodem_request_connection` with a level. -/
def Manager.acquireCellular (target : FuncLevel) (conman : Manager M) : Manager M × Bool :=
  if conman.connections.amountCellular = 0 then (conman, false)
  else
    let conman := { conman with connections := { conman.connections with
      cellularRefcnt := conman.connections.cellularRefcnt + 1 } }
    if 1 < conman.connections.cellularRefcnt then
      if conman.ub.targetLevel.value < target.value then
        ({ conman with ub := conman.ub.establish target }, true)
      else (conman, true)
    else ({ conman with ub := conman.ub.establish target }, true)

def Manager.ubmodemRequestConnection (type : ConnectionType) (conman : Manager M) :
    Manager M × Bool :=
  match type with
  | .data => conman.acquireCellular .gprs
  | .cellular => conman.acquireCellular .gprs
  | .sms => conman.acquireCellular .network
  | .none => conman.releaseCellular
  | .wifi => (conman, false)

/-- `start_wifi_thread` for a connection. A thread that only scans is stopped first. -/
def Connections.startWifi (out : Outcomes M) (connections : Connections) : Connections × Bool :=
  if connections.wifi = some .connecting then (connections, false)
  else if out.wifiStarts then ({ connections with wifi := some .connecting }, true)
  else ({ connections with wifi := none }, false)

/-- `stop_wifi_thread`. -/
def Connections.stopWifi (connections : Connections) : Connections × Bool :=
  if connections.wifi = none then (connections, false)
  else ({ connections with wifi := none }, true)

/-- `__conman_cc3000_request_connection` with `CONMAN_WIFI`. -/
def Connections.acquireWifi (out : Outcomes M) (connections : Connections) : Connections × Bool :=
  if connections.amountWifi = 0 then (connections, false)
  else
    let active := 0 < connections.wifiRefcnt
    let connections := { connections with wifiRefcnt := connections.wifiRefcnt + 1 }
    if active then (connections, true) else connections.startWifi out

/-- `__conman_cc3000_request_connection` with `CONMAN_NONE`. -/
def Connections.releaseWifi (connections : Connections) : Connections × Bool :=
  if connections.amountWifi = 0 then (connections, false)
  else if connections.wifiRefcnt = 0 ∧ connections.wifi = none then (connections, true)
  else
    let connections := { connections with wifiRefcnt := decrement connections.wifiRefcnt }
    if 0 < connections.wifiRefcnt then (connections, true) else connections.stopWifi

/-- `__conman_cc3000_wifi_scan`, where the thread has not stopped by itself. -/
def Connections.wifiScan (out : Outcomes M) (connections : Connections) : Connections :=
  if connections.wifi = none then
    if out.wifiStarts then { connections with wifi := some .scanningOnly } else connections
  else connections

/-- A connection is tried with the modem: the type that it gets. -/
def Manager.tryCellular (type : ConnectionType) (conman : Manager M) :
    Manager M × Option ConnectionType :=
  if 0 < conman.connections.amountCellular then
    let requested := conman.ubmodemRequestConnection type
    (requested.1, if requested.2 then some type else none)
  else (conman, none)

def Manager.tryWifi (out : Outcomes M) (conman : Manager M) :
    Manager M × Option ConnectionType :=
  if 0 < conman.connections.amountWifi then
    let requested := conman.connections.acquireWifi out
    ({ conman with connections := requested.1 }, if requested.2 then some .wifi else none)
  else (conman, none)

/-- The radio of a new connection is acquired: the type that the connection gets. -/
def Manager.acquire (out : Outcomes M) (type : ConnectionType) (conman : Manager M) :
    Manager M × Option ConnectionType :=
  match type with
  | .data =>
    let wifi := conman.tryWifi out
    if wifi.2 = none then wifi.1.tryCellular .cellular else wifi
  | .cellular => conman.tryCellular .cellular
  | .sms => conman.tryCellular .sms
  | .wifi => conman.tryWifi out
  | .none => (conman, none)

def Connections.add (type : ConnectionType) (connections : Connections) : Connections :=
  let next := connections.connidNext + 1
  { connections with
    connids := connections.connids ++ [⟨connections.connidNext, type, false, connections.created⟩],
    connidNext := if connidMax < next ∨ next < connidMin then connidMin else next,
    created := connections.created + 1 }

/-- The end of `__conman_ctl_create_connection`. -/
def Manager.finishCreate (before : Connections) :
    Manager M × Option ConnectionType → Manager M × Option Nat
  | (conman, some type) =>
    ({ conman with connections := conman.connections.add type },
      some conman.connections.connidNext)
  | (conman, none) => ({ conman with failedCreate := some before }, none)

/-- `__conman_ctl_create_connection`: the id, where it succeeds. -/
def Manager.createConnection (out : Outcomes M) (type : ConnectionType) (conman : Manager M) :
    Manager M × Option Nat :=
  if type = .none then (conman, some connidClear)
  else if out.allocated = false then Manager.finishCreate conman.connections (conman, none)
  else Manager.finishCreate conman.connections (conman.acquire out type)

def Manager.doDestroyConnection (conn : Conn) (conman : Manager M) : Manager M :=
  let conman := { conman with connections := { conman.connections with
    released := conman.connections.released ++ [conn.serial] } }
  match conn.type with
  | .cellular | .sms => (conman.ubmodemRequestConnection .none).1
  | .wifi => { conman with connections := conman.connections.releaseWifi.1 }
  | _ => conman

def Connections.markDestroyed (conn : Conn) (connections : Connections) : Connections :=
  { connections with connids := connections.connids.map fun other =>
    if other.serial = conn.serial then { other with destroyed := true } else other }

def Manager.destroyLive (conman : Manager M) (conn : Conn) : Manager M :=
  if conn.destroyed then conman
  else { conman with connections := conman.connections.markDestroyed conn }.doDestroyConnection conn

/-- `__conman_ctl_destroy_connection` with `CONMAN_CONNID_ALL`. -/
def Manager.destroyAll (conman : Manager M) : Manager M :=
  conman.connections.connids.foldl Manager.destroyLive conman

def Connections.remove (connid : Nat) (connections : Connections) : Connections :=
  { connections with connids := connections.connids.eraseP fun conn => conn.connid == connid }

def Manager.destroyConnection (connid : Nat) (conman : Manager M) : Manager M :=
  if connid = connidAll then conman.destroyAll
  else
    match conman.connections.connids.find? (fun conn => conn.connid == connid) with
    | none => conman
    | some conn =>
      let conman := { conman with connections := conman.connections.remove connid }
      if conn.destroyed then conman else conman.doDestroyConnection conn

def Manager.releaseSms (conman : Manager M) : Manager M :=
  let conman := { conman with sms := { conman.sms with sendingActive := false } }
  if conman.sms.connectionRequested then
    let conman := conman.destroyConnection conman.sms.connid
    { conman with sms := { conman.sms with connid := connidClear, connectionRequested := false } }
  else conman

/-- `process_sms_queue` on the given queue. A message that the modem refuses is followed by
the next one. -/
def Manager.processSms (out : Outcomes M) : List M → Manager M → Manager M
  | [], conman => { conman with sms := { conman.sms with queue := [] } }.releaseSms
  | message :: rest, conman =>
    let handed := conman.sms.handed ++ [message]
    if out.sendSms message then
      { conman with sms := { conman.sms with
        queue := rest, handed := handed, sendingActive := true,
        inFlight := conman.sms.inFlight ++ [message] } }
    else
      { conman with sms := { conman.sms with queue := rest, handed := handed } }.processSms out rest

def Manager.processSmsQueue (out : Outcomes M) (conman : Manager M) : Manager M :=
  if conman.ub.status = .established then conman.processSms out conman.sms.queue else conman

/-- The rest of `__conman_ubmodem_send_sms`, once the message is queued. -/
def Manager.startSms (out : Outcomes M) (conman : Manager M) : Manager M :=
  if conman.ub.status = .established ∧ conman.sms.sendingActive = false then
    conman.processSmsQueue out
  else conman

/-- `__conman_ubmodem_send_sms`. -/
def Manager.sendSms (out : Outcomes M) (message : M) (conman : Manager M) : Manager M :=
  if out.messageAllocated then
    let conman := { conman with sms := { conman.sms with
      queue := conman.sms.queue ++ [message], queued := conman.sms.queued ++ [message] } }
    if conman.sms.connectionRequested then conman.startSms out
    else
      let created := conman.createConnection out .sms
      match created.2 with
      | some connid =>
        { created.1 with sms := { created.1.sms with
          connid := connid, connectionRequested := true } }.startSms out
      | none => created.1
  else conman

/-- The event for clients in `event_failed_target_level`. -/
def Ub.broadcastFailure (ub : Ub) : Ub :=
  if ub.targetLevel ≠ .poweredOff then
    if (ub.establishingLost = true ∧ ub.status = .establishing) ∨ ub.status = .established then
      ub.broadcast .lostConnection
    else if ub.status = .establishing then ub.broadcast .connectionRequestFailed
    else ub
  else ub

def Manager.eventFailedTargetLevel (conman : Manager M) : Manager M :=
  let ub := { conman.ub.broadcastFailure with infoRequested := false, establishingLost := false }
  { conman with ub := { ub.powerOff with
    reachedLevel := none, createdAtFailure := conman.connections.created } }

/-- The requests for information in `event_target_level`. -/
def Ub.requestInfos (out : Outcomes M) (level : FuncLevel) (ub : Ub) : Ub :=
  if ub.infoRequested = false ∧ ub.status ≠ .destroying ∧ level ≠ .poweredOff then
    { ub with
      infoRequested := true
      imeiRequested := ub.imeiRequested || out.getInfo .imei
      imsiRequested := ub.imsiRequested || out.getInfo .imsi
      udopnRequested := ub.udopnRequested || out.getInfo .udopn
      mccMncRequested := ub.mccMncRequested || out.getInfo .mccMnc }
  else ub

def Ub.reachedWhileDown (level : FuncLevel) (ub : Ub) : Ub :=
  if level ≠ .poweredOff then { ub with establishingLost := false }.powerOff
  else { ub with establishingLost := false, infoRequested := false }.setStatus .off

def Ub.reachedWhileUp (level : FuncLevel) (ub : Ub) : Ub :=
  if level ≠ ub.targetLevel then
    let lost := { ub with establishingLost := decide (ub.status = Status.established) }
    (lost.setStatus .establishing).requestLevel ub.targetLevel
  else if ub.infoRequested = false ∨ ub.pending = true then ub.setStatus .establishing
  else { ub with establishingLost := false }.setStatus .established

/-- What `event_target_level` does to the modem's part. -/
def Ub.levelReached (out : Outcomes M) (level : FuncLevel) (ub : Ub) : Ub :=
  let ub := { ub with reachedLevel := some level }.requestInfos out level
  match ub.status with
  | .failed | .off | .destroying => ub.reachedWhileDown level
  | .established | .establishing => ub.reachedWhileUp level

/-- `event_target_level`. The queue is processed in the branch that sets the status to
established, and in no other. -/
def Manager.eventTargetLevel (out : Outcomes M) (level : FuncLevel) (conman : Manager M) :
    Manager M :=
  let conman := { conman with ub := conman.ub.levelReached out level }
  if conman.ub.status = .established then conman.processSmsQueue out else conman

def Ub.isRequested (ub : Ub) : InfoType → Bool
  | .imei => ub.imeiRequested
  | .imsi => ub.imsiRequested
  | .udopn => ub.udopnRequested
  | .mccMnc => ub.mccMncRequested

def Ub.clearRequested (ub : Ub) : InfoType → Ub
  | .imei => { ub with imeiRequested := false }
  | .imsi => { ub with imsiRequested := false }
  | .udopn => { ub with udopnRequested := false }
  | .mccMnc => { ub with mccMncRequested := false }

def Ub.informed (ub : Ub) : Ub := { ub with establishingLost := false }.setStatus .established

def Manager.infoCallback (out : Outcomes M) (type : InfoType) (conman : Manager M) : Manager M :=
  let conman := { conman with ub := conman.ub.clearRequested type }
  if conman.ub.pending then conman
  else
    let conman := { conman with ub := conman.ub.informed }.processSmsQueue out
    { conman with ub := conman.ub.broadcast .connectionEstablished }

/-- The requests of clients and the callbacks of the modem. -/
inductive Request (M : Type) where
  | create (type : ConnectionType)
  | destroy (connid : Nat)
  | configure (cellular wifi : Nat)
  | wifiScan
  | level (level : FuncLevel)
  | failed
  | info (type : InfoType)
  | sendSms (message : M)
  | smsResult (message : M)

structure Step (M : Type) where
  request : Request M
  out : Outcomes M

/-- A step without the record of the last one. The modem calls back for what it was asked. -/
def Manager.handle [DecidableEq M] (conman : Manager M) (step : Step M) : Manager M :=
  match step.request with
  | .create type => (conman.createConnection step.out type).1
  | .destroy connid => conman.destroyConnection connid
  | .configure cellular wifi =>
    { conman with connections := { conman.connections with
      amountCellular := conman.connections.amountCellular + cellular,
      amountWifi := conman.connections.amountWifi + wifi } }
  | .wifiScan => { conman with connections := conman.connections.wifiScan step.out }
  | .level level => conman.eventTargetLevel step.out level
  | .failed => conman.eventFailedTargetLevel
  | .info type =>
    if conman.ub.isRequested type then conman.infoCallback step.out type else conman
  | .sendSms message => conman.sendSms step.out message
  | .smsResult message =>
    if message ∈ conman.sms.inFlight then
      { conman with sms := { conman.sms with
        inFlight := conman.sms.inFlight.erase message } }.processSmsQueue step.out
    else conman

def Manager.clear (conman : Manager M) : Manager M :=
  { conman with ub := { conman.ub with log := [] }, failedCreate := none }

def Manager.step [DecidableEq M] (conman : Manager M) (step : Step M) : Manager M :=
  conman.clear.handle step

/-- The manager after `__conman_config_init` and `__conman_ubmodem_initialize`. -/
def Manager.initial (M : Type) : Manager M :=
  { connections :=
      { amountCellular := 0, amountWifi := 0, connids := [], connidNext := connidMin,
        cellularRefcnt := 0, wifiRefcnt := 0, wifi := none, created := 0, released := [] }
    ub :=
      { targetLevel := .poweredOff, status := .off, infoRequested := false,
        imeiRequested := false, imsiRequested := false, udopnRequested := false,
        mccMncRequested := false, establishingLost := false, requestedLevel := .poweredOff,
        reachedLevel := none, createdAtFailure := 0, establishedSince := false, log := [] }
    sms :=
      { connectionRequested := false, sendingActive := false, queue := [], connid := connidClear,
        queued := [], handed := [], inFlight := [] }
    failedCreate := none }

end Thingsee.Conman
