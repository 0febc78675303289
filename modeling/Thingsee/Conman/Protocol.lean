import Thingsee.Conman.Types
import Thingsee.Support.Frames
import Thingsee.Support.LittleEndian

/-!
Owns the protocol between a client of the connection manager and its server
(conman_client.c, conman_util.c, `__conman_ctl_handle_pollin`): requests go to the server over
one stream of bytes, responses and events come back over another one.

One client with events enabled runs against the server. Its code may call commands anywhere,
also in the callback for an event; what it does next is up to the action of a step. Reads and
writes move any number of bytes. There is memory for everything.
-/

namespace Thingsee.Conman.Protocol

open Support

/-- The data of a message. Its length is a `size_t`. -/
structure Payload where
  bytes : List UInt8
  fits : bytes.length < 256 ^ 4
deriving DecidableEq

def Payload.empty : Payload := ⟨[], by decide⟩

def Payload.ofBytes (bytes : List UInt8) : Payload :=
  if fits : bytes.length < 256 ^ 4 then ⟨bytes, fits⟩ else Payload.empty

/-- `enum conman_resp_value`. -/
inductive RespValue where
  | ok
  | event
  | oom
  | parseFail
  | noConnections
  | eio
  | error
deriving DecidableEq

def RespValue.value : RespValue → Int
  | .ok => 0
  | .event => 1
  | .oom => 2
  | .parseFail => 3
  | .noConnections => 4
  | .eio => 5
  | .error => -1

def RespValue.ofValue (value : Int) : RespValue :=
  if value = 0 then .ok
  else if value = 1 then .event
  else if value = 2 then .oom
  else if value = 3 then .parseFail
  else if value = 4 then .noConnections
  else if value = 5 then .eio
  else .error

/-- A request: `struct conman_hdr` and data. -/
structure Request where
  id : UInt8
  payload : Payload

/-- What the server sends: `struct conman_resp_hdr` and data. -/
structure Frame where
  id : UInt8
  respval : RespValue
  payload : Payload
deriving DecidableEq

/-- An event. -/
structure Event where
  type : UInt8
  payload : Payload
deriving DecidableEq

/-- `__conman_send_boardcast_event`. -/
def Event.frame (event : Event) : Frame := ⟨event.type, .event, event.payload⟩

def Frame.event? (frame : Frame) : Option Event :=
  if frame.respval = .event then some ⟨frame.id, frame.payload⟩ else none

theorem Payload.ofBytes_bytes (payload : Payload) : Payload.ofBytes payload.bytes = payload :=
  dif_pos payload.fits

theorem RespValue.ofValue_value (respval : RespValue) :
    RespValue.ofValue (toSigned (8 * 4) respval.value) = respval := by
  cases respval <;> rfl

/-- `struct conman_hdr` before data. -/
def requestFormat : Format Request where
  headerLength := 5
  headerLength_pos := by decide
  header request := request.id :: leBytes 4 request.payload.bytes.length
  body request := request.payload.bytes
  bodyLength header := leValue (header.drop 1)
  decode header body := ⟨header.headD 0, Payload.ofBytes body⟩
  header_length request := by rw [List.length_cons, leBytes_length]
  bodyLength_header request := leValue_leBytes_of_lt request.payload.fits
  decode_header_body request := by rw [Payload.ofBytes_bytes]; rfl

/-- `struct conman_resp_hdr` before data. -/
def frameFormat : Format Frame where
  headerLength := 9
  headerLength_pos := by decide
  header frame :=
    frame.id :: (leBytes 4 frame.payload.bytes.length ++ leBytes 4 frame.respval.value)
  body frame := frame.payload.bytes
  bodyLength header := leValue ((header.drop 1).take 4)
  decode header body :=
    ⟨header.headD 0, RespValue.ofValue (toSigned (8 * 4) (leValue (header.drop 5))),
      Payload.ofBytes body⟩
  header_length frame := by
    rw [List.length_cons, List.length_append, leBytes_length, leBytes_length]
  bodyLength_header frame := by
    rw [List.drop_one, List.tail_cons, List.take_left' (leBytes_length 4 _),
      leValue_leBytes_of_lt frame.payload.fits]
  decode_header_body frame := by
    rw [Payload.ofBytes_bytes, List.drop_succ_cons, List.drop_left' (leBytes_length 4 _),
      toSigned_leValue_leBytes, RespValue.ofValue_value]
    rfl

/-- `enum conman_msgs_ids`. -/
inductive Msg where
  | enableEvents
  | ping
  | setConnectionsConfig
  | createConnection
  | destroyConnection
  | getConnectionStatus
  | requestCellEnvironment
  | sendSms
  | callAnswer
  | callHangup
  | callAudioControl
  | playAudioResource
  | startCelllocate
  | aidCelllocate
  | ftpDownload
  | filesystemDelete
  | wifiScan

def Msg.ofId (id : UInt8) : Option Msg :=
  match id.toNat with
  | 1 => some .enableEvents
  | 2 => some .ping
  | 3 => some .setConnectionsConfig
  | 4 => some .createConnection
  | 5 => some .destroyConnection
  | 6 => some .getConnectionStatus
  | 7 => some .requestCellEnvironment
  | 8 => some .sendSms
  | 9 => some .callAnswer
  | 10 => some .callHangup
  | 11 => some .callAudioControl
  | 12 => some .playAudioResource
  | 13 => some .startCelllocate
  | 14 => some .aidCelllocate
  | 15 => some .ftpDownload
  | 16 => some .filesystemDelete
  | 17 => some .wifiScan
  | _ => none

/-- `struct conman_status_s`, with the information about the connection as bytes. -/
structure StatusReply where
  connType : ConnectionType
  status : Status
  info : List UInt8
  destroyingPrev : Bool

/-- What the radios answer while a request is handled. -/
structure Backend where
  /-- The function that is called for the request fails. -/
  fails : Bool
  /-- The identifier of a new connection. -/
  connid : Nat
  amountWifi : Nat
  amountCellular : Nat
  wifiStatus : Status
  wifiInfo : List UInt8
  ubStatus : Status
  ubPending : Bool
  ubInfo : List UInt8
  /-- The bytes of a status. -/
  encodeStatus : StatusReply → Payload

/-- A response: the descriptor and the frame. -/
abbrev Response := Nat × Frame

/-- `__conman_send_resp`. -/
def sendResp (servingsd : Nat) (id : UInt8) (respval : RespValue) (payload : Payload) : Response :=
  (servingsd, ⟨id, respval, payload⟩)

/-- `__conman_ubmodem_get_status_connection`: the status, or the response that it sends. -/
def ubmodemGetStatus (servingsd : Nat) (id : UInt8) (backend : Backend) :
    Sum StatusReply Response :=
  if backend.ubStatus = .established then
    let status := if backend.ubPending then Status.establishing else .established
    .inr (sendResp servingsd id .ok
      (backend.encodeStatus ⟨.cellular, status, backend.ubInfo, false⟩))
  else .inl ⟨.cellular, backend.ubStatus, [], false⟩

/-- `__conman_ctl_get_status_connection`: the status, or the response that was sent. -/
def ctlGetStatus (servingsd : Nat) (id : UInt8) (backend : Backend) : Sum StatusReply Response :=
  let off := StatusReply.mk .none .off [] (backend.ubStatus == .destroying)
  if 0 < backend.amountWifi ∧
      (backend.wifiStatus = .established ∨ backend.wifiStatus = .establishing) then
    .inl ⟨.wifi, backend.wifiStatus, backend.wifiInfo, false⟩
  else if (backend.amountWifi = 0 ∨ backend.wifiStatus = .off) ∧ 0 < backend.amountCellular then
    match ubmodemGetStatus servingsd id backend with
    | .inl reply =>
      if reply.status = .established ∨ reply.status = .establishing then .inl reply
      else .inl off
    | .inr response => .inr response
  else .inl off

/-- `__conman_ctl_handle_pollin`, once the request is read: the responses that are sent. -/
def handlePollin (servingsd : Nat) (request : Request) (backend : Backend) : List Response :=
  let resp := if backend.fails then RespValue.error else .ok
  match Msg.ofId request.id with
  | some .createConnection =>
    if backend.fails then [sendResp servingsd request.id .error .empty]
    else [sendResp servingsd request.id .ok (Payload.ofBytes (leBytes 4 backend.connid))]
  | some .getConnectionStatus =>
    match ctlGetStatus servingsd request.id backend with
    | .inl reply => [sendResp servingsd request.id .ok (backend.encodeStatus reply)]
    | .inr response => [response]
  | some .ping => [sendResp servingsd request.id .ok .empty]
  | some _ => [sendResp servingsd request.id resp .empty]
  | none => [sendResp servingsd request.id .error .empty]

/-- The server: what it has read of a request and has still to write, and for the statements
the requests that it served, the responses and all that it sent to the client. -/
structure Server where
  reader : List UInt8
  out : List UInt8
  served : List Request
  responses : List Response
  sent : List Frame

/-- A call of a command or of `conman_client_handle_events` that hands out queued events: what
it returns afterwards, for a command with its number, and the events that are left. -/
structure Call where
  result : Option (Nat × Frame)
  remaining : List Event

/-- What the client does: its code runs, or the code of its callback; it writes the request
of a command; or it waits, for the response to a command or, with none, for an event. -/
inductive Activity where
  | code
  | sending (rest : List UInt8) (command : Nat)
  | waiting (command : Option Nat) (qevents : List Event)

/-- The client: its calls, the innermost first, what it has read of a frame, and for the
statements the events handed to the callback and the results of the commands. -/
structure Client where
  activity : Activity
  stack : List Call
  reader : List UInt8
  delivered : List Event
  returned : List (Nat × Frame)

/-- `handle_queued_events` up to the next call of the callback, and the return after it. -/
def Client.handleQueuedEvents (result : Option (Nat × Frame)) (qevents : List Event)
    (client : Client) : Client :=
  match qevents with
  | [] => { client with activity := .code, returned := client.returned ++ result.toList }
  | event :: rest =>
    { client with
      activity := .code, delivered := client.delivered ++ [event],
      stack := ⟨result, rest⟩ :: client.stack }

/-- A frame that `conman_wait_for_response` has read. -/
def Client.receive (frame : Frame) (command : Option Nat) (qevents : List Event)
    (client : Client) : Client :=
  match frame.event? with
  | some event =>
    if command = none then client.handleQueuedEvents none (qevents ++ [event])
    else { client with activity := .waiting command (qevents ++ [event]) }
  | none => client.handleQueuedEvents (command.map fun number => (number, frame)) qevents

/-- The client, the server, the streams between them and the requests made so far. `sd` is the
descriptor that the server has for the client. -/
structure System where
  sd : Nat
  client : Client
  server : Server
  toServer : List UInt8
  toClient : List UInt8
  issued : List Request

inductive Action where
  | command (request : Request)
  | handleEvents
  | callbackReturns
  | clientWrite (count : Nat)
  | clientRead (count : Nat)
  | broadcast (event : Event)
  | serverRead (count : Nat) (backend : Backend) (events : List Event)
  | serverWrite (count : Nat)

def System.command (request : Request) (system : System) : System :=
  match system.client.activity with
  | .code =>
    { system with
      client := { system.client with
        activity := .sending (requestFormat.encode request) system.issued.length },
      issued := system.issued ++ [request] }
  | _ => system

/-- The client's code calls `conman_client_handle_events`. -/
def System.handleEvents (system : System) : System :=
  match system.client.activity with
  | .code => { system with client := { system.client with activity := .waiting none [] } }
  | _ => system

def System.callbackReturns (system : System) : System :=
  match system.client.activity, system.client.stack with
  | .code, call :: stack =>
    { system with client :=
      { system.client with stack := stack }.handleQueuedEvents call.result call.remaining }
  | _, _ => system

def System.clientWrite (count : Nat) (system : System) : System :=
  match system.client.activity with
  | .sending rest number =>
    let left := rest.drop count
    { system with
      client := { system.client with
        activity := if left = [] then .waiting (some number) [] else .sending left number },
      toServer := system.toServer ++ rest.take count }
  | _ => system

def System.clientRead (count : Nat) (system : System) : System :=
  match system.client.activity with
  | .waiting number qevents =>
    let read := frameFormat.read count system.client.reader system.toClient
    match frameFormat.finished read.1 with
    | none =>
      { system with client := { system.client with reader := read.1 }, toClient := read.2 }
    | some frame =>
      { system with
        client := { system.client with reader := [] }.receive frame number qevents,
        toClient := read.2 }
  | _ => system

def System.broadcast (event : Event) (system : System) : System :=
  if system.server.out = [] ∧ system.server.reader = [] then
    { system with server := { system.server with
      out := frameFormat.encode event.frame, sent := system.server.sent ++ [event.frame] } }
  else system

/-- A read of the server, and what it does once a request is read: it may send events, and
sends the responses. -/
def System.serverRead (count : Nat) (backend : Backend) (events : List Event) (system : System) :
    System :=
  if system.server.out = [] then
    let read := requestFormat.read count system.server.reader system.toServer
    match requestFormat.finished read.1 with
    | none =>
      { system with server := { system.server with reader := read.1 }, toServer := read.2 }
    | some request =>
      let responses := handlePollin system.sd request backend
      let frames := events.map Event.frame ++
        (responses.filter fun response => response.1 == system.sd).map Prod.snd
      { system with
        server := { system.server with
          reader := [], out := frameFormat.encodeAll frames,
          served := system.server.served ++ [request],
          responses := system.server.responses ++ responses,
          sent := system.server.sent ++ frames },
        toServer := read.2 }
  else system

def System.serverWrite (count : Nat) (system : System) : System :=
  { system with
    server := { system.server with out := system.server.out.drop count },
    toClient := system.toClient ++ system.server.out.take count }

def System.step (system : System) : Action → System
  | .command request => system.command request
  | .handleEvents => system.handleEvents
  | .callbackReturns => system.callbackReturns
  | .clientWrite count => system.clientWrite count
  | .clientRead count => system.clientRead count
  | .broadcast event => system.broadcast event
  | .serverRead count backend events => system.serverRead count backend events
  | .serverWrite count => system.serverWrite count

/-- The client after it has enabled events. -/
def System.initial (sd : Nat) : System where
  sd := sd
  client := { activity := .code, stack := [], reader := [], delivered := [], returned := [] }
  server := { reader := [], out := [], served := [], responses := [], sent := [] }
  toServer := []
  toClient := []
  issued := []

end Thingsee.Conman.Protocol
