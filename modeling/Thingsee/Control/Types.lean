import Thingsee.Support.Frames
import Thingsee.Support.LittleEndian

/-!
Owns the control channel of the engine (client.c, `engine_ctrl_cb`): clients in any number of
threads of one process write requests into one FIFO, and the engine writes a response to each into
another one. A mutex lets one client through at a time.

Reads and writes move any number of bytes, and do not fail. Each end may find no memory for the
payload that a header announces.
-/

namespace Thingsee.Control

open Support

/-- Data whose length is a `size_t`. -/
structure Payload where
  bytes : List UInt8
  fits : bytes.length < 256 ^ 4

instance : DecidableEq Payload := fun payload other =>
  decidable_of_iff (payload.bytes = other.bytes) (by
    cases payload
    cases other
    rw [Payload.mk.injEq])

theorem Payload.empty_fits : ([] : List UInt8).length < 256 ^ 4 := by decide

def Payload.empty : Payload := ⟨[], Payload.empty_fits⟩

def Payload.ofBytes (bytes : List UInt8) : Payload :=
  if fits : bytes.length < 256 ^ 4 then ⟨bytes, fits⟩ else Payload.empty

/-- `struct ts_engine_client_req` and its data, or `struct ts_engine_client_resp` and its data. A
client leaves the status of a request as it happens to be. -/
structure Message where
  id : UInt8
  status : Int32
  payload : Payload

theorem Payload.ofBytes_bytes (payload : Payload) : Payload.ofBytes payload.bytes = payload :=
  dif_pos payload.fits

theorem ofInt_leValue_leBytes (status : Int32) :
    Int32.ofInt (leValue (leBytes 4 status.toInt)) = status := by
  rw [leValue_leBytes]
  apply Int32.toInt.inj
  rw [Int32.toInt_ofInt]
  show (status.toInt % ((4294967296 : Nat) : Int)).bmod 4294967296 = status.toInt
  rw [Int.emod_bmod]
  exact status.toInt_bmod_size

theorem headerLength_pos : 0 < 9 := by decide

/-- `struct ts_engine_client_hdr` before data. -/
def format : Format Message where
  headerLength := 9
  headerLength_pos := headerLength_pos
  header message :=
    message.id :: (leBytes 4 message.status.toInt ++ leBytes 4 message.payload.bytes.length)
  body message := message.payload.bytes
  bodyLength header := leValue (header.drop 5)
  decode header body :=
    ⟨header.headD 0, Int32.ofInt (leValue ((header.drop 1).take 4)), Payload.ofBytes body⟩
  header_length message := by
    rw [List.length_cons, List.length_append, leBytes_length, leBytes_length]
  bodyLength_header message := by
    rw [List.drop_succ_cons, List.drop_left' (leBytes_length 4 _),
      leValue_leBytes_of_lt message.payload.fits]
  decode_header_body message := by
    rw [Payload.ofBytes_bytes, List.drop_one, List.tail_cons, List.take_left' (leBytes_length 4 _),
      ofInt_leValue_leBytes]
    rfl

/-- `enum ts_engine_client_cmd`. -/
inductive Cmd where
  | readDeviceProperty
  | readCloudProperty
  | writeCloudProperty
  | readProfile
  | writeProfile
  | writeProfileShm
  | reloadProfile
  | stop
  | pause
  | continue
  | connectorResultShm
  | ping

def Cmd.ofId (id : UInt8) : Option Cmd :=
  match id.toNat with
  | 1 => some .readDeviceProperty
  | 2 => some .readCloudProperty
  | 3 => some .writeCloudProperty
  | 4 => some .readProfile
  | 5 => some .writeProfile
  | 6 => some .writeProfileShm
  | 7 => some .reloadProfile
  | 8 => some .stop
  | 9 => some .pause
  | 10 => some .continue
  | 11 => some .connectorResultShm
  | 12 => some .ping
  | _ => none

/-- `TS_ENGINE_ERROR_OOM`. -/
def errorOom : Int32 := 3

def errorNoCloudProperties : Int32 := 5

def errorStorage : Int32 := 6

def errorNoProfile : Int32 := 14

/-- What the functions return that are called for a request. Texts come with their terminators. -/
structure Backend where
  /-- An error, or the text, unless there was no memory to print it. -/
  deviceProperty : Except Int32 (Option Payload)
  cloudProperty : Option Payload
  cloudWritten : Bool
  profile : Option Payload
  profileWritten : Int32
  stopped : Int32
  started : Int32
  continued : Int32

/-- The response of `engine_ctrl_cb` to a request that is read, unless it takes the length of a text
that is not there. -/
def handle (request : Message) (backend : Backend) : Option Message :=
  let respond (status : Int32) : Option Message := some ⟨request.id, status, .empty⟩
  match Cmd.ofId request.id with
  | some .readDeviceProperty =>
    match backend.deviceProperty with
    | .error ret => respond ret
    | .ok none => none
    | .ok (some dataout) => some ⟨request.id, 0, dataout⟩
  | some .readCloudProperty =>
    match backend.cloudProperty with
    | none => respond (-errorNoCloudProperties)
    | some dataout => some ⟨request.id, 0, dataout⟩
  | some .writeCloudProperty => respond (if backend.cloudWritten then 0 else -errorStorage)
  | some .readProfile =>
    match backend.profile with
    | none => respond (-errorNoProfile)
    | some dataout => some ⟨request.id, 0, dataout⟩
  | some .writeProfile | some .writeProfileShm => respond backend.profileWritten
  | some .reloadProfile => respond backend.started
  | some .stop | some .pause => respond (if backend.stopped < 0 then backend.stopped else 0)
  | some .continue => respond (if backend.continued < 0 then backend.continued else 0)
  | some .connectorResultShm | some .ping | none => respond 0

/-- The engine reads a request, or writes a response; or it has run into a text that is not there.
-/
inductive Engine where
  | reading (collected : List UInt8)
  | replying (rest : List UInt8)
  | faulted

/-- A call of `send_and_receive`. -/
structure Call where
  thread : Nat
  request : Message

/-- The client that has the mutex sends its request, or receives a response. -/
inductive Client where
  | sending (rest : List UInt8)
  | receiving (collected : List UInt8)

/-- The client that has the mutex, the engine and the FIFOs between them. For the statements: the
calls, what the engine took for requests with its responses, and what the calls returned, with none
for an error. -/
structure System where
  client : Option (Call × Client)
  engine : Engine
  toEngine : List UInt8
  toClients : List UInt8
  issued : List Call
  answers : List (Message × Message)
  returned : List (Call × Option Message)

inductive Action where
  | call (call : Call)
  | clientWrite (count : Nat)
  | clientRead (count : Nat) (allocated : Bool)
  | engineRead (count : Nat) (allocated : Bool) (backend : Backend)
  | engineWrite (count : Nat)

def System.call (call : Call) (system : System) : System :=
  match system.client with
  | none =>
    { system with
      client := some (call, .sending (format.encode call.request))
      issued := system.issued ++ [call] }
  | some _ => system

/-- `send_req` writes. -/
def System.clientWrite (count : Nat) (system : System) : System :=
  match system.client with
  | some (call, .sending rest) =>
    let left := rest.drop count
    { system with
      client := some (call, if left = [] then .receiving [] else .sending left)
      toEngine := system.toEngine ++ rest.take count }
  | _ => system

/-- A read that completes a header with a length; the payload is allocated after it. -/
def announces (count : Nat) (collected stream : List UInt8) : Bool :=
  let read := (format.read count collected stream).1
  decide (collected.length < format.headerLength) &&
    decide (read.length = format.headerLength) && decide (0 < format.bodyLength read)

/-- `receive_resp` reads. -/
def System.clientRead (count : Nat) (allocated : Bool) (system : System) : System :=
  match system.client with
  | some (call, .receiving collected) =>
    let read := format.read count collected system.toClients
    if announces count collected system.toClients && !allocated then
      { system with
        client := none
        toClients := read.2
        returned := system.returned ++ [(call, none)] }
    else
      match format.finished read.1 with
      | none => { system with client := some (call, .receiving read.1), toClients := read.2 }
      | some response =>
        { system with
          client := none
          toClients := read.2
          returned := system.returned ++ [(call, some response)] }
  | _ => system

/-- `engine_ctrl_cb` reads. -/
def System.engineRead (count : Nat) (allocated : Bool) (backend : Backend) (system : System) :
    System :=
  match system.engine with
  | .reading collected =>
    let read := format.read count collected system.toEngine
    if announces count collected system.toEngine && !allocated then
      let request := format.decode read.1 []
      let response : Message := ⟨request.id, -errorOom, .empty⟩
      { system with
        engine := .replying (format.encode response)
        toEngine := read.2
        answers := system.answers ++ [(request, response)] }
    else
      match format.finished read.1 with
      | none => { system with engine := .reading read.1, toEngine := read.2 }
      | some request =>
        match handle request backend with
        | none => { system with engine := .faulted, toEngine := read.2 }
        | some response =>
          { system with
            engine := .replying (format.encode response)
            toEngine := read.2
            answers := system.answers ++ [(request, response)] }
  | _ => system

/-- `engine_ctrl_cb` writes. -/
def System.engineWrite (count : Nat) (system : System) : System :=
  match system.engine with
  | .replying rest =>
    let left := rest.drop count
    { system with
      engine := if left = [] then .reading [] else .replying left
      toClients := system.toClients ++ rest.take count }
  | _ => system

def System.step (system : System) : Action → System
  | .call call => system.call call
  | .clientWrite count => system.clientWrite count
  | .clientRead count allocated => system.clientRead count allocated
  | .engineRead count allocated backend => system.engineRead count allocated backend
  | .engineWrite count => system.engineWrite count

def System.initial : System where
  client := none
  engine := .reading []
  toEngine := []
  toClients := []
  issued := []
  answers := []
  returned := []

end Thingsee.Control
