import Thingsee.Gps.Stream
import Thingsee.Gps.States
import Thingsee.Support.Reads
import Thingsee.Support.Runs

/-!
Owns which octets the handlers of UBX messages read and write (ubgps_internal.c, ubgps_state.c,
ubx.c), and how long their responses say to be.

Behind the payload of a message there is other memory. What is done with the values is left to
the state machine. Whether aiding data can be used, and what their file gives, comes from outside.
-/

namespace Thingsee.Gps.MessageBounds

open Support Reads List

/-- The payload, as a pointer to it sees it. -/
def memory (msg : UbxMsg) (behind : Nat → UInt8) (offset : Nat) : UInt8 :=
  msg.payload.getD offset (behind offset)

/-- `UBX_GET_U1` and `UBX_GET_X1`. -/
def getU1 (memory : Nat → UInt8) (offset : Nat) : Reads Nat := unsigned memory offset 1

/-- `UBX_GET_U2`. -/
def getU2 (memory : Nat → UInt8) (offset : Nat) : Reads Nat := unsigned memory offset 2

/-- `UBX_GET_U4`. -/
def getU4 (memory : Nat → UInt8) (offset : Nat) : Reads Nat := unsigned memory offset 4

/-- `UBX_GET_I4`. -/
def getI4 (memory : Nat → UInt8) (offset : Nat) : Reads Int := signed memory offset 4

/-- `struct gps_time_s`. -/
structure GpsTime where
  validDate : Bool
  validTime : Bool
  oldFullyResolved : Bool
  fullyResolved : Bool
  year : Nat
  month : Nat
  day : Nat
  hour : Nat
  min : Nat
  sec : Nat
deriving DecidableEq

/-- `struct gps_location_s`. -/
structure GpsLocation where
  fixType : Nat
  numOfUsedSatellites : Nat
  longitude : Int
  latitude : Int
  horizontalAccuracy : Nat
  height : Int
  verticalAccuracy : Nat
  groundSpeed : Int
  groundSpeedAccuracy : Nat
  heading : Int
  headingAccuracy : Nat
deriving DecidableEq

/-- `CONFIG_SYSTEM_UBGPS_VERBOSE_DEBUG` and `CONFIG_UBGPS_DISALLOW_ACQ_FIX`. -/
structure Config where
  verboseDebug : Bool
  disallowAcqFix : Bool

/-- The date in `NAV-PVT`, if there is one. -/
def parseDate (known : Bool) (memory : Nat → UInt8) : Reads (Nat × Nat × Nat) :=
  if known then do
    let year ← getU2 memory 4
    let month ← getU1 memory 6
    let day ← getU1 memory 7
    pure (year, month, day)
  else pure (0, 0, 0)

/-- The time of the day in `NAV-PVT`, if there is one. -/
def parseClock (known : Bool) (memory : Nat → UInt8) : Reads (Nat × Nat × Nat) :=
  if known then do
    let hour ← getU1 memory 8
    let min ← getU1 memory 9
    let sec ← getU1 memory 10
    pure (hour, min, sec)
  else pure (0, 0, 0)

/-- `ubgps_parse_nav_pvt`: the time, the location and the flags. -/
def parseNavPvt (config : Config) (memory : Nat → UInt8) : Reads (GpsTime × GpsLocation × Nat) := do
  let valid ← getU1 memory 11
  let fixType ← getU1 memory 20
  let flags ← getU1 memory 21
  let hasFix := decide (0 < fixType ∧ fixType < 6) && flags.testBit 0
  let validDate := hasFix && valid.testBit 0
  let validTime := hasFix && valid.testBit 1
  let fullyResolved := hasFix && valid.testBit 2
  let date ← parseDate (validDate || fullyResolved) memory
  let clock ← parseClock (validTime || fullyResolved) memory
  let numOfUsedSatellites ← getU1 memory 23
  let longitude ← getI4 memory 24
  let latitude ← getI4 memory 28
  let horizontalAccuracy ← getU4 memory 40
  let height ← getI4 memory 36
  let verticalAccuracy ← getU4 memory 44
  let groundSpeed ← getI4 memory 60
  let groundSpeedAccuracy ← getU4 memory 68
  let heading ← getI4 memory 64
  let headingAccuracy ← getU4 memory 72
  -- `NAV_FLAG_PSM_ACQ` in `NAV_FLAG_PSM_MASK`
  let blocked := config.disallowAcqFix && hasFix && decide (flags / 4 % 8 = 2)
  let flags := if blocked then flags - 1 else flags
  pure
    ({ validDate, validTime, oldFullyResolved := valid.testBit 2, fullyResolved,
       year := date.1, month := date.2.1, day := date.2.2
       hour := clock.1, min := clock.2.1, sec := clock.2.2 },
     { fixType := if hasFix && !blocked then fixType else 0
       numOfUsedSatellites, longitude, latitude, horizontalAccuracy, height, verticalAccuracy,
       groundSpeed, groundSpeedAccuracy, heading, headingAccuracy },
     flags)

/-- `ubgps_handle_aid_alp`: the age of the data. -/
def handleAidAlp (config : Config) (memory : Nat → UInt8) : Reads Int := do
  let age ← getI4 memory 8
  if config.verboseDebug then do
    let _predStart ← getU4 memory 0
    let _predDur ← getU4 memory 4
    let _predWk ← getU2 memory 14
    let _sat ← getU1 memory 20
    pure age
  else pure age

/-- What `ubgps_handle_aid_alpsrv` meets: `gps->assist` with the id of the file, if there is a name
of a file and an id; whether it has the mutex, the file is valid, there is memory, and the file can
be opened and positioned; and what can be read there. -/
structure Aiding where
  assist : Option (BitVec 16)
  locked : Bool
  valid : Bool
  allocated : Bool
  opened : Bool
  seeked : Bool
  read : Option (List UInt8)

/-- What it does: the response that it sends, and what it writes to the file. -/
structure Served where
  response : Option UbxMsg
  written : Option (Nat × List UInt8)
deriving DecidableEq

/-- `ubx_msg_allocate`. The length has 16 bits. -/
def ubxMsgAllocate (classId msgId : UInt8) (payloadLength : Nat) : UbxMsg where
  classId := classId
  msgId := msgId
  length := payloadLength % 2 ^ 16
  payload := List.replicate payloadLength 0

/-- `memcpy` to a payload. -/
def place (payload : List UInt8) (offset : Nat) (bytes : List UInt8) : List UInt8 :=
  payload.take offset ++ bytes ++ payload.drop (offset + bytes.length)

/-- The response to a request, when it is sent. -/
def respond (fileId : BitVec 16) (header data : List UInt8) (dataSize : Nat) : UbxMsg :=
  let resp := ubxMsgAllocate 0x0B 0x32 (16 + dataSize)
  let payload := place resp.payload 0 header
  let payload := place payload 6 (leBytes 2 fileId.toNat)
  let payload := place payload 16 data
  let payload := place payload 8 (leBytes 2 data.length)
  { resp with payload := payload }

/-- `ubgps_handle_aid_alpsrv` for a request. -/
def serveRequest (aiding : Aiding) (fileId : BitVec 16) (dataSize : Nat) (memory : Nat → UInt8) :
    Reads Served :=
  if aiding.allocated then do
    let header ← octets memory 0 16
    match aiding.opened && aiding.seeked, aiding.read with
    | true, some data =>
      pure ⟨some (respond fileId header (data.take dataSize) dataSize), none⟩
    | _, _ => pure ⟨none, none⟩
  else pure ⟨none, none⟩

/-- `ubgps_handle_aid_alpsrv` for an update of the file. -/
def updateFile (aiding : Aiding) (fileId : BitVec 16) (dataOffset dataSize : Nat)
    (memory : Nat → UInt8) : Reads Served :=
  if aiding.opened && aiding.seeked then do
    let requestedId ← getU2 memory 6
    if requestedId = fileId.toNat then do
      let data ← octets memory 8 dataSize
      pure ⟨none, some (dataOffset, data)⟩
    else pure ⟨none, none⟩
  else pure ⟨none, none⟩

def handleAidAlpsrv (aiding : Aiding) (memory : Nat → UInt8) : Reads Served :=
  match aiding.assist with
  | none => pure ⟨none, none⟩
  | some fileId =>
    if aiding.locked && aiding.valid then do
      let requestedDataType ← getU1 memory 1
      let dataOffset ← getU2 memory 2
      let dataSize ← getU2 memory 4
      if requestedDataType ≠ 0xff then serveRequest aiding fileId (dataSize * 2) memory
      else updateFile aiding fileId (dataOffset * 2) (dataSize * 2) memory
    else pure ⟨none, none⟩

/-- What becomes of a message. -/
inductive Handled where
  | ubxStatus (classId msgId : Nat) (ack : Bool)
  | navPvt (time : GpsTime) (location : GpsLocation) (flags : Nat)
  | aidAlp (age : Int)
  | aidAlpsrv (served : Served)
  | unhandled
  | error
deriving DecidableEq

/-- `SM_EVENT_UBX_MESSAGE` in `ubgps_sm_global`. -/
def smGlobalMessage (config : Config) (aiding : Aiding) (msg : UbxMsg) (memory : Nat → UInt8) :
    Reads Handled :=
  if msg.classId = 0x01 ∧ msg.msgId = 0x07 then do
    let (time, location, flags) ← parseNavPvt config memory
    pure (.navPvt time location flags)
  else if msg.classId = 0x0B ∧ msg.msgId = 0x32 then do
    let served ← handleAidAlpsrv aiding memory
    pure (.aidAlpsrv served)
  else if msg.classId = 0x0B ∧ msg.msgId = 0x50 then do
    let age ← handleAidAlp config memory
    pure (.aidAlp age)
  else pure .unhandled

/-- `SM_EVENT_UBX_MESSAGE` in `ubgps_sm_initialization`. -/
def smInitializationMessage (config : Config) (aiding : Aiding) (msg : UbxMsg)
    (memory : Nat → UInt8) : Reads Handled :=
  if msg.classId = 0x01 ∧ msg.msgId = 0x07 then do
    let (time, location, flags) ← parseNavPvt config memory
    pure (.navPvt time location flags)
  else if msg.classId = 0x0B ∧ msg.msgId = 0x32 then do
    let served ← handleAidAlpsrv aiding memory
    pure (.aidAlpsrv served)
  else pure .unhandled

/-- `SM_EVENT_UBX_MESSAGE` in the handlers of the states. -/
def smMessage (config : Config) (aiding : Aiding) (state : GpsState) (msg : UbxMsg)
    (memory : Nat → UInt8) : Reads Handled :=
  match state with
  | .powerOff | .reinitialization => pure .unhandled
  | .initialization => smInitializationMessage config aiding msg memory
  | .coldStart | .searchingFix | .fixAcquired => smGlobalMessage config aiding msg memory

def IsAck (msg : UbxMsg) : Prop := msg.classId = classAck ∧ (msg.msgId = 0x01 ∨ msg.msgId = 0x00)

instance (msg : UbxMsg) : Decidable (IsAck msg) := inferInstanceAs (Decidable (_ ∧ _))

def ubxCallback (config : Config) (aiding : Aiding) (state : GpsState) (msg : UbxMsg)
    (memory : Nat → UInt8) : Reads Handled :=
  if IsAck msg then
    if msg.length ≠ 2 then pure .error
    else do
      let classId ← getU1 memory 0
      let msgId ← getU1 memory 1
      pure (.ubxStatus classId msgId (msg.msgId = 0x01))
  else smMessage config aiding state msg memory

/-- The end of `ubx_msg_receive`, when the checksum is right. -/
def deliver (sendTimer : Bool) (config : Config) (aiding : Aiding) (state : GpsState)
    (msg : UbxMsg) (memory : Nat → UInt8) : Reads Handled :=
  if sendTimer = true ∧ msg.length = 2 ∧ IsAck msg then do
    let _classId ← getU1 memory 0
    let _msgId ← getU1 memory 1
    ubxCallback config aiding state msg memory
  else ubxCallback config aiding state msg memory

def requested (memory : Nat → UInt8) : Nat := (getU2 memory 4).value * 2

section Handlers

variable (config : Config) (memory : Nat → UInt8) (bound : Nat) (offset : Nat) (known : Bool)

end Handlers

section Alpsrv

variable {aiding : Aiding} {msg : UbxMsg} {memory : Nat → UInt8}

section

variable (whole : msg.length = msg.payload.length)
  (inside : ∀ offset (bounded : offset < msg.payload.length), memory offset = msg.payload[offset])
include whole inside

end

end Alpsrv

section Messages

variable {config : Config} {aiding : Aiding} {state : GpsState} {msg : UbxMsg}
  {memory : Nat → UInt8}

section

variable (valid : msg.Valid)
  (inside : ∀ offset (bounded : offset < msg.payload.length), memory offset = msg.payload[offset])
include valid inside

end

end Messages

/-- What is stored of a message is shorter than it says, or as long. -/
structure Framed (receiver : Receiver) : Prop where
  payload : receiver.state = .payload →
    receiver.msg.payload.length < receiver.msg.length ∧ receiver.msg.length ≤ maxPayloadLength
  checksum : receiver.state = .checksum1 ∨ receiver.state = .checksum2 → receiver.msg.Valid

/-! ## Received messages -/

theorem framed_summed {receiver : Receiver} (framed : Framed receiver) (data : UInt8) :
    Framed (receiver.summed data) := by
  unfold Receiver.summed
  split <;> exact ⟨framed.payload, framed.checksum⟩

theorem framed_reset (receiver : Receiver) : Framed receiver.reset :=
  ⟨nofun, fun either => nomatch either⟩

/-- A receiver stays framed, and each message it accepts is valid. -/
theorem framed_tryReceive {receiver : Receiver} (framed : Framed receiver) (data : UInt8) :
    Framed (receiver.tryReceive data).1 ∧
      ∀ msg, (receiver.tryReceive data).2 = .accepted (some msg) → msg.Valid := by
  unfold Receiver.tryReceive
  cases state : receiver.state with
  | wait =>
    dsimp only
    split
    · exact ⟨⟨nofun, fun either => nomatch either⟩, nofun⟩
    · exact ⟨framed, nofun⟩
  | sync =>
    dsimp only
    split
    · exact ⟨framed_reset _, nofun⟩
    · exact ⟨⟨nofun, fun either => nomatch either⟩, nofun⟩
  | header =>
    dsimp only
    split
    · exact ⟨⟨nofun, fun either => nomatch either⟩, nofun⟩
    · split
      · exact ⟨framed_reset _, nofun⟩
      · rename_i short
        have empty : (parseHeader (receiver.stored ++ [data])).payload = [] := by
          unfold parseHeader
          split <;> rfl
        refine ⟨⟨?_, ?_⟩, nofun⟩
        · intro inPayload
          dsimp only at inPayload ⊢
          split at inPayload
          · rename_i positive
            rw [empty]
            exact ⟨positive, by omega⟩
          · nomatch inPayload
        · intro atChecksum
          dsimp only at atChecksum ⊢
          split at atChecksum
          · nomatch atChecksum
          · rename_i zero
            exact ⟨by rw [empty, length_nil]; omega, by omega⟩
  | payload =>
    obtain ⟨shorter, short⟩ := framed.payload state
    refine ⟨⟨?_, ?_⟩, nofun⟩
    · intro inPayload
      dsimp only at inPayload ⊢
      split at inPayload
      · nomatch inPayload
      · rename_i more
        exact ⟨by omega, short⟩
    · intro atChecksum
      dsimp only at atChecksum ⊢
      split at atChecksum
      · rename_i full
        rw [length_append, length_singleton] at full
        exact ⟨by simp only [length_append, length_singleton]; omega, short⟩
      · nomatch atChecksum
  | checksum1 =>
    dsimp only
    split
    · exact ⟨framed_reset _, nofun⟩
    · exact ⟨⟨nofun, fun _ => framed.checksum (Or.inl state)⟩, nofun⟩
  | checksum2 =>
    dsimp only
    split
    · exact ⟨framed_reset _, nofun⟩
    · refine ⟨framed_reset _, ?_⟩
      rintro msg ⟨⟩
      exact framed.checksum (Or.inr state)

/-- A byte comes in, or a timer of the receiver runs out. -/
inductive UbxInput where
  | byte (data : UInt8)
  | timeout (timer : UbxTimer)

def receiveInput (gps : Ubgps) : UbxInput → Ubgps
  | .byte data => gps.receiveByte data
  | .timeout timer => gps.timeout timer

theorem framed_receiveInput {gps : Ubgps}
    (framed : Framed gps.ubx ∧ ∀ msg ∈ gps.delivered, msg.Valid) (input : UbxInput) :
    Framed (receiveInput gps input).ubx ∧
      ∀ msg ∈ (receiveInput gps input).delivered, msg.Valid := by
  cases input with
  | timeout timer =>
    refine ⟨?_, framed.2⟩
    cases timer with
    | send => exact ⟨framed.1.payload, framed.1.checksum⟩
    | receive =>
      simp only [receiveInput, Ubgps.timeout, Receiver.timeout]
      split
      · exact framed_reset _
      · exact framed.1
  | byte data =>
    have first := framed_tryReceive (framed_summed framed.1 data) data
    have received : Framed (gps.ubx.msgReceive data).1 ∧
        ∀ msg, (gps.ubx.msgReceive data).2 = .accepted (some msg) → msg.Valid := by
      unfold Receiver.msgReceive
      split
      · rename_i next same
        rw [same] at first
        exact framed_tryReceive (framed_summed first.1 data) data
      · rename_i next msg same
        rw [same] at first
        exact first
      · rename_i next same
        rw [same] at first
        exact ⟨first.1, nofun⟩
    simp only [receiveInput, Ubgps.receiveByte]
    split
    · rename_i ubx msg same
      rw [same] at received
      refine ⟨received.1, ?_⟩
      intro other listed
      rcases mem_append.mp listed with earlier | new
      · exact framed.2 other earlier
      · cases msg with
        | none => nomatch new
        | some msg =>
          rw [Option.toList_some, mem_singleton] at new
          subst new
          exact received.2 other rfl
    all_goals
      rename_i ubx same
      rw [same] at received
      exact ⟨received.1, framed.2⟩

end Thingsee.Gps.MessageBounds
