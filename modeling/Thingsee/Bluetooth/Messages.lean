import Mathlib.Data.List.Basic
import Thingsee.Bluetooth.Types

/-!
Owns messages: how they are encoded, and what the data receiver makes of the bytes of messages with
padding behind them, while there is memory.
-/

namespace Thingsee.Bluetooth

open List

/-- `BTLE_DATA_PROFILE` and `BTLE_DATA_CLOUD`. -/
inductive Kind where
  | profile
  | cloud

def Kind.msgId : Kind → UInt8
  | .profile => 1
  | .cloud => 2

/-- A message that can be received: its payload has at most `MAX_PAYLOAD_LENGTH` bytes. -/
structure Message where
  kind : Kind
  seqNum : UInt8
  payload : List UInt8
  short : payload.length ≤ 4096

namespace Message

def header (message : Message) : Header where
  msgId := message.kind.msgId
  seqNum := message.seqNum
  lengthLow := UInt8.ofNat (message.payload.length % 256)
  lengthHigh := UInt8.ofNat (message.payload.length / 256)

def headerBytes (message : Message) : List UInt8 :=
  [message.header.msgId, message.header.seqNum, message.header.lengthLow, message.header.lengthHigh]

/-- The bytes that the checksum runs over. -/
def bytes (message : Message) : List UInt8 := message.headerBytes ++ message.payload

/-- The synchronization character, the header, the payload and the checksum. -/
def encode (message : Message) : List UInt8 :=
  syncChar :: (message.bytes ++ [(checksum message.bytes).1, (checksum message.bytes).2])

def event (message : Message) : Event :=
  match message.kind with
  | .profile => .deviceProfile message.payload.length (message.payload.map some)
  | .cloud => .cloudProfile message.payload.length (message.payload.map some)

def deeds (message : Message) : List Deed :=
  [.publish message.event, .respond message.seqNum .ok]

theorem header_length (message : Message) : message.header.length = message.payload.length := by
  have short := message.short
  have low : message.payload.length % 256 < 256 := Nat.mod_lt _ (by decide)
  have high : message.payload.length / 256 < 256 := by omega
  show (UInt8.ofNat _).toNat + 256 * (UInt8.ofNat _).toNat = _
  rw [UInt8.toNat_ofNat_of_lt' low, UInt8.toNat_ofNat_of_lt' high]
  omega

end Message

namespace DataReceiver

variable {message : Message} {data : UInt8}

def receiveAll (receiver : DataReceiver) : List UInt8 → DataReceiver × List Deed
  | [] => (receiver, [])
  | data :: rest =>
    ((receiveAll (receiver.receive data .plenty).1 rest).1,
      (receiver.receive data .plenty).2 ++ (receiveAll (receiver.receive data .plenty).1 rest).2)

variable {receiver : DataReceiver}

theorem receiveAll_append (receiver : DataReceiver) (first second : List UInt8) :
    receiver.receiveAll (first ++ second) =
      (((receiver.receiveAll first).1.receiveAll second).1,
        (receiver.receiveAll first).2 ++ ((receiver.receiveAll first).1.receiveAll second).2) := by
  induction first generalizing receiver with
  | nil => rfl
  | cons data rest ih =>
    show ((receiveAll _ (rest ++ second)).1, _ ++ (receiveAll _ (rest ++ second)).2) = _
    rw [ih, ← append_assoc]
    rfl

structure Waiting (receiver : DataReceiver) : Prop where
  state : receiver.state = .wait
  ckA : receiver.ckA = 0
  ckB : receiver.ckB = 0

structure AtHeader (receiver : DataReceiver) : Prop where
  state : receiver.state = .header
  offset : receiver.offset = 0
  ckA : receiver.ckA = 0
  ckB : receiver.ckB = 0

/-- In the payload of a message, of which some bytes are stored. -/
structure InPayload (message : Message) (done : List UInt8) (receiver : DataReceiver) : Prop where
  state : receiver.state = .payload
  header : receiver.header = message.header
  msg : ∃ serial, receiver.msg = some ⟨serial, message.header,
    done.map some ++ List.replicate (message.payload.length - done.length) none⟩
  offset : receiver.offset = done.length
  sums : (receiver.ckA, receiver.ckB) = checksum (message.headerBytes ++ done)

structure AtChecksum (message : Message) (receiver : DataReceiver) : Prop where
  state : receiver.state = .checksum1
  header : receiver.header = message.header
  msg : ∃ serial, receiver.msg = some ⟨serial, message.header, message.payload.map some⟩
  sums : (receiver.ckA, receiver.ckB) = checksum message.bytes

theorem receive_of_returned {next : DataReceiver}
    (tried : receiver.tryReceive data .plenty = ((next, .returned), [])) :
    receiver.receive data .plenty = (next, []) := by
  unfold receive
  rw [tried]

theorem reset_waiting (receiver : DataReceiver) : receiver.reset.Waiting := ⟨rfl, rfl, rfl⟩

theorem receive_other (waiting : receiver.Waiting) (other : data ≠ syncChar) :
    receiver.receive data .plenty = (receiver, []) := by
  apply receive_of_returned
  unfold tryReceive receiveSync
  rw [waiting.state]
  rw [if_neg other]

theorem receive_sync (waiting : receiver.Waiting) :
    ∃ next, receiver.receive syncChar .plenty = (next, []) ∧ next.AtHeader := by
  refine ⟨{ receiver with state := .header, offset := 0 }.setTimer true,
    receive_of_returned ?_, ⟨rfl, rfl, waiting.ckA, waiting.ckB⟩⟩
  unfold tryReceive receiveSync
  rw [waiting.state]
  rfl

theorem receive_header (state : receiver.state = .header) (inside : receiver.offset < 3)
    (data : UInt8) :
    receiver.receive data .plenty = ((receiver.summed data).storeHeader data, []) := by
  have short : ((receiver.summed data).storeHeader data).offset < 4 := Nat.succ_lt_succ inside
  apply receive_of_returned
  unfold tryReceive receiveHeader
  rw [state]
  rw [if_pos short]

def withBuffer (receiver : DataReceiver) : DataReceiver :=
  if 0 < receiver.header.length then { receiver.allocate with offset := 0, state := .payload }
  else { receiver.allocate with state := .checksum1 }

theorem receive_header_last (state : receiver.state = .header) (last : receiver.offset = 3)
    (data : UInt8) (small : (receiver.header.store data 3).length ≤ 4096) :
    receiver.receive data .plenty = (((receiver.summed data).storeHeader data).withBuffer, []) := by
  have long : ¬ ((receiver.summed data).storeHeader data).offset < 4 := by
    show ¬ receiver.offset + 1 < 4
    omega
  have stored : ((receiver.summed data).storeHeader data).header =
      receiver.header.store data 3 := by
    show receiver.header.store data receiver.offset = _
    rw [last]
  apply receive_of_returned
  unfold tryReceive receiveHeader finishHeader withBuffer
  rw [state]
  dsimp only
  rw [if_neg long, stored, if_neg (Nat.not_lt.mpr small), if_neg Bool.noConfusion]
  split <;> rfl

theorem withBuffer_spec (header : receiver.header = message.header)
    (sums : (receiver.ckA, receiver.ckB) = checksum message.headerBytes) :
    (message.payload = [] ∧ receiver.withBuffer.AtChecksum message) ∨
      (message.payload ≠ [] ∧ receiver.withBuffer.InPayload message []) := by
  have length : receiver.header.length = message.payload.length := by
    rw [header, message.header_length]
  have allocated : receiver.allocate.msg = some ⟨receiver.serials, message.header,
      List.replicate message.payload.length none⟩ := by
    show some (Msg.mk receiver.serials receiver.header _) = _
    rw [length, header]
  unfold withBuffer
  split
  case isTrue filled =>
    refine .inr ⟨fun none => ?_, ⟨rfl, header, ⟨_, allocated⟩, rfl, ?_⟩⟩
    · rw [length, none] at filled
      cases filled
    · rw [append_nil]
      exact sums
  case isFalse empty =>
    have none : message.payload = [] := by
      rw [length] at empty
      exact length_eq_zero_iff.mp (Nat.eq_zero_of_not_pos empty)
    refine .inl ⟨none, ⟨rfl, header, ⟨receiver.serials, ?_⟩, ?_⟩⟩
    · show receiver.allocate.msg = _
      rw [allocated, none]
      rfl
    · unfold Message.bytes
      rw [none, append_nil]
      exact sums

theorem receiveAll_header (start : receiver.AtHeader) (message : Message) :
    ∃ next, receiver.receiveAll message.headerBytes = (next, []) ∧
      ((message.payload = [] ∧ next.AtChecksum message) ∨
        (message.payload ≠ [] ∧ next.InPayload message [])) := by
  obtain ⟨state, offset, ckA, ckB⟩ := start
  generalize first : (receiver.summed message.header.msgId).storeHeader message.header.msgId = one
  generalize second : (one.summed message.header.seqNum).storeHeader message.header.seqNum = two
  generalize third :
    (two.summed message.header.lengthLow).storeHeader message.header.lengthLow = three
  have oneOffset : one.offset = 1 := by
    rw [← first]
    show receiver.offset + 1 = 1
    rw [offset]
  have twoOffset : two.offset = 2 := by
    rw [← second]
    show one.offset + 1 = 2
    rw [oneOffset]
  have threeOffset : three.offset = 3 := by
    rw [← third]
    show two.offset + 1 = 3
    rw [twoOffset]
  have oneState : one.state = .header := by rw [← first]; exact state
  have twoState : two.state = .header := by rw [← second]; exact oneState
  have threeState : three.state = .header := by rw [← third]; exact twoState
  have header : three.header.store message.header.lengthHigh 3 = message.header := by
    rw [← third]
    show (two.header.store message.header.lengthLow two.offset).store _ 3 = _
    rw [twoOffset, ← second]
    show ((one.header.store message.header.seqNum one.offset).store _ 2).store _ 3 = _
    rw [oneOffset, ← first]
    show (((receiver.header.store message.header.msgId receiver.offset).store _ 1).store _ 2).store
      _ 3 = _
    rw [offset]
    rfl
  have small : (three.header.store message.header.lengthHigh 3).length ≤ 4096 := by
    rw [header, message.header_length]
    exact message.short
  refine ⟨((three.summed message.header.lengthHigh).storeHeader
    message.header.lengthHigh).withBuffer, ?_, withBuffer_spec ?_ ?_⟩
  · unfold Message.headerBytes receiveAll
    rw [receive_header state (by rw [offset]; decide), first]
    unfold receiveAll
    rw [receive_header oneState (by rw [oneOffset]; decide), second]
    unfold receiveAll
    rw [receive_header twoState (by rw [twoOffset]; decide), third]
    unfold receiveAll
    rw [receive_header_last threeState threeOffset _ small]
    rfl
  · show three.header.store message.header.lengthHigh three.offset = _
    rw [threeOffset, header]
  · show addToChecksum (three.ckA, three.ckB) _ = _
    rw [← third]
    rw [← second]
    rw [← first]
    show addToChecksum (addToChecksum (addToChecksum (addToChecksum
      (receiver.ckA, receiver.ckB) _) _) _) _ = _
    rw [ckA, ckB]
    rfl

theorem checksum_snoc (bytes : List UInt8) (data : UInt8) :
    checksum (bytes ++ [data]) = addToChecksum (checksum bytes) data := by
  unfold checksum
  rw [foldl_append]
  rfl

theorem set_next (done : List UInt8) (data : UInt8) (more : Nat) :
    (done.map some ++ List.replicate (more + 1) none).set done.length (some data) =
      (done ++ [data]).map some ++ List.replicate more none := by
  rw [set_append_right _ _ (Nat.le_of_eq (length_map some)), length_map, Nat.sub_self,
    map_append, append_assoc]
  rfl

section

variable {done rest : List UInt8} (inside : receiver.InPayload message done)
  (whole : message.payload = done ++ data :: rest)
include inside whole

theorem receive_payload :
    ∃ next, receiver.receive data .plenty = (next, []) ∧
      ((rest = [] ∧ next.AtChecksum message) ∨
        (rest ≠ [] ∧ next.InPayload message (done ++ [data]))) := by
  obtain ⟨serial, isMsg⟩ := inside.msg
  have length : message.payload.length = done.length + (rest.length + 1) := by
    rw [whole, length_append, length_cons]
  rw [length, Nat.add_sub_cancel_left] at isMsg
  generalize stored : (receiver.summed data).storePayload data = next
  have fields : next = { receiver.summed data with
      msg := some ⟨serial, message.header,
        (done ++ [data]).map some ++ List.replicate rest.length none⟩
      offset := done.length + 1
      stores := (done.length, message.header.length) :: receiver.stores } := by
    rw [← stored]
    unfold storePayload
    have msg : (receiver.summed data).msg = receiver.msg := rfl
    have offset : (receiver.summed data).offset = done.length := inside.offset
    rw [msg, isMsg]
    dsimp only
    rw [offset, set_next]
    rfl
  have sums : (next.ckA, next.ckB) = checksum (message.headerBytes ++ (done ++ [data])) := by
    rw [fields, ← append_assoc]
    show addToChecksum (receiver.ckA, receiver.ckB) data = _
    rw [inside.sums, checksum_snoc]
  refine ⟨(receiver.summed data).receivePayload data, ?_, ?_⟩
  · apply receive_of_returned
    unfold tryReceive
    rw [inside.state]
  unfold receivePayload
  rw [stored]
  have atEnd : next.msgLength ≤ next.offset ↔ rest = [] := by
    rw [fields]
    show message.header.length ≤ done.length + 1 ↔ _
    rw [message.header_length, length, ← length_eq_zero_iff]
    omega
  split
  case isTrue ends =>
    have last := atEnd.mp ends
    subst last
    refine .inl ⟨rfl, ⟨rfl, ?_, ⟨serial, ?_⟩, ?_⟩⟩
    · rw [fields]
      exact inside.header
    · rw [fields, whole]
      show some (Msg.mk serial message.header (_ ++ [])) = _
      rw [append_nil]
    · unfold Message.bytes
      rw [whole]
      exact sums
  case isFalse more =>
    refine .inr ⟨fun last => more (atEnd.mpr last), ⟨?_, ?_, ⟨serial, ?_⟩, ?_, sums⟩⟩
    · rw [fields]
      exact inside.state
    · rw [fields]
      exact inside.header
    · rw [fields, length, length_append, length_singleton]
      have left : done.length + (rest.length + 1) - (done.length + 1) = rest.length := by omega
      rw [left]
    · rw [fields, length_append, length_singleton]

theorem receiveAll_payload :
    ∃ next, receiver.receiveAll (data :: rest) = (next, []) ∧ next.AtChecksum message := by
  induction rest generalizing receiver done data with
  | nil =>
    obtain ⟨next, received, ⟨_, atChecksum⟩ | ⟨more, _⟩⟩ := receive_payload inside whole
    · refine ⟨next, ?_, atChecksum⟩
      unfold receiveAll
      rw [received]
      rfl
    · exact absurd rfl more
  | cons second rest ih =>
    obtain ⟨next, received, ⟨last, _⟩ | ⟨_, further⟩⟩ := receive_payload inside whole
    · cases last
    · obtain ⟨after, others, atChecksum⟩ := ih further
        (by rw [whole, append_assoc]; rfl)
      refine ⟨after, ?_, atChecksum⟩
      unfold receiveAll
      rw [received, others]
      rfl

end

theorem receiveAll_checksum (atChecksum : receiver.AtChecksum message) :
    ∃ next, receiver.receiveAll [(checksum message.bytes).1, (checksum message.bytes).2] =
      (next, message.deeds) ∧ next.Waiting := by
  obtain ⟨serial, isMsg⟩ := atChecksum.msg
  have sums := atChecksum.sums
  have ckA : receiver.ckA = (checksum message.bytes).1 := congrArg Prod.fst sums
  have ckB : receiver.ckB = (checksum message.bytes).2 := congrArg Prod.snd sums
  have first : receiver.receive (checksum message.bytes).1 .plenty =
      ({ receiver with state := .checksum2 }, []) := by
    apply receive_of_returned
    unfold tryReceive
    rw [atChecksum.state]
    exact if_pos ckA
  have deeds : { receiver with state := .checksum2 }.dataReceived = message.deeds := by
    unfold dataReceived Message.deeds Message.event
    rw [isMsg, atChecksum.header, message.header_length]
    have msgId : message.header.msgId = message.kind.msgId := rfl
    rw [msgId]
    cases message.kind <;> rfl
  have second : { receiver with state := .checksum2 }.receive (checksum message.bytes).2 .plenty =
      ({ receiver with state := .checksum2 }.reset, message.deeds) := by
    unfold receive tryReceive
    rw [if_pos ckB, deeds]
  refine ⟨{ receiver with state := .checksum2 }.reset, ?_, reset_waiting _⟩
  unfold receiveAll
  rw [first]
  unfold receiveAll
  rw [second]
  rfl

/-- A waiting receiver does what a message asks for, and waits again. -/
theorem receiveAll_message (waiting : receiver.Waiting) (message : Message) :
    ∃ next, receiver.receiveAll message.encode = (next, message.deeds) ∧ next.Waiting := by
  obtain ⟨started, sync, start⟩ := receive_sync waiting
  obtain ⟨headed, header, body⟩ := receiveAll_header start message
  have arrives : ∃ next, headed.receiveAll message.payload = (next, []) ∧
      next.AtChecksum message := by
    rcases body with ⟨empty, atChecksum⟩ | ⟨filled, inside⟩
    · rw [empty]
      exact ⟨headed, rfl, atChecksum⟩
    · cases payload : message.payload with
      | nil => exact absurd payload filled
      | cons data rest => exact receiveAll_payload inside payload
  obtain ⟨arrived, payload, atChecksum⟩ := arrives
  obtain ⟨next, sums, still⟩ := receiveAll_checksum atChecksum
  refine ⟨next, ?_, still⟩
  unfold Message.encode Message.bytes
  unfold Message.bytes at sums
  unfold receiveAll
  rw [sync, receiveAll_append, receiveAll_append, header, payload, sums]
  rfl

theorem receiveAll_padding (waiting : receiver.Waiting) {padding : List UInt8}
    (other : ∀ data ∈ padding, data ≠ syncChar) : receiver.receiveAll padding = (receiver, []) := by
  induction padding with
  | nil => rfl
  | cons data rest ih =>
    unfold receiveAll
    rw [receive_other waiting (other data mem_cons_self),
      ih fun next isIn => other next (mem_cons_of_mem _ isIn)]
    rfl

theorem receiveAll_messages (waiting : receiver.Waiting) (messages : List Message)
    {padding : List UInt8} (other : ∀ data ∈ padding, data ≠ syncChar) :
    (receiver.receiveAll (messages.flatMap Message.encode ++ padding)).2 =
      messages.flatMap Message.deeds := by
  induction messages generalizing receiver with
  | nil =>
    show (receiver.receiveAll padding).2 = []
    rw [receiveAll_padding waiting other]
  | cons message rest ih =>
    obtain ⟨next, received, still⟩ := receiveAll_message waiting message
    rw [flatMap_cons, append_assoc, receiveAll_append, received, flatMap_cons]
    exact congrArg (message.deeds ++ ·) (ih still)

end DataReceiver

end Thingsee.Bluetooth
