import Thingsee.Gps.MessageBounds

/-!
Owns that the receiver of UBX messages makes nothing up: whatever comes in and whenever its timers
run out, the messages that it delivers stand in the stream as frames, one behind the other.
-/

namespace Thingsee.Gps

open MessageBounds Support List

/-- The part of the stream that the receiver has taken for the beginning of a frame. -/
def Receiver.pieces (receiver : Receiver) : List UInt8 :=
  match receiver.state with
  | .wait => []
  | .sync => [syncChar1]
  | .header => syncChar1 :: syncChar2 :: receiver.stored
  | .payload | .checksum1 => syncChar1 :: syncChar2 :: receiver.msg.bytes
  | .checksum2 => syncChar1 :: syncChar2 :: (receiver.msg.bytes ++ [receiver.ckA])

/-- The checksum is the one of the octets behind the synchronization characters. -/
def Receiver.Summed (receiver : Receiver) : Prop :=
  match receiver.state with
  | .wait | .sync => (receiver.ckA, receiver.ckB) = (0, 0)
  | .header => (receiver.ckA, receiver.ckB) = checksum receiver.stored ∧ receiver.stored.length < 4
  | .payload | .checksum1 | .checksum2 =>
    (receiver.ckA, receiver.ckB) = checksum receiver.msg.bytes

/-- What a receiver that has taken `taken` may do with the next octet. -/
def Octet (taken : List UInt8) (data : UInt8) (result : Receiver × Verdict) : Prop :=
  result.1.Summed ∧
    match result.2 with
    | .accepted none => result.1.pieces = taken ++ [data]
    | .accepted (some msg) => result.1.pieces = [] ∧ msg.encode = taken ++ [data]
    | .ignored | .again => result.1.pieces = []

theorem parseHeader_bytes {stored : List UInt8} (four : stored.length = 4) :
    (parseHeader stored).bytes = stored := by
  match stored, four with
  | [classId, msgId, low, high], _ =>
    have length : leBytes 2 (leValue [low, high]) = [low, high] := leBytes_leValue [low, high]
    simpa [parseHeader, UbxMsg.bytes] using length

theorem summed_octet {receiver : Receiver} (summed : receiver.Summed) (data : UInt8) :
    Octet receiver.pieces data ((receiver.summed data).tryReceive data) := by
  unfold Receiver.Summed at summed
  unfold Receiver.tryReceive Receiver.summed Receiver.pieces
  cases state : receiver.state with
  | wait =>
    simp only [state] at summed ⊢
    split
    · next sync => exact ⟨summed, by simp [Receiver.pieces, sync]⟩
    · exact ⟨by simpa [Receiver.Summed, state] using summed, by simp [Receiver.pieces, state]⟩
  | sync =>
    simp only [state] at summed ⊢
    split
    · exact ⟨rfl, rfl⟩
    · next sync =>
      rw [not_not] at sync
      exact ⟨⟨summed, Nat.zero_lt_succ 3⟩, by simp [Receiver.pieces, sync]⟩
  | header =>
    simp only [state] at summed ⊢
    obtain ⟨sum, short⟩ := summed
    have next : fletcher (receiver.ckA, receiver.ckB) data =
        checksum (receiver.stored ++ [data]) := by
      rw [sum, checksum_snoc]
    split
    · next more => exact ⟨⟨next, more⟩, rfl⟩
    · next full =>
      split
      · exact ⟨rfl, rfl⟩
      · have bytes : (parseHeader (receiver.stored ++ [data])).bytes =
            receiver.stored ++ [data] := by
          apply parseHeader_bytes
          rw [length_append, length_singleton] at full ⊢
          omega
        by_cases some : 0 < (parseHeader (receiver.stored ++ [data])).length <;>
          simp [Octet, Receiver.pieces, Receiver.Summed, some, bytes, next]
  | payload =>
    simp only [state] at summed ⊢
    have bytes := bytes_snoc receiver.msg receiver.msg.payload data
    have next : fletcher (receiver.ckA, receiver.ckB) data =
        checksum (receiver.msg.upTo (receiver.msg.payload ++ [data])).bytes := by
      rw [bytes, checksum_snoc, summed]
      rfl
    split <;> exact ⟨next, congrArg (syncChar1 :: syncChar2 :: ·) bytes⟩
  | checksum1 =>
    simp only [state] at summed ⊢
    split
    · exact ⟨rfl, rfl⟩
    · next same =>
      rw [not_not] at same
      exact ⟨summed, by simp [Receiver.pieces, same]⟩
  | checksum2 =>
    simp only [state] at summed ⊢
    split
    · exact ⟨rfl, rfl⟩
    · next same =>
      rw [not_not] at same
      exact ⟨rfl, rfl, by simp [UbxMsg.encode, ← summed, same]⟩

/-- The octets so far are frames of the delivered messages, octets between them, and what the
receiver has taken. -/
def Stands (octets taken : List UInt8) (delivered : List UbxMsg) : Prop :=
  ∃ stream, octets = stream.flatMap Token.encode ++ taken ∧ frames stream = delivered

section

variable {octets taken : List UInt8} {delivered : List UbxMsg}

theorem Stands.dropped (stands : Stands octets taken delivered) : Stands octets [] delivered := by
  obtain ⟨stream, isStream, isDelivered⟩ := stands
  refine ⟨stream ++ taken.map Token.byte, ?_, ?_⟩
  · simp [isStream, flatMap_map, Token.encode]
  · simp [frames, ← isDelivered, filterMap_map]

theorem Stands.take (stands : Stands octets taken delivered) (data : UInt8) :
    Stands (octets ++ [data]) (taken ++ [data]) delivered := by
  obtain ⟨stream, rfl, isDelivered⟩ := stands
  exact ⟨stream, append_assoc _ _ _, isDelivered⟩

theorem Stands.receiveByte {gps : Ubgps} (summed : gps.ubx.Summed)
    (stands : Stands octets gps.ubx.pieces gps.delivered) (data : UInt8) :
    (gps.receiveByte data).ubx.Summed ∧
      Stands (octets ++ [data]) (gps.receiveByte data).ubx.pieces
        (gps.receiveByte data).delivered := by
  have received : ∃ taken, Stands octets taken gps.delivered ∧
      Octet taken data (gps.ubx.msgReceive data) := by
    have first := summed_octet summed data
    unfold Receiver.msgReceive
    generalize (gps.ubx.summed data).tryReceive data = result at first
    obtain ⟨next, verdict⟩ := result
    cases verdict with
    | accepted | ignored => exact ⟨_, stands, first⟩
    | again =>
      -- The octet is the first one that the reset receiver gets.
      have second := summed_octet first.1 data
      rw [first.2] at second
      exact ⟨[], stands.dropped, second⟩
  obtain ⟨taken, stands, octet⟩ := received
  have whole := stands.take data
  unfold Ubgps.receiveByte
  generalize gps.ubx.msgReceive data = result at octet
  obtain ⟨next, verdict⟩ := result
  obtain ⟨summed, pieces⟩ := octet
  cases verdict with
  | ignored | again => exact ⟨summed, pieces ▸ whole.dropped⟩
  | accepted msg =>
    cases msg with
    | none =>
      have begun : next.pieces = taken ++ [data] := pieces
      exact ⟨summed, by simpa [begun] using whole⟩
    | some msg =>
      obtain ⟨ended, frame⟩ : next.pieces = [] ∧ msg.encode = taken ++ [data] := pieces
      obtain ⟨stream, isStream, isDelivered⟩ := whole
      refine ⟨summed, stream ++ [.frame msg], ?_, ?_⟩
      · simp [isStream, Token.encode, ended, frame]
      · simp [frames, ← isDelivered]

end

/-- The octets that an input adds to the stream. -/
def inputOctets : UbxInput → List UInt8
  | .byte data => [data]
  | .timeout _ => []

theorem Stands.input {gps : Ubgps} {octets : List UInt8} (summed : gps.ubx.Summed)
    (stands : Stands octets gps.ubx.pieces gps.delivered) (input : UbxInput) :
    (receiveInput gps input).ubx.Summed ∧
      Stands (octets ++ inputOctets input) (receiveInput gps input).ubx.pieces
        (receiveInput gps input).delivered := by
  cases input with
  | byte data => exact stands.receiveByte summed data
  | timeout timer =>
    rw [inputOctets, append_nil]
    cases timer with
    | send => exact ⟨summed, stands⟩
    | receive =>
      simp only [receiveInput, Ubgps.timeout, Receiver.timeout]
      split
      · exact ⟨rfl, stands.dropped⟩
      · exact ⟨summed, stands⟩

/-- **The delivered messages are frames of the stream, in their order and apart from each other,
and are as long as they say.** -/
theorem delivered_stand_in_stream (inputs : List UbxInput) :
    let gps := inputs.foldl receiveInput Ubgps.initial
    ∃ stream, inputs.flatMap inputOctets = stream.flatMap Token.encode ++ gps.ubx.pieces ∧
      frames stream = gps.delivered ∧ ∀ msg ∈ gps.delivered, msg.Valid := by
  have run (inputs : List UbxInput) : let gps := inputs.foldl receiveInput Ubgps.initial
      gps.ubx.Summed ∧ Stands (inputs.flatMap inputOctets) gps.ubx.pieces gps.delivered ∧
        Framed gps.ubx ∧ ∀ msg ∈ gps.delivered, msg.Valid := by
    induction inputs using List.reverseRecOn with
    | nil => exact ⟨rfl, ⟨[], rfl, rfl⟩, ⟨nofun, fun either => nomatch either⟩, nofun⟩
    | append_singleton inputs input ih =>
      obtain ⟨summed, stands, framed⟩ := ih
      rw [foldl_concat, flatMap_append, flatMap_singleton]
      have next := stands.input summed input
      exact ⟨next.1, next.2, framed_receiveInput framed input⟩
  obtain ⟨-, ⟨stream, isStream, isDelivered⟩, -, valid⟩ := run inputs
  exact ⟨stream, isStream, isDelivered, valid⟩

end Thingsee.Gps
