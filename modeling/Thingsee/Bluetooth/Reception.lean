import Thingsee.Bluetooth.Framing
import Thingsee.Bluetooth.Messages

/-!
Owns the reception of messages: what arrives of messages that are cut into data frames, with
indications between the frames, and read in pieces.

The loop of `bluetooth_receiver` takes both bytes of a frame header at once, and a byte of its
payload with them unless the header stands at the start of a read. So it matters where a read ends.
-/

namespace Thingsee.Bluetooth

open List

variable {btle : Btle} (receiver : DataReceiver)

def Frame.dataBytes : Frame → List UInt8
  | .data bytes => bytes
  | .ind _ _ => []

def Frame.states : Frame → List UInt8
  | .data _ => []
  | .ind _ gapState => [gapState]

/-- No state is `BTLE_STATE_INIT` or `BTLE_STATE_STARTED` behind `BTLE_STATE_CONNECTED`. -/
def KeepsConnection : UInt8 → List UInt8 → Prop
  | _, [] => True
  | state, next :: rest =>
    ¬ (state = Btle.connected ∧ (next = 0 ∨ next = 1)) ∧ KeepsConnection next rest

/-- Messages in data frames of 20 bytes, the last one padded, with indications between them. -/
structure Stream where
  messages : List Message
  padding : List UInt8
  frames : List Frame
  valid : ∀ frame ∈ frames, frame.Valid
  cut : frames.flatMap Frame.dataBytes = messages.flatMap Message.encode ++ padding
  padded : ∀ data ∈ padding, data ≠ syncChar
  short : padding.length < 20

def Stream.states (stream : Stream) : List UInt8 := stream.frames.flatMap Frame.states

/-- A module between frames and messages, with its device open. -/
structure Btle.Idle (btle : Btle) : Prop where
  opened : 1 ≤ btle.fd
  counter : btle.payloadLen = 0
  data : btle.data.Waiting
  ind : btle.ind.state = .wait

/-- The calls of the callbacks that have subscribed to an event, in their order. -/
def Callbacks.calls (callbacks : Callbacks) (event : Event) : List Output :=
  (callbacks.entries.filter fun entry => entry.eventMask &&& event.id != 0).map
    fun entry => .called entry.callback event

/-- Outputs that are about messages: events of profiles, and responses. -/
def Output.ofMessage : Output → Bool
  | .called _ (.connectionState _) => false
  | .called _ _ => true
  | .wrote _ => true

/-- What a message brings about: it is published once, and acknowledged. -/
def Message.outputs (message : Message) (callbacks : Callbacks) : List Output :=
  callbacks.calls message.event ++ [.wrote (ackMsg message.seqNum .ok)]

/-- All reads are consumed exactly, each message is published and acknowledged once and in order,
and each indication is published once. -/
def Delivers (btle : Btle) (stream : Stream) (reads : List Read) : Prop :=
  ∃ after, btle.receiveAll reads = some after ∧
    after.log.filter Output.ofMessage = btle.log.filter Output.ofMessage ++
      stream.messages.flatMap (fun message => message.outputs btle.callbacks) ∧
    after.log.filter (!Output.ofMessage ·) = btle.log.filter (!Output.ofMessage ·) ++
      stream.states.flatMap (fun state => btle.callbacks.calls (.connectionState state))

/-- Reads of a stream in pieces of 1 to 32 bytes. -/
structure ReadsOf (stream : Stream) (reads : List Read) : Prop where
  sizes : ∀ read ∈ reads, 1 ≤ read.bytes.length ∧ read.bytes.length ≤ 32
  whole : (reads.map Read.bytes).flatten = encode stream.frames

theorem Btle.published_eq (btle : Btle) (event : Event) :
    btle.published event = btle.callbacks.calls event := by
  unfold Btle.published Callbacks.calls
  split
  case isTrue none =>
    have nobody : btle.callbacks.entries.filter (fun entry => entry.eventMask &&& event.id != 0) =
        [] := by
      rw [filter_eq_nil_iff]
      intro entry isIn interested
      exact btle.callbacks.covers entry isIn event.id (by simpa using interested) none
    rw [nobody]
    rfl
  case isFalse => rfl

theorem filter_calls (callbacks : Callbacks) (event : Event) (keep : Output → Bool) {kept : Bool}
    (same : ∀ callback, keep (.called callback event) = kept) :
    (callbacks.calls event).filter keep = if kept then callbacks.calls event else [] := by
  cases kept with
  | true =>
    refine filter_eq_self.mpr fun output isIn => ?_
    obtain ⟨entry, _, rfl⟩ := mem_map.mp isIn
    exact same entry.callback
  | false =>
    refine filter_eq_nil_iff.mpr fun output isIn => ?_
    obtain ⟨entry, _, rfl⟩ := mem_map.mp isIn
    rw [same entry.callback]
    exact Bool.false_ne_true

def Deed.ofMessage : Deed → Prop
  | .publish (.connectionState _) => False
  | _ => True

theorem dataReceived_ofMessage : ∀ deed ∈ receiver.dataReceived, deed.ofMessage := by
  unfold DataReceiver.dataReceived
  split
  · exact nofun
  · split <;> simp [Deed.ofMessage]

theorem receive_ofMessage (data : UInt8) (resources : Resources) :
    ∀ deed ∈ (receiver.receive data resources).2, deed.ofMessage := by
  have tried : ∀ deed ∈ (receiver.tryReceive data resources).2, deed.ofMessage := by
    unfold DataReceiver.tryReceive
    split
    · exact nofun
    · exact nofun
    · exact nofun
    · split <;> exact nofun
    · split
      · exact dataReceived_ofMessage receiver
      · exact nofun
  unfold DataReceiver.receive
  split
  case h_1 same => rw [same] at tried; exact tried
  case h_2 same => rw [same] at tried; exact tried
  case h_3 => exact nofun

def deedOutputs (callbacks : Callbacks) : Deed → List Output
  | .publish event => callbacks.calls event
  | .respond seqNum reason => [.wrote (ackMsg seqNum reason)]

theorem Btle.outputs_eq (opened : 1 ≤ btle.fd) :
    btle.outputs .plenty = deedOutputs btle.callbacks := by
  funext deed
  cases deed with
  | publish event => exact btle.published_eq event
  | respond seqNum reason =>
    show btle.responded seqNum reason .plenty = _
    unfold Btle.responded
    rw [if_neg (by omega)]
    rfl

theorem filter_deeds (callbacks : Callbacks) {deeds : List Deed}
    (about : ∀ deed ∈ deeds, deed.ofMessage) :
    (deeds.flatMap (deedOutputs callbacks)).filter Output.ofMessage =
        deeds.flatMap (deedOutputs callbacks) ∧
      (deeds.flatMap (deedOutputs callbacks)).filter (!Output.ofMessage ·) = [] := by
  have all : ∀ output ∈ deeds.flatMap (deedOutputs callbacks), output.ofMessage = true := by
    intro output isIn
    obtain ⟨deed, isDeed, isOutput⟩ := mem_flatMap.mp isIn
    have ofMessage := about deed isDeed
    cases deed with
    | publish event =>
      obtain ⟨entry, _, rfl⟩ := mem_map.mp isOutput
      cases event with
      | connectionState => exact ofMessage.elim
      | deviceProfile => rfl
      | cloudProfile => rfl
    | respond seqNum reason =>
      obtain rfl := mem_singleton.mp isOutput
      rfl
  refine ⟨filter_eq_self.mpr all, filter_eq_nil_iff.mpr fun output isIn => ?_⟩
  rw [all output isIn]
  exact Bool.false_ne_true

/-- What a part of a stream leaves behind and adds to the log. -/
structure Effect (before after : Btle) (data : DataReceiver) (state : UInt8)
    (outputs : List Output) :
    Prop where
  fd : after.fd = before.fd
  callbacks : after.callbacks = before.callbacks
  ind : after.ind.state = before.ind.state
  data : after.data = data
  state : after.state = state
  log : after.log = before.log ++ outputs

theorem Effect.none (btle : Btle) : Effect btle btle btle.data btle.state [] :=
  ⟨rfl, rfl, rfl, rfl, rfl, (append_nil _).symm⟩

theorem Effect.trans {first second third : Btle} {data later : DataReceiver} {state final : UInt8}
    {outputs others : List Output} (one : Effect first second data state outputs)
    (two : Effect second third later final others) :
    Effect first third later final (outputs ++ others) where
  fd := two.fd.trans one.fd
  callbacks := two.callbacks.trans one.callbacks
  ind := two.ind.trans one.ind
  data := two.data
  state := two.state
  log := by rw [two.log, one.log, append_assoc]

theorem Btle.take_header (btle : Btle) (type length : UInt8) :
    Effect btle (btle.take (.payloadLen type length)) btle.data btle.state [] := by
  show Effect btle (btle.setupRxHandler type length).2 btle.data btle.state []
  have kept : ∀ rxHandler payloadLen,
      Effect btle { btle with rxHandler, payloadLen } btle.data btle.state [] :=
    fun _ _ => ⟨rfl, rfl, rfl, rfl, rfl, (append_nil _).symm⟩
  unfold Btle.setupRxHandler
  split
  · split <;> exact kept _ _
  · exact kept _ _
  · split <;> exact kept _ _
  · exact kept _ _

theorem Btle.feed_data (opened : 1 ≤ btle.fd) (bytes : List UInt8) :
    Effect btle (btle.feed (bytes.map (.content .data))) (btle.data.receiveAll bytes).1 btle.state
      ((btle.data.receiveAll bytes).2.flatMap (deedOutputs btle.callbacks)) := by
  induction bytes generalizing btle with
  | nil => exact .none btle
  | cons data rest ih =>
    have first : Effect btle (btle.take (.content .data data)) (btle.data.receive data .plenty).1
        btle.state ((btle.data.receive data .plenty).2.flatMap (deedOutputs btle.callbacks)) := by
      refine ⟨rfl, rfl, rfl, rfl, rfl, ?_⟩
      show btle.log ++ (btle.data.receive data .plenty).2.flatMap (btle.outputs .plenty) = _
      rw [Btle.outputs_eq opened]
    have others := @ih (btle.take (.content .data data)) opened
    have both := first.trans others
    refine ⟨both.fd, both.callbacks, both.ind, both.data, both.state, both.log.trans ?_⟩
    exact congrArg (btle.log ++ ·) flatMap_append.symm

theorem Btle.feed_ind (waits : btle.ind.state = .wait) {connState gapState : UInt8}
    (low : connState ≤ 2) (keeps : ¬ (btle.state = connected ∧ (gapState = 0 ∨ gapState = 1))) :
    Effect btle (btle.feed [.content .ind connState, .content .ind gapState]) btle.data gapState
      (btle.callbacks.calls (.connectionState gapState)) := by
  have first : btle.receiveInd connState =
      { btle with ind := { btle.ind with state := .gapState, connState } } := by
    unfold Btle.receiveInd
    rw [waits]
    exact if_neg (UInt8.not_lt.mpr low)
  generalize taken : btle.take (.content .ind connState) = between
  have middle : between = { btle with
      ind := { btle.ind with state := .gapState, connState }
      payloadLen := btle.payloadLen - 1
      underflowed := btle.underflowed || btle.payloadLen == 0 } := by
    rw [← taken]
    show { btle.receiveInd connState with
      payloadLen := (btle.receiveInd connState).payloadLen - 1
      underflowed := (btle.receiveInd connState).underflowed ||
        (btle.receiveInd connState).payloadLen == 0 } = _
    rw [first]
  have held : between.drops gapState = false := by
    rw [middle]
    show (btle.state == connected && (gapState == 0 || gapState == 1)) = false
    simpa using keeps
  have second : between.receiveInd gapState =
      { between with
        ind := { between.ind with state := .wait, gapState }
        state := gapState
        log := between.log ++ between.published (.connectionState gapState) } := by
    unfold Btle.receiveInd
    have state : between.ind.state = .gapState := by rw [middle]
    rw [state, held]
    rfl
  have fed : btle.feed [.content .ind connState, .content .ind gapState] =
      between.take (.content .ind gapState) := by
    rw [← taken]
    rfl
  have last : between.take (.content .ind gapState) =
      { between.receiveInd gapState with
        payloadLen := (between.receiveInd gapState).payloadLen - 1
        underflowed := (between.receiveInd gapState).underflowed ||
          (between.receiveInd gapState).payloadLen == 0 } := rfl
  rw [fed, last, second, middle, Btle.published_eq]
  exact ⟨rfl, rfl, waits.symm, rfl, rfl, rfl⟩

theorem receiveAll_ofMessage (bytes : List UInt8) :
    ∀ deed ∈ (receiver.receiveAll bytes).2, deed.ofMessage := by
  induction bytes generalizing receiver with
  | nil => exact nofun
  | cons data rest ih =>
    intro deed isIn
    rcases mem_append.mp isIn with now | later
    · exact receive_ofMessage receiver data .plenty deed now
    · exact ih _ deed later

theorem Btle.feed_frame (opened : 1 ≤ btle.fd) (waits : btle.ind.state = .wait) {frame : Frame}
    (valid : frame.Valid) {later : List UInt8}
    (keeps : KeepsConnection btle.state (frame.states ++ later)) :
    ∃ state outputs,
      Effect btle (btle.feed frame.tokens) (btle.data.receiveAll frame.dataBytes).1 state outputs ∧
        KeepsConnection state later ∧
        outputs.filter Output.ofMessage =
          (btle.data.receiveAll frame.dataBytes).2.flatMap (deedOutputs btle.callbacks) ∧
        outputs.filter (!Output.ofMessage ·) =
          frame.states.flatMap fun state => btle.callbacks.calls (.connectionState state) := by
  cases frame with
  | data bytes =>
    have headed := btle.take_header 1 20
    have fed := headed.trans (@Btle.feed_data (btle.take (.payloadLen 1 20)) opened bytes)
    obtain ⟨messages, others⟩ :=
      filter_deeds btle.callbacks (receiveAll_ofMessage btle.data bytes)
    exact ⟨btle.state, _, fed, keeps, messages, others⟩
  | ind connState gapState =>
    have headed := btle.take_header 3 2
    have fed := headed.trans (@Btle.feed_ind (btle.take (.payloadLen 3 2)) waits connState gapState
      valid keeps.1)
    refine ⟨gapState, _, fed, keeps.2, ?_, ?_⟩
    · exact @filter_calls btle.callbacks (.connectionState gapState) Output.ofMessage false
        fun _ => rfl
    · rw [show Frame.states (.ind connState gapState) = [gapState] from rfl, flatMap_singleton]
      exact @filter_calls btle.callbacks (.connectionState gapState) (!Output.ofMessage ·) true
        fun _ => rfl

theorem Btle.feed_frames (opened : 1 ≤ btle.fd) (waits : btle.ind.state = .wait)
    {frames : List Frame} (valid : ∀ frame ∈ frames, frame.Valid)
    (keeps : KeepsConnection btle.state (frames.flatMap Frame.states)) :
    (btle.feed (tokens frames)).log.filter Output.ofMessage = btle.log.filter Output.ofMessage ++
        (btle.data.receiveAll (frames.flatMap Frame.dataBytes)).2.flatMap
          (deedOutputs btle.callbacks) ∧
      (btle.feed (tokens frames)).log.filter (!Output.ofMessage ·) =
        btle.log.filter (!Output.ofMessage ·) ++ (frames.flatMap Frame.states).flatMap
          fun state => btle.callbacks.calls (.connectionState state) := by
  induction frames generalizing btle with
  | nil => exact ⟨(append_nil _).symm, (append_nil _).symm⟩
  | cons frame frames ih =>
    have others : ∀ frame ∈ frames, frame.Valid :=
      fun other isIn => valid other (mem_cons_of_mem _ isIn)
    have fed : btle.feed (tokens (frame :: frames)) =
        (btle.feed frame.tokens).feed (tokens frames) := foldl_append
    obtain ⟨state, outputs, effect, still, messages, states⟩ :=
      Btle.feed_frame opened waits (valid frame mem_cons_self) keeps
    have later := @ih (btle.feed frame.tokens) (effect.fd.symm ▸ opened)
      (effect.ind.trans waits) others (effect.state.symm ▸ still)
    rw [fed, flatMap_cons, flatMap_cons, flatMap_append,
      DataReceiver.receiveAll_append, flatMap_append, ← messages, ← states,
      ← append_assoc, ← append_assoc, ← filter_append, ← filter_append,
      ← effect.log, ← effect.data, ← effect.callbacks]
    exact later

theorem Btle.Idle.aligned (idle : btle.Idle) (stream : Stream) :
    Aligned btle (tokens stream.frames) :=
  .between stream.frames stream.valid idle.counter idle.ind

theorem Btle.Idle.feed (idle : btle.Idle) {stream : Stream}
    (keeps : KeepsConnection btle.state stream.states) :
    (btle.feed (tokens stream.frames)).log.filter Output.ofMessage =
        btle.log.filter Output.ofMessage ++
          stream.messages.flatMap (fun message => message.outputs btle.callbacks) ∧
      (btle.feed (tokens stream.frames)).log.filter (!Output.ofMessage ·) =
        btle.log.filter (!Output.ofMessage ·) ++
          stream.states.flatMap fun state => btle.callbacks.calls (.connectionState state) := by
  obtain ⟨messages, states⟩ := Btle.feed_frames idle.opened idle.ind stream.valid keeps
  refine ⟨messages.trans ?_, states⟩
  rw [stream.cut, DataReceiver.receiveAll_messages idle.data stream.messages stream.padded,
    flatMap_assoc]
  have same : (fun message : Message => message.deeds.flatMap (deedOutputs btle.callbacks)) =
      fun message => message.outputs btle.callbacks := by
    funext message
    exact congrArg (_ ++ ·) (append_nil _)
  rw [same]

/-- **Reception.** A stream of messages and indications is received as it was sent, each read being
consumed exactly, if and only if no read cuts the header of a frame. -/
theorem reception_is_independent {btle : Btle} {stream : Stream} {reads : List Read}
    (idle : btle.Idle) (keeps : KeepsConnection btle.state stream.states)
    (pieces : ReadsOf stream reads) : Delivers btle stream reads ↔ WellCut stream.frames reads := by
  obtain ⟨received, spoiled⟩ := receiveAll_feed (idle.aligned stream)
    (fun read isIn => ne_nil_of_length_pos (pieces.sizes read isIn).1) pieces.whole
  constructor
  · rintro ⟨after, consumed, _⟩
    by_contra cut
    rw [spoiled cut] at consumed
    cases consumed
  · intro wellCut
    exact ⟨_, received wellCut, idle.feed keeps⟩

def ping : Message := ⟨.cloud, 7, [], by decide⟩

def pingStream : Stream where
  messages := [ping]
  padding := List.replicate 13 0
  frames := [.data (ping.encode ++ List.replicate 13 0), .ind 0 6]
  valid := by simp [Frame.Valid, ping, Message.encode, Message.bytes, Message.headerBytes]
  cut := rfl
  padded := by simp [syncChar]
  short := by decide

/-- A module with a callback for all events. -/
def subscribed : Btle :=
  .initial 3 ⟨7, [⟨7, 0⟩], by simp⟩

/-- The frames of the stream in a read each. -/
theorem ping_is_received :
    Delivers subscribed pingStream
      [⟨(encode pingStream.frames).take 22, 0⟩, ⟨(encode pingStream.frames).drop 22, 0⟩] := by
  have idle : subscribed.Idle := ⟨by decide, rfl, ⟨rfl, rfl, rfl⟩, rfl⟩
  have keeps : KeepsConnection subscribed.state pingStream.states := by
    refine ⟨?_, trivial⟩
    decide
  refine (reception_is_independent idle keeps ⟨by decide, rfl⟩).mpr ?_
  show ∀ piece ∈ deal _ (tokens pingStream.frames), Uncut piece
  decide

/-- A read that ends with the header of the indication. The handler gets the byte that lies behind
it. -/
theorem header_ends_read :
    ReadsOf pingStream
        [⟨(encode pingStream.frames).take 24, 0⟩, ⟨(encode pingStream.frames).drop 24, 0⟩] ∧
      ¬ Delivers subscribed pingStream
        [⟨(encode pingStream.frames).take 24, 0⟩, ⟨(encode pingStream.frames).drop 24, 0⟩] := by
  refine ⟨⟨by decide, rfl⟩, ?_⟩
  rintro ⟨after, consumed, _⟩
  cases consumed

end Thingsee.Bluetooth
