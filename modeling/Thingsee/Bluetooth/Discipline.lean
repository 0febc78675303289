import Mathlib.Data.List.Perm.Basic
import Thingsee.Bluetooth.Types
import Thingsee.Support.Runs

/-!
Owns the discipline of the Bluetooth receiver on arbitrary input: which buffer and which timer it
has in which state, and on which reads it calls only handlers that are set.

A step of a run is a read, a turn of the loop over its bytes, or the end of a timer. The data
receiver keeps its discipline in all of them. The loop does not: a frame may have no payload, its
header may be cut, and an indication may take the handler away in the middle of a frame.
-/

namespace Thingsee.Bluetooth

open List

namespace DataReceiver

/-- What is promised of the data receiver: a buffer is held exactly in the states from the payload
on, each is released once, payload is stored below the announced length, the checksum is zero
between messages, and there is a timer exactly during a message that has got one. -/
structure Disciplined (receiver : DataReceiver) : Prop where
  held : receiver.state.holds = true →
    ∃ msg, receiver.msg = some msg ∧ receiver.heap = [msg.serial]
  empty : receiver.state.holds = false → receiver.heap = []
  released : (receiver.released ++ receiver.heap).Perm (List.range receiver.serials)
  stores : ∀ store ∈ receiver.stores, store.1 < store.2 ∧ store.2 ≤ 4096
  sums : receiver.state = .wait → receiver.ckA = 0 ∧ receiver.ckB = 0
  pending : receiver.state ≠ .wait → receiver.timed = true →
    ∃ id, receiver.timers = [id] ∧ receiver.receiveTimerId = id.toNat
  quiet : receiver.state = .wait → receiver.timers = []

/-- The timer of a receiver that is in the middle of a message. -/
def Clocked (receiver : DataReceiver) : Prop :=
  (receiver.timed = true ∧ ∃ id, receiver.timers = [id] ∧ receiver.receiveTimerId = id.toNat) ∨
    (receiver.timed = false ∧ receiver.timers = [] ∧ receiver.receiveTimerId = -1)

def OneTimer (receiver : DataReceiver) : Prop :=
  (∃ id, receiver.timers = [id] ∧ receiver.receiveTimerId = id.toNat) ∨
    (receiver.timers = [] ∧ receiver.receiveTimerId = -1)

/-- The buffer of a receiver, with the header it was allocated for. -/
def Buffered (receiver : DataReceiver) : Prop :=
  ∃ msg, receiver.msg = some msg ∧ receiver.heap = [msg.serial] ∧ msg.header.length ≤ 4096

/-- What holds of the receiver also where it gives a message up. -/
structure Owned (receiver : DataReceiver) : Prop where
  held : receiver.state.holds = true → receiver.Buffered
  empty : receiver.state.holds = false → receiver.heap = []
  released : (receiver.released ++ receiver.heap).Perm (List.range receiver.serials)
  stores : ∀ store ∈ receiver.stores, store.1 < store.2 ∧ store.2 ≤ 4096

/-- The invariant of the receiver between bytes. -/
inductive Sound (receiver : DataReceiver) : Prop where
  | wait (state : receiver.state = .wait) (sums : receiver.ckA = 0 ∧ receiver.ckB = 0)
      (quiet : receiver.timers = [] ∧ receiver.receiveTimerId = -1) (empty : receiver.heap = [])
      (released : receiver.released.Perm (List.range receiver.serials))
      (stores : ∀ store ∈ receiver.stores, store.1 < store.2 ∧ store.2 ≤ 4096)
  | header (state : receiver.state = .header) (offset : receiver.offset < 4)
      (owned : receiver.Owned) (clock : receiver.Clocked)
  | payload (state : receiver.state = .payload) (offset : receiver.offset < receiver.msgLength)
      (owned : receiver.Owned) (clock : receiver.Clocked)
  | checksum (state : receiver.state = .checksum1 ∨ receiver.state = .checksum2)
      (owned : receiver.Owned) (clock : receiver.Clocked)

variable {receiver : DataReceiver}

theorem Owned.disciplined (owned : receiver.Owned) (clock : receiver.Clocked)
    (busy : receiver.state ≠ .wait) : receiver.Disciplined where
  held holds := by
    obtain ⟨msg, isMsg, heap, _⟩ := owned.held holds
    exact ⟨msg, isMsg, heap⟩
  empty := owned.empty
  released := owned.released
  stores := owned.stores
  sums wait := absurd wait busy
  pending _ timed := by
    rcases clock with ⟨_, pending⟩ | ⟨untimed, _⟩
    · exact pending
    · rw [timed] at untimed
      cases untimed
  quiet wait := absurd wait busy

theorem Sound.disciplined (sound : receiver.Sound) : receiver.Disciplined := by
  cases sound with
  | wait state sums quiet empty released stores =>
    exact
      { held := fun holds => by rw [state] at holds; cases holds
        empty := fun _ => empty
        released := by rw [empty, append_nil]; exact released
        stores
        sums := fun _ => sums
        pending := fun busy => absurd state busy
        quiet := fun _ => quiet.1 }
  | header state _ owned clock | payload state _ owned clock =>
    exact owned.disciplined clock (by rw [state]; exact DataState.noConfusion)
  | checksum state owned clock =>
    refine owned.disciplined clock ?_
    rcases state with state | state <;> rw [state] <;> exact DataState.noConfusion

theorem Clocked.oneTimer (clock : receiver.Clocked) : receiver.OneTimer :=
  clock.imp And.right And.right

theorem Sound.owned (sound : receiver.Sound) : receiver.Owned ∧ receiver.OneTimer := by
  cases sound with
  | wait state sums quiet empty released stores =>
    refine ⟨⟨fun holds => ?_, fun _ => empty, ?_, stores⟩, .inr quiet⟩
    · rw [state] at holds
      cases holds
    · rw [empty, append_nil]
      exact released
  | header _ _ owned clock => exact ⟨owned, clock.oneTimer⟩
  | payload _ _ owned clock => exact ⟨owned, clock.oneTimer⟩
  | checksum _ owned clock => exact ⟨owned, clock.oneTimer⟩

/-! ## The receiver -/

theorem removeTimer_quiet (timer : receiver.OneTimer) :
    receiver.removeTimer = { receiver with timers := [], receiveTimerId := -1 } := by
  unfold removeTimer
  rcases timer with ⟨id, timers, isId⟩ | ⟨timers, none⟩
  · rw [isId, if_pos (Int.natCast_nonneg _), timers, Int.toNat_natCast, UInt16.ofNat_toNat,
      erase_cons_head]
  · rw [none, if_neg (by decide), ← timers, ← none]

theorem freeMsg_empty (owned : receiver.Owned) :
    receiver.freeMsg.heap = [] ∧
      receiver.freeMsg.released.Perm (List.range receiver.freeMsg.serials) ∧
      receiver.freeMsg.stores = receiver.stores ∧ receiver.freeMsg.timers = receiver.timers ∧
      receiver.freeMsg.receiveTimerId = receiver.receiveTimerId := by
  have released := owned.released
  unfold freeMsg
  cases holds : receiver.state.holds with
  | false =>
    have empty := owned.empty holds
    rw [empty, append_nil] at released
    exact ⟨empty, released, rfl, rfl, rfl⟩
  | true =>
    obtain ⟨msg, isMsg, heap, _⟩ := owned.held holds
    rw [heap] at released
    rw [isMsg]
    refine ⟨?_, ?_, rfl, rfl, rfl⟩
    · show receiver.heap.erase msg.serial = []
      rw [heap, erase_cons_head]
    · exact (perm_append_singleton msg.serial receiver.released).symm.trans released

theorem restart_sound (owned : receiver.Owned) (quiet : receiver.timers = [])
    (none : receiver.receiveTimerId = -1) : receiver.freeMsg.restart.Sound := by
  obtain ⟨empty, released, stores, timers, id⟩ := freeMsg_empty owned
  refine .wait rfl ⟨rfl, rfl⟩ ⟨timers.trans quiet, id.trans none⟩ empty released ?_
  show ∀ store ∈ receiver.freeMsg.stores, _
  rw [stores]
  exact owned.stores

theorem reset_sound (owned : receiver.Owned) (timer : receiver.OneTimer) :
    receiver.reset.Sound := by
  unfold reset
  rw [removeTimer_quiet timer]
  exact restart_sound ⟨owned.held, owned.empty, owned.released, owned.stores⟩ rfl rfl

theorem setTimer_clocked (receiver : DataReceiver) (quiet : receiver.timers = [])
    (allocated : Bool) : (receiver.setTimer allocated).Clocked := by
  cases allocated with
  | false => exact .inr ⟨rfl, quiet, rfl⟩
  | true =>
    refine .inl ⟨rfl, receiver.timerIdCnt + 1, ?_, rfl⟩
    show receiver.timers ++ [receiver.timerIdCnt + 1] = [receiver.timerIdCnt + 1]
    rw [quiet, nil_append]

theorem setTimer_owned (owned : receiver.Owned) (allocated : Bool) :
    (receiver.setTimer allocated).Owned := by
  cases allocated <;> exact ⟨owned.held, owned.empty, owned.released, owned.stores⟩

theorem setTimer_sound (state : receiver.state = .header) (offset : receiver.offset < 4)
    (owned : receiver.Owned) (quiet : receiver.timers = []) (allocated : Bool) :
    (receiver.setTimer allocated).Sound := by
  have clock := setTimer_clocked receiver quiet allocated
  have stillOwned := setTimer_owned owned allocated
  cases allocated <;> exact .header state offset stillOwned clock

theorem Sound.waiting (sound : receiver.Sound) (state : receiver.state = .wait) :
    receiver.timers = [] ∧ receiver.heap = [] ∧
      receiver.released.Perm (List.range receiver.serials) ∧
      ∀ store ∈ receiver.stores, store.1 < store.2 ∧ store.2 ≤ 4096 := by
  cases sound with
  | wait _ _ quiet empty released stores => exact ⟨quiet.1, empty, released, stores⟩
  | header busy | payload busy => rw [state] at busy; cases busy
  | checksum busy => rw [state] at busy; rcases busy with busy | busy <;> cases busy

theorem receiveSync_sound (sound : receiver.Sound) (state : receiver.state = .wait) (data : UInt8)
    (resources : Resources) : (receiver.receiveSync data resources).Sound := by
  unfold receiveSync
  split
  case isFalse => exact sound
  case isTrue =>
    obtain ⟨quiet, empty, released, stores⟩ := sound.waiting state
    have owned : { receiver with state := .header, offset := 0 }.Owned := by
      refine ⟨fun holds => Bool.noConfusion holds, fun _ => empty, ?_, stores⟩
      rw [empty, append_nil]
      exact released
    exact setTimer_sound rfl (Nat.zero_lt_succ 3) owned quiet _

/-- What the `switch` leaves: a receiver between bytes, or one that gives a message up. -/
def Leaves (result : DataReceiver × Verdict) : Prop :=
  match result.2 with
  | .returned => result.1.Sound
  | .broken _ => result.1.Owned ∧ result.1.Clocked

section

variable (owned : receiver.Owned)
include owned

theorem summed_owned (data : UInt8) : (receiver.summed data).Owned :=
  ⟨owned.held, owned.empty, owned.released, owned.stores⟩

theorem storeHeader_owned (data : UInt8) : (receiver.storeHeader data).Owned :=
  ⟨owned.held, owned.empty, owned.released, owned.stores⟩

theorem allocate_owned (state : receiver.state = .header) (small : receiver.header.length ≤ 4096)
    {next : DataState} {offset : Nat} (holds : next.holds = true) :
    { receiver.allocate with state := next, offset }.Owned := by
  have empty : receiver.heap = [] := owned.empty (by rw [state]; rfl)
  have released := owned.released
  rw [empty, append_nil] at released
  refine ⟨fun _ => ⟨_, rfl, ?_, small⟩, fun free => ?_, ?_, owned.stores⟩
  · show receiver.serials :: receiver.heap = [receiver.serials]
    rw [empty]
  · exact absurd holds (by rw [free]; exact Bool.noConfusion)
  · show (receiver.released ++ receiver.serials :: receiver.heap).Perm
      (List.range (receiver.serials + 1))
    rw [empty, range_succ]
    exact released.append_right _

theorem finishHeader_leaves (clock : receiver.Clocked) (state : receiver.state = .header)
    (resources : Resources) : Leaves (receiver.finishHeader resources) := by
  unfold finishHeader
  split
  case isTrue => exact ⟨owned, clock⟩
  case isFalse small =>
    split
    case isTrue =>
      refine ⟨⟨fun holds => ?_, owned.empty, owned.released, owned.stores⟩, clock⟩
      have free : receiver.state.holds = true := holds
      rw [state] at free
      cases free
    case isFalse =>
      split
      case isTrue some =>
        exact .payload rfl some (allocate_owned owned state (Nat.not_lt.mp small) rfl) clock
      case isFalse =>
        exact .checksum (.inl rfl) (allocate_owned owned state (Nat.not_lt.mp small) rfl) clock

theorem receiveHeader_leaves (clock : receiver.Clocked) (state : receiver.state = .header)
    (data : UInt8) (resources : Resources) : Leaves (receiver.receiveHeader data resources) := by
  unfold receiveHeader
  split
  case isTrue short => exact .header state short (storeHeader_owned owned data) clock
  case isFalse => exact finishHeader_leaves (storeHeader_owned owned data) clock state resources

theorem storePayload_owned (state : receiver.state = .payload)
    (inside : receiver.offset < receiver.msgLength) (data : UInt8) :
    (receiver.storePayload data).Owned ∧ (receiver.storePayload data).state = .payload ∧
      ((receiver.storePayload data).Clocked ↔ receiver.Clocked) := by
  obtain ⟨msg, isMsg, heap, small⟩ := owned.held (by rw [state]; rfl)
  have length : receiver.msgLength = msg.header.length := by
    unfold msgLength
    rw [isMsg]
    rfl
  rw [length] at inside
  unfold storePayload
  rw [isMsg]
  refine ⟨⟨fun _ => ⟨_, rfl, heap, small⟩, fun free => ?_, owned.released, ?_⟩, state, Iff.rfl⟩
  · have none : receiver.state.holds = false := free
    rw [state] at none
    cases none
  · exact forall_mem_cons.mpr ⟨⟨inside, small⟩, owned.stores⟩

theorem receivePayload_sound (clock : receiver.Clocked) (state : receiver.state = .payload)
    (inside : receiver.offset < receiver.msgLength) (data : UInt8) :
    (receiver.receivePayload data).Sound := by
  obtain ⟨stored, still, timer⟩ := storePayload_owned owned state inside data
  have held := stored.held (by rw [still]; rfl)
  unfold receivePayload
  split
  case isTrue =>
    exact .checksum (.inl rfl) ⟨fun _ => held, nofun, stored.released, stored.stores⟩
      (timer.mpr clock)
  case isFalse more => exact .payload still (Nat.not_le.mp more) stored (timer.mpr clock)

end

theorem tryReceive_leaves (sound : receiver.Sound) (data : UInt8) (resources : Resources) :
    Leaves (receiver.tryReceive data resources).1 := by
  unfold tryReceive
  cases sound with
  | wait state sums quiet empty released stores =>
    rw [state]
    exact receiveSync_sound (.wait state sums quiet empty released stores) state data resources
  | header state offset owned clock =>
    rw [state]
    exact receiveHeader_leaves (summed_owned owned data) clock state data resources
  | payload state offset owned clock =>
    rw [state]
    exact receivePayload_sound (summed_owned owned data) clock state offset data
  | checksum state owned clock =>
    have held := owned.held (by rcases state with state | state <;> rw [state] <;> rfl)
    rcases state with state | state
    · rw [state]
      dsimp only
      split
      case isTrue =>
        exact .checksum (.inr rfl) ⟨fun _ => held, nofun, owned.released, owned.stores⟩ clock
      case isFalse => exact ⟨owned, clock⟩
    · rw [state]
      dsimp only
      split <;> exact ⟨owned, clock⟩

/-- Every byte keeps timer and buffer of the receiver in step. -/
theorem receive_sound (sound : receiver.Sound) (data : UInt8) (resources : Resources) :
    (receiver.receive data resources).1.Sound := by
  have leaves := tryReceive_leaves sound data resources
  unfold receive
  split
  case h_1 tried => rw [tried] at leaves; exact leaves
  case h_2 tried =>
    rw [tried] at leaves
    exact reset_sound leaves.1 leaves.2.oneTimer
  case h_3 tried =>
    rw [tried] at leaves
    exact receiveSync_sound (reset_sound leaves.1 leaves.2.oneTimer) rfl data resources

theorem expire_sound (sound : receiver.Sound) (id : UInt16) : (receiver.expire id).1.Sound := by
  obtain ⟨owned, timer⟩ := sound.owned
  unfold expire
  split
  case isFalse => exact sound
  case isTrue isTimer =>
    rcases timer with ⟨own, timers, isId⟩ | ⟨none, _⟩
    · rw [timers] at isTimer ⊢
      obtain rfl : id = own := mem_singleton.mp isTimer
      rw [isId, erase_cons_head, if_pos rfl]
      exact restart_sound ⟨owned.held, owned.empty, owned.released, owned.stores⟩ rfl rfl
    · rw [none] at isTimer
      cases isTimer

theorem initial_sound : DataReceiver.initial.Sound :=
  .wait rfl ⟨rfl, rfl⟩ ⟨rfl, rfl⟩ rfl (List.Perm.refl _) nofun

end DataReceiver

/-- What is promised of the module between bytes: `payload_len` has not gone below zero, and the
handler is set where it is called next. -/
structure Btle.Disciplined (btle : Btle) : Prop where
  data : btle.data.Disciplined
  counter : btle.underflowed = false

def Config.Disciplined : Config → Prop
  | .polling btle _ => btle.Disciplined
  | .reading btle input _ =>
    btle.Disciplined ∧ (input ≠ [] → btle.payloadLen ≠ 0 → btle.rxHandler ≠ none)
  | .stopped _ => False

structure Btle.Sound (btle : Btle) : Prop where
  data : btle.data.Sound
  counter : btle.underflowed = false

def Config.Sound : Config → Prop
  | .polling btle _ => btle.Sound
  | .reading btle input _ =>
    btle.Sound ∧ (input ≠ [] → btle.payloadLen ≠ 0 → btle.rxHandler ≠ none)
  | .stopped _ => False

variable {config : Config} (btle : Btle) {msgType payloadLen : UInt8} {condition : Prop}

theorem Config.Sound.disciplined (sound : config.Sound) : config.Disciplined := by
  cases config with
  | polling btle left => exact ⟨sound.data.disciplined, sound.counter⟩
  | reading btle input behind => exact ⟨⟨sound.1.data.disciplined, sound.1.counter⟩, sound.2⟩
  | stopped fault => exact sound

/-- The headers that `btle_setup_rx_handler` accepts. -/
def accepts (msgType payloadLen : UInt8) : Prop :=
  (msgType = 1 ∧ payloadLen = 20) ∨ msgType = 2 ∨ (msgType = 3 ∧ payloadLen = 2)

/-- A byte with which an indication reports that the connection was dropped. -/
def Btle.dropsAt (btle : Btle) (handler : Handler) (data : UInt8) : Prop :=
  handler = .ind ∧ btle.ind.state = .gapState ∧ btle.drops data = true

def handlerOf (msgType : UInt8) : Handler :=
  if msgType = 1 then .data else if msgType = 2 then .hci else .ind

/-- A byte of a payload may be handled: there is one left in the frame, and it does not take the
handler away from others that follow. -/
def Btle.Handles (btle : Btle) (handler : Handler) (payloadLen : UInt8) (data : UInt8)
    (rest : List Input) : Prop :=
  payloadLen ≠ 0 ∧ (btle.dropsAt handler data → payloadLen = 1 ∨ rest = [])

/-- A frame may start in the loop: its header is not accepted, or it is there with a byte behind it
that may be handled. -/
def Btle.Starts (btle : Btle) (msgType : UInt8) (behind : UInt8) : List Input → Prop
  | [] => ¬ accepts msgType behind
  | payloadLen :: rest => accepts msgType payloadLen.1 →
      ∃ data others, rest = data :: others ∧
        btle.Handles (handlerOf msgType) payloadLen.1 data.1 others

/-- The condition on a step. A read is not the first byte of a header that is accepted with the byte
behind it, and in a turn a frame may start, or a byte of its payload be handled. -/
def Config.Allows : Config → Action → Prop
  | .polling btle _, .read [msgType] behind =>
    btle.payloadLen = 0 ∨ btle.rxHandler = none → ¬ accepts msgType.1 behind
  | .reading btle (data :: rest) behind, .turn =>
    (btle.payloadLen = 0 → btle.Starts data.1 behind rest) ∧
      (btle.payloadLen ≠ 0 → ∀ handler ∈ btle.rxHandler,
        btle.Handles handler btle.payloadLen data.1 rest)
  | _, _ => True

variable {btle : Btle} {behind : UInt8} {rest : List Input}

/-! ## The handlers -/

theorem Btle.receiverReset_sound (sound : btle.Sound) : btle.receiverReset.Sound := by
  obtain ⟨owned, timer⟩ := sound.data.owned
  exact ⟨DataReceiver.reset_sound owned timer, sound.counter⟩

theorem Btle.receiveInd_spec (sound : btle.Sound) (data : UInt8) :
    (btle.receiveInd data).Sound ∧ (btle.receiveInd data).payloadLen = btle.payloadLen ∧
      ((btle.receiveInd data).rxHandler = none ↔
        btle.rxHandler = none ∨ btle.dropsAt .ind data) := by
  unfold Btle.receiveInd Btle.dropsAt
  cases state : btle.ind.state with
  | wait =>
    dsimp only
    split
    · exact ⟨sound, rfl, by simp⟩
    · exact ⟨⟨sound.data, sound.counter⟩, rfl, by simp⟩
  | connState => exact ⟨⟨sound.data, sound.counter⟩, rfl, by simp⟩
  | gapState =>
    dsimp only
    split
    case isTrue dropped =>
      have reset := Btle.receiverReset_sound sound
      exact ⟨⟨reset.data, reset.counter⟩, rfl, iff_of_true rfl (.inr ⟨rfl, rfl, dropped⟩)⟩
    case isFalse kept =>
      refine ⟨⟨sound.data, sound.counter⟩, rfl, ?_⟩
      exact (or_iff_left fun dropped => kept dropped.2.2).symm

theorem Btle.invoke_spec (sound : btle.Sound) (handler : Handler) (data : UInt8)
    (resources : Resources) :
    (btle.invoke handler data resources).Sound ∧
      (btle.invoke handler data resources).payloadLen = btle.payloadLen ∧
      ((btle.invoke handler data resources).rxHandler = none ↔
        btle.rxHandler = none ∨ btle.dropsAt handler data) := by
  cases handler with
  | data =>
    refine ⟨⟨DataReceiver.receive_sound sound.data data resources, sound.counter⟩, rfl, ?_⟩
    exact (or_iff_left fun dropped => Handler.noConfusion dropped.1).symm
  | hci => exact ⟨sound, rfl, (or_iff_left fun dropped => Handler.noConfusion dropped.1).symm⟩
  | ind => exact Btle.receiveInd_spec sound data

/-- A condition that leads to a sound configuration, and that a disciplined one has met. -/
def Sharp (next : Config) (condition : Prop) : Prop :=
  (condition → next.Sound) ∧ (next.Disciplined → condition)

theorem Sharp.of_sound {next : Config} (sound : next.Sound) (met : condition) :
    Sharp next condition :=
  ⟨fun _ => sound, fun _ => met⟩

/-- A handler keeps the discipline exactly under its condition. -/
theorem Btle.handle_sharp (sound : btle.Sound) {handler : Handler}
    (isSet : btle.rxHandler = some handler) (data : Input) :
    Sharp (btle.handle data rest behind) (btle.Handles handler btle.payloadLen data.1 rest) := by
  obtain ⟨after, counter, gone⟩ := Btle.invoke_spec sound handler data.1 data.2
  unfold Btle.handle
  rw [isSet]
  constructor
  · intro handles
    refine ⟨⟨after.data, ?_⟩, fun more left => ?_⟩
    · show (_ || _ == (0 : UInt8)) = false
      rw [after.counter, counter, Bool.false_or]
      exact beq_eq_false_iff_ne.mpr handles.1
    · show (btle.invoke handler data.1 data.2).rxHandler ≠ none
      rw [Ne, gone, isSet]
      rintro (impossible | dropped)
      · cases impossible
      · rcases handles.2 dropped with last | none
        · apply left
          rw [counter, last]
          rfl
        · exact more none
  · rintro ⟨⟨_, counted⟩, set⟩
    constructor
    · intro zero
      have wrapped : ((btle.invoke handler data.1 data.2).underflowed ||
          (btle.invoke handler data.1 data.2).payloadLen == 0) = false := counted
      rw [after.counter, counter, zero] at wrapped
      cases wrapped
    · intro dropped
      by_contra neither
      obtain ⟨more, others⟩ := not_or.mp neither
      refine set others (fun last => more ?_) (gone.mpr (.inr dropped))
      have one : (btle.invoke handler data.1 data.2).payloadLen - 1 = 0 := last
      rw [counter] at one
      exact (UInt8.sub_add_cancel _ 1).symm.trans (congrArg (· + 1) one)

theorem Btle.handle_set_sharp (sound : btle.Sound) (set : btle.rxHandler ≠ none) (data : Input) :
    Sharp (btle.handle data rest behind)
      (∀ handler ∈ btle.rxHandler, btle.Handles handler btle.payloadLen data.1 rest) := by
  obtain ⟨handler, isSet⟩ := Option.ne_none_iff_exists'.mp set
  have sharp : Sharp (btle.handle data rest behind) _ := Btle.handle_sharp sound isSet data
  refine ⟨fun handles => sharp.1 (handles handler isSet), fun disciplined other isOther => ?_⟩
  obtain rfl : handler = other := Option.some.inj (isSet.symm.trans isOther)
  exact sharp.2 disciplined

theorem Btle.setupRxHandler_accepts (accepted : accepts msgType payloadLen) :
    btle.setupRxHandler msgType payloadLen =
      (true, { btle with rxHandler := some (handlerOf msgType), payloadLen }) := by
  rcases accepted with ⟨rfl, rfl⟩ | rfl | ⟨rfl, rfl⟩ <;> rfl

theorem Btle.setupRxHandler_rejects (rejected : ¬ accepts msgType payloadLen) :
    ∃ after, btle.setupRxHandler msgType payloadLen = (false, after) ∧
      (btle.Sound → after.Sound) := by
  unfold Btle.setupRxHandler
  split
  case h_1 =>
    rw [if_pos fun length => rejected (.inl ⟨rfl, length⟩)]
    exact ⟨_, rfl, fun sound => ⟨sound.data, sound.counter⟩⟩
  case h_2 => exact absurd (.inr (.inl rfl)) rejected
  case h_3 =>
    rw [if_pos fun length => rejected (.inr (.inr ⟨rfl, length⟩))]
    exact ⟨_, rfl, fun sound => ⟨sound.data, sound.counter⟩⟩
  case h_4 => exact ⟨_, rfl, fun sound => ⟨sound.data, sound.counter⟩⟩

section

variable (sound : btle.Sound)
include sound

theorem Btle.startFrame_short (msgType : Input) (next : Btle → List Input → Config) :
    Sharp (btle.startFrame [msgType] behind next) (¬ accepts msgType.1 behind) := by
  unfold Btle.startFrame
  dsimp only
  by_cases accepted : accepts msgType.1 behind
  · rw [btle.setupRxHandler_accepts accepted]
    exact ⟨fun rejected => rejected accepted, False.elim⟩
  · obtain ⟨after, rejected, keeps⟩ := btle.setupRxHandler_rejects accepted
    rw [rejected]
    exact .of_sound (keeps sound) accepted

theorem Btle.startFrame_sharp (msgType payloadLen : Input) {next : Btle → List Input → Config}
    (goesOn : accepts msgType.1 payloadLen.1 →
      Sharp (next { btle with rxHandler := some (handlerOf msgType.1), payloadLen := payloadLen.1 }
        rest) condition) :
    Sharp (btle.startFrame (msgType :: payloadLen :: rest) behind next)
      (accepts msgType.1 payloadLen.1 → condition) := by
  unfold Btle.startFrame
  dsimp only
  by_cases accepted : accepts msgType.1 payloadLen.1
  · rw [btle.setupRxHandler_accepts accepted]
    obtain ⟨keeps, needs⟩ := goesOn accepted
    exact ⟨fun met => keeps (met accepted), fun disciplined _ => needs disciplined⟩
  · obtain ⟨after, rejected, keeps⟩ := btle.setupRxHandler_rejects accepted
    rw [rejected]
    exact .of_sound (keeps sound) fun isAccepted => absurd isAccepted accepted

theorem Btle.turn_start (data : Input) (rest : List Input) (behind : UInt8) :
    Sharp
      (btle.startFrame (data :: rest) behind fun btle rest =>
        match rest with
        | [] => .stopped .overread
        | data :: rest => btle.handle data rest behind)
      (btle.Starts data.1 behind rest) := by
  cases rest with
  | nil => exact Btle.startFrame_short sound data _
  | cons payloadLen rest =>
    refine Btle.startFrame_sharp sound data payloadLen fun _ => ?_
    have started : Btle.Sound
        { btle with rxHandler := some (handlerOf data.1), payloadLen := payloadLen.1 } :=
      ⟨sound.data, sound.counter⟩
    cases rest with
    | nil =>
      refine ⟨?_, False.elim⟩
      rintro ⟨_, _, more, _⟩
      cases more
    | cons first others =>
      have sharp : Sharp (Btle.handle
            { btle with rxHandler := some (handlerOf data.1), payloadLen := payloadLen.1 }
            first others behind)
          (btle.Handles (handlerOf data.1) payloadLen.1 first.1 others) :=
        Btle.handle_sharp started rfl first
      constructor
      · rintro ⟨_, _, same, handles⟩
        cases same
        exact sharp.1 handles
      · exact fun disciplined => ⟨first, others, rfl, sharp.2 disciplined⟩

theorem Btle.turn_sharp {input : List Input}
    (set : input ≠ [] → btle.payloadLen ≠ 0 → btle.rxHandler ≠ none) (behind : UInt8) :
    Sharp (btle.turn input behind) ((Config.reading btle input behind).Allows .turn) := by
  unfold Btle.turn
  cases input with
  | nil => exact .of_sound sound trivial
  | cons data rest =>
    dsimp only
    by_cases empty : btle.payloadLen = 0
    · rw [if_pos empty]
      obtain ⟨keeps, needs⟩ := Btle.turn_start sound data rest behind
      exact ⟨fun allows => keeps (allows.1 empty),
        fun disciplined => ⟨fun _ => needs disciplined, fun left => absurd empty left⟩⟩
    · rw [if_neg empty]
      have sharp : Sharp (btle.handle data rest behind) _ :=
        Btle.handle_set_sharp sound (set (cons_ne_nil _ _) empty) data
      exact ⟨fun allows => sharp.1 (allows.2 empty),
        fun disciplined => ⟨fun none => absurd none empty, fun _ => sharp.2 disciplined⟩⟩

theorem Btle.startRead_sharp (left input : List Input) (behind : UInt8) :
    Sharp (btle.startRead input behind)
      ((Config.polling btle left).Allows (.read input behind)) := by
  unfold Btle.startRead
  cases input with
  | nil => exact .of_sound sound trivial
  | cons msgType rest =>
    dsimp only
    have cleared : (if btle.payloadLen = 0 then { btle with rxHandler := none }
        else btle).Sound := by
      split
      · exact ⟨sound.data, sound.counter⟩
      · exact sound
    have gone : (if btle.payloadLen = 0 then { btle with rxHandler := none }
        else btle).rxHandler = none ↔ btle.payloadLen = 0 ∨ btle.rxHandler = none := by
      split
      case isTrue empty => exact iff_of_true rfl (.inl empty)
      case isFalse more => exact (or_iff_right more).symm
    generalize (if btle.payloadLen = 0 then { btle with rxHandler := none } else btle) = after
      at cleared gone
    split
    case h_1 none =>
      have starts := gone.mp none
      cases rest with
      | nil =>
        have sharp : Sharp
            (after.startFrame [msgType] behind fun btle rest => .reading btle rest behind)
            (¬ accepts msgType.1 behind) := Btle.startFrame_short cleared msgType _
        exact ⟨fun allows => sharp.1 (allows starts), fun disciplined _ => sharp.2 disciplined⟩
      | cons payloadLen rest =>
        have sharp : Sharp
            (after.startFrame (msgType :: payloadLen :: rest) behind
              fun btle rest => .reading btle rest behind)
            (accepts msgType.1 payloadLen.1 → True) :=
          Btle.startFrame_sharp cleared msgType payloadLen fun _ =>
            .of_sound ⟨⟨cleared.data, cleared.counter⟩, fun _ _ => Option.some_ne_none _⟩ trivial
        exact .of_sound (sharp.1 fun _ => trivial) trivial
    case h_2 handler isSet =>
      refine .of_sound ⟨cleared, fun _ _ => by rw [isSet]; exact Option.some_ne_none _⟩ ?_
      cases rest with
      | nil =>
        intro starts
        rw [gone.mpr starts] at isSet
        cases isSet
      | cons => trivial

end

theorem Config.step_sharp (sound : config.Sound) (action : Action) :
    Sharp (config.step action) (config.Allows action) := by
  cases config with
  | polling btle left =>
    cases action with
    | read input behind => exact Btle.startRead_sharp sound left input behind
    | turn => exact .of_sound sound trivial
    | expire id resources =>
      exact .of_sound ⟨DataReceiver.expire_sound sound.data id, sound.counter⟩ trivial
  | reading btle input behind =>
    cases action with
    | turn => exact Btle.turn_sharp sound.1 sound.2 behind
    | read | expire => exact .of_sound sound (by cases input <;> trivial)
  | stopped fault => exact absurd sound id

/-- **Which runs keep the discipline.** A handler is set where it is called, `payload_len` never
goes below zero, and buffer, checksum and timer are as they should be, in all states of a run
exactly if every step meets the condition. -/
theorem receiver_is_disciplined (fd : Int) (callbacks : Callbacks) (actions : List Action) :
    (∀ reached, reached <+: actions →
      (reached.foldl Config.step (.polling (Btle.initial fd callbacks) [])).Disciplined) ↔
      Support.Guarded Config.step Config.Allows
        (.polling (Btle.initial fd callbacks) []) actions := by
  apply Support.forall_prefix_iff_guarded_of_good Config.Sound Config.Disciplined
  · exact fun _ sound => sound.disciplined
  · exact fun _ action sound allows => (Config.step_sharp sound action).1 allows
  · exact fun _ action sound disciplined => (Config.step_sharp sound action).2 disciplined
  · exact ⟨DataReceiver.initial_sound, rfl⟩

def noCallbacks : Callbacks := ⟨0, [], nofun⟩

/-- Three indications in one read: the module is connected, the second one has its first byte
ignored, so that the first byte of the third one reports that the connection was dropped. -/
def shiftedIndications : List Action :=
  .read ([3, 2, 0, 6, 3, 2, 9, 0, 3, 2, 0, 0].map fun data => (data, .plenty)) 0 ::
    List.replicate 6 .turn

theorem shiftedIndications_stop :
    shiftedIndications.foldl Config.step (.polling (Btle.initial 5 noCallbacks) []) =
      .stopped .nullHandler := rfl

/-- The handler is called that the first byte of a frame has taken away. -/
theorem handler_is_taken_away :
    ¬ (shiftedIndications.foldl Config.step
      (.polling (Btle.initial 5 noCallbacks) [])).Disciplined := by
  rw [shiftedIndications_stop]
  exact id

end Thingsee.Bluetooth
