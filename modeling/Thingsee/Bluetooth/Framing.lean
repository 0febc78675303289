import Thingsee.Bluetooth.Types

/-!
Owns the frames of a stream and how reads cut them. Each byte of a stream is a token: it has its
place in a frame. `Btle.feed` is what a stream does to the module, with no regard to reads, and
`receiveAll_feed` says for which reads `bluetooth_receiver` does the same.
-/

namespace Thingsee.Bluetooth

open List

inductive Frame where
  | data (bytes : List UInt8)
  | ind (connState gapState : UInt8)

/-- Data frames have 20 bytes, and the first byte of an indication is at most `BTLE_IND_EVENT_MAX`.
-/
def Frame.Valid : Frame → Prop
  | .data bytes => bytes.length = 20
  | .ind connState _ => connState ≤ 2

/-- A byte of a stream: the type of a frame, its length, or a byte for a handler. -/
inductive Token where
  | msgType (type : UInt8)
  | payloadLen (type length : UInt8)
  | content (handler : Handler) (data : UInt8)

def Token.byte : Token → UInt8
  | .msgType type => type
  | .payloadLen _ length => length
  | .content _ data => data

def Frame.tokens : Frame → List Token
  | .data bytes => .msgType 1 :: .payloadLen 1 20 :: bytes.map (.content .data)
  | .ind connState gapState =>
    [.msgType 3, .payloadLen 3 2, .content .ind connState, .content .ind gapState]

def tokens (frames : List Frame) : List Token := frames.flatMap Frame.tokens

def encode (frames : List Frame) : List UInt8 := (tokens frames).map Token.byte

/-- A read, with the byte that lies behind what it has returned. -/
structure Read where
  bytes : List UInt8
  behind : UInt8

def Config.drain : Nat → Config → Config
  | 0, config => config
  | turns + 1, config => (config.step .turn).drain turns

def Btle.receive (btle : Btle) (read : Read) : Config :=
  (btle.startRead (read.bytes.map fun data => (data, .plenty)) read.behind).drain
    (read.bytes.length + 1)

/-- Successive reads. There is a result if all the bytes of each are consumed, and no others. -/
def Btle.receiveAll : Btle → List Read → Option Btle
  | btle, [] => some btle
  | btle, read :: rest =>
    match btle.receive read with
    | .polling next [] => next.receiveAll rest
    | _ => none

/-- What stands in a list at the places of each piece. -/
def deal {α β : Type} : List (List α) → List β → List (List β)
  | [], _ => []
  | piece :: rest, list => list.take piece.length :: deal rest (list.drop piece.length)

/-- A piece that does not cut a frame header, and does not end with one unless it has nothing else.
-/
def Uncut (piece : List Token) : Prop :=
  match piece.getLast? with
  | some (.msgType _) => False
  | some (.payloadLen _ _) => piece.length = 2
  | _ => True

instance (piece : List Token) : Decidable (Uncut piece) := by
  unfold Uncut
  split <;> infer_instance

def WellCut (frames : List Frame) (reads : List Read) : Prop :=
  ∀ piece ∈ deal (reads.map Read.bytes) (tokens frames), Uncut piece

def Btle.take (btle : Btle) : Token → Btle
  | .msgType _ => btle
  | .payloadLen type length => (btle.setupRxHandler type length).2
  | .content handler data =>
    let after := btle.invoke handler data .plenty
    { after with
      payloadLen := after.payloadLen - 1
      underflowed := after.underflowed || after.payloadLen == 0 }

def Btle.feed (btle : Btle) (stream : List Token) : Btle := stream.foldl Btle.take btle

inductive Aligned (btle : Btle) : List Token → Prop where
  | between (frames : List Frame) (valid : ∀ frame ∈ frames, frame.Valid)
      (left : btle.payloadLen = 0) (waits : btle.ind.state = .wait) : Aligned btle (tokens frames)
  | data (frames : List Frame) (valid : ∀ frame ∈ frames, frame.Valid) (first : UInt8)
      (bytes : List UInt8) (left : btle.payloadLen.toNat = bytes.length + 1)
      (set : btle.rxHandler = some .data) (waits : btle.ind.state = .wait) :
      Aligned btle ((first :: bytes).map (.content .data) ++ tokens frames)
  | conn (frames : List Frame) (valid : ∀ frame ∈ frames, frame.Valid) (connState gapState : UInt8)
      (low : connState ≤ 2) (left : btle.payloadLen = 2) (set : btle.rxHandler = some .ind)
      (waits : btle.ind.state = .wait) :
      Aligned btle (.content .ind connState :: .content .ind gapState :: tokens frames)
  | gap (frames : List Frame) (valid : ∀ frame ∈ frames, frame.Valid) (gapState : UInt8)
      (left : btle.payloadLen = 1) (set : btle.rxHandler = some .ind)
      (waits : btle.ind.state = .gapState) : Aligned btle (.content .ind gapState :: tokens frames)

variable {btle : Btle} {stream rest : List Token}
  {type : UInt8} {token : Token} {handler : Handler} {piece : List Token}

theorem Aligned.header (aligned : Aligned btle (.msgType type :: rest)) :
    btle.payloadLen = 0 ∧ ∃ length handler data others,
      rest = .payloadLen type length :: .content handler data :: others ∧
        (∀ rxHandler, { btle with rxHandler }.setupRxHandler type length =
          (true, { btle with rxHandler := some handler, payloadLen := length })) ∧
        Aligned (btle.take (.payloadLen type length)) (.content handler data :: others) := by
  generalize same : Token.msgType type :: rest = stream at aligned
  cases aligned with
  | between frames valid left waits =>
    cases frames with
    | nil => cases same
    | cons frame frames =>
      have others : ∀ frame ∈ frames, frame.Valid :=
        fun other isIn => valid other (mem_cons_of_mem _ isIn)
      have first := valid frame mem_cons_self
      refine ⟨left, ?_⟩
      cases frame with
      | data bytes =>
        cases bytes with
        | nil => cases first
        | cons byte bytes =>
          cases same
          refine ⟨20, .data, byte, _, rfl, fun _ => rfl, ?_⟩
          exact .data frames others byte bytes first.symm rfl waits
      | ind connState gapState =>
        cases same
        exact ⟨2, .ind, connState, _, rfl, fun _ => rfl,
          .conn frames others connState gapState first rfl rfl waits⟩
  | data => cases same
  | conn => cases same
  | gap => cases same

theorem Aligned.not_length {length : UInt8} : ¬ Aligned btle (.payloadLen type length :: rest) := by
  intro aligned
  generalize same : Token.payloadLen type length :: rest = stream at aligned
  cases aligned with
  | between frames =>
    cases frames with
    | nil => cases same
    | cons frame frames => cases frame <;> cases same
  | data => cases same
  | conn => cases same
  | gap => cases same

theorem Btle.invoke_payloadLen (btle : Btle) (handler : Handler) (data : UInt8) :
    (btle.invoke handler data .plenty).payloadLen = btle.payloadLen := by
  cases handler with
  | data => rfl
  | hci => rfl
  | ind =>
    show (btle.receiveInd data).payloadLen = btle.payloadLen
    unfold Btle.receiveInd
    split
    · split <;> rfl
    · rfl
    · dsimp only
      split <;> rfl

theorem Btle.take_payloadLen (btle : Btle) (handler : Handler) (data : UInt8) :
    (btle.take (.content handler data)).payloadLen = btle.payloadLen - 1 := by
  show (btle.invoke handler data .plenty).payloadLen - 1 = _
  rw [Btle.invoke_payloadLen]

theorem Aligned.data_step {frames : List Frame} (valid : ∀ frame ∈ frames, frame.Valid)
    {first : UInt8} {bytes : List UInt8} (left : btle.payloadLen.toNat = bytes.length + 1)
    (set : btle.rxHandler = some .data) (waits : btle.ind.state = .wait) :
    Aligned (btle.take (.content .data first)) (bytes.map (.content .data) ++ tokens frames) := by
  have counter := Btle.take_payloadLen btle .data first
  have one : (1 : UInt8) ≤ btle.payloadLen := by
    rw [UInt8.le_iff_toNat_le, left]
    exact Nat.le_add_left 1 _
  have fewer : (btle.take (.content .data first)).payloadLen.toNat = bytes.length := by
    rw [counter, UInt8.toNat_sub_of_le _ _ one, left]
    rfl
  cases bytes with
  | nil => exact .between frames valid (UInt8.toNat_inj.mp fewer) waits
  | cons next bytes => exact .data frames valid next bytes fewer set waits

theorem Aligned.content {data : UInt8} (aligned : Aligned btle (.content handler data :: rest)) :
    btle.payloadLen ≠ 0 ∧ btle.rxHandler = some handler ∧
      Aligned (btle.take (.content handler data)) rest := by
  generalize same : Token.content handler data :: rest = stream at aligned
  cases aligned with
  | between frames =>
    cases frames with
    | nil => cases same
    | cons frame frames => cases frame <;> cases same
  | data frames valid first bytes left set waits =>
    cases same
    refine ⟨?_, set, .data_step valid left set waits⟩
    intro none
    rw [none] at left
    cases left
  | conn frames valid connState gapState low left set waits =>
    cases same
    have counter := Btle.take_payloadLen btle .ind data
    rw [left] at counter
    have received : btle.receiveInd data =
        { btle with ind := { btle.ind with state := .gapState, connState := data } } := by
      unfold Btle.receiveInd
      rw [waits]
      exact if_neg (UInt8.not_lt.mpr low)
    refine ⟨by rw [left]; decide, set, .gap frames valid gapState counter ?_ ?_⟩
    · show (btle.receiveInd data).rxHandler = some .ind
      rw [received]
      exact set
    · show (btle.receiveInd data).ind.state = .gapState
      rw [received]
  | gap frames valid gapState left set waits =>
    cases same
    have counter := Btle.take_payloadLen btle .ind data
    rw [left] at counter
    refine ⟨by rw [left]; decide, set, .between frames valid counter ?_⟩
    show (btle.receiveInd data).ind.state = .wait
    unfold Btle.receiveInd
    rw [waits]

def inputs (piece : List Token) : List Input := piece.map fun token => (token.byte, .plenty)

/-- The loop has not consumed its read, or too much of it. -/
def Config.Spoiled : Config → Prop
  | .polling _ left => left ≠ []
  | .reading _ _ _ => False
  | .stopped _ => True

theorem Config.drain_spoiled {config : Config} (spoiled : config.Spoiled) (turns : Nat) :
    (config.drain turns).Spoiled := by
  induction turns generalizing config with
  | zero => exact spoiled
  | succ turns ih =>
    apply ih
    cases config with
    | polling => exact spoiled
    | reading => exact spoiled.elim
    | stopped => exact spoiled

theorem Config.drain_polling (btle : Btle) (left : List Input) (turns : Nat) :
    (Config.polling btle left).drain turns = .polling btle left := by
  induction turns with
  | zero => rfl
  | succ turns ih => exact ih

def EndsInside (piece : List Token) : Prop :=
  ∀ token ∈ piece.getLast?, ∃ handler data, token = .content handler data

def Outcome (config : Config) (next : Btle) (whole : Prop) : Prop :=
  (whole → config = .polling next []) ∧ (¬ whole → config.Spoiled)

theorem Btle.handle_plenty (set : btle.rxHandler = some handler) (data : UInt8) (input : List Input)
    (behind : UInt8) :
    btle.handle (data, .plenty) input behind =
      .reading (btle.take (.content handler data)) input behind := by
  unfold Btle.handle
  rw [set]
  rfl

theorem endsInside_cons {next : Token} :
    EndsInside (token :: next :: piece) ↔ EndsInside (next :: piece) := by
  unfold EndsInside
  rw [List.getLast?_cons_cons]

theorem endsInside_content {data : UInt8} :
    EndsInside (.content handler data :: piece) ↔ EndsInside piece := by
  cases piece with
  | nil =>
    refine iff_of_true ?_ nofun
    rintro token ⟨⟩
    exact ⟨handler, data, rfl⟩
  | cons next piece => exact endsInside_cons

theorem not_endsInside (isHeader : ∀ handler data, token ≠ .content handler data) :
    ¬ EndsInside [token] := by
  intro inside
  obtain ⟨handler, data, same⟩ := inside token rfl
  exact isHeader handler data same

theorem startFrame_cut (btle : Btle) (msgType : Input) (behind : UInt8)
    (next : Btle → List Input → Config) : (btle.startFrame [msgType] behind next).Spoiled := by
  unfold Btle.startFrame
  dsimp only
  split
  · exact cons_ne_nil _ _
  · trivial

theorem startFrame_accepted {length : UInt8} {after : Btle}
    (accepted : btle.setupRxHandler type length = (true, after)) (input : List Input)
    (behind : UInt8) (next : Btle → List Input → Config) :
    btle.startFrame ((type, .plenty) :: (length, .plenty) :: input) behind next =
      next after input := by
  unfold Btle.startFrame
  dsimp only
  rw [accepted]

theorem drain_piece (aligned : Aligned btle (piece ++ rest)) (behind : UInt8) {turns : Nat}
    (enough : piece.length < turns) :
    Outcome ((Config.reading btle (inputs piece) behind).drain turns) (btle.feed piece)
      (EndsInside piece) := by
  induction turns generalizing btle piece with
  | zero => cases enough
  | succ turns ih =>
    show Outcome ((btle.turn (inputs piece) behind).drain turns) _ _
    cases piece with
    | nil => exact ⟨fun _ => Config.drain_polling btle [] turns, fun cut => absurd nofun cut⟩
    | cons token piece =>
      cases token with
      | msgType type =>
        obtain ⟨empty, length, handler, data, others, more, accepted, next⟩ := aligned.header
        have started : btle.turn (inputs (.msgType type :: piece)) behind =
            btle.startFrame (inputs (.msgType type :: piece)) behind _ := if_pos empty
        rw [started]
        cases piece with
        | nil =>
          refine ⟨fun inside => absurd inside (not_endsInside nofun), fun _ => ?_⟩
          exact Config.drain_spoiled (startFrame_cut btle _ behind _) turns
        | cons token piece =>
          obtain ⟨rfl, tail⟩ := List.cons.inj more
          show Outcome ((btle.startFrame
            ((type, .plenty) :: (length, .plenty) :: inputs piece) behind _).drain turns) _ _
          have taken : btle.take (.payloadLen type length) =
              { btle with rxHandler := some handler, payloadLen := length } :=
            congrArg Prod.snd (accepted btle.rxHandler)
          rw [startFrame_accepted (accepted btle.rxHandler), ← taken]
          cases piece with
          | nil =>
            refine ⟨fun inside => ?_, fun _ => ?_⟩
            · exact absurd (endsInside_cons.mp inside) (not_endsInside nofun)
            · exact @Config.drain_spoiled (.stopped .overread) trivial turns
          | cons token piece =>
            obtain ⟨rfl, rfl⟩ := List.cons.inj tail
            have set : (btle.take (.payloadLen type length)).rxHandler = some handler := by
              rw [taken]
            rw [endsInside_cons, endsInside_cons, endsInside_content]
            have shorter : piece.length < turns := by
              have more : piece.length + 3 < turns + 1 := enough
              omega
            show Outcome (((btle.take (.payloadLen type length)).handle (data, .plenty)
              (inputs piece) behind).drain turns) _ _
            rw [Btle.handle_plenty set]
            exact ih next.content.2.2 shorter
      | payloadLen => exact absurd aligned Aligned.not_length
      | content handler data =>
        obtain ⟨left, set, next⟩ := aligned.content
        have turned : btle.turn (inputs (.content handler data :: piece)) behind =
            .reading (btle.take (.content handler data)) (inputs piece) behind :=
          (if_neg left).trans (Btle.handle_plenty set data (inputs piece) behind)
        rw [turned, endsInside_content]
        exact ih next (Nat.lt_of_succ_lt_succ enough)

/-- A piece that does not end with the first byte of a header. -/
def EndsWhole (piece : List Token) : Prop := ∀ type, piece.getLast? ≠ some (.msgType type)

theorem EndsWhole.tail (ends : EndsWhole (token :: piece)) : EndsWhole piece := by
  cases piece with
  | nil => exact fun _ => nofun
  | cons next piece =>
    intro type last
    exact ends type (by rw [List.getLast?_cons_cons]; exact last)

theorem aligned_behind (piece : List Token) (ends : EndsWhole piece) (btle : Btle) :
    (Aligned btle (piece ++ rest) → Aligned (btle.feed piece) rest) ∧
      (∀ type, Aligned btle (.msgType type :: (piece ++ rest)) → piece ≠ [] →
        Aligned (btle.feed piece) rest) := by
  induction piece generalizing btle with
  | nil => exact ⟨id, fun _ _ some => absurd rfl some⟩
  | cons token piece ih =>
    have others := ih ends.tail
    constructor
    · intro aligned
      cases token with
      | msgType type =>
        refine (others btle).2 type aligned ?_
        rintro rfl
        exact ends type rfl
      | payloadLen => exact absurd aligned Aligned.not_length
      | content handler data => exact (others _).1 aligned.content.2.2
    · intro type aligned _
      obtain ⟨_, length, handler, data, after, more, _, next⟩ := aligned.header
      obtain ⟨rfl, tail⟩ := List.cons.inj more
      rw [← tail] at next
      exact (others _).1 next

theorem Uncut.endsWhole (uncut : Uncut piece) : EndsWhole piece := by
  intro type last
  unfold Uncut at uncut
  rw [last] at uncut
  exact uncut

theorem uncut_iff (long : piece.length ≠ 2) : Uncut piece ↔ EndsInside piece := by
  unfold Uncut EndsInside
  cases last : piece.getLast? with
  | none => exact iff_of_true trivial nofun
  | some token =>
    cases token with
    | msgType type =>
      refine iff_of_false id fun inside => ?_
      obtain ⟨handler, data, same⟩ := inside _ rfl
      cases same
    | payloadLen type length =>
      refine iff_of_false long fun inside => ?_
      obtain ⟨handler, data, same⟩ := inside _ rfl
      cases same
    | content handler data =>
      refine iff_of_true trivial ?_
      rintro token ⟨⟩
      exact ⟨handler, data, rfl⟩

theorem Btle.startRead_between (btle : Btle) (empty : btle.payloadLen = 0) (msgType : Input)
    (input : List Input) (behind : UInt8) :
    btle.startRead (msgType :: input) behind =
      { btle with rxHandler := none }.startFrame (msgType :: input) behind
        fun btle rest => .reading btle rest behind := by
  unfold Btle.startRead
  rw [if_pos empty]

theorem Btle.startRead_inside (btle : Btle) (left : btle.payloadLen ≠ 0)
    (set : btle.rxHandler = some handler) (data : Input) (input : List Input) (behind : UInt8) :
    btle.startRead (data :: input) behind = .reading btle (data :: input) behind := by
  unfold Btle.startRead
  dsimp only
  rw [if_neg left, set]

theorem Btle.receive_eq (btle : Btle) (piece : List Token) (behind : UInt8) :
    btle.receive ⟨piece.map Token.byte, behind⟩ =
      (btle.startRead (inputs piece) behind).drain (piece.length + 1) := by
  unfold Btle.receive inputs
  rw [map_map, length_map]
  rfl

theorem receive_header (aligned : Aligned btle (.msgType type :: piece ++ rest)) (behind : UInt8) :
    Outcome (btle.receive ⟨(Token.msgType type :: piece).map Token.byte, behind⟩)
      (btle.feed (.msgType type :: piece)) (Uncut (.msgType type :: piece)) := by
  obtain ⟨empty, length, handler, data, others, more, accepted, next⟩ := aligned.header
  have started : btle.startRead (inputs (.msgType type :: piece)) behind =
      { btle with rxHandler := none }.startFrame (inputs (.msgType type :: piece)) behind
        fun btle rest => .reading btle rest behind :=
    btle.startRead_between empty _ _ behind
  rw [Btle.receive_eq, started]
  cases piece with
  | nil =>
    refine ⟨fun uncut => uncut.elim, fun _ => ?_⟩
    exact Config.drain_spoiled (startFrame_cut _ _ behind _) _
  | cons token piece =>
    obtain ⟨rfl, tail⟩ := List.cons.inj more
    have taken : btle.take (.payloadLen type length) =
        { btle with rxHandler := some handler, payloadLen := length } :=
      congrArg Prod.snd (accepted btle.rxHandler)
    show Outcome (({ btle with rxHandler := none }.startFrame
      ((type, .plenty) :: (length, .plenty) :: inputs piece) behind _).drain _) _ _
    rw [startFrame_accepted (accepted none), ← taken]
    rw [← tail] at next
    have looped : Outcome ((Config.reading (btle.take (.payloadLen type length)) (inputs piece)
        behind).drain (piece.length + 3)) _ _ := drain_piece next behind (by omega)
    cases piece with
    | nil => exact ⟨fun _ => looped.1 nofun, fun cut => absurd rfl cut⟩
    | cons first piece =>
      have inside : Uncut (.msgType type :: .payloadLen type length :: first :: piece) ↔
          EndsInside (first :: piece) := by
        rw [uncut_iff (by rw [length_cons, length_cons, length_cons]; omega),
          endsInside_cons, endsInside_cons]
      rw [inside]
      exact looped

theorem uncut_content {data : UInt8} (next : Aligned btle (piece ++ rest)) :
    Uncut (.content handler data :: piece) ↔ EndsInside (.content handler data :: piece) := by
  rcases piece with _ | ⟨token, _ | ⟨third, piece⟩⟩
  · exact uncut_iff (Nat.succ_ne_succ_iff.mpr (Nat.zero_ne_one))
  · rw [endsInside_content]
    cases token with
    | msgType => exact iff_of_false id (not_endsInside nofun)
    | payloadLen => exact absurd next Aligned.not_length
    | content => exact iff_of_true trivial (endsInside_content.mpr nofun)
  · exact uncut_iff (by rw [length_cons, length_cons, length_cons]; omega)

theorem receive_piece (aligned : Aligned btle (piece ++ rest)) (filled : piece ≠ [])
    (behind : UInt8) :
    Outcome (btle.receive ⟨piece.map Token.byte, behind⟩) (btle.feed piece) (Uncut piece) := by
  cases piece with
  | nil => exact absurd rfl filled
  | cons token piece =>
    cases token with
    | msgType type => exact receive_header aligned behind
    | payloadLen => exact absurd aligned Aligned.not_length
    | content handler data =>
      obtain ⟨left, set, next⟩ := aligned.content
      have started : btle.startRead (inputs (.content handler data :: piece)) behind =
          .reading btle (inputs (.content handler data :: piece)) behind :=
        btle.startRead_inside left set _ _ behind
      rw [Btle.receive_eq, started, uncut_content next]
      exact drain_piece aligned behind (Nat.lt_succ_self _)

/-- **Reads and frames.** Reads that cut no header do what the stream does, and others are not
consumed exactly. -/
theorem receiveAll_feed {reads : List Read} (aligned : Aligned btle stream)
    (filled : ∀ read ∈ reads, read.bytes ≠ [])
    (whole : (reads.map Read.bytes).flatten = stream.map Token.byte) :
    ((∀ piece ∈ deal (reads.map Read.bytes) stream, Uncut piece) →
        btle.receiveAll reads = some (btle.feed stream)) ∧
      ((¬ ∀ piece ∈ deal (reads.map Read.bytes) stream, Uncut piece) →
        btle.receiveAll reads = none) := by
  induction reads generalizing btle stream with
  | nil =>
    have empty : stream = [] := map_eq_nil_iff.mp whole.symm
    subst empty
    exact ⟨fun _ => rfl, fun cut => absurd nofun cut⟩
  | cons read reads ih =>
    obtain ⟨bytes, behind⟩ := read
    have first : bytes = (stream.take bytes.length).map Token.byte := by
      rw [map_take, ← whole]
      exact (take_left).symm
    have others : (reads.map Read.bytes).flatten =
        (stream.drop bytes.length).map Token.byte := by
      rw [map_drop, ← whole]
      exact (drop_left).symm
    have divided := take_append_drop bytes.length stream
    rw [← divided] at aligned
    have some : stream.take bytes.length ≠ [] := by
      intro none
      rw [none] at first
      exact filled _ mem_cons_self first
    obtain ⟨received, spoiled⟩ := receive_piece aligned some behind
    rw [← first] at received spoiled
    rw [map_cons]
    unfold deal Btle.receiveAll
    rw [forall_mem_cons]
    by_cases uncut : Uncut (stream.take bytes.length)
    · have next := (aligned_behind _ uncut.endsWhole btle).1 aligned
      have fed : btle.feed stream =
          (btle.feed (stream.take bytes.length)).feed (stream.drop bytes.length) := by
        unfold Btle.feed
        rw [← foldl_append, divided]
      rw [received uncut, fed, and_iff_right uncut]
      exact ih next
        (fun read isIn => filled read (mem_cons_of_mem _ isIn)) others
    · refine ⟨fun both => absurd both.1 uncut, fun _ => ?_⟩
      have outcome := spoiled uncut
      generalize btle.receive ⟨bytes, behind⟩ = config at outcome
      cases config with
      | polling next left =>
        cases left with
        | nil => exact absurd rfl outcome
        | cons => rfl
      | reading => exact outcome.elim
      | stopped => rfl

end Thingsee.Bluetooth
