import Thingsee.Gps.Ubx

/-!
Owns streams of the GPS module and their parts: messages and lines, with frames between
the characters of lines. `feed_tokens` divides a stream between the two receivers: each
frame is received by a receiver that waits, and all other characters are passed on.
-/

namespace Thingsee.Gps

open Support List

variable {msg : UbxMsg} {next receiver : Receiver}

/-- A message that can be sent: its length is the length of its payload. -/
structure UbxMsg.Valid (msg : UbxMsg) : Prop where
  length : msg.length = msg.payload.length
  short : msg.length ≤ maxPayloadLength

inductive Token where
  | frame (msg : UbxMsg)
  | byte (data : UInt8)

def Token.encode : Token → List UInt8
  | .frame msg => msg.encode
  | .byte data => [data]

/-- A message, or a line with the frames in front of each of its characters, of its
carriage return and of its newline. -/
inductive Item where
  | message (msg : UbxMsg)
  | line (characters : List (List UbxMsg × UInt8)) (beforeReturn beforeNewline : List UbxMsg)

def Item.tokens : Item → List Token
  | .message msg => [.frame msg]
  | .line characters beforeReturn beforeNewline =>
    characters.flatMap (fun entry => entry.1.map Token.frame ++ [.byte entry.2]) ++
      (beforeReturn.map Token.frame ++ Token.byte 13 ::
        (beforeNewline.map Token.frame ++ [.byte 10]))

def Item.text : Item → List UInt8
  | .message _ => []
  | .line characters _ _ => characters.map Prod.snd

def lines (items : List Item) : List (List UInt8) :=
  items.filterMap (fun item =>
    match item with
    | .message _ => none
    | .line characters _ _ => some (characters.map Prod.snd))

def frames (tokens : List Token) : List UbxMsg :=
  tokens.filterMap (fun token =>
    match token with
    | .frame msg => some msg
    | .byte _ => none)

def chars (tokens : List Token) : List UInt8 :=
  tokens.filterMap (fun token =>
    match token with
    | .frame _ => none
    | .byte data => some data)

def tokens (items : List Item) : List Token := items.flatMap Item.tokens

def messages (items : List Item) : List UbxMsg := frames (tokens items)

def encode (items : List Item) : List UInt8 := (tokens items).flatMap Token.encode

/-- A character of a line: no NUL, no synchronization character and no line end. -/
def LineChar (char : UInt8) : Prop := char ≠ 0 ∧ char ≠ syncChar1 ∧ char ≠ 13 ∧ char ≠ 10

/-- Lines of 1 to 126 characters, and messages that can be sent. -/
structure Item.Valid (item : Item) : Prop where
  frames : ∀ msg ∈ frames item.tokens, msg.Valid
  chars : ∀ char ∈ item.text, LineChar char
  lengths : ∀ text ∈ lines [item], 1 ≤ text.length ∧ text.length ≤ 126

structure Receiver.Waiting (receiver : Receiver) : Prop where
  state : receiver.state = .wait
  ckA : receiver.ckA = 0
  ckB : receiver.ckB = 0

def Ubgps.feed (gps : Ubgps) (bytes : List UInt8) : Ubgps := bytes.foldl Ubgps.receiveByte gps

theorem feed_append (gps : Ubgps) (first second : List UInt8) :
    gps.feed (first ++ second) = (gps.feed first).feed second :=
  foldl_append

theorem receive_eq_feed (gps : Ubgps) (reads : List (List UInt8)) :
    gps.receive reads = gps.feed reads.flatten := by
  induction reads generalizing gps with
  | nil => rfl
  | cons input rest ih =>
    rw [flatten_cons, feed_append]
    exact ih _

def Takes (receiver : Receiver) (bytes : List UInt8) (next : Receiver) : Prop :=
  ∀ gps : Ubgps, gps.ubx = receiver → gps.feed bytes = { gps with ubx := next }

theorem Takes.single {data : UInt8} (taken : receiver.msgReceive data = (next, .accepted none)) :
    Takes receiver [data] next := by
  rintro gps rfl
  show gps.receiveByte data = _
  unfold Ubgps.receiveByte
  rw [taken]
  simp

theorem Takes.append {last : Receiver} {first second : List UInt8}
    (before : Takes receiver first next) (after : Takes next second last) :
    Takes receiver (first ++ second) last := by
  intro gps same
  rw [feed_append, before gps same, after _ rfl]

structure InHeader (stored : List UInt8) (receiver : Receiver) : Prop where
  state : receiver.state = .header
  isStored : receiver.stored = stored
  sum : (receiver.ckA, receiver.ckB) = checksum stored

def UbxMsg.upTo (msg : UbxMsg) (done : List UInt8) : UbxMsg := { msg with payload := done }

/-- A receiver that has stored the beginning of the payload of a message. -/
structure InPayload (msg : UbxMsg) (done : List UInt8) (receiver : Receiver) : Prop where
  state : receiver.state = .payload
  isMsg : receiver.msg = msg.upTo done
  sum : (receiver.ckA, receiver.ckB) = checksum (msg.upTo done).bytes

structure AtChecksum (msg : UbxMsg) (receiver : Receiver) : Prop where
  state : receiver.state = .checksum1
  isMsg : receiver.msg = msg
  sum : (receiver.ckA, receiver.ckB) = checksum msg.bytes

theorem checksum_snoc (bytes : List UInt8) (data : UInt8) :
    checksum (bytes ++ [data]) = fletcher (checksum bytes) data := by
  unfold checksum
  rw [foldl_append]
  rfl

theorem bytes_snoc (msg : UbxMsg) (done : List UInt8) (data : UInt8) :
    (msg.upTo (done ++ [data])).bytes = (msg.upTo done).bytes ++ [data] := by
  simp [UbxMsg.bytes, UbxMsg.upTo]

theorem msgReceive_of_accepted {data : UInt8} {msg : Option UbxMsg}
    (accepted : (receiver.summed data).tryReceive data = (next, .accepted msg)) :
    receiver.msgReceive data = (next, .accepted msg) := by
  unfold Receiver.msgReceive
  rw [accepted]

theorem takes_sync (waiting : receiver.Waiting) :
    ∃ next, Takes receiver [syncChar1, syncChar2] next ∧ InHeader [] next := by
  have first : receiver.msgReceive syncChar1 =
      ({ receiver with state := .sync, receiveTimer := true }, .accepted none) :=
    msgReceive_of_accepted (by simp [Receiver.summed, Receiver.tryReceive, waiting.state])
  have second : Receiver.msgReceive { receiver with state := .sync, receiveTimer := true }
      syncChar2 =
      ({ receiver with state := .header, receiveTimer := true, stored := [] },
        .accepted none) :=
    msgReceive_of_accepted (by simp [Receiver.summed, Receiver.tryReceive])
  refine ⟨_, (Takes.single first).append (Takes.single second), rfl, rfl, ?_⟩
  rw [waiting.ckA, waiting.ckB]
  rfl

theorem summed_header (state : receiver.state = .header) (data : UInt8) :
    receiver.summed data =
      { receiver with ckA := (fletcher (receiver.ckA, receiver.ckB) data).1,
                      ckB := (fletcher (receiver.ckA, receiver.ckB) data).2 } := by
  unfold Receiver.summed
  rw [state]

theorem summed_payload (state : receiver.state = .payload) (data : UInt8) :
    receiver.summed data =
      { receiver with ckA := (fletcher (receiver.ckA, receiver.ckB) data).1,
                      ckB := (fletcher (receiver.ckA, receiver.ckB) data).2 } := by
  unfold Receiver.summed
  rw [state]

theorem takes_header {stored : List UInt8} (inside : InHeader stored receiver)
    (short : stored.length < 3) (data : UInt8) :
    ∃ next, Takes receiver [data] next ∧ InHeader (stored ++ [data]) next := by
  have length : (receiver.stored ++ [data]).length < 4 := by
    rw [inside.isStored, length_append, length_singleton]
    omega
  have taken : receiver.msgReceive data =
      ({ receiver.summed data with stored := receiver.stored ++ [data] }, .accepted none) := by
    apply msgReceive_of_accepted
    rw [summed_header inside.state]
    unfold Receiver.tryReceive
    simp only [inside.state]
    rw [if_pos length]
  refine ⟨_, Takes.single taken, ?_, ?_, ?_⟩
  · rw [summed_header inside.state]
    exact inside.state
  · show receiver.stored ++ [data] = stored ++ [data]
    rw [inside.isStored]
  · rw [checksum_snoc, ← inside.sum, summed_header inside.state]

theorem takes_header_end (valid : msg.Valid) {stored : List UInt8} {data : UInt8}
    (inside : InHeader stored receiver) (whole : stored ++ [data] = (msg.upTo []).bytes) :
    ∃ next, Takes receiver [data] next ∧
      if 0 < msg.length then InPayload msg [] next else AtChecksum msg next := by
  have short := valid.short
  unfold maxPayloadLength at short
  have length : (receiver.stored ++ [data]).length = 4 := by
    rw [inside.isStored, whole]
    rfl
  have header : parseHeader (receiver.stored ++ [data]) = msg.upTo [] := by
    rw [inside.isStored, whole]
    unfold UbxMsg.bytes parseHeader
    simp only [UbxMsg.upTo, append_nil]
    rw [leValue_leBytes_of_lt (by omega)]
  have taken : receiver.msgReceive data =
      ({ receiver.summed data with
          stored := receiver.stored ++ [data], msg := msg.upTo [],
          state := if 0 < msg.length then .payload else .checksum1 }, .accepted none) := by
    apply msgReceive_of_accepted
    rw [summed_header inside.state]
    unfold Receiver.tryReceive
    simp only [inside.state]
    rw [if_neg (by omega), header, if_neg (by show ¬ 1024 < msg.length; omega)]
    rfl
  have sum : ((receiver.summed data).ckA, (receiver.summed data).ckB) =
      checksum (msg.upTo []).bytes := by
    rw [← whole, checksum_snoc, ← inside.sum, summed_header inside.state]
  refine ⟨_, Takes.single taken, ?_⟩
  by_cases some : 0 < msg.length
  · rw [if_pos some, if_pos some]
    exact ⟨rfl, rfl, sum⟩
  · have empty : msg.upTo [] = msg := by
      have none : msg.payload = [] := by
        rw [← length_eq_zero_iff, ← valid.length]
        omega
      unfold UbxMsg.upTo
      rw [← none]
    rw [if_neg some, if_neg some]
    rw [empty] at sum ⊢
    exact ⟨rfl, rfl, sum⟩

theorem takes_payload (valid : msg.Valid) {done rest : List UInt8}
    (inside : InPayload msg done receiver) (some : rest ≠ []) (whole : done ++ rest = msg.payload) :
    ∃ next, Takes receiver rest next ∧ AtChecksum msg next := by
  induction rest generalizing done receiver with
  | nil => exact absurd rfl some
  | cons data rest ih =>
    have total : msg.length = done.length + (rest.length + 1) := by
      rw [valid.length, ← whole, length_append, length_cons]
    have isStored : receiver.msg.payload = done := by
      rw [inside.isMsg]
      rfl
    have isLength : receiver.msg.length = msg.length := by
      rw [inside.isMsg]
      rfl
    have taken : receiver.msgReceive data =
        ({ receiver.summed data with
            msg := msg.upTo (done ++ [data]),
            state := if msg.length ≤ done.length + 1 then .checksum1 else .payload },
          .accepted none) := by
      apply msgReceive_of_accepted
      rw [summed_payload inside.state]
      unfold Receiver.tryReceive
      simp only [inside.state]
      rw [isStored, isLength, length_append, length_singleton, inside.isMsg]
      rfl
    have sum : ((receiver.summed data).ckA, (receiver.summed data).ckB) =
        checksum (msg.upTo (done ++ [data])).bytes := by
      rw [bytes_snoc, checksum_snoc, ← inside.sum, summed_payload inside.state]
    cases rest with
    | nil =>
      rw [length_nil] at total
      rw [if_pos (by omega)] at taken
      have same : msg.upTo (done ++ [data]) = msg := by
        unfold UbxMsg.upTo
        rw [whole]
      rw [same] at taken sum
      exact ⟨_, Takes.single taken, rfl, rfl, sum⟩
    | cons next others =>
      rw [length_cons] at total
      rw [if_neg (by omega)] at taken
      have further : InPayload msg (done ++ [data])
          { receiver.summed data with msg := msg.upTo (done ++ [data]), state := .payload } :=
        ⟨rfl, rfl, sum⟩
      obtain ⟨last, takes, atChecksum⟩ :=
        ih further (by simp) (by rw [← whole]; simp)
      exact ⟨last, (Takes.single taken).append takes, atChecksum⟩

theorem takes_bytes (valid : msg.Valid) (inside : InHeader [] receiver) :
    ∃ next, Takes receiver msg.bytes next ∧ AtChecksum msg next := by
  obtain ⟨low, high, length⟩ : ∃ low high, leBytes 2 msg.length = [low, high] := ⟨_, _, rfl⟩
  have header : [msg.classId, msg.msgId, low] ++ [high] = (msg.upTo []).bytes := by
    simp [UbxMsg.bytes, UbxMsg.upTo, length]
  have whole : msg.bytes =
      [msg.classId] ++ ([msg.msgId] ++ ([low] ++ ([high] ++ msg.payload))) := by
    simp [UbxMsg.bytes, length]
  obtain ⟨first, takesClass, inside⟩ := takes_header inside (by decide) msg.classId
  obtain ⟨second, takesId, inside⟩ := takes_header inside (by simp) msg.msgId
  obtain ⟨third, takesLow, inside⟩ := takes_header inside (by simp) low
  obtain ⟨fourth, takesHigh, behind⟩ := takes_header_end valid inside header
  by_cases some : 0 < msg.length
  · rw [if_pos some] at behind
    have nonempty : msg.payload ≠ [] := by
      intro none
      rw [valid.length, none] at some
      exact absurd some (by decide)
    obtain ⟨last, takesPayload, atChecksum⟩ := takes_payload valid behind nonempty rfl
    refine ⟨last, ?_, atChecksum⟩
    rw [whole]
    exact takesClass.append (takesId.append (takesLow.append (takesHigh.append takesPayload)))
  · rw [if_neg some] at behind
    have empty : msg.payload = [] := by
      rw [← length_eq_zero_iff, ← valid.length]
      omega
    refine ⟨fourth, ?_, behind⟩
    rw [whole, empty, append_nil]
    exact takesClass.append (takesId.append (takesLow.append takesHigh))

theorem reset_waiting (receiver : Receiver) : receiver.reset.Waiting := ⟨rfl, rfl, rfl⟩

theorem acknowledged_reset_waiting (receiver : Receiver) : receiver.acknowledged.reset.Waiting :=
  reset_waiting _

/-- A waiting receiver delivers each framed message, and waits again. -/
theorem feed_frame (valid : msg.Valid) {gps : Ubgps} (waiting : gps.ubx.Waiting) :
    ∃ ubx : Receiver, ubx.Waiting ∧
      gps.feed msg.encode = { gps with ubx := ubx, delivered := gps.delivered ++ [msg] } := by
  obtain ⟨header, takesSync, inside⟩ := takes_sync waiting
  obtain ⟨last, takesBytes, atEnd⟩ := takes_bytes valid inside
  have ckA : last.ckA = (checksum msg.bytes).1 := congrArg Prod.fst atEnd.sum
  have ckB : last.ckB = (checksum msg.bytes).2 := congrArg Prod.snd atEnd.sum
  have takesFirst : Takes last [(checksum msg.bytes).1] { last with state := .checksum2 } := by
    apply Takes.single
    apply msgReceive_of_accepted
    simp [Receiver.summed, Receiver.tryReceive, atEnd.state, ckA]
  have whole : msg.encode = ([syncChar1, syncChar2] ++ (msg.bytes ++ [(checksum msg.bytes).1])) ++
      [(checksum msg.bytes).2] := by
    simp [UbxMsg.encode]
  have before := (takesSync.append (takesBytes.append takesFirst)) gps rfl
  have final : Receiver.msgReceive { last with state := .checksum2 } (checksum msg.bytes).2 =
      (({ last with state := .checksum2 } : Receiver).acknowledged.reset,
        .accepted (some msg)) := by
    apply msgReceive_of_accepted
    simp [Receiver.summed, Receiver.tryReceive, ckB, atEnd.isMsg]
  refine ⟨({ last with state := .checksum2 } : Receiver).acknowledged.reset,
    acknowledged_reset_waiting _, ?_⟩
  rw [whole, feed_append, before]
  show Ubgps.receiveByte { gps with ubx := { last with state := .checksum2 } }
    (checksum msg.bytes).2 = _
  unfold Ubgps.receiveByte
  rw [final]
  rfl

theorem feed_byte {data : UInt8} (other : data ≠ syncChar1) {gps : Ubgps}
    (waiting : gps.ubx.Waiting) :
    gps.feed [data] = { gps with nmea := gps.nmea.receive data } := by
  have ignored : gps.ubx.msgReceive data = (gps.ubx, .ignored) := by
    simp [Receiver.msgReceive, Receiver.summed, Receiver.tryReceive, waiting.state, other]
  show gps.receiveByte data = _
  unfold Ubgps.receiveByte
  rw [ignored]

theorem feed_tokens {stream : List Token} (valid : ∀ msg ∈ frames stream, msg.Valid)
    (others : ∀ data ∈ chars stream, data ≠ syncChar1) (gps : Ubgps)
    (waiting : gps.ubx.Waiting) :
    ∃ ubx : Receiver, ubx.Waiting ∧ gps.feed (stream.flatMap Token.encode) =
      { ubx := ubx, nmea := (chars stream).foldl Nmea.receive gps.nmea,
        delivered := gps.delivered ++ frames stream } := by
  induction stream generalizing gps with
  | nil => exact ⟨gps.ubx, waiting, by rw [frames, filterMap_nil, append_nil]; rfl⟩
  | cons token rest ih =>
    rw [flatMap_cons, feed_append]
    cases token with
    | frame msg =>
      obtain ⟨ubx, stillWaiting, fed⟩ := feed_frame (valid msg (by simp [frames])) waiting
      obtain ⟨last, lastWaiting, all⟩ := ih
        (fun later isIn => valid later (mem_cons_of_mem _ isIn)) others
        { gps with ubx := ubx, delivered := gps.delivered ++ [msg] } stillWaiting
      refine ⟨last, lastWaiting, ?_⟩
      show (gps.feed msg.encode).feed _ = _
      rw [fed, all, append_assoc]
      rfl
    | byte data =>
      have fed := feed_byte (others data (by simp [chars])) waiting
      obtain ⟨last, lastWaiting, all⟩ := ih valid
        (fun later isIn => others later (mem_cons_of_mem _ isIn))
        { gps with nmea := gps.nmea.receive data } waiting
      refine ⟨last, lastWaiting, ?_⟩
      show (gps.feed [data]).feed _ = _
      rw [fed, all]
      rfl

end Thingsee.Gps
