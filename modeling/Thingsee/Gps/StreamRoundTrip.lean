import Thingsee.Gps.Stream

/-!
Owns the round trip of the GPS stream: messages and lines that are encoded one after the
other are received again.

The frames are received from every state that waits. The lines need an empty line buffer,
and the end of a garbage line leaves one character in it when that line is a lone NUL:
`streams_round_trip` has that exception.
-/

namespace Thingsee.Gps

open Support List

variable {text : List UInt8} {items : List Item} {gps : Ubgps} {receiver : Receiver}
  (first : List Token) (characters : List (List UbxMsg × UInt8)) {nmea : Nmea}
  (second : List Token) {ending : UInt8}

theorem frames_append : frames (first ++ second) = frames first ++ frames second :=
  filterMap_append

theorem chars_append : chars (first ++ second) = chars first ++ chars second :=
  filterMap_append

theorem chars_frames (msgs : List UbxMsg) : chars (msgs.map Token.frame) = [] := by
  unfold chars
  rw [filterMap_map]
  exact filterMap_eq_nil_iff.mpr (fun msg _ => rfl)

theorem chars_characters :
    chars (characters.flatMap (fun entry => entry.1.map Token.frame ++ [.byte entry.2])) =
      characters.map Prod.snd := by
  induction characters with
  | nil => rfl
  | cons entry rest ih =>
    rw [flatMap_cons, chars_append, chars_append, chars_frames, ih]
    rfl

theorem chars_line (beforeReturn beforeNewline : List UbxMsg) :
    chars (Item.line characters beforeReturn beforeNewline).tokens =
      characters.map Prod.snd ++ [13, 10] := by
  have ending : chars (beforeReturn.map Token.frame ++
      .byte 13 :: (beforeNewline.map Token.frame ++ [.byte 10])) = [13, 10] := by
    rw [chars_append, chars_frames, nil_append]
    show 13 :: chars (beforeNewline.map Token.frame ++ [.byte 10]) = _
    rw [chars_append, chars_frames]
    rfl
  rw [Item.tokens, chars_append, chars_characters, ending]

theorem nmea_chars (inside : ∀ char ∈ text, LineChar char) (nmea : Nmea)
    (short : nmea.line.length + text.length ≤ 126) :
    text.foldl Nmea.receive nmea = { nmea with line := nmea.line ++ text } := by
  induction text generalizing nmea with
  | nil => rw [append_nil]; rfl
  | cons char rest ih =>
    obtain ⟨-, -, notReturn, notNewline⟩ := inside char mem_cons_self
    rw [length_cons] at short
    have added : nmea.receive char = { nmea with line := nmea.line ++ [char] } := by
      have free : (nmea.line ++ [char]).length ≠ lineSize - 1 := by
        rw [length_append, length_singleton, lineSize]
        omega
      unfold Nmea.receive
      rw [if_neg (by simp [notReturn, notNewline])]
      rw [if_neg free]
    rw [foldl_cons, added, ih
      (fun later isIn => inside later (mem_cons_of_mem _ isIn))
      { nmea with line := nmea.line ++ [char] }
      (by rw [length_append, length_singleton]; omega)]
    simp

theorem nmea_return (inside : ∀ char ∈ text, LineChar char) (some : text ≠ [])
    (published : List (List UInt8)) :
    ({ line := text, published := published } : Nmea).receive 13 =
      { line := [], published := published ++ [text] } := by
  obtain ⟨before, last, rfl⟩ : ∃ before last, text = before ++ [last] :=
    ⟨text.dropLast, text.getLast some, (dropLast_concat_getLast some).symm⟩
  have notNull := (inside last (by simp)).1
  have shown : (before ++ [last] ++ [0]).takeWhile (fun char => decide (char ≠ 0)) =
      before ++ [last] := by
    rw [takeWhile_append_of_pos]
    · simp
    · intro char isIn
      simpa using (inside char isIn).1
  have length : 1 < (before ++ [last] ++ [0]).length := by
    simp only [length_append, length_singleton]
    omega
  unfold Nmea.receive
  rw [if_pos (Or.inl rfl), List.getLast?_append_of_ne_nil _ (by simp)]
  dsimp only [List.getLast?_singleton]
  rw [if_pos notNull]
  unfold Nmea.send
  rw [if_pos length, shown]

theorem nmea_line (inside : ∀ char ∈ text, LineChar char) (some : 1 ≤ text.length)
    (short : text.length ≤ 126) (published : List (List UInt8)) :
    (text ++ [13, 10]).foldl Nmea.receive { line := [], published := published } =
      { line := [], published := published ++ [text] } := by
  have nonempty : text ≠ [] := by
    rintro rfl
    exact absurd some (by decide)
  rw [foldl_append, nmea_chars inside _ (by rw [length_nil]; omega), nil_append,
    foldl_cons, nmea_return inside nonempty]
  rfl

theorem lines_append (first second : List Item) :
    lines (first ++ second) = lines first ++ lines second :=
  filterMap_append

theorem nmea_items (valid : ∀ item ∈ items, item.Valid) (published : List (List UInt8)) :
    (chars (tokens items)).foldl Nmea.receive { line := [], published := published } =
      { line := [], published := published ++ lines items } := by
  induction items generalizing published with
  | nil => rw [lines, filterMap_nil, append_nil]; rfl
  | cons item rest ih =>
    have one := valid item mem_cons_self
    have others := ih (fun later isIn => valid later (mem_cons_of_mem _ isIn))
    have split : lines (item :: rest) = lines [item] ++ lines rest := lines_append [item] rest
    rw [tokens, flatMap_cons, chars_append, foldl_append, split, ← append_assoc]
    cases item with
    | message msg =>
      have none : lines [.message msg] = [] := rfl
      rw [none, append_nil]
      exact others published
    | line characters beforeReturn beforeNewline =>
      have text : lines [.line characters beforeReturn beforeNewline] =
          [characters.map Prod.snd] := rfl
      have inside : ∀ char ∈ characters.map Prod.snd, LineChar char := one.chars
      have lengths := one.lengths _ (by rw [text]; exact mem_singleton.mpr rfl)
      rw [chars_line, nmea_line inside lengths.1 lengths.2, text]
      exact others _

/-- The messages of a stream are delivered, in any division into reads. -/
def DeliversMessages (gps : Ubgps) : Prop :=
  ∀ items : List Item, (∀ item ∈ items, item.Valid) → ∀ reads : List (List UInt8),
    reads.flatten = encode items →
      (gps.receive reads).delivered = gps.delivered ++ messages items

/-- The lines of a stream are published, in any division into reads. -/
def PublishesLines (gps : Ubgps) : Prop :=
  ∀ items : List Item, (∀ item ∈ items, item.Valid) → ∀ reads : List (List UInt8),
    reads.flatten = encode items →
      (gps.receive reads).nmea.published = gps.nmea.published ++ lines items

theorem valid_frames (valid : ∀ item ∈ items, item.Valid) :
    ∀ msg ∈ frames (tokens items), msg.Valid := by
  induction items with
  | nil => exact fun msg isIn => absurd isIn not_mem_nil
  | cons item rest ih =>
    intro msg isIn
    rw [tokens, flatMap_cons, frames_append] at isIn
    rcases mem_append.mp isIn with inItem | inRest
    · exact (valid item mem_cons_self).frames msg inItem
    · exact ih (fun later isIn => valid later (mem_cons_of_mem _ isIn))
        msg inRest

theorem valid_chars (valid : ∀ item ∈ items, item.Valid) :
    ∀ data ∈ chars (tokens items), data ≠ syncChar1 := by
  induction items with
  | nil => exact fun data isIn => absurd isIn not_mem_nil
  | cons item rest ih =>
    intro data isIn
    rw [tokens, flatMap_cons, chars_append] at isIn
    rcases mem_append.mp isIn with inItem | inRest
    · cases item with
      | message msg => exact absurd inItem not_mem_nil
      | line characters beforeReturn beforeNewline =>
        rw [chars_line] at inItem
        rcases mem_append.mp inItem with inText | inEnd
        · exact ((valid _ mem_cons_self).chars data inText).2.1
        · have ends : ∀ char ∈ ([13, 10] : List UInt8), char ≠ syncChar1 := by
            simp [syncChar1]
          exact ends data inEnd
    · exact ih (fun later isIn => valid later (mem_cons_of_mem _ isIn))
        data inRest

theorem delivers_of_waiting (waiting : gps.ubx.Waiting) : DeliversMessages gps := by
  intro items valid reads same
  obtain ⟨ubx, -, fed⟩ := feed_tokens (valid_frames valid) (valid_chars valid) gps waiting
  rw [receive_eq_feed, same, encode, fed]
  rfl

theorem publishes_of_empty (waiting : gps.ubx.Waiting) (empty : gps.nmea.line = []) :
    PublishesLines gps := by
  intro items valid reads same
  obtain ⟨ubx, -, fed⟩ := feed_tokens (valid_frames valid) (valid_chars valid) gps waiting
  have nmea : gps.nmea = { line := [], published := gps.nmea.published } := by
    rw [← empty]
  have all := nmea_items valid gps.nmea.published
  rw [← nmea] at all
  rw [receive_eq_feed, same, encode, fed]
  rw [all]

/-- A receiver that does not wait has its timer running. -/
structure Receiver.Settled (receiver : Receiver) : Prop where
  sums : receiver.state = .wait → receiver.ckA = 0 ∧ receiver.ckB = 0
  timer : receiver.state ≠ .wait → receiver.receiveTimer = true

theorem Receiver.Waiting.settled (waiting : receiver.Waiting) : receiver.Settled :=
  ⟨fun _ => ⟨waiting.ckA, waiting.ckB⟩, fun other => absurd waiting.state other⟩

section

variable (settled : receiver.Settled) (data : UInt8)
include settled

theorem summed_settled : (receiver.summed data).Settled := by
  cases state : receiver.state with
  | header =>
    rw [summed_header state]
    exact ⟨fun isWait => absurd (state.symm.trans isWait) (by decide), settled.timer⟩
  | payload =>
    rw [summed_payload state]
    exact ⟨fun isWait => absurd (state.symm.trans isWait) (by decide), settled.timer⟩
  | wait | sync | checksum1 | checksum2 => unfold Receiver.summed; rw [state]; exact settled

theorem tryReceive_settled : (receiver.tryReceive data).1.Settled := by
  have running : receiver.state ≠ .wait → receiver.receiveTimer = true := settled.timer
  unfold Receiver.tryReceive
  cases state : receiver.state with
  | wait =>
    dsimp only
    split
    · exact ⟨fun isWait => absurd isWait (by simp), fun _ => rfl⟩
    · exact settled
  | sync =>
    dsimp only
    split
    · exact (reset_waiting _).settled
    · exact ⟨fun isWait => absurd isWait (by simp), fun _ => running (by simp [state])⟩
  | header =>
    dsimp only
    split
    · exact ⟨fun isWait => absurd isWait (by simp), fun _ => running (by simp [state])⟩
    · split
      · exact (reset_waiting _).settled
      · refine ⟨?_, fun _ => running (by simp [state])⟩
        intro isWait
        split at isWait <;> cases isWait
  | payload =>
    refine ⟨?_, fun _ => running (by simp [state])⟩
    intro isWait
    dsimp only at isWait
    split at isWait <;> cases isWait
  | checksum1 =>
    dsimp only
    split
    · exact (reset_waiting _).settled
    · exact ⟨fun isWait => absurd isWait (by simp), fun _ => running (by simp [state])⟩
  | checksum2 =>
    dsimp only
    split
    · exact (reset_waiting _).settled
    · exact (acknowledged_reset_waiting _).settled

theorem msgReceive_settled : (receiver.msgReceive data).1.Settled := by
  have first := tryReceive_settled (summed_settled settled data) data
  unfold Receiver.msgReceive
  split
  · next next same =>
    rw [same] at first
    exact tryReceive_settled (summed_settled first data) data
  all_goals next same => rw [same] at first; exact first

end

theorem feed_settled (settled : gps.ubx.Settled) (bytes : List UInt8) :
    (gps.feed bytes).ubx.Settled := by
  induction bytes generalizing gps with
  | nil => exact settled
  | cons data rest ih =>
    have one := msgReceive_settled settled data
    have received : (gps.receiveByte data).ubx = (gps.ubx.msgReceive data).1 := by
      unfold Ubgps.receiveByte
      split <;> next same => rw [same]
    exact ih (by rw [received]; exact one)

theorem timeout_waiting (settled : receiver.Settled) : (receiver.timeout .receive).Waiting := by
  unfold Receiver.timeout
  by_cases timer : receiver.receiveTimer = true
  · rw [if_pos timer]
    exact reset_waiting receiver
  · rw [if_neg timer]
    have waits : receiver.state = .wait := by
      by_contra other
      exact timer (settled.timer other)
    exact ⟨waits, (settled.sums waits).1, (settled.sums waits).2⟩

theorem line_end_empties (ends : ending = 13 ∨ ending = 10) (other : nmea.line ≠ [0]) :
    (nmea.receive ending).line = [] := by
  unfold Nmea.receive
  rw [if_pos ends]
  cases last : nmea.line.getLast? with
  | none => exact List.getLast?_eq_none_iff.mp last
  | some char =>
    have some : nmea.line ≠ [] := by
      intro none
      rw [none] at last
      cases last
    have positive := length_pos_iff.mpr some
    dsimp only
    by_cases notNull : char ≠ 0
    · rw [if_pos notNull]
      unfold Nmea.send
      rw [if_pos (by rw [length_append, length_singleton]; omega)]
    · rw [if_neg notNull]
      have long : 1 < nmea.line.length := by
        by_contra short
        obtain ⟨single, isSingle⟩ := length_eq_one_iff.mp (show nmea.line.length = 1 by omega)
        rw [isSingle] at last other
        have same : single = char := Option.some.inj last
        exact other (by rw [same, not_not.mp notNull])
      unfold Nmea.send
      rw [if_pos long]

theorem line_end_keeps (ends : ending = 13 ∨ ending = 10) (alone : nmea.line = [0]) :
    nmea.receive ending = nmea := by
  unfold Nmea.receive
  rw [if_pos ends, alone]
  dsimp only [List.getLast?_singleton]
  rw [if_neg (by simp)]
  unfold Nmea.send
  rw [if_neg (by rw [alone]; decide)]

theorem not_publishes_of_nul (waiting : gps.ubx.Waiting) (alone : gps.nmea.line = [0]) :
    ¬ PublishesLines gps := by
  intro publishes
  have valid : ∀ item ∈ [Item.line [([], 65)] [] []], item.Valid := by
    intro item isIn
    rw [mem_singleton.mp isIn]
    refine ⟨fun msg isIn => absurd isIn not_mem_nil, ?_, ?_⟩
    · intro char isIn
      rw [mem_singleton.mp isIn]
      exact ⟨by decide, by decide, by decide, by decide⟩
    · intro text isIn
      rw [mem_singleton.mp isIn]
      decide
  have read := publishes _ valid [[65, 13, 10]] rfl
  obtain ⟨ubx, -, fed⟩ := feed_tokens (valid_frames valid) (valid_chars valid) gps waiting
  have nmea : gps.nmea = { line := [0], published := gps.nmea.published } := by
    rw [← alone]
  have wrong : ([65, 13, 10] : List UInt8).foldl Nmea.receive gps.nmea =
      { line := [], published := gps.nmea.published ++ [[]] } := by
    rw [nmea]
    rfl
  have bytes : ([[65, 13, 10]] : List (List UInt8)).flatten =
      (tokens [Item.line [([], 65)] [] []]).flatMap Token.encode := rfl
  rw [receive_eq_feed, bytes, fed] at read
  have isChars : chars (tokens [Item.line [([], 65)] [] []]) = [65, 13, 10] := rfl
  rw [isChars, wrong] at read
  have last := append_cancel_left read
  exact absurd last (by decide)

/-- Streams are received from the initial state, and messages after any garbage and a
receive timeout. Lines are received after a garbage line that was ended just when that
line was not a lone NUL. -/
theorem streams_round_trip (garbage : List (List UInt8)) (ending : UInt8)
    (ends : ending = 13 ∨ ending = 10) :
    DeliversMessages Ubgps.initial ∧ PublishesLines Ubgps.initial ∧
      DeliversMessages ((Ubgps.initial.receive garbage).timeout .receive) ∧
      (DeliversMessages
            (((Ubgps.initial.receive garbage).timeout .receive).receiveByte ending) ∧
          PublishesLines
            (((Ubgps.initial.receive garbage).timeout .receive).receiveByte ending) ↔
        (Ubgps.initial.receive garbage).nmea.line ≠ [0]) := by
  have start : Ubgps.initial.ubx.Waiting := ⟨rfl, rfl, rfl⟩
  have settled : (Ubgps.initial.receive garbage).ubx.Settled := by
    rw [receive_eq_feed]
    exact feed_settled start.settled _
  have waiting := timeout_waiting settled
  refine ⟨delivers_of_waiting start, publishes_of_empty start rfl,
    delivers_of_waiting waiting, ?_⟩
  have other : ending ≠ syncChar1 := by
    rcases ends with rfl | rfl <;> decide
  have ended : ((Ubgps.initial.receive garbage).timeout .receive).receiveByte ending =
      { (Ubgps.initial.receive garbage).timeout .receive with
        nmea := (Ubgps.initial.receive garbage).nmea.receive ending } :=
    feed_byte other waiting
  rw [ended]
  constructor
  · intro both alone
    refine not_publishes_of_nul waiting ?_ both.2
    rw [line_end_keeps ends alone, alone]
  · intro notAlone
    exact ⟨delivers_of_waiting waiting,
      publishes_of_empty waiting (line_end_empties ends notAlone)⟩

/-- Garbage, a receive timeout and the end of the garbage line leave nothing behind. -/
theorem garbage_is_survived :
    DeliversMessages
        (((Ubgps.initial.receive [[36, 0, 71], [0xB5]]).timeout .receive).receiveByte 13) ∧
      PublishesLines
        (((Ubgps.initial.receive [[36, 0, 71], [0xB5]]).timeout .receive).receiveByte 13) :=
  (streams_round_trip [[36, 0, 71], [0xB5]] 13 (Or.inl rfl)).2.2.2.mpr (by decide)

/-- A NUL before the line end stays in the buffer, and the next line is an empty string. -/
theorem lone_nul_spoils_a_line :
    (Ubgps.initial.receive [[0, 0xB5]]).ubx.receiveTimer = true ∧
      ¬ PublishesLines
        (((Ubgps.initial.receive [[0, 0xB5]]).timeout .receive).receiveByte 13) :=
  ⟨rfl, not_publishes_of_nul ⟨rfl, rfl, rfl⟩ rfl⟩

end Thingsee.Gps
