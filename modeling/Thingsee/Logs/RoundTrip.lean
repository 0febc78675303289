import Thingsee.Logs.Reader

/-!
Owns the round trip of a log line: `serialize_payload` and then `deserialize_payload`.

The reader scans the text of a value into 32 characters, and the writer renders it
into 128. `payload_round_trips_iff` is the bound between them.
-/

namespace Thingsee.Logs

open Support List

variable {payload : Payload} {char : UInt8}

/-- The parts of a line with the end of the line behind the last one. -/
def terminated : List (List UInt8) → List (List UInt8)
  | [] => []
  | [part] => [part ++ [10]]
  | part :: next :: rest => part :: terminated (next :: rest)

theorem terminated_cons (part : List UInt8) (rest : List (List UInt8)) :
    ∃ tail, PartEnd tail ∧ terminated (part :: rest) = (part ++ tail) :: terminated rest := by
  cases rest with
  | nil => exact ⟨[10], Or.inr rfl, rfl⟩
  | cons next rest => exact ⟨[], Or.inl rfl, by rw [terminated, append_nil]⟩

variable {parts : List (List UInt8)} {number : Int} {text : List UInt8}

theorem mem_terminated {part : List UInt8} (isIn : part ∈ parts) :
    ∃ tail, PartEnd tail ∧ part ++ tail ∈ terminated parts := by
  induction parts with
  | nil => exact absurd isIn not_mem_nil
  | cons first rest ih =>
    obtain ⟨tail, ends, same⟩ := terminated_cons first rest
    rw [same]
    rcases mem_cons.mp isIn with rfl | isIn
    · exact ⟨tail, ends, mem_cons_self⟩
    · obtain ⟨later, ends, isIn⟩ := ih isIn
      exact ⟨later, ends, mem_cons_of_mem _ isIn⟩

theorem of_mem_terminated {token : List UInt8} (isIn : token ∈ terminated parts) :
    ∃ part ∈ parts, ∃ tail, PartEnd tail ∧ token = part ++ tail := by
  induction parts with
  | nil => exact absurd isIn not_mem_nil
  | cons first rest ih =>
    obtain ⟨tail, ends, same⟩ := terminated_cons first rest
    rw [same] at isIn
    rcases mem_cons.mp isIn with rfl | isIn
    · exact ⟨first, mem_cons_self, tail, ends, rfl⟩
    · obtain ⟨part, inRest, later⟩ := ih isIn
      exact ⟨part, mem_cons_of_mem _ inRest, later⟩

theorem terminated_join (first : List UInt8) (rest : List (List UInt8)) :
    ∃ head tail, terminated (first :: rest) = head :: tail ∧
      (first ++ rest.flatMap (fun token => 59 :: token)) ++ [10] =
        head ++ tail.flatMap (fun token => 59 :: token) := by
  induction rest generalizing first with
  | nil => exact ⟨first ++ [10], [], rfl, by simp⟩
  | cons next rest ih =>
    obtain ⟨head, tail, parts, joined⟩ := ih next
    refine ⟨first, head :: tail, by rw [terminated, parts], ?_⟩
    rw [flatMap_cons, flatMap_cons, append_assoc, cons_append,
      cons_append, cons_append, joined]

theorem strtok_line {first : List UInt8} {rest : List (List UInt8)}
    (separate : Tokens 59 (first :: rest)) :
    strtok 59 ((first ++ rest.flatMap (fun token => 59 :: token)) ++ [10]) =
      terminated (first :: rest) := by
  obtain ⟨head, tail, parts, joined⟩ := terminated_join first rest
  rw [joined, parts]
  apply strtok_append_flatMap
  intro token isIn
  rw [← parts] at isIn
  obtain ⟨part, inParts, end', ends, rfl⟩ := of_mem_terminated isIn
  refine ⟨by simp [(separate part inParts).1], ?_⟩
  intro semicolon
  rcases mem_append.mp semicolon with inPart | inEnd
  · exact (separate part inParts).2 inPart
  · rcases ends with rfl | rfl
    · exact absurd inEnd not_mem_nil
    · exact absurd inEnd (by decide)

theorem ok_of_mapM {α β γ : Type} {read : α → Except γ β} {items : List α} {results : List β}
    (all : items.mapM read = .ok results) {item : α} (isIn : item ∈ items) :
    ∃ result, read item = .ok result := by
  induction items generalizing results with
  | nil => exact absurd isIn not_mem_nil
  | cons first rest ih =>
    rw [mapM_cons] at all
    cases ofFirst : read first with
    | error failure => rw [ofFirst] at all; exact absurd all (by intro same; cases same)
    | ok result =>
      cases ofRest : rest.mapM read with
      | error failure =>
        rw [ofFirst, ofRest] at all
        exact absurd all (by intro same; cases same)
      | ok others =>
        rcases mem_cons.mp isIn with rfl | isIn
        · exact ⟨result, ofFirst⟩
        · exact ih ofRest isIn

/-- A character of a line: neither its end nor a separator of its parts. -/
def InPart (char : UInt8) : Prop := char ≠ 0 ∧ char ≠ 10 ∧ char ≠ 59

theorem inPart_decimal (isIn : char ∈ decimal number) : InPart char := by
  obtain ⟨-, lower, upper⟩ := decimal_char isIn
  refine ⟨?_, ?_, ?_⟩
  all_goals
    rintro rfl
    first
      | exact absurd lower (by decide)
      | exact absurd upper (by decide)

theorem inPart_field (isIn : char ∈ field number) : InPart char := by
  rcases mem_cons.mp isIn with rfl | isIn
  · exact ⟨by decide, by decide, by decide⟩
  · exact inPart_decimal isIn

theorem inPart_time {ts : Timespec} (isIn : char ∈ ts.print) : InPart char := by
  rcases mem_append.mp isIn with inSec | inNsec
  · exact inPart_field inSec
  · exact inPart_field inNsec

theorem Named.inPart (named : Named text) (isIn : char ∈ text) : InPart char := by
  obtain ⟨notNull, -, notSemicolon, visible⟩ := named.plain char isIn
  refine ⟨notNull, ?_, notSemicolon⟩
  rintro rfl
  exact absurd visible (by decide)

theorem inPart_state {state : Ids} (named : Named state.pId) (isIn : char ∈ state.print) :
    InPart char := by
  rcases mem_append.mp isIn with inName | isIn
  · exact named.inPart inName
  rcases mem_append.mp isIn with inPu | isIn
  · exact inPart_field inPu
  rcases mem_append.mp isIn with inSt | isIn
  · exact inPart_field inSt
  rcases mem_append.mp isIn with inEv | inTime
  · exact inPart_field inEv
  · exact inPart_time inTime

theorem inPart_sense {sense : Sense} (named : Named sense.name) (plain : sense.value.Plain)
    (isIn : char ∈ sense.text) : InPart char := by
  have comma : InPart 44 := ⟨by decide, by decide, by decide⟩
  rcases mem_append.mp isIn with inName | isIn
  · exact named.inPart inName
  rcases mem_cons.mp isIn with rfl | isIn
  · exact comma
  rcases mem_append.mp isIn with inId | isIn
  · obtain ⟨notNull, notNewline, -, notSemicolon⟩ := senseId_char inId
    exact ⟨notNull, notNewline, notSemicolon⟩
  rcases mem_cons.mp isIn with rfl | isIn
  · exact comma
  rcases mem_append.mp isIn with inValue | inTime
  · obtain ⟨notNull, notNewline, -, notSemicolon⟩ := mem_value_text plain inValue
    exact ⟨notNull, notNewline, notSemicolon⟩
  · exact inPart_time inTime

theorem Payload.Writable.mem_line (writable : payload.Writable) (isIn : char ∈ payload.line) :
    char ≠ 0 ∧ char ≠ 10 := by
  rcases mem_append.mp isIn with inState | inSenses
  · have inside := inPart_state writable.profile inState
    exact ⟨inside.1, inside.2.1⟩
  · obtain ⟨sense, isSense, inSense⟩ := mem_flatMap.mp inSenses
    rcases mem_cons.mp inSense with rfl | inText
    · decide
    · have inside := inPart_sense (writable.names sense isSense)
        (writable.values sense isSense) inText
      exact ⟨inside.1, inside.2.1⟩

theorem Payload.Writable.tokens (writable : payload.Writable) :
    Tokens 59 (payload.state.print :: payload.senses.map Sense.text) := by
  intro token isIn
  rcases mem_cons.mp isIn with rfl | isIn
  · refine ⟨?_, fun semicolon => (inPart_state writable.profile semicolon).2.2 rfl⟩
    intro none
    exact writable.profile.nonempty (append_eq_nil_iff.mp none).1
  · obtain ⟨sense, isSense, rfl⟩ := mem_map.mp isIn
    refine ⟨?_, fun semicolon => (inPart_sense (writable.names sense isSense)
      (writable.values sense isSense) semicolon).2.2 rfl⟩
    intro none
    exact (writable.names sense isSense).nonempty (append_eq_nil_iff.mp none).1

theorem mapM_causes {senses : List Sense}
    (names : ∀ sense ∈ senses, Named sense.name)
    (values : ∀ sense ∈ senses, sense.value.Plain)
    (short : ∀ sense ∈ senses, sense.value.width ≤ 31) :
    (terminated (senses.map Sense.text)).mapM deserializeCause = .ok senses := by
  induction senses with
  | nil => rfl
  | cons sense rest ih =>
    obtain ⟨tail, ends, same⟩ := terminated_cons sense.text (rest.map Sense.text)
    have width := short sense mem_cons_self
    have others := ih
      (fun later isIn => names later (mem_cons_of_mem _ isIn))
      (fun later isIn => values later (mem_cons_of_mem _ isIn))
      (fun later isIn => short later (mem_cons_of_mem _ isIn))
    rw [map_cons, same, mapM_cons,
      deserializeCause_text (names sense mem_cons_self)
        (values sense mem_cons_self) (by omega) ends,
      if_neg (by omega), others]
    rfl

theorem reads_back_iff (writable : payload.Writable) :
    deserializePayload (payload.line ++ [10]) = .ok payload ↔
      ∀ sense ∈ payload.senses, sense.value.width ≤ 31 := by
  have joined : payload.line = payload.state.print ++
      (payload.senses.map Sense.text).flatMap (fun token => 59 :: token) := by
    rw [Payload.line, flatMap_map]
  have tokens : strtok 59 (payload.line ++ [10]) =
      terminated (payload.state.print :: payload.senses.map Sense.text) := by
    rw [joined, strtok_line writable.tokens]
  obtain ⟨tail, ends, same⟩ :=
    terminated_cons payload.state.print (payload.senses.map Sense.text)
  have state := deserializeState_print writable.profile ends
  have read : deserializePayload (payload.line ++ [10]) =
      ((terminated (payload.senses.map Sense.text)).mapM deserializeCause).map
        (fun senses => ⟨payload.state, senses⟩) := by
    unfold deserializePayload
    rw [tokens, same, headD_cons, state]
    rfl
  rw [read]
  constructor
  · intro readBack sense isSense
    by_contra long
    cases causes : (terminated (payload.senses.map Sense.text)).mapM deserializeCause with
    | error failure =>
      rw [causes] at readBack
      exact absurd readBack (by intro same; cases same)
    | ok senses =>
      obtain ⟨later, ends, isPart⟩ := mem_terminated (mem_map_of_mem (f := Sense.text) isSense)
      obtain ⟨result, isResult⟩ := ok_of_mapM causes isPart
      rw [deserializeCause_text (writable.names sense isSense) (writable.values sense isSense)
        (writable.widths sense isSense) ends, if_pos (by omega)] at isResult
      cases isResult
  · intro short
    rw [mapM_causes writable.names writable.values short]
    rfl

/-- One line is written inside its buffer, and reading it gives the payload again. A read
that overruns a buffer gives none. -/
def Payload.RoundTrips (payload : Payload) : Prop :=
  (serializePayload payload).2.length ≤ (serializePayload payload).1 ∧
    (∃ text, (serializePayload payload).2 = text ++ [10, 0] ∧ 10 ∉ text ∧ 0 ∉ text) ∧
    deserializePayload ((serializePayload payload).2.takeWhile (fun char => decide (char ≠ 0))) =
      .ok payload

theorem Payload.Writable.string (writable : payload.Writable) :
    (serializePayload payload).2.takeWhile (fun char => decide (char ≠ 0)) =
      payload.line ++ [10] := by
  have split : payload.line ++ [10, 0] = (payload.line ++ [10]) ++ [0] := by simp
  rw [(serializePayload_spec writable).1, split, takeWhile_append_of_pos]
  · simp
  · intro char isIn
    rcases mem_append.mp isIn with inLine | newline
    · simpa using (writable.mem_line inLine).1
    · rw [mem_singleton.mp newline]
      decide

/-- A payload comes back from its line just when every value has at most 31 characters:
the buffer of the reader holds 32, with the end of the string. -/
theorem payload_round_trips_iff {payload : Payload} (writable : payload.Writable) :
    payload.RoundTrips ↔ ∀ sense ∈ payload.senses, sense.value.width ≤ 31 := by
  have written := serializePayload_spec writable
  unfold Payload.RoundTrips
  rw [writable.string, reads_back_iff writable]
  refine ⟨fun all => all.2.2, fun short => ⟨written.2, ⟨payload.line, written.1, ?_, ?_⟩, short⟩⟩
  · exact fun isIn => (writable.mem_line isIn).2 rfl
  · exact fun isIn => (writable.mem_line isIn).1 rfl

def onePayload (text : List UInt8) : Payload :=
  { state := { pId := [112], puId := 1, stId := 2, evId := 3, ts := ⟨1449500000, 5⟩ }
    senses := [{ name := [99], sId := 65792, value := .scalar (.string text),
                 ts := ⟨1449500001, 6⟩ }] }

theorem onePayload_writable (plain : Plain text) (short : text.length < 126) :
    (onePayload text).Writable := by
  have named (char : UInt8) (visible : Plain [char]) : Named [char] :=
    ⟨by simp, by simp, visible⟩
  refine ⟨named 112 (by decide), ?_, ?_, ?_⟩
  · intro sense isSense
    rw [mem_singleton.mp isSense]
    exact named 99 (by decide)
  · intro sense isSense
    rw [mem_singleton.mp isSense]
    exact plain
  · intro sense isSense
    rw [mem_singleton.mp isSense]
    show 2 + text.length < 128
    omega

/-- A string of 29 characters comes back, and so does every payload with it. -/
theorem short_string_comes_back :
    (onePayload (List.replicate 29 65)).Writable ∧
      (onePayload (List.replicate 29 65)).RoundTrips := by
  have plain : Plain (List.replicate 29 65) := by decide
  have writable := onePayload_writable plain (by decide)
  refine ⟨writable, (payload_round_trips_iff writable).mpr ?_⟩
  intro sense isSense
  rw [mem_singleton.mp isSense]
  decide

/-- A string of 30 characters is written, and the reader stores it outside its buffer. -/
theorem long_string_overruns :
    (onePayload (List.replicate 30 65)).Writable ∧
      ¬ (onePayload (List.replicate 30 65)).RoundTrips := by
  have plain : Plain (List.replicate 30 65) := by decide
  have writable := onePayload_writable plain (by decide)
  refine ⟨writable, ?_⟩
  intro comesBack
  have short := (reads_back_iff writable).mp (by rw [← writable.string]; exact comesBack.2.2)
  exact absurd (short _ (mem_singleton.mpr rfl)) (by decide)

end Thingsee.Logs
