import Thingsee.Modem.Abandoned

/-!
Owns what becomes of a line of a plain response: the string that is decoded from the stream
is the line, for any length, exactly where no separator of names stands behind a full state
buffer, no unsolicited name differs from the beginning of the line in its case alone, and no
abandoned line left a string open.
-/

namespace Thingsee.Modem

open Support List

variable {n : Nat}

namespace Parser

/-- What is taken for the response name of a line: its text up to a colon, as much as fits. -/
def nameOf (line : List UInt8) : List UInt8 :=
  (line.takeWhile fun char => char != 58).take (statebufSize - 1)

/-- A line of printable characters that is no final response and none of a registered
unsolicited handler, and fits the stream. -/
structure PlainLine (registry : Registry n) (line : List UInt8) : Prop where
  printable : line.all isVisibleAtAscii = true
  starts : ∃ first, line.head? = some first ∧ first ≠ 32 ∧ first ≠ 58 ∧ first ≠ 64 ∧ first ≠ 62
  notFinal : nameOf line ∉ [nameOk, nameError, nameCmeError, nameCmsError]
  notUrc : ∀ index, (registry.urcs index).active = true →
    (registry.urcs index).cmd.name ≠ nameOf line
  fits : (encodeString line).length ≤ maxResponseStreamLen

/-- The line is given to the active command as its only parameter: with a callback for the
line, or in the stream that `OK` passes on. -/
def Delivered (reaction : Reaction n) (parser : Parser n) (line : List UInt8) : Prop :=
  let cmd := parser.registry.command.cmd
  let read := parser.parseBuffer reaction (line ++ [13, 10])
  ∃ stream, readParams cmd.respFormat stream = some ([.bytes line], []) ∧
    if cmd.flagMultipleResp = true then
      ∃ call more, read.registry.log = parser.registry.log ++ .called call :: more ∧
        call.source = .command ∧ call.callback = parser.registry.command.callback ∧
        call.status = .line ∧ call.numParams = 1 ∧ call.stream = some stream
    else
      read.registry = parser.registry ∧ read.handler = some .command ∧
        read.reader.numParams = 1 ∧ read.reader.stream = stream ∧
        ∃ call more, (read.parseBuffer reaction (nameOk ++ [13, 10])).registry.log =
            parser.registry.log ++ .called call :: more ∧
          call.source = .command ∧ call.callback = parser.registry.command.callback ∧
          call.status = .ok ∧ call.numParams = 1 ∧ call.stream = some stream

/-- The state buffer is full where a prompt character comes. -/
def PromptBehindName (line : List UInt8) : Prop :=
  (nameOf line).length = statebufSize - 1 ∧
    ((line.drop (statebufSize - 1)).head? = some 64 ∨
      (line.drop (statebufSize - 1)).head? = some 62)

/-- No string is left open, the name is not cut off by a prompt character, and it is not that
of an unsolicited handler in another case. -/
structure Verbatim (parser : Parser n) (line : List UInt8) : Prop where
  closed : parser.reader.strlenPos = none
  noPrompt : ¬ PromptBehindName line
  otherCase : ∀ index, (parser.registry.urcs index).active = true →
    sameNameIgnoringCase (parser.registry.urcs index).cmd.name (nameOf line) = true →
      sameNameIgnoringCase parser.registry.command.cmd.name (nameOf line) = true

/-! ## The string of a line -/

variable {reader : Reader}

theorem plainByte_eq (isString : reader.fmt = .stringToEol) (char : UInt8) :
    plainByte reader char =
      if char = 32 ∧ reader.openString.strlen = 0 then reader.openString
      else reader.openString.streamPutChar char := by
  have isOpen : reader.openString.fmt = .stringToEol := by
    rw [(Reader.openString_frame reader).1, isString]
  rw [plainByte]
  simp only [Reader.formatByte, isString, isOpen, Bool.false_eq_true, false_and, false_or,
    reduceCtorEq, if_false]
  split <;> rfl

theorem foldl_plainByte_holding {start : Reader} {content : List UInt8} {quotes : UInt8}
    (isString : start.fmt = .stringToEol) (sameFmt : reader.fmt = .stringToEol)
    (opened : start.openString = reader.holding content quotes) (text : List UInt8)
    (kept : content = [] → text.head? ≠ some 32)
    (room : reader.stream.length + 2 + content.length + text.length ≤ maxResponseStreamLen) :
    (text.foldl plainByte start).openString = reader.holding (content ++ text) quotes := by
  induction text generalizing start content with
  | nil => rw [append_nil, foldl_nil, opened]
  | cons char rest ih =>
    rw [length_cons] at room
    have visible : ¬ (char = 32 ∧ start.openString.strlen = 0) := by
      rintro ⟨rfl, empty⟩
      rw [opened] at empty
      exact kept (eq_nil_of_length_eq_zero empty) rfl
    have byte : plainByte start char = reader.holding (content ++ [char]) quotes := by
      rw [plainByte_eq isString, if_neg visible, opened]
      exact Reader.streamPutChar_holding reader content quotes (by omega) char
    have opens : (reader.holding (content ++ [char]) quotes).openString =
        reader.holding (content ++ [char]) quotes := rfl
    have isFmt : (reader.holding (content ++ [char]) quotes).fmt = .stringToEol := sameFmt
    have tail := ih isFmt opens (fun empty => by simp at empty)
      (by rw [length_append, length_singleton]; omega)
    rw [foldl_cons, byte, tail, append_assoc]
    rfl

theorem openString_closed (closed : reader.strlenPos = none)
    (room : reader.stream.length + 2 ≤ maxResponseStreamLen) :
    reader.openString = reader.holding [] reader.quotes := by
  rw [Reader.openString, closed]
  exact Reader.streamGetStrlenpos_eq_holding room

theorem plainClosed_whole {parser : Parser n} {line : List UInt8} (name : List UInt8)
    (closed : parser.reader.strlenPos = none) (noSpace : line.head? ≠ some 32)
    (fits : (encodeString line).length ≤ maxResponseStreamLen) :
    (parser.plainClosed name line).stream = encodeString line := by
  have length : (encodeString line).length = 2 + line.length + 1 := by
    simp [encodeString, leBytes_length, Nat.add_assoc]
  let start : Reader :=
    { parser.reader with statebuf := name, numParams := 0, stream := [], fmt := .stringToEol }
  have empty : start.stream.length = 0 := rfl
  have opened : start.openString = start.holding [] start.quotes :=
    openString_closed closed (by rw [empty]; decide)
  have held : (line.foldl plainByte start).openString = start.holding line start.quotes :=
    foldl_plainByte_holding rfl rfl opened line (fun _ => noSpace)
      (by rw [empty]; omega)
  have stored : (start.holding line start.quotes).closeString.stream = encodeString line := by
    rw [Reader.closeString_holding start line start.quotes
      (by rw [empty, Nat.zero_add]; exact fits)]
    rfl
  rw [plainClosed]
  exact (congrArg (fun reader => (Reader.closeString reader).stream) held).trans stored

/-! ## Streams that are too short -/

theorem streamPutChar_length (reader : Reader) (char : UInt8) :
    (reader.streamPutChar char).stream.length ≤ reader.stream.length + 1 ∧
      (reader.streamPutChar char).strlenPos = reader.strlenPos := by
  rw [Reader.streamPutChar]
  split
  · exact ⟨by simp, rfl⟩
  · exact ⟨Nat.le_succ _, rfl⟩

/-- The bytes that a string may still take for its length. -/
def lengthBytes (reader : Reader) : Nat := if reader.strlenPos = none then 2 else 0

theorem openString_length (reader : Reader) :
    reader.openString.stream.length + lengthBytes reader.openString ≤
      reader.stream.length + lengthBytes reader := by
  cases position : reader.strlenPos with
  | some place =>
    have same : reader.openString = reader := by
      simp only [Reader.openString, position]
    rw [same]
  | none =>
    have opens : reader.openString = reader.streamGetStrlenpos := by
      simp only [Reader.openString, position]
    rw [opens]
    by_cases room : reader.hasRoom 2 = true
    · rw [Reader.streamGetStrlenpos, if_pos room]
      simp [lengthBytes, position]
    · rw [Reader.streamGetStrlenpos, if_neg room]
      simp [lengthBytes, position]

theorem plainByte_length (isString : reader.fmt = .stringToEol) (char : UInt8) :
    (plainByte reader char).stream.length + lengthBytes (plainByte reader char) ≤
      reader.stream.length + lengthBytes reader + 1 := by
  have opened := openString_length reader
  rw [plainByte_eq isString]
  split
  · omega
  · have put := streamPutChar_length reader.openString char
    rw [lengthBytes, put.2, ← lengthBytes]
    omega

theorem foldl_plainByte_length (isString : reader.fmt = .stringToEol) (text : List UInt8) :
    (text.foldl plainByte reader).stream.length + lengthBytes (text.foldl plainByte reader) ≤
      reader.stream.length + lengthBytes reader + text.length := by
  induction text generalizing reader with
  | nil => exact Nat.le_refl _
  | cons char rest ih =>
    have first := plainByte_length isString char
    have tail := ih (plainByte_frame isString char).1
    rw [foldl_cons, length_cons]
    omega

theorem closeString_length (reader : Reader) :
    reader.closeString.stream.length ≤ reader.stream.length + 1 := by
  rw [Reader.closeString]
  simp only [Reader.streamPut, Reader.streamSetStrlen]
  split <;> split <;> simp

theorem plainClosed_length_le (parser : Parser n) (name text : List UInt8) :
    (parser.plainClosed name text).stream.length ≤
      text.length + 1 + lengthBytes parser.reader := by
  let start : Reader :=
    { parser.reader with statebuf := name, numParams := 0, stream := [], fmt := .stringToEol }
  have fed : (parser.inPlain name text).reader.stream.length +
      lengthBytes (parser.inPlain name text).reader ≤
        0 + lengthBytes parser.reader + text.length :=
    @foldl_plainByte_length start rfl text
  have opened := openString_length (parser.inPlain name text).reader
  have shut := closeString_length (parser.inPlain name text).reader.openString
  rw [plainClosed]
  omega

theorem length_of_streamGetString {stream content rest : List UInt8}
    (got : streamGetString stream = some (content, rest)) :
    stream.length = content.length + rest.length + 3 := by
  rw [streamGetString, streamGetInt16, streamGetInt] at got
  by_cases short : stream.length < 2
  · rw [if_pos short] at got
    cases got
  · rw [if_neg short] at got
    simp only at got
    split at got
    · cases got
    · next enough =>
      have parts := Prod.mk.inj (Option.some.inj got)
      rw [← parts.1, ← parts.2]
      simp only [length_drop, length_take] at enough ⊢
      omega

theorem length_of_readParams {stream line : List UInt8}
    (decoded : readParams [.stringToEol] stream = some ([.bytes line], [])) :
    stream.length = line.length + 3 := by
  have only : readParams [.stringToEol] stream =
      (streamGetString stream).map fun result => ([Value.bytes result.1], result.2) := by
    cases got : streamGetString stream with
    | none | some result => simp [readParams, readParam, got]
  rw [only] at decoded
  obtain ⟨⟨content, rest⟩, got, same⟩ := Option.map_eq_some_iff.mp decoded
  cases same
  exact length_of_streamGetString got

end Parser

namespace Registry

theorem request_log (registry : Registry n) (asked : Request) :
    ∃ more, (registry.request asked).log = registry.log ++ more := by
  have sent (registry : Registry n) (cmd : Command) (callback : Nat) (written : Bool) :
      ∃ more, (registry.sendNow cmd callback written).log = registry.log ++ more := by
    rw [sendNow]
    split
    · exact ⟨[], (append_nil _).symm⟩
    · split <;> exact ⟨[.registered cmd callback], rfl⟩
  cases asked with
  | registerUrc cmd callback =>
    rw [request, registerUrc]
    split <;> exact ⟨[], (append_nil _).symm⟩
  | sendCmd cmd callback timediff written =>
    rw [request, sendCmd]
    split
    · exact ⟨[], (append_nil _).symm⟩
    · split
      · exact ⟨[], (append_nil _).symm⟩
      · exact sent registry cmd callback written
  | sendRaw cmd callback written => exact sent registry cmd callback written

theorem requests_log (registry : Registry n) (asked : List Request) :
    ∃ more, (asked.foldl request registry).log = registry.log ++ more := by
  induction asked generalizing registry with
  | nil => exact ⟨[], (append_nil _).symm⟩
  | cons first rest ih =>
    obtain ⟨early, firstLog⟩ := registry.request_log first
    obtain ⟨late, restLog⟩ := ih (registry.request first)
    exact ⟨early ++ late, by rw [foldl_cons, restLog, firstLog, append_assoc]⟩

theorem doCallback_log (reaction : Reaction n) (registry : Registry n) (handler : HandlerRef n)
    (status : RespStatus) (errorcode : Int) (numParams : Nat) (stream : Option (List UInt8)) :
    ∃ more, (registry.doCallback reaction handler status errorcode numParams stream).log =
      registry.log ++ .called
        { source := handler
          callback := registry.callbackOf handler
          cmd := registry.cmdOf handler
          status := status
          errorcode := errorcode
          numParams := numParams
          stream := stream
          commandActive := registry.command.active } :: more := by
  have disarmed : (registry.disarm handler).log = registry.log ∧
      (registry.disarm handler).callbackOf handler = registry.callbackOf handler ∧
      (registry.disarm handler).cmdOf handler = registry.cmdOf handler ∧
      (registry.disarm handler).command = registry.command := by
    cases handler <;> exact ⟨rfl, rfl, rfl, rfl⟩
  obtain ⟨log, callback, cmd, command⟩ := disarmed
  rw [doCallback, call, log, callback, cmd, command]
  obtain ⟨more, asked⟩ := requests_log _ (reaction _)
  refine ⟨more, asked.trans ?_⟩
  rw [append_assoc]
  rfl

theorem completeCommand_log (reaction : Reaction n) {registry : Registry n}
    (active : registry.command.active = true) (status : RespStatus) (errorcode : Int)
    (numParams : Nat) (stream : Option (List UInt8)) :
    ∃ more, (registry.completeCommand reaction status errorcode numParams stream).log =
      registry.log ++ .called
        { source := .command
          callback := registry.command.callback
          cmd := registry.command.cmd.toCmdDef
          status := status
          errorcode := errorcode
          numParams := numParams
          stream := stream
          commandActive := false } :: more := by
  rw [completeCommand, unregister_command active]
  exact doCallback_log reaction _ .command status errorcode numParams stream

end Registry

namespace Parser

/-! ## The end of a plain line -/

variable {registry : Registry n} (reaction : Reaction n) {index : Fin n} {char : UInt8}

theorem parseBuffer_ok_log {parser : Parser n} (atStart : parser.state = .reset)
    (active : parser.registry.command.active = true)
    (isPlain : parser.registry.command.cmd.flagPlain = true)
    (single : ¬ parser.registry.command.cmd.flagMultipleResp = true) :
    ∃ call more, (parser.parseBuffer reaction (nameOk ++ [13, 10])).registry.log =
        parser.registry.log ++ .called call :: more ∧
      call.source = .command ∧ call.callback = parser.registry.command.callback ∧
      call.status = .ok ∧ call.numParams = parser.reader.numParams ∧
      call.stream = some parser.reader.stream := by
  have routed : parser.registry.route nameOk = .completes .ok :=
    parser.registry.route_ok active fun named => by simp [named] at isPlain
  rw [parseBuffer_completes reaction parser atStart (by decide) routed]
  have inName : (parser.inName nameOk).registry.command.active = true := active
  obtain ⟨more, log⟩ := Registry.completeCommand_log reaction inName .ok
    (parser.finalInfo .ok).1 (parser.inName nameOk).reader.numParams (parser.finalInfo .ok).2
  refine ⟨_, more, log, rfl, rfl, rfl, rfl, ?_⟩
  have okStream : parser.okStream = parser.reader.stream := by
    rw [Parser.okStream, if_neg single]
  exact congrArg some okStream

theorem delivered_iff_closed {parser : Parser n} (active : parser.registry.command.active = true)
    (isPlain : parser.registry.command.cmd.flagPlain = true) {line name text : List UInt8}
    (ends : parser.parseBuffer reaction (line ++ [13]) =
      (parser.inPlain name text).doReadParam reaction 13 true) :
    Delivered reaction parser line ↔
      readParams [.stringToEol] (parser.plainClosed name text).stream =
        some ([.bytes line], []) := by
  have format := parser.registry.command.cmd.plainFormat isPlain
  rw [doReadParam_plainEnd reaction parser name text format] at ends
  have read : parser.parseBuffer reaction (line ++ [13, 10]) =
      (parser.parseBuffer reaction (line ++ [13])).parseByte reaction 10 := by
    rw [show line ++ [13, 10] = line ++ [13] ++ [10] by simp, parseBuffer_append]
    rfl
  have count := parser.plainClosed_numParams name text
  rw [Delivered, read, format]
  by_cases multiple : parser.registry.command.cmd.flagMultipleResp = true
  · simp only [if_pos multiple] at ends ⊢
    rw [ends]
    obtain ⟨more, log⟩ := Registry.doCallback_log reaction parser.registry .command .line
      parser.errorcode (parser.plainClosed name text).numParams
      (some (parser.plainClosed name text).stream)
    constructor
    · rintro ⟨stream, decoded, call, others, called, -, -, -, -, passed⟩
      have same := append_cancel_left (log.symm.trans called)
      obtain ⟨made, -⟩ := List.cons.inj same
      rw [← Event.called.inj made] at passed
      rw [Option.some.inj passed]
      exact decoded
    · intro decoded
      exact ⟨_, decoded, _, more, log, rfl, rfl, rfl, count, rfl⟩
  · simp only [if_neg multiple] at ends ⊢
    rw [ends]
    constructor
    · rintro ⟨stream, decoded, -, -, -, rfl, -⟩
      exact decoded
    · intro decoded
      refine ⟨_, decoded, rfl, rfl, count, rfl, ?_⟩
      obtain ⟨call, more, log, source, callback, status, numParams, stream⟩ :=
        @parseBuffer_ok_log n reaction
          { parser with
            state := .reset
            handler := some .command
            reader := (parser.plainClosed name text).clearParam }
          rfl active isPlain multiple
      exact ⟨call, more, log, source, callback, status, numParams.trans count, stream⟩

/-! ## The name of a line -/

theorem nameOf_front (line : List UInt8) : nameOf line <+: line :=
  ( take_prefix _ _).trans ( takeWhile_prefix _)

theorem nameOf_append (line : List UInt8) :
    nameOf line ++ line.drop (nameOf line).length = line :=
  (prefix_append_drop (nameOf_front line)).symm

theorem behind_nameOf {line : List UInt8} {rest : List UInt8}
    (behind : line.drop (nameOf line).length = char :: rest) :
    char = 58 ∨ (nameOf line).length = statebufSize - 1 := by
  by_cases full : (nameOf line).length = statebufSize - 1
  · exact .inr full
  · left
    have whole : nameOf line = line.takeWhile fun char => char != 58 := by
      rw [nameOf] at full ⊢
      rw [length_take] at full
      exact take_of_length_le (by omega)
    have parts := nameOf_append line
    rw [behind, whole] at parts
    have same : line.dropWhile (fun char => char != 58) = char :: rest := by
      refine append_cancel_left (Eq.trans ?_ parts.symm)
      exact takeWhile_append_dropWhile
    have stops := List.head?_dropWhile_not (fun char : UInt8 => char != 58) line
    rw [same] at stops
    simpa using stops

section

variable {line : List UInt8} (plain : PlainLine registry line)
include plain

theorem PlainLine.readable : isResponseName (nameOf line) = true := by
  obtain ⟨first, head, -, notColon, notData, notPdu⟩ := plain.starts
  obtain ⟨rest, rfl⟩ : ∃ rest, line = first :: rest := by
    cases line with
    | nil => cases head
    | cons char rest => exact ⟨rest, by rw [Option.some.inj head]⟩
  have isName : nameOf (first :: rest) =
      first :: (rest.takeWhile fun char => char != 58).take (statebufSize - 2) := by
    simp [nameOf, statebufSize, notColon]
  have short : (nameOf (first :: rest)).length ≤ statebufSize - 1 := length_take_le _ _
  have visible : (nameOf (first :: rest)).all
      (fun char => isVisibleAtAscii char && char != 58) = true := by
    rw [all_eq_true]
    intro char isIn
    have inLine := (nameOf_front (first :: rest)).subset isIn
    have named := all_eq_true.mp all_takeWhile char (mem_of_mem_take isIn)
    rw [Bool.and_eq_true]
    exact ⟨all_eq_true.mp plain.printable char inLine, named⟩
  rw [isName] at short visible ⊢
  simp only [isResponseName, Bool.and_eq_true, bne_iff_ne, decide_eq_true_eq]
  exact ⟨⟨⟨notData, notPdu⟩, short⟩, visible⟩

theorem PlainLine.inside (count : Nat) :
    (line.drop count).all (fun char => !isEndOfLine char) = true := by
  rw [all_eq_true]
  intro char isIn
  have visible := all_eq_true.mp plain.printable char (mem_of_mem_drop isIn)
  rw [not_endOfLine_of_visible visible]
  rfl

theorem PlainLine.split (noPrompt : ¬ PromptBehindName line) :
    plainSplit (nameOf line) (line.drop (nameOf line).length) = true := by
  have inside := plain.inside (nameOf line).length
  cases behind : line.drop (nameOf line).length with
  | nil => simp only [plainSplit, plain.readable, all_nil, Bool.true_and]
  | cons char rest =>
    rw [behind] at inside
    simp only [plainSplit, plain.readable, inside, Bool.true_and, Bool.or_eq_true,
      Bool.and_eq_true, beq_iff_eq, bne_iff_ne]
    refine (behind_nameOf behind).imp_right fun full => ?_
    have found : (line.drop (statebufSize - 1)).head? = some char := by
      rw [← full, behind]
      rfl
    refine ⟨⟨full, fun isData => ?_⟩, fun isPdu => ?_⟩
    · exact noPrompt ⟨full, .inl (isData ▸ found)⟩
    · exact noPrompt ⟨full, .inr (isPdu ▸ found)⟩

end

/-! ## Where a line leads -/

theorem route_plain (active : registry.command.active = true)
    (isPlain : registry.command.cmd.flagPlain = true) {name : List UInt8}
    (notFinal : name ∉ [nameOk, nameError, nameCmeError, nameCmsError])
    (notPrompt : name ≠ nameDataPrompt ∧ name ≠ namePduPrompt) :
    registry.route name = registry.routeOther name true := by
  simp only [mem_cons, not_mem_nil, or_false, not_or] at notFinal
  obtain ⟨notOk, notError, notCme, notCms⟩ := notFinal
  simp only [Registry.route, active, isPlain, notOk, notError, notCme, notCms, notPrompt.1,
    notPrompt.2, Bool.true_eq_false, false_and, and_false, or_false, if_true, if_false]

theorem PlainLine.route (active : registry.command.active = true)
    (isPlain : registry.command.cmd.flagPlain = true) {line : List UInt8}
    (plain : PlainLine registry line) :
    registry.route (nameOf line) = registry.routeOther (nameOf line) true := by
  have readable := plain.readable
  refine route_plain active isPlain plain.notFinal ⟨fun same => ?_, fun same => ?_⟩
  · rw [same] at readable
    cases readable
  · rw [same] at readable
    cases readable

theorem routeOther_plain (registry : Registry n) (name : List UInt8) :
    registry.routeOther name true = .readsPlain ∧
        (∀ index, (registry.urcs index).active = true →
          sameNameIgnoringCase (registry.urcs index).cmd.name name = true →
            registry.command.active = true ∧
              sameNameIgnoringCase registry.command.cmd.name name = true) ∨
      ∃ index, registry.routeOther name true = .reads (.urc index) ∧
        (registry.urcs index).active = true ∧
        sameNameIgnoringCase (registry.urcs index).cmd.name name = true ∧
        ¬ (registry.command.active = true ∧
          sameNameIgnoringCase registry.command.cmd.name name = true) := by
  rw [Registry.routeOther, Registry.findResponseHandlerByName]
  by_cases own : registry.command.active = true ∧
      sameNameIgnoringCase registry.command.cmd.name name = true
  · rw [if_pos own]
    exact .inl ⟨rfl, fun _ _ _ => own⟩
  · rw [if_neg own]
    cases found : (List.finRange n).find? (registry.urcMatches name) with
    | none =>
      refine .inl ⟨rfl, fun index active same => ?_⟩
      have missed := List.find?_eq_none.mp found index (mem_finRange index)
      exact absurd (by rw [Registry.urcMatches, active, same]; rfl) missed
    | some index =>
      have matched := List.find?_some found
      rw [Registry.urcMatches, Bool.and_eq_true] at matched
      exact .inr ⟨index, rfl, matched.1, matched.2, own⟩

/-! ## Lines that are not delivered -/

theorem not_delivered_of_called {reaction : Reaction n} {parser : Parser n} {line : List UInt8}
    {made : Callback n} {others : List (Event n)}
    (log : (parser.parseBuffer reaction (line ++ [13, 10])).registry.log =
      parser.registry.log ++ .called made :: others)
    (other : made.source = .command → made.status ≠ .line) :
    ¬ Delivered reaction parser line := by
  rintro ⟨stream, -, delivered⟩
  by_cases multiple : parser.registry.command.cmd.flagMultipleResp = true
  · rw [if_pos multiple] at delivered
    obtain ⟨call, more, called, source, -, status, -, -⟩ := delivered
    obtain ⟨same, -⟩ := List.cons.inj (append_cancel_left (log.symm.trans called))
    rw [← Event.called.inj same] at source status
    exact other source status
  · rw [if_neg multiple] at delivered
    have none := log.symm.trans (congrArg Registry.log delivered.1)
    exact cons_ne_nil _ _ (append_right_eq_self.mp none)

theorem not_delivered_of_handler {reaction : Reaction n} {parser : Parser n} {line : List UInt8}
    (registry : (parser.parseBuffer reaction (line ++ [13, 10])).registry = parser.registry)
    (other : (parser.parseBuffer reaction (line ++ [13, 10])).handler ≠ some .command) :
    ¬ Delivered reaction parser line := by
  rintro ⟨stream, -, delivered⟩
  by_cases multiple : parser.registry.command.cmd.flagMultipleResp = true
  · rw [if_pos multiple] at delivered
    obtain ⟨call, more, called, -⟩ := delivered
    rw [registry] at called
    exact cons_ne_nil _ _ (append_right_eq_self.mp called.symm)
  · rw [if_neg multiple] at delivered
    exact other delivered.2.1

structure InUrc (registry : Registry n) (index : Fin n) (parser : Parser n) : Prop where
  handler : parser.handler = some (.urc index)
  registry : parser.registry = registry
  state : parser.state = .startReadParam ∨ parser.state = .doReadParam ∨ parser.state = .skipToEol

/-- The end of a line of an unsolicited handler: it was called, or it is not. -/
structure UrcOver (registry : Registry n) (index : Fin n) (parser : Parser n) : Prop where
  state : parser.state = .reset
  outcome : (∃ call more, parser.registry.log = registry.log ++ .called call :: more ∧
      call.source = .urc index) ∨
    parser.registry = registry ∧ parser.handler = some (.urc index)

section

variable {parser : Parser n}

theorem lineEnd_urc (handler : parser.handler = some (.urc index)) (restart : Bool) :
    lineEnd reaction parser restart = (parser.handleUnsolicited reaction (.urc index), false) := by
  have notErrorcode : ¬ parser.handlerCmd.flagErrorcode = true := by
    simp [handlerCmd, handler, Registry.cmdOf, (parser.registry.urcs index).cmd.notErrorcode]
  rw [lineEnd, if_neg notErrorcode, handler]

theorem InUrc.parameterByte (inUrc : InUrc registry index parser) (reaction : Reaction n)
    (char : UInt8) :
    (parser.parseParameterByte reaction char false).2 = false ∧
      InUrc registry index (parser.parseParameterByte reaction char false).1 := by
  obtain ⟨reader, state, made, kept⟩ := parseParameterByte_inside reaction parser char
  rw [made]
  refine ⟨rfl, inUrc.handler, inUrc.registry, ?_⟩
  rcases kept with same | starts
  · exact same ▸ inUrc.state
  · exact .inl starts

theorem InUrc.parameterEnd (inUrc : InUrc registry index parser) (reaction : Reaction n)
    (isOver : isEndOfLine char = true) :
    (parser.parseParameterByte reaction char true).2 = false ∧
      UrcOver registry index (parser.parseParameterByte reaction char true).1 := by
  have reads : ¬ parser.reader.skipsTrailingSpace char = true := by
    intro skips
    rw [Reader.skipsTrailingSpace, Bool.and_eq_true, beq_iff_eq] at skips
    rw [skips.2] at isOver
    cases isOver
  let next : Parser n :=
    { parser with
      reader := (parser.reader.formatByte char true).1
      state := if (parser.reader.formatByte char true).2 then .startReadParam else parser.state }
  have isHandler : next.handler = some (.urc index) := inUrc.handler
  have whole : parser.parseParameterByte reaction char true =
      (next.handleUnsolicited reaction (.urc index), false) := by
    rw [parseParameterByte, if_neg reads]
    exact lineEnd_urc reaction isHandler _
  rw [whole]
  obtain ⟨more, log⟩ := Registry.doCallback_log reaction parser.registry (.urc index) .urc 0
    (parser.reader.formatByte char true).1.numParams
    (some (parser.reader.formatByte char true).1.stream)
  rw [← inUrc.registry]
  exact ⟨rfl, rfl, .inl ⟨_, more, log, rfl⟩⟩

theorem InUrc.nextParam (inUrc : InUrc registry index parser) :
    InUrc registry index parser.nextParam :=
  ⟨inUrc.handler, inUrc.registry, .inr (.inl rfl)⟩

theorem startReadParam_once (char : UInt8) (endOfLine : Bool)
    (ended : (parser.nextParam.parseParameterByte reaction char endOfLine).2 = false) :
    startReadParam reaction char endOfLine parser.readRounds parser =
      if parser.handlerCmd.respNum ≤ parser.reader.numParams then
        skipToEol { parser with reader := parser.reader.clearParam } endOfLine
      else (parser.nextParam.parseParameterByte reaction char endOfLine).1 := by
  rw [readRounds, startReadParam]
  simp only [ended, Bool.false_eq_true, if_false]

theorem doReadParam_once (char : UInt8) (endOfLine : Bool)
    (ended : (parser.parseParameterByte reaction char endOfLine).2 = false) :
    parser.doReadParam reaction char endOfLine =
      (parser.parseParameterByte reaction char endOfLine).1 := by
  rw [doReadParam]
  simp only [ended, Bool.false_eq_true, if_false]

section

variable (inUrc : InUrc registry index parser)
include inUrc

theorem InUrc.parseByte (inside : isEndOfLine char = false) :
    InUrc registry index (parser.parseByte reaction char) := by
  rw [Parser.parseByte, inside]
  rcases inUrc.state with state | state | state <;> simp only [state]
  · obtain ⟨ended, next⟩ := inUrc.nextParam.parameterByte reaction char
    rw [startReadParam_once reaction char false ended]
    split
    · exact ⟨inUrc.handler, inUrc.registry, .inr (.inr rfl)⟩
    · exact next
  · obtain ⟨ended, next⟩ := inUrc.parameterByte reaction char
    rw [doReadParam_once reaction char false ended]
    exact next
  · exact ⟨inUrc.handler, inUrc.registry, .inr (.inr rfl)⟩

theorem InUrc.parseEnd (isOver : isEndOfLine char = true) :
    UrcOver registry index (parser.parseByte reaction char) := by
  rw [Parser.parseByte, isOver]
  rcases inUrc.state with state | state | state <;> simp only [state]
  · obtain ⟨ended, next⟩ := inUrc.nextParam.parameterEnd reaction isOver
    rw [startReadParam_once reaction char true ended]
    split
    · exact ⟨rfl, .inr ⟨inUrc.registry, inUrc.handler⟩⟩
    · exact next
  · obtain ⟨ended, next⟩ := inUrc.parameterEnd reaction isOver
    rw [doReadParam_once reaction char true ended]
    exact next
  · exact ⟨rfl, .inr ⟨inUrc.registry, inUrc.handler⟩⟩

theorem InUrc.parseBuffer {text : List UInt8}
    (inside : text.all (fun char => !isEndOfLine char) = true) :
    InUrc registry index (parser.parseBuffer reaction text) := by
  induction text generalizing parser with
  | nil => exact inUrc
  | cons char rest ih =>
    simp only [all_cons, Bool.and_eq_true, Bool.not_eq_true'] at inside
    exact ih (inUrc.parseByte reaction inside.1) inside.2

end

theorem parseByte_emptyLine (atStart : parser.state = .reset) (isOver : isEndOfLine char = true) :
    parser.parseByte reaction char = parser := by
  simp only [Parser.parseByte, atStart, isOver, if_true]

theorem not_delivered_of_urc {reaction : Reaction n} {next : Parser n} {line : List UInt8}
    (inUrc : InUrc parser.registry index next)
    (ends : parser.parseBuffer reaction (line ++ [13, 10]) =
        next.parseBuffer reaction [13, 10] ∨
      parser.parseBuffer reaction (line ++ [13, 10]) = next.parseByte reaction 10) :
    ¬ Delivered reaction parser line := by
  have ended : UrcOver parser.registry index (parser.parseBuffer reaction (line ++ [13, 10])) := by
    rcases ends with both | one
    · have first := inUrc.parseEnd reaction (show isEndOfLine 13 = true from rfl)
      rw [both]
      show UrcOver _ _ ((next.parseByte reaction 13).parseByte reaction 10)
      rw [parseByte_emptyLine reaction first.state rfl]
      exact first
    · rw [one]
      exact inUrc.parseEnd reaction rfl
  rcases ended.outcome with ⟨call, more, log, source⟩ | ⟨registry, handler⟩
  · refine not_delivered_of_called log fun isCommand => ?_
    rw [source] at isCommand
    cases isCommand
  · refine not_delivered_of_handler registry fun isCommand => ?_
    rw [handler] at isCommand
    cases isCommand

end

/-! ## A line and its name -/

theorem parseByte_endsFullName (parser : Parser n) {name : List UInt8}
    (readable : isResponseName name = true)
    (ends : char = 58 ∨ isEndOfLine char = true ∨ name.length = statebufSize - 1) :
    (parser.inName name).parseByte reaction char =
      (parser.inName (if char = 64 ∨ char = 62 then [char] else name)).endResponseName reaction
        char (isEndOfLine char) := by
  have filled : (parser.inName name).reader.statebuf ≠ [] := by
    intro empty
    have none : name = [] := empty
    simp [isResponseName, none] at readable
  have atEnd : isEndOfLine char = true ∨ char = 58 ∨
      (parser.inName name).reader.statebuf.length = statebufSize - 1 ∨
      ((char = 64 ∨ char = 62) ∧ (parser.inName name).reader.statebuf = []) := by
    rcases ends with colon | isOver | full
    · exact .inr (.inl colon)
    · exact .inl isOver
    · exact .inr (.inr (.inl full))
  show (parser.inName name).readResponseName reaction char (isEndOfLine char) = _
  rw [readResponseName, if_pos atEnd]
  by_cases prompt : char = 64 ∨ char = 62
  · rw [if_pos prompt, if_pos prompt]
    rfl
  · rw [if_neg prompt, if_neg prompt, if_neg filled]

theorem endResponseName_urc (parser : Parser n) {name : List UInt8}
    (short : nullTerminated name = name) (routed : parser.registry.route name = .reads (.urc index))
    (char : UInt8) (endOfLine : Bool) :
    InUrc parser.registry index ((parser.inName name).endResponseName reaction char endOfLine) := by
  have route : (parser.inName name).registry.route
      (nullTerminated (parser.inName name).reader.statebuf) = .reads (.urc index) := by
    show parser.registry.route (nullTerminated name) = _
    rw [short]
    exact routed
  have notPlain : ¬ (parser.registry.urcs index).cmd.flagPlain = true := by
    rw [(parser.registry.urcs index).cmd.notPlain]
    exact Bool.false_ne_true
  simp only [endResponseName, foundResponseName_eq_follow, route, follow, if_true]
  rw [if_neg]
  · exact ⟨rfl, rfl, .inl rfl⟩
  · exact notPlain

theorem route_prompt (active : registry.command.active = true)
    (isPlain : registry.command.cmd.flagPlain = true) (prompt : char = 64 ∨ char = 62) :
    registry.route [char] = .completes .dataprompt ∨
      registry.route [char] = registry.routeOther [char] true := by
  have notFinal : [char] ∉ [nameOk, nameError, nameCmeError, nameCmsError] := by
    rcases prompt with rfl | rfl <;> decide
  simp only [mem_cons, not_mem_nil, or_false, not_or] at notFinal
  obtain ⟨notOk, notError, notCme, notCms⟩ := notFinal
  simp only [Registry.route, active, isPlain, notOk, notError, notCme, notCms,
    Bool.true_eq_false, false_and, if_true, if_false]
  split
  · exact .inl rfl
  · exact .inr rfl

theorem parseBuffer_log_grows {parser : Parser n} (live : parser.Live) (bytes : List UInt8) :
    ∃ more, (parser.parseBuffer reaction bytes).registry.log = parser.registry.log ++ more := by
  induction bytes generalizing parser with
  | nil => exact ⟨[], (append_nil _).symm⟩
  | cons char rest ih =>
    obtain ⟨effect, stillLive⟩ := parseByte_effect reaction live char
    obtain ⟨late, tail⟩ := ih stillLive
    have early : ∃ more, (parser.parseByte reaction char).registry.log =
        parser.registry.log ++ more := by
      generalize (parser.parseByte reaction char).registry = after at effect
      cases effect with
      | unchanged => exact ⟨[], (append_nil _).symm⟩
      | unsolicited index ends numParams stream =>
        exact (Registry.doCallback_log reaction _ _ _ _ _ _).imp' _ fun _ log => log
      | responseLine active ends errorcode numParams stream =>
        exact (Registry.doCallback_log reaction _ _ _ _ _ _).imp' _ fun _ log => log
      | completed active status final errorcode numParams stream =>
        exact (Registry.completeCommand_log reaction active _ _ _ _).imp' _ fun _ log => log
    obtain ⟨more, head⟩ := early
    exact ⟨more ++ late, tail.trans (by rw [head, append_assoc])⟩

theorem endResponseName_prompt (reaction : Reaction n) {parser : Parser n}
    (active : parser.registry.command.active = true) (prompt : char = 64 ∨ char = 62)
    (routed : parser.registry.route [char] = .completes .dataprompt) :
    let next := (parser.inName [char]).endResponseName reaction char false
    next.state = .reset ∧
      ∃ call more, next.registry.log = parser.registry.log ++ .called call :: more ∧
        call.status = .dataprompt := by
  have follows : (parser.inName [char]).foundResponseName reaction [char] =
      ((parser.inName [char]).completeCommand reaction .dataprompt 0 none, false) := by
    rw [foundResponseName_eq_follow]
    show follow reaction _ [char] (parser.registry.route [char]) = _
    rw [routed]
    rfl
  have word : nullTerminated (parser.inName [char]).reader.statebuf = [char] := rfl
  have inName : (parser.inName [char]).registry.command.active = true := active
  obtain ⟨more, log⟩ := Registry.completeCommand_log reaction inName .dataprompt 0
    (parser.inName [char]).reader.numParams none
  rw [endResponseName, word, follows]
  refine ⟨?_, _, more, log, rfl⟩
  exact if_pos (.inr prompt)

section

variable {parser : Parser n} (atStart : parser.state = .reset) {line : List UInt8}
include atStart

theorem parseBuffer_behindName (plain : PlainLine parser.registry line) (char : UInt8)
    (rest ends : List UInt8) (behind : line.drop (nameOf line).length ++ ends = char :: rest) :
    parser.parseBuffer reaction (line ++ ends) =
      ((parser.inName (nameOf line)).parseByte reaction char).parseBuffer reaction rest := by
  conv_lhs => rw [← nameOf_append line]
  rw [append_assoc, behind, parseBuffer_append,
    parseBuffer_name reaction atStart plain.readable]
  rfl

theorem not_delivered_of_prompt (active : parser.registry.command.active = true)
    (isPlain : parser.registry.command.cmd.flagPlain = true)
    (plain : PlainLine parser.registry line) (prompt : PromptBehindName line) :
    ¬ Delivered reaction parser line := by
  obtain ⟨full, atEnd⟩ := prompt
  obtain ⟨char, isPrompt, found⟩ : ∃ char : UInt8, (char = 64 ∨ char = 62) ∧
      (line.drop (statebufSize - 1)).head? = some char := by
    rcases atEnd with isData | isPdu
    · exact ⟨64, .inl rfl, isData⟩
    · exact ⟨62, .inr rfl, isPdu⟩
  obtain ⟨rest, behind⟩ : ∃ rest, line.drop (nameOf line).length = char :: rest := by
    rw [← full] at found
    exact List.head?_eq_some_iff.mp found
  have inside := plain.inside (nameOf line).length
  rw [behind, all_cons, Bool.and_eq_true, Bool.not_eq_true'] at inside
  have step : ∀ ends, parser.parseBuffer reaction (line ++ ends) =
      ((parser.inName [char]).endResponseName reaction char false).parseBuffer reaction
        (rest ++ ends) := by
    intro ends
    rw [parseBuffer_behindName reaction atStart plain char (rest ++ ends) ends
      (by rw [behind]; rfl),
      parseByte_endsFullName reaction parser plain.readable (.inr (.inr full)), if_pos isPrompt,
      inside.1]
  have word : nullTerminated [char] = [char] := rfl
  rcases route_prompt active isPlain isPrompt with routed | routed
  · obtain ⟨state, call, more, log, status⟩ :=
      endResponseName_prompt reaction active isPrompt routed
    obtain ⟨late, grows⟩ := parseBuffer_log_grows reaction (live_reset state) (rest ++ [13, 10])
    refine @not_delivered_of_called n reaction parser line call (more ++ late) ?_ fun _ isLine => ?_
    · rw [step, grows, log, append_assoc]
      rfl
    · rw [status] at isLine
      cases isLine
  · rcases routeOther_plain parser.registry [char] with ⟨isPlainLine, -⟩ | ⟨index, isUrc, -⟩
    · have begun : (parser.inName [char]).endResponseName reaction char false =
          parser.inPlain [char] [char, char] := by
        have read := @endResponseName_plain n reaction (parser.inName [char])
          (routed.trans isPlainLine) char false
        have again := parseByte_plain reaction parser [char] [char] inside.1
        rw [inside.1] at again
        exact read.trans again
      have ended : parser.parseBuffer reaction (line ++ [13]) =
          (parser.inPlain [char] ([char, char] ++ rest)).doReadParam reaction 13 true := by
        rw [step, begun, parseBuffer_append, parseBuffer_inPlain reaction parser _ _ rest inside.2]
        rfl
      rw [delivered_iff_closed reaction active isPlain ended]
      intro decoded
      have whole := congrArg List.length (nameOf_append line)
      have longest := parser.plainClosed_length_le [char] ([char, char] ++ rest)
      have two : lengthBytes parser.reader ≤ 2 := by
        rw [lengthBytes]
        split <;> decide
      rw [length_of_readParams decoded] at longest
      rw [behind, length_append, full] at whole
      simp only [length_append, length_cons, length_nil, statebufSize] at *
      omega
    · have inUrc := endResponseName_urc reaction parser word (routed.trans isUrc) char false
      refine not_delivered_of_urc (inUrc.parseBuffer reaction inside.2) (.inl ?_)
      rw [step, parseBuffer_append]

theorem not_delivered_of_otherCase (active : parser.registry.command.active = true)
    (isPlain : parser.registry.command.cmd.flagPlain = true)
    (plain : PlainLine parser.registry line) (noPrompt : ¬ PromptBehindName line)
    (routed : parser.registry.routeOther (nameOf line) true = .reads (.urc index)) :
    ¬ Delivered reaction parser line := by
  have route : parser.registry.route (nameOf line) = .reads (.urc index) :=
    (plain.route active isPlain).trans routed
  have inUrc (char : UInt8) (endOfLine : Bool) :=
    endResponseName_urc reaction parser (nullTerminated_name plain.readable) route char endOfLine
  have inside := plain.inside (nameOf line).length
  cases behind : line.drop (nameOf line).length with
  | nil =>
    refine not_delivered_of_urc (inUrc 13 true) (.inr ?_)
    rw [parseBuffer_behindName reaction atStart plain 13 [10] [13, 10] (by rw [behind]; rfl),
      parseByte_endsFullName reaction parser plain.readable (.inr (.inl rfl)),
      if_neg (by decide)]
    rfl
  | cons char rest =>
    rw [behind, all_cons, Bool.and_eq_true, Bool.not_eq_true'] at inside
    have notPrompt : ¬ (char = 64 ∨ char = 62) := by
      intro prompt
      rcases behind_nameOf behind with rfl | full
      · exact absurd prompt (by decide)
      · have found : (line.drop (statebufSize - 1)).head? = some char := by
          rw [← full, behind]
          rfl
        rcases prompt with rfl | rfl
        · exact noPrompt ⟨full, .inl found⟩
        · exact noPrompt ⟨full, .inr found⟩
    refine not_delivered_of_urc ((inUrc char false).parseBuffer reaction inside.2) (.inl ?_)
    rw [parseBuffer_behindName reaction atStart plain char (rest ++ [13, 10]) [13, 10]
      (by rw [behind]; rfl),
      parseByte_endsFullName reaction parser plain.readable
        ((behind_nameOf behind).imp_right .inr),
      if_neg notPrompt, inside.1, parseBuffer_append]

end

theorem readParams_line {line : List UInt8}
    (fits : (encodeString line).length ≤ maxResponseStreamLen) :
    readParams [.stringToEol] (encodeString line) = some ([.bytes line], []) := by
  have short : line.length < 65536 := by
    simp only [encodeString, length_append, leBytes_length, length_singleton,
      maxResponseStreamLen] at fits
    omega
  have all := readParams_encodeParams
    (List.Forall₂.cons (show Value.Fits .stringToEol (.bytes line) from short) .nil) []
  simpa [encodeParams, encodeParam, storedValues] using all

/-- The string of a plain response is the line, exactly where the line is read from its
beginning, for the command, and with no string left open. -/
theorem delivered_iff_verbatim (reaction : Reaction n) {parser : Parser n}
    (atStart : parser.state = .reset) (active : parser.registry.command.active = true)
    (isPlain : parser.registry.command.cmd.flagPlain = true) {line : List UInt8}
    (plain : PlainLine parser.registry line) :
    Delivered reaction parser line ↔ Verbatim parser line := by
  have routed := plain.route active isPlain
  have closes (noPrompt : ¬ PromptBehindName line)
      (isPlainLine : parser.registry.routeOther (nameOf line) true = .readsPlain) :
      parser.parseBuffer reaction (line ++ [13]) =
        (parser.inPlain (nameOf line) line).doReadParam reaction 13 true := by
    have ended := parseBuffer_plainText reaction atStart (plain.split noPrompt)
      (routed.trans isPlainLine) (show isEndOfLine 13 = true from rfl)
    rw [nameOf_append] at ended
    exact ended
  constructor
  · intro delivered
    have noPrompt : ¬ PromptBehindName line := fun prompt =>
      not_delivered_of_prompt reaction atStart active isPlain plain prompt delivered
    rcases routeOther_plain parser.registry (nameOf line) with
      ⟨isPlainLine, own⟩ | ⟨index, isUrc, -⟩
    · refine ⟨?_, noPrompt, fun index isActive same => (own index isActive same).2⟩
      have decoded := (delivered_iff_closed reaction active isPlain
        (closes noPrompt isPlainLine)).mp delivered
      have longest := parser.plainClosed_length_le (nameOf line) line
      rw [length_of_readParams decoded] at longest
      by_contra isOpen
      rw [lengthBytes, if_neg isOpen] at longest
      omega
    · exact absurd delivered
        (not_delivered_of_otherCase reaction atStart active isPlain plain noPrompt isUrc)
  · rintro ⟨closed, noPrompt, otherCase⟩
    obtain ⟨first, head, notSpace, -⟩ := plain.starts
    have noSpace : line.head? ≠ some 32 := fun space => notSpace (Option.some.inj (head ▸ space))
    rcases routeOther_plain parser.registry (nameOf line) with
      ⟨isPlainLine, -⟩ | ⟨index, -, isActive, same, other⟩
    · rw [delivered_iff_closed reaction active isPlain (closes noPrompt isPlainLine),
        plainClosed_whole (nameOf line) closed noSpace plain.fits]
      exact readParams_line plain.fits
    · exact absurd ⟨active, otherCase index isActive same⟩ other

/-- A fresh parser that waits for a plain line. -/
def waitingForPlain : Parser 0 := (zeroed 0).request (.sendRaw plainCommand 7 true)

theorem plainLine_waitingForPlain {line : List UInt8} (printable : line.all isVisibleAtAscii = true)
    (starts : ∃ first, line.head? = some first ∧
      first ≠ 32 ∧ first ≠ 58 ∧ first ≠ 64 ∧ first ≠ 62)
    (notFinal : nameOf line ∉ [nameOk, nameError, nameCmeError, nameCmsError])
    (fits : (encodeString line).length ≤ maxResponseStreamLen) :
    PlainLine waitingForPlain.registry line :=
  ⟨printable, starts, notFinal, fun index => index.elim0, fits⟩

/-- A line that is longer than the state buffer. -/
theorem delivered_iff_verbatim_long :
    Delivered (quiet 0) waitingForPlain (List.replicate 40 65) ↔
      Verbatim waitingForPlain (List.replicate 40 65) :=
  delivered_iff_verbatim (quiet 0) rfl rfl rfl
    (plainLine_waitingForPlain (by decide) ⟨65, by decide⟩ (by decide) (by decide))

/-- A line of 33 characters, with `>` behind the first 31, is not delivered. -/
theorem plain_line_lost :
    PlainLine waitingForPlain.registry (List.replicate 31 65 ++ [62, 66]) ∧
      ¬ Delivered (quiet 0) waitingForPlain (List.replicate 31 65 ++ [62, 66]) := by
  have plain : PlainLine waitingForPlain.registry (List.replicate 31 65 ++ [62, 66]) :=
    plainLine_waitingForPlain (by decide) ⟨65, by decide⟩ (by decide) (by decide)
  have prompt : PromptBehindName (List.replicate 31 65 ++ [62, 66]) := by
    rw [PromptBehindName]
    decide
  exact ⟨plain, not_delivered_of_prompt (quiet 0) rfl rfl rfl plain prompt⟩

end Parser

end Thingsee.Modem
