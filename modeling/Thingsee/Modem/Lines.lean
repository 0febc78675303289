import Thingsee.Modem.LineTexts
import Thingsee.Modem.Routing

/-!
Owns complete response lines: what the parser does with a line that consists of
a response name and a list of parameters (`Tail`), from the first character of
the name to the end of the line.

`parseBuffer_name` covers the name, `AtParam` is the parser in front of its next
parameter, and the theorems about `AtParam` cover one parameter with what ends
it. What happens at the end of a line depends on the handler; that part is
`lineEnd`, and the modules about the kinds of lines finish from there.
-/

namespace Thingsee.Modem

open Support List

variable {n : Nat}

namespace Parser

variable (reaction : Reaction n) {base parser : Parser n} {name : List UInt8}
  {handler : HandlerRef n} {text stream : List UInt8} {count : Nat} {char : UInt8} {datalen : Nat}
  {formats : List RespFormat} {fmt : RespFormat}

def inName (parser : Parser n) (name : List UInt8) : Parser n :=
  { parser with
    state := .readResponseName
    handler := none
    reader := { parser.reader with statebuf := name } }

theorem readResponseName_visible (parser : Parser n) (name : List UInt8)
    (short : name.length < statebufSize - 1) (visible : isVisibleAtAscii char = true)
    (notColon : char ≠ 58) (notPrompt : name = [] → char ≠ 64 ∧ char ≠ 62) :
    (parser.inName name).readResponseName reaction char false = parser.inName (name ++ [char]) := by
  have stays : ¬ (false = true ∨ char = 58 ∨
      (parser.inName name).reader.statebuf.length = statebufSize - 1 ∨
      ((char = 64 ∨ char = 62) ∧ (parser.inName name).reader.statebuf = [])) := by
    rintro (impossible | colon | full | ⟨prompt, empty⟩)
    · exact absurd impossible (by decide)
    · exact notColon colon
    · exact absurd full (Nat.ne_of_lt short)
    · have other := notPrompt empty
      exact prompt.elim other.1 other.2
  have room : (parser.inName name).reader.statebuf.length < statebufSize := by
    have below : name.length < statebufSize := by
      simp only [statebufSize] at short ⊢
      omega
    exact below
  rw [readResponseName, if_neg stays, if_pos ⟨visible, room⟩]
  rfl

theorem not_endOfLine_of_visible (visible : isVisibleAtAscii char = true) :
    isEndOfLine char = false := by
  by_contra isOver
  simp only [Bool.not_eq_false, isEndOfLine, decide_eq_true_eq] at isOver
  rcases isOver with rfl | rfl <;> exact absurd visible (by decide)

theorem parseBuffer_inName (parser : Parser n) (name rest : List UInt8) (filled : name ≠ [])
    (short : name.length + rest.length ≤ statebufSize - 1)
    (visible : rest.all (fun char => isVisibleAtAscii char && char != 58) = true) :
    (parser.inName name).parseBuffer reaction rest = parser.inName (name ++ rest) := by
  induction rest generalizing name with
  | nil => simp [parseBuffer]
  | cons char rest ih =>
    obtain ⟨⟨charVisible, notColon⟩, restVisible⟩ :
        (isVisibleAtAscii char = true ∧ char ≠ 58) ∧
          rest.all (fun char => isVisibleAtAscii char && char != 58) = true := by
      simpa using visible
    have charFits : name.length < statebufSize - 1 := by
      simp only [length_cons] at short
      omega
    have byte : (parser.inName name).parseByte reaction char = parser.inName (name ++ [char]) := by
      show (parser.inName name).readResponseName reaction char (isEndOfLine char) = _
      rw [not_endOfLine_of_visible charVisible]
      exact readResponseName_visible reaction parser name charFits charVisible notColon
        (fun empty => absurd empty filled)
    have tail := ih (name ++ [char]) (by simp) (by simp at short ⊢; omega)
      restVisible
    rw [parseBuffer, foldl_cons, byte]
    simpa [parseBuffer] using tail

/-! ## Names -/

/-- The characters of a name are collected. -/
theorem parseBuffer_name (atStart : parser.state = .reset) (readable : isResponseName name = true) :
    parser.parseBuffer reaction name = parser.inName name := by
  cases name with
  | nil => simp [isResponseName] at readable
  | cons first rest =>
    obtain ⟨⟨⟨notData, notPdu⟩, short⟩, ⟨visible, notColon⟩, restVisible⟩ :
        ((first ≠ 64 ∧ first ≠ 62) ∧ (first :: rest).length ≤ statebufSize - 1) ∧
          (isVisibleAtAscii first = true ∧ first ≠ 58) ∧
            rest.all (fun char => isVisibleAtAscii char && char != 58) = true := by
      simpa [isResponseName] using readable
    have byte : parser.parseByte reaction first = parser.inName [first] := by
      have notEnd := not_endOfLine_of_visible visible
      have start : parser.parseByte reaction first =
          (parser.inName []).readResponseName reaction first false := by
        simp only [parseByte, atStart, notEnd, Bool.false_eq_true, ↓reduceIte]
        rfl
      rw [start]
      exact readResponseName_visible reaction parser [] (by decide) visible notColon
        (fun _ => ⟨notData, notPdu⟩)
    have tail := parseBuffer_inName reaction parser [first] rest (by simp)
      (by simpa [Nat.add_comm] using short) restVisible
    rw [parseBuffer, foldl_cons, byte]
    exact tail

theorem parseByte_endsName (parser : Parser n) (readable : isResponseName name = true)
    (ends : char = 58 ∨ isEndOfLine char = true) :
    (parser.inName name).parseByte reaction char =
      (parser.inName name).endResponseName reaction char (isEndOfLine char) := by
  have filled : (parser.inName name).reader.statebuf ≠ [] := by
    intro empty
    have : name = [] := empty
    simp [isResponseName, this] at readable
  have notPrompt : ¬ (char = 64 ∨ char = 62) := by
    rcases ends with rfl | isOver
    · decide
    · rcases of_decide_eq_true isOver with rfl | rfl <;> decide
  show (parser.inName name).readResponseName reaction char (isEndOfLine char) = _
  rw [readResponseName, if_pos (by rcases ends with colon | isOver <;> simp [*]),
    if_neg notPrompt, if_neg filled]

theorem nullTerminated_name (readable : isResponseName name = true) :
    nullTerminated name = name := by
  cases name with
  | nil => rfl
  | cons first rest =>
    apply take_of_length_le
    simp only [isResponseName, Bool.and_eq_true, decide_eq_true_eq] at readable
    exact readable.1.2

theorem endResponseName_reads (parser : Parser n) (readable : isResponseName name = true)
    (routed : parser.registry.route name = .reads handler) (char : UInt8) (endOfLine : Bool) :
    (parser.inName name).endResponseName reaction char endOfLine =
      { (parser.inName name).beginParams handler with state := .startReadParam } := by
  have sound := parser.registry.route_sound name
  rw [routed] at sound
  have notPlain := Registry.Named.notPlain sound
  have route : (parser.inName name).registry.route
      (nullTerminated (parser.inName name).reader.statebuf) = .reads handler := by
    show parser.registry.route (nullTerminated name) = _
    rw [nullTerminated_name readable]
    exact routed
  simp only [endResponseName, foundResponseName_eq_follow, route, follow, ↓reduceIte]
  rw [if_neg]
  · rfl
  · show ¬ (parser.registry.cmdOf handler).flagPlain = true
    simp [notPlain]

theorem parseParameterByte_eq (parser : Parser n) (char : UInt8) :
    parser.parseParameterByte reaction char (isEndOfLine char) =
      let result := parser.reader.paramByte char
      let next : Parser n :=
        { parser with
          reader := result.1
          state := if result.2 then .startReadParam else parser.state }
      if isEndOfLine char then lineEnd reaction next result.2 else (next, false) := by
  unfold parseParameterByte Reader.paramByte
  by_cases skips : parser.reader.skipsTrailingSpace char = true
  · have space : char = 32 := by
      simp only [Reader.skipsTrailingSpace, Bool.and_eq_true, beq_iff_eq] at skips
      exact skips.2
    have notEnd : isEndOfLine char = false := by rw [space]; rfl
    simp [skips, notEnd]
  · simp only [skips, Bool.false_eq_true, ↓reduceIte]

theorem lineEnd_command (isCommand : parser.handler = some .command) (restart : Bool) :
    lineEnd reaction parser restart =
      if parser.registry.command.cmd.flagMultipleResp then
        (parser.handleResponseLine reaction .command, false)
      else (parser, restart) := by
  have notErrorcode := parser.registry.command.cmd.notErrorcode
  have sameCmd : parser.handlerCmd = parser.registry.command.cmd.toCmdDef := by
    simp only [handlerCmd, isCommand, Registry.cmdOf]
  simp only [lineEnd, sameCmd, notErrorcode, isCommand, Bool.false_eq_true, ↓reduceIte]

/-- The lines of a single-line command: their end is no event of its own. -/
def SilentEnd (parser : Parser n) : Prop :=
  parser.handler = some .command ∧ parser.registry.command.cmd.flagMultipleResp = false

theorem lineEnd_silent (silent : parser.SilentEnd) (restart : Bool) :
    lineEnd reaction parser restart = (parser, restart) := by
  rw [lineEnd_command reaction silent.1, silent.2]
  rfl

theorem parseByte_taken (reading : parser.state = .doReadParam) {next : Reader}
    (taken : parser.reader.paramByte char = (next, false))
    (quietEnd : isEndOfLine char = true → parser.SilentEnd) :
    parser.parseByte reaction char = { parser with reader := next } := by
  have outcome : parser.parseParameterByte reaction char (isEndOfLine char) =
      ({ parser with reader := next }, false) := by
    rw [parseParameterByte_eq]
    simp only [taken, Bool.false_eq_true, ↓reduceIte]
    by_cases isOver : isEndOfLine char = true
    · have silent : ({ parser with reader := next } : Parser n).SilentEnd := quietEnd isOver
      rw [if_pos isOver]
      exact lineEnd_silent reaction silent false
    · rw [if_neg isOver]
  simp only [parseByte, reading, doReadParam, outcome, Bool.false_eq_true, ↓reduceIte]

theorem parseBuffer_takeText (parser : Parser n) (reading : parser.state = .doReadParam)
    {held : Reader} (taken : parser.reader.takeText text = some held)
    (quietEnd : ∀ char ∈ text, isEndOfLine char = true → parser.SilentEnd) :
    parser.parseBuffer reaction text = { parser with reader := held } := by
  induction text generalizing parser with
  | nil =>
    have same : parser.reader = held := by simpa [Reader.takeText] using taken
    rw [← same]
    rfl
  | cons char rest ih =>
    simp only [Reader.takeText] at taken
    split at taken
    · simp at taken
    · next stays =>
      have byte : parser.reader.paramByte char = ((parser.reader.paramByte char).1, false) := by
        rw [Prod.ext_iff]
        exact ⟨rfl, by simpa using stays⟩
      rw [parseBuffer, foldl_cons,
        parseByte_taken reaction reading byte (quietEnd char (by simp))]
      have later : ∀ next ∈ rest, isEndOfLine next = true → parser.SilentEnd := by
        intro next member
        exact quietEnd next (by simp [member])
      exact ih _ reading taken later

theorem formatByte_closed {reader next : Reader} {endOfLine : Bool}
    (closed : reader.formatByte char endOfLine = (next, true)) :
    next.numParams = reader.numParams + 1 := by
  have counted := (reader.formatByte_frame char endOfLine).2
  rw [closed] at counted
  exact counted

theorem lineEnd_false (parser : Parser n) : (lineEnd reaction parser false).2 = false := by
  unfold lineEnd
  split
  · rfl
  · split
    · rfl
    · split <;> rfl
    · rfl

theorem lineEnd_restart {restart : Bool} (restarts : (lineEnd reaction parser restart).2 = true) :
    lineEnd reaction parser restart = (parser, true) := by
  unfold lineEnd at restarts ⊢
  by_cases errorcode : parser.handlerCmd.flagErrorcode = true
  · simp [errorcode] at restarts
  · simp only [errorcode, Bool.false_eq_true, ↓reduceIte] at restarts ⊢
    generalize parser.handler = handler at restarts ⊢
    match handler with
    | some (.urc index) => simp at restarts
    | none => exact Prod.ext rfl restarts
    | some .command | some .internalError =>
      simp only at restarts ⊢
      split at restarts
      · simp at restarts
      · next single =>
        rw [if_neg single]
        exact Prod.ext rfl restarts

theorem parseParameterByte_restart {endOfLine : Bool}
    (restart : (parser.parseParameterByte reaction char endOfLine).2 = true) :
    let next := (parser.parseParameterByte reaction char endOfLine).1
    next.reader.numParams = parser.reader.numParams + 1 ∧ next.handlerCmd = parser.handlerCmd := by
  simp only [parseParameterByte] at restart ⊢
  split at restart
  · simp at restart
  · next reads =>
    rw [if_neg reads]
    generalize outcome : parser.reader.formatByte char endOfLine = result at restart
    obtain ⟨reader, closed⟩ := result
    split at restart
    · next isOver =>
      rw [if_pos isOver, lineEnd_restart reaction restart]
      have isClosed : closed = true := by
        cases closed with
        | true => rfl
        | false => simp [lineEnd_false reaction] at restart
      subst isClosed
      exact ⟨formatByte_closed outcome, rfl⟩
    · simp at restart

theorem startReadParam_rounds (char : UInt8) (endOfLine : Bool) (rounds more : Nat)
    (enough : parser.handlerCmd.respNum + 1 ≤ rounds + parser.reader.numParams)
    (positive : 0 < rounds) :
    startReadParam reaction char endOfLine (rounds + more) parser =
      startReadParam reaction char endOfLine rounds parser := by
  induction rounds generalizing parser with
  | zero => omega
  | succ rounds ih =>
    rw [show rounds + 1 + more = rounds + more + 1 by omega]
    simp only [startReadParam]
    split
    · rfl
    · next missing =>
      split
      · next restart =>
        obtain ⟨stored, sameLine⟩ := parseParameterByte_restart reaction restart
        have count : (parser.nextParam).reader.numParams = parser.reader.numParams := rfl
        have sameCmd : (parser.nextParam).handlerCmd = parser.handlerCmd := rfl
        rw [count] at stored
        rw [sameCmd] at sameLine
        apply ih
        · rw [sameLine, stored]
          omega
        · omega
      · rfl

/-- The parser in front of its next parameter: `count` parameters with the
encoding `stream` are stored since `base` began the line. -/
structure AtParam (base : Parser n) (handler : HandlerRef n) (stream : List UInt8)
    (count datalen : Nat) (parser : Parser n) : Prop where
  state : parser.state = .startReadParam
  handler : parser.handler = some handler
  registry : parser.registry = base.registry
  status : parser.status = base.status
  errorcode : parser.errorcode = base.errorcode
  stream : parser.reader.stream = stream
  numParams : parser.reader.numParams = count
  datalen : parser.reader.datalen = datalen
  strlenPos : 0 < count → parser.reader.strlenPos = none
  overflow : parser.reader.overflow = base.reader.overflow

/-- The end of a line whose last parameter has just been stored. -/
def closeLine (reaction : Reaction n) (parser : Parser n) (char : UInt8) : Parser n :=
  let result := lineEnd reaction parser true
  if result.2 then startReadParam reaction char true result.1.readRounds result.1 else result.1

/-- The parser behind a parameter that left the reader as it is in `after`. -/
def stored (parser : Parser n) (after : Reader) : Parser n :=
  { parser with state := .startReadParam, reader := after }

theorem AtParam.handlerCmd (atParam : AtParam base handler stream count datalen parser) :
    parser.handlerCmd = base.registry.cmdOf handler := by
  simp only [Parser.handlerCmd, atParam.handler, atParam.registry]

theorem parseByte_nextParam (atStart : parser.state = .startReadParam)
    (missing : parser.reader.numParams < parser.handlerCmd.respNum) (char : UInt8) :
    parser.parseByte reaction char = parser.nextParam.parseByte reaction char := by
  have front : parser.parseByte reaction char =
      startReadParam reaction char (isEndOfLine char) parser.readRounds parser := by
    simp only [parseByte, atStart]
  have inside : parser.nextParam.parseByte reaction char =
      parser.nextParam.doReadParam reaction char (isEndOfLine char) := rfl
  have notFull : ¬ parser.handlerCmd.respNum ≤ parser.reader.numParams := by omega
  rw [front, inside, readRounds, startReadParam, if_neg notFull, doReadParam]
  by_cases restart :
      (parser.nextParam.parseParameterByte reaction char (isEndOfLine char)).2 = true
  · obtain ⟨count, sameLine⟩ := parseParameterByte_restart reaction restart
    have sameCmd : parser.nextParam.handlerCmd = parser.handlerCmd := rfl
    have sameCount : parser.nextParam.reader.numParams = parser.reader.numParams := rfl
    simp only [restart, ↓reduceIte, readRounds, sameLine, sameCmd]
    refine (startReadParam_rounds reaction char _ parser.handlerCmd.respNum 1 ?_ (by omega)).symm
    rw [sameLine, sameCmd, count]
    omega
  · simp only [restart, Bool.false_eq_true, ↓reduceIte]

section

variable (atParam : AtParam base handler stream count datalen parser)
  (expected : (base.registry.cmdOf handler).respFormat.drop count = fmt :: formats)
include atParam expected

theorem nextParam_ready :
    parser.reader.numParams < parser.handlerCmd.respNum ∧ parser.nextParam.reader.Ready fmt := by
  have missing : parser.reader.numParams < parser.handlerCmd.respNum := by
    rw [atParam.handlerCmd, atParam.numParams, CmdDef.respNum]
    by_contra full
    rw [drop_of_length_le (by omega)] at expected
    exact absurd expected (by simp)
  have format : parser.handlerCmd.formatAt parser.reader.numParams = fmt := by
    have found : (base.registry.cmdOf handler).respFormat[count]? = some fmt := by
      rw [← List.head?_drop, expected]
      rfl
    rw [atParam.handlerCmd, atParam.numParams, CmdDef.formatAt, getD_eq_getElem?_getD, found]
    rfl
  exact ⟨missing, format, rfl, rfl, rfl⟩

theorem nextParam_takes {param : Param} (valid : param.valid fmt datalen = true)
    (room : stream.length + param.size fmt ≤ maxResponseStreamLen)
    (ends : Reader.closes fmt char = true) :
    ∃ held after, parser.nextParam.reader.takeText param.text = some held ∧
      held.paramByte char = (after, true) ∧
      parser.reader.Stored after (encodeParam fmt (param.value fmt))
        (param.datalenAfter fmt datalen) := by
  obtain ⟨-, ready⟩ := nextParam_ready atParam expected
  have pending : parser.nextParam.reader.datalen = datalen := atParam.datalen
  have soFar : parser.nextParam.reader.stream = stream := atParam.stream
  obtain ⟨held, taken, closing⟩ := Reader.takeParam ready (by rw [pending]; exact valid)
    (by rw [soFar]; exact room)
  obtain ⟨after, closed, wasStored⟩ := closing char ends
  rw [pending] at wasStored
  exact ⟨held, after, taken, closed, wasStored.stream, wasStored.numParams, wasStored.datalen,
    wasStored.strlenPos, wasStored.overflow, wasStored.nullWrite⟩

theorem paramByte_missing (room : stream.length + (Param.bare []).size fmt ≤ maxResponseStreamLen)
    (isOver : isEndOfLine char = true) :
    ∃ after, parser.reader.Stored after (encodeParam fmt ((Param.bare []).value fmt))
        ((Param.bare []).datalenAfter fmt datalen) ∧
      parser.nextParam.reader.paramByte char = (after, true) := by
  have ends : Reader.closes fmt char = true := by simp [Reader.closes, isOver]
  have valid : (Param.bare []).valid fmt datalen = true := by cases fmt <;> rfl
  obtain ⟨held, after, taken, closed, wasStored⟩ := nextParam_takes atParam expected valid room ends
  have same : parser.nextParam.reader = held := by
    simpa [Param.text, Reader.takeText] using taken
  exact ⟨after, wasStored, by rw [same]; exact closed⟩

/-- One parameter and the character behind it leave its encoding in the stream. -/
theorem parseBuffer_param {param : Param} (valid : param.valid fmt datalen = true)
    (room : stream.length + param.size fmt ≤ maxResponseStreamLen)
    (quietEnd : ∀ char ∈ param.text, isEndOfLine char = true → parser.SilentEnd)
    (ends : Reader.closes fmt char = true) :
    ∃ after, parser.reader.Stored after (encodeParam fmt (param.value fmt))
        (param.datalenAfter fmt datalen) ∧
      parser.parseBuffer reaction (param.text ++ [char]) =
        if isEndOfLine char then closeLine reaction (parser.stored after) char
        else parser.stored after := by
  obtain ⟨missing, -⟩ := nextParam_ready atParam expected
  obtain ⟨held, after, taken, closed, wasStored⟩ :=
    nextParam_takes atParam expected valid room ends
  refine ⟨after, wasStored, ?_⟩
  have entered : parser.parseBuffer reaction (param.text ++ [char]) =
      parser.nextParam.parseBuffer reaction (param.text ++ [char]) := by
    cases param.text with
    | nil =>
      simp only [parseBuffer, nil_append, foldl_cons]
      rw [parseByte_nextParam reaction atParam.state missing]
    | cons first rest =>
      simp only [parseBuffer, cons_append, foldl_cons]
      rw [parseByte_nextParam reaction atParam.state missing]
  have text := parseBuffer_takeText reaction parser.nextParam rfl taken quietEnd
  rw [entered, parseBuffer, foldl_append]
  rw [parseBuffer] at text
  rw [text]
  have last : ({ parser.nextParam with reader := held } : Parser n).parseByte reaction char =
      ({ parser.nextParam with reader := held } : Parser n).doReadParam reaction char
        (isEndOfLine char) := rfl
  simp only [foldl_cons, foldl_nil, last, doReadParam, parseParameterByte_eq, closed,
    ↓reduceIte]
  by_cases isOver : isEndOfLine char = true
  · simp only [isOver, ↓reduceIte, closeLine]
    rfl
  · simp only [isOver, Bool.false_eq_true, ↓reduceIte]
    rfl

end

theorem AtParam.stored {bytes : List UInt8} {datalen' : Nat}
    (atParam : AtParam base handler stream count datalen parser) {after : Reader}
    (wasStored : parser.reader.Stored after bytes datalen') :
    AtParam base handler (stream ++ bytes) (count + 1) datalen' (parser.stored after) where
  state := rfl
  handler := atParam.handler
  registry := atParam.registry
  status := atParam.status
  errorcode := atParam.errorcode
  stream := by rw [← atParam.stream]; exact wasStored.stream
  numParams := by rw [← atParam.numParams]; exact wasStored.numParams
  datalen := wasStored.datalen
  strlenPos := fun _ => wasStored.strlenPos
  overflow := wasStored.overflow.trans atParam.overflow

/-! ## Parameters -/

theorem parseBuffer_append (parser : Parser n) (front rest : List UInt8) :
    parser.parseBuffer reaction (front ++ rest) =
      (parser.parseBuffer reaction front).parseBuffer reaction rest :=
  foldl_append

/-- The lines of `handler` end without an event of their own. -/
def SilentLines (parser : Parser n) (handler : HandlerRef n) : Prop :=
  handler = .command ∧ parser.registry.command.cmd.flagMultipleResp = false

theorem AtParam.silentEnd (atParam : AtParam base handler stream count datalen parser)
    (silent : base.SilentLines handler) : parser.SilentEnd := by
  refine ⟨?_, ?_⟩
  · rw [atParam.handler, silent.1]
  · rw [atParam.registry]
    exact silent.2

/-- Ends of lines stand only inside of parameters of single-line commands. -/
def EndsInside (parser : Parser n) (handler : HandlerRef n) (params : List Param) : Prop :=
  ∀ param ∈ params, ∀ char ∈ param.text, isEndOfLine char = true → parser.SilentLines handler

/-- The separated parameters are stored one behind the other. -/
theorem parseBuffer_params {params : List Param}
    (atParam : AtParam base handler stream count datalen parser)
    (expected : (base.registry.cmdOf handler).respFormat.drop count = formats)
    (valid : validParams true formats datalen params = true)
    (room : stream.length + (paramStream formats params).length ≤ maxResponseStreamLen)
    (endsInside : base.EndsInside handler params) :
    AtParam base handler (stream ++ paramStream formats params) (count + params.length)
      (datalenAfterAll formats datalen params)
      (parser.parseBuffer reaction (params.flatMap (fun param => param.text ++ [44]))) := by
  induction params generalizing formats parser stream count datalen with
  | nil =>
    have nothing : paramStream formats [] = [] := by cases formats <;> rfl
    have same : datalenAfterAll formats datalen [] = datalen := by cases formats <;> rfl
    rw [nothing, same, append_nil]
    exact atParam
  | cons param params ih =>
    cases formats with
    | nil => simp [validParams] at valid
    | cons fmt formats =>
      simp only [validParams, Bool.and_eq_true] at valid
      obtain ⟨⟨paramValid, separable⟩, restValid⟩ := valid
      rw [paramStream_cons, length_append] at room
      have ends : Reader.closes fmt 44 = true := by
        have notToEol : (fmt != .stringToEol) = true := by simpa using separable
        simp [Reader.closes, notToEol]
      have quietEnd : ∀ char ∈ param.text, isEndOfLine char = true → parser.SilentEnd := by
        intro char member isOver
        exact atParam.silentEnd (endsInside param (by simp) char member isOver)
      obtain ⟨after, wasStored, read⟩ := parseBuffer_param reaction atParam expected paramValid
        (by rw [Param.size]; omega) quietEnd ends
      have notEnd : isEndOfLine 44 = false := rfl
      rw [notEnd, if_neg Bool.false_ne_true] at read
      have next : (base.registry.cmdOf handler).respFormat.drop (count + 1) = formats := by
        rw [← drop_drop, expected]
        rfl
      have rest := ih (atParam.stored wasStored) next restValid
        (by rw [length_append]; omega)
        (fun later member => endsInside later (by simp [member]))
      rw [flatMap_cons, parseBuffer_append, read]
      rw [append_assoc, ← paramStream_cons, Nat.add_assoc, Nat.add_comm 1] at rest
      exact rest

theorem parseBuffer_lastParams {params : List Param}
    (atParam : AtParam base handler [] 0 datalen parser) (filled : params ≠ [])
    (valid : validParams false (base.registry.cmdOf handler).respFormat datalen params = true)
    (room : (paramStream (base.registry.cmdOf handler).respFormat params).length ≤
      maxResponseStreamLen)
    (endsInside : base.EndsInside handler params) (char : UInt8)
    (isOver : isEndOfLine char = true) :
    ∃ next datalen', AtParam base handler
        (paramStream (base.registry.cmdOf handler).respFormat params) params.length datalen' next ∧
      parser.parseBuffer reaction (commaSeparated (params.map Param.text) ++ [char]) =
        closeLine reaction next char := by
  obtain ⟨init, last, rfl⟩ : ∃ init last, params = init ++ [last] :=
    ⟨params.dropLast, params.getLast filled, (dropLast_append_getLast filled).symm⟩
  have short : init.length ≤ (base.registry.cmdOf handler).respFormat.length := by
    have := validParams_length valid
    simp only [length_append, length_singleton] at this
    omega
  obtain ⟨initValid, lastValid⟩ := validParams_append (by simp) valid
  rw [paramStream_append short, length_append] at room
  have front := parseBuffer_params reaction atParam rfl initValid
    (by simpa using (by omega : _ ≤ maxResponseStreamLen))
    (fun param member => endsInside param (by simp [member]))
  rw [nil_append, Nat.zero_add] at front
  cases remaining : (base.registry.cmdOf handler).respFormat.drop init.length with
  | nil => simp [remaining, validParams] at lastValid
  | cons fmt formats =>
    rw [remaining] at lastValid room
    simp only [validParams, Bool.and_eq_true] at lastValid
    have single : paramStream (fmt :: formats) [last] = encodeParam fmt (last.value fmt) := by
      rw [paramStream_cons]
      cases formats <;> simp [paramStream, paramValues, encodeParams]
    rw [single] at room
    have ends : Reader.closes fmt char = true := by simp [Reader.closes, isOver]
    obtain ⟨after, wasStored, read⟩ := parseBuffer_param reaction front remaining
      lastValid.1.1 room
      (fun char member isOver =>
        front.silentEnd (endsInside last (by simp) char member isOver)) ends
    rw [if_pos isOver] at read
    have stored := front.stored wasStored
    rw [drop_zero, ← single, ← remaining, ← paramStream_append short] at stored
    have text : commaSeparated ((init ++ [last]).map Param.text) ++ [char] =
        init.flatMap (fun param => param.text ++ [44]) ++ (last.text ++ [char]) := by
      rw [map_append, map_singleton, commaSeparated_append_singleton,
        flatMap_map, append_assoc]
    rw [text, parseBuffer_append, read, length_append, length_singleton]
    exact ⟨_, _, stored, rfl⟩

theorem datalenKnown_of_named {registry : Registry n} (named : registry.Named handler) :
    datalenFirst false (registry.cmdOf handler).respFormat = true := by
  cases handler with
  | command => exact registry.command.cmd.datalenKnown
  | urc index => exact (registry.urcs index).cmd.datalenKnown
  | internalError => exact absurd named id

theorem parseBuffer_named (atStart : parser.state = .reset) (readable : isResponseName name = true)
    (routed : parser.registry.route name = .reads handler) (char : UInt8)
    (ends : char = 58 ∨ isEndOfLine char = true) :
    AtParam parser handler [] 0 parser.reader.datalen
      (parser.parseBuffer reaction (name ++ [char])) := by
  have read : parser.parseBuffer reaction (name ++ [char]) =
      { (parser.inName name).beginParams handler with state := .startReadParam } := by
    rw [parseBuffer_append, parseBuffer_name reaction atStart readable]
    show (parser.inName name).parseByte reaction char = _
    rw [parseByte_endsName reaction parser readable ends]
    exact endResponseName_reads reaction parser readable routed char _
  rw [read]
  exact ⟨rfl, rfl, rfl, rfl, rfl, rfl, rfl, rfl, fun stored => absurd stored (Nat.lt_irrefl 0), rfl⟩

theorem endsInside_spaced {first : Param} {others : List Param}
    (endsInside : parser.EndsInside handler (first :: others)) :
    parser.EndsInside handler (first.spaced :: others) := by
  intro param member char inText isOver
  rcases mem_cons.mp member with rfl | later
  · rw [Param.text_spaced] at inText
    rcases mem_cons.mp inText with rfl | original
    · exact absurd isOver (by decide)
    · exact endsInside first (by simp) char original isOver
  · exact endsInside param (by simp [later]) char inText isOver

/-- A line with all its parameters is stored and closed at its end. -/
theorem parseBuffer_line (atStart : parser.state = .reset) (readable : isResponseName name = true)
    (routed : parser.registry.route name = .reads handler) {tail : Tail}
    (valid : tail.valid (parser.registry.cmdOf handler).respFormat = true)
    (expected : 1 ≤ (parser.registry.cmdOf handler).respNum) (exact : tail.surplus = false)
    (room : (paramStream (parser.registry.cmdOf handler).respFormat tail.params).length ≤
      maxResponseStreamLen)
    (endsInside : parser.EndsInside handler tail.params) :
    ∃ next datalen char rest, AtParam parser handler
        (paramStream (parser.registry.cmdOf handler).respFormat tail.params) tail.params.length
        datalen next ∧
      isEndOfLine char = true ∧ (∀ later ∈ rest, isEndOfLine later = true) ∧
      parser.parseBuffer reaction (lineText name tail) =
        (closeLine reaction next char).parseBuffer reaction rest := by
  have named : parser.registry.Named handler := by
    have sound := parser.registry.route_sound name
    rw [routed] at sound
    exact sound
  have known := datalenKnown_of_named named
  cases tail with
  | nothing =>
    have front := parseBuffer_named reaction atStart readable routed 13 (Or.inr rfl)
    have emptyValid : validParams false (parser.registry.cmdOf handler).respFormat
        parser.reader.datalen [.bare []] = true := by
      cases formats : (parser.registry.cmdOf handler).respFormat with
      | nil => simp [CmdDef.respNum, formats] at expected
      | cons fmt rest => cases fmt <;> simp [validParams, Param.valid, Param.text]
    obtain ⟨next, datalen, atNext, read⟩ := parseBuffer_lastParams reaction front (by simp)
      emptyValid room endsInside 10 rfl
    refine ⟨next, datalen, 10, [], atNext, rfl, by simp, ?_⟩
    have text : lineText name .nothing = (name ++ [13]) ++ [10] := by simp [lineText, Tail.text]
    rw [text, parseBuffer_append]
    exact read
  | fields params extra =>
    cases extra with
    | some extra => simp [Tail.surplus] at exact
    | none =>
      cases params with
      | nil => simp [Tail.valid] at valid
      | cons first others =>
        have front := parseBuffer_named reaction atStart readable routed 58 (Or.inl rfl)
        have spacedValid : validParams false (parser.registry.cmdOf handler).respFormat
            parser.reader.datalen (first.spaced :: others) = true := by
          rw [validParams_spaced, validParams_datalen known false _ _ 0]
          simpa [Tail.valid] using valid
        obtain ⟨next, datalen, atNext, read⟩ := parseBuffer_lastParams reaction front
          (by simp) spacedValid (by rw [paramStream_spaced]; exact room)
          (endsInside_spaced endsInside) 13 rfl
        rw [paramStream_spaced] at atNext
        refine ⟨next, datalen, 13, [10], atNext, rfl, by simp [isEndOfLine], ?_⟩
        have text : lineText name (.fields (first :: others) none) =
            ((name ++ [58]) ++ (commaSeparated ((first.spaced :: others).map Param.text) ++
              [13])) ++ [10] := by
          cases others <;>
            simp [lineText, Tail.text, segments, commaSeparated, Param.text_spaced]
        rw [text, parseBuffer_append, parseBuffer_append, read]

section

variable (silent : base.SilentLines .command) (isOver : isEndOfLine char = true)
  (atParam : AtParam base .command stream count datalen parser)
include silent isOver atParam

/-- At an early end of a line the missing parameters are stored as empty. -/
theorem startReadParam_missing
    (expected : (base.registry.cmdOf .command).respFormat.drop count = formats)
    (bounded : count ≤ (base.registry.cmdOf .command).respNum)
    (room : stream.length + (paramStream formats (missingParams formats)).length ≤
      maxResponseStreamLen)
    {rounds : Nat} (enough : formats.length < rounds) :
    ∃ next datalen', AtParam base .command
        (stream ++ paramStream formats (missingParams formats))
        (base.registry.cmdOf .command).respNum datalen' next ∧
      startReadParam reaction char true rounds parser =
        { next with state := .reset, reader := next.reader.clearParam } := by
  induction formats generalizing parser stream count datalen rounds with
  | nil =>
    have full : count = (base.registry.cmdOf .command).respNum := by
      have := drop_eq_nil_iff.mp expected
      simp only [CmdDef.respNum] at bounded ⊢
      omega
    obtain ⟨fuel, rfl⟩ : ∃ fuel, rounds = fuel + 1 := ⟨rounds - 1, by omega⟩
    refine ⟨parser, datalen, ?_, ?_⟩
    · rw [← full]
      simpa [paramStream, paramValues, encodeParams] using atParam
    · have noneMissing : parser.handlerCmd.respNum ≤ parser.reader.numParams := by
        rw [atParam.handlerCmd, atParam.numParams, full]
      rw [startReadParam, if_pos noneMissing]
      rfl
  | cons fmt formats ih =>
    obtain ⟨fuel, rfl⟩ : ∃ fuel, rounds = fuel + 1 := ⟨rounds - 1, by omega⟩
    obtain ⟨missing, -⟩ := nextParam_ready atParam expected
    rw [show missingParams (fmt :: formats) = .bare [] :: missingParams formats from rfl,
      paramStream_cons, length_append] at room
    obtain ⟨after, wasStored, closed⟩ := paramByte_missing atParam expected
      (by rw [Param.size]; omega) isOver
    have stored := atParam.stored wasStored
    have next : (base.registry.cmdOf .command).respFormat.drop (count + 1) = formats := by
      rw [← drop_drop, expected]
      rfl
    have bounded' : count + 1 ≤ (base.registry.cmdOf .command).respNum := by
      rw [atParam.handlerCmd, atParam.numParams] at missing
      exact missing
    have enough' : formats.length < fuel := by simpa using enough
    obtain ⟨last, datalen', atLast, read⟩ := ih stored next bounded'
      (by rw [length_append]; omega) enough'
    refine ⟨last, datalen', ?_, ?_⟩
    · rw [show missingParams (fmt :: formats) = .bare [] :: missingParams formats from rfl,
        paramStream_cons, ← append_assoc]
      exact atLast
    · have restart : parser.nextParam.parseParameterByte reaction char true =
          (parser.stored after, true) := by
        rw [← isOver, parseParameterByte_eq]
        simp only [closed, isOver, ↓reduceIte]
        exact lineEnd_silent reaction (stored.silentEnd silent) true
      rw [startReadParam, if_neg (by omega), restart]
      simp only [↓reduceIte]
      exact read

theorem closeLine_single (bounded : count ≤ (base.registry.cmdOf .command).respNum)
    (room : stream.length + (paramStream ((base.registry.cmdOf .command).respFormat.drop count)
      (missingParams ((base.registry.cmdOf .command).respFormat.drop count))).length ≤
      maxResponseStreamLen) :
    ∃ next datalen', AtParam base .command
        (stream ++ paramStream ((base.registry.cmdOf .command).respFormat.drop count)
          (missingParams ((base.registry.cmdOf .command).respFormat.drop count)))
        (base.registry.cmdOf .command).respNum datalen' next ∧
      closeLine reaction parser char =
        { next with state := .reset, reader := next.reader.clearParam } := by
  have enough : ((base.registry.cmdOf .command).respFormat.drop count).length <
      parser.readRounds := by
    rw [readRounds, atParam.handlerCmd, length_drop, CmdDef.respNum]
    omega
  obtain ⟨next, datalen', atNext, read⟩ :=
    startReadParam_missing reaction silent isOver atParam rfl bounded room enough
  refine ⟨next, datalen', atNext, ?_⟩
  simp only [closeLine, lineEnd_silent reaction (atParam.silentEnd silent), ↓reduceIte]
  exact read

end

theorem closeLine_multiple (multiple : base.registry.command.cmd.flagMultipleResp = true)
    (atParam : AtParam base .command stream count datalen parser) (char : UInt8) :
    closeLine reaction parser char = parser.handleResponseLine reaction .command := by
  have ended := lineEnd_command reaction atParam.handler true
  rw [atParam.registry, if_pos multiple] at ended
  simp only [closeLine, ended, Bool.false_eq_true, ↓reduceIte]

theorem parseBuffer_skipToEol (skipping : parser.state = .skipToEol)
    (inside : text.all (fun char => !isEndOfLine char) = true) (isOver : isEndOfLine char = true) :
    parser.parseBuffer reaction (text ++ [char]) = { parser with state := .reset } := by
  induction text with
  | nil => simp [parseBuffer, parseByte, skipping, skipToEol, isOver]
  | cons first rest ih =>
    obtain ⟨firstInside, restInside⟩ :
        isEndOfLine first = false ∧ rest.all (fun char => !isEndOfLine char) = true := by
      simpa using inside
    have byte : parser.parseByte reaction first = parser := by
      simp only [parseByte, skipping, skipToEol, firstInside, Bool.false_eq_true, ↓reduceIte]
      rw [← skipping]
    rw [cons_append, parseBuffer, foldl_cons, byte]
    exact ih restInside

theorem parseBuffer_surplus (atStart : parser.state = .startReadParam)
    (full : parser.handlerCmd.respNum ≤ parser.reader.numParams)
    (inside : text.all (fun char => !isEndOfLine char) = true) (isOver : isEndOfLine char = true) :
    parser.parseBuffer reaction (text ++ [char]) =
      { parser with state := .reset, reader := parser.reader.clearParam } := by
  have byte (first : UInt8) : parser.parseByte reaction first =
      skipToEol { parser with reader := parser.reader.clearParam } (isEndOfLine first) := by
    simp only [parseByte, atStart, readRounds, startReadParam, full, ↓reduceIte]
  cases text with
  | nil =>
    show parser.parseByte reaction char = _
    rw [byte, isOver]
    rfl
  | cons first rest =>
    obtain ⟨firstInside, restInside⟩ :
        isEndOfLine first = false ∧ rest.all (fun char => !isEndOfLine char) = true := by
      simpa using inside
    rw [cons_append, parseBuffer, foldl_cons, byte, firstInside]
    exact parseBuffer_skipToEol reaction rfl restInside isOver

theorem parseBuffer_surplusLine (atStart : parser.state = .reset)
    (readable : isResponseName name = true) (routed : parser.registry.route name = .reads handler)
    {tail : Tail} (valid : tail.valid (parser.registry.cmdOf handler).respFormat = true)
    (full : (parser.registry.cmdOf handler).respNum = 0 ∨ tail.surplus = true)
    (room : (paramStream (parser.registry.cmdOf handler).respFormat tail.params).length ≤
      maxResponseStreamLen)
    (endsInside : parser.EndsInside handler tail.params) :
    ∃ next datalen, AtParam parser handler
        (paramStream (parser.registry.cmdOf handler).respFormat tail.params)
        (parser.registry.cmdOf handler).respNum datalen next ∧
      parser.parseBuffer reaction (lineText name tail) =
        { next with state := .reset, reader := next.reader.clearParam } := by
  have named : parser.registry.Named handler := by
    have sound := parser.registry.route_sound name
    rw [routed] at sound
    exact sound
  have known := datalenKnown_of_named named
  have afterEnd (next : Parser n) :
      ({ next with state := .reset, reader := next.reader.clearParam } : Parser n).parseByte
          reaction 10 =
        { next with state := .reset, reader := next.reader.clearParam } := rfl
  cases tail with
  | nothing =>
    have empty : (parser.registry.cmdOf handler).respNum = 0 := by
      simpa [Tail.surplus] using full
    have formats : (parser.registry.cmdOf handler).respFormat = [] :=
      eq_nil_of_length_eq_zero empty
    have front := parseBuffer_named reaction atStart readable routed 13 (Or.inr rfl)
    refine ⟨parser.parseBuffer reaction (name ++ [13]), parser.reader.datalen, ?_, ?_⟩
    · rw [empty, formats]
      exact front
    · have text : lineText name .nothing = (name ++ [13]) ++ ([] ++ [10]) := by
        simp [lineText, Tail.text]
      rw [text, parseBuffer_append]
      refine parseBuffer_surplus reaction front.state ?_ rfl rfl
      rw [front.handlerCmd, empty]
      exact Nat.zero_le _
  | fields params extra =>
    have front := parseBuffer_named reaction atStart readable routed 58 (Or.inl rfl)
    cases extra with
    | none =>
      have empty : (parser.registry.cmdOf handler).respNum = 0 := by
        simpa [Tail.surplus] using full
      have formats : (parser.registry.cmdOf handler).respFormat = [] :=
        eq_nil_of_length_eq_zero empty
      cases params <;> simp [Tail.valid, formats, validParams] at valid
    | some extra =>
      simp only [Tail.valid, Bool.and_eq_true, beq_iff_eq] at valid
      obtain ⟨⟨count, inside⟩, paramsValid⟩ := valid
      cases params with
      | nil =>
        have formats : (parser.registry.cmdOf handler).respFormat = [] :=
          eq_nil_of_length_eq_zero count.symm
        have empty : (parser.registry.cmdOf handler).respNum = 0 := count.symm
        refine ⟨parser.parseBuffer reaction (name ++ [58]), parser.reader.datalen, ?_, ?_⟩
        · rw [empty, formats]
          exact front
        · have text : lineText name (.fields [] (some extra)) =
              ((name ++ [58]) ++ ((32 :: extra) ++ [13])) ++ [10] := by
            simp [lineText, Tail.text, segments, commaSeparated]
          rw [text, parseBuffer_append, parseBuffer_append,
            parseBuffer_surplus reaction front.state _ _ rfl]
          · exact afterEnd _
          · rw [front.handlerCmd, empty]
            exact Nat.zero_le _
          · have spaceInside : isEndOfLine 32 = false := rfl
            simpa [spaceInside] using inside
      | cons first others =>
        have spacedValid : validParams true (parser.registry.cmdOf handler).respFormat
            parser.reader.datalen (first.spaced :: others) = true := by
          rw [validParams_spaced, validParams_datalen known true _ _ 0]
          exact paramsValid
        have stored := parseBuffer_params reaction front rfl spacedValid
          (by rw [drop_zero, paramStream_spaced, length_nil, Nat.zero_add]; exact room)
          (endsInside_spaced endsInside)
        rw [drop_zero, paramStream_spaced, nil_append, Nat.zero_add] at stored
        have whole : (first.spaced :: others).length =
            (parser.registry.cmdOf handler).respNum := count
        rw [whole] at stored
        refine ⟨_, _, stored, ?_⟩
        have text : lineText name (.fields (first :: others) (some extra)) =
            (((name ++ [58]) ++
              (first.spaced :: others).flatMap (fun param => param.text ++ [44])) ++
              (extra ++ [13])) ++ [10] := by
          simp only [lineText, Tail.text, segments, Option.toList_some,
            commaSeparated_append_singleton, flatMap_map]
          simp [Param.text_spaced]
        have noneMissing := Nat.le_of_eq
          (congrArg CmdDef.respNum stored.handlerCmd |>.trans stored.numParams.symm)
        have skipped := parseBuffer_surplus reaction stored.state noneMissing inside
          (show isEndOfLine 13 = true from rfl)
        rw [text, parseBuffer_append, parseBuffer_append reaction parser _ (extra ++ [13]),
          parseBuffer_append reaction parser (name ++ [58]), skipped]
        exact afterEnd _

theorem parseBuffer_completes (parser : Parser n) (atStart : parser.state = .reset)
    (readable : isResponseName name = true) {status : RespStatus}
    (routed : parser.registry.route name = .completes status) :
    parser.parseBuffer reaction (name ++ [13, 10]) =
      { (parser.inName name).completeCommand reaction status (parser.finalInfo status).1
          (parser.finalInfo status).2 with state := .reset } := by
  have word : nullTerminated (parser.inName name).reader.statebuf = name :=
    nullTerminated_name readable
  have follows : (parser.inName name).foundResponseName reaction name =
      ((parser.inName name).completeCommand reaction status (parser.finalInfo status).1
        (parser.finalInfo status).2, false) := by
    rw [foundResponseName_eq_follow]
    show follow reaction _ name (parser.registry.route name) = _
    rw [routed]
    cases status <;> rfl
  rw [parseBuffer_append, parseBuffer_name reaction atStart readable]
  show ((parser.inName name).parseByte reaction 13).parseByte reaction 10 = _
  rw [parseByte_endsName reaction parser readable (Or.inr rfl), endResponseName, word]
  simp only [follows]
  rfl

end Parser

theorem Registry.route_own {registry : Registry n} (active : registry.command.active = true)
    (named : registry.command.cmd.flagPlain = false) :
    registry.route registry.command.cmd.name = .reads .command := by
  simp [route, active, named]

theorem Registry.route_ok {registry : Registry n} (active : registry.command.active = true)
    (other : registry.command.cmd.flagPlain = false → registry.command.cmd.name ≠ nameOk) :
    registry.route nameOk = .completes .ok := by
  have notOwn : ¬ (registry.command.cmd.flagPlain = false ∧ nameOk = registry.command.cmd.name) :=
    fun both => other both.1 both.2.symm
  simp only [route, active, ↓reduceIte, notOwn]

end Thingsee.Modem
