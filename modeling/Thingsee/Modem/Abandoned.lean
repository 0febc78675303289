import Thingsee.Modem.Alike
import Thingsee.Modem.Unsolicited

/-!
Owns what a timed-out command leaves behind in the parser.
`modem_command_timeout_callback` resets the main state and frees slot 0; the
parameter count, the response stream, the error code and the place holder of an
unfinished string stay as they are. `leavesNoTrace_iff` says that the next
command is served as by a fresh parser exactly if none of these four was in use.

* The one direction is `parseBuffer_alike`: all other members are written before
  they are read.
* For the other direction each of the four has a command that shows it.
-/

namespace Thingsee.Modem

open Support

variable {n : Nat}

namespace Parser

variable {parser : Parser n} {callback : Nat}

/-- The parser once the active command has timed out and `cmd` is sent. -/
def afterTimeout (parser : Parser n) (cmd : Command) (callback : Nat) : Parser n :=
  (parser.commandTimeoutCallback (quiet n)).request (.sendRaw cmd callback true)

/-- A zeroed parser with the unsolicited handlers of `parser`, once `cmd` is
sent. -/
def fromScratch (parser : Parser n) (cmd : Command) (callback : Nat) : Parser n :=
  ({ zeroed n with
    registry := { Registry.zeroed n with urcs := parser.registry.urcs } } : Parser n).request
      (.sendRaw cmd callback true)

/-- The callbacks `bytes` make to the handler of the active command. -/
def Answers (parser : Parser n) (bytes : List UInt8) (calls : List (Callback n)) : Prop :=
  callsTo .command (parser.parseBuffer (quiet n) bytes).registry.log =
    callsTo .command parser.registry.log ++ calls

/-- Whatever command comes next and whatever is received then, its handler gets
the same callbacks as from a fresh parser. -/
def LeavesNoTrace (parser : Parser n) : Prop :=
  ∀ cmd callback bytes, ∃ calls, (parser.afterTimeout cmd callback).Answers bytes calls ∧
    (parser.fromScratch cmd callback).Answers bytes calls

/-- The members a timeout leaves behind are as in a zeroed parser. -/
def Unused (parser : Parser n) : Prop :=
  parser.reader.numParams = 0 ∧ parser.reader.stream = [] ∧ parser.errorcode = 0 ∧
    parser.reader.strlenPos = none

theorem Answers.unique {bytes : List UInt8} {calls others : List (Callback n)}
    (first : parser.Answers bytes calls) (second : parser.Answers bytes others) :
    calls = others :=
  List.append_cancel_left (first.symm.trans second)

theorem afterTimeout_eq (active : parser.registry.command.active = true) (cmd : Command)
    (callback : Nat) :
    ∃ registry : Registry n, registry.command = ⟨true, cmd, callback⟩ ∧
      registry.urcs = parser.registry.urcs ∧
      parser.afterTimeout cmd callback = { parser with state := .reset, registry := registry } := by
  have timedOut : parser.commandTimeoutCallback (quiet n) =
      { parser with
        state := .reset
        registry := (parser.commandTimeoutCallback (quiet n)).registry } := by
    simp only [commandTimeoutCallback, active, ↓reduceIte]
  refine ⟨(parser.afterTimeout cmd callback).registry, ?_, ?_, ?_⟩
  · simp only [afterTimeout, commandTimeoutCallback, active, ↓reduceIte, request,
      Registry.unregister_command active]
    rfl
  · simp only [afterTimeout, commandTimeoutCallback, active, ↓reduceIte, request,
      Registry.unregister_command active]
    rfl
  · rw [afterTimeout, timedOut]
    rfl

theorem fromScratch_eq (parser : Parser n) (cmd : Command) (callback : Nat) :
    ∃ registry : Registry n, registry.command = ⟨true, cmd, callback⟩ ∧
      registry.urcs = parser.registry.urcs ∧
      parser.fromScratch cmd callback = { zeroed n with registry := registry } :=
  ⟨(parser.fromScratch cmd callback).registry, rfl, rfl, rfl⟩

theorem leavesNoTrace_of_unused (active : parser.registry.command.active = true)
    (unused : parser.Unused) : parser.LeavesNoTrace := by
  intro cmd callback bytes
  obtain ⟨registry, isCommand, sameUrcs, left⟩ := afterTimeout_eq active cmd callback
  obtain ⟨fresh, freshCommand, freshUrcs, right⟩ := fromScratch_eq parser cmd callback
  obtain ⟨numParams, stream, errorcode, strlenPos⟩ := unused
  have alike : Alike registry.log fresh.log (parser.afterTimeout cmd callback)
      (parser.fromScratch cmd callback) := by
    rw [left, right]
    refine AlikeBase.atReset ⟨⟨isCommand.trans freshCommand.symm, sameUrcs.trans freshUrcs.symm,
      [], by simp, by simp⟩, errorcode, stream, numParams, strlenPos, ?_⟩ rfl rfl
    exact fun isOpen => absurd strlenPos isOpen
  obtain ⟨events, leftLog, rightLog⟩ := (parseBuffer_alike alike bytes).registry.log
  refine ⟨callsTo .command events, ?_, ?_⟩
  · rw [Answers, leftLog, left]
    simp [callsTo]
  · rw [Answers, rightLog, right]
    simp [callsTo]

def bareCommand : Command := .bare [65] 0

def numberA : Command := .number [65] false

def numberLines : Command := .number [65] true

def plainCommand : Command where
  name := [65]
  respFormat := [.stringToEol]
  flagPlain := true
  notErrorcode := rfl
  respNumFits := by decide
  plainFormat := by decide
  datalenKnown := rfl

theorem answers_completes (atStart : parser.state = .reset)
    (active : parser.registry.command.active = true) {name : List UInt8}
    (readable : isResponseName name = true) {status : RespStatus}
    (routed : parser.registry.route name = .completes status) :
    parser.Answers (name ++ [13, 10])
      [⟨.command, parser.registry.command.callback, parser.registry.command.cmd.toCmdDef, status,
        (parser.finalInfo status).1, parser.reader.numParams, (parser.finalInfo status).2,
        false⟩] := by
  rw [Answers, parseBuffer_completes (quiet n) parser atStart readable routed]
  exact Registry.callsTo_completeCommand (quiet n) active status _ _ _

theorem route_bareCommand {registry : Registry n}
    (isCommand : registry.command = ⟨true, bareCommand, callback⟩) :
    registry.route nameError = .completes .error ∧ registry.route nameOk = .completes .ok := by
  have notError : nameError ≠ [65] := by decide
  have errorNotOk : nameError ≠ nameOk := by decide
  have notOk : nameOk ≠ [65] := by decide
  constructor <;>
    simp [Registry.route, isCommand, bareCommand, Command.bare, notError, errorNotOk, notOk]

theorem numParams_of_leavesNoTrace (active : parser.registry.command.active = true)
    (noTrace : parser.LeavesNoTrace) : parser.reader.numParams = 0 := by
  obtain ⟨calls, left, right⟩ := noTrace bareCommand 0 (nameError ++ [13, 10])
  obtain ⟨registry, isCommand, -, leftEq⟩ := afterTimeout_eq active bareCommand 0
  obtain ⟨fresh, freshCommand, -, rightEq⟩ := fromScratch_eq parser bareCommand 0
  rw [leftEq] at left
  rw [rightEq] at right
  have shown := left.unique (answers_completes rfl (by simp [isCommand]) (by decide)
    (route_bareCommand isCommand).1)
  have expected := right.unique (answers_completes rfl (by simp [freshCommand]) (by decide)
    (route_bareCommand freshCommand).1)
  have same := congrArg (List.map Callback.numParams) (shown.symm.trans expected)
  simpa [zeroed, Reader.zeroed] using same

theorem stream_of_leavesNoTrace (active : parser.registry.command.active = true)
    (noTrace : parser.LeavesNoTrace) : parser.reader.stream = [] := by
  obtain ⟨calls, left, right⟩ := noTrace bareCommand 0 (nameOk ++ [13, 10])
  obtain ⟨registry, isCommand, -, leftEq⟩ := afterTimeout_eq active bareCommand 0
  obtain ⟨fresh, freshCommand, -, rightEq⟩ := fromScratch_eq parser bareCommand 0
  rw [leftEq] at left
  rw [rightEq] at right
  have shown := left.unique (answers_completes rfl (by simp [isCommand]) (by decide)
    (route_bareCommand isCommand).2)
  have expected := right.unique (answers_completes rfl (by simp [freshCommand]) (by decide)
    (route_bareCommand freshCommand).2)
  have same := congrArg (List.map Callback.stream) (shown.symm.trans expected)
  simpa [finalInfo, okStream, isCommand, freshCommand, bareCommand, Command.bare, zeroed,
    Reader.zeroed] using same

theorem answers_numberLine (atStart : parser.state = .reset)
    (isCommand : parser.registry.command = ⟨true, numberLines, callback⟩) :
    parser.Answers (lineText [65] (.fields [.bare [49]] none))
      [⟨.command, callback, numberLines.toCmdDef, .line, parser.errorcode, 1, some [1], true⟩] := by
  have active : parser.registry.command.active = true := by rw [isCommand]
  have named : parser.registry.command.cmd.flagPlain = false := by rw [isCommand]; rfl
  have multiple : parser.registry.command.cmd.flagMultipleResp = true := by rw [isCommand]; rfl
  have formats : (parser.registry.cmdOf .command).respFormat = [.int8] := by
    simp only [Registry.cmdOf, isCommand]
    rfl
  have routed := parser.registry.route_own active named
  rw [show parser.registry.command.cmd.name = [65] by rw [isCommand]; rfl] at routed
  have valid : (Tail.fields [.bare [49]] none).valid
      (parser.registry.cmdOf .command).respFormat = true := by
    rw [formats]
    rfl
  have inside := endsInside_of_oneLine parser .command
    (show (Tail.fields [.bare [49]] none).text.all (fun char => !isEndOfLine char) = true from rfl)
  obtain ⟨next, datalen, char, rest, atNext, isOver, restOver, read⟩ :=
    parseBuffer_line (quiet n) atStart (by decide) routed valid
      (by simp [CmdDef.respNum, formats]) rfl (by rw [formats]; decide) inside
  have reported := closeLine_multiple (quiet n) multiple atNext char
  have stream : next.reader.stream = [1] := by
    rw [atNext.stream, formats]
    decide
  have count : next.reader.numParams = 1 := atNext.numParams
  rw [Answers, read, reported, parseBuffer_emptyLines (quiet n) _ rfl restOver]
  simp only [handleResponseLine, Registry.doCallback, Registry.callsTo_call, ↓reduceIte, stream,
    count, atNext.errorcode, atNext.registry]
  simp [Registry.disarm, Registry.callbackOf, Registry.cmdOf, isCommand]

theorem errorcode_of_leavesNoTrace (active : parser.registry.command.active = true)
    (noTrace : parser.LeavesNoTrace) : parser.errorcode = 0 := by
  obtain ⟨calls, left, right⟩ :=
    noTrace numberLines 0 (lineText [65] (.fields [.bare [49]] none))
  obtain ⟨registry, isCommand, -, leftEq⟩ := afterTimeout_eq active numberLines 0
  obtain ⟨fresh, freshCommand, -, rightEq⟩ := fromScratch_eq parser numberLines 0
  rw [leftEq] at left
  rw [rightEq] at right
  have shown := left.unique (answers_numberLine rfl isCommand)
  have expected := right.unique (answers_numberLine rfl freshCommand)
  have same := congrArg (List.map Callback.errorcode) (shown.symm.trans expected)
  simpa [zeroed] using same

theorem answers_plainLine (atStart : parser.state = .reset)
    (isCommand : parser.registry.command = ⟨true, plainCommand, callback⟩) :
    parser.Answers ([65, 13, 10] ++ (nameOk ++ [13, 10]))
      [⟨.command, callback, plainCommand.toCmdDef, .ok, 0, 1,
        some (parser.plainClosed [65] [65]).stream, false⟩] := by
  have active : parser.registry.command.active = true := by rw [isCommand]
  have format : parser.registry.command.cmd.respFormat = [.stringToEol] := by
    rw [isCommand]
    rfl
  have single : parser.registry.command.cmd.flagMultipleResp = false := by rw [isCommand]; rfl
  have routed : parser.registry.route [65] = .readsPlain := by
    have notOk : [65] ≠ nameOk := by decide
    have notError : [65] ≠ nameError := by decide
    have notCme : [65] ≠ nameCmeError := by decide
    have notCms : [65] ≠ nameCmsError := by decide
    simp [Registry.route, Registry.routeOther, Registry.findResponseHandlerByName, isCommand,
      plainCommand, notOk, notError, notCme, notCms, sameNameIgnoringCase]
  let ready : Parser n :=
    { parser with
      state := .reset
      handler := some .command
      reader := (parser.plainClosed [65] [65]).clearParam }
  have line : parser.parseBuffer (quiet n) ([65] ++ [] ++ [13]) = ready := by
    rw [parseBuffer_plainText (quiet n) atStart (by decide) routed (by decide)]
    rw [doReadParam_plainEnd (quiet n) parser [65] _ format, if_neg (by simp [single])]
    rfl
  have okRouted : ready.registry.route nameOk = .completes .ok :=
    parser.registry.route_ok active (by simp [isCommand, plainCommand])
  have isReady : ready.state = .reset := rfl
  have completed := answers_completes isReady active (by decide) okRouted
  have text : [65, 13, 10] ++ (nameOk ++ [13, 10]) =
      ([65] ++ [] ++ [13]) ++ ([10] ++ (nameOk ++ [13, 10])) := rfl
  have feed : ready.parseBuffer (quiet n) ([10] ++ (nameOk ++ [13, 10])) =
      ready.parseBuffer (quiet n) (nameOk ++ [13, 10]) := rfl
  have okStream : ready.okStream = (parser.plainClosed [65] [65]).stream := by
    simp only [Parser.okStream, ready, single, Bool.false_eq_true, ↓reduceIte]
    rfl
  have count : ready.reader.numParams = 1 := parser.plainClosed_numParams [65] [65]
  rw [Answers, text, parseBuffer_append, line, feed, completed, count]
  simp only [finalInfo, okStream, ready, isCommand]

theorem plainClosed_length (parser : Parser n) :
    (parser.plainClosed [65] [65]).stream.length =
      if parser.reader.strlenPos = none then 4 else 2 := by
  have first : plainByte
      { parser.reader with
        statebuf := [65], numParams := 0, stream := [], fmt := .stringToEol } 65 =
      (parser.inPlain [65] [65]).reader := rfl
  rw [plainClosed, ← first]
  cases position : parser.reader.strlenPos with
  | none =>
    simp [plainByte, Reader.formatByte, Reader.openString, position, Reader.streamGetStrlenpos,
      Reader.hasRoom, maxResponseStreamLen, Reader.streamPutChar, Reader.closeString,
      Reader.streamPut, Reader.streamSetStrlen]
  | some place =>
    simp [plainByte, Reader.formatByte, Reader.openString, position,
      Reader.hasRoom, maxResponseStreamLen, Reader.streamPutChar, Reader.closeString,
      Reader.streamPut, Reader.streamSetStrlen]

theorem strlenPos_of_leavesNoTrace (active : parser.registry.command.active = true)
    (noTrace : parser.LeavesNoTrace) : parser.reader.strlenPos = none := by
  obtain ⟨calls, left, right⟩ :=
    noTrace plainCommand 0 ([65, 13, 10] ++ (nameOk ++ [13, 10]))
  obtain ⟨registry, isCommand, -, leftEq⟩ := afterTimeout_eq active plainCommand 0
  obtain ⟨fresh, freshCommand, -, rightEq⟩ := fromScratch_eq parser plainCommand 0
  rw [leftEq] at left
  rw [rightEq] at right
  have shown := left.unique (answers_plainLine rfl isCommand)
  have expected := right.unique (answers_plainLine rfl freshCommand)
  have same := congrArg (List.map (fun call => (call.stream.getD []).length))
    (shown.symm.trans expected)
  simp only [List.map_cons, List.map_nil, Option.getD_some, plainClosed_length] at same
  by_contra known
  simp [known, zeroed, Reader.zeroed] at same

/-- An abandoned command leaves no trace exactly if it left no parameter count,
no stream, no error code and no place holder behind. -/
theorem leavesNoTrace_iff (parser : Parser n) (active : parser.registry.command.active = true) :
    parser.LeavesNoTrace ↔ parser.Unused := by
  constructor
  · intro noTrace
    exact ⟨numParams_of_leavesNoTrace active noTrace, stream_of_leavesNoTrace active noTrace,
      errorcode_of_leavesNoTrace active noTrace, strlenPos_of_leavesNoTrace active noTrace⟩
  · exact leavesNoTrace_of_unused active

/-- The parser while a command with one number waits. -/
def waitingForNumber : Parser 0 := (zeroed 0).request (.sendRaw numberA 7 true)

/-- A timeout inside of the response name leaves nothing behind. -/
theorem leavesNoTrace_in_name :
    (waitingForNumber.parseBuffer (quiet 0) [65]).LeavesNoTrace :=
  (leavesNoTrace_iff (waitingForNumber.parseBuffer (quiet 0) [65]) (by decide)).mpr
    ⟨by decide, by decide, by decide, by decide⟩

/-- A timeout between `A: 5` and its `OK`: the `ERROR` of the next command comes
with the parameter count of this one. -/
theorem trace_of_information_line :
    ¬ (waitingForNumber.parseBuffer (quiet 0) [65, 58, 32, 53, 13, 10]).LeavesNoTrace := by
  intro noTrace
  obtain ⟨calls, left, right⟩ := noTrace bareCommand 3 (nameError ++ [13, 10])
  have shown : calls =
      [⟨.command, 3, bareCommand.toCmdDef, .error, -1, 1, none, false⟩] :=
    left.unique (by unfold Answers; decide)
  have expected : calls =
      [⟨.command, 3, bareCommand.toCmdDef, .error, -1, 0, none, false⟩] :=
    right.unique (by unfold Answers; decide)
  exact absurd (shown.symm.trans expected) (by decide)

end Parser

end Thingsee.Modem
