import Thingsee.Modem.PlainVerbatim

/-!
Owns whole response transcripts of a command with unsolicited lines in between:
what the command's handler sees of them (`NonInterfering`), compared with the
same transcript alone.

The command and the unsolicited handlers share one parameter count, one stream,
one error code and one place for a string's length. An unsolicited line clears
them all, so what an information line, or the time before the response, has left
in them for a later line is lost to it. `Residues` follows the four from line to
line, and `nonInterfering_iff` says that this loss is all that can happen.
-/

namespace Thingsee.Modem

open Support List

variable {n : Nat}

/-- A complete line in front of the final one: an information line with
parameters, a plain information line, or an unsolicited line. -/
inductive Line (n : Nat) where
  | fields (name : List UInt8) (tail : Tail)
  | plain (name rest : List UInt8)
  | unsolicited (index : Fin n) (name : List UInt8) (params : List Param)

/-- The final line of a response. The text behind an error code's name is
free. -/
inductive Final where
  | ok
  | error
  | cmeError (text : List UInt8)
  | cmsError (text : List UInt8)

namespace Line

def text : Line n → List UInt8
  | .fields name tail => lineText name tail
  | .plain name rest => name ++ rest ++ [13, 10]
  | .unsolicited _ name params => lineText name (.fields params none)

def isUnsolicited : Line n → Bool
  | .unsolicited _ _ _ => true
  | _ => false

def isPlain : Line n → Bool
  | .plain _ _ => true
  | _ => false

def isFinalName (name : List UInt8) : Bool :=
  name == nameOk || name == nameError || name == nameCmeError || name == nameCmsError

/-- Whether a line is one of the active command, or one of a registered
unsolicited handler with at least one and at most `resp_num` parameters, and its
parameters fit the stream. The name of an unsolicited line is not, ignoring case,
that of the command: the command is found first. -/
def Valid (registry : Registry n) : Line n → Prop
  | .fields name tail =>
    isResponseName name = true ∧ registry.route name = .reads .command ∧
      tail.valid registry.command.cmd.respFormat = true ∧
      tail.text.all (fun char => !isEndOfLine char) = true ∧
      (paramStream registry.command.cmd.respFormat
        (filledParams registry.command.cmd.respFormat tail.params)).length ≤ maxResponseStreamLen
  | .plain name rest => Parser.plainSplit name rest = true ∧ registry.route name = .readsPlain
  | .unsolicited index name params =>
    isResponseName name = true ∧ isFinalName name = false ∧
      registry.findResponseHandlerByName name = some (.urc index) ∧ params ≠ [] ∧
      validParams false (registry.urcs index).cmd.respFormat 0 params = true ∧
      (Tail.fields params none).text.all (fun char => !isEndOfLine char) = true ∧
      (paramStream (registry.urcs index).cmd.respFormat params).length ≤ maxResponseStreamLen

instance (registry : Registry n) : (line : Line n) → Decidable (line.Valid registry)
  | .fields _ _ => inferInstanceAs (Decidable (_ ∧ _ ∧ _ ∧ _ ∧ _))
  | .plain _ _ => inferInstanceAs (Decidable (_ ∧ _))
  | .unsolicited _ _ _ => inferInstanceAs (Decidable (_ ∧ _ ∧ _ ∧ _ ∧ _ ∧ _ ∧ _))

/-- What an information line leaves: whether it is reported as a line of its
own, and its parameter count and stream. -/
structure Outcome where
  reported : Bool
  numParams : Nat
  stream : List UInt8

def plainStream (name text : List UInt8) : List UInt8 :=
  ((Parser.zeroed 0).plainClosed name text).stream

def outcome (cmd : CmdDef) : Line n → Outcome
  | .fields _ tail =>
    if cmd.respNum = 0 ∨ tail.surplus = true then
      ⟨false, cmd.respNum, paramStream cmd.respFormat tail.params⟩
    else if cmd.flagMultipleResp then
      ⟨true, tail.params.length, paramStream cmd.respFormat tail.params⟩
    else ⟨false, cmd.respNum, paramStream cmd.respFormat (filledParams cmd.respFormat tail.params)⟩
  | .plain name rest => ⟨cmd.flagMultipleResp, 1, plainStream name (name ++ rest)⟩
  | .unsolicited _ _ _ => ⟨false, 0, []⟩

/-- The callback of an unsolicited line. -/
def report (registry : Registry n) : Line n → Option (Callback n)
  | .unsolicited index _ params =>
    some ⟨.urc index, (registry.urcs index).callback, (registry.urcs index).cmd.toCmdDef, .urc, 0,
      params.length, some (paramStream (registry.urcs index).cmd.respFormat params), true⟩
  | _ => none

end Line

namespace Final

def name : Final → List UInt8
  | .ok => nameOk
  | .error => nameError
  | .cmeError _ => nameCmeError
  | .cmsError _ => nameCmsError

/-- What follows the name of a final line. -/
def tail : Final → List UInt8
  | .ok | .error => []
  | .cmeError text | .cmsError text => 58 :: text

def text (final : Final) : List UInt8 := final.name ++ (final.tail ++ [13, 10])

/-- The final line read as an information line, when it bears the command's own
name: `tail` is what follows the name. -/
def ReadsAs (registry : Registry n) (final : Final) (tail : Tail) : Prop :=
  (Line.fields final.name tail : Line n).Valid registry ∧ tail.text = final.tail

/-- Whether a final line is complete, and valid for the command's format when it
bears the command's own name. -/
def Valid (registry : Registry n) (final : Final) : Prop :=
  final.tail.all (fun char => !isEndOfLine char) = true ∧
    (registry.route final.name = .reads .command → ∃ tail, final.ReadsAs registry tail)

end Final

/-! ## Information lines -/

namespace Parser

/-- The parser is in front of a line, and a command waits. -/
structure Boundary (parser : Parser n) : Prop where
  state : parser.state = .reset
  active : parser.registry.command.active = true

/-- The parser behind an information line with the given outcome. -/
structure Informed (parser : Parser n) (outcome : Line.Outcome) (next : Parser n) : Prop where
  boundary : next.Boundary
  registry : next.registry =
    if outcome.reported then
      parser.registry.doCallback (quiet n) .command .line parser.errorcode outcome.numParams
        (some outcome.stream)
    else parser.registry
  numParams : next.reader.numParams = if outcome.reported then 0 else outcome.numParams
  stream : next.reader.stream = if outcome.reported then [] else outcome.stream
  errorcode : next.errorcode = if outcome.reported then 0 else parser.errorcode
  strlenPos : next.reader.strlenPos = none

variable {parser : Parser n}

section

variable {next : Parser n} (boundary : parser.Boundary) {count datalen : Nat} {stream : List UInt8}
  (atNext : AtParam parser .command stream count datalen next)
include boundary atNext

theorem Boundary.reported (stored : 0 < count) :
    Informed parser ⟨true, count, stream⟩ (next.handleResponseLine (quiet n) .command) := by
  have registry : (next.handleResponseLine (quiet n) .command).registry =
      parser.registry.doCallback (quiet n) .command .line parser.errorcode count
        (some stream) := by
    simp only [handleResponseLine, atNext.registry, atNext.errorcode, atNext.numParams,
      atNext.stream]
  refine ⟨⟨rfl, ?_⟩, registry, rfl, rfl, rfl, atNext.strlenPos stored⟩
  rw [registry]
  exact boundary.active

theorem Boundary.kept :
    Informed parser ⟨false, count, stream⟩
      { next with state := .reset, reader := next.reader.clearParam } := by
  refine ⟨⟨rfl, ?_⟩, atNext.registry, atNext.numParams, atNext.stream, atNext.errorcode, rfl⟩
  rw [atNext.registry]
  exact boundary.active

end

theorem parseBuffer_fields (boundary : parser.Boundary) {name : List UInt8} {tail : Tail}
    (valid : (Line.fields name tail : Line n).Valid parser.registry) :
    Informed parser ((Line.fields name tail : Line n).outcome parser.registry.command.cmd.toCmdDef)
      (parser.parseBuffer (quiet n) (lineText name tail)) := by
  obtain ⟨readable, routed, tailValid, oneLine, room⟩ := valid
  have inside := endsInside_of_oneLine parser .command oneLine
  let cmd := parser.registry.command.cmd
  have ownRoom := (paramStream_length_le cmd.respFormat tail.params _).trans room
  by_cases full : cmd.respNum = 0 ∨ tail.surplus = true
  · obtain ⟨next, datalen, atNext, read⟩ :=
      parseBuffer_surplusLine (quiet n) boundary.state readable routed tailValid full ownRoom inside
    rw [read, Line.outcome, if_pos full]
    exact boundary.kept atNext
  · obtain ⟨expected, exact⟩ : 1 ≤ cmd.respNum ∧ tail.surplus = false := by
      push Not at full
      exact ⟨Nat.one_le_iff_ne_zero.mpr full.1, by simpa using full.2⟩
    have short : tail.params.length ≤ cmd.respFormat.length :=
      Tail.params_length tailValid expected exact
    rw [paramStream_filledParams short, length_append] at room
    obtain ⟨next, datalen, char, rest, atNext, isOver, restOver, read⟩ :=
      parseBuffer_line (quiet n) boundary.state readable routed tailValid expected exact
        ownRoom inside
    rw [read, Line.outcome, if_neg full]
    by_cases multiple : cmd.flagMultipleResp = true
    · rw [if_pos multiple, closeLine_multiple (quiet n) multiple atNext,
        parseBuffer_emptyLines (quiet n) _ rfl restOver]
      exact boundary.reported atNext (Tail.params_pos tailValid exact)
    · have silent : parser.SilentLines .command := ⟨rfl, by simpa using multiple⟩
      obtain ⟨last, datalen', atLast, closed⟩ :=
        closeLine_single (quiet n) silent isOver atNext short room
      rw [if_neg multiple, closed, parseBuffer_emptyLines (quiet n) _ rfl restOver,
        paramStream_filledParams short]
      exact boundary.kept atLast

theorem plainClosed_stream (closed : parser.reader.strlenPos = none) (name text : List UInt8) :
    (parser.plainClosed name text).stream = Line.plainStream name text := by
  have start : Reader.Same
      { parser.reader with statebuf := name, numParams := 0, stream := [], fmt := .stringToEol }
      { (zeroed 0).reader with
        statebuf := name, numParams := 0, stream := [], fmt := .stringToEol } :=
    ⟨rfl, rfl, rfl, rfl, closed, fun isOpen => absurd closed isOpen⟩
  have read := foldl_plainByte_same text start rfl
  have isString : Reader.isStringFormat (parser.inPlain name text).reader.fmt = true := by
    rw [inPlain_fmt]
    rfl
  exact (read.openString isString).closeString.stream

theorem closeString_ne_nil (reader : Reader) : reader.closeString.stream ≠ [] := by
  have filled (reader : Reader) : (reader.streamPut [0]).stream ≠ [] := by
    rw [Reader.streamPut]
    split
    · simp
    · next full =>
      rintro (empty : reader.stream = [])
      exact full (by simp [Reader.hasRoom, empty, maxResponseStreamLen])
  have sameLength (reader : Reader) :
      reader.streamSetStrlen.stream.length = reader.stream.length := by
    rw [Reader.streamSetStrlen]
    split
    · simp
    · rfl
  let counted : Reader := { reader with numParams := reader.numParams + 1 }
  rintro (empty : (counted.streamPut [0]).streamSetStrlen.stream = [])
  have length := sameLength (counted.streamPut [0])
  rw [empty] at length
  exact filled counted (eq_nil_of_length_eq_zero length.symm)

/-- What is stored behind a string that was left open has no length of its own,
so it is shorter than the string of the line. -/
theorem plainClosed_short (isOpen : parser.reader.strlenPos ≠ none) {name text : List UInt8}
    (noSpace : text.head? ≠ some 32) (fits : (encodeString text).length ≤ maxResponseStreamLen) :
    (parser.plainClosed name text).stream ≠ Line.plainStream name text := by
  intro same
  have short := plainClosed_length_le parser name text
  have whole : Line.plainStream name text = encodeString text :=
    plainClosed_whole name rfl noSpace fits
  rw [same, whole, lengthBytes, if_neg isOpen] at short
  simp only [encodeString, leBytes_length, length_append, length_singleton] at short
  omega

theorem parseBuffer_plain (boundary : parser.Boundary) {name rest : List UInt8}
    (valid : (Line.plain name rest : Line n).Valid parser.registry) :
    Informed parser
      ⟨parser.registry.command.cmd.flagMultipleResp, 1,
        (parser.plainClosed name (name ++ rest)).stream⟩
      (parser.parseBuffer (quiet n) (name ++ rest ++ [13, 10])) := by
  obtain ⟨split, routed⟩ := valid
  have sound := parser.registry.route_sound name
  rw [routed] at sound
  have format := parser.registry.command.cmd.plainFormat sound.2
  have text : name ++ rest ++ [13, 10] = (name ++ rest ++ [13]) ++ [10] := by simp
  have count := parser.plainClosed_numParams name (name ++ rest)
  rw [text, parseBuffer_append, parseBuffer_plainText (quiet n) boundary.state split routed rfl,
    doReadParam_plainEnd (quiet n) parser name (name ++ rest) format]
  by_cases multiple : parser.registry.command.cmd.flagMultipleResp = true
  · rw [if_pos multiple, multiple]
    have registry : (({ parser.inPlain name (name ++ rest) with
        reader := parser.plainClosed name (name ++ rest) } : Parser n).handleResponseLine (quiet n)
          .command).registry =
        parser.registry.doCallback (quiet n) .command .line parser.errorcode 1
          (some (parser.plainClosed name (name ++ rest)).stream) := by
      simp only [handleResponseLine, count, inPlain]
    exact ⟨⟨rfl, boundary.active⟩, registry, rfl, rfl, rfl, rfl⟩
  · rw [if_neg multiple, Bool.eq_false_iff.mpr multiple]
    exact ⟨⟨rfl, boundary.active⟩, rfl, count, rfl, rfl, rfl⟩

/-! ## Unsolicited lines -/

structure Notified (parser : Parser n) (index : Fin n) (params : List Param) (next : Parser n) :
    Prop where
  boundary : next.Boundary
  registry : next.registry = parser.registry.doCallback (quiet n) (.urc index) .urc 0 params.length
    (some (paramStream (parser.registry.urcs index).cmd.respFormat params))
  numParams : next.reader.numParams = 0
  stream : next.reader.stream = []
  errorcode : next.errorcode = 0
  strlenPos : next.reader.strlenPos = none

end Parser

theorem Registry.route_unsolicited {registry : Registry n} {name : List UInt8} {index : Fin n}
    (readable : isResponseName name = true) (notFinal : Line.isFinalName name = false)
    (found : registry.findResponseHandlerByName name = some (.urc index)) :
    registry.route name = .reads (.urc index) := by
  have other : registry.routeOther name registry.command.cmd.flagPlain = .reads (.urc index) ∧
      registry.routeOther name false = .reads (.urc index) := by
    simp [routeOther, found]
  have notOwn : registry.command.active = true → name ≠ registry.command.cmd.name := by
    intro active own
    simp [findResponseHandlerByName, active, own, sameNameIgnoringCase] at found
  have notPrompt : name ≠ nameDataPrompt ∧ name ≠ namePduPrompt := by
    constructor <;> rintro rfl <;> exact absurd readable (by decide)
  simp only [Line.isFinalName, Bool.or_eq_false_iff, beq_eq_false_iff_ne] at notFinal
  obtain ⟨⟨⟨notOk, notError⟩, notCme⟩, notCms⟩ := notFinal
  by_cases active : registry.command.active = true
  · simp [route, active, notOwn active, notOk, notPrompt.1, notPrompt.2, notError, notCme, notCms,
      other.1]
  · simp [route, active, other.2]

namespace Parser

theorem parseBuffer_unsolicited {parser : Parser n} (boundary : parser.Boundary) {index : Fin n}
    {name : List UInt8} {params : List Param}
    (valid : (Line.unsolicited index name params).Valid parser.registry) :
    Notified parser index params
      (parser.parseBuffer (quiet n) (lineText name (.fields params none))) := by
  obtain ⟨readable, notFinal, found, filled, paramsValid, oneLine, room⟩ := valid
  have routed := Registry.route_unsolicited readable notFinal found
  have tailValid : (Tail.fields params none).valid (parser.registry.cmdOf (.urc index)).respFormat =
      true := by
    simp only [Tail.valid, Bool.and_eq_true, Bool.not_eq_true', isEmpty_eq_false_iff]
    exact ⟨filled, paramsValid⟩
  have expected : 1 ≤ (parser.registry.cmdOf (.urc index)).respNum :=
    (length_pos_of_ne_nil filled).trans_le (validParams_length paramsValid)
  obtain ⟨next, datalen, char, rest, atNext, isOver, restOver, read⟩ :=
    parseBuffer_line (quiet n) boundary.state readable routed tailValid expected rfl room
      (endsInside_of_oneLine parser (.urc index) oneLine)
  rw [read, closeLine_unsolicited (quiet n) atNext,
    parseBuffer_emptyLines (quiet n) (next.handleUnsolicited (quiet n) (.urc index)) rfl restOver]
  have registry : (next.handleUnsolicited (quiet n) (.urc index)).registry =
      parser.registry.doCallback (quiet n) (.urc index) .urc 0 params.length
        (some (paramStream (parser.registry.urcs index).cmd.respFormat params)) := by
    simp only [handleUnsolicited, atNext.registry, atNext.numParams, atNext.stream]
    rfl
  refine ⟨⟨rfl, ?_⟩, registry, rfl, rfl, rfl, atNext.strlenPos (length_pos_of_ne_nil filled)⟩
  rw [registry]
  exact boundary.active

end Parser

def Event.callToUrc? : Event n → Option (Callback n)
  | .called call =>
    match call.source with
    | .urc _ => some call
    | _ => none
  | .registered _ _ => none

def callsToUrcs (log : List (Event n)) : List (Callback n) := log.filterMap Event.callToUrc?

theorem callsTo_append_called (log : List (Event n)) (callback : Nat) (cmd : CmdDef)
    (status : RespStatus) (errorcode : Int) (numParams : Nat) (stream : Option (List UInt8))
    (active : Bool) :
    callsTo .command (log ++
        [.called ⟨.command, callback, cmd, status, errorcode, numParams, stream, active⟩]) =
      callsTo .command log ++
        [⟨.command, callback, cmd, status, errorcode, numParams, stream, active⟩] := by
  rw [callsTo, filterMap_append]
  rfl

theorem Registry.doCallback_quiet (registry : Registry n) (handler : HandlerRef n)
    (status : RespStatus) (errorcode : Int) (numParams : Nat) (stream : Option (List UInt8)) :
    let next := registry.doCallback (quiet n) handler status errorcode numParams stream
    next.command = registry.command ∧ next.urcs = registry.urcs ∧
      next.log = registry.log ++
        [.called ⟨handler, registry.callbackOf handler, registry.cmdOf handler, status, errorcode,
          numParams, stream, registry.command.active⟩] := by
  cases handler <;> exact ⟨rfl, rfl, rfl⟩

theorem Registry.completeCommand_quiet {registry : Registry n}
    (active : registry.command.active = true) (status : RespStatus) (errorcode : Int)
    (numParams : Nat) (stream : Option (List UInt8)) :
    (registry.completeCommand (quiet n) status errorcode numParams stream).log =
      registry.log ++
        [.called ⟨.command, registry.command.callback, registry.command.cmd.toCmdDef, status,
          errorcode, numParams, stream, false⟩] := by
  rw [completeCommand, unregister_command active]
  rfl

theorem Line.Valid.congr {registry other : Registry n} (command : other.command = registry.command)
    (urcs : other.urcs = registry.urcs) {line : Line n} (valid : line.Valid registry) :
    line.Valid other := by
  cases registry
  cases other
  obtain rfl := command
  obtain rfl := urcs
  cases line <;> exact valid

/-! ## Transcripts with and without unsolicited lines -/

/-- How a value of the parser that has seen the unsolicited lines compares with
the same value of the parser that has not: both are as after a reset, they are
the same, or they differ. -/
inductive Residue where
  | clean
  | kept
  | lost
deriving DecidableEq

namespace Residue

def of (empty : Bool) : Residue := if empty then .clean else .kept

/-- An unsolicited line has reset the value. -/
def heard (residue : Residue) : Residue := if residue = .clean then .clean else .lost

def Holds {α : Type} (zero mixed alone : α) : Residue → Prop
  | .clean => mixed = zero ∧ alone = zero
  | .kept => mixed = alone ∧ alone ≠ zero
  | .lost => mixed ≠ alone ∧ alone ≠ zero

variable {α : Type} {residue : Residue} {zero mixed alone : α}

theorem of_holds (zero value : α) [Decidable (value = zero)] :
    (of (decide (value = zero))).Holds zero value value := by
  by_cases empty : value = zero
  · rw [of, if_pos (decide_eq_true empty)]
    exact ⟨empty, empty⟩
  · rw [of, if_neg (by simpa using empty)]
    exact ⟨rfl, empty⟩

theorem Holds.heard (holds : residue.Holds zero mixed alone) :
    residue.heard.Holds zero zero alone := by
  cases residue with
  | clean => exact ⟨rfl, holds.2⟩
  | kept | lost => exact ⟨holds.2.symm, holds.2⟩

theorem Holds.eq_iff (holds : residue.Holds zero mixed alone) :
    mixed = alone ↔ residue ≠ .lost := by
  cases residue with
  | clean => exact iff_of_true (holds.1.trans holds.2.symm) (by simp)
  | kept => exact iff_of_true holds.1 (by simp)
  | lost => exact iff_of_false holds.1 (by simp)

end Residue

/-- The four values that the command shares with the unsolicited handlers, and
whether the command's handler has been told of a difference. -/
structure Residues where
  numParams : Residue
  stream : Residue
  errorcode : Residue
  openString : Residue
  told : Bool

namespace Residues

def heard (residues : Residues) : Residues where
  numParams := residues.numParams.heard
  stream := residues.stream.heard
  errorcode := residues.errorcode.heard
  openString := residues.openString.heard
  told := residues.told

/-- An information line with `numParams` parameters is over; `stream` compares
what it has left in the stream. Its report passes the error code and the stream
on and resets them. -/
def informed (residues : Residues) (reported : Bool) (numParams : Nat) (stream : Residue) :
    Residues :=
  if reported then
    ⟨.clean, .clean, .clean, .clean,
      residues.told || residues.errorcode == .lost || stream == .lost⟩
  else ⟨.of (decide (numParams = 0)), stream, residues.errorcode, .clean, residues.told⟩

/-- A plain line goes behind a string that was left open; every other string
begins afresh. -/
def streamAfter (residues : Residues) (isPlain : Bool) (stream : List UInt8) : Residue :=
  if isPlain then
    if residues.openString = .clean then .of (decide (stream = [])) else residues.openString
  else .of (decide (stream = []))

def after (cmd : CmdDef) (residues : Residues) (line : Line n) : Residues :=
  if line.isUnsolicited then residues.heard
  else
    residues.informed (line.outcome cmd).reported (line.outcome cmd).numParams
      (residues.streamAfter line.isPlain (line.outcome cmd).stream)

end Residues

namespace Parser

/-- What the time before the response has left. -/
def residuesAtStart (parser : Parser n) : Residues where
  numParams := .of (decide (parser.reader.numParams = 0))
  stream := .of (decide (parser.reader.stream = []))
  errorcode := .of (decide (parser.errorcode = 0))
  openString := .of (decide (parser.reader.strlenPos = none))
  told := false

/-- What there is in front of the final line. -/
def residues (parser : Parser n) (lines : List (Line n)) : Residues :=
  lines.foldl (Residues.after parser.registry.command.cmd.toCmdDef) parser.residuesAtStart

variable {start : Registry n} {residues : Residues} {mixed alone : Parser n}

/-- The places for a string's length. Before the first line the parsers are the
same. -/
def OpenHolds (mixed alone : Parser n) : Residue → Prop
  | .clean => mixed.reader.strlenPos = none ∧ alone.reader.strlenPos = none
  | .kept => mixed = alone ∧ alone.reader.strlenPos ≠ none
  | .lost => mixed.reader.strlenPos = none ∧ alone.reader.strlenPos ≠ none

/-- The parsers that have and have not seen the unsolicited lines, between two
lines of a transcript that began with the handlers of `start`. -/
structure Beside (start : Registry n) (residues : Residues) (mixed alone : Parser n) : Prop where
  mixedBoundary : mixed.Boundary
  aloneBoundary : alone.Boundary
  mixedCommand : mixed.registry.command = start.command
  mixedUrcs : mixed.registry.urcs = start.urcs
  aloneCommand : alone.registry.command = start.command
  aloneUrcs : alone.registry.urcs = start.urcs
  calls : callsTo .command mixed.registry.log = callsTo .command alone.registry.log ↔
    residues.told = false
  numParams : residues.numParams.Holds 0 mixed.reader.numParams alone.reader.numParams
  stream : residues.stream.Holds [] mixed.reader.stream alone.reader.stream
  errorcode : residues.errorcode.Holds 0 mixed.errorcode alone.errorcode
  openString : OpenHolds mixed alone residues.openString

theorem Beside.atStart {parser : Parser n} (boundary : parser.Boundary) :
    Beside parser.registry parser.residuesAtStart parser parser where
  mixedBoundary := boundary
  aloneBoundary := boundary
  mixedCommand := rfl
  mixedUrcs := rfl
  aloneCommand := rfl
  aloneUrcs := rfl
  calls := iff_of_true rfl rfl
  numParams := Residue.of_holds 0 _
  stream := Residue.of_holds [] _
  errorcode := Residue.of_holds 0 _
  openString := by
    show OpenHolds parser parser (.of (decide (parser.reader.strlenPos = none)))
    rw [Residue.of]
    by_cases closed : parser.reader.strlenPos = none
    · rw [if_pos (decide_eq_true closed)]
      exact ⟨closed, closed⟩
    · rw [if_neg (by simpa using closed)]
      exact ⟨rfl, closed⟩

theorem Beside.informed (beside : Beside start residues mixed alone) {reported : Bool}
    {count : Nat} {mixedStream aloneStream : List UInt8} {apart : Residue}
    (streams : apart.Holds [] mixedStream aloneStream) {nextMixed nextAlone : Parser n}
    (mixedSees : Informed mixed ⟨reported, count, mixedStream⟩ nextMixed)
    (aloneSees : Informed alone ⟨reported, count, aloneStream⟩ nextAlone) :
    Beside start (residues.informed reported count apart) nextMixed nextAlone ∧
      callsToUrcs nextMixed.registry.log = callsToUrcs mixed.registry.log := by
  cases reported with
  | true =>
    have mixedRegistry := mixedSees.registry
    have aloneRegistry := aloneSees.registry
    simp only [↓reduceIte] at mixedRegistry aloneRegistry
    obtain ⟨mixedCommand, mixedUrcs, mixedLog⟩ :=
      mixed.registry.doCallback_quiet .command .line mixed.errorcode count (some mixedStream)
    obtain ⟨aloneCommand, aloneUrcs, aloneLog⟩ :=
      alone.registry.doCallback_quiet .command .line alone.errorcode count (some aloneStream)
    rw [← mixedRegistry] at mixedCommand mixedUrcs mixedLog
    rw [← aloneRegistry] at aloneCommand aloneUrcs aloneLog
    have same : (mixed.registry.callbackOf .command = alone.registry.callbackOf .command ∧
        mixed.registry.cmdOf .command = alone.registry.cmdOf .command) ∧
        mixed.registry.command.active = alone.registry.command.active := by
      simp only [Registry.callbackOf, Registry.cmdOf, beside.mixedCommand, beside.aloneCommand,
        and_self]
    refine ⟨⟨mixedSees.boundary, aloneSees.boundary, mixedCommand.trans beside.mixedCommand,
      mixedUrcs.trans beside.mixedUrcs, aloneCommand.trans beside.aloneCommand,
      aloneUrcs.trans beside.aloneUrcs, ?_, ⟨mixedSees.numParams, aloneSees.numParams⟩,
      ⟨mixedSees.stream, aloneSees.stream⟩, ⟨mixedSees.errorcode, aloneSees.errorcode⟩,
      ⟨mixedSees.strlenPos, aloneSees.strlenPos⟩⟩, ?_⟩
    · -- Both reports are appended, and they differ in the error code and the stream alone.
      rw [mixedLog, aloneLog, same.1.1, same.1.2, same.2,
        callsTo_append_called, callsTo_append_called,
        append_singleton_inj, beside.calls]
      simp only [Callback.mk.injEq, true_and, and_true, Option.some.injEq,
        beside.errorcode.eq_iff, streams.eq_iff, Residues.informed, ↓reduceIte,
        Bool.or_eq_false_iff, beq_eq_false_iff_ne, and_assoc]
    · rw [mixedLog]
      simp [callsToUrcs, Event.callToUrc?]
  | false =>
    have mixedRegistry : nextMixed.registry = mixed.registry := mixedSees.registry
    have aloneRegistry : nextAlone.registry = alone.registry := aloneSees.registry
    refine ⟨⟨mixedSees.boundary, aloneSees.boundary, ?_, ?_, ?_, ?_, ?_, ?_, ?_, ?_,
      ⟨mixedSees.strlenPos, aloneSees.strlenPos⟩⟩, ?_⟩
    · rw [mixedRegistry, beside.mixedCommand]
    · rw [mixedRegistry, beside.mixedUrcs]
    · rw [aloneRegistry, beside.aloneCommand]
    · rw [aloneRegistry, beside.aloneUrcs]
    · rw [mixedRegistry, aloneRegistry]
      exact beside.calls
    · rw [mixedSees.numParams, aloneSees.numParams]
      exact Residue.of_holds 0 count
    · rw [mixedSees.stream, aloneSees.stream]
      exact streams
    · rw [mixedSees.errorcode, aloneSees.errorcode]
      exact beside.errorcode
    · rw [mixedRegistry]

theorem Beside.notified (beside : Beside start residues mixed alone) {index : Fin n}
    {name : List UInt8} {params : List Param} {next : Parser n}
    (sees : Notified mixed index params next) :
    Beside start residues.heard next alone ∧
      callsToUrcs next.registry.log = callsToUrcs mixed.registry.log ++
        ((Line.unsolicited index name params).report start).toList := by
  obtain ⟨command, urcs, log⟩ := mixed.registry.doCallback_quiet (.urc index) .urc 0 params.length
    (some (paramStream (mixed.registry.urcs index).cmd.respFormat params))
  rw [← sees.registry] at command urcs log
  refine ⟨⟨sees.boundary, beside.aloneBoundary, command.trans beside.mixedCommand,
    urcs.trans beside.mixedUrcs, beside.aloneCommand, beside.aloneUrcs, ?_, ?_, ?_, ?_, ?_⟩, ?_⟩
  · rw [log, callsTo, filterMap_append]
    simp only [filterMap_cons, filterMap_nil, Event.callTo?, reduceCtorEq, ↓reduceIte,
      append_nil]
    exact beside.calls
  · rw [sees.numParams]
    exact beside.numParams.heard
  · rw [sees.stream]
    exact beside.stream.heard
  · rw [sees.errorcode]
    exact beside.errorcode.heard
  · have places := beside.openString
    rw [Residues.heard]
    cases known : residues.openString with
    | clean =>
      rw [known] at places
      exact ⟨sees.strlenPos, places.2⟩
    | kept | lost =>
      rw [known] at places
      exact ⟨sees.strlenPos, places.2⟩
  · rw [log, callsToUrcs, filterMap_append]
    simp [Event.callToUrc?, Line.report, Registry.callbackOf, Registry.cmdOf, beside.mixedUrcs,
      beside.mixedBoundary.active, callsToUrcs]

/-- The strings of a plain line agree as the places for their lengths do. -/
theorem Beside.plainStreams (beside : Beside start residues mixed alone) (name text : List UInt8)
    (whole : residues.openString ≠ .clean →
      text.head? ≠ some 32 ∧ (encodeString text).length ≤ maxResponseStreamLen) :
    Residue.Holds [] (mixed.plainClosed name text).stream (alone.plainClosed name text).stream
      (residues.streamAfter true (Line.plainStream name text)) := by
  rw [Residues.streamAfter, if_pos rfl]
  have places := beside.openString
  cases known : residues.openString with
  | clean =>
    rw [known] at places
    rw [if_pos rfl, plainClosed_stream places.1, plainClosed_stream places.2]
    exact Residue.of_holds [] _
  | kept =>
    rw [known] at places
    rw [if_neg (by simp)]
    exact ⟨by rw [places.1], closeString_ne_nil _⟩
  | lost =>
    rw [known] at places
    rw [if_neg (by simp)]
    obtain ⟨noSpace, fits⟩ := whole (by simp [known])
    refine ⟨?_, closeString_ne_nil _⟩
    rw [plainClosed_stream places.1]
    exact (plainClosed_short places.2 noSpace fits).symm

/-- What is known of the plain lines of a transcript when a string was left open
before it: they fit the stream, and none begins with a space. -/
def WholePlain (parser : Parser n) (lines : List (Line n)) : Prop :=
  parser.reader.strlenPos ≠ none → ∀ name rest, Line.plain name rest ∈ lines →
    (name ++ rest).head? ≠ some 32 ∧
      (encodeString (name ++ rest)).length ≤ maxResponseStreamLen

theorem Beside.line (beside : Beside start residues mixed alone) {line : Line n}
    (valid : line.Valid start)
    (whole : residues.openString ≠ .clean → ∀ name rest, line = .plain name rest →
      (name ++ rest).head? ≠ some 32 ∧
        (encodeString (name ++ rest)).length ≤ maxResponseStreamLen) :
    Beside start (residues.after start.command.cmd.toCmdDef line)
        (mixed.parseBuffer (quiet n) line.text)
        (if line.isUnsolicited then alone else alone.parseBuffer (quiet n) line.text) ∧
      callsToUrcs (mixed.parseBuffer (quiet n) line.text).registry.log =
        callsToUrcs mixed.registry.log ++ (line.report start).toList := by
  have mixedValid := valid.congr beside.mixedCommand beside.mixedUrcs
  have aloneValid := valid.congr beside.aloneCommand beside.aloneUrcs
  cases line with
  | unsolicited index name params =>
    exact beside.notified (parseBuffer_unsolicited beside.mixedBoundary mixedValid)
  | fields name tail =>
    have mixedSees := parseBuffer_fields beside.mixedBoundary mixedValid
    have aloneSees := parseBuffer_fields beside.aloneBoundary aloneValid
    rw [beside.mixedCommand] at mixedSees
    rw [beside.aloneCommand] at aloneSees
    obtain ⟨next, urcs⟩ := beside.informed (Residue.of_holds [] _) mixedSees aloneSees
    exact ⟨next, urcs.trans (append_nil _).symm⟩
  | plain name rest =>
    have mixedSees := parseBuffer_plain beside.mixedBoundary mixedValid
    have aloneSees := parseBuffer_plain beside.aloneBoundary aloneValid
    rw [beside.mixedCommand] at mixedSees
    rw [beside.aloneCommand] at aloneSees
    have streams := beside.plainStreams name (name ++ rest)
      (fun isOpen => whole isOpen name rest rfl)
    obtain ⟨next, urcs⟩ := beside.informed streams mixedSees aloneSees
    exact ⟨next, urcs.trans (append_nil _).symm⟩

theorem Residues.after_told (cmd : CmdDef) (residues : Residues) (line : Line n)
    (told : residues.told = true) : (residues.after cmd line).told = true := by
  rw [Residues.after]
  split
  · exact told
  · rw [Residues.informed]
    split
    · simp [told]
    · exact told

/-- Only the first line finds a string that was left open. -/
theorem Residues.after_openString (cmd : CmdDef) (residues : Residues) (line : Line n)
    (isOpen : (residues.after cmd line).openString ≠ .clean) :
    residues.openString ≠ .clean := by
  rintro closed
  rw [Residues.after] at isOpen
  split at isOpen
  · exact isOpen (by rw [Residues.heard, closed]; rfl)
  · rw [Residues.informed] at isOpen
    split at isOpen <;> exact isOpen rfl

def linesText (lines : List (Line n)) : List UInt8 := lines.flatMap Line.text

theorem Beside.lines (beside : Beside start residues mixed alone) {lines : List (Line n)}
    (valid : ∀ line ∈ lines, line.Valid start)
    (whole : residues.openString ≠ .clean → ∀ name rest, Line.plain name rest ∈ lines →
      (name ++ rest).head? ≠ some 32 ∧
        (encodeString (name ++ rest)).length ≤ maxResponseStreamLen) :
    Beside start (lines.foldl (Residues.after start.command.cmd.toCmdDef) residues)
        (mixed.parseBuffer (quiet n) (linesText lines))
        (alone.parseBuffer (quiet n) (linesText (lines.filter (fun line => !line.isUnsolicited)))) ∧
      callsToUrcs (mixed.parseBuffer (quiet n) (linesText lines)).registry.log =
        callsToUrcs mixed.registry.log ++ lines.filterMap (Line.report start) := by
  induction lines generalizing residues mixed alone with
  | nil => exact ⟨beside, (append_nil _).symm⟩
  | cons line rest ih =>
    obtain ⟨next, urcs⟩ := beside.line (valid line (by simp))
      (fun isOpen name rest same => whole isOpen name rest (by simp [same]))
    obtain ⟨last, laterUrcs⟩ :=
      ih next (fun later member => valid later (by simp [member]))
        (fun isOpen name rest member =>
          whole (Residues.after_openString _ _ _ isOpen) name rest (mem_cons_of_mem _ member))
    have mixedText : linesText (line :: rest) = line.text ++ linesText rest := rfl
    have aloneText : alone.parseBuffer (quiet n)
          (linesText ((line :: rest).filter (fun line => !line.isUnsolicited))) =
        (if line.isUnsolicited then alone else alone.parseBuffer (quiet n) line.text).parseBuffer
          (quiet n) (linesText (rest.filter (fun line => !line.isUnsolicited))) := by
      cases kind : line.isUnsolicited with
      | true => rw [filter_cons_of_neg (by simp [kind]), if_pos rfl]
      | false =>
        rw [filter_cons_of_pos (by simp [kind]), if_neg Bool.false_ne_true,
          ← parseBuffer_append]
        rfl
    rw [mixedText, aloneText, parseBuffer_append, foldl_cons]
    refine ⟨last, laterUrcs.trans ?_⟩
    rw [urcs, append_assoc]
    congr 1
    cases report : line.report start <;> simp [report]

/-! ## Final lines -/

/-- The callbacks to the command are the same with and without the unsolicited
lines, and each of these makes exactly one callback, in order. -/
def NonInterfering (parser : Parser n) (lines : List (Line n)) (final : Final) : Prop :=
  let mixed := parser.parseBuffer (quiet n) (linesText lines ++ final.text)
  let alone := parser.parseBuffer (quiet n)
    (linesText (lines.filter (fun line => !line.isUnsolicited)) ++ final.text)
  callsTo .command mixed.registry.log = callsTo .command alone.registry.log ∧
    callsToUrcs mixed.registry.log =
      callsToUrcs parser.registry.log ++ lines.filterMap (Line.report parser.registry)

theorem parseBuffer_log {parser : Parser n} (atStart : parser.state = .reset)
    (bytes : List UInt8) :
    ∃ events, (parser.parseBuffer (quiet n) bytes).registry.log =
      parser.registry.log ++ events := by
  have alike : Alike parser.registry.log parser.registry.log parser parser :=
    AlikeBase.atReset ⟨⟨rfl, rfl, [], by simp, by simp⟩, rfl, rfl, rfl, rfl, fun _ => rfl⟩ atStart
      atStart
  obtain ⟨events, log, -⟩ := (parseBuffer_alike alike bytes).registry.log
  exact ⟨events, log⟩

theorem callsToUrcs_of_callsTo {log events : List (Event n)}
    (nothing : ∀ index, callsTo (.urc index) (log ++ events) = callsTo (.urc index) log) :
    callsToUrcs (log ++ events) = callsToUrcs log := by
  have none : ∀ event ∈ events, Event.callToUrc? event = none := by
    intro event member
    by_contra called
    obtain ⟨call, isCall⟩ := Option.ne_none_iff_exists'.mp called
    cases event with
    | registered cmd callback => simp [Event.callToUrc?] at isCall
    | called made =>
      cases source : made.source with
      | command | internalError => simp [Event.callToUrc?, source] at isCall
      | urc index =>
        have empty : callsTo (.urc index) events = [] := by
          have := nothing index
          rw [callsTo, filterMap_append] at this
          exact append_right_eq_self.mp this
        have listed : made ∈ callsTo (.urc index) events :=
          mem_filterMap.mpr ⟨.called made, member, by simp [Event.callTo?, source]⟩
        rw [empty] at listed
        simp at listed
  rw [callsToUrcs, filterMap_append, filterMap_eq_nil_iff.mpr none, append_nil]
  rfl

end Parser

namespace Final

theorem name_readable (final : Final) : isResponseName final.name = true := by
  cases final <;> rfl

theorem tail_separated (final : Final) : final.tail = [] ∨ final.tail.head? = some 58 := by
  cases final with
  | ok | error => exact Or.inl rfl
  | cmeError text | cmsError text => exact Or.inr rfl

theorem route_name {registry : Registry n} (active : registry.command.active = true)
    (final : Final) :
    registry.route final.name = .reads .command ∨
      (∃ status, registry.route final.name = .readsErrorcode status) ∨
      ∃ status, registry.route final.name = .completes status ∧ final.tail = [] := by
  by_cases own : registry.command.cmd.flagPlain = false ∧ final.name = registry.command.cmd.name
  · left
    simp only [Registry.route, active, ↓reduceIte, if_pos own]
  · right
    have notPrompt : ¬ ((registry.command.cmd.flagDataPrompt = true ∧
        final.name = nameDataPrompt) ∨
        (registry.command.cmd.flagPduPrompt = true ∧ final.name = namePduPrompt)) := by
      have readable := final.name_readable
      rintro (⟨-, isPrompt⟩ | ⟨-, isPrompt⟩) <;> rw [isPrompt] at readable <;>
        exact absurd readable (by decide)
    have others : nameError ≠ nameOk ∧ nameCmeError ≠ nameOk ∧ nameCmeError ≠ nameError ∧
        nameCmsError ≠ nameOk ∧ nameCmsError ≠ nameError ∧ nameCmsError ≠ nameCmeError := by
      decide
    obtain ⟨errorOk, cmeOk, cmeError, cmsOk, cmsError, cmsCme⟩ := others
    simp only [Registry.route, active, ↓reduceIte, if_neg own, if_neg notPrompt]
    cases final with
    | ok => exact Or.inr ⟨.ok, by simp [name], rfl⟩
    | error => exact Or.inr ⟨.error, by simp [name, errorOk], rfl⟩
    | cmeError text => exact Or.inl ⟨.cmeError, by simp [name, cmeOk, cmeError]⟩
    | cmsError text => exact Or.inl ⟨.cmsError, by simp [name, cmsOk, cmsError, cmsCme]⟩

end Final

namespace Parser

/-- The byte behind the name of an error code begins its parameter, in which the byte behind it is
read. -/
theorem parseBuffer_errorcode {parser : Parser n} (atStart : parser.state = .reset)
    {name : List UInt8} (readable : isResponseName name = true) {status : RespStatus}
    (routed : parser.registry.route name = .readsErrorcode status) {char : UInt8}
    (ends : char = 58 ∨ isEndOfLine char = true) (next : UInt8) :
    (parser.parseBuffer (quiet n) (name ++ [char])).parseByte (quiet n) next =
      ({ beginParams
          { parser.inName name with
            handler := none, status := status, errorcode := -1
            reader := { (parser.inName name).reader with strlenPos := none } }
          .internalError with state := .startReadParam } : Parser n).parseByte (quiet n) next := by
  have word : nullTerminated (parser.inName name).reader.statebuf = name :=
    nullTerminated_name readable
  have inName : (parser.inName name).registry.route name = .readsErrorcode status := routed
  have named : parser.parseBuffer (quiet n) (name ++ [char]) =
      { beginErrorcode { parser.inName name with handler := none } status with
        state := .startReadParam } := by
    rw [parseBuffer_append, parseBuffer_name (quiet n) atStart readable]
    show (parser.inName name).parseByte (quiet n) char = _
    rw [parseByte_endsName (quiet n) parser readable ends]
    simp only [endResponseName, foundResponseName_eq_follow, word, inName, follow, ↓reduceIte]
    rfl
  rw [named]
  exact (parseByte_nextParam (quiet n) rfl Nat.zero_lt_one next).trans
    (parseByte_nextParam (quiet n) rfl Nat.zero_lt_one next).symm

section

variable {start : Registry n} {residues : Residues} {mixed alone : Parser n}
  (beside : Beside start residues mixed alone)
include beside

theorem Beside.final_errorcode (final : Final)
    (oneLine : final.tail.all (fun char => !isEndOfLine char) = true) {status : RespStatus}
    (routed : start.route final.name = .readsErrorcode status) :
    (callsTo .command (mixed.parseBuffer (quiet n) final.text).registry.log =
        callsTo .command (alone.parseBuffer (quiet n) final.text).registry.log ↔
          residues.told = false) ∧
      callsToUrcs (mixed.parseBuffer (quiet n) final.text).registry.log =
        callsToUrcs mixed.registry.log := by
  have registries : Registry.Alike mixed.registry.log alone.registry.log mixed.registry
      alone.registry :=
    ⟨beside.mixedCommand.trans beside.aloneCommand.symm,
      beside.mixedUrcs.trans beside.aloneUrcs.symm, [], by simp, by simp⟩
  have mixedRoute :=
    (Registry.route_congr beside.mixedCommand beside.mixedUrcs final.name).trans routed
  have aloneRoute :=
    (Registry.route_congr beside.aloneCommand beside.aloneUrcs final.name).trans routed
  have readable := final.name_readable
  constructor
  · -- The error code's place is cleared before its first character is read.
    obtain ⟨char, next, rest, text, ends⟩ : ∃ char next rest,
        final.text = (final.name ++ [char]) ++ (next :: rest) ∧
          (char = 58 ∨ isEndOfLine char = true) := by
      cases final with
      | ok | error => exact ⟨13, 10, [], rfl, Or.inr rfl⟩
      | cmeError text | cmsError text =>
        cases text with
        | nil => exact ⟨58, 13, [10], rfl, Or.inl rfl⟩
        | cons first text =>
          exact ⟨58, first, text ++ [13, 10], by simp [Final.text, Final.name, Final.tail],
            Or.inl rfl⟩
    have begun : AlikeOpen mixed.registry.log alone.registry.log
        { mixed.inName final.name with
          handler := none, status := status, errorcode := -1
          reader := { (mixed.inName final.name).reader with strlenPos := none } }
        { alone.inName final.name with
          handler := none, status := status, errorcode := -1
          reader := { (alone.inName final.name).reader with strlenPos := none } } :=
      ⟨registries, rfl, rfl, fun isOpen => absurd rfl isOpen⟩
    have alike := beginParams_alike begun .internalError (fun _ => rfl) rfl
    have first := parseByte_alike alike next
    rw [← parseBuffer_errorcode beside.mixedBoundary.state readable mixedRoute ends,
      ← parseBuffer_errorcode beside.aloneBoundary.state readable aloneRoute ends] at first
    obtain ⟨events, mixedLog, aloneLog⟩ := (parseBuffer_alike first rest).registry.log
    have whole (parser : Parser n) : parser.parseBuffer (quiet n) final.text =
        ((parser.parseBuffer (quiet n) (final.name ++ [char])).parseByte (quiet n)
          next).parseBuffer (quiet n) rest := by
      rw [text, parseBuffer_append]
      rfl
    rw [whole mixed, whole alone, mixedLog, aloneLog, callsTo, callsTo, filterMap_append,
      filterMap_append, append_left_inj]
    exact beside.calls
  · obtain ⟨events, log⟩ := parseBuffer_log beside.mixedBoundary.state final.text
    rw [log]
    apply callsToUrcs_of_callsTo
    intro index
    rw [← log]
    exact callsTo_elsewhere (quiet n) beside.mixedBoundary.state readable oneLine
      final.tail_separated (by rw [mixedRoute]; simp)

theorem Beside.final_byName {name : List UInt8} (readable : isResponseName name = true)
    {status : RespStatus} (routed : start.route name = .completes status) :
    (callsTo .command (mixed.parseBuffer (quiet n) (name ++ [13, 10])).registry.log =
        callsTo .command (alone.parseBuffer (quiet n) (name ++ [13, 10])).registry.log ↔
          residues.told = false ∧ residues.numParams ≠ .lost ∧
            (status = .ok → start.command.cmd.flagMultipleResp = false →
              residues.stream ≠ .lost)) ∧
      callsToUrcs (mixed.parseBuffer (quiet n) (name ++ [13, 10])).registry.log =
        callsToUrcs mixed.registry.log := by
  have mixedRouted := (Registry.route_congr beside.mixedCommand beside.mixedUrcs name).trans routed
  have aloneRouted := (Registry.route_congr beside.aloneCommand beside.aloneUrcs name).trans routed
  rw [parseBuffer_completes (quiet n) mixed beside.mixedBoundary.state readable mixedRouted,
    parseBuffer_completes (quiet n) alone beside.aloneBoundary.state readable aloneRouted]
  have mixedLog := Registry.completeCommand_quiet beside.mixedBoundary.active status
    (mixed.finalInfo status).1 mixed.reader.numParams (mixed.finalInfo status).2
  have aloneLog := Registry.completeCommand_quiet beside.aloneBoundary.active status
    (alone.finalInfo status).1 alone.reader.numParams (alone.finalInfo status).2
  rw [beside.mixedCommand] at mixedLog
  rw [beside.aloneCommand] at aloneLog
  constructor
  · show callsTo .command (mixed.registry.completeCommand (quiet n) status
        (mixed.finalInfo status).1 mixed.reader.numParams (mixed.finalInfo status).2).log =
      callsTo .command (alone.registry.completeCommand (quiet n) status
        (alone.finalInfo status).1 alone.reader.numParams (alone.finalInfo status).2).log ↔ _
    have okStream : mixed.okStream = alone.okStream ↔
        (start.command.cmd.flagMultipleResp = false → residues.stream ≠ .lost) := by
      rw [Parser.okStream, Parser.okStream, beside.mixedCommand, beside.aloneCommand]
      cases start.command.cmd.flagMultipleResp with
      | true => simp
      | false => simp [beside.stream.eq_iff]
    have info : mixed.finalInfo status = alone.finalInfo status ↔
        (status = .ok → start.command.cmd.flagMultipleResp = false →
          residues.stream ≠ .lost) := by
      rw [← okStream]
      cases status <;> simp [finalInfo]
    rw [mixedLog, aloneLog, callsTo_append_called, callsTo_append_called,
      append_singleton_inj, beside.calls, ← info, ← beside.numParams.eq_iff]
    simp only [Callback.mk.injEq, true_and, and_true]
    exact and_congr_right fun _ => ⟨fun same => ⟨same.2.1, Prod.ext same.1 same.2.2⟩,
      fun same => ⟨congrArg Prod.fst same.2, same.1, congrArg Prod.snd same.2⟩⟩
  · show callsToUrcs (mixed.registry.completeCommand (quiet n) status
        (mixed.finalInfo status).1 mixed.reader.numParams (mixed.finalInfo status).2).log = _
    rw [mixedLog, callsToUrcs, filterMap_append]
    simp [Event.callToUrc?, callsToUrcs]

theorem Beside.final_own (final : Final) {tail : Tail} (own : final.ReadsAs start tail) :
    (callsTo .command (mixed.parseBuffer (quiet n) final.text).registry.log =
        callsTo .command (alone.parseBuffer (quiet n) final.text).registry.log ↔
          (residues.after start.command.cmd.toCmdDef
            (.fields final.name tail : Line n)).told = false) ∧
      callsToUrcs (mixed.parseBuffer (quiet n) final.text).registry.log =
        callsToUrcs mixed.registry.log := by
  obtain ⟨next, urcs⟩ := beside.line own.1 (fun _ name rest same => by cases same)
  have text : final.text = (.fields final.name tail : Line n).text := by
    rw [Final.text, Line.text, lineText, own.2]
  rw [text]
  exact ⟨next.calls, urcs.trans (append_nil _)⟩

end

/-- The command's handler is told of the unsolicited lines: by the report of an
information line, by a final line that completes the command with what there is,
or by one that is reported as an information line. -/
def Interferes (parser : Parser n) (lines : List (Line n)) (final : Final) : Prop :=
  let cmd := parser.registry.command.cmd
  let residues := parser.residues lines
  residues.told = true ∨
    match parser.registry.route final.name with
    | .completes status =>
      residues.numParams = .lost ∨
        (status = .ok ∧ cmd.flagMultipleResp = false ∧ residues.stream = .lost)
    | .reads _ =>
      ∃ tail, final.ReadsAs parser.registry tail ∧
        (residues.after cmd.toCmdDef (.fields final.name tail : Line n)).told = true
    | _ => False

/-- Unsolicited lines in front of the final line do not interfere with the
response of an active command exactly if they lose nothing that a later line
passes on. -/
theorem nonInterfering_iff (parser : Parser n) (atStart : parser.state = .reset)
    (active : parser.registry.command.active = true) (lines : List (Line n))
    (valid : ∀ line ∈ lines, line.Valid parser.registry) (whole : parser.WholePlain lines)
    (final : Final) (finalValid : final.Valid parser.registry) :
    NonInterfering parser lines final ↔ ¬ parser.Interferes lines final := by
  obtain ⟨beside, urcs⟩ := (Beside.atStart ⟨atStart, active⟩).lines valid (by
    intro isOpen
    refine whole (fun closed => isOpen ?_)
    rw [residuesAtStart, closed]
    rfl)
  rw [NonInterfering]
  simp only [parseBuffer_append]
  rcases Final.route_name active final with own | ⟨status, routed⟩ | ⟨status, routed, noTail⟩
  · obtain ⟨tail, reads⟩ := finalValid.2 own
    obtain ⟨sameCalls, sameUrcs⟩ := beside.final_own final reads
    rw [sameUrcs, urcs, Interferes, own]
    simp only [and_true]
    constructor
    · rintro same (told | ⟨other, otherReads, told⟩)
      · have toldToo := Residues.after_told parser.registry.command.cmd.toCmdDef _
          (.fields final.name tail : Line n) told
        exact absurd (toldToo.symm.trans (sameCalls.mp same)) (by decide)
      · have silent := (beside.final_own final otherReads).1.mp same
        exact absurd (told.symm.trans silent) (by decide)
    · intro quiet
      refine sameCalls.mpr (Bool.eq_false_iff.mpr (fun told => quiet (Or.inr ⟨tail, reads, told⟩)))
  · obtain ⟨sameCalls, sameUrcs⟩ := beside.final_errorcode final finalValid.1 routed
    rw [sameUrcs, urcs, Interferes, routed]
    simp only [or_false, Bool.not_eq_true, and_true]
    exact sameCalls
  · obtain ⟨sameCalls, sameUrcs⟩ := beside.final_byName final.name_readable routed
    rw [Final.text, noTail, nil_append, sameUrcs, urcs, sameCalls, Interferes, routed]
    simp only [and_true, not_or, not_and, Bool.not_eq_true, ne_eq]
    rfl

def numberQuery : Command := .number [43, 84] false

/-- A command waits beside one unsolicited handler. -/
def asking : Parser 1 :=
  ((zeroed 1).request (.registerUrc oneNumber 3)).request (.sendRaw numberQuery 7 true)

/-- The answer is `+T: 5` and `OK`, and the command is sent again. The parameter
count is still that of the first answer. -/
def askingAgain : Parser 1 :=
  (asking.parseBuffer (quiet 1) [43, 84, 58, 32, 53, 13, 10, 79, 75, 13, 10]).request
    (.sendRaw numberQuery 7 true)

/-- `+U: 7` in front of `+T: 5` and `OK`. -/
theorem nonInterfering_urc_in_front :
    askingAgain.reader.numParams = 1 ∧
      NonInterfering askingAgain
        [.unsolicited 0 [43, 85] [.bare [55]],
          .fields [43, 84] (.fields [.bare [53]] none)] .ok := by
  refine ⟨by decide, (nonInterfering_iff askingAgain (by decide) (by decide) _ (by decide)
    (fun isOpen => absurd (by decide) isOpen) .ok ⟨rfl, fun own => absurd own (by decide)⟩).mpr ?_⟩
  rintro (told | lost)
  · exact absurd told (by decide)
  · exact absurd (show _ ∨ _ from lost) (by decide)

/-- `+U: 7` between `+T: 5` and `OK`: the parameter is lost. -/
theorem interfering_urc_in_between :
    let lines : List (Line 1) :=
      [.fields [43, 84] (.fields [.bare [53]] none), .unsolicited 0 [43, 85] [.bare [55]]]
    (∀ line ∈ lines, line.Valid asking.registry) ∧ ¬ NonInterfering asking lines .ok := by
  refine ⟨by decide, ?_⟩
  rintro ⟨same, -⟩
  have count := congrArg (List.map Callback.numParams) same
  exact absurd count (by decide)

/-- `+U: 7` in front of `ERROR`: the count of the answer before is lost. -/
example : ¬ NonInterfering askingAgain [.unsolicited 0 [43, 85] [.bare [55]]] .error := by
  rintro ⟨same, -⟩
  have count := congrArg (List.map Callback.numParams) same
  exact absurd count (by decide)

end Parser

end Thingsee.Modem
