import Thingsee.Modem.Effects
import Thingsee.Modem.PlainLines

/-!
Owns which members of the parser its later callbacks depend on. Two parsers are
`Alike` if they agree on those members, which are not the same in each main
state; `parseBuffer_alike` says that two such parsers, with handlers that leave
them alone, make the same callbacks for the same bytes.

* The length and the quote count of a string matter only while its place holder
  is known, and the quote count only in a quoted format.
* The data length matters only once the line has given one; every data buffer
  comes after that.
-/

namespace Thingsee.Modem

open Support List

variable {n : Nat}

namespace Reader

/-- Agreement of two readers inside a parameter whose place holder, if it has
one, has been asked for. -/
structure SameOpen (left right : Reader) : Prop where
  statebuf : left.statebuf = right.statebuf
  fmt : left.fmt = right.fmt
  stream : left.stream = right.stream
  numParams : left.numParams = right.numParams
  strlenPos : left.strlenPos = right.strlenPos
  strlen : left.strlen = right.strlen
  quotes : isQuotedFormat left.fmt = true → left.quotes = right.quotes

structure Same (left right : Reader) : Prop where
  statebuf : left.statebuf = right.statebuf
  fmt : left.fmt = right.fmt
  stream : left.stream = right.stream
  numParams : left.numParams = right.numParams
  strlenPos : left.strlenPos = right.strlenPos
  whenOpen : left.strlenPos ≠ none →
    left.strlen = right.strlen ∧ (isQuotedFormat left.fmt = true → left.quotes = right.quotes)

variable {left right : Reader}

theorem SameOpen.same (same : left.SameOpen right) : left.Same right where
  statebuf := same.statebuf
  fmt := same.fmt
  stream := same.stream
  numParams := same.numParams
  strlenPos := same.strlenPos
  whenOpen := fun _ => ⟨same.strlen, same.quotes⟩

theorem hasRoom_congr (stream : left.stream = right.stream) (count : Nat) :
    left.hasRoom count = right.hasRoom count := by
  rw [hasRoom, hasRoom, stream]

theorem Same.streamPut (same : left.Same right) (bytes : List UInt8) :
    (left.streamPut bytes).Same (right.streamPut bytes) := by
  unfold Reader.streamPut
  rw [hasRoom_congr same.stream]
  split
  · exact ⟨same.statebuf, same.fmt, by rw [same.stream], same.numParams, same.strlenPos,
      same.whenOpen⟩
  · exact ⟨same.statebuf, same.fmt, same.stream, same.numParams, same.strlenPos, same.whenOpen⟩

theorem SameOpen.streamPutChar (same : left.SameOpen right) (char : UInt8) :
    (left.streamPutChar char).SameOpen (right.streamPutChar char) := by
  unfold Reader.streamPutChar
  rw [hasRoom_congr same.stream]
  split
  · exact ⟨same.statebuf, same.fmt, by rw [same.stream], same.numParams, same.strlenPos,
      by rw [same.strlen], same.quotes⟩
  · exact ⟨same.statebuf, same.fmt, same.stream, same.numParams, same.strlenPos, same.strlen,
      same.quotes⟩

theorem SameOpen.streamPut (same : left.SameOpen right) (bytes : List UInt8) :
    (left.streamPut bytes).SameOpen (right.streamPut bytes) := by
  unfold Reader.streamPut
  rw [hasRoom_congr same.stream]
  split
  · exact ⟨same.statebuf, same.fmt, by rw [same.stream], same.numParams, same.strlenPos,
      same.strlen, same.quotes⟩
  · exact ⟨same.statebuf, same.fmt, same.stream, same.numParams, same.strlenPos, same.strlen,
      same.quotes⟩

theorem SameOpen.streamSetStrlen (same : left.SameOpen right) :
    left.streamSetStrlen.SameOpen right.streamSetStrlen := by
  rcases left with ⟨_, position, _, _, _, _, _, _, _, _⟩
  rcases right with ⟨_, _, _, _, _, _, _, _, _, _⟩
  obtain ⟨rfl, rfl, rfl, rfl, rfl, rfl, quotes⟩ := same
  cases position <;> exact ⟨rfl, rfl, rfl, rfl, rfl, rfl, quotes⟩

theorem SameOpen.closeString (same : left.SameOpen right) :
    left.closeString.Same right.closeString := by
  have counted : ({ left with numParams := left.numParams + 1 } : Reader).SameOpen
      { right with numParams := right.numParams + 1 } :=
    ⟨same.statebuf, same.fmt, same.stream, by simp only [same.numParams], same.strlenPos,
      same.strlen, same.quotes⟩
  have filled := (counted.streamPut [0]).streamSetStrlen
  exact ⟨filled.statebuf, filled.fmt, filled.stream, filled.numParams, rfl,
    fun known => absurd rfl known⟩

theorem Same.openString (same : left.Same right) (isString : isStringFormat left.fmt = true) :
    left.openString.SameOpen right.openString := by
  have notQuoted : ¬ isQuotedFormat left.fmt = true := by
    cases fmt : left.fmt <;> simp_all [isStringFormat, isQuotedFormat]
  simp only [Reader.openString, ← same.strlenPos]
  cases position : left.strlenPos with
  | some at_ =>
    have known := same.whenOpen (by simp [position])
    exact ⟨same.statebuf, same.fmt, same.stream, same.numParams, same.strlenPos, known.1, known.2⟩
  | none =>
    simp only [Reader.streamGetStrlenpos, hasRoom_congr same.stream]
    split
    · exact ⟨same.statebuf, same.fmt, by simp only [same.stream], same.numParams,
        by simp only [same.stream], rfl, fun quoted => absurd quoted notQuoted⟩
    · exact ⟨same.statebuf, same.fmt, same.stream, same.numParams, same.strlenPos, rfl,
        fun quoted => absurd quoted notQuoted⟩

theorem Same.openQuoted (same : left.Same right) :
    left.openQuoted.SameOpen right.openQuoted := by
  simp only [Reader.openQuoted, ← same.strlenPos]
  cases position : left.strlenPos with
  | some at_ =>
    have known := same.whenOpen (by simp [position])
    exact ⟨same.statebuf, same.fmt, same.stream, same.numParams, same.strlenPos, known.1, known.2⟩
  | none =>
    simp only [Reader.streamGetStrlenpos, hasRoom_congr same.stream]
    split
    · exact ⟨same.statebuf, same.fmt, by simp only [same.stream], same.numParams,
        by simp only [same.stream], rfl, fun _ => rfl⟩
    · exact ⟨same.statebuf, same.fmt, same.stream, same.numParams, same.strlenPos, rfl,
        fun _ => rfl⟩

theorem Same.closeInteger (same : left.Same right) : left.closeInteger.Same right.closeInteger := by
  have counted : ({ left with numParams := left.numParams + 1 } : Reader).Same
      { right with numParams := right.numParams + 1 } :=
    ⟨same.statebuf, same.fmt, same.stream, by simp only [same.numParams], same.strlenPos,
      same.whenOpen⟩
  rcases left with ⟨_, _, _, fmt, _, _, _, _, _, _⟩
  rcases right with ⟨_, _, _, _, _, _, _, _, _, _⟩
  obtain ⟨rfl, rfl, rfl, rfl, rfl, whenOpen⟩ := same
  cases fmt with
  | int8 => exact counted.streamPut _
  | int16 => exact counted.streamPut _
  | int32 => exact counted.streamPut _
  | datalen => exact ⟨rfl, rfl, rfl, rfl, rfl, whenOpen⟩
  | _ => exact counted

theorem Same.addDigit (same : left.Same right) (char : UInt8) :
    (left.addDigit char).Same (right.addDigit char) := by
  unfold Reader.addDigit
  rw [same.statebuf]
  split
  · exact ⟨rfl, same.fmt, same.stream, same.numParams, same.strlenPos, same.whenOpen⟩
  · exact same

theorem SameOpen.addQuoted (same : left.SameOpen right) (quoted : isQuotedFormat left.fmt = true)
    (datalen : left.fmt = .quotedDatabuf → left.datalen = right.datalen) (char : UInt8) :
    (left.addQuoted char).SameOpen (right.addQuoted char) := by
  rcases left with ⟨_, _, _, fmt, quotes, _, _, remaining, _, _⟩
  rcases right with ⟨_, _, _, _, _, _, _, _, _, _⟩
  obtain ⟨rfl, rfl, rfl, rfl, rfl, rfl, sameQuotes⟩ := same
  obtain rfl := sameQuotes quoted
  have stays : isQuotedFormat fmt = true → quotes = quotes := fun _ => rfl
  have counts (count : UInt8) : isQuotedFormat fmt = true → count = count := fun _ => rfl
  unfold Reader.addQuoted
  split
  · split
    · exact ⟨rfl, rfl, rfl, rfl, rfl, rfl, counts _⟩
    · exact ⟨rfl, rfl, rfl, rfl, rfl, rfl, stays⟩
  · split
    · split
      · exact ⟨rfl, rfl, rfl, rfl, rfl, rfl, counts _⟩
      · apply SameOpen.streamPutChar
        exact ⟨rfl, rfl, rfl, rfl, rfl, rfl, stays⟩
    · next notString =>
      have databuf : fmt = .quotedDatabuf := by
        cases fmt <;> simp_all [isQuotedFormat]
      obtain rfl := datalen databuf
      split
      · split
        · exact ⟨rfl, rfl, rfl, rfl, rfl, rfl, counts _⟩
        · exact ⟨rfl, rfl, rfl, rfl, rfl, rfl, stays⟩
      · apply SameOpen.streamPutChar
        exact ⟨rfl, rfl, rfl, rfl, rfl, rfl, stays⟩

theorem SameOpen.endsQuoted (same : left.SameOpen right) (quoted : isQuotedFormat left.fmt = true)
    (char : UInt8) (endOfLine : Bool) :
    left.endsQuoted char endOfLine = right.endsQuoted char endOfLine := by
  simp only [Reader.endsQuoted, same.fmt, same.quotes quoted]

theorem Same.formatByte (same : left.Same right)
    (datalen : left.fmt = .quotedDatabuf → left.datalen = right.datalen) (char : UInt8)
    (endOfLine : Bool) :
    (left.formatByte char endOfLine).1.Same (right.formatByte char endOfLine).1 ∧
      (left.formatByte char endOfLine).2 = (right.formatByte char endOfLine).2 := by
  rcases format_kinds left.fmt with isInteger | isString | isQuoted
  · rw [formatByte_integer isInteger, formatByte_integer (same.fmt ▸ isInteger)]
    split
    · exact ⟨same.closeInteger, rfl⟩
    · exact ⟨same.addDigit char, rfl⟩
  · have opened := same.openString isString
    rw [formatByte_string isString, formatByte_string (same.fmt ▸ isString), ← same.fmt,
      ← opened.strlen]
    split
    · exact ⟨opened.closeString, rfl⟩
    · split
      · exact ⟨opened.same, rfl⟩
      · exact ⟨(opened.streamPutChar char).same, rfl⟩
  · have opened := same.openQuoted
    have openQuoted : isQuotedFormat left.openQuoted.fmt = true := by simpa using isQuoted
    rw [formatByte_quoted isQuoted, formatByte_quoted (same.fmt ▸ isQuoted),
      opened.endsQuoted openQuoted]
    split
    · exact ⟨opened.closeString, rfl⟩
    · exact ⟨(opened.addQuoted openQuoted (by simpa using datalen) char).same, rfl⟩

theorem closeInteger_datalen (reader : Reader) :
    reader.closeInteger.datalen =
      if reader.fmt = .datalen then (strtol (nullTerminated reader.statebuf) % 65536).toNat
      else reader.datalen := by
  cases fmt : reader.fmt <;> simp [Reader.closeInteger, fmt]

theorem addQuoted_datalen (reader : Reader) (char : UInt8) :
    (reader.addQuoted char).datalen =
      if reader.quotes ≠ 0 ∧ reader.fmt ≠ .quotedString ∧ reader.datalen ≠ 0 then
        reader.datalen - 1
      else reader.datalen := by
  unfold Reader.addQuoted
  split
  · next unopened => split <;> simp [unopened]
  · next opened =>
    split
    · next isString => split <;> simp [isString]
    · next isBuffer =>
      split
      · next complete => split <;> simp [complete]
      · next pending => simp [opened, isBuffer, pending]

theorem Same.formatByte_datalen (same : left.Same right) (char : UInt8) (endOfLine : Bool)
    (agree : left.datalen = right.datalen ∨
      (left.fmt = .datalen ∧ (left.formatByte char endOfLine).2 = true)) :
    (left.formatByte char endOfLine).1.datalen = (right.formatByte char endOfLine).1.datalen := by
  rcases format_kinds left.fmt with isInteger | isString | isQuoted
  · rw [formatByte_integer isInteger] at agree ⊢
    rw [formatByte_integer (same.fmt ▸ isInteger)]
    split
    · simp only [closeInteger_datalen, ← same.fmt, ← same.statebuf]
      split
      · rfl
      · next other => simpa [other] using agree
    · next stays =>
      rw [if_neg stays] at agree
      simpa using agree
  · have before : left.datalen = right.datalen := by
      cases fmt : left.fmt <;> simp_all [isStringFormat]
    rw [formatByte_string isString, formatByte_string (same.fmt ▸ isString), ← same.fmt,
      ← (same.openString isString).strlen]
    split
    · simpa using before
    · split <;> simpa using before
  · have before : left.datalen = right.datalen := by
      cases fmt : left.fmt <;> simp_all [isQuotedFormat]
    have opened := same.openQuoted
    have openQuoted : isQuotedFormat left.openQuoted.fmt = true := by simpa using isQuoted
    rw [formatByte_quoted isQuoted, formatByte_quoted (same.fmt ▸ isQuoted),
      opened.endsQuoted openQuoted]
    split
    · simpa using before
    · simp only [addQuoted_datalen, opened.quotes openQuoted, Reader.openQuoted_frame, same.fmt,
        before]

theorem Same.skipsTrailingSpace (same : left.Same right) (char : UInt8) :
    left.skipsTrailingSpace char = right.skipsTrailingSpace char := by
  unfold Reader.skipsTrailingSpace
  rw [← same.fmt]
  by_cases isQuoted : isQuotedFormat left.fmt = true
  · rw [same.openQuoted.quotes (by simpa using isQuoted)]
  · have other : (left.fmt == .quotedString || left.fmt == .quotedDatabuf) = false := by
      cases fmt : left.fmt <;> simp_all [isQuotedFormat]
    rw [other]
    rfl

end Reader

namespace Registry

/-- Agreement of two registries that have logged the same events since
`leftLog` and `rightLog`. -/
structure Alike (leftLog rightLog : List (Event n)) (left right : Registry n) : Prop where
  command : left.command = right.command
  urcs : left.urcs = right.urcs
  log : ∃ events, left.log = leftLog ++ events ∧ right.log = rightLog ++ events

variable {leftLog rightLog : List (Event n)} {left right : Registry n}

section

variable (alike : Alike leftLog rightLog left right)
include alike

variable (name : List UInt8) (handler : HandlerRef n) (status : RespStatus) (errorcode : Int)
  (numParams : Nat) (stream : Option (List UInt8))

theorem Alike.find :
    left.findResponseHandlerByName name = right.findResponseHandlerByName name := by
  cases left
  cases right
  obtain ⟨rfl, rfl, -⟩ := alike
  rfl

theorem Alike.route : left.route name = right.route name :=
  route_congr alike.command alike.urcs name

theorem Alike.cmdOf : left.cmdOf handler = right.cmdOf handler := by
  cases left
  cases right
  obtain ⟨rfl, rfl, -⟩ := alike
  rfl

theorem Alike.doCallback :
    Alike leftLog rightLog
      (left.doCallback (quiet n) handler status errorcode numParams stream)
      (right.doCallback (quiet n) handler status errorcode numParams stream) := by
  cases left
  cases right
  obtain ⟨rfl, rfl, events, rfl, rfl⟩ := alike
  cases handler <;> exact ⟨rfl, rfl, _, append_assoc _ _ _, append_assoc _ _ _⟩

theorem Alike.unregister :
    Alike leftLog rightLog (left.unregisterResponseHandler name)
      (right.unregisterResponseHandler name) := by
  unfold unregisterResponseHandler
  rw [alike.find]
  split
  · exact ⟨by rw [alike.command], alike.urcs, alike.log⟩
  · exact ⟨alike.command, by rw [alike.urcs], alike.log⟩
  · exact alike

theorem Alike.completeCommand :
    Alike leftLog rightLog
      (left.completeCommand (quiet n) status errorcode numParams stream)
      (right.completeCommand (quiet n) status errorcode numParams stream) := by
  unfold Registry.completeCommand
  rw [alike.command]
  exact (alike.unregister _).doCallback _ _ _ _ _

end

end Registry

/-- Whether one of the first `count` formats is a data length. -/
def CmdDef.datalenGiven (cmd : CmdDef) (count : Nat) : Bool :=
  (cmd.respFormat.take count).contains .datalen

theorem CmdDef.datalenGiven_succ {cmd : CmdDef} {count : Nat}
    (given : cmd.datalenGiven (count + 1) = true) :
    cmd.datalenGiven count = true ∨ cmd.formatAt count = .datalen := by
  simp only [datalenGiven, formatAt, contains_iff_mem] at given ⊢
  by_cases inside : count < cmd.respFormat.length
  · rw [take_succ_eq_append_getElem inside, mem_append, mem_singleton] at given
    rw [getD_eq_getElem?_getD, List.getElem?_eq_getElem inside]
    exact given.imp id Eq.symm
  · rw [take_of_length_le (by omega)] at given ⊢
    exact Or.inl given

theorem CmdDef.datalenGiven_of_databuf {cmd : CmdDef}
    (known : datalenFirst false cmd.respFormat = true) {count : Nat}
    (databuf : cmd.formatAt count = .quotedDatabuf) : cmd.datalenGiven count = true := by
  have inFront : ∀ (formats : List RespFormat) (seen : Bool) (count : Nat),
      datalenFirst seen formats = true → formats.getD count .int8 = .quotedDatabuf →
        seen = true ∨ .datalen ∈ formats.take count := by
    intro formats
    induction formats with
    | nil => simp
    | cons fmt formats ih =>
      intro seen count known databuf
      cases count with
      | zero =>
        obtain rfl : fmt = .quotedDatabuf := databuf
        simp only [datalenFirst, Bool.and_eq_true] at known
        exact Or.inl known.1
      | succ count =>
        have later : formats.getD count .int8 = .quotedDatabuf := databuf
        rw [take_succ_cons, mem_cons]
        cases fmt with
        | datalen => exact Or.inr (Or.inl rfl)
        | quotedDatabuf =>
          simp only [datalenFirst, Bool.and_eq_true] at known
          exact Or.inl known.1
        | _ => exact (ih seen count known later).imp id Or.inr
  have found := inFront cmd.respFormat false count known databuf
  simpa [datalenGiven] using found

namespace Parser

/-- Agreement of two parsers on what matters in every state. -/
structure AlikeBase (leftLog rightLog : List (Event n)) (left right : Parser n) : Prop where
  registry : Registry.Alike leftLog rightLog left.registry right.registry
  errorcode : left.errorcode = right.errorcode
  stream : left.reader.stream = right.reader.stream
  numParams : left.reader.numParams = right.reader.numParams
  strlenPos : left.reader.strlenPos = right.reader.strlenPos
  strlen : left.reader.strlenPos ≠ none → left.reader.strlen = right.reader.strlen

/-- Agreement of two parsers on what matters where a parameter line begins: its
count and its stream start afresh. -/
structure AlikeOpen (leftLog rightLog : List (Event n)) (left right : Parser n) : Prop where
  registry : Registry.Alike leftLog rightLog left.registry right.registry
  errorcode : left.errorcode = right.errorcode
  strlenPos : left.reader.strlenPos = right.reader.strlenPos
  strlen : left.reader.strlenPos ≠ none → left.reader.strlen = right.reader.strlen

/-- Agreement of two parsers inside a parameter line of one handler. -/
structure AlikeLine (handler : HandlerRef n) (left right : Parser n) : Prop where
  leftHandler : left.handler = some handler
  rightHandler : right.handler = some handler
  status : handler = .internalError → left.status = right.status
  known : datalenFirst false (left.registry.cmdOf handler).respFormat = true
  datalen : (left.registry.cmdOf handler).datalenGiven left.reader.numParams = true →
    left.reader.datalen = right.reader.datalen

/-- Agreement of two parsers on everything that their later callbacks depend
on. -/
structure Alike (leftLog rightLog : List (Event n)) (left right : Parser n) : Prop
    extends AlikeBase leftLog rightLog left right where
  state : left.state = right.state
  statebuf : left.state = .readResponseName → left.reader.statebuf = right.reader.statebuf
  line : left.Reading → ∃ handler, AlikeLine handler left right
  param : left.state = .doReadParam → left.reader.Same right.reader ∧
    left.reader.fmt = left.handlerCmd.formatAt left.reader.numParams

variable {leftLog rightLog : List (Event n)} {left right : Parser n}

section

variable (alike : AlikeBase leftLog rightLog left right)
include alike

theorem AlikeBase.alikeOpen : AlikeOpen leftLog rightLog left right :=
  ⟨alike.registry, alike.errorcode, alike.strlenPos, alike.strlen⟩

theorem AlikeBase.atReset (leftState : left.state = .reset) (rightState : right.state = .reset) :
    Alike leftLog rightLog left right where
  toAlikeBase := alike
  state := leftState.trans rightState.symm
  statebuf := fun inName => absurd (leftState.symm.trans inName) (by decide)
  line := fun reading => absurd reading (by simp [Reading, leftState])
  param := fun inParam => absurd (leftState.symm.trans inParam) (by decide)

theorem AlikeBase.atSkip (leftState : left.state = .skipToEol)
    (rightState : right.state = .skipToEol) :
    Alike leftLog rightLog left right where
  toAlikeBase := alike
  state := leftState.trans rightState.symm
  statebuf := fun inName => absurd (leftState.symm.trans inName) (by decide)
  line := fun reading => absurd reading (by simp [Reading, leftState])
  param := fun inParam => absurd (leftState.symm.trans inParam) (by decide)

end

variable {handler : HandlerRef n} {leftReader rightReader : Reader}

theorem AlikeLine.handlerCmd (line : AlikeLine handler left right)
    (registry : Registry.Alike leftLog rightLog left.registry right.registry) :
    left.handlerCmd = right.handlerCmd := by
  simp only [Parser.handlerCmd, line.leftHandler, line.rightHandler]
  exact registry.cmdOf handler

/-! ## Bytes -/

theorem lineEnd_alike (base : AlikeBase leftLog rightLog left right)
    (line : AlikeLine handler left right) (restart : Bool) :
    (lineEnd (quiet n) left restart = (left, restart) ∧
        lineEnd (quiet n) right restart = (right, restart)) ∨
      ((lineEnd (quiet n) left restart).2 = false ∧ (lineEnd (quiet n) right restart).2 = false ∧
        Alike leftLog rightLog (lineEnd (quiet n) left restart).1
          (lineEnd (quiet n) right restart).1) := by
  have leftCmd : left.handlerCmd = left.registry.cmdOf handler := by
    simp only [Parser.handlerCmd, line.leftHandler]
  have rightCmd : right.handlerCmd = left.registry.cmdOf handler := by
    rw [← line.handlerCmd base.registry, leftCmd]
  unfold lineEnd
  rw [leftCmd, rightCmd, line.leftHandler, line.rightHandler]
  cases handler with
  | internalError =>
    right
    refine ⟨rfl, rfl, AlikeBase.atReset ?_ rfl rfl⟩
    have completed := base.registry.completeCommand left.status
      (streamErrorcode left.reader.stream) 0 none
    refine ⟨?_, ?_, rfl, rfl, base.strlenPos, base.strlen⟩
    · simp only [handleErrorcode, errorDef, Registry.cmdOf, ↓reduceIte, ← line.status rfl,
        ← base.stream]
      exact completed
    · simp only [handleErrorcode, errorDef, Registry.cmdOf, ↓reduceIte, ← base.stream]
  | urc index =>
    right
    have notErrorcode : (left.registry.cmdOf (.urc index)).flagErrorcode = false :=
      (left.registry.urcs index).cmd.notErrorcode
    simp only [notErrorcode, Bool.false_eq_true, ↓reduceIte, true_and]
    refine AlikeBase.atReset ⟨?_, rfl, rfl, rfl, base.strlenPos, base.strlen⟩ rfl rfl
    simp only [handleUnsolicited, ← base.numParams, ← base.stream]
    exact base.registry.doCallback _ _ _ _ _
  | command =>
    have notErrorcode : (left.registry.cmdOf .command).flagErrorcode = false :=
      left.registry.command.cmd.notErrorcode
    simp only [notErrorcode, Bool.false_eq_true, ↓reduceIte]
    split
    · right
      refine ⟨rfl, rfl, AlikeBase.atReset ⟨?_, rfl, rfl, rfl, base.strlenPos, base.strlen⟩ rfl rfl⟩
      simp only [handleResponseLine, ← base.numParams, ← base.stream, ← base.errorcode]
      exact base.registry.doCallback _ _ _ _ _
    · exact Or.inl ⟨rfl, rfl⟩

theorem Alike.behindByte (alike : Alike leftLog rightLog left right)
    (inParam : left.state = .doReadParam) (line : AlikeLine handler left right) (closed : Bool)
    (same : leftReader.Same rightReader) (fmt : leftReader.fmt = left.reader.fmt)
    (count : leftReader.numParams = left.reader.numParams + closed.toNat)
    (datalen : (left.registry.cmdOf handler).datalenGiven leftReader.numParams = true →
      leftReader.datalen = rightReader.datalen) :
    let leftNext : Parser n :=
      { left with
        reader := leftReader, state := if closed then .startReadParam else left.state }
    let rightNext : Parser n :=
      { right with
        reader := rightReader, state := if closed then .startReadParam else right.state }
    Alike leftLog rightLog leftNext rightNext ∧ AlikeLine handler leftNext rightNext := by
  intro leftNext rightNext
  have nextLine : AlikeLine handler leftNext rightNext :=
    ⟨line.leftHandler, line.rightHandler, line.status, line.known, datalen⟩
  have nextBase : AlikeBase leftLog rightLog leftNext rightNext :=
    ⟨alike.registry, alike.errorcode, same.stream, same.numParams, same.strlenPos,
      fun isOpen => (same.whenOpen isOpen).1⟩
  cases closed with
  | true =>
    exact ⟨⟨nextBase, rfl, fun inName => absurd inName (by simp [leftNext]),
      fun _ => ⟨handler, nextLine⟩, fun inParam => absurd inParam (by simp [leftNext])⟩, nextLine⟩
  | false =>
    refine ⟨⟨nextBase, alike.state, fun inName => ?_, fun _ => ⟨handler, nextLine⟩,
      fun _ => ⟨same, ?_⟩⟩, nextLine⟩
    · exact absurd (inParam.symm.trans inName) (by decide)
    · have sameCmd : leftNext.handlerCmd = left.handlerCmd := rfl
      have sameCount : leftReader.numParams = left.reader.numParams := count
      rw [sameCmd, show leftNext.reader = leftReader from rfl, sameCount, fmt]
      exact (alike.param inParam).2

/-- A parameter byte keeps two parsers alike that differ in stale values only. -/
theorem parseParameterByte_alike (alike : Alike leftLog rightLog left right)
    (inParam : left.state = .doReadParam) (char : UInt8) (endOfLine : Bool) :
    let leftResult := left.parseParameterByte (quiet n) char endOfLine
    let rightResult := right.parseParameterByte (quiet n) char endOfLine
    leftResult.2 = rightResult.2 ∧ Alike leftLog rightLog leftResult.1 rightResult.1 ∧
      (leftResult.2 = true → leftResult.1.state = .startReadParam) := by
  intro leftResult rightResult
  obtain ⟨handler, line⟩ := alike.line (Or.inr inParam)
  obtain ⟨same, format⟩ := alike.param inParam
  have leftCmd : left.handlerCmd = left.registry.cmdOf handler := by
    simp only [Parser.handlerCmd, line.leftHandler]
  rw [leftCmd] at format
  have pending : left.reader.fmt = .quotedDatabuf → left.reader.datalen = right.reader.datalen := by
    intro databuf
    exact line.datalen (CmdDef.datalenGiven_of_databuf line.known (format.symm.trans databuf))
  by_cases skips : left.reader.skipsTrailingSpace char = true
  · have rightSkips := (same.skipsTrailingSpace char).symm.trans skips
    simp only [leftResult, rightResult, parseParameterByte, skips, rightSkips, ↓reduceIte]
    have next := alike.behindByte inParam line false same.openQuoted.same (by simp)
      (by simp) (by simpa using line.datalen)
    exact ⟨trivial, next.1, by simp⟩
  · have rightReads : ¬ right.reader.skipsTrailingSpace char = true := by
      rw [← same.skipsTrailingSpace]
      exact skips
    obtain ⟨sameNext, sameClosed⟩ := same.formatByte pending char endOfLine
    obtain ⟨fmt, count⟩ := left.reader.formatByte_frame char endOfLine
    have datalen : (left.registry.cmdOf handler).datalenGiven
        (left.reader.formatByte char endOfLine).1.numParams = true →
        (left.reader.formatByte char endOfLine).1.datalen =
          (right.reader.formatByte char endOfLine).1.datalen := by
      intro given
      apply same.formatByte_datalen
      rw [count] at given
      cases closed : (left.reader.formatByte char endOfLine).2 with
      | false =>
        rw [closed] at given
        exact Or.inl (line.datalen given)
      | true =>
        rw [closed] at given
        rcases CmdDef.datalenGiven_succ given with before | thisOne
        · exact Or.inl (line.datalen before)
        · exact Or.inr ⟨format.trans thisOne, rfl⟩
    obtain ⟨next, nextLine⟩ := alike.behindByte inParam line _ sameNext fmt count datalen
    simp only [leftResult, rightResult, parseParameterByte, skips, rightReads, Bool.false_eq_true,
      ↓reduceIte, ← sameClosed]
    cases endOfLine with
    | false => exact ⟨rfl, next, by simp⟩
    | true =>
      rcases lineEnd_alike next.toAlikeBase nextLine
        (left.reader.formatByte char true).2 with ⟨leftStays, rightStays⟩ |
          ⟨leftOver, rightOver, isOver⟩
      · simp only [↓reduceIte]
        rw [leftStays, rightStays]
        exact ⟨rfl, next, fun closed => if_pos closed⟩
      · simp only [↓reduceIte]
        exact ⟨leftOver.trans rightOver.symm, isOver,
          fun closed => absurd closed (by simp [leftOver])⟩

theorem startReadParam_alike (char : UInt8) (endOfLine : Bool) (rounds : Nat)
    (alike : Alike leftLog rightLog left right) (atStart : left.state = .startReadParam) :
    Alike leftLog rightLog (startReadParam (quiet n) char endOfLine rounds left)
      (startReadParam (quiet n) char endOfLine rounds right) := by
  induction rounds generalizing left right with
  | zero => exact alike
  | succ rounds ih =>
    obtain ⟨handler, line⟩ := alike.line (Or.inl atStart)
    have sameCmd := line.handlerCmd alike.registry
    simp only [startReadParam, ← sameCmd, ← alike.numParams]
    split
    · have cleared : AlikeBase leftLog rightLog
          (skipToEol { left with reader := left.reader.clearParam } endOfLine)
          (skipToEol { right with reader := right.reader.clearParam } endOfLine) :=
        ⟨alike.registry, alike.errorcode, alike.stream, alike.numParams, rfl,
          fun isOpen => absurd rfl isOpen⟩
      cases endOfLine with
      | true => exact cleared.atReset rfl rfl
      | false => exact cleared.atSkip rfl rfl
    · have same : left.nextParam.reader.Same right.nextParam.reader := by
        refine ⟨rfl, ?_, alike.stream, alike.numParams, rfl, fun isOpen => absurd rfl isOpen⟩
        simp only [nextParam, sameCmd, alike.numParams]
      have next : Alike leftLog rightLog left.nextParam right.nextParam := by
        refine ⟨⟨alike.registry, alike.errorcode, alike.stream, alike.numParams, rfl,
          fun isOpen => absurd rfl isOpen⟩, rfl, fun inName => absurd inName (by simp [nextParam]),
          fun _ => ⟨handler, ?_⟩, fun _ => ⟨same, rfl⟩⟩
        exact ⟨line.leftHandler, line.rightHandler, line.status, line.known, line.datalen⟩
      obtain ⟨sameRestart, after, restarts⟩ :=
        parseParameterByte_alike next rfl char endOfLine
      rw [← sameRestart]
      split
      · next restart => exact ih after (restarts restart)
      · exact after

theorem doReadParam_alike (alike : Alike leftLog rightLog left right)
    (inParam : left.state = .doReadParam) (char : UInt8) (endOfLine : Bool) :
    Alike leftLog rightLog (left.doReadParam (quiet n) char endOfLine)
      (right.doReadParam (quiet n) char endOfLine) := by
  obtain ⟨sameRestart, after, restarts⟩ := parseParameterByte_alike alike inParam char endOfLine
  simp only [doReadParam]
  rw [← sameRestart]
  split
  · next restart =>
    obtain ⟨handler, line⟩ := after.line (Or.inl (restarts restart))
    rw [readRounds, readRounds, ← line.handlerCmd after.registry]
    exact startReadParam_alike char endOfLine _ after (restarts restart)
  · exact after

theorem foldl_plainByte_same (name : List UInt8) (same : leftReader.Same rightReader)
    (isString : leftReader.fmt = .stringToEol) :
    (name.foldl plainByte leftReader).Same (name.foldl plainByte rightReader) := by
  induction name generalizing leftReader rightReader with
  | nil => exact same
  | cons char rest ih =>
    have next := same.formatByte (fun databuf => absurd (isString.symm.trans databuf) (by decide))
      char false
    exact ih next.1 (plainByte_frame isString char).1

section

variable (base : AlikeOpen leftLog rightLog left right)
include base

theorem beginPlain_alike (statebuf : left.reader.statebuf = right.reader.statebuf)
    (format : left.registry.command.cmd.respFormat = [.stringToEol]) (name : List UInt8) :
    Alike leftLog rightLog { left.beginPlain (quiet n) name with state := .doReadParam }
      { right.beginPlain (quiet n) name with state := .doReadParam } := by
  have rightFormat : right.registry.command.cmd.respFormat = [.stringToEol] := by
    rw [← base.registry.command]
    exact format
  rw [beginPlain_eq _ left name format, beginPlain_eq _ right name rightFormat]
  have start : Reader.Same
      { left.reader with numParams := 0, stream := [], fmt := .stringToEol }
      { right.reader with numParams := 0, stream := [], fmt := .stringToEol } :=
    ⟨statebuf, rfl, rfl, rfl, base.strlenPos,
      fun isOpen =>
        ⟨base.strlen isOpen, fun quoted => absurd quoted (by simp [Reader.isQuotedFormat])⟩⟩
  have same := foldl_plainByte_same name start rfl
  obtain ⟨fmt, count⟩ := foldl_plainByte_frame name
    (show ({ left.reader with numParams := 0, stream := [], fmt := .stringToEol } : Reader).fmt =
      .stringToEol from rfl)
  have known : datalenFirst false (left.registry.cmdOf .command).respFormat = true :=
    left.registry.command.cmd.datalenKnown
  refine ⟨⟨base.registry, base.errorcode, same.stream, same.numParams, same.strlenPos,
    fun isOpen => (same.whenOpen isOpen).1⟩, rfl, fun inName => absurd inName (by simp),
    fun _ => ⟨.command, rfl, rfl, by simp, known, ?_⟩, fun _ => ⟨same, ?_⟩⟩
  · intro given
    simp [CmdDef.datalenGiven, count] at given
  · show _ = left.registry.command.cmd.formatAt _
    simp [CmdDef.formatAt, count, fmt, format]

theorem beginParams_alike (handler : HandlerRef n)
    (status : handler = .internalError → left.status = right.status)
    (known : datalenFirst false (left.registry.cmdOf handler).respFormat = true) :
    Alike leftLog rightLog { left.beginParams handler with state := .startReadParam }
      { right.beginParams handler with state := .startReadParam } := by
  refine ⟨⟨base.registry, base.errorcode, rfl, rfl, base.strlenPos, base.strlen⟩, rfl,
    fun inName => absurd inName (by simp), fun _ => ⟨handler, rfl, rfl, status, known, ?_⟩,
    fun inParam => absurd inParam (by simp)⟩
  intro given
  simp [CmdDef.datalenGiven, beginParams, Reader.beginParams] at given

theorem endResponseName_alike_reading (statebuf : left.reader.statebuf = right.reader.statebuf)
    (reads : (left.registry.route (nullTerminated left.reader.statebuf)).beginsLine = true)
    (char : UInt8) (endOfLine : Bool) :
    Alike leftLog rightLog (left.endResponseName (quiet n) char endOfLine)
      (right.endResponseName (quiet n) char endOfLine) := by
  have sound := left.registry.route_sound (nullTerminated left.reader.statebuf)
  simp only [endResponseName, foundResponseName_eq_follow, ← statebuf, ← base.registry.route]
  generalize left.registry.route (nullTerminated left.reader.statebuf) = route at sound reads
  have noHandler : AlikeOpen leftLog rightLog { left with handler := none }
      { right with handler := none } :=
    ⟨base.registry, base.errorcode, base.strlenPos, base.strlen⟩
  cases route with
  | reads handler =>
    have leftNamed : ¬ (left.registry.cmdOf handler).flagPlain = true := by
      simp [Registry.Named.notPlain sound]
    have rightNamed : ¬ (right.registry.cmdOf handler).flagPlain = true := by
      rw [← base.registry.cmdOf]
      exact leftNamed
    have leftCmd : (beginParams { left with handler := none } handler).handlerCmd =
        left.registry.cmdOf handler := rfl
    have rightCmd : (beginParams { right with handler := none } handler).handlerCmd =
        right.registry.cmdOf handler := rfl
    simp only [follow, ↓reduceIte, leftCmd, rightCmd, leftNamed, rightNamed]
    exact beginParams_alike noHandler handler
      (fun internal => absurd sound (by rw [internal]; exact id)) (datalenKnown_of_named sound)
  | readsPlain =>
    have format := left.registry.command.cmd.plainFormat sound.2
    have after := beginPlain_alike noHandler statebuf format (nullTerminated left.reader.statebuf)
    obtain ⟨leftRegistry, leftHandler, -⟩ := beginPlain_frame (quiet n)
      { left with handler := none } (nullTerminated left.reader.statebuf)
    obtain ⟨rightRegistry, rightHandler, -⟩ := beginPlain_frame (quiet n)
      { right with handler := none } (nullTerminated left.reader.statebuf)
    have leftPlain : (beginPlain (quiet n) { left with handler := none }
        (nullTerminated left.reader.statebuf)).handlerCmd.flagPlain = true := by
      simp only [Parser.handlerCmd, leftHandler, leftRegistry]
      exact sound.2
    have rightPlain : (beginPlain (quiet n) { right with handler := none }
        (nullTerminated left.reader.statebuf)).handlerCmd.flagPlain = true := by
      simp only [Parser.handlerCmd, rightHandler, rightRegistry, Registry.cmdOf,
        ← base.registry.command]
      exact sound.2
    simp only [follow, ↓reduceIte, leftPlain, rightPlain]
    exact doReadParam_alike after rfl char endOfLine
  | readsErrorcode status =>
    have started : AlikeOpen leftLog rightLog
        { left with handler := none, status := status, errorcode := -1 }
        { right with handler := none, status := status, errorcode := -1 } :=
      ⟨base.registry, rfl, base.strlenPos, base.strlen⟩
    exact beginParams_alike started .internalError (fun _ => rfl) rfl
  | completes _ | ignored => simp [Route.beginsLine] at reads

end

theorem endResponseName_alike (base : AlikeBase leftLog rightLog left right)
    (statebuf : left.reader.statebuf = right.reader.statebuf) (char : UInt8) (endOfLine : Bool) :
    Alike leftLog rightLog (left.endResponseName (quiet n) char endOfLine)
      (right.endResponseName (quiet n) char endOfLine) := by
  by_cases reads :
      (left.registry.route (nullTerminated left.reader.statebuf)).beginsLine = true
  · exact endResponseName_alike_reading base.alikeOpen statebuf reads char endOfLine
  simp only [endResponseName, foundResponseName_eq_follow, ← statebuf, ← base.registry.route]
  generalize left.registry.route (nullTerminated left.reader.statebuf) = route at reads
  cases route with
  | reads _ | readsPlain | readsErrorcode _ => simp [Route.beginsLine] at reads
  | completes status =>
    have info : left.finalInfo status = right.finalInfo status := by
      have okStream : left.okStream = right.okStream := by
        rw [okStream, okStream, base.registry.command, base.stream]
      cases status <;> simp only [finalInfo, okStream]
    have completed : AlikeBase leftLog rightLog
        (completeCommand (quiet n) { left with handler := none } status (left.finalInfo status).1
          (left.finalInfo status).2)
        (completeCommand (quiet n) { right with handler := none } status (left.finalInfo status).1
          (left.finalInfo status).2) := by
      refine ⟨?_, rfl, rfl, base.numParams, base.strlenPos, base.strlen⟩
      simp only [Parser.completeCommand, ← base.numParams]
      exact base.registry.completeCommand _ _ _ _
    have leftInfo : finalInfo { left with handler := none } status = left.finalInfo status := by
      cases status <;> rfl
    have rightInfo : finalInfo { right with handler := none } status =
        left.finalInfo status := by
      rw [info]
      cases status <;> rfl
    simp only [follow, leftInfo, rightInfo, Bool.false_eq_true, ↓reduceIte]
    split
    · exact AlikeBase.atReset ⟨completed.registry, rfl, rfl, completed.numParams,
        completed.strlenPos, completed.strlen⟩ rfl rfl
    · exact AlikeBase.atSkip ⟨completed.registry, rfl, rfl, completed.numParams,
        completed.strlenPos, completed.strlen⟩ rfl rfl
  | ignored =>
    simp only [follow, Bool.false_eq_true, ↓reduceIte]
    split
    · exact AlikeBase.atReset ⟨base.registry, base.errorcode, base.stream, base.numParams,
        base.strlenPos, base.strlen⟩ rfl rfl
    · exact AlikeBase.atSkip ⟨base.registry, base.errorcode, base.stream, base.numParams,
        base.strlenPos, base.strlen⟩ rfl rfl

theorem readResponseName_alike (alike : Alike leftLog rightLog left right)
    (inName : left.state = .readResponseName) (char : UInt8) (endOfLine : Bool) :
    Alike leftLog rightLog (left.readResponseName (quiet n) char endOfLine)
      (right.readResponseName (quiet n) char endOfLine) := by
  have statebuf := alike.statebuf inName
  have named (leftNext rightNext : Parser n) (base : AlikeBase leftLog rightLog leftNext rightNext)
      (leftState : leftNext.state = .readResponseName)
      (rightState : rightNext.state = .readResponseName)
      (same : leftNext.reader.statebuf = rightNext.reader.statebuf) :
      Alike leftLog rightLog leftNext rightNext :=
    ⟨base, leftState.trans rightState.symm, fun _ => same,
      fun reading => absurd reading (by simp [Reading, leftState]),
      fun inParam => absurd (leftState.symm.trans inParam) (by decide)⟩
  have withBuffer (buffer : List UInt8) : AlikeBase leftLog rightLog (left.withStatebuf buffer)
      (right.withStatebuf buffer) :=
    ⟨alike.registry, alike.errorcode, alike.stream, alike.numParams, alike.strlenPos, alike.strlen⟩
  simp only [readResponseName, ← statebuf]
  split
  · split
    · exact endResponseName_alike (withBuffer [char]) rfl char endOfLine
    · split
      · exact AlikeBase.atReset ⟨alike.registry, alike.errorcode, alike.stream, alike.numParams,
          alike.strlenPos, alike.strlen⟩ rfl rfl
      · exact endResponseName_alike alike.toAlikeBase statebuf char endOfLine
  · split
    · exact named _ _ (withBuffer _) inName (alike.state.symm.trans inName) rfl
    · exact alike

theorem parseByte_alike (alike : Alike leftLog rightLog left right) (char : UInt8) :
    Alike leftLog rightLog (left.parseByte (quiet n) char) (right.parseByte (quiet n) char) := by
  simp only [parseByte, ← alike.state]
  cases state : left.state with
  | reset =>
    simp only
    split
    · exact alike
    · have begun : Alike leftLog rightLog left.beginLine right.beginLine := by
        refine ⟨⟨alike.registry, alike.errorcode, alike.stream, alike.numParams, alike.strlenPos,
          alike.strlen⟩, rfl, fun _ => rfl, fun reading => absurd reading ?_,
          fun inParam => absurd inParam ?_⟩ <;> simp [beginLine, Reading]
      exact readResponseName_alike begun rfl char _
  | readResponseName => exact readResponseName_alike alike state char _
  | startReadParam =>
    obtain ⟨handler, line⟩ := alike.line (Or.inl state)
    simp only [readRounds, ← line.handlerCmd alike.registry]
    exact startReadParam_alike char _ _ alike state
  | doReadParam => exact doReadParam_alike alike state char _
  | skipToEol =>
    have base : AlikeBase leftLog rightLog (left.skipToEol (isEndOfLine char))
        (right.skipToEol (isEndOfLine char)) :=
      ⟨alike.registry, alike.errorcode, alike.stream, alike.numParams, alike.strlenPos,
        alike.strlen⟩
    cases isOver : isEndOfLine char with
    | true =>
      rw [isOver] at base
      exact base.atReset rfl rfl
    | false =>
      rw [isOver] at base
      exact base.atSkip rfl rfl

/-- Any bytes keep two parsers alike, so both make the same calls. -/
theorem parseBuffer_alike (alike : Alike leftLog rightLog left right) (bytes : List UInt8) :
    Alike leftLog rightLog (left.parseBuffer (quiet n) bytes)
      (right.parseBuffer (quiet n) bytes) := by
  induction bytes generalizing left right with
  | nil => exact alike
  | cons char rest ih => exact ih (parseByte_alike alike char)

end Parser

end Thingsee.Modem
