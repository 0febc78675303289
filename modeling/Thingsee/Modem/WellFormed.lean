import Thingsee.Modem.Completion
import Thingsee.Modem.Encoded
import Thingsee.Modem.PlainLines

/-!
Owns the arguments of callbacks over a byte: what it does to the parameter count
and the stream of the line that is read, and that a report passes exactly the
encoding of its parameters.

`OK`, `ERROR` and the prompts pass the count and the stream on as they are, from
whichever line they stem.

Does not own which runs that does no harm in.
-/

namespace Thingsee.Modem

open Support

variable {n : Nat}

/-- The stream of a callback, a null stream being empty, is exactly the
concatenation of the encodings of its parameters. -/
def Callback.WellFormed (call : Callback n) : Prop :=
  Encodes call.cmd.respFormat call.numParams (call.stream.getD [])

def Event.call? : Event n → Option (Callback n)
  | .called call => some call
  | .registered _ _ => none

def callsIn (log : List (Event n)) : List (Callback n) := log.filterMap Event.call?

/-- Whether a callback of this status reports a line: the count and the stream
begin anew behind it. -/
def RespStatus.reportsLine : RespStatus → Bool
  | .line | .urc | .cmeError | .cmsError => true
  | _ => false

def reports (log : List (Event n)) : Nat :=
  (callsIn log).countP (fun call => call.status.reportsLine)

def registrations (log : List (Event n)) : Nat := log.countP (fun event => event.call?.isNone)

namespace Registry

variable (reaction : Reaction n) (registry : Registry n)

/-- `after` has grown from `before` by the callbacks `made` and by requests. A
definition in use stays the same. -/
structure Extends (before after : Registry n) (made : List (Callback n)) : Prop where
  calls : callsIn after.log = callsIn before.log ++ made
  grown : registrations before.log ≤ registrations after.log
  command : registrations after.log = registrations before.log →
    after.command.cmd = before.command.cmd
  urcs : ∀ index, (before.urcs index).active = true → after.urcs index = before.urcs index
  activated : after.command.active = true → before.command.active = true ∨
    registrations before.log < registrations after.log

theorem Extends.rfl {registry : Registry n} : Extends registry registry [] :=
  ⟨(List.append_nil _).symm, Nat.le_refl _, fun _ => by rfl, fun _ _ => by rfl, Or.inl⟩

theorem Extends.trans {first second third : Registry n} {early late : List (Callback n)}
    (one : Extends first second early) (two : Extends second third late) :
    Extends first third (early ++ late) := by
  refine ⟨?_, one.grown.trans two.grown, ?_, ?_, ?_⟩
  · rw [two.calls, one.calls, List.append_assoc]
  · intro same
    have grownOne := one.grown
    have grownTwo := two.grown
    rw [two.command (by omega), one.command (by omega)]
  · intro index active
    have kept := one.urcs index active
    rw [two.urcs index (by rw [kept]; exact active), kept]
  · intro active
    rcases two.activated active with before | later
    · exact (one.activated before).imp id (fun grown => grown.trans_le two.grown)
    · exact Or.inr (one.grown.trans_lt later)

theorem sendNow_extends (cmd : Command) (callback : Nat) (written : Bool) :
    Extends registry (registry.sendNow cmd callback written) [] := by
  unfold sendNow
  split
  · exact .rfl
  · have registered : Extends registry (registry.registerCommand cmd callback) [] := by
      refine ⟨?_, ?_, ?_, fun _ _ => by rfl, fun _ => Or.inr ?_⟩
      · simp [registerCommand, callsIn, Event.call?]
      · simp [registerCommand, registrations, Event.call?]
      · intro same
        simp [registerCommand, registrations, Event.call?] at same
      · simp [registerCommand, registrations, Event.call?]
    split
    · exact ⟨registered.calls, registered.grown, registered.command, registered.urcs,
        registered.activated⟩
    · exact registered

theorem request_extends (asked : Request) : Extends registry (registry.request asked) [] := by
  cases asked with
  | registerUrc cmd callback =>
    simp only [request, registerUrc]
    split
    · next index free =>
      have inactive : (registry.urcs index).active = false := by
        have := List.find?_some free
        simpa using this
      refine ⟨(List.append_nil _).symm, Nat.le_refl _, fun _ => by rfl, ?_, Or.inl⟩
      intro other active
      have different : other ≠ index := by
        rintro rfl
        simp [inactive] at active
      exact Function.update_of_ne different _ _
    · exact .rfl
  | sendCmd cmd callback timediff written =>
    simp only [request, sendCmd]
    split
    · exact .rfl
    · split
      · exact ⟨(List.append_nil _).symm, Nat.le_refl _, fun _ => by rfl, fun _ _ => by rfl,
          Or.inl⟩
      · exact sendNow_extends registry cmd callback written
  | sendRaw cmd callback written => exact sendNow_extends registry cmd callback written

section

variable (handler : HandlerRef n) (status : RespStatus) (errorcode : Int) (numParams : Nat)
  (stream : Option (List UInt8))

theorem call_extends :
    Extends registry (registry.call reaction handler status errorcode numParams stream)
      [⟨handler, registry.callbackOf handler, registry.cmdOf handler, status, errorcode, numParams,
        stream, registry.command.active⟩] := by
  have requests : ∀ (asked : List Request) (start : Registry n),
      Extends start (asked.foldl request start) [] := by
    intro asked
    induction asked with
    | nil =>
      intro start
      exact .rfl
    | cons first rest ih =>
      intro start
      exact (request_extends start first).trans (ih _)
  have logged : Extends registry
      { registry with
        log := registry.log ++
          [.called ⟨handler, registry.callbackOf handler, registry.cmdOf handler, status, errorcode,
            numParams, stream, registry.command.active⟩] }
      [⟨handler, registry.callbackOf handler, registry.cmdOf handler, status, errorcode, numParams,
        stream, registry.command.active⟩] := by
    refine ⟨?_, ?_, fun _ => by rfl, fun _ _ => by rfl, Or.inl⟩
    · simp [callsIn, Event.call?]
    · simp [registrations]
  exact logged.trans (requests _ _)

theorem doCallback_extends :
    Extends registry (registry.doCallback reaction handler status errorcode numParams stream)
      [⟨handler, registry.callbackOf handler, registry.cmdOf handler, status, errorcode, numParams,
        stream, registry.command.active⟩] := by
  cases handler with
  | urc index => exact call_extends reaction registry _ _ _ _ _
  | command | internalError =>
    have called := call_extends reaction { registry with cmdTimeout := none }
    exact ⟨(called _ _ _ _ _).calls, (called _ _ _ _ _).grown, (called _ _ _ _ _).command,
      (called _ _ _ _ _).urcs, (called _ _ _ _ _).activated⟩

end

theorem completeCommand_extends {registry : Registry n} (active : registry.command.active = true)
    (status : RespStatus) (errorcode : Int) (numParams : Nat) (stream : Option (List UInt8)) :
    Extends registry (registry.completeCommand reaction status errorcode numParams stream)
      [⟨.command, registry.command.callback, registry.command.cmd.toCmdDef, status, errorcode,
        numParams, stream, false⟩] := by
  rw [completeCommand, unregister_command active]
  have called := doCallback_extends reaction
    { registry with command := { registry.command with active := false } } .command status
    errorcode numParams stream
  exact ⟨called.calls, called.grown, called.command, called.urcs, fun _ => Or.inl active⟩

theorem completeCommand_renewed {registry : Registry n} (active : registry.command.active = true)
    (status : RespStatus) (errorcode : Int) (numParams : Nat) (stream : Option (List UInt8))
    (again : (registry.completeCommand reaction status errorcode numParams stream).command.active =
      true) :
    registrations registry.log <
      registrations (registry.completeCommand reaction status errorcode numParams stream).log := by
  rw [completeCommand, unregister_command active] at again ⊢
  have called := doCallback_extends reaction
    { registry with command := { registry.command with active := false } } .command status
    errorcode numParams stream
  exact (called.activated again).resolve_left Bool.false_ne_true

theorem delayedCommandCallback_extends (written : Bool) :
    Extends registry (registry.delayedCommandCallback written) [] := by
  unfold delayedCommandCallback
  split
  · next cmd callback _ =>
    have sent := sendNow_extends { registry with delayedCmd := none } cmd callback written
    exact ⟨sent.calls, sent.grown, sent.command, sent.urcs, sent.activated⟩
  · exact .rfl

end Registry

namespace Parser

variable (reaction : Reaction n) {parser : Parser n} {char : UInt8} {handler : HandlerRef n}
  {endOfLine : Bool}

theorem lineEnd_overflow (parser : Parser n) (restart : Bool) :
    (lineEnd reaction parser restart).1.reader.overflow = parser.reader.overflow := by
  unfold lineEnd
  split
  · rfl
  · split
    · rfl
    · split <;> rfl
    · rfl

theorem parseParameterByte_fits {reaction : Reaction n}
    (fits : (parser.parseParameterByte reaction char endOfLine).1.reader.overflow = false) :
    parser.reader.overflow = false ∧
      (parser.reader.skipsTrailingSpace char = false →
        (parser.reader.formatByte char endOfLine).1.overflow = false) := by
  unfold parseParameterByte at fits
  split at fits
  · next skips =>
    exact ⟨Reader.openQuoted_fits fits, fun reads => absurd skips (by simp [reads])⟩
  · have stored : (parser.reader.formatByte char endOfLine).1.overflow = false := by
      split at fits
      · rw [lineEnd_overflow] at fits
        exact fits
      · exact fits
    exact ⟨Reader.formatByte_fits stored, fun _ => stored⟩

theorem startReadParam_fits {reaction : Reaction n} {rounds : Nat}
    (fits : (startReadParam reaction char endOfLine rounds parser).reader.overflow = false) :
    parser.reader.overflow = false := by
  induction rounds generalizing parser with
  | zero => exact fits
  | succ rounds ih =>
    simp only [startReadParam] at fits
    split at fits
    · exact fits
    · have afterByte : (parser.nextParam.parseParameterByte reaction char
          endOfLine).1.reader.overflow = false := by
        split at fits
        · exact ih fits
        · exact fits
      exact (parseParameterByte_fits afterByte).1

theorem doReadParam_fits {reaction : Reaction n}
    (fits : (parser.doReadParam reaction char endOfLine).reader.overflow = false) :
    (parser.parseParameterByte reaction char endOfLine).1.reader.overflow = false := by
  simp only [doReadParam] at fits
  split at fits
  · exact startReadParam_fits fits
  · exact fits

/-- The stream of a parser inside a parameter line of `handler`. -/
structure LineOf (handler : HandlerRef n) (parser : Parser n) : Prop where
  isHandler : parser.handler = some handler
  atStart : parser.state = .startReadParam →
    Encodes (parser.registry.cmdOf handler).respFormat parser.reader.numParams parser.reader.stream
  inside : parser.state = .doReadParam →
    parser.reader.InParam (parser.registry.cmdOf handler).respFormat

/-- What a byte does to a parameter line: the line goes on, it is over and its
parameters are kept, or it is over and reported. -/
inductive LineStep (handler : HandlerRef n) (before after : Parser n) : Prop where
  | goesOn (registry : after.registry = before.registry) (reading : after.Reading)
      (line : LineOf handler after)
  | keeps (registry : after.registry = before.registry)
      (settled : after.state = .reset ∨ after.state = .skipToEol)
      (isHandler : after.handler = some handler)
      (encodes : Encodes (after.registry.cmdOf handler).respFormat after.reader.numParams
        after.reader.stream)
  | reports (outside : ¬ after.Reading) (noHandler : after.handler = none)
      (numParams : after.reader.numParams = 0) (stream : after.reader.stream = [])
      (made : Callback n) (wellFormed : made.WellFormed) (isReport : made.status.reportsLine = true)
      (extended : Registry.Extends before.registry after.registry [made])

/-- Whether the end of a line of `handler` is reported with its parameters. -/
def reportsLines (parser : Parser n) : HandlerRef n → Bool
  | .urc _ => true
  | .command => parser.registry.command.cmd.flagMultipleResp
  | .internalError => false

theorem lineEnd_lineStep (isHandler : parser.handler = some handler)
    (live : parser.HandlerLive handler)
    (encodes : parser.reportsLines handler = true →
      Encodes (parser.registry.cmdOf handler).respFormat parser.reader.numParams
      parser.reader.stream)
    (restart : Bool) :
    (lineEnd reaction parser restart = (parser, restart) ∧ handler = .command) ∨
      ((lineEnd reaction parser restart).2 = false ∧
        LineStep handler parser (lineEnd reaction parser restart).1) := by
  cases handler with
  | internalError =>
    right
    have errorcode : parser.handlerCmd.flagErrorcode = true := by
      simp [handlerCmd, isHandler, Registry.cmdOf, errorDef]
    rw [lineEnd, if_pos errorcode]
    refine ⟨rfl, .reports (by simp [Reading, handleErrorcode]) rfl rfl rfl _ ?_ ?_
      (Registry.completeCommand_extends reaction live.1 _ _ _ _)⟩
    · exact encodes_zero _
    · rcases live.2 with status | status <;> rw [status] <;> rfl
  | urc index =>
    right
    have notErrorcode : ¬ parser.handlerCmd.flagErrorcode = true := by
      simp [handlerCmd, isHandler, Registry.cmdOf, (parser.registry.urcs index).cmd.notErrorcode]
    rw [lineEnd, if_neg notErrorcode, isHandler]
    refine ⟨rfl, .reports (by simp [Reading, handleUnsolicited]) rfl rfl rfl _ ?_ rfl
      (Registry.doCallback_extends reaction parser.registry _ _ _ _ _)⟩
    exact encodes rfl
  | command =>
    rw [lineEnd_command reaction isHandler]
    by_cases multiple : parser.registry.command.cmd.flagMultipleResp = true
    · right
      rw [if_pos multiple]
      refine ⟨rfl, .reports (by simp [Reading, handleResponseLine]) rfl rfl rfl _ ?_ rfl
        (Registry.doCallback_extends reaction parser.registry _ _ _ _ _)⟩
      exact encodes multiple
    · left
      rw [if_neg multiple]
      exact ⟨rfl, rfl⟩

/-- Whether the end of the line would be reported while the parameter at hand is
a data buffer inside of its quotes. -/
def cutsBuffer (parser : Parser n) : Bool :=
  parser.reader.fmt == .quotedDatabuf && parser.reader.openQuoted.quotes == 1 &&
    match parser.handler with
    | some handler => parser.reportsLines handler
    | none => false

theorem parseParameterByte_lineStep (line : LineOf handler parser)
    (live : parser.HandlerLive handler) (inParam : parser.state = .doReadParam)
    (uncut : endOfLine = true → parser.cutsBuffer = false)
    (fits : (parser.parseParameterByte reaction char endOfLine).1.reader.overflow = false) :
    let result := parser.parseParameterByte reaction char endOfLine
    (result.2 = true ∧ result.1.registry = parser.registry ∧ result.1.status = parser.status ∧
        result.1.state = .startReadParam ∧ LineOf handler result.1) ∨
      (result.2 = false ∧ LineStep handler parser result.1) := by
  intro result
  have inside := line.inside inParam
  by_cases skips : parser.reader.skipsTrailingSpace char = true
  · have opened : result = ({ parser with reader := parser.reader.openQuoted }, false) := by
      simp only [result, parseParameterByte, skips, ↓reduceIte]
    have isText : Reader.isIntegerFormat parser.reader.fmt = false := by
      simp only [Reader.skipsTrailingSpace, Bool.and_eq_true, Bool.or_eq_true, beq_iff_eq] at skips
      rcases skips.1.1 with fmt | fmt <;> rw [fmt] <;> rfl
    have openFits : parser.reader.openQuoted.overflow = false := by
      have := fits
      rw [show parser.parseParameterByte reaction char endOfLine = _ from opened] at this
      exact this
    right
    rw [opened]
    refine ⟨rfl, .goesOn rfl (Or.inr inParam) ⟨line.isHandler, ?_, ?_⟩⟩
    · intro atStart
      exact absurd (inParam.symm.trans atStart) (by decide)
    · intro _
      exact Or.inr (inside.openQuoted isText openFits)
  · have reads : parser.reader.skipsTrailingSpace char = false := by simpa using skips
    have byteFits := (parseParameterByte_fits fits).2 reads
    have read := inside.formatByte char endOfLine byteFits
    generalize outcome : parser.reader.formatByte char endOfLine = byte at read
    let next : Parser n :=
      { parser with
        reader := byte.1
        state := if byte.2 then .startReadParam else parser.state }
    have whole : result = if endOfLine then lineEnd reaction next byte.2 else (next, false) := by
      simp only [result, parseParameterByte, reads, outcome, Bool.false_eq_true, ↓reduceIte]
      rfl
    have nextLine : LineOf handler next := by
      refine ⟨line.isHandler, ?_, ?_⟩
      · intro atStart
        rcases read with ⟨closed, encodes⟩ | ⟨opened, -⟩
        · exact encodes
        · simp only [next, opened, Bool.false_eq_true, ↓reduceIte] at atStart
          exact absurd (inParam.symm.trans atStart) (by decide)
      · intro atParam
        rcases read with ⟨closed, -⟩ | ⟨-, inParam⟩
        · simp [next, closed] at atParam
        · exact inParam
    have nextReads : next.Reading := by
      rcases read with ⟨closed, -⟩ | ⟨opened, -⟩
      · exact Or.inl (by simp [next, closed])
      · exact Or.inr (by simp [next, opened, inParam])
    cases endOfLine with
    | false =>
      right
      rw [whole]
      exact ⟨rfl, .goesOn rfl nextReads nextLine⟩
    | true =>
      have encodes : next.reportsLines handler = true →
          Encodes (next.registry.cmdOf handler).respFormat next.reader.numParams
            next.reader.stream := by
        intro reports
        have closed : byte.2 = true := by
          have outside : ¬ (parser.reader.fmt = .quotedDatabuf ∧
              parser.reader.openQuoted.quotes = 1) := by
            rintro ⟨isBuffer, quoted⟩
            have := uncut rfl
            have sameReports : parser.reportsLines handler = true := reports
            simp [cutsBuffer, isBuffer, quoted, line.isHandler, sameReports] at this
          have := parser.reader.formatByte_endOfLine char outside
          rw [outcome] at this
          exact this
        rcases read with ⟨-, encodes⟩ | ⟨opened, -⟩
        · exact encodes
        · simp [closed] at opened
      have nextLive : next.HandlerLive handler := live.congr rfl rfl
      rcases lineEnd_lineStep reaction nextLine.isHandler nextLive encodes byte.2 with
        ⟨stays, -⟩ | ⟨isOver, step⟩
      · rw [whole, if_pos rfl, stays]
        rcases read with ⟨closed, -⟩ | ⟨opened, -⟩
        · exact Or.inl ⟨closed, rfl, rfl, by simp [next, closed], nextLine⟩
        · exact Or.inr ⟨opened, .goesOn rfl nextReads nextLine⟩
      · right
        rw [whole, if_pos rfl]
        refine ⟨isOver, ?_⟩
        cases step with
        | goesOn registry reading line => exact .goesOn registry reading line
        | keeps registry settled isHandler encodes =>
          exact .keeps registry settled isHandler encodes
        | reports outside noHandler numParams stream made wellFormed isReport extended =>
          exact .reports outside noHandler numParams stream made wellFormed isReport extended

theorem LineStep.of_registry {before between after : Parser n}
    (same : between.registry = before.registry) (step : LineStep handler between after) :
    LineStep handler before after := by
  cases step with
  | goesOn registry reading line => exact .goesOn (registry.trans same) reading line
  | keeps registry settled isHandler encodes =>
    exact .keeps (registry.trans same) settled isHandler encodes
  | reports outside noHandler numParams stream made wellFormed isReport extended =>
    rw [same] at extended
    exact .reports outside noHandler numParams stream made wellFormed isReport extended

theorem nextParam_uncut (parser : Parser n) : parser.nextParam.cutsBuffer = false := by
  have unopened : parser.nextParam.reader.openQuoted.quotes = 0 := by
    simp only [nextParam, Reader.clearParam, Reader.openQuoted]
  simp [cutsBuffer, unopened]

theorem startReadParam_lineStep {rounds : Nat} (line : LineOf handler parser)
    (live : parser.HandlerLive handler) (atStart : parser.state = .startReadParam)
    (fits : (startReadParam reaction char endOfLine rounds parser).reader.overflow = false) :
    LineStep handler parser (startReadParam reaction char endOfLine rounds parser) := by
  induction rounds generalizing parser with
  | zero => exact .goesOn rfl (Or.inl atStart) line
  | succ rounds ih =>
    have encodes := line.atStart atStart
    have handlerCmd : parser.handlerCmd = parser.registry.cmdOf handler := by
      simp only [Parser.handlerCmd, line.isHandler]
    simp only [startReadParam] at fits ⊢
    split
    · refine .keeps rfl ?_ line.isHandler encodes
      cases endOfLine with
      | true => exact Or.inl rfl
      | false => exact Or.inr rfl
    · next missing =>
      rw [if_neg missing] at fits
      have room : parser.reader.numParams <
          (parser.registry.cmdOf handler).respFormat.length := by
        rw [handlerCmd, CmdDef.respNum] at missing
        omega
      have nextLine : LineOf handler parser.nextParam := by
        refine ⟨line.isHandler, fun impossible => absurd impossible (by simp [nextParam]), ?_⟩
        intro _
        refine Or.inl ⟨room, ?_, encodes, rfl⟩
        simp only [nextParam, handlerCmd]
        rfl
      have nextLive : parser.nextParam.HandlerLive handler := live.congr rfl rfl
      have afterByte : (parser.nextParam.parseParameterByte reaction char
          endOfLine).1.reader.overflow = false := by
        split at fits
        · exact startReadParam_fits fits
        · exact fits
      rcases parseParameterByte_lineStep reaction nextLine nextLive rfl
        (fun _ => parser.nextParam_uncut) afterByte with
        ⟨restart, sameRegistry, sameStatus, startsNext, lineNext⟩ | ⟨isOver, step⟩
      · rw [if_pos restart] at fits ⊢
        have stillLive : (parser.nextParam.parseParameterByte reaction char
            endOfLine).1.HandlerLive handler := nextLive.congr sameRegistry sameStatus
        exact (ih lineNext stillLive startsNext fits).of_registry sameRegistry
      · rw [if_neg (by simp [isOver])]
        exact step.of_registry (show parser.nextParam.registry = parser.registry from rfl)

theorem doReadParam_lineStep (line : LineOf handler parser) (live : parser.HandlerLive handler)
    (inParam : parser.state = .doReadParam) (uncut : endOfLine = true → parser.cutsBuffer = false)
    (fits : (parser.doReadParam reaction char endOfLine).reader.overflow = false) :
    LineStep handler parser (parser.doReadParam reaction char endOfLine) := by
  have afterByte := doReadParam_fits fits
  simp only [doReadParam] at fits ⊢
  rcases parseParameterByte_lineStep reaction line live inParam uncut afterByte with
    ⟨restart, sameRegistry, sameStatus, startsNext, lineNext⟩ | ⟨isOver, step⟩
  · rw [if_pos restart] at fits ⊢
    have stillLive : (parser.parseParameterByte reaction char endOfLine).1.HandlerLive handler :=
      live.congr sameRegistry sameStatus
    exact (startReadParam_lineStep reaction lineNext stillLive startsNext fits).of_registry
      sameRegistry
  · rw [if_neg (by simp [isOver])]
    exact step

end Parser

end Thingsee.Modem
