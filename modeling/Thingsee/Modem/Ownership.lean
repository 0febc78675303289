import Thingsee.Modem.WellFormed

/-!
Owns the runs in which every callback is well-formed.

`OK`, `ERROR` and the prompts complete a command with the parameter count, and
`OK` also with the stream, of whichever parameter line came last. `Traced` adds
to the parser the record of which registration that line belonged to and whether
one has begun that was not reported, and `Traced.sound` excludes three kinds of
bytes:

* a name that completes the command behind a parameter line that was not
  reported, except for `OK` behind an information line of the same registration,
* a name that begins a plain line while a place holder of an earlier string is
  still set,
* an end of line inside a quoted data buffer that reports the line.
-/

namespace Thingsee.Modem

open Support

variable {n : Nat}

namespace Parser

variable {parser : Parser n}

/-- The name `PARSER_STATE_READ_RESPONSE_NAME` looks up, if `char` ends one. -/
def nameLookedUp (parser : Parser n) (char : UInt8) (endOfLine : Bool) : Option (List UInt8) :=
  if endOfLine ∨ char = 58 ∨ parser.reader.statebuf.length = statebufSize - 1 ∨
      ((char = 64 ∨ char = 62) ∧ parser.reader.statebuf = []) then
    if char = 64 ∨ char = 62 then some [char]
    else if parser.reader.statebuf = [] then none
    else some parser.reader.statebuf
  else none

def nameEnded (parser : Parser n) (char : UInt8) : Option (List UInt8) :=
  match parser.state with
  | .reset => if isEndOfLine char then none else parser.beginLine.nameLookedUp char false
  | .readResponseName => parser.nameLookedUp char (isEndOfLine char)
  | _ => none

/-- A parser that differs from `before` in nothing that the parameters of a
callback depend on. -/
structure NameOf (before start : Parser n) : Prop where
  registry : start.registry = before.registry
  numParams : start.reader.numParams = before.reader.numParams
  stream : start.reader.stream = before.reader.stream
  strlenPos : start.reader.strlenPos = before.reader.strlenPos
  overflow : start.reader.overflow = before.reader.overflow

theorem readResponseName_cases (reaction : Reaction n) (char : UInt8) (endOfLine : Bool)
    (inName : parser.state = .readResponseName) :
    let after := parser.readResponseName reaction char endOfLine
    (∃ buffer start, parser.nameLookedUp char endOfLine = some buffer ∧ NameOf parser start ∧
        start.reader.statebuf = buffer ∧ after = start.endResponseName reaction char endOfLine) ∨
      (parser.nameLookedUp char endOfLine = none ∧ NameOf parser after ∧ ¬ after.Reading ∧
        after.handler = parser.handler) := by
  intro after
  simp only [after, readResponseName, nameLookedUp]
  split
  · split
    · left
      exact ⟨[char], parser.withStatebuf [char], rfl, ⟨rfl, rfl, rfl, rfl, rfl⟩, rfl, rfl⟩
    · split
      · right
        exact ⟨rfl, ⟨rfl, rfl, rfl, rfl, rfl⟩, by simp [Reading], rfl⟩
      · left
        exact ⟨parser.reader.statebuf, parser, rfl, ⟨rfl, rfl, rfl, rfl, rfl⟩, rfl, rfl⟩
  · right
    split
    · exact ⟨rfl, ⟨rfl, rfl, rfl, rfl, rfl⟩, by simp [Reading, withStatebuf, inName], rfl⟩
    · exact ⟨rfl, ⟨rfl, rfl, rfl, rfl, rfl⟩, by simp [Reading, inName], rfl⟩

theorem parseByte_name (reaction : Reaction n) (parser : Parser n) (char : UInt8)
    (outside : parser.state = .reset ∨ parser.state = .readResponseName) :
    let after := parser.parseByte reaction char
    (∃ buffer start, parser.nameEnded char = some buffer ∧ NameOf parser start ∧
        start.reader.statebuf = buffer ∧
        after = start.endResponseName reaction char (isEndOfLine char)) ∨
      (parser.nameEnded char = none ∧ NameOf parser after ∧ ¬ after.Reading ∧
        (after.handler = none ∨ parser.state = .reset ∧ after = parser ∨
          parser.state = .readResponseName ∧ after.handler = parser.handler)) := by
  intro after
  rcases outside with reset | inName
  · by_cases isOver : isEndOfLine char = true
    · right
      have same : after = parser := by simp only [after, parseByte, reset, isOver, ↓reduceIte]
      rw [same]
      refine ⟨by simp only [nameEnded, reset, isOver, ↓reduceIte], ⟨rfl, rfl, rfl, rfl, rfl⟩,
        by simp [Reading, reset], Or.inr (Or.inl ⟨reset, rfl⟩)⟩
    · have begun : after = parser.beginLine.readResponseName reaction char false := by
        simp only [after, parseByte, reset, isOver, Bool.false_eq_true, ↓reduceIte]
      have lookup : parser.nameEnded char = parser.beginLine.nameLookedUp char false := by
        simp only [nameEnded, reset, isOver, Bool.false_eq_true, ↓reduceIte]
      rw [lookup, begun]
      rcases readResponseName_cases reaction char false (show parser.beginLine.state =
        .readResponseName from rfl) with
        ⟨buffer, start, found, nameOf, statebuf, ended⟩ | ⟨none, nameOf, notReading, noHandler⟩
      · left
        refine ⟨buffer, start, found, ?_, statebuf, ?_⟩
        · exact ⟨nameOf.registry, nameOf.numParams, nameOf.stream, nameOf.strlenPos,
            nameOf.overflow⟩
        · rw [ended, Bool.eq_false_iff.mpr isOver]
      · right
        exact ⟨none, ⟨nameOf.registry, nameOf.numParams, nameOf.stream, nameOf.strlenPos,
          nameOf.overflow⟩, notReading, Or.inl noHandler⟩
  · have begun : after = parser.readResponseName reaction char (isEndOfLine char) := by
      simp only [after, parseByte, inName]
    have lookup : parser.nameEnded char = parser.nameLookedUp char (isEndOfLine char) := by
      simp only [nameEnded, inName]
    rw [lookup, begun]
    rcases readResponseName_cases reaction char (isEndOfLine char) inName with
      found | ⟨none, nameOf, notReading, sameHandler⟩
    · exact Or.inl found
    · exact Or.inr ⟨none, nameOf, notReading, Or.inr (Or.inr ⟨inName, sameHandler⟩)⟩

/-- What a byte does, as far as parameters and callbacks are concerned. -/
inductive ByteOutcome (before after : Parser n) : Prop where
  | nothing (nameOf : NameOf before after) (outside : ¬ after.Reading)
      (noHandler : after.handler = none ∨
        (before.state = .reset ∨ before.state = .skipToEol) ∧
          (after.state = .reset ∨ after.state = .skipToEol))
  | inLine (handler : HandlerRef n)
      (source : (before.Reading ∧ before.handler = some handler) ∨ handler = .command)
      (step : LineStep handler before after)
  | begins (handler : HandlerRef n) (registry : after.registry = before.registry)
      (atStart : after.state = .startReadParam) (line : LineOf handler after)
      (listed : ∀ index, handler = .urc index → (after.registry.urcs index).active = true)
  | completes (outside : ¬ after.Reading) (noHandler : after.handler = none)
      (numParams : after.reader.numParams = before.reader.numParams)
      (stream : after.reader.stream = []) (made : Callback n) (wellFormed : made.WellFormed)
      (noReport : made.status.reportsLine = false)
      (extended : Registry.Extends before.registry after.registry [made])
      (renewed : after.registry.command.active = true →
        registrations before.registry.log < registrations after.registry.log)

variable (reaction : Reaction n) {reader : Reader}

theorem foldl_plainByte_fits {name : List UInt8}
    (fits : (name.foldl plainByte reader).overflow = false) : reader.overflow = false := by
  induction name generalizing reader with
  | nil => exact fits
  | cons char rest ih =>
    exact Reader.formatByte_fits (ih fits)

theorem foldl_plainByte_inParam {formats : List RespFormat} (name : List UInt8)
    (isString : reader.fmt = .stringToEol) (inParam : reader.InParam formats)
    (fits : (name.foldl plainByte reader).overflow = false) :
    (name.foldl plainByte reader).InParam formats := by
  induction name generalizing reader with
  | nil => exact inParam
  | cons char rest ih =>
    have first : (plainByte reader char).overflow = false := foldl_plainByte_fits fits
    rcases inParam.formatByte char false first with ⟨closed, -⟩ | ⟨-, stays⟩
    · rw [formatByte_plain isString] at closed
      simp at closed
    · exact ih (plainByte_frame isString char).1 stays fits

/-! ## One byte -/

theorem endResponseName_outcome {before start : Parser n} (nameOf : NameOf before start)
    (char : UInt8) (endOfLine : Bool)
    (noPlace : start.registry.route (nullTerminated start.reader.statebuf) = .readsPlain →
      start.reader.strlenPos = none)
    (passable : ∀ status, start.registry.route (nullTerminated start.reader.statebuf) =
      .completes status → Encodes start.registry.command.cmd.respFormat start.reader.numParams
    ((start.finalInfo status).2.getD []))
    (fits : (start.endResponseName reaction char endOfLine).reader.overflow = false) :
    ByteOutcome before (start.endResponseName reaction char endOfLine) := by
  have sound := start.registry.route_sound (nullTerminated start.reader.statebuf)
  by_cases plain :
      start.registry.route (nullTerminated start.reader.statebuf) = .readsPlain
  · rw [plain] at sound
    rw [endResponseName_plain reaction plain] at fits ⊢
    have format := start.registry.command.cmd.plainFormat sound.2
    have nameFits := (parseParameterByte_fits (doReadParam_fits fits)).1
    let cleared : Reader := { start.reader with numParams := 0, stream := [], fmt := .stringToEol }
    have atStart : Reader.AtStart start.registry.command.cmd.respFormat cleared := by
      rw [format]
      exact ⟨by simp [cleared], rfl, encodes_zero _, noPlace plain⟩
    have line : LineOf .command (start.inPlain start.reader.statebuf
        (nullTerminated start.reader.statebuf)) := by
      refine ⟨rfl, fun impossible => absurd impossible (by simp [inPlain]), fun _ => ?_⟩
      exact foldl_plainByte_inParam _ rfl (Or.inl atStart) nameFits
    have step := doReadParam_lineStep reaction line sound.1 rfl
      (fun _ => by simp [cutsBuffer, inPlain_fmt]) fits
    exact .inLine .command (Or.inr rfl)
      (step.of_registry (show (start.inPlain _ _).registry = before.registry from nameOf.registry))
  have notPlain := plain
  have listed (index : Fin n)
      (routed : start.registry.route (nullTerminated start.reader.statebuf) = .reads (.urc index)) :
      (start.registry.urcs index).active = true := Registry.route_urc_active routed
  rw [endResponseName, foundResponseName_eq_follow] at fits ⊢
  generalize start.registry.route (nullTerminated start.reader.statebuf) = route
    at sound passable listed notPlain fits ⊢
  cases route with
  | reads handler =>
    have named : ¬ (start.registry.cmdOf handler).flagPlain = true := by
      simp [Registry.Named.notPlain sound]
    have startCmd : (beginParams { start with handler := none } handler).handlerCmd =
        start.registry.cmdOf handler := rfl
    simp only [follow, ↓reduceIte, startCmd, named]
    refine .begins handler nameOf.registry rfl ⟨rfl, fun _ => encodes_zero _, by simp⟩ ?_
    rintro index rfl
    exact listed index rfl
  | readsErrorcode status =>
    refine .begins .internalError nameOf.registry rfl ⟨rfl, fun _ => encodes_zero _, ?_⟩ ?_
    · simp [follow, beginErrorcode, beginParams, handlerCmd, Registry.cmdOf, errorDef]
    · simp
  | readsPlain => exact absurd rfl notPlain
  | completes status =>
    have info : finalInfo { start with handler := none } status = start.finalInfo status := by
      cases status <;> rfl
    simp only [follow, info, Bool.false_eq_true, ↓reduceIte]
    have extended := Registry.completeCommand_extends reaction sound.1 status
      (start.finalInfo status).1 start.reader.numParams (start.finalInfo status).2
    have renewed := Registry.completeCommand_renewed reaction sound.1 status
      (start.finalInfo status).1 start.reader.numParams (start.finalInfo status).2
    rw [nameOf.registry] at extended renewed
    let made : Callback n := ⟨.command, before.registry.command.callback,
      before.registry.command.cmd.toCmdDef, status, (start.finalInfo status).1,
      start.reader.numParams, (start.finalInfo status).2, false⟩
    have wellFormed : made.WellFormed := by
      have passed := passable status rfl
      rw [nameOf.registry] at passed
      exact passed
    have noReport : made.status.reportsLine = false := by
      rcases sound.2 with rfl | rfl | rfl <;> rfl
    refine .completes ?_ rfl nameOf.numParams rfl made wellFormed noReport ?_ ?_
    · simp only [Reading]
      split <;> simp
    · simp only [Parser.completeCommand, nameOf.registry]
      exact extended
    · simp only [Parser.completeCommand, nameOf.registry]
      exact renewed
  | ignored =>
    simp only [follow, Bool.false_eq_true, ↓reduceIte]
    refine .nothing ⟨nameOf.registry, nameOf.numParams, nameOf.stream, nameOf.strlenPos,
      nameOf.overflow⟩ ?_ (Or.inl rfl)
    simp only [Reading]
    split <;> simp

theorem endResponseName_fits {reaction : Reaction n} {char : UInt8} {endOfLine : Bool}
    (fits : (parser.endResponseName reaction char endOfLine).reader.overflow = false) :
    parser.reader.overflow = false := by
  by_cases plain :
      parser.registry.route (nullTerminated parser.reader.statebuf) = .readsPlain
  · rw [endResponseName_plain reaction plain] at fits
    have nameFits := foldl_plainByte_fits (parseParameterByte_fits (doReadParam_fits fits)).1
    exact nameFits
  · have sound := parser.registry.route_sound (nullTerminated parser.reader.statebuf)
    rw [endResponseName, foundResponseName_eq_follow] at fits
    generalize parser.registry.route (nullTerminated parser.reader.statebuf) = route
      at sound plain fits
    cases route with
    | reads handler =>
      have named : ¬ (beginParams { parser with handler := none } handler).handlerCmd.flagPlain =
          true := by
        have cmd : (beginParams { parser with handler := none } handler).handlerCmd =
            parser.registry.cmdOf handler := rfl
        simp [cmd, Registry.Named.notPlain sound]
      simp only [follow, ↓reduceIte, named] at fits
      exact fits
    | readsErrorcode status => exact fits
    | readsPlain => exact absurd rfl plain
    | completes status => exact fits
    | ignored => exact fits

theorem parseByte_fits {reaction : Reaction n} {char : UInt8}
    (fits : (parser.parseByte reaction char).reader.overflow = false) :
    parser.reader.overflow = false := by
  cases state : parser.state with
  | reset | readResponseName =>
    rcases parseByte_name reaction parser char (by simp [state]) with
      ⟨_, start, -, nameOf, -, ended⟩ | ⟨-, nameOf, -⟩
    · rw [ended] at fits
      rw [← nameOf.overflow]
      exact endResponseName_fits fits
    · rw [← nameOf.overflow]
      exact fits
  | startReadParam =>
    rw [parseByte, state] at fits
    exact startReadParam_fits fits
  | doReadParam =>
    rw [parseByte, state] at fits
    exact (parseParameterByte_fits (doReadParam_fits fits)).1
  | skipToEol =>
    rw [parseByte, state] at fits
    exact fits

/-- One byte does nothing, moves inside of a line, begins one or completes the command. -/
theorem parseByte_outcome (live : parser.Live)
    (named : parser.state = .readResponseName → parser.handler = none)
    (line : parser.Reading → ∃ handler, LineOf handler parser) (char : UInt8)
    (noPlace : ∀ buffer, parser.nameEnded char = some buffer →
      parser.registry.route (nullTerminated buffer) = .readsPlain → parser.reader.strlenPos = none)
    (passable : ∀ buffer status, parser.nameEnded char = some buffer →
      parser.registry.route (nullTerminated buffer) = .completes status →
      Encodes parser.registry.command.cmd.respFormat parser.reader.numParams
    ((parser.finalInfo status).2.getD []))
    (uncut : isEndOfLine char = true → parser.state = .doReadParam → parser.cutsBuffer = false)
    (fits : (parser.parseByte reaction char).reader.overflow = false) :
    ByteOutcome parser (parser.parseByte reaction char) := by
  have inLine (reading : parser.Reading) :
      ∃ handler, LineOf handler parser ∧ parser.HandlerLive handler := by
    obtain ⟨handler, lineOf⟩ := line reading
    obtain ⟨other, isOther, otherLive⟩ := live reading
    have same : handler = other := Option.some.inj (lineOf.isHandler.symm.trans isOther)
    exact ⟨handler, lineOf, same ▸ otherLive⟩
  cases state : parser.state with
  | reset | readResponseName =>
    rcases parseByte_name reaction parser char (by simp [state]) with
      ⟨buffer, start, found, nameOf, statebuf, ended⟩ | ⟨-, nameOf, outside, noHandler⟩
    · rw [ended] at fits ⊢
      have info (status : RespStatus) : start.finalInfo status = parser.finalInfo status := by
        cases status <;> simp only [finalInfo, okStream, nameOf.registry, nameOf.stream]
      apply endResponseName_outcome reaction nameOf char _ _ _ fits
      · intro plain
        rw [nameOf.registry, statebuf] at plain
        rw [nameOf.strlenPos]
        exact noPlace buffer found plain
      · intro status completes
        rw [nameOf.registry, statebuf] at completes
        rw [nameOf.registry, nameOf.numParams, info]
        exact passable buffer status found completes
    · refine .nothing nameOf outside ?_
      rcases noHandler with none | ⟨reset, same⟩ | ⟨inName, sameHandler⟩
      · exact Or.inl none
      · right
        rw [same]
        exact ⟨Or.inl reset, Or.inl reset⟩
      · exact Or.inl (sameHandler.trans (named inName))
  | startReadParam =>
    obtain ⟨handler, lineOf, handlerLive⟩ := inLine (Or.inl state)
    rw [parseByte, state] at fits ⊢
    exact .inLine handler (Or.inl ⟨Or.inl state, lineOf.isHandler⟩)
      (startReadParam_lineStep reaction lineOf handlerLive state fits)
  | doReadParam =>
    obtain ⟨handler, lineOf, handlerLive⟩ := inLine (Or.inr state)
    rw [parseByte, state] at fits ⊢
    exact .inLine handler (Or.inl ⟨Or.inr state, lineOf.isHandler⟩)
      (doReadParam_lineStep reaction lineOf handlerLive state
        (fun isOver => uncut isOver state) fits)
  | skipToEol =>
    have skips : parser.parseByte reaction char = parser.skipToEol (isEndOfLine char) := by
      rw [parseByte, state]
    have settled : (parser.skipToEol (isEndOfLine char)).state = .reset ∨
        (parser.skipToEol (isEndOfLine char)).state = .skipToEol := by
      simp only [skipToEol]
      split <;> simp
    rw [skips]
    refine .nothing ⟨rfl, rfl, rfl, rfl, rfl⟩ ?_ (Or.inr ⟨Or.inr state, settled⟩)
    rcases settled with settled | settled <;> simp [Reading, settled]

end Parser

/-- The parser together with the registration, by its number, that the last
finished information line belongs to, and whether a line with parameters has
begun and no line has been reported since. -/
structure Traced (n : Nat) where
  parser : Parser n
  owner : Option Nat
  begun : Bool

namespace Traced

variable (reaction : Reaction n) {before : Parser n} {traced : Traced n} {after : Parser n}
  {owner : Option Nat} {begun : Bool}

/-- The registration whose parameters are at hand after a byte: an information
line of the command that is over has set them, a parameter line that is not over
has begun to change them. -/
def ownerAfter (before after : Parser n) (owner : Option Nat) : Option Nat :=
  if after.state = .startReadParam ∨ after.state = .doReadParam ∨
      after.registry.command.active = false then none
  else if (before.state = .readResponseName ∨ before.state = .startReadParam ∨
      before.state = .doReadParam) ∧ after.handler = some .command then
    some (registrations after.registry.log)
  else owner

/-- Whether the handler of the line at hand has parameters. -/
def expectsParams (parser : Parser n) : Bool :=
  parser.handler.isSome && decide (parser.handlerCmd.respNum ≠ 0)

/-- A line begins with the first byte behind its name. It counts until the next
line begins, and no longer than until the next report. -/
def begunAfter (before after : Parser n) (begun : Bool) : Bool :=
  if after.state = .startReadParam ∨ after.state = .doReadParam then expectsParams after
  else if reports before.registry.log < reports after.registry.log then false
  else begun || expectsParams after

def step (reaction : Reaction n) (traced : Traced n) (input : Parser.Input) : Traced n :=
  let after := traced.parser.step reaction input
  match input with
  | .byte _ =>
    ⟨after, ownerAfter traced.parser after traced.owner,
      begunAfter traced.parser after traced.begun⟩
  | _ => { traced with parser := after }

/-- A traced run from the zeroed parser. -/
def run (reaction : Reaction n) (inputs : List Parser.Input) : Traced n :=
  inputs.foldl (step reaction) ⟨Parser.zeroed n, none, false⟩

theorem parser_of_run (inputs : List Parser.Input) :
    (run reaction inputs).parser = (Parser.zeroed n).run reaction inputs := by
  have general : ∀ (start : Traced n),
      (inputs.foldl (step reaction) start).parser = start.parser.run reaction inputs := by
    induction inputs with
    | nil =>
      intro start
      rfl
    | cons input rest ih =>
      intro start
      refine (ih _).trans ?_
      cases input <;> rfl
  exact general _

/-- Whether a completion by name comes where it may. `OK` passes the parameters
of a single-line command; nothing else passes any. -/
def passable (traced : Traced n) (status : RespStatus) : Bool :=
  let registry := traced.parser.registry
  !traced.begun ||
    (decide (status = .ok) && !registry.command.cmd.flagMultipleResp &&
      decide (traced.owner = some (registrations registry.log)))

def soundByte (traced : Traced n) (char : UInt8) : Bool :=
  match traced.parser.nameEnded char with
  | some buffer =>
    match traced.parser.registry.route (nullTerminated buffer) with
    | .completes status => traced.passable status
    | .readsPlain => traced.parser.reader.strlenPos.isNone
    | _ => true
  | none =>
    !(isEndOfLine char && traced.parser.state == .doReadParam && traced.parser.cutsBuffer)

/-- Whether a step leaves the next callback well-formed. -/
def sound (traced : Traced n) : Parser.Input → Bool
  | .byte char => traced.soundByte char
  | _ => true

/-- What every sound step keeps while no put has failed. -/
structure Kept (traced : Traced n) : Prop where
  live : traced.parser.Live
  named : traced.parser.state = .readResponseName → traced.parser.handler = none
  listed : traced.parser.Reading → ∀ index, traced.parser.handler = some (.urc index) →
    (traced.parser.registry.urcs index).active = true
  line : traced.parser.Reading → ∃ handler, traced.parser.LineOf handler
  unowned : traced.parser.Reading → traced.owner = none
  bounded : ∀ number, traced.owner = some number → number ≤ registrations traced.parser.registry.log
  owned : traced.owner = some (registrations traced.parser.registry.log) →
    Encodes traced.parser.registry.command.cmd.respFormat traced.parser.reader.numParams
      traced.parser.reader.stream
  fresh : traced.begun = false →
    traced.parser.reader.numParams = 0 ∧ traced.parser.reader.stream = []
  calls : ∀ call ∈ callsIn traced.parser.registry.log, call.status ≠ .timeout → call.WellFormed

theorem calls_of_extends {before after : Registry n} {made : List (Callback n)}
    (extended : Registry.Extends before after made)
    (calls : ∀ call ∈ callsIn before.log, call.status ≠ .timeout → call.WellFormed)
    (added : ∀ call ∈ made, call.status ≠ .timeout → call.WellFormed) :
    ∀ call ∈ callsIn after.log, call.status ≠ .timeout → call.WellFormed := by
  intro call member
  rw [extended.calls, List.mem_append] at member
  exact member.elim (calls call) (added call)

theorem reports_of_extends {before after : Registry n} {made : Callback n}
    (extended : Registry.Extends before after [made]) :
    reports after.log = reports before.log + made.status.reportsLine.toNat := by
  rw [reports, reports, extended.calls, List.countP_append, List.countP_singleton]
  cases made.status.reportsLine <;> rfl

theorem begunAfter_reading (reading : after.Reading) :
    begunAfter before after begun = expectsParams after := if_pos reading

/-- Outside of a line and without a report, what was begun stays begun. -/
theorem begunAfter_keeps (outside : ¬ after.Reading)
    (silent : reports after.registry.log = reports before.registry.log)
    (fresh : begunAfter before after begun = false) :
    begun = false ∧ expectsParams after = false := by
  have notReading : ¬ (after.state = .startReadParam ∨ after.state = .doReadParam) := outside
  rw [begunAfter, if_neg notReading, if_neg (by omega)] at fresh
  exact Bool.or_eq_false_iff.mp fresh

/-- A line of a handler without parameters has none. -/
theorem encodes_of_expectsParams {handler : HandlerRef n} (isHandler : after.handler = some handler)
    (none : expectsParams after = false)
    (encodes : Encodes (after.registry.cmdOf handler).respFormat after.reader.numParams
      after.reader.stream) :
    after.reader.numParams = 0 ∧ after.reader.stream = [] := by
  have empty : (after.registry.cmdOf handler).respFormat = [] := by
    simpa [expectsParams, isHandler, Parser.handlerCmd, CmdDef.respNum] using none
  obtain ⟨short, values, -, same⟩ := encodes
  rw [empty] at short same
  refine ⟨Nat.le_zero.mp short, same.trans ?_⟩
  rw [List.take_nil]
  cases values <;> rfl

theorem LineOf.fresh {handler : HandlerRef n} (line : Parser.LineOf handler after)
    (reading : after.Reading) (none : expectsParams after = false) :
    after.reader.numParams = 0 ∧ after.reader.stream = [] := by
  rcases reading with atStart | inside
  · exact encodes_of_expectsParams line.isHandler none (line.atStart atStart)
  · have empty : (after.registry.cmdOf handler).respFormat = [] := by
      simpa [expectsParams, line.isHandler, Parser.handlerCmd, CmdDef.respNum] using none
    rcases line.inside inside with started | ⟨start, -, -, -, missing, -⟩
    · exact absurd started.missing (by simp [empty])
    · exact absurd missing (by simp [empty])

theorem ownerAfter_reading (reading : after.Reading) : ownerAfter before after owner = none := by
  rw [ownerAfter, if_pos]
  rcases reading with reading | reading <;> simp [reading]

theorem ownerAfter_keeps {number : Nat}
    (notEnded : after.handler ≠ some .command ∨ before.state = .reset ∨ before.state = .skipToEol)
    (isOwner : ownerAfter before after owner = some number) :
    owner = some number ∧ after.registry.command.active = true := by
  unfold ownerAfter at isOwner
  split at isOwner
  · simp at isOwner
  · next outside =>
    have active : after.registry.command.active = true := by simp_all
    rw [if_neg] at isOwner
    · exact ⟨isOwner, active⟩
    · rintro ⟨inLine, isCommand⟩
      rcases notEnded with other | reset | skips
      · exact other isCommand
      · simp [reset] at inLine
      · simp [skips] at inLine

theorem ownerAfter_le (grown : registrations before.registry.log ≤ registrations after.registry.log)
    (bounded : ∀ number, owner = some number → number ≤ registrations before.registry.log)
    (number : Nat) (isOwner : ownerAfter before after owner = some number) :
    number ≤ registrations after.registry.log := by
  unfold ownerAfter at isOwner
  split at isOwner
  · simp at isOwner
  · split at isOwner
    · exact (Option.some.inj isOwner).ge
    · exact (bounded number isOwner).trans grown

theorem Kept.passes (kept : traced.Kept) {status : RespStatus}
    (passable : traced.passable status = true) :
    Encodes traced.parser.registry.command.cmd.respFormat traced.parser.reader.numParams
      ((traced.parser.finalInfo status).2.getD []) := by
  simp only [Traced.passable, Bool.or_eq_true, Bool.not_eq_true', Bool.and_eq_true,
    decide_eq_true_eq] at passable
  rcases passable with fresh | ⟨⟨rfl, single⟩, isOwner⟩
  · obtain ⟨noParams, empty⟩ := kept.fresh fresh
    have nothing : (traced.parser.finalInfo status).2.getD [] = [] := by
      cases status <;> simp [Parser.finalInfo, Parser.okStream, empty]
    rw [nothing, noParams]
    exact encodes_zero _
  · have stream : (traced.parser.finalInfo .ok).2.getD [] = traced.parser.reader.stream := by
      simp [Parser.finalInfo, Parser.okStream, single]
    rw [stream]
    exact kept.owned isOwner

/-- What a byte inside of a line, or the one that ends it, leaves of the invariant. -/
theorem Kept.lineStep (kept : traced.Kept) (live : after.Live) {handler : HandlerRef n}
    (source : (traced.parser.Reading ∧ traced.parser.handler = some handler) ∨ handler = .command)
    (step : Parser.LineStep handler traced.parser after) :
    Kept ⟨after, ownerAfter traced.parser after traced.owner,
      begunAfter traced.parser after traced.begun⟩ := by
  cases step with
  | goesOn registry reading line =>
    refine ⟨live, ?_, ?_, fun _ => ⟨handler, line⟩, fun _ => ownerAfter_reading reading,
      ?_, ?_, ?_, ?_⟩
    · intro (inName : after.state = .readResponseName)
      simp [Parser.Reading, inName] at reading
    · intro _ index isUrc
      obtain rfl : handler = .urc index := Option.some.inj (line.isHandler.symm.trans isUrc)
      rcases source with ⟨was, wasUrc⟩ | impossible
      · simp only [registry]
        exact kept.listed was index wasUrc
      · simp at impossible
    · exact ownerAfter_le (by rw [registry]) kept.bounded
    · intro isOwner
      simp [ownerAfter_reading reading] at isOwner
    · intro fresh
      exact LineOf.fresh line reading ((begunAfter_reading reading).symm.trans fresh)
    · simp only [registry]
      exact kept.calls
  | keeps registry settled isHandler encodes =>
    have outside : ¬ after.Reading := by
      rcases settled with settled | settled <;> simp [Parser.Reading, settled]
    refine ⟨live, ?_, fun reading => absurd reading outside,
      fun reading => absurd reading outside, fun reading => absurd reading outside, ?_, ?_, ?_,
      ?_⟩
    · intro (inName : after.state = .readResponseName)
      simp [inName] at settled
    · exact ownerAfter_le (by rw [registry]) kept.bounded
    · intro isOwner
      by_cases isCommand : handler = .command
      · subst isCommand
        exact encodes
      · have notEnded : after.handler ≠ some .command := by simpa [isHandler] using isCommand
        have before := (ownerAfter_keeps (Or.inl notEnded) isOwner).1
        have was := (source.resolve_right isCommand).1
        simp [kept.unowned was] at before
    · intro fresh
      have none := (begunAfter_keeps outside (by rw [registry]) fresh).2
      exact encodes_of_expectsParams isHandler none encodes
    · simp only [registry]
      exact kept.calls
  | reports outside noHandler numParams stream made wellFormed isReport extended =>
    refine ⟨live, fun _ => noHandler, fun reading => absurd reading outside,
      fun reading => absurd reading outside, fun reading => absurd reading outside,
      ownerAfter_le extended.grown kept.bounded, ?_, fun _ => ⟨numParams, stream⟩, ?_⟩
    · intro _
      simp only [numParams, stream]
      exact encodes_zero _
    · exact calls_of_extends extended kept.calls (by simp [wellFormed])

theorem Kept.of_outcome (kept : traced.Kept) (live : after.Live)
    (outcome : Parser.ByteOutcome traced.parser after) :
    Kept ⟨after, ownerAfter traced.parser after traced.owner,
      begunAfter traced.parser after traced.begun⟩ := by
  cases outcome with
  | nothing nameOf outside noHandler =>
    have notEnded : after.handler ≠ some .command ∨ traced.parser.state = .reset ∨
        traced.parser.state = .skipToEol := by
      rcases noHandler with none | ⟨settled, -⟩
      · simp [none]
      · exact Or.inr settled
    refine ⟨live, ?_, fun reading => absurd reading outside, fun reading => absurd reading outside,
      fun reading => absurd reading outside, ?_, ?_, ?_, ?_⟩
    · intro (inName : after.state = .readResponseName)
      rcases noHandler with none | ⟨-, settled⟩
      · exact none
      · simp [inName] at settled
    · exact ownerAfter_le (by rw [nameOf.registry]) kept.bounded
    · intro isOwner
      have before : traced.owner = some (registrations after.registry.log) :=
        (ownerAfter_keeps notEnded isOwner).1
      simp only [nameOf.registry, nameOf.numParams, nameOf.stream] at before ⊢
      exact kept.owned before
    · intro fresh
      simp only [nameOf.numParams, nameOf.stream]
      exact kept.fresh (begunAfter_keeps outside (by rw [nameOf.registry]) fresh).1
    · simp only [nameOf.registry]
      exact kept.calls
  | inLine handler source step => exact kept.lineStep live source step
  | begins handler registry atStart line listed =>
    have reading : after.Reading := Or.inl atStart
    refine ⟨live, ?_, ?_, fun _ => ⟨handler, line⟩, fun _ => ownerAfter_reading reading,
      ownerAfter_le (by rw [registry]) kept.bounded, ?_, ?_, ?_⟩
    · intro (inName : after.state = .readResponseName)
      simp [atStart] at inName
    · intro _ index isUrc
      exact listed index (Option.some.inj (line.isHandler.symm.trans isUrc))
    · intro isOwner
      simp [ownerAfter_reading reading] at isOwner
    · intro fresh
      exact LineOf.fresh line reading ((begunAfter_reading reading).symm.trans fresh)
    · simp only [registry]
      exact kept.calls
  | completes outside noHandler numParams stream made wellFormed noReport extended renewed =>
    refine ⟨live, fun _ => noHandler, fun reading => absurd reading outside,
      fun reading => absurd reading outside, fun reading => absurd reading outside,
      ownerAfter_le extended.grown kept.bounded, ?_, ?_, ?_⟩
    · intro isOwner
      -- A registration after the completion has a number of its own.
      obtain ⟨before, active⟩ := ownerAfter_keeps (Or.inl (by simp [noHandler])) isOwner
      exact absurd (kept.bounded _ before) (Nat.not_le_of_lt (renewed active))
    · intro fresh
      have silent : reports after.registry.log = reports traced.parser.registry.log := by
        rw [reports_of_extends extended, noReport]
        rfl
      have before := (begunAfter_keeps outside silent fresh).1
      exact ⟨numParams.trans (kept.fresh before).1, stream⟩
    · exact calls_of_extends extended kept.calls (by simp [wellFormed])

/-- A sound byte keeps the invariant of the traced parser. -/
theorem byte_kept (kept : traced.Kept) (char : UInt8) (sound : traced.soundByte char = true)
    (fits : (traced.parser.parseByte reaction char).reader.overflow = false) :
    (traced.step reaction (.byte char)).Kept := by
  have live := (Parser.parseByte_effect reaction kept.live char).2
  have outcome : Parser.ByteOutcome traced.parser (traced.parser.parseByte reaction char) := by
    apply Parser.parseByte_outcome reaction kept.live kept.named kept.line char _ _ _ fits
    · intro buffer ended plain
      simpa [soundByte, ended, plain] using sound
    · intro buffer status ended completes
      apply kept.passes
      simpa [soundByte, ended, completes] using sound
    · intro isOver inParam
      have none : traced.parser.nameEnded char = none := by simp [Parser.nameEnded, inParam]
      simpa [soundByte, none, isOver, inParam] using sound
  exact kept.of_outcome live outcome

theorem Kept.of_extends (kept : traced.Kept) {registry : Registry n}
    (extended : Registry.Extends traced.parser.registry registry [])
    (busy : traced.parser.registry.command.active = true →
      registry.command = traced.parser.registry.command) :
    Kept ⟨{ traced.parser with registry := registry }, traced.owner, traced.begun⟩ := by
  refine ⟨Parser.live_of_registry kept.live registry busy, kept.named, ?_, ?_, kept.unowned, ?_, ?_,
    kept.fresh, ?_⟩
  · intro reading index isUrc
    have active := kept.listed reading index isUrc
    simp only [extended.urcs index active]
    exact active
  · intro reading
    obtain ⟨handler, line⟩ := kept.line reading
    have sameCmd : registry.cmdOf handler = traced.parser.registry.cmdOf handler := by
      obtain ⟨other, isOther, live⟩ := kept.live reading
      obtain rfl : handler = other := Option.some.inj (line.isHandler.symm.trans isOther)
      cases handler with
      | urc index =>
        simp only [Registry.cmdOf, extended.urcs index (kept.listed reading index line.isHandler)]
      | command => simp only [Registry.cmdOf, busy live]
      | internalError => rfl
    refine ⟨handler, line.isHandler, ?_, ?_⟩
    · simp only [sameCmd]
      exact line.atStart
    · simp only [sameCmd]
      exact line.inside
  · intro number isOwner
    exact (kept.bounded number isOwner).trans extended.grown
  · intro isOwner
    have same : registrations registry.log = registrations traced.parser.registry.log :=
      Nat.le_antisymm (kept.bounded _ isOwner) extended.grown
    simp only [same] at isOwner
    simp only [extended.command same]
    exact kept.owned isOwner
  · exact calls_of_extends extended kept.calls (by simp)

theorem commandTimer_kept (kept : traced.Kept) : (traced.step reaction .commandTimer).Kept := by
  change Kept ⟨traced.parser.step reaction .commandTimer, traced.owner, traced.begun⟩
  simp only [Parser.step]
  split
  · by_cases active : traced.parser.registry.command.active = true
    · simp only [Parser.commandTimeoutCallback, active, ↓reduceIte]
      rw [Registry.unregister_command active]
      have called := Registry.call_extends reaction
        { traced.parser.registry with
          command := { traced.parser.registry.command with active := false }
          cmdTimeout := none } .command .timeout (-1) 0 none
      refine ⟨Parser.live_reset rfl, by simp, by simp [Parser.Reading], by simp [Parser.Reading],
        by simp [Parser.Reading], ?_, ?_, kept.fresh, ?_⟩
      · intro number isOwner
        exact (kept.bounded number isOwner).trans called.grown
      · intro isOwner
        have same := Nat.le_antisymm (kept.bounded _ isOwner) called.grown
        simp only [same] at isOwner
        rw [called.command same]
        exact kept.owned isOwner
      · exact calls_of_extends called kept.calls (by simp)
    · simpa only [Parser.commandTimeoutCallback, active, Bool.false_eq_true, ↓reduceIte] using kept
  · exact kept

def KeptWhileFits (traced : Traced n) : Prop :=
  traced.parser.reader.overflow = false → traced.Kept

/-- The invariant holds until the stream overflows. -/
theorem step_keptWhileFits (traced : Traced n) (input : Parser.Input)
    (invariant : traced.KeptWhileFits) (sound : traced.sound input = true) :
    (traced.step reaction input).KeptWhileFits := by
  intro fits
  cases input with
  | byte char =>
    have kept := invariant (Parser.parseByte_fits fits)
    exact byte_kept reaction kept char sound fits
  | ask asked =>
    exact (invariant fits).of_extends (Registry.request_extends _ asked)
      (fun active => Registry.request_busy active asked)
  | commandTimer =>
    apply commandTimer_kept reaction (invariant _)
    have frame : (traced.parser.step reaction .commandTimer).reader = traced.parser.reader := by
      simp only [Parser.step, Parser.commandTimeoutCallback]
      split
      · split <;> rfl
      · rfl
    rw [← frame]
    exact fits
  | delayedTimer written =>
    exact (invariant fits).of_extends (Registry.delayedCommandCallback_extends _ written)
      (fun active => Registry.delayedCommandCallback_busy active written)

/-! ## Runs -/

theorem zeroed_kept (n : Nat) : Kept ⟨Parser.zeroed n, none, false⟩ where
  live := Parser.live_reset rfl
  named := fun inName => absurd inName (by simp [Parser.zeroed])
  listed := fun reading => absurd reading (by simp [Parser.Reading, Parser.zeroed])
  line := fun reading => absurd reading (by simp [Parser.Reading, Parser.zeroed])
  unowned := fun _ => rfl
  bounded := by simp
  owned := by simp
  fresh := fun _ => ⟨rfl, rfl⟩
  calls := by simp [Parser.zeroed, Registry.zeroed, callsIn]

end Traced

variable {formats : List RespFormat} {count : Nat}

theorem Encodes.readable {stream : List UInt8} (encodes : Encodes formats count stream) :
    ∃ values, readParams (formats.take count) stream = some (values, []) := by
  obtain ⟨-, values, allFit, rfl⟩ := encodes
  refine ⟨storedValues (formats.take count) values, ?_⟩
  simpa using readParams_encodeParams allFit []

theorem encodeParam_ne_nil {fmt : RespFormat} {value : Value} (fits : value.Fits fmt)
    (stored : fmt ≠ .datalen) : encodeParam fmt value ≠ [] := by
  cases value with
  | integer number =>
    cases fmt <;> simp_all [Value.Fits, encodeParam, RespFormat.width, leBytes]
  | bytes content => simp [encodeParam, encodeString]

theorem Encodes.empty (encodes : Encodes formats count [])
    (stored : formats.head? ≠ some .datalen) :
    count = 0 := by
  obtain ⟨short, values, allFit, empty⟩ := encodes
  cases count with
  | zero => rfl
  | succ count =>
    cases formats with
    | nil => simp at short
    | cons fmt formats =>
      rw [List.take_succ_cons] at allFit empty
      cases allFit with
      | cons head tail =>
        have first := encodeParam_ne_nil head (by simpa using stored)
        simp [encodeParams, first] at empty

/-- In every run whose steps are all sound, and as long as no put into the
response stream has failed: every callback but those of a timeout is given
exactly the encodings of its parameters. So its handler reads all of them back,
and without any bytes there are no parameters, unless the first is a data
length. -/
theorem callbacks_wellFormed (reaction : Reaction n) (inputs : List Parser.Input)
    (sound : Guarded (Traced.step reaction) (fun traced input => traced.sound input = true)
      ⟨Parser.zeroed n, none, false⟩ inputs)
    (fits : ((Parser.zeroed n).run reaction inputs).reader.overflow = false) :
    ∀ call ∈ callsIn ((Parser.zeroed n).run reaction inputs).registry.log,
      call.status ≠ .timeout →
      call.WellFormed ∧
        (∃ values, readParams (call.cmd.respFormat.take call.numParams) (call.stream.getD []) =
          some (values, [])) ∧
        (call.stream.getD [] = [] → call.cmd.respFormat.head? ≠ some .datalen →
          call.numParams = 0) := by
  have reached : (Traced.run reaction inputs).KeptWhileFits :=
    foldl_invariant Traced.KeptWhileFits (Traced.step_keptWhileFits reaction)
      (fun _ => Traced.zeroed_kept n) sound
  rw [← Traced.parser_of_run] at fits ⊢
  intro call member other
  have wellFormed := (reached fits).calls call member other
  refine ⟨wellFormed, wellFormed.readable, ?_⟩
  intro empty stored
  unfold Callback.WellFormed at wellFormed
  rw [empty] at wellFormed
  exact wellFormed.empty stored

def oneNumberQuery : Command := .number [43, 84] false

/-- `+T: 5` and then `OK`. -/
def numberThenOk : List Parser.Input :=
  .ask (.sendRaw oneNumberQuery 7 true) ::
    [43, 84, 58, 32, 53, 13, 79, 75, 13].map Parser.Input.byte

theorem callbacks_wellFormed_of_ok :
    let log := ((Parser.zeroed 0).run (quiet 0) numberThenOk).registry.log
    (callsIn log).map Callback.numParams = [1] ∧
      ∀ call ∈ callsIn log, call.status ≠ .timeout → call.WellFormed :=
  ⟨by decide, fun call member other =>
    (callbacks_wellFormed (quiet 0) numberThenOk (by decide) (by decide) call member other).1⟩

/-- `+T: 5` and then `ERROR`: the handler is told of one parameter and given no
stream. -/
def numberThenError : List Parser.Input :=
  .ask (.sendRaw oneNumberQuery 7 true) ::
    [43, 84, 58, 32, 53, 13, 69, 82, 82, 79, 82, 13].map Parser.Input.byte

theorem error_passes_stale_count :
    let parser := (Parser.zeroed 0).run (quiet 0) numberThenError
    parser.reader.overflow = false ∧
      ∃ call ∈ callsIn parser.registry.log, call.status ≠ .timeout ∧ ¬ call.WellFormed := by
  intro parser
  refine ⟨by decide, ?_⟩
  have log : callsIn parser.registry.log =
      [⟨.command, 7, oneNumberQuery.toCmdDef, .error, -1, 1, none, false⟩] := by decide
  refine ⟨_, by rw [log]; exact List.mem_singleton_self _, by decide, ?_⟩
  intro wellFormed
  have none : (1 : Nat) = 0 := Encodes.empty wellFormed (by decide)
  exact absurd none (by decide)

end Thingsee.Modem
