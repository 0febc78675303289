import Thingsee.Modem.Routing

/-!
Owns what one received byte can do to the handler registry. `Effect` lists the
possibilities: nothing, the call of an unsolicited handler, the call of the
active command's handler for one response line, or the completion of the active
command. `parseByte_effect` shows that there are no others, for every parser
state in which `Live` holds, that `Live` is kept, and that a response line is
only reported by a byte that ends one (`endsResponseLine`).

`Live` ties the handler pointer of a parser that is inside a parameter line to
the registry: the line of a command, or of its error code, is only read while
that command is active.
-/

namespace Thingsee.Modem

variable {n : Nat}

def RespStatus.isFinal : RespStatus → Bool
  | .ok | .dataprompt | .error | .cmeError | .cmsError | .timeout => true
  | _ => false

/-- What one byte can do to the registry. `lineEnds` and `urcEnds` are what a
reported response line or unsolicited result says about the byte. -/
inductive Effect (reaction : Reaction n) (lineEnds : Prop) (urcEnds : Fin n → Prop)
    (registry : Registry n) : Registry n → Prop where
  | unchanged : Effect reaction lineEnds urcEnds registry registry
  | unsolicited (index : Fin n) (ends : urcEnds index) (numParams : Nat) (stream : List UInt8) :
      Effect reaction lineEnds urcEnds registry
        (registry.doCallback reaction (.urc index) .urc 0 numParams (some stream))
  | responseLine (active : registry.command.active = true) (ends : lineEnds)
      (errorcode : Int) (numParams : Nat) (stream : List UInt8) :
      Effect reaction lineEnds urcEnds registry
        (registry.doCallback reaction .command .line errorcode numParams (some stream))
  | completed (active : registry.command.active = true) (status : RespStatus)
      (final : status.isFinal = true) (errorcode : Int) (numParams : Nat)
      (stream : Option (List UInt8)) :
      Effect reaction lineEnds urcEnds registry
        (registry.completeCommand reaction status errorcode numParams stream)

theorem Effect.of_eq {reaction : Reaction n} {lineEnds : Prop} {urcEnds : Fin n → Prop}
    {registry after : Registry n} (same : after = registry) :
    Effect reaction lineEnds urcEnds registry after := by
  rw [same]
  exact .unchanged

theorem Effect.mono {reaction : Reaction n} {lineEnds weaker : Prop}
    {urcEnds weakerUrc : Fin n → Prop} {registry after : Registry n}
    (implied : lineEnds → weaker) (impliedUrc : ∀ index, urcEnds index → weakerUrc index)
    (effect : Effect reaction lineEnds urcEnds registry after) :
    Effect reaction weaker weakerUrc registry after := by
  cases effect with
  | unchanged => exact .unchanged
  | unsolicited index ends numParams stream =>
    exact .unsolicited index (impliedUrc index ends) numParams stream
  | responseLine active ends errorcode numParams stream =>
    exact .responseLine active (implied ends) errorcode numParams stream
  | completed active status final errorcode numParams stream =>
    exact .completed active status final errorcode numParams stream

namespace Parser

variable (reaction : Reaction n) {parser : Parser n} {handler : HandlerRef n}

/-- The parser is inside a parameter line. -/
def Reading (parser : Parser n) : Prop :=
  parser.state = .startReadParam ∨ parser.state = .doReadParam

/-- What a parameter line of `handler` needs of the rest of the parser. -/
def HandlerLive (parser : Parser n) (handler : HandlerRef n) : Prop :=
  match handler with
  | .urc _ => True
  | .command => parser.registry.command.active = true
  | .internalError =>
    parser.registry.command.active = true ∧
      (parser.status = .cmeError ∨ parser.status = .cmsError)

theorem HandlerLive.congr {next : Parser n} (live : parser.HandlerLive handler)
    (registry : next.registry = parser.registry) (status : next.status = parser.status) :
    next.HandlerLive handler := by
  cases handler with
  | urc index => trivial
  | command =>
    simp only [HandlerLive, registry]
    exact live
  | internalError =>
    simp only [HandlerLive, registry, status]
    exact live

/-- Inside a parameter line the handler is set, and a line of the command is
read only while the command is active. -/
def Live (parser : Parser n) : Prop :=
  parser.Reading → ∃ handler, parser.handler = some handler ∧ parser.HandlerLive handler

/-- Whether `char` ends a line that is reported to the active command as one line
of several: the line's parameters are being read, one of them is missing, or the
line is a plain one without a separator. -/
def endsResponseLine (parser : Parser n) (char : UInt8) : Bool :=
  isEndOfLine char && parser.registry.command.cmd.flagMultipleResp &&
    match parser.state with
    | .doReadParam => parser.handler == some .command
    | .startReadParam =>
      parser.handler == some .command &&
        decide (parser.reader.numParams < parser.registry.command.cmd.respNum)
    | .readResponseName =>
      parser.reader.statebuf != [] &&
        parser.registry.route (nullTerminated parser.reader.statebuf) == .readsPlain
    | _ => false

/-- Inside a parameter line the handler is `handler`, and it is live. -/
def LiveFor (parser : Parser n) (handler : HandlerRef n) : Prop :=
  parser.Reading → parser.handler = some handler ∧ parser.HandlerLive handler

theorem LiveFor.live (liveFor : parser.LiveFor handler) : parser.Live := by
  intro reading
  exact ⟨handler, liveFor reading⟩

theorem live_of_state (outside : ¬ parser.Reading) : parser.Live :=
  fun reading => absurd reading outside

theorem live_reset (state : parser.state = .reset) : parser.Live := by
  apply live_of_state
  simp [Reading, state]

theorem parseParameterByte_inside (parser : Parser n) (char : UInt8) :
    ∃ reader state, parser.parseParameterByte reaction char false =
        ({ parser with reader := reader, state := state }, false) ∧
      (state = parser.state ∨ state = .startReadParam) := by
  unfold parseParameterByte
  split
  · exact ⟨_, parser.state, rfl, Or.inl rfl⟩
  · refine ⟨(parser.reader.formatByte char false).1, _, rfl, ?_⟩
    split
    · exact Or.inr rfl
    · exact Or.inl rfl

theorem lineEnd_effect (parser : Parser n) (isHandler : parser.handler = some handler)
    (live : parser.HandlerLive handler) (restart : Bool) :
    (lineEnd reaction parser restart = (parser, restart)) ∨
      ((lineEnd reaction parser restart).2 = false ∧
        (lineEnd reaction parser restart).1.state = .reset ∧
        Effect reaction
          (handler = .command ∧ parser.registry.command.cmd.flagMultipleResp = true)
          (fun index => handler = .urc index)
          parser.registry (lineEnd reaction parser restart).1.registry) := by
  cases handler with
  | urc index =>
    right
    have notErrorcode : parser.handlerCmd.flagErrorcode = false := by
      simp only [handlerCmd, isHandler, Registry.cmdOf]
      exact (parser.registry.urcs index).cmd.notErrorcode
    simp only [lineEnd, notErrorcode, isHandler, Bool.false_eq_true, ↓reduceIte]
    exact ⟨trivial, rfl, .unsolicited index (by rfl) _ _⟩
  | command =>
    have notErrorcode : parser.handlerCmd.flagErrorcode = false := by
      simp only [handlerCmd, isHandler, Registry.cmdOf]
      exact parser.registry.command.cmd.notErrorcode
    by_cases multiple : parser.handlerCmd.flagMultipleResp = true
    · right
      have ends : parser.registry.command.cmd.flagMultipleResp = true := by
        simpa only [handlerCmd, isHandler, Registry.cmdOf] using multiple
      simp only [lineEnd, notErrorcode, isHandler, multiple, Bool.false_eq_true, ↓reduceIte]
      exact ⟨trivial, rfl, .responseLine live ⟨trivial, ends⟩ _ _ _⟩
    · left
      simp [lineEnd, notErrorcode, isHandler, multiple]
  | internalError =>
    right
    have errorcode : parser.handlerCmd.flagErrorcode = true := by
      simp [handlerCmd, isHandler, Registry.cmdOf, errorDef]
    simp only [lineEnd, errorcode, ↓reduceIte]
    have final : parser.status.isFinal = true := by
      rcases live.2 with status | status <;> rw [status] <;> rfl
    exact ⟨trivial, rfl, .completed live.1 parser.status final _ _ _⟩

theorem parseParameterByte_effect (reaction : Reaction n) (parser : Parser n)
    (isHandler : parser.handler = some handler) (live : parser.HandlerLive handler) (char : UInt8)
    (endOfLine : Bool) : let result := parser.parseParameterByte reaction char endOfLine
    (result.1.registry = parser.registry ∧ result.1.handler = some handler ∧
        result.1.status = parser.status) ∨
      (result.2 = false ∧ result.1.state = .reset ∧
        Effect reaction
          (endOfLine = true ∧ handler = .command ∧
            parser.registry.command.cmd.flagMultipleResp = true)
          (fun index => handler = .urc index)
          parser.registry result.1.registry) := by
  intro result
  cases endOfLine with
  | false =>
    left
    obtain ⟨reader, state, equal, -⟩ := parseParameterByte_inside reaction parser char
    simp only [result, equal]
    exact ⟨trivial, isHandler, trivial⟩
  | true =>
    by_cases skips : parser.reader.skipsTrailingSpace char = true
    · left
      simp only [result, parseParameterByte, skips, ↓reduceIte]
      exact ⟨trivial, isHandler, trivial⟩
    · simp only [result, parseParameterByte, skips, ↓reduceIte, Bool.false_eq_true]
      generalize closed : parser.reader.formatByte char true = outcome
      let next : Parser n :=
        { parser with
          reader := outcome.1
          state := if outcome.2 then .startReadParam else parser.state }
      rcases lineEnd_effect reaction next isHandler live outcome.2 with same | isOver
      · left
        change (lineEnd reaction next outcome.2).1.registry = _ ∧ _
        rw [same]
        exact ⟨rfl, isHandler, rfl⟩
      · right
        exact ⟨isOver.1, isOver.2.1,
          isOver.2.2.mono (fun ends => ⟨trivial, ends⟩) (fun _ ends => ends)⟩

theorem startReadParam_effect (reaction : Reaction n) (char : UInt8) (endOfLine : Bool)
    (rounds : Nat) (isHandler : parser.handler = some handler) (live : parser.HandlerLive handler) :
    let result := startReadParam reaction char endOfLine rounds parser
    Effect reaction
        (endOfLine = true ∧ handler = .command ∧
          parser.registry.command.cmd.flagMultipleResp = true ∧
          parser.reader.numParams < parser.handlerCmd.respNum)
        (fun index => handler = .urc index)
        parser.registry result.registry ∧
      result.LiveFor handler := by
  induction rounds generalizing parser with
  | zero => exact ⟨.unchanged, fun _ => ⟨isHandler, live⟩⟩
  | succ rounds ih =>
    simp only [startReadParam]
    split
    · refine ⟨.unchanged, fun reading => absurd reading ?_⟩
      cases endOfLine <;> simp [skipToEol, Reading]
    · next missing =>
      have outcome := parseParameterByte_effect reaction parser.nextParam isHandler live
        char endOfLine
      generalize parser.nextParam.parseParameterByte reaction char endOfLine = result at outcome
      simp only [nextParam] at outcome
      rcases outcome with ⟨sameRegistry, sameHandler, sameStatus⟩ | ⟨isOver, reset, effect⟩
      · have nextLive : result.1.HandlerLive handler := live.congr sameRegistry sameStatus
        split
        · obtain ⟨effect, stillLive⟩ := ih sameHandler nextLive
          rw [sameRegistry] at effect
          refine ⟨effect.mono ?_ (fun _ ends => ends), stillLive⟩
          rintro ⟨isOver, isCommand, multiple, -⟩
          exact ⟨isOver, isCommand, multiple, by omega⟩
        · exact ⟨.of_eq sameRegistry, fun _ => ⟨sameHandler, nextLive⟩⟩
      · rw [if_neg (by simp [isOver])]
        refine ⟨effect.mono ?_ (fun _ ends => ends),
          fun reading => absurd reading (by simp [Reading, reset])⟩
        rintro ⟨isOver, isCommand, multiple⟩
        exact ⟨isOver, isCommand, multiple, by omega⟩

theorem doReadParam_effect (reaction : Reaction n) (parser : Parser n)
    (isHandler : parser.handler = some handler) (live : parser.HandlerLive handler) (char : UInt8)
    (endOfLine : Bool) : let result := parser.doReadParam reaction char endOfLine
    Effect reaction
        (endOfLine = true ∧ handler = .command ∧
          parser.registry.command.cmd.flagMultipleResp = true)
        (fun index => handler = .urc index)
        parser.registry result.registry ∧
      result.LiveFor handler := by
  have outcome := parseParameterByte_effect reaction parser isHandler live char endOfLine
  simp only [doReadParam]
  generalize parser.parseParameterByte reaction char endOfLine = result at outcome
  rcases outcome with ⟨sameRegistry, sameHandler, sameStatus⟩ | ⟨isOver, reset, effect⟩
  · have nextLive : result.1.HandlerLive handler := live.congr sameRegistry sameStatus
    split
    · obtain ⟨effect, stillLive⟩ :=
        startReadParam_effect reaction char endOfLine _ sameHandler nextLive
      rw [sameRegistry] at effect
      refine ⟨effect.mono ?_ (fun _ ends => ends), stillLive⟩
      rintro ⟨isOver, isCommand, multiple, -⟩
      exact ⟨isOver, isCommand, multiple⟩
    · exact ⟨.of_eq sameRegistry, fun _ => ⟨sameHandler, nextLive⟩⟩
  · rw [if_neg (by simp [isOver])]
    exact ⟨effect, fun reading => absurd reading (by simp [Reading, reset])⟩

theorem beginPlain_frame (parser : Parser n) (name : List UInt8) :
    (parser.beginPlain reaction name).registry = parser.registry ∧
      (parser.beginPlain reaction name).handler = some .command ∧
      (parser.beginPlain reaction name).errorcode = parser.errorcode := by
  have feed (fed : Parser n) :
      let result := name.foldl
        (fun parser char => (parser.parseParameterByte reaction char false).1) fed
      result.registry = fed.registry ∧ result.handler = fed.handler ∧
        result.errorcode = fed.errorcode := by
    induction name generalizing fed with
    | nil => exact ⟨rfl, rfl, rfl⟩
    | cons char rest ih =>
      obtain ⟨reader, state, equal, -⟩ := parseParameterByte_inside reaction fed char
      simp only [List.foldl_cons, equal]
      exact ih _
  exact feed _

theorem foundResponseName_effect (reaction : Reaction n) (parser : Parser n)
    (name : List UInt8) (lineEnds : Prop) (urcEnds : Fin n → Prop) :
    let result := parser.foundResponseName reaction name
    Effect reaction lineEnds urcEnds parser.registry result.1.registry ∧
      (result.2 = true → result.1.registry = parser.registry ∧
        ∃ handler, result.1.handler = some handler ∧ result.1.HandlerLive handler ∧
          (result.1.handlerCmd.flagPlain = true →
            handler = .command ∧ parser.registry.route name = .readsPlain)) := by
  intro result
  have sound := parser.registry.route_sound name
  simp only [result, foundResponseName_eq_follow]
  generalize parser.registry.route name = route at sound
  match route with
  | .reads (.urc index) =>
    refine ⟨.unchanged, fun _ => ⟨rfl, .urc index, rfl, trivial, fun plain => ?_⟩⟩
    exact absurd plain (by simp [follow, handlerCmd, beginParams, Registry.cmdOf,
      (parser.registry.urcs index).cmd.notPlain])
  | .reads .command =>
    refine ⟨.unchanged, fun _ => ⟨rfl, .command, rfl, sound.1, fun plain => ?_⟩⟩
    exact absurd plain (by simp [follow, handlerCmd, beginParams, Registry.cmdOf, sound.2])
  | .reads .internalError => exact absurd sound id
  | .readsPlain =>
    obtain ⟨sameRegistry, isCommand, -⟩ :=
      beginPlain_frame reaction { parser with handler := none } name
    refine ⟨.of_eq sameRegistry, fun _ => ⟨sameRegistry, .command, isCommand, ?_,
      fun _ => ⟨rfl, rfl⟩⟩⟩
    simp only [HandlerLive, follow, sameRegistry]
    exact sound.1
  | .readsErrorcode status =>
    refine ⟨.unchanged, fun _ => ⟨rfl, .internalError, rfl, sound, fun plain => ?_⟩⟩
    simp [follow, handlerCmd, beginErrorcode, beginParams, Registry.cmdOf, errorDef] at plain
  | .completes status =>
    refine ⟨.completed sound.1 status ?_ _ _ _, by simp [follow]⟩
    rcases sound.2 with rfl | rfl | rfl <;> rfl
  | .ignored => exact ⟨.unchanged, by simp [follow]⟩

theorem endResponseName_effect (reaction : Reaction n) (parser : Parser n) (char : UInt8)
    (endOfLine : Bool) :
    let result := parser.endResponseName reaction char endOfLine
    Effect reaction
        (endOfLine = true ∧ parser.registry.command.cmd.flagMultipleResp = true ∧
          parser.registry.route (nullTerminated parser.reader.statebuf) = .readsPlain)
        (fun _ => False)
        parser.registry result.registry ∧
      result.Live := by
  obtain ⟨effect, onFound⟩ := foundResponseName_effect reaction parser
    (nullTerminated parser.reader.statebuf)
    (endOfLine = true ∧ parser.registry.command.cmd.flagMultipleResp = true ∧
      parser.registry.route (nullTerminated parser.reader.statebuf) = .readsPlain)
    (fun _ => False)
  simp only [endResponseName]
  generalize parser.foundResponseName reaction (nullTerminated parser.reader.statebuf) = result
    at effect onFound
  by_cases found : result.2 = true
  · obtain ⟨sameRegistry, handler, isHandler, live, isPlain⟩ := onFound found
    simp only [found, ↓reduceIte]
    split
    · next plain =>
      obtain ⟨lineEffect, stillLive⟩ := doReadParam_effect reaction
        { result.1 with state := .doReadParam } isHandler live char endOfLine
      obtain ⟨isCommand, routed⟩ := isPlain plain
      rw [← sameRegistry]
      refine ⟨lineEffect.mono ?_ ?_, stillLive.live⟩
      · rintro ⟨isOver, -, multiple⟩
        exact ⟨isOver, multiple, by rw [sameRegistry]; exact routed⟩
      · intro index isUrc
        rw [isCommand] at isUrc
        exact absurd isUrc (by simp)
    · exact ⟨effect, fun _ => ⟨handler, isHandler, live⟩⟩
  · simp only [found, Bool.false_eq_true, ↓reduceIte]
    refine ⟨effect, live_of_state ?_⟩
    simp only [Reading]
    split <;> simp

theorem readResponseName_effect (reaction : Reaction n) (parser : Parser n) (char : UInt8)
    (endOfLine : Bool) (inName : parser.state = .readResponseName)
    (notPrompt : endOfLine = true → char ≠ 64 ∧ char ≠ 62) :
    let result := parser.readResponseName reaction char endOfLine
    Effect reaction
        (endOfLine = true ∧ parser.registry.command.cmd.flagMultipleResp = true ∧
          parser.reader.statebuf ≠ [] ∧
          parser.registry.route (nullTerminated parser.reader.statebuf) = .readsPlain)
        (fun _ => False)
        parser.registry result.registry ∧
      result.Live := by
  have stays : parser.Live := live_of_state (by simp [Reading, inName])
  simp only [readResponseName]
  split
  · split
    · next prompt =>
      obtain ⟨effect, live⟩ :=
        endResponseName_effect reaction (parser.withStatebuf [char]) char endOfLine
      refine ⟨effect.mono ?_ (fun _ ends => ends), live⟩
      rintro ⟨isOver, -, -⟩
      have other := notPrompt isOver
      exact absurd prompt (by simp [other.1, other.2])
    · split
      · exact ⟨.unchanged, live_reset rfl⟩
      · next filled =>
        obtain ⟨effect, live⟩ := endResponseName_effect reaction parser char endOfLine
        refine ⟨effect.mono ?_ (fun _ ends => ends), live⟩
        rintro ⟨isOver, multiple, plain⟩
        exact ⟨isOver, multiple, filled, plain⟩
  · split
    · exact ⟨.unchanged, stays⟩
    · exact ⟨.unchanged, stays⟩

theorem not_prompt_of_endOfLine {char : UInt8} (isOver : isEndOfLine char = true) :
    char ≠ 64 ∧ char ≠ 62 := by
  rcases of_decide_eq_true isOver with rfl | rfl <;> decide

/-- What one byte can do to calls and registrations. -/
theorem parseByte_effect (live : parser.Live) (char : UInt8) :
    Effect reaction (parser.endsResponseLine char = true)
        (fun index => parser.Reading ∧ parser.handler = some (.urc index))
        parser.registry (parser.parseByte reaction char).registry ∧
      (parser.parseByte reaction char).Live := by
  unfold parseByte
  cases state : parser.state with
  | reset =>
    by_cases isOver : isEndOfLine char = true
    · simp only [isOver, ↓reduceIte]
      exact ⟨.unchanged, live⟩
    · simp only [isOver, Bool.false_eq_true, ↓reduceIte]
      obtain ⟨effect, stillLive⟩ :=
        readResponseName_effect reaction parser.beginLine char false rfl (by simp)
      exact ⟨effect.mono (by simp) (by simp), stillLive⟩
  | readResponseName =>
    obtain ⟨effect, stillLive⟩ :=
      readResponseName_effect reaction parser char _ state not_prompt_of_endOfLine
    refine ⟨effect.mono ?_ (by simp), stillLive⟩
    rintro ⟨isOver, multiple, filled, plain⟩
    simp [endsResponseLine, isOver, multiple, state, filled, plain]
  | startReadParam =>
    obtain ⟨handler, isHandler, handlerLive⟩ := live (Or.inl state)
    obtain ⟨effect, stillLive⟩ :=
      startReadParam_effect reaction char (isEndOfLine char) parser.readRounds isHandler
        handlerLive
    refine ⟨effect.mono ?_ (fun index ends => ⟨Or.inl state, by rw [isHandler, ends]⟩),
      stillLive.live⟩
    rintro ⟨isOver, rfl, multiple, missing⟩
    have expected : parser.handlerCmd.respNum = parser.registry.command.cmd.respNum := by
      simp only [handlerCmd, isHandler, Registry.cmdOf]
    simp [endsResponseLine, isOver, multiple, state, isHandler, ← expected, missing]
  | doReadParam =>
    obtain ⟨handler, isHandler, handlerLive⟩ := live (Or.inr state)
    obtain ⟨effect, stillLive⟩ :=
      doReadParam_effect reaction parser isHandler handlerLive char (isEndOfLine char)
    refine ⟨effect.mono ?_ (fun index ends => ⟨Or.inr state, by rw [isHandler, ends]⟩),
      stillLive.live⟩
    rintro ⟨isOver, rfl, multiple⟩
    simp [endsResponseLine, isOver, multiple, state, isHandler]
  | skipToEol =>
    refine ⟨.unchanged, live_of_state ?_⟩
    cases isEndOfLine char <;> simp [skipToEol, Reading]

end Parser

end Thingsee.Modem
