import Thingsee.Modem.Effects
import Thingsee.Modem.Lines

/-!
Owns the delivery of unsolicited result codes: which complete lines of a
registered handler are reported to it.

A line is reported where the end of it is seen while one of its parameters is
read. A handler without parameters never sees that, and neither does a line with
more parameters than the format; both end in `PARSER_STATE_SKIP_TO_EOL`. A line
whose name leads elsewhere (`Away`) is not reported to the handler either.
-/

namespace Thingsee.Modem

open Support List

variable {n : Nat}

/-- The call of `handler` an event is, if any. -/
def Event.callTo? (handler : HandlerRef n) : Event n → Option (Callback n)
  | .called call => if call.source = handler then some call else none
  | .registered _ _ => none

/-- The callbacks made to `handler`. -/
def callsTo (handler : HandlerRef n) (log : List (Event n)) : List (Callback n) :=
  log.filterMap (Event.callTo? handler)

namespace Registry

variable (reaction : Reaction n) (handler : HandlerRef n) (registry : Registry n)

theorem callsTo_sendNow (cmd : Command) (callback : Nat) (written : Bool) :
    callsTo handler (registry.sendNow cmd callback written).log = callsTo handler registry.log := by
  unfold sendNow
  split
  · rfl
  · split <;>
      simp [callsTo, registerCommand, setupCommandTimeout, Event.callTo?]

theorem callsTo_request (asked : Request) :
    callsTo handler (registry.request asked).log = callsTo handler registry.log := by
  cases asked with
  | registerUrc cmd callback =>
    simp only [request, registerUrc]
    split <;> rfl
  | sendCmd cmd callback timediff written =>
    simp only [request, sendCmd]
    split
    · rfl
    · split
      · rfl
      · exact callsTo_sendNow handler registry cmd callback written
  | sendRaw cmd callback written => exact callsTo_sendNow handler registry cmd callback written

theorem callsTo_call (other : HandlerRef n) (registry : Registry n) (handler : HandlerRef n)
    (status : RespStatus) (errorcode : Int) (numParams : Nat) (stream : Option (List UInt8)) :
    callsTo other (registry.call reaction handler status errorcode numParams stream).log =
      callsTo other registry.log ++
        if handler = other then
          [⟨handler, registry.callbackOf handler, registry.cmdOf handler, status, errorcode,
            numParams, stream, registry.command.active⟩]
        else [] := by
  have keeps : ∀ (requests : List Request) (start : Registry n),
      callsTo other (requests.foldl request start).log = callsTo other start.log := by
    intro requests
    induction requests with
    | nil =>
      intro start
      rfl
    | cons asked rest ih =>
      intro start
      rw [foldl_cons, ih, callsTo_request]
  rw [call, keeps]
  split
  · next same => simp [callsTo, Event.callTo?, same]
  · next different => simp [callsTo, Event.callTo?, different]

theorem callsTo_unregister (name : List UInt8) :
    (registry.unregisterResponseHandler name).log = registry.log := by
  unfold unregisterResponseHandler
  split <;> rfl

theorem callsTo_completeCommand {registry : Registry n} (active : registry.command.active = true)
    (status : RespStatus) (errorcode : Int) (numParams : Nat) (stream : Option (List UInt8)) :
    callsTo .command
        (registry.completeCommand reaction status errorcode numParams stream).log =
      callsTo .command registry.log ++
        [⟨.command, registry.command.callback, registry.command.cmd.toCmdDef, status, errorcode,
          numParams, stream, false⟩] := by
  rw [completeCommand, unregister_command active, doCallback, callsTo_call, if_pos rfl]
  rfl

theorem callsTo_effect {reaction : Reaction n} {lineEnds : Prop} {urcEnds : Fin n → Prop}
    {registry after : Registry n} (effect : Effect reaction lineEnds urcEnds registry after)
    {index : Fin n} (elsewhere : ¬ urcEnds index) :
    callsTo (.urc index) after.log = callsTo (.urc index) registry.log := by
  cases effect with
  | unchanged => rfl
  | unsolicited other ends numParams stream =>
    have different : (HandlerRef.urc other : HandlerRef n) ≠ .urc index := by
      rintro same
      rw [HandlerRef.urc.injEq] at same
      exact elsewhere (same ▸ ends)
    rw [doCallback, callsTo_call, if_neg different, append_nil]
    rfl
  | responseLine active ends errorcode numParams stream =>
    rw [doCallback, callsTo_call, if_neg (by simp), append_nil]
    rfl
  | completed active status final errorcode numParams stream =>
    rw [completeCommand, doCallback, callsTo_call, if_neg (by simp), append_nil]
    exact congrArg (callsTo (.urc index)) (callsTo_unregister registry _)

end Registry

namespace Parser

variable (reaction : Reaction n) {parser : Parser n} {index : Fin n}

/-- The parser is inside a line that is not one of the handler in slot `index`. -/
def Away (index : Fin n) (parser : Parser n) : Prop :=
  parser.state = .skipToEol ∨
    (parser.Reading ∧ ∃ handler, parser.handler = some handler ∧ handler ≠ .urc index ∧
      parser.HandlerLive handler)

theorem lineEnd_state (parser : Parser n) (restart : Bool) :
    (lineEnd reaction parser restart).1.state = parser.state ∨
      (lineEnd reaction parser restart).1.state = .reset := by
  unfold lineEnd
  split
  · exact Or.inr rfl
  · split
    · exact Or.inr rfl
    · split
      · exact Or.inr rfl
      · exact Or.inl rfl
    · exact Or.inl rfl

def InLine (parser : Parser n) : Prop :=
  parser.state = .reset ∨ parser.state = .skipToEol ∨ parser.Reading

theorem parseParameterByte_inLine (parser : Parser n) (reading : parser.Reading) (char : UInt8)
    (endOfLine : Bool) : (parser.parseParameterByte reaction char endOfLine).1.InLine := by
  unfold parseParameterByte
  split
  · exact Or.inr (Or.inr reading)
  · generalize parser.reader.formatByte char endOfLine = result
    have stored : ({ parser with
        reader := result.1
        state := if result.2 then .startReadParam else parser.state } : Parser n).Reading := by
      cases result.2 with
      | true => exact Or.inl rfl
      | false => exact reading
    split
    · rcases lineEnd_state reaction ({ parser with
          reader := result.1
          state := if result.2 then .startReadParam else parser.state } : Parser n) result.2 with
        same | reset
      · refine Or.inr (Or.inr ?_)
        simp only [Reading, same]
        exact stored
      · exact Or.inl reset
    · exact Or.inr (Or.inr stored)

theorem startReadParam_inLine (char : UInt8) (endOfLine : Bool) (rounds : Nat)
    (inLine : parser.InLine) : (startReadParam reaction char endOfLine rounds parser).InLine := by
  induction rounds generalizing parser with
  | zero => exact inLine
  | succ rounds ih =>
    simp only [startReadParam]
    split
    · cases endOfLine with
      | true => exact Or.inl rfl
      | false => exact Or.inr (Or.inl rfl)
    · have next := parseParameterByte_inLine reaction parser.nextParam (Or.inr rfl) char endOfLine
      split
      · exact ih next
      · exact next

theorem doReadParam_inLine (reading : parser.Reading) (char : UInt8) (endOfLine : Bool) :
    (parser.doReadParam reaction char endOfLine).InLine := by
  have next := parseParameterByte_inLine reaction parser reading char endOfLine
  simp only [doReadParam]
  split
  · exact startReadParam_inLine reaction char endOfLine _ next
  · exact next

theorem parseByte_away_inside (away : parser.Away index) {char : UInt8}
    (inside : isEndOfLine char = false) :
    (parser.parseByte reaction char).Away index ∧
      (parser.parseByte reaction char).registry = parser.registry := by
  rcases away with skipping | ⟨reading, handler, isHandler, other, live⟩
  · have byte : parser.parseByte reaction char = parser := by
      simp only [parseByte, skipping, skipToEol, inside, Bool.false_eq_true, ↓reduceIte]
      rw [← skipping]
    rw [byte]
    exact ⟨Or.inl skipping, rfl⟩
  · have stays (start : Parser n) (startReads : start.Reading)
        (sameHandler : start.handler = parser.handler)
        (sameRegistry : start.registry = parser.registry)
          (sameStatus : start.status = parser.status) :
        (start.parseParameterByte reaction char false).1.Away index ∧
          (start.parseParameterByte reaction char false).1.registry = parser.registry := by
      obtain ⟨reader, state, equal, next⟩ := parseParameterByte_inside reaction start char
      rw [equal]
      refine ⟨Or.inr ⟨?_, handler, sameHandler.trans isHandler, other, ?_⟩, sameRegistry⟩
      · rcases next with same | moved
        · rcases startReads with first | second
          · exact Or.inl (same.trans first)
          · exact Or.inr (same.trans second)
        · exact Or.inl moved
      · exact live.congr sameRegistry sameStatus
    rcases reading with atStart | inParam
    · simp only [parseByte, atStart, inside, readRounds, startReadParam]
      split
      · exact ⟨Or.inl rfl, rfl⟩
      · have noRestart : (parser.nextParam.parseParameterByte reaction char false).2 = false := by
          obtain ⟨reader, state, equal, -⟩ :=
            parseParameterByte_inside reaction parser.nextParam char
          rw [equal]
        rw [if_neg (by simp [noRestart])]
        exact stays parser.nextParam (Or.inr rfl) rfl rfl rfl
    · have noRestart : (parser.parseParameterByte reaction char false).2 = false := by
        obtain ⟨reader, state, equal, -⟩ := parseParameterByte_inside reaction parser char
        rw [equal]
      simp only [parseByte, inParam, inside, doReadParam, noRestart, Bool.false_eq_true, ↓reduceIte]
      exact stays parser (Or.inr inParam) rfl rfl rfl

theorem parseByte_away_end (away : parser.state = .reset ∨ parser.Away index) {char : UInt8}
    (isOver : isEndOfLine char = true) :
    ((parser.parseByte reaction char).state = .reset ∨
        (parser.parseByte reaction char).Away index) ∧
      callsTo (.urc index) (parser.parseByte reaction char).registry.log =
        callsTo (.urc index) parser.registry.log := by
  have fromLine (after : Parser n) (handler : HandlerRef n) (other : handler ≠ .urc index)
      (inLine : after.InLine) (liveFor : after.LiveFor handler) :
      after.state = .reset ∨ after.Away index := by
    rcases inLine with reset | skipping | reading
    · exact Or.inl reset
    · exact Or.inr (Or.inl skipping)
    · obtain ⟨isHandler, live⟩ := liveFor reading
      exact Or.inr (Or.inr ⟨reading, handler, isHandler, other, live⟩)
  rcases away with reset | skipping | ⟨reading, handler, isHandler, other, live⟩
  · simp only [parseByte, reset, isOver, ↓reduceIte, true_or, true_and]
  · simp only [parseByte, skipping, skipToEol, isOver, ↓reduceIte, true_or, true_and]
  · rcases reading with atStart | inParam
    · obtain ⟨effect, liveFor⟩ := startReadParam_effect reaction char true parser.readRounds
        isHandler live
      simp only [parseByte, atStart, isOver]
      exact ⟨fromLine _ handler other
          (startReadParam_inLine reaction char true _ (Or.inr (Or.inr (Or.inl atStart)))) liveFor,
        Registry.callsTo_effect effect other⟩
    · obtain ⟨effect, liveFor⟩ := doReadParam_effect reaction parser isHandler live char true
      simp only [parseByte, inParam, isOver]
      exact ⟨fromLine _ handler other
          (doReadParam_inLine reaction (Or.inr inParam) char true) liveFor,
        Registry.callsTo_effect effect other⟩

variable {text name ends : List UInt8}

theorem parseBuffer_away (away : parser.Away index)
    (inside : text.all (fun char => !isEndOfLine char) = true)
    (isOver : ∀ char ∈ ends, isEndOfLine char = true) :
    callsTo (.urc index) (parser.parseBuffer reaction (text ++ ends)).registry.log =
      callsTo (.urc index) parser.registry.log := by
  induction text generalizing parser with
  | nil =>
    have finish : ∀ start : Parser n, start.state = .reset ∨ start.Away index →
        callsTo (.urc index) (start.parseBuffer reaction ends).registry.log =
          callsTo (.urc index) start.registry.log := by
      induction ends with
      | nil =>
        intro start _
        rfl
      | cons char rest ih =>
        intro start startAway
        obtain ⟨stillAway, same⟩ :=
          parseByte_away_end reaction startAway (isOver char (by simp))
        rw [parseBuffer, foldl_cons]
        rw [← same]
        exact ih (fun later member => isOver later (by simp [member])) _
          stillAway
    exact finish parser (Or.inr away)
  | cons char rest ih =>
    obtain ⟨charInside, restInside⟩ :
        isEndOfLine char = false ∧ rest.all (fun char => !isEndOfLine char) = true := by
      simpa using inside
    obtain ⟨stillAway, same⟩ := parseByte_away_inside reaction away charInside
    rw [cons_append, parseBuffer, foldl_cons, ← same]
    exact ih stillAway restInside

theorem parseByte_name_away (reaction : Reaction n) (readable : isResponseName name = true)
    (elsewhere : parser.registry.route name ≠ .reads (.urc index)) {char : UInt8}
    (ends : char = 58 ∨ isEndOfLine char = true) :
    let after := (parser.inName name).parseByte reaction char
    ((isEndOfLine char = true ∧ after.state = .reset) ∨ after.Away index) ∧
      callsTo (.urc index) after.registry.log = callsTo (.urc index) parser.registry.log := by
  intro after
  have notPrompt : ¬ (char = 64 ∨ char = 62) := by
    rcases ends with rfl | isOver
    · decide
    · have other := not_prompt_of_endOfLine isOver
      exact fun prompt => prompt.elim other.1 other.2
  have word : nullTerminated (parser.inName name).reader.statebuf = name :=
    nullTerminated_name readable
  have read : after = (parser.inName name).endResponseName reaction char (isEndOfLine char) :=
    parseByte_endsName reaction parser readable ends
  -- A name without a line to read: the rest of the line is skipped.
  have skips (next : Parser n)
      (found : (parser.inName name).foundResponseName reaction name = (next, false)) :
      after = { next with state := if isEndOfLine char then .reset else .skipToEol } := by
    rw [read, endResponseName, word]
    simp only [found, Bool.false_eq_true, ↓reduceIte, notPrompt, or_false]
  have skipsAway (next : Parser n)
      (found : (parser.inName name).foundResponseName reaction name = (next, false)) :
      (isEndOfLine char = true ∧ after.state = .reset) ∨ after.Away index := by
    rw [skips next found]
    by_cases isOver : isEndOfLine char = true
    · exact Or.inl ⟨isOver, by simp [isOver]⟩
    · exact Or.inr (Or.inl (by simp [isOver]))
  have sound := parser.registry.route_sound name
  have sameRegistry : (parser.inName name).registry = parser.registry := rfl
  have follows : (parser.inName name).foundResponseName reaction name =
      { parser.inName name with handler := none }.follow reaction name
        (parser.registry.route name) :=
    foundResponseName_eq_follow reaction _ name
  cases routed : parser.registry.route name with
  | reads handler =>
    have other : handler ≠ .urc index := fun same => elsewhere (by rw [routed, same])
    rw [routed] at sound
    have front := endResponseName_reads reaction parser readable routed char (isEndOfLine char)
    rw [read, front]
    refine ⟨Or.inr (Or.inr ⟨Or.inl rfl, handler, rfl, other, ?_⟩), rfl⟩
    cases handler with
    | urc _ => trivial
    | command => exact sound.1
    | internalError => exact absurd sound id
  | readsPlain =>
    rw [routed] at sound follows
    obtain ⟨plainRegistry, isCommand, -⟩ :=
      beginPlain_frame reaction { parser.inName name with handler := none } name
    let plain : Parser n :=
      { ({ parser.inName name with handler := none } : Parser n).beginPlain reaction name with
        state := .doReadParam }
    have plainAway : plain.Away index := by
      refine Or.inr ⟨Or.inr rfl, .command, isCommand, by simp, ?_⟩
      simp only [HandlerLive, plain, plainRegistry]
      exact sound.1
    have isPlain : plain.handlerCmd.flagPlain = true := by
      simp only [handlerCmd, plain, isCommand, plainRegistry, Registry.cmdOf]
      exact sound.2
    have continued : after = plain.parseByte reaction char := by
      rw [read, endResponseName, word, follows]
      simp only [follow, ↓reduceIte]
      exact if_pos isPlain
    have samePlain : plain.registry = parser.registry := plainRegistry
    rw [continued, ← samePlain]
    by_cases isOver : isEndOfLine char = true
    · obtain ⟨stillAway, same⟩ := parseByte_away_end reaction (Or.inr plainAway) isOver
      exact ⟨stillAway.imp (fun reset => ⟨isOver, reset⟩) id, same⟩
    · obtain ⟨stillAway, same⟩ :=
        parseByte_away_inside reaction plainAway (Bool.eq_false_iff.mpr isOver)
      exact ⟨Or.inr stillAway, by rw [same]⟩
  | readsErrorcode status =>
    rw [routed] at sound follows
    have continued : after = { ({ parser.inName name with
        handler := none } : Parser n).beginErrorcode status with state := .startReadParam } := by
      rw [read, endResponseName, word, follows]
      rfl
    rw [continued]
    exact ⟨Or.inr (Or.inr ⟨Or.inl rfl, .internalError, rfl, by simp, sound⟩), rfl⟩
  | completes status =>
    rw [routed] at follows
    refine ⟨skipsAway _ follows, ?_⟩
    rw [skips _ follows]
    simp only [completeCommand, Registry.completeCommand, Registry.doCallback]
    rw [Registry.callsTo_call, if_neg (by simp), append_nil]
    exact congrArg (callsTo (.urc index)) (Registry.callsTo_unregister parser.registry _)
  | ignored =>
    rw [routed] at follows
    refine ⟨skipsAway _ follows, ?_⟩
    rw [skips _ follows]
    rfl

theorem closeLine_unsolicited {base : Parser n} {stream : List UInt8} {count datalen : Nat}
    (atParam : AtParam base (.urc index) stream count datalen parser) (char : UInt8) :
    closeLine reaction parser char = parser.handleUnsolicited reaction (.urc index) := by
  have notErrorcode : parser.handlerCmd.flagErrorcode = false := by
    rw [atParam.handlerCmd]
    exact (base.registry.urcs index).cmd.notErrorcode
  have ended : lineEnd reaction parser true =
    (parser.handleUnsolicited reaction (.urc index), false) := by
    simp only [lineEnd, notErrorcode, Bool.false_eq_true, ↓reduceIte, atParam.handler]
  simp only [closeLine, ended, Bool.false_eq_true, ↓reduceIte]

theorem parseBuffer_emptyLines (parser : Parser n) (atStart : parser.state = .reset)
    (isOver : ∀ char ∈ ends, isEndOfLine char = true) :
    parser.parseBuffer reaction ends = parser := by
  induction ends with
  | nil => rfl
  | cons char rest ih =>
    have byte : parser.parseByte reaction char = parser := by
      simp only [parseByte, atStart, isOver char (by simp), ↓reduceIte]
    rw [parseBuffer, foldl_cons, byte]
    exact ih (fun later member => isOver later (by simp [member]))

theorem endsInside_of_oneLine (parser : Parser n) (handler : HandlerRef n) {tail : Tail}
    (oneLine : tail.text.all (fun char => !isEndOfLine char) = true) :
    parser.EndsInside handler tail.params := by
  have segmentInside : ∀ (texts : List (List UInt8)) (text : List UInt8), text ∈ texts →
      ∀ char ∈ text, char ∈ commaSeparated texts := by
    intro texts
    induction texts with
    | nil => simp
    | cons first rest ih =>
      intro text member char inText
      cases rest with
      | nil =>
        rw [mem_singleton] at member
        rw [commaSeparated, ← member]
        exact inText
      | cons next others =>
        rw [commaSeparated, mem_append]
        rcases mem_cons.mp member with rfl | later
        · exact Or.inl inText
        · exact Or.inr (mem_cons_of_mem _ (ih text later char inText))
  intro param member char inText isOver
  cases tail with
  | nothing =>
    rw [Tail.params, mem_singleton] at member
    rw [member, Param.text] at inText
    simp at inText
  | fields params extra =>
    have inLine : char ∈ Tail.text (.fields params extra) := by
      refine mem_cons_of_mem _ (mem_cons_of_mem _ ?_)
      refine segmentInside _ param.text ?_ char inText
      exact mem_append_left _ (mem_map_of_mem member)
    have := all_eq_true.mp oneLine char inLine
    simp [isOver] at this

/-- The line reports exactly one unsolicited result to the handler in slot
`index`, with at most as many parameters as its format. -/
def Delivers (reaction : Reaction n) (parser : Parser n) (index : Fin n) (tail : Tail) : Prop :=
  let cmd := (parser.registry.urcs index).cmd
  ∃ call, callsTo (.urc index)
        (parser.parseBuffer reaction (lineText cmd.name tail)).registry.log =
      callsTo (.urc index) parser.registry.log ++ [call] ∧
    call.status = .urc ∧ call.numParams ≤ cmd.respNum

theorem callsTo_elsewhere (atStart : parser.state = .reset) (readable : isResponseName name = true)
    (oneLine : text.all (fun char => !isEndOfLine char) = true)
    (separated : text = [] ∨ text.head? = some 58)
    (elsewhere : parser.registry.route name ≠ .reads (.urc index)) :
    callsTo (.urc index)
        (parser.parseBuffer reaction (name ++ (text ++ [13, 10]))).registry.log =
      callsTo (.urc index) parser.registry.log := by
  rw [parseBuffer_append, parseBuffer_name reaction atStart readable]
  cases text with
  | nil =>
    obtain ⟨away, same⟩ :=
      parseByte_name_away reaction readable elsewhere (Or.inr (show isEndOfLine 13 = true from rfl))
    rw [← same]
    exact (parseByte_away_end reaction (away.imp (fun reset => reset.2) id)
      (show isEndOfLine 10 = true from rfl)).2
  | cons colon rest =>
    obtain rfl : colon = 58 := by simpa using separated
    obtain ⟨away, same⟩ :=
      parseByte_name_away reaction readable elsewhere (Or.inl (rfl : (58 : UInt8) = 58))
    have inside : ((parser.inName name).parseByte reaction 58).Away index :=
      away.resolve_left (fun ended => absurd ended.1 (by decide))
    have restInside : rest.all (fun char => !isEndOfLine char) = true :=
      (Bool.and_eq_true_iff.mp (all_cons.symm.trans oneLine)).2
    rw [← same]
    exact parseBuffer_away reaction inside restInside (by simp [isEndOfLine])

/-- A complete line of a registered unsolicited handler with a readable name,
received at the start of a line, is reported to the handler exactly once if and only if its name
leads there, the handler has parameters, and the line has no more of them. -/
theorem unsolicited_line_delivered_iff (reaction : Reaction n) (parser : Parser n)
    (atStart : parser.state = .reset) (index : Fin n)
    (readable : isResponseName (parser.registry.urcs index).cmd.name = true) (tail : Tail)
    (valid : tail.valid (parser.registry.urcs index).cmd.respFormat = true)
    (oneLine : tail.text.all (fun char => !isEndOfLine char) = true)
    (room : (paramStream (parser.registry.urcs index).cmd.respFormat tail.params).length ≤
      maxResponseStreamLen) :
    Delivers reaction parser index tail ↔
      parser.registry.route (parser.registry.urcs index).cmd.name = .reads (.urc index) ∧
        1 ≤ (parser.registry.urcs index).cmd.respNum ∧ tail.surplus = false := by
  have endsInside := endsInside_of_oneLine parser (.urc index) oneLine
  have silent (same : callsTo (.urc index)
        (parser.parseBuffer reaction
          (lineText (parser.registry.urcs index).cmd.name tail)).registry.log =
      callsTo (.urc index) parser.registry.log) : ¬ Delivers reaction parser index tail := by
    rintro ⟨call, delivered, -⟩
    rw [same] at delivered
    simp at delivered
  by_cases routed : parser.registry.route (parser.registry.urcs index).cmd.name =
      .reads (.urc index)
  · by_cases exact : 1 ≤ (parser.registry.urcs index).cmd.respNum ∧ tail.surplus = false
    · refine iff_of_true ?_ ⟨routed, exact⟩
      obtain ⟨next, datalen, char, rest, atNext, isOver, restOver, read⟩ :=
        parseBuffer_line reaction atStart readable routed valid exact.1 exact.2 room endsInside
      have count : tail.params.length ≤ (parser.registry.urcs index).cmd.respNum :=
        Tail.params_length valid exact.1 exact.2
      rw [closeLine_unsolicited reaction atNext,
        parseBuffer_emptyLines reaction (next.handleUnsolicited reaction (.urc index)) rfl
          restOver] at read
      refine ⟨⟨.urc index, (parser.registry.urcs index).callback,
        (parser.registry.urcs index).cmd.toCmdDef, .urc, 0, tail.params.length,
        some next.reader.stream, parser.registry.command.active⟩, ?_, rfl, count⟩
      rw [read]
      simp only [handleUnsolicited, Registry.doCallback]
      rw [Registry.callsTo_call, if_pos rfl, atNext.registry, atNext.numParams]
      rfl
    · refine iff_of_false (silent ?_) (fun all => exact all.2)
      have full : (parser.registry.urcs index).cmd.respNum = 0 ∨ tail.surplus = true := by
        by_contra neither
        push Not at neither
        exact exact ⟨Nat.one_le_iff_ne_zero.mpr neither.1, by simpa using neither.2⟩
      obtain ⟨next, datalen, atNext, read⟩ :=
        parseBuffer_surplusLine reaction atStart readable routed valid full room endsInside
      rw [read, ← atNext.registry]
  · have elsewhere := callsTo_elsewhere reaction atStart readable oneLine tail.text_separated routed
    exact iff_of_false (silent elsewhere) (fun all => routed all.1)

/-- An unsolicited result with one number. -/
def oneNumber : Urc where
  toCommand := .number [43, 85] false
  notPlain := rfl

/-- A fresh parser with that handler registered. -/
def listening : Parser 1 := (zeroed 1).request (.registerUrc oneNumber 3)

/-- `+U: 5` is reported. -/
theorem unsolicited_line_with_one_number :
    Delivers (quiet 1) listening 0 (.fields [.bare [53]] none) :=
  (unsolicited_line_delivered_iff (quiet 1) listening rfl 0 rfl (.fields [.bare [53]] none)
    (by decide) (by decide) (by decide)).mpr (by decide)

/-- `+U: 5,6` is a complete line of the handler, and is not reported. -/
theorem unsolicited_line_with_surplus_lost :
    (listening.registry.urcs 0).active = true ∧
      ¬ Delivers (quiet 1) listening 0 (.fields [.bare [53]] (some [54])) := by
  refine ⟨by decide, ?_⟩
  rintro ⟨call, delivered, -⟩
  have nothing : callsTo (.urc 0) (listening.parseBuffer (quiet 1)
      (lineText (listening.registry.urcs 0).cmd.name
        (.fields [.bare [53]] (some [54])))).registry.log
        = [] := by decide
  rw [nothing] at delivered
  simp [listening, callsTo] at delivered

end Parser

end Thingsee.Modem
