import Thingsee.Modem.Unsolicited

/-!
Owns the way of a response from the modem's values to the handler's: a line
rendered from a tuple of values, followed by `OK`, and what the handler of a
single-line command reads back from its stream.

`renderParam` is the modem's side. A string to the end of the line takes every
separator behind it, so it can only be the last entry of a format; a definition
with one in front is where the round trip fails.
-/

namespace Thingsee.Modem

open Support List

variable {n : Nat}

def renderParam (fmt : RespFormat) : Value → Param
  | .integer number => .bare (decimal number)
  | .bytes content =>
    match fmt with
    | .quotedString | .quotedDatabuf => .quoted [] content []
    | _ => .bare content

/-- The parameters of a line rendered from a tuple of values. -/
def renderParams : List RespFormat → List Value → List Param
  | fmt :: formats, value :: values => renderParam fmt value :: renderParams formats values
  | _, _ => []

/-- Whether a value has a text of its format: integers are in the range of their
width, plain strings have no separator, end of line or space in front, quoted
strings have no quote or end of line, and a data buffer has the length the last
data length gave. -/
def Value.Renderable (fmt : RespFormat) (datalen : Nat) (value : Value) : Prop :=
  value.Fits fmt ∧
    match fmt, value with
    | .string, .bytes content => content.all isInner = true ∧ content.head? ≠ some 32
    | .stringToEol, .bytes content =>
      content.all (fun char => !isEndOfLine char) = true ∧ content.head? ≠ some 32
    | .quotedString, .bytes content =>
      content.all (fun char => char != 34 && !isEndOfLine char) = true
    | .quotedDatabuf, .bytes content => content.length = datalen
    | _, _ => True

def Value.datalenAfter (fmt : RespFormat) (datalen : Nat) (value : Value) : Nat :=
  match fmt, value with
  | .datalen, .integer number => number.toNat
  | .quotedDatabuf, .bytes content => datalen - content.length
  | _, _ => datalen

/-- A tuple of values, one for each entry of the format. -/
def RenderableAll : List RespFormat → Nat → List Value → Prop
  | [], _, [] => True
  | fmt :: formats, datalen, value :: values =>
    value.Renderable fmt datalen ∧
      RenderableAll formats (value.datalenAfter fmt datalen) values
  | _, _, _ => False

/-- Strings to the end of the line come last. -/
def toEolLast : List RespFormat → Bool
  | [] => true
  | fmt :: formats => (fmt != .stringToEol || formats.isEmpty) && toEolLast formats

variable {fmt : RespFormat} {formats : List RespFormat} {datalen : Nat} {number : Int}
  {values : List Value}

theorem toSigned_of_fits {count : Nat} (small : count ≤ 32)
    (fits : toSigned count number = number) :
    toSigned 32 number = number := by
  have powers : (2 ^ count : Nat) ≤ 2 ^ 32 := Nat.pow_le_pow_right (by decide) small
  have positive : 0 < (2 ^ count : Nat) := Nat.two_pow_pos count
  have lower : -((2 ^ count : Nat) : Int) ≤ 2 * number := by
    have := Int.le_bmod (x := number) positive
    rw [show number.bmod (2 ^ count) = number from fits] at this
    omega
  have upper : 2 * number < ((2 ^ count : Nat) : Int) := by
    have := Int.bmod_lt (x := number) positive
    rw [show number.bmod (2 ^ count) = number from fits] at this
    omega
  have powersInt : ((2 ^ count : Nat) : Int) ≤ 4294967296 := by exact_mod_cast powers
  exact toSigned_of_range 31 (by omega) (by omega)

theorem number_renderParam (fits : toSigned 32 number = number) :
    (renderParam fmt (.integer number)).number = number := by
  have bounds : -2 ^ 31 ≤ number ∧ number < 2 ^ 31 := by
    have lower := Int.le_bmod (x := number) (m := 2 ^ 32) (by decide)
    have upper := Int.bmod_lt (x := number) (m := 2 ^ 32) (by decide)
    rw [show number.bmod (2 ^ 32) = number from fits] at lower upper
    omega
  have numeric : ∀ char ∈ decimal number, isNumeric char = true := by
    intro char member
    have ofDigit : isDigit char = true → isNumeric char = true := by
      intro digit
      simp [isNumeric, digit]
    unfold decimal at member
    split at member
    · rcases mem_cons.mp member with rfl | inDigits
      · rfl
      · exact ofDigit (isDigit_of_mem_digits _ inDigits)
    · exact ofDigit (isDigit_of_mem_digits _ member)
  have short := decimal_length bounds.1 bounds.2
  simp only [renderParam, Param.number, Param.text]
  rw [filter_eq_self.mpr numeric, take_of_length_le (by simp [statebufSize]; omega)]
  exact strtol_decimal fits

theorem isInner_decimal (number : Int) : (decimal number).all isInner = true := by
  have ofDigit : ∀ char : UInt8, isDigit char = true → isInner char = true := by
    intro char digit
    simp only [isDigit, decide_eq_true_eq] at digit
    have notComma : char ≠ 44 := by rintro rfl; exact absurd digit (by decide)
    have notReturn : char ≠ 13 := by rintro rfl; exact absurd digit (by decide)
    have notFeed : char ≠ 10 := by rintro rfl; exact absurd digit (by decide)
    simp [isInner, isEndOfLine, notComma, notReturn, notFeed]
  apply all_eq_true.mpr
  intro char member
  unfold decimal at member
  split at member
  · rcases mem_cons.mp member with rfl | inDigits
    · rfl
    · exact ofDigit char (isDigit_of_mem_digits _ inDigits)
  · exact ofDigit char (isDigit_of_mem_digits _ member)

theorem dropWhile_space {content : List UInt8} (noSpace : content.head? ≠ some 32) :
    content.dropWhile (· == 32) = content := by
  cases content with
  | nil => rfl
  | cons first rest =>
    have visible : first ≠ 32 := by simpa using noSpace
    simp [visible]

theorem renderParam_spec {value : Value} (renderable : value.Renderable fmt datalen) :
    (renderParam fmt value).valid fmt datalen = true ∧
      (renderParam fmt value).value fmt = value ∧
      (renderParam fmt value).datalenAfter fmt datalen = value.datalenAfter fmt datalen := by
  obtain ⟨fits, shape⟩ := renderable
  cases value with
  | integer number =>
    cases fmt <;> simp only [Value.Fits] at fits
    · have wide := toSigned_of_fits (by decide) fits
      exact ⟨isInner_decimal number, by
        rw [Param.value, number_renderParam wide]; exact congrArg _ fits, rfl⟩
    · have wide := toSigned_of_fits (by decide) fits
      exact ⟨isInner_decimal number, by
        rw [Param.value, number_renderParam wide]; exact congrArg _ fits, rfl⟩
    · exact ⟨isInner_decimal number, by
        rw [Param.value, number_renderParam fits]; exact congrArg _ fits, rfl⟩
    · have wide : toSigned 32 number = number :=
        toSigned_of_range 31 (by omega) (by omega)
      have wrapped : number % 65536 = number := Int.emod_eq_of_lt fits.1 fits.2
      exact ⟨isInner_decimal number,
        by rw [Param.value, number_renderParam wide, wrapped],
        by rw [Param.datalenAfter, number_renderParam wide, wrapped]; rfl⟩
  | bytes content =>
    cases fmt <;> simp only [Value.Fits] at fits
    · exact ⟨shape.1, congrArg Value.bytes (dropWhile_space shape.2), rfl⟩
    · exact ⟨shape.1, congrArg Value.bytes (dropWhile_space shape.2), rfl⟩
    all_goals exact ⟨by simpa [Param.valid, renderParam] using shape, rfl, rfl⟩

theorem renderParams_spec (renderable : RenderableAll formats datalen values)
    (last : toEolLast formats = true) :
    validParams false formats datalen (renderParams formats values) = true ∧
      paramValues formats (renderParams formats values) = values ∧
      (renderParams formats values).length = formats.length := by
  induction formats generalizing datalen values with
  | nil =>
    cases values with
    | nil => exact ⟨rfl, rfl, rfl⟩
    | cons value values => exact absurd renderable id
  | cons fmt formats ih =>
    cases values with
    | nil => exact absurd renderable id
    | cons value values =>
      obtain ⟨head, tail⟩ := renderable
      obtain ⟨valid, sameValue, sameDatalen⟩ := renderParam_spec head
      simp only [toEolLast, Bool.and_eq_true] at last
      obtain ⟨restValid, restValues, restLength⟩ := ih tail last.2
      refine ⟨?_, ?_, ?_⟩
      · simp only [renderParams, validParams, Bool.and_eq_true, valid, sameDatalen, restValid,
          true_and, and_true]
        rcases (Bool.or_eq_true _ _).mp last.1 with other | noMore
        · simp [other]
        · have empty : formats = [] := isEmpty_iff.mp noMore
          subst empty
          simp [renderParams]
      · simp only [renderParams, paramValues, sameValue, restValues]
      · simp only [renderParams, length_cons, restLength]

theorem forall₂_fits (renderable : RenderableAll formats datalen values) :
    List.Forall₂ Value.Fits formats values := by
  induction formats generalizing datalen values with
  | nil =>
    cases values with
    | nil => exact .nil
    | cons value values => exact absurd renderable id
  | cons fmt formats ih =>
    cases values with
    | nil => exact absurd renderable id
    | cons value values => exact .cons renderable.1.1 (ih renderable.2)

namespace Parser

/-- A response of a single-line command: its line, and `OK`. -/
def responseText (name : List UInt8) (params : List Param) : List UInt8 :=
  lineText name (.fields params none) ++ (nameOk ++ [13, 10])

/-- The response completes the active command exactly once, with `OK`, all
parameters of the format, and a stream from which the handler reads `values`. -/
def Returns (reaction : Reaction n) (parser : Parser n) (values : List Value) : Prop :=
  let cmd := parser.registry.command.cmd
  ∃ call stream, callsTo .command
        (parser.parseBuffer reaction
          (responseText cmd.name (renderParams cmd.respFormat values))).registry.log =
      callsTo .command parser.registry.log ++ [call] ∧
    call.callback = parser.registry.command.callback ∧
    call.status = .ok ∧ call.errorcode = 0 ∧ call.numParams = cmd.respFormat.length ∧
    call.stream = some stream ∧
    readParams cmd.respFormat stream = some (storedValues cmd.respFormat values, [])

section

variable (reaction : Reaction n) (parser : Parser n)
  (atStart : parser.state = .reset) (active : parser.registry.command.active = true)
  (readable : isResponseName parser.registry.command.cmd.name = true)
  (named : parser.registry.command.cmd.flagPlain = false)
  (single : parser.registry.command.cmd.flagMultipleResp = false)
  (filled : parser.registry.command.cmd.respFormat ≠ [])
  (last : toEolLast parser.registry.command.cmd.respFormat = true)
  (notOk : parser.registry.command.cmd.name ≠ nameOk) (values : List Value)
  (renderable : RenderableAll parser.registry.command.cmd.respFormat 0 values)
  (room : (encodeParams parser.registry.command.cmd.respFormat values).length ≤
    maxResponseStreamLen)
include atStart active readable named single filled last notOk renderable room

/-- The response of an active single-line command that is not itself named `OK`, in
whatever state the parser begins the line: it completes the command once, every put
into the stream succeeds, and the stream has the encoded parameters. -/
theorem parseBuffer_responseText :
    let cmd := parser.registry.command.cmd
    let read := parser.parseBuffer reaction
      (responseText cmd.name (renderParams cmd.respFormat values))
    callsTo .command read.registry.log =
        callsTo .command parser.registry.log ++
          [⟨.command, parser.registry.command.callback, cmd.toCmdDef, .ok, 0,
            cmd.respFormat.length, some (encodeParams cmd.respFormat values), false⟩] ∧
      read.reader.overflow = parser.reader.overflow := by
  intro cmd read
  obtain ⟨valid, sameValues, sameLength⟩ := renderParams_spec renderable last
  let params := renderParams cmd.respFormat values
  have someParams : params ≠ [] := by
    intro empty
    have : params.length = cmd.respFormat.length := sameLength
    rw [empty] at this
    exact filled (eq_nil_of_length_eq_zero this.symm)
  have stream : paramStream cmd.respFormat params = encodeParams cmd.respFormat values := by
    rw [paramStream, sameValues]
  have silent : parser.SilentLines .command := ⟨rfl, single⟩
  have tailValid : (Tail.fields params none).valid (parser.registry.cmdOf .command).respFormat =
      true := by
    simp only [Tail.valid, Bool.and_eq_true, Bool.not_eq_true', isEmpty_eq_false_iff]
    exact ⟨someParams, valid⟩
  have expected : 1 ≤ (parser.registry.cmdOf .command).respNum :=
    Nat.one_le_iff_ne_zero.mpr (fun none => filled (eq_nil_of_length_eq_zero none))
  -- The line is stored, and its end leaves the parser in front of the next line.
  obtain ⟨next, datalen, char, rest, atNext, isOver, restOver, line⟩ :=
    parseBuffer_line reaction atStart readable (parser.registry.route_own active named)
      tailValid expected rfl (by rw [← stream] at room; exact room)
      (fun _ _ _ _ _ => silent)
  have complete : (parser.registry.cmdOf .command).respFormat.drop params.length = [] :=
    drop_eq_nil_iff.mpr (Nat.le_of_eq sameLength.symm)
  obtain ⟨stored, datalen', atStored, closed⟩ :=
    closeLine_single reaction silent isOver atNext (Nat.le_of_eq sameLength)
      (by
        rw [show (Tail.fields params none).params.length = params.length from rfl, complete]
        rw [← stream] at room
        exact room)
  rw [show (Tail.fields params none).params.length = params.length from rfl, complete] at atStored
  rw [closed, parseBuffer_emptyLines reaction _ rfl restOver] at line
  let ready : Parser n := { stored with state := .reset, reader := stored.reader.clearParam }
  have readyRegistry : ready.registry = parser.registry := atStored.registry
  have routed : ready.registry.route nameOk = .completes .ok := by
    rw [readyRegistry]
    exact parser.registry.route_ok active (fun _ => notOk)
  have okRead := parseBuffer_completes reaction ready rfl (by decide) routed
  have okStream : ready.okStream = encodeParams cmd.respFormat values := by
    have collected : ready.reader.stream = encodeParams cmd.respFormat values := by
      rw [← stream]
      exact atStored.stream.trans (append_nil _)
    rw [Parser.okStream, readyRegistry, single, if_neg Bool.false_ne_true]
    exact collected
  have whole : read = ready.parseBuffer reaction (nameOk ++ [13, 10]) := by
    rw [show read = parser.parseBuffer reaction (responseText cmd.name params) from rfl,
      responseText, parseBuffer_append, line]
  have readyActive : ready.registry.command.active = true := by
    rw [readyRegistry]
    exact active
  rw [whole, okRead]
  refine ⟨?_, atStored.overflow⟩
  refine (Registry.callsTo_completeCommand reaction readyActive .ok 0 ready.reader.numParams
    (some ready.okStream)).trans ?_
  have count : ready.reader.numParams = cmd.respFormat.length := atStored.numParams
  rw [count, okStream, readyRegistry]

/-- The handler of an active single-line command with a readable name other than
`OK`, with strings to the end of the line only in the last place of its format,
reads back every tuple of values the modem renders, in whatever state the parser
begins the line. -/
theorem response_decodes :
    Returns reaction parser values := by
  obtain ⟨called, -⟩ := parseBuffer_responseText reaction parser atStart active readable named
    single filled last notOk values renderable room
  refine ⟨_, _, called, rfl, rfl, rfl, rfl, rfl, ?_⟩
  have all := readParams_encodeParams (forall₂_fits renderable) []
  rw [append_nil] at all
  exact all

end

/-- A command with a number and a data buffer in its response. -/
def numberAndData : Command where
  name := [43, 68]
  respFormat := [.int8, .datalen, .quotedDatabuf]
  notErrorcode := rfl
  respNumFits := by decide
  plainFormat := by decide
  datalenKnown := rfl

/-- A fresh parser that waits for the response of a command. -/
def waiting (cmd : Command) : Parser 0 := (zeroed 0).request (.sendRaw cmd 7 true)

/-- The data buffer of `+D: -5,2,"␍"",` holds an end of line and a quote. -/
theorem response_decodes_number_and_data :
    Returns (quiet 0) (waiting numberAndData)
      [.integer (-5), .integer 2, .bytes [13, 34]] :=
  response_decodes (quiet 0) (waiting numberAndData) rfl rfl rfl rfl rfl (by decide) (by decide)
    (by decide) _
    (by
      refine ⟨⟨?_, trivial⟩, ⟨?_, trivial⟩, ⟨?_, ?_⟩, trivial⟩
      · show toSigned 8 (-5) = -5
        decide
      · show 0 ≤ (2 : Int) ∧ (2 : Int) < 65536
        decide
      · show [(13 : UInt8), 34].length < 65536
        decide
      · rfl)
    (by decide)

/-- A command whose response begins with a string to the end of the line. -/
def stringInFront : Command where
  name := [43, 69]
  respFormat := [.stringToEol, .int8]
  notErrorcode := rfl
  respNumFits := by decide
  plainFormat := by decide
  datalenKnown := rfl

/-- `+E: a,1` is read as one string and a missing number. -/
theorem string_takes_rest_of_line :
    ¬ Returns (quiet 0) (waiting stringInFront) [.bytes [97], .integer 1] := by
  rintro ⟨call, stream, made, -, -, -, -, passed, decoded⟩
  have actual : callsTo .command ((waiting stringInFront).parseBuffer (quiet 0)
      (responseText [43, 69] (renderParams [.stringToEol, .int8]
        [.bytes [97], .integer 1]))).registry.log =
      [⟨.command, 7, stringInFront.toCmdDef, .ok, 0, 2,
        some [3, 0, 97, 44, 49, 0, 0], false⟩] := by decide
  have before : callsTo .command (waiting stringInFront).registry.log = [] := by decide
  obtain rfl : call = ⟨.command, 7, stringInFront.toCmdDef, .ok, 0, 2,
      some [3, 0, 97, 44, 49, 0, 0], false⟩ := by
    have listed := actual.symm.trans made
    rw [before, nil_append] at listed
    exact (singleton_injective listed).symm
  obtain rfl : [3, 0, 97, 44, 49, 0, 0] = stream := Option.some.inj passed
  exact absurd decoded (by decide)

end Parser

end Thingsee.Modem
