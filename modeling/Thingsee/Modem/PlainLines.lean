import Thingsee.Modem.Lines

/-!
Owns the lines of a command with a plain response: a line is one string, and
what was taken for a response name is the beginning of it.
-/

namespace Thingsee.Modem

open List

variable {n : Nat}

namespace Parser

variable {reader : Reader} (reaction : Reaction n) (parser : Parser n) (name text : List UInt8)

/-- A character of a plain line, as part of what was taken for a name. -/
def plainByte (reader : Reader) (char : UInt8) : Reader := (reader.formatByte char false).1

theorem formatByte_plain (isString : reader.fmt = .stringToEol) (char : UInt8) :
    reader.formatByte char false = (plainByte reader char, false) := by
  have stays : (reader.formatByte char false).2 = false := by
    simp only [Reader.formatByte, isString]
    split
    · next isOver => simp [isString] at isOver
    · split <;> rfl
  exact Prod.ext rfl stays

theorem plainByte_frame (isString : reader.fmt = .stringToEol) (char : UInt8) :
    (plainByte reader char).fmt = .stringToEol ∧
      (plainByte reader char).numParams = reader.numParams := by
  have frame := reader.formatByte_frame char false
  rw [formatByte_plain isString] at frame
  exact ⟨frame.1.trans isString, frame.2⟩

theorem beginPlain_eq (format : parser.registry.command.cmd.respFormat = [.stringToEol]) :
    parser.beginPlain reaction name =
      { parser with
        handler := some .command
        reader := name.foldl plainByte
          { parser.reader with numParams := 0, stream := [], fmt := .stringToEol } } := by
  have feed : ∀ (start : Parser n), start.reader.fmt = .stringToEol →
      name.foldl (fun parser char => (parser.parseParameterByte reaction char false).1) start =
        { start with reader := name.foldl plainByte start.reader } := by
    induction name with
    | nil =>
      intro start _
      rfl
    | cons char rest ih =>
      intro start isString
      have byte : (start.parseParameterByte reaction char false).1 =
          { start with reader := plainByte start.reader char } := by
        have reads : start.reader.skipsTrailingSpace char = false := by
          simp [Reader.skipsTrailingSpace, isString]
        simp only [parseParameterByte, reads, formatByte_plain isString, Bool.false_eq_true,
          ↓reduceIte]
      rw [foldl_cons, byte, ih _ (plainByte_frame isString char).1]
      rfl
  have formatAt : parser.registry.command.cmd.formatAt 0 = .stringToEol := by
    simp [CmdDef.formatAt, format]
  rw [beginPlain, feed]
  · simp only [beginParams, Reader.beginParams, formatAt]
  · exact formatAt

theorem foldl_plainByte_frame (isString : reader.fmt = .stringToEol) :
    (name.foldl plainByte reader).fmt = .stringToEol ∧
      (name.foldl plainByte reader).numParams = reader.numParams := by
  induction name generalizing reader with
  | nil => exact ⟨isString, rfl⟩
  | cons char rest ih =>
    obtain ⟨stillString, count⟩ := plainByte_frame isString char
    rw [foldl_cons, ← count]
    exact ih stillString

theorem endResponseName_plain {parser : Parser n}
    (routed : parser.registry.route (nullTerminated parser.reader.statebuf) = .readsPlain)
    (char : UInt8) (endOfLine : Bool) :
    parser.endResponseName reaction char endOfLine =
      ({ parser with
        state := .doReadParam
        handler := some .command
        reader := (nullTerminated parser.reader.statebuf).foldl plainByte
          { parser.reader with numParams := 0, stream := [], fmt := .stringToEol } } :
        Parser n).doReadParam reaction char endOfLine := by
  have sound := parser.registry.route_sound (nullTerminated parser.reader.statebuf)
  rw [routed] at sound
  let begun : Parser n :=
    { parser with
      handler := some .command
      reader := (nullTerminated parser.reader.statebuf).foldl plainByte
        { parser.reader with numParams := 0, stream := [], fmt := .stringToEol } }
  have follows : parser.foundResponseName reaction (nullTerminated parser.reader.statebuf) =
      (begun, true) := by
    rw [foundResponseName_eq_follow, routed]
    simp only [follow]
    rw [beginPlain_eq]
    exact parser.registry.command.cmd.plainFormat sound.2
  have isPlain : begun.handlerCmd.flagPlain = true := sound.2
  rw [endResponseName, follows]
  exact if_pos isPlain

/-- Where the name part of a plain line ends: `rest` is what follows it. A line
whose first colon comes late has a name as long as the state buffer. -/
def plainSplit (name rest : List UInt8) : Bool :=
  isResponseName name && rest.all (fun char => !isEndOfLine char) &&
    match rest with
    | [] => true
    | char :: _ =>
      char == 58 || (name.length == statebufSize - 1 && char != 64 && char != 62)

def inPlain (parser : Parser n) (name text : List UInt8) : Parser n :=
  { parser with
    state := .doReadParam
    handler := some .command
    reader := text.foldl plainByte
      { parser.reader with statebuf := name, numParams := 0, stream := [], fmt := .stringToEol } }

theorem inPlain_fmt : (parser.inPlain name text).reader.fmt = .stringToEol :=
  (foldl_plainByte_frame text rfl).1

theorem inPlain_numParams : (parser.inPlain name text).reader.numParams = 0 :=
  (foldl_plainByte_frame text rfl).2

theorem parseByte_endsPlainName {name : List UInt8} (readable : isResponseName name = true)
    (routed : parser.registry.route name = .readsPlain) {char : UInt8}
    (ends : char = 58 ∨ isEndOfLine char = true ∨ (name.length = statebufSize - 1 ∧ char ≠ 64 ∧
      char ≠ 62)) :
    (parser.inName name).parseByte reaction char =
      (parser.inPlain name name).doReadParam reaction char (isEndOfLine char) := by
  have filled : (parser.inName name).reader.statebuf ≠ [] := by
    intro empty
    have : name = [] := empty
    simp [isResponseName, this] at readable
  have notPrompt : ¬ (char = 64 ∨ char = 62) := by
    rcases ends with rfl | isOver | ⟨-, notData, notPdu⟩
    · decide
    · rcases of_decide_eq_true isOver with rfl | rfl <;> decide
    · exact fun prompt => prompt.elim notData notPdu
  have atEnd : isEndOfLine char = true ∨ char = 58 ∨
      (parser.inName name).reader.statebuf.length = statebufSize - 1 ∨
      ((char = 64 ∨ char = 62) ∧ (parser.inName name).reader.statebuf = []) := by
    rcases ends with colon | isOver | ⟨full, -⟩
    · exact Or.inr (Or.inl colon)
    · exact Or.inl isOver
    · exact Or.inr (Or.inr (Or.inl full))
  have word : nullTerminated (parser.inName name).reader.statebuf = name :=
    nullTerminated_name readable
  have plain : (parser.inName name).registry.route
      (nullTerminated (parser.inName name).reader.statebuf) = .readsPlain := by
    rw [word]
    exact routed
  show (parser.inName name).readResponseName reaction char (isEndOfLine char) = _
  rw [readResponseName, if_pos atEnd, if_neg notPrompt, if_neg filled,
    endResponseName_plain reaction plain, word]
  rfl

theorem parseByte_plain {char : UInt8} (inside : isEndOfLine char = false) :
    (parser.inPlain name text).doReadParam reaction char (isEndOfLine char) =
      parser.inPlain name (text ++ [char]) := by
  have reads : (parser.inPlain name text).reader.skipsTrailingSpace char = false := by
    simp [Reader.skipsTrailingSpace, inPlain_fmt]
  rw [inside]
  simp only [doReadParam, parseParameterByte, reads,
    formatByte_plain (inPlain_fmt parser name text),
    Bool.false_eq_true, ↓reduceIte]
  simp only [inPlain, foldl_append, foldl_cons, foldl_nil]

theorem parseBuffer_inPlain (rest : List UInt8)
    (inside : rest.all (fun char => !isEndOfLine char) = true) :
    (parser.inPlain name text).parseBuffer reaction rest = parser.inPlain name (text ++ rest) := by
  induction rest generalizing text with
  | nil => simp [parseBuffer]
  | cons char rest ih =>
    obtain ⟨charInside, restInside⟩ :
        isEndOfLine char = false ∧ rest.all (fun char => !isEndOfLine char) = true := by
      simpa using inside
    have byte : (parser.inPlain name text).parseByte reaction char =
        parser.inPlain name (text ++ [char]) :=
      parseByte_plain reaction parser name text charInside
    rw [parseBuffer, foldl_cons, byte]
    have tail := ih (text ++ [char]) restInside
    simpa [parseBuffer] using tail

theorem parseBuffer_plainText {parser : Parser n} (atStart : parser.state = .reset)
    {name rest : List UInt8} (split : plainSplit name rest = true)
    (routed : parser.registry.route name = .readsPlain) {char : UInt8}
    (isOver : isEndOfLine char = true) :
    parser.parseBuffer reaction (name ++ rest ++ [char]) =
      (parser.inPlain name (name ++ rest)).doReadParam reaction char true := by
  simp only [plainSplit, Bool.and_eq_true] at split
  obtain ⟨⟨readable, inside⟩, separated⟩ := split
  have named := parseBuffer_name reaction atStart readable
  rw [append_assoc, parseBuffer_append, named]
  cases rest with
  | nil =>
    have ended := parseByte_endsPlainName reaction parser readable routed (Or.inr (Or.inl isOver))
    rw [isOver] at ended
    rw [append_nil]
    exact ended
  | cons first rest =>
    obtain ⟨firstInside, restInside⟩ :
        isEndOfLine first = false ∧ rest.all (fun char => !isEndOfLine char) = true := by
      simpa using inside
    have ends : first = 58 ∨ isEndOfLine first = true ∨
        (name.length = statebufSize - 1 ∧ first ≠ 64 ∧ first ≠ 62) := by
      simp only [Bool.or_eq_true, Bool.and_eq_true, beq_iff_eq, bne_iff_ne] at separated
      rcases separated with colon | ⟨⟨full, notData⟩, notPdu⟩
      · exact Or.inl colon
      · exact Or.inr (Or.inr ⟨full, notData, notPdu⟩)
    have byte := parseByte_endsPlainName reaction parser readable routed ends
    rw [parseByte_plain reaction parser name name firstInside] at byte
    have later := parseBuffer_inPlain reaction parser name (name ++ [first]) rest restInside
    rw [cons_append, parseBuffer, foldl_cons, byte, ← parseBuffer, parseBuffer_append,
      later, append_assoc]
    show doReadParam reaction _ char (isEndOfLine char) = _
    rw [isOver]
    rfl

def plainClosed (parser : Parser n) (name text : List UInt8) : Reader :=
  (parser.inPlain name text).reader.openString.closeString

theorem plainClosed_numParams : (parser.plainClosed name text).numParams = 1 := by
  simp [plainClosed, inPlain_numParams]

theorem formatByte_plainEnd (char : UInt8) :
    (parser.inPlain name text).reader.formatByte char true =
      (parser.plainClosed name text, true) := by
  simp [Reader.formatByte, inPlain_fmt, plainClosed]

theorem doReadParam_plainEnd (format : parser.registry.command.cmd.respFormat = [.stringToEol])
    (char : UInt8) :
    (parser.inPlain name text).doReadParam reaction char true =
      if parser.registry.command.cmd.flagMultipleResp then
        ({ parser.inPlain name text with
          reader := parser.plainClosed name text } : Parser n).handleResponseLine reaction .command
      else
        { parser with
          state := .reset
          handler := some .command
          reader := (parser.plainClosed name text).clearParam } := by
  have reads : (parser.inPlain name text).reader.skipsTrailingSpace char = false := by
    simp [Reader.skipsTrailingSpace, inPlain_fmt]
  have full : parser.registry.command.cmd.respNum ≤ (parser.plainClosed name text).numParams := by
    rw [plainClosed_numParams, CmdDef.respNum, format]
    rfl
  have outcome : (parser.inPlain name text).parseParameterByte reaction char true =
      lineEnd reaction
        ({ parser.inPlain name text with
          reader := parser.plainClosed name text, state := .startReadParam } : Parser n) true := by
    simp only [parseParameterByte, reads, formatByte_plainEnd, Bool.false_eq_true, ↓reduceIte]
  by_cases multiple : parser.registry.command.cmd.flagMultipleResp = true
  · have reported := outcome.trans ((lineEnd_command reaction rfl true).trans (if_pos multiple))
    rw [doReadParam, reported, if_pos multiple]
    rfl
  · have restarted := outcome.trans ((lineEnd_command reaction rfl true).trans (if_neg multiple))
    rw [doReadParam, restarted, if_neg multiple]
    exact if_pos full

end Parser

end Thingsee.Modem
