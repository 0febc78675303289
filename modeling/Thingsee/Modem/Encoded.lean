import Thingsee.Modem.Params

/-!
Owns what the parameter reader keeps in the stream while it works: the encodings
of the parameters that are finished (`Encodes`), followed by the place holder
and the characters of a string that is not (`InParam`). `formatByte_inParam` says
that every byte keeps that, as long as no put into the stream fails.
-/

namespace Thingsee.Modem

open Support List

/-- `stream` is the concatenation of encodings of the first `count` formats. -/
def Encodes (formats : List RespFormat) (count : Nat) (stream : List UInt8) : Prop :=
  count ≤ formats.length ∧
    ∃ values, List.Forall₂ Value.Fits (formats.take count) values ∧
      stream = encodeParams (formats.take count) values

theorem encodes_zero (formats : List RespFormat) : Encodes formats 0 [] :=
  ⟨Nat.zero_le _, [], .nil, rfl⟩

theorem encodeParams_append {formats more : List RespFormat} {values others : List Value}
    (fits : List.Forall₂ Value.Fits formats values) :
    encodeParams (formats ++ more) (values ++ others) =
      encodeParams formats values ++ encodeParams more others := by
  induction fits with
  | nil => rfl
  | cons head tail ih =>
    simp only [cons_append, encodeParams, ih, append_assoc]

theorem Encodes.next {formats : List RespFormat} {count : Nat} {stream : List UInt8}
    (encodes : Encodes formats count stream) {fmt : RespFormat} (missing : count < formats.length)
    (format : fmt = formats.getD count .int8) {value : Value} (fits : value.Fits fmt) :
    Encodes formats (count + 1) (stream ++ encodeParam fmt value) := by
  obtain ⟨-, values, allFit, rfl⟩ := encodes
  have last : formats.getD count .int8 = formats[count] := by
    rw [getD_eq_getElem?_getD, List.getElem?_eq_getElem missing]
    rfl
  have taken : formats.take (count + 1) = formats.take count ++ [fmt] := by
    rw [take_succ_eq_append_getElem missing, format, last]
  have single : List.Forall₂ Value.Fits [fmt] [value] := .cons fits .nil
  refine ⟨missing, values ++ [value], ?_, ?_⟩
  · rw [taken]
    exact rel_append allFit single
  · rw [taken, encodeParams_append allFit]
    simp [encodeParams]

namespace Reader

variable {reader : Reader}

theorem streamPut_fits {bytes : List UInt8} (fits : (reader.streamPut bytes).overflow = false) :
    reader.overflow = false ∧ reader.stream.length + bytes.length ≤ maxResponseStreamLen := by
  unfold streamPut hasRoom at fits
  split at fits
  · next room => exact ⟨fits, of_decide_eq_true room⟩
  · simp at fits

theorem streamPutChar_fits {char : UInt8} (fits : (reader.streamPutChar char).overflow = false) :
    reader.overflow = false ∧ reader.stream.length + 1 ≤ maxResponseStreamLen := by
  unfold streamPutChar hasRoom at fits
  split at fits
  · next room => exact ⟨fits, of_decide_eq_true room⟩
  · simp at fits

theorem streamGetStrlenpos_fits (fits : reader.streamGetStrlenpos.overflow = false) :
    reader.overflow = false ∧ reader.stream.length + 2 ≤ maxResponseStreamLen := by
  unfold streamGetStrlenpos hasRoom at fits
  split at fits
  · next room => exact ⟨fits, of_decide_eq_true room⟩
  · simp at fits

theorem closeString_fits (fits : reader.closeString.overflow = false) :
    reader.overflow = false ∧ reader.stream.length + 1 ≤ maxResponseStreamLen := by
  have put : ((({ reader with numParams := reader.numParams + 1 } : Reader).streamPut
      [0]).streamSetStrlen).overflow = false := fits
  have kept (any : Reader) : any.streamSetStrlen.overflow = any.overflow := by
    unfold streamSetStrlen
    split <;> rfl
  rw [kept] at put
  exact streamPut_fits put

theorem openString_fits (fits : reader.openString.overflow = false) : reader.overflow = false := by
  unfold openString at fits
  split at fits
  · exact fits
  · exact (streamGetStrlenpos_fits fits).1

theorem openQuoted_fits (fits : reader.openQuoted.overflow = false) : reader.overflow = false := by
  unfold openQuoted at fits
  split at fits
  · exact fits
  · exact (streamGetStrlenpos_fits fits).1

theorem closeInteger_fits (fits : reader.closeInteger.overflow = false) :
    reader.overflow = false := by
  cases fmt : reader.fmt <;> simp only [closeInteger, fmt] at fits
  all_goals first | exact fits | exact (streamPut_fits fits).1

theorem addQuoted_fits {char : UInt8} (fits : (reader.addQuoted char).overflow = false) :
    reader.overflow = false := by
  unfold addQuoted at fits
  split at fits
  · split at fits <;> exact fits
  · split at fits
    · split at fits
      · exact fits
      · exact (streamPutChar_fits fits).1
    · split at fits
      · split at fits <;> exact fits
      · exact (streamPutChar_fits fits).1

theorem formatByte_fits {char : UInt8} {endOfLine : Bool}
    (fits : (reader.formatByte char endOfLine).1.overflow = false) : reader.overflow = false := by
  rcases format_kinds reader.fmt with isInteger | isString | isQuoted
  · rw [formatByte_integer isInteger] at fits
    split at fits
    · exact closeInteger_fits fits
    · unfold addDigit at fits
      split at fits <;> exact fits
  · rw [formatByte_string isString] at fits
    apply openString_fits
    split at fits
    · exact (closeString_fits fits).1
    · split at fits
      · exact fits
      · exact (streamPutChar_fits fits).1
  · rw [formatByte_quoted isQuoted] at fits
    apply openQuoted_fits
    split at fits
    · exact (closeString_fits fits).1
    · exact addQuoted_fits fits

structure AtStart (formats : List RespFormat) (reader : Reader) : Prop where
  missing : reader.numParams < formats.length
  fmt : reader.fmt = formats.getD reader.numParams .int8
  encodes : Encodes formats reader.numParams reader.stream
  strlenPos : reader.strlenPos = none

def InString (formats : List RespFormat) (reader : Reader) : Prop :=
  ∃ (start : Reader) (content : List UInt8) (quotes : UInt8),
    reader = start.holding content quotes ∧ start.numParams < formats.length ∧
      start.fmt = formats.getD start.numParams .int8 ∧ isIntegerFormat start.fmt = false ∧
      Encodes formats start.numParams start.stream

def InParam (formats : List RespFormat) (reader : Reader) : Prop :=
  AtStart formats reader ∨ InString formats reader

variable {formats : List RespFormat}

theorem InParam.openString (inParam : InParam formats reader)
    (isText : isIntegerFormat reader.fmt = false)
    (fits : reader.openString.overflow = false) : InString formats reader.openString := by
  rcases inParam with atStart | inString
  · have opened : reader.openString = reader.streamGetStrlenpos := by
      simp only [Reader.openString, atStart.strlenPos]
    rw [opened] at fits ⊢
    rw [streamGetStrlenpos_eq_holding (streamGetStrlenpos_fits fits).2]
    exact ⟨reader, [], reader.quotes, rfl, atStart.missing, atStart.fmt, isText, atStart.encodes⟩
  · obtain ⟨start, content, quotes, rfl, rest⟩ := inString
    exact ⟨start, content, quotes, rfl, rest⟩

theorem InParam.openQuoted (inParam : InParam formats reader)
    (isText : isIntegerFormat reader.fmt = false)
    (fits : reader.openQuoted.overflow = false) : InString formats reader.openQuoted := by
  rcases inParam with atStart | inString
  · have opened : reader.openQuoted = { reader.streamGetStrlenpos with quotes := 0 } := by
      simp only [Reader.openQuoted, atStart.strlenPos]
    have placed : reader.streamGetStrlenpos.overflow = false := by
      rw [opened] at fits
      exact fits
    rw [opened, streamGetStrlenpos_eq_holding (streamGetStrlenpos_fits placed).2]
    exact ⟨reader, [], 0, rfl, atStart.missing, atStart.fmt, isText, atStart.encodes⟩
  · obtain ⟨start, content, quotes, rfl, rest⟩ := inString
    exact ⟨start, content, quotes, rfl, rest⟩

theorem InString.closeString (inString : InString formats reader)
    (fits : reader.closeString.overflow = false) :
    Encodes formats (reader.numParams + 1) reader.closeString.stream := by
  obtain ⟨start, content, quotes, rfl, missing, format, isText, encodes⟩ := inString
  have room := (closeString_fits fits).2
  have short : start.stream.length + 2 + content.length + 1 ≤ maxResponseStreamLen := by
    simp only [holding, length_append, length_cons, length_nil] at room
    omega
  have encodedRoom : start.stream.length + (encodeString content).length ≤
    maxResponseStreamLen := by
    simp only [encodeString, length_append, leBytes_length, length_singleton]
    omega
  have valueFits : (Value.bytes content).Fits start.fmt := by
    have bound : content.length < 65536 := by
      simp only [maxResponseStreamLen] at short
      omega
    cases fmt : start.fmt <;> first | exact bound | simp [fmt, isIntegerFormat] at isText
  rw [closeString_holding start content quotes encodedRoom]
  exact encodes.next missing format valueFits

theorem InString.streamPutChar (inString : InString formats reader) (char : UInt8)
    (fits : (reader.streamPutChar char).overflow = false) :
    InString formats (reader.streamPutChar char) := by
  obtain ⟨start, content, quotes, rfl, missing, format, isText, encodes⟩ := inString
  have room := (streamPutChar_fits fits).2
  have short : start.stream.length + 2 + content.length + 1 ≤ maxResponseStreamLen := by
    simp only [holding, length_append, length_cons, length_nil] at room
    omega
  rw [streamPutChar_holding start content quotes short char]
  exact ⟨start, content ++ [char], quotes, rfl, missing, format, isText, encodes⟩

theorem InString.addQuoted (inString : InString formats reader) (char : UInt8)
    (fits : (reader.addQuoted char).overflow = false) :
    InString formats (reader.addQuoted char) := by
  have counted (count : UInt8) : InString formats { reader with quotes := count } := by
    obtain ⟨start, content, quotes, rfl, missing, format, isText, encodes⟩ := inString
    exact ⟨start, content, count, rfl, missing, format, isText, encodes⟩
  unfold Reader.addQuoted at fits ⊢
  split at fits
  · next unopened =>
    rw [if_pos unopened]
    split
    · exact counted 1
    · exact inString
  · next opened =>
    rw [if_neg opened]
    split at fits
    · next isString =>
      rw [if_pos isString]
      split at fits
      · next quote =>
        rw [if_pos quote]
        exact counted _
      · next other =>
        rw [if_neg other]
        exact inString.streamPutChar char fits
    · next isBuffer =>
      rw [if_neg isBuffer]
      split at fits
      · next complete =>
        rw [if_pos complete]
        split
        · exact counted _
        · exact inString
      · next pending =>
        rw [if_neg pending]
        have shorter : InString formats { reader with datalen := reader.datalen - 1 } := by
          obtain ⟨start, content, quotes, rfl, missing, format, isText, encodes⟩ := inString
          exact ⟨{ start with datalen := start.datalen - 1 }, content, quotes, rfl, missing,
            format, isText, encodes⟩
        exact shorter.streamPutChar char fits

theorem InParam.integer (inParam : InParam formats reader)
    (isInteger : isIntegerFormat reader.fmt = true) : AtStart formats reader := by
  rcases inParam with atStart | ⟨start, content, quotes, rfl, -, -, isText, -⟩
  · exact atStart
  · have : isIntegerFormat start.fmt = true := isInteger
    simp [isText] at this

theorem AtStart.closeInteger (atStart : AtStart formats reader)
    (isInteger : isIntegerFormat reader.fmt = true)
    (fits : reader.closeInteger.overflow = false) :
    Encodes formats (reader.numParams + 1) reader.closeInteger.stream := by
  have stored (width : Nat) (same : reader.fmt.width = width)
      (isWide : ∀ number : Int, (Value.integer (toSigned (8 * width) number)).Fits reader.fmt)
      (put : Reader) (before : put.stream = reader.stream)
      (putFits : (put.streamPut
        (leBytes width (strtol (nullTerminated reader.statebuf)))).overflow =
        false) :
      Encodes formats (reader.numParams + 1)
        (put.streamPut (leBytes width (strtol (nullTerminated reader.statebuf)))).stream := by
    have room := hasRoom_of_le (streamPut_fits putFits).2
    rw [streamPut, if_pos room]
    have next := atStart.encodes.next atStart.missing atStart.fmt
      (isWide (strtol (nullTerminated reader.statebuf)))
    rw [encodeParam, same, leBytes_toSigned, ← before] at next
    exact next
  cases fmt : reader.fmt <;> simp only [Reader.closeInteger, fmt] at fits ⊢
  · exact stored 1 (by rw [fmt]; rfl) (fun number => by rw [fmt]; exact Int.bmod_bmod) _ rfl fits
  · exact stored 2 (by rw [fmt]; rfl) (fun number => by rw [fmt]; exact Int.bmod_bmod) _ rfl fits
  · exact stored 4 (by rw [fmt]; rfl) (fun number => by rw [fmt]; exact Int.bmod_bmod) _ rfl fits
  · simp [fmt, isIntegerFormat] at isInteger
  · simp [fmt, isIntegerFormat] at isInteger
  · simp [fmt, isIntegerFormat] at isInteger
  · have zero : (Value.integer 0).Fits .datalen := by
      simp [Value.Fits]
    have next := atStart.encodes.next atStart.missing (fmt.symm.trans atStart.fmt) zero
    have nothing : encodeParam .datalen (.integer 0) = [] := rfl
    rw [nothing, append_nil] at next
    exact next
  · simp [fmt, isIntegerFormat] at isInteger

theorem AtStart.addDigit (atStart : AtStart formats reader) (char : UInt8) :
    AtStart formats (reader.addDigit char) := by
  unfold Reader.addDigit
  split
  · exact ⟨atStart.missing, atStart.fmt, atStart.encodes, atStart.strlenPos⟩
  · exact atStart

theorem InParam.formatByte (inParam : InParam formats reader) (char : UInt8) (endOfLine : Bool)
    (fits : (reader.formatByte char endOfLine).1.overflow = false) :
    ((reader.formatByte char endOfLine).2 = true ∧
        Encodes formats (reader.formatByte char endOfLine).1.numParams
          (reader.formatByte char endOfLine).1.stream) ∨
      ((reader.formatByte char endOfLine).2 = false ∧
        InParam formats (reader.formatByte char endOfLine).1) := by
  rcases format_kinds reader.fmt with isInteger | isString | isQuoted
  · have atStart := inParam.integer isInteger
    rw [formatByte_integer isInteger] at fits ⊢
    split at fits
    · next ends =>
      rw [if_pos ends]
      have closed := atStart.closeInteger isInteger fits
      exact Or.inl ⟨rfl, by simpa using closed⟩
    · next stays =>
      rw [if_neg stays]
      exact Or.inr ⟨rfl, Or.inl (atStart.addDigit char)⟩
  · have isText : isIntegerFormat reader.fmt = false := by
      cases fmt : reader.fmt <;> simp_all [isStringFormat, isIntegerFormat]
    rw [formatByte_string isString] at fits ⊢
    split at fits
    · next ends =>
      rw [if_pos ends]
      have opened := inParam.openString isText (closeString_fits fits).1
      have closed := opened.closeString fits
      exact Or.inl ⟨rfl, by simpa using closed⟩
    · next stays =>
      rw [if_neg stays]
      split at fits
      · next leading =>
        rw [if_pos leading]
        exact Or.inr ⟨rfl, Or.inr (inParam.openString isText fits)⟩
      · next put =>
        rw [if_neg put]
        have opened := inParam.openString isText (streamPutChar_fits fits).1
        exact Or.inr ⟨rfl, Or.inr (opened.streamPutChar char fits)⟩
  · have isText : isIntegerFormat reader.fmt = false := by
      cases fmt : reader.fmt <;> simp_all [isQuotedFormat, isIntegerFormat]
    rw [formatByte_quoted isQuoted] at fits ⊢
    split at fits
    · next ends =>
      rw [if_pos ends]
      have opened := inParam.openQuoted isText (closeString_fits fits).1
      have closed := opened.closeString fits
      exact Or.inl ⟨rfl, by simpa using closed⟩
    · next stays =>
      rw [if_neg stays]
      have opened := inParam.openQuoted isText (addQuoted_fits fits)
      exact Or.inr ⟨rfl, Or.inr (opened.addQuoted char fits)⟩

theorem formatByte_endOfLine (reader : Reader) (char : UInt8)
    (outside : ¬ (reader.fmt = .quotedDatabuf ∧ reader.openQuoted.quotes = 1)) :
    (reader.formatByte char true).2 = true := by
  cases fmt : reader.fmt <;> simp_all [Reader.formatByte, Reader.endsQuoted]

end Reader

end Thingsee.Modem
