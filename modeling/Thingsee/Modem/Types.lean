import Mathlib.Data.List.Basic

/-!
Owns the data types of the u-blox modem response parser
(`apps/system/ubmodem/ubmodem_parser.h`): response formats, command
definitions, response statuses and the parser's main states.

A definition that can be registered with the parser is a `Command`; it carries
what every definition of the modem library satisfies and what the parser takes
for granted. The internal definition for `+CME ERROR` and `+CMS ERROR` lines is
a plain `CmdDef` and is never registered.

Does not own the power-management flag of a definition: no function modelled
here reads it.
-/

namespace Thingsee.Modem

/-- `enum at_resp_format_e`. -/
inductive RespFormat where
  | int8
  | int16
  | int32
  | string
  | stringToEol
  | quotedString
  | datalen
  | quotedDatabuf
deriving DecidableEq

/-- `enum at_resp_status_e`. `unset` is the zero of a cleared parser, which is
no enumerator of the source. -/
inductive RespStatus where
  | unset
  | ok
  | urc
  | line
  | dataprompt
  | error
  | cmeError
  | cmsError
  | timeout
deriving DecidableEq

/-- `enum at_parser_state_e`. -/
inductive State where
  | reset
  | readResponseName
  | skipToEol
  | startReadParam
  | doReadParam
deriving DecidableEq

/-- `struct at_cmd_def_s`. `resp_num` is the length of `respFormat`. -/
structure CmdDef where
  name : List UInt8
  respFormat : List RespFormat
  timeoutDsec : Nat := 0
  flagMultipleResp : Bool := false
  flagDataPrompt : Bool := false
  flagPduPrompt : Bool := false
  flagErrorcode : Bool := false
  flagPlain : Bool := false
deriving DecidableEq

/-- `cmd->resp_num`. -/
def CmdDef.respNum (cmd : CmdDef) : Nat := cmd.respFormat.length

/-- `cmd->resp_format[index]`. The default is only read for an empty format. -/
def CmdDef.formatAt (cmd : CmdDef) (index : Nat) : RespFormat :=
  cmd.respFormat.getD index .int8

def isVisibleAtAscii (char : UInt8) : Bool := decide (32 ≤ char ∧ char ≤ 126)

/-- The test `cur_char == '\r' || cur_char == '\n'` of `parse_byte`. -/
def isEndOfLine (char : UInt8) : Bool := decide (char = 13 ∨ char = 10)

/-- `toupper` on one byte. -/
def toUpper (char : UInt8) : UInt8 :=
  if 97 ≤ char ∧ char ≤ 122 then char - 32 else char

/-- `strcasecmp(left, right) == 0`. -/
def sameNameIgnoringCase (left right : List UInt8) : Bool :=
  decide (left.map toUpper = right.map toUpper)

/-- `sizeof(parser->statebuf)`. -/
def statebufSize : Nat := 32

/-- Whether `name` is what the parser makes of it when it stands at the start of
a line: `parse_byte` collects visible characters up to a colon, as many as fit
the state buffer, and takes `@` and `>` in front for prompts. -/
def isResponseName (name : List UInt8) : Bool :=
  match name with
  | [] => false
  | first :: _ =>
    first != 64 && first != 62 && decide (name.length ≤ statebufSize - 1) &&
      name.all (fun char => isVisibleAtAscii char && char != 58)

/-- Every data buffer of a format list comes after a data length. `seen` says
whether a length has been passed already. -/
def datalenFirst (seen : Bool) : List RespFormat → Bool
  | [] => true
  | .datalen :: rest => datalenFirst true rest
  | .quotedDatabuf :: rest => seen && datalenFirst seen rest
  | _ :: rest => datalenFirst seen rest

/-- A definition that is registered with the parser. `flag_errorcode` is kept
for the parser's own error definition, `resp_num` is a five bit field, the header
says of `flag_plain` that the response is a plain string line, and
`__ubmodem_stream_max_readbuf_len` calls a data buffer without a data length
before it an invalid command definition. The name is any text: that of
`cmd_initial`, the `AT` command without a response, is empty. -/
structure Command extends CmdDef where
  notErrorcode : flagErrorcode = false
  respNumFits : respFormat.length ≤ 31
  plainFormat : flagPlain = true → respFormat = [.stringToEol]
  datalenKnown : datalenFirst false respFormat = true

/-- A definition registered as unsolicited result code. -/
structure Urc extends Command where
  notPlain : flagPlain = false

/-- A command without parameters in its response. -/
def Command.bare (name : List UInt8) (timeoutDsec : Nat) : Command where
  name
  respFormat := []
  timeoutDsec
  notErrorcode := rfl
  respNumFits := by decide
  plainFormat := by decide
  datalenKnown := rfl

/-- A command with a number on each line of its response. -/
def Command.number (name : List UInt8) (flagMultipleResp : Bool) : Command where
  name
  respFormat := [.int8]
  flagMultipleResp
  notErrorcode := rfl
  respNumFits := by decide
  plainFormat := by decide
  datalenKnown := rfl

/-- A definition for a handler slot that was never written. The slot is inactive
and its definition is never looked at. -/
def Command.cleared : Command := .bare [43] 0

/-- A definition for an unsolicited slot that was never written. -/
def Urc.cleared : Urc where
  toCommand := Command.cleared
  notPlain := rfl

/-- `struct at_response_handler_s`. The callback and its private data are one
token here. `__ubparser_register_response_handler` asserts that slot 0 only
holds commands and that the other slots only hold unsolicited handlers, so the
`unsolicited` member is the slot's place. -/
structure Slot (δ : Type) where
  active : Bool
  cmd : δ
  callback : Nat

/-- Which `struct at_response_handler_s` a pointer points to: slot 0, one of
the unsolicited slots, or the parser's `internal_error_handler`. -/
inductive HandlerRef (n : Nat) where
  | command
  | urc (index : Fin n)
  | internalError
deriving DecidableEq

/-- `"OK"`. -/
def nameOk : List UInt8 := [79, 75]

/-- `"ERROR"`. -/
def nameError : List UInt8 := [69, 82, 82, 79, 82]

/-- `"+CME ERROR"`. -/
def nameCmeError : List UInt8 := [43, 67, 77, 69, 32, 69, 82, 82, 79, 82]

/-- `"+CMS ERROR"`. -/
def nameCmsError : List UInt8 := [43, 67, 77, 83, 32, 69, 82, 82, 79, 82]

/-- `"@"`. -/
def nameDataPrompt : List UInt8 := [64]

/-- `">"`. -/
def namePduPrompt : List UInt8 := [62]

/-- `error_def` of `parser_found_response_name`. -/
def errorDef : CmdDef where
  name := []
  respFormat := [.int32]
  flagErrorcode := true

end Thingsee.Modem
