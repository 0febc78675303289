import Thingsee.Modem.Reader
import Thingsee.Modem.Registry

/-!
Owns the main state machine of `apps/system/ubmodem/ubmodem_parser.c`:
`parser_found_response_name`, `parse_parameter_byte`, `parse_byte`,
`__ubparse_buffer` and `modem_command_timeout_callback`, over the parameter
reader and the handler registry.

`parser->response.time_prev` is left out: it is only read by the command
sender, whose clock reading is an input there.
-/

namespace Thingsee.Modem

open Support

/-- `struct at_parser_s`, with `n` unsolicited handler slots. -/
structure Parser (n : Nat) where
  state : State
  reader : Reader
  status : RespStatus
  errorcode : Int
  handler : Option (HandlerRef n)
  registry : Registry n

/-- The parser after `zalloc`. -/
def Parser.zeroed (n : Nat) : Parser n where
  state := .reset
  reader := Reader.zeroed
  status := .unset
  errorcode := 0
  handler := none
  registry := Registry.zeroed n

section

variable {n : Nat}

namespace Parser

/-- `parser->handler->cmd`. The cleared definition stands for a null handler,
which the parser never follows. -/
def handlerCmd (parser : Parser n) : CmdDef :=
  match parser.handler with
  | some handler => parser.registry.cmdOf handler
  | none => Command.cleared.toCmdDef

/-- A request of modem library code between two bytes. -/
def request (parser : Parser n) (asked : Request) : Parser n :=
  { parser with registry := parser.registry.request asked }

/-- The error code of a `+CME ERROR` or `+CMS ERROR` line: it is read back from
the stream and stored in a 16 bit field. -/
def streamErrorcode (stream : List UInt8) : Int :=
  if 4 ≤ stream.length then toSigned 16 (toSigned 32 (leValue (stream.take 4))) else -1

def handleErrorcode (reaction : Reaction n) (parser : Parser n) : Parser n :=
  let errorcode := streamErrorcode parser.reader.stream
  { parser with
    state := .reset
    reader := { parser.reader with numParams := 0, stream := [] }
    errorcode := errorcode
    handler := none
    registry := parser.registry.completeCommand reaction parser.status errorcode 0 none }

def handleResponseLine (reaction : Reaction n) (parser : Parser n) (handler : HandlerRef n) :
    Parser n :=
  { parser with
    state := .reset
    reader := { parser.reader with numParams := 0, stream := [] }
    status := .line
    errorcode := 0
    handler := none
    registry := parser.registry.doCallback reaction handler .line parser.errorcode
      parser.reader.numParams (some parser.reader.stream) }

def handleUnsolicited (reaction : Reaction n) (parser : Parser n) (handler : HandlerRef n) :
    Parser n :=
  { parser with
    state := .reset
    reader := { parser.reader with numParams := 0, stream := [] }
    status := .urc
    errorcode := 0
    handler := none
    registry := parser.registry.doCallback reaction handler .urc 0
      parser.reader.numParams (some parser.reader.stream) }

/-- The special cases at the end of a line: error codes, unsolicited results and
responses of several lines. -/
def lineEnd (reaction : Reaction n) (parser : Parser n) (restart : Bool) : Parser n × Bool :=
  if parser.handlerCmd.flagErrorcode then (parser.handleErrorcode reaction, false)
  else
    match parser.handler with
    | some (.urc index) => (parser.handleUnsolicited reaction (.urc index), false)
    | some handler =>
      if parser.handlerCmd.flagMultipleResp then
        (parser.handleResponseLine reaction handler, false)
      else (parser, restart)
    | none => (parser, restart)

/-- `parse_parameter_byte`: the parser after it, and whether the main state
machine has to look at the character again. -/
def parseParameterByte (reaction : Reaction n) (parser : Parser n) (char : UInt8)
    (endOfLine : Bool) : Parser n × Bool :=
  if parser.reader.skipsTrailingSpace char then
    ({ parser with reader := parser.reader.openQuoted }, false)
  else
    let result := parser.reader.formatByte char endOfLine
    let parser :=
      { parser with
        reader := result.1
        state := if result.2 then .startReadParam else parser.state }
    if endOfLine then lineEnd reaction parser result.2 else (parser, false)

/-- A parameter line of `handler` begins. -/
def beginParams (parser : Parser n) (handler : HandlerRef n) : Parser n :=
  { parser with handler := some handler, reader := parser.reader.beginParams }

/-- A line that completes the active command with parameters left as they are:
`OK`, a prompt or `ERROR`. -/
def completeCommand (reaction : Reaction n) (parser : Parser n) (status : RespStatus)
    (errorcode : Int) (stream : Option (List UInt8)) : Parser n :=
  { parser with
    reader := parser.reader.streamReset
    status := status
    errorcode := errorcode
    registry := parser.registry.completeCommand reaction status errorcode
      parser.reader.numParams stream }

/-- The stream passed with `OK`: a command with several response lines loses its
stream first. -/
def okStream (parser : Parser n) : List UInt8 :=
  if parser.registry.command.cmd.flagMultipleResp then [] else parser.reader.stream

/-- A `+CME ERROR` or `+CMS ERROR` line: its error code is read next. -/
def beginErrorcode (parser : Parser n) (status : RespStatus) : Parser n :=
  { parser with status := status, errorcode := -1 }.beginParams .internalError

/-- A line of the plain response of the active command: what was taken for the
response name is fed to the parameter parser. -/
def beginPlain (reaction : Reaction n) (parser : Parser n) (name : List UInt8) : Parser n :=
  let parser := parser.beginParams .command
  let parser :=
    { parser with
      reader := { parser.reader with
        fmt := parser.registry.command.cmd.formatAt parser.reader.numParams } }
  name.foldl (fun parser char => (parser.parseParameterByte reaction char false).1) parser

/-- The part of `parser_found_response_name` after the active command has been
looked at; `plain` says that it takes plain lines. -/
def foundOther (reaction : Reaction n) (parser : Parser n) (name : List UInt8) (plain : Bool) :
    Parser n × Bool :=
  match parser.registry.findResponseHandlerByName name with
  | some .command =>
    if plain then (parser.beginPlain reaction name, true)
    else (parser.beginParams .command, true)
  | some handler => (parser.beginParams handler, true)
  | none => if plain then (parser.beginPlain reaction name, true) else (parser, false)

def foundResponseName (reaction : Reaction n) (parser : Parser n) (name : List UInt8) :
    Parser n × Bool :=
  let parser := { parser with handler := none }
  let cmd := parser.registry.command.cmd
  if parser.registry.command.active then
    if cmd.flagPlain = false ∧ name = cmd.name then (parser.beginParams .command, true)
    else if name = nameOk then
      (parser.completeCommand reaction .ok 0 (some parser.okStream), false)
    else if (cmd.flagDataPrompt ∧ name = nameDataPrompt) ∨
        (cmd.flagPduPrompt ∧ name = namePduPrompt) then
      (parser.completeCommand reaction .dataprompt 0 none, false)
    else if name = nameError then (parser.completeCommand reaction .error (-1) none, false)
    else if name = nameCmeError then (parser.beginErrorcode .cmeError, true)
    else if name = nameCmsError then (parser.beginErrorcode .cmsError, true)
    else parser.foundOther reaction name cmd.flagPlain
  else parser.foundOther reaction name false

def skipToEol (parser : Parser n) (endOfLine : Bool) : Parser n :=
  { parser with state := if endOfLine then .reset else .skipToEol }

/-- The parser in front of its next parameter: the sub-state is cleared and the
format of the parameter is looked up. -/
def nextParam (parser : Parser n) : Parser n :=
  { parser with
    state := .doReadParam
    reader := { parser.reader.clearParam with
      fmt := parser.handlerCmd.formatAt parser.reader.numParams } }

/-- `PARSER_STATE_START_READ_RARAM` and the restarts that come back to it: at the
end of a line every missing parameter is read as an empty one. Each restart
stores one parameter, so `resp_num + 1` rounds are enough. -/
def startReadParam (reaction : Reaction n) (char : UInt8) (endOfLine : Bool) :
    Nat → Parser n → Parser n
  | 0, parser => parser
  | rounds + 1, parser =>
    if parser.handlerCmd.respNum ≤ parser.reader.numParams then
      skipToEol { parser with reader := parser.reader.clearParam } endOfLine
    else
      let result := parser.nextParam.parseParameterByte reaction char endOfLine
      if result.2 then startReadParam reaction char endOfLine rounds result.1 else result.1

/-- The rounds `startReadParam` is started with. -/
def readRounds (parser : Parser n) : Nat := parser.handlerCmd.respNum + 1

def doReadParam (reaction : Reaction n) (parser : Parser n) (char : UInt8) (endOfLine : Bool) :
    Parser n :=
  let result := parser.parseParameterByte reaction char endOfLine
  if result.2 then startReadParam reaction char endOfLine result.1.readRounds result.1
  else result.1

/-- A response name has been read: `char` is the character that ended it. -/
def endResponseName (reaction : Reaction n) (parser : Parser n) (char : UInt8)
    (endOfLine : Bool) : Parser n :=
  let result := parser.foundResponseName reaction (nullTerminated parser.reader.statebuf)
  if result.2 then
    if result.1.handlerCmd.flagPlain then
      doReadParam reaction { result.1 with state := .doReadParam } char endOfLine
    else { result.1 with state := .startReadParam }
  else
    { result.1 with
      state := if endOfLine ∨ char = 64 ∨ char = 62 then .reset else .skipToEol }

def withStatebuf (parser : Parser n) (statebuf : List UInt8) : Parser n :=
  { parser with reader := { parser.reader with statebuf := statebuf } }

def readResponseName (reaction : Reaction n) (parser : Parser n) (char : UInt8)
    (endOfLine : Bool) : Parser n :=
  if endOfLine ∨ char = 58 ∨ parser.reader.statebuf.length = statebufSize - 1 ∨
      ((char = 64 ∨ char = 62) ∧ parser.reader.statebuf = []) then
    if char = 64 ∨ char = 62 then
      endResponseName reaction (parser.withStatebuf [char]) char endOfLine
    else if parser.reader.statebuf = [] then { parser with state := .reset }
    else endResponseName reaction parser char endOfLine
  else if isVisibleAtAscii char ∧ parser.reader.statebuf.length < statebufSize then
    parser.withStatebuf (parser.reader.statebuf ++ [char])
  else parser

def beginLine (parser : Parser n) : Parser n :=
  { parser.withStatebuf [] with handler := none, state := .readResponseName }

def parseByte (reaction : Reaction n) (parser : Parser n) (char : UInt8) : Parser n :=
  let endOfLine := isEndOfLine char
  match parser.state with
  | .reset =>
    if endOfLine then parser else readResponseName reaction parser.beginLine char endOfLine
  | .readResponseName => readResponseName reaction parser char endOfLine
  | .startReadParam => startReadParam reaction char endOfLine parser.readRounds parser
  | .doReadParam => doReadParam reaction parser char endOfLine
  | .skipToEol => parser.skipToEol endOfLine

def parseBuffer (reaction : Reaction n) (parser : Parser n) (bytes : List UInt8) : Parser n :=
  bytes.foldl (parseByte reaction) parser

/-- `modem_command_timeout_callback`: the information passed on is a local one,
and only the main state of the parser is reset. -/
def commandTimeoutCallback (reaction : Reaction n) (parser : Parser n) : Parser n :=
  if parser.registry.command.active then
    let registry := parser.registry.unregisterResponseHandler parser.registry.command.cmd.name
    let registry := { registry with cmdTimeout := none }
    { parser with
      state := .reset
      registry := registry.call reaction .command .timeout (-1) 0 none }
  else parser

/-- What happens to the parser from outside: a received byte, a request of modem
library code, the firing of the armed command timer, or the firing of the timer
of a delayed command. -/
inductive Input where
  | byte (char : UInt8)
  | ask (asked : Request)
  | commandTimer
  | delayedTimer (written : Bool)

/-- One step of a run. Only an armed timer fires. -/
def step (reaction : Reaction n) (parser : Parser n) : Input → Parser n
  | .byte char => parser.parseByte reaction char
  | .ask asked => parser.request asked
  | .commandTimer =>
    if parser.registry.cmdTimeout.isSome then parser.commandTimeoutCallback reaction else parser
  | .delayedTimer written =>
    { parser with registry := parser.registry.delayedCommandCallback written }

def run (reaction : Reaction n) (parser : Parser n) (inputs : List Input) : Parser n :=
  inputs.foldl (step reaction) parser

end Parser

end

end Thingsee.Modem
