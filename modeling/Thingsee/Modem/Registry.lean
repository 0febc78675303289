import Thingsee.Modem.Types
import Mathlib.Data.List.FinRange
import Mathlib.Logic.Function.Basic

/-!
Owns the handler registry of `apps/system/ubmodem/ubmodem_parser.c` and the
command sender of `apps/system/ubmodem/ubmodem_command.c`: finding, registering
and unregistering handlers, the command timer, the delayed command, and the
call of a handler.

A handler callback is modem library code. What it can do to the parser is to
make requests (`Request`), and `Reaction` says which ones it makes. `log` is no
member of the source: it lists the events of the registry, oldest first.

Allocation of timers succeeds here. The text that is written to the modem is
left out; whether the serial line took it is an input of each request.
-/

namespace Thingsee.Modem

/-- One call of a handler: the arguments of `modem_response_callback_t`. A null
stream is `none`. `commandActive` records whether slot 0 was active when the
callback ran. -/
structure Callback (n : Nat) where
  source : HandlerRef n
  callback : Nat
  cmd : CmdDef
  status : RespStatus
  errorcode : Int
  numParams : Nat
  stream : Option (List UInt8)
  commandActive : Bool
deriving DecidableEq

/-- What is recorded in the log: a command registration or a callback. -/
inductive Event (n : Nat) where
  | registered (cmd : Command) (callback : Nat)
  | called (callback : Callback n)

/-- What modem library code asks of the parser, between bytes or from inside a
callback. `timediff` is the time since the last response in milliseconds, and
`written` says that the serial line was set up and took the whole command. -/
inductive Request where
  | registerUrc (cmd : Urc) (callback : Nat)
  | sendCmd (cmd : Command) (callback : Nat) (timediff : Int) (written : Bool)
  | sendRaw (cmd : Command) (callback : Nat) (written : Bool)

/-- The requests a callback makes, given everything logged up to that call. -/
abbrev Reaction (n : Nat) := List (Event n) → List Request

/-- Callbacks that leave the parser alone. -/
def quiet (n : Nat) : Reaction n := fun _ => []

/-- The registry members of `struct at_parser_s`, with `n` unsolicited handler
slots after slot 0, and `delayed_cmd` of `struct ubmodem_s`. `cmdTimeout` is the
length in milliseconds of the armed command timer; `cmd_timeout_armed` is
`cmdTimeout.isSome`. -/
structure Registry (n : Nat) where
  command : Slot Command
  urcs : Fin n → Slot Urc
  cmdTimeout : Option Nat
  delayedCmd : Option (Command × Nat)
  log : List (Event n)

def Registry.zeroed (n : Nat) : Registry n where
  command := ⟨false, Command.cleared, 0⟩
  urcs := fun _ => ⟨false, Urc.cleared, 0⟩
  cmdTimeout := none
  delayedCmd := none
  log := []

section

variable {n : Nat}

namespace Registry

/-- `handler->cmd`. -/
def cmdOf (registry : Registry n) : HandlerRef n → CmdDef
  | .command => registry.command.cmd.toCmdDef
  | .urc index => (registry.urcs index).cmd.toCmdDef
  | .internalError => errorDef

def callbackOf (registry : Registry n) : HandlerRef n → Nat
  | .command => registry.command.callback
  | .urc index => (registry.urcs index).callback
  | .internalError => 0

/-- Whether an unsolicited slot answers to `name`. -/
def urcMatches (registry : Registry n) (name : List UInt8) (index : Fin n) : Bool :=
  (registry.urcs index).active && sameNameIgnoringCase (registry.urcs index).cmd.name name

/-- `parser_find_response_handler_by_name`: slot 0 is looked at first. -/
def findResponseHandlerByName (registry : Registry n) (name : List UInt8) :
    Option (HandlerRef n) :=
  if registry.command.active ∧ sameNameIgnoringCase registry.command.cmd.name name then
    some .command
  else
    ((List.finRange n).find? (registry.urcMatches name)).map .urc

def unregisterResponseHandler (registry : Registry n) (name : List UInt8) : Registry n :=
  match registry.findResponseHandlerByName name with
  | some .command => { registry with command := { registry.command with active := false } }
  | some (.urc index) =>
    { registry with
      urcs := Function.update registry.urcs index { registry.urcs index with active := false } }
  | _ => registry

/-- The free slot `__ubparser_register_response_handler` picks for an
unsolicited handler. -/
def freeUrcSlot (registry : Registry n) : Option (Fin n) :=
  (List.finRange n).find? (fun index => !(registry.urcs index).active)

/-- `__ubparser_register_response_handler` for an unsolicited handler. With no
free slot the source stops at an assertion; nothing is registered. -/
def registerUrc (registry : Registry n) (cmd : Urc) (callback : Nat) : Registry n :=
  match registry.freeUrcSlot with
  | some index =>
    { registry with urcs := Function.update registry.urcs index ⟨true, cmd, callback⟩ }
  | none => registry

/-- `__ubparser_register_response_handler` for a command. -/
def registerCommand (registry : Registry n) (cmd : Command) (callback : Nat) : Registry n :=
  { registry with
    command := ⟨true, cmd, callback⟩
    log := registry.log ++ [.registered cmd callback] }

/-- The length of the timer `__ubparser_setup_command_timeout` arms, in
milliseconds. -/
def commandTimeoutMsec (cmd : CmdDef) : Nat :=
  (if cmd.timeoutDsec = 0 then 50 else cmd.timeoutDsec) * 100

def setupCommandTimeout (registry : Registry n) : Registry n :=
  { registry with cmdTimeout := some (commandTimeoutMsec registry.command.cmd.toCmdDef) }

/-- `modem_send_cmd_vfmt` and `__ubmodem_send_raw`: the handler is registered, the
text is written, and the timer is armed only if that went well. With slot 0 in
use the source stops at an assertion; nothing is sent. -/
def sendNow (registry : Registry n) (cmd : Command) (callback : Nat) (written : Bool) :
    Registry n :=
  if registry.command.active then registry
  else if written then (registry.registerCommand cmd callback).setupCommandTimeout
  else registry.registerCommand cmd callback

def cmdNewDelayMsec : Int := 20

/-- `__ubmodem_send_cmd`: a command too soon after a response is put off. With a
delayed command pending the source stops at an assertion; nothing is sent. -/
def sendCmd (registry : Registry n) (cmd : Command) (callback : Nat) (timediff : Int)
    (written : Bool) : Registry n :=
  if registry.delayedCmd.isSome then registry
  else if timediff < cmdNewDelayMsec then { registry with delayedCmd := some (cmd, callback) }
  else registry.sendNow cmd callback written

def delayedCommandCallback (registry : Registry n) (written : Bool) : Registry n :=
  match registry.delayedCmd with
  | some (cmd, callback) => { registry with delayedCmd := none }.sendNow cmd callback written
  | none => registry

def request (registry : Registry n) : Request → Registry n
  | .registerUrc cmd callback => registry.registerUrc cmd callback
  | .sendCmd cmd callback timediff written => registry.sendCmd cmd callback timediff written
  | .sendRaw cmd callback written => registry.sendNow cmd callback written

/-- The call of a handler, which then makes its requests one after the other. -/
def call (reaction : Reaction n) (registry : Registry n) (handler : HandlerRef n)
    (status : RespStatus) (errorcode : Int) (numParams : Nat)
    (stream : Option (List UInt8)) : Registry n :=
  let log := registry.log ++
    [.called
      { source := handler
        callback := registry.callbackOf handler
        cmd := registry.cmdOf handler
        status := status
        errorcode := errorcode
        numParams := numParams
        stream := stream
        commandActive := registry.command.active }]
  (reaction log).foldl request { registry with log := log }

/-- The timer part of `modem_do_callback`: the callback of a command takes the
armed timer down. -/
def disarm (registry : Registry n) : HandlerRef n → Registry n
  | .urc _ => registry
  | _ => { registry with cmdTimeout := none }

def doCallback (reaction : Reaction n) (registry : Registry n) (handler : HandlerRef n)
    (status : RespStatus) (errorcode : Int) (numParams : Nat)
    (stream : Option (List UInt8)) : Registry n :=
  (registry.disarm handler).call reaction handler status errorcode numParams stream

/-- The common end of a command: its handler is unregistered in front of the
callback, so that the callback can register a new one. -/
def completeCommand (reaction : Reaction n) (registry : Registry n) (status : RespStatus)
    (errorcode : Int) (numParams : Nat) (stream : Option (List UInt8)) : Registry n :=
  (registry.unregisterResponseHandler registry.command.cmd.name).doCallback reaction .command
    status errorcode numParams stream

end Registry

end

end Thingsee.Modem
