import Mathlib.Data.List.Basic

/-!
Owns the cloud connection of the engine (connector.c): the selection of a connector, and the request
of a connection that a timer releases again.

The table of connectors is generated and is a parameter. The connectors of the cloud properties are
the names in their text. What connectors do when they are initialized does not come back to the
engine.
-/

namespace Thingsee.CloudConnection

/-- `struct ts_connector`, as far as it is used. A hook is a number, and functions are there or not.
-/
structure Connector where
  name : String
  allowDeepsleep : Option Nat
  init : Bool
  uninit : Bool

/-- A call of the connection manager that has got there: a request with the id it has obtained, or a
release with its success. -/
inductive Call where
  | request (id : Option UInt32)
  | destroy (id : UInt32) (succeeded : Bool)

def connidClear : UInt32 := 0

/-- `(uint32_t)-1`. -/
def noIndex : UInt32 := 0xFFFFFFFF

/-- `struct ts_connector_state`, with the pending cut-off timers and the registered hooks. The
record says whether the connector was initialized, with no call of its `uninit` since, and whether
the last selection has failed, and has the calls of the connection manager. -/
structure Engine where
  con : Option Connector
  conIdx : UInt32
  timerid : Option Nat
  conmanConnid : UInt32
  requested : Bool
  timers : List Nat
  hooks : List Nat
  initialized : Bool
  failed : Bool
  calls : List Call

/-- What a selection gets from others. `connectors` are the names of the connectors in the cloud
properties, if these can be read. -/
structure Answers where
  timer : Option Nat
  client : Bool
  request : Option UInt32
  uninit : Bool
  connectors : Option (List (Option String))
  init : Bool
  hook : Bool

namespace Engine

/-- `cancel_connection_cb`, with the timer that has called it. -/
def cancelConnectionCb (engine : Engine) (timerId : Option Nat) (client destroy : Bool) : Engine :=
  if engine.requested = false then engine
  else
    let engine :=
      match timerId, engine.timerid with
      | none, some timerid => { engine with timers := engine.timers.erase timerid }
      | _, _ => engine
    let engine :=
      if client then
        { engine with
          calls := engine.calls ++ [.destroy engine.conmanConnid destroy]
          conmanConnid := connidClear }
      else engine
    { engine with requested := false, timerid := none }

def cancelConnection (engine : Engine) (client destroy : Bool) : Engine :=
  engine.cancelConnectionCb none client destroy

def expire (engine : Engine) (timer : Nat) (client destroy : Bool) : Engine :=
  if timer ∈ engine.timers then
    { engine with timers := engine.timers.erase timer }.cancelConnectionCb
      (some timer) client destroy
  else engine

/-- The start of `request_connection`. -/
def restartTimer (engine : Engine) (timer : Option Nat) : Engine :=
  let timers :=
    match engine.timerid with
    | none => engine.timers
    | some timerid => engine.timers.erase timerid
  { engine with timers := timers ++ timer.toList, timerid := timer }

/-- The rest of `request_connection`. -/
def obtain (engine : Engine) (client : Bool) (request : Option UInt32) : Engine :=
  if engine.requested then engine
  else
    let engine :=
      if client then
        { engine with
          calls := engine.calls ++ [.request request]
          conmanConnid := request.getD engine.conmanConnid }
      else engine
    { engine with requested := true }

def requestConnection (engine : Engine) (answers : Answers) : Engine :=
  (engine.restartTimer answers.timer).obtain answers.client answers.request

end Engine

/-- `strcasecmp` finds no difference. -/
def sameName (first second : String) : Bool :=
  first.toList.map Char.toLower == second.toList.map Char.toLower

/-- `get_connector_name_by_index`. The index is converted to an `int`, and the first item is taken
if that is negative. -/
def connectorNameByIndex (connectors : List (Option String)) (connectorIdx : UInt32) :
    Option String :=
  let item := if connectorIdx.toNat < 0x80000000 then connectorIdx.toNat else 0
  connectors[item]?.map fun name => name.getD ""

def findConnectorByName (tsConnectors : List Connector) (name : String) : Option Connector :=
  tsConnectors.find? fun connector => sameName connector.name name

def lookUp (tsConnectors : List Connector) (answers : Answers) (connectorIdx : UInt32) :
    Option Connector := do
  let connectors ← answers.connectors
  let name ← connectorNameByIndex connectors connectorIdx
  findConnectorByName tsConnectors name

namespace Engine

/-- The end of `ts_engine_select_connector`, which registers the hook. -/
def addHook (engine : Engine) (connector : Connector) (memory : Bool) : Engine :=
  match connector.allowDeepsleep, memory with
  | some hook, true => { engine with hooks := engine.hooks ++ [hook], failed := false }
  | _, _ => { engine with failed := false }

def initConnector (engine : Engine) (connector : Connector) (connectorIdx : UInt32)
    (answers : Answers) : Engine :=
  if connector.init then
    if answers.init then
      ({ engine with con := some connector, conIdx := connectorIdx, initialized := true
        }.requestConnection answers).addHook connector answers.hook
    else { engine with con := none, conIdx := noIndex, initialized := false, failed := true }
  else
    { engine with con := some connector, conIdx := connectorIdx, initialized := true
      }.addHook connector answers.hook

def selectNew (engine : Engine) (tsConnectors : List Connector) (connectorIdx : UInt32)
    (answers : Answers) : Engine :=
  if connectorIdx = noIndex then { engine with failed := false }
  else
    match lookUp tsConnectors answers connectorIdx with
    | none => { engine with con := none, failed := true }
    | some connector => engine.initConnector connector connectorIdx answers

def removeHook (engine : Engine) (connector : Connector) : Engine :=
  match connector.allowDeepsleep with
  | none => engine
  | some hook => { engine with hooks := engine.hooks.erase hook }

def selectConnector (engine : Engine) (tsConnectors : List Connector) (connectorIdx : UInt32)
    (answers : Answers) : Engine :=
  match engine.con with
  | none => engine.selectNew tsConnectors connectorIdx answers
  | some connector =>
    if connectorIdx ≠ noIndex ∧ engine.conIdx = connectorIdx then
      { engine.requestConnection answers with failed := false }
    else if connector.uninit && !answers.uninit then
      { engine.removeHook connector with initialized := false, failed := true }
    else
      { engine.removeHook connector with con := none, conIdx := noIndex, initialized := false
        }.selectNew tsConnectors connectorIdx answers

end Engine

inductive Action where
  | select (connectorIdx : UInt32) (answers : Answers)
  | cancel (client destroy : Bool)
  | expire (timer : Nat) (client destroy : Bool)

def Engine.step (tsConnectors : List Connector) (engine : Engine) : Action → Engine
  | .select connectorIdx answers => engine.selectConnector tsConnectors connectorIdx answers
  | .cancel client destroy => engine.cancelConnection client destroy
  | .expire timer client destroy => engine.expire timer client destroy

/-- `g_state`. -/
def Engine.initial : Engine where
  con := none
  conIdx := noIndex
  timerid := none
  conmanConnid := connidClear
  requested := false
  timers := []
  hooks := []
  initialized := false
  failed := false
  calls := []

end Thingsee.CloudConnection
