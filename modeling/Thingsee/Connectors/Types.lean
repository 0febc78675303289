import Thingsee.Support.LittleEndian

/-!
Owns the tasks of the cloud connectors (conn_comm.c, ts_connector.c): the engine thread sends,
the network thread takes tasks from a queue and executes them over HTTP, and both may purge the
queue. A context goes with its task, from one task of its workflow to the next one.

A step is what a thread does without the others seeing a part of it. What a step meets is part of
the action: whether there is memory, whether a connection, a request or its transport fails,
and what a handler returns. A context has a callback. The data of requests and responses, the
connection itself and the hook for deep sleep are left out.
-/

namespace Thingsee.Connectors

open Support

def taskMessageQueueMax : Nat := 10

def error : Int := -1

def networkError : Int := error - 1

/-- `conn_workflow_context_s`: the number of contexts that were made before, and
`process_status`. -/
structure Context where
  serial : Nat
  processStatus : Int
deriving DecidableEq

/-- `network_task_s`. A request has a task, and the task its context. -/
inductive Message where
  | stop
  | request (context : Context)

/-- Where `conn_empty_message_queue` is: it looks for a message; it waits for one with the mutex
locked; it completes a workflow; or it has still to destroy the task. -/
inductive Purge where
  | off
  | looking
  | waiting
  | completing (context : Context)
  | removing
deriving DecidableEq

/-- Where `conn_network_thread` is. With `chained` it has the task of a context still to destroy
whose next task is in the queue. After a request it is `finishing` until it has decided whether it
keeps its connection, and then `ending` until it has cleared `processing_task`. -/
inductive Network where
  | idle
  | received (message : Message)
  | starting (context : Context)
  | executing (context : Context)
  | handling (context : Context) (ret : Int)
  | chained (context : Context)
  | finishing
  | ending
  | stopping
  | ended

/-- `con_str_t` and the threads. `uncounted` are the tasks that were put into the queue and are
not counted yet, and `stopUncounted` tells it of the task that stops the network thread. For the
statements: how many contexts were made, the callbacks and their results, and the contexts that
were released, with their payloads. -/
structure Connector where
  queue : List Message
  mqTaskCount : Int
  uncounted : Nat
  stopUncounted : Bool
  stopping : Bool
  connected : Bool
  network : Network
  enginePurge : Purge
  handlerPurge : Purge
  created : Nat
  called : List (Nat × Int)
  released : List Nat

/-- The bit field `mq_task_count`. -/
def taskCount (count : Int) : Int := toSigned 8 count

def Connector.completeTaskWorkflow (context : Context) (err : Int) (con : Connector) :
    Connector :=
  let result := if context.processStatus = 0 then err else context.processStatus
  { con with
    called := if con.stopping then con.called else con.called ++ [(context.serial, result)]
    released := con.released ++ [context.serial] }

def Connector.hasRoom (con : Connector) : Bool := decide (con.queue.length < taskMessageQueueMax)

/-- `tsc_multisend_url`. `allocated` and `posted` tell whether there is memory for the context
and for the task. -/
def Connector.multisendUrl (allocated posted : Bool) (con : Connector) : Connector :=
  if allocated then
    let context : Context := ⟨con.created, 0⟩
    let made := { con with created := con.created + 1 }
    if posted && con.hasRoom then
      { made with queue := con.queue ++ [.request context], uncounted := con.uncounted + 1 }
    else made.completeTaskWorkflow context error
  else con

/-- The end of `ts_network_give_new_task` for a request. -/
def Connector.countTask (con : Connector) : Connector :=
  match con.uncounted with
  | 0 => con
  | left + 1 => { con with uncounted := left, mqTaskCount := taskCount (con.mqTaskCount + 1) }

/-- `ts_network_give_new_task` for the task that stops the thread. -/
def Connector.giveStop (con : Connector) : Connector :=
  if con.hasRoom then { con with queue := con.queue ++ [.stop], stopUncounted := true } else con

/-- The end of `ts_network_give_new_task` for that task. -/
def Connector.countStop (con : Connector) : Connector :=
  if con.stopUncounted then
    { con with
      stopUncounted := false
      stopping := true
      mqTaskCount := taskCount (con.mqTaskCount + 1) }
  else con

/-- A message that `conn_empty_message_queue` has received. -/
def Connector.purgeMessage (con : Connector) : Connector × Purge :=
  match con.queue with
  | [] => (con, .waiting)
  | .request context :: rest => ({ con with queue := rest }, .completing context)
  | .stop :: rest =>
    ({ con with queue := rest, mqTaskCount := taskCount (con.mqTaskCount - 1) }, .looking)

/-- `conn_empty_message_queue`. -/
def Connector.purge (purge : Purge) (con : Connector) : Connector × Purge :=
  match purge with
  | .off => (con, .off)
  | .looking =>
    if con.stopping = false ∧ 0 < con.mqTaskCount then con.purgeMessage else (con, .off)
  | .waiting => con.purgeMessage
  | .completing context => (con.completeTaskWorkflow context error, .removing)
  | .removing => ({ con with mqTaskCount := taskCount (con.mqTaskCount - 1) }, .looking)

/-- `mq_receive` of the network thread. -/
def Connector.receive (con : Connector) : Connector :=
  match con.network, con.queue with
  | .idle, message :: rest => { con with network := .received message, queue := rest }
  | _, _ => con

/-- The network thread counts the message that it has received. -/
def Connector.begin (con : Connector) : Connector :=
  match con.network with
  | .received message =>
    { con with
      mqTaskCount := if con.mqTaskCount < 2 then 0 else taskCount (con.mqTaskCount - 1)
      network :=
        match message with
        | .stop => .stopping
        | .request context => .starting context }
  | _ => con

/-- It requests a connection, unless it has one. `ret` is what `request_connection` returns, which
may fail after the connection manager has given an identifier; `connected` tells that `connid` is
not -1. -/
def Connector.connect (ret : Int) (given : Bool) (con : Connector) : Connector :=
  match con.network with
  | .starting context =>
    if con.connected then { con with network := .executing context }
    else if ret < 0 then
      { con.completeTaskWorkflow { context with processStatus := networkError } ret with
        connected := given
        network := .ending }
    else { con with connected := true, network := .executing context }
  | _ => con

/-- What comes of a request: it cannot be constructed, or there is no response to handle; or the
handler is called. -/
inductive Executed where
  | fails (ret : Int)
  | responds (ret : Int)
deriving DecidableEq

/-- `execute_task_conn_request` up to the handler of the response. -/
def Connector.execute (executed : Executed) (con : Connector) : Connector :=
  match con.network, executed with
  | .executing context, .fails ret =>
    { con.completeTaskWorkflow context ret with network := .finishing }
  | .executing context, .responds ret => { con with network := .handling context ret }
  | _, _ => con

def Connector.startHandlerPurge (con : Connector) : Connector :=
  match con.network, con.handlerPurge with
  | .handling _ _, .off => { con with handlerPurge := .looking }
  | _, _ => con

/-- The handler returns: the next task of the workflow, with the `process_status` that the context
has by then, or `NULL`. A next task that finds no room in the queue is left behind. -/
def Connector.handlerReturns (next : Option Int) (con : Connector) : Connector :=
  match con.network, con.handlerPurge with
  | .handling context ret, .off =>
    match next with
    | none => { con.completeTaskWorkflow context ret with network := .finishing }
    | some processStatus =>
      if con.hasRoom then
        { con with
          queue := con.queue ++ [.request { context with processStatus }]
          uncounted := con.uncounted + 1
          network := .chained context }
      else { con with network := .finishing }
  | _, _ => con

/-- The network thread reads the payload of the context once more and destroys the task. -/
def Connector.destroyChained (con : Connector) : Connector :=
  match con.network with
  | .chained _ => { con with network := .finishing }
  | _ => con

/-- After a request the connection is given up when no other task is counted. -/
def Connector.release (con : Connector) : Connector :=
  match con.network with
  | .finishing =>
    { con with connected := con.connected && con.mqTaskCount != 0, network := .ending }
  | _ => con

def Connector.finish (con : Connector) : Connector :=
  match con.network with
  | .ending => { con with network := .idle }
  | .stopping => { con with network := .ended }
  | _ => con

inductive Action where
  | multisendUrl (allocated posted : Bool)
  | countTask
  | giveStop
  | countStop
  | startEnginePurge
  | enginePurge
  | receive
  | begin
  | connect (ret : Int) (given : Bool)
  | execute (executed : Executed)
  | startHandlerPurge
  | handlerPurge
  | handlerReturns (next : Option Int)
  | destroyChained
  | release
  | finish
deriving DecidableEq

def Connector.perform (con : Connector) : Action → Connector
  | .multisendUrl allocated posted => con.multisendUrl allocated posted
  | .countTask => con.countTask
  | .giveStop => con.giveStop
  | .countStop => con.countStop
  | .startEnginePurge =>
    { con with enginePurge := if con.enginePurge = .off then .looking else con.enginePurge }
  | .enginePurge =>
    { (con.purge con.enginePurge).1 with enginePurge := (con.purge con.enginePurge).2 }
  | .receive => con.receive
  | .begin => con.begin
  | .connect ret given => con.connect ret given
  | .execute executed => con.execute executed
  | .startHandlerPurge => con.startHandlerPurge
  | .handlerPurge =>
    { (con.purge con.handlerPurge).1 with handlerPurge := (con.purge con.handlerPurge).2 }
  | .handlerReturns next => con.handlerReturns next
  | .destroyChained => con.destroyChained
  | .release => con.release
  | .finish => con.finish

def Action.locks (con : Connector) : Action → Bool
  | .multisendUrl allocated posted => allocated && !(posted && con.hasRoom)
  | .countTask | .countStop | .begin | .release | .finish => true
  | .enginePurge => con.enginePurge != .waiting
  | .handlerPurge => con.handlerPurge != .waiting
  | .connect ret _ => !con.connected && decide (ret < 0)
  | .execute (.fails _) => true
  | .handlerReturns none => true
  | _ => false

def Connector.waits (con : Connector) (action : Action) : Bool :=
  (con.enginePurge == .waiting || con.handlerPurge == .waiting) && action.locks con

def Connector.step (con : Connector) (action : Action) : Connector :=
  if con.waits action then con else con.perform action

/-- The connector after `conn_init`. -/
def Connector.initial : Connector where
  queue := []
  mqTaskCount := 0
  uncounted := 0
  stopUncounted := false
  stopping := false
  connected := false
  network := .idle
  enginePurge := .off
  handlerPurge := .off
  created := 0
  called := []
  released := []

end Thingsee.Connectors
