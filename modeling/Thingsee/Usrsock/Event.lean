import Thingsee.Usrsock.Types

/-!
Owns the delivery of events: `usrsock_event` of `usrsock_event.c`,
`devif_callback_execute` of `nuttx/net/devif/devif_callback.c`, the event
functions of the socket calls, and the setting up and taking down of callbacks
in `usrsock_conn.c`.

The event functions differ in the result of an abort and in what they take over
from a completed request; only sending and receiving know further events. The
callbacks of `usrsock_poll` are left out: they wait for no request and pass the
events on unchanged.
-/

namespace Thingsee.Usrsock

variable {n m : Nat}

def Kind.abortResult : Kind → Int
  | .socket => -ENETDOWN
  | _ => -ECONNABORTED

def Kind.abortState (kind : Kind) (state : Reqstate) : Reqstate :=
  let state := { state with result := kind.abortResult }
  match kind with
  | .recvfrom => { state with valuelen := 0, valuelenNontrunc := 0 }
  | .getsockopt | .getsockname => { state with valuelen := 0 }
  | _ => state

def Kind.completeState (kind : Kind) (resp : Resp) (state : Reqstate) : Reqstate :=
  let state := { state with result := resp.result }
  match kind with
  | .recvfrom | .getsockname =>
    if resp.result < 0 then { state with valuelen := 0, valuelenNontrunc := 0 }
    else { state with valuelen := resp.valuelen, valuelenNontrunc := resp.valuelenNontrunc }
  | .getsockopt =>
    if resp.result < 0 then { state with valuelen := 0 }
    else { state with valuelen := resp.valuelen }
  | _ => state

/-- What the event function of a complete request changes in the connection:
a new socket gets its number, and sending and receiving wait for the next event
of the daemon. -/
def Kind.completeConn (kind : Kind) (conn : Conn m) : Conn m :=
  let moved := 0 ≤ conn.resp.result ∨ conn.resp.result = -EAGAIN
  match kind with
  | .socket =>
    if 0 ≤ conn.resp.result then
      { conn with state := .ready, usockid := Int.bmod conn.resp.result 65536 }
    else conn
  | .sendto =>
    if moved then { conn with flags := { conn.flags with sendtoReady := false } } else conn
  | .recvfrom =>
    if moved then { conn with flags := { conn.flags with recvfromAvail := false } } else conn
  | _ => conn

/-- What an event function does: the connection and the request state after it,
the events it passes on, and whether it stops further callbacks and wakes up its
thread. -/
structure Reaction (m : Nat) where
  conn : Conn m
  state : Reqstate
  events : Events
  posted : Bool

def Kind.event (kind : Kind) (conn : Conn m) (state : Reqstate) (events : Events) : Reaction m :=
  if events.abort then
    { conn := if kind = .close then { conn with state := .aborted } else conn
      state := kind.abortState state
      events := events
      posted := true }
  else if events.reqComplete then
    { conn := kind.completeConn conn
      state := kind.completeState conn.resp state
      events := events
      posted := true }
  else if (kind = .sendto ∨ kind = .recvfrom) ∧ events.remoteClosed then
    ⟨conn, { state with result := -EPIPE }, events, true⟩
  else if kind = .sendto ∧ events.sendtoReady then
    ⟨conn, state, { events with sendtoReady := false }, true⟩
  else if kind = .recvfrom ∧ events.recvfromAvail then
    ⟨conn, state, { events with recvfromAvail := false }, true⟩
  else ⟨conn, state, events, false⟩

/-- `sem_post(&pstate->recvsem)`. -/
def Reqstate.post (state : Reqstate) : Reqstate := { state with recvsem := state.recvsem + 1 }

def Callback.stopped (callback : Callback m) : Callback m :=
  { callback with flags := {}, active := false }

/-- The connection, the threads and the callbacks after a delivery. -/
structure Delivery (n m : Nat) where
  conn : Conn m
  threads : Fin m → Option (Frame n)
  list : List (Callback m)

/-- `devif_callback_execute`. -/
def execute (conn : Conn m) (threads : Fin m → Option (Frame n)) (events : Events) :
    List (Callback m) → Delivery n m
  | [] => ⟨conn, threads, []⟩
  | callback :: rest =>
    match threads callback.thread with
    | some frame =>
      if callback.active ∧ events.meets callback.flags then
        let reaction := callback.kind.event conn frame.state events
        if reaction.posted then
          let posted := some { frame with state := reaction.state.post }
          let later := execute reaction.conn (Function.update threads callback.thread posted)
            reaction.events rest
          { later with list := callback.stopped :: later.list }
        else
          let later := execute conn threads events rest
          { later with list := callback :: later.list }
      else
        let later := execute conn threads events rest
        { later with list := callback :: later.list }
    | none =>
      let later := execute conn threads events rest
      { later with list := callback :: later.list }

/-- The generic state updates of `usrsock_event`. -/
def Conn.update (conn : Conn m) (events : Events) : Conn m :=
  let conn :=
    if events.reqComplete ∧ conn.state = .connecting then
      { conn with
        state := .ready
        connected := if conn.resp.result = 0 then true else conn.connected }
    else conn
  let conn := if events.abort then { conn with state := .aborted } else conn
  let conn :=
    if events.remoteClosed then
      { conn with
        flags := { conn.flags with
          sendtoReady := false, recvfromAvail := false, remoteClosed := true } }
    else conn
  if (conn.state = .ready ∨ conn.state = .connecting) ∧ conn.flags.remoteClosed = false then
    { conn with
      flags := { conn.flags with
        sendtoReady := conn.flags.sendtoReady || events.sendtoReady
        recvfromAvail := conn.flags.recvfromAvail || events.recvfromAvail } }
  else conn

def Conn.eventsFor (conn : Conn m) (events : Events) : Events :=
  if events.reqComplete ∧ conn.state = .connecting then { events with connectResp := true }
  else events

def Frame.erased (frame : Frame n) : Frame n := { frame with state := ⟨0, 0, 0, 0⟩ }

theorem execute_erased (conn : Conn m) (threads : Fin m → Option (Frame n)) (events : Events)
    (list : List (Callback m)) (t : Fin m) :
    ((execute conn threads events list).threads t).map Frame.erased =
      (threads t).map Frame.erased := by
  induction list generalizing conn threads events with
  | nil => rfl
  | cons callback rest ih =>
    rw [execute]
    split
    · next frame found =>
      split
      · dsimp only
        split
        · simp only [ih]
          by_cases same : t = callback.thread
          · subst same
            simp [found, Frame.erased]
          · rw [Function.update_of_ne same]
        · exact ih conn threads events
      · exact ih conn threads events
    · exact ih conn threads events

namespace System

def usrsockEvent (sys : System n m) (i : Fin n) (events : Events) : System n m :=
  if events = {} then sys
  else
    let conn := sys.conns i
    let delivery := execute (conn.update events) sys.threads (conn.eventsFor events) conn.list
    { sys.setConn i { delivery.conn with list := delivery.list } with
      threads := delivery.threads
      delivered := if events.reqComplete then sys.delivered ++ [i] else sys.delivered }

theorem usrsockEvent_frame (sys : System n m) (i : Fin n) (events : Events) :
    let after := sys.usrsockEvent i events
    after.dev = sys.dev ∧ after.active = sys.active ∧ after.free = sys.free ∧
      after.nextTag = sys.nextTag ∧ after.returns = sys.returns ∧
      (∀ j, j ≠ i → after.conns j = sys.conns j) ∧
      ∀ t, (after.threads t).map Frame.erased = (sys.threads t).map Frame.erased := by
  simp only [usrsockEvent]
  split
  · exact ⟨rfl, rfl, rfl, rfl, rfl, fun _ _ => rfl, fun _ => rfl⟩
  · refine ⟨rfl, rfl, rfl, rfl, rfl, ?_, ?_⟩
    · intro j other
      exact Function.update_of_ne other _ _
    · intro t
      exact execute_erased _ _ _ _ t

/-- `usrsock_event` with `USRSOCK_EVENT_REQ_COMPLETE`. -/
def completeRequest (sys : System n m) (i : Fin n) : System n m :=
  sys.usrsockEvent i { reqComplete := true }

/-- `usrsock_setup_request_callback`: without a free callback structure there is
none. -/
def setupRequestCallback (sys : System n m) (t : Fin m) (i : Fin n) (kind : Kind)
    (flags : Events) : Option (System n m) :=
  if sys.cbfree = 0 then none
  else
    let conn := sys.conns i
    some ({ sys with cbfree := sys.cbfree - 1 }.setConn i
      { conn with list := ⟨t, kind, flags, true⟩ :: conn.list })

/-- `usrsock_teardown_request_callback`. A thread has one callback at a time. -/
def teardownRequestCallback (sys : System n m) (t : Fin m) (i : Fin n) : System n m :=
  let conn := sys.conns i
  { sys with cbfree := sys.cbfree + 1 }.setConn i
    { conn with list := conn.list.filter (fun callback => callback.thread != t) }

end System

end Thingsee.Usrsock
