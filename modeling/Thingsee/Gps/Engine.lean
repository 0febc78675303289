import Thingsee.Gps.States

/-!
Owns how the GPS state machine is run (ubgps_internal.c, ubgps_poll.c): a call of
`ubgps_sm_process` makes one pass through the handlers, and the requests that callbacks make in it
are deferred to the end of the outermost call.

What a pass meets is given: the outcomes, and the requests in the order of the calls. A pass is
taken whole; that callbacks make their requests at different points of it makes no difference,
since a deferred request only goes to the queue. The call of `ubgps_sm_process` for the status of
aiding data lies within a pass: it finds `in_sm_process` counted and leaves the queue alone.
-/

namespace Thingsee.Gps

/-- Requests that callbacks make one after another. There is memory for the queued event, and for
its timer; `nested` are the requests of callbacks that hear of the new timer. -/
inductive Asked where
  | none
  | ask (request : Request) (allocated timer : Bool) (nested rest : Asked)

/-- What a pass through the handlers meets. -/
structure Turn where
  out : Outcomes
  asked : Asked

/-- The `cb_priv` of a timer for deferred requests. -/
inductive TimerPriv where
  | null
  | gps

/-- The state of `struct ubgps_s` around the state machine, where the queue of `gps` is not used:
a deferred request has the number of requests that were deferred before. `turns` are the passes to
come. For the statements: how many requests were deferred, the ones that were processed, and the
`cb_priv` of the timers for deferred requests that ran out. -/
structure Engine where
  gps : Module
  inSmProcess : Nat
  inQueueProcess : Bool
  eventTargetStateQueue : List (Nat × Request)
  eventTimers : List TimerPriv
  turns : List Turn
  deferred : Nat
  processed : List Nat
  called : List TimerPriv

/-- `ubgps_request_state` while `in_sm_process` is counted: `ubgps_queue_state_change`, for one
request after another. -/
def Engine.queueStateChange : Asked → Engine → Engine
  | .none, engine => engine
  | .ask request allocated timer nested rest, engine =>
    if allocated && timer then
      let heard := queueStateChange nested
        { engine with
          eventTimers := engine.eventTimers ++ [.null]
          deferred := engine.deferred + 1 }
      queueStateChange rest
        { heard with
          eventTargetStateQueue :=
            heard.eventTargetStateQueue ++ [(engine.deferred, request)] }
    else queueStateChange rest engine

def Engine.pass (turn : Turn) (event : SmEvent) (engine : Engine) : Engine :=
  { engine with gps := smProcess turn.out event engine.gps }.queueStateChange turn.asked

def Engine.remfirst (serial : Nat) (rest : List (Nat × Request)) (engine : Engine) : Engine :=
  { engine with
    eventTargetStateQueue := rest
    processed := engine.processed ++ [serial]
    gps := { engine.gps with targetStatePending := true } }

mutual

def Engine.smProcess : Nat → SmEvent → Engine → Option Engine
  | 0, _, _ => none
  | fuel + 1, event, engine =>
    (Engine.processStateChangeQueue fuel engine).bind fun engine =>
      match engine.turns with
      | [] => none
      | turn :: turns =>
        let entered := { engine with turns, inSmProcess := engine.inSmProcess + 1 }
        let passed := entered.pass turn event
        Engine.processStateChangeQueue fuel
          { passed with inSmProcess := passed.inSmProcess - 1 }

def Engine.processStateChangeQueue : Nat → Engine → Option Engine
  | 0, _ => none
  | fuel + 1, engine =>
    if engine.inQueueProcess then some engine
    else if 0 < engine.inSmProcess then some engine
    else
      (Engine.processPending fuel { engine with inQueueProcess := true }).map fun engine =>
        { engine with inQueueProcess := false }

/-- The loop of `ubgps_process_state_change_queue`. -/
def Engine.processPending : Nat → Engine → Option Engine
  | 0, _ => none
  | fuel + 1, engine =>
    match engine.eventTargetStateQueue with
    | [] => some engine
    | (serial, request) :: rest =>
      (Engine.smProcess fuel (.targetState request) (engine.remfirst serial rest)).bind
        (Engine.processPending fuel)

end

/-- `ubgps_process_event_timer`. There is no module at `NULL`. -/
def Engine.processEventTimer (fuel : Nat) (priv : TimerPriv) (engine : Engine) : Option Engine :=
  let engine := { engine with called := engine.called ++ [priv] }
  match priv with
  | .null => some engine
  | .gps => engine.processStateChangeQueue fuel

/-- What calls `ubgps_sm_process` from outside: `ubgps_request_state`, a timer of the state
machine, and the messages of the receiver. -/
inductive Cause where
  | requestState (request : Request)
  | timeout (timerId : TimerId)
  | ubxStatus (msg : CfgMessage) (status : UbxStatus)
  | ubxMessage (msg : UbxMessage)

/-- The event of a cause, and the module that it meets. A timer that runs out is removed. -/
def Cause.enter (gps : Module) : Cause → Option (SmEvent × Module)
  | .requestState request => some (.targetState request, { gps with targetStatePending := true })
  | .timeout timerId =>
    if ⟨timerId, .timeout⟩ ∈ gps.timers then
      some (.timeout timerId, { gps with timers := gps.timers.erase ⟨timerId, .timeout⟩ })
    else none
  | .ubxStatus msg status => some (.ubxStatus msg status, gps)
  | .ubxMessage msg => some (.ubxMessage msg, gps)

/-- An outermost call, with the passes that it takes. Otherwise a timer of a deferred request runs
out. -/
inductive Call where
  | process (cause : Cause) (turns : List Turn)
  | eventTimer (turns : List Turn)

def fuelFor (turns : List Turn) : Nat := turns.length + 5

/-- The engine after a call, if it returns within its passes. -/
def Engine.perform (engine : Engine) : Call → Option Engine
  | .process cause turns =>
    match cause.enter engine.gps with
    | none => some engine
    | some (event, gps) => Engine.smProcess (fuelFor turns) event { engine with gps, turns }
  | .eventTimer turns =>
    match engine.eventTimers with
    | [] => some engine
    | priv :: rest =>
      { engine with eventTimers := rest, turns }.processEventTimer (fuelFor turns) priv

/-- A call, unless an earlier one has not returned. -/
def Engine.step (engine : Option Engine) (call : Call) : Option Engine :=
  engine.bind fun engine => engine.perform call

/-- The engine after `ubgps_initialize`. -/
def Engine.initial : Engine where
  gps := Module.initial
  inSmProcess := 0
  inQueueProcess := false
  eventTargetStateQueue := []
  eventTimers := []
  turns := []
  deferred := 0
  processed := []
  called := []

variable {engine : Engine}

def Asked.count : Asked → Nat
  | .none => 0
  | .ask _ allocated timer nested rest =>
    if allocated && timer then nested.count + 1 + rest.count else rest.count

/-- The deferred requests as they come into the queue, numbered from `serial`. -/
def Asked.queued (serial : Nat) : Asked → List (Nat × Request)
  | .none => []
  | .ask request allocated timer nested rest =>
    if allocated && timer then
      nested.queued (serial + 1) ++ (serial, request) :: rest.queued (serial + 1 + nested.count)
    else rest.queued serial

theorem Engine.queueStateChange_eq (asked : Asked) (engine : Engine) :
    engine.queueStateChange asked =
      { engine with
        eventTargetStateQueue := engine.eventTargetStateQueue ++ asked.queued engine.deferred
        eventTimers := engine.eventTimers ++ List.replicate asked.count .null
        deferred := engine.deferred + asked.count } := by
  induction asked generalizing engine with
  | none =>
    show engine = _
    simp [Asked.queued, Asked.count]
  | ask request allocated timer nested rest nestedHypothesis restHypothesis =>
    rw [Engine.queueStateChange, Asked.queued, Asked.count]
    split
    case isFalse => exact restHypothesis engine
    case isTrue =>
      rw [nestedHypothesis, restHypothesis]
      have timers (before : List TimerPriv) :
          before ++ [.null] ++ List.replicate nested.count .null ++
            List.replicate rest.count .null =
              before ++ List.replicate (nested.count + 1 + rest.count) .null := by
        rw [List.append_assoc, List.append_assoc, List.replicate_append_replicate,
          show nested.count + 1 + rest.count = nested.count + rest.count + 1 by omega,
          List.replicate_succ]
        rfl
      rw [timers, show engine.deferred + (nested.count + 1 + rest.count) =
        engine.deferred + 1 + nested.count + rest.count by omega]
      simp only [List.append_assoc, List.singleton_append]

/-- What an outermost call comes to: passes, until no request is deferred any more. -/
def Engine.passes : List Turn → SmEvent → Engine → Option Engine
  | [], _, _ => none
  | turn :: turns, event, engine =>
    let passed := engine.pass turn event
    match passed.eventTargetStateQueue with
    | [] => some { passed with turns }
    | (serial, request) :: rest =>
      Engine.passes turns (.targetState request) (passed.remfirst serial rest)

/-- An engine outside of `ubgps_sm_process`. -/
structure Engine.Idle (engine : Engine) : Prop where
  outside : engine.inSmProcess = 0
  quiet : engine.inQueueProcess = false
  empty : engine.eventTargetStateQueue = []

theorem Engine.pass_eq (turn : Turn) (event : SmEvent) (engine : Engine) :
    engine.pass turn event =
      { engine with
        gps := Gps.smProcess turn.out event engine.gps
        eventTargetStateQueue :=
          engine.eventTargetStateQueue ++ turn.asked.queued engine.deferred
        eventTimers := engine.eventTimers ++ List.replicate turn.asked.count .null
        deferred := engine.deferred + turn.asked.count } := by
  unfold Engine.pass
  rw [Engine.queueStateChange_eq]

variable (fuel more : Nat) (turns : List Turn)

theorem Engine.processStateChangeQueue_busy
    (busy : engine.inQueueProcess = true ∨ 0 < engine.inSmProcess) :
    engine.processStateChangeQueue (fuel + 1) = some engine := by
  unfold Engine.processStateChangeQueue
  by_cases processing : engine.inQueueProcess = true
  · rw [if_pos processing]
  · rw [if_neg processing, if_pos (busy.resolve_left processing)]

theorem Engine.smProcess_busy (event : SmEvent)
    (busy : engine.inQueueProcess = true ∨ 0 < engine.inSmProcess) :
    engine.smProcess (fuel + 2) event =
      match engine.turns with
      | [] => none
      | turn :: turns => some ({ engine with turns }.pass turn event) := by
  rw [Engine.smProcess, Engine.processStateChangeQueue_busy fuel busy, Option.bind_some]
  split
  case h_1 next => rfl
  case h_2 turn turns next =>
    dsimp only
    rw [Engine.pass_eq, Engine.pass_eq]
    rw [Nat.add_sub_cancel]
    exact Engine.processStateChangeQueue_busy fuel busy

theorem Engine.processPending_eq (engine : Engine) :
    Engine.processPending (more + turns.length + 3)
        { engine with turns, inQueueProcess := true } =
      match engine.eventTargetStateQueue with
      | [] => some { engine with turns, inQueueProcess := true }
      | (serial, request) :: rest =>
        ((engine.remfirst serial rest).passes turns (.targetState request)).map fun engine =>
          { engine with inQueueProcess := true } := by
  induction turns generalizing engine with
  | nil =>
    rw [Engine.processPending]
    dsimp only
    split
    case h_1 queue => rfl
    case h_2 serial request rest queue =>
      refine (congrArg (Option.bind · _)
        (Engine.smProcess_busy more (.targetState request) (.inl rfl))).trans ?_
      rfl
  | cons turn turns ih =>
    rw [List.length_cons, Engine.processPending]
    dsimp only
    split
    case h_1 queue => rfl
    case h_2 serial request rest queue =>
      have flagged : ({ engine with turns, inQueueProcess := true }.remfirst serial rest).pass
          turn (.targetState request) =
            { (engine.remfirst serial rest).pass turn (.targetState request) with
              turns, inQueueProcess := true } := by
        rw [Engine.pass_eq, Engine.pass_eq]
        rfl
      refine (congrArg (Option.bind · _) (Engine.smProcess_busy (more + turns.length + 1)
        (.targetState request) (.inl rfl))).trans ?_
      refine (congrArg (Engine.processPending (more + turns.length + 3)) flagged).trans ?_
      rw [ih, Engine.passes]
      split
      case h_1 => rfl
      case h_2 => rfl

theorem Engine.passes_ends {turns : List Turn} {event : SmEvent} {after : Engine}
    (passed : engine.passes turns event = some after) :
    after.inSmProcess = engine.inSmProcess ∧ after.inQueueProcess = engine.inQueueProcess ∧
      after.eventTargetStateQueue = [] ∧ after.called = engine.called := by
  induction turns generalizing engine event with
  | nil => cases passed
  | cons turn turns ih =>
    have flags := Engine.pass_eq turn event engine
    rw [Engine.passes] at passed
    split at passed
    case h_1 queue =>
      cases passed
      rw [flags] at queue ⊢
      exact ⟨rfl, rfl, queue, rfl⟩
    case h_2 serial request rest queue =>
      have later := ih passed
      rw [flags] at later
      exact later

theorem Engine.processStateChangeQueue_eq (outside : engine.inSmProcess = 0)
    (quiet : engine.inQueueProcess = false) :
    Engine.processStateChangeQueue (more + turns.length + 4) { engine with turns } =
      match engine.eventTargetStateQueue with
      | [] => some { engine with turns }
      | (serial, request) :: rest =>
        (engine.remfirst serial rest).passes turns (.targetState request) := by
  rw [Engine.processStateChangeQueue]
  rw [outside, quiet, if_neg Bool.false_ne_true, if_neg (Nat.lt_irrefl 0)]
  have pending := Engine.processPending_eq more turns engine
  rw [outside] at pending
  rw [pending]
  split
  case h_1 queue => rw [Option.map_some, ← quiet]
  case h_2 serial request rest queue =>
    rw [Option.map_map]
    cases passed : (engine.remfirst serial rest).passes turns (.targetState request) with
    | none => rfl
    | some after =>
      have same : after.inQueueProcess = false := (Engine.passes_ends passed).2.1.trans quiet
      show some { after with inQueueProcess := false } = some after
      rw [← same]

/-- **Only the outermost call processes the queue.** It makes its own pass, and the passes of the
requests that are deferred by then. -/
theorem Engine.smProcess_eq (idle : engine.Idle) (event : SmEvent) (turns : List Turn) :
    Engine.smProcess (fuelFor turns) event { engine with turns } =
      engine.passes turns event := by
  have before := Engine.processStateChangeQueue_eq 0 turns idle.outside idle.quiet
  rw [Nat.zero_add] at before
  have next : Engine.processStateChangeQueue (turns.length + 4) { engine with turns } =
      some { engine with turns } := by
    rw [before]
    split
    case h_1 => rfl
    case h_2 serial request rest queue => cases idle.empty.symm.trans queue
  unfold fuelFor
  rw [Engine.smProcess, next, Option.bind_some]
  cases turns with
  | nil => rfl
  | cons turn turns =>
    let entered := { engine with turns, inSmProcess := engine.inSmProcess + 1 }.pass turn event
    -- The count goes up and down again.
    have flagged : { entered with inSmProcess := entered.inSmProcess - 1 } =
        { engine.pass turn event with turns } := by
      unfold entered
      rw [Engine.pass_eq, Engine.pass_eq]
      rfl
    have last := @Engine.processStateChangeQueue_eq (engine.pass turn event) 1 turns
      (by rw [Engine.pass_eq]; exact idle.outside) (by rw [Engine.pass_eq]; exact idle.quiet)
    rw [Nat.add_comm 1] at last
    exact (congrArg (Engine.processStateChangeQueue (turns.length + 1 + 4)) flagged).trans last

end Thingsee.Gps
