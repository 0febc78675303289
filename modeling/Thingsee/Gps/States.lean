import Mathlib.Data.List.Basic

/-!
Owns the state machine of the GPS module (ubgps_state.c, ubgps_internal.c): its states and
their handlers, requests for a target state, the target timer and the phases of the
initialization.

What comes from outside in a step is in `Outcomes`: whether a message can be sent, a
timer set or the serial port configured, and what the aiding data are. Power, the filter of
locations and the messages themselves are left out. The receiver of messages and the filter
set and remove timers of the module too, before a step or behind it: this is an event of its own.
-/

namespace Thingsee.Gps

/-- `gps_state_t`. -/
inductive GpsState where
  | powerOff
  | initialization
  | reinitialization
  | coldStart
  | searchingFix
  | fixAcquired
deriving DecidableEq

/-- `enum gps_init_phase_e`, without the phase of an external amplifier. -/
inductive InitPhase where
  | cfgPrt
  | cfgPrtBaud
  | receiverContinousMode
  | navSettings
  | sbasMode
  | navPvtRate
  | navigationRate
  | saveConfig
  | aidSetTime
  | aidAlpsrvEnable
  | pmMode
  | receiverMode
  | done
deriving DecidableEq

/-- The next phase. Behind the last one the loop of the source would not end, and here
the phase stays. -/
def InitPhase.next : InitPhase → InitPhase
  | .cfgPrt => .cfgPrtBaud
  | .cfgPrtBaud => .receiverContinousMode
  | .receiverContinousMode => .navSettings
  | .navSettings => .sbasMode
  | .sbasMode => .navPvtRate
  | .navPvtRate => .navigationRate
  | .navigationRate => .saveConfig
  | .saveConfig => .aidSetTime
  | .aidSetTime => .aidAlpsrvEnable
  | .aidAlpsrvEnable => .pmMode
  | .pmMode => .receiverMode
  | .receiverMode => .done
  | .done => .done

def InitPhase.left : InitPhase → Nat
  | .cfgPrt => 12
  | .cfgPrtBaud => 11
  | .receiverContinousMode => 10
  | .navSettings => 9
  | .sbasMode => 8
  | .navPvtRate => 7
  | .navigationRate => 6
  | .saveConfig => 5
  | .aidSetTime => 4
  | .aidAlpsrvEnable => 3
  | .pmMode => 2
  | .receiverMode => 1
  | .done => 0

/-- The identifier of a timer. -/
abbrev TimerId := UInt16

/-- The callback of a timer: `ubgps_timeout`, `ubx_timeout` or `ubgps_process_event_timer`. -/
inductive TimerCallback where
  | timeout
  | ubxTimeout
  | processEvent
deriving DecidableEq

/-- `struct gps_priv_timer_s`, without its time. -/
structure PrivTimer where
  id : TimerId
  callback : TimerCallback
deriving DecidableEq

/-- A request for a target state, with its timeout in seconds. -/
structure Request where
  state : GpsState
  timeout : Nat
deriving DecidableEq

/-- `GPS_EVENT_TARGET_STATE_...`. -/
inductive TargetEvent where
  | reached
  | notReached
  | timeout

/-- `struct gps_module_state_s`, the timers and the deferred requests. The last three
fields are a record for the statements: the request that was processed last, the events
that were published for a target state since then, and each request with the target
state behind its processing. -/
structure Module where
  currentState : GpsState
  newState : GpsState
  targetState : GpsState
  targetStatePending : Bool
  targetTimerId : Option TimerId
  initTimerId : Option TimerId
  aidTimerId : Option TimerId
  initPhase : InitPhase
  initCount : Nat
  initRetryDone : Bool
  isReinit : Bool
  reinitCold : Bool
  timers : List PrivTimer
  timerIdCnt : TimerId
  queue : List Request
  latest : Option Request
  published : List (TargetEvent × GpsState)
  processed : List (Request × GpsState)

/-- What happens outside of the state machine in a step. -/
structure Outcomes where
  /-- The message of a phase is sent. -/
  sends : InitPhase → Bool
  /-- The reset message is sent. -/
  sendsReset : Bool
  /-- A target, initialization or aiding timer can be set. -/
  targetTimer : Bool
  initTimer : Bool
  aidTimer : Bool
  /-- The serial port can be configured. -/
  ioctl : Bool
  /-- There are aiding data, they can be used, and they have changed. -/
  assist : Bool
  alpsrv : Bool
  newAlpFile : Bool

/-- `__ubgps_set_timer`. The counter wraps around, and no one looks whether another timer has the
identifier. -/
def Module.setTimer (callback : TimerCallback) (gps : Module) : Module :=
  { gps with
    timers := gps.timers ++ [⟨gps.timerIdCnt + 1, callback⟩]
    timerIdCnt := gps.timerIdCnt + 1 }

/-- `__ubgps_remove_timer`, for an identifier that is not -1. -/
def Module.removeTimer (gps : Module) : Option TimerId → Module
  | none => gps
  | some id => { gps with timers := gps.timers.eraseP (·.id = id) }

def Module.setNewState (newState : GpsState) (gps : Module) : Module :=
  { gps with newState := newState }

def Module.reportTargetState (timeout : Bool) (gps : Module) : Module :=
  if gps.targetStatePending then
    let event :=
      if timeout then TargetEvent.timeout
      else if gps.currentState = gps.targetState then .reached
      else .notReached
    let gps := if timeout then gps else gps.removeTimer gps.targetTimerId
    { gps with targetTimerId := none, targetStatePending := false,
               published := gps.published ++ [(event, gps.targetState)] }
  else gps

def Module.setupTimeout (out : Outcomes) (timeout : Nat) (gps : Module) : Module :=
  let gps := { gps.removeTimer gps.targetTimerId with targetTimerId := none }
  if 0 < timeout then
    if out.targetTimer then
      { gps.setTimer .timeout with targetTimerId := some (gps.timerIdCnt + 1) }
    else gps
  else gps

/-- The initialization timer is set, or the module falls back to power off. -/
def Module.startInitTimer (out : Outcomes) (gps : Module) : Module :=
  if out.initTimer then { gps.setTimer .timeout with initTimerId := some (gps.timerIdCnt + 1) }
  else { gps with initTimerId := none }.setNewState .powerOff

def Module.startAidTimer (out : Outcomes) (gps : Module) : Module :=
  if out.aidTimer then { gps.setTimer .timeout with aidTimerId := some (gps.timerIdCnt + 1) }
  else { gps with aidTimerId := none }

inductive UbxStatus where
  | ack
  | nak
  | timeout
deriving DecidableEq

/-- The messages that the handlers tell apart. A position has a fix or not. -/
inductive UbxMessage where
  | navPvt (fix : Bool)
  | aidAlpsrv
  | aidAlp
  | other
deriving DecidableEq

/-- The configuration messages, `CFG-RST` apart. -/
inductive CfgMessage where
  | rst
  | initialization
  | other
deriving DecidableEq

/-- `struct sm_event_s`. -/
inductive SmEvent where
  | entry
  | exit
  | targetState (request : Request)
  | timeout (timerId : TimerId)
  | ubxStatus (msg : CfgMessage) (status : UbxStatus)
  | ubxMessage (msg : UbxMessage)
  | aidStatus

def smPoweroff (out : Outcomes) (event : SmEvent) (gps : Module) : Module :=
  match event with
  | .entry => { (gps.reportTargetState false).removeTimer gps.aidTimerId with aidTimerId := none }
  | .targetState target =>
    if target.state ≠ .powerOff then
      ({ gps.setupTimeout out target.timeout with targetState := target.state }).setNewState
        .initialization
    else { gps with targetState := gps.currentState }.reportTargetState false
  | _ => gps

/-- The fix in `ubgps_handle_nav_pvt`. -/
def handleNavPvt (fix : Bool) (gps : Module) : Module :=
  if fix = false ∧ gps.currentState = .fixAcquired then gps.setNewState .searchingFix
  else if fix = true ∧ gps.currentState ≠ .fixAcquired then gps.setNewState .fixAcquired
  else gps

/-- `SM_EVENT_AID_STATUS` in `ubgps_sm_global`. -/
def handleAidStatus (out : Outcomes) (gps : Module) : Module :=
  if out.assist then
    let gps := (gps.removeTimer gps.aidTimerId).startAidTimer out
    if (gps.currentState = .searchingFix ∨ gps.currentState = .fixAcquired) ∧ out.newAlpFile then
      { gps with reinitCold := false }.setNewState .reinitialization
    else gps
  else gps

/-- `ubgps_sm_global`. `aidStatus` is the state machine on the event of a message with the
status of the aiding data. -/
def smGlobal (aidStatus : Module → Module) (out : Outcomes) (event : SmEvent) (gps : Module) :
    Module :=
  match event with
  | .entry =>
    if gps.currentState = gps.targetState then gps.reportTargetState false else gps
  | .targetState target =>
    if target.state ≠ gps.currentState then
      let gps := { gps.setupTimeout out target.timeout with targetState := target.state }
      if gps.targetState = .fixAcquired ∧ gps.currentState = .coldStart then
        gps.setNewState .initialization
      else if gps.targetState = .fixAcquired ∧ gps.currentState ≠ .fixAcquired then
        gps.setNewState .searchingFix
      else gps.setNewState gps.targetState
    else { gps with targetState := gps.currentState }.reportTargetState false
  | .timeout timerId =>
    if some timerId = gps.targetTimerId then gps.reportTargetState true else gps
  | .ubxMessage (.navPvt fix) => handleNavPvt fix gps
  | .ubxMessage .aidAlp => aidStatus gps
  | .aidStatus => handleAidStatus out gps
  | _ => gps

/-- The phase `INIT_PHASE_DONE`. -/
def initDone (gps : Module) : Module :=
  let gps :=
    if gps.targetState = .initialization then
      (gps.reportTargetState false).setNewState .searchingFix
    else if gps.targetState = .fixAcquired then gps.setNewState .searchingFix
    else gps.setNewState gps.targetState
  { gps with initRetryDone := false }

def sendAndWait (out : Outcomes) (gps : Module) : Module :=
  if out.sends gps.initPhase then gps else gps.startInitTimer out

theorem InitPhase.left_next {phase : InitPhase} (notDone : phase ≠ .done) :
    phase.next.left < phase.left := by
  cases phase with
  | done => exact absurd rfl notDone
  | _ => decide

/-- The loop of `ubgps_init_process_phase`. -/
def runPhases (out : Outcomes) (gps : Module) : Module :=
  match _ : gps.initPhase with
  | .cfgPrt =>
    if out.sends .cfgPrt then runPhases out { gps with initPhase := .cfgPrtBaud }
    else gps.startInitTimer out
  | .navSettings =>
    if gps.targetStatePending ∧ gps.targetState = .coldStart then
      runPhases out { gps with initPhase := .done }
    else sendAndWait out gps
  | .aidSetTime =>
    if out.sends .aidSetTime then runPhases out { gps with initPhase := .aidAlpsrvEnable }
    else gps.startInitTimer out
  | .aidAlpsrvEnable =>
    if out.assist ∧ out.alpsrv then sendAndWait out gps
    else runPhases out { gps with initPhase := .pmMode }
  | .done => initDone gps
  | _ => sendAndWait out gps
termination_by gps.initPhase.left
decreasing_by all_goals simp [*, InitPhase.left]

def initProcessPhase (out : Outcomes) (next : Bool) (gps : Module) : Module :=
  let gps := if next then { gps with initCount := 0, initPhase := gps.initPhase.next } else gps
  let often := gps.initCount = 6
  let gps := { gps with initCount := gps.initCount + 1 }
  if often then
    if gps.initRetryDone then gps.setNewState .powerOff
    else
      let gps := { gps with initRetryDone := true, initPhase := .cfgPrt }
      if out.ioctl then runPhases out gps else gps.setNewState .powerOff
  else runPhases out gps

def smInitialization (out : Outcomes) (event : SmEvent) (gps : Module) : Module :=
  match event with
  | .entry =>
    let gps := gps.startInitTimer out
    if out.initTimer then
      { gps with
        initPhase := .cfgPrt,
        initCount := if gps.isReinit then 6 else 0,
        initRetryDone := false, isReinit := false }
    else gps
  | .timeout timerId =>
    if some timerId = gps.targetTimerId then gps.reportTargetState true
    else if some timerId = gps.initTimerId then
      initProcessPhase out false { gps with initTimerId := none }
    else gps
  | .ubxStatus .initialization status =>
    if status ≠ .ack then initProcessPhase out false gps else initProcessPhase out true gps
  | .ubxMessage (.navPvt fix) => handleNavPvt fix gps
  | .targetState target =>
    if target.state ≠ .initialization then
      let gps := { gps.setupTimeout out target.timeout with targetState := target.state }
      if target.state = .powerOff then gps.setNewState .powerOff else gps
    else if gps.initPhase = .done then
      { gps with targetState := gps.currentState }.reportTargetState false
    else gps
  | .exit => { gps.removeTimer gps.initTimerId with initTimerId := none }
  | _ => gps

def smColdStart (aidStatus : Module → Module) (out : Outcomes) (event : SmEvent)
    (gps : Module) : Module :=
  match event with
  | .entry => if out.sendsReset then gps else gps.setNewState .powerOff
  | .ubxStatus .rst status =>
    if status ≠ .ack then gps.setNewState .powerOff
    else
      let gps := gps.reportTargetState false
      if gps.targetStatePending then gps
      else { gps with targetState := .fixAcquired }.setNewState .initialization
  | .ubxStatus _ _ => gps
  | _ => smGlobal aidStatus out event gps

def smReinitialization (out : Outcomes) (event : SmEvent) (gps : Module) : Module :=
  match event with
  | .entry => if out.sendsReset then gps else gps.setNewState .powerOff
  | .ubxStatus .rst status =>
    if status ≠ .ack then gps.setNewState .powerOff
    else { gps with isReinit := true, reinitCold := false }.setNewState .initialization
  | _ => gps

/-- `ubgps_state_machines`. -/
def stateMachine (aidStatus : Module → Module) (out : Outcomes) (state : GpsState)
    (event : SmEvent) (gps : Module) : Module :=
  match state with
  | .powerOff => smPoweroff out event gps
  | .initialization => smInitialization out event gps
  | .reinitialization => smReinitialization out event gps
  | .coldStart => smColdStart aidStatus out event gps
  | .searchingFix => smGlobal aidStatus out event gps
  | .fixAcquired => smGlobal aidStatus out event gps

/-- The change of state in `ubgps_sm_process`. -/
def changeState (aidStatus : Module → Module) (out : Outcomes) (gps : Module) : Module :=
  if gps.newState ≠ gps.currentState then
    let gps := stateMachine aidStatus out gps.currentState .exit gps
    let gps := { gps with currentState := gps.newState }
    stateMachine aidStatus out gps.currentState .entry gps
  else gps

/-- `ubgps_sm_process`, where `aidStatus` is the call of itself that `ubgps_handle_aid_alp`
makes. -/
def processWith (aidStatus : Module → Module) (out : Outcomes) (event : SmEvent)
    (gps : Module) : Module :=
  changeState aidStatus out (stateMachine aidStatus out gps.currentState event gps)

def smProcess (out : Outcomes) (event : SmEvent) (gps : Module) : Module :=
  processWith (processWith id out .aidStatus) out event gps

def Module.process (out : Outcomes) (request : Request) (gps : Module) : Module :=
  let gps := smProcess out (.targetState request)
    { gps with targetStatePending := true, latest := some request, published := [] }
  { gps with processed := gps.processed ++ [(request, gps.targetState)] }

/-- What others do with the timers of the module: the receiver of messages (`ubx.c`) and the
filter of locations set them and remove them by their identifiers, and those of the receiver run
out. -/
inductive TimerChange where
  | set (callback : TimerCallback)
  | remove (timerId : TimerId)
  | expire (timerId : TimerId)

def Module.changeTimers (gps : Module) : TimerChange → Module
  | .set callback => gps.setTimer callback
  | .remove timerId => gps.removeTimer (some timerId)
  | .expire timerId => { gps with timers := gps.timers.erase ⟨timerId, .ubxTimeout⟩ }

/-- What can happen: `ubgps_request_state` is called, the first deferred request is
processed, a timer with the callback `ubgps_timeout` or the one of a deferred request runs out, a
message was acknowledged or not, one is received, or another timer changes. -/
inductive GpsEvent where
  | request (request : Request)
  | deferred
  | timeout (timerId : TimerId)
  | eventTimeout (timerId : TimerId)
  | ubxStatus (msg : CfgMessage) (status : UbxStatus)
  | ubxMessage (msg : UbxMessage)
  | timers (change : TimerChange)

/-- A step, with the requests that callbacks make in it: they are deferred. -/
structure GpsStep where
  event : GpsEvent
  out : Outcomes
  asked : List Request

/-- A timer with the callback `ubgps_timeout` runs out. -/
def Module.timeout (out : Outcomes) (timerId : TimerId) (gps : Module) : Module :=
  if ⟨timerId, .timeout⟩ ∈ gps.timers then
    smProcess out (.timeout timerId)
      { gps with timers := gps.timers.erase ⟨timerId, .timeout⟩ }
  else gps

/-- `ubgps_process_event_timer`. Its timer was set without a GPS object, and what the call with
`NULL` does is not known: only the timer is gone here. -/
def Module.processEventTimer (timerId : TimerId) (gps : Module) : Module :=
  { gps with timers := gps.timers.erase ⟨timerId, .processEvent⟩ }

/-- Deferred requests come first: they are processed before the next event. -/
def Module.handle (gps : Module) (step : GpsStep) : Module :=
  match step.event, gps.queue with
  | .timers change, _ => gps.changeTimers change
  | .eventTimeout timerId, _ => gps.processEventTimer timerId
  | .deferred, [] => gps
  | .deferred, request :: rest => { gps with queue := rest }.process step.out request
  | _, _ :: _ => gps
  | .request request, [] => gps.process step.out request
  | .timeout timerId, [] => gps.timeout step.out timerId
  | .ubxStatus msg status, [] => smProcess step.out (.ubxStatus msg status) gps
  | .ubxMessage msg, [] => smProcess step.out (.ubxMessage msg) gps

/-- `ubgps_queue_state_change`, with memory for the request and for its timer. -/
def Module.queueStateChange (gps : Module) (request : Request) : Module :=
  { gps.setTimer .processEvent with queue := gps.queue ++ [request] }

def Module.step (gps : Module) (step : GpsStep) : Module :=
  step.asked.foldl Module.queueStateChange (gps.handle step)

/-- The module after `ubgps_initialize`. -/
def Module.initial : Module :=
  { currentState := .powerOff, newState := .powerOff, targetState := .powerOff,
    targetStatePending := false, targetTimerId := none, initTimerId := none, aidTimerId := none,
    initPhase := .cfgPrt, initCount := 0, initRetryDone := false, isReinit := false,
    reinitCold := false, timers := [], timerIdCnt := 0, queue := [], latest := none,
    published := [], processed := [] }

end Thingsee.Gps
