import Thingsee.Gps.TargetRequests

/-!
Owns what the phases of the initialization leave behind: which messages they sent and which
acknowledgments came. The receiver acknowledges messages late, twice or not at all, and
`ubx_callback` hands every acknowledgment on, whether it is the one that is waited for or not. No
phase is passed without its answer as long as the receiver acknowledges what was sent last, and
only while an answer is waited for.

Whether a message can be sent is given, as it is to the handlers, and so every order of
acknowledgments, timeouts and sends is a run.
-/

namespace Thingsee.Gps

open Support Gps.Module List

/-- What happens while the module is in a phase. Messages have numbers. -/
inductive PhaseEvent where
  | sent (message : Nat)
  | acked (message : Nat)
deriving DecidableEq

/-- A phase that was left. `skipped` tells that the phase itself decided to send nothing. -/
structure Visit where
  phase : InitPhase
  events : List PhaseEvent
  skipped : Bool
  next : InitPhase
deriving DecidableEq

/-- The phases that were left, and what happened in the current one. `last` is the phase that sent
the last message, and from `first` on it sent all messages. -/
structure Log where
  past : List Visit
  phase : InitPhase
  events : List PhaseEvent
  sent : Nat
  last : InitPhase
  first : Nat

def Log.send (log : Log) : Log :=
  { log with
    events := log.events ++ [.sent log.sent]
    sent := log.sent + 1
    last := log.phase
    first := if log.last = log.phase then log.first else log.sent }

def Log.acked (message : Option Nat) (log : Log) : Log :=
  match message with
  | none => log
  | some message => { log with events := log.events ++ [.acked message] }

def Log.enter (skipped : Bool) (next : InitPhase) (log : Log) : Log :=
  { log with
    past := log.past ++ [⟨log.phase, log.events, skipped, next⟩]
    phase := next
    events := [] }

/-- What a phase that sends a message and waits for the response records. -/
def logSendAndWait (out : Outcomes) (gps : Module) (log : Log) : Log :=
  if out.sends gps.initPhase then log.send else log

/-- What `runPhases` records. -/
def logPhases (out : Outcomes) (gps : Module) (log : Log) : Log :=
  match _ : gps.initPhase with
  | .cfgPrt =>
    if out.sends .cfgPrt then
      logPhases out { gps with initPhase := .cfgPrtBaud } (log.send.enter false .cfgPrtBaud)
    else log
  | .navSettings =>
    if gps.targetStatePending ∧ gps.targetState = .coldStart then
      logPhases out { gps with initPhase := .done } (log.enter true .done)
    else logSendAndWait out gps log
  | .aidSetTime =>
    if out.sends .aidSetTime then
      logPhases out { gps with initPhase := .aidAlpsrvEnable }
        (log.send.enter false .aidAlpsrvEnable)
    else log
  | .aidAlpsrvEnable =>
    if out.assist ∧ out.alpsrv then logSendAndWait out gps log
    else logPhases out { gps with initPhase := .pmMode } (log.enter true .pmMode)
  | .done => log
  | _ => logSendAndWait out gps log
termination_by gps.initPhase.left
decreasing_by all_goals simp [*, InitPhase.left]

/-- What `initProcessPhase` records. -/
def logProcessPhase (out : Outcomes) (next : Bool) (gps : Module) (log : Log) : Log :=
  let moved := if next then log.enter false gps.initPhase.next else log
  let gps := if next then { gps with initCount := 0, initPhase := gps.initPhase.next } else gps
  let often := gps.initCount = 6
  let gps := { gps with initCount := gps.initCount + 1 }
  if often then
    if gps.initRetryDone then moved
    else
      let gps := { gps with initRetryDone := true, initPhase := .cfgPrt }
      let again := moved.enter false .cfgPrt
      if out.ioctl then logPhases out gps again else again
  else logPhases out gps moved

/-- What the handlers of an event record. `aidLog` is the record of the event of a message with
the status of the aiding data. -/
def logHandlers (aidLog : Module → Log → Log) (out : Outcomes) (state : GpsState)
    (event : SmEvent) (gps : Module) (log : Log) : Log :=
  match state, event with
  | .initialization, .timeout timerId =>
    if some timerId = gps.targetTimerId then log
    else if some timerId = gps.initTimerId then
      logProcessPhase out false { gps with initTimerId := none } log
    else log
  | .initialization, .ubxStatus .initialization status =>
    logProcessPhase out (decide (status = .ack)) gps log
  | .coldStart, .ubxMessage .aidAlp => aidLog gps log
  | .searchingFix, .ubxMessage .aidAlp => aidLog gps log
  | .fixAcquired, .ubxMessage .aidAlp => aidLog gps log
  | _, _ => log

/-- What a change of state records: the initialization begins with its first phase. -/
def logChange (out : Outcomes) (gps : Module) (log : Log) : Log :=
  if gps.newState ≠ gps.currentState ∧ gps.newState = .initialization ∧ out.initTimer then
    log.enter false .cfgPrt
  else log

/-- What `processWith` records. -/
def logWith (aidStatus : Module → Module) (aidLog : Module → Log → Log) (out : Outcomes)
    (event : SmEvent) (gps : Module) (log : Log) : Log :=
  logChange out (stateMachine aidStatus out gps.currentState event gps)
    (logHandlers aidLog out gps.currentState event gps log)

/-- What `smProcess` records. -/
def logProcess (out : Outcomes) (event : SmEvent) (gps : Module) (log : Log) : Log :=
  logWith (processWith id out .aidStatus) (logWith id (fun _ log => log) out .aidStatus) out event
    gps log

/-- A request is processed, a timer runs out or is changed by others, or a message comes from the
receiver. An acknowledgment answers a message, if it answers one. -/
inductive ReceiverEvent where
  | request (request : Request)
  | timeout (timerId : TimerId)
  | timers (change : TimerChange)
  | status (msg : CfgMessage) (status : UbxStatus) (message : Option Nat)
  | message (msg : UbxMessage)

structure ReceiverStep where
  event : ReceiverEvent
  out : Outcomes

/-- The module and its record. -/
structure Setup where
  gps : Module
  log : Log

def Setup.process (out : Outcomes) (event : SmEvent) (setup : Setup) : Setup :=
  ⟨smProcess out event setup.gps, logProcess out event setup.gps setup.log⟩

def Setup.hear (message : Option Nat) (setup : Setup) : Setup :=
  { setup with log := setup.log.acked message }

def Setup.step (setup : Setup) (step : ReceiverStep) : Setup :=
  match step.event with
  | .request request =>
    { setup with gps := { setup.gps with targetStatePending := true } }.process step.out
      (.targetState request)
  | .timeout timerId =>
    if ⟨timerId, .timeout⟩ ∈ setup.gps.timers then
      let timers := setup.gps.timers.erase ⟨timerId, .timeout⟩
      { setup with gps := { setup.gps with timers } }.process step.out (.timeout timerId)
    else setup
  | .timers change => { setup with gps := setup.gps.changeTimers change }
  | .status msg status message =>
    (setup.hear (if status = .ack then message else none)).process step.out (.ubxStatus msg status)
  | .message msg => setup.process step.out (.ubxMessage msg)

/-- The module after `ubgps_initialize`. -/
def Setup.initial : Setup := ⟨Module.initial, ⟨[], .cfgPrt, [], 0, .cfgPrt, 0⟩⟩

/-- A phase that sends a configuration message and waits for the response. -/
def InitPhase.waits : InitPhase → Bool
  | .cfgPrt | .aidSetTime | .done => false
  | .cfgPrtBaud | .receiverContinousMode | .navSettings | .sbasMode | .navPvtRate | .navigationRate
  | .saveConfig | .aidAlpsrvEnable | .pmMode | .receiverMode => true

/-- A message was sent, and then it was acknowledged. -/
def Answered (events : List PhaseEvent) : Prop :=
  ∃ message before after, events = before ++ .sent message :: after ∧ .acked message ∈ after

/-- Whoever passes to a later phase has the answer that the phase waits for. -/
def Visit.Complete (visit : Visit) : Prop :=
  visit.phase.waits = true → visit.next.left < visit.phase.left → Answered visit.events

/-- No phase that sends its message is passed without its answer. The rest of the initialization
for a cold start is not sent, and neither are the aiding data when there are none. -/
def Log.SkipsNothing (log : Log) : Prop :=
  ∀ visit ∈ log.past, visit.skipped = false → visit.Complete

/-- What the receiver acknowledges in the initialization was sent last, perhaps several times in a
row, and its answer is waited for: the module is not about to fall back, and no retry is pending. -/
def Setup.Prompt (setup : Setup) (step : ReceiverStep) : Prop :=
  match step.event with
  | .status .initialization .ack message =>
    setup.gps.currentState = .initialization →
      setup.gps.newState = .initialization ∧ setup.gps.initTimerId = none ∧
        ∃ number, message = some number ∧ setup.log.first ≤ number ∧ number < setup.log.sent
  | _ => True

variable {out : Outcomes} {gps : Module} {log : Log} {event : SmEvent}

/-! ## What the other states leave alone -/

/-- What only the initialization changes. -/
def Module.place (gps : Module) : GpsState × InitPhase × Option TimerId :=
  (gps.currentState, gps.initPhase, gps.initTimerId)

theorem Module.removeTimer_place (gps : Module) (timerId : Option TimerId) :
    (gps.removeTimer timerId).place = gps.place := by
  cases timerId <;> rfl

theorem Module.reportTargetState_place (timeout : Bool) (gps : Module) :
    (gps.reportTargetState timeout).place = gps.place := by
  unfold Module.reportTargetState
  split
  · cases timeout
    · exact removeTimer_place gps gps.targetTimerId
    · rfl
  · rfl

theorem Module.setupTimeout_place (out : Outcomes) (timeout : Nat) (gps : Module) :
    (gps.setupTimeout out timeout).place = gps.place := by
  unfold Module.setupTimeout
  split
  · split <;> exact removeTimer_place gps gps.targetTimerId
  · exact removeTimer_place gps gps.targetTimerId

theorem smPoweroff_place (out : Outcomes) (event : SmEvent) (gps : Module) :
    (smPoweroff out event gps).place = gps.place := by
  unfold smPoweroff
  split
  · exact (removeTimer_place _ gps.aidTimerId).trans
      (reportTargetState_place false gps)
  · split
    · exact setupTimeout_place out _ gps
    · exact reportTargetState_place false { gps with targetState := gps.currentState }
  · rfl

theorem handleNavPvt_place (fix : Bool) (gps : Module) :
    (handleNavPvt fix gps).place = gps.place := by
  unfold handleNavPvt
  split
  · rfl
  split <;> rfl

theorem handleAidStatus_place (out : Outcomes) (gps : Module) :
    (handleAidStatus out gps).place = gps.place := by
  have started : ((gps.removeTimer gps.aidTimerId).startAidTimer out).place = gps.place := by
    unfold Module.startAidTimer
    split <;> exact removeTimer_place gps gps.aidTimerId
  unfold handleAidStatus
  split
  · dsimp only
    split <;> exact started
  · rfl

variable {aidStatus : Module → Module} {state : GpsState}

theorem smGlobal_place (out : Outcomes) (other : event ≠ .ubxMessage .aidAlp) (gps : Module) :
    (smGlobal aidStatus out event gps).place = gps.place := by
  unfold smGlobal
  split
  case h_1 =>
    split
    · exact reportTargetState_place false gps
    · rfl
  case h_2 target =>
    split
    · have sets : (gps.setupTimeout out target.timeout).place = gps.place :=
        setupTimeout_place out target.timeout gps
      dsimp only
      split
      · exact sets
      split <;> exact sets
    · exact reportTargetState_place false { gps with targetState := gps.currentState }
  case h_3 =>
    split
    · exact reportTargetState_place true gps
    · rfl
  case h_4 fix => exact handleNavPvt_place fix gps
  case h_5 => exact absurd rfl other
  case h_6 => exact handleAidStatus_place out gps
  case h_7 => rfl

theorem smColdStart_place (out : Outcomes) (other : event ≠ .ubxMessage .aidAlp) (gps : Module) :
    (smColdStart aidStatus out event gps).place = gps.place := by
  unfold smColdStart
  split
  · split <;> rfl
  · split
    · rfl
    · have reports : (gps.reportTargetState false).place = gps.place :=
        reportTargetState_place false gps
      dsimp only
      split <;> exact reports
  · rfl
  · exact smGlobal_place out other gps

theorem smReinitialization_place (out : Outcomes) (event : SmEvent) (gps : Module) :
    (smReinitialization out event gps).place = gps.place := by
  unfold smReinitialization
  split
  · split <;> rfl
  · split <;> rfl
  · rfl

theorem stateMachine_place (aidStatus : Module → Module) (out : Outcomes)
    (elsewhere : state ≠ .initialization)
    (other : event ≠ .ubxMessage .aidAlp) (gps : Module) :
    (stateMachine aidStatus out state event gps).place = gps.place := by
  cases state with
  | powerOff => exact smPoweroff_place out event gps
  | initialization => exact absurd rfl elsewhere
  | reinitialization => exact smReinitialization_place out event gps
  | coldStart => exact smColdStart_place out other gps
  | searchingFix | fixAcquired => exact smGlobal_place out other gps

theorem Module.initPhase_of_place {after : Module} (same : after.place = gps.place) :
    after.initPhase = gps.initPhase :=
  congrArg (fun place => place.2.1) same

theorem Module.currentState_of_place {after : Module} (same : after.place = gps.place) :
    after.currentState = gps.currentState :=
  congrArg Prod.fst same

/-! ## What is sent and left -/

/-- What was sent in a row was sent in the current phase, if the phase sent it: one that was left is
entered again only behind the first phase. -/
def Log.Rowed (log : Log) : Prop :=
  log.phase = .cfgPrt ∨ log.phase.left < log.last.left ∨
    log.last = log.phase ∧
      ∀ message, log.first ≤ message → message < log.sent → .sent message ∈ log.events

/-- A record follows the module, and nothing went wrong since `before`. -/
structure Tracks (before after : Log) (gps : Module) : Prop where
  phase : after.phase = gps.initPhase
  skips : before.SkipsNothing → after.SkipsNothing
  rowed : before.Rowed → after.Rowed

theorem Tracks.rfl' (same : log.phase = gps.initPhase) : Tracks log log gps := ⟨same, id, id⟩

theorem Tracks.trans {before middle after : Log} {first second : Module}
    (left : Tracks before middle first) (right : Tracks middle after second) :
    Tracks before after second :=
  ⟨right.phase, fun skips => right.skips (left.skips skips),
    fun rowed => right.rowed (left.rowed rowed)⟩

/-- Whoever waits for an answer has sent the message of the phase last. -/
def Rests (log : Log) (gps : Module) : Prop :=
  gps.newState = .initialization → gps.initTimerId = none →
    gps.initPhase.waits = true ∧ log.last = gps.initPhase

theorem Rests.of_place {after : Module} (rests : Rests log gps) (same : after.place = gps.place)
    (stays : after.newState = .initialization → gps.newState = .initialization) :
    Rests log after := by
  intro newState noTimer
  have timer : after.initTimerId = gps.initTimerId := congrArg (fun place => place.2.2) same
  rw [initPhase_of_place same]
  exact rests (stays newState) (timer.symm.trans noTimer)

theorem Log.enter_skipsNothing {skipped : Bool} {next : InitPhase} (before : log.SkipsNothing)
    (complete : skipped = false → Visit.Complete ⟨log.phase, log.events, skipped, next⟩) :
    (log.enter skipped next).SkipsNothing := by
  intro visit isVisit
  rcases mem_append.mp isVisit with isPast | isLast
  · exact before visit isPast
  · cases mem_singleton.mp isLast
    exact complete

/-- A later phase is entered, or the first one again. From the first one nobody goes on without
having sent. -/
def Log.GoesOn (next : InitPhase) (log : Log) : Prop :=
  next = .cfgPrt ∨ next.left < log.phase.left ∧ (log.phase = .cfgPrt → log.last = .cfgPrt)

theorem Log.enter_rowed {skipped : Bool} {next : InitPhase} (goesOn : log.GoesOn next)
    (rowed : log.Rowed) : (log.enter skipped next).Rowed := by
  rcases goesOn with first | ⟨later, sent⟩
  · exact .inl first
  · refine .inr (.inl ?_)
    show next.left < log.last.left
    rcases rowed with first | before | same
    · rw [sent first, ← first]
      exact later
    · exact Nat.lt_trans later before
    · rw [same.1]
      exact later

theorem Log.enter_tracks {skipped : Bool} {next : InitPhase} {entered : Module}
    (free : skipped = true ∨ log.phase.waits = false ∨ next = .cfgPrt) (goesOn : log.GoesOn next)
    (phase : next = entered.initPhase) : Tracks log (log.enter skipped next) entered := by
  refine ⟨phase, fun before => Log.enter_skipsNothing before ?_, Log.enter_rowed goesOn⟩
  intro unskipped waits later
  rcases free with skips | idle | first
  · cases skips.symm.trans unskipped
  · cases idle.symm.trans waits
  · subst first
    change InitPhase.cfgPrt.left < log.phase.left at later
    cases phase : log.phase <;> rw [phase] at later <;> exact absurd later (by decide)

theorem Log.send_rowed (rowed : log.Rowed) : log.send.Rowed := by
  by_cases first : log.phase = .cfgPrt
  · exact .inl first
  refine .inr (.inr ⟨rfl, ?_⟩)
  intro message isFrom isTo
  change (if log.last = log.phase then log.first else log.sent) ≤ message at isFrom
  rcases Nat.lt_succ_iff_lt_or_eq.mp isTo with before | rfl
  · refine mem_append_left _ ?_
    by_cases same : log.last = log.phase
    · rw [if_pos same] at isFrom
      rcases rowed with isFirst | later | sent
      · exact absurd isFirst first
      · rw [same] at later
        exact absurd later (Nat.lt_irrefl _)
      · exact sent.2 message isFrom before
    · rw [if_neg same] at isFrom
      omega
  · exact mem_append_right _ (mem_singleton.mpr rfl)

theorem Log.send_tracks (same : log.phase = gps.initPhase) : Tracks log log.send gps :=
  ⟨same, id, Log.send_rowed⟩

theorem Log.send_enter_tracks {next : InitPhase} {entered : Module}
    (idle : log.phase.waits = false) (later : next.left < log.phase.left)
    (phase : next = entered.initPhase) : Tracks log (log.send.enter false next) entered := by
  have left : Tracks log.send (log.send.enter false next) entered :=
    Log.enter_tracks (.inr (.inl idle)) (.inr ⟨later, id⟩) phase
  exact ⟨left.phase, left.skips, fun rowed => left.rowed (Log.send_rowed rowed)⟩

/-! ## The loop of the phases -/

theorem runPhases_cfgPrt (phase : gps.initPhase = .cfgPrt) :
    runPhases out gps =
      if out.sends .cfgPrt then runPhases out { gps with initPhase := .cfgPrtBaud }
      else gps.startInitTimer out := by
  rw [runPhases]
  split <;> simp_all

theorem runPhases_navSettings (phase : gps.initPhase = .navSettings) :
    runPhases out gps =
      if gps.targetStatePending ∧ gps.targetState = .coldStart then
        runPhases out { gps with initPhase := .done }
      else sendAndWait out gps := by
  rw [runPhases]
  split <;> simp_all

theorem runPhases_aidSetTime (phase : gps.initPhase = .aidSetTime) :
    runPhases out gps =
      if out.sends .aidSetTime then runPhases out { gps with initPhase := .aidAlpsrvEnable }
      else gps.startInitTimer out := by
  rw [runPhases]
  split <;> simp_all

theorem runPhases_aidAlpsrvEnable (phase : gps.initPhase = .aidAlpsrvEnable) :
    runPhases out gps =
      if out.assist ∧ out.alpsrv then sendAndWait out gps
      else runPhases out { gps with initPhase := .pmMode } := by
  rw [runPhases]
  split <;> simp_all

theorem runPhases_done (phase : gps.initPhase = .done) : runPhases out gps = initDone gps := by
  rw [runPhases]
  split <;> simp_all

theorem runPhases_other (cfgPrt : gps.initPhase ≠ .cfgPrt)
    (navSettings : gps.initPhase ≠ .navSettings) (aidSetTime : gps.initPhase ≠ .aidSetTime)
    (aidAlpsrvEnable : gps.initPhase ≠ .aidAlpsrvEnable) (done : gps.initPhase ≠ .done) :
    runPhases out gps = sendAndWait out gps := by
  rw [runPhases]
  split
  case h_1 phase => exact absurd phase cfgPrt
  case h_2 phase => exact absurd phase navSettings
  case h_3 phase => exact absurd phase aidSetTime
  case h_4 phase => exact absurd phase aidAlpsrvEnable
  case h_5 phase => exact absurd phase done
  case h_6 => rfl

theorem startInitTimer_tracks (same : log.phase = gps.initPhase) :
    Tracks log log (gps.startInitTimer out) ∧ Rests log (gps.startInitTimer out) := by
  unfold Module.startInitTimer
  split
  · refine ⟨Tracks.rfl' same, ?_⟩
    rintro _ ⟨⟩
  · refine ⟨Tracks.rfl' same, ?_⟩
    rintro ⟨⟩

theorem sendAndWait_tracks (same : log.phase = gps.initPhase) (waits : gps.initPhase.waits = true) :
    Tracks log (logSendAndWait out gps log) (sendAndWait out gps) ∧
      Rests (logSendAndWait out gps log) (sendAndWait out gps) := by
  unfold logSendAndWait sendAndWait
  split
  · exact ⟨Log.send_tracks same, fun _ _ => ⟨waits, same⟩⟩
  · exact startInitTimer_tracks same

theorem initDone_tracks (same : log.phase = gps.initPhase) :
    Tracks log log (initDone gps) ∧ Rests log (initDone gps) := by
  unfold initDone
  split
  · refine ⟨Tracks.rfl' ?_, ?_⟩
    · exact same.trans
        (initPhase_of_place (reportTargetState_place false gps)).symm
    · rintro ⟨⟩
  · next other =>
    split
    · refine ⟨Tracks.rfl' same, ?_⟩
      rintro ⟨⟩
    · exact ⟨Tracks.rfl' same, fun newState => absurd newState other⟩

theorem logPhases_tracks (same : log.phase = gps.initPhase) :
    Tracks log (logPhases out gps log) (runPhases out gps) ∧
      Rests (logPhases out gps log) (runPhases out gps) := by
  fun_induction logPhases out gps log with
  | case1 gps log phase sends ih =>
    rw [runPhases_cfgPrt phase, if_pos sends]
    rw [phase] at same
    have left : Tracks log (log.send.enter false .cfgPrtBaud)
        { gps with initPhase := .cfgPrtBaud } :=
      Log.send_enter_tracks (by rw [same]; rfl) (by rw [same]; decide) rfl
    exact ⟨left.trans (ih rfl).1, (ih rfl).2⟩
  | case2 gps log phase fails =>
    rw [runPhases_cfgPrt phase, if_neg fails]
    exact startInitTimer_tracks same
  | case3 gps log phase cold ih =>
    rw [runPhases_navSettings phase, if_pos cold]
    rw [phase] at same
    have left : Tracks log (log.enter true .done) { gps with initPhase := .done } := by
      refine Log.enter_tracks (.inl rfl) (.inr ⟨by rw [same]; decide, ?_⟩) rfl
      rw [same]
      exact nofun
    exact ⟨left.trans (ih rfl).1, (ih rfl).2⟩
  | case4 gps log phase warm =>
    rw [runPhases_navSettings phase, if_neg warm]
    exact sendAndWait_tracks same (by rw [phase]; rfl)
  | case5 gps log phase sends ih =>
    rw [runPhases_aidSetTime phase, if_pos sends]
    rw [phase] at same
    have left : Tracks log (log.send.enter false .aidAlpsrvEnable)
        { gps with initPhase := .aidAlpsrvEnable } :=
      Log.send_enter_tracks (by rw [same]; rfl) (by rw [same]; decide) rfl
    exact ⟨left.trans (ih rfl).1, (ih rfl).2⟩
  | case6 gps log phase fails =>
    rw [runPhases_aidSetTime phase, if_neg fails]
    exact startInitTimer_tracks same
  | case7 gps log phase aids =>
    rw [runPhases_aidAlpsrvEnable phase, if_pos aids]
    exact sendAndWait_tracks same (by rw [phase]; rfl)
  | case8 gps log phase aids ih =>
    rw [runPhases_aidAlpsrvEnable phase, if_neg aids]
    rw [phase] at same
    have left : Tracks log (log.enter true .pmMode) { gps with initPhase := .pmMode } := by
      refine Log.enter_tracks (.inl rfl) (.inr ⟨by rw [same]; decide, ?_⟩) rfl
      rw [same]
      exact nofun
    exact ⟨left.trans (ih rfl).1, (ih rfl).2⟩
  | case9 gps log phase =>
    rw [runPhases_done phase]
    exact initDone_tracks same
  | case10 gps log cfgPrt navSettings aidSetTime aidAlpsrvEnable done =>
    rw [runPhases_other cfgPrt navSettings aidSetTime aidAlpsrvEnable done]
    refine sendAndWait_tracks same ?_
    cases phase : gps.initPhase <;> first | rfl | contradiction

theorem logProcessPhase_false_tracks (same : log.phase = gps.initPhase) :
    Tracks log (logProcessPhase out false gps log) (initProcessPhase out false gps) ∧
      Rests (logProcessPhase out false gps log) (initProcessPhase out false gps) := by
  unfold logProcessPhase initProcessPhase
  dsimp only
  rw [if_neg Bool.false_ne_true, if_neg Bool.false_ne_true]
  split
  case isFalse => exact logPhases_tracks same
  case isTrue =>
    split
    · refine ⟨Tracks.rfl' same, ?_⟩
      rintro ⟨⟩
    · have again : Tracks log (log.enter false .cfgPrt) { gps with initPhase := .cfgPrt } :=
        Log.enter_tracks (.inr (.inr rfl)) (.inl rfl) rfl
      split
      · exact ⟨again.trans (logPhases_tracks rfl).1, (logPhases_tracks rfl).2⟩
      · refine ⟨⟨rfl, again.skips, again.rowed⟩, ?_⟩
        rintro ⟨⟩

theorem logProcessPhase_true_tracks (out : Outcomes) (gps : Module) (log : Log) :
    Tracks (log.enter false gps.initPhase.next) (logProcessPhase out true gps log)
        (initProcessPhase out true gps) ∧
      Rests (logProcessPhase out true gps log) (initProcessPhase out true gps) :=
  logPhases_tracks rfl

/-! ## The handlers of events -/

/-- The record follows the module through a step, and in the initialization the answer that is
waited for is the one of the phase. -/
def Follows (before after : Log) (gps : Module) : Prop :=
  Tracks before after gps ∧ (gps.currentState = .initialization → Rests after gps)

section

variable {aidLog : Module → Log → Log} (same : log.phase = gps.initPhase)
include same

theorem smInitialization_timeout_tracks (timerId : TimerId) (rests : Rests log gps) :
    Tracks log (logHandlers aidLog out .initialization (.timeout timerId) gps log)
        (stateMachine aidStatus out .initialization (.timeout timerId) gps) ∧
      Rests (logHandlers aidLog out .initialization (.timeout timerId) gps log)
        (stateMachine aidStatus out .initialization (.timeout timerId) gps) := by
  unfold logHandlers stateMachine smInitialization
  dsimp only
  split
  · have place : (gps.reportTargetState true).place = gps.place :=
      reportTargetState_place true gps
    refine ⟨Tracks.rfl' (same.trans (initPhase_of_place place).symm),
      rests.of_place place ?_⟩
    rw [reportTargetState_newState]
    exact id
  split
  · exact logProcessPhase_false_tracks same
  · exact ⟨Tracks.rfl' same, rests⟩

theorem smInitialization_quiet_tracks (out : Outcomes) (rests : Rests log gps)
    (entry : event ≠ .entry) (exit : event ≠ .exit) (timeout : ∀ timerId, event ≠ .timeout timerId)
    (status : ∀ status, event ≠ .ubxStatus .initialization status) :
    Tracks log log (smInitialization out event gps) ∧
      Rests log (smInitialization out event gps) := by
  have keeps {after : Module} (place : after.place = gps.place)
      (stays : after.newState = .initialization → gps.newState = .initialization) :
      Tracks log log after ∧ Rests log after :=
    ⟨Tracks.rfl' (same.trans (initPhase_of_place place).symm), rests.of_place place stays⟩
  unfold smInitialization
  split
  case h_1 => exact absurd rfl entry
  case h_2 timerId => exact absurd rfl (timeout timerId)
  case h_3 given => exact absurd rfl (status given)
  case h_4 fix =>
    refine keeps (handleNavPvt_place fix gps) ?_
    unfold handleNavPvt
    split
    · rintro ⟨⟩
    split
    · rintro ⟨⟩
    · exact id
  case h_5 target =>
    have sets := setupTimeout_place out target.timeout gps
    split
    · dsimp only
      split
      · refine keeps sets ?_
        rintro ⟨⟩
      · exact keeps sets (by rw [setupTimeout_newState]; exact id)
    split
    · refine keeps (reportTargetState_place false
        { gps with targetState := gps.currentState }) ?_
      rw [reportTargetState_newState]
      exact id
    · exact keeps rfl id
  case h_6 => exact absurd rfl exit
  case h_7 => exact keeps rfl id

end

theorem logHandlers_other (aidLog : Module → Log → Log)
    (quiet : state = .initialization →
      (∀ timerId, event ≠ .timeout timerId) ∧ ∀ status, event ≠ .ubxStatus .initialization status)
    (other : event ≠ .ubxMessage .aidAlp) : logHandlers aidLog out state event gps log = log := by
  unfold logHandlers
  split
  case h_1 timerId => exact absurd rfl ((quiet rfl).1 timerId)
  case h_2 status => exact absurd rfl ((quiet rfl).2 status)
  case h_3 => exact absurd rfl other
  case h_4 => exact absurd rfl other
  case h_5 => exact absurd rfl other
  case h_6 => rfl

theorem logHandlers_follows {aidLog : Module → Log → Log} (follows : Follows log log gps)
    (aid : gps.currentState ≠ .initialization → Follows log (aidLog gps log) (aidStatus gps))
    (entry : event ≠ .entry) (exit : event ≠ .exit)
    (uncounted : gps.currentState = .initialization → event ≠ .ubxStatus .initialization .ack) :
    Follows log (logHandlers aidLog out gps.currentState event gps log)
      (stateMachine aidStatus out gps.currentState event gps) := by
  obtain ⟨tracks, rests⟩ := follows
  by_cases initialization : gps.currentState = .initialization
  case pos =>
    have before := rests initialization
    rw [initialization]
    by_cases timeout : ∃ timerId, event = .timeout timerId
    · obtain ⟨timerId, rfl⟩ := timeout
      exact ⟨(smInitialization_timeout_tracks tracks.phase timerId before).1,
        fun _ => (smInitialization_timeout_tracks tracks.phase timerId before).2⟩
    by_cases status : ∃ status, event = .ubxStatus .initialization status
    · obtain ⟨status, rfl⟩ := status
      have lost : status ≠ .ack := by
        rintro rfl
        exact uncounted initialization rfl
      show Follows log (logProcessPhase out (decide (status = .ack)) gps log)
        (if status ≠ .ack then initProcessPhase out false gps else initProcessPhase out true gps)
      rw [if_pos lost, decide_eq_false lost]
      exact ⟨(logProcessPhase_false_tracks tracks.phase).1,
        fun _ => (logProcessPhase_false_tracks tracks.phase).2⟩
    by_cases aiding : event = .ubxMessage .aidAlp
    · subst aiding
      exact ⟨tracks, fun _ => before⟩
    rw [not_exists] at timeout status
    rw [logHandlers_other aidLog (fun _ => ⟨timeout, status⟩) aiding]
    have spec := smInitialization_quiet_tracks tracks.phase out before entry exit timeout status
    exact ⟨spec.1, fun _ => spec.2⟩
  case neg =>
    have away := aid initialization
    by_cases aiding : event = .ubxMessage .aidAlp
    · subst aiding
      cases state : gps.currentState with
      | powerOff | initialization | reinitialization => exact ⟨tracks, rests⟩
      | coldStart | searchingFix | fixAcquired => exact away
    rw [logHandlers_other aidLog (fun here => absurd here initialization) aiding]
    have place : (stateMachine aidStatus out gps.currentState event gps).place = gps.place :=
      stateMachine_place aidStatus out initialization aiding gps
    refine ⟨Tracks.rfl' (tracks.phase.trans (initPhase_of_place place).symm), ?_⟩
    rw [currentState_of_place place]
    exact fun here => absurd here initialization

theorem stateMachine_exit_initPhase (aidStatus : Module → Module) (out : Outcomes)
    (state : GpsState) (gps : Module) :
    (stateMachine aidStatus out state .exit gps).initPhase = gps.initPhase := by
  cases state with
  | initialization =>
    show (gps.removeTimer gps.initTimerId).initPhase = gps.initPhase
    exact initPhase_of_place (removeTimer_place gps gps.initTimerId)
  | powerOff | reinitialization | coldStart | searchingFix | fixAcquired => rfl

/-- The entry of the initialization waits for no answer: its timer runs, or it falls back. -/
theorem smInitialization_entry_rests (out : Outcomes) (gps : Module) (log : Log) :
    Rests log (smInitialization out .entry gps) := by
  unfold smInitialization Module.startInitTimer
  dsimp only
  split
  · rintro _ ⟨⟩
  · rintro ⟨⟩

theorem logChange_follows (aidStatus : Module → Module) (out : Outcomes)
    (follows : Follows log log gps) :
    Follows log (logChange out gps log) (changeState aidStatus out gps) := by
  unfold logChange changeState
  by_cases changes : gps.newState ≠ gps.currentState
  case neg =>
    rw [if_neg changes, if_neg fun begins => changes begins.1]
    exact follows
  rw [if_pos changes]
  have newState := (stateMachine_exit_keeps aidStatus out gps.currentState gps).1
  have phase := stateMachine_exit_initPhase aidStatus out gps.currentState gps
  have same := follows.1.phase
  dsimp only
  generalize stateMachine aidStatus out gps.currentState .exit gps = left at newState phase ⊢
  by_cases initialization : left.newState = .initialization
  case neg =>
    rw [if_neg fun begins => initialization (newState.trans begins.2.1)]
    have entry : SmEvent.entry ≠ .ubxMessage .aidAlp := nofun
    have place := stateMachine_place aidStatus out initialization entry
      { left with currentState := left.newState }
    refine ⟨Tracks.rfl' ?_, ?_⟩
    · rw [initPhase_of_place place]
      exact same.trans phase.symm
    · rw [currentState_of_place place]
      exact fun here => absurd here initialization
  rw [initialization]
  refine ⟨?_, fun _ => smInitialization_entry_rests out _ _⟩
  unfold stateMachine smInitialization
  dsimp only
  split
  case isTrue begins =>
    refine Log.enter_tracks (.inr (.inr rfl)) (.inl rfl) ?_
    rw [if_pos begins.2.2]
  case isFalse stays =>
    have fails : ¬ out.initTimer = true := fun sets =>
      stays ⟨changes, newState.symm.trans initialization, sets⟩
    rw [if_neg fails]
    refine (startInitTimer_tracks ?_).1
    exact same.trans phase.symm

theorem logWith_follows {aidLog : Module → Log → Log} (follows : Follows log log gps)
    (aid : gps.currentState ≠ .initialization → Follows log (aidLog gps log) (aidStatus gps))
    (entry : event ≠ .entry) (exit : event ≠ .exit)
    (uncounted : gps.currentState = .initialization → event ≠ .ubxStatus .initialization .ack) :
    Follows log (logWith aidStatus aidLog out event gps log)
      (processWith aidStatus out event gps) := by
  have handlers : Follows log (logHandlers aidLog out gps.currentState event gps log)
      (stateMachine aidStatus out gps.currentState event gps) :=
    logHandlers_follows follows aid entry exit uncounted
  have change := logChange_follows aidStatus out
    ⟨Tracks.rfl' handlers.1.phase, handlers.2⟩
  exact ⟨handlers.1.trans change.1, change.2⟩

theorem logProcess_follows (out : Outcomes) (follows : Follows log log gps) (entry : event ≠ .entry)
    (exit : event ≠ .exit)
    (uncounted : gps.currentState = .initialization → event ≠ .ubxStatus .initialization .ack) :
    Follows log (logProcess out event gps log) (smProcess out event gps) :=
  logWith_follows follows
    (fun _ => logWith_follows follows (fun _ => follows) nofun nofun fun _ => nofun) entry exit
    uncounted

theorem logProcess_ack_follows (out : Outcomes) (log : Log)
    (initialization : gps.currentState = .initialization) :
    Follows (log.enter false gps.initPhase.next)
      (logProcess out (.ubxStatus .initialization .ack) gps log)
      (smProcess out (.ubxStatus .initialization .ack) gps) := by
  unfold logProcess smProcess logWith processWith
  rw [initialization]
  have handlers := logProcessPhase_true_tracks out gps log
  have change := logChange_follows (processWith id out .aidStatus) out
    ⟨Tracks.rfl' handlers.1.phase, fun _ => handlers.2⟩
  exact ⟨handlers.1.trans change.1, change.2⟩

/-! ## Runs -/

/-- The invariant of runs with a prompt receiver. -/
structure Setup.Sound (setup : Setup) : Prop where
  phase : setup.log.phase = setup.gps.initPhase
  rests : setup.gps.currentState = .initialization → Rests setup.log setup.gps
  rowed : setup.log.Rowed
  skips : setup.log.SkipsNothing

theorem Follows.sound {before : Log} (setup : Setup)
    (follows : Follows before setup.log setup.gps)
    (rowed : before.Rowed) (skips : before.SkipsNothing) : setup.Sound :=
  ⟨follows.1.phase, follows.2, follows.1.rowed rowed, follows.1.skips skips⟩

theorem Setup.Sound.process {setup : Setup} (sound : setup.Sound) (out : Outcomes)
    (entry : event ≠ .entry) (exit : event ≠ .exit)
    (uncounted : setup.gps.currentState = .initialization →
      event ≠ .ubxStatus .initialization .ack) : (setup.process out event).Sound := by
  have follows : Follows setup.log setup.log setup.gps := ⟨Tracks.rfl' sound.phase, sound.rests⟩
  have after := logProcess_follows out follows entry exit uncounted
  exact Follows.sound (setup.process out event) after sound.rowed sound.skips

theorem Setup.Sound.hear {setup : Setup} (sound : setup.Sound) (message : Option Nat) :
    (setup.hear message).Sound := by
  cases message with
  | none => exact sound
  | some number =>
    refine ⟨sound.phase, sound.rests, ?_, sound.skips⟩
    rcases sound.rowed with first | later | ⟨last, sent⟩
    · exact .inl first
    · exact .inr (.inl later)
    · exact .inr (.inr ⟨last, fun other isFrom isTo =>
        mem_append_left _ (sent other isFrom isTo)⟩)

theorem left_next_of_waits {phase : InitPhase} (waits : phase.waits = true) :
    phase.next.left < phase.left := by
  apply InitPhase.left_next
  rintro rfl
  cases waits

/-- A prompt answer is the one of the phase, which is passed rightly. -/
theorem Setup.Sound.passes {setup : Setup} (sound : setup.Sound)
    (initialization : setup.gps.currentState = .initialization)
    (newState : setup.gps.newState = .initialization) (noTimer : setup.gps.initTimerId = none)
    {number : Nat} (isFrom : setup.log.first ≤ number) (isTo : number < setup.log.sent) :
    ((setup.log.acked (some number)).enter false setup.gps.initPhase.next).Rowed ∧
      ((setup.log.acked (some number)).enter false setup.gps.initPhase.next).SkipsNothing := by
  obtain ⟨waits, last⟩ := sound.rests initialization newState noTimer
  have phase := sound.phase
  have notFirst : setup.log.phase ≠ .cfgPrt := by
    intro first
    rw [← phase, first] at waits
    cases waits
  have later : setup.gps.initPhase.next.left < setup.log.phase.left := by
    rw [phase]
    exact left_next_of_waits waits
  refine ⟨Log.enter_rowed (.inr ⟨later, fun first => absurd first notFirst⟩)
    (sound.hear (some number)).rowed, Log.enter_skipsNothing sound.skips ?_⟩
  intro _ _ _
  have sent : .sent number ∈ setup.log.events := by
    rcases sound.rowed with first | before | row
    · exact absurd first notFirst
    · rw [last, phase] at before
      exact absurd before (Nat.lt_irrefl _)
    · exact row.2 number isFrom isTo
  obtain ⟨before, after, same⟩ := append_of_mem sent
  refine ⟨number, before, after ++ [.acked number], ?_, by simp⟩
  show setup.log.events ++ [.acked number] = _
  rw [same, append_assoc, cons_append]

theorem Setup.step_sound (setup : Setup) (step : ReceiverStep) (sound : setup.Sound)
    (prompt : setup.Prompt step) : (setup.step step).Sound := by
  obtain ⟨event, out⟩ := step
  cases event with
  | request request =>
    have asked : Setup.Sound ⟨{ setup.gps with targetStatePending := true }, setup.log⟩ :=
      ⟨sound.phase, sound.rests, sound.rowed, sound.skips⟩
    exact asked.process out nofun nofun fun _ => nofun
  | timeout timerId =>
    unfold Setup.step
    dsimp only
    split
    · have fired : Setup.Sound
          ⟨{ setup.gps with timers := setup.gps.timers.erase ⟨timerId, .timeout⟩ }, setup.log⟩ :=
        ⟨sound.phase, sound.rests, sound.rowed, sound.skips⟩
      exact fired.process out nofun nofun fun _ => nofun
    · exact sound
  | timers change =>
    cases change <;> exact ⟨sound.phase, sound.rests, sound.rowed, sound.skips⟩
  | message msg => exact sound.process out nofun nofun fun _ => nofun
  | status msg status message =>
    by_cases counted : setup.gps.currentState = .initialization ∧ msg = .initialization ∧
        status = .ack
    case neg =>
      refine (sound.hear _).process out nofun nofun ?_
      intro initialization same
      cases same
      exact counted ⟨initialization, rfl, rfl⟩
    obtain ⟨initialization, rfl, rfl⟩ := counted
    obtain ⟨newState, noTimer, number, rfl, isFrom, isTo⟩ := prompt initialization
    have passes := sound.passes initialization newState noTimer isFrom isTo
    have after := logProcess_ack_follows out (setup.log.acked (some number)) initialization
    exact Follows.sound (Setup.step setup _) after passes.1 passes.2

end Thingsee.Gps
