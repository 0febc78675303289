import Thingsee.Modem.Types
import Thingsee.Support.Runs

/-!
Owns the setup of the network in `apps/system/ubmodem/ubmodem_substate_network.c`: the reports
`+CREG` of the modem, the answers to commands, the timer, and what the sub-state ends with.

That a timer can be set and a command be sent is asserted by the code, and so taken for granted.
-/

namespace Thingsee.Modem.Registration

open Support

/-- `enum ubmodem_network_state_e`, but for the state of the disconnection. -/
inductive NetworkState where
  | enablingCreg
  | enablingRf
  | startingNetworkRegistration
  | waitingNetworkRegistration
  | retryingNetworkRegistration
deriving DecidableEq

inductive Handler where
  | atCreg
  | atCfun
  | disableAtCops
  | retryAtCops
deriving DecidableEq

/-- The handlers of `creg_timer_id`. -/
inductive TimerHandler where
  | networkStartRegister
  | networkRetryRegistration
  | networkRegisterTimeout
deriving DecidableEq

/-- What the sub-state ends with: `UBMODEM_LEVEL_NETWORK`, or the reason of its failure. A
command has failed with the text of its arguments. -/
inductive Report where
  | reachedNetwork
  | networkTimeout
  | noNetworkService
  | couldNotConnect (errorcode : Int)
  | timedOut (handler : Handler) (argument : String)
  | commandError (handler : Handler) (argument : String) (errorcode : Int)
deriving DecidableEq

/-- `struct modem_sub_setup_network_s`, with the outstanding command and the timer. -/
structure Setup where
  networkState : NetworkState
  receivedCregWhileRetrying : Int
  netRegStartTs : Int
  cregUrcRegistered : Bool
  keepCregUrc : Bool
  command : Option Handler
  cregTimer : Option TimerHandler
  report : Option Report

/-- The status and the error code of a response. -/
structure Info where
  status : RespStatus
  errorcode : Int

def Info.isErrorOrTimeout (info : Info) : Bool :=
  info.status == .error || info.status == .cmeError || info.status == .cmsError ||
    info.status == .timeout

namespace Setup

def startSetupNetwork : Setup :=
  ⟨.enablingCreg, 0, 0, false, false, some .atCreg, none, none⟩

/-- The end of the sub-state, with `setup_network_cleanup`. -/
def finish (report : Report) (sub : Setup) : Setup :=
  { sub with
    report := some report
    command := none
    cregTimer := none
    cregUrcRegistered := sub.cregUrcRegistered && sub.keepCregUrc }

def commonFailedCommand (handler : Handler) (info : Info) (argument : String) (sub : Setup) :
    Setup :=
  if info.status = .timeout then sub.finish (.timedOut handler argument)
  else sub.finish (.commandError handler argument info.errorcode)

/-- `handle_cops_cme_error`. There is no result if the error is ignored. -/
def handleCopsCmeError (info : Info) (sub : Setup) : Option Setup :=
  if info.errorcode = 15 ∨ info.errorcode = 3 then none
  else if info.errorcode = 30 then some (sub.finish .noNetworkService)
  else some (sub.finish (.couldNotConnect info.errorcode))

def handleCops (handler : Handler) (info : Info) (argument : String) (accept : Setup → Setup)
    (sub : Setup) : Setup :=
  if info.status = .cmeError then (sub.handleCopsCmeError info).getD (accept sub)
  else if info.isErrorOrTimeout then sub.commonFailedCommand handler info argument
  else if info.status ≠ .ok then sub
  else accept sub

def handlePlain (handler : Handler) (info : Info) (accept : Setup → Setup) (sub : Setup) : Setup :=
  if info.isErrorOrTimeout then sub.commonFailedCommand handler info "=1"
  else if info.status ≠ .ok then sub
  else accept sub

def networkRegistrationSuccessed (sub : Setup) : Setup :=
  { sub with keepCregUrc := true }.finish .reachedNetwork

def retryAtCopsHandler (info : Info) : Setup → Setup :=
  handleCops .retryAtCops info "=0" fun sub =>
    { sub with
      networkState := .waitingNetworkRegistration
      cregTimer := some .networkRegisterTimeout }

def disableAtCopsHandler (info : Info) : Setup → Setup :=
  handleCops .disableAtCops info "=2" fun sub =>
    { sub with
      networkState := .waitingNetworkRegistration
      cregTimer := some .networkStartRegister }

def atCfunHandler (info : Info) (now : Int) : Setup → Setup :=
  handlePlain .atCfun info fun sub =>
    { sub with
      networkState := .startingNetworkRegistration
      netRegStartTs := now
      command := some .disableAtCops }

def atCregHandler (info : Info) : Setup → Setup :=
  handlePlain .atCreg info fun sub =>
    { sub with
      cregUrcRegistered := true
      networkState := .enablingRf
      command := some .atCfun }

/-- `network_register_timeout_handler`. `MODEM_CMD_NETWORK_REGISTRATION_TIMEOUT` is 2050. -/
def networkRegisterTimeoutHandler (now : Int) (sub : Setup) : Setup :=
  if now - sub.netRegStartTs ≤ 2050 / 10 then
    { sub with cregTimer := some .networkRegisterTimeout }
  else sub.finish .networkTimeout

def networkRetryRegistrationTimerHandler (sub : Setup) : Setup :=
  if 0 < sub.receivedCregWhileRetrying then sub.networkRegistrationSuccessed
  else { sub with command := some .retryAtCops }

def networkStartRegisterHandler (sub : Setup) : Setup :=
  { sub with
    networkState := .retryingNetworkRegistration
    receivedCregWhileRetrying := -1
    command := some .retryAtCops }

/-- `registration_urc_pCREG_handler`. -/
def registrationUrcCregHandler (val : Int) (sub : Setup) : Setup :=
  match sub.networkState with
  | .waitingNetworkRegistration =>
    if val = 1 ∨ val = 5 then sub.networkRegistrationSuccessed
    else if val = 0 then
      { sub with
        networkState := .retryingNetworkRegistration
        receivedCregWhileRetrying := -1
        cregTimer := some .networkRetryRegistration }
    else sub
  | .retryingNetworkRegistration =>
    if val = 1 ∨ val = 5 then { sub with receivedCregWhileRetrying := val } else sub
  | _ => sub

end Setup

/-- The answer to the outstanding command, a `+CREG` report, and the timer. `now` is the
monotonic time in seconds. -/
inductive Event where
  | answer (info : Info) (now : Int)
  | creg (val : Int)
  | timer (now : Int)

def Setup.step (sub : Setup) : Event → Setup
  | .answer info now =>
    let done : Setup := { sub with command := none }
    match sub.command with
    | none => sub
    | some .atCreg => done.atCregHandler info
    | some .atCfun => done.atCfunHandler info now
    | some .disableAtCops => done.disableAtCopsHandler info
    | some .retryAtCops => done.retryAtCopsHandler info
  | .creg val =>
    if sub.cregUrcRegistered ∧ sub.report = none then sub.registrationUrcCregHandler val else sub
  | .timer now =>
    let done : Setup := { sub with cregTimer := none }
    match sub.cregTimer with
    | none => sub
    | some .networkStartRegister => done.networkStartRegisterHandler
    | some .networkRetryRegistration => done.networkRetryRegistrationTimerHandler
    | some .networkRegisterTimeout => done.networkRegisterTimeoutHandler now

/-- What a report of the value says of the registration. -/
def latest (val : Int) (registered : Bool) : Bool :=
  if val = 1 ∨ val = 5 then true else if val = 0 then false else registered

/-- A run, with what the reports have said: since the registration was started, and since the
retrying began. -/
structure Watched where
  sub : Setup
  registered : Bool
  whileRetrying : Bool

namespace Watched

def start : Watched := ⟨.startSetupNetwork, false, false⟩

/-- The reports count while the sub-state waits or retries. -/
def hear (watched : Watched) : Event → Bool × Bool
  | .creg val =>
    match watched.sub.report, watched.sub.networkState with
    | none, .waitingNetworkRegistration => (latest val watched.registered, false)
    | none, .retryingNetworkRegistration =>
      (latest val watched.registered, latest val watched.whileRetrying)
    | _, _ => (watched.registered, watched.whileRetrying)
  | _ => (watched.registered, watched.whileRetrying)

/-- What has been said counts anew when the state is entered. -/
def enter (state : NetworkState) (before after : Setup) (said : Bool) : Bool :=
  if after.networkState = state ∧ before.networkState ≠ state then false else said

def move (watched : Watched) (heard : Bool × Bool) (sub : Setup) : Watched :=
  ⟨sub, enter .startingNetworkRegistration watched.sub sub heard.1,
    enter .retryingNetworkRegistration watched.sub sub heard.2⟩

def step (watched : Watched) (event : Event) : Watched :=
  watched.move (watched.hear event) (watched.sub.step event)

/-- No report of the registration is lost. -/
structure NoneLost (watched : Watched) : Prop where
  waiting : watched.sub.report = none →
    watched.sub.networkState = .waitingNetworkRegistration → watched.registered = false
  retrying : watched.sub.report = none →
    watched.sub.networkState = .retryingNetworkRegistration →
      (0 < watched.sub.receivedCregWhileRetrying ↔ watched.whileRetrying = true)
  network : watched.sub.report = some .reachedNetwork → watched.registered = true
  timeout : watched.sub.report = some .networkTimeout → watched.registered = false

/-- AT+COPS=0 is answered with OK, or with an error that is ignored. -/
def Accepted (info : Info) : Prop :=
  info.status = .ok ∨ info.status = .cmeError ∧ (info.errorcode = 15 ∨ info.errorcode = 3)

/-- While a report of a registration is put aside, AT+COPS=0 is not answered so that the setup
goes on, and the registration is not lost again. -/
def Kept (watched : Watched) (event : Event) : Prop :=
  watched.sub.report = none → watched.sub.networkState = .retryingNetworkRegistration →
    0 < watched.sub.receivedCregWhileRetrying →
      match event with
      | .answer info _ => watched.sub.command = some .retryAtCops → ¬Accepted info
      | .creg val => val ≠ 0
      | .timer _ => True

/-- The invariant: a command or a timer belongs to the state of the network, and what has been
said to what is put aside. -/
def Good (watched : Watched) : Prop :=
  let sub := watched.sub
  match sub.report with
  | some report => sub.command = none ∧ sub.cregTimer = none ∧
      (report = .reachedNetwork → watched.registered = true) ∧
      (report = .networkTimeout → watched.registered = false)
  | none =>
    match sub.networkState with
    | .enablingCreg => sub.command.all (· = .atCreg) ∧ sub.cregTimer = none
    | .enablingRf => sub.cregUrcRegistered = true ∧ sub.command.all (· = .atCfun) ∧
        sub.cregTimer = none
    | .startingNetworkRegistration => sub.cregUrcRegistered = true ∧
        sub.command.all (· = .disableAtCops) ∧ sub.cregTimer = none ∧
        watched.registered = false
    | .waitingNetworkRegistration => sub.cregUrcRegistered = true ∧ sub.command = none ∧
        sub.cregTimer ≠ some .networkRetryRegistration ∧ watched.registered = false
    | .retryingNetworkRegistration => sub.cregUrcRegistered = true ∧
        sub.command.all (· = .retryAtCops) ∧ sub.cregTimer.all (· = .networkRetryRegistration) ∧
        watched.registered = watched.whileRetrying ∧
        (0 < sub.receivedCregWhileRetrying ↔ watched.whileRetrying = true)

theorem start_good : start.Good := ⟨rfl, rfl⟩

theorem Good.noneLost {watched : Watched} (good : watched.Good) : watched.NoneLost := by
  unfold Good at good
  cases report : watched.sub.report with
  | some ended =>
    simp only [report] at good
    refine ⟨by simp [report], by simp [report], fun same => ?_, fun same => ?_⟩
    · exact good.2.2.1 (Option.some.inj (report.symm.trans same))
    · exact good.2.2.2 (Option.some.inj (report.symm.trans same))
  | none =>
    simp only [report] at good
    refine ⟨fun _ state => ?_, fun _ state => ?_, by simp [report], by simp [report]⟩
    · simp only [state] at good
      exact good.2.2.2
    · simp only [state] at good
      exact good.2.2.2.2

end Watched

namespace Setup

variable {sub : Setup} {handler : Handler} {info : Info} {argument : String}
  {accept : Setup → Setup}

theorem handleCops_accepted (accepted : Watched.Accepted info) :
    sub.handleCops handler info argument accept = accept sub := by
  rcases accepted with ok | ⟨cme, ignored⟩
  · simp [handleCops, Info.isErrorOrTimeout, ok]
  · simp [handleCops, handleCopsCmeError, cme, ignored]

variable (property : Setup → Prop)
  (fails : ∀ report, report ≠ .reachedNetwork → report ≠ .networkTimeout →
    property (sub.finish report))
include fails

theorem handleCops_induction (stays : property sub)
    (accepts : Watched.Accepted info → property (accept sub)) :
    property (sub.handleCops handler info argument accept) := by
  unfold handleCops handleCopsCmeError commonFailedCommand
  split_ifs with cme ignored noService error timeout notOk
  · exact accepts (.inr ⟨cme, ignored⟩)
  · exact fails _ (by simp) (by simp)
  · exact fails _ (by simp) (by simp)
  · exact fails _ (by simp) (by simp)
  · exact fails _ (by simp) (by simp)
  · exact stays
  · exact accepts (.inl (not_not.mp notOk))

theorem handlePlain_induction (stays : property sub) (accepts : property (accept sub)) :
    property (sub.handlePlain handler info accept) := by
  unfold handlePlain commonFailedCommand
  split_ifs
  · exact fails _ (by simp) (by simp)
  · exact fails _ (by simp) (by simp)
  · exact stays
  · exact accepts

end Setup

namespace Watched

variable {watched : Watched} {heard : Bool × Bool} {sub : Setup}

/-- The end of the sub-state with another report than these two. -/
theorem finish_good {report : Report} (notNetwork : report ≠ .reachedNetwork)
    (notTimeout : report ≠ .networkTimeout) : (watched.move heard (sub.finish report)).Good :=
  ⟨rfl, rfl, fun same => absurd same notNetwork, fun same => absurd same notTimeout⟩

theorem move_self (watched : Watched) :
    watched.move (watched.registered, watched.whileRetrying) watched.sub = watched := by
  simp [move, enter]

theorem answer_good (good : watched.Good) (info : Info) (now : Int)
    (kept : watched.Kept (.answer info now)) : (watched.step (.answer info now)).Good := by
  change (watched.move (watched.registered, watched.whileRetrying) (watched.sub.step _)).Good
  rw [Setup.step]
  cases command : watched.sub.command with
  | none =>
    rw [move_self]
    exact good
  | some handler =>
    have rest := good
    unfold Good at rest
    cases report : watched.sub.report with
    | some ended => simp [report, command] at rest
    | none =>
      cases state : watched.sub.networkState <;>
        simp only [report, state, command, Option.all_some, decide_eq_true_eq] at rest
      case waitingNetworkRegistration => exact absurd rest.2.1 (by simp)
      case enablingCreg =>
        obtain ⟨rfl, timer⟩ := rest
        apply Setup.handlePlain_induction (fun sub => (watched.move _ sub).Good)
          (fun _ => finish_good)
        · simp [Good, move, timer]
        · simp [Good, move, timer]
      case enablingRf =>
        obtain ⟨listening, rfl, timer⟩ := rest
        apply Setup.handlePlain_induction (fun sub => (watched.move _ sub).Good)
          (fun _ => finish_good)
        · simp [Good, move, listening, timer]
        · simp [Good, move, listening, enter, state, timer]
      case startingNetworkRegistration =>
        obtain ⟨listening, rfl, timer, registered⟩ := rest
        apply Setup.handleCops_induction (fun sub => (watched.move _ sub).Good)
          (fun _ => finish_good)
        · simp [Good, move, listening, enter, state, timer, registered]
        · intro _
          simp [Good, move, listening, enter, state, registered]
      case retryingNetworkRegistration =>
        obtain ⟨listening, rfl, timer, same, aside⟩ := rest
        apply Setup.handleCops_induction (fun sub => (watched.move _ sub).Good)
          (fun _ => finish_good)
        · simp [Good, move, listening, enter, state, timer, same, aside]
        · intro accepted
          have none := fun positive => kept report state positive command accepted
          have unregistered : watched.registered = false := by
            rw [same, ← Bool.not_eq_true, ← aside]
            exact none
          simp [Good, move, listening, enter, state, unregistered]

theorem creg_good (good : watched.Good) (val : Int) (kept : watched.Kept (.creg val)) :
    (watched.step (.creg val)).Good := by
  have rest := good
  unfold Good at rest
  cases report : watched.sub.report with
  | some ended =>
    have still : watched.step (.creg val) = watched := by
      simp [step, hear, Setup.step, report, move_self]
    rw [still]
    exact good
  | none =>
    cases state : watched.sub.networkState <;> simp only [report, state] at rest
    case waitingNetworkRegistration =>
      obtain ⟨listening, command, notRetry, registered⟩ := rest
      simp only [step, hear, Setup.step, report, state, listening, latest,
        Setup.registrationUrcCregHandler, and_self, if_true]
      by_cases found : val = 1 ∨ val = 5
      · simp [Good, move, enter, Setup.networkRegistrationSuccessed, Setup.finish, state, found]
      · by_cases lost : val = 0
        · simp [Good, move, enter, state, command, lost]
        · simp [Good, move, enter, listening, state, report, command, found, lost, registered,
            notRetry]
    case retryingNetworkRegistration =>
      obtain ⟨listening, command, timer, same, aside⟩ := rest
      simp only [step, hear, Setup.step, report, state, listening, latest,
        Setup.registrationUrcCregHandler, and_self, if_true]
      by_cases found : val = 1 ∨ val = 5
      · have positive : 0 < val := by omega
        simp [Good, move, enter, state, command, timer, found, positive]
      · by_cases lost : val = 0
        · have none : ¬0 < watched.sub.receivedCregWhileRetrying :=
            fun positive => kept report state positive lost
          simp [Good, move, enter, listening, state, report, command, timer, lost, none]
        · simp [Good, move, enter, listening, state, report, command, timer, found, lost, same,
            aside]
    all_goals
      have still : watched.step (.creg val) = watched := by
        simp [step, hear, Setup.step, Setup.registrationUrcCregHandler, report, state, move_self]
      rw [still]
      exact good

theorem timer_good (good : watched.Good) (now : Int) : (watched.step (.timer now)).Good := by
  change (watched.move (watched.registered, watched.whileRetrying) (watched.sub.step _)).Good
  rw [Setup.step]
  cases timer : watched.sub.cregTimer with
  | none =>
    rw [move_self]
    exact good
  | some handler =>
    have rest := good
    unfold Good at rest
    cases report : watched.sub.report with
    | some ended => simp [report, timer] at rest
    | none =>
      cases state : watched.sub.networkState <;>
        simp only [report, state, timer, Option.all_some, decide_eq_true_eq] at rest
      case enablingCreg => simp at rest
      case enablingRf => simp at rest
      case startingNetworkRegistration => simp at rest
      case waitingNetworkRegistration =>
        obtain ⟨listening, command, notRetry, registered⟩ := rest
        cases handler with
        | networkRetryRegistration => exact absurd rfl notRetry
        | networkStartRegister =>
          simp [Good, move, listening, enter, Setup.networkStartRegisterHandler, state,
            registered]
        | networkRegisterTimeout =>
          simp only [Setup.networkRegisterTimeoutHandler]
          split_ifs
          · simp [Good, move, listening, enter, state, command, registered]
          · simp [Good, move, listening, enter, Setup.finish, state, registered]
      case retryingNetworkRegistration =>
        obtain ⟨listening, command, rfl, same, aside⟩ := rest
        simp only [Setup.networkRetryRegistrationTimerHandler]
        split_ifs with positive
        · simp [Good, move, listening, enter, Setup.networkRegistrationSuccessed,
            Setup.finish, state,
            same, aside.mp positive]
        · simp [Good, move, listening, enter, state, same, aside]

theorem step_needs (good : watched.Good) (event : Event) (next : (watched.step event).NoneLost) :
    watched.Kept event := by
  intro running retrying aside
  unfold Good at good
  simp only [running, retrying] at good
  have said := good.2.2.2.2.mp aside
  have registered := good.2.2.2.1.trans said
  cases event with
  | answer info now =>
    intro command accepted
    have waits := next.waiting
    simp [step, hear, Setup.step, command, Setup.retryAtCopsHandler,
      Setup.handleCops_accepted accepted, running, retrying, move, enter, registered] at waits
  | creg val =>
    rintro rfl
    have retries := next.retrying
    simp [step, hear, Setup.step, Setup.registrationUrcCregHandler, running, retrying, move, enter,
      latest, aside] at retries
  | timer now => trivial

end Watched

/-- In every run of the sub-state, no report of a registration is lost exactly if none is put aside
when AT+COPS=0 is answered so that the setup goes on, or when it is lost again. -/
theorem noneLost_iff (events : List Event) :
    (∀ reached, reached <+: events → (reached.foldl Watched.step .start).NoneLost) ↔
      Guarded Watched.step Watched.Kept .start events := by
  apply forall_prefix_iff_guarded_of_good Watched.Good
  · exact fun watched good => good.noneLost
  · intro watched event good kept
    cases event with
    | answer info now => exact Watched.answer_good good info now kept
    | creg val => exact Watched.creg_good good val kept
    | timer now => exact Watched.timer_good good now
  · exact fun watched event good next => Watched.step_needs good event next
  · exact Watched.start_good

/-- The answer to AT+COPS=0 comes after the report of a registration, which is then lost: the
setup fails while the modem is registered. -/
theorem registration_lost :
    let ok : Info := ⟨.ok, 0⟩
    let reached := [.answer ok 0, .answer ok 0, .answer ok 0, .timer 1, .creg 1, .answer ok 3,
      .timer 206].foldl Watched.step .start
    reached.sub.report = some .networkTimeout ∧ reached.registered = true ∧ ¬reached.NoneLost := by
  refine ⟨by decide, by decide, fun noneLost => ?_⟩
  exact absurd (noneLost.timeout (by decide)) (by decide)

end Thingsee.Modem.Registration
