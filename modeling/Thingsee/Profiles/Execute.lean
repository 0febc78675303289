import Thingsee.Profiles.Types

/-!
Owns `apps/ts_engine/engine/execute.c`: the evaluation of causes, the firing of
events and the transitions between states and purposes.

A function that returns `ERROR` in the source returns `false` here, next to the
engine as it has left it. The walk of `handle_cause` is one step for each turn of
its loop, so that runs are sequences of such steps. Logging, sending and the other
actions of events are only recorded as the firing of the event.
-/

namespace Thingsee.Profiles

open Support

variable {n : Nat} {E S P T V : Type} [DecidableEq E] [DecidableEq S] [DecidableEq P]

def untilError {α σ : Type} (body : α → σ → σ × Bool) : List α → σ → σ × Bool
  | [], state => (state, true)
  | item :: rest, state =>
    let result := body item state
    if result.2 then untilError body rest result.1 else result

namespace Engine

variable (profile : Profile n E S P T V)

def linked (engine : Engine n E S P V) (s : S) : Linked (Fin n) :=
  ⟨engine.flink, engine.activeCauses s⟩

def setLinked (engine : Engine n E S P V) (s : S) (linked : Linked (Fin n)) : Engine n E S P V :=
  { engine with
    flink := linked.flink
    activeCauses := Function.update engine.activeCauses s linked.queue }

/-- `free_valuearray`, for the value of a cause. -/
def freeValuearray (engine : Engine n E S P V) (c : Fin n) : Engine n E S P V :=
  let dyn := engine.cause c
  match dyn.value.valuetype, dyn.value.data with
  | .array, .items number (some block) =>
    { engine.setCause c { dyn with value := ⟨.array, .items number none⟩ } with
      memory := Function.update engine.memory block none }
  | _, _ => engine

def initCause (env : Env n) (c : Fin n) (engine : Engine n E S P V) : Engine n E S P V × Bool :=
  let conf := profile.cause c
  let dyn := engine.cause c
  let s := profile.stateOfCause c
  let engine := engine.setCause c
    { dyn with
      triggered := false
      thresholdCounter := conf.thresholdCount
      measurementCounter := if conf.count = 0 then -1 else conf.count
      measureBias := profile.isActiveRelative c
      value := { dyn.value with valuetype := conf.minType }
      initialised := env.starts c
      held := conf.holds && env.starts c
      leaked := dyn.leaked || dyn.held
      calls := .init :: dyn.calls }
  (engine.setLinked s ((engine.linked s).addlast c), env.starts c)

def reinitCause (env : Env n) (c : Fin n) (engine : Engine n E S P V) : Engine n E S P V × Bool :=
  let dyn := engine.cause c
  if dyn.measurementCounter = 0 then initCause profile env c engine
  else
    (engine.setCause c
      { dyn with triggered := false, thresholdCounter := (profile.cause c).thresholdCount }, true)

def uninitCause (c : Fin n) (engine : Engine n E S P V) : Engine n E S P V × Bool :=
  let s := profile.stateOfCause c
  let engine := engine.setLinked s ((engine.linked s).rem n c)
  let dyn := engine.cause c
  let engine := engine.setCause c
    { dyn with initialised := false, held := false, calls := .uninit :: dyn.calls }
  (engine.freeValuearray c, true)

def initEvent (causeInit : Fin n → Engine n E S P V → Engine n E S P V × Bool) (e : E)
    (engine : Engine n E S P V) : Engine n E S P V × Bool :=
  let result := untilError causeInit (profile.causes e) engine
  if result.2 then
    ({ result.1 with expectedOrderId := Function.update result.1.expectedOrderId e 1 }, true)
  else result

def initState (causeInit : Fin n → Engine n E S P V → Engine n E S P V × Bool) (s : S)
    (engine : Engine n E S P V) : Engine n E S P V × Bool :=
  untilError (initEvent profile causeInit) (profile.events s)
    (engine.setLinked s (engine.linked s).init)

/-- `init_state` with `uninit_cause`. -/
def leaveState (s : S) (engine : Engine n E S P V) : Engine n E S P V × Bool :=
  initState profile (uninitCause profile) s (engine.record (.left s))

/-- `init_state` with `init_cause`. -/
def enterState (env : Env n) (s : S) (engine : Engine n E S P V) : Engine n E S P V × Bool :=
  initState profile (initCause profile env) s (engine.record (.entered s))

def addGlobalState (env : Env n) (s : S) (engine : Engine n E S P V) :
    Engine n E S P V × Bool :=
  if env.allocated then
    enterState profile env s { engine with globalStates := engine.globalStates ++ [s] }
  else (engine, false)

def initGlobalStates (env : Env n) (p : P) (engine : Engine n E S P V) :
    Engine n E S P V × Bool :=
  untilError (addGlobalState profile env) (profile.globals p) engine

def uninitGlobalStates (engine : Engine n E S P V) : Engine n E S P V :=
  let globals := engine.globalStates.filter profile.isGlobal
  { globals.foldl (fun engine s => (leaveState profile s engine).1) engine with
    globalStates := [] }

def initPurpose (env : Env n) (p : P) (id : Int) (engine : Engine n E S P V) :
    Engine n E S P V × Bool :=
  match profile.findState p id with
  | none => (engine, false)
  | some s =>
    if engine.currentState = some s then (engine, true)
    else
      let result :=
        match engine.currentState with
        | none => (engine, true)
        | some old => leaveState profile old engine
      if result.2 then
        let entered := enterState profile env s result.1
        if entered.2 then ({ entered.1 with currentState := some s }, true) else entered
      else result

def initProfile (env : Env n) (puId stId : Int) (engine : Engine n E S P V) :
    Engine n E S P V × Bool :=
  match profile.findPurpose puId with
  | none => (engine, false)
  | some p =>
    let result := initPurpose profile env p stId engine
    if result.2 then
      if result.1.currentPurpose = some p then result
      else
        let globals := initGlobalStates profile env p (uninitGlobalStates profile result.1)
        if globals.2 then ({ globals.1 with currentPurpose := some p }, true) else globals
    else result

structure Checking (n : Nat) (E S P V : Type) where
  engine : Engine n E S P V
  within : Bool

/-- One turn of the loop: `check_threshold`, or the threshold's own function, which
replaces the value by its result. -/
def checkThreshold (c : Fin n) (checking : Checking n E S P V) (threshold : T) :
    Checking n E S P V :=
  let engine := checking.engine
  let dyn := engine.cause c
  let seen := engine.view dyn.value
  if profile.isGeofence threshold then
    match profile.geofence threshold seen with
    | none => ⟨engine, false⟩
    | some inside =>
      let engine := engine.freeValuearray c
      ⟨engine.setCause c { engine.cause c with value := ⟨.bool, .raw (profile.ofBool inside)⟩ },
        inside && checking.within⟩
  else ⟨engine, profile.check threshold dyn.bias seen && checking.within⟩

/-- The end of `check_thresholds`, for a value that is in the limits. -/
def countThreshold (env : Env n) (c : Fin n) (engine : Engine n E S P V) :
    Engine n E S P V × Bool :=
  let conf := profile.cause c
  let dyn := engine.cause c
  let e := profile.eventOf c
  let counter := if 0 < dyn.thresholdCounter then dyn.thresholdCounter - 1 else dyn.thresholdCounter
  let engine := engine.setCause c { dyn with thresholdCounter := counter }
  if 0 < dyn.thresholdCounter ∧ 0 < counter then (engine, false)
  else if conf.orderId = 0 then (engine, true)
  else if conf.orderId ≠ engine.expectedOrderId e then
    ((initEvent profile (reinitCause profile env) e engine).1, false)
  else
    ({ engine with
      expectedOrderId := Function.update engine.expectedOrderId e (engine.expectedOrderId e + 1) },
      true)

def checkThresholds (env : Env n) (c : Fin n) (engine : Engine n E S P V) :
    Engine n E S P V × Bool :=
  let conf := profile.cause c
  let dyn := engine.cause c
  let e := profile.eventOf c
  if dyn.measureBias then
    (engine.setCause c { dyn with bias := dyn.value, measureBias := false }, false)
  else if 0 < dyn.measurementCounter then
    let engine := engine.setCause c { dyn with measurementCounter := dyn.measurementCounter - 1 }
    if dyn.measurementCounter - 1 = 0 then ((uninitCause profile c engine).1, true)
    else (engine, false)
  else if conf.thresholds = [] then (engine, false)
  else
    let checked := conf.thresholds.foldl (checkThreshold profile c) ⟨engine, true⟩
    if checked.within = conf.negate then
      if conf.orderId ≠ 0 then
        ((initEvent profile (reinitCause profile env) e checked.engine).1, false)
      else
        (checked.engine.setCause c
          { checked.engine.cause c with thresholdCounter := conf.thresholdCount }, false)
    else countThreshold profile env c checked.engine

def allCausesTriggered (e : E) (engine : Engine n E S P V) : Bool :=
  (profile.causes e).all (fun c => (engine.cause c).triggered)

/-- `purpose_changing` in `handle_cause_event`. -/
def purposeChanging (e : E) (engine : Engine n E S P V) : Bool :=
  decide (profile.gotoPuId e ≠ -1) &&
    decide (engine.currentPurpose.map profile.puId ≠ some (profile.gotoPuId e))

/-- `state_changing` in `handle_cause_event`. -/
def stateChanging (e : E) (engine : Engine n E S P V) : Bool :=
  purposeChanging profile e engine ||
    (decide (profile.gotoStId e ≠ -1) &&
      decide (engine.currentState.map profile.stId ≠ some (profile.gotoStId e)))

/-- The purpose that `handle_cause_event` changes to. -/
def gotoPurpose (e : E) (engine : Engine n E S P V) : Int :=
  if purposeChanging profile e engine then profile.gotoPuId e
  else (engine.currentPurpose.map profile.puId).getD (-1)

def afterActions (env : Env n) (e : E) (engine : Engine n E S P V) : Engine n E S P V :=
  if stateChanging profile e engine then
    let after :=
      (initProfile profile env (gotoPurpose profile e engine) (profile.gotoStId e) engine).1
    if after.currentState = engine.currentState ∧ after.currentPurpose = engine.currentPurpose then
      after
    else after.record .moved
  else (initEvent profile (reinitCause profile env) e engine).1

def handleCauseEvent (env : Env n) (c : Fin n) (engine : Engine n E S P V) :
    Engine n E S P V :=
  let e := profile.eventOf c
  let checked :=
    checkThresholds profile env c
      (engine.record (.evaluated c (engine.view (engine.cause c).value)))
  let engine := checked.1.setCause c { checked.1.cause c with triggered := checked.2 }
  let engine :=
    if checked.2 then
      let engine := engine.record (.triggered c)
      if allCausesTriggered profile e engine then
        afterActions profile env e (engine.record (.fired e))
      else engine
    else engine
  engine.freeValuearray c

end Engine

/-- A call of `handle_cause` for the cause `source` that is going on. -/
structure Walk (n : Nat) where
  source : Fin n
  iterator : Option (Fin n)

/-- The engine and the call of `handle_cause` that is going on, if there is one. -/
structure Machine (n : Nat) (E S P V : Type) where
  engine : Engine n E S P V
  walk : Option (Walk n)

/-- What happens next. A sense delivers a value through `handle_cause`, or to one
cause only through `handle_cause_event`; `next` is one turn of the loop of
`handle_cause`. -/
inductive Action (n : Nat) (V : Type) where
  | main
  | sample (source : Fin n) (sample : Sample V)
  | direct (c : Fin n) (sample : Sample V)
  | next
  | stop (free : Bool)
  | continue

namespace Engine

variable (profile : Profile n E S P T V)

def deliver (c : Fin n) (engine : Engine n E S P V) : Sample V → Engine n E S P V
  | .plain valuetype value =>
    engine.setCause c { engine.cause c with value := ⟨valuetype, .raw value⟩ }
  | .array values =>
    let value : Value V := ⟨.array, .items values.length (some engine.nextBlock)⟩
    { engine.setCause c { engine.cause c with value := value } with
      memory := Function.update engine.memory engine.nextBlock (some values)
      nextBlock := engine.nextBlock + 1 }

def profileMain (env : Env n) (engine : Engine n E S P V) : Engine n E S P V :=
  let started := initProfile profile env (-1) (-1)
    { engine with currentPurpose := none, currentState := none, globalStates := [] }
  if started.2 then { started.1 with state := .running } else started.1

def profileStop (free : Bool) (engine : Engine n E S P V) : Engine n E S P V :=
  let engine := uninitGlobalStates profile engine
  let engine :=
    match engine.currentState with
    | none => engine
    | some s => (leaveState profile s engine).1
  { engine with state := if free then .stopped else .paused }

def profileContinue (env : Env n) (engine : Engine n E S P V) : Engine n E S P V :=
  match engine.currentPurpose, engine.currentState with
  | some p, some s =>
    let globals := initGlobalStates profile env p engine
    if globals.2 then
      let entered := enterState profile env s globals.1
      if entered.2 then { entered.1 with state := .running } else entered.1
    else globals.1
  | _, _ => engine

end Engine

namespace Machine

variable (profile : Profile n E S P T V)

/-- The copy of the sample that `handle_cause` makes for a cause with the same sense
id. -/
def copyValue (source c : Fin n) (engine : Engine n E S P V) : Engine n E S P V :=
  engine.setCause c { engine.cause c with value := (engine.cause source).value }

/-- One turn of the loop of `handle_cause`. -/
def nextTurn (env : Env n) (walk : Walk n) (machine : Machine n E S P V) : Machine n E S P V :=
  match walk.iterator with
  | none => { machine with walk := none }
  | some c =>
    let engine :=
      if (profile.cause c).sId = (profile.cause walk.source).sId then
        (copyValue walk.source c machine.engine).handleCauseEvent profile env c
      else machine.engine
    ⟨engine, some { walk with iterator := engine.flink c }⟩

/-- One step of a run. A step that is not possible changes nothing. -/
def step (machine : Machine n E S P V) (action : Action n V × Env n) : Machine n E S P V :=
  let engine := machine.engine
  let env := action.2
  match machine.walk, action.1 with
  | some walk, .next => machine.nextTurn profile env walk
  | some _, _ => machine
  | none, .main =>
    if engine.state = .stopped then ⟨engine.profileMain profile env, none⟩ else machine
  | none, .sample source sample =>
    if engine.state = .running ∧ (engine.cause source).initialised then
      ⟨engine.deliver source sample,
        some ⟨source, (engine.activeCauses (profile.stateOfCause source)).head⟩⟩
    else machine
  | none, .direct c sample =>
    if engine.state = .running ∧ (engine.cause c).initialised then
      ⟨(engine.deliver c sample).handleCauseEvent profile env c, none⟩
    else machine
  | none, .stop free =>
    if engine.state = .running then ⟨engine.profileStop profile free, none⟩ else machine
  | none, .continue =>
    if engine.state = .paused then ⟨engine.profileContinue profile env, none⟩ else machine
  | none, .next => machine

/-- The cause that a step evaluates, and the engine in front of its
`handle_cause_event`. -/
def evaluates (machine : Machine n E S P V) (action : Action n V) :
    Option (Fin n × Engine n E S P V) :=
  match machine.walk, action with
  | some walk, .next =>
    match walk.iterator with
    | none => none
    | some c =>
      if (profile.cause c).sId = (profile.cause walk.source).sId then
        some (c, copyValue walk.source c machine.engine)
      else none
  | none, .direct c sample =>
    if machine.engine.state = .running ∧ (machine.engine.cause c).initialised then
      some (c, machine.engine.deliver c sample)
    else none
  | _, _ => none

def run (machine : Machine n E S P V) (actions : List (Action n V × Env n)) : Machine n E S P V :=
  actions.foldl (step profile) machine

/-- The engine before `profile_main`, with the zeros of its allocation. -/
def initial (n : Nat) (E S P : Type) {V : Type} (zero : V) : Machine n E S P V where
  engine :=
    { cause := fun _ =>
      { triggered := false
        measureBias := false
        measurementCounter := 0
        thresholdCounter := 0
        value := ⟨.double, .raw zero⟩
        bias := ⟨.double, .raw zero⟩
        initialised := false
        held := false
        leaked := false
        calls := [] }
      expectedOrderId := fun _ => 0
      activeCauses := fun _ => ⟨none, none⟩
      flink := fun _ => none
      currentPurpose := none
      currentState := none
      globalStates := []
      state := .stopped
      memory := fun _ => none
      nextBlock := 0
      log := [] }
  walk := none

end Machine

namespace Engine

variable (profile : Profile n E S P T V)

/-- Whether the evaluation of a cause makes its event perform its actions. -/
def fires (env : Env n) (c : Fin n) (engine : Engine n E S P V) : Bool :=
  let checked :=
    checkThresholds profile env c
      (engine.record (.evaluated c (engine.view (engine.cause c).value)))
  checked.2 &&
    allCausesTriggered profile (profile.eventOf c)
      (checked.1.setCause c { checked.1.cause c with triggered := true })

/-- The purpose and the state that an event goes to, if they exist. -/
def target (e : E) (engine : Engine n E S P V) : Option (P × S) :=
  (profile.findPurpose (gotoPurpose profile e engine)).bind (fun p =>
    (profile.findState p (profile.gotoStId e)).map (fun s => (p, s)))

end Engine

end Thingsee.Profiles
