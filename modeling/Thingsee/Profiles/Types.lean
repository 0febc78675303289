import Thingsee.Support.Queue

/-!
Owns the data of the profile engine in `apps/ts_engine/engine`: a profile with its
purposes, states, events and causes, the values that senses deliver, and the state
of the engine while it executes the profile.

Causes are numbers below `n`; events, states and purposes are arbitrary types. How
a value is compared with a threshold is a parameter of the profile, so that
nothing here depends on floating point numbers.

The engine keeps a record of what it does. It is not in the source.
-/

namespace Thingsee.Profiles

open Support

theorem neZero_one : @NeZero Nat Zero.ofOfNat0 1 := ⟨Nat.one_ne_zero⟩

theorem neZero_two : @NeZero Nat Zero.ofOfNat0 2 := ⟨Nat.succ_ne_zero 1⟩

/-- `enum ts_valuetype_t`. -/
inductive ValueType where
  | double
  | uint16
  | uint32
  | int16
  | int32
  | string
  | array
  | bool
  | hexString
  | arrayFirstString
deriving DecidableEq

/-- The union of `struct ts_value`: a plain value or the items of an array, which
are in an allocated block unless the pointer is `NULL`. -/
inductive Data (V : Type) where
  | raw (value : V)
  | items (number : Nat) (block : Option Nat)

/-- `struct ts_value`. -/
structure Value (V : Type) where
  valuetype : ValueType
  data : Data V

inductive Contents (V : Type) where
  | raw (value : V)
  | items (values : List V)
  | null (number : Nat)
  | dangling

structure Seen (V : Type) where
  valuetype : ValueType
  contents : Contents V

/-- A value that a sense delivers. -/
inductive Sample (V : Type) where
  | plain (valuetype : ValueType) (value : V)
  | array (values : List V)

/-- `conf` of a cause, with the sense id and `sense_info->min.valuetype`. `holds` tells if
its sense has a timer or an open file while it is initialised. -/
structure CauseConf (T : Type) where
  sId : Nat
  orderId : Int
  interval : Int
  count : Int
  thresholdCount : Int
  negate : Bool
  relative : Bool
  thresholds : List T
  minType : ValueType
  holds : Bool

/-- `struct ts_profile` with everything below it. `check` compares a value with a
threshold, relative to a bias; `geofence` does it for a threshold with its own
function, which is `none` where that function gives up early. -/
structure Profile (n : Nat) (E S P T V : Type) where
  cause : Fin n → CauseConf T
  eventOf : Fin n → E
  stateOf : E → S
  purposeOf : S → P
  causes : E → List (Fin n)
  events : S → List E
  states : P → List S
  purposes : List P
  gotoStId : E → Int
  gotoPuId : E → Int
  stId : S → Int
  isGlobal : S → Bool
  puId : P → Int
  initStId : P → Int
  initPuId : Int
  check : T → Value V → Seen V → Bool
  isGeofence : T → Bool
  geofence : T → Seen V → Option Bool
  ofBool : Bool → V
  mem_causes : ∀ c e, c ∈ causes e ↔ eventOf c = e
  mem_events : ∀ e s, e ∈ events s ↔ stateOf e = s
  mem_states : ∀ s p, s ∈ states p ↔ purposeOf s = p

namespace Profile

variable {n : Nat} {E S P T V : Type}

def stateOfCause (profile : Profile n E S P T V) (c : Fin n) : S :=
  profile.stateOf (profile.eventOf c)

/-- `find_state_by_id`. -/
def findState (profile : Profile n E S P T V) (p : P) (id : Int) : Option S :=
  let id := if id = -1 then profile.initStId p else id
  (profile.states p).find? (fun s => decide (profile.stId s = id))

/-- `find_purpose_by_id`. -/
def findPurpose (profile : Profile n E S P T V) (id : Int) : Option P :=
  let id := if id = -1 then profile.initPuId else id
  profile.purposes.find? (fun p => decide (profile.puId p = id))

/-- `is_active_relative_cause`. -/
def isActiveRelative (profile : Profile n E S P T V) (c : Fin n) : Bool :=
  decide ((profile.cause c).interval ≠ -1) && (profile.cause c).relative

def globals (profile : Profile n E S P T V) (p : P) : List S :=
  (profile.states p).filter profile.isGlobal

/-- The lists of a profile have no repetitions, as they are queues of their items. -/
structure Proper (profile : Profile n E S P T V) : Prop where
  causes : ∀ e, (profile.causes e).Nodup
  events : ∀ s, (profile.events s).Nodup
  states : ∀ p, (profile.states p).Nodup

end Profile

/-- A call of the init or the uninit operation of a sense. -/
inductive SenseCall where
  | init
  | uninit
deriving DecidableEq

/-- `dyn` of a cause. `initialised` tells if its sense is running, and `held` if `timer_id`
or `fd` is set. `leaked` tells if an assertion of `init_cause` about them has failed, and
`calls` is the record of calls, the last one first. -/
structure CauseDyn (V : Type) where
  triggered : Bool
  measureBias : Bool
  measurementCounter : Int
  thresholdCounter : Int
  value : Value V
  bias : Value V
  initialised : Bool
  held : Bool
  leaked : Bool
  calls : List SenseCall

/-- What the engine does. -/
inductive Entry (n : Nat) (E S V : Type) where
  | evaluated (c : Fin n) (seen : Seen V)
  | triggered (c : Fin n)
  | fired (e : E)
  | left (s : S)
  | entered (s : S)
  | moved

/-- `enum ts_engine_state`. -/
inductive EngineState where
  | stopped
  | running
  | paused
deriving DecidableEq

/-- `struct ts_engine` with the `dyn` parts of the profile and the memory for
arrays. `log` has the newest entry first. -/
structure Engine (n : Nat) (E S P V : Type) where
  cause : Fin n → CauseDyn V
  expectedOrderId : E → Int
  activeCauses : S → Queue (Fin n)
  flink : Links (Fin n)
  currentPurpose : Option P
  currentState : Option S
  globalStates : List S
  state : EngineState
  memory : Nat → Option (List V)
  nextBlock : Nat
  log : List (Entry n E S V)

/-- What can fail: the initialisation of the sense of each cause, and the memory for
a global state. -/
structure Env (n : Nat) where
  starts : Fin n → Bool
  allocated : Bool

namespace Engine

variable {n : Nat} {E S P V : Type}

/-- Changes the `dyn` part of one cause. -/
def setCause (engine : Engine n E S P V) (c : Fin n) (dyn : CauseDyn V) : Engine n E S P V :=
  { engine with cause := Function.update engine.cause c dyn }

def record (engine : Engine n E S P V) (entry : Entry n E S V) : Engine n E S P V :=
  { engine with log := entry :: engine.log }

def view (engine : Engine n E S P V) (value : Value V) : Seen V where
  valuetype := value.valuetype
  contents :=
    match value.data with
    | .raw v => .raw v
    | .items number none => .null number
    | .items _ (some block) =>
      match engine.memory block with
      | some values => .items values
      | none => .dangling

end Engine

end Thingsee.Profiles
