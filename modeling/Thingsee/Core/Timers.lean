import Mathlib.Algebra.GroupWithZero.Nat
import Mathlib.Algebra.Ring.Int.Defs
import Mathlib.Data.List.Nodup
import Thingsee.Support.Runs

/-!
Owns the timers of `apps/thingsee/lib/ts_core.c`: their queues, the loop of
`ts_core_process_timers`, and the times at which timers expire.

A timer's callback sets up and stops whatever timers it likes: a run is a sequence of
calls, and a call is possible while a callback runs and outside of the loop. Timers carry
a serial number and the time of their setup, and there is a record of what happened to
them. They are not in the source.
-/

namespace Thingsee.Core

open Support

/-- `struct timespec`: `time_t` is unsigned, with 32 bits. -/
structure Timespec where
  tvSec : BitVec 32
  tvNsec : Int
deriving DecidableEq

namespace Timespec

/-- The nanoseconds that `timespec_cmp` compares. -/
def nsecs (ts : Timespec) : Int := ts.tvSec.toNat * (1000 * 1000 * 1000) + ts.tvNsec

/-- `timespec_to_msec`. -/
def toMsec (ts : Timespec) : Int := ts.tvSec.toNat * 1000 + ts.tvNsec.tdiv (1000 * 1000)

/-- `timespec_add`, with both loops done at once. -/
def add (ts other : Timespec) : Timespec :=
  let nsec := ts.tvNsec + other.tvNsec
  ⟨ts.tvSec + other.tvSec + BitVec.ofInt 32 (nsec / (1000 * 1000 * 1000)),
    nsec % (1000 * 1000 * 1000)⟩

/-- `timespec_add_msec`. `long` has 32 bits, and callers give it an unsigned number. -/
def addMsec (ts : Timespec) (msec : BitVec 32) : Timespec :=
  ts.add ⟨BitVec.ofInt 32 (msec.toInt.tdiv 1000), msec.toInt.tmod 1000 * (1000 * 1000)⟩

def Normal (ts : Timespec) : Prop := 0 ≤ ts.tvNsec ∧ ts.tvNsec < 1000 * 1000 * 1000

instance (ts : Timespec) : Decidable ts.Normal := inferInstanceAs (Decidable (_ ∧ _))

end Timespec

theorem tdiv_cases (nsecs : Int) :
    (0 ≤ nsecs ∧ nsecs.tdiv 1000000 = nsecs / 1000000) ∨
      (nsecs < 0 ∧ nsecs.tdiv 1000000 = -(-nsecs / 1000000)) := by
  rcases Int.lt_or_le nsecs 0 with negative | positive
  · have negated : nsecs.tdiv 1000000 = -((-nsecs).tdiv 1000000) := by
      rw [Int.neg_tdiv, Int.neg_neg]
    exact .inr ⟨negative, by rw [negated, Int.tdiv_eq_ediv_of_nonneg (by omega)]⟩
  · exact .inl ⟨positive, Int.tdiv_eq_ediv_of_nonneg positive⟩

/-- `ts_timer_type_t`. -/
inductive TimerType where
  | date
  | interval
  | timeout
deriving DecidableEq

/-- `struct timer_s`. -/
structure Timer (C : Type) where
  id : Nat
  type : TimerType
  done : Bool
  dateExpires : Timespec
  intervalMs : BitVec 32
  callback : C
  address : Nat
  serial : Nat
  start : Timespec

structure TimerRun where
  serial : Nat
  type : TimerType
  start : Timespec
  intervalMs : BitVec 32
  expiry : Timespec
  now : Timespec
deriving DecidableEq

/-- What happens to timers. A timer that is not an interval timer has finished when its
callback has returned. -/
inductive TimerEvent where
  | started (serial : Nat)
  | ran (run : TimerRun)
  | finished (serial : Nat)
  | stopped (serial : Nat)
deriving DecidableEq

/-- Where `ts_core_process_timers` is: outside of the loop, at its test, or in the callback
of a timer. In `asserted` the assertion of `execute_timer_callback` has failed. -/
inductive TimerPhase where
  | idle
  | processing
  | calling (serial : Nat)
  | asserted
deriving DecidableEq

/-- The part of `struct ts_core_s` for timers, with the clock. `pass` has the timers that
the loop has run, and `atBegin` is the length of the active queue in front of the loop. -/
structure Timers (C : Type) where
  active : List (Timer C)
  new : List (Timer C)
  doneTimers : List (Timer C)
  now : Timespec
  serials : Nat
  phase : TimerPhase
  pass : List Nat
  atBegin : Nat
  log : List TimerEvent

/-- The heap: `ts_core_get_timer_id` takes addresses modulo its size. -/
structure Heap where
  base : Nat
  size : Nat

/-- What happens next. `address` is the block that `calloc` finds, if it finds one. -/
inductive TimerAction (C : Type) where
  | setup (type : TimerType) (timeoutMs : BitVec 32) (callback : Option C) (address : Option Nat)
  | setupDate (date : Timespec) (callback : Option C) (address : Option Nat)
  | stop (id : Int)
  | tick (now : Timespec)
  | process
  | turn
  | proceed

variable {C : Type}

namespace Timers

def all (timers : Timers C) : List (Timer C) := timers.active ++ timers.new ++ timers.doneTimers

/-- The ordered insertion in `ts_core_gc_timers`. -/
def insert (timer : Timer C) : List (Timer C) → List (Timer C)
  | [] => [timer]
  | active :: rest =>
    if timer.dateExpires.nsecs < active.dateExpires.nsecs then timer :: active :: rest
    else active :: insert timer rest

/-- `ts_core_gc_timers`. -/
def gc (timers : Timers C) : Timers C :=
  { timers with
    active := timers.new.foldl (fun active timer => insert timer active) timers.active
    new := []
    doneTimers := [] }

/-- `calloc` for a timer: it gives a block of the heap that is not in use. -/
def allocates (heap : Heap) (timers : Timers C) (address : Nat) : Bool :=
  decide (heap.base ≤ address) && decide (address < heap.base + heap.size) &&
    decide (address ∉ timers.all.map Timer.address)

/-- `__ts_core_timer_setup`. `TS_CORE_FIRST_TIMER_ID` is 1. -/
def timerSetup (heap : Heap) (type : TimerType) (dateExpires : Timespec) (intervalMs : BitVec 32)
    (callback : Option C) (address : Option Nat) (timers : Timers C) : Timers C :=
  match callback, address with
  | some callback, some address =>
    if timers.allocates heap address then
      let timer : Timer C :=
        ⟨address % heap.size + 1, type, false, dateExpires, intervalMs, callback, address,
          timers.serials, timers.now⟩
      { timers with
        new := timers.new ++ [timer]
        serials := timers.serials + 1
        log := .started timers.serials :: timers.log }
    else timers
  | _, _ => timers

/-- `ts_core_timer_setup`. -/
def setup (heap : Heap) (type : TimerType) (timeoutMs : BitVec 32) (callback : Option C)
    (address : Option Nat) (timers : Timers C) : Timers C :=
  if type = .date then timers
  else timers.timerSetup heap type (timers.now.addMsec timeoutMs) timeoutMs callback address

def setupDate (heap : Heap) (date : Timespec) (callback : Option C) (address : Option Nat)
    (timers : Timers C) : Timers C :=
  timers.timerSetup heap .date date 0 callback address

def remove (id : Int) : List (Timer C) → Option (Timer C × List (Timer C))
  | [] => none
  | timer :: rest =>
    if timer.id = id then some (timer, rest)
    else (remove id rest).map (fun removed => (removed.1, timer :: removed.2))

def finish (timer : Timer C) (event : TimerEvent) (timers : Timers C) : Timers C :=
  { timers with
    doneTimers := timers.doneTimers ++ [{ timer with done := true }]
    log := event :: timers.log }

/-- `__ts_core_timer_stop`. -/
def stop (id : Int) (timers : Timers C) : Timers C :=
  if id < 0 then timers
  else
    match remove id timers.active with
    | some (timer, active) => { timers with active }.finish timer (.stopped timer.serial)
    | none =>
      match remove id timers.new with
      | some (timer, new) => { timers with new }.finish timer (.stopped timer.serial)
      | none => timers

/-- The test of the loop in `ts_core_process_timers` with the call of a callback, and
`ts_core_gc_timers` behind the loop. -/
def turn (timers : Timers C) : Timers C :=
  match timers.active with
  | [] => { timers.gc with phase := .idle }
  | timer :: _ =>
    if timer.dateExpires.toMsec ≤ timers.now.toMsec then
      { timers with
        phase := .calling timer.serial
        pass := timer.serial :: timers.pass
        log := .ran ⟨timer.serial, timer.type, timer.start, timer.intervalMs, timer.dateExpires,
          timers.now⟩ :: timers.log }
    else { timers.gc with phase := .idle }

/-- `execute_timer_callback` behind the call. -/
def proceed (timers : Timers C) (serial : Nat) : Timers C :=
  if timers.doneTimers.any (fun timer => decide (timer.serial = serial) && timer.done) then
    { timers with phase := .processing }
  else
    match timers.active with
    | [] => { timers with phase := .asserted }
    | timer :: active =>
      if timer.serial = serial then
        if timer.type = .interval then
          { timers with
            active
            new := timers.new ++
              [{ timer with dateExpires := timer.dateExpires.addMsec timer.intervalMs }]
            phase := .processing }
        else
          { { timers with active }.finish timer (.finished serial) with phase := .processing }
      else { timers with phase := .asserted }

/-- One step of a run. A step that is not possible changes nothing. -/
def step (heap : Heap) (timers : Timers C) (action : TimerAction C) : Timers C :=
  match timers.phase, action with
  | .asserted, _ => timers
  | _, .tick now =>
    if timers.now.nsecs ≤ now.nsecs ∧ now.Normal then { timers with now } else timers
  | .idle, .process =>
    { timers with phase := .processing, pass := [], atBegin := timers.active.length }
  | .processing, .turn => timers.turn
  | .processing, _ => timers
  | .calling serial, .proceed => timers.proceed serial
  | _, .setup type timeoutMs callback address =>
    timers.setup heap type timeoutMs callback address
  | _, .setupDate date callback address => timers.setupDate heap date callback address
  | _, .stop id => timers.stop id
  | _, _ => timers

def run (heap : Heap) (timers : Timers C) (actions : List (TimerAction C)) : Timers C :=
  actions.foldl (step heap) timers

/-- The timers after `ts_core_initialize`. -/
def initial (C : Type) : Timers C := ⟨[], [], [], ⟨0, 0⟩, 0, .idle, [], 0, []⟩

end Timers

end Thingsee.Core
