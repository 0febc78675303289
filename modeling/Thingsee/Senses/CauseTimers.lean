import Mathlib.Order.Bounds.Basic
import Mathlib.Tactic.Linarith
import Thingsee.Core.Timers

/-!
Owns the timers of periodic causes in `apps/ts_engine/engine/sense.c`: whether the dates of a
cause stay on the grid that its first time and its interval span.

The loop of `start_cause_timer` may not end, so that it has fuel. What the timers of `ts_core`
do with a date is not part of the model: a run is a list of times at which they call back.
-/

namespace Thingsee.Senses

open Thingsee.Core

variable {interval : Int} {time : Timespec}

def deepSleepRateLimit : Int := 1000

/-- What `start_cause_timer` uses of a cause: `conf.measurement.interval`, `dyn.time` and
`dyn.timer_id`. -/
structure TimedCause where
  interval : Int
  time : Timespec
  timerId : Int

/-- The calls of `ts_core_timer_setup` and `ts_core_timer_setup_date`. -/
inductive TimerSetup where
  | interval (milliseconds : Int)
  | date (date : Timespec)

def causeTimerInPast (time currts : Timespec) : Bool :=
  if time.tvSec = currts.tvSec then decide (time.tvNsec < currts.tvNsec)
  else decide (time.tvSec < currts.tvSec)

/-- The next step of the grid. The inner loop is done at once. -/
def nextStep (interval : Int) (time : Timespec) : Timespec :=
  let nsec := time.tvNsec + interval.tmod 1000 * (1000 * 1000)
  ⟨time.tvSec + BitVec.ofInt 32 (interval.tdiv 1000) + BitVec.ofInt 32
    (nsec / (1000 * 1000 * 1000)),
    nsec % (1000 * 1000 * 1000)⟩

/-- The loop of `start_cause_timer`. -/
def adjustTime (interval : Int) (currts : Timespec) : Nat → Timespec → Option Timespec
  | 0, _ => none
  | fuel + 1, time =>
    if causeTimerInPast (nextStep interval time) currts then
      adjustTime interval currts fuel (nextStep interval time)
    else some (nextStep interval time)

/-- `start_cause_timer`, with the identifier that the setup of the timer returns. -/
def startCauseTimer (fuel : Nat) (cause : TimedCause) (currts : Timespec) (timerId : Int) :
    Option (TimerSetup × TimedCause × Bool) :=
  if cause.interval < deepSleepRateLimit then
    some (.interval cause.interval, { cause with timerId := timerId }, decide (0 ≤ timerId))
  else
    (adjustTime cause.interval currts fuel cause.time).map (fun time =>
      (.date time, { cause with time := time, timerId := timerId }, decide (0 ≤ timerId)))

/-- `cause_timer_callback_date` until the value of the cause is read. -/
def causeTimerCallbackDate (fuel : Nat) (cause : TimedCause) (currts : Timespec) (timerId : Int) :
    Option (TimerSetup × TimedCause × Bool) :=
  startCauseTimer fuel { cause with timerId := -1 } currts timerId

/-- `engine_cause_request_value` for a cause with an interval and a sense that is read. -/
def engineCauseRequestValue (fuel : Nat) (cause : TimedCause) (time currts : Timespec)
    (timerId : Int) : Option (TimerSetup × TimedCause × Bool) :=
  startCauseTimer fuel { cause with time := time } currts timerId

def gridDate (start interval : Int) (index : Nat) : Int := start + index * (interval * 1000000)

/-- The first date of the grid behind another one that has not passed. -/
def NextDate (start interval : Int) (index : Nat) (now : Int) (next : Nat) : Prop :=
  IsLeast { later : Nat | index < later ∧ now ≤ gridDate start interval later } next

def nextIndex (start interval : Int) (index : Nat) (now : Int) : Nat :=
  max (index + 1) ((now - start + interval * 1000000 - 1) / (interval * 1000000)).toNat

theorem nextIndex_nextDate (positive : 0 < interval) (start : Int) (index : Nat) (now : Int) :
    NextDate start interval index now (nextIndex start interval index now) := by
  have step : 0 < interval * 1000000 := by omega
  unfold nextIndex
  constructor
  · refine ⟨by omega, ?_⟩
    have reached := Int.lt_ediv_add_one_mul_self (now - start + interval * 1000000 - 1) step
    have enough : (now - start + interval * 1000000 - 1) / (interval * 1000000) ≤
        (max (index + 1)
          ((now - start + interval * 1000000 - 1) / (interval * 1000000)).toNat : Nat) := by
      omega
    have product := Int.mul_le_mul_of_nonneg_right enough (Int.le_of_lt step)
    unfold gridDate
    linarith
  · rintro later ⟨behind, notPassed⟩
    have below : (now - start + interval * 1000000 - 1) / (interval * 1000000) < later + 1 := by
      apply Int.ediv_lt_of_lt_mul step
      unfold gridDate at notPassed
      linarith
    omega

/-- A call of `start_cause_timer`: the time, and the identifier of the timer. -/
structure Firing where
  currts : Timespec
  timerId : Int

/-- A call ends, and requests the next date of the grid. `continues` is about the calls behind. -/
def RequestsNext (call : Nat → Option (TimerSetup × TimedCause × Bool)) (start interval : Int)
    (index : Nat) (now : Int) (continues : TimedCause → Nat → Prop) : Prop :=
  ∃ fuel date cause ok next, call fuel = some (.date date, cause, ok) ∧ date.Normal ∧
    date.nsecs = gridDate start interval next ∧ NextDate start interval index now next ∧
    continues cause next

/-- All calls of `cause_timer_callback_date` do, as long as none is before the date that was
requested. -/
def CallbacksOnGrid (start : Int) : TimedCause → Nat → List Firing → Prop
  | _, _, [] => True
  | cause, index, firing :: rest =>
    firing.currts.Normal → cause.time.nsecs ≤ firing.currts.nsecs →
      RequestsNext (fun fuel => causeTimerCallbackDate fuel cause firing.currts firing.timerId)
        start cause.interval index firing.currts.nsecs
        (fun next nextIndex => CallbacksOnGrid start next nextIndex rest)

/-- `engine_cause_request_value` does, and then all callbacks do. -/
def StaysOnGrid (cause : TimedCause) (time : Timespec) : List Firing → Prop
  | [] => True
  | first :: rest =>
    first.currts.Normal → time.nsecs ≤ first.currts.nsecs →
      RequestsNext
        (fun fuel => engineCauseRequestValue fuel cause time first.currts first.timerId)
        time.nsecs cause.interval 0 first.currts.nsecs
        (fun next nextIndex => CallbacksOnGrid time.nsecs next nextIndex rest)

/-- All dates that are to be requested are less than 2^32 seconds behind the start of the clock. -/
def InTime (start interval : Int) : Nat → List Firing → Prop
  | _, [] => True
  | index, firing :: rest =>
    firing.currts.Normal → gridDate start interval index ≤ firing.currts.nsecs →
      gridDate start interval (nextIndex start interval index firing.currts.nsecs) <
          2 ^ 32 * 1000000000 ∧
        InTime start interval (nextIndex start interval index firing.currts.nsecs) rest

theorem causeTimerInPast_iff {currts : Timespec} (normal : time.Normal)
    (currtsNormal : currts.Normal) :
    causeTimerInPast time currts = true ↔ time.nsecs < currts.nsecs := by
  unfold Timespec.Normal at normal currtsNormal
  unfold causeTimerInPast Timespec.nsecs
  by_cases same : time.tvSec = currts.tvSec
  · rw [if_pos same, same, decide_eq_true_iff]
    omega
  · have different : time.tvSec.toNat ≠ currts.tvSec.toNat :=
      fun equal => same (BitVec.eq_of_toNat_eq equal)
    rw [if_neg same, decide_eq_true_iff, BitVec.lt_def]
    omega

theorem nsecs_bounds (normal : time.Normal) :
    0 ≤ time.nsecs ∧ time.nsecs < 2 ^ 32 * 1000000000 := by
  have bits := time.tvSec.isLt
  unfold Timespec.Normal at normal
  unfold Timespec.nsecs
  omega

theorem nsecs_injective {other : Timespec} (normal : time.Normal) (otherNormal : other.Normal)
    (same : time.nsecs = other.nsecs) : time = other := by
  obtain ⟨tvSec, tvNsec⟩ := time
  obtain ⟨otherSec, otherNsec⟩ := other
  unfold Timespec.Normal at normal otherNormal
  simp only [Timespec.nsecs] at same normal otherNormal
  have seconds : tvSec = otherSec := BitVec.eq_of_toNat_eq (by omega)
  subst seconds
  rw [Timespec.mk.injEq]
  exact ⟨rfl, by omega⟩

theorem exists_time {nsecs : Int} (nonneg : 0 ≤ nsecs) (small : nsecs < 2 ^ 32 * 1000000000) :
    ∃ time : Timespec, time.Normal ∧ time.nsecs = nsecs := by
  refine ⟨⟨BitVec.ofInt 32 (nsecs / 1000000000), nsecs % 1000000000⟩, ?_, ?_⟩
  · simp only [Timespec.Normal]
    omega
  · simp only [Timespec.nsecs, BitVec.toNat_ofInt]
    omega

theorem nextStep_spec (time : Timespec) (long : deepSleepRateLimit ≤ interval)
    (bits : interval < 2 ^ 31) (normal : time.Normal)
    (inTime : time.nsecs + interval * 1000000 < 2 ^ 32 * 1000000000) :
    (nextStep interval time).Normal ∧
      (nextStep interval time).nsecs = time.nsecs + interval * 1000000 := by
  unfold deepSleepRateLimit at long
  unfold Timespec.Normal Timespec.nsecs at *
  unfold nextStep
  rw [Int.tdiv_eq_ediv_of_nonneg (by omega), Int.tmod_eq_emod_of_nonneg (by omega)]
  simp only [BitVec.toNat_add, BitVec.toNat_ofInt]
  have secBits := time.tvSec.isLt
  omega

theorem adjustTime_eq {currts : Timespec} (long : deepSleepRateLimit ≤ interval)
    (bits : interval < 2 ^ 31) (normal : time.Normal) (currtsNormal : currts.Normal) (past : Nat)
    (passed : ∀ rounds, 1 ≤ rounds → rounds ≤ past →
      time.nsecs + rounds * (interval * 1000000) < currts.nsecs)
    (reached : currts.nsecs ≤ time.nsecs + (past + 1) * (interval * 1000000))
    (inTime : time.nsecs + (past + 1) * (interval * 1000000) < 2 ^ 32 * 1000000000) :
    ∃ date, adjustTime interval currts (past + 1) time = some date ∧ date.Normal ∧
      date.nsecs = time.nsecs + (past + 1) * (interval * 1000000) := by
  unfold deepSleepRateLimit at long
  induction past generalizing time with
  | zero =>
    obtain ⟨nextNormal, nextNsecs⟩ := nextStep_spec time long bits normal (by omega)
    refine ⟨nextStep interval time, ?_, nextNormal, by omega⟩
    rw [adjustTime, if_neg]
    rw [causeTimerInPast_iff nextNormal currtsNormal]
    omega
  | succ past ih =>
    push_cast at reached inTime
    have rest : 0 ≤ (past + 1) * (interval * 1000000) := by positivity
    obtain ⟨nextNormal, nextNsecs⟩ :=
      nextStep_spec time long bits normal (by linarith)
    have first := passed 1 (by omega) (by omega)
    rw [adjustTime, if_pos]
    · obtain ⟨date, run, dateNormal, dateNsecs⟩ := ih nextNormal
        (fun rounds positive few => by
          have later := passed (rounds + 1) (by omega) (by omega)
          push_cast at later
          linarith)
        (by linarith) (by linarith)
      refine ⟨date, run, dateNormal, ?_⟩
      push_cast
      linarith
    · rw [causeTimerInPast_iff nextNormal currtsNormal]
      push_cast at first
      linarith

variable {start : Int} {cause : TimedCause} {index : Nat} {currts : Timespec} {timerId : Int}

theorem startCauseTimer_iff (long : deepSleepRateLimit ≤ cause.interval)
    (bits : cause.interval < 2 ^ 31) (normal : cause.time.Normal)
    (onGrid : cause.time.nsecs = gridDate start cause.interval index)
    (currtsNormal : currts.Normal) (continues : TimedCause → Nat → Prop) :
    RequestsNext (fun fuel => startCauseTimer fuel cause currts timerId) start cause.interval index
        currts.nsecs continues ↔
      gridDate start cause.interval (nextIndex start cause.interval index currts.nsecs) <
          2 ^ 32 * 1000000000 ∧
        ∃ date : Timespec, date.Normal ∧
          date.nsecs =
            gridDate start cause.interval (nextIndex start cause.interval index currts.nsecs) ∧
          continues { cause with time := date, timerId := timerId }
            (nextIndex start cause.interval index currts.nsecs) := by
  have noInterval : ¬ cause.interval < deepSleepRateLimit := by omega
  have positive : 0 < cause.interval := by
    unfold deepSleepRateLimit at long
    omega
  have nextDate := nextIndex_nextDate positive start index currts.nsecs
  generalize nextIndex start cause.interval index currts.nsecs = next at nextDate ⊢
  unfold startCauseTimer RequestsNext
  simp only [if_neg noInterval]
  constructor
  · rintro ⟨fuel, date, found, ok, reached, run, dateNormal, dateNsecs, least, continued⟩
    obtain rfl := least.unique nextDate
    obtain ⟨time, -, result⟩ := Option.map_eq_some_iff.mp run
    simp only [Prod.mk.injEq, TimerSetup.date.injEq] at result
    obtain ⟨rfl, rfl, -⟩ := result
    have bounds := nsecs_bounds dateNormal
    exact ⟨by omega, time, dateNormal, dateNsecs, continued⟩
  · rintro ⟨inTime, date, dateNormal, dateNsecs, continued⟩
    obtain ⟨past, rfl⟩ : ∃ past, next = index + past + 1 := by
      have behind := nextDate.1.1
      exact ⟨next - index - 1, by omega⟩
    have notPassed := nextDate.1.2
    unfold gridDate at onGrid inTime dateNsecs notPassed
    push_cast at inTime dateNsecs notPassed
    obtain ⟨time, run, timeNormal, timeNsecs⟩ := adjustTime_eq long bits normal
      currtsNormal past
      (fun rounds positive few => by
        by_contra notBefore
        have later := nextDate.2 (show index + rounds ∈ _ from ⟨by omega, by
          unfold gridDate
          push_cast
          linarith⟩)
        omega)
      (by linarith) (by linarith)
    obtain rfl := nsecs_injective timeNormal dateNormal (by linarith)
    refine ⟨past + 1, time, _, decide (0 ≤ timerId), _, ?_, dateNormal, ?_, nextDate, continued⟩
    · rw [run]
      rfl
    · unfold gridDate
      push_cast
      linarith

theorem callbacksOnGrid_iff (long : deepSleepRateLimit ≤ cause.interval)
    (bits : cause.interval < 2 ^ 31) (normal : cause.time.Normal)
    (onGrid : cause.time.nsecs = gridDate start cause.interval index) (firings : List Firing) :
    CallbacksOnGrid start cause index firings ↔ InTime start cause.interval index firings := by
  induction firings generalizing cause index with
  | nil => exact Iff.rfl
  | cons firing rest ih =>
    apply imp_congr_right
    intro currtsNormal
    rw [← onGrid]
    apply imp_congr_right
    intro _
    unfold causeTimerCallbackDate
    rw [startCauseTimer_iff
      (show _ ≤ ({ cause with timerId := -1 } : TimedCause).interval from long) bits normal onGrid
      currtsNormal]
    apply and_congr_right
    intro inTime
    have nonneg : 0 ≤ gridDate start cause.interval
        (nextIndex start cause.interval index firing.currts.nsecs) := by
      have passed := (nsecs_bounds currtsNormal).1
      have next := (nextIndex_nextDate
        (show 0 < cause.interval by unfold deepSleepRateLimit at long; omega) start index
          firing.currts.nsecs).1.2
      omega
    constructor
    · rintro ⟨date, dateNormal, dateNsecs, continued⟩
      exact (ih
        (show _ ≤ (⟨cause.interval, date, firing.timerId⟩ : TimedCause).interval from long) bits
        dateNormal dateNsecs).mp continued
    · intro continued
      obtain ⟨date, dateNormal, dateNsecs⟩ := exists_time nonneg inTime
      exact ⟨date, dateNormal, dateNsecs,
        (ih
          (show _ ≤ (⟨cause.interval, date, firing.timerId⟩ : TimedCause).interval from long) bits
          dateNormal dateNsecs).mpr continued⟩

/-- A cause stays on its grid exactly as long as the next dates are less than 2^32 seconds behind
the start of the clock. -/
theorem staysOnGrid_iff (cause : TimedCause) (time : Timespec) (firings : List Firing)
    (long : deepSleepRateLimit ≤ cause.interval) (bits : cause.interval < 2 ^ 31)
    (normal : time.Normal) :
    StaysOnGrid cause time firings ↔ InTime time.nsecs cause.interval 0 firings := by
  have onGrid : time.nsecs = gridDate time.nsecs cause.interval 0 := by
    unfold gridDate
    omega
  have callbacks := callbacksOnGrid_iff
    (show _ ≤ ({ cause with time := time } : TimedCause).interval from long) bits normal
      onGrid firings
  rw [← callbacks]
  cases firings with
  | nil => exact Iff.rfl
  | cons first rest => exact Iff.rfl

/-- The third call is late: the dates 12.3, 13.8 and 21.3 are requested. -/
theorem staysOnGrid_iff_late :
    StaysOnGrid ⟨1500, ⟨0, 0⟩, -1⟩ ⟨10, 800000000⟩
      [⟨⟨10, 900000000⟩, 0⟩, ⟨⟨12, 300000000⟩, 0⟩, ⟨⟨20, 0⟩, 0⟩] := by
  rw [staysOnGrid_iff _ _ _ (by decide) (by decide) (by decide)]
  exact fun _ _ => ⟨by decide, fun _ _ => ⟨by decide, fun _ _ => ⟨by decide, trivial⟩⟩⟩

theorem adjustTime_even (even : time.tvSec.toNat % 2 = 0) (whole : time.tvNsec = 0) (fuel : Nat) :
    adjustTime 2000 ⟨4294967295, 0⟩ fuel time = none := by
  induction fuel generalizing time with
  | zero => rfl
  | succ fuel ih =>
    have next : nextStep 2000 time = ⟨time.tvSec + 2, 0⟩ := by
      simp only [nextStep, whole]
      exact congrArg (fun sec => (⟨sec, 0⟩ : Timespec)) (BitVec.add_zero _)
    have nextEven : (time.tvSec + 2).toNat % 2 = 0 := by
      rw [BitVec.toNat_add, show BitVec.toNat (2 : BitVec 32) = 2 from rfl]
      omega
    have past : causeTimerInPast ⟨time.tvSec + 2, 0⟩ ⟨4294967295, 0⟩ = true := by
      have wholeNormal : ∀ sec : BitVec 32, Timespec.Normal ⟨sec, 0⟩ := by
        intro sec
        simp [Timespec.Normal]
      rw [causeTimerInPast_iff (wholeNormal _) (wholeNormal _)]
      have bits := (time.tvSec + 2).isLt
      simp only [Timespec.nsecs, show BitVec.toNat (4294967295 : BitVec 32) = 4294967295 from rfl]
      omega
    rw [adjustTime, next, if_pos past]
    exact ih nextEven rfl

/-- In the last second of the clock, a cause with an interval of two seconds looks for the next
date forever. -/
theorem engineCauseRequestValue_endless :
    (∀ fuel, engineCauseRequestValue fuel ⟨2000, ⟨0, 0⟩, -1⟩ ⟨4294967294, 0⟩ ⟨4294967295, 0⟩ 0 =
      none) ∧
    ¬ StaysOnGrid ⟨2000, ⟨0, 0⟩, -1⟩ ⟨4294967294, 0⟩ [⟨⟨4294967295, 0⟩, 0⟩] := by
  have endless : ∀ fuel,
      engineCauseRequestValue fuel ⟨2000, ⟨0, 0⟩, -1⟩ ⟨4294967294, 0⟩ ⟨4294967295, 0⟩ 0 = none := by
    intro fuel
    rw [engineCauseRequestValue, startCauseTimer, if_neg (by decide),
      adjustTime_even (by decide) rfl]
    rfl
  refine ⟨endless, fun stays => ?_⟩
  obtain ⟨fuel, date, cause, ok, next, run, -⟩ := stays (by decide) (by decide)
  nomatch (endless fuel).symm.trans run

end Thingsee.Senses
