import Mathlib.Algebra.Order.Ring.Rat
import Mathlib.Data.List.Nodup
import Mathlib.Logic.Function.Basic
import Thingsee.Support.Runs

/-!
Owns the sharing of the accelerometer between causes, in
`apps/ts_engine/engine/sense_group_acceleration.c`.

There is one callback for each axis, but a reference for each cause, and a cause that goes switches
its axes off. A run also knows which causes are initialised; the code does not. What is written to
the device for every cause alike, and the values of a sample, are left out.
-/

namespace Thingsee.Senses

open Support List

inductive Axis where
  | x
  | y
  | z

/-- `enum accel_senses`, and the callbacks `accel_cb_x` to `accel_cb_impact`. -/
inductive AccelSense where
  | x
  | y
  | z
  | impact
deriving DecidableEq

/-- The axes that a sense switches on and off. -/
def AccelSense.covers : AccelSense → Axis → Bool
  | .x, .x | .y, .y | .z, .z | .impact, _ => true
  | _, _ => false

/-- Two senses have an axis in common. -/
def AccelSense.meets (first second : AccelSense) : Bool :=
  first == second || first == .impact || second == .impact

/-- What `accel_setup` reads of a cause: its sense, and what `__ts_engine_find_threshold`
finds. -/
structure AccelConf where
  sense : AccelSense
  isGt : Option ℚ
  isLt : Option ℚ
  isAny : Option Bool

/-- `ACCEL_MAX`. -/
def accelMax : ℚ := 16

/-- `high`, `low`, `thr_high` and `thr_low` of `accel_setup`. -/
structure AccelLimits where
  high : Bool
  low : Bool
  thrHigh : ℚ
  thrLow : ℚ

def AccelLimits.greater (limits : AccelLimits) : Option ℚ → AccelLimits
  | none => limits
  | some value =>
    if 0 ≤ value then { limits with high := true, thrHigh := value }
    else { limits with low := true, thrLow := -value }

def AccelLimits.lesser (limits : AccelLimits) : Option ℚ → AccelLimits
  | none => limits
  | some value =>
    if 0 ≤ value then { limits with low := true, thrLow := max limits.thrLow value }
    else { limits with high := true, thrHigh := min limits.thrHigh (-value) }

def AccelConf.limits (conf : AccelConf) : AccelLimits :=
  let limits := (AccelLimits.greater ⟨false, false, accelMax, 0⟩ conf.isGt).lesser conf.isLt
  if !limits.high && !limits.low && conf.isAny == some true then
    { limits with low := true, thrLow := accelMax }
  else limits

def AccelConf.limited (conf : AccelConf) : Bool := conf.limits.high || conf.limits.low

/-- `enum accel_threshold_type`. -/
inductive ThresholdType where
  | none
  | low
  | high
deriving DecidableEq

structure AccelThreshold where
  type : ThresholdType
  value : ℚ

/-- What depends on the causes in `struct lis2dh_setup`: which axes are on, which of them interrupt
when they are high and low, and from which value; with the thresholds of `struct accel_s`. The
values are those that `accel_calc_threshold` gets. -/
structure AccelDevice where
  enabled : Axis → Bool
  high : Axis → Bool
  low : Axis → Bool
  int1Threshold : ℚ
  int2Threshold : ℚ
  thr : AccelSense → AccelThreshold

def accelMin (least : ℚ) (thr : AccelThreshold) : ℚ :=
  if thr.type = .high ∧ thr.value < least then thr.value else least

def accelGreatest (most : ℚ) (thr : AccelThreshold) : ℚ :=
  if thr.type = .low ∧ most < thr.value then thr.value else most

def accelSenses : List AccelSense := [.x, .y, .z, .impact]

namespace AccelDevice

/-- The threshold of a sense when it is switched on. -/
def threshold (limits : AccelLimits) (thr : AccelThreshold) : AccelThreshold :=
  let thr :=
    if limits.high then
      ⟨.high, min limits.thrHigh (if thr.value = 0 then accelMax else thr.value)⟩
    else thr
  if limits.low then ⟨.low, max limits.thrLow thr.value⟩ else thr

/-- What `accel_setup` writes with `on`. -/
def turnOn (conf : AccelConf) (device : AccelDevice) : AccelDevice :=
  let limits := conf.limits
  let thr := Function.update device.thr conf.sense (threshold limits (device.thr conf.sense))
  let thresholds := accelSenses.map thr
  { enabled := fun axis => conf.sense.covers axis || device.enabled axis
    high := fun axis => conf.sense.covers axis && limits.high || device.high axis
    low := fun axis => conf.sense.covers axis && limits.low || device.low axis
    int1Threshold :=
      if limits.high then thresholds.foldl accelMin accelMax else device.int1Threshold
    int2Threshold := if limits.low then thresholds.foldl accelGreatest 0 else device.int2Threshold
    thr }

/-- What `accel_setup` writes without `on`. -/
def turnOff (sense : AccelSense) (device : AccelDevice) : AccelDevice :=
  { device with
    enabled := fun axis => !sense.covers axis && device.enabled axis
    high := fun axis => !sense.covers axis && device.high axis
    low := fun axis => !sense.covers axis && device.low axis
    thr := Function.update device.thr sense { device.thr sense with type := .none } }

/-- The types of the thresholds are reset when the device is opened, but not their values. -/
def reset (device : AccelDevice) : AccelDevice :=
  { device with thr := fun sense => { device.thr sense with type := .none } }

/-- The axes of a cause are on, and interrupt for its limits. -/
def Serves (conf : AccelConf) (device : AccelDevice) : Prop :=
  ∀ axis, conf.sense.covers axis = true →
    device.enabled axis = true ∧ (conf.limits.high = true → device.high axis = true) ∧
      (conf.limits.low = true → device.low axis = true)

end AccelDevice

/-- `struct accel_s`. `opened` is a valid `fd`, and `registered` its registration with
`ts_core`. -/
structure Accel (C : Type) where
  opened : Bool
  registered : Bool
  callbacks : List (AccelSense × C)
  refcount : Int
  impactMode : Bool
  device : AccelDevice

variable {C : Type}

namespace Accel

/-- The loop of `accel_callback_register`: the callback gets another cause. -/
def replacePriv (sense : AccelSense) (c : C) :
    List (AccelSense × C) → Option (List (AccelSense × C))
  | [] => none
  | callback :: rest =>
    if callback.1 = sense then some ((sense, c) :: rest)
    else (replacePriv sense c rest).map (callback :: ·)

/-- `accel_callback_register`. `allocated` tells if there is memory. -/
def callbackRegister (allocated : Bool) (sense : AccelSense) (c : C)
    (callbacks : List (AccelSense × C)) : Option (List (AccelSense × C)) :=
  match replacePriv sense c callbacks with
  | some replaced => some replaced
  | none => if allocated then some (callbacks ++ [(sense, c)]) else none

def callbackUnregister (sense : AccelSense) :
    List (AccelSense × C) → Option (List (AccelSense × C))
  | [] => none
  | callback :: rest =>
    if callback.1 = sense then some rest
    else (callbackUnregister sense rest).map (callback :: ·)

/-- `errout_close` in `accel_setup`. -/
def erroutClose (accel : Accel C) : Accel C :=
  if 0 < accel.refcount then accel else { accel with opened := false }

/-- The end of `accel_setup`. -/
def count (accel : Accel C) (refcount : Int) : Accel C :=
  if refcount = 0 then { accel with refcount, registered := false, opened := false }
  else { accel with refcount }

/-- The begin of `accel_setup` for the first cause. -/
def openDevice (conf : AccelConf) (accel : Accel C) : Accel C :=
  if accel.refcount = 0 then
    { accel with
      opened := true
      impactMode := decide (conf.sense = .impact)
      device := accel.device.reset
      callbacks := [] }
  else accel

/-- `sense_acceleration_init`, which is `accel_setup` with `on`. -/
def init (conf : AccelConf) (allocated : Bool) (c : C) (accel : Accel C) : Accel C × Bool :=
  let accel := accel.openDevice conf
  match callbackRegister allocated conf.sense c accel.callbacks with
  | none => (accel.erroutClose, false)
  | some callbacks =>
    let accel : Accel C := { accel with callbacks }
    if !conf.limited then (accel.erroutClose, false)
    else if conf.sense = .impact ∧ 0 < accel.refcount ∧ accel.impactMode = false then
      (accel.erroutClose, false)
    else
      let accel : Accel C := { accel with device := accel.device.turnOn conf }
      let accel : Accel C :=
        if accel.refcount = 0 then { accel with registered := true } else accel
      (accel.count (accel.refcount + 1), true)

/-- `sense_acceleration_uninit`, which is `accel_setup` without `on`. -/
def uninit (conf : AccelConf) (accel : Accel C) : Accel C × Bool :=
  match callbackUnregister conf.sense accel.callbacks with
  | none => (accel.erroutClose, false)
  | some callbacks =>
    let accel : Accel C := { accel with callbacks, device := accel.device.turnOff conf.sense }
    (accel.count (accel.refcount - 1), true)

end Accel

/-- The sources of an interrupt: the axes that are high, and those that are low. -/
structure Interrupt where
  high : Axis → Bool
  low : Axis → Bool

/-- What `accel_cb_x` to `accel_cb_impact` look for. -/
def Interrupt.isFor (interrupt : Interrupt) (sense : AccelSense) : Bool :=
  [Axis.x, .y, .z].any fun axis =>
    sense.covers axis && (interrupt.high axis || interrupt.low axis)

/-- `accel_publish_event`: the callbacks that hand an interrupt to `handle_cause`, and `changing` is
what it returns: no one hears of the interrupt after a change of the state. -/
def publishEvent (interrupt : Interrupt) (changing : C → Bool) :
    List (AccelSense × C) → List (AccelSense × C)
  | [] => []
  | callback :: rest =>
    if interrupt.isFor callback.1 then
      if changing callback.2 then [callback]
      else callback :: publishEvent interrupt changing rest
    else publishEvent interrupt changing rest

/-- The accelerometer with its causes: those whose last call was `sense_acceleration_init`,
and those of them for which it succeeded. `heard` is the last interrupt, and which callbacks have
handed it to `handle_cause`, until the next call. -/
structure Sharing (C : Type) where
  accel : Accel C
  called : List C
  initialised : List C
  heard : Option (Interrupt × List (AccelSense × C))

/-- A call for a cause, or an interrupt. -/
inductive AccelCall (C : Type) where
  | init (c : C) (allocated : Bool)
  | uninit (c : C)
  | interrupt (interrupt : Interrupt) (changing : C → Bool)

namespace Sharing

variable [DecidableEq C] (conf : C → AccelConf)

/-- One call. The calls of a cause alternate: any other call changes nothing. -/
def step (sharing : Sharing C) : AccelCall C → Sharing C
  | .init c allocated =>
    if c ∈ sharing.called then sharing
    else
      let result := sharing.accel.init (conf c) allocated c
      { accel := result.1
        called := c :: sharing.called
        initialised := if result.2 then c :: sharing.initialised else sharing.initialised
        heard := none }
  | .uninit c =>
    if c ∈ sharing.called then
      { accel := (sharing.accel.uninit (conf c)).1
        called := sharing.called.erase c
        initialised := sharing.initialised.erase c
        heard := none }
    else sharing
  | .interrupt interrupt changing =>
    { sharing with
      heard := some (interrupt, publishEvent interrupt changing sharing.accel.callbacks) }

def run (sharing : Sharing C) (calls : List (AccelCall C)) : Sharing C :=
  calls.foldl (step conf) sharing

/-- The zeros of `g_accel`, before its first use. -/
def initial (C : Type) : Sharing C :=
  let off : Axis → Bool := fun _ => false
  ⟨⟨false, false, [], 0, false, ⟨off, off, off, 0, 0, fun _ => ⟨.none, 0⟩⟩⟩, [], [], none⟩

end Sharing

namespace Accel

def axes (callbacks : List (AccelSense × C)) : List AccelSense := callbacks.map Prod.fst

variable {sense : AccelSense} {c : C} {callbacks : List (AccelSense × C)}

/-! ## Callbacks -/

theorem replacePriv_axes {replaced : List (AccelSense × C)}
    (found : replacePriv sense c callbacks = some replaced) :
    axes replaced = axes callbacks ∧ sense ∈ axes callbacks := by
  induction callbacks generalizing replaced with
  | nil => simp [replacePriv] at found
  | cons callback rest ih =>
    unfold replacePriv at found
    split at found
    · next same =>
      obtain rfl := Option.some.inj found
      simp [axes, same]
    · obtain ⟨others, isOthers, rfl⟩ := Option.map_eq_some_iff.1 found
      obtain ⟨same, isIn⟩ := ih isOthers
      simp only [axes, map_cons] at same isIn ⊢
      exact ⟨by rw [same], by simp [isIn]⟩

theorem replacePriv_eq_none (missing : replacePriv sense c callbacks = none) :
    sense ∉ axes callbacks := by
  induction callbacks with
  | nil => simp [axes]
  | cons callback rest ih =>
    unfold replacePriv at missing
    split at missing
    · simp at missing
    · next other =>
      have notLater := ih (Option.map_eq_none_iff.1 missing)
      simp only [axes, map_cons, mem_cons, not_or] at notLater ⊢
      exact ⟨Ne.symm other, notLater⟩

variable {after : List (AccelSense × C)}

theorem callbackRegister_axes {allocated : Bool}
    (registered : callbackRegister allocated sense c callbacks = some after) :
    (sense ∈ axes callbacks ∧ axes after = axes callbacks) ∨
      (sense ∉ axes callbacks ∧ axes after = axes callbacks ++ [sense]) := by
  unfold callbackRegister at registered
  split at registered
  · next replaced isReplaced =>
    obtain rfl := Option.some.inj registered
    obtain ⟨same, isIn⟩ := replacePriv_axes isReplaced
    exact .inl ⟨isIn, same⟩
  · next missing =>
    split at registered
    · obtain rfl := Option.some.inj registered
      exact .inr ⟨replacePriv_eq_none missing, by simp [axes]⟩
    · simp at registered

end Accel

namespace AccelDevice

variable {conf : AccelConf} {device : AccelDevice}

/-! ## The device -/

theorem Serves.turnOn (serves : device.Serves conf) (other : AccelConf) :
    (device.turnOn other).Serves conf := by
  intro axis covers
  obtain ⟨enabled, high, low⟩ := serves axis covers
  refine ⟨?_, fun isHigh => ?_, fun isLow => ?_⟩
  · simp [AccelDevice.turnOn, enabled]
  · simp [AccelDevice.turnOn, high isHigh]
  · simp [AccelDevice.turnOn, low isLow]

end AccelDevice

namespace Accel

/-- What sharing is to provide for the causes that are initialised: a callback and the interrupts
of its axes for each of them, a reference for each, and an unused device when there are none. -/
structure Serves (conf : C → AccelConf) (held : List C) (accel : Accel C) : Prop where
  callbacks : ∀ c ∈ held, (conf c).sense ∈ axes accel.callbacks
  interrupts : ∀ c ∈ held, accel.device.Serves (conf c)
  refcount : accel.refcount = held.length
  running : held ≠ [] → accel.opened = true ∧ accel.registered = true
  unused : held = [] →
    accel.callbacks = [] ∧ accel.opened = false ∧ accel.registered = false

variable {conf : C → AccelConf} {held : List C} {accel : Accel C} {allocated : Bool} {c : C}
  {callbacks : List (AccelSense × C)}

section

variable (serves : accel.Serves conf held)
include serves

theorem Serves.positive (some : held ≠ []) : 0 < accel.refcount := by
  have length := length_pos_iff.2 some
  have count := serves.refcount
  omega

theorem Serves.erroutClose : accel.erroutClose = accel := by
  unfold Accel.erroutClose
  split
  · rfl
  · next zero =>
    have none : held = [] := by
      by_contra some
      exact zero (serves.positive some)
    rw [← (serves.unused none).2.1]

/-- Another callback is registered while the device is in use. -/
theorem Serves.registers (some : held ≠ []) (device : AccelDevice)
    (keeps : ∀ d ∈ held, device.Serves (conf d)) {sense : AccelSense}
    (registered : callbackRegister allocated sense c accel.callbacks = .some callbacks) :
    Serves conf held { accel with callbacks, device } ∧ sense ∈ axes callbacks := by
  refine ⟨⟨fun d isIn => ?_, keeps, serves.refcount, serves.running,
    fun none => absurd none some⟩, ?_⟩
  · have before := serves.callbacks d isIn
    rcases callbackRegister_axes registered with ⟨-, same⟩ | ⟨-, added⟩
    · show _ ∈ axes callbacks
      rw [same]
      exact before
    · show _ ∈ axes callbacks
      rw [added]
      exact mem_append_left _ before
  · rcases callbackRegister_axes registered with ⟨isIn, same⟩ | ⟨-, added⟩
    · rw [same]
      exact isIn
    · rw [added]
      exact mem_append_right _ (mem_singleton.2 rfl)

end

end Accel

namespace Sharing

variable [DecidableEq C] (conf : C → AccelConf)

/-- What sharing is to provide: the accelerometer serves the initialised causes, and the
interrupts of their axes reach `handle_cause`. -/
structure Shared (sharing : Sharing C) : Prop where
  serves : sharing.accel.Serves conf sharing.initialised
  reaches : ∀ interrupt handed, sharing.heard = some (interrupt, handed) →
    ∀ c ∈ sharing.initialised, interrupt.isFor (conf c).sense = true →
      ∃ d, ((conf c).sense, d) ∈ handed

/-- What holds in every run. -/
structure Sound (sharing : Sharing C) : Prop where
  initialised : sharing.initialised.Nodup
  called : ∀ c ∈ sharing.initialised, c ∈ sharing.called

variable {conf} {sharing : Sharing C}

theorem step_sound (sound : Sound sharing) (call : AccelCall C) :
    Sound (sharing.step conf call) := by
  cases call with
  | init c allocated =>
    unfold step
    dsimp only
    by_cases isCalled : c ∈ sharing.called
    · rw [if_pos isCalled]
      exact sound
    rw [if_neg isCalled]
    constructor
    · dsimp only
      split
      · exact nodup_cons.2 ⟨fun isIn => isCalled (sound.called c isIn), sound.initialised⟩
      · exact sound.initialised
    · intro d isIn
      split at isIn
      · rcases mem_cons.1 isIn with rfl | before
        · exact mem_cons_self
        · exact mem_cons_of_mem _ (sound.called d before)
      · exact mem_cons_of_mem _ (sound.called d isIn)
  | uninit c =>
    unfold step
    dsimp only
    split
    · refine ⟨sound.initialised.erase c, fun d isIn => ?_⟩
      obtain ⟨other, before⟩ := sound.initialised.mem_erase_iff.1 isIn
      exact (mem_erase_of_ne other).2 (sound.called d before)
    · exact sound
  | interrupt interrupt changing => exact ⟨sound.initialised, sound.called⟩

/-- An impact that goes takes the axis of another cause along, which keeps its callback. -/
example :
    let conf : Fin 2 → AccelConf := fun c => ⟨if c = 0 then .impact else .x, some 1, none, none⟩
    let after := run conf (initial (Fin 2)) [.init 0 true, .init 1 true, .uninit 0]
    after.initialised = [1] ∧ after.accel.callbacks = [(.x, 1)] ∧
      after.accel.device.enabled .x = false := by
  decide

end Sharing

end Thingsee.Senses
