import Thingsee.Gps.States
import Thingsee.Support.Runs

/-!
Owns what becomes of a request for a target state: in a run whose steps are all careful,
each processed request sets the target state, the target timer runs while a request with a
timeout is pending, and one event is published for the latest request, with its target.

The state of a reset ignores requests and timers, and a request for the initialization
is ignored while it is under way; a timer that cannot be set is not noticed. A timer is removed by
its identifier, which another one has too after the counter has wrapped around.
-/

namespace Thingsee.Gps

open Support List

/-! ## The statement -/

variable {times : Prop} {timerId : TimerId} {rest : Prop} {request : Request}

def Module.TimerRuns (gps : Module) : Prop :=
  ∃ timer ∈ gps.timers, timer.callback = .timeout ∧ gps.targetTimerId = some timer.id

instance (gps : Module) : Decidable gps.TimerRuns :=
  inferInstanceAs (Decidable (∃ timer ∈ gps.timers, _ ∧ _))

/-- Every request has set the target state. -/
def Module.Recorded (gps : Module) : Prop :=
  ∀ entry ∈ gps.processed, entry.2 = entry.1.state

/-- The latest request is pending and no event was published, or one was, and it names
the target of the request. -/
def Module.Named (gps : Module) : Prop :=
  ∀ request, gps.latest = some request →
    if gps.targetStatePending then gps.published = [] ∧ gps.targetState = request.state
    else ∃ event, gps.published = [(event, request.state)]

/-- A pending request with a timeout has its timer. -/
def Module.Timed (gps : Module) : Prop :=
  ∀ request, gps.latest = some request → gps.targetStatePending = true →
    0 < request.timeout → gps.TimerRuns

def Module.Answered (gps : Module) : Prop :=
  gps.Recorded ∧ gps.Named ∧ gps.Timed

def Module.Ignores (gps : Module) (request : Request) : Prop :=
  gps.currentState = .reinitialization ∨
    gps.currentState = .initialization ∧ request.state = .initialization ∧ gps.initPhase ≠ .done

def Module.AnswersAtOnce (gps : Module) (request : Request) : Prop :=
  request.state = gps.currentState ∨ request.state = .powerOff ∨
    request.state = .searchingFix ∧
      (gps.currentState = .coldStart ∨ gps.currentState = .fixAcquired) ∨
    gps.currentState = .initialization ∧ gps.newState = .powerOff

instance (gps : Module) (request : Request) : Decidable (gps.Ignores request) :=
  inferInstanceAs (Decidable (_ ∨ _))

instance (gps : Module) (request : Request) : Decidable (gps.AnswersAtOnce request) :=
  inferInstanceAs (Decidable (_ ∨ _ ∨ _ ∧ _ ∨ _ ∧ _))

/-- A request that is ignored asks for what is the target anyway, and its timer runs or the
module is about to power off. Any other has its timer, unless it is answered at once. -/
def Module.Takes (gps : Module) (out : Outcomes) (request : Request) : Prop :=
  if gps.Ignores request then
    gps.targetState = request.state ∧
      (0 < request.timeout → gps.newState = .powerOff ∨ gps.TimerRuns)
  else 0 < request.timeout → gps.AnswersAtOnce request ∨ out.targetTimer = true

instance (gps : Module) (out : Outcomes) (request : Request) :
    Decidable (gps.Takes out request) :=
  if ignores : gps.Ignores request then
    decidable_of_iff (gps.targetState = request.state ∧
      (0 < request.timeout → gps.newState = .powerOff ∨ gps.TimerRuns))
      (by rw [Module.Takes, if_pos ignores])
  else
    decidable_of_iff (0 < request.timeout → gps.AnswersAtOnce request ∨ out.targetTimer = true)
      (by rw [Module.Takes, if_neg ignores])

/-- How many timers are set before one gets the identifier: at most all the others. -/
def ahead (count : TimerId) : Option TimerId → Nat
  | none => 65536
  | some timerId => (timerId - count - 1).toNat

/-- None of the next three identifiers is that of the target, initialization or aiding timer. -/
def Module.Fresh (gps : Module) : Prop :=
  ∀ taken ∈ [gps.targetTimerId, gps.initTimerId, gps.aidTimerId], 3 ≤ ahead gps.timerIdCnt taken

instance (gps : Module) : Decidable gps.Fresh :=
  decidableBAll _ _

/-- Identifiers are not met again. A request is taken, the target timer does not run out in the
state of a reset and is not removed under the identifier of another one, and the timer of a
deferred request does not run out. -/
def Careful (gps : Module) (step : GpsStep) : Prop :=
  gps.Fresh ∧
  match step.event, gps.queue with
  | .timers (.remove timerId), _ => gps.targetTimerId ≠ some timerId
  | .eventTimeout timerId, _ => ⟨timerId, .processEvent⟩ ∉ gps.timers
  | .deferred, request :: _ => gps.Takes step.out request
  | .request request, [] => gps.Takes step.out request
  | .timeout timerId, [] =>
    gps.targetTimerId = some timerId →
      gps.currentState ≠ .reinitialization ∨ gps.newState = .powerOff
  | _, _ => True

/-! ## Identifiers of timers -/

theorem ahead_le (count : TimerId) (taken : Option TimerId) : ahead count taken ≤ 65536 := by
  cases taken with
  | none => exact Nat.le_refl _
  | some timerId => exact Nat.le_of_lt (timerId - count - 1).toNat_lt

theorem ahead_some (count timerId : TimerId) : ahead count (some timerId) =
    (65535 + (65536 - count.toNat + timerId.toNat) % 65536) % 65536 := by
  show (timerId - count - 1).toNat = _
  rw [UInt16.toNat_sub, UInt16.toNat_sub]
  rfl

/-- A timer that is set comes one identifier nearer to each one that is taken. -/
theorem ahead_grow {count : TimerId} {taken : Option TimerId} {spare : Nat}
    (left : spare + 1 ≤ ahead count taken) : spare ≤ ahead (count + 1) taken := by
  cases taken with
  | none => exact Nat.le_of_succ_le left
  | some timerId =>
    have next : (count + 1).toNat = (count.toNat + 1) % 65536 := UInt16.toNat_add count 1
    have small := count.toNat_lt
    have little := timerId.toNat_lt
    rw [ahead_some] at left ⊢
    rw [next]
    omega

theorem ahead_new (count : TimerId) : ahead (count + 1) (some (count + 1)) = 65535 := by
  have small := (count + 1).toNat_lt
  rw [ahead_some]
  omega

theorem ne_new_of_ahead {count : TimerId} {taken : Option TimerId} {spare : Nat}
    (left : spare + 1 ≤ ahead count taken) : taken ≠ some (count + 1) := by
  rintro rfl
  have next : (count + 1).toNat = (count.toNat + 1) % 65536 := UInt16.toNat_add count 1
  have small := count.toNat_lt
  rw [ahead_some, next] at left
  omega

/-- The target timer differs from two other timers, and the next `spare` ones from all three. -/
structure Apart (target first second : Option TimerId) (count : TimerId) (spare : Nat) : Prop where
  others : ∀ timerId, target = some timerId → first ≠ some timerId ∧ second ≠ some timerId
  target : spare ≤ ahead count target
  first : spare ≤ ahead count first
  second : spare ≤ ahead count second

variable {target first second : Option TimerId} {count : TimerId} {spare : Nat}

section

variable (apart : Apart target first second count spare)
include apart

theorem Apart.swap : Apart target second first count spare :=
  ⟨fun timerId isTarget => (apart.others timerId isTarget).symm, apart.target, apart.second,
    apart.first⟩

theorem Apart.fewer {few : Nat} (le : few ≤ spare) : Apart target first second count few :=
  ⟨apart.others, Nat.le_trans le apart.target, Nat.le_trans le apart.first,
    Nat.le_trans le apart.second⟩

theorem Apart.recount (other : TimerId) : Apart target first second other 0 :=
  ⟨apart.others, Nat.zero_le _, Nat.zero_le _, Nat.zero_le _⟩

theorem Apart.clearTarget : Apart none first second count spare :=
  ⟨nofun, Nat.le_trans apart.target (ahead_le count target), apart.first, apart.second⟩

theorem Apart.clearFirst : Apart target none second count spare :=
  ⟨fun timerId isTarget => ⟨nofun, (apart.others timerId isTarget).2⟩, apart.target,
    Nat.le_trans apart.first (ahead_le count first), apart.second⟩

theorem Apart.clearSecond : Apart target first none count spare :=
  apart.swap.clearFirst.swap

end

section

variable (apart : Apart target first second count (spare + 1))
include apart

theorem Apart.spare_le : spare ≤ ahead (count + 1) (some (count + 1)) := by
  have bounded := Nat.le_trans apart.target (ahead_le count target)
  rw [ahead_new]
  omega

theorem Apart.newTarget : Apart (some (count + 1)) first second (count + 1) spare := by
  refine ⟨?_, apart.spare_le, ahead_grow apart.first, ahead_grow apart.second⟩
  rintro timerId ⟨⟩
  exact ⟨ne_new_of_ahead apart.first, ne_new_of_ahead apart.second⟩

theorem Apart.newFirst : Apart target (some (count + 1)) second (count + 1) spare := by
  refine ⟨?_, ahead_grow apart.target, apart.spare_le, ahead_grow apart.second⟩
  intro timerId isTarget
  refine ⟨?_, (apart.others timerId isTarget).2⟩
  rintro ⟨⟩
  exact ne_new_of_ahead apart.target isTarget

theorem Apart.newSecond : Apart target first (some (count + 1)) (count + 1) spare :=
  apart.swap.newFirst.swap

end

/-- The three timers have different identifiers, and those of the next `spare` timers will be
different. -/
def Module.Distinct (spare : Nat) (gps : Module) : Prop :=
  Apart gps.targetTimerId gps.initTimerId gps.aidTimerId gps.timerIdCnt spare

def Module.AtRest (gps : Module) : Prop :=
  gps.currentState = .powerOff → gps.targetStatePending = false

/-- The invariant. Inside of a step its timer holds under `timed`, and its state of rest
under `rests`; `spare` timers can still be set. -/
def Module.Kept (timed rests : Prop) (spare : Nat) (gps : Module) : Prop :=
  gps.Recorded ∧ gps.Named ∧ gps.Distinct spare ∧ (timed → gps.Timed) ∧ (rests → gps.AtRest)

variable {timed rests : Prop} {gps : Module} {out : Outcomes}

theorem Module.Kept.mono {fewer few : Prop} (kept : gps.Kept timed rests spare)
    (times : fewer → timed) (rest : few → rests) : gps.Kept fewer few spare :=
  ⟨kept.1, kept.2.1, kept.2.2.1, fun holds => kept.2.2.2.1 (times holds),
    fun holds => kept.2.2.2.2 (rest holds)⟩

theorem Module.Kept.fewer {few : Nat} (kept : gps.Kept timed rests spare) (le : few ≤ spare) :
    gps.Kept timed rests few :=
  ⟨kept.1, kept.2.1, kept.2.2.1.fewer le, kept.2.2.2⟩

theorem Module.Kept.spend (kept : gps.Kept timed rests (spare + 1)) : gps.Kept timed rests spare :=
  kept.fewer (Nat.le_succ spare)

theorem Module.Kept.of_not_pending (kept : gps.Kept timed rests spare)
    (notPending : gps.targetStatePending = false) : gps.Kept times rest spare := by
  refine ⟨kept.1, kept.2.1, kept.2.2.1, ?_, fun _ _ => notPending⟩
  intro _ request _ pending
  rw [notPending] at pending
  cases pending

theorem Module.Kept.setNewState (kept : gps.Kept timed rests spare) (newState : GpsState) :
    (gps.setNewState newState).Kept timed rests spare := kept

/-- The invariant survives when only timers go or come, but not the one of the target. -/
theorem Module.Kept.withTimers (kept : gps.Kept timed rests spare) {timers : List PrivTimer}
    (keeps : ∀ timer ∈ gps.timers, timer.callback = .timeout →
      gps.targetTimerId = some timer.id → timer ∈ timers) :
    { gps with timers }.Kept timed rests spare := by
  obtain ⟨recorded, named, distinct, times, rest⟩ := kept
  refine ⟨recorded, named, distinct, ?_, rest⟩
  intro holds request isLatest pending positive
  obtain ⟨timer, isIn, isTimeout, isTarget⟩ := times holds request isLatest pending positive
  exact ⟨timer, keeps timer isIn isTimeout isTarget, isTimeout, isTarget⟩

theorem Module.Kept.removeTimer (kept : gps.Kept timed rests spare) {other : Option TimerId}
    (differs : ∀ timerId, gps.targetTimerId = some timerId → other ≠ some timerId) :
    (gps.removeTimer other).Kept timed rests spare := by
  cases other with
  | none => exact kept
  | some otherId =>
    refine kept.withTimers ?_
    intro timer isIn _ isTarget
    refine (mem_eraseP_of_neg ?_).mpr isIn
    rw [decide_eq_true_iff]
    intro same
    exact differs timer.id isTarget (by rw [same])

theorem timed_setTimer (callback : TimerCallback) (times : timed → gps.Timed) :
    timed → (gps.setTimer callback).Timed := by
  intro holds request isLatest pending positive
  obtain ⟨timer, isIn, isTimeout, isTarget⟩ := times holds request isLatest pending positive
  exact ⟨timer, mem_append_left _ isIn, isTimeout, isTarget⟩

theorem Module.Kept.setTimer (kept : gps.Kept timed rests spare) (callback : TimerCallback) :
    (gps.setTimer callback).Kept timed rests 0 := by
  obtain ⟨recorded, named, distinct, times, rest⟩ := kept
  exact ⟨recorded, named, distinct.recount _, timed_setTimer callback times, rest⟩

section

variable (kept : gps.Kept timed rests spare)
include kept

theorem Module.Kept.clearInitTimer : { gps with initTimerId := none }.Kept timed rests spare := by
  obtain ⟨recorded, named, distinct, times, rest⟩ := kept
  exact ⟨recorded, named, distinct.clearFirst, times, rest⟩

theorem Module.Kept.clearAidTimer : { gps with aidTimerId := none }.Kept timed rests spare := by
  obtain ⟨recorded, named, distinct, times, rest⟩ := kept
  exact ⟨recorded, named, distinct.clearSecond, times, rest⟩

theorem Module.Kept.removeInitTimer : (gps.removeTimer gps.initTimerId).Kept timed rests spare :=
  kept.removeTimer fun timerId isTarget => (kept.2.2.1.others timerId isTarget).1

theorem Module.Kept.removeAidTimer : (gps.removeTimer gps.aidTimerId).Kept timed rests spare :=
  kept.removeTimer fun timerId isTarget => (kept.2.2.1.others timerId isTarget).2

end

section

variable (kept : gps.Kept timed rests (spare + 1))
include kept

theorem Module.Kept.startInitTimer : (gps.startInitTimer out).Kept timed rests spare := by
  unfold Module.startInitTimer
  split
  · obtain ⟨recorded, named, distinct, times, rest⟩ := kept
    exact ⟨recorded, named, distinct.newFirst, timed_setTimer .timeout times, rest⟩
  · exact kept.spend.clearInitTimer.setNewState .powerOff

theorem Module.Kept.startAidTimer : (gps.startAidTimer out).Kept timed rests spare := by
  unfold Module.startAidTimer
  split
  · obtain ⟨recorded, named, distinct, times, rest⟩ := kept
    exact ⟨recorded, named, distinct.newSecond, timed_setTimer .timeout times, rest⟩
  · exact kept.spend.clearAidTimer

end

@[simp] theorem Module.removeTimer_targetState (gps : Module) (timerId : Option TimerId) :
    (gps.removeTimer timerId).targetState = gps.targetState := by
  cases timerId <;> rfl

@[simp] theorem Module.removeTimer_currentState (gps : Module) (timerId : Option TimerId) :
    (gps.removeTimer timerId).currentState = gps.currentState := by
  cases timerId <;> rfl

@[simp] theorem Module.removeTimer_newState (gps : Module) (timerId : Option TimerId) :
    (gps.removeTimer timerId).newState = gps.newState := by
  cases timerId <;> rfl

@[simp] theorem Module.removeTimer_targetStatePending (gps : Module) (timerId : Option TimerId) :
    (gps.removeTimer timerId).targetStatePending = gps.targetStatePending := by
  cases timerId <;> rfl

@[simp] theorem Module.removeTimer_aidTimerId (gps : Module) (timerId : Option TimerId) :
    (gps.removeTimer timerId).aidTimerId = gps.aidTimerId := by
  cases timerId <;> rfl

@[simp] theorem Module.reportTargetState_targetStatePending (timeout : Bool) (gps : Module) :
    (gps.reportTargetState timeout).targetStatePending = false := by
  unfold Module.reportTargetState
  split
  · rfl
  · next notPending => simpa using notPending

@[simp] theorem Module.reportTargetState_targetState (timeout : Bool) (gps : Module) :
    (gps.reportTargetState timeout).targetState = gps.targetState := by
  cases timeout <;> simp only [Module.reportTargetState] <;> split <;> simp

@[simp] theorem Module.reportTargetState_currentState (timeout : Bool) (gps : Module) :
    (gps.reportTargetState timeout).currentState = gps.currentState := by
  cases timeout <;> simp only [Module.reportTargetState] <;> split <;> simp

@[simp] theorem Module.reportTargetState_newState (timeout : Bool) (gps : Module) :
    (gps.reportTargetState timeout).newState = gps.newState := by
  cases timeout <;> simp only [Module.reportTargetState] <;> split <;> simp

@[simp] theorem Module.reportTargetState_aidTimerId (timeout : Bool) (gps : Module) :
    (gps.reportTargetState timeout).aidTimerId = gps.aidTimerId := by
  cases timeout <;> simp only [Module.reportTargetState] <;> split <;> simp

theorem Module.Kept.reportTargetState (kept : gps.Kept timed rests spare) (timeout : Bool) :
    (gps.reportTargetState timeout).Kept times rest spare := by
  by_cases pending : gps.targetStatePending = true
  · suffices reported : (gps.reportTargetState timeout).Kept False False spare from
      reported.of_not_pending (by simp)
    obtain ⟨recorded, named, distinct, _, _⟩ := kept
    have reported : ∀ event request, gps.latest = some request →
        ∃ other, gps.published ++ [(event, gps.targetState)] = [(other, request.state)] := by
      intro event request isLatest
      have unreported := named request isLatest
      rw [if_pos pending] at unreported
      exact ⟨event, by rw [unreported.1, unreported.2, nil_append]⟩
    unfold Module.reportTargetState
    rw [if_pos pending]
    cases timeout with
    | true => exact ⟨recorded, fun _ => reported _ _, distinct.clearTarget, nofun, nofun⟩
    | false =>
      cases gps.targetTimerId with
      | none => exact ⟨recorded, fun _ => reported _ _, distinct.clearTarget, nofun, nofun⟩
      | some timerId =>
        exact ⟨recorded, fun _ => reported _ _, distinct.clearTarget, nofun, nofun⟩
  · have identity : gps.reportTargetState timeout = gps := by
      unfold Module.reportTargetState
      rw [if_neg pending]
    rw [identity]
    exact kept.of_not_pending (by simpa using pending)

theorem Module.Kept.retarget (kept : gps.Kept timed rests spare)
    (notPending : gps.targetStatePending = false) (state : GpsState) :
    { gps with targetState := state }.Kept timed rests spare := by
  obtain ⟨recorded, named, distinct, times, rest⟩ := kept
  refine ⟨recorded, ?_, distinct, times, rest⟩
  intro request isLatest
  have others := named request isLatest
  simp only [notPending] at others ⊢
  exact others

section

variable (kept : gps.Kept timed rests (spare + 1))
include kept

theorem Module.Kept.handleNavPvt (fix : Bool) : (handleNavPvt fix gps).Kept timed rests spare := by
  have kept := kept.spend
  unfold Gps.handleNavPvt
  split
  · exact kept.setNewState .searchingFix
  · split
    · exact kept.setNewState .fixAcquired
    · exact kept

theorem Module.Kept.handleAidStatus : (handleAidStatus out gps).Kept timed rests spare := by
  unfold Gps.handleAidStatus
  split
  · have started : ((gps.removeTimer gps.aidTimerId).startAidTimer out).Kept timed rests spare :=
      kept.removeAidTimer.startAidTimer
    dsimp only
    split
    · exact started
    · exact started
  · exact kept.spend

theorem Module.Kept.initDone : (initDone gps).Kept timed rests spare := by
  have kept := kept.spend
  unfold Gps.initDone
  split
  · have reported : (gps.reportTargetState false).Kept timed rests spare :=
      kept.reportTargetState false
    exact reported
  · split
    · exact kept
    · exact kept

theorem Module.Kept.sendAndWait : (sendAndWait out gps).Kept timed rests spare := by
  unfold Gps.sendAndWait
  split
  · exact kept.spend
  · exact kept.startInitTimer

theorem Module.Kept.runPhases : (runPhases out gps).Kept timed rests spare := by
  fun_induction Gps.runPhases out gps with
  | case1 gps _ _ ih => exact ih kept
  | case2 gps _ _ => exact kept.startInitTimer
  | case3 gps _ _ ih => exact ih kept
  | case4 gps _ _ => exact kept.sendAndWait
  | case5 gps _ _ ih => exact ih kept
  | case6 gps _ _ => exact kept.startInitTimer
  | case7 gps _ _ => exact kept.sendAndWait
  | case8 gps _ _ ih => exact ih kept
  | case9 gps _ => exact kept.initDone
  | case10 gps => exact kept.sendAndWait

theorem Module.Kept.initProcessPhase (next : Bool) :
    (initProcessPhase out next gps).Kept timed rests spare := by
  unfold Gps.initProcessPhase
  have moved : (if next then { gps with initCount := 0, initPhase := gps.initPhase.next }
      else gps).Kept timed rests (spare + 1) := by
    cases next with
    | true => exact kept
    | false => exact kept
  generalize (if next then { gps with initCount := 0, initPhase := gps.initPhase.next }
      else gps) = gps at moved
  dsimp only
  split
  · split
    · exact moved.spend
    · split
      · exact Module.Kept.runPhases moved
      · exact moved.spend
  · exact Module.Kept.runPhases moved

end

def SmEvent.Passing : SmEvent → Prop
  | .targetState _ => False
  | .timeout _ => False
  | _ => True

variable {aidStatus : Module → Module} {event : SmEvent}

section

variable (kept : gps.Kept timed rests (spare + 1)) (passing : event.Passing)
include kept passing

theorem Module.Kept.smPoweroff : (smPoweroff out event gps).Kept timed rests spare := by
  have kept := kept.spend
  cases event with
  | targetState request => exact passing.elim
  | timeout timerId => exact passing.elim
  | entry =>
    have reported : (gps.reportTargetState false).Kept timed rests spare :=
      kept.reportTargetState false
    have removed := reported.removeAidTimer
    rw [Module.reportTargetState_aidTimerId] at removed
    exact removed.clearAidTimer
  | _ => exact kept

theorem Module.Kept.smGlobal
    (keeps : event = .ubxMessage .aidAlp → (aidStatus gps).Kept timed rests spare) :
    (smGlobal aidStatus out event gps).Kept timed rests spare := by
  cases event with
  | targetState request => exact passing.elim
  | timeout timerId => exact passing.elim
  | entry =>
    unfold Gps.smGlobal
    dsimp only
    split
    · exact kept.spend.reportTargetState false
    · exact kept.spend
  | ubxMessage msg =>
    cases msg with
    | navPvt fix => exact kept.handleNavPvt fix
    | aidAlp => exact keeps rfl
    | _ => exact kept.spend
  | aidStatus => exact kept.handleAidStatus
  | _ => exact kept.spend

theorem Module.Kept.smInitialization :
    (smInitialization out event gps).Kept timed rests spare := by
  cases event with
  | targetState request => exact passing.elim
  | timeout timerId => exact passing.elim
  | entry =>
    have started : (gps.startInitTimer out).Kept timed rests spare := kept.startInitTimer
    unfold Gps.smInitialization
    dsimp only
    split
    · exact started
    · exact started
  | exit => exact kept.spend.removeInitTimer.clearInitTimer
  | ubxStatus msg status =>
    cases msg with
    | initialization =>
      unfold Gps.smInitialization
      dsimp only
      split
      · exact kept.initProcessPhase false
      · exact kept.initProcessPhase true
    | _ => exact kept.spend
  | ubxMessage msg =>
    cases msg with
    | navPvt fix => exact kept.handleNavPvt fix
    | _ => exact kept.spend
  | aidStatus => exact kept.spend

theorem Module.Kept.smColdStart
    (keeps : event = .ubxMessage .aidAlp → (aidStatus gps).Kept timed rests spare) :
    (smColdStart aidStatus out event gps).Kept timed rests spare := by
  cases event with
  | entry =>
    unfold Gps.smColdStart
    dsimp only
    split
    · exact kept.spend
    · exact kept.spend
  | ubxStatus msg status =>
    cases msg with
    | rst =>
      unfold Gps.smColdStart
      dsimp only
      split
      · exact kept.spend
      · have reported : (gps.reportTargetState false).Kept timed rests spare :=
          kept.spend.reportTargetState false
        split
        · exact reported
        · exact (reported.retarget (by simp) .fixAcquired).setNewState .initialization
    | _ => exact kept.spend
  | _ => exact kept.smGlobal passing keeps

theorem Module.Kept.smReinitialization :
    (smReinitialization out event gps).Kept timed rests spare := by
  have kept := kept.spend
  cases event with
  | entry =>
    unfold Gps.smReinitialization
    dsimp only
    split
    · exact kept
    · exact kept
  | ubxStatus msg status =>
    cases msg with
    | rst =>
      unfold Gps.smReinitialization
      dsimp only
      split
      · exact kept
      · exact kept
    | _ => exact kept
  | _ => exact kept

theorem Module.Kept.stateMachine
    (keeps : event = .ubxMessage .aidAlp → (aidStatus gps).Kept timed rests spare)
    (state : GpsState) : (stateMachine aidStatus out state event gps).Kept timed rests spare := by
  cases state with
  | powerOff => exact kept.smPoweroff passing
  | initialization => exact kept.smInitialization passing
  | reinitialization => exact kept.smReinitialization passing
  | coldStart => exact kept.smColdStart passing keeps
  | searchingFix | fixAcquired => exact kept.smGlobal passing keeps

end

theorem Module.Kept.exit (kept : gps.Kept timed rests spare) (state : GpsState) :
    (Gps.stateMachine aidStatus out state .exit gps).Kept timed rests spare := by
  cases state with
  | initialization => exact kept.removeInitTimer.clearInitTimer
  | _ => exact kept


/-! ## Changes of the state -/

section

variable (aidStatus : Module → Module) (out : Outcomes) (state : GpsState) (gps : Module)

theorem stateMachine_entry_keeps :
    (stateMachine aidStatus out state .entry gps).currentState = gps.currentState ∧
      (stateMachine aidStatus out state .entry gps).targetState = gps.targetState := by
  cases state with
  | powerOff => simp [stateMachine, smPoweroff]
  | initialization =>
    simp only [stateMachine, smInitialization, Module.startInitTimer]
    split <;> exact ⟨rfl, rfl⟩
  | reinitialization =>
    simp only [stateMachine, smReinitialization]
    split <;> exact ⟨rfl, rfl⟩
  | coldStart =>
    simp only [stateMachine, smColdStart]
    split <;> exact ⟨rfl, rfl⟩
  | searchingFix | fixAcquired =>
    simp only [stateMachine, smGlobal]
    split <;> simp

theorem stateMachine_exit_keeps :
    (stateMachine aidStatus out state .exit gps).newState = gps.newState ∧
      (stateMachine aidStatus out state .exit gps).targetState = gps.targetState := by
  cases state with
  | initialization => simp [stateMachine, smInitialization]
  | _ => exact ⟨rfl, rfl⟩

end

/-- The module will power off, or it will find what it searches. -/
def Module.Finishes (gps : Module) : Prop :=
  gps.newState ≠ gps.currentState ∧
    (gps.newState = .powerOff ∨ gps.newState = .searchingFix ∧ gps.targetState = .searchingFix)

theorem stateMachine_entry_reports {state : GpsState} (isState : gps.currentState = state)
    (finishes : state = .powerOff ∨ state = .searchingFix ∧ gps.targetState = .searchingFix) :
    (stateMachine aidStatus out state .entry gps).targetStatePending = false := by
  rcases finishes with isOff | ⟨isSearching, isTarget⟩
  · simp [isOff, stateMachine, smPoweroff]
  · simp [isSearching, isState, isTarget, stateMachine, smGlobal]

theorem changeState_targetState (gps : Module) :
    (changeState aidStatus out gps).targetState = gps.targetState := by
  unfold changeState
  split
  · rw [(stateMachine_entry_keeps _ _ _ _).2]
    exact (stateMachine_exit_keeps _ _ _ _).2
  · rfl

theorem Module.Kept.changeState (kept : gps.Kept timed rests (spare + 1))
    (rest : gps.newState = gps.currentState → rests) (times : timed ∨ gps.Finishes) :
    (changeState aidStatus out gps).Kept True True spare := by
  unfold Gps.changeState
  split
  · have exitKeeps := stateMachine_exit_keeps aidStatus out gps.currentState gps
    have keptExit :
        (Gps.stateMachine aidStatus out gps.currentState .exit gps).Kept timed rests (spare + 1) :=
      kept.exit gps.currentState
    generalize Gps.stateMachine aidStatus out gps.currentState .exit gps = left
      at exitKeeps keptExit ⊢
    have keptEntered : { left with currentState := left.newState }.Kept timed False (spare + 1) :=
      ⟨keptExit.1, keptExit.2.1, keptExit.2.2.1, keptExit.2.2.2.1, False.elim⟩
    have keptEntry : (Gps.stateMachine aidStatus out left.newState .entry
        { left with currentState := left.newState }).Kept timed False spare :=
      keptEntered.stateMachine (show SmEvent.entry.Passing from trivial)
        (fun isAlp => by cases isAlp) _
    by_cases finishes : left.newState = .powerOff ∨
        left.newState = .searchingFix ∧ left.targetState = .searchingFix
    · exact keptEntry.of_not_pending (stateMachine_entry_reports rfl finishes)
    · rw [exitKeeps.1, exitKeeps.2] at finishes
      have holds : timed := times.resolve_right fun ends => finishes ends.2
      refine ⟨keptEntry.1, keptEntry.2.1, keptEntry.2.2.1, fun _ => keptEntry.2.2.2.1 holds, ?_⟩
      intro _ isOff
      rw [(stateMachine_entry_keeps _ _ _ _).1, exitKeeps.1] at isOff
      exact absurd (Or.inl isOff) finishes
  · next same =>
    have stays : gps.newState = gps.currentState := by simpa using same
    have holds : timed := times.resolve_right fun ends => ends.1 stays
    exact kept.spend.mono (fun _ => holds) fun _ => rest stays

theorem Module.Kept.processWith (kept : gps.Kept True True (spare + 2)) (passing : event.Passing)
    (keeps : event = .ubxMessage .aidAlp → (aidStatus gps).Kept True True (spare + 1)) :
    (processWith aidStatus out event gps).Kept True True spare :=
  (kept.stateMachine passing keeps gps.currentState).changeState (fun _ => trivial)
    (Or.inl trivial)

theorem Module.Kept.smProcess (kept : gps.Kept True True 3) (passing : event.Passing) :
    (smProcess out event gps).Kept True True 0 :=
  kept.spend.processWith passing fun _ => kept.processWith trivial nofun

section

variable (kept : gps.Kept (gps.targetTimerId ≠ some timerId) True (spare + 1))
include kept

theorem Module.Kept.smGlobal_timeout :
    (Gps.smGlobal aidStatus out (.timeout timerId) gps).Kept True True spare := by
  have kept := kept.spend
  unfold Gps.smGlobal
  dsimp only
  split
  · exact kept.reportTargetState true
  · next other => exact kept.mono (fun _ same => other same.symm) id

theorem Module.Kept.smInitialization_timeout :
    (Gps.smInitialization out (.timeout timerId) gps).Kept True True spare := by
  unfold Gps.smInitialization
  dsimp only
  split
  · exact kept.spend.reportTargetState true
  · next other =>
    have others : gps.Kept True True (spare + 1) := kept.mono (fun _ same => other same.symm) id
    split
    · exact others.clearInitTimer.initProcessPhase false
    · exact others.spend

end

theorem Module.Kept.smProcess_timeout
    (kept : gps.Kept (gps.targetTimerId ≠ some timerId) True (spare + 2))
    (careful : gps.targetTimerId = some timerId → gps.currentState ≠ .reinitialization ∨
      gps.newState = .powerOff) :
    (Gps.smProcess out (.timeout timerId) gps).Kept True True spare := by
  unfold Gps.smProcess
  generalize Gps.processWith id out .aidStatus = aidStatus
  unfold Gps.processWith
  have reported : (Gps.smGlobal aidStatus out (.timeout timerId) gps).Kept True True (spare + 1) :=
    kept.smGlobal_timeout
  cases state : gps.currentState with
  | powerOff =>
    have rest : gps.Kept True True (spare + 1) :=
      kept.spend.of_not_pending (kept.2.2.2.2 trivial state)
    exact rest.changeState (fun _ => trivial) (Or.inl trivial)
  | initialization =>
    exact kept.smInitialization_timeout.changeState (fun _ => trivial) (Or.inl trivial)
  | reinitialization =>
    refine kept.spend.changeState (fun _ => trivial) ?_
    by_cases same : gps.targetTimerId = some timerId
    · have isOff := (careful same).resolve_left (fun differs => differs state)
      exact Or.inr ⟨by rw [isOff, state]; decide, Or.inl isOff⟩
    · exact Or.inl same
  | coldStart | searchingFix | fixAcquired =>
    exact reported.changeState (fun _ => trivial) (Or.inl trivial)

def Module.asks (request : Request) (gps : Module) : Module :=
  { gps with targetStatePending := true, latest := some request, published := [] }

theorem Module.Kept.asks (kept : gps.Kept timed rests spare)
    (named : gps.targetState = request.state) :
    (gps.asks request).Kept (0 < request.timeout → gps.TimerRuns)
      (gps.currentState ≠ .powerOff) spare := by
  obtain ⟨recorded, _, distinct, _, _⟩ := kept
  refine ⟨recorded, ?_, distinct, ?_, fun notOff isOff => absurd isOff notOff⟩
  · rintro _ ⟨⟩
    exact ⟨rfl, named⟩
  · rintro runs _ ⟨⟩ _ positive
    exact runs positive

theorem setupTimeout_targetState (timeout : Nat) (state : GpsState) (gps : Module) :
    { gps.setupTimeout out timeout with targetState := state } =
      { gps with targetState := state }.setupTimeout out timeout := by
  unfold Module.setupTimeout
  cases gps.targetTimerId with
  | none | some timerId => dsimp only [Module.removeTimer]; split <;> [split; skip] <;> rfl

theorem Module.Kept.setupTimeout (kept : gps.Kept timed rests (spare + 1))
    (isLatest : gps.latest = some request) :
    (gps.setupTimeout out request.timeout).Kept (0 < request.timeout → out.targetTimer = true)
      rests spare := by
  have cleared : { gps.removeTimer gps.targetTimerId with targetTimerId := none }.Kept False rests
        (spare + 1) ∧
      { gps.removeTimer gps.targetTimerId with targetTimerId := none }.latest = some request := by
    obtain ⟨recorded, named, distinct, _, rest⟩ := kept
    cases gps.targetTimerId with
    | none | some timerId =>
      exact ⟨⟨recorded, named, distinct.clearTarget, False.elim, rest⟩, isLatest⟩
  unfold Module.setupTimeout
  generalize { gps.removeTimer gps.targetTimerId with targetTimerId := none } = bare at cleared
  obtain ⟨⟨recorded, named, distinct, _, rest⟩, isLatest⟩ := cleared
  split
  · split
    · refine ⟨recorded, named, distinct.newTarget, ?_, rest⟩
      intro _ _ _ _ _
      exact ⟨⟨bare.timerIdCnt + 1, .timeout⟩, mem_append_right _ mem_cons_self, rfl, rfl⟩
    · next positive noTimer =>
      exact ⟨recorded, named, distinct.fewer (Nat.le_succ spare),
        fun holds => absurd (holds positive) noTimer, rest⟩
  · next noTimeout =>
    refine ⟨recorded, named, distinct.fewer (Nat.le_succ spare), ?_, rest⟩
    intro _ other isOther _ positive
    rw [isLatest] at isOther
    cases isOther
    exact absurd positive noTimeout

theorem Module.Kept.retargets (kept : gps.Kept timed rests (spare + 1)) (request : Request) :
    Module.Kept (0 < request.timeout → out.targetTimer = true) (gps.currentState ≠ .powerOff) spare
      { (gps.asks request).setupTimeout out request.timeout with targetState :=
        request.state } := by
  rw [setupTimeout_targetState]
  have aimed : { gps with targetState := request.state, latest := none }.Kept False False
      (spare + 1) :=
    ⟨kept.1, nofun, kept.2.2.1, False.elim, False.elim⟩
  have asked : ({ gps with targetState := request.state, latest := none }.asks request).Kept
      (0 < request.timeout → gps.TimerRuns) (gps.currentState ≠ GpsState.powerOff) (spare + 1) :=
    aimed.asks rfl
  exact asked.setupTimeout rfl

theorem Module.Kept.answers (kept : gps.Kept timed rests spare)
    (same : request.state = gps.currentState) :
    Module.Kept times rest spare
      ({ gps.asks request with targetState := gps.currentState }.reportTargetState false) := by
  have aimed : { gps with targetState := gps.currentState, latest :=
    none }.Kept False False spare :=
    ⟨kept.1, nofun, kept.2.2.1, False.elim, False.elim⟩
  have asked := aimed.asks same.symm
  exact asked.reportTargetState false

@[simp] theorem Module.setupTimeout_currentState (timeout : Nat) (gps : Module) :
    (gps.setupTimeout out timeout).currentState = gps.currentState := by
  unfold Module.setupTimeout
  split <;> [split; skip] <;> simp [Module.setTimer]

@[simp] theorem Module.setupTimeout_newState (timeout : Nat) (gps : Module) :
    (gps.setupTimeout out timeout).newState = gps.newState := by
  unfold Module.setupTimeout
  split <;> [split; skip] <;> simp [Module.setTimer]

/-- What a handler leaves of a request: the change of the state restores the rest of the
invariant. -/
def Module.Settles (request : Request) (spare : Nat) (gps : Module) : Prop :=
  ∃ timed rests, gps.Kept timed rests spare ∧ (gps.newState = gps.currentState → rests) ∧
    (timed ∨ gps.Finishes) ∧ gps.targetState = request.state

section

variable (kept : gps.Kept timed rests (spare + 1))
include kept

theorem settles_answers (same : request.state = gps.currentState) :
    ({ gps.asks request with targetState := gps.currentState }.reportTargetState false).Settles
      request spare :=
  ⟨True, True, kept.spend.answers same, fun _ => trivial, Or.inl trivial, by simp [same]⟩

theorem settles_ignores (isOn : gps.currentState ≠ .powerOff)
    (named : gps.targetState = request.state)
    (runs : 0 < request.timeout → gps.newState = .powerOff ∨ gps.TimerRuns) :
    (gps.asks request).Settles request spare := by
  refine ⟨_, _, kept.spend.asks named, fun _ => isOn, ?_, named⟩
  by_cases isOff : gps.newState = .powerOff
  · have changes : gps.newState ≠ gps.currentState := by
      rw [isOff]
      exact isOn.symm
    exact Or.inr ⟨changes, Or.inl isOff⟩
  · exact Or.inl fun positive => (runs positive).resolve_left isOff

theorem settles_retargets (newState : GpsState)
    (isOn : gps.currentState = .powerOff → newState ≠ .powerOff)
    (takes : 0 < request.timeout → gps.AnswersAtOnce request ∨ out.targetTimer = true)
    (ends : gps.AnswersAtOnce request → newState ≠ gps.currentState ∧
      (newState = .powerOff ∨ newState = .searchingFix ∧ request.state = .searchingFix)) :
    ({ (gps.asks request).setupTimeout out request.timeout with
      targetState := request.state }.setNewState newState).Settles request spare := by
  refine ⟨_, _, (kept.retargets request).setNewState newState, ?_, ?_, rfl⟩
  · intro same isOff
    have unchanged : newState = gps.currentState := by
      simpa [Module.setNewState, Module.asks] using same
    exact isOn isOff (unchanged.trans isOff)
  · by_cases atOnce : gps.AnswersAtOnce request
    · have finishes := ends atOnce
      refine Or.inr ⟨?_, finishes.2⟩
      simpa [Module.setNewState, Module.asks] using finishes.1
    · exact Or.inl fun positive => (takes positive).resolve_left atOnce

theorem smGlobal_settles (isOn : gps.currentState ≠ .powerOff)
    (notInitialization : gps.currentState ≠ .initialization)
    (takes : 0 < request.timeout → gps.AnswersAtOnce request ∨ out.targetTimer = true) :
    (smGlobal aidStatus out (.targetState request) (gps.asks request)).Settles request spare := by
  unfold smGlobal
  dsimp only
  split
  · next differs =>
    have moves : ∀ newState, (gps.AnswersAtOnce request → newState = request.state) →
        ({ (gps.asks request).setupTimeout out request.timeout with
          targetState := request.state }.setNewState newState).Settles request spare := by
      intro newState aims
      refine settles_retargets kept newState (fun isOff => absurd isOff isOn) takes ?_
      intro atOnce
      have direct := aims atOnce
      subst direct
      refine ⟨differs, ?_⟩
      rcases atOnce with same | isOff | ⟨isSearching, _⟩ | ⟨isInitialization, _⟩
      · exact absurd same differs
      · exact Or.inl isOff
      · exact Or.inr ⟨isSearching, isSearching⟩
      · exact absurd isInitialization notInitialization
    -- A fix is never there at once.
    have waits : request.state = .fixAcquired → ¬ gps.AnswersAtOnce request := by
      intro isFix atOnce
      rcases atOnce with same | isOff | ⟨isSearching, _⟩ | ⟨isInitialization, _⟩
      · exact differs same
      · rw [isFix] at isOff
        cases isOff
      · rw [isFix] at isSearching
        cases isSearching
      · exact notInitialization isInitialization
    split
    · next towards => exact moves .initialization fun atOnce => absurd atOnce (waits towards.1)
    · split
      · next towards => exact moves .searchingFix fun atOnce => absurd atOnce (waits towards.1)
      · exact moves request.state fun _ => rfl
  · next same => exact settles_answers kept (by simpa [Module.asks] using same)

theorem smPoweroff_settles (isOff : gps.currentState = .powerOff)
    (takes : 0 < request.timeout → gps.AnswersAtOnce request ∨ out.targetTimer = true) :
    (smPoweroff out (.targetState request) (gps.asks request)).Settles request spare := by
  unfold smPoweroff
  dsimp only
  split
  · next wakes =>
    refine settles_retargets kept .initialization (fun _ => by decide) takes ?_
    rintro (same | off | ⟨_, isCold | isFix⟩ | ⟨isInitialization, _⟩)
    · exact absurd (same.trans isOff) wakes
    · exact absurd off wakes
    · rw [isOff] at isCold
      cases isCold
    · rw [isOff] at isFix
      cases isFix
    · rw [isOff] at isInitialization
      cases isInitialization
  · next stays =>
    have same : request.state = .powerOff := by simpa using stays
    exact settles_answers kept (same.trans isOff.symm)

theorem smInitialization_settles (isInitialization : gps.currentState = .initialization)
    (hears : ¬ gps.Ignores request)
    (takes : 0 < request.timeout → gps.AnswersAtOnce request ∨ out.targetTimer = true) :
    (smInitialization out (.targetState request) (gps.asks request)).Settles request spare := by
  have isOn : gps.currentState ≠ .powerOff := by
    rw [isInitialization]
    decide
  unfold smInitialization
  dsimp only
  split
  · next differs =>
    split
    · next isOff =>
      refine settles_retargets kept .powerOff (fun off => absurd off isOn) takes ?_
      intro _
      exact ⟨isOn.symm, Or.inl rfl⟩
    · next notOff =>
      refine settles_retargets kept _ (fun off => absurd off isOn) takes ?_
      rintro (same | off | ⟨_, isCold | isFix⟩ | ⟨_, fails⟩)
      · exact absurd (same.trans isInitialization) differs
      · exact absurd off notOff
      · rw [isInitialization] at isCold
        cases isCold
      · rw [isInitialization] at isFix
        cases isFix
      · have unchanged : ({ (gps.asks request).setupTimeout out request.timeout with
            targetState := request.state } : Module).newState = .powerOff := by
          simpa [Module.asks] using fails
        rw [unchanged]
        exact ⟨isOn.symm, Or.inl rfl⟩
  · next stays =>
    have same : request.state = .initialization := by simpa using stays
    split
    · exact settles_answers kept (same.trans isInitialization.symm)
    · next notDone =>
      exact absurd (Or.inr ⟨isInitialization, same, notDone⟩) hears

theorem stateMachine_settles (takes : gps.Takes out request) :
    (stateMachine aidStatus out gps.currentState (.targetState request)
      (gps.asks request)).Settles request spare := by
  unfold Module.Takes at takes
  by_cases ignores : gps.Ignores request
  · rw [if_pos ignores] at takes
    rcases ignores with state | ⟨state, isInitialization, notDone⟩
    · rw [state]
      exact settles_ignores kept (by rw [state]; decide) takes.1 takes.2
    · have ignored : smInitialization out (.targetState request) (gps.asks request) =
          gps.asks request := by
        simp [smInitialization, Module.asks, isInitialization, notDone]
      rw [state]
      unfold stateMachine
      rw [ignored]
      exact settles_ignores kept (by rw [state]; decide) takes.1 takes.2
  · rw [if_neg ignores] at takes
    have notReset : gps.currentState ≠ .reinitialization := fun isReset => ignores (Or.inl isReset)
    have global : gps.currentState ≠ .powerOff → gps.currentState ≠ .initialization →
        (smGlobal aidStatus out (.targetState request) (gps.asks request)).Settles request spare :=
      fun isOn notInitialization => smGlobal_settles kept isOn notInitialization takes
    cases state : gps.currentState with
    | powerOff => exact smPoweroff_settles kept state takes
    | initialization => exact smInitialization_settles kept state ignores takes
    | reinitialization => exact absurd state notReset
    | coldStart | searchingFix | fixAcquired =>
      exact global (by rw [state]; decide) (by rw [state]; decide)

end

/-! ## Steps and runs -/

theorem process_kept (kept : gps.Kept timed rests 2) (takes : gps.Takes out request) :
    (gps.process out request).Kept True True 0 := by
  have settles : (stateMachine (processWith id out .aidStatus) out gps.currentState
      (.targetState request) (gps.asks request)).Settles request 1 :=
    stateMachine_settles kept takes
  obtain ⟨_, _, handled, rest, finishes, aims⟩ := settles
  have processed : (smProcess out (.targetState request) (gps.asks request)).Kept True True 0 :=
    handled.changeState rest finishes
  have target : (smProcess out (.targetState request) (gps.asks request)).targetState =
      request.state := (changeState_targetState _).trans aims
  obtain ⟨recorded, named, distinct, times, atRest⟩ := processed
  refine ⟨?_, named, distinct, times, atRest⟩
  intro entry isIn
  rcases mem_append.mp isIn with before | new
  · exact recorded entry before
  · rw [mem_singleton.mp new]
    exact target

theorem Module.Kept.changeTimers (kept : gps.Kept True True 0) {change : TimerChange}
    (others : ∀ timerId, change = .remove timerId → gps.targetTimerId ≠ some timerId) :
    (gps.changeTimers change).Kept True True 0 := by
  cases change with
  | set callback => exact kept.setTimer callback
  | remove timerId =>
    refine kept.removeTimer ?_
    rintro otherId isTarget ⟨⟩
    exact others timerId rfl isTarget
  | expire timerId =>
    refine kept.withTimers ?_
    intro timer isIn isTimeout _
    refine (mem_erase_of_ne ?_).mpr isIn
    rintro rfl
    cases isTimeout

theorem Module.Kept.timeout (kept : gps.Kept True True 3)
    (careful : gps.targetTimerId = some timerId →
      gps.currentState ≠ .reinitialization ∨ gps.newState = .powerOff) :
    (gps.timeout out timerId).Kept True True 0 := by
  unfold Module.timeout
  split
  · have fired : { gps with timers := gps.timers.erase ⟨timerId, .timeout⟩ }.Kept
        (gps.targetTimerId ≠ some timerId) True 3 := by
      obtain ⟨recorded, named, distinct, times, rest⟩ := kept
      refine ⟨recorded, named, distinct, ?_, rest⟩
      intro differs request isLatest pending positive
      obtain ⟨timer, isIn, isTimeout, isTarget⟩ := times trivial request isLatest pending positive
      refine ⟨timer, (mem_erase_of_ne ?_).mpr isIn, isTimeout, isTarget⟩
      rintro rfl
      exact differs isTarget
    exact (fired.smProcess_timeout careful).spend
  · exact kept.fewer (Nat.zero_le 3)

theorem Module.Kept.queueStateChange (kept : gps.Kept True True 0) (request : Request) :
    (gps.queueStateChange request).Kept True True 0 :=
  kept.setTimer .processEvent

theorem Module.Kept.handle (kept : gps.Kept True True 0) {step : GpsStep}
    (careful : Careful gps step) : (gps.handle step).Kept True True 0 := by
  obtain ⟨fresh, careful⟩ := careful
  obtain ⟨isTarget, isInit, isAid⟩ : 3 ≤ ahead gps.timerIdCnt gps.targetTimerId ∧
      3 ≤ ahead gps.timerIdCnt gps.initTimerId ∧ 3 ≤ ahead gps.timerIdCnt gps.aidTimerId :=
    ⟨fresh _ (by simp), fresh _ (by simp), fresh _ (by simp)⟩
  have free : gps.Kept True True 3 :=
    ⟨kept.1, kept.2.1, ⟨kept.2.2.1.others, isTarget, isInit, isAid⟩, kept.2.2.2⟩
  unfold Module.handle
  split
  · next change isEvent =>
    rw [isEvent] at careful
    refine kept.changeTimers ?_
    rintro timerId rfl
    exact careful
  · next timerId isEvent =>
    rw [isEvent] at careful
    refine kept.withTimers ?_
    intro timer isIn isTimeout _
    refine (mem_erase_of_ne ?_).mpr isIn
    rintro rfl
    cases isTimeout
  · exact kept
  · next request rest isEvent isQueue =>
    rw [isEvent, isQueue] at careful
    have others : { gps with queue := rest }.Kept True True 2 := free.spend
    exact process_kept others careful
  · exact kept
  · next request isEvent isQueue =>
    rw [isEvent, isQueue] at careful
    exact process_kept free.spend careful
  · next timerId isEvent isQueue =>
    rw [isEvent, isQueue] at careful
    exact free.timeout careful
  · exact free.smProcess trivial
  · exact free.smProcess trivial

/-- Everything outside of the state machine works, with new aiding data. -/
def Outcomes.working : Outcomes :=
  { sends := fun _ => true, sendsReset := true, targetTimer := true, initTimer := true,
    aidTimer := true, ioctl := true, assist := true, alpsrv := true, newAlpFile := true }

end Thingsee.Gps
