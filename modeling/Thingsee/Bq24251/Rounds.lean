import Thingsee.Bq24251.Types

/-!
Owns what the rounds of `bq24251_check_status_bits` come to: which way a round without a fault goes,
as a function of the state before it and of the answers, and what it leaves behind.
-/

namespace Thingsee.Bq24251

variable (charger : Charger) (status : State) (answers : Answers)

/-- Which way `bq24251_charger_work_handler` goes. -/
inductive Work where
  | gaveUp
  | settled
  | notStarted
  | undetected (errno : Errno)
  | unlinked
  | unconfigured (chargerType : ChargerType) (errno : Errno)
  | connected (chargerType : ChargerType)

def Charger.configError (charger : Charger) (answers : Answers) : Option Errno :=
  match answers.ilim, answers.chargeCurrent with
  | .error errno, _ => some errno
  | .ok _, .error errno => some errno
  | .ok _, .ok _ =>
    if charger.chargingAllowed then none
    else
      match answers.chargeDisable with
      | .error errno => some errno
      | .ok _ => none

def Charger.detected (charger : Charger) (answers : Answers) : Except Errno ChargerType :=
  match charger.detAttempts, answers.startUsbdet with
  | 0, .error errno => .error errno
  | _, _ => answers.checkUsbdet

def Charger.outcome (charger : Charger) (status : State) (answers : Answers) : Work :=
  if 3 < charger.detAttempts then .gaveUp
  else if charger.plugged = .plugged then .settled
  else if answers.init = false then .notStarted
  else
    match charger.detected answers with
    | .error errno => .undetected errno
    | .ok chargerType =>
      if chargerType = .dcp ∧ status = .ready then .unlinked
      else
        match charger.configError answers with
        | some errno => .unconfigured chargerType errno
        | none => .connected chargerType

def Charger.fail (charger : Charger) (errno : Errno) (memory : Bool) :
    Charger × Except Errno Unit :=
  if errno = .again then
    ({ charger with detAttempts := charger.detAttempts + 1 }.setupDetectTimer memory, .error .again)
  else (charger, .error errno)

def Charger.report (charger : Charger) (chargerType : ChargerType) : Charger :=
  charger.start.stopDetectTimer.notifyUsbConnect (some chargerType.portType)

def Charger.result (charger : Charger) (status : State) (memory : Bool) :
    Work → Charger × Except Errno Unit
  | .gaveUp => ({ charger with plugged := .unplugged }.stopDetectTimer, .error .other)
  | .settled => (charger.plug status, .ok ())
  | .notStarted => (charger, .error .other)
  | .undetected errno => charger.start.fail errno memory
  | .unlinked => (charger.start.stopDetectTimer, .error .noLink)
  | .unconfigured chargerType errno => (charger.report chargerType).fail errno memory
  | .connected chargerType =>
    ({ charger.report chargerType with
        chargeEnable := (charger.report chargerType).chargingAllowed
        detAttempts := 0 }.plug status, .ok ())

theorem Charger.stopDetectTimer_chargingAllowed :
    charger.stopDetectTimer.chargingAllowed = charger.chargingAllowed := by
  unfold Charger.stopDetectTimer
  split <;> rfl

theorem Charger.stopDetectTimer_chargeEnable :
    charger.stopDetectTimer.chargeEnable = charger.chargeEnable := by
  unfold Charger.stopDetectTimer
  split <;> rfl

theorem Charger.report_chargingAllowed (chargerType : ChargerType) :
    (charger.report chargerType).chargingAllowed = charger.chargingAllowed :=
  charger.start.stopDetectTimer_chargingAllowed

theorem Charger.configure_eq (enabled : charger.chargeEnable = true) :
    charger.configure answers =
      match charger.configError answers with
      | some errno => (charger, .error errno)
      | none => ({ charger with chargeEnable := charger.chargingAllowed }, .ok ()) := by
  unfold Charger.configure Charger.configError
  cases answers.ilim with
  | error errno => rfl
  | ok _ =>
    cases answers.chargeCurrent with
    | error errno => rfl
    | ok _ =>
      by_cases allowed : charger.chargingAllowed = true
      · have same : charger.chargingAllowed = charger.chargeEnable := allowed.trans enabled.symm
        rw [if_pos allowed, if_pos allowed]
        exact congrArg (fun value => ({ charger with chargeEnable := value }, _)) same.symm
      · have off : charger.chargingAllowed = false := eq_false_of_ne_true allowed
        rw [if_neg allowed, if_neg allowed]
        cases answers.chargeDisable with
        | error errno => rfl
        | ok _ => exact congrArg (fun value => ({ charger with chargeEnable := value }, _)) off.symm

theorem Charger.typeDetection_eq :
    charger.typeDetection status answers =
      match charger.detected answers with
      | .error errno => (charger, .error errno)
      | .ok chargerType =>
        if chargerType = .dcp ∧ status = .ready then (charger.stopDetectTimer, .error .noLink)
        else
          (charger.stopDetectTimer.notifyUsbConnect (some chargerType.portType)).configure
            answers := by
  unfold Charger.typeDetection Charger.detected Charger.checkDetection
  cases attempts : charger.detAttempts with
  | zero => cases answers.startUsbdet <;> rfl
  | succ attempts => rfl

theorem Charger.detect_error {charger after : Charger} {status : State} {answers : Answers}
    {errno : Errno} (found : charger.typeDetection status answers = (after, .error errno)) :
    charger.detect status answers = after.fail errno answers.timer := by
  unfold Charger.detect Charger.fail
  rw [found]
  cases errno <;> rfl

/-- The work of a charger is the result of its outcome. -/
theorem Charger.work_eq :
    charger.work status answers =
      charger.result status answers.timer (charger.outcome status answers) := by
  unfold Charger.work Charger.outcome
  by_cases gaveUp : 3 < charger.detAttempts
  · rw [if_pos gaveUp, if_pos gaveUp]
    rfl
  rw [if_neg gaveUp, if_neg gaveUp]
  by_cases plugged : charger.plugged = .plugged
  · rw [if_pos plugged, if_pos plugged]
    rfl
  rw [if_neg plugged, if_neg plugged]
  by_cases failed : answers.init = false
  · rw [if_pos failed, if_pos failed]
    rfl
  rw [if_neg failed, if_neg failed]
  have found := charger.start.typeDetection_eq status answers
  have same : charger.start.detected answers = charger.detected answers := rfl
  rw [same] at found
  generalize charger.detected answers = detected at found
  cases detected with
  | error errno => exact Charger.detect_error found
  | ok chargerType =>
    dsimp only at found ⊢
    by_cases unlinked : chargerType = .dcp ∧ status = .ready
    · rw [if_pos unlinked] at found ⊢
      exact Charger.detect_error found
    rw [if_neg unlinked] at found ⊢
    have enabled : (charger.report chargerType).chargeEnable = true :=
      charger.start.stopDetectTimer_chargeEnable
    have configured : (charger.report chargerType).configError answers =
        charger.configError answers := by
      unfold Charger.configError
      rw [charger.report_chargingAllowed]
    have reported := Charger.configure_eq (charger.report chargerType) answers enabled
    rw [configured] at reported
    have whole := found.trans reported
    generalize charger.configError answers = error at whole
    cases error with
    | some errno => exact Charger.detect_error whole
    | none =>
      unfold Charger.detect
      rw [whole]
      rfl

def Charger.finish (charger : Charger) (written : Bool) : Except Errno Unit → Charger
  | .error .noLink =>
    if charger.plugged = .unknown then charger.faultHandler .sleep written else charger
  | _ => charger

theorem Charger.progress_eq : ∃ events, charger.progress status = { charger with events } := by
  unfold Charger.progress
  split
  · exact ⟨_, rfl⟩
  · split <;> exact ⟨_, rfl⟩

theorem Charger.roundNormal_eq (state : State) (answers : Answers) :
    ∃ events, charger.roundNormal state answers =
      ({ charger with state, events }.result state answers.timer
          (charger.outcome state answers)).1.finish answers.chargeEnable
        ({ charger with state, events }.result state answers.timer
          (charger.outcome state answers)).2 := by
  obtain ⟨events, progressed⟩ := { charger with state }.progress_eq state
  refine ⟨events, ?_⟩
  have worked := { charger with state, events }.work_eq state answers
  have same : { charger with state, events }.outcome state answers =
      charger.outcome state answers := rfl
  rw [same] at worked
  rw [← worked]
  unfold Charger.roundNormal Charger.workHandler
  rw [progressed]
  generalize { charger with state, events }.work state answers = result
  obtain ⟨after, error | _⟩ := result
  · cases error <;> rfl
  · rfl

end Thingsee.Bq24251
