import Thingsee.Bq24251.Rounds
import Thingsee.Support.Runs

/-!
Owns the prohibition of charging: the charge-enable bit while charging is not allowed, and behind a
dead fault.

The bit is written in four places, and a start of the chip enables it too. Only a detection that
gets to its end disables it again.
-/

namespace Thingsee.Bq24251

open Support Charger

/-- Charging is disabled behind a dead fault, and between events also where it is not allowed. -/
def Config.Prohibits : Config → Prop
  | .idle charger =>
    (charger.chargingAllowed = false → charger.chargeEnable = false) ∧
      (charger.deadFault = true → charger.chargeEnable = false)
  | .checking charger _ _ => charger.deadFault = true → charger.chargeEnable = false

/-- The writes of the charge-enable bit succeed. -/
def Action.Written : Action → Prop
  | .setChargingAllowed _ _ written => written = true
  | .round answers => answers.chargeEnable = true ∧ answers.chargeDisable = .ok ()
  | _ => True

def Fault.isDead : Fault → Bool
  | .inputOvp | .thermalShutdown | .batteryOvp => true
  | _ => false

def Fault.isDisconnect : Fault → Bool
  | .inputUvlo | .ldoShort | .sleep => true
  | _ => false

/-- A round without a fault that leaves charging disabled: the chip is started and a detection gets
to its end, or the chip is not started and charging was disabled. -/
def Charger.Worked (charger : Charger) : Work → Prop
  | .gaveUp | .settled | .notStarted => charger.chargeEnable = false
  | .undetected _ | .unlinked | .unconfigured _ _ => False
  | .connected _ => True

def Charger.Handled (charger : Charger) (fault : Fault) : Prop :=
  fault.isDead = true ∨
    (charger.chargeEnable = false ∧ ¬ (fault.isDisconnect = true ∧ charger.plugged ≠ .unplugged))

/-- A round leaves charging disabled if it is the last one of its event. -/
def Charger.Disables (charger : Charger) (left : Nat) (prevFault : Option Fault)
    (answers : Answers) : Prop :=
  match answers.status with
  | .error _ => charger.chargeEnable = false
  | .ok (state, fault) =>
    if fault = .normal then charger.Worked (charger.outcome state answers)
    else if prevFault = some fault then charger.chargeEnable = false
    else left ≤ 1 → charger.Handled fault

/-- An event ends with charging disabled if it is not allowed. -/
def Config.Disables : Config → Action → Prop
  | .checking charger left prevFault, .round answers =>
    charger.chargingAllowed = false → charger.Disables left prevFault answers
  | _, _ => True

structure Switch where
  chargingAllowed : Bool
  chargeEnable : Bool
  isDeadFault : Bool
  deadFault : Bool

def Charger.switch (charger : Charger) : Switch where
  chargingAllowed := charger.chargingAllowed
  chargeEnable := charger.chargeEnable
  isDeadFault := charger.isDeadFault
  deadFault := charger.deadFault

namespace Charger

variable (charger : Charger) (status : State) (memory : Bool)

theorem setupDetectTimer_switch : (charger.setupDetectTimer memory).switch = charger.switch := by
  unfold setupDetectTimer
  split <;> rfl

theorem stopDetectTimer_switch : charger.stopDetectTimer.switch = charger.switch := by
  unfold stopDetectTimer
  split <;> rfl

theorem plug_switch : (charger.plug status).switch = charger.switch := by
  unfold plug
  split <;> rfl

theorem fail_switch (errno : Errno) (memory : Bool) :
    (charger.fail errno memory).1.switch = charger.switch := by
  unfold fail
  split
  · exact setupDetectTimer_switch _ memory
  · rfl

/-- The switch behind a start of the chip, if nothing disables charging. -/
def started : Switch := ⟨charger.chargingAllowed, true, false, false⟩

theorem report_switch (chargerType : ChargerType) :
    (charger.report chargerType).switch = charger.started :=
  charger.start.stopDetectTimer_switch

def workSwitch : Work → Switch
  | .gaveUp | .settled | .notStarted => charger.switch
  | .undetected _ | .unlinked | .unconfigured _ _ => charger.started
  | .connected _ => { charger.started with chargeEnable := charger.chargingAllowed }

theorem result_switch (work : Work) :
    (charger.result status memory work).1.switch = charger.workSwitch work := by
  cases work with
  | gaveUp => exact stopDetectTimer_switch _
  | settled => exact plug_switch _ status
  | notStarted => rfl
  | undetected errno => exact fail_switch _ errno memory
  | unlinked => exact stopDetectTimer_switch _
  | unconfigured chargerType errno =>
    exact (fail_switch _ errno memory).trans (charger.report_switch chargerType)
  | connected chargerType =>
    refine (plug_switch _ status).trans ?_
    have reported := charger.report_switch chargerType
    show Switch.mk (charger.report chargerType).switch.chargingAllowed
      (charger.report chargerType).switch.chargingAllowed
      (charger.report chargerType).switch.isDeadFault
      (charger.report chargerType).switch.deadFault = _
    rw [reported]
    rfl

def faultSwitch (fault : Fault) : Switch :=
  if fault.isDead then ⟨charger.chargingAllowed, false, true, true⟩
  else if fault.isDisconnect then
    if charger.plugged = .unplugged then { charger.switch with deadFault := false }
    else charger.started
  else charger.switch

theorem faultHandler_switch (fault : Fault) :
    (charger.faultHandler fault true).switch = charger.faultSwitch fault := by
  have disconnected :
      (charger.faultHandler .sleep true).switch =
        if charger.plugged = .unplugged then { charger.switch with deadFault := false }
        else charger.started := by
    unfold faultHandler
    dsimp only
    by_cases unplugged : charger.plugged = .unplugged
    · rw [if_neg (not_not.mpr unplugged), if_pos unplugged]
      split
      · exact stopDetectTimer_switch _
      · rfl
    · rw [if_pos unplugged, if_neg unplugged]
      rfl
  cases fault with
  | inputUvlo => exact disconnected
  | ldoShort => exact disconnected
  | sleep => exact disconnected
  | inputOvp => rfl
  | thermalShutdown => rfl
  | batteryOvp => rfl
  | batteryTsFault => rfl
  | timerFault => rfl
  | noBatteryConnected => rfl
  | isetShort => rfl
  | normal => rfl
  | unknown value => rfl

theorem finish_started {after : Charger} (result : Except Errno Unit)
    (enabled : after.switch = charger.started) :
    (after.finish true result).switch = charger.started := by
  unfold finish
  split
  · split
    case isTrue unknown =>
      have linked : ¬ after.plugged = .unplugged := by rw [unknown]; exact nofun
      have allowed : after.chargingAllowed = charger.chargingAllowed :=
        congrArg Switch.chargingAllowed enabled
      rw [faultHandler_switch]
      show (if after.plugged = .unplugged then _ else after.started) = _
      rw [if_neg linked]
      unfold started
      rw [allowed]
    case isFalse => exact enabled
  · exact enabled

theorem roundNormal_switch (state : State) {answers : Answers}
    (written : answers.chargeEnable = true) :
    (charger.roundNormal state answers).switch =
      charger.workSwitch (charger.outcome state answers) := by
  obtain ⟨events, same⟩ := charger.roundNormal_eq state answers
  rw [same, written]
  have worked := { charger with state, events }.result_switch state answers.timer
    (charger.outcome state answers)
  generalize charger.outcome state answers = work at worked
  have started {after : Charger} (result : Except Errno Unit)
      (enabled : after.switch = charger.started) := charger.finish_started result enabled
  cases work with
  | gaveUp => exact worked
  | settled => exact worked
  | notStarted => exact worked
  | undetected errno => exact started _ worked
  | unlinked => exact started _ worked
  | unconfigured chargerType errno => exact started _ worked
  | connected chargerType => exact worked

end Charger

/-- The flag is set behind a dead fault, and charging is disabled while it is. -/
structure Switch.Sound (switch : Switch) : Prop where
  flagged : switch.deadFault = true → switch.isDeadFault = true
  disabled : switch.isDeadFault = true → switch.chargeEnable = false

def Config.charger : Config → Charger
  | .idle charger => charger
  | .checking charger _ _ => charger

variable (charger : Charger) {config : Config}

theorem Charger.started_sound : charger.started.Sound := ⟨nofun, nofun⟩

variable {charger : Charger} {action : Action} (left : Nat) (work : Work) (fault : Fault)
  (prevFault : Option Fault)

theorem Charger.workSwitch_sound (sound : charger.switch.Sound) (work : Work) :
    (charger.workSwitch work).Sound := by
  cases work with
  | gaveUp => exact sound
  | settled => exact sound
  | notStarted => exact sound
  | undetected => exact charger.started_sound
  | unlinked => exact charger.started_sound
  | unconfigured => exact charger.started_sound
  | connected => exact ⟨nofun, nofun⟩

theorem Charger.faultSwitch_sound (sound : charger.switch.Sound) (fault : Fault) :
    (charger.faultSwitch fault).Sound := by
  unfold Charger.faultSwitch
  split
  · exact ⟨fun _ => rfl, fun _ => rfl⟩
  · split
    · split
      · exact ⟨nofun, sound.disabled⟩
      · exact charger.started_sound
    · exact sound

theorem Charger.applyAllowed_sound (sound : charger.switch.Sound) (allowed read written : Bool) :
    (charger.applyAllowed allowed read written).switch.Sound := by
  unfold Charger.applyAllowed
  split
  case isTrue applied =>
    have alive : charger.isDeadFault = false := by simp at applied; exact applied.1.1.1
    refine ⟨sound.flagged, fun dead => ?_⟩
    have flag : charger.isDeadFault = true := dead
    rw [alive] at flag
    cases flag
  case isFalse => exact ⟨sound.flagged, sound.disabled⟩

theorem Charger.loop_charger : (charger.loop left prevFault).charger = charger := by
  unfold Charger.loop
  split <;> rfl

theorem Config.step_sound (sound : config.charger.switch.Sound) (written : action.Written) :
    (config.step action).charger.switch.Sound := by
  cases config with
  | idle charger =>
    cases action with
    | poll => exact sound
    | isCharging => exact sound
    | setChargingAllowed allowed read done =>
      show (charger.setChargingAllowed allowed read done).charger.switch.Sound
      unfold Charger.setChargingAllowed
      split
      · exact sound
      · exact applyAllowed_sound sound allowed read done
    | expire memory =>
      show (charger.timerCallback memory).charger.switch.Sound
      unfold Charger.timerCallback
      split
      · unfold Charger.checkStatusBits
        rw [loop_charger, setupDetectTimer_switch]
        exact sound
      · exact sound
    | round answers => exact sound
  | checking charger left prevFault =>
    cases action with
    | poll => exact sound
    | isCharging => exact sound
    | setChargingAllowed => exact sound
    | expire => exact sound
    | round answers =>
      show (charger.round left prevFault answers).charger.switch.Sound
      unfold Charger.round
      split
      · exact sound
      case h_2 state fault reported =>
        split
        · show (charger.roundNormal state answers).switch.Sound
          rw [roundNormal_switch charger state written.1]
          exact workSwitch_sound sound _
        · split
          · exact sound
          · rw [loop_charger, written.1, faultHandler_switch]
            exact faultSwitch_sound sound fault

theorem Charger.workSwitch_iff (prohibited : charger.chargingAllowed = false) :
    (charger.workSwitch work).chargeEnable = false ↔ charger.Worked work := by
  cases work with
  | gaveUp => exact Iff.rfl
  | settled => exact Iff.rfl
  | notStarted => exact Iff.rfl
  | undetected => exact iff_of_false nofun id
  | unlinked => exact iff_of_false nofun id
  | unconfigured => exact iff_of_false nofun id
  | connected => exact iff_of_true prohibited trivial

theorem Charger.faultSwitch_iff :
    (charger.faultSwitch fault).chargeEnable = false ↔ charger.Handled fault := by
  unfold Charger.faultSwitch Charger.Handled
  cases fault.isDead <;> cases fault.isDisconnect <;>
    by_cases unplugged : charger.plugged = .unplugged <;>
    simp [unplugged, Charger.started, Charger.switch]

theorem Charger.faultSwitch_allowed :
    (charger.faultSwitch fault).chargingAllowed = charger.chargingAllowed := by
  unfold Charger.faultSwitch
  split
  · rfl
  · split
    · split <;> rfl
    · rfl

theorem Charger.workSwitch_allowed :
    (charger.workSwitch work).chargingAllowed = charger.chargingAllowed := by
  cases work <;> rfl

theorem Switch.Sound.dead {switch : Switch} (sound : switch.Sound)
    (dead : switch.deadFault = true) :
    switch.chargeEnable = false := sound.disabled (sound.flagged dead)

theorem Config.prohibits_iff (sound : config.charger.switch.Sound) :
    config.Prohibits ↔ ∀ charger, config = .idle charger →
      charger.switch.chargingAllowed = false → charger.switch.chargeEnable = false := by
  cases config with
  | idle charger =>
    constructor
    · rintro ⟨prohibited, _⟩ _ ⟨⟩
      exact prohibited
    · intro prohibited
      exact ⟨prohibited charger rfl, sound.dead⟩
  | checking charger left prevFault => exact iff_of_true sound.dead nofun

theorem Charger.round_prohibits {answers : Answers} (written : answers.chargeEnable = true)
    (sound : (charger.round left prevFault answers).charger.switch.Sound) :
    (charger.round left prevFault answers).Prohibits ↔
      (charger.chargingAllowed = false → charger.Disables left prevFault answers) := by
  rw [Config.prohibits_iff sound]
  unfold Charger.Disables Charger.round
  cases answers.status with
  | error errno =>
    constructor
    · exact fun prohibited => prohibited charger rfl
    · rintro disables _ ⟨⟩
      exact disables
  | ok reported =>
    obtain ⟨state, fault⟩ := reported
    dsimp only
    by_cases normal : fault = .normal
    · rw [if_pos normal, if_pos normal]
      have worked := charger.roundNormal_switch state written
      constructor
      · intro prohibited allowed
        have disabled := prohibited _ rfl
        rw [worked, charger.workSwitch_allowed, charger.workSwitch_iff _ allowed] at disabled
        exact disabled allowed
      · rintro disables _ ⟨⟩
        rw [worked, charger.workSwitch_allowed]
        intro allowed
        exact (charger.workSwitch_iff _ allowed).mpr (disables allowed)
    rw [if_neg normal, if_neg normal]
    by_cases again : prevFault = some fault
    · rw [if_pos again, if_pos again]
      constructor
      · exact fun prohibited => prohibited charger rfl
      · rintro disables _ ⟨⟩
        exact disables
    rw [if_neg again, if_neg again, written]
    have handled := { charger with state }.faultHandler_switch fault
    unfold Charger.loop
    by_cases last : left - 1 = 0
    · rw [if_pos last]
      constructor
      · intro prohibited allowed _
        have disabled := prohibited _ rfl
        rw [handled, faultSwitch_allowed, faultSwitch_iff] at disabled
        exact disabled allowed
      · rintro disables _ ⟨⟩
        rw [handled, faultSwitch_allowed, faultSwitch_iff]
        exact fun allowed => disables allowed (by omega)
    · rw [if_neg last]
      exact iff_of_true nofun fun _ only => absurd only (by omega)

theorem Config.step_prohibits (sound : config.charger.switch.Sound) (prohibits : config.Prohibits)
    (written : action.Written) : (config.step action).Prohibits ↔ config.Disables action := by
  have next := Config.step_sound sound written
  cases config with
  | idle charger =>
    refine iff_of_true ?_ trivial
    cases action with
    | poll | isCharging => exact (Config.prohibits_iff next).mpr nofun
    | setChargingAllowed allowed read done =>
      show (charger.setChargingAllowed allowed read done).Prohibits
      unfold Charger.setChargingAllowed
      split
      · exact prohibits
      · exact (applyAllowed_sound sound allowed read done).dead
    | expire memory =>
      show (charger.timerCallback memory).Prohibits
      unfold Charger.timerCallback
      split
      case isTrue running =>
        have kept := setupDetectTimer_switch { charger with timer := false } memory
        show ({ charger with timer := false }.setupDetectTimer memory).switch.deadFault = true →
          ({ charger with timer := false }.setupDetectTimer memory).switch.chargeEnable = false
        rw [kept]
        exact sound.dead
      · exact prohibits
    | round answers => exact prohibits
  | checking charger left prevFault =>
    cases action with
    | poll | isCharging | setChargingAllowed | expire => exact iff_of_true prohibits trivial
    | round answers => exact round_prohibits left prevFault written.1 next

/-- A step of a run in which the writes of the charge-enable bit succeed. -/
def Config.stepWritten (config : Config)
    (action : { action : Action // action.Written }) : Config :=
  config.step action

/-- **Prohibition of charging.** While writes of the charge-enable bit succeed, charging is disabled
between events where it is not allowed, and behind a dead fault, exactly if each event ends with a
round that leaves it disabled. -/
theorem charging_is_prohibited (chargingAllowed : Bool)
    (actions : List { action : Action // action.Written }) :
    (∀ reached, reached <+: actions →
      (reached.foldl Config.stepWritten (.initial chargingAllowed)).Prohibits) ↔
      Guarded Config.stepWritten (fun config action => config.Disables action)
        (.initial chargingAllowed) actions := by
  apply forall_prefix_iff_guarded (fun config => config.charger.switch.Sound) Config.Prohibits
  · exact fun _ action sound => Config.step_sound sound action.2
  · exact fun _ action sound prohibits => Config.step_prohibits sound prohibits action.2
  · exact ⟨nofun, nofun⟩
  · exact nofun

/-- The charger is unplugged while charging is not allowed. -/
theorem disconnect_enables_charging :
    ¬ ([.round (chip .progress .normal), .setChargingAllowed false true true,
        .round (chip .progress .normal), .poll, .round (chip .ready .sleep),
        .round (chip .ready .sleep)].foldl Config.step (.initial true)).Prohibits := by
  rintro ⟨prohibited, _⟩
  cases prohibited rfl

end Thingsee.Bq24251
