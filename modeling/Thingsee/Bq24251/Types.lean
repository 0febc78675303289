import Mathlib.Data.List.Basic

/-!
Owns the charger module (bq24251_module.c): the checks of the chip's status bits, in rounds, with
the handling of faults and the detection of the port's type.

The chip and the timers answer anything. Errors other than those the code tells apart are one. What
the module asks of the chip besides the charge-enable bit does not come back to it and is left out,
and so are the limits it sets. A start of the chip leaves the bit enabled.
-/

namespace Thingsee.Bq24251

/-- `bq24251_fault_t`. The chip has room for some more values. -/
inductive Fault where
  | normal
  | inputOvp
  | inputUvlo
  | sleep
  | batteryTsFault
  | batteryOvp
  | thermalShutdown
  | timerFault
  | noBatteryConnected
  | isetShort
  | ldoShort
  | unknown (value : UInt8)
deriving DecidableEq

/-- `bq24251_state_t`. -/
inductive State where
  | ready
  | progress
  | done
  | fault
deriving DecidableEq

/-- `bq24251_chrg_type_t`. -/
inductive ChargerType where
  | dcp
  | cdp
  | sdp
  | tt
deriving DecidableEq

def ChargerType.portType : ChargerType → String
  | .dcp => "DCP"
  | .cdp => "CDP"
  | .sdp => "SDP"
  | .tt => "nonstd"

/-- The errors that are told apart. -/
inductive Errno where
  | again
  | noLink
  | other
deriving DecidableEq

/-- What the chip answers in one round of `bq24251_check_status_bits`, and whether there is memory
for a timer. An error is the answer of an `ioctl` that fails. -/
structure Answers where
  status : Except Errno (State × Fault)
  chargeEnable : Bool
  init : Bool
  startUsbdet : Except Errno Unit
  checkUsbdet : Except Errno ChargerType
  ilim : Except Errno Unit
  chargeCurrent : Except Errno Unit
  chargeDisable : Except Errno Unit
  timer : Bool

/-- A chip that finds a port of a computer, while nothing fails. -/
def chip (state : State) (fault : Fault) : Answers where
  status := .ok (state, fault)
  chargeEnable := true
  init := true
  startUsbdet := .ok ()
  checkUsbdet := .ok .sdp
  ilim := .ok ()
  chargeCurrent := .ok ()
  chargeDisable := .ok ()
  timer := true

/-- `bq24251_plugged_state_e`. -/
inductive Plugged where
  | unknown
  | plugged
  | unplugged
deriving DecidableEq

/-- `bq24251_chgr_event_e`, as far as it is used. -/
inductive Event where
  | charging
  | done
  | fault
  | noCharger

/-- `bq24251_charger_dev_t` with its file open. `timer` says that there is one. `chargeEnable` is
the last value of the charge-enable bit. The record says whether a dead fault was handled, with
neither a disconnect fault nor a start of the chip since, and has the notifications and events. -/
structure Charger where
  timer : Bool
  plugged : Plugged
  detAttempts : Nat
  isDeadFault : Bool
  state : State
  chargingAllowed : Bool
  chargeEnable : Bool
  deadFault : Bool
  notified : List (Option String)
  events : List Event

namespace Charger

def chargerEvent (charger : Charger) (event : Event) : Charger :=
  { charger with events := charger.events ++ [event] }

def notifyUsbConnect (charger : Charger) (portType : Option String) : Charger :=
  { charger with notified := charger.notified ++ [portType] }

def setupDetectTimer (charger : Charger) (memory : Bool) : Charger :=
  if charger.timer then charger else { charger with timer := memory }

def stopDetectTimer (charger : Charger) : Charger :=
  if charger.timer then { charger with timer := false, detAttempts := 0 } else charger

def stopCharging (charger : Charger) (isDeadFault forceCe written : Bool) : Charger :=
  if (isDeadFault || forceCe) && written then
    { charger with chargeEnable := !isDeadFault, isDeadFault }
  else charger

/-- The end of `bq24251_charger_type_detection`, which sets limits and currents. -/
def configure (charger : Charger) (answers : Answers) : Charger × Except Errno Unit :=
  match answers.ilim, answers.chargeCurrent with
  | .error errno, _ => (charger, .error errno)
  | .ok _, .error errno => (charger, .error errno)
  | .ok _, .ok _ =>
    if charger.chargingAllowed then (charger, .ok ())
    else
      match answers.chargeDisable with
      | .error errno => (charger, .error errno)
      | .ok _ => ({ charger with chargeEnable := false }, .ok ())

/-- `bq24251_charger_type_detection` behind the start of a detection. -/
def checkDetection (charger : Charger) (status : State) (answers : Answers) :
    Charger × Except Errno Unit :=
  match answers.checkUsbdet with
  | .error errno => (charger, .error errno)
  | .ok chargerType =>
    if chargerType = .dcp ∧ status = .ready then (charger.stopDetectTimer, .error .noLink)
    else
      (charger.stopDetectTimer.notifyUsbConnect (some chargerType.portType)).configure answers

def typeDetection (charger : Charger) (status : State) (answers : Answers) :
    Charger × Except Errno Unit :=
  if charger.detAttempts = 0 then
    match answers.startUsbdet with
    | .error errno => (charger, .error errno)
    | .ok _ => charger.checkDetection status answers
  else charger.checkDetection status answers

/-- A start of the chip by `BQ24251_IOC_INIT`. -/
def start (charger : Charger) : Charger :=
  { charger with chargeEnable := true, isDeadFault := false, deadFault := false }

/-- The end of `bq24251_charger_work_handler`. -/
def plug (charger : Charger) (status : State) : Charger :=
  if charger.plugged = .unknown ∧ status ≠ .done then
    { charger.chargerEvent .charging with plugged := .plugged }
  else { charger with plugged := .plugged }

/-- `bq24251_charger_work_handler` behind the start of the chip. -/
def detect (charger : Charger) (status : State) (answers : Answers) : Charger × Except Errno Unit :=
  match charger.typeDetection status answers with
  | (charger, .error .again) =>
    ({ charger with detAttempts := charger.detAttempts + 1 }.setupDetectTimer answers.timer,
      .error .again)
  | (charger, .error errno) => (charger, .error errno)
  | (charger, .ok _) => ({ charger with detAttempts := 0 }.plug status, .ok ())

/-- The first part of `bq24251_charger_work_handler`. -/
def progress (charger : Charger) (status : State) : Charger :=
  if status = .done then charger.chargerEvent .done
  else if charger.plugged = .unknown then charger
  else charger.chargerEvent .charging

/-- The rest of `bq24251_charger_work_handler`. -/
def work (charger : Charger) (status : State) (answers : Answers) : Charger × Except Errno Unit :=
  if 3 < charger.detAttempts then
    ({ charger with plugged := .unplugged }.stopDetectTimer, .error .other)
  else if charger.plugged = .plugged then (charger.plug status, .ok ())
  else if answers.init = false then (charger, .error .other)
  else charger.start.detect status answers

def workHandler (charger : Charger) (status : State) (answers : Answers) :
    Charger × Except Errno Unit :=
  (charger.progress status).work status answers

def faultHandler (charger : Charger) (fault : Fault) (written : Bool) : Charger :=
  match fault with
  | .inputOvp | .thermalShutdown | .batteryOvp =>
    { (charger.stopCharging true false written).chargerEvent .fault with deadFault := true }
  | .inputUvlo | .ldoShort | .sleep =>
    let charger := { charger with deadFault := false }
    if charger.plugged ≠ .unplugged then
      { ((charger.stopCharging false true written).chargerEvent
        .noCharger).notifyUsbConnect none with
        plugged := .unplugged
        detAttempts := 0 }
    else if 0 < charger.detAttempts then charger.stopDetectTimer.chargerEvent .fault
    else charger
  | .batteryTsFault | .timerFault | .noBatteryConnected | .isetShort =>
    { charger.chargerEvent .fault with plugged := .unplugged, detAttempts := 0 }
  | .normal | .unknown _ => charger

end Charger

def maxChgFault : Nat := 11

/-- Where the module is: between events, or in `bq24251_check_status_bits` with some rounds left and
the fault of the last one. -/
inductive Config where
  | idle (charger : Charger)
  | checking (charger : Charger) (left : Nat) (prevFault : Option Fault)

inductive Action where
  | poll
  | isCharging
  | setChargingAllowed (allowed : Bool) (read written : Bool)
  | expire (memory : Bool)
  | round (answers : Answers)

/-- The head of the loop of `bq24251_check_status_bits`. -/
def Charger.loop (charger : Charger) (left : Nat) (prevFault : Option Fault) : Config :=
  if left = 0 then .idle charger else .checking charger left prevFault

def Charger.checkStatusBits (charger : Charger) : Config := charger.loop maxChgFault none

def Charger.timerCallback (charger : Charger) (memory : Bool) : Config :=
  if charger.timer then
    ({ charger with timer := false }.setupDetectTimer memory).checkStatusBits
  else .idle charger

/-- The start of `bq24251_set_charging_allowed`, which reads the bit. -/
def Charger.applyAllowed (charger : Charger) (allowed read written : Bool) : Charger :=
  if !charger.isDeadFault && read && charger.chargeEnable != allowed && written then
    { charger with chargingAllowed := allowed, chargeEnable := allowed }
  else { charger with chargingAllowed := allowed }

def Charger.setChargingAllowed (charger : Charger) (allowed read written : Bool) : Config :=
  if charger.chargingAllowed = allowed then .idle charger
  else (charger.applyAllowed allowed read written).checkStatusBits

def Charger.roundNormal (charger : Charger) (state : State) (answers : Answers) : Charger :=
  match ({ charger with state }.workHandler state answers) with
  | (charger, .error .noLink) =>
    if charger.plugged = .unknown then charger.faultHandler .sleep answers.chargeEnable else charger
  | (charger, _) => charger

/-- A round of the loop of `bq24251_check_status_bits`. -/
def Charger.round (charger : Charger) (left : Nat) (prevFault : Option Fault) (answers : Answers) :
    Config :=
  match answers.status with
  | .error _ => .idle charger
  | .ok (state, fault) =>
    if fault = .normal then .idle (charger.roundNormal state answers)
    else if prevFault = some fault then .idle charger
    else ({ charger with state }.faultHandler fault answers.chargeEnable).loop
      (left - 1) (some fault)

/-- One step of a run. A step that is not possible changes nothing. -/
def Config.step : Config → Action → Config
  | .idle charger, .poll => charger.checkStatusBits
  | .idle charger, .isCharging => charger.checkStatusBits
  | .idle charger, .setChargingAllowed allowed read written =>
    charger.setChargingAllowed allowed read written
  | .idle charger, .expire memory => charger.timerCallback memory
  | .checking charger left prevFault, .round answers => charger.round left prevFault answers
  | config, _ => config

/-- The module as it is when `bq24251_init_module` checks the status bits. -/
def Charger.initial (chargingAllowed : Bool) : Charger where
  timer := false
  plugged := .unknown
  detAttempts := 0
  isDeadFault := false
  state := .ready
  chargingAllowed
  chargeEnable := true
  deadFault := false
  notified := []
  events := []

def Config.initial (chargingAllowed : Bool) : Config :=
    (Charger.initial chargingAllowed).checkStatusBits

end Thingsee.Bq24251
