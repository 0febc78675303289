import Mathlib.Data.List.Chain
import Thingsee.Bq24251.Rounds
import Thingsee.Support.Runs

/-!
Owns the notifications about the USB connection: they alternate, they match the plugged state, and
the timer for detections runs while a detection is in progress.

The link has what this depends on. Rounds of `bq24251_check_status_bits` are steps of the link.
-/

namespace Thingsee.Bq24251

open Support

/-- What the module keeps about the connection, with the notifications. -/
structure Link where
  timer : Bool
  plugged : Plugged
  detAttempts : Nat
  notified : List (Option String)

def Charger.link (charger : Charger) : Link where
  timer := charger.timer
  plugged := charger.plugged
  detAttempts := charger.detAttempts
  notified := charger.notified

namespace Link

def stop (link : Link) : Link :=
  if link.timer then { link with timer := false, detAttempts := 0 } else link

def retry (link : Link) (memory : Bool) : Link :=
  { link with timer := link.timer || memory, detAttempts := link.detAttempts + 1 }

def connect (link : Link) (portType : String) : Link :=
  { link.stop with notified := link.stop.notified ++ [some portType] }

def disconnect (link : Link) : Link :=
  { link with plugged := .unplugged, detAttempts := 0, notified := link.notified ++ [none] }

def failed (link : Link) (memory : Bool) : Errno → Link
  | .again => link.retry memory
  | .noLink => if link.plugged = .unknown then link.disconnect else link
  | .other => link

def worked (link : Link) (memory : Bool) : Work → Link
  | .gaveUp => { link with plugged := .unplugged }.stop
  | .settled => { link with plugged := .plugged }
  | .notStarted => link
  | .undetected errno => link.failed memory errno
  | .unlinked => link.stop.failed memory .noLink
  | .unconfigured chargerType errno => (link.connect chargerType.portType).failed memory errno
  | .connected chargerType =>
    { link.connect chargerType.portType with plugged := .plugged, detAttempts := 0 }

def faulted (link : Link) : Fault → Link
  | .inputUvlo | .ldoShort | .sleep =>
    if link.plugged ≠ .unplugged then link.disconnect
    else if 0 < link.detAttempts then link.stop
    else link
  | .batteryTsFault | .timerFault | .noBatteryConnected | .isetShort =>
    { link with plugged := .unplugged, detAttempts := 0 }
  | .normal | .unknown _ | .inputOvp | .thermalShutdown | .batteryOvp => link

end Link

namespace Charger

variable (charger : Charger)

/-! ## The link of a charger -/

theorem setupDetectTimer_link (memory : Bool) : (charger.setupDetectTimer memory).link =
    { charger.link with timer := charger.timer || memory } := by
  unfold setupDetectTimer
  cases timer : charger.timer with
  | true =>
    unfold link
    rw [if_pos rfl, timer, Bool.true_or]
  | false => rfl

theorem stopDetectTimer_link : charger.stopDetectTimer.link = charger.link.stop := by
  unfold stopDetectTimer Link.stop
  show _ = if charger.timer then _ else _
  split <;> rfl

theorem plug_link (status : State) :
    (charger.plug status).link = { charger.link with plugged := .plugged } := by
  unfold plug
  split <;> rfl

theorem report_link (chargerType : ChargerType) :
    (charger.report chargerType).link = charger.link.connect chargerType.portType := by
  have stopped := charger.start.stopDetectTimer_link
  show { charger.start.stopDetectTimer.link with
    notified := charger.start.stopDetectTimer.link.notified ++ [some chargerType.portType] } = _
  rw [stopped]
  rfl

theorem stopCharging_link (isDeadFault forceCe written : Bool) :
    (charger.stopCharging isDeadFault forceCe written).link = charger.link := by
  unfold stopCharging
  split <;> rfl

theorem faultHandler_link (fault : Fault) (written : Bool) :
    (charger.faultHandler fault written).link = charger.link.faulted fault := by
  have disconnected :
      (charger.faultHandler .sleep written).link = charger.link.faulted .sleep := by
    unfold faultHandler Link.faulted
    by_cases linked : charger.plugged ≠ .unplugged
    · have same : charger.link.plugged ≠ .unplugged := linked
      rw [if_pos linked, if_pos same]
      exact congrArg Link.disconnect
        (stopCharging_link { charger with deadFault := false } false true written)
    · have same : ¬ charger.link.plugged ≠ .unplugged := linked
      rw [if_neg linked, if_neg same]
      by_cases attempts : 0 < charger.detAttempts
      · have detecting : 0 < charger.link.detAttempts := attempts
        rw [if_pos attempts, if_pos detecting]
        exact stopDetectTimer_link _
      · have stopped : ¬ 0 < charger.link.detAttempts := attempts
        rw [if_neg attempts, if_neg stopped]
        rfl
  cases fault with
  | inputUvlo => exact disconnected
  | ldoShort => exact disconnected
  | sleep => exact disconnected
  | inputOvp | thermalShutdown | batteryOvp => exact charger.stopCharging_link true false written
  | batteryTsFault => rfl
  | timerFault => rfl
  | noBatteryConnected => rfl
  | isetShort => rfl
  | normal => rfl
  | unknown value => rfl

theorem fail_link (errno : Errno) (memory written : Bool) :
    ((charger.fail errno memory).1.finish written (charger.fail errno memory).2).link =
      charger.link.failed memory errno := by
  cases errno with
  | again => exact setupDetectTimer_link _ memory
  | noLink =>
    show (if charger.plugged =
      .unknown then charger.faultHandler .sleep written else charger).link =
      if charger.plugged = .unknown then charger.link.disconnect else charger.link
    by_cases unknown : charger.plugged = .unknown
    · have linked : charger.link.plugged ≠ .unplugged := by
        show charger.plugged ≠ .unplugged
        rw [unknown]
        exact nofun
      rw [if_pos unknown, if_pos unknown, faultHandler_link]
      exact if_pos linked
    · rw [if_neg unknown, if_neg unknown]
  | other => rfl

theorem roundNormal_link (state : State) (answers : Answers) :
    (charger.roundNormal state answers).link =
      charger.link.worked answers.timer (charger.outcome state answers) := by
  obtain ⟨events, same⟩ := charger.roundNormal_eq state answers
  rw [same]
  generalize charger.outcome state answers = work
  cases work with
  | gaveUp => exact stopDetectTimer_link _
  | settled => exact plug_link _ state
  | notStarted => rfl
  | undetected errno => exact fail_link _ errno answers.timer answers.chargeEnable
  | unlinked =>
    have failed := fail_link { charger with state, events }.start.stopDetectTimer .noLink
      answers.timer answers.chargeEnable
    rw [stopDetectTimer_link] at failed
    exact failed
  | unconfigured chargerType errno =>
    have failed := fail_link ({ charger with state, events }.report chargerType) errno
      answers.timer answers.chargeEnable
    rw [report_link] at failed
    exact failed
  | connected chargerType =>
    have reported := { charger with state, events }.report_link chargerType
    refine (plug_link _ state).trans ?_
    show { ({ charger with state, events }.report chargerType).link with
      plugged := .plugged, detAttempts := 0 } = _
    rw [reported]
    rfl

end Charger

/-- No notification is of the same kind as the one before it. -/
def Alternates (notified : List (Option String)) : Prop :=
  notified.IsChain fun before after => before.isSome ≠ after.isSome

def Link.Connected (link : Link) : Prop := ∃ portType, link.notified.getLast? = some (some portType)

/-- Notifications alternate and match the plugged state, and a detection in progress has a timer. -/
structure Link.Balanced (link : Link) : Prop where
  alternates : Alternates link.notified
  plugged : link.plugged = .plugged ↔ link.Connected
  pending : 0 < link.detAttempts → link.timer = true

def Link.Timed (link : Link) : Prop := link.timer = true → 0 < link.detAttempts

def Config.link : Config → Link
  | .idle charger => charger.link
  | .checking charger _ _ => charger.link

/-- Between events, a timer runs exactly while a detection is in progress. -/
def Config.Balanced : Config → Prop
  | .idle charger => charger.link.Balanced ∧ charger.link.Timed
  | .checking charger _ _ => charger.link.Balanced

def Link.Works (link : Link) (memory : Bool) : Work → Prop
  | .gaveUp | .settled | .unlinked | .connected _ => True
  | .notStarted | .undetected .other => link.Timed
  | .undetected .again => link.timer = true ∨ memory = true
  | .undetected .noLink => if link.plugged = .unknown then link.timer = false else link.Timed
  | .unconfigured _ errno => errno = .noLink ∧ link.plugged = .unknown

def Link.Handles (link : Link) (last : Bool) : Fault → Prop
  | .inputUvlo | .ldoShort | .sleep =>
    last = true → link.timer = true → link.plugged = .unplugged ∧ 0 < link.detAttempts
  | .batteryTsFault | .timerFault | .noBatteryConnected | .isetShort =>
    link.plugged ≠ .plugged ∧ (last = true → link.timer = false)
  | .normal | .unknown _ | .inputOvp | .thermalShutdown | .batteryOvp => last = true → link.Timed

def Charger.Keeps (charger : Charger) (left : Nat) (prevFault : Option Fault) (answers : Answers) :
    Prop :=
  match answers.status with
  | .error _ => charger.link.Timed
  | .ok (state, fault) =>
    if fault = .normal then charger.link.Works answers.timer (charger.outcome state answers)
    else if prevFault = some fault then charger.link.Timed
    else charger.link.Handles (left ≤ 1) fault

def Config.Keeps : Config → Action → Prop
  | .idle charger, .expire memory => charger.timer = true → memory = true
  | .checking charger left prevFault, .round answers => charger.Keeps left prevFault answers
  | _, _ => True

/-- The balance, with what it rests on: there is no timer while plugged, and nothing was notified
while that is unknown. -/
structure Link.Good (link : Link) : Prop extends link.Balanced where
  settled : link.plugged = .plugged → link.timer = false
  fresh : link.plugged = .unknown → link.notified = []

namespace Link

variable {link : Link} (notified : List (Option String))

theorem connected_append_some (portType : String) :
    ∃ last, (notified ++ [some portType]).getLast? = some (some last) :=
  ⟨portType, List.getLast?_concat⟩

theorem not_connected_append_none : ¬ ∃ last, (notified ++ [none]).getLast? = some (some last) := by
  rintro ⟨last, same⟩
  rw [List.getLast?_concat] at same
  cases same

theorem alternates_append {notified : List (Option String)} (alternates : Alternates notified)
    (next : Option String)
    (other : ∀ last, notified.getLast? = some last → last.isSome ≠ next.isSome) :
    Alternates (notified ++ [next]) := by
  refine List.isChain_append.mpr ⟨alternates, List.isChain_singleton _, ?_⟩
  rintro last isLast _ ⟨⟩
  exact other last isLast

namespace Good

section

variable (good : link.Good)
include good

/-! ## Good links -/

theorem stopped_attempts (off : link.timer = false) : link.detAttempts = 0 := by
  by_contra some
  have running := good.pending (Nat.pos_of_ne_zero some)
  rw [off] at running
  cases running

theorem stop : link.stop = { link with timer := false, detAttempts := 0 } := by
  unfold Link.stop
  split
  case isTrue => rfl
  case isFalse stopped =>
    have off : link.timer = false := eq_false_of_ne_true stopped
    rw [← off, ← good.stopped_attempts off]

theorem stop_good : link.stop.Good ∧ link.stop.Timed := by
  rw [good.stop]
  exact ⟨⟨⟨good.alternates, good.plugged, nofun⟩, fun _ => rfl, good.fresh⟩, nofun⟩

theorem unplug (unplugged : link.plugged ≠ .plugged) :
    { link with plugged := .unplugged }.Good where
  alternates := good.alternates
  plugged := iff_of_false nofun (mt good.plugged.mpr unplugged)
  pending := good.pending
  settled := nofun
  fresh := nofun

theorem retry_good (unplugged : link.plugged ≠ .plugged) {memory : Bool}
    (timer : link.timer = true ∨ memory = true) : (link.retry memory).Good where
  alternates := good.alternates
  plugged := good.plugged
  pending := fun _ => Bool.or_eq_true_iff.mpr timer
  settled := fun plugged => absurd plugged unplugged
  fresh := good.fresh

theorem disconnect_good (linked : link.plugged ≠ .unplugged) :
    link.disconnect.Good where
  alternates := by
    refine alternates_append good.alternates none fun last isLast => ?_
    cases plugged : link.plugged with
    | unknown =>
      rw [good.fresh plugged] at isLast
      cases isLast
    | plugged =>
      obtain ⟨portType, same⟩ := good.plugged.mp plugged
      rw [same] at isLast
      cases isLast
      exact Bool.false_ne_true.symm
    | unplugged => exact absurd plugged linked
  plugged := iff_of_false nofun (not_connected_append_none link.notified)
  pending := nofun
  settled := nofun
  fresh := nofun

theorem connect_alternates (unplugged : link.plugged ≠ .plugged) (portType : String) :
    Alternates (link.connect portType).notified := by
  have stopped := congrArg Link.notified good.stop
  show Alternates (link.stop.notified ++ [some portType])
  rw [stopped]
  refine alternates_append good.alternates _ fun last isLast => ?_
  cases last with
  | none => exact Bool.false_ne_true
  | some before => exact absurd (good.plugged.mpr ⟨before, isLast⟩) unplugged

theorem connected_good (unplugged : link.plugged ≠ .plugged) (portType : String) :
    { link.connect portType with plugged := .plugged, detAttempts := 0 }.Good where
  alternates := good.connect_alternates unplugged portType
  plugged := iff_of_true rfl (connected_append_some _ portType)
  pending := nofun
  settled := fun _ => by
    show link.stop.timer = false
    rw [good.stop]
  fresh := nofun

theorem missed_good (unknown : link.plugged = .unknown) (portType : String) :
    (link.connect portType).disconnect.Good where
  alternates := by
    refine alternates_append (good.connect_alternates (by rw [unknown]; exact nofun) portType) none
      fun last isLast => ?_
    obtain ⟨before, same⟩ := connected_append_some link.stop.notified portType
    rw [show (link.connect portType).notified.getLast? = _ from same] at isLast
    cases isLast
    exact Bool.false_ne_true.symm
  plugged := iff_of_false nofun (not_connected_append_none _)
  pending := nofun
  settled := nofun
  fresh := nofun

end

end Good

theorem not_balanced (unplugged : link.plugged ≠ .plugged) (connected : link.Connected) :
    ¬ link.Balanced := fun balanced => unplugged (balanced.plugged.mpr connected)

theorem stop_plugged : link.stop.plugged = link.plugged := by
  unfold Link.stop
  split <;> rfl

theorem disconnect_timed : link.disconnect.Timed ↔ link.timer = false := by
  constructor
  · exact fun timed => eq_false_of_ne_true fun running => absurd (timed running) (Nat.lt_irrefl 0)
  · intro off running
    rw [show link.timer = true from running] at off
    cases off

/-- What is known of the link where a round goes its way. -/
def Fits (link : Link) : Work → Prop
  | .gaveUp => 3 < link.detAttempts
  | .settled => link.plugged = .plugged
  | _ => link.plugged ≠ .plugged

section

variable (good : link.Good)
include good

theorem Good.undetected_sharp (unplugged : link.plugged ≠ .plugged) (memory : Bool)
    (errno : Errno) :
    (link.Works memory (.undetected errno) →
        (link.failed memory errno).Good ∧ (link.failed memory errno).Timed) ∧
      ((link.failed memory errno).Balanced → (link.failed memory errno).Timed →
        link.Works memory (.undetected errno)) := by
  cases errno with
  | again =>
    constructor
    · exact fun timer => ⟨good.retry_good unplugged timer, fun _ => Nat.succ_pos _⟩
    · exact fun balanced _ => Bool.or_eq_true_iff.mp (balanced.pending (Nat.succ_pos _))
  | other => exact ⟨fun timed => ⟨good, timed⟩, fun _ timed => timed⟩
  | noLink =>
    show ((if link.plugged = .unknown then link.timer = false else link.Timed) → _) ∧
      (_ → _ → if link.plugged = .unknown then link.timer = false else link.Timed)
    unfold Link.failed
    by_cases unknown : link.plugged = .unknown
    · rw [if_pos unknown, if_pos unknown]
      have linked : link.plugged ≠ .unplugged := by rw [unknown]; exact nofun
      exact ⟨fun off => ⟨good.disconnect_good linked, disconnect_timed.mpr off⟩,
        fun _ timed => disconnect_timed.mp timed⟩
    · rw [if_neg unknown, if_neg unknown]
      exact ⟨fun timed => ⟨good, timed⟩, fun _ timed => timed⟩

theorem Good.unconfigured_sharp (unplugged : link.plugged ≠ .plugged) (memory : Bool)
    (chargerType : ChargerType) (errno : Errno) :
    (link.Works memory (.unconfigured chargerType errno) →
        ((link.connect chargerType.portType).failed memory errno).Good ∧
          ((link.connect chargerType.portType).failed memory errno).Timed) ∧
      (((link.connect chargerType.portType).failed memory errno).Balanced →
        link.Works memory (.unconfigured chargerType errno)) := by
  have connected := connected_append_some link.stop.notified chargerType.portType
  have same : (link.connect chargerType.portType).plugged = link.plugged := stop_plugged
  have still : (link.connect chargerType.portType).plugged ≠ .plugged := same ▸ unplugged
  have off : (link.connect chargerType.portType).timer = false := by
    show link.stop.timer = false
    rw [good.stop]
  cases errno with
  | again | other =>
    refine ⟨fun works => absurd works.1 nofun, fun balanced => ?_⟩
    exact absurd balanced (not_balanced still connected)
  | noLink =>
    unfold Link.failed
    rw [same]
    by_cases unknown : link.plugged = .unknown
    · rw [if_pos unknown]
      exact ⟨fun _ => ⟨good.missed_good unknown _, disconnect_timed.mpr off⟩,
        fun _ => ⟨rfl, unknown⟩⟩
    · rw [if_neg unknown]
      refine ⟨fun works => absurd works.2 unknown, fun balanced => ?_⟩
      exact absurd balanced (not_balanced still connected)

/-- A round of work keeps the notifications balanced exactly if it works. -/
theorem Good.worked_sharp (memory : Bool) {work : Work} (fits : link.Fits work) :
    (link.Works memory work → (link.worked memory work).Good ∧ (link.worked memory work).Timed) ∧
      ((link.worked memory work).Balanced → (link.worked memory work).Timed →
        link.Works memory work) := by
  cases work with
  | gaveUp =>
    have unplugged : link.plugged ≠ .plugged := by
      intro plugged
      have none := good.stopped_attempts (good.settled plugged)
      have many : 3 < link.detAttempts := fits
      rw [none] at many
      cases many
    exact ⟨fun _ => (good.unplug unplugged).stop_good, fun _ _ => trivial⟩
  | settled =>
    have plugged : link.plugged = .plugged := fits
    have same : { link with plugged := .plugged } = link := by rw [← plugged]
    have off := good.settled plugged
    refine ⟨fun _ => ?_, fun _ _ => trivial⟩
    unfold Link.worked
    rw [same]
    refine ⟨good, fun running => ?_⟩
    rw [off] at running
    cases running
  | notStarted => exact ⟨fun timed => ⟨good, timed⟩, fun _ timed => timed⟩
  | undetected errno => exact good.undetected_sharp fits memory errno
  | unlinked =>
    refine ⟨fun _ => ?_, fun _ _ => trivial⟩
    have stopped := good.stop_good.1
    have off : link.stop.timer = false := by rw [good.stop]
    show (if link.stop.plugged = .unknown then link.stop.disconnect else link.stop).Good ∧
      (if link.stop.plugged = .unknown then link.stop.disconnect else link.stop).Timed
    split
    case isTrue unknown =>
      exact ⟨stopped.disconnect_good (by rw [unknown]; exact nofun), disconnect_timed.mpr off⟩
    case isFalse => exact good.stop_good
  | unconfigured chargerType errno =>
    have sharp := good.unconfigured_sharp fits memory chargerType errno
    exact ⟨sharp.1, fun balanced _ => sharp.2 balanced⟩
  | connected chargerType =>
    refine ⟨fun _ => ⟨good.connected_good fits _, fun running => ?_⟩, fun _ _ => trivial⟩
    have off : link.stop.timer = false := by rw [good.stop]
    rw [show link.stop.timer = true from running] at off
    cases off

theorem Good.disconnect_sharp (last : Bool) :
    (link.Handles last .sleep →
        (link.faulted .sleep).Good ∧ (last = true → (link.faulted .sleep).Timed)) ∧
      ((last = true → (link.faulted .sleep).Timed) → link.Handles last .sleep) := by
  unfold Link.faulted
  by_cases linked : link.plugged ≠ .unplugged
  · rw [if_pos linked]
    constructor
    · intro handles
      refine ⟨good.disconnect_good linked, fun isLast => disconnect_timed.mpr ?_⟩
      exact eq_false_of_ne_true fun running => linked (handles isLast running).1
    · intro timed isLast running
      have off := disconnect_timed.mp (timed isLast)
      rw [running] at off
      cases off
  · rw [if_neg linked]
    have unplugged : link.plugged = .unplugged := not_not.mp linked
    by_cases detecting : 0 < link.detAttempts
    · rw [if_pos detecting]
      exact ⟨fun _ => ⟨good.stop_good.1, fun _ => good.stop_good.2⟩,
        fun _ _ _ => ⟨unplugged, detecting⟩⟩
    · rw [if_neg detecting]
      exact ⟨fun handles => ⟨good, fun isLast running => (handles isLast running).2⟩,
        fun timed isLast running => ⟨unplugged, timed isLast running⟩⟩

theorem Good.battery_sharp (last : Bool) :
    (link.Handles last .timerFault →
        (link.faulted .timerFault).Good ∧ (last = true → (link.faulted .timerFault).Timed)) ∧
      ((link.faulted .timerFault).Balanced → (last = true → (link.faulted .timerFault).Timed) →
        link.Handles last .timerFault) := by
  constructor
  · rintro ⟨unplugged, off⟩
    have alone := good.unplug unplugged
    refine ⟨⟨⟨alone.alternates, alone.plugged, nofun⟩, nofun, nofun⟩, fun isLast => ?_⟩
    exact disconnect_timed.mpr (off isLast)
  · intro balanced timed
    refine ⟨fun plugged => ?_, fun isLast => disconnect_timed.mp (timed isLast)⟩
    exact absurd (balanced.plugged.mpr (good.plugged.mp plugged)) nofun

theorem Good.faulted_sharp (last : Bool) (fault : Fault) :
    (link.Handles last fault →
        (link.faulted fault).Good ∧ (last = true → (link.faulted fault).Timed)) ∧
      ((link.faulted fault).Balanced → (last = true → (link.faulted fault).Timed) →
        link.Handles last fault) := by
  have disconnects := good.disconnect_sharp last
  have battery := good.battery_sharp last
  have same : ((last = true → link.Timed) → link.Good ∧ (last = true → link.Timed)) ∧
      (link.Balanced → (last = true → link.Timed) → last = true → link.Timed) :=
    ⟨fun timed => ⟨good, timed⟩, fun _ timed => timed⟩
  cases fault with
  | inputUvlo | ldoShort | sleep => exact ⟨disconnects.1, fun _ => disconnects.2⟩
  | batteryTsFault => exact battery
  | timerFault => exact battery
  | noBatteryConnected => exact battery
  | isetShort => exact battery
  | normal => exact same
  | unknown value => exact same
  | inputOvp => exact same
  | thermalShutdown => exact same
  | batteryOvp => exact same

end

end Link

theorem Charger.outcome_fits (charger : Charger) (status : State) (answers : Answers) :
    charger.link.Fits (charger.outcome status answers) := by
  unfold Charger.outcome
  by_cases gaveUp : 3 < charger.detAttempts
  · rw [if_pos gaveUp]
    exact gaveUp
  rw [if_neg gaveUp]
  by_cases plugged : charger.plugged = .plugged
  · rw [if_pos plugged]
    exact plugged
  rw [if_neg plugged]
  split
  · exact plugged
  · split
    · exact plugged
    · split
      · exact plugged
      · split <;> exact plugged

def Config.Good : Config → Prop
  | .idle charger => charger.link.Good ∧ charger.link.Timed
  | .checking charger _ _ => charger.link.Good

variable {config : Config} {charger : Charger} {left : Nat} (prevFault : Option Fault)

theorem Config.Good.balanced (good : config.Good) : config.Balanced := by
  cases config with
  | idle charger => exact ⟨good.1.toBalanced, good.2⟩
  | checking charger left prevFault => exact good.toBalanced

theorem Charger.loop_good :
    (charger.loop left prevFault).Good ↔
      charger.link.Good ∧ (left = 0 → charger.link.Timed) := by
  unfold Charger.loop
  by_cases last : left = 0
  · rw [if_pos last]
    exact and_congr_right fun _ => (imp_iff_right last).symm
  · rw [if_neg last]
    exact (and_iff_left fun ended => absurd ended last).symm

theorem Charger.loop_balanced :
    (charger.loop left prevFault).Balanced ↔
      charger.link.Balanced ∧ (left = 0 → charger.link.Timed) := by
  unfold Charger.loop
  by_cases last : left = 0
  · rw [if_pos last]
    exact and_congr_right fun _ => (imp_iff_right last).symm
  · rw [if_neg last]
    exact (and_iff_left fun ended => absurd ended last).symm

theorem Charger.round_sharp (good : charger.link.Good) (left : Nat) (prevFault : Option Fault)
    (answers : Answers) :
    (charger.Keeps left prevFault answers → (charger.round left prevFault answers).Good) ∧
      ((charger.round left prevFault answers).Balanced → charger.Keeps left prevFault answers) := by
  have same : (charger.link.Timed → (Config.idle charger).Good) ∧
      ((Config.idle charger).Balanced → charger.link.Timed) :=
    ⟨fun timed => ⟨good, timed⟩, fun balanced => balanced.2⟩
  unfold Charger.Keeps Charger.round
  cases answers.status with
  | error errno => exact same
  | ok reported =>
    obtain ⟨state, fault⟩ := reported
    dsimp only
    by_cases normal : fault = .normal
    · rw [if_pos normal, if_pos normal]
      have worked := charger.roundNormal_link state answers
      have sharp := good.worked_sharp answers.timer (charger.outcome_fits state answers)
      rw [← worked] at sharp
      exact ⟨sharp.1, fun balanced => sharp.2 balanced.1 balanced.2⟩
    rw [if_neg normal, if_neg normal]
    by_cases again : prevFault = some fault
    · rw [if_pos again, if_pos again]
      exact same
    rw [if_neg again, if_neg again, Charger.loop_good, Charger.loop_balanced,
      Charger.faultHandler_link]
    have last : left - 1 = 0 ↔ (decide (left ≤ 1) = true) := by
      rw [decide_eq_true_iff]
      omega
    rw [last]
    have sharp := good.faulted_sharp (left ≤ 1) fault
    exact ⟨sharp.1, fun balanced => sharp.2 balanced.1 balanced.2⟩

theorem Charger.timerCallback_sharp (good : charger.link.Good) (timed : charger.link.Timed)
    (memory : Bool) :
    ((charger.timer = true → memory = true) → (charger.timerCallback memory).Good) ∧
      ((charger.timerCallback memory).Balanced → charger.timer = true → memory = true) := by
  unfold Charger.timerCallback
  by_cases running : charger.timer = true
  · rw [if_pos running]
    have set := Charger.setupDetectTimer_link { charger with timer := false } memory
    have busy : (({ charger with timer := false }.setupDetectTimer memory).checkStatusBits).link =
        { charger.link with timer := memory } := set
    show (_ → ({ charger with timer := false }.setupDetectTimer memory).link.Good) ∧
      (({ charger with timer := false }.setupDetectTimer memory).link.Balanced → _)
    rw [set]
    constructor
    · intro some
      refine ⟨⟨good.alternates, good.plugged, fun _ => some running⟩, fun plugged => ?_, good.fresh⟩
      have off := good.settled plugged
      rw [show charger.link.timer = true from running] at off
      cases off
    · exact fun balanced _ => balanced.pending (timed running)
  · rw [if_neg running]
    exact ⟨fun _ => ⟨good, timed⟩, fun _ some => absurd some running⟩

/-- An action keeps the balance exactly under its condition. -/
theorem Config.step_sharp (good : config.Good) (action : Action) :
    (config.Keeps action → (config.step action).Good) ∧
      ((config.step action).Balanced → config.Keeps action) := by
  cases config with
  | idle charger =>
    cases action with
    | poll | isCharging => exact ⟨fun _ => good.1, fun _ => trivial⟩
    | setChargingAllowed allowed read written =>
      refine ⟨fun _ => ?_, fun _ => trivial⟩
      show (charger.setChargingAllowed allowed read written).Good
      unfold Charger.setChargingAllowed Charger.applyAllowed
      split
      · exact good
      · split <;> exact good.1
    | expire memory => exact Charger.timerCallback_sharp good.1 good.2 memory
    | round answers => exact ⟨fun _ => good, fun _ => trivial⟩
  | checking charger left prevFault =>
    cases action with
    | poll | isCharging | setChargingAllowed | expire => exact ⟨fun _ => good, fun _ => trivial⟩
    | round answers => exact Charger.round_sharp good left prevFault answers

/-- **Notifications.** Notifications alternate and match the plugged state, and a timer runs exactly
while a detection is in progress, in all states of a run exactly if its steps meet the condition. -/
theorem notifications_are_balanced (chargingAllowed : Bool) (actions : List Action) :
    (∀ reached, reached <+: actions →
      (reached.foldl Config.step (.initial chargingAllowed)).Balanced) ↔
      Guarded Config.step Config.Keeps (.initial chargingAllowed) actions := by
  apply forall_prefix_iff_guarded_of_good Config.Good Config.Balanced
  · exact fun _ good => good.balanced
  · exact fun _ action good => (Config.step_sharp good action).1
  · exact fun _ action good => (Config.step_sharp good action).2
  · refine ⟨⟨List.IsChain.nil, iff_of_false nofun ?_, nofun⟩, nofun, fun _ => rfl⟩
    rintro ⟨portType, same⟩
    cases same

/-- The charger is unplugged during the first detection. The timer goes on. -/
theorem disconnect_keeps_timer :
    ¬ ([.round { chip .progress .normal with checkUsbdet := .error .again }, .poll,
        .round (chip .ready .sleep), .round (chip .ready .sleep)].foldl Config.step
          (.initial true)).Balanced := by
  rintro ⟨_, timed⟩
  cases timed rfl

end Thingsee.Bq24251
