import Mathlib.Tactic.Linarith
import Thingsee.Core.TimerQueues
import Thingsee.DeepSleep.Board

/-!
Owns `ts_core_deepsleep`: who has to be awake again when, and on which states nobody is overslept.

A duration of 0 means that no wake-up is programmed. `up_modem_deep_sleep_readiness` knows that,
`up_gps_deep_sleep_readiness` takes it for the shortest of all.
-/

namespace Thingsee.DeepSleep

open Thingsee.Core Support Checked List

variable {C : Type} {timers : Timers C} {now : Timespec} {millisecs : Int}

/-- The part of `struct ts_core_s` that deep sleep depends on: the timers, the answers of the hooks,
and for which files `poll` reports an event. -/
structure TsCore (C : Type) where
  timers : Timers C
  deepsleepHooks : List (Option Bool)
  revents : List Bool

def timespecToMsec (ts : Timespec) : Checked Int := do
  let msecs ← Checked.int64 (ts.tvSec.toNat * 1000)
  Checked.int64 (msecs + ts.tvNsec.tdiv (1000 * 1000))

/-- `ts_core_timer_get_timeout`. `INT_MAX` is 2147483647. -/
def tsCoreTimerGetTimeout (timers : Timers C) : Checked Int :=
  match timers.active with
  | [] => pure (-1)
  | timer :: _ => do
      let currMsec ← timespecToMsec timers.now
      let timerMsec ← timespecToMsec timer.dateExpires
      if timerMsec ≤ currMsec then pure 0
      else do
        let timeout ← Checked.int64 (timerMsec - currMsec)
        if timeout ≤ 2147483647 then Checked.int32 timeout else pure 2147483647

/-- The end of `ts_core_deepsleep`: how long stop mode lasted. -/
def timeDeepslept (tsEntry tsExit : Timespec) : Checked Int :=
  let timeDeepslept := (tsExit.tvSec - tsEntry.tvSec).toInt
  if timeDeepslept < 2147483 then do
    let timeDeepslept ← Checked.int32 (timeDeepslept * 1000)
    let nsecs ← nsecMsecs tsExit tsEntry
    Checked.int32 (timeDeepslept + nsecs)
  else pure 2147483647

/-- `ts_core_deepsleep`. `BOARD_DEEPSLEEP_MAX_SECS` is 0xffff. -/
def tsCoreDeepsleep (core : TsCore C) (board : Board) (tsExit : Timespec) :
    Checked (Sleep × Int) :=
  if core.deepsleepHooks.contains (some false) then pure (.skipped, 0)
  else if core.revents.contains true then pure (.skipped, 0)
  else do
    let timeoutMsecs ← tsCoreTimerGetTimeout core.timers
    if timeoutMsecs = 0 then pure (.skipped, 0)
    else do
      let maxMsecs ← Checked.int32 (0xffff * 1000)
      let timeoutMsecs :=
        if timeoutMsecs < 0 then 0 else if maxMsecs < timeoutMsecs then maxMsecs else timeoutMsecs
      let sleep ← boardDeepsleepWithStopmodeMsecs board core.timers.now timeoutMsecs
      let time ← timeDeepslept core.timers.now tsExit
      pure (sleep, time)

def Sleep.EndsBy (now : Timespec) (limit : Int) : Sleep → Prop
  | .skipped => True
  | .untilInterrupt => False
  | .untilWakeup wakeup => (now.nsecs : ℚ) + wakeup.nsecs < limit + 1000000

/-- The modem has a user of low activity, or its activity has changed in the last half second. -/
def Modem.Restless (modem : Modem) (now : Timespec) : Prop :=
  0 < modem.low.count ∨
    ∃ activity ∈ [modem.high, modem.low],
      activity.count = 0 ∧ now.nsecs ≤ activity.lastModTime.nsecs + 500 * 1000000

/-- Nobody is overslept. -/
structure Punctual (core : TsCore C) (board : Board) (sleep : Sleep) : Prop where
  timers : ∀ timer ∈ core.timers.active, sleep.EndsBy core.timers.now timer.dateExpires.nsecs
  gps : board.gps.regulator = true → sleep.EndsBy core.timers.now board.gps.pmWakeAbstime.nsecs
  modem : board.modem.Restless core.timers.now →
    sleep.EndsBy core.timers.now (core.timers.now.nsecs + 3 * 1000000000)

/-- What the clock and the queues promise: the active queue is sorted, the activity of the modem was
changed at times of the same clock, and the clock does not go back during a call. -/
structure Consistent (core : TsCore C) (board : Board) (tsExit : Timespec) : Prop where
  clock : core.timers.now.Normal
  sorted : Timers.Sorted core.timers.active
  dates : ∀ timer ∈ core.timers.active, timer.dateExpires.Normal
  changes : ∀ activity ∈ [board.modem.high, board.modem.low],
    activity.lastModTime.Normal ∧ activity.lastModTime.nsecs ≤ core.timers.now.nsecs
  exit : tsExit.Normal
  later : 0 ≤ (tsExit.tvSec - core.timers.now.tvSec).toInt

structure TsCore.AtRest (core : TsCore C) : Prop where
  hooks : some false ∉ core.deepsleepHooks
  files : true ∉ core.revents
  timers : ∀ timer ∈ core.timers.active.head?, core.timers.now.toMsec < timer.dateExpires.toMsec

def Modem.Ready (modem : Modem) (now : Timespec) : Prop :=
  modem.powerSwitch = true → ∀ serdev ∈ modem.uart,
    serdev.busy = false ∧ modem.high.count = 0 ∧
      100 < (modemMsecsFromRecentActivity modem now).value

def Modem.Limits (modem : Modem) (now : Timespec) : Prop :=
  0 < modem.low.count ∨ (modemMsecsFromRecentActivity modem now).value ≤ 500

instance (modem : Modem) (now : Timespec) : Decidable (modem.Limits now) :=
  inferInstanceAs (Decidable (_ ∨ _))

structure Gps.Awaited (gps : Gps) (now : Timespec) : Prop where
  on : gps.regulator = true
  quiet : ∀ serdev ∈ gps.uart, serdev.busy = false
  ahead : now.nsecs < gps.pmWakeAbstime.nsecs

def Gps.wakeSecs (gps : Gps) (now : Timespec) : Int := (gps.pmWakeAbstime.tvSec - now.tvSec).toInt

def Gps.wakeMsecs (gps : Gps) (now : Timespec) : Int :=
  gps.wakeSecs now * 1000 + (gps.pmWakeAbstime.tvNsec - now.tvNsec).tdiv 1000000

/-- The wake time is too far away to be computed, or its milliseconds fit 32 bits. -/
def Gps.Fits (gps : Gps) (now : Timespec) : Prop :=
  2147483 < gps.wakeSecs now ∨
    (-2147483648 ≤ gps.wakeSecs now * 1000 ∧ -2147483648 ≤ gps.wakeMsecs now ∧
      gps.wakeMsecs now < 2147483648)

/-- There is less than a millisecond left, as far as these numbers say. -/
def Gps.Imminent (gps : Gps) (now : Timespec) : Prop :=
  gps.wakeSecs now ≤ 2147483 ∧ gps.wakeMsecs now ≤ 0

/-- If the GPS is asked for its wake time, then that can be computed, and something else ends or
prevents the sleep. -/
def Meets (core : TsCore C) (board : Board) : Prop :=
  core.AtRest → board.modem.Ready core.timers.now → board.gps.Awaited core.timers.now →
    board.gps.Fits core.timers.now ∧
      (core.timers.active ≠ [] ∨ board.modem.Limits core.timers.now ∨
        board.gps.Imminent core.timers.now ∨ board.peripherals.quiet = false)

theorem nsecMsecs_eq {later earlier : Timespec} (normal : later.Normal)
    (earlierNormal : earlier.Normal) :
    nsecMsecs later earlier = pure ((later.tvNsec - earlier.tvNsec).tdiv 1000000) := by
  obtain ⟨lower, upper⟩ := normal
  obtain ⟨earlierLower, earlierUpper⟩ := earlierNormal
  unfold nsecMsecs
  rw [int32_eq (by omega) (by omega)]
  rfl

variable {ts : Timespec} {activity : Activity}

theorem timespecToMsec_eq (normal : ts.Normal) : timespecToMsec ts = pure ts.toMsec := by
  obtain ⟨lower, upper⟩ := normal
  have seconds := ts.tvSec.isLt
  have rounded := tdiv_cases ts.tvNsec
  have million : (1000 * 1000 : Int) = 1000000 := rfl
  unfold timespecToMsec Timespec.toMsec
  rw [million, int64_eq (by omega) (by omega), pure_bind]
  exact int64_eq (by omega) (by omega)

theorem toMsec_bounds (normal : ts.Normal) :
    ts.toMsec * 1000000 ≤ ts.nsecs ∧ ts.nsecs < ts.toMsec * 1000000 + 1000000 := by
  obtain ⟨lower, upper⟩ := normal
  have rounded := tdiv_cases ts.tvNsec
  have million : (1000 * 1000 : Int) = 1000000 := rfl
  unfold Timespec.toMsec Timespec.nsecs
  rw [million]
  omega

def timeoutMsecs (timers : Timers C) : Int :=
  match timers.active with
  | [] => -1
  | timer :: _ =>
    if timer.dateExpires.toMsec ≤ timers.now.toMsec then 0
    else min (timer.dateExpires.toMsec - timers.now.toMsec) 2147483647

/-! ## Timers and modem -/

theorem tsCoreTimerGetTimeout_eq (clock : timers.now.Normal)
    (dates : ∀ timer ∈ timers.active, timer.dateExpires.Normal) :
    tsCoreTimerGetTimeout timers = pure (timeoutMsecs timers) := by
  unfold tsCoreTimerGetTimeout timeoutMsecs
  cases queue : timers.active with
  | nil => rfl
  | cons timer rest =>
    have normal := dates timer (by rw [queue]; exact mem_cons_self)
    obtain ⟨nowLower, nowUpper⟩ := toMsec_bounds clock
    obtain ⟨lower, upper⟩ := toMsec_bounds normal
    have nowSeconds := timers.now.tvSec.isLt
    have seconds := timer.dateExpires.tvSec.isLt
    have nowSmall : 0 ≤ timers.now.nsecs ∧ timers.now.nsecs < 4294967296 * 1000000000 := by
      unfold Timespec.nsecs
      obtain ⟨nonneg, below⟩ := clock
      omega
    have small : 0 ≤ timer.dateExpires.nsecs ∧
        timer.dateExpires.nsecs < 4294967296 * 1000000000 := by
      unfold Timespec.nsecs
      obtain ⟨nonneg, below⟩ := normal
      omega
    dsimp only
    rw [timespecToMsec_eq clock, pure_bind, timespecToMsec_eq normal, pure_bind]
    split
    case isTrue => rfl
    case isFalse ahead =>
      rw [int64_eq (by omega) (by omega), pure_bind]
      split
      case isTrue short =>
        rw [int32_eq (by omega) (by omega), min_eq_left short]
      case isFalse long => rw [min_eq_right (by omega)]

def Activity.msecs (activity : Activity) (now : Timespec) : Int :=
  ((now.tvSec.toNat : Int) - activity.lastModTime.tvSec.toNat) * 1000 +
    (now.tvNsec - activity.lastModTime.tvNsec).tdiv 1000000

theorem Activity.msecs_nonneg (clock : now.Normal) (normal : activity.lastModTime.Normal)
    (earlier : activity.lastModTime.nsecs ≤ now.nsecs) : 0 ≤ activity.msecs now := by
  obtain ⟨nowLower, nowUpper⟩ := clock
  obtain ⟨lower, upper⟩ := normal
  have rounded := tdiv_cases (now.tvNsec - activity.lastModTime.tvNsec)
  unfold Timespec.nsecs at earlier
  unfold Activity.msecs
  omega

theorem Activity.msecs_le (recent : now.nsecs ≤ activity.lastModTime.nsecs + 500 * 1000000) :
    activity.msecs now ≤ 500 := by
  have rounded := tdiv_cases (now.tvNsec - activity.lastModTime.tvNsec)
  unfold Timespec.nsecs at recent
  unfold Activity.msecs
  omega

/-- The changes of the modem's activity are times of the clock. -/
def Changed (now : Timespec) (activities : List Activity) : Prop :=
  ∀ activity ∈ activities,
    activity.lastModTime.Normal ∧ activity.lastModTime.nsecs ≤ now.nsecs

/-- The loop gives at most the time of every activity whose count is zero. -/
theorem modemMsecsLoop_spec (clock : now.Normal) {activities : List Activity}
    (changes : Changed now activities) (minMsecs : Int) :
    ∃ msecs, modemMsecsLoop now activities minMsecs = pure msecs ∧ msecs ≤ minMsecs ∧
      ∀ activity ∈ activities, activity.count = 0 → msecs ≤ activity.msecs now := by
  induction activities generalizing minMsecs with
  | nil => exact ⟨minMsecs, rfl, Int.le_refl _, fun _ isIn => nomatch isIn⟩
  | cons activity rest ih =>
    have later : Changed now rest := fun other isIn => changes other (mem_cons_of_mem _ isIn)
    obtain ⟨normal, earlier⟩ := changes activity mem_cons_self
    have positive := Activity.msecs_nonneg clock normal earlier
    unfold modemMsecsLoop
    split
    case isTrue counted =>
      obtain ⟨msecs, computed, atMost, least⟩ := ih later minMsecs
      have active : activity.count ≠ 0 := by
        rintro none
        rw [none] at counted
        exact absurd counted (BitVec.lt_irrefl _)
      exact ⟨msecs, computed, atMost,
        forall_mem_cons.mpr ⟨fun none => absurd none active, least⟩⟩
    case isFalse =>
      have seconds := now.tvSec.isLt
      have msecs : activity.msecs now =
          ((now.tvSec.toNat : Int) - activity.lastModTime.tvSec.toNat) * 1000 +
            (now.tvNsec - activity.lastModTime.tvNsec).tdiv 1000000 := rfl
      have rounded := tdiv_cases (now.tvNsec - activity.lastModTime.tvNsec)
      obtain ⟨nowLower, nowUpper⟩ := clock
      obtain ⟨lower, upper⟩ := normal
      rw [uint32_eq (by omega) (by omega), pure_bind,
        int64_eq (by omega) (by omega), pure_bind,
        nsecMsecs_eq ⟨nowLower, nowUpper⟩ ⟨lower, upper⟩, pure_bind, ← msecs,
        int64_eq (by omega) (by omega), pure_bind]
      split
      case isTrue less =>
        split
        case isTrue zero =>
          refine ⟨activity.msecs now, rfl, Int.le_of_lt less, ?_⟩
          intro other isIn _
          obtain ⟨otherNormal, otherEarlier⟩ := changes other isIn
          exact Int.le_trans zero
            (Activity.msecs_nonneg ⟨nowLower, nowUpper⟩ otherNormal otherEarlier)
        case isFalse =>
          obtain ⟨found, computed, atMost, least⟩ := ih later (activity.msecs now)
          exact ⟨found, computed, by omega, forall_mem_cons.mpr ⟨fun _ => atMost, least⟩⟩
      case isFalse more =>
        obtain ⟨found, computed, atMost, least⟩ := ih later minMsecs
        exact ⟨found, computed, atMost,
          forall_mem_cons.mpr ⟨fun _ => by omega, least⟩⟩

variable {modem : Modem}

theorem modemMsecs_eq (clock : now.Normal) (changes : Changed now [modem.high, modem.low]) :
    modemMsecsFromRecentActivity modem now =
      pure (modemMsecsFromRecentActivity modem now).value := by
  obtain ⟨msecs, computed, _⟩ := modemMsecsLoop_spec clock changes 9223372036854775807
  unfold modemMsecsFromRecentActivity
  rw [computed]
  rfl

theorem Modem.Restless.limits (clock : now.Normal)
    (changes : Changed now [modem.high, modem.low]) (restless : modem.Restless now) :
    modem.Limits now := by
  rcases restless with user | ⟨activity, isIn, none, recent⟩
  · exact .inl user
  · obtain ⟨msecs, computed, _, least⟩ := modemMsecsLoop_spec clock changes 9223372036854775807
    right
    unfold modemMsecsFromRecentActivity
    rw [computed]
    exact Int.le_trans (least activity isIn none) (Activity.msecs_le recent)

def modemLimited (modem : Modem) (now : Timespec) (msecs : Int) : Int :=
  if msecs < 3000 ∧ msecs ≠ 0 then msecs else if modem.Limits now then 3000 else msecs

section

variable (clock : now.Normal) (changes : Changed now [modem.high, modem.low])
include clock changes

theorem checkLowActivity_eq {recent msecs : Int}
    (known : recent = -1 ∨ recent = (modemMsecsFromRecentActivity modem now).value) :
    checkLowActivity modem now recent msecs = pure (true, modemLimited modem now msecs) := by
  have found : (if recent = -1 then modemMsecsFromRecentActivity modem now else pure recent) =
      pure (modemMsecsFromRecentActivity modem now).value := by
    split
    case isTrue => exact modemMsecs_eq clock changes
    case isFalse computed => rw [known.resolve_left computed]
  unfold checkLowActivity modemLimited
  split
  case isTrue => rfl
  case isFalse =>
    by_cases user : 0 < modem.low.count
    · rw [if_pos user, if_pos (.inl user)]
    · have limits : modem.Limits now ↔ (modemMsecsFromRecentActivity modem now).value ≤ 500 :=
        or_iff_right user
      rw [if_neg user, found, pure_bind]
      simp only [limits]

theorem upModemDeepSleepReadiness_ready (ready : modem.Ready now) (msecs : Int) :
    upModemDeepSleepReadiness modem now msecs = pure (true, modemLimited modem now msecs) := by
  unfold upModemDeepSleepReadiness
  split
  case isTrue => exact checkLowActivity_eq clock changes (.inl rfl)
  case isFalse powered =>
    split
    case h_1 => exact checkLowActivity_eq clock changes (.inl rfl)
    case h_2 serdev opened =>
      obtain ⟨quiet, none, notRecent⟩ := ready (Bool.of_not_eq_false powered) serdev opened
      have inactive : ¬ 0 < modem.high.count := by
        rw [none]
        exact BitVec.lt_irrefl _
      rw [if_neg (by rw [quiet]; exact Bool.false_ne_true), if_neg inactive,
        modemMsecs_eq clock changes, pure_bind, if_neg (Int.not_le.mpr notRecent)]
      exact checkLowActivity_eq clock changes (.inr rfl)

theorem upModemDeepSleepReadiness_busy (busy : ¬ modem.Ready now) (msecs : Int) :
    upModemDeepSleepReadiness modem now msecs = pure (false, msecs) := by
  unfold upModemDeepSleepReadiness
  split
  case isTrue off => exact absurd (fun on => absurd on (by rw [off]; exact Bool.false_ne_true)) busy
  case isFalse powered =>
    split
    case h_1 closed =>
      exact absurd (fun _ serdev opened => by rw [closed] at opened; cases opened) busy
    case h_2 serdev opened =>
      split
      case isTrue => rfl
      case isFalse quiet =>
        split
        case isTrue => rfl
        case isFalse inactive =>
          rw [modemMsecs_eq clock changes, pure_bind]
          split
          case isTrue => rfl
          case isFalse notRecent =>
            refine absurd (fun _ other otherOpened => ?_) busy
            obtain rfl : serdev = other := Option.some.inj (opened.symm.trans otherOpened)
            exact ⟨Bool.of_not_eq_true quiet, by simpa using inactive, Int.not_le.mp notRecent⟩

end

variable {gps : Gps}

/-! ## The receiver -/

theorem ahead_iff {wake : Timespec} (clock : now.Normal) (normal : wake.Normal) :
    ¬ (wake.tvSec < now.tvSec ∨ (wake.tvSec = now.tvSec ∧ wake.tvNsec ≤ now.tvNsec)) ↔
      now.nsecs < wake.nsecs := by
  obtain ⟨nowLower, nowUpper⟩ := clock
  obtain ⟨lower, upper⟩ := normal
  unfold Timespec.nsecs
  rw [BitVec.lt_def, ← BitVec.toNat_inj]
  omega

theorem upGpsDeepSleepReadiness_off (off : gps.regulator = false) (msecs : Int) :
    upGpsDeepSleepReadiness gps now msecs = pure (true, msecs) := by
  unfold upGpsDeepSleepReadiness
  rw [if_pos off]

theorem upGpsDeepSleepReadiness_busy (clock : now.Normal) (on : gps.regulator = true)
    (busy : ¬ gps.Awaited now) (msecs : Int) :
    upGpsDeepSleepReadiness gps now msecs = pure (false, msecs) := by
  have opened := gps.opened on
  unfold upGpsDeepSleepReadiness
  rw [if_neg (by rw [on]; exact Bool.noConfusion)]
  split
  case h_1 closed =>
    rw [closed] at opened
    cases opened
  case h_2 serdev isPort =>
    split
    case isTrue => rfl
    case isFalse quiet =>
      split
      case isTrue => rfl
      case isFalse ahead =>
        refine absurd ⟨on, fun other otherPort => ?_, (ahead_iff clock gps.normal).mp ahead⟩ busy
        obtain rfl : serdev = other := Option.some.inj (isPort.symm.trans otherPort)
        exact Bool.of_not_eq_true quiet

section

variable (clock : now.Normal) (awaited : gps.Awaited now)
include clock awaited

theorem upGpsDeepSleepReadiness_awaited (msecs : Int) :
    upGpsDeepSleepReadiness gps now msecs =
      if 2147483 < gps.wakeSecs now then pure (true, msecs)
      else (do
        let wakeMsecs ← Checked.int32 (gps.wakeSecs now * 1000)
        let wakeMsecs ← Checked.int32
          (wakeMsecs + (gps.pmWakeAbstime.tvNsec - now.tvNsec).tdiv 1000000)
        pure (decide (0 < wakeMsecs),
          if wakeMsecs % 4294967296 < msecs then wakeMsecs % 4294967296 else msecs)) := by
  have opened := gps.opened awaited.on
  unfold upGpsDeepSleepReadiness
  rw [if_neg (by rw [awaited.on]; exact Bool.noConfusion)]
  split
  case h_1 closed =>
    rw [closed] at opened
    cases opened
  case h_2 serdev isPort =>
    rw [if_neg (by rw [awaited.quiet serdev isPort]; exact Bool.false_ne_true),
      if_neg ((ahead_iff clock gps.normal).mpr awaited.ahead), nsecMsecs_eq gps.normal clock]
    rfl

theorem upGpsDeepSleepReadiness_far (far : 2147483 < gps.wakeSecs now) (msecs : Int) :
    upGpsDeepSleepReadiness gps now msecs = pure (true, msecs) := by
  rw [upGpsDeepSleepReadiness_awaited clock awaited, if_pos far]

theorem upGpsDeepSleepReadiness_near (near : ¬ 2147483 < gps.wakeSecs now) (fits : gps.Fits now)
    (msecs : Int) :
    upGpsDeepSleepReadiness gps now msecs =
      pure (decide (0 < gps.wakeMsecs now),
        if gps.wakeMsecs now % 4294967296 < msecs then gps.wakeMsecs now % 4294967296
        else msecs) := by
  obtain ⟨product, lower, upper⟩ := fits.resolve_left near
  rw [upGpsDeepSleepReadiness_awaited clock awaited, if_neg near,
    int32_eq product (by omega), pure_bind, ← Gps.wakeMsecs,
    int32_eq lower upper, pure_bind]

theorem upGpsDeepSleepReadiness_overflows (overflows : ¬ gps.Fits now) (msecs : Int) :
    (upGpsDeepSleepReadiness gps now msecs).fits = false := by
  have near : ¬ 2147483 < gps.wakeSecs now := fun far => overflows (.inl far)
  rw [upGpsDeepSleepReadiness_awaited clock awaited, if_neg near]
  by_cases product : -2147483648 ≤ gps.wakeSecs now * 1000
  · rw [int32_eq product (by omega), pure_bind, ← Gps.wakeMsecs, bind_fits]
    have outside : (Checked.int32 (gps.wakeMsecs now)).fits = false := by
      rw [Bool.eq_false_iff, Ne, int32_fits]
      exact fun inside => overflows (.inr ⟨product, inside⟩)
    rw [outside, Bool.false_and]
  · rw [bind_fits]
    have outside : (Checked.int32 (gps.wakeSecs now * 1000)).fits = false := by
      rw [Bool.eq_false_iff, Ne, int32_fits]
      exact fun inside => product inside.1
    rw [outside, Bool.false_and]

end

section

variable (clock : now.Normal) (ahead : now.nsecs < gps.pmWakeAbstime.nsecs)
include clock ahead

theorem Gps.wakeSecs_cases :
    gps.wakeSecs now = gps.pmWakeAbstime.tvSec.toNat - now.tvSec.toNat ∨ gps.wakeSecs now < 0 := by
  obtain ⟨nowLower, nowUpper⟩ := clock
  obtain ⟨lower, upper⟩ := gps.normal
  have seconds := gps.pmWakeAbstime.tvSec.isLt
  unfold Timespec.nsecs at ahead
  unfold Gps.wakeSecs
  rw [BitVec.toInt_eq_toNat_cond, BitVec.toNat_sub]
  split <;> omega

theorem Gps.wakeMsecs_ends (positive : 0 < gps.wakeMsecs now) :
    now.nsecs + gps.wakeMsecs now * 1000000 < gps.pmWakeAbstime.nsecs + 1000000 := by
  have rounded := tdiv_cases (gps.pmWakeAbstime.tvNsec - now.tvNsec)
  have seconds := Gps.wakeSecs_cases clock ahead
  obtain ⟨nowLower, nowUpper⟩ := clock
  obtain ⟨lower, upper⟩ := gps.normal
  unfold Gps.wakeMsecs at positive ⊢
  unfold Timespec.nsecs
  omega

theorem Gps.wakeSecs_far (far : 2147483 < gps.wakeSecs now) :
    now.nsecs + 2147483 * 1000000000 < gps.pmWakeAbstime.nsecs := by
  have seconds := Gps.wakeSecs_cases clock ahead
  obtain ⟨nowLower, nowUpper⟩ := clock
  obtain ⟨lower, upper⟩ := gps.normal
  unfold Timespec.nsecs
  omega

end

theorem upGpsDeepSleepReadiness_imminent (clock : now.Normal) (awaited : gps.Awaited now)
    (fits : gps.Fits now) (imminent : gps.Imminent now) (msecs : Int) :
    ∃ millisecs, upGpsDeepSleepReadiness gps now msecs = pure (false, millisecs) := by
  rw [upGpsDeepSleepReadiness_near clock awaited (Int.not_lt.mpr imminent.1) fits,
    decide_eq_false (Int.not_lt.mpr imminent.2)]
  exact ⟨_, rfl⟩

/-- A granted sleep ends less than a millisecond behind the wake-up of the receiver. -/
theorem upGpsDeepSleepReadiness_ready (clock : now.Normal) (awaited : gps.Awaited now)
    (fits : gps.Fits now) (later : ¬ gps.Imminent now) {msecs : Int} (lower : 0 ≤ msecs)
    (upper : msecs ≤ 65535000) :
    ∃ millisecs, upGpsDeepSleepReadiness gps now msecs = pure (true, millisecs) ∧
      (msecs = 0 → millisecs = 0) ∧
      (0 < msecs → 0 < millisecs ∧ millisecs ≤ msecs ∧
        now.nsecs + millisecs * 1000000 < gps.pmWakeAbstime.nsecs + 1000000) := by
  by_cases far : 2147483 < gps.wakeSecs now
  · refine ⟨msecs, upGpsDeepSleepReadiness_far clock awaited far msecs, id, fun positive => ?_⟩
    have ahead := Gps.wakeSecs_far clock awaited.ahead far
    exact ⟨positive, Int.le_refl _, by omega⟩
  · have positive : 0 < gps.wakeMsecs now := by
      by_contra none
      exact later ⟨Int.not_lt.mp far, Int.not_lt.mp none⟩
    have ends := Gps.wakeMsecs_ends clock awaited.ahead positive
    obtain ⟨_, _, small⟩ := fits.resolve_left far
    rw [upGpsDeepSleepReadiness_near clock awaited far fits, decide_eq_true positive,
      Int.emod_eq_of_lt (by omega) (by omega)]
    refine ⟨_, rfl, ?_⟩
    · constructor
      · intro none
        rw [if_neg (by omega), none]
      · intro limited
        split <;> omega

/-! ## The sleep -/

theorem upRtcSetperiodicwakeup_spec (lower : 100 ≤ millisecs) (upper : millisecs ≤ 65535000) :
    ∃ wakeup, upRtcSetperiodicwakeup millisecs = pure wakeup ∧
      wakeup.nsecs ≤ millisecs * 1000000 := by
  unfold upRtcSetperiodicwakeup
  rw [uint32_eq (by decide) (by decide), pure_bind, if_neg (by omega),
    pure_bind]
  split
  case isTrue short =>
    rw [uint32_eq (by omega) (by omega), pure_bind,
      uint32_eq (by omega) (by omega), pure_bind]
    refine ⟨_, rfl, ?_⟩
    have ticks : millisecs * 32768 / 16000 * 16000 ≤ millisecs * 32768 := by omega
    have cast : ((millisecs * 32768 / 16000 : Int) : ℚ) * 16000 ≤ millisecs * 32768 := by
      exact_mod_cast ticks
    unfold Wakeup.nsecs WuckSel.tickNsecs
    push_cast
    linarith
  case isFalse long =>
    dsimp only
    rw [uint32_eq (by omega) (by omega), pure_bind]
    refine ⟨_, rfl, ?_⟩
    have whole : millisecs / 1000 * 1000 ≤ millisecs := by omega
    have cast : ((millisecs / 1000 : Int) : ℚ) * 1000 ≤ millisecs := by exact_mod_cast whole
    unfold Wakeup.nsecs WuckSel.tickNsecs
    push_cast
    linarith

variable {board : Board} {core : TsCore C} {tsExit : Timespec}

/-- `board_deepsleep_with_stopmode_msecs` behind the questions to modem and GPS. -/
def enterStopmode (board : Board) (millisecs : Int) : Checked Sleep :=
  if millisecs ≠ 0 ∧ millisecs < 100 then pure .skipped
  else if board.peripherals.quiet = false then pure .skipped
  else if 0 < millisecs then do
    let wakeup ← upRtcSetperiodicwakeup millisecs
    pure (.untilWakeup wakeup)
  else pure .untilInterrupt

theorem enterStopmode_ends (board : Board) (positive : 0 < millisecs)
    (upper : millisecs ≤ 65535000) :
    ∃ sleep, enterStopmode board millisecs = pure sleep ∧ ∀ (now : Timespec) (limit : Int),
      now.nsecs + millisecs * 1000000 < limit + 1000000 → sleep.EndsBy now limit := by
  unfold enterStopmode
  by_cases short : millisecs ≠ 0 ∧ millisecs < 100
  · rw [if_pos short]
    exact ⟨.skipped, rfl, fun _ _ _ => trivial⟩
  · rw [if_neg short]
    by_cases active : board.peripherals.quiet = false
    · rw [if_pos active]
      exact ⟨.skipped, rfl, fun _ _ _ => trivial⟩
    · obtain ⟨wakeup, programmed, atMost⟩ :=
        @upRtcSetperiodicwakeup_spec millisecs (by omega) upper
      rw [if_neg active, if_pos positive, programmed, pure_bind]
      refine ⟨.untilWakeup wakeup, rfl, ?_⟩
      intro now limit early
      have cast : (now.nsecs : ℚ) + millisecs * 1000000 < limit + 1000000 := by
        exact_mod_cast early
      show (now.nsecs : ℚ) + wakeup.nsecs < limit + 1000000
      linarith

theorem enterStopmode_zero (quiet : board.peripherals.quiet = true) :
    enterStopmode board 0 = pure .untilInterrupt := by
  unfold enterStopmode
  rw [if_neg (fun short => short.1 rfl), if_neg (by rw [quiet]; exact Bool.noConfusion),
    if_neg (Int.lt_irrefl 0)]

theorem enterStopmode_restless (active : board.peripherals.quiet = false) (millisecs : Int) :
    enterStopmode board millisecs = pure .skipped := by
  unfold enterStopmode
  rw [if_pos active, ite_self]

theorem boardDeepsleep_busy (clock : now.Normal)
    (changes : Changed now [board.modem.high, board.modem.low])
    (busy : ¬ board.modem.Ready now) (msecs : Int) :
    boardDeepsleepWithStopmodeMsecs board now msecs = pure .skipped := by
  unfold boardDeepsleepWithStopmodeMsecs
  rw [upModemDeepSleepReadiness_busy clock changes busy, pure_bind]
  rfl

theorem boardDeepsleep_ready (clock : now.Normal)
    (changes : Changed now [board.modem.high, board.modem.low])
    (ready : board.modem.Ready now) (msecs : Int) :
    boardDeepsleepWithStopmodeMsecs board now msecs =
      (do
        let (gpsReady, millisecs) ←
          upGpsDeepSleepReadiness board.gps now (modemLimited board.modem now msecs)
        if gpsReady = false then pure .skipped else enterStopmode board millisecs) := by
  unfold boardDeepsleepWithStopmodeMsecs
  rw [upModemDeepSleepReadiness_ready clock changes ready, pure_bind]
  rfl

def sleepMsecs (timers : Timers C) : Int :=
  if timeoutMsecs timers < 0 then 0
  else if 65535000 < timeoutMsecs timers then 65535000 else timeoutMsecs timers

theorem timeoutMsecs_nil (queue : timers.active = []) : timeoutMsecs timers = -1 := by
  unfold timeoutMsecs
  rw [queue]

theorem timeoutMsecs_cons {first : Timer C} {rest : List (Timer C)}
    (queue : timers.active = first :: rest) (later : timers.now.toMsec < first.dateExpires.toMsec) :
    timeoutMsecs timers = min (first.dateExpires.toMsec - timers.now.toMsec) 2147483647 := by
  unfold timeoutMsecs
  rw [queue]
  exact if_neg (Int.not_le.mpr later)

/-- The sleep that the timers allow ends less than a millisecond behind each of them. -/
theorem sleepMsecs_spec (consistent : Consistent core board tsExit) (rests : core.AtRest) :
    0 ≤ sleepMsecs core.timers ∧ sleepMsecs core.timers ≤ 65535000 ∧
      (sleepMsecs core.timers = 0 ↔ core.timers.active = []) ∧
      timeoutMsecs core.timers ≠ 0 ∧
      ∀ timer ∈ core.timers.active,
        core.timers.now.nsecs + sleepMsecs core.timers * 1000000 <
          timer.dateExpires.nsecs + 1000000 := by
  have ahead := rests.timers
  have sorted := consistent.sorted
  have dates := consistent.dates
  unfold sleepMsecs
  cases queue : core.timers.active with
  | nil =>
    rw [timeoutMsecs_nil queue]
    exact ⟨Int.le_refl 0, by decide, ⟨fun _ => rfl, fun _ => rfl⟩, by decide, nofun⟩
  | cons first rest =>
    rw [queue] at ahead sorted dates
    have later := ahead first rfl
    obtain ⟨nowLower, nowUpper⟩ := toMsec_bounds consistent.clock
    obtain ⟨lower, upper⟩ := toMsec_bounds (dates first mem_cons_self)
    have early : ∀ timer ∈ first :: rest, first.dateExpires.nsecs ≤ timer.dateExpires.nsecs :=
      forall_mem_cons.mpr ⟨Int.le_refl _, (pairwise_cons.mp sorted).1⟩
    have timeout := timeoutMsecs_cons queue later
    refine ⟨by omega, by omega, ⟨fun zero => ?_, fun empty => (cons_ne_nil _ _ empty).elim⟩,
      by omega, fun timer isIn => ?_⟩
    · omega
    · have order := early timer isIn
      omega

theorem modemLimited_spec {msecs : Int} (lower : 0 ≤ msecs) (upper : msecs ≤ 65535000) :
    0 ≤ modemLimited modem now msecs ∧ modemLimited modem now msecs ≤ 65535000 ∧
      (modemLimited modem now msecs = 0 ↔ msecs = 0 ∧ ¬ modem.Limits now) ∧
      (msecs ≠ 0 → modemLimited modem now msecs ≤ msecs) ∧
      (modem.Limits now → modemLimited modem now msecs ≤ 3000) := by
  unfold modemLimited
  by_cases limits : modem.Limits now
  · simp only [limits, if_true, not_true_eq_false, and_false, iff_false]
    split <;> omega
  · simp only [limits, if_false, not_false_eq_true, and_true, ite_self]
    exact ⟨lower, upper, trivial, fun _ => Int.le_refl _, False.elim⟩

theorem timeDeepslept_fits (consistent : Consistent core board tsExit) :
    (timeDeepslept core.timers.now tsExit).fits = true := by
  have later := consistent.later
  have normal := consistent.exit
  have clock := consistent.clock
  have rounded := tdiv_cases (tsExit.tvNsec - core.timers.now.tvNsec)
  obtain ⟨lower, upper⟩ := normal
  obtain ⟨nowLower, nowUpper⟩ := clock
  unfold timeDeepslept
  dsimp only
  split
  case isTrue short =>
    rw [int32_eq (by omega) (by omega), pure_bind,
      nsecMsecs_eq consistent.exit consistent.clock, pure_bind,
      int32_eq (by omega) (by omega)]
    rfl
  case isFalse => rfl

theorem tsCoreDeepsleep_awake (consistent : Consistent core board tsExit)
    (awake : ¬ core.AtRest) : tsCoreDeepsleep core board tsExit = pure (.skipped, 0) := by
  unfold tsCoreDeepsleep
  split
  case isTrue => rfl
  case isFalse hooks =>
    split
    case isTrue => rfl
    case isFalse files =>
      rw [tsCoreTimerGetTimeout_eq consistent.clock consistent.dates, pure_bind]
      split
      case isTrue => rfl
      case isFalse ahead =>
        refine absurd ⟨by simpa using hooks, by simpa using files, ?_⟩ awake
        unfold timeoutMsecs at ahead
        cases queue : core.timers.active with
        | nil => nofun
        | cons first rest =>
          rw [queue] at ahead
          rintro timer ⟨⟩
          by_contra due
          exact ahead (if_pos (Int.not_lt.mp due))

theorem tsCoreDeepsleep_atRest (consistent : Consistent core board tsExit) (rests : core.AtRest) :
    (tsCoreDeepsleep core board tsExit).fits =
        (boardDeepsleepWithStopmodeMsecs board core.timers.now (sleepMsecs core.timers)).fits ∧
      (tsCoreDeepsleep core board tsExit).value.1 =
        (boardDeepsleepWithStopmodeMsecs board core.timers.now (sleepMsecs core.timers)).value := by
  obtain ⟨_, _, _, ahead, _⟩ := sleepMsecs_spec consistent rests
  unfold tsCoreDeepsleep
  rw [if_neg (by simpa using rests.hooks), if_neg (by simpa using rests.files),
    tsCoreTimerGetTimeout_eq consistent.clock consistent.dates, pure_bind, if_neg ahead,
    int32_eq (by decide) (by decide), pure_bind]
  constructor
  · show (_ && (_ && true)) = _
    rw [timeDeepslept_fits consistent, Bool.and_true, Bool.and_true]
    rfl
  · rfl

theorem Punctual.skipped : Punctual core board .skipped :=
  ⟨fun _ _ => trivial, fun _ => trivial, fun _ => trivial⟩

section

variable (consistent : Consistent core board tsExit)
include consistent

theorem Punctual.of_ends {sleep : Sleep}
    (ends : ∀ (now : Timespec) (limit : Int), now.nsecs + millisecs * 1000000 < limit + 1000000 →
      sleep.EndsBy now limit)
    (timers : ∀ timer ∈ core.timers.active, core.timers.now.nsecs + millisecs * 1000000 <
      timer.dateExpires.nsecs + 1000000)
    (gps : board.gps.regulator = true → core.timers.now.nsecs + millisecs * 1000000 <
      board.gps.pmWakeAbstime.nsecs + 1000000)
    (modem : board.modem.Limits core.timers.now → millisecs ≤ 3000) :
    Punctual core board sleep where
  timers timer isIn := ends _ _ (timers timer isIn)
  gps on := ends _ _ (gps on)
  modem restless := by
    have short := modem (restless.limits consistent.clock consistent.changes)
    exact ends _ _ (by omega)

/-- A sleep inside all three limits is punctual. -/
theorem enterStopmode_punctual (positive : 0 < millisecs) (upper : millisecs ≤ 65535000)
    (timers : ∀ timer ∈ core.timers.active, core.timers.now.nsecs + millisecs * 1000000 <
      timer.dateExpires.nsecs + 1000000)
    (gps : board.gps.regulator = true → core.timers.now.nsecs + millisecs * 1000000 <
      board.gps.pmWakeAbstime.nsecs + 1000000)
    (modem : board.modem.Limits core.timers.now → millisecs ≤ 3000) :
    (enterStopmode board millisecs).fits = true ∧
      Punctual core board (enterStopmode board millisecs).value := by
  obtain ⟨sleep, entered, ends⟩ := enterStopmode_ends board positive upper
  rw [entered]
  exact ⟨rfl, .of_ends consistent ends timers gps modem⟩

theorem enterStopmode_unlimited (empty : core.timers.active = [])
    (unlimited : ¬ board.modem.Limits core.timers.now) :
    (enterStopmode board 0).fits = true ∧ Punctual core board (enterStopmode board 0).value ↔
      board.gps.regulator = false ∨ board.peripherals.quiet = false := by
  by_cases active : board.peripherals.quiet = false
  · rw [enterStopmode_restless active]
    exact iff_of_true ⟨rfl, .skipped⟩ (.inr active)
  · rw [enterStopmode_zero (Bool.of_not_eq_false active), or_iff_left active]
    constructor
    · rintro ⟨_, punctual⟩
      exact Bool.of_not_eq_true punctual.gps
    · intro off
      refine ⟨rfl, ?_, fun on => ?_, fun restless => ?_⟩
      · intro timer isIn
        rw [empty] at isIn
        cases isIn
      · rw [off] at on
        cases on
      · exact unlimited (restless.limits consistent.clock consistent.changes)

end

/-- A number of milliseconds that the timers and the modem have limited, or 0 if they have not. -/
structure Limited (core : TsCore C) (board : Board) (msecs : Int) : Prop where
  lower : 0 ≤ msecs
  upper : msecs ≤ 65535000
  timers : ∀ timer ∈ core.timers.active,
    core.timers.now.nsecs + msecs * 1000000 < timer.dateExpires.nsecs + 1000000
  modem : board.modem.Limits core.timers.now → msecs ≤ 3000
  zero : msecs = 0 ↔ core.timers.active = [] ∧ ¬ board.modem.Limits core.timers.now

theorem modemLimited_limited (consistent : Consistent core board tsExit) (rests : core.AtRest) :
    Limited core board (modemLimited board.modem core.timers.now (sleepMsecs core.timers)) := by
  obtain ⟨lower, upper, zero, _, early⟩ := sleepMsecs_spec consistent rests
  obtain ⟨limitedLower, limitedUpper, limitedZero, shorter, limits⟩ :=
    @modemLimited_spec core.timers.now board.modem _ lower upper
  refine ⟨limitedLower, limitedUpper, fun timer isIn => ?_, limits, limitedZero.trans
    (and_congr_left' zero)⟩
  have some : sleepMsecs core.timers ≠ 0 := by
    rw [Ne, zero]
    rintro empty
    rw [empty] at isIn
    cases isIn
  have first := early timer isIn
  have modem := shorter some
  omega

section

variable {msecs : Int} (limited : Limited core board msecs)
  (consistent : Consistent core board tsExit)
include limited consistent

theorem Limited.shorter (positive : 0 < millisecs) (atMost : millisecs ≤ msecs)
    (gps : board.gps.regulator = true → core.timers.now.nsecs + millisecs * 1000000 <
      board.gps.pmWakeAbstime.nsecs + 1000000) :
    (enterStopmode board millisecs).fits = true ∧
      Punctual core board (enterStopmode board millisecs).value := by
  have upper := limited.upper
  refine enterStopmode_punctual consistent positive (by omega) ?_ gps ?_
  · intro timer isIn
    have first := limited.timers timer isIn
    omega
  · intro limits
    exact Int.le_trans atMost (limited.modem limits)

theorem Limited.off (off : board.gps.regulator = false) :
    (enterStopmode board msecs).fits = true ∧
      Punctual core board (enterStopmode board msecs).value := by
  rcases Int.lt_or_eq_of_le limited.lower with positive | none
  · refine limited.shorter consistent positive (Int.le_refl _) fun on => ?_
    rw [off] at on
    cases on
  · obtain ⟨empty, unlimited⟩ := limited.zero.mp none.symm
    rw [← none]
    exact (enterStopmode_unlimited consistent empty unlimited).mpr (.inl off)

theorem Limited.awaited (on : board.gps.regulator = true) (unlimited : msecs = 0 → millisecs = 0)
    (shortened : 0 < msecs → 0 < millisecs ∧ millisecs ≤ msecs ∧
      core.timers.now.nsecs + millisecs * 1000000 < board.gps.pmWakeAbstime.nsecs + 1000000) :
    (enterStopmode board millisecs).fits = true ∧
        Punctual core board (enterStopmode board millisecs).value ↔
      core.timers.active ≠ [] ∨ board.modem.Limits core.timers.now ∨
        board.peripherals.quiet = false := by
  rcases Int.lt_or_eq_of_le limited.lower with positive | none
  · obtain ⟨some, atMost, early⟩ := shortened positive
    refine iff_of_true (limited.shorter consistent some atMost fun _ => early) ?_
    by_contra nobody
    obtain ⟨empty, others⟩ := not_or.mp nobody
    have none := limited.zero.mpr ⟨not_not.mp empty, (not_or.mp others).1⟩
    omega
  · obtain ⟨empty, free⟩ := limited.zero.mp none.symm
    rw [unlimited none.symm, enterStopmode_unlimited consistent empty free,
      or_iff_right (by rw [on]; exact Bool.noConfusion), or_iff_right (not_not.mpr empty),
      or_iff_right free]

end

/-- **Which states oversleep nobody.** All numbers of milliseconds are exact, and the sleep ends by
each timer, by the GPS's wake time and within the modem's three seconds, exactly if the GPS is not
asked for a wake time that overflows, or asked when nothing else limits the sleep. -/
theorem deep_sleep_is_punctual (consistent : Consistent core board tsExit) :
    (tsCoreDeepsleep core board tsExit).fits = true ∧
        Punctual core board (tsCoreDeepsleep core board tsExit).value.1 ↔ Meets core board := by
  by_cases rests : core.AtRest
  case neg =>
    rw [tsCoreDeepsleep_awake consistent rests]
    exact iff_of_true ⟨rfl, .skipped⟩ fun atRest => absurd atRest rests
  obtain ⟨computed, slept⟩ := tsCoreDeepsleep_atRest consistent rests
  rw [computed, slept]
  have clock := consistent.clock
  by_cases ready : board.modem.Ready core.timers.now
  case neg =>
    rw [boardDeepsleep_busy clock consistent.changes ready]
    exact iff_of_true ⟨rfl, .skipped⟩ fun _ modemReady => absurd modemReady ready
  have limited := modemLimited_limited consistent rests
  rw [boardDeepsleep_ready clock consistent.changes ready]
  by_cases on : board.gps.regulator = true
  case neg =>
    have off := Bool.of_not_eq_true on
    rw [upGpsDeepSleepReadiness_off off, pure_bind]
    exact iff_of_true (limited.off consistent off) fun _ _ awaited => absurd awaited.on on
  by_cases awaited : board.gps.Awaited core.timers.now
  case neg =>
    rw [upGpsDeepSleepReadiness_busy clock on awaited]
    exact iff_of_true ⟨rfl, .skipped⟩ fun _ _ waits => absurd waits awaited
  by_cases fits : board.gps.Fits core.timers.now
  case neg =>
    refine iff_of_false ?_ fun meets => fits (meets rests ready awaited).1
    rw [bind_fits, upGpsDeepSleepReadiness_overflows clock awaited fits, Bool.false_and]
    exact fun both => Bool.noConfusion both.1
  by_cases imminent : board.gps.Imminent core.timers.now
  case pos =>
    obtain ⟨millisecs, skipped⟩ := upGpsDeepSleepReadiness_imminent clock awaited fits imminent
      (modemLimited board.modem core.timers.now (sleepMsecs core.timers))
    rw [skipped, pure_bind]
    exact iff_of_true ⟨rfl, .skipped⟩ fun _ _ _ => ⟨fits, .inr (.inr (.inl imminent))⟩
  obtain ⟨millisecs, ahead, unlimited, shortened⟩ :=
    upGpsDeepSleepReadiness_ready clock awaited fits imminent limited.lower limited.upper
  rw [ahead, pure_bind]
  refine (limited.awaited consistent on unlimited shortened).trans
    ⟨fun ends _ _ _ => ?_, fun meets => ?_⟩
  · exact ⟨fits, ends.imp_right (Or.imp_right .inr)⟩
  · exact (meets rests ready awaited).2.imp_right (Or.imp_right (Or.resolve_left · imminent))

def idlePort : UartDev := ⟨⟨0, 0⟩, ⟨0, 0⟩⟩

/-- A board with its modem off, and a GPS with its next message in ten seconds. -/
def waitingBoard : Board where
  modem := ⟨false, none, ⟨0, ⟨0, 0⟩⟩, ⟨0, ⟨0, 0⟩⟩⟩
  gps :=
    { regulator := true
      uart := some idlePort
      pmWakeAbstime := boardGpsPmSetNextMessageTime ⟨1010, 500000000⟩
      opened := fun _ => rfl
      normal := boardGpsPmSetNextMessageTime_normal (by decide) }
  peripherals := ⟨true, true, false, false, false⟩

/-- A main loop at 1000 seconds, with timers for some seconds. -/
def loopWith (seconds : List (BitVec 32)) : TsCore Unit where
  timers :=
    { Timers.initial Unit with
      active := seconds.map fun second => ⟨1, .date, false, ⟨second, 0⟩, 0, (), 0, 0, ⟨0, 0⟩⟩
      now := ⟨1000, 0⟩ }
  deepsleepHooks := [some true]
  revents := [false]

theorem waitingBoard_sleeps :
    (tsCoreDeepsleep (loopWith []) waitingBoard ⟨1000, 0⟩).value.1 = .untilInterrupt := by
  decide +kernel

/-- Without a timer the GPS is overslept: no wake-up is programmed. -/
theorem gps_is_overslept :
    ¬ ((tsCoreDeepsleep (loopWith []) waitingBoard ⟨1000, 0⟩).fits = true ∧
      Punctual (loopWith []) waitingBoard
        (tsCoreDeepsleep (loopWith []) waitingBoard ⟨1000, 0⟩).value.1) := by
  rw [waitingBoard_sleeps]
  exact fun both => both.2.gps rfl

theorem loopWith_consistent :
    Consistent (loopWith [1005, 1020]) waitingBoard ⟨1000, 0⟩ where
  clock := by decide
  sorted := by
    unfold Timers.Sorted
    decide
  dates := by decide
  changes := by decide
  exit := by decide
  later := by decide

/-- With a timer five seconds ahead all are woken in time. -/
theorem deep_sleep_is_punctual_with_timers :
    (tsCoreDeepsleep (loopWith [1005, 1020]) waitingBoard ⟨1000, 0⟩).fits = true ∧
      Punctual (loopWith [1005, 1020]) waitingBoard
        (tsCoreDeepsleep (loopWith [1005, 1020]) waitingBoard ⟨1000, 0⟩).value.1 :=
  (deep_sleep_is_punctual loopWith_consistent).mpr fun _ _ _ =>
    ⟨.inr (by decide), .inl (cons_ne_nil _ _)⟩

end Thingsee.DeepSleep
