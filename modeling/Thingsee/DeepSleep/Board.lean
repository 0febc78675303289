import Thingsee.Core.Timers
import Thingsee.Support.Checked

/-!
Owns the board's part of deep sleep (up_deepsleep.c, up_modem.c, up_gps.c) and the RTC's wake-up
timer (stm32_rtcc.c): how the modem and the GPS shorten a sleep, and what is programmed for it.

The clock stands still during a call. Numbers of milliseconds are computed in the source's types.
The DMA buffers of the serial ports have been polled.
-/

namespace Thingsee.DeepSleep

open Thingsee.Core Support

/-- `struct uart_buffer_s`. -/
structure UartBuffer where
  head : BitVec 16
  tail : BitVec 16

/-- `uart_dev_t`. -/
structure UartDev where
  xmit : UartBuffer
  recv : UartBuffer

def UartDev.busy (serdev : UartDev) : Bool :=
  serdev.xmit.head != serdev.xmit.tail || serdev.recv.head != serdev.recv.tail

def nsecMsecs (later earlier : Timespec) : Checked Int := do
  let nsec ← Checked.int32 (later.tvNsec - earlier.tvNsec)
  pure (nsec.tdiv 1000000)

/-- An element of `g_modem_activity`. -/
structure Activity where
  count : BitVec 32
  lastModTime : Timespec

/-- The modem. A serial port is there from its first opening on. -/
structure Modem where
  powerSwitch : Bool
  uart : Option UartDev
  high : Activity
  low : Activity

/-- The loop of `modem_msecs_from_recent_activity`. -/
def modemMsecsLoop (now : Timespec) : List Activity → Int → Checked Int
  | [], minMsecs => pure minMsecs
  | activity :: rest, minMsecs =>
    if 0 < activity.count then modemMsecsLoop now rest minMsecs
    else do
      let diffSecs ← Checked.uint32 (now.tvSec.toNat - activity.lastModTime.tvSec.toNat)
      let diffMsecs ← Checked.int64 (diffSecs * 1000)
      let nsecs ← nsecMsecs now activity.lastModTime
      let diffMsecs ← Checked.int64 (diffMsecs + nsecs)
      if diffMsecs < minMsecs then
        if diffMsecs ≤ 0 then pure diffMsecs else modemMsecsLoop now rest diffMsecs
      else modemMsecsLoop now rest minMsecs

/-- `modem_msecs_from_recent_activity`. The number it starts from is `INT64_MAX`. -/
def modemMsecsFromRecentActivity (modem : Modem) (now : Timespec) : Checked Int :=
  modemMsecsLoop now [modem.high, modem.low] 9223372036854775807

/-- `up_modem_deep_sleep_readiness` from `check_low_activity` on. -/
def checkLowActivity (modem : Modem) (now : Timespec) (recentActivityMsecs deepsleepMsecs : Int) :
    Checked (Bool × Int) :=
  if deepsleepMsecs < 3000 ∧ deepsleepMsecs ≠ 0 then pure (true, deepsleepMsecs)
  else if 0 < modem.low.count then pure (true, 3000)
  else do
    let recentActivityMsecs ←
      (if recentActivityMsecs = -1 then modemMsecsFromRecentActivity modem now
      else pure recentActivityMsecs)
    pure (true, if recentActivityMsecs ≤ 500 then 3000 else deepsleepMsecs)

def upModemDeepSleepReadiness (modem : Modem) (now : Timespec) (deepsleepMsecs : Int) :
    Checked (Bool × Int) :=
  if modem.powerSwitch = false then checkLowActivity modem now (-1) deepsleepMsecs
  else
    match modem.uart with
    | none => checkLowActivity modem now (-1) deepsleepMsecs
    | some serdev =>
      if serdev.busy then pure (false, deepsleepMsecs)
      else if 0 < modem.high.count then pure (false, deepsleepMsecs)
      else do
        let recentActivityMsecs ← modemMsecsFromRecentActivity modem now
        if recentActivityMsecs ≤ 100 then pure (false, deepsleepMsecs)
        else checkLowActivity modem now recentActivityMsecs deepsleepMsecs

/-- `board_gps_pm_set_next_message_time`, with its loop done at once. -/
def boardGpsPmSetNextMessageTime (msgAbstime : Timespec) : Timespec :=
  let nsec := msgAbstime.tvNsec - 500 * 1000000
  if nsec < 0 then
    ⟨msgAbstime.tvSec + BitVec.ofInt 32 (nsec / (1000 * 1000 * 1000)),
      nsec % (1000 * 1000 * 1000)⟩
  else ⟨msgAbstime.tvSec, nsec⟩

theorem boardGpsPmSetNextMessageTime_normal {msgAbstime : Timespec} (normal : msgAbstime.Normal) :
    (boardGpsPmSetNextMessageTime msgAbstime).Normal := by
  obtain ⟨lower, upper⟩ := normal
  unfold boardGpsPmSetNextMessageTime
  dsimp only
  split
  case isTrue =>
    exact ⟨Int.emod_nonneg _ (by decide), Int.emod_lt_of_pos _ (by decide)⟩
  case isFalse positive =>
    constructor <;> dsimp only <;> omega

/-- The GPS. Its serial port is opened before the regulator is switched on, and never closed. -/
structure Gps where
  regulator : Bool
  uart : Option UartDev
  pmWakeAbstime : Timespec
  opened : regulator = true → uart.isSome = true
  normal : pmWakeAbstime.Normal

/-- `up_gps_deep_sleep_readiness`. `wake_msecs` is signed, and compared as unsigned. -/
def upGpsDeepSleepReadiness (gps : Gps) (now : Timespec) (deepsleepMsecs : Int) :
    Checked (Bool × Int) :=
  if gps.regulator = false then pure (true, deepsleepMsecs)
  else
    match gps.uart with
    | none => pure (true, deepsleepMsecs)
    | some serdev =>
      if serdev.busy then pure (false, deepsleepMsecs)
      else if gps.pmWakeAbstime.tvSec < now.tvSec ∨
          (gps.pmWakeAbstime.tvSec = now.tvSec ∧ gps.pmWakeAbstime.tvNsec ≤ now.tvNsec) then
        pure (false, deepsleepMsecs)
      else
        let wakeSecs := (gps.pmWakeAbstime.tvSec - now.tvSec).toInt
        if 2147483 < wakeSecs then pure (true, deepsleepMsecs)
        else do
          let wakeMsecs ← Checked.int32 (wakeSecs * 1000)
          let nsecs ← nsecMsecs gps.pmWakeAbstime now
          let wakeMsecs ← Checked.int32 (wakeMsecs + nsecs)
          let unsignedMsecs := wakeMsecs % 4294967296
          pure (decide (0 < wakeMsecs),
            if unsignedMsecs < deepsleepMsecs then unsignedMsecs else deepsleepMsecs)

inductive WuckSel where
  | rtcDiv16
  | ckSpre
deriving DecidableEq

structure Wakeup where
  wucksel : WuckSel
  wutr : Int
deriving DecidableEq

/-- The nanoseconds of a clock's tick. `STM32_LSE_FREQUENCY` is 32768. -/
def WuckSel.tickNsecs : WuckSel → ℚ
  | .rtcDiv16 => 16 * 1000000000 / 32768
  | .ckSpre => 1000000000

/-- The timer runs out after one tick more than its reload value. -/
def Wakeup.nsecs (wakeup : Wakeup) : ℚ := (wakeup.wutr + 1) * wakeup.wucksel.tickNsecs

/-- `up_rtc_setperiodicwakeup` for a positive number. -/
def upRtcSetperiodicwakeup (millisecs : Int) : Checked Wakeup := do
  let rtcDiv16MaxMsecs ← Checked.uint32 (16 * 1000 * 0xffff)
  let rtcDiv16MaxMsecs := rtcDiv16MaxMsecs / 32768
  let millisecs ←
    (if 0xffff < millisecs / 1000 then Checked.uint32 (0xffff * 1000) else pure millisecs)
  let secs := millisecs / 1000
  if millisecs ≤ rtcDiv16MaxMsecs then do
    let ticks ← Checked.uint32 (millisecs * 32768)
    let wutr ← Checked.uint32 (ticks / (16 * 1000) - 1)
    pure ⟨.rtcDiv16, wutr⟩
  else do
    let wutr ← Checked.uint32 (secs - 1)
    pure ⟨.ckSpre, wutr⟩

/-- What stands in the way of reconfiguring the pins for stop mode. -/
structure Peripherals where
  mmcsdAllowed : Bool
  sdcardDeselected : Bool
  wlan : Bool
  bluetooth : Bool
  display : Bool

def Peripherals.quiet (peripherals : Peripherals) : Bool :=
  peripherals.mmcsdAllowed && peripherals.sdcardDeselected && !peripherals.wlan &&
    !peripherals.bluetooth && !peripherals.display

structure Board where
  modem : Modem
  gps : Gps
  peripherals : Peripherals

/-- How stop mode is entered, if it is. -/
inductive Sleep where
  | skipped
  | untilInterrupt
  | untilWakeup (wakeup : Wakeup)
deriving DecidableEq

/-- `board_deepsleep_with_stopmode_msecs`. `DEEP_SLEEP_MIN_MSECS` is 100. -/
def boardDeepsleepWithStopmodeMsecs (board : Board) (now : Timespec) (msecs : Int) :
    Checked Sleep := do
  let (modemReady, msecs) ← upModemDeepSleepReadiness board.modem now msecs
  if modemReady = false then pure .skipped
  else do
    let (gpsReady, millisecs) ← upGpsDeepSleepReadiness board.gps now msecs
    if gpsReady = false then pure .skipped
    else if millisecs ≠ 0 ∧ millisecs < 100 then pure .skipped
    else if board.peripherals.quiet = false then pure .skipped
    else if 0 < millisecs then do
      let wakeup ← upRtcSetperiodicwakeup millisecs
      pure (.untilWakeup wakeup)
    else pure .untilInterrupt

end Thingsee.DeepSleep
