import Mathlib.Logic.Function.Iterate
import Thingsee.Core.Timers

/-!
Owns the timers of `apps/system/ubmodem/ubmodem_poll.c`: how they are set and removed, the
timeout that `ubmodem_pollfds_setup` gives to `poll`, and the loop of `modem_poll_event` that
runs the timers that have expired.

What a callback does to the modem is a parameter, so that it may set and remove timers. The
file descriptors of the two functions come after the timers and are not here.
-/

namespace Thingsee.Modem.PollTimers

open Thingsee.Core List

/-- `struct modem_priv_timer_s`. -/
structure Timer (C : Type) where
  id : BitVec 16
  callback : C
  alarm : Timespec

/-- The timers of `struct ubmodem_s`, with the rest of it. -/
structure Ubmodem (C R : Type) where
  timers : List (Timer C)
  timerIdCnt : BitVec 16
  rest : R

variable {C R : Type}

/-- The loop of `___ubmodem_set_timer`. -/
def takeSeconds (timeoutMsec : Nat) (alarm : Timespec) : Nat × Timespec :=
  if 1000 ≤ timeoutMsec then
    takeSeconds (timeoutMsec - 1000) { alarm with tvSec := alarm.tvSec + 1 }
  else (timeoutMsec, alarm)
termination_by timeoutMsec
decreasing_by omega

/-- The alarm of a timer that is set when the clock shows `clock`. `tv_nsec` is not brought
below a second. -/
def alarmAfter (clock : Timespec) (timeoutMsec : BitVec 32) : Timespec :=
  let taken := takeSeconds timeoutMsec.toNat clock
  { taken.2 with tvNsec := taken.2.tvNsec + taken.1 * (1000 * 1000) }

/-- The loop of `modem_get_unused_timer_id`, with a bound on its rounds. -/
def getUnusedTimerId (timers : List (Timer C)) : Nat → BitVec 16 → Option (BitVec 16)
  | 0, _ => none
  | rounds + 1, timerIdCnt =>
    let candidate := timerIdCnt + 1
    if timers.any (fun timer => timer.id == candidate) then
      getUnusedTimerId timers rounds candidate
    else some candidate

/-- `___ubmodem_set_timer`, where memory has been found for the timer. There is no result if
all identifiers are in use, which is an assertion of the source. -/
def setTimer (clock : Timespec) (timeoutMsec : BitVec 32) (callback : C)
    (modem : Ubmodem C R) : Option (Ubmodem C R × BitVec 16) :=
  (getUnusedTimerId modem.timers (2 ^ 16) modem.timerIdCnt).map (fun id =>
    ({ modem with
        timers := modem.timers ++ [⟨id, callback, alarmAfter clock timeoutMsec⟩]
        timerIdCnt := id }, id))

def removeTimer (id : BitVec 16) (modem : Ubmodem C R) : Ubmodem C R :=
  { modem with timers := modem.timers.eraseP (fun timer => timer.id == id) }

/-- The loop of `modem_poll_event`: the timer it has come to, and the timers whose callbacks
it has called, which are not in the source. -/
structure Walk (C R : Type) where
  modem : Ubmodem C R
  position : Nat
  fired : List (Timer C)

/-- What the callback of a timer does. -/
abbrev Call (C R : Type) := C → BitVec 16 → Ubmodem C R → Ubmodem C R

/-- The modems that come about when timers are set by `___ubmodem_set_timer`, and are removed
or run. -/
inductive Pending : Ubmodem C R → Prop where
  | none (timerIdCnt : BitVec 16) (rest : R) : Pending ⟨[], timerIdCnt, rest⟩
  | set {modem after : Ubmodem C R} {clock : Timespec} {timeoutMsec : BitVec 32} {callback : C}
      {id : BitVec 16} : Pending modem → clock.Normal →
      setTimer clock timeoutMsec callback modem = some (after, id) → Pending after
  | removed {modem : Ubmodem C R} (id : BitVec 16) : Pending modem →
      Pending (removeTimer id modem)
  | expired {modem : Ubmodem C R} (position : Nat) : Pending modem →
      Pending { modem with timers := modem.timers.eraseIdx position }
  | other {modem : Ubmodem C R} (rest : R) : Pending modem → Pending { modem with rest := rest }

variable {call : Call C R} {now : Timespec} {modem : Ubmodem C R}

variable {timers : List (Timer C)} (ntimers : Nat) (shortestMsec : Int)

theorem getUnusedTimerId_unused {rounds : Nat} {timerIdCnt id : BitVec 16}
    (found : getUnusedTimerId timers rounds timerIdCnt = some id) :
    id ∉ timers.map Timer.id := by
  induction rounds generalizing timerIdCnt with
  | zero => cases found
  | succ rounds ih =>
    rw [getUnusedTimerId] at found
    split at found
    · exact ih found
    · next unused =>
      cases found
      simpa using unused

theorem setTimer_timers {after : Ubmodem C R} {clock : Timespec} {timeoutMsec : BitVec 32}
    {callback : C} {id : BitVec 16}
    (set : setTimer clock timeoutMsec callback modem = some (after, id)) :
    id ∉ modem.timers.map Timer.id ∧
      after.timers = modem.timers ++ [⟨id, callback, alarmAfter clock timeoutMsec⟩] := by
  obtain ⟨unused, found, same⟩ := Option.map_eq_some_iff.mp set
  cases same
  exact ⟨getUnusedTimerId_unused found, rfl⟩

/-- **A timer can be told by its identifier: no two pending timers have the same one, and the one
that `___ubmodem_set_timer` returns removes the timer that was set, and no other.** -/
theorem timers_have_own_ids (pending : Pending modem) :
    (modem.timers.map Timer.id).Nodup ∧
      ∀ clock timeoutMsec callback after id,
        setTimer clock timeoutMsec callback modem = some (after, id) →
          (removeTimer id after).timers = modem.timers := by
  constructor
  · induction pending with
    | none => exact nodup_nil
    | set _ _ set ih =>
      obtain ⟨unused, timers⟩ := setTimer_timers set
      rw [timers, map_append]
      exact nodup_append.mpr ⟨ih, by simp, by simpa using unused⟩
    | removed id _ ih => exact ih.sublist (eraseP_sublist.map _)
    | expired position _ ih => exact ih.sublist ((eraseIdx_sublist _ _).map _)
    | other rest _ ih => exact ih
  · intro clock timeoutMsec callback after id set
    obtain ⟨unused, timers⟩ := setTimer_timers set
    have others : ∀ timer ∈ modem.timers, ¬ (timer.id == id) = true := by
      intro timer member same
      exact unused (mem_map.mpr ⟨timer, member, by simpa using same⟩)
    rw [removeTimer, timers, eraseP_append_right _ others]
    simp

/-- A modem with two timers, which were set at different times. -/
def twoTimers : Ubmodem Unit Unit where
  timers := [⟨1, (), alarmAfter ⟨10, 900000000⟩ 2500⟩, ⟨2, (), alarmAfter ⟨11, 5⟩ 60000⟩]
  timerIdCnt := 2
  rest := ()

theorem twoTimers_pending : Pending twoTimers :=
  .set (.set (.none 0 ()) (by decide)
    (show setTimer ⟨10, 900000000⟩ 2500 () _ = some (_, _) from rfl))
    (by decide) (show setTimer ⟨11, 5⟩ 60000 () _ = some (_, _) from rfl)

theorem timers_have_own_ids_two : (twoTimers.timers.map Timer.id).Nodup :=
  (timers_have_own_ids twoTimers_pending).1

end Thingsee.Modem.PollTimers
