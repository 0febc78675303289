import Mathlib.Algebra.Group.Nat.Defs
import Mathlib.Data.List.Induction
import Thingsee.Core.Calendar
import Thingsee.Support.Runs

/-!
Owns the limiter of `apps/ts_engine/engine/execute.c` for text messages: how far apart they are,
how many are sent on a day, and that none is held back without a reason.

The limiter remembers a number and a time in two registers of the clock. The record of all calls
is not in the source.
-/

namespace Thingsee.Profiles

open Thingsee.Core Support List

/-- `struct ts_sms_limit`. -/
structure SmsLimit where
  minIntervalMinutes : BitVec 32
  maxPerDay : BitVec 32

namespace SmsLimit

/-- The registers 0 and 1 of `board_rtc_save_value`. -/
structure Registers where
  sentPerDayCount : BitVec 32
  lastSentTime : BitVec 32

def areDatesOnSameDay (t1 t2 : Tm) : Bool :=
  decide (t1.tmMday = t2.tmMday) && decide (t1.tmMon = t2.tmMon) && decide (t1.tmYear = t2.tmYear)

/-- `min_interval_secs`. It is an `int`, but it is compared with an unsigned number. -/
def minIntervalSecs (limit : SmsLimit) : BitVec 32 := limit.minIntervalMinutes * 60

/-- `can_send_sms`. `max_per_day` is an `int` that is compared with an unsigned number, too. -/
def canSendSms (limit : SmsLimit) (registers : Registers) (currentTime : BitVec 32) :
    Bool × Registers :=
  if minIntervalSecs limit ≤ currentTime - registers.lastSentTime then
    let sentPerDayCount :=
      if areDatesOnSameDay (gmtimeR registers.lastSentTime) (gmtimeR currentTime) then
        registers.sentPerDayCount
      else 0
    if sentPerDayCount < limit.maxPerDay then
      (true, { sentPerDayCount := sentPerDayCount + 1, lastSentTime := currentTime })
    else (false, registers)
  else (false, registers)

/-- A call of `can_send_sms`. -/
structure Call where
  time : BitVec 32
  sent : Bool
deriving DecidableEq

/-- The registers, and all calls so far. -/
structure Limiter where
  registers : Registers
  calls : List Call

def Limiter.initial : Limiter := ⟨⟨0, 0⟩, []⟩

def Limiter.call (limit : SmsLimit) (limiter : Limiter) (currentTime : BitVec 32) : Limiter :=
  let (sent, registers) := canSendSms limit limiter.registers currentTime
  { registers := registers
    calls := limiter.calls ++ [⟨currentTime, sent⟩] }

def sentTimes (calls : List Call) : List Nat :=
  (calls.filter Call.sent).map (fun call => call.time.toNat)

/-- When the last message was sent. Registers that have nothing say that it was in 1970. -/
def lastSent (calls : List Call) : Nat := (sentTimes calls).getLastD 0

def sentOn (day : Nat) (calls : List Call) : Nat :=
  (sentTimes calls).countP (fun time => decide (dayOf time = day))

def Due (limit : SmsLimit) (calls : List Call) (currentTime : BitVec 32) : Prop :=
  lastSent calls + 60 * limit.minIntervalMinutes.toNat ≤ currentTime.toNat ∧
    sentOn (dayOf currentTime.toNat) calls < limit.maxPerDay.toNat

/-- What calls look like that keep the limits, and that send what can be sent. -/
structure Kept (limit : SmsLimit) (calls : List Call) : Prop where
  spaced : (sentTimes calls).Pairwise
    (fun earlier later => earlier + 60 * limit.minIntervalMinutes.toNat ≤ later)
  daily : ∀ day, sentOn day calls ≤ limit.maxPerDay.toNat
  answered : ∀ before call after, calls = before ++ call :: after →
    Due limit before call.time → call.sent = true

/-- The product of the interval with 60 is small enough, or too little time has passed anyway; and
the call is not on the second of the two days in 2102 with one date, after a message on the
first. -/
def Harmless (limit : SmsLimit) (limiter : Limiter) (currentTime : BitVec 32) : Prop :=
  minIntervalSecs limit ≤ currentTime - limiter.registers.lastSentTime →
    60 * limit.minIntervalMinutes.toNat < 2 ^ 32 ∧
      ¬ (dayOf limiter.registers.lastSentTime.toNat = 48212 ∧ dayOf currentTime.toNat = 48213)

instance (limit : SmsLimit) (limiter : Limiter) (currentTime : BitVec 32) :
    Decidable (Harmless limit limiter currentTime) := inferInstanceAs (Decidable (_ → _))

section Calls

variable (calls : List Call) (time : BitVec 32)

@[simp]
theorem sentTimes_append_sent : sentTimes (calls ++ [⟨time, true⟩]) = sentTimes calls ++
    [time.toNat] := by
  simp [sentTimes]

@[simp]
theorem sentTimes_append_held : sentTimes (calls ++ [⟨time, false⟩]) = sentTimes calls := by
  simp [sentTimes]

@[simp]
theorem lastSent_append_sent : lastSent (calls ++ [⟨time, true⟩]) = time.toNat := by
  simp [lastSent]

@[simp]
theorem lastSent_append_held : lastSent (calls ++ [⟨time, false⟩]) = lastSent calls := by
  simp [lastSent]

@[simp]
theorem sentOn_append_sent (day : Nat) : sentOn day (calls ++ [⟨time, true⟩]) =
    sentOn day calls + if dayOf time.toNat = day then 1 else 0 := by
  by_cases same : dayOf time.toNat = day <;> simp [sentOn, same]

@[simp]
theorem sentOn_append_held (day : Nat) : sentOn day
    (calls ++ [⟨time, false⟩]) = sentOn day calls := by
  simp [sentOn]

end Calls

structure Remembers (limiter : Limiter) : Prop where
  last : limiter.registers.lastSentTime.toNat = lastSent limiter.calls
  count : limiter.registers.sentPerDayCount.toNat =
    sentOn (dayOf (lastSent limiter.calls)) limiter.calls
  ordered : ∀ time ∈ sentTimes limiter.calls, time ≤ lastSent limiter.calls

theorem Remembers.initial : Remembers .initial := by
  refine ⟨rfl, rfl, ?_⟩
  intro time sent
  nomatch sent

variable {limit : SmsLimit} {limiter : Limiter} {currentTime : BitVec 32}

theorem Remembers.sentOn_newDay (remembers : Remembers limiter)
    (later : lastSent limiter.calls ≤ currentTime.toNat)
    (newDay : dayOf (lastSent limiter.calls) ≠ dayOf currentTime.toNat) :
    sentOn (dayOf currentTime.toNat) limiter.calls = 0 := by
  unfold sentOn
  rw [countP_eq_zero]
  intro time sent
  have earlier := remembers.ordered time sent
  rw [decide_eq_true_eq]
  unfold dayOf at newDay ⊢
  omega

theorem areDatesOnSameDay_iff (time other : BitVec 32) :
    areDatesOnSameDay (gmtimeR time) (gmtimeR other) = true ↔ SameDate time other := by
  simp [areDatesOnSameDay, SameDate, and_assoc]

theorem Remembers.counted (remembers : Remembers limiter)
    (later : lastSent limiter.calls ≤ currentTime.toNat)
    (apart : ¬ (dayOf limiter.registers.lastSentTime.toNat = 48212 ∧
      dayOf currentTime.toNat = 48213)) :
    BitVec.toNat (if areDatesOnSameDay (gmtimeR limiter.registers.lastSentTime)
      (gmtimeR currentTime) then limiter.registers.sentPerDayCount else 0) =
      sentOn (dayOf currentTime.toNat) limiter.calls := by
  have sameDay : areDatesOnSameDay (gmtimeR limiter.registers.lastSentTime)
      (gmtimeR currentTime) = true ↔
        dayOf (lastSent limiter.calls) = dayOf currentTime.toNat := by
    rw [areDatesOnSameDay_iff, sameDate_iff (by rw [remembers.last]; exact later),
      or_iff_left apart,
      remembers.last]
  by_cases same : dayOf (lastSent limiter.calls) = dayOf currentTime.toNat
  · rw [if_pos (sameDay.mpr same), remembers.count, same]
  · rw [if_neg (fun dates => same (sameDay.mp dates)), remembers.sentOn_newDay later same]
    rfl

theorem Remembers.canSendSms_eq (remembers : Remembers limiter)
    (later : lastSent limiter.calls ≤ currentTime.toNat)
    (harmless : Harmless limit limiter currentTime) :
    (Due limit limiter.calls currentTime ∧
      ∃ count, canSendSms limit limiter.registers currentTime = (true, ⟨count, currentTime⟩) ∧
        count.toNat = sentOn (dayOf currentTime.toNat) limiter.calls + 1) ∨
    (¬ Due limit limiter.calls currentTime ∧
      canSendSms limit limiter.registers currentTime = (false, limiter.registers)) := by
  have elapsed : (currentTime - limiter.registers.lastSentTime).toNat =
      currentTime.toNat - lastSent limiter.calls := by
    rw [← remembers.last] at later ⊢
    exact BitVec.toNat_sub_of_le later
  have bits := currentTime.isLt
  unfold canSendSms Due
  by_cases apart : minIntervalSecs limit ≤ currentTime - limiter.registers.lastSentTime
  · obtain ⟨small, days⟩ := harmless apart
    have counted := remembers.counted later days
    have seconds : (minIntervalSecs limit).toNat = 60 * limit.minIntervalMinutes.toNat := by
      simp only [minIntervalSecs, BitVec.toNat_mul]
      rw [Nat.mul_comm]
      exact Nat.mod_eq_of_lt small
    have passed : lastSent limiter.calls + 60 * limit.minIntervalMinutes.toNat ≤
        currentTime.toNat := by
      rw [BitVec.le_def, seconds, elapsed] at apart
      omega
    rw [if_pos apart]
    simp only [BitVec.lt_def, counted]
    by_cases few : sentOn (dayOf currentTime.toNat) limiter.calls < limit.maxPerDay.toNat
    · have most := limit.maxPerDay.isLt
      rw [if_pos few]
      refine Or.inl ⟨⟨passed, few⟩, _, rfl, ?_⟩
      rw [BitVec.toNat_add, counted, show BitVec.toNat (1 : BitVec 32) = 1 from rfl]
      exact Nat.mod_eq_of_lt (by omega)
    · rw [if_neg few]
      exact Or.inr ⟨fun due => few due.2, rfl⟩
  · rw [if_neg apart]
    refine Or.inr ⟨?_, rfl⟩
    rintro ⟨passed, -⟩
    rw [BitVec.le_def, elapsed] at apart
    have seconds : (minIntervalSecs limit).toNat ≤ 60 * limit.minIntervalMinutes.toNat := by
      simp only [minIntervalSecs, BitVec.toNat_mul]
      rw [Nat.mul_comm 60]
      exact Nat.mod_le _ _
    omega

theorem Remembers.call (remembers : Remembers limiter) (kept : Kept limit limiter.calls)
    (later : lastSent limiter.calls ≤ currentTime.toNat)
    (harmless : Harmless limit limiter currentTime) :
    Remembers (limiter.call limit currentTime) ∧
      Kept limit (limiter.call limit currentTime).calls := by
  have last : ∀ (sent : Bool) (before : List Call) (call : Call) (after : List Call),
      limiter.calls ++ [⟨currentTime, sent⟩] = before ++ call :: after →
        (∃ rest, limiter.calls = before ++ call :: rest) ∨
          (before = limiter.calls ∧ call = ⟨currentTime, sent⟩) := by
    intro sent before call after split
    rcases eq_nil_or_concat after with rfl | ⟨rest, final, rfl⟩
    · have same := append_inj' split rfl
      simp only [List.cons.injEq, and_true] at same
      exact Or.inr ⟨same.1.symm, same.2.symm⟩
    · rw [concat_eq_append, ← cons_append, ← append_assoc] at split
      exact Or.inl ⟨rest, (append_inj' split rfl).1⟩
  rcases remembers.canSendSms_eq later harmless with ⟨due, count, run, counted⟩ | ⟨held, run⟩
  · have next : limiter.call limit currentTime =
        ⟨⟨count, currentTime⟩, limiter.calls ++ [⟨currentTime, true⟩]⟩ := by
      simp only [Limiter.call, run]
    rw [next]
    constructor
    · refine ⟨by simp, by simp [counted], ?_⟩
      intro time sent
      simp only [sentTimes_append_sent, mem_append, mem_singleton] at sent
      simp only [lastSent_append_sent]
      rcases sent with sent | rfl
      · exact Nat.le_trans (remembers.ordered time sent) later
      · exact Nat.le_refl _
    · refine ⟨?_, ?_, ?_⟩
      · simp only [sentTimes_append_sent]
        rw [pairwise_append]
        refine ⟨kept.spaced, pairwise_singleton _ _, ?_⟩
        intro earlier sent final isLast
        rw [mem_singleton] at isLast
        have before := remembers.ordered earlier sent
        have passed := due.1
        omega
      · intro day
        have before := kept.daily day
        have few := due.2
        rw [sentOn_append_sent]
        split
        · rename_i same
          subst same
          omega
        · omega
      · intro before call after split beforeDue
        rcases last true before call after split with ⟨rest, earlier⟩ | ⟨-, rfl⟩
        · exact kept.answered before call rest earlier beforeDue
        · rfl
  · have next : limiter.call limit currentTime =
        ⟨limiter.registers, limiter.calls ++ [⟨currentTime, false⟩]⟩ := by
      simp only [Limiter.call, run]
    rw [next]
    constructor
    · exact ⟨by simp [remembers.last], by simp [remembers.count],
        by simpa using remembers.ordered⟩
    · refine ⟨by simpa using kept.spaced, by simpa using kept.daily, ?_⟩
      intro before call after split beforeDue
      rcases last false before call after split with ⟨rest, earlier⟩ | ⟨rfl, rfl⟩
      · exact kept.answered before call rest earlier beforeDue
      · exact absurd beforeDue held

theorem calls_times (limit : SmsLimit) (times : List (BitVec 32)) :
    (times.foldl (Limiter.call limit) .initial).calls.map Call.time = times := by
  induction times using List.reverseRecOn with
  | nil => rfl
  | append_singleton times time ih =>
    rw [foldl_append, foldl_cons, foldl_nil]
    simp only [Limiter.call, map_append, map_cons, map_nil, ih]

theorem lastSent_le {calls : List Call} {bound : Nat}
    (bounded : ∀ time ∈ calls.map Call.time, time.toNat ≤ bound) : lastSent calls ≤ bound := by
  unfold lastSent
  rw [getLastD_eq_getLast?]
  cases final : (sentTimes calls).getLast? with
  | none => exact Nat.zero_le _
  | some time =>
    have sent := mem_of_getLast? final
    simp only [sentTimes, mem_map, mem_filter] at sent
    obtain ⟨call, ⟨listed, -⟩, rfl⟩ := sent
    exact bounded call.time (mem_map_of_mem listed)

/-- Messages are far enough apart, no more than allowed on a day, and sent when they can be, in
every run of harmless calls at times that do not decrease. -/
theorem calls_kept (limit : SmsLimit) (times : List (BitVec 32))
    (increasing : times.Pairwise (fun earlier later => earlier.toNat ≤ later.toNat))
    (harmless : Guarded (Limiter.call limit) (Harmless limit) .initial times) :
    Kept limit (times.foldl (Limiter.call limit) .initial).calls := by
  suffices both : Remembers (times.foldl (Limiter.call limit) .initial) ∧
      Kept limit (times.foldl (Limiter.call limit) .initial).calls from both.2
  induction times using List.reverseRecOn with
  | nil =>
    refine ⟨.initial, ⟨List.Pairwise.nil, fun day => Nat.zero_le _, ?_⟩⟩
    intro before call after split
    simp [Limiter.initial] at split
  | append_singleton times time ih =>
    obtain ⟨earlier, final⟩ := harmless.append
    rw [pairwise_append] at increasing
    obtain ⟨remembers, kept⟩ := ih increasing.1 earlier
    rw [foldl_append, foldl_cons, foldl_nil]
    apply remembers.call kept _ final.1
    apply lastSent_le
    rw [calls_times]
    intro before listed
    exact increasing.2.2 before listed time (mem_singleton_self time)

/-- With two messages on a day, the third one waits for the next day. -/
theorem calls_kept_threeMessages :
    ([100, 130, 160, 300, 86400].foldl (Limiter.call ⟨1, 2⟩) .initial).calls.map Call.sent =
        [true, false, true, false, true] ∧
      Kept ⟨1, 2⟩ ([100, 130, 160, 300, 86400].foldl (Limiter.call ⟨1, 2⟩) .initial).calls :=
  ⟨by decide, calls_kept ⟨1, 2⟩ [100, 130, 160, 300, 86400] (by decide) (by decide)⟩

/-- With 71582789 minutes, whose seconds are 44 modulo 2^32, two messages are 44 seconds apart. -/
theorem calls_not_spaced :
    ([1500000000, 1500000044].foldl (Limiter.call ⟨71582789, 24⟩) .initial).calls =
        [⟨1500000000, true⟩, ⟨1500000044, true⟩] ∧
      ¬ Kept ⟨71582789, 24⟩
        ([1500000000, 1500000044].foldl (Limiter.call ⟨71582789, 24⟩) .initial).calls := by
  have run : ([1500000000, 1500000044].foldl (Limiter.call ⟨71582789, 24⟩) .initial).calls =
      [⟨1500000000, true⟩, ⟨1500000044, true⟩] := by
    decide +kernel
  refine ⟨run, fun kept => ?_⟩
  have spaced := kept.spaced
  rw [run] at spaced
  revert spaced
  decide

end SmsLimit

end Thingsee.Profiles
