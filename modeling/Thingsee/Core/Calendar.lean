import Mathlib.Data.Nat.Notation

/-!
Owns `gmtime_r` and `mktime` of `nuttx/libc/time`, in the variants that handle dates since 1970:
which days get the same date, and which times `mktime` gets back.

Every four years are taken for 1461 days first. That is one too many where 2100 is among them,
so that the last day of 2101 is the first of 2102, and so is the day after it.
-/

namespace Thingsee.Core

def clockIsleapyear (year : Nat) : Bool :=
  if year % 400 ≠ 0 then if year % 100 ≠ 0 then decide (year % 4 = 0) else false else true

def clockDaysbeforemonth (month : Nat) (leapyear : Bool) : Nat :=
  [0, 31, 59, 90, 120, 151, 181, 212, 243, 273, 304, 334, 365].getD month 0 +
    if 2 ≤ month ∧ leapyear then 1 else 0

def yearLength (value : Nat) : Nat := if clockIsleapyear (value + 1970) then 366 else 365

/-- The first loop of `clock_utc2calendar`: the year and the days into it. -/
def yearLoop : Nat → Nat → Nat → Nat × Nat
  | 0, value, days => (value, days)
  | fuel + 1, value, days =>
    if yearLength value ≤ days then yearLoop fuel (value + 1) (days - yearLength value)
    else (value, days)

/-- The second loop of `clock_utc2calendar`. -/
def monthLoop (leapyear : Bool) (days : Nat) : Nat → Nat → Nat → Nat
  | 0, min, _ => min
  | fuel + 1, min, max =>
    let value := (min + max) / 2
    if days < clockDaysbeforemonth (value + 1) leapyear then
      if days < clockDaysbeforemonth value leapyear then
        if min < value - 1 then monthLoop leapyear days fuel min (value - 1) else min
      else value
    else if value + 1 < max then monthLoop leapyear days fuel (value + 1) max
    else value + 1

/-- The end of `clock_utc2calendar`: the year, the month and the day. -/
def calendarDate (value days : Nat) : Nat × Nat × Nat :=
  let leapyear := clockIsleapyear (value + 1970)
  let month := monthLoop leapyear days 4 0 11
  (1970 + value, month + 1, days - clockDaysbeforemonth month leapyear + 1)

def clockUtc2calendar (days : Nat) : Nat × Nat × Nat :=
  let value := days / (4 * 365 + 1)
  let (value, days) := yearLoop 5 (value * 4) (days - value * (4 * 365 + 1))
  calendarDate value days

/-- `struct tm`. -/
structure Tm where
  tmYear : Int
  tmMon : Int
  tmMday : Int
  tmHour : Int
  tmMin : Int
  tmSec : Int

def gmtimeR (timer : BitVec 32) : Tm :=
  let jdn := timer.toNat / (24 * (60 * 60))
  let epoch := timer.toNat % (24 * (60 * 60))
  let (year, month, day) := clockUtc2calendar jdn
  { tmYear := year - 1900
    tmMon := month - 1
    tmMday := day
    tmHour := epoch / (60 * 60)
    tmMin := epoch % (60 * 60) / 60
    tmSec := epoch % 60 }

def dayOf (seconds : Nat) : Nat := seconds / 86400

def blockDays (block : Nat) : Nat → Nat
  | 0 => 0
  | years + 1 => blockDays block years + yearLength (4 * block + years)

theorem yearLoop_spec (block : Nat) {fuel years days : Nat} (short : years + fuel = 5)
    (bounded : blockDays block years + days < blockDays block 5) :
    ∃ reached rest, yearLoop fuel (4 * block + years) days = (4 * block + reached, rest) ∧
      blockDays block reached + rest = blockDays block years + days ∧
      rest < yearLength (4 * block + reached) := by
  induction fuel generalizing years days with
  | zero =>
    obtain rfl : years = 5 := by omega
    omega
  | succ fuel ih =>
    rw [yearLoop]
    by_cases whole : yearLength (4 * block + years) ≤ days
    · rw [if_pos whole]
      have step : blockDays block (years + 1) =
          blockDays block years + yearLength (4 * block + years) := rfl
      obtain ⟨reached, rest, run, sum, inside⟩ :=
        ih (show years + 1 + fuel = 5 by omega)
          (show _ + (days - yearLength (4 * block + years)) < blockDays block 5 by omega)
      exact ⟨reached, rest, run, by omega, inside⟩
    · rw [if_neg whole]
      exact ⟨years, days, rfl, rfl, by omega⟩

theorem yearLength_bounds (value : Nat) : 365 ≤ yearLength value ∧ yearLength value ≤ 366 := by
  unfold yearLength
  split <;> omega

theorem blockDays_four {block : Nat} (until2106 : block < 35) :
    blockDays block 4 = if block = 32 then 1460 else 1461 := by
  decide +revert

theorem clockUtc2calendar_spec (day : Nat) :
    ∃ years rest, clockUtc2calendar day = calendarDate (4 * (day / 1461) + years) rest ∧
      blockDays (day / 1461) years + rest = day % 1461 ∧
      rest < yearLength (4 * (day / 1461) + years) ∧ years ≤ 4 := by
  have lengths : ∀ years, 365 * years ≤ blockDays (day / 1461) years := by
    intro years
    induction years with
    | zero => exact Nat.zero_le _
    | succ years ih =>
      have length := (yearLength_bounds (4 * (day / 1461) + years)).1
      have step : blockDays (day / 1461) (years + 1) =
          blockDays (day / 1461) years + yearLength (4 * (day / 1461) + years) := rfl
      omega
  have enough := lengths 5
  have start : blockDays (day / 1461) 0 = 0 := rfl
  obtain ⟨years, rest, run, sum, inside⟩ :=
    yearLoop_spec (day / 1461) (show 0 + 5 = 5 from rfl)
      (show _ + day % 1461 < blockDays (day / 1461) 5 by omega)
  have few := lengths years
  refine ⟨years, rest, ?_, by omega, inside, by omega⟩
  have value : day / 1461 * 4 = 4 * (day / 1461) + 0 := by omega
  have days : day - day / 1461 * 1461 = day % 1461 := by omega
  simp only [clockUtc2calendar, Nat.reduceMul, Nat.reduceAdd, value, days, run]

theorem monthLoop_spec {leapyear : Bool} {days : Nat}
    (inside : days < if leapyear then 366 else 365) :
    monthLoop leapyear days 4 0 11 ≤ 11 ∧
      clockDaysbeforemonth (monthLoop leapyear days 4 0 11) leapyear ≤ days ∧
      days < clockDaysbeforemonth (monthLoop leapyear days 4 0 11 + 1) leapyear := by
  have all : ∀ leapyear : Bool, ∀ days < 366, days < (if leapyear then 366 else 365) →
      monthLoop leapyear days 4 0 11 ≤ 11 ∧
        clockDaysbeforemonth (monthLoop leapyear days 4 0 11) leapyear ≤ days ∧
        days < clockDaysbeforemonth (monthLoop leapyear days 4 0 11 + 1) leapyear := by
    decide +kernel
  apply all leapyear days
  · split at inside <;> omega
  · exact inside

theorem calendarDate_injective {value other days otherDays : Nat} (inside : days < yearLength value)
    (otherInside : otherDays < yearLength other) :
    calendarDate value days = calendarDate other otherDays ↔ value = other ∧ days = otherDays := by
  constructor
  · intro same
    simp only [calendarDate, Prod.mk.injEq] at same
    obtain ⟨year, month, day⟩ := same
    obtain rfl : value = other := by omega
    have begun := (monthLoop_spec inside).2.1
    have otherBegun := (monthLoop_spec otherInside).2.1
    rw [Nat.add_right_cancel month] at day begun
    exact ⟨rfl, by omega⟩
  · rintro ⟨rfl, rfl⟩
    rfl

theorem clockUtc2calendar_injective {first second : Nat} (ordered : first ≤ second)
    (until2106 : second < 51135) :
    clockUtc2calendar first = clockUtc2calendar second ↔
      first = second ∨ (first = 48212 ∧ second = 48213) := by
  constructor
  · intro same
    obtain ⟨years, rest, date, sum, inside, few⟩ := clockUtc2calendar_spec first
    obtain ⟨otherYears, otherRest, otherDate, otherSum, otherInside, otherFew⟩ :=
      clockUtc2calendar_spec second
    rw [date, otherDate, calendarDate_injective inside otherInside] at same
    obtain ⟨value, rfl⟩ := same
    by_cases block : first / 1461 = second / 1461
    · obtain rfl : years = otherYears := by omega
      rw [block] at sum
      exact Or.inl (by omega)
    · -- the year is the fifth of one block and the first of the next
      obtain rfl : years = 4 := by omega
      obtain rfl : otherYears = 0 := by omega
      have whole := blockDays_four (show first / 1461 < 35 by omega)
      have none : blockDays (second / 1461) 0 = 0 := rfl
      split at whole <;> omega
  · rintro (rfl | ⟨rfl, rfl⟩)
    · rfl
    · decide

/-- `gmtime_r` gives two times the same date. -/
def SameDate (time other : BitVec 32) : Prop :=
  (gmtimeR time).tmMday = (gmtimeR other).tmMday ∧ (gmtimeR time).tmMon = (gmtimeR other).tmMon ∧
    (gmtimeR time).tmYear = (gmtimeR other).tmYear

theorem sameDate_iff {time other : BitVec 32} (ordered : time.toNat ≤ other.toNat) :
    SameDate time other ↔ dayOf time.toNat = dayOf other.toNat ∨
      (dayOf time.toNat = 48212 ∧ dayOf other.toNat = 48213) := by
  have bits := other.isLt
  unfold dayOf
  rw [← clockUtc2calendar_injective (by omega) (by omega)]
  simp only [SameDate, gmtimeR, Nat.reduceMul]
  generalize clockUtc2calendar (time.toNat / 86400) = date
  generalize clockUtc2calendar (other.toNat / 86400) = otherDate
  obtain ⟨year, month, day⟩ := date
  obtain ⟨otherYear, otherMonth, otherDay⟩ := otherDate
  simp only [Prod.mk.injEq]
  omega

/-- `clock_calendar2utc` of `lib_calendar2utc.c`, in the variant for dates since 1970. -/
def clockCalendar2utc (year : Int) (month : Nat) (day : Int) : Int :=
  (year - 1970) * 365 + (year - 1969) / 4 +
    clockDaysbeforemonth month (clockIsleapyear year.toNat) + (day - 1)

/-- `mktime` of `lib_mktime.c`. -/
def mktime (tp : Tm) : BitVec 32 :=
  let jdn := clockCalendar2utc (tp.tmYear + 1900) tp.tmMon.toNat tp.tmMday
  BitVec.ofInt 32 (((jdn * 24 + tp.tmHour) * 60 + tp.tmMin) * 60 + tp.tmSec)

theorem blockDays_eq : ∀ block < 35, ∀ years ≤ 5,
    blockDays block years = 365 * years + if 3 ≤ years ∧ block ≠ 32 then 1 else 0 := by
  decide

/-- From 2101 on `mktime` counts one leap day too many, and from the second day of 2102 on the
date is a day behind. -/
theorem clockCalendar2utc_clockUtc2calendar {day : Nat} (until2106 : day < 51135) :
    let (year, month, mday) := clockUtc2calendar day
    1 ≤ month ∧ clockCalendar2utc year (month - 1) mday =
      if 47847 ≤ day ∧ day ≤ 48212 then day + 1 else day := by
  obtain ⟨years, rest, date, sum, inside, few⟩ := clockUtc2calendar_spec day
  have before := blockDays_eq (day / 1461) (by omega) years (by omega)
  have next := blockDays_eq (day / 1461) (by omega) (years + 1) (by omega)
  rw [blockDays] at next
  have begun := (monthLoop_spec inside).2.1
  rw [date]
  simp only [calendarDate, clockCalendar2utc, Nat.add_sub_cancel]
  have sameYear : ((1970 + (4 * (day / 1461) + years) : Nat) : Int).toNat =
      4 * (day / 1461) + years + 1970 := by omega
  rw [sameYear]
  refine ⟨by omega, ?_⟩
  split at before <;> split at next <;> split <;> omega

/-- **`mktime` undoes `gmtime_r` but for the days from the first of January 2101 to the first of
January 2102, which become the days behind them.** -/
theorem mktime_gmtimeR (timer : BitVec 32) :
    mktime (gmtimeR timer) =
      if 47847 ≤ dayOf timer.toNat ∧ dayOf timer.toNat ≤ 48212 then timer + 86400 else timer := by
  have bits := timer.isLt
  have isDay : timer.toNat / (24 * (60 * 60)) = dayOf timer.toNat := rfl
  have inDay : dayOf timer.toNat * 86400 + timer.toNat % 86400 = timer.toNat :=
    Nat.div_add_mod' timer.toNat 86400
  have date := clockCalendar2utc_clockUtc2calendar (show dayOf timer.toNat < 51135 by omega)
  simp only [mktime, gmtimeR, isDay, Nat.reduceMul, Int.reduceMul]
  have minutes (epoch : Int) : epoch / 3600 * 60 + epoch % 3600 / 60 = epoch / 60 := by omega
  have clock := minutes (timer.toNat % 86400 : Nat)
  generalize dayOf timer.toNat = day at date inDay
  generalize clockUtc2calendar day = shown at date
  obtain ⟨year, month, mday⟩ := shown
  obtain ⟨positive, days⟩ := date
  have zeroBased : ((month : Int) - 1).toNat = month - 1 := by omega
  rw [zeroBased, Int.sub_add_cancel, days]
  apply BitVec.eq_of_toNat_eq
  rw [BitVec.toNat_ofInt]
  split
  · have later : (timer + 86400).toNat = timer.toNat + 86400 := by
      rw [BitVec.toNat_add]
      exact Nat.mod_eq_of_lt (show timer.toNat + 86400 < 2 ^ 32 by omega)
    omega
  · omega

end Thingsee.Core
