import Thingsee.Core.Timers

/-!
Owns the invariants of the timer queues, over runs in which callbacks set up and stop
timers as they like, and the schedule of interval timers.

`timespec_add_msec` takes a signed number of milliseconds, so an interval from 2^31 on goes
back in time. `timers_run_on_time` says what holds for all runs, and which expiries are
right in the runs without such intervals.
-/

namespace Thingsee.Core

open Support List

namespace Timespec

theorem addMsec_nsecs {ts : Timespec} (normal : ts.Normal) {msec : BitVec 32}
    (small : msec.toNat < 2 ^ 31)
    (fits : ts.nsecs + msec.toNat * 1000000 < 2 ^ 32 * 1000000000) :
    (ts.addMsec msec).nsecs = ts.nsecs + msec.toNat * 1000000 ∧ (ts.addMsec msec).Normal := by
  have signed : msec.toInt = msec.toNat := by
    rw [BitVec.toInt_eq_toNat_cond]
    split <;> omega
  obtain ⟨nonneg, below⟩ := normal
  have rest : (msec.toNat : Int).tmod 1000 = (msec.toNat % 1000 : Nat) := by
    rw [Int.tmod_eq_emod_of_nonneg (by omega)]
    rfl
  have whole : (msec.toNat : Int).tdiv 1000 = (msec.toNat / 1000 : Nat) := by
    rw [Int.tdiv_eq_ediv_of_nonneg (by omega)]
    rfl
  unfold addMsec add nsecs Normal
  unfold nsecs at fits
  rw [signed, rest, whole]
  dsimp only
  constructor
  · rw [BitVec.toNat_add, BitVec.toNat_add, BitVec.toNat_ofInt, BitVec.toNat_ofInt]
    have seconds := ts.tvSec.isLt
    omega
  · omega

end Timespec

variable {C : Type}

namespace Timers

/-- An active queue is sorted by the time of expiry. -/
def Sorted (queue : List (Timer C)) : Prop :=
  queue.Pairwise (fun first second => first.dateExpires.nsecs ≤ second.dateExpires.nsecs)

/-! ## Sorted insertion -/

theorem insert_perm (timer : Timer C) (queue : List (Timer C)) :
    (insert timer queue).Perm (timer :: queue) := by
  induction queue with
  | nil => exact .refl _
  | cons active rest ih =>
    unfold insert
    split
    · exact .refl _
    · exact (ih.cons active).trans (.swap timer active rest)

theorem insert_sorted (timer : Timer C) {queue : List (Timer C)} (sorted : Sorted queue) :
    Sorted (insert timer queue) := by
  induction queue with
  | nil => simp [insert, Sorted]
  | cons active rest ih =>
    obtain ⟨first, later⟩ := pairwise_cons.1 sorted
    unfold insert
    split
    · next earlier =>
      refine pairwise_cons.2 ⟨?_, sorted⟩
      intro other isIn
      rcases mem_cons.1 isIn with rfl | inRest
      · omega
      · have behind := first other inRest
        omega
    · next notEarlier =>
      refine pairwise_cons.2 ⟨?_, ih later⟩
      intro other isIn
      rcases mem_cons.1 ((insert_perm timer rest).mem_iff.1 isIn) with rfl | inRest
      · omega
      · exact first other inRest

theorem foldl_insert {new active : List (Timer C)} (sorted : Sorted active) :
    Sorted (new.foldl (fun active timer => insert timer active) active) ∧
      (new.foldl (fun active timer => insert timer active) active).Perm (active ++ new) := by
  induction new generalizing active with
  | nil => exact ⟨sorted, by simp⟩
  | cons timer rest ih =>
    obtain ⟨stillSorted, perm⟩ := ih (insert_sorted timer sorted)
    refine ⟨stillSorted, perm.trans ?_⟩
    refine ((insert_perm timer active).append_right rest).trans ?_
    exact (perm_middle (a := timer)).symm

theorem remove_cases (id : Int) (queue : List (Timer C)) :
    remove id queue = none ∨
      ∃ front timer back, queue = front ++ timer :: back ∧ timer.id = id ∧
        remove id queue = some (timer, front ++ back) := by
  induction queue with
  | nil => exact .inl rfl
  | cons first rest ih =>
    by_cases found : (first.id : Int) = id
    · exact .inr ⟨[], first, rest, rfl, found, by simp [remove, found]⟩
    · rcases ih with missing | ⟨front, timer, back, split, same, removed⟩
      · exact .inl (by simp [remove, found, missing])
      · exact .inr ⟨first :: front, timer, back, by simp [split], same,
          by simp [remove, found, removed]⟩

def key (timer : Timer C) : Nat × Nat × Nat := (timer.serial, timer.address, timer.id)

/-- The timers in memory: no two have a serial number or an address in common, and their
ids are those of their addresses. -/
structure Keyed (heap : Heap) (serials : Nat) (keys : List (Nat × Nat × Nat)) : Prop where
  serial : (keys.map Prod.fst).Nodup
  address : (keys.map (fun key => key.2.1)).Nodup
  bound : ∀ key ∈ keys, key.1 < serials
  inHeap : ∀ key ∈ keys, heap.base ≤ key.2.1 ∧ key.2.1 < heap.base + heap.size ∧
    key.2.2 = key.2.1 % heap.size + 1

variable {heap : Heap} {serials : Nat} {timer : Timer C} {keys after : List (Nat × Nat × Nat)}

theorem Keyed.perm (keyed : Keyed heap serials keys) (perm : after.Perm keys) :
    Keyed heap serials after where
  serial := (perm.map _).nodup_iff.2 keyed.serial
  address := (perm.map _).nodup_iff.2 keyed.address
  bound := fun key isIn => keyed.bound key (perm.mem_iff.1 isIn)
  inHeap := fun key isIn => keyed.inHeap key (perm.mem_iff.1 isIn)

theorem Keyed.sublist (keyed : Keyed heap serials keys) (sublist : after.Sublist keys) :
    Keyed heap serials after where
  serial := keyed.serial.sublist (sublist.map _)
  address := keyed.address.sublist (sublist.map _)
  bound := fun key isIn => keyed.bound key (sublist.subset isIn)
  inHeap := fun key isIn => keyed.inHeap key (sublist.subset isIn)

theorem Keyed.id_nodup (keyed : Keyed heap serials keys) :
    (keys.map (fun key => key.2.2)).Nodup := by
  rw [List.Nodup, pairwise_map]
  have addresses := keyed.address
  rw [List.Nodup, pairwise_map] at addresses
  refine addresses.imp_of_mem ?_
  intro first second isFirst isSecond different same
  obtain ⟨low, high, firstId⟩ := keyed.inHeap first isFirst
  obtain ⟨low', high', secondId⟩ := keyed.inHeap second isSecond
  apply different
  have rests : first.2.1 % heap.size = second.2.1 % heap.size := by omega
  rcases Nat.le_total first.2.1 second.2.1 with le | le
  · have zero := Nat.sub_mod_eq_zero_of_mod_eq rests.symm
    rw [Nat.mod_eq_of_lt (by omega)] at zero
    omega
  · have zero := Nat.sub_mod_eq_zero_of_mod_eq rests
    rw [Nat.mod_eq_of_lt (by omega)] at zero
    omega

structure Queues (heap : Heap) (timers : Timers C) : Prop where
  sorted : Sorted timers.active
  keyed : Keyed heap timers.serials (timers.all.map key)
  waiting : ∀ timer ∈ timers.active ++ timers.new, timer.done = false
  doneTimers : ∀ timer ∈ timers.doneTimers, timer.done = true

variable {timers : Timers C}

theorem Queues.gc (queues : Queues heap timers) : Queues heap timers.gc := by
  obtain ⟨sorted, perm⟩ := @foldl_insert _ timers.new _ queues.sorted
  refine ⟨sorted, ?_, ?_, by simp [Timers.gc]⟩
  · have fewer : ((timers.active ++ timers.new).map key).Sublist (timers.all.map key) := by
      apply List.Sublist.map
      exact sublist_append_left _ _
    apply (queues.keyed.sublist fewer).perm
    simpa [all, Timers.gc] using perm.map key
  · intro timer isIn
    apply queues.waiting
    simpa [Timers.gc, perm.mem_iff] using isIn

/-- A timer is taken out of the active or the new queue. -/
structure Taken (timers : Timers C) (timer : Timer C) (active new : List (Timer C)) : Prop where
  sublist : active.Sublist timers.active
  perm : (timer :: (active ++ new)).Perm (timers.active ++ timers.new)
  first : ∀ other rest, timers.active = other :: rest → other.serial ≠ timer.serial →
    ∃ others, active = other :: others

theorem Taken.mem {active new : List (Timer C)} (taken : Taken timers timer active new) :
    timer ∈ timers.active ++ timers.new :=
  taken.perm.mem_iff.1 (by simp)

theorem Taken.subset {other : Timer C} {active new : List (Timer C)}
    (taken : Taken timers timer active new) (isIn : other ∈ active ++ new) :
    other ∈ timers.active ++ timers.new :=
  taken.perm.mem_iff.1 (mem_cons_of_mem _ isIn)

/-! ## What the calls change -/

/-- A stop either changes nothing or takes out one timer with the given id. -/
theorem stop_cases (id : Int) (timers : Timers C) :
    timers.stop id = timers ∨
      ∃ timer active new, Taken timers timer active new ∧ timer.id = id ∧
        timers.stop id =
          { timers with active, new }.finish timer (.stopped timer.serial) := by
  unfold stop
  split
  · exact .inl rfl
  · rcases remove_cases id timers.active with missing | ⟨front, timer, back, split, same, removed⟩
    · rw [missing]
      rcases remove_cases id timers.new with missing | ⟨front, timer, back, split, same, removed⟩
      · rw [missing]
        exact .inl rfl
      · rw [removed]
        refine .inr ⟨timer, timers.active, front ++ back,
          ⟨.refl _, ?_, fun other rest isFirst _ => ⟨rest, isFirst⟩⟩, same, rfl⟩
        rw [split, ← append_assoc, ← append_assoc]
        exact (perm_middle (a := timer)).symm
    · rw [removed]
      refine .inr ⟨timer, front ++ back, timers.new, ⟨?_, ?_, ?_⟩, same, rfl⟩
      · rw [split]
        exact (sublist_cons_self timer back).append_left front
      · rw [split]
        exact ((perm_middle (a := timer)).symm).append_right timers.new
      · intro other rest isFirst different
        rw [split] at isFirst
        cases front with
        | nil =>
          obtain ⟨rfl, rfl⟩ := List.cons.inj isFirst
          exact absurd rfl different
        | cons head front =>
          obtain ⟨rfl, rfl⟩ := List.cons.inj isFirst
          exact ⟨front ++ back, rfl⟩

theorem Queues.finish (queues : Queues heap timers) {active new : List (Timer C)}
    (taken : Taken timers timer active new) (event : TimerEvent) :
    Queues heap ({ timers with active, new }.finish timer event) where
  sorted := queues.sorted.sublist taken.sublist
  keyed := by
    apply queues.keyed.perm
    have moved : ((timer :: (active ++ new)) ++ timers.doneTimers).Perm timers.all :=
      taken.perm.append_right _
    refine List.Perm.trans ?_ (moved.map key)
    simp only [all, Timers.finish, map_append, map_cons, map_nil]
    have same : key { timer with done := true } = key timer := rfl
    rw [same]
    grind
  waiting := fun other isIn => queues.waiting other (taken.subset isIn)
  doneTimers := by
    intro other isIn
    rcases mem_append.1 isIn with before | isTimer
    · exact queues.doneTimers other before
    · rw [mem_singleton.1 isTimer]

/-- A setup either changes nothing or appends one timer with the next serial. -/
theorem timerSetup_cases (heap : Heap) (type : TimerType) (dateExpires : Timespec)
    (intervalMs : BitVec 32) (callback : Option C) (address : Option Nat) (timers : Timers C) :
    timers.timerSetup heap type dateExpires intervalMs callback address = timers ∨
      ∃ (timer : Timer C),
        timer.serial = timers.serials ∧ timer.done = false ∧ timer.type = type ∧
          timer.dateExpires = dateExpires ∧ timer.intervalMs = intervalMs ∧
          timer.start = timers.now ∧ timer.id = timer.address % heap.size + 1 ∧
          timers.allocates heap timer.address = true ∧ callback.isSome = true ∧
          timers.timerSetup heap type dateExpires intervalMs callback address =
            { timers with
              new := timers.new ++ [timer]
              serials := timers.serials + 1
              log := .started timers.serials :: timers.log } := by
  unfold timerSetup
  split
  · next callback address =>
    split
    · next allocated => exact .inr ⟨_, rfl, rfl, rfl, rfl, rfl, rfl, rfl, allocated, rfl, rfl⟩
    · exact .inl rfl
  · exact .inl rfl

theorem Queues.added (queues : Queues heap timers) (serial : timer.serial = timers.serials)
    (waiting : timer.done = false) (id : timer.id = timer.address % heap.size + 1)
    (allocated : timers.allocates heap timer.address = true) (log : List TimerEvent) :
    Queues heap
      { timers with new := timers.new ++ [timer], serials := timers.serials + 1, log } where
  sorted := queues.sorted
  keyed := by
    simp only [allocates, Bool.and_eq_true, decide_eq_true_eq] at allocated
    have moved : ((timers.active ++ (timers.new ++ [timer]) ++ timers.doneTimers).map key).Perm
        (key timer :: timers.all.map key) := by
      rw [← map_cons]
      apply List.Perm.map
      have split : timers.active ++ (timers.new ++ [timer]) ++ timers.doneTimers =
          (timers.active ++ timers.new) ++ timer :: timers.doneTimers := by simp
      rw [split]
      exact perm_middle
    apply Keyed.perm _ moved
    refine ⟨?_, ?_, ?_, ?_⟩
    · rw [map_cons, nodup_cons]
      refine ⟨?_, queues.keyed.serial⟩
      intro isIn
      obtain ⟨other, isOther, same⟩ := mem_map.1 isIn
      have small := queues.keyed.bound other isOther
      rw [same] at small
      simp [key, serial] at small
    · rw [map_cons, nodup_cons]
      refine ⟨?_, queues.keyed.address⟩
      rw [map_map]
      exact allocated.2
    · intro other isIn
      rcases mem_cons.1 isIn with rfl | before
      · simp [key, serial]
      · exact Nat.lt_succ_of_lt (queues.keyed.bound other before)
    · intro other isIn
      rcases mem_cons.1 isIn with rfl | before
      · exact ⟨allocated.1.1, allocated.1.2, id⟩
      · exact queues.keyed.inHeap other before
  waiting := by
    intro other isIn
    rw [← append_assoc] at isIn
    rcases mem_append.1 isIn with before | isTimer
    · exact queues.waiting other before
    · rwa [mem_singleton.1 isTimer]
  doneTimers := queues.doneTimers

end Timers

def TimerEvent.serial : TimerEvent → Nat
  | .started serial => serial
  | .ran run => run.serial
  | .finished serial => serial
  | .stopped serial => serial

def runs (serial : Nat) (log : List TimerEvent) : Nat :=
  log.countP (fun event =>
    match event with
    | .ran run => decide (run.serial = serial)
    | _ => false)

/-- Whether a timer was set up, and has not been stopped or finished. -/
def IsLive (serial : Nat) (log : List TimerEvent) : Prop :=
  .started serial ∈ log ∧ .stopped serial ∉ log ∧ .finished serial ∉ log

/-- Timers run when they have expired and as long as they are live, and all but interval
timers run once at most. -/
def RunsRight : List TimerEvent → Prop
  | [] => True
  | .ran run :: rest =>
    run.expiry.toMsec ≤ run.now.toMsec ∧ IsLive run.serial rest ∧
      (run.type ≠ .interval → runs run.serial rest = 0) ∧ RunsRight rest
  | _ :: rest => RunsRight rest

variable {serial : Nat} {event : TimerEvent}

theorem runs_cons_of_ne (other : event.serial ≠ serial) (log : List TimerEvent) :
    runs serial (event :: log) = runs serial log := by
  unfold runs
  rw [countP_cons]
  cases event <;> simp_all [TimerEvent.serial]

theorem runs_cons_of_not_ran (quiet : ∀ run, event ≠ .ran run) (log : List TimerEvent) :
    runs serial (event :: log) = runs serial log := by
  unfold runs
  rw [countP_cons]
  cases event <;> simp_all

theorem runs_eq_zero {log : List TimerEvent} (new : ∀ event ∈ log, event.serial ≠ serial) :
    runs serial log = 0 := by
  unfold runs
  rw [countP_eq_zero]
  intro event isIn
  have other := new event isIn
  cases event <;> simp_all [TimerEvent.serial]

theorem isLive_cons_of_ne (other : event.serial ≠ serial) (log : List TimerEvent) :
    IsLive serial (event :: log) ↔ IsLive serial log := by
  unfold IsLive
  cases event <;> simp_all [TimerEvent.serial, eq_comm]

theorem runsRight_cons (quiet : ∀ run, event ≠ .ran run) (log : List TimerEvent) :
    RunsRight (event :: log) ↔ RunsRight log := by
  cases event with
  | ran run => exact absurd rfl (quiet run)
  | started | finished | stopped => exact Iff.rfl

namespace Timers

/-- The invariant of the record: the live timers are those of the active and the new
queue. -/
structure Logged (timers : Timers C) : Prop where
  live : ∀ serial, serial ∈ (timers.active ++ timers.new).map Timer.serial ↔
    IsLive serial timers.log
  bound : ∀ event ∈ timers.log, event.serial < timers.serials
  fresh : ∀ timer ∈ timers.active ++ timers.new, timer.type ≠ .interval →
    timers.phase ≠ .calling timer.serial → runs timer.serial timers.log = 0
  right : RunsRight timers.log

/-- The invariant of the loop. The timer whose callback runs is the first one, or has been
stopped. -/
structure Looping (timers : Timers C) : Prop where
  calling : ∀ serial, timers.phase = .calling serial →
    (∃ timer rest, timers.active = timer :: rest ∧ timer.serial = serial) ∨
      ∃ timer ∈ timers.doneTimers, timer.serial = serial
  asserted : timers.phase ≠ .asserted
  once : timers.pass.Nodup
  apart : timers.phase ≠ .idle → ∀ timer ∈ timers.active, timer.serial ∈ timers.pass →
    timers.phase = .calling timer.serial
  processing : timers.phase = .processing →
    timers.pass.length + timers.active.length ≤ timers.atBegin
  waiting : ∀ serial, timers.phase = .calling serial →
    timers.pass.length +
      (timers.active.filter (fun timer => decide (timer.serial ≠ serial))).length ≤ timers.atBegin
  short : timers.pass.length ≤ timers.atBegin

variable {heap : Heap} {timers : Timers C}

theorem Queues.serials_nodup (queues : Queues heap timers) :
    (timers.all.map Timer.serial).Nodup := by
  have serials := queues.keyed.serial
  rw [map_map] at serials
  exact serials

theorem Queues.waiting_nodup (queues : Queues heap timers) :
    ((timers.active ++ timers.new).map Timer.serial).Nodup :=
  queues.serials_nodup.sublist ((sublist_append_left _ _).map _)

variable {timer : Timer C}

theorem Queues.bound (queues : Queues heap timers) (isIn : timer ∈ timers.all) :
    timer.serial < timers.serials :=
  queues.keyed.bound (key timer) (mem_map_of_mem isIn)

theorem Taken.serial_notMem (queues : Queues heap timers) {active new : List (Timer C)}
    (taken : Taken timers timer active new) : timer.serial ∉ (active ++ new).map Timer.serial := by
  have nodup := (taken.perm.map Timer.serial).nodup_iff.2 queues.waiting_nodup
  exact (nodup_cons.1 nodup).1

section

variable (logged : Logged timers)
include logged

variable {active new : List (Timer C)}

theorem Logged.finish (queues : Queues heap timers) (taken : Taken timers timer active new)
    {event : TimerEvent} (ends : event = .stopped timer.serial ∨ event = .finished timer.serial)
    {phase : TimerPhase}
    (samePhase : ∀ serial, serial ≠ timer.serial → phase ≠ .calling serial → timers.phase ≠
      .calling serial) :
    Logged { { timers with active, new }.finish timer event with phase } := by
  have ofTimer : event.serial = timer.serial := by rcases ends with rfl | rfl <;> rfl
  have quiet : ∀ run, event ≠ .ran run := by
    rintro run rfl
    simp at ends
  have gone := taken.serial_notMem queues
  have mem (serial : Nat) : serial ∈ (timers.active ++ timers.new).map Timer.serial ↔
      serial = timer.serial ∨ serial ∈ (active ++ new).map Timer.serial := by
    rw [← (taken.perm.map Timer.serial).mem_iff, map_cons, mem_cons]
  have apart {other : Timer C} (isIn : other ∈ active ++ new) : other.serial ≠ timer.serial := by
    intro same
    exact gone (same ▸ mem_map_of_mem isIn)
  refine ⟨?_, ?_, ?_, ?_⟩
  · intro serial
    dsimp only [Timers.finish]
    by_cases same : serial = timer.serial
    · subst same
      constructor
      · exact fun isIn => absurd isIn gone
      · rintro ⟨_, notStopped, notFinished⟩
        rcases ends with rfl | rfl <;> simp at notStopped notFinished
    · rw [isLive_cons_of_ne (by rw [ofTimer]; exact Ne.symm same), ← logged.live, mem]
      simp [same]
  · intro other isIn
    rcases mem_cons.1 isIn with rfl | before
    · rw [ofTimer]
      exact queues.bound (mem_append_left _ taken.mem)
    · exact logged.bound other before
  · intro other isIn type notCalling
    dsimp only [Timers.finish]
    rw [runs_cons_of_not_ran quiet]
    exact logged.fresh other (taken.subset isIn) type (samePhase _ (apart isIn) notCalling)
  · dsimp only [Timers.finish]
    rw [runsRight_cons quiet]
    exact logged.right

theorem Logged.added (serial : timer.serial = timers.serials) :
    Logged { timers with
      new := timers.new ++ [timer]
      serials := timers.serials + 1
      log := .started timers.serials :: timers.log } := by
  have mem (other : Nat) : other ∈ (timers.active ++ (timers.new ++ [timer])).map Timer.serial ↔
      other ∈ (timers.active ++ timers.new).map Timer.serial ∨ other = timers.serials := by
    rw [← append_assoc, map_append, mem_append]
    simp [serial]
  have unknown : ∀ event ∈ timers.log, event.serial ≠ timers.serials :=
    fun event isIn => Nat.ne_of_lt (logged.bound event isIn)
  refine ⟨?_, ?_, ?_, (runsRight_cons (by simp) _).2 logged.right⟩
  · intro other
    rw [mem]
    by_cases same : other = timers.serials
    · subst same
      refine ⟨fun _ => ⟨by simp, ?_, ?_⟩, fun _ => .inr rfl⟩
      · intro isIn
        have before : TimerEvent.stopped timers.serials ∈ timers.log := by simpa using isIn
        exact unknown _ before rfl
      · intro isIn
        have before : TimerEvent.finished timers.serials ∈ timers.log := by simpa using isIn
        exact unknown _ before rfl
    · rw [isLive_cons_of_ne (by simpa [TimerEvent.serial] using Ne.symm same), ← logged.live]
      simp [same]
  · intro event isIn
    rcases mem_cons.1 isIn with rfl | before
    · exact Nat.lt_succ_self _
    · exact Nat.lt_succ_of_lt (logged.bound event before)
  · intro other isIn type notCalling
    rw [runs_cons_of_not_ran (by simp)]
    rw [← append_assoc] at isIn
    rcases mem_append.1 isIn with before | isTimer
    · exact logged.fresh other before type notCalling
    · rw [mem_singleton.1 isTimer, serial]
      exact runs_eq_zero unknown

theorem Logged.ran (queues : Queues heap timers) (isPhase : timers.phase = .processing)
    {rest : List (Timer C)} (first : timers.active = timer :: rest)
    (expired : timer.dateExpires.toMsec ≤ timers.now.toMsec) (pass : List Nat) :
    Logged { timers with
      phase := .calling timer.serial
      pass
      log := .ran ⟨timer.serial, timer.type, timer.start, timer.intervalMs, timer.dateExpires,
        timers.now⟩ :: timers.log } := by
  have isIn : timer ∈ timers.active ++ timers.new := by simp [first]
  have live := (logged.live timer.serial).1 (mem_map_of_mem isIn)
  refine ⟨?_, ?_, ?_, expired, live, ?_, logged.right⟩
  · intro serial
    rw [logged.live serial]
    simp [IsLive]
  · intro event isEvent
    rcases mem_cons.1 isEvent with rfl | before
    · exact queues.bound (mem_append_left _ isIn)
    · exact logged.bound event before
  · intro other isOther type notCalling
    have different : (TimerEvent.ran ⟨timer.serial, timer.type, timer.start, timer.intervalMs,
        timer.dateExpires, timers.now⟩).serial ≠ other.serial := by
      intro same
      exact notCalling (congrArg _ same)
    rw [runs_cons_of_ne different]
    exact logged.fresh other isOther type (by simp [isPhase])
  · intro type
    exact logged.fresh timer isIn type (by simp [isPhase])

theorem Logged.moved {doneTimers : List (Timer C)} {now : Timespec} {phase : TimerPhase}
    {pass : List Nat} {atBegin : Nat}
    (same : ((active ++ new).map (fun timer => (timer.serial, timer.type))).Perm
      ((timers.active ++ timers.new).map (fun timer => (timer.serial, timer.type))))
    (samePhase : ∀ timer ∈ timers.active ++ timers.new, timer.type ≠ .interval → phase ≠
      .calling timer.serial → timers.phase ≠ .calling timer.serial) :
    Logged { timers with active, new, doneTimers, now, phase, pass, atBegin } := by
  have serials : ((active ++ new).map Timer.serial).Perm
      ((timers.active ++ timers.new).map Timer.serial) := by
    have first := same.map Prod.fst
    rw [map_map, map_map] at first
    exact first
  refine ⟨?_, logged.bound, ?_, logged.right⟩
  · intro serial
    rw [← logged.live serial]
    exact serials.mem_iff
  · intro timer isIn type notCalling
    obtain ⟨old, isOld, pair⟩ := mem_map.1
      (same.mem_iff.1 (mem_map_of_mem isIn))
    obtain ⟨sameSerial, sameType⟩ := Prod.mk.inj pair
    rw [← sameSerial] at notCalling ⊢
    rw [← sameType] at type
    exact logged.fresh old isOld type (samePhase old isOld type notCalling)

theorem Logged.gc (queues : Queues heap timers)
    (notCalling : ∀ serial, timers.phase ≠ .calling serial) :
    Logged { timers.gc with phase := .idle } := by
  unfold Timers.gc
  apply logged.moved
  · rw [append_nil]
    exact (foldl_insert queues.sorted).2.map _
  · intro timer _ _ _
    exact notCalling timer.serial

end

structure Orderly (heap : Heap) (timers : Timers C) : Prop where
  queues : Queues heap timers
  logged : Logged timers
  looping : Looping timers

theorem Orderly.timerSetup (orderly : Orderly heap timers) (type : TimerType)
    (dateExpires : Timespec) (intervalMs : BitVec 32) (callback : Option C)
    (address : Option Nat) :
    Orderly heap (timers.timerSetup heap type dateExpires intervalMs callback address) := by
  rcases timerSetup_cases heap type dateExpires intervalMs callback address timers with
    same | ⟨timer, serial, waiting, _, _, _, _, id, allocated, _, result⟩
  · rw [same]
    exact orderly
  · rw [result]
    have looping := orderly.looping
    exact ⟨orderly.queues.added serial waiting id allocated _,
      orderly.logged.added serial,
      ⟨looping.calling, looping.asserted, looping.once, looping.apart, looping.processing,
        looping.waiting, looping.short⟩⟩

theorem Orderly.stop (orderly : Orderly heap timers) (id : Int) :
    Orderly heap (timers.stop id) := by
  rcases stop_cases id timers with same | ⟨timer, active, new, taken, _, result⟩
  · rw [same]
    exact orderly
  · rw [result]
    have looping := orderly.looping
    have shorter := taken.sublist.length_le
    refine ⟨orderly.queues.finish taken _,
      orderly.logged.finish orderly.queues taken (.inl rfl) (fun _ _ same => same), ?_⟩
    refine ⟨?_, looping.asserted, looping.once, ?_, ?_, ?_, looping.short⟩
    · intro serial isCalling
      dsimp only [Timers.finish] at isCalling ⊢
      rcases looping.calling serial isCalling with ⟨first, rest, isFirst, same⟩ | ⟨old, isIn, same⟩
      · by_cases itself : timer.serial = serial
        · right
          exact ⟨{ timer with done := true }, by simp, itself⟩
        · -- Another timer was taken out, so the first one stays.
          left
          obtain ⟨others, stays⟩ := taken.first first rest isFirst (by
            rw [same]
            exact Ne.symm itself)
          exact ⟨first, others, stays, same⟩
      · right
        exact ⟨old, mem_append_left _ isIn, same⟩
    · intro running other isIn
      exact looping.apart running other (taken.sublist.subset isIn)
    · intro isProcessing
      have before := looping.processing isProcessing
      dsimp only [Timers.finish]
      omega
    · intro serial isCalling
      have before := looping.waiting serial isCalling
      have fewer := (taken.sublist.filter (fun timer => decide (timer.serial ≠ serial))).length_le
      dsimp only [Timers.finish]
      omega

theorem turn_cases (timers : Timers C) :
    timers.turn = { timers.gc with phase := .idle } ∨
      ∃ timer rest, timers.active = timer :: rest ∧
        timer.dateExpires.toMsec ≤ timers.now.toMsec ∧
        timers.turn =
          { timers with
            phase := .calling timer.serial
            pass := timer.serial :: timers.pass
            log := .ran ⟨timer.serial, timer.type, timer.start, timer.intervalMs,
              timer.dateExpires, timers.now⟩ :: timers.log } := by
  rcases isFirst : timers.active with _ | ⟨timer, rest⟩
  · left
    simp [Timers.turn, isFirst]
  · by_cases expired : timer.dateExpires.toMsec ≤ timers.now.toMsec
    · right
      refine ⟨timer, rest, rfl, expired, ?_⟩
      simp [Timers.turn, isFirst, expired]
    · left
      simp [Timers.turn, isFirst, expired]

section

variable (orderly : Orderly heap timers)
include orderly

theorem Orderly.turn (isPhase : timers.phase = .processing) : Orderly heap timers.turn := by
  have looping := orderly.looping
  have ends : Orderly heap { timers.gc with phase := .idle } := by
    have queues := orderly.queues.gc
    refine ⟨⟨queues.sorted, queues.keyed, queues.waiting, queues.doneTimers⟩,
      orderly.logged.gc orderly.queues (by simp [isPhase]), ?_⟩
    exact ⟨by simp, by simp, looping.once, by simp, by simp, by simp, looping.short⟩
  rcases turn_cases timers with result | ⟨timer, rest, first, expired, result⟩
  · rw [result]
    exact ends
  · rw [result]
    have queues := orderly.queues
    have before := looping.processing isPhase
    have notRun : timer.serial ∉ timers.pass := by
      intro isIn
      have isCalling := looping.apart (by simp [isPhase]) timer (by simp [first]) isIn
      simp [isPhase] at isCalling
    have apart : ∀ other ∈ timers.active, other.serial ∉ timers.pass := by
      intro other isOther isIn
      have isCalling := looping.apart (by simp [isPhase]) other isOther isIn
      simp [isPhase] at isCalling
    refine ⟨⟨queues.sorted, queues.keyed, queues.waiting, queues.doneTimers⟩,
      orderly.logged.ran queues isPhase first expired _, ?_⟩
    have fewer : (timers.active.filter
        (fun other => decide (other.serial ≠ timer.serial))).length + 1 ≤
          timers.active.length := by
      rw [first, filter_cons_of_neg (by simp)]
      simpa using length_filter_le _ rest
    refine ⟨?_, by simp, nodup_cons.2 ⟨notRun, looping.once⟩, ?_, by simp, ?_, ?_⟩
    · intro serial isCalling
      exact .inl ⟨timer, rest, first, TimerPhase.calling.inj isCalling⟩
    · intro _ other isOther isIn
      rcases mem_cons.1 isIn with same | isBefore
      · exact congrArg _ same.symm
      · exact absurd isBefore (apart other isOther)
    · intro serial isCalling
      obtain rfl := TimerPhase.calling.inj isCalling
      dsimp only
      rw [length_cons]
      omega
    · dsimp only
      rw [length_cons]
      omega

theorem Orderly.proceed {serial : Nat} (isPhase : timers.phase = .calling serial) :
    Orderly heap (timers.proceed serial) := by
  have looping := orderly.looping
  have queues := orderly.queues
  have bound := looping.waiting serial isPhase
  have others {timer : Timer C} (isIn : timer ∈ timers.active) (different : timer.serial ≠ serial) :
      timer.serial ∉ timers.pass := by
    intro isRun
    have same := looping.apart (by simp [isPhase]) timer isIn isRun
    rw [isPhase] at same
    exact different (TimerPhase.calling.inj same).symm
  unfold Timers.proceed
  by_cases isDone : ∃ timer ∈ timers.doneTimers, timer.serial = serial
  · obtain ⟨timer, isIn, same⟩ := isDone
    have flagged : timers.doneTimers.any
        (fun timer => decide (timer.serial = serial) && timer.done) = true := by
      rw [any_eq_true]
      exact ⟨timer, isIn, by simp [same, queues.doneTimers timer isIn]⟩
    rw [if_pos flagged]
    have notWaiting : ∀ other ∈ timers.active ++ timers.new, other.serial ≠ serial := by
      intro other isOther equal
      have disjoint := queues.serials_nodup
      unfold all at disjoint
      rw [map_append] at disjoint
      apply disjoint_of_nodup_append disjoint (mem_map_of_mem isOther)
      rw [equal, ← same]
      exact mem_map_of_mem isIn
    have all : timers.active.filter (fun timer => decide (timer.serial ≠ serial)) =
        timers.active := by
      rw [filter_eq_self]
      intro other isOther
      simpa using notWaiting other (mem_append_left _ isOther)
    rw [all] at bound
    refine ⟨⟨queues.sorted, queues.keyed, queues.waiting, queues.doneTimers⟩, ?_, ?_⟩
    · apply orderly.logged.moved (.refl _)
      intro other isOther _ _
      rw [isPhase]
      intro same
      exact notWaiting other isOther (TimerPhase.calling.inj same).symm
    · refine ⟨by simp, by simp, looping.once, ?_, fun _ => bound, by simp, looping.short⟩
      intro _ other isOther isRun
      exact absurd isRun (others isOther (notWaiting other (mem_append_left _ isOther)))
  · have notFlagged : ¬ timers.doneTimers.any
        (fun timer => decide (timer.serial = serial) && timer.done) = true := by
      rw [any_eq_true]
      rintro ⟨timer, isIn, both⟩
      simp only [Bool.and_eq_true, decide_eq_true_eq] at both
      exact isDone ⟨timer, isIn, both.1⟩
    rw [if_neg notFlagged]
    obtain ⟨timer, rest, first, rfl⟩ := (looping.calling serial isPhase).resolve_right isDone
    rw [first]
    dsimp only
    rw [if_pos rfl]
    have nodup := queues.waiting_nodup
    rw [first] at nodup
    have notRest : ∀ other ∈ rest, other.serial ≠ timer.serial := by
      intro other isOther same
      simp only [cons_append, map_cons, nodup_cons] at nodup
      apply nodup.1
      rw [← same]
      exact mem_map_of_mem (mem_append_left _ isOther)
    have all : timers.active.filter (fun other => decide (other.serial ≠ timer.serial)) = rest := by
      rw [first, filter_cons_of_neg (by simp), filter_eq_self]
      intro other isOther
      simpa using notRest other isOther
    rw [all] at bound
    have loop (active new doneTimers : List (Timer C)) (log : List TimerEvent)
        (isRest : active = rest) :
        Looping { timers with active, new, doneTimers, log, phase := .processing } := by
      subst isRest
      refine ⟨by simp, by simp, looping.once, ?_, fun _ => bound, by simp, looping.short⟩
      intro _ other isOther isRun
      exact absurd isRun (others (by simp [first, isOther]) (notRest other isOther))
    have taken : Taken timers timer rest timers.new := by
      refine ⟨?_, by simp [first], ?_⟩
      · rw [first]
        exact sublist_cons_self _ _
      · intro other others isFirst different
        rw [first] at isFirst
        obtain ⟨rfl, rfl⟩ := List.cons.inj isFirst
        exact absurd rfl different
    by_cases type : timer.type = .interval
    · rw [if_pos type]
      refine ⟨?_, ?_, loop _ _ _ _ rfl⟩
      · refine ⟨queues.sorted.sublist taken.sublist, ?_, ?_, queues.doneTimers⟩
        · apply queues.keyed.perm
          have split : (rest ++ (timers.new ++
              [{ timer with dateExpires := timer.dateExpires.addMsec timer.intervalMs }]) ++
                timers.doneTimers).map key =
              (rest ++ timers.new).map key ++ key timer :: timers.doneTimers.map key := by
            simp [key]
          unfold Timers.all
          rw [split, first]
          refine perm_middle.trans ?_
          simp
        · intro other isIn
          rw [← append_assoc] at isIn
          rcases mem_append.1 isIn with before | isTimer
          · exact queues.waiting other (taken.subset before)
          · rw [mem_singleton.1 isTimer]
            exact queues.waiting timer taken.mem
      · apply orderly.logged.moved
        · rw [← append_assoc, map_append, first]
          refine perm_append_comm.trans ?_
          simp
        · intro other isOther otherType _ same
          rw [isPhase] at same
          have isTimer : other.serial = timer.serial := (TimerPhase.calling.inj same).symm
          rw [first, cons_append] at isOther
          rcases mem_cons.1 isOther with rfl | later
          · exact otherType type
          · simp only [cons_append, map_cons, nodup_cons] at nodup
            apply nodup.1
            rw [← isTimer]
            exact mem_map_of_mem later
    · rw [if_neg type]
      refine ⟨?_, ?_, loop _ _ _ _ rfl⟩
      · have finished := queues.finish taken (.finished timer.serial)
        exact ⟨finished.sorted, finished.keyed, finished.waiting, finished.doneTimers⟩
      · apply orderly.logged.finish queues taken (.inr rfl)
        intro other different _ same
        rw [isPhase] at same
        exact different (TimerPhase.calling.inj same).symm

theorem Orderly.tick (now : Timespec) : Orderly heap { timers with now } := by
  have queues := orderly.queues
  have looping := orderly.looping
  refine ⟨⟨queues.sorted, queues.keyed, queues.waiting, queues.doneTimers⟩, ?_, ?_⟩
  · exact orderly.logged.moved (.refl _) (fun _ _ _ same => same)
  · exact ⟨looping.calling, looping.asserted, looping.once, looping.apart, looping.processing,
      looping.waiting, looping.short⟩

theorem Orderly.process (isPhase : timers.phase = .idle) :
    Orderly heap
      { timers with phase := .processing, pass := [], atBegin := timers.active.length } := by
  have queues := orderly.queues
  refine ⟨⟨queues.sorted, queues.keyed, queues.waiting, queues.doneTimers⟩, ?_, ?_⟩
  · apply orderly.logged.moved (.refl _)
    intro timer _ _ _
    simp [isPhase]
  · refine ⟨by simp, by simp, by simp, by simp, ?_, by simp, by simp⟩
    intro _
    simp

theorem Orderly.setup (type : TimerType) (timeoutMs : BitVec 32) (callback : Option C)
    (address : Option Nat) : Orderly heap (timers.setup heap type timeoutMs callback address) := by
  unfold Timers.setup
  split
  · exact orderly
  · exact orderly.timerSetup _ _ _ _ _

/-- Every action keeps the queues, the log and the pass in order. -/
theorem step_orderly (action : TimerAction C) : Orderly heap (timers.step heap action) := by
  unfold step
  split
  · exact orderly
  · split
    · exact orderly.tick _
    · exact orderly
  · next isPhase => exact orderly.process isPhase
  · next isPhase => exact orderly.turn isPhase
  · exact orderly
  · next isPhase => exact orderly.proceed isPhase
  · exact orderly.setup _ _ _ _
  · exact orderly.timerSetup _ _ _ _ _
  · exact orderly.stop _
  · exact orderly

end

theorem initial_orderly (heap : Heap) : Orderly heap (initial C) := by
  refine ⟨⟨?_, ⟨?_, ?_, ?_, ?_⟩, ?_, ?_⟩, ⟨?_, ?_, ?_, trivial⟩, ⟨?_, ?_, ?_, ?_, ?_, ?_, ?_⟩⟩ <;>
    simp [initial, all, Sorted, IsLive]

/-- The condition on a step: an interval timer is set up with less than 2^31 milliseconds,
and its next expiry can be stored. -/
def KeepsTime (timers : Timers C) : TimerAction C → Prop
  | .setup type timeoutMs _ _ =>
    type = .interval → timeoutMs.toNat < 2 ^ 31 ∧
      timers.now.nsecs + timeoutMs.toNat * 1000000 < 2 ^ 32 * 1000000000
  | .proceed =>
    ∀ timer ∈ timers.active, timers.phase = .calling timer.serial → timer.type = .interval →
      timer.dateExpires.nsecs + timer.intervalMs.toNat * 1000000 < 2 ^ 32 * 1000000000
  | _ => True

/-- The k-th run of an interval timer is for its start and k times its interval. -/
def OnTime : List TimerEvent → Prop
  | [] => True
  | .ran run :: rest =>
    (run.type = .interval →
      run.expiry.nsecs =
        run.start.nsecs + (runs run.serial rest + 1) * (run.intervalMs.toNat * 1000000)) ∧
      OnTime rest
  | _ :: rest => OnTime rest

/-! ## Times -/

theorem onTime_cons {event : TimerEvent} (quiet : ∀ run, event ≠ .ran run)
    (log : List TimerEvent) : OnTime (event :: log) ↔ OnTime log := by
  cases event with
  | ran run => exact absurd rfl (quiet run)
  | started | finished | stopped => exact Iff.rfl

structure Scheduled (timers : Timers C) (timer : Timer C) : Prop where
  normal : timer.dateExpires.Normal
  small : timer.intervalMs.toNat < 2 ^ 31
  next : timers.phase ≠ .calling timer.serial →
    timer.dateExpires.nsecs =
      timer.start.nsecs + (runs timer.serial timers.log + 1) * (timer.intervalMs.toNat * 1000000)
  current : timers.phase = .calling timer.serial →
    timer.dateExpires.nsecs =
      timer.start.nsecs + runs timer.serial timers.log * (timer.intervalMs.toNat * 1000000)

/-- The invariant of the schedule. -/
structure Timed (timers : Timers C) : Prop where
  clock : timers.now.Normal
  scheduled : ∀ timer ∈ timers.active ++ timers.new, timer.type = .interval →
    Scheduled timers timer
  onTime : OnTime timers.log

theorem Timed.timerSetup (timed : Timed timers) (orderly : Orderly heap timers) (type : TimerType)
    (dateExpires : Timespec) (intervalMs : BitVec 32) (callback : Option C) (address : Option Nat)
    (right : type = .interval → intervalMs.toNat < 2 ^ 31 ∧ dateExpires.Normal ∧
      dateExpires.nsecs = timers.now.nsecs + intervalMs.toNat * 1000000)
    (notCalling : timers.phase ≠ .calling timers.serials) :
    Timed (timers.timerSetup heap type dateExpires intervalMs callback address) := by
  rcases timerSetup_cases heap type dateExpires intervalMs callback address timers with
    same | ⟨timer, serial, _, isType, isDate, isInterval, isStart, _, _, _, result⟩
  · rw [same]
    exact timed
  · rw [result]
    refine ⟨timed.clock, ?_, (onTime_cons (by simp) _).2 timed.onTime⟩
    intro other isIn otherType
    rw [← append_assoc] at isIn
    rcases mem_append.1 isIn with before | isTimer
    · have scheduled := timed.scheduled other before otherType
      refine ⟨scheduled.normal, scheduled.small, ?_, ?_⟩
      · dsimp only
        rw [runs_cons_of_not_ran (by simp)]
        exact scheduled.next
      · dsimp only
        rw [runs_cons_of_not_ran (by simp)]
        exact scheduled.current
    · obtain rfl := mem_singleton.1 isTimer
      obtain ⟨small, normal, expires⟩ := right (isType ▸ otherType)
      refine ⟨isDate ▸ normal, isInterval ▸ small, ?_, ?_⟩
      · intro _
        have none : runs other.serial (.started timers.serials :: timers.log) = 0 := by
          rw [runs_cons_of_not_ran (by simp), serial]
          apply runs_eq_zero
          exact fun event isEvent => Nat.ne_of_lt (orderly.logged.bound event isEvent)
        rw [none, isDate, isStart, isInterval, expires]
        omega
      · intro isCalling
        rw [serial] at isCalling
        exact absurd isCalling notCalling

theorem Orderly.calling_ne (orderly : Orderly heap timers) :
    timers.phase ≠ .calling timers.serials := by
  intro isCalling
  rcases orderly.looping.calling _ isCalling with ⟨timer, rest, first, same⟩ | ⟨timer, isIn, same⟩
  · have small := orderly.queues.bound (show timer ∈ _ by simp [all, first])
    omega
  · have small := orderly.queues.bound (show timer ∈ _ by simp [all, isIn])
    omega

theorem Timed.finish (timed : Timed timers) {active new : List (Timer C)}
    (taken : Taken timers timer active new) {event : TimerEvent} (quiet : ∀ run, event ≠ .ran run)
    {phase : TimerPhase}
    (samePhase : ∀ other ∈ active ++ new, (phase = .calling other.serial ↔ timers.phase =
      .calling other.serial)) :
    Timed { { timers with active, new }.finish timer event with phase } := by
  refine ⟨timed.clock, ?_, (onTime_cons quiet _).2 timed.onTime⟩
  intro other isIn type
  have scheduled := timed.scheduled other (taken.subset isIn) type
  refine ⟨scheduled.normal, scheduled.small, ?_, ?_⟩
  · intro notCalling
    dsimp only [Timers.finish]
    rw [runs_cons_of_not_ran quiet]
    exact scheduled.next (fun before => notCalling ((samePhase other isIn).2 before))
  · intro isCalling
    dsimp only [Timers.finish]
    rw [runs_cons_of_not_ran quiet]
    exact scheduled.current ((samePhase other isIn).1 isCalling)

theorem Timed.stop (timed : Timed timers) (id : Int) : Timed (timers.stop id) := by
  rcases stop_cases id timers with same | ⟨timer, active, new, taken, _, result⟩
  · rw [same]
    exact timed
  · rw [result]
    exact timed.finish taken (by simp) (fun _ _ => Iff.rfl)

section

variable (timed : Timed timers) (orderly : Orderly heap timers)
include timed orderly

theorem Timed.turn (isPhase : timers.phase = .processing) : Timed timers.turn := by
  rcases turn_cases timers with result | ⟨timer, rest, first, _, result⟩
  · rw [result]
    refine ⟨timed.clock, ?_, timed.onTime⟩
    intro other isIn type
    have isBefore : other ∈ timers.active ++ timers.new := by
      simpa [Timers.gc, (foldl_insert orderly.queues.sorted).2.mem_iff] using isIn
    have scheduled := timed.scheduled other isBefore type
    exact ⟨scheduled.normal, scheduled.small, fun _ => scheduled.next (by simp [isPhase]), by simp⟩
  · rw [result]
    have isTimer : timer ∈ timers.active ++ timers.new := by simp [first]
    refine ⟨timed.clock, ?_, ?_, timed.onTime⟩
    · intro other isIn type
      have scheduled := timed.scheduled other isIn type
      have before := scheduled.next (by simp [isPhase])
      refine ⟨scheduled.normal, scheduled.small, ?_, ?_⟩
      · intro notCalling
        have different : (TimerEvent.ran ⟨timer.serial, timer.type, timer.start, timer.intervalMs,
            timer.dateExpires, timers.now⟩).serial ≠ other.serial := by
          intro same
          exact notCalling (congrArg _ same)
        rw [runs_cons_of_ne different]
        exact before
      · intro isCalling
        have same : timer.serial = other.serial := TimerPhase.calling.inj isCalling
        have more : runs other.serial (.ran ⟨timer.serial, timer.type, timer.start,
            timer.intervalMs, timer.dateExpires, timers.now⟩ :: timers.log) =
              runs other.serial timers.log + 1 := by
          simp [runs, same]
        rw [more, before]
        push_cast
        rfl
    · intro type
      exact (timed.scheduled timer isTimer type).next (by simp [isPhase])

theorem Timed.proceed {serial : Nat} (isPhase : timers.phase = .calling serial)
    (keeps : KeepsTime timers .proceed) : Timed (timers.proceed serial) := by
  have nodup := orderly.queues.waiting_nodup
  unfold Timers.proceed
  by_cases isDone : timers.doneTimers.any
      (fun timer => decide (timer.serial = serial) && timer.done) = true
  · rw [if_pos isDone]
    refine ⟨timed.clock, ?_, timed.onTime⟩
    intro other isIn type
    have scheduled := timed.scheduled other isIn type
    refine ⟨scheduled.normal, scheduled.small, fun _ => scheduled.next ?_, by simp⟩
    rw [isPhase]
    intro same
    obtain ⟨timer, isTimer, both⟩ := any_eq_true.1 isDone
    simp only [Bool.and_eq_true, decide_eq_true_eq] at both
    have disjoint := orderly.queues.serials_nodup
    unfold all at disjoint
    rw [map_append] at disjoint
    apply disjoint_of_nodup_append disjoint (mem_map_of_mem isIn)
    rw [← TimerPhase.calling.inj same, ← both.1]
    exact mem_map_of_mem isTimer
  · rw [if_neg isDone]
    have notDone : ¬ ∃ timer ∈ timers.doneTimers, timer.serial = serial := by
      rintro ⟨timer, isIn, same⟩
      apply isDone
      rw [any_eq_true]
      exact ⟨timer, isIn, by simp [same, orderly.queues.doneTimers timer isIn]⟩
    obtain ⟨timer, rest, first, rfl⟩ :=
      (orderly.looping.calling serial isPhase).resolve_right notDone
    rw [first]
    dsimp only
    rw [if_pos rfl]
    rw [first] at nodup
    simp only [cons_append, map_cons, nodup_cons] at nodup
    have apart {other : Timer C} (isIn : other ∈ rest ++ timers.new) :
        timers.phase ≠ .calling other.serial := by
      rw [isPhase]
      intro same
      apply nodup.1
      rw [TimerPhase.calling.inj same]
      exact mem_map_of_mem isIn
    by_cases type : timer.type = .interval
    · rw [if_pos type]
      refine ⟨timed.clock, ?_, timed.onTime⟩
      intro other isIn otherType
      rw [← append_assoc] at isIn
      rcases mem_append.1 isIn with stays | isTimer
      · have before : other ∈ timers.active ++ timers.new := by
          rw [first, cons_append]
          exact mem_cons_of_mem _ stays
        have scheduled := timed.scheduled other before otherType
        exact ⟨scheduled.normal, scheduled.small, fun _ => scheduled.next (apart stays), by simp⟩
      · obtain rfl := mem_singleton.1 isTimer
        have scheduled := timed.scheduled timer (by simp [first]) type
        have fits := keeps timer (by simp [first]) isPhase type
        obtain ⟨later, normal⟩ :=
          Timespec.addMsec_nsecs scheduled.normal scheduled.small fits
        refine ⟨normal, scheduled.small, fun _ => ?_, by simp⟩
        rw [later, scheduled.current isPhase, Int.add_mul, Int.one_mul, Int.add_assoc]
    · rw [if_neg type]
      have taken : Taken timers timer rest timers.new := by
        refine ⟨?_, by simp [first], ?_⟩
        · rw [first]
          exact sublist_cons_self _ _
        · intro other others isFirst different
          rw [first] at isFirst
          obtain ⟨rfl, rfl⟩ := List.cons.inj isFirst
          exact absurd rfl different
      apply timed.finish taken (by simp)
      intro other isIn
      simp [apart isIn]

/-- Every action that keeps time keeps each run inside its bounds. -/
theorem step_timed {action : TimerAction C} (keeps : KeepsTime timers action) :
    Timed (timers.step heap action) := by
  unfold step
  split
  · exact timed
  · split
    · next possible =>
      refine ⟨possible.2, ?_, timed.onTime⟩
      intro other isIn type
      have scheduled := timed.scheduled other isIn type
      exact ⟨scheduled.normal, scheduled.small, scheduled.next, scheduled.current⟩
    · exact timed
  · next isPhase =>
    refine ⟨timed.clock, ?_, timed.onTime⟩
    intro other isIn type
    have scheduled := timed.scheduled other isIn type
    exact ⟨scheduled.normal, scheduled.small, fun _ => scheduled.next (by simp [isPhase]),
      by simp⟩
  · next isPhase => exact timed.turn orderly isPhase
  · exact timed
  · next isPhase => exact timed.proceed orderly isPhase keeps
  · next type timeoutMs callback address _ _ _ =>
    unfold Timers.setup
    split
    · exact timed
    · apply timed.timerSetup orderly _ _ _ _ _ _ orderly.calling_ne
      intro isInterval
      obtain ⟨small, fits⟩ := keeps isInterval
      obtain ⟨expires, normal⟩ := Timespec.addMsec_nsecs timed.clock small fits
      exact ⟨small, normal, expires⟩
  · exact timed.timerSetup orderly _ _ _ _ _ (by simp) orderly.calling_ne
  · exact timed.stop _
  · exact timed

end

theorem turn_ends_or_runs (timers : Timers C) :
    timers.turn.phase = .idle ∨ timers.turn.pass.length = timers.pass.length + 1 := by
  rcases turn_cases timers with result | ⟨timer, rest, _, _, result⟩
  · rw [result]
    exact .inl rfl
  · rw [result]
    exact .inr rfl

/-- In every run the active queue is sorted, the assertion of `execute_timer_callback` holds,
every live timer is in one of the active and the new queue and has an id of its own, timers
run when they have expired and as long as they are live, those that are no interval timers
run once at most, and one call of `ts_core_process_timers` runs each timer once at most and
ends when it has run as many timers as were active. In the runs whose steps all meet the condition,
the k-th run of an interval timer belongs to its start and k times its interval. -/
theorem timers_run_on_time (heap : Heap) (actions : List (TimerAction C)) :
    let timers := run heap (initial C) actions
    Sorted timers.active ∧ timers.phase ≠ .asserted ∧
      ((timers.active ++ timers.new).map Timer.serial).Nodup ∧
      (∀ serial, serial ∈ (timers.active ++ timers.new).map Timer.serial ↔
        IsLive serial timers.log) ∧
      ((timers.active ++ timers.new).map Timer.id).Nodup ∧
      RunsRight timers.log ∧ timers.pass.Nodup ∧ timers.pass.length ≤ timers.atBegin ∧
      (timers.phase = .processing →
        timers.pass.length + timers.active.length ≤ timers.atBegin ∧
          (timers.turn.phase = .idle ∨ timers.turn.pass.length = timers.pass.length + 1)) ∧
      (Guarded (step heap) KeepsTime (initial C) actions → OnTime timers.log) := by
  have orderly : Orderly heap (run heap (initial C) actions) :=
    foldl_invariant_of_keeps (Orderly heap) (fun _ action orderly => step_orderly orderly action)
      actions (initial_orderly heap)
  have ids : ((run heap (initial C) actions).all.map Timer.id).Nodup := by
    have nodup := orderly.queues.keyed.id_nodup
    rw [map_map] at nodup
    exact nodup
  refine ⟨orderly.queues.sorted, orderly.looping.asserted, orderly.queues.waiting_nodup,
    orderly.logged.live, ids.sublist ((sublist_append_left _ _).map _), orderly.logged.right,
    orderly.looping.once, orderly.looping.short, ?_, ?_⟩
  · exact fun isPhase => ⟨orderly.looping.processing isPhase, turn_ends_or_runs _⟩
  intro guarded
  have both := foldl_invariant (fun timers => Orderly heap timers ∧ Timed timers)
    (fun _ action holds keeps =>
      ⟨step_orderly holds.1 action, step_timed holds.2 holds.1 keeps⟩)
    ⟨initial_orderly heap, ⟨by simp [initial, Timespec.Normal], by simp [initial], trivial⟩⟩
    guarded
  exact both.2.onTime

/-- After 2147484 seconds an interval timer of 2^31 milliseconds is set up. Its expiry is
0.352 seconds, and it runs at once. -/
theorem long_interval_runs_at_once :
    let actions : List (TimerAction Unit) :=
      [.tick ⟨2147484, 0⟩, .setup .interval (2147483648 : BitVec 32) (some ()) (some 0), .process,
        .turn, .process, .turn]
    (run ⟨0, 64⟩ (initial Unit) actions).log =
        [.ran ⟨0, .interval, ⟨2147484, 0⟩, 2147483648, ⟨0, 352000000⟩, ⟨2147484, 0⟩⟩,
          .started 0] ∧
      ¬ OnTime (run ⟨0, 64⟩ (initial Unit) actions).log := by
  have log : (run ⟨0, 64⟩ (initial Unit)
      [.tick ⟨2147484, 0⟩, .setup .interval (2147483648 : BitVec 32) (some ()) (some 0), .process,
        .turn, .process, .turn]).log =
      [.ran ⟨0, .interval, ⟨2147484, 0⟩, 2147483648, ⟨0, 352000000⟩, ⟨2147484, 0⟩⟩,
        .started 0] := by decide
  refine ⟨log, ?_⟩
  rw [log]
  rintro ⟨wrong, _⟩
  have equal := wrong rfl
  revert equal
  decide

/-- An interval timer of one second runs after one second and after two. -/
theorem short_interval_runs_on_time :
    let actions : List (TimerAction Unit) :=
      [.setup .interval (1000 : BitVec 32) (some ()) (some 0), .process, .turn, .tick ⟨1, 0⟩,
        .process, .turn, .proceed, .turn, .tick ⟨2, 5⟩, .process, .turn]
    OnTime (run ⟨0, 64⟩ (initial Unit) actions).log ∧
      runs 0 (run ⟨0, 64⟩ (initial Unit) actions).log = 2 := by
  refine ⟨(timers_run_on_time ⟨0, 64⟩ _).2.2.2.2.2.2.2.2.2 ?_, by decide⟩
  refine ⟨fun _ => by decide, trivial, trivial, trivial, trivial, trivial, ?_, trivial, trivial,
    trivial, trivial, trivial⟩
  unfold KeepsTime
  decide

end Timers

end Thingsee.Core
