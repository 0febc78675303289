import Mathlib.Data.List.MinMax
import Thingsee.Gps.States
import Thingsee.Support.Runs

/-!
Owns the accuracy filter of the GPS module (ubgps_internal.c): which locations are published
while locations come in and the timer of the filter runs out.

Timers are told apart by a mark that is not in the source: their identifiers have 16 bits and
may wrap around. The other timers and their identifiers stay as they are.
-/

namespace Thingsee.Gps.AccuracyFilter

open Support List

/-- `CONFIG_UBGPS_ACCURACY_FILTER_DURATION` and `..._THRESHOLD`. -/
structure Config where
  duration : Nat
  threshold : BitVec 32

/-- `struct gps_location_s`. The filter only looks at the accuracy, in millimeters. -/
structure Location (D : Type) where
  horizontalAccuracy : BitVec 32
  rest : D
deriving DecidableEq

/-- `struct gps_priv_timer_s`, with a mark for the timer of the filter. -/
structure PrivTimer where
  id : BitVec 16
  filters : Bool
deriving DecidableEq

inductive TimeoutReaction where
  | targetStateTimeout
  | continueInit
  | pollAiding
  | ignored

/-- The part of `struct ubgps_s` for the filter, with the events for locations that were
published, and the reactions to timeouts of the filter. -/
structure Filter (D : Type) where
  locationTimerId : Int
  filtLocation : Location D
  timers : List PrivTimer
  timerIdCnt : BitVec 16
  targetTimerId : Int
  initTimerId : Int
  aidTimerId : Int
  published : List (Location D)
  reactions : List TimeoutReaction

/-- A location comes in, and there is memory for a timer or not; or the timer of the filter runs
out in a state. -/
inductive Input (D : Type) where
  | location (location : Location D) (allocated : Bool)
  | timeout (state : GpsState)

variable {D : Type}

def removeTimer (id : Int) (timers : List PrivTimer) : List PrivTimer :=
  timers.eraseP (fun timer => decide (timer.id = BitVec.ofInt 16 id))

namespace Filter

/-- `__ubgps_set_timer` for the filter. -/
def setTimer (allocated : Bool) (gps : Filter D) : Filter D :=
  if allocated then
    { gps with
      timers := gps.timers ++ [⟨gps.timerIdCnt + 1, true⟩]
      timerIdCnt := gps.timerIdCnt + 1
      locationTimerId := (gps.timerIdCnt + 1).toNat }
  else { gps with locationTimerId := -1 }

def filterLocation (config : Config) (location : Location D) (allocated : Bool)
    (gps : Filter D) : Filter D :=
  if config.duration = 0 ∨ location.horizontalAccuracy / 1000 < config.threshold then
    let gps := { gps with published := gps.published ++ [location] }
    let gps :=
      if 0 ≤ gps.locationTimerId then
        { gps with
          timers := removeTimer gps.locationTimerId gps.timers
          locationTimerId := -1 }
      else gps
    { gps with filtLocation := { gps.filtLocation with horizontalAccuracy := 0 } }
  else
    let gps := if gps.filtLocation.horizontalAccuracy = 0 then gps.setTimer allocated else gps
    if gps.filtLocation.horizontalAccuracy = 0 ∨
        location.horizontalAccuracy < gps.filtLocation.horizontalAccuracy then
      { gps with filtLocation := location }
    else gps

/-- `SM_EVENT_TIMEOUT` in the handlers of the states. -/
def smTimeout (state : GpsState) (timerId : Int) (gps : Filter D) : TimeoutReaction :=
  match state with
  | .powerOff | .reinitialization => .ignored
  | .initialization =>
    if timerId = gps.targetTimerId then .targetStateTimeout
    else if timerId = gps.initTimerId then .continueInit
    else .ignored
  | .coldStart | .searchingFix | .fixAcquired =>
    if timerId = gps.targetTimerId then .targetStateTimeout
    else if timerId = gps.aidTimerId then .pollAiding
    else .ignored

/-- `gps_handle_expired_timer` for the timer of the filter, if there is one. -/
def timeout (state : GpsState) (gps : Filter D) : Filter D :=
  match gps.timers.find? PrivTimer.filters with
  | some timer =>
    { gps with
      timers := gps.timers.eraseP PrivTimer.filters
      reactions := gps.reactions ++ [gps.smTimeout state timer.id.toNat] }
  | none => gps

def step (config : Config) (gps : Filter D) : Input D → Filter D
  | .location location allocated => gps.filterLocation config location allocated
  | .timeout state => gps.timeout state

end Filter

/-- The locations that were collected since the window was opened, and those that were
published. -/
structure Windows (D : Type) where
  collected : List (Location D)
  published : List (Location D)

def mostAccurate (locations : List (Location D)) : Option (Location D) :=
  locations.argmin (fun location => location.horizontalAccuracy.toNat)

/-- A location is good enough, or is collected. When the window ends, the most accurate one is
published. -/
def Windows.step (config : Config) (windows : Windows D) : Input D → Windows D
  | .location location _ =>
    if location.horizontalAccuracy.toNat / 1000 < config.threshold.toNat then
      ⟨[], windows.published ++ [location]⟩
    else { windows with collected := windows.collected ++ [location] }
  | .timeout _ => ⟨[], windows.published ++ (mostAccurate windows.collected).toList⟩

def Filter.running (gps : Filter D) : List PrivTimer := gps.timers.filter PrivTimer.filters

/-- The filter has published what it should; if a window is open, it holds the most accurate
location, and exactly one timer of the filter runs, which it knows. -/
structure Filter.Right (gps : Filter D) (windows : Windows D) : Prop where
  published : gps.published = windows.published
  open_ : ∀ best, mostAccurate windows.collected = some best →
    gps.filtLocation = best ∧ best.horizontalAccuracy ≠ 0 ∧
      ∃ id : BitVec 16, gps.locationTimerId = id.toNat ∧ gps.running = [⟨id, true⟩]
  closed : mostAccurate windows.collected = none →
    gps.filtLocation.horizontalAccuracy = 0 ∧ gps.locationTimerId = -1 ∧ gps.running = []

theorem Filter.Right.timerId_iff {gps : Filter D} {windows : Windows D}
    (right : gps.Right windows) :
    0 ≤ gps.locationTimerId ↔ gps.filtLocation.horizontalAccuracy ≠ 0 ∧
      ∃ timer ∈ gps.timers, timer.filters = true ∧ gps.locationTimerId = timer.id.toNat := by
  cases held : mostAccurate windows.collected with
  | none =>
    obtain ⟨empty, unknown, -⟩ := right.closed held
    simp [empty, unknown]
  | some best =>
    obtain ⟨holds, accuracy, id, known, running⟩ := right.open_ best held
    have listed : (⟨id, true⟩ : PrivTimer) ∈ gps.running := by simp [running]
    obtain ⟨pending, -⟩ := mem_filter.mp listed
    rw [holds]
    exact iff_of_true (by omega) ⟨accuracy, ⟨id, true⟩, pending, rfl, known⟩

def Harmless (config : Config) (state : Filter D × Windows D) : Input D → Prop
  | .location location allocated =>
    if location.horizontalAccuracy.toNat / 1000 < config.threshold.toNat then
      0 ≤ state.1.locationTimerId →
        ∃ timer, state.1.timers.find?
          (fun timer => decide (timer.id = BitVec.ofInt 16 state.1.locationTimerId)) =
            some timer ∧ timer.filters = true
    else config.duration ≠ 0 ∧ location.horizontalAccuracy ≠ 0 ∧
      (state.1.filtLocation.horizontalAccuracy = 0 → allocated = true)
  | .timeout _ => state.1.running = []

theorem mostAccurate_append (collected : List (Location D)) (location : Location D) :
    mostAccurate (collected ++ [location]) =
      match mostAccurate collected with
      | none => some location
      | some best =>
        if location.horizontalAccuracy.toNat < best.horizontalAccuracy.toNat then some location
        else some best := by
  unfold mostAccurate
  rw [argmin_concat]
  cases List.argmin (fun location => location.horizontalAccuracy.toNat) collected <;> rfl

theorem accuracy_lt_iff (config : Config) (location : Location D) :
    location.horizontalAccuracy / 1000 < config.threshold ↔
      location.horizontalAccuracy.toNat / 1000 < config.threshold.toNat := by
  rw [BitVec.lt_def, BitVec.toNat_udiv]
  rfl

theorem removeTimer_running_iff {timers : List PrivTimer} {id : BitVec 16}
    (running : timers.filter PrivTimer.filters = [⟨id, true⟩]) :
    (removeTimer id.toNat timers).filter PrivTimer.filters = [] ↔
      ∃ timer, timers.find? (fun timer => decide (timer.id = BitVec.ofInt 16 id.toNat)) =
        some timer ∧ timer.filters = true := by
  have sameId : BitVec.ofInt 16 id.toNat = id := by simp
  have listed : (⟨id, true⟩ : PrivTimer) ∈ timers := by
    have inFilter : (⟨id, true⟩ : PrivTimer) ∈ timers.filter PrivTimer.filters := by simp [running]
    exact (mem_filter.mp inFilter).1
  unfold removeTimer
  rw [sameId]
  obtain ⟨first, before, after, others, isFirst, rfl, erased⟩ :=
    exists_of_eraseP (p := fun timer => decide (timer.id = id)) listed (by simp)
  have found : (before ++ first :: after).find? (fun timer => decide (timer.id = id)) =
      some first := by
    rw [List.find?_eq_some_iff_append]
    exact ⟨isFirst, before, after, rfl, fun timer member => by simpa using others timer member⟩
  rw [erased, found, filter_append]
  rw [filter_append, filter_cons] at running
  by_cases own : first.filters = true
  · rw [if_pos own] at running
    have lengths := congrArg List.length running
    rw [length_append, length_cons, length_singleton] at lengths
    have none : (before.filter PrivTimer.filters).length = 0 ∧
        (after.filter PrivTimer.filters).length = 0 := by omega
    rw [length_eq_zero_iff, length_eq_zero_iff] at none
    simp [none.1, none.2, own]
  · rw [if_neg own] at running
    simp [running, own]

section Steps

variable {config : Config} {gps : Filter D} {windows : Windows D}

theorem Filter.Right.timeout_iff (right : gps.Right windows) (state : GpsState) :
    (gps.timeout state).Right (windows.step config (.timeout state)) ↔
      Harmless config (gps, windows) (.timeout state) := by
  unfold Harmless
  cases held : mostAccurate windows.collected with
  | none =>
    obtain ⟨empty, unknown, running⟩ := right.closed held
    have none : gps.timers.find? PrivTimer.filters = Option.none := by
      rw [List.find?_eq_none, ← filter_eq_nil_iff]
      exact running
    refine iff_of_true ?_ running
    simp only [Filter.timeout, none, Windows.step, held, Option.toList_none, append_nil]
    exact ⟨right.published, nofun, fun _ => ⟨empty, unknown, running⟩⟩
  | some best =>
    obtain ⟨-, -, id, -, running⟩ := right.open_ best held
    refine iff_of_false ?_ (by simp [running])
    intro next
    -- one location is published, and the source publishes none
    have published := next.published
    have unchanged : (gps.timeout state).published = gps.published := by
      unfold Filter.timeout
      split <;> rfl
    rw [unchanged, right.published] at published
    simp [Windows.step, held] at published

theorem Filter.Right.better_iff (right : gps.Right windows) {location : Location D}
    (better : location.horizontalAccuracy.toNat / 1000 < config.threshold.toNat)
    (allocated : Bool) :
    (gps.filterLocation config location allocated).Right
        (windows.step config (.location location allocated)) ↔
      Harmless config (gps, windows) (.location location allocated) := by
  have published := right.published
  simp only [Filter.filterLocation, if_pos (Or.inr ((accuracy_lt_iff config location).mpr better)),
    Windows.step, Harmless, if_pos better]
  cases held : mostAccurate windows.collected with
  | none =>
    obtain ⟨-, unknown, running⟩ := right.closed held
    refine iff_of_true ?_ (by simp [unknown])
    rw [if_neg (by simp [unknown])]
    exact ⟨congrArg (· ++ [location]) published, nofun, fun _ => ⟨rfl, unknown, running⟩⟩
  | some best =>
    obtain ⟨-, -, id, known, running⟩ := right.open_ best held
    have isKnown : 0 ≤ gps.locationTimerId := by omega
    rw [if_pos isKnown, forall_prop_of_true isKnown, known, ← removeTimer_running_iff running]
    constructor
    · intro next
      exact (next.closed rfl).2.2
    · intro stopped
      exact ⟨congrArg (· ++ [location]) published, nofun, fun _ => ⟨rfl, rfl, stopped⟩⟩

theorem Filter.Right.collected_iff (right : gps.Right windows) {location : Location D}
    (worse : ¬ location.horizontalAccuracy.toNat / 1000 < config.threshold.toNat)
    (allocated : Bool) :
    (gps.filterLocation config location allocated).Right
        (windows.step config (.location location allocated)) ↔
      Harmless config (gps, windows) (.location location allocated) := by
  simp only [Windows.step, Harmless, if_neg worse]
  by_cases disabled : config.duration = 0
  · refine iff_of_false ?_ (fun harmless => harmless.1 disabled)
    intro next
    have published := next.published
    simp only [Filter.filterLocation, if_pos (Or.inl disabled)] at published
    split at published <;> simp [right.published] at published
  · have notBetter : ¬ (config.duration = 0 ∨
        location.horizontalAccuracy / 1000 < config.threshold) := by
      rw [accuracy_lt_iff]
      exact fun either => either.elim disabled worse
    unfold Filter.filterLocation
    rw [if_neg notBetter]
    simp only [ne_eq, disabled, not_false_eq_true, true_and]
    have appended := mostAccurate_append windows.collected location
    cases held : mostAccurate windows.collected with
    | none =>
      obtain ⟨empty, -, running⟩ := right.closed held
      rw [held] at appended
      rw [if_pos empty, forall_prop_of_true empty]
      cases allocated with
      | false =>
        refine iff_of_false ?_ (fun harmless => nomatch harmless.2)
        intro next
        obtain ⟨-, -, id, known, -⟩ := next.open_ location appended
        have unknown : (if (gps.setTimer false).filtLocation.horizontalAccuracy = 0 ∨
            location.horizontalAccuracy < (gps.setTimer false).filtLocation.horizontalAccuracy
            then { gps.setTimer false with filtLocation := location }
            else gps.setTimer false).locationTimerId = -1 := by
          split <;> rfl
        have equal : (id.toNat : Int) = -1 := known.symm.trans unknown
        omega
      | true =>
        have stillEmpty : (gps.setTimer true).filtLocation.horizontalAccuracy = 0 := empty
        rw [if_pos (Or.inl stillEmpty), and_iff_left rfl]
        constructor
        · intro next
          exact (next.open_ location appended).2.1
        · intro accuracy
          refine ⟨right.published, ?_, ?_⟩
          · intro best isBest
            obtain rfl := Option.some.inj (appended.symm.trans isBest)
            refine ⟨rfl, accuracy, gps.timerIdCnt + 1, rfl, ?_⟩
            have started : (gps.setTimer true).running =
                gps.running ++ [⟨gps.timerIdCnt + 1, true⟩] := by
              simp [Filter.running, Filter.setTimer]
            exact started.trans (by rw [running]; rfl)
          · intro none
            nomatch appended.symm.trans none
    | some best =>
      obtain ⟨holds, accuracy, id, known, running⟩ := right.open_ best held
      have isOpen : gps.filtLocation.horizontalAccuracy ≠ 0 := holds ▸ accuracy
      rw [held] at appended
      rw [if_neg isOpen, forall_prop_of_false isOpen, and_true]
      have replaces : (gps.filtLocation.horizontalAccuracy = 0 ∨
            location.horizontalAccuracy < gps.filtLocation.horizontalAccuracy) ↔
          location.horizontalAccuracy.toNat < best.horizontalAccuracy.toNat := by
        rw [or_iff_right isOpen, BitVec.lt_def, holds]
      by_cases moreAccurate : location.horizontalAccuracy.toNat < best.horizontalAccuracy.toNat
      · simp only [if_pos moreAccurate] at appended
        rw [if_pos (replaces.mpr moreAccurate)]
        constructor
        · intro next
          exact (next.open_ location appended).2.1
        · intro locationAccuracy
          refine ⟨right.published, ?_, ?_⟩
          · intro newBest isBest
            obtain rfl := Option.some.inj (appended.symm.trans isBest)
            exact ⟨rfl, locationAccuracy, id, known, running⟩
          · intro none
            nomatch appended.symm.trans none
      · simp only [if_neg moreAccurate] at appended
        rw [if_neg (fun either => moreAccurate (replaces.mp either))]
        refine iff_of_true ⟨right.published, ?_, ?_⟩ ?_
        · intro newBest isBest
          obtain rfl := Option.some.inj (appended.symm.trans isBest)
          exact ⟨holds, accuracy, id, known, running⟩
        · intro none
          nomatch appended.symm.trans none
        · intro zero
          rw [zero] at moreAccurate
          exact accuracy (BitVec.eq_of_toNat_eq (by simpa using moreAccurate))

end Steps

/-- No location is held, and no timer of the filter runs. -/
def Filter.initial (blank : Location D) : Filter D where
  locationTimerId := -1
  filtLocation := { blank with horizontalAccuracy := 0 }
  timers := []
  timerIdCnt := 0
  targetTimerId := -1
  initTimerId := -1
  aidTimerId := -1
  published := []
  reactions := []

theorem Filter.initial_right (blank : Location D) : (Filter.initial blank).Right ⟨[], []⟩ :=
  ⟨rfl, nofun, fun _ => ⟨rfl, rfl, rfl⟩⟩

/-- The filter and its purpose, with the same input. -/
def both (config : Config) (state : Filter D × Windows D) (input : Input D) :
    Filter D × Windows D :=
  (state.1.step config input, state.2.step config input)

theorem Filter.Right.step_iff {config : Config} {state : Filter D × Windows D}
    (right : state.1.Right state.2) (input : Input D) :
    (both config state input).1.Right (both config state input).2 ↔
      Harmless config state input := by
  cases input with
  | location location allocated =>
    by_cases better : location.horizontalAccuracy.toNat / 1000 < config.threshold.toNat
    · exact right.better_iff better allocated
    · exact right.collected_iff better allocated
  | timeout timeoutState => exact right.timeout_iff timeoutState

/-- The filter is right in all states of a run exactly if the run is harmless. In particular, the
timer of the filter never runs out. -/
theorem filter_right_iff (config : Config) (gps : Filter D) (windows : Windows D)
    (right : gps.Right windows) (inputs : List (Input D)) :
    (∀ reached, reached <+: inputs →
      (reached.foldl (both config) (gps, windows)).1.Right
          (reached.foldl (both config) (gps, windows)).2 ∧
        (0 ≤ (reached.foldl (both config) (gps, windows)).1.locationTimerId ↔
          (reached.foldl (both config) (gps, windows)).1.filtLocation.horizontalAccuracy ≠ 0 ∧
            ∃ timer ∈ (reached.foldl (both config) (gps, windows)).1.timers,
              timer.filters = true ∧
                (reached.foldl (both config) (gps, windows)).1.locationTimerId =
                  timer.id.toNat)) ↔
      Guarded (both config) (Harmless config) (gps, windows) inputs := by
  rw [← forall_prefix_iff_guarded_of_good
    (fun state : Filter D × Windows D => state.1.Right state.2)
    (fun state => state.1.Right state.2) (fun _ holds => holds)
    (fun _ input holds harmless => (holds.step_iff input).mpr harmless)
    (fun _ input holds next => (holds.step_iff input).mp next) right inputs]
  constructor
  · intro all reached isPrefix
    exact (all reached isPrefix).1
  · intro all reached isPrefix
    exact ⟨all reached isPrefix, (all reached isPrefix).timerId_iff⟩

/-- Two locations are collected, and the third one, with 50 m, ends the window. -/
theorem filter_right_iff_better :
    let inputs : List (Input Unit) := [.location ⟨200000, ()⟩ true, .location ⟨150000, ()⟩ true,
      .location ⟨50000, ()⟩ true]
    let reached := inputs.foldl (both ⟨10, 100⟩) (Filter.initial ⟨0, ()⟩, ⟨[], []⟩)
    reached.1.Right reached.2 ∧ reached.1.published = [⟨50000, ()⟩] := by
  have all := (filter_right_iff ⟨10, 100⟩ (Filter.initial ⟨0, ()⟩) ⟨[], []⟩
    (Filter.initial_right ⟨0, ()⟩) [.location ⟨200000, ()⟩ true, .location ⟨150000, ()⟩ true,
      .location ⟨50000, ()⟩ true]).mpr
    ⟨⟨by decide, by decide, fun _ => rfl⟩, ⟨by decide, by decide, fun _ => rfl⟩,
      fun _ => ⟨⟨1, true⟩, by decide, rfl⟩, trivial⟩
  exact ⟨(all _ prefix_rfl).1, by decide⟩

/-- Two locations are collected, and nothing is published when the timer runs out. The next
location does not open a window: the timer is still taken to run. -/
theorem filter_publishes_nothing :
    let inputs : List (Input Unit) := [.location ⟨200000, ()⟩ true, .location ⟨150000, ()⟩ true,
      .timeout .fixAcquired, .location ⟨180000, ()⟩ true]
    let reached := inputs.foldl (both ⟨10, 100⟩) (Filter.initial ⟨0, ()⟩, ⟨[], []⟩)
    reached.1.published = [] ∧ reached.2.published = [⟨150000, ()⟩] ∧
      reached.1.locationTimerId = 1 ∧ reached.1.filtLocation.horizontalAccuracy = 150000 ∧
      reached.1.timers = [] := by
  decide

end Thingsee.Gps.AccuracyFilter
