import Thingsee.Profiles.OrderedCauses
import Thingsee.Profiles.Thresholds

/-!
Owns causes without an order id: what the counters of a cause and its samples say about when
it is triggered.

The history of a cause is not in the source. A run has everything that happens to a cause from
its initialisation on, until it is un-initialised: its samples, its re-initialisations, and
whatever leaves all its fields but the value alone.
-/

namespace Thingsee.Profiles

open Support

variable {n : Nat} {E S P T V : Type}

namespace Profile

variable (profile : Profile n E S P T V)

/-- `threshold_types`, in the order of the loop of `init_thresholds`. -/
def thresholdTypes : List ThresholdType :=
  [.isOneOf, .isGt, .isLt, .isNotIn, .isAny, .isInsideGeo]

/-- `init_thresholds`: `add_threshold` puts what it makes of the member of each type at the end
of the list, if there is one. -/
def initThresholds (made : ThresholdType → Option T) : List T :=
  thresholdTypes.filterMap made

/-- The thresholds come from a parsed profile, where `add_threshold` gives a function of its
own to a threshold for `isInsideGeo` alone. -/
def Parsed (thresholds : List T) : Prop :=
  ∃ made : ThresholdType → Option T, thresholds = initThresholds made ∧
    ∀ type threshold, made type = some threshold → profile.isGeofence threshold = true →
      type = .isInsideGeo

/-- Nothing is behind a threshold that replaces the value. -/
def GeofenceLast : List T → Prop
  | [] => True
  | threshold :: rest => (profile.isGeofence threshold = true → rest = []) ∧ GeofenceLast rest

theorem geofenceLast_append {front back : List T}
    (plain : ∀ threshold ∈ front, profile.isGeofence threshold = false)
    (last : profile.GeofenceLast back) : profile.GeofenceLast (front ++ back) := by
  induction front with
  | nil => exact last
  | cons threshold rest ih =>
    obtain ⟨first, others⟩ := List.forall_mem_cons.mp plain
    exact ⟨fun own => absurd (first.symm.trans own) (by decide), ih others⟩

/-- `isInsideGeo` is looked up last. -/
theorem Parsed.geofenceLast {thresholds : List T} (parsed : profile.Parsed thresholds) :
    profile.GeofenceLast thresholds := by
  obtain ⟨made, rfl, own⟩ := parsed
  have split : initThresholds made =
      [.isOneOf, .isGt, .isLt, .isNotIn, .isAny].filterMap made ++
        [ThresholdType.isInsideGeo].filterMap made := by
    rw [← List.filterMap_append]
    rfl
  rw [split]
  apply geofenceLast_append
  · intro threshold member
    obtain ⟨type, listed, isMade⟩ := List.mem_filterMap.mp member
    refine Bool.eq_false_iff.mpr (fun geofence => ?_)
    rw [own type threshold isMade geofence] at listed
    exact absurd listed (by decide)
  · cases insideGeo : made .isInsideGeo with
    | none => simp [insideGeo, GeofenceLast]
    | some threshold => simp [insideGeo, GeofenceLast]

def holds (bias : Value V) (seen : Seen V) (threshold : T) : Bool :=
  if profile.isGeofence threshold then profile.geofence threshold seen == some true
  else profile.check threshold bias seen

def inLimits (c : Fin n) (bias : Value V) (seen : Seen V) : Bool :=
  (profile.cause c).thresholds.all (profile.holds bias seen) != (profile.cause c).negate

end Profile

/-- The samples of a cause: the bias they are relative to, and whether it is still to be
measured, the number of samples that have been counted since the initialisation, and whether
they were in the limits since the last one or re-initialisation, the last sample first. -/
structure History (V : Type) where
  bias : Value V
  awaitsBias : Bool
  counted : Nat
  limits : List Bool

namespace History

variable (profile : Profile n E S P T V) (c : Fin n)

def fresh (bias : Value V) : History V := ⟨bias, profile.isActiveRelative c, 0, []⟩

def Over (history : History V) : Prop :=
  (profile.cause c).count ≠ 0 ∧ (history.counted : Int) = (profile.cause c).count

instance (history : History V) : Decidable (history.Over profile c) :=
  inferInstanceAs (Decidable (_ ∧ _))

def renewed (history : History V) : History V :=
  if history.Over profile c then fresh profile c history.bias else { history with limits := [] }

/-- A sample. The first one of an active relative cause is the bias. -/
def sampled (value : Value V) (seen : Seen V) (history : History V) : History V :=
  if history.awaitsBias then { history with bias := value, awaitsBias := false }
  else
    { history with
      counted := history.counted + 1
      limits := profile.inLimits c history.bias seen :: history.limits }

def needed : Nat := max 1 (profile.cause c).thresholdCount.toNat

/-- The last samples were all in the limits, and there were as many as needed. -/
def Within (history : History V) : Prop :=
  needed profile c ≤ history.limits.length ∧
    ∀ inside ∈ history.limits.take (needed profile c), inside = true

end History

namespace Engine

variable [DecidableEq E] [DecidableEq S] (profile : Profile n E S P T V) (c : Fin n)

/-- What happens to a cause from its initialisation on. -/
inductive Run : Engine n E S P V → History V → Prop where
  | init (env : Env n) (engine : Engine n E S P V) :
      Run (initCause profile env c engine).1 (.fresh profile c (engine.cause c).bias)
  | again {engine : Engine n E S P V} {history : History V} (env : Env n) :
      Run engine history → Run (reinitCause profile env c engine).1 (history.renewed profile c)
  | sample {engine : Engine n E S P V} {history : History V} (env : Env n) :
      Run engine history → ¬ history.Over profile c →
      Run (flagged c (judged profile env c engine))
        (history.sampled profile c (engine.cause c).value (engine.view (engine.cause c).value))
  | other {engine after : Engine n E S P V} {history : History V} :
      Run engine history →
      after.cause c = { engine.cause c with value := (after.cause c).value } → Run after history

end Engine

/-- The samples in the limits since the last one that was not. -/
def streak : List Bool → Nat
  | true :: rest => streak rest + 1
  | _ => 0

theorem le_streak_iff (count : Nat) (limits : List Bool) :
    count ≤ streak limits ↔
      count ≤ limits.length ∧ ∀ inside ∈ limits.take count, inside = true := by
  induction limits generalizing count with
  | nil => simp [streak]
  | cons inside rest ih =>
    cases count with
    | zero => simp
    | succ count =>
      cases inside with
      | false => simp [streak]
      | true => simp [streak, ih]

namespace Engine

variable {profile : Profile n E S P T V} {c : Fin n}

theorem History.within_iff (history : History V) :
    history.Within profile c ↔ History.needed profile c ≤ streak history.limits :=
  (le_streak_iff _ _).symm

theorem foldl_checkThreshold_within {thresholds : List T} (last : profile.GeofenceLast thresholds)
    (engine : Engine n E S P V) (within : Bool) :
    (thresholds.foldl (checkThreshold profile c) ⟨engine, within⟩).within =
      (within && thresholds.all
        (profile.holds (engine.cause c).bias (engine.view (engine.cause c).value))) := by
  induction thresholds generalizing within with
  | nil => simp
  | cons threshold rest ih =>
    obtain ⟨atEnd, restLast⟩ := last
    rw [List.foldl_cons, List.all_cons]
    by_cases isGeofence : profile.isGeofence threshold = true
    · rw [atEnd isGeofence]
      unfold checkThreshold Profile.holds
      rw [if_pos isGeofence, if_pos isGeofence]
      cases profile.geofence threshold (engine.view (engine.cause c).value) with
      | none => simp
      | some inside => cases inside <;> simp
    · have first : checkThreshold profile c ⟨engine, within⟩ threshold =
          ⟨engine, profile.holds (engine.cause c).bias (engine.view (engine.cause c).value)
            threshold && within⟩ := by
        unfold checkThreshold Profile.holds
        rw [if_neg isGeofence, if_neg isGeofence]
      rw [first, ih restLast]
      rw [Bool.and_comm (profile.holds _ _ threshold), Bool.and_assoc]

/-- What an evaluation does to the fields of a cause without an order id, and whether it
triggers the cause. -/
def evaluated (conf : CauseConf T) (inside : Bool) (dyn : CauseDyn V) : CauseDyn V × Bool :=
  if dyn.measureBias then ({ dyn with bias := dyn.value, measureBias := false }, false)
  else if 0 < dyn.measurementCounter then
    if dyn.measurementCounter - 1 = 0 then
      ({ dyn with
          measurementCounter := dyn.measurementCounter - 1
          initialised := false
          held := false
          calls := .uninit :: dyn.calls }, true)
    else ({ dyn with measurementCounter := dyn.measurementCounter - 1 }, false)
  else if conf.thresholds = [] then (dyn, false)
  else if inside then
    let counter :=
      if 0 < dyn.thresholdCounter then dyn.thresholdCounter - 1 else dyn.thresholdCounter
    ({ dyn with thresholdCounter := counter }, !decide (0 < dyn.thresholdCounter ∧ 0 < counter))
  else ({ dyn with thresholdCounter := conf.thresholdCount }, false)

structure Counts (profile : Profile n E S P T V) (c : Fin n) (dyn : CauseDyn V)
    (history : History V) : Prop where
  bias : dyn.bias = history.bias
  awaits : dyn.measureBias = history.awaitsBias
  unbiased : history.awaitsBias = true → history.counted = 0 ∧ history.limits = []
  measured : (profile.cause c).count ≠ 0 →
    (history.counted : Int) ≤ (profile.cause c).count ∧
      dyn.measurementCounter = (profile.cause c).count - history.counted ∧
      (dyn.triggered = true ↔ (history.counted : Int) = (profile.cause c).count) ∧
      ((history.counted : Int) = (profile.cause c).count → dyn.initialised = false)
  limited : (profile.cause c).count = 0 →
    dyn.measurementCounter = -1 ∧
      ((profile.cause c).thresholds ≠ [] → dyn.thresholdCounter =
        max 0 ((profile.cause c).thresholdCount - streak history.limits)) ∧
      (dyn.triggered = true ↔ (profile.cause c).thresholds ≠ [] ∧
        History.needed profile c ≤ streak history.limits)

theorem Counts.withValue {dyn : CauseDyn V} {history : History V}
    (counts : Counts profile c dyn history) (value : Value V) :
    Counts profile c { dyn with value := value } history :=
  ⟨counts.bias, counts.awaits, counts.unbiased, counts.measured, counts.limited⟩

theorem needed_pos (profile : Profile n E S P T V) (c : Fin n) : 0 < History.needed profile c :=
  Nat.lt_of_lt_of_le Nat.zero_lt_one (Nat.le_max_left _ _)

section Steps

variable (positive : 0 ≤ (profile.cause c).count)
  (thresholds : 0 ≤ (profile.cause c).thresholdCount)
include positive thresholds

theorem counts_fresh [DecidableEq S] (env : Env n) (engine : Engine n E S P V) :
    Counts profile c ((initCause profile env c engine).1.cause c)
      (.fresh profile c (engine.cause c).bias) := by
  have needs := needed_pos profile c
  simp only [initCause, setLinked, setCause, Function.update_self, History.fresh]
  constructor
  · rfl
  · rfl
  · exact fun _ => ⟨rfl, rfl⟩
  · intro counted
    dsimp only
    rw [if_neg counted]
    refine ⟨by omega, by omega, ?_, fun none => absurd none.symm counted⟩
    simp only [Bool.false_eq_true, false_iff]
    exact fun none => counted none.symm
  · intro uncounted
    rw [if_pos uncounted]
    refine ⟨rfl, fun _ => ?_, ?_⟩
    · simp only [streak]
      omega
    · simp only [streak, Bool.false_eq_true, false_iff]
      omega

theorem Counts.again [DecidableEq S] {engine : Engine n E S P V} {history : History V}
    (counts : Counts profile c (engine.cause c) history) (env : Env n) :
    Counts profile c ((reinitCause profile env c engine).1.cause c)
      (history.renewed profile c) := by
  have needs := needed_pos profile c
  unfold reinitCause
  by_cases finished : (engine.cause c).measurementCounter = 0
  · -- Only a cause whose measurements have all been counted is at zero.
    have isOver : history.Over profile c := by
      constructor
      · intro uncounted
        have never := (counts.limited uncounted).1
        omega
      · by_cases counted : (profile.cause c).count = 0
        · have never := (counts.limited counted).1
          omega
        · have left := (counts.measured counted).2.1
          omega
    have fresh := counts_fresh positive thresholds env engine
    rw [if_pos finished]
    unfold History.renewed
    rw [if_pos isOver, ← counts.bias]
    exact fresh
  · have notOver : ¬ history.Over profile c := by
      rintro ⟨counted, all⟩
      have left := (counts.measured counted).2.1
      omega
    rw [if_neg finished]
    unfold History.renewed
    rw [if_neg notOver]
    simp only [setCause, Function.update_self]
    constructor
    · exact counts.bias
    · exact counts.awaits
    · exact fun awaits => ⟨(counts.unbiased awaits).1, rfl⟩
    · intro counted
      obtain ⟨bound, left, _, finished⟩ := counts.measured counted
      refine ⟨bound, left, ?_, finished⟩
      simp only [Bool.false_eq_true, false_iff]
      exact fun all => notOver ⟨counted, all⟩
    · intro uncounted
      refine ⟨(counts.limited uncounted).1, fun _ => ?_, ?_⟩
      · simp only [streak]
        omega
      · simp only [streak, Bool.false_eq_true, false_iff]
        omega

theorem Counts.sampled {dyn : CauseDyn V} {history : History V}
    (counts : Counts profile c dyn history) (notOver : ¬ history.Over profile c) (seen : Seen V) :
    Counts profile c
      { (evaluated (profile.cause c) (profile.inLimits c dyn.bias seen) dyn).1 with
        triggered := (evaluated (profile.cause c) (profile.inLimits c dyn.bias seen) dyn).2 }
      (history.sampled profile c dyn.value seen) := by
  have needs := needed_pos profile c
  unfold History.sampled
  cases awaits : history.awaitsBias with
  | true =>
    have measures : dyn.measureBias = true := counts.awaits.trans awaits
    obtain ⟨none, noLimits⟩ := counts.unbiased awaits
    unfold evaluated
    rw [if_pos measures, if_pos rfl]
    refine ⟨rfl, rfl, fun again => by simp at again, ?_, ?_⟩
    · intro counted
      obtain ⟨bound, left, _, finished⟩ := counts.measured counted
      refine ⟨bound, left, ?_, finished⟩
      simp only [Bool.false_eq_true, false_iff]
      exact fun all => notOver ⟨counted, all⟩
    · intro uncounted
      obtain ⟨off, counter, _⟩ := counts.limited uncounted
      refine ⟨off, counter, ?_⟩
      simp only [noLimits, streak, Bool.false_eq_true, false_iff]
      omega
  | false =>
    have measures : dyn.measureBias = false := counts.awaits.trans awaits
    unfold evaluated
    rw [← counts.bias, measures, if_neg Bool.false_ne_true, if_neg Bool.false_ne_true]
    by_cases uncounted : (profile.cause c).count = 0
    · obtain ⟨off, counter, _⟩ := counts.limited uncounted
      rw [if_neg (by omega)]
      by_cases noThresholds : (profile.cause c).thresholds = []
      · rw [if_pos noThresholds]
        refine ⟨rfl, measures, fun again => by simp at again, ?_, ?_⟩
        · exact fun counted => absurd uncounted counted
        · intro _
          refine ⟨off, fun some => absurd noThresholds some, ?_⟩
          simp [noThresholds]
      · rw [if_neg noThresholds]
        have startCounter := counter noThresholds
        cases inside : profile.inLimits c dyn.bias seen with
        | true =>
          rw [if_pos rfl]
          refine ⟨rfl, rfl, fun again => by simp at again, ?_, ?_⟩
          · exact fun counted => absurd uncounted counted
          · intro _
            refine ⟨off, fun _ => ?_, ?_⟩
            · simp only [streak]
              omega
            · simp only [streak, History.needed, Bool.not_eq_true', decide_eq_false_iff_not]
              constructor
              · exact fun _ => ⟨noThresholds, by omega⟩
              · rintro ⟨_, enough⟩
                omega
        | false =>
          rw [if_neg Bool.false_ne_true]
          refine ⟨rfl, rfl, fun again => by simp at again, ?_, ?_⟩
          · exact fun counted => absurd uncounted counted
          · intro _
            refine ⟨off, fun _ => ?_, ?_⟩
            · simp only [streak]
              omega
            · simp only [streak, Bool.false_eq_true, false_iff]
              omega
    · obtain ⟨bound, left, _, _⟩ := counts.measured uncounted
      have below : (history.counted : Int) ≠ (profile.cause c).count :=
        fun all => notOver ⟨uncounted, all⟩
      rw [if_pos (by omega)]
      by_cases lastOne : dyn.measurementCounter - 1 = 0
      · rw [if_pos lastOne]
        refine ⟨rfl, rfl, fun again => by simp at again, ?_, ?_⟩
        · intro _
          dsimp only
          refine ⟨by omega, by omega, ?_, fun _ => rfl⟩
          simp only [true_iff]
          omega
        · exact fun zero => absurd zero uncounted
      · rw [if_neg lastOne]
        refine ⟨rfl, rfl, fun again => by simp at again, ?_, ?_⟩
        · intro _
          dsimp only
          refine ⟨by omega, by omega, ?_, fun all => by omega⟩
          simp only [Bool.false_eq_true, false_iff]
          omega
        · exact fun zero => absurd zero uncounted

end Steps

variable [DecidableEq E] [DecidableEq S]

omit [DecidableEq E] in
theorem uninitCause_cause (profile : Profile n E S P T V) (c : Fin n)
    (engine : Engine n E S P V) :
    ∃ value, (uninitCause profile c engine).1.cause c =
      { engine.cause c with
        initialised := false
        held := false
        calls := .uninit :: (engine.cause c).calls
        value := value } := by
  have freed (before : Engine n E S P V) :
      ∃ value, (before.freeValuearray c).cause c = { before.cause c with value := value } :=
    ⟨_, (freeValuearray_same c before).2 c⟩
  obtain ⟨value, same⟩ := freed
    ((engine.setLinked (profile.stateOfCause c)
      ((engine.linked (profile.stateOfCause c)).rem n c)).setCause c
      { engine.cause c with
        initialised := false, held := false, calls := .uninit :: (engine.cause c).calls })
  refine ⟨value, same.trans ?_⟩
  simp [setCause]

section

variable (unordered : (profile.cause c).orderId = 0)
include unordered

theorem countThreshold_unordered (env : Env n) (engine : Engine n E S P V) {counter : Int}
    (counts : counter = if 0 < (engine.cause c).thresholdCounter then
      (engine.cause c).thresholdCounter - 1 else (engine.cause c).thresholdCounter) :
    countThreshold profile env c engine =
      (engine.setCause c { engine.cause c with thresholdCounter := counter },
        !decide (0 < (engine.cause c).thresholdCounter ∧ 0 < counter)) := by
  unfold countThreshold
  dsimp only
  rw [← counts, if_pos unordered]
  by_cases more : 0 < (engine.cause c).thresholdCounter ∧ 0 < counter
  · rw [if_pos more, decide_eq_true more]
    rfl
  · rw [if_neg more, decide_eq_false more]
    rfl

theorem judged_cause (last : profile.GeofenceLast (profile.cause c).thresholds) (env : Env n)
    (engine : Engine n E S P V) :
    ∃ value, (judged profile env c engine).1.cause c =
        { (evaluated (profile.cause c) (profile.inLimits c (engine.cause c).bias
            (engine.view (engine.cause c).value)) (engine.cause c)).1 with value := value } ∧
      (judged profile env c engine).2 =
        (evaluated (profile.cause c) (profile.inLimits c (engine.cause c).bias
          (engine.view (engine.cause c).value)) (engine.cause c)).2 := by
  let entry : Entry n E S V := .evaluated c (engine.view (engine.cause c).value)
  have unrecorded : (engine.record entry).cause = engine.cause := rfl
  have seen : (engine.record entry).view (engine.cause c).value =
      engine.view (engine.cause c).value := rfl
  unfold judged checkThresholds evaluated
  rw [unrecorded]
  by_cases measures : (engine.cause c).measureBias = true
  · rw [if_pos measures, if_pos measures]
    exact ⟨(engine.cause c).value, by simp [setCause], rfl⟩
  · rw [if_neg measures, if_neg measures]
    by_cases counts : 0 < (engine.cause c).measurementCounter
    · rw [if_pos counts, if_pos counts]
      by_cases lastOne : (engine.cause c).measurementCounter - 1 = 0
      · rw [if_pos lastOne, if_pos lastOne]
        obtain ⟨value, freed⟩ := uninitCause_cause profile c ((engine.record entry).setCause c
          { engine.cause c with
            measurementCounter := (engine.cause c).measurementCounter - 1 })
        exact ⟨value, freed.trans (by simp [setCause]), rfl⟩
      · rw [if_neg lastOne, if_neg lastOne]
        exact ⟨(engine.cause c).value, by simp [setCause], rfl⟩
    · rw [if_neg counts, if_neg counts]
      by_cases noThresholds : (profile.cause c).thresholds = []
      · rw [if_pos noThresholds, if_pos noThresholds]
        exact ⟨(engine.cause c).value, by rw [unrecorded], rfl⟩
      · rw [if_neg noThresholds, if_neg noThresholds]
        have within := foldl_checkThreshold_within (c := c) last (engine.record entry) true
        have same := (foldl_checkThreshold_same profile c (profile.cause c).thresholds
          ⟨engine.record entry, true⟩).2 c
        rw [unrecorded, seen, Bool.true_and] at within
        rw [unrecorded] at same
        generalize (profile.cause c).thresholds.foldl (checkThreshold profile c)
          ⟨engine.record entry, true⟩ = checked at within same ⊢
        generalize (checked.engine.cause c).value = value at same
        unfold Profile.inLimits
        rw [← within]
        by_cases outside : checked.within = (profile.cause c).negate
        · rw [if_pos outside, if_neg (by simp [unordered]), if_neg (by simp [outside])]
          exact ⟨value, by simp [setCause, same], rfl⟩
        · rw [if_neg outside, if_pos (by simp [outside]),
            countThreshold_unordered unordered env _ rfl,
            same]
          exact ⟨value, by simp [setCause], rfl⟩

theorem Run.counts (last : profile.GeofenceLast (profile.cause c).thresholds)
    (positive : 0 ≤ (profile.cause c).count) (thresholds : 0 ≤ (profile.cause c).thresholdCount)
    {engine : Engine n E S P V} {history : History V} (run : Run profile c engine history) :
    Counts profile c (engine.cause c) history := by
  induction run with
  | init env engine => exact counts_fresh positive thresholds env engine
  | again env _ ih => exact ih.again positive thresholds env
  | @sample engine history env _ notOver ih =>
    obtain ⟨value, fields, result⟩ := judged_cause unordered last env engine
    have sampled := ih.sampled positive thresholds notOver
      (engine.view (engine.cause c).value)
    unfold flagged
    simp only [setCause, Function.update_self]
    rw [fields, result]
    exact sampled.withValue value
  | @other engine after history _ same ih =>
    rw [same]
    exact ih.withValue _

end

variable [DecidableEq P]

omit [DecidableEq P] in
/-- A cause with a measurement count is triggered exactly by the sample that completes it, and is
then un-initialised. A cause without one is triggered exactly while it has thresholds, and the
samples since its last initialisation or re-initialisation end with as many in the limits as
its threshold count, and at least one. -/
theorem counted_causes_trigger (unordered : (profile.cause c).orderId = 0)
    (parsed : profile.Parsed (profile.cause c).thresholds)
    (positive : 0 ≤ (profile.cause c).count) (thresholds : 0 ≤ (profile.cause c).thresholdCount)
    {engine : Engine n E S P V} {history : History V} (run : Run profile c engine history) :
    ((profile.cause c).count ≠ 0 →
      ((engine.cause c).triggered = true ↔ (history.counted : Int) = (profile.cause c).count) ∧
        ((history.counted : Int) = (profile.cause c).count →
          (engine.cause c).initialised = false)) ∧
      ((profile.cause c).count = 0 →
        ((engine.cause c).triggered = true ↔
          (profile.cause c).thresholds ≠ [] ∧ history.Within profile c)) := by
  have counts := run.counts unordered parsed.geofenceLast positive thresholds
  constructor
  · intro counted
    obtain ⟨_, _, triggers, finished⟩ := counts.measured counted
    exact ⟨triggers, finished⟩
  · intro uncounted
    rw [History.within_iff]
    exact (counts.limited uncounted).2.2

attribute [local instance] neZero_one

theorem oneCause_mem : ∀ (c : Fin 1) (e : Unit), c ∈ [0] ↔ () = e := by
  intro c e
  cases e
  revert c
  decide

/-- One cause that is triggered by the second value in a row that is more than 2 above the
first one. -/
def oneCause : Profile 1 Unit Unit Unit Nat Nat where
  cause := fun _ =>
    { sId := 1
      orderId := 0
      interval := 1000
      count := 0
      thresholdCount := 2
      negate := false
      relative := true
      thresholds := [2]
      minType := .uint32
      holds := true }
  eventOf := fun _ => ()
  stateOf := fun _ => ()
  purposeOf := fun _ => ()
  causes := fun _ => [0]
  events := fun _ => [()]
  states := fun _ => [()]
  purposes := [()]
  gotoStId := fun _ => -1
  gotoPuId := fun _ => -1
  stId := fun _ => 0
  isGlobal := fun _ => false
  puId := fun _ => 0
  initStId := fun _ => 0
  initPuId := 0
  check := fun limit bias seen =>
    match seen.contents, bias.data with
    | .raw value, .raw start => decide (start + limit < value)
    | _, _ => false
  isGeofence := fun _ => false
  geofence := fun _ _ => none
  ofBool := fun inside => if inside then 1 else 0
  mem_causes := oneCause_mem
  mem_events := fun inner outer => by simp
  mem_states := fun inner outer => by simp

/-- A sample of the cause, with its history. -/
def sampleOne (value : Nat) (state : Engine 1 Unit Unit Unit Nat × History Nat) :
    Engine 1 Unit Unit Unit Nat × History Nat :=
  let before := state.1.deliver 0 (.plain .uint32 value)
  (flagged 0 (judged oneCause Machine.allStart 0 before),
    state.2.sampled oneCause 0 (before.cause 0).value (before.view (before.cause 0).value))

theorem sampleOne_run {state : Engine 1 Unit Unit Unit Nat × History Nat}
    (run : Run oneCause 0 state.1 state.2) (value : Nat) :
    Run oneCause 0 (sampleOne value state).1 (sampleOne value state).2 := by
  have delivered := Machine.deliver_same 0 state.1 (.plain .uint32 value)
  exact .sample Machine.allStart (run.other (delivered.2.2 0)) (fun finished => finished.1 rfl)

def oneStart : Engine 1 Unit Unit Unit Nat × History Nat :=
  ((initCause oneCause Machine.allStart 0 (Machine.initial 1 Unit Unit Unit 0).engine).1,
    .fresh oneCause 0 ⟨.double, .raw 0⟩)

theorem counted_causes_trigger_second :
    let state := [5, 8, 9].foldl (fun state value => sampleOne value state) oneStart
    ((oneCause.cause 0).count ≠ 0 →
      ((state.1.cause 0).triggered = true ↔
          (state.2.counted : Int) = (oneCause.cause 0).count) ∧
        ((state.2.counted : Int) = (oneCause.cause 0).count →
          (state.1.cause 0).initialised = false)) ∧
      ((oneCause.cause 0).count = 0 →
        ((state.1.cause 0).triggered = true ↔
          (oneCause.cause 0).thresholds ≠ [] ∧ state.2.Within oneCause 0)) :=
  counted_causes_trigger rfl
    (show oneCause.Parsed [2] from
      ⟨fun type => if type = .isGt then some 2 else none, rfl, fun _ _ _ own => nomatch own⟩)
    (by decide) (by decide)
    (sampleOne_run (sampleOne_run (sampleOne_run (.init Machine.allStart _) 5) 8) 9)

end Engine

end Thingsee.Profiles
