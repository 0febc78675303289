import Thingsee.Profiles.Triggers
import Thingsee.Profiles.Visits

/-!
Owns the order of the causes of one event: what a sample says about its cause, how that
advances the order, and what the flags and counters of the causes are when the event has
advanced so far.

`checkThresholds_stands` is for samples that do not count the last measurement of their
cause.
-/

namespace Thingsee.Profiles

open Support List

variable {n : Nat} {E S P T V : Type}

/-- What a sample says about its cause: nothing yet, that the value is out of the limits,
or that the cause has been seen often enough. -/
inductive Outcome where
  | nothing
  | outside
  | hit

/-- How many causes have been hit in order, when `hits` have been before a sample of the
cause with this order id. -/
def advance (order hits : Int) : Outcome → Int
  | .nothing => hits
  | .outside => 0
  | .hit => if order = hits + 1 then order else 0

/-- How many causes have been hit in order, after samples of causes with these order ids.
The last sample is the first item. -/
def progress : List (Int × Outcome) → Int
  | [] => 0
  | (order, outcome) :: rest => advance order (progress rest) outcome

/-- The causes of an event carry the order ids from 1 up, each once. -/
def Ordered (profile : Profile n E S P T V) (e : E) : Prop :=
  ((profile.causes e).map (fun c => (profile.cause c).orderId)).Perm
    ((List.range (profile.causes e).length).map (fun index : Nat => (index : Int) + 1))

instance Ordered.decidable (profile : Profile n E S P T V) (e : E) :
    Decidable (Ordered profile e) :=
  inferInstanceAs (Decidable (List.Perm _ _))

def total (profile : Profile n E S P T V) (e : E) : Int :=
  (profile.causes e).length

section Orders

variable {profile : Profile n E S P T V} {e : E}

theorem Ordered.mem_iff (ordered : Ordered profile e) (order : Int) :
    (∃ c, profile.eventOf c = e ∧ (profile.cause c).orderId = order) ↔
      1 ≤ order ∧ order ≤ total profile e := by
  have same := List.Perm.mem_iff ordered (a := order)
  simp only [mem_map, mem_range, profile.mem_causes] at same
  rw [same]
  unfold total
  constructor
  · rintro ⟨index, short, rfl⟩
    omega
  · rintro ⟨positive, small⟩
    exact ⟨(order - 1).toNat, by omega, by omega⟩

theorem Ordered.bounds (ordered : Ordered profile e) {c : Fin n} (isCause : profile.eventOf c = e) :
    1 ≤ (profile.cause c).orderId ∧ (profile.cause c).orderId ≤ total profile e :=
  (ordered.mem_iff _).mp ⟨c, isCause, rfl⟩

theorem Ordered.injective (ordered : Ordered profile e) {c d : Fin n}
    (isCause : profile.eventOf c = e) (isOther : profile.eventOf d = e)
    (same : (profile.cause c).orderId = (profile.cause d).orderId) : c = d := by
  have nodup : ((profile.causes e).map (fun c => (profile.cause c).orderId)).Nodup := by
    rw [List.Perm.nodup_iff ordered]
    apply List.Nodup.map _ nodup_range
    intro first second equal
    dsimp only at equal
    omega
  exact inj_on_of_nodup_map nodup ((profile.mem_causes c e).mpr isCause)
    ((profile.mem_causes d e).mpr isOther) same

end Orders

namespace Engine

variable (profile : Profile n E S P T V) (c : Fin n) (engine : Engine n E S P V)

/-- The outcome of a sample that has been stored in its cause. -/
def outcome (c : Fin n) (engine : Engine n E S P V) : Outcome :=
  let conf := profile.cause c
  let dyn := engine.cause c
  if dyn.measureBias then .nothing
  else if 0 < dyn.measurementCounter then
    if dyn.measurementCounter = 1 then .hit else .nothing
  else if conf.thresholds = [] then .nothing
  else if (conf.thresholds.foldl (checkThreshold profile c) ⟨engine, true⟩).within = conf.negate
    then .outside
  else if 1 < dyn.thresholdCounter then .nothing
  else .hit

/-- What holds of the causes of an event that has been hit in order `hits` times. -/
structure Stands (e : E) (hits : Int) (engine : Engine n E S P V) : Prop where
  expected : engine.expectedOrderId e = hits + 1
  range : 0 ≤ hits ∧ hits ≤ total profile e
  order : ∀ c, profile.eventOf c = e →
    ((engine.cause c).triggered = true ↔ (profile.cause c).orderId ≤ hits)
  left : ∀ c, profile.eventOf c = e → (engine.cause c).measurementCounter ≠ 0
  unbiased : ∀ c, profile.eventOf c = e → (engine.cause c).triggered = true →
    (engine.cause c).measureBias = false ∧ (engine.cause c).measurementCounter ≤ 0 ∧
      (engine.cause c).thresholdCounter ≤ 1 ∧ (profile.cause c).thresholds ≠ []

variable {profile} {e : E} {hits : Int}

theorem Stands.setCause {engine : Engine n E S P V} (stands : Stands profile e hits engine)
    (c : Fin n) {dyn : CauseDyn V} (flag : dyn.triggered = (engine.cause c).triggered)
    (left : dyn.measurementCounter ≠ 0)
    (unbiased : dyn.triggered = true → dyn.measureBias = false ∧ dyn.measurementCounter ≤ 0 ∧
      dyn.thresholdCounter ≤ 1 ∧ (profile.cause c).thresholds ≠ []) :
    Stands profile e hits (engine.setCause c dyn) := by
  refine ⟨stands.expected, stands.range, ?_, ?_, ?_⟩
  · intro d isCause
    by_cases same : d = c
    · subst same
      simpa [Engine.setCause, flag] using stands.order d isCause
    · simpa [Engine.setCause, Function.update_of_ne same] using stands.order d isCause
  · intro d isCause
    by_cases same : d = c
    · subst same
      simpa [Engine.setCause] using left
    · simpa [Engine.setCause, Function.update_of_ne same] using stands.left d isCause
  · intro d isCause
    by_cases same : d = c
    · subst same
      simpa [Engine.setCause] using unbiased
    · simpa [Engine.setCause, Function.update_of_ne same] using stands.unbiased d isCause

variable {before : Engine n E S P V} (thresholds : List T) {after : Engine n E S P V}

theorem Stands.congr (stands : Stands profile e hits before)
    (expected : after.expectedOrderId e = before.expectedOrderId e)
    (same : ∀ c, profile.eventOf c = e → (after.cause c).triggered = (before.cause c).triggered ∧
      (after.cause c).measureBias = (before.cause c).measureBias ∧
    (after.cause c).measurementCounter = (before.cause c).measurementCounter ∧
    (after.cause c).thresholdCounter = (before.cause c).thresholdCounter) :
    Stands profile e hits after := by
  refine ⟨expected.trans stands.expected, stands.range, ?_, ?_, ?_⟩
  · intro c isCause
    rw [(same c isCause).1]
    exact stands.order c isCause
  · intro c isCause
    rw [(same c isCause).2.2.1]
    exact stands.left c isCause
  · intro c isCause
    obtain ⟨flag, bias, measurements, thresholds⟩ := same c isCause
    rw [flag, bias, measurements, thresholds]
    exact stands.unbiased c isCause

/-- A cause of an engine that differs from another one in its value. -/
def SameButValue (before after : Engine n E S P V) : Prop :=
  after.expectedOrderId = before.expectedOrderId ∧
    ∀ c, after.cause c = { before.cause c with value := (after.cause c).value }

theorem SameButValue.refl : SameButValue engine engine :=
  ⟨rfl, fun _ => rfl⟩

theorem SameButValue.trans {first second third : Engine n E S P V}
    (one : SameButValue first second) (two : SameButValue second third) :
    SameButValue first third :=
  ⟨two.1.trans one.1, fun c => (two.2 c).trans (by rw [one.2 c])⟩

theorem setValue_same (c : Fin n) (value : Value V) :
    SameButValue engine (engine.setCause c { engine.cause c with value := value }) := by
  refine ⟨rfl, ?_⟩
  intro d
  by_cases same : d = c
  · subst same
    simp [Engine.setCause]
  · simp [Engine.setCause, Function.update_of_ne same]

theorem freeValuearray_same : SameButValue engine (engine.freeValuearray c) := by
  unfold freeValuearray
  dsimp only
  split
  · exact setValue_same engine c _
  · exact SameButValue.refl engine

variable (profile) in
theorem foldl_checkThreshold_same (checking : Checking n E S P V) :
    SameButValue checking.engine
      (thresholds.foldl (checkThreshold profile c) checking).engine := by
  induction thresholds generalizing checking with
  | nil => exact SameButValue.refl _
  | cons threshold rest ih =>
    have first : SameButValue checking.engine
        (checkThreshold profile c checking threshold).engine := by
      unfold checkThreshold
      dsimp only
      split
      · split
        · exact SameButValue.refl _
        · exact (freeValuearray_same c _).trans (setValue_same _ c _)
      · exact SameButValue.refl _
    exact first.trans (ih _)

theorem Stands.sameButValue (stands : Stands profile e hits before)
    (same : SameButValue before after) : Stands profile e hits after := by
  apply stands.congr (by rw [same.1])
  intro c _
  rw [same.2 c]
  exact ⟨rfl, rfl, rfl, rfl⟩

theorem foldl_checkThreshold_record (entry : Entry n E S V) (engine : Engine n E S P V)
    (within : Bool) :
    thresholds.foldl (checkThreshold profile c) ⟨engine.record entry, within⟩ =
      ⟨(thresholds.foldl (checkThreshold profile c) ⟨engine, within⟩).engine.record entry,
        (thresholds.foldl (checkThreshold profile c) ⟨engine, within⟩).within⟩ := by
  have freed (before : Engine n E S P V) :
      (before.record entry).freeValuearray c = (before.freeValuearray c).record entry := by
    have same : (before.record entry).cause = before.cause := rfl
    unfold freeValuearray
    dsimp only
    rw [same]
    split <;> rfl
  induction thresholds generalizing engine within with
  | nil => rfl
  | cons threshold rest ih =>
    have first : checkThreshold profile c ⟨engine.record entry, within⟩ threshold =
        ⟨(checkThreshold profile c ⟨engine, within⟩ threshold).engine.record entry,
          (checkThreshold profile c ⟨engine, within⟩ threshold).within⟩ := by
      unfold checkThreshold
      dsimp only
      have cause : (engine.record entry).cause = engine.cause := rfl
      have seen (value : Value V) : (engine.record entry).view value = engine.view value := rfl
      rw [freed, cause, seen]
      split
      · cases profile.geofence threshold (engine.view (engine.cause c).value) <;> rfl
      · rfl
    rw [foldl_cons, foldl_cons, first, ih]

/-- A function that leaves its own cause untriggered and with measurements left. -/
structure Renews (body : Fin n → Engine n E S P V → Engine n E S P V × Bool) : Prop where
  own : Own body
  flag : ∀ c engine, ((body c engine).1.cause c).triggered = false
  left : ∀ c engine, ((body c engine).1.cause c).measurementCounter ≠ 0

section Renewing

variable [DecidableEq S]

theorem initCause_renews (env : Env n) : Renews (initCause (E := E) (P := P) profile env) where
  own := initCause_own env
  flag := fun c engine => by simp [initCause, setLinked, Engine.setCause]
  left := fun c engine => by
    simp only [initCause, setLinked, Engine.setCause, Function.update_self]
    split
    · simp
    · assumption

theorem reinitCause_renews (env : Env n) :
    Renews (reinitCause (E := E) (P := P) profile env) where
  own := by
    intro c engine
    unfold reinitCause
    dsimp only
    split
    · exact initCause_own env c engine
    · refine ⟨?_, rfl⟩
      intro d other
      simp [Engine.setCause, Function.update_of_ne other]
  flag := by
    intro c engine
    unfold reinitCause
    dsimp only
    split
    · exact (initCause_renews env).flag c engine
    · simp [Engine.setCause]
  left := by
    intro c engine
    unfold reinitCause
    dsimp only
    split
    · exact (initCause_renews env).left c engine
    · next left => simpa [Engine.setCause] using left

end Renewing

variable {engine : Engine n E S P V} {c : Fin n}
  {body : Fin n → Engine n E S P V → Engine n E S P V × Bool} {items : List (Fin n)}

theorem untilError_renews (renews : Renews body) (ok : (untilError body items engine).2 = true)
    (isIn : c ∈ items) :
    ((untilError body items engine).1.cause c).triggered = false ∧
      ((untilError body items engine).1.cause c).measurementCounter ≠ 0 := by
  induction items generalizing engine with
  | nil => simp at isIn
  | cons first rest ih =>
    unfold untilError at ok ⊢
    dsimp only at ok ⊢
    split at ok
    · next firstOk =>
      rw [if_pos firstOk]
      by_cases here : c ∈ rest
      · exact ih ok here
      · have same : c = first := by simpa [here] using isIn
        subst same
        apply untilError_invariant (fun after : Engine n E S P V =>
          (after.cause c).triggered = false ∧ (after.cause c).measurementCounter ≠ 0)
        · intro d isLater before kept
          have other : c ≠ d := fun same => here (same ▸ isLater)
          rwa [(renews.own d before).1 c other]
        · exact ⟨renews.flag c engine, renews.left c engine⟩
    · next failed => exact absurd ok failed

variable [DecidableEq E]

theorem initEvent_stands (ordered : Ordered profile e) (renews : Renews body)
    (ok : (initEvent profile body e engine).2 = true) :
    Stands profile e 0 (initEvent profile body e engine).1 := by
  have causes := (initEvent_fields profile body e engine).1
  unfold initEvent at ok causes ⊢
  dsimp only at ok causes ⊢
  split at ok
  · next inner =>
    rw [if_pos inner] at causes ⊢
    have renewed (c : Fin n) (isCause : profile.eventOf c = e) :=
      untilError_renews renews inner ((profile.mem_causes c e).mpr isCause)
    refine ⟨?_, ⟨Int.le_refl 0, ?_⟩, ?_, ?_, ?_⟩
    · simp
    · unfold total
      omega
    · intro c isCause
      have bounds := ordered.bounds isCause
      rw [(renewed c isCause).1]
      constructor
      · intro impossible
        simp at impossible
      · intro small
        omega
    · intro c isCause
      exact (renewed c isCause).2
    · intro c isCause isSet
      rw [(renewed c isCause).1] at isSet
      simp at isSet
  · next failed => exact absurd ok failed

variable [DecidableEq S]

omit [DecidableEq E] in
theorem untilError_reinitCause_ok {env : Env n}
    (ready : ∀ c ∈ items, (engine.cause c).measurementCounter ≠ 0 ∨ env.starts c = true) :
    (untilError (reinitCause profile env) items engine).2 = true := by
  induction items generalizing engine with
  | nil => rfl
  | cons first rest ih =>
    have ok : (reinitCause profile env first engine).2 = true := by
      unfold reinitCause
      dsimp only
      split
      · next spent => exact (ready first mem_cons_self).resolve_left (fun left => left spent)
      · rfl
    unfold untilError
    rw [if_pos ok]
    apply ih
    intro c isLater
    by_cases same : c = first
    · subst same
      exact Or.inl ((reinitCause_renews env).left c engine)
    · rw [((reinitCause_renews env).own first engine).1 c same]
      exact ready c (mem_cons_of_mem _ isLater)

theorem reinitEvent_stands (ordered : Ordered profile e) {env : Env n}
    (ready : ∀ c, profile.eventOf c = e →
      (engine.cause c).measurementCounter ≠ 0 ∨ env.starts c = true) :
    Stands profile e 0 (initEvent profile (reinitCause profile env) e engine).1 := by
  have ok : (untilError (reinitCause profile env) (profile.causes e) engine).2 = true := by
    apply untilError_reinitCause_ok
    intro c isCause
    exact ready c ((profile.mem_causes c e).mp isCause)
  apply initEvent_stands ordered (reinitCause_renews env)
  unfold initEvent
  rw [if_pos ok]

def flagged (c : Fin n) (checked : Engine n E S P V × Bool) : Engine n E S P V :=
  checked.1.setCause c { checked.1.cause c with triggered := checked.2 }

section

omit [DecidableEq E] [DecidableEq S]

theorem Stands.unflagged (stands : Stands profile e hits engine)
    (unset : (engine.cause c).triggered = false) :
    Stands profile e hits (flagged c (engine, false)) := by
  apply stands.congr
  · rfl
  · intro d _
    unfold flagged
    by_cases same : d = c
    · subst same
      simp [Engine.setCause, unset]
    · simp [Engine.setCause, Function.update_of_ne same]

theorem Stands.unset (ordered : Ordered profile e) (stands : Stands profile e 0 engine)
    (isCause : profile.eventOf c = e) : (engine.cause c).triggered = false := by
  have bounds := ordered.bounds isCause
  have notSet : ¬ (engine.cause c).triggered = true := by
    rw [stands.order c isCause]
    omega
  simpa using notSet

end

omit [DecidableEq S] in
theorem Stands.hit (ordered : Ordered profile e) (stands : Stands profile e hits engine)
    (isCause : profile.eventOf c = e) (next : (profile.cause c).orderId = hits + 1)
    (unbiased : (engine.cause c).measureBias = false ∧ (engine.cause c).measurementCounter ≤ 0 ∧
      (engine.cause c).thresholdCounter ≤ 1 ∧ (profile.cause c).thresholds ≠ []) :
    Stands profile e (profile.cause c).orderId
      (flagged c ({ engine with
        expectedOrderId := Function.update engine.expectedOrderId (profile.eventOf c)
          (engine.expectedOrderId (profile.eventOf c) + 1) }, true)) := by
  have bounds := ordered.bounds isCause
  unfold flagged
  refine ⟨?_, ⟨by omega, bounds.2⟩, ?_, ?_, ?_⟩
  · simp only [Engine.setCause]
    rw [isCause, Function.update_self, stands.expected, next]
  · intro d isOther
    by_cases same : d = c
    · subst same
      simp [Engine.setCause]
    · have differs : (profile.cause d).orderId ≠ (profile.cause c).orderId :=
        fun equal => same (ordered.injective isOther isCause equal)
      have old := stands.order d isOther
      simp only [Engine.setCause, Function.update_of_ne same]
      rw [old]
      omega
  · intro d isOther
    by_cases same : d = c
    · subst same
      simpa [Engine.setCause] using stands.left d isOther
    · simpa [Engine.setCause, Function.update_of_ne same] using stands.left d isOther
  · intro d isOther
    by_cases same : d = c
    · subst same
      simpa [Engine.setCause] using unbiased
    · simpa [Engine.setCause, Function.update_of_ne same] using stands.unbiased d isOther

section

variable (ordered : Ordered profile e) (env : Env n) (isCause : profile.eventOf c = e)
  (stands : Stands profile e hits engine)
include ordered env isCause stands

theorem countThreshold_stands (unbiased : (engine.cause c).measureBias = false)
    (measured : (engine.cause c).measurementCounter ≤ 0)
    (checked : (profile.cause c).thresholds ≠ []) : let found := if 1 <
    (engine.cause c).thresholdCounter then Outcome.nothing else .hit
    Stands profile e (advance (profile.cause c).orderId hits found)
        (flagged c (countThreshold profile env c engine)) ∧
      ((countThreshold profile env c engine).2 = true ↔
        found = .hit ∧ (profile.cause c).orderId = hits + 1) := by
  have bounds := ordered.bounds isCause
  have counted (counter : Int) (small : counter ≤ (engine.cause c).thresholdCounter) :
      Stands profile e hits
        (engine.setCause c { engine.cause c with thresholdCounter := counter }) := by
    apply stands.setCause c
    · rfl
    · exact stands.left c isCause
    · intro isSet
      have old := stands.unbiased c isCause isSet
      exact ⟨old.1, old.2.1, Int.le_trans small old.2.2.1, old.2.2.2⟩
  unfold countThreshold
  dsimp only
  by_cases more : 1 < (engine.cause c).thresholdCounter
  · have positive : 0 < (engine.cause c).thresholdCounter := by omega
    have stillMore : 0 < (engine.cause c).thresholdCounter - 1 := by omega
    rw [if_pos more, if_pos positive, if_pos ⟨positive, stillMore⟩]
    refine ⟨?_, by simp⟩
    apply (counted _ (by omega)).unflagged
    cases isSet : (engine.cause c).triggered with
    | false => simp [Engine.setCause, isSet]
    | true =>
      have old := stands.unbiased c isCause isSet
      omega
  · rw [if_neg more]
    have notMore : ¬ (0 < (engine.cause c).thresholdCounter ∧
        0 < if 0 < (engine.cause c).thresholdCounter
          then (engine.cause c).thresholdCounter - 1 else (engine.cause c).thresholdCounter) := by
      rintro ⟨positive, again⟩
      rw [if_pos positive] at again
      omega
    have small : (if 0 < (engine.cause c).thresholdCounter
        then (engine.cause c).thresholdCounter - 1 else (engine.cause c).thresholdCounter) ≤
        (engine.cause c).thresholdCounter := by
      split <;> omega
    rw [if_neg notMore]
    generalize (if 0 < (engine.cause c).thresholdCounter then _ else _ : Int) = counter at small ⊢
    have after := counted counter small
    rw [if_neg (show (profile.cause c).orderId ≠ 0 by omega)]
    have expected : (engine.setCause c
        { engine.cause c with thresholdCounter := counter }).expectedOrderId (profile.eventOf c) =
        hits + 1 := by
      rw [isCause]
      exact stands.expected
    by_cases next : (profile.cause c).orderId = hits + 1
    · rw [if_neg (fun other => other (next.trans expected.symm))]
      refine ⟨?_, by simp [next]⟩
      unfold advance
      rw [if_pos next]
      apply after.hit ordered isCause next
      simp only [Engine.setCause, Function.update_self]
      exact ⟨unbiased, measured, by omega, checked⟩
    · have other : (profile.cause c).orderId ≠ (engine.setCause c
          { engine.cause c with thresholdCounter := counter }).expectedOrderId
            (profile.eventOf c) := by
        rw [expected]
        exact next
      rw [if_pos other]
      have again : Stands profile e 0 (initEvent profile (reinitCause profile env)
          (profile.eventOf c)
          (engine.setCause c { engine.cause c with thresholdCounter := counter })).1 := by
        rw [isCause]
        exact reinitEvent_stands ordered (fun d isOther => Or.inl (after.left d isOther))
      refine ⟨?_, by simp [next]⟩
      unfold advance
      rw [if_neg next]
      exact again.unflagged (again.unset ordered isCause)

theorem checkThresholds_stands (notOut : ¬ engine.RunsOut c) :
    Stands profile e (advance (profile.cause c).orderId hits (outcome profile c engine))
        (flagged c (checkThresholds profile env c engine)) ∧
      ((checkThresholds profile env c engine).2 = true ↔
        outcome profile c engine = .hit ∧ (profile.cause c).orderId = hits + 1) := by
  have bounds := ordered.bounds isCause
  have unset (reason : ¬ ((engine.cause c).measureBias = false ∧
      (engine.cause c).measurementCounter ≤ 0 ∧ (engine.cause c).thresholdCounter ≤ 1 ∧
      (profile.cause c).thresholds ≠ [])) : (engine.cause c).triggered = false := by
    cases isSet : (engine.cause c).triggered with
    | false => rfl
    | true => exact absurd (stands.unbiased c isCause isSet) reason
  unfold checkThresholds outcome
  by_cases biased : (engine.cause c).measureBias = true
  · rw [if_pos biased, if_pos biased]
    have flag : (engine.cause c).triggered = false := unset (by simp [biased])
    refine ⟨?_, by simp⟩
    have after : Stands profile e hits (engine.setCause c
        { engine.cause c with bias := (engine.cause c).value, measureBias := false }) := by
      apply stands.setCause c
      · rfl
      · exact stands.left c isCause
      · intro isSet
        exact absurd (flag.symm.trans isSet) (by simp)
    exact after.unflagged (by simpa [Engine.setCause] using flag)
  · rw [if_neg biased, if_neg biased]
    have isUnbiased : (engine.cause c).measureBias = false := by simpa using biased
    by_cases measuring : 0 < (engine.cause c).measurementCounter
    · have notLast : (engine.cause c).measurementCounter ≠ 1 :=
        fun last => notOut ⟨isUnbiased, last⟩
      have flag : (engine.cause c).triggered = false := unset (by
        rintro ⟨_, few, _⟩
        omega)
      rw [if_pos measuring, if_pos measuring, if_neg notLast, if_neg (by omega)]
      refine ⟨?_, by simp⟩
      have after : Stands profile e hits (engine.setCause c
          { engine.cause c with
            measurementCounter := (engine.cause c).measurementCounter - 1 }) := by
        apply stands.setCause c
        · rfl
        · dsimp only
          omega
        · intro isSet
          exact absurd (flag.symm.trans isSet) (by simp)
      exact after.unflagged (by simpa [Engine.setCause] using flag)
    · rw [if_neg measuring, if_neg measuring]
      by_cases unchecked : (profile.cause c).thresholds = []
      · rw [if_pos unchecked, if_pos unchecked]
        exact ⟨stands.unflagged (unset (by simp [unchecked])), by simp⟩
      · rw [if_neg unchecked, if_neg unchecked]
        have same := foldl_checkThreshold_same profile c (profile.cause c).thresholds
          ⟨engine, true⟩
        generalize (profile.cause c).thresholds.foldl (checkThreshold profile c)
          ⟨engine, true⟩ = checked at same ⊢
        have after : Stands profile e hits checked.engine := stands.sameButValue same
        by_cases out : checked.within = (profile.cause c).negate
        · rw [if_pos out, if_pos out, if_pos (by omega)]
          have again : Stands profile e 0 (initEvent profile (reinitCause profile env)
              (profile.eventOf c) checked.engine).1 := by
            rw [isCause]
            exact reinitEvent_stands ordered (fun d isOther => Or.inl (after.left d isOther))
          exact ⟨again.unflagged (again.unset ordered isCause), by simp⟩
        · rw [if_neg out, if_neg out]
          have counters := same.2 c
          have counted := countThreshold_stands ordered env isCause after
            (by rw [counters]; exact isUnbiased) (by rw [counters]; dsimp only; omega) unchecked
          have sameThreshold : (checked.engine.cause c).thresholdCounter =
              (engine.cause c).thresholdCounter := by rw [counters]
          rw [sameThreshold] at counted
          exact counted

end

section

omit [DecidableEq E] [DecidableEq S]

theorem Stands.all_iff (ordered : Ordered profile e) (stands : Stands profile e hits engine) :
    allCausesTriggered profile e engine = true ↔ hits = total profile e := by
  unfold allCausesTriggered
  rw [all_eq_true]
  constructor
  · intro all
    by_cases empty : total profile e = 0
    · have range := stands.range
      omega
    · have some : 1 ≤ total profile e := by
        have positive : 0 ≤ total profile e := Int.natCast_nonneg _
        omega
      obtain ⟨c, isCause, isLast⟩ := (ordered.mem_iff (total profile e)).mpr ⟨some, Int.le_refl _⟩
      have isSet := (stands.order c isCause).mp (all c ((profile.mem_causes c e).mpr isCause))
      have range := stands.range
      omega
  · intro same c isIn
    have isCause := (profile.mem_causes c e).mp isIn
    have bounds := ordered.bounds isCause
    exact (stands.order c isCause).mpr (by omega)

theorem outcome_record (c : Fin n) (entry : Entry n E S V) (engine : Engine n E S P V) :
    outcome profile c (engine.record entry) = outcome profile c engine := by
  unfold outcome
  dsimp only
  rw [foldl_checkThreshold_record]
  rfl

end

section

variable (ordered : Ordered profile e) (env : Env n) (isCause : profile.eventOf c = e)
  (stands : Stands profile e hits engine) (notOut : ¬ engine.RunsOut c)
include ordered isCause stands notOut

theorem judged_stands :
    Stands profile e (advance (profile.cause c).orderId hits (outcome profile c engine))
        (flagged c (judged profile env c engine)) ∧
      ((judged profile env c engine).2 = true ↔
        outcome profile c engine = .hit ∧ (profile.cause c).orderId = hits + 1) := by
  let entry : Entry n E S V := .evaluated c (engine.view (engine.cause c).value)
  have recorded : Stands profile e hits (engine.record entry) :=
    stands.congr rfl (fun _ _ => ⟨rfl, rfl, rfl, rfl⟩)
  have checked := checkThresholds_stands ordered env isCause recorded notOut
  rw [outcome_record] at checked
  exact checked

/-- An event fires on a hit of its last cause, if all others came before it in order. -/
theorem fires_iff :
    fires profile env c engine = true ↔
      outcome profile c engine = .hit ∧ (profile.cause c).orderId = hits + 1 ∧
        (profile.cause c).orderId = total profile e := by
  obtain ⟨after, judgement⟩ := judged_stands ordered env isCause stands notOut
  have unfolded : fires profile env c engine =
      ((judged profile env c engine).2 &&
        allCausesTriggered profile (profile.eventOf c)
          ((judged profile env c engine).1.setCause c
            { (judged profile env c engine).1.cause c with triggered := true })) := rfl
  rw [unfolded, Bool.and_eq_true, judgement, isCause, and_assoc]
  constructor
  · rintro ⟨isHit, next, all⟩
    refine ⟨isHit, next, ?_⟩
    have met := judgement.mpr ⟨isHit, next⟩
    unfold flagged at after
    rw [met] at after
    have last := (after.all_iff ordered).mp all
    unfold advance at last
    rw [isHit, if_pos next] at last
    exact last
  · rintro ⟨isHit, next, last⟩
    refine ⟨isHit, next, ?_⟩
    have met := judgement.mpr ⟨isHit, next⟩
    unfold flagged at after
    rw [met] at after
    apply (after.all_iff ordered).mpr
    unfold advance
    rw [isHit, if_pos next]
    exact last

end

end Engine

end Thingsee.Profiles
