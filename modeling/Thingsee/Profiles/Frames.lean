import Thingsee.Profiles.Execute

/-!
Owns what the functions of the profile engine leave alone. The functions that work
on causes and on the queue of one state only reset `triggered` flags; they keep the
record, the current state and purpose, and the global states.

An evaluation is one of three cases: it does not trigger its cause, it triggers the
cause only, or its event fires too. `handleCauseEvent_cases _` says this once.
-/

namespace Thingsee.Profiles

open Support

variable {n : Nat} {E S P T V : Type} [DecidableEq E] [DecidableEq S]

section

variable {α σ : Type} {body : α → σ → σ × Bool}
include σ

theorem untilError_ok (each : ∀ item state, (body item state).2 = true) (items : List α)
    (state : σ) :
    (untilError body items state).2 = true := by
  induction items generalizing state with
  | nil => rfl
  | cons item rest ih =>
    unfold untilError
    rw [if_pos (each item state)]
    exact ih _

variable {items : List α}

theorem untilError_invariant (invariant : σ → Prop)
    (keeps : ∀ item ∈ items, ∀ state, invariant state → invariant (body item state).1) {state : σ}
    (start : invariant state) : invariant (untilError body items state).1 := by
  induction items generalizing state with
  | nil => exact start
  | cons item rest ih =>
    have next := keeps item (by simp) state start
    unfold untilError
    dsimp only
    split
    · apply ih
      · intro other isIn
        exact keeps other (by simp [isIn])
      · exact next
    · exact next

theorem untilError_establishes (goal : σ → Prop) (ok : ∀ item state, (body item state).2 = true)
    (keeps : ∀ item state, goal state → goal (body item state).1) {item : α} (isIn : item ∈ items)
    (establishes : ∀ state, goal (body item state).1) (state : σ) :
    goal (untilError body items state).1 := by
  induction items generalizing state with
  | nil => simp at isIn
  | cons first rest ih =>
    unfold untilError
    rw [if_pos (ok first state)]
    by_cases here : item = first
    · subst here
      apply untilError_invariant goal
      · intro other _
        exact keeps other
      · exact establishes state
    · apply ih
      simpa [here] using isIn

end

/-- Whether a state has been entered and not been left since. -/
def isActive (s : S) : List (Entry n E S V) → Bool
  | [] => false
  | .left t :: rest => if t = s then false else isActive s rest
  | .entered t :: rest => if t = s then true else isActive s rest
  | _ :: rest => isActive s rest

/-- Every sense starts, and there is memory for global states. -/
def Env.Succeeds (env : Env n) : Prop := (∀ c, env.starts c = true) ∧ env.allocated = true

instance Env.Succeeds.decidable (env : Env n) : Decidable env.Succeeds :=
  inferInstanceAs (Decidable (_ ∧ _))

namespace Engine

/-- A change of causes and queues that only resets flags. -/
structure Calm (before after : Engine n E S P V) : Prop where
  log : after.log = before.log
  currentPurpose : after.currentPurpose = before.currentPurpose
  currentState : after.currentState = before.currentState
  globalStates : after.globalStates = before.globalStates
  state : after.state = before.state
  flags : ∀ c, (before.cause c).triggered = false → (after.cause c).triggered = false

section

omit [DecidableEq E] [DecidableEq S]

theorem Calm.refl (engine : Engine n E S P V) : Calm engine engine :=
  ⟨rfl, rfl, rfl, rfl, rfl, fun _ unset => unset⟩

theorem Calm.trans {first second third : Engine n E S P V} (one : Calm first second)
    (two : Calm second third) : Calm first third where
  log := two.log.trans one.log
  currentPurpose := two.currentPurpose.trans one.currentPurpose
  currentState := two.currentState.trans one.currentState
  globalStates := two.globalStates.trans one.globalStates
  state := two.state.trans one.state
  flags := fun c unset => two.flags c (one.flags c unset)

end

variable {profile : Profile n E S P T V}

omit [DecidableEq E] [DecidableEq S] in
theorem setCause_calm (engine : Engine n E S P V) (c : Fin n) {dyn : CauseDyn V}
    (flag : (engine.cause c).triggered = false → dyn.triggered = false) :
    Calm engine (engine.setCause c dyn) := by
  refine ⟨rfl, rfl, rfl, rfl, rfl, ?_⟩
  intro d unset
  by_cases same : d = c
  · subst same
    simpa [setCause] using flag unset
  · simpa [setCause, Function.update_of_ne same] using unset

omit [DecidableEq E] in
theorem setLinked_calm (engine : Engine n E S P V) (s : S) (linked : Linked (Fin n)) :
    Calm engine (engine.setLinked s linked) :=
  ⟨rfl, rfl, rfl, rfl, rfl, fun _ unset => unset⟩

section

omit [DecidableEq E] [DecidableEq S]

theorem freeValuearray_calm (engine : Engine n E S P V) (c : Fin n) :
    Calm engine (engine.freeValuearray c) := by
  unfold freeValuearray
  dsimp only
  split
  · refine (setCause_calm engine c ?_).trans
      ⟨rfl, rfl, rfl, rfl, rfl, fun _ unset => unset⟩
    exact fun unset => unset
  · exact Calm.refl engine

theorem untilError_calm {α : Type} {body : α → Engine n E S P V → Engine n E S P V × Bool}
    (each : ∀ item engine, Calm engine (body item engine).1) (items : List α)
    (engine : Engine n E S P V) : Calm engine (untilError body items engine).1 :=
  untilError_invariant (Calm engine) (fun item _ state before => before.trans (each item state))
    (Calm.refl engine)

end

variable (env : Env n) {causeInit : Fin n → Engine n E S P V → Engine n E S P V × Bool} (c : Fin n)

section

omit [DecidableEq E]

variable (engine : Engine n E S P V)

theorem initCause_calm : Calm engine (initCause profile env c engine).1 := by
  exact (setCause_calm engine c (by simp)).trans (setLinked_calm _ _ _)

theorem reinitCause_calm : Calm engine (reinitCause profile env c engine).1 := by
  unfold reinitCause
  dsimp only
  split
  · exact initCause_calm env c engine
  · exact setCause_calm engine c (by simp)

theorem uninitCause_calm : Calm engine (uninitCause profile c engine).1 := by
  refine (setLinked_calm engine _ _).trans ((setCause_calm _ c ?_).trans (freeValuearray_calm _ c))
  exact fun unset => unset

end

omit [DecidableEq S] in
theorem initEvent_calm (each : ∀ c engine, Calm engine (causeInit c engine).1) (e : E)
    (engine : Engine n E S P V) : Calm engine (initEvent profile causeInit e engine).1 := by
  have inner := untilError_calm each (profile.causes e) engine
  unfold initEvent
  dsimp only
  split
  · apply inner.trans
    exact ⟨rfl, rfl, rfl, rfl, rfl, fun _ unset => unset⟩
  · exact inner

variable (profile) in
omit [DecidableEq S] in
theorem initEvent_fields (causeInit : Fin n → Engine n E S P V → Engine n E S P V × Bool) (e : E)
    (engine : Engine n E S P V) :
    (initEvent profile causeInit e engine).1.cause =
        (untilError causeInit (profile.causes e) engine).1.cause ∧
      (initEvent profile causeInit e engine).1.flink =
        (untilError causeInit (profile.causes e) engine).1.flink ∧
      (initEvent profile causeInit e engine).1.activeCauses =
        (untilError causeInit (profile.causes e) engine).1.activeCauses := by
  unfold initEvent
  dsimp only
  split
  · exact ⟨rfl, rfl, rfl⟩
  · exact ⟨rfl, rfl, rfl⟩

theorem initState_calm (each : ∀ c engine, Calm engine (causeInit c engine).1) (s : S)
    (engine : Engine n E S P V) : Calm engine (initState profile causeInit s engine).1 :=
  (setLinked_calm engine _ _).trans (untilError_calm (initEvent_calm each) _ _)

section

omit [DecidableEq E] [DecidableEq S]

theorem checkThreshold_calm (checking : Checking n E S P V) (threshold : T) :
    Calm checking.engine (checkThreshold profile c checking threshold).engine := by
  unfold checkThreshold
  dsimp only
  split
  · split
    · exact Calm.refl _
    · apply (freeValuearray_calm _ c).trans
      exact setCause_calm _ c fun unset => unset
  · exact Calm.refl _

theorem foldl_checkThreshold_calm (thresholds : List T) (checking : Checking n E S P V) :
    Calm checking.engine (thresholds.foldl (checkThreshold profile c) checking).engine := by
  induction thresholds generalizing checking with
  | nil => exact Calm.refl _
  | cons threshold rest ih =>
    exact (checkThreshold_calm c checking threshold).trans (ih _)

end

variable {id : Int} (engine : Engine n E S P V)

theorem countThreshold_calm : Calm engine (countThreshold profile env c engine).1 := by
  unfold countThreshold
  dsimp only
  have counted (counter : Int) :
      Calm engine (engine.setCause c { engine.cause c with thresholdCounter := counter }) :=
    setCause_calm engine c (fun unset => unset)
  generalize (if 0 < (engine.cause c).thresholdCounter then _ else _ : Int) = counter
  split
  · exact counted _
  · split
    · exact counted _
    · split
      · exact (counted _).trans (initEvent_calm (reinitCause_calm env) _ _)
      · exact (counted _).trans ⟨rfl, rfl, rfl, rfl, rfl, fun _ unset => unset⟩

theorem checkThresholds_calm : Calm engine (checkThresholds profile env c engine).1 := by
  have checked := @foldl_checkThreshold_calm n E S P T V profile c (profile.cause c).thresholds
    ⟨engine, true⟩
  unfold checkThresholds
  dsimp only
  split
  · exact setCause_calm engine c fun unset => unset
  · split
    · split
      · refine (setCause_calm engine c ?_).trans (uninitCause_calm c _)
        exact fun unset => unset
      · exact setCause_calm engine c fun unset => unset
    · split
      · exact Calm.refl engine
      · split
        · split
          · exact checked.trans (initEvent_calm (reinitCause_calm env) _ _)
          · exact checked.trans (setCause_calm _ c fun unset => unset)
        · exact checked.trans (countThreshold_calm env c _)

theorem leaveState_calm (s : S) (engine : Engine n E S P V) :
    Calm (engine.record (.left s)) (leaveState profile s engine).1 :=
  initState_calm uninitCause_calm s _

variable (profile) in
theorem enterState_calm (s : S) (engine : Engine n E S P V) :
    Calm (engine.record (.entered s)) (enterState profile env s engine).1 :=
  initState_calm (initCause_calm env) s _

omit [DecidableEq E] in
theorem initCause_ok {env : Env n} (succeeds : env.Succeeds) (c : Fin n)
    (engine : Engine n E S P V) : (initCause profile env c engine).2 = true :=
  succeeds.1 c

omit [DecidableEq E] in
theorem reinitCause_ok {env : Env n} (succeeds : env.Succeeds) (c : Fin n)
    (engine : Engine n E S P V) : (reinitCause profile env c engine).2 = true := by
  unfold reinitCause
  dsimp only
  split
  · exact initCause_ok succeeds c engine
  · rfl

omit [DecidableEq S] in
variable (profile) in
theorem initEvent_ok (each : ∀ c engine, (causeInit c engine).2 = true) (e : E)
    (engine : Engine n E S P V) : (initEvent profile causeInit e engine).2 = true := by
  unfold initEvent
  rw [if_pos (untilError_ok each _ _)]

theorem leaveState_ok (s : S) (engine : Engine n E S P V) :
    (leaveState profile s engine).2 = true :=
  untilError_ok (initEvent_ok _ fun _ _ => rfl) _ _

variable (profile) in
theorem enterState_ok {env : Env n} (succeeds : env.Succeeds) (s : S)
    (engine : Engine n E S P V) : (enterState profile env s engine).2 = true :=
  untilError_ok (initEvent_ok _ (initCause_ok succeeds)) _ _

variable (profile) in
theorem addGlobalState_eq {env : Env n} (succeeds : env.Succeeds) (s : S)
    (engine : Engine n E S P V) :
    addGlobalState profile env s engine =
      enterState profile env s { engine with globalStates := engine.globalStates ++ [s] } := by
  unfold addGlobalState
  rw [if_pos succeeds.2]

theorem initGlobalStates_ok {env : Env n} (succeeds : env.Succeeds) (p : P)
    (engine : Engine n E S P V) : (initGlobalStates profile env p engine).2 = true := by
  apply untilError_ok
  intro s before
  rw [addGlobalState_eq _ succeeds]
  exact enterState_ok _ succeeds s _

variable (profile) in
def leaveCurrent (engine : Engine n E S P V) : Engine n E S P V :=
  match engine.currentState with
  | none => engine
  | some s => (leaveState profile s engine).1

theorem initPurpose_of_found {p : P} {s : S} (found : profile.findState p id = some s)
    (engine : Engine n E S P V) :
    initPurpose profile env p id engine =
      if engine.currentState = some s then (engine, true)
      else if (enterState profile env s (leaveCurrent profile engine)).2 then
        ({ (enterState profile env s (leaveCurrent profile engine)).1 with
          currentState := some s }, true)
      else enterState profile env s (leaveCurrent profile engine) := by
  unfold initPurpose leaveCurrent
  rw [found]
  dsimp only
  split
  · rfl
  · cases engine.currentState with
    | none =>
      rw [if_pos rfl]
    | some old =>
      rw [if_pos (leaveState_ok old engine)]

theorem initPurpose_eq {env : Env n} (succeeds : env.Succeeds) {p : P} {s : S}
    (found : profile.findState p id = some s) (engine : Engine n E S P V) :
    initPurpose profile env p id engine =
      (if engine.currentState = some s then engine
        else
          { (enterState profile env s (leaveCurrent profile engine)).1 with
            currentState := some s }, true) := by
  rw [initPurpose_of_found env found, if_pos (enterState_ok _ succeeds s _)]
  split
  · rfl
  · rfl

variable (profile) in
theorem leaveCurrent_frame :
    (leaveCurrent profile engine).currentPurpose = engine.currentPurpose ∧
      (leaveCurrent profile engine).globalStates = engine.globalStates ∧
      (leaveCurrent profile engine).state = engine.state ∧
      (leaveCurrent profile engine).currentState = engine.currentState := by
  unfold leaveCurrent
  split
  · exact ⟨rfl, rfl, rfl, rfl⟩
  · next s _ =>
    have calm := @leaveState_calm n E S P T V _ _ profile s engine
    exact ⟨calm.currentPurpose, calm.globalStates, calm.state, calm.currentState⟩

theorem initPurpose_frame {env : Env n} (succeeds : env.Succeeds) {p : P} {s : S}
    (found : profile.findState p id = some s) (engine : Engine n E S P V) :
    (initPurpose profile env p id engine).1.currentPurpose = engine.currentPurpose ∧
      (initPurpose profile env p id engine).1.globalStates = engine.globalStates ∧
      (initPurpose profile env p id engine).1.state = engine.state ∧
      (initPurpose profile env p id engine).1.currentState = some s := by
  rw [initPurpose_eq succeeds found]
  split
  · next same => exact ⟨rfl, rfl, rfl, same⟩
  · have left := leaveCurrent_frame profile engine
    have calm := enterState_calm profile env s (leaveCurrent profile engine)
    refine ⟨?_, ?_, ?_, rfl⟩
    · exact calm.currentPurpose.trans left.1
    · exact calm.globalStates.trans left.2.1
    · exact calm.state.trans left.2.2.1

section

omit [DecidableEq E] [DecidableEq S]

theorem stateChanging_congr (e : E) {first second : Engine n E S P V}
    (samePurpose : first.currentPurpose = second.currentPurpose)
    (sameState : first.currentState = second.currentState) :
    stateChanging profile e first = stateChanging profile e second := by
  unfold stateChanging purposeChanging
  rw [samePurpose, sameState]

theorem gotoPurpose_congr (e : E) {first second : Engine n E S P V}
    (samePurpose : first.currentPurpose = second.currentPurpose) :
    gotoPurpose profile e first = gotoPurpose profile e second := by
  unfold gotoPurpose purposeChanging
  rw [samePurpose]

end

/-- An evaluation counts the last measurement of the cause. -/
def RunsOut (engine : Engine n E S P V) (c : Fin n) : Prop :=
  (engine.cause c).measureBias = false ∧ (engine.cause c).measurementCounter = 1

omit [DecidableEq E] [DecidableEq S] in
instance RunsOut.decidable (engine : Engine n E S P V) (c : Fin n) :
    Decidable (engine.RunsOut c) :=
  inferInstanceAs (Decidable (_ ∧ _))

variable (profile) in
/-- The outcome of `check_thresholds` in an evaluation. -/
def judged (env : Env n) (c : Fin n) (engine : Engine n E S P V) : Engine n E S P V × Bool :=
  checkThresholds profile env c (engine.record (.evaluated c (engine.view (engine.cause c).value)))

variable (profile) in
def marked (env : Env n) (c : Fin n) (engine : Engine n E S P V) : Engine n E S P V :=
  let checked := (judged profile env c engine).1
  (checked.setCause c { checked.cause c with triggered := true }).record (.triggered c)

variable (profile) in
theorem judged_calm :
    Calm (engine.record (.evaluated c (engine.view (engine.cause c).value)))
      (judged profile env c engine).1 :=
  checkThresholds_calm env c _

variable (profile) in
theorem marked_frame :
    (marked profile env c engine).log =
        .triggered c :: .evaluated c (engine.view (engine.cause c).value) :: engine.log ∧
      (marked profile env c engine).currentPurpose = engine.currentPurpose ∧
      (marked profile env c engine).currentState = engine.currentState ∧
      (marked profile env c engine).globalStates = engine.globalStates ∧
      (marked profile env c engine).state = engine.state := by
  have calm := judged_calm profile env c engine
  refine ⟨?_, calm.currentPurpose, calm.currentState, calm.globalStates, calm.state⟩
  exact congrArg (List.cons _) calm.log

variable [DecidableEq P]

theorem initProfile_eq {env : Env n} (succeeds : env.Succeeds) {puId stId : Int} {p : P}
    (found : profile.findPurpose puId = some p) {s : S}
    (foundState : profile.findState p stId = some s) (engine : Engine n E S P V) :
    initProfile profile env puId stId engine =
      (let entered := (initPurpose profile env p stId engine).1
        if entered.currentPurpose = some p then entered
        else
          { (initGlobalStates profile env p (uninitGlobalStates profile entered)).1 with
            currentPurpose := some p }, true) := by
  have ok : (initPurpose profile env p stId engine).2 = true := by
    rw [initPurpose_eq succeeds foundState]
  unfold initProfile
  rw [found]
  dsimp only
  rw [if_pos ok]
  split
  · rw [← ok]
  · rw [if_pos (initGlobalStates_ok succeeds p _)]

theorem initProfile_of_missing {puId stId : Int}
    (missing : (profile.findPurpose puId).bind (fun p => profile.findState p stId) = none)
    (engine : Engine n E S P V) : initProfile profile env puId stId engine = (engine, false) := by
  unfold initProfile
  cases found : profile.findPurpose puId with
  | none => rfl
  | some p =>
    rw [found] at missing
    have noState : profile.findState p stId = none := missing
    dsimp only
    unfold initPurpose
    rw [noState]
    rw [if_neg (by simp)]

variable (profile) in
/-- An evaluation is not passed, waits for other causes, or fires its event. -/
theorem handleCauseEvent_cases :
    ((judged profile env c engine).2 = false ∧ fires profile env c engine = false ∧
      handleCauseEvent profile env c engine =
        ((judged profile env c engine).1.setCause c
          { (judged profile env c engine).1.cause c with triggered := false }).freeValuearray c) ∨
    ((judged profile env c engine).2 = true ∧ fires profile env c engine = false ∧
      handleCauseEvent profile env c engine = (marked profile env c engine).freeValuearray c) ∨
    ((judged profile env c engine).2 = true ∧ fires profile env c engine = true ∧
      allCausesTriggered profile (profile.eventOf c) (marked profile env c engine) = true ∧
      handleCauseEvent profile env c engine =
        (afterActions profile env (profile.eventOf c)
          ((marked profile env c engine).record (.fired (profile.eventOf c)))).freeValuearray c)
            := by
  unfold handleCauseEvent fires marked judged
  dsimp only
  generalize checkThresholds profile env c _ = checked
  cases judgement : checked.2 with
  | false => exact Or.inl ⟨rfl, by simp, by simp⟩
  | true =>
    right
    cases all : allCausesTriggered profile (profile.eventOf c)
        (checked.1.setCause c { checked.1.cause c with triggered := true }) with
    | false =>
      left
      refine ⟨rfl, by simp, ?_⟩
      rw [if_pos rfl, if_neg]
      unfold allCausesTriggered at all ⊢
      simpa [record] using all
    | true =>
      right
      have stillAll : allCausesTriggered profile (profile.eventOf c)
          ((checked.1.setCause c { checked.1.cause c with triggered := true }).record
            (.triggered c)) = true := all
      refine ⟨rfl, by simp, stillAll, ?_⟩
      rw [if_pos rfl, if_pos stillAll]

end Engine

namespace Machine

open Engine

section

omit [DecidableEq E] [DecidableEq S]

theorem deliver_calm (c : Fin n) (engine : Engine n E S P V) (sample : Sample V) :
    Calm engine (engine.deliver c sample) := by
  cases sample with
  | plain valuetype value => exact setCause_calm engine c fun unset => unset
  | array values =>
    refine (setCause_calm engine c ?_).trans
      ⟨rfl, rfl, rfl, rfl, rfl, fun _ unset => unset⟩
    exact fun unset => unset

theorem copyValue_calm (source c : Fin n) (engine : Engine n E S P V) :
    Calm engine (copyValue source c engine) :=
  setCause_calm engine c fun unset => unset

end

def allStart : Env n := ⟨fun _ => true, true⟩

/-- A sample, with as many turns of `handle_cause` as a walk over all causes takes. -/
def handled (source : Fin n) (sample : Sample V) : List (Action n V × Env n) :=
  (.sample source sample, allStart) :: List.replicate (n + 1) (.next, allStart)

end Machine

end Thingsee.Profiles
