import Thingsee.Profiles.SenseCalls

/-!
Owns the balance of the calls of senses: over a whole run the calls of the init and
the uninit operation of a cause alternate, the assertions of `init_cause` hold, and no
cause is initialised while the engine is not running.

A cause whose measurement count has run out is not initialised, but the functions that
leave its state do not look at that. `calls_are_balanced` holds for the runs in which
no such state is left, no state with causes is the current one and global at once, and
the causes of states that have been left are not counted any more.
-/

namespace Thingsee.Profiles

open Support List

variable {n : Nat} {E S P T V : Type} [DecidableEq E] [DecidableEq S] [DecidableEq P]

namespace Engine

variable {env : Env n} {p : P} {engine : Engine n E S P V}

def Leaves (engine : Engine n E S P V) (place : P × S) (s : S) : Prop :=
  (engine.currentState = some s ∧ s ≠ place.2) ∨
    (engine.currentPurpose ≠ some place.1 ∧ s ∈ engine.globalStates)

omit [DecidableEq E] in
instance Leaves.decidable (engine : Engine n E S P V) (place : P × S) (s : S) :
    Decidable (engine.Leaves place s) :=
  inferInstanceAs (Decidable (_ ∨ _))

/-- After a transition, no state with causes is the current one and global at once. -/
def StaysApart (profile : Profile n E S P T V) (env : Env n) (engine : Engine n E S P V)
    (place : P × S) : Prop :=
  ∀ c, profile.stateOfCause c = place.2 → place.2 ∉ engine.globalStates ∧
    (engine.currentPurpose ≠ some place.1 → env.allocated = true →
      place.2 ∉ profile.globals place.1)

omit [DecidableEq E] in
instance StaysApart.decidable (profile : Profile n E S P T V) (env : Env n)
    (engine : Engine n E S P V) (place : P × S) :
    Decidable (StaysApart profile env engine place) :=
  inferInstanceAs (Decidable (∀ c, profile.stateOfCause c = place.2 → _ ∧ (_ → _ → _)))

variable {profile : Profile n E S P T V}

omit [DecidableEq P] in
theorem uninitGlobalStates_steady (proper : profile.Proper) (steady : Steady profile engine)
    (started : ∀ c, profile.stateOfCause c ∈ engine.globalStates →
      (engine.uses c).initialised = true) :
    Steady profile (uninitGlobalStates profile engine) := by
  have current := (uninitGlobalStates_frame profile engine).2.1
  have none : (uninitGlobalStates profile engine).globalStates = [] := rfl
  refine ⟨?_, ?_, ?_, ?_⟩
  · apply (uninitGlobalStates_balanced proper steady started).1.congr
    intro c
    unfold InUse
    rw [current, none]
    simp
  · intro c _
    rw [none]
    simp
  · rw [none]
    exact nodup_nil
  · rw [none]
    simp

variable {puId stId : Int} {s : S}

theorem initProfile_steady (proper : profile.Proper) (starts : ∀ c, env.starts c = true)
    (found : profile.findPurpose puId = some p) (foundState : profile.findState p stId = some s)
    (steady : Steady profile engine)
    (started : ∀ c, engine.Leaves (p, s) (profile.stateOfCause c) →
      (engine.uses c).initialised = true)
    (apart : StaysApart profile env engine (p, s)) :
    Steady profile (initProfile profile env puId stId engine).1 ∧
      (initProfile profile env puId stId engine).1.state = engine.state := by
  obtain ⟨purpose, globals, state, current⟩ := movedTo_frame profile env s engine
  obtain ⟨moved, kept⟩ := movedTo_steady proper starts steady
    (fun c isCurrent other => started c (Or.inl ⟨isCurrent, other⟩))
      (fun c here => (apart c here).1)
  unfold initProfile
  rw [found]
  dsimp only
  rw [initPurpose_movedTo proper starts foundState, if_pos rfl]
  split
  · exact ⟨moved, state⟩
  · next changes =>
    rw [purpose] at changes
    have startedGlobals (c : Fin n)
        (isIn : profile.stateOfCause c ∈ (movedTo profile env s engine).globalStates) :
        ((movedTo profile env s engine).uses c).initialised = true := by
      rw [globals] at isIn
      rw [kept c isIn]
      exact started c (Or.inr ⟨changes, isIn⟩)
    have frame := uninitGlobalStates_frame profile (movedTo profile env s engine)
    have left := uninitGlobalStates_steady proper moved startedGlobals
    obtain ⟨steadyAfter, currentAfter, stateAfter⟩ :=
      initGlobalStates_steady proper starts left (p := p) rfl (by
        intro c allocated isIn isCurrent
        rw [frame.2.1, current] at isCurrent
        have here := (Option.some.inj isCurrent).symm
        rw [here] at isIn
        exact (apart c here).2 changes allocated isIn)
    rw [frame.2.2, state] at stateAfter
    split
    · exact ⟨steadyAfter.congr rfl rfl rfl, stateAfter⟩
    · exact ⟨steadyAfter, stateAfter⟩

omit [DecidableEq P] in
theorem initGlobalStates_starts (proper : profile.Proper) (starts : ∀ c, env.starts c = true)
    (memory : env.allocated = true ∨ profile.globals p = []) (engine : Engine n E S P V) :
    (initGlobalStates profile env p engine).2 = true ∧
      (initGlobalStates profile env p engine).1.uses =
        begunIn profile (profile.globals p) engine.uses ∧
      (initGlobalStates profile env p engine).1.globalStates =
        engine.globalStates ++ profile.globals p ∧
      (initGlobalStates profile env p engine).1.currentState = engine.currentState := by
  unfold initGlobalStates
  rcases memory with allocated | none
  · obtain ⟨ok, uses, globals, current, _⟩ :=
      untilError_addGlobalState proper starts allocated ((proper.states p).filter _) engine
    exact ⟨ok, uses, globals, current⟩
  · rw [none]
    refine ⟨rfl, ?_, (append_nil _).symm, rfl⟩
    funext c
    simp [untilError, begunIn]

/-! ## Entering a profile -/

/-- A found state with memory and starting senses is entered. -/
theorem initProfile_starts (proper : profile.Proper) (starts : ∀ c, env.starts c = true)
    (found : profile.findPurpose puId = some p) (foundState : profile.findState p stId = some s)
    (memory : env.allocated = true ∨ profile.globals p = []) (engine : Engine n E S P V) :
    (initProfile profile env puId stId engine).2 = true := by
  unfold initProfile
  rw [found]
  dsimp only
  rw [initPurpose_movedTo proper starts foundState, if_pos rfl]
  split
  · rfl
  · rw [if_pos (initGlobalStates_starts proper starts memory _).1]

omit [DecidableEq E] [DecidableEq S] [DecidableEq P] in
variable (profile) in
theorem foldl_checkThreshold_uses (c : Fin n) (thresholds : List T)
    (checking : Checking n E S P V) :
    (thresholds.foldl (checkThreshold profile c) checking).engine.uses =
      checking.engine.uses := by
  induction thresholds generalizing checking with
  | nil => rfl
  | cons threshold rest ih =>
    rw [foldl_cons, ih]
    unfold checkThreshold
    dsimp only
    split
    · split
      · rfl
      · exact (setCause_uses_self _ (by rfl)).trans (freeValuearray_uses _ c)
    · rfl

section

omit [DecidableEq P]

theorem reinitEvent_uses (proper : profile.Proper) (starts : ∀ c, env.starts c = true) (e : E)
    (engine : Engine n E S P V) :
    (initEvent profile (reinitCause profile env) e engine).1.uses =
      restarted profile e engine.uses := by
  have turns : Turns (reinitCause (E := E) (P := P) profile env)
      (fun c use => if use.counter = 0 then use.begun (profile.cause c) else use) := by
    intro c before
    refine ⟨?_, reinitCause_uses (starts c) before⟩
    unfold reinitCause
    dsimp only
    split
    · exact starts c
    · rfl
  funext c
  rw [initEvent_uses proper turns]
  unfold restarted
  by_cases same : profile.eventOf c = e
  · simp [same]
  · simp [same]

theorem countThreshold_uses (proper : profile.Proper) (starts : ∀ c, env.starts c = true)
    (c : Fin n) (engine : Engine n E S P V) :
    (countThreshold profile env c engine).1.uses = engine.uses ∨
      (countThreshold profile env c engine).2 = false ∧
        (countThreshold profile env c engine).1.uses =
          restarted profile (profile.eventOf c) engine.uses := by
  have same (counter : Int) :
      (engine.setCause c { engine.cause c with thresholdCounter := counter }).uses =
        engine.uses := setCause_uses_self engine rfl
  unfold countThreshold
  dsimp only
  generalize (if 0 < (engine.cause c).thresholdCounter then _ else _ : Int) = counter
  split
  · exact Or.inl (same counter)
  · split
    · exact Or.inl (same counter)
    · split
      · right
        rw [reinitEvent_uses proper starts, same]
        exact ⟨rfl, rfl⟩
      · exact Or.inl (same counter)

/-- What one round of thresholds does to the uses of the senses. -/
theorem checkThresholds_uses (proper : profile.Proper) (starts : ∀ c, env.starts c = true)
    (c : Fin n) (engine : Engine n E S P V) :
    (checkThresholds profile env c engine).1.uses = engine.uses ∨
      ((checkThresholds profile env c engine).2 = false ∧ 1 < (engine.uses c).counter ∧
        (checkThresholds profile env c engine).1.uses = counted c engine.uses) ∨
      (engine.RunsOut c ∧
        (checkThresholds profile env c engine).1.uses = exhausted c engine.uses) ∨
      ((checkThresholds profile env c engine).2 = false ∧
        (checkThresholds profile env c engine).1.uses =
          restarted profile (profile.eventOf c) engine.uses) := by
  have checked := foldl_checkThreshold_uses profile c (profile.cause c).thresholds
    ⟨engine, true⟩
  unfold checkThresholds
  dsimp only
  split
  · exact Or.inl (setCause_uses_self engine rfl)
  · next unbiased =>
    have counter : (engine.uses c).counter = (engine.cause c).measurementCounter := rfl
    split
    · next positive =>
      have fewer : (engine.setCause c
          { engine.cause c with
            measurementCounter := (engine.cause c).measurementCounter - 1 }).uses =
          counted c engine.uses := setCause_uses engine c _
      split
      · next last =>
        refine Or.inr (Or.inr (Or.inl ⟨⟨by simpa using unbiased, by omega⟩, ?_⟩))
        rw [uninitCause_uses, fewer]
        unfold counted exhausted
        rw [Function.update_self, Function.update_idem]
        unfold Use.ended
        rw [counter, last]
      · refine Or.inr (Or.inl ⟨rfl, ?_, fewer⟩)
        rw [counter]
        omega
    · split
      · exact Or.inl rfl
      · split
        · split
          · right; right; right
            rw [reinitEvent_uses proper starts, checked]
            exact ⟨rfl, rfl⟩
          · exact Or.inl ((setCause_uses_self _ (by rfl)).trans checked)
        · rcases countThreshold_uses proper starts c
            ((profile.cause c).thresholds.foldl (checkThreshold profile c)
              ⟨engine, true⟩).engine with same | ⟨unmet, again⟩
          · exact Or.inl (same.trans checked)
          · right; right; right
            rw [checked] at again
            exact ⟨unmet, again⟩

end

variable (profile) in
/-- An evaluation of a cause whose state is in use, or of one that has measurements left
after it, like all causes of its event. -/
def Countable (engine : Engine n E S P V) (c : Fin n) : Prop :=
  engine.InUse (profile.stateOfCause c) ∨
    (¬ engine.RunsOut c ∧
      ∀ d, profile.eventOf d = profile.eventOf c → (engine.uses d).counter ≠ 0)

omit [DecidableEq P] in
instance Countable.decidable (engine : Engine n E S P V) (c : Fin n) :
    Decidable (Countable profile engine c) :=
  inferInstanceAs (Decidable (_ ∨ (_ ∧ ∀ d, profile.eventOf d = profile.eventOf c → _)))

omit [DecidableEq P] in
theorem judged_steady (proper : profile.Proper) (starts : ∀ c, env.starts c = true) {c : Fin n}
    (steady : Steady profile engine) (countable : Countable profile engine c) :
    Steady profile (judged profile env c engine).1 ∧
      ((judged profile env c engine).2 = true →
        (judged profile env c engine).1.uses = engine.uses ∨
          (engine.RunsOut c ∧
            (judged profile env c engine).1.uses = exhausted c engine.uses)) := by
  have calm := judged_calm profile env c engine
  have inUse : (judged profile env c engine).1.InUse = engine.InUse := by
    funext s
    unfold InUse
    rw [calm.currentState, calm.globalStates]
    rfl
  have keeps (balanced : Balanced profile engine.InUse (judged profile env c engine).1.uses) :
      Steady profile (judged profile env c engine).1 := by
    refine ⟨?_, ?_, ?_, ?_⟩
    · rw [inUse]
      exact balanced
    · rw [calm.currentState, calm.globalStates]
      exact steady.apart
    · rw [calm.globalStates]
      exact steady.nodup
    · rw [calm.globalStates]
      exact steady.global
  rcases checkThresholds_uses proper starts c
      (engine.record (.evaluated c (engine.view (engine.cause c).value))) with
    same | ⟨unmet, left, same⟩ | ⟨runsOut, same⟩ | ⟨unmet, same⟩
  · have uses : (judged profile env c engine).1.uses = engine.uses := same
    refine ⟨keeps ?_, fun _ => Or.inl uses⟩
    rw [uses]
    exact steady.balanced
  · have uses : (judged profile env c engine).1.uses = counted c engine.uses := same
    refine ⟨keeps ?_, fun met => absurd (unmet.symm.trans met) (by simp)⟩
    rw [uses]
    exact steady.balanced.counted left
  · have uses : (judged profile env c engine).1.uses = exhausted c engine.uses := same
    refine ⟨keeps ?_, fun _ => Or.inr ⟨runsOut, uses⟩⟩
    rw [uses]
    apply steady.balanced.exhausted
    have here := countable.resolve_right (fun left => left.1 runsOut)
    apply steady.balanced.started here
    have last : (engine.uses c).counter = 1 := runsOut.2
    omega
  · have uses : (judged profile env c engine).1.uses =
        restarted profile (profile.eventOf c) engine.uses := same
    refine ⟨keeps ?_, fun met => absurd (unmet.symm.trans met) (by simp)⟩
    rw [uses]
    exact steady.balanced.restarted (countable.imp_right And.right)

theorem afterActions_steady (proper : profile.Proper) (starts : ∀ c, env.starts c = true) {e : E}
    (steady : Steady profile engine)
    (countable : engine.InUse (profile.stateOf e) ∨ ∀ c, profile.eventOf c = e →
      (engine.uses c).counter ≠ 0)
    (moves : stateChanging profile e engine = true →
      ∀ place ∈ target profile e engine, StaysApart profile env engine place ∧
      ∀ c, engine.Leaves place (profile.stateOfCause c) → (engine.uses c).initialised = true) :
    Steady profile (afterActions profile env e engine) ∧
      (afterActions profile env e engine).state = engine.state := by
  unfold afterActions
  split
  · next changing =>
    have after : Steady profile
        (initProfile profile env (gotoPurpose profile e engine) (profile.gotoStId e) engine).1 ∧
        (initProfile profile env (gotoPurpose profile e engine) (profile.gotoStId e)
          engine).1.state = engine.state := by
      cases isTarget : target profile e engine with
      | none =>
        have missing : (profile.findPurpose (gotoPurpose profile e engine)).bind
            (fun p => profile.findState p (profile.gotoStId e)) = none := by
          simpa [target] using isTarget
        rw [initProfile_of_missing env missing]
        exact ⟨steady, rfl⟩
      | some place =>
        obtain ⟨p, foundPurpose, rest⟩ := Option.bind_eq_some_iff.mp isTarget
        obtain ⟨s, foundState, same⟩ := Option.map_eq_some_iff.mp rest
        subst same
        have safe := moves changing (p, s) isTarget
        exact initProfile_steady proper starts foundPurpose foundState steady safe.2 safe.1
    dsimp only
    split
    · exact after
    · exact ⟨after.1.congr rfl rfl rfl, after.2⟩
  · have calm : Calm engine (initEvent profile (reinitCause profile env) e engine).1 :=
      initEvent_calm (reinitCause_calm env) e engine
    have uses := reinitEvent_uses proper starts e engine
    have inUse : (initEvent profile (reinitCause profile env) e engine).1.InUse =
        engine.InUse := by
      funext s
      unfold InUse
      rw [calm.currentState, calm.globalStates]
    refine ⟨⟨?_, ?_, ?_, ?_⟩, calm.state⟩
    · rw [uses, inUse]
      exact steady.balanced.restarted countable
    · rw [calm.currentState, calm.globalStates]
      exact steady.apart
    · rw [calm.globalStates]
      exact steady.nodup
    · rw [calm.globalStates]
      exact steady.global

variable (profile) in
/-- The condition on an evaluation. Where its event fires and moves the engine, the
transition leaves only states whose causes are all initialised, after the evaluation
too, and it enters no state with causes twice. -/
def SafeEvaluation (env : Env n) (c : Fin n) (engine : Engine n E S P V) : Prop :=
  Countable profile engine c ∧
    (fires profile env c engine = true → stateChanging profile (profile.eventOf c) engine = true →
      ∀ place ∈ target profile (profile.eventOf c) engine,
        StaysApart profile env engine place ∧
          ∀ d, engine.Leaves place (profile.stateOfCause d) →
            (engine.uses d).initialised = true ∧ (d = c → ¬ engine.RunsOut c))

instance SafeEvaluation.decidable (env : Env n) (c : Fin n) (engine : Engine n E S P V) :
    Decidable (SafeEvaluation profile env c engine) :=
  inferInstanceAs (Decidable (_ ∧ (_ → _ → ∀ place ∈ target profile (profile.eventOf c) engine,
    _ ∧ ∀ d, engine.Leaves place (profile.stateOfCause d) → _ ∧ (_ → _))))

/-- A safe evaluation keeps the uses balanced and the engine in its state. -/
theorem handleCauseEvent_steady (proper : profile.Proper) (starts : ∀ c, env.starts c = true)
    {c : Fin n} (steady : Steady profile engine) (safe : SafeEvaluation profile env c engine) :
    Steady profile (handleCauseEvent profile env c engine) ∧
      (handleCauseEvent profile env c engine).state = engine.state := by
  obtain ⟨countable, moves⟩ := safe
  obtain ⟨judgedSteady, met⟩ := judged_steady proper starts steady countable
  have calm := judged_calm profile env c engine
  have markedUses : (marked profile env c engine).uses = (judged profile env c engine).1.uses := by
    exact setCause_uses_self _ rfl
  have markedSteady : Steady profile (marked profile env c engine) :=
    judgedSteady.congr markedUses rfl rfl
  have frame := marked_frame profile env c engine
  have freed (before : Engine n E S P V) (isSteady : Steady profile before)
      (same : before.state = engine.state) :
      Steady profile (before.freeValuearray c) ∧ (before.freeValuearray c).state =
        engine.state := by
    have calmFree := freeValuearray_calm before c
    exact ⟨isSteady.congr (freeValuearray_uses before c) calmFree.currentState
      calmFree.globalStates, calmFree.state.trans same⟩
  rcases handleCauseEvent_cases profile env c engine with
    ⟨_, _, same⟩ | ⟨_, _, same⟩ | ⟨isMet, doesFire, _, same⟩
  · rw [same]
    apply freed
    · exact judgedSteady.congr (setCause_uses_self _ rfl) rfl rfl
    · exact calm.state
  · rw [same]
    exact freed _ markedSteady frame.2.2.2.2
  · rw [same]
    let fired := (marked profile env c engine).record (.fired (profile.eventOf c))
    have purpose : fired.currentPurpose = engine.currentPurpose := frame.2.1
    have current : fired.currentState = engine.currentState := frame.2.2.1
    have globals : fired.globalStates = engine.globalStates := frame.2.2.2.1
    have uses : fired.uses = engine.uses ∨
      (engine.RunsOut c ∧ fired.uses = exhausted c engine.uses) := by
      have firedUses : fired.uses = (judged profile env c engine).1.uses := markedUses
      rw [firedUses]
      exact met isMet
    have after : Steady profile (afterActions profile env (profile.eventOf c) fired) ∧
        (afterActions profile env (profile.eventOf c) fired).state = fired.state := by
      have firedSteady : Steady profile fired := markedSteady.congr rfl rfl rfl
      apply afterActions_steady proper starts firedSteady
      · rcases countable with inUse | ⟨notOut, left⟩
        · left
          unfold InUse at inUse ⊢
          rwa [current, globals]
        · right
          rcases uses with sameUses | ⟨runsOut, _⟩
          · rw [sameUses]
            exact left
          · exact absurd runsOut notOut
      · intro changing place isTarget
        have sameTarget : target profile (profile.eventOf c) fired =
            target profile (profile.eventOf c) engine := by
          unfold target
          rw [gotoPurpose_congr _ purpose]
        rw [stateChanging_congr _ purpose current] at changing
        rw [sameTarget] at isTarget
        obtain ⟨apart, started⟩ := moves doesFire changing place isTarget
        constructor
        · unfold StaysApart
          rw [globals, purpose]
          exact apart
        · intro d leaves
          unfold Leaves at leaves
          rw [current, globals, purpose] at leaves
          obtain ⟨isStarted, notOut⟩ := started d leaves
          rcases uses with sameUses | ⟨runsOut, others⟩
          · rw [sameUses]
            exact isStarted
          · have other : d ≠ c := fun same => notOut same runsOut
            rw [others]
            unfold exhausted
            rwa [Function.update_of_ne other]
    exact freed _ after.1 (after.2.trans frame.2.2.2.2)

end Engine

namespace Machine

open Engine

variable (profile : Profile n E S P T V) {env : Env n} {engine : Engine n E S P V}

/-- The condition on a start in a purpose: there is memory for its global states, and the
state that becomes current is none of them if it has causes. -/
def Startable (env : Env n) (place : P × S) : Prop :=
  (env.allocated = true ∨ profile.globals place.1 = []) ∧
    ∀ c, profile.stateOfCause c = place.2 → place.2 ∉ profile.globals place.1

omit [DecidableEq E] [DecidableEq P] in
instance Startable.decidable (env : Env n) (place : P × S) :
    Decidable (Startable profile env place) :=
  inferInstanceAs (Decidable (_ ∧ ∀ c, profile.stateOfCause c = place.2 → _))

omit [DecidableEq E] in
/-- The purpose and the state that `profile_main` starts in. -/
def startPlace : Option (P × S) :=
  (profile.findPurpose (-1)).bind (fun p => (profile.findState p (-1)).map (fun s => (p, s)))

/-- The purpose and the state that `profile_continue` starts in. -/
def pausedPlace (engine : Engine n E S P V) : Option (P × S) :=
  engine.currentPurpose.bind (fun p => engine.currentState.map (fun s => (p, s)))

/-- The condition on a step. Senses start, evaluations are safe, and a stop finds all
causes of the states in use initialised. -/
def KeepsBalance (machine : Machine n E S P V) (action : Action n V × Env n) : Prop :=
  (∀ c, action.2.starts c = true) ∧
    (∀ evaluation ∈ machine.evaluates profile action.1,
      SafeEvaluation profile action.2 evaluation.1 evaluation.2) ∧
    match action.1 with
    | .main =>
      machine.engine.state = .stopped →
        ∀ place ∈ startPlace profile, Startable profile action.2 place
    | .continue =>
      machine.engine.state = .paused →
        ∀ place ∈ pausedPlace machine.engine, Startable profile action.2 place
    | .stop _ =>
      machine.walk = none → machine.engine.state = .running →
        ∀ c, machine.engine.InUse (profile.stateOfCause c) →
          (machine.engine.uses c).initialised = true
    | _ => True

instance KeepsBalance.decidable (machine : Machine n E S P V) (action : Action n V × Env n) :
    Decidable (KeepsBalance profile machine action) := by
  unfold KeepsBalance
  obtain ⟨what, env⟩ := action
  cases what <;> exact inferInstance

/-- A machine whose causes are balanced while it runs, and otherwise not initialised. -/
structure Used (machine : Machine n E S P V) : Prop where
  running : machine.engine.state = .running → Steady profile machine.engine
  idle : machine.engine.state ≠ .running →
    machine.engine.globalStates = [] ∧ Balanced profile (fun _ => False) machine.engine.uses
  walking : machine.walk ≠ none → machine.engine.state = .running

variable {profile}

omit [DecidableEq E] [DecidableEq S] [DecidableEq P] in
theorem Used.of_running (steady : Steady profile engine) (isRunning : engine.state = .running)
    (walk : Option (Walk n)) : Used profile ⟨engine, walk⟩ :=
  ⟨fun _ => steady, fun notRunning => absurd isRunning notRunning, fun _ => isRunning⟩

theorem profileMain_used (proper : profile.Proper) (starts : ∀ c, env.starts c = true)
    (isStopped : engine.state = .stopped) (balanced : Balanced profile (fun _ => False) engine.uses)
    (startable : ∀ place ∈ startPlace profile, Startable profile env place) :
    Used profile ⟨engine.profileMain profile env, none⟩ := by
  let fresh : Engine n E S P V :=
    { engine with currentPurpose := none, currentState := none, globalStates := [] }
  have steady : Steady profile fresh := by
    refine ⟨?_, ?_, nodup_nil, ?_⟩
    · apply balanced.congr
      intro c
      simp [fresh, InUse]
    · intro c _
      exact not_mem_nil
    · intro s isIn
      exact absurd isIn not_mem_nil
  have main : engine.profileMain profile env =
      if (initProfile profile env (-1) (-1) fresh).2 then
        { (initProfile profile env (-1) (-1) fresh).1 with state := .running }
      else (initProfile profile env (-1) (-1) fresh).1 := rfl
  rw [main]
  cases isPlace : startPlace profile with
  | none =>
    have missing : (profile.findPurpose (-1)).bind (fun p => profile.findState p (-1)) = none := by
      simpa [startPlace] using isPlace
    rw [initProfile_of_missing env missing, if_neg (by simp)]
    refine ⟨?_, fun _ => ⟨rfl, balanced⟩, fun impossible => absurd rfl impossible⟩
    intro isRunning
    have state : fresh.state = .stopped := isStopped
    rw [state] at isRunning
    simp at isRunning
  | some place =>
    obtain ⟨memory, apart⟩ := startable place isPlace
    obtain ⟨p, found, rest⟩ := Option.bind_eq_some_iff.mp isPlace
    obtain ⟨s, foundState, same⟩ := Option.map_eq_some_iff.mp rest
    subst same
    rw [if_pos (initProfile_starts proper starts found foundState memory fresh)]
    have after : Steady profile (initProfile profile env (-1) (-1) fresh).1 := by
      apply (initProfile_steady proper starts found foundState steady ?_ ?_).1
      · rintro c (⟨isCurrent, _⟩ | ⟨_, isGlobal⟩)
        · exact absurd isCurrent (by simp [fresh])
        · exact absurd isGlobal not_mem_nil
      · intro c here
        exact ⟨not_mem_nil, fun _ _ => apart c here⟩
    have begun : Steady profile
        { (initProfile profile env (-1) (-1) fresh).1 with state := .running } :=
      after.congr rfl rfl rfl
    exact Used.of_running begun rfl none

omit [DecidableEq P] in
theorem profileStop_used (proper : profile.Proper) (steady : Steady profile engine)
    (started : ∀ c, engine.InUse (profile.stateOfCause c) → (engine.uses c).initialised = true)
    (free : Bool) : Used profile ⟨engine.profileStop profile free, none⟩ := by
  obtain ⟨balanced, kept⟩ := uninitGlobalStates_balanced proper steady
    (fun c isIn => started c (Or.inr isIn))
  have frame := uninitGlobalStates_frame profile engine
  have left : Balanced profile (fun _ => False)
      (leaveCurrent profile (uninitGlobalStates profile engine)).uses := by
    unfold leaveCurrent
    rw [frame.2.1]
    cases current : engine.currentState with
    | none =>
      apply balanced.congr
      intro c
      simp [current]
    | some old =>
      rw [leaveState_uses proper]
      have isOld (c : Fin n) (isIn : profile.stateOfCause c ∈ [old]) :
          engine.currentState = some (profile.stateOfCause c) := by
        rw [current, mem_singleton.mp isIn]
      have ended := balanced.endedIn [old] (by
        intro c isIn
        have isCurrent := isOld c isIn
        rw [kept c (steady.apart c isCurrent)]
        exact started c (Or.inl isCurrent))
      apply ended.congr
      intro c
      simp [current, eq_comm]
  have idle : (leaveCurrent profile (uninitGlobalStates profile engine)).globalStates = [] :=
    (leaveCurrent_frame profile (uninitGlobalStates profile engine)).2.1
  have notRunning : (engine.profileStop profile free).state ≠ .running := by
    unfold profileStop
    cases free <;> simp
  exact ⟨fun isRunning => absurd isRunning notRunning, fun _ => ⟨idle, left⟩,
    fun impossible => absurd rfl impossible⟩

omit [DecidableEq P] in
theorem profileContinue_used (proper : profile.Proper) (starts : ∀ c, env.starts c = true)
    (notRunning : engine.state ≠ .running) (none : engine.globalStates = [])
    (balanced : Balanced profile (fun _ => False) engine.uses)
    (startable : ∀ place ∈ pausedPlace engine, Startable profile env place) :
    Used profile ⟨engine.profileContinue profile env, Option.none⟩ := by
  have unchanged : Used profile ⟨engine, Option.none⟩ :=
    ⟨fun isRunning => absurd isRunning notRunning, fun _ => ⟨none, balanced⟩,
      fun impossible => absurd rfl impossible⟩
  unfold profileContinue
  split
  · next p s isPurpose isState =>
    obtain ⟨memory, apart⟩ := startable (p, s) (by simp [pausedPlace, isPurpose, isState])
    obtain ⟨ok, globalUses, globals, same⟩ :=
      initGlobalStates_starts proper starts memory engine
    rw [none, nil_append] at globals
    let added := (initGlobalStates profile env p engine).1
    obtain ⟨entered, uses⟩ := enterState_uses proper starts s added
    have calm := enterState_calm profile env s added
    have allGlobals : (enterState profile env s added).1.globalStates = profile.globals p :=
      calm.globalStates.trans globals
    have current : (enterState profile env s added).1.currentState = some s := by
      rw [← isState]
      exact calm.currentState.trans same
    have notGlobal (c : Fin n) (isIn : profile.stateOfCause c ∈ [s]) :
        profile.stateOfCause c ∉ profile.globals p := by
      have here := mem_singleton.mp isIn
      rw [here]
      exact apart c here
    have steady : Steady profile (enterState profile env s added).1 := by
      refine ⟨?_, ?_, ?_, ?_⟩
      · rw [uses, show added.uses = _ from globalUses]
        have first : Balanced profile (fun t => False ∨ t ∈ profile.globals p)
            (begunIn profile (profile.globals p) engine.uses) :=
          balanced.begunIn _ (fun _ _ impossible => impossible)
        have second := first.begunIn [s] (by
          rintro c isIn (impossible | isGlobal)
          · exact impossible
          · exact notGlobal c isIn isGlobal)
        apply second.congr
        intro c
        unfold InUse
        rw [allGlobals, current, mem_singleton, Option.some.injEq]
        constructor
        · rintro ((impossible | isGlobal) | here)
          · exact impossible.elim
          · exact Or.inr isGlobal
          · exact Or.inl here.symm
        · rintro (here | isGlobal)
          · exact Or.inr here.symm
          · exact Or.inl (Or.inr isGlobal)
      · intro c isCurrent
        rw [current] at isCurrent
        rw [allGlobals]
        apply notGlobal
        exact mem_singleton.mpr (Option.some.inj isCurrent).symm
      · rw [allGlobals]
        exact (proper.states p).filter _
      · rw [allGlobals]
        intro t isIn
        exact (mem_filter.mp isIn).2
    rw [if_pos ok, if_pos entered]
    have running : Steady profile { (enterState profile env s added).1 with state := .running } :=
      steady.congr rfl rfl rfl
    exact Used.of_running running rfl Option.none
  · exact unchanged

section

omit [DecidableEq E] [DecidableEq S] [DecidableEq P]

theorem Used.congr {before : Machine n E S P V} (used : Used profile before)
    (uses : engine.uses = before.engine.uses) (calm : Calm before.engine engine)
    (walk : Option (Walk n)) (walking : walk ≠ none → before.engine.state = .running) :
    Used profile ⟨engine, walk⟩ where
  running := by
    intro isRunning
    have wasRunning := calm.state.symm.trans isRunning
    exact (used.running wasRunning).congr uses calm.currentState calm.globalStates
  idle := by
    intro notRunning
    have wasIdle : before.engine.state ≠ .running := by
      rw [← calm.state]
      exact notRunning
    obtain ⟨none, balanced⟩ := used.idle wasIdle
    refine ⟨calm.globalStates.trans none, ?_⟩
    rw [uses]
    exact balanced
  walking := fun isWalking => calm.state.trans (walking isWalking)

theorem deliver_uses (c : Fin n) (engine : Engine n E S P V) (sample : Sample V) :
    (engine.deliver c sample).uses = engine.uses := by
  cases sample with
  | plain valuetype value | array values => exact setCause_uses_self engine rfl

end

theorem evaluation_used (proper : profile.Proper) (starts : ∀ c, env.starts c = true) {c : Fin n}
    (steady : Steady profile engine) (isRunning : engine.state = .running)
    (safe : SafeEvaluation profile env c engine) (walk : Option (Walk n)) :
    Used profile ⟨engine.handleCauseEvent profile env c, walk⟩ := by
  obtain ⟨after, state⟩ := handleCauseEvent_steady proper starts steady safe
  exact Used.of_running after (state.trans isRunning) walk

/-! ## Runs -/

/-- Every action that keeps the balance leaves balanced uses. -/
theorem step_used (proper : profile.Proper) {machine : Machine n E S P V}
    (used : Used profile machine) {action : Action n V × Env n}
    (keeps : KeepsBalance profile machine action) :
    Used profile (machine.step profile action) := by
  obtain ⟨starts, evaluation, others⟩ := keeps
  obtain ⟨engine, walk⟩ := machine
  obtain ⟨what, env⟩ := action
  cases walk with
  | some walk =>
    have isRunning : engine.state = .running := used.walking (by simp)
    have steady := used.running isRunning
    cases what with
    | next =>
      obtain ⟨source, iterator⟩ := walk
      cases iterator with
      | none => exact Used.of_running steady isRunning none
      | some c =>
        by_cases same : (profile.cause c).sId = (profile.cause source).sId
        · have safe := evaluation (c, copyValue source c engine) (by simp [evaluates, same])
          have calm := copyValue_calm source c engine
          have copied : Steady profile (copyValue source c engine) :=
            steady.congr (setCause_uses_self engine rfl) calm.currentState calm.globalStates
          have after := evaluation_used proper starts copied (calm.state.trans isRunning) safe
          simpa [step, nextTurn, same] using after _
        · simpa [step, nextTurn, same] using Used.of_running steady isRunning _
    | main => exact used
    | sample _ _ => exact used
    | direct _ _ => exact used
    | stop _ => exact used
    | «continue» => exact used
  | none =>
    cases what with
    | next => exact used
    | main =>
      by_cases isStopped : engine.state = .stopped
      · have idle := used.idle (by simp [isStopped])
        have after := profileMain_used proper starts isStopped idle.2 (others isStopped)
        simpa [step, isStopped] using after
      · simpa [step, isStopped] using used
    | sample source sample =>
      by_cases possible : engine.state = .running ∧ (engine.cause source).initialised
      · have after := used.congr (deliver_uses source engine sample)
          (deliver_calm source engine sample)
          (some ⟨source, (engine.activeCauses (profile.stateOfCause source)).head⟩)
          (fun _ => possible.1)
        simpa [step, possible] using after
      · simpa [step, possible] using used
    | direct c sample =>
      by_cases possible : engine.state = .running ∧ (engine.cause c).initialised
      · have safe := evaluation (c, engine.deliver c sample) (by simp [evaluates, possible])
        have calm := deliver_calm c engine sample
        have delivered : Steady profile (engine.deliver c sample) :=
          (used.running possible.1).congr (deliver_uses c engine sample) calm.currentState
            calm.globalStates
        have after := evaluation_used proper starts delivered
          (calm.state.trans possible.1) safe
        simpa [step, possible] using after none
      · simpa [step, possible] using used
    | stop free =>
      by_cases isRunning : engine.state = .running
      · have after := profileStop_used proper (used.running isRunning) (others rfl isRunning) free
        simpa [step, isRunning] using after
      · simpa [step, isRunning] using used
    | «continue» =>
      by_cases isPaused : engine.state = .paused
      · have notRunning : engine.state ≠ .running := by simp [isPaused]
        obtain ⟨none, balanced⟩ := used.idle notRunning
        have after := profileContinue_used proper starts notRunning none balanced
          (others isPaused)
        simpa [step, isPaused] using after
      · simpa [step, isPaused] using used

omit [DecidableEq E] [DecidableEq S] [DecidableEq P] in
theorem initial_used (zero : V) : Used profile (initial n E S P zero) where
  running := fun isRunning => by simp [initial] at isRunning
  idle := fun _ => by
    refine ⟨rfl, ?_, ?_, ?_, ?_⟩
    · intro c
      exact ⟨trivial, by simp [initial, uses, CauseDyn.use], rfl, by
        simp [initial, uses, CauseDyn.use]⟩
    · intro c started
      simp [initial, uses, CauseDyn.use] at started
    · intro c impossible
      exact impossible.elim
    · intro c _
      rfl
  walking := fun isWalking => absurd rfl isWalking

/-- In a run whose steps all meet the condition, the calls of the init and the uninit
operation of each cause alternate and start with init, the assertions of `init_cause`
hold, and no cause is initialised while the engine is stopped or paused. -/
theorem calls_are_balanced (profile : Profile n E S P T V) (proper : profile.Proper) (zero : V)
    (actions : List (Action n V × Env n))
    (guarded : Guarded (step profile) (KeepsBalance profile) (initial n E S P zero) actions) :
    let engine := (run profile (initial n E S P zero) actions).engine
    ∀ c, Alternates (engine.cause c).calls ∧ (engine.cause c).leaked = false ∧
      ((engine.cause c).initialised = true ↔ (engine.cause c).calls.head? = some .init) ∧
      (engine.state ≠ .running → (engine.cause c).initialised = false) := by
  have used : Used profile (run profile (initial n E S P zero) actions) :=
    foldl_invariant (Used profile) (fun _ _ before keeps => step_used proper before keeps)
      (initial_used zero) guarded
  have allFair (c : Fin n) : ((run profile (initial n E S P zero) actions).engine.uses c).Fair := by
    by_cases isRunning : (run profile (initial n E S P zero) actions).engine.state = .running
    · exact (used.running isRunning).balanced.fair c
    · exact (used.idle isRunning).2.fair c
  intro engine c
  refine ⟨(allFair c).alternates, (allFair c).whole, (allFair c).last, ?_⟩
  intro notRunning
  cases started : (engine.cause c).initialised with
  | false => rfl
  | true => exact ((used.idle notRunning).2.located c started).elim

attribute [local instance] neZero_one

theorem measured_mem_causes : ∀ (c : Fin 1) (e : Unit), c ∈ [0] ↔ () = e := by
  intro c e
  cases e
  revert c
  decide

theorem measured_mem_events (e : Unit) (s : Bool) :
    e ∈ (if s then [] else [()]) ↔ false = s := by
  cases s <;> simp

theorem measured_mem_states (s : Bool) (p : Unit) : s ∈ [false, true] ↔ () = p := by
  cases s <;> simp

/-- A purpose with two states. The first one has an event with one cause that is measured
`count` times, and the event goes to the second one. -/
def measured (count : Int) : Profile 1 Unit Bool Unit Unit Nat where
  cause := fun _ =>
    { sId := 0
      orderId := 0
      interval := -1
      count := count
      thresholdCount := 0
      negate := false
      relative := false
      thresholds := [()]
      minType := .uint32
      holds := true }
  eventOf := fun _ => ()
  stateOf := fun _ => false
  purposeOf := fun _ => ()
  causes := fun _ => [0]
  events := fun s => if s then [] else [()]
  states := fun _ => [false, true]
  purposes := [()]
  gotoStId := fun _ => 1
  gotoPuId := fun _ => -1
  stId := fun s => if s then 1 else 0
  isGlobal := fun _ => false
  puId := fun _ => 0
  initStId := fun _ => 0
  initPuId := 0
  check := fun _ _ _ => true
  isGeofence := fun _ => false
  geofence := fun _ _ => none
  ofBool := fun inside => if inside then 1 else 0
  mem_causes := measured_mem_causes
  mem_events := measured_mem_events
  mem_states := measured_mem_states

theorem measured_proper (count : Int) : (measured count).Proper where
  causes := fun _ => nodup_singleton _
  events := fun s => by cases s <;> simp [measured]
  states := fun _ => by simp [measured]

/-- The last measurement makes the event fire, and leaving the state un-initialises the
cause once more. -/
theorem uninitialised_twice :
    let actions : List (Action 1 Nat × Env 1) :=
      [(.main, allStart), (.direct 0 (.plain .uint32 7), allStart)]
    let engine := (run (measured 1) (initial 1 Unit Bool Unit 0) actions).engine
    (∀ action ∈ actions, action.2.Succeeds) ∧
      (engine.cause 0).calls = [.uninit, .uninit, .init] ∧
      ¬ Alternates (engine.cause 0).calls := by
  decide

/-- Without a measurement count the calls are balanced. -/
theorem uninitialised_once :
    let engine := (run (measured 0) (initial 1 Unit Bool Unit 0)
      [(.main, allStart), (.direct 0 (.plain .uint32 7), allStart), (.stop true, allStart)]).engine
    ∀ c, Alternates (engine.cause c).calls ∧ (engine.cause c).leaked = false ∧
      ((engine.cause c).initialised = true ↔ (engine.cause c).calls.head? = some .init) ∧
      (engine.state ≠ .running → (engine.cause c).initialised = false) :=
  calls_are_balanced (measured 0) (measured_proper 0) 0
    [(.main, allStart), (.direct 0 (.plain .uint32 7), allStart), (.stop true, allStart)]
    (by decide)

end Machine

end Thingsee.Profiles
