import Thingsee.Profiles.Placement

/-!
Owns the transitions between states and purposes: after each of them the current state
and the global states of the current purpose are the only active states.
-/

namespace Thingsee.Profiles

open Support

variable {n : Nat} {E S P T V : Type} [DecidableEq E] [DecidableEq S]

/-- Causes trigger and events fire only in active states. -/
def StaysQuiet (profile : Profile n E S P T V) : List (Entry n E S V) → Prop
  | [] => True
  | .triggered c :: rest =>
    isActive (profile.stateOfCause c) rest = true ∧ StaysQuiet profile rest
  | .fired e :: rest => isActive (profile.stateOf e) rest = true ∧ StaysQuiet profile rest
  | _ :: rest => StaysQuiet profile rest

instance StaysQuiet.decidable (profile : Profile n E S P T V) (log : List (Entry n E S V)) :
    Decidable (StaysQuiet profile log) :=
  match log with
  | [] => isTrue trivial
  | .triggered _ :: rest =>
    have := StaysQuiet.decidable profile rest
    inferInstanceAs (Decidable (_ ∧ _))
  | .fired _ :: rest =>
    have := StaysQuiet.decidable profile rest
    inferInstanceAs (Decidable (_ ∧ _))
  | .evaluated _ _ :: rest => StaysQuiet.decidable profile rest
  | .left _ :: rest => StaysQuiet.decidable profile rest
  | .entered _ :: rest => StaysQuiet.decidable profile rest
  | .moved :: rest => StaysQuiet.decidable profile rest

/-- How often the state or the purpose has changed. -/
def moves : List (Entry n E S V) → Nat
  | [] => 0
  | .moved :: rest => moves rest + 1
  | _ :: rest => moves rest

namespace Engine

variable {profile : Profile n E S P T V}
  {env : Env n} {before : Engine n E S P V} {s : S} {puId : Int} {p : P}
  {after : Engine n E S P V} {id : Int} (engine : Engine n E S P V) {stId : Int} {t : S}

structure Passes (profile : Profile n E S P T V) (entered : S → Prop)
    (before after : Engine n E S P V) : Prop where
  quiet : StaysQuiet profile after.log ↔ StaysQuiet profile before.log
  moves : moves after.log = moves before.log
  running : Running profile before → Running profile after
  flink : Running profile before → ∀ a, ¬ entered (profile.stateOfCause a) →
    after.flink a = before.flink a
  active : ∀ s, isActive s after.log = true → isActive s before.log = true ∨ entered s

section

omit [DecidableEq E]

theorem Passes.trans {ones others : S → Prop} {first second third : Engine n E S P V}
    (one : Passes profile ones first second) (two : Passes profile others second third) :
    Passes profile (fun s => ones s ∨ others s) first third where
  quiet := two.quiet.trans one.quiet
  moves := two.moves.trans one.moves
  running := fun start => two.running (one.running start)
  flink := by
    intro start a notEntered
    rw [two.flink (one.running start) a (fun isOther => notEntered (Or.inr isOther))]
    exact one.flink start a (fun isOne => notEntered (Or.inl isOne))
  active := by
    intro s isIn
    rcases two.active s isIn with middle | isOther
    · rcases one.active s middle with start | isOne
      · exact Or.inl start
      · exact Or.inr (Or.inl isOne)
    · exact Or.inr (Or.inr isOther)

theorem Passes.mono {ones more : S → Prop} (passes : Passes profile ones before after)
    (wider : ∀ s, ones s → more s) :
    Passes profile more before after where
  quiet := passes.quiet
  moves := passes.moves
  running := passes.running
  flink := fun start a notEntered =>
    passes.flink start a (fun isOne => notEntered (wider _ isOne))
  active := fun s isIn => (passes.active s isIn).imp_right (wider s)

theorem passes_of_eq (entered : S → Prop) (log : after.log = before.log)
    (flink : after.flink = before.flink) (queues : after.activeCauses = before.activeCauses)
    (causes : after.cause = before.cause) :
    Passes profile entered before after where
  quiet := by rw [log]
  moves := by rw [log]
  running := by
    intro start
    refine ⟨?_, ?_, ?_, ?_⟩
    · rw [flink]
      exact start.link
    · rw [queues]
      exact start.head
    · rw [queues]
      exact start.tail
    · rw [causes, log]
      exact start.runs
  flink := fun _ a _ => by rw [flink]
  active := fun s isIn => Or.inl (by rwa [log] at isIn)

end

theorem leaveState_passes (s : S) (engine : Engine n E S P V) :
    Passes profile (fun _ => False) engine (leaveState profile s engine).1 := by
  have calm := @leaveState_calm n E S P T V _ _ profile s engine
  refine ⟨?_, ?_, leaveState_running s, ?_, ?_⟩
  · rw [calm.log]
    exact Iff.rfl
  · rw [calm.log]
    rfl
  · intro _ a _
    rw [leaveState_flink]
  · intro t isIn
    rw [calm.log] at isIn
    left
    simp only [record, isActive] at isIn
    split at isIn
    · simp at isIn
    · exact isIn

theorem enterState_passes (env : Env n) (s : S) (engine : Engine n E S P V) :
    Passes profile (fun t => t = s) engine (enterState profile env s engine).1 := by
  have calm := enterState_calm profile env s engine
  refine ⟨?_, ?_, enterState_running env s, ?_, ?_⟩
  · rw [calm.log]
    exact Iff.rfl
  · rw [calm.log]
    rfl
  · intro start a notEntered
    exact enterState_flink env start notEntered
  · intro t isIn
    rw [calm.log] at isIn
    simp only [record, isActive] at isIn
    split at isIn
    · next same => exact Or.inr same.symm
    · exact Or.inl isIn

theorem leaveState_inactive (s : S) (engine : Engine n E S P V) :
    isActive s (leaveState profile s engine).1.log = false := by
  rw [(leaveState_calm s engine).log]
  simp [record, isActive]

omit [DecidableEq E] in
theorem Passes.inactive {entered : S → Prop} (passes : Passes profile entered before after)
    (notEntered : ¬ entered s) (inactive : isActive s before.log = false) :
    isActive s after.log = false := by
  by_contra isIn
  rcases passes.active s (by simpa using isIn) with was | isEntered
  · rw [inactive] at was
    simp at was
  · exact notEntered isEntered

theorem addGlobalState_passes (succeeds : env.Succeeds) (s : S) (engine : Engine n E S P V) :
    Passes profile (fun t => t = s) engine (addGlobalState profile env s engine).1 := by
  rw [addGlobalState_eq _ succeeds]
  have added : Passes profile (fun _ => False) engine
      { engine with globalStates := engine.globalStates ++ [s] } :=
    passes_of_eq _ rfl rfl rfl rfl
  exact (added.trans (enterState_passes env s _)).mono (by simp)

structure Added (before after : Engine n E S P V) (added : S → Prop) : Prop where
  currentPurpose : after.currentPurpose = before.currentPurpose
  currentState : after.currentState = before.currentState
  state : after.state = before.state
  old : ∀ s ∈ before.globalStates, s ∈ after.globalStates
  new : ∀ s ∈ after.globalStates, s ∈ before.globalStates ∨ added s

theorem addGlobalState_added (succeeds : env.Succeeds) (s : S) (engine : Engine n E S P V) :
    Added engine (addGlobalState profile env s engine).1 (fun t => t = s) ∧
      s ∈ (addGlobalState profile env s engine).1.globalStates := by
  rw [addGlobalState_eq _ succeeds]
  have calm := enterState_calm profile env s
    { engine with globalStates := engine.globalStates ++ [s] }
  have globals := calm.globalStates
  refine ⟨⟨calm.currentPurpose, calm.currentState, calm.state, ?_, ?_⟩, ?_⟩
  · intro t isOld
    rw [globals]
    simp [record, isOld]
  · intro t isIn
    rw [globals] at isIn
    simpa [record] using isIn
  · rw [globals]
    simp [record]

theorem initGlobalStates_passes (succeeds : env.Succeeds) (p : P) (engine : Engine n E S P V) :
    Passes profile (fun s => s ∈ profile.globals p) engine
      (initGlobalStates profile env p engine).1 := by
  apply untilError_invariant (Passes profile (fun s => s ∈ profile.globals p) engine)
  · intro s isGlobal before passes
    apply (passes.trans (addGlobalState_passes succeeds s before)).mono
    rintro t (isIn | same)
    · exact isIn
    · rwa [same]
  · exact passes_of_eq _ rfl rfl rfl rfl

theorem initGlobalStates_added (succeeds : env.Succeeds) (p : P) (engine : Engine n E S P V) :
    Added engine (initGlobalStates profile env p engine).1 (fun s => s ∈ profile.globals p) := by
  apply untilError_invariant
    (fun after : Engine n E S P V => Added engine after (fun s => s ∈ profile.globals p))
  · intro s isGlobal before added
    have one : Added before (addGlobalState profile env s before).1 (fun t => t = s) :=
      (addGlobalState_added succeeds s before).1
    refine ⟨one.currentPurpose.trans added.currentPurpose,
      one.currentState.trans added.currentState, one.state.trans added.state, ?_, ?_⟩
    · intro t isOld
      exact one.old t (added.old t isOld)
    · intro t isIn
      rcases one.new t isIn with wasIn | same
      · exact added.new t wasIn
      · right
        rwa [same]
  · exact ⟨rfl, rfl, rfl, fun _ isOld => isOld, fun _ isIn => Or.inl isIn⟩

theorem initGlobalStates_all (succeeds : env.Succeeds) (isGlobal : s ∈ profile.globals p)
    (engine : Engine n E S P V) : s ∈ (initGlobalStates profile env p engine).1.globalStates := by
  refine untilError_establishes (fun after : Engine n E S P V => s ∈ after.globalStates)
    ?_ ?_ isGlobal ?_ engine
  · intro t before
    rw [addGlobalState_eq _ succeeds]
    exact enterState_ok _ succeeds t _
  · intro t before isIn
    exact (addGlobalState_added succeeds t before).1.old s isIn
  · intro before
    exact (addGlobalState_added succeeds s before).2

variable (states : List S) (engine : Engine n E S P V)

theorem foldl_leaveState_passes :
    Passes profile (fun _ => False) engine
      (states.foldl (fun engine s => (leaveState profile s engine).1) engine) :=
  foldl_invariant_of_keeps (Passes profile (fun _ => False) engine)
    (fun before s passes => (passes.trans (leaveState_passes s before)).mono (by simp)) states
    (passes_of_eq _ rfl rfl rfl rfl)

theorem foldl_leaveState_frame :
    (states.foldl (fun engine s => (leaveState profile s engine).1) engine).currentPurpose =
        engine.currentPurpose ∧
      (states.foldl (fun engine s => (leaveState profile s engine).1) engine).currentState =
        engine.currentState ∧
      (states.foldl (fun engine s => (leaveState profile s engine).1) engine).state =
        engine.state := by
  apply foldl_invariant_of_keeps (fun after : Engine n E S P V =>
    after.currentPurpose = engine.currentPurpose ∧ after.currentState = engine.currentState ∧
      after.state = engine.state)
  · intro before s kept
    have calm := @leaveState_calm n E S P T V _ _ profile s before
    exact ⟨calm.currentPurpose.trans kept.1, calm.currentState.trans kept.2.1,
      calm.state.trans kept.2.2⟩
  · exact ⟨rfl, rfl, rfl⟩

theorem foldl_leaveState_inactive {states : List S} (isIn : s ∈ states)
    (engine : Engine n E S P V) :
    isActive s (states.foldl (fun engine s => (leaveState profile s engine).1) engine).log =
      false := by
  induction states generalizing engine with
  | nil => simp at isIn
  | cons first rest ih =>
    rw [List.foldl_cons]
    by_cases here : s = first
    · subst here
      exact (foldl_leaveState_passes rest _).inactive (by simp) (leaveState_inactive s engine)
    · exact ih (by simpa [here] using isIn) _

theorem uninitGlobalStates_passes :
    Passes profile (fun _ => False) engine (uninitGlobalStates profile engine) := by
  have left : Passes profile (fun _ => False) engine
      ((engine.globalStates.filter profile.isGlobal).foldl
        (fun engine s => (leaveState profile s engine).1) engine) :=
    foldl_leaveState_passes _ engine
  have emptied : Passes profile (fun _ => False)
      ((engine.globalStates.filter profile.isGlobal).foldl
        (fun engine s => (leaveState profile s engine).1) engine)
      (uninitGlobalStates profile engine) :=
    passes_of_eq _ rfl rfl rfl rfl
  exact (left.trans emptied).mono (by simp)

variable (profile) in
theorem uninitGlobalStates_frame :
    (uninitGlobalStates profile engine).currentPurpose = engine.currentPurpose ∧
      (uninitGlobalStates profile engine).currentState = engine.currentState ∧
      (uninitGlobalStates profile engine).state = engine.state :=
  foldl_leaveState_frame _ engine

theorem leaveCurrent_passes :
    Passes profile (fun _ => False) engine (leaveCurrent profile engine) := by
  unfold leaveCurrent
  split
  · exact passes_of_eq _ rfl rfl rfl rfl
  · exact leaveState_passes _ engine

theorem leaveCurrent_inactive {engine : Engine n E S P V}
    (isCurrent : engine.currentState = some s) :
    isActive s (leaveCurrent profile engine).log = false := by
  unfold leaveCurrent
  rw [isCurrent]
  exact leaveState_inactive s engine

theorem initPurpose_passes (succeeds : env.Succeeds) (found : profile.findState p id = some t)
    (engine : Engine n E S P V) :
    Passes profile (fun s => s = t) engine (initPurpose profile env p id engine).1 := by
  rw [initPurpose_eq succeeds found]
  split
  · exact passes_of_eq _ rfl rfl rfl rfl
  · have entered := (leaveCurrent_passes engine).trans
      (enterState_passes env t (leaveCurrent profile engine))
    have current : Passes profile (fun _ => False)
        (enterState profile env t (leaveCurrent profile engine)).1
        { (enterState profile env t (leaveCurrent profile engine)).1 with
          currentState := some t } :=
      passes_of_eq _ rfl rfl rfl rfl
    exact (entered.trans current).mono (by simp)

/-- The invariant of the engine: active are the current state and the global states of
the current purpose. -/
structure Sound (profile : Profile n E S P T V) (engine : Engine n E S P V) : Prop where
  running : Running profile engine
  quiet : StaysQuiet profile engine.log
  active : ∀ s, isActive s engine.log = true →
    engine.currentState = some s ∨ s ∈ engine.globalStates
  globals : ∀ s ∈ engine.globalStates, ∃ p, engine.currentPurpose = some p ∧ s ∈ profile.globals p
  purpose : ∀ s, engine.currentState = some s → engine.currentPurpose = some (profile.purposeOf s)

theorem initPurpose_active (succeeds : env.Succeeds) (found : profile.findState p id = some t)
    {engine : Engine n E S P V} (sound : Sound profile engine) (s : S)
    (isIn : isActive s (initPurpose profile env p id engine).1.log = true) :
    s = t ∨ s ∈ engine.globalStates := by
  rw [initPurpose_eq succeeds found] at isIn
  split at isIn
  · next same =>
    rcases sound.active s isIn with isCurrent | isGlobal
    · rw [same] at isCurrent
      exact Or.inl (Option.some.inj isCurrent).symm
    · exact Or.inr isGlobal
  · rcases (enterState_passes env t (leaveCurrent profile engine)).active s isIn with wasIn | same
    · right
      rcases (leaveCurrent_passes engine).active s wasIn with start | impossible
      · rcases sound.active s start with isCurrent | isGlobal
        · rw [leaveCurrent_inactive isCurrent] at wasIn
          simp at wasIn
        · exact isGlobal
      · exact impossible.elim
    · exact Or.inl same

section

omit [DecidableEq E] [DecidableEq S]

theorem findState_purpose (found : profile.findState p id = some t) : profile.purposeOf t = p :=
  (profile.mem_states t p).mp (List.mem_of_find?_eq_some found)

theorem globals_purpose (isGlobal : s ∈ profile.globals p) : profile.purposeOf s = p :=
  (profile.mem_states s p).mp (List.mem_filter.mp isGlobal).1

end

theorem uninitGlobalStates_active {engine : Engine n E S P V}
    (globals : ∀ s ∈ engine.globalStates, profile.isGlobal s = true)
    (isIn : isActive s (uninitGlobalStates profile engine).log = true) :
    isActive s engine.log = true ∧ s ∉ engine.globalStates := by
  constructor
  · rcases (uninitGlobalStates_passes engine).active s isIn with wasIn | impossible
    · exact wasIn
    · exact impossible.elim
  · intro isGlobal
    have inactive : isActive s (uninitGlobalStates profile engine).log = false :=
      foldl_leaveState_inactive (List.mem_filter.mpr ⟨isGlobal, globals s isGlobal⟩) engine
    rw [inactive] at isIn
    simp at isIn

omit [DecidableEq E] in
theorem Sound.isGlobal {engine : Engine n E S P V} (sound : Sound profile engine)
    (isIn : s ∈ engine.globalStates) : profile.isGlobal s = true := by
  obtain ⟨p, _, isGlobal⟩ := sound.globals s isIn
  exact (List.mem_filter.mp isGlobal).2

variable [DecidableEq P]

def Enters (profile : Profile n E S P T V) (engine : Engine n E S P V) (place : P × S) (s : S) :
    Prop :=
  s = place.2 ∨ (engine.currentPurpose ≠ some place.1 ∧ s ∈ profile.globals place.1)

section

variable (succeeds : env.Succeeds) (found : profile.findPurpose puId = some p)
  (foundState : profile.findState p stId = some t)
include succeeds found foundState

variable (engine : Engine n E S P V)

theorem initProfile_passes :
    Passes profile (Enters profile engine (p, t)) engine
      (initProfile profile env puId stId engine).1 := by
  have first := initPurpose_passes succeeds foundState engine
  have frame := initPurpose_frame succeeds foundState engine
  rw [initProfile_eq succeeds found foundState]
  dsimp only
  split
  · exact first.mono (fun s same => Or.inl same)
  · next changes =>
    rw [frame.1] at changes
    have globals := (first.trans (uninitGlobalStates_passes _)).trans
      (initGlobalStates_passes succeeds p
        (uninitGlobalStates profile (initPurpose profile env p stId engine).1))
    have moved : Passes profile (fun _ => False)
        (initGlobalStates profile env p
          (uninitGlobalStates profile (initPurpose profile env p stId engine).1)).1
        { (initGlobalStates profile env p
            (uninitGlobalStates profile (initPurpose profile env p stId engine).1)).1 with
          currentPurpose := some p } :=
      passes_of_eq _ rfl rfl rfl rfl
    apply (globals.trans moved).mono
    rintro s (((same | impossible) | isGlobal) | impossible)
    · exact Or.inl same
    · exact impossible.elim
    · exact Or.inr ⟨changes, isGlobal⟩
    · exact impossible.elim

theorem initProfile_state : (initProfile profile env puId stId engine).1.state = engine.state := by
  have frame := initPurpose_frame succeeds foundState engine
  have left := uninitGlobalStates_frame profile (initPurpose profile env p stId engine).1
  have added : Added (uninitGlobalStates profile (initPurpose profile env p stId engine).1)
      (initGlobalStates profile env p
        (uninitGlobalStates profile (initPurpose profile env p stId engine).1)).1
      (fun s => s ∈ profile.globals p) :=
    initGlobalStates_added succeeds p _
  rw [initProfile_eq succeeds found foundState]
  dsimp only
  split
  · exact frame.2.2.1
  · exact added.state.trans (left.2.2.trans frame.2.2.1)

theorem initProfile_sound {engine : Engine n E S P V} (sound : Sound profile engine) :
    Sound profile (initProfile profile env puId stId engine).1 := by
  have passes := initProfile_passes succeeds found foundState engine
  have frame := initPurpose_frame succeeds foundState engine
  have active := initPurpose_active succeeds foundState sound
  have ofPurpose : profile.purposeOf t = p := findState_purpose foundState
  have allGlobal : ∀ s ∈ (initPurpose profile env p stId engine).1.globalStates,
      profile.isGlobal s = true := by
    rw [frame.2.1]
    exact fun s => sound.isGlobal
  have added : Added (uninitGlobalStates profile (initPurpose profile env p stId engine).1)
      (initGlobalStates profile env p
        (uninitGlobalStates profile (initPurpose profile env p stId engine).1)).1
      (fun s => s ∈ profile.globals p) :=
    initGlobalStates_added succeeds p _
  have left := uninitGlobalStates_frame profile (initPurpose profile env p stId engine).1
  refine ⟨passes.running sound.running, passes.quiet.mpr sound.quiet, ?_, ?_, ?_⟩
  · rw [initProfile_eq succeeds found foundState]
    dsimp only
    split
    · intro s isIn
      rw [frame.2.2.2, frame.2.1]
      exact (active s isIn).imp_left (congrArg some ∘ Eq.symm)
    · intro s isIn
      rcases (initGlobalStates_passes succeeds p
        (uninitGlobalStates profile (initPurpose profile env p stId engine).1)).active s isIn with
        wasIn | isGlobal
      · left
        have was := uninitGlobalStates_active allGlobal wasIn
        rw [frame.2.1] at was
        rcases active s was.1 with same | isOld
        · subst same
          exact added.currentState.trans (left.2.1.trans frame.2.2.2)
        · exact absurd isOld was.2
      · exact Or.inr (initGlobalStates_all succeeds isGlobal _)
  · rw [initProfile_eq succeeds found foundState]
    dsimp only
    split
    · intro s isIn
      rw [frame.2.1] at isIn
      rw [frame.1]
      exact sound.globals s isIn
    · intro s isIn
      rcases added.new s isIn with wasIn | isGlobal
      · simp [uninitGlobalStates] at wasIn
      · exact ⟨p, rfl, isGlobal⟩
  · rw [initProfile_eq succeeds found foundState]
    dsimp only
    split
    · next same =>
      intro s isCurrent
      rw [frame.2.2.2] at isCurrent
      rw [same, ← Option.some.inj isCurrent, ofPurpose]
    · intro s isCurrent
      have current : some t = some s := by
        rw [← frame.2.2.2, ← isCurrent]
        exact (added.currentState.trans left.2.1).symm
      rw [← Option.some.inj current, ofPurpose]

end

end Engine

end Thingsee.Profiles
