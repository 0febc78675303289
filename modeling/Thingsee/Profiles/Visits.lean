import Thingsee.Profiles.Transitions

/-!
Owns what a transition does to one state. It records when it leaves or enters the
state, and where it does neither, the causes of the state and the order counters of its
events are as before, whether the transition succeeds or fails.
-/

namespace Thingsee.Profiles

open Support

variable {n : Nat} {E S P T V : Type} [DecidableEq E] [DecidableEq S]

/-- How many times a state has been left or entered. -/
def visits (s : S) : List (Entry n E S V) → Nat
  | [] => 0
  | .left t :: rest => if t = s then visits s rest + 1 else visits s rest
  | .entered t :: rest => if t = s then visits s rest + 1 else visits s rest
  | _ :: rest => visits s rest

namespace Engine

variable {profile : Profile n E S P T V} (env : Env n) (s t : S) (engine : Engine n E S P V)

/-- The causes of a state and the order counters of its events are the same. -/
structure Spared (profile : Profile n E S P T V) (s : S) (before after : Engine n E S P V) :
    Prop where
  causes : ∀ c, profile.stateOfCause c = s → after.cause c = before.cause c
  orders : ∀ e, profile.stateOf e = s → after.expectedOrderId e = before.expectedOrderId e

/-- A change that spares a state unless it leaves or enters it. -/
structure Kept (profile : Profile n E S P T V) (s : S) (before after : Engine n E S P V) :
    Prop where
  visits : visits s before.log ≤ visits s after.log
  spared : Profiles.visits s after.log = Profiles.visits s before.log →
    Spared profile s before after

omit [DecidableEq E] in
theorem Kept.trans {s : S} {first second third : Engine n E S P V}
    (one : Kept profile s first second) (two : Kept profile s second third) :
    Kept profile s first third where
  visits := Nat.le_trans one.visits two.visits
  spared := by
    intro same
    have early : Profiles.visits s second.log = Profiles.visits s first.log :=
      Nat.le_antisymm (same ▸ two.visits) one.visits
    have before := one.spared early
    have after := two.spared (same.trans early.symm)
    exact ⟨fun c inState => (after.causes c inState).trans (before.causes c inState),
      fun e inState => (after.orders e inState).trans (before.orders e inState)⟩

omit [DecidableEq E] in
theorem kept_of_eq {before after : Engine n E S P V} (log : after.log = before.log)
    (causes : after.cause = before.cause) (orders : after.expectedOrderId =
      before.expectedOrderId) :
    Kept profile s before after where
  visits := Nat.le_of_eq (by rw [log])
  spared := fun _ => ⟨fun c _ => by rw [causes], fun e _ => by rw [orders]⟩

/-- A function of a cause that leaves the other causes and the order counters alone. -/
def Own (body : Fin n → Engine n E S P V → Engine n E S P V × Bool) : Prop :=
  ∀ c engine, (∀ d, d ≠ c → (body c engine).1.cause d = engine.cause d) ∧
    (body c engine).1.expectedOrderId = engine.expectedOrderId

omit [DecidableEq E] in
theorem initCause_own : Own (initCause (E := E) (P := P) profile env) := by
  intro c engine
  refine ⟨?_, rfl⟩
  intro d other
  simp [initCause, setLinked, setCause, Function.update_of_ne other]

omit [DecidableEq E] in
variable (profile) in
theorem uninitCause_own : Own (uninitCause (E := E) (P := P) profile) := by
  intro c engine
  have freed (before : Engine n E S P V) :
      (∀ d, d ≠ c → (before.freeValuearray c).cause d = before.cause d) ∧
        (before.freeValuearray c).expectedOrderId = before.expectedOrderId := by
    unfold freeValuearray
    dsimp only
    split
    · refine ⟨?_, rfl⟩
      intro d other
      simp [setCause, Function.update_of_ne other]
    · exact ⟨fun _ _ => rfl, rfl⟩
  unfold uninitCause
  refine ⟨?_, (freed _).2⟩
  intro d other
  rw [(freed _).1 d other]
  simp [setLinked, setCause, Function.update_of_ne other]

theorem initState_spared {body : Fin n → Engine n E S P V → Engine n E S P V × Bool}
    (own : Own body) {s t : S} (other : t ≠ s) (engine : Engine n E S P V) :
    Spared profile s engine (initState profile body t engine).1 := by
  apply untilError_invariant (Spared profile s engine)
  · intro e isEvent before spared
    have ofState : profile.stateOf e = t := (profile.mem_events e t).mp isEvent
    have inner : Spared profile s engine (untilError body (profile.causes e) before).1 := by
      apply untilError_invariant (Spared profile s engine)
      · intro c isCause middle kept
        have ofEvent : profile.eventOf c = e := (profile.mem_causes c e).mp isCause
        obtain ⟨others, orders⟩ := own c middle
        refine ⟨?_, fun f inState => (congrFun orders f).trans (kept.orders f inState)⟩
        intro d inState
        rw [others d, kept.causes d inState]
        rintro rfl
        apply other
        rw [← ofState, ← ofEvent]
        exact inState
      · exact spared
    unfold initEvent
    dsimp only
    split
    · refine ⟨inner.causes, ?_⟩
      intro f inState
      have differs : f ≠ e := by
        rintro rfl
        exact other (ofState.symm.trans inState)
      dsimp only
      rw [Function.update_of_ne differs]
      exact inner.orders f inState
    · exact inner
  · exact ⟨fun _ _ => rfl, fun _ _ => rfl⟩

theorem leaveState_kept : Kept profile s engine (leaveState profile t engine).1 := by
  have log : (leaveState profile t engine).1.log = .left t :: engine.log :=
    (leaveState_calm t engine).log
  by_cases same : t = s
  · constructor
    all_goals
      rw [log]
      simp [Profiles.visits, same]
  · constructor
    · rw [log]
      simp [Profiles.visits, same]
    · intro _
      have spared : Spared profile s (engine.record (.left t)) (leaveState profile t engine).1 :=
        initState_spared (uninitCause_own _) same _
      exact ⟨spared.causes, spared.orders⟩

variable (profile) in
theorem enterState_kept : Kept profile s engine (enterState profile env t engine).1 := by
  have log : (enterState profile env t engine).1.log = .entered t :: engine.log :=
    (enterState_calm _ env t engine).log
  by_cases same : t = s
  · constructor
    all_goals
      rw [log]
      simp [Profiles.visits, same]
  · constructor
    · rw [log]
      simp [Profiles.visits, same]
    · intro _
      have spared : Spared profile s (engine.record (.entered t))
          (enterState profile env t engine).1 := initState_spared (initCause_own env) same _
      exact ⟨spared.causes, spared.orders⟩

variable (profile) in
theorem leaveCurrent_kept : Kept profile s engine (leaveCurrent profile engine) := by
  unfold leaveCurrent
  split
  · exact kept_of_eq s rfl rfl rfl
  · exact leaveState_kept s _ engine

variable (profile) in
theorem uninitGlobalStates_kept : Kept profile s engine (uninitGlobalStates profile engine) := by
  have left : Kept profile s engine
      ((engine.globalStates.filter profile.isGlobal).foldl
        (fun engine s => (leaveState profile s engine).1) engine) :=
    foldl_invariant_of_keeps (Kept profile s engine)
      (fun before t kept => kept.trans (leaveState_kept s t before)) _ (kept_of_eq s rfl rfl rfl)
  exact left.trans (kept_of_eq s rfl rfl rfl)

theorem addGlobalState_kept : Kept profile s engine (addGlobalState profile env t engine).1 := by
  unfold addGlobalState
  split
  · have listed : Kept profile s engine
        { engine with globalStates := engine.globalStates ++ [t] } :=
      kept_of_eq s rfl rfl rfl
    exact listed.trans (enterState_kept _ env s t _)
  · exact kept_of_eq s rfl rfl rfl

variable (profile) in
theorem initGlobalStates_kept (p : P) (engine : Engine n E S P V) :
    Kept profile s engine (initGlobalStates profile env p engine).1 := by
  apply untilError_invariant (Kept profile s engine)
  · intro t _ before kept
    exact kept.trans (addGlobalState_kept env s t before)
  · exact kept_of_eq s rfl rfl rfl

variable (profile) in
theorem initPurpose_kept (p : P) (id : Int) (engine : Engine n E S P V) :
    Kept profile s engine (initPurpose profile env p id engine).1 := by
  cases found : profile.findState p id with
  | none =>
    unfold initPurpose
    rw [found]
    exact kept_of_eq s rfl rfl rfl
  | some t =>
    have entered := (leaveCurrent_kept profile s engine).trans
      (enterState_kept _ env s t _)
    rw [initPurpose_of_found env found]
    split
    · exact kept_of_eq s rfl rfl rfl
    · split
      · exact entered.trans (kept_of_eq s rfl rfl rfl)
      · exact entered

variable [DecidableEq P]

variable (profile) in
theorem initProfile_kept (puId stId : Int) (engine : Engine n E S P V) :
    Kept profile s engine (initProfile profile env puId stId engine).1 := by
  unfold initProfile
  split
  · exact kept_of_eq s rfl rfl rfl
  · next p _ =>
    have moved := initPurpose_kept profile env s p stId engine
    dsimp only
    split
    · split
      · exact moved
      · have globals := (moved.trans (uninitGlobalStates_kept _ s _)).trans
          (initGlobalStates_kept _ env s p _)
        split
        · exact globals.trans (kept_of_eq s rfl rfl rfl)
        · exact globals
    · exact moved

section

omit [DecidableEq P]

theorem leaveState_visits : visits s engine.log < visits s (leaveState profile s engine).1.log := by
  rw [(leaveState_calm s engine).log]
  simp [record, visits]

variable (profile) in
theorem enterState_visits :
    visits s engine.log < visits s (enterState profile env s engine).1.log := by
  rw [(enterState_calm _ env s engine).log]
  simp [record, visits]

theorem foldl_leaveState_visits {s : S} {states : List S} (isIn : s ∈ states)
    (engine : Engine n E S P V) :
    visits s engine.log <
      visits s (states.foldl (fun engine s => (leaveState profile s engine).1) engine).log := by
  induction states generalizing engine with
  | nil => simp at isIn
  | cons first rest ih =>
    rw [List.foldl_cons]
    by_cases here : s = first
    · subst here
      have later : Kept profile s (leaveState profile s engine).1
          (rest.foldl (fun engine s => (leaveState profile s engine).1)
            (leaveState profile s engine).1) :=
        foldl_invariant_of_keeps (Kept profile s (leaveState profile s engine).1)
          (fun before t kept => kept.trans (leaveState_kept s t before)) _
          (kept_of_eq s rfl rfl rfl)
      exact Nat.lt_of_lt_of_le (leaveState_visits s engine) later.visits
    · have isLater : s ∈ rest := by simpa [here] using isIn
      exact Nat.lt_of_le_of_lt (leaveState_kept s first engine).visits
        (ih isLater _)

theorem initGlobalStates_visits {env : Env n} (succeeds : env.Succeeds) {s : S} {p : P}
    (isIn : s ∈ profile.globals p) (engine : Engine n E S P V) :
    visits s engine.log < visits s (initGlobalStates profile env p engine).1.log := by
  unfold initGlobalStates
  generalize profile.globals p = states at isIn
  induction states generalizing engine with
  | nil => simp at isIn
  | cons first rest ih =>
    have added := addGlobalState_eq profile succeeds first engine
    have ok := enterState_ok profile succeeds first
      { engine with globalStates := engine.globalStates ++ [first] }
    unfold untilError
    rw [added, if_pos ok]
    by_cases here : s = first
    · subst here
      have first := enterState_visits profile env s
        { engine with globalStates := engine.globalStates ++ [s] }
      have later : Kept profile s
          (enterState profile env s
            { engine with globalStates := engine.globalStates ++ [s] }).1
          (untilError (addGlobalState profile env) rest (enterState profile env s
            { engine with globalStates := engine.globalStates ++ [s] }).1).1 := by
        apply untilError_invariant (Kept profile s _)
        · intro t _ before kept
          exact kept.trans (addGlobalState_kept env s t before)
        · exact kept_of_eq s rfl rfl rfl
      exact Nat.lt_of_lt_of_le first later.visits
    · have isLater : s ∈ rest := by simpa [here] using isIn
      have early := enterState_kept profile env s first
        { engine with globalStates := engine.globalStates ++ [first] }
      exact Nat.lt_of_le_of_lt early.visits (ih _ isLater)

end

end Engine

end Thingsee.Profiles
