import Mathlib.Order.Fin.Basic
import Thingsee.Profiles.Transitions

/-!
Owns transitions that fail: what `init_profile` leaves behind when it returns `ERROR`.

Nothing is rolled back. `failed_transition_changes_nothing_iff` says exactly where
nothing has to be: the target does not exist, or the causes that the failed transition
has un-initialised and initialised were in the same state before.
-/

namespace Thingsee.Profiles

open Support List

variable {n : Nat} {E S P T V : Type}

/-- The causes that a loop over `causes` starts, up to the first one that does not
start. -/
def reached (env : Env n) : List (Fin n) → List (Fin n)
  | [] => []
  | c :: rest => if env.starts c then c :: reached env rest else [c]

def causesOf (profile : Profile n E S P T V) (s : S) : List (Fin n) :=
  (profile.events s).flatMap profile.causes

def Starts (profile : Profile n E S P T V) (env : Env n) (s : S) : Prop :=
  ∀ c ∈ causesOf profile s, env.starts c = true

instance Starts.decidable (profile : Profile n E S P T V) (env : Env n) (s : S) :
    Decidable (Starts profile env s) :=
  inferInstanceAs (Decidable (∀ c ∈ causesOf profile s, _))

/-- The states that a loop over `states` enters, up to the first one that has a cause that
does not start. -/
def reachedStates (profile : Profile n E S P T V) (env : Env n) : List S → List S
  | [] => []
  | s :: rest => if Starts profile env s then s :: reachedStates profile env rest else [s]

/-- What starting some causes makes of the set of initialised causes. -/
def begunBy (env : Env n) (causes : List (Fin n)) (live : Fin n → Bool) (c : Fin n) : Bool :=
  if c ∈ reached env causes then env.starts c else live c

theorem mem_causesOf (profile : Profile n E S P T V) (s : S) (c : Fin n) :
    c ∈ causesOf profile s ↔ profile.stateOfCause c = s := by
  unfold causesOf Profile.stateOfCause
  rw [mem_flatMap]
  constructor
  · rintro ⟨e, isEvent, isCause⟩
    rw [(profile.mem_causes c e).mp isCause]
    exact (profile.mem_events e s).mp isEvent
  · intro inState
    exact ⟨profile.eventOf c, (profile.mem_events _ s).mpr inState,
      (profile.mem_causes c _).mpr rfl⟩

variable (env : Env n)

/-! ## Begun causes -/

theorem reached_cons (c : Fin n) (rest : List (Fin n)) :
    reached env (c :: rest) = if env.starts c then c :: reached env rest else [c] :=
  rfl

variable (first : List (Fin n)) {causes : List (Fin n)} (second : List (Fin n))

theorem reached_append :
    reached env (first ++ second) =
      if ∀ c ∈ first, env.starts c = true then first ++ reached env second
      else reached env first := by
  induction first with
  | nil => simp
  | cons c rest ih =>
    rw [cons_append, reached_cons, reached_cons, ih]
    by_cases starts : env.starts c = true
    · by_cases others : ∀ d ∈ rest, env.starts d = true
      · rw [if_pos starts, if_pos others, if_pos]
        · rfl
        · simpa [starts] using others
      · rw [if_pos starts, if_neg others, if_neg, if_pos starts]
        simpa [starts] using others
    · simp [starts]

theorem reached_subset {c : Fin n} (isIn : c ∈ reached env causes) : c ∈ causes := by
  induction causes with
  | nil => exact isIn
  | cons first rest ih =>
    rw [reached_cons] at isIn
    split at isIn
    · rcases mem_cons.mp isIn with same | isLater
      · exact same ▸ mem_cons_self
      · exact mem_cons_of_mem _ (ih isLater)
    · rw [mem_singleton.mp isIn]
      exact mem_cons_self

theorem reached_of_starts {env : Env n} (all : ∀ c ∈ causes, env.starts c = true) :
    reached env causes = causes := by
  have split := reached_append env causes []
  rw [append_nil, if_pos all] at split
  rw [split]
  exact append_nil _

theorem begunBy_append (live : Fin n → Bool) :
    begunBy env (first ++ second) live =
      if ∀ c ∈ first, env.starts c = true then begunBy env second (begunBy env first live)
      else begunBy env first live := by
  funext c
  unfold begunBy
  rw [reached_append]
  split
  · next all =>
    rw [reached_of_starts all]
    by_cases isSecond : c ∈ reached env second
    · simp [isSecond]
    · simp [isSecond]
  · rfl

namespace Engine

def live (engine : Engine n E S P V) (c : Fin n) : Bool :=
  (engine.cause c).initialised

variable [DecidableEq E] [DecidableEq S] {profile : Profile n E S P T V}
  (env : Env n) (s : S) (engine : Engine n E S P V) {t : S}
  (causeInit : Fin n → Engine n E S P V → Engine n E S P V × Bool) (c : Fin n)

omit [DecidableEq E] [DecidableEq S] in
theorem setCause_live (dyn : CauseDyn V) :
    (engine.setCause c dyn).live = Function.update engine.live c dyn.initialised := by
  funext d
  unfold live setCause
  by_cases same : d = c
  · subst same
    simp
  · simp [Function.update_of_ne same]

section

omit [DecidableEq E]

variable (engine : Engine n E S P V)

variable (profile) in
theorem initCause_live :
    (initCause profile env c engine).1.live = Function.update engine.live c (env.starts c) := by
  exact setCause_live engine c _

theorem uninitCause_live :
    (uninitCause profile c engine).1.live = Function.update engine.live c false := by
  have freed (before : Engine n E S P V) : (before.freeValuearray c).live = before.live := by
    unfold freeValuearray
    dsimp only
    split
    · exact (setCause_live before c _).trans (Function.update_eq_self c before.live)
    · rfl
  exact (freed _).trans (setCause_live _ c _)

variable (profile) in
theorem untilError_initCause (causes : List (Fin n)) (engine : Engine n E S P V) :
    ((untilError (initCause profile env) causes engine).2 = true ↔
        ∀ c ∈ causes, env.starts c = true) ∧
      (untilError (initCause profile env) causes engine).1.live =
        begunBy env causes engine.live := by
  induction causes generalizing engine with
  | nil =>
    refine ⟨by simp [untilError], ?_⟩
    funext c
    simp [untilError, begunBy, reached]
  | cons first rest ih =>
    have started := initCause_live profile env first engine
    have ok : (initCause profile env first engine).2 = env.starts first := rfl
    unfold untilError
    dsimp only
    rw [ok]
    by_cases starts : env.starts first = true
    · obtain ⟨allOk, live⟩ := ih (initCause profile env first engine).1
      rw [if_pos starts]
      refine ⟨by simpa [starts] using allOk, ?_⟩
      rw [live, started]
      funext c
      unfold begunBy
      rw [reached_cons, if_pos starts]
      by_cases same : c = first
      · subst same
        simp
      · simp [same]
    · rw [if_neg starts]
      refine ⟨by simp [ok, starts], ?_⟩
      rw [started]
      funext c
      unfold begunBy
      rw [reached_cons, if_neg starts]
      by_cases same : c = first
      · subst same
        simp
      · simp [same]

end

omit [DecidableEq S] in
theorem initEvent_ok_iff (e : E) (engine : Engine n E S P V) :
    (initEvent profile causeInit e engine).2 =
      (untilError causeInit (profile.causes e) engine).2 := by
  unfold initEvent
  dsimp only
  split
  · next ok => exact ok.symm
  · rfl

omit [DecidableEq S] in
theorem initEvent_live (e : E) (engine : Engine n E S P V) :
    (initEvent profile causeInit e engine).1.live =
      (untilError causeInit (profile.causes e) engine).1.live := by
  funext c
  unfold live
  rw [(initEvent_fields profile causeInit e engine).1]

theorem untilError_initEvent (events : List E) (engine : Engine n E S P V) :
    ((untilError (initEvent profile (initCause profile env)) events engine).2 = true ↔
        ∀ c ∈ events.flatMap profile.causes, env.starts c = true) ∧
      (untilError (initEvent profile (initCause profile env)) events engine).1.live =
        begunBy env (events.flatMap profile.causes) engine.live := by
  induction events generalizing engine with
  | nil =>
    refine ⟨by simp [untilError], ?_⟩
    funext c
    simp [untilError, begunBy, reached]
  | cons first rest ih =>
    obtain ⟨firstOk, firstLive⟩ :=
      untilError_initCause profile env (profile.causes first) engine
    rw [← initEvent_ok_iff] at firstOk
    rw [← initEvent_live] at firstLive
    unfold untilError
    rw [flatMap_cons, begunBy_append]
    by_cases starts : ∀ c ∈ profile.causes first, env.starts c = true
    · obtain ⟨allOk, live⟩ := ih
        (initEvent profile (initCause profile env) first engine).1
      rw [if_pos (firstOk.mpr starts), if_pos starts, live, firstLive, allOk]
      refine ⟨?_, rfl⟩
      constructor
      · intro others c isIn
        exact (mem_append.mp isIn).elim (starts c) (others c)
      · intro all c isIn
        exact all c (mem_append.mpr (Or.inr isIn))
    · have failed : ¬ (initEvent profile (initCause profile env) first engine).2 = true :=
        fun ok => starts (firstOk.mp ok)
      rw [if_neg failed, if_neg starts]
      refine ⟨⟨fun ok => absurd ok failed, ?_⟩, firstLive⟩
      intro all
      exact absurd (fun c isIn => all c (mem_append.mpr (Or.inl isIn))) starts

variable (profile) in
/-- Entering a state begins its causes up to the first that fails. -/
theorem enterState_live :
    ((enterState profile env s engine).2 = true ↔ Starts profile env s) ∧
      (enterState profile env s engine).1.live =
        begunBy env (causesOf profile s) engine.live :=
  untilError_initEvent env (profile.events s) _

theorem leaveState_live :
    (leaveState profile s engine).1.live c =
      if profile.stateOfCause c = s then false else engine.live c := by
  have keeps (d : Fin n) (before : Engine n E S P V) (off : before.live c = false) :
      (uninitCause profile d before).1.live c = false := by
    rw [uninitCause_live]
    by_cases same : c = d
    · subst same
      simp
    · rwa [Function.update_of_ne same]
  split
  · next inState =>
    apply untilError_establishes (fun after : Engine n E S P V => after.live c = false)
    · exact initEvent_ok _ fun _ _ => rfl
    · intro e before off
      rw [initEvent_live]
      exact untilError_invariant (fun after : Engine n E S P V => after.live c = false)
        (fun d _ before => keeps d before) off
    · exact (profile.mem_events _ s).mpr inState
    · intro before
      rw [initEvent_live]
      apply untilError_establishes (fun after : Engine n E S P V => after.live c = false)
      · exact fun _ _ => rfl
      · exact keeps
      · exact (profile.mem_causes c _).mpr rfl
      · intro before
        rw [uninitCause_live]
        exact Function.update_self ..
  · next elsewhere =>
    apply untilError_invariant (fun after : Engine n E S P V => after.live c = engine.live c)
    · intro e isEvent before kept
      rw [initEvent_live]
      apply untilError_invariant (fun after : Engine n E S P V => after.live c = engine.live c)
      · intro d isCause before kept
        rw [uninitCause_live, Function.update_of_ne, kept]
        rintro rfl
        apply elsewhere
        unfold Profile.stateOfCause
        rw [(profile.mem_causes c e).mp isCause]
        exact (profile.mem_events e s).mp isEvent
      · exact kept
    · rfl

theorem leaveCurrent_live :
    (leaveCurrent profile engine).live c =
      if engine.currentState = some (profile.stateOfCause c) then false else engine.live c := by
  unfold leaveCurrent
  cases engine.currentState with
  | none => simp
  | some old =>
    rw [leaveState_live]
    by_cases same : profile.stateOfCause c = old
    · rw [if_pos same, if_pos (congrArg some same.symm)]
    · rw [if_neg same, if_neg fun isOld => same (Option.some.inj isOld).symm]

theorem foldl_leaveState_live (states : List S) (engine : Engine n E S P V) (c : Fin n) :
    (states.foldl (fun engine s => (leaveState profile s engine).1) engine).live c =
      if profile.stateOfCause c ∈ states then false else engine.live c := by
  induction states generalizing engine with
  | nil => simp
  | cons first rest ih =>
    rw [foldl_cons, ih, leaveState_live]
    by_cases same : profile.stateOfCause c = first
    · simp [same]
    · simp [same]

theorem uninitGlobalStates_live :
    (uninitGlobalStates profile engine).live c =
      if profile.stateOfCause c ∈ engine.globalStates.filter profile.isGlobal then false
      else engine.live c :=
  foldl_leaveState_live _ engine c

variable (profile) in
theorem addGlobalState_frame :
    (addGlobalState profile env s engine).1.currentState = engine.currentState ∧
      (addGlobalState profile env s engine).1.currentPurpose = engine.currentPurpose := by
  unfold addGlobalState
  split
  · have calm := enterState_calm profile env s
      { engine with globalStates := engine.globalStates ++ [s] }
    exact ⟨calm.currentState, calm.currentPurpose⟩
  · exact ⟨rfl, rfl⟩

variable (profile) in
theorem initGlobalStates_frame (p : P) (engine : Engine n E S P V) :
    (initGlobalStates profile env p engine).1.currentState = engine.currentState ∧
      (initGlobalStates profile env p engine).1.currentPurpose = engine.currentPurpose := by
  apply untilError_invariant (fun after : Engine n E S P V =>
    after.currentState = engine.currentState ∧ after.currentPurpose = engine.currentPurpose)
  · intro s _ before kept
    have frame := addGlobalState_frame profile env s before
    exact ⟨frame.1.trans kept.1, frame.2.trans kept.2⟩
  · exact ⟨rfl, rfl⟩

variable (profile) in
theorem untilError_addGlobalState_live {env : Env n} (allocated : env.allocated = true)
    (states : List S) (engine : Engine n E S P V) :
    (untilError (addGlobalState profile env) states engine).1.live =
        begunBy env (states.flatMap (causesOf profile)) engine.live ∧
      (untilError (addGlobalState profile env) states engine).1.globalStates =
        engine.globalStates ++ reachedStates profile env states := by
  induction states generalizing engine with
  | nil =>
    refine ⟨?_, (append_nil _).symm⟩
    funext c
    simp [untilError, begunBy, reached]
  | cons first rest ih =>
    let added : Engine n E S P V :=
      { engine with globalStates := engine.globalStates ++ [first] }
    have body : addGlobalState profile env first engine = enterState profile env first added := by
      unfold addGlobalState
      rw [if_pos allocated]
    obtain ⟨ok, firstLive⟩ := enterState_live profile env first added
    have calm := enterState_calm profile env first added
    unfold untilError reachedStates
    rw [body, flatMap_cons, begunBy_append]
    by_cases starts : Starts profile env first
    · obtain ⟨restLive, globals⟩ := ih (enterState profile env first added).1
      have allStart : ∀ c ∈ causesOf profile first, env.starts c = true := starts
      rw [if_pos (ok.mpr starts), if_pos starts, if_pos allStart, restLive, globals, firstLive,
        calm.globalStates]
      refine ⟨rfl, ?_⟩
      simp [record, added]
    · have failed : ¬ (enterState profile env first added).2 = true :=
        fun isOk => starts (ok.mp isOk)
      have notAll : ¬ ∀ c ∈ causesOf profile first, env.starts c = true := starts
      rw [if_neg failed, if_neg starts, if_neg notAll]
      exact ⟨firstLive, calm.globalStates⟩

/-- The global states after a failed `init_global_states`. -/
def globalsAfter (profile : Profile n E S P T V) (env : Env n) (p : P) : List S :=
  if env.allocated then reachedStates profile env (profile.globals p) else []

/-- The causes that a failed `init_global_states` has started, or tried to. -/
def startedGlobals (profile : Profile n E S P T V) (env : Env n) (p : P) : List (Fin n) :=
  if env.allocated then reached env ((profile.globals p).flatMap (causesOf profile)) else []

variable (profile) in
theorem initGlobalStates_live (p : P) (engine : Engine n E S P V) :
    (∀ c, (initGlobalStates profile env p engine).1.live c =
        if c ∈ startedGlobals profile env p then env.starts c else engine.live c) ∧
      (initGlobalStates profile env p engine).1.globalStates =
        engine.globalStates ++ globalsAfter profile env p := by
  unfold initGlobalStates globalsAfter startedGlobals
  by_cases allocated : env.allocated = true
  · obtain ⟨live, globals⟩ :=
      untilError_addGlobalState_live profile allocated (profile.globals p) engine
    rw [if_pos allocated, if_pos allocated, live]
    exact ⟨fun _ => rfl, globals⟩
  · have same : (untilError (addGlobalState profile env) (profile.globals p) engine).1 =
        engine := by
      cases profile.globals p with
      | nil => rfl
      | cons first rest =>
        unfold untilError addGlobalState
        rw [if_neg allocated, if_neg (by simp)]
    rw [same, if_neg allocated, if_neg allocated]
    exact ⟨fun c => by simp, (append_nil _).symm⟩

/-- Two engines that are in the same states, with the same causes initialised. -/
structure Unchanged (before after : Engine n E S P V) : Prop where
  currentState : after.currentState = before.currentState
  currentPurpose : after.currentPurpose = before.currentPurpose
  globalStates : after.globalStates = before.globalStates
  live : after.live = before.live

/-- The current state changes, and the causes of the old state and those of the new one that
are reached are already as the failed transition leaves them. -/
structure HarmlessState (profile : Profile n E S P T V) (env : Env n) (t : S)
    (engine : Engine n E S P V) : Prop where
  changes : engine.currentState ≠ some t
  fails : ¬ Starts profile env t
  old : ∀ c, engine.currentState = some (profile.stateOfCause c) → engine.live c = false
  new : ∀ c ∈ reached env (causesOf profile t), engine.live c = env.starts c

/-- Only the purpose changes, and the global states and their causes are already as the
failed transition leaves them. -/
structure HarmlessPurpose (profile : Profile n E S P T V) (env : Env n) (p : P) (t : S)
    (engine : Engine n E S P V) : Prop where
  stays : engine.currentState = some t
  globals : engine.globalStates = globalsAfter profile env p
  old : ∀ c, profile.stateOfCause c ∈ engine.globalStates.filter profile.isGlobal →
    c ∉ startedGlobals profile env p → engine.live c = false
  new : ∀ c ∈ startedGlobals profile env p, engine.live c = env.starts c

/-- The target does not exist, or what has been done before the error makes no
difference. -/
def Harmless (profile : Profile n E S P T V) (env : Env n) (puId stId : Int)
    (engine : Engine n E S P V) : Prop :=
  ∀ p t, profile.findPurpose puId = some p → profile.findState p stId = some t →
    HarmlessState profile env t engine ∨ HarmlessPurpose profile env p t engine

/-! ## Failures -/

/-- A failed entry leaves the engine unchanged exactly for harmless states. -/
theorem enterState_unchanged_iff {env : Env n} {engine : Engine n E S P V}
    (changes : engine.currentState ≠ some t) (fails : ¬ Starts profile env t) :
    Unchanged engine (enterState profile env t (leaveCurrent profile engine)).1 ↔
      HarmlessState profile env t engine := by
  have calm := enterState_calm profile env t (leaveCurrent profile engine)
  have frame := leaveCurrent_frame profile engine
  have entered := (enterState_live profile env t (leaveCurrent profile engine)).2
  constructor
  · intro unchanged
    have live (c : Fin n) : begunBy env (causesOf profile t) (leaveCurrent profile engine).live c =
        engine.live c := by
      rw [← entered, unchanged.live]
    refine ⟨changes, fails, ?_, ?_⟩
    · intro c isOld
      have notNew : c ∉ reached env (causesOf profile t) := by
        intro isNew
        rw [(mem_causesOf profile t c).mp (reached_subset env isNew)] at isOld
        exact changes isOld
      rw [← live c]
      unfold begunBy
      rw [if_neg notNew, leaveCurrent_live, if_pos isOld]
    · intro c isNew
      rw [← live c]
      unfold begunBy
      rw [if_pos isNew]
  · intro harmless
    refine ⟨calm.currentState.trans frame.2.2.2, calm.currentPurpose.trans frame.1,
      calm.globalStates.trans frame.2.1, ?_⟩
    rw [entered]
    funext c
    unfold begunBy
    split
    · next isNew => exact (harmless.new c isNew).symm
    · rw [leaveCurrent_live]
      split
      · next isOld => exact (harmless.old c isOld).symm
      · rfl

theorem initGlobalStates_unchanged_iff {env : Env n} {p : P} {engine : Engine n E S P V}
    (stays : engine.currentState = some t) :
    Unchanged engine (initGlobalStates profile env p (uninitGlobalStates profile engine)).1 ↔
      HarmlessPurpose profile env p t engine := by
  have frame := initGlobalStates_frame profile env p
    (uninitGlobalStates profile engine)
  have left := uninitGlobalStates_frame profile engine
  obtain ⟨started, globals⟩ := initGlobalStates_live profile env p
    (uninitGlobalStates profile engine)
  have none : (uninitGlobalStates profile engine).globalStates = [] := rfl
  rw [none, nil_append] at globals
  have live (c : Fin n) :
      (initGlobalStates profile env p (uninitGlobalStates profile engine)).1.live c =
        if c ∈ startedGlobals profile env p then env.starts c
        else if profile.stateOfCause c ∈ engine.globalStates.filter profile.isGlobal then false
        else engine.live c := by
    rw [started c, uninitGlobalStates_live]
  constructor
  · intro unchanged
    refine ⟨stays, unchanged.globalStates.symm.trans globals, ?_, ?_⟩
    · intro c isOld notNew
      rw [← unchanged.live, live c, if_neg notNew, if_pos isOld]
    · intro c isNew
      rw [← unchanged.live, live c, if_pos isNew]
  · intro harmless
    refine ⟨frame.1.trans left.2.1, frame.2.trans left.1,
      globals.trans harmless.globals.symm, ?_⟩
    funext c
    rw [live c]
    split
    · next isNew => exact (harmless.new c isNew).symm
    · next notNew =>
      split
      · next isOld => exact (harmless.old c isOld notNew).symm
      · rfl

theorem initPurpose_cases {p : P} {id : Int} (found : profile.findState p id = some t)
    (engine : Engine n E S P V) :
    (engine.currentState = some t ∧ initPurpose profile env p id engine = (engine, true)) ∨
    (engine.currentState ≠ some t ∧ ¬ Starts profile env t ∧
      initPurpose profile env p id engine =
        ((enterState profile env t (leaveCurrent profile engine)).1, false)) ∨
    (engine.currentState ≠ some t ∧ Starts profile env t ∧
      initPurpose profile env p id engine =
        ({ (enterState profile env t (leaveCurrent profile engine)).1 with
          currentState := some t }, true)) := by
  have entered := (enterState_live profile env t (leaveCurrent profile engine)).1
  rw [initPurpose_of_found env found]
  by_cases same : engine.currentState = some t
  · rw [if_pos same]
    exact Or.inl ⟨same, rfl⟩
  · rw [if_neg same]
    right
    cases ok : (enterState profile env t (leaveCurrent profile engine)).2 with
    | false =>
      left
      rw [ok] at entered
      refine ⟨same, fun starts => by simp [starts] at entered, ?_⟩
      rw [if_neg (by simp)]
      exact Prod.ext rfl ok
    | true =>
      right
      rw [if_pos rfl]
      exact ⟨same, entered.mp ok, rfl⟩

variable [DecidableEq P]

/-- A transition that fails changes nothing exactly if it is harmless. -/
theorem failed_transition_changes_nothing_iff (profile : Profile n E S P T V) (env : Env n)
    (puId stId : Int) (engine : Engine n E S P V)
    (failed : (initProfile profile env puId stId engine).2 = false) :
    Unchanged engine (initProfile profile env puId stId engine).1 ↔
      Harmless profile env puId stId engine := by
  unfold Harmless
  cases found : profile.findPurpose puId with
  | none =>
    rw [initProfile_of_missing env (by simp [found])]
    exact ⟨fun _ p t impossible => by simp at impossible, fun _ => ⟨rfl, rfl, rfl, rfl⟩⟩
  | some p =>
    cases foundState : profile.findState p stId with
    | none =>
      rw [initProfile_of_missing env (by simp [found, foundState])]
      constructor
      · intro _ q t same missing
        rw [← Option.some.inj same, foundState] at missing
        simp at missing
      · exact fun _ => ⟨rfl, rfl, rfl, rfl⟩
    | some t =>
      have only : (∀ q u, some p = some q → profile.findState q stId = some u →
          HarmlessState profile env u engine ∨ HarmlessPurpose profile env q u engine) ↔
          HarmlessState profile env t engine ∨ HarmlessPurpose profile env p t engine := by
        constructor
        · intro all
          exact all p t rfl foundState
        · intro this q u same isState
          rw [← Option.some.inj same, foundState] at isState
          rw [← Option.some.inj same, ← Option.some.inj isState]
          exact this
      rw [only]
      have frame (before : Engine n E S P V) :
          (initGlobalStates profile env p (uninitGlobalStates profile before)).1.currentState =
            before.currentState :=
        (initGlobalStates_frame _ env p _).1.trans (uninitGlobalStates_frame profile before).2.1
      unfold initProfile at failed ⊢
      rw [found] at failed ⊢
      dsimp only at failed ⊢
      rcases initPurpose_cases env foundState engine with
        ⟨stays, result⟩ | ⟨changes, fails, result⟩ | ⟨changes, starts, result⟩
      · rw [result] at failed ⊢
        rw [if_pos rfl] at failed ⊢
        split at failed
        · simp at failed
        · next purpose =>
          rw [if_neg purpose]
          split at failed
          · simp at failed
          · next notOk =>
            rw [if_neg notOk, initGlobalStates_unchanged_iff stays]
            constructor
            · exact Or.inr
            · rintro (harmless | harmless)
              · exact absurd stays harmless.changes
              · exact harmless
      · rw [result, if_neg (by simp), enterState_unchanged_iff changes fails]
        constructor
        · exact Or.inl
        · rintro (harmless | harmless)
          · exact harmless
          · exact absurd harmless.stays changes
      · rw [result] at failed ⊢
        rw [if_pos rfl] at failed ⊢
        split at failed
        · simp at failed
        · next purpose =>
          rw [if_neg purpose]
          split at failed
          · simp at failed
          · next notOk =>
            rw [if_neg notOk]
            constructor
            · intro unchanged
              have moved := unchanged.currentState.symm.trans (frame _)
              exact absurd moved changes
            · rintro (harmless | harmless)
              · exact absurd starts harmless.fails
              · exact absurd harmless.stays changes

end Engine

namespace Machine

open Engine

/-- A purpose with two states. Each has an event with one cause, which goes to the other
state. -/
def backAndForth : Profile 2 Bool Bool Unit Unit Nat where
  cause := fun _ =>
    { sId := 0
      orderId := 0
      interval := -1
      count := 0
      thresholdCount := 0
      negate := false
      relative := false
      thresholds := [()]
      minType := .uint32
      holds := true }
  eventOf := fun c => decide (c = 1)
  stateOf := fun e => e
  purposeOf := fun _ => ()
  causes := fun e => if e then [1] else [0]
  events := fun s => [s]
  states := fun _ => [false, true]
  purposes := [()]
  gotoStId := fun e => if e then 0 else 1
  gotoPuId := fun _ => -1
  stId := fun s => if s then 1 else 0
  isGlobal := fun _ => false
  puId := fun _ => 0
  initStId := fun _ => 0
  initPuId := 0
  check := fun _ _ _ => true
  isGeofence := fun _ => false
  geofence := fun _ _ => none
  ofBool := fun inside => if inside then 1 else 0
  mem_causes := by decide
  mem_events := by decide
  mem_states := by
    intro s p
    cases s <;> simp

/-- The sense of the second cause does not start. -/
def secondFails : Env 2 := ⟨fun c => decide (c = 0), true⟩

/-- The engine still reports the first state, but its cause is not initialised any more. -/
theorem state_is_left_behind :
    let engine := (run backAndForth (initial 2 Bool Bool Unit 0) [(.main, allStart)]).engine
    let failed := initProfile backAndForth secondFails (gotoPurpose backAndForth false engine)
      (backAndForth.gotoStId false) engine
    let after := (run backAndForth (initial 2 Bool Bool Unit 0)
      [(.main, allStart), (.direct 0 (.plain .uint32 7), secondFails)]).engine
    failed.2 = false ∧ engine.live 0 = true ∧ failed.1.live 0 = false ∧
      failed.1.currentState = some false ∧ ¬ Unchanged engine failed.1 ∧
      after.state = .running ∧ after.currentState = some false ∧ ∀ c, after.live c = false := by
  refine ⟨by decide, by decide, by decide, by decide, ?_, by decide, by decide, by decide⟩
  intro unchanged
  have same := congrFun unchanged.live 0
  revert same
  decide

/-- A target that does not exist. -/
theorem missing_target_is_harmless :
    let engine := (run backAndForth (initial 2 Bool Bool Unit 0) [(.main, allStart)]).engine
    Unchanged engine (initProfile backAndForth allStart 0 7 engine).1 ↔
      Harmless backAndForth allStart 0 7 engine :=
  failed_transition_changes_nothing_iff backAndForth allStart 0 7
    (run backAndForth (initial 2 Bool Bool Unit 0) [(.main, allStart)]).engine (by decide)

end Machine

end Thingsee.Profiles
