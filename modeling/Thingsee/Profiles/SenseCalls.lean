import Mathlib.Order.Fin.Basic
import Thingsee.Profiles.SenseUse
import Thingsee.Profiles.Transitions

/-!
Owns what the engine's functions call of the senses while they move it from state to state: each
leaves it steady, with the sense of every cause of an active state initialised and of no other.
-/

namespace Thingsee.Profiles

open Support List

variable {n : Nat} {E S P T V : Type} [DecidableEq E] [DecidableEq S]

namespace Engine

variable {env : Env n} {body : Fin n → Engine n E S P V → Engine n E S P V × Bool}
  {change : Fin n → Use → Use} (engine : Engine n E S P V) (c : Fin n)

def uses (engine : Engine n E S P V) (c : Fin n) : Use :=
  (engine.cause c).use

section

omit [DecidableEq E] [DecidableEq S]

theorem setCause_uses (dyn : CauseDyn V) :
    (engine.setCause c dyn).uses = Function.update engine.uses c dyn.use := by
  funext d
  unfold uses setCause
  by_cases same : d = c
  · subst same
    simp
  · simp [Function.update_of_ne same]

theorem setCause_uses_self {c : Fin n} {dyn : CauseDyn V} (same : dyn.use = (engine.cause c).use) :
    (engine.setCause c dyn).uses = engine.uses := by
  rw [setCause_uses, same]
  exact Function.update_eq_self c engine.uses

theorem freeValuearray_uses : (engine.freeValuearray c).uses = engine.uses := by
  unfold freeValuearray
  dsimp only
  split
  · exact setCause_uses_self engine rfl
  · rfl

end

variable {profile : Profile n E S P T V}

section

omit [DecidableEq E]

theorem initCause_uses {c : Fin n} (starts : env.starts c = true) (engine : Engine n E S P V) :
    (initCause profile env c engine).1.uses =
      Function.update engine.uses c ((engine.uses c).begun (profile.cause c)) := by
  unfold initCause
  dsimp only
  rw [starts, Bool.and_true]
  exact setCause_uses engine c _

theorem uninitCause_uses (engine : Engine n E S P V) :
    (uninitCause profile c engine).1.uses =
      Function.update engine.uses c (engine.uses c).ended := by
  unfold uninitCause
  rw [freeValuearray_uses]
  exact setCause_uses _ c _

theorem reinitCause_uses {c : Fin n} (starts : env.starts c = true) (engine : Engine n E S P V) :
    (reinitCause profile env c engine).1.uses =
      Function.update engine.uses c
        (if (engine.uses c).counter = 0 then (engine.uses c).begun (profile.cause c)
          else engine.uses c) := by
  unfold reinitCause
  dsimp only
  split
  · next spent =>
    rw [if_pos (show (engine.uses c).counter = 0 from spent)]
    exact initCause_uses starts engine
  · next left =>
    rw [if_neg (show (engine.uses c).counter ≠ 0 from left), Function.update_eq_self]
    exact setCause_uses_self engine rfl

end

/-- A function that changes only its own cause, and does not fail. -/
def Turns (body : Fin n → Engine n E S P V → Engine n E S P V × Bool)
    (change : Fin n → Use → Use) : Prop :=
  ∀ c engine, (body c engine).2 = true ∧
    (body c engine).1.uses = Function.update engine.uses c (change c (engine.uses c))

omit [DecidableEq E] [DecidableEq S] in
theorem untilError_uses (turns : Turns body change) {items : List (Fin n)} (nodup : items.Nodup)
    (engine : Engine n E S P V) (c : Fin n) :
    (untilError body items engine).1.uses c =
      if c ∈ items then change c (engine.uses c) else engine.uses c := by
  induction items generalizing engine with
  | nil => rfl
  | cons first rest ih =>
    obtain ⟨fresh, nodupRest⟩ := nodup_cons.mp nodup
    obtain ⟨ok, changed⟩ := turns first engine
    unfold untilError
    rw [if_pos ok, ih nodupRest, changed]
    by_cases same : c = first
    · subst same
      simp [fresh]
    · simp [same]

omit [DecidableEq S] in
theorem initEvent_uses (proper : profile.Proper) (turns : Turns body change) (e : E)
    (engine : Engine n E S P V) (c : Fin n) :
    (initEvent profile body e engine).1.uses c =
      if profile.eventOf c = e then change c (engine.uses c) else engine.uses c := by
  have same : (initEvent profile body e engine).1.uses =
      (untilError body (profile.causes e) engine).1.uses := by
    funext d
    unfold uses
    rw [(initEvent_fields profile body e engine).1]
  rw [same, untilError_uses turns (proper.causes e)]
  simp only [profile.mem_causes]

omit [DecidableEq S] in
theorem untilError_initEvent_uses (proper : profile.Proper) (turns : Turns body change)
    {events : List E} (nodup : events.Nodup) (engine : Engine n E S P V) (c : Fin n) :
    (untilError (initEvent profile body) events engine).1.uses c =
      if profile.eventOf c ∈ events then change c (engine.uses c) else engine.uses c := by
  induction events generalizing engine with
  | nil => rfl
  | cons first rest ih =>
    obtain ⟨fresh, nodupRest⟩ := nodup_cons.mp nodup
    have ok := initEvent_ok profile (fun c before => (turns c before).1) first engine
    unfold untilError
    rw [if_pos ok, ih nodupRest, initEvent_uses proper turns]
    by_cases same : profile.eventOf c = first
    · rw [same]
      simp [fresh]
    · simp [same]

theorem initState_uses (proper : profile.Proper) (turns : Turns body change) (s : S)
    (engine : Engine n E S P V) (c : Fin n) :
    (initState profile body s engine).1.uses c =
      if profile.stateOfCause c = s then change c (engine.uses c) else engine.uses c := by
  unfold initState
  rw [untilError_initEvent_uses proper turns (proper.events s)]
  simp only [profile.mem_events]
  rfl

omit [DecidableEq E] in
variable (profile) in
theorem initCause_turns (starts : ∀ c, env.starts c = true) :
    Turns (initCause (E := E) (P := P) profile env)
      (fun c use => use.begun (profile.cause c)) :=
  fun c engine => ⟨starts c, initCause_uses (starts c) engine⟩

theorem enterState_uses (proper : profile.Proper) (starts : ∀ c, env.starts c = true) (s : S)
    (engine : Engine n E S P V) :
    (enterState profile env s engine).2 = true ∧
      (enterState profile env s engine).1.uses = begunIn profile [s] engine.uses := by
  have turns := initCause_turns profile starts
  constructor
  · exact untilError_ok (initEvent_ok _ fun c before => (turns c before).1) _ _
  · funext c
    unfold enterState
    rw [initState_uses proper turns]
    simp only [begunIn, mem_singleton]
    rfl

theorem leaveState_uses (proper : profile.Proper) (s : S) (engine : Engine n E S P V) :
    (leaveState profile s engine).1.uses = endedIn profile [s] engine.uses := by
  have turns : Turns (uninitCause (E := E) (P := P) profile) (fun _ use => use.ended) :=
    fun c before => ⟨rfl, uninitCause_uses c before⟩
  funext c
  unfold leaveState
  rw [initState_uses proper turns]
  simp only [endedIn, mem_singleton]
  rfl

variable {states : List S} {p : P}

theorem foldl_leaveState_uses (proper : profile.Proper) (nodup : states.Nodup)
    (engine : Engine n E S P V) :
    (states.foldl (fun engine s => (leaveState profile s engine).1) engine).uses =
      endedIn profile states engine.uses := by
  induction states generalizing engine with
  | nil =>
    funext c
    simp [endedIn]
  | cons first rest ih =>
    obtain ⟨fresh, nodupRest⟩ := nodup_cons.mp nodup
    rw [foldl_cons, ih nodupRest, leaveState_uses proper]
    funext c
    unfold endedIn
    by_cases same : profile.stateOfCause c = first
    · rw [same]
      simp [fresh]
    · simp [same]

theorem untilError_addGlobalState (proper : profile.Proper) (starts : ∀ c, env.starts c = true)
    (allocated : env.allocated = true) (nodup : states.Nodup) (engine : Engine n E S P V) :
    (untilError (addGlobalState profile env) states engine).2 = true ∧
      (untilError (addGlobalState profile env) states engine).1.uses =
        begunIn profile states engine.uses ∧
      (untilError (addGlobalState profile env) states engine).1.globalStates =
        engine.globalStates ++ states ∧
      (untilError (addGlobalState profile env) states engine).1.currentState =
        engine.currentState ∧
      (untilError (addGlobalState profile env) states engine).1.state = engine.state := by
  induction states generalizing engine with
  | nil =>
    refine ⟨rfl, ?_, by simp [untilError], rfl, rfl⟩
    funext c
    simp [untilError, begunIn]
  | cons first rest ih =>
    obtain ⟨fresh, nodupRest⟩ := nodup_cons.mp nodup
    have added : addGlobalState profile env first engine =
        enterState profile env first
          { engine with globalStates := engine.globalStates ++ [first] } := by
      unfold addGlobalState
      rw [if_pos allocated]
    obtain ⟨ok, changed⟩ := enterState_uses proper starts first
      { engine with globalStates := engine.globalStates ++ [first] }
    have calm := enterState_calm profile env first
      { engine with globalStates := engine.globalStates ++ [first] }
    unfold untilError
    rw [added, if_pos ok]
    obtain ⟨allOk, uses, globals, current, state⟩ := ih nodupRest
      (enterState profile env first
        { engine with globalStates := engine.globalStates ++ [first] }).1
    refine ⟨allOk, ?_, ?_, ?_, ?_⟩
    · rw [uses, changed]
      funext c
      unfold begunIn
      by_cases same : profile.stateOfCause c = first
      · rw [same]
        simp [fresh, Engine.uses]
      · simp [same, Engine.uses]
    · rw [globals, calm.globalStates]
      simp [record]
    · rw [current, calm.currentState]
      rfl
    · rw [state, calm.state]
      rfl

def InUse (engine : Engine n E S P V) (s : S) : Prop :=
  engine.currentState = some s ∨ s ∈ engine.globalStates

omit [DecidableEq E] in
instance InUse.decidable (engine : Engine n E S P V) (s : S) : Decidable (engine.InUse s) :=
  inferInstanceAs (Decidable (_ ∨ _))

/-- The causes of a running engine: those of the states in use are balanced, and no
state with causes is in use twice. -/
structure Steady (profile : Profile n E S P T V) (engine : Engine n E S P V) : Prop where
  balanced : Balanced profile engine.InUse engine.uses
  apart : ∀ c, engine.currentState = some (profile.stateOfCause c) →
    profile.stateOfCause c ∉ engine.globalStates
  nodup : engine.globalStates.Nodup
  global : ∀ s ∈ engine.globalStates, profile.isGlobal s = true

omit [DecidableEq E] [DecidableEq S] in
theorem Steady.congr {before after : Engine n E S P V} (steady : Steady profile before)
    (uses : after.uses = before.uses) (current : after.currentState = before.currentState)
    (globals : after.globalStates = before.globalStates) : Steady profile after := by
  have inUse : after.InUse = before.InUse := by
    funext s
    unfold InUse
    rw [current, globals]
  refine ⟨?_, ?_, ?_, ?_⟩
  · rw [uses, inUse]
    exact steady.balanced
  · rw [current, globals]
    exact steady.apart
  · rw [globals]
    exact steady.nodup
  · rw [globals]
    exact steady.global

theorem uninitGlobalStates_balanced (proper : profile.Proper) {engine : Engine n E S P V}
    (steady : Steady profile engine)
    (started : ∀ c, profile.stateOfCause c ∈ engine.globalStates →
      (engine.uses c).initialised = true) :
    Balanced profile (fun s => engine.currentState = some s)
        (uninitGlobalStates profile engine).uses ∧
      ∀ c, profile.stateOfCause c ∉ engine.globalStates →
        (uninitGlobalStates profile engine).uses c = engine.uses c := by
  have all : engine.globalStates.filter profile.isGlobal = engine.globalStates :=
    filter_eq_self.mpr steady.global
  have uses : (uninitGlobalStates profile engine).uses =
      endedIn profile engine.globalStates engine.uses := by
    have left := foldl_leaveState_uses proper steady.nodup engine
    rw [← left]
    unfold uninitGlobalStates
    rw [all]
    rfl
  rw [uses]
  constructor
  · apply (steady.balanced.endedIn _ started).congr
    intro c
    constructor
    · rintro ⟨isCurrent | isIn, notIn⟩
      · exact isCurrent
      · exact absurd isIn notIn
    · intro isCurrent
      exact ⟨Or.inl isCurrent, steady.apart c isCurrent⟩
  · intro c notIn
    unfold endedIn
    rw [if_neg notIn]

theorem initGlobalStates_steady (proper : profile.Proper) (starts : ∀ c, env.starts c = true)
    {engine : Engine n E S P V} (steady : Steady profile engine) (none : engine.globalStates = [])
    (apart : ∀ c, env.allocated = true → profile.stateOfCause c ∈ profile.globals p →
      engine.currentState ≠ some (profile.stateOfCause c)) :
    Steady profile (initGlobalStates profile env p engine).1 ∧
      (initGlobalStates profile env p engine).1.currentState = engine.currentState ∧
      (initGlobalStates profile env p engine).1.state = engine.state := by
  unfold initGlobalStates
  by_cases allocated : env.allocated = true
  · have nodup : (profile.globals p).Nodup := (proper.states p).filter _
    obtain ⟨_, uses, globals, current, state⟩ :=
      untilError_addGlobalState proper starts allocated nodup engine
    rw [none, nil_append] at globals
    refine ⟨⟨?_, ?_, ?_, ?_⟩, current, state⟩
    · rw [uses]
      have begun : Balanced profile (fun s => engine.InUse s ∨ s ∈ profile.globals p)
          (begunIn profile (profile.globals p) engine.uses) := by
        apply steady.balanced.begunIn
        rintro c isIn (isCurrent | isOld)
        · exact apart c allocated isIn isCurrent
        · rw [none] at isOld
          simp at isOld
      apply begun.congr
      intro c
      unfold InUse
      rw [current, globals, none]
      simp
    · intro c isCurrent
      rw [globals]
      rw [current] at isCurrent
      intro isIn
      exact apart c allocated isIn isCurrent
    · rw [globals]
      exact nodup
    · rw [globals]
      intro s isIn
      exact (mem_filter.mp isIn).2
  · have same : (untilError (addGlobalState profile env) (profile.globals p) engine).1 =
        engine := by
      cases profile.globals p with
      | nil => rfl
      | cons first rest =>
        unfold untilError addGlobalState
        rw [if_neg allocated, if_neg (by simp)]
    rw [same]
    exact ⟨steady, rfl, rfl⟩

variable (profile) in
/-- What `init_purpose` does when senses start. -/
def movedTo (env : Env n) (s : S) (engine : Engine n E S P V) : Engine n E S P V :=
  if engine.currentState = some s then engine
  else
    { (enterState profile env s (leaveCurrent profile engine)).1 with currentState := some s }

theorem initPurpose_movedTo (proper : profile.Proper) (starts : ∀ c, env.starts c = true) {id : Int}
    {s : S} (found : profile.findState p id = some s) (engine : Engine n E S P V) :
    initPurpose profile env p id engine = (movedTo profile env s engine, true) := by
  rw [initPurpose_of_found env found, if_pos (enterState_uses proper starts s _).1]
  unfold movedTo
  split
  · rfl
  · rfl

variable (profile) in
theorem movedTo_frame (env : Env n) (s : S) (engine : Engine n E S P V) :
    (movedTo profile env s engine).currentPurpose = engine.currentPurpose ∧
      (movedTo profile env s engine).globalStates = engine.globalStates ∧
      (movedTo profile env s engine).state = engine.state ∧
      (movedTo profile env s engine).currentState = some s := by
  have left := leaveCurrent_frame profile engine
  have calm := enterState_calm profile env s (leaveCurrent profile engine)
  unfold movedTo
  split
  · next same => exact ⟨rfl, rfl, rfl, same⟩
  · exact ⟨calm.currentPurpose.trans left.1, calm.globalStates.trans left.2.1,
      calm.state.trans left.2.2.1, rfl⟩

theorem movedTo_steady (proper : profile.Proper) (starts : ∀ c, env.starts c = true) {s : S}
    {engine : Engine n E S P V} (steady : Steady profile engine)
    (started : ∀ c, engine.currentState = some (profile.stateOfCause c) →
      profile.stateOfCause c ≠ s → (engine.uses c).initialised = true)
    (apart : ∀ c, profile.stateOfCause c = s → s ∉ engine.globalStates) :
    Steady profile (movedTo profile env s engine) ∧
      ∀ c, profile.stateOfCause c ∈ engine.globalStates →
        (movedTo profile env s engine).uses c = engine.uses c := by
  by_cases same : engine.currentState = some s
  · unfold movedTo
    rw [if_pos same]
    exact ⟨steady, fun _ _ => rfl⟩
  · obtain ⟨_, globals, _, current⟩ := movedTo_frame profile env s engine
    have left : Balanced profile (fun t => t ∈ engine.globalStates)
        (leaveCurrent profile engine).uses ∧
        ∀ c, profile.stateOfCause c ∈ engine.globalStates →
          (leaveCurrent profile engine).uses c = engine.uses c := by
      unfold leaveCurrent
      cases isCurrent : engine.currentState with
      | none =>
        refine ⟨steady.balanced.congr ?_, fun _ _ => rfl⟩
        intro c
        simp [InUse, isCurrent]
      | some old =>
        rw [isCurrent] at started same
        rw [leaveState_uses proper]
        have isOld (c : Fin n) (isIn : profile.stateOfCause c ∈ [old]) :
            profile.stateOfCause c = old := mem_singleton.mp isIn
        have ended : Balanced profile (fun t => engine.InUse t ∧ t ∉ [old])
            (endedIn profile [old] engine.uses) := by
          apply steady.balanced.endedIn
          intro c isIn
          apply started c
          · rw [isOld c isIn]
          · rintro rfl
            exact same (congrArg some (isOld c isIn).symm)
        have separate (c : Fin n) (isIn : profile.stateOfCause c ∈ engine.globalStates) :
            profile.stateOfCause c ∉ [old] := by
          intro isHere
          have here := isOld c isHere
          rw [← here] at isCurrent
          exact steady.apart c isCurrent isIn
        constructor
        · apply ended.congr
          intro c
          constructor
          · rintro ⟨isNow | isIn, notOld⟩
            · rw [isCurrent] at isNow
              exact absurd (Option.some.inj isNow).symm (by simpa using notOld)
            · exact isIn
          · intro isIn
            exact ⟨Or.inr isIn, separate c isIn⟩
        · intro c isIn
          unfold endedIn
          rw [if_neg (separate c isIn)]
    have uses : (movedTo profile env s engine).uses =
        begunIn profile [s] (leaveCurrent profile engine).uses := by
      rw [← (enterState_uses proper starts s _).2]
      unfold movedTo
      rw [if_neg same]
      rfl
    have notGlobal (c : Fin n) (isIn : profile.stateOfCause c ∈ [s]) :
        profile.stateOfCause c ∉ engine.globalStates := by
      have here := mem_singleton.mp isIn
      rw [here]
      exact apart c here
    refine ⟨⟨?_, ?_, ?_, ?_⟩, ?_⟩
    · rw [uses]
      apply (left.1.begunIn _ notGlobal).congr
      intro c
      unfold InUse
      rw [globals, current, mem_singleton, Option.some.injEq]
      constructor
      · rintro (isIn | here)
        · exact Or.inr isIn
        · exact Or.inl here.symm
      · rintro (here | isIn)
        · exact Or.inr here.symm
        · exact Or.inl isIn
    · intro c isCurrent
      rw [current] at isCurrent
      have here := (Option.some.inj isCurrent).symm
      rw [globals, here]
      exact apart c here
    · rw [globals]
      exact steady.nodup
    · rw [globals]
      exact steady.global
    · intro c isIn
      rw [uses]
      unfold begunIn
      rw [if_neg fun isHere => notGlobal c isHere isIn]
      exact left.2 c isIn

end Engine

end Thingsee.Profiles
