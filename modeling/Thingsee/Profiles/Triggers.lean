import Thingsee.Profiles.Frames
import Thingsee.Support.Runs

/-!
Owns the `triggered` flags of causes: an event fires again only after each of its
causes has triggered again.

The flags of an event that fires are reset by `init_event` or by leaving its state
and entering it again. An event of a global state that moves the current state, and
an event whose target does not exist, go through neither.
`events_need_fresh_triggers` holds for all other runs.
-/

namespace Thingsee.Profiles

open Support

variable {n : Nat} {E S P T V : Type} [DecidableEq E] [DecidableEq S]

/-- Whether a cause of the event `e` has triggered since the event has fired. -/
def isFresh (c : Fin n) (e : E) : List (Entry n E S V) → Bool
  | [] => false
  | .triggered d :: rest => if d = c then true else isFresh c e rest
  | .fired f :: rest => if f = e then false else isFresh c e rest
  | _ :: rest => isFresh c e rest

/-- Whether an event has fired and no cause has triggered since. -/
def hasJustFired (e : E) : List (Entry n E S V) → Bool
  | [] => false
  | .triggered _ :: _ => false
  | .fired f :: rest => if f = e then true else hasJustFired e rest
  | _ :: rest => hasJustFired e rest

/-- Each time an event fires, all of its causes have triggered since it has fired
before. -/
def Renewed (profile : Profile n E S P T V) : List (Entry n E S V) → Prop
  | [] => True
  | .fired e :: rest => (∀ c ∈ profile.causes e, isFresh c e rest = true) ∧ Renewed profile rest
  | _ :: rest => Renewed profile rest

instance Renewed.decidable (profile : Profile n E S P T V) (log : List (Entry n E S V)) :
    Decidable (Renewed profile log) :=
  match log with
  | [] => isTrue trivial
  | .fired _ :: rest =>
    have := Renewed.decidable profile rest
    inferInstanceAs (Decidable (_ ∧ _))
  | .evaluated _ _ :: rest => Renewed.decidable profile rest
  | .triggered _ :: rest => Renewed.decidable profile rest
  | .left _ :: rest => Renewed.decidable profile rest
  | .entered _ :: rest => Renewed.decidable profile rest
  | .moved :: rest => Renewed.decidable profile rest

def isQuiet : Entry n E S V → Bool
  | .triggered _ | .fired _ => false
  | _ => true

section

omit [DecidableEq S]

theorem isFresh_quiet (quiet : isQuiet entry = true) (c : Fin n) (e : E)
    (log : List (Entry n E S V)) : isFresh c e (entry :: log) = isFresh c e log := by
  cases entry <;> first | rfl | simp [isQuiet] at quiet

theorem renewed_quiet {profile : Profile n E S P T V} (quiet : isQuiet entry = true)
    (log : List (Entry n E S V)) : Renewed profile (entry :: log) ↔ Renewed profile log := by
  cases entry <;> first | exact Iff.rfl | simp [isQuiet] at quiet

theorem isFresh_of_hasJustFired {e : E} {log : List (Entry n E S V)}
    (fired : hasJustFired e log = true) (c : Fin n) : isFresh c e log = false := by
  induction log with
  | nil => rfl
  | cons entry rest ih =>
    cases entry with
    | fired f =>
      unfold hasJustFired at fired
      unfold isFresh
      split
      · rfl
      · next other =>
        rw [if_neg other] at fired
        exact ih fired
    | triggered d => simp [hasJustFired] at fired
    | evaluated _ _ => exact ih fired
    | left _ => exact ih fired
    | entered _ => exact ih fired
    | moved => exact ih fired

end

namespace Engine

/-! ## Changes that only reset flags -/

/-- A change that only resets flags, and records nothing about causes and events. A
state is active after it only if it was active before, or if all its flags are
reset. -/
structure Tame (profile : Profile n E S P T V) (before after : Engine n E S P V) : Prop where
  flags : ∀ c, (before.cause c).triggered = false → (after.cause c).triggered = false
  fresh : ∀ c e, isFresh c e after.log = isFresh c e before.log
  renewed : Renewed profile after.log ↔ Renewed profile before.log
  active : ∀ s, isActive s after.log = true → isActive s before.log = true ∨
    ∀ c, profile.stateOfCause c = s → (after.cause c).triggered = false

variable {profile : Profile n E S P T V}

theorem Tame.trans {first second third : Engine n E S P V} (one : Tame profile first second)
    (two : Tame profile second third) : Tame profile first third where
  flags := fun c unset => two.flags c (one.flags c unset)
  fresh := fun c e => (two.fresh c e).trans (one.fresh c e)
  renewed := two.renewed.trans one.renewed
  active := by
    intro s isIn
    rcases two.active s isIn with middle | reset
    · rcases one.active s middle with start | reset
      · exact Or.inl start
      · right
        intro c inState
        exact two.flags c (reset c inState)
    · exact Or.inr reset

variable {before after : Engine n E S P V}

theorem Calm.tame (calm : Calm before after) :
    Tame profile before after where
  flags := calm.flags
  fresh := fun c e => by rw [calm.log]
  renewed := by rw [calm.log]
  active := fun s isIn => Or.inl (by rwa [calm.log] at isIn)

variable (engine : Engine n E S P V)

theorem Tame.refl : Tame profile engine engine :=
  (Calm.refl engine).tame

theorem record_tame {entry : Entry n E S V} (quiet : isQuiet entry = true)
    (notEntered : ∀ s, entry ≠ .entered s) :
    Tame profile engine (engine.record entry) where
  flags := fun _ unset => unset
  fresh := fun c e => isFresh_quiet quiet c e engine.log
  renewed := renewed_quiet quiet engine.log
  active := by
    intro s isIn
    left
    cases entry with
    | evaluated _ _ => exact isIn
    | triggered _ => exact isIn
    | fired _ => exact isIn
    | left t =>
      simp only [record, isActive] at isIn
      split at isIn
      · simp at isIn
      · exact isIn
    | entered t => exact absurd rfl (notEntered t)
    | moved => exact isIn

theorem leaveState_tame (s : S) (engine : Engine n E S P V) :
    Tame profile engine (leaveState profile s engine).1 :=
  (record_tame engine rfl (by simp)).trans (leaveState_calm s engine).tame

/-! ## Resetting all flags of an event or a state -/

variable {e : E} {s : S} {c : Fin n}

omit [DecidableEq E] [DecidableEq S] in
theorem untilError_resets {α : Type} {body : α → Engine n E S P V → Engine n E S P V × Bool}
    (ok : ∀ item engine, (body item engine).2 = true)
    (calm : ∀ item engine, Calm engine (body item engine).1) {items : List α} {item : α}
    (isIn : item ∈ items) (resets : ∀ engine, ((body item engine).1.cause c).triggered = false)
    (engine : Engine n E S P V) : ((untilError body items engine).1.cause c).triggered = false :=
  untilError_establishes (fun engine => (engine.cause c).triggered = false) ok
    (fun other before unset => (calm other before).flags c unset) isIn resets engine

omit [DecidableEq E] in
theorem initCause_resets (env : Env n) (c : Fin n) (engine : Engine n E S P V) :
    ((initCause profile env c engine).1.cause c).triggered = false := by
  simp [initCause, setLinked, setCause]

omit [DecidableEq E] in
theorem reinitCause_resets (env : Env n) (c : Fin n) (engine : Engine n E S P V) :
    ((reinitCause profile env c engine).1.cause c).triggered = false := by
  unfold reinitCause
  dsimp only
  split
  · exact initCause_resets env c engine
  · simp [setCause]

omit [DecidableEq S] in
theorem initEvent_resets {causeInit : Fin n → Engine n E S P V → Engine n E S P V × Bool}
    (ok : ∀ c engine, (causeInit c engine).2 = true)
    (calm : ∀ c engine, Calm engine (causeInit c engine).1)
    (resets : ∀ c engine, ((causeInit c engine).1.cause c).triggered = false)
    (ofEvent : profile.eventOf c = e) (engine : Engine n E S P V) :
    ((initEvent profile causeInit e engine).1.cause c).triggered = false := by
  have isIn : c ∈ profile.causes e := (profile.mem_causes c e).mpr ofEvent
  have unset := untilError_resets ok calm isIn (resets c) engine
  unfold initEvent
  dsimp only
  split
  · exact unset
  · exact unset

variable {env : Env n}

theorem enterState_resets (succeeds : env.Succeeds) (inState : profile.stateOfCause c = s)
    (engine : Engine n E S P V) :
    ((enterState profile env s engine).1.cause c).triggered = false := by
  have isIn : profile.eventOf c ∈ profile.events s := (profile.mem_events _ s).mpr inState
  apply untilError_resets (initEvent_ok _ (initCause_ok succeeds))
    (initEvent_calm (initCause_calm env)) isIn
  exact initEvent_resets (initCause_ok succeeds) (initCause_calm env) (initCause_resets env) rfl

theorem enterState_tame (succeeds : env.Succeeds) (s : S) (engine : Engine n E S P V) :
    Tame profile engine (enterState profile env s engine).1 := by
  have calm := enterState_calm profile env s engine
  refine ⟨calm.flags, ?_, ?_, ?_⟩
  · intro c e
    rw [calm.log]
    exact isFresh_quiet rfl c e engine.log
  · rw [calm.log]
    exact renewed_quiet rfl engine.log
  · intro t isIn
    by_cases same : s = t
    · subst same
      right
      intro c inState
      exact enterState_resets succeeds inState engine
    · left
      rw [calm.log] at isIn
      simpa [record, isActive, same] using isIn

/-! ## Settled states -/

/-- A state that is not active, or whose flags are all reset. -/
def Settled (profile : Profile n E S P T V) (s : S) (engine : Engine n E S P V) : Prop :=
  isActive s engine.log = true →
    ∀ c, profile.stateOfCause c = s → (engine.cause c).triggered = false

theorem Tame.settled (tame : Tame profile before after) (settled : Settled profile s before) :
    Settled profile s after := by
  intro isIn c inState
  rcases tame.active s isIn with wasIn | reset
  · exact tame.flags c (settled wasIn c inState)
  · exact reset c inState

theorem leaveState_settled (s : S) (engine : Engine n E S P V) :
    Settled profile s (leaveState profile s engine).1 := by
  intro isIn
  rw [(leaveState_calm s engine).log] at isIn
  simp [record, isActive] at isIn

theorem enterState_settled (succeeds : env.Succeeds) (s : S) (engine : Engine n E S P V) :
    Settled profile s (enterState profile env s engine).1 :=
  fun _ _ inState => enterState_resets succeeds inState engine

theorem addGlobalState_tame (succeeds : env.Succeeds) (s : S) (engine : Engine n E S P V) :
    Tame profile engine (addGlobalState profile env s engine).1 := by
  rw [addGlobalState_eq _ succeeds]
  have added : Tame profile engine { engine with globalStates := engine.globalStates ++ [s] } :=
    ⟨fun _ unset => unset, fun _ _ => rfl, Iff.rfl, fun _ isIn => Or.inl isIn⟩
  exact added.trans (enterState_tame succeeds s _)

theorem initGlobalStates_tame (succeeds : env.Succeeds) (p : P) (engine : Engine n E S P V) :
    Tame profile engine (initGlobalStates profile env p engine).1 :=
  untilError_invariant (Tame profile engine)
    (fun s _ before tame => tame.trans (addGlobalState_tame succeeds s before))
    (Tame.refl engine)

theorem initGlobalStates_settled (succeeds : env.Succeeds) {p : P} (isIn : s ∈ profile.globals p)
    (engine : Engine n E S P V) : Settled profile s (initGlobalStates profile env p engine).1 := by
  apply untilError_establishes (Settled profile s)
  · intro t before
    rw [addGlobalState_eq _ succeeds]
    exact enterState_ok _ succeeds t _
  · intro t before settled
    exact (addGlobalState_tame succeeds t before).settled settled
  · exact isIn
  · intro before
    rw [addGlobalState_eq _ succeeds]
    exact enterState_settled succeeds s _

theorem foldl_leaveState_tame (states : List S) (engine : Engine n E S P V) :
    Tame profile engine (states.foldl (fun engine s => (leaveState profile s engine).1) engine) :=
  foldl_invariant_of_keeps (Tame profile engine)
    (fun before s tame => tame.trans (leaveState_tame s before)) states (Tame.refl engine)

theorem foldl_leaveState_settled {states : List S} (isIn : s ∈ states) (engine : Engine n E S P V) :
    Settled profile s (states.foldl (fun engine s => (leaveState profile s engine).1) engine) := by
  induction states generalizing engine with
  | nil => simp at isIn
  | cons first rest ih =>
    rw [List.foldl_cons]
    by_cases here : s = first
    · subst here
      exact (foldl_leaveState_tame rest _).settled (leaveState_settled s engine)
    · exact ih (by simpa [here] using isIn) _

theorem uninitGlobalStates_tame : Tame profile engine (uninitGlobalStates profile engine) :=
  (foldl_leaveState_tame _ engine).trans
    ⟨fun _ unset => unset, fun _ _ => rfl, Iff.rfl, fun _ isIn => Or.inl isIn⟩

theorem uninitGlobalStates_settled {engine : Engine n E S P V}
    (isIn : s ∈ engine.globalStates.filter profile.isGlobal) :
    Settled profile s (uninitGlobalStates profile engine) :=
  foldl_leaveState_settled isIn engine

theorem leaveCurrent_tame : Tame profile engine (leaveCurrent profile engine) := by
  unfold leaveCurrent
  split
  · exact Tame.refl engine
  · exact leaveState_tame _ engine

section

variable (succeeds : env.Succeeds) {p : P} {id : Int} {t : S}
  (found : profile.findState p id = some t)
include succeeds found

theorem initPurpose_tame (engine : Engine n E S P V) :
    Tame profile engine (initPurpose profile env p id engine).1 := by
  rw [initPurpose_eq succeeds found]
  split
  · exact Tame.refl engine
  · apply (leaveCurrent_tame engine).trans
    apply (enterState_tame succeeds t _).trans
    exact ⟨fun _ unset => unset, fun _ _ => rfl, Iff.rfl, fun _ isIn => Or.inl isIn⟩

theorem initPurpose_settled {engine : Engine n E S P V} (changes : engine.currentState ≠ some t)
    (isOne : engine.currentState = some s ∨ t = s) :
    Settled profile s (initPurpose profile env p id engine).1 := by
  rw [initPurpose_eq succeeds found]
  rw [if_neg changes]
  have entered : Settled profile s (enterState profile env t (leaveCurrent profile engine)).1 := by
    rcases isOne with isCurrent | isNew
    · apply (enterState_tame succeeds t _).settled
      unfold leaveCurrent
      rw [isCurrent]
      exact leaveState_settled s engine
    · subst isNew
      exact enterState_settled succeeds t _
  exact entered

end

variable [DecidableEq P] {engine : Engine n E S P V}

theorem initProfile_tame (succeeds : env.Succeeds) (puId stId : Int) (engine : Engine n E S P V) :
    Tame profile engine (initProfile profile env puId stId engine).1 := by
  cases found : (profile.findPurpose puId).bind (fun p => profile.findState p stId) with
  | none =>
    rw [initProfile_of_missing env found]
    exact Tame.refl engine
  | some t =>
    obtain ⟨p, foundPurpose, foundState⟩ := Option.bind_eq_some_iff.mp found
    have first := initPurpose_tame succeeds foundState engine
    rw [initProfile_eq succeeds foundPurpose foundState]
    dsimp only
    split
    · exact first
    · apply first.trans
      apply (uninitGlobalStates_tame _).trans
      apply (initGlobalStates_tame succeeds p _).trans
      exact ⟨fun _ unset => unset, fun _ _ => rfl, Iff.rfl, fun _ isIn => Or.inl isIn⟩

/-- The transition of the event leaves the state of the event or enters it again. -/
def LeavesOwn (profile : Profile n E S P T V) (e : E) (engine : Engine n E S P V) : Prop :=
  ∃ place ∈ target profile e engine,
    (engine.currentState ≠ some place.2 ∧
      (engine.currentState = some (profile.stateOf e) ∨ place.2 = profile.stateOf e)) ∨
    (engine.currentPurpose ≠ some place.1 ∧
      (profile.stateOf e ∈ engine.globalStates.filter profile.isGlobal ∨
        profile.stateOf e ∈ profile.globals place.1))

instance (profile : Profile n E S P T V) (e : E) (engine : Engine n E S P V) :
    Decidable (LeavesOwn profile e engine) :=
  inferInstanceAs (Decidable (∃ place ∈ target profile e engine, _))

theorem initProfile_settled (succeeds : env.Succeeds) (leaves : LeavesOwn profile e engine) :
    Settled profile (profile.stateOf e)
      (initProfile profile env (gotoPurpose profile e engine) (profile.gotoStId e) engine).1 := by
  obtain ⟨⟨p, t⟩, isTarget, how⟩ := leaves
  obtain ⟨q, foundPurpose, rest⟩ := Option.bind_eq_some_iff.mp isTarget
  obtain ⟨u, foundState, same⟩ := Option.map_eq_some_iff.mp rest
  obtain ⟨rfl, rfl⟩ := Prod.mk.inj same
  have frame := initPurpose_frame succeeds foundState engine
  rw [initProfile_eq succeeds foundPurpose foundState]
  dsimp only
  rcases how with ⟨changes, isOne⟩ | ⟨changes, isOne⟩
  · have first := initPurpose_settled succeeds foundState changes isOne
    split
    · exact first
    · have globals := (initGlobalStates_tame succeeds q _).settled
        ((uninitGlobalStates_tame _).settled first)
      exact globals
  · rw [if_neg (by rwa [frame.1])]
    have globals : Settled profile (profile.stateOf e)
        (initGlobalStates profile env q (uninitGlobalStates profile
          (initPurpose profile env q (profile.gotoStId e) engine).1)).1 := by
      rcases isOne with isOld | isNew
      · apply (initGlobalStates_tame succeeds q _).settled
        apply uninitGlobalStates_settled
        rwa [frame.2.1]
      · exact initGlobalStates_settled succeeds isNew _
    exact globals

/-- A cause of an active state is flagged only if it has triggered since its event has
fired. -/
def FlagFresh (profile : Profile n E S P T V) (engine : Engine n E S P V) (c : Fin n) : Prop :=
  isActive (profile.stateOfCause c) engine.log = true → (engine.cause c).triggered = true →
    isFresh c (profile.eventOf c) engine.log = true

structure Flagged (profile : Profile n E S P T V) (engine : Engine n E S P V) : Prop where
  renewed : Renewed profile engine.log
  fresh : ∀ c, FlagFresh profile engine c

section

omit [DecidableEq P]

theorem flagFresh_of_settled (settled : Settled profile (profile.stateOfCause c) engine) :
    FlagFresh profile engine c := by
  intro isIn set
  rw [settled isIn c rfl] at set
  simp at set

theorem Tame.flagFresh (tame : Tame profile before after) (fresh : FlagFresh profile before c) :
    FlagFresh profile after c := by
  intro isIn set
  have wasSet : (before.cause c).triggered = true := by
    by_contra unset
    rw [tame.flags c (by simpa using unset)] at set
    simp at set
  rcases tame.active _ isIn with wasIn | reset
  · rw [tame.fresh]
    exact fresh wasIn wasSet
  · rw [reset c rfl] at set
    simp at set

theorem Tame.flagged (tame : Tame profile before after) (flagged : Flagged profile before) :
    Flagged profile after :=
  ⟨tame.renewed.mpr flagged.renewed, fun c => tame.flagFresh (flagged.fresh c)⟩

theorem judged_flagged (flagged : Flagged profile engine) (env : Env n) (c : Fin n) :
    Flagged profile (judged profile env c engine).1 :=
  ((record_tame engine rfl (by simp)).trans (judged_calm _ env c engine).tame).flagged flagged

theorem marked_flagged (flagged : Flagged profile engine) (env : Env n) (c : Fin n) :
    Flagged profile (marked profile env c engine) := by
  have before := judged_flagged flagged env c
  refine ⟨before.renewed, ?_⟩
  intro d isIn set
  change (if c = d then true else isFresh d _ (judged profile env c engine).1.log) = true
  split
  · rfl
  · next other =>
    apply before.fresh d isIn
    simpa [marked, record, setCause, Function.update_of_ne (Ne.symm other)] using set

theorem fired_flagged (flagged : Flagged profile engine)
    (isIn : isActive (profile.stateOf e) engine.log = true)
    (all : allCausesTriggered profile e engine = true) :
    Renewed profile (engine.record (.fired e)).log ∧
      ∀ c, profile.eventOf c ≠ e → FlagFresh profile (engine.record (.fired e)) c := by
  refine ⟨⟨?_, flagged.renewed⟩, ?_⟩
  · intro c isCause
    have ofEvent : profile.eventOf c = e := (profile.mem_causes c e).mp isCause
    have set : (engine.cause c).triggered = true := List.all_eq_true.mp all c isCause
    subst ofEvent
    exact flagged.fresh c isIn set
  · intro c other isActiveThere set
    change (if e = profile.eventOf c then false else isFresh c _ engine.log) = true
    rw [if_neg (Ne.symm other)]
    exact flagged.fresh c isActiveThere set

end

omit [DecidableEq E] [DecidableEq S] [DecidableEq P] in
theorem LeavesOwn.congr {first second : Engine n E S P V}
    (samePurpose : second.currentPurpose = first.currentPurpose)
    (sameState : second.currentState = first.currentState)
    (sameGlobals : second.globalStates = first.globalStates) (leaves : LeavesOwn profile e first) :
    LeavesOwn profile e second := by
  unfold LeavesOwn target at leaves ⊢
  rw [gotoPurpose_congr e samePurpose, samePurpose, sameState, sameGlobals]
  exact leaves

theorem afterActions_flagged (succeeds : env.Succeeds) (renewed : Renewed profile engine.log)
    (others : ∀ c, profile.eventOf c ≠ e → FlagFresh profile engine c)
    (leaves : stateChanging profile e engine = true → LeavesOwn profile e engine) :
    Flagged profile (afterActions profile env e engine) := by
  unfold afterActions
  split
  · next changing =>
    have tame := @initProfile_tame n E S P T V _ _ profile env _ succeeds
      (gotoPurpose profile e engine) (profile.gotoStId e) engine
    have settled := initProfile_settled succeeds (leaves changing)
    have after : Flagged profile (initProfile profile env (gotoPurpose profile e engine)
        (profile.gotoStId e) engine).1 := by
      refine ⟨tame.renewed.mpr renewed, ?_⟩
      intro c
      by_cases own : profile.eventOf c = e
      · subst own
        exact flagFresh_of_settled settled
      · exact tame.flagFresh (others c own)
    dsimp only
    split
    · exact after
    · exact (record_tame _ rfl (by simp)).flagged after
  · have calm : Calm engine (initEvent profile (reinitCause profile env) e engine).1 :=
      initEvent_calm (reinitCause_calm env) e engine
    refine ⟨calm.tame.renewed.mpr renewed, ?_⟩
    intro c
    by_cases own : profile.eventOf c = e
    · intro _ set
      rw [initEvent_resets (reinitCause_ok succeeds) (reinitCause_calm env)
        (reinitCause_resets env) own engine] at set
      simp at set
    · exact calm.tame.flagFresh (others c own)

theorem handleCauseEvent_flagged (succeeds : env.Succeeds) (flagged : Flagged profile engine)
    (isIn : isActive (profile.stateOfCause c) engine.log = true)
    (leaves : fires profile env c engine = true → stateChanging profile (profile.eventOf c) engine =
      true → LeavesOwn profile (profile.eventOf c) engine) :
    Flagged profile (handleCauseEvent profile env c engine) := by
  have frame := marked_frame profile env c engine
  rcases handleCauseEvent_cases _ env c engine with
    ⟨_, _, result⟩ | ⟨_, _, result⟩ | ⟨_, fired, all, result⟩
  · rw [result]
    apply (freeValuearray_calm _ c).tame.flagged
    apply (setCause_calm _ c fun _ => rfl).tame.flagged
    exact judged_flagged flagged env c
  · rw [result]
    apply (freeValuearray_calm _ c).tame.flagged
    exact marked_flagged flagged env c
  · rw [result]
    apply (freeValuearray_calm _ c).tame.flagged
    have stillIn : isActive (profile.stateOfCause c) (marked profile env c engine).log = true := by
      rw [frame.1]
      exact isIn
    have after := fired_flagged (marked_flagged flagged env c) stillIn all
    apply afterActions_flagged succeeds after.1 after.2
    intro changing
    apply LeavesOwn.congr frame.2.1 frame.2.2.1 frame.2.2.2.1
    apply leaves fired
    rw [← changing]
    exact stateChanging_congr _ frame.2.1.symm frame.2.2.1.symm

end Engine

namespace Machine

open Engine

variable [DecidableEq P] (profile : Profile n E S P T V)

/-- The condition on a step: what it starts does start, and it evaluates a cause of an
active state, whose event, if it fires and changes the state, leaves its own state or
enters it again. -/
def KeepsTriggers (machine : Machine n E S P V) (action : Action n V × Env n) : Prop :=
  action.2.Succeeds ∧ ∀ evaluation ∈ machine.evaluates profile action.1,
    isActive (profile.stateOfCause evaluation.1) evaluation.2.log = true ∧
      (fires profile action.2 evaluation.1 evaluation.2 = true →
        stateChanging profile (profile.eventOf evaluation.1) evaluation.2 = true →
          LeavesOwn profile (profile.eventOf evaluation.1) evaluation.2)

instance (machine : Machine n E S P V) (action : Action n V × Env n) :
    Decidable (KeepsTriggers profile machine action) :=
  inferInstanceAs (Decidable (_ ∧ ∀ evaluation ∈ machine.evaluates profile action.1, _))

variable {profile}

theorem profileMain_tame {env : Env n} (succeeds : env.Succeeds) (engine : Engine n E S P V) :
    Tame profile engine (engine.profileMain profile env) := by
  have begun : Tame profile engine
      { engine with currentPurpose := none, currentState := none, globalStates := [] } :=
    ⟨fun _ unset => unset, fun _ _ => rfl, Iff.rfl, fun _ isIn => Or.inl isIn⟩
  have started := begun.trans (initProfile_tame succeeds (-1) (-1) _)
  unfold profileMain
  dsimp only
  split
  · exact started.trans ⟨fun _ unset => unset, fun _ _ => rfl, Iff.rfl, fun _ isIn => Or.inl isIn⟩
  · exact started

omit [DecidableEq P] in
theorem profileStop_tame (free : Bool) (engine : Engine n E S P V) :
    Tame profile engine (engine.profileStop profile free) := by
  have stopped : Tame profile engine
      (leaveCurrent profile (uninitGlobalStates profile engine)) :=
    (uninitGlobalStates_tame engine).trans (leaveCurrent_tame _)
  exact stopped.trans ⟨fun _ unset => unset, fun _ _ => rfl, Iff.rfl, fun _ isIn => Or.inl isIn⟩

omit [DecidableEq P] in
theorem profileContinue_tame {env : Env n} (succeeds : env.Succeeds)
    (engine : Engine n E S P V) : Tame profile engine (engine.profileContinue profile env) := by
  unfold profileContinue
  split
  · next p s _ _ =>
    have globals := @initGlobalStates_tame n E S P T V _ _ profile env succeeds p engine
    rw [if_pos (initGlobalStates_ok succeeds p engine), if_pos (enterState_ok _ succeeds s _)]
    apply globals.trans
    apply (enterState_tame succeeds s _).trans
    exact ⟨fun _ unset => unset, fun _ _ => rfl, Iff.rfl, fun _ isIn => Or.inl isIn⟩
  · exact Tame.refl engine

theorem step_flagged {machine : Machine n E S P V} (flagged : Flagged profile machine.engine)
    {action : Action n V × Env n} (keeps : KeepsTriggers profile machine action) :
    Flagged profile (machine.step profile action).engine := by
  obtain ⟨succeeds, evaluation⟩ := keeps
  obtain ⟨engine, walk⟩ := machine
  obtain ⟨what, env⟩ := action
  cases walk with
  | some walk =>
    cases what with
    | next =>
      obtain ⟨source, iterator⟩ := walk
      cases iterator with
      | none => exact flagged
      | some c =>
        by_cases same : (profile.cause c).sId = (profile.cause source).sId
        · have here := evaluation (c, copyValue source c engine) (by simp [evaluates, same])
          have copied := (copyValue_calm source c engine).tame.flagged flagged
          have after := handleCauseEvent_flagged succeeds copied here.1 here.2
          simpa [step, nextTurn, same] using after
        · simpa [step, nextTurn, same] using flagged
    | main => exact flagged
    | sample _ _ => exact flagged
    | direct _ _ => exact flagged
    | stop _ => exact flagged
    | «continue» => exact flagged
  | none =>
    cases what with
    | next => exact flagged
    | main =>
      by_cases stopped : engine.state = .stopped
      · simpa [step, stopped] using (profileMain_tame succeeds engine).flagged flagged
      · simpa [step, stopped] using flagged
    | sample source sample =>
      by_cases possible : engine.state = .running ∧ (engine.cause source).initialised
      · simpa [step, possible] using (deliver_calm source engine sample).tame.flagged flagged
      · simpa [step, possible] using flagged
    | direct c sample =>
      by_cases possible : engine.state = .running ∧ (engine.cause c).initialised
      · have here := evaluation (c, engine.deliver c sample) (by simp [evaluates, possible])
        have delivered := (deliver_calm c engine sample).tame.flagged flagged
        have after := handleCauseEvent_flagged succeeds delivered here.1 here.2
        simpa [step, possible] using after
      · simpa [step, possible] using flagged
    | stop free =>
      by_cases running : engine.state = .running
      · simpa [step, running] using (profileStop_tame free engine).flagged flagged
      · simpa [step, running] using flagged
    | «continue» =>
      by_cases paused : engine.state = .paused
      · simpa [step, paused] using (profileContinue_tame succeeds engine).flagged flagged
      · simpa [step, paused] using flagged

omit [DecidableEq P] in
theorem initial_flagged (zero : V) : Flagged profile (initial n E S P zero).engine :=
  ⟨trivial, fun _ isIn => by simp [initial, isActive] at isIn⟩

/-- In a run whose steps all meet the condition, each of its causes triggers between two
firings of an event, and an event that has fired in a state that is still active has
only reset flags. -/
theorem events_need_fresh_triggers (profile : Profile n E S P T V) (zero : V)
    (actions : List (Action n V × Env n))
    (guarded : Guarded (step profile) (KeepsTriggers profile) (initial n E S P zero) actions) :
    Renewed profile (run profile (initial n E S P zero) actions).engine.log ∧
      ∀ e, hasJustFired e (run profile (initial n E S P zero) actions).engine.log = true →
        isActive (profile.stateOf e)
          (run profile (initial n E S P zero) actions).engine.log = true →
          ∀ c ∈ profile.causes e,
            ((run profile (initial n E S P zero) actions).engine.cause c).triggered = false := by
  have flagged : Flagged profile (run profile (initial n E S P zero) actions).engine :=
    foldl_invariant (fun machine => Flagged profile machine.engine)
      (fun _ _ before keeps => step_flagged before keeps) (initial_flagged zero) guarded
  refine ⟨flagged.renewed, ?_⟩
  intro e fired isIn c isCause
  have ofEvent : profile.eventOf c = e := (profile.mem_causes c e).mp isCause
  subst ofEvent
  by_contra set
  have fresh := flagged.fresh c isIn (by simpa using set)
  rw [isFresh_of_hasJustFired fired c] at fresh
  simp at fresh

/-! ## A global state that moves the current state -/

/-- The states of a purpose with a global state. -/
inductive Place where
  | anywhere
  | first
  | second
deriving DecidableEq

attribute [local instance] neZero_two

/-- A purpose with a global state that has one event with two causes. -/
def globalEvent (goto : Int) : Profile 2 Unit Place Unit Unit Nat where
  cause := fun c =>
    { sId := c.val
      orderId := 0
      interval := -1
      count := 0
      thresholdCount := 0
      negate := false
      relative := false
      thresholds := [()]
      minType := .uint32
      holds := false }
  eventOf := fun _ => ()
  stateOf := fun _ => .anywhere
  purposeOf := fun _ => ()
  causes := fun _ => [0, 1]
  events := fun s => if s = .anywhere then [()] else []
  states := fun _ => [.anywhere, .first, .second]
  purposes := [()]
  gotoStId := fun _ => goto
  gotoPuId := fun _ => -1
  stId := fun s =>
    match s with
    | .anywhere => 0
    | .first => 1
    | .second => 2
  isGlobal := fun s => decide (s = .anywhere)
  puId := fun _ => 0
  initStId := fun _ => 1
  initPuId := 0
  check := fun _ _ _ => true
  isGeofence := fun _ => false
  geofence := fun _ _ => none
  ofBool := fun inside => if inside then 1 else 0
  mem_causes := by
    intro c e
    cases e
    revert c
    decide
  mem_events := by
    intro e s
    cases s <;> simp
  mem_states := by
    intro s p
    cases s <;> simp

/-- The second cause makes the event go to the second state, and then the first cause
alone makes it fire again. -/
theorem event_fires_again :
    let actions := (.main, allStart) :: handled 0 (.plain .uint32 7) ++ handled 1 (.plain .uint32 7)
    let fired := run (globalEvent 2) (initial 2 Unit Place Unit 0) actions
    let again := run (globalEvent 2) (initial 2 Unit Place Unit 0)
      (actions ++ handled 0 (.plain .uint32 7))
    (∀ action ∈ actions ++ handled 0 (.plain .uint32 7), action.2.Succeeds) ∧
      hasJustFired () fired.engine.log = true ∧ isActive .anywhere fired.engine.log = true ∧
      (fired.engine.cause 0).triggered = true ∧ ¬ Renewed (globalEvent 2) again.engine.log := by
  decide

/-- An event that goes nowhere fires once more only after both of its causes. -/
theorem event_waits_for_triggers :
    let actions := (.main, allStart) :: handled 0 (.plain .uint32 7) ++
      handled 1 (.plain .uint32 7) ++ handled 0 (.plain .uint32 7)
    Renewed (globalEvent (-1)) (run (globalEvent (-1)) (initial 2 Unit Place Unit 0)
        actions).engine.log ∧
      ∀ e, hasJustFired e (run (globalEvent (-1)) (initial 2 Unit Place Unit 0)
          actions).engine.log = true →
        isActive ((globalEvent (-1)).stateOf e) (run (globalEvent (-1))
            (initial 2 Unit Place Unit 0) actions).engine.log = true →
          ∀ c ∈ (globalEvent (-1)).causes e,
            ((run (globalEvent (-1)) (initial 2 Unit Place Unit 0)
              actions).engine.cause c).triggered = false :=
  events_need_fresh_triggers (globalEvent (-1)) 0
    ((.main, allStart) :: handled 0 (.plain .uint32 7) ++ handled 1 (.plain .uint32 7) ++
      handled 0 (.plain .uint32 7)) (by decide)

end Machine

end Thingsee.Profiles
