import Thingsee.Profiles.Transitions

/-!
Owns what happens to a state that is left while `handle_cause` walks over its causes.

`init_state` empties the queue of the state, but the causes keep their links, so that
the walk goes on with the causes behind the one whose event has changed the state.
`left_states_stay_quiet` holds for runs in which none of these has the sense id of the
sample.
-/

namespace Thingsee.Profiles

open Support

variable {n : Nat} {E S P T V : Type} [DecidableEq E] [DecidableEq S]

namespace Engine

variable [DecidableEq P] {profile : Profile n E S P T V}
  {env : Env n} {engine : Engine n E S P V} {c : Fin n}

section

omit [DecidableEq E] [DecidableEq P]

theorem Sound.of_calm {before after : Engine n E S P V} (sound : Sound profile before)
    (calm : Calm before after)
    (placed : Placed profile (fun c => isActive (profile.stateOfCause c) before.log = true) after) :
    Sound profile after := by
  refine ⟨?_, ?_, ?_, ?_, ?_⟩
  · unfold Running
    rwa [calm.log]
  · rw [calm.log]
    exact sound.quiet
  · rw [calm.log, calm.currentState, calm.globalStates]
    exact sound.active
  · rw [calm.globalStates, calm.currentPurpose]
    exact sound.globals
  · rw [calm.currentState, calm.currentPurpose]
    exact sound.purpose

theorem Sound.record (sound : Sound profile engine) {entry : Entry n E S V}
    (same : ∀ s, isActive s (entry :: engine.log) = isActive s engine.log)
    (quiet : StaysQuiet profile (entry :: engine.log)) : Sound profile (engine.record entry) := by
  refine ⟨⟨sound.running.link, sound.running.head, sound.running.tail, ?_⟩, quiet, ?_,
    sound.globals, sound.purpose⟩
  · intro c started
    exact (same _).trans (sound.running.runs c started)
  · intro s isIn
    exact sound.active s ((same s).symm.trans isIn)

end

omit [DecidableEq P] in
theorem judged_sound (sound : Sound profile engine) (env : Env n)
    (isIn : isActive (profile.stateOfCause c) engine.log = true) :
    Sound profile (judged profile env c engine).1 := by
  have begun : Sound profile
      (engine.record (.evaluated c (engine.view (engine.cause c).value))) :=
    sound.record (fun _ => rfl) sound.quiet
  apply begun.of_calm (judged_calm _ env c engine)
  apply checkThresholds_placed env _ begun.running
  intro d sameEvent
  unfold Profile.stateOfCause
  rw [sameEvent]
  exact isIn

omit [DecidableEq P] in
theorem marked_sound (sound : Sound profile engine) (env : Env n)
    (isIn : isActive (profile.stateOfCause c) engine.log = true) :
    Sound profile (marked profile env c engine) := by
  have before := judged_sound sound env isIn
  have stillIn : isActive (profile.stateOfCause c) (judged profile env c engine).1.log = true := by
    rw [(judged_calm _ env c engine).log]
    exact isIn
  have flagged : Sound profile ((judged profile env c engine).1.setCause c
      { (judged profile env c engine).1.cause c with triggered := true }) := by
    have placed : Running profile ((judged profile env c engine).1.setCause c
        { (judged profile env c engine).1.cause c with triggered := true }) :=
      setCause_placed before.running (before.running.runs c)
    exact ⟨placed, before.quiet, before.active, before.globals, before.purpose⟩
  exact flagged.record (fun _ => rfl) ⟨stillIn, before.quiet⟩

theorem afterActions_sound (succeeds : env.Succeeds) {e : E} (sound : Sound profile engine)
    (isIn : isActive (profile.stateOf e) engine.log = true) :
    Sound profile (afterActions profile env e engine) := by
  unfold afterActions
  split
  · dsimp only
    have after : Sound profile (initProfile profile env (gotoPurpose profile e engine)
        (profile.gotoStId e) engine).1 := by
      cases found : (profile.findPurpose (gotoPurpose profile e engine)).bind
          (fun p => profile.findState p (profile.gotoStId e)) with
      | none =>
        rw [initProfile_of_missing env found]
        exact sound
      | some t =>
        obtain ⟨p, foundPurpose, foundState⟩ := Option.bind_eq_some_iff.mp found
        exact initProfile_sound succeeds foundPurpose foundState sound
    split
    · exact after
    · exact after.record (fun _ => rfl) after.quiet
  · apply sound.of_calm (initEvent_calm (reinitCause_calm env) e engine)
    apply reinitEvent_placed env _ sound.running
    intro d ofEvent
    unfold Profile.stateOfCause
    rw [ofEvent]
    exact isIn

/-! ## Evaluations -/

theorem handleCauseEvent_sound (succeeds : env.Succeeds) (sound : Sound profile engine)
    (isIn : isActive (profile.stateOfCause c) engine.log = true) :
    Sound profile (handleCauseEvent profile env c engine) := by
  have frame := marked_frame profile env c engine
  have before := judged_sound sound env isIn
  have marked := marked_sound sound env isIn
  have free {engine : Engine n E S P V} (sound : Sound profile engine) :
      Sound profile (engine.freeValuearray c) :=
    sound.of_calm (freeValuearray_calm engine c) (freeValuearray_placed sound.running c)
  rcases handleCauseEvent_cases _ env c engine with
    ⟨_, _, result⟩ | ⟨_, _, result⟩ | ⟨_, _, _, result⟩
  · rw [result]
    apply free
    apply before.of_calm (setCause_calm _ c fun _ => rfl)
    exact setCause_placed before.running (before.running.runs c)
  · rw [result]
    exact free marked
  · rw [result]
    apply free
    have stillIn : isActive (profile.stateOfCause c) (Engine.marked profile env c engine).log =
        true := by
      rw [frame.1]
      exact isIn
    exact afterActions_sound succeeds (marked.record (fun _ => rfl) ⟨stillIn, marked.quiet⟩) stillIn

section

omit [DecidableEq E] [DecidableEq S] [DecidableEq P]

theorem freeValuearray_flink (engine : Engine n E S P V) (c : Fin n) :
    (engine.freeValuearray c).flink = engine.flink := by
  unfold freeValuearray
  dsimp only
  split
  · rfl
  · rfl

theorem checkThreshold_flink (c : Fin n) (checking : Checking n E S P V) (threshold : T) :
    (checkThreshold profile c checking threshold).engine.flink = checking.engine.flink := by
  unfold checkThreshold
  dsimp only
  split
  · split
    · rfl
    · exact freeValuearray_flink checking.engine c
  · rfl

end

omit [DecidableEq P] in
theorem countThreshold_flink (counted : (countThreshold profile env c engine).2 = true) :
    (countThreshold profile env c engine).1.flink = engine.flink := by
  unfold countThreshold at counted ⊢
  dsimp only at counted ⊢
  generalize (if 0 < (engine.cause c).thresholdCounter then _ else _ : Int) = counter at counted ⊢
  split
  · rfl
  · split
    · rfl
    · split
      · next first second third =>
        rw [if_neg first, if_neg second, if_pos third] at counted
        simp at counted
      · rfl

omit [DecidableEq P] in
/-- Behind a passed judgement each link leads to a cause that the old links reach. -/
theorem judged_behind (judgement : (judged profile env c engine).2 = true) {a b : Fin n}
    (link : (judged profile env c engine).1.flink a = some b) : engine.flink.Behind a b := by
  have checked : ((profile.cause c).thresholds.foldl (checkThreshold profile c)
      ⟨engine.record (.evaluated c (engine.view (engine.cause c).value)), true⟩).engine.flink =
        engine.flink :=
    foldl_invariant_of_keeps
      (fun checking : Checking n E S P V => checking.engine.flink = engine.flink)
      (fun checking threshold same => (checkThreshold_flink c checking threshold).trans same) _ rfl
  have kept (same : (judged profile env c engine).1.flink = engine.flink) :
      engine.flink.Behind a b := by
    rw [same] at link
    exact Relation.TransGen.single link
  unfold judged checkThresholds at judgement link kept
  dsimp only at judgement link kept
  split at judgement
  · simp at judgement
  · next unbiased =>
    rw [if_neg unbiased] at link kept
    split at judgement
    · next counting =>
      rw [if_pos counting] at link kept
      split at judgement
      · next runsOut =>
        rw [if_pos runsOut] at link
        unfold uninitCause at link
        rw [freeValuearray_flink] at link
        exact Linked.rem_behind link
      · simp at judgement
    · next notCounting =>
      rw [if_neg notCounting] at link kept
      split at judgement
      · simp at judgement
      · next some =>
        rw [if_neg some] at link kept
        split at judgement
        · split at judgement
          · simp at judgement
          · simp at judgement
        · next within =>
          rw [if_neg within] at kept
          apply kept
          rw [countThreshold_flink judgement]
          exact checked

theorem afterActions_outcome (succeeds : env.Succeeds) {e : E} (sound : Sound profile engine) :
    (moves (afterActions profile env e engine).log = moves engine.log ∧
      ∀ s, isActive s (afterActions profile env e engine).log = isActive s engine.log) ∨
    (stateChanging profile e engine = true ∧ ∃ place ∈ target profile e engine,
      moves (afterActions profile env e engine).log ≤ moves engine.log + 1 ∧
      ∀ a, ¬ Enters profile engine place (profile.stateOfCause a) →
        (afterActions profile env e engine).flink a = engine.flink a) := by
  unfold afterActions
  split
  · next changing =>
    dsimp only
    cases found : (profile.findPurpose (gotoPurpose profile e engine)).bind
        (fun p => profile.findState p (profile.gotoStId e)) with
    | none =>
      left
      rw [initProfile_of_missing env found]
      rw [if_pos ⟨rfl, rfl⟩]
      exact ⟨rfl, fun _ => rfl⟩
    | some t =>
      right
      obtain ⟨p, foundPurpose, foundState⟩ := Option.bind_eq_some_iff.mp found
      have passes := initProfile_passes succeeds foundPurpose foundState engine
      refine ⟨changing, (p, t), ?_, ?_, ?_⟩
      · simp [target, foundPurpose, foundState]
      · split
        · rw [passes.moves]
          omega
        · exact Nat.succ_le_succ (Nat.le_of_eq passes.moves)
      · intro a notEntered
        split
        all_goals exact passes.flink sound.running a notEntered
  · left
    rw [(initEvent_calm (reinitCause_calm env) e engine).log]
    exact ⟨rfl, fun _ => rfl⟩

/-- An evaluation moves at most once, into the target of an event that fires. -/
theorem handleCauseEvent_outcome (succeeds : env.Succeeds) (sound : Sound profile engine)
    (isIn : isActive (profile.stateOfCause c) engine.log = true) :
    (moves (handleCauseEvent profile env c engine).log = moves engine.log ∧
      ∀ s, isActive s (handleCauseEvent profile env c engine).log = isActive s engine.log) ∨
    (fires profile env c engine = true ∧
      stateChanging profile (profile.eventOf c) engine = true ∧
      ∃ place ∈ target profile (profile.eventOf c) engine,
        moves (handleCauseEvent profile env c engine).log ≤ moves engine.log + 1 ∧
        ∀ a b, ¬ Enters profile engine place (profile.stateOfCause a) →
          (handleCauseEvent profile env c engine).flink a = some b → engine.flink.Behind a b) := by
  have frame := marked_frame profile env c engine
  have freed (engine : Engine n E S P V) : (engine.freeValuearray c).log = engine.log :=
    (freeValuearray_calm engine c).log
  rcases handleCauseEvent_cases _ env c engine with
    ⟨_, _, result⟩ | ⟨_, _, result⟩ | ⟨judgement, fired, _, result⟩
  · left
    have log : (handleCauseEvent profile env c engine).log =
        .evaluated c (engine.view (engine.cause c).value) :: engine.log := by
      rw [result, freed]
      exact (judged_calm _ env c engine).log
    rw [log]
    exact ⟨rfl, fun _ => rfl⟩
  · left
    rw [result, freed, frame.1]
    exact ⟨rfl, fun _ => rfl⟩
  · have stillIn : isActive (profile.stateOfCause c) (marked profile env c engine).log = true := by
      rw [frame.1]
      exact isIn
    have before := marked_sound sound env isIn
    have recorded : Sound profile
        ((marked profile env c engine).record (.fired (profile.eventOf c))) :=
      before.record (fun _ => rfl) ⟨stillIn, before.quiet⟩
    have log : ((marked profile env c engine).record (.fired (profile.eventOf c))).log =
        .fired (profile.eventOf c) :: .triggered c ::
          .evaluated c (engine.view (engine.cause c).value) :: engine.log :=
      congrArg (List.cons _) frame.1
    rw [result, freed, freeValuearray_flink]
    rcases afterActions_outcome succeeds recorded with ⟨sameMoves, sameStates⟩ | transition
    · left
      rw [log] at sameMoves sameStates
      exact ⟨sameMoves, sameStates⟩
    · right
      obtain ⟨changing, place, isTarget, atMost, links⟩ := transition
      refine ⟨fired, ?_, place, ?_, ?_, ?_⟩
      · rw [← changing]
        exact stateChanging_congr _ frame.2.1.symm frame.2.2.1.symm
      · unfold target at isTarget ⊢
        rwa [gotoPurpose_congr _ frame.2.1.symm]
      · rw [log] at atMost
        exact atMost
      · intro a b notEntered link
        have same := links a (by
          unfold Enters at notEntered ⊢
          rwa [show ((marked profile env c engine).record
            (.fired (profile.eventOf c))).currentPurpose
            = engine.currentPurpose from frame.2.1])
        rw [same] at link
        exact judged_behind judgement link

theorem handleCauseEvent_state (succeeds : env.Succeeds) (c : Fin n) (engine : Engine n E S P V) :
    (handleCauseEvent profile env c engine).state = engine.state := by
  have frame := marked_frame profile env c engine
  have freed (engine : Engine n E S P V) : (engine.freeValuearray c).state = engine.state :=
    (freeValuearray_calm engine c).state
  have acted (e : E) (engine : Engine n E S P V) :
      (afterActions profile env e engine).state = engine.state := by
    unfold afterActions
    split
    · have after : (initProfile profile env (gotoPurpose profile e engine)
          (profile.gotoStId e) engine).1.state = engine.state := by
        cases found : (profile.findPurpose (gotoPurpose profile e engine)).bind
            (fun p => profile.findState p (profile.gotoStId e)) with
        | none => rw [initProfile_of_missing env found]
        | some t =>
          obtain ⟨p, foundPurpose, foundState⟩ := Option.bind_eq_some_iff.mp found
          exact initProfile_state succeeds foundPurpose foundState engine
      dsimp only
      split
      · exact after
      · exact after
    · exact (initEvent_calm (reinitCause_calm env) e engine).state
  rcases handleCauseEvent_cases _ env c engine with
    ⟨_, _, result⟩ | ⟨_, _, result⟩ | ⟨_, _, _, result⟩
  · rw [result, freed]
    exact (judged_calm _ env c engine).state
  · rw [result, freed]
    exact frame.2.2.2.2
  · rw [result, freed, acted]
    exact frame.2.2.2.2

omit [DecidableEq E] [DecidableEq P] in
theorem Sound.not_enters (sound : Sound profile engine) {s : S}
    (isIn : isActive s engine.log = true) {place : P × S} (other : place.2 ≠ s) :
    ¬ Enters profile engine place s := by
  rintro (same | ⟨changes, isGlobal⟩)
  · exact other same.symm
  · have ofPlace := globals_purpose isGlobal
    rcases sound.active s isIn with isCurrent | isOld
    · apply changes
      rw [sound.purpose s isCurrent, ofPlace]
    · obtain ⟨p, isPurpose, ofOld⟩ := sound.globals s isOld
      apply changes
      rw [isPurpose, ← ofPlace, globals_purpose ofOld]

omit [DecidableEq E] [DecidableEq S] [DecidableEq P] in
/-- New links inside of a state reach no more than the old links of that state. -/
theorem behind_of_links {links newLinks : Links (Fin n)} {s : S}
    (within : ∀ a b, newLinks a = some b → profile.stateOfCause a = profile.stateOfCause b)
    (old : ∀ a b, profile.stateOfCause a = s → newLinks a = some b → links.Behind a b)
    {a d : Fin n} (inState : profile.stateOfCause a = s) (isBehind : newLinks.Behind a d) :
    links.Behind a d := by
  have both : links.Behind a d ∧ profile.stateOfCause d = s := by
    induction isBehind with
    | single link => exact ⟨old _ _ inState link, (within _ _ link).symm.trans inState⟩
    | tail _ link ih =>
      refine ⟨ih.1.trans (old _ _ ih.2 link), ?_⟩
      exact (within _ _ link).symm.trans ih.2
  exact both.1

end Engine

namespace Machine

open Engine

variable [DecidableEq P] (profile : Profile n E S P T V)
  {machine : Machine n E S P V} {engine : Engine n E S P V} {env : Env n}

/-- The condition on a step: what it starts does start, and where an evaluation of a
walk makes its event go to another state that exists, that is not the state of the
event, and no cause with the sense id of the sample is behind the evaluated one. -/
def KeepsQuiet (machine : Machine n E S P V) (action : Action n V × Env n) : Prop :=
  action.2.Succeeds ∧ ∀ walk ∈ machine.walk, ∀ evaluation ∈ machine.evaluates profile action.1,
    fires profile action.2 evaluation.1 evaluation.2 = true →
      stateChanging profile (profile.eventOf evaluation.1) evaluation.2 = true →
        ∀ place ∈ target profile (profile.eventOf evaluation.1) evaluation.2,
          place.2 ≠ profile.stateOfCause evaluation.1 ∧
            ∀ d, machine.engine.flink.Behind evaluation.1 d →
              (profile.cause d).sId ≠ (profile.cause walk.source).sId

/-- The walk meets no cause with the sense id of the sample any more. -/
def Spent (machine : Machine n E S P V) : Prop :=
  ∀ walk ∈ machine.walk, ∀ c ∈ walk.iterator,
    (profile.cause c).sId ≠ (profile.cause walk.source).sId ∧
      ∀ d, machine.engine.flink.Behind c d →
        (profile.cause d).sId ≠ (profile.cause walk.source).sId

def Ahead (machine : Machine n E S P V) : Prop :=
  ∀ walk ∈ machine.walk, ∀ c ∈ walk.iterator,
    isActive (profile.stateOfCause c) machine.engine.log = true

structure Orderly (machine : Machine n E S P V) : Prop where
  sound : Sound profile machine.engine
  idle : machine.engine.state ≠ .running → ∀ s, isActive s machine.engine.log = false
  walk : Spent profile machine ∨ Ahead profile machine

/-- At most one transition more than `before`, and then the walk is spent. -/
def Counted (before : Nat) (machine : Machine n E S P V) : Prop :=
  moves machine.engine.log ≤ before ∨
    (moves machine.engine.log ≤ before + 1 ∧ Spent profile machine)

variable {profile}

omit [DecidableEq E] [DecidableEq P] in
theorem copyValue_sound (sound : Sound profile engine) (source c : Fin n) :
    Sound profile (copyValue source c engine) :=
  sound.of_calm (copyValue_calm source c engine)
    (setCause_placed sound.running (sound.running.runs c))

theorem evaluation_orderly {source c : Fin n}
    (orderly : Orderly profile ⟨engine, some ⟨source, some c⟩⟩)
    (same : (profile.cause c).sId = (profile.cause source).sId)
    (keeps : KeepsQuiet profile ⟨engine, some ⟨source, some c⟩⟩ (.next, env)) :
    let after := (copyValue source c engine).handleCauseEvent profile env c
    Orderly profile ⟨after, some ⟨source, after.flink c⟩⟩ ∧
      ∀ before, Counted profile before ⟨engine, some ⟨source, some c⟩⟩ →
        Counted profile before ⟨after, some ⟨source, after.flink c⟩⟩ := by
  have notSpent : ¬ Spent profile ⟨engine, some ⟨source, some c⟩⟩ := by
    intro spent
    exact (spent _ rfl c rfl).1 same
  have isIn : isActive (profile.stateOfCause c) engine.log = true := by
    rcases orderly.walk with spent | ahead
    · exact absurd spent notSpent
    · exact ahead _ rfl c rfl
  have copied : Sound profile (copyValue source c engine) := copyValue_sound orderly.sound source c
  have sound := handleCauseEvent_sound keeps.1 copied isIn
  have idle : engine.state = .running := by
    by_contra notRunning
    rw [orderly.idle notRunning] at isIn
    simp at isIn
  have stillRunning : ((copyValue source c engine).handleCauseEvent profile env c).state =
      .running :=
    (handleCauseEvent_state keeps.1 c _).trans idle
  rcases handleCauseEvent_outcome keeps.1 copied isIn with
    ⟨sameMoves, sameStates⟩ | ⟨fired, changing, place, isTarget, atMost, links⟩
  · refine ⟨⟨sound, fun notRunning => absurd stillRunning notRunning, Or.inr ?_⟩, ?_⟩
    · intro walk isWalk x isNext
      obtain rfl := Option.some.inj isWalk
      rw [← sound.running.link c x isNext, sameStates]
      exact isIn
    · intro before counted
      left
      rw [sameMoves]
      rcases counted with few | ⟨_, spent⟩
      · exact few
      · exact absurd spent notSpent
  · have here := keeps.2 _ rfl (c, copyValue source c engine) (by simp [evaluates, same]) fired
      changing place isTarget
    have nothing (d : Fin n)
        (isBehind : ((copyValue source c engine).handleCauseEvent profile env c).flink.Behind c d) :
        (profile.cause d).sId ≠ (profile.cause source).sId := by
      apply here.2 d
      apply behind_of_links sound.running.link _ rfl isBehind
      intro a b inState link
      apply links a b _ link
      rw [inState]
      exact copied.not_enters isIn here.1
    have spent : Spent profile ⟨(copyValue source c engine).handleCauseEvent profile env c,
        some ⟨source, ((copyValue source c engine).handleCauseEvent profile env c).flink c⟩⟩ := by
      intro walk isWalk x isNext
      obtain rfl := Option.some.inj isWalk
      have isLink : Links.Behind
          ((copyValue source c engine).handleCauseEvent profile env c).flink c x :=
        Relation.TransGen.single isNext
      exact ⟨nothing x isLink, fun d isBehind => nothing d (isLink.trans isBehind)⟩
    refine ⟨⟨sound, fun notRunning => absurd stillRunning notRunning, Or.inl spent⟩, ?_⟩
    intro before counted
    right
    refine ⟨?_, spent⟩
    rcases counted with few | ⟨_, was⟩
    · exact Nat.le_trans atMost (Nat.succ_le_succ few)
    · exact absurd was notSpent

theorem nextTurn_orderly (orderly : Orderly profile machine) {walk : Walk n}
    (isWalk : machine.walk = some walk) (keeps : KeepsQuiet profile machine (.next, env)) :
    Orderly profile (machine.nextTurn profile env walk) ∧
      ∀ before, Counted profile before machine →
        Counted profile before (machine.nextTurn profile env walk) := by
  obtain ⟨engine, current⟩ := machine
  obtain ⟨source, iterator⟩ := walk
  subst isWalk
  cases iterator with
  | none =>
    have spent : Spent profile ⟨engine, none⟩ := by
      intro walk impossible
      simp at impossible
    refine ⟨⟨orderly.sound, orderly.idle, Or.inl spent⟩, ?_⟩
    intro before counted
    rcases counted with few | ⟨few, _⟩
    · exact Or.inl few
    · exact Or.inr ⟨few, spent⟩
  | some c =>
    by_cases same : (profile.cause c).sId = (profile.cause source).sId
    · simpa [nextTurn, same] using evaluation_orderly orderly same keeps
    · have moved (spent : Spent profile ⟨engine, some ⟨source, some c⟩⟩) :
          Spent profile ⟨engine, some ⟨source, engine.flink c⟩⟩ := by
        intro walk isWalk x isNext
        obtain rfl := Option.some.inj isWalk
        have isLink : Links.Behind engine.flink c x := Relation.TransGen.single isNext
        have nothing := (spent _ rfl c rfl).2
        exact ⟨nothing x isLink, fun d isBehind => nothing d (isLink.trans isBehind)⟩
      have after : Orderly profile ⟨engine, some ⟨source, engine.flink c⟩⟩ := by
        refine ⟨orderly.sound, orderly.idle, orderly.walk.imp moved ?_⟩
        intro ahead walk isWalk x isNext
        obtain rfl := Option.some.inj isWalk
        rw [← orderly.sound.running.link c x isNext]
        exact ahead _ rfl c rfl
      have counts (before : Nat) (counted : Counted profile before
          ⟨engine, some ⟨source, some c⟩⟩) :
          Counted profile before ⟨engine, some ⟨source, engine.flink c⟩⟩ := by
        rcases counted with few | ⟨few, spent⟩
        · exact Or.inl few
        · exact Or.inr ⟨few, moved spent⟩
      simpa [nextTurn, same] using And.intro after counts

section

omit [DecidableEq E] [DecidableEq P]

theorem orderly_of_sound (sound : Sound profile engine)
    (idle : engine.state ≠ .running → ∀ s, isActive s engine.log = false) :
    Orderly profile ⟨engine, none⟩ := by
  refine ⟨sound, idle, Or.inl ?_⟩
  intro walk impossible
  simp at impossible

theorem deliver_sound (sound : Sound profile engine) (c : Fin n) (sample : Sample V) :
    Sound profile (engine.deliver c sample) := by
  apply sound.of_calm (deliver_calm c engine sample)
  cases sample with
  | plain valuetype value => exact setCause_placed sound.running (sound.running.runs c)
  | array values =>
    have placed : Placed profile (fun c => isActive (profile.stateOfCause c) engine.log = true)
        (engine.setCause c
          { engine.cause c with
            value := ⟨.array, .items values.length (some engine.nextBlock)⟩ }) :=
      setCause_placed sound.running (sound.running.runs c)
    exact ⟨placed.link, placed.head, placed.tail, placed.runs⟩

end

theorem profileMain_orderly (succeeds : env.Succeeds) (orderly : Orderly profile ⟨engine, none⟩)
    (stopped : engine.state = .stopped) :
    Orderly profile ⟨engine.profileMain profile env, none⟩ := by
  have idle := orderly.idle (by simp [stopped])
  have begun : Sound profile
      { engine with currentPurpose := none, currentState := none, globalStates := [] } := by
    refine ⟨?_, orderly.sound.quiet, ?_, by simp, by simp⟩
    · exact ⟨orderly.sound.running.link, orderly.sound.running.head, orderly.sound.running.tail,
        orderly.sound.running.runs⟩
    · intro s isIn
      rw [idle s] at isIn
      simp at isIn
  unfold profileMain
  cases found : (profile.findPurpose (-1)).bind (fun p => profile.findState p (-1)) with
  | none =>
    rw [initProfile_of_missing env found, if_neg (by simp)]
    exact orderly_of_sound begun (fun _ => idle)
  | some t =>
    obtain ⟨p, foundPurpose, foundState⟩ := Option.bind_eq_some_iff.mp found
    have after := initProfile_sound succeeds foundPurpose foundState begun
    have ok : (initProfile profile env (-1) (-1)
        { engine with currentPurpose := none, currentState := none, globalStates := [] }).2 =
          true := by
      rw [initProfile_eq succeeds foundPurpose foundState]
    rw [if_pos ok]
    apply orderly_of_sound
    · exact ⟨⟨after.running.link, after.running.head, after.running.tail, after.running.runs⟩,
        after.quiet, after.active, after.globals, after.purpose⟩
    · intro notRunning
      simp at notRunning

variable (free : Bool) {action : Action n V × Env n}

section

omit [DecidableEq P]

theorem profileStop_inactive (sound : Sound profile engine) (s : S) :
    isActive s (engine.profileStop profile free).log = false := by
  by_contra isIn
  have log : (engine.profileStop profile free).log =
      (leaveCurrent profile (uninitGlobalStates profile engine)).log := rfl
  rw [log, Bool.not_eq_false] at isIn
  rcases (leaveCurrent_passes _).active s isIn with wasIn | impossible
  · have was := uninitGlobalStates_active (fun s => sound.isGlobal) wasIn
    rcases sound.active s was.1 with isCurrent | isGlobal
    · have stillCurrent : (uninitGlobalStates profile engine).currentState = some s :=
        (uninitGlobalStates_frame profile engine).2.1.trans isCurrent
      rw [leaveCurrent_inactive stillCurrent] at isIn
      simp at isIn
    · exact was.2 isGlobal
  · exact impossible

theorem profileStop_orderly (orderly : Orderly profile ⟨engine, none⟩) :
    Orderly profile ⟨engine.profileStop profile free, none⟩ := by
  have inactive := profileStop_inactive free orderly.sound
  have passes := (uninitGlobalStates_passes engine).trans
    (leaveCurrent_passes (uninitGlobalStates profile engine))
  have left := uninitGlobalStates_frame profile engine
  have frame := leaveCurrent_frame profile (uninitGlobalStates profile engine)
  have running := passes.running orderly.sound.running
  apply orderly_of_sound _ (fun _ => inactive)
  refine ⟨⟨running.link, running.head, running.tail, running.runs⟩,
    passes.quiet.mpr orderly.sound.quiet, ?_, ?_, ?_⟩
  · intro s isIn
    rw [inactive s] at isIn
    simp at isIn
  · intro s isIn
    have none : s ∈ (leaveCurrent profile (uninitGlobalStates profile engine)).globalStates := isIn
    rw [frame.2.1] at none
    simp [uninitGlobalStates] at none
  · intro s isCurrent
    have same : (engine.profileStop profile free).currentState = engine.currentState :=
      frame.2.2.2.trans left.2.1
    have samePurpose : (engine.profileStop profile free).currentPurpose = engine.currentPurpose :=
      frame.1.trans left.1
    rw [samePurpose]
    exact orderly.sound.purpose s (same.symm.trans isCurrent)

/-! ## Runs -/

theorem profileContinue_orderly (succeeds : env.Succeeds) (orderly : Orderly profile ⟨engine, none⟩)
    (paused : engine.state = .paused) :
    Orderly profile ⟨engine.profileContinue profile env, none⟩ := by
  have idle := orderly.idle (by simp [paused])
  unfold profileContinue
  split
  · next p s isPurpose isCurrent =>
    have added : Added engine (initGlobalStates profile env p engine).1
        (fun s => s ∈ profile.globals p) :=
      initGlobalStates_added succeeds p engine
    have calm := enterState_calm profile env s
      (initGlobalStates profile env p engine).1
    have passes := (initGlobalStates_passes succeeds p engine).trans
      (enterState_passes env s (initGlobalStates profile env p engine).1)
    have running := passes.running orderly.sound.running
    rw [if_pos (initGlobalStates_ok succeeds p engine), if_pos (enterState_ok _ succeeds s _)]
    apply orderly_of_sound
    · refine ⟨⟨running.link, running.head, running.tail, running.runs⟩,
        passes.quiet.mpr orderly.sound.quiet, ?_, ?_, ?_⟩
      · intro t isIn
        rcases passes.active t isIn with was | isGlobal | same
        · rw [idle t] at was
          simp at was
        · right
          change t ∈ (enterState profile env s _).1.globalStates
          rw [calm.globalStates]
          exact initGlobalStates_all succeeds isGlobal engine
        · left
          rw [same]
          exact calm.currentState.trans (added.currentState.trans isCurrent)
      · intro t isIn
        refine ⟨p, calm.currentPurpose.trans (added.currentPurpose.trans isPurpose), ?_⟩
        change t ∈ (enterState profile env s _).1.globalStates at isIn
        rw [calm.globalStates] at isIn
        rcases added.new t isIn with isOld | isGlobal
        · obtain ⟨q, same, isGlobal⟩ := orderly.sound.globals t isOld
          rw [isPurpose] at same
          rwa [Option.some.inj same]
        · exact isGlobal
      · intro t isT
        have stillCurrent : engine.currentState = some t :=
          (calm.currentState.trans added.currentState).symm.trans isT
        rw [show (enterState profile env s
            (initGlobalStates profile env p engine).1).1.currentPurpose = engine.currentPurpose
          from calm.currentPurpose.trans added.currentPurpose]
        exact orderly.sound.purpose t stillCurrent
    · intro notRunning
      simp at notRunning
  · exact orderly

end

theorem step_orderly (orderly : Orderly profile machine)
    (keeps : KeepsQuiet profile machine action) :
    Orderly profile (machine.step profile action) := by
  obtain ⟨engine, walk⟩ := machine
  obtain ⟨what, env⟩ := action
  cases walk with
  | some walk =>
    cases what with
    | next => exact (nextTurn_orderly orderly rfl keeps).1
    | main => exact orderly
    | sample _ _ => exact orderly
    | direct _ _ => exact orderly
    | stop _ => exact orderly
    | «continue» => exact orderly
  | none =>
    cases what with
    | next => exact orderly
    | main =>
      by_cases stopped : engine.state = .stopped
      · simpa [step, stopped] using profileMain_orderly keeps.1 orderly stopped
      · simpa [step, stopped] using orderly
    | sample source sample =>
      by_cases possible : engine.state = .running ∧ (engine.cause source).initialised
      · have sound := deliver_sound orderly.sound source sample
        have after : Orderly profile ⟨engine.deliver source sample,
            some ⟨source, (engine.activeCauses (profile.stateOfCause source)).head⟩⟩ := by
          refine ⟨sound, ?_, Or.inr ?_⟩
          · intro notRunning
            rw [(deliver_calm source engine sample).state] at notRunning
            exact absurd possible.1 notRunning
          · intro walk isWalk c isHead
            obtain rfl := Option.some.inj isWalk
            rw [orderly.sound.running.head _ c isHead,
              (deliver_calm source engine sample).log]
            exact orderly.sound.running.runs source possible.2
        simpa [step, possible] using after
      · simpa [step, possible] using orderly
    | direct c sample =>
      by_cases possible : engine.state = .running ∧ (engine.cause c).initialised
      · have sound := deliver_sound orderly.sound c sample
        have isIn : isActive (profile.stateOfCause c) (engine.deliver c sample).log = true := by
          rw [(deliver_calm c engine sample).log]
          exact orderly.sound.running.runs c possible.2
        have stillRunning :
            ((engine.deliver c sample).handleCauseEvent profile env c).state = .running :=
          (handleCauseEvent_state keeps.1 c _).trans
            ((deliver_calm c engine sample).state.trans possible.1)
        have after : Orderly profile
            ⟨(engine.deliver c sample).handleCauseEvent profile env c, none⟩ :=
          orderly_of_sound (handleCauseEvent_sound keeps.1 sound isIn)
            (fun notRunning => absurd stillRunning notRunning)
        simpa [step, possible] using after
      · simpa [step, possible] using orderly
    | stop free =>
      by_cases running : engine.state = .running
      · simpa [step, running] using profileStop_orderly free orderly
      · simpa [step, running] using orderly
    | «continue» =>
      by_cases paused : engine.state = .paused
      · simpa [step, paused] using profileContinue_orderly keeps.1 orderly paused
      · simpa [step, paused] using orderly

omit [DecidableEq E] [DecidableEq P] in
theorem initial_orderly (zero : V) : Orderly profile (initial n E S P zero) := by
  apply orderly_of_sound
  · refine ⟨⟨?_, ?_, ?_, ?_⟩, trivial, ?_, ?_, ?_⟩
    all_goals simp [isActive]
  · intro _ s
    rfl

theorem turns_counted {before : Nat} (orderly : Orderly profile machine)
    (counted : Counted profile before machine) {turns : List (Action n V × Env n)}
    (areTurns : ∀ turn ∈ turns, turn.1 = .next)
    (guarded : Guarded (step profile) (KeepsQuiet profile) machine turns) :
    Counted profile before (run profile machine turns) := by
  induction turns generalizing machine with
  | nil => exact counted
  | cons turn rest ih =>
    have isTurn : turn.1 = .next := areTurns turn (by simp)
    have after := step_orderly orderly guarded.1
    apply ih after _ (fun other isIn => areTurns other (by simp [isIn])) guarded.2
    obtain ⟨what, env⟩ := turn
    subst isTurn
    obtain ⟨engine, walk⟩ := machine
    cases walk with
    | none => exact counted
    | some walk => exact (nextTurn_orderly orderly rfl guarded.1).2 before counted

theorem sample_log (machine : Machine n E S P V) (source : Fin n) (sample : Sample V)
    (env : Env n) :
    (machine.step profile (.sample source sample, env)).engine.log = machine.engine.log := by
  obtain ⟨engine, walk⟩ := machine
  cases walk with
  | some walk => rfl
  | none =>
    by_cases possible : engine.state = .running ∧ (engine.cause source).initialised
    · simpa [step, possible] using (deliver_calm source engine sample).log
    · simp [step, possible]

/-- In a run whose steps all meet the condition, no cause and no event of a state that is
not active acts, senses run only for the current state and the global states of the
current purpose, and every call of `handle_cause` makes at most one transition. -/
theorem left_states_stay_quiet (profile : Profile n E S P T V) (zero : V)
    (actions : List (Action n V × Env n))
    (guarded : Guarded (step profile) (KeepsQuiet profile) (initial n E S P zero) actions) :
    let engine := (run profile (initial n E S P zero) actions).engine
    StaysQuiet profile engine.log ∧
      (∀ c, (engine.cause c).initialised = true →
        engine.currentState = some (profile.stateOfCause c) ∨
          ∃ p, engine.currentPurpose = some p ∧ profile.stateOfCause c ∈ profile.globals p) ∧
      ∀ first source sample env turns,
        actions = first ++ (.sample source sample, env) :: turns →
          (∀ turn ∈ turns, turn.1 = .next) →
            moves engine.log ≤
              moves (run profile (initial n E S P zero) first).engine.log + 1 := by
  have reached {inputs : List (Action n V × Env n)}
      (guarded : Guarded (step profile) (KeepsQuiet profile) (initial n E S P zero) inputs) :
      Orderly profile (run profile (initial n E S P zero) inputs) :=
    foldl_invariant (Orderly profile) (fun _ _ orderly keeps => step_orderly orderly keeps)
      (initial_orderly zero) guarded
  have orderly := reached guarded
  refine ⟨orderly.sound.quiet, ?_, ?_⟩
  · intro c started
    rcases orderly.sound.active _ (orderly.sound.running.runs c started) with isCurrent | isGlobal
    · exact Or.inl isCurrent
    · exact Or.inr (orderly.sound.globals _ isGlobal)
  · intro first source sample env turns split areTurns
    subst split
    have parts := guarded.append
    have start := reached parts.1
    have walking := step_orderly start parts.2.1
    have counted : Counted profile
        (moves (run profile (initial n E S P zero) first).engine.log)
        ((run profile (initial n E S P zero) first).step profile (.sample source sample, env)) := by
      left
      exact Nat.le_of_eq (congrArg moves (sample_log _ source sample env))
    have after := turns_counted walking counted areTurns parts.2.2
    have whole : run profile (initial n E S P zero)
          (first ++ (.sample source sample, env) :: turns) =
        run profile ((run profile (initial n E S P zero) first).step profile
          (.sample source sample, env)) turns := by
      unfold run
      rw [List.foldl_append, List.foldl_cons]
    rw [whole]
    rcases after with few | ⟨few, _⟩
    · exact Nat.le_succ_of_le few
    · exact few

/-- The states of a purpose whose first state has two events. -/
inductive Stage where
  | first
  | second
  | third
deriving DecidableEq

attribute [local instance] neZero_two

/-- A state with two events of one cause each. The first event goes to the second state
and the second one to the third state. -/
def twoEvents (secondSense : Nat) : Profile 2 (Fin 2) Stage Unit Unit Nat where
  cause := fun c =>
    { sId := if c = 0 then 0 else secondSense
      orderId := 0
      interval := -1
      count := 0
      thresholdCount := 0
      negate := false
      relative := false
      thresholds := [()]
      minType := .uint32
      holds := false }
  eventOf := fun c => c
  stateOf := fun _ => .first
  purposeOf := fun _ => ()
  causes := fun e => [e]
  events := fun s => if s = .first then [0, 1] else []
  states := fun _ => [.first, .second, .third]
  purposes := [()]
  gotoStId := fun e => if e = 0 then 2 else 3
  gotoPuId := fun _ => -1
  stId := fun s =>
    match s with
    | .first => 1
    | .second => 2
    | .third => 3
  isGlobal := fun _ => false
  puId := fun _ => 0
  initStId := fun _ => 1
  initPuId := 0
  check := fun _ _ _ => true
  isGeofence := fun _ => false
  geofence := fun _ _ => none
  ofBool := fun inside => if inside then 1 else 0
  mem_causes := by
    intro c e
    simp
  mem_events := by
    intro e s
    revert e
    cases s <;> decide
  mem_states := by
    intro s p
    cases s <;> simp

/-- With one sense for both events, the second event fires in the state that the first
one has left, and makes a second transition. -/
theorem left_state_acts :
    let actions := (.main, allStart) :: handled 0 (.plain .uint32 7)
    let engine := (run (twoEvents 0) (initial 2 (Fin 2) Stage Unit 0) actions).engine
    (∀ action ∈ actions, action.2.Succeeds) ∧ ¬ StaysQuiet (twoEvents 0) engine.log ∧
      moves engine.log = 2 := by
  decide

omit [DecidableEq P] in
theorem keepsQuiet_of_links
    (links : action.2.Succeeds ∧
      ∀ walk ∈ machine.walk, ∀ evaluation ∈ machine.evaluates profile action.1,
        fires profile action.2 evaluation.1 evaluation.2 = true →
          (∀ place ∈ target profile (profile.eventOf evaluation.1) evaluation.2,
            place.2 ≠ profile.stateOfCause evaluation.1) ∧
          ∀ a, ∀ d ∈ machine.engine.flink a,
            (profile.cause d).sId ≠ (profile.cause walk.source).sId) :
    KeepsQuiet profile machine action := by
  refine ⟨links.1, ?_⟩
  intro walk isWalk evaluation isEvaluation fired _ place isTarget
  have here := links.2 walk isWalk evaluation isEvaluation fired
  refine ⟨here.1 place isTarget, ?_⟩
  intro d isBehind
  obtain ⟨a, _, link⟩ := Relation.TransGen.tail'_iff.mp isBehind
  exact here.2 a d link

/-- With two senses, the first event leaves the state for good. -/
theorem left_state_stays_quiet :
    let actions := (.main, allStart) :: handled 0 (.plain .uint32 7)
    let engine := (run (twoEvents 1) (initial 2 (Fin 2) Stage Unit 0) actions).engine
    StaysQuiet (twoEvents 1) engine.log ∧
      (∀ c, (engine.cause c).initialised = true →
        engine.currentState = some ((twoEvents 1).stateOfCause c) ∨
          ∃ p, engine.currentPurpose = some p ∧
            (twoEvents 1).stateOfCause c ∈ (twoEvents 1).globals p) ∧
      ∀ first source sample env turns,
        actions = first ++ (.sample source sample, env) :: turns →
          (∀ turn ∈ turns, turn.1 = .next) →
            moves engine.log ≤
              moves (run (twoEvents 1) (initial 2 (Fin 2) Stage Unit 0) first).engine.log + 1 :=
  left_states_stay_quiet (twoEvents 1) 0 ((.main, allStart) :: handled 0 (.plain .uint32 7))
    (Guarded.mono (fun _ _ => keepsQuiet_of_links) (by decide))

end Machine

end Thingsee.Profiles
