import Thingsee.Profiles.CauseOrder

/-!
Owns events with ordered causes: the causes of an event that are triggered are those
that come before the expected one, and the event fires when its causes have triggered
one after the other.

A cause whose measurement count runs out triggers without being the expected one, and
the order is not counted on. `causes_trigger_in_order` holds where this happens only to
the last cause of the event to be triggered.
-/

namespace Thingsee.Profiles

open Support

variable {n : Nat} {E S P T V : Type}

namespace Engine

variable {profile : Profile n E S P T V} {e : E} {hits : Int} [DecidableEq E] [DecidableEq S]
  (env : Env n) {c : Fin n} {engine : Engine n E S P V}
  {body : Fin n → Engine n E S P V → Engine n E S P V × Bool}

omit [DecidableEq E] [DecidableEq S] in
theorem untilError_only (renews : Renews body) {items : List (Fin n)} (isIn : c ∈ items)
    (only : ∀ d ∈ items, d = c) (engine : Engine n E S P V) :
    ((untilError body items engine).1.cause c).triggered = false ∧
      ((untilError body items engine).1.cause c).measurementCounter ≠ 0 := by
  cases items with
  | nil => simp at isIn
  | cons first rest =>
    have same := only first List.mem_cons_self
    subst same
    have here : ((body first engine).1.cause first).triggered = false ∧
        ((body first engine).1.cause first).measurementCounter ≠ 0 :=
      ⟨renews.flag first engine, renews.left first engine⟩
    unfold untilError
    dsimp only
    split
    · apply untilError_invariant (fun after : Engine n E S P V =>
      (after.cause first).triggered = false ∧ (after.cause first).measurementCounter ≠ 0)
      · intro d isLater before _
        rw [only d (List.mem_cons_of_mem _ isLater)]
        exact ⟨renews.flag first before, renews.left first before⟩
      · exact here
    · exact here

omit [DecidableEq S] in
theorem initEvent_only (ordered : Ordered profile e) (renews : Renews body)
    (isCause : profile.eventOf c = e) (only : ∀ d, profile.eventOf d = e → d = c)
    (expected : engine.expectedOrderId e = 1) :
    Stands profile e 0 (initEvent profile body e engine).1 := by
  cases ok : (initEvent profile body e engine).2 with
  | true => exact initEvent_stands ordered renews ok
  | false =>
    have renewed := untilError_only renews ((profile.mem_causes c e).mpr isCause)
      (fun d isIn => only d ((profile.mem_causes d e).mp isIn)) engine
    have kept : (untilError body (profile.causes e) engine).1.expectedOrderId =
        engine.expectedOrderId :=
      untilError_invariant (fun after : Engine n E S P V =>
        after.expectedOrderId = engine.expectedOrderId)
        (fun d _ before kept => ((renews.own d before).2).trans kept) rfl
    have result : (initEvent profile body e engine).1 =
        (untilError body (profile.causes e) engine).1 := by
      unfold initEvent at ok ⊢
      dsimp only at ok ⊢
      split at ok
      · simp at ok
      · next failed => rw [if_neg failed]
    have bounds := ordered.bounds isCause
    rw [result]
    refine ⟨?_, ⟨Int.le_refl 0, by omega⟩, ?_, ?_, ?_⟩
    · rw [kept, expected]
      rfl
    · intro d isOther
      have same := only d isOther
      subst same
      rw [renewed.1]
      constructor
      · intro impossible
        simp at impossible
      · intro small
        omega
    · intro d isOther
      rw [only d isOther]
      exact renewed.2
    · intro d isOther isSet
      rw [only d isOther, renewed.1] at isSet
      simp at isSet

variable [DecidableEq P]

variable (profile) in
/-- The condition on an evaluation. It counts the last measurement of its cause only if all
other causes of the event are triggered, and then the transition of the event, if there is
one, succeeds and leaves or enters the state of the event, and otherwise the cause starts
again or is the only one. -/
def KeepsOrder (env : Env n) (c : Fin n) (engine : Engine n E S P V) : Prop :=
  engine.RunsOut c →
    (∀ d, profile.eventOf d = profile.eventOf c → d ≠ c → (engine.cause d).triggered = true) ∧
      if stateChanging profile (profile.eventOf c) engine = true then
        env.Succeeds ∧ LeavesOwn profile (profile.eventOf c) engine
      else
        env.starts c = true ∨ ∀ d, profile.eventOf d = profile.eventOf c → d = c

instance KeepsOrder.decidable (env : Env n) (c : Fin n) (engine : Engine n E S P V) :
    Decidable (KeepsOrder profile env c engine) := by
  unfold KeepsOrder
  infer_instance

omit [DecidableEq P] in
variable (profile) in
theorem judged_runsOut (runsOut : engine.RunsOut c) :
    (judged profile env c engine).2 = true ∧
      (judged profile env c engine).1.expectedOrderId = engine.expectedOrderId ∧
      ∀ d, d ≠ c → (judged profile env c engine).1.cause d = engine.cause d := by
  let entry : Entry n E S V := .evaluated c (engine.view (engine.cause c).value)
  have recorded : (engine.record entry).RunsOut c := runsOut
  have unbiased : ¬ ((engine.record entry).cause c).measureBias = true := by
    rw [recorded.1]
    simp
  have positive : 0 < ((engine.record entry).cause c).measurementCounter := by
    rw [recorded.2]
    decide
  have last : ((engine.record entry).cause c).measurementCounter - 1 = 0 := by
    rw [recorded.2]
    rfl
  have result : judged profile env c engine =
      ((uninitCause profile c ((engine.record entry).setCause c
        { (engine.record entry).cause c with
          measurementCounter := ((engine.record entry).cause c).measurementCounter - 1 })).1,
        true) := by
    unfold judged checkThresholds
    rw [if_neg unbiased, if_pos positive, if_pos last]
  rw [result]
  obtain ⟨others, orders⟩ := uninitCause_own profile c
    ((engine.record entry).setCause c
      { (engine.record entry).cause c with
        measurementCounter := ((engine.record entry).cause c).measurementCounter - 1 })
  refine ⟨rfl, orders, ?_⟩
  intro d other
  rw [others d other]
  simp [Engine.setCause, record, Function.update_of_ne other]

omit [DecidableEq P] in
theorem runsOut_fires (ordered : Ordered profile e) (env : Env n) (isCause : profile.eventOf c = e)
    (stands : Stands profile e hits engine) (runsOut : engine.RunsOut c)
    (others : ∀ d, profile.eventOf d = e → d ≠ c → (engine.cause d).triggered = true) :
    fires profile env c engine = true ∧ outcome profile c engine = .hit ∧
      (profile.cause c).orderId = hits + 1 ∧ (profile.cause c).orderId = total profile e := by
  obtain ⟨met, _, kept⟩ := judged_runsOut profile env runsOut
  have bounds := ordered.bounds isCause
  have range := stands.range
  have unset : ¬ (profile.cause c).orderId ≤ hits := by
    intro small
    have old := stands.unbiased c isCause ((stands.order c isCause).mpr small)
    have measured := runsOut.2
    omega
  have below (d : Fin n) (isOther : profile.eventOf d = e) (other : d ≠ c) :
      (profile.cause d).orderId ≤ hits := (stands.order d isOther).mp (others d isOther other)
  refine ⟨?_, ?_, ?_, ?_⟩
  · unfold fires
    dsimp only
    rw [show (checkThresholds profile env c _).2 = true from met, Bool.true_and]
    unfold allCausesTriggered
    rw [List.all_eq_true]
    intro d isIn
    have isOther : profile.eventOf d = e :=
      ((profile.mem_causes d _).mp isIn).trans isCause
    by_cases same : d = c
    · subst same
      simp [Engine.setCause]
    · simp only [Engine.setCause, Function.update_of_ne same]
      exact (congrArg CauseDyn.triggered (kept d same)).trans (others d isOther same)
  · unfold outcome
    dsimp only
    rw [runsOut.1, if_neg (by simp), runsOut.2]
    rfl
  · obtain ⟨d, isOther, isNext⟩ := (ordered.mem_iff (hits + 1)).mpr ⟨by omega, by omega⟩
    by_cases same : d = c
    · rw [← same, isNext]
    · have small := below d isOther same
      omega
  · obtain ⟨d, isOther, isLast⟩ := (ordered.mem_iff (total profile e)).mpr ⟨by omega, by omega⟩
    by_cases same : d = c
    · rw [← same, isLast]
    · have small := below d isOther same
      omega

theorem afterActions_moves (s : S) (changing : stateChanging profile e engine = true) :
    Kept profile s engine (afterActions profile env e engine) := by
  have kept := initProfile_kept profile env s (gotoPurpose profile e engine)
    (profile.gotoStId e) engine
  unfold afterActions
  rw [if_pos changing]
  dsimp only
  split
  · exact kept
  · refine ⟨kept.visits, ?_⟩
    intro same
    have spared := kept.spared same
    exact ⟨spared.causes, spared.orders⟩

omit [DecidableEq P] in
theorem initPurpose_visits {env : Env n} (succeeds : env.Succeeds) {p : P} {id : Int} {s t : S}
    (found : profile.findState p id = some t) (changes : engine.currentState ≠ some t)
    (isOne : engine.currentState = some s ∨ t = s) :
    visits s engine.log < visits s (initPurpose profile env p id engine).1.log := by
  rw [initPurpose_of_found env found, if_neg changes, if_pos (enterState_ok _ succeeds t _)]
  rcases isOne with isOld | isNew
  · have left : visits s engine.log < visits s (leaveCurrent profile engine).log := by
      unfold leaveCurrent
      rw [isOld]
      exact leaveState_visits s engine
    exact Nat.lt_of_lt_of_le left (enterState_kept _ env s t _).visits
  · subst isNew
    exact Nat.lt_of_le_of_lt (leaveCurrent_kept _ t engine).visits (enterState_visits _ env t _)

theorem initProfile_visits {env : Env n} (succeeds : env.Succeeds)
    (leaves : LeavesOwn profile e engine) :
    visits (profile.stateOf e) engine.log <
      visits (profile.stateOf e) (initProfile profile env (gotoPurpose profile e engine)
        (profile.gotoStId e) engine).1.log := by
  obtain ⟨⟨p, t⟩, isTarget, how⟩ := leaves
  obtain ⟨q, foundPurpose, rest⟩ := Option.bind_eq_some_iff.mp isTarget
  obtain ⟨u, foundState, same⟩ := Option.map_eq_some_iff.mp rest
  obtain ⟨rfl, rfl⟩ := Prod.mk.inj same
  have frame := initPurpose_frame succeeds foundState engine
  let moved := (initPurpose profile env q (profile.gotoStId e) engine).1
  have left := uninitGlobalStates_kept profile (profile.stateOf e) moved
  have added := initGlobalStates_kept profile env (profile.stateOf e) q
    (uninitGlobalStates profile moved)
  rw [initProfile_eq succeeds foundPurpose foundState]
  dsimp only
  rcases how with ⟨changes, isOne⟩ | ⟨changes, isOne⟩
  · have first := initPurpose_visits succeeds foundState changes isOne
    split
    · exact first
    · exact Nat.lt_of_lt_of_le first (Nat.le_trans left.visits added.visits)
  · have first := (initPurpose_kept profile env (profile.stateOf e) q
      (profile.gotoStId e) engine).visits
    rw [if_neg (by rwa [frame.1])]
    rcases isOne with isOld | isNew
    · rw [← frame.2.1] at isOld
      have strict : visits (profile.stateOf e) moved.log <
          visits (profile.stateOf e) (uninitGlobalStates profile moved).log :=
        foldl_leaveState_visits isOld moved
      exact Nat.lt_of_le_of_lt first (Nat.lt_of_lt_of_le strict added.visits)
    · have strict := initGlobalStates_visits succeeds isNew (uninitGlobalStates profile moved)
      exact Nat.lt_of_le_of_lt (Nat.le_trans first left.visits) strict

theorem afterActions_visits {env : Env n} (succeeds : env.Succeeds)
    (changing : stateChanging profile e engine = true) (leaves : LeavesOwn profile e engine) :
    visits (profile.stateOf e) engine.log <
      visits (profile.stateOf e) (afterActions profile env e engine).log := by
  have moved := initProfile_visits succeeds leaves
  unfold afterActions
  rw [if_pos changing]
  dsimp only
  split
  · exact moved
  · exact moved

omit [DecidableEq P] in
variable (profile) in
theorem marked_visits (c : Fin n) (s : S) (engine : Engine n E S P V) :
    visits s ((marked profile env c engine).record (.fired (profile.eventOf c))).log =
      visits s engine.log := by
  have entries : ((marked profile env c engine).record (.fired (profile.eventOf c))).log =
      .fired (profile.eventOf c) :: .triggered c ::
        .evaluated c (engine.view (engine.cause c).value) :: engine.log :=
    congrArg (List.cons _) (marked_frame _ env c engine).1
  rw [entries]
  rfl

variable (profile) in
theorem handleCauseEvent_visits (c : Fin n) (s : S) (engine : Engine n E S P V) :
    visits s engine.log ≤ visits s (handleCauseEvent profile env c engine).log := by
  have freed (before : Engine n E S P V) : (before.freeValuearray c).log = before.log :=
    (freeValuearray_calm before c).log
  rcases handleCauseEvent_cases profile env c engine with
    ⟨_, _, same⟩ | ⟨_, _, same⟩ | ⟨_, _, _, same⟩
  · have recorded : (judged profile env c engine).1.log =
        .evaluated c (engine.view (engine.cause c).value) :: engine.log :=
      (judged_calm _ env c engine).log
    rw [same, freed]
    apply Nat.le_of_eq
    rw [show (Engine.setCause _ c _).log = _ from recorded]
    rfl
  · rw [same, freed, (marked_frame _ env c engine).1]
    exact Nat.le_refl _
  · rw [same, freed, ← marked_visits profile env c s engine]
    let fired := (marked profile env c engine).record (.fired (profile.eventOf c))
    cases changing : stateChanging profile (profile.eventOf c) fired with
    | true => exact (afterActions_moves env s changing).visits
    | false =>
      have calm : Calm fired
          (initEvent profile (reinitCause profile env) (profile.eventOf c) fired).1 :=
        initEvent_calm (reinitCause_calm env) _ _
      have again : afterActions profile env (profile.eventOf c) fired =
          (initEvent profile (reinitCause profile env) (profile.eventOf c) fired).1 := by
        unfold afterActions
        rw [if_neg (by simp [changing])]
      exact Nat.le_of_eq (by rw [again, calm.log])

theorem handleCauseEvent_stands (ordered : Ordered profile e) (env : Env n)
    (isCause : profile.eventOf c = e) (stands : Stands profile e hits engine)
    (keeps : KeepsOrder profile env c engine)
    (unvisited : visits (profile.stateOf e) (handleCauseEvent profile env c engine).log =
      visits (profile.stateOf e) engine.log) :
    Stands profile e
      (if fires profile env c engine = true ∧ stateChanging profile e engine = false then 0
        else advance (profile.cause c).orderId hits (outcome profile c engine))
      (handleCauseEvent profile env c engine) := by
  have frame := marked_frame profile env c engine
  rcases handleCauseEvent_cases profile env c engine with
    ⟨unmet, noFire, same⟩ | ⟨isMet, noFire, same⟩ | ⟨isMet, doesFire, _, same⟩
  · have notOut : ¬ engine.RunsOut c := by
      intro runsOut
      have met := (judged_runsOut profile env runsOut).1
      exact absurd (unmet.symm.trans met) (by simp)
    rw [if_neg (by simp [noFire]), same]
    have after := (judged_stands ordered env isCause stands notOut).1
    unfold flagged at after
    rw [unmet] at after
    exact after.sameButValue (freeValuearray_same c _)
  · have notOut : ¬ engine.RunsOut c := by
      intro runsOut
      have others := (keeps runsOut).1
      rw [isCause] at others
      have fire := (runsOut_fires ordered env isCause stands runsOut others).1
      exact absurd (noFire.symm.trans fire) (by simp)
    rw [if_neg (by simp [noFire]), same]
    have after := (judged_stands ordered env isCause stands notOut).1
    unfold flagged at after
    rw [isMet] at after
    have marked : Stands profile e
        (advance (profile.cause c).orderId hits (outcome profile c engine))
        (marked profile env c engine) := after.congr rfl (fun _ _ => ⟨rfl, rfl, rfl, rfl⟩)
    exact marked.sameButValue (freeValuearray_same c _)
  · let fired := (marked profile env c engine).record (.fired (profile.eventOf c))
    rw [same, (freeValuearray_calm _ c).log,
      ← marked_visits profile env c _ engine] at unvisited
    rw [same]
    have changes : stateChanging profile (profile.eventOf c) fired =
        stateChanging profile (profile.eventOf c) engine :=
      stateChanging_congr _ frame.2.1 frame.2.2.1
    have advanced (notOut : ¬ engine.RunsOut c) : Stands profile e
        (advance (profile.cause c).orderId hits (outcome profile c engine)) fired := by
      have after := (judged_stands ordered env isCause stands notOut).1
      unfold flagged at after
      rw [isMet] at after
      exact after.congr rfl (fun _ _ => ⟨rfl, rfl, rfl, rfl⟩)
    cases changing : stateChanging profile (profile.eventOf c) engine with
    | true =>
      have kept := afterActions_moves env (profile.stateOf e) (changes.trans changing)
      have notOut : ¬ engine.RunsOut c := by
        intro runsOut
        have moves := (keeps runsOut).2
        rw [if_pos changing] at moves
        have leaves : LeavesOwn profile (profile.eventOf c) fired :=
          LeavesOwn.congr frame.2.1 frame.2.2.1 frame.2.2.2.1 moves.2
        have strict := afterActions_visits moves.1 (changes.trans changing) leaves
        rw [congrArg profile.stateOf isCause] at strict
        exact absurd unvisited (Nat.ne_of_gt strict)
      have spared := kept.spared unvisited
      rw [isCause] at changing
      rw [if_neg (by simp [changing])]
      have after : Stands profile e
          (advance (profile.cause c).orderId hits (outcome profile c engine))
          (afterActions profile env (profile.eventOf c) fired) := by
        apply (advanced notOut).congr (spared.orders e rfl)
        intro d isOther
        have inState : profile.stateOfCause d = profile.stateOf e :=
          congrArg profile.stateOf isOther
        rw [spared.causes d inState]
        exact ⟨rfl, rfl, rfl, rfl⟩
      exact after.sameButValue (freeValuearray_same c _)
    | false =>
      have again : afterActions profile env (profile.eventOf c) fired =
          (initEvent profile (reinitCause profile env) (profile.eventOf c) fired).1 := by
        unfold afterActions
        rw [if_neg (by simp [changes, changing])]
      rw [isCause] at changing again
      rw [if_pos ⟨doesFire, changing⟩]
      have after : Stands profile e 0 (afterActions profile env (profile.eventOf c) fired) := by
        rw [isCause, again]
        by_cases runsOut : engine.RunsOut c
        · obtain ⟨others, moves⟩ := keeps runsOut
          obtain ⟨_, orders, sameOthers⟩ := judged_runsOut profile env runsOut
          rw [isCause] at others moves
          rw [if_neg (by simp [changing])] at moves
          rcases moves with starts | only
          · apply reinitEvent_stands ordered
            intro d isOther
            by_cases same : d = c
            · exact Or.inr (same ▸ starts)
            · left
              have kept : fired.cause d = engine.cause d := by
                rw [← sameOthers d same]
                simp [fired, marked, Engine.setCause, record, Function.update_of_ne same]
              rw [kept]
              exact stands.left d isOther
          · apply initEvent_only ordered (reinitCause_renews env) isCause only
            have isFirst := runsOut_fires ordered env isCause stands runsOut others
            have bounds := ordered.bounds isCause
            obtain ⟨d, isOther, first⟩ := (ordered.mem_iff 1).mpr ⟨by omega, by omega⟩
            rw [only d isOther] at first
            have expected : fired.expectedOrderId e = engine.expectedOrderId e :=
              congrFun orders e
            rw [expected, stands.expected]
            omega
        · exact reinitEvent_stands ordered
            (fun d isOther => Or.inl ((advanced runsOut).left d isOther))
      exact after.sameButValue (freeValuearray_same c _)

end Engine

namespace Machine

open Engine

variable [DecidableEq E] [DecidableEq S] [DecidableEq P] (profile : Profile n E S P T V)

/-- An engine, with the samples of one event since the event has been initialised. -/
structure Observed (n : Nat) (E S P V : Type) where
  engine : Engine n E S P V
  history : List (Int × Outcome)

/-- A sample of a cause, and what can fail while it is evaluated. -/
abbrev Observation (n : Nat) (V : Type) :=
  Fin n × Sample V × Env n

/-- The engine in front of the evaluation of a sample. -/
def sampled (observed : Observed n E S P V) (observation : Observation n V) : Engine n E S P V :=
  observed.engine.deliver observation.1 observation.2.1

/-- The evaluation of a sample. An event that fires and does not move the engine is
initialised again. -/
def observe (observed : Observed n E S P V) (observation : Observation n V) :
    Observed n E S P V :=
  let before := sampled observed observation
  let c := observation.1
  { engine := before.handleCauseEvent profile observation.2.2 c
    history :=
      if fires profile observation.2.2 c before = true ∧
          stateChanging profile (profile.eventOf c) before = false then []
      else ((profile.cause c).orderId, outcome profile c before) :: observed.history }

/-- A sample of a cause of the event, with the condition on its evaluation. -/
def OrderKept (e : E) (observed : Observed n E S P V) (observation : Observation n V) : Prop :=
  profile.eventOf observation.1 = e ∧
    KeepsOrder profile observation.2.2 observation.1 (sampled observed observation)

instance OrderKept.decidable (e : E) (observed : Observed n E S P V)
    (observation : Observation n V) : Decidable (OrderKept profile e observed observation) :=
  inferInstanceAs (Decidable (_ ∧ _))

variable {profile} {e : E}

omit [DecidableEq E] [DecidableEq S] [DecidableEq P] in
theorem deliver_same (c : Fin n) (engine : Engine n E S P V) (sample : Sample V) :
    (engine.deliver c sample).log = engine.log ∧ SameButValue engine (engine.deliver c sample) := by
  cases sample with
  | plain valuetype value | array values => exact ⟨rfl, setValue_same engine c _⟩

/-- The event stands as the samples say, unless its state has been left or entered. -/
structure Standing (profile : Profile n E S P T V) (e : E) (start : Nat)
    (observed : Observed n E S P V) : Prop where
  since : start ≤ visits (profile.stateOf e) observed.engine.log
  stands : visits (profile.stateOf e) observed.engine.log = start →
    Stands profile e (progress observed.history) observed.engine

theorem observe_standing (ordered : Ordered profile e) {start : Nat}
    {observed : Observed n E S P V} {observation : Observation n V}
    (standing : Standing profile e start observed)
    (kept : OrderKept profile e observed observation) :
    Standing profile e start (observe profile observed observation) := by
  obtain ⟨c, sample, env⟩ := observation
  obtain ⟨isCause, keeps⟩ := kept
  dsimp only at isCause keeps
  let before := observed.engine.deliver c sample
  obtain ⟨log, same⟩ := deliver_same c observed.engine sample
  have grows := handleCauseEvent_visits profile env c (profile.stateOf e) before
  have sameLog : visits (profile.stateOf e) before.log =
      visits (profile.stateOf e) observed.engine.log := by rw [log]
  refine ⟨Nat.le_trans standing.since (sameLog ▸ grows), ?_⟩
  intro unvisited
  have unvisitedNow : visits (profile.stateOf e) (before.handleCauseEvent profile env c).log =
      start := unvisited
  have early : visits (profile.stateOf e) observed.engine.log = start :=
    Nat.le_antisymm (by omega) standing.since
  have stands : Stands profile e (progress observed.history) before :=
    (standing.stands early).sameButValue same
  have after := handleCauseEvent_stands ordered env isCause stands keeps (by omega)
  unfold observe sampled
  dsimp only
  rw [isCause]
  split
  · next again =>
    rw [if_pos again] at after
    exact after
  · next advances =>
    rw [if_neg advances] at after
    exact after

/-- What an engine is after an event has been initialised, or initialised again. -/
def Initialised (profile : Profile n E S P T V) (e : E) (start : Engine n E S P V) : Prop :=
  ∃ engine env, initEvent profile (initCause profile env) e engine = (start, true) ∨
    initEvent profile (reinitCause profile env) e engine = (start, true)

/-- In a sequence of samples that all meet the condition, as long as the state of the event
is not left or entered, the triggered causes are those in front of the expected one, and a
sample makes the event fire exactly if its cause is hit as the last one in order. -/
theorem causes_trigger_in_order (profile : Profile n E S P T V) {e : E}
    (ordered : Ordered profile e) {start : Engine n E S P V}
    (initialised : Initialised profile e start) (observations : List (Observation n V))
    (guarded : Guarded (observe profile) (OrderKept profile e) ⟨start, []⟩ observations)
    (stays : visits (profile.stateOf e)
        (observations.foldl (observe profile) ⟨start, []⟩).engine.log =
      visits (profile.stateOf e) start.log) :
    let observed := observations.foldl (observe profile) ⟨start, []⟩
    (∀ c, profile.eventOf c = e → ((observed.engine.cause c).triggered = true ↔
      (profile.cause c).orderId < observed.engine.expectedOrderId e)) ∧
    ∀ observation, OrderKept profile e observed observation →
      (fires profile observation.2.2 observation.1 (sampled observed observation) = true ↔
        outcome profile observation.1 (sampled observed observation) = .hit ∧
          (profile.cause observation.1).orderId = progress observed.history + 1 ∧
          (profile.cause observation.1).orderId = total profile e) := by
  have startStands : Stands profile e 0 start := by
    obtain ⟨engine, env, isInit | isAgain⟩ := initialised
    · have ok : (initEvent profile (initCause profile env) e engine).2 = true := by rw [isInit]
      have stands := initEvent_stands ordered (initCause_renews env) ok
      rwa [isInit] at stands
    · have ok : (initEvent profile (reinitCause profile env) e engine).2 = true := by
        rw [isAgain]
      have stands := initEvent_stands ordered (reinitCause_renews env) ok
      rwa [isAgain] at stands
  have standing := foldl_invariant
    (Standing profile e (visits (profile.stateOf e) start.log))
    (fun _ _ before kept => observe_standing ordered before kept)
    (show Standing profile e (visits (profile.stateOf e) start.log) ⟨start, []⟩ from
      ⟨Nat.le_refl _, fun _ => startStands⟩) guarded
  have stands := standing.stands stays
  intro observed
  constructor
  · intro c isCause
    rw [stands.order c isCause, stands.expected]
    omega
  · rintro ⟨c, sample, env⟩ ⟨isCause, keeps⟩
    obtain ⟨_, same⟩ := deliver_same c observed.engine sample
    have before : Stands profile e (progress observed.history)
        (observed.engine.deliver c sample) := stands.sameButValue same
    by_cases runsOut : (observed.engine.deliver c sample).RunsOut c
    · have others := (keeps runsOut).1
      rw [isCause] at others
      have fire := runsOut_fires ordered env isCause before runsOut others
      exact ⟨fun _ => fire.2, fun _ => fire.1⟩
    · exact fires_iff ordered env isCause before runsOut

attribute [local instance] neZero_two

theorem inOrder_mem_causes : ∀ (c : Fin 2) (e : Unit), c ∈ [0, 1] ↔ () = e := by
  intro c e
  cases e
  revert c
  decide

theorem mem_only (inner outer : Unit) : inner ∈ [()] ↔ () = outer := by simp

/-- A state with one event that has two causes in order. The first one is measured `count`
times. -/
def inOrder (count : Int) : Profile 2 Unit Unit Unit Unit Nat where
  cause := fun c =>
    { sId := c.val
      orderId := c.val + 1
      interval := -1
      count := if c = 0 then count else 0
      thresholdCount := 0
      negate := false
      relative := false
      thresholds := [()]
      minType := .uint32
      holds := false }
  eventOf := fun _ => ()
  stateOf := fun _ => ()
  purposeOf := fun _ => ()
  causes := fun _ => [0, 1]
  events := fun _ => [()]
  states := fun _ => [()]
  purposes := [()]
  gotoStId := fun _ => -1
  gotoPuId := fun _ => -1
  stId := fun _ => 0
  isGlobal := fun _ => false
  puId := fun _ => 0
  initStId := fun _ => 0
  initPuId := 0
  check := fun _ _ _ => true
  isGeofence := fun _ => false
  geofence := fun _ _ => none
  ofBool := fun inside => if inside then 1 else 0
  mem_causes := inOrder_mem_causes
  mem_events := mem_only
  mem_states := mem_only

def inOrderStart (count : Int) : Engine 2 Unit Unit Unit Nat :=
  (initEvent (inOrder count) (initCause (inOrder count) allStart) ()
    (initial 2 Unit Unit Unit 0).engine).1

/-- The first cause triggers with its last measurement, and the second one is still not the
expected one, so that the event does not fire. -/
theorem order_is_not_counted :
    let observed := [(0, .plain .uint32 7, allStart)].foldl (observe (inOrder 1))
      ⟨inOrderStart 1, []⟩
    Initialised (inOrder 1) () (inOrderStart 1) ∧ Ordered (inOrder 1) () ∧
      (observed.engine.cause 0).triggered = true ∧
      ¬ ((inOrder 1).cause 0).orderId < observed.engine.expectedOrderId () ∧
      fires (inOrder 1) allStart 1 (sampled observed (1, .plain .uint32 7, allStart)) = false := by
  refine ⟨⟨(initial 2 Unit Unit Unit 0).engine, allStart, Or.inl rfl⟩, ?_⟩
  decide

/-- Without a measurement count, the second cause makes the event fire after the first
one. -/
theorem order_is_counted :
    let observed := [(0, .plain .uint32 7, allStart)].foldl (observe (inOrder 0))
      ⟨inOrderStart 0, []⟩
    (∀ c, (inOrder 0).eventOf c = () → ((observed.engine.cause c).triggered = true ↔
      ((inOrder 0).cause c).orderId < observed.engine.expectedOrderId ())) ∧
    ∀ observation, OrderKept (inOrder 0) () observed observation →
      (fires (inOrder 0) observation.2.2 observation.1 (sampled observed observation) = true ↔
        outcome (inOrder 0) observation.1 (sampled observed observation) = .hit ∧
          ((inOrder 0).cause observation.1).orderId = progress observed.history + 1 ∧
          ((inOrder 0).cause observation.1).orderId = total (inOrder 0) ()) :=
  causes_trigger_in_order (inOrder 0) (by decide)
    ⟨(initial 2 Unit Unit Unit 0).engine, allStart, Or.inl rfl⟩
    [(0, .plain .uint32 7, allStart)] (by decide) (by decide)

end Machine

end Thingsee.Profiles
