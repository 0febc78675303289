import Thingsee.Gps.Engine
import Thingsee.Gps.TargetRequests

/-!
Owns that transitions complete and that deferred requests are processed once and in order. Of every
outermost call that returns, `deferred_requests_run_once` says when that holds. A state that cannot
be entered leaves a transition behind, a callback that asks while the timer of a request is set
comes before that request, and the timer of a deferred request has no module to run on.
-/

namespace Thingsee.Gps

open Support List Engine

/-- The state of the engine when an outermost call has returned. -/
structure Engine.Settled (engine : Engine) : Prop where
  settled : engine.gps.currentState = engine.gps.newState
  outside : engine.inSmProcess = 0
  empty : engine.eventTargetStateQueue = []
  inTurn : engine.processed = List.range engine.deferred
  onModule : ∀ priv ∈ engine.called, priv = .gps

/-- Whether a state can be entered: the initialization sets a timer, and a start of the receiver
sends it a reset. -/
def Outcomes.enters (out : Outcomes) : GpsState → Bool
  | .initialization => out.initTimer
  | .reinitialization | .coldStart => out.sendsReset
  | .powerOff | .searchingFix | .fixAcquired => true

def Module.Enters (out : Outcomes) (event : SmEvent) (gps : Module) : Prop :=
  let handled := stateMachine (processWith id out .aidStatus) out gps.currentState event gps
  handled.newState = handled.currentState ∨ out.enters handled.newState = true

/-- No request is deferred while the timer of another one is set. -/
def Asked.InOrder : Asked → Prop
  | .none => True
  | .ask _ allocated timer nested rest =>
    ((allocated && timer) = true → nested.count = 0) ∧ rest.InOrder

def Engine.Ends : List Turn → SmEvent → Engine → Prop
  | [], _, _ => False
  | turn :: turns, event, engine =>
    let passed := engine.pass turn event
    match passed.eventTargetStateQueue with
    | [] => True
    | (serial, request) :: rest =>
      Engine.Ends turns (.targetState request) (passed.remfirst serial rest)

/-- In each pass the requests are made in order, and the last one can enter its state. -/
def Engine.Meets : List Turn → SmEvent → Engine → Prop
  | [], _, _ => True
  | turn :: turns, event, engine =>
    let passed := engine.pass turn event
    turn.asked.InOrder ∧
      match passed.eventTargetStateQueue with
      | [] => engine.gps.Enters turn.out event
      | (serial, request) :: rest =>
        Engine.Meets turns (.targetState request) (passed.remfirst serial rest)

/-- The condition on a call. No timer of a deferred request may run out. -/
def Engine.Fits (engine : Engine) : Call → Prop
  | .process cause turns => ∀ event gps, cause.enter engine.gps = some (event, gps) →
      { engine with gps }.Ends turns event → { engine with gps }.Meets turns event
  | .eventTimer _ => engine.eventTimers = []

/-- What holds of the engine when every call of a run has returned. -/
def Returned (property : Engine → Prop) (state : Option Engine) : Prop :=
  ∀ engine, state = some engine → property engine

variable {engine : Engine} {gps : Module} {out : Outcomes} (aidStatus : Module → Module)

theorem stateMachine_exit_newState (out : Outcomes) (state : GpsState) (gps : Module) :
    (stateMachine aidStatus out state .exit gps).newState = gps.newState := by
  cases state with
  | initialization => exact Module.removeTimer_newState gps gps.initTimerId
  | powerOff | reinitialization | coldStart | searchingFix | fixAcquired => rfl

theorem stateMachine_entry_settles {state : GpsState} (current : gps.currentState = state)
    (new : gps.newState = state) :
    (stateMachine aidStatus out state .entry gps).currentState =
        (stateMachine aidStatus out state .entry gps).newState ↔
      out.enters state = true := by
  have reports : (smGlobal aidStatus out .entry gps).currentState =
      (smGlobal aidStatus out .entry gps).newState := by
    unfold smGlobal
    dsimp only
    split
    · rw [Module.reportTargetState_currentState, Module.reportTargetState_newState, current, new]
    · rw [current, new]
  have resets (reset : state ≠ .powerOff) :
      (if out.sendsReset then gps else gps.setNewState .powerOff).currentState =
        (if out.sendsReset then gps else gps.setNewState .powerOff).newState ↔
          out.sendsReset = true := by
    split
    case isTrue sends => exact iff_of_true (current.trans new.symm) sends
    case isFalse fails => exact iff_of_false (fun same => reset (current.symm.trans same)) fails
  cases state with
  | powerOff =>
    refine iff_of_true ?_ rfl
    show ((gps.reportTargetState false).removeTimer gps.aidTimerId).currentState =
      ((gps.reportTargetState false).removeTimer gps.aidTimerId).newState
    rw [Module.removeTimer_currentState, Module.removeTimer_newState,
      Module.reportTargetState_currentState, Module.reportTargetState_newState, current, new]
  | initialization =>
    show (smInitialization out .entry gps).currentState =
      (smInitialization out .entry gps).newState ↔ out.initTimer = true
    unfold smInitialization Module.startInitTimer
    dsimp only
    split
    case isTrue sets => exact iff_of_true (current.trans new.symm) sets
    case isFalse fails =>
      refine iff_of_false (fun same => ?_) fails
      cases current.symm.trans same
  | reinitialization => exact resets nofun
  | coldStart => exact resets nofun
  | searchingFix => exact iff_of_true reports rfl
  | fixAcquired => exact iff_of_true reports rfl

theorem changeState_settles (out : Outcomes) (gps : Module) :
    (changeState aidStatus out gps).currentState = (changeState aidStatus out gps).newState ↔
      gps.newState = gps.currentState ∨ out.enters gps.newState = true := by
  unfold changeState
  split
  case isFalse same =>
    have same := Decidable.not_not.mp same
    exact iff_of_true same.symm (.inl same)
  case isTrue different =>
    rw [or_iff_right different]
    have left := stateMachine_exit_newState aidStatus out gps.currentState gps
    generalize stateMachine aidStatus out gps.currentState .exit gps = handled at left ⊢
    rw [← left]
    exact stateMachine_entry_settles aidStatus rfl rfl

theorem smProcess_settles (out : Outcomes) (event : SmEvent) (gps : Module) :
    (smProcess out event gps).currentState = (smProcess out event gps).newState ↔
      gps.Enters out event :=
  changeState_settles _ out _

/-- The requests that were deferred, in the order in which they are processed. -/
def Engine.order (engine : Engine) : List Nat :=
  engine.processed ++ engine.eventTargetStateQueue.map Prod.fst

theorem Asked.queued_length (serial : Nat) (asked : Asked) :
    (asked.queued serial).length = asked.count := by
  induction asked generalizing serial with
  | none => rfl
  | ask request allocated timer nested rest nestedHypothesis restHypothesis =>
    rw [Asked.queued, Asked.count]
    split
    · rw [length_append, length_cons, nestedHypothesis, restHypothesis]
      omega
    · exact restHypothesis serial

theorem Asked.le_of_mem_queued {serial : Nat} {asked : Asked} {queued : Nat × Request}
    (isQueued : queued ∈ asked.queued serial) : serial ≤ queued.1 := by
  induction asked generalizing serial with
  | none => cases isQueued
  | ask request allocated timer nested rest nestedHypothesis restHypothesis =>
    rw [Asked.queued] at isQueued
    split at isQueued
    case isFalse => exact restHypothesis isQueued
    case isTrue =>
      rcases mem_append.mp isQueued with first | later
      · exact Nat.le_of_succ_le (nestedHypothesis first)
      rcases mem_cons.mp later with same | last
      · exact Nat.le_of_eq (congrArg Prod.fst same).symm
      · have bound := restHypothesis last
        omega

theorem Asked.queued_inOrder (serial : Nat) (asked : Asked) :
    (asked.queued serial).map Prod.fst = List.range' serial asked.count ↔ asked.InOrder := by
  induction asked generalizing serial with
  | none => exact iff_of_true rfl trivial
  | ask request allocated timer nested rest nestedHypothesis restHypothesis =>
    rw [Asked.queued, Asked.count, Asked.InOrder]
    split
    case isFalse fails =>
      rw [restHypothesis]
      exact ⟨fun inOrder => ⟨fun succeeds => absurd succeeds fails, inOrder⟩, And.right⟩
    case isTrue succeeds =>
      cases within : nested.queued (serial + 1) with
      | nil =>
        have none : nested.count = 0 := by
          rw [← Asked.queued_length (serial + 1), within]
          rfl
        rw [none, Nat.add_zero, Nat.zero_add, Nat.add_comm 1, nil_append, map_cons,
          range'_succ, List.cons.injEq, restHypothesis]
        exact ⟨fun both => ⟨fun _ => rfl, both.2⟩, fun both => ⟨rfl, both.2⟩⟩
      | cons first others =>
        -- The first one in the queue was asked within this one.
        have later : serial + 1 ≤ first.1 := by
          have isQueued : first ∈ nested.queued (serial + 1) := by
            rw [within]
            exact mem_cons_self
          exact Asked.le_of_mem_queued isQueued
        refine iff_of_false (fun inOrder => ?_) fun inOrder => ?_
        · rw [show nested.count + 1 + rest.count = nested.count + rest.count + 1 by omega,
            range'_succ, cons_append, map_cons, List.cons.injEq] at inOrder
          have same := inOrder.1
          omega
        · have none := inOrder.1 succeeds
          rw [← Asked.queued_length (serial + 1), within] at none
          cases none

theorem append_range_iff {order added : List Nat} {deferred count : Nat}
    (length : added.length = count) :
    order ++ added = List.range (deferred + count) ↔
      order = List.range deferred ∧ added = List.range' deferred count := by
  have split : List.range (deferred + count) =
      List.range deferred ++ List.range' deferred count := by
    rw [range_eq_range', range_eq_range', ← range'_append_1, Nat.zero_add]
  rw [split]
  constructor
  · intro same
    exact append_inj' same (by rw [length, length_range'])
  · rintro ⟨first, second⟩
    rw [first, second]

theorem Engine.pass_order_iff (turn : Turn) (event : SmEvent) (engine : Engine) :
    (engine.pass turn event).order = List.range (engine.pass turn event).deferred ↔
      engine.order = List.range engine.deferred ∧ turn.asked.InOrder := by
  rw [pass_eq]
  unfold Engine.order
  rw [map_append, ← append_assoc, append_range_iff, Asked.queued_inOrder]
  rw [length_map, Asked.queued_length]

theorem Engine.remfirst_order {serial : Nat} {request : Request} {rest : List (Nat × Request)}
    (queue : engine.eventTargetStateQueue = (serial, request) :: rest) :
    (engine.remfirst serial rest).order = engine.order := by
  unfold Engine.order
  rw [queue]
  show engine.processed ++ [serial] ++ rest.map Prod.fst = _
  rw [append_assoc]
  rfl

theorem Engine.pass_gps (turn : Turn) (event : SmEvent) (engine : Engine) :
    (engine.pass turn event).gps = Gps.smProcess turn.out event engine.gps := by
  rw [pass_eq]

variable {turns : List Turn} {call : Call} {after : Engine}

/-- **What the passes of a call come to.** The transition is complete and the requests are in order
exactly if they were before and the passes meet the condition. -/
theorem Engine.passes_sharp {event : SmEvent} (passed : engine.passes turns event = some after) :
    after.gps.currentState = after.gps.newState ∧
        after.processed = List.range after.deferred ↔
      engine.order = List.range engine.deferred ∧ engine.Meets turns event := by
  induction turns generalizing engine event with
  | nil => cases passed
  | cons turn turns ih =>
    have inOrder := pass_order_iff turn event engine
    rw [Engine.passes] at passed
    rw [Engine.Meets]
    cases queue : (engine.pass turn event).eventTargetStateQueue with
    | nil =>
      rw [queue] at passed
      cases passed
      have order : (engine.pass turn event).processed = (engine.pass turn event).order := by
        unfold Engine.order
        rw [queue, map_nil, append_nil]
      show (engine.pass turn event).gps.currentState = (engine.pass turn event).gps.newState ∧
          (engine.pass turn event).processed = List.range (engine.pass turn event).deferred ↔
        _ ∧ _ ∧ engine.gps.Enters turn.out event
      rw [order, inOrder, pass_gps, smProcess_settles]
      exact ⟨fun both => ⟨both.2.1, both.2.2, both.1⟩, fun both => ⟨both.2.2, both.1, both.2.1⟩⟩
    | cons first rest =>
      obtain ⟨serial, request⟩ := first
      rw [queue] at passed
      rw [ih passed, remfirst_order queue]
      show (engine.pass turn event).order = List.range (engine.pass turn event).deferred ∧ _ ↔ _
      rw [inOrder]
      exact and_assoc

theorem Engine.passes_isSome_iff {event : SmEvent} :
    (∃ after, engine.passes turns event = some after) ↔ engine.Ends turns event := by
  induction turns generalizing engine event with
  | nil => exact iff_of_false (fun ⟨_, passed⟩ => nomatch passed) id
  | cons turn turns ih =>
    rw [Engine.passes, Engine.Ends]
    cases (engine.pass turn event).eventTargetStateQueue with
    | nil => exact iff_of_true ⟨_, rfl⟩ trivial
    | cons first rest => exact ih

theorem Engine.passes_eventTimers {event : SmEvent}
    (passed : engine.passes turns event = some after)
    (null : ∀ priv ∈ engine.eventTimers, priv = .null) :
    ∀ priv ∈ after.eventTimers, priv = .null := by
  induction turns generalizing engine event with
  | nil => cases passed
  | cons turn turns ih =>
    have timers : ∀ priv ∈ (engine.pass turn event).eventTimers, priv = .null := by
      rw [pass_eq]
      intro priv isTimer
      rcases mem_append.mp isTimer with earlier | new
      · exact null priv earlier
      · exact eq_of_mem_replicate new
    rw [Engine.passes] at passed
    split at passed
    case h_1 =>
      cases passed
      exact timers
    case h_2 => exact ih passed timers

/-- Between the calls nothing is under way, and no timer of a deferred request has a module. -/
structure Engine.Sound (engine : Engine) : Prop where
  idle : engine.Idle
  null : ∀ priv ∈ engine.eventTimers, priv = .null

theorem Engine.perform_sound (sound : engine.Sound) (returns : engine.perform call = some after) :
    after.Sound := by
  unfold Engine.perform at returns
  cases call with
  | process cause turns =>
    dsimp only at returns
    split at returns
    case h_1 =>
      cases returns
      exact sound
    case h_2 event gps enters =>
      have idle : Engine.Idle { engine with gps } :=
        ⟨sound.idle.outside, sound.idle.quiet, sound.idle.empty⟩
      have passed := (smProcess_eq idle event turns).symm.trans returns
      obtain ⟨outside, quiet, empty, -⟩ := passes_ends passed
      exact ⟨⟨outside.trans idle.outside, quiet.trans idle.quiet, empty⟩,
        passes_eventTimers passed sound.null⟩
  | eventTimer turns =>
    dsimp only at returns
    split at returns
    case h_1 =>
      cases returns
      exact sound
    case h_2 priv rest timers =>
      have null : priv = .null := by
        apply sound.null
        rw [timers]
        exact mem_cons_self
      rw [null] at returns
      cases returns
      refine ⟨⟨sound.idle.outside, sound.idle.quiet, sound.idle.empty⟩, fun other isTimer => ?_⟩
      apply sound.null
      rw [timers]
      exact mem_cons_of_mem _ isTimer

theorem Engine.perform_settled (sound : engine.Sound) (settled : engine.Settled)
    (returns : engine.perform call = some after) : after.Settled ↔ engine.Fits call := by
  have soundAfter := perform_sound sound returns
  unfold Engine.perform at returns
  cases call with
  | process cause turns =>
    dsimp only at returns
    split at returns
    case h_1 none =>
      cases returns
      refine iff_of_true settled fun event gps enters => ?_
      cases none.symm.trans enters
    case h_2 event gps enters =>
      have idle : Engine.Idle { engine with gps } :=
        ⟨sound.idle.outside, sound.idle.quiet, sound.idle.empty⟩
      have passed := (smProcess_eq idle event turns).symm.trans returns
      have ends := passes_isSome_iff.mp ⟨after, passed⟩
      have inOrder : Engine.order { engine with gps } = List.range engine.deferred := by
        unfold Engine.order
        rw [sound.idle.empty, map_nil, append_nil]
        exact settled.inTurn
      have sharp := passes_sharp passed
      have called : after.called = engine.called := (passes_ends passed).2.2.2
      constructor
      · intro settledAfter otherEvent otherGps entersOther _
        cases enters.symm.trans entersOther
        exact (sharp.mp ⟨settledAfter.settled, settledAfter.inTurn⟩).2
      · intro fits
        obtain ⟨same, inTurn⟩ := sharp.mpr ⟨inOrder, fits event gps enters ends⟩
        refine ⟨same, soundAfter.idle.outside, soundAfter.idle.empty, inTurn, ?_⟩
        rw [called]
        exact settled.onModule
  | eventTimer turns =>
    dsimp only at returns
    split at returns
    case h_1 none =>
      cases returns
      exact iff_of_true settled none
    case h_2 priv rest timers =>
      have null : priv = .null := by
        apply sound.null
        rw [timers]
        exact mem_cons_self
      rw [null] at returns
      cases returns
      refine iff_of_false (fun settledAfter => ?_) fun none => ?_
      · have ran : TimerPriv.null ∈ engine.called ++ [.null] :=
          mem_append_right _ (mem_singleton.mpr rfl)
        cases settledAfter.onModule _ ran
      · cases timers.symm.trans none

theorem Engine.fits_of_none (sound : engine.Sound) (never : engine.perform call = none) :
    engine.Fits call := by
  unfold Engine.perform at never
  cases call with
  | process cause turns =>
    intro event gps enters ends
    dsimp only at never
    rw [enters] at never
    have idle : Engine.Idle { engine with gps } :=
      ⟨sound.idle.outside, sound.idle.quiet, sound.idle.empty⟩
    obtain ⟨after, passed⟩ := passes_isSome_iff.mpr ends
    cases ((smProcess_eq idle event turns).symm.trans never).symm.trans passed
  | eventTimer turns =>
    dsimp only at never
    split at never
    case h_1 none => exact none
    case h_2 priv rest timers =>
      have null : priv = .null := by
        apply sound.null
        rw [timers]
        exact mem_cons_self
      rw [null] at never
      cases never

theorem Engine.initial_sound : Engine.initial.Sound := ⟨⟨rfl, rfl, rfl⟩, nofun⟩

theorem Engine.initial_settled : Engine.initial.Settled := ⟨rfl, rfl, rfl, rfl, nofun⟩

/-- In every run the transitions are complete when an outermost call returns, nothing is under way,
and the deferred requests were processed once and in order, on the module, if and only if every
call fits: its passes ask in order and the last one can enter its state, and no timer of a deferred
request runs out. -/
theorem deferred_requests_run_once (calls : List Call) :
    (∀ reached, reached <+: calls →
      Returned Engine.Settled (reached.foldl Engine.step (some Engine.initial))) ↔
        Guarded Engine.step (fun state call => Returned (fun engine => engine.Fits call) state)
          (some Engine.initial) calls := by
  apply forall_prefix_iff_guarded (Returned Engine.Sound) (Returned Engine.Settled)
  · intro state call sound after returns
    cases state with
    | none =>
      change none = some after at returns
      cases returns
    | some engine => exact perform_sound (sound engine rfl) returns
  · intro state call sound settled
    cases state with
    | none =>
      refine iff_of_true (fun after returns => ?_) fun engine same => ?_
      · change none = some after at returns
        cases returns
      · cases same
    | some engine =>
      have sound := sound engine rfl
      have settled := settled engine rfl
      cases returns : engine.perform call with
      | none =>
        refine iff_of_true (fun after same => ?_) fun other same => ?_
        · change engine.perform call = some after at same
          rw [returns] at same
          cases same
        · cases same
          exact fits_of_none sound returns
      | some after =>
        have sharp := perform_settled sound settled returns
        constructor
        · intro settledAfter other same
          cases same
          exact sharp.mp (settledAfter after returns)
        · intro fits other same
          change engine.perform call = some other at same
          rw [returns] at same
          cases same
          exact sharp.mpr (fits engine rfl)
  · intro engine same
    cases same
    exact initial_sound
  · intro engine same
    cases same
    exact initial_settled

/-- The timer of the initialization cannot be set when the module is to search a fix. -/
def withoutTimer : List Call :=
  [.process (.requestState ⟨.searchingFix, 0⟩)
    [⟨{ Outcomes.working with initTimer := false }, .none⟩]]

/-- The call returns in the initialization, with a change to power off left to make. -/
theorem transition_stays_behind :
    ¬ ∀ reached, reached <+: withoutTimer →
      Returned Engine.Settled (reached.foldl Engine.step (some Engine.initial)) := by
  intro all
  have settled := (all withoutTimer (prefix_refl _) _ rfl).settled
  exact absurd settled (by decide)

end Thingsee.Gps
