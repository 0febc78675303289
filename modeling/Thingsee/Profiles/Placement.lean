import Thingsee.Profiles.Frames
import Thingsee.Support.Runs

/-!
Owns where causes are: the links and queues of causes stay within their state, and
senses run only for causes of active states. Entering and leaving a state keeps both,
and changes no links of other states.
-/

namespace Thingsee.Profiles

open Support

variable {n : Nat} {E S P T V : Type} [DecidableEq E] [DecidableEq S]

namespace Engine

/-- All links and queues stay within a state, and the senses that run belong to causes
that may run. -/
structure Placed (profile : Profile n E S P T V) (may : Fin n → Prop) (engine : Engine n E S P V) :
    Prop where
  link : ∀ a b, engine.flink a = some b → profile.stateOfCause a = profile.stateOfCause b
  head : ∀ s a, (engine.activeCauses s).head = some a → profile.stateOfCause a = s
  tail : ∀ s a, (engine.activeCauses s).tail = some a → profile.stateOfCause a = s
  runs : ∀ c, (engine.cause c).initialised = true → may c

variable {profile : Profile n E S P T V} {may : Fin n → Prop}
  (env : Env n) {engine : Engine n E S P V}

omit [DecidableEq E] [DecidableEq S] in
theorem setCause_placed (placed : Placed profile may engine) {c : Fin n} {dyn : CauseDyn V}
    (runs : dyn.initialised = true → may c) : Placed profile may (engine.setCause c dyn) := by
  refine ⟨placed.link, placed.head, placed.tail, ?_⟩
  intro d started
  by_cases same : d = c
  · subst same
    exact runs (by simpa [setCause] using started)
  · apply placed.runs
    simpa [setCause, Function.update_of_ne same] using started

variable {causeInit : Fin n → Engine n E S P V → Engine n E S P V × Bool} {s : S}

omit [DecidableEq E] in
theorem setLinked_placed (placed : Placed profile may engine) {linked : Linked (Fin n)}
    (link : ∀ a b, linked.flink a = some b → profile.stateOfCause a = profile.stateOfCause b)
    (head : ∀ a, linked.queue.head = some a → profile.stateOfCause a = s)
    (tail : ∀ a, linked.queue.tail = some a → profile.stateOfCause a = s) :
    Placed profile may (engine.setLinked s linked) := by
  refine ⟨link, ?_, ?_, placed.runs⟩
  · intro t a isHead
    by_cases same : t = s
    · subst same
      exact head a (by simpa [setLinked] using isHead)
    · apply placed.head
      simpa [setLinked, Function.update_of_ne same] using isHead
  · intro t a isTail
    by_cases same : t = s
    · subst same
      exact tail a (by simpa [setLinked] using isTail)
    · apply placed.tail
      simpa [setLinked, Function.update_of_ne same] using isTail

omit [DecidableEq E] [DecidableEq S] in
theorem freeValuearray_placed (placed : Placed profile may engine) (c : Fin n) :
    Placed profile may (engine.freeValuearray c) := by
  unfold freeValuearray
  dsimp only
  split
  · next number _ _ _ =>
    have changed := @setCause_placed n E S P T V profile may engine placed c
      { engine.cause c with value := ⟨.array, .items number none⟩ } (placed.runs c)
    exact ⟨changed.link, changed.head, changed.tail, changed.runs⟩
  · exact placed

section

omit [DecidableEq E]

theorem addlast_placed (placed : Placed profile may engine) {c : Fin n}
    (inState : profile.stateOfCause c = s) :
    Placed profile may (engine.setLinked s ((engine.linked s).addlast c)) := by
  have ends := Linked.addlast_queue (engine.linked s) c
  apply setLinked_placed placed
  · intro a b isLink
    rcases Linked.addlast_link isLink with old | ⟨isTail, isNode⟩
    · exact placed.link a b old
    · rw [isNode, inState]
      exact placed.tail s a isTail
  · intro a isHead
    rcases ends.1 with same | isNode
    · exact placed.head s a (same.symm.trans isHead)
    · rw [isNode] at isHead
      rwa [← Option.some.inj isHead]
  · intro a isTail
    rcases ends.2 with empty | isNode
    · rw [empty] at isTail
      simp at isTail
    · rw [isNode] at isTail
      rwa [← Option.some.inj isTail]

theorem rem_placed (placed : Placed profile may engine) {c : Fin n}
    (inState : profile.stateOfCause c = s) :
    Placed profile may (engine.setLinked s ((engine.linked s).rem n c)) := by
  have ends := @Linked.rem_queue (Fin n) _ (engine.linked s) n c
  apply setLinked_placed placed
  · intro a b isLink
    rcases Linked.rem_link isLink with old | ⟨toNode, fromNode⟩
    · exact placed.link a b old
    · exact (placed.link a c toNode).trans (placed.link c b fromNode)
  · intro a isHead
    rcases ends.1 with same | ⟨_, next⟩
    · exact placed.head s a (same.symm.trans isHead)
    · rw [← placed.link c a (next.symm.trans isHead)]
      exact inState
  · intro a isTail
    rcases ends.2 with same | empty | ⟨prev, toNode, isPrev⟩
    · exact placed.tail s a (same.symm.trans isTail)
    · rw [empty] at isTail
      simp at isTail
    · rw [isPrev] at isTail
      rw [← Option.some.inj isTail, placed.link prev c toNode]
      exact inState

theorem initCause_placed {c : Fin n} (allowed : may c) (placed : Placed profile may engine) :
    Placed profile may (initCause profile env c engine).1 := by
  apply addlast_placed _ rfl
  exact setCause_placed placed fun _ => allowed

theorem reinitCause_placed {c : Fin n} (allowed : may c) (placed : Placed profile may engine) :
    Placed profile may (reinitCause profile env c engine).1 := by
  unfold reinitCause
  dsimp only
  split
  · exact initCause_placed env allowed placed
  · exact setCause_placed placed fun _ => allowed

theorem uninitCause_placed (c : Fin n) (placed : Placed profile may engine) :
    Placed profile may (uninitCause profile c engine).1 := by
  apply freeValuearray_placed
  exact setCause_placed (rem_placed placed rfl) (by simp)

end

omit [DecidableEq S] in
theorem initEvent_placed {e : E}
    (each : ∀ c ∈ profile.causes e, ∀ engine, Placed profile may engine →
      Placed profile may (causeInit c engine).1)
    (placed : Placed profile may engine) :
    Placed profile may (initEvent profile causeInit e engine).1 := by
  have inner := untilError_invariant (Placed profile may) each placed
  unfold initEvent
  dsimp only
  split
  · exact ⟨inner.link, inner.head, inner.tail, inner.runs⟩
  · exact inner

theorem initState_placed
    (each : ∀ c, profile.stateOfCause c = s → ∀ engine, Placed profile may engine →
      Placed profile may (causeInit c engine).1)
    (placed : Placed profile may engine) :
    Placed profile may (initState profile causeInit s engine).1 := by
  apply untilError_invariant (Placed profile may)
  · intro e isEvent before
    apply initEvent_placed
    intro c isCause
    apply each
    have ofEvent : profile.eventOf c = e := (profile.mem_causes c e).mp isCause
    have ofState : profile.stateOf e = s := (profile.mem_events e s).mp isEvent
    unfold Profile.stateOfCause
    rw [ofEvent, ofState]
  · apply setLinked_placed placed
    · exact placed.link
    · simp [Linked.init]
    · simp [Linked.init]

theorem reinitEvent_placed {e : E} (allowed : ∀ c, profile.eventOf c = e → may c)
    (placed : Placed profile may engine) :
    Placed profile may (initEvent profile (reinitCause profile env) e engine).1 := by
  apply initEvent_placed _ placed
  intro c isCause before
  exact reinitCause_placed env (allowed c ((profile.mem_causes c e).mp isCause))

omit [DecidableEq E] [DecidableEq S] in
theorem checkThreshold_placed {c : Fin n} {checking : Checking n E S P V}
    (placed : Placed profile may checking.engine) (threshold : T) :
    Placed profile may (checkThreshold profile c checking threshold).engine := by
  unfold checkThreshold
  dsimp only
  split
  · split
    · exact placed
    · have freed := freeValuearray_placed placed c
      exact setCause_placed freed (freed.runs c)
  · exact placed

section

variable {c : Fin n} (allowed : ∀ d, profile.eventOf d = profile.eventOf c → may d)
  (placed : Placed profile may engine)
include allowed placed

theorem countThreshold_placed : Placed profile may (countThreshold profile env c engine).1 := by
  unfold countThreshold
  dsimp only
  have counted (counter : Int) : Placed profile may
      (engine.setCause c { engine.cause c with thresholdCounter := counter }) :=
    setCause_placed placed (placed.runs c)
  generalize (if 0 < (engine.cause c).thresholdCounter then _ else _ : Int) = counter
  split
  · exact counted _
  · split
    · exact counted _
    · split
      · exact reinitEvent_placed env allowed (counted _)
      · have placed := counted counter
        exact ⟨placed.link, placed.head, placed.tail, placed.runs⟩

theorem checkThresholds_placed : Placed profile may (checkThresholds profile env c engine).1 := by
  have checked : Placed profile may
      ((profile.cause c).thresholds.foldl (checkThreshold profile c) ⟨engine, true⟩).engine :=
    foldl_invariant_of_keeps
      (fun checking : Checking n E S P V => Placed profile may checking.engine)
      (fun _ threshold before => checkThreshold_placed before threshold) _ placed
  unfold checkThresholds
  dsimp only
  split
  · exact setCause_placed placed (placed.runs c)
  · split
    · split
      · exact uninitCause_placed c (setCause_placed placed (placed.runs c))
      · exact setCause_placed placed (placed.runs c)
    · split
      · exact placed
      · split
        · split
          · exact reinitEvent_placed env allowed checked
          · exact setCause_placed checked (checked.runs c)
        · exact countThreshold_placed env allowed checked

end

def Running (profile : Profile n E S P T V) (engine : Engine n E S P V) : Prop :=
  Placed profile (fun c => isActive (profile.stateOfCause c) engine.log = true) engine

theorem enterState_running (s : S) (running : Running profile engine) :
    Running profile (enterState profile env s engine).1 := by
  have begun : Placed profile
      (fun c => isActive (profile.stateOfCause c) (engine.record (.entered s)).log = true)
      (engine.record (.entered s)) := by
    refine ⟨running.link, running.head, running.tail, ?_⟩
    intro c started
    change (if s = profile.stateOfCause c then true else isActive _ engine.log) = true
    split
    · rfl
    · exact running.runs c started
  unfold Running
  rw [(enterState_calm _ env s engine).log]
  refine initState_placed ?_ begun
  intro c inState before placed
  apply initCause_placed env _ placed
  simp [record, isActive, inState]

omit [DecidableEq E] in
theorem uninitCause_stops (c : Fin n) (engine : Engine n E S P V) :
    ((uninitCause profile c engine).1.cause c).initialised = false := by
  simp only [uninitCause, freeValuearray]
  split
  · simp [setCause]
  · simp [setCause]

omit [DecidableEq E] in
theorem uninitCause_keeps_stopped (c d : Fin n) (stopped : (engine.cause d).initialised = false) :
    ((uninitCause profile c engine).1.cause d).initialised = false := by
  by_cases same : d = c
  · subst same
    exact uninitCause_stops d engine
  · simp only [uninitCause, freeValuearray]
    split
    all_goals simpa [setCause, setLinked, Function.update_of_ne same] using stopped

theorem leaveState_stops {c : Fin n} (inState : profile.stateOfCause c = s)
    (engine : Engine n E S P V) :
    ((leaveState profile s engine).1.cause c).initialised = false := by
  have isEvent : profile.eventOf c ∈ profile.events s := (profile.mem_events _ s).mpr inState
  have isCause : c ∈ profile.causes (profile.eventOf c) := (profile.mem_causes c _).mpr rfl
  refine untilError_establishes
    (fun engine : Engine n E S P V => (engine.cause c).initialised = false)
    (initEvent_ok _ fun _ _ => rfl) ?_ isEvent ?_ _
  · intro e before stopped
    rw [(initEvent_fields profile (uninitCause profile) _ before).1]
    exact untilError_invariant
      (fun engine : Engine n E S P V => (engine.cause c).initialised = false)
      (fun d _ _ stillStopped => uninitCause_keeps_stopped d c stillStopped) stopped
  · intro before
    rw [(initEvent_fields profile (uninitCause profile) _ before).1]
    exact untilError_establishes
      (fun engine : Engine n E S P V => (engine.cause c).initialised = false)
      (fun _ _ => rfl) (fun d _ stopped => uninitCause_keeps_stopped d c stopped) isCause
      (uninitCause_stops c) before

theorem leaveState_running (s : S) (running : Running profile engine) :
    Running profile (leaveState profile s engine).1 := by
  have begun : Placed profile (fun c => isActive (profile.stateOfCause c) engine.log = true)
      (engine.record (.left s)) :=
    ⟨running.link, running.head, running.tail, running.runs⟩
  have after := initState_placed (s := s) (fun c _ _ => uninitCause_placed c) begun
  refine ⟨after.link, after.head, after.tail, ?_⟩
  intro c started
  by_cases inState : s = profile.stateOfCause c
  · have stopped := leaveState_stops inState.symm engine
    rw [stopped] at started
    simp at started
  · rw [(leaveState_calm s engine).log]
    have was := after.runs c started
    simpa [record, isActive, inState] using was

theorem leaveState_flink (s : S) (engine : Engine n E S P V) :
    (leaveState profile s engine).1.flink = engine.flink := by
  have each (c : Fin n) (inState : profile.stateOfCause c = s) (before : Engine n E S P V)
      (kept : (before.activeCauses s).head = none ∧ before.flink = engine.flink) :
      ((uninitCause profile c before).1.activeCauses s).head = none ∧
        (uninitCause profile c before).1.flink = engine.flink := by
    have nothing : (before.linked s).rem n c = before.linked s := Linked.rem_of_empty n c kept.1
    simp only [uninitCause, freeValuearray, inState, nothing]
    split
    all_goals simpa [setLinked, setCause, linked] using kept
  have all : ((leaveState profile s engine).1.activeCauses s).head = none ∧
      (leaveState profile s engine).1.flink = engine.flink := by
    apply untilError_invariant (fun after : Engine n E S P V =>
      (after.activeCauses s).head = none ∧ after.flink = engine.flink)
    · intro e isEvent before kept
      have fields := initEvent_fields profile (uninitCause profile) e before
      rw [fields.2.1, fields.2.2]
      apply untilError_invariant (fun after : Engine n E S P V =>
        (after.activeCauses s).head = none ∧ after.flink = engine.flink) _ kept
      intro c isCause
      apply each c
      unfold Profile.stateOfCause
      rw [(profile.mem_causes c e).mp isCause, (profile.mem_events e s).mp isEvent]
    · simp [setLinked, record, linked, Linked.init]
  exact all.2

omit [DecidableEq E] in
theorem initCause_flink {c a : Fin n} (placed : Placed profile may engine)
    (other : profile.stateOfCause a ≠ profile.stateOfCause c) :
    (initCause profile env c engine).1.flink a = engine.flink a := by
  have notCause : a ≠ c := by
    intro same
    exact other (by rw [same])
  have notLast : (engine.linked (profile.stateOfCause c)).queue.tail ≠ some a := by
    intro isTail
    exact other (placed.tail _ a isTail)
  simp only [initCause, setLinked, setCause]
  exact Linked.addlast_flink_of_ne notCause notLast

theorem enterState_flink (placed : Placed profile may engine) {a : Fin n}
    (other : profile.stateOfCause a ≠ s) :
    (enterState profile env s engine).1.flink a = engine.flink a := by
  have begun : Placed profile (fun _ => True) (engine.record (.entered s)) :=
    ⟨placed.link, placed.head, placed.tail, fun _ _ => trivial⟩
  have all : Placed profile (fun _ => True) (enterState profile env s engine).1 ∧
      (enterState profile env s engine).1.flink a = engine.flink a := by
    apply untilError_invariant (fun after : Engine n E S P V =>
      Placed profile (fun _ => True) after ∧ after.flink a = engine.flink a)
    · intro e isEvent before kept
      have fields := initEvent_fields profile (initCause profile env) e before
      have inner : Placed profile (fun _ => True)
            (untilError (initCause profile env) (profile.causes e) before).1 ∧
          (untilError (initCause profile env) (profile.causes e) before).1.flink a =
            engine.flink a := by
        apply untilError_invariant (fun after : Engine n E S P V =>
          Placed profile (fun _ => True) after ∧ after.flink a = engine.flink a) _ kept
        intro c isCause middle keptMiddle
        have inState : profile.stateOfCause c = s := by
          unfold Profile.stateOfCause
          rw [(profile.mem_causes c e).mp isCause, (profile.mem_events e s).mp isEvent]
        refine ⟨initCause_placed env trivial keptMiddle.1, ?_⟩
        rw [initCause_flink env keptMiddle.1 (by rwa [inState])]
        exact keptMiddle.2
      refine ⟨initEvent_placed (fun c _ _ placed => initCause_placed env trivial placed) kept.1, ?_⟩
      rw [fields.2.1]
      exact inner.2
    · refine ⟨?_, rfl⟩
      exact setLinked_placed begun begun.link (by simp [Linked.init]) (by simp [Linked.init])
  exact all.2

end Engine

end Thingsee.Profiles
