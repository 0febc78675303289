import Thingsee.Connectors.Contexts
import Thingsee.Support.Runs

/-!
Owns that every send of a connector completes exactly once: its context is kept until its callback
is called, and no purge waits for a message with the mutex locked while a callback has still to be
called. `sends_complete_once` says which steps go wrong: a next task that finds no room, a purge of
a next task whose context is still read, and a purge that finds the queue empty although tasks are
counted.
-/

namespace Thingsee.Connectors

open Support Connector List

def Connector.Pending (con : Connector) : Prop :=
  ∃ serial, serial < con.created ∧ con.calls serial = 0

def Connector.locked (con : Connector) : Bool :=
  con.enginePurge == .waiting || con.handlerPurge == .waiting

/-- It waits for a message that is not there, and a callback has still to be called. -/
structure Connector.Blocked (con : Connector) : Prop where
  locked : con.locked = true
  empty : con.queue = []
  pending : con.Pending

structure Connector.Completes (con : Connector) : Prop where
  exactly : con.Exact
  unblocked : ¬ con.Blocked

/-- This holds as long as the connector is not stopping. -/
def Connector.CompletesOnce (con : Connector) : Prop := con.stopping = false → con.Completes

/-- Whether a purge is about to wait for a message that is not there. -/
structure Connector.Starves (con : Connector) (purge : Purge) : Prop where
  looking : purge = .looking
  counted : 0 < con.mqTaskCount
  empty : con.queue = []
  pending : con.Pending

/-- A next task finds room in the queue. A purge takes no task whose context is still read, and
does not wait without a message; nor does the network thread take the message it waits for. -/
def Undisturbed (con : Connector) (action : Action) : Prop :=
  con.stopping = false → con.waits action = false →
    match action with
    | .handlerReturns (some _) =>
      ∀ context ret, con.network = .handling context ret → con.handlerPurge = .off →
        con.hasRoom = true
    | .enginePurge => ¬ con.disturbs con.enginePurge ∧ ¬ con.Starves con.enginePurge
    | .handlerPurge => ¬ con.disturbs con.handlerPurge ∧ ¬ con.Starves con.handlerPurge
    | .receive =>
      con.locked = true → con.network = .idle → con.queue.length = 1 → ¬ con.Pending
    | _ => True

def Connector.Apart (con : Connector) : Prop :=
  con.enginePurge = .waiting → con.handlerPurge ≠ .waiting

variable {con next : Connector}

theorem Connector.locked_iff :
    con.locked = true ↔ con.enginePurge = .waiting ∨ con.handlerPurge = .waiting := by
  unfold Connector.locked
  rw [Bool.or_eq_true, beq_iff_eq, beq_iff_eq]

theorem Connector.waits_eq_false {action : Action} :
    con.waits action = false ↔ (con.locked = true → action.locks con = false) := by
  show (con.locked && action.locks con) = false ↔ _
  cases con.locked <;> simp

/-- A thread that does not purge does not start to wait for a message, and does not take the end
of the connector back. -/
structure Carries (before after : Connector) : Prop where
  stopping : before.stopping = true → after.stopping = true
  engine : after.enginePurge = .waiting → before.enginePurge = .waiting
  handler : after.handlerPurge = .waiting → before.handlerPurge = .waiting

variable (action : Action)

theorem Connector.perform_carries (engine : action ≠ .enginePurge)
    (handler : action ≠ .handlerPurge) : Carries con (con.perform action) := by
  cases action with
  | multisendUrl allocated posted =>
    show Carries con (con.multisendUrl allocated posted)
    unfold Connector.multisendUrl
    split
    · dsimp only
      split <;> exact ⟨id, id, id⟩
    · exact ⟨id, id, id⟩
  | countTask =>
    show Carries con con.countTask
    unfold Connector.countTask
    split <;> exact ⟨id, id, id⟩
  | giveStop =>
    show Carries con con.giveStop
    unfold Connector.giveStop
    split <;> exact ⟨id, id, id⟩
  | countStop =>
    show Carries con con.countStop
    unfold Connector.countStop
    split
    · exact ⟨fun _ => rfl, id, id⟩
    · exact ⟨id, id, id⟩
  | startEnginePurge =>
    refine ⟨id, fun waiting => ?_, id⟩
    change (if con.enginePurge = .off then Purge.looking else con.enginePurge) = .waiting
      at waiting
    split at waiting
    · cases waiting
    · exact waiting
  | enginePurge => exact absurd rfl engine
  | receive =>
    show Carries con con.receive
    unfold Connector.receive
    split <;> exact ⟨id, id, id⟩
  | begin =>
    show Carries con con.begin
    unfold Connector.begin
    split <;> exact ⟨id, id, id⟩
  | connect ret given =>
    show Carries con (con.connect ret given)
    unfold Connector.connect
    split
    · split
      · exact ⟨id, id, id⟩
      split <;> exact ⟨id, id, id⟩
    · exact ⟨id, id, id⟩
  | execute executed =>
    show Carries con (con.execute executed)
    unfold Connector.execute
    split <;> exact ⟨id, id, id⟩
  | startHandlerPurge =>
    show Carries con con.startHandlerPurge
    unfold Connector.startHandlerPurge
    split
    · exact ⟨id, id, nofun⟩
    · exact ⟨id, id, id⟩
  | handlerPurge => exact absurd rfl handler
  | handlerReturns processStatus =>
    show Carries con (con.handlerReturns processStatus)
    unfold Connector.handlerReturns
    split
    · split
      · exact ⟨id, id, id⟩
      split <;> exact ⟨id, id, id⟩
    · exact ⟨id, id, id⟩
  | destroyChained =>
    show Carries con con.destroyChained
    unfold Connector.destroyChained
    split <;> exact ⟨id, id, id⟩
  | release =>
    show Carries con con.release
    unfold Connector.release
    split <;> exact ⟨id, id, id⟩
  | finish =>
    show Carries con con.finish
    unfold Connector.finish
    split <;> exact ⟨id, id, id⟩

theorem Connector.perform_stopping (stopping : con.stopping = true) :
    (con.perform action).stopping = true := by
  by_cases engine : action = .enginePurge
  · subst engine
    exact (con.purge_rest con.enginePurge).2.2.2.2.trans stopping
  by_cases handler : action = .handlerPurge
  · subst handler
    exact (con.purge_rest con.handlerPurge).2.2.2.2.trans stopping
  exact (con.perform_carries action engine handler).stopping stopping

theorem Connector.purge_waiting {purge : Purge} (waiting : (con.purge purge).2 = .waiting) :
    (con.purge purge).1 = con ∧ con.queue = [] ∧
      (purge = .waiting ∨ purge = .looking ∧ con.stopping = false ∧ 0 < con.mqTaskCount) := by
  have message (waiting : con.purgeMessage.2 = .waiting) :
      con.purgeMessage.1 = con ∧ con.queue = [] := by
    unfold Connector.purgeMessage at waiting ⊢
    split at waiting
    case h_1 empty => exact ⟨rfl, empty⟩
    case h_2 => cases waiting
    case h_3 => cases waiting
  unfold Connector.purge at waiting ⊢
  cases purge with
  | off => cases waiting
  | looking =>
    dsimp only at waiting ⊢
    split at waiting
    case isTrue looks =>
      rw [if_pos looks]
      exact ⟨(message waiting).1, (message waiting).2, .inr ⟨rfl, looks⟩⟩
    case isFalse => cases waiting
  | waiting => exact ⟨(message waiting).1, (message waiting).2, .inl rfl⟩
  | completing => cases waiting
  | removing => cases waiting

theorem Connector.Starves.purge {purge : Purge} (starves : con.Starves purge)
    (running : con.stopping = false) : con.purge purge = (con, .waiting) := by
  rw [starves.looking]
  unfold Connector.purge
  rw [if_pos ⟨running, starves.counted⟩]
  unfold Connector.purgeMessage
  rw [starves.empty]

theorem Connector.purge_blocked {purge : Purge} (running : con.stopping = false)
    (unblocked : ¬ con.Blocked) (before : purge = .waiting → con.locked = true)
    (after : next.locked = true ↔ (con.purge purge).2 = .waiting)
    (queue : next.queue = (con.purge purge).1.queue)
    (created : next.created = (con.purge purge).1.created)
    (called : next.called = (con.purge purge).1.called) :
    next.Blocked ↔ con.Starves purge := by
  have pending (same : (con.purge purge).1 = con) : next.Pending ↔ con.Pending := by
    rw [same] at created called
    unfold Connector.Pending Connector.calls
    rw [created, called]
  constructor
  · intro blocked
    obtain ⟨same, empty, waited | ⟨looking, -, counted⟩⟩ :=
      purge_waiting (after.mp blocked.locked)
    · exact absurd ⟨before waited, empty, (pending same).mp blocked.pending⟩ unblocked
    · exact ⟨looking, counted, empty, (pending same).mp blocked.pending⟩
  · intro starves
    have purged := starves.purge running
    have same : (con.purge purge).1 = con := by rw [purged]
    refine ⟨after.mpr (by rw [purged]), ?_, (pending same).mpr starves.pending⟩
    rw [queue, same]
    exact starves.empty

theorem Connector.enginePurge_alone (apart : con.Apart)
    (ready : con.waits .enginePurge = false) : con.handlerPurge ≠ .waiting := by
  intro waiting
  have unneeded := waits_eq_false.mp ready (locked_iff.mpr (.inr waiting))
  have both : con.enginePurge = .waiting := by
    simpa [Action.locks] using unneeded
  exact apart both waiting

theorem Connector.handlerPurge_alone (apart : con.Apart)
    (ready : con.waits .handlerPurge = false) : con.enginePurge ≠ .waiting := by
  intro waiting
  have unneeded := waits_eq_false.mp ready (locked_iff.mpr (.inl waiting))
  have both : con.handlerPurge = .waiting := by
    simpa [Action.locks] using unneeded
  exact apart waiting both

theorem Connector.enginePurge_blocked (apart : con.Apart) (running : con.stopping = false)
    (ready : con.waits .enginePurge = false) (unblocked : ¬ con.Blocked) :
    (con.perform .enginePurge).Blocked ↔ con.Starves con.enginePurge := by
  refine purge_blocked running unblocked
    (fun waiting => locked_iff.mpr (.inl waiting)) ?_ rfl rfl rfl
  rw [locked_iff]
  show (con.purge con.enginePurge).2 = .waiting ∨
    (con.purge con.enginePurge).1.handlerPurge = .waiting ↔ _
  rw [(con.purge_rest con.enginePurge).2.2.2.1]
  exact or_iff_left (con.enginePurge_alone apart ready)

theorem Connector.handlerPurge_blocked (apart : con.Apart) (running : con.stopping = false)
    (ready : con.waits .handlerPurge = false) (unblocked : ¬ con.Blocked) :
    (con.perform .handlerPurge).Blocked ↔ con.Starves con.handlerPurge := by
  refine purge_blocked running unblocked
    (fun waiting => locked_iff.mpr (.inr waiting)) ?_ rfl rfl rfl
  rw [locked_iff]
  show (con.purge con.handlerPurge).1.enginePurge = .waiting ∨
    (con.purge con.handlerPurge).2 = .waiting ↔ _
  rw [(con.purge_rest con.handlerPurge).2.2.1]
  exact or_iff_right (con.handlerPurge_alone apart ready)

theorem Connector.receive_blocked (unblocked : ¬ con.Blocked) :
    con.receive.Blocked ↔ ¬ (con.locked = true → con.network = .idle → con.queue.length = 1 →
      ¬ con.Pending) := by
  unfold Connector.receive
  split
  case h_1 message rest idle queue =>
    rw [queue]
    constructor
    · rintro ⟨locked, empty, pending⟩ spared
      refine spared locked idle ?_ pending
      change rest = [] at empty
      rw [empty]
      rfl
    · intro taken
      by_contra unblocked'
      refine taken fun locked _ one pending => unblocked' ⟨locked, ?_, pending⟩
      exact length_eq_zero_iff.mp (Nat.succ.inj one)
  case h_2 elsewhere =>
    refine iff_of_false unblocked fun taken => taken fun locked idle one _ => ?_
    obtain ⟨message, queue⟩ := length_eq_one_iff.mp one
    exact elsewhere message [] idle queue

theorem Connector.perform_unblocked (engine : action ≠ .enginePurge)
    (handler : action ≠ .handlerPurge) (receives : action ≠ .receive)
    (ready : con.waits action = false) (unblocked : ¬ con.Blocked) :
    ¬ (con.perform action).Blocked := by
  rintro ⟨lockedAfter, empty, pending⟩
  have carries := con.perform_carries action engine handler
  have locked : con.locked = true :=
    locked_iff.mpr ((locked_iff.mp lockedAfter).imp carries.engine
      carries.handler)
  have unneeded := waits_eq_false.mp ready locked
  have unblocked (empty : con.queue = []) : ¬ con.Pending :=
    fun pending => unblocked ⟨locked, empty, pending⟩
  have unchanged {after : Connector} (same : after.queue = con.queue ∧
      after.created = con.created ∧ after.called = con.called) (empty : after.queue = [])
      (pending : after.Pending) : False := by
    unfold Connector.Pending Connector.calls at pending
    rw [same.2.1, same.2.2] at pending
    exact unblocked (same.1.symm.trans empty) pending
  clear lockedAfter carries ready
  cases action with
  | multisendUrl allocated posted =>
    change (con.multisendUrl allocated posted).queue = [] at empty
    change (con.multisendUrl allocated posted).Pending at pending
    unfold Connector.multisendUrl at empty pending
    cases allocated with
    | false => exact unblocked empty pending
    | true =>
      have room : (posted && con.hasRoom) = true := by
        simpa [Action.locks] using unneeded
      rw [if_pos rfl] at empty
      change (if posted && con.hasRoom then _ else _ : Connector).queue = [] at empty
      rw [if_pos room] at empty
      exact append_ne_nil_of_right_ne_nil _ (cons_ne_nil _ _) empty
  | countTask => cases unneeded
  | giveStop =>
    change con.giveStop.queue = [] at empty
    change con.giveStop.Pending at pending
    unfold Connector.giveStop at empty pending
    split at empty
    case isTrue => exact append_ne_nil_of_right_ne_nil _ (cons_ne_nil _ _) empty
    case isFalse full =>
      rw [if_neg full] at pending
      exact unblocked empty pending
  | countStop => cases unneeded
  | startEnginePurge => exact unblocked empty pending
  | enginePurge => exact engine rfl
  | receive => exact receives rfl
  | begin => cases unneeded
  | connect ret given =>
    refine unchanged ?_ empty pending
    show (con.connect ret given).queue = con.queue ∧ (con.connect ret given).created = con.created ∧
      (con.connect ret given).called = con.called
    unfold Connector.connect
    split
    case h_2 => exact ⟨rfl, rfl, rfl⟩
    case h_1 =>
      split
      case isTrue => exact ⟨rfl, rfl, rfl⟩
      case isFalse disconnected =>
        split
        case isTrue fails =>
          -- A failed connection needs the mutex to complete the workflow.
          exact absurd unneeded (by simp [Action.locks, disconnected, fails])
        case isFalse => exact ⟨rfl, rfl, rfl⟩
  | execute executed =>
    cases executed with
    | fails ret => cases unneeded
    | responds ret =>
      refine unchanged ?_ empty pending
      show (con.execute (.responds ret)).queue = con.queue ∧
        (con.execute (.responds ret)).created = con.created ∧
          (con.execute (.responds ret)).called = con.called
      unfold Connector.execute
      split
      case h_1 fails => cases fails
      case h_2 => exact ⟨rfl, rfl, rfl⟩
      case h_3 => exact ⟨rfl, rfl, rfl⟩
  | startHandlerPurge =>
    refine unchanged ?_ empty pending
    show con.startHandlerPurge.queue = con.queue ∧ con.startHandlerPurge.created = con.created ∧
      con.startHandlerPurge.called = con.called
    unfold Connector.startHandlerPurge
    split <;> exact ⟨rfl, rfl, rfl⟩
  | handlerPurge => exact handler rfl
  | handlerReturns processStatus =>
    cases processStatus with
    | none => cases unneeded
    | some processStatus =>
      change (con.handlerReturns (some processStatus)).queue = [] at empty
      refine unchanged ?_ empty pending
      show (con.handlerReturns (some processStatus)).queue = con.queue ∧
        (con.handlerReturns (some processStatus)).created = con.created ∧
          (con.handlerReturns (some processStatus)).called = con.called
      unfold Connector.handlerReturns at empty ⊢
      split
      case h_2 => exact ⟨rfl, rfl, rfl⟩
      case h_1 context ret handling off =>
        rw [handling, off] at empty
        dsimp only at empty ⊢
        split
        case isTrue room =>
          rw [if_pos room] at empty
          exact absurd empty (append_ne_nil_of_right_ne_nil _ (cons_ne_nil _ _))
        case isFalse => exact ⟨rfl, rfl, rfl⟩
  | destroyChained =>
    refine unchanged ?_ empty pending
    show con.destroyChained.queue = con.queue ∧ con.destroyChained.created = con.created ∧
      con.destroyChained.called = con.called
    unfold Connector.destroyChained
    split <;> exact ⟨rfl, rfl, rfl⟩
  | release | finish => cases unneeded

theorem Connector.perform_apart (ready : con.waits action = false) (apart : con.Apart) :
    (con.perform action).Apart := by
  intro engineWaits handlerWaits
  by_cases engine : action = .enginePurge
  · subst engine
    refine con.enginePurge_alone apart ready ?_
    exact (con.purge_rest con.enginePurge).2.2.2.1.symm.trans handlerWaits
  by_cases handler : action = .handlerPurge
  · subst handler
    refine con.handlerPurge_alone apart ready ?_
    exact (con.purge_rest con.handlerPurge).2.2.1.symm.trans engineWaits
  have carries := con.perform_carries action engine handler
  exact apart (carries.engine engineWaits) (carries.handler handlerWaits)

theorem Connector.step_apart (apart : con.Apart) : (con.step action).Apart := by
  unfold Connector.step
  split
  case isTrue => exact apart
  case isFalse ready => exact con.perform_apart action (Bool.eq_false_iff.mpr ready) apart

theorem Connector.perform_sharp (apart : con.Apart) (running : con.stopping = false)
    (ready : con.waits action = false) (completes : con.Completes) :
    (con.perform action).CompletesOnce ↔ Undisturbed con action := by
  have exact' := completes.exactly
  have unblocked (engine : action ≠ .enginePurge) (handler : action ≠ .handlerPurge)
      (receives : action ≠ .receive) : ¬ (con.perform action).Blocked :=
    con.perform_unblocked action engine handler receives ready completes.unblocked
  have spared (engine : action ≠ .enginePurge) (handler : action ≠ .handlerPurge)
      (receives : action ≠ .receive) (kept : (con.perform action).Exact)
      (meant : Undisturbed con action) :
      (con.perform action).CompletesOnce ↔ Undisturbed con action :=
    iff_of_true (fun _ => ⟨kept, unblocked engine handler receives⟩) meant
  -- A running connector is guarded by what the condition says of the action.
  have guarded {condition : Prop} (same : (con.perform action).stopping = false)
      (sharp : (con.perform action).Completes ↔ condition)
      (meant : Undisturbed con action ↔
        (con.stopping = false → con.waits action = false → condition)) :
      (con.perform action).CompletesOnce ↔ Undisturbed con action := by
    rw [meant, ← sharp]
    exact ⟨fun once _ _ => once same, fun once _ => once running ready⟩
  cases action with
  | multisendUrl allocated posted =>
    exact spared nofun nofun nofun
      (multisendUrl_exact allocated posted running exact') fun _ _ => trivial
  | countTask =>
    exact spared nofun nofun nofun (countTask_exact exact') fun _ _ => trivial
  | giveStop =>
    exact spared nofun nofun nofun (giveStop_exact exact') fun _ _ => trivial
  | countStop =>
    refine iff_of_true (fun stillRunning => ?_) fun _ _ => trivial
    change con.countStop.stopping = false at stillRunning
    show con.countStop.Completes
    unfold Connector.countStop at stillRunning ⊢
    split at stillRunning
    case isTrue => cases stillRunning
    case isFalse uncounted =>
      rw [if_neg uncounted]
      exact completes
  | startEnginePurge =>
    exact spared nofun nofun nofun (startEnginePurge_exact exact') fun _ _ => trivial
  | enginePurge =>
    refine guarded ((con.purge_rest con.enginePurge).2.2.2.2.trans running) ?_ Iff.rfl
    rw [← enginePurge_exact running exact',
      ← enginePurge_blocked apart running ready completes.unblocked]
    exact ⟨fun completes => ⟨completes.exactly, completes.unblocked⟩,
      fun both => ⟨both.1, both.2⟩⟩
  | receive =>
    refine guarded ?_ ?_ Iff.rfl
    · show con.receive.stopping = false
      unfold Connector.receive
      split <;> exact running
    · have sharp := con.receive_blocked completes.unblocked
      constructor
      · intro completes
        by_contra taken
        exact completes.unblocked (sharp.mpr taken)
      · intro spared
        exact ⟨receive_exact exact', fun blocked => sharp.mp blocked spared⟩
  | begin =>
    exact spared nofun nofun nofun (begin_exact exact') fun _ _ => trivial
  | connect ret given =>
    exact spared nofun nofun nofun
      (connect_exact ret given running exact') fun _ _ => trivial
  | execute executed =>
    exact spared nofun nofun nofun
      (execute_exact executed running exact') fun _ _ => trivial
  | startHandlerPurge =>
    exact spared nofun nofun nofun (startHandlerPurge_exact exact') fun _ _ => trivial
  | handlerPurge =>
    refine guarded ((con.purge_rest con.handlerPurge).2.2.2.2.trans running) ?_ Iff.rfl
    rw [← handlerPurge_exact running exact',
      ← handlerPurge_blocked apart running ready completes.unblocked]
    exact ⟨fun completes => ⟨completes.exactly, completes.unblocked⟩,
      fun both => ⟨both.1, both.2⟩⟩
  | handlerReturns processStatus =>
    cases processStatus with
    | none =>
      exact spared nofun nofun nofun
        (handlerReturns_none_exact running exact') fun _ _ => trivial
    | some processStatus =>
      refine guarded ?_ ?_ Iff.rfl
      · show (con.handlerReturns (some processStatus)).stopping = false
        unfold Connector.handlerReturns
        split
        · dsimp only
          split <;> exact running
        · exact running
      · rw [← handlerReturns_some_exact processStatus exact']
        exact ⟨Connector.Completes.exactly, fun kept => ⟨kept, unblocked nofun nofun nofun⟩⟩
  | destroyChained =>
    exact spared nofun nofun nofun (destroyChained_exact exact') fun _ _ => trivial
  | release =>
    exact spared nofun nofun nofun (release_exact exact') fun _ _ => trivial
  | finish =>
    exact spared nofun nofun nofun (finish_exact exact') fun _ _ => trivial

/-- A step keeps one completion for each send exactly if it is undisturbed. -/
theorem Connector.step_sharp (apart : con.Apart) (completes : con.CompletesOnce) :
    (con.step action).CompletesOnce ↔ Undisturbed con action := by
  unfold Connector.step
  split
  case isTrue waits =>
    refine iff_of_true completes fun _ ready => ?_
    cases waits.symm.trans ready
  case isFalse ready =>
    cases stopping : con.stopping with
    | true =>
      refine iff_of_true (fun running => ?_) fun running => ?_
      · cases (perform_stopping action stopping).symm.trans running
      · cases stopping.symm.trans running
    | false =>
      exact perform_sharp action apart stopping (Bool.eq_false_iff.mpr ready)
        (completes stopping)

theorem Connector.initial_completesOnce : Connector.initial.CompletesOnce := fun _ =>
  ⟨exact_of (fun _ => rfl) rfl nofun, fun blocked => nomatch blocked.locked⟩

/-- Until a connector stops, no callback of a run is lost and every context is released once, if
and only if every step is undisturbed: a next task finds room, no purge takes one whose context is
still read, and none waits for a message that does not come. -/
theorem sends_complete_once (actions : List Action) :
    (∀ reached, reached <+: actions →
      (reached.foldl Connector.step Connector.initial).CompletesOnce) ↔
        Guarded Connector.step Undisturbed Connector.initial actions := by
  apply forall_prefix_iff_guarded Connector.Apart Connector.CompletesOnce
  · exact fun con action apart => con.step_apart action apart
  · exact fun con action apart completes => step_sharp action apart completes
  · exact nofun
  · exact initial_completesOnce

/-- A send whose handler makes a next task after ten others were sent. -/
def fullQueue : List Action :=
  let send : List Action := [.multisendUrl true true, .countTask]
  send ++ [.receive, .begin, .connect 0 true, .execute (.responds 0)] ++
    (List.replicate taskMessageQueueMax send).flatten ++ [.handlerReturns (some 0)]

/-- Nobody has the first context any more, and its callback was not called. -/
theorem chained_send_is_lost :
    ¬ ∀ reached, reached <+: fullQueue →
      (reached.foldl Connector.step Connector.initial).CompletesOnce := by
  intro all
  have exact' := (all fullQueue (prefix_refl _) (by decide +kernel)).exactly
  exact absurd (exact'.once 0) (by decide +kernel)

end Thingsee.Connectors
