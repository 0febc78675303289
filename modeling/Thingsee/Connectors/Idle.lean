import Thingsee.Connectors.Counting

/-!
Owns what a connector does when nothing is to do, and when it lets the device sleep.
`idle_connectors_rest` holds as long as the network thread starts no task that is not counted yet,
no request for a connection fails after an identifier was given, and no purge has the last task
while the network thread waits.
-/

namespace Thingsee.Connectors

open Support

variable {threads : Threads}

section

variable (counted : threads.Counted)
include counted

theorem Threads.Counted.receive : Threads.Counted { threads with con := threads.con.receive } := by
  unfold Connector.receive
  split
  case h_1 message rest idle queue =>
    have owes := counted.networkOwes_false fun _ chained => by rw [idle] at chained; cases chained
    have off := counted.handlerPurge_off fun handles => handles.ne_idle idle
    have count := counted.count
    have owed := counted.owed
    have room := counted.room
    rw [idle, queue, List.length_cons] at count owed
    rw [queue, List.length_cons] at room
    exact { counted with
      room := Nat.le_of_succ_le room
      count := count.trans (by rfl)
      owed := owed
      network := fun owed => absurd (owes.symm.trans owed) Bool.false_ne_true
      handler := fun purges => absurd off purges
      processing := by rw [counted.processing, idle]; rfl
      quiet := nofun
      ending := nofun }
  case h_2 => exact counted

theorem Threads.Counted.begin (ready : threads.con.waits .begin = false)
    (positive : ∀ message, threads.con.network = .received message → 0 < threads.con.mqTaskCount) :
    Threads.Counted
      { threads with
        con := threads.con.begin
        processingTask := processingAfter threads.con threads.processingTask .begin } := by
  unfold Connector.begin processingAfter
  cases network : threads.con.network with
  | received message =>
    obtain ⟨lower, upper⟩ := counted.small
    have some := positive message network
    have counts : (if threads.con.mqTaskCount < 2 then 0
        else taskCount (threads.con.mqTaskCount - 1)) = threads.con.mqTaskCount - 1 := by
      split
      · omega
      · exact taskCount_eq (by omega) (by omega)
    have unlocked : threads.con.locked ≠ true := fun locked =>
      Bool.noConfusion (Connector.waits_eq_false.mp ready locked)
    have owes := counted.networkOwes_false fun _ chained => by
      rw [network] at chained
      cases chained
    have off := counted.handlerPurge_off (by rw [network]; rintro ⟨_, _, handles⟩; cases handles)
    have count := counted.count
    have owed := counted.owed
    rw [network, off] at count
    rw [network] at owed
    -- A purge of the engine thread that holds a task leaves none to be counted.
    have left : threads.owed ≤ threads.con.queue.length := by
      by_cases purges : threads.con.enginePurge = .off
      · rw [purges] at count
        change threads.con.mqTaskCount + (threads.owed : Int) =
          threads.con.queue.length + ((1 : Nat) : Int) + ((0 : Nat) : Int) + ((0 : Nat) : Int)
          at count
        omega
      · have engineOwes : threads.engineOwes = false :=
          Bool.eq_false_iff.mpr fun owes => purges (counted.engine (.inl owes))
        have stop : threads.con.stopUncounted = false :=
          Bool.eq_false_iff.mpr fun stop => purges (counted.engine (.inr stop))
        unfold Threads.owed
        rw [engineOwes, stop, owes]
        exact Nat.zero_le _
    rw [counts]
    cases message with
    | stop | request =>
      exact { counted with
        count := by
          change threads.con.mqTaskCount + (threads.owed : Int) =
            threads.con.queue.length + ((1 : Nat) : Int) + threads.con.enginePurge.held +
              ((0 : Nat) : Int) at count
          show threads.con.mqTaskCount - 1 + (threads.owed : Int) =
            threads.con.queue.length + ((0 : Nat) : Int) + threads.con.enginePurge.held +
              threads.con.handlerPurge.held
          rw [off]
          change _ = (threads.con.queue.length : Int) + ((0 : Nat) : Int) +
            threads.con.enginePurge.held + ((0 : Nat) : Int)
          omega
        owed := left
        network := fun owed => absurd (owes.symm.trans owed) Bool.false_ne_true
        handler := fun purges => absurd off purges
        waiting := fun locked => absurd locked unlocked
        processing := rfl
        quiet := nofun
        ending := nofun }
  | idle | starting | executing | handling | chained | finishing | ending | stopping |
    ended =>
      exact counted

theorem Threads.Counted.proceed {network : Network} {connected processingTask : Bool}
    {called : List (Nat × Int)} {released : List Nat} (off : threads.con.handlerPurge = .off)
    (owes : threads.networkOwes = false) (held : network.held = threads.con.network.held)
    (processing : processingTask = network.processes)
    (quiet : network = .idle → threads.con.queue = [] →
      threads.con.enginePurge.held = 0 ∧ connected = false)
    (ending : network = .ending → threads.con.queue = [] → connected = false) :
    Threads.Counted
      { threads with
        con := { threads.con with network, connected, called, released }
        processingTask } :=
  { counted with
    count := by
      show threads.con.mqTaskCount + (threads.owed : Int) = threads.con.queue.length +
        network.held + threads.con.enginePurge.held + threads.con.handlerPurge.held
      rw [held]
      exact counted.count
    owed := by
      rw [held]
      exact counted.owed
    network := fun owed => absurd (owes.symm.trans owed) Bool.false_ne_true
    handler := fun purges => absurd off purges
    processing
    quiet
    ending }

theorem Threads.Counted.between (handles : ¬ threads.con.network.Handles)
    (chained : ∀ context, threads.con.network ≠ .chained context) :
    threads.con.handlerPurge = .off ∧ threads.networkOwes = false :=
  ⟨counted.handlerPurge_off handles, counted.networkOwes_false chained⟩

theorem Threads.Counted.connect (ret : Int) (given : Bool)
    (fails : ∀ context, threads.con.network = .starting context → threads.con.connected = false →
      ret < 0 → given = false) :
    Threads.Counted { threads with con := threads.con.connect ret given } := by
  unfold Connector.connect
  split
  case h_1 context starting =>
    obtain ⟨off, owes⟩ := counted.between (by rw [starting]; rintro ⟨_, _, handles⟩; cases handles)
      fun _ chained => by rw [starting] at chained; cases chained
    have held : threads.con.network.held = 0 := by rw [starting]; rfl
    have processing : threads.processingTask = true := by rw [counted.processing, starting]; rfl
    split
    case isTrue => exact counted.proceed off owes held.symm processing nofun nofun
    case isFalse disconnected =>
      split
      case isTrue failed =>
        exact counted.proceed off owes held.symm processing nofun fun _ _ =>
          fails context starting (Bool.eq_false_iff.mpr disconnected) failed
      case isFalse => exact counted.proceed off owes held.symm processing nofun nofun
  case h_2 => exact counted

theorem Threads.Counted.execute (executed : Executed) :
    Threads.Counted { threads with con := threads.con.execute executed } := by
  have processing {context : Context} (executing : threads.con.network = .executing context) :
      threads.con.handlerPurge = .off ∧ threads.networkOwes = false ∧
        threads.con.network.held = 0 ∧ threads.processingTask = true := by
    obtain ⟨off, owes⟩ := counted.between (by rw [executing]; rintro ⟨_, _, handles⟩; cases handles)
      fun _ chained => by rw [executing] at chained; cases chained
    exact ⟨off, owes, by rw [executing]; rfl, by rw [counted.processing, executing]; rfl⟩
  unfold Connector.execute
  split
  case h_1 context ret executing =>
    obtain ⟨off, owes, held, task⟩ := processing executing
    exact counted.proceed off owes held.symm task nofun nofun
  case h_2 context ret executing =>
    obtain ⟨off, owes, held, task⟩ := processing executing
    exact counted.proceed off owes held.symm task nofun nofun
  case h_3 => exact counted

theorem Threads.Counted.chain (context : Context) {ret : Int}
    (handling : threads.con.network = .handling context ret) (off : threads.con.handlerPurge = .off)
    (room : threads.con.hasRoom = true) (next : Context) :
    Threads.Counted
      { threads with
        con := { threads.con with
          queue := threads.con.queue ++ [.request next]
          uncounted := threads.con.uncounted + 1
          network := .chained context }
        networkOwes := true } := by
  have owes := counted.networkOwes_false fun _ chained => by rw [handling] at chained; cases chained
  have uncounted := counted.uncounted
  have count := counted.count
  have owed := counted.owed
  unfold Threads.owed at count owed
  rw [owes] at uncounted
  rw [owes, handling] at count owed
  simp only [Bool.toNat_false, Network.held, Nat.add_zero, Int.add_zero, Nat.cast_zero]
    at uncounted count owed
  exact { counted with
    room := Connector.length_append room _
    uncounted := by
      show threads.con.uncounted + 1 = threads.engineOwes.toNat + 1
      rw [uncounted]
    count := by
      show threads.con.mqTaskCount + ((threads.engineOwes.toNat + 1 +
        threads.con.stopUncounted.toNat : Nat) : Int) = ((threads.con.queue ++ [_]).length : Int) +
          ((0 : Nat) : Int) + threads.con.enginePurge.held + threads.con.handlerPurge.held
      rw [List.length_append, List.length_singleton]
      omega
    owed := by
      show threads.engineOwes.toNat + 1 + threads.con.stopUncounted.toNat ≤
        (threads.con.queue ++ [_]).length + 0
      rw [List.length_append, List.length_singleton]
      omega
    network := fun _ => ⟨context, rfl⟩
    handler := fun purges => absurd off purges
    processing := by rw [counted.processing, handling]; rfl
    quiet := by intro idle; cases idle
    ending := by intro ending; cases ending }

theorem Threads.Counted.handlerReturns (next : Option Int) :
    Threads.Counted
      { threads with
        con := threads.con.handlerReturns next
        networkOwes := owesAfter threads.con threads.networkOwes (.handlerReturns next) } := by
  change Threads.Counted
    { threads with
      con := threads.con.handlerReturns next
      networkOwes := threads.networkOwes ||
        decide (threads.con.uncounted < (threads.con.handlerReturns next).uncounted) }
  have unchanged : (threads.networkOwes || decide (threads.con.uncounted < threads.con.uncounted)) =
      threads.networkOwes := by
    rw [decide_eq_false (Nat.lt_irrefl _), Bool.or_false]
  unfold Connector.handlerReturns
  split
  case h_1 context ret handling off =>
    have owes := counted.networkOwes_false fun _ chained => by
      rw [handling] at chained
      cases chained
    have held : threads.con.network.held = 0 := by rw [handling]; rfl
    have processing : threads.processingTask = true := by rw [counted.processing, handling]; rfl
    cases next with
    | none =>
      show Threads.Counted
        { threads with
          con := { threads.con.completeTaskWorkflow context ret with network := .finishing }
          networkOwes := threads.networkOwes ||
            decide (threads.con.uncounted < threads.con.uncounted) }
      rw [unchanged]
      exact counted.proceed off owes held.symm processing nofun nofun
    | some processStatus =>
      dsimp only
      split
      case isTrue room =>
        rw [owes, Bool.false_or, decide_eq_true (Nat.lt_succ_self _)]
        exact counted.chain context handling off room _
      case isFalse =>
        rw [unchanged]
        exact counted.proceed off owes held.symm processing nofun nofun
  case h_2 =>
    rw [unchanged]
    exact counted

theorem Threads.Counted.destroyChained (owes : threads.networkOwes = false) :
    Threads.Counted { threads with con := threads.con.destroyChained } := by
  unfold Connector.destroyChained
  split
  case h_1 context chained =>
    have off := counted.handlerPurge_off (by rw [chained]; rintro ⟨_, _, handles⟩; cases handles)
    exact counted.proceed off owes (by rw [chained]; rfl) (by rw [counted.processing, chained]; rfl)
      nofun nofun
  case h_2 => exact counted

theorem Threads.Counted.release
    (alone : threads.con.network = .finishing → threads.con.queue = [] →
      threads.con.enginePurge.held = 0) :
    Threads.Counted { threads with con := threads.con.release } := by
  unfold Connector.release
  split
  case h_1 finishing =>
    obtain ⟨off, owes⟩ := counted.between
      (by rw [finishing]; rintro ⟨_, _, handles⟩; cases handles)
      fun _ chained => by rw [finishing] at chained; cases chained
    refine counted.proceed off owes (by rw [finishing]; rfl)
      (by rw [counted.processing, finishing]; rfl) nofun fun _ empty => ?_
    have count := counted.count
    have owed := counted.owed
    rw [empty, finishing] at owed
    rw [empty, finishing, alone finishing empty, off, Nat.le_zero.mp owed] at count
    have zero : threads.con.mqTaskCount = 0 := by simpa [Network.held, Purge.held] using count
    rw [zero]
    exact Bool.and_false _
  case h_2 => exact counted

theorem Threads.Counted.finish
    (alone : threads.con.network = .ending → threads.con.queue = [] →
      threads.con.enginePurge.held = 0) :
    Threads.Counted
      { threads with
        con := threads.con.finish
        processingTask := processingAfter threads.con threads.processingTask .finish } := by
  unfold Connector.finish processingAfter
  cases network : threads.con.network with
  | ending =>
    obtain ⟨off, owes⟩ := counted.between
      (by rw [network]; rintro ⟨_, _, handles⟩; cases handles)
      fun _ chained => by rw [network] at chained; cases chained
    exact counted.proceed off owes (by rw [network]; rfl) rfl
      (fun _ empty => ⟨alone network empty, counted.ending network empty⟩) nofun
  | stopping =>
    obtain ⟨off, owes⟩ := counted.between
      (by rw [network]; rintro ⟨_, _, handles⟩; cases handles)
      fun _ chained => by rw [network] at chained; cases chained
    exact counted.proceed off owes (by rw [network]; rfl) rfl nofun nofun
  | _ => exact counted

end

theorem owesAfter_same {con : Connector} {owes : Bool} {action : Action}
    (counts : action ≠ .countTask) (same : (con.perform action).uncounted = con.uncounted) :
    owesAfter con owes action = owes := by
  unfold owesAfter
  split
  case h_1 => exact absurd rfl counts
  case h_2 =>
    rw [same, decide_eq_false (Nat.lt_irrefl _), Bool.or_false]

theorem Threads.performed_counted (threads : Threads) (action : Action)
    (counts : action ≠ .countTask)
    (same : (threads.con.perform action).uncounted = threads.con.uncounted)
    (next : Threads.Counted
      { threads with
        con := threads.con.perform action
        processingTask := processingAfter threads.con threads.processingTask action })
    (thread : Thread) :
    Threads.Counted
      { con := threads.con.perform action
        engineOwes := match thread with
          | .engine => owesAfter threads.con threads.engineOwes action
          | .network => threads.engineOwes
        networkOwes := match thread with
          | .network => owesAfter threads.con threads.networkOwes action
          | .engine => threads.networkOwes
        processingTask := processingAfter threads.con threads.processingTask action } := by
  rw [owesAfter_same counts same, owesAfter_same counts same]
  cases thread with
  | engine | network => exact next

theorem Connector.purge_uncounted (con : Connector) (purge : Purge) :
    (con.purge purge).1.uncounted = con.uncounted := by
  have purges := con.purge_purges purge
  generalize con.purge purge = result at purges ⊢
  cases purges with
  | ends | waits | takes | drops | completes | removes => rfl

theorem Threads.Counted.multisendUrl (counted : threads.Counted) (allocated posted : Bool)
    (free : threads.engineFree = true) :
    Threads.Counted
      { threads with
        con := threads.con.multisendUrl allocated posted
        engineOwes :=
          owesAfter threads.con threads.engineOwes (.multisendUrl allocated posted) } := by
  have owes := (Threads.engineFree_iff.mp free).1
  have nothing : decide (threads.con.uncounted < threads.con.uncounted) = false :=
    decide_eq_false (Nat.lt_irrefl _)
  show Threads.Counted
    { threads with
      con := threads.con.multisendUrl allocated posted
      engineOwes := threads.engineOwes ||
        decide (threads.con.uncounted < (threads.con.multisendUrl allocated posted).uncounted) }
  unfold Connector.multisendUrl
  split
  case isFalse =>
    rw [nothing, Bool.or_false]
    exact counted
  case isTrue =>
    split
    case isTrue room =>
      rw [owes, Bool.false_or, decide_eq_true (Nat.lt_succ_self _)]
      exact counted.post _ _ free (Bool.and_eq_true_iff.mp room).2
    case isFalse =>
      show Threads.Counted
        { threads with
          con := { threads.con with created := threads.con.created + 1 }.completeTaskWorkflow
            ⟨threads.con.created, 0⟩ error
          engineOwes := threads.engineOwes ||
            decide (threads.con.uncounted < threads.con.uncounted) }
      rw [nothing, Bool.or_false]
      exact { counted with }

theorem Threads.Counted.counts (counted : threads.Counted) {engineOwes networkOwes : Bool}
    (one : threads.engineOwes.toNat + threads.networkOwes.toNat =
      engineOwes.toNat + networkOwes.toNat + 1)
    (engine : engineOwes = true → threads.engineOwes = true)
    (network : networkOwes = true → threads.networkOwes = true) :
    Threads.Counted { threads with con := threads.con.countTask, engineOwes, networkOwes } := by
  have uncounted : threads.con.uncounted = engineOwes.toNat + networkOwes.toNat + 1 :=
    counted.uncounted.trans one
  unfold Connector.countTask
  rw [uncounted]
  exact counted.countTask uncounted one engine network

theorem Threads.Counted.step (counted : threads.Counted) (turn : Turn)
    (settles : Settles threads turn) : (threads.step turn).Counted := by
  unfold Threads.step
  split
  case isFalse => exact counted
  case isTrue ready =>
    obtain ⟨able, waits⟩ := Bool.and_eq_true_iff.mp ready
    rw [Bool.not_eq_true'] at waits
    have settled := settles able waits
    obtain ⟨thread, action⟩ := turn
    cases thread with
    | engine =>
      cases action with
      | multisendUrl allocated posted => exact counted.multisendUrl allocated posted able
      | countTask =>
        have owes : threads.engineOwes = true := able
        refine counted.counts ?_ nofun id
        show threads.engineOwes.toNat + threads.networkOwes.toNat =
          0 + threads.networkOwes.toNat + 1
        rw [owes]
        simp only [Bool.toNat_true]
        omega
      | giveStop =>
        refine threads.performed_counted .giveStop (by decide) ?_ (counted.giveStop able)
          .engine
        show threads.con.giveStop.uncounted = _
        unfold Connector.giveStop
        split <;> rfl
      | countStop =>
        refine threads.performed_counted .countStop (by decide) ?_ counted.countStop .engine
        show threads.con.countStop.uncounted = _
        unfold Connector.countStop
        split <;> rfl
      | startEnginePurge =>
        exact threads.performed_counted .startEnginePurge (by decide) rfl
          (counted.startEnginePurge able) .engine
      | enginePurge =>
        exact threads.performed_counted .enginePurge (by decide) (threads.con.purge_uncounted _)
          (counted.enginePurge waits settled) .engine
      | receive | begin | connect | execute | startHandlerPurge | handlerPurge | handlerReturns
      | destroyChained | release | finish => cases able
    | network =>
      cases action with
      | countTask =>
        have owes : threads.networkOwes = true := able
        refine counted.counts ?_ id nofun
        show threads.engineOwes.toNat + threads.networkOwes.toNat =
          threads.engineOwes.toNat + 0 + 1
        rw [owes]
        rfl
      | receive =>
        refine threads.performed_counted .receive (by decide) ?_ counted.receive .network
        show threads.con.receive.uncounted = _
        unfold Connector.receive
        split <;> rfl
      | begin =>
        refine threads.performed_counted .begin (by decide) ?_ (counted.begin waits settled)
          .network
        show threads.con.begin.uncounted = _
        unfold Connector.begin
        split <;> rfl
      | connect ret given =>
        refine threads.performed_counted (.connect ret given) nofun ?_
          (counted.connect ret given settled) .network
        show (threads.con.connect ret given).uncounted = _
        unfold Connector.connect
        split
        case h_1 => split <;> (try split) <;> rfl
        case h_2 => rfl
      | execute executed =>
        refine threads.performed_counted (.execute executed) nofun ?_
          (counted.execute executed) .network
        show (threads.con.execute executed).uncounted = _
        unfold Connector.execute
        split <;> rfl
      | startHandlerPurge =>
        refine threads.performed_counted .startHandlerPurge (by decide) ?_
          counted.startHandlerPurge .network
        show threads.con.startHandlerPurge.uncounted = _
        unfold Connector.startHandlerPurge
        split <;> rfl
      | handlerPurge =>
        exact threads.performed_counted .handlerPurge (by decide) (threads.con.purge_uncounted _)
          (counted.handlerPurge waits) .network
      | handlerReturns next => exact counted.handlerReturns next
      | destroyChained =>
        have owes : (!threads.networkOwes) = true := able
        rw [Bool.not_eq_true'] at owes
        refine threads.performed_counted .destroyChained (by decide) ?_
          (counted.destroyChained owes) .network
        show threads.con.destroyChained.uncounted = _
        unfold Connector.destroyChained
        split <;> rfl
      | release =>
        refine threads.performed_counted .release (by decide) ?_ (counted.release settled)
          .network
        show threads.con.release.uncounted = _
        unfold Connector.release
        split <;> rfl
      | finish =>
        refine threads.performed_counted .finish (by decide) ?_ (counted.finish settled) .network
        show threads.con.finish.uncounted = _
        unfold Connector.finish
        split <;> rfl
      | multisendUrl | giveStop | countStop | startEnginePurge | enginePurge => cases able

theorem Threads.initial_counted : Threads.initial.Counted where
  room := by decide
  uncounted := rfl
  count := rfl
  owed := Nat.le_refl 0
  apart := nofun
  engine := fun _ => rfl
  network := nofun
  handler := fun purges => absurd rfl purges
  waiting := nofun
  processing := rfl
  quiet := fun _ _ => ⟨rfl, rfl⟩
  ending := nofun

/-- A connector that has nothing to do counts nothing and holds no connection, and the device stays
awake for a task, as long as each step `Settles`. -/
theorem idle_connectors_rest (turns : List Turn)
    (settled : Guarded Threads.step Settles Threads.initial turns) :
    (turns.foldl Threads.step Threads.initial).Rests :=
  (foldl_invariant Threads.Counted (fun _ turn counted settles => counted.step turn settles)
    Threads.initial_counted settled).rests

/-- A task is sent, and its response has been handled. -/
def oneTask : List Turn :=
  [⟨.engine, .multisendUrl true true⟩, ⟨.engine, .countTask⟩, ⟨.network, .receive⟩,
    ⟨.network, .begin⟩, ⟨.network, .connect 0 true⟩, ⟨.network, .execute (.responds 0)⟩,
    ⟨.network, .handlerReturns none⟩, ⟨.network, .release⟩, ⟨.network, .finish⟩]

theorem one_task_rests :
    Guarded Threads.step Settles Threads.initial oneTask ∧
      (oneTask.foldl Threads.step Threads.initial).Rests := by
  have settled : Guarded Threads.step Settles Threads.initial oneTask := by
    refine ⟨fun _ _ => trivial, fun _ _ => trivial, fun _ _ => trivial, fun _ _ _ _ => ?_,
      fun _ _ _ _ _ failed => ?_, fun _ _ => trivial, fun _ _ => trivial,
      fun _ _ _ _ => rfl, fun _ _ _ _ => rfl, trivial⟩
    · decide
    · cases failed
  exact ⟨settled, idle_connectors_rest oneTask settled⟩

/-- The network thread has received a task and has started it before the engine thread counts it.
When all is done the task is still counted, and the connection is held. -/
def overtaken : List Turn :=
  [⟨.engine, .multisendUrl true true⟩, ⟨.network, .receive⟩, ⟨.network, .begin⟩,
    ⟨.engine, .countTask⟩, ⟨.network, .connect 0 true⟩, ⟨.network, .execute (.responds 0)⟩,
    ⟨.network, .handlerReturns none⟩, ⟨.network, .release⟩, ⟨.network, .finish⟩]

theorem overtaken_task_stays_counted :
    ¬ ∀ turns : List Turn, (turns.foldl Threads.step Threads.initial).Rests := by
  intro rests
  have idle := (rests overtaken).idle rfl ⟨rfl, rfl, rfl⟩ rfl
  have counted : (overtaken.foldl Threads.step Threads.initial).con.mqTaskCount = 1 := by decide
  rw [counted] at idle
  exact absurd idle.1 (by decide)

end Thingsee.Connectors
