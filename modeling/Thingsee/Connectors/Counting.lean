import Thingsee.Connectors.Completion

/-!
Owns what a connector counts. Here the engine thread and the network thread each take their steps
in their own order: a thread that has put a task into the queue counts it before it goes on.
`Threads.Counted` is what the counter, the queue and the threads have to do with each other; this
module keeps it for the engine thread and for both purges.
-/

namespace Thingsee.Connectors

open Support List

inductive Thread where
  | engine
  | network

/-- The connector with its two threads. `engineOwes` and `networkOwes` tell that a thread has still
to count a task that it has put into the queue. -/
structure Threads where
  con : Connector
  engineOwes : Bool
  networkOwes : Bool
  processingTask : Bool

structure Turn where
  thread : Thread
  action : Action

def Threads.engineFree (threads : Threads) : Bool :=
  !threads.engineOwes && !threads.con.stopUncounted && threads.con.enginePurge == .off

def Threads.able (threads : Threads) (turn : Turn) : Bool :=
  match turn.thread, turn.action with
  | .engine, .multisendUrl _ _ | .engine, .giveStop | .engine, .startEnginePurge =>
    threads.engineFree
  | .engine, .countTask => threads.engineOwes
  | .engine, .countStop | .engine, .enginePurge => true
  | .network, .countTask => threads.networkOwes
  | .network, .receive | .network, .begin | .network, .connect _ _ | .network, .execute _
  | .network, .startHandlerPurge | .network, .handlerPurge | .network, .handlerReturns _
  | .network, .destroyChained | .network, .release | .network, .finish => !threads.networkOwes
  | _, _ => false

/-- `processing_task` is set when a task is counted, and cleared at the end of the loop. -/
def processingAfter (con : Connector) (processingTask : Bool) : Action → Bool
  | .begin => match con.network with
    | .received _ => true
    | _ => processingTask
  | .finish => match con.network with
    | .ending | .stopping => false
    | _ => processingTask
  | _ => processingTask

def owesAfter (con : Connector) (owes : Bool) (action : Action) : Bool :=
  match action with
  | .countTask => false
  | _ => owes || decide (con.uncounted < (con.perform action).uncounted)

def Threads.step (threads : Threads) (turn : Turn) : Threads :=
  if threads.able turn && !threads.con.waits turn.action then
    { con := threads.con.perform turn.action
      engineOwes := match turn.thread with
        | .engine => owesAfter threads.con threads.engineOwes turn.action
        | .network => threads.engineOwes
      networkOwes := match turn.thread with
        | .network => owesAfter threads.con threads.networkOwes turn.action
        | .engine => threads.networkOwes
      processingTask := processingAfter threads.con threads.processingTask turn.action }
  else threads

def Threads.initial : Threads := ⟨Connector.initial, false, false, false⟩

def Threads.deepsleepAllowed (threads : Threads) : Bool :=
  !(decide (0 < threads.con.mqTaskCount) || threads.processingTask)

def Network.busy : Network → Bool
  | .idle | .ended => false
  | _ => true

/-- No send is between its post and its counter update. -/
def Threads.Posted (threads : Threads) : Prop :=
  threads.engineOwes = false ∧ threads.networkOwes = false ∧ threads.con.stopUncounted = false

/-- Nothing is counted and no connection is held while nothing is to do, and the device stays awake
for a task. -/
structure Threads.Rests (threads : Threads) : Prop where
  idle : threads.con.queue = [] → threads.Posted → threads.con.network = .idle →
    threads.con.mqTaskCount = 0 ∧ threads.processingTask = false ∧
      threads.con.connected = false ∧ threads.deepsleepAllowed = true
  awake : threads.engineOwes = false → threads.con.stopUncounted = false →
    threads.con.queue ≠ [] ∨ threads.con.network.busy = true → threads.deepsleepAllowed = false

def Purge.held : Purge → Nat
  | .completing _ | .removing => 1
  | _ => 0

def Connector.takes (con : Connector) (purge : Purge) : Prop :=
  purge = .waiting ∨ purge = .looking ∧ con.stopping = false ∧ 0 < con.mqTaskCount

/-- The network thread starts counted tasks, an identifier of a connection is given to a request
that succeeds, and no purge has the last task while the network thread waits or decides about its
connection. -/
def Settles (threads : Threads) (turn : Turn) : Prop :=
  threads.able turn = true → threads.con.waits turn.action = false →
    match turn.action with
    | .begin => ∀ message, threads.con.network = .received message → 0 < threads.con.mqTaskCount
    | .connect ret given => ∀ context, threads.con.network = .starting context →
        threads.con.connected = false → ret < 0 → given = false
    | .enginePurge => threads.con.takes threads.con.enginePurge →
        threads.con.network = .idle ∨
          threads.con.network = .ending ∧ threads.con.connected = true →
        threads.con.queue.length ≠ 1
    | .release => threads.con.network = .finishing → threads.con.queue = [] →
        threads.con.enginePurge.held = 0
    | .finish => threads.con.network = .ending → threads.con.queue = [] →
        threads.con.enginePurge.held = 0
    | _ => True

/-- How many tasks the network thread has received and not yet counted. -/
def Network.held : Network → Nat
  | .received _ => 1
  | _ => 0

def Threads.owed (threads : Threads) : Nat :=
  threads.engineOwes.toNat + threads.networkOwes.toNat + threads.con.stopUncounted.toNat

/-- Whether `processing_task` is set. -/
def Network.processes : Network → Bool
  | .idle | .received _ | .ended => false
  | _ => true

def Network.Handles (network : Network) : Prop := ∃ context ret, network = .handling context ret

/-- The counter counts the tasks of the queue and those that were received from it, but not those
that their thread has still to count. -/
structure Threads.Counted (threads : Threads) : Prop where
  room : threads.con.queue.length ≤ taskMessageQueueMax
  uncounted : threads.con.uncounted = threads.engineOwes.toNat + threads.networkOwes.toNat
  count : threads.con.mqTaskCount + threads.owed =
    threads.con.queue.length + threads.con.network.held + threads.con.enginePurge.held +
      threads.con.handlerPurge.held
  owed : threads.owed ≤ threads.con.queue.length + threads.con.network.held
  apart : threads.con.Apart
  engine : threads.engineOwes = true ∨ threads.con.stopUncounted = true →
    threads.con.enginePurge = .off
  network : threads.networkOwes = true → ∃ context, threads.con.network = .chained context
  handler : threads.con.handlerPurge ≠ .off → threads.con.network.Handles
  waiting : threads.con.locked = true → 0 < threads.con.mqTaskCount
  processing : threads.processingTask = threads.con.network.processes
  quiet : threads.con.network = .idle → threads.con.queue = [] →
    threads.con.enginePurge.held = 0 ∧ threads.con.connected = false
  ending : threads.con.network = .ending → threads.con.queue = [] → threads.con.connected = false

variable {threads : Threads}

/-! ## The count -/

theorem Purge.held_le (purge : Purge) : purge.held ≤ 1 := by
  cases purge with
  | completing | removing => exact Nat.le_refl 1
  | off | looking | waiting => exact Nat.zero_le 1

theorem Network.Handles.ne_idle {network : Network} (handles : network.Handles) :
    network ≠ .idle := by
  obtain ⟨context, ret, rfl⟩ := handles
  exact nofun

theorem Threads.Counted.handlerPurge_off (counted : threads.Counted)
    (elsewhere : ¬ threads.con.network.Handles) : threads.con.handlerPurge = .off := by
  by_contra purges
  exact elsewhere (counted.handler purges)

theorem Threads.Counted.networkOwes_false (counted : threads.Counted)
    (elsewhere : ∀ context, threads.con.network ≠ .chained context) :
    threads.networkOwes = false := by
  by_contra owes
  obtain ⟨context, chained⟩ := counted.network (Bool.eq_true_of_not_eq_false owes)
  exact elsewhere context chained

/-- A counted connector rests while nothing is to do. -/
theorem Threads.Counted.rests (counted : threads.Counted) : threads.Rests := by
  constructor
  · rintro empty ⟨engineOwes, networkOwes, stop⟩ idle
    obtain ⟨engineHeld, disconnected⟩ := counted.quiet idle empty
    have handlerHeld : threads.con.handlerPurge.held = 0 := by
      rw [counted.handlerPurge_off fun handles => handles.ne_idle idle]
      rfl
    have count := counted.count
    unfold Threads.owed at count
    rw [empty, engineOwes, networkOwes, stop, idle, engineHeld, handlerHeld] at count
    have zero : threads.con.mqTaskCount = 0 := by simpa [Network.held] using count
    have processing := counted.processing
    rw [idle] at processing
    refine ⟨zero, processing, disconnected, ?_⟩
    unfold Threads.deepsleepAllowed
    rw [zero, processing]
    rfl
  · intro engineOwes stop task
    unfold Threads.deepsleepAllowed
    by_cases processes : threads.con.network.processes = true
    · rw [counted.processing, processes, Bool.or_true]
      rfl
    have counts : 0 < threads.con.mqTaskCount := by
      have networkOwes : threads.networkOwes = false :=
        counted.networkOwes_false fun context chained => processes (by rw [chained]; rfl)
      have count := counted.count
      unfold Threads.owed at count
      rw [engineOwes, networkOwes, stop] at count
      have some : 0 < threads.con.queue.length + threads.con.network.held := by
        rcases task with queued | busy
        · exact Nat.add_pos_left (length_pos_iff.mpr queued) _
        · cases state : threads.con.network with
          | received message => exact Nat.succ_pos _
          | idle | ended => rw [state] at busy; cases busy
          | starting | executing | handling | chained | finishing | ending |
            stopping =>
              rw [state] at processes
              exact absurd rfl processes
      change threads.con.mqTaskCount + ((0 : Nat) : Int) = _ at count
      omega
    rw [decide_eq_true counts]
    rfl

theorem taskCount_eq {count : Int} (lower : -128 ≤ count) (upper : count < 128) :
    taskCount count = count :=
  toSigned_of_range 7 lower upper

/-- The count stays far inside of the range of its type. -/
theorem Threads.Counted.small (counted : threads.Counted) :
    0 ≤ threads.con.mqTaskCount ∧ threads.con.mqTaskCount ≤ 13 := by
  have room := counted.room
  have count := counted.count
  have owed := counted.owed
  have engineHeld := threads.con.enginePurge.held_le
  have handlerHeld := threads.con.handlerPurge.held_le
  have held : threads.con.network.held ≤ 1 := by
    cases threads.con.network with
    | received message => exact Nat.le_refl 1
    | idle | starting | executing | handling | chained | finishing | ending | stopping |
      ended =>
        exact Nat.zero_le 1
  unfold taskMessageQueueMax at room
  omega

theorem Threads.engineFree_iff :
    threads.engineFree = true ↔ threads.engineOwes = false ∧ threads.con.stopUncounted = false ∧
      threads.con.enginePurge = .off := by
  unfold Threads.engineFree
  rw [Bool.and_eq_true, Bool.and_eq_true, Bool.not_eq_true', Bool.not_eq_true', beq_iff_eq,
    and_assoc]

theorem Connector.length_append {con : Connector} (room : con.hasRoom = true) (message : Message) :
    (con.queue ++ [message]).length ≤ taskMessageQueueMax := by
  rw [List.length_append, List.length_singleton]
  exact of_decide_eq_true room

theorem ne_nil_of_append (queue : List Message) (message : Message) : queue ++ [message] ≠ [] :=
  append_ne_nil_of_right_ne_nil queue (cons_ne_nil message [])

/-! ## Posting and counting -/

/-- A posted request is still to be counted by the engine. -/
theorem Threads.Counted.post (counted : threads.Counted) (context : Context) (created : Nat)
    (free : threads.engineFree = true) (room : threads.con.hasRoom = true) :
    Threads.Counted
      { threads with
        con := { threads.con with
          created := created
          queue := threads.con.queue ++ [.request context]
          uncounted := threads.con.uncounted + 1 }
        engineOwes := true } := by
  obtain ⟨owes, stop, off⟩ := Threads.engineFree_iff.mp free
  have uncounted := counted.uncounted
  have count := counted.count
  have owed := counted.owed
  unfold Threads.owed at count owed
  rw [owes, stop] at count owed
  rw [owes] at uncounted
  exact { counted with
    room := Connector.length_append room _
    uncounted := by
      show threads.con.uncounted + 1 = 1 + threads.networkOwes.toNat
      rw [uncounted]
      simp only [Bool.toNat_false]
      omega
    count := by
      show threads.con.mqTaskCount + ((1 + threads.networkOwes.toNat +
        threads.con.stopUncounted.toNat : Nat) : Int) = ((threads.con.queue ++ [_]).length : Int) +
          threads.con.network.held + _ + _
      rw [List.length_append, List.length_singleton, stop]
      simp only [Bool.toNat_false, Nat.zero_add, Nat.add_zero] at count ⊢
      omega
    owed := by
      show 1 + threads.networkOwes.toNat + threads.con.stopUncounted.toNat ≤
        (threads.con.queue ++ [_]).length + threads.con.network.held
      rw [List.length_append, List.length_singleton, stop]
      simp only [Bool.toNat_false, Nat.zero_add, Nat.add_zero] at owed ⊢
      omega
    engine := fun _ => off
    quiet := fun _ empty => absurd empty (ne_nil_of_append _ _)
    ending := fun _ empty => absurd empty (ne_nil_of_append _ _) }

theorem Threads.Counted.giveStop (counted : threads.Counted) (free : threads.engineFree = true) :
    Threads.Counted { threads with con := threads.con.giveStop } := by
  unfold Connector.giveStop
  split
  case isFalse => exact counted
  case isTrue room =>
    obtain ⟨owes, stop, off⟩ := Threads.engineFree_iff.mp free
    have count := counted.count
    have owed := counted.owed
    unfold Threads.owed at count owed
    rw [owes, stop] at count owed
    exact { counted with
      room := Connector.length_append room _
      count := by
        show threads.con.mqTaskCount + ((threads.engineOwes.toNat + threads.networkOwes.toNat +
          1 : Nat) : Int) = ((threads.con.queue ++ [_]).length : Int) +
            threads.con.network.held + _ + _
        rw [List.length_append, List.length_singleton, owes]
        simp only [Bool.toNat_false, Nat.zero_add, Nat.add_zero] at count ⊢
        omega
      owed := by
        show threads.engineOwes.toNat + threads.networkOwes.toNat + 1 ≤
          (threads.con.queue ++ [_]).length + threads.con.network.held
        rw [List.length_append, List.length_singleton, owes]
        simp only [Bool.toNat_false, Nat.zero_add, Nat.add_zero] at owed ⊢
        omega
      engine := fun _ => off
      quiet := fun _ empty => absurd empty (ne_nil_of_append _ _)
      ending := fun _ empty => absurd empty (ne_nil_of_append _ _) }

theorem Threads.Counted.countStop (counted : threads.Counted) :
    Threads.Counted { threads with con := threads.con.countStop } := by
  unfold Connector.countStop
  split
  case isFalse => exact counted
  case isTrue stop =>
    obtain ⟨lower, upper⟩ := counted.small
    have grows : taskCount (threads.con.mqTaskCount + 1) = threads.con.mqTaskCount + 1 :=
      taskCount_eq (by omega) (by omega)
    have count := counted.count
    have owed := counted.owed
    unfold Threads.owed at count owed
    rw [stop] at count owed
    exact { counted with
      count := by
        show taskCount (threads.con.mqTaskCount + 1) + ((threads.engineOwes.toNat +
          threads.networkOwes.toNat + 0 : Nat) : Int) = _
        rw [grows]
        change threads.con.mqTaskCount + ((threads.engineOwes.toNat +
          threads.networkOwes.toNat + 1 : Nat) : Int) = _ at count
        refine Eq.trans ?_ count
        omega
      owed := Nat.le_trans (Nat.add_le_add_left (Nat.zero_le 1) _) owed
      engine := fun owes => owes.elim (fun owes => counted.engine (.inl owes)) nofun
      waiting := fun locked => by
        have before := counted.waiting locked
        show 0 < taskCount (threads.con.mqTaskCount + 1)
        rw [grows]
        omega }

/-- Counting a task settles one of the owed counts. -/
theorem Threads.Counted.countTask (counted : threads.Counted) {left : Nat} {engineOwes : Bool}
    {networkOwes : Bool} (uncounted : threads.con.uncounted = left + 1)
    (one : threads.engineOwes.toNat + threads.networkOwes.toNat =
      engineOwes.toNat + networkOwes.toNat + 1)
    (engine : engineOwes = true → threads.engineOwes = true)
    (network : networkOwes = true → threads.networkOwes = true) :
    Threads.Counted
      { threads with
        con := { threads.con with
          uncounted := left
          mqTaskCount := taskCount (threads.con.mqTaskCount + 1) }
        engineOwes, networkOwes } := by
  obtain ⟨lower, upper⟩ := counted.small
  have grows : taskCount (threads.con.mqTaskCount + 1) = threads.con.mqTaskCount + 1 :=
    taskCount_eq (by omega) (by omega)
  have count := counted.count
  have owed := counted.owed
  have total := counted.uncounted
  unfold Threads.owed at count owed
  rw [one] at count owed total
  exact { counted with
    uncounted := Nat.succ.inj (uncounted.symm.trans total)
    count := by
      show taskCount (threads.con.mqTaskCount + 1) + ((engineOwes.toNat + networkOwes.toNat +
        threads.con.stopUncounted.toNat : Nat) : Int) = _
      rw [grows]
      refine Eq.trans ?_ count
      omega
    owed := by
      show engineOwes.toNat + networkOwes.toNat + threads.con.stopUncounted.toNat ≤
        threads.con.queue.length + threads.con.network.held
      omega
    engine := fun owes => counted.engine (owes.imp_left engine)
    network := fun owes => counted.network (network owes)
    waiting := fun locked => by
      have before := counted.waiting locked
      show 0 < taskCount (threads.con.mqTaskCount + 1)
      rw [grows]
      omega }

inductive Purges (con : Connector) : Purge → Connector × Purge → Prop where
  | ends (purge : Purge) (nothing : purge.held = 0) : Purges con purge (con, .off)
  | waits (purge : Purge) (nothing : purge.held = 0)
      (counted : con.takes purge) : Purges con purge (con, .waiting)
  | takes (purge : Purge) (nothing : purge.held = 0) (context : Context) (rest : List Message)
      (queue : con.queue = .request context :: rest) (taking : con.takes purge) :
      Purges con purge ({ con with queue := rest }, .completing context)
  | drops (purge : Purge) (nothing : purge.held = 0) (rest : List Message)
      (queue : con.queue = .stop :: rest) (taking : con.takes purge) :
      Purges con purge
        ({ con with queue := rest, mqTaskCount := taskCount (con.mqTaskCount - 1) }, .looking)
  | completes (context : Context) :
      Purges con (.completing context) (con.completeTaskWorkflow context error, .removing)
  | removes :
      Purges con .removing ({ con with mqTaskCount := taskCount (con.mqTaskCount - 1) }, .looking)

/-! ## Purges -/

theorem Connector.purgeMessage_purges (con : Connector) {purge : Purge} (nothing : purge.held = 0)
    (taking : con.takes purge) : Purges con purge con.purgeMessage := by
  unfold Connector.purgeMessage
  split
  case h_1 => exact .waits purge nothing taking
  case h_2 context rest queue => exact .takes purge nothing context rest queue taking
  case h_3 rest queue => exact .drops purge nothing rest queue taking

theorem Connector.purge_purges (con : Connector) (purge : Purge) :
    Purges con purge (con.purge purge) := by
  unfold Connector.purge
  cases purge with
  | off => exact .ends .off rfl
  | looking =>
    dsimp only
    split
    case isTrue counts => exact con.purgeMessage_purges rfl (.inr ⟨rfl, counts⟩)
    case isFalse => exact .ends .looking rfl
  | waiting => exact con.purgeMessage_purges rfl (.inl rfl)
  | completing context => exact .completes context
  | removing => exact .removes

theorem Threads.Counted.positive (counted : threads.Counted) {purge : Purge}
    (its : purge = threads.con.enginePurge ∨ purge = threads.con.handlerPurge)
    (taking : threads.con.takes purge) : 0 < threads.con.mqTaskCount := by
  rcases taking with waiting | ⟨_, _, positive⟩
  · refine counted.waiting (Connector.locked_iff.mpr ?_)
    exact its.imp (fun engine => engine.symm.trans waiting)
      (fun handler => handler.symm.trans waiting)
  · exact positive

theorem Threads.Counted.owed_lt (counted : threads.Counted)
    (positive : 0 < threads.con.mqTaskCount) (some : threads.con.queue ≠ [])
    (alone : 0 < threads.owed → threads.con.network.held = 0 ∧
      threads.con.enginePurge.held = 0 ∧ threads.con.handlerPurge.held = 0) :
    threads.owed < threads.con.queue.length := by
  have length : 0 < threads.con.queue.length := length_pos_iff.mpr some
  have count := counted.count
  by_cases owed : 0 < threads.owed
  · obtain ⟨network, engine, handler⟩ := alone owed
    rw [network, engine, handler] at count
    omega
  · omega

/-- What a purge of either thread leaves of the queue and of the counter. -/
structure Purged (threads : Threads) (purge left : Purge) (after : Connector) : Prop where
  rest : after = { threads.con with
    queue := after.queue
    mqTaskCount := after.mqTaskCount
    called := after.called
    released := after.released }
  room : after.queue.length ≤ threads.con.queue.length
  total : after.mqTaskCount + threads.con.queue.length + purge.held =
    threads.con.mqTaskCount + after.queue.length + left.held
  owed : after.queue.length = threads.con.queue.length ∨ threads.owed ≤ after.queue.length
  off : purge = .off → left = .off
  waiting : left = .waiting → 0 < after.mqTaskCount
  taken : left.held ≤ purge.held ∧ after.queue = threads.con.queue ∨
    threads.con.takes purge ∧ threads.con.queue.length = after.queue.length + 1

section

variable (counted : threads.Counted)
include counted

/-- A purge takes from the queue what it takes from the count. -/
theorem Threads.Counted.purge {purge : Purge}
    (its : purge = threads.con.enginePurge ∨ purge = threads.con.handlerPurge)
    (alone : 0 < threads.owed → purge ≠ .off → purge.held = 0 →
      threads.con.network.held = 0 ∧ threads.con.enginePurge.held = 0 ∧
      threads.con.handlerPurge.held = 0) :
    Purged threads purge (threads.con.purge purge).2 (threads.con.purge purge).1 := by
  obtain ⟨lower, upper⟩ := counted.small
  have lowered : 0 < threads.con.mqTaskCount →
      taskCount (threads.con.mqTaskCount - 1) = threads.con.mqTaskCount - 1 := fun positive =>
    taskCount_eq (by omega) (by omega)
  have on : threads.con.takes purge → purge ≠ .off := by
    rintro (rfl | ⟨rfl, _⟩) <;> exact nofun
  have purges := threads.con.purge_purges purge
  generalize threads.con.purge purge = result at purges ⊢
  cases purges with
  | ends _ nothing =>
    exact
      { rest := rfl
        room := Nat.le_refl _
        total := by rw [nothing]; rfl
        owed := .inl rfl
        off := fun _ => rfl
        waiting := nofun
        taken := .inl ⟨Nat.zero_le _, rfl⟩ }
  | waits _ nothing taking =>
    exact
      { rest := rfl
        room := Nat.le_refl _
        total := by rw [nothing]; rfl
        owed := .inl rfl
        off := fun off => absurd off (on taking)
        waiting := fun _ => counted.positive its taking
        taken := .inl ⟨Nat.zero_le _, rfl⟩ }
  | takes _ nothing context rest queue taking =>
    have owed := counted.owed_lt (counted.positive its taking) (by rw [queue]; exact nofun)
      fun owes => alone owes (on taking) nothing
    rw [queue, length_cons] at owed
    exact
      { rest := rfl
        room := by rw [queue]; exact Nat.le_succ _
        total := by
          show threads.con.mqTaskCount + (threads.con.queue.length : Int) + purge.held =
            threads.con.mqTaskCount + rest.length + 1
          rw [nothing, queue, length_cons]
          omega
        owed := .inr (Nat.le_of_lt_succ owed)
        off := fun off => absurd off (on taking)
        waiting := nofun
        taken := .inr ⟨taking, by rw [queue, length_cons]⟩ }
  | drops _ nothing rest queue taking =>
    have positive := counted.positive its taking
    have owed := counted.owed_lt positive (by rw [queue]; exact nofun)
      fun owes => alone owes (on taking) nothing
    rw [queue, length_cons] at owed
    exact
      { rest := rfl
        room := by rw [queue]; exact Nat.le_succ _
        total := by
          show taskCount (threads.con.mqTaskCount - 1) + (threads.con.queue.length : Int) +
            purge.held = threads.con.mqTaskCount + rest.length + 0
          rw [lowered positive, nothing, queue, length_cons]
          omega
        owed := .inr (Nat.le_of_lt_succ owed)
        off := fun off => absurd off (on taking)
        waiting := nofun
        taken := .inr ⟨taking, by rw [queue, length_cons]⟩ }
  | completes context =>
    exact
      { rest := rfl
        room := Nat.le_refl _
        total := rfl
        owed := .inl rfl
        off := nofun
        waiting := nofun
        taken := .inl ⟨Nat.le_refl 1, rfl⟩ }
  | removes =>
    have positive : 0 < threads.con.mqTaskCount := by
      have owed := counted.owed
      have count := counted.count
      have held : 1 ≤ threads.con.enginePurge.held + threads.con.handlerPurge.held := by
        rcases its with engine | handler
        · rw [← engine]
          exact Nat.le_add_right 1 _
        · rw [← handler]
          exact Nat.le_add_left 1 _
      omega
    exact
      { rest := rfl
        room := Nat.le_refl _
        total := by
          show taskCount (threads.con.mqTaskCount - 1) + (threads.con.queue.length : Int) + 1 =
            threads.con.mqTaskCount + threads.con.queue.length + 0
          rw [lowered positive]
          omega
        owed := .inl rfl
        off := nofun
        waiting := nofun
        taken := .inl ⟨Nat.zero_le _, rfl⟩ }

theorem Threads.Counted.purged {queue : List Message} {count : Int} {called : List (Nat × Int)}
    {released : List Nat} {enginePurge handlerPurge : Purge}
    (room : queue.length ≤ threads.con.queue.length)
    (total : count + threads.con.queue.length + threads.con.enginePurge.held +
      threads.con.handlerPurge.held = threads.con.mqTaskCount + queue.length + enginePurge.held +
      handlerPurge.held)
    (owed : queue.length = threads.con.queue.length ∨ threads.owed ≤ queue.length)
    (apart : enginePurge = .waiting → handlerPurge ≠ .waiting)
    (engine : threads.con.enginePurge = .off → enginePurge = .off)
    (handler : threads.con.handlerPurge = .off → handlerPurge = .off)
    (waiting : enginePurge = .waiting ∨ handlerPurge = .waiting → 0 < count)
    (quiet : threads.con.network = .idle → queue = [] →
      enginePurge.held = 0 ∧ threads.con.connected = false)
    (ending : threads.con.network = .ending → queue = [] → threads.con.connected = false) :
    Threads.Counted
      { threads with
        con := { threads.con with
          queue, enginePurge, handlerPurge, called, released
          mqTaskCount := count } } := by
  have before := counted.count
  have owedBefore := counted.owed
  exact { counted with
    room := Nat.le_trans room counted.room
    count := by
      show count + (threads.owed : Int) =
        queue.length + threads.con.network.held + enginePurge.held + handlerPurge.held
      omega
    owed := by
      show threads.owed ≤ queue.length + threads.con.network.held
      omega
    apart := apart
    engine := fun owes => engine (counted.engine owes)
    handler := fun purges => counted.handler fun off => purges (handler off)
    waiting := fun locked => waiting (Connector.locked_iff.mp locked)
    quiet := quiet
    ending := ending }

theorem Threads.Counted.enginePurge (ready : threads.con.waits .enginePurge = false)
    (others : threads.con.takes threads.con.enginePurge →
      threads.con.network = .idle ∨ threads.con.network = .ending ∧
      threads.con.connected = true → threads.con.queue.length ≠ 1) :
    Threads.Counted { threads with con := threads.con.perform .enginePurge } := by
  have handlerWaits := threads.con.enginePurge_alone counted.apart ready
  have purged := counted.purge (.inl rfl) fun owes on nothing => by
    have engineOwes : threads.engineOwes = false :=
      Bool.eq_false_iff.mpr fun owes => on (counted.engine (.inl owes))
    have stop : threads.con.stopUncounted = false :=
      Bool.eq_false_iff.mpr fun stop => on (counted.engine (.inr stop))
    have networkOwes : threads.networkOwes = true := by
      by_contra none
      unfold Threads.owed at owes
      rw [engineOwes, stop, Bool.eq_false_iff.mpr none] at owes
      exact absurd owes (Nat.lt_irrefl 0)
    obtain ⟨context, chained⟩ := counted.network networkOwes
    have off := counted.handlerPurge_off (by rw [chained]; rintro ⟨_, _, handles⟩; cases handles)
    exact ⟨by rw [chained]; rfl, nothing, by rw [off]; rfl⟩
  change Threads.Counted { threads with
    con := { (threads.con.purge threads.con.enginePurge).1 with
      enginePurge := (threads.con.purge threads.con.enginePurge).2 } }
  generalize threads.con.purge threads.con.enginePurge = result at purged ⊢
  obtain ⟨after, left⟩ := result
  rw [purged.rest]
  refine counted.purged purged.room ?_ purged.owed (fun _ => handlerWaits) purged.off id ?_ ?_ ?_
  · have total : after.mqTaskCount + (threads.con.queue.length : Int) +
        threads.con.enginePurge.held =
      threads.con.mqTaskCount + after.queue.length + left.held := purged.total
    show after.mqTaskCount + (threads.con.queue.length : Int) + threads.con.enginePurge.held +
      threads.con.handlerPurge.held = threads.con.mqTaskCount + after.queue.length + left.held +
        threads.con.handlerPurge.held
    omega
  · rintro (waits | waits)
    · exact purged.waiting waits
    · exact absurd waits handlerWaits
  · intro idle empty
    rcases purged.taken with ⟨held, same⟩ | ⟨taking, length⟩
    · obtain ⟨nothing, disconnected⟩ := counted.quiet idle (same.symm.trans empty)
      exact ⟨Nat.le_zero.mp (nothing ▸ held), disconnected⟩
    · have none : after.queue.length = 0 := length_eq_zero_iff.mpr empty
      exact absurd (by rw [length, none]) (others taking (.inl idle))
  · intro ending empty
    rcases purged.taken with ⟨_, same⟩ | ⟨taking, length⟩
    · exact counted.ending ending (same.symm.trans empty)
    · have none : after.queue.length = 0 := length_eq_zero_iff.mpr empty
      exact Bool.eq_false_iff.mpr fun connected =>
        others taking (.inr ⟨ending, connected⟩) (by rw [length, none])

theorem Threads.Counted.handlerPurge (ready : threads.con.waits .handlerPurge = false) :
    Threads.Counted { threads with con := threads.con.perform .handlerPurge } := by
  have engineWaits := threads.con.handlerPurge_alone counted.apart ready
  by_cases off : threads.con.handlerPurge = .off
  · have same : threads.con.perform .handlerPurge = threads.con := by
      change { (threads.con.purge threads.con.handlerPurge).1 with
        handlerPurge := (threads.con.purge threads.con.handlerPurge).2 } = threads.con
      rw [off]
      change { threads.con with handlerPurge := .off } = threads.con
      rw [← off]
    rw [same]
    exact counted
  obtain ⟨context, ret, handling⟩ := counted.handler off
  have purged := counted.purge (.inr rfl) fun owes on nothing => by
    have networkOwes : threads.networkOwes = false :=
      counted.networkOwes_false fun _ chained => by rw [handling] at chained; cases chained
    have engineOff : threads.con.enginePurge = .off := by
      by_contra purges
      have idle : threads.engineOwes = false ∧ threads.con.stopUncounted = false :=
        ⟨Bool.eq_false_iff.mpr fun owes => purges (counted.engine (.inl owes)),
          Bool.eq_false_iff.mpr fun stop => purges (counted.engine (.inr stop))⟩
      unfold Threads.owed at owes
      rw [idle.1, idle.2, networkOwes] at owes
      exact absurd owes (Nat.lt_irrefl 0)
    exact ⟨by rw [handling]; rfl, by rw [engineOff]; rfl, nothing⟩
  change Threads.Counted { threads with
    con := { (threads.con.purge threads.con.handlerPurge).1 with
      handlerPurge := (threads.con.purge threads.con.handlerPurge).2 } }
  generalize threads.con.purge threads.con.handlerPurge = result at purged ⊢
  obtain ⟨after, left⟩ := result
  rw [purged.rest]
  refine counted.purged purged.room ?_ purged.owed (fun waits => absurd waits engineWaits) id
    purged.off ?_ ?_ ?_
  · have total : after.mqTaskCount + (threads.con.queue.length : Int) +
        threads.con.handlerPurge.held =
      threads.con.mqTaskCount + after.queue.length + left.held := purged.total
    show after.mqTaskCount + (threads.con.queue.length : Int) + threads.con.enginePurge.held +
      threads.con.handlerPurge.held = threads.con.mqTaskCount + after.queue.length +
        threads.con.enginePurge.held + left.held
    omega
  · rintro (waits | waits)
    · exact absurd waits engineWaits
    · exact purged.waiting waits
  · intro idle
    rw [handling] at idle
    cases idle
  · intro ending
    rw [handling] at ending
    cases ending

theorem Threads.Counted.startEnginePurge (free : threads.engineFree = true) :
    Threads.Counted { threads with con := threads.con.perform .startEnginePurge } := by
  obtain ⟨owes, stop, off⟩ := Threads.engineFree_iff.mp free
  change Threads.Counted { threads with
    con := { threads.con with
      enginePurge := if threads.con.enginePurge =
        .off then .looking else threads.con.enginePurge } }
  rw [if_pos off]
  have held : threads.con.enginePurge.held = Purge.looking.held := by rw [off]; rfl
  exact { counted with
    count := by
      show threads.con.mqTaskCount + (threads.owed : Int) = threads.con.queue.length +
        threads.con.network.held + Purge.looking.held + threads.con.handlerPurge.held
      rw [← held]
      exact counted.count
    apart := nofun
    engine := fun owed => by
      rcases owed with owed | owed
      · exact absurd (owes.symm.trans owed) Bool.false_ne_true
      · exact absurd (stop.symm.trans owed) Bool.false_ne_true
    waiting := fun locked => counted.waiting
      (Connector.locked_iff.mpr (.inr ((Connector.locked_iff.mp locked).resolve_left nofun)))
    quiet := fun idle empty => ⟨rfl, (counted.quiet idle empty).2⟩ }

theorem Threads.Counted.startHandlerPurge :
    Threads.Counted { threads with con := threads.con.startHandlerPurge } := by
  unfold Connector.startHandlerPurge
  split
  case h_1 context ret handling off =>
    have held : threads.con.handlerPurge.held = Purge.looking.held := by rw [off]; rfl
    exact { counted with
      count := by
        show threads.con.mqTaskCount + (threads.owed : Int) = threads.con.queue.length +
          threads.con.network.held + threads.con.enginePurge.held + Purge.looking.held
        rw [← held]
        exact counted.count
      apart := fun _ => nofun
      handler := fun _ => ⟨context, ret, handling⟩
      waiting := fun locked => counted.waiting
        (Connector.locked_iff.mpr (.inl ((Connector.locked_iff.mp locked).resolve_right nofun))) }
  case h_2 => exact counted

end

end Thingsee.Connectors
