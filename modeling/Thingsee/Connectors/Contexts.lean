import Thingsee.Connectors.Types

/-!
Owns the contexts of a connector. A context belongs to one message of the queue or to one thread
until its callback is called and it is released. What the threads do keeps that, except that a next
task that finds no room takes its context with it, and that the other thread may purge a next task
while the network thread still reads the context.
-/

namespace Thingsee.Connectors

open Support List Connector

def Message.serials : Message → List Nat
  | .stop => []
  | .request context => [context.serial]

/-- The context that the network thread has to complete, or to give to a next task. -/
def Network.owned : Network → List Nat
  | .received message => message.serials
  | .starting context | .executing context | .handling context _ => [context.serial]
  | _ => []

def Network.reads : Network → List Nat
  | .chained context => [context.serial]
  | _ => []

def Purge.owned : Purge → List Nat
  | .completing context => [context.serial]
  | _ => []

/-- How many messages and threads have a context to complete. -/
def Connector.owners (con : Connector) (serial : Nat) : Nat :=
  (con.queue.flatMap Message.serials).count serial + con.network.owned.count serial +
    con.enginePurge.owned.count serial + con.handlerPurge.owned.count serial

def Connector.calls (con : Connector) (serial : Nat) : Nat :=
  (con.called.map Prod.fst).count serial

/-- A context has been called once, or there is one who has still to do it. It is released when it
is called, and nobody refers to it after that. -/
structure Connector.Exact (con : Connector) : Prop where
  once : ∀ serial, con.calls serial + con.owners serial = if serial < con.created then 1 else 0
  released : con.released = con.called.map Prod.fst
  unreferred : ∀ serial ∈ con.released,
    con.owners serial = 0 ∧ serial ∉ con.network.reads
  made : ∀ serial ∈ con.network.reads, serial < con.created

/-- Whether a purge completes the workflow of a next task whose context the network thread still
reads. -/
def Connector.disturbs (con : Connector) (purge : Purge) : Prop :=
  ∃ serial ∈ purge.owned, serial ∈ con.network.reads

variable {con next : Connector}

theorem Connector.exact_of
    (once : ∀ serial, con.calls serial + con.owners serial = if serial < con.created then 1 else 0)
    (released : con.released = con.called.map Prod.fst)
    (reads : ∀ serial ∈ con.network.reads, serial < con.created ∧ serial ∉ con.released) :
    con.Exact where
  once := once
  released := released
  unreferred serial isReleased := by
    have called : 0 < con.calls serial := by
      rw [released] at isReleased
      exact count_pos_iff.mpr isReleased
    have total := once serial
    refine ⟨?_, fun read => (reads serial read).2 isReleased⟩
    split at total <;> omega
  made serial read := (reads serial read).1

theorem Connector.Exact.reads (exact' : con.Exact) :
    ∀ serial ∈ con.network.reads, serial < con.created ∧ serial ∉ con.released :=
  fun serial read => ⟨exact'.made serial read,
    fun isReleased => (exact'.unreferred serial isReleased).2 read⟩

variable {purge : Purge} {serial : Nat} {network : Network} {connected : Bool}

theorem Connector.Exact.of_owned (exact' : con.Exact) (owned : 0 < con.owners serial) :
    serial < con.created ∧ serial ∉ con.released := by
  refine ⟨?_, fun isReleased => ?_⟩
  · by_contra late
    have total := exact'.once serial
    rw [if_neg late] at total
    omega
  · have none := (exact'.unreferred serial isReleased).1
    omega

theorem Connector.Exact.pass (exact' : con.Exact) (called : next.called = con.called)
    (released : next.released = con.released) (created : next.created = con.created)
    (owners : ∀ serial, next.owners serial = con.owners serial)
    (reads : ∀ serial ∈ next.network.reads, serial < con.created ∧ serial ∉ con.released) :
    next.Exact := by
  apply exact_of
  · intro serial
    unfold Connector.calls
    rw [called, owners, created]
    exact exact'.once serial
  · rw [released, called]
    exact exact'.released
  · rw [released, created]
    exact reads

theorem Connector.Exact.complete (exact' : con.Exact) {result : Int}
    (called : next.called = con.called ++ [(serial, result)])
    (released : next.released = con.released ++ [serial]) (created : next.created = con.created)
    (owners : ∀ other, next.owners other + [serial].count other = con.owners other)
    (reads : ∀ other ∈ next.network.reads, other ∈ con.network.reads ∧ other ≠ serial) :
    next.Exact := by
  apply exact_of
  · intro other
    have before := exact'.once other
    have passed := owners other
    unfold Connector.calls at before ⊢
    rw [called, created, map_append, count_append]
    show _ + [serial].count other + next.owners other = _
    omega
  · rw [released, called, map_append, exact'.released]
    rfl
  · intro other read
    obtain ⟨before, different⟩ := reads other read
    rw [created, released, mem_append, mem_singleton, not_or]
    exact ⟨exact'.made other before, (exact'.reads other before).2, different⟩

theorem Connector.completeTaskWorkflow_called (context : Context) (err : Int)
    (running : con.stopping = false) :
    ∃ result, (con.completeTaskWorkflow context err).called =
      con.called ++ [(context.serial, result)] := by
  refine ⟨if context.processStatus = 0 then err else context.processStatus, ?_⟩
  have isRunning : ¬ con.stopping = true := by
    rw [running]
    exact Bool.false_ne_true
  exact if_neg isRunning

theorem count_created (created serial : Nat) :
    [created].count serial + (if serial < created then 1 else 0) =
      if serial < created + 1 then 1 else 0 := by
  rw [count_singleton]
  by_cases same : created = serial
  · rw [if_pos (by simpa using same), if_neg (by omega), if_pos (by omega)]
  · rw [if_neg (by simpa using same)]
    split <;> split <;> omega

theorem Connector.multisendUrl_exact (allocated posted : Bool) (running : con.stopping = false)
    (exact' : con.Exact) : (con.multisendUrl allocated posted).Exact := by
  unfold Connector.multisendUrl
  split
  case isFalse => exact exact'
  case isTrue =>
    have reads : ∀ serial ∈ con.network.reads, serial < con.created + 1 ∧ serial ∉ con.released :=
      fun serial read => ⟨Nat.lt_succ_of_lt (exact'.reads serial read).1,
        (exact'.reads serial read).2⟩
    split
    · apply exact_of
      · intro serial
        have before := exact'.once serial
        rw [← count_created, ← before]
        unfold Connector.calls Connector.owners
        dsimp only
        rw [flatMap_append, count_append, flatMap_singleton]
        show _ + (_ + [con.created].count serial + _ + _ + _) = _
        omega
      · exact exact'.released
      · exact reads
    · have stillRunning : Connector.stopping { con with created := con.created + 1 } = false :=
        running
      obtain ⟨result, called⟩ :=
        completeTaskWorkflow_called ⟨con.created, 0⟩ error stillRunning
      apply exact_of
      · intro serial
        have before := exact'.once serial
        unfold Connector.calls at before ⊢
        rw [called, map_append, count_append]
        show (con.called.map Prod.fst).count serial + [con.created].count serial +
          con.owners serial = if serial < con.created + 1 then 1 else 0
        rw [← count_created, ← before]
        omega
      · rw [called, map_append, ← exact'.released]
        rfl
      · intro serial read
        refine ⟨(reads serial read).1, ?_⟩
        show serial ∉ con.released ++ [con.created]
        rw [mem_append, mem_singleton, not_or]
        exact ⟨(reads serial read).2, Nat.ne_of_lt (exact'.reads serial read).1⟩

/-- A purge that completes nothing takes a message, at most. -/
structure Passes (before after : Connector) (purge left : Purge) : Prop where
  called : after.called = before.called
  released : after.released = before.released
  owners : ∀ serial, (after.queue.flatMap Message.serials).count serial + left.owned.count serial =
    (before.queue.flatMap Message.serials).count serial + purge.owned.count serial

theorem Connector.purgeMessage_passes (nothing : purge.owned = []) (con : Connector) :
    Passes con con.purgeMessage.1 purge con.purgeMessage.2 := by
  unfold Connector.purgeMessage
  split
  case h_1 => exact ⟨rfl, rfl, fun serial => by rw [nothing]; rfl⟩
  case h_2 context rest queue =>
    refine ⟨rfl, rfl, fun serial => ?_⟩
    rw [nothing, queue, flatMap_cons, count_append, Nat.add_comm]
    rfl
  case h_3 rest queue =>
    refine ⟨rfl, rfl, fun serial => ?_⟩
    rw [nothing, queue]
    rfl

theorem Connector.purge_cases (purge : Purge) (con : Connector) :
    (∃ context, purge = .completing context ∧
      con.purge purge = (con.completeTaskWorkflow context error, .removing)) ∨
    (purge.owned = [] ∧ Passes con (con.purge purge).1 purge (con.purge purge).2) := by
  have same : ∀ left : Purge, left.owned = [] → ∀ count : Int, purge.owned = [] →
      Passes con { con with mqTaskCount := count } purge left := by
    intro left none count nothing
    exact ⟨rfl, rfl, fun serial => by rw [none, nothing]⟩
  unfold Connector.purge
  cases purge with
  | off => exact .inr ⟨rfl, same .off rfl con.mqTaskCount rfl⟩
  | looking =>
    refine .inr ⟨rfl, ?_⟩
    dsimp only
    split
    · exact purgeMessage_passes rfl con
    · exact same .off rfl con.mqTaskCount rfl
  | waiting => exact .inr ⟨rfl, purgeMessage_passes rfl con⟩
  | completing context => exact .inl ⟨context, rfl, rfl⟩
  | removing => exact .inr ⟨rfl, same .looking rfl _ rfl⟩

theorem Connector.purge_rest (purge : Purge) (con : Connector) :
    (con.purge purge).1.created = con.created ∧ (con.purge purge).1.network = con.network ∧
      (con.purge purge).1.enginePurge = con.enginePurge ∧
      (con.purge purge).1.handlerPurge = con.handlerPurge ∧
      (con.purge purge).1.stopping = con.stopping := by
  have message : con.purgeMessage.1.created = con.created ∧
      con.purgeMessage.1.network = con.network ∧
      con.purgeMessage.1.enginePurge = con.enginePurge ∧
      con.purgeMessage.1.handlerPurge = con.handlerPurge ∧
      con.purgeMessage.1.stopping = con.stopping := by
    unfold Connector.purgeMessage
    split <;> exact ⟨rfl, rfl, rfl, rfl, rfl⟩
  unfold Connector.purge
  cases purge with
  | looking =>
    dsimp only
    split
    · exact message
    · exact ⟨rfl, rfl, rfl, rfl, rfl⟩
  | waiting => exact message
  | off | completing | removing => exact ⟨rfl, rfl, rfl, rfl, rfl⟩

theorem Connector.purge_exact (others : Nat → Nat) (running : con.stopping = false)
    (exact' : con.Exact)
    (before : ∀ serial, con.owners serial = (con.queue.flatMap Message.serials).count serial +
      purge.owned.count serial + others serial)
    (after : ∀ serial, next.owners serial =
      ((con.purge purge).1.queue.flatMap Message.serials).count serial +
        (con.purge purge).2.owned.count serial + others serial)
    (called : next.called = (con.purge purge).1.called)
    (released : next.released = (con.purge purge).1.released) (created : next.created = con.created)
    (network : next.network = con.network) : next.Exact ↔ ¬ con.disturbs purge := by
  rcases con.purge_cases purge with ⟨context, completing, purged⟩ | ⟨nothing, passes⟩
  · obtain ⟨result, calls⟩ := completeTaskWorkflow_called context error running
    have owned : purge.owned = [context.serial] := by rw [completing]; rfl
    rw [purged] at after called released
    have isReleased : next.released = con.released ++ [context.serial] := released
    constructor
    · rintro exact'' ⟨serial, isOwned, isRead⟩
      rw [owned, mem_singleton] at isOwned
      have late : serial ∈ next.released := by
        rw [isReleased]
        exact mem_append_right _ (mem_singleton.mpr isOwned)
      have unread := (exact''.unreferred serial late).2
      rw [network] at unread
      exact unread isRead
    · intro undisturbed
      refine exact'.complete (called.trans calls) isReleased created ?_ ?_
      · intro other
        rw [before, after, owned]
        change (con.queue.flatMap Message.serials).count other + 0 + _ + _ = _
        omega
      · rw [network]
        intro other isRead
        refine ⟨isRead, fun same => undisturbed ⟨other, ?_, isRead⟩⟩
        rw [owned, same]
        exact mem_singleton.mpr rfl
  · refine iff_of_true ?_ ?_
    · refine exact'.pass (called.trans passes.called) (released.trans passes.released) created ?_ ?_
      · intro serial
        rw [before, after, passes.owners]
      · rw [network]
        exact exact'.reads
    · rintro ⟨serial, isOwned, -⟩
      rw [nothing] at isOwned
      cases isOwned

theorem Connector.enginePurge_exact (running : con.stopping = false) (exact' : con.Exact) :
    (con.perform .enginePurge).Exact ↔ ¬ con.disturbs con.enginePurge := by
  obtain ⟨created, network, -, handlerPurge, -⟩ := con.purge_rest con.enginePurge
  refine purge_exact
    (fun serial => con.network.owned.count serial + con.handlerPurge.owned.count serial)
    running exact' ?_ ?_ rfl rfl created network
  · intro serial
    unfold Connector.owners
    omega
  · intro serial
    show _ + (con.purge con.enginePurge).1.network.owned.count serial + _ +
      (con.purge con.enginePurge).1.handlerPurge.owned.count serial = _
    rw [network, handlerPurge]
    change ((con.purge con.enginePurge).1.queue.flatMap Message.serials).count serial + _ +
      (con.purge con.enginePurge).2.owned.count serial + _ = _
    omega

theorem Connector.handlerPurge_exact (running : con.stopping = false) (exact' : con.Exact) :
    (con.perform .handlerPurge).Exact ↔ ¬ con.disturbs con.handlerPurge := by
  obtain ⟨created, network, enginePurge, -, -⟩ := con.purge_rest con.handlerPurge
  refine purge_exact
    (fun serial => con.network.owned.count serial + con.enginePurge.owned.count serial)
    running exact' ?_ ?_ rfl rfl created network
  · intro serial
    unfold Connector.owners
    omega
  · intro serial
    show _ + (con.purge con.handlerPurge).1.network.owned.count serial +
      (con.purge con.handlerPurge).1.enginePurge.owned.count serial + _ = _
    rw [network, enginePurge]
    change ((con.purge con.handlerPurge).1.queue.flatMap Message.serials).count serial + _ + _ +
      (con.purge con.handlerPurge).2.owned.count serial = _
    omega

theorem Connector.receive_exact (exact' : con.Exact) : con.receive.Exact := by
  unfold Connector.receive
  split
  case h_2 => exact exact'
  case h_1 message rest idle queue =>
    refine exact'.pass rfl rfl rfl (fun serial => ?_) nofun
    unfold Connector.owners
    rw [idle, queue, flatMap_cons, count_append]
    show (rest.flatMap Message.serials).count serial + message.serials.count serial +
      con.enginePurge.owned.count serial + con.handlerPurge.owned.count serial =
        message.serials.count serial + _ + 0 + _ + _
    omega

theorem Connector.begin_exact (exact' : con.Exact) : con.begin.Exact := by
  unfold Connector.begin
  split
  case h_2 => exact exact'
  case h_1 message received =>
    cases message with
    | stop | request context =>
      refine exact'.pass rfl rfl rfl (fun serial => ?_) nofun
      unfold Connector.owners
      rw [received]
      rfl

theorem Connector.Exact.completed (exact' : con.Exact) (running : con.stopping = false)
    {context completed : Context} (same : completed.serial = context.serial) (err : Int)
    (owned : con.network.owned = [context.serial]) (without : network.owned = [])
    (unread : network.reads = []) :
    Connector.Exact { con.completeTaskWorkflow completed err with connected, network } := by
  obtain ⟨result, called⟩ := completeTaskWorkflow_called completed err running
  refine exact'.complete called rfl rfl ?_ ?_
  case refine_2 =>
    rw [unread]
    exact nofun
  intro other
  unfold Connector.owners
  rw [owned, same, without]
  show (con.queue.flatMap Message.serials).count other + 0 + con.enginePurge.owned.count other +
    con.handlerPurge.owned.count other + _ = _
  omega

theorem Connector.Exact.proceed (exact' : con.Exact) (owned : network.owned = con.network.owned)
    (reads : network.reads = []) : Connector.Exact { con with network, connected } := by
  refine exact'.pass rfl rfl rfl (fun serial => ?_) ?_
  · unfold Connector.owners
    rw [← owned]
  · show ∀ serial ∈ network.reads, _
    rw [reads]
    exact nofun

theorem Connector.connect_exact (ret : Int) (given : Bool) (running : con.stopping = false)
    (exact' : con.Exact) : (con.connect ret given).Exact := by
  unfold Connector.connect
  split
  case h_2 => exact exact'
  case h_1 context starting =>
    have owned : con.network.owned = [context.serial] := by rw [starting]; rfl
    split
    · exact exact'.proceed owned.symm rfl
    split
    · exact exact'.completed running rfl ret owned rfl rfl
    · exact exact'.proceed owned.symm rfl

theorem Connector.execute_exact (executed : Executed) (running : con.stopping = false)
    (exact' : con.Exact) : (con.execute executed).Exact := by
  unfold Connector.execute
  split
  case h_1 context ret executing =>
    exact exact'.completed running rfl ret (by rw [executing]; rfl) rfl rfl
  case h_2 context ret executing => exact exact'.proceed (by rw [executing]; rfl) rfl
  case h_3 => exact exact'

theorem Connector.startHandlerPurge_exact (exact' : con.Exact) : con.startHandlerPurge.Exact := by
  unfold Connector.startHandlerPurge
  split
  case h_2 => exact exact'
  case h_1 context ret handling off =>
    refine exact'.pass rfl rfl rfl (fun serial => ?_) exact'.reads
    unfold Connector.owners
    rw [off]
    rfl

theorem Connector.release_exact (exact' : con.Exact) : con.release.Exact := by
  unfold Connector.release
  split
  case h_1 finishing => exact exact'.proceed (by rw [finishing]; rfl) rfl
  case h_2 => exact exact'

theorem Connector.finish_exact (exact' : con.Exact) : con.finish.Exact := by
  unfold Connector.finish
  split
  case h_1 ending => exact exact'.proceed (by rw [ending]; rfl) rfl
  case h_2 stopping => exact exact'.proceed (by rw [stopping]; rfl) rfl
  case h_3 => exact exact'

theorem Connector.destroyChained_exact (exact' : con.Exact) : con.destroyChained.Exact := by
  unfold Connector.destroyChained
  split
  case h_1 context chained => exact exact'.proceed (by rw [chained]; rfl) rfl
  case h_2 => exact exact'

theorem Connector.handlerReturns_none_exact (running : con.stopping = false)
    (exact' : con.Exact) : (con.handlerReturns none).Exact := by
  unfold Connector.handlerReturns
  split
  case h_1 context ret handling off =>
    exact exact'.completed running rfl ret (by rw [handling]; rfl) rfl rfl
  case h_2 => exact exact'

theorem Connector.handlerReturns_some_exact (processStatus : Int) (exact' : con.Exact) :
    (con.handlerReturns (some processStatus)).Exact ↔
      ∀ context ret, con.network = .handling context ret → con.handlerPurge = .off →
        con.hasRoom = true := by
  unfold Connector.handlerReturns
  split
  case h_2 elsewhere =>
    refine iff_of_true exact' fun context ret handling off => ?_
    exact absurd off (elsewhere context ret handling)
  case h_1 context ret handling off =>
    have owned : con.network.owned = [context.serial] := by rw [handling]; rfl
    have one : 0 < con.owners context.serial := by
      unfold Connector.owners
      rw [owned, count_singleton_self]
      omega
    obtain ⟨made, unreleased⟩ := exact'.of_owned one
    dsimp only
    split
    case isTrue room =>
      refine iff_of_true ?_ fun _ _ _ _ => room
      refine exact'.pass rfl rfl rfl (fun serial => ?_) ?_
      · unfold Connector.owners
        rw [owned]
        dsimp only
        rw [flatMap_append, count_append, flatMap_singleton]
        show _ + [context.serial].count serial + 0 + _ + _ = _
        omega
      · intro serial isRead
        cases mem_singleton.mp isRead
        exact ⟨made, unreleased⟩
    case isFalse full =>
      refine iff_of_false (fun exact'' => ?_) fun room => full (room context ret handling off)
      -- The context has lost its owner, and was not completed.
      have before := exact'.once context.serial
      have after := exact''.once context.serial
      unfold Connector.calls Connector.owners at before after
      rw [owned, count_singleton_self, if_pos made] at before
      rw [if_pos made] at after
      change (con.called.map Prod.fst).count context.serial +
        ((con.queue.flatMap Message.serials).count context.serial + 0 +
          con.enginePurge.owned.count context.serial +
            con.handlerPurge.owned.count context.serial) = 1 at after
      omega

theorem Connector.countTask_exact (exact' : con.Exact) : con.countTask.Exact := by
  unfold Connector.countTask
  split
  · exact exact'
  · exact exact'.pass rfl rfl rfl (fun _ => rfl) exact'.reads

theorem Connector.giveStop_exact (exact' : con.Exact) : con.giveStop.Exact := by
  unfold Connector.giveStop
  split
  case isFalse => exact exact'
  case isTrue =>
    refine exact'.pass rfl rfl rfl (fun serial => ?_) exact'.reads
    unfold Connector.owners
    rw [flatMap_append]
    show (_ ++ []).count serial + _ + _ + _ = _
    rw [append_nil]

theorem Connector.startEnginePurge_exact (exact' : con.Exact) :
    (con.perform .startEnginePurge).Exact := by
  refine exact'.pass rfl rfl rfl (fun serial => ?_) exact'.reads
  show _ + _ + (if con.enginePurge = .off then Purge.looking else con.enginePurge).owned.count
    serial + _ = _
  split
  case isTrue off =>
    unfold Connector.owners
    rw [off]
    rfl
  case isFalse => rfl

end Thingsee.Connectors
