import Thingsee.CloudConnection.Types
import Thingsee.Support.Runs

/-!
Owns the pairs of requests and releases of the cloud connection: the engine holds the connection it
has requested, with one cut-off timer, and each connection is released before the next one is
requested.
-/

namespace Thingsee.CloudConnection

open Support

/-- The connection that is held behind a call. There is no result once a call is out of place: a
connection is requested while one is held, or one is released that is not. -/
def Call.account : Option (Option UInt32) → Call → Option (Option UInt32)
  | some none, .request id => some id
  | some none, .destroy _ false => some none
  | some (some held), .destroy id succeeded =>
    if succeeded then if id = held then some none else none else some (some held)
  | _, _ => none

def held (calls : List Call) : Option (Option UInt32) := calls.foldl Call.account (some none)

/-- A selection that fails leaves no connector behind that is not initialized, or whose hook is not
registered. -/
def Engine.Named (engine : Engine) : Prop :=
  engine.failed = true → ∀ connector, engine.con = some connector →
    engine.initialized = true ∧ ∀ hook, connector.allowDeepsleep = some hook → hook ∈ engine.hooks

/-- Requests and releases are paired, and a connection has one cut-off timer. -/
structure Engine.Paired (engine : Engine) : Prop where
  connections : held engine.calls =
    some (if engine.requested then some engine.conmanConnid else none)
  requested : engine.requested = true →
    ∃ timerid, engine.timerid = some timerid ∧ engine.timers = [timerid]
  released : engine.requested = false → engine.timers = []
  named : engine.Named

/-- There is memory for the cut-off timer, and a connection is obtained if there is none. -/
def Engine.Obtains (engine : Engine) (answers : Answers) : Prop :=
  answers.timer ≠ none ∧
    (engine.requested = false → answers.client = true ∧ answers.request ≠ none)

/-- The same where a connector is initialized that has an `init`. -/
def Engine.ObtainsNew (engine : Engine) (tsConnectors : List Connector) (connectorIdx : UInt32)
    (answers : Answers) : Prop :=
  connectorIdx ≠ noIndex → ∀ connector, lookUp tsConnectors answers connectorIdx = some connector →
    connector.init = true → answers.init = true → engine.Obtains answers

def Engine.Selects (engine : Engine) (tsConnectors : List Connector) (connectorIdx : UInt32)
    (answers : Answers) : Prop :=
  match engine.con with
  | none => engine.ObtainsNew tsConnectors connectorIdx answers
  | some connector =>
    if connectorIdx ≠ noIndex ∧ engine.conIdx = connectorIdx then engine.Obtains answers
    else
      (connector.uninit = true → answers.uninit = true) ∧
        engine.ObtainsNew tsConnectors connectorIdx answers

/-- Connections are obtained and released, and connectors are uninitialized, without a failure. -/
def Engine.Succeeds (tsConnectors : List Connector) (engine : Engine) : Action → Prop
  | .select connectorIdx answers => engine.Selects tsConnectors connectorIdx answers
  | .cancel client destroy => engine.requested = true → client = true ∧ destroy = true
  | .expire timer client destroy => timer ∈ engine.timers → client = true ∧ destroy = true

/-- Paired requests and releases, where `timerid` is the cut-off timer. -/
structure Engine.Good (engine : Engine) : Prop where
  connections : held engine.calls =
    some (if engine.requested then some engine.conmanConnid else none)
  timers : engine.timers = engine.timerid.toList
  requested : engine.requested = engine.timerid.isSome
  named : engine.Named

theorem held_snoc (calls : List Call) (call : Call) :
    held (calls ++ [call]) = Call.account (held calls) call := List.foldl_concat ..

namespace Engine

variable {engine : Engine}

theorem Good.paired (good : engine.Good) : engine.Paired where
  connections := good.connections
  requested := by
    intro requested
    rw [good.requested] at requested
    obtain ⟨timerid, same⟩ := Option.isSome_iff_exists.mp requested
    exact ⟨timerid, same, by rw [good.timers, same]; rfl⟩
  released := by
    intro released
    rw [good.requested] at released
    have none : engine.timerid = none :=
      Option.not_isSome_iff_eq_none.mp (by rw [released]; exact nofun)
    rw [good.timers, none]
    rfl
  named := good.named

/-- The part of the invariant that selections keep until they end. -/
structure Held (engine : Engine) : Prop where
  connections : held engine.calls =
    some (if engine.requested then some engine.conmanConnid else none)
  timers : engine.timers = engine.timerid.toList
  requested : engine.requested = engine.timerid.isSome

theorem Good.held (good : engine.Good) : engine.Held :=
  ⟨good.connections, good.timers, good.requested⟩

theorem restartTimer_timers (timers : engine.timers = engine.timerid.toList) (timer : Option Nat) :
    (engine.restartTimer timer).timers = timer.toList := by
  unfold restartTimer
  rw [timers]
  cases engine.timerid with
  | none => rfl
  | some timerid =>
    show [timerid].erase timerid ++ timer.toList = _
    rw [List.erase_cons_head]
    rfl

variable (connector : Connector) (answers : Answers)

theorem requestConnection_requested : (engine.requestConnection answers).requested = true := by
  unfold requestConnection obtain
  split
  case isTrue requested => exact requested
  case isFalse => rfl

theorem requestConnection_timers :
    (engine.requestConnection answers).timers = (engine.restartTimer answers.timer).timers ∧
      (engine.requestConnection answers).timerid = answers.timer := by
  unfold requestConnection obtain
  split
  · exact ⟨rfl, rfl⟩
  · dsimp only
    split <;> exact ⟨rfl, rfl⟩

theorem Held.obtain_connections (held : engine.Held) (answers : Answers) :
    CloudConnection.held (engine.requestConnection answers).calls =
        some (some (engine.requestConnection answers).conmanConnid) ↔
      (engine.requested = false → answers.client = true ∧ answers.request ≠ none) := by
  unfold requestConnection obtain
  by_cases requested : engine.requested = true
  · have again : (engine.restartTimer answers.timer).requested = true := requested
    rw [if_pos again]
    refine iff_of_true ?_ fun released => ?_
    · have connections := held.connections
      rw [requested] at connections
      exact connections
    · rw [requested] at released
      cases released
  · have released : engine.requested = false := eq_false_of_ne_true requested
    have first : ¬ (engine.restartTimer answers.timer).requested = true := requested
    rw [if_neg first]
    have connections := held.connections
    rw [released] at connections
    cases client : answers.client with
    | false =>
      refine iff_of_false (fun obtained => ?_) fun can => ?_
      · have none : CloudConnection.held engine.calls = some (some _) := obtained
        rw [connections] at none
        cases none
      · cases (can released).1
    | true =>
      show CloudConnection.held (engine.calls ++ [.request answers.request]) =
        some (some (answers.request.getD engine.conmanConnid)) ↔ _
      rw [held_snoc, connections]
      cases answers.request with
      | none => exact iff_of_false nofun fun can => absurd rfl (can released).2
      | some id => exact iff_of_true rfl fun _ => ⟨rfl, nofun⟩

theorem Held.obtains (held : engine.Held) {answers : Answers} (obtains : engine.Obtains answers) :
    (engine.requestConnection answers).Held := by
  obtain ⟨timers, timerid⟩ := engine.requestConnection_timers answers
  have requested := engine.requestConnection_requested answers
  refine ⟨?_, ?_, ?_⟩
  · rw [requested]
    exact (held.obtain_connections answers).mpr obtains.2
  · rw [timers, timerid, restartTimer_timers held.timers]
  · rw [requested, timerid]
    exact (Option.isSome_iff_ne_none.mpr obtains.1).symm

theorem Held.obtains_of_paired (held : engine.Held) {answers : Answers}
    (paired : { engine.requestConnection answers with failed := false }.Paired) :
    engine.Obtains answers := by
  have requested := engine.requestConnection_requested answers
  constructor
  · obtain ⟨timerid, same, _⟩ := paired.requested requested
    rw [show _ = answers.timer from (engine.requestConnection_timers answers).2] at same
    rw [same]
    exact nofun
  · have connections : CloudConnection.held (engine.requestConnection answers).calls = some
        (if (engine.requestConnection answers).requested then
          some (engine.requestConnection answers).conmanConnid else none) := paired.connections
    rw [requested] at connections
    exact (held.obtain_connections answers).mp connections

theorem cancelConnectionCb_fields (requested : engine.requested = true) (timerId : Option Nat)
    (client destroy : Bool) :
    (engine.cancelConnectionCb timerId client destroy).requested = false ∧
      (engine.cancelConnectionCb timerId client destroy).timerid = none ∧
      (engine.cancelConnectionCb timerId client destroy).calls =
        (if client then engine.calls ++ [.destroy engine.conmanConnid destroy] else engine.calls) ∧
      (engine.Named → (engine.cancelConnectionCb timerId client destroy).Named) := by
  unfold cancelConnectionCb
  rw [if_neg (by rw [requested]; exact nofun)]
  cases timerId <;> cases engine.timerid <;> cases client <;> exact ⟨rfl, rfl, rfl, id⟩

theorem released_iff {calls : List Call} {id : UInt32} (holds : held calls = some (some id))
    (client destroy : Bool) :
    held (if client then calls ++ [.destroy id destroy] else calls) = some none ↔
      client = true ∧ destroy = true := by
  cases client with
  | false =>
    refine iff_of_false (fun released => ?_) fun both => ?_
    · have same : held calls = some none := released
      rw [holds] at same
      cases same
    · cases both.1
  | true =>
    show held (calls ++ [.destroy id destroy]) = some none ↔ _
    rw [held_snoc, holds]
    cases destroy with
    | false => exact iff_of_false nofun fun both => nomatch both.2
    | true => exact iff_of_true (if_pos rfl) ⟨rfl, rfl⟩

theorem cancelConnectionCb_sharp (requested : engine.requested = true)
    (connections : held engine.calls = some (some engine.conmanConnid)) (named : engine.Named)
    (timerId : Option Nat) {client destroy : Bool}
    (timers : (engine.cancelConnectionCb timerId client destroy).timers = []) :
    (client = true ∧ destroy = true → (engine.cancelConnectionCb timerId client destroy).Good) ∧
      ((engine.cancelConnectionCb timerId client destroy).Paired → client = true ∧
        destroy = true) := by
  obtain ⟨released, timerid, calls, keeps⟩ :=
    cancelConnectionCb_fields requested timerId client destroy
  have sharp := released_iff connections client destroy
  rw [← calls] at sharp
  constructor
  · intro both
    refine ⟨?_, ?_, ?_, keeps named⟩
    · rw [released]
      exact sharp.mpr both
    · rw [timers, timerid]
      rfl
    · rw [released, timerid]
      rfl
  · intro paired
    have none := paired.connections
    rw [released] at none
    exact sharp.mp none

theorem Good.holds (good : engine.Good) (requested : engine.requested = true) :
    CloudConnection.held engine.calls = some (some engine.conmanConnid) := by
  have connections := good.connections
  rw [requested] at connections
  exact connections

theorem cancel_timers (good : engine.Good) (requested : engine.requested = true)
    (client destroy : Bool) : (engine.cancelConnection client destroy).timers = [] := by
  obtain ⟨timerid, same, timers⟩ := good.paired.requested requested
  unfold cancelConnection cancelConnectionCb
  rw [if_neg (by rw [requested]; exact nofun), same]
  have erased : engine.timers.erase timerid = [] := by
    rw [timers, List.erase_cons_head]
  cases client <;> exact erased

theorem cancelConnection_sharp (good : engine.Good) (client destroy : Bool) :
    ((engine.requested = true → client = true ∧ destroy = true) →
        (engine.cancelConnection client destroy).Good) ∧
      ((engine.cancelConnection client destroy).Paired →
        engine.requested = true → client = true ∧ destroy = true) := by
  by_cases requested : engine.requested = true
  · have sharp := cancelConnectionCb_sharp requested (good.holds requested) good.named none
      (cancel_timers good requested client destroy)
    exact ⟨fun both => sharp.1 (both requested), fun paired _ => sharp.2 paired⟩
  · have same : engine.cancelConnection client destroy = engine :=
      if_pos (eq_false_of_ne_true requested)
    rw [same]
    exact ⟨fun _ => good, fun _ now => absurd now requested⟩

theorem expire_sharp (good : engine.Good) (timer : Nat) (client destroy : Bool) :
    ((timer ∈ engine.timers → client = true ∧ destroy = true) →
        (engine.expire timer client destroy).Good) ∧
      ((engine.expire timer client destroy).Paired →
        timer ∈ engine.timers → client = true ∧ destroy = true) := by
  unfold expire
  by_cases pending : timer ∈ engine.timers
  · rw [if_pos pending]
    have requested : engine.requested = true := by
      by_contra released
      rw [good.paired.released (eq_false_of_ne_true released)] at pending
      cases pending
    obtain ⟨timerid, same, timers⟩ := good.paired.requested requested
    have only : timer = timerid := by
      rw [timers] at pending
      exact List.mem_singleton.mp pending
    have empty : ({ engine with timers := engine.timers.erase timer }.cancelConnectionCb
        (some timer) client destroy).timers = [] := by
      have erased : engine.timers.erase timer = [] := by
        rw [timers, only, List.erase_cons_head]
      unfold cancelConnectionCb
      rw [if_neg (by rw [requested]; exact nofun)]
      cases client <;> exact erased
    have sharp := @cancelConnectionCb_sharp { engine with timers := engine.timers.erase timer }
      requested (good.holds requested) good.named (some timer) client destroy empty
    exact ⟨fun both => sharp.1 (both pending), fun paired _ => sharp.2 paired⟩
  · rw [if_neg pending]
    exact ⟨fun _ => good, fun _ now => absurd now pending⟩

theorem addHook_held (held : engine.Held) (connector : Connector) (memory : Bool) :
    (engine.addHook connector memory).Good := by
  unfold addHook
  split
  all_goals exact ⟨held.connections, held.timers, held.requested, nofun⟩

theorem addHook_paired {connector : Connector} {memory : Bool}
    (paired : (engine.addHook connector memory).Paired) :
    { engine with failed := false }.Paired := by
  unfold addHook at paired
  split at paired
  · exact ⟨paired.connections, paired.requested, paired.released, nofun⟩
  · exact paired

theorem Held.nobody (held : engine.Held) (none : engine.con = none) : engine.Good where
  connections := held.connections
  timers := held.timers
  requested := held.requested
  named := by
    intro _ connector same
    rw [none] at same
    cases same

theorem initConnector_sharp (held : engine.Held) (connector : Connector) (connectorIdx : UInt32)
    (answers : Answers) :
    ((connector.init = true → answers.init = true → engine.Obtains answers) →
        (engine.initConnector connector connectorIdx answers).Good) ∧
      ((engine.initConnector connector connectorIdx answers).Paired →
        connector.init = true → answers.init = true → engine.Obtains answers) := by
  have set : { engine with con := some connector, conIdx := connectorIdx, initialized :=
    true }.Held :=
    ⟨held.connections, held.timers, held.requested⟩
  unfold initConnector
  by_cases init : connector.init = true
  · rw [if_pos init]
    by_cases done : answers.init = true
    · rw [if_pos done]
      constructor
      · intro obtains
        exact addHook_held (set.obtains (obtains init done)) connector answers.hook
      · exact fun paired _ _ => set.obtains_of_paired (addHook_paired paired)
    · rw [if_neg done]
      have kept : { engine with con := none, conIdx := noIndex, initialized := false,
                                failed := true }.Held :=
        ⟨held.connections, held.timers, held.requested⟩
      exact ⟨fun _ => kept.nobody rfl, fun _ _ now => absurd now done⟩
  · rw [if_neg init]
    exact ⟨fun _ => addHook_held set connector answers.hook, fun _ now => absurd now init⟩

theorem selectNew_sharp (held : engine.Held) (none : engine.con = none)
    (tsConnectors : List Connector) (connectorIdx : UInt32) (answers : Answers) :
    (engine.ObtainsNew tsConnectors connectorIdx answers →
        (engine.selectNew tsConnectors connectorIdx answers).Good) ∧
      ((engine.selectNew tsConnectors connectorIdx answers).Paired →
        engine.ObtainsNew tsConnectors connectorIdx answers) := by
  unfold selectNew ObtainsNew
  by_cases nothing : connectorIdx = noIndex
  · rw [if_pos nothing]
    have kept : { engine with failed := false }.Held :=
      ⟨held.connections, held.timers, held.requested⟩
    exact ⟨fun _ => kept.nobody none, fun _ some => absurd nothing some⟩
  rw [if_neg nothing]
  cases found : lookUp tsConnectors answers connectorIdx with
  | none =>
    have kept : { engine with con := Option.none, failed := true }.Held :=
      ⟨held.connections, held.timers, held.requested⟩
    exact ⟨fun _ => kept.nobody rfl, fun _ _ => nofun⟩
  | some connector =>
    have sharp := initConnector_sharp held connector connectorIdx answers
    constructor
    · exact fun obtains => sharp.1 (obtains nothing connector rfl)
    · rintro paired _ _ ⟨⟩
      exact sharp.2 paired

theorem removeHook_held (held : engine.Held) (connector : Connector) :
    (engine.removeHook connector).Held := by
  unfold removeHook
  split
  · exact held
  · exact ⟨held.connections, held.timers, held.requested⟩

theorem removeHook_requested : (engine.removeHook connector).requested = engine.requested := by
  unfold removeHook
  split <;> rfl

theorem removeHook_con : (engine.removeHook connector).con = engine.con := by
  unfold removeHook
  split <;> rfl

theorem selectConnector_sharp (good : engine.Good) (tsConnectors : List Connector)
    (connectorIdx : UInt32) (answers : Answers) :
    (engine.Selects tsConnectors connectorIdx answers →
        (engine.selectConnector tsConnectors connectorIdx answers).Good) ∧
      ((engine.selectConnector tsConnectors connectorIdx answers).Paired →
        engine.Selects tsConnectors connectorIdx answers) := by
  unfold Selects selectConnector
  cases con : engine.con with
  | none => exact selectNew_sharp good.held con tsConnectors connectorIdx answers
  | some connector =>
    dsimp only
    by_cases again : connectorIdx ≠ noIndex ∧ engine.conIdx = connectorIdx
    · rw [if_pos again, if_pos again]
      constructor
      · intro obtains
        have held := good.held.obtains obtains
        exact ⟨held.connections, held.timers, held.requested, nofun⟩
      · exact good.held.obtains_of_paired
    rw [if_neg again, if_neg again]
    by_cases stuck : (connector.uninit && !answers.uninit) = true
    · rw [if_pos stuck]
      have failed : ¬ (connector.uninit = true → answers.uninit = true) := by
        simpa using stuck
      refine ⟨fun selects => absurd selects.1 failed, fun paired => ?_⟩
      have named := paired.named rfl connector ((removeHook_con connector).trans con)
      cases named.1
    · rw [if_neg stuck]
      have succeeded : connector.uninit = true → answers.uninit = true := by
        simpa using stuck
      have removed := removeHook_held good.held connector
      have kept : { engine.removeHook connector with
          con := none, conIdx := noIndex, initialized := false }.Held :=
        ⟨removed.connections, removed.timers, removed.requested⟩
      have sharp := selectNew_sharp kept rfl tsConnectors connectorIdx answers
      have same : { engine.removeHook connector with
          con := none, conIdx := noIndex, initialized :=
            false }.ObtainsNew tsConnectors connectorIdx
            answers ↔ engine.ObtainsNew tsConnectors connectorIdx answers := by
        unfold ObtainsNew Obtains
        rw [removeHook_requested]
      rw [same] at sharp
      exact ⟨fun selects => sharp.1 selects.2, fun paired => ⟨succeeded, sharp.2 paired⟩⟩

theorem step_sharp (tsConnectors : List Connector) (good : engine.Good) (action : Action) :
    (engine.Succeeds tsConnectors action → (engine.step tsConnectors action).Good) ∧
      ((engine.step tsConnectors action).Paired → engine.Succeeds tsConnectors action) := by
  cases action with
  | select connectorIdx answers =>
    exact selectConnector_sharp good tsConnectors connectorIdx answers
  | cancel client destroy => exact cancelConnection_sharp good client destroy
  | expire timer client destroy => exact expire_sharp good timer client destroy

end Engine

/-- **Pairs of requests and releases.** Connections are requested and released in pairs, each with
one cut-off timer, in all states of a run exactly if its steps succeed. -/
theorem connections_are_paired (tsConnectors : List Connector) (actions : List Action) :
    (∀ reached, reached <+: actions →
      (reached.foldl (Engine.step tsConnectors) .initial).Paired) ↔
      Guarded (Engine.step tsConnectors) (Engine.Succeeds tsConnectors) .initial actions := by
  apply forall_prefix_iff_guarded_of_good Engine.Good Engine.Paired
  · exact fun _ good => good.paired
  · exact fun _ action good => (Engine.step_sharp tsConnectors good action).1
  · exact fun _ action good => (Engine.step_sharp tsConnectors good action).2
  · exact ⟨rfl, rfl, rfl, nofun⟩

/-- A connector as they are all, with a connection manager that cannot be reached. -/
def unreachable : Answers where
  timer := some 1
  client := false
  request := none
  uninit := true
  connectors := some [some "Kii Cloud"]
  init := true
  hook := true

/-- A connection counts as requested that there is not. -/
theorem request_without_connection :
    ¬ (Engine.step [⟨"Kii Cloud", some 0, true, true⟩] .initial
      (.select 0 unreachable)).Paired := by
  intro paired
  cases paired.connections

end Thingsee.CloudConnection
