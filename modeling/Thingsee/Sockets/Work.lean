import Thingsee.Sockets.Handlers
import Thingsee.Support.Runs

/-!
Owns the order of the socket work: at any time the daemon waits for the result of at
most one AT command, or for one delay between two of them, and the socket that this is
for stays in its state until then.
-/

namespace Thingsee.Sockets

open List

open Modem (RespStatus)

namespace Ubmodem

/-- Nothing is awaited. -/
structure Idle (modem : Ubmodem) : Prop where
  outstanding : modem.outstanding = none
  prompts : modem.prompts = []
  exist : modem.Exist

/-- What the daemon waits for: nothing, the result of one command, or one delay. -/
inductive Orderly (modem : Ubmodem) : Prop where
  | idle (nothing : modem.Idle)
  | command (command : Command) (s : Nat) (nothing : Idle { modem with outstanding := none })
      (awaited : modem.outstanding = some (command, s)) (working : modem.state = .doSocketWork)
      (known : s < modem.nextSocket) (fits : (modem.socket s).state ∈ command.states)
  | prompt (timer : Timer) (outstanding : modem.outstanding = none)
      (awaited : modem.prompts = [timer]) (working : modem.state = .doSocketWork)
      (exist : modem.Exist)
      (known : timer.socket < modem.nextSocket)
        (fits : (modem.socket timer.socket).state = .sending)

theorem Idle.of_keeps {before after : Ubmodem} (idle : before.Idle) (keeps : before.Keeps after) :
    after.Idle where
  outstanding := keeps.outstanding.trans idle.outstanding
  prompts := by
    apply sublist_nil.1
    exact idle.prompts ▸ keeps.prompts
  exist := keeps.exist idle.exist

theorem busy_of_fits {command : Command} {state : SocketState} (fits : state ∈ command.states) :
    state ≠ .inactive := by
  intro inactive
  subst inactive
  cases command <;> simp [Command.states] at fits

theorem Orderly.exist {modem : Ubmodem} (orderly : modem.Orderly) : modem.Exist := by
  cases orderly with
  | idle nothing => exact nothing.exist
  | command _ _ nothing _ _ _ _ => exact ⟨nothing.exist.list, nothing.exist.timers⟩
  | prompt _ _ _ _ exist _ _ => exact exist

theorem Orderly.of_keeps {before after : Ubmodem} (orderly : before.Orderly)
    (keeps : before.Keeps after) : after.Orderly := by
  cases orderly with
  | idle nothing => exact .idle (nothing.of_keeps keeps)
  | command command s nothing awaited working known fits =>
    have state := keeps.busy s known (busy_of_fits fits)
    apply Orderly.command command s
    · exact {
        outstanding := rfl
        prompts := by
          apply sublist_nil.1
          have none : before.prompts = [] := nothing.prompts
          exact none ▸ keeps.prompts
        exist := by
          have exist := keeps.exist ⟨nothing.exist.list, nothing.exist.timers⟩
          exact ⟨exist.list, exist.timers⟩ }
    · exact keeps.outstanding.trans awaited
    · exact keeps.state.trans working
    · exact known.trans_le keeps.nextSocket
    · exact state ▸ fits
  | prompt timer outstanding awaited working exist known fits =>
    have outstanding := keeps.outstanding.trans outstanding
    have exist := keeps.exist exist
    have sublist : after.prompts.Sublist [timer] := awaited ▸ keeps.prompts
    rcases sublist_singleton.1 sublist with none | one
    · exact .idle ⟨outstanding, none, exist⟩
    · have busy : (before.socket timer.socket).state ≠ .inactive := by simp [fits]
      apply Orderly.prompt timer outstanding one (keeps.state.trans working) exist
      · exact known.trans_le keeps.nextSocket
      · exact (keeps.busy _ known busy).trans fits

/-- A socket has the turn, and its last command or delay is over. -/
structure Turn (modem : Ubmodem) (s : Nat) : Prop where
  idle : modem.Idle
  working : modem.state = .doSocketWork
  known : s < modem.nextSocket
  busy : (modem.socket s).state ≠ .inactive

namespace Turn

variable {modem : Ubmodem} {s : Nat} (turn : modem.Turn s) (env : Env)
include turn

theorem of_keeps {after : Ubmodem} (keeps : modem.Keeps after) : after.Turn s where
  idle := turn.idle.of_keeps keeps
  working := keeps.state.trans turn.working
  known := turn.known.trans_le keeps.nextSocket
  busy := keeps.busy s turn.known turn.busy ▸ turn.busy

theorem modify {change : Socket → Socket}
    (state : (change (modem.socket s)).state = (modem.socket s).state) :
    (modem.modify s change).Turn s :=
  turn.of_keeps (modify_keeps s modem state)

theorem usrsockSendEvent (events : SocketEvent) : (modem.usrsockSendEvent s events).Turn s :=
  turn.of_keeps (usrsockSendEvent_keeps s events modem)

theorem workDone : (modem.workDone s).Idle := by
  have inactive : Idle (modem.modify s (fun sock => { sock.clearWork with state := .inactive })) :=
    ⟨turn.idle.outstanding, turn.idle.prompts, ⟨turn.idle.exist.list, turn.idle.exist.timers⟩⟩
  have updated := inactive.of_keeps (updateState_keeps turn.known)
  exact ⟨updated.outstanding, updated.prompts, ⟨updated.exist.list, updated.exist.timers⟩⟩

theorem handleSendtoBufferFull : (modem.handleSendtoBufferFull s).Turn s := by
  unfold Ubmodem.handleSendtoBufferFull
  dsimp only
  split
  · exact turn
  · exact turn.modify rfl

theorem setTimer_prompt (set : env.timerSet = true) (fits : (modem.socket s).state = .sending) :
    (modem.setTimer env .dataPromptDelay s).Orderly := by
  have none : modem.timers.filter Timer.isPrompt = [] := turn.idle.prompts
  have exist := turn.idle.exist.setTimer turn.known env .dataPromptDelay
  revert exist
  unfold Ubmodem.setTimer
  rw [if_pos set]
  intro exist
  apply Orderly.prompt ⟨modem.nextTimer, .dataPromptDelay, s⟩
  · exact turn.idle.outstanding
  · simp [prompts, none, Timer.isPrompt]
  · exact turn.working
  · exact exist
  · exact turn.known
  · simp [fits]

theorem setTimer_recheck : (modem.setTimer env .txbufFullRecheckDelay s).Turn s := by
  have exist := turn.idle.exist.setTimer turn.known env .txbufFullRecheckDelay
  revert exist
  unfold Ubmodem.setTimer
  split
  · intro exist
    have marked : Turn (modem.modify s (fun sock =>
      { sock with timerid := some modem.nextTimer })) s := turn.modify rfl
    apply marked.of_keeps
    exact {
      Keeps.refl _ with
      prompts := by simp [prompts, Timer.isPrompt, Ubmodem.modify]
      exist := fun _ => exist }
  · intro _
    exact turn.modify rfl

theorem txbufFullRecheckDelayHandler : (modem.txbufFullRecheckDelayHandler s).Turn s := by
  have marked : Turn (modem.modify s (fun sock =>
    { sock with timerid := none, txBufFullRecheck := true })) s := turn.modify rfl
  exact marked.of_keeps (updateState_keeps marked.known)

theorem setupSendtoBufferFullTimer : (modem.setupSendtoBufferFullTimer env s).Turn s := by
  unfold Ubmodem.setupSendtoBufferFullTimer
  split
  · exact turn.setTimer_recheck env
  · exact (turn.setTimer_recheck env).txbufFullRecheckDelayHandler

theorem getTcpUnackBytesHandler (status : RespStatus) (stream : List UInt8) :
    (modem.getTcpUnackBytesHandler env s status stream).Idle := by
  unfold Ubmodem.getTcpUnackBytesHandler
  dsimp only
  split
  · exact turn.workDone
  · split
    · exact (turn.usrsockSendEvent .sendtoReady).workDone
    · rename_i nbytesUnacked _
      generalize (if (modem.socket s).numUnackStart < 0 then nbytesUnacked
        else (modem.socket s).numUnackStart) = start
      split
      · apply workDone
        apply usrsockSendEvent
        apply of_keeps _ (removeSocketTimer_keeps s _)
        exact (turn.modify rfl).modify (by simp)
      · apply workDone
        apply setupSendtoBufferFullTimer
        exact turn.modify rfl

end Turn

variable {modem : Ubmodem} (s : Nat) (env : Env) {command : Command}

theorem handleSendtoBufferFull_fields (modem : Ubmodem) :
    ((modem.handleSendtoBufferFull s).socket s).state = (modem.socket s).state ∧
    ((modem.handleSendtoBufferFull s).socket s).req = (modem.socket s).req ∧
    (modem.handleSendtoBufferFull s).sent = modem.sent := by
  unfold handleSendtoBufferFull
  dsimp only
  split
  · simp
  · rw [modify_socket_self]
    exact ⟨rfl, rfl, rfl⟩

theorem orderly_rules :
    TurnRules s (fun state modem => modem.Turn s ∧ (modem.socket s).state = state) Idle
      Orderly where
  state := And.right
  stay := fun before => .idle before.1.idle
  ended := .idle
  write := by
    intro state modem message before
    refine ⟨before.1.of_keeps (Keeps.of_eq ?_ ?_ ?_ ?_ ?_ ?_), before.2⟩ <;> simp [write]
  sendResponse := by
    intro state modem req inprogress result before
    refine ⟨before.1.of_keeps (usrsockSendResponse_keeps req inprogress result modem), ?_⟩
    simpa using before.2
  modify := by
    intro state modem change harmless before
    refine ⟨before.1.of_keeps (modify_keeps s modem harmless.state), ?_⟩
    rw [modify_socket_self, harmless.state, before.2]
  bufferFull := by
    intro modem before
    refine ⟨before.1.handleSendtoBufferFull, ?_⟩
    rw [(handleSendtoBufferFull_fields s modem).1, before.2]
  workDone := fun _ before => before.1.workDone
  sendEvent := fun events idle => idle.of_keeps (usrsockSendEvent_keeps s events _)
  tasks := fun _ idle => ⟨idle.outstanding, idle.prompts, ⟨idle.exist.list, idle.exist.timers⟩⟩
  send := by
    intro state modem command fits before
    apply Orderly.command command s
    · exact ⟨rfl, before.1.idle.prompts, ⟨before.1.idle.exist.list, before.1.idle.exist.timers⟩⟩
    · rfl
    · exact before.1.working
    · exact before.1.known
    · exact before.2 ▸ fits
  prompt := fun set before => before.1.setTimer_prompt _ set before.2

theorem Turn.handleResult (inetAddr : List UInt8 → Nat) {s : Nat} (status : RespStatus)
    (stream : List UInt8) (turn : modem.Turn s) (fits : (modem.socket s).state ∈ command.states) :
    (modem.handleResult env inetAddr command s status stream).Orderly := by
  by_cases checking : (modem.socket s).state = .checkingTxfull
  · have same : ∃ sd, command = .usoctl sd := by
      rw [checking] at fits
      cases command <;> simp [Command.states] at fits
      exact ⟨_, rfl⟩
    obtain ⟨sd, rfl⟩ := same
    exact .idle (turn.getTcpUnackBytesHandler env status stream)
  · exact (orderly_rules s).handleResult env inetAddr status stream fits checking ⟨turn, rfl⟩

theorem doUsrsockWork_orderly (idle : modem.Idle) (working : modem.state = .doSocketWork) :
    (modem.doUsrsockWork env).Orderly := by
  cases found : modem.list.find? (fun s => decide ((modem.socket s).state ≠ .inactive)) with
  | none =>
    unfold doUsrsockWork
    rw [found]
    exact .idle ⟨idle.outstanding, idle.prompts, ⟨idle.exist.list, idle.exist.timers⟩⟩
  | some s =>
    have listed := mem_of_find?_eq_some found
    have busy : (modem.socket s).state ≠ .inactive := by
      simpa using List.find?_some found
    have turn : modem.Turn s := ⟨idle, working, idle.exist.list s listed, busy⟩
    by_cases free : (modem.socket s).state = .free
    · unfold doUsrsockWork
      rw [found]
      dsimp only
      rw [free]
      apply Orderly.idle
      refine ⟨idle.outstanding, idle.prompts, ⟨?_, idle.exist.timers⟩⟩
      intro other member
      exact idle.exist.list other (mem_of_mem_erase member)
    · exact (orderly_rules s).doUsrsockWork env found busy free ⟨turn, rfl⟩

theorem Orderly.turn (orderly : modem.Orderly) {s : Nat}
    (awaited : modem.outstanding = some (command, s)) :
    Turn { modem with outstanding := none } s ∧ (modem.socket s).state ∈ command.states := by
  cases orderly with
  | idle nothing =>
    rw [nothing.outstanding] at awaited
    contradiction
  | command other s' nothing sent working known fits =>
    rw [awaited] at sent
    cases sent
    exact ⟨⟨nothing, working, known, busy_of_fits fits⟩, fits⟩
  | prompt _ outstanding _ _ _ _ _ =>
    rw [outstanding] at awaited
    contradiction

theorem Orderly.idle_of_waiting (orderly : modem.Orderly) (waiting : modem.state = .waiting) :
    modem.Idle := by
  cases orderly with
  | idle nothing => exact nothing
  | command _ _ _ _ working _ _ | prompt _ _ _ working _ _ _ =>
    rw [waiting] at working
    contradiction

theorem Orderly.turn_of_prompt (orderly : modem.Orderly) {timer : Timer}
    (pending : timer ∈ modem.timers) (prompt : timer.kind = .dataPromptDelay) :
    Turn (modem.removeTimer timer.id) timer.socket ∧
      (modem.socket timer.socket).state = .sending := by
  have member : timer ∈ modem.prompts := by simp [prompts, pending, Timer.isPrompt, prompt]
  cases orderly with
  | idle nothing => simp [nothing.prompts] at member
  | command _ _ nothing _ _ _ _ =>
    have none : modem.prompts = [] := nothing.prompts
    simp [none] at member
  | prompt other outstanding awaited working exist known fits =>
    have same : timer = other := by simpa [awaited] using member
    subst same
    have removed : (modem.removeTimer timer.id).prompts = [] := by
      have only : modem.timers.filter Timer.isPrompt = [timer] := awaited
      simp only [prompts, removeTimer, filter_filter]
      rw [← filter_filter, filter_comm, only]
      simp
    have busy : (modem.socket timer.socket).state ≠ .inactive := by simp [fits]
    have exist := (removeTimer_keeps timer.id modem).exist exist
    exact ⟨⟨⟨outstanding, removed, exist⟩, working, known, busy⟩, fits⟩

variable (inetAddr : List UInt8 → Nat)

theorem step_orderly (orderly : modem.Orderly) (input : Input × Env) :
    (modem.step inetAddr input).Orderly := by
  obtain ⟨input, env⟩ := input
  have rules := keeps_rules modem orderly.exist
  have same := Keeps.refl modem
  cases input with
  | request xid request =>
    dsimp only [step]
    split
    · exact orderly.of_keeps (rules.request env xid request same)
    · exact orderly
  | result status stream =>
    dsimp only [step]
    split
    · exact orderly
    · rename_i command s awaited
      obtain ⟨turn, fits⟩ := orderly.turn awaited
      exact turn.handleResult env inetAddr status stream fits
  | timer id =>
    dsimp only [step]
    split
    · exact orderly
    · rename_i timer found
      have pending := mem_of_find?_eq_some found
      have same : timer.id = id := by simpa using List.find?_some found
      subst same
      cases kind : timer.kind with
      | dataPromptDelay =>
        obtain ⟨turn, fits⟩ := orderly.turn_of_prompt pending kind
        simp only [handleTimer, kind]
        exact (orderly_rules timer.socket).dataPromptDelayHandler env ⟨turn, fits⟩
      | txbufFullRecheckDelay =>
        simp only [handleTimer, kind]
        have known := orderly.exist.timers timer pending
        apply orderly.of_keeps
        apply (removeTimer_keeps timer.id modem).trans
        apply (modify_keeps timer.socket _ _).trans (updateState_keeps _)
        · rfl
        · exact known
  | urcRead stream => exact orderly.of_keeps (rules.urcRead stream same)
  | urcClose stream => exact orderly.of_keeps (rules.urcClose stream same)
  | work =>
    dsimp only [step]
    split
    · rename_i start
      have idle := orderly.idle_of_waiting start.1
      exact doUsrsockWork_orderly env
        ⟨idle.outstanding, idle.prompts, ⟨idle.exist.list, idle.exist.timers⟩⟩ rfl
    · exact orderly

theorem initial_orderly : initial.Orderly :=
  .idle ⟨rfl, rfl, by simp [initial], by simp [initial]⟩

theorem run_orderly (inputs : List (Input × Env)) : (initial.run inetAddr inputs).Orderly := by
  apply Support.foldl_invariant_of_keeps Orderly _ inputs initial_orderly
  intro modem input orderly
  exact step_orderly inetAddr orderly input

end Ubmodem

end Thingsee.Sockets
