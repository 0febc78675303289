import Thingsee.Sockets.Rules

/-!
Owns the handlers for the results of AT commands and the starts of socket work, as far
as they are made of the same few steps: a property of the modem while a socket has the
turn, and afterwards, is kept by the handlers if it is kept by these steps.

The result of the check of a full buffer is apart, since it gives up the mark that the
other handlers keep.
-/

namespace Thingsee.Sockets

open List

open Modem (RespStatus)
open Usrsock (EPIPE EINPROGRESS)

/-- The states of a socket in which an AT command is sent for it. -/
def Command.states : Command → List SocketState
  | .usocr _ => [.opening]
  | .usocl _ => [.closing]
  | .usoco _ _ => [.connecting]
  | .usord _ _ | .usorf _ _ => [.receiving]
  | .usostBinary _ _ _ | .usowrBinary _ _ | .usostData _ | .usowrData _ => [.sending]
  | .usoctl _ => [.checkingTxfull]
  | .usoso _ _ _ _ | .usogo _ _ _ | .usoli _ _ => [.socketConfig]
  | .cmee | .usoer => [.opening, .connecting, .sending, .receiving]

/-- The steps that handlers are made of. `turn state` holds while the socket `s` has the
turn in `state`, `done` when its work is done, and `after` when the handler returns. -/
structure TurnRules (s : Nat) (turn : SocketState → Ubmodem → Prop)
    (done after : Ubmodem → Prop) : Prop where
  state : ∀ {state : SocketState} {modem : Ubmodem},
    turn state modem → (modem.socket s).state = state
  stay : ∀ {state : SocketState} {modem : Ubmodem}, turn state modem → after modem
  ended : ∀ {modem : Ubmodem}, done modem → after modem
  write : ∀ {state : SocketState} {modem : Ubmodem} (message : Message),
    turn state modem → turn state (modem.write message)
  sendResponse : ∀ {state : SocketState} {modem : Ubmodem} (req : Head) (inprogress : Bool)
    (result : Int), turn state modem → turn state (modem.usrsockSendResponse req inprogress result)
  modify : ∀ {state : SocketState} {modem : Ubmodem} {change : Socket → Socket},
    (modem.socket s).Harmless (change (modem.socket s)) →
      turn state modem → turn state (modem.modify s change)
  bufferFull : ∀ {modem : Ubmodem},
    turn .sending modem → turn .sending (modem.handleSendtoBufferFull s)
  workDone : ∀ {state : SocketState} {modem : Ubmodem},
    state ≠ .checkingTxfull → turn state modem → done (modem.workDone s)
  sendEvent : ∀ {modem : Ubmodem} (events : SocketEvent),
    done modem → done (modem.usrsockSendEvent s events)
  tasks : ∀ {modem : Ubmodem} (tasks : List Task), done modem → done { modem with tasks := tasks }
  send : ∀ {state : SocketState} {modem : Ubmodem} {command : Command}, state ∈ command.states →
    turn state modem → after { modem with outstanding := some (command, s) }
  prompt : ∀ {modem : Ubmodem} {env : Env}, env.timerSet = true →
    turn .sending modem → after (modem.setTimer env .dataPromptDelay s)

namespace TurnRules

variable {s : Nat} {turn : SocketState → Ubmodem → Prop} {done after : Ubmodem → Prop}
  (rules : TurnRules s turn done after) {state : SocketState} {modem : Ubmodem} (env : Env)
include rules

variable (status : RespStatus) {command : Command} (stream : List UInt8)

theorem finish (result : Int) (checking : state ≠ .checkingTxfull) (before : turn state modem) :
    done (modem.finish s result) := by
  apply rules.workDone checking
  exact rules.sendResponse _ false result before

theorem sendCmd (fits : state ∈ command.states) (before : turn state modem) :
    after (modem.sendCmd env command s) := by
  unfold Ubmodem.sendCmd
  split
  · exact rules.send fits before
  · exact rules.stay before

theorem sendRaw (fits : state ∈ command.states) (before : turn state modem) :
    after (modem.sendRaw env command s) := by
  unfold Ubmodem.sendRaw
  split
  · exact rules.send fits before
  · exact rules.stay before

theorem socketCompleteError (err : Int) (checking : state ≠ .checkingTxfull)
    (before : turn state modem) : done (modem.socketCompleteError s err) := by
  have current := rules.state before
  unfold Ubmodem.socketCompleteError
  split
  · rename_i opening
    apply rules.finish err checking
    apply rules.modify _ before
    exact ⟨rfl, rfl, rfl, .inl rfl, id, id, .inl rfl, fun _ => .inr (.inr (.inr opening))⟩
  · rename_i sending
    have same : state = .sending := current.symm.trans sending
    subst same
    split
    · split
      · exact rules.finish err checking (rules.bufferFull before)
      · exact rules.finish _ checking before
    · exact rules.finish err checking before
  · exact rules.finish _ checking before
  · exact rules.finish err checking before

theorem getSocketErrorHandler (checking : state ≠ .checkingTxfull) (before : turn state modem) :
    after (modem.getSocketErrorHandler s status stream) := by
  unfold Ubmodem.getSocketErrorHandler
  split
  · exact rules.ended (rules.socketCompleteError _ checking before)
  · split
    · exact rules.stay before
    · exact rules.ended (rules.socketCompleteError _ checking before)

theorem getSocketError (fits : state ∈ Command.cmee.states) (before : turn state modem) :
    after (modem.getSocketError env s) := by
  unfold Ubmodem.getSocketError
  split
  · exact rules.sendCmd env fits before
  · exact rules.stay before

theorem socketErrorCmeeHandler (cmeeOk : Bool) (fits : state ∈ Command.cmee.states)
    (before : turn state modem) : after (modem.socketErrorCmeeHandler env s cmeeOk) := by
  have checking : state ≠ .checkingTxfull := by
    intro same
    simp [same, Command.states] at fits
  unfold Ubmodem.socketErrorCmeeHandler
  split
  · apply rules.ended
    exact rules.tasks _ (rules.socketCompleteError _ checking before)
  · split
    · exact rules.ended (rules.socketCompleteError _ checking before)
    · exact rules.sendCmd env fits before

theorem openSocketHandler (before : turn .opening modem) :
    after (modem.openSocketHandler env s status stream) := by
  have opening := rules.state before
  have checking : SocketState.opening ≠ .checkingTxfull := by decide
  have freeing (result : Int) : done (((modem.usrsockSendResponse (modem.socket s).req false
      result).modify s (fun sock => { sock with isFreeingPending := true })).workDone s) := by
    apply rules.workDone checking
    apply rules.modify _ (rules.sendResponse _ false result before)
    refine ⟨rfl, rfl, rfl, .inl rfl, id, id, .inl rfl, fun _ => .inr (.inr (.inr ?_))⟩
    simpa using opening
  unfold Ubmodem.openSocketHandler
  split
  · exact rules.getSocketError env (by decide) before
  · split
    · exact rules.ended (rules.tasks _ (freeing _))
    · split
      · exact rules.ended (freeing _)
      · split
        · exact rules.stay before
        · rename_i sockid _ _
          have numbered : turn .opening (modem.modify s (fun sock =>
            { sock with modemSd := sockid })) := by
            apply rules.modify _ before
            exact ⟨rfl, rfl, rfl, .inl rfl, id, id, .inr (.inr opening), .inl⟩
          apply rules.ended
          apply rules.workDone checking
          split
          · exact rules.write _ (rules.sendResponse _ false _ numbered)
          · exact rules.sendResponse _ false _ numbered

theorem socketIsClosed (checking : state ≠ .checkingTxfull) (before : turn state modem) :
    done (modem.socketIsClosed s) := by
  apply rules.workDone checking
  apply rules.modify
  · refine ⟨rfl, rfl, rfl, .inl rfl, id, id, .inl rfl, fun _ => .inr (.inl ?_)⟩
    simp
  · apply rules.sendResponse
    apply rules.modify _ before
    exact ⟨rfl, rfl, rfl, .inl rfl, fun _ => rfl, id, .inr (.inl rfl), .inl⟩

theorem closeSocket (before : turn .closing modem) : after (modem.closeSocket env s) := by
  unfold Ubmodem.closeSocket
  dsimp only
  split
  · exact rules.ended (rules.socketIsClosed (by decide) before)
  · apply rules.sendCmd env _ before
    simp [Command.states]

theorem closeSocketHandler (before : turn .closing modem) :
    after (modem.closeSocketHandler env s status) := by
  have closed := rules.socketIsClosed (by decide) before
  unfold Ubmodem.closeSocketHandler
  apply rules.ended
  split
  · exact rules.tasks _ closed
  · split
    · exact rules.tasks _ closed
    · exact closed

theorem connectSocketHandler (before : turn .connecting modem) :
    after (modem.connectSocketHandler env s status) := by
  have finished (result : Int) := rules.finish result (by decide) before
  unfold Ubmodem.connectSocketHandler
  split
  · exact rules.ended (finished _)
  · split
    · exact rules.getSocketError env (by decide) before
    · split
      · exact rules.ended (finished _)
      · have answered := rules.sendResponse (modem.socket s).req false 0 before
        exact rules.ended (rules.workDone (by decide) (rules.write _ answered))

theorem socketWriteHandler (before : turn .sending modem) :
    after (modem.socketWriteHandler env s status stream) := by
  have finished (result : Int) := rules.finish result (by decide) before
  unfold Ubmodem.socketWriteHandler
  dsimp only
  split
  · exact rules.ended (finished _)
  · split
    · exact rules.getSocketError env (by decide) before
    · split
      · exact rules.ended (finished _)
      · split
        · exact rules.ended (finished _)
        · split
          · exact rules.ended (finished _)
          · split
            · exact rules.ended (finished _)
            · exact rules.ended (rules.sendEvent .sendtoReady (finished _))

theorem clearTimerid (before : turn state modem) :
    turn state (modem.modify s (fun sock => { sock with timerid := none })) := by
  apply rules.modify _ before
  exact ⟨rfl, rfl, rfl, .inr rfl, id, id, .inl rfl, .inl⟩

theorem dataPromptDelayHandler (before : turn .sending modem) :
    after (modem.dataPromptDelayHandler env s) := by
  have expired := rules.clearTimerid before
  unfold Ubmodem.dataPromptDelayHandler
  dsimp only
  split
  · exact rules.ended (rules.finish _ (by decide) expired)
  · split
    · exact rules.ended (rules.finish _ (by decide) expired)
    · apply rules.sendRaw env _ (rules.sendResponse _ true (-EINPROGRESS) expired)
      split <;> simp [Command.states]

theorem dataPromptHandler (before : turn .sending modem) :
    after (modem.dataPromptHandler env s status) := by
  unfold Ubmodem.dataPromptHandler
  split
  · exact rules.ended (rules.finish _ (by decide) before)
  · dsimp only
    split
    · rename_i set
      exact rules.prompt set before
    · rename_i failed
      apply rules.dataPromptDelayHandler
      simpa [Ubmodem.setTimer, failed] using rules.clearTimerid before

theorem sendtoSocket (before : turn .sending modem) : after (modem.sendtoSocket env s) := by
  unfold Ubmodem.sendtoSocket
  split
  · exact rules.ended (rules.finish _ (by decide) before)
  · apply rules.sendCmd env
    · show SocketState.sending ∈ _
      split <;> simp [Command.states]
    · apply rules.modify _ before
      exact .of_eq rfl rfl rfl rfl rfl rfl rfl rfl

theorem recvfromSocket (before : turn .receiving modem) : after (modem.recvfromSocket env s) := by
  unfold Ubmodem.recvfromSocket
  dsimp only
  split
  · exact rules.ended (rules.finish _ (by decide) before)
  · apply rules.sendCmd env _ before
    split <;> simp [Command.states]

variable (inetAddr : List UInt8 → Nat) (status : RespStatus) (stream : List UInt8)

theorem socketRecvfromHandler (before : turn .receiving modem) :
    after (modem.socketRecvfromHandler env inetAddr s status stream) := by
  have finished (result : Int) := rules.finish result (by decide) before
  unfold Ubmodem.socketRecvfromHandler
  dsimp only
  split
  · exact rules.ended (finished _)
  · split
    · exact rules.getSocketError env (by decide) before
    · apply rules.ended
      split
      · exact finished _
      · split
        · exact finished _
        · split
          · exact finished _
          · split
            · exact finished _
            · split
              · exact finished _
              · exact rules.workDone (by decide) (rules.write _ before)

section

variable (before : turn .socketConfig modem)
include before

theorem setsockoptSocket : after (modem.setsockoptSocket env s) := by
  unfold Ubmodem.setsockoptSocket
  dsimp only
  split
  · exact rules.stay (rules.sendResponse _ false _ before)
  · have answered := rules.sendResponse (modem.socket s).req true (-EINPROGRESS) before
    split
    all_goals
      apply rules.sendCmd env _ answered
      simp [Command.states]

theorem configHandler : after (modem.configHandler s status) := by
  have finished (result : Int) := rules.finish result (by decide) before
  unfold Ubmodem.configHandler
  apply rules.ended
  dsimp only
  split
  · exact finished _
  · split
    · exact finished _
    · exact finished 0

theorem getsockoptHandler : after (modem.getsockoptHandler s status stream) := by
  have finished (result : Int) := rules.finish result (by decide) before
  unfold Ubmodem.getsockoptHandler
  dsimp only
  split
  · exact rules.ended (finished _)
  · split
    · exact rules.ended (finished _)
    · split
      · exact rules.stay before
      · exact rules.ended (rules.workDone (by decide) (rules.write _ before))

theorem doSocketConfig : after (modem.doSocketConfig env s) := by
  unfold Ubmodem.doSocketConfig
  dsimp only
  split
  · exact rules.ended (rules.finish _ (by decide) before)
  · split
    · exact rules.setsockoptSocket env before
    · apply rules.sendCmd env _ before
      simp [Command.states]
    · apply rules.sendCmd env _ before
      simp [Command.states]
    · exact rules.stay (rules.sendResponse _ false _ before)

end

theorem handleResult (fits : state ∈ command.states) (checking : state ≠ .checkingTxfull)
    (before : turn state modem) :
    after (modem.handleResult env inetAddr command s status stream) := by
  cases command with
  | usocr _ =>
    cases mem_singleton.1 fits
    exact rules.openSocketHandler env status stream before
  | usocl _ =>
    cases mem_singleton.1 fits
    exact rules.closeSocketHandler env status before
  | usoco _ _ =>
    cases mem_singleton.1 fits
    exact rules.connectSocketHandler env status before
  | usord _ _ | usorf _ _ =>
    cases mem_singleton.1 fits
    exact rules.socketRecvfromHandler env inetAddr status stream before
  | usostBinary _ _ _ | usowrBinary _ _ =>
    cases mem_singleton.1 fits
    exact rules.dataPromptHandler env status before
  | usostData _ | usowrData _ =>
    cases mem_singleton.1 fits
    exact rules.socketWriteHandler env status stream before
  | usoctl _ => exact absurd (mem_singleton.1 fits) checking
  | usoso _ _ _ _ | usoli _ _ =>
    cases mem_singleton.1 fits
    exact rules.configHandler status before
  | usogo _ _ _ =>
    cases mem_singleton.1 fits
    exact rules.getsockoptHandler status stream before
  | cmee => exact rules.socketErrorCmeeHandler env _ fits before
  | usoer => exact rules.getSocketErrorHandler status stream checking before

theorem doUsrsockWork (found : modem.list.find? (fun s =>
      decide ((modem.socket s).state ≠ .inactive)) = some s)
    (busy : state ≠ .inactive) (free : state ≠ .free) (before : turn state modem) :
    after (modem.doUsrsockWork env) := by
  have current := rules.state before
  unfold Ubmodem.doUsrsockWork
  rw [found]
  dsimp only
  rw [current]
  cases state with
  | inactive => contradiction
  | opening => exact rules.sendCmd env (mem_singleton.2 rfl) before
  | closing => exact rules.closeSocket env before
  | connecting => exact rules.sendCmd env (mem_singleton.2 rfl) before
  | sending => exact rules.sendtoSocket env before
  | receiving => exact rules.recvfromSocket env before
  | checkingTxfull => exact rules.sendCmd env (mem_singleton.2 rfl) before
  | socketConfig => exact rules.doSocketConfig env before
  | free => contradiction

end TurnRules

end Thingsee.Sockets
