import Thingsee.Sockets.Work

/-!
Owns the answers of the socket daemon: when the handler for the result of an AT command
returns, the work goes on with another command or a timer, or the request has been
answered and the work is done, except after some results that are only asserted not to
come.
-/

namespace Thingsee.Sockets

open List

open Modem (RespStatus streamGetInt8 streamGetInt32)
open Usrsock (EPIPE EINVAL EINPROGRESS)

/-- The states in which a request is in progress. -/
def SocketState.inProgress : List SocketState :=
  [.opening, .closing, .connecting, .sending, .receiving, .socketConfig]

def Message.completes : Message → Option Nat
  | .response xid false _ => some xid
  | .dataResponse xid _ _ _ => some xid
  | _ => none

def Env.asks (env : Env) : Prop :=
  env.cmeeAllocated ∧ env.commandSent

namespace Ubmodem

/-- The requests that have been completed, the newest first. -/
def completed (modem : Ubmodem) : List Nat :=
  modem.sent.filterMap Message.completes

/-- An AT command or a timer is pending on behalf of a socket. -/
def Pending (modem : Ubmodem) (s : Nat) : Prop :=
  (∃ command, modem.outstanding = some (command, s)) ∨ ∃ timer ∈ modem.timers, timer.socket = s

/-- The request of a socket has been completed once, the socket has left its state, and
the main state machine has left the socket work. -/
structure Done (before : Ubmodem) (s : Nat) (after : Ubmodem) : Prop where
  completed : after.completed = (before.socket s).req.xid :: before.completed
  left : (after.socket s).state ≠ (before.socket s).state
  waiting : after.state = .waiting

def Served (before : Ubmodem) (s : Nat) (after : Ubmodem) : Prop :=
  after.Pending s ∨ before.Done s after

variable (s : Nat) (modem : Ubmodem)

theorem removeSocketTimer_socket_state (other : Nat) (modem : Ubmodem) :
    ((modem.removeSocketTimer s).socket other).state = (modem.socket other).state := by
  unfold removeSocketTimer
  split
  · rfl
  · by_cases same : other = s
    · simp [same, removeTimer]
    · rw [modify_socket_of_ne _ _ _ same]
      rfl

theorem updateState_socket_state :
    ((modem.updateState s).socket s).state = (modem.socket s).state ∨
    ∃ makeFirst, (modem.socket s).pendingWork =
      some (((modem.updateState s).socket s).state, makeFirst) := by
  obtain same | ⟨state, makeFirst, _, work, updated⟩ := modem.updateState_cases s
  · rw [same]
    exact .inl rfl
  · refine .inr ⟨makeFirst, ?_⟩
    rw [work, updated]
    dsimp only
    split_ifs with free
    · rw [removeSocketTimer_socket_state, modify_socket_self]
    · rw [modify_socket_self]

theorem updateState_sent : (modem.updateState s).sent = modem.sent := by
  obtain same | ⟨state, makeFirst, _, _, updated⟩ := modem.updateState_cases s
  · rw [same]
  · rw [updated]
    split_ifs <;> simp [modify]

def Leaves (sock : Socket) : Prop :=
  sock.state ∈ [SocketState.opening, .connecting, .sending, .receiving, .socketConfig] ∨
    sock.state = .closing ∧ sock.isFreeingPending

theorem pendingWork_clearWork {sock : Socket} (leaves : Leaves sock) {state : SocketState}
    {makeFirst : Bool} (work : Socket.pendingWork { sock.clearWork with state := .inactive } =
      some (state, makeFirst)) : state ≠ sock.state := by
  unfold Leaves at leaves
  unfold Socket.pendingWork Socket.clearWork at work
  cases kind : sock.state <;> simp [kind] at leaves work ⊢ <;> grind

variable {before after : Ubmodem} {s : Nat}

theorem workDone_left {modem : Ubmodem} (leaves : Leaves (modem.socket s)) :
    ((modem.workDone s).socket s).state ≠ (modem.socket s).state := by
  have busy : SocketState.inactive ≠ (modem.socket s).state := by
    intro inactive
    simp [Leaves, ← inactive] at leaves
  dsimp only [workDone]
  obtain same | ⟨makeFirst, work⟩ := updateState_socket_state s
    (modem.modify s (fun sock => { sock.clearWork with state := .inactive }))
  · rw [same, modify_socket_self]
    exact busy
  · rw [modify_socket_self] at work
    exact pendingWork_clearWork leaves work

/-- Finished work completes the request once. -/
theorem Done.of_workDone {modem : Ubmodem} (leaves : Leaves (modem.socket s))
    (state : (modem.socket s).state = (before.socket s).state)
    (completed : modem.completed = (before.socket s).req.xid :: before.completed) :
    before.Done s (modem.workDone s) where
  completed := by
    rw [← completed]
    dsimp only [Ubmodem.completed, workDone]
    rw [updateState_sent]
    rfl
  left := state ▸ workDone_left leaves
  waiting := rfl

theorem usrsockSendResponse_completed (req : Head) (result : Int) (modem : Ubmodem) :
    (modem.usrsockSendResponse req false result).completed = req.xid :: modem.completed := by
  simp [completed, Message.completes]

theorem usrsockSendEvent_completed (events : SocketEvent) (modem : Ubmodem) :
    (modem.usrsockSendEvent s events).completed = modem.completed :=
  rfl

theorem Done.of_finish {modem : Ubmodem} (leaves : Leaves (modem.socket s))
    (state : (modem.socket s).state = (before.socket s).state)
    (req : (modem.socket s).req = (before.socket s).req) (sent : modem.sent = before.sent)
    (result : Int) : before.Done s (modem.finish s result) := by
  apply Done.of_workDone
  · simpa using leaves
  · simpa using state
  · rw [usrsockSendResponse_completed, req]
    dsimp only [Ubmodem.completed]
    rw [sent]

theorem Done.recoverStuckHardware (done : before.Done s after) :
    before.Done s after.recoverStuckHardware :=
  ⟨done.completed, done.left, done.waiting⟩

theorem Done.usrsockSendEvent (done : before.Done s after) (events : SocketEvent) :
    before.Done s (after.usrsockSendEvent s events) :=
  ⟨done.completed, done.left, done.waiting⟩

section Handlers

variable {modem : Ubmodem}

theorem finish_done (leaves : Leaves (modem.socket s)) (result : Int) :
    modem.Done s (modem.finish s result) :=
  Done.of_finish leaves rfl rfl rfl result

theorem leaves_of_cmee (fits : (modem.socket s).state ∈ Command.cmee.states) :
    Leaves (modem.socket s) := by
  left
  simp only [Command.states, mem_cons, not_mem_nil, or_false] at fits ⊢
  tauto

theorem socketCompleteError_done (fits : (modem.socket s).state ∈ Command.cmee.states) (err : Int) :
    modem.Done s (modem.socketCompleteError s err) := by
  have leaves := leaves_of_cmee fits
  unfold socketCompleteError
  split
  · apply Done.of_finish
    · simp [Leaves, *]
    · rw [modify_socket_self]
    · rw [modify_socket_self]
    · rfl
  · rename_i sending
    split
    · split
      · obtain ⟨state, req, sent⟩ := handleSendtoBufferFull_fields s modem
        apply Done.of_finish _ state req sent
        simp [Leaves, state, sending]
      · exact finish_done leaves _
    · exact finish_done leaves err
  · exact finish_done leaves _
  · exact finish_done leaves err

end Handlers

/-- The results, and the circumstances, with which a handler goes on or ends the work. -/
def Ends (env : Env) (sock : Socket) (status : RespStatus) (stream : List UInt8) :
    Command → Prop
  | .usocr _ =>
    (status = .error → env.asks) ∧ (status = .ok → streamGetInt8 stream ≠ none)
  | .usoco _ _ | .usord _ _ | .usorf _ _ => sock.isClosed = false → status = .error → env.asks
  | .usostBinary _ _ _ | .usowrBinary _ _ =>
    status = .dataprompt → env.timerSet ∨ env.rawSent ∨
      ∀ data, env.data = some data → data.length ≠ sock.buflen
  | .usostData _ | .usowrData _ =>
    sock.isClosed = false → 0 ≤ sock.modemSd → status = .error → env.asks
  | .usogo _ _ _ =>
    sock.isClosed = false → 0 ≤ sock.modemSd → status = .ok →
      readOptval sock.config.option stream ≠ none
  | .cmee => readCmee status stream → sock.isClosed = false → env.commandSent
  | .usoer => status = .ok → streamGetInt32 stream ≠ none
  | .usocl _ | .usoctl _ | .usoso _ _ _ _ | .usoli _ _ => True

section Results

variable {modem : Ubmodem} (env : Env) (status : RespStatus) (stream : List UInt8)

theorem served_of_unchanged {after : Ubmodem} (outstanding : after.outstanding = none)
    (timers : after.timers = modem.timers) (completed : after.completed = modem.completed) :
    modem.Served s after ↔ ∃ timer ∈ modem.timers, timer.socket = s := by
  constructor
  · rintro ((⟨command, sent⟩ | pending) | done)
    · rw [outstanding] at sent
      contradiction
    · exact timers ▸ pending
    · have grown := done.completed
      rw [completed] at grown
      exact absurd grown.symm (cons_ne_self _ _)
  · intro pending
    exact .inl (.inr (timers ▸ pending))

/-! ## Handlers -/

theorem sendCmd_served (idle : modem.outstanding = none) (command : Command) :
    modem.Served s (modem.sendCmd env command s) ↔
      env.commandSent ∨ ∃ timer ∈ modem.timers, timer.socket = s := by
  unfold sendCmd
  split
  · rename_i sent
    exact iff_of_true (.inl (.inl ⟨command, rfl⟩)) (.inl sent)
  · rename_i failed
    rw [served_of_unchanged idle rfl rfl]
    simp [failed]

theorem getSocketError_served (idle : modem.outstanding = none) :
    modem.Served s (modem.getSocketError env s) ↔
      env.asks ∨ ∃ timer ∈ modem.timers, timer.socket = s := by
  unfold getSocketError
  split
  · rename_i allocated
    rw [sendCmd_served env idle]
    simp [Env.asks, allocated]
  · rename_i failed
    rw [served_of_unchanged idle rfl rfl]
    simp [Env.asks, failed]

theorem failed_iff (status : RespStatus) :
    (respStatusIsErrorOrTimeout status ∨ status ≠ .ok) ↔ status ≠ .ok := by
  cases status <;> decide

theorem getSocketErrorHandler_served (idle : modem.outstanding = none)
    (fits : (modem.socket s).state ∈ Command.usoer.states) :
    modem.Served s (modem.getSocketErrorHandler s status stream) ↔
      Ends env (modem.socket s) status stream .usoer ∨
        ∃ timer ∈ modem.timers, timer.socket = s := by
  have done (err : Int) := socketCompleteError_done fits err
  unfold getSocketErrorHandler
  simp only [failed_iff]
  split
  · rename_i failed
    exact iff_of_true (.inr (done _)) (.inl (fun ok => absurd ok failed))
  · rename_i ok
    split
    · rename_i short
      rw [served_of_unchanged idle rfl rfl]
      simp [Ends, not_not.1 ok, short]
    · rename_i read
      apply iff_of_true (.inr (done _))
      simp [Ends, read]

theorem socketErrorCmeeHandler_served (idle : modem.outstanding = none)
    (fits : (modem.socket s).state ∈ Command.cmee.states) :
    modem.Served s (modem.socketErrorCmeeHandler env s (readCmee status stream)) ↔
      Ends env (modem.socket s) status stream .cmee ∨
        ∃ timer ∈ modem.timers, timer.socket = s := by
  have done (err : Int) := socketCompleteError_done fits err
  unfold socketErrorCmeeHandler
  split
  · rename_i failed
    apply iff_of_true (.inr (done _).recoverStuckHardware)
    simp [Ends, failed]
  · rename_i read
    split
    · rename_i closed
      apply iff_of_true (.inr (done _))
      simp [Ends, closed]
    · rename_i opened
      rw [sendCmd_served env idle]
      simp [Ends, Bool.eq_true_of_not_eq_false read, Bool.eq_false_of_not_eq_true opened]

theorem openSocketHandler_served (idle : modem.outstanding = none)
    (fits : (modem.socket s).state = .opening) (type : Nat) :
    modem.Served s (modem.openSocketHandler env s status stream) ↔
      Ends env (modem.socket s) status stream (.usocr type) ∨
        ∃ timer ∈ modem.timers, timer.socket = s := by
  have leaves : Leaves (modem.socket s) := by simp [Leaves, fits]
  have freed (result : Int) : modem.Done s
      (((modem.usrsockSendResponse (modem.socket s).req false result).modify s (fun sock =>
        { sock with isFreeingPending := true })).workDone s) := by
    apply Done.of_workDone
    · simp [Leaves, fits]
    · simp
    · exact usrsockSendResponse_completed _ _ _
  unfold openSocketHandler
  simp only [failed_iff]
  split
  · rename_i error
    rw [getSocketError_served env idle]
    simp [Ends, error]
  · rename_i notError
    split
    · rename_i timeout
      apply iff_of_true (.inr (freed _).recoverStuckHardware)
      simp [Ends, timeout]
    · split
      · rename_i failed
        apply iff_of_true (.inr (freed _))
        simp [Ends, notError, failed]
      · rename_i ok
        split
        · rename_i short
          rw [served_of_unchanged idle rfl rfl]
          simp [Ends, not_not.1 ok, short]
        · rename_i read
          apply iff_of_true _ (.inl ⟨fun error => absurd error notError, fun _ => by simp [read]⟩)
          apply Or.inr
          apply Done.of_workDone
          · split <;> simp [Leaves, fits, usrsockSendEvent, write]
          · split <;> simp [usrsockSendEvent, write]
          · split
            · rw [usrsockSendEvent_completed, usrsockSendResponse_completed]
              rfl
            · rw [usrsockSendResponse_completed]
              rfl

theorem closeSocketHandler_served (fits : (modem.socket s).state = .closing) :
    modem.Served s (modem.closeSocketHandler env s status) := by
  have done : modem.Done s (modem.socketIsClosed s) := by
    apply Done.of_workDone
    · simp [Leaves, fits]
    · simp
    · simp [Ubmodem.completed, Message.completes, modify]
  unfold closeSocketHandler
  apply Or.inr
  split
  · exact done.recoverStuckHardware
  · split
    · exact ⟨done.completed, done.left, done.waiting⟩
    · exact done

theorem connectSocketHandler_served (idle : modem.outstanding = none)
    (fits : (modem.socket s).state = .connecting) (sd : Int) (addr : Address) :
    modem.Served s (modem.connectSocketHandler env s status) ↔
      Ends env (modem.socket s) status stream (.usoco sd addr) ∨
        ∃ timer ∈ modem.timers, timer.socket = s := by
  have leaves : Leaves (modem.socket s) := by simp [Leaves, fits]
  unfold connectSocketHandler
  split
  · rename_i closed
    apply iff_of_true (.inr (finish_done leaves _))
    simp [Ends, closed]
  · rename_i opened
    split
    · rename_i error
      rw [getSocketError_served env idle]
      simp [Ends, error, Bool.eq_false_of_not_eq_true opened]
    · rename_i notError
      split
      · apply iff_of_true (.inr (finish_done leaves _))
        simp [Ends, notError]
      · apply iff_of_true
        · apply Or.inr
          apply Done.of_workDone
          · simpa [usrsockSendEvent, write] using leaves
          · simp [usrsockSendEvent, write]
          · rw [usrsockSendEvent_completed, usrsockSendResponse_completed]
        · simp [Ends, notError]

section

variable (idle : modem.outstanding = none) (fits : (modem.socket s).state = .sending)
include idle fits

theorem socketWriteHandler_served (data : List UInt8) :
    modem.Served s (modem.socketWriteHandler env s status stream) ↔
      Ends env (modem.socket s) status stream (.usostData data) ∨
        ∃ timer ∈ modem.timers, timer.socket = s := by
  have leaves : Leaves (modem.socket s) := by simp [Leaves, fits]
  unfold socketWriteHandler
  dsimp only
  split
  · rename_i closed
    apply iff_of_true (.inr (finish_done leaves _))
    left
    intro opened connected
    simp [opened, connected.not_gt] at closed
  · rename_i opened
    simp only [not_or, not_lt, Bool.not_eq_true] at opened
    split
    · rename_i error
      rw [getSocketError_served env idle]
      simp [Ends, error, opened]
    · rename_i notError
      have ends : Ends env (modem.socket s) status stream (.usostData data) := by
        intro _ _ error
        contradiction
      apply iff_of_true _ (.inl ends)
      apply Or.inr
      split
      · exact finish_done leaves _
      · split
        · exact finish_done leaves _
        · split
          · exact finish_done leaves _
          · split
            · exact finish_done leaves _
            · exact (finish_done leaves _).usrsockSendEvent .sendtoReady

theorem dataPromptDelayHandler_served :
    modem.Served s (modem.dataPromptDelayHandler env s) ↔
      (env.rawSent ∨ ∀ data, env.data = some data → data.length ≠ (modem.socket s).buflen) ∨
        ∃ timer ∈ modem.timers, timer.socket = s := by
  have done (result : Int) : modem.Done s
      ((modem.modify s (fun sock => { sock with timerid := none })).finish s result) := by
    apply Done.of_finish
    · simp [Leaves, fits]
    · rw [modify_socket_self]
    · rw [modify_socket_self]
    · rfl
  unfold dataPromptDelayHandler
  dsimp only
  split
  · rename_i missing
    apply iff_of_true (.inr (done _))
    simp [missing]
  · rename_i data read
    split
    · rename_i incomplete
      apply iff_of_true (.inr (done _))
      left; right
      intro other readOther
      rw [read] at readOther
      cases readOther
      simpa using incomplete
    · rename_i complete
      unfold sendRaw
      split
      · rename_i sent
        exact iff_of_true (.inl (.inl ⟨_, rfl⟩)) (.inl (.inl sent))
      · rename_i failed
        rw [served_of_unchanged]
        · simp at complete
          simp [failed, read, complete]
        · simpa [modify] using idle
        · simp [modify]
        · dsimp only [Ubmodem.completed]
          simp only [usrsockSendResponse_fields]
          rfl

theorem dataPromptHandler_served (sd : Int) (length : Nat) :
    modem.Served s (modem.dataPromptHandler env s status) ↔
      Ends env (modem.socket s) status stream (.usowrBinary sd length) ∨
        ∃ timer ∈ modem.timers, timer.socket = s := by
  have leaves : Leaves (modem.socket s) := by simp [Leaves, fits]
  have prompt : (respStatusIsErrorOrTimeout status ∨ status ≠ .dataprompt) ↔
      status ≠ .dataprompt := by
    cases status <;> decide
  unfold dataPromptHandler
  simp only [prompt]
  split
  · rename_i failed
    exact iff_of_true (.inr (finish_done leaves _)) (.inl (fun prompt => absurd prompt failed))
  · rename_i prompted
    split
    · rename_i set
      apply iff_of_true
      · left; right
        simp [setTimer, set]
      · exact .inl (fun _ => .inl set)
    · rename_i failed
      -- The handler clears the identifier of the timer once more.
      have cleared : (modem.setTimer env .dataPromptDelay s).dataPromptDelayHandler env s =
          modem.dataPromptDelayHandler env s := by
        simp [setTimer, failed, dataPromptDelayHandler, modify]
      rw [cleared, dataPromptDelayHandler_served env idle fits]
      simp [Ends, not_not.1 prompted, failed]

end

variable (inetAddr : List UInt8 → Nat)

theorem socketRecvfromHandler_served (idle : modem.outstanding = none)
    (fits : (modem.socket s).state = .receiving) (sd : Int) (length : Nat) :
    modem.Served s (modem.socketRecvfromHandler env inetAddr s status stream) ↔
      Ends env (modem.socket s) status stream (.usord sd length) ∨
        ∃ timer ∈ modem.timers, timer.socket = s := by
  have leaves : Leaves (modem.socket s) := by simp [Leaves, fits]
  unfold socketRecvfromHandler
  dsimp only
  split
  · rename_i closed
    apply iff_of_true (.inr (finish_done leaves _))
    simp [Ends, closed]
  · rename_i opened
    split
    · rename_i error
      rw [getSocketError_served env idle]
      simp [Ends, error, Bool.eq_false_of_not_eq_true opened]
    · rename_i notError
      apply iff_of_true
      · apply Or.inr
        split
        · exact finish_done leaves _
        · split
          · exact finish_done leaves _
          · split
            · exact finish_done leaves _
            · split
              · exact finish_done leaves _
              · split
                · exact finish_done leaves _
                · exact Done.of_workDone leaves rfl rfl
      · simp [Ends, notError]

theorem configHandler_served (fits : (modem.socket s).state = .socketConfig) :
    modem.Served s (modem.configHandler s status) := by
  have leaves : Leaves (modem.socket s) := by simp [Leaves, fits]
  unfold configHandler
  apply Or.inr
  dsimp only
  split
  · exact finish_done leaves _
  · split
    · exact finish_done leaves _
    · exact finish_done leaves 0

theorem getsockoptHandler_served (idle : modem.outstanding = none)
    (fits : (modem.socket s).state = .socketConfig) (sd : Int) (level option : Nat) :
    modem.Served s (modem.getsockoptHandler s status stream) ↔
      Ends env (modem.socket s) status stream (.usogo sd level option) ∨
        ∃ timer ∈ modem.timers, timer.socket = s := by
  have leaves : Leaves (modem.socket s) := by simp [Leaves, fits]
  unfold getsockoptHandler
  simp only [failed_iff]
  split
  · rename_i closed
    apply iff_of_true (.inr (finish_done leaves _))
    left
    intro opened connected
    simp [opened, connected.not_gt] at closed
  · rename_i opened
    simp only [not_or, not_lt, Bool.not_eq_true] at opened
    split
    · rename_i failed
      apply iff_of_true (.inr (finish_done leaves _))
      left
      intro _ _ ok
      contradiction
    · rename_i ok
      split
      · rename_i short
        rw [served_of_unchanged idle rfl rfl]
        simp [Ends, opened, not_not.1 ok, short]
      · rename_i read
        apply iff_of_true (.inr (Done.of_workDone leaves rfl rfl))
        simp [Ends, read]

/-- A result serves its request exactly if it ends it or leaves a timer. -/
theorem handleResult_served (idle : modem.outstanding = none) {command : Command}
    (fits : (modem.socket s).state ∈ command.states)
    (progress : (modem.socket s).state ∈ SocketState.inProgress) :
    modem.Served s (modem.handleResult env inetAddr command s status stream) ↔
      Ends env (modem.socket s) status stream command ∨
        ∃ timer ∈ modem.timers, timer.socket = s := by
  cases command with
  | usocr type =>
    exact openSocketHandler_served env status stream idle (mem_singleton.1 fits) type
  | usocl _ =>
    apply iff_of_true _ (.inl trivial)
    exact closeSocketHandler_served env status (mem_singleton.1 fits)
  | usoco sd addr =>
    exact connectSocketHandler_served env status stream idle (mem_singleton.1 fits) sd addr
  | usord sd length | usorf sd length =>
    exact socketRecvfromHandler_served env status stream inetAddr idle (mem_singleton.1 fits)
      sd length
  | usostBinary sd _ length | usowrBinary sd length =>
    exact dataPromptHandler_served env status stream idle (mem_singleton.1 fits) sd length
  | usostData data | usowrData data =>
    exact socketWriteHandler_served env status stream idle (mem_singleton.1 fits) data
  | usoctl _ =>
    have checking : (modem.socket s).state = .checkingTxfull := mem_singleton.1 fits
    simp [checking, SocketState.inProgress] at progress
  | usoso _ _ _ _ | usoli _ _ =>
    apply iff_of_true _ (.inl trivial)
    exact configHandler_served status (mem_singleton.1 fits)
  | usogo sd level option =>
    exact getsockoptHandler_served env status stream idle
      (mem_singleton.1 fits) sd level option
  | cmee => exact socketErrorCmeeHandler_served env status stream idle fits
  | usoer => exact getSocketErrorHandler_served env status stream idle fits

end Results

variable (inetAddr : List UInt8 → Nat)

/-- In every run, the handler for the result of the awaited command goes on or ends the
work exactly if the result is one that it expects, or a timer of the socket is pending
anyway. -/
theorem results_are_served (inputs : List (Input × Env)) {command : Command} {s : Nat}
    (awaited : (initial.run inetAddr inputs).outstanding = some (command, s))
    (progress : ((initial.run inetAddr inputs).socket s).state ∈ SocketState.inProgress)
    (status : RespStatus) (stream : List UInt8) (env : Env) :
    (initial.run inetAddr inputs).Served s
        ((initial.run inetAddr inputs).step inetAddr (.result status stream, env)) ↔
      Ends env ((initial.run inetAddr inputs).socket s) status stream command ∨
        ∃ timer ∈ (initial.run inetAddr inputs).timers, timer.socket = s := by
  obtain ⟨turn, fits⟩ := (run_orderly inetAddr inputs).turn awaited
  generalize initial.run inetAddr inputs = modem at *
  have served := handleResult_served env status stream inetAddr turn.idle.outstanding fits progress
  -- Taking the result changes nothing that the expectation reads.
  have same (after : Ubmodem) : modem.Served s after ↔
      Served { modem with outstanding := none } s after := by
    constructor
    all_goals exact Or.imp_right (fun done => ⟨done.completed, done.left, done.waiting⟩)
  simp only [step, awaited]
  rw [same]
  exact served

/-- A stream socket is requested, and the main state machine starts to open it. -/
def opening : List (Input × Env) :=
  [(.request 5 (.socket 2 0), .usual), (.work, .usual)]

theorem opened_socket_is_served :
    (initial.run (fun _ => 0) opening).Served 0
      ((initial.run (fun _ => 0) opening).step (fun _ => 0) (.result .ok [3], .usual)) := by
  have awaited : (initial.run (fun _ => 0) opening).outstanding = some (.usocr 6, 0) := by decide
  apply (results_are_served (fun _ => 0) opening awaited (by decide) .ok [3] .usual).2
  left
  exact ⟨by simp, by decide⟩

/-- After `OK` without the number of the new socket nothing is pending, and no answer is
sent. -/
theorem opening_socket_is_stuck :
    (initial.run (fun _ => 0) opening).outstanding = some (.usocr 6, 0) ∧
    ((initial.run (fun _ => 0) opening).socket 0).state ∈ SocketState.inProgress ∧
    ¬ (initial.run (fun _ => 0) opening).Served 0
      ((initial.run (fun _ => 0) opening).step (fun _ => 0) (.result .ok [], .usual)) := by
  refine ⟨by decide, by decide, ?_⟩
  rintro ((⟨command, sent⟩ | ⟨timer, pending, _⟩) | done)
  · have idle : ((initial.run (fun _ => 0) opening).step (fun _ => 0)
        (.result .ok [], .usual)).outstanding = none := by decide
    simp [idle] at sent
  · have none : ((initial.run (fun _ => 0) opening).step (fun _ => 0)
        (.result .ok [], .usual)).timers = [] := by decide
    simp [none] at pending
  · have working : ((initial.run (fun _ => 0) opening).step (fun _ => 0)
        (.result .ok [], .usual)).state = .doSocketWork := by decide
    simp [done.waiting] at working

end Ubmodem

end Thingsee.Sockets
