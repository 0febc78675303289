import Thingsee.Sockets.Requests

/-!
Owns what requests, unsolicited results and the timers of full buffers keep. They are
made of a few steps, so that a property that these steps keep is kept by all of them.
-/

namespace Thingsee.Sockets

open List

def Timer.isPrompt (timer : Timer) : Bool :=
  decide (timer.kind = .dataPromptDelay)

namespace Ubmodem

def prompts (modem : Ubmodem) : List Timer :=
  modem.timers.filter Timer.isPrompt

section Fields

variable (modem : Ubmodem) (s : Nat) (change : Socket → Socket)

@[simp]
theorem modify_socket_self : (modem.modify s change).socket s = change (modem.socket s) := by
  simp [modify]

theorem modify_socket_of_ne {other : Nat} (ne : other ≠ s) :
    (modem.modify s change).socket other = modem.socket other := by
  simp [modify, ne]

@[simp]
theorem removeXidFromPollOffList_fields (xid : Nat) :
    (modem.removeXidFromPollOffList xid).socket = modem.socket ∧
    (modem.removeXidFromPollOffList xid).state = modem.state ∧
    (modem.removeXidFromPollOffList xid).list = modem.list ∧
    (modem.removeXidFromPollOffList xid).nextSocket = modem.nextSocket ∧
    (modem.removeXidFromPollOffList xid).outstanding = modem.outstanding ∧
    (modem.removeXidFromPollOffList xid).timers = modem.timers ∧
    (modem.removeXidFromPollOffList xid).nextTimer = modem.nextTimer ∧
    (modem.removeXidFromPollOffList xid).sent = modem.sent := by
  unfold removeXidFromPollOffList
  split_ifs <;> simp

@[simp]
theorem usrsockSendResponse_fields (req : Head) (inprogress : Bool) (result : Int) :
    (modem.usrsockSendResponse req inprogress result).socket = modem.socket ∧
    (modem.usrsockSendResponse req inprogress result).state = modem.state ∧
    (modem.usrsockSendResponse req inprogress result).list = modem.list ∧
    (modem.usrsockSendResponse req inprogress result).nextSocket = modem.nextSocket ∧
    (modem.usrsockSendResponse req inprogress result).outstanding = modem.outstanding ∧
    (modem.usrsockSendResponse req inprogress result).timers = modem.timers ∧
    (modem.usrsockSendResponse req inprogress result).nextTimer = modem.nextTimer ∧
    (modem.usrsockSendResponse req inprogress result).sent =
      .response req.xid inprogress result :: modem.sent := by
  simp [usrsockSendResponse, write]

end Fields

structure Exist (modem : Ubmodem) : Prop where
  list : ∀ s ∈ modem.list, s < modem.nextSocket
  timers : ∀ timer ∈ modem.timers, timer.socket < modem.nextSocket

theorem Exist.of_sublist {before after : Ubmodem} (exist : before.Exist)
    (list : after.list = before.list) (timers : after.timers.Sublist before.timers)
    (nextSocket : before.nextSocket ≤ after.nextSocket) : after.Exist where
  list := by
    intro s member
    exact (exist.list s (list ▸ member)).trans_le nextSocket
  timers := by
    intro timer member
    exact (exist.timers timer (timers.subset member)).trans_le nextSocket

theorem Exist.setTimer {modem : Ubmodem} (exist : modem.Exist) {s : Nat}
    (known : s < modem.nextSocket) (env : Env) (kind : TimerKind) :
    (modem.setTimer env kind s).Exist := by
  unfold Ubmodem.setTimer
  split
  · refine ⟨exist.list, ?_⟩
    intro timer member
    rcases mem_append.1 member with member | new
    · exact exist.timers timer member
    · have same : timer.socket = s := by rw [mem_singleton.1 new]
      exact same ▸ known
  · exact ⟨exist.list, exist.timers⟩

/-- What requests, unsolicited results and the timer of a full buffer keep: the command
and the delay that the daemon waits for, and the state of each socket that has work. -/
structure Keeps (before after : Ubmodem) : Prop where
  state : after.state = before.state
  outstanding : after.outstanding = before.outstanding
  prompts : after.prompts.Sublist before.prompts
  nextSocket : before.nextSocket ≤ after.nextSocket
  busy : ∀ s < before.nextSocket, (before.socket s).state ≠ .inactive →
    (after.socket s).state = (before.socket s).state
  exist : before.Exist → after.Exist

namespace Keeps

theorem refl (modem : Ubmodem) : modem.Keeps modem where
  state := rfl
  outstanding := rfl
  prompts := List.Sublist.refl _
  nextSocket := le_rfl
  busy := by simp
  exist := id

theorem trans {first second third : Ubmodem} (left : first.Keeps second)
    (right : second.Keeps third) : first.Keeps third where
  state := right.state.trans left.state
  outstanding := right.outstanding.trans left.outstanding
  prompts := right.prompts.trans left.prompts
  nextSocket := left.nextSocket.trans right.nextSocket
  busy := by
    intro s known busy
    have same := left.busy s known busy
    rw [right.busy s (known.trans_le left.nextSocket) (same ▸ busy), same]
  exist := fun exist => right.exist (left.exist exist)

theorem of_eq {before after : Ubmodem} (state : after.state = before.state)
    (outstanding : after.outstanding = before.outstanding) (timers : after.timers = before.timers)
    (nextSocket : after.nextSocket = before.nextSocket)
    (socket : ∀ s, (after.socket s).state = (before.socket s).state)
    (list : after.list = before.list) : before.Keeps after where
  state := state
  outstanding := outstanding
  prompts := by simp [Ubmodem.prompts, timers]
  nextSocket := nextSocket.ge
  busy := by simp [socket]
  exist := fun exist =>
    exist.of_sublist list (timers ▸ List.Sublist.refl _) nextSocket.ge

end Keeps

variable (s : Nat) (modem : Ubmodem)

theorem usrsockSendResponse_keeps (req : Head) (inprogress : Bool) (result : Int)
    (modem : Ubmodem) : modem.Keeps (modem.usrsockSendResponse req inprogress result) := by
  apply Keeps.of_eq <;> simp

theorem usrsockSendEvent_keeps (events : SocketEvent) (modem : Ubmodem) :
    modem.Keeps (modem.usrsockSendEvent s events) := by
  apply Keeps.of_eq <;> simp [usrsockSendEvent, write]

theorem modify_keeps {change : Socket → Socket}
    (state : (change (modem.socket s)).state = (modem.socket s).state) :
    modem.Keeps (modem.modify s change) := by
  apply Keeps.of_eq <;> try rfl
  intro other
  by_cases same : other = s
  · subst same
    rw [modify_socket_self, state]
  · rw [modify_socket_of_ne _ _ _ same]

theorem removeTimer_keeps (id : Nat) (modem : Ubmodem) : modem.Keeps (modem.removeTimer id) := {
  Keeps.refl modem with
  prompts := by
    apply List.Sublist.filter
    exact filter_sublist
  exist := fun exist => exist.of_sublist rfl filter_sublist le_rfl }

theorem removeSocketTimer_keeps : modem.Keeps (modem.removeSocketTimer s) := by
  unfold removeSocketTimer
  split
  · exact Keeps.refl modem
  · exact (removeTimer_keeps _ modem).trans (modify_keeps s _ rfl)

@[simp]
theorem removeSocketTimer_fields :
    (modem.removeSocketTimer s).list = modem.list ∧
    (modem.removeSocketTimer s).state = modem.state ∧
    (modem.removeSocketTimer s).outstanding = modem.outstanding ∧
    (modem.removeSocketTimer s).nextSocket = modem.nextSocket ∧
    (modem.removeSocketTimer s).nextTimer = modem.nextTimer ∧
    (modem.removeSocketTimer s).sent = modem.sent := by
  unfold removeSocketTimer
  split <;> simp [removeTimer, modify]

theorem updateState_cases :
    modem.updateState s = modem ∨
    ∃ state makeFirst, (modem.socket s).state = .inactive ∧
      (modem.socket s).pendingWork = some (state, makeFirst) ∧
      modem.updateState s =
        { (if state = .free then
            (modem.modify s (fun sock => { sock with state := state })).removeSocketTimer s
          else modem.modify s (fun sock => { sock with state := state })) with
          list := if makeFirst then s :: modem.list.erase s else modem.list.erase s ++ [s] } := by
  unfold updateState
  split_ifs with busy
  · exact .inl rfl
  · split
    · exact .inl rfl
    · rename_i state makeFirst work
      refine .inr ⟨state, makeFirst, not_not.1 busy, work, ?_⟩
      by_cases free : state = .free <;> simp [free, modify]

theorem updateState_keeps {s : Nat} {modem : Ubmodem} (known : s < modem.nextSocket) :
    modem.Keeps (modem.updateState s) := by
  obtain same | ⟨state, makeFirst, inactive, _, updated⟩ := modem.updateState_cases s
  · rw [same]
    exact Keeps.refl modem
  · have marked : modem.Keeps (modem.modify s (fun sock => { sock with state := state })) := {
      Keeps.refl modem with
      busy := by
        intro other _ otherBusy
        have ne : other ≠ s := by
          intro same
          exact otherBusy (same ▸ inactive)
        rw [modify_socket_of_ne _ _ _ ne]
      exist := fun exist => ⟨exist.list, exist.timers⟩ }
    have freed : modem.Keeps
        (if state = .free then
          (modem.modify s (fun sock => { sock with state := state })).removeSocketTimer s
        else modem.modify s (fun sock => { sock with state := state })) := by
      split_ifs
      · exact marked.trans (removeSocketTimer_keeps s _)
      · exact marked
    rw [updated]
    exact {
      freed with
      exist := by
        intro exist
        refine ⟨?_, (freed.exist exist).timers⟩
        intro other member
        apply lt_of_lt_of_le _ freed.nextSocket
        have member : other = s ∨ other ∈ modem.list.erase s := by
          revert member
          split_ifs <;> simp [or_comm]
        rcases member with same | member
        · exact same ▸ known
        · exact exist.list other (mem_of_mem_erase member) }

end Ubmodem

/-- The changes of a socket that leave its state and the marks of its full buffer alone.
Only a closed socket loses its number, and only while it is opened it gets one. -/
structure Socket.Harmless (before after : Socket) : Prop where
  state : after.state = before.state
  txBufFull : after.txBufFull = before.txBufFull
  txBufFullRecheck : after.txBufFullRecheck = before.txBufFullRecheck
  timerid : after.timerid = before.timerid ∨ after.timerid = none
  isClosed : before.isClosed → after.isClosed
  isClosing : before.isClosing → after.isClosing
  modemSd : after.modemSd = before.modemSd ∨ after.isClosed ∨ before.state = .opening
  isFreeingPending : after.isFreeingPending →
    before.isFreeingPending ∨ before.isClosed ∨ before.modemSd < 0 ∨ before.state = .opening

theorem Socket.Harmless.of_eq {before after : Socket} (state : after.state = before.state)
    (txBufFull : after.txBufFull = before.txBufFull)
    (txBufFullRecheck : after.txBufFullRecheck = before.txBufFullRecheck)
    (timerid : after.timerid = before.timerid) (isClosed : after.isClosed = before.isClosed)
    (isClosing : after.isClosing = before.isClosing) (modemSd : after.modemSd = before.modemSd)
    (isFreeingPending : after.isFreeingPending = before.isFreeingPending) :
    before.Harmless after where
  state := state
  txBufFull := txBufFull
  txBufFullRecheck := txBufFullRecheck
  timerid := .inl timerid
  isClosed := fun closed => isClosed ▸ closed
  isClosing := fun closing => isClosing ▸ closing
  modemSd := .inl modemSd
  isFreeingPending := fun freeing => .inl (isFreeingPending ▸ freeing)

/-- The steps that requests and unsolicited results are made of. -/
structure Rules (holds : Ubmodem → Prop) : Prop where
  sendResponse : ∀ {modem : Ubmodem} (req : Head) (inprogress : Bool) (result : Int),
    holds modem → holds (modem.usrsockSendResponse req inprogress result)
  sendEvent : ∀ {modem : Ubmodem} (s : Nat) (events : SocketEvent),
    holds modem → holds (modem.usrsockSendEvent s events)
  addXid : ∀ {modem : Ubmodem} (xid : Nat), holds modem → holds (modem.addXidToPollOffList xid)
  modify : ∀ {modem : Ubmodem} {s : Nat} {change : Socket → Socket},
    (modem.socket s).Harmless (change (modem.socket s)) → holds modem →
      holds (modem.modify s change)
  updateState : ∀ {modem : Ubmodem} {s : Nat},
    s ∈ modem.list → holds modem → holds (modem.updateState s)
  new : ∀ {modem : Ubmodem} (usockid : Int) (type : SockType) (head : Head) (counter : Nat),
    holds modem → holds { modem with
      socket := Function.update modem.socket modem.nextSocket (Socket.new usockid type head)
      list := modem.nextSocket :: modem.list
      nextSocket := modem.nextSocket + 1
      usockidCounter := counter }

namespace Rules

variable {holds : Ubmodem → Prop} {modem : Ubmodem} (rules : Rules holds) (env : Env) (head : Head)
include rules

variable (usockid : Int) (addrlen : Nat)

theorem mark {s : Nat} {change : Socket → Socket} (listed : s ∈ modem.list)
    (harmless : (modem.socket s).Harmless (change (modem.socket s))) (before : holds modem) :
    holds ((modem.modify s change).updateState s) := by
  have listed : s ∈ (modem.modify s change).list := listed
  apply rules.updateState listed
  exact rules.modify harmless before

/-- A request is refused, or goes on. -/
theorem refused (p : Prop) [Decidable p] (result : Int) {goesOn : Ubmodem} (before : holds modem)
    (rest : holds goesOn) :
    holds (if p then modem.usrsockSendResponse head false result else goesOn) := by
  split
  · exact rules.sendResponse _ _ _ before
  · exact rest

theorem socketRequest (domain type : Int) (before : holds modem) :
    holds (modem.handleSocketRequest env head domain type) := by
  unfold Ubmodem.handleSocketRequest
  split
  · exact rules.sendResponse _ _ _ before
  · split
    · exact rules.sendResponse _ _ _ before
    · split
      · exact rules.sendResponse _ _ _ before
      · split
        · exact rules.sendResponse _ _ _ before
        · split
          · exact before
          · apply rules.sendResponse
            exact rules.new _ _ _ _ before

theorem closeRequest (before : holds modem) : holds (modem.handleCloseRequest head usockid) := by
  unfold Ubmodem.handleCloseRequest
  split
  · exact rules.sendResponse _ _ _ before
  · rename_i s found
    have listed := mem_of_find?_eq_some found
    split
    · rename_i closed
      apply rules.sendResponse
      apply rules.mark listed _ before
      exact ⟨rfl, rfl, rfl, .inl rfl, id, id, .inl rfl, fun _ => .inr (closed.imp_right .inl)⟩
    · apply rules.sendResponse
      apply rules.mark listed _ before
      exact ⟨rfl, rfl, rfl, .inl rfl, id, fun _ => rfl, .inl rfl, .inl⟩

theorem connectRequest (before : holds modem) :
    holds (modem.handleConnectRequest env head usockid addrlen) := by
  unfold Ubmodem.handleConnectRequest
  split
  · exact rules.sendResponse _ _ _ before
  · rename_i s found
    have listed := mem_of_find?_eq_some found
    refine rules.refused _ _ _ before (rules.refused _ _ _ before ?_)
    split
    · exact rules.sendResponse _ _ _ before
    · refine rules.refused _ _ _ before ?_
      split
      · apply rules.sendResponse
        apply rules.mark listed _ before
        exact .of_eq rfl rfl rfl rfl rfl rfl rfl rfl
      · apply rules.sendResponse
        apply rules.modify _ before
        exact .of_eq rfl rfl rfl rfl rfl rfl rfl rfl

theorem sendtoRequest (buflen : Nat) (before : holds modem) :
    holds (modem.handleSendtoRequest env head usockid addrlen buflen) := by
  unfold Ubmodem.handleSendtoRequest
  split
  · exact rules.sendResponse _ _ _ before
  · rename_i s found
    have listed := mem_of_find?_eq_some found
    refine rules.refused _ _ _ before ?_
    dsimp only
    split
    · exact rules.sendResponse _ _ _ before
    · refine rules.refused _ _ _ before ?_
      apply rules.mark listed _ before
      exact .of_eq rfl rfl rfl rfl rfl rfl rfl rfl

theorem recvfromRequest (maxBuflen maxAddrlen : Nat) (before : holds modem) :
    holds (modem.handleRecvfromRequest head usockid maxBuflen maxAddrlen) := by
  unfold Ubmodem.handleRecvfromRequest
  split
  · exact rules.sendResponse _ _ _ before
  · rename_i s found
    have listed := mem_of_find?_eq_some found
    refine rules.refused _ _ _ before (rules.refused _ _ _ before ?_)
    apply rules.sendResponse
    apply rules.mark listed _ before
    exact .of_eq rfl rfl rfl rfl rfl rfl rfl rfl

theorem setgetsockoptRequest (level option : Int) (valuelen : Nat) (set : Bool)
    (before : holds modem) :
    holds (modem.handleSetgetsockoptRequest head usockid level option valuelen set) := by
  unfold Ubmodem.handleSetgetsockoptRequest
  split
  · exact rules.sendResponse _ _ _ before
  · rename_i s found
    have listed := mem_of_find?_eq_some found
    split
    · exact rules.sendResponse _ _ _ before
    · split
      · exact rules.sendResponse _ _ _ before
      · split
        · exact rules.sendResponse _ _ _ before
        · rename_i option valuesize _
          split
          · exact rules.sendResponse _ _ _ before
          · have marked : holds ((modem.modify s (fun sock =>
                { sock with
                  req := head
                  isSocketConfigPending := true
                  config := .setgetsock MODEM_SOL_SOCKET option valuesize })).updateState s) := by
              apply rules.mark listed _ before
              exact .of_eq rfl rfl rfl rfl rfl rfl rfl rfl
            split
            · exact marked
            · exact rules.sendResponse _ _ _ marked

theorem bindRequest (before : holds modem) :
    holds (modem.handleBindRequest env head usockid addrlen) := by
  unfold Ubmodem.handleBindRequest
  split
  · exact rules.sendResponse _ _ _ before
  · rename_i s found
    have listed := mem_of_find?_eq_some found
    refine rules.refused _ _ _ before (rules.refused _ _ _ before ?_)
    split
    · exact rules.sendResponse _ _ _ before
    · refine rules.refused _ _ _ before ?_
      split
      · apply rules.sendResponse
        apply rules.modify _ before
        exact .of_eq rfl rfl rfl rfl rfl rfl rfl rfl
      · apply rules.sendResponse
        apply rules.mark listed _ before
        exact .of_eq rfl rfl rfl rfl rfl rfl rfl rfl

/-- What keeps to the rules is kept by every request. -/
theorem request (xid : Nat) (request : Request) (before : holds modem) :
    holds (modem.handleRequest env xid request) := by
  have before := rules.addXid xid before
  cases request with
  | socket domain type => exact rules.socketRequest env _ domain type before
  | close usockid => exact rules.closeRequest _ usockid before
  | connect usockid addrlen => exact rules.connectRequest env _ usockid addrlen before
  | sendto usockid addrlen buflen =>
    exact rules.sendtoRequest env _ usockid addrlen buflen before
  | recvfrom usockid maxBuflen maxAddrlen =>
    exact rules.recvfromRequest _ usockid maxBuflen maxAddrlen before
  | setsockopt usockid level option valuelen =>
    exact rules.setgetsockoptRequest _ usockid level option valuelen true before
  | getsockopt usockid level option maxValuelen =>
    exact rules.setgetsockoptRequest _ usockid level option maxValuelen false before
  | bind usockid addrlen => exact rules.bindRequest env _ usockid addrlen before

theorem urcRead (stream : List UInt8) (before : holds modem) :
    holds (modem.urcSocketReadHandler stream) := by
  unfold Ubmodem.urcSocketReadHandler
  split
  · exact before
  · split
    · exact before
    · split
      · exact before
      · apply rules.sendEvent
        apply rules.modify _ before
        exact .of_eq rfl rfl rfl rfl rfl rfl rfl rfl

theorem urcClose (stream : List UInt8) (before : holds modem) :
    holds (modem.urcSocketCloseHandler stream) := by
  unfold Ubmodem.urcSocketCloseHandler
  split
  · exact before
  · split
    · exact before
    · rename_i s found
      have listed : s ∈ ((modem.modify s (fun sock =>
        { sock with isClosed := true, modemSd := -1 })).usrsockSendEvent s .remoteClosed).list :=
        mem_of_find?_eq_some found
      apply rules.updateState listed
      apply rules.sendEvent
      apply rules.modify _ before
      exact ⟨rfl, rfl, rfl, .inl rfl, fun _ => rfl, id, .inr (.inl rfl), .inl⟩

end Rules

namespace Ubmodem

theorem addXidToPollOffList_keeps (xid : Nat) (modem : Ubmodem) :
    modem.Keeps (modem.addXidToPollOffList xid) := by
  unfold addXidToPollOffList
  split
  · apply Keeps.of_eq <;> simp
  · exact Keeps.refl modem

theorem keeps_rules (start : Ubmodem) (exist : start.Exist) : Rules start.Keeps where
  sendResponse := fun req inprogress result before =>
    before.trans (usrsockSendResponse_keeps req inprogress result _)
  sendEvent := fun s events before => before.trans (usrsockSendEvent_keeps s events _)
  addXid := fun xid before => before.trans (addXidToPollOffList_keeps xid _)
  modify := fun harmless before => before.trans (modify_keeps _ _ harmless.state)
  updateState := fun listed before =>
    before.trans (updateState_keeps ((before.exist exist).list _ listed))
  new := by
    intro modem usockid type head counter before
    apply before.trans
    exact {
      Keeps.refl modem with
      nextSocket := Nat.le_succ _
      busy := by
        intro s known _
        dsimp only
        rw [Function.update_of_ne known.ne]
      exist := by
        intro exist
        refine ⟨?_, fun timer member => (exist.timers timer member).trans (Nat.lt_succ_self _)⟩
        intro s member
        rcases mem_cons.1 member with rfl | member
        · exact Nat.lt_succ_self _
        · exact (exist.list s member).trans (Nat.lt_succ_self _) }

end Ubmodem

end Thingsee.Sockets
