import Thingsee.Sockets.Work

/-!
Owns the recheck of full transmit buffers: the mark that a socket waits for space in the
modem moves between a flag, the state of the socket and a timer. It is given up only by
the handler that gets the number of unacknowledged bytes, and there it is lost when the
answer cannot be read, or when there is no timer.
-/

namespace Thingsee.Sockets

open List

open Modem (RespStatus)

/-- The transmit buffer is full, and the socket is neither closed nor closing. -/
def Socket.isFull (sock : Socket) : Bool :=
  sock.txBufFull && !sock.isClosed && !sock.isClosing

structure Socket.Sane (sock : Socket) : Prop where
  connected : sock.txBufFull → sock.isClosed ∨ 0 ≤ sock.modemSd
  unused : sock.isFreeingPending ∨ sock.state = .free ∨ sock.state = .opening →
    sock.txBufFull → sock.isClosed
  freeing : sock.isFreeingPending →
    sock.isClosed ∨ sock.modemSd < 0 ∨ sock.state ∈ [SocketState.free, .opening, .inactive]

theorem Socket.Sane.of_harmless {before after : Socket} (sane : before.Sane)
    (harmless : before.Harmless after) : after.Sane where
  connected := by
    rw [harmless.txBufFull]
    intro full
    rcases sane.connected full with closed | connected
    · exact .inl (harmless.isClosed closed)
    · rcases harmless.modemSd with same | closed | opening
      · exact .inr (same ▸ connected)
      · exact .inl closed
      · exact .inl (harmless.isClosed (sane.unused (.inr (.inr opening)) full))
  unused := by
    rw [harmless.txBufFull, harmless.state]
    intro unused full
    apply harmless.isClosed
    rcases unused with freeing | unused
    · rcases harmless.isFreeingPending freeing with freeing | closed | unconnected | opening
      · exact sane.unused (.inl freeing) full
      · exact closed
      · exact (sane.connected full).resolve_right unconnected.not_ge
      · exact sane.unused (.inr (.inr opening)) full
    · exact sane.unused (.inr unused) full
  freeing := by
    rw [harmless.state]
    intro freeing
    by_cases opening : before.state = .opening
    · simp [opening]
    · have before : before.isClosed ∨ before.modemSd < 0 ∨
          before.state ∈ [SocketState.free, .opening, .inactive] := by
        rcases harmless.isFreeingPending freeing with freeing | closed | unconnected | opened
        · exact sane.freeing freeing
        · exact .inl closed
        · exact .inr (.inl unconnected)
        · contradiction
      rcases before with closed | unconnected | state
      · exact .inl (harmless.isClosed closed)
      · rcases harmless.modemSd with same | closed | opened
        · exact .inr (.inl (same ▸ unconnected))
        · exact .inl closed
        · contradiction
      · exact .inr (.inr state)

theorem clearWork_fields (sock : Socket) :
    sock.clearWork.txBufFull = sock.txBufFull ∧ sock.clearWork.isClosed = sock.isClosed ∧
    sock.clearWork.isClosing = sock.isClosing ∧ sock.clearWork.modemSd = sock.modemSd ∧
    sock.clearWork.isFreeingPending = sock.isFreeingPending ∧
    sock.clearWork.timerid = sock.timerid ∧
    (sock.state ≠ .checkingTxfull → sock.clearWork.txBufFullRecheck = sock.txBufFullRecheck) := by
  unfold Socket.clearWork
  split <;> simp_all

namespace Ubmodem

/-- A socket with a full buffer is going to be rechecked. -/
def Rechecking (modem : Ubmodem) (s : Nat) : Prop :=
  (modem.socket s).txBufFullRecheck ∨ (modem.socket s).state = .checkingTxfull ∨
    ∃ timer ∈ modem.timers, timer.kind = .txbufFullRecheckDelay ∧ timer.socket = s

/-- The identifiers of timers are distinct, and the sockets that keep them own them. -/
structure OwnTimers (modem : Ubmodem) : Prop where
  below : ∀ timer ∈ modem.timers, timer.id < modem.nextTimer
  distinct : ∀ timer ∈ modem.timers, ∀ other ∈ modem.timers, timer.id = other.id → timer = other
  kept : ∀ s id, (modem.socket s).timerid = some id → id < modem.nextTimer
  owned : ∀ s id, (modem.socket s).timerid = some id →
    ∀ timer ∈ modem.timers, timer.id = id → timer.socket = s

structure Rechecked (modem : Ubmodem) : Prop where
  sane : ∀ s, (modem.socket s).Sane
  timers : modem.OwnTimers
  rechecks : ∀ s, (modem.socket s).isFull → modem.Rechecking s

namespace Rechecked

variable {modem : Ubmodem} {s : Nat} (rechecked : modem.Rechecked)
include rechecked

theorem of_eq {after : Ubmodem} (socket : after.socket = modem.socket)
    (timers : after.timers = modem.timers) (nextTimer : after.nextTimer = modem.nextTimer) :
    after.Rechecked where
  sane := socket ▸ rechecked.sane
  timers := by
    constructor
    · rw [timers, nextTimer]
      exact rechecked.timers.below
    · rw [timers]
      exact rechecked.timers.distinct
    · rw [socket, nextTimer]
      exact rechecked.timers.kept
    · rw [socket, timers]
      exact rechecked.timers.owned
  rechecks := by
    unfold Rechecking
    rw [socket, timers]
    exact rechecked.rechecks

variable {change : Socket → Socket}

theorem modify (sane : (change (modem.socket s)).Sane)
    (timerid : (change (modem.socket s)).timerid = (modem.socket s).timerid ∨
      (change (modem.socket s)).timerid = none)
    (rechecks : (change (modem.socket s)).isFull → (change (modem.socket s)).txBufFullRecheck ∨
      (change (modem.socket s)).state = .checkingTxfull ∨ ∃ timer ∈ modem.timers, timer.kind =
      .txbufFullRecheckDelay ∧ timer.socket = s) :
    (modem.modify s change).Rechecked where
  sane := by
    intro other
    by_cases same : other = s
    · subst same
      rwa [modify_socket_self]
    · rw [modify_socket_of_ne _ _ _ same]
      exact rechecked.sane other
  timers := by
    have kept (other id : Nat) (keeps : ((modem.modify s change).socket other).timerid = some id) :
        (modem.socket other).timerid = some id := by
      by_cases same : other = s
      · subst same
        rw [modify_socket_self] at keeps
        rcases timerid with same | none
        · rwa [same] at keeps
        · rw [none] at keeps
          contradiction
      · rwa [modify_socket_of_ne _ _ _ same] at keeps
    constructor
    · exact rechecked.timers.below
    · exact rechecked.timers.distinct
    · intro other id keeps
      exact rechecked.timers.kept other id (kept other id keeps)
    · intro other id keeps
      exact rechecked.timers.owned other id (kept other id keeps)
  rechecks := by
    intro other
    unfold Rechecking
    by_cases same : other = s
    · subst same
      rw [modify_socket_self]
      exact rechecks
    · rw [modify_socket_of_ne _ _ _ same]
      exact rechecked.rechecks other

theorem modify_harmless (harmless : (modem.socket s).Harmless (change (modem.socket s))) :
    (modem.modify s change).Rechecked := by
  apply rechecked.modify ((rechecked.sane s).of_harmless harmless) harmless.timerid
  intro full
  have before : (modem.socket s).isFull := by
    have closed := harmless.isClosed
    have closing := harmless.isClosing
    simp only [Socket.isFull, harmless.txBufFull, Bool.and_eq_true, Bool.not_eq_true'] at full ⊢
    grind
  rw [harmless.state, harmless.txBufFullRecheck]
  exact rechecked.rechecks s before

theorem removeTimer_timers (id : Nat) : (modem.removeTimer id).OwnTimers := by
  have member {timer : Timer} (left : timer ∈ (modem.removeTimer id).timers) :
      timer ∈ modem.timers := mem_of_mem_filter left
  constructor
  · intro timer left
    exact rechecked.timers.below timer (member left)
  · intro timer left other otherLeft
    exact rechecked.timers.distinct timer (member left) other (member otherLeft)
  · exact rechecked.timers.kept
  · intro s id keeps timer left
    exact rechecked.timers.owned s id keeps timer (member left)

theorem removeTimer {id : Nat}
    (unused : ∀ timer ∈ modem.timers, timer.id = id → timer.kind = .txbufFullRecheckDelay →
      (modem.socket timer.socket).isFull → (modem.socket timer.socket).txBufFullRecheck) :
    (modem.removeTimer id).Rechecked where
  sane := rechecked.sane
  timers := rechecked.removeTimer_timers id
  rechecks := by
    intro s full
    rcases rechecked.rechecks s full with flag | checking | ⟨timer, pending, kind, owner⟩
    · exact .inl flag
    · exact .inr (.inl checking)
    · by_cases removed : timer.id = id
      · subst owner
        exact .inl (unused timer pending removed kind full)
      · refine .inr (.inr ⟨timer, ?_, kind, owner⟩)
        exact mem_filter.2 ⟨pending, by simpa using removed⟩

theorem removeSocketTimer (full : (modem.socket s).isFull = false) :
    (modem.removeSocketTimer s).Rechecked := by
  unfold Ubmodem.removeSocketTimer
  split
  · exact rechecked
  · rename_i own keeps
    have removed : (modem.removeTimer own).Rechecked := by
      apply rechecked.removeTimer
      intro timer pending same _ owned
      rw [rechecked.timers.owned s own keeps timer pending same, full] at owned
      contradiction
    apply removed.modify_harmless
    exact ⟨rfl, rfl, rfl, .inr rfl, id, id, .inl rfl, .inl⟩

theorem setTimer (env : Env) (kind : TimerKind) : (modem.setTimer env kind s).Rechecked := by
  unfold Ubmodem.setTimer
  split
  · have below := rechecked.timers.below
    have distinct := rechecked.timers.distinct
    have kept := rechecked.timers.kept
    have owned := rechecked.timers.owned
    have socket (other : Nat) :
        (modem.modify s (fun sock => { sock with timerid := some modem.nextTimer })).socket other =
          { modem.socket other with
            timerid := if other =
              s then some modem.nextTimer else (modem.socket other).timerid } := by
      by_cases same : other = s
      · simp [same]
      · rw [modify_socket_of_ne _ _ _ same]
        simp [same]
    constructor
    · intro other
      rw [socket]
      have sane := rechecked.sane other
      exact ⟨sane.connected, sane.unused, sane.freeing⟩
    · constructor
      · intro timer member
        rcases mem_append.1 member with pending | new
        · exact (below timer pending).trans (Nat.lt_succ_self _)
        · rw [mem_singleton.1 new]
          exact Nat.lt_succ_self _
      · intro timer member other otherMember same
        simp only [mem_append, mem_singleton] at member otherMember
        grind
      · intro other id keeps
        rw [socket] at keeps
        grind
      · intro other id keeps timer member same
        rw [socket] at keeps
        simp only [mem_append, mem_singleton] at member
        grind
    · intro other full
      rw [socket] at full
      have recheck := rechecked.rechecks other full
      unfold Rechecking at recheck ⊢
      rw [socket]
      simp only [mem_append]
      grind
  · apply rechecked.modify_harmless
    exact ⟨rfl, rfl, rfl, .inr rfl, id, id, .inl rfl, .inl⟩

theorem updateState : (modem.updateState s).Rechecked := by
  obtain same | ⟨state, makeFirst, inactive, work, updated⟩ := modem.updateState_cases s
  · rwa [same]
  · have sane := rechecked.sane s
    have notOpening : state ≠ .opening := by
      intro opening
      subst opening
      unfold Socket.pendingWork at work
      grind
    have freeing : state = .free → (modem.socket s).isFreeingPending := by
      intro free
      subst free
      unfold Socket.pendingWork at work
      grind
    have marked : Rechecked (modem.modify s (fun sock => { sock with state := state })) := by
      apply rechecked.modify _ (.inl rfl)
      · intro full
        have full : (modem.socket s).isFull := full
        rcases rechecked.rechecks s full with flag | checking | timer
        · exact .inl flag
        · rw [inactive] at checking
          contradiction
        · exact .inr (.inr timer)
      · constructor
        · exact sane.connected
        · rintro (pending | free | opening) full
          · exact sane.unused (.inl pending) full
          · exact sane.unused (.inl (freeing free)) full
          · contradiction
        · intro pending
          have free : state = .free := by
            simp [Socket.pendingWork, show (modem.socket s).isFreeingPending from pending] at work
            exact work.1.symm
          exact .inr (.inr (by simp [free]))
    have freed : Rechecked
        (if state = .free then
          (modem.modify s (fun sock => { sock with state := state })).removeSocketTimer s
        else modem.modify s (fun sock => { sock with state := state })) := by
      split_ifs with free
      · apply marked.removeSocketTimer
        rw [modify_socket_self]
        have closed := sane.unused (.inl (freeing free))
        simp only [Socket.isFull]
        grind
      · exact marked
    rw [updated]
    exact freed.of_eq rfl rfl rfl

/-- Finished work keeps a recheck pending for every full buffer. -/
theorem workDone (recheck : (modem.socket s).state = .checkingTxfull → (modem.socket s).isFull →
      ∃ timer ∈ modem.timers, timer.kind = .txbufFullRecheckDelay ∧ timer.socket = s) :
    (modem.workDone s).Rechecked := by
  have sane := rechecked.sane s
  obtain ⟨txBufFull, isClosed, isClosing, modemSd, isFreeingPending, timerid, flag⟩ :=
    clearWork_fields (modem.socket s)
  have cleared : Rechecked (modem.modify s (fun sock =>
    { sock.clearWork with state := .inactive })) := by
    apply rechecked.modify
    · constructor
      · dsimp only
        rw [txBufFull, isClosed, modemSd]
        exact sane.connected
      · dsimp only
        rw [txBufFull, isClosed, isFreeingPending]
        rintro (pending | free | opening)
        · exact sane.unused (.inl pending)
        · contradiction
        · contradiction
      · intro _
        exact .inr (.inr (by simp))
    · exact .inl timerid
    · intro full
      have full : (modem.socket s).isFull := by
        simpa [Socket.isFull, txBufFull, isClosed, isClosing] using full
      by_cases checking : (modem.socket s).state = .checkingTxfull
      · exact .inr (.inr (recheck checking full))
      · rcases rechecked.rechecks s full with marked | checked | timer
        · exact .inl ((flag checking).trans marked)
        · contradiction
        · exact .inr (.inr timer)
  exact cleared.updateState.of_eq rfl rfl rfl

end Rechecked

variable {env : Env} {modem : Ubmodem} {s : Nat}

theorem rechecked_rules : Rules Rechecked where
  sendResponse := fun _ _ _ before => before.of_eq (by simp) (by simp) (by simp)
  sendEvent := fun _ _ before => before.of_eq rfl rfl rfl
  addXid := by
    intro modem xid before
    unfold addXidToPollOffList
    split
    · exact before.of_eq rfl rfl rfl
    · exact before
  modify := fun harmless before => before.modify_harmless harmless
  updateState := fun _ before => before.updateState
  new := by
    intro modem usockid type head counter before
    have sane : (Socket.new usockid type head).Sane := by
      constructor <;> simp [Socket.new]
    have created : Rechecked (modem.modify modem.nextSocket (fun _ =>
      Socket.new usockid type head)) := by
      apply before.modify sane (.inr rfl)
      simp [Socket.new, Socket.isFull]
    exact created.of_eq rfl rfl rfl

theorem rechecked_turn_rules (s : Nat) :
    TurnRules s (fun state modem => modem.Rechecked ∧ (modem.socket s).state = state)
      Rechecked Rechecked where
  state := And.right
  stay := And.left
  ended := id
  write := fun _ before => ⟨before.1.of_eq rfl rfl rfl, before.2⟩
  sendResponse := fun _ _ _ before =>
    ⟨before.1.of_eq (by simp) (by simp) (by simp), by simpa using before.2⟩
  modify := by
    intro state modem change harmless before
    refine ⟨before.1.modify_harmless harmless, ?_⟩
    rw [modify_socket_self, harmless.state, before.2]
  bufferFull := by
    intro modem before
    refine ⟨?_, (handleSendtoBufferFull_fields s modem).1.trans before.2⟩
    unfold handleSendtoBufferFull
    dsimp only
    split
    · exact before.1
    · rename_i opened
      simp only [not_or, not_lt, Bool.not_eq_true] at opened
      have sane := before.1.sane s
      have freeing : (modem.socket s).isFreeingPending = false := by
        by_contra pending
        rcases sane.freeing (by simpa using pending) with closed | unconnected | unused
        · simp [opened.1] at closed
        · exact absurd opened.2 unconnected.not_ge
        · simp [before.2] at unused
      apply before.1.modify _ (.inl rfl) (fun _ => .inl rfl)
      constructor
      · intro _
        exact .inr opened.2
      · intro unused
        simp [freeing, before.2] at unused
      · intro pending
        simp [freeing] at pending
  workDone := by
    intro state modem checking before
    apply before.1.workDone
    intro same
    exact absurd (before.2.symm.trans same) checking
  sendEvent := fun _ before => before.of_eq rfl rfl rfl
  tasks := fun _ before => before.of_eq rfl rfl rfl
  send := fun _ before => before.1.of_eq rfl rfl rfl
  prompt := fun _ before => before.1.setTimer _ .dataPromptDelay

/-- Whether the answer to the check can be read, and the mark of a full buffer is given
up for space in the buffer or for a timer. -/
def answersCheck (sock : Socket) (env : Env) (status : RespStatus) (stream : List UInt8) :
    Bool :=
  match readUnackedBytes sock.modemSd status stream with
  | none => false
  | some nbytesUnacked =>
    hasSpace (if sock.numUnackStart < 0 then nbytesUnacked else sock.numUnackStart)
      nbytesUnacked || env.timerSet

/-! ## Answers -/

theorem removeSocketTimer_isFull (s : Nat) (modem : Ubmodem) :
    ((modem.removeSocketTimer s).socket s).isFull = (modem.socket s).isFull := by
  unfold removeSocketTimer
  split
  · rfl
  · rw [modify_socket_self]
    rfl

theorem updateState_isFull (s : Nat) (modem : Ubmodem) :
    ((modem.updateState s).socket s).isFull = (modem.socket s).isFull := by
  obtain same | ⟨state, makeFirst, _, _, updated⟩ := modem.updateState_cases s
  · rw [same]
  · rw [updated]
    dsimp only
    split_ifs
    · rw [removeSocketTimer_isFull, modify_socket_self]
      rfl
    · rw [modify_socket_self]
      rfl

theorem Rechecked.txbufFullRecheckDelayHandler (rechecked : modem.Rechecked) :
    (modem.txbufFullRecheckDelayHandler s).Rechecked := by
  have sane := rechecked.sane s
  have marked : Rechecked (modem.modify s (fun sock =>
    { sock with timerid := none, txBufFullRecheck := true })) := by
    apply rechecked.modify _ (.inr rfl) (fun _ => .inl rfl)
    exact ⟨sane.connected, sane.unused, sane.freeing⟩
  exact marked.updateState

theorem setTimer_pending {kind : TimerKind} (set : env.timerSet = true) :
    ∃ timer ∈ (modem.setTimer env kind s).timers,
      timer.kind = kind ∧ timer.socket = s := by
  simp [setTimer, set]

theorem getTcpUnackBytesHandler_rechecked {status : RespStatus} {stream : List UInt8}
    (rechecked : modem.Rechecked)
    (answered : (modem.socket s).isFull → answersCheck (modem.socket s) env status stream) :
    (modem.getTcpUnackBytesHandler env s status stream).Rechecked := by
  unfold getTcpUnackBytesHandler
  dsimp only
  split
  · rename_i closed
    apply rechecked.workDone
    intro _ full
    have sane := (rechecked.sane s).connected
    simp only [Socket.isFull, Bool.and_eq_true, Bool.not_eq_true'] at full
    grind
  · split
    · rename_i unread
      apply Rechecked.workDone
      · exact rechecked.of_eq rfl rfl rfl
      · intro _ full
        have answer := answered full
        simp [answersCheck, unread] at answer
    · rename_i nbytesUnacked read
      generalize starts : (if (modem.socket s).numUnackStart < 0 then nbytesUnacked
        else (modem.socket s).numUnackStart) = start
      have started : Rechecked (modem.modify s (fun sock =>
        { sock with numUnackStart := start })) := by
        apply rechecked.modify_harmless
        exact .of_eq rfl rfl rfl rfl rfl rfl rfl rfl
      split
      · have emptied : Rechecked ((modem.modify s (fun sock =>
            { sock with numUnackStart := start })).modify s (fun sock =>
              { sock with numUnackStart := -1, txBufFull := false })) := by
          have sane := started.sane s
          apply started.modify _ (.inl rfl)
          · simp [Socket.isFull]
          · exact ⟨by simp, by simp, sane.freeing⟩
        have removed := emptied.removeSocketTimer (s := s) (by simp [Socket.isFull])
        apply Rechecked.workDone
        · exact removed.of_eq rfl rfl rfl
        · intro _ full
          have full : ((removeSocketTimer s _).socket s).isFull := full
          rw [removeSocketTimer_isFull] at full
          simp [Socket.isFull] at full
      · rename_i space
        unfold setupSendtoBufferFullTimer
        split
        · rename_i set
          apply (started.setTimer env .txbufFullRecheckDelay).workDone
          intro _ _
          exact setTimer_pending set
        · rename_i failed
          -- Without a timer the buffer is not full.
          have notFull : (modem.socket s).isFull = false := by
            by_contra full
            have answer := answered (by simpa using full)
            simp [answersCheck, read, starts, space, failed] at answer
          apply Rechecked.workDone
          · exact (started.setTimer env .txbufFullRecheckDelay).txbufFullRecheckDelayHandler
          · intro _ full
            unfold txbufFullRecheckDelayHandler at full
            rw [updateState_isFull] at full
            simp [setTimer, failed, Socket.isFull] at full notFull
            grind

/-- The result of the check of a full buffer hands the mark on. -/
def handsOn (modem : Ubmodem) (input : Input × Env) : Bool :=
  match input.1, modem.outstanding with
  | .result status stream, some (.usoctl _, s) =>
    !(modem.socket s).isFull || answersCheck (modem.socket s) input.2 status stream
  | _, _ => true

variable (inetAddr : List UInt8 → Nat)

theorem handleResult_rechecked (rechecked : modem.Rechecked) {command : Command}
    {status : RespStatus} {stream : List UInt8} (fits : (modem.socket s).state ∈ command.states)
    (hands : handsOn { modem with outstanding := some (command, s) } (.result status stream, env)) :
    (modem.handleResult env inetAddr command s status stream).Rechecked := by
  by_cases checking : (modem.socket s).state = .checkingTxfull
  · have same : ∃ sd, command = .usoctl sd := by
      rw [checking] at fits
      cases command <;> simp [Command.states] at fits
      exact ⟨_, rfl⟩
    obtain ⟨sd, rfl⟩ := same
    apply getTcpUnackBytesHandler_rechecked rechecked
    intro full
    simpa [handsOn, full] using hands
  · exact (rechecked_turn_rules s).handleResult env inetAddr status stream fits checking
      ⟨rechecked, rfl⟩

theorem doUsrsockWork_rechecked (env : Env) (rechecked : modem.Rechecked) :
    (modem.doUsrsockWork env).Rechecked := by
  cases found : modem.list.find? (fun s => decide ((modem.socket s).state ≠ .inactive)) with
  | none =>
    unfold doUsrsockWork
    rw [found]
    exact rechecked.of_eq rfl rfl rfl
  | some s =>
    have busy : (modem.socket s).state ≠ .inactive := by
      simpa using List.find?_some found
    by_cases free : (modem.socket s).state = .free
    · unfold doUsrsockWork
      rw [found]
      dsimp only
      rw [free]
      exact rechecked.of_eq rfl rfl rfl
    · exact (rechecked_turn_rules s).doUsrsockWork env found busy free ⟨rechecked, rfl⟩

theorem handleTimer_rechecked (env : Env) (orderly : modem.Orderly) (rechecked : modem.Rechecked)
    {timer : Timer} (pending : timer ∈ modem.timers) :
    ((modem.removeTimer timer.id).handleTimer env timer).Rechecked := by
  cases kind : timer.kind with
  | dataPromptDelay =>
    have removed : (modem.removeTimer timer.id).Rechecked := by
      apply rechecked.removeTimer
      intro other otherPending same recheck
      rw [rechecked.timers.distinct other otherPending timer pending same, kind] at recheck
      contradiction
    obtain ⟨_, fits⟩ := orderly.turn_of_prompt pending kind
    simp only [handleTimer, kind]
    exact (rechecked_turn_rules timer.socket).dataPromptDelayHandler env ⟨removed, fits⟩
  | txbufFullRecheckDelay =>
    -- The flag is set for the timer that is gone.
    have sane := rechecked.sane timer.socket
    have marked : Rechecked (modem.modify timer.socket (fun sock =>
      { sock with timerid := none, txBufFullRecheck := true })) := by
      apply rechecked.modify _ (.inr rfl) (fun _ => .inl rfl)
      exact ⟨sane.connected, sane.unused, sane.freeing⟩
    have removed : Rechecked ((modem.modify timer.socket (fun sock =>
      { sock with timerid := none, txBufFullRecheck := true })).removeTimer timer.id) := by
      apply marked.removeTimer
      intro other otherPending same _ _
      rw [rechecked.timers.distinct other otherPending timer pending same, modify_socket_self]
    simp only [handleTimer, kind]
    exact removed.updateState

/-- Every input that hands its answer on keeps the rechecks. -/
theorem step_rechecked (orderly : modem.Orderly) (rechecked : modem.Rechecked) (input : Input × Env)
    (hands : modem.handsOn input) : (modem.step inetAddr input).Rechecked := by
  obtain ⟨input, env⟩ := input
  cases input with
  | request xid request =>
    dsimp only [step]
    split
    · exact rechecked_rules.request env xid request rechecked
    · exact rechecked
  | result status stream =>
    dsimp only [step]
    split
    · exact rechecked
    · rename_i command s awaited
      obtain ⟨_, fits⟩ := orderly.turn awaited
      have taken : Rechecked { modem with outstanding := none } := rechecked.of_eq rfl rfl rfl
      apply handleResult_rechecked inetAddr taken fits
      rw [← awaited]
      exact hands
  | timer id =>
    dsimp only [step]
    split
    · exact rechecked
    · rename_i timer found
      have pending := mem_of_find?_eq_some found
      have same : timer.id = id := by simpa using List.find?_some found
      subst same
      exact handleTimer_rechecked env orderly rechecked pending
  | urcRead stream => exact rechecked_rules.urcRead stream rechecked
  | urcClose stream => exact rechecked_rules.urcClose stream rechecked
  | work =>
    dsimp only [step]
    split
    · apply doUsrsockWork_rechecked
      exact rechecked.of_eq rfl rfl rfl
    · exact rechecked

theorem initial_rechecked : initial.Rechecked where
  sane := by
    intro s
    constructor <;> simp [initial, Socket.new]
  timers := by
    constructor <;> simp [initial, Socket.new]
  rechecks := by
    intro s full
    simp [initial, Socket.new, Socket.isFull] at full

/-- In a run in which every check of a full buffer hands the mark on, every socket with a
full buffer is going to be rechecked. -/
theorem full_buffers_are_rechecked {inputs : List (Input × Env)}
    (guarded : Support.Guarded (step inetAddr) (fun modem input => modem.handsOn input = true)
      initial inputs) :
    ∀ s ∈ (initial.run inetAddr inputs).list,
      (∀ command, (initial.run inetAddr inputs).outstanding ≠ some (command, s)) →
      ((initial.run inetAddr inputs).socket s).isFull →
      (initial.run inetAddr inputs).Rechecking s := by
  have invariant : (initial.run inetAddr inputs).Orderly ∧
      (initial.run inetAddr inputs).Rechecked := by
    apply Support.foldl_invariant (fun modem => modem.Orderly ∧ modem.Rechecked) _
      ⟨initial_orderly, initial_rechecked⟩ guarded
    intro modem input before hands
    exact ⟨step_orderly inetAddr before.1 input,
      step_rechecked inetAddr before.1 before.2 input hands⟩
  intro s _ _ full
  exact invariant.2.rechecks s full

/-- A stream socket is opened, and the modem has no space for what is sent over it. -/
def filling : List (Input × Env) :=
  [(.request 5 (.socket 2 0), .usual), (.work, .usual), (.result .ok [3], .usual),
    (.request 5 (.sendto 1 0 2), .usual), (.work, .usual), (.result .dataprompt [], .usual),
    (.timer 0, { Env.usual with data := some [1, 2] }), (.result .error [], .usual),
    (.result .ok [1], .usual), (.result .ok [11, 0, 0, 0], .usual), (.work, .usual)]

theorem read_answer_is_rechecked :
    ((initial.run (fun _ => 0) (filling ++ [(.result .ok [3, 11, 100, 0, 0, 0], .usual)])).socket
      0).isFull ∧
    (initial.run (fun _ => 0) (filling ++ [(.result .ok [3, 11, 100, 0, 0, 0], .usual)])).Rechecking
      0 := by
  have full : ((initial.run (fun _ => 0)
      (filling ++ [(.result .ok [3, 11, 100, 0, 0, 0], .usual)])).socket 0).isFull := by decide
  refine ⟨full, full_buffers_are_rechecked (fun _ => 0) (by decide) 0 (by decide) ?_ full⟩
  have idle : (initial.run (fun _ => 0)
      (filling ++ [(.result .ok [3, 11, 100, 0, 0, 0], .usual)])).outstanding = none := by decide
  simp [idle]

/-- After an error the full buffer is not checked again. -/
theorem unread_answer_is_not_rechecked :
    ¬ ∀ s ∈ (initial.run (fun _ => 0) (filling ++ [(.result .error [], .usual)])).list,
      (∀ command, (initial.run (fun _ => 0)
        (filling ++ [(.result .error [], .usual)])).outstanding ≠
        some (command, s)) →
      ((initial.run (fun _ => 0) (filling ++ [(.result .error [], .usual)])).socket s).isFull →
      (initial.run (fun _ => 0) (filling ++ [(.result .error [], .usual)])).Rechecking s := by
  intro rechecked
  have idle : (initial.run (fun _ => 0)
      (filling ++ [(.result .error [], .usual)])).outstanding = none := by decide
  have none : (initial.run (fun _ => 0)
      (filling ++ [(.result .error [], .usual)])).timers = [] := by decide
  rcases rechecked 0 (by decide) (by simp [idle]) (by decide) with flag | checking | timer
  · revert flag
    decide
  · revert checking
    decide
  · simp [none] at timer

end Ubmodem

end Thingsee.Sockets
