import Thingsee.Usrsock.Sections

/-!
Owns what the daemon can do to the request line by writing (`Written`), and what
every run keeps about the responses of connections (`Consistent`): an exchange id
is that of its own connection or 0, and the buffers of a data response that is
being written are as long as announced. So at most one connection waits for a
message.
-/

namespace Thingsee.Usrsock

variable {n m : Nat}

namespace System

variable {sys before after : System n m}

/-- A change by the daemon: the request on the line is acknowledged, or the line
is left alone. -/
structure Written (before after : System n m) : Prop where
  dev : ∃ datain, after.dev = { before.dev with datainConn := datain } ∨
    (before.dev.iov.isSome = true ∧
      after.dev = { before.dev with
        datainConn := datain, iov := none, acksem := before.dev.acksem + 1 })
  threads : ∀ t, (after.threads t).map Frame.erased = (before.threads t).map Frame.erased

theorem written_of_same (dev : after.dev = before.dev)
    (threads : ∀ t, (after.threads t).map Frame.erased = (before.threads t).map Frame.erased) :
    Written before after :=
  ⟨⟨before.dev.datainConn, Or.inl (by rw [dev])⟩, threads⟩

theorem Written.of_datain {between : System n m} (written : Written before between)
    (datain : Option (Fin n)) (dev : after.dev = { between.dev with datainConn := datain })
    (threads : ∀ t, (after.threads t).map Frame.erased = (between.threads t).map Frame.erased) :
    Written before after := by
  refine ⟨⟨datain, ?_⟩, fun t => (threads t).trans (written.threads t)⟩
  obtain ⟨old, same | ⟨onLine, acked⟩⟩ := written.dev
  · left
    rw [dev, same]
  · right
    refine ⟨onLine, ?_⟩
    rw [dev, acked]

section

variable (sys : System n m)

theorem acknowledge_written (xid : Nat) : Written sys (sys.acknowledge xid) := by
  unfold acknowledge
  split
  · next acked =>
    exact ⟨⟨sys.dev.datainConn, Or.inr ⟨acked.2, rfl⟩⟩, fun _ => rfl⟩
  · exact written_of_same rfl (fun _ => rfl)

variable (i : Fin n) (buffer : List UInt8)

theorem handleResponse_dev :
    (sys.handleResponse i buffer).1.dev = sys.dev ∧
      ∀ t, ((sys.handleResponse i buffer).1.threads t).map Frame.erased =
        (sys.threads t).map Frame.erased := by
  unfold handleResponse
  split
  · exact ⟨rfl, fun _ => rfl⟩
  · exact ⟨completeRequest_dev _ i, completeRequest_erased _ i⟩

theorem handleDatareqResponse_dev :
    ∃ datain, (sys.handleDatareqResponse i buffer).1.dev =
        { sys.dev with datainConn := datain } ∧
      ∀ t, ((sys.handleDatareqResponse i buffer).1.threads t).map Frame.erased =
        (sys.threads t).map Frame.erased := by
  unfold handleDatareqResponse
  dsimp only
  split
  · split
    all_goals exact ⟨sys.dev.datainConn, rfl, fun _ => rfl⟩
  · split
    · split
      · exact ⟨sys.dev.datainConn, rfl, fun _ => rfl⟩
      · exact ⟨sys.dev.datainConn, completeRequest_dev _ i, completeRequest_erased _ i⟩
    · split
      · exact ⟨sys.dev.datainConn, rfl, fun _ => rfl⟩
      · exact ⟨some i, rfl, fun _ => rfl⟩

theorem handleMessage_written : Written sys (sys.handleMessage buffer).1 := by
  have unchanged : Written sys sys := written_of_same rfl (fun _ => rfl)
  unfold handleMessage
  split
  · unfold handleEvent
    split
    · split
      · exact unchanged
      · dsimp only
        split
        · exact unchanged
        · next i _ =>
          have frame := sys.usrsockEvent_frame i (messageEvents buffer)
          exact written_of_same frame.1 frame.2.2.2.2.2.2
    · exact unchanged
  · unfold handleReqResponse
    split
    · split
      · exact unchanged
      · split
        · exact unchanged
        · next i _ =>
          have acked := sys.acknowledge_written (respXid buffer)
          obtain ⟨dev, threads⟩ :=
            handleResponse_dev (sys.acknowledge (respXid buffer)) i buffer
          exact acked.of_datain (sys.acknowledge (respXid buffer)).dev.datainConn dev threads
    · split
      · split
        · exact unchanged
        · split
          · exact unchanged
          · next i _ =>
            have acked := sys.acknowledge_written (respXid buffer)
            obtain ⟨datain, dev, threads⟩ :=
              handleDatareqResponse_dev (sys.acknowledge (respXid buffer)) i buffer
            exact acked.of_datain datain dev threads
      · exact unchanged

theorem dataInput_dev (consumed : Nat) :
    ∃ datain, (sys.dataInput i buffer consumed).1.dev = { sys.dev with datainConn := datain } ∧
      ∀ t, ((sys.dataInput i buffer consumed).1.threads t).map Frame.erased =
        (sys.threads t).map Frame.erased := by
  unfold dataInput
  dsimp only
  split
  · exact ⟨none, completeRequest_dev _ i, completeRequest_erased _ i⟩
  · exact ⟨sys.dev.datainConn, rfl, fun _ => rfl⟩

theorem usrsockdevWrite_written : Written sys (sys.usrsockdevWrite buffer).1 := by
  have unchanged : Written sys sys := written_of_same rfl (fun _ => rfl)
  unfold usrsockdevWrite
  split
  · exact unchanged
  · split
    · next i _ =>
      obtain ⟨datain, dev, threads⟩ := sys.dataInput_dev i buffer 0
      exact unchanged.of_datain datain dev threads
    · split
      · exact unchanged
      · have handled := sys.handleMessage_written buffer
        dsimp only
        split
        · exact handled
        · next i _ =>
          obtain ⟨datain, dev, threads⟩ := dataInput_dev (sys.handleMessage buffer).1 i
            (buffer.drop (sys.handleMessage buffer).2.toNat) (sys.handleMessage buffer).2.toNat
          exact handled.of_datain datain dev threads

end

/-- What every run keeps about responses. -/
structure Consistent (sys : System n m) : Prop where
  xid : ∀ i, (sys.conns i).resp.xid = 0 ∨ (sys.conns i).resp.xid = getXid i
  data : ∀ i, sys.dev.datainConn = some i →
    totalLen (sys.conns i).resp.datain.iov = (sys.conns i).resp.datain.total

theorem getXid_injective {i j : Fin n} (same : getXid i = getXid j) : i = j := by
  unfold getXid at same
  exact Fin.ext (by omega)

theorem Consistent.setConn (consistent : sys.Consistent) (i : Fin n) (conn : Conn m)
    (xid : conn.resp.xid = 0 ∨ conn.resp.xid = getXid i)
    (data : sys.dev.datainConn = some i → totalLen conn.resp.datain.iov = conn.resp.datain.total) :
    (sys.setConn i conn).Consistent := by
  constructor
  · intro j
    by_cases same : j = i
    · subst same
      simpa [System.setConn] using xid
    · simpa [System.setConn, Function.update_of_ne same] using consistent.xid j
  · intro j isData
    by_cases same : j = i
    · subst same
      simpa [System.setConn] using data isData
    · simpa [System.setConn, Function.update_of_ne same] using consistent.data j isData

theorem Consistent.of_resp (consistent : before.Consistent)
    (resp : ∀ j, (after.conns j).resp = (before.conns j).resp)
    (datain : after.dev.datainConn = before.dev.datainConn) : after.Consistent := by
  constructor
  · intro j
    rw [resp]
    exact consistent.xid j
  · intro j isData
    rw [resp]
    exact consistent.data j (datain ▸ isData)

theorem move_consistent {t : Fin m} (consistent : before.Consistent) (move : Move t before after) :
    after.Consistent := by
  cases move with
  | conn i conn resp list =>
    apply consistent.setConn
    · rw [resp]
      exact consistent.xid i
    · rw [resp]
      exact consistent.data i
  | datain i iov => exact consistent.setConn i _ (consistent.xid i) (fun _ => rfl)
  | setup i kind flags _ isSetup =>
    unfold setupRequestCallback at isSetup
    split at isSetup
    · simp at isSetup
    · rw [← Option.some.inj isSetup]
      have same : ({ before with cbfree := before.cbfree - 1 } : System n m).Consistent :=
        consistent.of_resp (fun _ => rfl) rfl
      exact same.setConn i _ (consistent.xid i) (consistent.data i)
  | teardown i =>
    have same : ({ before with cbfree := before.cbfree + 1 } : System n m).Consistent :=
      consistent.of_resp (fun _ => rfl) rfl
    exact same.setConn i _ (consistent.xid i) (consistent.data i)
  | thread thread outside | returned result => exact consistent.of_resp (fun _ => rfl) rfl
  | alloc i _ isAlloc =>
    unfold usrsockAlloc at isAlloc
    split at isAlloc
    · simp at isAlloc
    · next first rest _ =>
      obtain ⟨-, rfl⟩ := Prod.mk.inj (Option.some.inj isAlloc)
      have cleared := consistent.setConn first (Conn.cleared m) (Or.inl rfl) (fun _ => rfl)
      exact cleared.of_resp (fun _ => rfl) rfl
  | free i =>
    have cleared := consistent.setConn i (Conn.cleared m) (Or.inl rfl) (fun _ => rfl)
    exact cleared.of_resp (fun _ => rfl) rfl
  | begins frame _ begun =>
    unfold beginRequest at begun
    split at begun
    · simp at begun
    · rw [← Option.some.inj begun]
      have prepared := consistent.setConn frame.conn
        { before.conns frame.conn with
          resp := { (before.conns frame.conn).resp with
            xid := getXid frame.conn, result := -EACCES }
          tag := before.nextTag }
        (Or.inr rfl) (consistent.data frame.conn)
      exact prepared.of_resp (fun _ => rfl) rfl

theorem moves_consistent {t : Fin m} (consistent : before.Consistent)
    (moves : Moves t before after) :
    after.Consistent := by
  induction moves with
  | refl => exact consistent
  | tail _ last ih => exact move_consistent ih last

theorem usrsockEvent_consistent (consistent : sys.Consistent) (i : Fin n) (events : Events) :
    (sys.usrsockEvent i events).Consistent :=
  consistent.of_resp (sys.usrsockEvent_resp i events)
    (congrArg Device.datainConn (sys.usrsockEvent_frame i events).1)

theorem completeRequest_consistent (consistent : sys.Consistent) (i : Fin n) :
    (sys.completeRequest i).Consistent :=
  usrsockEvent_consistent consistent i _

theorem acknowledge_conns (sys : System n m) (xid : Nat) :
    (sys.acknowledge xid).conns = sys.conns ∧ (sys.acknowledge xid).threads = sys.threads ∧
      (sys.acknowledge xid).active = sys.active ∧
      (sys.acknowledge xid).delivered = sys.delivered ∧
      (sys.acknowledge xid).dev.datainConn = sys.dev.datainConn := by
  unfold acknowledge
  split <;> exact ⟨rfl, rfl, rfl, rfl, rfl⟩

theorem acknowledge_consistent (consistent : sys.Consistent) (xid : Nat) :
    (sys.acknowledge xid).Consistent := by
  obtain ⟨conns, -, -, -, datain⟩ := sys.acknowledge_conns xid
  exact consistent.of_resp (fun _ => by rw [conns]) datain

theorem cutBuffers_total {iov after : List Iovec} {valuelen : Nat} {result : Int}
    (cut : cutBuffers iov valuelen result = some after) :
    totalLen after = valuelen + result.toNat := by
  unfold cutBuffers at cut
  split at cut
  · simp at cut
  · split at cut
    · split at cut
      · split at cut
        · simp at cut
        · split at cut
          · rw [← Option.some.inj cut]
            simp [totalLen, Iovec.shorten]
          · simp at cut
      · next notPositive =>
        rw [← Option.some.inj cut]
        have none : result.toNat = 0 := by omega
        simp [totalLen, Iovec.shorten, none]
    · simp at cut

theorem handleResponse_consistent (consistent : sys.Consistent) (i : Fin n) (buffer : List UInt8) :
    (sys.handleResponse i buffer).1.Consistent := by
  unfold handleResponse
  split
  · exact consistent.setConn i _ (consistent.xid i) (consistent.data i)
  · refine completeRequest_consistent ?_ i
    exact consistent.setConn i _ (Or.inl rfl) (consistent.data i)

theorem handleDatareqResponse_consistent (consistent : sys.Consistent)
    (noData : sys.dev.datainConn = none) (i : Fin n) (buffer : List UInt8) :
    (sys.handleDatareqResponse i buffer).1.Consistent := by
  have other (impossible : sys.dev.datainConn = some i) : False := by simp [noData] at impossible
  unfold handleDatareqResponse
  dsimp only
  split
  · split
    · exact consistent
    · exact consistent.setConn i _ (consistent.xid i) (consistent.data i)
  · split
    · split
      · exact consistent.setConn i _ (Or.inl rfl) (consistent.data i)
      · refine completeRequest_consistent ?_ i
        exact consistent.setConn i _ (Or.inl rfl) (consistent.data i)
    · split
      · exact consistent.setConn i _ (Or.inl rfl) (fun isData => absurd (other isData) id)
      · next cut =>
        constructor
        · intro j
          by_cases same : j = i
          · subst same
            simp [setDev, System.setConn]
          · simpa [setDev, System.setConn, Function.update_of_ne same] using consistent.xid j
        · intro j isData
          have same : i = j := Option.some.inj isData
          subst same
          simp only [setDev, System.setConn, Function.update_self]
          exact cutBuffers_total cut

theorem storeData_total (resp : Resp) (buffer : List UInt8) (consumed : Nat)
    (data : totalLen resp.datain.iov = resp.datain.total) :
    (storeData resp buffer consumed).1.xid = resp.xid ∧
      totalLen (storeData resp buffer consumed).1.datain.iov = resp.datain.total ∧
      (storeData resp buffer consumed).1.datain.total = resp.datain.total := by
  unfold storeData
  split
  · exact ⟨rfl, data, rfl⟩
  · next put =>
    refine ⟨rfl, ?_, rfl⟩
    rw [← data]
    simp only [totalLen, iovecPut_lens put]

theorem dataInput_consistent (consistent : sys.Consistent) {i : Fin n}
    (isData : sys.dev.datainConn = some i) (buffer : List UInt8) (consumed : Nat) :
    (sys.dataInput i buffer consumed).1.Consistent := by
  obtain ⟨xid, iov, total⟩ :=
    storeData_total (sys.conns i).resp buffer consumed (consistent.data i isData)
  have stored : (sys.setConn i
      { sys.conns i with
        resp := (storeData (sys.conns i).resp buffer consumed).1 }).Consistent := by
    apply consistent.setConn
    · rw [xid]
      exact consistent.xid i
    · intro _
      rw [iov, total]
  unfold dataInput
  dsimp only
  split
  · refine completeRequest_consistent ?_ i
    exact ⟨stored.xid, fun _ impossible => by simp [setDev] at impossible⟩
  · exact stored

theorem handleMessage_consistent (consistent : sys.Consistent) (noData : sys.dev.datainConn = none)
    (buffer : List UInt8) : (sys.handleMessage buffer).1.Consistent := by
  have acked := acknowledge_consistent consistent (respXid buffer)
  have stillNoData : (sys.acknowledge (respXid buffer)).dev.datainConn = none :=
    (sys.acknowledge_conns (respXid buffer)).2.2.2.2.trans noData
  unfold handleMessage
  split
  · unfold handleEvent
    split
    · split
      · exact consistent
      · dsimp only
        split
        · exact consistent
        · exact usrsockEvent_consistent consistent _ _
    · exact consistent
  · unfold handleReqResponse
    split
    · split
      · exact consistent
      · split
        · exact consistent
        · exact handleResponse_consistent acked _ buffer
    · split
      · split
        · exact consistent
        · split
          · exact consistent
          · exact handleDatareqResponse_consistent acked stillNoData _ buffer
      · exact consistent

theorem usrsockdevWrite_consistent (consistent : sys.Consistent) (buffer : List UInt8) :
    (sys.usrsockdevWrite buffer).1.Consistent := by
  unfold usrsockdevWrite
  split
  · exact consistent
  · split
    · next i isData => exact dataInput_consistent consistent isData buffer 0
    · next noData =>
      split
      · exact consistent
      · have handled := handleMessage_consistent consistent noData buffer
        dsimp only
        split
        · exact handled
        · next isData => exact dataInput_consistent handled isData _ _

theorem closeSection_consistent (consistent : sys.Consistent) : sys.closeSection.Consistent := by
  unfold closeSection
  split
  · exact consistent
  · split
    · next i _ =>
      have aborted : (sys.abortConn i).Consistent := by
        apply usrsockEvent_consistent
        exact consistent.setConn i _ (Or.inl rfl) (consistent.data i)
      refine aborted.of_resp (fun _ => rfl) ?_
      rw [abortConn_dev]
      rfl
    · exact consistent.of_resp (fun _ => rfl) rfl
  · split
    all_goals exact consistent.of_resp (fun _ => rfl) rfl

/-- Every step of the device and its callers keeps the connections consistent. -/
theorem step_consistent (sys : System n m) (action : Action n m) (consistent : sys.Consistent) :
    (sys.step action).Consistent := by
  have outcome := sys.step_outcome action
  generalize sys.step action = after at outcome
  cases outcome with
  | nothing => exact consistent
  | moves t _ outside moves => exact moves_consistent consistent moves
  | puts t frame isFrame waits line isOpen => exact consistent.of_resp (fun _ => rfl) rfl
  | skips t frame isFrame waits line isClosed =>
    have given : (sys.setDev sys.dev.skipRequest).Consistent :=
      consistent.of_resp (fun _ => rfl) rfl
    exact moves_consistent given (requestMade_moves _ t frame)
  | acknowledged t frame isFrame waits posted =>
    have given : (sys.setDev sys.dev.takeAck).Consistent :=
      consistent.of_resp (fun _ => rfl) rfl
    exact moves_consistent given (requestMade_moves _ t frame)
  | opens notClosing =>
    unfold usrsockdevOpen
    split
    · exact consistent
    · exact consistent.of_resp (fun _ => rfl) rfl
  | reads len =>
    unfold usrsockdevRead
    split
    · exact consistent
    · split
      · exact consistent
      · exact consistent.of_resp (fun _ => rfl) rfl
  | writes buffer isWrite inUse => exact usrsockdevWrite_consistent consistent buffer
  | closes isClose inUse => exact consistent.of_resp (fun _ => rfl) rfl
  | closing isSection => exact closeSection_consistent consistent

theorem initial_consistent (n m callbacks : Nat) : (initial n m callbacks).Consistent where
  xid := fun _ => Or.inl rfl
  data := fun _ impossible => by simp [initial, Device.registered] at impossible

end System

end Thingsee.Usrsock
