import Thingsee.Usrsock.FinalResponse

/-!
Owns the way of data through the device: what a sequence of writes leaves in the buffers
of a call, and what the call returns.

`fill` is the abstract view of the buffers, one text spread over them. However the data
is split into writes, the buffers are filled with all of it.
-/

namespace Thingsee.Usrsock

open Support List

variable {n m : Nat}

theorem overwrite_nil (buffer : List UInt8) (pos : Nat) : overwrite buffer pos [] = buffer := by
  induction buffer generalizing pos with
  | nil => simp [overwrite]
  | cons byte buffer ih =>
    cases pos with
    | zero => simp [overwrite]
    | succ pos => simp [overwrite, ih]

theorem overwrite_front {buffer bytes : List UInt8} (fits : bytes.length ≤ buffer.length) :
    overwrite buffer 0 bytes = bytes ++ buffer.drop bytes.length := by
  induction buffer generalizing bytes with
  | nil =>
    have none : bytes = [] := by simpa using fits
    simp [none, overwrite]
  | cons byte buffer ih =>
    cases bytes with
    | nil => simp [overwrite]
    | cons first bytes =>
      have fitsRest : bytes.length ≤ buffer.length := by simpa using fits
      simp [overwrite, ih fitsRest]

theorem overwrite_append {buffer front bytes : List UInt8} (fits : front.length ≤ buffer.length) :
    overwrite (overwrite buffer 0 front) front.length bytes =
      overwrite buffer 0 (front ++ bytes) := by
  induction buffer generalizing front with
  | nil =>
    have none : front = [] := by simpa using fits
    simp [none, overwrite]
  | cons byte buffer ih =>
    cases front with
    | nil => simp [overwrite]
    | cons first front =>
      have fitsRest : front.length ≤ buffer.length := by simpa using fits
      simp [overwrite, ih fitsRest]

namespace Iovec

theorem store_nil (iov : Iovec) (pos : Nat) : iov.store pos [] = iov := by
  cases iov
  simp [store, overwrite_nil]

theorem store_append (iov : Iovec) {front bytes : List UInt8} (fits : front.length ≤ iov.len) :
    (iov.store 0 front).store front.length bytes = iov.store 0 (front ++ bytes) := by
  have inBase : front.length ≤ iov.base.length := Nat.le_trans fits iov.within
  simp only [store, overwrite_append inBase]

end Iovec

/-- The buffers after a text has been spread over them, one behind the other. -/
def fill : List Iovec → List UInt8 → List Iovec
  | [], _ => []
  | iov :: rest, bytes => iov.store 0 (bytes.take iov.len) :: fill rest (bytes.drop iov.len)

theorem fill_nil (iovs : List Iovec) : fill iovs [] = iovs := by
  induction iovs with
  | nil => rfl
  | cons iov rest ih => simp [fill, Iovec.store_nil, ih]

theorem totalLen_cons (iov : Iovec) (rest : List Iovec) :
    totalLen (iov :: rest) = iov.len + totalLen rest := by
  simp [totalLen]

/-! ## Filling -/

/-- Bytes with enough room fill the front of the vectors. -/
theorem copyTo_front (iovs : List Iovec) (bytes : List UInt8)
    (room : bytes.length ≤ totalLen iovs) :
    copyTo iovs 0 bytes = (bytes.length, fill iovs bytes) := by
  induction iovs generalizing bytes with
  | nil =>
    have none : bytes = [] := by simpa [totalLen] using room
    simp [none, copyTo, fill]
  | cons iov rest ih =>
    rw [totalLen_cons] at room
    have later := ih (bytes.drop (min iov.len bytes.length))
      (by rw [length_drop]; omega)
    simp only [copyTo, fill, Nat.sub_zero, later, length_drop, Prod.mk.injEq,
      List.cons.injEq]
    refine ⟨by omega, ?_, ?_⟩
    · rw [← take_eq_take_min]
    · rcases Nat.le_total iov.len bytes.length with short | long
      · rw [Nat.min_eq_left short]
      · rw [Nat.min_eq_right long, drop_length, drop_of_length_le long]

theorem iovecPut_fill {iovs : List Iovec} {front bytes : List UInt8}
    (room : front.length + bytes.length ≤ totalLen iovs)
    (inside : front.length < totalLen iovs ∨ (front = [] ∧ iovs ≠ [])) :
    iovecPut (fill iovs front) front.length bytes =
      some (bytes.length, fill iovs (front ++ bytes)) := by
  induction iovs generalizing front with
  | nil => simp [totalLen] at inside
  | cons iov rest ih =>
    rw [totalLen_cons] at room inside
    have firstLen : (iov.store 0 (front.take iov.len)).len = iov.len := rfl
    rw [fill, iovecPut, firstLen]
    by_cases behind : 0 < front.length ∧ iov.len ≤ front.length
    · -- The first buffer is full, and the rest is filled with what did not fit into it.
      have restLength : (front.drop iov.len).length = front.length - iov.len :=
        length_drop
      have insideRest : (front.drop iov.len).length < totalLen rest ∨
          (front.drop iov.len = [] ∧ rest ≠ []) := by
        left
        rcases inside with inside | ⟨rfl, -⟩
        · omega
        · simp at behind
      have put := @ih (front.drop iov.len) (by omega) insideRest
      rw [if_pos behind, ← restLength, put, Option.map_some, fill,
        take_append_of_le_length behind.2, drop_append_of_le_length behind.2]
    · -- The first buffer has room behind the text, and the others are still as they were.
      have inFirst : front.length ≤ iov.len := by omega
      have whole : front.take iov.len = front := take_of_length_le inFirst
      have noMore : front.drop iov.len = [] := drop_of_length_le inFirst
      have later := copyTo_front rest (bytes.drop (min (iov.len - front.length) bytes.length))
        (by rw [length_drop]; omega)
      rw [if_neg behind, whole, noMore, fill_nil, copyTo]
      have lenStored : (iov.store 0 front).len = iov.len := rfl
      simp only [lenStored, later, length_drop, Option.some.injEq, Prod.mk.injEq, fill,
        List.cons.injEq, Iovec.store_append iov inFirst]
      refine ⟨by omega, ?_, ?_⟩
      · rw [← take_eq_take_min, take_append, whole]
      · rw [drop_append, noMore, nil_append]
        rcases Nat.le_total (iov.len - front.length) bytes.length with short | long
        · rw [Nat.min_eq_left short]
        · rw [Nat.min_eq_right long, drop_length, drop_of_length_le long]

namespace System

variable {sys : System n m} {value data : Iovec} {i : Fin n} {iovs : List Iovec} {valuelen : Nat}
  {t : Fin m} {front : List UInt8} {result : Nat} (valueFits : valuelen ≤ value.len)
  (dataFits : result ≤ data.len)

/-- The connection `i` with other buffers. -/
def withDatain (sys : System n m) (i : Fin n) (datain : Datain) : System n m :=
  sys.setConn i { sys.conns i with resp := { (sys.conns i).resp with datain := datain } }

/-- The end of the data phase of the connection `i`. -/
def endData (sys : System n m) (i : Fin n) : System n m :=
  (sys.setDev { sys.dev with datainConn := none }).completeRequest i

theorem withDatain_datain (sys : System n m) (i : Fin n) (datain : Datain) :
    ((sys.withDatain i datain).conns i).resp.datain = datain := by
  simp [withDatain, setConn]

theorem withDatain_withDatain (sys : System n m) (i : Fin n) (first last : Datain) :
    (sys.withDatain i first).withDatain i last = sys.withDatain i last := by
  simp [withDatain, setConn]

/-- Whether the device accepts each of several writes as a whole. -/
def AcceptsAll (sys : System n m) : List (List UInt8) → Prop
  | [] => True
  | buffer :: rest =>
    (sys.usrsockdevWrite buffer).2 = buffer.length ∧ (sys.usrsockdevWrite buffer).1.AcceptsAll rest

theorem writeAll_empty (sys : System n m) {writes : List (List UInt8)}
    (empty : writes.flatten = []) : sys.AcceptsAll writes ∧ sys.writeAll writes = sys := by
  induction writes with
  | nil => exact ⟨trivial, rfl⟩
  | cons first rest ih =>
    obtain ⟨rfl, restEmpty⟩ : first = [] ∧ rest.flatten = [] := by simpa using empty
    obtain ⟨accepted, same⟩ := ih restEmpty
    have skipped : sys.usrsockdevWrite [] = (sys, 0) := by simp [usrsockdevWrite]
    refine ⟨⟨by rw [skipped]; rfl, by rw [skipped]; exact accepted⟩, ?_⟩
    rw [System.writeAll, foldl_cons, skipped]
    exact same

/-- The data phase of the connection `i`: `front` has been spread over the buffers
`iovs`. -/
structure Filled (sys : System n m) (i : Fin n) (iovs : List Iovec) (front : List UInt8) :
    Prop where
  isData : sys.dev.datainConn = some i
  datain : (sys.conns i).resp.datain = ⟨fill iovs front, totalLen iovs, front.length⟩

/-- The data input after some text, as far as the buffers go. -/
def filledBy (sys : System n m) (i : Fin n) (iovs : List Iovec) (text : List UInt8) :
    System n m :=
  sys.withDatain i ⟨fill iovs text, totalLen iovs, text.length⟩

theorem Filled.dataInput (filled : sys.Filled i iovs front) (buffer : List UInt8)
    (room : front.length + buffer.length ≤ totalLen iovs)
    (inside : front.length < totalLen iovs ∨ (front = [] ∧ iovs ≠ [])) (consumed : Nat) :
    sys.dataInput i buffer consumed =
      (if front.length + buffer.length = totalLen iovs then
          (sys.filledBy i iovs (front ++ buffer)).endData i
        else sys.filledBy i iovs (front ++ buffer),
        ((consumed + buffer.length : Nat) : Int)) := by
  have stored : storeData (sys.conns i).resp buffer consumed =
      ({ (sys.conns i).resp with
          datain := ⟨fill iovs (front ++ buffer), totalLen iovs, (front ++ buffer).length⟩ },
        ((consumed + buffer.length : Nat) : Int)) := by
    simp only [storeData, filled.datain, iovecPut_fill room inside, length_append]
  simp only [System.dataInput, stored, length_append]
  split
  · simp only [filledBy, withDatain, endData, length_append]
  · simp only [filledBy, withDatain, length_append]

theorem Filled.filledBy (filled : sys.Filled i iovs front) (text : List UInt8) :
    (sys.filledBy i iovs text).Filled i iovs text :=
  ⟨filled.isData, withDatain_datain sys i _⟩

theorem Filled.writeAll (filled : sys.Filled i iovs front) (writes : List (List UInt8))
    (inside : front.length < totalLen iovs)
    (whole : front.length + writes.flatten.length = totalLen iovs) :
    sys.AcceptsAll writes ∧
      sys.writeAll writes = (sys.filledBy i iovs (front ++ writes.flatten)).endData i := by
  induction writes generalizing sys front with
  | nil =>
    rw [flatten_nil, length_nil] at whole
    omega
  | cons buffer rest ih =>
    rw [flatten_cons, length_append] at whole
    by_cases nothing : buffer = []
    · subst nothing
      have skipped : sys.usrsockdevWrite [] = (sys, 0) := by simp [usrsockdevWrite]
      obtain ⟨accepted, written⟩ := ih filled inside (by simpa using whole)
      refine ⟨⟨by rw [skipped]; rfl, by rw [skipped]; exact accepted⟩, ?_⟩
      rw [flatten_cons, nil_append, ← written]
      simp only [System.writeAll, foldl_cons, skipped]
    · have input := filled.dataInput buffer (by omega) (Or.inl inside) 0
      rw [← usrsockdevWrite_data filled.isData nothing, Nat.zero_add] at input
      by_cases last : front.length + buffer.length = totalLen iovs
      · -- Only empty writes can follow.
        rw [if_pos last] at input
        have restEmpty : rest.flatten = [] := eq_nil_of_length_eq_zero (by omega)
        obtain ⟨accepted, same⟩ := writeAll_empty (sys.usrsockdevWrite buffer).1 restEmpty
        refine ⟨⟨by rw [input], accepted⟩, ?_⟩
        rw [flatten_cons, restEmpty, append_nil]
        refine Eq.trans same ?_
        rw [input]
      · rw [if_neg last] at input
        obtain ⟨accepted, written⟩ := ih (filled.filledBy (front ++ buffer))
          (by rw [length_append]; omega) (by rw [length_append]; omega)
        refine ⟨⟨by rw [input], by rw [input]; exact accepted⟩, ?_⟩
        have first : sys.writeAll (buffer :: rest) =
            (sys.filledBy i iovs (front ++ buffer)).writeAll rest := by
          rw [System.writeAll, foldl_cons, input]
          rfl
        rw [first, written, flatten_cons, ← append_assoc]
        simp only [System.filledBy, withDatain_withDatain]

/-- The buffers of a response with a value of `valuelen` bytes and `result` bytes of
data. -/
def cutTo (value data : Iovec) {valuelen result : Nat} (valueFits : valuelen ≤ value.len)
    (dataFits : result ≤ data.len) : List Iovec :=
  if 0 < result then [value.shorten valuelen valueFits, data.shorten result dataFits]
  else [value.shorten valuelen valueFits]

theorem cutBuffers_cutTo :
    cutBuffers [value, data] valuelen result = some (cutTo value data valueFits dataFits) := by
  by_cases filled : 0 < result
  · have filledInt : (0 : Int) < result := by exact_mod_cast filled
    have fits : (result : Int).toNat ≤ data.len := dataFits
    simp only [cutBuffers, cutTo, dif_pos valueFits, if_pos filledInt, dif_pos fits, if_pos filled]
    rfl
  · have emptyInt : ¬ (0 : Int) < result := by exact_mod_cast filled
    simp only [cutBuffers, cutTo, dif_pos valueFits, if_neg emptyInt, if_neg filled]

theorem totalLen_cutTo : totalLen (cutTo value data valueFits dataFits) = valuelen + result := by
  unfold cutTo
  split
  · simp [totalLen, Iovec.shorten]
  · simp [totalLen, Iovec.shorten]
    omega

theorem cutTo_ne_nil : cutTo value data valueFits dataFits ≠ [] := by
  unfold cutTo
  split <;> simp

/-- The contents of the buffers of a call, when the device has `iovs` for them. A response
without data leaves the last one alone. -/
def contents (inbufs iovs : List Iovec) : List (List UInt8) :=
  iovs.map Iovec.base ++ (inbufs.drop iovs.length).map Iovec.base

theorem contents_fill {text bytes : List UInt8} (valueFits : text.length ≤ value.len)
    (dataFits : bytes.length ≤ data.len) :
    contents [value, data] (fill (cutTo value data valueFits dataFits) (text ++ bytes)) =
      [text ++ value.base.drop text.length, bytes ++ data.base.drop bytes.length] := by
  have valueBase : text.length ≤ value.base.length := Nat.le_trans valueFits value.within
  have dataBase : bytes.length ≤ data.base.length := Nat.le_trans dataFits data.within
  unfold cutTo
  split
  · simp [fill, contents, Iovec.shorten, Iovec.store, overwrite_front valueBase,
      overwrite_front dataBase]
  · next nothing =>
    have empty : bytes = [] := eq_nil_of_length_eq_zero (by omega)
    simp [empty, fill, contents, Iovec.shorten, Iovec.store, overwrite_front valueBase]

/-- A complete response with data for the connection `i`. -/
structure DataHeader (header : List UInt8) (i : Fin n) (result valuelen nontrunc : Nat) :
    Prop where
  length : header.length = datareqAckSize
  response : isResponse header = true
  msgid : msgid header = responseDataAck
  xid : respXid header = getXid i
  complete : reqInProgress header = false
  result : respResult header = result
  valuelen : respValuelen header = valuelen
  nontrunc : respValuelenNontrunc header = nontrunc

/-- The connection `i` after the header of a response with data. -/
def respond (sys : System n m) (i : Fin n) (result valuelen nontrunc : Nat)
    (iovs : List Iovec) : System n m :=
  let sys := sys.acknowledge (getXid i)
  let resp :=
    { (sys.conns i).resp with
      inprogress := false
      xid := 0
      result := result
      valuelen := valuelen
      valuelenNontrunc := nontrunc
      datain := ⟨iovs, totalLen iovs, 0⟩ }
  let sys := sys.setConn i { sys.conns i with resp := resp }
  sys.setDev { sys.dev with datainConn := some i }

theorem respond_filled (sys : System n m) (i : Fin n) (result valuelen nontrunc : Nat)
    (iovs : List Iovec) :
    (sys.respond i result valuelen nontrunc iovs).Filled i iovs [] := by
  refine ⟨rfl, ?_⟩
  simp [respond, setConn, setDev, fill_nil]

theorem writeAll_dataResponse (value data : Iovec) {text bytes header : List UInt8}
    {total nontrunc : Nat} (valueFits : text.length ≤ value.len)
    (dataFits : bytes.length ≤ data.len) (noData : sys.dev.datainConn = none)
    (waiting : sys.waitingFor (getXid i) = some i)
    (datain : (sys.conns i).resp.datain = ⟨[value, data], total, 0⟩)
    (isHeader : DataHeader header i bytes.length text.length nontrunc) {writes : List (List UInt8)}
    (whole : writes.flatten = text ++ bytes) : let iovs := cutTo value data valueFits dataFits
    sys.AcceptsAll (header :: writes) ∧
      sys.writeAll (header :: writes) =
        ((sys.respond i bytes.length text.length nontrunc iovs).filledBy i iovs
          (text ++ bytes)).endData i := by
  intro iovs
  have total' : totalLen iovs = text.length + bytes.length := totalLen_cutTo valueFits dataFits
  let responded := sys.respond i bytes.length text.length nontrunc iovs
  have filled : responded.Filled i iovs [] := respond_filled sys i _ _ _ iovs
  have announcedTotal : announced header = totalLen iovs := by
    rw [announced, isHeader.result, isHeader.valuelen, total']
    rfl
  have handled : sys.handleReqResponse header = (responded, (datareqAckSize : Int)) := by
    have notAck : ¬ msgid header = responseAck := by rw [isHeader.msgid]; decide
    have long : ¬ header.length < datareqAckSize := by rw [isHeader.length]; omega
    have kept : ((sys.acknowledge (getXid i)).conns i).resp.datain = ⟨[value, data], total, 0⟩ := by
      rw [(sys.acknowledge_conns _).1, datain]
    have notNegative : ¬ (bytes.length : Int) < 0 := by omega
    rw [handleReqResponse, if_neg notAck, if_pos isHeader.msgid, if_neg long, isHeader.xid, waiting]
    simp only [handleDatareqResponse, isHeader.complete, isHeader.result, isHeader.valuelen,
      isHeader.nontrunc, Bool.false_eq_true, ↓reduceIte, if_neg notNegative, kept,
      cutBuffers_cutTo valueFits dataFits, announcedTotal]
    rfl
  have input := filled.dataInput [] (by simp)
    (Or.inr ⟨rfl, cutTo_ne_nil valueFits dataFits⟩) datareqAckSize
  have consumed : header.drop (datareqAckSize : Int).toNat = [] :=
    drop_of_length_le (Nat.le_of_eq isHeader.length)
  have written : sys.usrsockdevWrite header =
      (if 0 = totalLen iovs then (responded.filledBy i iovs []).endData i
        else responded.filledBy i iovs [], (datareqAckSize : Int)) := by
    rw [usrsockdevWrite_response isHeader.response noData, handled]
    simp only [filled.isData]
    rw [consumed, show (datareqAckSize : Int).toNat = datareqAckSize from rfl]
    simpa using input
  have first : sys.writeAll (header :: writes) =
      (sys.usrsockdevWrite header).1.writeAll writes := rfl
  have accepted : (sys.usrsockdevWrite header).2 = header.length := by
    rw [written, isHeader.length]
  by_cases nothing : 0 = totalLen iovs
  · rw [if_pos nothing] at written
    have empty : text ++ bytes = [] := by
      apply eq_nil_of_length_eq_zero
      rw [length_append]
      omega
    obtain ⟨rest, same⟩ := writeAll_empty (sys.usrsockdevWrite header).1 (whole.trans empty)
    refine ⟨⟨accepted, rest⟩, ?_⟩
    rw [first, same, written, empty]
  · rw [if_neg nothing] at written
    have still : (responded.filledBy i iovs []).Filled i iovs [] := filled.filledBy []
    obtain ⟨rest, same⟩ := still.writeAll writes (by simp; omega)
      (by rw [whole, total']; simp)
    refine ⟨⟨accepted, by rw [written]; exact rest⟩, ?_⟩
    rw [first, written]
    refine same.trans ?_
    rw [whole, nil_append]
    simp only [System.filledBy, withDatain_withDatain]
    rfl

theorem execute_other (conn : Conn m) (threads : Fin m → Option (Frame n)) (events : Events)
    {list : List (Callback m)} (others : ∀ callback ∈ list, callback.thread ≠ t) :
    (execute conn threads events list).threads t = threads t := by
  induction list generalizing conn threads events with
  | nil => rfl
  | cons callback rest ih =>
    have restOthers : ∀ later ∈ rest, later.thread ≠ t :=
      fun later isIn => others later (by simp [isIn])
    have other : t ≠ callback.thread := fun same => others callback (by simp) same.symm
    rw [execute]
    split
    · split
      · dsimp only
        split
        · rw [ih _ _ _ restOthers, Function.update_of_ne other]
        · exact ih _ _ _ restOthers
      · exact ih _ _ _ restOthers
    · exact ih _ _ _ restOthers

theorem completeRequest_first {kind : Kind} {flags : Events} {others : List (Callback m)}
    {frame : Frame n} (list : (sys.conns i).list = ⟨t, kind, flags, true⟩ :: others)
    (waits : flags.reqComplete = true) (only : ∀ callback ∈ others, callback.thread ≠ t)
    (found : sys.threads t = some frame) :
    (sys.completeRequest i).threads t =
      some { frame with
        state := (kind.completeState (sys.conns i).resp frame.state).post } := by
  have nonempty : ({ reqComplete := true } : Events) ≠ {} := by decide
  have passed (conn : Conn m) : (conn.eventsFor { reqComplete := true }).abort = false ∧
      (conn.eventsFor { reqComplete := true }).reqComplete = true := by
    unfold Conn.eventsFor
    split <;> exact ⟨rfl, rfl⟩
  have meets (conn : Conn m) :
      (conn.eventsFor { reqComplete := true }).meets flags = true := by
    simp [Events.meets, (passed conn).2, waits]
  simp only [completeRequest, usrsockEvent, nonempty, ↓reduceIte, list, execute, found, meets,
    and_self, Kind.event, (passed _).1, (passed _).2, Bool.false_eq_true]
  rw [execute_other _ _ _ only, Function.update_self, Conn.update_resp]

/-- A thread inside of `call` for the connection `i`, whose request is not answered yet. -/
structure Waits (sys : System n m) (t : Fin m) (i : Fin n) (call : Call) (stage : Stage)
    (request : List Iovec) (tag : Nat) : Prop where
  consistent : sys.Consistent
  frame : sys.threads t = some ⟨call, i, stage, request, tag, Reqstate.fresh⟩
  listed : i ∈ sys.active
  xid : (sys.conns i).resp.xid = getXid i
  datain : (sys.conns i).resp.datain = ⟨call.inbufs, totalLen call.inbufs, 0⟩
  callback : ∃ others, (sys.conns i).list = ⟨t, call.kind, requestEvents, true⟩ :: others ∧
    ∀ callback ∈ others, callback.thread ≠ t
  noData : sys.dev.datainConn = none

theorem Waits.waitingFor {call : Call} {stage : Stage} {request : List Iovec} {tag : Nat}
    (waits : sys.Waits t i call stage request tag) : sys.waitingFor (getXid i) = some i := by
  have outstanding : (sys.conns i).resp.xid ≠ 0 := by
    rw [waits.xid, getXid]
    omega
  have found := waitingFor_eq_some waits.consistent waits.listed outstanding
  rwa [waits.xid] at found

end System

/-- What `usrsock_recvfrom` stores as the length of the address of a request that has
ended. -/
def Frame.outaddrlen (frame : Frame n) : Nat :=
  if 0 ≤ frame.state.result then frame.state.valuelenNontrunc else 0

namespace System

variable {sys : System n m} {t : Fin m} {i : Fin n} {request : List Iovec} {tag : Nat}

/-- Nothing stands in the way of a call of the thread `t` that receives from the
connection `i`: the daemon has announced data, and the request line is free. -/
structure Receivable (sys : System n m) (t : Fin m) (i : Fin n) : Prop where
  consistent : sys.Consistent
  idle : sys.threads t = none
  listed : i ∈ sys.active
  ready : (sys.conns i).state = .ready
  connected : isConnectionMode (sys.conns i).type = true → (sys.conns i).connected = true
  avail : (sys.conns i).flags.recvfromAvail = true
  notClosed : (sys.conns i).flags.remoteClosed = false
  callbacks : sys.cbfree ≠ 0
  others : ∀ callback ∈ (sys.conns i).list, callback.thread ≠ t
  isOpen : sys.dev.ocount ≠ 0
  line : sys.dev.sem ≠ 0
  noData : sys.dev.datainConn = none

def recvfromRequest (sys : System n m) (i : Fin n) (buf addr : List UInt8) : List UInt8 :=
  Kind.recvfrom.reqid :: UInt8.ofNat (getXid i) :: (leBytes 2 (sys.conns i).usockid ++
    leBytes 2 (limited buf.length) ++ leBytes 2 (limited addr.length))

theorem Receivable.start_waits (receivable : sys.Receivable t i) (buf addr : List UInt8)
    (nonblock : Bool) : let after := sys.step (.start t i (.recvfrom buf addr nonblock))
    after.Waits t i (.recvfrom buf addr nonblock) .waitReq
        [Iovec.ofBytes (sys.recvfromRequest i buf addr)] sys.nextTag ∧
      after.dev = { sys.dev with nbusy := (sys.dev.nbusy + 1) % 65536 } ∧
      after.returns = sys.returns := by
  intro after
  have notRefused : refuses (sys.conns i) (.recvfrom buf addr nonblock) = false := by
    have settled : (sys.conns i).state ≠ .connecting := by
      rw [receivable.ready]
      decide
    cases mode : isConnectionMode (sys.conns i).type with
    | false => simp [refuses, mode, settled]
    | true => simp [refuses, mode, settled, receivable.connected mode]
  have usable : ¬ ((sys.conns i).state = .uninitialized ∨ (sys.conns i).state = .aborted) := by
    rw [receivable.ready]
    decide
  have started : after = sys.makeRequest t
      ⟨.recvfrom buf addr nonblock, i, .allocated, [], 0, Reqstate.fresh⟩ := by
    simp [after, step, receivable.idle, start, usable, notRefused, turn, readyEvents,
      receivable.notClosed, isReady, receivable.avail]
  have made : after =
      { ((((({ sys with cbfree := sys.cbfree - 1 } : System n m).setConn i
          { sys.conns i with
            list := ⟨t, .recvfrom, requestEvents, true⟩ :: (sys.conns i).list
            resp := { (sys.conns i).resp with
              xid := getXid i
              result := -EACCES
              datain := ⟨[Iovec.ofBytes addr, Iovec.ofBytes buf],
                totalLen [Iovec.ofBytes addr, Iovec.ofBytes buf], 0⟩ }
            tag := sys.nextTag }).setThread t
          (some ⟨.recvfrom buf addr nonblock, i, .waitReq,
            [Iovec.ofBytes (sys.recvfromRequest i buf addr)], sys.nextTag, Reqstate.fresh⟩)).setDev
        { sys.dev with nbusy := (sys.dev.nbusy + 1) % 65536 })) with
        nextTag := sys.nextTag + 1 } := by
    rw [started]
    simp [makeRequest, setupRequestCallback, receivable.callbacks, Call.receives, Call.inbufs,
      Call.kind, Conn.setupDatain, Call.request, Call.requestBody, beginRequest, receivable.isOpen,
      setConn, setThread, setDev, recvfromRequest]
  have consistent : after.Consistent := sys.step_consistent _ receivable.consistent
  refine ⟨⟨consistent, ?_, ?_, ?_, ?_, ⟨(sys.conns i).list, ?_, receivable.others⟩, ?_⟩, ?_, ?_⟩
  · simp [made, setThread, setDev]
  · rw [made]
    exact receivable.listed
  · simp [made, setConn, setThread, setDev]
  · simp [made, setConn, setThread, setDev, Call.inbufs]
  · simp [made, setConn, setThread, setDev, Call.kind]
  · rw [made]
    exact receivable.noData
  · rw [made]
    rfl
  · rw [made]
    rfl

theorem Waits.put {call : Call} (waits : sys.Waits t i call .waitReq request tag)
    (line : sys.dev.sem ≠ 0) (isOpen : sys.dev.ocount ≠ 0) : let after := sys.step (.proceed t)
    after.Waits t i call .waitAck request tag ∧
      after.dev = sys.dev.putRequest ⟨call, i, .waitReq, request, tag, Reqstate.fresh⟩ ∧
      after.conns = sys.conns ∧ after.returns = sys.returns := by
  intro after
  have made : after =
      (sys.setDev (sys.dev.putRequest
        ⟨call, i, .waitReq, request, tag, Reqstate.fresh⟩)).setThread t
        (some ⟨call, i, .waitAck, request, tag, Reqstate.fresh⟩) := by
    simp [after, step, waits.frame, proceed, line, isOpen]
  have consistent : after.Consistent := sys.step_consistent _ waits.consistent
  rw [made] at consistent ⊢
  refine ⟨⟨consistent, ?_, waits.listed, waits.xid, waits.datain, waits.callback, waits.noData⟩,
    rfl, rfl, rfl⟩
  simp [setThread]

theorem Waits.setPos {call : Call} {stage : Stage} (waits : sys.Waits t i call stage request tag)
    (pos : Nat) :
    (sys.setDev { sys.dev with pos := pos }).Waits t i call stage request tag where
  consistent := waits.consistent.of_resp (fun _ => rfl) rfl
  frame := waits.frame
  listed := waits.listed
  xid := waits.xid
  datain := waits.datain
  callback := waits.callback
  noData := waits.noData

/-- An acknowledgment of the request for the connection `i`. -/
structure AckHeader (header : List UInt8) (i : Fin n) : Prop where
  length : header.length = reqAckSize
  response : isResponse header = true
  msgid : msgid header = responseAck
  xid : respXid header = getXid i
  inprogress : reqInProgress header = true

/-- The acknowledgment lets the waiting call go on to the data. -/
theorem Waits.acknowledged {buf addr : List UInt8} {nonblock : Bool}
    (waits : sys.Waits t i (.recvfrom buf addr nonblock) .waitAck request tag)
    (line : sys.dev.iov.isSome = true) (own : sys.dev.ackXid = getXid i) {header : List UInt8}
    (isHeader : AckHeader header i) :
    (sys.usrsockdevWrite header).2 = header.length ∧
      ((sys.usrsockdevWrite header).1.step (.proceed t)).Waits t i (.recvfrom buf addr nonblock)
        .waitDone request tag := by
  have handled : sys.handleReqResponse header =
      ((sys.setDev { sys.dev with iov := none, acksem := sys.dev.acksem + 1 }).setConn i
        { sys.conns i with resp := { (sys.conns i).resp with inprogress := true } },
        (reqAckSize : Int)) := by
    have long : ¬ header.length < reqAckSize := by rw [isHeader.length]; omega
    rw [handleReqResponse, if_pos isHeader.msgid, if_neg long, isHeader.xid, waits.waitingFor]
    simp [acknowledge, own, line, handleResponse, isHeader.inprogress, setDev, setConn]
  have written : sys.usrsockdevWrite header = sys.handleReqResponse header := by
    rw [usrsockdevWrite_response isHeader.response waits.noData, handled]
    simp [setDev, setConn, waits.noData]
  have consistent := (sys.usrsockdevWrite header).1.step_consistent (.proceed t)
    (usrsockdevWrite_consistent waits.consistent header)
  refine ⟨by rw [written, handled, isHeader.length], ?_⟩
  rw [written, handled] at consistent ⊢
  have made : ((sys.setDev { sys.dev with iov := none, acksem := sys.dev.acksem + 1 }).setConn i
        { sys.conns i with resp := { (sys.conns i).resp with inprogress := true } }).step
          (.proceed t) =
      ((sys.setDev { sys.dev with iov := none, acksem := sys.dev.acksem }.endRequest).setConn i
        { sys.conns i with resp := { (sys.conns i).resp with inprogress := true } }).setThread t
          (some ⟨.recvfrom buf addr nonblock, i, .waitDone, request, tag, Reqstate.fresh⟩) := by
    simp [step, setConn, setDev, setThread, waits.frame, proceed, requestMade, returnsEarly,
      Device.takeAck]
  obtain ⟨others, list, only⟩ := waits.callback
  rw [made] at consistent ⊢
  refine ⟨consistent, ?_, waits.listed, ?_, ?_, ⟨others, ?_, only⟩, waits.noData⟩
  · simp [setThread]
  · simpa [setThread, setConn, setDev] using waits.xid
  · simpa [setThread, setConn, setDev] using waits.datain
  · simpa [setThread, setConn, setDev] using list

/-- The end of a call that has received data: its buffers, what it returns, and the length
of the address. -/
structure Received (sys : System n m) (t : Fin m) (i : Fin n) (call : Call) (tag : Nat)
    (buffers : List (List UInt8)) (result : Int) (outaddrlen : Nat) : Prop where
  buffers : contents call.inbufs (sys.conns i).resp.datain.iov = buffers
  idle : sys.dev.datainConn = none
  fromlen : (sys.threads t).map Frame.outaddrlen = some outaddrlen
  returns : (sys.step (.proceed t)).returns = sys.returns ++ [⟨tag, .recvfrom, result⟩]
  left : (sys.step (.proceed t)).threads t = none

/-- The data reach the buffers of the call and nothing behind them changes. -/
theorem Waits.received {buf addr : List UInt8} {nonblock : Bool}
    (waits : sys.Waits t i (.recvfrom buf addr nonblock) .waitDone request tag)
    {text bytes header : List UInt8} {nontrunc : Nat} (valueFits : text.length ≤ addr.length)
    (dataFits : bytes.length ≤ buf.length)
    (isHeader : DataHeader header i bytes.length text.length nontrunc) {writes : List (List UInt8)}
    (whole : writes.flatten = text ++ bytes) :
    sys.AcceptsAll (header :: writes) ∧
      (sys.writeAll (header :: writes)).Received t i (.recvfrom buf addr nonblock) tag
        [text ++ addr.drop text.length, bytes ++ buf.drop bytes.length] bytes.length nontrunc := by
  obtain ⟨accepted, written⟩ := writeAll_dataResponse (Iovec.ofBytes addr)
    (Iovec.ofBytes buf) valueFits dataFits waits.noData waits.waitingFor waits.datain
    isHeader whole
  refine ⟨accepted, ?_⟩
  rw [written]
  let iovs := cutTo (Iovec.ofBytes addr) (Iovec.ofBytes buf) valueFits dataFits
  let stored := (sys.respond i bytes.length text.length nontrunc iovs).filledBy i iovs
    (text ++ bytes)
  let ended := stored.setDev { stored.dev with datainConn := none }
  show (ended.completeRequest i).Received t i (.recvfrom buf addr nonblock) tag _ _ _
  obtain ⟨others, list, only⟩ := waits.callback
  obtain ⟨sameConns, sameThreads, -⟩ := sys.acknowledge_conns (getXid i)
  -- What the device has stored for the connection, and what the thread is woken up with.
  have resp : (ended.conns i).resp =
      { (sys.conns i).resp with
        inprogress := false
        xid := 0
        result := bytes.length
        valuelen := text.length
        valuelenNontrunc := nontrunc
        datain := ⟨fill iovs (text ++ bytes), totalLen iovs, (text ++ bytes).length⟩ } := by
    simp [ended, stored, filledBy, withDatain, respond, setConn, setDev, sameConns]
  have endedList : (ended.conns i).list = ⟨t, .recvfrom, requestEvents, true⟩ :: others := by
    simp [ended, stored, filledBy, withDatain, respond, setConn, setDev, sameConns, list, Call.kind]
  have endedFrame : ended.threads t =
      some ⟨.recvfrom buf addr nonblock, i, .waitDone, request, tag, Reqstate.fresh⟩ := by
    rw [← waits.frame, ← sameThreads]
    rfl
  have notNegative : ¬ (bytes.length : Int) < 0 := by omega
  have woken : (ended.completeRequest i).threads t =
      some ⟨.recvfrom buf addr nonblock, i, .waitDone, request, tag,
        ⟨bytes.length, 1, text.length, nontrunc⟩⟩ := by
    rw [completeRequest_first endedList rfl only endedFrame, resp]
    simp [Kind.completeState, notNegative, Reqstate.post, Reqstate.fresh]
  have notAgain : ¬ (bytes.length : Int) = -EAGAIN := by
    unfold EAGAIN
    omega
  have finished : (ended.completeRequest i).step (.proceed t) =
      (((ended.completeRequest i).resetDatain
          ⟨.recvfrom buf addr nonblock, i, .waitDone, request, tag,
            ⟨bytes.length, 1, text.length, nontrunc⟩⟩).teardownRequestCallback t i).returnResult t
        ⟨.recvfrom buf addr nonblock, i, .waitDone, request, tag,
          ⟨bytes.length, 1, text.length, nontrunc⟩⟩ := by
    simp [step, woken, proceed, finish, notAgain]
  refine ⟨?_, ?_, ?_, ?_, ?_⟩
  · rw [completeRequest, usrsockEvent_resp, resp]
    exact contents_fill valueFits dataFits
  · rw [completeRequest_dev]
    rfl
  · rw [woken]
    simp [Frame.outaddrlen]
  · rw [finished]
    rfl
  · rw [finished]
    simp [returnResult, leave, setThread]

end System

end Thingsee.Usrsock
