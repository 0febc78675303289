import Thingsee.Support.Runs
import Thingsee.Usrsock.Writes

/-!
Owns which connection a response of the daemon is about, and what becomes of the
request it answers.

`usrsockdev_handle_datareq_response` gives up the exchange id before it looks at
the lengths, so a message that it then refuses leaves a request that is neither
outstanding nor complete. `final_response_kept_iff` says exactly when that
happens. A connection without a request has exchange id 0, which a message can
name too: `idle_connections_kept_iff`. No write touches another connection than
the one it is about: `writes_touch_their_addressee`.
-/

namespace Thingsee.Usrsock

open Support

variable {n m : Nat}

namespace System

/-! ## The addressee of a message -/

variable {sys before : System n m} {buffer : List UInt8} {i k : Fin n}

theorem waitingFor_eq_some (consistent : sys.Consistent) (isActive : i ∈ sys.active)
    (outstanding : (sys.conns i).resp.xid ≠ 0) :
    sys.waitingFor (sys.conns i).resp.xid = some i := by
  unfold waitingFor
  cases found : sys.active.find? (fun j => decide ((sys.conns j).resp.xid =
      (sys.conns i).resp.xid)) with
  | none =>
    have missing := List.find?_eq_none.mp found i isActive
    simp at missing
  | some j =>
    have sameXid : (sys.conns j).resp.xid = (sys.conns i).resp.xid := by
      simpa using List.find?_some found
    have own := (consistent.xid i).resolve_left outstanding
    have other := (consistent.xid j).resolve_left (by rw [sameXid]; exact outstanding)
    rw [getXid_injective (other.symm.trans (sameXid.trans own))]

theorem waitingFor_xid {xid : Nat} (found : sys.waitingFor xid = some i) :
    i ∈ sys.active ∧ (sys.conns i).resp.xid = xid := by
  exact ⟨List.mem_of_find?_eq_some found, by simpa using List.find?_some found⟩

/-- What a message to the connection `i` leaves alone. -/
structure Addressed (i : Fin n) (before after : System n m) : Prop where
  others : ∀ k, k ≠ i → after.conns k = before.conns k
  record : after.delivered = before.delivered ∨ after.delivered = before.delivered ++ [i]
  data : after.dev.datainConn = before.dev.datainConn ∨ after.dev.datainConn = some i ∨
    after.dev.datainConn = none

theorem setConn_others (sys : System n m) (i : Fin n) (conn : Conn m) :
    ∀ k, k ≠ i → (sys.setConn i conn).conns k = sys.conns k := by
  intro k other
  exact Function.update_of_ne other _ _

theorem completeRequest_addressed {prepared : System n m}
    (others : ∀ k, k ≠ i → prepared.conns k = before.conns k)
    (record : prepared.delivered = before.delivered)
    (data : prepared.dev.datainConn = before.dev.datainConn ∨ prepared.dev.datainConn = none) :
    Addressed i before (prepared.completeRequest i) := by
  refine ⟨?_, Or.inr ?_, ?_⟩
  · intro k other
    rw [← others k other]
    exact (prepared.usrsockEvent_frame i _).2.2.2.2.2.1 k other
  · rw [← record]
    exact (completeRequest_delivered prepared i).recorded
  · rw [completeRequest_dev]
    exact data.imp_right Or.inr

section

variable (sys : System n m) (i : Fin n) (buffer : List UInt8)

theorem handleResponse_addressed : Addressed i sys (sys.handleResponse i buffer).1 := by
  unfold handleResponse
  split
  · exact ⟨setConn_others sys i _, Or.inl rfl, Or.inl rfl⟩
  · exact completeRequest_addressed (setConn_others sys i _) rfl (Or.inl rfl)

theorem handleDatareqResponse_addressed :
    Addressed i sys (sys.handleDatareqResponse i buffer).1 := by
  unfold handleDatareqResponse
  dsimp only
  split
  · split
    · exact ⟨fun _ _ => rfl, Or.inl rfl, Or.inl rfl⟩
    · exact ⟨setConn_others sys i _, Or.inl rfl, Or.inl rfl⟩
  · split
    · split
      · exact ⟨setConn_others sys i _, Or.inl rfl, Or.inl rfl⟩
      · exact completeRequest_addressed (setConn_others sys i _) rfl (Or.inl rfl)
    · split
      · exact ⟨setConn_others sys i _, Or.inl rfl, Or.inl rfl⟩
      · exact ⟨setConn_others sys i _, Or.inl rfl, Or.inr (Or.inl rfl)⟩

theorem dataInput_addressed (consumed : Nat) :
    Addressed i sys (sys.dataInput i buffer consumed).1 := by
  unfold dataInput
  dsimp only
  split
  · exact completeRequest_addressed (setConn_others sys i _) rfl (Or.inr rfl)
  · exact ⟨setConn_others sys i _, Or.inl rfl, Or.inl rfl⟩

end

def isResponse (buffer : List UInt8) : Bool := decide (2 < buffer.length) && !isEvent buffer

theorem usrsockdevWrite_response (response : isResponse buffer = true)
    (noData : sys.dev.datainConn = none) :
    sys.usrsockdevWrite buffer =
      match (sys.handleReqResponse buffer).1.dev.datainConn with
      | none => sys.handleReqResponse buffer
      | some i =>
        (sys.handleReqResponse buffer).1.dataInput i
          (buffer.drop (sys.handleReqResponse buffer).2.toNat)
          (sys.handleReqResponse buffer).2.toNat := by
  simp only [isResponse, Bool.and_eq_true, decide_eq_true_eq, Bool.not_eq_true'] at response
  have nonempty : buffer ≠ [] := by
    rintro rfl
    simp at response
  have long : ¬ buffer.length < commonSize := by
    have := response.1
    unfold commonSize
    omega
  have message : sys.handleMessage buffer = sys.handleReqResponse buffer := by
    unfold handleMessage
    rw [response.2]
    rfl
  unfold usrsockdevWrite
  rw [if_neg nonempty, noData, message]
  exact if_neg long

theorem handleReqResponse_unclaimed (unclaimed : sys.waitingFor (respXid buffer) = none) :
    sys.handleReqResponse buffer = (sys, -EINVAL) := by
  unfold handleReqResponse
  rw [unclaimed]
  split_ifs <;> rfl

theorem handleReqResponse_addressed (claimed : sys.waitingFor (respXid buffer) = some i) :
    Addressed i sys (sys.handleReqResponse buffer).1 := by
  have unchanged : Addressed i sys sys := ⟨fun _ _ => rfl, Or.inl rfl, Or.inl rfl⟩
  obtain ⟨conns, -, -, record, data⟩ := sys.acknowledge_conns (respXid buffer)
  have behindAck {after : System n m}
      (addressed : Addressed i (sys.acknowledge (respXid buffer)) after) :
      Addressed i sys after := by
    refine ⟨?_, ?_, ?_⟩
    · intro k other
      rw [addressed.others k other, conns]
    · rw [← record]
      exact addressed.record
    · rw [← data]
      exact addressed.data
  unfold handleReqResponse
  rw [claimed]
  split
  · split
    · exact unchanged
    · exact behindAck (handleResponse_addressed _ i buffer)
  · split
    · split
      · exact unchanged
      · exact behindAck (handleDatareqResponse_addressed _ i buffer)
    · exact unchanged

/-- The connection `k` is as before, and no completed request was reported to its
callbacks. -/
def Untouched (k : Fin n) (before after : System n m) : Prop :=
  after.conns k = before.conns k ∧ after.delivered.count k = before.delivered.count k

theorem Addressed.untouched {after : System n m} (addressed : Addressed i before after)
    (other : k ≠ i) : Untouched k before after := by
  refine ⟨addressed.others k other, ?_⟩
  rcases addressed.record with same | one
  · rw [same]
  · rw [one, List.count_append, List.count_singleton]
    simp [Ne.symm other]

theorem Untouched.trans {between after : System n m} (first : Untouched k before between)
    (second : Untouched k between after) : Untouched k before after :=
  ⟨second.1.trans first.1, second.2.trans first.2⟩

theorem usrsockdevWrite_addressed (response : isResponse buffer = true)
    (noData : sys.dev.datainConn = none) (claimed : sys.waitingFor (respXid buffer) = some i)
    (other : k ≠ i) : Untouched k sys (sys.usrsockdevWrite buffer).1 := by
  have handled := handleReqResponse_addressed claimed
  rw [usrsockdevWrite_response response noData]
  split
  · exact handled.untouched other
  · next j isData =>
    have same : j = i := by
      rcases handled.data with same | same | same
      · rw [noData] at same
        simp [same] at isData
      · exact Option.some.inj (isData.symm.trans same)
      · simp [same] at isData
    subst same
    exact (handled.untouched other).trans ((dataInput_addressed _ j _ _).untouched other)

/-! ## Data behind a response -/

/-- The bytes of a data response that have been announced and not been written. -/
def remaining (sys : System n m) (i : Fin n) : Nat :=
  (sys.conns i).resp.datain.total - (sys.conns i).resp.datain.pos

def writeAll (sys : System n m) (buffers : List (List UInt8)) : System n m :=
  buffers.foldl (fun sys buffer => (sys.usrsockdevWrite buffer).1) sys

/-- The data phase of the connection `i`, in front of its end. -/
structure InData (sys : System n m) (i : Fin n) : Prop where
  isData : sys.dev.datainConn = some i
  total : totalLen (sys.conns i).resp.datain.iov = (sys.conns i).resp.datain.total
  inside : (sys.conns i).resp.datain.pos < (sys.conns i).resp.datain.total

/-- However the following writes split the data, the request completes with the
write that supplies the last announced byte, and not before. -/
def CompletesWithData (sys : System n m) (i : Fin n) : Prop :=
  ∀ (earlier : List (List UInt8)) (last : List UInt8),
    earlier.flatten.length < sys.remaining i →
    sys.remaining i ≤ earlier.flatten.length + last.length →
    (sys.writeAll earlier).dev.datainConn = some i ∧
      (sys.writeAll earlier).delivered = sys.delivered ∧
      Delivered (sys.writeAll earlier) ((sys.writeAll earlier).usrsockdevWrite last).1 i

theorem dataInput_inside (inData : sys.InData i) (short : buffer.length < sys.remaining i)
    (consumed : Nat) : let after := (sys.dataInput i buffer consumed).1
    after.InData i ∧ after.remaining i = sys.remaining i - buffer.length ∧
      after.delivered = sys.delivered ∧ 0 ≤ (sys.dataInput i buffer consumed).2 := by
  intro after
  have inside := inData.inside
  unfold remaining at short
  obtain ⟨iov, put⟩ := iovecPut_count buffer
    (Or.inl (show (sys.conns i).resp.datain.pos < totalLen (sys.conns i).resp.datain.iov by
      rw [inData.total]
      exact inside))
  have count : min buffer.length (totalLen (sys.conns i).resp.datain.iov -
      (sys.conns i).resp.datain.pos) = buffer.length := by
    rw [inData.total]
    omega
  rw [count] at put
  have stored : storeData (sys.conns i).resp buffer consumed =
      ({ (sys.conns i).resp with
        datain := { (sys.conns i).resp.datain with
          iov := iov, pos := (sys.conns i).resp.datain.pos + buffer.length } },
        ((consumed + buffer.length : Nat) : Int)) := by
    simp only [storeData, put]
  have unfinished : ¬ (sys.conns i).resp.datain.pos + buffer.length =
      (sys.conns i).resp.datain.total := by
    omega
  have same : after = sys.setConn i
      { sys.conns i with
        resp := { (sys.conns i).resp with
          datain := { (sys.conns i).resp.datain with
            iov := iov, pos := (sys.conns i).resp.datain.pos + buffer.length } } } := by
    simp only [after, dataInput, stored, unfinished, ↓reduceIte]
  have returned : 0 ≤ (sys.dataInput i buffer consumed).2 := by
    simp only [dataInput, stored, unfinished, ↓reduceIte]
    positivity
  rw [same]
  refine ⟨⟨inData.isData, ?_, ?_⟩, ?_, rfl, returned⟩
  · simp only [setConn, Function.update_self]
    rw [← inData.total]
    simp only [totalLen, iovecPut_lens put]
  · simp only [setConn, Function.update_self]
    omega
  · simp only [remaining, setConn, Function.update_self]
    omega

theorem dataInput_last
    (total : totalLen (sys.conns i).resp.datain.iov = (sys.conns i).resp.datain.total)
    (inside : (sys.conns i).resp.datain.pos < (sys.conns i).resp.datain.total ∨
      ((sys.conns i).resp.datain.pos = 0 ∧ (sys.conns i).resp.datain.iov ≠ []))
    (enough : sys.remaining i ≤ buffer.length) (consumed : Nat) :
    Delivered sys (sys.dataInput i buffer consumed).1 i ∧
      0 ≤ (sys.dataInput i buffer consumed).2 := by
  unfold remaining at enough
  obtain ⟨iov, put⟩ := iovecPut_count buffer (by rw [total]; exact inside)
  have reached : (sys.conns i).resp.datain.pos + min buffer.length
      (totalLen (sys.conns i).resp.datain.iov - (sys.conns i).resp.datain.pos) =
      (sys.conns i).resp.datain.total := by
    rw [total]
    omega
  unfold dataInput
  simp only [storeData, put, reached, ↓reduceIte]
  refine ⟨?_, by positivity⟩
  apply (completeRequest_delivered _ i).of_same
  · rfl
  · simp [setDev, setConn]
  · rfl

theorem usrsockdevWrite_data (isData : sys.dev.datainConn = some i) (nonempty : buffer ≠ []) :
    sys.usrsockdevWrite buffer = sys.dataInput i buffer 0 := by
  simp only [usrsockdevWrite, nonempty, ↓reduceIte, isData]

theorem InData.completesWithData (inData : sys.InData i) : sys.CompletesWithData i := by
  intro earlier
  induction earlier generalizing sys with
  | nil =>
    intro last _ enough
    have missing : 0 < sys.remaining i := by
      have := inData.inside
      omega
    have nonempty : last ≠ [] := by
      rintro rfl
      simp at enough
      omega
    refine ⟨inData.isData, rfl, ?_⟩
    change Delivered sys (sys.usrsockdevWrite last).1 i
    rw [usrsockdevWrite_data inData.isData nonempty]
    exact (dataInput_last inData.total (Or.inl inData.inside) (by simpa using enough) 0).1
  | cons buffer rest ih =>
    intro last notYet enough
    rw [List.flatten_cons, List.length_append] at notYet enough
    by_cases nonempty : buffer = []
    · subst nonempty
      have skipped : sys.writeAll ([] :: rest) = sys.writeAll rest := by
        simp [writeAll, usrsockdevWrite]
      rw [skipped]
      exact ih inData last (by simpa using notYet) (by simpa using enough)
    · have short : buffer.length < sys.remaining i := by omega
      obtain ⟨still, less, record, -⟩ := dataInput_inside inData short 0
      have written : sys.writeAll (buffer :: rest) =
          (sys.dataInput i buffer 0).1.writeAll rest := by
        simp [writeAll, usrsockdevWrite_data inData.isData nonempty]
      rw [written, ← record]
      exact ih still last (by omega) (by omega)

/-! ## Final responses -/

/-- A write that gives up the exchange id of the connection `i` is not refused,
and the request completes with it or with the data that follows. -/
def KeepsFinalResponse (sys : System n m) (i : Fin n) (buffer : List UInt8) : Prop :=
  let after := sys.usrsockdevWrite buffer
  (sys.conns i).resp.xid ≠ 0 → (after.1.conns i).resp.xid = 0 →
    after.2 ≠ -EINVAL ∧
      (Delivered sys after.1 i ∨
        (after.1.dev.datainConn = some i ∧ after.1.delivered = sys.delivered ∧
          after.1.CompletesWithData i))

/-- Whether there is a buffer for the value, and one for the data if there is
any, and whether they are large enough. -/
def buffersFit (iov : List Iovec) (valuelen : Nat) (result : Int) : Bool :=
  match iov with
  | [] => false
  | value :: rest =>
    decide (valuelen ≤ value.len) &&
      (decide (result ≤ 0) ||
        match rest with
        | [] => false
        | data :: _ => decide (result.toNat ≤ data.len))

/-- Whether a data response is refused although it is for the connection: an
error comes with a value, the buffers do not take the announced data, or they
have been filled beyond it by an earlier response. -/
def refusesData (resp : Resp) (buffer : List UInt8) : Bool :=
  if respResult buffer < 0 then
    decide (0 < respValuelen buffer ∨ 0 < respValuelenNontrunc buffer)
  else
    !buffersFit resp.datain.iov (respValuelen buffer) (respResult buffer) ||
      decide (0 < resp.datain.pos ∧ announced buffer ≤ resp.datain.pos)

attribute [local instance] lawfulBEq_fin neZero_one

/-- Whether a write is a final data response for the outstanding request of the
connection `i` that is refused. -/
def losesResponse (sys : System n m) (i : Fin n) (buffer : List UInt8) : Bool :=
  let resp := (sys.conns i).resp
  isResponse buffer && sys.dev.datainConn.isNone && decide (i ∈ sys.active) &&
    decide (resp.xid ≠ 0 ∧ respXid buffer = resp.xid) && (msgid buffer == responseDataAck) &&
    decide (datareqAckSize ≤ buffer.length) && !reqInProgress buffer && refusesData resp buffer

theorem cutBuffers_isSome (iov : List Iovec) (valuelen : Nat) (result : Int) :
    (cutBuffers iov valuelen result).isSome = buffersFit iov valuelen result := by
  unfold cutBuffers buffersFit
  cases iov with
  | nil => rfl
  | cons value rest =>
    by_cases fits : valuelen ≤ value.len
    · by_cases positive : 0 < result
      · have notNegative : ¬ result ≤ 0 := by omega
        cases rest with
        | nil => simp [fits, positive, notNegative]
        | cons data others =>
          by_cases dataFits : result.toNat ≤ data.len <;>
            simp [fits, positive, notNegative, dataFits]
      · have notPositive : result ≤ 0 := by omega
        simp [fits, positive, notPositive]
    · simp [fits]

theorem cutBuffers_shape {iov after : List Iovec} {valuelen : Nat} {result : Int}
    (cut : cutBuffers iov valuelen result = some after) :
    ∃ first last, after = first ++ [last] ∧ (first = [] ∨ 0 < last.len) := by
  unfold cutBuffers at cut
  split at cut
  · simp at cut
  · split at cut
    · split at cut
      · next positive =>
        split at cut
        · simp at cut
        · split at cut
          · refine ⟨[_], _, (Option.some.inj cut).symm, Or.inr ?_⟩
            simp only [Iovec.shorten]
            omega
          · simp at cut
      · exact ⟨[], _, (Option.some.inj cut).symm, Or.inl rfl⟩
    · simp at cut

/-- The outcome of a write for the connection `i`: refused with the exchange id
given up, or completed now or by the data that follows. -/
structure Settles (sys : System n m) (i : Fin n) (after : System n m × Int) (refused : Bool) :
    Prop where
  lost : refused = true → (after.1.conns i).resp.xid = 0 ∧ after.2 = -EINVAL
  kept : refused = false → after.2 ≠ -EINVAL ∧
    (Delivered sys after.1 i ∨
      (after.1.dev.datainConn = some i ∧ after.1.delivered = sys.delivered ∧
        after.1.CompletesWithData i))

theorem ne_EINVAL {value : Int} (nonnegative : 0 ≤ value) : value ≠ -EINVAL := by
  unfold EINVAL
  omega

theorem dataInput_settles {prepared : System n m} {iov : List Iovec} {total pos : Nat}
    (datain : (prepared.conns i).resp.datain = ⟨iov, total, pos⟩)
    (isData : prepared.dev.datainConn = some i) (xid : (prepared.conns i).resp.xid = 0)
    (lens : totalLen iov = total)
    (shape : ∃ first last, iov = first ++ [last] ∧ (first = [] ∨ 0 < last.len))
    (record : prepared.delivered = sys.delivered)
    (list : (prepared.conns i).list = (sys.conns i).list) (threads : prepared.threads = sys.threads)
    (buffer : List UInt8) (consumed : Nat) :
    Settles sys i (prepared.dataInput i buffer consumed) (decide (0 < pos ∧ total ≤ pos)) := by
  obtain ⟨first, last, split, filled⟩ := shape
  by_cases beyond : 0 < pos ∧ total ≤ pos
  · have put : iovecPut iov pos buffer = none := by
      rw [split]
      refine iovecPut_beyond first last buffer beyond.1 ?_ filled
      rw [← split, lens]
      exact beyond.2
    have stored : storeData (prepared.conns i).resp buffer consumed =
        ({ (prepared.conns i).resp with result := -EINVAL, datain := ⟨iov, total, total⟩ },
          -EINVAL) := by
      simp only [storeData, datain, put]
    refine ⟨fun _ => ?_, fun fits => by simp [beyond] at fits⟩
    unfold dataInput
    simp only [stored, ↓reduceIte, and_true]
    rw [completeRequest, usrsockEvent_resp]
    simp [setDev, setConn, xid]
  · have inside : pos < total ∨ (pos = 0 ∧ iov ≠ []) := by
      by_cases zero : pos = 0
      · exact Or.inr ⟨zero, by simp [split]⟩
      · exact Or.inl (by omega)
    have totals : totalLen (prepared.conns i).resp.datain.iov =
        (prepared.conns i).resp.datain.total := by
      rw [datain]
      exact lens
    refine ⟨fun refused => absurd (of_decide_eq_true refused) beyond, fun _ => ?_⟩
    by_cases enough : prepared.remaining i ≤ buffer.length
    · obtain ⟨delivered, nonnegative⟩ := dataInput_last totals (by rw [datain]; exact inside)
        enough consumed
      exact ⟨ne_EINVAL nonnegative, Or.inl (delivered.of_same record list threads)⟩
    · have short : buffer.length < prepared.remaining i := by omega
      have inData : prepared.InData i := by
        refine ⟨isData, totals, ?_⟩
        unfold remaining at short
        omega
      obtain ⟨still, -, same, nonnegative⟩ := dataInput_inside inData short consumed
      exact ⟨ne_EINVAL nonnegative,
        Or.inr ⟨still.isData, same.trans record, still.completesWithData⟩⟩

section

variable (response : isResponse buffer = true) (noData : sys.dev.datainConn = none)
  (claimed : sys.waitingFor (respXid buffer) = some i)
include response noData claimed

theorem dataAck_settles (ack : msgid buffer = responseDataAck)
    (long : datareqAckSize ≤ buffer.length) (final : reqInProgress buffer = false) :
    Settles sys i (sys.usrsockdevWrite buffer) (refusesData (sys.conns i).resp buffer) := by
  have acked := sys.acknowledge_conns (respXid buffer)
  rw [usrsockdevWrite_response response noData]
  have handled : sys.handleReqResponse buffer =
      (sys.acknowledge (respXid buffer)).handleDatareqResponse i buffer := by
    have notPlain : ¬ msgid buffer = responseAck := by
      rw [ack]
      decide
    rw [handleReqResponse, if_neg notPlain, if_pos ack, if_neg (Nat.not_lt.mpr long), claimed]
  rw [handled]
  generalize sys.acknowledge (respXid buffer) = prepared at acked ⊢
  have conns := acked.1
  have threads := acked.2.1
  have record := acked.2.2.2.1
  have data := acked.2.2.2.2.trans noData
  have sameConn : prepared.conns i = sys.conns i := by rw [conns]
  unfold handleDatareqResponse refusesData
  simp only [final, Bool.false_eq_true, ↓reduceIte, sameConn]
  by_cases isError : respResult buffer < 0
  · simp only [isError, ↓reduceIte]
    by_cases withValue : 0 < respValuelen buffer ∨ 0 < respValuelenNontrunc buffer
    · simp only [withValue, ↓reduceIte, decide_true, setConn, data]
      exact ⟨fun _ => by simp, fun fits => by simp at fits⟩
    · simp only [withValue, ↓reduceIte, decide_false, completeRequest_dev]
      simp only [setConn, data]
      refine ⟨fun refused => by simp at refused,
        fun _ => ⟨ne_EINVAL (Int.natCast_nonneg _), Or.inl ?_⟩⟩
      apply (completeRequest_delivered _ i).of_same
      · exact record
      · simp
      · exact threads
  · simp only [isError, ↓reduceIte]
    have isSome := cutBuffers_isSome (sys.conns i).resp.datain.iov (respValuelen buffer)
      (respResult buffer)
    cases cut : cutBuffers (sys.conns i).resp.datain.iov (respValuelen buffer)
        (respResult buffer) with
    | none =>
      rw [cut, Option.isSome_none] at isSome
      simp only [← isSome, Bool.not_false, Bool.true_or, setConn, data]
      exact ⟨fun _ => by simp, fun fits => by simp at fits⟩
    | some iov =>
      rw [cut, Option.isSome_some] at isSome
      simp only [← isSome, Bool.not_true, Bool.false_or, setDev]
      apply dataInput_settles ?_ ?_ ?_ (cutBuffers_total cut) (cutBuffers_shape cut)
      · exact record
      · simp [setConn]
      · exact threads
      · simp only [setConn, Function.update_self]
        rfl
      · rfl
      · simp [setConn]

theorem ack_settles (ack : msgid buffer = responseAck) (long : reqAckSize ≤ buffer.length)
    (final : reqInProgress buffer = false) : Settles sys i (sys.usrsockdevWrite buffer) false := by
  have acked := sys.acknowledge_conns (respXid buffer)
  rw [usrsockdevWrite_response response noData]
  have handled : sys.handleReqResponse buffer =
      (sys.acknowledge (respXid buffer)).handleResponse i buffer := by
    rw [handleReqResponse, if_pos ack, if_neg (Nat.not_lt.mpr long), claimed]
  rw [handled]
  generalize sys.acknowledge (respXid buffer) = prepared at acked ⊢
  have conns := acked.1
  have threads := acked.2.1
  have record := acked.2.2.2.1
  have data := acked.2.2.2.2.trans noData
  unfold handleResponse
  simp only [final, Bool.false_eq_true, ↓reduceIte, completeRequest_dev]
  simp only [setConn, data]
  refine ⟨fun refused => by simp at refused,
    fun _ => ⟨ne_EINVAL (Int.natCast_nonneg _), Or.inl ?_⟩⟩
  apply (completeRequest_delivered _ i).of_same
  · exact record
  · simp [conns]
  · exact threads

end

theorem dataInput_xid (sys : System n m) (j : Fin n) (buffer : List UInt8) (consumed : Nat)
    (i : Fin n) :
    ((sys.dataInput j buffer consumed).1.conns i).resp.xid = (sys.conns i).resp.xid := by
  have stored : (storeData (sys.conns j).resp buffer consumed).1.xid = (sys.conns j).resp.xid := by
    unfold storeData
    split <;> rfl
  unfold dataInput
  dsimp only
  split
  · rw [completeRequest, usrsockEvent_resp]
    by_cases same : i = j
    · subst same
      simpa [setDev, setConn] using stored
    · simp [setDev, setConn, same]
  · by_cases same : i = j
    · subst same
      simpa [setConn] using stored
    · simp [setConn, same]

theorem handleReqResponse_xid
    (changed : ((sys.handleReqResponse buffer).1.conns i).resp.xid ≠ (sys.conns i).resp.xid) :
    sys.waitingFor (respXid buffer) = some i ∧ reqInProgress buffer = false ∧
      ((msgid buffer = responseAck ∧ reqAckSize ≤ buffer.length) ∨
        (msgid buffer = responseDataAck ∧ datareqAckSize ≤ buffer.length)) := by
  cases claimed : sys.waitingFor (respXid buffer) with
  | none =>
    rw [handleReqResponse_unclaimed claimed] at changed
    exact absurd rfl changed
  | some j =>
    have same : j = i := by
      by_contra other
      rw [(handleReqResponse_addressed claimed).others i (Ne.symm other)] at changed
      exact changed rfl
    subst same
    have conns := (sys.acknowledge_conns (respXid buffer)).1
    rw [handleReqResponse, claimed] at changed
    have final : reqInProgress buffer = false := by
      by_contra inProgress
      rw [Bool.not_eq_false] at inProgress
      simp only [handleResponse, handleDatareqResponse, inProgress, ↓reduceIte] at changed
      split_ifs at changed <;> simp [setConn, conns] at changed
    refine ⟨rfl, final, ?_⟩
    split at changed
    · next ack =>
      split at changed
      · exact absurd rfl changed
      · next long => exact Or.inl ⟨ack, Nat.not_lt.mp long⟩
    · split at changed
      · next ack =>
        split at changed
        · exact absurd rfl changed
        · next long => exact Or.inr ⟨ack, Nat.not_lt.mp long⟩
      · exact absurd rfl changed

theorem usrsockdevWrite_xid
    (changed : ((sys.usrsockdevWrite buffer).1.conns i).resp.xid ≠ (sys.conns i).resp.xid) :
    isResponse buffer = true ∧ sys.dev.datainConn = none ∧
      sys.waitingFor (respXid buffer) = some i ∧ reqInProgress buffer = false ∧
      ((msgid buffer = responseAck ∧ reqAckSize ≤ buffer.length) ∨
        (msgid buffer = responseDataAck ∧ datareqAckSize ≤ buffer.length)) := by
  unfold usrsockdevWrite at changed
  split at changed
  · exact absurd rfl changed
  · split at changed
    · rw [dataInput_xid] at changed
      exact absurd rfl changed
    · next noData =>
      split at changed
      · exact absurd rfl changed
      · have handled : ((sys.handleMessage buffer).1.conns i).resp.xid ≠
            (sys.conns i).resp.xid := by
          dsimp only at changed
          split at changed
          · exact changed
          · rw [dataInput_xid] at changed
            exact changed
        by_cases event : isEvent buffer = true
        · have kept : ((sys.handleEvent buffer).1.conns i).resp = (sys.conns i).resp := by
            unfold handleEvent
            split
            · split
              · rfl
              · dsimp only
                split
                · rfl
                · exact usrsockEvent_resp sys _ _ i
            · rfl
          rw [handleMessage, if_pos event, kept] at handled
          exact absurd rfl handled
        · rw [handleMessage, if_neg event] at handled
          obtain ⟨claimed, final, shape⟩ := handleReqResponse_xid handled
          refine ⟨?_, noData, claimed, final, shape⟩
          have long : 2 < buffer.length := by
            unfold reqAckSize datareqAckSize at shape
            omega
          simp [isResponse, long, event]

/-- For every reachable state, every connection and every write: the write keeps
the final response of the connection if and only if it is not a final data
response for its outstanding request that is refused. -/
theorem final_response_kept_iff (callbacks : Nat) (actions : List (Action n m)) (i : Fin n)
    (buffer : List UInt8) :
    let sys := (initial n m callbacks).run actions
    sys.KeepsFinalResponse i buffer ↔ sys.losesResponse i buffer = false := by
  intro sys
  have consistent : sys.Consistent :=
    foldl_invariant_of_keeps Consistent step_consistent actions (initial_consistent n m callbacks)
  constructor
  · intro keeps
    by_contra loses
    simp only [losesResponse, Bool.not_eq_false, Bool.and_eq_true, decide_eq_true_eq,
      Option.isNone_iff_eq_none, beq_iff_eq, Bool.not_eq_true'] at loses
    obtain ⟨⟨⟨⟨⟨⟨⟨response, noData⟩, isActive⟩, outstanding, addressed⟩, ack⟩, long⟩, final⟩,
      refused⟩ := loses
    have claimed : sys.waitingFor (respXid buffer) = some i := by
      rw [addressed]
      exact waitingFor_eq_some consistent isActive outstanding
    have lost := (dataAck_settles response noData claimed ack long final).lost refused
    exact (keeps outstanding lost.1).1 lost.2
  · intro keeps outstanding cleared
    have changed : ((sys.usrsockdevWrite buffer).1.conns i).resp.xid ≠ (sys.conns i).resp.xid := by
      rw [cleared]
      exact Ne.symm outstanding
    obtain ⟨response, noData, claimed, final, ⟨ack, long⟩ | ⟨ack, long⟩⟩ :=
      usrsockdevWrite_xid changed
    · exact (ack_settles response noData claimed ack long final).kept rfl
    · obtain ⟨isActive, addressed⟩ := waitingFor_xid claimed
      have nonzero : respXid buffer ≠ 0 := by
        rw [← addressed]
        exact outstanding
      have fits : refusesData (sys.conns i).resp buffer = false := by
        simpa [losesResponse, response, noData, isActive, addressed, nonzero, ack, long,
          final] using keeps
      exact (dataAck_settles response noData claimed ack long final).kept fits

/-- A thread has opened the first socket and waits for the daemon. -/
def socketRequested : List (Action 1 1) :=
  [.openDev, .startSocket 0 2 1 0, .proceed 0, .proceed 0]

/-- A final data response without data is refused, as the request for a socket
has no buffers, and its exchange id is given up all the same. -/
theorem final_response_lost :
    let sys := (initial 1 1 1).run socketRequested
    ¬ sys.KeepsFinalResponse 0 [1, 0, 1, 0, 0, 0, 0, 0, 0, 0, 0] := by
  intro sys keeps
  have outstanding : (sys.conns 0).resp.xid ≠ 0 := by decide
  have cleared : ((sys.usrsockdevWrite [1, 0, 1, 0, 0, 0, 0, 0, 0, 0, 0]).1.conns 0).resp.xid =
    0 := by
    decide
  have refused : (sys.usrsockdevWrite [1, 0, 1, 0, 0, 0, 0, 0, 0, 0, 0]).2 = -EINVAL := by decide
  exact (keeps outstanding cleared).1 refused

/-! ## Connections without a request -/

/-- Responses with the exchange id `xid` leave connections without a request
alone, and are refused without any effect if no request with this id is
outstanding. While a connection receives data, a write is data for it and no
message. -/
def KeepsIdle (sys : System n m) (xid : Nat) : Prop :=
  ∀ buffer, isResponse buffer = true → respXid buffer = xid →
    (∀ i, (sys.conns i).resp.xid = 0 → sys.dev.datainConn ≠ some i →
      Untouched i sys (sys.usrsockdevWrite buffer).1) ∧
    (sys.dev.datainConn = none →
      (∀ i ∈ sys.active, (sys.conns i).resp.xid ≠ 0 → (sys.conns i).resp.xid ≠ xid) →
      sys.usrsockdevWrite buffer = (sys, -EINVAL))

/-- A final acknowledgment for the exchange id `xid`. -/
def finalAck (xid : Nat) : List UInt8 := [0, 0, UInt8.ofNat xid, 0, 0, 0, 0]

theorem usrsockdevWrite_unclaimed (response : isResponse buffer = true)
    (noData : sys.dev.datainConn = none) (unclaimed : sys.waitingFor (respXid buffer) = none) :
    sys.usrsockdevWrite buffer = (sys, -EINVAL) := by
  rw [usrsockdevWrite_response response noData, handleReqResponse_unclaimed unclaimed]
  simp only [noData]

theorem finalAck_zero_accepted (noData : sys.dev.datainConn = none)
    (idle : sys.waitingFor 0 = some i) : (sys.usrsockdevWrite (finalAck 0)).2 = reqAckSize := by
  have handled : sys.handleReqResponse (finalAck 0) =
      (sys.acknowledge 0).handleResponse i (finalAck 0) := by
    have isXid : respXid (finalAck 0) = 0 := by decide
    have isAck : msgid (finalAck 0) = responseAck := by decide
    have long : ¬ (finalAck 0).length < reqAckSize := by decide
    rw [handleReqResponse, if_pos isAck, if_neg long, isXid, idle]
  have returned : ((sys.acknowledge 0).handleResponse i (finalAck 0)).2 = reqAckSize := by
    unfold handleResponse
    split <;> rfl
  have stays : ((sys.acknowledge 0).handleResponse i (finalAck 0)).1.dev.datainConn = none := by
    have noData' : (sys.acknowledge 0).dev.datainConn = none := by
      rw [(sys.acknowledge_conns 0).2.2.2.2, noData]
    rw [(handleResponse_dev _ i _).1, noData']
  rw [usrsockdevWrite_response (by decide) noData, handled]
  simp only [stays, returned]

/-- For every state and every exchange id: responses with this id leave
connections without a request alone if and only if the id is not 0, or no
connection is without a request, or what is written now is data. -/
theorem idle_connections_kept_iff (sys : System n m) (xid : Nat) :
    sys.KeepsIdle xid ↔
      (sys.dev.datainConn = none → xid = 0 → ∀ i ∈ sys.active, (sys.conns i).resp.xid ≠ 0) := by
  constructor
  · rintro keeps noData rfl i isActive idle
    have isXid : respXid (finalAck 0) = 0 := by decide
    have refused := (keeps (finalAck 0) (by decide) isXid).2 noData
      (fun _ _ outstanding => outstanding)
    cases claimed : sys.waitingFor 0 with
    | none =>
      have missing := List.find?_eq_none.mp claimed i isActive
      simp [idle] at missing
    | some j =>
      have accepted := finalAck_zero_accepted noData claimed
      rw [refused] at accepted
      have differ : -EINVAL ≠ (reqAckSize : Int) := by decide
      exact absurd accepted differ
  · intro nonzero buffer response isXid
    cases phase : sys.dev.datainConn with
    | some j =>
      refine ⟨?_, fun none => absurd none (by simp)⟩
      intro i _ notData
      have other : i ≠ j := by
        rintro rfl
        exact notData rfl
      have nonempty : buffer ≠ [] := by
        rintro rfl
        simp [isResponse] at response
      rw [usrsockdevWrite_data phase nonempty]
      exact (dataInput_addressed sys j buffer 0).untouched other
    | none =>
      cases claimed : sys.waitingFor (respXid buffer) with
      | none =>
        rw [usrsockdevWrite_unclaimed response phase claimed]
        exact ⟨fun _ _ _ => ⟨rfl, rfl⟩, fun _ _ => rfl⟩
      | some j =>
        obtain ⟨isActive, addressed⟩ := waitingFor_xid claimed
        have outstanding : (sys.conns j).resp.xid ≠ 0 := by
          intro zero
          rw [isXid, zero] at addressed
          exact nonzero phase addressed.symm j isActive zero
        refine ⟨?_, ?_⟩
        · intro i idle _
          apply usrsockdevWrite_addressed response phase claimed
          rintro rfl
          exact outstanding idle
        · intro _ noOther
          exact absurd (addressed.trans isXid) (noOther j isActive outstanding)

/-- The first socket is open and has no request. -/
def socketOpened : List (Action 1 1) :=
  socketRequested ++ [.write (finalAck 1), .proceed 0, .proceed 0]

/-- An acknowledgment with exchange id 0 completes a request that the connection
does not have. -/
theorem idle_connection_completed :
    let sys := (initial 1 1 1).run socketOpened
    ¬ sys.KeepsIdle 0 := by
  intro sys keeps
  have isXid : respXid (finalAck 0) = 0 := by decide
  have idle : (sys.conns 0).resp.xid = 0 := by decide
  have untouched := ((keeps (finalAck 0) (by decide) isXid).1 0 idle (by decide)).2
  exact absurd untouched (by decide)

/-- The connection that a write is about: the one that receives data, or the one that the
event or the response names. -/
def addressee (sys : System n m) (buffer : List UInt8) : Option (Fin n) :=
  match sys.dev.datainConn with
  | some i => some i
  | none =>
    if isEvent buffer then
      sys.active.find? (fun i =>
        decide ((sys.conns i).usockid = toSigned 16 (field buffer 2 2)))
    else sys.waitingFor (respXid buffer)

theorem handleEvent_others
    (other : sys.active.find? (fun i =>
      decide ((sys.conns i).usockid = toSigned 16 (field buffer 2 2))) ≠ some k) :
    Untouched k sys (sys.handleEvent buffer).1 ∧ (sys.handleEvent buffer).1.dev = sys.dev := by
  unfold handleEvent
  split
  · split
    · exact ⟨⟨rfl, rfl⟩, rfl⟩
    · dsimp only
      split
      · exact ⟨⟨rfl, rfl⟩, rfl⟩
      · next i named =>
        have frame := sys.usrsockEvent_frame i (messageEvents buffer)
        have notNamed : k ≠ i := by
          rintro rfl
          exact other named
        refine ⟨⟨frame.2.2.2.2.2.1 k notNamed, ?_⟩, frame.1⟩
        unfold usrsockEvent
        split <;> rfl
  · exact ⟨⟨rfl, rfl⟩, rfl⟩

theorem usrsockdevWrite_others (other : sys.addressee buffer ≠ some k) :
    Untouched k sys (sys.usrsockdevWrite buffer).1 := by
  unfold addressee at other
  cases phase : sys.dev.datainConn with
  | some j =>
    rw [phase] at other
    by_cases nonempty : buffer = []
    · simp [usrsockdevWrite, nonempty, Untouched]
    · rw [usrsockdevWrite_data phase nonempty]
      exact (dataInput_addressed sys j buffer 0).untouched (fun same => other (by rw [same]))
  | none =>
    rw [phase] at other
    dsimp only at other
    split at other
    · next event =>
      obtain ⟨untouched, dev⟩ := handleEvent_others other
      simp only [usrsockdevWrite, phase, handleMessage, event, ↓reduceIte, dev]
      split_ifs
      · exact ⟨rfl, rfl⟩
      · exact ⟨rfl, rfl⟩
      · exact untouched
    · next event =>
      by_cases long : 2 < buffer.length
      · have response : isResponse buffer = true := by simp [isResponse, long, event]
        cases claimed : sys.waitingFor (respXid buffer) with
        | none =>
          rw [usrsockdevWrite_unclaimed response phase claimed]
          exact ⟨rfl, rfl⟩
        | some i =>
          rw [claimed] at other
          exact usrsockdevWrite_addressed response phase claimed
            (fun same => other (by rw [same]))
      · have refused : sys.handleReqResponse buffer = (sys, -EINVAL) := by
          unfold handleReqResponse reqAckSize datareqAckSize
          split_ifs <;> first | rfl | omega
        simp only [usrsockdevWrite, phase, handleMessage, event, refused, ↓reduceIte,
          Bool.false_eq_true]
        split_ifs <;> exact ⟨rfl, rfl⟩

/-- For every reachable state and every write: only its addressee is touched, and the response
to the outstanding request of a connection is addressed to this connection. -/
theorem writes_touch_their_addressee (callbacks : Nat) (actions : List (Action n m))
    (buffer : List UInt8) :
    let sys := (initial n m callbacks).run actions
    (∀ k, sys.addressee buffer ≠ some k → Untouched k sys (sys.usrsockdevWrite buffer).1) ∧
      (sys.dev.datainConn = none → isEvent buffer = false → ∀ i ∈ sys.active,
        (sys.conns i).resp.xid ≠ 0 → respXid buffer = (sys.conns i).resp.xid →
        sys.addressee buffer = some i) := by
  intro sys
  have consistent : sys.Consistent :=
    foldl_invariant_of_keeps Consistent step_consistent actions (initial_consistent n m callbacks)
  refine ⟨fun _ other => usrsockdevWrite_others other, ?_⟩
  intro noData response i isActive outstanding named
  unfold addressee
  rw [noData, response, named]
  exact waitingFor_eq_some consistent isActive outstanding

end System

end Thingsee.Usrsock
