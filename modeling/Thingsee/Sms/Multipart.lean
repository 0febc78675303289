import Thingsee.Sms.Pdu

/-!
Owns the reading of SMS-SUBMIT texts, as 3GPP TS 23.040 lays them out, and the
reassembly of a message from the texts of its parts.

`readSubmit` is what the receiver of a text does. It is not in the source.
`multipart_reassembles` says that reading the parts gives the message back.
-/

namespace Thingsee.Sms

open Support List

/-- The fields of an SMS-SUBMIT without a validity period. `address` are the
type-of-address octet and the semi-octets behind it. -/
structure Submit where
  firstOctet : UInt8
  messageReference : UInt8
  addressLength : UInt8
  address : List UInt8
  protocolIdentifier : UInt8
  dataCodingScheme : UInt8
  userDataLength : UInt8
  userData : List UInt8
deriving DecidableEq

/-- Reads a text. `addressOctets` tells the number of address octets from the
address length. -/
def readSubmit (addressOctets : UInt8 → Nat) (text : List UInt8) : Option Submit :=
  match octetsOfHex text with
  | some (smscLength :: rest) =>
    match rest.drop smscLength.toNat with
    | firstOctet :: reference :: addressLength :: rest =>
      match rest.drop (addressOctets addressLength) with
      | pid :: dcs :: userDataLength :: userData =>
        some
          { firstOctet := firstOctet
            messageReference := reference
            addressLength := addressLength
            address := rest.take (addressOctets addressLength)
            protocolIdentifier := pid
            dataCodingScheme := dcs
            userDataLength := userDataLength
            userData := userData }
      | _ => none
    | _ => none
  | _ => none

structure Concatenation where
  reference : UInt8
  total : UInt8
  number : UInt8

/-- The concatenation header and the payload in the user data. -/
def Submit.part (submit : Submit) : Option (Option Concatenation × List UInt8) :=
  if submit.firstOctet &&& 0x40 = 0 then some (none, submit.userData)
  else
    match submit.userData with
    | 5 :: 0 :: 3 :: reference :: total :: number :: payload =>
      some (some ⟨reference, total, number⟩, payload)
    | _ => none

/-- The payload of a text for a recipient with `octets` address octets. -/
def payloadOf (octets : Nat) (text : List UInt8) : List UInt8 :=
  match (readSubmit (fun _ => octets) text).bind Submit.part with
  | some (_, payload) => payload
  | none => []

variable (msgPdulen : Nat) {iter : MultipduIter}

theorem readSubmit_octets {addressOctets : UInt8 → Nat} {recvPdu payload : List UInt8}
    (octets : addressOctets ((UInt8.ofNat recvPdu.length - 1) * 2) = recvPdu.length) :
    readSubmit addressOctets (hexText (iter.octets recvPdu payload)) =
      some
        { firstOctet := if iter.multipart then 0x41 else 0x01
          messageReference := 0
          addressLength := (UInt8.ofNat recvPdu.length - 1) * 2
          address := recvPdu
          protocolIdentifier := 0
          dataCodingScheme := 8
          userDataLength := (iter.userDataHeader payload).headD 0
          userData := (iter.userDataHeader payload).tail ++ payload } := by
  have header : ∃ length rest, iter.userDataHeader payload = length :: rest := by
    unfold MultipduIter.userDataHeader
    split
    · exact ⟨_, _, rfl⟩
    · exact ⟨_, _, rfl⟩
  obtain ⟨length, rest, isHeader⟩ := header
  unfold readSubmit
  rw [octetsOfHex_hexText, MultipduIter.octets, isHeader]
  generalize (UInt8.ofNat recvPdu.length - 1) * 2 = addressLength at octets ⊢
  simp [octets]

/-- The texts of repeated calls, with the returned lengths, and whether a call
has returned 0. -/
structure Collected where
  strings : List (Nat × List UInt8)
  finished : Bool

/-- Calls `__ubmodem_prepare_pdu_string` until it returns 0. `outcomes` tells for
each call if there is memory; a call without is repeated. -/
def MultipduIter.collect (recvPdu msgPdu : List UInt8) : MultipduIter → List Bool → Collected
  | _, [] => ⟨[], false⟩
  | iter, allocated :: rest =>
    match iter.preparePduString recvPdu msgPdu allocated with
    | (.done, _) => ⟨[], true⟩
    | (.outOfMemory, iter) => iter.collect recvPdu msgPdu rest
    | (.pdu pdulen text, iter) =>
      let later := iter.collect recvPdu msgPdu rest
      ⟨(pdulen, text) :: later.strings, later.finished⟩

def partSize (msgPdulen : Nat) : Nat := if 1 < partCountFor msgPdulen then 134 else msgPdulen

/-- The iterator in front of the part with index `k`. -/
def iterAt (msgPdulen : Nat) (refNum : UInt8) (k : Nat) : MultipduIter where
  msgPos := min (partSize msgPdulen * k) msgPdulen
  partPos := UInt8.ofNat k
  partCount := UInt8.ofNat (partCountFor msgPdulen)
  refNum := refNum

/-- The payload of the part with index `k`. -/
def payloadAt (msgPdu : List UInt8) (k : Nat) : List UInt8 :=
  (msgPdu.drop (partSize msgPdu.length * k)).take (partSize msgPdu.length)

/-- The text of the part with index `k`. -/
def textAt (recvPdu msgPdu : List UInt8) (refNum : UInt8) (k : Nat) : List UInt8 :=
  hexText ((iterAt msgPdu.length refNum k).octets recvPdu (payloadAt msgPdu k))

theorem partCountFor_pos : 0 < partCountFor msgPdulen := by
  unfold partCountFor
  split_ifs <;> omega

theorem lt_partCountFor_iff {msgPdulen : Nat} (nonempty : 0 < msgPdulen) (k : Nat) :
    k < partCountFor msgPdulen ↔ partSize msgPdulen * k < msgPdulen := by
  unfold partSize
  by_cases single : msgPdulen ≤ 140
  · have one : partCountFor msgPdulen = 1 := if_pos single
    rw [one, if_neg (by omega)]
    constructor
    · intro first
      have zero : k = 0 := by omega
      rw [zero]
      omega
    · intro inside
      by_contra later
      have : msgPdulen * 1 ≤ msgPdulen * k := Nat.mul_le_mul_left _ (by omega)
      omega
  · have several : partCountFor msgPdulen =
        msgPdulen / 134 + if msgPdulen % 134 ≠ 0 then 1 else 0 := if_neg single
    have more : 1 < partCountFor msgPdulen := by
      rw [several]
      split_ifs <;> omega
    rw [if_pos more, several]
    split_ifs <;> omega

theorem partCountFor_le_iff : partCountFor msgPdulen ≤ 255 ↔ msgPdulen ≤ 255 * 134 := by
  unfold partCountFor
  split_ifs <;> omega

theorem pduMultipartIteratorInit_eq_some {msgPdulen : Nat} {refNum : UInt8}
    (started : pduMultipartIteratorInit msgPdulen refNum = some iter) :
    partCountFor msgPdulen ≤ 255 ∧ iter = iterAt msgPdulen refNum 0 := by
  unfold pduMultipartIteratorInit at started
  split at started
  · simp at started
  · next few =>
    refine ⟨by omega, ?_⟩
    rw [← Option.some.inj started]
    simp [iterAt]

section Parts

variable {recvPdu msgPdu : List UInt8} {refNum : UInt8}

theorem iterAt_multipart (few : partCountFor msgPdu.length ≤ 255) (k : Nat) :
    (iterAt msgPdu.length refNum k).multipart = decide (1 < partCountFor msgPdu.length) := by
  have count : (UInt8.ofNat (partCountFor msgPdu.length)).toNat = partCountFor msgPdu.length := by
    rw [UInt8.toNat_ofNat']
    omega
  simp only [MultipduIter.multipart, iterAt, UInt8.lt_iff_toNat_lt, count]
  rfl

theorem nextPayload_iterAt (few : partCountFor msgPdu.length ≤ 255) (k : Nat) :
    (iterAt msgPdu.length refNum k).nextPayload msgPdu = payloadAt msgPdu k := by
  unfold MultipduIter.nextPayload payloadAt
  rw [iterAt_multipart few]
  have fromPosition : msgPdu.drop (iterAt msgPdu.length refNum k).msgPos =
      msgPdu.drop (partSize msgPdu.length * k) := by
    simp only [iterAt]
    rcases Nat.le_total (partSize msgPdu.length * k) msgPdu.length with inside | behind
    · rw [Nat.min_eq_left inside]
    · rw [Nat.min_eq_right behind, drop_length, drop_eq_nil_of_le behind]
  rw [fromPosition]
  by_cases several : 1 < partCountFor msgPdu.length
  · simp [several, partSize]
  · simp only [several, decide_false, Bool.false_eq_true, ↓reduceIte, partSize]
    rw [take_of_length_le]
    simp

theorem payloadAt_eq_nil_iff (nonempty : msgPdu ≠ []) (k : Nat) :
    payloadAt msgPdu k = [] ↔ partCountFor msgPdu.length ≤ k := by
  have positive : 0 < msgPdu.length := length_pos_iff.mpr nonempty
  have inside := lt_partCountFor_iff positive k
  have sized : 0 < partSize msgPdu.length := by
    unfold partSize
    split_ifs <;> omega
  rw [← length_eq_zero_iff, payloadAt, length_take, length_drop]
  omega

section

variable (few : partCountFor msgPdu.length ≤ 255) (nonempty : msgPdu ≠ [])
include few nonempty

variable (outcomes : List Bool) {k : Nat}

theorem preparePduString_iterAt (inside : k < partCountFor msgPdu.length) (allocated : Bool) :
    (iterAt msgPdu.length refNum k).preparePduString recvPdu msgPdu allocated =
      if allocated then
        (.pdu (textAt recvPdu msgPdu refNum k).length (textAt recvPdu msgPdu refNum k),
          iterAt msgPdu.length refNum (k + 1))
      else (.outOfMemory, iterAt msgPdu.length refNum k) := by
  have some : payloadAt msgPdu k ≠ [] := by
    rw [Ne, payloadAt_eq_nil_iff nonempty]
    omega
  have notLast : (iterAt msgPdu.length refNum k).partPos ≠
      (iterAt msgPdu.length refNum k).partCount := by
    simp only [iterAt, ne_eq, ← UInt8.toNat_inj, UInt8.toNat_ofNat']
    omega
  have next : { iterAt msgPdu.length refNum k with
      msgPos := (iterAt msgPdu.length refNum k).msgPos + (payloadAt msgPdu k).length
      partPos := (iterAt msgPdu.length refNum k).partPos + 1 } =
      iterAt msgPdu.length refNum (k + 1) := by
    have position : min (partSize msgPdu.length * k) msgPdu.length + (payloadAt msgPdu k).length =
        min (partSize msgPdu.length * (k + 1)) msgPdu.length := by
      rw [payloadAt, length_take, length_drop, Nat.mul_succ]
      omega
    simp only [iterAt, position, MultipduIter.mk.injEq, true_and, and_true]
    rw [← UInt8.toNat_inj]
    simp
  rw [MultipduIter.preparePduString_eq, nextPayload_iterAt few]
  simp only [some, notLast, or_self, ↓reduceIte, next]
  rfl

theorem preparePduString_last (allocated : Bool) :
    (iterAt msgPdu.length refNum (partCountFor msgPdu.length)).preparePduString recvPdu msgPdu
      allocated = (.done, iterAt msgPdu.length refNum (partCountFor msgPdu.length)) := by
  have none := (payloadAt_eq_nil_iff nonempty (partCountFor msgPdu.length)).mpr (Nat.le_refl _)
  rw [MultipduIter.preparePduString_eq, nextPayload_iterAt few]
  simp only [none, true_or, ↓reduceIte]

theorem collect_strings (inside : k ≤ partCountFor msgPdu.length)
    (finished : ((iterAt msgPdu.length refNum k).collect recvPdu msgPdu outcomes).finished = true) :
    ((iterAt msgPdu.length refNum k).collect recvPdu msgPdu outcomes).strings =
      (List.range' k (partCountFor msgPdu.length - k)).map (fun k =>
        ((textAt recvPdu msgPdu refNum k).length, textAt recvPdu msgPdu refNum k)) := by
  induction outcomes generalizing k with
  | nil => simp [MultipduIter.collect] at finished
  | cons allocated rest ih =>
    unfold MultipduIter.collect at finished ⊢
    rcases Nat.lt_or_eq_of_le inside with before | last
    · rw [preparePduString_iterAt few nonempty before] at finished ⊢
      cases allocated with
      | true =>
        have count : partCountFor msgPdu.length - k =
            (partCountFor msgPdu.length - (k + 1)) + 1 := by
          omega
        rw [count, range'_succ, map_cons]
        simp only [↓reduceIte] at finished ⊢
        rw [ih before finished]
      | false => exact ih inside finished
    · subst last
      rw [preparePduString_last few nonempty, Nat.sub_self]
      rfl

theorem collect_finished (inside : k ≤ partCountFor msgPdu.length)
    (enough : partCountFor msgPdu.length - k < outcomes.count true) :
    ((iterAt msgPdu.length refNum k).collect recvPdu msgPdu outcomes).finished = true := by
  induction outcomes generalizing k with
  | nil => simp at enough
  | cons allocated rest ih =>
    unfold MultipduIter.collect
    rcases Nat.lt_or_eq_of_le inside with before | last
    · rw [preparePduString_iterAt few nonempty before]
      cases allocated with
      | true =>
        rw [count_cons_self] at enough
        exact ih before (by omega)
      | false =>
        rw [count_cons_of_ne (by simp)] at enough
        exact ih inside enough
    · subst last
      rw [preparePduString_last few nonempty]

end

theorem flatten_payloadAt (msgPdu : List UInt8) (count : Nat) :
    ((List.range count).map (payloadAt msgPdu)).flatten =
      msgPdu.take (partSize msgPdu.length * count) := by
  induction count with
  | zero => simp
  | succ count ih =>
    rw [range_succ, map_append, flatten_append, ih,
      Nat.mul_succ, take_add]
    simp [payloadAt]

theorem length_payloadAt_le (k : Nat) (several : 1 < partCountFor msgPdu.length) :
    (payloadAt msgPdu k).length ≤ 134 := by
  rw [payloadAt, length_take, partSize, if_pos several]
  exact Nat.min_le_left _ _

theorem readSubmit_textAt (recvPdu msgPdu : List UInt8) (refNum : UInt8) (k : Nat) :
    ∃ submit, readSubmit (fun _ => recvPdu.length) (textAt recvPdu msgPdu refNum k) = some submit ∧
      submit.userDataLength =
        ((iterAt msgPdu.length refNum k).userDataHeader (payloadAt msgPdu k)).headD 0 ∧
      submit.part =
        some (if (iterAt msgPdu.length refNum k).multipart then
            some ⟨refNum, UInt8.ofNat (partCountFor msgPdu.length), UInt8.ofNat (k + 1)⟩
          else none, payloadAt msgPdu k) := by
  refine ⟨_, readSubmit_octets rfl, rfl, ?_⟩
  have flag : (0x41 : UInt8) &&& 0x40 ≠ 0 := by decide
  have noFlag : (0x01 : UInt8) &&& 0x40 = 0 := by decide
  cases several : (iterAt msgPdu.length refNum k).multipart with
  | true =>
    simp only [Submit.part, MultipduIter.userDataHeader, several, ↓reduceIte, flag]
    simp [iterAt]
  | false =>
    simp [Submit.part, MultipduIter.userDataHeader, several, noFlag]

end Parts

/-- The texts of a message with `count` parts. -/
structure Reassembles (recvPdu msgPdu : List UInt8) (refNum : UInt8) (count : Nat)
    (strings : List (Nat × List UInt8)) : Prop where
  length : strings.length = count
  isHex : ∀ string ∈ strings,
    string.1 = string.2.length ∧ string.2.length % 2 = 0 ∧ string.2.all isUpperHex = true
  numbered : 1 < count → ∀ k string, strings[k]? = some string →
    ∃ submit payload,
      readSubmit (fun _ => recvPdu.length) string.2 = some submit ∧
        submit.part = some (some ⟨refNum, UInt8.ofNat count, UInt8.ofNat (k + 1)⟩, payload) ∧
        submit.userDataLength.toNat = 6 + payload.length ∧ submit.userDataLength.toNat ≤ 140
  message : (strings.map (fun string => payloadOf recvPdu.length string.2)).flatten = msgPdu

theorem reassembles_textAt {msgPdu : List UInt8} (recvPdu : List UInt8) (refNum : UInt8)
    (few : partCountFor msgPdu.length ≤ 255) (nonempty : msgPdu ≠ []) :
    Reassembles recvPdu msgPdu refNum (partCountFor msgPdu.length)
      ((List.range (partCountFor msgPdu.length)).map (fun k =>
        ((textAt recvPdu msgPdu refNum k).length, textAt recvPdu msgPdu refNum k))) where
  length := by simp
  isHex := by
    intro string isString
    obtain ⟨k, -, rfl⟩ := mem_map.mp isString
    refine ⟨rfl, ?_, isUpperHex_hexText _⟩
    rw [textAt, length_hexText]
    omega
  numbered := by
    intro several k string isString
    have inside : k < partCountFor msgPdu.length := by
      simpa using (List.getElem?_eq_some_iff.mp isString).1
    have isText : string =
        ((textAt recvPdu msgPdu refNum k).length, textAt recvPdu msgPdu refNum k) := by
      simpa [inside] using isString.symm
    have isSeveral : (iterAt msgPdu.length refNum k).multipart = true := by
      rw [iterAt_multipart few]
      exact decide_eq_true several
    obtain ⟨submit, read, length, part⟩ := readSubmit_textAt recvPdu msgPdu refNum k
    have short := length_payloadAt_le k several
    have announced : submit.userDataLength.toNat = 6 + (payloadAt msgPdu k).length := by
      rw [length, MultipduIter.userDataHeader, if_pos isSeveral]
      simp only [headD_cons, UInt8.toNat_ofNat']
      omega
    rw [isSeveral, if_pos rfl] at part
    refine ⟨submit, payloadAt msgPdu k, ?_, part, announced, by omega⟩
    rw [isText]
    exact read
  message := by
    rw [map_map]
    have payloads : (fun string => payloadOf recvPdu.length string.2) ∘ (fun k =>
      ((textAt recvPdu msgPdu refNum k).length, textAt recvPdu msgPdu refNum k)) =
      payloadAt msgPdu := by
      funext k
      obtain ⟨submit, read, -, part⟩ := readSubmit_textAt recvPdu msgPdu refNum k
      simp [payloadOf, read, part]
    rw [payloads, flatten_payloadAt, take_of_length_le]
    have behind := (lt_partCountFor_iff (length_pos_iff.mpr nonempty)
      (partCountFor msgPdu.length)).not
    omega

/-- For every message and every reference number. The iterator is refused exactly
for messages that need more than 255 parts of 134 octets. Otherwise repeated
calls come to an end, whichever of them have memory, and then they have given the
texts of a message that can be put together again. -/
theorem multipart_reassembles (recvPdu : List UInt8) (refNum : UInt8) :
    (∀ msgPdulen, pduMultipartIteratorInit msgPdulen refNum = none ↔ 255 * 134 < msgPdulen) ∧
    ∀ (msgPdu : List UInt8) (iter : MultipduIter), msgPdu ≠ [] →
      pduMultipartIteratorInit msgPdu.length refNum = some iter → ∀ outcomes,
        (iter.partCount.toNat < outcomes.count true →
          (iter.collect recvPdu msgPdu outcomes).finished = true) ∧
        ((iter.collect recvPdu msgPdu outcomes).finished = true →
          Reassembles recvPdu msgPdu refNum iter.partCount.toNat
            (iter.collect recvPdu msgPdu outcomes).strings) := by
  constructor
  · intro msgPdulen
    have limit := partCountFor_le_iff msgPdulen
    unfold pduMultipartIteratorInit
    split
    · simp only [true_iff]
      omega
    · simp only [reduceCtorEq, false_iff]
      omega
  · intro msgPdu iter nonempty started outcomes
    obtain ⟨few, rfl⟩ := pduMultipartIteratorInit_eq_some started
    have count : (iterAt msgPdu.length refNum 0).partCount.toNat = partCountFor msgPdu.length := by
      simp only [iterAt, UInt8.toNat_ofNat']
      omega
    rw [count]
    constructor
    · intro enough
      exact collect_finished few nonempty outcomes (Nat.zero_le _) enough
    · intro finished
      rw [collect_strings few nonempty outcomes (Nat.zero_le _) finished, Nat.sub_zero,
        ← range_eq_range']
      exact reassembles_textAt recvPdu refNum few nonempty

/-- A message of 141 octets has two parts. -/
theorem multipart_reassembles_two :
    let msgPdu := List.replicate 141 97
    let iter := iterAt 141 0xAA 0
    pduMultipartIteratorInit 141 0xAA = some iter ∧
      (iter.collect [0x91, 0x34, 0x12] msgPdu [true, false, true, true]).strings.length = 2 := by
  intro msgPdu iter
  have nonempty : msgPdu ≠ [] := by simp [msgPdu]
  have started : pduMultipartIteratorInit msgPdu.length 0xAA = some iter := by
    rw [length_replicate]
    decide
  have calls := (multipart_reassembles [0x91, 0x34, 0x12] 0xAA).2 msgPdu iter nonempty started
    [true, false, true, true]
  rw [length_replicate] at started
  exact ⟨started, (calls.2 (calls.1 (by decide))).length⟩

end Thingsee.Sms
