import Thingsee.Sms.Multipart

/-!
Owns the recipient of an SMS-SUBMIT: what the address field says under the rules
of 3GPP TS 23.040, and when it is the phone number that was given.

The address length counts digits, but `__ubmodem_prepare_pdu_string` makes it from
the number of packed octets. `recipient_read_iff` says which numbers survive.
-/

namespace Thingsee.Sms

open Support List

/-- The digits of an address, as numbers. -/
def digitsOf (address : List UInt8) : List UInt8 :=
  ((addressBody address).filter isDigit).map (· - 48)

/-- The semi-octets of octets, the less significant half of each first. -/
def semiOctets (octets : List UInt8) : List UInt8 :=
  octets.flatMap (fun octet => [octet &&& 15, octet >>> 4])

/-- The number of octets of an address with `length` digits. -/
def addressOctets (length : UInt8) : Nat := 1 + (length.toNat + 1) / 2

/-- Reads an address field: whether it is an international number, and its digits.
The filler stands only in the last octet of an odd number of digits. -/
def readAddress (length : UInt8) : List UInt8 → Option (Bool × List UInt8)
  | [] => none
  | type :: octets =>
    let digits := (semiOctets octets).take length.toNat
    let filler := (semiOctets octets).drop length.toNat
    if octets.length = (length.toNat + 1) / 2 ∧ digits.all (· != 15) = true ∧
        filler.all (· == 15) = true then
      some ((type >>> 4) &&& 7 == 1, digits)
    else none

/-- The text of a part says who the recipient is, and has the other fields behind
the address. -/
def RecipientRead (address payload : List UInt8) (iter : MultipduIter) (text : List UInt8) : Prop :=
  ∃ submit, readSubmit addressOctets text = some submit ∧
    readAddress submit.addressLength submit.address =
      some (isInternational address, digitsOf address) ∧
    submit.protocolIdentifier = 0 ∧ submit.dataCodingScheme = 8 ∧
    submit.userDataLength :: submit.userData = iter.userDataHeader payload ++ payload

/-- Digits packed into octets, the first of two in the less significant half. -/
def pack : List UInt8 → List UInt8
  | [] => []
  | [last] => [0xF0 ||| last]
  | first :: second :: rest => ((second <<< 4) ||| first) :: pack rest

variable (digits : List UInt8) {address recvPdu : List UInt8}

theorem length_pack : (pack digits).length = (digits.length + 1) / 2 := by
  induction digits using pack.induct with
  | case1 => rfl
  | case2 last => simp [pack]
  | case3 first second rest ih =>
    rw [pack, length_cons, ih, length_cons, length_cons]
    omega

theorem isDigit_skipped : ∀ char : UInt8, isDigit char = true → isSkipped char = false := by
  apply forall_octet
  decide +kernel

theorem numcount_eq_some {body : List UInt8} {count : Nat} (valid : numcount body = some count) :
    (body.filter isDigit).length = count ∧ body.filter
    (fun char => !isSkipped char) = body.filter isDigit := by
  induction body generalizing count with
  | nil =>
    simp only [numcount, Option.some.injEq] at valid
    exact ⟨valid, rfl⟩
  | cons char rest ih =>
    unfold numcount at valid
    cases skipped : isSkipped char with
    | true =>
      rw [skipped, if_pos rfl] at valid
      have noDigit : isDigit char = false := by
        by_contra digit
        rw [isDigit_skipped char (by simpa using digit)] at skipped
        simp at skipped
      simpa [skipped, noDigit] using ih valid
    | false =>
      rw [skipped, if_neg (by simp)] at valid
      cases digit : isDigit char with
      | true =>
        rw [digit, if_pos rfl] at valid
        obtain ⟨others, isOthers, rfl⟩ := Option.map_eq_some_iff.mp valid
        simpa [skipped, digit] using ih isOthers
      | false =>
        rw [digit, if_neg (by simp)] at valid
        simp at valid

theorem foldl_turn_filter (body : List UInt8) (packing : Packing) :
    body.foldl Packing.turn packing =
      (body.filter (fun char => !isSkipped char)).foldl Packing.turn packing := by
  induction body generalizing packing with
  | nil => rfl
  | cons char rest ih =>
    cases skipped : isSkipped char with
    | true =>
      have same : packing.turn char = packing := by simp [Packing.turn, skipped]
      simp [skipped, same, ih]
    | false => simp [skipped, ih]

theorem foldl_turn_pack (chars : List UInt8) (noSkip : ∀ char ∈ chars, isSkipped char = false)
    {currnum : Nat} (even : currnum % 2 = 0) (prev : UInt8) (pdu : List UInt8) :
    let packing := chars.foldl Packing.turn ⟨currnum, prev, pdu⟩
    (if chars.length % 2 = 1 then packing.pdu ++ [0xF0 ||| packing.prev] else packing.pdu) =
      pdu ++ pack (chars.map (· - 48)) := by
  induction chars using pack.induct generalizing currnum prev pdu with
  | case1 => simp [pack]
  | case2 last =>
    have turned := noSkip last (by simp)
    simp [Packing.turn, turned, even, pack]
  | case3 first second rest ih =>
    have firstTurned := noSkip first (by simp)
    have secondTurned := noSkip second (by simp)
    have odd : (currnum + 1) % 2 ≠ 0 := by omega
    have length : (first :: second :: rest).length % 2 = rest.length % 2 := by
      simp only [length_cons]
      omega
    have later := ih
      (fun char isChar => noSkip char (mem_cons_of_mem _ (mem_cons_of_mem _ isChar)))
      (show (currnum + 1 + 1) % 2 = 0 by omega) (first - 48)
      (pdu ++ [((second - 48) <<< 4) ||| (first - 48)])
    rw [length]
    simp only [foldl_cons, Packing.turn, firstTurned, Bool.false_eq_true, ↓reduceIte, even,
      secondTurned, odd]
    simpa [pack] using later

theorem addressToPdu_eq_ok {allocated : Bool}
    (accepted : addressToPdu address allocated = .ok recvPdu) (some : digitsOf address ≠ []) :
    recvPdu = (if isInternational address then 0x91 else 0x81) :: pack (digitsOf address) := by
  unfold addressToPdu at accepted
  split at accepted
  · next empty => simp [empty, digitsOf, addressBody, isInternational] at some
  · split at accepted
    · simp at accepted
    · next count valid =>
      obtain ⟨length, same⟩ := numcount_eq_some valid
      split at accepted
      · have noSkip : ∀ char ∈ (addressBody address).filter isDigit, isSkipped char = false := by
          intro char isChar
          exact isDigit_skipped char (mem_filter.mp isChar).2
        have packed := foldl_turn_pack _ noSkip (Nat.zero_mod 2) 0
          [if isInternational address then 0x91 else 0x81]
        rw [length, ← same, ← foldl_turn_filter, same] at packed
        rw [← apply_ite Except.ok, packed] at accepted
        exact (Except.ok.inj accepted).symm
      · simp at accepted

theorem digit_lt : ∀ char : UInt8, isDigit char = true → char - 48 < 10 := by
  apply forall_octet
  decide +kernel

theorem digitsOf_lt : ∀ digit ∈ digitsOf address, digit < 10 := by
  intro digit isDigit
  obtain ⟨char, isChar, rfl⟩ := mem_map.mp isDigit
  exact digit_lt char (mem_filter.mp isChar).2

theorem halves_of_digits {first second : UInt8} (firstSmall : first < 10)
    (secondSmall : second < 10) :
    ((second <<< 4) ||| first) &&& 15 = first ∧ ((second <<< 4) ||| first) >>> 4 = second := by
  have all : ∀ n k : Fin 10,
      ((UInt8.ofNat k <<< 4) ||| UInt8.ofNat n) &&& 15 = UInt8.ofNat n ∧
        ((UInt8.ofNat k <<< 4) ||| UInt8.ofNat n) >>> 4 = UInt8.ofNat k := by
    decide +kernel
  have each := all ⟨first.toNat, UInt8.lt_iff_toNat_lt.mp firstSmall⟩
    ⟨second.toNat, UInt8.lt_iff_toNat_lt.mp secondSmall⟩
  simpa using each

theorem semiOctets_pack (small : ∀ digit ∈ digits, digit < 10) (even : digits.length % 2 = 0) :
    semiOctets (pack digits) = digits := by
  induction digits using pack.induct with
  | case1 => rfl
  | case2 last => simp at even
  | case3 first second rest ih =>
    have evenRest : rest.length % 2 = 0 := by
      simp only [length_cons] at even
      omega
    obtain ⟨low, high⟩ := halves_of_digits (small first (by simp)) (small second (by simp))
    have unpacked := ih
      (fun digit isDigit => small digit (mem_cons_of_mem _ (mem_cons_of_mem _ isDigit)))
      evenRest
    simp only [pack, semiOctets, flatMap_cons, low, high] at unpacked ⊢
    rw [unpacked]
    rfl

theorem length_semiOctets (octets : List UInt8) :
    (semiOctets octets).length = 2 * octets.length := by
  induction octets with
  | nil => rfl
  | cons octet rest ih =>
    simp only [semiOctets, flatMap_cons, length_append, length_cons,
      length_nil] at ih ⊢
    omega

theorem readAddress_length {length : UInt8} {digits : List UInt8} {international : Bool}
    (read : readAddress length address = some (international, digits)) :
    digits.length = length.toNat := by
  unfold readAddress at read
  split at read
  · simp at read
  · dsimp only at read
    split at read
    · next octets fits =>
      obtain ⟨-, rfl⟩ := Prod.mk.inj (Option.some.inj read)
      rw [length_take, length_semiOctets, fits.1]
      omega
    · simp at read

theorem readSubmit_addressLength {iter : MultipduIter} {payload : List UInt8} {submit : Submit}
    (read : readSubmit addressOctets (hexText (iter.octets recvPdu payload)) = some submit) :
    submit.addressLength = (UInt8.ofNat recvPdu.length - 1) * 2 := by
  unfold readSubmit at read
  rw [octetsOfHex_hexText, MultipduIter.octets] at read
  generalize (UInt8.ofNat recvPdu.length - 1) * 2 = addressLength at read
  simp only [cons_append, nil_append, UInt8.toNat_zero, drop_zero,
    append_assoc] at read
  split at read
  · rw [← Option.some.inj read]
  · simp at read

theorem addressLength_eq_iff (digits : Nat) :
    digits = ((UInt8.ofNat ((digits + 1) / 2 + 1) - 1) * 2).toNat ↔
      digits % 2 = 0 ∧ digits < 256 := by
  have value : ((UInt8.ofNat ((digits + 1) / 2 + 1) - 1) * 2).toNat =
    (digits + 1) / 2 * 2 % 256 := by
    simp only [UInt8.toNat_mul, UInt8.toNat_sub, UInt8.toNat_ofNat']
    simp
    omega
  rw [value]
  omega

/-- For every phone number that is accepted, every message and every part of it:
the text of the part says who the recipient is if and only if the number has an
even number of digits, and less than 256. -/
theorem recipient_read_iff {address recvPdu : List UInt8} {allocated : Bool}
    (accepted : addressToPdu address allocated = .ok recvPdu) (some : digitsOf address ≠ [])
    (iter next : MultipduIter) (msgPdu : List UInt8) (pdulen : Nat) (text : List UInt8)
    (prepared : iter.preparePduString recvPdu msgPdu true = (.pdu pdulen text, next)) :
    RecipientRead address (iter.nextPayload msgPdu) iter text ↔
      (digitsOf address).length % 2 = 0 ∧ (digitsOf address).length < 256 := by
  have isText : text = hexText (iter.octets recvPdu (iter.nextPayload msgPdu)) := by
    rw [MultipduIter.preparePduString_eq] at prepared
    dsimp only at prepared
    split at prepared
    · simp at prepared
    · simp only [↓reduceIte, Prod.mk.injEq, Prepared.pdu.injEq] at prepared
      exact prepared.1.2.symm
  have isPdu := addressToPdu_eq_ok accepted some
  have length : recvPdu.length = ((digitsOf address).length + 1) / 2 + 1 := by
    rw [isPdu, length_cons, length_pack]
  have counted := addressLength_eq_iff (digitsOf address).length
  rw [← length] at counted
  rw [isText]
  constructor
  · rintro ⟨submit, read, digits, -⟩
    have count := readAddress_length digits
    rw [readSubmit_addressLength read] at count
    exact counted.mp count
  · intro few
    have count := counted.mpr few
    have fits : addressOctets ((UInt8.ofNat recvPdu.length - 1) * 2) = recvPdu.length := by
      unfold addressOctets
      rw [← count, length]
      omega
    refine ⟨_, readSubmit_octets fits, ?_, rfl, rfl, ?_⟩
    · have unpacked := semiOctets_pack (digitsOf address) digitsOf_lt few.1
      have noFiller : (digitsOf address).all (· != 15) = true := by
        rw [all_eq_true]
        intro digit isDigit
        have small := UInt8.lt_iff_toNat_lt.mp (digitsOf_lt digit isDigit)
        rw [bne_iff_ne, ne_eq, ← UInt8.toNat_inj]
        change ¬ digit.toNat = 15
        change digit.toNat < 10 at small
        omega
      rw [isPdu] at count ⊢
      unfold readAddress
      dsimp only
      rw [← count, unpacked, take_length, drop_length, length_pack]
      rw [if_pos ⟨rfl, noFiller, rfl⟩]
      congr 2
      split
      · next plus => rw [plus]; decide
      · next noPlus => rw [Bool.not_eq_true] at noPlus; rw [noPlus]; decide
    · unfold MultipduIter.userDataHeader
      split <;> rfl

/-- The number `+4321` and a message of one character. -/
theorem recipient_read_even :
    addressToPdu [43, 52, 51, 50, 49] true = .ok [0x91, 0x34, 0x12] ∧
      RecipientRead [43, 52, 51, 50, 49] [0, 97] ⟨0, 0, 1, 0⟩
        (hexText [0, 1, 0, 4, 0x91, 0x34, 0x12, 0, 8, 2, 0, 97]) := by
  have accepted : addressToPdu [43, 52, 51, 50, 49] true = .ok [0x91, 0x34, 0x12] := by rfl
  refine ⟨accepted, ?_⟩
  exact (recipient_read_iff accepted (by decide) ⟨0, 0, 1, 0⟩ ⟨2, 1, 1, 0⟩ [0, 97] 24
    (hexText [0, 1, 0, 4, 0x91, 0x34, 0x12, 0, 8, 2, 0, 97]) (by decide)).mpr (by decide)

/-- The number `369`: its address length is 4, so that the filler counts as a
digit. -/
theorem odd_recipient_misread :
    let text := hexText [0, 1, 0, 4, 0x81, 0x63, 0xF9, 0, 8, 2, 0, 97]
    addressToPdu [51, 54, 57] true = .ok [0x81, 0x63, 0xF9] ∧
      pduMultipartIteratorInit 2 0 = some ⟨0, 0, 1, 0⟩ ∧
      MultipduIter.preparePduString ⟨0, 0, 1, 0⟩ [0x81, 0x63, 0xF9] [0, 97] true =
        (.pdu 24 text, ⟨2, 1, 1, 0⟩) ∧
      ¬ RecipientRead [51, 54, 57] [0, 97] ⟨0, 0, 1, 0⟩ text := by
  intro text
  refine ⟨by rfl, by decide, by decide, ?_⟩
  rintro ⟨submit, read, digits, -⟩
  have isSubmit : readSubmit addressOctets text =
      some ⟨1, 0, 4, [0x81, 0x63, 0xF9], 0, 8, 2, [0, 97]⟩ := by
    decide
  rw [isSubmit] at read
  rw [← Option.some.inj read] at digits
  have filler : readAddress 4 [0x81, 0x63, 0xF9] = none := by decide
  rw [filler] at digits
  simp at digits

end Thingsee.Sms
