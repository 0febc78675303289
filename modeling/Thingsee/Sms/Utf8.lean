import Thingsee.Sms.Pdu
import Thingsee.Support.LittleEndian

/-!
Owns the conversion of UTF-8 to UCS2 of `ubmodem_pdu_util.c`: the decoder of one
code point, the walk that counts code points, the walk that converts them, and the
user data that `__ubmodem_utf8_to_pdu` makes of a message.

A message is the list of its octets without the terminating zero, so `buflen` is its
length. The function `htons` and the memory behind the array are the octets of a
character, most significant first.
-/

namespace Thingsee.Sms

open Support List

def EINVAL : Int := 22

def UTF8_ACCEPT : Nat := 0
def UTF8_REJECT : Nat := 1

def utf8d : List Nat :=
  [0,0,0,0,0,0,0,0,0,0,0,0,0,0,0,0,0,0,0,0,0,0,0,0,0,0,0,0,0,0,0,0, -- 00..1f
   0,0,0,0,0,0,0,0,0,0,0,0,0,0,0,0,0,0,0,0,0,0,0,0,0,0,0,0,0,0,0,0, -- 20..3f
   0,0,0,0,0,0,0,0,0,0,0,0,0,0,0,0,0,0,0,0,0,0,0,0,0,0,0,0,0,0,0,0, -- 40..5f
   0,0,0,0,0,0,0,0,0,0,0,0,0,0,0,0,0,0,0,0,0,0,0,0,0,0,0,0,0,0,0,0, -- 60..7f
   1,1,1,1,1,1,1,1,1,1,1,1,1,1,1,1,9,9,9,9,9,9,9,9,9,9,9,9,9,9,9,9, -- 80..9f
   7,7,7,7,7,7,7,7,7,7,7,7,7,7,7,7,7,7,7,7,7,7,7,7,7,7,7,7,7,7,7,7, -- a0..bf
   8,8,2,2,2,2,2,2,2,2,2,2,2,2,2,2,2,2,2,2,2,2,2,2,2,2,2,2,2,2,2,2, -- c0..df
   0xa,0x3,0x3,0x3,0x3,0x3,0x3,0x3,0x3,0x3,0x3,0x3,0x3,0x4,0x3,0x3, -- e0..ef
   0xb,0x6,0x6,0x6,0x5,0x8,0x8,0x8,0x8,0x8,0x8,0x8,0x8,0x8,0x8,0x8, -- f0..ff
   0x0,0x1,0x2,0x3,0x5,0x8,0x7,0x1,0x1,0x1,0x4,0x6,0x1,0x1,0x1,0x1, -- s0..s0
   1,1,1,1,1,1,1,1,1,1,1,1,1,1,1,1,1,0,1,1,1,1,1,0,1,0,1,1,1,1,1,1, -- s1..s2
   1,2,1,1,1,1,1,2,1,2,1,1,1,1,1,1,1,1,1,1,1,1,1,2,1,1,1,1,1,1,1,1, -- s3..s4
   1,2,1,1,1,1,1,1,1,2,1,1,1,1,1,1,1,1,1,1,1,1,1,3,1,3,1,1,1,1,1,1, -- s5..s6
   1,3,1,1,1,1,1,3,1,3,1,1,1,1,1,1,1,3,1,1,1,1,1,1,1,1,1,1,1,1,1,1] -- s7..s8

/-- An entry of the table `utf8d`. -/
def utf8dAt (index : Nat) : Nat := utf8d.getD index 0

/-- `decode`: the state after a byte, and `codep`. -/
def decode (state codep byte : Nat) : Nat × Nat :=
  let type := utf8dAt byte
  let codep :=
    if state ≠ UTF8_ACCEPT then (byte &&& 0x3f) ||| ((codep <<< 6) % 4294967296)
    else (0xff >>> type) &&& byte
  (utf8dAt (256 + state * 16 + type), codep)

/-- The loop of `__utf8_decode`: what it returns, and the offset it leaves behind. -/
def decodeLoop (offset buflen : Nat) : List UInt8 → Nat → Nat → Int × Nat
  -- Truncated UTF-8 string
  | [], _, _ => (-1, buflen)
  | byte :: rest, state, codep =>
    let decoded := decode state codep byte.toNat
    if decoded.1 = UTF8_ACCEPT then (toSigned 32 decoded.2, buflen - rest.length)
    else if decoded.1 = UTF8_REJECT then (-1, offset + 1)
    else decodeLoop offset buflen rest decoded.1 decoded.2

/-- `__utf8_decode`: the code point, and the offset behind it. -/
def utf8Decode (buf : List UInt8) (offset : Nat) : Int × Nat :=
  if offset ≥ buf.length then (0, offset)
  else decodeLoop offset buf.length (buf.drop offset) UTF8_ACCEPT 0

def ucs2Encode (codep : Int) : Nat :=
  if codep ≥ 0 ∧ codep ≤ 0xd7ff then codep.toNat
  else if codep ≥ 0xe000 ∧ codep ≤ 0xffff then codep.toNat
  else 0xfffd

theorem decodeLoop_offset (offset buflen : Nat) (rest : List UInt8) (state codep : Nat)
    (inside : offset + rest.length ≤ buflen) (before : offset < buflen) :
    offset < (decodeLoop offset buflen rest state codep).2 ∧
      (decodeLoop offset buflen rest state codep).2 ≤ buflen := by
  induction rest generalizing state codep with
  | nil => exact ⟨before, le_refl _⟩
  | cons byte rest ih =>
    rw [length_cons] at inside
    rw [decodeLoop]
    split
    · constructor
      · show offset < buflen - rest.length
        omega
      · exact Nat.sub_le _ _
    · split
      · exact ⟨Nat.lt_succ_self _, before⟩
      · exact ih _ _ (by omega)

theorem utf8Decode_offset (buf : List UInt8) {offset : Nat} (before : offset < buf.length) :
    offset < (utf8Decode buf offset).2 ∧ (utf8Decode buf offset).2 ≤ buf.length := by
  rw [utf8Decode, if_neg (Nat.not_le.mpr before)]
  refine decodeLoop_offset _ _ _ _ _ ?_ before
  rw [length_drop]
  omega

/-- `__utf8_num_code_points` from an offset, which never passes the end. -/
def numCodePointsFrom (buf : List UInt8) (stopAtNull : Bool) (pos : Nat) : Nat :=
  if before : pos < buf.length then
    let decoded := utf8Decode buf pos
    if stopAtNull && decoded.1 == 0 then 0
    else numCodePointsFrom buf stopAtNull decoded.2 + 1
  else 0
termination_by buf.length - pos
decreasing_by
  have advanced := utf8Decode_offset buf before
  omega

def numCodePoints (buf : List UInt8) (stopAtNull : Bool) : Nat :=
  numCodePointsFrom buf stopAtNull 0

/-- The loop of `__utf8_to_ucs2`: the characters, and the offset it leaves behind. -/
def toUcs2Loop (inbuf : List UInt8) : Nat → Nat → List Nat × Nat
  | 0, inoffset => ([], inoffset)
  | outcount + 1, inoffset =>
    let decoded := utf8Decode inbuf inoffset
    if decoded.1 = 0 then ([], decoded.2)
    else
      let rest := toUcs2Loop inbuf outcount decoded.2
      (ucs2Encode decoded.1 :: rest.1, rest.2)

def utf8ToUcs2 (outcount : Nat) (inbuf : List UInt8) (inoffset : Nat) : List Nat × Nat :=
  if inoffset ≥ inbuf.length then ([], inoffset)
  else toUcs2Loop inbuf outcount inoffset

/-- A character as `htons` leaves it in memory. -/
def bigEndian (character : Nat) : List UInt8 :=
  [UInt8.ofNat (character / 256), UInt8.ofNat (character % 256)]

/-- `__ubmodem_utf8_to_pdu`: what it returns, and the array. -/
def utf8ToPdu (message : List UInt8) (allocated : Bool) : Int × List UInt8 :=
  let mesgchars := numCodePoints message true
  if allocated then
    let ucs2 := utf8ToUcs2 mesgchars message 0
    if ucs2.1.length ≠ mesgchars ∨ ucs2.2 ≠ message.length then (-EINVAL, [])
    else (2 * ucs2.1.length, ucs2.1.flatMap bigEndian)
  else (-ENOMEM, [])

/-- What a state with bytes still owed takes next. -/
structure Tail where
  low : Nat
  high : Nat
  next : Nat

/-- The states with bytes still owed: after `E0`, `ED`, `F0` and `F4` the first of them
is restricted, so that no code point is overlong, a surrogate or above `10FFFF`. -/
def tailOf : Nat → Option Tail
  | 2 => some ⟨0x80, 0xbf, 0⟩
  | 3 => some ⟨0x80, 0xbf, 2⟩
  | 4 => some ⟨0xa0, 0xbf, 2⟩
  | 5 => some ⟨0x80, 0x9f, 2⟩
  | 6 => some ⟨0x90, 0xbf, 3⟩
  | 7 => some ⟨0x80, 0xbf, 3⟩
  | 8 => some ⟨0x80, 0x8f, 3⟩
  | _ => none

/-- The state behind the first byte of a code point, and the bits it brings. -/
def leadOf (byte : Nat) : Nat × Nat :=
  if byte < 0x80 then (0, byte)
  else if byte < 0xc2 then (1, 0)
  else if byte < 0xe0 then (2, byte - 0xc0)
  else if byte = 0xe0 then (4, 0)
  else if byte = 0xed then (5, 13)
  else if byte < 0xf0 then (3, byte - 0xe0)
  else if byte = 0xf0 then (6, 0)
  else if byte < 0xf4 then (7, byte - 0xf0)
  else if byte = 0xf4 then (8, 4)
  else (1, 0)

variable {state byte codep : Nat} {tail : Tail}

theorem tailOf_bounds (owed : tailOf state = some tail) : 2 ≤ state ∧ state < 9 := by
  unfold tailOf at owed
  split at owed <;> first | omega | cases owed

theorem tailOf_open (owed : tailOf state = some tail) :
    state ≠ UTF8_ACCEPT ∧ state ≠ UTF8_REJECT := by
  have bounds := tailOf_bounds owed
  rw [UTF8_ACCEPT, UTF8_REJECT]
  omega

theorem utf8dAt_tail (owed : tailOf state = some tail) (octet : byte < 256) :
    utf8dAt (256 + state * 16 + utf8dAt byte) =
      if tail.low ≤ byte ∧ byte ≤ tail.high then tail.next else UTF8_REJECT := by
  have table : ((List.range 9).all fun state => (tailOf state).all fun tail =>
    (List.range 256).all fun byte =>
      decide (utf8dAt (256 + state * 16 + utf8dAt byte) =
        if tail.low ≤ byte ∧ byte ≤ tail.high then tail.next else UTF8_REJECT)) = true := by
    decide +kernel
  have states := all_eq_true.mp table state (mem_range.mpr (tailOf_bounds owed).2)
  rw [owed] at states
  exact of_decide_eq_true
    (all_eq_true.mp states byte (mem_range.mpr octet))

theorem decode_lead (octet : byte < 256) :
    (decode UTF8_ACCEPT 0 byte).1 = (leadOf byte).1 ∧
      ((leadOf byte).1 ≠ UTF8_REJECT → (decode UTF8_ACCEPT 0 byte).2 = (leadOf byte).2) := by
  have table : ((List.range 256).all fun byte =>
    decide ((decode UTF8_ACCEPT 0 byte).1 = (leadOf byte).1 ∧
      ((leadOf byte).1 ≠ UTF8_REJECT →
        (decode UTF8_ACCEPT 0 byte).2 = (leadOf byte).2))) = true := by
    decide +kernel
  exact of_decide_eq_true (all_eq_true.mp table byte (mem_range.mpr octet))

theorem decode_tail (owed : tailOf state = some tail) (octet : byte < 256)
    (small : codep < 0x4400) :
    decode state codep byte =
      (if tail.low ≤ byte ∧ byte ≤ tail.high then tail.next else UTF8_REJECT,
        codep * 64 + byte % 64) := by
  have continued : state ≠ UTF8_ACCEPT := by
    have bounds := tailOf_bounds owed
    rw [UTF8_ACCEPT]
    omega
  have masked : byte &&& 0x3f = byte % 64 := Nat.and_two_pow_sub_one_eq_mod byte 6
  have shifted : (codep <<< 6) % 4294967296 = codep <<< 6 := by
    rw [Nat.shiftLeft_eq]
    omega
  have joined : byte % 64 ||| codep <<< 6 = codep * 64 + byte % 64 := by
    have low : byte % 64 < 2 ^ 6 := Nat.mod_lt _ (by decide)
    rw [Nat.or_comm, ← Nat.shiftLeft_add_eq_or_of_lt low, Nat.shiftLeft_eq]
  simp only [decode, if_pos continued, masked, shifted, joined, utf8dAt_tail owed octet]

/-- The values of `codep` in a state. -/
def span : Nat → Nat × Nat
  | 0 => (1, 0x110000)
  | 2 => (2, 0x4400)
  | 3 => (1, 0x110)
  | 4 => (0, 1)
  | 5 => (13, 14)
  | 6 => (0, 1)
  | 7 => (1, 4)
  | 8 => (4, 5)
  | _ => (0, 0)

/-- The bits read so far are some that the state admits. -/
def Fits (state codep : Nat) : Prop := (span state).1 ≤ codep ∧ codep < (span state).2

theorem tailOf_next (owed : tailOf state = some tail) :
    tail.next = UTF8_ACCEPT ∨
      tail.next ≠ UTF8_REJECT ∧ ∃ further, tailOf tail.next = some further := by
  unfold tailOf at owed
  split at owed <;> cases owed <;> simp [UTF8_ACCEPT, UTF8_REJECT, tailOf]

theorem Fits.next (fits : Fits state codep) (owed : tailOf state = some tail)
    (low : tail.low ≤ byte) (high : byte ≤ tail.high) :
    Fits tail.next (codep * 64 + byte % 64) := by
  unfold tailOf at owed
  split at owed <;> cases owed <;> dsimp only at low high <;>
    simp only [Fits, span] at fits ⊢ <;> omega

theorem Fits.small (fits : Fits state codep) (owed : tailOf state =
    some tail) : codep < 0x4400 := by
  unfold tailOf at owed
  split at owed <;> cases owed <;> simp only [Fits, span] at fits <;> omega

theorem leadOf_cases (octet : byte < 256) (nonzero : byte ≠ 0) :
    (leadOf byte).1 = UTF8_REJECT ∨
      Fits (leadOf byte).1 (leadOf byte).2 ∧
        ((leadOf byte).1 = UTF8_ACCEPT ∨
          (leadOf byte).1 ≠ UTF8_REJECT ∧ ∃ tail, tailOf (leadOf byte).1 = some tail) := by
  unfold leadOf
  repeat' split
  all_goals simp [Fits, span, UTF8_REJECT, UTF8_ACCEPT, tailOf]
  all_goals omega

theorem toSigned_codep (small : codep < 0x110000) : toSigned 32 codep = codep := by
  apply toSigned_of_range 31
  · norm_num
  · norm_num
    omega

theorem octet_lt (octet : UInt8) : octet.toNat < 256 := octet.toNat_lt

theorem decodeLoop_ne_zero (offset buflen : Nat) (rest : List UInt8)
    (owed : tailOf state = some tail) (fits : Fits state codep) :
    (decodeLoop offset buflen rest state codep).1 ≠ 0 := by
  induction rest generalizing state codep tail with
  | nil =>
    show (-1 : Int) ≠ 0
    decide
  | cons byte rest ih =>
    rw [decodeLoop, decode_tail owed (octet_lt byte) (fits.small owed)]
    by_cases within : tail.low ≤ byte.toNat ∧ byte.toNat ≤ tail.high
    · simp only [if_pos within]
      have fits := fits.next owed within.1 within.2
      rcases tailOf_next owed with complete | ⟨refused, further, owed⟩
      · rw [if_pos complete]
        rw [complete] at fits
        have nonzero : 1 ≤ codep * 64 + byte.toNat % 64 := fits.1
        rw [toSigned_codep fits.2]
        omega
      · rw [if_neg (tailOf_open owed).1, if_neg refused]
        exact ih owed fits
    · simp [within, UTF8_REJECT, UTF8_ACCEPT]

theorem utf8Decode_ne_zero {buf : List UInt8} (nulFree : (0 : UInt8) ∉ buf) {offset : Nat}
    (before : offset < buf.length) : (utf8Decode buf offset).1 ≠ 0 := by
  rw [utf8Decode, if_neg (Nat.not_le.mpr before), drop_eq_getElem_cons before, decodeLoop]
  have nonzero : buf[offset].toNat ≠ 0 := by
    intro zero
    exact nulFree ((UInt8.toNat_inj.mp zero : buf[offset] = 0) ▸ getElem_mem before)
  have lead := decode_lead (octet_lt buf[offset])
  simp only [lead.1]
  rcases leadOf_cases (octet_lt buf[offset]) nonzero with refused | ⟨fits, rest⟩
  · simp [refused, UTF8_REJECT, UTF8_ACCEPT]
  · rcases rest with complete | ⟨refused, tail, owed⟩
    · rw [if_pos complete, lead.2 (by rw [complete]; decide)]
      rw [complete] at fits
      have nonzero : 1 ≤ (leadOf buf[offset].toNat).2 := fits.1
      rw [toSigned_codep fits.2]
      omega
    · rw [if_neg (tailOf_open owed).1, if_neg refused, lead.2 refused]
      exact decodeLoop_ne_zero _ _ _ owed fits

/-- The items that `__utf8_decode` returns from an offset on: each goes on by at least
one byte, and the last ends at the end. -/
inductive Iterates (buf : List UInt8) : Nat → List Int → Prop where
  | done : Iterates buf buf.length []
  | item {pos next : Nat} {codep : Int} {rest : List Int} (before : pos < buf.length)
      (decoded : utf8Decode buf pos = (codep, next)) (advances : pos < next)
      (further : Iterates buf next rest) : Iterates buf pos (codep :: rest)

namespace Iterates

variable {buf : List UInt8} {pos : Nat} {items : List Int}

theorem total (buf : List UInt8) (pos : Nat) (before : pos ≤ buf.length) :
    ∃ items, Iterates buf pos items := by
  induction remaining : buf.length - pos using Nat.strong_induction_on generalizing pos with
  | _ remaining ih =>
    subst remaining
    rcases Nat.lt_or_eq_of_le before with before | rfl
    · have advances := utf8Decode_offset buf before
      obtain ⟨rest, further⟩ := ih _ (by omega) (utf8Decode buf pos).2 advances.2 rfl
      exact ⟨_, .item before rfl advances.1 further⟩
    · exact ⟨[], .done⟩

theorem numCodePointsFrom (iterates : Iterates buf pos items) (nulFree : (0 : UInt8) ∉ buf) :
    Sms.numCodePointsFrom buf true pos = items.length := by
  induction iterates with
  | done => rw [Sms.numCodePointsFrom, dif_neg (Nat.lt_irrefl _), length_nil]
  | item before decoded advances further ih =>
    have nonzero := utf8Decode_ne_zero nulFree before
    rw [decoded] at nonzero
    rw [Sms.numCodePointsFrom, dif_pos before, decoded]
    simp [nonzero, ih]

theorem toUcs2Loop (iterates : Iterates buf pos items) (nulFree : (0 : UInt8) ∉ buf) :
    Sms.toUcs2Loop buf items.length pos = (items.map ucs2Encode, buf.length) := by
  induction iterates with
  | done => rfl
  | item before decoded advances further ih =>
    have nonzero := utf8Decode_ne_zero nulFree before
    rw [decoded] at nonzero
    rw [length_cons, Sms.toUcs2Loop, decoded, ih]
    simp [nonzero]

theorem utf8ToPdu (iterates : Iterates buf 0 items) (nulFree : (0 : UInt8) ∉ buf) :
    Sms.utf8ToPdu buf true =
      (2 * (items.length : Int), (items.map ucs2Encode).flatMap bigEndian) := by
  have counted : numCodePoints buf true = items.length := iterates.numCodePointsFrom nulFree
  have converted : utf8ToUcs2 items.length buf 0 = (items.map ucs2Encode, buf.length) := by
    rw [utf8ToUcs2]
    split
    · rename_i empty
      have nothing : buf = [] := length_eq_zero_iff.mp (Nat.le_zero.mp empty)
      subst nothing
      cases iterates with
      | done => rfl
      | item before => cases before
    · exact iterates.toUcs2Loop nulFree
  simp [Sms.utf8ToPdu, counted, converted]

end Iterates

theorem toNat_octet {value : Nat} (small : value < 256) : (UInt8.ofNat value).toNat = value := by
  rw [UInt8.toNat_ofNat']
  exact Nat.mod_eq_of_lt small

variable (offset buflen value : Nat)

theorem decodeLoop_tail (byte : Nat) (rest : List UInt8) {state codep low high next : Nat}
    (owed : tailOf state = some ⟨low, high, next⟩) (small : codep < 0x4400) (octet : byte < 256)
    (above : low ≤ byte) (below : byte ≤ high) :
    decodeLoop offset buflen (UInt8.ofNat byte :: rest) state codep =
      if next = UTF8_ACCEPT then
        (toSigned 32 (codep * 64 + byte % 64 : Nat), buflen - rest.length)
      else decodeLoop offset buflen rest next (codep * 64 + byte % 64) := by
  rw [decodeLoop, decode_tail owed (octet_lt _) small, toNat_octet octet]
  simp only [if_pos (And.intro above below)]
  rcases tailOf_next owed with complete | ⟨refused, _⟩
  · rw [if_pos complete, if_pos complete]
  · rw [if_neg refused]

variable (rest : List UInt8)

theorem decodeLoop_lead {byte state codep : Nat} {tail : Tail} (octet : byte < 256)
    (lead : leadOf byte = (state, codep)) (owed : tailOf state = some tail) :
    decodeLoop offset buflen (UInt8.ofNat byte :: rest) UTF8_ACCEPT 0 =
      decodeLoop offset buflen rest state codep := by
  obtain ⟨moves, brings⟩ := decode_lead octet
  rw [lead] at moves brings
  rw [decodeLoop, toNat_octet octet]
  simp only [moves, brings (tailOf_open owed).2]
  rw [if_neg (tailOf_open owed).1, if_neg (tailOf_open owed).2]

theorem decodeLoop_one (small : value ≤ 0x7f) :
    decodeLoop offset buflen (UInt8.ofNat value :: rest) UTF8_ACCEPT 0 =
      ((value : Int), buflen - rest.length) := by
  have lead : leadOf value = (UTF8_ACCEPT, value) := if_pos (Nat.lt_succ_of_le small)
  obtain ⟨moves, brings⟩ := @decode_lead value (by omega)
  rw [lead] at moves brings
  rw [decodeLoop, toNat_octet (by omega)]
  simp only [moves, brings (Ne.symm Nat.one_ne_zero)]
  rw [if_pos trivial, toSigned_codep (by omega)]

theorem decodeLoop_last (unicode : value < 0x110000) :
    decodeLoop offset buflen (UInt8.ofNat (value % 64 + 0x80) :: rest) 2 (value / 64) =
      ((value : Int), buflen - rest.length) := by
  have joined : value / 64 * 64 + (value % 64 + 0x80) % 64 = value := by omega
  have owed : tailOf 2 = some ⟨0x80, 0xbf, 0⟩ := rfl
  rw [decodeLoop_tail offset buflen _ rest owed (by omega) (by omega) (by omega) (by omega),
    if_pos (show 0 = UTF8_ACCEPT from rfl), joined, toSigned_codep unicode]

theorem decodeLoop_lastTwo (unicode : value < 0x110000) {state low high : Nat}
    (owed : tailOf state = some ⟨low, high, 2⟩) (above : low ≤ value / 64 % 64 + 0x80)
    (below : value / 64 % 64 + 0x80 ≤ high) :
    decodeLoop offset buflen
        (UInt8.ofNat (value / 64 % 64 + 0x80) :: UInt8.ofNat (value % 64 + 0x80) :: rest)
        state (value / 4096) = ((value : Int), buflen - rest.length) := by
  have joined : value / 4096 * 64 + (value / 64 % 64 + 0x80) % 64 = value / 64 := by omega
  rw [decodeLoop_tail offset buflen _ _ owed (by omega) (by omega) above below,
    if_neg (by decide), joined]
  exact decodeLoop_last offset buflen value rest unicode

theorem decodeLoop_lastThree (unicode : value < 0x110000) {state low high : Nat}
    (owed : tailOf state = some ⟨low, high, 3⟩) (above : low ≤ value / 4096 % 64 + 0x80)
    (below : value / 4096 % 64 + 0x80 ≤ high) :
    decodeLoop offset buflen
        (UInt8.ofNat (value / 4096 % 64 + 0x80) :: UInt8.ofNat (value / 64 % 64 + 0x80) ::
          UInt8.ofNat (value % 64 + 0x80) :: rest)
        state (value / 262144) = ((value : Int), buflen - rest.length) := by
  have joined : value / 262144 * 64 + (value / 4096 % 64 + 0x80) % 64 = value / 4096 := by omega
  rw [decodeLoop_tail offset buflen _ _ owed (by omega) (by omega) above below,
    if_neg (by decide), joined]
  exact decodeLoop_lastTwo offset buflen value rest unicode rfl (by omega) (by omega)

theorem leadOf_three {top : Nat} (small : top < 16) :
    leadOf (top + 0xe0) = (if top = 0 then 4 else if top = 13 then 5 else 3, top) := by
  have table : ((List.range 16).all fun top =>
    decide (leadOf (top + 0xe0) = (if top = 0 then 4 else if top = 13 then 5 else 3, top))) =
      true := by decide
  exact of_decide_eq_true (all_eq_true.mp table top (mem_range.mpr small))

theorem leadOf_four {top : Nat} (small : top < 5) :
    leadOf (top + 0xf0) = (if top = 0 then 6 else if top = 4 then 8 else 7, top) := by
  have table : ((List.range 5).all fun top =>
    decide (leadOf (top + 0xf0) = (if top = 0 then 6 else if top = 4 then 8 else 7, top))) =
      true := by decide
  exact of_decide_eq_true (all_eq_true.mp table top (mem_range.mpr small))

theorem decodeLoop_three (wide : 0x7ff < value) (small : value ≤ 0xffff)
    (scalar : value < 0xd800 ∨ 0xdfff < value) :
    decodeLoop offset buflen
        (UInt8.ofNat (value / 4096 % 0x10 + 0xe0) :: UInt8.ofNat (value / 64 % 0x40 + 0x80) ::
          UInt8.ofNat (value % 0x40 + 0x80) :: rest) UTF8_ACCEPT 0 =
      ((value : Int), buflen - rest.length) := by
  have top : value / 4096 % 0x10 = value / 4096 := by omega
  have lead := leadOf_three (show value / 4096 < 16 by omega)
  have last := @decodeLoop_lastTwo offset buflen value rest (by omega)
  rw [top]
  by_cases first : value / 4096 = 0
  · rw [if_pos first] at lead
    have owed : tailOf 4 = some ⟨0xa0, 0xbf, 2⟩ := rfl
    rw [decodeLoop_lead offset buflen _ (by omega) lead owed]
    exact last owed (by omega) (by omega)
  rw [if_neg first] at lead
  by_cases surrogates : value / 4096 = 13
  · rw [if_pos surrogates] at lead
    have owed : tailOf 5 = some ⟨0x80, 0x9f, 2⟩ := rfl
    rw [decodeLoop_lead offset buflen _ (by omega) lead owed]
    exact last owed (by omega) (by omega)
  · rw [if_neg surrogates] at lead
    have owed : tailOf 3 = some ⟨0x80, 0xbf, 2⟩ := rfl
    rw [decodeLoop_lead offset buflen _ (by omega) lead owed]
    exact last owed (by omega) (by omega)

theorem decodeLoop_four (wide : 0xffff < value) (unicode : value < 0x110000) :
    decodeLoop offset buflen
        (UInt8.ofNat (value / 262144 % 0x08 + 0xf0) :: UInt8.ofNat (value / 4096 % 0x40 + 0x80) ::
          UInt8.ofNat (value / 64 % 0x40 + 0x80) :: UInt8.ofNat (value % 0x40 + 0x80) :: rest)
        UTF8_ACCEPT 0 =
      ((value : Int), buflen - rest.length) := by
  have top : value / 262144 % 0x08 = value / 262144 := by omega
  have lead := leadOf_four (show value / 262144 < 5 by omega)
  have last := @decodeLoop_lastThree offset buflen value rest unicode
  rw [top]
  by_cases first : value / 262144 = 0
  · rw [if_pos first] at lead
    have owed : tailOf 6 = some ⟨0x90, 0xbf, 3⟩ := rfl
    rw [decodeLoop_lead offset buflen _ (by omega) lead owed]
    exact last owed (by omega) (by omega)
  rw [if_neg first] at lead
  by_cases final : value / 262144 = 4
  · rw [if_pos final] at lead
    have owed : tailOf 8 = some ⟨0x80, 0x8f, 3⟩ := rfl
    rw [decodeLoop_lead offset buflen _ (by omega) lead owed]
    exact last owed (by omega) (by omega)
  · rw [if_neg final] at lead
    have owed : tailOf 7 = some ⟨0x80, 0xbf, 3⟩ := rfl
    rw [decodeLoop_lead offset buflen _ (by omega) lead owed]
    exact last owed (by omega) (by omega)

theorem decodeLoop_char (character : Char) (rest : List UInt8) :
    decodeLoop offset buflen (String.utf8EncodeChar character ++ rest) UTF8_ACCEPT 0 =
      ((character.toNat : Int), buflen - rest.length) := by
  have scalar : character.toNat < 0xd800 ∨ 0xdfff < character.toNat ∧ character.toNat < 0x110000 :=
    character.valid
  have same : character.val.toNat = character.toNat := rfl
  simp only [String.utf8EncodeChar, same]
  generalize character.toNat = value at scalar
  have unicode : value < 0x110000 := by omega
  by_cases one : value ≤ 0x7f
  · rw [if_pos one, singleton_append]
    exact decodeLoop_one offset buflen value rest one
  rw [if_neg one]
  by_cases two : value ≤ 0x7ff
  · have lead : leadOf (value / 64 % 0x20 + 0xc0) = (2, value / 64) := by
      have top : value / 64 % 0x20 + 0xc0 - 0xc0 = value / 64 := by omega
      rw [leadOf, if_neg (by omega), if_neg (by omega), if_pos (by omega), top]
    have owed : tailOf 2 = some ⟨0x80, 0xbf, 0⟩ := rfl
    rw [if_pos two, cons_append, singleton_append,
      decodeLoop_lead offset buflen _ (by omega) lead owed]
    exact decodeLoop_last offset buflen value rest unicode
  rw [if_neg two]
  by_cases three : value ≤ 0xffff
  · simp only [if_pos three, cons_append, nil_append]
    exact decodeLoop_three offset buflen value rest (by omega) three (by omega)
  · simp only [if_neg three, cons_append, nil_append]
    exact decodeLoop_four offset buflen value rest (by omega) unicode

def encoded (characters : List Char) : List UInt8 := characters.flatMap String.utf8EncodeChar

def ucs2Of (character : Char) : Nat := if character.toNat ≤ 0xffff then character.toNat else 0xfffd

theorem ucs2Encode_char (character : Char) : ucs2Encode character.toNat = ucs2Of character := by
  have scalar : character.toNat < 0xd800 ∨ 0xdfff < character.toNat ∧ character.toNat < 0x110000 :=
    character.valid
  rw [ucs2Encode, ucs2Of, Int.toNat_natCast]
  split
  · rw [if_pos (by omega)]
  · split
    · rw [if_pos (by omega)]
    · rw [if_neg (by omega)]

theorem Iterates.encoded (before : List UInt8) (characters : List Char) :
    Iterates (before ++ encoded characters) before.length
      (characters.map fun character => (character.toNat : Int)) := by
  induction characters generalizing before with
  | nil =>
    have whole : before ++ Sms.encoded [] = before := append_nil _
    rw [whole]
    exact .done
  | cons character characters ih =>
    have nonempty : 0 < (String.utf8EncodeChar character).length := by
      rw [String.length_utf8EncodeChar]
      exact Char.utf8Size_pos character
    have split : Sms.encoded (character :: characters) =
        String.utf8EncodeChar character ++ Sms.encoded characters := flatMap_cons
    have further := ih (before ++ String.utf8EncodeChar character)
    rw [append_assoc, ← split, length_append] at further
    have inside : before.length < (before ++ Sms.encoded (character :: characters)).length := by
      rw [split, length_append, length_append]
      omega
    refine .item inside ?_ (Nat.lt_add_of_pos_right nonempty) further
    rw [utf8Decode, if_neg (Nat.not_le.mpr inside), drop_left, split, decodeLoop_char]
    congr 1
    rw [length_append, length_append]
    omega

/-- A message is converted as the decoder iterates over it, and the text of a list of
characters to these characters. -/
theorem utf8ToPdu_message (message : List UInt8) (nulFree : (0 : UInt8) ∉ message) :
    (utf8ToPdu message true).1 ≠ -EINVAL ∧
      (∃ items, Iterates message 0 items ∧
        (utf8ToPdu message true).1 = 2 * (items.length : Int)) ∧
      ∀ characters : List Char, (∀ character ∈ characters, character.toNat ≠ 0) →
        message = characters.flatMap String.utf8EncodeChar →
          (utf8ToPdu message true).2 = characters.flatMap fun character =>
            bigEndian (if character.toNat ≤ 0xffff then character.toNat else 0xfffd) := by
  obtain ⟨items, iterates⟩ := Iterates.total message 0 (Nat.zero_le _)
  have converted := iterates.utf8ToPdu nulFree
  refine ⟨?_, ⟨items, iterates, by rw [converted]⟩, ?_⟩
  · rw [converted, EINVAL]
    omega
  · rintro characters - rfl
    have read := (Iterates.encoded [] characters).utf8ToPdu nulFree
    have stored := congrArg Prod.snd read
    refine stored.trans ?_
    rw [map_map, flatMap_map]
    refine flatMap_congr fun character _ => ?_
    rw [Function.comp_apply, ucs2Encode_char, ucs2Of]

/-- A three byte, a one byte, a four byte and a two byte character. -/
theorem utf8ToPdu_message_mixed :
    let message : List UInt8 := [0xe1, 0xb8, 0x88, 0x61, 0xf0, 0x9d, 0x9c, 0x8d, 0xc3, 0x87]
    (0 : UInt8) ∉ message ∧ (utf8ToPdu message true).1 ≠ -EINVAL ∧
      (utf8ToPdu message true).2 = [0x1e, 0x08, 0x00, 0x61, 0xff, 0xfd, 0x00, 0xc7] := by
  have nulFree : (0 : UInt8) ∉
      ([0xe1, 0xb8, 0x88, 0x61, 0xf0, 0x9d, 0x9c, 0x8d, 0xc3, 0x87] : List UInt8) := by decide
  have settled := utf8ToPdu_message _ nulFree
  exact ⟨nulFree, settled.1,
    settled.2.2 [Char.ofNat 0x1e08, 'a', Char.ofNat 0x1d70d, Char.ofNat 0xc7] (by simp) rfl⟩

end Thingsee.Sms
