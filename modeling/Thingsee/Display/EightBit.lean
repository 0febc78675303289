import Mathlib.Data.List.TakeWhile
import Thingsee.Display.Remainder

/-!
Owns `qr_simple_8bit_convert`: the 44 bytes of a version 2-L symbol for a text of the 8-bit mode.
The data bytes are shifted by four bits in place, and the fillers may reach one byte into the
error correction bytes, which come last.
-/

namespace Thingsee.QrSimple.EightBit

open List

/-- The bytes of the output, by index. -/
abbrev Output := Nat → UInt8

def strlen (data : List UInt8) : Nat := (data.takeWhile (· != 0)).length

/-- `qr_simple_calc_inds`. -/
def calcInds (data : List UInt8) : UInt16 :=
  let res := ((0x0004 : UInt16) &&& 0x0F) <<< 12
  res ||| (UInt16.ofNat (strlen data) &&& 0x0FF) <<< 4

/-- `qr_simple_append_data`, with `output + 2`. -/
def appendData (data : List UInt8) (output : Output) : Output :=
  fun place => if 2 ≤ place ∧ place < 2 + strlen data then data.getD (place - 2) 0 else output place

def shiftBits (output : Output) (bytesNbr : Nat) : Output :=
  (List.range (bytesNbr - 1)).foldl (fun output index =>
    let i := index + 1
    let output := Function.update output i (output i ||| (output (i + 1) >>> 4))
    Function.update output (i + 1) (output (i + 1) <<< 4)) output

def addPadwords (output : Output) (i : Nat) : Output :=
  if i < 34 then
    addPadwords (Function.update (Function.update output i 0xEC) (i + 1) 0x11) (i + 2)
  else output
termination_by 34 - i

/-- `qr_simple_calculate_ecc`, with the static array of the division. -/
def calculateEcc (output : Output) (mult : MultPolynomial) : Output × MultPolynomial :=
  let mult := calculatePolynomial output mult
  (fun place => if 34 ≤ place ∧ place < 44 then getEcc mult (place - 34) else output place, mult)

def divideData (data : List UInt8) (inds : UInt16) (output : Output) (mult : MultPolynomial) :
    Output × MultPolynomial :=
  let output := Function.update output 0 ((inds &&& 0xFF00) >>> 8).toUInt8
  let output := Function.update output 1 (inds &&& 0x00FF).toUInt8
  let bytesNbr := strlen data + 2
  let output := appendData data output
  let output := shiftBits output bytesNbr
  let output := addPadwords output bytesNbr
  calculateEcc output mult

/-- `qr_simple_8bit_convert`. -/
def convert (data : List UInt8) (output : Output) (mult : MultPolynomial) :
    Output × MultPolynomial :=
  divideData data (calcInds data) output mult

def nibbles (byte : UInt8) : List UInt8 := [byte >>> 4, byte &&& 0x0F]

/-- The mode, the length, the bytes and the terminator, four bits each. -/
def stream (data : List UInt8) : List UInt8 :=
  0b0100 :: nibbles (UInt8.ofNat data.length) ++ data.flatMap nibbles ++ [0b0000]

def packed : List UInt8 → List UInt8
  | high :: low :: rest => (high <<< 4 ||| low) :: packed rest
  | _ => []

/-- The 34 data bytes: the stream, and the two fillers in turn. -/
def encoding (data : List UInt8) : Output := block (packed (stream data))

/-- The output is right: its data bytes are the encoding, the other ones their error correction
bytes, and no other text has these data bytes. -/
def Right (data : List UInt8) (output : Output) : Prop :=
  (∀ index < 34, output index = encoding data index) ∧
    IsRemainder output (fun index => output (34 + index)) ∧
    ∀ other mult, other.length ≤ 32 → 0 ∉ other →
      (∀ index < 34, (convert other (fun _ => 0) mult).1 index = output index) → other = data

variable (before : UInt8) {index : Nat}

/-- The byte of the stream behind `before`, whose last four bits begin it. -/
theorem packed_getD (data : List UInt8) (index : Nat) (small : index ≤ data.length) :
    (packed (before :: data.flatMap nibbles ++ [0])).getD index 0 =
      (if index = 0 then before else data.getD (index - 1) 0 &&& 0x0F) <<< 4 |||
        data.getD index 0 >>> 4 := by
  induction data generalizing before index with
  | nil =>
    obtain rfl : index = 0 := by simpa using small
    simp [packed]
  | cons byte data ih =>
    have split : packed (before :: (byte :: data).flatMap nibbles ++ [0]) =
        (before <<< 4 ||| byte >>> 4) :: packed ((byte &&& 0x0F) :: data.flatMap nibbles ++ [0]) :=
      by simp [nibbles, packed]
    rw [split]
    cases index with
    | zero => simp
    | succ index =>
      rw [getD_cons_succ, ih _ index (by simpa using small)]
      cases index with
      | zero => simp
      | succ index => simp

theorem packed_length (data : List UInt8) :
    (packed (before :: data.flatMap nibbles ++ [0])).length = data.length + 1 := by
  induction data generalizing before with
  | nil => simp [packed]
  | cons byte data ih =>
    have split : packed (before :: (byte :: data).flatMap nibbles ++ [0]) =
        (before <<< 4 ||| byte >>> 4) :: packed ((byte &&& 0x0F) :: data.flatMap nibbles ++ [0]) :=
      by simp [nibbles, packed]
    rw [split, length_cons, ih, length_cons]

theorem stream_eq (data : List UInt8) :
    stream data = 4 :: (UInt8.ofNat data.length :: data).flatMap nibbles ++ [0] := by
  simp [stream]

theorem encoding_length (data : List UInt8) :
    (packed (stream data)).length = data.length + 2 := by
  rw [stream_eq, packed_length, length_cons]

variable {data : List UInt8}

/-- The bytes of the encoding with four bits before it and zeros behind it. -/
def laid (data : List UInt8) (index : Nat) : UInt8 :=
  (UInt8.ofNat data.length :: data).getD index 0

theorem encoding_apply (data : List UInt8) (inside : index < data.length + 2) :
    encoding data index =
      (if index = 0 then 4 else laid data (index - 1) &&& 0x0F) <<< 4 ||| laid data
        index >>> 4 := by
  rw [encoding, block, if_pos (by rw [encoding_length]; exact inside), stream_eq,
    packed_getD _ _ _ (by rw [length_cons]; omega)]
  rfl

theorem shift_nibble (byte : UInt8) : (byte &&& 0x0F) <<< 4 = byte <<< 4 := by
  apply UInt8.eq_of_toBitVec_eq
  simp only [UInt8.toBitVec_shiftLeft, UInt8.toBitVec_and]
  generalize byte.toBitVec = bits
  revert bits
  decide

theorem join_nibbles (byte after : UInt8) :
    (before <<< 4 ||| byte >>> 4) <<< 4 ||| ((byte &&& 0x0F) <<< 4 ||| after >>> 4) >>> 4 =
      byte := by
  apply UInt8.eq_of_toBitVec_eq
  ext i inside
  interval_cases i <;> simp [BitVec.getLsbD_of_ge]

/-- The bytes are read back from the data bytes. -/
theorem laid_eq_encoding (inside : index ≤ data.length) :
    laid data index = encoding data index <<< 4 ||| encoding data (index + 1) >>> 4 := by
  rw [encoding_apply data (Nat.lt_add_right 1 (Nat.lt_succ_of_le inside)),
    encoding_apply data (Nat.add_lt_add_right (Nat.lt_succ_of_le inside) 1),
    if_neg (Nat.succ_ne_zero index), Nat.add_sub_cancel, join_nibbles]

theorem encoding_injective {other : List UInt8} (short : data.length ≤ 32)
    (otherShort : other.length ≤ 32)
    (same : ∀ index < 34, encoding other index = encoding data index) : other = data := by
  have length : other.length = data.length := by
    have counts := laid_eq_encoding (Nat.zero_le other.length)
    rw [same 0 (by omega), same 1 (by omega),
      ← laid_eq_encoding (Nat.zero_le data.length)] at counts
    have equal := congrArg UInt8.toNat counts
    simp only [laid, getD_cons_zero, UInt8.toNat_ofNat'] at equal
    omega
  refine ext_getElem length fun index inside otherInside => ?_
  have bytes := laid_eq_encoding (show index + 1 ≤ other.length by omega)
  rw [same (index + 1) (by omega), same (index + 2) (by omega), ← laid_eq_encoding (by omega), laid,
    laid, getD_cons_succ, getD_cons_succ, getD_eq_getElem _ _ inside,
    getD_eq_getElem _ _ otherInside] at bytes
  exact bytes

theorem shiftBits_apply (output : Output) (count place : Nat) :
    shiftBits output (count + 1) place =
      (if 2 ≤ place ∧ place ≤ count + 1 then output place <<< 4 else output place) |||
        (if 1 ≤ place ∧ place ≤ count then output (place + 1) >>> 4 else 0) := by
  rw [shiftBits, Nat.add_sub_cancel]
  induction count generalizing place with
  | zero =>
    rw [if_neg (by omega), if_neg (by omega), UInt8.or_zero]
    rfl
  | succ count ih =>
    rw [range_succ, foldl_append, foldl_cons, foldl_nil]
    rcases Nat.lt_trichotomy place (count + 2) with below | here | above
    · rw [Function.update_of_ne (by omega)]
      by_cases last : place = count + 1
      · subst last
        rw [Function.update_self, ih, ih]
        grind
      · rw [Function.update_of_ne last, ih]
        grind
    · subst here
      rw [Function.update_self, Function.update_of_ne (by omega), ih]
      grind
    · rw [Function.update_of_ne (by omega), Function.update_of_ne (by omega), ih]
      grind

theorem addPadwords_apply (output : Output) (start : Nat) {place : Nat} (inside : place < 34) :
    addPadwords output start place =
      if place < start then output place
      else if (place - start) % 2 = 0 then 0xEC else 0x11 := by
  induction output, start using addPadwords.induct with
  | case1 output start small ih =>
    rw [addPadwords, if_pos small, ih]
    rcases Nat.lt_or_ge place start with below | above
    · rw [if_pos (by omega), if_pos below, Function.update_of_ne (by omega),
        Function.update_of_ne (by omega)]
    rw [if_neg (show ¬place < start by omega)]
    by_cases first : place = start
    · subst first
      rw [if_pos (by omega), Function.update_of_ne (by omega), Function.update_self,
        if_pos (by omega)]
    by_cases second : place = start + 1
    · subst second
      rw [if_pos (by omega), Function.update_self, if_neg (by omega)]
    rw [if_neg (by omega), show (place - start) % 2 = (place - (start + 2)) % 2 by omega]
  | case2 output start large =>
    rw [addPadwords, if_neg large, if_pos (by omega)]

def filled (data : List UInt8) : Output :=
  let inds := calcInds data
  let output : Output := Function.update (fun _ => 0) 0 ((inds &&& 0xFF00) >>> 8).toUInt8
  let output := Function.update output 1 (inds &&& 0x00FF).toUInt8
  addPadwords (shiftBits (appendData data output) (strlen data + 2)) (strlen data + 2)

theorem convert_eq (data : List UInt8) (mult : MultPolynomial) :
    convert data (fun _ => 0) mult = calculateEcc (filled data) mult := rfl

theorem strlen_eq (nonzero : 0 ∉ data) : strlen data = data.length := by
  rw [strlen, takeWhile_eq_self_iff.mpr]
  intro byte member
  rw [bne_iff_ne]
  rintro rfl
  exact nonzero member

theorem header_eq : ∀ length ≤ 32,
    let inds := ((0x0004 : UInt16) &&& 0x0F) <<< 12 ||| (UInt16.ofNat length &&& 0x0FF) <<< 4
    ((inds &&& 0xFF00) >>> 8).toUInt8 = (4 : UInt8) <<< 4 ||| UInt8.ofNat length >>> 4 ∧
      (inds &&& 0x00FF).toUInt8 = UInt8.ofNat length <<< 4 := by
  decide

theorem appendData_apply (nonzero : 0 ∉ data) {output : Output} {place : Nat}
    (zero : output (place + 2) = 0) : appendData data output (place + 2) = data.getD place 0 := by
  rw [appendData, strlen_eq nonzero, Nat.add_sub_cancel]
  by_cases inside : place < data.length
  · rw [if_pos (by omega)]
  · rw [if_neg (by omega), zero, getD_eq_default _ _ (by omega)]

theorem filled_apply (short : data.length ≤ 32) (nonzero : 0 ∉ data) (inside : index < 34) :
    filled data index = encoding data index := by
  obtain ⟨high, low⟩ := header_eq data.length short
  simp only [filled, calcInds, strlen_eq nonzero, high, low]
  rw [addPadwords_apply _ _ inside]
  by_cases before : index < data.length + 2
  · rw [if_pos before, shiftBits_apply, encoding_apply data before]
    match index with
    | 0 => simp [appendData, laid]
    | 1 =>
      rw [if_neg (by omega), if_pos (by omega), appendData_apply nonzero rfl]
      simp [appendData, laid, shift_nibble]
    | place + 2 =>
      rw [if_pos (by omega), if_pos (by omega), appendData_apply nonzero rfl,
        appendData_apply nonzero rfl]
      simp [laid, shift_nibble]
  · rw [if_neg before, encoding, block, encoding_length, if_neg before]

theorem convert_apply (short : data.length ≤ 32) (nonzero : 0 ∉ data) (mult : MultPolynomial) :
    ∀ index < 34, (convert data (fun _ => 0) mult).1 index = encoding data index := by
  intro index inside
  rw [convert_eq]
  exact (if_neg (by omega)).trans (filled_apply short nonzero inside)

theorem isRemainder_convert_iff (short : data.length ≤ 32) (nonzero : 0 ∉ data)
    (mult : MultPolynomial) :
    IsRemainder (convert data (fun _ => 0) mult).1
        (fun index => (convert data (fun _ => 0) mult).1 (34 + index)) ↔
      QuotientHasPowers (encoding data) := by
  have parity : ∀ index < 10, (convert data (fun _ => 0) mult).1 (34 + index) =
      getEcc (calculatePolynomial (filled data) mult) index := by
    intro index small
    rw [convert_eq]
    refine (if_pos (by omega)).trans ?_
    rw [Nat.add_sub_cancel_left]
  have same : ∀ index < 34, (convert data (fun _ => 0) mult).1 index = filled data index := by
    intro index inside
    rw [convert_apply short nonzero mult index inside, filled_apply short nonzero inside]
  rw [isRemainder_congr _ same parity, isRemainder_iff_hasPower, ← quotientHasPowers_iff,
    quotientHasPowers_congr (filled data) fun index inside => filled_apply short nonzero inside]

/-- The data bytes are right for every text of the capacity; the output is right exactly if no
coefficient of the quotient of its data bytes is 0 or 255. -/
theorem convert_right_iff (data : List UInt8) (short : data.length ≤ 32) (nonzero : 0 ∉ data)
    (mult : MultPolynomial) :
    let output := (convert data (fun _ => 0) mult).1
    Right data output ↔ QuotientHasPowers (encoding data) := by
  intro output
  have bytes := convert_apply short nonzero mult
  rw [← isRemainder_convert_iff short nonzero mult]
  constructor
  · exact fun right => right.2.1
  · intro isRemainder
    refine ⟨bytes, isRemainder, fun other otherMult otherShort otherNonzero same => ?_⟩
    refine encoding_injective short otherShort fun index inside => ?_
    rw [← convert_apply otherShort otherNonzero otherMult index inside, ← bytes index inside]
    exact same index inside

/-- The text `thingsee` is encoded right. -/
theorem convert_right_iff_thingsee :
    let text : List UInt8 := [0x74, 0x68, 0x69, 0x6E, 0x67, 0x73, 0x65, 0x65]
    Right text (convert text (fun _ => 0) fun _ => 0).1 := by
  refine (convert_right_iff _ (by decide) (by decide) _).mpr ?_
  rw [quotientHasPowers_iff _ fun _ => 0]
  decide +kernel

/-- The text `thingsee.com`. -/
def thingseeText : List UInt8 :=
  [0x74, 0x68, 0x69, 0x6E, 0x67, 0x73, 0x65, 0x65, 0x2E, 0x63, 0x6F, 0x6D]

theorem convert_thingseeCom :
    ¬Right thingseeText (convert thingseeText (fun _ => 0) fun _ => 0).1 := by
  rintro ⟨_, isRemainder, _⟩
  have data : encoding thingseeText = block thingseeCom :=
    congrArg block (by decide : packed (stream thingseeText) = thingseeCom)
  rw [isRemainder_convert_iff (by decide) (by decide), data,
    quotientHasPowers_iff _ fun _ => 0] at isRemainder
  exact Bool.false_ne_true (thingseeCom_round.symm.trans (isRemainder 12 (by decide)))

end Thingsee.QrSimple.EightBit
