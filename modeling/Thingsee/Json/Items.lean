import Mathlib.Data.List.Basic

/-!
Owns the items of a JSON tree and the operations that create and join them, from
`apps/netutils/json/cJSON.c`: which storage a number gets, which encoding a name or a string
gets, and whether the fields that are written fit the memory that was allocated for them.

Addresses are not owned here. The items of a list are in the order of their links, and a
container only says whether its items are packed into one block.
-/

namespace Thingsee.Json

universe u v w

/--
What the code asks of `double`. `isInt` compares with the bounds of `int`, and `render` is the
text of a number that is not an integer.
-/
structure Doubles (D : Type u) where
  ofInt : Int → D
  toInt : D → Int
  toFloat : D → D
  signBit : D → Bool
  isInt : D → Bool
  equal : D → D → Bool
  dblEqual : D → D → Bool
  accumulate : D → Nat → D
  scale : D → Int → D
  copySign : D → Bool → D
  render : D → List UInt8

/-- The values of `int32_t`. -/
def IsInt32 (value : Int) : Prop := -0x80000000 ≤ value ∧ value ≤ 0x7fffffff

instance (value : Int) : Decidable (IsInt32 value) :=
  inferInstanceAs (Decidable (-0x80000000 ≤ value ∧ value ≤ 0x7fffffff))

/-- Arithmetic is exact on integers below two to the power of 53. -/
structure Doubles.Exact {D : Type u} (doubles : Doubles D) : Prop where
  toInt_ofInt : ∀ {value : Int}, IsInt32 value → doubles.toInt (doubles.ofInt value) = value
  equal_ofInt : ∀ {left right : Int}, IsInt32 left → IsInt32 right →
    doubles.equal (doubles.ofInt left) (doubles.ofInt right) = decide (left = right)
  dblEqual_ofInt : ∀ {value : Int}, IsInt32 value →
    doubles.dblEqual (doubles.ofInt value) (doubles.ofInt value) = true
  signBit_ofInt : ∀ {value : Int}, IsInt32 value →
    doubles.signBit (doubles.ofInt value) = decide (value < 0)
  isInt_ofInt : ∀ {value : Int}, IsInt32 value → doubles.isInt (doubles.ofInt value) = true
  accumulate_ofInt : ∀ {value digit : Nat}, digit < 10 → value * 10 + digit < 0x20000000000000 →
    doubles.accumulate (doubles.ofInt value) digit = doubles.ofInt (value * 10 + digit : Nat)
  scale_zero : ∀ {value : Nat}, value < 0x20000000000000 →
    doubles.scale (doubles.ofInt value) 0 = doubles.ofInt value
  equal_zero : ∀ {value : Nat}, value < 0x20000000000000 →
    doubles.equal (doubles.ofInt value) (doubles.ofInt 0) = decide (value = 0)
  copySign_positive : ∀ {value : Nat}, value < 0x20000000000000 →
    doubles.copySign (doubles.ofInt value) false = doubles.ofInt value
  copySign_negative : ∀ {value : Nat}, 0 < value → value < 0x20000000000000 →
    doubles.copySign (doubles.ofInt value) true = doubles.ofInt (-value)
  negativeZero_equal :
    doubles.equal (doubles.copySign (doubles.ofInt 0) true) (doubles.ofInt 0) = true
  negativeZero_signBit : doubles.signBit (doubles.copySign (doubles.ofInt 0) true) = true
  negativeZero_toInt : doubles.toInt (doubles.copySign (doubles.ofInt 0) true) = 0
  negativeZero_toFloat : doubles.toFloat (doubles.copySign (doubles.ofInt 0) true) =
    doubles.copySign (doubles.ofInt 0) true

inductive Number (D : Type u) where
  | int8 (value : Int)
  | int16 (value : Int)
  | int32 (value : Int)
  | float (value : D)
  | double (value : D)
deriving DecidableEq

section Numbers

variable {D : Type u} (doubles : Doubles D)

/-- `cJSON_SetValueNumber` in the storage that `cJSON_CalculateDataNumberFieldSize` chooses. -/
def setValueNumber (num : D) : Number D :=
  if doubles.equal num (doubles.ofInt 0) then
    if doubles.signBit num then .float (doubles.toFloat num) else .int8 (doubles.toInt num)
  else
    let s32 := doubles.toInt num
    if doubles.equal (doubles.ofInt s32) num || doubles.dblEqual num (doubles.ofInt s32) then
      if -128 ≤ s32 ∧ s32 ≤ 127 then .int8 s32
      else if -32768 ≤ s32 ∧ s32 ≤ 32767 then .int16 s32
      else .int32 s32
    else
      let f := doubles.toFloat num
      if doubles.equal f num || doubles.dblEqual num f then .float f else .double num

/-- `cJSON_GetValueInt`. -/
def Number.valueInt : Number D → Int
  | .int8 value | .int16 value | .int32 value => value
  | .float value | .double value => doubles.toInt value

def Number.valueDouble : Number D → D
  | .int8 value | .int16 value | .int32 value => doubles.ofInt value
  | .float value | .double value => value

/-- A number that is stored as an integer, within the range of its storage. -/
def Number.Integer : Number D → Prop
  | .int8 value => -128 ≤ value ∧ value ≤ 127
  | .int16 value => -32768 ≤ value ∧ value ≤ 32767
  | .int32 value => IsInt32 value
  | .float _ | .double _ => False

def Number.fieldSize : Number D → Nat
  | .int8 _ => 1
  | .int16 _ => 2
  | .int32 _ => 4
  | .float _ => 4
  | .double _ => 8

end Numbers

/-- The data of an item that is no container. -/
inductive Value (D : Type u) where
  | null
  | bool (value : Bool)
  | number (stored : Number D)
  | string (text : List UInt8)
  | buffer (bytes : List UInt8)
deriving DecidableEq

inductive Container where
  | array
  | object
deriving DecidableEq

/-- A list of linked items. The items of a container are `packed` into one block or not. -/
inductive Items (V : Type u) where
  | nil
  | leaf (name : List UInt8) (value : V) (rest : Items V)
  | branch (name : List UInt8) (type : Container) (packed : Bool) (children rest : Items V)
deriving DecidableEq

namespace Items

variable {V : Type u} {W : Type v}

def append : Items V → Items V → Items V
  | .nil, last => last
  | .leaf name value rest, last => .leaf name value (rest.append last)
  | .branch name type packed children rest, last =>
    .branch name type packed children (rest.append last)

@[simp] theorem append_nil (items : Items V) : items.append .nil = items := by
  induction items with
  | nil => rfl
  | leaf name value rest ih => rw [append, ih]
  | branch name type packed children rest _ ih =>
    rw [append, ih]

theorem append_assoc (first second third : Items V) :
    (first.append second).append third = first.append (second.append third) := by
  induction first with
  | nil => rfl
  | leaf name value rest ih => simp only [append, ih]
  | branch name type packed children rest _ ih =>
    simp only [append, ih]

/-- What a text says about items: names only count in objects, and storage does not count. -/
def seen (view : V → W) : Container → Items V → Items W
  | _, .nil => .nil
  | parent, .leaf name value rest =>
    .leaf (if parent = .object then name else []) (view value) (rest.seen view parent)
  | parent, .branch name type _ children rest =>
    .branch (if parent = .object then name else []) type false (children.seen view type)
      (rest.seen view parent)

end Items

/-- `cJSON_NameFieldTypeByLength`. -/
inductive NameType where
  | empty
  | short
  | long

/-- The largest value of `uint8_t`. -/
def maxUInt8 : Nat := 255

/-- The largest value of `uint16_t`. -/
def maxUInt16 : Nat := 65535

/-- The size of `cJSON_DataStringShort` without its text. -/
def sizeofStringShort : Nat := 1

/-- The size of `cJSON_DataStringLong` without its text. -/
def sizeofStringLong : Nat := 2

def nameFieldTypeByLength (length : Nat) : NameType :=
  if length = 0 then .empty
  else if length + 1 ≤ maxUInt8 then .short
  else .long

/-- `cJSON_CalculateNameFieldSize`. Both encodings count the header of the short one. -/
def calculateNameFieldSize (name : List UInt8) : Nat :=
  match nameFieldTypeByLength name.length with
  | .empty => 0
  | .short => sizeofStringShort + name.length + 1
  | .long => sizeofStringShort + name.length + 1

/-- How many bytes `cJSON_SetName` fills, and `cJSON_ChangeName` makes room for. -/
def nameFieldLength (name : List UInt8) : Nat :=
  match nameFieldTypeByLength name.length with
  | .empty => 0
  | .short => sizeofStringShort + name.length + 1
  | .long => sizeofStringLong + name.length + 1

/-- `cJSON_CalculateDataStringFieldSize`, and how many bytes `cJSON_SetValueBuffer` fills. -/
def dataStringFieldSize (text : List UInt8) : Nat :=
  if text.length + 1 ≤ maxUInt8 then sizeofStringShort + text.length + 1
  else sizeofStringLong + text.length + 1

def Value.fieldSize {D : Type u} : Value D → Nat
  | .null | .bool _ => 0
  | .number stored => stored.fieldSize
  | .string text => dataStringFieldSize text
  | .buffer bytes => sizeofStringLong + bytes.length

/-- A text fits the length field in front of it with the zero behind it. -/
def textFits (text : List UInt8) : Bool := decide (text.length + 1 ≤ maxUInt16)

def Value.sizeFits {D : Type u} : Value D → Bool
  | .string text => textFits text
  | .buffer bytes => decide (bytes.length ≤ maxUInt16)
  | .null | .bool _ | .number _ => true

section Create

variable {D : Type u}

def sizeofPointer : Nat := 4

/--
`cJSON_CreateNamedNull`, `cJSON_CreateNamedBool`, `cJSON_CreateNamedNumber`,
`cJSON_CreateNamedString` and `cJSON_CreateNamedBuffer`. There is no item if a field is written
beyond what `cJSON_New_Item` allocated, or does not fit its length field.
-/
def createNamed (name : Option (List UInt8)) (value : Value D) : Option (Items (Value D)) :=
  let name := name.getD []
  let fieldsSize := sizeofPointer + value.fieldSize + calculateNameFieldSize name
  let written := sizeofPointer + value.fieldSize + nameFieldLength name
  if written ≤ fieldsSize ∧ textFits name ∧ value.sizeFits then some (.leaf name value .nil)
  else none

/-- `cJSON_CreateArray` and `cJSON_CreateObject`. -/
def createContainer (type : Container) : Items (Value D) := .branch [] type false .nil .nil

/--
`cJSON_SetItemName` of a container: the block is resized for the new name. There is no item if
the name does not fit its length field.
-/
def setItemName (type : Container) (packed : Bool) (children : Items (Value D))
    (name : List UInt8) : Option (Items (Value D)) :=
  if textFits name then some (.branch name type packed children .nil) else none

def createNamedNumber (doubles : Doubles D) (name : Option (List UInt8)) (num : D) :
    Option (Items (Value D)) :=
  createNamed name (.number (setValueNumber doubles num))

/-- A name for which `cJSON_CalculateNameFieldSize` counts enough. -/
def ShortName (name : List UInt8) : Prop := name.length + 1 ≤ maxUInt8

instance (name : List UInt8) : Decidable (ShortName name) :=
  inferInstanceAs (Decidable (_ ≤ _))

theorem nameFieldLength_le_iff (name : List UInt8) :
    nameFieldLength name ≤ calculateNameFieldSize name ↔ ShortName name := by
  by_cases empty : name.length = 0
  · simp [nameFieldLength, calculateNameFieldSize, nameFieldTypeByLength, ShortName,
      maxUInt8, empty]
  · by_cases short : name.length + 1 ≤ maxUInt8
    · simp [nameFieldLength, calculateNameFieldSize, nameFieldTypeByLength, ShortName, empty, short]
    · simp [nameFieldLength, calculateNameFieldSize, nameFieldTypeByLength, ShortName, empty, short,
        sizeofStringLong, sizeofStringShort]

theorem createNamed_eq (name : List UInt8) {value : Value D} (valueFits : value.sizeFits = true) :
    createNamed (some name) value =
      if ShortName name then some (.leaf name value .nil) else none := by
  have written : sizeofPointer + value.fieldSize + nameFieldLength name ≤
      sizeofPointer + value.fieldSize + calculateNameFieldSize name ↔ ShortName name := by
    rw [Nat.add_le_add_iff_left]
    exact nameFieldLength_le_iff name
  by_cases short : ShortName name
  · have fits : textFits name = true := by
      unfold ShortName maxUInt8 at short
      unfold textFits maxUInt16
      exact decide_eq_true (by omega)
    simp only [createNamed, Option.getD_some]
    rw [if_pos ⟨written.mpr short, fits, valueFits⟩, if_pos short]
  · simp only [createNamed, Option.getD_some]
    rw [if_neg fun ⟨enough, _⟩ => short (written.mp enough), if_neg short]

end Create

/-- `cJSON_type`, `cJSON_int`, `cJSON_double` and `cJSON_string` of an item that is no container. -/
inductive Shown (D : Type u) where
  | null
  | bool (value : Bool)
  | number (int : Int) (double : D)
  | string (text : List UInt8)
  | buffer (bytes : List UInt8)

def Value.shown {D : Type u} (doubles : Doubles D) : Value D → Shown D
  | .null => .null
  | .bool value => .bool value
  | .number stored => .number (stored.valueInt doubles) (stored.valueDouble doubles)
  | .string text => .string text
  | .buffer bytes => .buffer bytes

section Integers

variable {D : Type u} {doubles : Doubles D}

theorem Number.Integer.isInt32 {stored : Number D} (integer : stored.Integer) :
    IsInt32 (stored.valueInt doubles) := by
  cases stored with
  | int8 value =>
    have bounds : -128 ≤ value ∧ value ≤ 127 := integer
    show -0x80000000 ≤ value ∧ value ≤ 0x7fffffff
    omega
  | int16 value =>
    have bounds : -32768 ≤ value ∧ value ≤ 32767 := integer
    show -0x80000000 ≤ value ∧ value ≤ 0x7fffffff
    omega
  | int32 value => exact integer
  | float value => cases integer
  | double value => cases integer

theorem Number.Integer.valueDouble_eq {stored : Number D} (integer : stored.Integer) :
    stored.valueDouble doubles = doubles.ofInt (stored.valueInt doubles) := by
  cases stored with
  | int8 value => rfl
  | int16 value => rfl
  | int32 value => rfl
  | float value => cases integer
  | double value => cases integer

theorem setValueNumber_ofInt (arithmetic : doubles.Exact) {value : Int} (fits : IsInt32 value) :
    (Value.number (setValueNumber doubles (doubles.ofInt value))).shown doubles =
      .number value (doubles.ofInt value) := by
  have zeroFits : IsInt32 0 := by decide
  unfold setValueNumber
  rw [arithmetic.equal_ofInt fits zeroFits]
  by_cases zero : value = 0
  · subst zero
    rw [decide_eq_true rfl, if_pos rfl, arithmetic.signBit_ofInt zeroFits, if_neg (by decide)]
    simp [Value.shown, Number.valueInt, Number.valueDouble, arithmetic.toInt_ofInt zeroFits]
  · rw [decide_eq_false zero, if_neg (by decide)]
    simp only [arithmetic.toInt_ofInt fits, arithmetic.equal_ofInt fits fits, decide_true,
      Bool.true_or,
      if_true]
    split
    · rfl
    · split <;> rfl

end Integers

end Thingsee.Json
