import Mathlib.Data.List.TakeWhile
import Mathlib.Data.Rat.Floor
import Thingsee.Profiles.Types

/-!
Owns the comparison of values with thresholds in `apps/ts_engine/engine/execute.c`, and for
which values, biases and thresholds it is the comparison of the numbers they stand for.

A union is a record with what each of its members reads, so that a member that was not written
last reads anything. Floating point numbers are the rational numbers they stand for, and the
rounding of a difference is a parameter. A comparison has no result where C does not define
one, and where an assertion of a debug build fails.
-/

namespace Thingsee.Profiles

open List

/-- `enum ts_threshold_t`. -/
inductive ThresholdType where
  | isOneOf
  | isGt
  | isLt
  | isNotIn
  | isAny
  | isInsideGeo
deriving DecidableEq

namespace Thresholds

/-- `struct ts_value` without its array. -/
structure Scalar where
  valuetype : ValueType
  valuedouble : ℚ
  bits16 : BitVec 16
  bits32 : BitVec 32
  valuestring : String
  valuebool : Bool

/-- `struct ts_value`. -/
structure Value extends Scalar where
  items : List Scalar

/-- `conf` of `struct ts_threshold`. Only thresholds for `isInsideGeo` get a function. -/
structure Threshold where
  value : Value
  type : ThresholdType
  checkThreshold : Option (Value → Bool)
  ownFunction : checkThreshold.isSome = true → type = .isInsideGeo

/-- What the comparison reads of the cause: `measurement.interval`, `threshold.relative` and
`sense_bias.value`. -/
structure Cause where
  interval : Int
  relative : Bool
  bias : Value

def isActiveRelativeCause (cause : Cause) : Bool :=
  decide (cause.interval ≠ -1) && cause.relative

inductive IntType where
  | uint16
  | uint32
  | int16
  | int32
deriving DecidableEq

namespace IntType

variable (type : IntType)

def size : Int :=
  match type with
  | uint16 | int16 => 65536
  | uint32 | int32 => 4294967296

def lower : Int :=
  match type with
  | uint16 | uint32 => 0
  | int16 => -32768
  | int32 => -2147483648

def InRange (number : Int) : Prop :=
  type.lower ≤ number ∧ number < type.lower + type.size

instance (number : Int) : Decidable (type.InRange number) := inferInstanceAs (Decidable (_ ∧ _))

def wrap (number : Int) : Int := (number - type.lower) % type.size + type.lower

/-- `value -= bias`. Types below `int` are widened before, so that only `int` overflows. -/
def subtract (value bias : Int) : Option Int :=
  if type = int32 ∧ ¬ type.InRange (value - bias) then none
  else some (type.wrap (value - bias))

/-- A cast of a `double`. It is rounded towards zero, and has to fit then. -/
def cast (number : ℚ) : Option Int :=
  let truncated := if number < 0 then ⌈number⌉ else ⌊number⌋
  if type.InRange truncated then some truncated else none

/-- `valueint16` or `valueint32`, in a variable of the type. -/
def read (scalar : Scalar) : Int :=
  match type with
  | uint16 => scalar.bits16.toNat
  | uint32 => scalar.bits32.toNat
  | int16 => scalar.bits16.toInt
  | int32 => scalar.bits32.toInt

end IntType

def findItem (type : IntType) (value : Int) : List Scalar → Option Bool
  | [] => some false
  | item :: rest =>
    match type.cast item.valuedouble with
    | none => none
    | some number => if value = number then some true else findItem type value rest

/-- The switch of the functions for integers. The other types do not use the limit. -/
def compareInteger (type : IntType) (threshold : Threshold) (value : Int) : Option Bool :=
  match threshold.type with
  | .isOneOf => findItem type value threshold.value.items
  | .isGt => (type.cast threshold.value.valuedouble).map (fun limit => decide (limit < value))
  | .isLt => (type.cast threshold.value.valuedouble).map (fun limit => decide (value < limit))
  | .isNotIn => (findItem type value threshold.value.items).map not
  | .isAny => some true
  | .isInsideGeo => some false

def checkInteger (type : IntType) (threshold : Threshold) (cause : Cause) (val : Scalar) :
    Option Bool :=
  if isActiveRelativeCause cause then
    (type.subtract (type.read val) (type.read cause.bias.toScalar)).bind
      (compareInteger type threshold)
  else compareInteger type threshold (type.read val)

def checkValueuint16Threshold := checkInteger .uint16

def checkValueuint32Threshold := checkInteger .uint32

def checkValueint16Threshold := checkInteger .int16

def checkValueint32Threshold := checkInteger .int32

def checkValuedoubleThreshold (round : ℚ → ℚ) (threshold : Threshold) (cause : Cause)
    (val : Scalar) : Bool :=
  let value :=
    if isActiveRelativeCause cause then round (val.valuedouble - cause.bias.valuedouble)
    else val.valuedouble
  match threshold.type with
  | .isOneOf => threshold.value.items.any (fun item => decide (value = item.valuedouble))
  | .isGt => decide (threshold.value.valuedouble < value)
  | .isLt => decide (value < threshold.value.valuedouble)
  | .isNotIn => !threshold.value.items.any (fun item => decide (value = item.valuedouble))
  | .isAny => true
  | .isInsideGeo => false

def checkValuestringThreshold (threshold : Threshold) (val : Scalar) : Bool :=
  match threshold.type with
  | .isOneOf => threshold.value.items.any (fun item => val.valuestring == item.valuestring)
  | .isGt => val.valuestring != threshold.value.valuestring
  | .isLt => val.valuestring == threshold.value.valuestring
  | .isNotIn => !threshold.value.items.any (fun item => val.valuestring == item.valuestring)
  | .isAny => true
  | .isInsideGeo => false

def checkValueboolThreshold (threshold : Threshold) (val : Scalar) : Bool :=
  let limit := decide (threshold.value.valuedouble ≠ 0)
  match threshold.type with
  | .isOneOf =>
    threshold.value.items.any (fun item => val.valuebool == decide (item.valuedouble ≠ 0))
  | .isGt => val.valuebool && !limit
  | .isLt => !val.valuebool && limit
  | .isNotIn =>
    !threshold.value.items.any (fun item => val.valuebool == decide (item.valuedouble ≠ 0))
  | .isAny => true
  | .isInsideGeo => false

/-- The switch of `check_threshold`, for a value that is not an array. Items are no arrays. -/
def checkScalar (round : ℚ → ℚ) (threshold : Threshold) (cause : Cause) (value : Scalar) :
    Option Bool :=
  match value.valuetype with
  | .double => some (checkValuedoubleThreshold round threshold cause value)
  | .uint16 => checkValueuint16Threshold threshold cause value
  | .uint32 => checkValueuint32Threshold threshold cause value
  | .int16 => checkValueint16Threshold threshold cause value
  | .int32 => checkValueint32Threshold threshold cause value
  | .string => some (checkValuestringThreshold threshold value)
  | .bool => some (checkValueboolThreshold threshold value)
  | .array => none
  | .hexString => none
  | .arrayFirstString => none

/-- The loop of `check_threshold` for `isOneOf`. -/
def anyItem (check : Scalar → Option Bool) : List Scalar → Bool → Option Bool
  | [], ret => some ret
  | item :: rest, ret =>
    if ret then anyItem check rest true else (check item).bind (anyItem check rest)

/-- The loop of `check_threshold` for the other types. -/
def allItems (check : Scalar → Option Bool) : List Scalar → Bool → Option Bool
  | [], ret => some ret
  | item :: rest, ret =>
    if ret then (check item).bind (allItems check rest) else allItems check rest false

/-- `check_threshold`. In a debug build, the first assertion is about the type of the
threshold, and the other one, in both loops, about the type of its value. -/
def checkThreshold (debug : Bool) (round : ℚ → ℚ) (threshold : Threshold) (cause : Cause)
    (value : Value) : Option Bool :=
  match threshold.checkThreshold with
  | some check => some (check value)
  | none =>
    match value.valuetype with
    | .array =>
      if debug ∧ threshold.type ≠ .isOneOf ∧ threshold.type ≠ .isNotIn then none
      else if debug ∧ threshold.value.valuetype = .array ∧ threshold.value.items ≠ [] then
        none
      else if threshold.type = .isOneOf then
        anyItem (checkScalar round threshold cause) threshold.value.items false
      else allItems (checkScalar round threshold cause) threshold.value.items true
    | _ => checkScalar round threshold cause value.toScalar

def intTypeOf : ValueType → Option IntType
  | .uint16 => some .uint16
  | .uint32 => some .uint32
  | .int16 => some .int16
  | .int32 => some .int32
  | _ => none

def Scalar.number (scalar : Scalar) : Option ℚ :=
  match scalar.valuetype with
  | .double => some scalar.valuedouble
  | valuetype => (intTypeOf valuetype).map (fun type => (type.read scalar : ℚ))

def difference (type : IntType) (cause : Cause) (value : Value) : Int :=
  if isActiveRelativeCause cause then type.read value.toScalar - type.read cause.bias.toScalar
  else type.read value.toScalar

/-- The limit and the items of a threshold are integers. Items are in an array. -/
structure Threshold.Means (threshold : Threshold) (limit : Int) (items : List Int) : Prop where
  limits : threshold.type = .isGt ∨ threshold.type = .isLt → threshold.value.valuedouble = limit
  listed : threshold.type = .isOneOf ∨ threshold.type = .isNotIn →
    threshold.value.valuetype = .array ∧
      threshold.value.items.map Scalar.valuedouble = items.map Int.cast ∧
      ∀ item ∈ threshold.value.items, item.valuetype = .double

def comparison (type : ThresholdType) (number limit : Int) (items : List Int) : Bool :=
  match type with
  | .isOneOf => decide (number ∈ items)
  | .isGt => decide (limit < number)
  | .isLt => decide (number < limit)
  | .isNotIn => decide (number ∉ items)
  | .isAny => true
  | .isInsideGeo => false

def shares (value : Value) (items : List Int) : Bool :=
  value.items.any (fun element => items.any (fun item => element.number == some (item : ℚ)))

/-- What a threshold says about an integer or an array. -/
def truth (threshold : Threshold) (cause : Cause) (value : Value) (limit : Int)
    (items : List Int) : Bool :=
  match intTypeOf value.valuetype with
  | some type => comparison threshold.type (difference type cause value) limit items
  | none => if threshold.type = .isNotIn then !shares value items else shares value items

/-- The limit fits the type, and the difference fits it too, or is not taken across the limit
when it is wrapped around. `strict` is for `isLt`. -/
def LimitHarmless (type : IntType) (number limit : Int) (strict : Bool) : Prop :=
  type.InRange limit ∧
    (type.InRange number ∨
      type ≠ .int32 ∧
        (type.lower + type.size ≤ number ∧
            (limit < number - type.size ∨ strict ∧ limit = number - type.size) ∨
          number < type.lower ∧
            (number + type.size < limit ∨ ¬ strict ∧ limit = number + type.size)))

/-- The difference is one of the items, and one with the same bits stands before those that do
not fit the type; or all items fit it, and none has the same bits. -/
def ItemsHarmless (type : IntType) (number : Int) (items : List Int) : Prop :=
  (type.InRange number ∨ type ≠ .int32) ∧
    (number ∈ items ∧
        (∃ item ∈ items.takeWhile (fun item => decide (type.InRange item)),
          type.size ∣ item - number) ∨
      number ∉ items ∧ ∀ item ∈ items, type.InRange item ∧ ¬ type.size ∣ item - number)

/-- An item of the threshold, less the bias of a relative cause. -/
def shifted (round : ℚ → ℚ) (cause : Cause) (item : ℚ) : ℚ :=
  if isActiveRelativeCause cause then round (item - cause.bias.valuedouble) else item

/-- What the array of the value holds is what the threshold's own items hold. -/
def ArrayHarmless (debug : Bool) (round : ℚ → ℚ) (cause : Cause) (value : Value)
    (items : List Int) : Prop :=
  items = [] ∨
    debug = false ∧
      ((∃ item ∈ items, ∃ other ∈ items, shifted round cause item = other) ↔
        shares value items = true)

def Harmless (debug : Bool) (round : ℚ → ℚ) (threshold : Threshold) (cause : Cause)
    (value : Value) (limit : Int) (items : List Int) : Prop :=
  match intTypeOf value.valuetype with
  | some type =>
    match threshold.type with
    | .isGt => LimitHarmless type (difference type cause value) limit false
    | .isLt => LimitHarmless type (difference type cause value) limit true
    | _ => ItemsHarmless type (difference type cause value) items
  | none => ArrayHarmless debug round cause value items

/-! ## Wrapped differences -/

namespace IntType

variable {type : IntType} {number : Int}

theorem wrap_of_inRange (inRange : type.InRange number) : type.wrap number = number := by
  unfold InRange at inRange
  unfold wrap
  rw [Int.emod_eq_of_lt (by omega) (by omega)]
  omega

theorem size_pos (type : IntType) : 0 < type.size := by
  cases type <;> decide

theorem wrap_inRange (type : IntType) (number : Int) : type.InRange (type.wrap number) := by
  have positive := type.size_pos
  have lower := Int.emod_nonneg (number - type.lower) (by omega : type.size ≠ 0)
  have upper := Int.emod_lt_of_pos (number - type.lower) positive
  unfold wrap InRange
  omega

theorem wrap_dvd (type : IntType) (number : Int) : type.size ∣ type.wrap number - number := by
  have split := Int.emod_add_mul_ediv (number - type.lower) type.size
  refine ⟨-((number - type.lower) / type.size), ?_⟩
  unfold wrap
  rw [Int.mul_neg]
  omega

theorem eq_wrap_iff {item : Int} (inRange : type.InRange item) :
    type.wrap number = item ↔ type.size ∣ item - number := by
  constructor
  · rintro rfl
    exact type.wrap_dvd number
  · intro divides
    have bounds := type.wrap_inRange number
    have wrapped := type.wrap_dvd number
    have multiple : type.size ∣ item - type.wrap number := by
      have sum := Int.dvd_sub divides wrapped
      rwa [show item - number - (type.wrap number - number) = item - type.wrap number by omega]
        at sum
    have small : item - type.wrap number = 0 := by
      apply Int.eq_zero_of_abs_lt_dvd multiple
      unfold InRange at inRange bounds
      rw [abs_lt]
      omega
    omega

theorem read_inRange (type : IntType) (scalar : Scalar) : type.InRange (type.read scalar) := by
  have bits16 := scalar.bits16.isLt
  have bits32 := scalar.bits32.isLt
  have lower16 := scalar.bits16.le_toInt
  have upper16 := scalar.bits16.toInt_lt
  have lower32 := scalar.bits32.le_toInt
  have upper32 := scalar.bits32.toInt_lt
  unfold InRange
  cases type
  all_goals dsimp only [lower, size, read]
  all_goals omega

theorem cast_intCast (type : IntType) (number : Int) :
    type.cast (number : ℚ) = if type.InRange number then some number else none := by
  unfold cast
  simp

theorem wrap_of_above (above : type.lower + type.size ≤ number)
    (bounded : number < type.lower + 2 * type.size) : type.wrap number = number - type.size := by
  have inRange : type.InRange (number - type.size) := by
    unfold InRange
    omega
  rw [eq_wrap_iff inRange]
  exact ⟨-1, by omega⟩

theorem wrap_of_below (below : number < type.lower) (bounded : type.lower - type.size ≤ number) :
    type.wrap number = number + type.size := by
  have inRange : type.InRange (number + type.size) := by
    unfold InRange
    omega
  rw [eq_wrap_iff inRange]
  exact ⟨1, by omega⟩

end IntType

/-! ## Integers are compared by their bits -/

section Integers

variable {type : IntType} {threshold : Threshold} {cause : Cause} {value : Value}

theorem difference_bounds (type : IntType) (cause : Cause) (value : Value) :
    type.lower - type.size ≤ difference type cause value ∧
      difference type cause value < type.lower + 2 * type.size := by
  have valueRange := type.read_inRange value.toScalar
  have biasRange := type.read_inRange cause.bias.toScalar
  have positive := type.size_pos
  have around : type.lower ≤ 0 ∧ 0 ≤ type.lower + type.size := by
    cases type <;> decide
  unfold IntType.InRange at valueRange biasRange
  unfold difference
  split <;> omega

theorem checkInteger_eq (type : IntType) (threshold : Threshold) (cause : Cause)
    (value : Value) :
    checkInteger type threshold cause value.toScalar =
      if type = .int32 ∧ ¬ type.InRange (difference type cause value) then none
      else compareInteger type threshold (type.wrap (difference type cause value)) := by
  unfold checkInteger difference
  by_cases active : isActiveRelativeCause cause = true
  · rw [if_pos active, if_pos active, IntType.subtract]
    split <;> rfl
  · have inRange := type.read_inRange value.toScalar
    rw [if_neg active, if_neg active, if_neg (fun overflow => overflow.2 inRange),
      IntType.wrap_of_inRange inRange]

theorem wrap_cases {number : Int} (bounds : type.lower - type.size ≤ number ∧
      number < type.lower + 2 * type.size) :
    (type.InRange number ∧ type.wrap number = number) ∨
      (type.lower + type.size ≤ number ∧ type.wrap number = number - type.size) ∨
      (number < type.lower ∧ type.wrap number = number + type.size) := by
  by_cases below : number < type.lower
  · exact Or.inr (Or.inr ⟨below, IntType.wrap_of_below below bounds.1⟩)
  · by_cases above : type.lower + type.size ≤ number
    · exact Or.inr (Or.inl ⟨above, IntType.wrap_of_above above bounds.2⟩)
    · have inRange : type.InRange number := by
        unfold IntType.InRange
        omega
      exact Or.inl ⟨inRange, IntType.wrap_of_inRange inRange⟩

/-- `strict` tells the two comparisons with a limit apart. -/
def compareLimit (strict : Bool) (number limit : Int) : Bool :=
  if strict then decide (number < limit) else decide (limit < number)

theorem compareLimit_iff {number limit : Int} (strict : Bool)
    (bounds : type.lower - type.size ≤ number ∧ number < type.lower + 2 * type.size) :
    (if type = .int32 ∧ ¬ type.InRange number then none
      else (type.cast (limit : ℚ)).map (compareLimit strict (type.wrap number))) =
        some (compareLimit strict number limit) ↔
      LimitHarmless type number limit strict := by
  rw [IntType.cast_intCast]
  unfold LimitHarmless
  by_cases limited : type.InRange limit
  · rw [if_pos limited]
    by_cases overflow : type = .int32 ∧ ¬ type.InRange number
    · rw [if_pos overflow]
      have signed := overflow.1
      have outside := overflow.2
      simp [signed ▸ outside, signed]
    · rw [if_neg overflow]
      have positive := type.size_pos
      have limits := limited
      unfold IntType.InRange at limits
      rcases wrap_cases bounds with ⟨inRange, wrapped⟩ | ⟨above, wrapped⟩ | ⟨below, wrapped⟩
      · simp [wrapped, inRange, limited]
      all_goals
        have outside : ¬ type.InRange number := by
          unfold IntType.InRange
          omega
        have narrow : type ≠ .int32 := fun signed => overflow ⟨signed, outside⟩
        cases strict <;> simp [wrapped, outside, limited, narrow, compareLimit] <;> omega
  · rw [if_neg limited]
    simp [limited]

variable {scalars : List Scalar} {items : List Int}

theorem findItem_eq_true_iff (number : Int)
    (same : scalars.map Scalar.valuedouble = items.map Int.cast) :
    findItem type number scalars = some true ↔
      number ∈ items.takeWhile (fun item => decide (type.InRange item)) := by
  induction scalars generalizing items with
  | nil =>
    obtain rfl : items = [] := by simpa using same.symm
    simp [findItem]
  | cons scalar scalars ih =>
    cases items with
    | nil => simp at same
    | cons item items =>
      rw [map_cons, map_cons, List.cons.injEq] at same
      rw [findItem, same.1, IntType.cast_intCast]
      by_cases inRange : type.InRange item
      · rw [if_pos inRange]
        by_cases found : number = item
        · simp [found, inRange]
        · simp [found, inRange, ih same.2]
      · simp [inRange]

theorem findItem_eq_false_iff (number : Int)
    (same : scalars.map Scalar.valuedouble = items.map Int.cast) :
    findItem type number scalars = some false ↔
      ∀ item ∈ items, type.InRange item ∧ number ≠ item := by
  induction scalars generalizing items with
  | nil =>
    obtain rfl : items = [] := by simpa using same.symm
    simp [findItem]
  | cons scalar scalars ih =>
    cases items with
    | nil => simp at same
    | cons item items =>
      rw [map_cons, map_cons, List.cons.injEq] at same
      rw [findItem, same.1, IntType.cast_intCast, forall_mem_cons]
      by_cases inRange : type.InRange item
      · rw [if_pos inRange]
        by_cases found : number = item
        · simp [found]
        · simp [found, inRange, ih same.2]
      · simp [inRange]

theorem findItem_iff (type : IntType) (number : Int)
    (same : scalars.map Scalar.valuedouble = items.map Int.cast) :
    (if type = .int32 ∧ ¬ type.InRange number then none
      else findItem type (type.wrap number) scalars) = some (decide (number ∈ items)) ↔
      ItemsHarmless type number items := by
  unfold ItemsHarmless
  by_cases overflow : type = .int32 ∧ ¬ type.InRange number
  · have neither : ¬ (type.InRange number ∨ type ≠ .int32) := by tauto
    simp [if_pos overflow, neither]
  · have either : type.InRange number ∨ type ≠ .int32 := by tauto
    rw [if_neg overflow]
    by_cases member : number ∈ items
    · simp only [member, either, decide_true, not_true_eq_false, false_and, or_false, true_and]
      rw [findItem_eq_true_iff _ same]
      constructor
      · intro listed
        exact ⟨type.wrap number, listed, type.wrap_dvd number⟩
      · rintro ⟨item, listed, divides⟩
        have inRange : type.InRange item := by
          simpa using mem_takeWhile_imp listed
        rwa [(IntType.eq_wrap_iff inRange).mpr divides]
    · simp only [member, either, decide_false, not_false_eq_true, false_and, false_or, true_and]
      rw [findItem_eq_false_iff _ same]
      apply forall₂_congr
      intro item listed
      apply and_congr_right
      intro inRange
      rw [Ne, IntType.eq_wrap_iff inRange]

theorem checkInteger_right_iff {limit : Int}
    (kind : threshold.type = .isOneOf ∨ threshold.type = .isGt ∨ threshold.type = .isLt ∨
      threshold.type = .isNotIn)
    (means : threshold.Means limit items) :
    checkInteger type threshold cause value.toScalar =
        some (comparison threshold.type (difference type cause value) limit items) ↔
      match threshold.type with
      | .isGt => LimitHarmless type (difference type cause value) limit false
      | .isLt => LimitHarmless type (difference type cause value) limit true
      | _ => ItemsHarmless type (difference type cause value) items := by
  have bounds := difference_bounds type cause value
  rw [checkInteger_eq]
  rcases kind with isOneOf | isGt | isLt | isNotIn
  · simp only [compareInteger, comparison, isOneOf]
    exact findItem_iff _ _ (means.listed (Or.inl isOneOf)).2.1
  · simp only [compareInteger, comparison, isGt, means.limits (Or.inl isGt)]
    exact compareLimit_iff false bounds
  · simp only [compareInteger, comparison, isLt, means.limits (Or.inr isLt)]
    exact compareLimit_iff true bounds
  · have listed := findItem_iff type (difference type cause value)
      (means.listed (Or.inr isNotIn)).2.1
    simp only [compareInteger, comparison, isNotIn]
    rw [← listed]
    split
    · simp
    · rw [decide_not, Option.map_eq_some_iff]
      simp

end Integers

/-! ## Arrays are not looked at -/

section Arrays

variable {threshold : Threshold} {cause : Cause} {value : Value} {items : List Int}
  {check : Scalar → Option Bool} (round : ℚ → ℚ)

section

variable {result : Scalar → Bool} {scalars : List Scalar}
  (checks : ∀ scalar ∈ scalars, check scalar = some (result scalar)) (ret : Bool)
include checks

theorem anyItem_eq : anyItem check scalars ret = some (ret || scalars.any result) := by
  induction scalars generalizing ret with
  | nil => simp [anyItem]
  | cons scalar scalars ih =>
    rw [forall_mem_cons] at checks
    cases ret with
    | false => simp [anyItem, checks.1, ih checks.2]
    | true => simp [anyItem, ih checks.2]

theorem allItems_eq : allItems check scalars ret = some (ret && scalars.all result) := by
  induction scalars generalizing ret with
  | nil => simp [allItems]
  | cons scalar scalars ih =>
    rw [forall_mem_cons] at checks
    cases ret with
    | false => simp [allItems, ih checks.2]
    | true => simp [allItems, checks.1, ih checks.2]

end

/-- An item of the threshold, as a value of its own, is one of its items. -/
def listsShifted (round : ℚ → ℚ) (threshold : Threshold) (cause : Cause) (scalar : Scalar) : Bool :=
  threshold.value.items.any
    (fun item => decide (shifted round cause scalar.valuedouble = item.valuedouble))

theorem checkScalar_double {scalar : Scalar} (double : scalar.valuetype = .double) :
    (threshold.type = .isOneOf →
      checkScalar round threshold cause scalar =
        some (listsShifted round threshold cause scalar)) ∧
    (threshold.type = .isNotIn →
      checkScalar round threshold cause scalar =
        some (!listsShifted round threshold cause scalar)) := by
  constructor
  all_goals
    intro kind
    simp only [checkScalar, double, checkValuedoubleThreshold, kind]
    rfl

theorem any_listsShifted_iff (cause : Cause)
    (same : threshold.value.items.map Scalar.valuedouble = items.map Int.cast) :
    threshold.value.items.any (listsShifted round threshold cause) = true ↔
      ∃ item ∈ items, ∃ other ∈ items, shifted round cause item = other := by
  have member : ∀ number : ℚ, (∃ item ∈ threshold.value.items, item.valuedouble = number) ↔
      ∃ item ∈ items, (item : ℚ) = number := by
    intro number
    rw [← mem_map, same, mem_map]
  have lists : ∀ number : ℚ,
      (∃ item ∈ threshold.value.items, shifted round cause number = item.valuedouble) ↔
        ∃ item ∈ items, shifted round cause number = item := by
    intro number
    simpa only [eq_comm] using member (shifted round cause number)
  rw [any_eq_true]
  simp only [listsShifted, any_eq_true, decide_eq_true_eq, lists]
  constructor
  · rintro ⟨scalar, listed, found⟩
    obtain ⟨item, itemListed, equal⟩ := (member scalar.valuedouble).mp ⟨scalar, listed, rfl⟩
    rw [← equal] at found
    exact ⟨item, itemListed, found⟩
  · rintro ⟨item, listed, found⟩
    obtain ⟨scalar, scalarListed, equal⟩ := (member item).mpr ⟨item, listed, rfl⟩
    rw [← equal] at found
    exact ⟨scalar, scalarListed, found⟩

theorem checkThreshold_array (debug : Bool) (round : ℚ → ℚ) {limit : Int}
    (array : value.valuetype = .array)
    (kind : threshold.type = .isOneOf ∨ threshold.type = .isNotIn)
    (means : threshold.Means limit items) :
    checkThreshold debug round threshold cause value =
      if debug = true ∧ items ≠ [] then none
      else
        some (if threshold.type = .isNotIn then
            !threshold.value.items.any (listsShifted round threshold cause)
          else threshold.value.items.any (listsShifted round threshold cause)) := by
  obtain ⟨listType, same, doubles⟩ := means.listed kind
  have ordinary : threshold.checkThreshold = none := by
    by_contra own
    have geofence := threshold.ownFunction (Option.isSome_iff_ne_none.mpr own)
    rcases kind with kind | kind <;> rw [kind] at geofence <;> nomatch geofence
  have empty : threshold.value.items = [] ↔ items = [] := by
    have lengths := congrArg List.length same
    rw [length_map, length_map] at lengths
    rw [← length_eq_zero_iff, lengths, length_eq_zero_iff]
  have allowed : ¬ (debug = true ∧ threshold.type ≠ .isOneOf ∧ threshold.type ≠ .isNotIn) := by
    tauto
  simp only [checkThreshold, ordinary, array, if_neg allowed, listType, true_and, Ne, empty]
  split
  · rfl
  · rcases kind with isOneOf | isNotIn
    · rw [if_pos isOneOf, anyItem_eq (fun scalar listed =>
      (checkScalar_double round (doubles scalar listed)).1 isOneOf)]
      simp [isOneOf]
    · have other : threshold.type ≠ .isOneOf := by
        rw [isNotIn]
        decide
      rw [if_neg other, allItems_eq (fun scalar listed =>
        (checkScalar_double round (doubles scalar listed)).2 isNotIn), if_pos isNotIn,
        not_any_eq_all_not, Bool.true_and]

theorem checkArray_right_iff (debug : Bool) (round : ℚ → ℚ) {limit : Int}
    (array : value.valuetype = .array)
    (kind : threshold.type = .isOneOf ∨ threshold.type = .isNotIn)
    (means : threshold.Means limit items) :
    checkThreshold debug round threshold cause value =
        some (if threshold.type = .isNotIn then !shares value items else shares value items) ↔
      ArrayHarmless debug round cause value items := by
  have found := any_listsShifted_iff round cause (means.listed kind).2.1
  rw [checkThreshold_array debug round array kind means]
  unfold ArrayHarmless
  rw [← found]
  by_cases empty : items = []
  · have noItems : threshold.value.items = [] := by
      simpa [empty] using (means.listed kind).2.1
    have nothingShared : shares value items = false := by
      rw [shares, any_eq_false, empty]
      simp
    rw [nothingShared, noItems]
    simp [empty]
  · cases debug with
    | true => simp [empty]
    | false =>
      simp only [empty, Bool.false_eq_true, false_and, if_false, false_or, true_and,
        Option.some.injEq, Bool.coe_iff_coe]
      split <;> simp

end Arrays

/-! ## Right results -/

/-- The values and thresholds that are compared as numbers. -/
def Compared (threshold : Threshold) (value : Value) : Prop :=
  ((intTypeOf value.valuetype).isSome = true ∧
      (threshold.type = .isOneOf ∨ threshold.type = .isGt ∨ threshold.type = .isLt ∨
        threshold.type = .isNotIn)) ∨
    (value.valuetype = .array ∧ (threshold.type = .isOneOf ∨ threshold.type = .isNotIn))

theorem checkThreshold_integer (debug : Bool) (round : ℚ → ℚ) {threshold : Threshold}
    (cause : Cause) {value : Value} {type : IntType}
    (integer : intTypeOf value.valuetype = some type) (ordinary : threshold.checkThreshold = none) :
    checkThreshold debug round threshold cause value =
      checkInteger type threshold cause value.toScalar := by
  cases valuetype : value.valuetype
  all_goals
    rw [valuetype] at integer
  case uint16 | uint32 | int16 | int32 =>
    cases integer
    simp only [checkThreshold, ordinary, valuetype, checkScalar]
    rfl
  all_goals nomatch integer

/-- A comparison is right exactly when it is harmless: the numbers fit the type or happen not
to be mistaken for others, and an array happens to have what the threshold's own items have. -/
theorem checkThreshold_right_iff (debug : Bool) (round : ℚ → ℚ) (threshold : Threshold)
    (cause : Cause) (value : Value) (limit : Int) (items : List Int)
    (compared : Compared threshold value) (means : threshold.Means limit items) :
    checkThreshold debug round threshold cause value =
        some (truth threshold cause value limit items) ↔
      Harmless debug round threshold cause value limit items := by
  rcases compared with ⟨integer, kind⟩ | ⟨array, kind⟩
  · obtain ⟨type, integer⟩ := Option.isSome_iff_exists.mp integer
    have ordinary : threshold.checkThreshold = none := by
      by_contra own
      have geofence := threshold.ownFunction (Option.isSome_iff_ne_none.mpr own)
      rcases kind with kind | kind | kind | kind <;> rw [kind] at geofence <;> nomatch geofence
    rw [checkThreshold_integer debug round cause integer ordinary]
    simp only [truth, Harmless, integer]
    exact checkInteger_right_iff kind means
  · have noInteger : intTypeOf value.valuetype = none := by
      rw [array]
      rfl
    simp only [truth, Harmless, noInteger]
    exact checkArray_right_iff debug round array kind means

/-- A value of one type, with zeros elsewhere. -/
def plain (valuetype : ValueType) (number : Int) : Scalar where
  valuetype := valuetype
  valuedouble := if valuetype = .double then number else 0
  bits16 := BitVec.ofInt 16 number
  bits32 := BitVec.ofInt 32 number
  valuestring := ""
  valuebool := false

def limitThreshold (type : ThresholdType) (limit : Int) : Threshold where
  value := { plain .double limit with items := [] }
  type := type
  checkThreshold := none
  ownFunction := by simp

def listThreshold (type : ThresholdType) (items : List Int) : Threshold where
  value := { plain .array 0 with items := items.map (plain .double) }
  type := type
  checkThreshold := none
  ownFunction := by simp

/-- A cause that is measured every second, with a bias. -/
def relativeCause (valuetype : ValueType) (bias : Int) : Cause where
  interval := 1000
  relative := true
  bias := { plain valuetype bias with items := [] }

theorem limitThreshold_means {type : ThresholdType} (limit : Int)
    (kind : type = .isGt ∨ type = .isLt) : (limitThreshold type limit).Means limit [] where
  limits _ := by simp [limitThreshold, plain]
  listed other := by
    rcases kind with rfl | rfl <;> simp [limitThreshold] at other

theorem listThreshold_means {type : ThresholdType} (items : List Int)
    (kind : type = .isOneOf ∨ type = .isNotIn) : (listThreshold type items).Means 0 items where
  limits other := by
    rcases kind with rfl | rfl <;> simp [listThreshold] at other
  listed _ := by
    refine ⟨rfl, ?_, ?_⟩
    · simp [listThreshold, plain, Function.comp_def]
    · simp [listThreshold, plain]

/-- -3 less 9 is less than -10. -/
theorem checkThreshold_right_iff_negative :
    checkThreshold true id (limitThreshold .isLt (-10)) (relativeCause .int16 9)
      { plain .int16 (-3) with items := [] } = some true := by
  have iff := checkThreshold_right_iff true id (limitThreshold .isLt (-10))
    (relativeCause .int16 9) { plain .int16 (-3) with items := [] } (-10) []
    (Or.inl ⟨rfl, Or.inr (Or.inr (Or.inl rfl))⟩) (limitThreshold_means (-10) (Or.inr rfl))
  exact iff.mpr ⟨by decide, Or.inl (by decide)⟩

/-- 5 less 10 is not more than 1, but 65531 is. And an array of three zeros has no 6, but the
items of the threshold have. -/
theorem checkThreshold_wrong :
    (limitThreshold .isGt 1).Means 1 [] ∧
    checkThreshold false id (limitThreshold .isGt 1) (relativeCause .uint16 10)
      { plain .uint16 5 with items := [] } = some true ∧
    truth (limitThreshold .isGt 1) (relativeCause .uint16 10)
      { plain .uint16 5 with items := [] } 1 [] = false ∧
    (listThreshold .isOneOf [6]).Means 0 [6] ∧
    checkThreshold false id (listThreshold .isOneOf [6])
      { relativeCause .array 0 with relative := false }
      { plain .array 0 with items := List.replicate 3 (plain .double 0) } = some true ∧
    truth (listThreshold .isOneOf [6]) { relativeCause .array 0 with relative := false }
      { plain .array 0 with items := List.replicate 3 (plain .double 0) } 0 [6] = false := by
  refine ⟨limitThreshold_means 1 (Or.inl rfl), by decide, by decide,
    listThreshold_means [6] (Or.inl rfl), by decide, by decide⟩

end Thresholds

end Thingsee.Profiles
