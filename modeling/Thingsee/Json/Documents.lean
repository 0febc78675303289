import Thingsee.Json.Tokens
import Mathlib.Data.List.DropRight

/-!
Owns the documents of the JSON grammar of RFC 7159 as data from which their text is read off, with
all the white space that the grammar allows, and what the parser makes of them:
`run_streamParseValue` says that the items of a document come out if all names of scalars are
short, and that memory is corrupted otherwise.
-/

namespace Thingsee.Json

open Support Support.Scanner List

def isWhite (char : UInt8) : Bool := [32, 9, 10, 13].contains char

structure Space where
  chars : List UInt8
  allowed : chars.all isWhite = true

/-- A value that is no array and no object. -/
inductive Scalar where
  | null
  | bool (value : Bool)
  | string (chars : List StringChar)
  | number (token : NumberToken)

def Scalar.text : Scalar → List UInt8
  | .null => [110, 117, 108, 108]
  | .bool false => [102, 97, 108, 115, 101]
  | .bool true => [116, 114, 117, 101]
  | .string chars => stringText chars
  | .number token => token.text

/-- What stands in front of a value. Only a member of an object has a name and a colon. -/
structure Label where
  before : Space
  name : List StringChar
  between : Space
  start : Space

/-- The elements of an array or the members of an object. An empty container only has a space. -/
inductive Body where
  | nil
  | leaf (label : Label) (value : Scalar) (after : Space) (rest : Body)
  | branch (label : Label) (type : Container) (empty : Space) (children : Body) (after : Space)
      (rest : Body)

/-- `[` and `{`. -/
def Container.opening : Container → UInt8
  | .array => 91
  | .object => 123

/-- `]` and `}`. -/
def Container.closing : Container → UInt8
  | .array => 93
  | .object => 125

def Label.text (label : Label) : Container → List UInt8
  | .array => label.start.chars
  | .object =>
    label.before.chars ++ stringText label.name ++ label.between.chars ++ 58 :: label.start.chars

namespace Body

def comma : Body → List UInt8
  | .nil => []
  | .leaf _ _ _ _ | .branch _ _ _ _ _ _ => [44]

def inside (empty : Space) : Body → List UInt8
  | .nil => empty.chars
  | .leaf _ _ _ _ | .branch _ _ _ _ _ _ => []

/-- The text between the brackets of a container. -/
def text (parent : Container) : Body → List UInt8
  | .nil => []
  | .leaf label value after rest =>
    label.text parent ++ value.text ++ after.chars ++ rest.comma ++ rest.text parent
  | .branch label type empty children after rest =>
    label.text parent ++
      (type.opening :: (children.inside empty ++ children.text type ++ [type.closing])) ++
      after.chars ++ rest.comma ++ rest.text parent

end Body

def containerText (type : Container) (empty : Space) (children : Body) : List UInt8 :=
  type.opening :: (children.inside empty ++ children.text type ++ [type.closing])

namespace Body

variable (label : Label) (value : Scalar) (type : Container) (empty after : Space)
  (inner others : Body) (parent : Container)

theorem text_leaf_append (rest : List UInt8) :
    (leaf label value after others).text parent ++ rest =
      label.text parent ++ (value.text ++ (after.chars ++
        (others.comma ++ (others.text parent ++ rest)))) := by
  simp [text]

theorem text_branch_append (rest : List UInt8) :
    (branch label type empty inner after others).text parent ++ rest =
      label.text parent ++ (containerText type empty inner ++ (after.chars ++
        (others.comma ++ (others.text parent ++ rest)))) := by
  simp [text, containerText]

theorem length_text_leaf : ((leaf label value after others).text parent).length =
    (label.text parent).length + value.text.length + after.chars.length +
      others.comma.length + (others.text parent).length := by
  simp only [text, length_append]

theorem length_text_branch : ((branch label type empty inner after others).text parent).length =
    (label.text parent).length + (containerText type empty inner).length +
      after.chars.length + others.comma.length + (others.text parent).length := by
  simp only [text, containerText, length_append]

end Body

/-- A document is a value between white space. -/
inductive Document where
  | scalar (before : Space) (value : Scalar) (after : Space)
  | container (before : Space) (type : Container) (empty : Space) (children : Body)
      (after : Space)

def Document.text : Document → List UInt8
  | .scalar before value after => before.chars ++ value.text ++ after.chars
  | .container before type empty children after =>
    before.chars ++ containerText type empty children ++ after.chars

section Items

variable {D : Type} (doubles : Doubles D)

def Scalar.parsed : Scalar → Parsed D
  | .null => .null
  | .bool value => .bool value
  | .string chars => .string (contents chars)
  | .number token => .number (token.value doubles)

def Scalar.value : Scalar → Value D
  | .null => .null
  | .bool value => .bool value
  | .string chars => .string (contents chars)
  | .number token => .number (setValueNumber doubles (token.value doubles))

def Label.itemName (label : Label) : Container → List UInt8
  | .array => []
  | .object => contents label.name

def Body.isNil : Body → Bool
  | .nil => true
  | .leaf _ _ _ _ | .branch _ _ _ _ _ _ => false

/-- The items of a body. A container is packed unless it is empty. -/
def Body.items (parent : Container) : Body → Items (Value D)
  | .nil => .nil
  | .leaf label value _ rest =>
    .leaf (label.itemName parent) (value.value doubles) (rest.items parent)
  | .branch label type _ children _ rest =>
    .branch (label.itemName parent) type (!children.isNil) (children.items type)
      (rest.items parent)

def Document.items : Document → Items (Value D)
  | .scalar _ value _ => .leaf [] (value.value doubles) .nil
  | .container _ type _ children _ =>
    .branch [] type (!children.isNil) (children.items doubles type) .nil

end Items

/-- A string is not longer than its length field of 16 bits allows. -/
def Scalar.Fits : Scalar → Prop
  | .string chars => (contents chars).length ≤ 65534
  | .null | .bool _ | .number _ => True

def Scalar.Grammatical : Scalar → Prop
  | .number token => token.zeros = 0
  | .null | .bool _ | .string _ => True

instance (value : Scalar) : Decidable value.Grammatical :=
  match value with
  | .number token => inferInstanceAs (Decidable (token.zeros = 0))
  | .null | .bool _ | .string _ => isTrue trivial

namespace Body

/-- All names and strings fit their length fields. -/
def Fits (parent : Container) : Body → Prop
  | .nil => True
  | .leaf label value _ rest =>
    (label.itemName parent).length ≤ 65534 ∧ value.Fits ∧ rest.Fits parent
  | .branch label type _ children _ rest =>
    (label.itemName parent).length ≤ 65534 ∧ children.Fits type ∧ rest.Fits parent

/-- All numbers are numbers of the grammar. -/
def Grammatical : Body → Prop
  | .nil => True
  | .leaf _ value _ rest => value.Grammatical ∧ rest.Grammatical
  | .branch _ _ _ children _ rest => children.Grammatical ∧ rest.Grammatical

/-- The members of objects that are scalars have short names. -/
def ShortNames (parent : Container) : Body → Prop
  | .nil => True
  | .leaf label _ _ rest => ShortName (label.itemName parent) ∧ rest.ShortNames parent
  | .branch _ type _ children _ rest => children.ShortNames type ∧ rest.ShortNames parent

instance decidableShortNames (parent : Container) :
    (body : Body) → Decidable (body.ShortNames parent)
  | .nil => isTrue trivial
  | .leaf _ _ _ rest =>
    have := decidableShortNames parent rest
    inferInstanceAs (Decidable (_ ∧ _))
  | .branch _ type _ children _ rest =>
    have := decidableShortNames type children
    have := decidableShortNames parent rest
    inferInstanceAs (Decidable (_ ∧ _))

end Body

/-! ## White space -/

theorem Space.dropWhile_append (space : Space) (rest : List UInt8) :
    (space.chars ++ rest).dropWhile isSkipped = rest.dropWhile isSkipped := by
  have each : ∀ char, isWhite char = true → isSkipped char = true := by
    apply forall_octet
    decide +kernel
  exact dropWhile_append_of_pos fun char member =>
    each char (all_eq_true.mp space.allowed char member)

theorem dropWhile_of_head {rest : List UInt8} (head : isSkipped (rest.headD 0) = false) :
    rest.dropWhile isSkipped = rest := by
  cases rest with
  | nil => rfl
  | cons char rest =>
    rw [headD_cons] at head
    exact dropWhile_cons_of_neg (by simp [head])

theorem run_skip_bind {α : Type} (after : Unit → Parser α) (rest : List UInt8) :
    (skip >>= after).run rest = (after ()).run (rest.dropWhile isSkipped) := rfl

structure StartsValue (char : UInt8) : Prop where
  skipped : isSkipped char = false
  array : char ≠ 93
  object : char ≠ 125

theorem Container.startsValue_opening (type : Container) : StartsValue type.opening := by
  cases type <;> exact ⟨by decide, by decide, by decide⟩

theorem NumberToken.text_head (token : NumberToken) :
    ∃ first others, token.text = first :: others ∧ (first = 45 ∨ (48 ≤ first ∧ first ≤ 57)) := by
  have shape : token.text = token.signText ++ (List.replicate token.zeros 48 ++ token.integer ++
      token.partsText) := by
    simp [NumberToken.text]
  rw [shape]
  unfold NumberToken.signText
  cases token.negative with
  | true => exact ⟨45, _, rfl, .inl rfl⟩
  | false =>
    cases token.zeros with
    | zero =>
      obtain ⟨first, digits, integer_eq⟩ := exists_cons_of_ne_nil token.integer_ne_nil
      have allowed := token.integer_allowed
      rw [integer_eq, all_cons, Bool.and_eq_true] at allowed
      rw [integer_eq]
      exact ⟨first, _, rfl, .inr (of_decide_eq_true allowed.1)⟩
    | succ count => exact ⟨48, _, rfl, .inr (by decide)⟩

theorem Scalar.text_head (value : Scalar) :
    ∃ first others, value.text = first :: others ∧ StartsValue first := by
  cases value with
  | null => exact ⟨_, _, rfl, ⟨by decide, by decide, by decide⟩⟩
  | bool value => cases value <;> exact ⟨_, _, rfl, ⟨by decide, by decide, by decide⟩⟩
  | string chars => exact ⟨_, _, rfl, ⟨by decide, by decide, by decide⟩⟩
  | number token =>
    obtain ⟨first, others, text_eq, range⟩ := token.text_head
    have starts : ∀ char : UInt8, char = 45 ∨ (48 ≤ char ∧ char ≤ 57) →
        isSkipped char = false ∧ char ≠ 93 ∧ char ≠ 125 := by
      apply forall_octet
      decide +kernel
    obtain ⟨skipped, array, object⟩ := starts first range
    exact ⟨first, others, text_eq, skipped, array, object⟩

theorem Scalar.length_text_pos (value : Scalar) : 0 < value.text.length := by
  obtain ⟨first, others, text_eq, _⟩ := value.text_head
  rw [text_eq]
  exact Nat.succ_pos _

section Run

variable {D : Type} {doubles : Doubles D}

theorem parseValueFrom_number (fuel : Nat) (value : Parser (Parsed D)) {first : UInt8}
    (range : first = 45 ∨ (48 ≤ first ∧ first ≤ 57)) :
    parseValueFrom doubles fuel value first = do
      let number ← streamParseNumber doubles
      return .number number := by
  have others : ∀ char : UInt8, char = 45 ∨ (48 ≤ char ∧ char ≤ 57) →
      char ≠ 110 ∧ char ≠ 102 ∧ char ≠ 116 ∧ char ≠ 34 := by
    apply forall_octet
    decide +kernel
  obtain ⟨notNull, notFalse, notTrue, notString⟩ := others first range
  have noLiteral : (literals (D := D)).find? (fun literal =>
    decide (literal.1.head? = some first)) = none := by
    simp [literals, notNull.symm, notFalse.symm, notTrue.symm]
  unfold parseValueFrom
  rw [noLiteral]
  simp only [if_neg notString, if_pos range]

/-- A scalar is read to its value. -/
theorem Scalar.run (arithmetic : doubles.Exact) {value : Scalar} (grammatical : value.Grammatical)
    (fuel : Nat) (enough : value.text.length < fuel) {rest : List UInt8} (ends : EndsNumber rest) :
    (streamParseValue doubles fuel).run (value.text ++ rest) =
      .ok (value.parsed doubles, rest) := by
  obtain ⟨fuel, rfl⟩ := Nat.exists_eq_succ_of_ne_zero (show fuel ≠ 0 by omega)
  cases value with
  | null => rfl
  | bool value => cases value <;> rfl
  | string chars =>
    have length : (stringText chars).length = (charsText chars).length + 2 := by
      simp [stringText]
    have inside : (charsText chars).length < fuel := by
      have whole : (stringText chars).length < fuel + 1 := enough
      omega
    have stringRun := run_streamParseString chars inside rest
    have first : parseValueFrom doubles fuel (streamParseValue doubles fuel) 34 = do
        let text ← streamParseString fuel
        return .string text := rfl
    rw [streamParseValue, run_peekChar_bind]
    show (parseValueFrom doubles fuel (streamParseValue doubles fuel) 34).run
      (stringText chars ++ rest) = _
    rw [first, run_bind_ok stringRun]
    rfl
  | number token =>
    obtain ⟨first, others, text_eq, range⟩ := token.text_head
    have head : (token.text ++ rest).headD 0 = first := by rw [text_eq]; rfl
    rw [streamParseValue, run_peekChar_bind]
    show (parseValueFrom doubles fuel (streamParseValue doubles fuel)
      ((token.text ++ rest).headD 0)).run (token.text ++ rest) = _
    rw [head, parseValueFrom_number _ _ range,
      run_bind_ok (token.run_streamParseNumber arithmetic grammatical ends)]
    rfl

/-- `parse_element` or `parse_member`, by the type of the container. -/
def itemParser (doubles : Doubles D) (fuel : Nat) (value : Parser (Parsed D)) :
    Container → Parser (Items (Value D))
  | .array => parseElement doubles value
  | .object => parseMember doubles fuel value

def Label.nameArgument (label : Label) : Container → Option (List UInt8)
  | .array => none
  | .object => some (contents label.name)

theorem parseValueFrom_opening (fuel : Nat) (value : Parser (Parsed D)) (type : Container) :
    parseValueFrom doubles fuel value type.opening =
      parseContainer type type.opening type.closing (itemParser doubles fuel value type) fuel := by
  cases type <;> rfl

theorem run_parseElement {value : Parser (Parsed D)} (start : Space) {text : List UInt8}
    (starts : isSkipped (text.headD 0) = false) (name : Option (List UInt8)) :
    (do
      skip
      let parsed ← value
      skip
      streamParseCreateItem doubles parsed name : Parser (Items (Value D))).run
        (start.chars ++ text) =
      match value.run text with
      | .ok (parsed, left) =>
        (streamParseCreateItem doubles parsed name).run (left.dropWhile isSkipped)
      | .error reason => .error reason := by
  rw [run_skip_bind, start.dropWhile_append, dropWhile_of_head starts, run_bind]
  cases value.run text <;> rfl

theorem run_itemParser {value : Parser (Parsed D)} (label : Label) (parent : Container)
    {fuel : Nat} (enough : (label.text parent).length ≤ fuel) {text : List UInt8}
    (starts : isSkipped (text.headD 0) = false) :
    (itemParser doubles fuel value parent).run (label.text parent ++ text) =
      match value.run text with
      | .ok (parsed, left) =>
        (streamParseCreateItem doubles parsed (label.nameArgument parent)).run
          (left.dropWhile isSkipped)
      | .error reason => .error reason := by
  cases parent with
  | array => exact run_parseElement label.start starts none
  | object =>
    have element := @run_parseElement D doubles value label.start text starts
      (some (contents label.name))
    have shape : label.text .object ++ text = label.before.chars ++ (stringText label.name ++
        (label.between.chars ++ 58 :: (label.start.chars ++ text))) := by
      simp [Label.text]
    have length : (label.text .object).length = label.before.chars.length +
        ((charsText label.name).length + 2) + label.between.chars.length +
          (label.start.chars.length + 1) := by
      simp [Label.text, stringText]
      omega
    have nameStarts : isSkipped ((stringText label.name ++
        (label.between.chars ++ 58 :: (label.start.chars ++ text))).headD 0) = false := rfl
    have colon : (58 :: (label.start.chars ++ text)).dropWhile isSkipped =
        58 :: (label.start.chars ++ text) := rfl
    rw [shape]
    unfold itemParser parseMember
    rw [run_skip_bind, label.before.dropWhile_append, dropWhile_of_head nameStarts,
      run_bind_ok (run_streamParseString label.name (by omega) _), run_skip_bind,
      label.between.dropWhile_append, colon, run_peekChar_bind, headD_cons,
      if_neg (by decide), run_getChar_bind, tail_cons]
    exact element

/-- What may stand behind the items of a container: its end. -/
structure Closes (rest : List UInt8) : Prop where
  skipped : isSkipped (rest.headD 0) = false
  comma : rest.headD 0 ≠ 44
  number : EndsNumber rest

/-! ## Containers -/

theorem Container.closes (type : Container) (rest : List UInt8) : Closes
    (type.closing :: rest) := by
  cases type with
  | array =>
    exact ⟨rfl, (by decide : (93 : UInt8) ≠ 44), rfl, (by decide : (93 : UInt8) ≠ 46),
      (by decide : (93 : UInt8) ≠ 101 ∧ (93 : UInt8) ≠ 69)⟩
  | object =>
    exact ⟨rfl, (by decide : (125 : UInt8) ≠ 44), rfl, (by decide : (125 : UInt8) ≠ 46),
      (by decide : (125 : UInt8) ≠ 101 ∧ (125 : UInt8) ≠ 69)⟩

theorem endsNumber_comma (rest : List UInt8) : EndsNumber (44 :: rest) :=
  ⟨rfl, (by decide : (44 : UInt8) ≠ 46), (by decide : (44 : UInt8) ≠ 101 ∧ (44 : UInt8) ≠ 69)⟩

theorem Space.endsNumber (space : Space) {rest : List UInt8} (ends : EndsNumber rest) :
    EndsNumber (space.chars ++ rest) := by
  have each : ∀ char, isWhite char = true →
      isDigit char = false ∧ char ≠ 46 ∧ char ≠ 101 ∧ char ≠ 69 := by
    apply forall_octet
    decide +kernel
  cases chars_eq : space.chars with
  | nil => exact ends
  | cons char chars =>
    have allowed := space.allowed
    rw [chars_eq, all_cons, Bool.and_eq_true] at allowed
    obtain ⟨digit, point, mark⟩ := each char allowed.1
    exact ⟨digit, point, mark⟩

theorem Body.follows (body : Body) (parent : Container) {rest : List UInt8} (closes : Closes rest) :
    EndsNumber (body.comma ++ (body.text parent ++ rest)) ∧
      isSkipped ((body.comma ++ (body.text parent ++ rest)).headD 0) = false := by
  cases body with
  | nil => exact ⟨closes.number, closes.skipped⟩
  | leaf label value after rest | branch label type empty children after rest =>
    exact ⟨endsNumber_comma _, rfl⟩

theorem Label.dropWhile_append (label : Label) (parent : Container) {first : UInt8}
    (starts : StartsValue first) (rest : List UInt8) :
    ∃ char chars, (label.text parent ++ first :: rest).dropWhile isSkipped = char :: chars ∧
      StartsValue char := by
  cases parent with
  | array =>
    have head : isSkipped ((first :: rest).headD 0) = false := starts.skipped
    refine ⟨first, rest, ?_, starts⟩
    show (label.start.chars ++ first :: rest).dropWhile isSkipped = _
    rw [label.start.dropWhile_append, dropWhile_of_head head]
  | object =>
    have shape : label.text .object ++ first :: rest =
        label.before.chars ++ (34 :: (charsText label.name ++ [34] ++
          (label.between.chars ++ 58 :: label.start.chars) ++ first :: rest)) := by
      simp [Label.text, stringText]
    rw [shape, label.before.dropWhile_append, dropWhile_of_head rfl]
    exact ⟨34, _, rfl, by decide, by decide, by decide⟩

theorem Body.dropWhile_append {body : Body} (nonempty : body.isNil = false) (parent : Container)
    (rest : List UInt8) :
    ∃ char chars, (body.text parent ++ rest).dropWhile isSkipped = char :: chars ∧
      StartsValue char := by
  cases body with
  | nil => cases nonempty
  | leaf label value after others =>
    obtain ⟨first, chars, text_eq, starts⟩ := value.text_head
    have shape : (Body.leaf label value after others).text parent ++ rest =
        label.text parent ++ first ::
          (chars ++ after.chars ++ others.comma ++ others.text parent ++ rest) := by
      simp [Body.text, text_eq]
    rw [shape]
    exact label.dropWhile_append parent starts _
  | branch label type empty children after others =>
    have shape : (Body.branch label type empty children after others).text parent ++ rest =
        label.text parent ++ type.opening :: (children.inside empty ++ children.text type ++
          [type.closing] ++ after.chars ++ others.comma ++ others.text parent ++ rest) := by
      simp [Body.text]
    rw [shape]
    exact label.dropWhile_append parent type.startsValue_opening _

theorem run_itemParser_dropWhile {β : Type} (fuel : Nat) (value : Parser (Parsed D))
    (parent : Container) (next : Items (Value D) → Parser β) (text : List UInt8) :
    (itemParser doubles fuel value parent >>= next).run (text.dropWhile isSkipped) =
      (itemParser doubles fuel value parent >>= next).run text := by
  have again : (text.dropWhile isSkipped).dropWhile isSkipped = text.dropWhile isSkipped :=
    dropWhile_idempotent _ _
  have same : (itemParser doubles fuel value parent).run (text.dropWhile isSkipped) =
      (itemParser doubles fuel value parent).run text := by
    cases parent with
    | array =>
      unfold itemParser parseElement
      rw [run_skip_bind, run_skip_bind, again]
    | object =>
      unfold itemParser parseMember
      rw [run_skip_bind, run_skip_bind, again]
  rw [run_bind, run_bind, same]

/-- The outcome of parsing a list of items, or the container of such a list. -/
def made {α : Type} (short : Prop) [Decidable short] (result : α) (rest : List UInt8) :
    Except Failure (α × List UInt8) :=
  if short then .ok (result, rest) else .error .corrupted

theorem made_of {α : Type} {short : Prop} [Decidable short] (holds : short) (result : α)
    (rest : List UInt8) : made short result rest = .ok (result, rest) :=
  if_pos holds

/-- The items of a body are parsed and added to those in front. -/
def Body.Parses (doubles : Doubles D) (body : Body) : Prop :=
  ∀ (parent : Container) (fuel count : Nat) (children : Items (Value D)) (rest : List UInt8),
    body.isNil = false → body.Grammatical → body.Fits parent →
    (body.text parent).length < fuel → (body.text parent).length ≤ count → Closes rest →
    (itemParser doubles fuel (streamParseValue doubles fuel) parent >>= fun next =>
      parseItems (itemParser doubles fuel (streamParseValue doubles fuel) parent) count
        (children.append next)).run (body.text parent ++ rest) =
      made (body.ShortNames parent) (children.append (body.items doubles parent)) rest

/-- A container is read to its items if its names are short. -/
theorem run_container {children : Body} (parses : children.Parses doubles) (type : Container)
    (empty : Space) (grammatical : children.Grammatical) (fits : children.Fits type) (fuel : Nat)
    (enough : (containerText type empty children).length < fuel) (rest : List UInt8) :
    (streamParseValue doubles fuel).run (containerText type empty children ++ rest) =
      made (children.ShortNames type)
        (.container type (!children.isNil) (children.items doubles type)) rest := by
  obtain ⟨fuel, rfl⟩ := Nat.exists_eq_succ_of_ne_zero (show fuel ≠ 0 by omega)
  have shape : containerText type empty children ++ rest =
      type.opening :: (children.inside empty ++ (children.text type ++ type.closing :: rest)) := by
    simp [containerText]
  have closing := type.closes rest
  rw [shape, streamParseValue, run_peekChar_bind, headD_cons, parseValueFrom_opening]
  unfold parseContainer
  rw [run_peekChar_bind, headD_cons, if_neg (by simp), run_getChar_bind, tail_cons,
    run_skip_bind]
  cases nil : children.isNil with
  | true =>
    cases children with
    | nil =>
      show Scanner.run _ ((empty.chars ++ type.closing :: rest).dropWhile isSkipped) = _
      rw [empty.dropWhile_append, dropWhile_of_head closing.skipped, run_peekChar_bind,
        headD_cons, if_pos rfl, run_getChar_bind]
      exact (if_pos trivial).symm
    | leaf label value after others => cases nil
    | branch label kind inner children after others => cases nil
  | false =>
    have noSpace : children.inside empty = [] := by
      cases children with
      | nil => cases nil
      | leaf label value after others => rfl
      | branch label kind inner children after others => rfl
    have length : (containerText type empty children).length =
        (children.text type).length + 2 := by
      simp [containerText, noSpace]
    obtain ⟨char, chars, skipped, starts⟩ :=
      Body.dropWhile_append nil type (type.closing :: rest)
    have other : char ≠ type.closing := by
      cases type with
      | array => exact starts.array
      | object => exact starts.object
    have items : (itemParser doubles fuel (streamParseValue doubles fuel) type >>=
        parseItems (itemParser doubles fuel (streamParseValue doubles fuel) type) fuel).run
          (children.text type ++ type.closing :: rest) =
        made (children.ShortNames type) (children.items doubles type) (type.closing :: rest) :=
      parses type fuel fuel .nil (type.closing :: rest) nil grammatical fits (by omega)
        (by omega) closing
    rw [noSpace, nil_append, run_peekChar_bind, skipped, headD_cons, if_neg other,
      ← skipped, run_itemParser_dropWhile, run_bind_assoc]
    by_cases short : children.ShortNames type
    · rw [run_bind_ok (items.trans (if_pos short)), run_peekChar_bind, headD_cons, if_pos rfl,
        run_getChar_bind]
      exact (if_pos short).symm
    · rw [run_bind_error (items.trans (if_neg short))]
      exact (if_neg short).symm

theorem Body.Parses.loop {others : Body} (parses : others.Parses doubles) {parent : Container}
    (grammatical : others.Grammatical) (fits : others.Fits parent) {fuel count : Nat}
    (enough : (others.text parent).length < fuel) (room : (others.text parent).length < count)
    (children : Items (Value D)) {rest : List UInt8} (closes : Closes rest) :
    (parseItems (itemParser doubles fuel (streamParseValue doubles fuel) parent) count
        children).run (others.comma ++ (others.text parent ++ rest)) =
      made (others.ShortNames parent) (children.append (others.items doubles parent)) rest := by
  obtain ⟨count, rfl⟩ := Nat.exists_eq_succ_of_ne_zero (show count ≠ 0 by omega)
  cases nil : others.isNil with
  | true =>
    cases others with
    | nil =>
      have head : (Body.nil.comma ++ (Body.nil.text parent ++ rest)) = rest := rfl
      rw [head, parseItems, run_peekChar_bind, if_neg closes.comma, Body.items,
        Items.append_nil]
      exact (if_pos trivial).symm
    | leaf label value after others => cases nil
    | branch label kind inner children after others => cases nil
  | false =>
    have comma : others.comma = [44] := by
      cases others with
      | nil => cases nil
      | leaf label value after others => rfl
      | branch label kind inner children after others => rfl
    rw [comma, cons_append, parseItems, run_peekChar_bind, headD_cons, if_pos rfl,
      run_getChar_bind]
    exact parses parent fuel count children rest nil grammatical fits enough (by omega) closes

theorem createItem_scalar (label : Label) (parent : Container) {value : Scalar}
    (fits : value.Fits) :
    createItem doubles (label.nameArgument parent) (value.parsed doubles) =
      if ShortName (label.itemName parent) then
        some (.leaf (label.itemName parent) (value.value doubles) .nil)
      else none := by
  have sizeFits : (value.value doubles).sizeFits = true := by
    cases value with
    | string chars =>
      have short : (contents chars).length ≤ 65534 := fits
      exact decide_eq_true (show (contents chars).length + 1 ≤ 65535 by omega)
    | null => rfl
    | bool value => rfl
    | number token => rfl
  have created : createItem doubles (label.nameArgument parent) (value.parsed doubles) =
      createNamed (some (label.itemName parent)) (value.value doubles) := by
    cases parent <;> cases value <;> rfl
  rw [created, createNamed_eq _ sizeFits]

theorem createItem_container (label : Label) (parent type : Container) (packed : Bool)
    (children : Items (Value D)) (fits : (label.itemName parent).length ≤ 65534) :
    createItem doubles (label.nameArgument parent) (.container type packed children) =
      some (.branch (label.itemName parent) type packed children .nil) := by
  have created : createItem doubles (label.nameArgument parent) (.container type packed children) =
      setItemName type packed children (label.itemName parent) := by
    cases parent <;> rfl
  have nameFits : textFits (label.itemName parent) = true :=
    decide_eq_true (show (label.itemName parent).length + 1 ≤ 65535 by omega)
  rw [created, setItemName, if_pos nameFits]

theorem run_item {value : Parser (Parsed D)} (label : Label) (parent : Container)
    (after : Space) {fuel : Nat} (enough : (label.text parent).length ≤ fuel)
    {valueText rest : List UInt8} {first : UInt8} {chars : List UInt8}
    (text_eq : valueText = first :: chars) (starts : StartsValue first)
    (skipped : isSkipped (rest.headD 0) = false) {short : Prop} [Decidable short]
    {parsed : Parsed D}
    (valueRun : value.run (valueText ++ (after.chars ++ rest)) =
      made short parsed (after.chars ++ rest)) :
    (itemParser doubles fuel value parent).run
        (label.text parent ++ (valueText ++ (after.chars ++ rest))) =
      if short then
        match createItem doubles (label.nameArgument parent) parsed with
        | some item => .ok (item, rest)
        | none => .error .corrupted
      else .error .corrupted := by
  have head : isSkipped ((valueText ++ (after.chars ++ rest)).headD 0) = false := by
    rw [text_eq]
    exact starts.skipped
  rw [run_itemParser label parent enough head, valueRun]
  unfold made
  by_cases holds : short
  · rw [if_pos holds, if_pos holds]
    show (streamParseCreateItem doubles parsed _).run
      ((after.chars ++ rest).dropWhile isSkipped) = _
    rw [after.dropWhile_append, dropWhile_of_head skipped]
    unfold streamParseCreateItem
    cases createItem doubles (label.nameArgument parent) parsed <;> rfl
  · rw [if_neg holds, if_neg holds]

theorem run_leaf (arithmetic : doubles.Exact) (label : Label) (parent : Container) {value : Scalar}
    (after : Space) (grammatical : value.Grammatical) (fits : value.Fits) (fuel : Nat)
    (enough : (label.text parent).length + value.text.length < fuel) {rest : List UInt8}
    (ends : EndsNumber rest) (skipped : isSkipped (rest.headD 0) = false) :
    (itemParser doubles fuel (streamParseValue doubles fuel) parent).run
        (label.text parent ++ (value.text ++ (after.chars ++ rest))) =
      made (ShortName (label.itemName parent))
        (.leaf (label.itemName parent) (value.value doubles) .nil) rest := by
  obtain ⟨first, chars, text_eq, starts⟩ := value.text_head
  have valueRun := (Scalar.run arithmetic grammatical fuel (by omega)
    (after.endsNumber ends)).trans (made_of trivial _ _).symm
  have itemRun := @run_item D doubles _ label parent after fuel (by omega) value.text rest _ _
    text_eq starts skipped _ _ _ valueRun
  rw [if_pos trivial, createItem_scalar label parent fits] at itemRun
  rw [itemRun]
  by_cases short : ShortName (label.itemName parent)
  · rw [if_pos short, made_of short]
  · rw [if_neg short]
    exact (if_neg short).symm

theorem run_branch {inner : Body} (parses : inner.Parses doubles) (label : Label)
    (parent type : Container) (empty after : Space) (grammatical : inner.Grammatical)
    (nameFits : (label.itemName parent).length ≤ 65534) (fits : inner.Fits type) (fuel : Nat)
    (enough : (label.text parent).length + (containerText type empty inner).length < fuel)
    {rest : List UInt8} (skipped : isSkipped (rest.headD 0) = false) :
    (itemParser doubles fuel (streamParseValue doubles fuel) parent).run
        (label.text parent ++ (containerText type empty inner ++ (after.chars ++ rest))) =
      made (inner.ShortNames type)
        (.branch (label.itemName parent) type (!inner.isNil) (inner.items doubles type) .nil)
        rest := by
  have valueRun := run_container parses type empty grammatical fits fuel (by omega)
    (after.chars ++ rest)
  have itemRun := @run_item D doubles _ label parent after fuel (by omega)
    (containerText type empty inner) rest _ _ rfl type.startsValue_opening skipped _ _ _ valueRun
  rw [createItem_container label parent type _ _ nameFits] at itemRun
  rw [itemRun]
  rfl

/-- By induction on the body, each of its items is read. -/
theorem Body.parses (arithmetic : doubles.Exact) (body : Body) : body.Parses doubles := by
  induction body with
  | nil =>
    intro parent fuel count children rest nonempty
    cases nonempty
  | leaf label value after others ih =>
    intro parent fuel count children rest _ grammatical fits enough room closes
    have shape := Body.text_leaf_append label value after others parent rest
    have length := Body.length_text_leaf label value after others parent
    have positive := value.length_text_pos
    obtain ⟨ends, skipped⟩ := others.follows parent closes
    have itemRun := run_leaf arithmetic label parent after grammatical.1 fits.2.1 fuel
      (by omega) ends skipped
    rw [shape]
    by_cases short : ShortName (label.itemName parent)
    · rw [run_bind_ok (itemRun.trans (if_pos short)),
        ih.loop grammatical.2 fits.2.2 (by omega) (by omega) _ closes,
        Items.append_assoc]
      simp only [made, Body.ShortNames, short, true_and]
      rfl
    · rw [run_bind_error (itemRun.trans (if_neg short))]
      exact (if_neg fun both => short both.1).symm
  | branch label type empty inner after others innerHypothesis ih =>
    intro parent fuel count children rest _ grammatical fits enough room closes
    have shape := Body.text_branch_append label type empty after inner others parent rest
    have length := Body.length_text_branch label type empty after inner others parent
    have positive : 0 < (containerText type empty inner).length := Nat.succ_pos _
    obtain ⟨ends, skipped⟩ := others.follows parent closes
    have itemRun := run_branch innerHypothesis label parent type empty after grammatical.1 fits.1
      fits.2.1 fuel (by omega) skipped
    rw [shape]
    by_cases short : inner.ShortNames type
    · rw [run_bind_ok (itemRun.trans (if_pos short)),
        ih.loop grammatical.2 fits.2.2 (by omega) (by omega) _ closes,
        Items.append_assoc]
      simp only [made, Body.ShortNames, short, true_and]
      rfl
    · rw [run_bind_error (itemRun.trans (if_neg short))]
      exact (if_neg fun both => short both.1).symm

end Run

end Thingsee.Json
