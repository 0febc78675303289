import Thingsee.Json.Fragments
import Thingsee.Json.Rationals

/-!
Owns what `cJSON_Parse` makes of whole texts: it accepts every document of the grammar whose names
are short, with the items that the document shows, it rejects fragments and what is more than a
document, and it comes to an end on every text.
-/

namespace Thingsee.Json

open Support Support.Scanner List

/-! ## What a document shows -/

section Shows

variable {D : Type} (doubles : Doubles D)

/-- The value of an item is that of a scalar. Only plain numbers have a value of their own. -/
def Scalar.Shows : Scalar → Value D → Prop
  | .null, stored => stored = .null
  | .bool value, stored => stored = .bool value
  | .string chars, stored => stored = .string (contents chars)
  | .number token, stored => ∃ number, stored = .number number ∧
      (token.IsPlain → number.valueInt doubles = token.int ∧
        doubles.equal (number.valueDouble doubles) (doubles.ofInt token.int) = true)

/-- The items of a container are those of a body, in the same order. -/
def Body.Shows (parent : Container) : Body → Items (Value D) → Prop
  | .nil, items => items = .nil
  | .leaf label value _ rest, items => ∃ stored others,
      items = .leaf (label.itemName parent) stored others ∧ value.Shows doubles stored ∧
        rest.Shows parent others
  | .branch label type _ children _ rest, items => ∃ packed inner others,
      items = .branch (label.itemName parent) type packed inner others ∧
        children.Shows type inner ∧ rest.Shows parent others

/-- An item without siblings is that of a document. -/
def Document.Shows : Document → Items (Value D) → Prop
  | .scalar _ value _, item => ∃ stored, item = .leaf [] stored .nil ∧ value.Shows doubles stored
  | .container _ type _ children _, item => ∃ packed inner,
      item = .branch [] type packed inner .nil ∧ children.Shows doubles type inner

variable {doubles}

theorem Scalar.shows_value (arithmetic : doubles.Exact) (value : Scalar) :
    value.Shows doubles (value.value doubles) := by
  cases value with
  | null => rfl
  | bool value => rfl
  | string chars => rfl
  | number token =>
    refine ⟨_, rfl, ?_⟩
    intro plain
    exact NumberToken.setValueNumber_value arithmetic plain.1 plain.2.1 plain.isInt32

theorem Body.shows_items (arithmetic : doubles.Exact) (body : Body) (parent : Container) :
    body.Shows doubles parent (body.items doubles parent) := by
  induction body generalizing parent with
  | nil => rfl
  | leaf label value after rest ih =>
    exact ⟨_, _, rfl, value.shows_value arithmetic, ih parent⟩
  | branch label type empty children after rest innerHypothesis ih =>
    exact ⟨_, _, _, rfl, innerHypothesis type, ih parent⟩

theorem Document.shows_items (arithmetic : doubles.Exact) (document : Document) :
    document.Shows doubles (document.items doubles) := by
  cases document with
  | scalar before value after => exact ⟨_, rfl, value.shows_value arithmetic⟩
  | container before type empty children after =>
    exact ⟨_, _, rfl, children.shows_items arithmetic type⟩

end Shows

namespace Document

/-- All numbers are numbers of the grammar. -/
def Grammatical : Document → Prop
  | .scalar _ value _ => value.Grammatical
  | .container _ _ _ children _ => children.Grammatical

/-- All names and strings fit their length fields. -/
def Fits : Document → Prop
  | .scalar _ value _ => value.Fits
  | .container _ type _ children _ => children.Fits type

/-- The members of objects that are scalars have short names. -/
def ShortNames : Document → Prop
  | .scalar _ _ _ => True
  | .container _ type _ children _ => children.ShortNames type

end Document

/-! ## Texts without zeros -/

theorem cString_append {text : List UInt8} (nonzero : (0 : UInt8) ∉ text) (memory : List UInt8) :
    cString (text ++ 0 :: memory) = text := by
  unfold cString
  rw [takeWhile_append_of_pos]
  · simp
  · intro char member
    apply decide_eq_true
    rintro rfl
    exact nonzero member

theorem not_mem_of_all {condition : UInt8 → Bool} (ends : condition 0 = false) {text : List UInt8}
    (all : text.all condition = true) : (0 : UInt8) ∉ text := by
  intro member
  have met := all_eq_true.mp all 0 member
  rw [ends] at met
  cases met

theorem Space.nonzero (space : Space) : (0 : UInt8) ∉ space.chars :=
  not_mem_of_all (by decide) space.allowed

theorem StringChar.nonzero (char : StringChar) : (0 : UInt8) ∉ char.text := by
  cases char with
  | plain byte allowed =>
    rintro (_ | ⟨_, ⟨⟩⟩)
    cases allowed
  | escape letter value allowed =>
    have letters : escapes.all (fun escape => decide (escape.1 ≠ 0)) = true := rfl
    have letterNonzero : letter ≠ 0 :=
      of_decide_eq_true (all_eq_true.mp letters (letter, value) allowed)
    intro member
    rcases mem_cons.mp member with slash | member
    · cases slash
    · exact letterNonzero (mem_singleton.mp member).symm
  | unicode digits four hex allowed =>
    intro member
    rcases mem_cons.mp member with slash | member
    · cases slash
    · rcases mem_cons.mp member with letter | member
      · cases letter
      · exact not_mem_of_all (by decide) hex member

theorem stringText_nonzero (chars : List StringChar) : (0 : UInt8) ∉ stringText chars := by
  intro member
  rcases mem_append.mp member with opened | closed
  · rcases mem_cons.mp opened with quote | inside
    · cases quote
    · obtain ⟨char, _, inside⟩ := mem_flatMap.mp inside
      exact char.nonzero inside
  · cases mem_singleton.mp closed

theorem NumberToken.nonzero (token : NumberToken) : (0 : UInt8) ∉ token.text := by
  have digits {text : List UInt8} (all : text.all isDigit = true) : (0 : UInt8) ∉ text :=
    not_mem_of_all (by decide) all
  have sign : (0 : UInt8) ∉ token.signText := by
    unfold NumberToken.signText
    cases token.negative <;> decide
  have zeros : (0 : UInt8) ∉ List.replicate token.zeros 48 := by
    intro member
    cases eq_of_mem_replicate member
  have fraction : (0 : UInt8) ∉ token.fractionText := by
    unfold NumberToken.fractionText
    split
    · exact not_mem_nil
    · intro member
      rcases mem_cons.mp member with point | member
      · cases point
      · exact digits token.fraction_allowed member
  have exponent : (0 : UInt8) ∉ token.exponentText := by
    unfold NumberToken.exponentText
    cases token.exponent with
    | none => exact not_mem_nil
    | some exponent =>
      intro member
      rcases mem_cons.mp member with mark | member
      · rcases exponent.mark_allowed with same | same <;> rw [same] at mark <;> cases mark
      · rcases mem_append.mp member with sign | member
        · rcases exponent.sign_allowed with same | same | same <;> rw [same] at sign <;>
            revert sign <;> decide
        · exact digits exponent.digits_allowed member
  simp only [NumberToken.text, NumberToken.partsText, mem_append, not_or]
  exact ⟨⟨⟨sign, zeros⟩, digits token.integer_allowed⟩, fraction, exponent⟩

theorem Scalar.nonzero (value : Scalar) : (0 : UInt8) ∉ value.text := by
  cases value with
  | null => decide
  | bool value => cases value <;> decide
  | string chars => exact stringText_nonzero chars
  | number token => exact token.nonzero

theorem Label.nonzero (label : Label) (parent : Container) : (0 : UInt8) ∉ label.text parent := by
  cases parent with
  | array => exact label.start.nonzero
  | object =>
    simp only [Label.text, mem_append, mem_cons, not_or]
    exact ⟨⟨⟨label.before.nonzero, stringText_nonzero label.name⟩, label.between.nonzero⟩,
      (by decide : (0 : UInt8) ≠ 58), label.start.nonzero⟩

variable (type : Container) (body : Body)

theorem Container.opening_ne_zero : (0 : UInt8) ≠ type.opening := by
  cases type <;> decide

theorem Container.closing_ne_zero : (0 : UInt8) ≠ type.closing := by
  cases type <;> decide

theorem Body.inside_nonzero (empty : Space) : (0 : UInt8) ∉ body.inside empty := by
  cases body with
  | nil => exact empty.nonzero
  | leaf label value after rest => exact not_mem_nil
  | branch label type space children after rest => exact not_mem_nil

theorem Body.comma_nonzero : (0 : UInt8) ∉ body.comma := by
  cases body with
  | nil => exact not_mem_nil
  | leaf label value after rest | branch label type space children after rest =>
    exact (by decide : (0 : UInt8) ∉ [44])

theorem Body.nonzero (parent : Container) : (0 : UInt8) ∉ body.text parent := by
  induction body generalizing parent with
  | nil => exact not_mem_nil
  | leaf label value after rest ih =>
    simp only [Body.text, mem_append, not_or]
    exact ⟨⟨⟨⟨label.nonzero parent, value.nonzero⟩, after.nonzero⟩, rest.comma_nonzero⟩,
      ih parent⟩
  | branch label type empty children after rest innerHypothesis ih =>
    simp only [Body.text, mem_append, mem_cons, not_mem_nil, or_false, not_or]
    exact ⟨⟨⟨⟨label.nonzero parent, type.opening_ne_zero,
      ⟨children.inside_nonzero empty, innerHypothesis type⟩, type.closing_ne_zero⟩,
      after.nonzero⟩, rest.comma_nonzero⟩, ih parent⟩

theorem containerText_nonzero (empty : Space) (children : Body) :
    (0 : UInt8) ∉ containerText type empty children := by
  simp only [containerText, mem_append, mem_cons, not_mem_nil, or_false, not_or]
  exact ⟨type.opening_ne_zero, ⟨children.inside_nonzero empty, children.nonzero type⟩,
    type.closing_ne_zero⟩

theorem Document.nonzero (document : Document) : (0 : UInt8) ∉ document.text := by
  cases document with
  | scalar before value after =>
    simp only [Document.text, mem_append, not_or]
    exact ⟨⟨before.nonzero, value.nonzero⟩, after.nonzero⟩
  | container before type empty children after =>
    simp only [Document.text, mem_append, not_or]
    exact ⟨⟨before.nonzero, containerText_nonzero type empty children⟩, after.nonzero⟩

/-- Two functions do the same on a text and do not run out of steps. -/
def Agree {α : Type} (parser other : Parser α) (rest : List UInt8) : Prop :=
  parser.run rest = other.run rest ∧ parser.run rest ≠ .error .exhausted

variable {α : Type} {rest : List UInt8}

theorem Agree.pure (result : α) (rest : List UInt8) :
    Agree (pure result : Parser α) (pure result) rest := ⟨rfl, nofun⟩

theorem Agree.null (rest : List UInt8) : Agree (.stop .null : Parser α)
    (.stop .null) rest := ⟨rfl, nofun⟩

theorem Agree.bind {β : Type} {parser other : Parser α} {next after : α → Parser β}
    (first : Agree parser other rest)
    (second : ∀ result left, left.length ≤ rest.length → Agree (next result) (after result) left) :
    Agree (parser >>= next) (other >>= after) rest := by
  unfold Agree
  rw [run_bind, run_bind, ← first.1]
  cases returned : parser.run rest with
  | ok result => exact second result.1 result.2 (length_run_le returned)
  | error reason =>
    refine ⟨rfl, ?_⟩
    rintro ⟨⟩
    exact first.2 returned

theorem Agree.ite {condition : Prop} [Decidable condition]
    {first second firstOther secondOther : Parser α}
    (holds : condition → Agree first firstOther rest)
    (fails : ¬ condition → Agree second secondOther rest) :
    Agree (if condition then first else second) (if condition then firstOther else secondOther)
      rest := by
  by_cases met : condition
  · rw [if_pos met, if_pos met]
    exact holds met
  · rw [if_neg met, if_neg met]
    exact fails met

theorem Agree.skip {next after : Unit → Parser α}
    (behind : ∀ left, left.length ≤ rest.length → Agree (next ()) (after ()) left) :
    Agree (skip >>= next) (skip >>= after) rest :=
  behind _ (dropWhile_sublist _).length_le

theorem Agree.peek {next after : UInt8 → Parser α}
    (behind : Agree (next (rest.headD 0)) (after (rest.headD 0)) rest) :
    Agree (peekChar >>= next) (peekChar >>= after) rest := behind

theorem Agree.get {next after : UInt8 → Parser α}
    (behind : Agree (next (rest.headD 0)) (after (rest.headD 0)) rest.tail) :
    Agree (getChar >>= next) (getChar >>= after) rest := behind

theorem Total.agree {parser : Parser α} (total : Total parser) (rest : List UInt8) :
    Agree parser parser rest := by
  obtain ⟨result, left, returned⟩ := total rest
  refine ⟨rfl, ?_⟩
  rw [returned]
  nofun

theorem length_tail_lt (char : rest.headD 0 ≠ 0) : rest.tail.length < rest.length := by
  cases rest with
  | nil => exact absurd rfl char
  | cons first rest => exact Nat.lt_succ_self _

theorem total_parseHexDigits (count number : Nat) : Total (parseHexDigits count number) := by
  induction count generalizing number with
  | zero => exact .pure number
  | succ count ih =>
    have digit : Total streamParseHex :=
      total_peekChar.bind fun _ => .ite (total_getChar.bind fun _ => .pure _)
        (.ite (total_getChar.bind fun _ => .pure _)
          (.ite (total_getChar.bind fun _ => .pure _) (.pure _)))
    apply digit.bind
    intro value
    cases value with
    | none => exact .pure 0
    | some value => exact ih _

theorem total_parseEscape : Total parseEscape := by
  have plain : Total parsePlainEscape :=
    total_peekChar.bind fun _ => total_getChar.bind fun _ => .pure _
  have surrogate (uc : Nat) : Total (parseSurrogate uc) :=
    total_peekChar.bind fun _ => .ite (.pure _)
      (total_getChar.bind fun _ => total_peekChar.bind fun _ => .ite plain
        (total_getChar.bind fun _ => (total_parseHexDigits 4 0).bind fun _ =>
          .ite (.pure _) (.pure _)))
  have unicode : Total parseUnicode :=
    (total_parseHexDigits 4 0).bind fun uc => .ite (.pure _) (.ite (surrogate uc) (.pure _))
  exact total_peekChar.bind fun _ => .ite (total_getChar.bind fun _ => unicode) plain

theorem agree_parseChars {fuel more : Nat} (enough : rest.length < fuel)
    (plenty : rest.length < more) (out : List UInt8) :
    Agree (parseChars fuel out) (parseChars more out) rest := by
  induction fuel generalizing more rest out with
  | zero => cases enough
  | succ fuel ih =>
    obtain ⟨more, rfl⟩ := Nat.exists_eq_succ_of_ne_zero (show more ≠ 0 by omega)
    rw [parseChars, parseChars]
    refine .peek (.ite (fun _ => .pure out rest) fun other => .get ?_)
    have shorter := length_tail_lt (not_or.mp other).2
    refine .ite (fun _ => ih (by omega) (by omega) _) fun _ => ?_
    apply (total_parseEscape.agree rest.tail).bind
    intro escaped left bound
    exact ih (by omega) (by omega) _

theorem agree_streamParseString {fuel more : Nat} (enough : rest.length ≤ fuel)
    (plenty : rest.length ≤ more) :
    Agree (streamParseString fuel) (streamParseString more) rest := by
  refine .peek (.ite (fun _ => .null rest) fun quote => .get ?_)
  have shorter : rest.tail.length < rest.length := by
    apply length_tail_lt
    rw [not_not.mp quote]
    decide
  apply (agree_parseChars (by omega) (by omega) []).bind
  intro out left _
  exact .peek (.ite (fun _ => .get (.pure _ _)) fun _ => .pure _ _)

section Ending

variable {D : Type} {doubles : Doubles D}

theorem agree_matchLiteral (literal rest : List UInt8) :
    Agree (matchLiteral literal) (matchLiteral literal) rest := by
  induction literal generalizing rest with
  | nil => exact .pure () rest
  | cons char literal ih =>
    exact .get (.ite (fun _ => ih _) fun _ => .null _)

theorem agree_streamParseCreateItem (parsed : Parsed D) (name : Option (List UInt8))
    (rest : List UInt8) :
    Agree (streamParseCreateItem doubles parsed name) (streamParseCreateItem doubles parsed name)
      rest := by
  unfold streamParseCreateItem
  cases createItem doubles name parsed with
  | some item => exact .pure item rest
  | none => exact ⟨rfl, nofun⟩

/-- Two functions agree on all texts that are not longer than a bound. -/
def AgreeWithin {α : Type} (bound : Nat) (parser other : Parser α) : Prop :=
  ∀ rest : List UInt8, rest.length ≤ bound → Agree parser other rest

variable {fuel more : Nat} {value other : Parser (Parsed D)}

theorem agree_itemParser {bound : Nat} (agree : AgreeWithin bound value other)
    (enough : bound ≤ fuel) (plenty : bound ≤ more) (parent : Container) :
    AgreeWithin bound (itemParser doubles fuel value parent)
      (itemParser doubles more other parent) := by
  have element (name : Option (List UInt8)) :
      AgreeWithin bound
        (do skip; let parsed ← value; skip; streamParseCreateItem doubles parsed name)
        (do skip; let parsed ← other; skip; streamParseCreateItem doubles parsed name) := by
    intro rest short
    refine .skip fun left bounded => ?_
    apply (agree left (by omega)).bind
    intro parsed left _
    exact .skip fun left _ => agree_streamParseCreateItem parsed name left
  cases parent with
  | array => exact element none
  | object =>
    intro rest short
    refine .skip fun left bounded => ?_
    apply (agree_streamParseString (show left.length ≤ fuel by omega)
      (show left.length ≤ more by omega)).bind
    intro name left shorter
    refine .skip fun left behind => .peek (.ite (fun _ => .null left) fun _ => .get ?_)
    apply element (some name)
    rw [length_tail]
    omega

theorem agree_parseItems {bound : Nat} {item other : Parser (Items (Value D))}
    (agree : AgreeWithin bound item other) {count : Nat} {rest : List UInt8}
    (short : rest.length ≤ bound) (room : rest.length < count) (plenty : rest.length < more)
    (children : Items (Value D)) :
    Agree (parseItems item count children) (parseItems other more children) rest := by
  induction count generalizing more rest children with
  | zero => cases room
  | succ count ih =>
    obtain ⟨more, rfl⟩ := Nat.exists_eq_succ_of_ne_zero (show more ≠ 0 by omega)
    rw [parseItems, parseItems]
    refine .peek (.ite (fun comma => .get ?_) fun _ => .pure children rest)
    have shorter : rest.tail.length < rest.length := by
      apply length_tail_lt
      rw [comma]
      decide
    apply (agree rest.tail (by omega)).bind
    intro next left bounded
    exact ih (by omega) (by omega) (by omega) _

theorem agree_parseContainer {rest : List UInt8} (enough : rest.length ≤ fuel)
    (plenty : rest.length ≤ more)
    (agree : ∀ left : List UInt8, left.length < rest.length → Agree value other left)
    (type : Container) :
    Agree
      (parseContainer type type.opening type.closing (itemParser doubles fuel value type) fuel)
      (parseContainer type type.opening type.closing (itemParser doubles more other type) more)
      rest := by
  refine .peek (.ite (fun _ => .null rest) fun opening => .get ?_)
  have shorter : rest.tail.length < rest.length := by
    apply length_tail_lt
    rw [not_not.mp opening]
    exact type.opening_ne_zero.symm
  refine .skip fun left bounded =>
    .peek (.ite (fun _ => .get (.pure _ _)) fun _ => ?_)
  have item : AgreeWithin (rest.length - 1) (itemParser doubles fuel value type)
      (itemParser doubles more other type) :=
    agree_itemParser (fun left bound => agree left (by omega)) (by omega) (by omega) type
  apply (item left (by omega)).bind
  intro first left behind
  apply (agree_parseItems item (show left.length ≤ rest.length - 1 by omega) (by omega) (by omega)
    first).bind
  intro children left _
  exact .peek (.ite (fun _ => .get (.pure _ _)) fun _ => .null _)

theorem agree_streamParseValue {rest : List UInt8} (enough : rest.length < fuel)
    (plenty : rest.length < more) :
    Agree (streamParseValue doubles fuel) (streamParseValue doubles more) rest := by
  induction fuel generalizing more rest with
  | zero => cases enough
  | succ fuel ih =>
    obtain ⟨more, rfl⟩ := Nat.exists_eq_succ_of_ne_zero (show more ≠ 0 by omega)
    have container (type : Container) := @agree_parseContainer D doubles fuel more _ _ rest
      (by omega) (by omega)
      (fun left shorter => ih (show left.length < fuel by omega)
        (show left.length < more by omega)) type
    rw [streamParseValue, streamParseValue]
    apply Agree.peek
    unfold parseValueFrom
    cases (literals (D := D)).find? fun literal =>
      decide (literal.1.head? = some (rest.headD 0)) with
    | some literal => exact (agree_matchLiteral _ rest).bind fun _ left _ => .pure _ left
    | none =>
      refine .ite (fun _ => ?_) fun _ => .ite (fun _ => ?_) fun _ =>
        .ite (fun _ => container .array) fun _ =>
          .ite (fun _ => container .object) fun _ => .null rest
      · exact (agree_streamParseString (by omega) (by omega)).bind fun _ left _ => .pure _ left
      · exact (total_streamParseNumber.agree rest).bind fun _ left _ => .pure _ left

theorem agree_cJSONParseStream {rest : List UInt8} (enough : rest.length < fuel)
    (plenty : rest.length < more) :
    Agree (cJSONParseStream doubles fuel) (cJSONParseStream doubles more) rest := by
  refine .skip fun left bounded => ?_
  apply (agree_streamParseValue (show left.length < fuel by omega)
    (show left.length < more by omega)).bind
  intro value left _
  apply (agree_streamParseCreateItem value none left).bind
  intro item left _
  exact .skip fun left _ => .get (.ite (fun _ => .null _) fun _ => .pure item _)

theorem cJSONParse_ends (doubles : Doubles D) (memory : List UInt8) :
    cJSONParse doubles memory ≠ .error .exhausted := by
  have enough : (cString memory).length < (cString memory).length + 2 := by omega
  have ends := (@agree_cJSONParseStream D doubles _ _ _ enough enough).2
  rw [cJSONParse_eq]
  cases returned : (cJSONParseStream doubles ((cString memory).length + 2)).run
      (cString memory) with
  | ok result => nofun
  | error reason =>
    rintro ⟨⟩
    exact ends returned

end Ending

/-! ## Whole texts -/

section Whole

variable {D : Type} {doubles : Doubles D}

variable {fuel : Nat}

variable {text : List UInt8}

theorem cJSONParse_text (nonzero : (0 : UInt8) ∉ text) (enough : text.length < fuel)
    (memory : List UInt8) :
    cJSONParse doubles (text ++ 0 :: memory) =
      ((cJSONParseStream doubles fuel).run text).map Prod.fst := by
  have agree := @agree_cJSONParseStream D doubles (text.length + 2) fuel text (by omega) enough
  rw [cJSONParse_eq, cString_append nonzero, agree.1]

theorem run_cJSONParseStream (before : Space) {left : List UInt8}
    (starts : isSkipped (text.headD 0) = false) {parsed : Parsed D} {item : Items (Value D)}
    (returned : (streamParseValue doubles fuel).run text = .ok (parsed, left))
    (created : createItem doubles none parsed = some item) :
    (cJSONParseStream doubles fuel).run (before.chars ++ text) =
      if (left.dropWhile isSkipped).headD 0 ≠ 0 then .error .null
      else .ok (item, (left.dropWhile isSkipped).tail) := by
  unfold cJSONParseStream
  rw [run_skip_bind, before.dropWhile_append, dropWhile_of_head starts, run_bind_ok returned,
    run_bind_ok (run_streamParseCreateItem created left), run_skip_bind, run_getChar_bind]
  split <;> rfl

theorem run_cJSONParseStream_error (before : Space) (starts : isSkipped (text.headD 0) = false)
    {reason : Failure} (returned : (streamParseValue doubles fuel).run text = .error reason) :
    (cJSONParseStream doubles fuel).run (before.chars ++ text) = .error reason := by
  unfold cJSONParseStream
  rw [run_skip_bind, before.dropWhile_append, dropWhile_of_head starts, run_bind_error returned]

theorem Space.dropWhile_chars (space : Space) : space.chars.dropWhile isSkipped = [] := by
  have all := space.dropWhile_append []
  rwa [append_nil] at all

theorem containerText_head (type : Container) (empty : Space) (children : Body)
    (rest : List UInt8) :
    isSkipped ((containerText type empty children ++ rest).headD 0) = false :=
  type.startsValue_opening.skipped

theorem run_container_value (arithmetic : doubles.Exact) (type : Container) (empty : Space)
    {children : Body} (grammatical : children.Grammatical) (fits : children.Fits type)
    (short : children.ShortNames type) (enough : (containerText type empty children).length < fuel)
    (rest : List UInt8) :
    (streamParseValue doubles fuel).run (containerText type empty children ++ rest) =
      .ok (.container type (!children.isNil) (children.items doubles type), rest) :=
  (run_container (children.parses arithmetic) type empty grammatical fits fuel enough rest).trans
    (if_pos short)

theorem createItem_root (type : Container) (packed : Bool) (children : Items (Value D)) :
    createItem doubles none (.container type packed children) =
      some (.branch [] type packed children .nil) := rfl

section

variable (arithmetic : doubles.Exact) {document : Document} (grammatical : document.Grammatical)
  (fits : document.Fits)
include arithmetic grammatical fits

theorem cJSONParse_document (short : document.ShortNames) (memory : List UInt8) :
    cJSONParse doubles (document.text ++ 0 :: memory) = .ok (document.items doubles) := by
  cases document with
  | scalar before value after =>
    obtain ⟨first, chars, text_eq, starts⟩ := value.text_head
    have skipped : isSkipped ((value.text ++ after.chars).headD 0) = false := by
      rw [text_eq]
      exact starts.skipped
    have ends := after.endsNumber endsNumber_nil
    rw [append_nil] at ends
    have length : (Document.scalar before value after).text.length =
        before.chars.length + value.text.length + after.chars.length := by
      simp only [Document.text, length_append]
    have returned := Scalar.run arithmetic grammatical
      ((Document.scalar before value after).text.length + 1) (by omega) ends
    have noLabel : createItem doubles none (value.parsed doubles) =
        some (.leaf [] (value.value doubles) .nil) :=
      createItem_scalar ⟨before, [], before, before⟩ .array fits
    have shape : (Document.scalar before value after).text =
        before.chars ++ (value.text ++ after.chars) :=
      append_assoc _ _ _
    have run := run_cJSONParseStream before skipped returned noLabel
    rw [after.dropWhile_chars, ← shape] at run
    rw [cJSONParse_text (Document.nonzero _) (Nat.lt_succ_self _), run]
    rfl
  | container before type empty children after =>
    have length : (Document.container before type empty children after).text.length =
        before.chars.length + (containerText type empty children).length + after.chars.length := by
      simp only [Document.text, length_append]
    have returned := run_container_value arithmetic type empty grammatical fits short
      (show (containerText type empty children).length <
        (Document.container before type empty children after).text.length + 1 by omega) after.chars
    have shape : (Document.container before type empty children after).text =
        before.chars ++ (containerText type empty children ++ after.chars) :=
      append_assoc _ _ _
    have run := run_cJSONParseStream before (containerText_head type empty children _) returned
      (createItem_root type _ _)
    rw [after.dropWhile_chars, ← shape] at run
    rw [cJSONParse_text (Document.nonzero _) (Nat.lt_succ_self _), run]
    rfl

theorem cJSONParse_long_name (long : ¬ document.ShortNames) (memory : List UInt8) :
    cJSONParse doubles (document.text ++ 0 :: memory) = .error .corrupted := by
  cases document with
  | scalar before value after => exact absurd trivial long
  | container before type empty children after =>
    have length : (Document.container before type empty children after).text.length =
        before.chars.length + (containerText type empty children).length + after.chars.length := by
      simp only [Document.text, length_append]
    have returned := (run_container (children.parses arithmetic) type empty grammatical fits
      ((Document.container before type empty children after).text.length + 1) (by omega)
      after.chars).trans (if_neg long)
    have shape : (Document.container before type empty children after).text =
        before.chars ++ (containerText type empty children ++ after.chars) :=
      append_assoc _ _ _
    have run := run_cJSONParseStream_error before (containerText_head type empty children _)
      returned
    rw [← shape] at run
    rw [cJSONParse_text (Document.nonzero _) (Nat.lt_succ_self _), run]
    rfl

end

section

variable (arithmetic : doubles.Exact) (before : Space) (type : Container) (empty : Space)
  {children : Body}
include arithmetic

theorem cJSONParse_trailing (after : Space) (grammatical : children.Grammatical)
    (fits : children.Fits type) (short : children.ShortNames type) {more : List UInt8}
    (nonzero : (0 : UInt8) ∉ more) (visible : ∃ char ∈ more, 32 < char) (memory : List UInt8) :
    cJSONParse doubles ((Document.container before type empty children after).text ++ more ++
      0 :: memory) = .error .null := by
  have unskipped : ∀ char : UInt8, 32 < char → isSkipped char = false := by
    apply forall_octet
    decide +kernel
  have left : (more.dropWhile isSkipped).headD 0 ≠ 0 := by
    cases rest : more.dropWhile isSkipped with
    | nil =>
      obtain ⟨char, member, above⟩ := visible
      have skipped := dropWhile_eq_nil_iff.mp rest char member
      rw [unskipped char above] at skipped
      cases skipped
    | cons char chars =>
      rintro rfl
      exact nonzero ((dropWhile_sublist _).subset (rest ▸ mem_cons_self))
  have length : ((Document.container before type empty children after).text ++ more).length =
      before.chars.length + (containerText type empty children).length + after.chars.length +
        more.length := by
    simp only [Document.text, length_append]
  have returned := run_container_value arithmetic type empty grammatical fits short
    (show (containerText type empty children).length <
      ((Document.container before type empty children after).text ++ more).length + 1 by omega)
    (after.chars ++ more)
  have shape : (Document.container before type empty children after).text ++ more =
      before.chars ++ (containerText type empty children ++ (after.chars ++ more)) := by
    simp only [Document.text, append_assoc]
  have run := run_cJSONParseStream before (containerText_head type empty children _) returned
    (createItem_root type _ _)
  have all : (0 : UInt8) ∉ (Document.container before type empty children after).text ++ more := by
    rw [mem_append, not_or]
    exact ⟨Document.nonzero _, nonzero⟩
  rw [after.dropWhile_append, ← shape, if_pos left] at run
  rw [cJSONParse_text all (Nat.lt_succ_self _), run]
  rfl

theorem cJSONParse_cut (grammatical : children.Grammatical) (fits : children.Fits type)
    (short : children.ShortNames type) {text : List UInt8}
    (cut : text <+: before.chars ++ type.opening :: (children.inside empty ++ children.text type))
    (memory : List UInt8) : cJSONParse doubles (text ++ 0 :: memory) = .error .null := by
  have whole : (0 : UInt8) ∉
      before.chars ++ type.opening :: (children.inside empty ++ children.text type) := by
    simp only [mem_append, mem_cons, not_or]
    exact ⟨before.nonzero, type.opening_ne_zero, children.inside_nonzero empty,
      children.nonzero type⟩
  have nonzero : (0 : UInt8) ∉ text := fun member => whole (cut.subset member)
  have bound := cut.length_le
  rw [cJSONParse_text nonzero (show text.length < text.length +
    (containerText type empty children).length + 1 by omega)]
  rcases prefix_append_cases cut with white | ⟨text, rfl, inside⟩
  · unfold cJSONParseStream
    rw [run_skip_bind, before.dropWhile_cut white, run_bind_error (run_streamParseValue_nil _)]
    rfl
  · have starts : isSkipped (text.headD 0) = false := by
      cases text with
      | nil => rfl
      | cons first text =>
        rw [(cons_prefix_cons.mp inside).1]
        exact type.startsValue_opening.skipped
    have returned := run_container_cut
      (children.stuck_of_cut arithmetic) type empty grammatical fits
      short (show (containerText type empty children).length < (before.chars ++ text).length +
        (containerText type empty children).length + 1 by omega) inside
    rw [run_cJSONParseStream_error before starts returned]
    rfl

theorem cJSONParse_zeros (after : Space) (ungrammatical : ¬ children.Grammatical)
    (fits : children.Fits type) (short : children.ShortNames type) (memory : List UInt8) :
    cJSONParse doubles ((Document.container before type empty children after).text ++
      0 :: memory) = .error .null := by
  have nonempty := Body.nonempty_of_ungrammatical ungrammatical
  have shape : (Document.container before type empty children after).text =
      before.chars ++ (type.opening ::
        (children.text type ++ (type.closing :: after.chars))) := by
    simp [Document.text, containerText, Body.inside_of_nonempty nonempty]
  have length : (Document.container before type empty children after).text.length =
      before.chars.length + (children.text type).length + after.chars.length + 2 := by
    rw [shape]
    simp only [length_append, length_cons]
    omega
  have other : ((children.text type ++ (type.closing :: after.chars)).dropWhile
      isSkipped).headD 0 ≠ type.closing := by
    obtain ⟨char, chars, skipped, starts⟩ :=
      Body.dropWhile_append nonempty type (type.closing :: after.chars)
    rw [skipped]
    cases type with
    | array => exact starts.array
    | object => exact starts.object
  have returned := stuck_container other (Body.stuck_of_zeros arithmetic ungrammatical fits short
    (show _ < (Document.container before type empty children after).text.length by omega)
    (show _ ≤ (Document.container before type empty children after).text.length by omega) .nil
    (type.closing :: after.chars))
  have run := run_cJSONParseStream_error before
    (show isSkipped ((type.opening :: _).headD 0) = false from type.startsValue_opening.skipped)
    returned
  rw [← shape] at run
  rw [cJSONParse_text (Document.nonzero _) (Nat.lt_succ_self _), run]
  rfl

end

end Whole

/-! ## Documents and fragments -/

namespace Document

def IsContainer : Document → Prop
  | .scalar _ _ _ => False
  | .container _ _ _ _ _ => True

/-- A part of the text that ends in front of the closing bracket of the root. -/
def Fragment : Document → List UInt8 → Prop
  | .scalar _ _ _, _ => False
  | .container before type empty children _, text =>
    text <+: before.chars ++ type.opening :: (children.inside empty ++ children.text type)

end Document

/--
A document with short names is accepted with the items that it shows. Its fragments are rejected,
and so is the document with a text behind it that is not only spaces and control characters, or with
zeros in front of a number. The parser comes to an end on every text.
-/
theorem documents_are_accepted {D : Type} (doubles : Doubles D) (arithmetic : doubles.Exact) :
    (∀ (document : Document) (memory : List UInt8), document.Fits → document.ShortNames →
      (document.Grammatical →
        ∃ item, cJSONParse doubles (document.text ++ 0 :: memory) = .ok item ∧
          document.Shows doubles item) ∧
      (document.Grammatical → ∀ text, document.Fragment text →
        cJSONParse doubles (text ++ 0 :: memory) = .error .null) ∧
      (document.Grammatical → document.IsContainer → ∀ more : List UInt8, 0 ∉ more →
        (∃ char ∈ more, 32 < char) →
        cJSONParse doubles (document.text ++ more ++ 0 :: memory) = .error .null) ∧
      (¬ document.Grammatical → document.IsContainer →
        cJSONParse doubles (document.text ++ 0 :: memory) = .error .null)) ∧
    ∀ memory : List UInt8, 0 ∈ memory → cJSONParse doubles memory ≠ .error .exhausted := by
  constructor
  · intro document memory fits short
    refine ⟨fun grammatical => ?_, fun grammatical text fragment => ?_,
      fun grammatical root more nonzero visible => ?_, fun ungrammatical root => ?_⟩
    · exact ⟨_, cJSONParse_document arithmetic grammatical fits short memory,
        document.shows_items arithmetic⟩
    · cases document with
      | scalar before value after => cases fragment
      | container before type empty children after =>
        exact cJSONParse_cut arithmetic before type empty grammatical fits short fragment memory
    · cases document with
      | scalar before value after => cases root
      | container before type empty children after =>
        exact cJSONParse_trailing arithmetic before type empty after grammatical fits short nonzero
          visible memory
    · cases document with
      | scalar before value after => cases root
      | container before type empty children after =>
        exact cJSONParse_zeros arithmetic before type empty after ungrammatical fits short memory
  · intro memory _
    exact cJSONParse_ends doubles memory

def Space.none : Space := ⟨[], rfl⟩

def oneToken : NumberToken :=
  ⟨false, 0, [49], [], .none, rfl, cons_ne_nil _ _, nofun, rfl⟩

/-- The document `{"a":1}`. -/
def smallDocument : Document :=
  .container .none .object .none
    (.leaf ⟨.none, [.plain 97 rfl], .none, .none⟩ (.number oneToken) .none .nil) .none

/-- The document `[]`. -/
def emptyDocument : Document := .container .none .array .none .nil .none

theorem documents_are_accepted_small :
    (∃ item, cJSONParse rationals [123, 34, 97, 34, 58, 49, 125, 0] = .ok item ∧
      smallDocument.Shows rationals item) ∧
    cJSONParse rationals [123, 34, 97, 34, 58, 49, 0] = .error .null ∧
    cJSONParse rationals [123, 34, 97, 34, 58, 49, 125, 32, 125, 0] = .error .null ∧
    cJSONParse rationals [0] ≠ .error .exhausted := by
  obtain ⟨texts, ends⟩ := documents_are_accepted rationals rationals_exact
  obtain ⟨accepted, fragments, trailing, _⟩ := texts smallDocument []
    ⟨by decide, trivial, trivial⟩ ⟨by decide, trivial⟩
  have grammatical : smallDocument.Grammatical := ⟨rfl, trivial⟩
  exact ⟨accepted grammatical, fragments grammatical [123, 34, 97, 34, 58, 49] ⟨[], rfl⟩,
    trailing grammatical trivial [32, 125] (by decide) ⟨125, by decide, by decide⟩,
    ends [0] (by decide)⟩

/-- A control character behind a document is no white space of the grammar, but is skipped. -/
theorem control_characters_are_skipped :
    emptyDocument.Grammatical ∧ emptyDocument.Fits ∧ emptyDocument.ShortNames ∧
      emptyDocument.IsContainer ∧ isWhite 1 = false ∧
      cJSONParse rationals (emptyDocument.text ++ [1] ++ 0 :: []) =
        .ok (emptyDocument.items rationals) :=
  ⟨trivial, trivial, trivial, trivial, rfl, rfl⟩

end Thingsee.Json
