import Thingsee.Json.Acceptance
import Thingsee.Json.Print

/-!
Owns the round trip: what `cJSON_Print` and `cJSON_PrintUnformatted` print is a document of the
grammar, and `cJSON_Parse` reads the tree back from it. `parsing_undoes_printing` says when.

A printed text is given back as data: a string as its characters, an integer as its number, a tree
as a body with the white space that formatting puts between its items.
-/

namespace Thingsee.Json

open Support List

theorem charText_document {char : UInt8} (nonzero : char ≠ 0) :
    ∃ token : StringChar, token.text = charText char ∧ token.content = [char] := by
  by_cases plain : isPlain char = true
  · have printed : charText char = [char] := by
      have each : ∀ char, isPlain char = true → charText char = [char] := by
        apply forall_octet
        decide +kernel
      exact each char plain
    exact ⟨.plain char plain, printed.symm, rfl⟩
  · by_cases escape : ∃ letter, (letter, char) ∈ escapes ∧ charText char = [92, letter]
    · obtain ⟨letter, allowed, printed⟩ := escape
      exact ⟨.escape letter char allowed, printed.symm, rfl⟩
    · have unicode : ∀ char, char ≠ 0 → isPlain char = false →
          escapes.any (fun pair => decide (pair.2 = char ∧ charText char = [92, pair.1])) = false →
          charText char = 92 :: 117 :: [48, 48, hexDigit (char.toNat / 16),
            hexDigit (char.toNat % 16)] ∧
          [48, 48, hexDigit (char.toNat / 16), hexDigit (char.toNat % 16)].all isHexDigit = true ∧
          isScalarCode (codePoint [48, 48, hexDigit (char.toNat / 16),
            hexDigit (char.toNat % 16)]) = true ∧
          utf8 (codePoint [48, 48, hexDigit (char.toNat / 16), hexDigit (char.toNat % 16)]) =
            [char] := by
        apply forall_octet
        decide +kernel
      have noEscape : escapes.any (fun pair =>
        decide (pair.2 = char ∧ charText char = [92, pair.1])) = false := by
        rw [Bool.eq_false_iff]
        intro found
        obtain ⟨⟨letter, value⟩, member, same⟩ := any_eq_true.mp found
        obtain ⟨value_eq, printed⟩ := of_decide_eq_true same
        have value_eq : value = char := value_eq
        rw [value_eq] at member
        exact escape ⟨letter, member, printed⟩
      obtain ⟨printed, hex, allowed, content⟩ :=
        unicode char nonzero (by simpa using plain) noEscape
      exact ⟨.unicode _ rfl hex allowed, printed.symm, content⟩

variable {text : List UInt8} (number : Nat) (value : Int) {D : Type} {doubles : Doubles D}

theorem streamPrintStringPtr_document (nonzero : (0 : UInt8) ∉ text) :
    ∃ chars, stringText chars = streamPrintStringPtr text ∧ contents chars = text := by
  suffices inside : ∃ chars, charsText chars = text.flatMap charText ∧ contents chars = text by
    obtain ⟨chars, printed, content⟩ := inside
    refine ⟨chars, ?_, content⟩
    unfold stringText streamPrintStringPtr
    rw [printed]
  induction text with
  | nil => exact ⟨[], rfl, rfl⟩
  | cons char text ih =>
    rw [mem_cons, not_or] at nonzero
    obtain ⟨chars, printed, content⟩ := ih nonzero.2
    obtain ⟨token, token_text, token_content⟩ := charText_document (Ne.symm nonzero.1)
    refine ⟨token :: chars, ?_, ?_⟩
    · rw [flatMap_cons, ← printed, ← token_text]
      rfl
    · show token.content ++ contents chars = char :: text
      rw [token_content, content]
      rfl

theorem strtoul_eq_digitsValue (allowed : text.all isDigit = true) (value : Nat) :
    strtoul value text = digitsValue value text := by
  induction text generalizing value with
  | nil => rfl
  | cons char text ih =>
    rw [all_cons, Bool.and_eq_true] at allowed
    rw [strtoul, if_pos allowed.1]
    exact ih allowed.2 _

theorem digits_allowed : (digits number).all isDigit = true :=
  all_eq_true.mpr fun _ member => isDigit_of_mem_digits number member

theorem digitsValue_digits : digitsValue 0 (digits number) = number := by
  rw [← strtoul_eq_digitsValue (digits_allowed number), strtoul_digits]

theorem digits_zero_head (zero : (digits number).head? = some 48) : digits number = [48] := by
  obtain ⟨rest, shape⟩ : ∃ rest, digits number = 48 :: rest := by
    cases text : digits number with
    | nil => exact absurd text (digits_ne_nil number)
    | cons char rest =>
      rw [text] at zero
      cases zero
      exact ⟨rest, rfl⟩
  cases rest with
  | nil => exact shape
  | cons second rest =>
    have allowed := digits_allowed number
    rw [shape, all_cons, Bool.and_eq_true] at allowed
    have value : number < (0 + 1) * 10 ^ (second :: rest).length := by
      calc number = digitsValue 0 (second :: rest) := by
            rw [← digitsValue_digits number, shape]
            rfl
        _ < _ := digitsValue_lt allowed.2 0
    rw [Nat.zero_add, Nat.one_mul] at value
    have length := digits_length number _ (Nat.succ_pos rest.length) value
    rw [shape] at length
    simp only [length_cons] at length
    omega

theorem no_digits_allowed : ([] : List UInt8).all isDigit = true := rfl

def integerToken (value : Int) : NumberToken where
  negative := decide (value < 0)
  zeros := 0
  integer := digits value.natAbs
  fraction := []
  exponent := none
  integer_allowed := digits_allowed value.natAbs
  integer_ne_nil := digits_ne_nil value.natAbs
  integer_zero := digits_zero_head value.natAbs
  fraction_allowed := no_digits_allowed

theorem integerToken_text : (integerToken value).text = decimal value := by
  unfold NumberToken.text NumberToken.signText NumberToken.partsText NumberToken.fractionText
    NumberToken.exponentText decimal integerToken
  by_cases negative : value < 0
  · simp [negative]
  · simp [negative]

theorem integerToken_magnitude : (integerToken value).magnitude = value.natAbs :=
  digitsValue_digits value.natAbs

theorem integerToken_value (arithmetic : doubles.Exact) {value : Int} (fits : IsInt32 value) :
    (integerToken value).value doubles = doubles.ofInt value := by
  have bounds : -0x80000000 ≤ value ∧ value ≤ 0x7fffffff := fits
  have magnitude := integerToken_magnitude value
  have small : value.natAbs < 0x20000000000000 := by omega
  rw [NumberToken.value_eq arithmetic rfl rfl (by rw [magnitude]; exact small), magnitude]
  show doubles.copySign (doubles.ofInt value.natAbs) (decide (value < 0)) = _
  by_cases negative : value < 0
  · rw [decide_eq_true negative, arithmetic.copySign_negative (by omega) small]
    congr 1
    omega
  · rw [decide_eq_false negative, arithmetic.copySign_positive small]
    congr 1
    omega

theorem streamPrintNumber_integer (arithmetic : doubles.Exact) {stored : Number D}
    (integer : stored.Integer) :
    streamPrintNumber doubles stored = decimal (stored.valueInt doubles) := by
  have fits : IsInt32 (stored.valueInt doubles) := integer.isInt32
  have zeroFits : IsInt32 0 := by decide
  unfold streamPrintNumber
  rw [integer.valueDouble_eq]
  simp only [arithmetic.equal_ofInt fits zeroFits, arithmetic.isInt_ofInt fits,
    arithmetic.dblEqual_ofInt fits, arithmetic.signBit_ofInt fits]
  by_cases zero : stored.valueInt doubles = 0
  · rw [zero]
    rfl
  · simp [zero]

/-- The name that counts: only members of objects are printed with one. -/
def shownName (name : List UInt8) (parent : Container) : List UInt8 :=
  if parent = .object then name else []

def Items.plain {V W : Type} (view : V → W) : Items V → Items W
  | .nil => .nil
  | .leaf name value rest => .leaf name (view value) (rest.plain view)
  | .branch name type _ children rest => .branch name type false (children.plain view)
      (rest.plain view)

/-- A value that JSON has: a literal, an integer of 32 bits or a string without zeros. -/
def Value.Storable {D : Type} : Value D → Prop
  | .null | .bool _ => True
  | .number stored => stored.Integer
  | .string text => 0 ∉ text ∧ text.length ≤ 65534
  | .buffer _ => False

namespace Items

/-- All names and values can be printed. -/
def Storable (parent : Container) : Items (Value D) → Prop
  | .nil => True
  | .leaf name value rest =>
    (0 ∉ shownName name parent ∧ (shownName name parent).length ≤ 65534) ∧ value.Storable ∧
      rest.Storable parent
  | .branch name type _ children rest =>
    (0 ∉ shownName name parent ∧ (shownName name parent).length ≤ 65534) ∧
      children.Storable type ∧ rest.Storable parent

/-- The members of objects that are no containers have short names. -/
def ShortNames (parent : Container) : Items (Value D) → Prop
  | .nil => True
  | .leaf name _ rest => ShortName (shownName name parent) ∧ rest.ShortNames parent
  | .branch _ type _ children rest => children.ShortNames type ∧ rest.ShortNames parent

def IsSingle : Items (Value D) → Prop
  | .nil => False
  | .leaf _ _ rest | .branch _ _ _ _ rest => rest = .nil

end Items

/-- The white space in front of an item, which may be the first one. -/
def lead (fmt first : Bool) : Container → List UInt8
  | .array => if fmt && !first then [32] else []
  | .object => if fmt then [10] else []

def trail (fmt : Bool) (depth : Nat) : Container → List UInt8
  | .array => []
  | .object => if fmt then List.replicate (depth - 1) 9 else []

variable (fmt : Bool) (depth : Nat) (type parent : Container)

theorem opening_eq : opening fmt type = type.opening :: lead fmt true type := by
  cases type <;> cases fmt <;> rfl

theorem closing_eq : closing fmt depth type = trail fmt depth type ++ [type.closing] := by
  cases type <;> rfl

theorem afterValue_comma : afterValue fmt false parent = 44 :: lead fmt false parent := by
  cases parent <;> cases fmt <;> rfl

theorem all_replicate_tab (count : Nat) : (List.replicate count (9 : UInt8)).all isWhite =
    true := by
  apply all_eq_true.mpr
  intro char member
  rw [eq_of_mem_replicate member]
  rfl

theorem lead_white (first : Bool) (parent : Container) :
    (lead fmt first parent).all isWhite = true := by
  cases parent <;> cases fmt <;> cases first <;> rfl

theorem trail_white : (trail fmt depth parent).all isWhite = true := by
  cases parent with
  | array => rfl
  | object =>
    cases fmt with
    | false => rfl
    | true => exact all_replicate_tab _

theorem afterValue_white : (afterValue fmt true parent).all isWhite = true := by
  cases parent <;> cases fmt <;> rfl

def Space.append (first second : List UInt8) (firstWhite : first.all isWhite = true)
    (secondWhite : second.all isWhite = true) : Space :=
  ⟨first ++ second, by rw [all_append, firstWhite, secondWhite]; rfl⟩

section Printed

variable {parent : Container} {depth : Nat} {items : Items (Value D)}

theorem beforeValue_label {name : List UInt8} (nonzero : (0 : UInt8) ∉ shownName name parent)
    (fmt first : Bool) (depth : Nat) :
    ∃ label : Label, label.text parent = lead fmt first parent ++
      beforeValue fmt depth name parent ∧
      label.itemName parent = shownName name parent := by
  cases parent with
  | array =>
    refine ⟨⟨.none, [], .none, ⟨_, lead_white fmt first .array⟩⟩, ?_, rfl⟩
    exact (append_nil _).symm
  | object =>
    obtain ⟨chars, printed, content⟩ := @streamPrintStringPtr_document name nonzero
    have tabs : (if fmt then List.replicate depth (9 : UInt8) else []).all isWhite = true := by
      cases fmt with
      | false => rfl
      | true => exact all_replicate_tab depth
    have start : (if fmt then [(9 : UInt8)] else []).all isWhite = true := by
      cases fmt <;> rfl
    refine ⟨⟨.append _ _ (lead_white fmt first .object) tabs, chars, .none,
      ⟨_, start⟩⟩, ?_, content⟩
    simp [Label.text, beforeValue, Space.append, Space.none, printed]

theorem printLeaf_scalar (arithmetic : doubles.Exact) {value : Value D}
    (storable : value.Storable) :
    ∃ scalar : Scalar, scalar.text = printLeaf doubles value ∧ scalar.Grammatical ∧ scalar.Fits ∧
      (scalar.value doubles).shown doubles = value.shown doubles := by
  cases value with
  | null => exact ⟨.null, rfl, trivial, trivial, rfl⟩
  | bool value =>
    refine ⟨.bool value, ?_, trivial, trivial, rfl⟩
    cases value <;> rfl
  | number stored =>
    have integer : stored.Integer := storable
    have fits : IsInt32 (stored.valueInt doubles) := integer.isInt32
    refine ⟨.number (integerToken (stored.valueInt doubles)), ?_, rfl, trivial, ?_⟩
    · exact (integerToken_text _).trans (streamPrintNumber_integer arithmetic integer).symm
    · show (Value.number (setValueNumber doubles
        ((integerToken (stored.valueInt doubles)).value doubles))).shown doubles = _
      rw [integerToken_value arithmetic fits, setValueNumber_ofInt arithmetic fits, Value.shown,
        integer.valueDouble_eq]
  | string text =>
    obtain ⟨chars, printed, content⟩ := streamPrintStringPtr_document storable.1
    refine ⟨.string chars, printed, trivial, ?_, ?_⟩
    · show (contents chars).length ≤ 65534
      rw [content]
      exact storable.2
    · show Shown.string (contents chars) = Shown.string text
      rw [content]
  | buffer bytes => cases storable

/-- A body is printed for items, with the white space around them. -/
structure Body.Prints (doubles : Doubles D) (fmt first : Bool) (parent : Container) (depth : Nat)
    (items : Items (Value D)) (body : Body) : Prop where
  nonempty : body.isNil = false
  text : body.text parent =
    lead fmt first parent ++ printItems doubles fmt parent depth items ++ trail fmt depth parent
  grammatical : body.Grammatical
  fits : body.Fits parent
  short : body.ShortNames parent ↔ items.ShortNames parent
  shown : (body.items doubles parent).plain (Value.shown doubles) =
    items.seen (Value.shown doubles) parent

structure ContainerPrints (doubles : Doubles D) (fmt : Bool) (type : Container) (depth : Nat)
    (items : Items (Value D)) (empty : Space) (body : Body) : Prop where
  text : containerText type empty body = streamPrintContainer doubles fmt depth type items
  grammatical : body.Grammatical
  fits : body.Fits type
  short : body.ShortNames type ↔ items.ShortNames type
  shown : (body.items doubles type).plain (Value.shown doubles) =
    items.seen (Value.shown doubles) type

theorem containerPrints {fmt : Bool} {type : Container}
    (printed : items.isNil = false → ∃ body, Body.Prints doubles fmt true type depth items body) :
    ∃ empty body, ContainerPrints doubles fmt type depth items empty body := by
  cases nil : items.isNil with
  | true =>
    cases items with
    | nil =>
      refine ⟨.append _ _ (lead_white fmt true type) (trail_white fmt depth type), .nil, ?_,
        trivial, trivial, Iff.rfl, rfl⟩
      unfold streamPrintContainer containerText
      rw [opening_eq, closing_eq]
      simp [Body.inside, Body.text, Space.append, printItems]
    | leaf name value rest => cases nil
    | branch name kind packed children rest => cases nil
  | false =>
    obtain ⟨body, prints⟩ := printed nil
    refine ⟨.none, body, ?_, prints.grammatical, prints.fits, prints.short, prints.shown⟩
    unfold streamPrintContainer containerText
    rw [opening_eq, closing_eq, Body.inside_of_nonempty prints.nonempty, prints.text]
    simp

/-- The items behind one, with the white space and the comma between them. -/
structure Body.Follows (doubles : Doubles D) (fmt : Bool) (parent : Container) (depth : Nat)
    (items : Items (Value D)) (after : Space) (body : Body) : Prop where
  text : after.chars ++ (body.comma ++ body.text parent) =
    afterValue fmt items.isNil parent ++ printItems doubles fmt parent depth items ++
      trail fmt depth parent
  grammatical : body.Grammatical
  fits : body.Fits parent
  short : body.ShortNames parent ↔ items.ShortNames parent
  shown : (body.items doubles parent).plain (Value.shown doubles) =
    items.seen (Value.shown doubles) parent

theorem body_follows {fmt : Bool}
    (printed : items.isNil = false → ∃ body, Body.Prints doubles fmt false parent depth items body)
      :
    ∃ after body, Body.Follows doubles fmt parent depth items after body := by
  cases nil : items.isNil with
  | true =>
    cases items with
    | nil =>
      refine ⟨.append _ _ (afterValue_white fmt parent) (trail_white fmt depth parent), .nil, ?_,
        trivial, trivial, Iff.rfl, rfl⟩
      simp [Body.comma, Body.text, Space.append, printItems, Items.isNil]
    | leaf name value rest => cases nil
    | branch name kind packed children rest => cases nil
  | false =>
    obtain ⟨body, prints⟩ := printed nil
    refine ⟨.none, body, ?_, prints.grammatical, prints.fits, prints.short, prints.shown⟩
    rw [nil, afterValue_comma, Body.comma_of_nonempty prints.nonempty, prints.text]
    simp [Space.none]

theorem items_print (arithmetic : doubles.Exact) (fmt : Bool) (items : Items (Value D)) :
    ∀ (first : Bool) (parent : Container) (depth : Nat), items.Storable parent →
      items.isNil = false → ∃ body, Body.Prints doubles fmt first parent depth items body := by
  induction items with
  | nil =>
    intro first parent depth _ nonempty
    cases nonempty
  | leaf name value rest ih =>
    intro first parent depth storable _
    obtain ⟨⟨nonzero, bound⟩, valueStorable, restStorable⟩ := storable
    obtain ⟨label, label_text, name_eq⟩ := beforeValue_label nonzero fmt first depth
    obtain ⟨scalar, scalar_text, grammatical, fits, shown⟩ :=
      printLeaf_scalar arithmetic valueStorable
    obtain ⟨after, others, follows⟩ := body_follows (ih false parent depth
      restStorable)
    refine ⟨.leaf label scalar after others, rfl, ?_, ⟨grammatical, follows.grammatical⟩,
      ⟨?_, fits, follows.fits⟩, ?_, ?_⟩
    · calc (Body.leaf label scalar after others).text parent
          = label.text parent ++ scalar.text ++
              (after.chars ++ (others.comma ++ others.text parent)) := by
            simp only [Body.text, append_assoc]
        _ = _ := by
            rw [label_text, scalar_text, follows.text]
            simp only [printItems, append_assoc]
    · rw [name_eq]
      exact bound
    · simp only [Body.ShortNames, Items.ShortNames, name_eq, follows.short]
    · simp only [Body.items, Items.plain, Items.seen, name_eq, shown, follows.shown, shownName]
  | branch name type packed children rest innerHypothesis ih =>
    intro first parent depth storable _
    obtain ⟨⟨nonzero, bound⟩, childrenStorable, restStorable⟩ := storable
    obtain ⟨label, label_text, name_eq⟩ := beforeValue_label nonzero fmt first depth
    obtain ⟨empty, inner, prints⟩ := containerPrints
      (innerHypothesis true type (depth + 1) childrenStorable)
    obtain ⟨after, others, follows⟩ := body_follows (ih false parent depth
      restStorable)
    refine ⟨.branch label type empty inner after others, rfl, ?_,
      ⟨prints.grammatical, follows.grammatical⟩, ⟨?_, prints.fits, follows.fits⟩, ?_, ?_⟩
    · calc (Body.branch label type empty inner after others).text parent
          = label.text parent ++ containerText type empty inner ++
              (after.chars ++ (others.comma ++ others.text parent)) := by
            simp only [Body.text, containerText, append_assoc]
        _ = _ := by
            rw [label_text, prints.text, follows.text]
            simp only [printItems, streamPrintContainer, append_assoc]
    · rw [name_eq]
      exact bound
    · simp only [Body.ShortNames, Items.ShortNames, prints.short, follows.short]
    · simp only [Body.items, Items.plain, Items.seen, name_eq, prints.shown, follows.shown,
        shownName]

theorem tree_prints (arithmetic : doubles.Exact) (fmt : Bool) {item : Items (Value D)}
    (single : item.IsSingle) (storable : item.Storable .array) :
    ∃ document : Document, document.text = streamPrintValue doubles fmt 0 item ∧
      document.Grammatical ∧ document.Fits ∧ (document.ShortNames ↔ item.ShortNames .array) ∧
      (document.items doubles).plain (Value.shown doubles) =
        item.seen (Value.shown doubles) .array := by
  have always : ShortName [] := by decide
  cases item with
  | nil => cases single
  | leaf name value rest =>
    cases single
    obtain ⟨scalar, scalar_text, grammatical, fits, shown⟩ :=
      printLeaf_scalar arithmetic storable.2.1
    refine ⟨.scalar .none scalar .none, ?_, grammatical, fits, ?_, ?_⟩
    · exact (append_nil _).trans scalar_text
    · exact ⟨fun _ => ⟨always, trivial⟩, fun _ => trivial⟩
    · show Items.leaf [] ((scalar.value doubles).shown doubles) .nil = _
      rw [shown]
      rfl
  | branch name type packed children rest =>
    cases single
    obtain ⟨empty, body, prints⟩ := containerPrints fun nonempty =>
      items_print arithmetic fmt children true type 0 storable.2.1 nonempty
    refine ⟨.container .none type empty body .none, ?_, prints.grammatical, prints.fits, ?_, ?_⟩
    · exact (append_nil _).trans prints.text
    · exact ⟨fun short => ⟨prints.short.mp short, trivial⟩, fun short => prints.short.mpr short.1⟩
    · show Items.branch [] type false
        ((body.items doubles type).plain (Value.shown doubles)) .nil = _
      rw [prints.shown]
      rfl

end Printed

section RoundTrip

variable (doubles)

/-- Parsing what stands in memory gives a tree with the same types, names, values and order. -/
def ReadsBack (item : Items (Value D)) (memory : List UInt8) : Prop :=
  ∃ parsed, cJSONParse doubles memory = .ok parsed ∧
    parsed.plain (Value.shown doubles) = item.seen (Value.shown doubles) .array

/-- Parsing undoes both ways of printing, and both passes put the same number of characters. -/
def RoundTrips (item : Items (Value D)) : Prop :=
  (∀ memory, ReadsBack doubles item (cJSONPrint doubles item ++ memory)) ∧
    (∀ memory, ReadsBack doubles item (cJSONPrintUnformatted doubles item ++ memory)) ∧
    ∀ formatted, (secondPass doubles formatted item).numput =
      (firstPass doubles formatted item).numput

variable {doubles}

section

variable (arithmetic : doubles.Exact) {item : Items (Value D)} (single : item.IsSingle)
  (storable : item.Storable .array)
include arithmetic single storable

theorem readsBack_of_shortNames (short : item.ShortNames .array) (fmt : Bool)
    (memory : List UInt8) :
    ReadsBack doubles item (cJSONPrintString doubles fmt item ++ memory) := by
  obtain ⟨document, printed, grammatical, fits, shortNames, shown⟩ :=
    tree_prints arithmetic fmt single storable
  have accepted := cJSONParse_document arithmetic grammatical fits (shortNames.mpr short) memory
  refine ⟨_, ?_, shown⟩
  rw [cJSONPrintString_eq, ← printed, append_assoc]
  exact accepted

theorem corrupted_of_longName (long : ¬ item.ShortNames .array) (fmt : Bool) (memory : List UInt8) :
    cJSONParse doubles (cJSONPrintString doubles fmt item ++ memory) = .error .corrupted := by
  obtain ⟨document, printed, grammatical, fits, shortNames, _⟩ :=
    tree_prints arithmetic fmt single storable
  rw [cJSONPrintString_eq, ← printed, append_assoc]
  exact cJSONParse_long_name arithmetic grammatical fits (fun short => long (shortNames.mp short))
    memory

end

end RoundTrip

/-- Parsing undoes printing of the trees whose scalar members have names of at most 254 bytes. -/
theorem parsing_undoes_printing {D : Type} (doubles : Doubles D) (arithmetic : doubles.Exact)
    (item : Items (Value D)) (single : item.IsSingle) (storable : item.Storable .array) :
    RoundTrips doubles item ↔ item.ShortNames .array := by
  constructor
  · intro trips
    by_contra long
    obtain ⟨parsed, returned, _⟩ := trips.1 []
    have corrupted := corrupted_of_longName arithmetic single storable long true []
    have same : cJSONParse doubles (cJSONPrint doubles item ++ []) = .error .corrupted := corrupted
    rw [returned] at same
    cases same
  · intro short
    exact ⟨readsBack_of_shortNames arithmetic single storable short true,
      readsBack_of_shortNames arithmetic single storable short false,
      fun formatted => secondPass_numput doubles formatted item⟩

/-- An array of an object with two members of one name, and an empty object. -/
def smallTree : Items (Value SignedRat) :=
  .branch [] .array false
    (.branch [] .object true
      (.leaf [34, 255] (.number (.int8 (-5))) (.leaf [34, 255] (.string [10, 1, 92]) .nil))
      (.branch [] .object false .nil .nil)) .nil

theorem smallTree_storable : smallTree.Storable .array := by
  have noName : (0 : UInt8) ∉ ([] : List UInt8) ∧ ([] : List UInt8).length ≤ 65534 := by decide
  have name : (0 : UInt8) ∉ [(34 : UInt8), 255] ∧ [(34 : UInt8), 255].length ≤ 65534 := by decide
  have text : (0 : UInt8) ∉ [(10 : UInt8), 1, 92] ∧ [(10 : UInt8), 1, 92].length ≤
    65534 := by decide
  exact ⟨noName, ⟨noName, ⟨name, (by decide : (-128 : Int) ≤ -5 ∧ (-5 : Int) ≤ 127), name,
    text, trivial⟩, noName, trivial, trivial⟩, trivial⟩

theorem smallTree_shortNames : smallTree.ShortNames .array := by
  have shortName : ShortName [34, 255] := by decide
  exact ⟨⟨⟨shortName, shortName, trivial⟩, trivial, trivial⟩, trivial⟩

theorem parsing_undoes_printing_small : RoundTrips rationals smallTree :=
  (parsing_undoes_printing rationals rationals_exact smallTree rfl smallTree_storable).mpr
    smallTree_shortNames

def longName : List UInt8 := List.replicate 255 97

/-- An object whose one member is `null` and has a long name. -/
def longNameTree : Items (Value SignedRat) :=
  .branch [] .object false (.leaf longName .null .nil) .nil

/-- The text of the tree is parsed with a byte written beyond the memory of an item. -/
theorem longNameTree_corrupts :
    longNameTree.IsSingle ∧ longNameTree.Storable .array ∧ ¬ RoundTrips rationals longNameTree := by
  have nonzero : (0 : UInt8) ∉ longName := by
    intro member
    cases eq_of_mem_replicate member
  have length : longName.length = 255 := length_replicate
  have bound : longName.length ≤ 65534 := by omega
  have storable : longNameTree.Storable .array :=
    ⟨⟨(by decide : (0 : UInt8) ∉ []), (by decide : ([] : List UInt8).length ≤ 65534)⟩,
      ⟨⟨nonzero, bound⟩, trivial, trivial⟩, trivial⟩
  have long : ¬ longNameTree.ShortNames .array := by
    rintro ⟨⟨short, _⟩, _⟩
    have few : longName.length + 1 ≤ 255 := short
    omega
  have single : longNameTree.IsSingle := rfl
  refine ⟨single, storable, fun trips => ?_⟩
  obtain ⟨parsed, returned, _⟩ := trips.1 []
  have corrupted := corrupted_of_longName rationals_exact single storable long true []
  have same : cJSONParse rationals (cJSONPrint rationals longNameTree ++ []) = .error .corrupted :=
    corrupted
  rw [returned] at same
  cases same

section Reprinting

theorem printLeaf_of_shown {value other : Value D}
    (same : value.shown doubles = other.shown doubles) :
    printLeaf doubles value = printLeaf doubles other := by
  cases value <;> cases other <;> simp_all [Value.shown, printLeaf, streamPrintNumber]

theorem Items.isNil_of_plain {items others : Items (Value D)} {parent : Container}
    (same : items.plain (Value.shown doubles) = others.seen (Value.shown doubles) parent) :
    items.isNil = others.isNil := by
  cases items <;> cases others <;> first | rfl | cases same

/-- Only what accessors show is printed. -/
theorem printItems_of_plain (fmt : Bool) {items others : Items (Value D)} {parent : Container}
    (depth : Nat)
    (same : items.plain (Value.shown doubles) = others.seen (Value.shown doubles) parent) :
    printItems doubles fmt parent depth items = printItems doubles fmt parent depth others := by
  induction others generalizing items parent depth with
  | nil =>
    cases items with
    | nil => rfl
    | leaf | branch => cases same
  | leaf name value rest ih =>
    cases items with
    | nil | branch => cases same
    | leaf =>
      simp only [Items.plain, Items.seen, Items.leaf.injEq] at same
      obtain ⟨rfl, shown, others⟩ := same
      simp only [printItems, printLeaf_of_shown shown, Items.isNil_of_plain others,
        ih depth others]
      cases parent <;> rfl
  | branch name type packed children rest ihChildren ih =>
    cases items with
    | nil | leaf => cases same
    | branch =>
      simp only [Items.plain, Items.seen, Items.branch.injEq] at same
      obtain ⟨rfl, rfl, -, inner, others⟩ := same
      simp only [printItems, Items.isNil_of_plain others, ihChildren (depth + 1) inner,
        ih depth others]
      cases parent <;> rfl

/-- **A text that was printed is parsed as a tree that prints the same texts.** -/
theorem reprinting_changes_nothing (arithmetic : doubles.Exact) {item : Items (Value D)}
    (single : item.IsSingle) (storable : item.Storable .array) (short : item.ShortNames .array)
    (fmt : Bool) (memory : List UInt8) :
    ∃ parsed, cJSONParse doubles (cJSONPrintString doubles fmt item ++ memory) = .ok parsed ∧
      ∀ formatted, cJSONPrintString doubles formatted parsed =
        cJSONPrintString doubles formatted item := by
  obtain ⟨parsed, returned, same⟩ :=
    readsBack_of_shortNames arithmetic single storable short fmt memory
  refine ⟨parsed, returned, fun formatted => ?_⟩
  rw [cJSONPrintString_eq, cJSONPrintString_eq]
  congr 1
  cases item with
  | nil => cases single
  | leaf name value rest =>
    cases parsed with
    | nil | branch => cases same
    | leaf =>
      simp only [Items.plain, Items.seen, Items.leaf.injEq] at same
      exact printLeaf_of_shown same.2.1
  | branch name type packed children rest =>
    cases parsed with
    | nil | leaf => cases same
    | branch =>
      simp only [Items.plain, Items.seen, Items.branch.injEq] at same
      obtain ⟨-, rfl, -, inner, -⟩ := same
      simp only [streamPrintValue, streamPrintContainer, printItems_of_plain formatted 0 inner]

end Reprinting

theorem reprinting_changes_nothing_small :
    ∃ parsed, cJSONParse rationals (cJSONPrintString rationals true smallTree ++ []) = .ok parsed ∧
      ∀ formatted, cJSONPrintString rationals formatted parsed =
        cJSONPrintString rationals formatted smallTree :=
  reprinting_changes_nothing rationals_exact (show smallTree.IsSingle from rfl) smallTree_storable
    smallTree_shortNames true []

end Thingsee.Json
