import Thingsee.Json.Documents

/-!
Owns what the parser rejects: documents that are cut off, that go on behind their end, or that have
numbers with zeros in front. `documents_are_accepted` puts this together with what it accepts and
with its termination.

The text of a value may be broken off or have a number that stops early. Then the parser is stuck:
it returns `NULL`, or it returns with nothing but a digit or the end of the text in front of it,
and the container around the value returns `NULL`.
-/

namespace Thingsee.Json

open Support Support.Scanner List

variable {D : Type} {doubles : Doubles D}

/-! ## Stuck parsers -/

variable {parsed : Parsed D} {body : Body} {text : List UInt8} {count fuel : Nat}

/-- Nothing is left but white space, or a digit is next. -/
def Halted (left : List UInt8) : Prop :=
  left.dropWhile isSkipped = [] ∨ isDigit (left.headD 0) = true

/-- A function returned `NULL`, or returned in front of what cannot follow. -/
def Stuck {α : Type} (created : α → Prop) (result : Except Failure (α × List UInt8)) : Prop :=
  result = .error .null ∨ ∃ value left, result = .ok (value, left) ∧ created value ∧ Halted left

/-- A value that no length field keeps from being stored. -/
def Parsed.Fits : Parsed D → Prop
  | .string text => text.length ≤ 65534
  | .null | .bool _ | .number _ | .container _ _ _ => True

variable {left : List UInt8} {item : Parser (Items (Value D))} (label : Label) (parent : Container)

theorem Halted.head (halted : Halted left) :
    left.headD 0 ≠ 44 ∧ left.headD 0 ≠ 93 ∧ left.headD 0 ≠ 125 := by
  have each : ∀ char, isDigit char = true ∨ isSkipped char = true →
      char ≠ 44 ∧ char ≠ 93 ∧ char ≠ 125 := by
    apply forall_octet
    decide +kernel
  rcases halted with white | digit
  · cases left with
    | nil => decide
    | cons char rest =>
      apply each char
      by_contra neither
      rw [not_or] at neither
      rw [dropWhile_cons_of_neg neither.2] at white
      cases white
  · exact each _ (.inl digit)

theorem Halted.dropWhile (halted : Halted left) : Halted (left.dropWhile isSkipped) := by
  have each : ∀ char, isDigit char = true → isSkipped char = false := by
    apply forall_octet
    decide +kernel
  rcases halted with white | digit
  · rw [white]
    exact .inl rfl
  · rw [dropWhile_of_head (each _ digit)]
    exact .inr digit

theorem createItem_fits (fits : parsed.Fits) {name : List UInt8} (short : ShortName name)
    (argument : Option (List UInt8)) (name_eq : argument.getD [] = name) :
    ∃ item, createItem doubles argument parsed = some item := by
  have created {value : Value D} (sizeFits : value.sizeFits = true) :
      ∃ item, createNamed argument value = some item := by
    have same : createNamed argument value = createNamed (some name) value := by
      rw [← name_eq]
      cases argument <;> rfl
    exact ⟨_, same.trans ((createNamed_eq name sizeFits).trans (if_pos short))⟩
  cases parsed with
  | null => exact created rfl
  | bool value => exact created rfl
  | number value => exact created rfl
  | string text =>
    have bound : text.length ≤ 65534 := fits
    exact created (decide_eq_true (show text.length + 1 ≤ 65535 by omega))
  | container type packed children =>
    have bound : name.length + 1 ≤ 255 := short
    have nameFits : textFits (argument.getD []) = true := by
      rw [name_eq]
      exact decide_eq_true (show name.length + 1 ≤ 65535 by omega)
    exact ⟨_, if_pos nameFits⟩

theorem Label.nameArgument_getD : (label.nameArgument parent).getD [] = label.itemName parent := by
  cases parent <;> rfl

def Any {α : Type} (_ : α) : Prop := True

theorem run_streamParseCreateItem {name : Option (List UInt8)} {item : Items (Value D)}
    (created : createItem doubles name parsed = some item) (rest : List UInt8) :
    (streamParseCreateItem doubles parsed name).run rest = .ok (item, rest) := by
  unfold streamParseCreateItem
  rw [created]
  rfl

def Creatable (doubles : Doubles D) (name : Option (List UInt8)) (parsed : Parsed D) : Prop :=
  ∃ item, createItem doubles name parsed = some item

theorem Stuck.mono {α : Type} {created other : α → Prop}
    {result : Except Failure (α × List UInt8)} (stuck : Stuck created result)
    (implies : ∀ value, created value → other value) : Stuck other result := by
  rcases stuck with none | ⟨value, left, returned, holds, halted⟩
  · exact .inl none
  · exact .inr ⟨value, left, returned, implies value holds, halted⟩

theorem Parsed.Fits.creatable (fits : parsed.Fits) {label : Label} {parent : Container}
    (short : ShortName (label.itemName parent)) :
    Creatable doubles (label.nameArgument parent) parsed :=
  createItem_fits fits short (label.nameArgument parent) (label.nameArgument_getD parent)

theorem stuck_item {value : Parser (Parsed D)} (enough : (label.text parent).length ≤ fuel)
    {broken : List UInt8} (starts : isSkipped (broken.headD 0) = false)
    (stuck : Stuck (Creatable doubles (label.nameArgument parent)) (value.run broken)) :
    Stuck Any ((itemParser doubles fuel value parent).run (label.text parent ++ broken)) := by
  rw [run_itemParser label parent enough starts]
  rcases stuck with none | ⟨parsed, left, returned, ⟨item, created⟩, halted⟩
  · rw [none]
    exact .inl rfl
  · refine .inr ⟨item, left.dropWhile isSkipped, ?_, trivial, halted.dropWhile⟩
    rw [returned]
    exact run_streamParseCreateItem created _

theorem stuck_items (room : 0 < count) (stuck : Stuck Any (item.run text))
    (children : Items (Value D)) :
    Stuck Any ((item >>= fun next => parseItems item count (children.append next)).run text) := by
  rcases stuck with none | ⟨next, left, returned, _, halted⟩
  · exact .inl (run_bind_error none _)
  · obtain ⟨count, rfl⟩ := Nat.exists_eq_succ_of_ne_zero (Nat.pos_iff_ne_zero.mp room)
    refine .inr ⟨children.append next, left, ?_, trivial, halted⟩
    rw [run_bind_ok returned, parseItems, run_peekChar_bind, if_neg halted.head.1]
    rfl

theorem stuck_container {type : Container}
    (other : (text.dropWhile isSkipped).headD 0 ≠ type.closing)
    (stuck : Stuck Any ((itemParser doubles fuel (streamParseValue doubles fuel) type >>=
      parseItems (itemParser doubles fuel (streamParseValue doubles fuel) type) fuel).run text)) :
    (streamParseValue doubles (fuel + 1)).run (type.opening :: text) = .error .null := by
  rw [streamParseValue, run_peekChar_bind, headD_cons, parseValueFrom_opening]
  unfold parseContainer
  rw [run_peekChar_bind, headD_cons, if_neg (by simp), run_getChar_bind, tail_cons,
    run_skip_bind, run_peekChar_bind, if_neg other, run_itemParser_dropWhile, run_bind_assoc]
  rcases stuck with none | ⟨children, left, returned, _, halted⟩
  · rw [run_bind_error none]
  · have unclosed : left.headD 0 ≠ type.closing := by
      cases type with
      | array => exact halted.head.2.1
      | object => exact halted.head.2.2
    rw [run_bind_ok returned, run_peekChar_bind, if_neg unclosed]
    rfl

/-! ## Zeros in front of numbers -/

theorem Scalar.stuck_of_zeros {value : Scalar} (ungrammatical : ¬ value.Grammatical) (fuel : Nat)
    (rest : List UInt8) :
    Stuck Parsed.Fits ((streamParseValue doubles (fuel + 1)).run (value.text ++ rest)) := by
  cases value with
  | null | bool value | string chars => exact absurd trivial ungrammatical
  | number token =>
    have zeros : 0 < token.zeros := Nat.pos_of_ne_zero ungrammatical
    obtain ⟨left, returned, digit⟩ := @NumberToken.run_streamParseNumber_zeros D doubles token zeros
      rest
    obtain ⟨first, others, text_eq, range⟩ := token.text_head
    have head : (token.text ++ rest).headD 0 = first := by rw [text_eq]; rfl
    refine .inr ⟨.number (doubles.copySign (doubles.ofInt 0) token.negative), left, ?_,
      trivial, .inr digit⟩
    rw [streamParseValue, run_peekChar_bind]
    show (parseValueFrom doubles fuel (streamParseValue doubles fuel)
      ((token.text ++ rest).headD 0)).run (token.text ++ rest) = _
    rw [head, parseValueFrom_number _ _ range, run_bind_ok returned]
    rfl

theorem stuck_behind {more : List UInt8} {first : Items (Value D)}
    (returned : item.run text = .ok (first, 44 :: more)) (children : Items (Value D))
    (stuck : ∀ children : Items (Value D), Stuck Any ((item >>= fun next =>
      parseItems item count (children.append next)).run more)) :
    Stuck Any ((item >>= fun next =>
      parseItems item (count + 1) (children.append next)).run text) := by
  rw [run_bind_ok returned, parseItems, run_peekChar_bind, headD_cons, if_pos rfl,
    run_getChar_bind]
  exact stuck _

theorem Body.comma_of_nonempty (nonempty : body.isNil = false) : body.comma = [44] := by
  cases body with
  | nil => cases nonempty
  | leaf label value after others => rfl
  | branch label type empty inner after others => rfl

theorem Body.inside_of_nonempty (nonempty : body.isNil = false) (empty : Space) :
    body.inside empty = [] := by
  cases body with
  | nil => cases nonempty
  | leaf label value after others => rfl
  | branch label type empty inner after others => rfl

theorem Body.nonempty_of_ungrammatical (ungrammatical : ¬ body.Grammatical) :
    body.isNil = false := by
  cases body with
  | nil => exact absurd trivial ungrammatical
  | leaf label value after others => rfl
  | branch label type empty inner after others => rfl

theorem Body.stuck_of_zeros (arithmetic : doubles.Exact) {parent : Container}
    (ungrammatical : ¬ body.Grammatical) (fits : body.Fits parent) (short : body.ShortNames parent)
    (enough : (body.text parent).length < fuel) (room : (body.text parent).length ≤ count)
    (children : Items (Value D)) (rest : List UInt8) :
    Stuck Any ((itemParser doubles fuel (streamParseValue doubles fuel) parent >>= fun next =>
      parseItems (itemParser doubles fuel (streamParseValue doubles fuel) parent) count
        (children.append next)).run (body.text parent ++ rest)) := by
  induction body generalizing parent fuel count children rest with
  | nil => exact absurd trivial ungrammatical
  | leaf label value after others ih =>
    have shape := Body.text_leaf_append label value after others parent rest
    have length := Body.length_text_leaf label value after others parent
    have positive := value.length_text_pos
    rw [shape]
    by_cases grammatical : value.Grammatical
    · have later : ¬ others.Grammatical := fun all => ungrammatical ⟨grammatical, all⟩
      have comma := Body.comma_of_nonempty (Body.nonempty_of_ungrammatical later)
      rw [comma] at length ⊢
      obtain ⟨count, rfl⟩ := Nat.exists_eq_succ_of_ne_zero (show count ≠ 0 by omega)
      have itemRun := run_leaf arithmetic label parent after grammatical fits.2.1 fuel
        (by omega) (endsNumber_comma (others.text parent ++ rest)) rfl
      apply stuck_behind (itemRun.trans (if_pos short.1))
      intro children
      simp only [length_cons, length_nil] at length
      exact ih later fits.2.2 short.2 (by omega) (by omega) children rest
    · obtain ⟨first, chars, text_eq, starts⟩ := value.text_head
      obtain ⟨fuel, rfl⟩ := Nat.exists_eq_succ_of_ne_zero (show fuel ≠ 0 by omega)
      apply stuck_items (by omega)
      apply stuck_item label parent (by omega)
      · rw [text_eq]
        exact starts.skipped
      · exact (Scalar.stuck_of_zeros grammatical fuel _).mono fun _ fits => fits.creatable short.1
  | branch label type empty inner after others innerHypothesis ih =>
    have shape := Body.text_branch_append label type empty after inner others parent rest
    have length := Body.length_text_branch label type empty after inner others parent
    have innerLength : (containerText type empty inner).length =
        (inner.inside empty).length + (inner.text type).length + 2 := by
      simp only [containerText, length_cons, length_append, length_nil]
    rw [shape]
    by_cases grammatical : inner.Grammatical
    · have later : ¬ others.Grammatical := fun all => ungrammatical ⟨grammatical, all⟩
      have comma := Body.comma_of_nonempty (Body.nonempty_of_ungrammatical later)
      rw [comma] at length ⊢
      obtain ⟨count, rfl⟩ := Nat.exists_eq_succ_of_ne_zero (show count ≠ 0 by omega)
      have itemRun := run_branch (inner.parses arithmetic) label parent type empty after
        grammatical fits.1 fits.2.1 fuel (by omega)
        (show isSkipped ((44 :: (others.text parent ++ rest)).headD 0) = false from rfl)
      apply stuck_behind (itemRun.trans (if_pos short.1))
      intro children
      simp only [length_cons, length_nil] at length
      exact ih later fits.2.2 short.2 (by omega) (by omega) children rest
    · have nonempty := Body.nonempty_of_ungrammatical grammatical
      have opened : containerText type empty inner ++ (after.chars ++
          (others.comma ++ (others.text parent ++ rest))) =
          type.opening :: (inner.text type ++ (type.closing :: (after.chars ++
            (others.comma ++ (others.text parent ++ rest))))) := by
        simp [containerText, Body.inside_of_nonempty nonempty]
      obtain ⟨fuel, rfl⟩ := Nat.exists_eq_succ_of_ne_zero (show fuel ≠ 0 by omega)
      have other : (((inner.text type ++ (type.closing :: (after.chars ++
          (others.comma ++ (others.text parent ++ rest)))))).dropWhile isSkipped).headD 0 ≠
            type.closing := by
        obtain ⟨char, chars, skipped, starts⟩ := Body.dropWhile_append nonempty type
          (type.closing :: (after.chars ++ (others.comma ++ (others.text parent ++ rest))))
        rw [skipped]
        cases type with
        | array => exact starts.array
        | object => exact starts.object
      rw [opened]
      apply stuck_items (by omega)
      refine stuck_item label parent (by omega) ?_ (.inl ?_)
      · exact type.startsValue_opening.skipped
      · exact stuck_container other (innerHypothesis grammatical fits.2.1 short.1 (by omega)
          (by omega) .nil _)

/-! ## Texts that are cut off -/

theorem prefix_append_cases {front back : List UInt8} (cut : text <+: front ++ back) :
    text <+: front ∨ ∃ more, text = front ++ more ∧ more <+: back := by
  obtain ⟨rest, whole⟩ := cut
  rcases append_eq_append_iff.mp whole with ⟨more, front_eq, _⟩ | ⟨more, text_eq, back_eq⟩
  · exact .inl ⟨more, front_eq.symm⟩
  · exact .inr ⟨more, text_eq, rest, back_eq.symm⟩

theorem run_parseHexDigits_short {digits : List UInt8} (hex : digits.all isHexDigit = true)
    (short : digits.length < count) (number : Nat) :
    (parseHexDigits count number).run digits = .ok (0, []) := by
  induction digits generalizing count number with
  | nil =>
    obtain ⟨count, rfl⟩ := Nat.exists_eq_succ_of_ne_zero (Nat.pos_iff_ne_zero.mp short)
    rfl
  | cons digit digits ih =>
    rw [length_cons] at short
    rw [all_cons, Bool.and_eq_true] at hex
    obtain ⟨count, rfl⟩ := Nat.exists_eq_succ_of_ne_zero (show count ≠ 0 by omega)
    rw [parseHexDigits, run_bind_ok (run_streamParseHex hex.1 digits)]
    exact ih hex.2 (by omega) _

namespace StringChar

theorem length_content_pos (char : StringChar) : 1 ≤ char.content.length := by
  cases char with
  | plain byte allowed => exact Nat.le_refl _
  | escape letter value allowed => exact Nat.le_refl _
  | unicode digits four hex allowed =>
    show 1 ≤ (utf8 (codePoint digits)).length
    unfold utf8
    split
    · exact Nat.le_refl _
    · split <;> simp

theorem run_parseChars_cut (char : StringChar) {text : List UInt8} (cut : text <+: char.text)
    (strict : text ≠ char.text) (fuel : Nat) (out : List UInt8) :
    ∃ more, (parseChars (fuel + 2) out).run text = .ok (out ++ more, []) ∧
      more.length ≤ char.content.length := by
  have none : ∃ more, (parseChars (fuel + 2) out).run [] = .ok (out ++ more, []) ∧
      more.length ≤ char.content.length :=
    ⟨[], by rw [append_nil]; rfl, Nat.zero_le _⟩
  have backslash : ∃ more, (parseChars (fuel + 2) out).run [92] = .ok (out ++ more, []) ∧
      more.length ≤ char.content.length :=
    ⟨[0], rfl, char.length_content_pos⟩
  cases text with
  | nil => exact none
  | cons first text =>
    cases char with
    | plain byte allowed =>
      obtain ⟨rfl, more⟩ := cons_prefix_cons.mp cut
      exact absurd (congrArg _ (prefix_nil.mp more)) strict
    | escape letter value allowed =>
      obtain ⟨rfl, more⟩ := cons_prefix_cons.mp cut
      cases text with
      | nil => exact backslash
      | cons second text =>
        obtain ⟨rfl, last⟩ := cons_prefix_cons.mp more
        rw [prefix_nil.mp last] at strict
        exact absurd rfl strict
    | unicode digits four hex allowed =>
      obtain ⟨rfl, more⟩ := cons_prefix_cons.mp cut
      cases text with
      | nil => exact backslash
      | cons second text =>
        obtain ⟨rfl, last⟩ := cons_prefix_cons.mp more
        have some : text.all isHexDigit = true := by
          obtain ⟨rest, digits_eq⟩ := last
          rw [← digits_eq, all_append, Bool.and_eq_true] at hex
          exact hex.1
        have short : text.length < 4 := by
          rw [← four]
          apply Nat.lt_of_le_of_ne last.length_le
          intro same
          apply strict
          rw [last.eq_of_length same]
          rfl
        have hex4 : streamParseHex4.run text = .ok (0, []) :=
          run_parseHexDigits_short some short 0
        have escape : parseEscape.run (117 :: text) = .ok ([], []) := by
          unfold parseEscape
          rw [run_peekChar_bind, headD_cons, if_pos (by decide), run_getChar_bind,
            tail_cons]
          unfold parseUnicode
          rw [run_bind_ok hex4]
          rfl
        refine ⟨[], ?_, Nat.zero_le _⟩
        rw [parseChars, run_peekChar_bind, headD_cons, if_neg (by decide),
          run_getChar_bind, if_neg (by decide), tail_cons, run_bind_ok escape]
        rfl

end StringChar

variable {α : Type} {value : Scalar} (chars : List StringChar) {inner : Body}

theorem run_parseChars_cut (cut : text <+: charsText chars) (enough : chars.length < fuel)
    (out : List UInt8) :
    ∃ more, (parseChars fuel out).run text = .ok (out ++ more, []) ∧
      more.length ≤ (contents chars).length := by
  induction chars generalizing text fuel out with
  | nil =>
    obtain ⟨fuel, rfl⟩ := Nat.exists_eq_succ_of_ne_zero (Nat.pos_iff_ne_zero.mp enough)
    rw [prefix_nil.mp cut]
    exact ⟨[], by rw [append_nil]; rfl, Nat.zero_le _⟩
  | cons char chars ih =>
    rw [length_cons] at enough
    have content : (contents (char :: chars)).length =
        char.content.length + (contents chars).length :=
      length_append
    have behind {more : List UInt8} (rest : more <+: charsText chars) :
        ∃ added, (parseChars fuel out).run (char.text ++ more) = .ok (out ++ added, []) ∧
          added.length ≤ (contents (char :: chars)).length := by
      obtain ⟨fuel, rfl⟩ := Nat.exists_eq_succ_of_ne_zero (show fuel ≠ 0 by omega)
      obtain ⟨added, returned, bound⟩ := ih rest
        (show chars.length < fuel by omega) (out ++ char.content)
      refine ⟨char.content ++ added, ?_, ?_⟩
      · rw [char.run_parseChars, returned, append_assoc]
      · rw [content, length_append]
        omega
    rcases prefix_append_cases cut with inside | ⟨more, rfl, rest⟩
    · by_cases whole : text = char.text
      · rw [whole]
        simpa using behind nil_prefix
      · obtain ⟨fuel, rfl⟩ := Nat.exists_eq_succ_of_ne_zero (show fuel ≠ 0 by omega)
        obtain ⟨fuel, rfl⟩ := Nat.exists_eq_succ_of_ne_zero (show fuel ≠ 0 by omega)
        obtain ⟨more, returned, bound⟩ := char.run_parseChars_cut inside whole fuel out
        exact ⟨more, returned, by omega⟩
    · exact behind rest

theorem run_streamParseString_cut (cut : text <+: stringText chars)
    (enough : (charsText chars).length < fuel) :
    (streamParseString fuel).run text = .error .null ∨
      ∃ string, (streamParseString fuel).run text = .ok (string, []) ∧
        string.length ≤ (contents chars).length := by
  cases text with
  | nil => exact .inl rfl
  | cons first text =>
    have opened : stringText chars = 34 :: (charsText chars ++ [34]) := rfl
    rw [opened] at cut
    obtain ⟨rfl, inside⟩ := cons_prefix_cons.mp cut
    right
    have whole : ∃ string, (streamParseString fuel).run (stringText chars) = .ok (string, []) ∧
        string.length ≤ (contents chars).length := by
      have returned := run_streamParseString chars enough []
      rw [append_nil] at returned
      exact ⟨_, returned, Nat.le_refl _⟩
    have unclosed {text : List UInt8} (inside : text <+: charsText chars) :
        ∃ string, (streamParseString fuel).run (34 :: text) = .ok (string, []) ∧
          string.length ≤ (contents chars).length := by
      obtain ⟨more, returned, bound⟩ := run_parseChars_cut chars inside
        (Nat.lt_of_le_of_lt (length_le_charsText chars) enough) []
      refine ⟨cString more, ?_, Nat.le_trans (takeWhile_sublist _).length_le bound⟩
      unfold streamParseString
      rw [run_peekChar_bind, headD_cons, if_neg (by decide), run_getChar_bind,
        tail_cons, run_bind_ok returned, nil_append]
      rfl
    rcases prefix_append_cases inside with chars_cut | ⟨more, rfl, quote⟩
    · exact unclosed chars_cut
    · cases more with
      | nil =>
        rw [append_nil]
        exact unclosed (prefix_refl _)
      | cons first more =>
        obtain ⟨rfl, none⟩ := cons_prefix_cons.mp quote
        rw [prefix_nil.mp none]
        exact whole

/-! ## Numbers and scalars that are cut off -/

def Total {α : Type} (parser : Parser α) : Prop :=
  ∀ rest, ∃ result left, parser.run rest = .ok (result, left)

theorem Total.pure (result : α) : Total (pure result : Parser α) :=
  fun rest => ⟨result, rest, rfl⟩

theorem Total.bind {β : Type} {parser : Parser α} {next : α → Parser β} (first : Total parser)
    (second : ∀ result, Total (next result)) : Total (parser >>= next) := by
  intro rest
  obtain ⟨result, left, returned⟩ := first rest
  obtain ⟨last, left, later⟩ := second result left
  exact ⟨last, left, (run_bind_ok returned next).trans later⟩

theorem Total.ite {condition : Prop} [Decidable condition] {first second : Parser α}
    (holds : Total first) (fails : Total second) : Total (if condition then first else second) := by
  split
  · exact holds
  · exact fails

theorem total_peekChar : Total peekChar := fun rest => ⟨_, rest, rfl⟩

theorem total_getChar : Total getChar := fun rest => ⟨_, rest.tail, rfl⟩

theorem total_scanDigits : Total scanDigits := fun _ => ⟨_, _, rfl⟩

theorem total_parseParts (negative : Bool) : Total (parseParts doubles negative) := by
  have integer (n : D) : Total (parseInteger doubles n) :=
    total_peekChar.bind fun _ => .ite (total_scanDigits.bind fun _ => .pure _) (.pure _)
  have fraction (n : D) : Total (parseFraction doubles n) :=
    total_peekChar.bind fun _ =>
      .ite (total_getChar.bind fun _ => total_scanDigits.bind fun _ => .pure _) (.pure _)
  have sign : Total parseExponentSign :=
    total_peekChar.bind fun _ => .ite (total_getChar.bind fun _ => .pure _)
      (.ite (total_getChar.bind fun _ => .pure _) (.pure _))
  have exponent : Total parseExponent :=
    total_peekChar.bind fun _ =>
      .ite (total_getChar.bind fun _ => sign.bind fun _ => total_scanDigits.bind fun _ => .pure _)
        (.pure _)
  exact (integer _).bind fun _ => (fraction _).bind fun _ => exponent.bind fun _ => .pure _

theorem total_streamParseNumber : Total (streamParseNumber doubles) := by
  have sign : Total parseSign :=
    total_peekChar.bind fun _ => .ite (total_getChar.bind fun _ => .pure _) (.pure _)
  exact sign.bind fun _ => total_peekChar.bind fun _ =>
    .ite (total_getChar.bind fun _ => total_peekChar.bind fun _ =>
      .ite (.pure _) (total_parseParts _)) (total_parseParts _)

theorem endsNumber_nil : EndsNumber [] :=
  ⟨rfl, (by decide : (0 : UInt8) ≠ 46), (by decide : (0 : UInt8) ≠ 101 ∧ (0 : UInt8) ≠ 69)⟩

theorem NumberToken.run_streamParseNumber_cut (arithmetic : doubles.Exact) {number : NumberToken}
    (grammatical : number.zeros = 0) (cut : text <+: number.text) :
    ∃ value, (streamParseNumber doubles).run text = .ok (value, []) := by
  obtain ⟨value, left, returned⟩ := @total_streamParseNumber D doubles text
  obtain ⟨rest, whole⟩ := cut
  cases left with
  | nil => exact ⟨value, returned⟩
  | cons char left =>
    -- what is left would be left of the whole number
    have longer := run_append returned (by simp) rest
    have complete := run_streamParseNumber arithmetic grammatical endsNumber_nil
    rw [append_nil, ← whole, longer] at complete
    cases complete

theorem run_literal_cut (isLiteral : value = .null ∨ ∃ truth, value = .bool truth) (fuel : Nat)
    (cut : text <+: value.text) (strict : text ≠ value.text) :
    (streamParseValue doubles (fuel + 1)).run text = .error .null := by
  have length := cut.length_le
  rw [prefix_iff_eq_take.mp cut] at strict ⊢
  generalize text.length = count at length strict
  rcases isLiteral with rfl | ⟨truth, rfl⟩
  · have bound : count ≤ 4 := length
    match count, bound with
    | 0, _ | 1, _ | 2, _ | 3, _ => rfl
    | 4, _ => exact absurd rfl strict
  · cases truth with
    | false =>
      have bound : count ≤ 5 := length
      match count, bound with
      | 0, _ | 1, _ | 2, _ | 3, _ | 4, _ => rfl
      | 5, _ => exact absurd rfl strict
    | true =>
      have bound : count ≤ 4 := length
      match count, bound with
      | 0, _ | 1, _ | 2, _ | 3, _ => rfl
      | 4, _ => exact absurd rfl strict

theorem run_streamParseValue_nil (fuel : Nat) :
    (streamParseValue doubles (fuel + 1)).run [] = .error .null := rfl

theorem Scalar.stuck_of_cut (arithmetic : doubles.Exact) (grammatical : value.Grammatical)
    (fits : value.Fits) (enough : value.text.length ≤ fuel) (cut : text <+: value.text) :
    Stuck Parsed.Fits ((streamParseValue doubles (fuel + 1)).run text) := by
  have complete : Stuck Parsed.Fits ((streamParseValue doubles (fuel + 1)).run value.text) := by
    have returned := Scalar.run arithmetic grammatical (fuel + 1) (by omega) endsNumber_nil
    rw [append_nil] at returned
    refine .inr ⟨value.parsed doubles, [], returned, ?_, .inl rfl⟩
    cases value with
    | null => trivial
    | bool value => trivial
    | string chars => exact fits
    | number token => trivial
  by_cases strict : text = value.text
  · rw [strict]
    exact complete
  · cases value with
    | null => exact .inl (run_literal_cut (.inl rfl) fuel cut strict)
    | bool value => exact .inl (run_literal_cut (.inr ⟨value, rfl⟩) fuel cut strict)
    | string chars =>
      cases text with
      | nil => exact .inl (run_streamParseValue_nil fuel)
      | cons first text =>
        obtain ⟨rfl, _⟩ := cons_prefix_cons.mp cut
        have length : (stringText chars).length = (charsText chars).length + 2 := by
          simp [stringText]
        have bound : (stringText chars).length ≤ fuel := enough
        have quoted : parseValueFrom doubles fuel (streamParseValue doubles fuel) 34 = do
            let text ← streamParseString fuel
            return .string text := rfl
        rw [streamParseValue, run_peekChar_bind, headD_cons, quoted]
        rcases run_streamParseString_cut chars cut (show _ < fuel by omega) with
          none | ⟨string, returned, bound⟩
        · exact .inl (run_bind_error none _)
        · refine .inr ⟨.string string, [], run_bind_ok returned _, ?_, .inl rfl⟩
          exact Nat.le_trans bound fits
    | number token =>
      cases text with
      | nil => exact .inl (run_streamParseValue_nil fuel)
      | cons first text =>
        obtain ⟨head, others, text_eq, range⟩ := token.text_head
        have same : first = head := by
          have inside : first :: text <+: token.text := cut
          rw [text_eq] at inside
          exact (cons_prefix_cons.mp inside).1
        rw [← same] at range
        obtain ⟨number, returned⟩ := token.run_streamParseNumber_cut arithmetic grammatical cut
        rw [streamParseValue, run_peekChar_bind, headD_cons, parseValueFrom_number _ _ range]
        exact .inr ⟨.number number, [], run_bind_ok returned _, trivial, .inl rfl⟩

/-! ## Items that are cut off -/

theorem Space.dropWhile_cut (space : Space) (cut : text <+: space.chars) :
    text.dropWhile isSkipped = [] := by
  obtain ⟨rest, whole⟩ := cut
  have all := space.dropWhile_append []
  rw [append_nil, ← whole] at all
  by_contra left
  rw [dropWhile_append_of_left left] at all
  exact left (append_eq_nil_iff.mp all).1

theorem Label.run_cut {value : Parser (Parsed D)} (label : Label) (parent : Container)
    (enough : (label.text parent).length ≤ fuel) (nil : value.run [] = .error .null)
    (cut : text <+: label.text parent) :
    (itemParser doubles fuel value parent).run text = .error .null := by
  cases parent with
  | array =>
    have inside : text <+: label.start.chars := cut
    unfold itemParser parseElement
    rw [run_skip_bind, label.start.dropWhile_cut inside, run_bind_error nil]
  | object =>
    have shape : label.text .object = label.before.chars ++ (stringText label.name ++
        (label.between.chars ++ 58 :: label.start.chars)) := by
      simp [Label.text]
    have length : (label.text .object).length = label.before.chars.length +
        ((charsText label.name).length + 2) + label.between.chars.length +
          (label.start.chars.length + 1) := by
      simp [Label.text, stringText]
      omega
    have nameStarts (more : List UInt8) :
        isSkipped ((stringText label.name ++ more).headD 0) = false := rfl
    have colon (more : List UInt8) : (58 :: more).dropWhile isSkipped = 58 :: more := rfl
    rw [shape] at cut
    unfold itemParser parseMember
    rw [run_skip_bind]
    rcases prefix_append_cases cut with before | ⟨text, rfl, named⟩
    · rw [label.before.dropWhile_cut before]
      rfl
    · rw [label.before.dropWhile_append]
      rcases prefix_append_cases named with name | ⟨text, rfl, spaced⟩
      · have starts : isSkipped (text.headD 0) = false := by
          cases text with
          | nil => rfl
          | cons first text =>
            obtain ⟨rfl, _⟩ := cons_prefix_cons.mp name
            rfl
        rw [dropWhile_of_head starts]
        rcases run_streamParseString_cut label.name name (show _ < fuel by omega) with
          none | ⟨string, returned, _⟩
        · rw [run_bind_error none]
        · rw [run_bind_ok returned]
          rfl
      · rw [dropWhile_of_head (nameStarts text),
          run_bind_ok (run_streamParseString label.name (by omega) _), run_skip_bind]
        rcases prefix_append_cases spaced with between | ⟨text, rfl, started⟩
        · rw [label.between.dropWhile_cut between]
          rfl
        · rw [label.between.dropWhile_append]
          cases text with
          | nil => rfl
          | cons first text =>
            obtain ⟨rfl, start⟩ := cons_prefix_cons.mp started
            rw [colon, run_peekChar_bind, headD_cons, if_neg (by decide), run_getChar_bind,
              tail_cons, run_skip_bind, label.start.dropWhile_cut start,
              run_bind_error nil]

theorem Scalar.stuck_of_cut_behind (arithmetic : doubles.Exact) (grammatical : value.Grammatical)
    (fits : value.Fits) (after : Space) (enough : value.text.length < fuel)
    (cut : text <+: value.text ++ after.chars) :
    Stuck Parsed.Fits ((streamParseValue doubles fuel).run text) := by
  obtain ⟨fuel, rfl⟩ := Nat.exists_eq_succ_of_ne_zero (show fuel ≠ 0 by omega)
  rcases prefix_append_cases cut with inside | ⟨white, rfl, spaced⟩
  · exact Scalar.stuck_of_cut arithmetic grammatical fits (by omega) inside
  · have allowed : white.all isWhite = true := by
      obtain ⟨rest, whole⟩ := spaced
      have all := after.allowed
      rw [← whole, all_append, Bool.and_eq_true] at all
      exact all.1
    have ends := (Space.mk white allowed).endsNumber endsNumber_nil
    rw [append_nil] at ends
    refine .inr ⟨value.parsed doubles, white, Scalar.run arithmetic grammatical _ enough ends, ?_,
      .inl (after.dropWhile_cut spaced)⟩
    cases value with
    | null => trivial
    | bool value => trivial
    | string chars => exact fits
    | number token => trivial

/-- What it means that a body that is cut off is stuck. -/
def Body.StuckIfCut (doubles : Doubles D) (body : Body) : Prop :=
  ∀ {parent : Container} {fuel count : Nat} {text : List UInt8} (children : Items (Value D)),
    body.isNil = false → body.Grammatical → body.Fits parent → body.ShortNames parent →
    (body.text parent).length < fuel → (body.text parent).length ≤ count →
    text <+: body.text parent →
    Stuck Any ((itemParser doubles fuel (streamParseValue doubles fuel) parent >>= fun next =>
      parseItems (itemParser doubles fuel (streamParseValue doubles fuel) parent) count
        (children.append next)).run text)

theorem run_container_cut (stuck : inner.StuckIfCut doubles) (type : Container) (empty : Space)
    (grammatical : inner.Grammatical) (fits : inner.Fits type) (short : inner.ShortNames type)
    (enough : (containerText type empty inner).length < fuel)
    (cut : text <+: type.opening :: (inner.inside empty ++ inner.text type)) :
    (streamParseValue doubles fuel).run text = .error .null := by
  obtain ⟨fuel, rfl⟩ := Nat.exists_eq_succ_of_ne_zero (show fuel ≠ 0 by omega)
  cases text with
  | nil => exact run_streamParseValue_nil fuel
  | cons first text =>
    obtain ⟨rfl, inside⟩ := cons_prefix_cons.mp cut
    have ended : (0 : UInt8) ≠ type.closing := by cases type <;> decide
    cases nonempty : inner.isNil with
    | true =>
      cases inner with
      | nil =>
        have spaced : text <+: empty.chars := by
          have none : (Body.nil.inside empty ++ Body.nil.text type) = empty.chars :=
            append_nil _
          rwa [none] at inside
        have white := empty.dropWhile_cut spaced
        apply stuck_container
        · rw [white]
          exact ended
        · rw [← run_itemParser_dropWhile, white]
          obtain ⟨fuel, rfl⟩ : ∃ lower, fuel = lower + 1 := by
            have length : (containerText type empty Body.nil).length =
                empty.chars.length + 2 := by
              simp [containerText, Body.inside, Body.text]
            exact Nat.exists_eq_succ_of_ne_zero (by omega)
          apply Or.inl
          apply run_bind_error
          cases type <;> rfl
      | leaf label value after others => cases nonempty
      | branch label kind space inner after others => cases nonempty
    | false =>
      have length : (containerText type empty inner).length = (inner.text type).length + 2 := by
        simp [containerText, Body.inside_of_nonempty nonempty]
      rw [Body.inside_of_nonempty nonempty, nil_append] at inside
      apply stuck_container
      · by_cases white : text.dropWhile isSkipped = []
        · rw [white]
          exact ended
        · obtain ⟨rest, whole⟩ := inside
          obtain ⟨char, chars, skipped, starts⟩ := Body.dropWhile_append nonempty type []
          rw [append_nil, ← whole, dropWhile_append_of_left white] at skipped
          obtain ⟨head, tail, text_eq⟩ := exists_cons_of_ne_nil white
          rw [text_eq] at skipped ⊢
          have same : head = char := (List.cons.inj skipped).1
          rw [headD_cons, same]
          cases type with
          | array => exact starts.array
          | object => exact starts.object
      · exact stuck .nil nonempty grammatical fits short (by omega) (by omega) inside

theorem stuck_container_cut (arithmetic : doubles.Exact) (stuck : inner.StuckIfCut doubles)
    (label : Label) (parent type : Container) (empty after : Space)
    (grammatical : inner.Grammatical) (nameFits : (label.itemName parent).length ≤ 65534)
    (fits : inner.Fits type) (short : inner.ShortNames type)
    (enough : (containerText type empty inner).length < fuel)
    (cut : text <+: containerText type empty inner ++ after.chars) :
    Stuck (Creatable doubles (label.nameArgument parent))
      ((streamParseValue doubles fuel).run text) := by
  have split : containerText type empty inner ++ after.chars =
      (type.opening :: (inner.inside empty ++ inner.text type)) ++
        (type.closing :: after.chars) := by
    simp [containerText]
  rw [split] at cut
  rcases prefix_append_cases cut with inside | ⟨more, rfl, closed⟩
  · exact .inl (run_container_cut stuck type empty grammatical fits short enough inside)
  · cases more with
    | nil =>
      rw [append_nil]
      exact .inl (run_container_cut stuck type empty grammatical fits short enough
        (prefix_refl _))
    | cons first white =>
      obtain ⟨rfl, spaced⟩ := cons_prefix_cons.mp closed
      have whole : (type.opening :: (inner.inside empty ++ inner.text type)) ++
          (type.closing :: white) = containerText type empty inner ++ white := by
        simp [containerText]
      have returned := run_container (inner.parses arithmetic) type empty grammatical fits _ enough
        white
      rw [whole]
      exact .inr ⟨_, white, returned.trans (if_pos short),
        ⟨_, createItem_container label parent type _ _ nameFits⟩,
        .inl (after.dropWhile_cut spaced)⟩

theorem stuck_items_cut {label : Label} {parent : Container} {after : Space} {others : Body}
    (stuck : others.StuckIfCut doubles) (grammatical : others.Grammatical)
    (fits : others.Fits parent) (short : others.ShortNames parent) {valueText : List UInt8}
    {first : UInt8} {chars : List UInt8} (text_eq : valueText = first :: chars)
    (starts : StartsValue first) {count : Nat}
    (enough : (label.text parent).length + valueText.length + others.comma.length +
      (others.text parent).length < fuel)
    (room : others.comma.length + (others.text parent).length < count)
    (valueStuck : ∀ {text : List UInt8}, text <+: valueText ++ after.chars →
      Stuck (Creatable doubles (label.nameArgument parent))
        ((streamParseValue doubles fuel).run text))
    {item : Items (Value D)}
    (itemRun : ∀ {rest : List UInt8}, EndsNumber rest → isSkipped (rest.headD 0) = false →
      (itemParser doubles fuel (streamParseValue doubles fuel) parent).run
        (label.text parent ++ (valueText ++ (after.chars ++ rest))) = .ok (item, rest))
    (cut : text <+: label.text parent ++ ((valueText ++ after.chars) ++ (others.comma ++
      others.text parent)))
    (children : Items (Value D)) :
    Stuck Any ((itemParser doubles fuel (streamParseValue doubles fuel) parent >>= fun next =>
      parseItems (itemParser doubles fuel (streamParseValue doubles fuel) parent) count
        (children.append next)).run text) := by
  rcases prefix_append_cases cut with labelled | ⟨text, rfl, valued⟩
  · obtain ⟨fuel, rfl⟩ := Nat.exists_eq_succ_of_ne_zero (show fuel ≠ 0 by omega)
    exact stuck_items (by omega)
      (.inl (label.run_cut parent (by omega) (run_streamParseValue_nil fuel) labelled)) children
  · rcases prefix_append_cases valued with inside | ⟨text, rfl, behind⟩
    · apply stuck_items (by omega)
      apply stuck_item label parent (by omega)
      · cases text with
        | nil => rfl
        | cons head text =>
          rw [text_eq, cons_append] at inside
          rw [(cons_prefix_cons.mp inside).1]
          exact starts.skipped
      · exact valueStuck inside
    · rw [append_assoc valueText]
      cases text with
      | nil => exact stuck_items (by omega) (.inr ⟨item, [], itemRun endsNumber_nil rfl, trivial,
          .inl rfl⟩) children
      | cons head text =>
        cases nonempty : others.isNil with
        | true =>
          cases others with
          | nil => cases prefix_nil.mp behind
          | leaf label value after others => cases nonempty
          | branch label kind space inner after others => cases nonempty
        | false =>
          have comma := Body.comma_of_nonempty nonempty
          rw [comma] at behind enough room
          obtain ⟨rfl, more⟩ := cons_prefix_cons.mp behind
          simp only [length_cons, length_nil] at enough room
          obtain ⟨count, rfl⟩ := Nat.exists_eq_succ_of_ne_zero (show count ≠ 0 by omega)
          refine stuck_behind (itemRun (endsNumber_comma text) rfl) children ?_
          intro children
          exact stuck children nonempty grammatical fits short (by omega) (by omega) more

/-- A body that is cut anywhere leaves the parser stuck. -/
theorem Body.stuck_of_cut (arithmetic : doubles.Exact) (body : Body) :
    body.StuckIfCut doubles := by
  induction body with
  | nil =>
    intro parent fuel count text children nonempty
    cases nonempty
  | leaf label value after others ih =>
    intro parent fuel count text children _ grammatical fits short enough room cut
    have length := Body.length_text_leaf label value after others parent
    have positive := value.length_text_pos
    have shape : (Body.leaf label value after others).text parent =
        label.text parent ++ ((value.text ++ after.chars) ++
          (others.comma ++ others.text parent)) := by
      simp [Body.text]
    obtain ⟨first, chars, text_eq, starts⟩ := value.text_head
    rw [shape] at cut
    have itemRun {rest : List UInt8} (ends : EndsNumber rest)
        (skipped : isSkipped (rest.headD 0) = false) :=
      (run_leaf arithmetic label parent after grammatical.1 fits.2.1 fuel (by omega) ends
        skipped).trans (if_pos short.1)
    refine stuck_items_cut ih grammatical.2 fits.2.2 short.2 text_eq starts
      (by omega) (by omega) ?_ itemRun cut children
    intro text inside
    exact (Scalar.stuck_of_cut_behind arithmetic grammatical.1 fits.2.1 after (by omega)
      inside).mono fun _ valueFits => valueFits.creatable short.1
  | branch label type empty inner after others innerHypothesis ih =>
    intro parent fuel count text children _ grammatical fits short enough room cut
    have length := Body.length_text_branch label type empty after inner others parent
    have positive : 0 < (containerText type empty inner).length := Nat.succ_pos _
    have shape : (Body.branch label type empty inner after others).text parent =
        label.text parent ++ ((containerText type empty inner ++ after.chars) ++
          (others.comma ++ others.text parent)) := by
      simp [Body.text, containerText]
    have opened : containerText type empty inner =
        type.opening :: (inner.inside empty ++ inner.text type ++ [type.closing]) := rfl
    rw [shape] at cut
    have itemRun {rest : List UInt8} (_ : EndsNumber rest)
        (skipped : isSkipped (rest.headD 0) = false) :=
      (run_branch (inner.parses arithmetic) label parent type empty after grammatical.1 fits.1
        fits.2.1 fuel (by omega) skipped).trans (if_pos short.1)
    refine stuck_items_cut ih grammatical.2 fits.2.2 short.2 opened
      type.startsValue_opening (by omega) (by omega) ?_ itemRun cut children
    intro text inside
    exact stuck_container_cut arithmetic innerHypothesis label parent type empty after
      grammatical.1 fits.1 fits.2.1 short.1 (by omega) inside

end Thingsee.Json
