import Thingsee.Logs.Writer

/-!
Owns what the reader makes of the parts of a log line: scalars, arrays, the state in
front and one cause. The text of a value is scanned into a buffer of 32 characters, and
`deserializeCause_text` has that bound.
-/

namespace Thingsee.Logs

open Support List

variable (scalar : Scalar) {value : Value} {text : List UInt8} {char : UInt8} {tail : List UInt8}

theorem toSigned_toInt (number : Int32) : toSigned 32 number.toInt = number.toInt := by
  apply Int.bmod_eq_of_le
  · have lower := number.le_toInt
    omega
  · have upper := number.toInt_lt
    omega

theorem toSigned_toSigned (number : Int) : toSigned 32 (toSigned 32 number) = toSigned 32 number :=
  Int.bmod_bmod

theorem ofInt_toSigned (number : UInt32) :
    UInt32.ofInt (toSigned 32 number.toNat) = number := by
  have range := number.toNat_lt
  have same : toSigned 32 (number.toNat : Int) % 2 ^ 32 = number.toNat := by
    unfold toSigned
    rw [show ((2 : Int) ^ 32) = ((2 ^ 32 : Nat) : Int) from rfl, Int.bmod_emod]
    exact Int.emod_eq_of_lt (by omega) (by omega)
  unfold UInt32.ofInt
  rw [same, Int.toNat_natCast, UInt32.ofNat_toNat]

theorem toSigned_int16 (number : Int16) : toSigned 32 number.toInt = number.toInt := by
  apply Int.bmod_eq_of_le
  · have lower := number.le_toInt
    omega
  · have upper := number.toInt_lt
    omega

theorem strtoul_decimal (number : Nat) :
    strtoul 0 ((decimal number).dropWhile isSpace) = number := by
  have text : decimal (number : Int) = digits number := by
    rw [decimal, if_neg (by omega)]
    rfl
  rw [dropWhile_of_visible (fun char isIn => (decimal_char isIn).1), text, strtoul_digits]

theorem readScalar_print : readScalar scalar.valuetype scalar.print = .ok scalar := by
  cases scalar with
  | uint16 number =>
    simp only [Scalar.valuetype, Scalar.print, readScalar]
    rw [strtoul_decimal, UInt16.ofNat_toNat]
    rfl
  | uint32 number =>
    simp only [Scalar.valuetype, Scalar.print, readScalar]
    rw [strtoul_decimal, UInt32.ofNat_toNat]
    rfl
  | int16 number =>
    simp only [Scalar.valuetype, Scalar.print, readScalar]
    rw [signedOf_decimal (toSigned_int16 number), Int16.ofInt_toInt]
    rfl
  | int32 number =>
    simp only [Scalar.valuetype, Scalar.print, readScalar]
    rw [signedOf_decimal (toSigned_toInt number), Int32.ofInt_toInt]
    rfl
  | string text => rfl
  | bool flag => cases flag <;> rfl

theorem readType_printType {valuetype : Int} (fits : toSigned 32 valuetype = valuetype)
    (short : (decimal valuetype).length ≤ 127) (rest : List UInt8) :
    readType (printType valuetype ++ rest) = .ok (valuetype, rest) := by
  have absent : (58 : UInt8) ∉ decimal valuetype := by
    intro isIn
    exact absurd (decimal_char isIn).2.2 (by decide)
  have whole : printType valuetype ++ rest = decimal valuetype ++ 58 :: rest := by
    rw [printType, append_assoc, singleton_append]
  have scanned : vsscanf [.int, .char 58] (decimal valuetype ++ 58 :: rest) =
      some [.number valuetype] := by
    rw [vsscanf_int fits short (by decide) (by decide)]
    rfl
  have behind : (decimal valuetype ++ 58 :: rest).drop
      ((decimal valuetype ++ 58 :: rest).idxOf 58 + 1) = rest := by
    rw [idxOf_append absent, ← drop_drop, drop_left]
    rfl
  unfold readType
  rw [whole, scanned]
  dsimp only
  rw [if_pos (by simp), behind]

theorem valuetype_fits :
    toSigned 32 scalar.valuetype = scalar.valuetype ∧
      (decimal scalar.valuetype).length ≤ 127 ∧ scalar.valuetype ≠ 6 := by
  have codes : ∀ code ∈ ([1, 2, 3, 4, 5, 7] : List Int),
      toSigned 32 code = code ∧ (decimal code).length ≤ 127 ∧ code ≠ 6 := by decide
  apply codes
  cases scalar <;> simp [Scalar.valuetype]

theorem readType_text : readType scalar.text = .ok (scalar.valuetype, scalar.print) :=
  readType_printType (valuetype_fits scalar).1 (valuetype_fits scalar).2.1 scalar.print

theorem deserializeScalar_text : deserializeScalar scalar.text = .ok scalar := by
  unfold deserializeScalar
  rw [readType_text]
  exact readScalar_print scalar

theorem mapM_map_ok {α β γ : Type} {read : β → Except γ α} {print : α → β} {items : List α}
    (each : ∀ item ∈ items, read (print item) = .ok item) :
    (items.map print).mapM read = .ok items := by
  induction items with
  | nil => rfl
  | cons item rest ih =>
    rw [map_cons, mapM_cons, each item mem_cons_self,
      ih (fun later isIn => each later (mem_cons_of_mem _ isIn))]
    rfl

theorem itemsText_cons (item : Scalar) (rest : List Scalar) :
    itemsText (item :: rest) =
      item.text ++ (rest.map Scalar.text ++ [[93]]).flatMap (fun token => 32 :: token) := by
  induction rest generalizing item with
  | nil => rfl
  | cons next rest ih =>
    rw [itemsText, ih]
    rfl

theorem mem_scalar_text {scalar : Scalar} (plain : scalar.Plain) (isIn : char ∈ scalar.text) :
    char ≠ 0 ∧ char ≠ 44 ∧ char ≠ 59 ∧ isSpace char = false := by
  have number : ∀ value : Int, char ∈ decimal value →
      char ≠ 0 ∧ char ≠ 44 ∧ char ≠ 59 ∧ isSpace char = false := by
    intro value digit
    obtain ⟨visible, lower, upper⟩ := decimal_char digit
    refine ⟨?_, ?_, ?_, visible⟩
    · rintro rfl
      exact absurd lower (by decide)
    · rintro rfl
      exact absurd lower (by decide)
    · rintro rfl
      exact absurd upper (by decide)
  rcases mem_append.mp isIn with inType | inPrint
  · rcases mem_append.mp inType with digit | colon
    · exact number _ digit
    · rw [mem_singleton.mp colon]
      decide
  · cases scalar with
    | uint16 value => exact number _ inPrint
    | uint32 value => exact number _ inPrint
    | int16 value => exact number _ inPrint
    | int32 value => exact number _ inPrint
    | string text => exact plain char inPrint
    | bool flag =>
      have all : ∀ char ∈ boolText flag,
          char ≠ 0 ∧ char ≠ 44 ∧ char ≠ 59 ∧ isSpace char = false := by
        cases flag <;> simp [boolText, isSpace]
      exact all char inPrint

theorem scalar_text_starts : ∃ first rest, scalar.text = first :: rest ∧ first ≠ 93 := by
  obtain ⟨first, rest, starts⟩ := exists_cons_of_ne_nil (decimal_ne_nil scalar.valuetype)
  refine ⟨first, rest ++ [58] ++ scalar.print, ?_, ?_⟩
  · rw [Scalar.text, printType, starts]
    rfl
  · rintro rfl
    have isDigit := (@decimal_char scalar.valuetype 93 (by simp [starts])).2.2
    exact absurd isDigit (by decide)

variable {items : List Scalar} (sId : UInt32) {sense : Sense}

theorem itemTokens_itemsText (plain : ∀ item ∈ items, item.Plain) :
    itemTokens (itemsText items) = items.map Scalar.text := by
  cases items with
  | nil => rfl
  | cons item rest =>
    have separate : Tokens 32 (item.text :: (rest.map Scalar.text ++ [[93]])) := by
      have scalars : ∀ scalar ∈ item :: rest,
          scalar.text ≠ [] ∧ (32 : UInt8) ∉ scalar.text := by
        intro scalar isIn
        obtain ⟨first, others, starts, -⟩ := scalar_text_starts scalar
        refine ⟨by simp [starts], ?_⟩
        intro space
        exact absurd (mem_scalar_text (plain scalar isIn) space).2.2.2 (by decide)
      intro token isIn
      rcases mem_cons.mp isIn with rfl | isIn
      · exact scalars item mem_cons_self
      rcases mem_append.mp isIn with isIn | last
      · obtain ⟨scalar, inRest, rfl⟩ := mem_map.mp isIn
        exact scalars scalar (mem_cons_of_mem _ inRest)
      · rw [mem_singleton.mp last]
        decide
    have tokens : strtok 32 (itemsText (item :: rest)) =
        (item :: rest).map Scalar.text ++ [[93]] := by
      rw [itemsText_cons, strtok_append_flatMap separate]
      rfl
    unfold itemTokens
    rw [tokens, takeWhile_append_of_pos]
    · simp
    · intro token isIn
      obtain ⟨scalar, -, rfl⟩ := mem_map.mp isIn
      obtain ⟨first, others, starts, notBracket⟩ := scalar_text_starts scalar
      simp [starts, notBracket]

theorem valueDeserialize_text (plain : value.Plain) : valueDeserialize value.text = .ok value := by
  cases value with
  | scalar scalar =>
    unfold valueDeserialize
    rw [Value.text, readType_text]
    dsimp only
    rw [if_neg (valuetype_fits scalar).2.2, readScalar_print]
    rfl
  | array items =>
    have items' : (items.map Scalar.text).mapM deserializeScalar = .ok items :=
      mapM_map_ok (fun item _ => deserializeScalar_text item)
    unfold valueDeserialize
    rw [Value.text, append_assoc, readType_printType (by decide) (by decide)]
    dsimp only
    rw [if_pos rfl, if_pos (by rfl)]
    have behind : ([91, 32] ++ itemsText items).drop 2 = itemsText items := rfl
    rw [behind, itemTokens_itemsText plain, items']
    rfl

/-- What stands behind a part of a line: nothing, or the end of the line. -/
def PartEnd (tail : List UInt8) : Prop := tail = [] ∨ tail = [10]

theorem vsscanf_field {number : Int} (fits : toSigned 32 number = number)
    (short : (decimal number).length ≤ 11) (format : List Directive) (next : Int)
    (rest : List UInt8) :
    vsscanf (.int :: .char 44 :: format) (decimal number ++ (field next ++ rest)) =
      (vsscanf format (decimal next ++ rest)).map (.number number :: ·) :=
  vsscanf_int fits (by omega) (by decide) (by decide) format (decimal next ++ rest)

theorem vsscanf_time (ts : Timespec) (ends : PartEnd tail) :
    vsscanf [.int, .char 44, .int]
        (decimal (toSigned 32 ts.sec.toNat) ++ (field ts.nsec.toInt ++ tail)) =
      some [.number (toSigned 32 ts.sec.toNat), .number ts.nsec.toInt] := by
  have nsec : vsscanf [.int] (decimal ts.nsec.toInt ++ tail) = some [.number ts.nsec.toInt] := by
    have short := decimal_short ts.nsec
    apply vsscanf_last (toSigned_toInt ts.nsec) (by omega)
    rcases ends with none | newline
    · exact Or.inl none
    · exact Or.inr ⟨10, [], newline, by decide⟩
  rw [vsscanf_field (toSigned_toSigned _) (decimal_toSigned_short _), nsec]
  rfl

theorem Named.starts (named : Named text) :
    ∃ first rest, text = first :: rest ∧ isSpace first = false := by
  obtain ⟨first, rest, starts⟩ := exists_cons_of_ne_nil named.nonempty
  exact ⟨first, rest, starts, (named.plain first (by simp [starts])).2.2.2⟩

theorem Named.noComma (named : Named text) : (44 : UInt8) ∉ text :=
  fun isIn => (named.plain 44 isIn).2.1 rfl

theorem vsscanf_name (named : Named text) (format : List Directive) (rest : List UInt8) :
    vsscanf (.string 32 :: .char 44 :: format) (text ++ 44 :: rest) =
      (vsscanf format rest).map (.text text :: ·) := by
  obtain ⟨first, others, starts, visible⟩ := named.starts
  have short := named.short
  rw [vsscanf_string rest starts visible (by decide) named.noComma (by omega),
    if_neg (by omega)]

theorem deserializeState_print {state : Ids} (named : Named state.pId) (ends : PartEnd tail) :
    deserializeState (state.print ++ tail) = .ok state := by
  have whole : state.print ++ tail =
      state.pId ++ 44 :: (decimal state.puId.toInt ++ (field state.stId.toInt ++
        (field state.evId.toInt ++ (field (toSigned 32 state.ts.sec.toNat) ++
          (field state.ts.nsec.toInt ++ tail))))) := by
    simp only [Ids.print, Timespec.print, append_assoc]
    rfl
  have fields : vsscanf stateFormat (state.print ++ tail) =
      some [.text state.pId, .number state.puId.toInt, .number state.stId.toInt,
        .number state.evId.toInt, .number (toSigned 32 state.ts.sec.toNat),
        .number state.ts.nsec.toInt] := by
    unfold stateFormat
    rw [whole, vsscanf_name named, vsscanf_field (toSigned_toInt _) (decimal_short _),
      vsscanf_field (toSigned_toInt _) (decimal_short _),
      vsscanf_field (toSigned_toInt _) (decimal_short _), vsscanf_time state.ts ends]
    rfl
  unfold deserializeState
  rw [fields]
  simp only [Int32.ofInt_toInt, ofInt_toSigned]

def senseId (sId : UInt32) : List UInt8 := 48 :: 120 :: hexDigits 8 sId.toNat

theorem senseId_char {sId : UInt32} (isIn : char ∈ senseId sId) :
    char ≠ 0 ∧ char ≠ 10 ∧ char ≠ 44 ∧ char ≠ 59 := by
  rcases mem_cons.mp isIn with rfl | isIn
  · decide
  rcases mem_cons.mp isIn with rfl | isIn
  · decide
  · rcases mem_hexDigits isIn with ⟨lower, upper⟩ | ⟨lower, -⟩
    all_goals
      refine ⟨?_, ?_, ?_, ?_⟩
      all_goals
        rintro rfl
        first
          | exact absurd lower (by decide)
          | exact absurd upper (by decide)

theorem signedOf_senseId : UInt32.ofInt (signedOf strtoulHex (senseId sId)) = sId := by
  have range := sId.toNat_lt
  have value : strtoulHex (48 :: 120 :: hexDigits 8 sId.toNat) = sId.toNat := by
    rw [strtoulHex_hexDigits]
    exact Nat.mod_eq_of_lt (by omega)
  unfold senseId
  rw [signedOf_unsigned (by decide) (by decide) (by decide), value, ofInt_toSigned]

theorem value_text_starts (value : Value) :
    ∃ first rest, value.text = first :: rest ∧ isSpace first = false := by
  have types : ∀ (code : Int) (rest : List UInt8), ∃ first others,
      printType code ++ rest = first :: others ∧ isSpace first = false := by
    intro code rest
    obtain ⟨first, others, starts⟩ := exists_cons_of_ne_nil (decimal_ne_nil code)
    refine ⟨first, others ++ [58] ++ rest, ?_, ?_⟩
    · rw [printType, starts]
      rfl
    · exact (@decimal_char code _ (by simp [starts])).1
  cases value with
  | scalar scalar => exact types _ _
  | array items =>
    rw [Value.text, append_assoc]
    exact types _ _

theorem mem_itemsText (plain : ∀ item ∈ items, item.Plain) (isIn : char ∈ itemsText items) :
    char ≠ 0 ∧ char ≠ 10 ∧ char ≠ 44 ∧ char ≠ 59 := by
  have scalars : ∀ item ∈ items, char ∈ item.text →
      char ≠ 0 ∧ char ≠ 10 ∧ char ≠ 44 ∧ char ≠ 59 := by
    intro item inItems inText
    obtain ⟨notNull, notComma, notSemicolon, visible⟩ := mem_scalar_text (plain item inItems) inText
    refine ⟨notNull, ?_, notComma, notSemicolon⟩
    rintro rfl
    exact absurd visible (by decide)
  cases items with
  | nil => exact absurd isIn not_mem_nil
  | cons item rest =>
    rw [itemsText_cons] at isIn
    rcases mem_append.mp isIn with inFirst | inRest
    · exact scalars item mem_cons_self inFirst
    · obtain ⟨token, inTokens, inToken⟩ := mem_flatMap.mp inRest
      rcases mem_cons.mp inToken with rfl | inToken
      · decide
      rcases mem_append.mp inTokens with inTexts | last
      · obtain ⟨other, inOthers, rfl⟩ := mem_map.mp inTexts
        exact scalars other (mem_cons_of_mem _ inOthers) inToken
      · rw [mem_singleton.mp last] at inToken
        rw [mem_singleton.mp inToken]
        decide

theorem mem_value_text (plain : value.Plain) (isIn : char ∈ value.text) :
    char ≠ 0 ∧ char ≠ 10 ∧ char ≠ 44 ∧ char ≠ 59 := by
  cases value with
  | scalar scalar =>
    obtain ⟨notNull, notComma, notSemicolon, visible⟩ := mem_scalar_text plain isIn
    refine ⟨notNull, ?_, notComma, notSemicolon⟩
    rintro rfl
    exact absurd visible (by decide)
  | array items =>
    rcases mem_append.mp isIn with inFront | inItems
    · have front : ∀ char ∈ printType 6 ++ [91, 32],
          char ≠ 0 ∧ char ≠ 10 ∧ char ≠ 44 ∧ char ≠ 59 := by
        rw [show printType 6 = [54, 58] by decide]
        simp
      exact front char inFront
    · exact mem_itemsText plain inItems

theorem vsscanf_senseId (format : List Directive) (rest : List UInt8) :
    vsscanf (.string 32 :: .char 44 :: format) (senseId sId ++ 44 :: rest) =
      (vsscanf format rest).map (.text (senseId sId) :: ·) := by
  have starts : senseId sId = 48 :: 120 :: hexDigits 8 sId.toNat := rfl
  have length : (senseId sId).length = 10 := by
    rw [senseId, length_cons, length_cons, hexDigits_length]
  rw [vsscanf_string rest starts (by decide) (by decide)
    (fun isIn => (senseId_char isIn).2.2.1 rfl) (by omega), if_neg (by omega)]

theorem vsscanf_value (plain : value.Plain) (width : value.width < 128) (format : List Directive)
    (rest : List UInt8) :
    vsscanf (.string 32 :: .char 44 :: format) (value.text ++ 44 :: rest) =
      if 32 ≤ value.width then none
      else (vsscanf format rest).map (.text value.text :: ·) := by
  obtain ⟨first, others, starts, visible⟩ := value_text_starts value
  have length := value.length_text
  rw [vsscanf_string rest starts visible (by decide)
    (fun isIn => (mem_value_text plain isIn).2.2.1 rfl) (by omega), length]

theorem sense_text (sense : Sense) (tail : List UInt8) :
    sense.text ++ tail =
      sense.name ++ 44 :: (senseId sense.sId ++ 44 :: (sense.value.text ++ 44 ::
        (decimal (toSigned 32 sense.ts.sec.toNat) ++ (field sense.ts.nsec.toInt ++ tail)))) := by
  have joins (name identifier value sec nsec : List UInt8) :
      (name ++ 44 :: (identifier ++ 44 :: (value ++ (44 :: sec ++ nsec)))) ++ tail =
        name ++ 44 :: (identifier ++ 44 :: (value ++ 44 :: (sec ++ (nsec ++ tail)))) := by
    simp only [append_assoc, cons_append]
  exact joins _ _ _ _ _

theorem vsscanf_cause (named : Named sense.name) (plain : sense.value.Plain)
    (width : sense.value.width < 128) (ends : PartEnd tail) :
    vsscanf causeFormat (sense.text ++ tail) =
      if 32 ≤ sense.value.width then none
      else some [.text sense.name, .text (senseId sense.sId), .text sense.value.text,
        .number (toSigned 32 sense.ts.sec.toNat), .number sense.ts.nsec.toInt] := by
  unfold causeFormat
  rw [sense_text, vsscanf_name named, vsscanf_senseId, vsscanf_value plain width,
    vsscanf_time sense.ts ends]
  by_cases long : 32 ≤ sense.value.width
  · rw [if_pos long, if_pos long]
    rfl
  · rw [if_neg long, if_neg long]
    simp only [Option.map_some]

/-- The text of a cause is read back if its value fits the buffer. -/
theorem deserializeCause_text (named : Named sense.name) (plain : sense.value.Plain)
    (width : sense.value.width < 128) (ends : PartEnd tail) :
    deserializeCause (sense.text ++ tail) =
      if 32 ≤ sense.value.width then .error .overrun else .ok sense := by
  unfold deserializeCause
  rw [vsscanf_cause named plain width ends]
  by_cases long : 32 ≤ sense.value.width
  · rw [if_pos long, if_pos long]
  · rw [if_neg long, if_neg long]
    dsimp only
    rw [valueDeserialize_text plain]
    simp only [Except.map, Int32.ofInt_toInt, ofInt_toSigned, signedOf_senseId]

end Thingsee.Logs
