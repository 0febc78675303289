import Thingsee.Modem.Params

/-!
Owns what a complete response line looks like as text: a response name and a
list of parameters (`Tail`), which parameter texts are valid for a list of
formats, and the stream they stand for.
-/

namespace Thingsee.Modem

open List

variable (fmt : RespFormat) {formats : List RespFormat} (param : Param)

def commaSeparated : List (List UInt8) → List UInt8
  | [] => []
  | [text] => text
  | text :: next :: rest => text ++ 44 :: commaSeparated (next :: rest)

/-- What follows a response name: nothing, or a colon, a space and parameters.
`extra` is the text after the separator behind the last parameter of the format,
if the line has more parameters than that. -/
inductive Tail where
  | nothing
  | fields (params : List Param) (extra : Option (List UInt8))

def segments (params : List Param) (extra : Option (List UInt8)) : List (List UInt8) :=
  params.map Param.text ++ extra.toList

def Tail.text : Tail → List UInt8
  | .nothing => []
  | .fields params extra => 58 :: 32 :: commaSeparated (segments params extra)

theorem Tail.text_separated (tail : Tail) : tail.text = [] ∨ tail.text.head? = some 58 := by
  cases tail with
  | nothing => exact Or.inl rfl
  | fields params extra => exact Or.inr rfl

def lineText (name : List UInt8) (tail : Tail) : List UInt8 := name ++ (tail.text ++ [13, 10])

/-- Whether every parameter is a text of its format. `more` says that another
text follows; a string to the end of the line takes what follows. -/
def validParams (more : Bool) : List RespFormat → Nat → List Param → Bool
  | _, _, [] => true
  | [], _, _ :: _ => false
  | fmt :: formats, datalen, param :: params =>
    param.valid fmt datalen && (fmt != .stringToEol || (params.isEmpty && !more)) &&
      validParams more formats (param.datalenAfter fmt datalen) params

def datalenAfterAll : List RespFormat → Nat → List Param → Nat
  | fmt :: formats, datalen, param :: params =>
    datalenAfterAll formats (param.datalenAfter fmt datalen) params
  | _, datalen, _ => datalen

def paramValues : List RespFormat → List Param → List Value
  | fmt :: formats, param :: params => param.value fmt :: paramValues formats params
  | _, _ => []

/-- The stream the parameters of a line leave. -/
def paramStream (formats : List RespFormat) (params : List Param) : List UInt8 :=
  encodeParams formats (paramValues formats params)

/-- Whether the parameters of a tail are texts of the formats. A line with more
parameters than formats has a text for each of them first. -/
def Tail.valid (formats : List RespFormat) : Tail → Bool
  | .nothing => true
  | .fields params none => !params.isEmpty && validParams false formats 0 params
  | .fields params (some extra) =>
    params.length == formats.length && extra.all (fun char => !isEndOfLine char) &&
      validParams true formats 0 params

/-- The parameters of a tail that belong to a format. A missing first parameter
is read as an empty one. -/
def Tail.params : Tail → List Param
  | .nothing => [.bare []]
  | .fields params _ => params

/-- Whether a line has more parameters than its format. -/
def Tail.surplus : Tail → Bool
  | .nothing => false
  | .fields _ extra => extra.isSome

def Param.spaced : Param → Param
  | .bare chars => .bare (32 :: chars)
  | .quoted before content after => .quoted (32 :: before) content after

theorem Param.text_spaced : param.spaced.text = 32 :: param.text := by
  cases param <;> rfl

theorem Param.number_spaced : param.spaced.number = param.number := by
  have notNumeric : isNumeric 32 = false := rfl
  simp [number, text_spaced, notNumeric]

theorem Param.content_spaced : param.spaced.content = param.content := by
  cases param <;> rfl

theorem Param.value_spaced : param.spaced.value fmt = param.value fmt := by
  cases fmt <;> simp [value, number_spaced, text_spaced, content_spaced]

theorem Param.datalenAfter_spaced (datalen : Nat) (param : Param) :
    param.spaced.datalenAfter fmt datalen = param.datalenAfter fmt datalen := by
  cases fmt <;> simp [datalenAfter, number_spaced, content_spaced]

theorem Param.valid_spaced (datalen : Nat) (param : Param) :
    param.spaced.valid fmt datalen = param.valid fmt datalen := by
  have inner : isInner 32 = true := rfl
  have unquoted : isUnquoted 32 = true := rfl
  have notEnd : isEndOfLine 32 = false := rfl
  cases fmt <;> cases param <;>
    simp [valid, spaced, text, inner, unquoted, notEnd]

theorem validParams_datalen (known : datalenFirst false formats = true) (more : Bool)
    (params : List Param) (datalen other : Nat) :
    validParams more formats datalen params = validParams more formats other params := by
  induction formats generalizing params datalen other with
  | nil => cases params <;> rfl
  | cons fmt formats ih =>
    cases params with
    | nil => rfl
    | cons param params =>
      cases fmt <;>
        simp_all [validParams, datalenFirst, Param.valid, Param.datalenAfter] <;>
        rw [ih]

theorem commaSeparated_append_singleton (texts : List (List UInt8)) (last : List UInt8) :
    commaSeparated (texts ++ [last]) = texts.flatMap (· ++ [44]) ++ last := by
  induction texts with
  | nil => rfl
  | cons text texts ih =>
    cases texts with
    | nil => simp [commaSeparated]
    | cons next rest =>
      rw [flatMap_cons, append_assoc, ← ih]
      simp [commaSeparated]

theorem validParams_append {more : Bool} {datalen : Nat} {init rest : List Param}
    (filled : rest ≠ []) (valid : validParams more formats datalen (init ++ rest) = true) :
    validParams true formats datalen init = true ∧
      validParams more (formats.drop init.length) (datalenAfterAll formats datalen init) rest =
        true := by
  induction init generalizing formats datalen with
  | nil => exact ⟨by simp [validParams], by cases formats <;> exact valid⟩
  | cons param init ih =>
    cases formats with
    | nil => simp [validParams] at valid
    | cons fmt formats =>
      simp only [cons_append, validParams, Bool.and_eq_true] at valid ⊢
      obtain ⟨⟨paramValid, notLast⟩, tailValid⟩ := valid
      have separable : (fmt != .stringToEol) = true := by
        simpa [filled] using notLast
      obtain ⟨initValid, restValid⟩ := ih tailValid
      exact ⟨⟨⟨paramValid, by simp [separable]⟩, initValid⟩, restValid⟩

theorem validParams_length {more : Bool} {datalen : Nat} {params : List Param}
    (valid : validParams more formats datalen params = true) : params.length ≤ formats.length := by
  induction params generalizing formats datalen with
  | nil => simp
  | cons param params ih =>
    cases formats with
    | nil => simp [validParams] at valid
    | cons fmt formats =>
      simp only [validParams, Bool.and_eq_true] at valid
      have := ih valid.2
      simpa using this

theorem paramStream_cons (formats : List RespFormat) (param : Param) (params : List Param) :
    paramStream (fmt :: formats) (param :: params) =
      encodeParam fmt (param.value fmt) ++ paramStream formats params := rfl

theorem paramStream_append {init : List Param} (short : init.length ≤ formats.length)
    (rest : List Param) :
    paramStream formats (init ++ rest) =
      paramStream formats init ++ paramStream (formats.drop init.length) rest := by
  induction init generalizing formats with
  | nil => cases formats <;> simp [paramStream, paramValues, encodeParams]
  | cons param init ih =>
    cases formats with
    | nil => simp at short
    | cons fmt formats =>
      have shorter : init.length ≤ formats.length := by simpa using short
      rw [cons_append, paramStream_cons, paramStream_cons, ih shorter,
        append_assoc]
      rfl

theorem validParams_spaced (more : Bool) (formats : List RespFormat) (datalen : Nat)
    (param : Param) (params : List Param) :
    validParams more formats datalen (param.spaced :: params) =
      validParams more formats datalen (param :: params) := by
  cases formats <;> simp [validParams, Param.valid_spaced, Param.datalenAfter_spaced]

theorem paramStream_spaced (formats : List RespFormat) (param : Param) (params : List Param) :
    paramStream formats (param.spaced :: params) = paramStream formats (param :: params) := by
  cases formats <;> simp [paramStream, paramValues, Param.value_spaced]

def missingParams (formats : List RespFormat) : List Param :=
  List.replicate formats.length (.bare [])

/-- The parameters of a line together with those missing at its end. -/
def filledParams (formats : List RespFormat) (params : List Param) : List Param :=
  params ++ missingParams (formats.drop params.length)

theorem paramStream_filledParams {params : List Param} (short : params.length ≤ formats.length) :
    paramStream formats (filledParams formats params) =
      paramStream formats params ++
        paramStream (formats.drop params.length) (missingParams (formats.drop params.length)) := by
  rw [filledParams, paramStream_append short]

theorem paramStream_length_le (formats : List RespFormat) (params more : List Param) :
    (paramStream formats params).length ≤ (paramStream formats (params ++ more)).length := by
  induction params generalizing formats with
  | nil => cases formats <;> simp [paramStream, paramValues, encodeParams]
  | cons param params ih =>
    cases formats with
    | nil => exact Nat.le_refl _
    | cons fmt formats =>
      rw [cons_append, paramStream_cons, paramStream_cons, length_append,
        length_append]
      exact Nat.add_le_add_left (ih formats) _

theorem Tail.params_pos {tail : Tail} (valid : tail.valid formats = true)
    (exact : tail.surplus = false) : 0 < tail.params.length := by
  cases tail with
  | nothing => exact Nat.one_pos
  | fields params extra =>
    cases extra with
    | some extra => simp [Tail.surplus] at exact
    | none =>
      simp only [Tail.valid, Bool.and_eq_true, Bool.not_eq_true',
        isEmpty_eq_false_iff] at valid
      exact length_pos_of_ne_nil valid.1

theorem Tail.params_length {tail : Tail} (valid : tail.valid formats = true)
    (expected : 1 ≤ formats.length) (exact : tail.surplus = false) :
    tail.params.length ≤ formats.length := by
  cases tail with
  | nothing => exact expected
  | fields params extra =>
    cases extra with
    | some extra => simp [Tail.surplus] at exact
    | none =>
      simp only [Tail.valid, Bool.and_eq_true] at valid
      exact validParams_length valid.2

end Thingsee.Modem
