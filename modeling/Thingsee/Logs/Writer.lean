import Thingsee.Logs.Payload

/-!
Owns the text of log lines: what a payload is rendered as, which payloads keep to the
separators of a line, and that `serialize_payload` stores that text in a buffer that is
long enough.
-/

namespace Thingsee.Logs

open Support List

variable {size : Nat} {buffer : List UInt8}

def Scalar.width (scalar : Scalar) : Nat := 2 + scalar.print.length

/-- The number of characters of a value: brackets, and a space behind each item. -/
def Value.width : Value → Nat
  | Value.scalar item => item.width
  | .array [] => 4
  | .array (item :: rest) => 5 + ((item :: rest).map (fun scalar => scalar.width + 1)).sum

def Scalar.text (scalar : Scalar) : List UInt8 := printType scalar.valuetype ++ scalar.print

def itemsText : List Scalar → List UInt8
  | [] => []
  | [item] => item.text ++ [32, 93]
  | item :: next :: rest => item.text ++ 32 :: itemsText (next :: rest)

def Value.text : Value → List UInt8
  | Value.scalar item => item.text
  | .array items => printType 6 ++ [91, 32] ++ itemsText items

variable (scalar : Scalar) (number : Int) {payload : Payload}

theorem length_printType : (printType scalar.valuetype).length = 2 := by
  have codes : ∀ code ∈ ([1, 2, 3, 4, 5, 7] : List Int), (printType code).length = 2 := by decide
  apply codes
  cases scalar <;> simp [Scalar.valuetype]

theorem Scalar.length_text : scalar.text.length = scalar.width := by
  rw [Scalar.text, length_append, length_printType, Scalar.width]

theorem length_itemsText (item : Scalar) (rest : List Scalar) :
    (itemsText (item :: rest)).length =
      1 + ((item :: rest).map (fun scalar => scalar.width + 1)).sum := by
  induction rest generalizing item with
  | nil =>
    rw [itemsText, length_append, item.length_text]
    simp only [length_cons, length_nil, map_cons, map_nil, sum_cons,
      sum_nil]
    omega
  | cons next rest ih =>
    rw [itemsText, length_append, length_cons, ih, item.length_text,
      map_cons (l := next :: rest), sum_cons]
    omega

theorem Value.length_text (value : Value) : value.text.length = value.width := by
  cases value with
  | scalar scalar => exact scalar.length_text
  | array items =>
    rw [Value.text, length_append]
    cases items with
    | nil => decide
    | cons item rest =>
      rw [length_itemsText]
      have front : (printType 6 ++ [91, 32]).length = 4 := by decide
      rw [front, Value.width]
      omega

theorem append_of_fits {text : List UInt8} (fits : buffer.length + text.length < size) :
    append size buffer text = buffer ++ text := by
  rw [append, snprintf_of_fits (by omega)]

theorem serializeScalar_of_fits {scalar : Scalar} (fits : buffer.length + scalar.width < size) :
    serializeScalar size buffer scalar = buffer ++ scalar.text := by
  have whole := scalar.length_text
  rw [Scalar.text, length_append] at whole
  have front : append size buffer (printType scalar.valuetype) =
      buffer ++ printType scalar.valuetype := append_of_fits (by omega)
  rw [serializeScalar, front, append_of_fits (by rw [length_append]; omega),
    append_assoc, Scalar.text]

theorem serializeItems_of_fits {items : List Scalar}
    (fits : buffer.length + (itemsText items).length < size) :
    serializeItems size buffer items = buffer ++ itemsText items := by
  induction items generalizing buffer with
  | nil => rw [serializeItems, itemsText, append_nil]
  | cons item rest ih =>
    have width := item.length_text
    cases rest with
    | nil =>
      rw [itemsText, length_append, width] at fits
      rw [serializeItems, serializeScalar_of_fits (by omega),
        append_of_fits (by rw [length_append, width]; omega), itemsText,
        append_assoc]
    | cons next rest =>
      rw [itemsText, length_append, width, length_cons] at fits
      have long : (buffer ++ item.text).length = buffer.length + item.width := by
        rw [length_append, width]
      rw [serializeItems, serializeScalar_of_fits (by omega),
        append_of_fits (by rw [long, length_singleton]; omega),
        ih (by rw [length_append, long, length_singleton]; omega),
        itemsText, append_assoc, append_assoc, singleton_append]

theorem valueSerialize_of_fits {value : Value} (fits : value.width < size) :
    valueSerialize size value = value.text := by
  have whole := value.length_text
  cases value with
  | scalar scalar =>
    rw [valueSerialize,
      serializeScalar_of_fits (by rw [length_nil, Nat.zero_add]; exact fits),
      nil_append]
    rfl
  | array items =>
    rw [Value.text, length_append, length_append] at whole
    have front : append size [] (printType 6) = printType 6 :=
      append_of_fits (by rw [length_nil]; omega)
    rw [valueSerialize, front, append_of_fits (by omega),
      serializeItems_of_fits (by rw [length_append]; omega)]
    rfl

theorem serializeSense_spec (text : List UInt8) (size : Nat) (buffer : List UInt8)
    (room : buffer.length < size) :
    (serializeSense text size buffer).2 = buffer ++ text ∧
      (serializeSense text size buffer).2.length + 2 ≤ (serializeSense text size buffer).1 := by
  induction size using serializeSense.induct text buffer with
  | case1 size entry full ih =>
    rw [serializeSense, if_pos full]
    exact ih (by omega)
  | case2 size entry free =>
    have short : (snprintf (size - buffer.length) text).length < size - buffer.length := by
      rw [snprintf_length]
      omega
    have isEntry : entry = buffer ++ snprintf (size - buffer.length) text := rfl
    have whole : snprintf (size - buffer.length) text = text := by
      rw [snprintf]
      apply take_of_length_le
      rw [isEntry, length_append, snprintf_length] at free
      omega
    rw [serializeSense, if_neg free]
    refine ⟨?_, ?_⟩
    · show entry = _
      rw [isEntry, whole]
    · show entry.length + 2 ≤ size
      rw [isEntry, length_append] at free ⊢
      omega

/-- No separator, no white space and no end of string. -/
def Plain (text : List UInt8) : Prop :=
  ∀ char ∈ text, char ≠ 0 ∧ char ≠ 44 ∧ char ≠ 59 ∧ isSpace char = false

instance (text : List UInt8) : Decidable (Plain text) := List.decidableBAll _ text

/-- A `pId` or the name of a sense. -/
structure Named (text : List UInt8) : Prop where
  nonempty : text ≠ []
  short : text.length ≤ 31
  plain : Plain text

def Scalar.Plain : Scalar → Prop
  | .string text => Logs.Plain text
  | _ => True

def Value.Plain : Value → Prop
  | Value.scalar item => item.Plain
  | .array items => ∀ item ∈ items, item.Plain

/-- The payloads of the log: named, plain, and with values that fit the buffer for
values of the writer. -/
structure Payload.Writable (payload : Payload) : Prop where
  profile : Named payload.state.pId
  names : ∀ sense ∈ payload.senses, Named sense.name
  values : ∀ sense ∈ payload.senses, sense.value.Plain
  widths : ∀ sense ∈ payload.senses, sense.value.width < 128

def Sense.text (sense : Sense) : List UInt8 := sense.print sense.value.text

def Payload.line (payload : Payload) : List UInt8 :=
  payload.state.print ++ payload.senses.flatMap (fun sense => 59 :: sense.text)

theorem decimal_short (number : Int32) : (decimal number.toInt).length ≤ 11 :=
  decimal_length number.le_toInt number.toInt_lt

theorem toSigned_bounds : -2 ^ 31 ≤ toSigned 32 number ∧ toSigned 32 number < 2 ^ 31 := by
  unfold toSigned
  constructor
  · have lower := Int.le_bmod (x := number) (m := 2 ^ 32) (by decide)
    omega
  · have upper := Int.bmod_lt (x := number) (m := 2 ^ 32) (by decide)
    omega

theorem decimal_toSigned_short : (decimal (toSigned 32 number)).length ≤ 11 :=
  decimal_length (toSigned_bounds number).1 (toSigned_bounds number).2

theorem length_field {number : Int} (short : (decimal number).length ≤ 11) :
    (field number).length ≤ 12 := by
  rw [field, length_cons]
  omega

theorem Payload.Writable.length_state (writable : payload.Writable) :
    payload.state.print.length + 2 ≤ 512 := by
  have short := writable.profile.short
  have pu := length_field (decimal_short payload.state.puId)
  have st := length_field (decimal_short payload.state.stId)
  have ev := length_field (decimal_short payload.state.evId)
  have sec := length_field (decimal_toSigned_short payload.state.ts.sec.toNat)
  have nsec := length_field (decimal_short payload.state.ts.nsec)
  simp only [Ids.print, Timespec.print, length_append]
  omega

theorem foldl_serializeSense {senses : List Sense} (size : Nat) (buffer : List UInt8)
    (room : buffer.length + 2 ≤ size) (fits : ∀ sense ∈ senses, sense.value.width < 128) :
    let entry := senses.foldl
      (fun entry sense =>
        serializeSense (59 :: sense.print (valueSerialize 128 sense.value)) entry.1 entry.2)
      (size, buffer)
    entry.2 = buffer ++ senses.flatMap (fun sense => 59 :: sense.text) ∧
      entry.2.length + 2 ≤ entry.1 := by
  induction senses generalizing size buffer with
  | nil => exact ⟨(append_nil _).symm, room⟩
  | cons sense rest ih =>
    have text : sense.print (valueSerialize 128 sense.value) = sense.text := by
      rw [valueSerialize_of_fits (fits sense mem_cons_self), Sense.text]
    have one := serializeSense_spec (59 :: sense.text) size buffer (by omega)
    have others := ih (serializeSense (59 :: sense.text) size buffer).1
      (serializeSense (59 :: sense.text) size buffer).2 one.2
      (fun later isIn => fits later (mem_cons_of_mem _ isIn))
    rw [foldl_cons, text, flatMap_cons, ← append_assoc, ← one.1]
    exact others

theorem serializePayload_spec (writable : payload.Writable) :
    (serializePayload payload).2 = payload.line ++ [10, 0] ∧
      (serializePayload payload).2.length ≤ (serializePayload payload).1 := by
  have room := writable.length_state
  have state : append 512 [] payload.state.print = payload.state.print := by
    rw [append_of_fits (by rw [length_nil]; omega), nil_append]
  have entry := foldl_serializeSense 512 payload.state.print room writable.widths
  rw [← state] at entry
  refine ⟨?_, ?_⟩
  · show _ ++ [10, 0] = _
    rw [entry.1, state, Payload.line]
  · show (_ ++ [10, 0]).length ≤ _
    rw [length_append]
    exact entry.2

end Thingsee.Logs
