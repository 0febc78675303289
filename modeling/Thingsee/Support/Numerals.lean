import Thingsee.Support.Radix

/-!
Owns numbers as they may be written: digits, also with zeros in front, behind an
optional sign. `strtol` reads them up to the first character that is no digit.
-/

namespace Thingsee.Support

open List

variable {digits rest : List UInt8}

def decimalValue (accum : Nat) (digits : List UInt8) : Nat :=
  digits.foldl (fun value digit => value * 10 + (digit.toNat - 48)) accum

structure AreDigits (digits : List UInt8) : Prop where
  nonempty : digits ≠ []
  all : ∀ char ∈ digits, isDigit char = true

theorem AreDigits.of_all (nonempty : digits ≠ []) (all : digits.all isDigit = true) :
    AreDigits digits :=
  ⟨nonempty, all_eq_true.mp all⟩

inductive Numeral : List UInt8 → Int → Prop where
  | plain {digits : List UInt8} (areDigits : AreDigits digits) :
      Numeral digits (decimalValue 0 digits)
  | plus {digits : List UInt8} (areDigits : AreDigits digits) :
      Numeral (43 :: digits) (decimalValue 0 digits)
  | minus {digits : List UInt8} (areDigits : AreDigits digits) :
      Numeral (45 :: digits) (-(decimalValue 0 digits : Int))

def Stops (rest : List UInt8) : Prop := ∀ char, rest.head? = some char → isDigit char = false

theorem Stops.takeWhile (stops : Stops rest) : rest.takeWhile isDigit = [] := by
  cases rest with
  | nil => rfl
  | cons char rest => exact takeWhile_cons_of_neg (by rw [stops char rfl]; decide)

theorem Stops.start {kept : List UInt8} (stops : Stops rest) (begins : kept <+: rest) :
    Stops kept := by
  rintro char first
  obtain ⟨behind, rfl⟩ := begins
  cases kept with
  | nil => cases first
  | cons head kept => exact stops char first

theorem strtoul_append (all : ∀ char ∈ digits, isDigit char = true) (stops : Stops rest)
    (accum : Nat) : strtoul accum (digits ++ rest) = decimalValue accum digits := by
  induction digits generalizing accum with
  | nil =>
    cases rest with
    | nil => rfl
    | cons char rest =>
      show (if isDigit char then _ else accum) = accum
      rw [if_neg (by rw [stops char rfl]; decide)]
  | cons digit digits ih =>
    show (if isDigit digit then strtoul _ (digits ++ rest) else accum) = _
    rw [if_pos (all digit mem_cons_self),
      ih fun char isIn => all char (mem_cons_of_mem _ isIn)]
    rfl

theorem takeWhile_digits (all : ∀ char ∈ digits, isDigit char = true) (stops : Stops rest) :
    (digits ++ rest).takeWhile isDigit = digits := by
  rw [takeWhile_append_of_pos all, stops.takeWhile, append_nil]

theorem isDigit_bounds {char : UInt8} (digit : isDigit char = true) :
    48 ≤ char.toNat ∧ char.toNat ≤ 57 := by
  have bounds := of_decide_eq_true digit
  exact ⟨UInt8.le_iff_toNat_le.mp bounds.1, UInt8.le_iff_toNat_le.mp bounds.2⟩

theorem isDigit_visible {char : UInt8} (digit : isDigit char = true) :
    char ≠ 43 ∧ char ≠ 45 ∧ char ≠ 0 ∧ isSpace char = false := by
  have bounds := isDigit_bounds digit
  have other (value : UInt8) (small : value.toNat < 48) : char ≠ value := by
    rintro rfl
    omega
  refine ⟨other 43 (by decide), other 45 (by decide), other 0 (by decide), ?_⟩
  have space : ¬ char ≤ 13 := by
    rw [UInt8.le_iff_toNat_le]
    show ¬ char.toNat ≤ 13
    omega
  simp [isSpace, other 32 (by decide), space]

namespace Numeral

variable {text : List UInt8} {value : Int}

theorem visible (numeral : Numeral text value) :
    ∀ char ∈ text, char ≠ 0 ∧ isSpace char = false := by
  intro char isIn
  cases numeral with
  | plain areDigits => exact (isDigit_visible (areDigits.all char isIn)).2.2
  | plus areDigits | minus areDigits =>
    rcases mem_cons.mp isIn with rfl | isIn
    · decide
    · exact (isDigit_visible (areDigits.all char isIn)).2.2

theorem nonempty (numeral : Numeral text value) : text ≠ [] := by
  cases numeral with
  | plain areDigits => exact areDigits.nonempty
  | plus => exact cons_ne_nil _ _
  | minus => exact cons_ne_nil _ _

theorem plain_cases {digits : List UInt8} (areDigits : AreDigits digits) (rest : List UInt8) :
    ∃ first others, digits ++ rest = first :: others ∧ first ≠ 43 ∧ first ≠ 45 := by
  obtain ⟨first, others, rfl⟩ := exists_cons_of_ne_nil areDigits.nonempty
  have visible := isDigit_visible (areDigits.all first mem_cons_self)
  exact ⟨first, others ++ rest, rfl, visible.1, visible.2.1⟩

theorem strtol_plus (rest : List UInt8) :
    Support.strtol (43 :: rest) = toSigned 32 (strtoul 0 rest) := by
  rcases strtol_cases (43 :: rest) with ⟨later, heads, _⟩ | ⟨later, heads, read⟩ | ⟨_, notPlus, _⟩
  · exact absurd (List.cons.inj heads).1 (by decide)
  · rw [read, (List.cons.inj heads).2]
  · exact absurd rfl (notPlus rest)

theorem strtol_minus (rest : List UInt8) :
    Support.strtol (45 :: rest) = toSigned 32 (-(strtoul 0 rest : Int)) := by
  rcases strtol_cases (45 :: rest) with ⟨later, heads, read⟩ | ⟨later, heads, _⟩ | ⟨notMinus, _, _⟩
  · rw [read, (List.cons.inj heads).2]
  · exact absurd (List.cons.inj heads).1 (by decide)
  · exact absurd rfl (notMinus rest)

theorem strtol (numeral : Numeral text value) {rest : List UInt8} (stops : Stops rest) :
    Support.strtol (text ++ rest) = toSigned 32 value := by
  cases numeral with
  | plain areDigits =>
    obtain ⟨first, others, starts, notPlus, notMinus⟩ := plain_cases areDigits rest
    rw [← strtoul_append areDigits.all stops]
    rcases strtol_cases (text ++ rest) with ⟨later, heads, _⟩ | ⟨later, heads, _⟩ | ⟨_, _, read⟩
    · rw [starts] at heads
      exact absurd (List.cons.inj heads).1 notMinus
    · rw [starts] at heads
      exact absurd (List.cons.inj heads).1 notPlus
    · exact read
  | plus areDigits =>
    rw [cons_append, strtol_plus, strtoul_append areDigits.all stops]
  | minus areDigits =>
    rw [cons_append, strtol_minus, strtoul_append areDigits.all stops]

theorem numberLength (numeral : Numeral text value) {rest : List UInt8} (stops : Stops rest) :
    Support.numberLength (text ++ rest) = text.length := by
  cases numeral with
  | plain areDigits =>
    obtain ⟨first, others, starts, notPlus, notMinus⟩ := plain_cases areDigits rest
    have unsigned : Support.numberLength (text ++ rest) =
        ((text ++ rest).takeWhile isDigit).length := by
      rw [starts]
      unfold Support.numberLength
      split
      · next heads => exact absurd (List.cons.inj heads).1 notMinus
      · next heads => exact absurd (List.cons.inj heads).1 notPlus
      · rfl
    rw [unsigned, takeWhile_digits areDigits.all stops]
  | @plus digits areDigits | @minus digits areDigits =>
    show 1 + ((digits ++ rest).takeWhile isDigit).length = _
    rw [takeWhile_digits areDigits.all stops, length_cons, Nat.add_comm]

theorem signedOf (numeral : Numeral text value) {spaces rest : List UInt8}
    (white : ∀ char ∈ spaces, isSpace char = true) (stops : Stops rest) :
    Support.signedOf (strtoul 0) (spaces ++ text ++ rest) = toSigned 32 value := by
  have skipped : (spaces ++ text ++ rest).dropWhile isSpace = text ++ rest := by
    obtain ⟨first, others, starts⟩ := exists_cons_of_ne_nil numeral.nonempty
    have visible := (numeral.visible first (by rw [starts]; exact mem_cons_self)).2
    rw [append_assoc, dropWhile_append_of_pos white, starts, cons_append,
      dropWhile_cons_of_neg (by rw [visible]; decide)]
  -- behind a sign, white space is skipped again, and there is none
  have inner {digits later : List UInt8} (areDigits : AreDigits digits)
      (same : digits ++ rest = later) : (later.dropWhile isSpace) = digits ++ rest := by
    obtain ⟨first, others, rfl⟩ := exists_cons_of_ne_nil areDigits.nonempty
    rw [← same]
    exact dropWhile_cons_of_neg
      (by rw [(isDigit_visible (areDigits.all first mem_cons_self)).2.2.2]; decide)
  unfold Support.signedOf
  rw [skipped]
  cases numeral with
  | plain areDigits =>
    obtain ⟨first, others, starts, notPlus, notMinus⟩ := plain_cases areDigits rest
    rw [← strtoul_append areDigits.all stops]
    split
    · next heads => exact absurd (List.cons.inj (starts.symm.trans heads)).1 notMinus
    · next heads => exact absurd (List.cons.inj (starts.symm.trans heads)).1 notPlus
    · rfl
  | plus areDigits =>
    rw [← strtoul_append areDigits.all stops]
    split
    · next heads => exact absurd (List.cons.inj heads).1 (by decide)
    · next heads => rw [inner areDigits (List.cons.inj heads).2]
    · next _ notPlus => exact absurd rfl (notPlus _)
  | minus areDigits =>
    rw [← strtoul_append areDigits.all stops]
    split
    · next heads => rw [inner areDigits (List.cons.inj heads).2]
    · next heads => exact absurd (List.cons.inj heads).1 (by decide)
    · next notMinus _ => exact absurd rfl (notMinus _)

end Numeral

end Thingsee.Support
