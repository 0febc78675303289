import Mathlib.Data.List.Basic

/-!
Owns the lines of a text: each ends behind its newline, and the last one may have none.
A text that ends at a line boundary can be read apart from what follows it.
-/

namespace Thingsee.Support

open List

/-- The lines of a text, with their newlines. -/
def readLines : List UInt8 → List (List UInt8)
  | [] => []
  | char :: rest =>
    if char = 10 then [10] :: readLines rest
    else
      match readLines rest with
      | [] => [[char]]
      | line :: others => (char :: line) :: others

def Ended (text : List UInt8) : Prop := text = [] ∨ text.getLast? = some 10

instance (text : List UInt8) : Decidable (Ended text) :=
  inferInstanceAs (Decidable (text = [] ∨ text.getLast? = some 10))

variable {text first : List UInt8}

theorem readLines_of_ne (inside : char ≠ 10) (rest : List UInt8) :
    readLines (char :: rest) =
      match readLines rest with
      | [] => [[char]]
      | line :: others => (char :: line) :: others := by
  rw [readLines, if_neg inside]

theorem flatten_readLines (text : List UInt8) : (readLines text).flatten = text := by
  induction text with
  | nil => rfl
  | cons char rest ih =>
    unfold readLines
    by_cases newline : char = 10
    · rw [if_pos newline, flatten_cons, ih, newline]
      rfl
    · rw [if_neg newline]
      cases lines : readLines rest with
      | nil | cons line others =>
        rw [lines] at ih
        rw [← ih]
        rfl

theorem readLines_eq_nil : readLines text = [] ↔ text = [] := by
  constructor
  · intro none
    rw [← flatten_readLines text, none]
    rfl
  · rintro rfl
    rfl

theorem Ended.tail {rest : List UInt8} (ended : Ended (char :: rest)) :
    rest = [] ∧ char = 10 ∨ rest ≠ [] ∧ Ended rest := by
  cases rest with
  | nil =>
    rcases ended with none | last
    · cases none
    · exact Or.inl ⟨rfl, Option.some.inj last⟩
  | cons next others =>
    rcases ended with none | last
    · cases none
    · rw [List.getLast?_cons_cons] at last
      exact Or.inr ⟨cons_ne_nil _ _, Or.inr last⟩

theorem Ended.append {second : List UInt8} (left : Ended first) (right : Ended second) :
    Ended (first ++ second) := by
  rcases right with rfl | last
  · rwa [append_nil]
  · exact Or.inr (by rw [List.getLast?_append, last]; rfl)

theorem readLines_append (ended : Ended first) (second : List UInt8) :
    readLines (first ++ second) = readLines first ++ readLines second := by
  induction first with
  | nil => rfl
  | cons char rest ih =>
    rcases ended.tail with ⟨rfl, rfl⟩ | ⟨some, restEnded⟩
    · rfl
    · have others := ih restEnded
      rw [cons_append]
      by_cases newline : char = 10
      · rw [newline, readLines, readLines, if_pos rfl, if_pos rfl, others, cons_append]
      · rw [readLines_of_ne newline, readLines_of_ne newline, others]
        cases lines : readLines rest with
        | nil => exact absurd (readLines_eq_nil.mp lines) some
        | cons line more => rfl

theorem readLines_single (inside : ∀ char ∈ text, char ≠ 10) :
    readLines (text ++ [10]) = [text ++ [10]] := by
  induction text with
  | nil => rfl
  | cons char rest ih =>
    rw [cons_append, readLines_of_ne (inside char mem_cons_self),
      ih (fun later isIn => inside later (mem_cons_of_mem _ isIn))]

theorem readLines_cons {line : List UInt8} {others : List (List UInt8)}
    (lines : readLines text = line :: others) :
    line ≠ [] ∧ readLines line = [line] ∧ readLines others.flatten = others ∧
      (others ≠ [] → Ended line) := by
  induction text generalizing line others with
  | nil => cases lines
  | cons char rest ih =>
    unfold readLines at lines
    by_cases newline : char = 10
    · rw [if_pos newline] at lines
      obtain ⟨rfl, rfl⟩ := List.cons.inj lines
      exact ⟨by decide, by decide, by rw [flatten_readLines], fun _ => Or.inr rfl⟩
    · rw [if_neg newline] at lines
      cases more : readLines rest with
      | nil =>
        rw [more] at lines
        obtain ⟨rfl, rfl⟩ := List.cons.inj lines
        refine ⟨by simp, ?_, rfl, fun some => absurd rfl some⟩
        unfold readLines
        rw [if_neg newline]
        rfl
      | cons next later =>
        rw [more] at lines
        obtain ⟨rfl, rfl⟩ := List.cons.inj lines
        obtain ⟨nonempty, alone, behind, ended⟩ := ih more
        refine ⟨by simp, ?_, behind, ?_⟩
        · unfold readLines
          rw [if_neg newline, alone]
        · intro some
          rcases ended some with none | last
          · exact absurd none nonempty
          · refine Or.inr ?_
            cases next with
            | nil => exact absurd rfl nonempty
            | cons second tail => rw [List.getLast?_cons_cons, last]

theorem readLines_divided {first second : List (List UInt8)}
    (lines : readLines text = first ++ second) :
    readLines first.flatten = first ∧ readLines second.flatten = second ∧
      (second ≠ [] → Ended first.flatten) := by
  induction first generalizing text with
  | nil =>
    rw [nil_append] at lines
    refine ⟨rfl, ?_, fun _ => Or.inl rfl⟩
    rw [← lines, flatten_readLines]
  | cons line rest ih =>
    obtain ⟨nonempty, alone, behind, ended⟩ := readLines_cons lines
    obtain ⟨ofRest, ofSecond, restEnded⟩ := ih behind
    refine ⟨?_, ofSecond, ?_⟩
    · rw [flatten_cons]
      cases rest with
      | nil => rw [flatten_nil, append_nil, alone]
      | cons next others =>
        rw [readLines_append (ended (by simp)), alone, ofRest]
        rfl
    · intro some
      rw [flatten_cons]
      exact Ended.append (ended (by simp [some])) (restEnded some)

end Thingsee.Support
