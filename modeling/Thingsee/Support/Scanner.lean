import Mathlib.Data.List.Basic

/-!
Owns functions that read a text character by character. A scanner looks at the next character,
gets it, or gets characters while they meet a condition; at the end of the text it sees the
character zero. `run` carries it out on what is left of a text.

`run_append` says that a scanner does not see what it has not reached: if it leaves something of a
text, it does the same in front of any longer one.
-/

namespace Thingsee.Support

universe u

/-- A function that reads a text and returns a result, or stops for a reason. -/
inductive Scanner (ε α : Type) where
  | done (result : α)
  | stop (reason : ε)
  | peek (next : UInt8 → Scanner ε α)
  | get (next : UInt8 → Scanner ε α)
  | scan (condition : UInt8 → Bool) (ends : condition 0 = false) (next : List UInt8 → Scanner ε α)

namespace Scanner

variable {ε α β : Type} {scanner : Scanner ε α} {rest left : List UInt8} {result : α}

def bind : Scanner ε α → (α → Scanner ε β) → Scanner ε β
  | .done result, after => after result
  | .stop reason, _ => .stop reason
  | .peek next, after => .peek fun char => (next char).bind after
  | .get next, after => .get fun char => (next char).bind after
  | .scan condition ends next, after => .scan condition ends fun chars => (next chars).bind after

instance : Monad (Scanner ε) where
  pure := .done
  bind := bind

def peekChar : Scanner ε UInt8 := .peek .done

def getChar : Scanner ε UInt8 := .get .done

def scanWhile (condition : UInt8 → Bool) (ends : condition 0 = false) : Scanner ε (List UInt8) :=
  .scan condition ends .done

/-- What a scanner makes of a text, and what it leaves of it. -/
def run : Scanner ε α → List UInt8 → Except ε (α × List UInt8)
  | .done result, rest => .ok (result, rest)
  | .stop reason, _ => .error reason
  | .peek next, rest => (next (rest.headD 0)).run rest
  | .get next, rest => (next (rest.headD 0)).run rest.tail
  | .scan condition _ next, rest => (next (rest.takeWhile condition)).run (rest.dropWhile condition)

@[simp] theorem run_pure (result : α) (rest : List UInt8) :
    (pure result : Scanner ε α).run rest = .ok (result, rest) := rfl

@[simp] theorem run_done (result : α) (rest : List UInt8) :
    (done result : Scanner ε α).run rest = .ok (result, rest) := rfl

@[simp] theorem run_stop (reason : ε) (rest : List UInt8) :
    (stop reason : Scanner ε α).run rest = .error reason := rfl

@[simp] theorem run_peekChar (rest : List UInt8) :
    (peekChar : Scanner ε UInt8).run rest = .ok (rest.headD 0, rest) := rfl

@[simp] theorem run_getChar (rest : List UInt8) :
    (getChar : Scanner ε UInt8).run rest = .ok (rest.headD 0, rest.tail) := rfl

@[simp] theorem run_scanWhile (condition : UInt8 → Bool) (ends : condition 0 = false)
    (rest : List UInt8) :
    (scanWhile condition ends : Scanner ε (List UInt8)).run rest =
      .ok (rest.takeWhile condition, rest.dropWhile condition) := rfl

theorem run_bind (scanner : Scanner ε α) (after : α → Scanner ε β) (rest : List UInt8) :
    (scanner >>= after).run rest =
      match scanner.run rest with
      | .ok (result, left) => (after result).run left
      | .error reason => .error reason := by
  induction scanner generalizing rest with
  | done result => rfl
  | stop reason => rfl
  | peek next ih => exact ih _ rest
  | get next ih => exact ih _ rest.tail
  | scan condition ends next ih =>
    exact ih _ (rest.dropWhile condition)

theorem run_bind_ok (returned : scanner.run rest = .ok (result, left)) (after : α → Scanner ε β) :
    (scanner >>= after).run rest = (after result).run left := by
  rw [run_bind, returned]

theorem run_bind_error {reason : ε} (stopped : scanner.run rest = .error reason)
    (after : α → Scanner ε β) : (scanner >>= after).run rest = .error reason := by
  rw [run_bind, stopped]

theorem run_bind_assoc {γ : Type} (scanner : Scanner ε α) (next : α → Scanner ε β)
    (after : β → Scanner ε γ) (rest : List UInt8) :
    (scanner >>= fun result => next result >>= after).run rest =
      ((scanner >>= next) >>= after).run rest := by
  rw [run_bind, run_bind, run_bind]
  cases scanner.run rest with
  | ok result => exact run_bind _ _ _
  | error reason => rfl

@[simp] theorem run_peekChar_bind (after : UInt8 → Scanner ε β) (rest : List UInt8) :
    (peekChar >>= after).run rest = (after (rest.headD 0)).run rest := rfl

@[simp] theorem run_getChar_bind (after : UInt8 → Scanner ε β) (rest : List UInt8) :
    (getChar >>= after).run rest = (after (rest.headD 0)).run rest.tail := rfl

@[simp] theorem run_scanWhile_bind (condition : UInt8 → Bool) (ends : condition 0 = false)
    (after : List UInt8 → Scanner ε β) (rest : List UInt8) :
    (scanWhile condition ends >>= after).run rest =
      (after (rest.takeWhile condition)).run (rest.dropWhile condition) := rfl

@[simp] theorem run_pure_bind (result : α) (after : α → Scanner ε β) (rest : List UInt8) :
    ((pure result : Scanner ε α) >>= after).run rest = (after result).run rest := rfl

theorem length_run_le (returned : scanner.run rest = .ok (result, left)) :
    left.length ≤ rest.length := by
  induction scanner generalizing rest with
  | done result =>
    cases returned
    exact Nat.le_refl _
  | stop reason => cases returned
  | peek next ih => exact ih _ returned
  | get next ih =>
    have shorter := ih _ returned
    rw [List.length_tail] at shorter
    omega
  | scan condition ends next ih =>
    exact Nat.le_trans (ih _ returned) (List.dropWhile_sublist _).length_le

theorem dropWhile_append_of_left {condition : UInt8 → Bool} (left : rest.dropWhile condition ≠ [])
    (more : List UInt8) :
    (rest ++ more).dropWhile condition = rest.dropWhile condition ++ more := by
  rw [List.dropWhile_append, if_neg]
  simpa using left

theorem takeWhile_append_of_left {condition : UInt8 → Bool} (left : rest.dropWhile condition ≠ [])
    (more : List UInt8) : (rest ++ more).takeWhile condition = rest.takeWhile condition := by
  rw [List.takeWhile_append, if_neg]
  intro whole
  have parts := congrArg List.length (List.takeWhile_append_dropWhile (p := condition) (l := rest))
  rw [List.length_append, whole] at parts
  exact left (List.length_eq_zero_iff.mp (by omega))

theorem run_nil (returned : scanner.run [] = .ok (result, left)) : left = [] :=
  List.length_eq_zero_iff.mp (Nat.le_zero.mp (length_run_le returned))

theorem run_append (returned : scanner.run rest = .ok (result, left)) (something : left ≠ [])
    (more : List UInt8) : scanner.run (rest ++ more) = .ok (result, left ++ more) := by
  induction scanner generalizing rest with
  | done result =>
    cases returned
    rfl
  | stop reason => cases returned
  | peek next ih | get next ih =>
    cases rest with
    | nil => exact absurd (run_nil returned) something
    | cons char rest => exact ih char returned
  | scan condition ends next ih =>
    have reached : rest.dropWhile condition ≠ [] := by
      intro none
      unfold run at returned
      rw [none] at returned
      exact something (run_nil returned)
    unfold run
    rw [takeWhile_append_of_left reached, dropWhile_append_of_left reached]
    exact ih _ returned

end Scanner

end Thingsee.Support
