import Mathlib.Algebra.Order.Ring.Int
import Mathlib.Tactic.NormNum

/-!
Owns arithmetic in machine types that says whether it was exact: a computation gives its result, and
whether every number on the way to it fitted the type it was computed in.
-/

namespace Thingsee.Support

universe u v

structure Checked (α : Type u) where
  value : α
  fits : Bool

namespace Checked

variable {α β : Type u} (value : α) {width : Nat} {number : Int}

instance : Monad Checked where
  pure value := ⟨value, true⟩
  bind checked next := ⟨(next checked.value).value, checked.fits && (next checked.value).fits⟩

def signed (width : Nat) (number : Int) : Checked Int :=
  ⟨number.bmod (2 ^ width),
    decide (-(2 ^ (width - 1) : Nat) ≤ number ∧ number < (2 ^ (width - 1) : Nat))⟩

def unsigned (width : Nat) (number : Int) : Checked Int :=
  ⟨number % (2 ^ width : Nat), decide (0 ≤ number ∧ number < (2 ^ width : Nat))⟩

@[simp]
theorem pure_value : (pure value : Checked α).value = value := rfl

@[simp]
theorem pure_fits : (pure value : Checked α).fits = true := rfl

variable (checked : Checked α) (next : α → Checked β)

@[simp]
theorem bind_value : (checked >>= next).value = (next checked.value).value := rfl

@[simp]
theorem bind_fits : (checked >>= next).fits = (checked.fits && (next checked.value).fits) := rfl

theorem pure_bind : (pure value >>= next) = next value :=
  rfl

theorem signed_fits :
    (signed width number).fits = true ↔
      -(2 ^ (width - 1) : Nat) ≤ number ∧ number < (2 ^ (width - 1) : Nat) :=
  decide_eq_true_iff

theorem signed_eq (wide : 0 < width) (lower : -(2 ^ (width - 1) : Nat) ≤ number)
    (upper : number < (2 ^ (width - 1) : Nat)) : signed width number = pure number := by
  have doubled : (2 ^ width : Nat) = 2 ^ (width - 1) + 2 ^ (width - 1) := by
    rw [← Nat.two_mul, ← Nat.pow_succ', Nat.succ_eq_add_one, Nat.sub_add_cancel wide]
  have value : number.bmod (2 ^ width) = number := by
    apply Int.bmod_eq_of_le <;> omega
  unfold signed
  rw [value, decide_eq_true ⟨lower, upper⟩]
  rfl

theorem unsigned_eq (lower : 0 ≤ number) (upper : number < (2 ^ width : Nat)) :
    unsigned width number = pure number := by
  unfold unsigned
  rw [Int.emod_eq_of_lt lower upper, decide_eq_true ⟨lower, upper⟩]
  rfl

def int32 (number : Int) : Checked Int := signed 32 number

def int64 (number : Int) : Checked Int := signed 64 number

def uint32 (number : Int) : Checked Int := unsigned 32 number

theorem int32_fits : (int32 number).fits = true ↔ -2147483648 ≤ number ∧ number < 2147483648 :=
  signed_fits

theorem int32_eq (lower : -2147483648 ≤ number) (upper : number < 2147483648) :
    int32 number = pure number :=
  signed_eq (by decide) lower upper

theorem int64_eq (lower : -9223372036854775808 ≤ number) (upper : number < 9223372036854775808) :
    int64 number = pure number :=
  signed_eq (by decide) lower upper

theorem uint32_eq (lower : 0 ≤ number) (upper : number < 4294967296) :
    uint32 number = pure number :=
  unsigned_eq lower upper

end Checked

end Thingsee.Support
