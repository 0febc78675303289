import Thingsee.Support.LittleEndian

/-!
Owns computations that log what they read: a value with the offsets of the octets of a memory
that it was computed from. `Within` says that no offset reaches a bound, and its rules follow
the structure of a computation.
-/

namespace Thingsee.Support

open List

universe u v

structure Reads (α : Type u) where
  value : α
  offsets : List Nat

namespace Reads

variable {α : Type u} {β : Type v} (memory : Nat → UInt8) (bound offset count : Nat)

instance : Monad Reads.{u} where
  pure value := ⟨value, []⟩
  bind reads next := ⟨(next reads.value).value, reads.offsets ++ (next reads.value).offsets⟩

def octets (memory : Nat → UInt8) (offset count : Nat) : Reads (List UInt8) where
  value := (List.range' offset count).map memory
  offsets := List.range' offset count

def unsigned (memory : Nat → UInt8) (offset count : Nat) : Reads Nat where
  value := leValue (octets memory offset count).value
  offsets := (octets memory offset count).offsets

def signed (memory : Nat → UInt8) (offset count : Nat) : Reads Int where
  value := toSigned (8 * count) (unsigned memory offset count).value
  offsets := (unsigned memory offset count).offsets

variable (value : α) {β : Type u} (reads : Reads α) (next : α → Reads β)

@[simp]
theorem value_pure : (pure value : Reads α).value = value := rfl

/-- Nothing at the bound or behind it is read. -/
def Within (bound : Nat) (reads : Reads α) : Prop := ∀ offset ∈ reads.offsets, offset < bound

end Reads

end Thingsee.Support
