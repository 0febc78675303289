import Mathlib.Data.List.Basic
import Mathlib.Data.Fintype.Basic

/-!
Owns octets as text: two upper case hexadecimal characters for each octet, with
the more significant half first. `octetsOfHex_hexText` is the round trip.
-/

namespace Thingsee.Support

def hexChar (half : UInt8) : UInt8 := half + if 9 < half then 55 else 48

def isUpperHex (char : UInt8) : Bool :=
  decide (48 ≤ char ∧ char ≤ 57) || decide (65 ≤ char ∧ char ≤ 70)

def hexValue (char : UInt8) : Option UInt8 :=
  if 48 ≤ char ∧ char ≤ 57 then some (char - 48)
  else if 65 ≤ char ∧ char ≤ 70 then some (char - 55)
  else none

def hexPair (octet : UInt8) : List UInt8 := [hexChar (octet >>> 4), hexChar (octet &&& 15)]

def hexText (octets : List UInt8) : List UInt8 := octets.flatMap hexPair

def octetsOfHex : List UInt8 → Option (List UInt8)
  | [] => some []
  | [_] => none
  | high :: low :: rest => do
      let high ← hexValue high
      let low ← hexValue low
      let octets ← octetsOfHex rest
      return ((high <<< 4) ||| low) :: octets

theorem forall_octet {property : UInt8 → Prop} (each : ∀ n : Fin 256, property (UInt8.ofNat n)) :
    ∀ octet, property octet := by
  intro octet
  have same := each ⟨octet.toNat, octet.toNat_lt⟩
  rwa [UInt8.ofNat_toNat] at same

theorem high_half : ∀ octet : UInt8, (octet >>> 4) &&& (15 : UInt8) = octet >>> 4 := by
  apply forall_octet
  decide +kernel

theorem hexValue_hexPair : ∀ octet : UInt8,
    (hexValue (hexChar (octet >>> 4))).isSome = true ∧
      (hexValue (hexChar (octet &&& 15))).isSome = true ∧
      (hexValue (hexChar (octet >>> 4))).getD 0 <<< 4 |||
        (hexValue (hexChar (octet &&& 15))).getD 0 = octet := by
  apply forall_octet
  decide +kernel

theorem isUpperHex_hexPair : ∀ octet : UInt8, (hexPair octet).all isUpperHex = true := by
  apply forall_octet
  decide +kernel

variable (octets : List UInt8)

theorem octetsOfHex_hexText : octetsOfHex (hexText octets) = some octets := by
  induction octets with
  | nil => rfl
  | cons octet rest ih =>
    obtain ⟨isHigh, isLow, joined⟩ := hexValue_hexPair octet
    obtain ⟨high, highValue⟩ := Option.isSome_iff_exists.mp isHigh
    obtain ⟨low, lowValue⟩ := Option.isSome_iff_exists.mp isLow
    rw [highValue, lowValue, Option.getD_some, Option.getD_some] at joined
    have text : hexText (octet :: rest) =
        hexChar (octet >>> 4) :: hexChar (octet &&& 15) :: hexText rest := rfl
    rw [text, octetsOfHex, highValue, lowValue, ih]
    simp [joined]

theorem length_hexText : (hexText octets).length = 2 * octets.length := by
  induction octets with
  | nil => rfl
  | cons octet rest ih =>
    have text : hexText (octet :: rest) = hexPair octet ++ hexText rest := rfl
    rw [text, List.length_append, ih, List.length_cons]
    simp only [hexPair, List.length_cons, List.length_nil]
    omega

theorem isUpperHex_hexText : (hexText octets).all isUpperHex = true := by
  induction octets with
  | nil => rfl
  | cons octet rest ih =>
    have text : hexText (octet :: rest) = hexPair octet ++ hexText rest := rfl
    rw [text, List.all_append, isUpperHex_hexPair, ih]
    rfl

end Thingsee.Support
