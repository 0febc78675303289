import Mathlib.Algebra.GroupWithZero.Nat
import Mathlib.Data.List.Basic

/-!
Owns `iovec_do` of `nuttx/net/usrsock/usrsock_dev.c`: copying between a flat
buffer and a list of buffers. `iovec_get` and `iovec_put` are its two directions.

Both directions first skip whole buffers while the position is behind them. The
copy ends with the flat buffer or with the last buffer of the list.
-/

namespace Thingsee.Usrsock

/-- Replaces the bytes of `buffer` from position `pos` on. What does not fit is
dropped. -/
def overwrite : List UInt8 → Nat → List UInt8 → List UInt8
  | [], _, _ => []
  | byte :: buffer, 0, [] => byte :: buffer
  | _ :: buffer, 0, byte :: bytes => byte :: overwrite buffer 0 bytes
  | byte :: buffer, pos + 1, bytes => byte :: overwrite buffer pos bytes

theorem overwrite_length (buffer : List UInt8) (pos : Nat) (bytes : List UInt8) :
    (overwrite buffer pos bytes).length = buffer.length := by
  fun_induction overwrite buffer pos bytes <;> simp_all

/-- `struct iovec`: a buffer, of which the first `len` bytes are used. -/
structure Iovec where
  base : List UInt8
  len : Nat
  within : len ≤ base.length

namespace Iovec

def ofBytes (bytes : List UInt8) : Iovec := ⟨bytes, bytes.length, Nat.le_refl _⟩

def shorten (iov : Iovec) (len : Nat) (shorter : len ≤ iov.len) : Iovec :=
  ⟨iov.base, len, Nat.le_trans shorter iov.within⟩

/-- The copying of `bytes` to position `pos` of a buffer. -/
def store (iov : Iovec) (pos : Nat) (bytes : List UInt8) : Iovec :=
  ⟨overwrite iov.base pos bytes, iov.len, by rw [overwrite_length]; exact iov.within⟩

end Iovec

/-- The number of bytes of a list of buffers. -/
def totalLen (iovs : List Iovec) : Nat := (iovs.map Iovec.len).sum

/-- The copy loop, from position `pos` of the first buffer. -/
def copyFrom : List Iovec → Nat → Nat → List UInt8
  | [], _, _ => []
  | iov :: rest, pos, len =>
    let bytes := ((iov.base.take iov.len).drop pos).take len
    bytes ++ copyFrom rest 0 (len - bytes.length)

/-- `iovec_get`. `none` is its error, a position behind all buffers. -/
def iovecGet : List Iovec → Nat → Nat → Option (List UInt8)
  | [], _, _ => none
  | iov :: rest, pos, len =>
    if 0 < pos ∧ iov.len ≤ pos then iovecGet rest (pos - iov.len) len
    else some (copyFrom (iov :: rest) pos len)

/-- The copy loop, from position `pos` of the first buffer: the number of copied
bytes and the buffers after it. -/
def copyTo : List Iovec → Nat → List UInt8 → Nat × List Iovec
  | [], _, _ => (0, [])
  | iov :: rest, pos, src =>
    let count := min (iov.len - pos) src.length
    let later := copyTo rest 0 (src.drop count)
    (count + later.1, iov.store pos (src.take count) :: later.2)

/-- `iovec_put`. `none` is its error, a position behind all buffers. -/
def iovecPut : List Iovec → Nat → List UInt8 → Option (Nat × List Iovec)
  | [], _, _ => none
  | iov :: rest, pos, src =>
    if 0 < pos ∧ iov.len ≤ pos then
      (iovecPut rest (pos - iov.len) src).map (fun result => (result.1, iov :: result.2))
    else some (copyTo (iov :: rest) pos src)

variable (iovs : List Iovec) {pos : Nat} (src : List UInt8)

theorem copyTo_lens (pos : Nat) (src : List UInt8) :
    (copyTo iovs pos src).2.map Iovec.len = iovs.map Iovec.len := by
  induction iovs generalizing pos src with
  | nil => rfl
  | cons iov rest ih =>
    simp only [copyTo, List.map_cons, ih]
    rfl

theorem copyTo_count (inFirst : ∀ iov ∈ iovs.head?, pos ≤ iov.len) (begun : iovs ≠ [] ∨ pos = 0) :
    (copyTo iovs pos src).1 = min src.length (totalLen iovs - pos) := by
  induction iovs generalizing pos src with
  | nil => simp [copyTo, totalLen]
  | cons iov rest ih =>
    have inside : pos ≤ iov.len := inFirst iov (by simp)
    have later : (copyTo rest 0 (src.drop (min (iov.len - pos) src.length))).1 = _ :=
      ih _ (by simp) (Or.inr rfl)
    have total : totalLen (iov :: rest) = iov.len + totalLen rest := by simp [totalLen]
    rw [List.length_drop] at later
    simp only [copyTo, later, total]
    omega

theorem iovecPut_lens {iovs after : List Iovec} {count : Nat} {src : List UInt8}
    (put : iovecPut iovs pos src = some (count, after)) :
    after.map Iovec.len = iovs.map Iovec.len := by
  induction iovs generalizing pos after with
  | nil => simp [iovecPut] at put
  | cons iov rest ih =>
    rw [iovecPut] at put
    split at put
    · rw [Option.map_eq_some_iff] at put
      obtain ⟨⟨later, afterRest⟩, putRest, same⟩ := put
      obtain ⟨rfl, rfl⟩ := Prod.mk.inj same
      simp only [List.map_cons, ih putRest]
    · have copied := Option.some.inj put
      rw [← copyTo_lens (iov :: rest) pos src, copied]

theorem iovecPut_count {iovs : List Iovec} (inside : pos < totalLen iovs ∨ (pos = 0 ∧ iovs ≠ [])) :
    ∃ after, iovecPut iovs pos src = some (min src.length (totalLen iovs - pos), after) := by
  induction iovs generalizing pos with
  | nil => simp [totalLen] at inside
  | cons iov rest ih =>
    have total : totalLen (iov :: rest) = iov.len + totalLen rest := by simp [totalLen]
    rw [iovecPut]
    split
    · next behind =>
      have insideRest : pos - iov.len < totalLen rest := by omega
      obtain ⟨after, put⟩ := ih (Or.inl insideRest)
      refine ⟨iov :: after, ?_⟩
      have same : totalLen (iov :: rest) - pos = totalLen rest - (pos - iov.len) := by omega
      rw [put, Option.map_some, same]
    · next notBehind =>
      have first : pos ≤ iov.len := by omega
      have count := copyTo_count (iov :: rest) src (by simpa using first)
        (Or.inl (by simp))
      exact ⟨(copyTo (iov :: rest) pos src).2, by rw [← count]⟩

theorem iovecPut_beyond (first : List Iovec) (last : Iovec) (src : List UInt8) (moved : 0 < pos)
    (beyond : totalLen (first ++ [last]) ≤ pos) (filled : first = [] ∨ 0 < last.len) :
    iovecPut (first ++ [last]) pos src = none := by
  induction first generalizing pos with
  | nil =>
    have fits : last.len ≤ pos := by simpa [totalLen] using beyond
    simp [iovecPut, moved, fits]
  | cons iov rest ih =>
    have isFilled : 0 < last.len := by simpa using filled
    have total : totalLen (iov :: rest ++ [last]) = iov.len + totalLen (rest ++ [last]) := by
      simp [totalLen]
    have atLeast : last.len ≤ totalLen (rest ++ [last]) := by simp [totalLen]
    have movedRest : 0 < pos - iov.len := by omega
    have later := ih movedRest (by omega) (Or.inr isFilled)
    rw [List.cons_append, iovecPut, if_pos ⟨moved, by omega⟩, later, Option.map_none]

end Thingsee.Usrsock
