import Mathlib.Data.List.Basic

/-!
Owns frames in a stream of bytes: a frame is a header of fixed length, which tells how long
the body is, and the body. A reader collects a frame in pieces of any size, and what it
collects from the bytes of a list of frames are these frames, one after the other.
-/

namespace Thingsee.Support

open List

universe u

structure Format (F : Type u) where
  headerLength : Nat
  headerLength_pos : 0 < headerLength
  header : F → List UInt8
  body : F → List UInt8
  bodyLength : List UInt8 → Nat
  decode : List UInt8 → List UInt8 → F
  header_length : ∀ frame, (header frame).length = headerLength
  bodyLength_header : ∀ frame, bodyLength (header frame) = (body frame).length
  decode_header_body : ∀ frame, decode (header frame) (body frame) = frame

namespace Format

variable {F : Type u} (format : Format F)
  (frame : F) {collected stream : List UInt8} {frames : List F} {others : List UInt8}

def encode (frame : F) : List UInt8 := format.header frame ++ format.body frame

def encodeAll (frames : List F) : List UInt8 := frames.flatMap format.encode

/-- How many bytes are still to be read, given those that are collected. -/
def missing (collected : List UInt8) : Nat :=
  if collected.length < format.headerLength then format.headerLength - collected.length
  else
    format.headerLength + format.bodyLength (collected.take format.headerLength) -
      collected.length

def finished (collected : List UInt8) : Option F :=
  if format.missing collected = 0 then
    some (format.decode (collected.take format.headerLength)
      (collected.drop format.headerLength))
  else none

/-- A read of at most `count` bytes: what is collected, and what is left in the stream. -/
def read (count : Nat) (collected stream : List UInt8) : List UInt8 × List UInt8 :=
  let taken := min count (format.missing collected)
  (collected ++ stream.take taken, stream.drop taken)

@[simp] theorem encodeAll_append (first second : List F) :
    format.encodeAll (first ++ second) = format.encodeAll first ++ format.encodeAll second :=
  flatMap_append

theorem encodeAll_singleton : format.encodeAll [frame] = format.encode frame :=
  flatMap_singleton ..

theorem encodeAll_cons (rest : List F) :
    format.encodeAll (frame :: rest) = format.encode frame ++ format.encodeAll rest :=
  flatMap_cons

theorem encode_ne_nil : format.encode frame ≠ [] := by
  intro empty
  have positive := format.headerLength_pos
  have length := format.header_length frame
  rw [(append_eq_nil_iff.mp empty).1] at length
  exact absurd length (Nat.ne_of_lt positive)

theorem encodeAll_eq_nil : format.encodeAll frames = [] ↔ frames = [] := by
  cases frames with
  | nil => exact ⟨fun _ => rfl, fun _ => rfl⟩
  | cons frame rest =>
    rw [format.encodeAll_cons, append_eq_nil_iff]
    exact ⟨fun both => absurd both.1 (format.encode_ne_nil frame), nofun⟩

theorem read_append (count : Nat) (collected stream : List UInt8) :
    (format.read count collected stream).1 ++ (format.read count collected stream).2 =
      collected ++ stream := by
  unfold read
  rw [append_assoc, take_append_drop]

section

variable {frame : F} (bytes : collected ++ stream = format.encode frame ++ others)
include bytes

theorem take_header (long : format.headerLength ≤ collected.length) :
    collected.take format.headerLength = format.header frame := by
  rw [← take_append_of_le_length long, bytes, encode, append_assoc,
    ← format.header_length frame]
  exact take_left' rfl

theorem missing_eq (within : collected.length ≤ (format.encode frame).length) :
    (format.missing collected = 0 → collected.length = (format.encode frame).length) ∧
      collected.length + format.missing collected ≤ (format.encode frame).length := by
  have whole : (format.encode frame).length =
      format.headerLength + (format.body frame).length := by
    rw [encode, length_append, format.header_length]
  rw [whole] at within ⊢
  unfold missing
  split
  case isTrue short => exact ⟨fun none => by omega, by omega⟩
  case isFalse long =>
    rw [format.take_header bytes (by omega), format.bodyLength_header]
    exact ⟨fun none => by omega, by omega⟩

theorem missing_of_long (long : (format.encode frame).length ≤ collected.length) :
    format.missing collected = 0 := by
  rw [encode, length_append, format.header_length] at long
  unfold missing
  rw [if_neg (by omega), format.take_header bytes (by omega), format.bodyLength_header]
  omega

end

theorem finished_encode : format.finished (format.encode frame) = some frame := by
  have taken : (format.encode frame).take format.headerLength = format.header frame := by
    rw [encode, ← format.header_length frame]
    exact take_left' rfl
  have dropped : (format.encode frame).drop format.headerLength = format.body frame := by
    rw [encode, ← format.header_length frame]
    exact drop_left' rfl
  unfold finished
  have bytes : format.encode frame ++ [] = format.encode frame ++ [] := rfl
  have none := format.missing_of_long bytes (Nat.le_refl _)
  rw [if_pos none, taken, dropped, format.decode_header_body]

/-- What the reader has collected is the beginning of the next frame, and not all of it. -/
def Reads (collected stream : List UInt8) (frames : List F) : Prop :=
  collected ++ stream = format.encodeAll frames ∧ format.missing collected ≠ 0

theorem reads_nil (stream : List UInt8) (frames : List F)
    (bytes : stream = format.encodeAll frames) : format.Reads [] stream frames := by
  refine ⟨bytes, ?_⟩
  unfold missing
  rw [length_nil, if_pos format.headerLength_pos]
  exact Nat.ne_of_gt format.headerLength_pos

variable {format}

theorem Reads.append (reads : format.Reads collected stream frames) (more : List F) :
    format.Reads collected (stream ++ format.encodeAll more) (frames ++ more) := by
  refine ⟨?_, reads.2⟩
  rw [← append_assoc, reads.1, format.encodeAll_append]

theorem Reads.stream_ne_nil (reads : format.Reads collected stream frames) (some : frames ≠ []) :
    stream ≠ [] := by
  intro empty
  cases frames with
  | nil => exact some rfl
  | cons frame rest =>
    have bytes := reads.1
    rw [format.encodeAll_cons] at bytes
    have long : (format.encode frame).length ≤ collected.length := by
      have lengths := congrArg List.length bytes
      rw [empty, append_nil, length_append] at lengths
      omega
    exact reads.2 (format.missing_of_long bytes long)

theorem Reads.within {frame : F} {rest : List F}
    (reads : format.Reads collected stream (frame :: rest)) :
    collected.length ≤ (format.encode frame).length := by
  have bytes := reads.1
  rw [format.encodeAll_cons] at bytes
  by_contra long
  exact reads.2 (format.missing_of_long bytes (by omega))

theorem Reads.read (reads : format.Reads collected stream frames) (count : Nat) :
    (format.finished (format.read count collected stream).1 = none ∧
      format.Reads (format.read count collected stream).1 (format.read count collected stream).2
        frames) ∨
    ∃ frame rest, frames = frame :: rest ∧
      format.finished (format.read count collected stream).1 = some frame ∧
      (format.read count collected stream).2 = format.encodeAll rest := by
  have bytes := format.read_append count collected stream
  rw [reads.1] at bytes
  by_cases incomplete : format.missing (format.read count collected stream).1 = 0
  case neg =>
    left
    refine ⟨?_, bytes, incomplete⟩
    unfold finished
    rw [if_neg incomplete]
  right
  cases frames with
  | nil =>
    have empty := (append_eq_nil_iff.mp bytes).1
    rw [empty] at incomplete
    exact absurd incomplete (format.reads_nil [] [] rfl).2
  | cons frame rest =>
    have before := reads.1
    rw [format.encodeAll_cons] at before bytes
    -- The read stays within the frame, since it takes no more than is missing of it.
    have within : (format.read count collected stream).1.length ≤
        (format.encode frame).length := by
      have bound := (format.missing_eq before reads.within).2
      unfold Format.read
      rw [length_append, length_take]
      omega
    have length := (format.missing_eq bytes within).1 incomplete
    obtain ⟨whole, left⟩ := append_inj bytes length
    refine ⟨frame, rest, rfl, ?_, left⟩
    rw [whole, format.finished_encode]

theorem read_later (count : Nat) (collected available later : List UInt8) :
    format.read (min count available.length) collected (available ++ later) =
      ((format.read count collected available).1,
        (format.read count collected available).2 ++ later) := by
  unfold Format.read
  dsimp only
  have bound : min (min count available.length) (format.missing collected) =
      min (min count (format.missing collected)) available.length := by
    omega
  rw [bound, take_append_of_le_length (Nat.min_le_right _ _),
    drop_append_of_le_length (Nat.min_le_right _ _)]
  generalize min count (format.missing collected) = taken
  rcases Nat.le_total taken available.length with enough | short
  · rw [Nat.min_eq_left enough]
  · rw [Nat.min_eq_right short, take_length, drop_length,
      take_of_length_le short, drop_of_length_le short]

theorem Reads.read_available {available later : List UInt8}
    (reads : format.Reads collected (available ++ later) frames) (count : Nat) :
    (format.finished (format.read count collected available).1 = none ∧
      format.Reads (format.read count collected available).1
        ((format.read count collected available).2 ++ later) frames) ∨
    ∃ frame rest, frames = frame :: rest ∧
      format.finished (format.read count collected available).1 = some frame ∧
      format.Reads [] ((format.read count collected available).2 ++ later) rest := by
  have whole := reads.read (min count available.length)
  rw [read_later] at whole
  rcases whole with unfinished | ⟨frame, rest, same, finished, left⟩
  · exact .inl unfinished
  · exact .inr ⟨frame, rest, same, finished, format.reads_nil _ _ left⟩

end Format

end Thingsee.Support
