import Mathlib.Data.List.Basic
import Mathlib.Tactic.Linarith

/-!
Owns the content stream of `conn_comm_stream.c` and the link that it reads from.

A link is the bytes that the server sends, and how many of them each read returns at
most; a read that returns none is the end of the connection or a failure. The sizes
that were asked for are kept, the last one first. Lengths and positions are of type
`size_t`.

An access outside of a buffer has no result. A block of the heap is as large as
`mm_malloc` makes it: the size with the header of the block, aligned, modulo 2 ^ 32.

Does not own: the socket and the TLS session behind the link.
-/

namespace Thingsee.Http

open List

def CONN_STREAM_BUF_SIZE : Nat := 128

structure Link where
  incoming : List UInt8
  splits : Nat → Nat
  asked : List Nat
  isOpen : Bool

namespace Link

/-- `conn_link_read`: the bytes it returns, none for a result of 0 or less. -/
def read (link : Link) (len : Nat) : List UInt8 × Link :=
  let count := if link.isOpen then min len (link.splits link.asked.length) else 0
  (link.incoming.take count,
    { link with incoming := link.incoming.drop count, asked := len :: link.asked })

/-- `conn_link_close`. -/
def close (link : Link) : Link := { link with isOpen := false }

variable (link : Link) (len : Nat)

theorem read_length : (link.read len).1.length ≤ len := by
  simp only [read]
  split
  · exact (length_take_le _ _).trans (Nat.min_le_left _ _)
  · exact Nat.zero_le _

theorem read_append : (link.read len).1 ++ (link.read len).2.incoming = link.incoming :=
  take_append_drop _ _

theorem read_nonempty {len : Nat} (opened : link.isOpen = true) (asks : 0 < len)
    (delivers : 0 < link.splits link.asked.length) (some : link.incoming ≠ []) :
    (link.read len).1 ≠ [] := by
  simp only [read, if_pos opened]
  intro empty
  rcases take_eq_nil_iff.mp empty with zero | none
  · omega
  · exact some none

end Link

def fill (buf data : List UInt8) : Option (List UInt8) :=
  if data.length ≤ buf.length then some (data ++ buf.drop data.length) else none

theorem fill_eq {buf data : List UInt8} (fits : data.length ≤ buf.length) :
    fill buf data = some (data ++ buf.drop data.length) :=
  if_pos fits

theorem fill_length {buf data : List UInt8} (fits : data.length ≤ buf.length) :
    (data ++ buf.drop data.length).length = buf.length := by
  rw [length_append, length_drop]
  omega

/-- `struct conn_content_stream_s`; `connected` tells if `conn_link` is set. -/
structure Stream where
  buf : List UInt8
  maxContentLen : Nat
  contentPos : Nat
  bufPos : Nat
  bufLen : Nat
  link : Link
  connected : Bool

namespace Stream

/-- `conn_content_stream_init`. -/
def init (buf : List UInt8) (link : Link) : Stream := ⟨buf, 0, 0, 0, 0, link, false⟩

/-- The number of bytes that `conn_content_stream_getc` asks the link for. -/
def currlen (stream : Stream) : Nat :=
  min (stream.maxContentLen - stream.contentPos) CONN_STREAM_BUF_SIZE

def refill (stream : Stream) (data buf : List UInt8) (link : Link) : Stream :=
  let read := { stream with
    buf := buf, contentPos := stream.contentPos + data.length, bufPos := 0, bufLen := data.length
    link := link }
  if read.contentPos ≥ read.maxContentLen then
    { read with link := read.link.close, connected := false }
  else read

/-- `conn_content_stream_getc`. -/
def getc (stream : Stream) : Option (UInt8 × Stream) :=
  if stream.bufPos < stream.bufLen then do
    let char ← stream.buf[stream.bufPos]?
    some (char, { stream with bufPos := stream.bufPos + 1 })
  else if stream.contentPos ≥ stream.maxContentLen ∨ stream.connected = false then
    some (0, stream)
  else
    let answer := stream.link.read stream.currlen
    if answer.1 = [] then
      some (0, { stream with
        bufPos := 0, bufLen := 0, contentPos := stream.maxContentLen, link := answer.2 })
    else do
      let buf ← fill stream.buf answer.1
      let filled := stream.refill answer.1 buf answer.2
      let char ← filled.buf[filled.bufPos]?
      some (char, { filled with bufPos := filled.bufPos + 1 })

/-- A number of calls of `conn_content_stream_getc`. -/
def getcs : Nat → Stream → Option (List UInt8 × Stream)
  | 0, stream => some ([], stream)
  | count + 1, stream => do
      let first ← stream.getc
      let rest ← getcs count first.2
      some (first.1 :: rest.1, rest.2)

end Stream

namespace Stream

variable {stream : Stream}

/-- The positions are in order, and the link is there as long as content is missing. -/
structure Ready (stream : Stream) : Prop where
  size : stream.buf.length = CONN_STREAM_BUF_SIZE
  inside : stream.bufPos ≤ stream.bufLen
  within : stream.bufLen ≤ CONN_STREAM_BUF_SIZE
  linked : stream.contentPos < stream.maxContentLen →
    stream.connected = true ∧ stream.link.isOpen = true

/-- The bytes of the server that the stream has not returned. -/
def left (stream : Stream) : List UInt8 :=
  (stream.buf.take stream.bufLen).drop stream.bufPos ++ stream.link.incoming

/-- The number of bytes that the stream is still to return. -/
def owed (stream : Stream) : Nat :=
  stream.bufLen - stream.bufPos + (stream.maxContentLen - stream.contentPos)

structure Finished (stream : Stream) : Prop where
  empty : stream.bufLen ≤ stream.bufPos
  complete : stream.maxContentLen ≤ stream.contentPos ∨ stream.connected = false

theorem Ready.init {buf : List UInt8} (size : buf.length = CONN_STREAM_BUF_SIZE) (link : Link) :
    (Stream.init buf link).Ready :=
  ⟨size, le_refl _, Nat.zero_le _, fun less => absurd less (Nat.lt_irrefl 0)⟩

theorem getc_buffered (ready : stream.Ready) (some : stream.bufPos < stream.bufLen) :
    ∃ char rest, (stream.buf.take stream.bufLen).drop stream.bufPos = char :: rest ∧
      stream.getc = Option.some (char, { stream with bufPos := stream.bufPos + 1 }) ∧
      (stream.buf.take stream.bufLen).drop (stream.bufPos + 1) = rest := by
  have size := ready.size
  have within := ready.within
  have inside : stream.bufPos < stream.buf.length := by omega
  have short : stream.bufPos < (stream.buf.take stream.bufLen).length := by
    rw [length_take]
    omega
  refine ⟨stream.buf[stream.bufPos], _, ?_, ?_, rfl⟩
  · rw [drop_eq_getElem_cons short, getElem_take]
  · rw [getc, if_pos some, List.getElem?_eq_getElem inside]
    rfl

theorem Finished.getc (finished : stream.Finished) : stream.getc = some (0, stream) := by
  rw [Stream.getc, if_neg (Nat.not_lt.mpr finished.empty), if_pos finished.complete]

theorem getc_failed (empty : stream.bufLen ≤ stream.bufPos)
    (missing : stream.contentPos < stream.maxContentLen) (connected : stream.connected = true)
    (fails : (stream.link.read stream.currlen).1 = []) :
    stream.getc = some (0, { stream with
      bufPos := 0, bufLen := 0, contentPos := stream.maxContentLen
      link := (stream.link.read stream.currlen).2 }) := by
  rw [getc, if_neg (Nat.not_lt.mpr empty), if_neg (by rw [connected]; simpa using missing)]
  exact if_pos fails

theorem currlen_le (stream : Stream) :
    stream.currlen ≤ stream.maxContentLen - stream.contentPos ∧
      stream.currlen ≤ CONN_STREAM_BUF_SIZE :=
  ⟨Nat.min_le_left _ _, Nat.min_le_right _ _⟩

@[simp] theorem refill_buf (stream : Stream) (data buf : List UInt8) (link : Link) :
    (stream.refill data buf link).buf = buf := by
  simp only [refill]
  split <;> rfl

@[simp] theorem refill_maxContentLen (stream : Stream) (data buf : List UInt8) (link : Link) :
    (stream.refill data buf link).maxContentLen = stream.maxContentLen := by
  simp only [refill]
  split <;> rfl

@[simp] theorem refill_contentPos (stream : Stream) (data buf : List UInt8) (link : Link) :
    (stream.refill data buf link).contentPos = stream.contentPos + data.length := by
  simp only [refill]
  split <;> rfl

@[simp] theorem refill_bufPos (stream : Stream) (data buf : List UInt8) (link : Link) :
    (stream.refill data buf link).bufPos = 0 := by
  simp only [refill]
  split <;> rfl

@[simp] theorem refill_bufLen (stream : Stream) (data buf : List UInt8) (link : Link) :
    (stream.refill data buf link).bufLen = data.length := by
  simp only [refill]
  split <;> rfl

@[simp] theorem refill_incoming (stream : Stream) (data buf : List UInt8) (link : Link) :
    (stream.refill data buf link).link.incoming = link.incoming := by
  simp only [refill]
  split <;> rfl

@[simp] theorem refill_asked (stream : Stream) (data buf : List UInt8) (link : Link) :
    (stream.refill data buf link).link.asked = link.asked := by
  simp only [refill]
  split <;> rfl

@[simp] theorem refill_splits (stream : Stream) (data buf : List UInt8) (link : Link) :
    (stream.refill data buf link).link.splits = link.splits := by
  simp only [refill]
  split <;> rfl

theorem refill_linked {data buf : List UInt8} {link : Link} (connected : stream.connected = true)
    (opened : link.isOpen = true)
    (missing : (stream.refill data buf link).contentPos < stream.maxContentLen) :
    (stream.refill data buf link).connected = true ∧
      (stream.refill data buf link).link.isOpen = true := by
  rw [refill_contentPos] at missing
  simp only [refill]
  rw [if_neg (Nat.not_le.mpr missing)]
  exact ⟨connected, opened⟩

theorem getc_delivered (ready : stream.Ready) (empty : stream.bufLen ≤ stream.bufPos)
    (missing : stream.contentPos < stream.maxContentLen) {char : UInt8} {rest : List UInt8}
    (delivers : (stream.link.read stream.currlen).1 = char :: rest) :
    ∃ later : Stream, stream.getc = some (char, later) ∧ later.Ready ∧
      later.bufLen = rest.length + 1 ∧ later.bufPos = 1 ∧
      (later.buf.take later.bufLen).drop later.bufPos = rest ∧
      later.link.incoming = (stream.link.read stream.currlen).2.incoming ∧
      later.link.asked = stream.currlen :: stream.link.asked ∧
      later.link.splits = stream.link.splits ∧
      later.maxContentLen = stream.maxContentLen ∧
      later.contentPos = stream.contentPos + (rest.length + 1) := by
  have size := ready.size
  have linked := ready.linked missing
  have bounds := stream.currlen_le
  have short := stream.link.read_length stream.currlen
  rw [delivers, length_cons] at short
  have fits : (char :: rest).length ≤ stream.buf.length := by
    rw [length_cons, size]
    omega
  let buf := char :: rest ++ stream.buf.drop (char :: rest).length
  let filled := stream.refill (char :: rest) buf (stream.link.read stream.currlen).2
  have first : filled.buf[filled.bufPos]? = some char := by
    rw [refill_buf, refill_bufPos]
    rfl
  refine ⟨{ filled with bufPos := filled.bufPos + 1 }, ?_, ⟨?_, ?_, ?_, ?_⟩, ?_, ?_, ?_, ?_, ?_,
    ?_, ?_, ?_⟩
  · rw [getc, if_neg (Nat.not_lt.mpr empty), if_neg (by rw [linked.1]; simpa using missing)]
    simp only [delivers]
    rw [if_neg (cons_ne_nil _ _), fill_eq fits]
    show (filled.buf[filled.bufPos]?).bind _ = _
    rw [first]
    rfl
  · show filled.buf.length = _
    rw [refill_buf, fill_length fits, size]
  · show filled.bufPos + 1 ≤ filled.bufLen
    rw [refill_bufPos, refill_bufLen, length_cons]
    omega
  · show filled.bufLen ≤ _
    rw [refill_bufLen, length_cons]
    omega
  · intro less
    have opened : (stream.link.read stream.currlen).2.isOpen = true := linked.2
    exact refill_linked linked.1 opened (less.trans_eq (refill_maxContentLen ..))
  · exact refill_bufLen ..
  · show filled.bufPos + 1 = 1
    rw [refill_bufPos]
  · show (filled.buf.take filled.bufLen).drop (filled.bufPos + 1) = rest
    rw [refill_buf, refill_bufLen, refill_bufPos, take_left]
    rfl
  · exact refill_incoming ..
  · exact refill_asked ..
  · exact refill_splits ..
  · exact refill_maxContentLen ..
  · exact refill_contentPos ..

end Stream

def SIZEOF_MM_ALLOCNODE : Nat := 8
def MM_MIN_CHUNK : Nat := 16

/-- `malloc`: the size of the block. -/
def malloc (available : Bool) (size : Nat) : Option Nat :=
  if size < 1 ∨ available = false then none
  else
    some ((size + SIZEOF_MM_ALLOCNODE + (MM_MIN_CHUNK - 1)) % 4294967296 / MM_MIN_CHUNK *
      MM_MIN_CHUNK - SIZEOF_MM_ALLOCNODE)

/-- The loop of `conn_stream_to_string_and_process` from an index on. -/
def fillContent (capacity : Nat) : Nat → Nat → Stream → Option (List UInt8 × Stream)
  | 0, index, stream => if index < capacity then some ([0], stream) else none
  | remaining + 1, index, stream => do
      let first ← stream.getc
      if index < capacity then
        let rest ← fillContent capacity remaining (index + 1) first.2
        some (first.1 :: rest.1, rest.2)
      else none

/-- `conn_stream_to_string_and_process`: the string for `process`, if it is called. -/
def streamToString (available : Bool) (contentLen : Nat) (stream : Stream) :
    Option (Option (List UInt8) × Stream) :=
  match malloc available ((contentLen + 1) % 4294967296) with
  | none => some (none, stream)
  | some capacity => do
      let content ← fillContent capacity contentLen 0 stream
      some (some content.1, content.2)

end Thingsee.Http
