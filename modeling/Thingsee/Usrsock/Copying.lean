import Thingsee.Usrsock.Received

/-!
Owns the loops of `iovec_do` as they stand in `nuttx/net/usrsock/usrsock_dev.c`, with
their two rules for going on to the next buffer, and what the copying comes to: the
buffers are one text, of which `iovec_get` returns a piece and in which `iovec_put`
replaces one.

Sizes are numbers without an upper bound.
-/

namespace Thingsee.Usrsock

open List

/-- The loop that rewinds to a position: the buffers that it skips, the others, and the
position in the first of these. -/
def rewind : List Iovec → List Iovec → Nat → List Iovec × List Iovec × Nat
  | passed, [], pos => (passed, [], pos)
  | passed, iov :: rest, pos =>
    if 0 < pos ∧ iov.len ≤ pos then rewind (passed ++ [iov]) rest (pos - iov.len)
    else (passed, iov :: rest, pos)

/-- The variables of the copy loop. `iovbuf` is an offset in the buffer `iov`, `ioout` one
in the flat buffer `srcdst`, and `rest` are the `iovcnt` buffers behind `iov`. -/
structure Copying where
  passed : List Iovec
  iov : Iovec
  iovbuf : Nat
  srclen : Nat
  rest : List Iovec
  srcdst : List UInt8
  ioout : Nat
  srcdstlen : Nat
  total : Nat

namespace Copying

def next (copying : Copying) : Copying :=
  match copying.rest with
  | [] => copying
  | iov :: rest =>
    { copying with
      passed := copying.passed ++ [copying.iov]
      iov := iov
      iovbuf := 0
      srclen := iov.len
      rest := rest }

/-- Copies `clen` bytes between the buffer and the flat one. -/
def move (fromIov : Bool) (clen : Nat) (copying : Copying) : Copying :=
  let copied :=
    if fromIov then
      { copying with
        srcdst := overwrite copying.srcdst copying.ioout
          ((copying.iov.base.drop copying.iovbuf).take clen) }
    else
      { copying with
        iov := copying.iov.store copying.iovbuf
          ((copying.srcdst.drop copying.ioout).take clen) }
  { copied with
    ioout := copied.ioout + clen
    srcdstlen := copied.srcdstlen - clen
    iovbuf := copied.iovbuf + clen
    srclen := copied.srclen - clen
    total := copied.total + clen }

/-! ## The loop of the source -/

/-- Each turn skips a vector or shortens what is left to copy. -/
theorem next_measure {copying : Copying} (more : 0 < copying.rest.length) :
    copying.next.rest.length + copying.next.srcdstlen <
      copying.rest.length + copying.srcdstlen := by
  unfold next
  split
  · simp_all
  · simp_all

@[simp]
theorem move_rest (fromIov : Bool) (clen : Nat) (copying : Copying) :
    (copying.move fromIov clen).rest = copying.rest := by
  unfold move
  split <;> rfl

@[simp]
theorem move_srcdstlen (fromIov : Bool) (clen : Nat) (copying : Copying) :
    (copying.move fromIov clen).srcdstlen = copying.srcdstlen - clen := by
  unfold move
  split <;> rfl

/-- The copy loop. It skips an empty buffer at its top, and leaves a buffer that it has
copied as a whole at its bottom. -/
def loop (fromIov : Bool) (copying : Copying) : Copying :=
  if _more : (0 < copying.srclen ∨ 0 < copying.rest.length) ∧ 0 < copying.srcdstlen then
    if _empty : copying.srclen = 0 then copying.next.loop fromIov
    else
      let moved := copying.move fromIov (min copying.srclen copying.srcdstlen)
      if moved.srclen = 0 then
        if _last : moved.rest.length = 0 then moved else moved.next.loop fromIov
      else moved.loop fromIov
  else copying
termination_by copying.rest.length + copying.srcdstlen
decreasing_by
  · exact next_measure (by omega)
  · apply Nat.lt_of_lt_of_le (next_measure (Nat.pos_of_ne_zero _last))
    simp only [moved, move_rest, move_srcdstlen]
    omega
  · simp only [move_rest, move_srcdstlen]
    omega

end Copying

def copyRewound (fromIov : Bool) (srcdst : List UInt8) :
    List Iovec × List Iovec × Nat → Option (Nat × List UInt8 × List Iovec)
  | (_, [], _) => none
  | (passed, iov :: rest, pos) =>
    let copied := Copying.loop fromIov
      { passed, iov, iovbuf := pos, srclen := iov.len - pos, rest, srcdst, ioout := 0
        srcdstlen := srcdst.length, total := 0 }
    some (copied.total, copied.srcdst, copied.passed ++ copied.iov :: copied.rest)

/-- `iovec_do`: the number of bytes, the flat buffer and the other buffers after it. `none`
is its error. -/
def iovecDo (fromIov : Bool) (srcdst : List UInt8) (iovs : List Iovec) (pos : Nat) :
    Option (Nat × List UInt8 × List Iovec) :=
  copyRewound fromIov srcdst (rewind [] iovs pos)

structure Copying.Sound (copying : Copying) : Prop where
  inside : copying.iovbuf ≤ copying.iov.len
  srclen : copying.srclen = copying.iov.len - copying.iovbuf
  srcdstlen : copying.ioout + copying.srcdstlen = copying.srcdst.length

theorem overwrite_behind {buffer front bytes : List UInt8} {pos : Nat}
    (fits : pos + front.length ≤ buffer.length) :
    overwrite (overwrite buffer pos front) (pos + front.length) bytes =
      overwrite buffer pos (front ++ bytes) := by
  induction buffer generalizing pos with
  | nil => simp [overwrite]
  | cons byte buffer ih =>
    cases pos with
    | zero =>
      have fits' : front.length ≤ (byte :: buffer).length := by simpa using fits
      rw [Nat.zero_add]
      exact overwrite_append fits'
    | succ pos =>
      have fits' : pos + front.length ≤ buffer.length := by
        rw [length_cons] at fits
        omega
      rw [show pos + 1 + front.length = pos + front.length + 1 by omega]
      simp only [overwrite, ih fits']

theorem copyFrom_zero (iovs : List Iovec) (pos : Nat) : copyFrom iovs pos 0 = [] := by
  induction iovs generalizing pos with
  | nil => rfl
  | cons iov rest ih => simp [copyFrom, ih]

theorem copyTo_nil (iovs : List Iovec) (pos : Nat) : copyTo iovs pos [] = (0, iovs) := by
  induction iovs generalizing pos with
  | nil => rfl
  | cons iov rest ih => simp [copyTo, ih, Iovec.store_nil]

theorem slice_eq {iov : Iovec} {pos len : Nat} :
    ((iov.base.take iov.len).drop pos).take len =
      (iov.base.drop pos).take (min (iov.len - pos) len) := by
  rw [drop_take, take_take, Nat.min_comm]

theorem slice_length {iov : Iovec} {pos count : Nat} (inside : pos ≤ iov.len)
    (fits : count ≤ iov.len - pos) : ((iov.base.drop pos).take count).length = count := by
  have within := iov.within
  rw [length_take, length_drop]
  omega

namespace Copying

variable {copying : Copying} {iov : Iovec} {rest : List Iovec} {bytes : List UInt8}
  {after : Copying}

theorem next_sound (sound : copying.Sound) (others : copying.rest = iov :: rest) :
    copying.next =
        { copying with
          passed := copying.passed ++ [copying.iov]
          iov := iov
          iovbuf := 0
          srclen := iov.len
          rest := rest } ∧
      copying.next.Sound := by
  have made : copying.next =
      { copying with
        passed := copying.passed ++ [copying.iov]
        iov := iov
        iovbuf := 0
        srclen := iov.len
        rest := rest } := by
    unfold next
    rw [others]
  refine ⟨made, ?_⟩
  rw [made]
  exact ⟨Nat.zero_le _, rfl, sound.srcdstlen⟩

theorem move_sound (fromIov : Bool) (sound : copying.Sound) :
    (copying.move fromIov (min copying.srclen copying.srcdstlen)).Sound := by
  obtain ⟨inside, srclen, srcdstlen⟩ := sound
  cases fromIov with
  | true =>
    refine ⟨?_, ?_, ?_⟩
    all_goals
      simp only [move, ↓reduceIte, overwrite_length]
      omega
  | false =>
    refine ⟨?_, ?_, ?_⟩
    all_goals
      simp only [move, Bool.false_eq_true, ↓reduceIte, Iovec.store]
      omega

def slice (copying : Copying) : List UInt8 :=
  (copying.iov.base.drop copying.iovbuf).take (min copying.srclen copying.srcdstlen)

theorem slice_len (sound : copying.Sound) :
    copying.slice.length = min copying.srclen copying.srcdstlen := by
  apply slice_length sound.inside
  have srclen := sound.srclen
  omega

theorem copyFrom_slice (sound : copying.Sound) :
    copyFrom (copying.iov :: copying.rest) copying.iovbuf copying.srcdstlen =
      copying.slice ++ copyFrom copying.rest 0
        (copying.srcdstlen - min copying.srclen copying.srcdstlen) := by
  have taken : ((copying.iov.base.take copying.iov.len).drop copying.iovbuf).take
      copying.srcdstlen = copying.slice := by
    rw [slice_eq, slice, sound.srclen]
  rw [copyFrom, taken, slice_len sound]

/-- All buffers, the one in turn between those behind and those in front of it. -/
def iovs (copying : Copying) : List Iovec := copying.passed ++ copying.iov :: copying.rest

/-- `bytes` have been copied to the flat buffer. -/
structure Got (before : Copying) (bytes : List UInt8) (after : Copying) : Prop where
  total : after.total = before.total + bytes.length
  srcdst : after.srcdst = overwrite before.srcdst before.ioout bytes
  iovs : after.iovs = before.iovs

theorem Got.refl (copying : Copying) : copying.Got [] copying := by
  refine ⟨rfl, ?_, rfl⟩
  rw [overwrite_nil]

theorem Got.trans {before between : Copying} {front : List UInt8} (first : before.Got front between)
    (ioout : between.ioout = before.ioout + front.length)
    (room : before.ioout + front.length ≤ before.srcdst.length) (later : between.Got bytes after) :
    before.Got (front ++ bytes) after := by
  refine ⟨?_, ?_, later.iovs.trans first.iovs⟩
  · rw [later.total, first.total, length_append, Nat.add_assoc]
  · rw [later.srcdst, first.srcdst, ioout, overwrite_behind room]

theorem next_got (sound : copying.Sound) (others : copying.rest = iov :: rest)
    (got : copying.next.Got bytes after) : copying.Got bytes after := by
  have made := (next_sound sound others).1
  refine ⟨?_, ?_, ?_⟩
  · rw [got.total, made]
  · rw [got.srcdst, made]
  · rw [got.iovs, made]
    simp [iovs, others]

theorem move_got (sound : copying.Sound)
    (got : (copying.move true (min copying.srclen copying.srcdstlen)).Got bytes after) :
    copying.Got (copying.slice ++ bytes) after := by
  have length := slice_len sound
  have srcdstlen := sound.srcdstlen
  have first : copying.Got copying.slice
      (copying.move true (min copying.srclen copying.srcdstlen)) := by
    refine ⟨?_, rfl, rfl⟩
    rw [length]
    rfl
  apply first.trans _ _ got
  · rw [length]
    rfl
  · rw [length]
    omega

theorem loop_get (copying : Copying) (sound : copying.Sound) :
    copying.Got (copyFrom (copying.iov :: copying.rest) copying.iovbuf copying.srcdstlen)
      (copying.loop true) := by
  induction copying using loop.induct true with
  | case1 copying more empty ih =>
    obtain ⟨iov, rest, others⟩ := exists_cons_of_length_pos (show 0 < copying.rest.length by omega)
    obtain ⟨made, sound'⟩ := next_sound sound others
    have later := next_got sound others (ih sound')
    have nothing : copying.slice = [] := by
      rw [slice, empty, Nat.zero_min, take_zero]
    rw [loop, dif_pos more, dif_pos empty, copyFrom_slice sound, nothing, nil_append,
      empty, Nat.zero_min, Nat.sub_zero, others]
    rw [made] at later ⊢
    exact later
  | case2 copying more filled moved emptied last =>
    have none : copying.rest = [] := by simpa [moved] using last
    rw [loop, dif_pos more, dif_neg filled, if_pos emptied, dif_pos last, copyFrom_slice sound,
      none, copyFrom]
    exact move_got sound (Got.refl _)
  | case3 copying more filled moved emptied others ih =>
    obtain ⟨iov, rest, isRest⟩ := exists_cons_of_length_pos (Nat.pos_of_ne_zero others)
    have same : copying.rest = iov :: rest := by simpa [moved] using isRest
    have soundMoved : moved.Sound := move_sound true sound
    obtain ⟨made, sound'⟩ := next_sound soundMoved isRest
    have later := move_got sound (next_got soundMoved isRest (ih sound'))
    rw [loop, dif_pos more, dif_neg filled, if_pos emptied, dif_neg others,
      copyFrom_slice sound, same]
    change copying.Got _ (loop true moved.next)
    rw [made] at later ⊢
    exact later
  | case4 copying more filled moved partly ih =>
    have soundMoved : moved.Sound := move_sound true sound
    have later := move_got sound (ih soundMoved)
    have all : copying.srcdstlen - min copying.srclen copying.srcdstlen = 0 := by
      have left : moved.srclen = copying.srclen - min copying.srclen copying.srcdstlen := rfl
      omega
    have nothing : copyFrom (moved.iov :: moved.rest) moved.iovbuf moved.srcdstlen = [] := by
      rw [show moved.srcdstlen = 0 from all, copyFrom_zero]
    rw [nothing] at later
    rw [loop, dif_pos more, dif_neg filled, if_neg partly, copyFrom_slice sound, all,
      copyFrom_zero]
    exact later
  | case5 copying done =>
    have nothing : copyFrom
      (copying.iov :: copying.rest) copying.iovbuf copying.srcdstlen = [] := by
      have srclen := sound.srclen
      by_cases room : copying.srcdstlen = 0
      · rw [room, copyFrom_zero]
      · have last : copying.rest = [] := eq_nil_of_length_eq_zero (by omega)
        rw [copyFrom, last, slice_eq,
          show min (copying.iov.len - copying.iovbuf) copying.srcdstlen = 0 by omega]
        simp [copyFrom]
    rw [loop, dif_neg done, nothing]
    exact Got.refl copying

/-- Bytes of the flat buffer have been copied to the buffers `behind`, which stand for the
one in turn and those behind it. -/
structure Put (before : Copying) (count : Nat) (behind : List Iovec) (after : Copying) :
    Prop where
  total : after.total = before.total + count
  srcdst : after.srcdst = before.srcdst
  iovs : after.iovs = before.passed ++ behind

/-- The bytes that are still to be copied from the flat buffer. -/
def source (copying : Copying) : List UInt8 := copying.srcdst.drop copying.ioout

theorem source_length (sound : copying.Sound) : copying.source.length = copying.srcdstlen := by
  have srcdstlen := sound.srcdstlen
  rw [source, length_drop]
  omega

theorem Put.refl (copying : Copying) : copying.Put 0 (copying.iov :: copying.rest) copying :=
  ⟨rfl, rfl, rfl⟩

theorem next_put (sound : copying.Sound) (others : copying.rest = iov :: rest) {count : Nat}
    {behind : List Iovec} (put : copying.next.Put count behind after) :
    copying.Put count (copying.iov :: behind) after := by
  have made := (next_sound sound others).1
  refine ⟨?_, ?_, ?_⟩
  · rw [put.total, made]
  · rw [put.srcdst, made]
  · rw [put.iovs, made]
    simp

theorem move_put {count : Nat} {behind : List Iovec}
    (put : (copying.move false (min copying.srclen copying.srcdstlen)).Put count behind after) :
    copying.Put (min copying.srclen copying.srcdstlen + count) behind after := by
  refine ⟨?_, put.srcdst, put.iovs⟩
  rw [put.total]
  simp only [move, Bool.false_eq_true, ↓reduceIte]
  omega

theorem copyTo_slice (sound : copying.Sound) :
    copyTo (copying.iov :: copying.rest) copying.iovbuf copying.source =
      let count := min copying.srclen copying.srcdstlen
      let later := copyTo copying.rest 0 (copying.source.drop count)
      (count + later.1,
        copying.iov.store copying.iovbuf (copying.source.take count) :: later.2) := by
  rw [copyTo, source_length sound, sound.srclen]

theorem loop_put (copying : Copying) (sound : copying.Sound) :
    copying.Put (copyTo (copying.iov :: copying.rest) copying.iovbuf copying.source).1
      (copyTo (copying.iov :: copying.rest) copying.iovbuf copying.source).2
      (copying.loop false) := by
  induction copying using loop.induct false with
  | case1 copying more empty ih =>
    obtain ⟨iov, rest, others⟩ := exists_cons_of_length_pos (show 0 < copying.rest.length by omega)
    obtain ⟨made, sound'⟩ := next_sound sound others
    have later := next_put sound others (ih sound')
    rw [loop, dif_pos more, dif_pos empty, copyTo_slice sound]
    simp only [empty, Nat.zero_min, Nat.zero_add, take_zero, drop_zero,
      Iovec.store_nil, others]
    rw [made] at later ⊢
    exact later
  | case2 copying more filled moved emptied last =>
    have none : copying.rest = [] := by simpa [moved] using last
    have put := move_put (Put.refl moved)
    rw [loop, dif_pos more, dif_neg filled, if_pos emptied, dif_pos last, copyTo_slice sound]
    simp only [none, copyTo]
    have stored : moved.iov :: moved.rest =
        [copying.iov.store copying.iovbuf
          (copying.source.take (min copying.srclen copying.srcdstlen))] := by
      simp [moved, move, none, source]
    rw [stored] at put
    exact put
  | case3 copying more filled moved emptied others ih =>
    obtain ⟨iov, rest, isRest⟩ := exists_cons_of_length_pos (Nat.pos_of_ne_zero others)
    have same : copying.rest = iov :: rest := by simpa [moved] using isRest
    have soundMoved : moved.Sound := move_sound false sound
    obtain ⟨made, sound'⟩ := next_sound soundMoved isRest
    have later := move_put (next_put soundMoved isRest (ih sound'))
    have source' : moved.next.source =
        copying.source.drop (min copying.srclen copying.srcdstlen) := by
      rw [made, source, source, drop_drop]
      rfl
    rw [source'] at later
    rw [loop, dif_pos more, dif_neg filled, if_pos emptied, dif_neg others,
      copyTo_slice sound, same]
    change copying.Put _ _ (loop false moved.next)
    rw [made] at later ⊢
    exact later
  | case4 copying more filled moved partly ih =>
    have soundMoved : moved.Sound := move_sound false sound
    have later := move_put (ih soundMoved)
    have left : moved.srclen = copying.srclen - min copying.srclen copying.srcdstlen := rfl
    have length := source_length sound
    have nothing : moved.source = [] := by
      apply eq_nil_of_length_eq_zero
      rw [source_length soundMoved]
      show copying.srcdstlen - min copying.srclen copying.srcdstlen = 0
      omega
    have noMore : copying.source.drop (min copying.srclen copying.srcdstlen) = [] := by
      apply drop_of_length_le
      omega
    rw [nothing, copyTo_nil] at later
    rw [loop, dif_pos more, dif_neg filled, if_neg partly, copyTo_slice sound]
    simp only [noMore, copyTo_nil]
    have stored : moved.iov :: moved.rest =
        copying.iov.store copying.iovbuf
          (copying.source.take (min copying.srclen copying.srcdstlen)) :: copying.rest := by
      simp [moved, move, source]
    rw [stored] at later
    exact later
  | case5 copying done =>
    have srclen := sound.srclen
    have length := source_length sound
    have same : copyTo (copying.iov :: copying.rest) copying.iovbuf copying.source =
        (0, copying.iov :: copying.rest) := by
      by_cases room : copying.srcdstlen = 0
      · rw [eq_nil_of_length_eq_zero (length.trans room), copyTo_nil]
      · have last : copying.rest = [] := eq_nil_of_length_eq_zero (by omega)
        rw [copyTo_slice sound, last]
        simp only [copyTo, show min copying.srclen copying.srcdstlen = 0 by omega,
          take_zero, Iovec.store_nil]
    rw [loop, dif_neg done, same]
    exact Put.refl copying

end Copying

variable (passed : List Iovec) (buffer : List UInt8) {iov : Iovec} (iovs : List Iovec) {pos : Nat}

theorem copying_sound (rest : List Iovec) (srcdst : List UInt8)
    (inside : ¬ (0 < pos ∧ iov.len ≤ pos)) :
    Copying.Sound
      { passed, iov, iovbuf := pos, srclen := iov.len - pos, rest, srcdst, ioout := 0
        srcdstlen := srcdst.length, total := 0 } :=
  ⟨by dsimp only; omega, rfl, Nat.zero_add _⟩

theorem copyRewound_get (pos : Nat) (srcdst : List UInt8) :
    copyRewound true srcdst (rewind passed iovs pos) =
      (iovecGet iovs pos srcdst.length).map (fun bytes =>
        (bytes.length, overwrite srcdst 0 bytes, passed ++ iovs)) := by
  induction iovs generalizing passed pos with
  | nil => rfl
  | cons iov rest ih =>
    rw [rewind, iovecGet]
    split
    · rw [ih, append_assoc, singleton_append]
    · next inside =>
      have got := Copying.loop_get _ (copying_sound passed rest srcdst inside)
      have iovs := got.iovs
      simp only [Copying.iovs] at iovs
      simp only [copyRewound, got.total, got.srcdst, iovs, Nat.zero_add, Option.map_some]

theorem copyRewound_put (pos : Nat) (srcdst : List UInt8) :
    copyRewound false srcdst (rewind passed iovs pos) =
      (iovecPut iovs pos srcdst).map (fun result => (result.1, srcdst, passed ++ result.2)) := by
  induction iovs generalizing passed pos with
  | nil => rfl
  | cons iov rest ih =>
    rw [rewind, iovecPut]
    split
    · rw [ih, Option.map_map]
      congr 1
      funext result
      simp
    · next inside =>
      have put := Copying.loop_put _ (copying_sound passed rest srcdst inside)
      have iovs := put.iovs
      simp only [Copying.iovs, Copying.source, drop_zero] at iovs
      simp only [copyRewound, put.total, put.srcdst, iovs, Nat.zero_add, Option.map_some,
        Copying.source, drop_zero]

/-- The loop of the source gets what `iovecGet` gets. -/
theorem iovecDo_get (srcdst : List UInt8) (iovs : List Iovec) (pos : Nat) :
    iovecDo true srcdst iovs pos =
      (iovecGet iovs pos srcdst.length).map (fun bytes =>
        (bytes.length, overwrite srcdst 0 bytes, iovs)) :=
  copyRewound_get [] iovs pos srcdst

/-- The loop of the source puts what `iovecPut` puts. -/
theorem iovecDo_put (srcdst : List UInt8) (iovs : List Iovec) (pos : Nat) :
    iovecDo false srcdst iovs pos =
      (iovecPut iovs pos srcdst).map (fun result => (result.1, srcdst, result.2)) :=
  copyRewound_put [] iovs pos srcdst

def text (iovs : List Iovec) : List UInt8 :=
  (iovs.map (fun iov => iov.base.take iov.len)).flatten

/-- The bytes of each buffer behind those that are used. -/
def spare (iovs : List Iovec) : List (List UInt8) :=
  iovs.map (fun iov => iov.base.drop iov.len)

/-- No buffer is left behind a position: the last one is behind it too, and is reached. -/
def Beyond (iovs : List Iovec) (pos : Nat) : Prop :=
  iovs = [] ∨ totalLen iovs.dropLast < pos ∧ totalLen iovs ≤ pos

/-! ## The concatenated vectors -/

theorem text_cons (iov : Iovec) (rest : List Iovec) :
    text (iov :: rest) = iov.base.take iov.len ++ text rest := by
  simp [text]

theorem taken_length (iov : Iovec) : (iov.base.take iov.len).length = iov.len := by
  have within := iov.within
  rw [length_take]
  omega

theorem text_length : (text iovs).length = totalLen iovs := by
  induction iovs with
  | nil => rfl
  | cons iov rest ih =>
    rw [text_cons, length_append, taken_length, ih, totalLen_cons]

theorem beyond_cons {rest : List Iovec} (moved : 0 < pos) (behind : iov.len ≤ pos) :
    Beyond (iov :: rest) pos ↔ Beyond rest (pos - iov.len) := by
  cases rest with
  | nil =>
    simp [Beyond, totalLen, moved, behind]
  | cons other rest =>
    simp only [Beyond, reduceCtorEq, false_or, dropLast_cons_cons, totalLen_cons]
    omega

theorem not_beyond {rest : List Iovec} (inside : ¬ (0 < pos ∧ iov.len ≤ pos)) :
    ¬ Beyond (iov :: rest) pos := by
  rintro (none | ⟨reached, past⟩)
  · simp at none
  · rw [totalLen_cons] at past
    omega

theorem copyFrom_text (len : Nat) (inFirst : ∀ iov ∈ iovs.head?, pos ≤ iov.len)
    (begun : iovs ≠ [] ∨ pos = 0) : copyFrom iovs pos len = ((text iovs).drop pos).take len := by
  induction iovs generalizing pos len with
  | nil => simp [copyFrom, text]
  | cons iov rest ih =>
    have inside : pos ≤ iov.len := inFirst iov (by simp)
    have taken := taken_length iov
    rw [copyFrom, ih _ (by simp) (Or.inr rfl), drop_zero, text_cons,
      drop_append_of_le_length (by rw [taken]; exact inside), take_append,
      length_take]
    congr 2
    omega

/-- Gathered bytes are a slice of the concatenated vectors. -/
theorem iovecGet_spec (pos len : Nat) :
    (iovecGet iovs pos len = none ↔ Beyond iovs pos) ∧
      ∀ bytes, iovecGet iovs pos len = some bytes → bytes = ((text iovs).drop pos).take len := by
  induction iovs generalizing pos with
  | nil => simp [iovecGet, Beyond]
  | cons iov rest ih =>
    rw [iovecGet]
    split
    · next behind =>
      obtain ⟨error, bytes⟩ := ih (pos - iov.len)
      refine ⟨error.trans (beyond_cons behind.1 behind.2).symm, ?_⟩
      intro read isRead
      have skip : (iov.base.take iov.len ++ text rest).drop pos =
          (text rest).drop (pos - iov.len) := by
        rw [drop_append, taken_length, drop_of_length_le (by
          rw [taken_length]; exact behind.2), nil_append]
      rw [bytes read isRead, text_cons, skip]
    · next inside =>
      refine ⟨iff_of_false (by simp) (not_beyond inside), ?_⟩
      intro bytes isRead
      rw [← Option.some.inj isRead]
      exact copyFrom_text _ len (by simp; omega) (Or.inl (by simp))

section

variable {first : List UInt8} (second bytes : List UInt8)

theorem overwrite_joined (inside : pos ≤ first.length) :
    overwrite (first ++ second) pos bytes =
      overwrite first pos bytes ++ overwrite second 0 (bytes.drop (first.length - pos)) := by
  induction first generalizing pos bytes with
  | nil =>
    have start : pos = 0 := by simpa using inside
    simp [start, overwrite]
  | cons byte first ih =>
    cases pos with
    | zero =>
      cases bytes with
      | nil => simp [overwrite, overwrite_nil]
      | cons other bytes =>
        have later := ih bytes (Nat.zero_le _)
        simp [overwrite, later]
    | succ pos =>
      have later := @ih pos bytes (by simpa using inside)
      simp [overwrite, later]

theorem overwrite_later (behind : first.length ≤ pos) :
    overwrite (first ++ second) pos bytes = first ++
      overwrite second (pos - first.length) bytes := by
  induction first generalizing pos with
  | nil => simp
  | cons byte first ih =>
    cases pos with
    | zero => simp at behind
    | succ pos =>
      have later := @ih pos (by simpa using behind)
      simp [overwrite, later]

end

theorem overwrite_take (pos : Nat) (bytes : List UInt8) :
    overwrite buffer pos (bytes.take (buffer.length - pos)) = overwrite buffer pos bytes := by
  induction buffer generalizing pos bytes with
  | nil => simp [overwrite]
  | cons byte buffer ih =>
    cases pos with
    | zero =>
      cases bytes with
      | nil => simp
      | cons other bytes =>
        have later := ih 0 bytes
        simpa [overwrite] using later
    | succ pos =>
      have later := ih pos bytes
      simpa [overwrite] using later

theorem overwrite_parts (pos : Nat) (bytes : List UInt8) :
    overwrite buffer pos bytes =
      buffer.take pos ++ bytes.take (buffer.length - pos) ++ buffer.drop (pos + bytes.length) := by
  induction buffer generalizing pos bytes with
  | nil => simp [overwrite]
  | cons byte buffer ih =>
    cases pos with
    | zero =>
      cases bytes with
      | nil => simp [overwrite]
      | cons other bytes =>
        have later := ih 0 bytes
        rw [overwrite, later]
        simp
    | succ pos =>
      have later := ih pos bytes
      rw [overwrite, later]
      simp [Nat.add_right_comm]

theorem store_parts (iov : Iovec) (bytes : List UInt8) (inside : pos ≤ iov.len) :
    let count := min (iov.len - pos) bytes.length
    let stored := iov.store pos (bytes.take count)
    stored.base.take stored.len = overwrite (iov.base.take iov.len) pos bytes ∧
      stored.base.drop stored.len = iov.base.drop iov.len := by
  intro count stored
  have taken := taken_length iov
  have cut : bytes.take count = bytes.take (iov.len - pos) := by
    rw [show count = min (iov.len - pos) bytes.length from rfl, ← take_eq_take_min]
  have parts : overwrite (iov.base.take iov.len ++ iov.base.drop iov.len) pos (bytes.take count) =
      overwrite (iov.base.take iov.len) pos bytes ++ iov.base.drop iov.len := by
    rw [overwrite_joined _ _ (by rw [taken]; exact inside), cut, taken]
    have fitting : overwrite (iov.base.take iov.len) pos (bytes.take (iov.len - pos)) =
        overwrite (iov.base.take iov.len) pos bytes := by
      have dropped := overwrite_take (iov.base.take iov.len) pos bytes
      rwa [taken] at dropped
    have noMore : (bytes.take (iov.len - pos)).drop (iov.len - pos) = [] := by simp
    rw [fitting, noMore, overwrite_nil]
  rw [take_append_drop] at parts
  have length : (overwrite (iov.base.take iov.len) pos bytes).length = iov.len := by
    rw [overwrite_length, taken]
  constructor
  · show (overwrite iov.base pos (bytes.take count)).take iov.len = _
    rw [parts]
    exact take_left' length
  · show (overwrite iov.base pos (bytes.take count)).drop iov.len = _
    rw [parts]
    exact drop_left' length

/-- The positions of a text are overwritten, and no others. -/
structure Overwritten (before : List Iovec) (pos : Nat) (bytes : List UInt8)
    (after : List Iovec) : Prop where
  text : text after = overwrite (text before) pos bytes
  lens : after.map Iovec.len = before.map Iovec.len
  spare : spare after = spare before

theorem copyTo_text (src : List UInt8) (inFirst : ∀ iov ∈ iovs.head?, pos ≤ iov.len) :
    Overwritten iovs pos src (copyTo iovs pos src).2 := by
  induction iovs generalizing pos src with
  | nil => exact ⟨by simp [copyTo, text, overwrite], rfl, rfl⟩
  | cons iov rest ih =>
    have inside : pos ≤ iov.len := inFirst iov (by simp)
    obtain ⟨used, unused⟩ := store_parts iov src inside
    have taken := taken_length iov
    have later := @ih 0 (src.drop (min (iov.len - pos) src.length)) (by simp)
    have cut : src.drop (min (iov.len - pos) src.length) = src.drop (iov.len - pos) := by
      rcases Nat.le_total (iov.len - pos) src.length with short | long
      · rw [Nat.min_eq_left short]
      · rw [Nat.min_eq_right long, drop_length, drop_of_length_le long]
    refine ⟨?_, copyTo_lens _ _ _, ?_⟩
    · have texts := later.text
      rw [cut] at texts
      simp only [copyTo, text_cons, used, cut, texts]
      rw [overwrite_joined _ _ (by rw [taken]; exact inside), taken]
    · have rests := later.spare
      simp only [Usrsock.spare] at rests
      simp only [copyTo, Usrsock.spare, map_cons, unused, rests]

theorem iovecPut_spec (pos : Nat) (src : List UInt8) :
    (iovecPut iovs pos src = none ↔ Beyond iovs pos) ∧
      ∀ count after, iovecPut iovs pos src = some (count, after) →
        count = min src.length (totalLen iovs - pos) ∧ Overwritten iovs pos src after := by
  induction iovs generalizing pos with
  | nil => simp [iovecPut, Beyond]
  | cons iov rest ih =>
    rw [iovecPut]
    split
    · next behind =>
      obtain ⟨error, puts⟩ := ih (pos - iov.len)
      refine ⟨(Option.map_eq_none_iff.trans error).trans
        (beyond_cons behind.1 behind.2).symm, ?_⟩
      intro count after isPut
      obtain ⟨⟨_, afterRest⟩, putRest, same⟩ := Option.map_eq_some_iff.mp isPut
      obtain ⟨rfl, rfl⟩ := Prod.mk.inj same
      obtain ⟨counted, later⟩ := puts _ _ putRest
      have taken := taken_length iov
      refine ⟨?_, ?_, ?_, ?_⟩
      · have total := totalLen_cons iov rest
        rw [counted]
        omega
      · rw [text_cons, text_cons, later.text,
          overwrite_later _ _ (by rw [taken]; exact behind.2), taken]
      · simp only [map_cons, later.lens]
      · have rests := later.spare
        simp only [Usrsock.spare] at rests
        simp only [Usrsock.spare, map_cons, rests]
    · next inside =>
      refine ⟨iff_of_false (by simp) (not_beyond inside), ?_⟩
      intro count after isPut
      have first : ∀ other ∈ (iov :: rest).head?, pos ≤ other.len := by
        simp
        omega
      obtain ⟨rfl, rfl⟩ := Prod.mk.inj (Option.some.inj isPut)
      exact ⟨copyTo_count _ _ first (Or.inl (by simp)), copyTo_text _ _ first⟩

theorem text_fill (bytes : List UInt8) : Overwritten iovs 0 bytes (fill iovs bytes) := by
  induction iovs generalizing bytes with
  | nil => exact ⟨by simp [fill, text, overwrite], rfl, rfl⟩
  | cons iov rest ih =>
    obtain ⟨used, unused⟩ := store_parts iov bytes (Nat.zero_le _)
    have taken := taken_length iov
    have later := ih (bytes.drop iov.len)
    rw [Nat.sub_zero, ← take_eq_take_min] at used unused
    refine ⟨?_, ?_, ?_⟩
    · simp only [fill, text_cons, used, later.text]
      rw [overwrite_joined _ _ (Nat.zero_le _), taken, Nat.sub_zero]
    · simp only [fill, map_cons, later.lens]
      rfl
    · have rests := later.spare
      simp only [Usrsock.spare] at rests
      simp only [fill, Usrsock.spare, map_cons, unused, rests]

theorem overwrite_own (count : Nat) : overwrite buffer 0 (buffer.take count) = buffer := by
  induction buffer generalizing count with
  | nil => simp [overwrite]
  | cons byte buffer ih =>
    cases count with
    | zero => simp [overwrite]
    | succ count => simp [overwrite, ih]

theorem fill_own (count : Nat) : fill iovs ((text iovs).take count) = iovs := by
  induction iovs generalizing count with
  | nil => rfl
  | cons iov rest ih =>
    have taken := taken_length iov
    have front : ((iov.base.take iov.len ++ text rest).take count).take iov.len =
        iov.base.take (min count iov.len) := by
      rw [take_take, take_append_of_le_length (by rw [taken]; omega), take_take]
      congr 1
      omega
    have behind : ((iov.base.take iov.len ++ text rest).take count).drop iov.len =
        (text rest).take (count - iov.len) := by
      rw [drop_take, drop_left' taken]
    have stored : iov.store 0 (iov.base.take (min count iov.len)) = iov := by
      cases iov
      simp only [Iovec.store, overwrite_own]
    rw [text_cons, fill, front, behind, ih, stored]

namespace System

variable {n m : Nat} {sys : System n m} {i : Fin n} {iovs : List Iovec}

/-- A sequence of reads: the system after it, and all that has been read. -/
def readAll (sys : System n m) : List Nat → System n m × List UInt8
  | [] => (sys, [])
  | len :: rest =>
    let read := sys.usrsockdevRead len
    let later := read.1.readAll rest
    (later.1, read.2 ++ later.2)

theorem usrsockdevRead_text (line : sys.dev.iov = some iovs) (len : Nat) :
    let bytes := ((text iovs).drop sys.dev.pos).take len
    sys.usrsockdevRead len =
      (sys.setDev { sys.dev with pos := sys.dev.pos + bytes.length }, bytes) := by
  intro bytes
  obtain ⟨error, read⟩ := iovecGet_spec iovs sys.dev.pos len
  unfold usrsockdevRead
  rw [line]
  cases got : iovecGet iovs sys.dev.pos len with
  | none =>
    have total : totalLen iovs ≤ sys.dev.pos := by
      rcases error.mp got with none | past
      · simp [none, totalLen]
      · exact past.2
    have nothing : bytes = [] := by
      show ((text iovs).drop sys.dev.pos).take len = []
      rw [drop_of_length_le (by rw [text_length]; exact total), take_nil]
    simp [got, nothing, setDev]
  | some found =>
    have same : found = bytes := read found got
    simp [got, same]

theorem readAll_text (line : sys.dev.iov = some iovs) (sizes : List Nat) :
    (sys.readAll sizes).2 = ((text iovs).drop sys.dev.pos).take sizes.sum := by
  induction sizes generalizing sys with
  | nil => simp [readAll]
  | cons len rest ih =>
    have read := usrsockdevRead_text line len
    have line' : (sys.usrsockdevRead len).1.dev.iov = some iovs := by
      rw [read]
      exact line
    rw [readAll, ih line', read, sum_cons]
    simp only [setDev]
    rw [take_add, ← drop_drop, length_take]
    congr 1
    rcases Nat.le_total len ((text iovs).drop sys.dev.pos).length with enough | short
    · rw [Nat.min_eq_left enough]
    · rw [Nat.min_eq_right short, drop_length, drop_of_length_le short]

theorem Filled.filledBy_self {front : List UInt8} (filled : sys.Filled i iovs front) :
    sys.filledBy i iovs front = sys := by
  unfold System.filledBy withDatain setConn
  rw [← filled.datain]
  simp

theorem Filled.writeAll_inside {front : List UInt8} (filled : sys.Filled i iovs front)
    (writes : List (List UInt8)) (inside : front.length + writes.flatten.length < totalLen iovs) :
    sys.AcceptsAll writes ∧ sys.writeAll writes =
      sys.filledBy i iovs (front ++ writes.flatten) := by
  induction writes generalizing sys front with
  | nil =>
    refine ⟨trivial, ?_⟩
    rw [flatten_nil, append_nil, filled.filledBy_self]
    rfl
  | cons buffer rest ih =>
    rw [flatten_cons, length_append] at inside
    by_cases nothing : buffer = []
    · subst nothing
      have skipped : sys.usrsockdevWrite [] = (sys, 0) := by simp [usrsockdevWrite]
      obtain ⟨accepted, written⟩ := ih filled (by simpa using inside)
      refine ⟨⟨by rw [skipped]; rfl, by rw [skipped]; exact accepted⟩, ?_⟩
      rw [flatten_cons, nil_append, ← written]
      simp only [System.writeAll, foldl_cons, skipped]
    · have input := filled.dataInput buffer (by omega) (Or.inl (by omega)) 0
      rw [← usrsockdevWrite_data filled.isData nothing, Nat.zero_add, if_neg (by omega)] at input
      obtain ⟨accepted, written⟩ := ih (filled.filledBy (front ++ buffer))
        (by rw [length_append]; omega)
      refine ⟨⟨by rw [input], by rw [input]; exact accepted⟩, ?_⟩
      have first : sys.writeAll (buffer :: rest) =
          (sys.filledBy i iovs (front ++ buffer)).writeAll rest := by
        rw [System.writeAll, foldl_cons, input]
        rfl
      rw [first, written, flatten_cons, ← append_assoc]
      simp only [System.filledBy, withDatain_withDatain]

section

variable (consistent : sys.Consistent) (isData : sys.dev.datainConn = some i)
  (inside : (sys.conns i).resp.datain.pos < (sys.conns i).resp.datain.total)
include consistent isData inside

theorem filled_of_data : let datain := (sys.conns i).resp.datain
    sys.Filled i datain.iov ((text datain.iov).take datain.pos) := by
  intro datain
  have total : totalLen datain.iov = datain.total := consistent.data i isData
  have length : ((text datain.iov).take datain.pos).length = datain.pos := by
    rw [length_take, text_length, total]
    exact Nat.min_eq_left (Nat.le_of_lt inside)
  refine ⟨isData, ?_⟩
  rw [fill_own, total, length]

/-- What is stored by a list of writes depends only on their concatenation. -/
theorem writeAll_text {writes : List (List UInt8)}
    (room : (sys.conns i).resp.datain.pos + writes.flatten.length ≤ (sys.conns i).resp.datain.total)
      :
    sys.AcceptsAll writes ∧
      Overwritten (sys.conns i).resp.datain.iov (sys.conns i).resp.datain.pos writes.flatten
        ((sys.writeAll writes).conns i).resp.datain.iov ∧
      ∀ others : List (List UInt8), others.flatten = writes.flatten →
        sys.writeAll others = sys.writeAll writes := by
  have filled := filled_of_data consistent isData inside
  have total : totalLen (sys.conns i).resp.datain.iov = (sys.conns i).resp.datain.total :=
    consistent.data i isData
  generalize (sys.conns i).resp.datain = datain at *
  have length : ((text datain.iov).take datain.pos).length = datain.pos := by
    rw [length_take, text_length, total]
    exact Nat.min_eq_left (Nat.le_of_lt inside)
  have overwritten : Overwritten datain.iov datain.pos writes.flatten
      (fill datain.iov ((text datain.iov).take datain.pos ++ writes.flatten)) := by
    obtain ⟨whole, lens, spare⟩ :=
      text_fill datain.iov ((text datain.iov).take datain.pos ++ writes.flatten)
    refine ⟨?_, lens, spare⟩
    rw [whole, ← overwrite_behind (by rw [length, text_length, total]; omega), overwrite_own,
      length, Nat.zero_add]
  by_cases last : datain.pos + writes.flatten.length = datain.total
  · have ends (others : List (List UInt8)) (same : others.flatten = writes.flatten) :=
      filled.writeAll others (by rw [length, total]; exact inside)
        (by rw [length, total, same]; exact last)
    refine ⟨(ends writes rfl).1, ?_, ?_⟩
    · have data : ((sys.writeAll writes).conns i).resp.datain.iov =
          fill datain.iov ((text datain.iov).take datain.pos ++ writes.flatten) := by
        rw [(ends writes rfl).2, endData, completeRequest, usrsockEvent_resp]
        exact congrArg Datain.iov (withDatain_datain sys i _)
      rw [data]
      exact overwritten
    · intro others same
      rw [(ends others same).2, (ends writes rfl).2, same]
  · have stays (others : List (List UInt8)) (same : others.flatten = writes.flatten) :=
      filled.writeAll_inside others (by rw [length, total, same]; omega)
    refine ⟨(stays writes rfl).1, ?_, ?_⟩
    · have data : ((sys.writeAll writes).conns i).resp.datain.iov =
          fill datain.iov ((text datain.iov).take datain.pos ++ writes.flatten) := by
        rw [(stays writes rfl).2]
        exact congrArg Datain.iov (withDatain_datain sys i _)
      rw [data]
      exact overwritten
    · intro others same
      rw [(stays others same).2, (stays writes rfl).2, same]

end

end System

/-- `iovec_do` copies between a flat buffer and the text of the other buffers, whatever
their lengths are. Hence reads of any sizes read a request once and in order, and however
the daemon splits its data into writes, the buffers of a call are filled with it. -/
theorem scatter_gather :
    (∀ (iovs : List Iovec) (pos : Nat) (dst : List UInt8),
      (iovecDo true dst iovs pos = none ↔ Beyond iovs pos) ∧
      ∀ count after same, iovecDo true dst iovs pos = some (count, after, same) →
        count = min dst.length (totalLen iovs - pos) ∧
        after = ((text iovs).drop pos).take count ++ dst.drop count ∧ same = iovs) ∧
    (∀ (iovs : List Iovec) (pos : Nat) (src : List UInt8),
      (iovecDo false src iovs pos = none ↔ Beyond iovs pos) ∧
      ∀ count same after, iovecDo false src iovs pos = some (count, same, after) →
        count = min src.length (totalLen iovs - pos) ∧ same = src ∧
        text after = (text iovs).take pos ++ src.take count ++ (text iovs).drop (pos + count) ∧
        after.map Iovec.len = iovs.map Iovec.len ∧ spare after = spare iovs) ∧
    (∀ {n m : Nat} (sys : System n m) (iovs : List Iovec) (sizes : List Nat),
      sys.dev.iov = some iovs →
        (sys.readAll sizes).2 = ((text iovs).drop sys.dev.pos).take sizes.sum) ∧
    (∀ {n m : Nat} (sys : System n m) (i : Fin n) (writes : List (List UInt8)),
      sys.Consistent → sys.dev.datainConn = some i →
      (sys.conns i).resp.datain.pos < (sys.conns i).resp.datain.total →
      (sys.conns i).resp.datain.pos + writes.flatten.length ≤ (sys.conns i).resp.datain.total →
        sys.AcceptsAll writes ∧
        Overwritten (sys.conns i).resp.datain.iov (sys.conns i).resp.datain.pos writes.flatten
          ((sys.writeAll writes).conns i).resp.datain.iov ∧
        ∀ others : List (List UInt8), others.flatten = writes.flatten →
          sys.writeAll others = sys.writeAll writes) := by
  refine ⟨?_, ?_, ?_, ?_⟩
  · intro iovs pos dst
    obtain ⟨error, reads⟩ := iovecGet_spec iovs pos dst.length
    rw [iovecDo_get]
    refine ⟨Option.map_eq_none_iff.trans error, ?_⟩
    intro count after same isRead
    obtain ⟨bytes, read, result⟩ := Option.map_eq_some_iff.mp isRead
    obtain ⟨rfl, rfl, rfl⟩ := by simpa only [Prod.mk.injEq] using result
    have length : bytes.length = min dst.length (totalLen iovs - pos) := by
      rw [reads bytes read, length_take, length_drop, text_length]
    refine ⟨length, ?_, rfl⟩
    have front : bytes <+: (text iovs).drop pos := by
      rw [reads bytes read]
      exact take_prefix _ _
    rw [overwrite_front (by omega), ← prefix_iff_eq_take.mp front]
  · intro iovs pos src
    obtain ⟨error, puts⟩ := iovecPut_spec iovs pos src
    rw [iovecDo_put]
    refine ⟨Option.map_eq_none_iff.trans error, ?_⟩
    intro count same after isPut
    obtain ⟨⟨count', after'⟩, put, result⟩ := Option.map_eq_some_iff.mp isPut
    obtain ⟨rfl, rfl, rfl⟩ := by simpa only [Prod.mk.injEq] using result
    obtain ⟨counted, overwritten⟩ := puts _ _ put
    refine ⟨counted, rfl, ?_, overwritten.lens, overwritten.spare⟩
    have length := text_length iovs
    rw [overwritten.text, overwrite_parts, length, counted, Nat.min_comm, ← take_eq_take_min]
    congr 1
    rcases Nat.le_total src.length (totalLen iovs - pos) with fits | cut
    · rw [Nat.min_eq_right fits]
    · rw [Nat.min_eq_left cut, drop_of_length_le (by omega),
        drop_of_length_le (by omega)]
  · intro n m sys iovs sizes line
    exact System.readAll_text line sizes
  · intro n m sys i writes consistent isData inside room
    exact System.writeAll_text consistent isData inside room

end Thingsee.Usrsock
