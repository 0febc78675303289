import Thingsee.Json.Acceptance

/-!
Owns `cJSON_Parse_fd` and its reader `getc_fd`: which part of the bytes behind a descriptor the
parser gets. The limit is tested before the buffer is drained, so that of the piece that reaches
the limit only the first byte is seen.
-/

namespace Thingsee.Json

open Support List

/-- What the calls do: the sizes that reads return at most, the `EINTR` and `EAGAIN` in front of
them, and whether there is memory for the buffer. `getc_fd` tries `malloc` at each call until it has
a buffer; here it succeeds at the first call or never. -/
structure Reads where
  sizes : Nat → Nat
  interruptions : Nat → Nat
  allocated : Bool

/-- `struct parse_fd_priv_s`, with the bytes that the descriptor still has. `buf` is the buffer
from `bufpos` on. -/
structure FdParse where
  text : List UInt8
  reads : Nat
  nread : Nat
  buf : List UInt8

variable (reads : Reads) (maxReadlen : Nat)

/-- The number of bytes that a read may return. -/
def maxread (nread : Nat) : Nat :=
  if 0 < maxReadlen ∧ reads.allocated then min (maxReadlen - nread) 256 else 1

/-- The number of bytes that a read returns, unless the end is nearer. -/
def pieceSize (index nread : Nat) : Nat :=
  max 1 (min (reads.sizes index) (maxread reads maxReadlen nread))

/-- The loop around `read`. -/
def readRetried (parse : FdParse) : (interruptions : Nat) → List UInt8
  | 0 => parse.text.take (pieceSize reads maxReadlen parse.reads parse.nread)
  | interruptions + 1 => readRetried parse interruptions

/-- `getc_fd`. -/
def getcFd (parse : FdParse) : UInt8 × FdParse :=
  if 0 < maxReadlen ∧ parse.nread = maxReadlen then (0, parse)
  else
    match parse.buf with
    | char :: rest => (char, { parse with buf := rest })
    | [] =>
      match readRetried reads maxReadlen parse (reads.interruptions parse.reads) with
      | [] => (0, parse)
      | char :: rest =>
        (char,
          { text := parse.text.drop (rest.length + 1)
            reads := parse.reads + 1
            nread := parse.nread + (rest.length + 1)
            buf := rest })

/-- The results of successive calls. -/
def fdChars : (calls : Nat) → FdParse → List UInt8
  | 0, _ => []
  | calls + 1, parse =>
    (getcFd reads maxReadlen parse).1 :: fdChars calls (getcFd reads maxReadlen parse).2

def fdStart (text : List UInt8) : FdParse := ⟨text, 0, 0, []⟩

/-- `cJSON_Parse_fd`. The text is at its end with the first zero. -/
def cJSONParseFd {D : Type} (doubles : Doubles D) (text : List UInt8) :
    Except Failure (Items (Value D)) :=
  cJSONParse doubles (fdChars reads maxReadlen (text.length + 1) (fdStart text))

/-- What is to be parsed. -/
def limited (text : List UInt8) : List UInt8 :=
  if maxReadlen = 0 then text else text.take maxReadlen

/-- The size of the piece that reaches the limit. -/
def lastPiece (nread index : Nat) : Nat :=
  let size := pieceSize reads maxReadlen index nread
  if nread + size < maxReadlen then lastPiece (nread + size) (index + 1) else size
termination_by maxReadlen - nread
decreasing_by
  have positive : 0 < pieceSize reads maxReadlen index nread := Nat.le_max_left 1 _
  omega

variable {text : List UInt8} (parse : FdParse) (index calls nread : Nat)

theorem readRetried_eq (interruptions : Nat) :
    readRetried reads maxReadlen parse interruptions =
      parse.text.take (pieceSize reads maxReadlen parse.reads parse.nread) := by
  induction interruptions with
  | zero => rfl
  | succ interruptions ih => exact ih

theorem pieceSize_pos : 0 < pieceSize reads maxReadlen index nread :=
  Nat.le_max_left 1 _

theorem pieceSize_le {nread : Nat} (open' : nread < maxReadlen) :
    nread + pieceSize reads maxReadlen index nread ≤ maxReadlen := by
  unfold pieceSize maxread
  split <;> omega

theorem lastPiece_bounds (index : Nat) (open' : nread < maxReadlen) :
    0 < lastPiece reads maxReadlen nread index ∧
      nread + lastPiece reads maxReadlen nread index ≤ maxReadlen := by
  induction nread, index using lastPiece.induct reads maxReadlen with
  | case1 nread index size more ih =>
    have sized : pieceSize reads maxReadlen index nread = size := rfl
    have bounds := ih more
    rw [lastPiece, if_pos more, sized]
    omega
  | case2 nread index size last =>
    rw [lastPiece, if_neg last]
    exact ⟨pieceSize_pos reads maxReadlen index nread,
      pieceSize_le reads maxReadlen index open'⟩

/-- A call that fills the buffer. -/
theorem getcFd_fill {index nread : Nat} (open' : ¬ (0 < maxReadlen ∧ nread = maxReadlen))
    {char : UInt8} {rest : List UInt8}
    (piece : text.take (pieceSize reads maxReadlen index nread) = char :: rest) :
    getcFd reads maxReadlen ⟨text, index, nread, []⟩ =
      (char, ⟨text.drop (rest.length + 1), index + 1, nread + (rest.length + 1), rest⟩) := by
  unfold getcFd
  rw [if_neg open']
  simp only [readRetried_eq, piece]

theorem fdChars_limit (parse : FdParse) (closed : 0 < maxReadlen ∧ parse.nread = maxReadlen) :
    cString (fdChars reads maxReadlen calls parse) = [] := by
  cases calls with
  | zero => rfl
  | succ calls =>
    rw [fdChars, getcFd, if_pos closed]
    rfl

theorem fdChars_drain (text : List UInt8) (index nread : Nat) (buf : List UInt8)
    (open' : ¬ (0 < maxReadlen ∧ nread = maxReadlen)) :
    fdChars reads maxReadlen (buf.length + calls) ⟨text, index, nread, buf⟩ =
      buf ++ fdChars reads maxReadlen calls ⟨text, index, nread, []⟩ := by
  induction buf with
  | nil => simp
  | cons char rest ih =>
    have got : getcFd reads maxReadlen ⟨text, index, nread, char :: rest⟩ =
        (char, ⟨text, index, nread, rest⟩) := if_neg open'
    rw [length_cons, Nat.add_right_comm, fdChars, got, ih]
    rfl

theorem cString_append_of_nonzero (front back : List UInt8) (nonzero : (0 : UInt8) ∉ front) :
    cString (front ++ back) = front ++ cString back :=
  takeWhile_append_of_pos fun _ member =>
    decide_eq_true fun zero => nonzero (zero ▸ member)

/-- **The parser gets the text up to the limit, but of the last piece only the first byte.** -/
theorem cString_fdChars (text : List UInt8) (index nread calls : Nat)
    (nonzero : (0 : UInt8) ∉ text) (open' : ¬ (0 < maxReadlen ∧ maxReadlen ≤ nread))
    (enough : text.length < calls) :
    cString (fdChars reads maxReadlen calls ⟨text, index, nread, []⟩) =
      if maxReadlen = 0 ∨ nread + text.length < maxReadlen then text
      else text.take (maxReadlen - nread - lastPiece reads maxReadlen nread index + 1) := by
  induction length : text.length using Nat.strong_induction_on
    generalizing text index nread calls with | _ length ih
  subst length
  obtain ⟨calls, rfl⟩ : ∃ earlier, calls = earlier + 1 := ⟨calls - 1, by omega⟩
  have still : ¬ (0 < maxReadlen ∧ nread = maxReadlen) := by omega
  cases text with
  | nil =>
    rw [fdChars, getcFd, if_neg still]
    simp [readRetried_eq, cString]
  | cons first others =>
    obtain ⟨size, sized⟩ : ∃ size, pieceSize reads maxReadlen index nread = size + 1 :=
      Nat.exists_eq_succ_of_ne_zero (pieceSize_pos reads maxReadlen index nread).ne'
    have piece : (first :: others).take (pieceSize reads maxReadlen index nread) =
        first :: others.take size := by
      rw [sized, take_succ_cons]
    have fits : 0 < maxReadlen → nread + (size + 1) ≤ maxReadlen := by
      intro limit
      rw [← sized]
      exact pieceSize_le reads maxReadlen index (by omega)
    have last : lastPiece reads maxReadlen nread index =
        if nread + (size + 1) < maxReadlen then
          lastPiece reads maxReadlen (nread + (size + 1)) (index + 1)
        else size + 1 := by
      rw [lastPiece, sized]
    rw [mem_cons, not_or] at nonzero
    have bufLength : (others.take size).length = min size others.length := length_take
    have visible : (0 : UInt8) ∉ [first] := by simpa using nonzero.1
    rw [fdChars, getcFd_fill reads maxReadlen still piece, drop_succ_cons]
    rw [← singleton_append, cString_append_of_nonzero _ _ visible]
    rw [length_cons] at enough ⊢
    by_cases closed : 0 < maxReadlen ∧ nread + ((others.take size).length + 1) = maxReadlen
    · -- Nothing else of this piece is delivered.
      have full := fits closed.1
      rw [fdChars_limit reads maxReadlen calls _ closed, last, if_neg (by omega), if_neg (by omega),
        show maxReadlen - nread - (size + 1) + 1 = 1 by omega]
      rfl
    · have drained := fdChars_drain reads maxReadlen (calls - (others.take size).length)
        (others.drop (others.take size).length) (index + 1) _ (others.take size) closed
      have next := ih (others.drop (others.take size).length).length
        (by rw [length_drop, length_cons]; omega)
        (others.drop (others.take size).length) (index + 1)
        (nread + ((others.take size).length + 1)) (calls - (others.take size).length)
        (fun member => nonzero.2 (mem_of_mem_drop member))
        (fun reached => closed ⟨reached.1, by have := fits reached.1; omega⟩)
        (by rw [length_drop]; omega) rfl
      rw [Nat.add_sub_cancel' (by omega)] at drained
      have bufNonzero : (0 : UInt8) ∉ others.take size :=
        fun member => nonzero.2 (mem_of_mem_take member)
      rw [drained, cString_append_of_nonzero _ _ bufNonzero, next, length_drop]
      by_cases whole : maxReadlen = 0 ∨ nread + (others.length + 1) < maxReadlen
      · rw [if_pos (by omega), if_pos whole,
          prefix_iff_eq_append.mp ( take_prefix size others), singleton_append]
      · have more : (others.take size).length = size := by omega
        have bounds := lastPiece_bounds reads maxReadlen (nread + (size + 1)) (index + 1) (by omega)
        rw [if_neg (by omega), if_neg whole, more, last, if_pos (by omega)]
        obtain ⟨few, counted⟩ : ∃ few, maxReadlen - (nread + (size + 1)) -
            lastPiece reads maxReadlen (nread + (size + 1)) (index + 1) + 1 = few := ⟨_, rfl⟩
        have total : maxReadlen - nread -
            lastPiece reads maxReadlen (nread + (size + 1)) (index + 1) + 1 = size + few + 1 := by
          omega
        rw [counted, total, take_succ_cons, take_add, singleton_append]

/-- What has been counted is missing from the bytes, and the limit holds. -/
def Counted (bytes : Nat) (parse : FdParse) : Prop :=
  parse.nread + parse.text.length = bytes ∧ (0 < maxReadlen → parse.nread ≤ maxReadlen)

theorem getcFd_counted (bytes : Nat) (parse : FdParse) (counted : Counted maxReadlen bytes parse) :
    Counted maxReadlen bytes (getcFd reads maxReadlen parse).2 := by
  obtain ⟨text, index, nread, buf⟩ := parse
  unfold getcFd
  split
  · exact counted
  · next open' =>
    cases buf with
    | cons char rest => exact counted
    | nil =>
      simp only [readRetried_eq]
      split
      · exact counted
      · next char rest piece =>
        have length := congrArg List.length piece
        rw [length_take, length_cons] at length
        have bounded := fun limit => pieceSize_le reads maxReadlen index
          (show nread < maxReadlen from
            Nat.lt_of_le_of_ne (counted.2 limit) fun reached => open' ⟨limit, reached⟩)
        simp only [Counted, length_drop] at counted ⊢
        omega

/-- What the parser gets of the text. -/
def delivered (text : List UInt8) : List UInt8 :=
  if maxReadlen = 0 ∨ text.length < maxReadlen then text
  else text.take (maxReadlen - lastPiece reads maxReadlen 0 0 + 1)

variable {D : Type} (doubles : Doubles D)

theorem cJSONParseFd_eq (nonzero : (0 : UInt8) ∉ text) :
    cJSONParseFd reads maxReadlen doubles text =
      cJSONParse doubles (delivered reads maxReadlen text ++ [0]) := by
  have got := cString_fdChars reads maxReadlen text 0 0 (text.length + 1) nonzero (by omega)
    (Nat.lt_succ_self _)
  rw [Nat.zero_add, Nat.sub_zero] at got
  have visible : (0 : UInt8) ∉ delivered reads maxReadlen text := by
    unfold delivered
    split
    · exact nonzero
    · exact fun member => nonzero (mem_of_mem_take member)
  rw [cJSONParseFd, cJSONParse, cJSONParse, cString_append visible, fdStart, got]
  rfl

/-- **A text of some length is parsed from a descriptor as it is parsed from a string, exactly if
it ends in front of the limit, or the piece that reaches the limit is a single byte.** No more
bytes are read than the limit says. -/
theorem cJSONParseFd_right_iff (arithmetic : doubles.Exact) (length : Nat) :
    (∀ text : List UInt8, text.length = length → (0 : UInt8) ∉ text →
      cJSONParseFd reads maxReadlen doubles text =
          cJSONParse doubles (limited maxReadlen text ++ [0]) ∧
        ∀ calls, 0 < maxReadlen → length ≤
          ((fun parse => (getcFd reads maxReadlen parse).2)^[calls] (fdStart text)).text.length +
            maxReadlen) ↔
      maxReadlen = 0 ∨ length < maxReadlen ∨ lastPiece reads maxReadlen 0 0 = 1 := by
  constructor
  · intro right
    by_contra wrong
    obtain ⟨limit, long, pieces⟩ : 0 < maxReadlen ∧ maxReadlen ≤ length ∧
        lastPiece reads maxReadlen 0 0 ≠ 1 := by
      omega
    have bounds := lastPiece_bounds reads maxReadlen 0 0 limit
    have spaces (count : Nat) : (List.replicate count (32 : UInt8)).all isWhite = true := by
      rw [all_replicate]
      split <;> rfl
    -- An array whose bracket is the last byte in front of the limit.
    let before : Space := ⟨List.replicate (maxReadlen - 2) 32, spaces _⟩
    let front := before.chars ++ [91]
    let document (after : Space) : Document := .container before .array .none .nil after
    have text_eq (after : Space) : (document after).text = front ++ 93 :: after.chars := by
      simp [document, front, Document.text, containerText, Body.inside, Body.text, Space.none,
        Container.opening, Container.closing]
    have frontLength : front.length = maxReadlen - 1 := by
      simp only [front, before, length_append, length_replicate, length_singleton]
      omega
    let after : Space := ⟨List.replicate (length - maxReadlen) 32, spaces _⟩
    have sized : (document after).text.length = length := by
      rw [text_eq, length_append, frontLength, length_cons, length_replicate]
      omega
    have same := (right _ sized (document after).nonzero).1
    have ends : limited maxReadlen (document after).text = (document .none).text := by
      rw [limited, if_neg (by omega), text_eq, text_eq, take_append, frontLength,
        take_of_length_le (by omega), show maxReadlen - (maxReadlen - 1) = 1 by omega]
      rfl
    have grammatical : (document .none).Grammatical := trivial
    have parsed := cJSONParse_document arithmetic grammatical trivial trivial []
    have cut : delivered reads maxReadlen (document after).text <+: front := by
      rw [delivered, if_neg (by omega), text_eq, take_append_of_le_length (by omega)]
      exact take_prefix _ _
    rw [cJSONParseFd_eq reads maxReadlen doubles (document after).nonzero, ends,
      parsed, cJSONParse_cut arithmetic before .array .none (show Body.nil.Grammatical from trivial)
        trivial trivial cut []] at same
    cases same
  · intro condition text sized nonzero
    constructor
    · rw [cJSONParseFd_eq reads maxReadlen doubles nonzero]
      have same : delivered reads maxReadlen text = limited maxReadlen text := by
        unfold delivered limited
        by_cases unlimited : maxReadlen = 0
        · rw [if_pos (.inl unlimited), if_pos unlimited]
        · rw [if_neg unlimited]
          rcases condition with none | short | single
          · exact absurd none unlimited
          · rw [if_pos (.inr (by omega)), take_of_length_le (by omega)]
          · rw [single, show maxReadlen - 1 + 1 = maxReadlen by omega]
            split
            · rw [take_of_length_le (by omega)]
            · rfl
      rw [same]
    · intro calls limit
      have start : Counted maxReadlen length (fdStart text) :=
        ⟨by rw [← sized]; exact Nat.zero_add _, fun _ => Nat.zero_le _⟩
      have counted := Function.Iterate.rec (Counted maxReadlen length) start
        (getcFd_counted reads maxReadlen length) calls
      have bounded := counted.2 limit
      have total := counted.1
      omega

/-- Two bytes with each call of `read`. -/
def pairs : Reads := ⟨fun _ => 2, fun _ => 0, true⟩

theorem cJSONParseFd_shorter :
    cJSONParseFd pairs 3 rationals [91, 93] = cJSONParse rationals [91, 93, 0] :=
  ((cJSONParseFd_right_iff pairs 3 rationals rationals_exact 2).mpr (.inr (.inl (by decide)))
    [91, 93] rfl (by decide)).1

/-- `[]` is not parsed if the limit is its length. -/
theorem whole_array_rejected :
    cJSONParseFd pairs 2 rationals [91, 93] = .error .null ∧
      cJSONParse rationals [91, 93, 0] = .ok (.branch [] .array false .nil .nil) :=
  ⟨by rfl, by rfl⟩

end Thingsee.Json
