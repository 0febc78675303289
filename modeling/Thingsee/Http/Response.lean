import Thingsee.Http.Stream
import Thingsee.Support.Radix

/-!
Owns the reader of an HTTP response in `conn_comm_execute_http.c`: the scan of the
header, character by character and read by read, and the content stream that is set up
behind it.

`sscanf` with the format `HTTP/1.1 %d ` is written out as what `vsscanf` does with that
format. Where only white space is behind the number, `vsscanf` takes the end of the
format for a match with the end of the text and goes on behind both; that has no
result here, and neither has a failed `DEBUGASSERT` or an access outside of `linebuf`.

Does not own: the address of the server, the socket and the sending of the request,
which are the flag `opened`; and the texts of the debug output.
-/

namespace Thingsee.Http

open Support List

def OK : Int := 0
def ERROR : Int := -1
def NETWORK_ERROR : Int := ERROR - 1

/-- A text up to its terminating zero, which is inside of the memory. -/
def cString (memory : List UInt8) : Option (List UInt8) :=
  if 0 ∈ memory then some (memory.takeWhile (· != 0)) else none

/-- What `sscanf` does with the status line, and the value of `*pstatus_code`. -/
inductive Scanned where
  | missed (statusCode : Int)
  | read (statusCode : Int)
  | overrun

/-- The literal part of a format: white space in front of each character is skipped. -/
def afterLiteral : List UInt8 → List UInt8 → Option (List UInt8)
  | [], text => some text
  | expected :: format, text =>
    match text.dropWhile isSpace with
    | [] => none
    | char :: rest => if expected = char then afterLiteral format rest else none

/-- `HTTP/1.1` -/
def httpVersion : List UInt8 := [72, 84, 84, 80, 47, 49, 46, 49]

/-- The conversion `%d` of the status line, and the white space behind it. -/
def scanCode (text : List UInt8) : Scanned :=
  let digits := text.take (min 127 (findWidth [] text))
  if numberLength digits = 0 then .missed 0
  else
    let rest := text.drop (numberLength digits)
    if rest ≠ [] ∧ rest.all isSpace then .overrun else .read (strtol digits)

/-- `sscanf(linebuf, "HTTP/1.1 %d ", pstatus_code)`. -/
def scanStatus (statusCode : Int) (text : List UInt8) : Scanned :=
  match afterLiteral httpVersion text with
  | none => .missed statusCode
  | some [] => .missed 0
  | some rest => scanCode (rest.dropWhile isSpace)

def toupper (char : UInt8) : UInt8 := if 97 ≤ char ∧ char ≤ 122 then char - 32 else char

/-- `CONTENT-LENGTH:` -/
def contentLen : List UInt8 := [67, 79, 78, 84, 69, 78, 84, 45, 76, 69, 78, 71, 84, 72, 58]

/-- Whether `strtol` leaves its end behind the start: also a sign or white space without
digits is used up. -/
def converts (text : List UInt8) : Bool :=
  text.head?.any isSpace || decide (numberLength text ≠ 0)

/-- `parse_line_int` of a line of some length, with the text in it up to a zero. -/
def parseLineInt (line : List UInt8) (linelen : Nat) (hdr : List UInt8) : Option Int :=
  if linelen ≥ hdr.length ∧ (line.take hdr.length).map toupper = hdr.map toupper then
    let number := line.drop hdr.length
    if converts number then some (signedOf (strtoul 0) number) else none
  else none

/-- Locals of `conn_execute_http_request`. `linenum` is an `int` in the source. -/
structure Scan where
  linebuf : List UInt8
  linepos : Nat
  prevCh : UInt8
  linenum : Nat
  statusCode : Int
  contentlen : Int

inductive Progress where
  | reading (scan : Scan)
  | invalid (scan : Scan)
  | content (scan : Scan)

namespace Scan

/-- The scan at the start of a response, with what is on the stack in `linebuf`. -/
def start (linebuf : List UInt8) : Scan := ⟨linebuf, 0, 0, 0, ERROR, 0⟩

/-- A write to `linebuf`. -/
def put (scan : Scan) (index : Nat) (char : UInt8) : Option Scan :=
  if index < scan.linebuf.length then some { scan with linebuf := scan.linebuf.set index char }
  else none

def store (scan : Scan) (curCh : UInt8) : Option Scan :=
  if scan.linepos < CONN_STREAM_BUF_SIZE then do
    let stored ← scan.put scan.linepos curCh
    some { stored with linepos := stored.linepos + 1 }
  else scan.put (CONN_STREAM_BUF_SIZE - 1) 0

/-- A line without its end has been found. -/
def line (scan : Scan) : Option Progress := do
  let text ← cString scan.linebuf
  if scan.linenum = 0 then
    match scanStatus scan.statusCode text with
    | .overrun => none
    | .missed code => some (.invalid { scan with statusCode := code })
    | .read code => some (.reading { scan with
        statusCode := code, linepos := 0, linenum := scan.linenum + 1 })
  else if scan.linepos = 0 then some (.content scan)
  else
    some (.reading { scan with
      contentlen := (parseLineInt text scan.linepos contentLen).getD scan.contentlen
      linepos := 0, linenum := scan.linenum + 1 })

/-- The body of the loop over the characters of a read. -/
def char (scan : Scan) (curCh : UInt8) : Option Progress := do
  let stored ← scan.store curCh
  if scan.prevCh = 13 ∧ curCh = 10 then
    if stored.linepos ≥ 2 then
      let terminated ← (if stored.linepos ≤ CONN_STREAM_BUF_SIZE then
        stored.put (stored.linepos - 2) 0 else some stored)
      { terminated with linepos := stored.linepos - 2, prevCh := curCh }.line
    else none
  else some (.reading { stored with prevCh := curCh })

/-- The loop over the characters of a read, with those behind the one it ends at. -/
def chars : Scan → List UInt8 → Option (Progress × List UInt8)
  | scan, [] => some (.reading scan, [])
  | scan, curCh :: rest => do
      match ← scan.char curCh with
      | .reading scan => scan.chars rest
      | .invalid scan => some (.invalid scan, rest)
      | .content scan => some (.content scan, rest)

end Scan

/-- How the header ends: the response is invalid, or content begins in the buffer. -/
inductive Header where
  | invalid (scan : Scan) (inbuf : List UInt8) (link : Link)
  | content (scan : Scan) (inbuf : List UInt8) (len : Nat) (link : Link)

/-- The loop over the reads. Every turn takes bytes from the link, so that more turns
than these are never needed. -/
def readHeader : Nat → Scan → List UInt8 → Link → Option Header
  | 0, _, _, _ => none
  | turns + 1, scan, inbuf, link => do
      let answer := link.read CONN_STREAM_BUF_SIZE
      if answer.1 = [] then some (.invalid scan inbuf answer.2)
      else do
        let inbuf ← fill inbuf answer.1
        let scanned ← scan.chars answer.1
        match scanned.1 with
        | .reading scan => readHeader turns scan inbuf answer.2
        | .invalid scan => some (.invalid scan inbuf answer.2)
        | .content scan =>
          let moved ← fill inbuf scanned.2
          some (.content scan moved scanned.2.length answer.2)

/-- `conn_execute_http_request`: what it returns, `*pstatus_code` and the stream. -/
def executeHttpRequest (opened : Bool) (linebuf buf : List UInt8) (link : Link) :
    Option (Int × Int × Stream) :=
  if opened then do
    match ← readHeader (link.incoming.length + 1) (Scan.start linebuf) buf link with
    | .invalid scan inbuf link => some (ERROR, scan.statusCode, Stream.init inbuf link.close)
    | .content scan inbuf len link =>
      some (OK, scan.statusCode,
        { buf := inbuf, maxContentLen := (scan.contentlen % 4294967296).toNat
          contentPos := len, bufPos := 0, bufLen := len, link := link, connected := true })
  else some (NETWORK_ERROR, ERROR, Stream.init buf link.close)

/-- A line ends at the first `CR LF` behind its start. -/
def IsLine (line : List UInt8) : Prop := ¬ [13, 10] <:+: line

/-- The part of a line that is in `linebuf` up to a zero. -/
def shown (line : List UInt8) : List UInt8 :=
  (line.take (CONN_STREAM_BUF_SIZE - 2)).takeWhile (· != 0)

/-- The length that is announced by header lines, each in the place of those before. -/
def announced (contentlen : Int) (headers : List (List UInt8)) : Int :=
  headers.foldl (fun length header =>
    (parseLineInt (shown header) (min header.length (CONN_STREAM_BUF_SIZE - 2)) contentLen).getD
      length) contentlen

def withEnds (lines : List (List UInt8)) : List UInt8 := lines.flatMap (· ++ [13, 10])

def AreHeaders (headers : List (List UInt8)) : Prop := ∀ line ∈ headers, IsLine line ∧ line ≠ []

namespace Scan

variable {scan : Scan} {line read : List UInt8}

/-- What has been read of the current line: `linebuf` has its first characters. -/
structure Holds (scan : Scan) (read : List UInt8) : Prop where
  size : scan.linebuf.length = 128
  pos : scan.linepos = min read.length 128
  text : scan.linebuf.take (min read.length 127) = read.take 127
  prev : scan.prevCh = 13 ↔ read.getLast? = some 13

structure SameLine (before after : Scan) : Prop where
  linenum : after.linenum = before.linenum
  statusCode : after.statusCode = before.statusCode
  contentlen : after.contentlen = before.contentlen

theorem SameLine.trans {first second third : Scan} (one : SameLine first second)
    (two : SameLine second third) : SameLine first third :=
  ⟨two.linenum.trans one.linenum, two.statusCode.trans one.statusCode,
    two.contentlen.trans one.contentlen⟩

theorem store_holds (holds : scan.Holds read) (curCh : UInt8) :
    ∃ buf, scan.store curCh =
        some { scan with linebuf := buf, linepos := min (read.length + 1) 128 } ∧
      buf.length = 128 ∧
      buf.take (min (read.length + 1) 127) = (read ++ [curCh]).take 127 := by
  have size := holds.size
  have text := holds.text
  by_cases room : read.length < 128
  · have pos : scan.linepos = read.length := by
      rw [holds.pos]
      omega
    refine ⟨scan.linebuf.set read.length curCh, ?_, by rw [length_set, size], ?_⟩
    · rw [store, if_pos (by rw [pos]; exact room), put, if_pos (by rw [pos, size]; exact room), pos]
      have next : min (read.length + 1) 128 = read.length + 1 := by omega
      rw [next]
      rfl
    · by_cases inside : read.length < 127
      · have whole : min read.length 127 = read.length := by omega
        have all : read.take 127 = read := take_of_length_le (le_of_lt inside)
        have longer : (read ++ [curCh]).take 127 = read ++ [curCh] := by
          apply take_of_length_le
          rw [length_append, length_singleton]
          exact inside
        rw [whole, all] at text
        rw [show min (read.length + 1) 127 = read.length + 1 by omega, longer,
          take_succ_eq_append_getElem (by rw [length_set, size]; exact room),
          take_set_of_le (le_refl _), text, getElem_set_self]
      · have last : read.length = 127 := by omega
        rw [last] at text ⊢
        rw [show min (127 + 1) 127 = 127 by omega, take_set_of_le (by omega),
          take_append_of_le_length (by omega)]
        exact text
  · refine ⟨scan.linebuf.set 127 0, ?_, by rw [length_set, size], ?_⟩
    · have pos : scan.linepos = 128 := by
        rw [holds.pos]
        omega
      rw [store, if_neg (by rw [pos]; decide), put, if_pos (by rw [size]; decide)]
      have next : min (read.length + 1) 128 = scan.linepos := by omega
      rw [next]
      rfl
    · rw [show min (read.length + 1) 127 = 127 by omega, take_set_of_le (by omega),
        take_append_of_le_length (by omega)]
      rwa [show min read.length 127 = 127 by omega] at text

theorem char_reading (holds : scan.Holds read) {curCh : UInt8}
    (within : ¬ (read.getLast? = some 13 ∧ curCh = 10)) :
    ∃ later, scan.char curCh = some (.reading later) ∧ later.Holds (read ++ [curCh]) ∧
      SameLine scan later := by
  obtain ⟨buf, stored, size, text⟩ := store_holds holds curCh
  have length : (read ++ [curCh]).length = read.length + 1 := by
    rw [length_append, length_singleton]
  refine ⟨{ scan with linebuf := buf, linepos := min (read.length + 1) 128, prevCh := curCh }, ?_,
    ⟨size, by rw [length], by rw [length]; exact text, ?_⟩, rfl, rfl, rfl⟩
  · rw [char, stored]
    exact if_neg fun ended => within ⟨holds.prev.mp ended.1, ended.2⟩
  · rw [List.getLast?_concat, Option.some_inj]

/-- The scan with a whole line in `linebuf`. -/
structure Ended (scan : Scan) (line : List UInt8) : Prop where
  size : scan.linebuf.length = 128
  pos : scan.linepos = min line.length 126
  text : cString scan.linebuf = some (shown line)
  prev : scan.prevCh = 10

theorem cString_set {buf : List UInt8} {index : Nat} (inside : index < buf.length) :
    cString (buf.set index 0) = some ((buf.take index).takeWhile (· != 0)) := by
  rw [cString, set_eq_take_append_cons_drop, if_pos inside,
    if_pos (mem_append_right _ mem_cons_self), takeWhile_append]
  split
  · rename_i whole
    rw [takeWhile_cons_of_neg (by decide), append_nil]
    exact congrArg some (List.Sublist.eq_of_length (takeWhile_sublist _) whole).symm
  · rfl

theorem char_line (holds : scan.Holds (line ++ [13])) :
    ∃ ended, scan.char 10 = ended.line ∧ ended.Ended line ∧ SameLine scan ended := by
  obtain ⟨buf, stored, size, text⟩ := store_holds holds 10
  have length : (line ++ [13]).length = line.length + 1 := by
    rw [length_append, length_singleton]
  rw [length] at stored text
  have index : min (line.length + 1 + 1) 128 - 2 = min line.length 126 := by omega
  refine ⟨{ scan with
    linebuf := buf.set (min line.length 126) 0, linepos := min line.length 126, prevCh := 10 }, ?_,
    ⟨by rw [length_set, size], rfl, ?_, rfl⟩, rfl, rfl, rfl⟩
  · rw [char, stored]
    simp only [Option.bind_eq_bind, Option.bind_some, index]
    rw [if_pos ⟨holds.prev.mpr List.getLast?_concat, trivial⟩, if_pos (by omega),
      if_pos (show min (line.length + 1 + 1) 128 ≤ CONN_STREAM_BUF_SIZE from Nat.min_le_right _ _),
      put, if_pos (by dsimp only; omega)]
    rfl
  · dsimp only
    rw [cString_set (by omega), shown]
    congr 2
    have both := congrArg (List.take (min line.length 126)) text
    have inner : min (min line.length 126) (min (line.length + 1 + 1) 127) =
      min line.length 126 := by
      omega
    have outer : min (min line.length 126) 127 = min line.length 126 := by omega
    rw [take_take, take_take, inner, outer, append_assoc,
      take_append_of_le_length (Nat.min_le_left _ _)] at both
    rw [both]
    rcases Nat.le_total line.length 126 with short | long
    · rw [Nat.min_eq_left short, take_length]
      exact (take_of_length_le short).symm
    · rw [Nat.min_eq_right long]
      rfl

theorem chars_append (scan : Scan) (first second : List UInt8) :
    scan.chars (first ++ second) = (scan.chars first).bind fun scanned =>
      match scanned.1 with
      | .reading later => later.chars second
      | .invalid later => some (.invalid later, scanned.2 ++ second)
      | .content later => some (.content later, scanned.2 ++ second) := by
  induction first generalizing scan with
  | nil => rfl
  | cons curCh first ih =>
    rw [cons_append, chars, chars]
    cases moved : scan.char curCh with
    | none => rfl
    | some progress =>
      cases progress with
      | reading later => exact ih later
      | invalid later => rfl
      | content later => rfl

theorem chars_text (text : List UInt8) (holds : scan.Holds read) (isLine : IsLine (read ++ text)) :
    ∃ later, scan.chars text = some (.reading later, []) ∧ later.Holds (read ++ text) ∧
      SameLine scan later := by
  induction text generalizing scan read with
  | nil =>
    rw [append_nil]
    exact ⟨scan, rfl, holds, rfl, rfl, rfl⟩
  | cons curCh text ih =>
    have within : ¬ (read.getLast? = some 13 ∧ curCh = 10) := by
      rintro ⟨last, rfl⟩
      obtain ⟨front, rfl⟩ := List.getLast?_eq_some_iff.mp last
      exact isLine ⟨front, text, by simp⟩
    obtain ⟨next, moved, held, same⟩ := char_reading holds within
    rw [append_cons] at isLine
    obtain ⟨later, scanned, further, again⟩ := ih held isLine
    refine ⟨later, ?_, ?_, same.trans again⟩
    · rw [chars, moved]
      exact scanned
    · rwa [← append_cons] at further

theorem isLine_cr (isLine : IsLine line) : IsLine (line ++ [13]) := by
  rintro ⟨before, after, split⟩
  rcases eq_nil_or_concat after with rfl | ⟨after, last, rfl⟩
  · have ends := congrArg List.getLast? split
    simp at ends
  · rw [concat_eq_append, ← append_assoc] at split
    have front := append_inj_left' split rfl
    exact isLine ⟨before, after, front⟩

structure Fresh (scan : Scan) : Prop where
  size : scan.linebuf.length = 128
  pos : scan.linepos = 0
  prev : scan.prevCh ≠ 13

theorem Fresh.holds (fresh : scan.Fresh) : scan.Holds [] :=
  ⟨fresh.size, fresh.pos, rfl, by simp [fresh.prev]⟩

theorem Fresh.start {linebuf : List UInt8} (size : linebuf.length = CONN_STREAM_BUF_SIZE) :
    (Scan.start linebuf).Fresh :=
  ⟨size, rfl, show (0 : UInt8) ≠ 13 by decide⟩

theorem chars_line (fresh : scan.Fresh) (isLine : IsLine line) (rest : List UInt8) :
    ∃ ended : Scan, ended.Ended line ∧ SameLine scan ended ∧
      scan.chars (line ++ 13 :: 10 :: rest) = ended.line.bind fun progress =>
        match progress with
        | .reading later => later.chars rest
        | .invalid later => some (.invalid later, rest)
        | .content later => some (.content later, rest) := by
  obtain ⟨returned, scanned, holds, same⟩ :=
    chars_text (line ++ [13]) fresh.holds (isLine_cr isLine)
  obtain ⟨ended, moved, whole, again⟩ := char_line holds
  refine ⟨ended, whole, same.trans again, ?_⟩
  have split : line ++ 13 :: 10 :: rest = (line ++ [13]) ++ 10 :: rest := by simp
  rw [split, chars_append, scanned]
  show returned.chars (10 :: rest) = _
  rw [chars, moved]
  rfl

theorem Ended.text_eq (ended : scan.Ended line) :
    scan.line =
      if scan.linenum = 0 then
        match scanStatus scan.statusCode (shown line) with
        | .overrun => none
        | .missed code => some (.invalid { scan with statusCode := code })
        | .read code => some (.reading { scan with
            statusCode := code, linepos := 0, linenum := scan.linenum + 1 })
      else if scan.linepos = 0 then some (.content scan)
      else
        some (.reading { scan with
          contentlen :=
            (parseLineInt (shown line) scan.linepos contentLen).getD scan.contentlen
          linepos := 0, linenum := scan.linenum + 1 }) := by
  rw [Scan.line, ended.text]
  rfl

theorem Ended.fresh (ended : scan.Ended line) : scan.prevCh ≠ 13 := by
  rw [ended.prev]
  decide

section

variable (fresh : scan.Fresh) (first : scan.linenum = 0) (isLine : IsLine line)
include fresh first isLine

theorem chars_status {code : Int} (reads : scanStatus scan.statusCode (shown line) = .read code)
    (rest : List UInt8) :
    ∃ later : Scan, scan.chars (line ++ 13 :: 10 :: rest) = later.chars rest ∧ later.Fresh ∧
      later.linenum ≠ 0 ∧ later.statusCode = code ∧ later.contentlen = scan.contentlen := by
  obtain ⟨ended, whole, same, scanned⟩ := chars_line fresh isLine rest
  rw [scanned, whole.text_eq, if_pos (same.linenum.trans first), same.statusCode, reads]
  exact ⟨_, rfl, ⟨whole.size, rfl, whole.fresh⟩, Nat.succ_ne_zero _, rfl, same.contentlen⟩

theorem chars_status_missed {code : Int}
    (misses : scanStatus scan.statusCode (shown line) = .missed code) (rest : List UInt8) :
    ∃ later, scan.chars (line ++ 13 :: 10 :: rest) = some (.invalid later, rest) := by
  obtain ⟨ended, whole, same, scanned⟩ := chars_line fresh isLine rest
  rw [scanned, whole.text_eq, if_pos (same.linenum.trans first), same.statusCode, misses]
  exact ⟨_, rfl⟩

theorem chars_status_overrun (overruns : scanStatus scan.statusCode (shown line) = .overrun)
    (rest : List UInt8) : scan.chars (line ++ 13 :: 10 :: rest) = none := by
  obtain ⟨ended, whole, same, scanned⟩ := chars_line fresh isLine rest
  rw [scanned, whole.text_eq, if_pos (same.linenum.trans first), same.statusCode, overruns]
  rfl

end

section

variable (fresh : scan.Fresh) (header : scan.linenum ≠ 0)
include fresh header

theorem chars_header (isLine : IsLine line) (nonempty : line ≠ []) (rest : List UInt8) :
    ∃ later : Scan, scan.chars (line ++ 13 :: 10 :: rest) = later.chars rest ∧ later.Fresh ∧
      later.linenum ≠ 0 ∧ later.statusCode = scan.statusCode ∧
      later.contentlen = announced scan.contentlen [line] := by
  obtain ⟨ended, whole, same, scanned⟩ := chars_line fresh isLine rest
  have long : ended.linepos ≠ 0 := by
    have some := length_pos_iff.mpr nonempty
    rw [whole.pos]
    omega
  rw [scanned, whole.text_eq, if_neg (same.linenum ▸ header), if_neg long]
  refine ⟨_, rfl, ⟨whole.size, rfl, whole.fresh⟩, Nat.succ_ne_zero _, same.statusCode, ?_⟩
  rw [whole.pos, same.contentlen]
  rfl

theorem chars_empty (rest : List UInt8) :
    ∃ later : Scan, scan.chars (13 :: 10 :: rest) = some (.content later, rest) ∧
      later.statusCode = scan.statusCode ∧ later.contentlen = scan.contentlen := by
  have isLine : IsLine [] := by
    rintro ⟨before, after, split⟩
    simp at split
  obtain ⟨ended, whole, same, scanned⟩ := chars_line fresh isLine rest
  refine ⟨ended, ?_, same.statusCode, same.contentlen⟩
  refine scanned.trans ?_
  rw [whole.text_eq, if_neg (same.linenum ▸ header), if_pos (by rw [whole.pos]; rfl)]
  rfl

/-- Header lines are read up to the line behind them. -/
theorem chars_headers {headers : List (List UInt8)} (areHeaders : AreHeaders headers)
    (rest : List UInt8) :
    ∃ later : Scan, scan.chars (withEnds headers ++ rest) = later.chars rest ∧ later.Fresh ∧
      later.linenum ≠ 0 ∧ later.statusCode = scan.statusCode ∧
      later.contentlen = announced scan.contentlen headers := by
  induction headers generalizing scan with
  | nil => exact ⟨scan, rfl, fresh, header, rfl, rfl⟩
  | cons line headers ih =>
    have isHeader := areHeaders line mem_cons_self
    obtain ⟨next, moved, anew, further, code, length⟩ :=
      chars_header fresh header isHeader.1 isHeader.2 (withEnds headers ++ rest)
    obtain ⟨later, scanned, again, still, same, whole⟩ :=
      ih anew further fun line isIn => areHeaders line (mem_cons_of_mem _ isIn)
    refine ⟨later, ?_, again, still, same.trans code, ?_⟩
    · have split : withEnds (line :: headers) ++ rest =
          line ++ 13 :: 10 :: (withEnds headers ++ rest) := by
        simp [withEnds]
      rw [split, moved, scanned]
    · rw [whole, length]
      rfl

end

end Scan

end Thingsee.Http
