import Thingsee.Http.Response
import Thingsee.Support.Numerals

/-!
Owns the result of reading a response, for any splitting of its bytes into reads: the
header ends where it ends in the whole text, and the stream behind it returns the
bytes that follow.

`chunks` are the reads in which a link delivers. The scan of the header is followed
over a list of chunks (`readChunks`), which on the one hand is the loop over the reads
(`readHeader_agrees`), and on the other hand the scan of the whole text.
-/

namespace Thingsee.Http

open Support Scan List

/-- The reads of the header loop in which a link delivers, as long as it does. -/
def Link.chunks : Nat → Link → List (List UInt8)
  | 0, _ => []
  | turns + 1, link =>
    let answer := link.read CONN_STREAM_BUF_SIZE
    if answer.1 = [] then [] else answer.1 :: chunks turns answer.2

/-- The scan of a list of reads; behind the last one, the connection ends. -/
def readChunks : Scan → List (List UInt8) → Option (Progress × List UInt8)
  | scan, [] => some (.invalid scan, [])
  | scan, chunk :: more => (scan.chars chunk).bind fun scanned =>
    match scanned.1 with
    | .reading later => readChunks later more
    | .invalid later => some (.invalid later, scanned.2)
    | .content later => some (.content later, scanned.2)

/-- The part behind a number of bytes of the chunk in which the last of them is. -/
def tailAt : List (List UInt8) → Nat → List UInt8
  | [], _ => []
  | chunk :: more, count =>
    if count ≤ chunk.length then chunk.drop count else tailAt more (count - chunk.length)

variable {chunks : List (List UInt8)} {rest : List UInt8}

theorem Scan.chars_reading {scan later : Scan} {text : List UInt8}
    (scanned : scan.chars text = some (.reading later, rest)) : rest = [] := by
  induction text generalizing scan with
  | nil =>
    cases scanned
    rfl
  | cons curCh text ih =>
    rw [chars] at scanned
    cases moved : scan.char curCh with
    | none =>
      rw [moved] at scanned
      cases scanned
    | some next =>
      rw [moved] at scanned
      cases next with
      | reading next => exact ih scanned
      | invalid next => cases scanned
      | content next => cases scanned

theorem Scan.chars_content {scan later : Scan} {text : List UInt8}
    (scanned : scan.chars text = some (.content later, rest)) :
    ∃ front, front ≠ [] ∧ text = front ++ rest := by
  induction text generalizing scan with
  | nil => cases scanned
  | cons curCh text ih =>
    rw [chars] at scanned
    cases moved : scan.char curCh with
    | none =>
      rw [moved] at scanned
      cases scanned
    | some next =>
      rw [moved] at scanned
      cases next with
      | reading next =>
        obtain ⟨front, _, split⟩ := ih scanned
        exact ⟨curCh :: front, cons_ne_nil _ _, congrArg (curCh :: ·) split⟩
      | invalid next => cases scanned
      | content next =>
        cases scanned
        exact ⟨[curCh], cons_ne_nil _ _, rfl⟩

/-- How the loop over the reads ends, for a result over the chunks. -/
inductive Agrees (scan : Scan) (link : Link) :
    Option (Progress × List UInt8) → Option Header → Prop where
  | overrun : Agrees scan link none none
  | invalid {later : Scan} {tail inbuf : List UInt8} {further : Link}
      (size : inbuf.length = CONN_STREAM_BUF_SIZE) :
      Agrees scan link (some (.invalid later, tail)) (some (.invalid later inbuf further))
  | content {later : Scan} {front tail inbuf : List UInt8} {further : Link}
      (size : inbuf.length = CONN_STREAM_BUF_SIZE) (short : tail.length ≤ CONN_STREAM_BUF_SIZE)
      (text : inbuf.take tail.length = tail) (opened : further.isOpen = link.isOpen)
      (splits : further.splits = link.splits)
      (split : link.incoming = front ++ tail ++ further.incoming)
      (scanned : scan.chars (front ++ tail) = some (.content later, tail)) :
      Agrees scan link (some (.content later, tail))
        (some (.content later inbuf tail.length further))

theorem Agrees.read {scan next : Scan} {link : Link} {len : Nat} {chunk : List UInt8}
    {result : Option (Progress × List UInt8)} {header : Option Header}
    (agrees : Agrees next (link.read len).2 result header) (chunk_eq : (link.read len).1 = chunk)
    (moved : scan.chars chunk = some (.reading next, [])) : Agrees scan link result header := by
  cases agrees with
  | overrun => exact .overrun
  | invalid size => exact .invalid size
  | @content later front tail inbuf further size short text opened splits split scanned =>
    have whole : link.incoming = (chunk ++ front) ++ tail ++ further.incoming := by
      rw [← link.read_append len, chunk_eq, split]
      simp
    refine .content size short text opened splits whole ?_
    rw [append_assoc, chars_append, moved]
    exact scanned

theorem readHeader_agrees {turns : Nat} {scan : Scan} {inbuf : List UInt8} {link : Link}
    (enough : link.incoming.length < turns) (size : inbuf.length = CONN_STREAM_BUF_SIZE) :
    Agrees scan link (readChunks scan (link.chunks turns)) (readHeader turns scan inbuf link) := by
  induction turns generalizing scan inbuf link with
  | zero => exact absurd enough (Nat.not_lt_zero _)
  | succ turns ih =>
    rw [readHeader, Link.chunks]
    by_cases empty : (link.read CONN_STREAM_BUF_SIZE).1 = []
    · simp only [if_pos empty]
      exact .invalid size
    simp only [if_neg empty]
    have short := link.read_length CONN_STREAM_BUF_SIZE
    have whole := link.read_append CONN_STREAM_BUF_SIZE
    generalize chunk_eq : (link.read CONN_STREAM_BUF_SIZE).1 = chunk at empty short whole
    have fits : chunk.length ≤ inbuf.length := by rwa [size]
    have filled := fill_length fits
    rw [size] at filled
    rw [readChunks, fill_eq fits]
    show Agrees scan link _ ((scan.chars chunk).bind _)
    cases moved : scan.chars chunk with
    | none => exact .overrun
    | some scanned =>
      obtain ⟨progress, rest⟩ := scanned
      cases progress with
      | reading next =>
        obtain rfl := chars_reading moved
        have fewer : (link.read CONN_STREAM_BUF_SIZE).2.incoming.length < turns := by
          have some := length_pos_iff.mpr empty
          rw [← whole, length_append] at enough
          omega
        exact (ih fewer filled).read chunk_eq moved
      | invalid later => exact .invalid filled
      | content later =>
        obtain ⟨front, _, split⟩ := chars_content moved
        have inside : rest.length ≤ chunk.length := by
          rw [split, length_append]
          omega
        have fitting : rest.length ≤ (chunk ++ inbuf.drop chunk.length).length := by
          rw [filled]
          omega
        dsimp only [Option.bind_some]
        rw [fill_eq fitting]
        rw [split] at whole moved
        exact .content (by rw [fill_length fitting, filled]) (inside.trans short)
          take_left rfl rfl whole.symm moved

/-- Chunks are scanned as their concatenation is, up to the body. -/
theorem readChunks_content {scan later : Scan}
    (scanned : scan.chars chunks.flatten = some (.content later, rest)) :
    readChunks scan chunks =
      some (.content later, tailAt chunks (chunks.flatten.length - rest.length)) := by
  induction chunks generalizing scan with
  | nil => cases scanned
  | cons chunk more ih =>
    rw [flatten_cons, chars_append] at scanned
    rw [readChunks, tailAt, flatten_cons, length_append]
    cases moved : scan.chars chunk with
    | none =>
      rw [moved] at scanned
      cases scanned
    | some result =>
      obtain ⟨progress, behind⟩ := result
      rw [moved] at scanned
      cases progress with
      | reading next =>
        have further : next.chars more.flatten = some (.content later, rest) := scanned
        obtain ⟨front, nonempty, split⟩ := chars_content further
        have long : rest.length < more.flatten.length := by
          have some := length_pos_iff.mpr nonempty
          rw [split, length_append]
          omega
        rw [if_neg (by omega)]
        refine (ih further).trans ?_
        congr 3
        omega
      | invalid next => cases scanned
      | content next =>
        cases scanned
        obtain ⟨front, _, split⟩ := chars_content moved
        rw [length_append, if_pos (by rw [split, length_append]; omega)]
        show some (Progress.content later, behind) = _
        congr 2
        rw [split, length_append,
          show front.length + behind.length + more.flatten.length -
            (behind.length + more.flatten.length) = front.length by omega,
          drop_left]

theorem readChunks_none {scan : Scan} (scanned : scan.chars chunks.flatten = none) :
    readChunks scan chunks = none := by
  induction chunks generalizing scan with
  | nil => cases scanned
  | cons chunk more ih =>
    rw [flatten_cons, chars_append] at scanned
    rw [readChunks]
    cases moved : scan.chars chunk with
    | none => rfl
    | some result =>
      obtain ⟨progress, behind⟩ := result
      rw [moved] at scanned
      cases progress with
      | reading next => exact ih scanned
      | invalid next => cases scanned
      | content next => cases scanned

theorem readChunks_invalid {scan : Scan} {progress : Progress}
    (scanned : scan.chars chunks.flatten = some (progress, rest))
    (noContent : ∀ later, progress ≠ .content later) :
    ∃ later tail, readChunks scan chunks = some (.invalid later, tail) := by
  induction chunks generalizing scan with
  | nil => exact ⟨scan, [], rfl⟩
  | cons chunk more ih =>
    rw [flatten_cons, chars_append] at scanned
    rw [readChunks]
    cases moved : scan.chars chunk with
    | none =>
      rw [moved] at scanned
      cases scanned
    | some result =>
      obtain ⟨next, behind⟩ := result
      rw [moved] at scanned
      cases next with
      | reading next => exact ih scanned
      | invalid next => exact ⟨next, behind, rfl⟩
      | content next =>
        cases scanned
        exact absurd rfl (noContent next)

theorem Link.chunks_flatten {turns : Nat} {link : Link} (enough : link.incoming.length < turns)
    (opened : link.isOpen = true) (delivers : ∀ read, 0 < link.splits read) :
    (link.chunks turns).flatten = link.incoming := by
  induction turns generalizing link with
  | zero => exact absurd enough (Nat.not_lt_zero _)
  | succ turns ih =>
    have whole := link.read_append CONN_STREAM_BUF_SIZE
    rw [chunks]
    by_cases empty : (link.read CONN_STREAM_BUF_SIZE).1 = []
    · simp only [if_pos empty]
      by_contra some
      exact link.read_nonempty opened (by decide) (delivers _) (Ne.symm some) empty
    · simp only [if_neg empty]
      have some := length_pos_iff.mpr empty
      have fewer : (link.read CONN_STREAM_BUF_SIZE).2.incoming.length < turns := by
        rw [← whole, length_append] at enough
        omega
      rw [flatten_cons, ih fewer opened delivers]
      exact whole

namespace Stream

theorem getc_next {stream : Stream} (ready : stream.Ready)
    (delivers : ∀ read, 0 < stream.link.splits read) (owed : 0 < stream.owed)
    {char : UInt8} {rest : List UInt8} (left : stream.left = char :: rest) :
    ∃ later : Stream, stream.getc = some (char, later) ∧ later.Ready ∧ later.left = rest ∧
      later.owed + 1 = stream.owed ∧ later.link.splits = stream.link.splits := by
  have inside := ready.inside
  rcases Nat.lt_or_ge stream.bufPos stream.bufLen with buffered | empty
  · obtain ⟨first, others, text, moved, behind⟩ := getc_buffered ready buffered
    rw [Stream.left, text, cons_append] at left
    obtain ⟨rfl, rfl⟩ := List.cons.inj left
    refine ⟨_, moved, ⟨ready.size, buffered, ready.within, ready.linked⟩, ?_, ?_, rfl⟩
    · rw [Stream.left, behind]
    · simp only [Stream.owed]
      omega
  · have missing : stream.contentPos < stream.maxContentLen := by
      rw [Stream.owed] at owed
      omega
    have same : stream.bufPos = stream.bufLen := le_antisymm inside empty
    have nothing : (stream.buf.take stream.bufLen).drop stream.bufPos = [] := by
      rw [drop_eq_nil_iff, length_take]
      omega
    rw [Stream.left, nothing, nil_append] at left
    have asks : 0 < stream.currlen := by
      rw [currlen, CONN_STREAM_BUF_SIZE]
      omega
    have answered := stream.link.read_nonempty (ready.linked missing).2 asks (delivers _)
      (by rw [left]; exact cons_ne_nil _ _)
    have whole := stream.link.read_append stream.currlen
    obtain ⟨first, others, answer⟩ := exists_cons_of_ne_nil answered
    rw [answer, left, cons_append] at whole
    obtain ⟨rfl, rfl⟩ := List.cons.inj whole
    obtain ⟨later, moved, again, len, pos, text, incoming, _, splits, most, content⟩ :=
      getc_delivered ready empty missing answer
    refine ⟨later, moved, again, ?_, ?_, splits⟩
    · rw [Stream.left, text, incoming]
    · have bounds := stream.currlen_le
      have short := stream.link.read_length stream.currlen
      rw [answer, length_cons] at short
      simp only [Stream.owed, len, pos, most, content]
      omega

theorem getcs_left {count : Nat} {stream : Stream} (ready : stream.Ready)
    (delivers : ∀ read, 0 < stream.link.splits read) (owed : count ≤ stream.owed)
    (enough : count ≤ stream.left.length) :
    ∃ later, getcs count stream = some (stream.left.take count, later) := by
  induction count generalizing stream with
  | zero => exact ⟨stream, rfl⟩
  | succ count ih =>
    cases left : stream.left with
    | nil =>
      rw [left] at enough
      cases enough
    | cons char rest =>
      obtain ⟨next, moved, again, behind, fewer, splits⟩ :=
        getc_next ready delivers (by omega) left
      rw [left, length_cons] at enough
      obtain ⟨later, further⟩ := ih again (by rw [splits]; exact delivers) (by omega)
        (by rw [behind]; omega)
      refine ⟨later, ?_⟩
      rw [getcs, moved]
      show (getcs count next).bind _ = _
      rw [further, behind]
      rfl

end Stream

/-- A status line: the version, a code, and text that does not go on with digits. The
number is within what `linebuf` holds, and there it is not followed by white space
only. -/
structure StatusLine (line : List UInt8) (code : Int) : Prop where
  isLine : IsLine line
  parts : ∃ spaces number reason, line = httpVersion ++ spaces ++ number ++ reason ∧
    (∀ char ∈ spaces, isSpace char = true) ∧ Numeral number code ∧ Stops reason ∧
    httpVersion.length + spaces.length + number.length ≤ CONN_STREAM_BUF_SIZE - 2 ∧
    let kept := (reason.take (CONN_STREAM_BUF_SIZE - 2 -
      (httpVersion.length + spaces.length + number.length))).takeWhile (· != 0)
    (kept = [] ∨ ∃ char ∈ kept, isSpace char = false)
  fits : -2147483648 ≤ code ∧ code < 2147483648

/-- Header lines, the last `Content-Length` of which announces a length, within what
`linebuf` holds. -/
structure Announces (headers : List (List UInt8)) (length : Nat) : Prop where
  areHeaders : AreHeaders headers
  parts : ∃ before name spaces number rest after,
    headers = before ++ (name ++ spaces ++ number ++ rest) :: after ∧
    name.map toupper = contentLen ∧ (∀ char ∈ spaces, isSpace char = true) ∧
    Numeral number length ∧ Stops rest ∧
    name.length + spaces.length + number.length ≤ CONN_STREAM_BUF_SIZE - 2 ∧
    ∀ line ∈ after, (line.take contentLen.length).map toupper ≠ contentLen
  fits : length < 2147483648

def response (statusLine : List UInt8) (headers : List (List UInt8)) (body : List UInt8) :
    List UInt8 :=
  statusLine ++ 13 :: 10 :: (withEnds headers ++ 13 :: 10 :: body)

theorem shown_append {front rest : List UInt8} (short : front.length ≤ CONN_STREAM_BUF_SIZE - 2)
    (noZero : ∀ char ∈ front, char ≠ 0) :
    shown (front ++ rest) = front ++
      (rest.take (CONN_STREAM_BUF_SIZE - 2 - front.length)).takeWhile (· != 0) := by
  rw [shown, take_append, take_of_length_le short,
    takeWhile_append_of_pos fun char isIn => bne_iff_ne.mpr (noZero char isIn)]

theorem afterLiteral_append (format rest : List UInt8)
    (visible : ∀ char ∈ format, isSpace char = false) :
    afterLiteral format (format ++ rest) = some rest := by
  induction format with
  | nil => rfl
  | cons char format ih =>
    rw [afterLiteral, cons_append,
      dropWhile_isSpace rfl (visible char mem_cons_self)]
    dsimp only
    rw [if_pos rfl, ih fun char isIn => visible char (mem_cons_of_mem _ isIn)]

theorem scanCode_numeral {number rest : List UInt8} {code : Int} (numeral : Numeral number code)
    (stops : Stops rest) (short : (number ++ rest).length ≤ 127)
    (visible : rest = [] ∨ ∃ char ∈ rest, isSpace char = false)
    (fits : -2147483648 ≤ code ∧ code < 2147483648) : scanCode (number ++ rest) = .read code := by
  have all : ∀ char ∈ number, (!isSpace char) = true := fun char isIn => by
    rw [(numeral.visible char isIn).2]
    rfl
  have split : (number ++ rest).takeWhile (fun char => !isSpace char) =
      number ++ rest.takeWhile fun char => !isSpace char :=
    takeWhile_append_of_pos all
  have token : (number ++ rest).take (min 127 (findWidth [] (number ++ rest))) =
      number ++ rest.takeWhile fun char => !isSpace char := by
    have width : findWidth [] (number ++ rest) =
        ((number ++ rest).takeWhile fun char => !isSpace char).length := rfl
    have start : (number ++ rest).takeWhile (fun char => !isSpace char) <+: number ++ rest :=
      takeWhile_prefix _
    rw [width, Nat.min_eq_right (start.length_le.trans short), ← split]
    exact (prefix_iff_eq_take.mp start).symm
  have stopping : Stops (rest.takeWhile fun char => !isSpace char) :=
    stops.start ( takeWhile_prefix _)
  have used := numeral.numberLength stopping
  have some := length_pos_iff.mpr numeral.nonempty
  have goesOn : ¬ (rest ≠ [] ∧ rest.all isSpace = true) := by
    rintro ⟨nonempty, white⟩
    rcases visible with empty | ⟨char, isIn, visible⟩
    · exact nonempty empty
    · rw [all_eq_true.mp white char isIn] at visible
      cases visible
  simp only [scanCode, token, used, drop_left]
  rw [if_neg (by omega), if_neg goesOn, numeral.strtol stopping,
    toSigned_of_range 31 (by omega) (by omega)]

theorem httpVersion_visible : ∀ char ∈ httpVersion, isSpace char = false := by
  have all : (httpVersion.all fun char => !isSpace char) = true := rfl
  exact fun char isIn => Bool.not_eq_true' _ ▸ all_eq_true.mp all char isIn

variable {line : List UInt8} {headers : List (List UInt8)}

theorem StatusLine.scanStatus {code : Int} (statusLine : StatusLine line code) (before : Int) :
    Http.scanStatus before (shown line) = .read code := by
  obtain ⟨spaces, number, reason, rfl, white, numeral, stops, short, visible⟩ := statusLine.parts
  have spaceNonzero (char : UInt8) (space : isSpace char = true) : char ≠ 0 := by
    rintro rfl
    exact absurd space (by decide)
  have noZero : ∀ char ∈ httpVersion ++ spaces ++ number, char ≠ 0 := by
    intro char isIn
    rcases mem_append.mp isIn with isIn | isIn
    · rcases mem_append.mp isIn with isIn | isIn
      · rintro rfl
        exact absurd isIn (by decide)
      · exact spaceNonzero char (white char isIn)
    · exact (numeral.visible char isIn).1
  have length : (httpVersion ++ spaces ++ number).length =
      httpVersion.length + spaces.length + number.length := by
    rw [length_append, length_append]
  rw [shown_append (length.trans_le short) noZero, length]
  have stopping := stops.start (( takeWhile_prefix (· != 0)).trans ( take_prefix
    (CONN_STREAM_BUF_SIZE - 2 - (httpVersion.length + spaces.length + number.length)) reason))
  have bound : (((reason.take (CONN_STREAM_BUF_SIZE - 2 -
      (httpVersion.length + spaces.length + number.length))).takeWhile (· != 0))).length ≤
      CONN_STREAM_BUF_SIZE - 2 - (httpVersion.length + spaces.length + number.length) :=
    ((takeWhile_sublist _).length_le).trans (length_take_le _ _)
  generalize (reason.take (CONN_STREAM_BUF_SIZE - 2 -
    (httpVersion.length + spaces.length + number.length))).takeWhile (· != 0) = kept
    at visible stopping bound
  have whole : (number ++ kept).length ≤ 127 := by
    rw [length_append]
    rw [CONN_STREAM_BUF_SIZE] at bound short
    omega
  have nonempty : spaces ++ (number ++ kept) ≠ [] := by
    obtain ⟨first, others, rfl⟩ := exists_cons_of_ne_nil numeral.nonempty
    simp
  obtain ⟨first, others, heads⟩ := exists_cons_of_ne_nil nonempty
  have skipped : (spaces ++ (number ++ kept)).dropWhile isSpace = number ++ kept := by
    obtain ⟨first, others, rfl⟩ := exists_cons_of_ne_nil numeral.nonempty
    rw [dropWhile_append_of_pos white]
    exact dropWhile_isSpace rfl (numeral.visible first mem_cons_self).2
  rw [Http.scanStatus, append_assoc, append_assoc,
    afterLiteral_append _ _ httpVersion_visible, heads]
  dsimp only
  rw [← heads, skipped]
  exact scanCode_numeral numeral stopping whole visible statusLine.fits

theorem toupper_contentLen : contentLen.map toupper = contentLen := by decide

theorem parseLineInt_contentLen {name spaces number rest : List UInt8} {value : Int}
    (isName : name.map toupper = contentLen) (white : ∀ char ∈ spaces, isSpace char = true)
    (numeral : Numeral number value) (stops : Stops rest)
    (short : name.length + spaces.length + number.length ≤ CONN_STREAM_BUF_SIZE - 2)
    (fits : -2147483648 ≤ value ∧ value < 2147483648) :
    parseLineInt (shown (name ++ spaces ++ number ++ rest))
      (min (name ++ spaces ++ number ++ rest).length (CONN_STREAM_BUF_SIZE - 2)) contentLen =
        some value := by
  have noZero : ∀ char ∈ name ++ spaces ++ number, char ≠ 0 := by
    intro char isIn
    rcases mem_append.mp isIn with isIn | isIn
    · rcases mem_append.mp isIn with isIn | isIn
      · rintro rfl
        have upper := mem_map_of_mem (f := toupper) isIn
        rw [isName] at upper
        exact absurd upper (by decide)
      · rintro rfl
        exact absurd (white 0 isIn) (by decide)
    · exact (numeral.visible char isIn).1
  have length : (name ++ spaces ++ number).length =
      name.length + spaces.length + number.length := by
    rw [length_append, length_append]
  have nameLength : contentLen.length = name.length := by rw [← isName, length_map]
  have stopping := stops.start (( takeWhile_prefix (· != 0)).trans ( take_prefix
    (CONN_STREAM_BUF_SIZE - 2 - (name.length + spaces.length + number.length)) rest))
  rw [shown_append (length.trans_le short) noZero, length]
  generalize (rest.take (CONN_STREAM_BUF_SIZE - 2 -
    (name.length + spaces.length + number.length))).takeWhile (· != 0) = kept at stopping
  have long : min (name ++ spaces ++ number ++ rest).length (CONN_STREAM_BUF_SIZE - 2) ≥
      contentLen.length := by
    rw [length_append, length, nameLength]
    omega
  have begins : name ++ spaces ++ number ++ kept = name ++ (spaces ++ number ++ kept) := by simp
  have converting : converts (spaces ++ number ++ kept) = true := by
    cases spaces with
    | nil =>
      have some := length_pos_iff.mpr numeral.nonempty
      rw [converts, nil_append, numeral.numberLength stopping, Bool.or_eq_true]
      exact .inr (decide_eq_true (by omega))
    | cons space spaces =>
      rw [converts, Bool.or_eq_true]
      exact .inl (white space mem_cons_self)
  rw [parseLineInt, begins, nameLength, take_left, drop_left, isName,
    toupper_contentLen]
  rw [if_pos ⟨nameLength ▸ long, rfl⟩]
  simp only [converting, if_true]
  rw [numeral.signedOf white stopping, toSigned_of_range 31 (by omega) (by omega)]

theorem parseLineInt_other (linelen : Nat)
    (other : (line.take contentLen.length).map toupper ≠ contentLen) :
    parseLineInt (shown line) linelen contentLen = none := by
  rw [parseLineInt, toupper_contentLen, if_neg]
  rintro ⟨_, isName⟩
  have start : shown line <+: line := ( takeWhile_prefix _).trans ( take_prefix _ _)
  have whole : ((shown line).take contentLen.length).length = contentLen.length := by
    rw [← length_map (f := toupper), isName]
  have same : (shown line).take contentLen.length = line.take contentLen.length := by
    have longer := ( take_prefix contentLen.length (shown line)).trans start
    rw [prefix_iff_eq_take.mp longer, whole]
  rw [same] at isName
  exact other isName

theorem Announces.announced {length : Nat} (announces : Announces headers length) (before : Int) :
    Http.announced before headers = length := by
  obtain ⟨front, name, spaces, number, rest, after, rfl, isName, white, numeral, stops, short,
    others⟩ := announces.parts
  have fits := announces.fits
  rw [Http.announced, foldl_append, foldl_cons,
    parseLineInt_contentLen isName white numeral stops short (by omega)]
  generalize List.foldl _ before front = earlier
  rw [Option.getD_some]
  clear numeral announces
  induction after with
  | nil => rfl
  | cons line after ih =>
    rw [foldl_cons, parseLineInt_other _ (others line mem_cons_self)]
    exact ih fun line isIn => others line (mem_cons_of_mem _ isIn)

/-- The scanner reads status and length of a response and stops at its body. -/
theorem chars_response {code : Int} {linebuf : List UInt8}
    (size : linebuf.length = CONN_STREAM_BUF_SIZE) (isLine : IsLine line)
    (reads : scanStatus ERROR (shown line) = .read code) (areHeaders : AreHeaders headers)
    (body : List UInt8) :
    ∃ later, (Scan.start linebuf).chars (response line headers body) =
        some (.content later, body) ∧
      later.statusCode = code ∧ later.contentlen = announced 0 headers := by
  obtain ⟨next, moved, anew, header, read, length⟩ :=
    chars_status (Fresh.start size) rfl isLine reads (withEnds headers ++ 13 :: 10 :: body)
  obtain ⟨last, scanned, again, still, same, announced⟩ :=
    chars_headers anew header areHeaders (13 :: 10 :: body)
  obtain ⟨later, content, sameCode, sameLength⟩ := chars_empty again still body
  refine ⟨later, ?_, sameCode.trans (same.trans read), ?_⟩
  · rw [response, moved, scanned, content]
  · rw [sameLength, announced, length]
    rfl

/-- However a response arrives, it is read with its status code, and the stream returns
the bytes of its body. -/
theorem executeHttpRequest_response {statusLine : List UInt8} {code : Int}
    {headers : List (List UInt8)} {length : Nat} {body linebuf buf : List UInt8}
    {splits : Nat → Nat} (isStatus : StatusLine statusLine code)
    (announces : Announces headers length) (inBody : length ≤ body.length)
    (delivers : ∀ read, 0 < splits read) (sizeLine : linebuf.length = CONN_STREAM_BUF_SIZE)
    (sizeBuf : buf.length = CONN_STREAM_BUF_SIZE) :
    ∃ stream later,
      executeHttpRequest true linebuf buf ⟨response statusLine headers body, splits, [], true⟩ =
        some (OK, code, stream) ∧
      stream.getcs length = some (body.take length, later) := by
  obtain ⟨last, scanned, sameCode, sameLength⟩ :=
    chars_response sizeLine isStatus.isLine (isStatus.scanStatus ERROR) announces.areHeaders body
  rw [announces.announced] at sameLength
  let link : Link := ⟨response statusLine headers body, splits, [], true⟩
  have enough : link.incoming.length < link.incoming.length + 1 := Nat.lt_succ_self _
  have flat := Link.chunks_flatten enough rfl delivers
  have whole : (Scan.start linebuf).chars (link.chunks (link.incoming.length + 1)).flatten =
      some (.content last, body) := by
    rw [flat]
    exact scanned
  have agrees := @readHeader_agrees _ (Scan.start linebuf) buf link enough sizeBuf
  rw [readChunks_content whole] at agrees
  generalize tailAt (link.chunks (link.incoming.length + 1)) _ = tail at agrees
  generalize found : readHeader (link.incoming.length + 1) (Scan.start linebuf) buf link = header
    at agrees
  cases agrees with
  | @content later front tail inbuf further size short text opened same split read =>
    have behind : body = tail ++ further.incoming := by
      have again := scanned
      rw [show response statusLine headers body = link.incoming from rfl, split, chars_append,
        read] at again
      exact (Prod.mk.inj (Option.some.inj again)).2.symm
    let stream : Stream :=
      { buf := inbuf, maxContentLen := (last.contentlen % 4294967296).toNat
        contentPos := tail.length, bufPos := 0, bufLen := tail.length, link := further
        connected := true }
    have most : stream.maxContentLen = length := by
      have fits := announces.fits
      show (last.contentlen % 4294967296).toNat = length
      rw [sameLength]
      omega
    have left : stream.left = body := by
      show (inbuf.take tail.length).drop 0 ++ further.incoming = body
      rw [text, behind, drop_zero]
    have ready : stream.Ready := ⟨size, Nat.zero_le _, short, fun _ => ⟨rfl, opened⟩⟩
    have owed : length ≤ stream.owed := by
      show length ≤ tail.length - 0 + (stream.maxContentLen - tail.length)
      rw [most]
      omega
    have delivering : ∀ read, 0 < stream.link.splits read := by
      intro read
      rw [same]
      exact delivers read
    obtain ⟨final, returned⟩ :=
      stream.getcs_left ready delivering owed (by rw [left]; exact inBody)
    rw [left] at returned
    refine ⟨stream, final, ?_, returned⟩
    rw [executeHttpRequest, if_pos rfl, ← sameCode]
    rw [found]
    rfl

/-- The status line `HTTP/1.1 200 OK`. -/
def okLine : List UInt8 := httpVersion ++ [32, 50, 48, 48, 32, 79, 75]

theorem okLine_statusLine : StatusLine okLine 200 where
  isLine := by
    rw [IsLine]
    decide
  parts := ⟨[32], [50, 48, 48], [32, 79, 75], rfl, all_eq_true.mp rfl,
    .plain (.of_all (cons_ne_nil _ _) rfl), by rintro _ ⟨⟩; decide, by decide,
    .inr ⟨79, by decide, by decide⟩⟩
  fits := by decide

/-- The header line `Content-Length: 2`. -/
def twoLine : List UInt8 :=
  [67, 111, 110, 116, 101, 110, 116, 45, 76, 101, 110, 103, 116, 104, 58, 32, 50]

theorem announces_two : Announces [twoLine] 2 where
  areHeaders := by
    intro line isIn
    rw [mem_singleton.mp isIn, IsLine, twoLine]
    decide
  parts := ⟨[], [67, 111, 110, 116, 101, 110, 116, 45, 76, 101, 110, 103, 116, 104, 58], [32], [50],
    [], [], rfl, by decide, all_eq_true.mp rfl, .plain (.of_all (cons_ne_nil _ _) rfl),
    by rintro _ ⟨⟩, by decide, by rintro _ ⟨⟩⟩
  fits := by decide

/-- A response with the body `hi`, in reads of one byte. -/
theorem executeHttpRequest_response_bytes :
    ∃ stream later,
      executeHttpRequest true (List.replicate 128 0) (List.replicate 128 0)
          ⟨response okLine [twoLine] [104, 105], fun _ => 1, [], true⟩ = some (OK, 200, stream) ∧
        stream.getcs 2 = some ([104, 105], later) :=
  executeHttpRequest_response okLine_statusLine announces_two (by decide) (fun _ => by decide)
    rfl rfl

/-- With more white space in front of the length than `linebuf` has room for, the length
is lost: read byte by byte, a body of five bytes is not returned. -/
theorem executeHttpRequest_response_truncated :
    ((executeHttpRequest true (List.replicate 128 0) (List.replicate 128 0)
        ⟨response okLine [contentLen ++ List.replicate 111 32 ++ [53]] [104, 101, 108, 108, 111],
          fun _ => 1, [], true⟩).bind fun result =>
      (result.2.2.getcs 5).map fun content => (result.1, result.2.1, content.1)) =
        some (OK, 200, [0, 0, 0, 0, 0]) := by
  decide +kernel

end Thingsee.Http
