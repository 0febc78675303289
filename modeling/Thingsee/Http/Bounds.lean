import Thingsee.Http.Reading

/-!
Owns what a server can do to the content stream, with any bytes in any reads: exactly
when the stream keeps to the length that is announced, asks the link for no more than
what is missing, and stays at its end once it is there.
-/

namespace Thingsee.Http

open Support Scan List

namespace Stream

variable {most count : Nat} {stream : Stream}

def buffered (stream : Stream) : List UInt8 := (stream.buf.take stream.bufLen).drop stream.bufPos

theorem Ready.buffered_length (ready : stream.Ready) :
    stream.buffered.length = stream.bufLen - stream.bufPos := by
  have size := ready.size
  have within := ready.within
  rw [buffered, length_drop, length_take]
  omega

/-- What a call of `conn_content_stream_getc` behind `count` others may do, for a stream
that was set up with the length `most`. -/
structure Call (most count : Nat) (stream : Stream) (char : UInt8) (next : Stream) : Prop where
  inside : next.bufPos ≤ next.bufLen
  asks : next.link.asked = stream.link.asked ∨
    ∃ wanted, next.link.asked = wanted :: stream.link.asked ∧
      wanted ≤ stream.maxContentLen - stream.contentPos
  ended : most ≤ count → char = 0 ∧ next.link.asked = stream.link.asked
  failed : ∀ wanted, next.link.asked = wanted :: stream.link.asked →
    (stream.link.read wanted).1 = [] →
      ∀ further, next.getcs further = some (List.replicate further 0, next)

/-- A stream that a server cannot make overrun. -/
structure Safe (stream : Stream) : Prop where
  most : stream.maxContentLen ≤ 2147483647
  calls : ∀ count, ∃ chars later char next, stream.getcs count = some (chars, later) ∧
    later.getc = some (char, next) ∧ Call stream.maxContentLen count later char next
  string : ∀ available, ∃ result,
    streamToString available stream.maxContentLen stream = some result

/-- What holds behind `count` calls: the buffer holds what has been read of the content,
and zeros only behind its end. -/
structure Kept (most count : Nat) (stream : Stream) : Prop where
  ready : stream.Ready
  same : stream.maxContentLen = most
  counted : stream.contentPos < most → count + stream.buffered.length = stream.contentPos
  beyond : ∀ byte ∈ stream.buffered.drop (most - count), byte = 0

theorem Finished.getcs (finished : stream.Finished) (count : Nat) :
    stream.getcs count = some (List.replicate count 0, stream) := by
  induction count with
  | zero => rfl
  | succ count ih =>
    rw [Stream.getcs, finished.getc]
    show (stream.getcs count).bind _ = _
    rw [ih]
    rfl

theorem Kept.getc (kept : Kept most count stream) :
    ∃ char next, stream.getc = some (char, next) ∧ Kept most (count + 1) next ∧
      Call most count stream char next := by
  have ready := kept.ready
  have inside := ready.inside
  have length := ready.buffered_length
  rcases Nat.lt_or_ge stream.bufPos stream.bufLen with some | empty
  · obtain ⟨char, rest, text, moved, behind⟩ := getc_buffered ready some
    have beyond := kept.beyond
    rw [buffered, text] at beyond length
    rw [length_cons] at length
    refine ⟨char, _, moved, ⟨⟨ready.size, some, ready.within, ready.linked⟩, kept.same, ?_, ?_⟩,
      ⟨some, .inl rfl, ?_, ?_⟩⟩
    · intro missing
      have counted := kept.counted missing
      rw [buffered, text, length_cons] at counted
      rw [buffered, behind]
      show count + 1 + rest.length = stream.contentPos
      omega
    · rw [buffered, behind]
      rcases Nat.lt_or_ge count most with before | after
      · rw [show most - count = (most - (count + 1)) + 1 by omega, drop_succ_cons] at beyond
        exact beyond
      · rw [Nat.sub_eq_zero_of_le after, drop_zero] at beyond
        exact fun byte isIn => beyond byte (mem_cons_of_mem _ (mem_of_mem_drop isIn))
    · intro ended
      rw [Nat.sub_eq_zero_of_le ended, drop_zero] at beyond
      exact ⟨beyond char mem_cons_self, rfl⟩
    · intro wanted asked
      exact absurd asked.symm (cons_ne_self _ _)
  have nothing : stream.buffered = [] := length_eq_zero_iff.mp (by omega)
  have counted := kept.counted
  rw [nothing, length_nil, Nat.add_zero] at counted
  rcases Nat.lt_or_ge stream.contentPos most with missing | complete
  · have linked := ready.linked (by rw [kept.same]; exact missing)
    cases answer : (stream.link.read stream.currlen).1 with
    | nil =>
      have moved := getc_failed empty (by rw [kept.same]; exact missing) linked.1 answer
      refine ⟨0, _, moved, ⟨⟨ready.size, le_refl _, Nat.zero_le _, ?_⟩, kept.same, ?_, ?_⟩,
        ⟨le_refl _, .inr ⟨stream.currlen, rfl, stream.currlen_le.1⟩, ?_, ?_⟩⟩
      · exact fun less => absurd less (Nat.lt_irrefl _)
      · intro less
        exact absurd less (by show ¬ stream.maxContentLen < most; rw [kept.same]; omega)
      · rintro byte isIn
        simp [buffered] at isIn
      · intro ended
        have least := counted missing
        omega
      · intro _ _ _ further
        exact Finished.getcs ⟨le_refl _, .inl (le_refl _)⟩ further
    | cons char rest =>
      obtain ⟨later, moved, again, len, pos, text, incoming, asked, splits, same, content⟩ :=
        getc_delivered ready empty (by rw [kept.same]; exact missing) answer
      have bounds := stream.currlen_le
      have short := stream.link.read_length stream.currlen
      rw [answer, length_cons] at short
      have least := counted missing
      have maxSame := kept.same
      refine ⟨char, later, moved, ⟨again, same.trans kept.same, ?_, ?_⟩,
        ⟨again.inside, .inr ⟨stream.currlen, asked, bounds.1⟩, ?_, ?_⟩⟩
      · intro _
        rw [buffered, text, content]
        omega
      · rw [buffered, text, drop_eq_nil_of_le (by omega)]
        intro byte isIn
        cases isIn
      · intro ended
        omega
      · intro wanted wantedAsked fails
        rw [asked] at wantedAsked
        rw [← (List.cons.inj wantedAsked).1, answer] at fails
        cases fails
  · have finished : stream.Finished := ⟨empty, .inl (by rw [kept.same]; exact complete)⟩
    refine ⟨0, stream, finished.getc, ⟨ready, kept.same, ?_, ?_⟩, ⟨inside, .inl rfl, ?_, ?_⟩⟩
    · exact fun missing => absurd missing (Nat.not_lt.mpr complete)
    · rw [nothing, drop_nil]
      intro byte isIn
      cases isIn
    · exact fun _ => ⟨rfl, rfl⟩
    · intro wanted asked
      exact absurd asked.symm (cons_ne_self _ _)

theorem Kept.getcs (kept : Kept most count stream) (calls : Nat) :
    ∃ chars later, stream.getcs calls = some (chars, later) ∧ Kept most (count + calls) later := by
  induction calls generalizing count stream with
  | zero => exact ⟨[], stream, rfl, kept⟩
  | succ calls ih =>
    obtain ⟨char, next, moved, after, _⟩ := kept.getc
    obtain ⟨chars, later, further, last⟩ := ih after
    refine ⟨char :: chars, later, ?_, ?_⟩
    · rw [Stream.getcs, moved]
      show (next.getcs calls).bind _ = _
      rw [further]
      rfl
    · rwa [show count + (calls + 1) = count + 1 + calls by omega]

theorem Kept.fillContent {capacity remaining : Nat} (kept : Kept most count stream) (index : Nat)
    (room : index + remaining < capacity) :
    ∃ result, Http.fillContent capacity remaining index stream = some result := by
  induction remaining generalizing count index stream with
  | zero => exact ⟨_, if_pos room⟩
  | succ remaining ih =>
    obtain ⟨char, next, moved, after, _⟩ := kept.getc
    obtain ⟨result, further⟩ := ih after (index + 1) (by omega)
    refine ⟨(char :: result.1, result.2), ?_⟩
    rw [Http.fillContent, moved]
    show (if index < capacity then _ else none) = _
    rw [if_pos (by omega)]
    rw [further]
    rfl

theorem malloc_size {available : Bool} {size capacity : Nat} (small : size ≤ 2147483648)
    (block : malloc available size = some capacity) : size ≤ capacity := by
  rw [malloc] at block
  split at block
  · cases block
  · cases block
    rw [SIZEOF_MM_ALLOCNODE, MM_MIN_CHUNK, Nat.mod_eq_of_lt (by omega)]
    omega

theorem Kept.safe (kept : Kept stream.maxContentLen 0 stream)
    (fits : stream.maxContentLen ≤ 2147483647) : stream.Safe where
  most := fits
  calls := by
    intro count
    obtain ⟨chars, later, made, after⟩ := kept.getcs count
    rw [Nat.zero_add] at after
    obtain ⟨char, next, moved, _, call⟩ := after.getc
    exact ⟨chars, later, char, next, made, moved, call⟩
  string := by
    intro available
    rw [streamToString]
    cases block : malloc available ((stream.maxContentLen + 1) % 4294967296) with
    | none => exact ⟨_, rfl⟩
    | some capacity =>
      rw [Nat.mod_eq_of_lt (by omega)] at block
      have room := malloc_size (by omega) block
      have inBlock : 0 + stream.maxContentLen < capacity := by omega
      obtain ⟨result, filled⟩ := kept.fillContent 0 inBlock
      refine ⟨(some result.1, result.2), ?_⟩
      show (Http.fillContent capacity stream.maxContentLen 0 stream).bind _ = _
      rw [filled]
      rfl

end Stream

theorem exists_line (text : List UInt8) :
    IsLine text ∨ ∃ line rest, text = line ++ 13 :: 10 :: rest ∧ IsLine line := by
  induction text with
  | nil => exact .inl (by rw [IsLine]; decide)
  | cons char text ih =>
    by_cases ends : char = 13 ∧ text.head? = some 10
    · obtain ⟨rfl, first⟩ := ends
      obtain ⟨rest, rfl⟩ := List.head?_eq_some_iff.mp first
      exact .inr ⟨[], rest, rfl, by rw [IsLine]; decide⟩
    have within (line : List UInt8) (isLine : IsLine line) (begins : line <+: text) :
        IsLine (char :: line) := by
      intro infixed
      rcases infix_cons_iff.mp infixed with ⟨behind, starts⟩ | inside
      · obtain ⟨rfl, same⟩ := List.cons.inj starts
        obtain ⟨later, rfl⟩ := begins
        rw [← same] at ends
        exact ends ⟨rfl, rfl⟩
      · exact isLine inside
    rcases ih with isLine | ⟨line, rest, rfl, isLine⟩
    · exact .inl (within text isLine (prefix_refl _))
    · exact .inr ⟨char :: line, rest, rfl, within line isLine (prefix_append _ _)⟩

theorem exists_headers (text : List UInt8) :
    ∃ headers rest, text = withEnds headers ++ rest ∧ AreHeaders headers ∧
      (IsLine rest ∨ ∃ body, rest = 13 :: 10 :: body) := by
  induction length : text.length using Nat.strong_induction_on generalizing text with
  | _ length ih =>
    subst length
    have none : AreHeaders [] := fun line isIn => by cases isIn
    rcases exists_line text with isLine | ⟨line, rest, rfl, isLine⟩
    · exact ⟨[], text, rfl, none, .inl isLine⟩
    · by_cases empty : line = []
      · subst empty
        exact ⟨[], 13 :: 10 :: rest, rfl, none, .inr ⟨rest, rfl⟩⟩
      · obtain ⟨headers, behind, split, areHeaders, ends⟩ := ih rest.length (by
          rw [length_append, length_cons, length_cons]
          omega) rest rfl
        refine ⟨line :: headers, behind, ?_, ?_, ends⟩
        · rw [split]
          simp [withEnds]
        · intro header isIn
          rcases mem_cons.mp isIn with rfl | isIn
          · exact ⟨isLine, empty⟩
          · exact areHeaders header isIn

inductive Scanning (linebuf text : List UInt8) : Prop where
  | overrun (line rest : List UInt8) (split : text = line ++ 13 :: 10 :: rest)
      (isLine : IsLine line) (overruns : scanStatus ERROR (shown line) = .overrun)
      (scanned : (Scan.start linebuf).chars text = none)
  | header (progress : Progress) (rest : List UInt8)
      (scanned : (Scan.start linebuf).chars text = some (progress, rest))
      (noContent : ∀ later, progress ≠ .content later)
  | content (line : List UInt8) (headers : List (List UInt8)) (body : List UInt8) (code : Int)
      (later : Scan) (split : text = response line headers body) (isLine : IsLine line)
      (areHeaders : AreHeaders headers) (reads : scanStatus ERROR (shown line) = .read code)
      (scanned : (Scan.start linebuf).chars text = some (.content later, body))
      (length : later.contentlen = announced 0 headers)

theorem scanning {linebuf : List UInt8} (size : linebuf.length = CONN_STREAM_BUF_SIZE)
    (text : List UInt8) : Scanning linebuf text := by
  have fresh := Fresh.start size
  have within {scan : Scan} {rest : List UInt8} (isLine : IsLine rest) (fresh : scan.Fresh) :
      ∃ later, scan.chars rest = some (.reading later, []) := by
    obtain ⟨later, scanned, _⟩ := chars_text rest fresh.holds isLine
    exact ⟨later, scanned⟩
  rcases exists_line text with isLine | ⟨line, rest, rfl, isLine⟩
  · obtain ⟨later, scanned⟩ := within isLine fresh
    exact .header _ _ scanned fun _ => Progress.noConfusion
  cases status : scanStatus ERROR (shown line) with
  | overrun =>
    have scanned := chars_status_overrun fresh rfl isLine status rest
    exact .overrun line rest rfl isLine status scanned
  | missed code =>
    obtain ⟨later, scanned⟩ := chars_status_missed fresh rfl isLine status rest
    exact .header _ _ scanned fun _ => Progress.noConfusion
  | read code =>
    obtain ⟨headers, behind, rfl, areHeaders, ends⟩ := exists_headers rest
    rcases ends with inLine | ⟨body, rfl⟩
    · obtain ⟨next, moved, anew, header, _⟩ := chars_status fresh rfl isLine status
        (withEnds headers ++ behind)
      obtain ⟨last, scanned, again, _⟩ := chars_headers anew header areHeaders behind
      obtain ⟨later, ends⟩ := within inLine again
      exact .header _ _ (by rw [moved, scanned, ends]) fun _ => Progress.noConfusion
    · obtain ⟨later, scanned, _, length⟩ := chars_response size isLine status areHeaders body
      exact .content line headers body code later rfl isLine areHeaders status scanned length

theorem toSigned_range (value : Int) :
    -2147483648 ≤ toSigned 32 value ∧ toSigned 32 value < 2147483648 := by
  have low := Int.le_bmod (x := value) (m := 2 ^ 32) (by decide)
  have high := Int.bmod_lt (x := value) (m := 2 ^ 32) (by decide)
  rw [toSigned]
  omega

theorem signedOf_range (unsigned : List UInt8 → Nat) (text : List UInt8) :
    -2147483648 ≤ signedOf unsigned text ∧ signedOf unsigned text < 2147483648 := by
  rw [signedOf]
  split
  all_goals exact toSigned_range _

theorem announced_range (headers : List (List UInt8)) {before : Int}
    (fits : -2147483648 ≤ before ∧ before < 2147483648) :
    -2147483648 ≤ announced before headers ∧ announced before headers < 2147483648 := by
  induction headers generalizing before with
  | nil => exact fits
  | cons line headers ih =>
    refine ih ?_
    dsimp only
    cases parsed : parseLineInt (shown line) (min line.length (CONN_STREAM_BUF_SIZE - 2))
      contentLen with
    | none => exact fits
    | some value =>
      rw [Option.getD_some]
      rw [parseLineInt] at parsed
      split at parsed
      · dsimp only at parsed
        split at parsed
        · cases parsed
          exact signedOf_range _ _
        · cases parsed
      · cases parsed

/-- The reads in which a server's bytes arrive, up to the first that fails. -/
def Link.received (link : Link) : List (List UInt8) := link.chunks (link.incoming.length + 1)

theorem Link.received_closed {link : Link} (closed : link.isOpen = false) : link.received = [] := by
  rw [received, chunks]
  refine if_pos ?_
  rw [read, closed]
  rfl

/-- What a server must send for its response to be handled within bounds: the status code
is not followed by white space only, the last length that is announced is not negative,
and of the bytes that arrive with the end of the header, those behind that length are
zero. -/
def Harmless (chunks : List (List UInt8)) : Prop :=
  ∀ statusLine rest, chunks.flatten = statusLine ++ 13 :: 10 :: rest → IsLine statusLine →
    scanStatus ERROR (shown statusLine) ≠ .overrun ∧
    ∀ headers body code, rest = withEnds headers ++ 13 :: 10 :: body → AreHeaders headers →
      scanStatus ERROR (shown statusLine) = .read code →
        0 ≤ announced 0 headers ∧
        ∀ byte ∈ (tailAt chunks (chunks.flatten.length - body.length)).drop
          (announced 0 headers).toNat, byte = 0

namespace Stream

variable {buf : List UInt8} {stream : Stream}

theorem Kept.init (size : buf.length = CONN_STREAM_BUF_SIZE) (link : Link) :
    Kept 0 0 (Stream.init buf link) where
  ready := .init size link
  same := rfl
  counted := fun less => absurd less (Nat.not_lt_zero _)
  beyond := fun byte isIn => by simp [buffered, Stream.init] at isIn

theorem safe_init (size : buf.length = CONN_STREAM_BUF_SIZE) (link : Link) :
    (Stream.init buf link).Safe :=
  Kept.safe (Kept.init size link) (Nat.zero_le _)

theorem getcs_buffered (ready : stream.Ready) {count : Nat}
    (some : count ≤ stream.buffered.length) :
    ∃ chars, stream.getcs count =
      Option.some (chars, { stream with bufPos := stream.bufPos + count }) := by
  induction count generalizing stream with
  | zero => exact ⟨[], rfl⟩
  | succ count ih =>
    have length := ready.buffered_length
    obtain ⟨char, rest, text, moved, behind⟩ := getc_buffered ready (by omega)
    have again : Ready { stream with bufPos := stream.bufPos + 1 } :=
      ⟨ready.size, by show stream.bufPos + 1 ≤ stream.bufLen; omega, ready.within, ready.linked⟩
    have fewer := again.buffered_length
    dsimp only at fewer
    obtain ⟨chars, further⟩ := ih again (by omega)
    refine ⟨char :: chars, ?_⟩
    rw [Stream.getcs, moved]
    show (Stream.getcs count _).bind _ = _
    rw [further, show stream.bufPos + (count + 1) = stream.bufPos + 1 + count by omega]
    rfl

theorem Safe.beyond (safe : stream.Safe) (ready : stream.Ready) :
    ∀ byte ∈ stream.buffered.drop stream.maxContentLen, byte = 0 := by
  intro byte isIn
  obtain ⟨index, inside, rfl⟩ := getElem_of_mem isIn
  rw [length_drop] at inside
  have length := ready.buffered_length
  obtain ⟨chars, made⟩ := getcs_buffered ready
    (show stream.maxContentLen + index ≤ stream.buffered.length by omega)
  obtain ⟨_, later, char, next, same, moved, call⟩ := safe.calls (stream.maxContentLen + index)
  rw [made] at same
  obtain ⟨-, rfl⟩ := Prod.mk.inj (Option.some.inj same)
  have again : Ready { stream with bufPos := stream.bufPos + (stream.maxContentLen + index) } :=
    ⟨ready.size, by dsimp only; omega, ready.within, ready.linked⟩
  obtain ⟨first, rest, text, taken, _⟩ := getc_buffered again (by dsimp only; omega)
  rw [taken] at moved
  obtain ⟨rfl, -⟩ := Prod.mk.inj (Option.some.inj moved)
  have zero := (call.ended (Nat.le_add_right _ _)).1
  rw [getElem_drop, ← zero]
  have behind : stream.buffered.drop (stream.maxContentLen + index) = first :: rest := by
    rw [buffered, drop_drop]
    exact text
  have short : stream.maxContentLen + index < stream.buffered.length := by omega
  have taken := drop_eq_getElem_cons short
  rw [behind] at taken
  exact (List.cons.inj taken).1.symm

end Stream

theorem Harmless.of_scan {chunks : List (List UInt8)} {linebuf : List UInt8}
    (size : linebuf.length = CONN_STREAM_BUF_SIZE) {progress : Progress} {rest : List UInt8}
    (scanned : (Scan.start linebuf).chars chunks.flatten = some (progress, rest))
    (harmless : ∀ later, progress = .content later → 0 ≤ later.contentlen ∧
      ∀ byte ∈ (tailAt chunks (chunks.flatten.length - rest.length)).drop later.contentlen.toNat,
        byte = 0) : Harmless chunks := by
  intro statusLine behind split isLine
  refine ⟨?_, ?_⟩
  · intro overruns
    rw [split, chars_status_overrun (Fresh.start size) rfl isLine overruns behind] at scanned
    cases scanned
  · rintro headers body code rfl areHeaders reads
    obtain ⟨later, again, _, length⟩ := chars_response size isLine reads areHeaders body
    rw [split, show statusLine ++ 13 :: 10 :: (withEnds headers ++ 13 :: 10 :: body) =
      response statusLine headers body from rfl, again] at scanned
    obtain ⟨rfl, rfl⟩ := Prod.mk.inj (Option.some.inj scanned)
    rw [← length]
    exact harmless later rfl

/-- The reader and the stream stay within their bounds exactly for the responses that are
harmless. -/
theorem executeHttpRequest_safe_iff {linebuf buf : List UInt8} (opened : Bool) (link : Link)
    (sizeLine : linebuf.length = CONN_STREAM_BUF_SIZE)
    (sizeBuf : buf.length = CONN_STREAM_BUF_SIZE) :
    (∃ ret status stream, executeHttpRequest opened linebuf buf link = some (ret, status, stream) ∧
      stream.Safe) ↔ (opened = true → Harmless link.received) := by
  by_cases isOpened : opened = true
  · rw [executeHttpRequest, if_pos isOpened]
    have agrees := @readHeader_agrees _ (Scan.start linebuf) buf link (Nat.lt_succ_self _) sizeBuf
    rw [show link.chunks (link.incoming.length + 1) = link.received from rfl] at agrees
    generalize readHeader (link.incoming.length + 1) (Scan.start linebuf) buf link = header
      at agrees
    cases scanning sizeLine link.received.flatten with
    | overrun line rest split isLine overruns scanned =>
      rw [readChunks_none scanned] at agrees
      cases agrees
      constructor
      · rintro ⟨ret, status, stream, executed, _⟩
        cases executed
      · intro harmless
        exact absurd overruns (harmless isOpened line rest split isLine).1
    | header progress rest scanned noContent =>
      obtain ⟨last, tail, invalid⟩ := readChunks_invalid scanned noContent
      rw [invalid] at agrees
      cases agrees with
      | @invalid _ _ inbuf further size =>
        refine ⟨fun _ _ => Harmless.of_scan sizeLine scanned fun later content =>
          absurd content (noContent later), fun _ => ?_⟩
        exact ⟨ERROR, last.statusCode, _, rfl, Stream.safe_init size _⟩
    | content line headers body code last split isLine areHeaders reads scanned length =>
      have range := @announced_range headers 0 (by decide)
      rw [← length] at range
      rw [readChunks_content scanned] at agrees
      generalize tail_eq : tailAt link.received
        (link.received.flatten.length - body.length) = tail at agrees
      cases agrees with
      | @content _ front _ inbuf further size short text stays same whole read =>
        let stream : Stream :=
          { buf := inbuf, maxContentLen := (last.contentlen % 4294967296).toNat
            contentPos := tail.length, bufPos := 0, bufLen := tail.length, link := further
            connected := true }
        have isOpen : further.isOpen = true := by
          rw [stays]
          by_contra closed
          rw [Link.received_closed (Bool.not_eq_true _ ▸ closed)] at scanned
          cases scanned
        have ready : stream.Ready := ⟨size, Nat.zero_le _, short, fun _ => ⟨rfl, isOpen⟩⟩
        have buffered : stream.buffered = tail := text
        constructor
        · rintro ⟨_, _, _, executed, safe⟩ _
          cases executed
          refine Harmless.of_scan sizeLine scanned fun later same => ?_
          cases same
          have most : stream.maxContentLen ≤ 2147483647 := safe.most
          have beyond := @Stream.Safe.beyond stream safe ready
          have nonneg : stream.maxContentLen = last.contentlen.toNat := by
            show (last.contentlen % 4294967296).toNat = _
            have wrapped : (last.contentlen % 4294967296).toNat ≤ 2147483647 := most
            omega
          rw [buffered, nonneg] at beyond
          refine ⟨?_, by rwa [tail_eq]⟩
          have wrapped : (last.contentlen % 4294967296).toNat ≤ 2147483647 := most
          omega
        · intro harmless
          obtain ⟨positive, zeros⟩ :=
            (harmless isOpened line _ split isLine).2 headers body code rfl areHeaders reads
          rw [tail_eq, ← length] at zeros
          rw [← length] at positive
          have most : stream.maxContentLen = last.contentlen.toNat := by
            show (last.contentlen % 4294967296).toNat = _
            omega
          refine ⟨OK, last.statusCode, stream, rfl, Stream.Kept.safe ⟨ready, rfl, ?_, ?_⟩ ?_⟩
          · intro _
            rw [buffered, Nat.zero_add]
          · rw [buffered, most, Nat.sub_zero]
            exact zeros
          · rw [most]
            omega
  · rw [executeHttpRequest, if_neg isOpened]
    refine ⟨fun _ is => absurd is isOpened, fun _ => ⟨NETWORK_ERROR, ERROR, _, rfl, ?_⟩⟩
    exact Stream.safe_init sizeBuf _

/-- A response with `Content-Length: -5` and a body of 200 bytes, in reads of 128. -/
def negativeLink : Link :=
  ⟨response okLine [contentLen ++ [32, 45, 53]] (List.replicate 200 65), fun _ => 128, [], true⟩

/-- The length wraps, and so does the size of the block for the string, which is then
overrun. -/
theorem executeHttpRequest_negative :
    ((executeHttpRequest true (List.replicate 128 0) (List.replicate 128 0) negativeLink).map
      fun result => (result.1, result.2.2.maxContentLen,
        (streamToString true result.2.2.maxContentLen result.2.2).isSome)) =
      some (OK, 4294967291, false) := by
  decide +kernel

theorem executeHttpRequest_safe_iff_negative :
    (∃ ret status stream, executeHttpRequest true (List.replicate 128 0) (List.replicate 128 0)
      negativeLink = some (ret, status, stream) ∧ stream.Safe) ↔
      (true = true → Harmless negativeLink.received) :=
  executeHttpRequest_safe_iff true negativeLink rfl rfl

end Thingsee.Http
