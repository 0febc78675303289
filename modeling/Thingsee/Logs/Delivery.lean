import Thingsee.Logs.Upload
import Thingsee.Logs.RoundTrip

/-!
Owns what becomes of the lines of the send log: in a run whose steps are all careful,
the completed requests carry the wanted lines in file order, each once, and all of them
when the file is removed.

A reader that is not careful loses lines: one that would make a request too long is read
and freed.
-/

namespace Thingsee.Logs

open Support List

section

variable {P : Type} {deserialize : List UInt8 → Option P}

theorem wanted_append (first second : List (List UInt8)) :
    wanted deserialize (first ++ second) = wanted deserialize first ++
      wanted deserialize second := by
  unfold wanted
  rw [filter_append, filterMap_append]

variable {lines : List (List UInt8)} {entries : Nat}

theorem length_le_flatten {line : List UInt8} (isIn : line ∈ lines) :
    line.length ≤ lines.flatten.length := by
  obtain ⟨before, after, rfl⟩ := append_of_mem isIn
  simp only [flatten_append, flatten_cons, length_append]
  omega

theorem wanted_eq_filterMap (short : lines.flatten.length ≤ charsInOneSend) :
    wanted deserialize lines = lines.filterMap deserialize := by
  unfold wanted
  rw [filter_eq_self.mpr]
  intro line isIn
  have length := length_le_flatten isIn
  simp only [decide_eq_true_eq]
  omega

theorem readLines_split {text : List UInt8} {start : Nat}
    (boundary : start < text.length → Ended (text.take start)) :
    readLines text = readLines (text.take start) ++ readLines (text.drop start) := by
  by_cases inside : start < text.length
  · rw [← readLines_append (boundary inside), take_append_drop]
  · rw [take_of_length_le (by omega), drop_of_length_le (by omega)]
    exact (append_nil _).symm

theorem flatten_snoc_length (before : List (List UInt8)) (line : List UInt8) :
    (before ++ [line]).flatten.length = before.flatten.length + line.length := by
  simp

theorem gather_skips (positive : 0 < entries) (lines : List (List UInt8)) (len consumed : Nat)
    (long : charsInOneSend < len) : gather deserialize entries lines len [] consumed = none := by
  induction lines generalizing len consumed with
  | nil => simp [gather, positive]
  | cons line rest ih =>
    rw [gather, length_nil, if_pos positive, if_pos (by omega), if_pos rfl]
    exact ih _ _ (by omega)

theorem gather_spec (positive : 0 < entries) (lines before : List (List UInt8))
    (fits : Fits deserialize entries (before ++ lines))
    (short : before.flatten.length ≤ charsInOneSend) :
    match gather deserialize entries lines before.flatten.length (before.filterMap deserialize)
      before.flatten.length with
    | none => wanted deserialize (before ++ lines) = []
    | some (request, consumed) => ∃ read left, before ++ lines = read ++ left ∧
        request = wanted deserialize read ∧ consumed = read.flatten.length := by
  induction lines generalizing before with
  | nil =>
    have same := @wanted_eq_filterMap _ deserialize _ short
    rw [gather]
    by_cases room : (before.filterMap deserialize).length < entries
    · rw [if_pos room]
      by_cases empty : (before.filterMap deserialize).length = 0
      · rw [if_pos empty]
        rw [append_nil, same, length_eq_zero_iff.mp empty]
      · rw [if_neg empty]
        exact ⟨before, [], rfl, same.symm, rfl⟩
    · rw [if_neg room]
      exact ⟨before, [], rfl, same.symm, rfl⟩
  | cons line rest ih =>
    have same := @wanted_eq_filterMap _ deserialize _ short
    have joined : before ++ line :: rest = (before ++ [line]) ++ rest := by simp
    rw [gather]
    by_cases room : (before.filterMap deserialize).length < entries
    swap
    · rw [if_neg room]
      exact ⟨before, line :: rest, rfl, same.symm, rfl⟩
    rw [if_pos room]
    by_cases long : charsInOneSend < before.flatten.length + line.length
    · have dropped := fits before line rest rfl short long room
      rw [if_pos long]
      by_cases empty : (before.filterMap deserialize).length = 0
      · have noPayload := length_eq_zero_iff.mp empty
        rw [if_pos empty, noPayload, gather_skips positive rest _ _ long]
        rw [joined, wanted_append, wanted_append, same, noPayload, dropped.1,
          dropped.2 noPayload]
        rfl
      · rw [if_neg empty]
        refine ⟨before ++ [line], rest, joined, ?_, (flatten_snoc_length before line).symm⟩
        rw [wanted_append, dropped.1, append_nil, same]
    · rw [if_neg long]
      have next := ih (before ++ [line]) (by rw [← joined]; exact fits)
        (by rw [flatten_snoc_length]; omega)
      rw [flatten_snoc_length, filterMap_append, ← joined] at next
      cases payload : deserialize line with
      | none =>
        have nothing : [line].filterMap deserialize = [] := by simp [payload]
        rw [nothing, append_nil] at next
        exact next
      | some value =>
        have one : [line].filterMap deserialize = [value] := by simp [payload]
        rw [one] at next
        exact next

namespace SendLog

variable {log : SendLog P} {start : Nat}

/-- The completed requests carry the wanted lines in front of a line boundary. -/
def Confirmed (log : SendLog P) (deserialize : List UInt8 → Option P) : Prop :=
  ∃ count, count ≤ log.text.length ∧ Ended (log.text.take count) ∧
    log.delivered = wanted deserialize (readLines (log.text.take count))

/-- What holds while the send log is open: the request carries what was read behind the
saved offset. -/
structure Sending (deserialize : List UInt8 → Option P) (log : SendLog P) (position : Nat) :
    Prop where
  positive : 0 < log.entriesPerRequest
  before : Ended (log.text.take log.offset)
  delivered : log.delivered = wanted deserialize (readLines (log.text.take log.offset))
  ordered : log.offset ≤ position
  inside : position ≤ log.text.length
  boundary : position < log.text.length → Ended (log.text.take position)
  request : log.outstanding = some (wanted deserialize
    (readLines ((log.text.drop log.offset).take (position - log.offset))))

structure Lossless (deserialize : List UInt8 → Option P) (log : SendLog P) : Prop where
  removed : ∀ entry ∈ log.removed, entry.2 = wanted deserialize (readLines entry.1)
  closed : log.position = none → log.outstanding = none ∧ log.Confirmed deserialize
  sending : ∀ position, log.position = some position → log.Sending deserialize position

theorem Sending.confirmed {position : Nat} (sending : log.Sending deserialize position) :
    log.Confirmed deserialize :=
  ⟨log.offset, Nat.le_trans sending.ordered sending.inside, sending.before, sending.delivered⟩

theorem Lossless.confirmed (lossless : log.Lossless deserialize) : log.Confirmed deserialize := by
  cases position : log.position with
  | none => exact (lossless.closed position).2
  | some position' => exact (lossless.sending position' position).confirmed

theorem fill_of_none
    (gathered : gather deserialize log.entriesPerRequest (readLines (log.text.drop start)) 0 [] 0 =
      none) :
    log.fill deserialize start = log.finish true := by
  rw [fill, gathered]

theorem fill_of_some {consumed : Nat} {payloads : List P}
    (gathered : gather deserialize log.entriesPerRequest (readLines (log.text.drop start)) 0 [] 0 =
      some (payloads, consumed)) :
    log.fill deserialize start =
      { log with position := some (start + consumed), outstanding := some payloads } := by
  rw [fill, gathered]

theorem fill_lossless
    (removed : ∀ entry ∈ log.removed, entry.2 = wanted deserialize (readLines entry.1))
    (idle : log.outstanding = none) (positive : 0 < log.entriesPerRequest)
    (isOffset : log.offset = start) (inside : start ≤ log.text.length)
    (boundary : start < log.text.length → Ended (log.text.take start))
    (delivered : log.delivered = wanted deserialize (readLines (log.text.take start)))
    (fits : Fits deserialize log.entriesPerRequest (readLines (log.text.drop start))) :
    (log.fill deserialize start).Lossless deserialize := by
  have spec := gather_spec positive (readLines (log.text.drop start)) [] fits (by decide)
  have whole : log.delivered ++ wanted deserialize (readLines (log.text.drop start)) =
      wanted deserialize (readLines log.text) := by
    rw [delivered, ← wanted_append, ← readLines_split boundary]
  rw [nil_append, flatten_nil, length_nil, filterMap_nil] at spec
  cases gathered : gather deserialize log.entriesPerRequest
      (readLines (log.text.drop start)) 0 [] 0 with
  | none =>
    rw [gathered] at spec
    rw [fill_of_none gathered]
    rw [spec, append_nil] at whole
    refine ⟨?_, ?_, ?_⟩
    · intro entry isIn
      rcases mem_append.mp isIn with earlier | last
      · exact removed entry earlier
      · rw [mem_singleton.mp last]
        exact whole
    · intro _
      exact ⟨idle, 0, Nat.zero_le _, Or.inl rfl, rfl⟩
    · intro position isOpen
      cases isOpen
  | some answer =>
    obtain ⟨request, consumed⟩ := answer
    rw [gathered] at spec
    rw [fill_of_some gathered]
    obtain ⟨read, left, lines, isRequest, isConsumed⟩ := spec
    obtain ⟨ofRead, -, ended⟩ := readLines_divided lines
    have rest : log.text.drop start = read.flatten ++ left.flatten := by
      rw [← flatten_readLines (log.text.drop start), lines, flatten_append]
    have before : start < log.text.length := by
      by_contra outside
      rw [drop_of_length_le (by omega), readLines, gather, length_nil,
        if_pos positive, if_pos rfl] at gathered
      cases gathered
    have length : log.text.length = start + (read.flatten.length + left.flatten.length) := by
      have dropped := congrArg List.length rest
      rw [length_drop, length_append] at dropped
      omega
    refine ⟨removed, fun isClosed => absurd isClosed (by simp), ?_⟩
    intro position isOpen
    obtain rfl : start + consumed = position := Option.some.inj isOpen
    refine ⟨positive, ?_, ?_, ?_, ?_, ?_, ?_⟩
    · show Ended (log.text.take log.offset)
      rw [isOffset]
      exact boundary before
    · show log.delivered = wanted deserialize (readLines (log.text.take log.offset))
      rw [isOffset]
      exact delivered
    · show log.offset ≤ start + consumed
      omega
    · show start + consumed ≤ log.text.length
      omega
    · intro more
      have more : start + consumed < log.text.length := more
      have some : left ≠ [] := by
        rintro rfl
        rw [flatten_nil, length_nil] at length
        omega
      have upTo : log.text.take (start + consumed) = log.text.take start ++ read.flatten := by
        rw [take_add, rest, isConsumed, take_left]
      show Ended (log.text.take (start + consumed))
      rw [upTo]
      exact (boundary before).append (ended some)
    · show some request = some (wanted deserialize (readLines
        ((log.text.drop log.offset).take (start + consumed - log.offset))))
      rw [isOffset, Nat.add_sub_cancel_left, rest, isConsumed, take_left, ofRead, isRequest]

theorem appendLogs_text (log : SendLog P) :
    log.appendLogs.text = log.text ++ (log.events.getD [] ++ log.causes.getD []) := by
  unfold appendLogs text
  cases log.events <;> cases log.causes <;> simp [copied]

theorem Confirmed.append {other : SendLog P} (confirmed : log.Confirmed deserialize)
    {more : List UInt8} (longer : other.text = log.text ++ more)
    (same : other.delivered = log.delivered) : other.Confirmed deserialize := by
  obtain ⟨count, inside, ended, delivered⟩ := confirmed
  have prefix' : other.text.take count = log.text.take count := by
    rw [longer, take_append_of_le_length inside]
  refine ⟨count, ?_, ?_, ?_⟩
  · rw [longer, length_append]
    omega
  · rw [prefix']
    exact ended
  · rw [prefix', same]
    exact delivered

theorem start_lossless {multisend : Bool} (lossless : log.Lossless deserialize)
    (careful : log.Careful deserialize (.start multisend)) :
    (log.start deserialize multisend).Lossless deserialize := by
  have longer := log.appendLogs_text
  cases isOpen : log.position with
  | some position =>
    have sending := lossless.sending position isOpen
    simp only [Careful, isOpen] at careful
    have started : log.start deserialize multisend = log.appendLogs := by
      unfold start
      rw [isOpen]
    rw [started]
    have upTo {count : Nat} (few : count ≤ log.text.length) :
        log.appendLogs.text.take count = log.text.take count := by
      rw [longer, take_append_of_le_length few]
    have inside := sending.inside
    have ordered := sending.ordered
    refine ⟨lossless.removed, fun isClosed => absurd (isOpen.symm.trans isClosed) (by simp), ?_⟩
    intro position' isOpen'
    obtain rfl : position = position' := Option.some.inj (isOpen.symm.trans isOpen')
    refine ⟨sending.positive, ?_, ?_, sending.ordered, ?_, ?_, ?_⟩
    · show Ended (log.appendLogs.text.take log.offset)
      rw [upTo (by omega)]
      exact sending.before
    · show log.delivered = wanted deserialize (readLines (log.appendLogs.text.take log.offset))
      rw [upTo (by omega)]
      exact sending.delivered
    · rw [longer, length_append]
      omega
    · intro more
      rw [upTo inside]
      by_cases logs : log.events.isSome = true ∨ log.causes.isSome = true
      · exact careful logs
      · have noEvents : log.events = none := by
          cases events : log.events with
          | none => rfl
          | some text => exact absurd (Or.inl (by simp [events])) logs
        have noCauses : log.causes = none := by
          cases causes : log.causes with
          | none => rfl
          | some text => exact absurd (Or.inr (by simp [causes])) logs
        rw [longer, noEvents, noCauses, Option.getD_none, append_nil, append_nil] at more
        exact sending.boundary more
    · show log.outstanding = some (wanted deserialize (readLines
        ((log.appendLogs.text.drop log.offset).take (position - log.offset))))
      rw [sending.request, longer, drop_append_of_le_length (by omega),
        take_append_of_le_length (by rw [length_drop]; omega)]
  | none =>
    obtain ⟨idle, confirmed⟩ := lossless.closed isOpen
    simp only [Careful, isOpen] at careful
    obtain ⟨fresh, fits⟩ := careful
    cases file : log.appendLogs.sends with
    | none =>
      have started : log.start deserialize multisend = log.appendLogs := by
        unfold start
        rw [isOpen, file]
      rw [started]
      refine ⟨lossless.removed, fun _ => ⟨idle, confirmed.append longer rfl⟩, ?_⟩
      intro position isOpen'
      exact absurd (isOpen.symm.trans isOpen') (by simp)
    | some text =>
      have started : log.start deserialize multisend =
          { log.appendLogs with
            position := some 0,
            entriesPerRequest := if multisend then maxEntries else 1,
            offset := 0, errcount := 0 }.fill deserialize 0 := by
        unfold start
        rw [isOpen, file]
        rfl
      rw [started]
      apply fill_lossless
      · exact lossless.removed
      · exact idle
      · show 0 < if multisend then maxEntries else 1
        cases multisend <;> decide
      · rfl
      · exact Nat.zero_le _
      · intro _
        exact Or.inl rfl
      · exact fresh
      · exact fits

theorem result_lossless {success : Bool} (lossless : log.Lossless deserialize)
    (careful : log.Careful deserialize (.result success)) :
    (log.result deserialize success).Lossless deserialize := by
  cases isOpen : log.position with
  | none =>
    have unchanged : log.result deserialize success = log := by
      unfold result
      rw [(lossless.closed isOpen).1]
    rw [unchanged]
    exact lossless
  | some position =>
    have sending := lossless.sending position isOpen
    have ordered := sending.ordered
    have inside := sending.inside
    simp only [Careful, isOpen] at careful
    cases success with
    | true =>
      rw [if_pos rfl] at careful
      have completed : log.result deserialize true =
          { log with
            outstanding := none,
            delivered := log.delivered ++ wanted deserialize
              (readLines ((log.text.drop log.offset).take (position - log.offset))),
            offset := position, errcount := 0 }.fill deserialize position := by
        unfold result
        rw [sending.request]
        simp only [Bool.not_true, process, isOpen]
        rfl
      have upTo : log.text.take position = log.text.take log.offset ++
          (log.text.drop log.offset).take (position - log.offset) := by
        rw [← take_add]
        congr 1
        omega
      rw [completed]
      apply fill_lossless
      · exact lossless.removed
      · rfl
      · exact sending.positive
      · rfl
      · exact inside
      · exact sending.boundary
      · show log.delivered ++ _ = wanted deserialize (readLines (log.text.take position))
        rw [upTo, readLines_append sending.before, wanted_append, sending.delivered]
      · exact careful
    | false =>
      rw [if_neg (by simp)] at careful
      by_cases often : bailoutErrorCount ≤ log.errcount + 1
      · have ended : log.result deserialize false =
            { log with outstanding := none, errcount := log.errcount + 1, position := none } := by
          unfold result
          rw [sending.request]
          simp only [Bool.not_false, process, isOpen, if_pos often]
          rfl
        rw [ended]
        refine ⟨lossless.removed, fun _ => ⟨rfl, sending.confirmed⟩, ?_⟩
        intro position' isOpen'
        cases isOpen'
      · have again : log.result deserialize false =
            { log with outstanding := none, errcount := log.errcount + 1 }.fill
              deserialize log.offset := by
          unfold result
          rw [sending.request]
          simp only [Bool.not_false, process, isOpen, if_neg often]
          rfl
        rw [again]
        apply fill_lossless
        · exact lossless.removed
        · rfl
        · exact sending.positive
        · rfl
        · show log.offset ≤ log.text.length
          omega
        · intro _
          exact sending.before
        · exact sending.delivered
        · exact careful (by omega)

/-- A careful step loses nothing of the log. -/
theorem step_lossless (log : SendLog P) (step : LogStep) (lossless : log.Lossless deserialize)
    (careful : log.Careful deserialize step) :
    (log.step deserialize step).Lossless deserialize := by
  cases step with
  | event entry | cause entry => exact ⟨lossless.removed, lossless.closed, fun position isOpen =>
    { lossless.sending position isOpen with }⟩
  | start multisend => exact start_lossless lossless careful
  | result success => exact result_lossless lossless careful

theorem initial_lossless (initial : log.Initial) : log.Lossless deserialize := by
  refine ⟨?_, fun _ => ⟨initial.idle, 0, Nat.zero_le _, Or.inl rfl, initial.fresh⟩, ?_⟩
  · intro entry isIn
    rw [initial.kept] at isIn
    exact absurd isIn not_mem_nil
  · intro position isOpen
    exact absurd (initial.closed.symm.trans isOpen) (by simp)

/-- In every careful run the completed requests carry the wanted lines in file order and
each once, and when a send log is removed they carry all of its wanted lines. -/
theorem completed_requests_carry_the_log {log : SendLog P} (initial : log.Initial)
    {steps : List LogStep}
    (careful : Guarded (SendLog.step deserialize) (SendLog.Careful deserialize) log steps) :
    (∀ entry ∈ (steps.foldl (SendLog.step deserialize) log).removed,
        entry.2 = wanted deserialize (readLines entry.1)) ∧
      (steps.foldl (SendLog.step deserialize) log).delivered <+:
        wanted deserialize (readLines (steps.foldl (SendLog.step deserialize) log).text) := by
  have lossless := foldl_invariant (Lossless deserialize) step_lossless
    (initial_lossless initial) careful
  refine ⟨lossless.removed, ?_⟩
  obtain ⟨count, -, ended, delivered⟩ := lossless.confirmed
  rw [delivered, readLines_split (fun _ => ended), wanted_append]
  exact prefix_append _ _

end SendLog

theorem fits_of_short {entries : Nat} {lines : List (List UInt8)}
    (short : lines.flatten.length ≤ charsInOneSend) : Fits deserialize entries lines := by
  intro before line after same _ long _
  have length : before.flatten.length + line.length ≤ lines.flatten.length := by
    rw [same, flatten_append, flatten_cons, length_append, length_append]
    omega
  omega

end

/-- The payload of a line that `deserialize_payload` accepts. -/
def readEntry (line : List UInt8) : Option Payload := (deserializePayload line).toOption

/-- The line of a payload as it stands in a log. -/
def Payload.entry (payload : Payload) : List UInt8 := payload.line ++ [10]

def longPayload (evId : Int32) : Payload :=
  { state := { pId := [112], puId := 1, stId := 2, evId := evId, ts := ⟨1449500000, 5⟩ }
    senses := List.replicate 60
      { name := [99], sId := 65792, value := .scalar (.uint16 7), ts := ⟨1449500001, 6⟩ } }

theorem longPayload_writable (evId : Int32) : (longPayload evId).Writable := by
  have named (char : UInt8) (visible : Plain [char]) : Named [char] :=
    ⟨by simp, by simp, visible⟩
  refine ⟨named 112 (by decide), ?_, ?_, ?_⟩
  · intro sense isSense
    rw [eq_of_mem_replicate isSense]
    exact named 99 (by decide)
  · intro sense isSense
    rw [eq_of_mem_replicate isSense]
    trivial
  · intro sense isSense
    rw [eq_of_mem_replicate isSense]
    decide

theorem readEntry_longPayload (evId : Int32) :
    readEntry (longPayload evId).entry = some (longPayload evId) := by
  have readBack := (reads_back_iff (longPayload_writable evId)).mpr (by
    intro sense isSense
    rw [eq_of_mem_replicate isSense]
    decide)
  rw [readEntry, Payload.entry, readBack]
  rfl

theorem readLines_entries {first second : Payload} (writable : first.Writable)
    (other : second.Writable) :
    readLines (first.entry ++ second.entry) = [first.entry, second.entry] := by
  have ended : Ended first.entry := Or.inr (by simp [Payload.entry])
  rw [readLines_append ended]
  unfold Payload.entry
  rw [readLines_single (fun char isIn => (writable.mem_line isIn).2),
    readLines_single (fun char isIn => (other.mem_line isIn).2)]
  rfl

def eventLog (events : List UInt8) : SendLog Payload :=
  { sends := none, events := some events, causes := none, position := none,
    entriesPerRequest := 0, offset := 0, errcount := 0, outstanding := none, delivered := [],
    removed := [] }

theorem eventLog_initial (events : List UInt8) : (eventLog events).Initial :=
  ⟨rfl, rfl, rfl, rfl⟩

theorem careful_of_short {log : SendLog Payload} {success : Bool}
    (short : log.text.length ≤ charsInOneSend) :
    log.Careful readEntry (.result success) := by
  have fits (entries start : Nat) :
      Fits readEntry entries (readLines (log.text.drop start)) := by
    apply fits_of_short
    rw [flatten_readLines, length_drop]
    omega
  cases isOpen : log.position with
  | none =>
    simp only [SendLog.Careful, isOpen]
  | some position =>
    simp only [SendLog.Careful, isOpen]
    cases success with
    | true => exact fits _ _
    | false => exact fun _ => fits _ _

/-- An entry is sent again after a failure, and then the log is removed. -/
theorem short_entry_is_sent :
    let steps := [.start true, .result false, .result true]
    let log := eventLog (onePayload [65]).entry
    (steps.foldl (SendLog.step readEntry) log).removed ≠ [] ∧
      ∀ entry ∈ (steps.foldl (SendLog.step readEntry) log).removed,
        entry.2 = wanted readEntry (readLines entry.1) := by
  have careful : Guarded (SendLog.step readEntry) (SendLog.Careful readEntry)
      (eventLog (onePayload [65]).entry) [.start true, .result false, .result true] := by
    refine ⟨⟨rfl, fits_of_short ?_⟩, careful_of_short ?_, careful_of_short ?_, trivial⟩
    · rw [flatten_readLines]
      decide +kernel
    · decide +kernel
    · decide +kernel
  refine ⟨by decide +kernel, ?_⟩
  exact (SendLog.completed_requests_carry_the_log (eventLog_initial _) careful).1

theorem read_ahead {first second : List UInt8} {payload : Payload}
    (lines : readLines (first ++ second) = [first, second])
    (accepted : readEntry first = some payload) (short : first.length ≤ charsInOneSend)
    (long : charsInOneSend < first.length + second.length) :
    ([.start true, .result true].foldl (SendLog.step readEntry)
      (eventLog (first ++ second))).removed = [(first ++ second, [payload])] := by
  have request : gather readEntry maxEntries (readLines (first ++ second)) 0 [] 0 =
      some ([payload], first.length + second.length) := by
    rw [lines, gather, length_nil, if_pos (by decide), if_neg (by omega), accepted]
    dsimp only
    rw [gather, nil_append, length_singleton, if_pos (by decide), if_pos (by omega),
      if_neg (by decide), Nat.zero_add]
  have started : (eventLog (first ++ second)).step readEntry (.start true) =
      { eventLog (first ++ second) with
        sends := some (first ++ second), events := none,
        position := some (first.length + second.length), entriesPerRequest := maxEntries,
        outstanding := some [payload] } := by
    show SendLog.fill readEntry 0 { eventLog (first ++ second) with
        sends := some (first ++ second), events := none, position := some 0,
        entriesPerRequest := maxEntries } = _
    exact (SendLog.fill_of_some request).trans (by rw [Nat.zero_add])
  have nothing : gather readEntry maxEntries
      (readLines ((first ++ second).drop (first.length + second.length))) 0 [] 0 = none := by
    rw [drop_of_length_le (by rw [length_append])]
    rfl
  have finished : SendLog.step readEntry { eventLog (first ++ second) with
        sends := some (first ++ second), events := none,
        position := some (first.length + second.length), entriesPerRequest := maxEntries,
        outstanding := some [payload] } (.result true) =
      SendLog.finish true { eventLog (first ++ second) with
        sends := some (first ++ second), events := none,
        position := some (first.length + second.length), entriesPerRequest := maxEntries,
        offset := first.length + second.length, delivered := [payload] } :=
    SendLog.fill_of_none nothing
  rw [foldl_cons, started, foldl_cons, finished]
  rfl

/-- Two entries of 1821 characters: the connector completes the only request, the log is
removed, and the second entry was in no request. -/
theorem second_entry_is_lost :
    ∃ log : SendLog Payload, log.Initial ∧
      ¬ ∀ entry ∈ ([.start true, .result true].foldl (SendLog.step readEntry) log).removed,
        entry.2 = wanted readEntry (readLines entry.1) := by
  have lines := readLines_entries (longPayload_writable 3) (longPayload_writable 4)
  have first : (longPayload 3).entry.length = 1821 := by decide +kernel
  have second : (longPayload 4).entry.length = 1821 := by decide +kernel
  refine ⟨eventLog ((longPayload 3).entry ++ (longPayload 4).entry), eventLog_initial _, ?_⟩
  intro all
  rw [read_ahead lines (readEntry_longPayload 3) (by rw [first]; decide)
    (by rw [first, second]; decide)] at all
  have same := all _ (mem_singleton.mpr rfl)
  have both : wanted readEntry [(longPayload 3).entry, (longPayload 4).entry] =
      [longPayload 3, longPayload 4] := by
    unfold wanted
    rw [filter_eq_self.mpr, filterMap_cons, readEntry_longPayload, filterMap_cons,
      readEntry_longPayload]
    · rfl
    · intro line isIn
      rcases mem_cons.mp isIn with rfl | isIn
      · rw [first]
        decide
      · rw [mem_singleton.mp isIn, second]
        decide
  rw [lines, both] at same
  exact absurd (congrArg List.length same) (by decide)

end Thingsee.Logs
