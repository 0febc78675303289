import Mathlib.Data.List.DropRight
import Mathlib.Tactic.Linarith

/-!
Owns the pipe from the WiFi thread to the main thread in `conman_cc3000.c`: the reports
of scan results that `cc3000_read_scan_results` writes, the letters of the other events,
and the main thread that reads them.

The answers of `wlan_ioctl_get_scan_results` are arbitrary, one for each call; `none` is
a failed call. All writes to the pipe succeed. A read that has to wait for bytes has no
result. `allocated` tells if the event of a report can be allocated.

Does not own: when the thread writes, and what becomes of an event behind its
broadcast.
-/

namespace Thingsee.Wifi.ScanResults

open List

/-- `struct cc3000_scan_results_s`, without what is not used. -/
structure Answer where
  numNetworksFound : Nat
  bitfield : Nat
  ssid : List UInt8
  bssid : List UInt8
  ssidSize : ssid.length = 32
  bssidSize : bssid.length = 6

namespace Answer

/-- `CC3000_SCAN_RESULTS_IS_VALID` -/
def isValid (answer : Answer) : Bool := answer.bitfield % 2 == 1

/-- `CC3000_SCAN_RESULTS_RSSI` -/
def rssi (answer : Answer) : Nat := answer.bitfield / 2 % 128

/-- `CC3000_SCAN_RESULTS_SSID_LEN` -/
def ssidLen (answer : Answer) : Nat := answer.bitfield / 1024 % 64

end Answer

/-- `struct conman_event_wifi_scan_entry_s`; `rssi` is the octet of an `int8_t`. -/
structure Entry where
  ssidLen : UInt8
  rssi : UInt8
  ssid : List UInt8
  bssid : List UInt8
  ssidSize : ssid.length = 32
  bssidSize : bssid.length = 6

theorem filled_length (count : Nat) (byte : UInt8) : (List.replicate count byte).length = count :=
  length_replicate

theorem padded_length {text : List UInt8} (size : text.length = 32) (count : Nat) :
    (text.take (min count 32) ++ List.replicate (32 - min count 32) (0 : UInt8)).length = 32 := by
  rw [length_append, length_take, length_replicate]
  omega

namespace Entry

def bytes (entry : Entry) : List UInt8 :=
  entry.ssidLen :: entry.rssi :: (entry.ssid ++ entry.bssid)

def zero : Entry where
  ssidLen := 0
  rssi := 0
  ssid := List.replicate 32 0
  bssid := List.replicate 6 0
  ssidSize := filled_length 32 0
  bssidSize := filled_length 6 0

def ofAnswer (answer : Answer) : Entry where
  ssidLen := UInt8.ofNat (min answer.ssidLen 32)
  rssi := UInt8.ofNat (answer.rssi + 128)
  ssid := answer.ssid.take (min answer.ssidLen 32) ++ List.replicate (32 - min answer.ssidLen 32) 0
  bssid := answer.bssid
  ssidSize := padded_length answer.ssidSize answer.ssidLen
  bssidSize := answer.bssidSize

/-- Whether a byte of `bssid` is not zero. -/
def hasBssid (entry : Entry) : Bool := entry.bssid.any (· != 0)

theorem slice_length {text : List UInt8} {size : Nat} (enough : 40 ≤ text.length) (start : Nat)
    (fits : start + size ≤ 40) : ((text.drop start).take size).length = size := by
  rw [length_take, length_drop]
  omega

/-- `__conman_util_block_read` of an entry: it and what is behind it. -/
def read (pipe : List UInt8) : Option (Entry × List UInt8) :=
  if enough : 40 ≤ pipe.length then
    some (⟨pipe.getD 0 0, pipe.getD 1 0, (pipe.drop 2).take 32, (pipe.drop 34).take 6,
      slice_length enough 2 (by decide), slice_length enough 34 (by decide)⟩, pipe.drop 40)
  else none

theorem bytes_length (entry : Entry) : entry.bytes.length = 40 := by
  rw [bytes, length_cons, length_cons, length_append, entry.ssidSize,
    entry.bssidSize]

theorem read_bytes (entry : Entry) (rest : List UInt8) :
    read (entry.bytes ++ rest) = some (entry, rest) := by
  obtain ⟨ssidLen, rssi, ssid, bssid, ssidSize, bssidSize⟩ := entry
  have enough : 40 ≤ (bytes ⟨ssidLen, rssi, ssid, bssid, ssidSize, bssidSize⟩ ++ rest).length := by
    rw [length_append, bytes_length]
    omega
  have behind :
      (bytes ⟨ssidLen, rssi, ssid, bssid, ssidSize, bssidSize⟩ ++ rest).drop 40 = rest := by
    rw [drop_append_of_le_length (by rw [bytes_length]),
      drop_of_length_le (by rw [bytes_length]), nil_append]
  have name :
      ((bytes ⟨ssidLen, rssi, ssid, bssid, ssidSize, bssidSize⟩ ++ rest).drop 2).take
        32 = ssid := by
    show ((ssid ++ bssid) ++ rest).take 32 = ssid
    rw [append_assoc, ← ssidSize, take_left]
  have address :
      ((bytes ⟨ssidLen, rssi, ssid, bssid, ssidSize, bssidSize⟩ ++ rest).drop 34).take 6 =
        bssid := by
    show (((ssid ++ bssid) ++ rest).drop 32).take 6 = bssid
    rw [append_assoc, ← ssidSize, drop_left, ← bssidSize, take_left]
  rw [read, dif_pos enough]
  simp only [behind, name, address]
  rfl

end Entry

def letterReport : UInt8 := 114

def nresults (answer : Answer) : Nat :=
  if answer.numNetworksFound % 256 ≠ answer.numNetworksFound then 255
  else answer.numNetworksFound % 256

/-- The loop over the results: the entries that are written, and `nresults - i` at its
end. `remaining` is `nresults - i`, and `call` the number of calls so far. -/
def scanLoop (answers : Nat → Option Answer) : Nat → Nat → Answer → List Entry × Nat
  | 0, _, _ => ([], 0)
  | remaining + 1, call, answer =>
    let written := if answer.isValid then [Entry.ofAnswer answer] else []
    match answers call with
    -- `i` stays as it is
    | none => (written, remaining + 1)
    | some next =>
      if remaining = 0 then (written, 0)
      else if next.isValid then
        let rest := scanLoop answers remaining (call + 1) next
        (written ++ rest.1, rest.2)
      else (written, remaining)

/-- The entries of a report: those of the loop, and cleared ones. -/
def entries (answers : Nat → Option Answer) (first : Answer) : List Entry :=
  let scanned := scanLoop answers (nresults first) 1 first
  scanned.1 ++ List.replicate scanned.2 Entry.zero

/-- `cc3000_read_scan_results`: the bytes it writes, and what it returns. -/
def readScanResults (answers : Nat → Option Answer) : List UInt8 × Bool :=
  match answers 0 with
  | none => ([], false)
  | some first =>
    if nresults first = 0 ∨ first.isValid = false then ([], true)
    else
      (letterReport :: UInt8.ofNat (nresults first) ::
        (entries answers first).flatMap Entry.bytes, true)

def readEntries : Nat → List UInt8 → Option (List Entry × List UInt8)
  | 0, pipe => some ([], pipe)
  | count + 1, pipe => do
      let first ← Entry.read pipe
      let rest ← readEntries count first.2
      some (first.1 :: rest.1, rest.2)

/-- `last_ok` behind the entries from an index on. -/
def lastOk (index : Nat) (last : Int) : List Entry → Int
  | [] => last
  | entry :: rest => lastOk (index + 1) (if entry.hasBssid then index else last) rest

/-- `handle_scan_results_event`: the results it broadcasts, and what it leaves in the
pipe. -/
def handleScanResultsEvent (allocated : Bool) (pipe : List UInt8) :
    Option (Option (List Entry) × List UInt8) :=
  match pipe with
  | [] => none
  | numResults :: pipe =>
    if allocated then do
      let results ← readEntries numResults.toNat pipe
      some (some (results.1.take (lastOk 0 (-1) results.1 + 1).toNat), results.2)
    else some (none, pipe)

/-- What the main thread does for a letter. -/
inductive Event where
  | scan (results : List Entry)
  | established
  | lost
  | requestFailed
  | stopped

/-- `__conman_cc3000_handle_pollfds` as long as there are letters in the pipe; with
`stopped` it is closed. -/
def handlePollfds : Nat → List Bool → List UInt8 → List Event
  | 0, _, _ => []
  | _ + 1, _, [] => []
  | fuel + 1, allocated, event :: pipe =>
    if event = 83 then [.stopped]
    else if event = letterReport then
      match handleScanResultsEvent (allocated.headD false) pipe with
      | none => []
      | some (results, rest) =>
        (results.map Event.scan).toList ++ handlePollfds fuel allocated.tail rest
    else if event = 69 then .established :: handlePollfds fuel allocated pipe
    else if event = 76 then .lost :: handlePollfds fuel allocated pipe
    else if event = 70 then .requestFailed :: handlePollfds fuel allocated pipe
    else handlePollfds fuel allocated pipe

def validFrom (answers : Nat → Option Answer) : Nat → Nat → List Answer
  | 0, _ => []
  | limit + 1, call =>
    match answers call with
    | none => []
    | some answer => if answer.isValid then answer :: validFrom answers limit (call + 1) else []

def Valid (answers : Nat → Option Answer) (call : Nat) : Prop :=
  ∃ answer, answers call = some answer ∧ answer.isValid = true

/-- A call fails behind valid answers from a call on, no more than a number of them. -/
def FailsFrom (answers : Nat → Option Answer) (limit call : Nat) : Prop :=
  ∃ count, 1 ≤ count ∧ count ≤ limit ∧ (∀ index < count, Valid answers (call + index)) ∧
    answers (call + count) = none

theorem not_failsFrom_zero (answers : Nat → Option Answer) (call : Nat) :
    ¬ FailsFrom answers 0 call := by
  rintro ⟨count, least, most, _⟩
  omega

variable {answers : Nat → Option Answer} {call : Nat}

theorem failsFrom_succ {limit : Nat} (valid : Valid answers call) :
    FailsFrom answers (limit + 1) call ↔
      answers (call + 1) = none ∨ FailsFrom answers limit (call + 1) := by
  constructor
  · rintro ⟨count, least, most, before, fails⟩
    rcases Nat.lt_or_ge 1 count with more | one
    · refine .inr ⟨count - 1, by omega, by omega, fun index less => ?_, ?_⟩
      · rw [Nat.add_assoc, Nat.add_comm 1]
        exact before (index + 1) (by omega)
      · rwa [show call + 1 + (count - 1) = call + count by omega]
    · rw [show count = 1 by omega] at fails
      exact .inl fails
  · rintro (fails | ⟨count, least, most, before, fails⟩)
    · refine ⟨1, le_refl _, by omega, fun index less => ?_, fails⟩
      rwa [show index = 0 by omega]
    · refine ⟨count + 1, by omega, by omega, fun index less => ?_, ?_⟩
      · rcases Nat.eq_zero_or_pos index with rfl | positive
        · exact valid
        · rw [show call + index = call + 1 + (index - 1) by omega]
          exact before (index - 1) (by omega)
      · rwa [show call + (count + 1) = call + 1 + count by omega]

section

variable {remaining : Nat} {answer : Answer} (positive : 0 < remaining)
  (current : answers call = some answer) (valid : answer.isValid = true)
include positive current valid

/-! ## Reading -/

theorem scanLoop_entries :
    (scanLoop answers remaining (call + 1) answer).1 =
      (validFrom answers remaining call).map Entry.ofAnswer := by
  induction remaining generalizing call answer with
  | zero => exact absurd positive (Nat.lt_irrefl _)
  | succ remaining ih =>
    rw [scanLoop, validFrom, current]
    simp only [if_pos valid, map_cons]
    cases next : answers (call + 1) with
    | none =>
      cases remaining with
      | zero => rfl
      | succ remaining =>
        rw [validFrom, next]
        rfl
    | some later =>
      by_cases last : remaining = 0
      · subst last
        rfl
      simp only [if_neg last]
      by_cases more : later.isValid = true
      · rw [if_pos more]
        exact congrArg (Entry.ofAnswer answer :: ·) (ih (Nat.pos_of_ne_zero last) next more)
      · rw [if_neg more]
        obtain ⟨limit, rfl⟩ := Nat.exists_eq_succ_of_ne_zero last
        rw [Nat.succ_eq_add_one, validFrom, next]
        simp [more]

/-- Entries and missing entries add up, one too many after a failure. -/
theorem scanLoop_count :
    (FailsFrom answers remaining call →
      (scanLoop answers remaining (call + 1) answer).1.length +
        (scanLoop answers remaining (call + 1) answer).2 = remaining + 1) ∧
    (¬ FailsFrom answers remaining call →
      (scanLoop answers remaining (call + 1) answer).1.length +
        (scanLoop answers remaining (call + 1) answer).2 = remaining) := by
  induction remaining generalizing call answer with
  | zero => exact absurd positive (Nat.lt_irrefl _)
  | succ remaining ih =>
    rw [scanLoop, failsFrom_succ ⟨answer, current, valid⟩]
    simp only [if_pos valid]
    cases next : answers (call + 1) with
    | none =>
      refine ⟨fun _ => ?_, fun succeeds => absurd (.inl rfl) succeeds⟩
      show 1 + (remaining + 1) = remaining + 1 + 1
      omega
    | some later =>
      have answered : ¬ (some later = none) := fun none => by cases none
      simp only [answered, false_or]
      by_cases last : remaining = 0
      · subst last
        exact ⟨fun fails => absurd fails (not_failsFrom_zero answers _), fun _ => rfl⟩
      simp only [if_neg last]
      by_cases more : later.isValid = true
      · obtain ⟨failing, whole⟩ := ih (Nat.pos_of_ne_zero last) next more
        rw [if_pos more]
        constructor
        · intro fails
          have counted := failing fails
          rw [length_append, length_singleton]
          omega
        · intro succeeds
          have counted := whole succeeds
          rw [length_append, length_singleton]
          omega
      · rw [if_neg more]
        refine ⟨?_, fun _ => Nat.add_comm 1 remaining⟩
        rintro ⟨count, least, most, before, _⟩
        obtain ⟨same, isSame, isValid⟩ := before 0 least
        rw [Nat.add_zero, next] at isSame
        cases isSame
        exact absurd isValid more

end

theorem nresults_lt (answer : Answer) : nresults answer < 256 := by
  rw [nresults]
  split <;> omega

/-- The first answer, where a report is written. -/
def Starts (answers : Nat → Option Answer) (first : Answer) : Prop :=
  answers 0 = some first ∧ nresults first ≠ 0 ∧ first.isValid = true

/-- The valid entries that a scan has, no more than announced. -/
def reported (answers : Nat → Option Answer) : List Entry :=
  match answers 0 with
  | none => []
  | some first => (validFrom answers (nresults first) 0).map Entry.ofAnswer

theorem Starts.entries {first : Answer} (starts : Starts answers first) :
    ∃ padding, ScanResults.entries answers first =
        reported answers ++ List.replicate padding Entry.zero ∧
      (FailsFrom answers (nresults first) 0 →
        (ScanResults.entries answers first).length = nresults first + 1) ∧
      (¬ FailsFrom answers (nresults first) 0 →
        (ScanResults.entries answers first).length = nresults first) := by
  obtain ⟨current, some, valid⟩ := starts
  have positive := Nat.pos_of_ne_zero some
  have length : (ScanResults.entries answers first).length =
      (scanLoop answers (nresults first) (0 + 1) first).1.length +
        (scanLoop answers (nresults first) (0 + 1) first).2 := by
    rw [ScanResults.entries, length_append, length_replicate]
  have counted := scanLoop_count positive current valid
  rw [← length] at counted
  refine ⟨(scanLoop answers (nresults first) 1 first).2, ?_, counted⟩
  have written : (scanLoop answers (nresults first) 1 first).1 = reported answers := by
    rw [reported, current]
    exact scanLoop_entries positive current valid
  rw [ScanResults.entries, written]

theorem readScanResults_cases (answers : Nat → Option Answer) :
    ((readScanResults answers).1 = [] ∧ ∀ first, ¬ Starts answers first) ∨
    ∃ first, Starts answers first ∧ (readScanResults answers).1 =
      letterReport :: UInt8.ofNat (nresults first) ::
        (entries answers first).flatMap Entry.bytes := by
  rw [readScanResults]
  cases current : answers 0 with
  | none =>
    refine .inl ⟨rfl, ?_⟩
    rintro first ⟨isFirst, _⟩
    rw [current] at isFirst
    cases isFirst
  | some first =>
    dsimp only
    by_cases nothing : nresults first = 0 ∨ first.isValid = false
    · rw [if_pos nothing]
      refine .inl ⟨rfl, ?_⟩
      rintro other ⟨isFirst, some, valid⟩
      rw [current] at isFirst
      cases isFirst
      rcases nothing with zero | invalid
      · exact some zero
      · rw [invalid] at valid
        cases valid
    · rw [if_neg nothing]
      rw [not_or, Bool.not_eq_false] at nothing
      exact .inr ⟨first, ⟨current, nothing.1, nothing.2⟩, rfl⟩

section

variable (entries : List Entry)

theorem readEntries_bytes (rest : List UInt8) :
    readEntries entries.length (entries.flatMap Entry.bytes ++ rest) = some (entries, rest) := by
  induction entries with
  | nil => rfl
  | cons entry entries ih =>
    rw [flatMap_cons, append_assoc, length_cons, readEntries, Entry.read_bytes]
    show (readEntries entries.length (entries.flatMap Entry.bytes ++ rest)).bind _ = _
    rw [ih]
    rfl

theorem lastOk_append (entry : Entry) (index : Nat) (last : Int) :
    lastOk index last (entries ++ [entry]) =
      if entry.hasBssid then ((index + entries.length : Nat) : Int)
      else lastOk index last entries := by
  induction entries generalizing index last with
  | nil => rfl
  | cons first entries ih =>
    rw [cons_append, lastOk, ih, lastOk, length_cons]
    rw [show index + 1 + entries.length = index + (entries.length + 1) by omega]

theorem lastOk_bounds : -1 ≤ lastOk 0 (-1) entries ∧ lastOk 0 (-1) entries < entries.length := by
  induction entries using List.reverseRecOn with
  | nil => exact ⟨le_refl _, by decide⟩
  | append_singleton entries entry ih =>
    rw [lastOk_append, length_append, length_singleton]
    split <;> omega

theorem take_lastOk :
    entries.take (lastOk 0 (-1) entries + 1).toNat =
      entries.rdropWhile fun entry => !entry.hasBssid := by
  induction entries using List.reverseRecOn with
  | nil => rfl
  | append_singleton entries entry ih =>
    have bounds := lastOk_bounds entries
    rw [lastOk_append]
    by_cases address : entry.hasBssid = true
    · rw [if_pos address, rdropWhile_concat_neg _ _ _ (by simp [address])]
      exact take_of_length_le (by
        rw [length_append, length_singleton]
        omega)
    · rw [if_neg address, rdropWhile_concat_pos _ _ _ (by simp [address]), ← ih]
      exact take_append_of_le_length (by omega)

theorem rdropWhile_padding (padding : Nat) :
    (entries ++ List.replicate padding Entry.zero).rdropWhile (fun entry => !entry.hasBssid) =
      entries.rdropWhile fun entry => !entry.hasBssid := by
  induction padding with
  | zero => rw [replicate_zero, append_nil]
  | succ padding ih =>
    rw [replicate_succ', ← append_assoc, rdropWhile_concat_pos _ _ _ rfl, ih]

end

/-- The answers of one scan, and whether its event can be allocated. -/
structure Report where
  answers : Nat → Option Answer
  allocated : Bool

namespace Report

def bytes (report : Report) : List UInt8 := (readScanResults report.answers).1

/-- The results to be broadcast: the valid ones up to the last with an address. -/
def results (report : Report) : List Entry :=
  (reported report.answers).rdropWhile fun entry => !entry.hasBssid

/-- A report is nothing, or a letter, a count and as many entries. -/
def Framed (report : Report) : Prop :=
  report.bytes = [] ∨ ∃ (count : UInt8) (entries : List Entry), report.bytes =
    letterReport :: count :: entries.flatMap Entry.bytes ∧ entries.length = count.toNat

/-- The main thread takes the whole report. -/
def Consumed (report : Report) : Prop :=
  ∀ text, report.bytes = letterReport :: text → ∀ rest, ∃ results,
    handleScanResultsEvent report.allocated (text ++ rest) = some (results, rest)

/-- Once a report has been started, no call of the driver for it fails, and its event
can be allocated. -/
def Sound (report : Report) : Prop :=
  ∀ first, Starts report.answers first →
    ¬ FailsFrom report.answers (nresults first) 0 ∧ report.allocated = true

variable {report : Report} {first : Answer}

theorem count_toNat (first : Answer) : (UInt8.ofNat (nresults first)).toNat = nresults first := by
  rw [UInt8.toNat_ofNat']
  exact Nat.mod_eq_of_lt (nresults_lt first)

theorem bytes_of_starts (starts : Starts report.answers first) :
    report.bytes = letterReport :: UInt8.ofNat (nresults first) ::
      (entries report.answers first).flatMap Entry.bytes := by
  rcases readScanResults_cases report.answers with ⟨_, never⟩ | ⟨other, again, written⟩
  · exact absurd starts (never first)
  · have same : other = first := Option.some.inj (again.1.symm.trans starts.1)
    rw [same] at written
    exact written

theorem Sound.handle (sound : report.Sound) (starts : Starts report.answers first)
    (rest : List UInt8) :
    handleScanResultsEvent report.allocated (UInt8.ofNat (nresults first) ::
        ((entries report.answers first).flatMap Entry.bytes ++ rest)) =
      some (some report.results, rest) := by
  obtain ⟨succeeds, allocated⟩ := sound first starts
  obtain ⟨padding, whole, _, counted⟩ := starts.entries
  rw [handleScanResultsEvent, if_pos allocated, count_toNat, ← counted succeeds, readEntries_bytes]
  show some (some _, rest) = _
  rw [take_lastOk, whole, rdropWhile_padding]
  rfl

theorem Sound.framed (sound : report.Sound) : report.Framed := by
  rcases readScanResults_cases report.answers with ⟨nothing, _⟩ | ⟨first, starts, written⟩
  · exact .inl nothing
  · obtain ⟨_, _, _, counted⟩ := starts.entries
    exact .inr ⟨_, _, written, by rw [count_toNat, counted (sound first starts).1]⟩

theorem Sound.consumed (sound : report.Sound) : report.Consumed := by
  intro text split rest
  rcases readScanResults_cases report.answers with ⟨nothing, _⟩ | ⟨first, starts, written⟩
  · rw [bytes, nothing] at split
    cases split
  · rw [bytes, written] at split
    rw [← (List.cons.inj split).2]
    exact ⟨_, sound.handle starts rest⟩

theorem flatMap_bytes_length (entries : List Entry) :
    (entries.flatMap Entry.bytes).length = 40 * entries.length := by
  induction entries with
  | nil => rfl
  | cons entry entries ih =>
    rw [flatMap_cons, length_append, ih, Entry.bytes_length, length_cons]
    omega

theorem Framed.succeeds (framed : report.Framed) (starts : Starts report.answers first) :
    ¬ FailsFrom report.answers (nresults first) 0 := by
  intro fails
  obtain ⟨_, _, failing, _⟩ := starts.entries
  rcases framed with nothing | ⟨count, entries, written, length⟩
  · rw [bytes_of_starts starts] at nothing
    cases nothing
  · rw [bytes_of_starts starts] at written
    obtain ⟨same, text⟩ := List.cons.inj (List.cons.inj written).2
    have lengths := congrArg List.length text
    rw [flatMap_bytes_length, flatMap_bytes_length, failing fails, length, ← same,
      count_toNat] at lengths
    omega

theorem Consumed.allocated (consumed : report.Consumed) (starts : Starts report.answers first) :
    report.allocated = true := by
  by_contra missing
  obtain ⟨results, handled⟩ := consumed _ (bytes_of_starts starts) []
  rw [append_nil, handleScanResultsEvent, if_neg missing] at handled
  have left := (Prod.mk.inj (Option.some.inj handled)).2
  have lengths := congrArg List.length left
  obtain ⟨_, _, failing, counted⟩ := starts.entries
  have some := Nat.pos_of_ne_zero starts.2.1
  rw [flatMap_bytes_length, length_nil] at lengths
  by_cases fails : FailsFrom report.answers (nresults first) 0
  · rw [failing fails] at lengths
    omega
  · rw [counted fails] at lengths
    omega

end Report

/-- What the WiFi thread writes as long as it runs. -/
inductive Item where
  | report (scan : Report)
  | established
  | lost
  | requestFailed

namespace Item

def bytes : Item → List UInt8
  | .report scan => scan.bytes
  | .established => [69]
  | .lost => [76]
  | .requestFailed => [70]

/-- The event that the main thread is to make of it. -/
def events : Item → List Event
  | .report scan => if scan.bytes = [] then [] else [.scan scan.results]
  | .established => [.established]
  | .lost => [.lost]
  | .requestFailed => [.requestFailed]

def allocations : Item → List Bool
  | .report scan => if scan.bytes = [] then [] else [scan.allocated]
  | .established => []
  | .lost => []
  | .requestFailed => []

end Item

def stopLetter (stops : Bool) : List UInt8 := if stops then [83] else []
def stopEvent (stops : Bool) : List Event := if stops then [.stopped] else []

def pipeOf (items : List Item) (stops : Bool) : List UInt8 :=
  items.flatMap Item.bytes ++ stopLetter stops

/-- The events that the main thread makes of the pipe. -/
def decoded (items : List Item) (stops : Bool) : List Event :=
  handlePollfds ((pipeOf items stops).length + 1) (items.flatMap Item.allocations)
    (pipeOf items stops)

/-- Sound reports are read back one after the other. -/
theorem handlePollfds_items (items : List Item) (stops : Bool) {fuel : Nat}
    (enough : (pipeOf items stops).length < fuel)
    (sound : ∀ report, .report report ∈ items → Report.Sound report) :
    handlePollfds fuel (items.flatMap Item.allocations) (pipeOf items stops) =
      items.flatMap Item.events ++ stopEvent stops := by
  induction items generalizing fuel with
  | nil =>
    obtain ⟨fuel, rfl⟩ := Nat.exists_eq_succ_of_ne_zero (Nat.ne_of_gt (Nat.zero_lt_of_lt enough))
    cases stops <;> rfl
  | cons item items ih =>
    have later : ∀ report, .report report ∈ items → Report.Sound report :=
      fun report isIn => sound report (mem_cons_of_mem _ isIn)
    have split : pipeOf (item :: items) stops = item.bytes ++ pipeOf items stops := by
      rw [pipeOf, flatMap_cons, append_assoc]
      rfl
    rw [split, length_append] at enough
    obtain ⟨fuel, rfl⟩ := Nat.exists_eq_succ_of_ne_zero (Nat.ne_of_gt (Nat.zero_lt_of_lt enough))
    rw [split, flatMap_cons, flatMap_cons, append_assoc]
    cases item with
    | established =>
      simp only [Item.bytes, length_singleton] at enough
      exact congrArg (Event.established :: ·) (ih (by omega) later)
    | lost =>
      simp only [Item.bytes, length_singleton] at enough
      exact congrArg (Event.lost :: ·) (ih (by omega) later)
    | requestFailed =>
      simp only [Item.bytes, length_singleton] at enough
      exact congrArg (Event.requestFailed :: ·) (ih (by omega) later)
    | report report =>
      have isSound := sound report mem_cons_self
      rcases readScanResults_cases report.answers with ⟨nothing, _⟩ | ⟨first, starts, _⟩
      · have silent : report.bytes = [] := nothing
        simp only [Item.bytes, Item.allocations, Item.events, silent, if_true, nil_append]
        simp only [Item.bytes, silent, length_nil] at enough
        exact ih (by omega) later
      · have written := Report.bytes_of_starts starts
        have speaks : report.bytes ≠ [] := by
          rw [written]
          exact cons_ne_nil _ _
        simp only [Item.bytes, Item.allocations, Item.events, if_neg speaks]
        simp only [Item.bytes, written, length_cons] at enough
        have text : report.bytes ++ pipeOf items stops = letterReport ::
            UInt8.ofNat (nresults first) ::
              ((entries report.answers first).flatMap Entry.bytes ++ pipeOf items stops) := by
          rw [written]
          rfl
        have handled := isSound.handle starts (pipeOf items stops)
        rw [text, handlePollfds, if_neg (by decide), if_pos rfl, singleton_append,
          headD_cons, handled]
        exact congrArg (Event.scan report.results :: ·) (ih (by omega) later)

/-- Writer and reader agree on the framing of reports, and the main thread decodes what
the WiFi thread sent, exactly when no driver call fails within a report and the events
can be allocated. -/
theorem scanResults_framed_iff (items : List Item) (stops : Bool) :
    ((∀ report, .report report ∈ items → Report.Framed report ∧ Report.Consumed report) ∧
      decoded items stops = items.flatMap Item.events ++ stopEvent stops) ↔
    ∀ report, .report report ∈ items → Report.Sound report := by
  constructor
  · rintro ⟨reports, _⟩ report isIn first starts
    obtain ⟨framed, consumed⟩ := reports report isIn
    exact ⟨framed.succeeds starts, consumed.allocated starts⟩
  · intro sound
    refine ⟨fun report isIn => ?_, handlePollfds_items items stops (Nat.lt_succ_self _) sound⟩
    exact ⟨(sound report isIn).framed, (sound report isIn).consumed⟩

def oneNetwork : Answer :=
  ⟨1, 1, List.replicate 32 65, List.replicate 6 1, filled_length 32 65, filled_length 6 1⟩

/-- A scan of one network, behind which the driver fails. -/
def failing : Report := ⟨fun call => if call = 0 then some oneNetwork else none, true⟩

/-- It announces one entry and has two. -/
theorem failing_framing :
    failing.bytes.take 2 = [letterReport, 1] ∧ failing.bytes.length = 2 + 40 * 2 ∧
      ¬ failing.Framed := by
  refine ⟨by decide, by decide, fun framed => ?_⟩
  refine framed.succeeds (show Starts failing.answers oneNetwork from ⟨rfl, by decide, rfl⟩) ?_
  refine ⟨1, le_refl _, by decide, fun index less => ?_, rfl⟩
  rw [show index = 0 by omega]
  exact ⟨oneNetwork, rfl, rfl⟩

end Thingsee.Wifi.ScanResults
