import Thingsee.Support.TextLines
import Thingsee.Support.Runs

/-!
Owns the upload of the engine logs (log.c): the send log file, its reader
`__ts_engine_log_process` and the results of the connector (main.c).

A line has a payload or none: that is the parameter `deserialize`. Files can always be
read and written. A request that the connector refuses at once is one that fails: the
retry timer calls `__ts_engine_log_process` as a failed result does.
-/

namespace Thingsee.Logs

open Support

def charsInOneSend : Nat := 2048

/-- `ENTRIES_PER_REQUEST`. -/
def maxEntries : Nat := 20

/-- `BAILOUT_ERROUR_COUNT`. -/
def bailoutErrorCount : Nat := 10

/-- The logs and `struct send_log`. A file is `none` when it does not exist, and
`position` is where the open send log is read next. The last three fields are a record
for the statements: the request without a result, the payloads of the requests that the
connector completed since the send log was created, and the send logs that were removed
with such payloads of theirs. -/
structure SendLog (P : Type) where
  sends : Option (List UInt8)
  events : Option (List UInt8)
  causes : Option (List UInt8)
  position : Option Nat
  entriesPerRequest : Nat
  offset : Nat
  errcount : Nat
  outstanding : Option (List P)
  delivered : List P
  removed : List (List UInt8 × List P)

section

variable {P : Type} (deserialize : List UInt8 → Option P)

/-- The loop of `__ts_engine_log_process` over the lines behind the file offset: the
payloads of the request and how many characters were read, or `none` at the end of the
file. -/
def gather (entries : Nat) :
    List (List UInt8) → Nat → List P → Nat → Option (List P × Nat)
  | [], _, payloads, consumed =>
    if payloads.length < entries then
      if payloads.length = 0 then none else some (payloads, consumed)
    else some (payloads, consumed)
  | line :: rest, len, payloads, consumed =>
    if payloads.length < entries then
      if charsInOneSend < len + line.length then
        -- The length of the skipped line stays in `len`.
        if payloads.length = 0 then
          gather entries rest (len + line.length) payloads (consumed + line.length)
        else some (payloads, consumed + line.length)
      else
        match deserialize line with
        | some payload =>
          gather entries rest (len + line.length) (payloads ++ [payload])
            (consumed + line.length)
        | none => gather entries rest (len + line.length) payloads (consumed + line.length)
    else some (payloads, consumed)

namespace SendLog

def text (log : SendLog P) : List UInt8 := log.sends.getD []

def finish (removeSendFile : Bool) (log : SendLog P) : SendLog P :=
  if removeSendFile then
    { log with position := none, sends := none, delivered := [],
               removed := log.removed ++ [(log.text, log.delivered)] }
  else { log with position := none }

def fill (start : Nat) (log : SendLog P) : SendLog P :=
  match gather deserialize log.entriesPerRequest (readLines (log.text.drop start)) 0 [] 0 with
  | none => log.finish true
  | some (payloads, consumed) =>
    { log with position := some (start + consumed), outstanding := some payloads }

/-- `__ts_engine_log_process`. -/
def process (retry : Bool) (log : SendLog P) : SendLog P :=
  match log.position with
  | none => log
  | some position =>
    if retry then
      if bailoutErrorCount ≤ log.errcount + 1 then
        { log with errcount := log.errcount + 1 }.finish false
      else { log with errcount := log.errcount + 1 }.fill deserialize log.offset
    else { log with offset := position, errcount := 0 }.fill deserialize position

/-- `append_log`: a log that exists is copied behind the send log. -/
def copied (sends : Option (List UInt8)) : Option (List UInt8) → Option (List UInt8)
  | none => sends
  | some text => some (sends.getD [] ++ text)

def appendLogs (log : SendLog P) : SendLog P :=
  { log with sends := copied (copied log.sends log.events) log.causes,
             events := none, causes := none }

/-- `__ts_engine_log_start`. -/
def start (multisend : Bool) (log : SendLog P) : SendLog P :=
  match log.position, log.appendLogs.sends with
  | some _, _ => log.appendLogs
  | none, none => log.appendLogs
  | none, some _ =>
    { log.appendLogs with
      position := some 0,
      entriesPerRequest := if multisend then maxEntries else 1 }.process deserialize false

/-- The result of the request in `engine_ctrl_cb`. -/
def result (success : Bool) (log : SendLog P) : SendLog P :=
  match log.outstanding with
  | none => log
  | some request =>
    { log with
      outstanding := none,
      delivered := if success then log.delivered ++ request else log.delivered }.process
        deserialize (!success)

end SendLog

/-- What happens to the logs. -/
inductive LogStep where
  | event (entry : List UInt8)
  | cause (entry : List UInt8)
  | start (multisend : Bool)
  | result (success : Bool)

/-- One step: `__ts_engine_log_payload`, `__ts_engine_log_start` or a result. -/
def SendLog.step (log : SendLog P) : LogStep → SendLog P
  | .event entry => { log with events := some (log.events.getD [] ++ entry) }
  | .cause entry => { log with causes := some (log.causes.getD [] ++ entry) }
  | .start multisend => log.start deserialize multisend
  | .result success => log.result deserialize success

/-- The payloads of the lines that are not too long for a request. -/
def wanted (lines : List (List UInt8)) : List P :=
  (lines.filter (fun line => decide (line.length ≤ charsInOneSend))).filterMap deserialize

/-- The reader frees no line that is wanted: where the lines that it reads get too long
together, the next one is not wanted, and neither are those behind it when there is no
payload yet. -/
def Fits (entries : Nat) (lines : List (List UInt8)) : Prop :=
  ∀ before line after, lines = before ++ line :: after →
    before.flatten.length ≤ charsInOneSend →
    charsInOneSend < before.flatten.length + line.length →
    (before.filterMap deserialize).length < entries →
    wanted deserialize [line] = [] ∧
      (before.filterMap deserialize = [] → wanted deserialize after = [])

def SendLog.Careful (log : SendLog P) : LogStep → Prop
  | .event _ => True
  | .cause _ => True
  | .start multisend =>
    match log.position with
    | some position =>
      log.events.isSome = true ∨ log.causes.isSome = true → Ended (log.text.take position)
    | none =>
      log.delivered = [] ∧
        Fits deserialize (if multisend then maxEntries else 1) (readLines log.appendLogs.text)
  | .result success =>
    match log.position with
    | some position =>
      if success then
        Fits deserialize log.entriesPerRequest (readLines (log.text.drop position))
      else
        log.errcount + 1 < bailoutErrorCount →
          Fits deserialize log.entriesPerRequest (readLines (log.text.drop log.offset))
    | none => True

/-- Nothing has been sent yet, and the logs may have any contents. -/
structure SendLog.Initial (log : SendLog P) : Prop where
  closed : log.position = none
  idle : log.outstanding = none
  fresh : log.delivered = []
  kept : log.removed = []

end

end Thingsee.Logs
