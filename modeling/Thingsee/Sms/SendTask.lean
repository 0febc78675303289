import Thingsee.Modem.Types
import Thingsee.Sms.Multipart
import Thingsee.Support.Runs

/-!
Owns the task of `ubmodem_sms_send.c` that sends a message in PDU mode: the
configuration of the modem with its retries, the prompt for each part and the
writing of each part.

A task is between two callbacks: it waits for the response to a command or for
the retry timer. An input is such a response or the firing of the timer, with what
the callback finds: the level of the modem, whether there is memory for a text,
and whether a timer can be set. Sending in text mode is left out, and so are
failing writes to the serial port.

`pdulen` is unsigned, so that a failed `__ubmodem_prepare_pdu_string` is not
noticed. `send_task_reports_once_iff` says what becomes of the task otherwise.
-/

namespace Thingsee.Sms

open Support List
open Modem (RespStatus)

/-- `enum ubmodem_func_level_e`. -/
inductive FuncLevel where
  | poweredOff
  | stuckHardware
  | poweredOn
  | cmdPrompt
  | simEnabled
  | network
  | gprs

/-- Whether a level is at least `UBMODEM_LEVEL_NETWORK`. -/
def FuncLevel.hasNetwork : FuncLevel → Bool
  | .network | .gprs => true
  | _ => false

def isErrorOrTimeout : RespStatus → Bool
  | .error | .cmeError | .cmsError | .timeout => true
  | _ => false

/-- What the task waits for. `waiting` is for its start or for the retry timer. It
has ended after its result, and is `lost` when it has used the text that it has no
memory for. -/
inductive Stage where
  | waiting
  | config
  | prompt
  | write
  | ended
  | lost

structure Completion where
  number : UInt8
  text : List UInt8
  status : RespStatus

/-- `struct send_sms_priv_s`, for PDU mode. `results` is the record of calls of
`result_cb` and `completions` that of written parts. -/
structure SendTask where
  recvPdu : List UInt8
  msgPdu : List UInt8
  multiIter : MultipduIter
  configPos : Nat
  configRetries : Nat
  pdu : List UInt8
  stage : Stage
  results : List Bool
  completions : List Completion

/-- What a callback gets and finds. -/
structure Input where
  status : RespStatus
  level : FuncLevel
  allocated : Bool
  timerSet : Bool

/-- The number of commands in `sms_config_cmds_pdu_mode`. -/
def configLen : Nat := 3

/-- `MODEM_SEND_SMS_CONFIG_RETRIES`. -/
def configRetriesMax : Nat := 60

namespace SendTask

/-- The task calls `result_cb` and is freed. -/
def report (task : SendTask) (result : Bool) : SendTask :=
  { task with results := task.results ++ [result], stage := .ended }

def sendMultipartSmsPdu (task : SendTask) (input : Input) : SendTask :=
  if input.level.hasNetwork then
    match task.multiIter.preparePduString task.recvPdu task.msgPdu input.allocated with
    | (.done, iter) => { task with multiIter := iter }.report false
    -- `(size_t)-ENOMEM <= 0` does not hold, and the length of the SMSC is read through `NULL`.
    | (.outOfMemory, iter) => { task with multiIter := iter, stage := .lost }
    | (.pdu _ text, iter) => { task with multiIter := iter, pdu := text, stage := .prompt }
  else task.report false

def configureSms (task : SendTask) (input : Input) : SendTask :=
  if input.level.hasNetwork then
    if task.configPos < configLen then
      { task with configPos := task.configPos + 1, stage := .config }
    else task.report false
  else task.report false

def configureSmsHandler (task : SendTask) (input : Input) : SendTask :=
  if isErrorOrTimeout input.status then
    if task.configPos = configLen ∧ task.configRetries < configRetriesMax ∧
        input.level.hasNetwork then
      let task := { task with configPos := 0, configRetries := task.configRetries + 1 }
      if input.timerSet then { task with stage := .waiting } else task.configureSms input
    else task.report false
  else if task.configPos < configLen then task.configureSms input
  else task.sendMultipartSmsPdu input

def pduPromptHandler (task : SendTask) (input : Input) : SendTask :=
  if isErrorOrTimeout input.status ∨ input.status ≠ .dataprompt then task.report false
  else { task with stage := .write }

def pduWriteHandler (task : SendTask) (input : Input) : SendTask :=
  let completion : Completion := ⟨task.multiIter.partPos, task.pdu, input.status⟩
  let task := { task with completions := task.completions ++ [completion], pdu := [] }
  if isErrorOrTimeout input.status then task.report false
  else if task.multiIter.partPos < task.multiIter.partCount then task.sendMultipartSmsPdu input
  else task.report true

/-- One callback of the task. Nothing is called any more for a task that has
ended. -/
def step (task : SendTask) (input : Input) : SendTask :=
  match task.stage with
  | .waiting => task.configureSms input
  | .config => task.configureSmsHandler input
  | .prompt => task.pduPromptHandler input
  | .write => task.pduWriteHandler input
  | .ended | .lost => task

def run (task : SendTask) (inputs : List Input) : SendTask := inputs.foldl step task

/-- The task as `ubmodem_send_sms` makes it. -/
def prepared (recvPdu msgPdu : List UInt8) (iter : MultipduIter) : SendTask where
  recvPdu := recvPdu
  msgPdu := msgPdu
  multiIter := iter
  configPos := 0
  configRetries := 0
  pdu := []
  stage := .waiting
  results := []
  completions := []

/-- Every part has been written, without an error or a timeout. -/
def AllWritten (recvPdu msgPdu : List UInt8) (refNum : UInt8) (completions : List Completion) :
    Prop :=
  ∀ k, k < partCountFor msgPdu.length → ∃ completion ∈ completions,
    completion.number = UInt8.ofNat (k + 1) ∧
      completion.text = textAt recvPdu msgPdu refNum k ∧
      isErrorOrTimeout completion.status = false

/-- The task has called `result_cb` once, and has said how it went. -/
def ReportedOnce (recvPdu msgPdu : List UInt8) (refNum : UInt8) (task : SendTask) : Prop :=
  ∃ result, task.results = [result] ∧
    (result = true ↔ AllWritten recvPdu msgPdu refNum task.completions)

def needsMemory (task : SendTask) (input : Input) : Bool :=
  let sends : Bool :=
    match task.stage with
    | .config => decide (task.configPos = configLen)
    | .write => decide (task.multiIter.partPos < task.multiIter.partCount)
    | _ => false
  sends && !isErrorOrTimeout input.status && input.level.hasNetwork && !task.msgPdu.isEmpty

/-- The condition on a callback: there is memory if it needs some. -/
def hasMemory (task : SendTask) (input : Input) : Prop :=
  task.needsMemory input = true → input.allocated = true

instance (task : SendTask) (input : Input) : Decidable (task.hasMemory input) :=
  inferInstanceAs (Decidable (_ → _))

section Invariant

variable {recvPdu msgPdu : List UInt8} {refNum : UInt8} {k : Nat} {completions : List Completion}

/-- The first `k` parts have been written, and no other. -/
structure Written (recvPdu msgPdu : List UInt8) (refNum : UInt8) (k : Nat)
    (completions : List Completion) : Prop where
  parts : completions.map (fun completion => (completion.number, completion.text)) =
    (List.range k).map (fun j => (UInt8.ofNat (j + 1), textAt recvPdu msgPdu refNum j))
  successful : ∀ completion ∈ completions, isErrorOrTimeout completion.status = false

section

variable (written : Written recvPdu msgPdu refNum k completions)
include written

theorem Written.snoc {status : RespStatus} (successful : isErrorOrTimeout status = false) :
    Written recvPdu msgPdu refNum (k + 1)
      (completions ++ [⟨UInt8.ofNat (k + 1), textAt recvPdu msgPdu refNum k, status⟩]) where
  parts := by
    rw [map_append, written.parts, range_succ, map_append]
    rfl
  successful := by
    intro completion isCompletion
    rcases mem_append.mp isCompletion with old | new
    · exact written.successful completion old
    · rw [mem_singleton.mp new]
      exact successful

theorem Written.all (last : k = partCountFor msgPdu.length) :
    AllWritten recvPdu msgPdu refNum completions := by
  intro j inside
  have isPart : (UInt8.ofNat (j + 1), textAt recvPdu msgPdu refNum j) ∈
      completions.map (fun completion => (completion.number, completion.text)) := by
    rw [written.parts]
    exact mem_map.mpr ⟨j, mem_range.mpr (by omega), rfl⟩
  obtain ⟨completion, isCompletion, same⟩ := mem_map.mp isPart
  exact ⟨completion, isCompletion, (Prod.mk.inj same).1, (Prod.mk.inj same).2,
    written.successful completion isCompletion⟩

theorem Written.not_all (few : partCountFor msgPdu.length ≤ 255)
    (missing : k < partCountFor msgPdu.length) {failed : List Completion}
    (errors : ∀ completion ∈ failed, isErrorOrTimeout completion.status = true) :
    ¬ AllWritten recvPdu msgPdu refNum (completions ++ failed) := by
  intro all
  obtain ⟨completion, isCompletion, number, -, successful⟩ := all k missing
  rcases mem_append.mp isCompletion with old | new
  · have isPart := mem_map_of_mem
      (f := fun completion : Completion => (completion.number, completion.text)) old
    rw [written.parts] at isPart
    obtain ⟨j, inside, same⟩ := mem_map.mp isPart
    have sameNumber : UInt8.ofNat (j + 1) = UInt8.ofNat (k + 1) :=
      ((Prod.mk.inj same).1).trans number
    rw [← UInt8.toNat_inj, UInt8.toNat_ofNat', UInt8.toNat_ofNat'] at sameNumber
    have before := mem_range.mp inside
    omega
  · rw [errors completion new] at successful
    simp at successful

end

/-- What runs keep, as long as there is memory. -/
inductive Valid (recvPdu msgPdu : List UInt8) (refNum : UInt8) (task : SendTask) : Prop where
  | configuring
      (stage : (task.stage = .waiting ∧ task.configPos = 0) ∨
        (task.stage = .config ∧ 0 < task.configPos ∧ task.configPos ≤ configLen))
      (iter : task.multiIter = iterAt msgPdu.length refNum 0)
      (unwritten : task.completions = [])
      (unreported : task.results = [])
  | sending (k : Nat) (inside : k < partCountFor msgPdu.length)
      (stage : task.stage = .prompt ∨ task.stage = .write)
      (nonempty : msgPdu ≠ [])
      (iter : task.multiIter = iterAt msgPdu.length refNum (k + 1))
      (text : task.pdu = textAt recvPdu msgPdu refNum k)
      (written : Written recvPdu msgPdu refNum k task.completions)
      (unreported : task.results = [])
  | ended (stage : task.stage = .ended) (reported : ReportedOnce recvPdu msgPdu refNum task)

/-! ## Reports -/

theorem report_false_valid (task : SendTask) (few : partCountFor msgPdu.length ≤ 255)
    (missing : k < partCountFor msgPdu.length) {sent failed : List Completion}
    (isSent : task.completions = sent ++ failed) (written : Written recvPdu msgPdu refNum k sent)
    (errors : ∀ completion ∈ failed, isErrorOrTimeout completion.status = true)
    (unreported : task.results = []) : Valid recvPdu msgPdu refNum (task.report false) := by
  refine .ended rfl ⟨false, ?_, ?_⟩
  · rw [report, unreported]
    rfl
  · refine iff_of_false (by simp) ?_
    change ¬ AllWritten recvPdu msgPdu refNum task.completions
    rw [isSent]
    exact written.not_all few missing errors

theorem written_zero : Written recvPdu msgPdu refNum 0 [] := ⟨rfl, by simp⟩

section SendNext

variable {task : SendTask} {input : Input}
  (few : partCountFor msgPdu.length ≤ 255)
  (isRecv : task.recvPdu = recvPdu) (isMsg : task.msgPdu = msgPdu)
  (inside : k < partCountFor msgPdu.length)
  (iter : task.multiIter = iterAt msgPdu.length refNum k)
  (unreported : task.results = [])

include few isRecv isMsg inside iter unreported

theorem sendMultipartSmsPdu_valid (written : Written recvPdu msgPdu refNum k task.completions)
    (memory : input.level.hasNetwork = true → msgPdu ≠ [] → input.allocated = true) :
    Valid recvPdu msgPdu refNum (task.sendMultipartSmsPdu input) := by
  have refused (other : SendTask) (same : other.completions = task.completions)
      (noResult : other.results = task.results) :
      Valid recvPdu msgPdu refNum (other.report false) := by
    apply report_false_valid other few inside (same.trans (append_nil _).symm) written
    · simp
    · exact noResult.trans unreported
  unfold sendMultipartSmsPdu
  cases network : input.level.hasNetwork with
  | false => exact refused task rfl rfl
  | true =>
    rw [if_pos rfl, isRecv, isMsg, iter]
    by_cases nonempty : msgPdu = []
    · have done : (iterAt msgPdu.length refNum k).preparePduString recvPdu msgPdu
          input.allocated = (.done, iterAt msgPdu.length refNum k) := by
        rw [MultipduIter.preparePduString_eq]
        simp [MultipduIter.nextPayload, nonempty]
      rw [done]
      exact refused { task with
        recvPdu := recvPdu, msgPdu := msgPdu, multiIter := iterAt msgPdu.length refNum k } rfl rfl
    · rw [preparePduString_iterAt few nonempty inside, memory network nonempty]
      exact .sending k inside (Or.inl rfl) nonempty rfl rfl written unreported

omit few in
theorem sendMultipartSmsPdu_lost (few : partCountFor msgPdu.length ≤ 255)
    (network : input.level.hasNetwork = true) (nonempty : msgPdu ≠ [])
    (noMemory : input.allocated = false) :
    (task.sendMultipartSmsPdu input).stage = .lost ∧
      (task.sendMultipartSmsPdu input).results = [] := by
  unfold sendMultipartSmsPdu
  rw [if_pos network, isRecv, isMsg, iter, preparePduString_iterAt few nonempty inside, noMemory]
  exact ⟨rfl, unreported⟩

end SendNext

end Invariant

section Steps

variable {recvPdu msgPdu : List UInt8} {refNum : UInt8} {task : SendTask}

structure Reached (recvPdu msgPdu : List UInt8) (refNum : UInt8) (task : SendTask) : Prop where
  few : partCountFor msgPdu.length ≤ 255
  recv : task.recvPdu = recvPdu
  msg : task.msgPdu = msgPdu
  valid : Valid recvPdu msgPdu refNum task

theorem configureSms_valid (few : partCountFor msgPdu.length ≤ 255)
    (iter : task.multiIter = iterAt msgPdu.length refNum 0) (unwritten : task.completions = [])
    (unreported : task.results = []) (input : Input) (next : task.configPos < configLen) :
    Valid recvPdu msgPdu refNum (task.configureSms input) := by
  unfold configureSms
  rw [if_pos next]
  split
  · exact .configuring (Or.inr ⟨rfl, Nat.succ_pos _, next⟩) iter unwritten unreported
  · exact report_false_valid task few (partCountFor_pos _)
      (show task.completions = [] ++ [] from unwritten) written_zero (by simp) unreported

theorem partPos_lt_iff (few : partCountFor msgPdu.length ≤ 255) {k : Nat}
    (inside : k ≤ partCountFor msgPdu.length) :
    (iterAt msgPdu.length refNum k).partPos < (iterAt msgPdu.length refNum k).partCount ↔
      k < partCountFor msgPdu.length := by
  simp only [iterAt, UInt8.lt_iff_toNat_lt, UInt8.toNat_ofNat']
  omega

/-! ## Steps -/

theorem step_messages (task : SendTask) (input : Input) :
    (task.step input).recvPdu = task.recvPdu ∧ (task.step input).msgPdu = task.msgPdu := by
  have sent (task : SendTask) : (task.sendMultipartSmsPdu input).recvPdu = task.recvPdu ∧
      (task.sendMultipartSmsPdu input).msgPdu = task.msgPdu := by
    unfold sendMultipartSmsPdu
    split
    · split <;> exact ⟨rfl, rfl⟩
    · exact ⟨rfl, rfl⟩
  have configured (task : SendTask) : (task.configureSms input).recvPdu = task.recvPdu ∧
      (task.configureSms input).msgPdu = task.msgPdu := by
    unfold configureSms
    split_ifs <;> exact ⟨rfl, rfl⟩
  unfold step
  split
  · exact configured task
  · unfold configureSmsHandler
    split
    · split
      · dsimp only
        split
        · exact ⟨rfl, rfl⟩
        · exact configured _
      · exact ⟨rfl, rfl⟩
    · split
      · exact configured task
      · exact sent task
  · unfold pduPromptHandler
    split <;> exact ⟨rfl, rfl⟩
  · unfold pduWriteHandler
    dsimp only
    split
    · exact ⟨rfl, rfl⟩
    · split
      · exact sent _
      · exact ⟨rfl, rfl⟩
  · exact ⟨rfl, rfl⟩
  · exact ⟨rfl, rfl⟩

/-- With memory every completion keeps what has been reached. -/
theorem step_reached (task : SendTask) (input : Input)
    (reached : Reached recvPdu msgPdu refNum task) (memory : task.hasMemory input) :
    Reached recvPdu msgPdu refNum (task.step input) := by
  obtain ⟨few, isRecv, isMsg, valid⟩ := reached
  obtain ⟨keepsRecv, keepsMsg⟩ := task.step_messages input
  refine ⟨few, keepsRecv.trans isRecv, keepsMsg.trans isMsg, ?_⟩
  cases valid with
  | configuring stage iter unwritten unreported =>
    rcases stage with ⟨stage, start⟩ | ⟨stage, begun, within⟩
    · rw [step, stage]
      exact configureSms_valid few iter unwritten unreported input (by rw [start]; decide)
    · rw [step, stage]
      change Valid recvPdu msgPdu refNum (task.configureSmsHandler input)
      unfold configureSmsHandler
      cases failed : isErrorOrTimeout input.status with
      | true =>
        rw [if_pos rfl]
        split
        · dsimp only
          split
          · exact .configuring (Or.inl ⟨rfl, rfl⟩) iter unwritten unreported
          · apply configureSms_valid few
            · exact iter
            · exact unwritten
            · exact unreported
            · exact Nat.succ_pos _
        · exact report_false_valid task few (partCountFor_pos _)
            (show task.completions = [] ++ [] from unwritten) written_zero (by simp) unreported
      | false =>
        rw [if_neg (by simp)]
        split
        · next more => exact configureSms_valid few iter unwritten unreported input more
        · next complete =>
          apply sendMultipartSmsPdu_valid few isRecv isMsg (partCountFor_pos _) iter
            unreported
          · rw [unwritten]
            exact written_zero
          · intro network nonempty
            apply memory
            have last : task.configPos = configLen := by omega
            simp [needsMemory, stage, last, failed, network, isMsg, nonempty]
  | sending k inside stage nonempty iter text written unreported =>
    rcases stage with stage | stage
    · rw [step, stage]
      change Valid recvPdu msgPdu refNum (task.pduPromptHandler input)
      unfold pduPromptHandler
      split
      · exact report_false_valid task few inside (append_nil _).symm written (by simp)
          unreported
      · exact .sending k inside (Or.inr rfl) nonempty iter text written unreported
    · rw [step, stage]
      change Valid recvPdu msgPdu refNum (task.pduWriteHandler input)
      unfold pduWriteHandler
      dsimp only
      have number : task.multiIter.partPos = UInt8.ofNat (k + 1) := by rw [iter]; rfl
      rw [number, text]
      cases failed : isErrorOrTimeout input.status with
      | true =>
        rw [if_pos rfl]
        refine report_false_valid _ few inside rfl written ?_ unreported
        intro completion isCompletion
        rw [mem_singleton.mp isCompletion]
        exact failed
      | false =>
        rw [if_neg (by simp)]
        have successful := written.snoc failed
        have further : UInt8.ofNat (k + 1) < task.multiIter.partCount ↔
            k + 1 < partCountFor msgPdu.length := by
          rw [← number, iter]
          exact partPos_lt_iff few inside
        split
        · next more =>
          refine sendMultipartSmsPdu_valid few ?_ ?_ (further.mp more) ?_ ?_ successful ?_
          · exact isRecv
          · exact isMsg
          · exact iter
          · exact unreported
          · intro network nonempty
            apply memory
            rw [← number] at more
            simp [needsMemory, stage, more, failed, network, isMsg, nonempty]
        · next noMore =>
          have last : k + 1 = partCountFor msgPdu.length := by
            rw [further] at noMore
            omega
          refine .ended rfl ⟨true, ?_, iff_of_true rfl (successful.all last)⟩
          rw [report, unreported]
          rfl
  | ended stage reported =>
    rw [step, stage]
    exact .ended stage reported

theorem step_lost {input : Input} (reached : Reached recvPdu msgPdu refNum task)
    (noMemory : ¬ task.hasMemory input) :
    (task.step input).stage = .lost ∧ (task.step input).results = [] := by
  obtain ⟨few, isRecv, isMsg, valid⟩ := reached
  obtain ⟨needed, unallocated⟩ := Classical.not_imp.mp noMemory
  rw [Bool.not_eq_true] at unallocated
  simp only [needsMemory, Bool.and_eq_true, Bool.not_eq_true', isEmpty_eq_false_iff]
    at needed
  obtain ⟨⟨⟨sends, successful⟩, network⟩, someMsg⟩ := needed
  rw [isMsg] at someMsg
  cases valid with
  | configuring stage iter unwritten unreported =>
    rcases stage with ⟨stage, -⟩ | ⟨stage, -⟩
    · simp [stage] at sends
    · simp only [stage, decide_eq_true_eq] at sends
      have handled : task.step input = task.sendMultipartSmsPdu input := by
        simp [step, stage, configureSmsHandler, successful, sends]
      rw [handled]
      exact sendMultipartSmsPdu_lost isRecv isMsg (partCountFor_pos _) iter unreported few
        network someMsg unallocated
  | sending k inside stage nonempty iter text written unreported =>
    rcases stage with stage | stage
    · simp [stage] at sends
    · simp only [stage, decide_eq_true_eq] at sends
      have further : k + 1 < partCountFor msgPdu.length := by
        rw [iter] at sends
        exact (partPos_lt_iff few inside).mp sends
      have handled : task.step input =
          { task with
            completions := task.completions ++
              [(⟨task.multiIter.partPos, task.pdu, input.status⟩ : Completion)]
            pdu := [] }.sendMultipartSmsPdu input := by
        simp [step, stage, pduWriteHandler, successful, sends]
      rw [handled]
      refine sendMultipartSmsPdu_lost (show _ = recvPdu from ?_) ?_ further
        (show _ = iterAt msgPdu.length refNum (k + 1) from ?_) ?_ few network someMsg unallocated
      · exact isRecv
      · exact isMsg
      · exact iter
      · exact unreported
  | ended stage _ => simp [stage] at sends

def pending (task : SendTask) : Nat :=
  let parts := partCountFor task.msgPdu.length
  match task.stage with
  | .waiting => 2 * parts + 7 + 5 * (configRetriesMax - task.configRetries)
  | .config =>
    2 * parts + 3 + (configLen - task.configPos) + 5 * (configRetriesMax - task.configRetries)
  | .prompt => 2 + 2 * (parts - task.multiIter.partPos.toNat)
  | .write => 1 + 2 * (parts - task.multiIter.partPos.toNat)
  | .ended | .lost => 0

theorem configureSms_pending (task : SendTask) (input : Input) :
    (task.configureSms input).pending ≤
      2 * partCountFor task.msgPdu.length + 3 + (configLen - (task.configPos + 1)) +
        5 * (configRetriesMax - task.configRetries) := by
  unfold configureSms
  split_ifs
  · exact Nat.le_refl _
  · exact Nat.zero_le _
  · exact Nat.zero_le _

theorem sendMultipartSmsPdu_pending {k : Nat} (few : partCountFor task.msgPdu.length ≤ 255)
    (inside : k < partCountFor task.msgPdu.length)
    (iter : task.multiIter = iterAt task.msgPdu.length refNum k) (input : Input) :
    (task.sendMultipartSmsPdu input).pending ≤ 2 * (partCountFor task.msgPdu.length - k) := by
  unfold sendMultipartSmsPdu
  split
  · split
    · exact Nat.zero_le _
    · exact Nat.zero_le _
    · next pdulen text next isPrepared =>
      rw [iter, MultipduIter.preparePduString_eq] at isPrepared
      dsimp only at isPrepared
      have partPos : next.partPos = UInt8.ofNat k + 1 := by
        split_ifs at isPrepared
        · simp at isPrepared
        · exact ((Prod.mk.inj isPrepared).2 ▸ rfl)
        · simp at isPrepared
      simp only [pending, partPos, UInt8.toNat_add, UInt8.toNat_ofNat', UInt8.toNat_one]
      omega
  · exact Nat.zero_le _

/-- Every completion lowers what is still pending. -/
theorem step_pending (task : SendTask) (input : Input)
    (reached : Reached recvPdu msgPdu refNum task) :
    (task.step input).pending ≤ task.pending - 1 := by
  obtain ⟨few, isRecv, isMsg, valid⟩ := reached
  subst isMsg
  cases valid with
  | configuring stage iter unwritten unreported =>
    rcases stage with ⟨stage, start⟩ | ⟨stage, begun, within⟩
    · have here : task.pending = 2 * partCountFor task.msgPdu.length + 7 +
          5 * (configRetriesMax - task.configRetries) := by
        simp only [pending, stage]
      have isStep : task.step input = task.configureSms input := by rw [step, stage]
      have bound := task.configureSms_pending input
      rw [isStep, here]
      unfold configLen at bound
      omega
    · have here : task.pending = 2 * partCountFor task.msgPdu.length + 3 +
          (configLen - task.configPos) + 5 * (configRetriesMax - task.configRetries) := by
        simp only [pending, stage]
      have isStep : task.step input = task.configureSmsHandler input := by rw [step, stage]
      rw [isStep, here]
      unfold configureSmsHandler
      split
      · split
        · next retry =>
          have retries := retry.2.1
          split
          · simp only [pending]
            omega
          · refine Nat.le_trans (configureSms_pending _ input) ?_
            dsimp only
            unfold configLen
            omega
        · exact Nat.zero_le _
      · split
        · next more =>
          have bound := task.configureSms_pending input
          omega
        · have bound := sendMultipartSmsPdu_pending few (partCountFor_pos _) iter input
          omega
  | sending k inside stage nonempty iter text written unreported =>
    have partPos : task.multiIter.partPos.toNat = k + 1 := by
      rw [iter]
      simp only [iterAt, UInt8.toNat_ofNat']
      omega
    rcases stage with stage | stage
    · have here : task.pending = 2 + 2 * (partCountFor task.msgPdu.length - (k + 1)) := by
        simp only [pending, stage, partPos]
      have isStep : task.step input = task.pduPromptHandler input := by rw [step, stage]
      rw [isStep, here]
      unfold pduPromptHandler
      split
      · exact Nat.zero_le _
      · simp only [pending, partPos]
        omega
    · have here : task.pending = 1 + 2 * (partCountFor task.msgPdu.length - (k + 1)) := by
        simp only [pending, stage, partPos]
      have isStep : task.step input = task.pduWriteHandler input := by rw [step, stage]
      rw [isStep, here]
      unfold pduWriteHandler
      dsimp only
      split
      · exact Nat.zero_le _
      · split
        · next more =>
          rw [iter] at more
          have further := (partPos_lt_iff few inside).mp more
          have bound := @sendMultipartSmsPdu_pending refNum
            { task with
              completions := task.completions ++
                [(⟨task.multiIter.partPos, task.pdu, input.status⟩ : Completion)]
              pdu := [] } (k + 1) few further iter input
          dsimp only at bound
          omega
        · exact Nat.zero_le _
  | ended stage _ =>
    rw [step, stage]
    simp [pending, stage]

theorem prepared_reached {iter : MultipduIter}
    (started : pduMultipartIteratorInit msgPdu.length refNum = some iter) :
    Reached recvPdu msgPdu refNum (prepared recvPdu msgPdu iter) := by
  obtain ⟨few, rfl⟩ := pduMultipartIteratorInit_eq_some started
  exact ⟨few, rfl, rfl, .configuring (Or.inl ⟨rfl, rfl⟩) rfl rfl rfl⟩

theorem run_lost (lost : task.stage = .lost) (inputs : List Input) : task.run inputs = task := by
  induction inputs with
  | nil => rfl
  | cons input rest ih =>
    have same : task.step input = task := by rw [step, lost]
    rw [run, foldl_cons, same]
    exact ih

/-- Without memory for a command nothing is ever reported. -/
theorem run_without_memory (reached : Reached recvPdu msgPdu refNum task) {inputs : List Input}
    (noMemory : ¬ Guarded step hasMemory task inputs) : (task.run inputs).results = [] := by
  induction inputs generalizing task with
  | nil => exact absurd trivial noMemory
  | cons input rest ih =>
    by_cases memory : task.hasMemory input
    · apply ih (step_reached task input reached memory)
      intro others
      exact noMemory ⟨memory, others⟩
    · obtain ⟨lost, noResult⟩ := step_lost reached memory
      change ((task.step input).run rest).results = []
      rw [run_lost lost]
      exact noResult

theorem Valid.at_most_once (valid : Valid recvPdu msgPdu refNum task) :
    task.results.length ≤ 1 := by
  cases valid with
  | configuring _ _ _ unreported => simp [unreported]
  | sending _ _ _ _ _ _ _ unreported => simp [unreported]
  | ended _ reported =>
    obtain ⟨result, isResult, -⟩ := reported
    simp [isResult]

theorem Valid.reported_of_pending (valid : Valid recvPdu msgPdu refNum task)
    (none : task.pending = 0) : ReportedOnce recvPdu msgPdu refNum task := by
  cases valid with
  | configuring stage _ _ _ =>
    rcases stage with ⟨stage, -⟩ | ⟨stage, -⟩
    · simp [pending, stage] at none
    · simp [pending, stage] at none
  | sending _ _ stage _ _ _ _ _ =>
    rcases stage with stage | stage
    · simp [pending, stage] at none
    · simp [pending, stage] at none
  | ended _ reported => exact reported

/-- For every recipient, every message and every sequence of callbacks: the result
is reported at most once, and a sequence that is long enough has reported it,
exactly once and rightly, if and only if every callback has the memory it needs. -/
theorem send_task_reports_once_iff (recvPdu msgPdu : List UInt8) (refNum : UInt8)
    (iter : MultipduIter) (started : pduMultipartIteratorInit msgPdu.length refNum = some iter)
    (inputs : List Input) :
    let task := (prepared recvPdu msgPdu iter).run inputs
    task.results.length ≤ 1 ∧
      (2 * iter.partCount.toNat + 307 ≤ inputs.length →
        (ReportedOnce recvPdu msgPdu refNum task ↔
          Guarded step hasMemory (prepared recvPdu msgPdu iter) inputs)) := by
  intro task
  have start : Reached recvPdu msgPdu refNum (prepared recvPdu msgPdu iter) :=
    prepared_reached started
  have kept (memory : Guarded step hasMemory (prepared recvPdu msgPdu iter) inputs) :
      Reached recvPdu msgPdu refNum task :=
    foldl_invariant _ step_reached start memory
  by_cases memory : Guarded step hasMemory (prepared recvPdu msgPdu iter) inputs
  · refine ⟨(kept memory).valid.at_most_once, ?_⟩
    intro long
    refine iff_of_true ((kept memory).valid.reported_of_pending ?_) memory
    have bound := foldl_measure _ pending step_reached
      (fun task input reached _ => step_pending task input reached) start memory
    have count : iter.partCount.toNat = partCountFor msgPdu.length := by
      obtain ⟨few, rfl⟩ := pduMultipartIteratorInit_eq_some started
      simp only [iterAt, UInt8.toNat_ofNat']
      omega
    have first : (prepared recvPdu msgPdu iter).pending = 2 * iter.partCount.toNat + 307 := by
      rw [count]
      rfl
    change task.pending ≤ _ at bound
    omega
  · have none : task.results = [] := run_without_memory start memory
    refine ⟨by simp [none], ?_⟩
    intro _
    refine iff_of_false ?_ memory
    rintro ⟨result, isResult, -⟩
    rw [none] at isResult
    simp at isResult

/-- A callback with the status `status`, of a modem that is connected. -/
def connected (status : RespStatus) (allocated : Bool) : Input :=
    ⟨status, .network, allocated, true⟩

/-- The responses to the configuration of the modem, and then one for the prompt and
the writing of a part. -/
def responses (allocated : Bool) : List Input :=
  [connected .ok true, connected .ok true, connected .ok true, connected .ok allocated,
    connected .dataprompt true, connected .ok true] ++ List.replicate 303 (connected .ok true)

theorem send_task_reports_one_part :
    ReportedOnce [0x91, 0x34, 0x12] [0, 97] 0 ((prepared [0x91, 0x34, 0x12] [0, 97]
      ⟨0, 0, 1, 0⟩).run (responses true)) :=
  ((send_task_reports_once_iff [0x91, 0x34, 0x12] [0, 97] 0 ⟨0, 0, 1, 0⟩ (by decide)
    (responses true)).2 (by decide +kernel)).mpr (by decide +kernel)

/-- There is no memory for the text of the only part. -/
theorem send_task_without_memory :
    ¬ ReportedOnce [0x91, 0x34, 0x12] [0, 97] 0 ((prepared [0x91, 0x34, 0x12] [0, 97]
      ⟨0, 0, 1, 0⟩).run (responses false)) := by
  rintro ⟨result, isResult, -⟩
  have none : ((prepared [0x91, 0x34, 0x12] [0, 97] ⟨0, 0, 1, 0⟩).run
      (responses false)).results = [] := by
    decide +kernel
  rw [none] at isResult
  simp at isResult

end Steps

end SendTask

end Thingsee.Sms
