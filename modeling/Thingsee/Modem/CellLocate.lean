import Thingsee.Support.Runs

/-!
Owns the cell location of `apps/system/ubmodem/ubmodem_cell_locate.c`: the requests, the tasks that
start them, the command `AT+ULOC`, the report `+UULOC`, and the timer that guards its arrival.

That memory is found and that a timer can be set is taken for granted. The contents of reports and
events, and the power management, are not here.
-/

namespace Thingsee.Modem.CellLocate

open Support

/-- A call of `ubmodem_start_cell_locate` that returned `OK`, or an event of the application with
the request whose timer it comes from. -/
inductive Entry where
  | accepted (request : Nat)
  | event (timer : Option Nat)
deriving DecidableEq

/-- What `struct ubmodem_s` has for cell location. Requests are numbered. The timers are those of
`uuloc_timeout_handler`, each with its request, and the log has its last entry in front. -/
structure Ubmodem where
  gprs : Bool
  closing : Bool
  cellLocateUrcRegistered : Bool
  cellLocateTimerId : Option Nat
  timers : List (Nat × Nat)
  tasks : List Nat
  command : Option Nat
  requests : Nat
  log : List Entry

namespace Ubmodem

def initialized : Ubmodem := ⟨false, false, false, none, [], [], none, 0, []⟩

def publish (timer : Option Nat) (modem : Ubmodem) : Ubmodem :=
  { modem with log := .event timer :: modem.log }

/-- `__ubmodem_cell_locate_cleanup`, called for the timer of a request or for none. -/
def cellLocateCleanup (gotCelllocateEvent : Bool) (timer : Option Nat) (modem : Ubmodem) :
    Ubmodem :=
  let stopped :=
    match modem.cellLocateTimerId with
    | some id =>
      { modem with
        timers := modem.timers.filter fun timer => timer.1 ≠ id
        cellLocateTimerId := none }
    | none => modem
  if stopped.cellLocateUrcRegistered then
    let published := if gotCelllocateEvent then stopped else stopped.publish timer
    { published with cellLocateUrcRegistered := false }
  else stopped

/-- `urc_cell_locate_handler`. -/
def urcCellLocateHandler (modem : Ubmodem) : Ubmodem :=
  (modem.cellLocateCleanup true none).publish none

/-- `uuloc_timeout_handler`. -/
def uulocTimeoutHandler (request : Nat) (modem : Ubmodem) : Ubmodem :=
  { modem with cellLocateTimerId := none }.cellLocateCleanup false (some request)

/-- `set_ATpULOC_handler`, which does the same for every status. The timer has `timerId`. -/
def setAtpulocHandler (timerId request : Nat) (modem : Ubmodem) : Ubmodem :=
  { modem with
    timers := (timerId, request) :: modem.timers
    cellLocateTimerId := some timerId }

/-- `start_cell_locate`. -/
def startCellLocate (request : Nat) (modem : Ubmodem) : Ubmodem :=
  if modem.gprs then
    let registered :=
      if modem.cellLocateUrcRegistered then modem
      else { modem with cellLocateTimerId := none, cellLocateUrcRegistered := true }
    { registered with command := some request }
  else modem.publish none

/-- `ubmodem_start_cell_locate`. -/
def ubmodemStartCellLocate (modem : Ubmodem) : Ubmodem :=
  if modem.gprs ∧ modem.cellLocateUrcRegistered = false then
    { modem with
      tasks := modem.tasks ++ [modem.requests]
      requests := modem.requests + 1
      log := .accepted modem.requests :: modem.log }
  else modem

end Ubmodem

/-- A call, the next task, the answer to the command with the identifier of the timer that is set,
the report `+UULOC`, the expiry of a timer, and the level: it is reached, it is about to be closed
and it is lost. -/
inductive Event where
  | call
  | task
  | answer (timerId : Nat)
  | urc
  | timer (id : Nat)
  | reached
  | close
  | lost

namespace Ubmodem

/-- Tasks wait for the answer to a command, and for the end of `AT+CGATT=0`. A new timer has an
identifier that no other one has. -/
def step (modem : Ubmodem) : Event → Ubmodem
  | .call => modem.ubmodemStartCellLocate
  | .task =>
    match modem.tasks with
    | request :: tasks =>
      if modem.command = none ∧ modem.closing = false then
        { modem with tasks }.startCellLocate request
      else modem
    | [] => modem
  | .answer timerId =>
    match modem.command with
    | some request =>
      if timerId ∈ modem.timers.map Prod.fst then modem
      else { modem with command := none }.setAtpulocHandler timerId request
    | none => modem
  | .urc => if modem.cellLocateUrcRegistered then modem.urcCellLocateHandler else modem
  | .timer id =>
    match modem.timers.find? fun timer => timer.1 = id with
    | some timer =>
      { modem with timers := modem.timers.erase timer }.uulocTimeoutHandler timer.2
    | none => modem
  | .reached => if modem.closing then modem else { modem with gprs := true }
  | .close =>
    if modem.gprs ∧ modem.command = none then
      { modem.cellLocateCleanup false none with closing := true }
    else modem
  | .lost =>
    if modem.gprs then
      let cleaned := if modem.closing then modem else modem.cellLocateCleanup false none
      { cleaned with gprs := false, closing := false }
    else modem

end Ubmodem

/-- The request that has no event yet, if the last entry is that it was accepted. -/
def waiting : List Entry → Option Nat
  | .accepted request :: _ => some request
  | _ => none

/-- Each request has one event before the next one is accepted, and no event comes from the timer
of another request. -/
def Answered : List Entry → Prop
  | [] => True
  | .accepted _ :: log => waiting log = none ∧ Answered log
  | .event timer :: log =>
    (∃ request, waiting log = some request ∧ ∀ owner ∈ timer, owner = request) ∧ Answered log

/-- What is expected of each state. A request has its event with its report, its timer and the
loss of the level, and a timer waits for the request in progress. -/
structure Ubmodem.Right (modem : Ubmodem) : Prop where
  answered : Answered modem.log
  lost : modem.gprs = false → waiting modem.log = none
  soon : ∀ request, waiting modem.log = some request → request ∉ modem.tasks →
    waiting (modem.step .urc).log = none ∧ waiting (modem.step .lost).log = none ∧
      ∀ id, (id, request) ∈ modem.timers → waiting (modem.step (.timer id)).log = none
  pending : modem.timers.map Prod.fst = modem.cellLocateTimerId.toList
  idle : modem.cellLocateUrcRegistered = false → modem.timers = []

/-- No request is accepted, and the level is not lost, while a request waits for its task, and
commands are answered before the request has its event. -/
def Ubmodem.Kept (modem : Ubmodem) : Event → Prop
  | .call => modem.gprs = true → modem.cellLocateUrcRegistered = false → modem.tasks = []
  | .lost => modem.gprs = true → modem.tasks = []
  | .answer timerId => modem.command ≠ none → timerId ∉ modem.timers.map Prod.fst →
      modem.cellLocateUrcRegistered = true
  | _ => True

/-- The phases of a request: none, its task is queued, its command is sent, and its report is
guarded by the timer. A command may be left from an earlier request before it is sent. -/
inductive Ubmodem.Good : Ubmodem → Prop where
  | idle (gprs closing : Bool) (command : Option Nat) (requests : Nat) (log : List Entry) :
      waiting log = none → Answered log →
        Good ⟨gprs, closing, false, none, [], [], command, requests, log⟩
  | queued (closing : Bool) (command : Option Nat) (request requests : Nat) (log : List Entry) :
      waiting log = some request → Answered log →
        Good ⟨true, closing, false, none, [], [request], command, requests, log⟩
  | sent (request requests : Nat) (log : List Entry) :
      waiting log = some request → Answered log →
        Good ⟨true, false, true, none, [], [], some request, requests, log⟩
  | guarded (id request requests : Nat) (log : List Entry) :
      waiting log = some request → Answered log →
        Good ⟨true, false, true, some id, [(id, request)], [], none, requests, log⟩

open Ubmodem

theorem Answered.event {log : List Entry} {request : Nat} {timer : Option Nat}
    (waits : waiting log = some request) (answered : Answered log)
    (own : ∀ owner ∈ timer, owner = request) : Answered (.event timer :: log) :=
  ⟨⟨request, waits, own⟩, answered⟩

variable {modem : Ubmodem}

theorem cellLocateCleanup_guarded (got : Bool) (timer : Option Nat) (id request requests : Nat)
    (log : List Entry) :
    cellLocateCleanup got timer
        ⟨true, false, true, some id, [(id, request)], [], none, requests, log⟩ =
      ⟨true, false, false, none, [], [], none, requests,
        if got then log else .event timer :: log⟩ := by
  cases got <;> simp [cellLocateCleanup, publish]

theorem step_timer_guarded (id request requests : Nat) (log : List Entry) :
    Ubmodem.step ⟨true, false, true, some id, [(id, request)], [], none, requests, log⟩
        (.timer id) =
      ⟨true, false, false, none, [], [], none, requests, .event (some request) :: log⟩ := by
  simp [Ubmodem.step, uulocTimeoutHandler, cellLocateCleanup, publish]

theorem Ubmodem.Good.step (good : modem.Good) (event : Event) (kept : modem.Kept event) :
    (modem.step event).Good := by
  cases good with
  | idle gprs closing command requests log none answered =>
    have stays (gprs closing : Bool) :
        Good ⟨gprs, closing, false, .none, [], [], command, requests, log⟩ :=
      .idle gprs closing command requests log none answered
    cases event with
    | call =>
      cases gprs with
      | false => exact stays false closing
      | true => exact .queued closing command requests _ _ rfl ⟨none, answered⟩
    | answer timerId =>
      cases command with
      | none => exact stays gprs closing
      | some earlier => cases kept (Option.some_ne_none earlier) List.not_mem_nil
    | task | urc | timer id => exact stays gprs closing
    | reached =>
      cases closing with
      | false => exact stays true false
      | true => exact stays gprs true
    | close =>
      simp only [Ubmodem.step]
      split
      · exact stays gprs true
      · exact stays gprs closing
    | lost =>
      cases gprs <;> cases closing
      · exact stays false false
      · exact stays false true
      · exact stays false false
      · exact stays false false
  | queued closing command request requests log waits answered =>
    have stays (closing : Bool) :
        Good ⟨true, closing, false, .none, [], [request], command, requests, log⟩ :=
      .queued closing command request requests log waits answered
    cases event with
    | call => cases kept rfl rfl
    | task =>
      cases command with
      | some earlier => exact stays closing
      | none =>
        cases closing with
        | true => exact stays true
        | false => exact .sent request requests log waits answered
    | answer timerId =>
      cases command with
      | none => exact stays closing
      | some earlier => cases kept (Option.some_ne_none earlier) List.not_mem_nil
    | urc | timer id => exact stays closing
    | reached => cases closing <;> exact stays _
    | close =>
      simp only [Ubmodem.step]
      split
      · exact stays true
      · exact stays closing
    | lost => cases kept rfl
  | sent request requests log waits answered =>
    have ends (gprs : Bool) :
        Good ⟨gprs, false, false, .none, [], [], some request, requests, .event none :: log⟩ :=
      .idle gprs false _ requests _ rfl (answered.event waits (by simp))
    cases event with
    | answer timerId => exact .guarded timerId request requests log waits answered
    | urc => exact ends true
    | lost => exact ends false
    | call | task | timer id | reached | close => exact .sent request requests log waits answered
  | guarded id request requests log waits answered =>
    have ends (gprs closing : Bool) (timer : Option Nat) (own : ∀ owner ∈ timer, owner = request) :
        Good ⟨gprs, closing, false, .none, [], [], none, requests, .event timer :: log⟩ :=
      .idle gprs closing none requests _ rfl (answered.event waits own)
    have cleaned := cellLocateCleanup_guarded false none id request requests log
    cases event with
    | call | task | answer timerId | reached =>
      exact .guarded id request requests log waits answered
    | urc =>
      have told := cellLocateCleanup_guarded true none id request requests log
      simp only [Ubmodem.step, urcCellLocateHandler, told]
      exact ends true false none (by simp)
    | timer expired =>
      by_cases own : id = expired
      · subst own
        rw [step_timer_guarded]
        exact ends true false (some request) (by simp)
      · simp only [Ubmodem.step, List.find?_cons, own, decide_false, List.find?_nil]
        exact .guarded id request requests log waits answered
    | close =>
      simp only [Ubmodem.step, cleaned]
      exact ends true true none (by simp)
    | lost =>
      simp only [Ubmodem.step, cleaned]
      exact ends false false none (by simp)

theorem Ubmodem.Good.right (good : modem.Good) : modem.Right := by
  cases good with
  | idle gprs closing command requests log none answered =>
    refine ⟨answered, fun _ => none, fun request waits => ?_, rfl, fun _ => rfl⟩
    cases none.symm.trans waits
  | queued closing command request requests log waits answered =>
    refine ⟨answered, nofun, fun other same => ?_, rfl, fun _ => rfl⟩
    cases waits.symm.trans same
    exact fun absent => absurd (List.mem_singleton_self request) absent
  | sent request requests log waits answered =>
    exact ⟨answered, nofun, fun other _ _ => ⟨rfl, rfl, nofun⟩, rfl, nofun⟩
  | guarded id request requests log waits answered =>
    refine ⟨answered, nofun, fun other same _ => ⟨?_, ?_, fun expired member => ?_⟩, rfl, nofun⟩
    · rfl
    · simp only [Ubmodem.step, cellLocateCleanup_guarded]
      rfl
    · cases List.mem_singleton.mp member
      rw [step_timer_guarded]
      rfl

/-- A step that does not meet the condition goes wrong at once. -/
theorem Ubmodem.Good.kept_of_right (good : modem.Good) (event : Event)
    (right : (modem.step event).Right) : modem.Kept event := by
  cases good with
  | idle gprs closing command requests log none answered =>
    cases event with
    | answer timerId =>
      cases command with
      | none => exact nofun
      | some earlier => cases right.idle rfl
    | call => exact fun _ _ => rfl
    | lost => exact fun _ => rfl
    | task | urc | timer id | reached | close => trivial
  | queued closing command request requests log waits answered =>
    cases event with
    | call =>
      have before : waiting log = none := right.answered.1
      cases before.symm.trans waits
    | lost =>
      have after : waiting log = none := by cases closing <;> exact right.lost rfl
      cases after.symm.trans waits
    | answer timerId =>
      cases command with
      | none => exact nofun
      | some earlier => cases right.idle rfl
    | task | urc | timer id | reached | close => trivial
  | sent request requests log waits answered =>
    cases event <;> first | trivial | exact fun _ _ => rfl | exact fun _ => rfl
  | guarded id request requests log waits answered =>
    cases event <;> first | trivial | exact fun _ _ => rfl | exact fun _ => rfl

/-- **Every state of a run is as expected exactly if every step of the run meets the
condition.** -/
theorem run_right_iff (events : List Event) :
    (∀ reached, reached <+: events → (reached.foldl Ubmodem.step initialized).Right) ↔
      Guarded Ubmodem.step Ubmodem.Kept initialized events :=
  forall_prefix_iff_guarded_of_good Good Right (fun _ good => good.right)
    (fun _ event good kept => good.step event kept)
    (fun _ event good right => good.kept_of_right event right)
    (.idle false false none 0 [] rfl trivial) events

/-- The report of the first request comes before the answer to its command, and the timer that is
set then ends the second request. -/
def staleTimer : List Event :=
  [.reached, .call, .task, .urc, .answer 0, .call, .task, .answer 1, .timer 0]

theorem stale_timer_answers :
    (staleTimer.foldl Ubmodem.step initialized).log =
        [.event (some 0), .accepted 1, .event none, .accepted 0] ∧
      ¬ (staleTimer.foldl Ubmodem.step initialized).Right := by
  refine ⟨by decide, fun right => ?_⟩
  obtain ⟨request, waits, own⟩ := right.answered.1
  cases waits
  cases own 0 rfl

end Thingsee.Modem.CellLocate
