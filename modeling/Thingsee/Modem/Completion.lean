import Thingsee.Modem.Effects
import Thingsee.Support.Runs

/-!
Owns the order of callbacks. `advance` is the protocol between the parser and a
command's handler, event by event: a registration, then response lines, then one
final callback made with slot 0 inactive, and unsolicited results anywhere.
`Orderly` says that the log of a registry follows the protocol and that slot 0
is in use exactly while a registration is outstanding. Every step of every run
keeps it.

The main result is `command_completes_at_most_once`.
-/

namespace Thingsee.Modem

open Support List

variable {n : Nat}

/-- The protocol state after one more event: the registration that is
outstanding, if any. `none` outside means that the event breaks the protocol. -/
def advance (outstanding : Option (Command × Nat)) :
    Event n → Option (Option (Command × Nat))
  | .registered cmd callback =>
    if outstanding = none then some (some (cmd, callback)) else none
  | .called call =>
    if call.status = .urc then some outstanding
    else
      match outstanding with
      | none => none
      | some (cmd, callback) =>
        if call.source = .command ∧ call.cmd = cmd.toCmdDef ∧ call.callback = callback then
          if call.status = .line then some outstanding
          else if call.status.isFinal ∧ call.commandActive = false then some none
          else none
        else none

def Registry.outstanding (registry : Registry n) : Option (Command × Nat) :=
  if registry.command.active then some (registry.command.cmd, registry.command.callback) else none

/-- The log follows the protocol and ends with what slot 0 holds. -/
def Registry.Orderly (registry : Registry n) : Prop :=
  registry.log.foldlM advance none = some registry.outstanding

namespace Registry

variable {registry : Registry n} (reaction : Reaction n) {after : Registry n}

theorem orderly_of_event {event : Event n} (orderly : registry.Orderly)
    (logged : after.log = registry.log ++ [event])
    (follows : advance registry.outstanding event = some after.outstanding) : after.Orderly := by
  unfold Orderly at orderly ⊢
  rw [logged, foldlM_append, orderly]
  simpa using follows

theorem registerUrc_orderly (orderly : registry.Orderly) (cmd : Urc) (callback : Nat) :
    (registry.registerUrc cmd callback).Orderly := by
  unfold registerUrc
  split <;> exact orderly

theorem sendNow_orderly (registry : Registry n) (orderly : registry.Orderly) (cmd : Command)
    (callback : Nat) (written : Bool) : (registry.sendNow cmd callback written).Orderly := by
  unfold sendNow
  by_cases active : registry.command.active = true
  · simpa only [active, ↓reduceIte] using orderly
  · have free : registry.outstanding = none := by simp [outstanding, active]
    simp only [active, Bool.false_eq_true, ↓reduceIte]
    split
    · refine orderly_of_event orderly rfl ?_
      rw [free]
      simp [advance, outstanding, registerCommand, setupCommandTimeout]
    · refine orderly_of_event orderly rfl ?_
      rw [free]
      simp [advance, outstanding, registerCommand]

theorem delayedCommandCallback_orderly (orderly : registry.Orderly) (written : Bool) :
    (registry.delayedCommandCallback written).Orderly := by
  unfold delayedCommandCallback
  split
  · next cmd callback _ =>
    exact sendNow_orderly { registry with delayedCmd := none } orderly cmd callback written
  · exact orderly

theorem request_orderly (orderly : registry.Orderly) (asked : Request) :
    (registry.request asked).Orderly := by
  cases asked with
  | registerUrc cmd callback => exact registerUrc_orderly orderly cmd callback
  | sendCmd cmd callback timediff written =>
    simp only [request, sendCmd]
    split
    · exact orderly
    · split
      · exact orderly
      · exact sendNow_orderly registry orderly cmd callback written
  | sendRaw cmd callback written => exact sendNow_orderly registry orderly cmd callback written

theorem call_orderly (handler : HandlerRef n) (status : RespStatus) (errorcode : Int)
    (numParams : Nat) (stream : Option (List UInt8))
    (orderly : ({ registry with
      log := registry.log ++
        [.called ⟨handler, registry.callbackOf handler, registry.cmdOf handler, status, errorcode,
          numParams, stream, registry.command.active⟩] } : Registry n).Orderly) :
    (registry.call reaction handler status errorcode numParams stream).Orderly := by
  apply foldl_invariant_of_keeps Orderly
  · intro kept asked keptOrderly
    exact request_orderly keptOrderly asked
  · exact orderly

theorem final_orderly (orderly : registry.Orderly) (active : registry.command.active = true)
    {status : RespStatus} (final : status.isFinal = true) (errorcode : Int) (numParams : Nat)
    (stream : Option (List UInt8)) :
    ({ registry with
      command := { registry.command with active := false }
      cmdTimeout := none }.call reaction .command status errorcode numParams stream).Orderly := by
  apply call_orderly
  refine orderly_of_event orderly rfl ?_
  cases status <;>
    simp_all [advance, outstanding, RespStatus.isFinal, cmdOf, callbackOf]

theorem effect_orderly {reaction : Reaction n} {lineEnds : Prop} {urcEnds : Fin n → Prop}
    (orderly : registry.Orderly) (effect : Effect reaction lineEnds urcEnds registry after) :
    after.Orderly := by
  cases effect with
  | unchanged => exact orderly
  | unsolicited index ends numParams stream =>
    apply call_orderly
    refine orderly_of_event orderly rfl ?_
    simp only [advance, ↓reduceIte]
    rfl
  | responseLine active ends errorcode numParams stream =>
    apply call_orderly
    refine orderly_of_event orderly rfl ?_
    simp [advance, outstanding, disarm, active, cmdOf, callbackOf]
  | completed active status final errorcode numParams stream =>
    unfold completeCommand
    rw [unregister_command active]
    exact final_orderly reaction orderly active final errorcode numParams stream

end Registry

structure Parser.Protocol (parser : Parser n) : Prop where
  live : parser.Live
  orderly : parser.registry.Orderly

namespace Parser

theorem live_of_registry {parser : Parser n} (live : parser.Live) (registry : Registry n)
    (busy : parser.registry.command.active = true →
      registry.command = parser.registry.command) :
    ({ parser with registry := registry } : Parser n).Live := by
  intro reading
  obtain ⟨handler, isHandler, handlerLive⟩ := live reading
  refine ⟨handler, isHandler, ?_⟩
  cases handler with
  | urc index => trivial
  | command =>
    simp only [HandlerLive, busy handlerLive]
    exact handlerLive
  | internalError =>
    simp only [HandlerLive, busy handlerLive.1]
    exact handlerLive

end Parser

variable {registry : Registry n}

theorem Registry.sendNow_busy (active : registry.command.active = true) (cmd : Command)
    (callback : Nat) (written : Bool) :
    (registry.sendNow cmd callback written).command = registry.command := by
  simp [sendNow, active]

theorem Registry.request_busy (active : registry.command.active = true) (asked : Request) :
    (registry.request asked).command = registry.command := by
  cases asked with
  | registerUrc cmd callback =>
    simp only [request, registerUrc]
    split <;> rfl
  | sendCmd cmd callback timediff written =>
    simp only [request, sendCmd]
    split
    · rfl
    · split
      · rfl
      · exact sendNow_busy active cmd callback written
  | sendRaw cmd callback written => exact sendNow_busy active cmd callback written

theorem Registry.delayedCommandCallback_busy (active : registry.command.active = true)
    (written : Bool) : (registry.delayedCommandCallback written).command = registry.command := by
  unfold delayedCommandCallback
  split
  · next cmd callback _ =>
    have free : ({ registry with delayedCmd := none } : Registry n).command.active = true := active
    exact sendNow_busy free cmd callback written
  · rfl

namespace Parser

variable (reaction : Reaction n)

theorem step_protocol {parser : Parser n} (protocol : parser.Protocol) (input : Input) :
    (parser.step reaction input).Protocol := by
  cases input with
  | byte char =>
    obtain ⟨effect, live⟩ := parseByte_effect reaction protocol.live char
    exact ⟨live, Registry.effect_orderly protocol.orderly effect⟩
  | ask asked =>
    exact ⟨live_of_registry protocol.live _ (fun active => Registry.request_busy active asked),
      Registry.request_orderly protocol.orderly asked⟩
  | commandTimer =>
    simp only [step]
    split
    · by_cases active : parser.registry.command.active = true
      · simp only [commandTimeoutCallback, active, ↓reduceIte]
        rw [Registry.unregister_command active]
        exact ⟨live_reset rfl,
          Registry.final_orderly reaction protocol.orderly active rfl (-1) 0 none⟩
      · simpa only [commandTimeoutCallback, active, Bool.false_eq_true, ↓reduceIte]
          using protocol
    · exact protocol
  | delayedTimer written =>
    exact ⟨live_of_registry protocol.live _
        (fun active => Registry.delayedCommandCallback_busy active written),
      Registry.delayedCommandCallback_orderly protocol.orderly written⟩

theorem zeroed_protocol (n : Nat) : (zeroed n).Protocol where
  live := live_reset rfl
  orderly := rfl

theorem run_protocol (inputs : List Input) : ((zeroed n).run reaction inputs).Protocol := by
  apply foldl_invariant_of_keeps Protocol
  · intro parser input protocol
    exact step_protocol reaction protocol input
  · exact zeroed_protocol n

end Parser

def Event.commandCall? : Event n → Option (Callback n)
  | .called call => if call.status = .urc then none else some call
  | .registered _ _ => none

def Event.isCall : Event n → Bool
  | .called _ => true
  | .registered _ _ => false

/-- The callbacks made for a registration that was followed by `rest`: those of
the command's handler up to the next registration. -/
def callsOf (rest : List (Event n)) : List (Callback n) :=
  (rest.takeWhile Event.isCall).filterMap Event.commandCall?

/-- Whether a registration is outstanding after a log. -/
def registrationOpen (log : List (Event n)) : Bool :=
  log.foldl
    (fun isOpen event =>
      match event with
      | .registered _ _ => true
      | .called call => isOpen && !call.status.isFinal)
    false

/-- The callbacks of one registration: response lines, then at most one final
callback, made with slot 0 inactive. -/
structure CompletedOnce (cmd : Command) (callback : Nat) (calls : List (Callback n)) : Prop where
  shape : ∃ lines finals, calls = lines ++ finals ∧ (∀ call ∈ lines, call.status = .line) ∧
    finals.length ≤ 1 ∧
    ∀ call ∈ finals, call.status.isFinal = true ∧ call.commandActive = false
  sameHandler : ∀ call ∈ calls, call.cmd = cmd.toCmdDef ∧ call.callback = callback

theorem callsOf_called (call : Callback n) (rest : List (Event n)) :
    callsOf (.called call :: rest) =
      if call.status = .urc then callsOf rest else call :: callsOf rest := by
  unfold callsOf
  rw [takeWhile_cons_of_pos rfl]
  by_cases unsolicited : call.status = .urc <;>
    simp [Event.commandCall?, unsolicited]

theorem advance_called {outstanding next : Option (Command × Nat)} {call : Callback n}
    (follows : advance outstanding (.called call) = some next) :
    (call.status = .urc ∧ next = outstanding) ∨
      ∃ cmd callback, outstanding = some (cmd, callback) ∧ call.status ≠ .urc ∧
        (call.cmd = cmd.toCmdDef ∧ call.callback = callback) ∧
        ((call.status = .line ∧ next = outstanding) ∨
          (call.status.isFinal = true ∧ call.commandActive = false ∧ next = none)) := by
  simp only [advance] at follows
  by_cases unsolicited : call.status = .urc
  · left
    simpa [unsolicited, eq_comm] using follows
  · right
    cases outstanding with
    | none => simp [unsolicited] at follows
    | some registration =>
      obtain ⟨cmd, callback⟩ := registration
      refine ⟨cmd, callback, rfl, unsolicited, ?_⟩
      simp only [unsolicited, ↓reduceIte] at follows
      split at follows
      · next mine =>
        refine ⟨mine.2, ?_⟩
        split at follows
        · next line => exact Or.inl ⟨line, (Option.some.inj follows).symm⟩
        · split at follows
          · next final =>
            exact Or.inr ⟨final.1, final.2, (Option.some.inj follows).symm⟩
          · simp at follows
      · simp at follows

variable {last : Option (Command × Nat)} {rest : List (Event n)}

theorem callsOf_idle (accepted : rest.foldlM advance none = some last) : callsOf rest = [] := by
  induction rest with
  | nil => rfl
  | cons event rest ih =>
    cases event with
    | registered cmd callback => rfl
    | called call =>
      rw [foldlM_cons, Option.bind_eq_bind, Option.bind_eq_some_iff] at accepted
      obtain ⟨next, follows, tail⟩ := accepted
      rcases advance_called follows with ⟨unsolicited, same⟩ | ⟨_, _, impossible, _⟩
      · rw [callsOf_called, if_pos unsolicited]
        exact ih (same ▸ tail)
      · simp at impossible

theorem callsOf_running {cmd : Command} {callback : Nat}
    (accepted : rest.foldlM advance (some (cmd, callback)) = some last) :
    CompletedOnce cmd callback (callsOf rest) := by
  induction rest with
  | nil => exact ⟨⟨[], [], rfl, by simp, by simp, by simp⟩, by simp [callsOf]⟩
  | cons event rest ih =>
    rw [foldlM_cons, Option.bind_eq_bind, Option.bind_eq_some_iff] at accepted
    obtain ⟨next, follows, tail⟩ := accepted
    cases event with
    | registered _ _ => simp [advance] at follows
    | called call =>
      rw [callsOf_called]
      rcases advance_called follows with
        ⟨unsolicited, same⟩ | ⟨_, _, registration, other, mine, outcome⟩
      · rw [if_pos unsolicited]
        exact ih (same ▸ tail)
      · rw [if_neg other]
        obtain ⟨rfl, rfl⟩ : cmd = _ ∧ callback = _ := by simpa using registration
        rcases outcome with ⟨line, same⟩ | ⟨final, freed, idle⟩
        · obtain ⟨⟨lines, finals, shape, areLines, short, areFinal⟩, sameHandler⟩ :=
            ih (same ▸ tail)
          refine ⟨⟨call :: lines, finals, by simp [shape], ?_, short, areFinal⟩, ?_⟩
          · simpa [line] using areLines
          · simpa [mine] using sameHandler
        · rw [callsOf_idle (idle ▸ tail)]
          exact ⟨⟨[], [call], rfl, by simp, by simp, by simp [final, freed]⟩,
            by simpa using mine⟩

theorem registrationOpen_of_accepted {log : List (Event n)}
    (accepted : log.foldlM advance none = some last) : registrationOpen log = last.isSome := by
  induction log using List.reverseRecOn generalizing last with
  | nil =>
    have empty : none = last := by simpa using accepted
    simp [registrationOpen, ← empty]
  | append_singleton log event ih =>
    rw [foldlM_append, Option.bind_eq_bind, Option.bind_eq_some_iff] at accepted
    obtain ⟨phase, before, single⟩ := accepted
    have isOpen := ih before
    have follows : advance phase event = some last := by simpa using single
    cases event with
    | registered cmd callback =>
      simp only [advance] at follows
      split at follows
      · simp [registrationOpen, ← Option.some.inj follows]
      · simp at follows
    | called call =>
      have step : registrationOpen (log ++ [.called call]) =
          (phase.isSome && !call.status.isFinal) := by
        rw [← isOpen]
        simp [registrationOpen]
      rw [step]
      rcases advance_called follows with
        ⟨unsolicited, same⟩ | ⟨_, _, registration, _, _, ⟨line, same⟩ | ⟨final, _, idle⟩⟩
      · simp [same, unsolicited, RespStatus.isFinal]
      · simp [same, line, RespStatus.isFinal]
      · simp [idle, final]

/-- In every run, whatever the callbacks do in between: the callbacks made for
one registration of a command are response lines followed by at most one final
callback, made with slot 0 inactive; and while no registration is outstanding
only unsolicited results are reported. -/
theorem command_completes_at_most_once (reaction : Reaction n) (inputs : List Parser.Input) :
    let log := ((Parser.zeroed n).run reaction inputs).registry.log
    (∀ before cmd callback rest, log = before ++ .registered cmd callback :: rest →
      CompletedOnce cmd callback (callsOf rest)) ∧
    (∀ before call rest, log = before ++ .called call :: rest →
      registrationOpen before = false → call.status = .urc) := by
  intro log
  have orderly : log.foldlM advance none = some _ := (Parser.run_protocol reaction inputs).orderly
  constructor
  · intro before cmd callback rest split
    rw [split, foldlM_append] at orderly
    cases phase : before.foldlM advance (none : Option (Command × Nat)) with
    | none => simp [phase] at orderly
    | some outstanding =>
      simp only [phase, Option.bind_eq_bind, Option.bind_some, foldlM_cons] at orderly
      by_cases free : outstanding = none
      · exact callsOf_running (by simpa [advance, free] using orderly)
      · simp [advance, free] at orderly
  · intro before call rest split closed
    rw [split, foldlM_append] at orderly
    cases phase : before.foldlM advance (none : Option (Command × Nat)) with
    | none => simp [phase] at orderly
    | some outstanding =>
      rw [registrationOpen_of_accepted phase] at closed
      have idle : outstanding = none := by simpa using closed
      simp only [phase, Option.bind_eq_bind, Option.bind_some, foldlM_cons] at orderly
      by_contra other
      simp [advance, idle, other] at orderly

end Thingsee.Modem
