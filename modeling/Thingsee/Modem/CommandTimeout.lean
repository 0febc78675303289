import Thingsee.Modem.Completion

/-!
Owns the command timer: which runs keep `cmd_timeout_armed` equal to the use of
slot 0.

`modem_do_callback` takes the timer down for every callback of the command's
handler. A response line of a command with several lines is such a callback and
completes nothing, so the command then waits without a timer; so does a command
whose text the serial line did not take. `keepsTimer` excludes just these steps.
-/

namespace Thingsee.Modem

open Support

variable {n : Nat}

/-- Whether the serial line takes the text of a request, if it has one. -/
def Request.taken : Request → Bool
  | .registerUrc _ _ => true
  | .sendCmd _ _ _ written => written
  | .sendRaw _ _ written => written

/-- Everything that callbacks send is written. -/
def Reaction.AllTaken (reaction : Reaction n) : Prop :=
  ∀ log, ∀ asked ∈ reaction log, asked.taken = true

/-- The steps that do not leave a command without its timer: a byte ends no line
of a response with several lines, and what is sent is written. -/
def Parser.keepsTimer (parser : Parser n) : Parser.Input → Bool
  | .byte char => !parser.endsResponseLine char
  | .ask asked => asked.taken
  | .commandTimer => true
  | .delayedTimer written => written

namespace Registry

/-- The timer is armed exactly while a command is active. -/
def Timed (registry : Registry n) : Prop :=
  registry.cmdTimeout.isSome = registry.command.active

theorem sendNow_timed (registry : Registry n) (timed : registry.Timed) (cmd : Command)
    (callback : Nat) : (registry.sendNow cmd callback true).Timed := by
  unfold sendNow
  by_cases active : registry.command.active = true
  · simpa only [active, ↓reduceIte] using timed
  · simp [active, Timed, setupCommandTimeout, registerCommand]

variable {reaction : Reaction n} {registry : Registry n}

theorem request_timed (timed : registry.Timed) {asked : Request} (taken : asked.taken = true) :
    (registry.request asked).Timed := by
  cases asked with
  | registerUrc cmd callback =>
    simp only [request, registerUrc]
    split <;> exact timed
  | sendCmd cmd callback timediff written =>
    obtain rfl : written = true := taken
    simp only [request, sendCmd]
    split
    · exact timed
    · split
      · exact timed
      · exact sendNow_timed registry timed cmd callback
  | sendRaw cmd callback written =>
    obtain rfl : written = true := taken
    exact sendNow_timed registry timed cmd callback

theorem call_timed (allTaken : reaction.AllTaken) (timed : registry.Timed) (handler : HandlerRef n)
    (status : RespStatus) (errorcode : Int) (numParams : Nat) (stream : Option (List UInt8)) :
    (registry.call reaction handler status errorcode numParams stream).Timed := by
  have keeps : ∀ (requests : List Request) (start : Registry n), start.Timed →
      (∀ asked ∈ requests, asked.taken = true) → (requests.foldl request start).Timed := by
    intro requests
    induction requests with
    | nil =>
      intro start startTimed _
      exact startTimed
    | cons asked rest ih =>
      intro start startTimed taken
      have first : asked.taken = true := taken asked (by simp)
      refine ih _ (request_timed startTimed first) ?_
      intro later member
      exact taken later (by simp [member])
  exact keeps _ _ timed (allTaken _)

theorem effect_timed (allTaken : reaction.AllTaken) {lineEnds : Prop} {urcEnds : Fin n → Prop}
    {after : Registry n} (timed : registry.Timed)
    (effect : Effect reaction lineEnds urcEnds registry after) (noLine : ¬ lineEnds) :
    after.Timed := by
  cases effect with
  | unchanged => exact timed
  | unsolicited index ends numParams stream => exact call_timed allTaken timed _ _ _ _ _
  | responseLine active ends errorcode numParams stream => exact absurd ends noLine
  | completed active status final errorcode numParams stream =>
    unfold completeCommand
    rw [unregister_command active]
    apply call_timed allTaken
    simp [Timed, disarm]

end Registry

namespace Parser

structure TimedProtocol (parser : Parser n) : Prop where
  live : parser.Live
  timed : parser.registry.Timed

theorem step_timed {reaction : Reaction n} (allTaken : reaction.AllTaken) (parser : Parser n)
    (input : Input) (before : parser.TimedProtocol) (kept : parser.keepsTimer input = true) :
    (parser.step reaction input).TimedProtocol := by
  cases input with
  | byte char =>
    obtain ⟨effect, live⟩ := parseByte_effect reaction before.live char
    have noLine : ¬ parser.endsResponseLine char = true := by
      simpa only [keepsTimer, Bool.not_eq_true', Bool.not_eq_true] using kept
    exact ⟨live, Registry.effect_timed allTaken before.timed effect noLine⟩
  | ask asked =>
    exact ⟨live_of_registry before.live _ (fun active => Registry.request_busy active asked),
      Registry.request_timed before.timed kept⟩
  | commandTimer =>
    simp only [step]
    split
    · by_cases active : parser.registry.command.active = true
      · simp only [commandTimeoutCallback, active, ↓reduceIte]
        rw [Registry.unregister_command active]
        refine ⟨live_reset rfl, Registry.call_timed allTaken ?_ _ _ _ _ _⟩
        simp [Registry.Timed]
      · simpa only [commandTimeoutCallback, active, Bool.false_eq_true, ↓reduceIte]
          using before
    · exact before
  | delayedTimer written =>
    obtain rfl : written = true := kept
    refine ⟨live_of_registry before.live _
      (fun active => Registry.delayedCommandCallback_busy active true), ?_⟩
    simp only [step, Registry.delayedCommandCallback]
    split
    · exact Registry.sendNow_timed { parser.registry with delayedCmd := none } before.timed _ _
    · exact before.timed

theorem zeroed_timed (n : Nat) : (zeroed n).TimedProtocol where
  live := live_reset rfl
  timed := rfl

/-- In every run in which each step keeps the timer, and in every state reached
between two steps: the command timer is armed if and only if a command is
active. -/
theorem timeout_armed_iff_command_active (reaction : Reaction n) (allTaken : reaction.AllTaken)
    (inputs : List Input)
    (kept : Guarded (step reaction) (fun parser input => parser.keepsTimer input = true) (zeroed n)
      inputs) :
    let registry := ((zeroed n).run reaction inputs).registry
    registry.cmdTimeout.isSome = true ↔ registry.command.active = true := by
  intro registry
  have reached : ((zeroed n).run reaction inputs).TimedProtocol :=
    foldl_invariant TimedProtocol (step_timed allTaken) (zeroed_timed n) kept
  have timed : registry.cmdTimeout.isSome = registry.command.active := reached.timed
  rw [timed]

/-- A command whose response has several lines, with one number on each. -/
def severalLines : Command := .number [43, 84] true

/-- `cmd_initial`: the text `AT`, with 500 ms for the answer. -/
def cmdInitial : Command := .bare [] 5

/-- `AT` gets no answer in time; it is sent again and answered by `OK`, and so is
a command with several lines, without any line. -/
theorem timeout_armed_iff_command_active_of_ok :
    let inputs : List Input :=
      [.ask (.sendCmd cmdInitial 3 1000 true), .commandTimer,
        .ask (.sendCmd cmdInitial 3 1000 true),
        .byte 79, .byte 75, .byte 13,
        .ask (.sendRaw severalLines 7 true), .byte 79, .byte 75, .byte 13]
    Guarded (step (quiet 0)) (fun parser input => parser.keepsTimer input = true) (zeroed 0)
        inputs ∧
      (((zeroed 0).run (quiet 0) inputs).registry.cmdTimeout.isSome = true ↔
        ((zeroed 0).run (quiet 0) inputs).registry.command.active = true) :=
  ⟨by decide, timeout_armed_iff_command_active (quiet 0) (by intro _ _ member; cases member) _
    (by decide)⟩

/-- The command is sent and one line of its response arrives: the command is
still active, and its timer is down. -/
theorem command_waits_without_timeout :
    let inputs : List Input :=
      [.ask (.sendRaw severalLines 7 true),
        .byte 43, .byte 84, .byte 58, .byte 32, .byte 49, .byte 13]
    ¬ (((zeroed 0).run (quiet 0) inputs).registry.cmdTimeout.isSome = true ↔
      ((zeroed 0).run (quiet 0) inputs).registry.command.active = true) := by
  decide

end Parser

end Thingsee.Modem
