import Thingsee.Modem.Parser

/-!
Owns where a response name leads. `Registry.route` names the outcomes of
`parser_found_response_name`, `Parser.follow` says what the parser does for each
of them, and `foundResponseName_eq_follow` ties both to the model of the source.
Later modules reason about routes and never unfold the name comparison again.
-/

namespace Thingsee.Modem

variable {n : Nat}

/-- The outcomes of `parser_found_response_name`. -/
inductive Route (n : Nat) where
  | reads (handler : HandlerRef n)
  | readsPlain
  | readsErrorcode (status : RespStatus)
  | completes (status : RespStatus)
  | ignored
deriving DecidableEq

def Route.beginsLine : Route n → Bool
  | .reads _ | .readsPlain | .readsErrorcode _ => true
  | .completes _ | .ignored => false

namespace Registry

variable {registry : Registry n}

/-- The route of a name that is none of the final responses; `plain` says that
the active command takes plain lines. -/
def routeOther (registry : Registry n) (name : List UInt8) (plain : Bool) : Route n :=
  match registry.findResponseHandlerByName name with
  | some .command => if plain then .readsPlain else .reads .command
  | some handler => .reads handler
  | none => if plain then .readsPlain else .ignored

def route (registry : Registry n) (name : List UInt8) : Route n :=
  let cmd := registry.command.cmd
  if registry.command.active then
    if cmd.flagPlain = false ∧ name = cmd.name then .reads .command
    else if name = nameOk then .completes .ok
    else if (cmd.flagDataPrompt ∧ name = nameDataPrompt) ∨
        (cmd.flagPduPrompt ∧ name = namePduPrompt) then .completes .dataprompt
    else if name = nameError then .completes .error
    else if name = nameCmeError then .readsErrorcode .cmeError
    else if name = nameCmsError then .readsErrorcode .cmsError
    else registry.routeOther name cmd.flagPlain
  else registry.routeOther name false

theorem route_congr {other : Registry n} (command : registry.command = other.command)
    (urcs : registry.urcs = other.urcs) (name : List UInt8) :
    registry.route name = other.route name := by
  cases registry
  cases other
  obtain rfl := command
  obtain rfl := urcs
  rfl

theorem find_command_active {name : List UInt8}
    (found : registry.findResponseHandlerByName name = some .command) :
    registry.command.active = true := by
  unfold findResponseHandlerByName at found
  split at found
  · next both => exact both.1
  · simp at found

theorem find_ne_internalError (registry : Registry n) (name : List UInt8) :
    registry.findResponseHandlerByName name ≠ some .internalError := by
  intro found
  unfold findResponseHandlerByName at found
  split at found <;> simp at found

theorem unregister_command (active : registry.command.active = true) :
    registry.unregisterResponseHandler registry.command.cmd.name =
      { registry with command := { registry.command with active := false } } := by
  have found : registry.findResponseHandlerByName registry.command.cmd.name = some .command := by
    simp [findResponseHandlerByName, active, sameNameIgnoringCase]
  simp only [unregisterResponseHandler, found]

/-- Which handlers a name can lead to. A line of the command has a name only
while the command is active and takes no plain lines. -/
def Named (registry : Registry n) (handler : HandlerRef n) : Prop :=
  match handler with
  | .urc _ => True
  | .command => registry.command.active = true ∧ registry.command.cmd.flagPlain = false
  | .internalError => False

theorem Named.notPlain {handler : HandlerRef n} (named : registry.Named handler) :
    (registry.cmdOf handler).flagPlain = false := by
  cases handler with
  | command => exact named.2
  | urc index => exact (registry.urcs index).cmd.notPlain
  | internalError => exact absurd named id

def RouteSound (registry : Registry n) : Route n → Prop
  | .reads handler => registry.Named handler
  | .readsPlain => registry.command.active = true ∧ registry.command.cmd.flagPlain = true
  | .readsErrorcode status =>
    registry.command.active = true ∧ (status = .cmeError ∨ status = .cmsError)
  | .completes status =>
    registry.command.active = true ∧
      (status = .ok ∨ status = .dataprompt ∨ status = .error)
  | .ignored => True

theorem routeOther_sound (registry : Registry n) (name : List UInt8) (plain : Bool)
    (isPlain : plain = true → registry.command.active = true ∧
      registry.command.cmd.flagPlain = true)
    (notPlain : plain = false → registry.command.active = true →
      registry.command.cmd.flagPlain = false) :
    registry.RouteSound (registry.routeOther name plain) := by
  unfold routeOther
  generalize found : registry.findResponseHandlerByName name = candidate
  match candidate with
  | some .command =>
    have active := find_command_active found
    by_cases takesPlain : plain = true
    · simp only [takesPlain, ↓reduceIte]
      exact isPlain takesPlain
    · simp only [takesPlain, Bool.false_eq_true, ↓reduceIte]
      exact ⟨active, notPlain (by simpa using takesPlain) active⟩
  | some (.urc index) => trivial
  | some .internalError => exact absurd found (find_ne_internalError registry name)
  | none =>
    by_cases takesPlain : plain = true
    · simp only [takesPlain, ↓reduceIte]
      exact isPlain takesPlain
    · simp only [takesPlain, Bool.false_eq_true, ↓reduceIte]
      trivial

theorem route_sound (registry : Registry n) (name : List UInt8) :
    registry.RouteSound (registry.route name) := by
  unfold route
  by_cases active : registry.command.active = true
  · simp only [active, ↓reduceIte]
    split
    · next own => exact ⟨active, own.1⟩
    split
    · exact ⟨active, Or.inl rfl⟩
    split
    · exact ⟨active, Or.inr (Or.inl rfl)⟩
    split
    · exact ⟨active, Or.inr (Or.inr rfl)⟩
    split
    · exact ⟨active, Or.inl rfl⟩
    split
    · exact ⟨active, Or.inr rfl⟩
    · exact routeOther_sound registry name _ (fun isPlain => ⟨active, isPlain⟩)
        (fun notPlain _ => notPlain)
  · simp only [active, Bool.false_eq_true, ↓reduceIte]
    exact routeOther_sound registry name false (by simp) (fun _ isActive => absurd isActive active)

theorem find_urc_active {name : List UInt8} {index : Fin n}
    (found : registry.findResponseHandlerByName name = some (.urc index)) :
    (registry.urcs index).active = true := by
  unfold findResponseHandlerByName at found
  split at found
  · simp at found
  · obtain ⟨other, matched, same⟩ := Option.map_eq_some_iff.mp found
    obtain rfl : other = index := by simpa using same
    have := List.find?_some matched
    simp only [urcMatches, Bool.and_eq_true] at this
    exact this.1

theorem route_urc_active {name : List UInt8} {index : Fin n}
    (routed : registry.route name = .reads (.urc index)) : (registry.urcs index).active = true := by
  have fromOther : ∀ plain, registry.routeOther name plain = .reads (.urc index) →
      registry.findResponseHandlerByName name = some (.urc index) := by
    intro plain other
    unfold routeOther at other
    generalize registry.findResponseHandlerByName name = found at other ⊢
    match found with
    | some (.urc found) => simpa using other
    | some .command => cases plain <;> simp at other
    | some .internalError => simp at other
    | none => cases plain <;> simp at other
  have outcome : (∃ plain, registry.route name = registry.routeOther name plain) ∨
      registry.route name ≠ .reads (.urc index) := by
    simp only [route]
    by_cases active : registry.command.active = true
    · simp only [active, ↓reduceIte]
      split
      · exact Or.inr (by simp)
      split
      · exact Or.inr (by simp)
      split
      · exact Or.inr (by simp)
      split
      · exact Or.inr (by simp)
      split
      · exact Or.inr (by simp)
      split
      · exact Or.inr (by simp)
      · exact Or.inl ⟨_, rfl⟩
    · simp only [active, Bool.false_eq_true, ↓reduceIte]
      exact Or.inl ⟨_, rfl⟩
  rcases outcome with ⟨plain, isOther⟩ | other
  · exact find_urc_active (fromOther plain (isOther.symm.trans routed))
  · exact absurd routed other

end Registry

namespace Parser

/-- The error code and the stream a name passes on when it completes the
command. -/
def finalInfo (parser : Parser n) : RespStatus → Int × Option (List UInt8)
  | .ok => (0, some parser.okStream)
  | .error => (-1, none)
  | _ => (0, none)

def follow (reaction : Reaction n) (parser : Parser n) (name : List UInt8) :
    Route n → Parser n × Bool
  | .reads handler => (parser.beginParams handler, true)
  | .readsPlain => (parser.beginPlain reaction name, true)
  | .readsErrorcode status => (parser.beginErrorcode status, true)
  | .completes status =>
    (parser.completeCommand reaction status (parser.finalInfo status).1
      (parser.finalInfo status).2, false)
  | .ignored => (parser, false)

theorem foundOther_eq_follow (reaction : Reaction n) (parser : Parser n) (name : List UInt8)
    (plain : Bool) :
    parser.foundOther reaction name plain =
      parser.follow reaction name (parser.registry.routeOther name plain) := by
  unfold foundOther Registry.routeOther
  generalize parser.registry.findResponseHandlerByName name = candidate
  match candidate with
  | some .command => cases plain <;> rfl
  | some (.urc index) => rfl
  | some .internalError => rfl
  | none => cases plain <;> rfl

theorem foundResponseName_eq_follow (reaction : Reaction n) (parser : Parser n)
    (name : List UInt8) :
    parser.foundResponseName reaction name =
      { parser with handler := none }.follow reaction name (parser.registry.route name) := by
  simp only [foundResponseName, Registry.route]
  by_cases active : parser.registry.command.active = true
  · simp only [active, ↓reduceIte]
    split
    · rfl
    split
    · rfl
    split
    · rfl
    split
    · rfl
    split
    · rfl
    split
    · rfl
    · exact foundOther_eq_follow reaction _ name _
  · simp only [active, Bool.false_eq_true, ↓reduceIte]
    exact foundOther_eq_follow reaction _ name false

end Parser

end Thingsee.Modem
