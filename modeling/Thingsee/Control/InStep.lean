import Thingsee.Control.Types
import Thingsee.Support.Runs

/-!
Owns what keeps the two ends of the control channel in step. `calls_stay_in_step` holds as long as
there is memory for every payload: each call returns the response to its own request, and each end
starts reading at a header.
-/

namespace Thingsee.Control

open Support List

variable {calls : List Call} {answers : List (Message × Message)}

def Client.unsent : Client → List UInt8
  | .sending rest => rest
  | .receiving _ => []

def Engine.unsent : Engine → List UInt8
  | .replying rest => rest
  | .reading _ | .faulted => []

def System.unsent (system : System) : List UInt8 :=
  match system.client with
  | some (_, client) => client.unsent
  | none => []

/-- What calls return: each the response to its own request. -/
def results (calls : List Call) (answers : List (Message × Message)) :
    List (Call × Option Message) :=
  calls.zip (answers.map fun answer => some answer.2)

/-- Requests are read as they were written, one after the other, and have one response each. A call
returns the response to its own request. Whoever reads has come to the beginning of a message or has
collected a part of it. Without a call everything is read and answered, and with one there is
something to be written or read. -/
structure System.InStep (system : System) : Prop where
  served : system.answers.map Prod.fst <+: system.issued.map Call.request
  returned : system.returned <+: results system.issued system.answers
  engine : ∀ collected, system.engine = .reading collected →
    format.Reads collected (system.toEngine ++ system.unsent)
      ((system.issued.map Call.request).drop system.answers.length)
  client : ∀ call collected, system.client = some (call, .receiving collected) →
    format.Reads collected (system.toClients ++ system.engine.unsent)
      ((system.answers.map Prod.snd).drop system.returned.length)
  settled : system.client = none →
    system.answers.length = system.issued.length ∧
      system.returned.length = system.issued.length ∧
      system.engine = .reading [] ∧ system.toEngine = [] ∧ system.toClients = []
  moves : system.client ≠ none →
    system.unsent ≠ [] ∨ system.engine.unsent ≠ [] ∨ system.toClients ≠ [] ∨
      system.toEngine ≠ [] ∧ ∃ collected, system.engine = .reading collected

/-- There is memory for a payload, and for the text of the device properties. -/
def Allocates (system : System) : Action → Prop
  | .clientRead count allocated => ∀ call collected,
      system.client = some (call, .receiving collected) →
      announces count collected system.toClients = true → allocated = true
  | .engineRead count allocated backend => ∀ collected, system.engine = .reading collected →
      (announces count collected system.toEngine = true → allocated = true) ∧
        ∀ request, format.finished (format.read count collected system.toEngine).1 = some request →
          (handle request backend).isSome = true
  | _ => True

/-- The request is on its way to the engine. -/
structure Pending (system : System) (call : Call) (client : Client) : Prop where
  engine : ∃ collected, system.engine = .reading collected ∧
    format.Reads collected (system.toEngine ++ client.unsent) [call.request]
  toClients : system.toClients = []
  started : ∀ collected, client = .receiving collected → collected = []

/-- The response is on its way to the client. -/
structure Answered (system : System) (client : Client) (response : Message) : Prop where
  engine : system.engine = .reading [] ∨ ∃ rest, system.engine = .replying rest ∧ rest ≠ []
  toEngine : system.toEngine = []
  client : ∃ collected, client = .receiving collected ∧
    format.Reads collected (system.toClients ++ system.engine.unsent) [response]

/-- Calls that were answered and have returned, and at most one more. -/
inductive System.Good (system : System) : Prop where
  | idle (client : system.client = none) (engine : system.engine = .reading [])
      (toEngine : system.toEngine = []) (toClients : system.toClients = [])
      (served : system.answers.map Prod.fst = system.issued.map Call.request)
      (returned : system.returned = results system.issued system.answers)
  | pending (call : Call) (client : Client) (before : List Call)
      (busy : system.client = some (call, client)) (issued : system.issued = before ++ [call])
      (served : system.answers.map Prod.fst = before.map Call.request)
      (returned : system.returned = results before system.answers)
      (sends : ∀ rest, client = .sending rest → rest ≠ [])
      (pending : Pending system call client)
  | answered (call : Call) (client : Client) (before : List Call)
      (earlier : List (Message × Message)) (response : Message)
      (busy : system.client = some (call, client)) (issued : system.issued = before ++ [call])
      (served : earlier.map Prod.fst = before.map Call.request)
      (answers : system.answers = earlier ++ [(call.request, response)])
      (returned : system.returned = results before earlier)
      (answered : Answered system client response)

variable {system : System}

section

variable (same : answers.map Prod.fst = calls.map Call.request)
include same

theorem results_append (call : Call) (answer : Message × Message) :
    results (calls ++ [call]) (answers ++ [answer]) =
      results calls answers ++ [(call, some answer.2)] := by
  have lengths := congrArg List.length same
  rw [length_map, length_map] at lengths
  unfold results
  rw [map_append, zip_append (by rw [length_map, lengths])]
  rfl

theorem results_length :
    (results calls answers).length = answers.length ∧ answers.length = calls.length := by
  have lengths := congrArg List.length same
  rw [length_map, length_map] at lengths
  unfold results
  rw [length_zip, length_map]
  omega

theorem results_pending (call : Call) :
    results (calls ++ [call]) answers = results calls answers := by
  have lengths := (results_length same).2
  unfold results
  rw [← append_nil (answers.map fun answer => some answer.2),
    zip_append (by rw [length_map, lengths]), append_nil]
  exact append_nil _

end

theorem System.unsent_eq {call : Call} {client : Client}
    (busy : system.client = some (call, client)) :
    system.unsent = client.unsent := by
  unfold System.unsent
  rw [busy]

theorem drop_map_append {α β : Type} (function : α → β) (first : List α) (last : α) {count : Nat}
    (length : count = first.length) : ((first ++ [last]).map function).drop count =
      [function last] := by
  subst length
  rw [map_append, drop_left' (length_map function)]
  rfl

theorem System.Good.inStep (good : system.Good) : system.InStep := by
  cases good with
  | idle client engine toEngine toClients served returned =>
    have lengths := results_length served
    rw [← returned] at lengths
    have quiet : system.unsent = [] := by
      unfold System.unsent
      rw [client]
    exact
      { served := by rw [served]
        returned := by rw [returned]
        engine := fun collected reading => by
          obtain rfl := Engine.reading.inj (engine.symm.trans reading)
          rw [toEngine, quiet, drop_of_length_le (by rw [length_map]; omega)]
          exact format.reads_nil [] [] rfl
        client := fun call collected busy => by cases client.symm.trans busy
        settled := fun _ =>
          ⟨lengths.2, lengths.1.trans lengths.2, engine, toEngine, toClients⟩
        moves := fun busy => absurd client busy }
  | pending call client before busy issued served returned sends pending =>
    obtain ⟨collected, engine, reads⟩ := pending.engine
    have lengths := results_length served
    rw [← returned] at lengths
    have unsent : system.unsent = client.unsent := System.unsent_eq busy
    exact
      { served := by
          rw [served, issued, map_append]
          exact prefix_append _ _
        returned := by rw [issued, results_pending served, returned]
        engine := fun other reading => by
          obtain rfl := Engine.reading.inj (engine.symm.trans reading)
          rw [unsent, issued, drop_map_append Call.request before call lengths.2]
          exact reads
        client := fun other received receiving => by
          have same := Option.some.inj (busy.symm.trans receiving)
          obtain rfl := pending.started received (Prod.mk.inj same).2
          rw [pending.toClients, engine, lengths.1,
            drop_of_length_le (by rw [length_map])]
          exact format.reads_nil [] [] rfl
        settled := fun none => by cases busy.symm.trans none
        moves := fun _ => by
          have moving := reads.stream_ne_nil (cons_ne_nil _ _)
          rw [← unsent] at moving
          by_cases written : system.unsent = []
          · rw [written, append_nil] at moving
            exact .inr (.inr (.inr ⟨moving, collected, engine⟩))
          · exact .inl written }
  | answered call client before earlier response busy issued served answers returned answered =>
    obtain ⟨collected, receiving, reads⟩ := answered.client
    have lengths := results_length served
    rw [← returned] at lengths
    have unsent : system.unsent = [] := by
      rw [System.unsent_eq busy, receiving]
      rfl
    exact
      { served := by
          rw [answers, issued, map_append, map_append, served]
          rfl
        returned := by
          rw [issued, answers, results_append served, returned]
          exact prefix_append _ _
        engine := fun other reading => by
          have start : other = [] := by
            rcases answered.engine with idle | ⟨rest, replying, _⟩
            · exact Engine.reading.inj (reading.symm.trans idle)
            · cases replying.symm.trans reading
          have all : (system.issued.map Call.request).drop system.answers.length = [] := by
            refine drop_of_length_le ?_
            rw [issued, answers, length_map, length_append, length_append,
              lengths.2]
            exact Nat.le_refl _
          rw [start, answered.toEngine, unsent, all]
          exact format.reads_nil [] [] rfl
        client := fun other received other_receiving => by
          have same := Option.some.inj (busy.symm.trans other_receiving)
          obtain rfl := Client.receiving.inj (receiving.symm.trans (Prod.mk.inj same).2)
          rw [answers, drop_map_append Prod.snd earlier _ lengths.1]
          exact reads
        settled := fun none => by cases busy.symm.trans none
        moves := fun _ => by
          have moving := reads.stream_ne_nil (cons_ne_nil _ _)
          by_cases written : system.engine.unsent = []
          · rw [written, append_nil] at moving
            exact .inr (.inr (.inl moving))
          · exact .inr (.inl written) }

theorem read_nothing (count : Nat) : format.read count [] [] = ([], []) := by
  unfold Format.read
  dsimp only
  rw [take_nil, drop_nil]
  rfl

theorem finished_nothing : format.finished [] = none := rfl

theorem announces_nothing (count : Nat) : announces count [] [] = false := by
  unfold announces
  rw [read_nothing]
  rfl

theorem System.Good.call (good : system.Good) (call : Call) : (system.call call).Good := by
  unfold System.call
  cases good with
  | idle client engine toEngine toClients served returned =>
    rw [client]
    refine .pending call (.sending (format.encode call.request)) system.issued rfl rfl served
      returned (fun rest sends => ?_) ⟨⟨[], engine, ?_⟩, toClients, nofun⟩
    · obtain rfl := Client.sending.inj sends
      exact format.encode_ne_nil call.request
    · refine format.reads_nil _ _ ?_
      show system.toEngine ++ format.encode call.request = _
      rw [toEngine, nil_append, format.encodeAll_singleton]
  | pending other client before busy issued served returned sends pending =>
    rw [busy]
    exact .pending other client before busy issued served returned sends pending
  | answered other client before earlier response busy issued served answers returned answered =>
    rw [busy]
    exact .answered other client before earlier response busy issued served answers returned
      answered

theorem unsent_sending (rest : List UInt8) :
    (if rest = [] then Client.receiving [] else .sending rest).unsent = rest := by
  split
  case isTrue empty => exact empty.symm
  case isFalse => rfl

theorem unsent_replying (rest : List UInt8) :
    (if rest = [] then Engine.reading [] else .replying rest).unsent = rest := by
  split
  case isTrue empty => exact empty.symm
  case isFalse => rfl

section

variable (good : system.Good) (count : Nat)
include good

theorem System.Good.clientWrite : (system.clientWrite count).Good := by
  unfold System.clientWrite
  cases good with
  | idle client engine toEngine toClients served returned =>
    rw [client]
    exact .idle client engine toEngine toClients served returned
  | pending call client before busy issued served returned sends pending =>
    rw [busy]
    cases client with
    | receiving collected =>
      exact .pending call _ before busy issued served returned sends pending
    | sending rest =>
      obtain ⟨collected, engine, reads⟩ := pending.engine
      refine .pending call _ before rfl issued served returned (fun other sending => ?_)
        ⟨⟨collected, engine, ?_⟩, pending.toClients, fun other receiving => ?_⟩
      · split at sending
        case isTrue => cases sending
        case isFalse more => exact Client.sending.inj sending ▸ more
      · rw [unsent_sending, append_assoc, take_append_drop]
        exact reads
      · split at receiving
        case isTrue => exact (Client.receiving.inj receiving).symm
        case isFalse => cases receiving
  | answered call client before earlier response busy issued served answers returned answered =>
    obtain ⟨collected, receiving, reads⟩ := answered.client
    rw [busy, receiving]
    exact .answered call client before earlier response busy issued served answers returned
      answered

theorem System.Good.clientRead (allocated : Bool)
    (allocates : Allocates system (.clientRead count allocated)) :
    (system.clientRead count allocated).Good := by
  unfold System.clientRead
  cases good with
  | idle client engine toEngine toClients served returned =>
    rw [client]
    exact .idle client engine toEngine toClients served returned
  | pending call client before busy issued served returned sends pending =>
    rw [busy]
    cases client with
    | sending rest => exact .pending call _ before busy issued served returned sends pending
    | receiving collected =>
      obtain rfl := pending.started collected rfl
      dsimp only
      rw [pending.toClients, read_nothing, announces_nothing, Bool.false_and,
        if_neg Bool.false_ne_true, finished_nothing]
      exact .pending call (.receiving []) before rfl issued served returned nofun
        ⟨pending.engine, rfl, pending.started⟩
  | answered call client before earlier response busy issued served answers returned answered =>
    obtain ⟨collected, receiving, reads⟩ := answered.client
    rw [busy, receiving]
    dsimp only
    have allocated' : (announces count collected system.toClients && !allocated) = false := by
      cases announced : announces count collected system.toClients with
      | false => rfl
      | true =>
        rw [allocates call collected (receiving ▸ busy) announced]
        rfl
    rw [allocated', if_neg Bool.false_ne_true]
    rcases reads.read_available count with ⟨unfinished, next⟩ | ⟨frame, rest, same, finished, next⟩
    · rw [unfinished]
      exact .answered call (.receiving _) before earlier response rfl issued served answers
        returned ⟨answered.engine, answered.toEngine, _, rfl, next⟩
    · rw [finished]
      obtain ⟨rfl, rfl⟩ := List.cons.inj same
      obtain ⟨read, written⟩ := append_eq_nil_iff.mp (append_eq_nil_iff.mp next.1).2
      have engine : system.engine = .reading [] := by
        rcases answered.engine with idle | ⟨rest, replying, more⟩
        · exact idle
        · rw [replying] at written
          exact absurd written more
      refine .idle rfl engine answered.toEngine read ?_ ?_
      · show system.answers.map Prod.fst = system.issued.map Call.request
        rw [answers, issued, map_append, map_append, served]
        rfl
      · show system.returned ++ [(call, some response)] = results system.issued system.answers
        rw [issued, answers, results_append served, returned]

theorem System.Good.engineRead (allocated : Bool) (backend : Backend)
    (allocates : Allocates system (.engineRead count allocated backend)) :
    (system.engineRead count allocated backend).Good := by
  unfold System.engineRead
  cases good with
  | idle client engine toEngine toClients served returned =>
    rw [engine]
    dsimp only
    rw [toEngine, read_nothing, announces_nothing, Bool.false_and, if_neg Bool.false_ne_true,
      finished_nothing]
    exact .idle client rfl rfl toClients served returned
  | pending call client before busy issued served returned sends pending =>
    obtain ⟨collected, engine, reads⟩ := pending.engine
    obtain ⟨memory, printed⟩ := allocates collected engine
    rw [engine]
    dsimp only
    have allocated' : (announces count collected system.toEngine && !allocated) = false := by
      cases announced : announces count collected system.toEngine with
      | false => rfl
      | true =>
        rw [memory announced]
        rfl
    rw [allocated', if_neg Bool.false_ne_true]
    rcases reads.read_available count with ⟨unfinished, next⟩ | ⟨frame, rest, same, finished, next⟩
    · rw [unfinished]
      exact .pending call client before busy issued served returned sends
        ⟨⟨_, rfl, next⟩, pending.toClients, pending.started⟩
    · obtain ⟨rfl, rfl⟩ := List.cons.inj same
      obtain ⟨response, handled⟩ := Option.isSome_iff_exists.mp (printed _ finished)
      rw [finished]
      dsimp only
      rw [handled]
      obtain ⟨read, written⟩ := append_eq_nil_iff.mp (append_eq_nil_iff.mp next.1).2
      have receiving : client = .receiving [] := by
        cases client with
        | sending rest => exact absurd written (sends rest rfl)
        | receiving other => rw [pending.started other rfl]
      refine .answered call client before system.answers response busy issued served rfl returned
        ⟨.inr ⟨_, rfl, format.encode_ne_nil response⟩, read, [], receiving, ?_⟩
      refine format.reads_nil _ _ ?_
      show system.toClients ++ format.encode response = _
      rw [pending.toClients, nil_append, format.encodeAll_singleton]
  | answered call client before earlier response busy issued served answers returned answered =>
    rcases answered.engine with idle | ⟨rest, replying, more⟩
    · rw [idle]
      dsimp only
      rw [answered.toEngine, read_nothing, announces_nothing, Bool.false_and,
        if_neg Bool.false_ne_true, finished_nothing]
      refine .answered call client before earlier response busy issued served answers returned
        ⟨.inl rfl, rfl, ?_⟩
      obtain ⟨collected, receiving, reads⟩ := answered.client
      rw [idle] at reads
      exact ⟨collected, receiving, reads⟩
    · rw [replying]
      exact .answered call client before earlier response busy issued served answers returned
        answered

theorem System.Good.engineWrite : (system.engineWrite count).Good := by
  unfold System.engineWrite
  cases good with
  | idle client engine toEngine toClients served returned =>
    rw [engine]
    exact .idle client engine toEngine toClients served returned
  | pending call client before busy issued served returned sends pending =>
    obtain ⟨collected, engine, reads⟩ := pending.engine
    rw [engine]
    exact .pending call client before busy issued served returned sends pending
  | answered call client before earlier response busy issued served answers returned answered =>
    rcases answered.engine with idle | ⟨rest, replying, more⟩
    · rw [idle]
      exact .answered call client before earlier response busy issued served answers returned
        answered
    · obtain ⟨collected, receiving, reads⟩ := answered.client
      rw [replying] at reads
      rw [replying]
      refine .answered call client before earlier response busy issued served answers returned
        ⟨?_, answered.toEngine, collected, receiving, ?_⟩
      · show (if rest.drop count = [] then Engine.reading [] else .replying (rest.drop count)) =
          .reading [] ∨ _
        by_cases done : rest.drop count = []
        · exact .inl (if_pos done)
        · exact .inr ⟨_, if_neg done, done⟩
      · show format.Reads collected (system.toClients ++ rest.take count ++
          (if rest.drop count = [] then Engine.reading [] else .replying (rest.drop count)).unsent)
          [response]
        rw [unsent_replying, append_assoc, take_append_drop]
        exact reads

end

theorem System.Good.step (good : system.Good) (action : Action)
    (allocates : Allocates system action) : (system.step action).Good := by
  cases action with
  | call call => exact good.call call
  | clientWrite count => exact good.clientWrite count
  | clientRead count allocated => exact good.clientRead count allocated allocates
  | engineRead count allocated backend => exact good.engineRead count allocated backend allocates
  | engineWrite count => exact good.engineWrite count

theorem System.initial_good : System.initial.Good := .idle rfl rfl rfl rfl rfl rfl

/-- The channel stays in step as long as there is memory. -/
theorem calls_stay_in_step (actions : List Action)
    (allocates : Guarded System.step Allocates System.initial actions) :
    (actions.foldl System.step System.initial).InStep :=
  (foldl_invariant System.Good (fun _ action good allocates => good.step action allocates)
    System.initial_good allocates).inStep

theorem handle_isSome (request : Message) {backend : Backend}
    (printed : backend.deviceProperty ≠ .ok none) : (handle request backend).isSome = true := by
  unfold handle
  split
  case h_1 =>
    split
    case h_1 => rfl
    case h_2 missing => exact absurd missing printed
    case h_3 => rfl
  case h_2 => split <;> rfl
  case h_4 => split <;> rfl
  all_goals rfl

/-- An engine with nothing but a profile, all of whose functions succeed. -/
def plainBackend : Backend where
  deviceProperty := .error (-errorOom)
  cloudProperty := none
  cloudWritten := true
  profile := some (.ofBytes [123, 125, 0])
  profileWritten := 0
  stopped := 0
  started := 0
  continued := 0

/-- Cloud properties are written and then a profile is read, both in pieces. -/
def inPieces : List Action :=
  let engineRead (count : Nat) : Action := .engineRead count true plainBackend
  [.call ⟨0, ⟨3, 0, .ofBytes [123, 125, 0]⟩⟩, .clientWrite 5, engineRead 4, .clientWrite 7,
    engineRead 5, engineRead 2, engineRead 1, .engineWrite 9, .clientRead 9 true,
    .call ⟨1, ⟨4, 0, .empty⟩⟩, .clientWrite 9, engineRead 9, .engineWrite 10, .clientRead 9 true,
    .clientRead 2 true, .engineWrite 2, .clientRead 2 true]

theorem calls_stay_in_step_pieces :
    Guarded System.step Allocates System.initial inPieces ∧
      (inPieces.foldl System.step System.initial).InStep := by
  have allocates : Guarded System.step Allocates System.initial inPieces := by
    refine ⟨trivial, trivial, ?_, trivial, ?_, ?_, ?_, trivial, ?_, trivial, trivial, ?_, trivial,
      ?_, ?_, trivial, ?_, trivial⟩
    all_goals
      first
      | exact fun _ _ _ _ => rfl
      | exact fun _ _ => ⟨fun _ => rfl, fun request _ => handle_isSome request nofun⟩
  exact ⟨allocates, calls_stay_in_step inPieces allocates⟩

/-- Both calls return what the engine answers. -/
example : (inPieces.foldl System.step System.initial).returned.map (fun call => call.2.isSome) =
    [true, true] := by
  decide +kernel

/-- The engine has no memory for cloud properties that look like the header of a ping. -/
def unreadPayload : List Action :=
  [.call ⟨0, ⟨3, 0, .ofBytes [12, 0, 0, 0, 0, 0, 0, 0, 0]⟩⟩, .clientWrite 18,
    .engineRead 9 false plainBackend, .engineWrite 9, .clientRead 9 true,
    .engineRead 9 true plainBackend]

/-- The payload is taken for a second request. -/
theorem payload_is_taken_for_request :
    ¬ ∀ actions : List Action, (actions.foldl System.step System.initial).InStep := by
  intro inStep
  have served := (inStep unreadPayload).served.length_le
  revert served
  decide +kernel

end Thingsee.Control
