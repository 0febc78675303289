import Thingsee.Conman.Protocol
import Thingsee.Support.Runs

/-!
Owns that requests and responses of the connection manager's protocol are paired, and events
are delivered in order. Each request is answered once, in order, and each command returns its
own response, whatever the callback does. The callback gets the events in the order they
were sent as long as no command inside of it reads an event while others, read before, still
wait in a call around it: those are delivered after it.
-/

namespace Thingsee.Conman.Protocol

open Support List

def System.broadcasts (system : System) : List Event :=
  system.server.sent.filterMap Frame.event?

/-- Every request that is served is answered on its descriptor and with its identifier, every
command returns once, with the response to its request, and every event is delivered once, in
order. A command that waits has bytes under way, and nothing is left when the client is idle
and the stream is empty. -/
structure System.Paired (system : System) : Prop where
  served : system.server.served <+: system.issued
  answered : (system.server.responses.map fun response => (response.1, response.2.id)) =
    system.server.served.map fun request => (system.sd, request.id)
  returned : ∀ number frame, (number, frame) ∈ system.client.returned →
    system.server.responses[number]? = some (system.sd, frame)
  once : (system.client.returned.map Prod.fst).Nodup
  delivered : system.client.delivered <+: system.broadcasts
  waits : ∀ number qevents, system.client.activity = .waiting (some number) qevents →
    system.toServer ++ system.toClient ++ system.server.out ≠ []
  settled : system.client.activity = .code → system.client.stack = [] →
    system.client.reader ++ system.toClient ++ system.server.out = [] →
    system.server.served = system.issued ∧
      (system.client.returned.map Prod.fst).Perm (List.range system.issued.length) ∧
      system.client.delivered = system.broadcasts

def System.receives (count : Nat) (system : System) : Option Event :=
  match system.client.activity with
  | .waiting _ _ =>
    (frameFormat.finished
      (frameFormat.read count system.client.reader system.toClient).1).bind Frame.event?
  | _ => none

/-- No event is received while others wait in a call around. -/
def InOrder (system : System) (action : Action) : Prop :=
  match action with
  | .clientRead count =>
    (system.receives count).isSome → ∀ call ∈ system.client.stack, call.remaining = []
  | _ => True

/-- One request is answered by one frame under its own id. -/
theorem handlePollin_single (servingsd : Nat) (request : Request) (backend : Backend) :
    ∃ frame : Frame, handlePollin servingsd request backend = [(servingsd, frame)] ∧
      frame.id = request.id ∧ frame.event? = none := by
  have response : ∀ (respval : RespValue) (payload : Payload), respval ≠ .event →
      ∃ frame : Frame, [sendResp servingsd request.id respval payload] = [(servingsd, frame)] ∧
        frame.id = request.id ∧ frame.event? = none := by
    intro respval payload notEvent
    exact ⟨⟨request.id, respval, payload⟩, rfl, rfl, if_neg notEvent⟩
  have either : (if backend.fails then RespValue.error else .ok) ≠ .event := by
    split <;> exact nofun
  unfold handlePollin
  dsimp only
  split
  · split
    · exact response _ _ nofun
    · exact response _ _ nofun
  · have status : (∃ reply, ctlGetStatus servingsd request.id backend = .inl reply) ∨
        ∃ status, ctlGetStatus servingsd request.id backend =
          .inr (sendResp servingsd request.id .ok status) := by
      unfold ctlGetStatus ubmodemGetStatus
      split
      · exact .inl ⟨_, rfl⟩
      · split
        · by_cases established : backend.ubStatus = .established
          · rw [if_pos established]
            exact .inr ⟨_, rfl⟩
          · rw [if_neg established]
            dsimp only
            split <;> exact .inl ⟨_, rfl⟩
        · exact .inl ⟨_, rfl⟩
    rcases status with ⟨reply, same⟩ | ⟨payload, same⟩
    · rw [same]
      exact response _ _ nofun
    · rw [same]
      exact response _ _ nofun
  · exact response _ _ nofun
  · exact response _ _ either
  · exact response _ _ nofun

def Frame.isResponse (frame : Frame) : Bool := frame.event?.isNone

def Activity.unsent : Activity → List UInt8
  | .sending rest _ => rest
  | _ => []

def Activity.number : Activity → Option Nat
  | .sending _ number => some number
  | .waiting number _ => number
  | .code => none

def Activity.qevents : Activity → List Event
  | .waiting _ qevents => qevents
  | _ => []

/-- The two streams: the client has read the frames `consumed` of those that were sent, and
the requests `pending` are not served yet. At most one response is outstanding. -/
structure Exchange (system : System) (consumed unread : List Frame) (pending : List Request) :
    Prop where
  sent : system.server.sent = consumed ++ unread
  toClient : frameFormat.Reads system.client.reader (system.toClient ++ system.server.out) unread
  issued : system.issued = system.server.served ++ pending
  toServer : requestFormat.Reads system.server.reader
    (system.toServer ++ system.client.activity.unsent) pending
  responses : system.server.responses =
    (system.server.sent.filter Frame.isResponse).map fun frame => (system.sd, frame)
  answered : (system.server.responses.map fun response => (response.1, response.2.id)) =
    system.server.served.map fun request => (system.sd, request.id)
  unsent : ∀ rest number, system.client.activity = .sending rest number → rest ≠ []
  outstanding : (consumed.filter Frame.isResponse).length +
    system.client.activity.number.toList.length = system.issued.length
  last : ∀ number, system.client.activity.number = some number →
    number + 1 = system.issued.length

/-- The results of the commands that have their response. -/
structure Results (system : System) : Prop where
  own : ∀ number frame, (number, frame) ∈
      system.client.returned ++ system.client.stack.filterMap Call.result →
    system.server.responses[number]? = some (system.sd, frame)
  numbers : (((system.client.returned ++ system.client.stack.filterMap Call.result).map
      Prod.fst) ++ system.client.activity.number.toList).Perm (List.range system.issued.length)

/-- In the calls, from the innermost, only one has events left. -/
def Nested : List Call → Prop
  | [] => True
  | call :: stack =>
    (call.remaining ≠ [] → ∀ other ∈ stack, other.remaining = []) ∧ Nested stack

/-- The events that were read are delivered, or wait in order. -/
structure Ordered (client : Client) (consumed : List Frame) : Prop where
  order : client.delivered ++
    (client.stack.reverse.flatMap Call.remaining ++ client.activity.qevents) =
      consumed.filterMap Frame.event?
  calls : client.activity.qevents ≠ [] → ∀ call ∈ client.stack, call.remaining = []
  nested : Nested client.stack

def System.Good (system : System) : Prop :=
  ∃ consumed unread pending, Exchange system consumed unread pending ∧ Results system ∧
    Ordered system.client consumed

theorem filterMap_result (call : Call) (stack : List Call) :
    (call :: stack).filterMap Call.result = call.result.toList ++ stack.filterMap Call.result := by
  rw [filterMap_cons]
  cases call.result <;> rfl

variable (result : Option (Nat × Frame)) (count : Nat) (qevents : List Event) (client : Client)

theorem Client.handleQueuedEvents_results :
    (client.handleQueuedEvents result qevents).returned ++
        (client.handleQueuedEvents result qevents).stack.filterMap Call.result =
      client.returned ++ (result.toList ++ client.stack.filterMap Call.result) := by
  cases qevents with
  | nil => exact append_assoc ..
  | cons event rest => exact congrArg _ (filterMap_result ⟨result, rest⟩ client.stack)

theorem Client.handleQueuedEvents_activity :
    (client.handleQueuedEvents result qevents).activity = .code := by
  cases qevents <;> rfl

theorem Client.handleQueuedEvents_reader :
    (client.handleQueuedEvents result qevents).reader = client.reader := by
  cases qevents <;> rfl

variable {client : Client} {command : Option Nat}

theorem Client.handleQueuedEvents_ordered {consumed : List Frame}
    (order : client.delivered ++ (client.stack.reverse.flatMap Call.remaining ++ qevents) =
      consumed.filterMap Frame.event?)
    (calls : qevents ≠ [] → ∀ call ∈ client.stack, call.remaining = [])
    (nested : Nested client.stack) :
    Ordered (client.handleQueuedEvents result qevents) consumed := by
  cases qevents with
  | nil => exact ⟨order, fun some => absurd rfl some, nested⟩
  | cons event rest =>
    have none := calls (cons_ne_nil _ _)
    have around : client.stack.reverse.flatMap Call.remaining = [] := by
      rw [flatMap_eq_nil_iff]
      exact fun call found => none call (mem_reverse.mp found)
    refine ⟨?_, fun some => absurd rfl some, fun _ => none, nested⟩
    rw [← order, around]
    show (client.delivered ++ [event]) ++
      ((⟨result, rest⟩ :: client.stack : List Call).reverse.flatMap Call.remaining ++ []) = _
    rw [reverse_cons, flatMap_append, around, flatMap_singleton]
    simp

variable {system : System} {consumed unread : List Frame} {pending : List Request}

/-! ## Actions -/

theorem System.good_command (request : Request) (good : system.Good) :
    (system.command request).Good := by
  have ⟨consumed, unread, pending, exchange, results, ordered⟩ := good
  unfold System.command
  split
  case h_2 => exact good
  case h_1 code =>
    have toServer := exchange.toServer
    have outstanding := exchange.outstanding
    have numbers := results.numbers
    have order := ordered.order
    rw [code] at toServer outstanding numbers order
    refine ⟨consumed, unread, pending ++ [request], ?_, ?_, ?_⟩
    · exact {
        sent := exchange.sent
        toClient := exchange.toClient
        issued := by
          rw [exchange.issued, append_assoc]
        toServer := by
          have more := toServer.append [request]
          rw [requestFormat.encodeAll_singleton] at more
          simpa only [Activity.unsent, append_nil] using more
        responses := exchange.responses
        answered := exchange.answered
        unsent := by
          rintro rest number ⟨⟩
          exact requestFormat.encode_ne_nil request
        outstanding := by
          rw [length_append, ← outstanding]
          rfl
        last := by
          rintro number ⟨⟩
          rw [length_append]
          rfl }
    · refine ⟨results.own, ?_⟩
      rw [length_append, length_singleton, range_succ]
      have before : ((system.client.returned ++ system.client.stack.filterMap Call.result).map
          Prod.fst).Perm (List.range system.issued.length) := by
        simpa only [Activity.number, Option.toList_none, append_nil] using numbers
      exact before.append_right _
    · exact ⟨order, fun some => absurd rfl some, ordered.nested⟩

theorem Exchange.of_idle (exchange : Exchange system consumed unread pending)
    (before : system.client.activity.unsent = [] ∧ system.client.activity.number = none)
    (after : client.activity.unsent = [] ∧ client.activity.number = none)
    (sending : ∀ rest number, client.activity ≠ .sending rest number)
    (reader : client.reader = system.client.reader) :
    Exchange { system with client := client } consumed unread pending where
  sent := exchange.sent
  toClient := by
    rw [reader]
    exact exchange.toClient
  issued := exchange.issued
  toServer := by
    rw [after.1, ← before.1]
    exact exchange.toServer
  responses := exchange.responses
  answered := exchange.answered
  unsent rest number same := absurd same (sending rest number)
  outstanding := by
    rw [after.2, ← before.2]
    exact exchange.outstanding
  last number same := by
    have other : client.activity.number = some number := same
    rw [after.2] at other
    cases other

theorem System.good_handleEvents (good : system.Good) : system.handleEvents.Good := by
  have ⟨consumed, unread, pending, exchange, results, ordered⟩ := good
  unfold System.handleEvents
  split
  case h_2 => exact good
  case h_1 code =>
    have numbers := results.numbers
    have order := ordered.order
    rw [code] at numbers order
    refine ⟨consumed, unread, pending, ?_, ⟨results.own, numbers⟩, ?_⟩
    · exact exchange.of_idle (by rw [code]; exact ⟨rfl, rfl⟩) ⟨rfl, rfl⟩ nofun rfl
    · exact ⟨order, fun some => absurd rfl some, ordered.nested⟩

theorem System.good_callbackReturns (good : system.Good) : system.callbackReturns.Good := by
  have ⟨consumed, unread, pending, exchange, results, ordered⟩ := good
  unfold System.callbackReturns
  split
  case h_2 => exact good
  case h_1 call stack code calls =>
    have own := results.own
    have numbers := results.numbers
    have order := ordered.order
    have nested := ordered.nested
    rw [calls] at own numbers order nested
    rw [code] at numbers order
    have now := Client.handleQueuedEvents_activity call.result call.remaining
      { system.client with stack := stack }
    have kept := Client.handleQueuedEvents_results call.result call.remaining
      { system.client with stack := stack }
    rw [← filterMap_result] at kept
    refine ⟨consumed, unread, pending, ?_, ⟨?_, ?_⟩, ?_⟩
    · apply exchange.of_idle
      · rw [code]
        exact ⟨rfl, rfl⟩
      · rw [now]
        exact ⟨rfl, rfl⟩
      · rw [now]
        exact nofun
      · exact Client.handleQueuedEvents_reader ..
    · intro number frame found
      exact own number frame (kept ▸ found)
    · show ((_ : List (Nat × Frame)).map Prod.fst ++ _).Perm _
      rw [kept, now]
      exact numbers
    · apply Client.handleQueuedEvents_ordered
      · rw [reverse_cons, flatMap_append, flatMap_singleton] at order
        rw [← order]
        exact congrArg _ (append_nil _).symm
      · exact nested.1
      · exact nested.2

theorem System.good_clientWrite (good : system.Good) : (system.clientWrite count).Good := by
  have ⟨consumed, unread, pending, exchange, results, ordered⟩ := good
  unfold System.clientWrite
  split
  case h_2 => exact good
  case h_1 rest number sending =>
    have toServer := exchange.toServer
    have outstanding := exchange.outstanding
    have last := exchange.last
    have numbers := results.numbers
    have order := ordered.order
    rw [sending] at toServer outstanding last numbers order
    dsimp only
    generalize after : (if rest.drop count = [] then Activity.waiting (some number) []
      else .sending (rest.drop count) number) = activity
    have unsent : activity.unsent = rest.drop count ∧ activity.number = some number ∧
        activity.qevents = [] ∧
        ∀ left other, activity = .sending left other → left ≠ [] := by
      rw [← after]
      split
      case isTrue empty => exact ⟨empty.symm, rfl, rfl, nofun⟩
      case isFalse some =>
        refine ⟨rfl, rfl, rfl, ?_⟩
        rintro left other ⟨⟩
        exact some
    refine ⟨consumed, unread, pending, ?_, ⟨results.own, ?_⟩, ?_⟩
    · exact {
        sent := exchange.sent
        toClient := exchange.toClient
        issued := exchange.issued
        toServer := by
          rw [unsent.1, append_assoc, take_append_drop]
          exact toServer
        responses := exchange.responses
        answered := exchange.answered
        unsent := unsent.2.2.2
        outstanding := by
          rw [unsent.2.1]
          exact outstanding
        last := by
          rw [unsent.2.1]
          exact last }
    · show (_ ++ activity.number.toList).Perm _
      rw [unsent.2.1]
      exact numbers
    · refine ⟨?_, ?_, ordered.nested⟩
      · show _ ++ (_ ++ activity.qevents) = _
        rw [unsent.2.2.1]
        exact order
      · show activity.qevents ≠ [] → _
        rw [unsent.2.2.1]
        exact fun some => absurd rfl some

variable {frame : Frame} {toClient : List UInt8} {event : Event}

theorem Exchange.received (exchange : Exchange system consumed (frame :: unread) pending)
    (before : system.client.activity.unsent = [])
    (stream : frameFormat.Reads client.reader (toClient ++ system.server.out) unread)
    (after : client.activity.unsent = [])
    (sending : ∀ rest number, client.activity ≠ .sending rest number)
    (outstanding : ((consumed ++ [frame]).filter Frame.isResponse).length +
      client.activity.number.toList.length = system.issued.length)
    (last : ∀ number, client.activity.number = some number →
      system.client.activity.number = some number) :
    Exchange { system with client := client, toClient := toClient } (consumed ++ [frame]) unread
      pending where
  sent := by
    rw [append_assoc]
    exact exchange.sent
  toClient := stream
  issued := exchange.issued
  toServer := by
    rw [after, ← before]
    exact exchange.toServer
  responses := exchange.responses
  answered := exchange.answered
  unsent rest number same := absurd same (sending rest number)
  outstanding := outstanding
  last number same := exchange.last number (last number same)

theorem Exchange.response (exchange : Exchange system consumed (frame :: unread) pending)
    (response : frame.isResponse = true) :
    ∃ number, system.client.activity.number = some number ∧
      (consumed.filter Frame.isResponse).length + 1 = system.issued.length ∧
      system.server.responses[number]? = some (system.sd, frame) := by
  have outstanding := exchange.outstanding
  have responses := exchange.responses
  rw [exchange.sent, filter_append, filter_cons_of_pos response, map_append,
    map_cons] at responses
  have served : system.server.responses.length = system.server.served.length := by
    have lengths := congrArg List.length exchange.answered
    rwa [length_map, length_map] at lengths
  have made : system.server.served.length ≤ system.issued.length := by
    rw [exchange.issued, length_append]
    exact Nat.le_add_right _ _
  have counted : (consumed.filter Frame.isResponse).length + 1 ≤
      system.server.responses.length := by
    rw [responses, length_append, length_cons, length_map]
    omega
  cases command : system.client.activity.number with
  | none =>
    rw [command] at outstanding
    change (consumed.filter Frame.isResponse).length = system.issued.length at outstanding
    omega
  | some number =>
    rw [command] at outstanding
    have place : (consumed.filter Frame.isResponse).length = number := by
      have last := exchange.last number command
      change (consumed.filter Frame.isResponse).length + 1 = system.issued.length at outstanding
      omega
    refine ⟨number, rfl, outstanding, ?_⟩
    have length : ((consumed.filter Frame.isResponse).map fun frame => (system.sd, frame)).length =
        number := by
      rw [length_map, place]
    rw [responses, ← length, List.getElem?_append_right (Nat.le_refl _), Nat.sub_self]
    rfl

theorem Client.receive_waiting (isEvent : frame.event? = some event) (number : Nat)
    (qevents : List Event) (client : Client) :
    client.receive frame (some number) qevents =
      { client with activity := .waiting (some number) (qevents ++ [event]) } := by
  unfold Client.receive
  rw [isEvent]
  exact if_neg nofun

theorem Client.receive_event (isEvent : frame.event? = some event) (qevents : List Event)
    (client : Client) :
    client.receive frame none qevents = client.handleQueuedEvents none (qevents ++ [event]) := by
  unfold Client.receive
  rw [isEvent]
  exact if_pos rfl

theorem Client.receive_response (isResponse : frame.event? = none) (number : Nat)
    (qevents : List Event) (client : Client) :
    client.receive frame (some number) qevents =
      client.handleQueuedEvents (some (number, frame)) qevents := by
  unfold Client.receive
  rw [isResponse]
  rfl

theorem System.good_event {qevents : List Event}
    (exchange : Exchange system consumed (frame :: unread) pending) (results : Results system)
    (ordered : Ordered system.client consumed)
    (waiting : system.client.activity = .waiting command qevents)
    (stream : frameFormat.Reads [] (toClient ++ system.server.out) unread)
    (isEvent : frame.event? = some event)
    (around : ∀ call ∈ system.client.stack, call.remaining = []) :
    { system with
      client := { system.client with reader := [] }.receive frame command qevents,
      toClient := toClient }.Good := by
  have before : system.client.activity.unsent = [] := by rw [waiting]; rfl
  have outstanding := exchange.outstanding
  have numbers := results.numbers
  have order := ordered.order
  rw [waiting] at outstanding numbers order
  have responses : (consumed ++ [frame]).filter Frame.isResponse =
      consumed.filter Frame.isResponse := by
    have skipped : ¬ frame.isResponse = true := by
      unfold Frame.isResponse
      rw [isEvent]
      exact nofun
    rw [filter_append, filter_cons_of_neg skipped, filter_nil, append_nil]
  have later : system.client.delivered ++
      (system.client.stack.reverse.flatMap Call.remaining ++ (qevents ++ [event])) =
        (consumed ++ [frame]).filterMap Frame.event? := by
    rw [filterMap_append, filterMap_cons_some isEvent, filterMap_nil, ← order]
    simp only [Activity.qevents, append_assoc]
  refine ⟨consumed ++ [frame], unread, pending, ?_⟩
  cases command with
  | some number =>
    rw [Client.receive_waiting isEvent]
    refine ⟨?_, ⟨results.own, numbers⟩, ⟨later, fun _ => around, ordered.nested⟩⟩
    apply exchange.received before stream rfl
    · exact nofun
    · rw [responses]
      exact outstanding
    · rw [waiting]
      exact fun other same => same
  | none =>
    rw [Client.receive_event isEvent]
    have now := Client.handleQueuedEvents_activity none (qevents ++ [event])
      { system.client with reader := [] }
    have kept := Client.handleQueuedEvents_results none (qevents ++ [event])
      { system.client with reader := [] }
    have reader := Client.handleQueuedEvents_reader none (qevents ++ [event])
      { system.client with reader := [] }
    refine ⟨?_, ⟨?_, ?_⟩, ?_⟩
    · apply exchange.received before
      · rw [reader]
        exact stream
      · rw [now]
        rfl
      · rw [now]
        exact nofun
      · rw [responses, now]
        exact outstanding
      · rw [now]
        exact nofun
    · intro number frame found
      exact results.own number frame (kept ▸ found)
    · show ((_ : List (Nat × Frame)).map Prod.fst ++ _).Perm _
      rw [kept, now]
      exact numbers
    · exact Client.handleQueuedEvents_ordered _ _ later (fun _ => around) ordered.nested

theorem System.good_response {qevents : List Event}
    (exchange : Exchange system consumed (frame :: unread) pending) (results : Results system)
    (ordered : Ordered system.client consumed)
    (waiting : system.client.activity = .waiting command qevents)
    (stream : frameFormat.Reads [] (toClient ++ system.server.out) unread)
    (isResponse : frame.event? = none) :
    { system with
      client := { system.client with reader := [] }.receive frame command qevents,
      toClient := toClient }.Good := by
  have before : system.client.activity.unsent = [] := by rw [waiting]; rfl
  have response : frame.isResponse = true := by
    unfold Frame.isResponse
    rw [isResponse]
    rfl
  obtain ⟨number, same, count, own⟩ := exchange.response response
  have numbers := results.numbers
  have order := ordered.order
  have calls := ordered.calls
  rw [waiting] at same numbers order calls
  change command = some number at same
  subst same
  rw [Client.receive_response isResponse]
  have now := Client.handleQueuedEvents_activity (some (number, frame)) qevents
    { system.client with reader := [] }
  have kept := Client.handleQueuedEvents_results (some (number, frame)) qevents
    { system.client with reader := [] }
  have reader := Client.handleQueuedEvents_reader (some (number, frame)) qevents
    { system.client with reader := [] }
  refine ⟨consumed ++ [frame], unread, pending, ?_, ⟨?_, ?_⟩, ?_⟩
  · apply exchange.received before
    · rw [reader]
      exact stream
    · rw [now]
      rfl
    · rw [now]
      exact nofun
    · rw [now, filter_append, filter_cons_of_pos response, filter_nil,
        length_append]
      exact count
    · rw [now]
      exact nofun
  · intro other result found
    rw [kept, mem_append, mem_append] at found
    rcases found with returned | new | queued
    · exact results.own other result (mem_append_left _ returned)
    · cases mem_singleton.mp new
      exact own
    · exact results.own other result (mem_append_right _ queued)
  · show ((_ : List (Nat × Frame)).map Prod.fst ++ _).Perm _
    rw [kept, now]
    refine List.Perm.trans ?_ numbers
    simp only [Activity.number, Option.toList_none, Option.toList_some, map_append,
      append_assoc, append_nil, map_singleton]
    exact perm_append_comm.append_left _
  · refine Client.handleQueuedEvents_ordered _ _ ?_ calls ordered.nested
    rw [filterMap_append, filterMap_cons_none isResponse, filterMap_nil,
      append_nil]
    exact order

theorem System.good_clientRead (good : system.Good) (guard : InOrder system (.clientRead count)) :
    (system.clientRead count).Good := by
  have ⟨consumed, unread, pending, exchange, results, ordered⟩ := good
  unfold System.clientRead
  split
  case h_2 => exact good
  case h_1 command qevents waiting =>
    dsimp only
    rcases exchange.toClient.read_available count with ⟨unfinished, stream⟩ |
      ⟨frame, rest, same, finished, stream⟩
    · rw [unfinished]
      refine ⟨consumed, unread, pending, { exchange with toClient := stream },
        ⟨results.own, results.numbers⟩, ⟨ordered.order, ordered.calls, ordered.nested⟩⟩
    rw [finished]
    subst same
    cases event? : frame.event? with
    | some event =>
      have received : (system.receives count).isSome := by
        unfold System.receives
        rw [waiting]
        rw [finished, Option.bind_some, event?]
        rfl
      exact System.good_event exchange results ordered waiting stream event? (guard received)
    | none => exact System.good_response exchange results ordered waiting stream event?

theorem System.good_broadcast (event : Event) (good : system.Good) :
    (system.broadcast event).Good := by
  have ⟨consumed, unread, pending, exchange, results, ordered⟩ := good
  unfold System.broadcast
  split
  case isFalse => exact good
  case isTrue idle =>
    refine ⟨consumed, unread ++ [event.frame], pending, ?_, ⟨results.own, results.numbers⟩, ordered⟩
    have skipped : ¬ event.frame.isResponse = true := nofun
    exact {
      sent := by
        rw [exchange.sent, append_assoc]
      toClient := by
        have stream := exchange.toClient
        rw [idle.1, append_nil] at stream
        have more := stream.append [event.frame]
        rwa [frameFormat.encodeAll_singleton] at more
      issued := exchange.issued
      toServer := exchange.toServer
      responses := by
        rw [filter_append, filter_cons_of_neg skipped, filter_nil, append_nil]
        exact exchange.responses
      answered := exchange.answered
      unsent := exchange.unsent
      outstanding := exchange.outstanding
      last := exchange.last }

theorem System.good_serverRead (backend : Backend) (events : List Event) (good : system.Good) :
    (system.serverRead count backend events).Good := by
  have ⟨consumed, unread, pending, exchange, results, ordered⟩ := good
  unfold System.serverRead
  split
  case isFalse => exact good
  case isTrue idle =>
    dsimp only
    rcases exchange.toServer.read_available count with ⟨unfinished, stream⟩ |
      ⟨request, rest, same, finished, stream⟩
    · rw [unfinished]
      exact ⟨consumed, unread, pending, { exchange with toServer := stream },
        ⟨results.own, results.numbers⟩, ordered⟩
    rw [finished]
    subst same
    obtain ⟨frame, single, id, isResponse⟩ := handlePollin_single system.sd request backend
    have response : frame.isResponse = true := by
      unfold Frame.isResponse
      rw [isResponse]
      rfl
    have noEvents : (events.map Event.frame).filter Frame.isResponse = [] := by
      rw [filter_eq_nil_iff]
      intro sent found
      obtain ⟨event, -, rfl⟩ := mem_map.mp found
      exact nofun
    have filtered : (events.map Event.frame ++ [frame]).filter Frame.isResponse = [frame] := by
      rw [filter_append, noEvents, filter_cons_of_pos response]
      rfl
    have toSelf : ([(system.sd, frame)].filter
        fun response => response.1 == system.sd).map Prod.snd = [frame] := by
      rw [filter_cons_of_pos (by exact beq_self_eq_true _)]
      rfl
    dsimp only
    rw [single, toSelf]
    refine ⟨consumed, unread ++ (events.map Event.frame ++ [frame]), rest, ?_, ?_, ordered⟩
    · exact {
        sent := by
          rw [exchange.sent, append_assoc]
        toClient := by
          have before := exchange.toClient
          rw [idle, append_nil] at before
          exact before.append _
        issued := by
          rw [exchange.issued, append_assoc]
          rfl
        toServer := stream
        responses := by
          show system.server.responses ++ [(system.sd, frame)] =
            ((system.server.sent ++ (events.map Event.frame ++ [frame])).filter _).map _
          rw [filter_append, filtered, map_append, ← exchange.responses]
          rfl
        answered := by
          show (system.server.responses ++ [(system.sd, frame)]).map _ =
            (system.server.served ++ [request]).map _
          rw [map_append, map_append, exchange.answered, map_singleton,
            map_singleton, id]
        unsent := exchange.unsent
        outstanding := exchange.outstanding
        last := exchange.last }
    · refine ⟨?_, results.numbers⟩
      intro number result found
      have own := results.own number result found
      rw [List.getElem?_append_left (List.getElem?_eq_some_iff.mp own).1]
      exact own

theorem System.good_serverWrite (good : system.Good) : (system.serverWrite count).Good := by
  obtain ⟨consumed, unread, pending, exchange, results, ordered⟩ := good
  refine ⟨consumed, unread, pending, { exchange with toClient := ?_ },
    ⟨results.own, results.numbers⟩, ordered⟩
  show frameFormat.Reads _ ((system.toClient ++ system.server.out.take count) ++
    system.server.out.drop count) _
  rw [append_assoc, take_append_drop]
  exact exchange.toClient

/-- Every action in order keeps the exchange good. -/
theorem System.good_step (action : Action) (good : system.Good)
    (guard : InOrder system action) : (system.step action).Good := by
  cases action with
  | command request => exact System.good_command request good
  | handleEvents => exact System.good_handleEvents good
  | callbackReturns => exact System.good_callbackReturns good
  | clientWrite count => exact System.good_clientWrite count good
  | clientRead count => exact System.good_clientRead count good guard
  | broadcast event => exact System.good_broadcast event good
  | serverRead count backend events => exact System.good_serverRead count backend events good
  | serverWrite count => exact System.good_serverWrite count good

theorem System.good_initial (sd : Nat) : (System.initial sd).Good := by
  refine ⟨[], [], [], ?_, ⟨nofun, List.Perm.refl _⟩, ⟨rfl, nofun, trivial⟩⟩
  exact {
    sent := rfl
    toClient := frameFormat.reads_nil _ _ rfl
    issued := rfl
    toServer := requestFormat.reads_nil _ _ rfl
    responses := rfl
    answered := rfl
    unsent := nofun
    outstanding := rfl
    last := nofun }

section

variable (exchange : Exchange system consumed unread pending)
include exchange

theorem Exchange.responses_length :
    ((consumed ++ unread).filter Frame.isResponse).length = system.server.served.length := by
  have lengths := congrArg List.length exchange.answered
  rw [length_map, length_map, exchange.responses, length_map, exchange.sent]
    at lengths
  exact lengths

theorem Exchange.waits (number : Nat) (qevents : List Event)
    (waiting : system.client.activity = .waiting (some number) qevents) :
    system.toServer ++ system.toClient ++ system.server.out ≠ [] := by
  intro quiet
  rw [append_assoc, append_eq_nil_iff] at quiet
  have toServer := exchange.toServer
  have outstanding := exchange.outstanding
  have issued := congrArg List.length exchange.issued
  have responses := exchange.responses_length
  rw [waiting] at toServer outstanding
  have unsent : system.toServer ++ (Activity.waiting (some number) qevents).unsent = [] := by
    rw [quiet.1]
    rfl
  have served : pending = [] := by
    by_contra some
    exact toServer.stream_ne_nil some unsent
  have read : unread = [] := by
    by_contra some
    exact exchange.toClient.stream_ne_nil some quiet.2
  rw [served, append_nil] at issued
  rw [read, append_nil] at responses
  change (consumed.filter Frame.isResponse).length + 1 = system.issued.length at outstanding
  omega

/-- Once all is quiet nothing is unread and each issued command has been served. -/
theorem Exchange.settled (idle : system.client.activity = .code)
    (quiet : system.client.reader ++ system.toClient ++ system.server.out = []) :
    unread = [] ∧ system.server.served = system.issued := by
  have outstanding := exchange.outstanding
  have issued := exchange.issued
  have responses := exchange.responses_length
  have bytes := exchange.toClient.1
  rw [idle] at outstanding
  rw [← append_assoc, quiet] at bytes
  have read := frameFormat.encodeAll_eq_nil.mp bytes.symm
  rw [read, append_nil] at responses
  refine ⟨read, ?_⟩
  change (consumed.filter Frame.isResponse).length = system.issued.length at outstanding
  have none : pending = [] := by
    have lengths := congrArg List.length issued
    rw [length_append] at lengths
    exact eq_nil_of_length_eq_zero (by omega)
  rw [issued, none, append_nil]

end

theorem System.Good.paired (good : system.Good) : system.Paired := by
  obtain ⟨consumed, unread, pending, exchange, results, ordered⟩ := good
  have broadcasts : system.broadcasts =
      consumed.filterMap Frame.event? ++ unread.filterMap Frame.event? := by
    unfold System.broadcasts
    rw [exchange.sent, filterMap_append]
  exact {
    served := ⟨pending, exchange.issued.symm⟩
    answered := exchange.answered
    returned := fun number frame found => results.own number frame (mem_append_left _ found)
    once := by
      have nodup := results.numbers.nodup_iff.mpr nodup_range
      rw [map_append, append_assoc] at nodup
      exact (nodup_append.mp nodup).1
    delivered := by
      rw [broadcasts, ← ordered.order, append_assoc]
      exact prefix_append _ _
    waits := exchange.waits
    settled := by
      intro idle calls quiet
      have settled := exchange.settled idle quiet
      have numbers := results.numbers
      have order := ordered.order
      rw [idle, calls] at numbers order
      refine ⟨settled.2, ?_, ?_⟩
      · simpa only [filterMap_nil, append_nil, Activity.number, Option.toList_none]
          using numbers
      · rw [broadcasts, settled.1]
        simpa only [reverse_nil, flatMap_nil, Activity.qevents, append_nil,
          filterMap_nil] using order }

/-- In every run where no event is received while others wait in a call around, requests and
responses are paired, and the callback gets the events in order. -/
theorem commands_are_paired (sd : Nat) (actions : List Action)
    (guarded : Guarded System.step InOrder (System.initial sd) actions) :
    ∀ reached, reached <+: actions → (reached.foldl System.step (System.initial sd)).Paired := by
  rintro reached ⟨rest, rfl⟩
  have good := foldl_invariant System.Good (fun system action good guard =>
    System.good_step action good guard) (System.good_initial sd) guarded.append.1
  exact good.paired

def Backend.off : Backend where
  fails := false
  connid := 0
  amountWifi := 0
  amountCellular := 0
  wifiStatus := .off
  wifiInfo := []
  ubStatus := .off
  ubPending := false
  ubInfo := []
  encodeStatus := fun _ => Payload.empty

/-- A ping, and two events before its response. -/
def pingWithEvents : List Action :=
  [.command ⟨2, Payload.empty⟩, .clientWrite 5,
    .broadcast ⟨3, Payload.empty⟩, .serverWrite 9, .broadcast ⟨4, Payload.empty⟩, .serverWrite 9,
    .serverRead 5 Backend.off [], .serverWrite 9, .clientRead 9, .clientRead 9, .clientRead 9]

/-- The callback for the first event sends a ping, and reads a third event. -/
def pingInCallback : List Action :=
  pingWithEvents ++
    [.command ⟨2, Payload.empty⟩, .clientWrite 5,
      .broadcast ⟨5, Payload.empty⟩, .serverWrite 9,
      .serverRead 5 Backend.off [], .serverWrite 9, .clientRead 9, .clientRead 9]

/-- A run with two events meets the condition. -/
theorem commands_are_paired_ping :
    Guarded System.step InOrder (System.initial 7) pingWithEvents ∧
      ∀ reached, reached <+: pingWithEvents →
        (reached.foldl System.step (System.initial 7)).Paired := by
  have guarded : Guarded System.step InOrder (System.initial 7) pingWithEvents := by
    refine ⟨trivial, trivial, trivial, trivial, trivial, trivial, trivial, trivial, ?_, ?_, ?_,
      trivial⟩
    all_goals exact fun _ => nofun
  exact ⟨guarded, commands_are_paired 7 pingWithEvents guarded⟩

/-- The third event overtakes the second one. -/
theorem nested_event_overtakes :
    ¬ ∀ reached, reached <+: pingInCallback →
      (reached.foldl System.step (System.initial 7)).Paired := by
  intro all
  have delivered := (all pingInCallback (prefix_refl _)).delivered
  exact absurd delivered (by decide +kernel)

end Thingsee.Conman.Protocol
