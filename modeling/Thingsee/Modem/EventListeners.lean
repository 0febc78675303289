import Thingsee.Support.Runs

/-!
Owns the event listeners of the modem: their registration, and the publishing of
events to them, in `ubmodem_main.c` and `ubmodem_internal.h`.

A listener's function can register and unregister listeners and publish events
itself. A run is therefore a sequence of calls from outside or from the listener
that runs at the time, and `proceed` is the return of that listener.

`active_events` is meant to be the union of what the listeners listen for, so
that an event nobody listens for need not be published.
`fast_path_agrees_iff` says in which runs it is.
-/

namespace Thingsee.Modem.Events

open Support List

/-- A set of `enum ubmodem_event_flags_e`. -/
abbrev EventTypes := BitVec 32

def union (sets : List EventTypes) : EventTypes := sets.foldr (· ||| ·) 0#32

/-- Every event of the first set is in the second. -/
def Covered (events other : EventTypes) : Prop := events ||| other = other

instance (events other : EventTypes) : Decidable (Covered events other) :=
  inferInstanceAs (Decidable (_ = _))

/-- `struct modem_event_listener_entry_s`. An entry that was unregistered has no
function, and then no events either. -/
structure Listener (C P : Type) where
  callbackFn : Option C
  callbackPriv : P
  eventTypes : EventTypes
  silent : callbackFn = none → eventTypes = 0#32

/-- A walk of `__ubmodem_publish_event_slow` through the listeners: `next` is the
position of the entry it goes on with. -/
structure Walk where
  type : EventTypes
  next : Option Nat

/-- A call of a listener. -/
structure Call (C P : Type) where
  callback : C
  priv : P
  type : EventTypes

/-- What `struct ubmodem_s` has for events. `walks` are the publications that are
going on, the innermost first, and `calls` is the record of called listeners. -/
structure Publisher (C P : Type) where
  listeners : List (Listener C P)
  activeEvents : EventTypes
  publishingEvent : Nat
  walks : List Walk
  calls : List (Call C P)

/-- What happens next. `allocated` tells if there is memory for a new entry. -/
inductive Action (C P : Type) where
  | register (eventTypes : EventTypes) (callback : C) (priv : P) (allocated : Bool)
  | unregister (callback : C)
  | publish (type : EventTypes)
  | proceed

variable {C P : Type}

namespace Listener

/-- An entry as `ubmodem_register_event_listener` makes it. -/
def entry (eventTypes : EventTypes) (callback : C) (priv : P) : Listener C P :=
  ⟨some callback, priv, eventTypes, fun none => absurd none (by simp)⟩

/-- Whether the entry has not been unregistered. -/
def registered (listener : Listener C P) : Bool := listener.callbackFn.isSome

variable [DecidableEq C] [DecidableEq P]

def isFor (callback : C) (listener : Listener C P) : Bool :=
  decide (listener.callbackFn = some callback)

def update (eventTypes : EventTypes) (callback : C) (priv : P) (listener : Listener C P) :
    Listener C P :=
  if listener.isFor callback ∧ listener.callbackPriv = priv then entry eventTypes callback priv
  else listener

def reset (callback : C) (listener : Listener C P) : Listener C P :=
  if listener.isFor callback then ⟨none, listener.callbackPriv, 0#32, fun _ => rfl⟩ else listener

end Listener

def eventsWhere (which : Listener C P → Bool) (listeners : List (Listener C P)) : EventTypes :=
  union ((listeners.filter which).map Listener.eventTypes)

/-- The first entry that is called for an event, and its position. -/
def nextCall (type : EventTypes) : List (Listener C P) → Option (Nat × Call C P)
  | [] => none
  | listener :: rest =>
    match listener.callbackFn with
    | some callback =>
      if type &&& listener.eventTypes ≠ 0#32 then
        some (0, ⟨callback, listener.callbackPriv, type⟩)
      else (nextCall type rest).map (fun found => (found.1 + 1, found.2))
    | none => (nextCall type rest).map (fun found => (found.1 + 1, found.2))

namespace Publisher

def initial (C P : Type) : Publisher C P := ⟨[], 0#32, 0, [], []⟩

/-- The end of `__ubmodem_publish_event_slow`. -/
def endWalk (modem : Publisher C P) (outer : List Walk) : Publisher C P :=
  let publishing := modem.publishingEvent - 1
  let modem := { modem with publishingEvent := publishing, walks := outer }
  if publishing ≠ 0 then modem
  else { modem with listeners := modem.listeners.filter Listener.registered }

/-- The innermost walk goes on, up to the next listener that is called or to its
end. The entry behind a listener is looked up before the listener runs. -/
def proceed (modem : Publisher C P) : Publisher C P :=
  match modem.walks with
  | [] => modem
  | walk :: outer =>
    match walk.next with
    | none => modem.endWalk outer
    | some position =>
      match nextCall walk.type (modem.listeners.drop position) with
      | none => modem.endWalk outer
      | some (skipped, call) =>
        let behind := position + skipped + 1
        let next := if behind < modem.listeners.length then some behind else none
        { modem with
          walks := { walk with next := next } :: outer
          calls := modem.calls ++ [call] }

/-- `__ubmodem_publish_event_slow`, up to the first listener that is called. -/
def publishEventSlow (modem : Publisher C P) (type : EventTypes) : Publisher C P :=
  proceed { modem with
    publishingEvent := modem.publishingEvent + 1
    walks := ⟨type, some 0⟩ :: modem.walks }

def publishEvent (modem : Publisher C P) (type : EventTypes) : Publisher C P :=
  if type &&& modem.activeEvents = 0#32 then modem else modem.publishEventSlow type

variable [DecidableEq C] [DecidableEq P]

def isRegistered (modem : Publisher C P) (callback : C) (priv : P) : Bool :=
  modem.listeners.any (fun listener =>
    listener.isFor callback && decide (listener.callbackPriv = priv))

def registerEventListener (modem : Publisher C P) (eventTypes : EventTypes) (callback : C)
    (priv : P) (allocated : Bool) : Publisher C P :=
  let done := modem.isRegistered callback priv
  let modem :=
    { modem with
      listeners := modem.listeners.map (Listener.update eventTypes callback priv)
      activeEvents := eventsWhere (fun listener => !listener.isFor callback) modem.listeners }
  if done then modem
  else if allocated then
    { modem with
      listeners := modem.listeners ++ [Listener.entry eventTypes callback priv]
      activeEvents := modem.activeEvents ||| eventTypes }
  else modem

def unregisterEventListener (modem : Publisher C P) (callback : C) : Publisher C P :=
  let listeners := modem.listeners.map (Listener.reset callback)
  { modem with
    listeners :=
      if modem.publishingEvent = 0 then listeners.filter Listener.registered else listeners
    activeEvents := eventsWhere (fun listener => !listener.isFor callback) listeners }

def step (modem : Publisher C P) : Action C P → Publisher C P
  | .register eventTypes callback priv allocated =>
    modem.registerEventListener eventTypes callback priv allocated
  | .unregister callback => modem.unregisterEventListener callback
  | .publish type => modem.publishEvent type
  | .proceed => modem.proceed

def run (modem : Publisher C P) (actions : List (Action C P)) : Publisher C P :=
  actions.foldl step modem

end Publisher

variable (which : Listener C P → Bool)

theorem eventsWhere_cons (listener : Listener C P) (rest : List (Listener C P)) :
    eventsWhere which (listener :: rest) =
      (if which listener then listener.eventTypes else 0#32) ||| eventsWhere which rest := by
  unfold eventsWhere
  cases chosen : which listener with
  | true => simp [chosen, union]
  | false => simp [chosen]

theorem eventsWhere_append (first second : List (Listener C P)) :
    eventsWhere which (first ++ second) = eventsWhere which first ||| eventsWhere which second := by
  induction first with
  | nil => simp [eventsWhere, union]
  | cons listener rest ih =>
    rw [cons_append, eventsWhere_cons, eventsWhere_cons, ih,
      BitVec.or_assoc]

theorem eventsWhere_filter_registered (listeners : List (Listener C P)) :
    eventsWhere Listener.registered (listeners.filter Listener.registered) =
      eventsWhere Listener.registered listeners := by
  simp [eventsWhere]

theorem Listener.eventTypes_of_unregistered {listener : Listener C P}
    (unregistered : listener.registered = false) : listener.eventTypes = 0#32 :=
  listener.silent (by simpa [Listener.registered] using unregistered)

theorem nextCall_eq_none {type : EventTypes} {listeners : List (Listener C P)}
    (unheard : type &&& eventsWhere Listener.registered listeners = 0#32) :
    nextCall type listeners = none := by
  induction listeners with
  | nil => rfl
  | cons listener rest ih =>
    rw [eventsWhere_cons, BitVec.and_or_distrib_left] at unheard
    replace unheard := BitVec.or_eq_zero_iff.mp unheard
    unfold nextCall
    rw [ih unheard.2]
    split
    · next callback isCallback =>
      have registered : listener.registered = true := by
        simp [Listener.registered, isCallback]
      have none := unheard.1
      rw [if_pos registered] at none
      simp [none]
    · rfl

section Decidable

variable [DecidableEq C] [DecidableEq P]

/-- The events after entries were registered again: those of other functions,
those of the function with other private data, and the new ones if there is an
entry for them. -/
theorem eventsWhere_map_update (eventTypes : EventTypes) (callback : C) (priv : P)
    (listeners : List (Listener C P)) :
    eventsWhere Listener.registered (listeners.map (Listener.update eventTypes callback priv)) =
      eventsWhere (fun listener => !listener.isFor callback) listeners |||
        (eventsWhere (fun listener =>
          listener.isFor callback && decide (listener.callbackPriv ≠ priv)) listeners |||
          if listeners.any (fun listener =>
            listener.isFor callback && decide (listener.callbackPriv = priv)) then eventTypes
          else 0#32) := by
  induction listeners with
  | nil => simp [eventsWhere, union]
  | cons listener rest ih =>
    rw [map_cons, eventsWhere_cons, eventsWhere_cons, eventsWhere_cons, any_cons,
      ih]
    generalize eventsWhere (fun listener => !listener.isFor callback) rest = others
    generalize eventsWhere (fun listener =>
      listener.isFor callback && decide (listener.callbackPriv ≠ priv)) rest = same
    generalize rest.any (fun listener =>
      listener.isFor callback && decide (listener.callbackPriv = priv)) = again
    by_cases isFor : listener.isFor callback = true
    · have registered : listener.registered = true := by
        have isCallback : listener.callbackFn = some callback :=
          by simpa [Listener.isFor] using isFor
        simp [Listener.registered, isCallback]
      by_cases isPriv : listener.callbackPriv = priv
      · have updated : listener.update eventTypes callback priv =
            Listener.entry eventTypes callback priv := if_pos ⟨isFor, isPriv⟩
        have added : (Listener.entry eventTypes callback priv).registered = true := rfl
        rw [updated, if_pos added]
        change eventTypes ||| _ = _
        simp only [isFor, isPriv]
        cases again with
        | true =>
          simp only [↓reduceIte]
          rw [BitVec.or_comm, BitVec.or_assoc, BitVec.or_assoc, BitVec.or_self]
          simp
        | false =>
          simp
          ac_rfl
      · have updated : listener.update eventTypes callback priv = listener :=
          if_neg (fun both => isPriv both.2)
        rw [updated, if_pos registered]
        simp only [isFor, isPriv, Bool.not_true, Bool.false_eq_true, ↓reduceIte, ne_eq,
          not_false_eq_true, decide_true, Bool.and_true, decide_false, Bool.and_false,
          Bool.false_or, BitVec.zero_or]
        ac_rfl
    · have updated : listener.update eventTypes callback priv = listener :=
        if_neg (fun both => isFor both.1)
      have events : (if listener.registered then listener.eventTypes else 0#32) =
          listener.eventTypes := by
        split
        · rfl
        · next unregistered =>
          exact (Listener.eventTypes_of_unregistered (by simpa using unregistered)).symm
      rw [updated, events]
      simp [isFor, BitVec.or_assoc]

omit [DecidableEq P] in
theorem eventsWhere_map_reset (callback : C) (listeners : List (Listener C P)) :
    eventsWhere (fun listener => !listener.isFor callback)
        (listeners.map (Listener.reset callback)) =
      eventsWhere Listener.registered (listeners.map (Listener.reset callback)) := by
  induction listeners with
  | nil => rfl
  | cons listener rest ih =>
    rw [map_cons, eventsWhere_cons, eventsWhere_cons, ih]
    congr 1
    have notFor : (listener.reset callback).isFor callback = false := by
      unfold Listener.reset
      split
      · simp [Listener.isFor]
      · next other => simpa using other
    rw [notFor, Bool.not_false, if_pos rfl]
    split
    · rfl
    · next unregistered =>
      exact Listener.eventTypes_of_unregistered (by simpa using unregistered)

end Decidable

namespace Publisher

variable {modem : Publisher C P}

/-- `active_events` is what the registered listeners listen for, so that
publishing an event and skipping the check come to the same. -/
def Agrees (modem : Publisher C P) : Prop :=
  modem.activeEvents = eventsWhere Listener.registered modem.listeners ∧
    ∀ type, modem.publishEvent type = modem.publishEventSlow type

/-- Unregistered entries are only kept while an event is being published. -/
structure WellFormed (modem : Publisher C P) : Prop where
  publishing : modem.publishingEvent = modem.walks.length
  cleaned : modem.walks = [] → ∀ listener ∈ modem.listeners, listener.registered = true

theorem endWalk_wellFormed {walk : Walk} {outer : List Walk} (wellFormed : modem.WellFormed)
    (isWalk : modem.walks = walk :: outer) : (modem.endWalk outer).WellFormed := by
  have publishing := wellFormed.publishing
  rw [isWalk, length_cons] at publishing
  unfold endWalk
  dsimp only
  split
  · next inside =>
    refine ⟨by dsimp only; omega, ?_⟩
    intro ended
    have none : outer = [] := ended
    rw [publishing, none] at inside
    exact absurd rfl inside
  · refine ⟨by dsimp only; omega, ?_⟩
    intro _ listener kept
    exact (mem_filter.mp kept).2

theorem proceed_wellFormed (wellFormed : modem.WellFormed) : modem.proceed.WellFormed := by
  unfold proceed
  split
  · exact wellFormed
  · next walk outer isWalk =>
    split
    · exact endWalk_wellFormed wellFormed isWalk
    · split
      · exact endWalk_wellFormed wellFormed isWalk
      · refine ⟨?_, fun ended => absurd ended (by simp)⟩
        rw [wellFormed.publishing, isWalk]
        rfl

theorem publishEventSlow_wellFormed (wellFormed : modem.WellFormed) (type : EventTypes) :
    (modem.publishEventSlow type).WellFormed := by
  apply proceed_wellFormed
  refine ⟨?_, fun ended => absurd ended (by simp)⟩
  rw [wellFormed.publishing, length_cons]

theorem endWalk_events (modem : Publisher C P) (outer : List Walk) :
    (modem.endWalk outer).activeEvents = modem.activeEvents ∧
      eventsWhere Listener.registered (modem.endWalk outer).listeners =
        eventsWhere Listener.registered modem.listeners := by
  unfold endWalk
  dsimp only
  split
  · exact ⟨rfl, rfl⟩
  · exact ⟨rfl, eventsWhere_filter_registered modem.listeners⟩

theorem proceed_events (modem : Publisher C P) :
    modem.proceed.activeEvents = modem.activeEvents ∧
      eventsWhere Listener.registered modem.proceed.listeners =
        eventsWhere Listener.registered modem.listeners := by
  unfold proceed
  split
  · exact ⟨rfl, rfl⟩
  · next outer _ =>
    split
    · exact modem.endWalk_events outer
    · split
      · exact modem.endWalk_events outer
      · exact ⟨rfl, rfl⟩

theorem publishEventSlow_unheard (wellFormed : modem.WellFormed) {type : EventTypes}
    (unheard : type &&& eventsWhere Listener.registered modem.listeners = 0#32) :
    modem.publishEventSlow type = modem := by
  unfold publishEventSlow proceed
  dsimp only
  rw [drop_zero, nextCall_eq_none unheard]
  unfold endWalk
  dsimp only
  rw [Nat.add_sub_cancel]
  split
  · rfl
  · next outside =>
    have ended : modem.walks = [] := by
      rw [wellFormed.publishing] at outside
      exact length_eq_zero_iff.mp (by omega)
    have kept : modem.listeners.filter Listener.registered = modem.listeners :=
      filter_eq_self.mpr (wellFormed.cleaned ended)
    rw [kept]

theorem agrees_iff (wellFormed : modem.WellFormed) :
    modem.Agrees ↔ modem.activeEvents = eventsWhere Listener.registered modem.listeners := by
  constructor
  · intro agrees
    exact agrees.1
  · intro same
    refine ⟨same, ?_⟩
    intro type
    unfold publishEvent
    split
    · next skipped =>
      rw [same] at skipped
      exact (publishEventSlow_unheard wellFormed skipped).symm
    · rfl

variable [DecidableEq C] [DecidableEq P]

theorem registerEventListener_wellFormed (wellFormed : modem.WellFormed) (eventTypes : EventTypes)
    (callback : C) (priv : P) (allocated : Bool) :
    (modem.registerEventListener eventTypes callback priv allocated).WellFormed := by
  have updated (ended : modem.walks = []) :
      ∀ listener ∈ modem.listeners.map (Listener.update eventTypes callback priv),
        listener.registered = true := by
    intro listener isListener
    obtain ⟨old, isOld, rfl⟩ := mem_map.mp isListener
    unfold Listener.update
    split
    · rfl
    · exact wellFormed.cleaned ended old isOld
  unfold registerEventListener
  dsimp only
  split
  · exact ⟨wellFormed.publishing, updated⟩
  · split
    · refine ⟨wellFormed.publishing, ?_⟩
      intro ended listener isListener
      rcases mem_append.mp isListener with isOld | isNew
      · exact updated ended listener isOld
      · rw [mem_singleton.mp isNew]
        rfl
    · exact ⟨wellFormed.publishing, updated⟩

omit [DecidableEq P] in
theorem unregisterEventListener_wellFormed (wellFormed : modem.WellFormed) (callback : C) :
    (modem.unregisterEventListener callback).WellFormed := by
  refine ⟨wellFormed.publishing, ?_⟩
  intro ended listener isListener
  have outside : modem.publishingEvent = 0 := by
    rw [wellFormed.publishing]
    exact length_eq_zero_iff.mpr ended
  simp only [unregisterEventListener, outside, ↓reduceIte] at isListener
  exact (mem_filter.mp isListener).2

theorem step_wellFormed (modem : Publisher C P) (action : Action C P)
    (wellFormed : modem.WellFormed) : (modem.step action).WellFormed := by
  cases action with
  | register eventTypes callback priv allocated =>
    exact registerEventListener_wellFormed wellFormed eventTypes callback priv allocated
  | unregister callback => exact unregisterEventListener_wellFormed wellFormed callback
  | publish type =>
    change (modem.publishEvent type).WellFormed
    unfold publishEvent
    split
    · exact wellFormed
    · exact publishEventSlow_wellFormed wellFormed type
  | proceed => exact proceed_wellFormed wellFormed

/-- The condition under which a step keeps the agreement. A function that is
registered once more must not be registered for events that no other function
listens for, except those of a new entry. -/
def keepsEvents (modem : Publisher C P) : Action C P → Prop
  | .register eventTypes callback priv allocated =>
    let others := eventsWhere (fun listener => !listener.isFor callback) modem.listeners
    let same := eventsWhere (fun listener =>
      listener.isFor callback && decide (listener.callbackPriv ≠ priv)) modem.listeners
    if modem.isRegistered callback priv then Covered (same ||| eventTypes) others
    else Covered same (others ||| if allocated then eventTypes else 0#32)
  | _ => True

theorem register_agrees_iff (modem : Publisher C P) (eventTypes : EventTypes) (callback : C)
    (priv : P) (allocated : Bool) :
    let after := modem.registerEventListener eventTypes callback priv allocated
    after.activeEvents = eventsWhere Listener.registered after.listeners ↔
      modem.keepsEvents (.register eventTypes callback priv allocated) := by
  intro after
  have updated := eventsWhere_map_update eventTypes callback priv modem.listeners
  unfold keepsEvents
  dsimp only
  generalize others_eq :
    eventsWhere (fun listener => !listener.isFor callback) modem.listeners = others at updated ⊢
  generalize eventsWhere (fun listener =>
    listener.isFor callback && decide (listener.callbackPriv ≠ priv)) modem.listeners = same
    at updated ⊢
  cases known : modem.isRegistered callback priv with
  | true =>
    have isAfter : after = { modem with
        listeners := modem.listeners.map (Listener.update eventTypes callback priv)
        activeEvents := others } := by
      simp [after, registerEventListener, known, others_eq]
    unfold isRegistered at known
    rw [known, if_pos rfl] at updated
    rw [isAfter, if_pos rfl]
    rw [updated, BitVec.or_comm, eq_comm]
    rfl
  | false =>
    rw [if_neg (by simp)]
    cases allocated with
    | true =>
      have isAfter : after = { modem with
          listeners := modem.listeners.map (Listener.update eventTypes callback priv) ++
            [Listener.entry eventTypes callback priv]
          activeEvents := others ||| eventTypes } := by
        simp [after, registerEventListener, known, others_eq]
      have added : eventsWhere Listener.registered [Listener.entry eventTypes callback priv] =
          eventTypes := by
        have registered : (Listener.entry eventTypes callback priv).registered = true := rfl
        rw [eventsWhere_cons, if_pos registered]
        exact BitVec.or_zero
      unfold isRegistered at known
      rw [known, if_neg (by simp), BitVec.or_zero] at updated
      rw [isAfter, if_pos rfl]
      rw [eventsWhere_append, updated, added, eq_comm]
      unfold Covered
      rw [← BitVec.or_assoc, BitVec.or_comm same others]
    | false =>
      have isAfter : after = { modem with
          listeners := modem.listeners.map (Listener.update eventTypes callback priv)
          activeEvents := others } := by
        simp [after, registerEventListener, known, others_eq]
      unfold isRegistered at known
      rw [known, if_neg (by simp), BitVec.or_zero] at updated
      rw [isAfter, if_neg (by simp), BitVec.or_zero]
      rw [updated, BitVec.or_comm, eq_comm]
      rfl

theorem step_agrees_iff (modem : Publisher C P) (action : Action C P)
    (wellFormed : modem.WellFormed) (agrees : modem.Agrees) :
    (modem.step action).Agrees ↔ modem.keepsEvents action := by
  rw [agrees_iff (step_wellFormed modem action wellFormed)]
  cases action with
  | register eventTypes callback priv allocated =>
    exact register_agrees_iff modem eventTypes callback priv allocated
  | unregister callback =>
    refine iff_of_true ?_ trivial
    change eventsWhere _ (modem.listeners.map (Listener.reset callback)) = _
    rw [eventsWhere_map_reset]
    simp only [step, unregisterEventListener]
    split
    · rw [eventsWhere_filter_registered]
    · rfl
  | publish type =>
    refine iff_of_true ?_ trivial
    have kept := proceed_events { modem with
      publishingEvent := modem.publishingEvent + 1
      walks := ⟨type, some 0⟩ :: modem.walks }
    simp only [step, agrees.2 type, publishEventSlow]
    rw [kept.1, kept.2]
    exact agrees.1
  | proceed =>
    refine iff_of_true ?_ trivial
    have kept := modem.proceed_events
    change modem.proceed.activeEvents = eventsWhere Listener.registered modem.proceed.listeners
    rw [kept.1, kept.2]
    exact agrees.1

/-- For every run: `active_events` is the union of the events of the registered
listeners in every state of the run, and publishing an event there calls the
listeners that the slow path calls, if and only if every registration of the run
meets the condition. -/
theorem fast_path_agrees_iff (actions : List (Action C P)) :
    (∀ reached, reached <+: actions → ((initial C P).run reached).Agrees) ↔
      Guarded step keepsEvents (initial C P) actions := by
  have wellFormed : (initial C P).WellFormed := ⟨rfl, by simp [initial]⟩
  have agrees : (initial C P).Agrees := (agrees_iff wellFormed).mpr rfl
  exact forall_prefix_iff_guarded WellFormed Agrees step_wellFormed step_agrees_iff wellFormed
    agrees actions

/-- A listener that is registered again with other events is forgotten. -/
theorem registered_again_unheard :
    ¬ ((initial Nat Nat).run [.register 1 0 0 true, .register 2 0 0 true]).Agrees := by
  intro agrees
  exact absurd agrees.1 (by decide)

end Publisher


end Thingsee.Modem.Events
