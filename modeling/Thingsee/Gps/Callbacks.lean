import Mathlib.Data.List.Nodup
import Mathlib.Data.List.Perm.Subperm
import Thingsee.Modem.EventListeners
import Thingsee.Support.Behind

/-!
Owns the callbacks of the GPS module: their registration, and the publishing of events to
them, in ubgps.c and ubgps_internal.c.

A callback can register and unregister callbacks and publish events itself. A run is a sequence
of calls from outside or from the callback that runs at the time, and `proceed` is the return of
that callback. A publication looks up the next entry behind its own one only then, and an entry
that is registered again moves to the end. `callbacks_are_called_once` says when none is skipped.
-/

namespace Thingsee.Gps.Callbacks

open Support List
open Modem.Events (EventTypes union Covered)

/-- `struct gps_callback_entry_s`. -/
structure Entry (C P : Type) where
  callback : C
  eventMask : EventTypes
  priv : P

/-- The test of `ubgps_publish_event`. -/
def Entry.wants {C P : Type} (id : EventTypes) (entry : Entry C P) : Bool :=
  decide (entry.eventMask &&& id ≠ 0#32)

/-- An event that is published, and for the statements: the callbacks that have been subscribed
to it since, and the calls. -/
structure Publication (C P : Type) where
  id : EventTypes
  subscribed : List C
  called : List (C × P)
deriving DecidableEq

/-- A publication that waits for a callback, and whose. -/
structure Walk (C P : Type) where
  publication : Publication C P
  current : C

variable {C P : Type} [DecidableEq C]

/-- What `struct ubgps_s` has for callbacks. There is one entry for a callback. `walks` are the
publications that are going on, the innermost first, and `finished` the record of the others. -/
structure Hub (C P : Type) where
  callbacks : List (Entry C P)
  callbackEventMask : EventTypes
  walks : List (Walk C P)
  finished : List (Publication C P)
  distinct : (callbacks.map Entry.callback).Nodup

/-- What happens next. `allocated` tells if there is memory for a new entry. -/
inductive Action (C P : Type) where
  | register (eventMask : EventTypes) (callback : C) (priv : P) (allocated : Bool)
  | unregister (callback : C)
  | publish (id : EventTypes)
  | proceed
  | collect

def others (callback : C) (callbacks : List (Entry C P)) : List (Entry C P) :=
  callbacks.filter fun entry => decide (entry.callback ≠ callback)

def Entry.mark (callback : C) (entry : Entry C P) : Entry C P :=
  if entry.callback = callback then { entry with eventMask := 0#32 } else entry

variable (callback : C) (entry : Entry C P) (callbacks : List (Entry C P))

theorem Entry.mark_callback : (entry.mark callback).callback = entry.callback := by
  unfold Entry.mark
  split <;> rfl

theorem map_mark :
    (callbacks.map (Entry.mark callback)).map Entry.callback = callbacks.map Entry.callback := by
  rw [map_map]
  exact map_congr_left fun entry _ => entry.mark_callback callback

theorem nodup_others {callbacks : List (Entry C P)}
    (distinct : (callbacks.map Entry.callback).Nodup) :
    ((others callback callbacks).map Entry.callback).Nodup :=
  distinct.sublist (filter_sublist.map _)

theorem not_mem_others : callback ∉ (others callback callbacks).map Entry.callback := by
  intro found
  obtain ⟨entry, kept, same⟩ := mem_map.mp found
  have different := of_decide_eq_true (mem_filter.mp kept).2
  exact different same

theorem nodup_others_append {callbacks : List (Entry C P)}
    (distinct : (callbacks.map Entry.callback).Nodup) :
    ((others entry.callback callbacks ++ [entry]).map Entry.callback).Nodup := by
  rw [map_append, map_singleton, nodup_append]
  refine ⟨nodup_others _ distinct, nodup_cons.mpr ⟨not_mem_nil, nodup_nil⟩, ?_⟩
  intro other found same isSame equal
  rw [mem_singleton] at isSame
  rw [equal, isSame] at found
  exact not_mem_others _ _ found

def Walk.forget (callback : C) (walk : Walk C P) : Walk C P :=
  { walk with publication :=
    { walk.publication with
      subscribed := walk.publication.subscribed.filter fun other => decide (other ≠ callback) } }

namespace Hub

/-- The module after its initialization. -/
def initial (C P : Type) : Hub C P := ⟨[], 0#32, [], [], nodup_nil⟩

/-- Whether the callback is registered, with events. -/
def active (callback : C) (hub : Hub C P) : Bool :=
  hub.callbacks.any fun entry => decide (entry.callback = callback ∧ entry.eventMask ≠ 0#32)

/-- `ubgps_callback_register`, and whether it succeeds. -/
def register (eventMask : EventTypes) (callback : C) (priv : P) (allocated : Bool)
    (hub : Hub C P) : Hub C P × Bool :=
  if hub.active callback then (hub, false)
  else
    let mask := union ((others callback hub.callbacks).map Entry.eventMask)
    if callback ∈ hub.callbacks.map Entry.callback ∨ allocated then
      ({ callbacks := others callback hub.callbacks ++ [⟨callback, eventMask, priv⟩]
         callbackEventMask := mask ||| eventMask
         walks := hub.walks
         finished := hub.finished
         distinct := nodup_others_append ⟨callback, eventMask, priv⟩ hub.distinct }, true)
    else ({ hub with callbackEventMask := mask ||| eventMask }, false)

/-- `ubgps_callback_unregister`, and whether it succeeds. -/
def unregister (callback : C) (hub : Hub C P) : Hub C P × Bool :=
  ({ callbacks := hub.callbacks.map (Entry.mark callback)
     callbackEventMask := union ((others callback hub.callbacks).map Entry.eventMask)
     walks := hub.walks.map (Walk.forget callback)
     finished := hub.finished
     distinct := by rw [map_mark]; exact hub.distinct },
    decide (callback ∈ hub.callbacks.map Entry.callback))

/-- `__ubgps_gc_callbacks`. It runs where no event is published. -/
def collect (hub : Hub C P) : Hub C P :=
  match hub.walks with
  | [] =>
    { hub with
      callbacks := hub.callbacks.filter fun entry => decide (entry.eventMask ≠ 0#32)
      distinct := hub.distinct.sublist (filter_sublist.map _) }
  | _ => hub

/-- A publication goes on with the entries `rest`, up to the next callback that is called or to
its end. -/
def callNext (publication : Publication C P) (rest : List (Entry C P))
    (outer : List (Walk C P)) (hub : Hub C P) : Hub C P :=
  match rest.find? (Entry.wants publication.id) with
  | none => { hub with walks := outer, finished := hub.finished ++ [publication] }
  | some entry =>
    let publication :=
      { publication with called := publication.called ++ [(entry.callback, entry.priv)] }
    { hub with walks := ⟨publication, entry.callback⟩ :: outer }

def begin (id : EventTypes) (hub : Hub C P) : Publication C P where
  id := id
  subscribed := (hub.callbacks.filter (Entry.wants id)).map Entry.callback
  called := []

/-- `ubgps_publish_event`, up to the first callback that is called. -/
def publish (id : EventTypes) (hub : Hub C P) : Hub C P :=
  if hub.callbackEventMask &&& id = 0#32 then
    { hub with finished := hub.finished ++ [hub.begin id] }
  else hub.callNext (hub.begin id) hub.callbacks hub.walks

/-- The callback that was called last returns. -/
def proceed (hub : Hub C P) : Hub C P :=
  match hub.walks with
  | [] => hub
  | walk :: outer =>
    hub.callNext walk.publication (behind Entry.callback walk.current hub.callbacks) outer

def step (hub : Hub C P) : Action C P → Hub C P
  | .register eventMask callback priv allocated =>
    (hub.register eventMask callback priv allocated).1
  | .unregister callback => (hub.unregister callback).1
  | .publish id => hub.publish id
  | .proceed => hub.proceed
  | .collect => hub.collect

end Hub

variable {hub : Hub C P} {callbacks : List (Entry C P)} {entry : Entry C P}

/-- Every publication that has ended has called each callback that was subscribed all the time
exactly once. A publication makes no more calls than there are functions, so it ends. The mask
has the events of every entry. -/
structure Hub.Delivers (hub : Hub C P) : Prop where
  once : ∀ publication ∈ hub.finished, ∀ callback ∈ publication.subscribed,
    (publication.called.map Prod.fst).count callback = 1
  ends : ∀ functions : List C, (∀ callback, callback ∈ functions) →
    ∀ publication ∈ hub.finished ++ hub.walks.map Walk.publication,
      publication.called.length ≤ functions.length
  mask : ∀ entry ∈ hub.callbacks, Covered entry.eventMask hub.callbackEventMask

/-- A callback that a publication has called is not moved to the end of the entries, except for
the one that it waits for, where no others that were subscribed all the time are behind. -/
def KeepsPlace (hub : Hub C P) (action : Action C P) : Prop :=
  match action with
  | .register _ callback _ _ =>
    hub.active callback = false →
      ∀ walk ∈ hub.walks, callback ∈ walk.publication.called.map Prod.fst →
        walk.current = callback ∧ ∀ entry ∈ behind Entry.callback callback hub.callbacks,
          entry.callback ∉ walk.publication.subscribed
  | _ => True

/-- The callbacks that were subscribed all the time still want the event. -/
def Publication.Wanted (publication : Publication C P) (callbacks : List (Entry C P)) : Prop :=
  ∀ callback ∈ publication.subscribed, ∃ entry ∈ callbacks,
    entry.callback = callback ∧ entry.wants publication.id = true

/-- Nobody is called twice. Those in `rest` were not called, and the others who are subscribed
were. -/
structure Publication.Ahead (publication : Publication C P) (rest : List (Entry C P)) :
    Prop where
  ahead : ∀ entry ∈ rest, entry.callback ∉ publication.called.map Prod.fst
  done : ∀ callback ∈ publication.subscribed, callback ∉ rest.map Entry.callback →
    callback ∈ publication.called.map Prod.fst
  nodup : (publication.called.map Prod.fst).Nodup

structure Walk.Sound (callbacks : List (Entry C P)) (walk : Walk C P) : Prop where
  here : walk.current ∈ callbacks.map Entry.callback
  called : walk.current ∈ walk.publication.called.map Prod.fst
  wanted : walk.publication.Wanted callbacks
  ahead : walk.publication.Ahead (behind Entry.callback walk.current callbacks)

structure Hub.Sound (hub : Hub C P) : Prop where
  once : ∀ publication ∈ hub.finished, ∀ callback ∈ publication.subscribed,
    callback ∈ publication.called.map Prod.fst
  nodup : ∀ publication ∈ hub.finished, (publication.called.map Prod.fst).Nodup
  mask : ∀ entry ∈ hub.callbacks, Covered entry.eventMask hub.callbackEventMask
  walks : ∀ walk ∈ hub.walks, walk.Sound hub.callbacks

theorem Hub.Sound.delivers (sound : hub.Sound) : hub.Delivers where
  once publication found callback subscribed :=
    count_eq_one_of_mem (sound.nodup publication found)
      (sound.once publication found callback subscribed)
  ends functions all publication found := by
    have nodup : (publication.called.map Prod.fst).Nodup := by
      rcases mem_append.mp found with finished | going
      · exact sound.nodup publication finished
      · obtain ⟨walk, isGoing, rfl⟩ := mem_map.mp going
        exact (sound.walks walk isGoing).ahead.nodup
    have fewer := (subperm_of_subset nodup fun callback _ => all callback).length_le
    rwa [length_map] at fewer
  mask := sound.mask

omit [DecidableEq C] in
theorem entry_unique (distinct : (callbacks.map Entry.callback).Nodup) {first second : Entry C P}
    (isFirst : first ∈ callbacks) (isSecond : second ∈ callbacks)
    (same : first.callback = second.callback) : first = second :=
  inj_on_of_nodup_map distinct isFirst isSecond same

theorem Hub.Sound.callNext (sound : hub.Sound) {publication : Publication C P}
    {rest : List (Entry C P)} {outer : List (Walk C P)} (suffix : rest <:+ hub.callbacks)
    (wanted : publication.Wanted hub.callbacks) (ahead : publication.Ahead rest)
    (around : ∀ walk ∈ outer, walk.Sound hub.callbacks) :
    (hub.callNext publication rest outer).Sound := by
  obtain ⟨front, split⟩ := suffix
  -- An entry of a subscribed callback wants the event, wherever it is.
  have wants : ∀ entry ∈ hub.callbacks, entry.callback ∈ publication.subscribed →
      entry.wants publication.id = true := by
    intro entry found subscribed
    obtain ⟨other, isOther, same, wants⟩ := wanted entry.callback subscribed
    rwa [entry_unique hub.distinct isOther found same] at wants
  have inList : ∀ entry ∈ rest, entry ∈ hub.callbacks := by
    intro entry found
    rw [← split]
    exact mem_append_right _ found
  unfold Hub.callNext
  split
  case h_1 none =>
    have uncalled : ∀ callback ∈ publication.subscribed,
        callback ∉ rest.map Entry.callback := by
      intro callback subscribed inRest
      obtain ⟨entry, found, rfl⟩ := mem_map.mp inRest
      exact List.find?_eq_none.mp none entry found (wants entry (inList entry found) subscribed)
    refine ⟨?_, ?_, sound.mask, around⟩
    · intro other found
      rcases mem_append.mp found with before | new
      · exact sound.once other before
      · rw [mem_singleton.mp new]
        exact fun callback subscribed =>
          ahead.done callback subscribed (uncalled callback subscribed)
    · intro other found
      rcases mem_append.mp found with before | new
      · exact sound.nodup other before
      · rw [mem_singleton.mp new]
        exact ahead.nodup
  case h_2 entry isNext =>
    obtain ⟨isWanted, skipped, back, parts, unwanted⟩ := List.find?_eq_some_iff_append.mp isNext
    have whole : hub.callbacks = (front ++ skipped) ++ entry :: back := by
      rw [← split, parts, append_assoc]
    have keys := hub.distinct
    rw [whole, map_append, map_cons, nodup_append, nodup_cons] at keys
    obtain ⟨-, ⟨notBehind, -⟩, apart⟩ := keys
    have notBefore : entry.callback ∉ (front ++ skipped).map Entry.callback :=
      fun before => apart _ before _ mem_cons_self rfl
    have next : behind Entry.callback entry.callback hub.callbacks = back := by
      rw [whole, behind_split notBefore]
    have called : (publication.called ++ [(entry.callback, entry.priv)]).map Prod.fst =
        publication.called.map Prod.fst ++ [entry.callback] := map_append
    refine ⟨sound.once, sound.nodup, sound.mask, ?_⟩
    intro walk found
    rcases mem_cons.mp found with new | before
    case inr => exact around walk before
    rw [new]
    refine ⟨?_, ?_, wanted, ?_⟩
    · rw [whole, map_append, map_cons]
      exact mem_append_right _ mem_cons_self
    · rw [called]
      exact mem_append_right _ mem_cons_self
    rw [next]
    refine ⟨?_, ?_, ?_⟩ <;> rw [called]
    · intro later isLater
      rw [mem_append, not_or, mem_singleton]
      refine ⟨ahead.ahead later ?_, fun same => notBehind ?_⟩
      · rw [parts]
        exact mem_append_right _ (mem_cons_of_mem _ isLater)
      · exact mem_map.mpr ⟨later, isLater, same⟩
    · intro callback subscribed notLater
      rw [mem_append, mem_singleton]
      by_cases isNow : callback = entry.callback
      · exact .inr isNow
      refine .inl (ahead.done callback subscribed fun inRest => ?_)
      obtain ⟨other, isOther, rfl⟩ := mem_map.mp inRest
      rw [parts] at isOther
      rcases mem_append.mp isOther with passed | later
      · have no := unwanted other passed
        rw [wants other (inList other (by rw [parts]; exact isOther)) subscribed] at no
        cases no
      · rcases mem_cons.mp later with same | behindIt
        · exact isNow (congrArg Entry.callback same)
        · exact notLater (mem_map.mpr ⟨other, behindIt, rfl⟩)
    · rw [nodup_append]
      refine ⟨ahead.nodup, nodup_cons.mpr ⟨not_mem_nil, nodup_nil⟩, ?_⟩
      intro callback before other isNow same
      rw [same, mem_singleton.mp isNow] at before
      refine ahead.ahead entry ?_ before
      rw [parts]
      exact mem_append_right _ mem_cons_self

variable {events : EventTypes} {walk : Walk C P}

theorem covered_union {sets : List EventTypes} (found : events ∈ sets) :
    Covered events (union sets) := by
  induction sets with
  | nil => cases found
  | cons first rest ih =>
    show events ||| (first ||| union rest) = first ||| union rest
    rcases mem_cons.mp found with same | later
    · rw [same, ← BitVec.or_assoc, BitVec.or_self]
    · have covered : events ||| union rest = union rest := ih later
      rw [← BitVec.or_assoc, BitVec.or_comm events, BitVec.or_assoc, covered]

theorem covered_or_left {other : EventTypes} (covered : Covered events other) (more : EventTypes) :
    Covered events (other ||| more) := by
  show events ||| (other ||| more) = other ||| more
  rw [← BitVec.or_assoc, covered]

theorem covered_or_right (events other : EventTypes) : Covered events (other ||| events) := by
  show events ||| (other ||| events) = other ||| events
  rw [BitVec.or_comm other, ← BitVec.or_assoc, BitVec.or_self]

omit [DecidableEq C] in
theorem not_wants_of_mask {id mask : EventTypes} (covered : Covered entry.eventMask mask)
    (none : mask &&& id = 0#32) : entry.wants id = false := by
  have both : (entry.eventMask ||| mask) &&& id = 0#32 := by
    have same : entry.eventMask ||| mask = mask := covered
    rw [same, none]
  rw [BitVec.and_comm, BitVec.and_or_distrib_left, BitVec.or_eq_zero_iff, BitVec.and_comm] at both
  exact decide_eq_false (not_not_intro both.1)

theorem mem_others {callback : C} :
    entry ∈ others callback callbacks ↔ entry ∈ callbacks ∧ entry.callback ≠ callback := by
  unfold others
  rw [mem_filter, decide_eq_true_eq]

theorem Entry.mark_of_ne {callback : C} (other : entry.callback ≠ callback) :
    entry.mark callback = entry := if_neg other

theorem Hub.Sound.publish (sound : hub.Sound) (id : EventTypes) : (hub.publish id).Sound := by
  unfold Hub.publish
  split
  case isTrue none =>
    have nobody : (hub.begin id).subscribed = [] := by
      show (hub.callbacks.filter (Entry.wants id)).map Entry.callback = []
      rw [map_eq_nil_iff, filter_eq_nil_iff]
      intro entry found
      rw [not_wants_of_mask (sound.mask entry found) none]
      exact Bool.false_ne_true
    refine ⟨?_, ?_, sound.mask, sound.walks⟩
    · intro publication found
      rcases mem_append.mp found with before | new
      · exact sound.once publication before
      · rw [mem_singleton.mp new, nobody]
        exact nofun
    · intro publication found
      rcases mem_append.mp found with before | new
      · exact sound.nodup publication before
      · rw [mem_singleton.mp new]
        exact nodup_nil
  case isFalse =>
    refine sound.callNext (suffix_refl _) ?_ ⟨?_, ?_, ?_⟩ sound.walks
    · intro callback subscribed
      obtain ⟨entry, wants, same⟩ := mem_map.mp subscribed
      exact ⟨entry, (mem_filter.mp wants).1, same, (mem_filter.mp wants).2⟩
    · exact fun _ _ => not_mem_nil
    · intro callback subscribed missing
      obtain ⟨entry, wants, same⟩ := mem_map.mp subscribed
      exact absurd (mem_map.mpr ⟨entry, (mem_filter.mp wants).1, same⟩) missing
    · exact nodup_nil

theorem Hub.Sound.proceed (sound : hub.Sound) : hub.proceed.Sound := by
  unfold Hub.proceed
  split
  case h_1 => exact sound
  case h_2 walk outer walks =>
    have going := sound.walks walk (by rw [walks]; exact mem_cons_self)
    have around : ∀ other ∈ outer, other.Sound hub.callbacks := fun other found =>
      sound.walks other (by rw [walks]; exact mem_cons_of_mem _ found)
    exact sound.callNext (behind_suffix _ _) going.wanted going.ahead around

theorem Hub.Sound.collect (sound : hub.Sound) : hub.collect.Sound := by
  unfold Hub.collect
  split
  case h_1 none =>
    refine ⟨sound.once, sound.nodup, fun entry found => ?_, ?_⟩
    · exact sound.mask entry (mem_filter.mp found).1
    · show ∀ walk ∈ hub.walks, _
      rw [none]
      exact nofun
  case h_2 => exact sound

theorem Walk.Sound.forget (sound : walk.Sound callbacks) (callback : C) :
    (walk.forget callback).Sound (callbacks.map (Entry.mark callback)) := by
  have subset : ∀ other ∈ (walk.forget callback).publication.subscribed,
      other ∈ walk.publication.subscribed ∧ other ≠ callback := by
    intro other found
    have kept := mem_filter.mp found
    exact ⟨kept.1, of_decide_eq_true kept.2⟩
  have rest : behind Entry.callback walk.current (callbacks.map (Entry.mark callback)) =
      (behind Entry.callback walk.current callbacks).map (Entry.mark callback) :=
    behind_map _ (Entry.mark_callback callback) sound.here
  refine ⟨?_, sound.called, ?_, ?_⟩
  · rw [map_mark]
    exact sound.here
  · intro other subscribed
    obtain ⟨entry, found, same, wants⟩ := sound.wanted other (subset other subscribed).1
    refine ⟨entry, mem_map.mpr ⟨entry, found, ?_⟩, same, wants⟩
    exact Entry.mark_of_ne fun equal => (subset other subscribed).2 (same.symm.trans equal)
  · show Publication.Ahead _ (behind Entry.callback walk.current _)
    rw [rest]
    refine ⟨?_, ?_, ?_⟩
    · intro marked found
      obtain ⟨later, isLater, rfl⟩ := mem_map.mp found
      rw [Entry.mark_callback]
      exact sound.ahead.ahead later isLater
    · intro other subscribed notBehind
      rw [map_mark] at notBehind
      exact sound.ahead.done other (subset other subscribed).1 notBehind
    · exact sound.ahead.nodup

theorem Hub.Sound.unregister (sound : hub.Sound) (callback : C) :
    (hub.unregister callback).1.Sound := by
  refine ⟨sound.once, sound.nodup, ?_, ?_⟩
  · intro marked found
    obtain ⟨entry, isEntry, rfl⟩ := mem_map.mp found
    by_cases own : entry.callback = callback
    · have zero : (entry.mark callback).eventMask = 0#32 := congrArg Entry.eventMask (if_pos own)
      show (entry.mark callback).eventMask ||| _ = _
      rw [zero, BitVec.zero_or]
    · rw [Entry.mark_of_ne own]
      exact covered_union (mem_map.mpr ⟨entry, mem_others.mpr ⟨isEntry, own⟩, rfl⟩)
  · intro walk found
    obtain ⟨before, isWalk, rfl⟩ := mem_map.mp found
    exact (sound.walks before isWalk).forget callback

theorem Walk.Sound.register (sound : walk.Sound callbacks) (entry : Entry C P)
    (inactive : ∀ before ∈ callbacks, before.callback = entry.callback → before.eventMask = 0#32)
    (keeps : entry.callback ∈ walk.publication.called.map Prod.fst →
      walk.current = entry.callback ∧ ∀ later ∈ behind Entry.callback entry.callback callbacks,
      later.callback ∉ walk.publication.subscribed) :
    walk.Sound (others entry.callback callbacks ++ [entry]) := by
  have subscribed : ∀ callback ∈ walk.publication.subscribed, callback ≠ entry.callback := by
    intro callback found same
    obtain ⟨before, isBefore, isSame, wants⟩ := sound.wanted callback found
    have mask := inactive before isBefore (isSame.trans same)
    unfold Entry.wants at wants
    rw [mask, BitVec.zero_and] at wants
    exact of_decide_eq_true wants rfl
  refine ⟨?_, sound.called, ?_, ?_⟩
  · rw [map_append, mem_append]
    by_cases moved : walk.current = entry.callback
    · exact .inr (mem_singleton.mpr moved)
    · obtain ⟨here, found, same⟩ := mem_map.mp sound.here
      have kept : here ∈ others entry.callback callbacks :=
        mem_others.mpr ⟨found, fun equal => moved (same.symm.trans equal)⟩
      exact .inl (mem_map.mpr ⟨here, kept, same⟩)
  · intro callback found
    obtain ⟨before, isBefore, same, wants⟩ := sound.wanted callback found
    refine ⟨before, mem_append_left _ (mem_others.mpr ⟨isBefore, ?_⟩), same, wants⟩
    exact fun equal => subscribed callback found (same.symm.trans equal)
  by_cases moved : walk.current = entry.callback
  · have nobody := (keeps (moved ▸ sound.called)).2
    rw [moved, behind_last (not_mem_others _ _)]
    refine ⟨nofun, ?_, sound.ahead.nodup⟩
    intro callback found _
    refine sound.ahead.done callback found fun isBehind => ?_
    rw [moved] at isBehind
    obtain ⟨later, isLater, rfl⟩ := mem_map.mp isBehind
    exact nobody later isLater found
  · have different : ∀ before : Entry C P, before.callback = walk.current →
        decide (before.callback ≠ entry.callback) = true :=
      fun before isHere => decide_eq_true fun equal => moved (isHere.symm.trans equal)
    have here : walk.current ∈ (others entry.callback callbacks).map Entry.callback := by
      obtain ⟨here, found, same⟩ := mem_map.mp sound.here
      exact mem_map.mpr ⟨here, mem_filter.mpr ⟨found, different here same⟩, same⟩
    have rest : behind Entry.callback walk.current (others entry.callback callbacks ++ [entry]) =
        others entry.callback (behind Entry.callback walk.current callbacks) ++ [entry] := by
      rw [behind_append here]
      exact congrArg (· ++ [entry]) (behind_filter _ sound.here different)
    rw [rest]
    refine ⟨?_, ?_, sound.ahead.nodup⟩
    · intro later found
      rcases mem_append.mp found with before | new
      · exact sound.ahead.ahead later (mem_others.mp before).1
      · rw [mem_singleton.mp new]
        exact fun called => moved (keeps called).1
    · intro callback found notLater
      refine sound.ahead.done callback found fun later => notLater ?_
      obtain ⟨before, isBefore, same⟩ := mem_map.mp later
      refine mem_map.mpr ⟨before, mem_append_left _ (mem_others.mpr ⟨isBefore, ?_⟩), same⟩
      exact fun equal => subscribed callback found (same.symm.trans equal)

theorem Hub.Sound.register (sound : hub.Sound) (eventMask : EventTypes) (callback : C) (priv : P)
    (allocated : Bool) (keeps : KeepsPlace hub (.register eventMask callback priv allocated)) :
    (hub.register eventMask callback priv allocated).1.Sound := by
  have othersCovered : ∀ entry ∈ others callback hub.callbacks, Covered entry.eventMask
      (union ((others callback hub.callbacks).map Entry.eventMask) ||| eventMask) := by
    intro entry found
    exact covered_or_left (covered_union (mem_map.mpr ⟨entry, found, rfl⟩)) eventMask
  unfold Hub.register
  split
  case isTrue => exact sound
  case isFalse notActive =>
    have inactive : ∀ entry ∈ hub.callbacks, entry.callback = callback →
        entry.eventMask = 0#32 := by
      intro entry found same
      by_contra active
      exact notActive (any_eq_true.mpr ⟨entry, found, decide_eq_true ⟨same, active⟩⟩)
    split
    case isTrue =>
      refine ⟨sound.once, sound.nodup, ?_, ?_⟩
      · intro entry found
        rcases mem_append.mp found with before | new
        · exact othersCovered entry before
        · rw [mem_singleton.mp new]
          exact covered_or_right _ _
      · intro walk found
        exact (sound.walks walk found).register ⟨callback, eventMask, priv⟩ inactive
          (keeps (Bool.eq_false_iff.mpr notActive) walk found)
    case isFalse unregistered =>
      refine ⟨sound.once, sound.nodup, fun entry found => ?_, sound.walks⟩
      refine othersCovered entry (mem_others.mpr ⟨found, fun same => unregistered (.inl ?_)⟩)
      exact mem_map.mpr ⟨entry, found, same⟩

theorem Hub.Sound.step (sound : hub.Sound) (action : Action C P) (keeps : KeepsPlace hub action) :
    (hub.step action).Sound := by
  cases action with
  | register eventMask callback priv allocated =>
    exact sound.register eventMask callback priv allocated keeps
  | unregister callback => exact sound.unregister callback
  | publish id => exact sound.publish id
  | proceed => exact sound.proceed
  | collect => exact sound.collect

theorem Hub.initial_sound : (Hub.initial C P).Sound := ⟨nofun, nofun, nofun, nofun⟩

/-- In every run where no callback is moved back that a publication has called, but for one with
nobody behind it who waits, every publication ends and calls each callback that is subscribed
once. -/
theorem callbacks_are_called_once (actions : List (Action C P))
    (keeps : Guarded Hub.step KeepsPlace (Hub.initial C P) actions) :
    ∀ reached, reached <+: actions → (reached.foldl Hub.step (Hub.initial C P)).Delivers := by
  rintro reached ⟨rest, rfl⟩
  have sound := foldl_invariant Hub.Sound (fun hub action sound keeps => sound.step action keeps)
    Hub.initial_sound keeps.append.1
  exact sound.delivers

/-- Two callbacks are registered, and the first one registers itself again with `eventMask` when
it is called. -/
def registeredAgain (eventMask : EventTypes) : List (Action Bool Unit) :=
  [.register 1#32 true () true, .register eventMask false () true, .publish 1#32,
    .unregister true, .register 1#32 true () true, .proceed]

/-- The second callback does not want the event. -/
theorem callbacks_are_called_once_again :
    Guarded Hub.step KeepsPlace (Hub.initial Bool Unit) (registeredAgain 2#32) ∧
      ∀ reached, reached <+: registeredAgain 2#32 →
        (reached.foldl Hub.step (Hub.initial Bool Unit)).Delivers := by
  have keeps : Guarded Hub.step KeepsPlace (Hub.initial Bool Unit) (registeredAgain 2#32) := by
    refine ⟨?_, ?_, trivial, trivial, ?_, trivial, trivial⟩
    · exact fun _ => nofun
    · exact fun _ => nofun
    · intro _
      decide
  exact ⟨keeps, callbacks_are_called_once (registeredAgain 2#32) keeps⟩

/-- The second callback wants the event, and is skipped. -/
theorem second_callback_is_skipped :
    ¬ ∀ reached, reached <+: registeredAgain 1#32 →
      (reached.foldl Hub.step (Hub.initial Bool Unit)).Delivers := by
  intro all
  have once := (all _ (prefix_refl _)).once ⟨1#32, [false], [(true, ())]⟩ (by decide) false
    (by decide)
  exact absurd once (by decide)

end Thingsee.Gps.Callbacks
