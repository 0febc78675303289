import Thingsee.Usrsock.Calls

/-!
Owns what an event does to the callbacks of a connection: which threads
`USRSOCK_EVENT_REQ_COMPLETE` wakes up, and that no event function touches the
response a connection waits for.
-/

namespace Thingsee.Usrsock

variable {n m : Nat}
  (kind : Kind) (conn : Conn m) (threads : Fin m → Option (Frame n)) (state : Reqstate)
  (events : Events) (list : List (Callback m))

theorem Kind.event_resp : (kind.event conn state events).conn.resp = conn.resp := by
  unfold Kind.event
  split
  · cases kind <;> rfl
  · split
    · cases kind <;> simp only [Kind.completeConn] <;> split <;> rfl
    · split_ifs <;> rfl

theorem execute_resp : (execute conn threads events list).conn.resp = conn.resp := by
  induction list generalizing conn threads events with
  | nil => rfl
  | cons callback rest ih =>
    rw [execute]
    split
    · split
      · dsimp only
        split
        · rw [ih, Kind.event_resp]
        · exact ih conn threads events
      · exact ih conn threads events
    · exact ih conn threads events

theorem Conn.update_resp : (conn.update events).resp = conn.resp := by
  unfold Conn.update
  dsimp only
  split_ifs <;> rfl

def posts (threads : Fin m → Option (Frame n)) (t : Fin m) : Nat :=
  match threads t with
  | some frame => frame.state.recvsem
  | none => 0

theorem Kind.event_recvsem : (kind.event conn state events).state.recvsem = state.recvsem := by
  unfold Kind.event
  split
  · cases kind <;> rfl
  · split
    · cases kind <;> simp only [Kind.completeState] <;> split_ifs <;> rfl
    · split_ifs <;> rfl

theorem execute_posts_le (t : Fin m) :
    posts threads t ≤ posts (execute conn threads events list).threads t := by
  induction list generalizing conn threads events with
  | nil => exact Nat.le_refl _
  | cons callback rest ih =>
    rw [execute]
    split
    · next frame found =>
      split
      · dsimp only
        split
        · refine Nat.le_trans ?_ (ih _ _ _)
          by_cases same : t = callback.thread
          · subst same
            simp [posts, found, Reqstate.post, Kind.event_recvsem]
          · simp [posts, Function.update_of_ne same]
        · exact ih conn threads events
      · exact ih conn threads events
    · exact ih conn threads events

theorem execute_complete {threads : Fin m → Option (Frame n)} {events : Events}
    (noAbort : events.abort = false) (complete : events.reqComplete = true)
    {list : List (Callback m)} {callback : Callback m} (member : callback ∈ list)
    (active : callback.active = true) (waits : callback.flags.reqComplete = true)
    (inCall : (threads callback.thread).isSome = true) :
    posts threads callback.thread <
      posts (execute conn threads events list).threads callback.thread := by
  have reacts (other : Callback m) (current : Conn m) (state : Reqstate) :
      (other.kind.event current state events).posted = true ∧
        (other.kind.event current state events).events = events := by
    simp [Kind.event, noAbort, complete]
  induction list generalizing conn threads with
  | nil => simp at member
  | cons head rest ih =>
    rw [execute]
    rcases List.mem_cons.mp member with rfl | later
    · obtain ⟨frame, found⟩ := Option.isSome_iff_exists.mp inCall
      have meets : callback.active = true ∧ events.meets callback.flags = true := by
        simp [active, Events.meets, complete, waits]
      simp only [found, if_pos meets, (reacts _ _ _).1, ↓reduceIte]
      refine Nat.lt_of_lt_of_le ?_ (execute_posts_le _ _ _ _ _)
      simp [posts, found, Reqstate.post, Kind.event_recvsem]
    · split
      · next frame found =>
        split
        · simp only [(reacts _ _ _).1, (reacts _ _ _).2, ↓reduceIte]
          by_cases same : callback.thread = head.thread
          · refine Nat.lt_of_lt_of_le ?_ (execute_posts_le _ _ _ _ _)
            simp [posts, same, found, Reqstate.post, Kind.event_recvsem]
          · have stillInCall : (Function.update threads head.thread
                (some { frame with
                  state := (head.kind.event conn frame.state events).state.post })
                callback.thread).isSome = true := by
              rw [Function.update_of_ne same]
              exact inCall
            have woken := ih (head.kind.event conn frame.state events).conn
              later stillInCall
            simpa [posts, Function.update_of_ne same] using woken
        · exact ih conn later inCall
      · exact ih conn later inCall

namespace System

variable (sys : System n m) (i : Fin n)

/-- `USRSOCK_EVENT_REQ_COMPLETE` has been delivered to the callbacks of the
connection `i`: the event is recorded once, and every thread with a callback for
it is woken up. -/
structure Delivered (before after : System n m) (i : Fin n) : Prop where
  recorded : after.delivered = before.delivered ++ [i]
  woken : ∀ callback ∈ (before.conns i).list, callback.active = true →
    callback.flags.reqComplete = true → (before.threads callback.thread).isSome = true →
    posts before.threads callback.thread < posts after.threads callback.thread

theorem usrsockEvent_resp (events : Events) (j : Fin n) :
    ((sys.usrsockEvent i events).conns j).resp = (sys.conns j).resp := by
  unfold usrsockEvent
  split
  · rfl
  · by_cases same : j = i
    · subst same
      simp only [setConn, Function.update_self, execute_resp, Conn.update_resp]
    · simp only [setConn, Function.update_of_ne same]

theorem completeRequest_dev : (sys.completeRequest i).dev = sys.dev :=
  (sys.usrsockEvent_frame i _).1

theorem completeRequest_erased (t : Fin m) :
    ((sys.completeRequest i).threads t).map Frame.erased = (sys.threads t).map Frame.erased :=
  (sys.usrsockEvent_frame i _).2.2.2.2.2.2 t

theorem abortConn_erased (t : Fin m) :
    ((sys.abortConn i).threads t).map Frame.erased = (sys.threads t).map Frame.erased :=
  (usrsockEvent_frame _ i _).2.2.2.2.2.2 t

theorem abortConn_dev : (sys.abortConn i).dev = sys.dev :=
  (usrsockEvent_frame _ i _).1

theorem completeRequest_delivered : Delivered sys (sys.completeRequest i) i := by
  have nonempty : ({ reqComplete := true } : Events) ≠ {} := by decide
  refine ⟨?_, ?_⟩
  · simp [completeRequest, usrsockEvent, nonempty]
  · intro callback member active waits inCall
    simp only [completeRequest, usrsockEvent, nonempty, ↓reduceIte]
    apply execute_complete _ _ _ member active waits inCall
    all_goals
      simp only [Conn.eventsFor]
      split <;> rfl

theorem Delivered.of_same {before prepared after : System n m} {i : Fin n}
    (delivered : Delivered prepared after i) (record : prepared.delivered = before.delivered)
    (list : (prepared.conns i).list = (before.conns i).list)
    (threads : prepared.threads = before.threads) : Delivered before after i := by
  refine ⟨by rw [delivered.recorded, record], ?_⟩
  rw [← list, ← threads]
  exact delivered.woken

end System

end Thingsee.Usrsock
