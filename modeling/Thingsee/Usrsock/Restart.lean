import Thingsee.Support.Runs
import Thingsee.Usrsock.Writes

/-!
Owns the request line over whole runs: which runs leave a closed device as
`usrsockdev_register` made it.

One thread at a time holds the line. While it waits for its acknowledgment,
either its request is on the line or the acknowledgment has been posted. Closing
the device posts once more for every turn of its loop, whether a thread waits
for it or not, and it leaves `datain_conn` alone. `keepsLine` excludes just these
steps.
-/

namespace Thingsee.Usrsock

open Support

variable {n m : Nat}

namespace System

variable {before : System n m} {t : Fin m} {after : System n m}

/-- Whether a thread waits for the acknowledgment of its request. -/
def awaitsAck (sys : System n m) (t : Fin m) : Bool :=
  match sys.threads t with
  | some frame => frame.stage == .waitAck
  | none => false

/-- Whether a thread is inside of `usrsockdev_do_request`. -/
def inRequest (sys : System n m) (t : Fin m) : Bool :=
  match sys.threads t with
  | some frame => frame.stage.inRequest
  | none => false

theorem awaitsAck_of_erased
    (same : (after.threads t).map Frame.erased = (before.threads t).map Frame.erased) :
    after.awaitsAck t = before.awaitsAck t := by
  unfold awaitsAck
  cases now : after.threads t with
  | none =>
    rw [now] at same
    rw [Option.map_eq_none_iff.mp same.symm]
  | some frame =>
    rw [now] at same
    obtain ⟨was, found, erased⟩ := Option.map_eq_some_iff.mp same.symm
    rw [found]
    have stage := congrArg Frame.stage erased
    simp only [Frame.erased] at stage
    simp only [stage]

/-- A change by thread `t` away from the request line. -/
structure OffLine (t : Fin m) (before after : System n m) : Prop where
  sem : after.dev.sem = before.dev.sem
  acksem : after.dev.acksem = before.dev.acksem
  iov : after.dev.iov = before.dev.iov
  ocount : after.dev.ocount = before.dev.ocount
  closing : after.dev.closing = before.dev.closing
  datainConn : after.dev.datainConn = before.dev.datainConn
  others : ∀ u, u ≠ t → after.threads u = before.threads u
  notWaiting : before.awaitsAck t = false → after.awaitsAck t = false

theorem OffLine.refl (t : Fin m) (sys : System n m) : OffLine t sys sys :=
  ⟨rfl, rfl, rfl, rfl, rfl, rfl, fun _ _ => rfl, id⟩

theorem OffLine.trans {first second third : System n m} (one : OffLine t first second)
    (two : OffLine t second third) : OffLine t first third :=
  ⟨two.sem.trans one.sem, two.acksem.trans one.acksem, two.iov.trans one.iov,
    two.ocount.trans one.ocount, two.closing.trans one.closing,
    two.datainConn.trans one.datainConn,
    fun u other => (two.others u other).trans (one.others u other),
    fun idle => two.notWaiting (one.notWaiting idle)⟩

theorem offLine_of_same (dev : after.dev = before.dev) (threads : after.threads = before.threads) :
    OffLine t before after :=
  ⟨by rw [dev], by rw [dev], by rw [dev], by rw [dev], by rw [dev], by rw [dev],
    fun _ _ => by rw [threads], by simp only [awaitsAck, threads, imp_self]⟩

theorem offLine_setThread (t : Fin m) (sys : System n m) (thread : Option (Frame n))
    (outside : ∀ frame, thread = some frame → frame.stage ≠ .waitAck) :
    OffLine t sys (sys.setThread t thread) := by
  refine ⟨rfl, rfl, rfl, rfl, rfl, rfl, fun u other => Function.update_of_ne other _ _,
    fun _ => ?_⟩
  cases thread with
  | none => simp [awaitsAck, setThread]
  | some frame =>
    have notAck := outside frame rfl
    simpa [awaitsAck, setThread] using notAck

theorem move_offLine (move : Move t before after) : OffLine t before after := by
  cases move with
  | conn i conn resp list => exact offLine_of_same rfl rfl
  | datain i iov => exact offLine_of_same rfl rfl
  | setup i kind flags _ isSetup =>
    unfold setupRequestCallback at isSetup
    split at isSetup
    · simp at isSetup
    · rw [← Option.some.inj isSetup]
      exact offLine_of_same rfl rfl
  | teardown i => exact offLine_of_same rfl rfl
  | thread thread outside =>
    apply offLine_setThread
    intro frame isFrame waits
    have := outside frame isFrame
    simp [waits, Stage.inRequest] at this
  | returned result => exact offLine_of_same rfl rfl
  | alloc i _ isAlloc =>
    unfold usrsockAlloc at isAlloc
    split at isAlloc
    · simp at isAlloc
    · obtain ⟨-, rfl⟩ := Prod.mk.inj (Option.some.inj isAlloc)
      exact offLine_of_same rfl rfl
  | free i => exact offLine_of_same rfl rfl
  | begins frame _ begun =>
    unfold beginRequest at begun
    split at begun
    · simp at begun
    · rw [← Option.some.inj begun]
      refine ⟨rfl, rfl, rfl, rfl, rfl, rfl, fun u other => Function.update_of_ne other _ _,
        fun _ => ?_⟩
      simp [awaitsAck, setThread, setDev]

theorem moves_offLine (moves : Moves t before after) : OffLine t before after := by
  induction moves with
  | refl => exact .refl t before
  | tail _ last ih => exact ih.trans (move_offLine last)

def onLine (dev : Device n) : Nat := if dev.iov.isSome then 1 else 0

structure LineKept (sys : System n m) : Prop where
  single : ∀ t u, sys.awaitsAck t = true → sys.awaitsAck u = true → t = u
  held : ∀ t, sys.awaitsAck t = true → sys.dev.sem = 0 ∧ sys.dev.acksem + onLine sys.dev ≤ 1
  free : (∀ t, sys.awaitsAck t = false) →
    sys.dev.sem = 1 ∧ sys.dev.acksem = 0 ∧ sys.dev.iov = none
  session : sys.dev.ocount = 0 ∨ sys.dev.closing ≠ .no → sys.dev.datainConn = none

/-- The steps that leave the line in order: closing does not begin in the middle
of a data response, and it wakes up a pending request only if there is one that
waits for its acknowledgment and none has been posted. -/
def keepsLine (sys : System n m) : Action n m → Bool
  | .closeDev => !sys.inUse || sys.dev.datainConn.isNone
  | .closeSection =>
    sys.dev.closing != .draining || sys.dev.nbusy == 0 ||
      (sys.dev.acksem == 0 && (List.finRange m).any (fun t => sys.awaitsAck t))
  | _ => true

theorem LineKept.of_waiting (kept : before.LineKept)
    (waits : ∀ t, after.awaitsAck t = before.awaitsAck t) (sem : after.dev.sem = before.dev.sem)
    (balance : (after.dev.acksem = before.dev.acksem ∧ after.dev.iov = before.dev.iov) ∨
      (before.dev.iov.isSome = true ∧ after.dev.iov = none ∧
        after.dev.acksem = before.dev.acksem + 1))
    (session : after.dev.ocount = 0 ∨ after.dev.closing ≠ .no → after.dev.datainConn = none) :
    after.LineKept := by
  refine ⟨?_, ?_, ?_, session⟩
  · intro t u first second
    rw [waits] at first second
    exact kept.single t u first second
  · intro t waiting
    rw [waits] at waiting
    obtain ⟨taken, bound⟩ := kept.held t waiting
    refine ⟨sem.trans taken, ?_⟩
    rcases balance with ⟨acksem, iov⟩ | ⟨was, iov, acksem⟩
    · simp only [onLine, iov, acksem] at bound ⊢
      exact bound
    · simp only [onLine, iov, was, acksem, ↓reduceIte, Option.isSome_none,
        Bool.false_eq_true] at bound ⊢
      omega
  · intro idle
    have wasIdle : ∀ t, before.awaitsAck t = false := fun t => (waits t).symm.trans (idle t)
    obtain ⟨free, acksem, iov⟩ := kept.free wasIdle
    rcases balance with ⟨sameAcksem, sameIov⟩ | ⟨was, -⟩
    · exact ⟨sem.trans free, sameAcksem.trans acksem, sameIov.trans iov⟩
    · simp [iov] at was

theorem moves_lineKept (kept : before.LineKept) (outside : before.awaitsAck t = false)
    (moves : Moves t before after) : after.LineKept := by
  have offLine := moves_offLine moves
  have waits : ∀ u, after.awaitsAck u = before.awaitsAck u := by
    intro u
    by_cases same : u = t
    · subst same
      rw [outside, offLine.notWaiting outside]
    · simp only [awaitsAck, offLine.others u same]
  refine kept.of_waiting waits offLine.sem (Or.inl ⟨offLine.acksem, offLine.iov⟩) ?_
  rw [offLine.ocount, offLine.closing, offLine.datainConn]
  exact kept.session

theorem closeSection_lineKept {sys : System n m} (kept : sys.LineKept)
    (guard : sys.keepsLine .closeSection = true) : sys.closeSection.LineKept := by
  unfold closeSection
  split
  · exact kept
  · next last closing =>
    have noData : sys.dev.datainConn = none := kept.session (Or.inr (by simp [closing]))
    split
    · next i _ =>
      refine kept.of_waiting ?_ rfl (Or.inl ⟨rfl, rfl⟩) (fun _ => noData)
      intro t
      apply awaitsAck_of_erased
      exact sys.abortConn_erased i t
    · exact kept.of_waiting (fun _ => rfl) rfl (Or.inl ⟨rfl, rfl⟩) (fun _ => noData)
  · next closing =>
    have noData : sys.dev.datainConn = none := kept.session (Or.inr (by simp [closing]))
    split
    · -- Without a busy thread nothing is on the line, whatever the count says.
      refine ⟨kept.single, ?_, ?_, fun _ => noData⟩
      · intro t waiting
        obtain ⟨taken, bound⟩ := kept.held t waiting
        refine ⟨taken, ?_⟩
        simp only [onLine, setDev, Option.isSome_none, Bool.false_eq_true, ↓reduceIte]
        omega
      · intro idle
        obtain ⟨free, acksem, -⟩ := kept.free idle
        exact ⟨free, acksem, rfl⟩
    · next busy =>
      have posted : sys.dev.acksem = 0 ∧ ∃ t, sys.awaitsAck t = true := by
        simpa [keepsLine, closing, busy] using guard
      obtain ⟨none, t, waiting⟩ := posted
      refine ⟨kept.single, ?_, ?_, fun _ => noData⟩
      · intro u waitingToo
        refine ⟨(kept.held u waitingToo).1, ?_⟩
        simp [onLine, setDev, none]
      · intro idle
        have : sys.awaitsAck t = false := idle t
        simp [waiting] at this

theorem awaitsAck_setThread (sys : System n m) (t u : Fin m) (frame : Frame n) :
    (sys.setThread t (some frame)).awaitsAck u =
      if u = t then frame.stage == .waitAck else sys.awaitsAck u := by
  by_cases same : u = t
  · subst same
    simp [awaitsAck, setThread]
  · simp [awaitsAck, setThread, same]

theorem puts_lineKept {sys : System n m} (kept : sys.LineKept) {frame : Frame n}
    (line : 0 < sys.dev.sem) :
    ((sys.setDev (sys.dev.putRequest frame)).setThread t
      (some { frame with stage := .waitAck })).LineKept := by
  have idle : ∀ u, sys.awaitsAck u = false := by
    intro u
    by_contra waiting
    have := (kept.held u (by simpa using waiting)).1
    omega
  obtain ⟨free, acksem, -⟩ := kept.free idle
  have waits (u : Fin m) : ((sys.setDev (sys.dev.putRequest frame)).setThread t
      (some { frame with stage := .waitAck })).awaitsAck u = decide (u = t) := by
    rw [awaitsAck_setThread]
    by_cases same : u = t
    · simp [same]
    · have := idle u
      simp only [same, ↓reduceIte, decide_false]
      exact this
  refine ⟨?_, ?_, ?_, ?_⟩
  · intro u v first second
    rw [waits] at first second
    exact (of_decide_eq_true first).trans (of_decide_eq_true second).symm
  · intro u _
    refine ⟨?_, ?_⟩
    · simp [setThread, setDev, Device.putRequest, free]
    · simp [onLine, setThread, setDev, Device.putRequest, acksem]
  · intro allIdle
    have := allIdle t
    rw [waits] at this
    simp at this
  · intro ended
    exact kept.session ended

theorem acknowledged_lineKept {sys : System n m} (kept : sys.LineKept) {frame : Frame n}
    (waiting : sys.awaitsAck t = true) (posted : 0 < sys.dev.acksem) :
    ((sys.setDev sys.dev.takeAck).requestMade t frame).LineKept := by
  obtain ⟨taken, bound⟩ := kept.held t waiting
  have offLine : OffLine t (sys.setDev sys.dev.takeAck)
      ((sys.setDev sys.dev.takeAck).requestMade t frame) :=
    moves_offLine (requestMade_moves _ t frame)
  have gone : ((sys.setDev sys.dev.takeAck).requestMade t frame).awaitsAck t = false := by
    unfold requestMade
    split
    · simp [awaitsAck, leave, setThread]
    · simp [awaitsAck, setThread]
  have idle : ∀ u, ((sys.setDev sys.dev.takeAck).requestMade t frame).awaitsAck u = false := by
    intro u
    by_cases same : u = t
    · rw [same]
      exact gone
    · have others : ((sys.setDev sys.dev.takeAck).requestMade t frame).awaitsAck u =
          sys.awaitsAck u := by
        simp only [awaitsAck, offLine.others u same]
        rfl
      rw [others]
      by_contra waitingToo
      exact same (kept.single u t (by simpa using waitingToo) waiting)
  have sem : _ = sys.dev.sem + 1 := offLine.sem
  have acksem : _ = sys.dev.acksem - 1 := offLine.acksem
  have iov : _ = sys.dev.iov := offLine.iov
  refine ⟨?_, ?_, ?_, ?_⟩
  · intro u v first
    simp [idle u] at first
  · intro u first
    simp [idle u] at first
  · intro _
    have offline : sys.dev.iov = none := by
      unfold onLine at bound
      cases isSome : sys.dev.iov with
      | none => rfl
      | some request =>
        simp only [isSome, Option.isSome_some, ↓reduceIte] at bound
        omega
    rw [sem, acksem, iov]
    exact ⟨by omega, by omega, offline⟩
  · rw [offLine.ocount, offLine.closing, offLine.datainConn]
    exact kept.session

theorem awaitsAck_false_of {sys : System n m}
    (outside : ∀ frame, sys.threads t = some frame → frame.stage ≠ .waitAck) :
    sys.awaitsAck t = false := by
  unfold awaitsAck
  split
  · next frame isFrame => simpa using outside frame isFrame
  · rfl

theorem step_lineKept (sys : System n m) (action : Action n m) (kept : sys.LineKept)
    (guard : sys.keepsLine action = true) : (sys.step action).LineKept := by
  have outcome := sys.step_outcome action
  generalize sys.step action = after at outcome
  cases outcome with
  | nothing => exact kept
  | moves t _ outside moves =>
    refine moves_lineKept kept (awaitsAck_false_of ?_) moves
    intro frame isFrame waits
    have := outside frame isFrame
    simp [waits, Stage.inRequest] at this
  | puts t frame isFrame waits line isOpen => exact puts_lineKept kept line
  | skips t frame isFrame waits line isClosed =>
    have returned : (sys.setDev sys.dev.skipRequest).LineKept := by
      refine kept.of_waiting (fun _ => rfl) ?_ (Or.inl ⟨rfl, rfl⟩) kept.session
      simp only [setDev, Device.skipRequest, Device.endRequest]
      omega
    refine moves_lineKept returned (awaitsAck_false_of ?_) (requestMade_moves _ t frame)
    intro other isOther
    have same : sys.threads t = some other := isOther
    rw [isFrame] at same
    rw [← Option.some.inj same, waits]
    decide
  | acknowledged t frame isFrame waits posted =>
    refine acknowledged_lineKept kept ?_ posted
    simp [awaitsAck, isFrame, waits]
  | opens notClosing =>
    unfold usrsockdevOpen
    split
    · exact kept
    · refine kept.of_waiting (fun _ => rfl) rfl (Or.inl ⟨rfl, rfl⟩) ?_
      intro ended
      simp [setDev, notClosing] at ended
  | reads len =>
    unfold usrsockdevRead
    split
    · exact kept
    · split
      · exact kept
      · exact kept.of_waiting (fun _ => rfl) rfl (Or.inl ⟨rfl, rfl⟩) kept.session
  | writes buffer isWrite inUse =>
    have written := sys.usrsockdevWrite_written buffer
    have isOpen : ¬ (sys.dev.ocount = 0 ∨ sys.dev.closing ≠ .no) := by
      simpa [System.inUse, not_or] using inUse
    have waits := fun t => awaitsAck_of_erased (written.threads t)
    obtain ⟨datain, same | ⟨onLine, acked⟩⟩ := written.dev
    · refine kept.of_waiting waits (by rw [same]) (Or.inl (by rw [same]; exact ⟨rfl, rfl⟩)) ?_
      rw [same]
      exact fun ended => absurd ended isOpen
    · refine kept.of_waiting waits (by rw [acked])
        (Or.inr ⟨onLine, by rw [acked], by rw [acked]⟩) ?_
      rw [acked]
      exact fun ended => absurd ended isOpen
  | closes isClose inUse =>
    have noData : sys.dev.datainConn = none := by simpa [isClose, keepsLine, inUse] using guard
    exact kept.of_waiting (fun _ => rfl) rfl (Or.inl ⟨rfl, rfl⟩) (fun _ => noData)
  | closing isSection => exact closeSection_lineKept kept (isSection ▸ guard)

theorem initial_lineKept (n m callbacks : Nat) : (initial n m callbacks).LineKept where
  single := by simp [awaitsAck, initial]
  held := by simp [awaitsAck, initial]
  free := fun _ => ⟨rfl, rfl, rfl⟩
  session := fun _ => rfl

/-- In every run whose steps all leave the line in order, and in every state in
which the device is closed and no thread is inside of `usrsockdev_do_request`:
nothing is on the request line, no connection waits for data, and the semaphores
are as after `usrsockdev_register`. -/
theorem restart_starts_clean (callbacks : Nat) (actions : List (Action n m))
    (kept : Guarded step (fun sys action => sys.keepsLine action = true) (initial n m callbacks)
      actions) :
    let sys := (initial n m callbacks).run actions
    sys.dev.ocount = 0 → sys.dev.closing = .no → (∀ t, sys.inRequest t = false) →
      sys.dev.iov = none ∧ sys.dev.datainConn = none ∧ sys.dev.acksem = 0 ∧ sys.dev.sem = 1 := by
  intro sys isClosed _ outside
  have reached : sys.LineKept :=
    foldl_invariant LineKept step_lineKept (initial_lineKept n m callbacks) kept
  have idle : ∀ t, sys.awaitsAck t = false := by
    intro t
    have notInside := outside t
    apply awaitsAck_false_of
    intro frame isFrame waits
    simp [inRequest, isFrame, waits, Stage.inRequest] at notInside
  obtain ⟨sem, acksem, iov⟩ := reached.free idle
  exact ⟨iov, reached.session (Or.inl isClosed), acksem, sem⟩

attribute [local instance] neZero_one

/-- A thread opens a socket and waits for the acknowledgment when the daemon
closes the device, which wakes it up `turns` times before it runs. -/
def closedWhileWaiting (turns : Nat) : List (Action 1 1) :=
  [.openDev, .startSocket 0 2 1 0, .proceed 0, .proceed 0, .closeDev, .closeSection,
    .closeSection] ++
    List.replicate turns .closeSection ++ [.proceed 0, .closeSection]

theorem restart_starts_clean_one_turn :
    Guarded step (fun sys action => sys.keepsLine action = true) (initial 1 1 1)
        (closedWhileWaiting 1) ∧
      ((initial 1 1 1).run (closedWhileWaiting 1)).dev.acksem = 0 :=
  ⟨by decide, (restart_starts_clean 1 (closedWhileWaiting 1) (by decide) (by decide) (by decide)
    (by decide)).2.2.1⟩

/-- Two turns of the loop before the thread runs: the second acknowledgment is
left for the next session. -/
theorem restart_keeps_acknowledgment :
    let sys := (initial 1 1 1).run (closedWhileWaiting 2)
    sys.dev.ocount = 0 ∧ sys.dev.closing = .no ∧ (∀ t, sys.inRequest t = false) ∧
      ¬ (sys.dev.iov = none ∧ sys.dev.datainConn = none ∧ sys.dev.acksem = 0 ∧
        sys.dev.sem = 1) := by
  decide

end System

end Thingsee.Usrsock
