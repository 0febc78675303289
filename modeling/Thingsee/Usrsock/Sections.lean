import Mathlib.Logic.Relation
import Thingsee.Usrsock.Delivered

/-!
Owns what one step of the system can do. A section of a socket call is a sequence
of `Move`s of its thread; only the sections inside of `usrsockdev_do_request` and
the daemon touch the request line. `step_outcome` says which of these a step is,
so that an invariant of all runs is a case analysis over `Outcome` and an
induction over moves.
-/

namespace Thingsee.Usrsock

variable {n m : Nat}

inductive Move (t : Fin m) : System n m → System n m → Prop where
  | conn (sys : System n m) (i : Fin n) (conn : Conn m)
      (resp : conn.resp = (sys.conns i).resp) (list : conn.list = (sys.conns i).list) :
      Move t sys (sys.setConn i conn)
  | datain (sys : System n m) (i : Fin n) (iov : List Iovec) :
      Move t sys (sys.setConn i ((sys.conns i).setupDatain iov))
  | setup (sys : System n m) (i : Fin n) (kind : Kind) (flags : Events) (after : System n m)
      (isSetup : sys.setupRequestCallback t i kind flags = some after) : Move t sys after
  | teardown (sys : System n m) (i : Fin n) : Move t sys (sys.teardownRequestCallback t i)
  | thread (sys : System n m) (thread : Option (Frame n))
      (outside : ∀ frame, thread = some frame → frame.stage.inRequest = false) :
      Move t sys (sys.setThread t thread)
  | returned (sys : System n m) (result : Return) :
      Move t sys { sys with returns := sys.returns ++ [result] }
  | alloc (sys : System n m) (i : Fin n) (after : System n m)
      (isAlloc : sys.usrsockAlloc = some (i, after)) : Move t sys after
  | free (sys : System n m) (i : Fin n) : Move t sys (sys.usrsockFree i)
  | begins (sys : System n m) (frame : Frame n) (after : System n m)
      (begun : sys.beginRequest t frame = some after) : Move t sys after

/-- A section of a thread. -/
abbrev Moves (t : Fin m) : System n m → System n m → Prop := Relation.ReflTransGen (Move t)

namespace System

variable (sys : System n m) (t : Fin m) (frame : Frame n)

theorem leave_moves : Moves t sys (sys.leave t) :=
  .single (.thread sys none (by simp))

theorem markClosed_moves : Moves t sys (sys.markClosed t frame) := by
  let conn := { sys.conns frame.conn with state := .uninitialized, usockid := -1 }
  refine .head (.conn sys frame.conn conn rfl rfl) (.single (.thread _ _ ?_))
  rintro _ same
  rw [← Option.some.inj same]
  rfl

theorem resetDatain_moves : Moves t sys (sys.resetDatain frame) := by
  unfold resetDatain
  split
  · exact .single (.datain sys _ _)
  · exact .refl

theorem takeDown_moves :
    Moves t sys ((sys.resetDatain frame).teardownRequestCallback t frame.conn) :=
  (sys.resetDatain_moves t frame).tail (.teardown _ _)

theorem requestFailed_moves : Moves t sys (sys.requestFailed t frame) := by
  have down := sys.takeDown_moves t frame
  unfold requestFailed
  split
  · exact (down.tail (.free _ _)).trans (leave_moves _ t)
  · exact down.trans (markClosed_moves _ t frame)
  · exact down.trans (leave_moves _ t)

theorem makeRequest_moves : Moves t sys (sys.makeRequest t frame) := by
  unfold makeRequest
  dsimp only
  split
  · split
    · exact (Relation.ReflTransGen.single (.free _ _)).trans (leave_moves _ t)
    · exact leave_moves _ t
  · next sys' isSetup =>
    have set : Moves t sys sys' := .single (.setup sys _ _ _ _ isSetup)
    -- The buffers are set up in one move and the state in another.
    have prepared : Moves t sys (sys'.setConn frame.conn
        (let conn := sys'.conns frame.conn
        let conn := if frame.call.receives then conn.setupDatain frame.call.inbufs else conn
        if frame.call.kind = .connect then { conn with state := .connecting } else conn)) := by
      by_cases receives : frame.call.receives = true
      · have other : frame.call.kind ≠ .connect := by
          intro isConnect
          cases call : frame.call <;> simp [call, Call.receives, Call.kind] at receives isConnect
        simp only [receives, other, ↓reduceIte]
        exact set.tail (.datain _ _ _)
      · simp only [receives, Bool.false_eq_true, ↓reduceIte]
        refine set.tail (.conn _ _ _ ?_ ?_) <;> split <;> rfl
    split
    · exact prepared.trans (requestFailed_moves _ t _)
    · next request _ =>
      rename_i found
      cases begun : (sys'.setConn frame.conn
          (let conn := sys'.conns frame.conn
          let conn := if frame.call.receives then conn.setupDatain frame.call.inbufs else conn
          if frame.call.kind = .connect then { conn with state := .connecting } else
            conn)).beginRequest t
          { frame with state := Reqstate.fresh, request := request } with
      | none =>
        rw [Option.getD_none]
        exact prepared.trans (requestFailed_moves _ t _)
      | some after =>
        rw [Option.getD_some]
        exact prepared.tail (.begins _ _ _ begun)

theorem turn_moves : Moves t sys (sys.turn t frame) := by
  unfold turn
  split
  · exact makeRequest_moves sys t frame
  · dsimp only
    split
    · exact leave_moves sys t
    · split
      · exact makeRequest_moves sys t frame
      · split
        · exact leave_moves sys t
        · split
          · exact leave_moves sys t
          · next isSetup =>
            refine Relation.ReflTransGen.tail (.single (.setup sys _ _ _ _ isSetup))
              (.thread _ _ ?_)
            rintro _ same
            rw [← Option.some.inj same]
            rfl

theorem start_moves (i : Fin n) (call : Call) : Moves t sys (sys.start t i call) := by
  unfold start
  dsimp only
  split
  · split
    · exact markClosed_moves sys t _
    · exact .refl
  · split
    · exact .refl
    · exact turn_moves sys t _

theorem startSocket_moves (domain type protocol : Int) :
    Moves t sys (sys.startSocket t domain type protocol) := by
  unfold startSocket
  split
  · exact .refl
  · next i after isAlloc =>
    refine Relation.ReflTransGen.tail (.single (.alloc sys i after isAlloc)) (.thread _ _ ?_)
    rintro _ same
    rw [← Option.some.inj same]
    rfl

theorem returnResult_moves : Moves t sys (sys.returnResult t frame) :=
  (leave_moves sys t).tail (.returned _ _)

theorem finish_moves : Moves t sys (sys.finish t frame) := by
  have down := sys.takeDown_moves t frame
  unfold finish
  dsimp only
  split
  · split
    · exact (down.tail (.free _ _)).trans (returnResult_moves _ t frame)
    · refine down.trans (.trans (.single ?_) (returnResult_moves _ t frame))
      exact .conn _ _ _ rfl rfl
  · exact (down.trans (markClosed_moves _ t frame)).tail (.returned _ _)
  · split
    · exact down.trans (turn_moves _ t frame)
    · exact down.trans (returnResult_moves _ t frame)
  · split
    · exact down.trans (turn_moves _ t frame)
    · exact down.trans (returnResult_moves _ t frame)
  · exact down.trans (returnResult_moves _ t frame)

theorem ready_moves : Moves t sys (sys.ready t frame) := by
  have down : Moves t sys (sys.teardownRequestCallback t frame.conn) := .single (.teardown _ _)
  unfold ready
  dsimp only
  split
  · exact down.trans (leave_moves _ t)
  · exact down.trans (makeRequest_moves _ t frame)

theorem requestMade_moves : Moves t sys (sys.requestMade t frame) := by
  unfold requestMade
  split
  · exact (Relation.ReflTransGen.single (.teardown _ _)).trans (leave_moves _ t)
  · refine .single (.thread _ _ ?_)
    rintro _ same
    rw [← Option.some.inj same]
    rfl

theorem giveUp_moves : Moves t sys (sys.giveUp t frame) := by
  have gone : Moves t sys ((sys.teardownRequestCallback t frame.conn).leave t) :=
    .head (.teardown _ _) (leave_moves _ t)
  unfold giveUp
  cases frame.stage with
  | waitDone =>
    dsimp only
    split
    · exact gone
    · exact .refl
  | waitReady => exact gone
  | allocated | waitReq | waitAck | closed => exact .refl

/-- What one step does. -/
inductive Outcome (sys : System n m) (action : Action n m) : System n m → Prop where
  | nothing : Outcome sys action sys
  | moves (t : Fin m) (after : System n m)
      (outside : ∀ frame, sys.threads t = some frame → frame.stage.inRequest = false)
      (moves : Moves t sys after) : Outcome sys action after
  | puts (t : Fin m) (frame : Frame n) (isFrame : sys.threads t = some frame)
      (waits : frame.stage = .waitReq) (line : 0 < sys.dev.sem) (isOpen : sys.dev.ocount ≠ 0) :
      Outcome sys action ((sys.setDev (sys.dev.putRequest frame)).setThread t
        (some { frame with stage := .waitAck }))
  | skips (t : Fin m) (frame : Frame n) (isFrame : sys.threads t = some frame)
      (waits : frame.stage = .waitReq) (line : 0 < sys.dev.sem) (isClosed : sys.dev.ocount = 0) :
      Outcome sys action ((sys.setDev sys.dev.skipRequest).requestMade t frame)
  | acknowledged (t : Fin m) (frame : Frame n) (isFrame : sys.threads t = some frame)
      (waits : frame.stage = .waitAck) (posted : 0 < sys.dev.acksem) :
      Outcome sys action ((sys.setDev sys.dev.takeAck).requestMade t frame)
  | opens (notClosing : sys.dev.closing = .no) : Outcome sys action sys.usrsockdevOpen.1
  | reads (len : Nat) : Outcome sys action (sys.usrsockdevRead len).1
  | writes (buffer : List UInt8) (isWrite : action = .write buffer) (inUse : sys.inUse = true) :
      Outcome sys action (sys.usrsockdevWrite buffer).1
  | closes (isClose : action = .closeDev) (inUse : sys.inUse = true) :
      Outcome sys action sys.usrsockdevClose
  | closing (isSection : action = .closeSection) : Outcome sys action sys.closeSection

theorem proceed_outcome (action : Action n m) (t : Fin m) (frame : Frame n)
    (isFrame : sys.threads t = some frame) : Outcome sys action (sys.proceed t frame) := by
  have outside (notInside : frame.stage.inRequest = false) :
      ∀ other, sys.threads t = some other → other.stage.inRequest = false := by
    intro other isOther
    rw [isFrame] at isOther
    rw [← Option.some.inj isOther]
    exact notInside
  unfold proceed
  cases stage : frame.stage with
  | allocated => exact .moves t _ (outside (by rw [stage]; rfl)) (makeRequest_moves sys t frame)
  | waitReq =>
    dsimp only
    split
    · exact .nothing
    · next line =>
      have taken : 0 < sys.dev.sem := Nat.pos_of_ne_zero line
      split
      · next isClosed => exact .skips t frame isFrame stage taken isClosed
      · next isOpen => exact .puts t frame isFrame stage taken isOpen
  | waitAck =>
    dsimp only
    split
    · exact .nothing
    · next posted => exact .acknowledged t frame isFrame stage (Nat.pos_of_ne_zero posted)
  | waitReady =>
    dsimp only
    split
    · exact .nothing
    · exact .moves t _ (outside (by rw [stage]; rfl)) (ready_moves sys t frame)
  | waitDone =>
    dsimp only
    split
    · exact .nothing
    · exact .moves t _ (outside (by rw [stage]; rfl)) (finish_moves sys t frame)
  | closed =>
    exact .moves t _ (outside (by rw [stage]; rfl))
      ((Relation.ReflTransGen.single (.free _ _)).trans (leave_moves _ t))

theorem step_outcome (action : Action n m) : Outcome sys action (sys.step action) := by
  have idle (t : Fin m) (isIdle : (sys.threads t).isNone = true) :
      ∀ frame, sys.threads t = some frame → frame.stage.inRequest = false := by
    intro frame isFrame
    simp [isFrame] at isIdle
  cases action with
  | startSocket t domain type protocol =>
    simp only [step]
    split
    · next isIdle =>
      exact .moves t _ (idle t isIdle) (startSocket_moves sys t domain type protocol)
    · exact .nothing
  | start t i call =>
    simp only [step]
    split
    · exact .nothing
    · split
      · next isIdle => exact .moves t _ (idle t isIdle) (start_moves sys t i _)
      · exact .nothing
  | proceed t =>
    simp only [step]
    split
    · exact .nothing
    · next frame isFrame => exact proceed_outcome sys _ t frame isFrame
  | giveUp t =>
    simp only [step]
    split
    · exact .nothing
    · next frame isFrame =>
      by_cases inside : frame.stage.inRequest = true
      · have stays : sys.giveUp t frame = sys := by
          cases stage : frame.stage <;> simp_all [giveUp, Stage.inRequest]
        rw [stays]
        exact .nothing
      · refine .moves t _ ?_ (giveUp_moves sys t frame)
        intro other isOther
        rw [isFrame] at isOther
        rw [← Option.some.inj isOther]
        simpa using inside
  | openDev =>
    simp only [step]
    split
    · next notClosing => exact .opens notClosing
    · exact .nothing
  | read len =>
    simp only [step]
    split
    · exact .reads len
    · exact .nothing
  | write buffer =>
    simp only [step]
    split
    · next inUse => exact .writes buffer rfl inUse
    · exact .nothing
  | closeDev =>
    simp only [step]
    split
    · next inUse => exact .closes rfl inUse
    · exact .nothing
  | closeSection => exact .closing rfl

end System

end Thingsee.Usrsock
