import Thingsee.Support.Runs
import Thingsee.Wifi.Types

/-!
Owns that the close of a peer reaches the slot of its socket. The loop of `do_wifi_thread`
takes the number of the chip's socket for the index of the slot, and a close request takes the
number of a socket that was stolen for an index. Where slots and sockets have the same numbers,
and no slot is closed after its socket was stolen, every report reaches its slot.
-/

namespace Thingsee.Wifi

open Support Daemon List

/-! ## What a step should do -/

/-- What the chip answers to `cc3000_select`. -/
def Selected.answer : Selected → FdSets
  | .failed => ⟨fun _ => false, fun _ => false, fun _ => false⟩
  | .ready sets => sets

def Selected.fails : Selected → Bool
  | .failed => true
  | .ready _ => false

/-- What a step should do with the report that a peer has closed. -/
structure Daemon.ReachesSlots (daemon : Daemon) (action : Action) : Prop where
  /-- The flag is only set for a slot whose socket was reported. -/
  reported : ∀ i, ((daemon.step action).slots i).remoteClosed = true →
    ((daemon.step action).slots i).reported = true
  /-- Only a scan sets it. -/
  scanned : (∀ selected, action ≠ .scan selected) →
    ∀ i, ((daemon.step action).slots i).remoteClosed = true →
      (daemon.slots i).remoteClosed = true
  /-- A scan sets it for a connected slot with a new report, and sends an event for it. -/
  told : daemon.polls = true → ∀ selected, action = .scan selected → ∀ i,
    (daemon.slots i).active = true → (daemon.slots i).connected = true →
      (daemon.slots i).unseen = true →
        ((daemon.step action).slots i).remoteClosed = true ∧
          ∃ sent events, (daemon.step action).link = daemon.link ++ sent ∧
            Message.event (daemon.slots i).usockid events ∈ sent ∧ events.recvfromAvail = true
  /-- Without a report a slot gets what the chip has answered for it. -/
  others : daemon.polls = true → ∀ selected, action = .scan selected → ∀ i,
    (daemon.slots i).reported = false →
      (daemon.step action).slots i =
        ((daemon.slots i).handleSelectResults selected.answer).1.seen
  /-- The tables are accessed where they have elements. -/
  inside : (daemon.step action).outside = daemon.outside

/-- The slots that matter have the numbers of their sockets. A close request is for a slot that
has its socket. At a scan, an active slot whose number is that of a closed socket has this
socket; a connected slot with a new report has the number of its socket, the report was
recorded, and no data was announced for the slot; and `cc3000_select` does not fail while a slot
is marked. -/
def Matched (daemon : Daemon) (action : Action) : Prop :=
  match action with
  | .close _ usockid => ∀ i, daemon.getSock usockid = some i → 0 ≤ (daemon.slots i).wifisd
  | .scan selected =>
    daemon.polls = true →
      (∀ i, daemon.shuts i = true → (daemon.slots i).wifisd = i.val) ∧
      (∀ i, (daemon.slots i).active = true → (daemon.slots i).connected = true →
        (daemon.slots i).unseen = true →
          (daemon.slots i).wifisd = i.val ∧ daemon.shuts i = true ∧
            (daemon.slots i).recvAvail = false) ∧
      (selected.fails = true → ∀ i, daemon.shuts i = false)
  | _ => True

/-- A socket that is marked closed is one whose slots have the report, and so has every slot
that is marked. -/
structure Daemon.Sound (daemon : Daemon) : Prop where
  pending : ∀ sd, (daemon.stats sd).opened = true → (daemon.stats sd).remoteClosed = true →
    ∀ i, (daemon.slots i).active = true → (daemon.slots i).wifisd = sd.val →
      (daemon.slots i).reported = true
  marked : ∀ i, (daemon.slots i).remoteClosed = true → (daemon.slots i).reported = true
  small : ∀ i, (daemon.slots i).wifisd < maxSockets

theorem tableIndex_val (sd : Fin maxSockets) : tableIndex sd.val = some sd := by
  unfold tableIndex
  rw [dif_pos ⟨sd.isLt, Int.natCast_nonneg _⟩]
  rfl

theorem tableIndex_eq_some {index : Int} {sd : Fin maxSockets}
    (found : tableIndex index = some sd) : index = sd.val := by
  unfold tableIndex at found
  split at found
  case isTrue inside =>
    cases found
    exact (Int.toNat_of_nonneg inside.2).symm
  case isFalse => cases found

theorem tableIndex_of_small {index : Int} (nonneg : 0 ≤ index) (small : index < maxSockets) :
    ∃ sd, tableIndex index = some sd := by
  unfold tableIndex
  rw [dif_pos ⟨by omega, nonneg⟩]
  exact ⟨_, rfl⟩

/-! ## Requests that leave the sockets alone -/

structure Slot.Same (before after : Slot) : Prop where
  active : after.active = before.active
  wifisd : after.wifisd = before.wifisd
  remoteClosed : after.remoteClosed = before.remoteClosed
  reported : after.reported = before.reported

/-- The slots have the same sockets, and are marked as before. -/
structure Quiet (before after : Daemon) : Prop where
  stats : after.stats = before.stats
  outside : after.outside = before.outside
  slots : ∀ i, (before.slots i).Same (after.slots i)

theorem Slot.Same.refl (slot : Slot) : slot.Same slot := ⟨rfl, rfl, rfl, rfl⟩

variable (xid : Nat) (usockid : Int) (daemon : Daemon)

theorem Quiet.refl : Quiet daemon daemon :=
  ⟨rfl, rfl, fun i => Slot.Same.refl (daemon.slots i)⟩

variable {before after daemon : Daemon}

theorem Quiet.send (quiet : Quiet before after) (message : Message) :
    Quiet before (after.send message) := ⟨quiet.stats, quiet.outside, quiet.slots⟩

theorem Quiet.respond (quiet : Quiet before after) (xid : Nat) (result : Except Errno Int) :
    Quiet before (after.respond xid result) := quiet.send _

variable {sets : FdSets} {selected : Selected} {slot : Slot}

theorem Quiet.setSlot (quiet : Quiet before after) {i : Fin maxSockets}
    (same : (before.slots i).Same slot) : Quiet before (after.setSlot i slot) := by
  refine ⟨quiet.stats, quiet.outside, fun other => ?_⟩
  unfold Daemon.setSlot
  dsimp only
  split
  case isTrue equal =>
    rw [equal]
    exact same
  case isFalse => exact quiet.slots other

theorem Quiet.sound (quiet : Quiet before after) (sound : before.Sound) : after.Sound where
  pending sd opened closed i active wifisd := by
    rw [quiet.stats] at opened closed
    rw [(quiet.slots i).active] at active
    rw [(quiet.slots i).wifisd] at wifisd
    rw [(quiet.slots i).reported]
    exact sound.pending sd opened closed i active wifisd
  marked i remoteClosed := by
    rw [(quiet.slots i).remoteClosed] at remoteClosed
    rw [(quiet.slots i).reported]
    exact sound.marked i remoteClosed
  small i := by
    rw [(quiet.slots i).wifisd]
    exact sound.small i

theorem Daemon.sendtoRequest_quiet (sendto : Sendto) (daemon : Daemon) :
    Quiet daemon (daemon.sendtoRequest sendto) := by
  have refl := Quiet.refl daemon
  unfold Daemon.sendtoRequest
  split
  case h_1 => exact refl.respond _ _
  case h_2 i found =>
    dsimp only
    split
    · exact refl.respond _ _
    split
    · exact refl.respond _ _
    split
    · exact refl.respond _ _
    split
    · exact refl.respond _ _
    have sent : Quiet daemon (daemon.setSlot i
        { daemon.slots i with sendReady := decide (0 < sendto.wlen) }) :=
      refl.setSlot ⟨rfl, rfl, rfl, rfl⟩
    split
    · exact sent.respond _ _
    split
    · exact sent.respond _ _
    split
    · exact (sent.respond _ _).send _
    · exact sent.respond _ _

theorem Daemon.recvfromRequest_quiet (maxBuflen maxAddrlen : Nat) (received : Received)
    (daemon : Daemon) :
    Quiet daemon (daemon.recvfromRequest xid usockid maxBuflen maxAddrlen received) := by
  have refl := Quiet.refl daemon
  unfold Daemon.recvfromRequest
  split
  case h_1 => exact refl.respond _ _
  case h_2 i found =>
    dsimp only
    split
    · exact refl.respond _ _
    split
    · exact refl.respond _ _
    split
    · exact refl.respond _ _
    split
    · apply Quiet.respond
      exact refl.setSlot ⟨rfl, rfl, rfl, rfl⟩
    · apply Quiet.send
      apply refl.setSlot
      split <;> exact ⟨rfl, rfl, rfl, rfl⟩

theorem Daemon.connectRequest_quiet (addrlen : Nat) (address : LinkRead SockAddr)
    (unwritten : Option Nat) (ret : Int) (daemon : Daemon) :
    Quiet daemon (daemon.connectRequest xid usockid addrlen address unwritten ret) := by
  have refl := Quiet.refl daemon
  unfold Daemon.connectRequest
  split
  case h_1 => exact refl.respond _ _
  case h_2 i found =>
    dsimp only
    split
    · exact refl.respond _ _
    split
    · exact refl.respond _ _
    split
    · exact refl.respond _ _
    case h_2 connaddr read =>
      split
      · exact refl.respond _ _
      have stored : Quiet daemon (daemon.setSlot i
          { daemon.slots i with remoteaddr := connaddr }) :=
        refl.setSlot ⟨rfl, rfl, rfl, rfl⟩
      split
      · exact stored.respond _ _
      split
      · exact stored.respond _ _
      split
      · exact (stored.send _).respond _ _
      · apply Quiet.respond
        exact (stored.send _).setSlot ⟨rfl, rfl, rfl, rfl⟩

/-! ## Requests and reports -/

/-- A step that marks no slot. -/
structure Harmless (before after : Daemon) : Prop where
  sound : after.Sound
  scanned : ∀ i, (after.slots i).remoteClosed = true → (before.slots i).remoteClosed = true
  inside : after.outside = before.outside

theorem Quiet.harmless (quiet : Quiet before after) (sound : before.Sound) :
    Harmless before after where
  sound := quiet.sound sound
  scanned i marked := by rwa [(quiet.slots i).remoteClosed] at marked
  inside := quiet.outside

theorem Harmless.refl (sound : daemon.Sound) : Harmless daemon daemon :=
  ⟨sound, fun _ marked => marked, rfl⟩

theorem Harmless.send (harmless : Harmless before after) (message : Message) :
    Harmless before (after.send message) where
  sound := ⟨harmless.sound.pending, harmless.sound.marked, harmless.sound.small⟩
  scanned := harmless.scanned
  inside := harmless.inside

theorem Harmless.respond (harmless : Harmless before after) (xid : Nat)
    (result : Except Errno Int) : Harmless before (after.respond xid result) := harmless.send _

theorem Harmless.setSlot (harmless : Harmless before after) {i : Fin maxSockets}
    (marked : slot.remoteClosed = true → (after.slots i).remoteClosed = true ∧ slot.reported = true)
    (small : slot.wifisd < maxSockets)
    (pending : slot.active = true → ∀ sd : Fin maxSockets, slot.wifisd = sd.val →
      (after.stats sd).opened = true → (after.stats sd).remoteClosed = true →
      slot.reported = true) :
    Harmless before (after.setSlot i slot) := by
  have one : ∀ other, (after.setSlot i slot).slots other =
      if other = i then slot else after.slots other := fun _ => rfl
  refine ⟨⟨?_, ?_, ?_⟩, ?_, harmless.inside⟩
  · intro sd opened closed other active wifisd
    rw [one] at active wifisd ⊢
    split at active
    case isTrue same =>
      rw [if_pos same] at wifisd ⊢
      exact pending active sd wifisd opened closed
    case isFalse different =>
      rw [if_neg different] at wifisd ⊢
      exact harmless.sound.pending sd opened closed other active wifisd
  · intro other remoteClosed
    rw [one] at remoteClosed ⊢
    split at remoteClosed
    case isTrue same =>
      rw [if_pos same]
      exact (marked remoteClosed).2
    case isFalse different =>
      rw [if_neg different]
      exact harmless.sound.marked other remoteClosed
  · intro other
    rw [one]
    split
    · exact small
    · exact harmless.sound.small other
  · intro other remoteClosed
    rw [one] at remoteClosed
    split at remoteClosed
    case isTrue same =>
      rw [same]
      exact harmless.scanned i (marked remoteClosed).1
    case isFalse => exact harmless.scanned other remoteClosed

theorem minusOne_small : (-1 : Int) < maxSockets := by decide

theorem Daemon.setStat_val (sd : Fin maxSockets) (stat : Stat) (daemon : Daemon) :
    daemon.setStat sd.val stat =
      { daemon with stats := fun other => if other = sd then stat else daemon.stats other } := by
  unfold Daemon.setStat
  rw [tableIndex_val]

theorem Harmless.setStat (harmless : Harmless before after) {sd : Fin maxSockets} {stat : Stat}
    (open' : stat.remoteClosed = false) : Harmless before (after.setStat sd.val stat) := by
  rw [setStat_val]
  refine ⟨⟨?_, harmless.sound.marked, harmless.sound.small⟩, harmless.scanned, harmless.inside⟩
  intro other opened closed
  dsimp only at opened closed
  split at closed
  case isTrue =>
    rw [open'] at closed
    cases closed
  case isFalse different =>
    rw [if_neg different] at opened
    exact harmless.sound.pending other opened closed

theorem Harmless.stealSocket (harmless : Harmless before after) (i : Fin maxSockets)
    (wifisd : Int) : Harmless before (after.stealSocket i wifisd) := by
  have one : ∀ other, (after.stealSocket i wifisd).slots other = after.slots other ∨
      (after.stealSocket i wifisd).slots other = { after.slots other with wifisd := -1 } := by
    intro other
    unfold Daemon.stealSocket
    dsimp only
    split
    · exact .inr rfl
    · exact .inl rfl
  refine ⟨⟨?_, ?_, ?_⟩, ?_, harmless.inside⟩
  · intro sd opened closed other active held
    rcases one other with same | stolen
    · rw [same] at active held ⊢
      exact harmless.sound.pending sd opened closed other active held
    · rw [stolen] at held
      have negative : (-1 : Int) = sd.val := held
      omega
  · intro other remoteClosed
    rcases one other with same | stolen
    · rw [same] at remoteClosed ⊢
      exact harmless.sound.marked other remoteClosed
    · rw [stolen] at remoteClosed ⊢
      exact harmless.sound.marked other remoteClosed
  · intro other
    rcases one other with same | stolen
    · rw [same]
      exact harmless.sound.small other
    · rw [stolen]
      exact minusOne_small
  · intro other remoteClosed
    rcases one other with same | stolen
    · rw [same] at remoteClosed
      exact harmless.scanned other remoteClosed
    · rw [stolen] at remoteClosed
      exact harmless.scanned other remoteClosed

theorem Daemon.socketRequest_harmless (domain type : Nat) (result : Opened) (written : Bool)
    (sound : daemon.Sound) :
    Harmless daemon (daemon.socketRequest xid domain type result written) := by
  have refl := Harmless.refl sound
  unfold Daemon.socketRequest
  split
  · exact refl.respond _ _
  split
  · exact refl.respond _ _
  split
  · exact refl.respond _ _
  case h_2 i free =>
    split
    · apply Harmless.respond
      exact refl.setSlot nofun (by decide) nofun
    case h_2 ret =>
      have stat : Harmless daemon (daemon.setStat ret.val ⟨true, false⟩) := refl.setStat rfl
      have fits : (ret.val : Int) < maxSockets := by exact_mod_cast ret.isLt
      -- The socket of the new slot is not marked closed any more.
      have slot : ∀ {other : Daemon} {new : Slot}, Harmless daemon other →
          (other.stats ret).remoteClosed = false → new.remoteClosed = false →
            new.wifisd = ret.val → Harmless daemon (other.setSlot i new) := by
        intro other new harmless isOpen unmarked wifisd
        refine harmless.setSlot ?_ (by rw [wifisd]; exact fits) ?_
        · rw [unmarked]
          exact nofun
        · intro _ sd held _ closed
          rw [wifisd] at held
          have same : ret = sd := Fin.ext (by exact_mod_cast held)
          rw [← same, isOpen] at closed
          cases closed
      have reset : ((daemon.setStat ret.val ⟨true, false⟩).stats ret).remoteClosed = false := by
        rw [setStat_val]
        exact congrArg Stat.remoteClosed (if_pos rfl)
      have opened := @slot _ { Slot.zero with
        active := true, wifisd := ret.val, usockid := i.val + 0xCC3, type :=
          type } stat reset rfl rfl
      split
      case isFalse => exact opened
      case isTrue =>
        apply Harmless.stealSocket
        split
        · exact slot ((opened.respond _ _).send _) reset rfl rfl
        · exact opened.respond _ _

theorem Daemon.closeRequest_harmless (sound : daemon.Sound)
    (matched : Matched daemon (.close xid usockid)) :
    Harmless daemon (daemon.closeRequest xid usockid) := by
  have refl := Harmless.refl sound
  unfold Daemon.closeRequest
  split
  case h_1 => exact refl.respond _ _
  case h_2 i found =>
    obtain ⟨sd, place⟩ := tableIndex_of_small (matched i found) (sound.small i)
    have stat : Harmless daemon (daemon.setStat (daemon.slots i).wifisd ⟨false, false⟩) := by
      rw [tableIndex_eq_some place]
      exact refl.setStat rfl
    have slots : (daemon.setStat (daemon.slots i).wifisd ⟨false, false⟩).slots = daemon.slots := by
      unfold Daemon.setStat
      split <;> rfl
    apply Harmless.respond
    refine stat.setSlot ?_ minusOne_small nofun
    rw [slots]
    exact fun remoteClosed => ⟨remoteClosed, sound.marked i remoteClosed⟩

theorem Daemon.closeWait_harmless (wifisd : Int) (sound : daemon.Sound) :
    Harmless daemon (daemon.closeWait wifisd) := by
  unfold Daemon.closeWait
  split
  case h_2 => exact Harmless.refl sound
  case h_1 sd place =>
    have number := tableIndex_eq_some place
    generalize noting : { daemon with slots := _ : Daemon } = noted
    have slots : ∀ i, (noted.slots i).active = (daemon.slots i).active ∧
        (noted.slots i).wifisd = (daemon.slots i).wifisd ∧
        (noted.slots i).remoteClosed = (daemon.slots i).remoteClosed ∧
        ((daemon.slots i).reported = true → (noted.slots i).reported = true) ∧
        ((daemon.slots i).active = true → (daemon.slots i).wifisd = wifisd →
          (noted.slots i).reported = true) := by
      intro i
      rw [← noting]
      dsimp only
      split
      case isTrue holds => exact ⟨rfl, rfl, rfl, fun _ => rfl, fun _ _ => rfl⟩
      case isFalse other =>
        exact ⟨rfl, rfl, rfl, fun reported => reported,
          fun active held => absurd ⟨active, held⟩ other⟩
    have stats : noted.stats = daemon.stats := by rw [← noting]
    have outside : noted.outside = daemon.outside := by rw [← noting]
    have marked : ∀ i, (noted.slots i).remoteClosed = true → (noted.slots i).reported = true := by
      intro i remoteClosed
      rw [(slots i).2.2.1] at remoteClosed
      exact (slots i).2.2.2.1 (sound.marked i remoteClosed)
    have small : ∀ i, (noted.slots i).wifisd < maxSockets := by
      intro i
      rw [(slots i).2.1]
      exact sound.small i
    have scanned : ∀ i, (noted.slots i).remoteClosed = true →
        (daemon.slots i).remoteClosed = true := by
      intro i remoteClosed
      rwa [(slots i).2.2.1] at remoteClosed
    have before : ∀ other, (daemon.stats other).opened = true →
        (daemon.stats other).remoteClosed = true → ∀ i, (noted.slots i).active = true →
          (noted.slots i).wifisd = other.val → (noted.slots i).reported = true := by
      intro other opened closed i active held
      rw [(slots i).1] at active
      rw [(slots i).2.1] at held
      exact (slots i).2.2.2.1 (sound.pending other opened closed i active held)
    split
    case isFalse =>
      refine ⟨⟨?_, marked, small⟩, scanned, outside⟩
      rw [stats]
      exact before
    case isTrue =>
      rw [number, setStat_val]
      refine ⟨⟨?_, marked, small⟩, scanned, outside⟩
      intro other opened closed i active held
      dsimp only at opened closed
      by_cases same : other = sd
      · rw [(slots i).1] at active
        rw [(slots i).2.1, same, ← number] at held
        exact (slots i).2.2.2.2 active held
      · rw [if_neg same, stats] at opened closed
        exact before other opened closed i active held

/-! ## The scan -/

theorem Slot.handleSelectResults_same (sets : FdSets) (slot : Slot) :
    slot.Same (slot.handleSelectResults sets).1 := by
  unfold Slot.handleSelectResults
  split <;> exact ⟨rfl, rfl, rfl, rfl⟩

theorem Slot.handleSelectResults_congr {others : FdSets}
    (readfds : slot.polled = true → fdIsset slot.wifisd sets.readfds =
      fdIsset slot.wifisd others.readfds)
    (writefds : slot.polled = true →
      fdIsset slot.wifisd sets.writefds = fdIsset slot.wifisd others.writefds)
    (exceptfds : slot.polled = true →
      fdIsset slot.wifisd sets.exceptfds = fdIsset slot.wifisd others.exceptfds) :
    slot.handleSelectResults sets = slot.handleSelectResults others := by
  unfold Slot.handleSelectResults
  split
  case isTrue polled => rw [readfds polled, writefds polled, exceptfds polled]
  case isFalse => rfl

theorem Slot.handleSelectResults_none (slot : Slot) :
    slot.handleSelectResults ⟨fun _ => false, fun _ => false, fun _ => false⟩ = (slot, {}) := by
  have none : fdIsset slot.wifisd (fun _ => false) = false := by
    unfold fdIsset
    split <;> rfl
  unfold Slot.handleSelectResults
  split
  case isTrue => simp only [none, Bool.and_false, Bool.or_false]
  case isFalse => rfl

theorem Slot.handleSelectResults_told (polled : slot.polled = true) (quiet : slot.recvAvail = false)
    (excepted : fdIsset slot.wifisd sets.exceptfds = true) :
    (slot.handleSelectResults sets).2.recvfromAvail = true := by
  unfold Slot.handleSelectResults
  rw [if_pos polled]
  show (!slot.recvAvail && fdIsset slot.wifisd sets.readfds ||
    !(slot.recvAvail || (!slot.recvAvail && fdIsset slot.wifisd sets.readfds)) &&
      fdIsset slot.wifisd sets.exceptfds) = true
  rw [quiet, excepted]
  cases fdIsset slot.wifisd sets.readfds <;> rfl

theorem FdSets.eq_none (empty : sets.count = 0) :
    sets = ⟨fun _ => false, fun _ => false, fun _ => false⟩ := by
  have none : ∀ set : Fin maxSockets → Bool,
      (List.finRange maxSockets).countP set = 0 → set = fun _ => false := by
    intro set count
    funext sd
    have outside := countP_eq_zero.mp count sd (mem_finRange sd)
    exact Bool.eq_false_iff.mpr outside
  obtain ⟨readfds, writefds, exceptfds⟩ := sets
  change (List.finRange maxSockets).countP readfds + (List.finRange maxSockets).countP writefds +
    (List.finRange maxSockets).countP exceptfds = 0 at empty
  rw [none readfds (by omega), none writefds (by omega), none exceptfds (by omega)]

def Daemon.scannedSlot (selected : Selected) (daemon : Daemon) (i : Fin maxSockets) : Slot :=
  if 0 < daemon.shutCount selected then
    ((daemon.shutSlot i).handleSelectResults (daemon.shutSets selected)).1
  else daemon.shutSlot i

theorem Daemon.scan_slots (polls : daemon.polls = true) (i : Fin maxSockets) :
    (daemon.scan selected).slots i = (daemon.scannedSlot selected i).seen := by
  unfold Daemon.scan
  rw [if_pos polls]
  unfold Daemon.scannedSlot
  split <;> rfl

theorem Daemon.scan_rest (selected : Selected) (daemon : Daemon) :
    (daemon.scan selected).stats = daemon.stats ∧
      (daemon.scan selected).outside = daemon.outside := by
  unfold Daemon.scan
  split
  case isFalse => exact ⟨rfl, rfl⟩
  case isTrue =>
    split <;> exact ⟨rfl, rfl⟩

variable (i : Fin maxSockets)

theorem Daemon.shutSlot_active : (daemon.shutSlot i).active = (daemon.slots i).active := by
  unfold Daemon.shutSlot
  split <;> rfl

theorem Daemon.shutSlot_wifisd : (daemon.shutSlot i).wifisd = (daemon.slots i).wifisd := by
  unfold Daemon.shutSlot
  split <;> rfl

theorem Daemon.shutSlot_reported : (daemon.shutSlot i).reported = (daemon.slots i).reported := by
  unfold Daemon.shutSlot
  split <;> rfl

theorem Daemon.scannedSlot_same (selected : Selected) (daemon : Daemon) (i : Fin maxSockets) :
    (daemon.shutSlot i).Same (daemon.scannedSlot selected i) := by
  unfold Daemon.scannedSlot
  split
  · exact Slot.handleSelectResults_same _ _
  · exact Slot.Same.refl _

theorem Daemon.scan_slot (polls : daemon.polls = true) (i : Fin maxSockets) :
    ((daemon.scan selected).slots i).active = (daemon.slots i).active ∧
      ((daemon.scan selected).slots i).wifisd = (daemon.slots i).wifisd ∧
      ((daemon.scan selected).slots i).reported = (daemon.slots i).reported ∧
      ((daemon.scan selected).slots i).remoteClosed = (daemon.shutSlot i).remoteClosed := by
  have same := scannedSlot_same selected daemon i
  rw [scan_slots polls]
  exact ⟨same.active.trans (daemon.shutSlot_active i),
    same.wifisd.trans (daemon.shutSlot_wifisd i),
    same.reported.trans (daemon.shutSlot_reported i), same.remoteClosed⟩

theorem Daemon.shuts_reported (sound : daemon.Sound)
    (numbers : ∀ i, daemon.shuts i = true → (daemon.slots i).wifisd = i.val) {i : Fin maxSockets}
    (shuts : daemon.shuts i = true) : (daemon.slots i).reported = true := by
  have held := numbers i shuts
  unfold Daemon.shuts at shuts
  rw [Bool.and_eq_true, Bool.and_eq_true] at shuts
  exact sound.pending i shuts.1.1 shuts.1.2 i shuts.2 held

theorem Daemon.scan_sound (sound : daemon.Sound) (matched : Matched daemon (.scan selected)) :
    (daemon.scan selected).Sound := by
  by_cases polls : daemon.polls = true
  case neg =>
    have idle : daemon.scan selected = daemon := if_neg polls
    rw [idle]
    exact sound
  have rest := scan_rest selected daemon
  have slot := fun i => @scan_slot daemon selected polls i
  refine ⟨?_, ?_, ?_⟩
  · intro sd opened closed i active held
    rw [rest.1] at opened closed
    rw [(slot i).1] at active
    rw [(slot i).2.1] at held
    rw [(slot i).2.2.1]
    exact sound.pending sd opened closed i active held
  · intro i marked
    rw [(slot i).2.2.2] at marked
    rw [(slot i).2.2.1]
    unfold Daemon.shutSlot at marked
    split at marked
    case isTrue shuts => exact shuts_reported sound (matched polls).1 shuts
    case isFalse => exact sound.marked i marked
  · intro i
    rw [(slot i).2.1]
    exact sound.small i

theorem Daemon.scannedSlot_unreported (sound : daemon.Sound)
    (numbers : ∀ i, daemon.shuts i = true → (daemon.slots i).wifisd = i.val)
    (fails : selected.fails = true → ∀ i, daemon.shuts i = false) {i : Fin maxSockets}
    (unreported : (daemon.slots i).reported = false) :
    daemon.scannedSlot selected i = ((daemon.slots i).handleSelectResults selected.answer).1 := by
  have unmarked : daemon.shutSlot i = daemon.slots i := by
    refine if_neg fun shuts => ?_
    rw [shuts_reported sound numbers shuts] at unreported
    cases unreported
  unfold Daemon.scannedSlot
  rw [unmarked]
  cases selected with
  | failed =>
    have none : daemon.shutCount .failed = 0 := by
      unfold Daemon.shutCount
      rw [Nat.add_eq_zero_iff]
      refine ⟨rfl, countP_eq_zero.mpr fun sd _ => ?_⟩
      rw [fails rfl sd]
      exact Bool.false_ne_true
    rw [none, if_neg (Nat.lt_irrefl 0)]
    exact congrArg Prod.fst (Slot.handleSelectResults_none _).symm
  | ready sets =>
    split
    case isFalse none =>
      have empty : sets.count = 0 := by
        have zero := Nat.eq_zero_of_not_pos none
        exact (Nat.add_eq_zero_iff.mp zero).1
      show _ = ((daemon.slots i).handleSelectResults sets).1
      rw [FdSets.eq_none empty, Slot.handleSelectResults_none]
    case isTrue =>
      apply congrArg Prod.fst
      refine Slot.handleSelectResults_congr (fun _ => rfl) (fun _ => rfl) fun polled => ?_
      unfold fdIsset
      split
      case h_2 => rfl
      case h_1 sd place =>
        -- The socket of the slot is not closed, as the slot has no report.
        have active : (daemon.slots i).active = true := by
          unfold Slot.polled at polled
          rw [Bool.and_eq_true, Bool.and_eq_true] at polled
          exact polled.1.1
        have quiet : daemon.shuts sd = false := by
          rw [Bool.eq_false_iff]
          intro shuts
          unfold Daemon.shuts at shuts
          rw [Bool.and_eq_true, Bool.and_eq_true] at shuts
          rw [sound.pending sd shuts.1.1 shuts.1.2 i active (tableIndex_eq_some place)]
            at unreported
          cases unreported
        show (sets.exceptfds sd || daemon.shuts sd) = sets.exceptfds sd
        rw [quiet, Bool.or_false]

theorem Daemon.scan_told {i : Fin maxSockets} (polls : daemon.polls = true)
    (fails : selected.fails = true → ∀ i, daemon.shuts i = false)
    (active : (daemon.slots i).active = true) (connected : (daemon.slots i).connected = true)
    (held : (daemon.slots i).wifisd = i.val) (shuts : daemon.shuts i = true)
    (quiet : (daemon.slots i).recvAvail = false) :
    ((daemon.scan selected).slots i).remoteClosed = true ∧
      ∃ sent events, (daemon.scan selected).link = daemon.link ++ sent ∧
        Message.event (daemon.slots i).usockid events ∈ sent ∧ events.recvfromAvail = true := by
  have marked : daemon.shutSlot i = { daemon.slots i with remoteClosed := true } := if_pos shuts
  refine ⟨?_, ?_⟩
  · rw [(scan_slot polls i).2.2.2, marked]
  have excepted : (daemon.shutSets selected).exceptfds i = true := by
    show (_ || daemon.shuts i) = true
    rw [shuts, Bool.or_true]
  have polled : (daemon.shutSlot i).polled = true := by
    rw [marked]
    show ((daemon.slots i).active && decide (0 ≤ (daemon.slots i).wifisd) &&
      !((daemon.slots i).type == sockStream && !(daemon.slots i).connected)) = true
    rw [active, connected, held, decide_eq_true (Int.natCast_nonneg _)]
    simp
  have told : ((daemon.shutSlot i).handleSelectResults (daemon.shutSets selected)).2.recvfromAvail =
      true := by
    apply Slot.handleSelectResults_told polled
    · rw [marked]
      exact quiet
    · rw [daemon.shutSlot_wifisd, held]
      unfold fdIsset
      rw [tableIndex_val]
      exact excepted
  have positive : 0 < daemon.shutCount selected := by
    cases selected with
    | failed => rw [fails rfl i] at shuts; cases shuts
    | ready sets =>
      by_cases set : sets.exceptfds i = true
      · have counted : 0 < (List.finRange maxSockets).countP sets.exceptfds :=
          countP_pos_iff.mpr ⟨i, mem_finRange i, set⟩
        show 0 < sets.count + _
        unfold FdSets.count
        omega
      · apply Nat.add_pos_right
        refine countP_pos_iff.mpr ⟨i, mem_finRange i, ?_⟩
        show (daemon.shuts i && !sets.exceptfds i) = true
        rw [shuts, Bool.eq_false_iff.mpr set]
        rfl
  refine ⟨(List.finRange maxSockets).filterMap fun j =>
    let events := ((daemon.shutSlot j).handleSelectResults (daemon.shutSets selected)).2
    if events.isEmpty then none else some (.event (daemon.shutSlot j).usockid events),
    ((daemon.shutSlot i).handleSelectResults (daemon.shutSets selected)).2, ?_, ?_, told⟩
  · unfold Daemon.scan
    rw [if_pos polls]
    dsimp only
    rw [if_pos positive]
    rfl
  · refine mem_filterMap.mpr ⟨i, mem_finRange i, ?_⟩
    have some : ((daemon.shutSlot i).handleSelectResults (daemon.shutSets selected)).2.isEmpty =
        false := by
      unfold Events.isEmpty
      rw [told]
      exact Bool.and_false _
    dsimp only
    rw [some, marked]
    rfl

theorem Harmless.reaches {action : Action} (harmless : Harmless daemon (daemon.step action))
    (noScan : ∀ selected, action ≠ .scan selected) : daemon.ReachesSlots action where
  reported := harmless.sound.marked
  scanned _ := harmless.scanned
  told _ selected same := absurd same (noScan selected)
  others _ selected same := absurd same (noScan selected)
  inside := harmless.inside

theorem Daemon.scan_reaches (sound : daemon.Sound) (matched : Matched daemon (.scan selected)) :
    daemon.ReachesSlots (.scan selected) where
  reported := (scan_sound sound matched).marked
  scanned noScan := absurd rfl (noScan selected)
  told polls other same i active connected unseen := by
    cases same
    obtain ⟨-, reports, fails⟩ := matched polls
    obtain ⟨held, shuts, quiet⟩ := reports i active connected unseen
    exact scan_told polls fails active connected held shuts quiet
  others polls other same i unreported := by
    cases same
    obtain ⟨numbers, -, fails⟩ := matched polls
    show (daemon.scan selected).slots i = _
    rw [scan_slots polls, scannedSlot_unreported sound numbers fails unreported]
  inside := (scan_rest selected daemon).2

theorem Daemon.step_reaches {action : Action} (sound : daemon.Sound)
    (matched : Matched daemon action) :
    (daemon.step action).Sound ∧ daemon.ReachesSlots action := by
  have quiet : ∀ {action : Action}, (∀ selected, action ≠ .scan selected) →
      Harmless daemon (daemon.step action) →
        (daemon.step action).Sound ∧ daemon.ReachesSlots action :=
    fun noScan harmless => ⟨harmless.sound, harmless.reaches noScan⟩
  cases action with
  | socket xid domain type result written =>
    exact quiet nofun (socketRequest_harmless xid domain type result written sound)
  | close xid usockid =>
    exact quiet nofun (closeRequest_harmless xid usockid sound matched)
  | sendto sendto =>
    exact quiet nofun ((sendtoRequest_quiet sendto daemon).harmless sound)
  | recvfrom xid usockid maxBuflen maxAddrlen received =>
    exact quiet nofun
      ((recvfromRequest_quiet xid usockid maxBuflen maxAddrlen received daemon).harmless
        sound)
  | connect xid usockid addrlen address unwritten ret =>
    exact quiet nofun
      ((connectRequest_quiet xid usockid addrlen address unwritten ret daemon).harmless
        sound)
  | closeWait wifisd => exact quiet nofun (closeWait_harmless wifisd sound)
  | scan selected => exact ⟨scan_sound sound matched, scan_reaches sound matched⟩

theorem Daemon.initial_sound : Daemon.initial.Sound where
  pending _ opened := by cases opened
  marked _ remoteClosed := by cases remoteClosed
  small _ := by
    show (0 : Int) < maxSockets
    decide

/-- In every run with matched steps, every step does what it should with the reports. -/
theorem peer_close_reaches_its_slot (actions : List Action)
    (matched : Guarded Daemon.step Matched Daemon.initial actions) :
    Guarded Daemon.step Daemon.ReachesSlots Daemon.initial actions := by
  have reaches (daemon : Daemon) (action : Action) (sound : daemon.Sound) :
      Matched daemon action ↔ Matched daemon action ∧ daemon.ReachesSlots action :=
    ⟨fun matched => ⟨matched, (step_reaches sound matched).2⟩, And.left⟩
  have both := (guarded_iff Daemon.Sound reaches
    (fun daemon action sound matched => (step_reaches sound matched).1)
    initial_sound).mp matched
  exact both.mono fun _ _ => And.right

/-- A stream socket that gets the number `wifisd`, is connected, and closed by its peer. -/
def closedByPeer (wifisd : Fin maxSockets) : List Action :=
  [.socket 1 afInet sockStream (.socket wifisd) true,
    .connect 2 0xCC3 sockaddrLength (.whole ⟨afInet, 80, 1⟩) none 0,
    .closeWait wifisd.val,
    .scan (.ready ⟨fun _ => false, fun _ => false, fun _ => false⟩)]

/-- The first slot has the first socket. -/
theorem peer_close_reaches_its_slot_first :
    Guarded Daemon.step Matched Daemon.initial (closedByPeer ⟨0, Nat.succ_pos 4⟩) ∧
      Guarded Daemon.step Daemon.ReachesSlots Daemon.initial
        (closedByPeer ⟨0, Nat.succ_pos 4⟩) := by
  have matched : Guarded Daemon.step Matched Daemon.initial
      (closedByPeer ⟨0, Nat.succ_pos 4⟩) := by
    refine ⟨trivial, trivial, trivial, ?_, trivial⟩
    intro _
    refine ⟨?_, ?_, nofun⟩ <;> decide
  exact ⟨matched, peer_close_reaches_its_slot _ matched⟩

/-- The first slot has the second socket, and never hears of the close. -/
theorem second_socket_is_missed :
    ¬ Guarded Daemon.step Daemon.ReachesSlots Daemon.initial
      (closedByPeer ⟨1, Nat.succ_lt_succ (Nat.succ_pos 3)⟩) := by
  rintro ⟨-, -, -, scan, -⟩
  have told := (scan.told (by decide) _ rfl ⟨0, Nat.succ_pos 4⟩ (by decide) (by decide)
    (by decide)).1
  exact absurd told (by decide)

end Thingsee.Wifi
