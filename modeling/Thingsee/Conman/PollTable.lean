import Mathlib.Algebra.Group.Int.Defs
import Mathlib.Algebra.Group.Basic
import Mathlib.Data.List.Nodup
import Mathlib.Logic.Relation
import Mathlib.Tactic.Common

/-!
Owns the poll table of the connection manager (`conman_main` in conman_main.c, the
`setup_pollfds` functions in conman_server.c, conman_ubmodem.c and conman_cc3000.c, and
`ubmodem_pollfds_setup` in ubmodem_poll.c): how it is filled, and how ready descriptors are
handed to handlers.

The table is the list of the descriptors that are written into it, also where there are more
of them than there is room for. Every entry asks for `POLLIN`. What the handlers do to the
modem and to the WiFi thread is left open; the kernel gives no descriptor twice.

Does not own: timeouts, and what is done with requests and events.
-/

namespace Thingsee.Conman.PollTable

open List

/-- `CONFIG_CONMAN_CLIENTS_MAX`, and whether there is `CONFIG_UBMODEM_USRSOCK`. -/
structure Config where
  clientsMax : Nat
  usrsock : Bool

/-- The descriptors of `struct ubmodem_s`. -/
structure Modem where
  serialFd : Int
  usrsockfd : Int
  pollOffCount : Nat

/-- The descriptors of `struct conman_s`, and `main_outfd` of the WiFi thread if there is
one. -/
structure State where
  listensd : Int
  sds : List Int
  modem : Modem
  wifi : Option Int

/-! ## Filling the table -/

def ubmodemPollMaxFds (config : Config) : Nat := 1 + if config.usrsock then 1 else 0

/-- `maxfds` of `conman_main`. -/
def maxfds (config : Config) : Nat := (1 + config.clientsMax) + ubmodemPollMaxFds config + 1

def serverSetupPollfds (conman : State) : List Int := conman.sds

def Modem.UsrsockPolled (config : Config) (modem : Modem) : Prop :=
  config.usrsock = true ∧ -1 < modem.usrsockfd ∧ modem.pollOffCount = 0

instance (config : Config) (modem : Modem) : Decidable (modem.UsrsockPolled config) :=
  inferInstanceAs (Decidable (_ ∧ _ ∧ _))

def ubmodemPollfdsSetup (config : Config) (modem : Modem) (numpfds : Int) : List Int :=
  let serial := if 0 < numpfds then [modem.serialFd] else []
  serial ++
    if (serial.length : Int) < numpfds ∧ modem.UsrsockPolled config then [modem.usrsockfd] else []

def cc3000SetupPollfds (conman : State) : List Int :=
  match conman.wifi with
  | none => []
  | some mainOutfd => if 0 ≤ mainOutfd then [mainOutfd] else []

/-- `pfds`, and where each component has its entries. -/
structure Table where
  pfds : List Int
  clientPosFds : Nat
  clientNumFds : Nat
  ubmodemPosFds : Nat
  ubmodemNumFds : Nat
  cc3000PosFds : Nat
  cc3000NumFds : Nat

/-- The beginning of an iteration of `conman_main`. -/
def setupPollfds (config : Config) (conman : State) : Table :=
  let listening := [conman.listensd]
  let clients := listening ++ serverSetupPollfds conman
  let modem := clients ++
    ubmodemPollfdsSetup config conman.modem ((maxfds config : Int) - clients.length)
  let wifi := modem ++ cc3000SetupPollfds conman
  { pfds := wifi
    clientPosFds := listening.length
    clientNumFds := clients.length - listening.length
    ubmodemPosFds := clients.length
    ubmodemNumFds := modem.length - clients.length
    cc3000PosFds := modem.length
    cc3000NumFds := wifi.length - modem.length }

/-! ## Handing out ready descriptors -/

inductive Owner where
  | server
  | client
  | ubmodem
  | cc3000
deriving DecidableEq

/-- A call of a handler, and the entries that it is given. -/
structure Call where
  owner : Owner
  first : Nat
  count : Nat

def Call.covers (call : Call) (i : Nat) : Bool := call.first ≤ i && i < call.first + call.count

def handlers (calls : List Call) (i : Nat) : List Owner :=
  (calls.filter fun call => call.covers i).map Call.owner

def ready (revents : Nat → Nat) (first count : Nat) : Nat :=
  (List.range' first count).countP fun i => revents i ≠ 0

/-- The loop of `conman_main` over the table behind `poll`. -/
def dispatch (table : Table) (listensd : Int) (revents : Nat → Nat) (i : Nat) (ret : Int) :
    List Call :=
  if i < table.pfds.length ∧ 0 < ret then
    let left := if revents i ≠ 0 then ret - 1 else ret
    if revents i ≠ 0 ∧ table.pfds[i]? = some listensd then
      ⟨.server, i, 1⟩ :: dispatch table listensd revents (i + 1) left
    else if revents i ≠ 0 ∧ 0 < table.clientNumFds ∧ table.clientPosFds ≤ i ∧
        i < table.clientPosFds + table.clientNumFds then
      ⟨.client, i, 1⟩ :: dispatch table listensd revents (i + 1) left
    else if revents i ≠ 0 ∧ 0 < table.cc3000NumFds ∧ table.cc3000PosFds ≤ i ∧
        i < table.cc3000PosFds + table.cc3000NumFds then
      ⟨.cc3000, i, 1⟩ :: dispatch table listensd revents (i + 1) left
    else if table.ubmodemPosFds = i ∧ 0 < table.ubmodemNumFds then
      ⟨.ubmodem, i, table.ubmodemNumFds⟩ ::
        dispatch table listensd revents (i + (table.ubmodemNumFds - 1) + 1)
          (left - ready revents (i + 1) (table.ubmodemNumFds - 1))
    else dispatch table listensd revents (i + 1) left
  else []
termination_by table.pfds.length - i
decreasing_by all_goals omega

/-- `poll`: the number of ready entries. -/
def poll (table : Table) (revents : Nat → Nat) : Nat := ready revents 0 table.pfds.length

def iterationCalls (table : Table) (conman : State) (revents : Nat → Nat) : List Call :=
  dispatch table conman.listensd revents 0 (poll table revents)

def State.descriptors (conman : State) : List Int :=
  conman.listensd :: conman.sds ++
    (conman.modem.serialFd ::
      if -1 < conman.modem.usrsockfd then [conman.modem.usrsockfd] else []) ++
    cc3000SetupPollfds conman

/-- What may happen to the modem and to the WiFi thread while a handler runs. -/
inductive Changes : State → State → Prop
  | polling (conman : State) (count : Nat) :
      Changes conman { conman with modem := { conman.modem with pollOffCount := count } }
  | usrsockClosed (conman : State) :
      Changes conman { conman with modem := { conman.modem with usrsockfd := -1 } }
  | usrsockOpened (conman : State) (fd : Int) (isOpen : 0 ≤ fd)
      (isNew : fd ∉ conman.descriptors) :
      Changes conman { conman with modem := { conman.modem with usrsockfd := fd } }
  | wifiStopped (conman : State) : Changes conman { conman with wifi := none }
  | wifiStarted (conman : State) (mainOutfd : Int) (isOpen : 0 ≤ mainOutfd)
      (isNew : mainOutfd ∉ conman.descriptors) :
      Changes conman { conman with wifi := some mainOutfd }

def POLLIN : Nat := 1

/-- `POLLERR | POLLHUP`. -/
def POLLERR_POLLHUP : Nat := 12

inductive Handles (table : Table) (revents : Nat → Nat) : Call → State → State → Prop
  /-- `accept` or the allocation fails, or there is no connection. -/
  | refused (i count : Nat) (conman : State) :
      Handles table revents ⟨.server, i, count⟩ conman conman
  | accepted (i count : Nat) (conman : State) (newSd : Int)
      (pollin : revents i &&& POLLIN ≠ 0) (isNew : newSd ∉ conman.descriptors) :
      Handles table revents ⟨.server, i, count⟩ conman
        { conman with sds := conman.sds ++ [newSd] }
  | closed (i count : Nat) (conman : State) (sd : Int) (entry : table.pfds[i]? = some sd)
      (hangup : revents i &&& POLLERR_POLLHUP ≠ 0) :
      Handles table revents ⟨.client, i, count⟩ conman
        { conman with sds := conman.sds.erase sd }
  | served (i count : Nat) {conman after : State}
      (stays : revents i &&& POLLERR_POLLHUP = 0)
      (changes : Relation.ReflTransGen Changes conman after) :
      Handles table revents ⟨.client, i, count⟩ conman after
  | modem (i count : Nat) {conman after : State}
      (changes : Relation.ReflTransGen Changes conman after) :
      Handles table revents ⟨.ubmodem, i, count⟩ conman after
  | wifi (i count : Nat) {conman after : State}
      (changes : Relation.ReflTransGen Changes conman after) :
      Handles table revents ⟨.cc3000, i, count⟩ conman after

inductive HandlesAll (table : Table) (revents : Nat → Nat) : List Call → State → State → Prop
  | nil (conman : State) : HandlesAll table revents [] conman conman
  | cons {call : Call} {calls : List Call} {conman between after : State}
      (first : Handles table revents call conman between)
      (rest : HandlesAll table revents calls between after) :
      HandlesAll table revents (call :: calls) conman after

/-- The states at the beginning of iterations. -/
inductive Reachable (config : Config) : State → Prop
  | started (listensd serialFd : Int) (other : listensd ≠ serialFd) :
      Reachable config ⟨listensd, [], ⟨serialFd, -1, 0⟩, none⟩
  /-- `__conman_ubmodem_poll_timedout`. -/
  | timedOut {conman after : State} (before : Reachable config conman)
      (changes : Relation.ReflTransGen Changes conman after) : Reachable config after
  | handled {conman after : State} (before : Reachable config conman) (revents : Nat → Nat)
      (calls : HandlesAll (setupPollfds config conman) revents
        (iterationCalls (setupPollfds config conman) conman revents) conman after) :
      Reachable config after

/-! ## What an iteration has to do -/

def State.Owns (conman : State) : Owner → Int → Prop
  | .server, fd => fd = conman.listensd
  | .client, fd => fd ∈ conman.sds
  | .ubmodem, fd => fd = conman.modem.serialFd ∨ fd = conman.modem.usrsockfd
  | .cc3000, fd => conman.wifi = some fd

/-- The table has room, every client and the modem have theirs, and every ready descriptor is
given to its owner once. -/
structure Kept (config : Config) (conman : State) : Prop where
  fits : (setupPollfds config conman).pfds.length ≤ maxfds config
  clients : ∀ sd ∈ conman.sds, (setupPollfds config conman).pfds.count sd = 1
  modem : (setupPollfds config conman).ubmodemPosFds + ubmodemPollMaxFds config ≤ maxfds config
  handed : ∀ revents i fd, (setupPollfds config conman).pfds[i]? = some fd → revents i ≠ 0 →
    ∃ owner, conman.Owns owner fd ∧
      handlers (iterationCalls (setupPollfds config conman) conman revents) i = [owner]

def State.WifiPolled (conman : State) : Prop :=
  ∃ mainOutfd, conman.wifi = some mainOutfd ∧ 0 ≤ mainOutfd

/-- There are no more clients than are reckoned with, or one more while the WiFi thread or the
usrsock descriptor leaves its entry free. -/
def Room (config : Config) (conman : State) : Prop :=
  conman.sds.length ≤ config.clientsMax ∨
    conman.sds.length = config.clientsMax + 1 ∧
      (¬ conman.WifiPolled ∨ config.usrsock = true ∧ ¬ conman.modem.UsrsockPolled config)

variable (config : Config) (revents : Nat → Nat) (conman : State) (first count : Nat)

theorem ready_succ :
    ready revents first (count + 1) =
      (if revents first ≠ 0 then 1 else 0) + ready revents (first + 1) count := by
  rw [ready, range'_succ, countP_cons, ready, Nat.add_comm]
  simp

theorem ready_add (more : Nat) :
    ready revents first (count + more) =
      ready revents first count + ready revents (first + count) more := by
  rw [ready, ready, ready, ← countP_append, range'_append_1]

variable {table : Table} {front : List Int} {revents : Nat → Nat} {part : List Int} {first : Nat}
  {behind : List Int} {after : State} {calls : List Call}

theorem ready_pos {count i : Nat} (begun : first ≤ i) (ends : i < first + count)
    (isReady : revents i ≠ 0) : 0 < ready revents first count := by
  rw [ready, countP_pos_iff]
  exact ⟨i, mem_range'_1.mpr ⟨begun, ends⟩, by simpa using isReady⟩

structure Table.Formed (table : Table) (listensd : Int) : Prop where
  clientPos : table.clientPosFds = 1
  ubmodemPos : table.ubmodemPosFds = table.clientPosFds + table.clientNumFds
  cc3000Pos : table.cc3000PosFds = table.ubmodemPosFds + table.ubmodemNumFds
  length : table.pfds.length = table.cc3000PosFds + table.cc3000NumFds
  listening : ∀ i, table.pfds[i]? = some listensd ↔ i = 0

def Table.owner (table : Table) (i : Nat) : Owner :=
  if i < table.clientPosFds then .server
  else if i < table.ubmodemPosFds then .client
  else if i < table.cc3000PosFds then .ubmodem
  else .cc3000

theorem handlers_cons (call : Call) (calls : List Call) (i : Nat) :
    handlers (call :: calls) i =
      (if call.covers i then [call.owner] else []) ++ handlers calls i := by
  rw [handlers, filter_cons]
  split <;> rfl

/-- The calls for the entries from one on: each ready one is given to its part, and none before
them is. -/
structure HandsOut (table : Table) (revents : Nat → Nat) (first : Nat) (calls : List Call) :
    Prop where
  before : ∀ i < first, handlers calls i = []
  handed : ∀ i, first ≤ i → i < table.pfds.length → revents i ≠ 0 →
    handlers calls i = [table.owner i]

theorem HandsOut.cons {count : Nat} (owner : Owner)
    (behind : HandsOut table revents (first + count) calls)
    (own : ∀ i, first ≤ i → i < first + count → table.owner i = owner) :
    HandsOut table revents first (⟨owner, first, count⟩ :: calls) := by
  constructor
  · intro i earlier
    rw [handlers_cons, behind.before i (by omega), if_neg]
    · rfl
    · simp only [Call.covers, Bool.and_eq_true, decide_eq_true_eq]
      omega
  · intro i begun bound isReady
    rw [handlers_cons]
    by_cases inside : i < first + count
    · rw [behind.before i inside, if_pos, own i begun inside]
      · rfl
      · simp only [Call.covers, Bool.and_eq_true, decide_eq_true_eq]
        omega
    · rw [behind.handed i (by omega) bound isReady, if_neg]
      · rfl
      · simp only [Call.covers, Bool.and_eq_true, decide_eq_true_eq]
        omega

theorem HandsOut.skip (behind : HandsOut table revents (first + 1) calls)
    (idle : revents first = 0) :
    HandsOut table revents first calls := by
  constructor
  · intro i earlier
    exact behind.before i (by omega)
  · intro i begun bound isReady
    refine behind.handed i ?_ bound isReady
    by_contra other
    have same : i = first := by omega
    exact isReady (same ▸ idle)

theorem handsOut_nil
    (idle : first < table.pfds.length → ready revents first (table.pfds.length - first) = 0) :
    HandsOut table revents first [] := by
  refine ⟨fun _ _ => rfl, fun i begun bound isReady => ?_⟩
  have some := @ready_pos revents first (table.pfds.length - first) i begun (by omega) isReady
  omega

theorem ready_left :
    (if revents first ≠ 0 then (ready revents first (count + 1) : Int) - 1
      else ready revents first (count + 1)) = ready revents (first + 1) count := by
  rw [ready_succ]
  split <;> push_cast <;> omega

theorem dispatch_handsOut {listensd : Int} (formed : table.Formed listensd) (revents : Nat → Nat)
    (i : Nat) (within : i ≤ table.pfds.length)
    (outside : i ≤ table.ubmodemPosFds ∨ table.cc3000PosFds ≤ i) :
    HandsOut table revents i
      (dispatch table listensd revents i (ready revents i (table.pfds.length - i))) := by
  obtain ⟨clientPos, ubmodemPos, cc3000Pos, length, listening⟩ := formed
  induction remaining : table.pfds.length - i using Nat.strongRecOn generalizing i with
  | _ count ih =>
  rw [dispatch]
  by_cases turn : i < table.pfds.length ∧ 0 < (ready revents i count : Int)
  · rw [if_pos turn]
    obtain ⟨rest, rfl⟩ : ∃ rest, count = rest + 1 := ⟨count - 1, by omega⟩
    have behind (next : Nat) (later : i < next) (bound : next ≤ table.pfds.length)
        (beside : next ≤ table.ubmodemPosFds ∨ table.cc3000PosFds ≤ next) :=
      ih (table.pfds.length - next) (by omega) next bound beside rfl
    simp only [ready_left]
    have next := behind (i + 1)
    rw [show table.pfds.length - (i + 1) = rest by omega] at next
    by_cases server : revents i ≠ 0 ∧ table.pfds[i]? = some listensd
    · rw [if_pos server]
      have first := (listening i).mp server.2
      refine HandsOut.cons .server (next (by omega) (by omega) (by omega)) fun j begun ends => ?_
      rw [Table.owner, if_pos (by omega)]
    rw [if_neg server]
    by_cases client : revents i ≠ 0 ∧ 0 < table.clientNumFds ∧ table.clientPosFds ≤ i ∧
        i < table.clientPosFds + table.clientNumFds
    · rw [if_pos client]
      refine HandsOut.cons .client (next (by omega) (by omega) (by omega)) fun j begun ends => ?_
      rw [Table.owner, if_neg (by omega), if_pos (by omega)]
    rw [if_neg client]
    by_cases wifi : revents i ≠ 0 ∧ 0 < table.cc3000NumFds ∧ table.cc3000PosFds ≤ i ∧
        i < table.cc3000PosFds + table.cc3000NumFds
    · rw [if_pos wifi]
      refine HandsOut.cons .cc3000 (next (by omega) (by omega) (by omega)) fun j begun ends => ?_
      rw [Table.owner, if_neg (by omega), if_neg (by omega), if_neg (by omega)]
    rw [if_neg wifi]
    by_cases modem : table.ubmodemPosFds = i ∧ 0 < table.ubmodemNumFds
    · rw [if_pos modem]
      have parts : ready revents (i + 1) rest =
          ready revents (i + 1) (table.ubmodemNumFds - 1) +
            ready revents (i + table.ubmodemNumFds)
              (table.pfds.length - (i + table.ubmodemNumFds)) := by
        rw [show i + table.ubmodemNumFds = i + 1 + (table.ubmodemNumFds - 1) by omega,
          ← ready_add]
        congr 1
        omega
      rw [parts, show i + (table.ubmodemNumFds - 1) + 1 = i + table.ubmodemNumFds by omega,
        Int.natCast_add, add_sub_cancel_left]
      refine HandsOut.cons .ubmodem (behind _ (by omega) (by omega) (by omega))
        fun j begun ends => ?_
      rw [Table.owner, if_neg (by omega), if_neg (by omega), if_pos (by omega)]
    · rw [if_neg modem]
      have idle : revents i = 0 := by
        by_contra isReady
        have other : i ≠ 0 := fun same => server ⟨isReady, (listening i).mpr same⟩
        omega
      exact (next (by omega) (by omega) (by omega)).skip idle
  · rw [if_neg turn]
    refine handsOut_nil fun bound => ?_
    rw [remaining]
    omega

theorem nodup_replace (nodup : (front ++ part ++ behind).Nodup) {fds : List Int}
    (single : fds.Nodup) (isNew : ∀ fd ∈ fds, fd ∉ front ++ part ++ behind) :
    (front ++ fds ++ behind).Nodup := by
  simp only [nodup_append, mem_append, not_or] at *
  obtain ⟨⟨frontNodup, -, -⟩, behindNodup, apart⟩ := nodup
  refine ⟨⟨frontNodup, single, fun fd isIn other isOther same => ?_⟩, behindNodup,
    fun fd isIn other isOther => ?_⟩
  · exact (isNew other isOther).1.1 (same ▸ isIn)
  · rcases isIn with isIn | isIn
    · exact apart fd (.inl isIn) other isOther
    · intro same
      exact (isNew fd isIn).2 (same ▸ isOther)

theorem nodup_replace_none (nodup : (front ++ part ++ behind).Nodup) :
    (front ++ [] ++ behind).Nodup :=
  nodup_replace nodup nodup_nil fun _ isIn => absurd isIn not_mem_nil

theorem nodup_replace_one (nodup : (front ++ part ++ behind).Nodup) {fd : Int}
    (isNew : fd ∉ front ++ part ++ behind) : (front ++ [fd] ++ behind).Nodup :=
  nodup_replace nodup (nodup_singleton fd) fun _ isIn => mem_singleton.mp isIn ▸ isNew

theorem State.descriptors_usrsock : conman.descriptors =
    (conman.listensd :: conman.sds ++ [conman.modem.serialFd]) ++
      (if -1 < conman.modem.usrsockfd then [conman.modem.usrsockfd] else []) ++
      cc3000SetupPollfds conman := by
  simp [descriptors]

theorem State.descriptors_wifi : conman.descriptors =
    (conman.listensd :: conman.sds ++
      (conman.modem.serialFd ::
        if -1 < conman.modem.usrsockfd then [conman.modem.usrsockfd] else [])) ++
      cc3000SetupPollfds conman ++ [] := by
  rw [append_nil, descriptors]

theorem State.descriptors_sds : conman.descriptors =
    (conman.listensd :: conman.sds) ++ [] ++
      ((conman.modem.serialFd ::
        if -1 < conman.modem.usrsockfd then [conman.modem.usrsockfd] else []) ++
          cc3000SetupPollfds conman) := by
  rw [append_nil, descriptors, append_assoc]

theorem Changes.nodup {conman : State} (changes : Changes conman after)
    (nodup : conman.descriptors.Nodup) : after.descriptors.Nodup := by
  cases changes with
  | polling count => exact nodup
  | usrsockClosed =>
    rw [State.descriptors_usrsock] at nodup ⊢
    exact nodup_replace_none nodup
  | usrsockOpened fd isOpen isNew =>
    rw [State.descriptors_usrsock] at nodup isNew ⊢
    simp only [if_pos (show -1 < fd by omega)]
    exact nodup_replace_one nodup isNew
  | wifiStopped =>
    rw [State.descriptors_wifi] at nodup ⊢
    exact nodup_replace_none nodup
  | wifiStarted mainOutfd isOpen isNew =>
    rw [State.descriptors_wifi] at nodup isNew ⊢
    simp only [cc3000SetupPollfds, if_pos isOpen]
    exact nodup_replace_one nodup isNew

theorem changes_nodup {conman : State} (changes : Relation.ReflTransGen Changes conman after)
    (nodup : conman.descriptors.Nodup) : after.descriptors.Nodup := by
  induction changes with
  | refl => exact nodup
  | tail _ last ih => exact last.nodup ih

theorem Handles.nodup {call : Call} {conman : State}
    (handles : Handles table revents call conman after) (nodup : conman.descriptors.Nodup) :
    after.descriptors.Nodup := by
  cases handles with
  | refused i count => exact nodup
  | accepted i count _ newSd pollin isNew =>
    rw [State.descriptors_sds] at nodup isNew
    have withClient := nodup_replace_one nodup isNew
    simpa [State.descriptors, cc3000SetupPollfds] using withClient
  | closed i count _ sd entry hangup =>
    refine List.Nodup.sublist ?_ nodup
    exact (List.Sublist.append_right (erase_sublist.cons_cons _) _).append_right _
  | served i count stays changes | modem i count changes | wifi i count changes =>
    exact changes_nodup changes nodup

theorem HandlesAll.nodup {conman : State} (handles : HandlesAll table revents calls conman after)
    (nodup : conman.descriptors.Nodup) : after.descriptors.Nodup := by
  induction handles with
  | nil => exact nodup
  | cons first _ ih => exact ih (first.nodup nodup)

theorem Reachable.nodup {config : Config} {conman : State} (reachable : Reachable config conman) :
    conman.descriptors.Nodup := by
  induction reachable with
  | started listensd serialFd other => simp [State.descriptors, cc3000SetupPollfds, other]
  | timedOut _ changes ih => exact changes_nodup changes ih
  | handled _ revents calls ih => exact calls.nodup ih

/-! ## The filled table -/

def modemPfds (config : Config) (conman : State) : List Int :=
  ubmodemPollfdsSetup config conman.modem
    ((maxfds config : Int) - (conman.sds.length + 1 : Nat))

theorem setupPollfds_pfds :
    (setupPollfds config conman).pfds =
      conman.listensd :: conman.sds ++ modemPfds config conman ++ cc3000SetupPollfds conman := rfl

theorem setupPollfds_ubmodemPosFds :
    (setupPollfds config conman).ubmodemPosFds = conman.sds.length + 1 := rfl

theorem setupPollfds_cc3000PosFds :
    (setupPollfds config conman).cc3000PosFds =
      conman.sds.length + 1 + (modemPfds config conman).length :=
  length_append

theorem ubmodemPollfdsSetup_eq (modem : Modem) (numpfds : Int) :
    ubmodemPollfdsSetup config modem numpfds =
      if 0 < numpfds then
        modem.serialFd ::
          if 1 < numpfds ∧ modem.UsrsockPolled config then [modem.usrsockfd] else []
      else [] := by
  rw [ubmodemPollfdsSetup]
  by_cases room : 0 < numpfds
  · simp only [if_pos room, length_singleton, singleton_append]
    rfl
  · simp only [if_neg room, length_nil, nil_append]
    exact if_neg fun polled => room polled.1

theorem modemPfds_sublist :
    (modemPfds config conman).Sublist (conman.modem.serialFd ::
      if -1 < conman.modem.usrsockfd then [conman.modem.usrsockfd] else []) := by
  rw [modemPfds, ubmodemPollfdsSetup_eq]
  split
  · refine List.Sublist.cons_cons _ ?_
    split
    · rename_i polled
      rw [if_pos polled.2.2.1]
    · exact nil_sublist _
  · exact nil_sublist _

theorem setupPollfds_nodup {conman : State} (nodup : conman.descriptors.Nodup) :
    (setupPollfds config conman).pfds.Nodup := by
  rw [setupPollfds_pfds]
  refine List.Nodup.sublist ?_ nodup
  exact ((modemPfds_sublist config conman).append_left _).append_right _

theorem setupPollfds_formed {conman : State} (nodup : conman.descriptors.Nodup) :
    (setupPollfds config conman).Formed conman.listensd := by
  refine ⟨rfl, ?_, ?_, ?_, fun i => ?_⟩
  · simp only [setupPollfds, length_append, length_singleton]
    omega
  · simp only [setupPollfds, length_append]
    omega
  · simp only [setupPollfds, length_append]
    omega
  · have first : (setupPollfds config conman).pfds[0]? = some conman.listensd := rfl
    constructor
    · intro found
      have bound := (List.getElem?_eq_some_iff.mp first).1
      exact ((List.getElem?_inj bound (setupPollfds_nodup config nodup)).mp
        (first.trans found.symm)).symm
    · rintro rfl
      exact first

theorem length_beforeWifi :
    (conman.listensd :: conman.sds ++ modemPfds config conman).length =
      conman.sds.length + 1 + (modemPfds config conman).length :=
  length_append

theorem owns_owner {i : Nat} {fd : Int} (entry : (setupPollfds config conman).pfds[i]? = some fd) :
    conman.Owns ((setupPollfds config conman).owner i) fd := by
  rw [setupPollfds_pfds] at entry
  rw [Table.owner, setupPollfds_ubmodemPosFds, setupPollfds_cc3000PosFds,
    show (setupPollfds config conman).clientPosFds = 1 from rfl]
  by_cases inModem : i < conman.sds.length + 1 + (modemPfds config conman).length
  · rw [List.getElem?_append_left (by rwa [length_beforeWifi])] at entry
    by_cases inClients : i < conman.sds.length + 1
    · rw [List.getElem?_append_left (by simpa using inClients)] at entry
      cases i with
      | zero => exact (Option.some.inj entry).symm
      | succ i =>
        rw [if_neg (by omega), if_pos inClients]
        exact mem_of_getElem? entry
    · rw [List.getElem?_append_right (by simpa using inClients)] at entry
      rw [if_neg (by omega), if_neg inClients, if_pos inModem]
      have member := (modemPfds_sublist config conman).subset (mem_of_getElem? entry)
      rcases mem_cons.mp member with same | member
      · exact .inl same
      · split at member
        · exact .inr (mem_singleton.mp member)
        · cases member
  · rw [List.getElem?_append_right (by rw [length_beforeWifi]; omega)] at entry
    rw [if_neg (by omega), if_neg (by omega), if_neg inModem]
    have member := mem_of_getElem? entry
    rw [cc3000SetupPollfds] at member
    cases wifi : conman.wifi with
    | none =>
      rw [wifi] at member
      cases member
    | some mainOutfd =>
      simp only [wifi] at member
      split at member
      · exact wifi.trans (congrArg some (mem_singleton.mp member).symm)
      · cases member

theorem modemPfds_length {config : Config} {conman : State}
    (room : conman.sds.length ≤ config.clientsMax + 1) :
    (modemPfds config conman).length =
      1 + if conman.modem.UsrsockPolled config then 1 else 0 := by
  rw [modemPfds, ubmodemPollfdsSetup_eq, if_pos (by simp only [maxfds, ubmodemPollMaxFds]; omega),
    length_cons]
  by_cases polled : conman.modem.UsrsockPolled config
  · have both : 1 < (maxfds config : Int) - (conman.sds.length + 1 : Nat) := by
      simp only [maxfds, ubmodemPollMaxFds, polled.1, if_true]
      omega
    rw [if_pos polled, if_pos ⟨both, polled⟩]
    rfl
  · rw [if_neg polled, if_neg fun both => polled both.2, length_nil, Nat.add_comm]

theorem cc3000SetupPollfds_length :
    (cc3000SetupPollfds conman).length = 1 ∧ conman.WifiPolled ∨
      (cc3000SetupPollfds conman).length = 0 ∧ ¬ conman.WifiPolled := by
  rw [cc3000SetupPollfds]
  cases wifi : conman.wifi with
  | none =>
    refine .inr ⟨rfl, ?_⟩
    rintro ⟨mainOutfd, running, _⟩
    cases wifi.symm.trans running
  | some mainOutfd =>
    by_cases isOpen : 0 ≤ mainOutfd
    · simp only [if_pos isOpen]
      exact .inl ⟨rfl, mainOutfd, wifi, isOpen⟩
    · simp only [if_neg isOpen]
      refine .inr ⟨rfl, ?_⟩
      rintro ⟨other, running, polled⟩
      cases wifi.symm.trans running
      exact isOpen polled

theorem fits_iff_room :
    (setupPollfds config conman).pfds.length ≤ maxfds config ∧
        (setupPollfds config conman).ubmodemPosFds + ubmodemPollMaxFds config ≤ maxfds config ↔
      Room config conman := by
  rw [setupPollfds_ubmodemPosFds, setupPollfds_pfds, length_append, length_beforeWifi, Room]
  by_cases room : conman.sds.length ≤ config.clientsMax + 1
  · have modem := modemPfds_length room
    simp only [maxfds, ubmodemPollMaxFds]
    rcases cc3000SetupPollfds_length conman with ⟨wifi, polledWifi⟩ | ⟨wifi, idleWifi⟩
    · by_cases usrsock : config.usrsock = true
      · by_cases polled : conman.modem.UsrsockPolled config
        · simp only [modem, wifi, usrsock, polledWifi, polled, if_true,
            not_true_eq_false, and_false,
            or_false]
          omega
        · simp only [modem, wifi, usrsock, polledWifi, polled, if_true, if_false, not_true_eq_false,
            not_false_eq_true, and_true, or_true]
          omega
      · have idle : ¬ conman.modem.UsrsockPolled config := fun polled => usrsock polled.1
        simp only [modem, wifi, usrsock, polledWifi, idle, Bool.false_eq_true, if_false,
          not_true_eq_false, false_and, and_false, or_false]
        omega
    · have most : (modemPfds config conman).length ≤ ubmodemPollMaxFds config := by
        rw [modem, ubmodemPollMaxFds]
        by_cases polled : conman.modem.UsrsockPolled config
        · simp only [if_pos polled, if_pos polled.1, Nat.le_refl]
        · rw [if_neg polled]
          omega
      rw [ubmodemPollMaxFds] at most
      simp only [wifi, idleWifi, not_false_eq_true, true_or, and_true]
      omega
  · simp only [maxfds]
    omega

def onlyListening (i : Nat) : Nat := if i = 0 then POLLIN else 0

theorem ready_onlyListening : ready onlyListening 1 count = 0 := by
  rw [ready, countP_eq_zero]
  intro i isIn
  have later := (mem_range'_1.mp isIn).1
  simp only [onlyListening, if_neg (show i ≠ 0 by omega)]
  decide

theorem iterationCalls_onlyListening :
    iterationCalls (setupPollfds config conman) conman onlyListening = [⟨.server, 0, 1⟩] := by
  have entries : (setupPollfds config conman).pfds.length =
      ((setupPollfds config conman).pfds.length - 1) + 1 := by
    rw [setupPollfds_pfds]
    simp
  have one : poll (setupPollfds config conman) onlyListening = 1 := by
    rw [poll, entries, ready_succ, ready_onlyListening]
    rfl
  rw [iterationCalls, one, dispatch, if_pos ⟨by omega, by decide⟩, if_pos ⟨by decide, rfl⟩,
    dispatch, if_neg]
  intro turn
  exact absurd turn.2 (by decide)

theorem Reachable.connect {config : Config} {conman : State}
    (reachable : Reachable config conman) (newSd : Int) (isNew : newSd ∉ conman.descriptors) :
    Reachable config { conman with sds := conman.sds ++ [newSd] } := by
  refine reachable.handled onlyListening ?_
  rw [iterationCalls_onlyListening]
  exact .cons (.accepted 0 1 conman newSd (by decide) isNew) (.nil _)

/-- Every reachable state, however clients come and go, is handled as it has to be exactly
where there is room. -/
theorem kept_iff_room {config : Config} {conman : State}
    (reachable : Reachable config conman) : Kept config conman ↔ Room config conman := by
  have formed := setupPollfds_formed config reachable.nodup
  rw [← fits_iff_room]
  constructor
  · intro kept
    exact ⟨kept.fits, kept.modem⟩
  · rintro ⟨fits, modem⟩
    refine ⟨fits, fun sd isIn => ?_, modem, fun revents i fd entry isReady => ?_⟩
    · refine count_eq_one_of_mem (setupPollfds_nodup config reachable.nodup) ?_
      rw [setupPollfds_pfds]
      exact mem_append_left _ (mem_append_left _ (mem_cons_of_mem _ isIn))
    · refine ⟨(setupPollfds config conman).owner i, owns_owner config conman entry, ?_⟩
      have out := dispatch_handsOut formed revents 0 (Nat.zero_le _) (.inl (Nat.zero_le _))
      have bound := (List.getElem?_eq_some_iff.mp entry).1
      exact out.handed i (Nat.zero_le i) bound isReady

def twoClients : State := ⟨3, [10, 11], ⟨4, -1, 0⟩, none⟩

theorem twoClients_reachable : Reachable ⟨5, true⟩ twoClients := by
  have none : Reachable ⟨5, true⟩ ⟨3, [], ⟨4, -1, 0⟩, none⟩ := .started 3 4 (by decide)
  exact (none.connect 10 (by decide)).connect 11 (by decide)

theorem kept_iff_room_started : Kept ⟨5, true⟩ twoClients ↔ Room ⟨5, true⟩ twoClients :=
  kept_iff_room twoClients_reachable

/-- Seven clients leave the modem one entry. -/
theorem reachable_not_kept :
    Reachable ⟨5, true⟩ ⟨3, [10, 11, 12, 13, 14, 15, 16], ⟨4, -1, 0⟩, none⟩ ∧
      ¬ Kept ⟨5, true⟩ ⟨3, [10, 11, 12, 13, 14, 15, 16], ⟨4, -1, 0⟩, none⟩ := by
  constructor
  · have four := (twoClients_reachable.connect 12 (by decide)).connect 13 (by decide)
    have six := (four.connect 14 (by decide)).connect 15 (by decide)
    exact six.connect 16 (by decide)
  · intro kept
    exact absurd kept.modem (by decide)

end Thingsee.Conman.PollTable
