import Thingsee.Conman.Types

/-!
Owns what each operation of the connection manager does to each part of its state: the
listed connections, the modem's part and the short messages. A property that does not look
at the short messages is kept by sending them, where creating and destroying connections
keep it.
-/

namespace Thingsee.Conman

open List Manager

variable {M : Type} (target : FuncLevel) (conman : Manager M)

/-! ## References -/

theorem Manager.acquireCellular_connections :
    (conman.acquireCellular target).1.connections =
      if conman.connections.amountCellular = 0 then conman.connections
      else { conman.connections with
        cellularRefcnt := conman.connections.cellularRefcnt + 1 } := by
  unfold Manager.acquireCellular
  split
  · rfl
  · dsimp only
    split
    · split <;> rfl
    · rfl

theorem Manager.acquireCellular_snd :
    (conman.acquireCellular target).2 = decide (conman.connections.amountCellular ≠ 0) := by
  unfold Manager.acquireCellular
  split
  case isTrue unconfigured => simp [unconfigured]
  case isFalse configured =>
    dsimp only
    split
    · split <;> simp [configured]
    · simp [configured]

theorem Manager.acquireCellular_ub :
    (conman.acquireCellular target).1.ub =
      if conman.connections.amountCellular ≠ 0 ∧ (conman.connections.cellularRefcnt = 0 ∨
        conman.ub.targetLevel.value < target.value) then conman.ub.establish target
      else conman.ub := by
  unfold Manager.acquireCellular
  by_cases unconfigured : conman.connections.amountCellular = 0
  · simp [unconfigured]
  · by_cases unused : conman.connections.cellularRefcnt = 0
    · simp [unconfigured, unused]
    · by_cases lower : conman.ub.targetLevel.value < target.value
      all_goals simp [unconfigured, unused, lower, Nat.pos_of_ne_zero]

theorem Manager.acquireCellular_others :
    (conman.acquireCellular target).1.sms = conman.sms ∧
      (conman.acquireCellular target).1.failedCreate = conman.failedCreate := by
  unfold Manager.acquireCellular
  split
  · exact ⟨rfl, rfl⟩
  · dsimp only
    split
    · split <;> exact ⟨rfl, rfl⟩
    · exact ⟨rfl, rfl⟩

theorem Manager.releaseCellular_connections :
    conman.releaseCellular.1.connections =
      if conman.connections.amountCellular = 0 ∨ conman.connections.cellularRefcnt = 0 then
        conman.connections
      else { conman.connections with
        cellularRefcnt := conman.connections.cellularRefcnt - 1 } := by
  unfold Manager.releaseCellular
  by_cases unconfigured : conman.connections.amountCellular = 0
  · simp [unconfigured]
  · by_cases unused : conman.connections.cellularRefcnt = 0
    · simp only [unconfigured, unused, if_false, if_true, true_and, false_or, Nat.lt_irrefl]
      split <;> rfl
    · simp only [unconfigured, unused, if_false, false_and, false_or]
      split
      · rfl
      · split <;> rfl

theorem Manager.releaseCellular_ub :
    conman.releaseCellular.1.ub =
      if conman.connections.amountCellular ≠ 0 ∧ conman.connections.cellularRefcnt ≤ 1 ∧
        conman.ub.targetLevel ≠ .poweredOff then conman.ub.powerOff
      else conman.ub := by
  unfold Manager.releaseCellular
  by_cases unconfigured : conman.connections.amountCellular = 0
  · simp [unconfigured]
  · by_cases unused : conman.connections.cellularRefcnt = 0
    · by_cases off : conman.ub.targetLevel = .poweredOff
      · simp [unconfigured, unused, off]
      · simp [unconfigured, unused, off]
    · by_cases last : conman.connections.cellularRefcnt = 1
      · by_cases off : conman.ub.targetLevel = .poweredOff
        · simp [unconfigured, last, off]
        · simp [unconfigured, last, off]
      · have more : 0 < conman.connections.cellularRefcnt - 1 := by omega
        have several : ¬ conman.connections.cellularRefcnt ≤ 1 := by omega
        simp [unconfigured, unused, more, several]

theorem Manager.releaseCellular_others :
    conman.releaseCellular.1.sms = conman.sms ∧
      conman.releaseCellular.1.failedCreate = conman.failedCreate := by
  unfold Manager.releaseCellular
  by_cases unconfigured : conman.connections.amountCellular = 0
  · simp [unconfigured]
  · simp only [unconfigured, if_false]
    split
    · exact ⟨rfl, rfl⟩
    · split
      all_goals
        split
        · exact ⟨rfl, rfl⟩
        · split <;> exact ⟨rfl, rfl⟩

theorem Connections.releaseWifi_eq (connections : Connections) :
    connections.releaseWifi.1 =
      if connections.amountWifi = 0 ∨ connections.wifiRefcnt = 0 ∧ connections.wifi = none then
        connections
      else { connections with
        wifiRefcnt := decrement connections.wifiRefcnt,
        wifi := if 0 < decrement connections.wifiRefcnt then connections.wifi else none } := by
  unfold Connections.releaseWifi Connections.stopWifi
  by_cases unconfigured : connections.amountWifi = 0
  · simp [unconfigured]
  · by_cases idle : connections.wifiRefcnt = 0 ∧ connections.wifi = .none
    · simp [unconfigured, idle]
    · by_cases used : 0 < decrement connections.wifiRefcnt
      · simp [unconfigured, idle, used]
      · by_cases stopped : connections.wifi = .none
        · have counted : connections.wifiRefcnt ≠ 0 := fun zero => idle ⟨zero, stopped⟩
          simp [unconfigured, counted, used, stopped]
        · simp [unconfigured, used, stopped]

/-- Before a connection is tried with the modem, or fails, a WiFi connection may have been
tried in vain: the counter has moved then, and no thread is started. -/
inductive TriedWifi (out : Outcomes M) (type : ConnectionType) (before : Connections) :
    Connections → Prop where
  | unchanged (untried : type = .wifi ∨ type = .data → out.allocated = true →
      before.amountWifi = 0) : TriedWifi out type before before
  | failed (thread : Option WifiThread) (wanted : type = .wifi ∨ type = .data)
      (allocated : out.allocated = true) (configured : 0 < before.amountWifi)
      (unused : before.wifiRefcnt = 0)
      (notStarted : before.wifi = some .connecting ∨ out.wifiStarts = false)
      (same : thread = some .connecting → before.wifi = some .connecting) :
      TriedWifi out type before { before with wifiRefcnt := 1, wifi := thread }

/-- The counter and the thread of a WiFi connection that succeeds. -/
def Connections.withWifi (connections : Connections) : Connections :=
  { connections with
    wifiRefcnt := connections.wifiRefcnt + 1,
    wifi := if 0 < connections.wifiRefcnt then connections.wifi else some .connecting }

variable (out : Outcomes M) (conn : Conn) (type : ConnectionType)

theorem Connections.acquireWifi_cases (wanted : type = .wifi ∨ type = .data)
    (allocated : out.allocated = true) (connections : Connections) :
    (connections.acquireWifi out = (connections.withWifi, true) ∧
        (0 < connections.wifiRefcnt ∨ out.wifiStarts = true)) ∨
      ∃ tried, connections.acquireWifi out = (tried, false) ∧
        TriedWifi out type connections tried := by
  unfold Connections.acquireWifi Connections.startWifi
  by_cases configured : connections.amountWifi = 0
  · right
    exact ⟨connections, by rw [if_pos configured], .unchanged fun _ _ => configured⟩
  · have some : 0 < connections.amountWifi := Nat.pos_of_ne_zero configured
    by_cases used : 0 < connections.wifiRefcnt
    · left
      simp [configured, used, Connections.withWifi]
    · have unused : connections.wifiRefcnt = 0 := by omega
      by_cases connecting : connections.wifi = .some .connecting
      · right
        refine ⟨_, ?_, .failed (.some .connecting) wanted allocated some unused (.inl connecting)
          fun _ => connecting⟩
        simp [configured, unused, connecting]
      · by_cases starts : out.wifiStarts
        · left
          simp [configured, unused, connecting, starts, Connections.withWifi]
        · right
          refine ⟨_, ?_, .failed .none wanted allocated some unused (.inr (by simpa using starts))
            nofun⟩
          simp [configured, unused, connecting, starts]

inductive Creates (out : Outcomes M) (type : ConnectionType) (conman : Manager M) :
    Manager M × Option Nat → Prop where
  | nothing (wanted : type = .none) : Creates out type conman (conman, some connidClear)
  | wifi (wanted : type = .wifi ∨ type = .data) (configured : 0 < conman.connections.amountWifi)
      (running : 0 < conman.connections.wifiRefcnt ∨ out.wifiStarts = true) :
      Creates out type conman
        ({ conman with connections := conman.connections.withWifi.add .wifi },
          some conman.connections.connidNext)
  | cellular (tried : Connections) (before : TriedWifi out type conman.connections tried)
      (allocated : out.allocated = true) (configured : 0 < conman.connections.amountCellular)
        (got : ConnectionType)
      (target : FuncLevel)
      (wanted : (type = .cellular ∨ type = .data) ∧ got = .cellular ∧ target = .gprs ∨
        type = .sms ∧ got = .sms ∧ target = .network) :
      Creates out type conman
        (let acquired := ({ conman with connections := tried }.acquireCellular target).1
        ({ acquired with connections := acquired.connections.add got },
          some conman.connections.connidNext))
  | failed (tried : Connections) (before : TriedWifi out type conman.connections tried)
      (refused : out.allocated = true → type = .wifi ∨ conman.connections.amountCellular = 0) :
      Creates out type conman
        ({ conman with connections := tried, failedCreate := some conman.connections }, none)

variable {out : Outcomes M} {type : ConnectionType}

theorem TriedWifi.same {before after : Connections} (tried : TriedWifi out type before after) :
    after.amountCellular = before.amountCellular ∧ after.amountWifi = before.amountWifi ∧
      after.connids = before.connids ∧ after.connidNext = before.connidNext ∧
      after.cellularRefcnt = before.cellularRefcnt ∧ after.created = before.created ∧
      after.released = before.released := by
  cases tried <;> exact ⟨rfl, rfl, rfl, rfl, rfl, rfl, rfl⟩

theorem Manager.tryCellular_creates {conman : Manager M} {tried : Connections}
    (before : TriedWifi out type conman.connections tried) (allocated : out.allocated = true)
    (got : ConnectionType)
    (wanted : (type = .cellular ∨ type = .data) ∧ got = .cellular ∨ type = .sms ∧ got = .sms) :
    Creates out type conman (Manager.finishCreate conman.connections
      ({ conman with connections := tried }.tryCellular got)) := by
  have amounts := before.same
  by_cases configured : 0 < conman.connections.amountCellular
  · have acquires : ∀ target : FuncLevel,
        { conman with connections := tried }.ubmodemRequestConnection got =
          { conman with connections := tried }.acquireCellular target →
        ((type = .cellular ∨ type = .data) ∧ got = .cellular ∧ target = .gprs ∨
          type = .sms ∧ got = .sms ∧ target = .network) →
        Creates out type conman (Manager.finishCreate conman.connections
          ({ conman with connections := tried }.tryCellular got)) := by
      intro target asks same
      have succeeds : ({ conman with connections := tried }.acquireCellular target).2 = true := by
        rw [acquireCellular_snd, decide_eq_true_eq]
        show tried.amountCellular ≠ 0
        omega
      have next : ({ conman with connections := tried }.acquireCellular
          target).1.connections.connidNext = conman.connections.connidNext := by
        rw [acquireCellular_connections, ← amounts.2.2.2.1]
        split <;> rfl
      unfold Manager.tryCellular
      rw [asks]
      dsimp only
      rw [amounts.1, if_pos configured, if_pos succeeds]
      dsimp only [Manager.finishCreate]
      rw [next]
      exact .cellular tried before allocated configured got target same
    rcases wanted with ⟨asked, rfl⟩ | ⟨asked, rfl⟩
    · exact acquires .gprs rfl (.inl ⟨asked, rfl, rfl⟩)
    · exact acquires .network rfl (.inr ⟨asked, rfl, rfl⟩)
  · unfold Manager.tryCellular
    rw [amounts.1, if_neg configured]
    exact .failed tried before fun _ => .inr (Nat.eq_zero_of_not_pos configured)

/-- A creation has one of the outcomes of `Creates`. -/
theorem Manager.createConnection_creates (out : Outcomes M) (type : ConnectionType)
    (conman : Manager M) : Creates out type conman (conman.createConnection out type) := by
  unfold Manager.createConnection
  by_cases nothing : type = .none
  · rw [if_pos nothing]
    exact .nothing nothing
  rw [if_neg nothing]
  by_cases allocated : out.allocated = true
  · rw [if_neg (by simp [allocated])]
    have wifi : type = .wifi ∨ type = .data →
        (type = .wifi ∨ (conman.tryWifi out).2 ≠ none → Creates out type conman
            (Manager.finishCreate conman.connections (conman.tryWifi out))) ∧
          ∃ tried, (conman.tryWifi out).2 = none →
            TriedWifi out type conman.connections tried ∧
              (conman.tryWifi out).1 = { conman with connections := tried } := by
      intro wanted
      unfold Manager.tryWifi
      by_cases configured : 0 < conman.connections.amountWifi
      · rw [if_pos configured]
        rcases Connections.acquireWifi_cases out type wanted allocated conman.connections
          with ⟨acquired, running⟩ | ⟨tried, acquired, before⟩
        · rw [acquired]
          exact ⟨fun _ => .wifi wanted configured running, conman.connections.withWifi, nofun⟩
        · rw [acquired]
          refine ⟨fun own => .failed tried before fun _ => .inl ?_, tried, fun _ => ⟨before, rfl⟩⟩
          exact own.resolve_right fun started => started rfl
      · have untried : TriedWifi out type conman.connections conman.connections :=
          .unchanged fun _ _ => Nat.eq_zero_of_not_pos configured
        rw [if_neg configured]
        refine ⟨fun own => .failed _ untried fun _ => .inl ?_, _, fun _ => ⟨untried, rfl⟩⟩
        exact own.resolve_right fun started => started rfl
    cases type with
    | none => exact absurd rfl nothing
    | cellular =>
      exact tryCellular_creates (.unchanged (by simp)) allocated .cellular
        (.inl ⟨.inl rfl, rfl⟩)
    | sms =>
      exact tryCellular_creates (.unchanged (by simp)) allocated .sms (.inr ⟨rfl, rfl⟩)
    | wifi => exact (wifi (.inl rfl)).1 (.inl rfl)
    | data =>
      obtain ⟨created, tried, failed⟩ := wifi (.inr rfl)
      dsimp only [Manager.acquire]
      by_cases notStarted : (conman.tryWifi out).2 = none
      · obtain ⟨before, same⟩ := failed notStarted
        rw [if_pos notStarted, same]
        exact tryCellular_creates before allocated .cellular (.inl ⟨.inr rfl, rfl⟩)
      · rw [if_neg notStarted]
        exact created (.inr notStarted)
  · rw [if_pos (by simpa using allocated)]
    exact .failed _ (.unchanged fun _ memory => absurd memory allocated)
      fun memory => absurd memory allocated

theorem Manager.doDestroyConnection_cases (conn : Conn) (conman : Manager M) :
    let released := { conman with connections := { conman.connections with
      released := conman.connections.released ++ [conn.serial] } }
    conman.doDestroyConnection conn =
      match conn.type with
      | .cellular | .sms => released.releaseCellular.1
      | .wifi => { released with connections := released.connections.releaseWifi.1 }
      | _ => released := by
  cases conn with
  | mk connid type destroyed serial => cases type <;> rfl

theorem Manager.doDestroyConnection_connids :
    (conman.doDestroyConnection conn).connections.connids = conman.connections.connids := by
  rw [doDestroyConnection_cases]
  cases conn.type with
  | cellular | sms =>
    rw [releaseCellular_connections]
    split <;> rfl
  | wifi =>
    dsimp only
    rw [Connections.releaseWifi_eq]
    split <;> rfl
  | none | data => rfl

theorem Manager.doDestroyConnection_ub :
    (conman.doDestroyConnection conn).ub = conman.ub ∨
      conman.ub.targetLevel ≠ .poweredOff ∧
        (conman.doDestroyConnection conn).ub = conman.ub.powerOff := by
  rw [doDestroyConnection_cases]
  cases conn.type with
  | cellular | sms =>
    rw [releaseCellular_ub]
    split
    case isTrue last => exact .inr ⟨last.2.2, rfl⟩
    case isFalse => exact .inl rfl
  | none | data | wifi => exact .inl rfl

/-- How many listed connections of some types are not destroyed. -/
def live (type : ConnectionType → Bool) (connids : List Conn) : Nat :=
  connids.countP fun conn => !conn.destroyed && type conn.type

/-- An entry that was not destroyed is destroyed or taken from the list, and no other. -/
structure Without (conn : Conn) (before after : List Conn) : Prop where
  member : conn ∈ before
  wasLive : conn.destroyed = false
  serials : (after.map Conn.serial).Sublist (before.map Conn.serial)
  others : ∀ other ∈ after, other.destroyed = false →
    other ∈ before ∧ other.serial ≠ conn.serial
  listed : ∀ other ∈ after, ∃ same ∈ before,
    same.connid = other.connid ∧ same.type = other.type ∧ same.serial = other.serial ∧
      (same.destroyed = true → other.destroyed = true)
  count : ∀ type, live type after + (if type conn.type then 1 else 0) = live type before

section

variable {conn : Conn} {connections : Connections}
  (distinct : (connections.connids.map Conn.serial).Nodup)
include distinct

theorem without_markDestroyed (member : conn ∈ connections.connids)
    (wasLive : conn.destroyed = false) :
    Without conn connections.connids (connections.markDestroyed conn).connids := by
  have unmarked : ∀ list : List Conn, conn.serial ∉ list.map Conn.serial →
      (list.map fun other =>
        if other.serial = conn.serial then { other with destroyed := true } else other) = list := by
    intro list absent
    refine (map_congr_left ?_).trans (map_id list)
    intro other found
    apply if_neg
    intro same
    exact absent (same ▸ mem_map_of_mem found)
  obtain ⟨front, back, split⟩ := append_of_mem member
  rw [split, map_append, map_cons, nodup_append, nodup_cons] at distinct
  have inFront : conn.serial ∉ front.map Conn.serial := by
    intro found
    exact distinct.2.2 _ found _ (mem_cons_self ..) rfl
  have inBack : conn.serial ∉ back.map Conn.serial := distinct.2.1.1
  have marked : (connections.markDestroyed conn).connids =
      front ++ { conn with destroyed := true } :: back := by
    unfold Connections.markDestroyed
    rw [split, map_append, map_cons, unmarked front inFront, unmarked back inBack,
      if_pos rfl]
  rw [marked, split]
  constructor
  case member => simp
  case wasLive => exact wasLive
  case serials => simp
  case others =>
    intro other found alive
    rw [mem_append, mem_cons] at found
    rcases found with found | rfl | found
    · exact ⟨by simp [found], fun same => inFront (same ▸ mem_map_of_mem found)⟩
    · cases alive
    · exact ⟨by simp [found], fun same => inBack (same ▸ mem_map_of_mem found)⟩
  case listed =>
    intro other found
    rw [mem_append, mem_cons] at found
    rcases found with found | rfl | found
    · exact ⟨other, by simp [found], rfl, rfl, rfl, id⟩
    · exact ⟨conn, by simp, rfl, rfl, rfl, fun _ => rfl⟩
    · exact ⟨other, by simp [found], rfl, rfl, rfl, id⟩
  case count =>
    intro type
    unfold live
    rw [countP_append, countP_append, countP_cons, countP_cons]
    simp only [wasLive, Bool.not_true, Bool.false_and, Bool.not_false, Bool.true_and]
    simp only [Bool.false_eq_true, if_false]
    omega

theorem without_remove {connid : Nat}
    (found : connections.connids.find? (fun conn => conn.connid == connid) = some conn)
    (wasLive : conn.destroyed = false) :
    Without conn connections.connids (connections.remove connid).connids := by
  obtain ⟨matching, front, back, split, earlier⟩ := List.find?_eq_some_iff_append.mp found
  have removed : (connections.remove connid).connids = front ++ back := by
    unfold Connections.remove
    rw [split, eraseP_append_right _ (by simpa using earlier),
      eraseP_cons_of_pos (by simpa using matching)]
  rw [split, map_append, map_cons, nodup_append, nodup_cons] at distinct
  rw [removed, split]
  constructor
  case member => simp
  case wasLive => exact wasLive
  case serials => simp
  case others =>
    intro other member alive
    rcases mem_append.mp member with inFront | inBack
    · refine ⟨by simp [inFront], fun same => ?_⟩
      exact distinct.2.2 _ (mem_map_of_mem inFront) _ (mem_cons_self ..) same
    · refine ⟨by simp [inBack], fun same => ?_⟩
      exact distinct.2.1.1 (same ▸ mem_map_of_mem inBack)
  case listed =>
    intro other member
    rcases mem_append.mp member with inFront | inBack
    · exact ⟨other, by simp [inFront], rfl, rfl, rfl, id⟩
    · exact ⟨other, by simp [inBack], rfl, rfl, rfl, id⟩
  case count =>
    intro type
    unfold live
    rw [countP_append, countP_append, countP_cons]
    simp only [wasLive, Bool.not_false, Bool.true_and]
    omega

end

theorem Manager.destroyConnection_keeps (property : Manager M → Prop)
    (distinct : ∀ conman, property conman →
      (conman.connections.connids.map Conn.serial).Nodup)
    (gone : ∀ conman conn after, property conman →
      Without conn conman.connections.connids after →
      property ({ conman with connections := { conman.connections with
        connids := after } }.doDestroyConnection conn))
    (forgotten : ∀ conman connid conn, property conman →
      conman.connections.connids.find? (fun conn => conn.connid == connid) = some conn →
      conn.destroyed = true →
      property { conman with connections := conman.connections.remove connid })
    (conman : Manager M) (connid : Nat) (holds : property conman) :
    property (conman.destroyConnection connid) := by
  have all : ∀ (rest : List Conn) (conman : Manager M), property conman →
      (rest.map Conn.serial).Nodup → (∀ conn ∈ rest, conn ∈ conman.connections.connids) →
      property (rest.foldl Manager.destroyLive conman) := by
    intro rest
    induction rest with
    | nil =>
      intro conman holds _ _
      exact holds
    | cons conn rest ih =>
      intro conman holds apart members
      rw [map_cons, nodup_cons] at apart
      rw [foldl_cons]
      unfold Manager.destroyLive
      split
      case isTrue =>
        exact ih conman holds apart.2
          fun other found => members other (mem_cons_of_mem _ found)
      case isFalse alive =>
        have without := without_markDestroyed (distinct conman holds)
          (members conn (mem_cons_self ..)) (by simpa using alive)
        apply ih _ (gone conman conn _ holds without) apart.2
        intro other found
        have listed := members other (mem_cons_of_mem _ found)
        have different : other.serial ≠ conn.serial :=
          fun same => apart.1 (same ▸ mem_map_of_mem found)
        rw [doDestroyConnection_connids]
        unfold Connections.markDestroyed
        rw [mem_map]
        exact ⟨other, listed, if_neg different⟩
  unfold Manager.destroyConnection
  split
  case isTrue => exact all _ conman holds (distinct conman holds) fun _ found => found
  case isFalse =>
    cases found : conman.connections.connids.find? (fun conn => conn.connid == connid) with
    | none => exact holds
    | some conn =>
      dsimp only
      split
      case isTrue destroyed => exact forgotten conman connid conn holds found destroyed
      case isFalse alive =>
        exact gone conman conn _ holds
          (without_remove (distinct conman holds) found (by simpa using alive))

section Keeps

variable (property : Manager M → Prop)
  (others : ∀ conman sms, property conman → property { conman with sms := sms })
  (destroys : ∀ conman connid, property conman → property (conman.destroyConnection connid))

include others destroys

variable (out : Outcomes M)

theorem Manager.releaseSms_keeps (holds : property conman) : property conman.releaseSms := by
  unfold Manager.releaseSms
  dsimp only
  split
  · exact others _ _ (destroys _ _ (others _ _ holds))
  · exact others _ _ holds

theorem Manager.processSms_keeps (queue : List M) (conman : Manager M) (holds : property conman) :
    property (conman.processSms out queue) := by
  induction queue generalizing conman with
  | nil =>
    rw [Manager.processSms]
    exact releaseSms_keeps _ property others destroys (others _ _ holds)
  | cons message rest ih =>
    rw [Manager.processSms]
    split
    · exact others _ _ holds
    · exact ih _ (others _ _ holds)

theorem Manager.processSmsQueue_keeps (holds : property conman) :
    property (conman.processSmsQueue out) := by
  unfold Manager.processSmsQueue
  split
  · exact processSms_keeps property others destroys out _ conman holds
  · exact holds

theorem Manager.startSms_keeps (holds : property conman) : property (conman.startSms out) := by
  unfold Manager.startSms
  split
  · exact processSmsQueue_keeps conman property others destroys out holds
  · exact holds

theorem Manager.sendSms_cases
    (creates : ∀ conman connid, property conman →
      (conman.createConnection out .sms).2 = some connid →
      property (conman.createConnection out .sms).1)
    (message : M) (conman : Manager M) (holds : property conman) :
    property (conman.sendSms out message) ∨
      ∃ sms, property { conman with sms := sms } ∧
        ({ conman with sms := sms }.createConnection out .sms).2 = none ∧
        conman.sendSms out message = ({ conman with sms := sms }.createConnection out .sms).1 := by
  have starts := fun conman => startSms_keeps conman property others destroys out
  unfold Manager.sendSms
  split
  case isFalse => exact .inl holds
  case isTrue =>
    have queued := fun sms => others conman sms holds
    dsimp only
    split
    case isTrue => exact .inl (starts _ (queued _))
    case isFalse =>
      split
      case h_1 connid created =>
        exact .inl (starts _ (others _ _ (creates _ connid (queued _) created)))
      case h_2 failed => exact .inr ⟨_, queued _, failed, rfl⟩

end Keeps

/-- What the parts of a step have to keep, for the step to keep a property. -/
structure Keeps (property : Manager M → Prop) : Prop where
  sms : ∀ conman sms, property conman → property { conman with sms := sms }
  distinct : ∀ conman, property conman → (conman.connections.connids.map Conn.serial).Nodup
  gone : ∀ conman conn after, property conman →
    Without conn conman.connections.connids after →
    property ({ conman with connections := { conman.connections with
      connids := after } }.doDestroyConnection conn)
  forgotten : ∀ conman connid conn, property conman →
    conman.connections.connids.find? (fun conn => conn.connid == connid) = some conn →
    conn.destroyed = true →
    property { conman with connections := conman.connections.remove connid }
  configures : ∀ (conman : Manager M) cellular wifi, property conman →
    property { conman with connections := { conman.connections with
      amountCellular := conman.connections.amountCellular + cellular,
      amountWifi := conman.connections.amountWifi + wifi } }
  scans : ∀ (conman : Manager M) (out : Outcomes M), property conman →
    property { conman with connections := conman.connections.wifiScan out }
  creates : ∀ (conman : Manager M) (out : Outcomes M) connid, property conman →
    (conman.createConnection out .sms).2 = some connid →
    property (conman.createConnection out .sms).1
  levels : ∀ (conman : Manager M) (out : Outcomes M) level, property conman →
    property { conman with ub := conman.ub.levelReached out level }
  fails : ∀ conman : Manager M, property conman → property conman.eventFailedTargetLevel
  clears : ∀ conman type, property conman →
    property { conman with ub := conman.ub.clearRequested type }
  informs : ∀ conman, property conman → property { conman with ub := conman.ub.informed }
  broadcasts : ∀ conman event, property conman →
    property { conman with ub := conman.ub.broadcast event }

/-- A step keeps what all its parts keep, or it creates a connection. -/
theorem Keeps.handle_cases [DecidableEq M] {property : Manager M → Prop} (keeps : Keeps property)
    (step : Step M) (conman : Manager M) (holds : property conman) :
    property (conman.handle step) ∨
      ∃ type sms, property { conman with sms := sms } ∧
        (step.request = .create type ∨ type = .sms ∧
          ({ conman with sms := sms }.createConnection step.out type).2 = none) ∧
        conman.handle step = ({ conman with sms := sms }.createConnection step.out type).1 := by
  have destroys := destroyConnection_keeps property keeps.distinct keeps.gone
    keeps.forgotten
  have queues := fun conman =>
    processSmsQueue_keeps conman property keeps.sms destroys step.out
  cases step with
  | mk request out =>
    cases request with
    | create type => exact .inr ⟨type, conman.sms, holds, .inl rfl, rfl⟩
    | destroy connid => exact .inl (destroys conman connid holds)
    | configure cellular wifi => exact .inl (keeps.configures conman cellular wifi holds)
    | wifiScan => exact .inl (keeps.scans conman out holds)
    | level level =>
      left
      have reached := keeps.levels conman out level holds
      show property (conman.eventTargetLevel out level)
      unfold Manager.eventTargetLevel
      dsimp only
      split
      · exact queues _ reached
      · exact reached
    | failed => exact .inl (keeps.fails conman holds)
    | info type =>
      left
      show property (if conman.ub.isRequested type then conman.infoCallback out type else conman)
      split
      · have cleared := keeps.clears conman type holds
        unfold Manager.infoCallback
        dsimp only
        split
        · exact cleared
        · apply keeps.broadcasts
          exact queues _ (keeps.informs _ cleared)
      · exact holds
    | sendSms message =>
      rcases sendSms_cases property keeps.sms destroys out
        (fun conman connid holds => keeps.creates conman out connid holds) message conman holds
        with kept | ⟨sms, queued, failed, same⟩
      · exact .inl kept
      · exact .inr ⟨.sms, sms, queued, .inr ⟨rfl, failed⟩, same⟩
    | smsResult message =>
      left
      show property (if message ∈ conman.sms.inFlight then _ else conman)
      split
      · exact queues _ (keeps.sms _ _ holds)
      · exact holds

end Thingsee.Conman
