import Thingsee.Conman.Effects
import Thingsee.Support.Runs

/-!
Owns that the reference counters of the radios are the numbers of their connections. The
counter of the modem always is. The counter of WiFi stays one too high after a connection
for which no thread could be started, and from then on a connection can succeed without a
thread: the counters are right in all of a run exactly if that never happens in it.
-/

namespace Thingsee.Conman

open Support List Manager

variable {M : Type}
  {connections : Connections} {out : Outcomes M} {conman : Manager M} {type : ConnectionType}
  {conn : Conn} {result : Manager M × Option Nat} {after : List Conn}

def ConnectionType.isCellular (type : ConnectionType) : Bool := type == .cellular || type == .sms

def ConnectionType.isWifi (type : ConnectionType) : Bool := type == .wifi

/-- The identifier of the connection that is created after `serial` others. -/
def connidOf (serial : Nat) : Nat := serial % connidMax + connidMin

theorem connidOf_valid (serial : Nat) :
    connidOf serial ≠ connidClear ∧ connidOf serial ≠ connidAll := by
  unfold connidOf connidMin connidClear connidMax connidAll
  omega

theorem connidOf_succ (serial : Nat) :
    connidOf (serial + 1) =
      if connidMax < connidOf serial + 1 ∨ connidOf serial + 1 < connidMin then connidMin
      else connidOf serial + 1 := by
  unfold connidOf connidMin connidClear connidMax connidAll
  split <;> omega

theorem connidOf_ne {first second : Nat} (lower : first < second)
    (near : second < first + connidMax) : connidOf first ≠ connidOf second := by
  unfold connidOf connidMin connidClear
  unfold connidMax connidAll at *
  omega

/-- The list and the counters in every state that is reached, whatever fails. -/
structure Connections.Sound (connections : Connections) : Prop where
  next : connections.connidNext = connidOf connections.created
  ordered : (connections.connids.map Conn.serial).Pairwise (· < ·)
  bounded : ∀ conn ∈ connections.connids, conn.serial < connections.created
  named : ∀ conn ∈ connections.connids, conn.connid = connidOf conn.serial
  configured : ∀ conn ∈ connections.connids,
    conn.type.isCellular = true ∧ 0 < connections.amountCellular ∨
      conn.type.isWifi = true ∧ 0 < connections.amountWifi
  cellular : connections.cellularRefcnt = live ConnectionType.isCellular connections.connids
  wifi : live ConnectionType.isWifi connections.connids ≤ connections.wifiRefcnt
  idle : connections.wifiRefcnt = 0 → connections.wifi ≠ some .connecting
  once : connections.released.Nodup
  past : ∀ serial ∈ connections.released, serial < connections.created
  given : ∀ conn ∈ connections.connids, conn.serial ∈ connections.released →
    conn.destroyed = true

theorem Connections.Sound.distinct (sound : connections.Sound) :
    (connections.connids.map Conn.serial).Nodup :=
  sound.ordered.imp Nat.ne_of_lt

/-- The counter of WiFi is right, and a thread is there where it is not 0. -/
structure Connections.WifiCounted (connections : Connections) : Prop where
  exact : connections.wifiRefcnt = live ConnectionType.isWifi connections.connids
  thread : 0 < connections.wifiRefcnt → connections.wifi = some .connecting

variable {wifi : Option WifiThread} {cellularRefcnt wifiRefcnt : Nat}

theorem Connections.Sound.without (sound : connections.Sound)
    (without : Without conn connections.connids after)
    (cellular : cellularRefcnt = live ConnectionType.isCellular after)
    (counted : live ConnectionType.isWifi after ≤ wifiRefcnt)
    (idle : wifiRefcnt = 0 → wifi ≠ some .connecting) :
    Connections.Sound { connections with
      connids := after, cellularRefcnt := cellularRefcnt, wifiRefcnt := wifiRefcnt,
      wifi := wifi, released := connections.released ++ [conn.serial] } := by
  have unreleased : conn.serial ∉ connections.released := by
    intro released
    have destroyed := sound.given conn without.member released
    rw [without.wasLive] at destroyed
    cases destroyed
  constructor
  case next => exact sound.next
  case ordered => exact sound.ordered.sublist without.serials
  case bounded =>
    intro other found
    obtain ⟨same, listed, _, _, serial, _⟩ := without.listed other found
    exact serial ▸ sound.bounded same listed
  case named =>
    intro other found
    obtain ⟨same, listed, connid, _, serial, _⟩ := without.listed other found
    rw [← connid, ← serial]
    exact sound.named same listed
  case configured =>
    intro other found
    obtain ⟨same, listed, _, type, _, _⟩ := without.listed other found
    exact type ▸ sound.configured same listed
  case cellular => exact cellular
  case wifi => exact counted
  case idle => exact idle
  case once =>
    refine nodup_append.mpr ⟨sound.once, by simp, ?_⟩
    intro serial released other own same
    rw [mem_singleton.mp own] at same
    exact unreleased (same ▸ released)
  case past =>
    intro serial found
    rcases mem_append.mp found with released | own
    · exact sound.past serial released
    · rw [mem_singleton.mp own]
      exact sound.bounded conn without.member
  case given =>
    intro other found released
    rcases mem_append.mp released with before | own
    · obtain ⟨same, listed, _, _, serial, destroyed⟩ := without.listed other found
      exact destroyed (sound.given same listed (serial ▸ before))
    · by_contra alive
      have different := (without.others other found (by simpa using alive)).2
      exact different (mem_singleton.mp own)

theorem live_pos {connids : List Conn} {type : ConnectionType → Bool} (member : conn ∈ connids)
    (alive : conn.destroyed = false) (own : type conn.type = true) : 0 < live type connids := by
  unfold live
  rw [countP_pos_iff]
  exact ⟨conn, member, by simp [alive, own]⟩

theorem Manager.gone_cases (sound : conman.connections.Sound)
    (without : Without conn conman.connections.connids after) :
    let gone := ({ conman with connections := { conman.connections with
      connids := after } }.doDestroyConnection conn).connections
    (conn.type.isCellular = true ∧ conn.type.isWifi = false ∧
      0 < conman.connections.cellularRefcnt ∧
      gone = { conman.connections with
        connids := after, cellularRefcnt := conman.connections.cellularRefcnt - 1,
        released := conman.connections.released ++ [conn.serial] }) ∨
    (conn.type.isWifi = true ∧ conn.type.isCellular = false ∧
      0 < conman.connections.wifiRefcnt ∧
      gone = { conman.connections with
        connids := after, wifiRefcnt := conman.connections.wifiRefcnt - 1,
        wifi := if 1 < conman.connections.wifiRefcnt then conman.connections.wifi else none,
        released := conman.connections.released ++ [conn.serial] }) := by
  rw [doDestroyConnection_cases]
  have configured := sound.configured conn without.member
  have cellular : conn.type.isCellular = true → 0 < conman.connections.cellularRefcnt := by
    intro own
    rw [sound.cellular]
    exact live_pos without.member without.wasLive own
  have wifi : conn.type.isWifi = true → 0 < conman.connections.wifiRefcnt := by
    intro own
    exact Nat.lt_of_lt_of_le (live_pos without.member without.wasLive own) sound.wifi
  cases type : conn.type with
  | none | data =>
    rw [type] at configured
    rcases configured with ⟨own, _⟩ | ⟨own, _⟩ <;> cases own
  | cellular | sms =>
    left
    have used := cellular (by rw [type]; rfl)
    have some : 0 < conman.connections.amountCellular := by
      rw [type] at configured
      rcases configured with ⟨_, some⟩ | ⟨own, _⟩
      · exact some
      · cases own
    refine ⟨rfl, rfl, used, ?_⟩
    rw [releaseCellular_connections]
    exact if_neg (by dsimp only; omega)
  | wifi =>
    right
    have used := wifi (by rw [type]; rfl)
    have some : 0 < conman.connections.amountWifi := by
      rw [type] at configured
      rcases configured with ⟨own, _⟩ | ⟨_, some⟩
      · cases own
      · exact some
    refine ⟨rfl, rfl, used, ?_⟩
    rw [Connections.releaseWifi_eq]
    dsimp only
    rw [if_neg (by omega), decrement, if_neg (by omega)]
    by_cases more : 1 < conman.connections.wifiRefcnt
    · rw [if_pos more, if_pos (by omega)]
    · rw [if_neg more, if_neg (by omega)]

theorem Manager.gone_sound (sound : conman.connections.Sound)
    (without : Without conn conman.connections.connids after) :
    ({ conman with connections := { conman.connections with
      connids := after } }.doDestroyConnection conn).connections.Sound := by
  have cellular := without.count ConnectionType.isCellular
  have wifi := without.count ConnectionType.isWifi
  have counted := sound.cellular
  have enough := sound.wifi
  rcases gone_cases sound without with ⟨own, other, used, gone⟩ | ⟨own, other, used, gone⟩
  · rw [gone]
    rw [if_pos own] at cellular
    rw [if_neg (by simp [other])] at wifi
    exact sound.without without (by omega) (by omega) sound.idle
  · rw [gone]
    rw [if_neg (by simp [other])] at cellular
    rw [if_pos own] at wifi
    refine sound.without without (by omega) (by omega) ?_
    intro last
    rw [if_neg (by omega)]
    exact nofun

theorem Manager.gone_wifiCounted (sound : conman.connections.Sound)
    (counted : conman.connections.WifiCounted)
    (without : Without conn conman.connections.connids after) :
    ({ conman with connections := { conman.connections with
      connids := after } }.doDestroyConnection conn).connections.WifiCounted := by
  have wifi := without.count ConnectionType.isWifi
  have exact := counted.exact
  rcases gone_cases sound without with ⟨own, other, used, gone⟩ | ⟨own, other, used, gone⟩
  · rw [gone]
    rw [if_neg (by simp [other])] at wifi
    exact ⟨by dsimp only; omega, counted.thread⟩
  · rw [gone]
    rw [if_pos own] at wifi
    refine ⟨by dsimp only; omega, ?_⟩
    dsimp only
    intro more
    rw [if_pos (by omega)]
    exact counted.thread used

theorem Connections.Sound.remove (sound : connections.Sound) {connid : Nat}
    (found : connections.connids.find? (fun conn => conn.connid == connid) = some conn)
    (destroyed : conn.destroyed = true) :
    (connections.remove connid).Sound ∧
      ∀ type, live type (connections.remove connid).connids = live type connections.connids := by
  have sublist : (connections.remove connid).connids.Sublist connections.connids :=
    eraseP_sublist
  have same : ∀ type,
      live type (connections.remove connid).connids = live type connections.connids := by
    intro type
    obtain ⟨matching, front, back, split, earlier⟩ := List.find?_eq_some_iff_append.mp found
    unfold live Connections.remove
    rw [split, eraseP_append_right _ (by simpa using earlier),
      eraseP_cons_of_pos (by simpa using matching), countP_append, countP_append,
      countP_cons]
    simp [destroyed]
  refine ⟨?_, same⟩
  constructor
  case next => exact sound.next
  case ordered => exact sound.ordered.sublist (sublist.map _)
  case bounded => exact fun other listed => sound.bounded other (sublist.subset listed)
  case named => exact fun other listed => sound.named other (sublist.subset listed)
  case configured => exact fun other listed => sound.configured other (sublist.subset listed)
  case cellular => exact sound.cellular.trans (same _).symm
  case wifi => exact Nat.le_trans (Nat.le_of_eq (same _)) sound.wifi
  case idle => exact sound.idle
  case once => exact sound.once
  case past => exact sound.past
  case given => exact fun other listed => sound.given other (sublist.subset listed)

theorem live_append (type : ConnectionType → Bool) (connids : List Conn) (connid : Nat)
    (got : ConnectionType) (serial : Nat) :
    live type (connids ++ [⟨connid, got, false, serial⟩]) =
      live type connids + (if type got then 1 else 0) := by
  unfold live
  rw [countP_append, countP_singleton]
  simp

theorem Connections.Sound.add (sound : connections.Sound) (got : ConnectionType)
    (configured : got.isCellular = true ∧ 0 < connections.amountCellular ∨ got.isWifi = true ∧ 0 <
      connections.amountWifi)
    (cellular : cellularRefcnt = connections.cellularRefcnt + (if got.isCellular then 1 else 0))
    (counted : live ConnectionType.isWifi connections.connids +
      (if got.isWifi then 1 else 0) ≤ wifiRefcnt)
    (idle : wifiRefcnt = 0 → wifi ≠ some .connecting) :
    Connections.Sound (Connections.add got { connections with
      cellularRefcnt := cellularRefcnt, wifiRefcnt := wifiRefcnt, wifi := wifi }) := by
  unfold Connections.add
  constructor
  case next =>
    dsimp only
    rw [sound.next, ← connidOf_succ]
  case ordered =>
    rw [map_append, pairwise_append]
    refine ⟨sound.ordered, pairwise_singleton .., ?_⟩
    intro serial listed new own
    obtain ⟨conn, found, rfl⟩ := mem_map.mp listed
    rw [map_singleton, mem_singleton] at own
    rw [own]
    exact sound.bounded conn found
  case bounded =>
    intro conn found
    rcases mem_append.mp found with listed | own
    · exact Nat.lt_succ_of_lt (sound.bounded conn listed)
    · rw [mem_singleton.mp own]
      exact Nat.lt_succ_self _
  case named =>
    intro conn found
    rcases mem_append.mp found with listed | own
    · exact sound.named conn listed
    · rw [mem_singleton.mp own]
      exact sound.next
  case configured =>
    intro conn found
    rcases mem_append.mp found with listed | own
    · exact sound.configured conn listed
    · rw [mem_singleton.mp own]
      exact configured
  case cellular =>
    rw [live_append, cellular, sound.cellular]
  case wifi =>
    rw [live_append]
    exact counted
  case idle => exact idle
  case once => exact sound.once
  case past => exact fun serial found => Nat.lt_succ_of_lt (sound.past serial found)
  case given =>
    intro conn found released
    rcases mem_append.mp found with listed | own
    · exact sound.given conn listed released
    · rw [mem_singleton.mp own] at released
      exact absurd (sound.past _ released) (Nat.lt_irrefl _)

theorem TriedWifi.sound {before after : Connections} (tried : TriedWifi out type before after)
    (sound : before.Sound) : after.Sound := by
  cases tried with
  | unchanged _ => exact sound
  | failed thread _ _ _ unused _ _ =>
    have none := unused ▸ sound.wifi
    exact ⟨sound.next, sound.ordered, sound.bounded, sound.named, sound.configured,
      sound.cellular, by dsimp only; omega, nofun, sound.once, sound.past, sound.given⟩

theorem Manager.acquired_connections (conman : Manager M) {tried : Connections}
    (configured : 0 < tried.amountCellular) (target : FuncLevel) :
    ({ conman with connections := tried }.acquireCellular target).1.connections =
      { tried with cellularRefcnt := tried.cellularRefcnt + 1 } := by
  rw [acquireCellular_connections]
  exact if_neg (Nat.pos_iff_ne_zero.mp configured)

section

variable (creates : Creates out type conman result)
include creates

theorem Creates.sound (sound : conman.connections.Sound) : result.1.connections.Sound := by
  cases creates with
  | nothing _ => exact sound
  | wifi wanted configured running =>
    have enough := sound.wifi
    apply sound.add .wifi (.inr ⟨rfl, configured⟩)
    · rfl
    · exact Nat.add_le_add_right enough 1
    · exact nofun
  | cellular tried before _ configured got target wanted =>
    have sound := before.sound sound
    have own : got.isCellular = true ∧ got.isWifi = false := by
      rcases wanted with ⟨_, rfl, _⟩ | ⟨_, rfl, _⟩ <;> exact ⟨rfl, rfl⟩
    have some : 0 < tried.amountCellular := before.same.1 ▸ configured
    dsimp only
    rw [acquired_connections conman some]
    apply sound.add got (.inl ⟨own.1, some⟩)
    · rw [if_pos own.1]
    · rw [if_neg (by simp [own.2])]
      exact sound.wifi
    · exact sound.idle
  | failed tried before _ => exact before.sound sound

theorem Creates.wifiCounted (counted : conman.connections.WifiCounted)
    (starts : ∀ tried, TriedWifi out type conman.connections tried → tried = conman.connections) :
    result.1.connections.WifiCounted := by
  cases creates with
  | nothing _ => exact counted
  | wifi wanted configured running =>
    constructor
    · show conman.connections.wifiRefcnt + 1 = live ConnectionType.isWifi (_ ++ [_])
      rw [live_append, counted.exact]
      rfl
    · intro _
      show (if 0 < conman.connections.wifiRefcnt then conman.connections.wifi
        else some .connecting) = some .connecting
      split
      case isTrue used => exact counted.thread used
      case isFalse => rfl
  | cellular tried before _ configured got target wanted =>
    have notWifi : got.isWifi = false := by
      rcases wanted with ⟨_, rfl, _⟩ | ⟨_, rfl, _⟩ <;> rfl
    have same := starts tried before
    subst same
    dsimp only
    rw [acquired_connections conman configured]
    constructor
    · show conman.connections.wifiRefcnt = live ConnectionType.isWifi (_ ++ [_])
      rw [live_append, counted.exact, if_neg (by simp [notWifi])]
      rfl
    · exact counted.thread
  | failed tried before _ =>
    have same := starts tried before
    subst same
    exact counted

theorem Creates.failedCreate (none : conman.failedCreate = none)
    (starts : ∀ tried, TriedWifi out type conman.connections tried → tried = conman.connections) :
    (result.2 = .none → result.1.connections = conman.connections ∧
      result.1.failedCreate = some conman.connections) ∧
    (result.2 ≠ .none → result.1.failedCreate = .none) := by
  cases creates with
  | nothing _ => exact ⟨nofun, fun _ => none⟩
  | wifi wanted configured running => exact ⟨nofun, fun _ => none⟩
  | cellular tried before _ configured got target wanted =>
    exact ⟨nofun, fun _ => (acquireCellular_others target _).2.trans none⟩
  | failed tried before _ =>
    exact ⟨fun _ => ⟨starts tried before, rfl⟩, fun created => absurd rfl created⟩

end

theorem Manager.doDestroyConnection_failedCreate (conn : Conn) (conman : Manager M) :
    (conman.doDestroyConnection conn).failedCreate = conman.failedCreate := by
  rw [doDestroyConnection_cases]
  cases conn.type with
  | cellular | sms => exact (releaseCellular_others _).2
  | wifi | none | data => rfl

theorem Connections.Sound.configure (sound : connections.Sound) (cellular wifi : Nat) :
    Connections.Sound { connections with
      amountCellular := connections.amountCellular + cellular,
      amountWifi := connections.amountWifi + wifi } := by
  refine ⟨sound.next, sound.ordered, sound.bounded, sound.named, ?_, sound.cellular, sound.wifi,
    sound.idle, sound.once, sound.past, sound.given⟩
  intro conn listed
  rcases sound.configured conn listed with ⟨own, some⟩ | ⟨own, some⟩
  · exact .inl ⟨own, Nat.add_pos_left some _⟩
  · exact .inr ⟨own, Nat.add_pos_left some _⟩

theorem Connections.Sound.wifiScan (sound : connections.Sound) (out : Outcomes M) :
    (connections.wifiScan out).Sound ∧
      (connections.WifiCounted → (connections.wifiScan out).WifiCounted) := by
  unfold Connections.wifiScan
  split
  case isTrue stopped =>
    split
    case isTrue =>
      refine ⟨⟨sound.next, sound.ordered, sound.bounded, sound.named, sound.configured,
        sound.cellular, sound.wifi, nofun, sound.once, sound.past, sound.given⟩, ?_⟩
      intro counted
      refine ⟨counted.exact, ?_⟩
      intro used
      have connecting := counted.thread used
      rw [stopped] at connecting
      cases connecting
    case isFalse => exact ⟨sound, id⟩
  case isFalse => exact ⟨sound, id⟩

theorem keeps_sound : Keeps fun conman : Manager M => conman.connections.Sound where
  sms _ _ sound := sound
  distinct _ sound := sound.distinct
  gone _ _ _ sound without := gone_sound sound without
  forgotten _ _ _ sound found destroyed := (sound.remove found destroyed).1
  configures _ _ _ sound := sound.configure _ _
  scans _ out sound := (sound.wifiScan out).1
  creates conman out _ sound _ := (createConnection_creates out .sms conman).sound sound
  levels _ _ _ sound := sound
  fails _ sound := sound
  clears _ _ sound := sound
  informs _ sound := sound
  broadcasts _ _ sound := sound

theorem Manager.step_sound [DecidableEq M] (conman : Manager M) (step : Step M)
    (sound : conman.connections.Sound) : (conman.step step).connections.Sound := by
  rcases keeps_sound.handle_cases step conman.clear sound with sound | ⟨type, sms, sound, _, same⟩
  · exact sound
  · unfold Manager.step
    rw [same]
    exact (createConnection_creates ..).sound sound

/-- The counters and the list of connections are right, and a request that failed in the last
step left them alone. -/
structure Manager.Counted (conman : Manager M) : Prop where
  cellular : conman.connections.cellularRefcnt =
    live ConnectionType.isCellular conman.connections.connids
  wifi : conman.connections.wifiRefcnt = live ConnectionType.isWifi conman.connections.connids
  thread : 0 < conman.connections.wifiRefcnt → conman.connections.wifi = some .connecting
  identifiers : ∀ conn ∈ conman.connections.connids,
    conn.connid ≠ connidClear ∧ conn.connid ≠ connidAll
  distinct : (∀ conn ∈ conman.connections.connids,
      conman.connections.created ≤ conn.serial + connidMax) →
    (conman.connections.connids.map Conn.connid).Nodup
  failed : ∀ before, conman.failedCreate = some before →
    conman.connections.cellularRefcnt = before.cellularRefcnt ∧
      conman.connections.wifiRefcnt = before.wifiRefcnt ∧
      conman.connections.connids = before.connids
  released : conman.connections.released.Nodup

/-- Where a request wants WiFi that is not used yet, a thread starts. -/
def StartsWifi (conman : Manager M) (step : Step M) : Prop :=
  ∀ type, step.request = .create type → type = .wifi ∨ type = .data →
    step.out.allocated = true → 0 < conman.connections.amountWifi →
    conman.connections.wifiRefcnt = 0 → step.out.wifiStarts = true

theorem Connections.Sound.identifiers (sound : connections.Sound)
    (recent : ∀ conn ∈ connections.connids, connections.created ≤ conn.serial + connidMax) :
    (connections.connids.map Conn.connid).Nodup := by
  have ordered := pairwise_map.mp sound.ordered
  refine pairwise_map.mpr (ordered.imp_of_mem ?_)
  intro first second listed later less
  rw [sound.named first listed, sound.named second later]
  have near := recent first listed
  have bound := sound.bounded second later
  exact connidOf_ne less (by omega)

theorem Manager.counted_of_wifiCounted (sound : conman.connections.Sound)
    (counted : conman.connections.WifiCounted)
    (failed : ∀ before, conman.failedCreate = some before → conman.connections = before) :
    conman.Counted := by
  refine ⟨sound.cellular, counted.exact, counted.thread, ?_, sound.identifiers, ?_, sound.once⟩
  · intro conn listed
    rw [sound.named conn listed]
    exact connidOf_valid conn.serial
  · intro before same
    rw [failed before same]
    exact ⟨rfl, rfl, rfl⟩

theorem TriedWifi.of_sms {before after : Connections} (tried : TriedWifi out .sms before after) :
    after = before := by
  cases tried with
  | unchanged _ => rfl
  | failed _ wanted _ _ _ _ _ => rcases wanted with wanted | wanted <;> cases wanted

theorem keeps_wifiCounted : Keeps fun conman : Manager M =>
  (conman.connections.Sound ∧ conman.connections.WifiCounted) ∧ conman.failedCreate = none where
  sms _ _ holds := holds
  distinct _ holds := holds.1.1.distinct
  gone _ _ _ holds without :=
    ⟨⟨gone_sound holds.1.1 without, gone_wifiCounted holds.1.1 holds.1.2 without⟩,
      (doDestroyConnection_failedCreate _ _).trans holds.2⟩
  forgotten _ _ _ holds found destroyed :=
    have removed := holds.1.1.remove found destroyed
    ⟨⟨removed.1, holds.1.2.exact.trans (removed.2 _).symm, holds.1.2.thread⟩, holds.2⟩
  configures _ _ _ holds :=
    ⟨⟨holds.1.1.configure _ _, holds.1.2.exact, holds.1.2.thread⟩, holds.2⟩
  scans _ out holds :=
    have scanned := holds.1.1.wifiScan out
    ⟨⟨scanned.1, scanned.2 holds.1.2⟩, holds.2⟩
  creates conman out _ holds created :=
    have creates := createConnection_creates out .sms conman
    have starts := fun _ tried => TriedWifi.of_sms tried
    ⟨⟨creates.sound holds.1.1, creates.wifiCounted holds.1.2 starts⟩,
      (creates.failedCreate holds.2 starts).2 (by rw [created]; exact nofun)⟩
  levels _ _ _ holds := holds
  fails _ holds := holds
  clears _ _ holds := holds
  informs _ holds := holds
  broadcasts _ _ holds := holds

/-- A step that starts Wi-Fi for its connections keeps the counters exact. -/
theorem Manager.step_counted [DecidableEq M] (conman : Manager M) (step : Step M)
    (sound : conman.connections.Sound) (counted : conman.connections.WifiCounted)
    (starts : StartsWifi conman step) : (conman.step step).Counted := by
  have cases := keeps_wifiCounted.handle_cases step conman.clear ⟨⟨sound, counted⟩, rfl⟩
  unfold Manager.step
  rcases cases with ⟨⟨sound, counted⟩, none⟩ | ⟨type, sms, ⟨⟨sound, counted⟩, none⟩, request, same⟩
  · exact counted_of_wifiCounted sound counted fun before same =>
    absurd (none.symm.trans same) nofun
  · have all : ∀ tried, TriedWifi step.out type conman.connections tried →
        tried = conman.connections := by
      intro tried before
      rcases request with asked | ⟨rfl, _⟩
      · cases before with
        | unchanged _ => rfl
        | failed _ wanted allocated configured unused notStarted _ =>
          rcases notStarted with connecting | notStarted
          · exact absurd connecting (sound.idle unused)
          · rw [starts type asked wanted allocated configured unused] at notStarted
            cases notStarted
      · exact before.of_sms
    have creates := createConnection_creates step.out type
      { conman.clear with sms := sms }
    rw [same]
    refine counted_of_wifiCounted (creates.sound sound) (creates.wifiCounted counted all) ?_
    have failed := creates.failedCreate none all
    intro before recorded
    by_cases refused :
        (Manager.createConnection step.out type { conman.clear with sms := sms }).2 = .none
    · have left := failed.1 refused
      rw [left.1]
      exact Option.some.inj (left.2.symm.trans recorded)
    · exact absurd ((failed.2 refused).symm.trans recorded) nofun

theorem Manager.startsWifi_of_counted [DecidableEq M] (conman : Manager M) (step : Step M)
    (sound : conman.connections.Sound) (next : (conman.step step).Counted) :
    StartsWifi conman step := by
  intro type asked wanted allocated configured unused
  by_contra notStarted
  have none : live ConnectionType.isWifi conman.connections.connids = 0 :=
    Nat.eq_zero_of_le_zero (unused ▸ sound.wifi)
  have wifi := next.wifi
  have creates := createConnection_creates step.out type
    conman.clear
  have failed : ∀ tried, TriedWifi step.out type conman.connections tried →
      tried.wifiRefcnt = 1 ∧ tried.connids = conman.connections.connids := by
    intro tried before
    cases before with
    | unchanged untried => rw [untried wanted allocated] at configured; cases configured
    | failed _ _ _ _ _ _ _ => exact ⟨rfl, rfl⟩
  unfold Manager.step Manager.handle at wifi
  rw [asked] at wifi
  dsimp only at wifi
  revert wifi
  generalize Manager.createConnection step.out type
    conman.clear = result at creates
  intro wifi
  cases creates with
  | nothing nothing =>
    rcases wanted with wanted | wanted <;> rw [nothing] at wanted <;> cases wanted
  | wifi _ _ running =>
    rcases running with used | starts
    · exact absurd unused (Nat.pos_iff_ne_zero.mp used)
    · exact notStarted starts
  | cellular tried before _ some got target own =>
    have moved := failed tried before
    have notWifi : got.isWifi = false := by
      rcases own with ⟨_, rfl, _⟩ | ⟨_, rfl, _⟩ <;> rfl
    dsimp only at wifi
    rw [acquired_connections conman.clear (before.same.1 ▸ some)] at wifi
    have wifi : tried.wifiRefcnt = live ConnectionType.isWifi (tried.connids ++ [_]) := wifi
    rw [live_append, moved.1, moved.2, none, if_neg (by simp [notWifi])] at wifi
    cases wifi
  | failed tried before _ =>
    have moved := failed tried before
    rw [moved.1, moved.2, none] at wifi
    cases wifi

theorem initial_sound : (Manager.initial M).connections.Sound :=
  ⟨rfl, .nil, nofun, nofun, nofun, rfl, Nat.le_refl _, nofun, .nil, nofun, nofun⟩

/-- The counters are right in every state of a run exactly if in none of its steps a WiFi
thread fails to start for a connection. -/
theorem counters_are_exact [DecidableEq M] (steps : List (Step M)) :
    (∀ reached, reached <+: steps →
      (reached.foldl Manager.step (Manager.initial M)).Counted) ↔
      Guarded Manager.step StartsWifi (Manager.initial M) steps := by
  apply forall_prefix_iff_guarded (fun conman => conman.connections.Sound) Manager.Counted
  · exact fun conman step sound => step_sound conman step sound
  · intro conman step sound counted
    constructor
    · exact startsWifi_of_counted conman step sound
    · exact step_counted conman step sound ⟨counted.wifi, counted.thread⟩
  · exact initial_sound
  · exact counted_of_wifiCounted initial_sound ⟨rfl, nofun⟩ nofun

/-- A WiFi connection for which no thread starts, and another one. -/
def failedStart : List (Step Unit) :=
  [⟨.configure 0 1, ⟨true, true, false, fun _ => false, fun _ => false⟩⟩,
    ⟨.create .wifi, ⟨true, true, false, fun _ => false, fun _ => false⟩⟩]

/-- The failed request leaves the counter at 1, with no connection. -/
theorem failed_start_is_counted :
    ¬ (failedStart.foldl Manager.step (Manager.initial Unit)).Counted := by
  intro counted
  exact absurd counted.wifi (by decide)

end Thingsee.Conman
