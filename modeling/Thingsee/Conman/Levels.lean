import Thingsee.Conman.Counters

/-!
Owns that the level asked of the modem covers what its connections need: in every state
that is reached the modem was asked for the target level, which is enough for every live
connection that was created since a transition failed last, and is off when no connection
uses the modem.
-/

namespace Thingsee.Conman

open Support Manager

variable {M : Type} {connids : List Conn} {cellularRefcnt : Nat} {ub : Ub}

def ConnectionType.level : ConnectionType → FuncLevel
  | .cellular => .gprs
  | .sms => .network
  | _ => .poweredOff

def Status.isDown (status : Status) : Prop :=
  status = .off ∨ status = .failed ∨ status = .destroying

/-- The target level, given the list of connections and the counter of the modem. -/
structure Levels (connids : List Conn) (cellularRefcnt : Nat) (ub : Ub) : Prop where
  requested : ub.requestedLevel = ub.targetLevel
  needed : ∀ conn ∈ connids, conn.destroyed = false → ub.createdAtFailure ≤ conn.serial →
    conn.type.level.value ≤ ub.targetLevel.value
  unused : cellularRefcnt = 0 → ub.targetLevel = .poweredOff
  down : ub.status.isDown → ub.targetLevel = .poweredOff

theorem Levels.sublist {after : List Conn} {before : Nat} (levels : Levels connids before ub)
    (listed : ∀ conn ∈ after, conn.destroyed = false → conn ∈ connids)
    (unused : cellularRefcnt = 0 → before = 0 ∨ ub.targetLevel = .poweredOff) :
    Levels after cellularRefcnt ub where
  requested := levels.requested
  needed conn found alive recent := levels.needed conn (listed conn found alive) alive recent
  unused none := (unused none).elim levels.unused id
  down := levels.down

theorem Levels.powerOff
    (needless : ∀ conn ∈ connids, conn.destroyed = false → ub.createdAtFailure ≤ conn.serial →
      conn.type.level.value ≤ FuncLevel.poweredOff.value) :
    Levels connids cellularRefcnt ub.powerOff where
  requested := rfl
  needed := needless
  unused _ := rfl
  down _ := rfl

theorem Levels.same {other : Ub} (levels : Levels connids cellularRefcnt ub)
    (target : other.targetLevel = ub.targetLevel)
    (requested : other.requestedLevel = ub.requestedLevel ∨ other.requestedLevel = ub.targetLevel)
    (failure : other.createdAtFailure = ub.createdAtFailure)
    (down : other.status.isDown → ub.status.isDown) : Levels connids cellularRefcnt other where
  requested := by
    rw [target]
    exact requested.elim (fun same => same.trans levels.requested) id
  needed conn found alive recent := by
    rw [target]
    exact levels.needed conn found alive (failure ▸ recent)
  unused none := target.trans (levels.unused none)
  down isDown := target.trans (levels.down (down isDown))

theorem Ub.requestInfos_same (out : Outcomes M) (level : FuncLevel) (ub : Ub) :
    (ub.requestInfos out level).targetLevel = ub.targetLevel ∧
      (ub.requestInfos out level).requestedLevel = ub.requestedLevel ∧
      (ub.requestInfos out level).createdAtFailure = ub.createdAtFailure ∧
      (ub.requestInfos out level).status = ub.status := by
  unfold Ub.requestInfos
  split <;> exact ⟨rfl, rfl, rfl, rfl⟩

theorem Levels.levelReached (levels : Levels connids cellularRefcnt ub) (out : Outcomes M)
    (level : FuncLevel) : Levels connids cellularRefcnt (ub.levelReached out level) := by
  have same := Ub.requestInfos_same out level { ub with reachedLevel := some level }
  have asked : Levels connids cellularRefcnt
      ({ ub with reachedLevel := some level }.requestInfos out level) :=
    levels.same same.1 (.inl same.2.1) same.2.2.1 fun isDown => same.2.2.2 ▸ isDown
  have whileDown : ∀ ub : Ub, Levels connids cellularRefcnt ub → ub.status.isDown →
      Levels connids cellularRefcnt (ub.reachedWhileDown level) := by
    intro ub levels isDown
    have off := levels.down isDown
    unfold Ub.reachedWhileDown
    split
    · apply Levels.powerOff
      intro conn found alive recent
      rw [← off]
      exact levels.needed conn found alive recent
    · exact levels.same rfl (.inl rfl) rfl fun _ => isDown
  have whileUp : ∀ ub : Ub, Levels connids cellularRefcnt ub →
      Levels connids cellularRefcnt (ub.reachedWhileUp level) := by
    intro ub levels
    unfold Ub.reachedWhileUp
    split
    · exact levels.same rfl (.inr rfl) rfl nofun
    · split <;> exact levels.same rfl (.inl rfl) rfl nofun
  unfold Ub.levelReached
  dsimp only
  split
  case h_1 failed => exact whileDown _ asked (.inr (.inl failed))
  case h_2 off => exact whileDown _ asked (.inl off)
  case h_3 destroying => exact whileDown _ asked (.inr (.inr destroying))
  case h_4 | h_5 => exact whileUp _ asked

theorem ConnectionType.level_of_not_cellular {type : ConnectionType}
    (other : type.isCellular = false) : type.level = .poweredOff := by
  cases type <;> first | rfl | cases other

theorem level_of_live_eq_zero (none : live ConnectionType.isCellular connids = 0) :
    ∀ conn ∈ connids, conn.destroyed = false →
      conn.type.level.value ≤ FuncLevel.poweredOff.value := by
  intro conn found alive
  have other := List.countP_eq_zero.mp none conn found
  have notCellular : conn.type.isCellular = false := by simpa [alive] using other
  exact Nat.le_of_eq (congrArg FuncLevel.value
    (ConnectionType.level_of_not_cellular notCellular))

theorem Manager.gone_levels {conman : Manager M} (sound : conman.connections.Sound)
    (levels : Levels conman.connections.connids conman.connections.cellularRefcnt conman.ub)
    {conn : Conn} {after : List Conn} (without : Without conn conman.connections.connids after) :
    let gone := { conman with connections := { conman.connections with
      connids := after } }.doDestroyConnection conn
    Levels gone.connections.connids gone.connections.cellularRefcnt gone.ub := by
  have listed := fun other found alive => (without.others other found alive).1
  have count := without.count ConnectionType.isCellular
  have counted := sound.cellular
  dsimp only
  rw [doDestroyConnection_connids]
  rcases gone_cases sound without with ⟨own, notWifi, used, gone⟩ | ⟨own, other, _, gone⟩
  · rw [gone]
    dsimp only
    rw [if_pos own] at count
    have released : ({ conman with connections := { conman.connections with
        connids := after } }.doDestroyConnection conn).ub =
        if conman.connections.amountCellular ≠ 0 ∧ conman.connections.cellularRefcnt ≤ 1 ∧
          conman.ub.targetLevel ≠ .poweredOff then conman.ub.powerOff else conman.ub := by
      rw [doDestroyConnection_cases]
      cases type : conn.type with
      | cellular | sms =>
        rw [releaseCellular_ub]
      | none | data | wifi =>
        rw [type] at own
        cases own
    rw [released]
    split
    case isTrue last =>
      apply Levels.powerOff
      intro other found alive _
      exact level_of_live_eq_zero (by omega) other found alive
    case isFalse kept =>
      apply levels.sublist listed
      intro none
      right
      by_contra on
      have some : conman.connections.amountCellular ≠ 0 := by
        intro unconfigured
        rcases sound.configured conn without.member with ⟨_, some⟩ | ⟨wifi, _⟩
        · omega
        · rw [notWifi] at wifi
          cases wifi
      exact kept ⟨some, by omega, on⟩
  · rw [gone]
    have released : ({ conman with connections := { conman.connections with
        connids := after } }.doDestroyConnection conn).ub = conman.ub := by
      rw [doDestroyConnection_cases]
      cases type : conn.type with
      | cellular | sms =>
        rw [type] at other
        cases other
      | none | data | wifi => rfl
    rw [released]
    exact levels.sublist listed fun none => .inl none

theorem Creates.levels {out : Outcomes M} {type : ConnectionType} {conman : Manager M}
    {result : Manager M × Option Nat} (creates : Creates out type conman result)
    (sound : conman.connections.Sound)
    (levels : Levels conman.connections.connids conman.connections.cellularRefcnt conman.ub) :
    Levels result.1.connections.connids result.1.connections.cellularRefcnt result.1.ub := by
  have appended : ∀ (connids : List Conn) (got : ConnectionType) (connid created refcnt : Nat)
      (ub : Ub), Levels connids refcnt ub → got.level.value ≤ ub.targetLevel.value →
      Levels (connids ++ [⟨connid, got, false, created⟩]) refcnt ub := by
    intro connids got connid created refcnt ub levels enough
    refine ⟨levels.requested, ?_, levels.unused, levels.down⟩
    intro conn found alive recent
    rcases List.mem_append.mp found with listed | own
    · exact levels.needed conn listed alive recent
    · rw [List.mem_singleton.mp own]
      exact enough
  cases creates with
  | nothing _ => exact levels
  | wifi wanted configured running => exact appended _ _ _ _ _ _ levels (Nat.zero_le _)
  | cellular tried before _ configured got target wanted =>
    have same := before.same
    have own : got.level = target := by
      rcases wanted with ⟨_, rfl, rfl⟩ | ⟨_, rfl, rfl⟩ <;> rfl
    dsimp only
    rw [acquired_connections conman (same.1 ▸ configured), acquireCellular_ub]
    apply appended
    · rw [same.2.2.1, same.2.2.2.2.1]
      split
      case isTrue raised =>
        refine ⟨rfl, ?_, nofun, ?_⟩
        · intro conn found alive recent
          rcases raised.2 with unused | lower
          · have none := sound.cellular.symm.trans unused
            exact Nat.le_trans (level_of_live_eq_zero none conn found alive) (Nat.zero_le _)
          · exact Nat.le_trans (levels.needed conn found alive recent) (Nat.le_of_lt lower)
        · rintro (down | down | down) <;> cases down
      case isFalse => exact ⟨levels.requested, levels.needed, nofun, levels.down⟩
    · rw [own, same.1, same.2.2.2.2.1]
      split
      case isTrue => exact Nat.le_refl _
      case isFalse high => exact Nat.le_of_not_lt fun lower => high ⟨by omega, .inr lower⟩
  | failed tried before _ =>
    rw [before.same.2.2.1, before.same.2.2.2.2.1]
    exact levels

theorem keeps_levels : Keeps fun conman : Manager M => conman.connections.Sound ∧
    Levels conman.connections.connids conman.connections.cellularRefcnt conman.ub where
  sms _ _ holds := holds
  distinct _ holds := holds.1.distinct
  gone _ _ _ holds without :=
    ⟨gone_sound holds.1 without, gone_levels holds.1 holds.2 without⟩
  forgotten _ _ _ holds found destroyed :=
    ⟨(holds.1.remove found destroyed).1, holds.2.sublist
      (fun _ listed _ => List.eraseP_sublist.subset listed) fun none => .inl none⟩
  configures _ _ _ holds := ⟨holds.1.configure _ _, holds.2⟩
  scans conman out holds := by
    refine ⟨(holds.1.wifiScan out).1, ?_⟩
    have same : (conman.connections.wifiScan out).connids = conman.connections.connids ∧
        (conman.connections.wifiScan out).cellularRefcnt =
          conman.connections.cellularRefcnt := by
      unfold Connections.wifiScan
      split
      · split <;> exact ⟨rfl, rfl⟩
      · exact ⟨rfl, rfl⟩
    rw [same.1, same.2]
    exact holds.2
  creates conman out _ holds _ :=
    have creates := createConnection_creates out .sms conman
    ⟨creates.sound holds.1, creates.levels holds.1 holds.2⟩
  levels _ out level holds := ⟨holds.1, holds.2.levelReached out level⟩
  fails conman holds := by
    refine ⟨holds.1, rfl, ?_, fun _ => rfl, fun _ => rfl⟩
    intro conn found _ recent
    exact absurd recent (Nat.not_le_of_lt (holds.1.bounded conn found))
  clears conman type holds := by
    refine ⟨holds.1, ?_⟩
    cases type <;> exact holds.2.same rfl (.inl rfl) rfl id
  informs conman holds := by
    refine ⟨holds.1, holds.2.same rfl (.inl rfl) rfl ?_⟩
    rintro (down | down | down) <;> cases down
  broadcasts _ _ holds := ⟨holds.1, holds.2.same rfl (.inl rfl) rfl id⟩

theorem Manager.step_levels [DecidableEq M] (conman : Manager M) (step : Step M)
    (holds : conman.connections.Sound ∧
      Levels conman.connections.connids conman.connections.cellularRefcnt conman.ub) :
    (conman.step step).connections.Sound ∧
      Levels (conman.step step).connections.connids (conman.step step).connections.cellularRefcnt
        (conman.step step).ub := by
  have cleared : Levels conman.connections.connids conman.connections.cellularRefcnt
      conman.clear.ub := holds.2.same rfl (.inl rfl) rfl id
  rcases keeps_levels.handle_cases step conman.clear ⟨holds.1, cleared⟩
    with kept | ⟨type, sms, kept, _, same⟩
  · exact kept
  · unfold Manager.step
    rw [same]
    have creates := createConnection_creates step.out type { conman.clear with sms := sms }
    exact ⟨creates.sound kept.1, creates.levels kept.1 kept.2⟩

/-- The target level is asked of the modem, covers every live connection that was created
since a transition failed last, and is off where no connection uses the modem. -/
structure Manager.Covered (conman : Manager M) : Prop where
  requested : conman.ub.requestedLevel = conman.ub.targetLevel
  gprs : ∀ conn ∈ conman.connections.connids, conn.destroyed = false → conn.type = .cellular →
    conman.ub.createdAtFailure ≤ conn.serial →
    FuncLevel.gprs.value ≤ conman.ub.targetLevel.value
  network : ∀ conn ∈ conman.connections.connids, conn.destroyed = false → conn.type = .sms →
    conman.ub.createdAtFailure ≤ conn.serial →
    FuncLevel.network.value ≤ conman.ub.targetLevel.value
  unused : conman.connections.cellularRefcnt = 0 → conman.ub.targetLevel = .poweredOff
  destroying : conman.ub.status = .destroying → conman.ub.targetLevel = .poweredOff

/-- The level of the modem covers its connections in every state that is reached. -/
theorem level_covers_connections [DecidableEq M] (steps : List (Step M)) :
    (steps.foldl Manager.step (Manager.initial M)).Covered := by
  have start : (Manager.initial M).connections.Sound ∧
      Levels (Manager.initial M).connections.connids
        (Manager.initial M).connections.cellularRefcnt (Manager.initial M).ub :=
    ⟨initial_sound, rfl, nofun, fun _ => rfl, fun _ => rfl⟩
  have levels := (foldl_invariant_of_keeps (fun conman : Manager M => conman.connections.Sound ∧
    Levels conman.connections.connids conman.connections.cellularRefcnt conman.ub)
    step_levels steps start).2
  refine ⟨levels.requested, ?_, ?_, levels.unused, ?_⟩
  · intro conn found alive type recent
    have needed := levels.needed conn found alive recent
    rw [type] at needed
    exact needed
  · intro conn found alive type recent
    have needed := levels.needed conn found alive recent
    rw [type] at needed
    exact needed
  · exact fun destroying => levels.down (.inr (.inr destroying))

end Thingsee.Conman
