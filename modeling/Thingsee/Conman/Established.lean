import Thingsee.Conman.Levels

/-!
Owns the status ESTABLISHED of the cellular connection: whether the modem is then at the
level that is asked of it, whether clients are told when the status is reached, and which
event they get when a transition fails. Three slips stand against it: a reply with
information establishes a connection whatever the status is; a level that is reached
establishes one without telling anybody when no information is outstanding; and
`establishing_lost` survives a new request and is lost when the modem misses its level
twice. The statements hold in all of a run exactly if none of its steps runs into them.
-/

namespace Thingsee.Conman

open Support List Manager

variable {M : Type}

def Entry.establishes : Entry → Bool
  | .status before after _ _ => before != .established && after == .established
  | .broadcast _ => false

@[simp] theorem Entry.establishes_destroying (before : Status) (target : FuncLevel)
    (reached : Option FuncLevel) :
    Entry.establishes (.status before .destroying target reached) = false :=
  Bool.and_false _

@[simp] theorem Entry.establishes_broadcast (event : ConmanEvent) :
    Entry.establishes (.broadcast event) = false := rfl

def Entry.announces : Entry → Bool
  | .broadcast .connectionEstablished => true
  | _ => false

/-- The clients are told that a connection failed or was lost. -/
def Entry.isFailure : Entry → Bool
  | .broadcast .connectionRequestFailed => true
  | .broadcast .lostConnection => true
  | _ => false

/-- Where the status is set to established, the target level is reached. -/
def Entry.Truthful : Entry → Prop
  | .status _ after target reached =>
    after = .established → target ≠ .poweredOff ∧ reached = some target
  | .broadcast _ => True

/-- The status changed to established at most once in a step, and one event says so. -/
def Announced (log : List Entry) : Prop :=
  log.countP Entry.establishes ≠ 0 →
    log.countP Entry.establishes = 1 ∧ log.countP Entry.announces = 1

/-- The status established is true and was announced, and a transition that fails now is
reported once, and as lost exactly if the connection was established since it was asked for. -/
structure Manager.Truthful (conman : Manager M) : Prop where
  established : conman.ub.status = .established →
    conman.ub.targetLevel ≠ .poweredOff ∧ conman.ub.reachedLevel = some conman.ub.targetLevel
  entries : ∀ entry ∈ conman.ub.log, entry.Truthful
  announced : Announced conman.ub.log
  failure : conman.ub.targetLevel ≠ .poweredOff →
    conman.ub.status = .establishing ∨ conman.ub.status = .established →
    conman.clear.eventFailedTargetLevel.ub.log.filter Entry.isFailure =
      [.broadcast (if conman.ub.establishedSince then .lostConnection
        else .connectionRequestFailed)]

def Connections.wifiAnswers (out : Outcomes M) (connections : Connections) : Prop :=
  0 < connections.amountWifi ∧ (0 < connections.wifiRefcnt ∨ out.wifiStarts = true)

def ConnectionType.asked (type : ConnectionType) : FuncLevel :=
  if type = .sms then .network else .gprs

/-- A request for a connection starts the modem, or raises its level. -/
def Manager.AsksModem (out : Outcomes M) (type : ConnectionType) (conman : Manager M) : Prop :=
  out.allocated = true ∧ 0 < conman.connections.amountCellular ∧
    (type = .cellular ∨ type = .sms ∨
      type = .data ∧ ¬ conman.connections.wifiAnswers out) ∧
    (conman.connections.cellularRefcnt = 0 ∨
      conman.ub.targetLevel.value < type.asked.value)

/-- Information is outstanding, once what was not asked for yet is asked for. -/
def Ub.awaits (out : Outcomes M) (ub : Ub) : Bool :=
  ub.pending || !ub.infoRequested &&
    (out.getInfo .imei || out.getInfo .imsi || out.getInfo .udopn || out.getInfo .mccMnc)

/-- A step that runs into none of the slips. -/
def Punctual (conman : Manager M) (step : Step M) : Prop :=
  match step.request with
  | .create type => conman.AsksModem step.out type → conman.ub.establishingLost = false
  | .sendSms _ =>
    step.out.messageAllocated = true → conman.sms.connectionRequested = false →
      conman.AsksModem step.out .sms → conman.ub.establishingLost = false
  | .level level =>
    (conman.ub.status = .establishing → level ≠ conman.ub.targetLevel →
      conman.ub.establishingLost = false) ∧
    (conman.ub.status = .establishing → level = conman.ub.targetLevel →
      conman.ub.awaits step.out = true) ∧
    (conman.ub.status = .established → level = conman.ub.targetLevel →
      conman.ub.awaits step.out = false)
  | .info type =>
    conman.ub.isRequested type = true → (conman.ub.clearRequested type).pending = false →
      conman.ub.targetLevel ≠ .poweredOff ∧
        conman.ub.reachedLevel = some conman.ub.targetLevel
  | _ => True

/-- The modem's part as it was, or powered off by the last connection that is given up. -/
def Ub.Lowered (before after : Ub) : Prop :=
  after = before ∨ after = before.powerOff

variable {conman : Manager M}

theorem lowered_gone {ub : Ub} (lowered : ub.Lowered conman.ub) (conn : Conn)
    (connections : Connections) :
    ub.Lowered ({ conman with connections := connections }.doDestroyConnection conn).ub := by
  rcases doDestroyConnection_ub { conman with connections := connections } conn
    with same | ⟨on, off⟩
  · rw [same]
    exact lowered
  · rw [off]
    rcases lowered with same | down
    · exact .inr (congrArg Ub.powerOff same)
    · refine absurd ?_ on
      rw [down]
      rfl

theorem Manager.destroyConnection_lowered (conman : Manager M) (connid : Nat)
    (sound : conman.connections.Sound) :
    conman.ub.Lowered (conman.destroyConnection connid).ub := by
  have kept := destroyConnection_keeps
    (fun other : Manager M => other.connections.Sound ∧ conman.ub.Lowered other.ub)
    (fun _ holds => holds.1.distinct)
    (fun _ conn _ holds without =>
      ⟨gone_sound holds.1 without, lowered_gone holds.2 conn _⟩)
    (fun _ _ _ holds found destroyed => ⟨(holds.1.remove found destroyed).1, holds.2⟩)
    conman connid ⟨sound, .inl rfl⟩
  exact kept.2

variable (out : Outcomes M)

theorem Manager.processSmsQueue_lowered (conman : Manager M) (sound : conman.connections.Sound) :
    conman.ub.Lowered (conman.processSmsQueue out).ub := by
  have destroys := destroyConnection_keeps
    (fun other : Manager M => other.connections.Sound ∧ conman.ub.Lowered other.ub)
    (fun _ holds => holds.1.distinct)
    (fun _ conn _ holds without =>
      ⟨gone_sound holds.1 without, lowered_gone holds.2 conn _⟩)
    (fun _ _ _ holds found destroyed => ⟨(holds.1.remove found destroyed).1, holds.2⟩)
  exact (processSmsQueue_keeps conman _ (fun _ _ holds => holds) destroys out
    ⟨sound, .inl rfl⟩).2

/-- A creation asks the modem for its level or leaves the modem alone. -/
theorem Creates.ub {out : Outcomes M} {type : ConnectionType} {result : Manager M × Option Nat}
    (creates : Creates out type conman result) (sound : conman.connections.Sound) :
    conman.AsksModem out type ∧ result.1.ub = conman.ub.establish type.asked ∨
      ¬ conman.AsksModem out type ∧ result.1.ub = conman.ub := by
  cases creates with
  | nothing wanted =>
    refine .inr ⟨?_, rfl⟩
    rintro ⟨_, _, types, _⟩
    rcases types with type | type | ⟨type, _⟩ <;> rw [wanted] at type <;> cases type
  | wifi wanted configured running =>
    refine .inr ⟨?_, rfl⟩
    rintro ⟨_, _, types, _⟩
    rcases types with type | type | ⟨_, silent⟩
    · rcases wanted with wanted | wanted <;> rw [wanted] at type <;> cases type
    · rcases wanted with wanted | wanted <;> rw [wanted] at type <;> cases type
    · exact silent ⟨configured, running⟩
  | cellular tried before allocated configured got target wanted =>
    have same := before.same
    have asked : type.asked = target := by
      rcases wanted with ⟨rfl | rfl, _, rfl⟩ | ⟨rfl, _, rfl⟩ <;> rfl
    have types : type = .cellular ∨ type = .sms ∨
        type = .data ∧ ¬ conman.connections.wifiAnswers out := by
      rcases wanted with ⟨rfl | rfl, _, _⟩ | ⟨rfl, _, _⟩
      · exact .inl rfl
      · refine .inr (.inr ⟨rfl, ?_⟩)
        rintro ⟨some, running⟩
        cases before with
        | unchanged untried => exact absurd (untried (.inr rfl) allocated) (by omega)
        | failed _ _ _ _ unused notStarted _ =>
          rcases notStarted with connecting | notStarted
          · exact sound.idle unused connecting
          · rcases running with used | starts
            · omega
            · rw [notStarted] at starts
              cases starts
      · exact .inr (.inl rfl)
    rw [acquireCellular_ub]
    rw [same.1, same.2.2.2.2.1, asked]
    split
    case isTrue raised =>
      exact .inl ⟨⟨allocated, configured, types, by rw [asked]; exact raised.2⟩, rfl⟩
    case isFalse kept =>
      refine .inr ⟨?_, rfl⟩
      rintro ⟨_, _, _, raised⟩
      exact kept ⟨by omega, by rw [← asked]; exact raised⟩
  | failed tried before refused =>
    refine .inr ⟨?_, rfl⟩
    rintro ⟨allocated, configured, types, _⟩
    rcases refused allocated with wanted | none
    · rcases types with type | type | ⟨type, _⟩ <;> rw [wanted] at type <;> cases type
    · omega

inductive UbStep (conman : Manager M) : Step M → Ub → Prop where
  | lowered (request : Request M) (out : Outcomes M) (ub : Ub)
      (quiet : ∀ level type, request ≠ .level level ∧ request ≠ .failed ∧ request ≠ .info type)
      (kept : ∀ type, request = .create type → ¬ conman.AsksModem out type)
      (unsent : ∀ message, request = .sendSms message → out.messageAllocated = true →
        conman.sms.connectionRequested = false → ¬ conman.AsksModem out .sms)
      (after : conman.clear.ub.Lowered ub) : UbStep conman ⟨request, out⟩ ub
  | asked (request : Request M) (out : Outcomes M) (type : ConnectionType)
      (asks : conman.AsksModem out type)
      (wanted : request = .create type ∨ (∃ message, request = .sendSms message) ∧
        type = .sms ∧ out.messageAllocated = true ∧ conman.sms.connectionRequested = false) :
      UbStep conman ⟨request, out⟩ (conman.clear.ub.establish type.asked)
  | level (level : FuncLevel) (out : Outcomes M) (ub : Ub)
      (after : (conman.clear.ub.levelReached out level).Lowered ub)
      (unsent : (conman.clear.ub.levelReached out level).status ≠ .established →
        ub = conman.clear.ub.levelReached out level) :
      UbStep conman ⟨.level level, out⟩ ub
  | failed (out : Outcomes M) :
      UbStep conman ⟨.failed, out⟩ conman.clear.eventFailedTargetLevel.ub
  | unasked (type : InfoType) (out : Outcomes M) (no : conman.ub.isRequested type = false) :
      UbStep conman ⟨.info type, out⟩ conman.clear.ub
  | cleared (type : InfoType) (out : Outcomes M)
      (pending : (conman.ub.clearRequested type).pending = true) :
      UbStep conman ⟨.info type, out⟩ (conman.clear.ub.clearRequested type)
  | informed (type : InfoType) (out : Outcomes M) (ub : Ub)
      (requested : conman.ub.isRequested type = true)
      (complete : (conman.ub.clearRequested type).pending = false)
      (after : (conman.clear.ub.clearRequested type).informed.Lowered ub) :
      UbStep conman ⟨.info type, out⟩ (ub.broadcast .connectionEstablished)

theorem Manager.startSms_lowered (conman : Manager M) (sound : conman.connections.Sound) :
    conman.ub.Lowered (conman.startSms out).ub := by
  unfold Manager.startSms
  split
  · exact processSmsQueue_lowered out conman sound
  · exact .inl rfl

theorem Manager.startSms_of_not_established (conman : Manager M)
    (down : conman.ub.status ≠ .established) : conman.startSms out = conman := by
  exact if_neg fun both => down both.1

theorem Manager.sendSms_ub (message : M) (conman : Manager M) (sound : conman.connections.Sound) :
    (out.messageAllocated = true ∧ conman.sms.connectionRequested = false ∧
      conman.AsksModem out .sms ∧ (conman.sendSms out message).ub = conman.ub.establish .network) ∨
    ((out.messageAllocated = true → conman.sms.connectionRequested = false →
      ¬ conman.AsksModem out .sms) ∧ conman.ub.Lowered (conman.sendSms out message).ub) := by
  unfold Manager.sendSms
  by_cases allocated : out.messageAllocated = true
  · rw [if_pos allocated]
    dsimp only
    by_cases requested : conman.sms.connectionRequested = true
    · rw [if_pos requested]
      refine .inr ⟨fun _ no => absurd (requested.symm.trans no) nofun, ?_⟩
      exact startSms_lowered out _ sound
    · have unrequested : conman.sms.connectionRequested = false := by simpa using requested
      rw [if_neg requested]
      generalize queued : ({ conman with sms := { conman.sms with
        queue := conman.sms.queue ++ [message],
        queued := conman.sms.queued ++ [message] } } : Manager M) = queue
      have ub : queue.ub = conman.ub := by rw [← queued]
      have connections : queue.connections = conman.connections := by rw [← queued]
      have creates := createConnection_creates out .sms queue
      have soundQueue : queue.connections.Sound := connections ▸ sound
      have soundAfter := creates.sound soundQueue
      rcases creates.ub soundQueue with ⟨asks, same⟩ | ⟨kept, same⟩
      · have started : ∀ (connid : Nat) (sms : Sms M), (Manager.startSms out
            { (queue.createConnection out .sms).1 with
              sms := { sms with connid := connid, connectionRequested := true } }).ub =
            conman.ub.establish .network := by
          intro connid sms
          rw [startSms_of_not_established]
          · exact same.trans (congrArg _ ub)
          · dsimp only
            rw [same]
            exact nofun
        refine .inl ⟨allocated, unrequested, ?_, ?_⟩
        · unfold Manager.AsksModem at asks ⊢
          rw [connections, ub] at asks
          exact asks
        · cases (queue.createConnection out .sms).2 with
          | some connid => exact started connid _
          | none => exact same.trans (congrArg _ ub)
      · refine .inr ⟨fun _ _ asks => kept ?_, ?_⟩
        · unfold Manager.AsksModem at asks ⊢
          rw [connections, ub]
          exact asks
        · rw [← ub, ← same]
          cases (queue.createConnection out .sms).2 with
          | some connid => exact startSms_lowered out _ soundAfter
          | none => exact .inl rfl
  · rw [if_neg allocated]
    exact .inr ⟨fun memory => absurd memory allocated, .inl rfl⟩

/-- What one step does to the modem side is one of the cases of `UbStep`. -/
theorem Manager.step_ub [DecidableEq M] (conman : Manager M) (step : Step M)
    (sound : conman.connections.Sound) : UbStep conman step (conman.step step).ub := by
  have cleared : conman.clear.connections.Sound := sound
  cases step with
  | mk request out =>
    cases request with
    | create type =>
      rcases (createConnection_creates out type conman.clear).ub cleared
        with ⟨asks, same⟩ | ⟨kept, same⟩
      · show UbStep conman _ (Manager.createConnection out type conman.clear).1.ub
        rw [same]
        exact .asked _ out type asks (.inl rfl)
      · refine .lowered _ out _ (fun _ _ => ⟨nofun, nofun, nofun⟩) ?_ nofun (.inl same)
        intro other wanted
        cases wanted
        exact kept
    | destroy connid =>
      exact .lowered _ out _ (fun _ _ => ⟨nofun, nofun, nofun⟩) nofun nofun
        (conman.clear.destroyConnection_lowered connid cleared)
    | configure cellular wifi | wifiScan =>
      exact .lowered _ out _ (fun _ _ => ⟨nofun, nofun, nofun⟩) nofun nofun (.inl rfl)
    | level level =>
      show UbStep conman _ (conman.clear.eventTargetLevel out level).ub
      unfold Manager.eventTargetLevel
      dsimp only
      split
      case isTrue established =>
        exact .level level out _ (processSmsQueue_lowered out _ cleared)
          fun other => absurd established other
      case isFalse => exact .level level out _ (.inl rfl) fun _ => rfl
    | failed => exact .failed out
    | info type =>
      have same : conman.clear.ub.isRequested type = conman.ub.isRequested type := by
        cases type <;> rfl
      show UbStep conman _ (if conman.clear.ub.isRequested type then
        conman.clear.infoCallback out type else conman.clear).ub
      rw [same]
      by_cases requested : conman.ub.isRequested type = true
      · rw [if_pos requested]
        unfold Manager.infoCallback
        dsimp only
        have same : (conman.clear.ub.clearRequested type).pending =
            (conman.ub.clearRequested type).pending := by
          cases type <;> rfl
        rw [same]
        by_cases pending : (conman.ub.clearRequested type).pending = true
        · rw [if_pos pending]
          exact .cleared type out pending
        · rw [if_neg pending]
          exact .informed type out _ requested (by simpa using pending)
            (processSmsQueue_lowered out _ cleared)
      · rw [if_neg requested]
        exact .unasked type out (by simpa using requested)
    | sendSms message =>
      show UbStep conman _ (conman.clear.sendSms out message).ub
      rcases sendSms_ub out message conman.clear cleared
        with ⟨allocated, unrequested, asks, same⟩ | ⟨kept, after⟩
      · rw [same]
        exact .asked _ out .sms asks (.inr ⟨⟨message, rfl⟩, rfl, allocated, unrequested⟩)
      · exact .lowered _ out _ (fun _ _ => ⟨nofun, nofun, nofun⟩) nofun
          (fun _ _ allocated unrequested => kept allocated unrequested) after
    | smsResult message =>
      refine .lowered _ out _ (fun _ _ => ⟨nofun, nofun, nofun⟩) nofun nofun ?_
      show conman.clear.ub.Lowered (if message ∈ conman.clear.sms.inFlight then _
        else conman.clear).ub
      split
      · exact processSmsQueue_lowered out _ cleared
      · exact .inl rfl

/-- The modem's part, where no step so far ran into a slip. -/
structure Ub.Good (ub : Ub) : Prop where
  on : ub.status = .establishing ∨ ub.status = .established → ub.targetLevel ≠ .poweredOff
  off : ub.status.isDown → ub.targetLevel = .poweredOff
  reached : ub.status = .established → ub.reachedLevel = some ub.targetLevel
  lost : ub.status = .establishing → ub.establishingLost = ub.establishedSince
  since : ub.status = .established → ub.establishedSince = true ∧ ub.establishingLost = false

structure Ub.LogGood (ub : Ub) : Prop where
  entries : ∀ entry ∈ ub.log, entry.Truthful
  announced : Announced ub.log

theorem Ub.Good.powerOff (ub : Ub) : ub.powerOff.Good where
  on up := by rcases up with up | up <;> cases up
  off _ := rfl
  reached up := by cases up
  lost up := by cases up
  since up := by cases up

theorem Ub.Good.lowered {before after : Ub} (good : before.Good) (lowered : before.Lowered after) :
    after.Good := by
  rcases lowered with rfl | rfl
  · exact good
  · exact Ub.Good.powerOff before

theorem Ub.LogGood.lowered {before after : Ub} (good : before.LogGood)
    (lowered : before.Lowered after) : after.LogGood := by
  rcases lowered with rfl | rfl
  · exact good
  · constructor
    · intro entry found
      rcases mem_append.mp found with logged | own
      · exact good.entries entry logged
      · rw [mem_singleton.mp own]
        exact nofun
    · unfold Announced
      show (before.log ++ [_]).countP _ ≠ 0 →
        (before.log ++ [_]).countP _ = 1 ∧ (before.log ++ [_]).countP _ = 1
      rw [countP_append, countP_append]
      have none : [Entry.status before.status .destroying before.targetLevel
          before.reachedLevel].countP Entry.establishes = 0 := by
        simp
      rw [none]
      exact good.announced

theorem failure_told (conman : Manager M) :
    conman.clear.eventFailedTargetLevel.ub.log.filter Entry.isFailure =
      if conman.ub.targetLevel ≠ .poweredOff then
        if (conman.ub.establishingLost = true ∧ conman.ub.status = .establishing) ∨
          conman.ub.status = .established then [.broadcast .lostConnection]
        else if conman.ub.status = .establishing then [.broadcast .connectionRequestFailed]
        else []
      else [] := by
  have told : conman.clear.eventFailedTargetLevel.ub.log =
      conman.clear.ub.broadcastFailure.log ++ [Entry.status conman.clear.ub.broadcastFailure.status
        .destroying conman.clear.ub.broadcastFailure.targetLevel
        conman.clear.ub.broadcastFailure.reachedLevel] := rfl
  rw [told, filter_append]
  show List.filter _ (if conman.ub.targetLevel ≠ .poweredOff then
    if (conman.ub.establishingLost = true ∧ conman.ub.status = .establishing) ∨
      conman.ub.status = .established then _
    else if conman.ub.status = .establishing then _ else _ else _ : Ub).log ++ _ = _
  split
  · split
    · rfl
    · split <;> rfl
  · rfl

theorem Ub.requestInfos_awaits {level : FuncLevel} (on : level ≠ .poweredOff) {ub : Ub}
    (up : ub.status ≠ .destroying) :
    (ub.requestInfos out level).infoRequested = true ∧
      (ub.requestInfos out level).pending = ub.awaits out := by
  unfold Ub.requestInfos Ub.awaits
  by_cases requested : ub.infoRequested = true
  · rw [if_neg (by simp [requested])]
    simp [requested]
  · rw [if_pos ⟨by simpa using requested, up, on⟩]
    simp only [Ub.pending, requested, Bool.not_false, Bool.true_and, true_and]
    cases ub.imeiRequested <;> cases ub.imsiRequested <;> cases ub.udopnRequested <;>
      cases ub.mccMncRequested <;> simp

variable (level : FuncLevel)

theorem Ub.requestInfos_rest (ub : Ub) :
    (ub.requestInfos out level).reachedLevel = ub.reachedLevel ∧
      (ub.requestInfos out level).establishingLost = ub.establishingLost ∧
      (ub.requestInfos out level).establishedSince = ub.establishedSince ∧
      (ub.requestInfos out level).log = ub.log := by
  unfold Ub.requestInfos
  split <;> exact ⟨rfl, rfl, rfl, rfl⟩

theorem Ub.levelReached_up {ub : Ub} (up : ub.status = .establishing ∨ ub.status = .established) :
    ub.levelReached out level =
      ({ ub with reachedLevel := some level }.requestInfos out level).reachedWhileUp level := by
  have same : ({ ub with reachedLevel := some level }.requestInfos out level).status = ub.status :=
    (Ub.requestInfos_same out level { ub with reachedLevel := some level }).2.2.2
  unfold Ub.levelReached
  dsimp only
  split
  case h_1 down | h_2 down | h_3 down =>
    rw [same] at down
    rcases up with up | up <;> rw [up] at down <;> cases down
  case h_4 | h_5 => rfl

/-! ## Reached levels -/

theorem Ub.levelReached_cases (out : Outcomes M) (level : FuncLevel) (ub : Ub)
    (up : ub.status = .establishing ∨ ub.status = .established)
    (on : ub.targetLevel ≠ .poweredOff) :
    let after := ub.levelReached out level
    after.targetLevel = ub.targetLevel ∧
    ((after.status = .establishing ∧ after.establishedSince = ub.establishedSince ∧
        after.log = ub.log ++ [.status ub.status .establishing ub.targetLevel (some level)] ∧
        (level ≠ ub.targetLevel ∧
            after.establishingLost = decide (ub.status = .established) ∨
          level = ub.targetLevel ∧ ub.awaits out = true ∧
            after.establishingLost = ub.establishingLost)) ∨
      (level = ub.targetLevel ∧ ub.awaits out = false ∧ after.status = .established ∧
        after.reachedLevel = some ub.targetLevel ∧ after.establishingLost = false ∧
        after.establishedSince = true ∧
        after.log = ub.log ++ [.status ub.status .established ub.targetLevel (some level)])) := by
  have same := Ub.requestInfos_same out level { ub with reachedLevel := some level }
  have rest := Ub.requestInfos_rest out level { ub with reachedLevel := some level }
  have awaits : level ≠ .poweredOff →
      ({ ub with reachedLevel := some level }.requestInfos out level).infoRequested = true ∧
        ({ ub with reachedLevel := some level }.requestInfos out level).pending =
          ub.awaits out := by
    intro reached
    refine Ub.requestInfos_awaits out reached ?_
    rcases up with up | up <;> (show ub.status ≠ .destroying; rw [up]; exact nofun)
  have established : ∀ flag, (flag || Status.establishing == Status.established) = flag := by
    intro flag
    cases flag <;> rfl
  rw [Ub.levelReached_up out level up]
  generalize { ub with reachedLevel := some level }.requestInfos out level = asked at *
  unfold Ub.reachedWhileUp
  by_cases missed : level ≠ asked.targetLevel
  · rw [if_pos missed]
    refine ⟨same.1, .inl ⟨rfl, ?_, ?_, .inl ⟨same.1 ▸ missed, ?_⟩⟩⟩
    · exact (established _).trans rest.2.2.1
    · show asked.log ++ [.status asked.status _ asked.targetLevel asked.reachedLevel] = _
      rw [rest.2.2.2, same.2.2.2, same.1, rest.1]
    · show decide (asked.status = _) = _
      rw [same.2.2.2]
  · have hit : level = asked.targetLevel := by simpa using missed
    have reached : level = ub.targetLevel := hit.trans same.1
    have waits := awaits (reached ▸ on)
    rw [if_neg missed, waits.1, waits.2]
    by_cases pending : ub.awaits out = true
    · rw [if_pos (.inr pending)]
      refine ⟨same.1, .inl ⟨rfl, ?_, ?_, .inr ⟨reached, pending, rest.2.1⟩⟩⟩
      · exact (established _).trans rest.2.2.1
      · show asked.log ++ [.status asked.status _ asked.targetLevel asked.reachedLevel] = _
        rw [rest.2.2.2, same.2.2.2, same.1, rest.1]
    · rw [if_neg (by simpa using pending)]
      refine ⟨same.1, .inr ⟨reached, by simpa using pending, rfl, ?_, rfl, ?_, ?_⟩⟩
      · exact rest.1.trans (congrArg some reached)
      · exact Bool.or_true _
      · show asked.log ++ [.status asked.status _ asked.targetLevel asked.reachedLevel] = _
        rw [rest.2.2.2, same.2.2.2, same.1, rest.1]

theorem Ub.levelReached_down (ub : Ub) (down : ub.status.isDown) :
    ub.levelReached out level =
      ({ ub with reachedLevel := some level }.requestInfos out level).reachedWhileDown level := by
  have same : ({ ub with reachedLevel := some level }.requestInfos out level).status = ub.status :=
    (Ub.requestInfos_same out level { ub with reachedLevel := some level }).2.2.2
  unfold Ub.levelReached
  dsimp only
  split
  case h_1 | h_2 | h_3 => rfl
  case h_4 up | h_5 up =>
    rw [same] at up
    rcases down with down | down | down <;> rw [up] at down <;> cases down

theorem Status.cases (status : Status) :
    status.isDown ∨ status = .establishing ∨ status = .established := by
  cases status
  case off => exact .inl (.inl rfl)
  case failed => exact .inl (.inr (.inl rfl))
  case destroying => exact .inl (.inr (.inr rfl))
  case establishing => exact .inr (.inl rfl)
  case established => exact .inr (.inr rfl)

theorem Ub.LogGood.single {ub : Ub} {before after : Status} {target : FuncLevel}
    {reached : Option FuncLevel} (log : ub.log = [.status before after target reached])
    (quiet : after = .established →
      before = .established ∧ target ≠ .poweredOff ∧ reached = some target) : ub.LogGood := by
  constructor
  · intro entry found
    rw [log] at found
    rw [mem_singleton.mp found]
    exact fun same => (quiet same).2
  · intro changed
    rw [log, countP_singleton] at changed
    refine absurd (if_neg ?_) changed
    intro establishes
    simp only [Entry.establishes, Bool.and_eq_true, bne_iff_ne, beq_iff_eq] at establishes
    exact establishes.1 (quiet establishes.2).1

theorem Ub.levelReached_good {out : Outcomes M} {level : FuncLevel} (good : conman.ub.Good)
    (punctual : Punctual conman ⟨.level level, out⟩) :
    (conman.clear.ub.levelReached out level).Good ∧
      (conman.clear.ub.levelReached out level).LogGood := by
  rcases conman.ub.status.cases with down | up
  · have off := good.off down
    rw [Ub.levelReached_down out level conman.clear.ub down]
    have same := Ub.requestInfos_same out level { conman.clear.ub with reachedLevel := some level }
    have rest := Ub.requestInfos_rest out level { conman.clear.ub with reachedLevel := some level }
    generalize { conman.clear.ub with reachedLevel := some level }.requestInfos out level = asked
      at *
    have log : asked.log = [] := rest.2.2.2
    have single : ∀ status : Status,
        asked.log ++ [.status asked.status status asked.targetLevel asked.reachedLevel] =
          [Entry.status asked.status status asked.targetLevel asked.reachedLevel] := by
      intro status
      rw [log, nil_append]
    unfold Ub.reachedWhileDown
    split
    · exact ⟨Ub.Good.powerOff _, .single (single .destroying) nofun⟩
    · refine ⟨⟨?_, fun _ => same.1.trans off, nofun, nofun, nofun⟩, .single (single .off) nofun⟩
      rintro (up | up) <;> cases up
  · have on := good.on up
    obtain ⟨target, ⟨status, since, log, lost⟩ |
      ⟨hit, awaits, status, reached, lost, since, log⟩⟩ :=
      Ub.levelReached_cases out level conman.clear.ub up on
    · refine ⟨⟨?_, ?_, ?_, ?_, ?_⟩, .single log nofun⟩
      · exact fun _ => by rw [target]; exact on
      · intro down
        rw [status] at down
        rcases down with down | down | down <;> cases down
      · intro established
        rw [status] at established
        cases established
      · intro _
        rw [since]
        rcases lost with ⟨missed, lost⟩ | ⟨hit, awaits, lost⟩
        · rw [lost]
          rcases up with establishing | established
          · have unlost : conman.ub.establishingLost = false := punctual.1 establishing missed
            have same := good.lost establishing
            show decide (conman.ub.status = .established) = conman.ub.establishedSince
            rw [← same, unlost, establishing]
            rfl
          · show decide (conman.ub.status = .established) = conman.ub.establishedSince
            rw [(good.since established).1, established]
            rfl
        · rw [lost]
          rcases up with establishing | established
          · exact good.lost establishing
          · have settled : conman.ub.awaits out = false := punctual.2.2 established hit
            exact absurd (awaits.symm.trans settled) nofun
      · intro established
        rw [status] at established
        cases established
    · refine ⟨⟨?_, ?_, ?_, ?_, ?_⟩, .single log ?_⟩
      · exact fun _ => by rw [target]; exact on
      · intro down
        rw [status] at down
        rcases down with down | down | down <;> cases down
      · exact fun _ => by rw [reached, target]
      · intro establishing
        rw [status] at establishing
        cases establishing
      · exact fun _ => ⟨since, lost⟩
      · intro _
        rcases up with establishing | established
        · have waiting : conman.ub.awaits out = true := punctual.2.1 establishing hit
          exact absurd (awaits.symm.trans waiting) nofun
        · exact ⟨established, on, congrArg some hit⟩

theorem Ub.Good.clear (good : conman.ub.Good) : conman.clear.ub.Good :=
  ⟨good.on, good.off, good.reached, good.lost, good.since⟩

theorem Manager.failed_good (conman : Manager M) :
    conman.clear.eventFailedTargetLevel.ub.Good ∧
      conman.clear.eventFailedTargetLevel.ub.LogGood := by
  have log : ∀ ub : Ub, ub.log = [] →
      ub.broadcastFailure.log = [] ∨ ∃ event, ub.broadcastFailure.log = [.broadcast event] := by
    intro ub empty
    have told : ∀ event, (ub.broadcast event).log = [.broadcast event] := by
      intro event
      show ub.log ++ [_] = _
      rw [empty, nil_append]
    unfold Ub.broadcastFailure
    split
    · split
      · exact .inr ⟨_, told _⟩
      · split
        · exact .inr ⟨_, told _⟩
        · exact .inl empty
    · exact .inl empty
  refine ⟨⟨?_, fun _ => rfl, nofun, nofun, nofun⟩, ?_, ?_⟩
  · rintro (up | up) <;> cases up
  · intro entry found
    rcases mem_append.mp found with told | own
    · rcases log conman.clear.ub rfl with none | ⟨event, one⟩
      · have told : entry ∈ conman.clear.ub.broadcastFailure.log := told
        rw [none] at told
        cases told
      · have told : entry ∈ conman.clear.ub.broadcastFailure.log := told
        rw [one] at told
        rw [mem_singleton.mp told]
        trivial
    · rw [mem_singleton.mp own]
      exact nofun
  · intro changed
    refine absurd ?_ changed
    show (conman.clear.ub.broadcastFailure.log ++ [_]).countP _ = 0
    rw [countP_append, countP_singleton]
    rcases log conman.clear.ub rfl with none | ⟨event, one⟩
    · rw [none]
      simp
    · rw [one, countP_singleton]
      simp

theorem Ub.informed_good (on : conman.ub.targetLevel ≠ .poweredOff)
    (reached : conman.ub.reachedLevel = some conman.ub.targetLevel) (type : InfoType) {ub : Ub}
    (after : (conman.clear.ub.clearRequested type).informed.Lowered ub) :
    (ub.broadcast .connectionEstablished).Good ∧
      (ub.broadcast .connectionEstablished).LogGood := by
  have same : (conman.clear.ub.clearRequested type).targetLevel = conman.ub.targetLevel ∧
      (conman.clear.ub.clearRequested type).reachedLevel = conman.ub.reachedLevel ∧
      (conman.clear.ub.clearRequested type).status = conman.ub.status ∧
      (conman.clear.ub.clearRequested type).log = [] := by
    cases type <;> exact ⟨rfl, rfl, rfl, rfl⟩
  generalize conman.clear.ub.clearRequested type = cleared at *
  have informed : cleared.informed.Good := by
    refine ⟨fun _ => ?_, ?_, fun _ => ?_, nofun, fun _ => ⟨Bool.or_true _, rfl⟩⟩
    · show cleared.targetLevel ≠ .poweredOff
      rw [same.1]
      exact on
    · rintro (down | down | down) <;> cases down
    · show cleared.reachedLevel = some cleared.targetLevel
      rw [same.1, same.2.1]
      exact reached
  have informedLog : cleared.informed.log =
      [.status conman.ub.status .established conman.ub.targetLevel
        (some conman.ub.targetLevel)] := by
    show cleared.log ++ [.status cleared.status _ cleared.targetLevel cleared.reachedLevel] = _
    rw [same.2.2.2, same.1, same.2.1, same.2.2.1, reached]
    rfl
  have settled := informed.lowered after
  refine ⟨⟨settled.on, settled.off, settled.reached, settled.lost, settled.since⟩, ?_, ?_⟩
  · intro entry found
    rcases mem_append.mp found with logged | own
    · rcases after with rfl | rfl
      · rw [informedLog] at logged
        rw [mem_singleton.mp logged]
        exact fun _ => ⟨on, rfl⟩
      · rcases mem_append.mp logged with logged | own
        · have logged : entry ∈ cleared.informed.log := logged
          rw [informedLog] at logged
          rw [mem_singleton.mp logged]
          exact fun _ => ⟨on, rfl⟩
        · rw [mem_singleton.mp own]
          exact nofun
    · rw [mem_singleton.mp own]
      trivial
  · intro changed
    have counted : (ub.broadcast .connectionEstablished).log.countP Entry.announces = 1 ∧
        (ub.broadcast .connectionEstablished).log.countP Entry.establishes ≤ 1 := by
      show (ub.log ++ [_]).countP _ = 1 ∧ (ub.log ++ [_]).countP _ ≤ 1
      rcases after with rfl | rfl
      · rw [informedLog]
        refine ⟨rfl, ?_⟩
        rw [countP_append, countP_singleton, countP_singleton]
        split <;> simp
      · show ((cleared.informed.log ++ [_]) ++ [_]).countP _ = 1 ∧
          ((cleared.informed.log ++ [_]) ++ [_]).countP _ ≤ 1
        rw [informedLog]
        refine ⟨rfl, ?_⟩
        rw [countP_append, countP_append, countP_singleton,
          countP_singleton, countP_singleton]
        split <;> simp
    exact ⟨by omega, counted.1⟩

/-- A punctual step keeps the status of the modem truthful. -/
theorem UbStep.good {step : Step M} {ub : Ub} (effect : UbStep conman step ub)
    (good : conman.ub.Good) (punctual : Punctual conman step) : ub.Good ∧ ub.LogGood := by
  have empty : conman.clear.ub.LogGood := ⟨nofun, fun changed => absurd rfl changed⟩
  cases effect with
  | lowered request out ub quiet kept unsent after =>
    exact ⟨good.clear.lowered after, empty.lowered after⟩
  | asked request out type asks wanted =>
    have unlost : conman.ub.establishingLost = false := by
      rcases wanted with rfl | ⟨⟨message, rfl⟩, rfl, allocated, unrequested⟩
      · exact punctual asks
      · exact punctual allocated unrequested asks
    have on : type.asked ≠ .poweredOff := by
      unfold ConnectionType.asked
      split <;> exact nofun
    refine ⟨⟨fun _ => on, ?_, nofun, fun _ => unlost, nofun⟩, .single rfl nofun⟩
    rintro (down | down | down) <;> cases down
  | level level out ub after unsent =>
    have reached := Ub.levelReached_good good punctual
    exact ⟨reached.1.lowered after, reached.2.lowered after⟩
  | failed out => exact conman.failed_good
  | unasked type out no => exact ⟨good.clear, empty⟩
  | cleared type out pending =>
    cases type <;> exact ⟨⟨good.on, good.off, good.reached, good.lost, good.since⟩,
      ⟨empty.entries, empty.announced⟩⟩
  | informed type out ub requested complete after =>
    have true := punctual requested complete
    exact Ub.informed_good true.1 true.2 type after

theorem Manager.Truthful.lost (truthful : conman.Truthful)
    (on : conman.ub.targetLevel ≠ .poweredOff) (up : conman.ub.status = .establishing) :
    conman.ub.establishingLost = conman.ub.establishedSince := by
  have failure := truthful.failure on (.inl up)
  rw [failure_told, if_pos on, up] at failure
  cases lost : conman.ub.establishingLost <;> cases since : conman.ub.establishedSince <;>
    simp [lost, since] at failure ⊢

/-- A step that leaves a truthful manager was punctual. -/
theorem UbStep.punctual {next : Manager M} {step : Step M} {ub : Ub}
    (effect : UbStep conman step ub) (good : conman.ub.Good) (after : next.ub = ub)
    (truthful : next.Truthful) : Punctual conman step := by
  cases effect with
  | lowered request out ub quiet kept unsent lowered =>
    cases request with
    | create type => exact fun asks => absurd asks (kept type rfl)
    | sendSms message =>
      exact fun allocated unrequested asks =>
        absurd asks (unsent message rfl allocated unrequested)
    | destroy | configure | wifiScan | smsResult => trivial
    | level level => exact absurd rfl (quiet level .imei).1
    | failed => exact absurd rfl (quiet .gprs .imei).2.1
    | info type => exact absurd rfl (quiet .gprs type).2.2
  | asked request out type asks wanted =>
    have on : type.asked ≠ .poweredOff := by
      unfold ConnectionType.asked
      split <;> exact nofun
    have lost := truthful.lost (by rw [after]; exact on) (by rw [after]; rfl)
    rw [after] at lost
    have unlost : conman.ub.establishingLost = false := lost
    rcases wanted with rfl | ⟨⟨message, rfl⟩, rfl, allocated, unrequested⟩
    · exact fun _ => unlost
    · exact fun _ _ _ => unlost
  | level level out ub lowered unsent =>
    have up : conman.ub.status = .establishing ∨ conman.ub.status = .established →
        Punctual conman ⟨.level level, out⟩ := by
      intro up
      have on := good.on up
      obtain ⟨target, ⟨status, since, log, lost⟩ |
        ⟨hit, awaits, status, reached, lost, since, log⟩⟩ :=
        Ub.levelReached_cases out level conman.clear.ub up on
      · have same := unsent (by rw [status]; exact nofun)
        have told := truthful.lost (by rw [after, same, target]; exact on)
          (by rw [after, same]; exact status)
        rw [after, same, since] at told
        rcases lost with ⟨missed, lost⟩ | ⟨hit, awaits, lost⟩
        · refine ⟨fun establishing _ => ?_, fun _ hit => absurd hit missed,
            fun _ hit => absurd hit missed⟩
          rw [good.lost establishing]
          rw [lost] at told
          have told : decide (conman.ub.status = .established) =
            conman.ub.establishedSince := told
          rw [← told, establishing]
          rfl
        · refine ⟨fun _ missed => absurd hit missed, fun _ _ => awaits, fun established _ => ?_⟩
          have settled := good.since established
          rw [lost] at told
          have told : conman.ub.establishingLost = conman.ub.establishedSince := told
          rw [settled.1, settled.2] at told
          cases told
      · refine ⟨fun _ missed => absurd hit missed, fun establishing _ => ?_, fun _ _ => awaits⟩
        have announced := truthful.announced
        have told : next.ub.log.countP Entry.establishes = 1 ∧
            next.ub.log.countP Entry.announces = 0 := by
          have before : conman.clear.ub.log = [] := rfl
          rw [after]
          rcases lowered with same | same
          · rw [same, log, before, nil_append, countP_singleton, countP_singleton,
              show conman.clear.ub.status = .establishing from establishing]
            exact ⟨rfl, rfl⟩
          · have log' : ub.log = (conman.clear.ub.levelReached out level).log ++ [.status
                (conman.clear.ub.levelReached out level).status .destroying
                (conman.clear.ub.levelReached out level).targetLevel
                (conman.clear.ub.levelReached out level).reachedLevel] := by
              rw [same]
              rfl
            rw [log', log, before, nil_append, countP_append, countP_append,
              countP_singleton, countP_singleton, countP_singleton,
              countP_singleton, Entry.establishes_destroying,
              show conman.clear.ub.status = .establishing from establishing]
            exact ⟨rfl, rfl⟩
        have silent := (announced (by rw [told.1]; exact nofun)).2
        rw [told.2] at silent
        cases silent
    rcases conman.ub.status.cases with down | isUp
    · refine ⟨?_, ?_, ?_⟩ <;>
        (intro status; rcases down with down | down | down <;> rw [status] at down <;> cases down)
    · exact up isUp
  | failed out => trivial
  | unasked type out no => exact fun requested => absurd (no.symm.trans requested) nofun
  | cleared type out pending => exact fun _ complete => absurd (complete.symm.trans pending) nofun
  | informed type out ub requested complete lowered =>
    intro _ _
    have same : (conman.clear.ub.clearRequested type).targetLevel = conman.ub.targetLevel ∧
        (conman.clear.ub.clearRequested type).reachedLevel = conman.ub.reachedLevel := by
      cases type <;> exact ⟨rfl, rfl⟩
    have logged : Entry.status (conman.clear.ub.clearRequested type).status .established
        (conman.clear.ub.clearRequested type).targetLevel
        (conman.clear.ub.clearRequested type).reachedLevel ∈ ub.log := by
      rcases lowered with rfl | rfl
      · exact mem_append_right _ (mem_singleton_self _)
      · exact mem_append_left _ (mem_append_right _ (mem_singleton_self _))
    have truth := truthful.entries (.status (conman.clear.ub.clearRequested type).status
      .established (conman.clear.ub.clearRequested type).targetLevel
      (conman.clear.ub.clearRequested type).reachedLevel)
      (by rw [after]; exact mem_append_left _ logged)
    have entry := truth rfl
    rw [same.1, same.2] at entry
    exact entry

theorem Manager.truthful_of_good (good : conman.ub.Good) (log : conman.ub.LogGood) :
    conman.Truthful := by
  refine ⟨fun established => ⟨good.on (.inr established), good.reached established⟩, log.entries,
    log.announced, ?_⟩
  intro on up
  rw [failure_told, if_pos on]
  rcases up with establishing | established
  · rw [establishing, ← good.lost establishing]
    cases conman.ub.establishingLost <;> rfl
  · rw [if_pos (.inr established), (good.since established).1]
    rfl

/-- In every state of a run the status established is true and was announced, and failures
are reported as they are, exactly if no step of the run runs into a slip. -/
theorem established_is_truthful [DecidableEq M] (steps : List (Step M)) :
    (∀ reached, reached <+: steps →
      (reached.foldl Manager.step (Manager.initial M)).Truthful) ↔
      Guarded Manager.step Punctual (Manager.initial M) steps := by
  apply forall_prefix_iff_guarded_of_good
    (fun conman => conman.connections.Sound ∧ conman.ub.Good ∧ conman.ub.LogGood)
    Manager.Truthful
  · exact fun conman good => truthful_of_good good.2.1 good.2.2
  · intro conman step good punctual
    have effect := conman.step_ub step good.1
    exact ⟨conman.step_sound step good.1, effect.good good.2.1 punctual⟩
  · intro conman step good truthful
    exact (conman.step_ub step good.1).punctual good.2.1 rfl truthful
  · refine ⟨initial_sound, ⟨?_, fun _ => rfl, nofun, nofun, nofun⟩, nofun, ?_⟩
    · rintro (up | up) <;> cases up
    · exact fun changed => absurd rfl changed

def willing : Outcomes Unit := ⟨true, true, true, fun _ => true, fun _ => true⟩

/-- A connection for short messages that is established, and raised to one for data. -/
def raisedConnection : List (Step Unit) :=
  [⟨.configure 1 0, willing⟩, ⟨.create .sms, willing⟩, ⟨.level .network, willing⟩,
    ⟨.info .imei, willing⟩, ⟨.info .imsi, willing⟩, ⟨.info .udopn, willing⟩,
    ⟨.info .mccMnc, willing⟩, ⟨.create .cellular, willing⟩, ⟨.level .gprs, willing⟩]

/-- The raised connection is established without telling anybody. -/
theorem raised_connection_is_silent :
    ¬ (raisedConnection.foldl Manager.step (Manager.initial Unit)).Truthful := by
  intro truthful
  exact absurd (truthful.announced (by decide)).2 (by decide)

end Thingsee.Conman
