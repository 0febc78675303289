import Thingsee.Conman.Established

/-!
Owns the queue of short messages: in which order they are handed to the modem, that at most
one is under way, and that the connection for them is held until the queue is empty. Of the
four places that process the queue only one asks whether a message is under way; a result
that comes while the connection is down leaves `sms_sending_active` set; and the connection
is not asked for again where it failed, was taken away or could not be created.
-/

namespace Thingsee.Conman

open Support Manager List

variable {M : Type} {out : Outcomes M} {conman : Manager M} {type : ConnectionType}
  {result : Manager M × Option Nat}

def Sms.Busy (sms : Sms M) : Prop := sms.queue ≠ [] ∨ sms.inFlight ≠ []

/-- Messages are handed over in order and once, one is under way at most and exactly while
sending is active, and the connection is held while there is a message. -/
structure Manager.SmsOrderly (conman : Manager M) : Prop where
  order : conman.sms.queued = conman.sms.handed ++ conman.sms.queue
  single : conman.sms.inFlight.length ≤ 1
  active : conman.sms.sendingActive = true ↔ conman.sms.inFlight ≠ []
  held : conman.sms.Busy → conman.sms.connectionRequested = true ∧
    (∃ conn ∈ conman.connections.connids,
      conn.connid = conman.sms.connid ∧ conn.destroyed = false) ∧
    FuncLevel.network.value ≤ conman.ub.targetLevel.value

/-- The target level is reached with nothing to wait for. -/
def Ub.Settles (out : Outcomes M) (level : FuncLevel) (ub : Ub) : Prop :=
  (ub.status = .establishing ∨ ub.status = .established) ∧ level = ub.targetLevel ∧
    (ub.requestInfos out level).infoRequested = true ∧
    (ub.requestInfos out level).pending = false

/-- A step that leaves a message under way alone. -/
def Undisturbed [DecidableEq M] (conman : Manager M) (step : Step M) : Prop :=
  match step.request with
  | .destroy connid =>
    conman.sms.Busy → connid ≠ connidAll ∧ connid ≠ conman.sms.connid
  | .level level => conman.ub.Settles step.out level → conman.sms.inFlight = []
  | .failed => ¬ conman.sms.Busy
  | .info type =>
    conman.ub.isRequested type = true → (conman.ub.clearRequested type).pending = false →
      conman.sms.inFlight = []
  | .sendSms _ =>
    step.out.messageAllocated = true → conman.sms.connectionRequested = false →
      step.out.allocated = true ∧ 0 < conman.connections.amountCellular
  | .smsResult message =>
    message ∈ conman.sms.inFlight → conman.ub.status = .established
  | _ => True

instance [DecidableEq M] (sms : Sms M) : Decidable sms.Busy :=
  inferInstanceAs (Decidable (_ ∨ _))

instance (out : Outcomes M) (level : FuncLevel) (ub : Ub) : Decidable (ub.Settles out level) :=
  inferInstanceAs (Decidable (_ ∧ _))

instance [DecidableEq M] (conman : Manager M) : (step : Step M) →
    Decidable (Undisturbed conman step)
  | ⟨.destroy connid, _⟩ => inferInstanceAs (Decidable
      (conman.sms.Busy → connid ≠ connidAll ∧ connid ≠ conman.sms.connid))
  | ⟨.level level, out⟩ => inferInstanceAs (Decidable
      (conman.ub.Settles out level → conman.sms.inFlight = []))
  | ⟨.failed, _⟩ => inferInstanceAs (Decidable (¬ conman.sms.Busy))
  | ⟨.info type, _⟩ => inferInstanceAs (Decidable
      (conman.ub.isRequested type = true → (conman.ub.clearRequested type).pending = false →
        conman.sms.inFlight = []))
  | ⟨.sendSms _, out⟩ => inferInstanceAs (Decidable
      (out.messageAllocated = true → conman.sms.connectionRequested = false →
        out.allocated = true ∧ 0 < conman.connections.amountCellular))
  | ⟨.smsResult message, _⟩ => inferInstanceAs (Decidable
      (message ∈ conman.sms.inFlight → conman.ub.status = .established))
  | ⟨.create _, _⟩ | ⟨.configure _ _, _⟩ | ⟨.wifiScan, _⟩ => isTrue trivial

/-- A connection that the modem needs the network for, since the last failure. -/
def Manager.SmsHeld (conman : Manager M) : Prop :=
  ∃ conn ∈ conman.connections.connids, conn.connid = conman.sms.connid ∧
    conn.destroyed = false ∧ conn.type = .sms ∧ conman.ub.createdAtFailure ≤ conn.serial

/-- What holds of the connections and the levels in every state. -/
structure Manager.Base (conman : Manager M) : Prop where
  sound : conman.connections.Sound
  levels : Levels conman.connections.connids conman.connections.cellularRefcnt conman.ub
  past : conman.ub.createdAtFailure ≤ conman.connections.created

structure Manager.SmsGood (conman : Manager M) : Prop where
  order : conman.sms.queued = conman.sms.handed ++ conman.sms.queue
  single : conman.sms.inFlight.length ≤ 1
  active : conman.sms.sendingActive = true ↔ conman.sms.inFlight ≠ []
  requested : conman.sms.connectionRequested = true ↔ conman.sms.Busy
  held : conman.sms.connectionRequested = true → conman.SmsHeld

theorem Ub.Lowered.createdAtFailure {before after : Ub} (lowered : before.Lowered after) :
    after.createdAtFailure = before.createdAtFailure := by
  rcases lowered with rfl | rfl <;> rfl

theorem Manager.doDestroyConnection_rest (conn : Conn) (conman : Manager M) :
    (conman.doDestroyConnection conn).sms = conman.sms ∧
      (conman.doDestroyConnection conn).connections.created = conman.connections.created := by
  rw [doDestroyConnection_cases]
  cases conn.type with
  | cellular | sms =>
    refine ⟨(releaseCellular_others _).1, ?_⟩
    rw [releaseCellular_connections]
    split <;> rfl
  | wifi =>
    refine ⟨rfl, ?_⟩
    dsimp only
    rw [Connections.releaseWifi_eq]
    split <;> rfl
  | none | data => exact ⟨rfl, rfl⟩

theorem Manager.destroyConnection_base (base : conman.Base) (connid : Nat) :
    (conman.destroyConnection connid).Base ∧
      (conman.destroyConnection connid).sms = conman.sms := by
  apply destroyConnection_keeps
    (fun other : Manager M => other.Base ∧ other.sms = conman.sms)
  · exact fun other holds => holds.1.sound.distinct
  · intro other conn after holds without
    have rest := doDestroyConnection_rest conn
      { other with connections := { other.connections with connids := after } }
    refine ⟨⟨gone_sound holds.1.sound without,
      gone_levels holds.1.sound holds.1.levels without, ?_⟩, rest.1.trans holds.2⟩
    have lowered : other.ub.Lowered _ := lowered_gone (.inl rfl) conn
      { other.connections with connids := after }
    rw [rest.2, lowered.createdAtFailure]
    exact holds.1.past
  · intro other connid conn holds found destroyed
    refine ⟨⟨(holds.1.sound.remove found destroyed).1, ?_, holds.1.past⟩, holds.2⟩
    exact holds.1.levels.sublist (fun _ listed _ => eraseP_sublist.subset listed)
      fun none => .inl none
  · exact ⟨base, rfl⟩

theorem Manager.SmsHeld.destroyConnection (held : conman.SmsHeld) (base : conman.Base)
    {connid : Nat} (notAll : connid ≠ connidAll) (other : connid ≠ conman.sms.connid) :
    (conman.destroyConnection connid).SmsHeld := by
  obtain ⟨conn, listed, named, alive, type, recent⟩ := held
  have rest := destroyConnection_base base connid
  have lowered := conman.destroyConnection_lowered connid base.sound
  have kept : conn ∈ (conman.destroyConnection connid).connections.connids := by
    unfold Manager.destroyConnection
    rw [if_neg notAll]
    have stays : conn ∈ (conman.connections.remove connid).connids := by
      refine (mem_eraseP_of_neg ?_).mpr listed
      simp only [beq_iff_eq]
      exact fun same => other (same.symm.trans named)
    cases conman.connections.connids.find? (fun conn => conn.connid == connid) with
    | none => exact listed
    | some found =>
      dsimp only
      split
      · exact stays
      · rw [doDestroyConnection_connids]
        exact stays
  refine ⟨conn, kept, ?_, alive, type, ?_⟩
  · rw [rest.2]
    exact named
  · rw [lowered.createdAtFailure]
    exact recent

theorem Manager.processSms_good (out : Outcomes M) (queue : List M) (conman : Manager M)
    (base : conman.Base) (order : conman.sms.queued = conman.sms.handed ++ queue)
    (idle : conman.sms.inFlight = [])
    (requested : queue ≠ [] → conman.sms.connectionRequested = true)
    (held : conman.sms.connectionRequested = true → conman.SmsHeld) :
    (conman.processSms out queue).Base ∧ (conman.processSms out queue).SmsGood := by
  induction queue generalizing conman with
  | nil =>
    rw [Manager.processSms]
    unfold Manager.releaseSms
    dsimp only
    split
    case isTrue =>
      have emptied : Manager.Base { conman with sms := { conman.sms with
          queue := [], sendingActive := false } } := ⟨base.sound, base.levels, base.past⟩
      have released := destroyConnection_base emptied conman.sms.connid
      refine ⟨⟨released.1.sound, released.1.levels, released.1.past⟩, ?_⟩
      constructor <;> dsimp only <;> rw [released.2]
      case order => exact order
      case single =>
        rw [idle]
        exact Nat.zero_le _
      case active => simp [idle]
      case requested => simp [Sms.Busy, idle]
      case held => exact fun asked => absurd asked Bool.false_ne_true
    case isFalse unrequested =>
      refine ⟨⟨base.sound, base.levels, base.past⟩, order, ?_, ?_, ?_, held⟩
      · show conman.sms.inFlight.length ≤ 1
        rw [idle]
        exact Nat.zero_le _
      · simp [idle]
      · simp [Sms.Busy, idle, unrequested]
  | cons message rest ih =>
    have asked := requested (cons_ne_nil _ _)
    rw [Manager.processSms]
    split
    case isTrue taken =>
      refine ⟨⟨base.sound, base.levels, base.past⟩, ?_, ?_, ?_, ?_, held⟩
      · show conman.sms.queued = (conman.sms.handed ++ [message]) ++ rest
        rw [order, append_assoc]
        rfl
      · show (conman.sms.inFlight ++ [message]).length ≤ 1
        rw [idle]
        exact Nat.le_refl _
      · simp
      · simp [Sms.Busy, asked]
    case isFalse refused =>
      apply ih
      · exact ⟨base.sound, base.levels, base.past⟩
      · show conman.sms.queued = (conman.sms.handed ++ [message]) ++ rest
        rw [order, append_assoc]
        rfl
      · exact idle
      · exact fun _ => asked
      · exact held

theorem Manager.processSmsQueue_good (out : Outcomes M) (base : conman.Base)
    (down : conman.ub.status ≠ .established → conman.SmsGood)
    (up : conman.ub.status = .established →
      conman.sms.queued = conman.sms.handed ++ conman.sms.queue ∧ conman.sms.inFlight = [] ∧
      (conman.sms.queue ≠ [] → conman.sms.connectionRequested = true) ∧
      (conman.sms.connectionRequested = true → conman.SmsHeld)) :
    (conman.processSmsQueue out).Base ∧ (conman.processSmsQueue out).SmsGood := by
  unfold Manager.processSmsQueue
  split
  case isTrue established =>
    obtain ⟨order, idle, requested, held⟩ := up established
    exact processSms_good out _ conman base order idle requested held
  case isFalse lost => exact ⟨base, down lost⟩

theorem Manager.SmsHeld.of {other : Manager M} (held : conman.SmsHeld)
    (listed : ∀ conn ∈ conman.connections.connids, conn ∈ other.connections.connids)
    (connid : other.sms.connid = conman.sms.connid)
    (failure : other.ub.createdAtFailure = conman.ub.createdAtFailure) : other.SmsHeld := by
  obtain ⟨conn, found, named, alive, type, recent⟩ := held
  exact ⟨conn, listed conn found, named.trans connid.symm, alive, type, failure ▸ recent⟩

theorem Manager.SmsGood.of {other : Manager M} (good : conman.SmsGood)
    (sms : other.sms = conman.sms)
    (held : conman.sms.connectionRequested = true → conman.SmsHeld → other.SmsHeld) :
    other.SmsGood where
  order := by rw [sms]; exact good.order
  single := by rw [sms]; exact good.single
  active := by rw [sms]; exact good.active
  requested := by rw [sms]; exact good.requested
  held asked := held (sms ▸ asked) (good.held (sms ▸ asked))

theorem Creates.rest (creates : Creates out type conman result) :
    result.1.sms = conman.sms ∧
      (∀ conn ∈ conman.connections.connids, conn ∈ result.1.connections.connids) ∧
      conman.connections.created ≤ result.1.connections.created := by
  cases creates with
  | nothing _ => exact ⟨rfl, fun _ listed => listed, Nat.le_refl _⟩
  | wifi _ _ _ => exact ⟨rfl, fun _ listed => mem_append_left _ listed, Nat.le_succ _⟩
  | cellular tried before _ configured got target wanted =>
    have same := before.same
    dsimp only
    rw [acquired_connections conman (same.1 ▸ configured)]
    refine ⟨(acquireCellular_others target _).1, fun conn listed => ?_, ?_⟩
    · exact mem_append_left _ (same.2.2.1 ▸ listed)
    · show _ ≤ tried.created + 1
      rw [same.2.2.2.2.2.1]
      exact Nat.le_succ _
  | failed tried before _ =>
    have same := before.same
    refine ⟨rfl, fun conn listed => ?_, Nat.le_of_eq same.2.2.2.2.2.1.symm⟩
    rw [same.2.2.1]
    exact listed

theorem Creates.createdAtFailure (creates : Creates out type conman result)
    (sound : conman.connections.Sound) :
    result.1.ub.createdAtFailure = conman.ub.createdAtFailure := by
  rcases creates.ub sound with ⟨_, same⟩ | ⟨_, same⟩ <;> rw [same]
  rfl

theorem Creates.base (creates : Creates out type conman result) (base : conman.Base) :
    result.1.Base where
  sound := creates.sound base.sound
  levels := creates.levels base.sound base.levels
  past := by
    rw [creates.createdAtFailure base.sound]
    exact Nat.le_trans base.past creates.rest.2.2

theorem Creates.sms_held (creates : Creates out .sms conman result) (base : conman.Base)
    (allocated : out.allocated = true) (configured : 0 < conman.connections.amountCellular) :
    ∃ connid, result.2 = some connid ∧
      ∃ conn ∈ result.1.connections.connids, conn.connid = connid ∧ conn.destroyed = false ∧
        conn.type = .sms ∧ result.1.ub.createdAtFailure ≤ conn.serial := by
  have failure := creates.createdAtFailure base.sound
  cases creates with
  | nothing wanted => cases wanted
  | wifi wanted _ _ => rcases wanted with wanted | wanted <;> cases wanted
  | cellular tried before _ configured got target wanted =>
    have same := before.same
    have sms : got = .sms := by
      rcases wanted with ⟨wanted | wanted, _⟩ | ⟨_, sms, _⟩
      · cases wanted
      · cases wanted
      · exact sms
    rw [failure]
    refine ⟨_, rfl, ?_⟩
    dsimp only
    rw [acquired_connections conman (same.1 ▸ configured)]
    refine ⟨⟨tried.connidNext, got, false, tried.created⟩,
      mem_append_right _ (mem_singleton_self _), same.2.2.2.1, rfl, sms, ?_⟩
    rw [same.2.2.2.2.2.1]
    exact base.past
  | failed tried before refused =>
    rcases refused allocated with wanted | none
    · cases wanted
    · omega

theorem Ub.levelReached_createdAtFailure (out : Outcomes M) (level : FuncLevel) (ub : Ub) :
    (ub.levelReached out level).createdAtFailure = ub.createdAtFailure := by
  have asked : ({ ub with reachedLevel := some level }.requestInfos out level).createdAtFailure =
      ub.createdAtFailure :=
    (Ub.requestInfos_same out level { ub with reachedLevel := some level }).2.2.1
  rcases ub.status.cases with down | up
  · rw [Ub.levelReached_down out level ub down]
    refine Eq.trans ?_ asked
    unfold Ub.reachedWhileDown
    split <;> rfl
  · rw [Ub.levelReached_up out level up]
    refine Eq.trans ?_ asked
    unfold Ub.reachedWhileUp
    split
    · rfl
    · split <;> rfl

theorem Ub.requestInfos_flags (out : Outcomes M) (level : FuncLevel) (ub : Ub)
    (reached : Option FuncLevel) (log : List Entry) :
    ({ ub with reachedLevel := reached, log := log }.requestInfos out level).infoRequested =
        (ub.requestInfos out level).infoRequested ∧
      ({ ub with reachedLevel := reached, log := log }.requestInfos out level).pending =
        (ub.requestInfos out level).pending := by
  unfold Ub.requestInfos
  split <;> exact ⟨rfl, rfl⟩

theorem Ub.settles_of_established {level : FuncLevel} {ub : Ub}
    (established : (ub.levelReached out level).status = .established) : ub.Settles out level := by
  have same := Ub.requestInfos_same out level { ub with reachedLevel := some level }
  have flags := Ub.requestInfos_flags out level ub (some level) ub.log
  rcases ub.status.cases with down | up
  · rw [Ub.levelReached_down out level ub down] at established
    unfold Ub.reachedWhileDown at established
    split at established <;> cases established
  · rw [Ub.levelReached_up out level up] at established
    unfold Ub.reachedWhileUp at established
    split at established
    · cases established
    case isFalse hit =>
      split at established
      · cases established
      case isFalse settled =>
        rw [not_or] at settled
        refine ⟨up, ?_, ?_, ?_⟩
        · simpa [same.1] using hit
        · rw [← flags.1]
          simpa using settled.1
        · rw [← flags.2]
          simpa using settled.2

theorem Manager.settles_of_clear {level : FuncLevel} (settles : conman.clear.ub.Settles out level) :
    conman.ub.Settles out level := by
  obtain ⟨up, hit, requested, pending⟩ := settles
  have flags := Ub.requestInfos_flags out level conman.ub conman.ub.reachedLevel []
  exact ⟨up, hit, flags.1.symm.trans requested, flags.2.symm.trans pending⟩

theorem Manager.sendSms_good (out : Outcomes M) (message : M) (base : conman.Base)
    (good : conman.SmsGood)
    (creates : out.messageAllocated = true → conman.sms.connectionRequested = false →
      out.allocated = true ∧ 0 < conman.connections.amountCellular) :
    (conman.sendSms out message).Base ∧ (conman.sendSms out message).SmsGood := by
  unfold Manager.sendSms
  split
  case isFalse => exact ⟨base, good⟩
  case isTrue memory =>
    have appended : conman.sms.queued ++ [message] =
        conman.sms.handed ++ (conman.sms.queue ++ [message]) := by
      rw [good.order, append_assoc]
    -- Sending starts only with nothing under way.
    have starts : ∀ ready : Manager M, ready.Base →
        ready.sms.queued = ready.sms.handed ++ ready.sms.queue →
        ready.sms.queue ≠ [] → ready.sms.inFlight = conman.sms.inFlight →
        ready.sms.sendingActive = conman.sms.sendingActive →
        ready.sms.connectionRequested = true → ready.SmsHeld →
        (ready.startSms out).Base ∧ (ready.startSms out).SmsGood := by
      intro ready base order some inFlight active requested held
      have waiting : ready.SmsGood := by
        refine ⟨order, inFlight ▸ good.single, ?_, ?_, fun _ => held⟩
        · rw [active, inFlight]
          exact good.active
        · exact ⟨fun _ => .inl some, fun _ => requested⟩
      unfold Manager.startSms
      split
      case isTrue idle =>
        have none : ready.sms.inFlight = [] := by
          by_contra busy
          have sending := waiting.active.mpr busy
          rw [idle.2] at sending
          cases sending
        exact processSmsQueue_good out base (fun _ => waiting)
          fun _ => ⟨order, none, fun _ => requested, fun _ => held⟩
      case isFalse => exact ⟨base, waiting⟩
    dsimp only
    split
    case isTrue requested =>
      exact starts _ ⟨base.sound, base.levels, base.past⟩ appended (by simp) rfl rfl requested
        (good.held requested)
    case isFalse unrequested =>
      obtain ⟨allocated, configured⟩ := creates memory (by simpa using unrequested)
      generalize queued : ({ conman with sms := { conman.sms with
        queue := conman.sms.queue ++ [message],
        queued := conman.sms.queued ++ [message] } } : Manager M) = queue
      have queueBase : queue.Base := by
        rw [← queued]
        exact ⟨base.sound, base.levels, base.past⟩
      have created := createConnection_creates out .sms queue
      obtain ⟨connid, succeeded, conn, listed, named, alive, type, recent⟩ :=
        created.sms_held queueBase allocated (by rw [← queued]; exact configured)
      have sms : (queue.createConnection out .sms).1.sms = { conman.sms with
          queue := conman.sms.queue ++ [message], queued := conman.sms.queued ++ [message] } := by
        rw [created.rest.1, ← queued]
      have createdBase := created.base queueBase
      rw [succeeded]
      rw [sms]
      exact starts _ ⟨createdBase.sound, createdBase.levels, createdBase.past⟩ appended (by simp)
        rfl rfl rfl ⟨conn, listed, named, alive, type, recent⟩

/-- An undisturbed step keeps the queue of messages in order. -/
theorem Manager.step_good [DecidableEq M] (conman : Manager M) (step : Step M)
    (good : conman.Base ∧ conman.SmsGood) (undisturbed : Undisturbed conman step) :
    (conman.step step).Base ∧ (conman.step step).SmsGood := by
  have base : conman.clear.Base :=
    ⟨good.1.sound, good.1.levels.same rfl (.inl rfl) rfl id, good.1.past⟩
  have sms : conman.clear.SmsGood :=
    good.2.of rfl fun _ held => held.of (fun _ listed => listed) rfl rfl
  cases step with
  | mk request out =>
    cases request with
    | create type =>
      have creates := createConnection_creates out type conman.clear
      exact ⟨creates.base base, sms.of creates.rest.1
        fun _ held => held.of creates.rest.2.1 (congrArg Sms.connid creates.rest.1)
          (creates.createdAtFailure base.sound)⟩
    | destroy connid =>
      have destroyed := destroyConnection_base base connid
      refine ⟨destroyed.1, sms.of destroyed.2 fun requested held => ?_⟩
      have spared := undisturbed (sms.requested.mp requested)
      exact held.destroyConnection base spared.1 spared.2
    | configure cellular wifi =>
      exact ⟨⟨base.sound.configure _ _, base.levels, base.past⟩,
        sms.of rfl fun _ held => held.of (fun _ listed => listed) rfl rfl⟩
    | wifiScan =>
      have same : (conman.clear.connections.wifiScan out).connids =
          conman.clear.connections.connids ∧
          (conman.clear.connections.wifiScan out).cellularRefcnt =
            conman.clear.connections.cellularRefcnt ∧
          (conman.clear.connections.wifiScan out).created =
            conman.clear.connections.created := by
        unfold Connections.wifiScan
        split
        · split <;> exact ⟨rfl, rfl, rfl⟩
        · exact ⟨rfl, rfl, rfl⟩
      refine ⟨⟨(base.sound.wifiScan out).1, ?_, ?_⟩,
        sms.of rfl fun _ held => held.of (fun conn listed => ?_) rfl rfl⟩
      · show Levels (conman.clear.connections.wifiScan out).connids
          (conman.clear.connections.wifiScan out).cellularRefcnt _
        rw [same.1, same.2.1]
        exact base.levels
      · show _ ≤ (conman.clear.connections.wifiScan out).created
        rw [same.2.2]
        exact base.past
      · show conn ∈ (conman.clear.connections.wifiScan out).connids
        rw [same.1]
        exact listed
    | level level =>
      have failure := Ub.levelReached_createdAtFailure out level conman.clear.ub
      have reached : Manager.Base { conman.clear with
          ub := conman.clear.ub.levelReached out level } :=
        ⟨base.sound, base.levels.levelReached out level, by rw [failure]; exact base.past⟩
      have still : Manager.SmsGood { conman.clear with
          ub := conman.clear.ub.levelReached out level } :=
        sms.of rfl fun _ held => held.of (fun _ listed => listed) rfl failure
      show (conman.clear.eventTargetLevel out level).Base ∧
        (conman.clear.eventTargetLevel out level).SmsGood
      unfold Manager.eventTargetLevel
      dsimp only
      split
      case isTrue established =>
        have settled := settles_of_clear (Ub.settles_of_established established)
        have idle : conman.sms.inFlight = [] := undisturbed settled
        exact processSmsQueue_good out reached (fun _ => still)
          fun _ => ⟨still.order, idle, fun some => still.requested.mpr (.inl some), still.held⟩
      case isFalse => exact ⟨reached, still⟩
    | failed =>
      have idle : ¬ conman.sms.Busy := undisturbed
      have failed := keeps_levels.fails conman.clear ⟨base.sound, base.levels⟩
      refine ⟨⟨failed.1, failed.2, Nat.le_refl _⟩, sms.of rfl fun requested _ => ?_⟩
      exact absurd (sms.requested.mp requested) idle
    | info type =>
      have same : conman.clear.ub.isRequested type = conman.ub.isRequested type ∧
          (conman.clear.ub.clearRequested type).pending =
            (conman.ub.clearRequested type).pending ∧
          (conman.clear.ub.clearRequested type).createdAtFailure =
            conman.clear.ub.createdAtFailure := by
        cases type <;> exact ⟨rfl, rfl, rfl⟩
      show Manager.Base (if conman.clear.ub.isRequested type then
          conman.clear.infoCallback out type else conman.clear) ∧
        Manager.SmsGood (if conman.clear.ub.isRequested type then
          conman.clear.infoCallback out type else conman.clear)
      split
      case isFalse => exact ⟨base, sms⟩
      case isTrue requested =>
        have cleared := keeps_levels.clears conman.clear type ⟨base.sound, base.levels⟩
        have informed := keeps_levels.informs _ cleared
        have still : ∀ ub : Ub, ub.createdAtFailure = conman.clear.ub.createdAtFailure →
            Manager.SmsGood { conman.clear with ub := ub } :=
          fun ub failure => sms.of rfl fun _ held => held.of (fun _ listed => listed) rfl failure
        unfold Manager.infoCallback
        dsimp only
        split
        case isTrue =>
          exact ⟨⟨cleared.1, cleared.2, by rw [same.2.2]; exact base.past⟩, still _ same.2.2⟩
        case isFalse complete =>
          have idle : conman.sms.inFlight = [] :=
            undisturbed (same.1 ▸ requested) (by rw [← same.2.1]; simpa using complete)
          have settled := still (conman.clear.ub.clearRequested type).informed same.2.2
          have sent := processSmsQueue_good out
            (⟨informed.1, informed.2, by
              show (conman.clear.ub.clearRequested type).createdAtFailure ≤ _
              rw [same.2.2]
              exact base.past⟩ : Manager.Base { conman.clear with
                ub := (conman.clear.ub.clearRequested type).informed })
            (fun _ => settled)
            fun _ => ⟨settled.order, idle, fun some => settled.requested.mpr (.inl some),
              settled.held⟩
          exact ⟨⟨sent.1.sound, sent.1.levels.same rfl (.inl rfl) rfl id, sent.1.past⟩,
            sent.2.of rfl fun _ held => held.of (fun _ listed => listed) rfl rfl⟩
    | sendSms message => exact sendSms_good out message base sms undisturbed
    | smsResult message =>
      have taken : message ∈ conman.clear.sms.inFlight → conman.clear.ub.status = .established :=
        undisturbed
      show Manager.Base (if message ∈ conman.clear.sms.inFlight then _ else conman.clear) ∧
        Manager.SmsGood (if message ∈ conman.clear.sms.inFlight then _ else conman.clear)
      split
      case isFalse => exact ⟨base, sms⟩
      case isTrue flying =>
        have established := taken flying
        have single := sms.single
        have requested := sms.requested.mpr (.inr (ne_nil_of_mem flying))
        have none : conman.clear.sms.inFlight.erase message = [] := by
          apply eq_nil_of_length_eq_zero
          rw [length_erase_of_mem flying]
          omega
        apply processSmsQueue_good
        · exact ⟨base.sound, base.levels, base.past⟩
        · exact fun lost => absurd established lost
        · exact fun _ => ⟨sms.order, none, fun _ => requested, sms.held⟩

theorem Manager.SmsGood.orderly (good : conman.SmsGood) (base : conman.Base) :
    conman.SmsOrderly := by
  refine ⟨good.order, good.single, good.active, fun busy => ?_⟩
  have requested := good.requested.mpr busy
  obtain ⟨conn, listed, named, alive, type, recent⟩ := good.held requested
  have needed := base.levels.needed conn listed alive recent
  rw [type] at needed
  exact ⟨requested, ⟨conn, listed, named, alive⟩, needed⟩

/-- The messages are in order in every state of a run whose steps leave a message under way
alone. -/
theorem sms_are_orderly [DecidableEq M] (steps reached : List (Step M))
    (undisturbed : Guarded Manager.step Undisturbed (Manager.initial M) steps)
    (isPrefix : reached <+: steps) :
    (reached.foldl Manager.step (Manager.initial M)).SmsOrderly := by
  obtain ⟨rest, rfl⟩ := isPrefix
  have levels : Levels (Manager.initial M).connections.connids
      (Manager.initial M).connections.cellularRefcnt (Manager.initial M).ub :=
    ⟨rfl, nofun, fun _ => rfl, fun _ => rfl⟩
  have idle : (Manager.initial M).SmsGood :=
    ⟨rfl, Nat.zero_le _, ⟨nofun, fun some => absurd rfl some⟩,
      ⟨nofun, fun busy => busy.elim (absurd rfl) (absurd rfl)⟩, nofun⟩
  have good := foldl_invariant (fun conman : Manager M => conman.Base ∧ conman.SmsGood)
    (fun conman step good undisturbed => conman.step_good step good undisturbed)
    ⟨⟨initial_sound, levels, Nat.le_refl _⟩, idle⟩ undisturbed.append.1
  exact good.2.orderly good.1

def taking : Outcomes Nat := ⟨true, true, true, fun _ => true, fun _ => true⟩

/-- A message that is handed over, once the connection for it is established. -/
def handedOver : List (Step Nat) :=
  [⟨.configure 1 0, taking⟩, ⟨.sendSms 1, taking⟩, ⟨.level .network, taking⟩,
    ⟨.info .imei, taking⟩, ⟨.info .imsi, taking⟩, ⟨.info .udopn, taking⟩,
    ⟨.info .mccMnc, taking⟩]

/-- Another message is sent before the first is delivered. -/
def delivered : List (Step Nat) :=
  handedOver ++ [⟨.sendSms 2, taking⟩, ⟨.smsResult 1, taking⟩, ⟨.smsResult 2, taking⟩]

theorem sms_are_orderly_delivered :
    (delivered.foldl Manager.step (Manager.initial Nat)).SmsOrderly :=
  sms_are_orderly _ _ (by decide) (prefix_refl _)

/-- The connection is raised for another client while the message is under way. -/
def raisedMeanwhile : List (Step Nat) :=
  handedOver ++ [⟨.create .cellular, taking⟩, ⟨.smsResult 1, taking⟩]

/-- Sending stays active with nothing under way. -/
theorem raised_meanwhile_stays_active :
    ¬ (raisedMeanwhile.foldl Manager.step (Manager.initial Nat)).SmsOrderly := by
  intro orderly
  exact orderly.active.mp (by decide) (by decide)

end Thingsee.Conman
