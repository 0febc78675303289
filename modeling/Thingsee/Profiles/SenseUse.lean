import Thingsee.Profiles.Frames

/-!
Owns the use of senses: what `init_cause` and `uninit_cause` do to the calls of the
init and uninit operations of a cause, and what the functions above them do to all
causes at once.

`Balanced` is about causes and the states that are active, and names nothing else of
the engine. Each kind of change has one lemma about it, with the condition under
which the change keeps the balance.
-/

namespace Thingsee.Profiles

open Support Function

variable {n : Nat} {E S P T V : Type}

structure Use where
  initialised : Bool
  held : Bool
  leaked : Bool
  calls : List SenseCall
  counter : Int

def CauseDyn.use (dyn : CauseDyn V) : Use :=
  ⟨dyn.initialised, dyn.held, dyn.leaked, dyn.calls, dyn.measurementCounter⟩

/-- The calls alternate and start with init. The last call is the first item. -/
def Alternates : List SenseCall → Prop
  | [] => True
  | call :: rest => (call = .init ↔ rest.head? ≠ some .init) ∧ Alternates rest

instance Alternates.decidable : (calls : List SenseCall) → Decidable (Alternates calls)
  | [] => isTrue trivial
  | _ :: rest =>
    have := Alternates.decidable rest
    inferInstanceAs (Decidable (_ ∧ _))

namespace Use

/-- What `init_cause` does when its sense starts. -/
def begun (conf : CauseConf T) (use : Use) : Use where
  initialised := true
  held := conf.holds
  leaked := use.leaked || use.held
  calls := .init :: use.calls
  counter := if conf.count = 0 then -1 else conf.count

/-- What `uninit_cause` does. -/
def ended (use : Use) : Use where
  initialised := false
  held := false
  leaked := use.leaked
  calls := .uninit :: use.calls
  counter := use.counter

/-- The calls so far are in order, and they agree with the state of the cause. -/
structure Fair (use : Use) : Prop where
  alternates : Alternates use.calls
  last : use.initialised = true ↔ use.calls.head? = some .init
  whole : use.leaked = false
  held : use.held = true → use.initialised = true

theorem Fair.begun {use : Use} (fair : use.Fair) (conf : CauseConf T)
    (idle : use.initialised = false) : (use.begun conf).Fair where
  alternates := by
    have notLast : use.calls.head? ≠ some .init := by
      rw [Ne, ← fair.last, idle]
      simp
    exact ⟨⟨fun _ => notLast, fun _ => rfl⟩, fair.alternates⟩
  last := by simp [Use.begun]
  whole := by
    have notHeld : use.held = false := by
      by_contra isHeld
      have started := fair.held (by simpa using isHeld)
      rw [idle] at started
      simp at started
    simp [Use.begun, fair.whole, notHeld]
  held := fun _ => rfl

theorem Fair.ended {use : Use} (fair : use.Fair) (started : use.initialised = true) :
    use.ended.Fair where
  alternates := by
    have isLast := fair.last.mp started
    refine ⟨⟨?_, ?_⟩, fair.alternates⟩
    · intro isInit
      simp at isInit
    · intro notLast
      exact absurd isLast notLast
  last := by simp [Use.ended]
  whole := fair.whole
  held := by simp [Use.ended]

theorem begun_counter (conf : CauseConf T) (use : Use) : (use.begun conf).counter ≠ 0 := by
  unfold begun
  split
  · simp
  · assumption

end Use

section Causes

variable [DecidableEq S] (profile : Profile n E S P T V)

def begunIn (states : List S) (uses : Fin n → Use) (c : Fin n) : Use :=
  if profile.stateOfCause c ∈ states then (uses c).begun (profile.cause c) else uses c

def endedIn (states : List S) (uses : Fin n → Use) (c : Fin n) : Use :=
  if profile.stateOfCause c ∈ states then (uses c).ended else uses c

/-- What `init_event` with `reinit_cause` does to the causes. -/
def restarted [DecidableEq E] (e : E) (uses : Fin n → Use) (c : Fin n) : Use :=
  if profile.eventOf c = e ∧ (uses c).counter = 0 then (uses c).begun (profile.cause c)
  else uses c

/-- What counting a measurement of a cause does to the causes. -/
def counted (c : Fin n) (uses : Fin n → Use) : Fin n → Use :=
  Function.update uses c { uses c with counter := (uses c).counter - 1 }

/-- What counting the last measurement of a cause does to the causes. -/
def exhausted (c : Fin n) (uses : Fin n → Use) : Fin n → Use :=
  Function.update uses c { (uses c).ended with counter := 0 }

/-- The causes that are initialised are those of active states that have not run out of
measurements. -/
structure Balanced (active : S → Prop) (uses : Fin n → Use) : Prop where
  fair : ∀ c, (uses c).Fair
  located : ∀ c, (uses c).initialised = true → active (profile.stateOfCause c)
  idle : ∀ c, active (profile.stateOfCause c) → (uses c).initialised = false →
    (uses c).counter = 0
  spent : ∀ c, (uses c).counter = 0 → (uses c).initialised = false

variable {profile} {active : S → Prop} {uses : Fin n → Use}

omit [DecidableEq S] in
theorem Balanced.congr (balanced : Balanced profile active uses) {others : S → Prop}
    (same : ∀ c, active (profile.stateOfCause c) ↔ others (profile.stateOfCause c)) :
    Balanced profile others uses where
  fair := balanced.fair
  located := fun c started => (same c).mp (balanced.located c started)
  idle := fun c isActive => balanced.idle c ((same c).mpr isActive)
  spent := balanced.spent

omit [DecidableEq S] in
theorem Balanced.started (balanced : Balanced profile active uses) {c : Fin n}
    (isActive : active (profile.stateOfCause c)) (left : (uses c).counter ≠ 0) :
    (uses c).initialised = true := by
  by_contra idle
  exact left (balanced.idle c isActive (by simpa using idle))

theorem Balanced.begunIn (balanced : Balanced profile active uses) (states : List S)
    (inactive : ∀ c, profile.stateOfCause c ∈ states → ¬ active (profile.stateOfCause c)) :
    Balanced profile (fun s => active s ∨ s ∈ states) (begunIn profile states uses) := by
  have unstarted (c : Fin n) (isIn : profile.stateOfCause c ∈ states) :
      (uses c).initialised = false := by
    by_contra started
    exact inactive c isIn (balanced.located c (by simpa using started))
  unfold Profiles.begunIn
  constructor
  · intro c
    split
    · next isIn => exact (balanced.fair c).begun _ (unstarted c isIn)
    · exact balanced.fair c
  · intro c started
    split at started
    · next isIn => exact Or.inr isIn
    · exact Or.inl (balanced.located c started)
  · intro c isActive idle
    split at idle
    · simp [Use.begun] at idle
    · next notIn =>
      rw [if_neg notIn]
      exact balanced.idle c (isActive.resolve_right notIn) idle
  · intro c spent
    split at spent
    · exact absurd spent (Use.begun_counter _ _)
    · next notIn =>
      rw [if_neg notIn]
      exact balanced.spent c spent

theorem Balanced.endedIn (balanced : Balanced profile active uses) (states : List S)
    (started : ∀ c, profile.stateOfCause c ∈ states → (uses c).initialised = true) :
    Balanced profile (fun s => active s ∧ s ∉ states) (endedIn profile states uses) := by
  unfold Profiles.endedIn
  constructor
  · intro c
    split
    · next isIn => exact (balanced.fair c).ended (started c isIn)
    · exact balanced.fair c
  · intro c isStarted
    split at isStarted
    · simp [Use.ended] at isStarted
    · next notIn => exact ⟨balanced.located c isStarted, notIn⟩
  · intro c isActive
    rw [if_neg isActive.2]
    exact balanced.idle c isActive.1
  · intro c spent
    split at spent
    · next isIn =>
      rw [if_pos isIn]
      rfl
    · next notIn =>
      rw [if_neg notIn]
      exact balanced.spent c spent

section

omit [DecidableEq S]

theorem Balanced.restarted [DecidableEq E] (balanced : Balanced profile active uses) {e : E}
    (safe : active (profile.stateOf e) ∨
      ∀ c, profile.eventOf c = e → (uses c).counter ≠ 0) :
    Balanced profile active (restarted profile e uses) := by
  have inActive (c : Fin n) (again : profile.eventOf c = e ∧ (uses c).counter = 0) :
      active (profile.stateOfCause c) := by
    rcases safe with isActive | left
    · rwa [← again.1] at isActive
    · exact absurd again.2 (left c again.1)
  unfold Profiles.restarted
  constructor
  · intro c
    split
    · next again => exact (balanced.fair c).begun _ (balanced.spent c again.2)
    · exact balanced.fair c
  · intro c started
    split at started
    · next again => exact inActive c again
    · exact balanced.located c started
  · intro c isActive idle
    split at idle
    · simp [Use.begun] at idle
    · next notAgain =>
      rw [if_neg notAgain]
      exact balanced.idle c isActive idle
  · intro c spent
    split at spent
    · exact absurd spent (Use.begun_counter _ _)
    · next notAgain =>
      rw [if_neg notAgain]
      exact balanced.spent c spent

theorem Balanced.counted (balanced : Balanced profile active uses) {c : Fin n}
    (left : 1 < (uses c).counter) : Balanced profile active (counted c uses) := by
  unfold Profiles.counted
  have fairNow : (({ uses c with counter := (uses c).counter - 1 } : Use)).Fair := by
    have fair := balanced.fair c
    exact ⟨fair.alternates, fair.last, fair.whole, fair.held⟩
  constructor
  · intro d
    by_cases same : d = c
    · subst same
      rw [update_self]
      exact fairNow
    · rw [update_of_ne same]
      exact balanced.fair d
  · intro d started
    by_cases same : d = c
    · subst same
      rw [update_self] at started
      exact balanced.located d started
    · rw [update_of_ne same] at started
      exact balanced.located d started
  · intro d isActive idle
    by_cases same : d = c
    · subst same
      rw [update_self] at idle
      have started := balanced.started isActive (by omega)
      exact absurd (started.symm.trans idle) (by simp)
    · rw [update_of_ne same] at idle ⊢
      exact balanced.idle d isActive idle
  · intro d spent
    by_cases same : d = c
    · subst same
      rw [update_self] at spent
      dsimp only at spent
      omega
    · rw [update_of_ne same] at spent ⊢
      exact balanced.spent d spent

theorem Balanced.exhausted (balanced : Balanced profile active uses) {c : Fin n}
    (started : (uses c).initialised = true) :
    Balanced profile active (exhausted c uses) := by
  unfold Profiles.exhausted
  have fairNow : (({ (uses c).ended with counter := 0 } : Use)).Fair := by
    have fair := (balanced.fair c).ended started
    exact ⟨fair.alternates, fair.last, fair.whole, fair.held⟩
  constructor
  · intro d
    by_cases same : d = c
    · subst same
      rw [update_self]
      exact fairNow
    · rw [update_of_ne same]
      exact balanced.fair d
  · intro d isStarted
    by_cases same : d = c
    · subst same
      rw [update_self] at isStarted
      simp [Use.ended] at isStarted
    · rw [update_of_ne same] at isStarted
      exact balanced.located d isStarted
  · intro d isActive idle
    by_cases same : d = c
    · subst same
      rw [update_self]
    · rw [update_of_ne same] at idle ⊢
      exact balanced.idle d isActive idle
  · intro d spent
    by_cases same : d = c
    · subst same
      rw [update_self]
      rfl
    · rw [update_of_ne same] at spent ⊢
      exact balanced.spent d spent

end

end Causes

end Thingsee.Profiles
