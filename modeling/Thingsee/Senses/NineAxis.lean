import Thingsee.Support.Runs

/-!
Owns the samples of the nine-axis sensor in
`apps/ts_engine/engine/sense_group_orientation.c`: which reading of an axis takes a sample of its
group, and which returns a component of the sample that is held.

What the sensor, the fusion filter and the arithmetic of `float` give is a parameter. A reading
ends with `handle_cause_event`; what that calls of this file are later calls of the run.
-/

namespace Thingsee.Senses.NineAxis

open Support List

def X : BitVec 8 := 0x01
def Y : BitVec 8 := 0x02
def Z : BitVec 8 := 0x04
def YAW : BitVec 8 := 0x01
def PITCH : BitVec 8 := 0x02
def ROLL : BitVec 8 := 0x04

def senseIdHeading : BitVec 32 := 0x00040100
def senseIdYaw : BitVec 32 := 0x00040200
def senseIdPitch : BitVec 32 := 0x00040300
def senseIdRoll : BitVec 32 := 0x00040400
def senseIdAngleSpeedYaw : BitVec 32 := 0x00040500
def senseIdAngleSpeedPitch : BitVec 32 := 0x00040600
def senseIdAngleSpeedRoll : BitVec 32 := 0x00040700
def senseIdLongitudinal : BitVec 32 := 0x00050100
def senseIdLateral : BitVec 32 := 0x00050200
def senseIdVertical : BitVec 32 := 0x00050300
def senseIdMagneticFieldLongitudinal : BitVec 32 := 0x00060500
def senseIdMagneticFieldLateral : BitVec 32 := 0x00060600
def senseIdMagneticFieldVertical : BitVec 32 := 0x00060700

/-- `enum sense`. -/
inductive Sense where
  | accel
  | magn
  | gyro
  | fusion
deriving DecidableEq

/-- Three components: `ax`, `ay` and `az`, or `yaw`, `pitch` and `roll`. -/
structure Sample (V : Type) where
  x : V
  y : V
  z : V

/-- The arithmetic of `float`. -/
structure Floats (F : Type) where
  ofInt : Int → F
  mul : F → F → F
  sub : F → F → F
  add : F → F → F
  negative : F → Bool

/-- `struct nineax_s`, and in `held` the static variables of the four functions. -/
structure Nineax (F : Type) where
  fbias : Fin 6 → F
  gyroReso : F
  xlReso : F
  magReso : F
  refcount : Int
  fd : Int
  usefusion : Bool
  valid : Sense → BitVec 8
  held : Sense → Sample F

/-- What the first initialisation gets from the sensor and the EEPROM. -/
structure Started (F : Type) where
  fd : Int
  bias : Fin 6 → BitVec 16
  gyroReso : F
  xlReso : F
  magReso : F

/-- What a reading gets, if it takes a sample: the registers, the result of
`ts_core_fd_register`, and the state of the fusion filter. -/
structure Hardware (F : Type) where
  data : Sample (BitVec 16)
  registered : Bool
  orientation : Sample F

/-- What a reading did: the bit of its axis, the sample it took, and `valuedouble`. -/
structure Reading (F : Type) where
  sId : BitVec 32
  axis : BitVec 8
  taken : Option (Sample F)
  value : F

variable {F : Type} (floats : Floats F)

namespace Nineax

def scaled (hardware : Hardware F) (reso : F) (bias : Fin 3 → Option F) : Sample F :=
  let value (data : BitVec 16) (bias : Option F) :=
    let raw := floats.mul (floats.ofInt data.toInt) reso
    (bias.map (floats.sub raw)).getD raw
  ⟨value hardware.data.x (bias 0), value hardware.data.y (bias 1), value hardware.data.z (bias 2)⟩

def readAccel (hardware : Hardware F) (nineax : Nineax F) : Nineax F × Sample F :=
  (nineax, scaled floats hardware nineax.xlReso
    fun place => some (nineax.fbias (place.natAdd 3)))

def readMagneticField (hardware : Hardware F) (nineax : Nineax F) : Nineax F × Sample F :=
  (nineax, scaled floats hardware nineax.magReso fun _ => none)

def readGyro (hardware : Hardware F) (nineax : Nineax F) : Nineax F × Sample F :=
  (nineax, scaled floats hardware nineax.gyroReso
    fun place => some (nineax.fbias (place.castAdd 3)))

/-- `read_fusion`, with `init_fusion`. -/
def readFusion (hardware : Hardware F) (nineax : Nineax F) : Nineax F × Sample F :=
  ({ nineax with usefusion := nineax.usefusion || hardware.registered }, hardware.orientation)

/-- A case of the four functions: a sample is taken if the bit of the axis is not set, and then
the bits `others` are. -/
def serve (sense : Sense) (axis others : BitVec 8)
    (read : Nineax F → Nineax F × Sample F) (component : Sample F → F) (sId : BitVec 32)
    (nineax : Nineax F) : Nineax F × Option (Reading F) :=
  if nineax.valid sense &&& axis = 0 then
    let (nineax, sample) := read nineax
    ({ nineax with
        held := Function.update nineax.held sense sample
        valid := Function.update nineax.valid sense others },
      some ⟨sId, axis, some sample, component sample⟩)
  else (nineax, some ⟨sId, axis, none, component (nineax.held sense)⟩)

/-- The functions of the first three groups, with the case labels for Y, Z and X. -/
def senseLsm9ds1 (sense : Sense) (y z x : BitVec 32) (read : Nineax F → Nineax F × Sample F)
    (sId : BitVec 32) (nineax : Nineax F) : Nineax F × Option (Reading F) :=
  let label := sId &&& 0xffffff00
  if label = y then nineax.serve sense Y (X ||| Z) read Sample.y sId
  else if label = z then nineax.serve sense Z (X ||| Y) read Sample.z sId
  else if label = x then nineax.serve sense X (Y ||| Z) read Sample.x sId
  else (nineax, none)

def senseLsm9ds1Acceleration (sId : BitVec 32) (hardware : Hardware F) :
    Nineax F → Nineax F × Option (Reading F) :=
  senseLsm9ds1 .accel senseIdLongitudinal senseIdVertical senseIdLateral
    (readAccel floats hardware) sId

def senseLsm9ds1MagneticField (sId : BitVec 32) (hardware : Hardware F) :
    Nineax F → Nineax F × Option (Reading F) :=
  senseLsm9ds1 .magn senseIdMagneticFieldLongitudinal senseIdMagneticFieldVertical
    senseIdMagneticFieldLateral (readMagneticField floats hardware) sId

def senseLsm9ds1AngleSpeed (sId : BitVec 32) (hardware : Hardware F) :
    Nineax F → Nineax F × Option (Reading F) :=
  senseLsm9ds1 .gyro senseIdAngleSpeedYaw senseIdAngleSpeedPitch senseIdAngleSpeedRoll
    (readGyro floats hardware) sId

def heading (sample : Sample F) : F :=
  if floats.negative sample.x then floats.add sample.x (floats.ofInt 360) else sample.x

def senseOrientation (sId : BitVec 32) (hardware : Hardware F) (nineax : Nineax F) :
    Nineax F × Option (Reading F) :=
  let read := readFusion hardware
  if sId = senseIdHeading then nineax.serve .fusion YAW (PITCH ||| ROLL) read (heading floats) sId
  else if sId = senseIdYaw then nineax.serve .fusion YAW (PITCH ||| ROLL) read Sample.x sId
  else if sId = senseIdPitch then nineax.serve .fusion PITCH (YAW ||| ROLL) read Sample.y sId
  else if sId = senseIdRoll then nineax.serve .fusion ROLL (YAW ||| PITCH) read Sample.z sId
  else (nineax, none)

def senseOrientationInit (started : Started F) (nineax : Nineax F) : Nineax F :=
  let first := nineax.refcount = 0
  if first ∧ started.fd < 0 then { nineax with fd := started.fd }
  else
    let nineax :=
      if first then
        { nineax with
          fd := started.fd
          usefusion := false
          gyroReso := started.gyroReso
          xlReso := started.xlReso
          magReso := started.magReso
          fbias := fun index =>
            floats.mul (if index < 3 then started.gyroReso else started.xlReso)
              (floats.ofInt (started.bias index).toInt) }
      else nineax
    { nineax with refcount := nineax.refcount + 1, valid := fun _ => 0 }

def senseOrientationUninit (nineax : Nineax F) : Nineax F :=
  let nineax := { nineax with refcount := nineax.refcount - 1 }
  if nineax.refcount = 0 then { nineax with usefusion := false } else nineax

/-- `g_nineax` at the start. -/
def start (zero : F) : Nineax F :=
  ⟨fun _ => zero, zero, zero, zero, 0, -1, false, fun _ => 0, fun _ => ⟨zero, zero, zero⟩⟩

def senseRead : Sense → BitVec 32 → Hardware F → Nineax F → Nineax F × Option (Reading F)
  | .accel => senseLsm9ds1Acceleration floats
  | .magn => senseLsm9ds1MagneticField floats
  | .gyro => senseLsm9ds1AngleSpeed floats
  | .fusion => senseOrientation floats

end Nineax

inductive Call (F : Type) where
  | senseOrientationInit (started : Started F)
  | senseOrientationUninit
  | senseRead (sense : Sense) (sId : BitVec 32) (hardware : Hardware F)

/-- The state of the file, and the readings of each group, the latest first. -/
structure Recorded (F : Type) where
  nineax : Nineax F
  log : Sense → List (Reading F)

def Recorded.start (zero : F) : Recorded F :=
  ⟨.start zero, fun _ => []⟩

def Recorded.step (recorded : Recorded F) : Call F → Recorded F
  | .senseOrientationInit started =>
    { recorded with nineax := recorded.nineax.senseOrientationInit floats started }
  | .senseOrientationUninit => { recorded with nineax := recorded.nineax.senseOrientationUninit }
  | .senseRead sense sId hardware =>
    let (nineax, reading) := recorded.nineax.senseRead floats sense sId hardware
    ⟨nineax, Function.update recorded.log sense (reading.toList ++ recorded.log sense)⟩

/-- `law` holds of every reading and the readings before it. -/
def Throughout (law : Reading F → List (Reading F) → Prop) : List (Reading F) → Prop
  | [] => True
  | reading :: before => law reading before ∧ Throughout law before

/-- Since each earlier reading of the axis a sample was taken. -/
def Fresh (reading : Reading F) (before : List (Reading F)) : Prop :=
  ∀ between earlier older, before = between ++ earlier :: older → earlier.axis = reading.axis →
    ∃ sampler ∈ reading :: between, sampler.taken.isSome

def component (sense : Sense) (reading : Reading F) (sample : Sample F) : F :=
  if sense = .fusion ∧ reading.sId = senseIdHeading then Nineax.heading floats sample
  else if reading.axis = X then sample.x
  else if reading.axis = Y then sample.y
  else sample.z

def Current (sense : Sense) (reading : Reading F) (before : List (Reading F)) : Prop :=
  ∃ sample, (reading :: before).findSome? Reading.taken = some sample ∧
    reading.value = component floats sense reading sample

/-- A reading takes no sample if it is the first one of its axis after a reading of another axis
that took one. -/
def Shared (reading : Reading F) (before : List (Reading F)) : Prop :=
  ∀ between sampler older, before = between ++ sampler :: older → sampler.taken.isSome →
    sampler.axis ≠ reading.axis → (∀ later ∈ between, later.axis ≠ reading.axis) →
      reading.taken = none

/-- The readings of a group are fresh and consistent. -/
def FreshAndConsistent (sense : Sense) (log : List (Reading F)) : Prop :=
  Throughout
    (fun reading before =>
      Fresh reading before ∧ Current floats sense reading before ∧ Shared reading before) log

def axisOf : Sense → BitVec 32 → Option (BitVec 8)
  | .accel, sId => byLabel sId senseIdLongitudinal senseIdVertical senseIdLateral
  | .magn, sId => byLabel sId senseIdMagneticFieldLongitudinal senseIdMagneticFieldVertical
      senseIdMagneticFieldLateral
  | .gyro, sId => byLabel sId senseIdAngleSpeedYaw senseIdAngleSpeedPitch senseIdAngleSpeedRoll
  | .fusion, sId =>
    if sId = senseIdHeading then some YAW
    else if sId = senseIdYaw then some YAW
    else if sId = senseIdPitch then some PITCH
    else if sId = senseIdRoll then some ROLL
    else none
where
  byLabel (sId y z x : BitVec 32) : Option (BitVec 8) :=
    if sId &&& 0xffffff00 = y then some Y
    else if sId &&& 0xffffff00 = z then some Z
    else if sId &&& 0xffffff00 = x then some X
    else none

/-- A round of a group: it begins with a sample. `owner` is the axis whose reading takes the next
one, which any reading does if a cause was initialised since, and `seen` has the axes that have
been read. -/
structure Round where
  references : Int
  owner : Option (BitVec 8)
  seen : List (BitVec 8)

namespace Round

def start : Round := ⟨0, none, []⟩

def Begins (round : Round) (axis : BitVec 8) : Prop :=
  round.owner = none ∨ round.owner = some axis

instance (round : Round) (axis : BitVec 8) : Decidable (round.Begins axis) :=
  inferInstanceAs (Decidable (_ ∨ _))

def read (round : Round) (axis : BitVec 8) : Round :=
  if round.Begins axis then { round with owner := some axis, seen := [axis] }
  else { round with seen := axis :: round.seen }

def next (sense : Sense) (round : Round) : Call F → Round
  | .senseOrientationInit started =>
    if round.references = 0 ∧ started.fd < 0 then round
    else { round with references := round.references + 1, owner := none }
  | .senseOrientationUninit => { round with references := round.references - 1 }
  | .senseRead other sId _ =>
    if other = sense then ((axisOf sense sId).map round.read).getD round else round

/-- The axis is read for the first time in the round, or begins a round and is not read for the
first time in the round before. -/
def Admits (sense : Sense) (round : Round) : Call F → Prop
  | .senseRead other sId _ => other = sense → ∀ axis, axisOf sense sId = some axis →
      if round.Begins axis then round.seen = [] ∨ axis ∈ round.seen else axis ∉ round.seen
  | _ => True

end Round

/-- The axes that were read since the last sample, with the one that took it. -/
def readSince : List (Reading F) → List (BitVec 8)
  | [] => []
  | reading :: before =>
    if reading.taken.isSome then [reading.axis] else reading.axis :: readSince before

section Laws

variable {reading : Reading F} {before : List (Reading F)}

theorem fresh_of_taken (taken : reading.taken.isSome) : Fresh reading before := by
  intro between earlier older _ _
  exact ⟨reading, by simp, taken⟩

/-! ## The log -/

theorem fresh_iff_notMem_readSince (untaken : reading.taken = none) :
    Fresh reading before ↔ reading.axis ∉ readSince before := by
  induction before with
  | nil => simp [Fresh, readSince]
  | cons latest before ih =>
    have same : Fresh reading (latest :: before) ↔ latest.axis ≠ reading.axis ∧
        (latest.taken.isSome ∨ Fresh reading before) := by
      constructor
      · intro fresh
        refine ⟨fun equal => ?_, ?_⟩
        · obtain ⟨sampler, member, taken⟩ := fresh [] latest before rfl equal
          rw [mem_singleton.mp member, untaken] at taken
          exact absurd taken (by simp)
        · by_cases taken : latest.taken.isSome
          · exact .inl taken
          · right
            intro between earlier older split equal
            obtain ⟨sampler, member, isSampler⟩ :=
              fresh (latest :: between) earlier older (by rw [split]; rfl) equal
            rcases mem_cons.mp member with rfl | later
            · exact ⟨sampler, by simp, isSampler⟩
            rcases mem_cons.mp later with rfl | others
            · exact absurd isSampler taken
            · exact ⟨sampler, mem_cons_of_mem _ others, isSampler⟩
      · rintro ⟨different, sampled⟩ between earlier older split equal
        cases between with
        | nil =>
          rw [nil_append, List.cons.injEq] at split
          exact absurd (split.1 ▸ equal) different
        | cons first between =>
          rw [cons_append, List.cons.injEq] at split
          rcases sampled with taken | fresh
          · exact ⟨first, by simp, split.1 ▸ taken⟩
          · obtain ⟨sampler, member, isSampler⟩ := fresh between earlier older split.2 equal
            refine ⟨sampler, ?_, isSampler⟩
            rcases mem_cons.mp member with rfl | others
            · simp
            · simp [others]
    rw [same, readSince]
    by_cases taken : latest.taken.isSome
    · rw [if_pos taken, mem_singleton]
      exact ⟨fun both => fun equal => both.1 equal.symm,
        fun different => ⟨fun equal => different equal.symm, .inl taken⟩⟩
    · rw [if_neg taken, mem_cons, not_or, ih]
      exact ⟨fun both => ⟨fun equal => both.1 equal.symm, both.2.resolve_left taken⟩,
        fun both => ⟨fun equal => both.1 equal.symm, .inr both.2⟩⟩

theorem shared_of_untaken (untaken : reading.taken = none) : Shared reading before := by
  intro between sampler older _ _ _ _
  exact untaken

theorem shared_iff_mem_readSince (taken : reading.taken ≠ none) :
    Shared reading before ↔
      before.findSome? Reading.taken = none ∨ reading.axis ∈ readSince before := by
  induction before with
  | nil => simp [Shared]
  | cons latest before ih =>
    rw [readSince, List.findSome?_cons]
    by_cases equal : latest.axis = reading.axis
    · have shared : Shared reading (latest :: before) := by
        intro between sampler older split _ different others
        cases between with
        | nil =>
          rw [nil_append, List.cons.injEq] at split
          exact absurd (split.1 ▸ equal) different
        | cons first between =>
          rw [cons_append, List.cons.injEq] at split
          exact absurd (split.1 ▸ equal) (others first (by simp))
      have member : reading.axis ∈
          if latest.taken.isSome then [latest.axis] else latest.axis :: readSince before := by
        split <;> simp [equal]
      exact iff_of_true shared (.inr member)
    · cases sampled : latest.taken with
      | some sample =>
        have unshared : ¬Shared reading (latest :: before) := by
          intro shared
          exact taken (shared [] latest before rfl (by rw [sampled]; rfl) equal (by simp))
        refine iff_of_false unshared ?_
        simp [Ne.symm equal]
      | none =>
        have same : Shared reading (latest :: before) ↔ Shared reading before := by
          constructor
          · intro shared between sampler older split isSampler different others
            refine shared (latest :: between) sampler older (by rw [split]; rfl) isSampler
              different ?_
            intro later member
            rcases mem_cons.mp member with rfl | further
            · exact equal
            · exact others later further
          · intro shared between sampler older split isSampler different others
            cases between with
            | nil =>
              rw [nil_append, List.cons.injEq] at split
              rw [← split.1, sampled] at isSampler
              exact absurd isSampler (by simp)
            | cons first between =>
              rw [cons_append, List.cons.injEq] at split
              exact shared between sampler older split.2 isSampler different
                (fun later member => others later (mem_cons_of_mem _ member))
        rw [same, ih]
        simp [Ne.symm equal]

end Laws

def IsAxis (axis : BitVec 8) : Prop :=
  axis = X ∨ axis = Y ∨ axis = Z

/-- What is common to the functions that read a sample. -/
def Reads (read : Nineax F → Nineax F × Sample F) : Prop :=
  ∀ nineax, (read nineax).1.valid = nineax.valid ∧ (read nineax).1.held = nineax.held ∧
    (read nineax).1.refcount = nineax.refcount

/-- A sense id of no axis reads nothing, any other is served by its axis. -/
theorem senseLsm9ds1_cases (sense : Sense) (notFusion : sense ≠ .fusion) (y z x : BitVec 32)
    {reader : Nineax F → Nineax F × Sample F} (reads : Reads reader) (sId : BitVec 32)
    (nineax : Nineax F) :
    axisOf.byLabel sId y z x = none ∧
        Nineax.senseLsm9ds1 sense y z x reader sId nineax = (nineax, none) ∨
      ∃ axis read value, axisOf.byLabel sId y z x = some axis ∧ IsAxis axis ∧ Reads read ∧
        (∀ taken valuedouble sample,
          value sample = component floats sense ⟨sId, axis, taken, valuedouble⟩ sample) ∧
        Nineax.senseLsm9ds1 sense y z x reader sId nineax =
          nineax.serve sense axis (7 ^^^ axis) read value sId := by
  simp only [axisOf.byLabel, Nineax.senseLsm9ds1, component, notFusion, false_and, if_false]
  split_ifs
  · exact .inr ⟨Y, _, _, rfl, .inr (.inl rfl), reads, fun _ _ _ => rfl, rfl⟩
  · exact .inr ⟨Z, _, _, rfl, .inr (.inr rfl), reads, fun _ _ _ => rfl, rfl⟩
  · exact .inr ⟨X, _, _, rfl, .inl rfl, reads, fun _ _ _ => rfl, rfl⟩
  · exact .inl ⟨rfl, rfl⟩

/-- A sense of the group is served by its axis; another one is not read. -/
theorem senseRead_cases (sense : Sense) (sId : BitVec 32) (hardware : Hardware F)
    (nineax : Nineax F) :
    axisOf sense sId = none ∧ nineax.senseRead floats sense sId hardware = (nineax, none) ∨
      ∃ axis read value, axisOf sense sId = some axis ∧ IsAxis axis ∧ Reads read ∧
        (∀ taken valuedouble sample,
          value sample = component floats sense ⟨sId, axis, taken, valuedouble⟩ sample) ∧
        nineax.senseRead floats sense sId hardware =
          nineax.serve sense axis (7 ^^^ axis) read value sId := by
  cases sense with
  | accel =>
    have reads : Reads (Nineax.readAccel floats hardware) := fun _ => ⟨rfl, rfl, rfl⟩
    simp only [axisOf, Nineax.senseRead, Nineax.senseLsm9ds1Acceleration]
    exact senseLsm9ds1_cases floats .accel (by decide) _ _ _ reads sId nineax
  | magn =>
    have reads : Reads (Nineax.readMagneticField floats hardware) := fun _ => ⟨rfl, rfl, rfl⟩
    simp only [axisOf, Nineax.senseRead, Nineax.senseLsm9ds1MagneticField]
    exact senseLsm9ds1_cases floats .magn (by decide) _ _ _ reads sId nineax
  | gyro =>
    have reads : Reads (Nineax.readGyro floats hardware) := fun _ => ⟨rfl, rfl, rfl⟩
    simp only [axisOf, Nineax.senseRead, Nineax.senseLsm9ds1AngleSpeed]
    exact senseLsm9ds1_cases floats .gyro (by decide) _ _ _ reads sId nineax
  | fusion =>
    have reads : Reads (Nineax.readFusion hardware) := fun _ => ⟨rfl, rfl, rfl⟩
    simp only [axisOf, Nineax.senseRead, Nineax.senseOrientation]
    split_ifs with heading yaw pitch roll
    · exact .inr ⟨YAW, _, _, rfl, .inl rfl, reads, fun _ _ _ => by
        rw [component, if_pos ⟨rfl, heading⟩], rfl⟩
    · exact .inr ⟨YAW, _, _, rfl, .inl rfl, reads, fun _ _ _ => by
        rw [component, if_neg (fun both => heading both.2)]; rfl, rfl⟩
    · exact .inr ⟨PITCH, _, _, rfl, .inr (.inl rfl), reads, fun _ _ _ => by
        rw [component, if_neg (fun both => heading both.2)]; rfl, rfl⟩
    · exact .inr ⟨ROLL, _, _, rfl, .inr (.inr rfl), reads, fun _ _ _ => by
        rw [component, if_neg (fun both => heading both.2)]; rfl, rfl⟩
    · exact .inl ⟨rfl, rfl⟩

/-- What the state of the file and the readings of a group have to do with its round. -/
structure Linked (sense : Sense) (nineax : Nineax F) (log : List (Reading F)) (round : Round) :
    Prop where
  references : nineax.refcount = round.references
  valid : nineax.valid sense = (round.owner.map (7 ^^^ ·)).getD 0
  axis : ∀ axis, round.owner = some axis → IsAxis axis
  seen : round.seen = readSince log
  held : log ≠ [] → log.findSome? Reading.taken = some (nineax.held sense)
  owned : round.owner ≠ none → log ≠ []

variable {sense : Sense} {nineax : Nineax F} {log : List (Reading F)} {round : Round}

theorem start_linked (zero : F) : Linked sense (.start zero) [] .start where
  references := rfl
  valid := rfl
  axis := by simp [Round.start]
  seen := rfl
  held := by simp
  owned := by simp [Round.start]

/-! ## Rounds -/

theorem others_and_axis {axis owner : BitVec 8} (isAxis : IsAxis axis) (isOwner : IsAxis owner) :
    (7 ^^^ owner) &&& axis = 0 ↔ owner = axis := by
  rcases isAxis with rfl | rfl | rfl <;> rcases isOwner with rfl | rfl | rfl <;> decide

namespace Linked

variable {axis : BitVec 8}

section

variable (linked : Linked sense nineax log round)
include linked

/-- The bit of an axis is clear exactly if its read begins a round. -/
theorem begins_iff (isAxis : IsAxis axis) :
    nineax.valid sense &&& axis = 0 ↔ round.Begins axis := by
  rw [linked.valid, Round.Begins]
  cases owner : round.owner with
  | none => simp
  | some owner => simpa using others_and_axis isAxis (linked.axis _ (by assumption))

theorem seen_eq_nil_iff : round.seen = [] ↔ log.findSome? Reading.taken = none := by
  rw [linked.seen]
  cases log with
  | nil => exact iff_of_true rfl rfl
  | cons latest before =>
    rw [linked.held (cons_ne_nil _ _), readSince]
    split <;> simp

theorem beginRound (isAxis : IsAxis axis) {after : Nineax F}
    (refcount : after.refcount = nineax.refcount) (valid : after.valid sense = 7 ^^^ axis)
    (isReading : reading.axis = axis) (taken : reading.taken = some (after.held sense)) :
    Linked sense after (reading :: log) { round with owner := some axis, seen := [axis] } where
  references := refcount.trans linked.references
  valid := valid
  axis := fun other same => Option.some.inj same ▸ isAxis
  seen := by
    rw [readSince, taken, isReading]
    rfl
  held := by
    rw [List.findSome?_cons, taken]
    exact fun _ => rfl
  owned := fun _ => cons_ne_nil _ _

theorem goOn (goesOn : ¬round.Begins axis) (isReading : reading.axis = axis)
    (untaken : reading.taken = none) :
    Linked sense nineax (reading :: log) { round with seen := axis :: round.seen } where
  references := linked.references
  valid := linked.valid
  axis := linked.axis
  seen := by
    rw [readSince, untaken, isReading, ← linked.seen]
    rfl
  held := by
    rw [List.findSome?_cons, untaken]
    exact fun _ => linked.held (linked.owned (fun none => goesOn (.inl none)))
  owned := fun _ => cons_ne_nil _ _

/-- What a reading does: it begins a round or goes on with it, and then its law is what the
condition says. -/
theorem serve {read : Nineax F → Nineax F × Sample F} {value : Sample F → F} {sId : BitVec 32}
    (isAxis : IsAxis axis) (reads : Reads read)
    (isComponent : ∀ taken valuedouble sample, value sample =
      component floats sense ⟨sId, axis, taken, valuedouble⟩ sample) :
    let served := nineax.serve sense axis (7 ^^^ axis) read value sId
    ∃ reading, served.2 = some reading ∧
      Linked sense served.1 (reading :: log) (round.read axis) ∧
      ((Fresh reading log ∧ Current floats sense reading log ∧ Shared reading log) ↔
        if round.Begins axis then round.seen = [] ∨ axis ∈ round.seen else axis ∉ round.seen) := by
  intro served
  obtain ⟨valid, held, refcount⟩ := reads nineax
  by_cases begins : round.Begins axis
  · have served_eq : served = ({ (read nineax).1 with
          held := Function.update (read nineax).1.held sense (read nineax).2
          valid := Function.update (read nineax).1.valid sense (7 ^^^ axis) },
        some ⟨sId, axis, some (read nineax).2, value (read nineax).2⟩) := by
      simp only [served, Nineax.serve, if_pos ((linked.begins_iff isAxis).mpr begins)]
    rw [served_eq, Round.read, if_pos begins, if_pos begins]
    refine ⟨_, rfl, linked.beginRound isAxis refcount (Function.update_self ..) rfl ?_, ?_⟩
    · simp only [Function.update_self]
    · have current : Current floats sense
          ⟨sId, axis, some (read nineax).2, value (read nineax).2⟩ log :=
        ⟨(read nineax).2, rfl, isComponent ..⟩
      rw [and_iff_right (fresh_of_taken rfl), and_iff_right current,
        shared_iff_mem_readSince (by simp), linked.seen_eq_nil_iff, linked.seen]
  · have served_eq : served =
        (nineax, some ⟨sId, axis, none, value (nineax.held sense)⟩) := by
      simp only [served, Nineax.serve, if_neg (mt (linked.begins_iff isAxis).mp begins)]
    rw [served_eq, Round.read, if_neg begins, if_neg begins]
    refine ⟨_, rfl, linked.goOn begins rfl rfl, ?_⟩
    have nonempty := linked.owned (fun none => begins (.inl none))
    have current : Current floats sense ⟨sId, axis, none, value (nineax.held sense)⟩ log :=
      ⟨nineax.held sense, linked.held nonempty, isComponent ..⟩
    rw [fresh_iff_notMem_readSince rfl, and_iff_left ⟨current, shared_of_untaken rfl⟩,
      linked.seen]

/-- Nothing but a reading changes what is known of the group. -/
theorem keep {after : Nineax F} (refcount : after.refcount = nineax.refcount)
    (valid : after.valid sense = nineax.valid sense) (held : after.held sense = nineax.held sense) :
    Linked sense after log round where
  references := refcount.trans linked.references
  valid := valid.trans linked.valid
  axis := linked.axis
  seen := linked.seen
  held := fun nonempty => held ▸ linked.held nonempty
  owned := linked.owned

theorem senseOrientationInit (started : Started F) :
    Linked sense (nineax.senseOrientationInit floats started) log
      (round.next sense (.senseOrientationInit started)) := by
  rw [Nineax.senseOrientationInit, Round.next, ← linked.references]
  by_cases fails : nineax.refcount = 0 ∧ started.fd < 0
  · simp only [if_pos fails]
    exact linked.keep rfl rfl rfl
  · simp only [if_neg fails]
    refine ⟨?_, rfl, by simp, linked.seen, ?_, by simp⟩
    · split <;> rfl
    · split <;> exact linked.held

theorem senseOrientationUninit :
    Linked sense nineax.senseOrientationUninit log
      { round with references := round.references - 1 } := by
  rw [Nineax.senseOrientationUninit]
  split <;> exact ⟨congrArg (· - 1) linked.references, linked.valid, linked.axis, linked.seen,
    linked.held, linked.owned⟩

end

end Linked

/-- A reading of another group. -/
theorem serve_apart {other : Sense} {axis others : BitVec 8}
    {read : Nineax F → Nineax F × Sample F} {value : Sample F → F} {sId : BitVec 32}
    (reads : Reads read) (apart : sense ≠ other) (linked : Linked sense nineax log round) :
    Linked sense (nineax.serve other axis others read value sId).1 log round := by
  obtain ⟨valid, held, refcount⟩ := reads nineax
  rw [Nineax.serve]
  split
  · refine linked.keep refcount ?_ ?_
    · simp only [Function.update_of_ne apart, valid]
    · simp only [Function.update_of_ne apart, held]
  · exact linked

/-- One call, for the readings of one group. -/
theorem step_linked {recorded : Recorded F}
    (linked : Linked sense recorded.nineax (recorded.log sense) round) (call : Call F) :
    let after := recorded.step floats call
    Linked sense after.nineax (after.log sense) (round.next sense call) ∧
      (FreshAndConsistent floats sense (recorded.log sense) →
        (FreshAndConsistent floats sense (after.log sense) ↔ round.Admits sense call)) := by
  cases call with
  | senseOrientationInit started =>
    exact ⟨linked.senseOrientationInit floats started, fun right => iff_of_true right trivial⟩
  | senseOrientationUninit =>
    exact ⟨linked.senseOrientationUninit, fun right => iff_of_true right trivial⟩
  | senseRead other sId hardware =>
    rcases senseRead_cases floats other sId hardware recorded.nineax with
      ⟨none, same⟩ | ⟨axis, read, value, some, isAxis, reads, isComponent, same⟩
    · simp only [Recorded.step, Round.next, Round.Admits, same, Option.toList_none,
        nil_append, Function.update_eq_self]
      by_cases equal : other = sense
      · subst equal
        rw [if_pos rfl, none]
        exact ⟨linked, fun right => iff_of_true right (by simp)⟩
      · rw [if_neg equal]
        exact ⟨linked, fun right => iff_of_true right fun isSense => absurd isSense equal⟩
    · by_cases equal : other = sense
      · subst equal
        obtain ⟨reading, isReading, after, law⟩ :=
          linked.serve floats isAxis reads isComponent
        simp only [Recorded.step, Round.next, Round.Admits, same, isReading, some,
          Function.update_self, Option.toList_some, singleton_append, if_true]
        refine ⟨after, fun right => ?_⟩
        rw [FreshAndConsistent, Throughout, law]
        constructor
        · rintro ⟨admits, _⟩ _ other isOther
          rw [← Option.some.inj isOther]
          exact admits
        · intro admits
          exact ⟨admits trivial axis rfl, right⟩
      · simp only [Recorded.step, Round.next, Round.Admits, same,
          Function.update_of_ne (Ne.symm equal), if_neg equal]
        exact ⟨serve_apart reads (Ne.symm equal) linked,
          fun right => iff_of_true right fun isSense => absurd isSense equal⟩

/-- In every run, the readings of a group are fresh and consistent exactly if in each round every
axis is read once at most, and the first reading of the next round is of an axis that has been
read. -/
theorem freshAndConsistent_iff (zero : F) (sense : Sense) (calls : List (Call F)) :
    (∀ reached, reached <+: calls →
      FreshAndConsistent floats sense
        ((reached.foldl (Recorded.step floats) (.start zero)).log sense)) ↔
      Guarded (Round.next sense) (Round.Admits sense) .start calls := by
  let both (state : Recorded F × Round) (call : Call F) : Recorded F × Round :=
    (state.1.step floats call, state.2.next sense call)
  have firsts (reached : List (Call F)) :
      (reached.foldl both (.start zero, .start)).1 =
        reached.foldl (Recorded.step floats) (.start zero) :=
    (foldl_hom Prod.fst (fun _ _ => rfl)).symm
  have run : (∀ reached, reached <+: calls →
      FreshAndConsistent floats sense
        ((reached.foldl both (.start zero, .start)).1.log sense)) ↔
      Guarded both (fun state call => state.2.Admits sense call) (.start zero, .start) calls := by
    apply forall_prefix_iff_guarded (fun state : Recorded F × Round =>
      Linked sense state.1.nineax (state.1.log sense) state.2)
      (fun state => FreshAndConsistent floats sense (state.1.log sense))
    · exact fun state call linked => (step_linked floats linked call).1
    · exact fun state call linked right => (step_linked floats linked call).2 right
    · exact start_linked zero
    · trivial
  simp only [firsts] at run
  rw [run]
  exact guarded_map Prod.snd (fun _ _ => rfl)

/-- The integers in place of `float`. -/
def integers : Floats Int :=
  ⟨id, (· * ·), (· - ·), (· + ·), (· < 0)⟩

/-- A reading of an axis of the acceleration. -/
def accelerationOf (sId : BitVec 32) (data : Sample (BitVec 16)) : Call Int :=
  .senseRead .accel sId ⟨data, true, ⟨0, 0, 0⟩⟩

/-- X takes a sample, and both readings of Y return its second component, though the sensor has
another one at the second reading. -/
theorem longitudinal_twice :
    let calls := [.senseOrientationInit ⟨3, fun _ => 0, 1, 1, 1⟩,
      accelerationOf senseIdLateral ⟨1, 2, 3⟩, accelerationOf senseIdLongitudinal ⟨4, 5, 6⟩,
      accelerationOf senseIdLongitudinal ⟨7, 8, 9⟩]
    let log := (calls.foldl (Recorded.step integers) (.start 0)).log .accel
    log.map Reading.value = [2, 2, 1] ∧ ¬FreshAndConsistent integers .accel log := by
  intro calls log
  refine ⟨by decide, ?_⟩
  rintro ⟨⟨fresh, _⟩, _⟩
  obtain ⟨sampler, member, taken⟩ := fresh [] _ _ rfl rfl
  rw [mem_singleton.mp member] at taken
  exact absurd taken (by decide)

end Thingsee.Senses.NineAxis
