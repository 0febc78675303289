import Mathlib.Data.List.Nodup
import Mathlib.Logic.Function.Basic

/-!
Owns the pins around stop mode (up_gpio.c, `board_modem_setup_suspend_gpios`, up_deepsleep.c):
which registers are written before and behind it, and when a sleep leaves all pins as they were.

The fields of a `cfgset` do not overlap, but bit 8, which is `GPIO_OUTPUT_SET` and `GPIO_EXTI`.
-/

namespace Thingsee.DeepSleep.Pins

open List

inductive Mode where
  | input | output | alt | analog
deriving DecidableEq

def Mode.drives : Mode → Bool
  | .output | .alt => true
  | .input | .analog => false

def Mode.isInput : Mode → Bool
  | .input => true
  | _ => false

structure Pin where
  port : Nat
  pin : Nat
deriving DecidableEq

/-- The fields of a pin in MODER, PUPDR, AFR, OSPEED, OTYPER and ODR. -/
structure Registers where
  mode : Mode
  pupd : Fin 4
  af : Fin 16
  speed : Fin 4
  openDrain : Bool
  odr : Bool
deriving DecidableEq

/-- EXTICR holds a port for each pin number, IMR a bit. -/
@[ext]
structure Gpio where
  regs : Pin → Registers
  exticr : Nat → Nat
  imr : Nat → Bool

structure Cfgset where
  pin : Pin
  mode : Mode
  af : Fin 16 := 0
  pupd : Fin 4 := 0
  speed : Fin 4 := 0
  openDrain : Bool := false
  bit8 : Bool := false
  inputHigh : Bool := false

/-- The registers of the pin behind `stm32_configgpio`. -/
def Cfgset.programmed (cfgset : Cfgset) (r : Registers) : Registers where
  mode := cfgset.mode
  pupd := if cfgset.mode = .analog ∨ cfgset.pupd = 3 then 0 else cfgset.pupd
  af := if cfgset.mode = .alt then cfgset.af else 0
  speed := if cfgset.mode.drives then cfgset.speed else 0
  openDrain := cfgset.mode.drives && cfgset.openDrain
  odr := if cfgset.mode = .output then cfgset.bit8 else r.odr

/-- `stm32_configgpio`, for a port that exists. -/
def configgpio (cfgset : Cfgset) (g : Gpio) : Gpio where
  regs := Function.update g.regs cfgset.pin (cfgset.programmed (g.regs cfgset.pin))
  exticr :=
    if cfgset.mode ≠ .output ∧ cfgset.bit8 then
      Function.update g.exticr cfgset.pin.pin cfgset.pin.port
    else g.exticr
  imr := g.imr

/-- `stm32_gpiowrite`. -/
def gpiowrite (pin : Pin) (value : Bool) (g : Gpio) : Gpio :=
  { g with regs := Function.update g.regs pin { g.regs pin with odr := value } }

/-- `board_gpioconfig`. `level` is IDR. -/
def gpioconfig (level : Pin → Bool) (g : Gpio) (pin : Pin) : Cfgset where
  pin := pin
  mode := (g.regs pin).mode
  af := (g.regs pin).af
  pupd := (g.regs pin).pupd
  speed := (g.regs pin).speed
  openDrain := (g.regs pin).openDrain
  bit8 :=
    match (g.regs pin).mode with
    | .output => (g.regs pin).odr
    | .input => g.exticr pin.pin == pin.port && g.imr pin.pin
    | _ => false
  inputHigh := (g.regs pin).mode.isInput && level pin

/-- What remains of a pin that is configured as it was read: the fields without a meaning in
the mode are cleared. -/
def Registers.plain (r : Registers) : Registers where
  mode := r.mode
  pupd := if r.mode = .analog ∨ r.pupd = 3 then 0 else r.pupd
  af := if r.mode = .alt then r.af else 0
  speed := if r.mode.drives then r.speed else 0
  openDrain := r.mode.drives && r.openDrain
  odr := r.odr

/-! ## Pins of the board -/

inductive Hwver where
  | b1_5 | b1_7 | b2_0

/-- `GPIO_HWWDG_DONE`, which `up_dyngpio` asserts to exist. -/
def hwwdgDone : Hwver → Option Pin
  | .b2_0 => some ⟨2, 6⟩
  | _ => none

def regulatorSdcard : Pin := ⟨3, 10⟩
def pwrSwitchModem : Pin := ⟨3, 11⟩

/-- `GPIO_PWR_SWITCH_VBAT_ADC` of the version 2.0. -/
def pwrSwitchVbatAdc : Pin := ⟨4, 4⟩

def spi3Mosi : Cfgset := { pin := ⟨1, 5⟩, mode := .alt, af := 6, speed := 3 }
def spi3Miso : Cfgset := { pin := ⟨2, 11⟩, mode := .alt, af := 6, speed := 3 }
def spi3Sck : Cfgset := { pin := ⟨2, 10⟩, mode := .alt, af := 6, speed := 3 }
def chipSelectSdcard : Cfgset := { pin := ⟨3, 12⟩, mode := .output, bit8 := true, speed := 3 }
def usart2Rts : Cfgset := { pin := ⟨0, 1⟩, mode := .alt, af := 7 }
def usart3Rts : Cfgset := { pin := ⟨1, 14⟩, mode := .alt, af := 7 }
def usart3Rx : Cfgset := { pin := ⟨3, 9⟩, mode := .alt, af := 7, pupd := 1, speed := 3 }
def usart3Cts : Cfgset := { pin := ⟨1, 13⟩, mode := .alt, af := 7 }
def modemTxBurst : Cfgset := { pin := ⟨5, 2⟩, mode := .output }
def modemPowerOn : Cfgset := { pin := ⟨2, 8⟩, mode := .output, bit8 := true, openDrain := true }
def modemResetN : Cfgset := { pin := ⟨2, 9⟩, mode := .output, bit8 := true, openDrain := true }

/-- `(pinset & gpio_off_mask) | mode`. -/
def Cfgset.off (cfgset : Cfgset) (mode : Mode) : Cfgset :=
  { cfgset with mode, pupd := 0, bit8 := false }

/-- The bits of `excluded_gpios`, in the order of the calls of `gpio_add_excluded`. -/
def excludedGpios (hwwdgDone : Pin) : List Pin :=
  [⟨2, 14⟩, ⟨2, 15⟩, hwwdgDone, ⟨0, 4⟩, ⟨0, 8⟩, ⟨2, 2⟩, ⟨2, 7⟩, ⟨3, 0⟩, ⟨2, 12⟩, ⟨0, 10⟩, ⟨0, 9⟩,
    ⟨1, 9⟩, ⟨3, 8⟩, usart3Rts.pin, usart3Rx.pin, usart3Cts.pin, modemTxBurst.pin,
    modemPowerOn.pin, modemResetN.pin, pwrSwitchModem, ⟨1, 12⟩, ⟨1, 15⟩, ⟨3, 1⟩, ⟨3, 14⟩, ⟨3, 13⟩,
    ⟨3, 15⟩, spi3Mosi.pin, spi3Miso.pin, spi3Sck.pin, chipSelectSdcard.pin]

/-! ## Save and restore -/

def gpioportPins (port : Nat) : Nat := if port = 5 then 3 else 16

/-- The pins that the loops visit. Only the first one takes them from `pins_left`. -/
def visitedPins (takes : Bool) : (pinsLeft : Nat) → (ports : List Nat) → List Pin
  | _, [] => []
  | pinsLeft, port :: ports =>
    let pins := if gpioportPins port ≤ pinsLeft then gpioportPins port else pinsLeft
    (List.range pins).map (Pin.mk port) ++
      visitedPins takes (if takes then pinsLeft - pins else pinsLeft) ports

abbrev PortConfig := Nat → Option Cfgset

/-- The inputs that wake the board. -/
def isExti (level : Pin → Bool) (g : Gpio) (pin : Pin) : Bool :=
  (gpioconfig level g pin).mode.isInput && (gpioconfig level g pin).bit8

/-- A turn of the loop of `up_reconfigure_gpios_for_pmstop`, for a pin and its slot. -/
def reconfigurePin (level : Pin → Bool) (excluded : List Pin) (now : Gpio × PortConfig)
    (turn : Pin × Nat) : Gpio × PortConfig :=
  if isExti level now.1 turn.1 || excluded.contains turn.1 then
    (now.1, Function.update now.2 turn.2 none)
  else
    (configgpio { pin := turn.1, mode := .analog } now.1,
      Function.update now.2 turn.2 (some (gpioconfig level now.1 turn.1)))

/-- `up_reconfigure_gpios_for_pmstop`. -/
def reconfigureGpios (level : Pin → Bool) (excluded : List Pin) (now : Gpio × PortConfig) :
    Gpio × PortConfig :=
  (visitedPins true 83 (List.range 6)).zipIdx.foldl (reconfigurePin level excluded) now

def restorePin (portConfig : PortConfig) (g : Gpio) (turn : Pin × Nat) : Gpio :=
  match portConfig turn.2 with
  | none => g
  | some cfgset => configgpio cfgset g

/-- `up_restore_gpios_after_pmstop`. -/
def restoreGpios (now : Gpio × PortConfig) : Gpio :=
  (visitedPins false 83 (List.range 6)).zipIdx.foldl (restorePin now.2) now.1

/-! ## Deep sleep -/

inductive Act where
  | config (cfgset : Cfgset)
  | write (pin : Pin) (value : Bool)

def Act.apply : Act → Gpio → Gpio
  | .config cfgset, g => configgpio cfgset g
  | .write pin value, g => gpiowrite pin value g

def perform (acts : List Act) (g : Gpio) : Gpio := acts.foldl (fun g act => act.apply g) g

/-- What a sleep meets: the levels of the pins, the open ports with input flow control, and
whether the battery is measured while no one else uses the switch for it. -/
structure Circumstances where
  hwver : Hwver
  level : Pin → Bool
  usart2 : Bool
  usart3 : Bool
  measuresVbat : Bool

variable (c : Circumstances)

def rtsGpios : List Cfgset :=
  (if c.usart2 then [usart2Rts] else []) ++ if c.usart3 then [usart3Rts] else []

/-- `stm32_serial_set_suspend`. -/
def serialSetSuspend (suspend : Bool) : List Act :=
  (rtsGpios c).map fun rts =>
    .config (if suspend then { rts with mode := .output, bit8 := true } else rts)

/-- The configurations that the modem gets back. -/
def modemGpios : List Cfgset :=
  [usart3Rx, usart3Cts, modemTxBurst.off .analog, modemPowerOn, modemResetN]

/-- `board_modem_setup_suspend_gpios`: a high level of the switch, with which the modem is on,
counts as powered off. -/
def modemSetupSuspendGpios (suspend : Bool) : List Act :=
  if c.level pwrSwitchModem then []
  else
    modemGpios.map fun cfgset => .config (if suspend then cfgset.off .analog else cfgset)

/-- The configurations that the SD card gets back. -/
def sdcardGpios : List Cfgset :=
  [spi3Mosi, { spi3Miso with pupd := 1 }, spi3Sck, chipSelectSdcard]

def beforeStop : List Act :=
  serialSetSuspend c true ++ (modemSetupSuspendGpios c true ++ .write regulatorSdcard false ::
    sdcardGpios.map fun cfgset => .config (cfgset.off .output))

/-- `board_pwr_checkvbat`. -/
def checkVbat : List Act :=
  if c.measuresVbat then [.write pwrSwitchVbatAdc true, .write pwrSwitchVbatAdc false] else []

def behindStop : List Act :=
  modemSetupSuspendGpios c false ++ (serialSetSuspend c false ++ (checkVbat c ++
    (sdcardGpios.map .config ++
      if c.level regulatorSdcard then [.write regulatorSdcard true] else [])))

/-- `board_deepsleep_with_stopmode_msecs` from the suspension of the serial ports on. There is no
result where an assertion fails. -/
def deepsleep (portConfig : PortConfig) (g : Gpio) : Option Gpio :=
  (hwwdgDone c.hwver).map fun done =>
    perform (behindStop c) (restoreGpios
      (reconfigureGpios c.level (excludedGpios done) (perform (beforeStop c) g, portConfig)))

/-- The levels with which it gets that far. -/
def entersStopMode (level : Pin → Bool) : Bool :=
  level chipSelectSdcard.pin && !level ⟨3, 6⟩ && !level ⟨1, 8⟩

/-! ## One pin -/

def Act.on (pin : Pin) (r : Registers) : Act → Registers
  | .config cfgset => if pin = cfgset.pin then cfgset.programmed r else r
  | .write written value => if pin = written then { r with odr := value } else r

def Act.pin : Act → Pin
  | .config cfgset => cfgset.pin
  | .write pin _ => pin

/-- No EXTI line is assigned. -/
def Act.Quiet : Act → Prop
  | .config cfgset => cfgset.mode = .output ∨ cfgset.bit8 = false
  | .write _ _ => True

variable (acts : List Act) (portConfig : PortConfig) (g : Gpio)

theorem perform_spec (quiet : ∀ act ∈ acts, act.Quiet) :
    perform acts g = { g with regs := fun pin => acts.foldl (Act.on pin) (g.regs pin) } := by
  induction acts generalizing g with
  | nil => rfl
  | cons act acts ih =>
    have one : act.apply g = { g with regs := fun pin => act.on pin (g.regs pin) } := by
      have calm := quiet act mem_cons_self
      cases act with
      | config cfgset =>
        have kept : ¬(cfgset.mode ≠ .output ∧ cfgset.bit8) := by
          rintro ⟨other, set⟩
          rcases calm with same | clear
          · exact other same
          · rw [clear] at set
            cases set
        refine Gpio.ext (funext fun pin => ?_) (if_neg kept) rfl
        show Function.update g.regs cfgset.pin _ pin = Act.on pin (g.regs pin) (.config cfgset)
        rw [Function.update_apply, Act.on]
        split <;> simp_all
      | write written value =>
        refine Gpio.ext (funext fun pin => ?_) rfl rfl
        show Function.update g.regs written _ pin = Act.on pin (g.regs pin) (.write written value)
        rw [Function.update_apply, Act.on]
        split <;> simp_all
    show perform acts (act.apply g) = _
    rw [ih _ fun act member => quiet act (mem_cons_of_mem _ member), one]
    rfl

theorem foldl_on_of_notMem (pin : Pin) (r : Registers) (apart : pin ∉ acts.map Act.pin) :
    acts.foldl (Act.on pin) r = r := by
  induction acts with
  | nil => rfl
  | cons act acts ih =>
    rw [map_cons, mem_cons, not_or] at apart
    have same : act.on pin r = r := by
      cases act with
      | config cfgset => exact if_neg apart.1
      | write written value => exact if_neg apart.1
    rw [foldl_cons, same, ih apart.2]

/-- The slot of a pin. -/
def saved (level : Pin → Bool) (excluded : List Pin) (g : Gpio) (pin : Pin) : Option Cfgset :=
  if isExti level g pin || excluded.contains pin then none else some (gpioconfig level g pin)

variable (level : Pin → Bool) (excluded : List Pin)

theorem reconfigurePin_eq (now : Gpio × PortConfig) (turn : Pin × Nat) :
    reconfigurePin level excluded now turn =
      (if (saved level excluded now.1 turn.1).isSome then
          perform [.config { pin := turn.1, mode := .analog }] now.1
        else now.1,
        Function.update now.2 turn.2 (saved level excluded now.1 turn.1)) := by
  unfold reconfigurePin saved
  split <;> rfl

/-- The loop visits each pin once, so that it reads what the pin was at first. -/
theorem foldl_reconfigurePin (level : Pin → Bool) (excluded pins : List Pin) (start : Nat)
    (now : Gpio × PortConfig) (nodup : pins.Nodup) :
    let asleep := (pins.zipIdx start).foldl (reconfigurePin level excluded) now
    asleep.1 = { now.1 with
      regs := fun pin =>
        if pin ∈ pins ∧ (saved level excluded now.1 pin).isSome then
          Cfgset.programmed { pin, mode := .analog } (now.1.regs pin)
        else now.1.regs pin } ∧
    (∀ slot < start, asleep.2 slot = now.2 slot) ∧
    ∀ turn ∈ pins.zipIdx start, asleep.2 turn.2 = saved level excluded now.1 turn.1 := by
  induction pins generalizing start now with
  | nil => simp
  | cons first pins ih =>
    obtain ⟨fresh, nodup⟩ := nodup_cons.mp nodup
    rw [zipIdx_cons, foldl_cons, reconfigurePin_eq]
    generalize chosen : saved level excluded now.1 first = slot
    set g : Gpio := if slot.isSome then
      perform [.config { pin := first, mode := .analog }] now.1 else now.1 with next
    have shape : g = { now.1 with
        regs := fun pin =>
          if pin = first ∧ slot.isSome then
            Cfgset.programmed { pin, mode := .analog } (now.1.regs pin)
          else now.1.regs pin } := by
      rw [next]
      split
      · rename_i some
        rw [perform_spec _ _ (by simp [Act.Quiet])]
        simp only [foldl_cons, foldl_nil, Act.on, some, and_true]
        rfl
      · rename_i none
        simp [none]
    have others : ∀ pin ∈ pins, g.regs pin = now.1.regs pin ∧
        saved level excluded g pin = saved level excluded now.1 pin := by
      intro pin member
      have apart : pin ≠ first := fun same => fresh (same ▸ member)
      have regs : g.regs pin = now.1.regs pin := by rw [shape]; simp [apart]
      refine ⟨regs, ?_⟩
      have lines : g.exticr = now.1.exticr ∧ g.imr = now.1.imr := by
        rw [shape]
        exact ⟨rfl, rfl⟩
      have read : gpioconfig level g pin = gpioconfig level now.1 pin := by
        simp only [gpioconfig, regs, lines]
      rw [saved, saved, isExti, isExti, read]
    obtain ⟨result, before, slots⟩ :=
      ih (start + 1) (g, Function.update now.2 start slot) nodup
    refine ⟨?_, ?_, ?_⟩
    · rw [result]
      simp only [shape, Gpio.mk.injEq, and_true]
      funext pin
      by_cases same : pin = first
      · subst same
        simp [fresh, chosen]
      · by_cases member : pin ∈ pins
        · have kept := (others pin member).2
          simp only [shape] at kept
          simp [same, member, kept]
        · simp [same, member]
    · intro slot' low
      rw [before slot' (by omega)]
      exact Function.update_of_ne (by omega) _ _
    · intro turn member
      rcases mem_cons.mp member with rfl | member
      · rw [before start (by omega), chosen]
        exact Function.update_self ..
      · rw [slots turn member, (others turn.1 (fst_mem_of_mem_zipIdx member)).2]

theorem foldl_restorePin (pins : List Pin) (start : Nat) (portConfig : PortConfig) (g now : Gpio)
    (nodup : pins.Nodup)
    (slots : ∀ turn ∈ pins.zipIdx start, portConfig turn.2 = saved level excluded g turn.1) :
    (pins.zipIdx start).foldl (restorePin portConfig) now = { now with
      regs := fun pin =>
        if pin ∈ pins ∧ (saved level excluded g pin).isSome then
          (gpioconfig level g pin).programmed (now.regs pin)
        else now.regs pin } := by
  induction pins generalizing start now with
  | nil => simp
  | cons first pins ih =>
    obtain ⟨fresh, nodup⟩ := nodup_cons.mp nodup
    rw [zipIdx_cons] at slots ⊢
    have slot := slots _ mem_cons_self
    have shape : restorePin portConfig now (first, start) = { now with
        regs := fun pin =>
          if pin = first ∧ (saved level excluded g pin).isSome then
            (gpioconfig level g pin).programmed (now.regs pin)
          else now.regs pin } := by
      rw [restorePin, slot, saved]
      by_cases left : isExti level g first || excluded.contains first
      · rw [if_pos left]
        refine Gpio.ext (funext fun pin => ?_) rfl rfl
        refine (if_neg ?_).symm
        rintro ⟨rfl, some⟩
        rw [saved, if_pos left] at some
        cases some
      · rw [if_neg left]
        have quiet : (gpioconfig level g first).mode = .output ∨
            (gpioconfig level g first).bit8 = false := by
          cases mode : (g.regs first).mode <;> simp_all [isExti, gpioconfig, Mode.isInput]
        have one := perform_spec [.config (gpioconfig level g first)] now (by simpa [Act.Quiet])
        refine one.trans ?_
        refine Gpio.ext (funext fun pin => ?_) rfl rfl
        by_cases same : pin = first
        · subst same
          have kept : saved level excluded g pin = some (gpioconfig level g pin) := if_neg left
          simp [Act.on, kept, gpioconfig]
        · simp [Act.on, same, gpioconfig]
    rw [foldl_cons, shape,
      ih (start + 1) _ nodup fun turn member => slots turn (mem_cons_of_mem _ member)]
    refine Gpio.ext (funext fun pin => ?_) rfl rfl
    by_cases same : pin = first
    · subst same
      simp [fresh]
    · simp [same]

theorem visitedPins_eq :
    visitedPins false 83 (List.range 6) = visitedPins true 83 (List.range 6) := by
  decide

theorem nodup_visitedPins : (visitedPins true 83 (List.range 6)).Nodup := by
  decide

/-- **Each pin that was saved comes back plain.** -/
theorem restoreGpios_reconfigureGpios :
    restoreGpios (reconfigureGpios level excluded (g, portConfig)) = { g with
      regs := fun pin =>
        if pin ∈ visitedPins true 83 (List.range 6) ∧ (saved level excluded g pin).isSome then
          (g.regs pin).plain
        else g.regs pin } := by
  obtain ⟨regs, -, slots⟩ :=
    foldl_reconfigurePin level excluded _ 0 (g, portConfig) nodup_visitedPins
  rw [restoreGpios, visitedPins_eq, reconfigureGpios,
    foldl_restorePin level excluded _ 0 _ g _ nodup_visitedPins slots, regs]
  refine Gpio.ext (funext fun pin => ?_) rfl rfl
  by_cases kept : pin ∈ visitedPins true 83 (List.range 6) ∧
    (saved level excluded g pin).isSome
  · cases mode : (g.regs pin).mode <;>
      simp [kept, gpioconfig, Cfgset.programmed, Registers.plain, mode]
  · simp [kept]

/-! ## Which sleeps leave the pins alone -/

/-- What the registers are at a call that leaves them alone. -/
structure ComesBack (g : Gpio) : Prop where
  board : c.hwver = .b2_0
  sdcard : ∀ cfgset ∈ sdcardGpios,
    cfgset.programmed { g.regs cfgset.pin with odr := false } = g.regs cfgset.pin
  modem : c.level pwrSwitchModem = false →
    ∀ cfgset ∈ modemGpios, cfgset.programmed (g.regs cfgset.pin) = g.regs cfgset.pin
  serial : ∀ rts ∈ rtsGpios c,
    rts.programmed { g.regs rts.pin with odr := true } = g.regs rts.pin
  regulator : (g.regs regulatorSdcard).odr = c.level regulatorSdcard
  vbat : c.measuresVbat → (g.regs pwrSwitchVbatAdc).odr = false
  others : ∀ pin ∈ visitedPins true 83 (List.range 6), pin ∉ excludedGpios ⟨2, 6⟩ →
    isExti c.level g pin = false → pin ∉ (rtsGpios c).map Cfgset.pin →
      (g.regs pin).plain = g.regs pin

def atStop (g : Gpio) : Gpio :=
  { g with regs := fun pin => (beforeStop c).foldl (Act.on pin) (g.regs pin) }

def slept (g : Gpio) (pin : Pin) : Registers :=
  (behindStop c).foldl (Act.on pin)
    (if pin ∈ visitedPins true 83 (List.range 6) ∧
        (saved c.level (excludedGpios ⟨2, 6⟩) (atStop c g) pin).isSome then
      ((atStop c g).regs pin).plain
    else (atStop c g).regs pin)

theorem quiet_of_mem (act : Act) (member : act ∈ beforeStop c ++ behindStop c) : act.Quiet := by
  revert act
  simp [beforeStop, behindStop, serialSetSuspend, modemSetupSuspendGpios, checkVbat, rtsGpios,
    modemGpios, sdcardGpios, or_imp, forall_and, Act.Quiet, Cfgset.off, usart2Rts,
      usart3Rts, usart3Rx,
    usart3Cts, modemTxBurst, modemPowerOn, modemResetN, spi3Mosi, spi3Miso, spi3Sck,
    chipSelectSdcard]

theorem deepsleep_eq_some_iff :
    deepsleep c portConfig g = some g ↔
      c.hwver = .b2_0 ∧ ∀ pin, slept c g pin = g.regs pin := by
  have before := perform_spec (beforeStop c) g fun act member =>
    quiet_of_mem c act (mem_append_left _ member)
  have behind := fun g => perform_spec (behindStop c) g fun act member =>
    quiet_of_mem c act (mem_append_right _ member)
  cases version : c.hwver with
  | b2_0 =>
    rw [deepsleep, version]
    show some (perform (behindStop c) (restoreGpios (reconfigureGpios c.level (excludedGpios ⟨2, 6⟩)
      (perform (beforeStop c) g, portConfig)))) = some g ↔ _
    rw [before, restoreGpios_reconfigureGpios, behind, Option.some_inj, Gpio.ext_iff]
    simp only [and_true, true_and, funext_iff]
    rfl
  | b1_5 | b1_7 => simp [deepsleep, version, hwwdgDone]

theorem foldl_ite {α β : Type} (f : α → β → α) (start : α) (p : Prop) [Decidable p]
    (items others : List β) : (if p then items else others).foldl f start =
      if p then items.foldl f start else others.foldl f start := by
  split <;> rfl

/-- The pins that are written by name. -/
def namedPins : List Pin :=
  sdcardGpios.map Cfgset.pin ++ (modemGpios.map Cfgset.pin ++
    [usart2Rts.pin, usart3Rts.pin, regulatorSdcard, pwrSwitchVbatAdc])

variable (pin : Pin)

theorem foldl_on_of_notMem_namedPins (apart : pin ∉ namedPins) (r : Registers) :
    (beforeStop c).foldl (Act.on pin) r = r ∧ (behindStop c).foldl (Act.on pin) r = r := by
  have named : ∀ act ∈ beforeStop c ++ behindStop c, act.pin ∈ namedPins := by
    simp [beforeStop, behindStop, serialSetSuspend, modemSetupSuspendGpios, checkVbat, rtsGpios,
      modemGpios, sdcardGpios, or_imp, forall_and, Act.pin, Cfgset.off, namedPins]
  refine ⟨foldl_on_of_notMem _ _ _ ?_, foldl_on_of_notMem _ _ _ ?_⟩ <;> intro member <;>
    obtain ⟨act, listed, rfl⟩ := mem_map.mp member
  · exact apart (named act (mem_append_left _ listed))
  · exact apart (named act (mem_append_right _ listed))

/-- A pin that is not written by name. -/
def kept (g : Gpio) (pin : Pin) : Registers :=
  if pin ∈ visitedPins true 83 (List.range 6) ∧ pin ∉ excludedGpios ⟨2, 6⟩ ∧
      isExti c.level g pin = false then
    (g.regs pin).plain
  else g.regs pin

theorem slept_eq : slept c g pin = (behindStop c).foldl (Act.on pin) (kept c (atStop c g) pin) := by
  have same : (saved c.level (excludedGpios ⟨2, 6⟩) (atStop c g) pin).isSome ↔
      pin ∉ excludedGpios ⟨2, 6⟩ ∧ isExti c.level (atStop c g) pin = false := by
    rw [saved]
    cases isExti c.level (atStop c g) pin <;> simp
  rw [slept, kept]
  simp only [same]

theorem kept_of_mem_excludedGpios (member : pin ∈ excludedGpios ⟨2, 6⟩) :
    kept c g pin = g.regs pin :=
  if_neg fun all => all.2.1 member

theorem odr_kept : (kept c g pin).odr = (g.regs pin).odr := by
  rw [kept]
  split <;> rfl

theorem programmed_eq (cfgset : Cfgset) (r r' : Registers) (same : r.odr = r'.odr) :
    cfgset.programmed r = cfgset.programmed r' := by
  simp only [Cfgset.programmed, same]

section Named

attribute [local simp] Act.on beforeStop behindStop serialSetSuspend modemSetupSuspendGpios
  checkVbat rtsGpios modemGpios sdcardGpios foldl_ite foldl_map

theorem slept_sdcard : ∀ cfgset ∈ sdcardGpios,
    slept c g cfgset.pin = cfgset.programmed { g.regs cfgset.pin with odr := false } := by
  intro cfgset member
  rw [slept_eq, kept_of_mem_excludedGpios _ _ _ (by revert cfgset; decide)]
  simp only [sdcardGpios, mem_cons, not_mem_nil, or_false] at member
  rcases member with rfl | rfl | rfl | rfl <;> simp +decide [atStop] <;> rfl

theorem slept_modem : ∀ cfgset ∈ modemGpios, slept c g cfgset.pin =
    if c.level pwrSwitchModem then g.regs cfgset.pin
    else cfgset.programmed (g.regs cfgset.pin) := by
  intro cfgset member
  rw [slept_eq, kept_of_mem_excludedGpios _ _ _ (by revert cfgset; decide)]
  simp only [modemGpios, mem_cons, not_mem_nil, or_false] at member
  rcases member with rfl | rfl | rfl | rfl | rfl <;> by_cases off : c.level pwrSwitchModem <;>
    simp +decide [atStop, off] <;> rfl

theorem slept_usart3Rts : slept c g usart3Rts.pin =
    if c.usart3 then usart3Rts.programmed { g.regs usart3Rts.pin with odr := true }
    else g.regs usart3Rts.pin := by
  rw [slept_eq, kept_of_mem_excludedGpios _ _ _ (by decide)]
  by_cases opened : c.usart3 <;> simp +decide [atStop, opened]
  rfl

theorem slept_usart2Rts : slept c g usart2Rts.pin =
    if c.usart2 then usart2Rts.programmed { g.regs usart2Rts.pin with odr := true }
    else kept c g usart2Rts.pin := by
  rw [slept_eq]
  by_cases opened : c.usart2
  · simp +decide only [behindStop, serialSetSuspend, rtsGpios, opened]
    simp +decide
    refine programmed_eq _ _ _ ?_
    rw [odr_kept]
    simp +decide [atStop, opened, Cfgset.programmed]
  · simp +decide [opened, kept, isExti, gpioconfig, atStop]

theorem slept_regulatorSdcard : slept c g regulatorSdcard =
    { kept c g regulatorSdcard with odr := c.level regulatorSdcard } := by
  have low : (atStop c g).regs regulatorSdcard = { g.regs regulatorSdcard with odr := false } := by
    simp +decide [atStop]
  have lines : isExti c.level (atStop c g) regulatorSdcard = isExti c.level g regulatorSdcard := by
    rw [isExti, isExti, gpioconfig, gpioconfig, low]
    cases (g.regs regulatorSdcard).mode <;> rfl
  rw [slept_eq, kept, kept, lines, low]
  by_cases saved : isExti c.level g regulatorSdcard = false <;>
    by_cases on : c.level regulatorSdcard <;> simp +decide [saved, on, Registers.plain]

theorem slept_pwrSwitchVbatAdc : slept c g pwrSwitchVbatAdc =
    if c.measuresVbat then { kept c g pwrSwitchVbatAdc with odr := false }
    else kept c g pwrSwitchVbatAdc := by
  rw [slept_eq]
  simp +decide [kept, isExti, gpioconfig, atStop]

end Named

theorem slept_of_notMem_namedPins (g : Gpio) (pin : Pin) (apart : pin ∉ namedPins) :
    slept c g pin = kept c g pin := by
  have still : (atStop c g).regs pin = g.regs pin :=
    (foldl_on_of_notMem_namedPins c pin apart _).1
  rw [slept_eq, (foldl_on_of_notMem_namedPins c pin apart _).2, kept, kept, isExti, isExti,
    gpioconfig, gpioconfig, still]
  rfl

theorem with_odr_eq_iff (r s : Registers) (value : Bool) (same : r.odr = s.odr) :
    { r with odr := value } = s ↔ r = s ∧ s.odr = value := by
  cases r
  cases s
  simp_all only [Registers.mk.injEq]
  tauto

theorem mem_namedPins {pin : Pin} (named : pin ∈ namedPins) :
    (∃ cfgset ∈ sdcardGpios, cfgset.pin = pin) ∨ (∃ cfgset ∈ modemGpios, cfgset.pin = pin) ∨
      pin = usart2Rts.pin ∨ pin = usart3Rts.pin ∨ pin = regulatorSdcard ∨
        pin = pwrSwitchVbatAdc := by
  simpa only [namedPins, mem_append, mem_map, mem_cons, not_mem_nil,
    or_false] using named

theorem mem_excludedGpios : ∀ cfgset ∈ usart3Rts :: (sdcardGpios ++ modemGpios),
    cfgset.pin ∈ excludedGpios ⟨2, 6⟩ := by
  decide

theorem mem_rtsGpios (rts : Cfgset) : rts ∈ rtsGpios c ↔
    (c.usart2 ∧ rts = usart2Rts) ∨ c.usart3 ∧ rts = usart3Rts := by
  simp [rtsGpios]

theorem ComesBack.kept_eq {c : Circumstances} {g : Gpio} (back : ComesBack c g) {pin : Pin}
    (second : c.usart2 → pin ≠ usart2Rts.pin) (third : pin ≠ usart3Rts.pin) :
    kept c g pin = g.regs pin := by
  rw [kept]
  split
  · rename_i all
    refine back.others pin all.1 all.2.1 all.2.2 fun member => ?_
    obtain ⟨rts, listed, rfl⟩ := mem_map.mp member
    rcases (mem_rtsGpios c rts).mp listed with ⟨opened, rfl⟩ | ⟨-, rfl⟩
    · exact second opened rfl
    · exact third rfl
  · rfl

/-- **A sleep leaves the pins alone exactly if the registers are what it ends with**: the
configurations with names are not saved, and the SD card's are programmed also if it is off. -/
theorem deepsleep_restores_iff (portConfig : PortConfig) (g : Gpio) :
    deepsleep c portConfig g = some g ↔ ComesBack c g := by
  have regulator : slept c g regulatorSdcard = g.regs regulatorSdcard ↔
      kept c g regulatorSdcard = g.regs regulatorSdcard ∧
        (g.regs regulatorSdcard).odr = c.level regulatorSdcard := by
    rw [slept_regulatorSdcard]
    exact with_odr_eq_iff _ _ _ (odr_kept c g _)
  have vbat : slept c g pwrSwitchVbatAdc = g.regs pwrSwitchVbatAdc ↔
      kept c g pwrSwitchVbatAdc = g.regs pwrSwitchVbatAdc ∧
        (c.measuresVbat → (g.regs pwrSwitchVbatAdc).odr = false) := by
    rw [slept_pwrSwitchVbatAdc]
    by_cases measures : c.measuresVbat
    · rw [if_pos measures, with_odr_eq_iff _ _ _ (odr_kept c g _)]
      simp only [measures, true_implies]
    · rw [if_neg measures]
      exact ⟨fun same => ⟨same, fun on => absurd on measures⟩, And.left⟩
  rw [deepsleep_eq_some_iff]
  constructor
  · rintro ⟨board, same⟩
    have usart2 := (slept_usart2Rts c g).symm.trans (same _)
    have usart3 := (slept_usart3Rts c g).symm.trans (same _)
    refine ⟨board, ?_, ?_, ?_, (regulator.mp (same _)).2, (vbat.mp (same _)).2, ?_⟩
    · intro cfgset member
      exact (slept_sdcard c g cfgset member).symm.trans (same _)
    · intro on cfgset member
      have back := (slept_modem c g cfgset member).symm.trans (same _)
      rwa [if_neg (by simp [on])] at back
    · intro rts member
      rcases (mem_rtsGpios c rts).mp member with ⟨opened, rfl⟩ | ⟨opened, rfl⟩
      · rwa [if_pos opened] at usart2
      · rwa [if_pos opened] at usart3
    · intro pin visited free lines silent
      have plain : kept c g pin = (g.regs pin).plain := if_pos ⟨visited, free, lines⟩
      rw [← plain]
      by_cases named : pin ∈ namedPins
      · rcases mem_namedPins named with ⟨cfgset, member, rfl⟩ | ⟨cfgset, member, rfl⟩ | rfl | rfl |
          rfl | rfl
        · exact absurd (mem_excludedGpios cfgset (by simp [member])) free
        · exact absurd (mem_excludedGpios cfgset (by simp [member])) free
        · rwa [if_neg fun opened => silent (mem_map_of_mem
            ((mem_rtsGpios c _).mpr (.inl ⟨opened, rfl⟩)))] at usart2
        · exact absurd (mem_excludedGpios usart3Rts (by simp)) free
        · exact (regulator.mp (same _)).1
        · exact (vbat.mp (same _)).1
      · rw [← slept_of_notMem_namedPins c g pin named]
        exact same pin
  · intro back
    refine ⟨back.board, fun pin => ?_⟩
    by_cases named : pin ∈ namedPins
    · rcases mem_namedPins named with ⟨cfgset, member, rfl⟩ | ⟨cfgset, member, rfl⟩ | rfl | rfl |
        rfl | rfl
      · rw [slept_sdcard c g cfgset member, back.sdcard cfgset member]
      · rw [slept_modem c g cfgset member]
        split
        · rfl
        · rename_i on
          exact back.modem (by simpa using on) cfgset member
      · rw [slept_usart2Rts]
        split
        · rename_i opened
          exact back.serial _ ((mem_rtsGpios c _).mpr (.inl ⟨opened, rfl⟩))
        · rename_i closed
          exact back.kept_eq (fun opened => absurd opened closed) (by decide)
      · rw [slept_usart3Rts]
        split
        · rename_i opened
          exact back.serial _ ((mem_rtsGpios c _).mpr (.inr ⟨opened, rfl⟩))
        · rfl
      · exact regulator.mpr ⟨back.kept_eq (fun _ => by decide) (by decide), back.regulator⟩
      · exact vbat.mpr ⟨back.kept_eq (fun _ => by decide) (by decide), back.vbat⟩
    · rw [slept_of_notMem_namedPins c g pin named]
      refine back.kept_eq (fun _ => ?_) ?_ <;>
        · rintro rfl
          exact named (by decide)

/-! ## A card whose pins were set up by the SPI driver -/

/-- The SD card and the modem are on. -/
def withSdcard : Circumstances where
  hwver := .b2_0
  level pin := pin = chipSelectSdcard.pin || pin = regulatorSdcard || pin = pwrSwitchModem
  usart2 := false
  usart3 := false
  measuresVbat := false

/-- The pins of the SD card as `up_spiinitialize` configures them, and analog pins. -/
def spiInitialized : Gpio where
  regs pin :=
    [.config spi3Mosi, .config spi3Miso, .config spi3Sck, .config chipSelectSdcard,
      .config { pin := regulatorSdcard, mode := .output, bit8 := true }].foldl (Act.on pin)
      { mode := .analog, pupd := 0, af := 0, speed := 0, openDrain := false, odr := false }
  exticr _ := 0
  imr _ := false

/-- MISO comes back with a pull-up. -/
theorem miso_comes_back_pulled_up : entersStopMode withSdcard.level = true ∧
    deepsleep withSdcard (fun _ => none) spiInitialized ≠ some spiInitialized := by
  refine ⟨by decide, fun same => ?_⟩
  have back := ((deepsleep_eq_some_iff _ _ _).mp same).2 spi3Miso.pin
  rw [slept_sdcard _ _ { spi3Miso with pupd := 1 } (by simp [sdcardGpios])] at back
  revert back
  decide

/-- The same with a pull-up at MISO, as the sleep leaves it. -/
def pulledUp : Gpio where
  regs pin :=
    Act.on pin (spiInitialized.regs pin) (.config { spi3Miso with pupd := 1 })
  exticr _ := 0
  imr _ := false

example : ComesBack withSdcard pulledUp where
  board := rfl
  sdcard := by decide
  modem := nofun
  serial := nofun
  regulator := by decide
  vbat := nofun
  others := by decide

end Thingsee.DeepSleep.Pins
