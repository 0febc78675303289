import Mathlib.Data.Finset.Max
import Mathlib.Tactic.Linarith
import Thingsee.Core.Timers

/-!
Owns the distribution of locations to causes in `apps/ts_engine/engine/sense_group_location.c`:
which causes get a location, when they are thought to have got it, and when the next one is
expected.

What a cause makes of a location is not part of the model, except that it may change the state
of the profile. An event then says which causes are still clients.
-/

namespace Thingsee.Senses.Location

open Thingsee.Core Support List

/-- `struct client_s`, with `conf.measurement.interval` of its cause. -/
structure Client where
  cause : Nat
  interval : Int
  lastUpdate : Timespec
deriving DecidableEq

def Client.period (client : Client) : Int :=
  if client.interval ≤ 0 then 10000 else client.interval

/-- `interval_with_hyst`. `hyst_percent` is 5. -/
def intervalWithHyst (interval : Int) : Int :=
  (interval * (100 - 5)).tdiv 100 + (interval * (100 - 5)).tmod 100

/-- The time `msec` after the start of the clock. -/
def ofMsec (msec : Int) : Timespec :=
  ⟨BitVec.ofInt 32 (msec.tdiv 1000), msec.tmod 1000 * (1000 * 1000)⟩

/-- The loop of `gps_cb` for one client. There is no result for a client that is passed over. -/
def offer (currMsec : Int) (client : Client) : Option Client :=
  let lastMsec := client.lastUpdate.toMsec
  if currMsec - lastMsec ≤ intervalWithHyst client.period then none
  else
    let steps := (currMsec - lastMsec + client.period.tdiv 2).tdiv client.period
    some { client with lastUpdate := ofMsec (lastMsec + steps * client.period) }

/-- What the loop of `gps_cb` did to the clients: those it came to, before and behind it, and
those it did not. -/
structure Offered where
  offers : List (Client × Option Client)
  unreached : List Client
  remaining : Option (Nat → Bool)

def Offered.clients (offered : Offered) : List Client :=
  let clients := offered.offers.map (fun offer => offer.2.getD offer.1) ++ offered.unreached
  match offered.remaining with
  | some remaining => clients.filter (fun client => remaining client.cause)
  | none => clients

def roundedUp (interval : Int) : Int := -(-(interval * 95) / 100)

/-- A location is due. Times are in milliseconds. -/
def Due (now : Int) (client : Client) : Prop :=
  roundedUp client.period < now - client.lastUpdate.toMsec

instance (now : Int) (client : Client) : Decidable (Due now client) :=
  inferInstanceAs (Decidable (_ < _))

/-- The last update moves by intervals, to the one that is nearest to now. -/
def Moves (now : Int) (client updated : Client) : Prop :=
  updated.cause = client.cause ∧ updated.interval = client.interval ∧
    ∃ steps : Nat, 0 < steps ∧
      updated.lastUpdate.nsecs =
        (client.lastUpdate.toMsec + steps * client.period) * 1000000 ∧
      2 * |now - updated.lastUpdate.toMsec| ≤ client.period

def Scheduled (now : Int) (offer : Client × Option Client) : Prop :=
  (offer.2.isSome = true ↔ Due now offer.1) ∧ ∀ updated, offer.2 = some updated →
    Moves now offer.1 updated

/-- The last update is a time, and the interval is an `int32_t`. -/
def Client.Valid (client : Client) : Prop := client.lastUpdate.Normal ∧ client.interval < 2 ^ 31

theorem toMsec_bounds {time : Timespec} (normal : time.Normal) :
    0 ≤ time.toMsec ∧ time.toMsec < 2 ^ 32 * 1000 := by
  have bits := time.tvSec.isLt
  unfold Timespec.Normal at normal
  unfold Timespec.toMsec
  rw [Int.tdiv_eq_ediv_of_nonneg normal.1]
  omega

variable {msec interval : Int} (event : LocationEvent) {currTs : Timespec}

variable {now : Int} {client : Client}

variable {clients : List Client}

end Thingsee.Senses.Location
