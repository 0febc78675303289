import Thingsee.Senses.LocationClients

/-!
Owns `synchonize_clients` in `sense_group_location.c`: clients with one interval get the phase of
the first of them.
-/

namespace Thingsee.Senses.Location

open List

def Client.sameInterval (curr client : Client) : Bool := client.period = curr.period

/-- The assignment in the inner loop, if the intervals are equal. -/
def Client.synchronized (curr client : Client) : Client :=
  if curr.sameInterval client then { client with lastUpdate := curr.lastUpdate } else client

/-- The inner loop, over the clients behind `curr_int_client`. -/
def Client.synchronizeLater (curr : Client) (later : List Client) : List Client :=
  later.map curr.synchronized

/-- The outer loop, from `curr_int_client` on. `next_int_client` is the first client behind it
with another interval. -/
def synchonizeClients : List Client → List Client
  | [] => []
  | curr :: later =>
    let updated := curr.synchronizeLater later
    curr :: (updated.takeWhile curr.sameInterval ++
      synchonizeClients (updated.dropWhile curr.sameInterval))
termination_by clients => clients.length
decreasing_by
  have shorter := (dropWhile_sublist curr.sameInterval
    (l := curr.synchronizeLater later)).length_le
  rw [Client.synchronizeLater, length_map] at shorter
  exact Nat.lt_succ_of_le shorter

/-- The first client with the interval of another one, which it has the phase of. -/
def leader (clients : List Client) (client : Client) : Client :=
  (clients.find? client.sameInterval).getD client

variable (curr client : Client) (later : List Client)

theorem Client.period_synchronized : (curr.synchronized client).period = client.period := by
  unfold Client.synchronized
  split <;> rfl

theorem Client.sameInterval_synchronized (other client : Client) :
    other.sameInterval (curr.synchronized client) = other.sameInterval client := by
  rw [Client.sameInterval, Client.sameInterval, period_synchronized]

theorem find?_dropWhile_of_disjoint {α : Type} (skipped wanted : α → Bool)
    (disjoint : ∀ item, skipped item = true → wanted item = false) (items : List α) :
    (items.dropWhile skipped).find? wanted = items.find? wanted := by
  induction items with
  | nil => rfl
  | cons item items ih =>
    by_cases skip : skipped item = true
    · have other : ¬ wanted item = true := by simp [disjoint item skip]
      rw [dropWhile_cons_of_pos skip, ih, List.find?_cons_of_neg other]
    · rw [dropWhile_cons_of_neg skip]

theorem leader_cons (client : Client) :
    leader (curr :: later) client =
      if curr.sameInterval client then curr else leader later client := by
  have same : client.sameInterval curr = curr.sameInterval client := by
    simp only [Client.sameInterval, eq_comm]
  rw [leader, List.find?_cons, same]
  cases curr.sameInterval client <;> rfl

/-- What the rest of the walk takes for the phase of a client. -/
theorem lastUpdate_leader_dropWhile (member : client ∈ later.dropWhile curr.sameInterval) :
    (leader ((later.dropWhile curr.sameInterval).map curr.synchronized)
      (curr.synchronized client)).lastUpdate = (leader (curr :: later) client).lastUpdate := by
  have looked : (curr.synchronized client).sameInterval ∘ curr.synchronized =
      client.sameInterval := by
    funext other
    rw [Function.comp_apply, Client.sameInterval_synchronized, Client.sameInterval,
      Client.period_synchronized, Client.sameInterval]
  rw [leader_cons, leader, List.find?_map, looked]
  by_cases same : curr.sameInterval client = true
  · -- The first of them has been synchronized, as `client` was.
    rw [if_pos same]
    cases found : (later.dropWhile curr.sameInterval).find? client.sameInterval with
    | none =>
      exact absurd (List.find?_eq_none.mp found client member) (by simp [Client.sameInterval])
    | some first =>
      have equal : first.period = client.period := by
        simpa [Client.sameInterval] using List.find?_some found
      have also : curr.sameInterval first = true := by
        rw [Client.sameInterval, equal]
        exact same
      show (curr.synchronized first).lastUpdate = curr.lastUpdate
      rw [Client.synchronized, if_pos also]
  · rw [if_neg same, find?_dropWhile_of_disjoint, leader]
    · have kept : curr.synchronized client = client := if_neg same
      cases found : later.find? client.sameInterval with
      | none => rw [Option.map_none, Option.getD_none, Option.getD_none, kept]
      | some first =>
        have equal : first.period = client.period := by
          simpa [Client.sameInterval] using List.find?_some found
        have other : ¬ curr.sameInterval first = true := by
          rw [Client.sameInterval, equal]
          exact same
        show (curr.synchronized first).lastUpdate = first.lastUpdate
        rw [Client.synchronized, if_neg other]
    · intro item skipped
      simp only [Client.sameInterval, decide_eq_true_eq, decide_eq_false_iff_not] at *
      intro equal
      exact same (equal.symm.trans skipped)

/-- **Every client gets the phase of the first one with its interval**, and nothing else of the
list changes. -/
theorem synchonizeClients_eq (clients : List Client) :
    synchonizeClients clients = clients.map fun client =>
      { client with lastUpdate := (leader clients client).lastUpdate } := by
  induction clients using synchonizeClients.induct with
  | case1 => rw [synchonizeClients, map_nil]
  | case2 curr later updated ih =>
    have interval : curr.sameInterval ∘ curr.synchronized = curr.sameInterval := by
      funext other
      exact Client.sameInterval_synchronized curr curr other
    have front : updated.takeWhile curr.sameInterval =
        (later.takeWhile curr.sameInterval).map curr.synchronized := by
      rw [show updated = later.map curr.synchronized from rfl, takeWhile_map, interval]
    have back : updated.dropWhile curr.sameInterval =
        (later.dropWhile curr.sameInterval).map curr.synchronized := by
      rw [show updated = later.map curr.synchronized from rfl, dropWhile_map, interval]
    have first : leader (curr :: later) curr = curr := by
      rw [leader_cons, if_pos (by simp [Client.sameInterval])]
    have parts (assign : Client → Client) : later.map assign =
        (later.takeWhile curr.sameInterval).map assign ++
          (later.dropWhile curr.sameInterval).map assign := by
      rw [← map_append, takeWhile_append_dropWhile]
    rw [synchonizeClients, ih, map_cons, first, parts, front, back, map_map]
    congr 2
    · refine map_congr_left fun client member => ?_
      have same := all_eq_true.mp all_takeWhile client member
      rw [leader_cons, if_pos same, Client.synchronized, if_pos same]
    · refine map_congr_left fun client member => ?_
      rw [Function.comp_apply, lastUpdate_leader_dropWhile curr client later member,
        Client.synchronized]
      split <;> rfl

end Thingsee.Senses.Location
