import Thingsee.Conman.Protocol
import Thingsee.Json.Rationals

/-!
Owns the configuration of connections (`__conman_config_set_connections` in
conman_config.c), and the response that `__conman_ctl_handle_pollin` sends for it.

`parsed` is what `cJSON_Parse` returns for the text, which is nothing for a text that is
no JSON document and where its memory runs out. An item of the tree is the list of items
that begins with it, and `NULL` the empty list. Every allocation of the function has its
own place in `Allocations`, so that any of them may fail.

Does not own: the current connection of a kind, and the memory that is not freed.
-/

namespace Thingsee.Conman.Configuration

open Json Protocol

section Tree

variable {D : Type}

/-- `cJSON_child`. -/
def child : Items (Value D) → Items (Value D)
  | .branch _ _ _ children _ => children
  | _ => .nil

/-- `cJSON_next`. -/
def next : Items (Value D) → Items (Value D)
  | .leaf _ _ rest => rest
  | .branch _ _ _ _ rest => rest
  | .nil => .nil

def count : Items (Value D) → Nat
  | .nil => 0
  | .leaf _ _ rest => count rest + 1
  | .branch _ _ _ _ rest => count rest + 1

def getArraySize (array : Items (Value D)) : Nat := count (child array)

def itemAt : Nat → Items (Value D) → Items (Value D)
  | 0, items => items
  | index + 1, items => itemAt index (next items)

def getArrayItem (array : Items (Value D)) (item : Nat) : Items (Value D) :=
  itemAt item (child array)

def tolower (char : UInt8) : UInt8 := if 65 ≤ char ∧ char ≤ 90 then char + 32 else char

/-- `cJSON_strcasecmp` finds no difference. -/
def sameName (left right : List UInt8) : Bool := left.map tolower == right.map tolower

def findItem (string : List UInt8) : Items (Value D) → Items (Value D)
  | .nil => .nil
  | .leaf name value rest =>
    if sameName name string then .leaf name value rest else findItem string rest
  | .branch name type packed children rest =>
    if sameName name string then .branch name type packed children rest
    else findItem string rest

def getObjectItem (object : Items (Value D)) (string : List UInt8) : Items (Value D) :=
  findItem string (child object)

def cJSONInt (doubles : Doubles D) : Items (Value D) → Int
  | .leaf _ (.number stored) _ => stored.valueInt doubles
  | _ => 0

def cJSONString : Items (Value D) → List UInt8
  | .leaf _ (.string text) _ => text
  | _ => []

/-- The two kinds of connections. -/
inductive Kind where
  | cellular
  | wifi
deriving DecidableEq

def octets (text : String) : List UInt8 := text.toList.map fun char => UInt8.ofNat char.toNat

def Kind.member : Kind → List UInt8
  | .cellular => octets "cellularConnections"
  | .wifi => octets "wifiConnections"

def Kind.labels : Kind → List (List UInt8)
  | .cellular =>
    [octets "accessPointName", octets "accessPointIPAddr", octets "proxyAddress",
      octets "proxyPort", octets "userName", octets "password", octets "mobileCountryCode",
      octets "mobileNetworkCode", octets "authType", octets "pinCode"]
  | .wifi => [octets "ssid", octets "password", octets "encryption"]

/-- `struct conman_cellular_connection_s` or `struct conman_wifi_connection_s`: the texts
are in the order of their labels. -/
structure Entry where
  id : Nat
  texts : List (Option (List UInt8))

/-- The allocations for one entry: the structure, its texts and the list entry. -/
structure Allocations where
  connection : Bool
  texts : Nat → Bool
  entry : Bool

def jsonStrdup (allocated : Bool) (object : Items (Value D)) (label : List UInt8) :
    Option (List UInt8) :=
  match getObjectItem object label with
  | .nil => none
  | entry => if allocated then some (cJSONString entry) else none

def makeEntry (doubles : Doubles D) (kind : Kind) (allocations : Allocations)
    (con : Items (Value D)) : Entry where
  id := (cJSONInt doubles (getObjectItem con (octets "connectionId")) % 4294967296).toNat
  texts := kind.labels.mapIdx fun index label => jsonStrdup (allocations.texts index) con label

/-- `connections` of `struct conman_s`. -/
structure Connections where
  cellular : List Entry
  wifi : List Entry
  amountCellular : Int
  amountWifi : Int
  currentCellular : Nat
  currentWifi : Nat

/-- `__conman_config_init`. -/
def Connections.init : Connections := ⟨[], [], 0, 0, 4294967295, 4294967295⟩

def Connections.add (connections : Connections) : Kind → Entry → Connections
  | .cellular, entry =>
    { connections with
      cellular := connections.cellular ++ [entry]
      amountCellular := connections.amountCellular + 1
      currentCellular := entry.id }
  | .wifi, entry =>
    { connections with
      wifi := connections.wifi ++ [entry]
      amountWifi := connections.amountWifi + 1
      currentWifi := entry.id }

/-- One turn of a loop: the lists behind it, and an error that ends the function. -/
abbrev Turn := Connections → Connections × RespValue

def turns : List Turn → Turn
  | [], connections => (connections, .ok)
  | turn :: rest, connections =>
    let made := turn connections
    if made.2 = .ok then turns rest made.1 else made

def addEntry (doubles : Doubles D) (kind : Kind) (allocations : Allocations)
    (con : Items (Value D)) : Turn := fun connections =>
  if allocations.connection then
    if allocations.entry then
      (connections.add kind (makeEntry doubles kind allocations con), .ok)
    else (connections, .oom)
  else (connections, .oom)

def addEntries (doubles : Doubles D) (kind : Kind) (allocations : Nat → Allocations)
    (jsonConnection : Items (Value D)) : Turn := fun connections =>
  match getObjectItem jsonConnection kind.member with
  | .nil => (connections, .ok)
  | cons =>
    turns ((List.range (getArraySize cons)).map fun i =>
      addEntry doubles kind (allocations i) (getArrayItem cons i)) connections

def configSetConnections (doubles : Doubles D) (parsed : Option (Items (Value D)))
    (allocations : Nat → Kind → Nat → Allocations) : Turn := fun connections =>
  match parsed with
  | none => (connections, .parseFail)
  | some jsonConfig =>
    match getObjectItem jsonConfig (octets "connections") with
    | .nil => (connections, .noConnections)
    | jsonConnections =>
      turns ((List.range (getArraySize jsonConnections)).map fun j => turns
        [addEntries doubles .cellular (allocations j .cellular)
            (getArrayItem jsonConnections j),
          addEntries doubles .wifi (allocations j .wifi) (getArrayItem jsonConnections j)])
        connections

/-- `CONMAN_MSG_SET_CONNECTIONS_CONFIG` in `__conman_ctl_handle_pollin`: the lists behind it
and the response. -/
def ctlSetConnectionsConfig (doubles : Doubles D) (parsed : Option (Items (Value D)))
    (allocations : Nat → Kind → Nat → Allocations) : Turn := fun connections =>
  let set := configSetConnections doubles parsed allocations connections
  (set.1, if set.2.value < 0 then .error else .ok)

def listed (doubles : Doubles D) (allocations : Nat → Kind → Nat → Allocations)
    (jsonConnections : Items (Value D)) (kind : Kind) : List Entry :=
  (List.range (getArraySize jsonConnections)).flatMap fun j =>
    let cons := getObjectItem (getArrayItem jsonConnections j) kind.member
    (List.range (getArraySize cons)).map fun i =>
      makeEntry doubles kind (allocations j kind i) (getArrayItem cons i)

/-- There is memory for every listed entry. -/
def EntriesAllocated (allocations : Nat → Kind → Nat → Allocations)
    (jsonConnections : Items (Value D)) : Prop :=
  ∀ j ∈ List.range (getArraySize jsonConnections), ∀ kind ∈ [Kind.cellular, Kind.wifi],
    ∀ i ∈ List.range (getArraySize (getObjectItem (getArrayItem jsonConnections j) kind.member)),
      (allocations j kind i).connection = true ∧ (allocations j kind i).entry = true

def lastId (entries : List Entry) (current : Nat) : Nat :=
  (entries.getLast?.map Entry.id).getD current

def Connections.addAll (connections : Connections) (cellular wifi : List Entry) : Connections where
  cellular := connections.cellular ++ cellular
  wifi := connections.wifi ++ wifi
  amountCellular := connections.amountCellular + cellular.length
  amountWifi := connections.amountWifi + wifi.length
  currentCellular := lastId cellular connections.currentCellular
  currentWifi := lastId wifi connections.currentWifi

theorem lastId_append (first second : List Entry) (current : Nat) :
    lastId second (lastId first current) = lastId (first ++ second) current := by
  rw [lastId, lastId, lastId, List.getLast?_append]
  cases second.getLast? <;> rfl

variable (doubles : Doubles D) (connections : Connections) (parsed : Option (Items (Value D)))
  (kind : Kind)

theorem Connections.addAll_addAll (firstCellular firstWifi secondCellular secondWifi : List Entry) :
    (connections.addAll firstCellular firstWifi).addAll secondCellular secondWifi =
      connections.addAll (firstCellular ++ secondCellular) (firstWifi ++ secondWifi) := by
  simp only [addAll, List.append_assoc, List.length_append, lastId_append, Nat.cast_add, add_assoc]

theorem Connections.addAll_nil : connections.addAll [] [] = connections := by
  simp [addAll, lastId]

def ofKind (kind : Kind) (entries : List Entry) (wanted : Kind) : List Entry :=
  if kind = wanted then entries else []

theorem Connections.add_eq (entry : Entry) :
    connections.add kind entry =
      connections.addAll (ofKind kind [entry] .cellular) (ofKind kind [entry] .wifi) := by
  cases kind <;> simp [add, addAll, ofKind, lastId]

/-- A turn adds entries if there is memory for them, and else ends with an error and fewer
entries. -/
structure Adds (turn : Turn) (allocated : Prop) (entries : Kind → List Entry) : Prop where
  all : allocated → ∀ connections,
    turn connections = (connections.addAll (entries .cellular) (entries .wifi), .ok)
  fewer : ¬ allocated → ∀ connections, (turn connections).2 ≠ .ok ∧
    (turn connections).1.cellular.length + (turn connections).1.wifi.length <
      connections.cellular.length + connections.wifi.length +
        ((entries .cellular).length + (entries .wifi).length)

variable {α : Type} {jsonConfig : Items (Value D)}

theorem turns_adds (list : List α) (turn : α → Turn) (allocated : α → Prop)
    (entries : α → Kind → List Entry)
    (each : ∀ item ∈ list, Adds (turn item) (allocated item) (entries item)) :
    Adds (turns (list.map turn)) (∀ item ∈ list, allocated item)
      (fun kind => list.flatMap fun item => entries item kind) := by
  induction list with
  | nil =>
    refine ⟨fun _ connections => ?_, fun missing => ?_⟩
    swap
    · exact absurd (fun item isIn => by cases isIn) missing
    exact congrArg (·, RespValue.ok) connections.addAll_nil.symm
  | cons item list ih =>
    have first := each item List.mem_cons_self
    have rest := ih fun item isIn => each item (List.mem_cons_of_mem _ isIn)
    constructor
    · intro all connections
      have made := first.all (all item List.mem_cons_self) connections
      rw [List.map_cons, turns, made]
      rw [rest.all (fun item isIn => all item (List.mem_cons_of_mem _ isIn)),
        Connections.addAll_addAll]
      rfl
    · intro missing connections
      rw [List.map_cons, turns]
      simp only [List.flatMap_cons, List.length_append]
      by_cases has : allocated item
      · have made := first.all has connections
        have others : ¬ ∀ item ∈ list, allocated item := by
          intro all
          refine missing fun other isIn => ?_
          rcases List.mem_cons.mp isIn with rfl | isIn
          · exact has
          · exact all other isIn
        have behind := rest.fewer others
          (connections.addAll (entries item .cellular) (entries item .wifi))
        rw [made]
        refine ⟨behind.1, behind.2.trans_eq ?_⟩
        simp only [Connections.addAll, List.length_append]
        omega
      · have failed := first.fewer has connections
        rw [if_neg failed.1]
        refine ⟨failed.1, lt_of_lt_of_le failed.2 ?_⟩
        omega

theorem ofKind_length (entries : List Entry) :
    (ofKind kind entries .cellular).length + (ofKind kind entries .wifi).length =
      entries.length := by
  cases kind <;> simp [ofKind]

theorem addEntry_adds (allocations : Allocations) (con : Items (Value D)) :
    Adds (addEntry doubles kind allocations con)
      (allocations.connection = true ∧ allocations.entry = true)
      (ofKind kind [makeEntry doubles kind allocations con]) := by
  constructor
  · rintro ⟨connection, entry⟩ connections
    rw [addEntry, if_pos connection, if_pos entry, Connections.add_eq]
  · intro missing connections
    have fails : addEntry doubles kind allocations con connections = (connections, .oom) := by
      rw [addEntry]
      split
      · rename_i connection
        exact if_neg fun entry => missing ⟨connection, entry⟩
      · rfl
    rw [fails, ofKind_length, List.length_singleton]
    exact ⟨(fun same => by cases same), Nat.lt_succ_self _⟩

theorem ofKind_flatMap (list : List α) (kind wanted : Kind) (entry : α → Entry) :
    list.flatMap (fun item => ofKind kind [entry item] wanted) =
      ofKind kind (list.map entry) wanted := by
  rw [ofKind]
  split
  · rename_i same
    simp only [ofKind, if_pos same]
    exact List.map_eq_flatMap.symm
  · rename_i other
    simp [ofKind, other]

variable (allocations : Nat → Allocations)

theorem addEntries_eq (jsonConnection : Items (Value D)) :
    addEntries doubles kind allocations jsonConnection =
      turns ((List.range (getArraySize (getObjectItem jsonConnection kind.member))).map fun i =>
        addEntry doubles kind (allocations i)
          (getArrayItem (getObjectItem jsonConnection kind.member) i)) := by
  funext connections
  rw [addEntries]
  cases found : getObjectItem jsonConnection kind.member <;> rfl

theorem addEntries_adds (jsonConnection : Items (Value D)) :
    Adds (addEntries doubles kind allocations jsonConnection)
      (∀ i ∈ List.range (getArraySize (getObjectItem jsonConnection kind.member)),
        (allocations i).connection = true ∧ (allocations i).entry = true)
      (ofKind kind ((List.range (getArraySize (getObjectItem jsonConnection kind.member))).map
        fun i => makeEntry doubles kind (allocations i)
          (getArrayItem (getObjectItem jsonConnection kind.member) i))) := by
  have adds := turns_adds
    (List.range (getArraySize (getObjectItem jsonConnection kind.member)))
    (fun i => addEntry doubles kind (allocations i)
      (getArrayItem (getObjectItem jsonConnection kind.member) i)) _ _
    (fun i _ => addEntry_adds doubles kind (allocations i) _)
  simp only [ofKind_flatMap] at adds
  rw [addEntries_eq]
  exact adds

section

variable (allocations : Nat → Kind → Nat → Allocations)

theorem configSetConnections_none (missing : getObjectItem jsonConfig (octets "connections") =
    .nil) :
    configSetConnections doubles (some jsonConfig) allocations =
      fun connections => (connections, .noConnections) := by
  funext connections
  simp only [configSetConnections, missing]

theorem configSetConnections_eq (found : getObjectItem jsonConfig (octets "connections") ≠ .nil) :
    configSetConnections doubles (some jsonConfig) allocations =
      turns ((List.range (getArraySize (getObjectItem jsonConfig (octets "connections")))).map
        fun j => turns ([Kind.cellular, Kind.wifi].map fun kind =>
          addEntries doubles kind (allocations j kind)
            (getArrayItem (getObjectItem jsonConfig (octets "connections")) j))) := by
  funext connections
  generalize connections_eq : getObjectItem jsonConfig (octets "connections") = jsonConnections
    at found
  simp only [configSetConnections, connections_eq]
  cases jsonConnections with
  | nil => exact absurd rfl found
  | leaf name value rest => rfl
  | branch name type packed children rest => rfl

theorem configSetConnections_adds (found : getObjectItem jsonConfig (octets "connections") ≠ .nil) :
    Adds (configSetConnections doubles (some jsonConfig) allocations)
      (EntriesAllocated allocations (getObjectItem jsonConfig (octets "connections")))
      (listed doubles allocations (getObjectItem jsonConfig (octets "connections"))) := by
  have kinds (j : Nat) := turns_adds [Kind.cellular, Kind.wifi]
    (fun kind => addEntries doubles kind (allocations j kind)
      (getArrayItem (getObjectItem jsonConfig (octets "connections")) j)) _ _
    (fun kind _ => addEntries_adds doubles kind (allocations j kind) _)
  have adds := turns_adds
    (List.range (getArraySize (getObjectItem jsonConfig (octets "connections")))) _ _ _
    (fun j _ => kinds j)
  rw [← configSetConnections_eq doubles allocations found] at adds
  generalize getObjectItem jsonConfig (octets "connections") = jsonConnections at adds
  have entries : (fun kind => (List.range (getArraySize jsonConnections)).flatMap fun j =>
    [Kind.cellular, Kind.wifi].flatMap fun own => ofKind own
      ((List.range (getArraySize (getObjectItem (getArrayItem jsonConnections j) own.member))).map
        fun i => makeEntry doubles own (allocations j own i)
          (getArrayItem (getObjectItem (getArrayItem jsonConnections j) own.member) i)) kind) =
    listed doubles allocations jsonConnections := by
    funext kind
    rw [listed]
    refine List.flatMap_congr fun j _ => ?_
    cases kind <;> simp [ofKind]
  rw [← entries]
  exact adds

end

def Connections.of (connections : Connections) : Kind → List Entry
  | .cellular => connections.cellular
  | .wifi => connections.wifi

def Connections.amount (connections : Connections) : Kind → Int
  | .cellular => connections.amountCellular
  | .wifi => connections.amountWifi

def Connections.current (connections : Connections) : Kind → Nat
  | .cellular => connections.currentCellular
  | .wifi => connections.currentWifi

/-- The counters are the lengths of the lists, and the current ids are those of the entries
that were added last. -/
structure Balanced (connections : Connections) : Prop where
  amount : ∀ kind, connections.amount kind = (connections.of kind).length
  current : ∀ kind, connections.current kind = lastId (connections.of kind) 4294967295

theorem balanced_init : Balanced Connections.init where
  amount kind := by cases kind <;> rfl
  current kind := by cases kind <;> rfl

theorem Connections.of_add (other : Kind) (entry : Entry) :
    (connections.add kind entry).of other =
      if kind = other then connections.of other ++ [entry] else connections.of other := by
  cases kind <;> cases other <;> rfl

theorem Balanced.add {connections : Connections} (balanced : Balanced connections) (kind : Kind)
    (entry : Entry) : Balanced (connections.add kind entry) := by
  constructor
  · intro other
    have amount := balanced.amount other
    rw [Connections.of_add]
    cases kind <;> cases other <;>
      simp_all [Connections.add, Connections.amount]
  · intro other
    have current := balanced.current other
    rw [Connections.of_add]
    cases kind <;> cases other <;>
      simp_all [Connections.add, Connections.current, lastId]

/-- A turn keeps what holds between messages, also where it fails, and no error is
negative. -/
structure Turn.Sound (turn : Turn) : Prop where
  balanced : ∀ connections, Balanced connections → Balanced (turn connections).1
  value : ∀ connections, 0 ≤ (turn connections).2.value

theorem turns_sound (list : List Turn) (each : ∀ turn ∈ list, Turn.Sound turn) :
    Turn.Sound (turns list) := by
  induction list with
  | nil => exact ⟨fun _ balanced => balanced, fun _ => le_refl 0⟩
  | cons turn list ih =>
    have first := each turn List.mem_cons_self
    have rest := ih fun other isIn => each other (List.mem_cons_of_mem _ isIn)
    constructor
    · intro connections balanced
      rw [turns]
      split
      · exact rest.balanced _ (first.balanced connections balanced)
      · exact first.balanced connections balanced
    · intro connections
      rw [turns]
      split
      · exact rest.value _
      · exact first.value connections

theorem turns_map_sound (list : List α) (turn : α → Turn) (each : ∀ item, Turn.Sound (turn item)) :
    Turn.Sound (turns (list.map turn)) := by
  refine turns_sound _ fun made isIn => ?_
  obtain ⟨item, -, rfl⟩ := List.mem_map.mp isIn
  exact each item

theorem addEntry_sound (allocations : Allocations) (con : Items (Value D)) :
    Turn.Sound (addEntry doubles kind allocations con) := by
  constructor
  · intro connections balanced
    rw [addEntry]
    split
    · split
      · exact balanced.add kind _
      · exact balanced
    · exact balanced
  · intro connections
    rw [addEntry]
    split
    · split
      · exact le_refl 0
      · exact Int.natCast_nonneg 2
    · exact Int.natCast_nonneg 2

theorem addEntries_sound (allocations : Nat → Allocations) (jsonConnection : Items (Value D)) :
    Turn.Sound (addEntries doubles kind allocations jsonConnection) := by
  rw [addEntries_eq]
  exact turns_map_sound _ _ fun i => addEntry_sound doubles kind _ _

variable (allocations : Nat → Kind → Nat → Allocations)

theorem configSetConnections_sound :
    Turn.Sound (configSetConnections doubles parsed allocations) := by
  cases parsed with
  | none => exact ⟨fun _ balanced => balanced, fun _ => Int.natCast_nonneg 3⟩
  | some jsonConfig =>
    by_cases found : getObjectItem jsonConfig (octets "connections") = .nil
    · rw [configSetConnections_none doubles allocations found]
      exact ⟨fun _ balanced => balanced, fun _ => Int.natCast_nonneg 4⟩
    · rw [configSetConnections_eq doubles allocations found]
      exact turns_map_sound _ _ fun j => turns_map_sound _ _ fun kind =>
        addEntries_sound doubles kind _ _

/-- The lists behind messages, each with a text and failing allocations of its own. -/
inductive Reachable (doubles : Doubles D) : Connections → Prop
  | init : Reachable doubles Connections.init
  | message {connections : Connections} (parsed : Option (Items (Value D)))
      (allocations : Nat → Kind → Nat → Allocations) :
      Reachable doubles connections →
        Reachable doubles (ctlSetConnectionsConfig doubles parsed allocations connections).1

theorem Reachable.balanced {doubles : Doubles D} {connections : Connections}
    (reachable : Reachable doubles connections) : Balanced connections := by
  induction reachable with
  | init => exact balanced_init
  | message parsed allocations _ ih =>
    exact (configSetConnections_sound doubles parsed allocations).balanced _ ih

theorem ctlSetConnectionsConfig_ok (connections : Connections) :
    (ctlSetConnectionsConfig doubles parsed allocations connections).2 = .ok :=
  if_neg (not_lt.mpr ((configSetConnections_sound doubles parsed allocations).value connections))

/-- The text was parsed, has connections, and every listed entry was added. -/
def Applied (doubles : Doubles D) (parsed : Option (Items (Value D)))
    (allocations : Nat → Kind → Nat → Allocations) (before after : Connections) : Prop :=
  ∃ jsonConfig, parsed = some jsonConfig ∧
    getObjectItem jsonConfig (octets "connections") ≠ .nil ∧
    ∀ kind, after.of kind =
      before.of kind ++
        listed doubles allocations (getObjectItem jsonConfig (octets "connections")) kind

/-- A message is answered as it was applied, and applied whole or not at all. -/
structure Truthful (doubles : Doubles D) (parsed : Option (Items (Value D)))
    (allocations : Nat → Kind → Nat → Allocations) (before : Connections) : Prop where
  answered : (ctlSetConnectionsConfig doubles parsed allocations before).2 = .ok ↔
    Applied doubles parsed allocations before
      (ctlSetConnectionsConfig doubles parsed allocations before).1
  unchanged : ¬ Applied doubles parsed allocations before
      (ctlSetConnectionsConfig doubles parsed allocations before).1 →
    (ctlSetConnectionsConfig doubles parsed allocations before).1 = before
  balanced : (ctlSetConnectionsConfig doubles parsed allocations before).2 = .ok →
    Balanced (ctlSetConnectionsConfig doubles parsed allocations before).1

theorem of_addAll (entries : Kind → List Entry) (kind : Kind) :
    (connections.addAll (entries .cellular) (entries .wifi)).of kind =
      connections.of kind ++ entries kind := by
  cases kind <;> rfl

theorem applied_iff (before : Connections) :
    Applied doubles parsed allocations before
        (ctlSetConnectionsConfig doubles parsed allocations before).1 ↔
      ∃ jsonConfig, parsed = some jsonConfig ∧
        getObjectItem jsonConfig (octets "connections") ≠ .nil ∧
        EntriesAllocated allocations (getObjectItem jsonConfig (octets "connections")) := by
  constructor
  · rintro ⟨jsonConfig, rfl, found, added⟩
    refine ⟨jsonConfig, rfl, found, ?_⟩
    by_contra missing
    have fewer := ((configSetConnections_adds doubles allocations found).fewer missing before).2
    have cellular := congrArg List.length (added .cellular)
    have wifi := congrArg List.length (added .wifi)
    rw [List.length_append] at cellular wifi
    simp only [ctlSetConnectionsConfig, Connections.of] at cellular wifi
    omega
  · rintro ⟨jsonConfig, rfl, found, allocated⟩
    refine ⟨jsonConfig, rfl, found, fun kind => ?_⟩
    have all := (configSetConnections_adds doubles allocations found).all allocated before
    rw [ctlSetConnectionsConfig, all]
    exact of_addAll before _ kind

/-- A message is answered truthfully exactly where it is applied whole: a text that is not
parsed or has no connections, and a failing allocation, are answered as a success. -/
theorem ctlSetConnectionsConfig_truthful_iff (doubles : Doubles D)
    (parsed : Option (Items (Value D))) (allocations : Nat → Kind → Nat → Allocations)
    {before : Connections} (reachable : Reachable doubles before) :
    Truthful doubles parsed allocations before ↔
      ∃ jsonConfig, parsed = some jsonConfig ∧
        getObjectItem jsonConfig (octets "connections") ≠ .nil ∧
        EntriesAllocated allocations (getObjectItem jsonConfig (octets "connections")) := by
  have ok := ctlSetConnectionsConfig_ok doubles parsed allocations before
  constructor
  · intro truthful
    exact (applied_iff doubles parsed allocations before).mp (truthful.answered.mp ok)
  · intro whole
    have applied := (applied_iff doubles parsed allocations before).mpr whole
    refine ⟨iff_of_true ok applied, fun missing => absurd applied missing, fun _ => ?_⟩
    exact (reachable.message parsed allocations).balanced

end Tree

def allAllocated : Nat → Kind → Nat → Allocations := fun _ _ _ => ⟨true, fun _ => true, true⟩

/-- A wireless network with its name. -/
def oneNetwork : Items (Value SignedRat) :=
  .branch [] .object false
    (.branch (octets "connections") .array false
      (.branch [] .object false
        (.branch Kind.wifi.member .array false
          (.branch [] .object false (.leaf (octets "ssid") (.string [97]) .nil) .nil)
          .nil)
        .nil)
      .nil)
    .nil

theorem ctlSetConnectionsConfig_truthful_iff_second :
    Truthful rationals (some oneNetwork) allAllocated
      (ctlSetConnectionsConfig rationals (some oneNetwork) allAllocated Connections.init).1 :=
  (ctlSetConnectionsConfig_truthful_iff rationals (some oneNetwork) allAllocated
    (.message _ _ .init)).mpr ⟨oneNetwork, rfl, nofun, fun _ _ _ _ _ _ => ⟨rfl, rfl⟩⟩

/-- A text that is no JSON document is answered as a success. -/
theorem ctlSetConnectionsConfig_unparsed :
    (ctlSetConnectionsConfig rationals none allAllocated Connections.init).2 = .ok ∧
      ¬ Truthful rationals none allAllocated Connections.init := by
  refine ⟨rfl, fun truthful => ?_⟩
  obtain ⟨_, parsed, _⟩ := truthful.answered.mp rfl
  cases parsed

end Thingsee.Conman.Configuration
