import Thingsee.Storage.Sections
import Thingsee.Support.Runs

/-!
Owns the production data of the device (ts_devinfo.c): it is loaded from the EEPROM, from the main
section or else from the backup, and each change is written to both sections. The power may be lost
after any byte. `stored_data_survives` holds as long as no call is cut off in the main section while
the backup does not hold what was loaded.

How cJSON prints and parses, and the members of the root beside `prod_info`, are parameters.
-/

namespace Thingsee.Storage

open Support List

/-- The value of an item: a string, or any other value as it is printed. -/
inductive Value where
  | string (text : List UInt8)
  | other (printed : List UInt8)
deriving DecidableEq

structure Item where
  name : List UInt8
  value : Value
deriving DecidableEq

/-- The root object: the items of `prod_info`, and the rest of it. -/
structure ProdData (Rest : Type) where
  rest : Rest
  items : List Item
deriving DecidableEq

/-- `cJSON_PrintUnformatted`; `cJSON_Parse` with the item `prod_info`; and the rest of a root that
was created. -/
structure Json (Rest : Type) where
  print : ProdData Rest → List UInt8
  parse : List UInt8 → Option (ProdData Rest)
  bare : Rest

/-- The EEPROM, and `prod_data` once it is loaded. For the statements: the object that the last call
has stored or the last reload has loaded. -/
structure Device (Rest : Type) where
  eeprom : Eeprom
  prodData : Option (ProdData Rest)
  stored : ProdData Rest

variable {Rest : Type}

def toLower (char : UInt8) : UInt8 := if 65 ≤ char ∧ char ≤ 90 then char + 32 else char

/-- `cJSON_strcasecmp` finds no difference. -/
def Item.named (entry : List UInt8) (item : Item) : Bool :=
  item.name.map toLower == entry.map toLower

/-- `cJSON_string`. -/
def Item.text (item : Item) : List UInt8 :=
  match item.value with
  | .string text => text
  | .other _ => []

def ProdData.getObjectItem (data : ProdData Rest) (entry : List UInt8) : Option Item :=
  data.items.find? (Item.named entry)

/-- `cJSON_DetachItemFromObject`. -/
def ProdData.detachItem (data : ProdData Rest) (entry : List UInt8) : ProdData Rest :=
  { data with items := data.items.eraseP (Item.named entry) }

/-- `cJSON_AddItemToObject`, which gives the item its name. -/
def ProdData.addItem (data : ProdData Rest) (entry : List UInt8) (value : Value) : ProdData Rest :=
  { data with items := data.items ++ [⟨entry, value⟩] }

def Json.loadProdData (json : Json Rest) (sect : Section) : Option (ProdData Rest) :=
  match sect.getProdData with
  | none => none
  | some buf =>
    let prodStr := buf.takeWhile (· ≠ 0)
    if buf.length - 1 ≠ prodStr.length then none else json.parse prodStr

def Json.initProdData (json : Json Rest) (device : Device Rest) : ProdData Rest :=
  match device.prodData with
  | some data => data
  | none =>
    match json.loadProdData device.eeprom.prodInfo with
    | some data => data
    | none =>
      match json.loadProdData device.eeprom.prodInfoBackup with
      | some data => data
      | none => ⟨json.bare, []⟩

/-- What a call does: the object that it leaves in RAM, what it programs, and the object that it
stores, unless it fails. -/
structure Outcome (Rest : Type) where
  prodData : ProdData Rest
  writes : List Write
  storing : Option (ProdData Rest)

/-- The errors of `ts_device_prod_data_set_entry`: the old item is put back. -/
def ProdData.restored (data : ProdData Rest) (entry : List UInt8) (old : Option Item) :
    ProdData Rest :=
  match old with
  | none => data.detachItem entry
  | some item => (data.detachItem entry).addItem entry item.value

/-- `ts_device_prod_data_set_entry`. `created` and `printed` tell whether there is memory for the
new item and for the text. -/
def Json.setEntry (json : Json Rest) (device : Device Rest) (entry valuestr : List UInt8)
    (created printed : Bool) : Outcome Rest :=
  let data := json.initProdData device
  if created then
    let old := data.getObjectItem entry
    let changed := (data.detachItem entry).addItem entry (.string valuestr)
    let failed : Outcome Rest := ⟨changed.restored entry old, [], none⟩
    match changed.getObjectItem entry with
    | none => failed
    | some item =>
      if item.text ≠ valuestr then failed
      else if printed then
        match device.eeprom.writeNewProdData (json.print changed ++ [0]) with
        | none => failed
        | some writes => ⟨changed, writes, some changed⟩
      else failed
  else ⟨data, [], none⟩

/-- A call. With `cut` the power is lost after so many bytes. -/
structure Call where
  entry : List UInt8
  valuestr : List UInt8
  created : Bool
  printed : Bool
  cut : Option Nat

def Json.outcome (json : Json Rest) (device : Device Rest) (call : Call) : Outcome Rest :=
  json.setEntry device call.entry call.valuestr call.created call.printed

/-- A call that is cut off is followed by a reboot, and the production data is loaded again. -/
def Json.step (json : Json Rest) (device : Device Rest) (call : Call) : Device Rest :=
  let outcome := json.outcome device call
  match call.cut with
  | none =>
    { eeprom := device.eeprom.program outcome.writes
      prodData := some outcome.prodData
      stored := outcome.storing.getD device.stored }
  | some count =>
    let rebooted : Device Rest :=
      { device with
        eeprom := device.eeprom.program (outcome.writes.take count)
        prodData := none }
    { rebooted with
      prodData := some (json.initProdData rebooted)
      stored := json.initProdData rebooted }

/-- After a cut the object is loaded that was stored before, or the one that the call was storing.
-/
def Json.Survives (json : Json Rest) (device : Device Rest) (call : Call) : Prop :=
  call.cut.isSome = true →
    (json.step device call).prodData = some device.stored ∨
      (json.outcome device call).storing = (json.step device call).prodData

def Json.Starts (json : Json Rest) (device : Device Rest) : Prop :=
  device.prodData = none ∧ json.loadProdData device.eeprom.prodInfo = some device.stored ∧
    json.loadProdData device.eeprom.prodInfoBackup = some device.stored

def Json.buf (json : Json Rest) (data : ProdData Rest) : List UInt8 := json.print data ++ [0]

/-- What is printed is parsed to the same object, and a section whose programming was cut off does
not verify by accident. -/
def Json.Assumed (json : Json Rest) (device : Device Rest) (call : Call) : Prop :=
  ∀ data, (json.outcome device call).storing = some data →
    json.parse (json.print data) = some data ∧ 0 ∉ json.print data ∧
      ∀ count, call.cut = some count → ∀ found,
        (device.eeprom.prodInfo.cut (json.buf data) count).getProdData = some found →
          device.eeprom.prodInfo.getProdData = some found ∨ found = json.buf data

/-- A call is not cut off between the bytes of the main section that it changes, unless the backup
holds the object that was stored before, or the one that the call is storing. -/
def Json.Backed (json : Json Rest) (device : Device Rest) (call : Call) : Prop :=
  ∀ data count, (json.outcome device call).storing = some data → call.cut = some count →
    device.eeprom.prodInfo.Whole (json.buf data) count ∨
      json.loadProdData device.eeprom.prodInfoBackup = some device.stored ∨
      json.loadProdData device.eeprom.prodInfoBackup = some data

/-- The main section holds what was stored, or else the backup does. -/
def Json.Holds (json : Json Rest) (eeprom : Eeprom) (stored : ProdData Rest) : Prop :=
  json.loadProdData eeprom.prodInfo = some stored ∨
    json.loadProdData eeprom.prodInfo = none ∧
      json.loadProdData eeprom.prodInfoBackup = some stored

variable {json : Json Rest} {device : Device Rest} {data : ProdData Rest}
  {eeprom : Eeprom} {sect : Section} {count : Nat}

theorem Json.Holds.initProdData {stored : ProdData Rest} (holds : json.Holds eeprom stored)
    (fresh : device.prodData = none) (same : device.eeprom = eeprom) :
    json.initProdData device = stored := by
  unfold Json.initProdData
  rw [fresh, same]
  rcases holds with main | ⟨main, backup⟩
  · rw [main]
  · rw [main]
    rw [backup]

theorem Json.loadProdData_of_buf (parses : json.parse (json.print data) = some data)
    (text : 0 ∉ json.print data) (verified : sect.getProdData = some (json.buf data)) :
    json.loadProdData sect = some data := by
  have string : (json.buf data).takeWhile (· ≠ 0) = json.print data := by
    have chars : ∀ char ∈ json.print data, decide (char ≠ 0) = true := fun char member =>
      decide_eq_true fun zero => text (by rwa [zero] at member)
    unfold Json.buf
    rw [takeWhile_append_of_pos chars, takeWhile_cons_of_neg (by decide), append_nil]
  unfold Json.loadProdData
  rw [verified]
  dsimp only
  rw [string, parses, if_neg]
  unfold Json.buf
  rw [length_append]
  exact not_not_intro rfl

theorem Json.loadProdData_of_same (fits : (json.buf data).length ≤ sectionSize - headerSize)
    (parses : json.parse (json.print data) = some data) (text : 0 ∉ json.print data)
    (same : sect.same (json.buf data) = true) : json.loadProdData sect = some data := by
  obtain ⟨front, behind⟩ := Section.same_iff.mp same
  have terminated : 0 < (json.buf data).length := by
    unfold Json.buf
    rw [length_append]
    exact Nat.succ_pos _
  exact Json.loadProdData_of_buf parses text
    (Section.getProdData_of_same terminated fits front behind)

theorem Json.outcome_cases (json : Json Rest) (device : Device Rest) (call : Call) :
    (json.outcome device call).writes = [] ∧ (json.outcome device call).storing = none ∨
      ∃ data, (json.outcome device call).storing = some data ∧
        device.eeprom.writeNewProdData (json.buf data) =
          some (json.outcome device call).writes := by
  unfold Json.outcome Json.setEntry
  dsimp only
  split
  case isFalse => exact .inl ⟨rfl, rfl⟩
  case isTrue =>
    split
    case h_1 => exact .inl ⟨rfl, rfl⟩
    case h_2 item found =>
      split
      case isTrue => exact .inl ⟨rfl, rfl⟩
      case isFalse =>
        split
        case isFalse => exact .inl ⟨rfl, rfl⟩
        case isTrue =>
          split
          case h_1 => exact .inl ⟨rfl, rfl⟩
          case h_2 writes accepted => exact .inr ⟨_, rfl, accepted⟩

variable {call : Call} {writes : List Write}

theorem Eeprom.fits_of_writeNewProdData {buf : List UInt8}
    (accepted : eeprom.writeNewProdData buf = some writes) :
    buf.length ≤ sectionSize - headerSize := by
  unfold Eeprom.writeNewProdData at accepted
  split at accepted
  case isTrue => cases accepted
  case isFalse fits => exact Nat.not_lt.mp fits

theorem Json.Holds.cut (holds : json.Holds device.eeprom device.stored)
    (accepted : device.eeprom.writeNewProdData (json.buf data) = some writes) (count : Nat)
    (parses : json.parse (json.print data) = some data) (text : 0 ∉ json.print data)
    (honest : ∀ found, (device.eeprom.prodInfo.cut (json.buf data) count).getProdData =
      some found → device.eeprom.prodInfo.getProdData = some found ∨ found = json.buf data)
    (backed : device.eeprom.prodInfo.Whole (json.buf data) count ∨
      json.loadProdData device.eeprom.prodInfoBackup = some device.stored ∨
      json.loadProdData device.eeprom.prodInfoBackup = some data) :
    json.Holds (device.eeprom.program (writes.take count)) device.stored ∨
      json.Holds (device.eeprom.program (writes.take count)) data := by
  have fits := Eeprom.fits_of_writeNewProdData accepted
  rw [Eeprom.program_writes accepted]
  -- Once header and data are complete, the backup does not matter.
  rcases device.eeprom.prodInfo.cut_cases count fits with complete | ⟨differs, early⟩
  · exact .inr (.inl (Json.loadProdData_of_same fits parses text complete))
  have untouched : (doProdDataWrite device.eeprom.prodInfoBackup (json.buf data)).take
      (count - (doProdDataWrite device.eeprom.prodInfo (json.buf data)).length) = [] := by
    rw [doProdDataWrite_eq differs, length_zipIdx, length_image fits,
      Nat.sub_eq_zero_of_le, take_zero]
    unfold sectionSize headerSize at *
    omega
  rw [untouched, Section.program_nil]
  change json.Holds ⟨device.eeprom.prodInfo.cut (json.buf data) count, _⟩ _ ∨
    json.Holds ⟨device.eeprom.prodInfo.cut (json.buf data) count, _⟩ _
  rcases backed with whole | backup
  · rcases Section.cut_whole fits whole with same | complete
    · rw [same]
      exact .inl holds
    · exact .inr (.inl (Json.loadProdData_of_same fits parses text complete))
  cases found : (device.eeprom.prodInfo.cut (json.buf data) count).getProdData with
  | none =>
    have fails : json.loadProdData (device.eeprom.prodInfo.cut (json.buf data) count) = none := by
      unfold Json.loadProdData
      rw [found]
    exact backup.imp (fun backup => .inr ⟨fails, backup⟩) fun backup => .inr ⟨fails, backup⟩
  | some buf =>
    rcases honest buf found with before | rfl
    · have same : json.loadProdData (device.eeprom.prodInfo.cut (json.buf data) count) =
          json.loadProdData device.eeprom.prodInfo := by
        unfold Json.loadProdData
        rw [found, before]
      refine .inl ?_
      unfold Json.Holds
      rw [same]
      exact holds
    · exact .inr (.inl (Json.loadProdData_of_buf parses text found))

theorem Json.Holds.complete
    (accepted : device.eeprom.writeNewProdData (json.buf data) = some writes)
    (parses : json.parse (json.print data) = some data) (text : 0 ∉ json.print data) :
    json.Holds (device.eeprom.program writes) data := by
  have fits := Eeprom.fits_of_writeNewProdData accepted
  have programmed := Eeprom.program_writes accepted
    (writes.length + sectionSize)
  rw [take_of_length_le (Nat.le_add_right _ _)] at programmed
  rw [programmed]
  rcases device.eeprom.prodInfo.cut_cases (writes.length + sectionSize) fits with complete | early
  · exact .inl (Json.loadProdData_of_same fits parses text complete)
  · unfold sectionSize headerSize at *
    omega

theorem Json.step_of_cut {object : ProdData Rest} (cut : call.cut = some count)
    (holds : json.Holds (device.eeprom.program ((json.outcome device call).writes.take count))
      object) :
    json.step device call =
      { eeprom := device.eeprom.program ((json.outcome device call).writes.take count)
        prodData := some object
        stored := object } := by
  unfold Json.step
  rw [cut]
  dsimp only
  rw [holds.initProdData rfl rfl]

theorem Json.step_of_complete (complete : call.cut = none) :
    json.step device call =
      { eeprom := device.eeprom.program (json.outcome device call).writes
        prodData := some (json.outcome device call).prodData
        stored := (json.outcome device call).storing.getD device.stored } := by
  unfold Json.step
  rw [complete]

theorem Json.Holds.step (holds : json.Holds device.eeprom device.stored) (call : Call)
    (assumed : json.Assumed device call) (backed : json.Backed device call) :
    json.Holds (json.step device call).eeprom (json.step device call).stored ∧
      json.Survives device call := by
  unfold Json.Survives
  rcases json.outcome_cases device call with ⟨nothing, none⟩ | ⟨data, storing, accepted⟩
  · cases cut : call.cut with
    | none =>
      rw [Json.step_of_complete cut, nothing, none]
      exact ⟨holds, nofun⟩
    | some count =>
      have kept : json.Holds
          (device.eeprom.program ((json.outcome device call).writes.take count))
          device.stored := by
        rw [nothing, take_nil]
        exact holds
      rw [Json.step_of_cut cut kept]
      exact ⟨kept, fun _ => .inl rfl⟩
  · obtain ⟨parses, text, honest⟩ := assumed data storing
    cases cut : call.cut with
    | none =>
      rw [Json.step_of_complete cut, storing]
      exact ⟨Json.Holds.complete accepted parses text, nofun⟩
    | some count =>
      rcases holds.cut accepted count parses text (honest count cut)
        (backed data count storing cut) with before | after
      · rw [Json.step_of_cut cut before]
        exact ⟨before, fun _ => .inl rfl⟩
      · rw [Json.step_of_cut cut after]
        exact ⟨after, fun _ => .inr storing⟩

/-- After each cut the object is loaded that was stored before or the one that was being stored, as
long as each call is `Backed`. -/
theorem stored_data_survives (json : Json Rest) (device : Device Rest) (starts : json.Starts device)
    (calls : List Call)
    (backed : Guarded json.step
      (fun device call => json.Assumed device call ∧ json.Backed device call) device calls) :
    Guarded json.step json.Survives device calls :=
  Guarded.follows (fun device => json.Holds device.eeprom device.stored)
    (fun _ call holds guard => holds.step call guard.1 guard.2) (.inl starts.2.1) backed

/-- Production data with a serial number of one character. -/
def serialNumber (char : UInt8) : ProdData Unit := ⟨(), [⟨[115, 110], .string [char]⟩]⟩

/-- The text of an item whose value is a string without special characters. -/
def itemText (item : Item) : List UInt8 := [34] ++ item.name ++ [34, 58, 34] ++ item.text ++ [34]

/-- A root that holds nothing but `prod_info`. -/
def plainText (data : ProdData Unit) : List UInt8 :=
  [123, 34, 112, 114, 111, 100, 95, 105, 110, 102, 111, 34, 58, 123] ++
    List.intercalate [44] (data.items.map itemText) ++ [125, 125]

/-- The serial numbers A to C are parsed. -/
def plainJson : Json Unit where
  print := plainText
  parse text := ([65, 66, 67].map serialNumber).find? fun data => plainText data == text
  bare := ()

def startSection : Section := ⟨image (plainJson.buf (serialNumber 65)), length_image (by decide)⟩

def startDevice : Device Unit := ⟨⟨startSection, startSection⟩, none, serialNumber 65⟩

theorem startDevice_starts : plainJson.Starts startDevice :=
  ⟨rfl, by decide +kernel, by decide +kernel⟩

theorem Json.assumed_of (storing : (json.outcome device call).storing = some data)
    (cut : call.cut = some count) (parses : json.parse (json.print data) = some data)
    (text : 0 ∉ json.print data)
    (verified : (device.eeprom.prodInfo.cut (json.buf data) count).getProdData =
      none ∨ (device.eeprom.prodInfo.cut (json.buf data) count).getProdData = some
    (json.buf data)) :
    json.Assumed device call := by
  intro other same
  obtain rfl := Option.some.inj (storing.symm.trans same)
  refine ⟨parses, text, fun other same found verifies => .inr ?_⟩
  obtain rfl := Option.some.inj (cut.symm.trans same)
  rcases verified with nothing | all
  · cases nothing.symm.trans verifies
  · exact Option.some.inj (verifies.symm.trans all)

/-- A call that is cut off in the main section, and one that is not. -/
def oneCut : List Call :=
  [⟨[115, 110], [66], true, true, some 10⟩, ⟨[115, 110], [67], true, true, none⟩]

theorem stored_data_survives_one_cut :
    plainJson.Starts startDevice ∧
      Guarded plainJson.step
        (fun device call => plainJson.Assumed device call ∧ plainJson.Backed device call)
        startDevice oneCut ∧
      Guarded plainJson.step plainJson.Survives startDevice oneCut := by
  have first : (plainJson.outcome startDevice oneCut[0]).storing = some (serialNumber 66) := by
    decide +kernel
  have second : (plainJson.outcome (plainJson.step startDevice oneCut[0]) oneCut[1]).storing =
      some (serialNumber 67) := by
    decide +kernel
  have guarded : Guarded plainJson.step
      (fun device call => plainJson.Assumed device call ∧ plainJson.Backed device call)
      startDevice oneCut := by
    refine ⟨⟨Json.assumed_of first rfl (by decide +kernel) (by decide) (.inl (by decide +kernel)),
      fun _ _ _ _ => .inr (.inl ?_)⟩, ⟨fun _ storing => ?_, fun _ _ _ => nofun⟩, trivial⟩
    · exact startDevice_starts.2.2
    · obtain rfl := Option.some.inj (second.symm.trans storing)
      exact ⟨by decide +kernel, by decide, fun _ => nofun⟩
  exact ⟨startDevice_starts, guarded,
    stored_data_survives plainJson startDevice startDevice_starts oneCut guarded⟩

/-- A call that is cut off in the backup, and another one that is cut off in the main section. -/
def backupCut : Call := ⟨[115, 110], [66], true, true, some 1030⟩

def mainCut : Call := ⟨[115, 110], [67], true, true, some 10⟩

/-- After the second cut neither section verifies, and an object without items is created. -/
theorem two_cuts_lose_data :
    ¬ ∀ (device : Device Unit) (calls : List Call), plainJson.Starts device →
      Guarded plainJson.step plainJson.Assumed device calls →
      Guarded plainJson.step plainJson.Survives device calls := by
  intro survives
  have first : (plainJson.outcome startDevice backupCut).storing = some (serialNumber 66) := by
    decide +kernel
  have second : (plainJson.outcome (plainJson.step startDevice backupCut) mainCut).storing =
      some (serialNumber 67) := by
    decide +kernel
  have assumed : Guarded plainJson.step plainJson.Assumed startDevice [backupCut, mainCut] :=
    ⟨Json.assumed_of first rfl (by decide +kernel) (by decide) (.inr (by decide +kernel)),
      Json.assumed_of second rfl (by decide +kernel) (by decide)
        (.inl (by decide +kernel)), trivial⟩
  have lost := (survives startDevice [backupCut, mainCut] startDevice_starts assumed).2.1 rfl
  revert lost
  decide +kernel

end Thingsee.Storage
