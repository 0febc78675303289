import Thingsee.Support.LittleEndian
import Thingsee.Support.Programmed

/-!
Owns the two sections of production data in the EEPROM (up_eeprom.c): how a text is programmed into
both, byte by byte, and how a section is verified. `getProdData_cut` says what is left of a section
when its programming is cut off late enough.

Programming succeeds. The sections that hold no production data are left out.
-/

namespace Thingsee.Storage

open Support List

/-- `BOARD_EEPROM_SECTION_PROD_INFO_SIZE`. -/
def sectionSize : Nat := 1024

/-- `sizeof(struct eeprom_header_s)`. -/
def headerSize : Nat := 6

structure Section where
  bytes : List UInt8
  size : bytes.length = sectionSize

/-- `BOARD_EEPROM_SECTION_PROD_INFO` and `BOARD_EEPROM_SECTION_PROD_INFO_BACKUP`. -/
inductive Sect where
  | prodInfo
  | prodInfoBackup

structure Eeprom where
  prodInfo : Section
  prodInfoBackup : Section

structure Write where
  sect : Sect
  offset : Nat
  value : UInt8

def crcTable : List UInt32 :=
  [0x00000000, 0x1db71064, 0x3b6e20c8, 0x26d930ac, 0x76dc4190, 0x6b6b51f4, 0x4db26158, 0x5005713c,
    0xedb88320, 0xf00f9344, 0xd6d6a3e8, 0xcb61b38c, 0x9b64c2b0, 0x86d3d2d4, 0xa00ae278, 0xbdbdf21c]

def crcNext (crc : UInt32) (data : UInt8) : UInt32 :=
  let crc := crc ^^^ data.toUInt32
  let crc := (crc >>> 4) ^^^ crcTable.getD (crc &&& 15).toNat 0
  (crc >>> 4) ^^^ crcTable.getD (crc &&& 15).toNat 0

/-- `crc_init`, `crc_next` for each byte and `crc_final`. -/
def crc (data : List UInt8) : UInt32 := ~~~ data.foldl crcNext 0xffffffff

/-- The self test of `crc_init`. -/
example : crc [49, 50, 51, 52, 53, 54, 55, 56, 57] = 0xcbf43926 := by decide

/-- `struct eeprom_header_s` of some data. -/
def header (buf : List UInt8) : List UInt8 :=
  leBytes 2 buf.length ++ leBytes 4 (crc buf).toNat

/-- `eeprom_get_prod_data`: the data, with the null-terminating byte. -/
def Section.getProdData (sect : Section) : Option (List UInt8) :=
  let datalen := leValue (sect.bytes.take 2)
  let chksum := leValue ((sect.bytes.drop 2).take 4)
  let buf := (sect.bytes.drop headerSize).take datalen
  if sectionSize - headerSize < datalen then none
  else if datalen < 1 then none
  else if (crc buf).toNat ≠ chksum then none
  else some buf

def image (buf : List UInt8) : List UInt8 :=
  header buf ++ buf ++ List.replicate (sectionSize - headerSize - buf.length) 0

def Section.same (sect : Section) (buf : List UInt8) : Bool :=
  sect.bytes.take headerSize == header buf &&
    (sect.bytes.drop headerSize).take buf.length == buf

/-- The bytes that `do_prod_data_write` programs: the header, the data and the trailing bytes, if
they differ. -/
def doProdDataWrite (sect : Section) (buf : List UInt8) : List (UInt8 × Nat) :=
  if sect.same buf then []
  else
    (header buf).zipIdx 0 ++ buf.zipIdx headerSize ++
      (List.replicate (sectionSize - headerSize - buf.length) (0 : UInt8)).zipIdx
        (headerSize + buf.length)

/-- The bytes that `eeprom_write_new_prod_data` programs, or that it refuses the data. -/
def Eeprom.writeNewProdData (eeprom : Eeprom) (buf : List UInt8) : Option (List Write) :=
  if sectionSize - headerSize < buf.length then none
  else
    some ((doProdDataWrite eeprom.prodInfo buf).map
        (fun write => ⟨.prodInfo, write.2, write.1⟩) ++
      (doProdDataWrite eeprom.prodInfoBackup buf).map
        (fun write => ⟨.prodInfoBackup, write.2, write.1⟩))

def Section.program (sect : Section) (writes : List (UInt8 × Nat)) : Section where
  bytes := Support.program sect.bytes writes
  size := (length_program sect.bytes writes).trans sect.size

def Eeprom.programByte (eeprom : Eeprom) (write : Write) : Eeprom :=
  match write.sect with
  | .prodInfo =>
    { eeprom with prodInfo := eeprom.prodInfo.program [(write.value, write.offset)] }
  | .prodInfoBackup =>
    { eeprom with prodInfoBackup := eeprom.prodInfoBackup.program [(write.value, write.offset)] }

def Eeprom.program (eeprom : Eeprom) (writes : List Write) : Eeprom :=
  writes.foldl Eeprom.programByte eeprom

variable {sect : Section} {buf : List UInt8}

theorem Section.eq_of_bytes {other : Section} (bytes : sect.bytes = other.bytes) :
    sect = other := by
  cases sect
  cases other
  cases bytes
  rfl

theorem Section.program_nil (sect : Section) : sect.program [] = sect := Section.eq_of_bytes rfl

theorem Section.program_cons (sect : Section) (write : UInt8 × Nat) (rest : List (UInt8 × Nat)) :
    (sect.program [write]).program rest = sect.program (write :: rest) :=
  Section.eq_of_bytes rfl

variable (eeprom : Eeprom) (count : Nat) (writes : List (UInt8 × Nat))

theorem Eeprom.program_append (first second : List Write) :
    eeprom.program (first ++ second) = (eeprom.program first).program second :=
  foldl_append

theorem Eeprom.program_prodInfo :
    eeprom.program (writes.map fun write => ⟨.prodInfo, write.2, write.1⟩) =
      { eeprom with prodInfo := eeprom.prodInfo.program writes } := by
  induction writes generalizing eeprom with
  | nil => rw [Section.program_nil]; rfl
  | cons write rest ih =>
    change ({ eeprom with prodInfo := eeprom.prodInfo.program [write] } : Eeprom).program _ = _
    rw [ih, Section.program_cons]

theorem Eeprom.program_prodInfoBackup :
    eeprom.program (writes.map fun write => ⟨.prodInfoBackup, write.2, write.1⟩) =
      { eeprom with prodInfoBackup := eeprom.prodInfoBackup.program writes } := by
  induction writes generalizing eeprom with
  | nil => rw [Section.program_nil]; rfl
  | cons write rest ih =>
    change ({ eeprom with
      prodInfoBackup := eeprom.prodInfoBackup.program [write] } : Eeprom).program _ = _
    rw [ih, Section.program_cons]

theorem Eeprom.program_writes {eeprom : Eeprom} {writes : List Write}
    (accepted : eeprom.writeNewProdData buf = some writes) (count : Nat) :
    eeprom.program (writes.take count) =
      { prodInfo := eeprom.prodInfo.program ((doProdDataWrite eeprom.prodInfo buf).take count)
        prodInfoBackup := eeprom.prodInfoBackup.program
          ((doProdDataWrite eeprom.prodInfoBackup buf).take
            (count - (doProdDataWrite eeprom.prodInfo buf).length)) } := by
  unfold Eeprom.writeNewProdData at accepted
  split at accepted
  case isTrue => cases accepted
  case isFalse =>
    obtain rfl := (Option.some.inj accepted).symm
    rw [take_append, length_map, ← map_take, ← map_take,
      Eeprom.program_append, Eeprom.program_prodInfo, Eeprom.program_prodInfoBackup]

@[simp] theorem length_header (buf : List UInt8) : (header buf).length = headerSize := by
  unfold header
  rw [length_append, leBytes_length, leBytes_length]
  rfl

theorem length_image (fits : buf.length ≤ sectionSize - headerSize) :
    (image buf).length = sectionSize := by
  unfold image
  rw [length_append, length_append, length_header, length_replicate]
  unfold sectionSize headerSize at *
  omega

theorem Section.getProdData_of_same (terminated : 0 < buf.length)
    (fits : buf.length ≤ sectionSize - headerSize) (front : sect.bytes.take headerSize = header buf)
    (data : (sect.bytes.drop headerSize).take buf.length = buf) : sect.getProdData = some buf := by
  have datalen : leValue (sect.bytes.take 2) = buf.length := by
    have bytes : sect.bytes.take 2 = leBytes 2 buf.length := by
      have shorter : (sect.bytes.take headerSize).take 2 = sect.bytes.take 2 := by
        rw [take_take]
        rfl
      rw [← shorter, front, header, take_append_of_le_length (by rw [leBytes_length]),
        take_of_length_le (by rw [leBytes_length])]
    have value := leValue_leBytes 2 (buf.length : Int)
    rw [← bytes] at value
    unfold sectionSize headerSize at fits
    omega
  have chksum : leValue ((sect.bytes.drop 2).take 4) = (crc buf).toNat := by
    have bytes : (sect.bytes.drop 2).take 4 = leBytes 4 (crc buf).toNat := by
      have shorter : (sect.bytes.take headerSize).drop 2 = (sect.bytes.drop 2).take 4 := by
        rw [drop_take]
        rfl
      rw [← shorter, front, header, drop_append_of_le_length (by rw [leBytes_length]),
        drop_of_length_le (by rw [leBytes_length]), nil_append]
    have value := leValue_leBytes 4 ((crc buf).toNat : Int)
    rw [← bytes] at value
    have small := (crc buf).toNat_lt
    omega
  unfold Section.getProdData
  dsimp only
  rw [datalen, data, chksum, if_neg (Nat.not_lt.mpr fits), if_neg (Nat.not_lt.mpr terminated),
    if_neg (not_not_intro rfl)]

theorem doProdDataWrite_eq (differs : sect.same buf = false) :
    doProdDataWrite sect buf = (image buf).zipIdx 0 := by
  unfold doProdDataWrite image
  rw [differs, if_neg Bool.false_ne_true, zipIdx_append, zipIdx_append, length_append,
    length_header, Nat.zero_add, Nat.zero_add]

theorem Section.same_iff :
    sect.same buf = true ↔ sect.bytes.take headerSize = header buf ∧
      (sect.bytes.drop headerSize).take buf.length = buf := by
  unfold Section.same
  rw [Bool.and_eq_true, beq_iff_eq, beq_iff_eq]

/-- A section after `count` bytes were programmed. -/
def Section.cut (sect : Section) (buf : List UInt8) (count : Nat) : Section :=
  sect.program ((doProdDataWrite sect buf).take count)

theorem Section.cut_bytes (fits : buf.length ≤ sectionSize - headerSize)
    (differs : sect.same buf = false) :
    (sect.cut buf count).bytes = (image buf).take count ++ sect.bytes.drop count := by
  change Support.program _ _ = _
  have length := length_image fits
  rw [doProdDataWrite_eq differs, program_take _ _ (by rw [length, sect.size]), length_take,
    length]
  by_cases inside : count ≤ sectionSize
  · rw [Nat.min_eq_left inside]
  · rw [Nat.min_eq_right (by omega), drop_of_length_le (by rw [sect.size]),
      drop_of_length_le (by rw [sect.size]; omega)]

theorem Section.cut_of_same (same : sect.same buf = true) : sect.cut buf count = sect := by
  unfold Section.cut doProdDataWrite
  rw [if_pos same, take_nil, Section.program_nil]

theorem image_take {count : Nat} (enough : headerSize + buf.length ≤ count) :
    (image buf).take count =
      header buf ++ (buf ++ (List.replicate (sectionSize - headerSize - buf.length)
        (0 : UInt8)).take (count - headerSize - buf.length)) := by
  unfold image
  rw [append_assoc, take_append, length_header,
    take_of_length_le (by rw [length_header]; omega), take_append,
    take_of_length_le (by omega : buf.length ≤ count - headerSize)]

theorem Section.same_of_front {rest : List UInt8} (bytes : sect.bytes =
    header buf ++ (buf ++ rest)) :
    sect.same buf = true := by
  rw [Section.same_iff, bytes]
  have behind : (header buf ++ (buf ++ rest)).drop headerSize = buf ++ rest := by
    rw [← length_header buf, drop_left]
  rw [behind, take_left]
  refine ⟨?_, rfl⟩
  rw [← length_header buf, take_left]

theorem Section.cut_cases (fits : buf.length ≤ sectionSize - headerSize) :
    (sect.cut buf count).same buf = true ∨
      sect.same buf = false ∧ count < headerSize + buf.length := by
  cases same : sect.same buf with
  | true => exact .inl (by rw [Section.cut_of_same count same, same])
  | false =>
    by_cases early : count < headerSize + buf.length
    · exact .inr ⟨rfl, early⟩
    · have bytes := sect.cut_bytes count fits same
      rw [image_take (Nat.not_lt.mp early), append_assoc, append_assoc] at bytes
      exact .inl (Section.same_of_front bytes)

/-- The bytes that were programmed are as they were, or those of header and data that were not are
as they will be. -/
def Section.Whole (sect : Section) (buf : List UInt8) (count : Nat) : Prop :=
  sect.bytes.take count = (image buf).take count ∨
    (sect.bytes.take (headerSize + buf.length)).drop count = (header buf ++ buf).drop count

theorem Section.cut_whole {count : Nat} (fits : buf.length ≤ sectionSize - headerSize)
    (whole : sect.Whole buf count) :
    sect.cut buf count = sect ∨ (sect.cut buf count).same buf = true := by
  rcases sect.cut_cases count fits with complete | ⟨differs, early⟩
  · exact .inr complete
  have bytes := sect.cut_bytes count fits differs
  rcases whole with before | behind
  · rw [← before, take_append_drop] at bytes
    exact .inl (Section.eq_of_bytes bytes)
  · have front : (image buf).take count = (header buf ++ buf).take count := by
      unfold image
      rw [take_append_of_le_length
        (by rw [length_append, length_header]; exact Nat.le_of_lt early)]
    have data : sect.bytes.drop count = (header buf ++ buf).drop count ++
        sect.bytes.drop (headerSize + buf.length) := by
      have split := take_append_drop (headerSize + buf.length - count)
        (sect.bytes.drop count)
      rw [drop_drop, Nat.add_sub_cancel' (Nat.le_of_lt early)] at split
      rw [← behind, drop_take, split]
    rw [front, data, ← append_assoc, take_append_drop, append_assoc] at bytes
    exact .inr (Section.same_of_front bytes)

end Thingsee.Storage
