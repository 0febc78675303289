import Thingsee.Support.Runs

/-!
Owns the texts that the engine stores (util.c, main.c, cloud_property.c): a profile or cloud
properties go to the SD card, or else to a section of the EEPROM. `stored_texts_are_read` says when
a text is read back as the document that was written, and when a failing call changes nothing.

Reading succeeds. A JSON text is known here by what blanks it has outside of its strings.
-/

namespace Thingsee.Storage

open Support List

/-- Where a character of a JSON text stands. -/
inductive Within where
  | outside
  | string
  | escape
deriving DecidableEq

def Within.next (char : UInt8) : Within → Within
  | .outside => if char = 34 then .string else .outside
  | .string => if char = 34 then .outside else if char = 92 then .escape else .string
  | .escape => .string

def Within.after : Within → List UInt8 → Within
  | within, [] => within
  | within, char :: rest => (within.next char).after rest

def Within.stripped : Within → List UInt8 → List UInt8
  | _, [] => []
  | within, char :: rest =>
    if within = .outside ∧ char ≤ 32 then (within.next char).stripped rest
    else char :: (within.next char).stripped rest

/-- Two JSON texts that differ by blanks outside of their strings. Of other texts it says less: the
tokens of `[1 2]` and `[12]` differ. -/
def SameDocument (text other : List UInt8) : Prop :=
  Within.outside.stripped text = Within.outside.stripped other

/-- What `squeezestr` takes out. -/
def isSqueezed (char : UInt8) : Bool := char == 32 || char == 10 || char == 13

def squeezestr (text : List UInt8) : List UInt8 := text.filter fun char => !isSqueezed char

def Within.Solid : Within → List UInt8 → Prop
  | _, [] => True
  | within, char :: rest =>
    (within = .outside ∨ isSqueezed char = false) ∧ (within.next char).Solid rest

instance Within.decidableSolid (within : Within) (text : List UInt8) :
    Decidable (within.Solid text) :=
  match text with
  | [] => isTrue trivial
  | char :: rest =>
    have := Within.decidableSolid (within.next char) rest
    inferInstanceAs (Decidable (_ ∧ _))

variable {text : List UInt8}

theorem Within.stripped_squeezestr {within : Within} (solid : within.Solid text)
    (rest : List UInt8) :
    within.stripped (squeezestr text ++ rest) =
      within.stripped text ++ (within.after text).stripped rest := by
  induction text generalizing within with
  | nil => rfl
  | cons char tail ih =>
    obtain ⟨placed, solid⟩ := solid
    have behind := ih solid
    cases squeezed : isSqueezed char with
    | true =>
      -- Only a blank outside of a string is taken out, and it stays outside.
      have outside : within = .outside := placed.resolve_right (by rw [squeezed]; exact nofun)
      subst outside
      have blank : char = 32 ∨ char = 10 ∨ char = 13 := by
        simpa [isSqueezed, or_assoc] using squeezed
      have small : char ≤ 32 := by rcases blank with rfl | rfl | rfl <;> decide
      have next : Within.outside.next char = .outside := by
        rcases blank with rfl | rfl | rfl <;> rfl
      unfold squeezestr at behind ⊢
      rw [filter_cons_of_neg (by rw [squeezed]; decide)]
      rw [next] at behind
      rw [behind, Within.stripped, if_pos ⟨rfl, small⟩, Within.after, next]
    | false =>
      unfold squeezestr at behind ⊢
      rw [filter_cons_of_pos (by rw [squeezed]; rfl), cons_append, Within.stripped,
        Within.stripped, Within.after, behind]
      split
      · rfl
      · rfl

theorem Within.stripped_blank (blank : ∀ char ∈ text, char ≤ 32) :
    Within.outside.stripped text = [] := by
  induction text with
  | nil => rfl
  | cons char tail ih =>
    have small := blank char mem_cons_self
    have next : Within.outside.next char = .outside := by
      unfold Within.next
      rw [if_neg]
      rintro rfl
      exact absurd small (by decide)
    rw [Within.stripped, if_pos ⟨rfl, small⟩, next]
    exact ih fun other member => blank other (mem_cons_of_mem char member)

def eepromMagic : List UInt8 := [84, 83, 69, 78, 71, 73, 78, 69]

/-- The file on the SD card, if there is one; the section of the EEPROM (`struct ts_eeprom`); and
what is behind the section. -/
structure Store where
  file : Option (List UInt8)
  magic : List UInt8
  data : List UInt8
  beyond : List UInt8

/-- What comes of a write to the SD card: the file cannot be opened, or so many bytes are written
before it fails, or it succeeds. -/
inductive Card where
  | unopened
  | fails (written : Nat)
  | succeeds

/-- A call with a text, without its terminator. `parsed` tells whether `profile_parse` accepts it,
`dataWritten` and `magicWritten` whether the EEPROM accepts a write. -/
structure TextWrite where
  text : List UInt8
  parsed : Bool
  card : Card
  dataWritten : Bool
  magicWritten : Bool

/-- A profile, with the default that is built in, or cloud properties. -/
inductive Kind where
  | profile (builtin : List UInt8)
  | cloudProperty
deriving DecidableEq

def cString (bytes : List UInt8) : List UInt8 := bytes.takeWhile (· ≠ 0)

def Store.sdcardWrite (store : Store) (text : List UInt8) (card : Card) : Store × Bool :=
  match card with
  | .unopened => (store, false)
  | .fails written => ({ store with file := some (text.take written) }, false)
  | .succeeds => ({ store with file := some text }, true)

/-- The data in the EEPROM starts with a text, by `memcmp`. -/
def Store.startsWith (store : Store) (text : List UInt8) : Bool :=
  (store.data ++ store.beyond).take text.length == text

def Store.eepromWrite (store : Store) (write : TextWrite) : Store × Bool :=
  let data := squeezestr write.text
  if store.startsWith data then (store, true)
  else if store.data.length < data.length ∨ write.dataWritten = false then (store, false)
  else
    let stored := { store with data := data ++ store.data.drop data.length }
    if stored.startsWith eepromMagic then (stored, true)
    else if write.magicWritten = false then (stored, false)
    else ({ stored with magic := eepromMagic }, true)

def Store.eepromRead (store : Store) : Option (List UInt8) :=
  if store.magic = eepromMagic then some (cString (store.data ++ store.beyond)) else none

/-- What `profile_write` and `cloud_property_write` have in common. -/
def Store.write (store : Store) (write : TextWrite) : Store × Bool :=
  let card := store.sdcardWrite write.text write.card
  if card.2 then card else card.1.eepromWrite write

/-- `profile_write` and `cloud_property_write`. Only a profile is parsed for validity. -/
def Kind.write (kind : Kind) (store : Store) (write : TextWrite) : Store × Bool :=
  match kind with
  | .profile _ => if write.parsed then store.write write else (store, false)
  | .cloudProperty => store.write write

/-- `profile_read` and `cloud_property_read`. -/
def Kind.read (kind : Kind) (store : Store) : Option (List UInt8) :=
  match store.file with
  | some text => some text
  | none =>
    match kind with
    | .profile builtin => some (store.eepromRead.getD builtin)
    | .cloudProperty => store.eepromRead

def Kind.step (kind : Kind) (store : Store) (write : TextWrite) : Store :=
  (kind.write store write).1

/-- After a call that succeeded its document is read, and after one that failed what was read
before. -/
def Kind.Keeps (kind : Kind) (store : Store) (write : TextWrite) : Prop :=
  if (kind.write store write).2 then
    ∃ text, kind.read (kind.step store write) = some text ∧ SameDocument text write.text
  else kind.read (kind.step store write) = kind.read store

/-- What any JSON text is like: it has no terminator in it, it does not start with a `T`, and it
ends outside of its strings. -/
structure TextWrite.IsJson (write : TextWrite) : Prop where
  unterminated : 0 ∉ write.text
  starts : ∃ first rest, squeezestr write.text = first :: rest ∧ first ≠ 84
  ends : Within.outside.after write.text = .outside

def Store.Refuses (store : Store) (write : TextWrite) : Prop :=
  store.startsWith (squeezestr write.text) = false ∧
    (store.data.length < (squeezestr write.text).length ∨ write.dataWritten = false)

/-- The EEPROM accepts the data, but not the magic word. -/
def Store.RefusesMagic (store : Store) (write : TextWrite) : Prop :=
  store.startsWith (squeezestr write.text) = false ∧ write.magicWritten = false

/-- Squeezing keeps the document, nothing but blanks is left behind the text in the EEPROM, and the
magic word is there at the end. -/
structure Store.Clean (store : Store) (write : TextWrite) : Prop where
  solid : Within.outside.Solid write.text
  behind : ∀ char ∈ cString ((store.data ++ store.beyond).drop (squeezestr write.text).length),
    char ≤ 32
  magic : if store.startsWith (squeezestr write.text) then store.magic = eepromMagic
    else write.magicWritten = true

/-- No write to the SD card fails once the file is open. When the card cannot be opened, the EEPROM
refuses the data; or there is a file, of the same document or while the magic word is refused; or
there is no file, and the section is clean or holds no text before and after. -/
def Kind.Sound (kind : Kind) (store : Store) (write : TextWrite) : Prop :=
  (kind ≠ .cloudProperty → write.parsed = true) →
    match write.card with
    | .succeeds => True
    | .fails _ => False
    | .unopened =>
      store.Refuses write ∨
        match store.file with
        | some text => SameDocument text write.text ∨ store.RefusesMagic write
        | none => store.Clean write ∨
            store.RefusesMagic write ∧ store.magic ≠ eepromMagic

variable {store : Store} {write : TextWrite}

theorem cString_append (unterminated : 0 ∉ text) (rest : List UInt8) :
    cString (text ++ rest) = text ++ cString rest := by
  exact takeWhile_append_of_pos fun char member =>
    decide_eq_true fun zero => unterminated (by rwa [zero] at member)

theorem Store.Clean.sameDocument (clean : store.Clean write) (json : write.IsJson)
    {bytes : List UInt8}
    (bytesEq : bytes = squeezestr write.text ++
      (store.data ++ store.beyond).drop (squeezestr write.text).length) :
    SameDocument (cString bytes) write.text := by
  have unterminated : 0 ∉ squeezestr write.text := fun member =>
    json.unterminated (mem_of_mem_filter member)
  unfold SameDocument
  rw [bytesEq, cString_append unterminated, Within.stripped_squeezestr clean.solid, json.ends,
    Within.stripped_blank clean.behind, append_nil]

theorem startsWith_eepromMagic (json : write.IsJson) (rest : List UInt8) :
    Store.startsWith { store with data := squeezestr write.text ++ rest } eepromMagic = false := by
  obtain ⟨first, tail, text, other⟩ := json.starts
  rw [text]
  refine beq_eq_false_iff_ne.mpr fun same => other ?_
  have heads := congrArg List.head? same
  exact Option.some.inj heads

/-- What the write to the EEPROM does. -/
inductive Written (store : Store) (write : TextWrite) : Store × Bool → Prop where
  | same (starts : store.startsWith (squeezestr write.text) = true) :
      Written store write (store, true)
  | refused (refuses : store.Refuses write) : Written store write (store, false)
  | unmarked (accepts : ¬ store.Refuses write)
      (starts : store.startsWith (squeezestr write.text) = false)
      (missing : write.magicWritten = false) :
      Written store write ({ store with
        data := squeezestr write.text ++ store.data.drop (squeezestr write.text).length }, false)
  | marked (accepts : ¬ store.Refuses write)
      (starts : store.startsWith (squeezestr write.text) = false)
      (fits : (squeezestr write.text).length ≤ store.data.length)
      (present : write.magicWritten = true) :
      Written store write ({ store with
        data := squeezestr write.text ++ store.data.drop (squeezestr write.text).length
        magic := eepromMagic }, true)

theorem Store.eepromWrite_written (store : Store) (json : write.IsJson) :
    Written store write (store.eepromWrite write) := by
  unfold Store.eepromWrite
  dsimp only
  split
  case isTrue starts => exact .same starts
  case isFalse differs =>
    have starts := Bool.eq_false_iff.mpr differs
    split
    case isTrue refuses => exact .refused ⟨starts, refuses⟩
    case isFalse accepts =>
      rw [startsWith_eepromMagic json, if_neg Bool.false_ne_true]
      have accepted : ¬ store.Refuses write := fun refuses => accepts refuses.2
      split
      case isTrue missing => exact .unmarked accepted starts missing
      case isFalse present =>
        refine .marked accepted starts ?_ (Bool.not_eq_false _ ▸ present)
        exact Nat.not_lt.mp fun short => accepts (.inl short)

variable {kind : Kind}

theorem Kind.read_file (file : store.file = some text) : kind.read store = some text := by
  unfold Kind.read
  rw [file]

theorem Kind.read_eeprom (file : store.file = none) (eeprom : store.eepromRead = some text) :
    kind.read store = some text := by
  unfold Kind.read
  rw [file]
  cases kind with
  | profile builtin => rw [eeprom]; rfl
  | cloudProperty => exact eeprom

theorem Kind.read_nothing {other : Store} (file : store.file = none) (same : other.file = none)
    (magic : store.magic ≠ eepromMagic) (unmarked : other.magic = store.magic) :
    kind.read other = kind.read store := by
  have nothing : store.eepromRead = none := if_neg magic
  have neither : other.eepromRead = none := if_neg (unmarked ▸ magic)
  unfold Kind.read
  rw [file, same, nothing, neither]

theorem Store.eepromWrite_keeps (kind : Kind) (json : write.IsJson)
    (sound : store.Refuses write ∨
      match store.file with
      | some text => SameDocument text write.text ∨ store.RefusesMagic write
      | none => store.Clean write ∨ store.RefusesMagic write ∧ store.magic ≠ eepromMagic) :
    if (store.eepromWrite write).2 then
      ∃ text, kind.read (store.eepromWrite write).1 = some text ∧ SameDocument text write.text
    else kind.read (store.eepromWrite write).1 = kind.read store := by
  have written := store.eepromWrite_written json
  generalize store.eepromWrite write = result at written ⊢
  cases file : store.file with
  | some text =>
    rw [file] at sound
    have before : kind.read store = some text := Kind.read_file file
    cases written with
    | same starts =>
      rcases sound with refuses | same | missing
      · cases starts.symm.trans refuses.1
      · exact ⟨text, before, same⟩
      · cases starts.symm.trans missing.1
    | refused refuses => exact before.trans before.symm
    | unmarked accepts starts missing =>
      change kind.read { store with data := squeezestr write.text ++ _ } = kind.read store
      exact Eq.trans (Kind.read_file file) before.symm
    | marked accepts starts fits present =>
      rcases sound with refuses | same | missing
      · exact absurd refuses accepts
      · exact ⟨text, Kind.read_file file, same⟩
      · cases present.symm.trans missing.2
  | none =>
    rw [file] at sound
    cases written with
    | same starts =>
      rcases sound with refuses | clean | missing
      · cases starts.symm.trans refuses.1
      · have magic := clean.magic
        rw [if_pos starts] at magic
        refine ⟨_, Kind.read_eeprom file (if_pos magic), clean.sameDocument json ?_⟩
        have front := beq_iff_eq.mp starts
        have split := take_append_drop (squeezestr write.text).length
          (store.data ++ store.beyond)
        rw [front] at split
        exact split.symm
      · cases starts.symm.trans missing.1.1
    | refused refuses => exact (rfl : kind.read store = kind.read store)
    | unmarked accepts starts missing =>
      rcases sound with refuses | clean | missing
      · exact absurd refuses accepts
      · have magic := clean.magic
        rw [starts, if_neg Bool.false_ne_true] at magic
        cases magic.symm.trans missing
      · exact Kind.read_nothing file file missing.2 rfl
    | marked accepts starts fits present =>
      rcases sound with refuses | clean | missing
      · exact absurd refuses accepts
      · refine ⟨_, Kind.read_eeprom file (if_pos rfl), clean.sameDocument json ?_⟩
        rw [append_assoc, drop_append_of_le_length fits]
      · cases present.symm.trans missing.1.2

theorem Kind.Sound.keeps (sound : kind.Sound store write) (json : write.IsJson) :
    kind.Keeps store write := by
  by_cases accepted : kind ≠ .cloudProperty → write.parsed = true
  · have writes : kind.write store write = store.write write := by
      cases kind with
      | profile builtin => exact if_pos (accepted nofun)
      | cloudProperty => rfl
    have sound := sound accepted
    unfold Kind.Keeps Kind.step
    rw [writes]
    unfold Store.write
    cases card : write.card with
    | succeeds =>
      exact ⟨write.text, Kind.read_file rfl, rfl⟩
    | fails written =>
      rw [card] at sound
      exact sound.elim
    | unopened =>
      rw [card] at sound
      exact store.eepromWrite_keeps kind json sound
  · rw [Classical.not_imp] at accepted
    obtain ⟨profile, invalid⟩ := accepted
    cases kind with
    | profile builtin =>
      have refused : Kind.write (.profile builtin) store write = (store, false) := if_neg invalid
      unfold Kind.Keeps Kind.step
      rw [refused]
      exact (rfl : Kind.read (.profile builtin) store = Kind.read (.profile builtin) store)
    | cloudProperty => exact absurd rfl profile

/-- A text is read back as the document that was written, and a call that fails changes nothing that
is read, as long as each call is `Sound`. -/
theorem stored_texts_are_read (kind : Kind) (store : Store) (writes : List TextWrite)
    (json : ∀ write ∈ writes, write.IsJson)
    (sound : Guarded kind.step kind.Sound store writes) :
    Guarded kind.step kind.Keeps store writes := by
  induction writes generalizing store with
  | nil => exact trivial
  | cons write rest ih =>
    exact ⟨sound.1.keeps (json write mem_cons_self),
      ih _ (fun other member => json other (mem_cons_of_mem write member))
        sound.2⟩

/-- Erased bytes of the EEPROM. -/
@[irreducible] def erased (length : Nat) : List UInt8 := List.replicate length 0

/-- An EEPROM that holds nothing, and no file. -/
def emptyStore : Store := ⟨none, erased 8, erased 1016, []⟩

/-- Properties with one number. The card cannot be opened, and the EEPROM accepts them. -/
def oneNumber : TextWrite :=
  ⟨[123, 34, 97, 34, 58, 32, 49, 125], true, .unopened, true, true⟩

theorem oneNumber_isJson : oneNumber.IsJson :=
  ⟨by decide, ⟨123, [34, 97, 34, 58, 49, 125], rfl, by decide⟩, rfl⟩

/-- The properties in the EEPROM, then on the card, and then the card cannot be opened again. -/
def threeTimes : List TextWrite := [oneNumber, { oneNumber with card := .succeeds }, oneNumber]

theorem stored_texts_are_read_once :
    (∀ write ∈ threeTimes, write.IsJson) ∧
      Guarded (Kind.step .cloudProperty) (Kind.Sound .cloudProperty) emptyStore threeTimes ∧
      Guarded (Kind.step .cloudProperty) (Kind.Keeps .cloudProperty) emptyStore threeTimes := by
  have json : ∀ write ∈ threeTimes, write.IsJson := by
    have text (card : Card) : TextWrite.IsJson { oneNumber with card } :=
      ⟨oneNumber_isJson.unterminated, oneNumber_isJson.starts, oneNumber_isJson.ends⟩
    simp [threeTimes, oneNumber_isJson, text]
  have clean : emptyStore.Clean oneNumber := by
    refine ⟨by decide +kernel, ?_, ?_⟩
    · decide +kernel
    · decide +kernel
  have sound : Guarded (Kind.step .cloudProperty) (Kind.Sound .cloudProperty) emptyStore
      threeTimes :=
    ⟨fun _ => .inr (.inl clean), fun _ => trivial, fun _ => .inr (.inl rfl), trivial⟩
  exact ⟨json, sound, stored_texts_are_read .cloudProperty emptyStore threeTimes json sound⟩

/-- The same EEPROM, and a file with an object without members. -/
def oldFile : Store := ⟨some [123, 125], erased 8, erased 1016, []⟩

/-- The file on the card is read although the call has stored its text in the EEPROM. -/
theorem file_hides_stored_text :
    ¬ ∀ (kind : Kind) (store : Store) (writes : List TextWrite),
      (∀ write ∈ writes, write.IsJson) → Guarded kind.step kind.Keeps store writes := by
  intro keeps
  have json : ∀ write ∈ [oneNumber], write.IsJson := by
    intro write member
    rw [mem_singleton] at member
    subst member
    exact oneNumber_isJson
  have guarded := keeps .cloudProperty oldFile [oneNumber] json
  have kept := And.left guarded
  have succeeds : (Kind.write .cloudProperty oldFile oneNumber).2 = true := by
    decide +kernel
  unfold Kind.Keeps at kept
  rw [if_pos succeeds] at kept
  obtain ⟨text, read, same⟩ := kept
  have file : Kind.read .cloudProperty (Kind.step .cloudProperty oldFile oneNumber) =
      some [123, 125] := by
    decide +kernel
  obtain rfl := Option.some.inj (file.symm.trans read)
  revert same
  unfold SameDocument
  decide

end Thingsee.Storage
