import Thingsee.Core.Files

/-!
Owns the invariants of the file table: the count of deleted entries, what the collection
keeps, and the loop over ready entries, which calls each ready entry once while it is
still the same registration.

`__ts_core_fd_register` stops at the first free entry, so it does not see a descriptor
that is registered behind it. `descriptors_are_unique_iff` says in which runs that
matters.
-/

namespace Thingsee.Core

open Support List

variable {C P : Type}

namespace Files

def activeFds (entries : List (Entry C P)) : List Int :=
  (entries.filter Entry.active).map Entry.fd

variable (fd : Int) (entries : List (Entry C P)) (files : Files C P)

/-! ## The walks over the entries -/

/-- A scan meets the descriptor, or it ends at the first inactive entry or behind the last. -/
theorem scan_cases :
    (scan fd entries = none ∧ ∃ entry ∈ entries, entry.fd = fd) ∨
      ∃ front back, entries = front ++ back ∧ scan fd entries = some front.length ∧
        (∀ entry ∈ front, entry.active = true ∧ entry.fd ≠ fd) ∧
        ∀ entry ∈ back.head?, entry.active = false := by
  induction entries with
  | nil => exact .inr ⟨[], [], rfl, rfl, by simp, by simp⟩
  | cons entry rest ih =>
    by_cases found : entry.fd = fd
    · exact .inl ⟨by simp [scan, found], entry, by simp, found⟩
    · by_cases free : entry.fd < 0
      · refine .inr ⟨[], entry :: rest, rfl, by simp [scan, found, free], by simp, ?_⟩
        simpa [Entry.active] using free
      · rcases ih with ⟨hidden, later, isIn, same⟩ | ⟨front, back, split, stops,
          inFront, atBack⟩
        · exact .inl ⟨by simp [scan, found, free, hidden], later, by simp [isIn], same⟩
        · refine .inr ⟨entry :: front, back, by simp [split], by simp [scan, found, free, stops],
            ?_, atBack⟩
          intro other isIn
          rcases mem_cons.1 isIn with rfl | inRest
          · exact ⟨by simpa [Entry.active] using free, found⟩
          · exact inFront other inRest

/-- A registration changes nothing, or adds an entry at the end, or uses a free one. -/
inductive Registered (fd : Int) (files : Files C P) : Files C P → Prop where
  | refused : Registered fd files files
  | appended (new : Entry C P) (valid : 0 ≤ fd) (isFd : new.fd = fd)
      (callback : new.callback.isSome = true) (quiet : new.revents = 0)
      (number : new.registration = files.registrations)
      (others : ∀ entry ∈ files.entries, entry.active = true ∧ entry.fd ≠ fd) :
      Registered fd files
        ⟨files.entries ++ [new], files.nfilesDeleted, files.registrations + 1⟩
  | reused (new old : Entry C P) (front back : List (Entry C P)) (valid : 0 ≤ fd)
      (isFd : new.fd = fd) (callback : new.callback.isSome = true) (quiet : new.revents = 0)
      (number : new.registration = files.registrations)
      (split : files.entries = front ++ old :: back) (free : old.active = false)
      (others : ∀ entry ∈ front, entry.active = true ∧ entry.fd ≠ fd) :
      Registered fd files
        ⟨front ++ new :: back, files.nfilesDeleted - 1, files.registrations + 1⟩

theorem register_registered (capacity : Nat) (fd : Int) (events : Nat) (callback : Option C)
    (priv : P) (files : Files C P) :
    Registered fd files (files.register capacity fd events callback priv).1 := by
  unfold register
  by_cases bad : fd < 0 ∨ events = 0 ∨ callback.isNone
  · rw [if_pos bad]
    exact .refused
  · rw [if_neg bad]
    have valid : 0 ≤ fd := by
      by_contra negative
      exact bad (.inl (by omega))
    have given : callback.isSome = true := by
      cases callback with
      | none => simp at bad
      | some _ => rfl
    rcases scan_cases fd files.entries with ⟨exists_, _⟩ | ⟨front, back, split, stops, inFront,
      atBack⟩
    · rw [exists_]
      exact .refused
    · rw [stops]
      dsimp only
      by_cases full : capacity ≤ front.length
      · rw [if_pos full]
        exact .refused
      · rw [if_neg full]
        cases back with
        | nil =>
          have whole : files.entries = front := by simpa using split
          rw [if_pos (by rw [whole])]
          exact .appended ⟨callback, priv, fd, events, 0, files.registrations⟩ valid rfl given rfl
            rfl (whole ▸ inFront)
        | cons old back =>
          rw [if_neg (by rw [split]; simp)]
          have replaced : files.entries.set front.length
              ⟨callback, priv, fd, events, 0, files.registrations⟩ =
              front ++ ⟨callback, priv, fd, events, 0, files.registrations⟩ :: back := by
            rw [split, set_append_right _ _ (Nat.le_refl _)]
            simp
          rw [replaced]
          exact .reused _ old front back valid rfl given rfl rfl split (atBack old rfl) inFront

theorem changeFirst_cases (change : Entry C P → Entry C P) (entries : List (Entry C P)) :
    changeFirst fd change entries = none ∨
      ∃ front entry back, entries = front ++ entry :: back ∧ entry.fd = fd ∧
        changeFirst fd change entries = some (front ++ change entry :: back) := by
  induction entries with
  | nil => exact .inl rfl
  | cons entry rest ih =>
    by_cases found : entry.fd = fd
    · exact .inr ⟨[], entry, rest, rfl, found, by simp [changeFirst, found]⟩
    · rcases ih with missing | ⟨front, later, back, split, same, changed⟩
      · exact .inl (by simp [changeFirst, found, missing])
      · exact .inr ⟨entry :: front, later, back, by simp [split], same,
          by simp [changeFirst, found, changed]⟩

theorem gcLoop_eq :
    gcLoop entries (entries.countP (fun entry => !entry.active)) =
      (entries.filter Entry.active, 0) := by
  induction entries with
  | nil => rfl
  | cons entry rest ih =>
    by_cases active : entry.active = true
    · have valid : 0 ≤ entry.fd := by simpa [Entry.active] using active
      rw [countP_cons_of_neg (by simp [active]), filter_cons_of_pos active]
      cases left : rest.countP (fun entry => !entry.active) with
      | zero =>
        rw [left] at ih
        have all : rest = rest.filter Entry.active := by
          have kept : gcLoop rest 0 = (rest, 0) := by cases rest <;> rfl
          rw [kept] at ih
          exact congrArg Prod.fst ih
        rw [← all]
        rfl
      | succ less =>
        rw [left] at ih
        simp [gcLoop, valid, ih]
    · have freed : ¬ 0 ≤ entry.fd := by simpa [Entry.active] using active
      rw [countP_cons_of_pos (by simp [active]), filter_cons_of_neg active]
      simp [gcLoop, freed, ih]

theorem scan_eq_none_iff {fd : Int} (valid : 0 ≤ fd) (entries : List (Entry C P)) :
    scan fd entries = none ↔ fd ∈ (entries.takeWhile Entry.active).map Entry.fd := by
  induction entries with
  | nil => simp [scan]
  | cons entry rest ih =>
    by_cases found : entry.fd = fd
    · have active : entry.active = true := by simpa [Entry.active, found] using valid
      simp [scan, found, active]
    · by_cases free : entry.fd < 0
      · have inactive : entry.active = false := by simpa [Entry.active] using free
        simp [scan, found, free, inactive]
      · have active : entry.active = true := by simpa [Entry.active] using free
        simp only [scan, found, free, if_false, Option.map_eq_none_iff, ih,
          takeWhile_cons_of_pos active, map_cons, mem_cons]
        simp [Ne.symm found]

theorem activeFds_split :
    activeFds entries =
      (entries.takeWhile Entry.active).map Entry.fd ++
        activeFds (entries.dropWhile Entry.active) := by
  have all : (entries.takeWhile Entry.active).filter Entry.active =
      entries.takeWhile Entry.active := by
    rw [filter_eq_self]
    exact all_eq_true.1 all_takeWhile
  unfold activeFds
  conv_lhs => rw [← takeWhile_append_dropWhile (p := Entry.active) (l := entries)]
  rw [filter_append, map_append, all]

theorem activeFds_append (front back : List (Entry C P)) :
    activeFds (front ++ back) = activeFds front ++ activeFds back := by
  simp [activeFds]

theorem activeFds_cons (entry : Entry C P) (rest : List (Entry C P)) :
    activeFds (entry :: rest) =
      if entry.active then entry.fd :: activeFds rest else activeFds rest := by
  unfold activeFds
  rw [filter_cons]
  split <;> rfl

theorem Registered.unique {fd : Int} {files after : Files C P}
    (registered : Registered fd files after) (unique : (activeFds files.entries).Nodup)
    (seen : fd ∉ activeFds (files.entries.dropWhile Entry.active)) :
    (activeFds after.entries).Nodup := by
  cases registered with
  | refused => exact unique
  | appended new valid isFd callback quiet number others =>
    have active : new.active = true := by simp [Entry.active, isFd, valid]
    rw [activeFds_append, activeFds_cons, if_pos active]
    apply List.Nodup.append unique (by simp [activeFds])
    intro other isOld isNew
    obtain ⟨entry, isIn, rfl⟩ := mem_map.1 isOld
    have different := (others entry (mem_filter.1 isIn).1).2
    simp [activeFds, isFd] at isNew
    exact different isNew
  | reused new old front back valid isFd callback quiet number split free others =>
    have active : new.active = true := by simp [Entry.active, isFd, valid]
    have atFree : files.entries.dropWhile Entry.active = old :: back := by
      rw [split, dropWhile_append_of_pos (fun entry isIn => (others entry isIn).1)]
      exact dropWhile_cons_of_neg (by simp [free])
    rw [atFree, activeFds_cons, if_neg (by simp [free])] at seen
    rw [split, activeFds_append, activeFds_cons, if_neg (by simp [free])] at unique
    rw [activeFds_append, activeFds_cons, if_pos active]
    have inFront : new.fd ∉ activeFds front := by
      intro isIn
      obtain ⟨entry, isEntry, same⟩ := mem_map.1 isIn
      exact (others entry (mem_filter.1 isEntry).1).2 (same.trans isFd)
    rw [← isFd] at seen
    simp only [nodup_append, nodup_cons, mem_cons] at unique ⊢
    grind

theorem setPollEvents_activeFds (fd : Int) (events : Nat) :
    activeFds (files.setPollEvents fd events).1.entries = activeFds files.entries := by
  unfold Files.setPollEvents
  split
  · rfl
  · rcases changeFirst_cases fd (fun entry => { entry with events }) files.entries with
      missing | ⟨front, entry, back, entries, _, changed⟩
    · rw [missing]
    · rw [changed]
      rw [entries]
      simp [activeFds_append, activeFds_cons, Entry.active]

theorem unregister_activeFds (fd : Int) :
    (activeFds (files.unregister fd).1.entries).Sublist (activeFds files.entries) := by
  unfold Files.unregister
  split
  · exact List.Sublist.refl _
  · rcases changeFirst_cases fd (fun entry => { entry with fd := -1, revents := 0 })
      files.entries with missing | ⟨front, entry, back, entries, _, changed⟩
    · rw [missing]
    · rw [changed]
      rw [entries, activeFds_append, activeFds_append, activeFds_cons, activeFds_cons]
      rw [if_neg (by simp [Entry.active])]
      apply List.Sublist.append_left
      split
      · exact sublist_cons_self _ _
      · exact List.Sublist.refl _

/-- The invariant of the table. -/
structure Sound (capacity : Nat) (files : Files C P) : Prop where
  deleted : files.nfilesDeleted = files.entries.countP (fun entry => !entry.active)
  callbacks : ∀ entry ∈ files.entries, entry.callback.isSome = true
  numbers : (files.entries.map Entry.registration).Nodup
  bound : ∀ entry ∈ files.entries, entry.registration < files.registrations
  quiet : ∀ entry ∈ files.entries, entry.active = false → entry.revents = 0

variable {capacity : Nat} {files : Files C P}

section

variable (sound : Sound capacity files)
include sound

theorem Sound.gc_entries :
    files.gc.entries = files.entries.filter Entry.active ∧ files.gc.nfilesDeleted = 0 := by
  unfold gc
  rw [sound.deleted, gcLoop_eq]
  exact ⟨rfl, rfl⟩

/-! ## The table stays sound -/

theorem Sound.gc : Sound capacity files.gc := by
  obtain ⟨entries, deleted⟩ := sound.gc_entries
  refine ⟨?_, ?_, ?_, ?_, ?_⟩
  · rw [entries, deleted]
    symm
    rw [countP_eq_zero]
    intro entry isIn
    simpa using (mem_filter.1 isIn).2
  · rw [entries]
    intro entry isIn
    exact sound.callbacks entry (mem_filter.1 isIn).1
  · rw [entries]
    exact sound.numbers.sublist (filter_sublist.map _)
  · rw [entries]
    intro entry isIn
    exact sound.bound entry (mem_filter.1 isIn).1
  · rw [entries]
    intro entry isIn free
    rw [(mem_filter.1 isIn).2] at free
    simp at free

theorem Sound.register {fd : Int} {after : Files C P} (registered : Registered fd files after) :
    Sound capacity after := by
  cases registered with
  | refused => exact sound
  | appended new valid isFd callback quiet number others =>
    have active : new.active = true := by simp [Entry.active, isFd, valid]
    refine ⟨?_, ?_, ?_, ?_, ?_⟩
    · simp [sound.deleted, active]
    · intro entry isIn
      rcases mem_append.1 isIn with old | isNew
      · exact sound.callbacks entry old
      · rwa [mem_singleton.1 isNew]
    · rw [map_append]
      apply List.Nodup.append sound.numbers (nodup_singleton _)
      intro number_ isOld isNew
      obtain ⟨entry, isIn, rfl⟩ := mem_map.1 isOld
      have small := sound.bound entry isIn
      simp [number] at isNew
      omega
    · intro entry isIn
      rcases mem_append.1 isIn with old | isNew
      · exact Nat.lt_succ_of_lt (sound.bound entry old)
      · rw [mem_singleton.1 isNew, number]
        exact Nat.lt_succ_self _
    · intro entry isIn free
      rcases mem_append.1 isIn with old | isNew
      · exact sound.quiet entry old free
      · rwa [mem_singleton.1 isNew]
  | reused new old front back valid isFd callback quiet number split free others =>
    have active : new.active = true := by simp [Entry.active, isFd, valid]
    have mem {entry : Entry C P} (isIn : entry ∈ front ++ new :: back) :
        entry ∈ files.entries ∨ entry = new := by
      rw [split]
      simp only [mem_append, mem_cons] at isIn ⊢
      grind
    refine ⟨?_, ?_, ?_, ?_, ?_⟩
    · rw [sound.deleted, split]
      simp [free, active]
    · intro entry isIn
      rcases mem isIn with old | rfl
      · exact sound.callbacks entry old
      · exact callback
    · have numbers := sound.numbers
      have fresh : ∀ entry ∈ files.entries, entry.registration ≠ new.registration := by
        intro entry isIn
        rw [number]
        exact Nat.ne_of_lt (sound.bound entry isIn)
      rw [split] at numbers fresh
      simp only [map_append, map_cons, nodup_append, nodup_cons] at numbers ⊢
      grind
    · intro entry isIn
      rcases mem isIn with old | rfl
      · exact Nat.lt_succ_of_lt (sound.bound entry old)
      · rw [number]
        exact Nat.lt_succ_self _
    · intro entry isIn inactive
      rcases mem isIn with old | rfl
      · exact sound.quiet entry old inactive
      · exact quiet

theorem Sound.change (new : Entry C P) {front back : List (Entry C P)} {old : Entry C P}
    (split : files.entries = front ++ old :: back) (callback : new.callback = old.callback)
    (number : new.registration = old.registration) (quiet : new.active = false → new.revents = 0)
    {deleted : Nat} (count : deleted = (front ++ new :: back).countP (fun entry => !entry.active)) :
    Sound capacity ⟨front ++ new :: back, deleted, files.registrations⟩ := by
  have isOld : old ∈ files.entries := by simp [split]
  have mem {entry : Entry C P} (isIn : entry ∈ front ++ new :: back) :
      entry ∈ files.entries ∨ entry = new := by
    rw [split]
    simp only [mem_append, mem_cons] at isIn ⊢
    grind
  refine ⟨count, ?_, ?_, ?_, ?_⟩
  · intro entry isIn
    rcases mem isIn with old | rfl
    · exact sound.callbacks entry old
    · rw [callback]
      exact sound.callbacks _ isOld
  · have numbers := sound.numbers
    rw [split] at numbers
    simpa [number] using numbers
  · intro entry isIn
    rcases mem isIn with old | rfl
    · exact sound.bound entry old
    · rw [number]
      exact sound.bound _ isOld
  · intro entry isIn inactive
    rcases mem isIn with old | rfl
    · exact sound.quiet entry old inactive
    · exact quiet inactive

theorem Sound.setPollEvents (fd : Int) (events : Nat) :
    Sound capacity (files.setPollEvents fd events).1 := by
  unfold Files.setPollEvents
  split
  · exact sound
  · rcases changeFirst_cases fd (fun entry => { entry with events }) files.entries with
      missing | ⟨front, entry, back, entries, _, changed⟩
    · rw [missing]
      exact sound
    · rw [changed]
      have count : files.nfilesDeleted = (front ++ { entry with events } :: back).countP
          (fun entry => !entry.active) := by
        rw [sound.deleted, entries]
        simp [countP_cons, Entry.active]
      exact sound.change { entry with events } entries rfl rfl
        (sound.quiet entry (by simp [entries])) count

theorem Sound.unregister (fd : Int) : Sound capacity (files.unregister fd).1 := by
  unfold Files.unregister
  split
  · exact sound
  · next valid =>
    rcases changeFirst_cases fd (fun entry => { entry with fd := -1, revents := 0 })
      files.entries with missing | ⟨front, entry, back, entries, same, changed⟩
    · rw [missing]
      exact sound
    · rw [changed]
      have active : entry.active = true := by
        simp only [Entry.active, decide_eq_true_eq]
        omega
      have freed : ({ entry with fd := -1, revents := 0 } : Entry C P).active = false := rfl
      have count : files.nfilesDeleted + 1 =
          (front ++ { entry with fd := -1, revents := 0 } :: back).countP
            (fun entry => !entry.active) := by
        rw [sound.deleted, entries]
        simp only [countP_append, countP_cons, active, freed]
        simp
        omega
      exact sound.change { entry with fd := -1, revents := 0 } entries rfl rfl (fun _ => rfl)
        count

end

theorem report_map {α : Type} (get : Entry C P → α)
    (same : ∀ entry revents, get { entry with revents } = get entry)
    (entries : List (Entry C P)) (reported : List Nat) :
    (report entries reported).map get = entries.map get := by
  induction entries generalizing reported with
  | nil => rfl
  | cons entry rest ih => simp [report, same, ih]

theorem report_quiet {entries : List (Entry C P)} {reported : List Nat} {entry : Entry C P}
    (isIn : entry ∈ report entries reported) (free : entry.active = false) :
    entry.revents = 0 := by
  induction entries generalizing reported with
  | nil => simp [report] at isIn
  | cons first rest ih =>
    rcases mem_cons.1 isIn with rfl | later
    · have negative : ¬ 0 ≤ first.fd := by simpa [Entry.active] using free
      simp [negative]
    · exact ih later

theorem Sound.polled (sound : Sound capacity files) (reported : List Nat) :
    Sound capacity { files with entries := report files.entries reported } := by
  have same {α : Type} (get : Entry C P → α)
      (same : ∀ entry revents, get { entry with revents } = get entry) :
      (report files.entries reported).map get = files.entries.map get :=
    report_map get same files.entries reported
  have mem {entry : Entry C P} (isIn : entry ∈ report files.entries reported) :
      ∃ old ∈ files.entries, old.callback = entry.callback ∧
        old.registration = entry.registration := by
    have image : (entry.callback, entry.registration) ∈
        (report files.entries reported).map (fun entry => (entry.callback, entry.registration)) :=
      mem_map_of_mem isIn
    rw [same _ (fun _ _ => rfl)] at image
    obtain ⟨old, isOld, pair⟩ := mem_map.1 image
    exact ⟨old, isOld, congrArg Prod.fst pair, congrArg Prod.snd pair⟩
  refine ⟨?_, ?_, ?_, ?_, fun entry => report_quiet⟩
  · have counts := congrArg (List.countP (fun active => !active))
      (same Entry.active (fun _ _ => rfl))
    rw [countP_map, countP_map] at counts
    exact sound.deleted.trans counts.symm
  · intro entry isIn
    obtain ⟨old, isOld, callback, _⟩ := mem isIn
    rw [← callback]
    exact sound.callbacks old isOld
  · rw [same Entry.registration (fun _ _ => rfl)]
    exact sound.numbers
  · intro entry isIn
    obtain ⟨old, isOld, _, number⟩ := mem isIn
    rw [← number]
    exact sound.bound old isOld

/-- The entries after a call: each is the same registration, with what was reported for
it, or nothing is reported for it and it is free or has the new number. -/
inductive Lowered (number : Nat) : List (Entry C P) → List (Entry C P) → Prop where
  | nil : Lowered number [] []
  | added (new : Entry C P) (quiet : new.revents = 0) (isNew : new.registration = number) :
      Lowered number [] [new]
  | kept {entries after : List (Entry C P)} (old new : Entry C P)
      (same : new.registration = old.registration) (active : new.active = old.active)
      (revents : new.revents = old.revents) (rest : Lowered number entries after) :
      Lowered number (old :: entries) (new :: after)
  | lost {entries after : List (Entry C P)} (old new : Entry C P) (quiet : new.revents = 0)
      (other : new.active = false ∨ new.registration = number)
      (rest : Lowered number entries after) : Lowered number (old :: entries) (new :: after)

theorem Lowered.refl (number : Nat) (entries : List (Entry C P)) :
    Lowered number entries entries := by
  induction entries with
  | nil => exact .nil
  | cons entry rest ih => exact .kept entry entry rfl rfl rfl ih

variable {number : Nat} {before after : List (Entry C P)}

theorem Lowered.append (front : List (Entry C P)) (lowered : Lowered number before after) :
    Lowered number (front ++ before) (front ++ after) := by
  induction front with
  | nil => exact lowered
  | cons entry rest ih => exact .kept entry entry rfl rfl rfl ih

theorem Lowered.get (lowered : Lowered number before after) {k : Nat} {new : Entry C P}
    (isNew : after[k]? = some new) :
    (∃ old, before[k]? = some old ∧ new.registration = old.registration ∧
      new.active = old.active ∧ new.revents = old.revents) ∨
    (new.revents = 0 ∧ (new.active = false ∨ new.registration = number)) := by
  induction lowered generalizing k with
  | nil => simp at isNew
  | added entry quiet isEntry =>
    cases k with
    | zero =>
      obtain rfl : entry = new := by simpa using isNew
      exact .inr ⟨quiet, .inr isEntry⟩
    | succ k => simp at isNew
  | kept old entry same active revents rest ih =>
    cases k with
    | zero =>
      obtain rfl : entry = new := by simpa using isNew
      exact .inl ⟨old, rfl, same, active, revents⟩
    | succ k => exact ih (by simpa using isNew)
  | lost old entry quiet other rest ih =>
    cases k with
    | zero =>
      obtain rfl : entry = new := by simpa using isNew
      exact .inr ⟨quiet, other⟩
    | succ k => exact ih (by simpa using isNew)

theorem Lowered.ready_le (lowered : Lowered number before after) (i : Nat) :
    ready (after.drop i) ≤ ready (before.drop i) := by
  induction lowered generalizing i with
  | nil => exact Nat.le_refl _
  | added entry quiet isEntry => cases i <;> simp [ready, quiet]
  | kept old entry same active revents rest ih =>
    cases i with
    | zero =>
      have later := ih 0
      simp only [drop_zero] at later ⊢
      simp only [ready, countP_cons, revents] at later ⊢
      omega
    | succ i => exact ih i
  | lost old entry quiet other rest ih =>
    cases i with
    | zero =>
      have later := ih 0
      simp only [drop_zero] at later ⊢
      simp only [ready, countP_cons, quiet] at later ⊢
      rw [if_neg (by simp)]
      omega
    | succ i => exact ih i

theorem Registered.lowered {fd : Int} {after : Files C P} (registered : Registered fd files after) :
    Lowered files.registrations files.entries after.entries ∧
      files.registrations ≤ after.registrations := by
  cases registered with
  | refused => exact ⟨.refl _ _, Nat.le_refl _⟩
  | appended new valid isFd callback quiet number others =>
    have added := Lowered.append files.entries (Lowered.added new quiet number)
    rw [append_nil] at added
    exact ⟨added, Nat.le_succ _⟩
  | reused new old front back valid isFd callback quiet number split free others =>
    refine ⟨?_, Nat.le_succ _⟩
    rw [split]
    exact Lowered.append front (.lost old new quiet (.inr number) (.refl _ _))

variable (files : Files C P) (fd : Int)

theorem setPollEvents_lowered (events : Nat) :
    Lowered files.registrations files.entries (files.setPollEvents fd events).1.entries ∧
      (files.setPollEvents fd events).1.registrations = files.registrations := by
  unfold Files.setPollEvents
  split
  · exact ⟨.refl _ _, rfl⟩
  · rcases changeFirst_cases fd (fun entry => { entry with events }) files.entries with
      missing | ⟨front, entry, back, entries, _, changed⟩
    · rw [missing]
      exact ⟨.refl _ _, rfl⟩
    · rw [changed]
      refine ⟨?_, rfl⟩
      rw [entries]
      exact Lowered.append front (.kept entry _ rfl rfl rfl (.refl _ _))

theorem unregister_lowered :
    Lowered files.registrations files.entries (files.unregister fd).1.entries ∧
      (files.unregister fd).1.registrations = files.registrations := by
  unfold Files.unregister
  split
  · exact ⟨.refl _ _, rfl⟩
  · rcases changeFirst_cases fd (fun entry => { entry with fd := -1, revents := 0 })
      files.entries with missing | ⟨front, entry, back, entries, _, changed⟩
    · rw [missing]
      exact ⟨.refl _ _, rfl⟩
    · rw [changed]
      refine ⟨?_, rfl⟩
      rw [entries]
      exact Lowered.append front (.lost entry _ rfl (.inl (by simp [Entry.active])) (.refl _ _))

end Files

namespace Dispatcher

open Files

/-- `poll` has reported the entry at `k`, and it is still the same registration. -/
def Due (dispatcher : Dispatcher C P) (k : Nat) (registration : Nat) : Prop :=
  ∃ entry, dispatcher.files.entries[k]? = some entry ∧ entry.active = true ∧
    entry.registration = registration ∧ dispatcher.polled[k]? = some (registration, true)

/-- What the loop knows in front of entry `i`: the entries that are left to call are those
that still show events. -/
structure Walk (entries : List (Entry C P)) (polled : List (Nat × Bool)) (i : Nat)
    (nrevents : Int) : Prop where
  reported : ∀ (k : Nat) (entry : Entry C P), entries[k]? = some entry → entry.active = true →
    (polled[k]? = some (entry.registration, true) ↔ entry.revents ≠ 0)
  left : (ready (entries.drop i) : Int) ≤ nrevents

/-- The invariant of the loop. A failed `poll` has reported nothing. -/
structure Walking (entries : List (Entry C P)) (polled : List (Nat × Bool)) (called : List Nat)
    (i : Nat) (nrevents : Int) : Prop where
  walk : Walk entries polled i nrevents ∨ (polled = [] ∧ nrevents < 0)
  fresh : ∀ (k : Nat) (pair : Nat × Bool), i ≤ k → polled[k]? = some pair → pair.1 ∉ called

structure Orderly (capacity : Nat) (dispatcher : Dispatcher C P) : Prop where
  sound : dispatcher.files.Sound capacity
  walking : ∀ i nrevents, dispatcher.phase = .walking i nrevents →
    Walking dispatcher.files.entries dispatcher.polled dispatcher.called i nrevents
  calling : ∀ i nrevents, dispatcher.phase = .calling i nrevents →
    Walking dispatcher.files.entries dispatcher.polled dispatcher.called (i + 1) nrevents
  distinct : (dispatcher.polled.map Prod.fst).Nodup
  known : ∀ pair ∈ dispatcher.polled, pair.1 < dispatcher.files.registrations
  once : dispatcher.called.Nodup
  called : ∀ registration ∈ dispatcher.called, (registration, true) ∈ dispatcher.polled

/-- What a turn of the loop is to do at entry `i`: the callback is called if the entry is
due, and the loop ends only when no entry is. -/
structure TurnRight (dispatcher : Dispatcher C P) (i : Nat) (nrevents : Int) : Prop where
  calls : ∀ registration, dispatcher.Due i registration →
    (∃ left, (dispatcher.turn i nrevents).phase = .calling i left) ∧
      (dispatcher.turn i nrevents).called = registration :: dispatcher.called
  skips : (∀ registration, ¬ dispatcher.Due i registration) →
    (∀ j left, (dispatcher.turn i nrevents).phase ≠ .calling j left) ∧
      (dispatcher.turn i nrevents).called = dispatcher.called
  goesOn : ∀ k registration, i < k → dispatcher.Due k registration →
    (dispatcher.turn i nrevents).phase ≠ .idle

variable {capacity : Nat} {dispatcher : Dispatcher C P}
  {entries : List (Entry C P)} {i : Nat} {nrevents : Int}
  {k : Nat} {called : List Nat} {entry : Entry C P}

theorem ready_pos (later : i ≤ k) (isAt : entries[k]? = some entry) (shows : entry.revents ≠ 0) :
    0 < ready (entries.drop i) := by
  unfold ready
  rw [countP_pos_iff]
  refine ⟨entry, ?_, by simpa using shows⟩
  rw [mem_iff_getElem?]
  exact ⟨k - i, by rw [List.getElem?_drop, Nat.add_sub_cancel' later, isAt]⟩

theorem Walking.due
    (walking : Walking dispatcher.files.entries dispatcher.polled dispatcher.called i nrevents)
    (later : i ≤ k) {registration : Nat} (due : dispatcher.Due k registration) :
    0 < nrevents ∧ Walk dispatcher.files.entries dispatcher.polled i nrevents := by
  obtain ⟨entry, isAt, active, rfl, wasReady⟩ := due
  rcases walking.walk with walk | ⟨none, _⟩
  · have shows := (walk.reported k entry isAt active).1 wasReady
    have positive := ready_pos later isAt shows
    have enough := walk.left
    exact ⟨by omega, walk⟩
  · rw [none] at wasReady
    simp at wasReady

/-! ## The dispatcher -/

/-- A turn of the loop does what is to do at its entry. -/
theorem turn_right (sound : dispatcher.files.Sound capacity)
    (walking : Walking dispatcher.files.entries dispatcher.polled dispatcher.called i nrevents) :
    TurnRight dispatcher i nrevents := by
  constructor
  · intro registration due
    obtain ⟨positive, walk⟩ := walking.due (Nat.le_refl i) due
    obtain ⟨entry, isAt, active, rfl, wasReady⟩ := due
    have shows := (walk.reported i entry isAt active).1 wasReady
    have callback := sound.callbacks entry (mem_of_getElem? isAt)
    have valid : 0 ≤ entry.fd := by simpa [Entry.active] using active
    unfold turn
    rw [isAt]
    simp [positive, shows, callback, valid]
  · intro notDue
    unfold turn
    split
    · next entry isAt =>
      split
      · next positive =>
        have skipped : ¬ (entry.revents ≠ 0 ∧ entry.callback.isSome = true ∧ 0 ≤ entry.fd) := by
          rintro ⟨shows, _, valid⟩
          have active : entry.active = true := by simpa [Entry.active] using valid
          rcases walking.walk with walk | ⟨_, negative⟩
          · exact notDue _ ⟨entry, isAt, active, rfl,
              (walk.reported i entry isAt active).2 shows⟩
          · omega
        rw [if_neg skipped]
        simp
      · simp
    · simp
  · intro k registration later due
    obtain ⟨positive, _⟩ := walking.due (Nat.le_of_lt later) due
    obtain ⟨entry, isAt, _⟩ := due
    have short : i < dispatcher.files.entries.length :=
      Nat.lt_trans later (List.getElem?_eq_some_iff.1 isAt).1
    unfold turn
    rw [List.getElem?_eq_getElem short]
    dsimp only
    rw [if_pos positive]
    split <;> simp

theorem Walking.lowered {after : List (Entry C P)} {polled : List (Nat × Bool)}
    (walking : Walking entries polled called i nrevents) {number : Nat}
    (lowered : Lowered number entries after) (known : ∀ pair ∈ polled, pair.1 < number) :
    Walking after polled called i nrevents := by
  refine ⟨?_, walking.fresh⟩
  rcases walking.walk with walk | failed
  · left
    constructor
    · intro k entry isAt active
      rcases lowered.get isAt with ⟨old, wasAt, number, sameActive, revents⟩ | ⟨quiet, free | isNew⟩
      · rw [number, revents]
        exact walk.reported k old wasAt (sameActive ▸ active)
      · rw [free] at active
        simp at active
      · constructor
        · intro wasReady
          have small := known _ (mem_of_getElem? wasReady)
          rw [isNew] at small
          simp at small
        · intro shows
          exact absurd quiet shows
    · have fewer := lowered.ready_le i
      have enough := walk.left
      omega
  · exact .inr failed

theorem Orderly.call (orderly : Orderly capacity dispatcher) {files : Files C P}
    (sound : files.Sound capacity)
    (lowered : Lowered dispatcher.files.registrations dispatcher.files.entries files.entries)
    (more : dispatcher.files.registrations ≤ files.registrations) :
    Orderly capacity { dispatcher with files } where
  sound := sound
  walking := fun i nrevents isPhase =>
    (orderly.walking i nrevents isPhase).lowered lowered orderly.known
  calling := fun i nrevents isPhase =>
    (orderly.calling i nrevents isPhase).lowered lowered orderly.known
  distinct := orderly.distinct
  known := fun pair isIn => Nat.lt_of_lt_of_le (orderly.known pair isIn) more
  once := orderly.once
  called := orderly.called

theorem Walking.next {polled : List (Nat × Bool)}
    (walking : Walking entries polled called i nrevents) (isAt : entries[i]? = some entry) :
    Walking entries polled called (i + 1)
      (if entry.revents ≠ 0 then nrevents - 1 else nrevents) := by
  refine ⟨?_, fun k pair later isPair => walking.fresh k pair (by omega) isPair⟩
  rcases walking.walk with walk | ⟨none, negative⟩
  · refine .inl ⟨walk.reported, ?_⟩
    have short := (List.getElem?_eq_some_iff.1 isAt).1
    have first : entries.drop i = entry :: entries.drop (i + 1) := by
      rw [drop_eq_getElem_cons short, (List.getElem?_eq_some_iff.1 isAt).2]
    have enough := walk.left
    rw [first] at enough
    simp only [ready, countP_cons] at enough ⊢
    by_cases shows : entry.revents ≠ 0
    · rw [if_pos (by simpa using shows)] at enough
      rw [if_pos shows]
      omega
    · rw [if_neg (by simpa using shows)] at enough
      rw [if_neg shows]
      omega
  · refine .inr ⟨none, ?_⟩
    split <;> omega

section

variable (orderly : Orderly capacity dispatcher)
include orderly

theorem Orderly.ends :
    Orderly capacity { dispatcher with files := dispatcher.files.gc, phase := .idle } where
  sound := orderly.sound.gc
  walking := by simp
  calling := by simp
  distinct := orderly.distinct
  known := orderly.known
  once := orderly.once
  called := orderly.called

theorem Orderly.turn (isPhase : dispatcher.phase = .walking i nrevents) :
    Orderly capacity (dispatcher.turn i nrevents) := by
  have walking := orderly.walking i nrevents isPhase
  unfold Dispatcher.turn
  cases isAt : dispatcher.files.entries[i]? with
  | none => exact orderly.ends
  | some entry =>
    dsimp only
    by_cases positive : 0 < nrevents
    · rw [if_pos positive]
      by_cases calls : entry.revents ≠ 0 ∧ entry.callback.isSome = true ∧ 0 ≤ entry.fd
      · rw [if_pos calls]
        have active : entry.active = true := by simpa [Entry.active] using calls.2.2
        have wasReady : dispatcher.polled[i]? = some (entry.registration, true) := by
          rcases walking.walk with walk | ⟨_, negative⟩
          · exact (walk.reported i entry isAt active).2 calls.1
          · omega
        have next := walking.next isAt
        refine ⟨orderly.sound, by simp, ?_, orderly.distinct, orderly.known, ?_, ?_⟩
        · intro j left isCalling
          obtain ⟨rfl, rfl⟩ := Phase.calling.inj isCalling
          refine ⟨next.walk, ?_⟩
          intro k pair later isPair
          have notBefore := next.fresh k pair later isPair
          -- Two registrations of one report differ.
          have other : pair.1 ≠ entry.registration := by
            intro same
            have distinct := orderly.distinct
            have atI : (dispatcher.polled.map Prod.fst)[i]? = some entry.registration := by
              rw [List.getElem?_map, wasReady]
              rfl
            have atK : (dispatcher.polled.map Prod.fst)[k]? = some entry.registration := by
              rw [List.getElem?_map, isPair, ← same]
              rfl
            have short := (List.getElem?_eq_some_iff.1 atI).1
            have equal := (List.getElem?_inj short distinct).1 (atI.trans atK.symm)
            omega
          simp only [mem_cons, not_or]
          exact ⟨other, notBefore⟩
        · rw [nodup_cons]
          exact ⟨walking.fresh i _ (Nat.le_refl i) wasReady, orderly.once⟩
        · intro registration isIn
          rcases mem_cons.1 isIn with rfl | before
          · exact mem_of_getElem? wasReady
          · exact orderly.called registration before
      · rw [if_neg calls]
        refine ⟨orderly.sound, ?_, by simp, orderly.distinct, orderly.known, orderly.once,
          orderly.called⟩
        intro j left isWalking
        obtain ⟨rfl, rfl⟩ := Phase.walking.inj isWalking
        exact walking.next isAt
    · rw [if_neg positive]
      exact orderly.ends

theorem Orderly.poll (reported : Option (List Nat)) :
    Orderly capacity (dispatcher.poll reported) := by
  unfold Dispatcher.poll
  cases reported with
  | none =>
    refine ⟨orderly.sound, ?_, by simp, by simp, by simp, by simp, by simp⟩
    intro i nrevents isWalking
    obtain ⟨rfl, rfl⟩ := Phase.walking.inj isWalking
    exact ⟨.inr ⟨rfl, by omega⟩, by simp⟩
  | some reported =>
    dsimp only
    have sound := orderly.sound.polled reported
    generalize isReport : Files.report dispatcher.files.entries reported = entries at sound
    refine ⟨sound, ?_, by simp, ?_, ?_, by simp, by simp⟩
    · intro i nrevents isWalking
      obtain ⟨rfl, rfl⟩ := Phase.walking.inj isWalking
      refine ⟨.inl ⟨?_, by simp⟩, by simp⟩
      intro k entry isAt _
      rw [List.getElem?_map, isAt]
      simp
    · rw [map_map]
      exact sound.numbers
    · intro pair isIn
      obtain ⟨entry, isEntry, rfl⟩ := mem_map.1 isIn
      exact sound.bound entry isEntry

variable (fd : Int) (events : Nat)

theorem Orderly.register (callback : Option C) (priv : P) :
    Orderly capacity { dispatcher with
      files := (dispatcher.files.register capacity fd events callback priv).1 } := by
  have registered := register_registered capacity fd events callback priv dispatcher.files
  exact orderly.call (orderly.sound.register registered) registered.lowered.1 registered.lowered.2

theorem Orderly.unregister :
    Orderly capacity { dispatcher with files := (dispatcher.files.unregister fd).1 } := by
  obtain ⟨lowered, same⟩ := unregister_lowered dispatcher.files fd
  exact orderly.call (orderly.sound.unregister fd) lowered (Nat.le_of_eq same.symm)

theorem Orderly.setPollEvents :
    Orderly capacity { dispatcher with
      files := (dispatcher.files.setPollEvents fd events).1 } := by
  obtain ⟨lowered, same⟩ := setPollEvents_lowered dispatcher.files fd events
  exact orderly.call (orderly.sound.setPollEvents fd events) lowered (Nat.le_of_eq same.symm)

/-- Every action keeps the table sound and the walk in step with the poll. -/
theorem step_orderly (action : FileAction C P) :
    Orderly capacity (dispatcher.step capacity action) := by
  unfold step
  split
  · next isPhase => exact orderly.turn isPhase
  · exact orderly
  · next i nrevents isPhase =>
    refine ⟨orderly.sound, ?_, by simp, orderly.distinct, orderly.known, orderly.once,
      orderly.called⟩
    intro j left isWalking
    obtain ⟨rfl, rfl⟩ := Phase.walking.inj isWalking
    exact orderly.calling i nrevents isPhase
  · split
    · exact orderly
    · exact orderly.poll _
  · exact orderly.register _ _ _ _
  · exact orderly.unregister _
  · exact orderly.setPollEvents _ _
  · exact orderly

end

/-- Where the descriptor of a registration is registered already, the registration finds
it: it is not behind a free entry. -/
def FindsRegistered (dispatcher : Dispatcher C P) (action : FileAction C P) : Prop :=
  ∀ fd events callback priv, action = .register fd events callback priv →
    (∀ i left, dispatcher.phase ≠ .walking i left) → events ≠ 0 → callback.isSome →
      fd ∉ activeFds (dispatcher.files.entries.dropWhile Entry.active)

/-- After the step no descriptor is active in two entries, and the registration of an
active one has failed and has changed nothing. -/
def KeepsUnique (capacity : Nat) (dispatcher : Dispatcher C P) (action : FileAction C P) : Prop :=
  (activeFds (dispatcher.step capacity action).files.entries).Nodup ∧
    ∀ fd events callback priv, action = .register fd events callback priv →
      (∀ i left, dispatcher.phase ≠ .walking i left) → events ≠ 0 → callback.isSome →
        fd ∈ activeFds dispatcher.files.entries →
          dispatcher.files.register capacity fd events callback priv =
            (dispatcher.files, some .eexist)

/-- Only the active entries before the first free one are compared. -/
theorem register_eexist_iff {files : Files C P} {fd : Int} (valid : 0 ≤ fd) {events : Nat}
    (some_ : events ≠ 0) {callback : Option C} (given : callback.isSome = true) (priv : P) :
    files.register capacity fd events callback priv = (files, some .eexist) ↔
      fd ∈ (files.entries.takeWhile Entry.active).map Entry.fd := by
  have accepted : ¬ (fd < 0 ∨ events = 0 ∨ callback.isNone = true) := by
    cases callback with
    | none => simp at given
    | some _ =>
      simp only [Option.isNone_some, Bool.false_eq_true, or_false, not_or]
      exact ⟨by omega, some_⟩
  rw [← scan_eq_none_iff valid]
  unfold register
  rw [if_neg accepted]
  cases scan fd files.entries with
  | none => simp
  | some index =>
    dsimp only
    split
    · simp
    · split <;> simp

theorem activeFds_nonneg {fd : Int} (isIn : fd ∈ activeFds entries) : 0 ≤ fd := by
  obtain ⟨entry, isEntry, rfl⟩ := mem_map.1 isIn
  simpa [Entry.active] using (mem_filter.1 isEntry).2

theorem step_unique (sound : dispatcher.files.Sound capacity)
    (unique : (activeFds dispatcher.files.entries).Nodup) {action : FileAction C P}
    (finds : FindsRegistered dispatcher action) :
    (activeFds (dispatcher.step capacity action).files.entries).Nodup := by
  have collected : (activeFds dispatcher.files.gc.entries).Nodup := by
    rw [sound.gc_entries.1]
    unfold activeFds
    rw [filter_filter]
    simpa [activeFds] using unique
  unfold step
  split
  · unfold Dispatcher.turn
    split
    · split
      · dsimp only
        split <;> exact unique
      · exact collected
    · exact collected
  · exact unique
  · exact unique
  · split
    · exact unique
    · unfold Dispatcher.poll
      split
      · exact unique
      · next reported =>
        have same := report_map (fun entry => (entry.active, entry.fd)) (fun _ _ => rfl)
          dispatcher.files.entries reported
        have fds (entries : List (Entry C P)) : activeFds entries =
            ((entries.map (fun entry => (entry.active, entry.fd))).filter Prod.fst).map
              Prod.snd := by
          simp [activeFds, filter_map, Function.comp_def]
        rw [fds, same, ← fds]
        exact unique
  · next _ _ fd events callback priv notWalking =>
    by_cases accepted : events ≠ 0 ∧ callback.isSome = true
    · apply (register_registered capacity fd events callback priv dispatcher.files).unique unique
      exact finds fd events callback priv rfl notWalking accepted.1 accepted.2
    · have refused : fd < 0 ∨ events = 0 ∨ callback.isNone = true := by
        right
        by_contra both
        apply accepted
        simp only [not_or] at both
        refine ⟨both.1, ?_⟩
        cases callback with
        | none => simp at both
        | some _ => rfl
      unfold Files.register
      rw [if_pos refused]
      exact unique
  · exact unique.sublist (unregister_activeFds _ _)
  · rw [setPollEvents_activeFds]
    exact unique
  · exact unique

theorem keepsUnique_iff (orderly : Orderly capacity dispatcher)
    (unique : (activeFds dispatcher.files.entries).Nodup) (action : FileAction C P) :
    KeepsUnique capacity dispatcher action ↔ FindsRegistered dispatcher action := by
  constructor
  · rintro ⟨-, refuses⟩ fd events callback priv isAction notWalking some_ given hidden
    have active : fd ∈ activeFds dispatcher.files.entries := by
      rw [activeFds_split]
      exact mem_append_right _ hidden
    have found := (register_eexist_iff (activeFds_nonneg active) some_ given priv).1
      (refuses fd events callback priv isAction notWalking some_ given active)
    rw [activeFds_split] at unique
    exact disjoint_of_nodup_append unique found hidden
  · intro finds
    refine ⟨step_unique orderly.sound unique finds, ?_⟩
    intro fd events callback priv isAction notWalking some_ given active
    rw [register_eexist_iff (activeFds_nonneg active) some_ given priv]
    have notBehind := finds fd events callback priv isAction notWalking some_ given
    rw [activeFds_split] at active
    exact (mem_append.1 active).resolve_right notBehind

theorem initial_orderly (capacity : Nat) : Orderly capacity (initial C P) := by
  refine ⟨⟨rfl, ?_, ?_, ?_, ?_⟩, ?_, ?_, ?_, ?_, ?_, ?_⟩ <;> simp [initial]

/-- In every run the count of deleted entries is right, the collection keeps exactly the
active entries in their order, and the loop calls each ready entry once that is still the
same registration, and no other. No descriptor is active in two entries, and registering an
active one fails, exactly in the runs in which no registered descriptor is behind a free
entry when it is registered again. -/
theorem descriptors_are_unique_iff (capacity : Nat) (actions : List (FileAction C P)) :
    let dispatcher := run capacity (initial C P) actions
    dispatcher.files.nfilesDeleted =
        dispatcher.files.entries.countP (fun entry => decide (entry.fd < 0)) ∧
      (dispatcher.files.gc.entries = dispatcher.files.entries.filter Entry.active ∧
        dispatcher.files.gc.nfilesDeleted = 0) ∧
      (∀ i nrevents, dispatcher.phase = .walking i nrevents → TurnRight dispatcher i nrevents) ∧
      dispatcher.called.Nodup ∧
      (∀ registration ∈ dispatcher.called, (registration, true) ∈ dispatcher.polled) ∧
      (Guarded (step capacity) (KeepsUnique capacity) (initial C P) actions ↔
        Guarded (step capacity) FindsRegistered (initial C P) actions) := by
  have orderly : Orderly capacity (run capacity (initial C P) actions) :=
    foldl_invariant_of_keeps (Orderly capacity)
      (fun _ action orderly => step_orderly orderly action)
      actions (initial_orderly capacity)
  refine ⟨?_, orderly.sound.gc_entries, ?_, orderly.once, orderly.called, ?_⟩
  · rw [orderly.sound.deleted]
    apply countP_congr
    intro entry _
    simp [Entry.active]
  · intro i nrevents isPhase
    exact turn_right orderly.sound (orderly.walking i nrevents isPhase)
  · apply guarded_iff (fun dispatcher => Orderly capacity dispatcher ∧
      (activeFds dispatcher.files.entries).Nodup)
    · intro dispatcher action holds
      exact keepsUnique_iff holds.1 holds.2 action
    · intro dispatcher action holds keeps
      exact ⟨step_orderly holds.1 action, keeps.1⟩
    · exact ⟨initial_orderly capacity, by simp [initial, activeFds]⟩

/-- Descriptors 3 and 4 are registered, 3 is unregistered, and 4 is registered again. -/
theorem registered_twice :
    let actions : List (FileAction Unit Unit) :=
      [.register 3 1 (some ()) (), .register 4 1 (some ()) (), .unregister 3,
        .register 4 1 (some ()) ()]
    activeFds (run 16 (initial Unit Unit) actions).files.entries = [4, 4] ∧
      ¬ Guarded (step 16) (KeepsUnique 16) (initial Unit Unit) actions := by
  refine ⟨by decide, ?_⟩
  rintro ⟨_, _, _, ⟨unique, _⟩, _⟩
  revert unique
  decide

end Dispatcher

end Thingsee.Core
