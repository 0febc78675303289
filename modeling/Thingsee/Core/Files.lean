import Mathlib.Data.List.Nodup
import Thingsee.Support.Runs

/-!
Owns the file table of `apps/thingsee/lib/ts_core.c`: the registration of file
descriptors, the loop of `ts_core_process` over the events that `poll` reports, and
the collection of the entries that were unregistered.

The arrays `files` and `pollfds` are one list, of length `nfiles`. The callbacks of
entries do whatever they like with the table: a run is a sequence of calls, and a call
is possible while a callback runs and between two polls.

Entries carry the number of their registration, and the loop keeps a record of what
`poll` reported and of the registrations it called. They are not in the source.
-/

namespace Thingsee.Core

open Support

variable {C P : Type}

/-- The values of `errno`. -/
inductive Errno where
  | einval
  | eexist
  | enomem
  | ebadf

/-- `struct file_s` with its `struct pollfd`. -/
structure Entry (C P : Type) where
  callback : Option C
  priv : P
  fd : Int
  events : Nat
  revents : Nat
  registration : Nat

/-- Whether the entry has not been unregistered. -/
def Entry.active (entry : Entry C P) : Bool := decide (0 ≤ entry.fd)

/-- The part of `struct ts_core_s` for files. -/
structure Files (C P : Type) where
  entries : List (Entry C P)
  nfilesDeleted : Nat
  registrations : Nat

namespace Files

/-- The loop of `__ts_core_fd_register`: where it stops, if it does not find the
descriptor before. -/
def scan (fd : Int) : List (Entry C P) → Option Nat
  | [] => some 0
  | entry :: rest =>
    if entry.fd = fd then none
    else if entry.fd < 0 then some 0
    else (scan fd rest).map (· + 1)

/-- `__ts_core_fd_register`. `capacity` is `TS_CORE_NFILES`. -/
def register (capacity : Nat) (fd : Int) (events : Nat) (callback : Option C) (priv : P)
    (files : Files C P) : Files C P × Option Errno :=
  if fd < 0 ∨ events = 0 ∨ callback.isNone then (files, some .einval)
  else
    match scan fd files.entries with
    | none => (files, some .eexist)
    | some index =>
      if capacity ≤ index then (files, some .enomem)
      else
        let entry : Entry C P := ⟨callback, priv, fd, events, 0, files.registrations⟩
        if index = files.entries.length then
          (⟨files.entries ++ [entry], files.nfilesDeleted, files.registrations + 1⟩, none)
        else
          (⟨files.entries.set index entry, files.nfilesDeleted - 1, files.registrations + 1⟩,
            none)

/-- Changes the first entry with the descriptor, if there is one. -/
def changeFirst (fd : Int) (change : Entry C P → Entry C P) :
    List (Entry C P) → Option (List (Entry C P))
  | [] => none
  | entry :: rest =>
    if entry.fd = fd then some (change entry :: rest)
    else (changeFirst fd change rest).map (entry :: ·)

def setPollEvents (fd : Int) (events : Nat) (files : Files C P) : Files C P × Option Errno :=
  if fd < 0 then (files, some .einval)
  else
    match changeFirst fd (fun entry => { entry with events }) files.entries with
    | none => (files, some .ebadf)
    | some entries => ({ files with entries }, none)

def unregister (fd : Int) (files : Files C P) : Files C P × Option Errno :=
  if fd < 0 then (files, some .einval)
  else
    match changeFirst fd (fun entry => { entry with fd := -1, revents := 0 }) files.entries with
    | none => (files, some .ebadf)
    | some entries => ({ files with entries, nfilesDeleted := files.nfilesDeleted + 1 }, none)

/-- The loop of `ts_core_gc_files`, with the entries that are left to look at and the
number of deleted ones that are left to remove. -/
def gcLoop : List (Entry C P) → Nat → List (Entry C P) × Nat
  | [], deleted => ([], deleted)
  | entries, 0 => (entries, 0)
  | entry :: rest, deleted + 1 =>
    if 0 ≤ entry.fd then
      let collected := gcLoop rest (deleted + 1)
      (entry :: collected.1, collected.2)
    else gcLoop rest deleted

/-- `ts_core_gc_files`. -/
def gc (files : Files C P) : Files C P :=
  let collected := gcLoop files.entries files.nfilesDeleted
  { files with entries := collected.1, nfilesDeleted := collected.2 }

/-- What `poll` reports for the entries: descriptors below 0 are ignored. -/
def report : List (Entry C P) → List Nat → List (Entry C P)
  | [], _ => []
  | entry :: rest, reported =>
    { entry with revents := if 0 ≤ entry.fd then reported.headD 0 else 0 } ::
      report rest reported.tail

/-- The result of `poll`. -/
def ready (entries : List (Entry C P)) : Nat :=
  entries.countP (fun entry => decide (entry.revents ≠ 0))

end Files

/-- Where `ts_core_process` is: outside of the loop, at the test of the loop, or in the
callback of an entry. -/
inductive Phase where
  | idle
  | walking (i : Nat) (nrevents : Int)
  | calling (i : Nat) (nrevents : Int)

/-- The file table and the loop. `polled` has the registrations as `poll` found them,
and whether they were ready; `called` has the registrations that were called since, the
last one first. -/
structure Dispatcher (C P : Type) where
  files : Files C P
  phase : Phase
  polled : List (Nat × Bool)
  called : List Nat

/-- What happens next. `turn` is a test of the loop with the rest of the turn, up to the
call of the callback, and `proceed` is the return of the callback. -/
inductive FileAction (C P : Type) where
  | register (fd : Int) (events : Nat) (callback : Option C) (priv : P)
  | unregister (fd : Int)
  | setPollEvents (fd : Int) (events : Nat)
  | poll (reported : Option (List Nat))
  | turn
  | proceed

namespace Dispatcher

/-- The turn of the loop in `ts_core_process`, and what follows the loop. -/
def turn (dispatcher : Dispatcher C P) (i : Nat) (nrevents : Int) : Dispatcher C P :=
  match dispatcher.files.entries[i]? with
  | some entry =>
    if 0 < nrevents then
      let left := if entry.revents ≠ 0 then nrevents - 1 else nrevents
      if entry.revents ≠ 0 ∧ entry.callback.isSome ∧ 0 ≤ entry.fd then
        { dispatcher with
          phase := .calling i left
          called := entry.registration :: dispatcher.called }
      else { dispatcher with phase := .walking (i + 1) left }
    else { dispatcher with files := dispatcher.files.gc, phase := .idle }
  | none => { dispatcher with files := dispatcher.files.gc, phase := .idle }

/-- The call of `poll`. When it fails, its result is below 0. -/
def poll (dispatcher : Dispatcher C P) (reported : Option (List Nat)) : Dispatcher C P :=
  match reported with
  | none => { dispatcher with phase := .walking 0 (-1), polled := [], called := [] }
  | some reported =>
    let entries := Files.report dispatcher.files.entries reported
    { dispatcher with
      files := { dispatcher.files with entries }
      phase := .walking 0 (Files.ready entries)
      polled := entries.map (fun entry => (entry.registration, decide (entry.revents ≠ 0)))
      called := [] }

/-- One step of a run. A step that is not possible changes nothing. -/
def step (capacity : Nat) (dispatcher : Dispatcher C P) (action : FileAction C P) :
    Dispatcher C P :=
  match dispatcher.phase, action with
  | .walking i nrevents, .turn => dispatcher.turn i nrevents
  | .walking _ _, _ => dispatcher
  | .calling i nrevents, .proceed => { dispatcher with phase := .walking (i + 1) nrevents }
  | .idle, .poll reported =>
    if dispatcher.files.entries = [] then dispatcher else dispatcher.poll reported
  | _, .register fd events callback priv =>
    { dispatcher with
      files := (dispatcher.files.register capacity fd events callback priv).1 }
  | _, .unregister fd => { dispatcher with files := (dispatcher.files.unregister fd).1 }
  | _, .setPollEvents fd events =>
    { dispatcher with files := (dispatcher.files.setPollEvents fd events).1 }
  | _, _ => dispatcher

def run (capacity : Nat) (dispatcher : Dispatcher C P) (actions : List (FileAction C P)) :
    Dispatcher C P :=
  actions.foldl (step capacity) dispatcher

/-- The table after `ts_core_initialize`. -/
def initial (C P : Type) : Dispatcher C P := ⟨⟨[], 0, 0⟩, .idle, [], []⟩

end Dispatcher

end Thingsee.Core
