import TreeShell.Fault
import TreeShell.Store
import TreeShell.Tree.Walk

/-!
# The file system

A file system holds a snapshot and records it: each operation that has a next snapshot writes it
into the store at once, under one key, as one document (`commit`). So what is in the store is what
a file system that is opened over it begins with.

A file system can be closed, and its store with it; and a store that is open may refuse its records.
Then an operation still changes the snapshot, and stops when it comes to recording it.
-/

set_option autoImplicit false

namespace TreeShell

/-- A snapshot, the store it is recorded in (none when closed), and the key of its record. -/
structure FileSystem where
  snapshot : Snapshot
  store? : Option Store
  key : String
deriving Repr

namespace FileSystem

/-- The snapshot under a key of a store: a fresh one when there is none, or none that can be
read. -/
def load (store : Store) (key : String) : Except Fault Snapshot :=
  match store.read key with
  | .error (.integerTooLong digits) => .error (.integer (.tooLong digits))
  | .error .malformed => .ok .fresh
  | .ok .null => .ok .fresh
  | .ok document =>
    match Snapshot.ofJson document with
    | .ok snapshot => .ok snapshot
    | .error e => if e.isForgiven then .ok .fresh else .error (.damagedRecord e)

/-- A file system over a store. -/
def mount (store : Store) (key : String) : Except Fault FileSystem :=
  (load store key).map fun snapshot => ⟨snapshot, some store, key⟩

/-- The file system after its snapshot was written into the store. -/
def save (files : FileSystem) : Except Fault Unit × FileSystem :=
  match files.store? with
  | none => (.error .storeClosed, files)
  | some store =>
    match store.refusal? with
    | some text => (.error (.database text), files)
    | none =>
      (.ok (), { files with
        store? := some (store.put files.key (.document files.snapshot.toJson)) })

/-- Carries out what an operation came to. -/
def commit {α : Type} (files : FileSystem) : Attempt α → Except Fault α × FileSystem
  | .error reason => (.error (.files reason), files)
  | .ok ⟨answer, none⟩ => (.ok answer, files)
  | .ok ⟨answer, some next⟩ =>
    match save { files with snapshot := next } with
    | (.ok (), files) => (.ok answer, files)
    | (.error fault, files) => (.error fault, files)

/-- Closes the file system and its store. -/
def close (files : FileSystem) : FileSystem :=
  { files with store? := none }

/-- Opens a closed file system again, with a store that is empty. -/
def reopen (files : FileSystem) : Except Fault Unit × FileSystem :=
  match files.store? with
  | some _ => (.ok (), files)
  | none =>
    match load .empty files.key with
    | .ok snapshot => (.ok (), { files with snapshot, store? := some .empty })
    | .error fault => (.error fault, { files with store? := some .empty })

/-- The text of the file system's record. -/
def recordText? (files : FileSystem) : Option String :=
  (files.store?.bind (·.get? files.key)).map Record.raw

/-- The file system with another text for its record. -/
def withRecordText (files : FileSystem) (raw : String) : FileSystem :=
  { files with store? := files.store?.map (·.put files.key (.text raw)) }

end FileSystem

end TreeShell
