import TreeShell.Proofs.Operation
import TreeShell.Proofs.Record.RoundTrip

/-!
# What is stored is what is held

A file system that was opened over a store can be given up at any moment: whoever opens another one
over the same store and key finds the tree and the current place exactly as they were. The relation
is `Durable`, between what a file system holds in memory and what its own store gives back.

It is not enough that every recorded snapshot can be read again (`Snapshot.ofJson_toJson`). An
operation also has to record every change it makes, and a refused one must not have made any. Both
are the shape of `commit`: the snapshot moves only where it is written in the same breath. The start
is a case of its own, since a record that was read may be of an older form, or be no snapshot at
all, and is not written anew until something changes.

All this is so as long as the store takes what is recorded. A store that does not is left as it was
(`store?_commit_of_error`), while in memory the snapshot has moved on.
-/

set_option autoImplicit false

namespace TreeShell

namespace Store

theorem lookup_insert_self (key : String) (record : Record) :
    ∀ records : List (String × Record), (insert key record records).lookup key = some record
  | [] => by simp [insert]
  | (other, held) :: rest => by
    rw [insert]
    split
    · simp
    · rename_i hne
      have hother : (key == other) = false := by simpa using hne
      split
      · simp
      · rw [List.lookup_cons, hother]
        exact lookup_insert_self key record rest

@[simp]
theorem get?_put_self (store : Store) (key : String) (record : Record) :
    (store.put key record).get? key = some record :=
  lookup_insert_self key record store.records

/-- A document is read back under the key it was put under. -/
@[simp]
theorem read_put_document (store : Store) (key : String) (document : Json) :
    (store.put key (.document document)).read key = .ok document := by
  simp [read, Record.read]

end Store

namespace FileSystem

/-- A file system whose store gives back what it holds. -/
def Durable (files : FileSystem) : Prop :=
  ∃ store, files.store? = some store ∧ mount store files.key = .ok files

/-- The record of a snapshot is loaded as that snapshot. -/
theorem load_of_get? {store : Store} {key : String} {s : Snapshot}
    (h : store.get? key = some (.document s.toJson)) : load store key = .ok s := by
  have hdocument : ∃ members, s.toJson = .object members := ⟨_, rfl⟩
  obtain ⟨members, hmembers⟩ := hdocument
  simp only [load, Store.read, h, Record.read, hmembers]
  rw [← hmembers, Snapshot.ofJson_toJson]

theorem load_put_toJson (store : Store) (key : String) (s : Snapshot) :
    load (store.put key (.document s.toJson)) key = .ok s :=
  load_of_get? (Store.get?_put_self _ _ _)

/-- A file system as it was opened. -/
theorem store_of_mount {store : Store} {key : String} {files : FileSystem}
    (h : mount store key = .ok files) : files.store? = some store ∧ files.key = key := by
  rw [mount] at h
  cases hload : load store key with
  | error fault =>
    rw [hload] at h
    cases h
  | ok snapshot =>
    rw [hload] at h
    cases h
    exact ⟨rfl, rfl⟩

/-- Writing the snapshot makes any open file system durable, whatever its store held. -/
theorem durable_save {files : FileSystem} (h : files.Opened) : files.save.2.Durable := by
  rcases files.save_cases with ⟨store, -, -, hsave⟩ | ⟨fault, hfault, -⟩
  · rw [hsave]
    refine ⟨_, rfl, ?_⟩
    simp only [mount, load_put_toJson]
    rfl
  · exact absurd hfault (opened_iff.mp h fault)

/-- **An attempt leaves a durable file system durable**, refused or not, if its store takes what is
recorded. -/
theorem Durable.commit {α : Type} {files : FileSystem} (h : files.Durable) (hopen : files.Opened)
    (attempt : Attempt α) : (files.commit attempt).2.Durable := by
  rcases files.commit_cases attempt with ⟨hcommit, -⟩ | ⟨next, hcommit, -⟩
  · rw [hcommit]
    exact h
  · -- In memory the snapshot has moved, and saving puts the same one into the store.
    have hnext : Opened { files with snapshot := next } := hopen
    rw [hcommit]
    exact durable_save hnext

/-- A commit that fails, for whatever reason, leaves the store as it was. -/
theorem store?_commit_of_error {α : Type} {files : FileSystem} {attempt : Attempt α} {fault : Fault}
    (h : (files.commit attempt).1 = .error fault) :
    (files.commit attempt).2.store? = files.store? := by
  cases attempt with
  | error reason => rfl
  | ok step =>
    obtain ⟨answer, next?⟩ := step
    cases next? with
    | none => rfl
    | some next =>
      rw [commit_some] at h ⊢
      rcases save_cases { files with snapshot := next } with ⟨_, -, -, hsave⟩ | ⟨_, -, hsave⟩
      · rw [hsave] at h
        cases h
      · rw [hsave]

theorem key_commit {α : Type} (files : FileSystem) (attempt : Attempt α) :
    (files.commit attempt).2.key = files.key := by
  rcases files.commit_cases attempt with ⟨hcommit, -⟩ | ⟨next, hcommit, -⟩
  · rw [hcommit]
  · rw [hcommit, key_save]

theorem Durable.run {files : FileSystem} (h : files.Durable) (hopen : files.Opened)
    (operations : List Operation) : (files.run operations).Durable :=
  (run_induction (P := fun later => later.Durable ∧ later.Opened)
    (fun _ _ h => ⟨h.1.commit h.2 _, h.2.commit _⟩) ⟨h, hopen⟩ operations).1

theorem key_run (files : FileSystem) (operations : List Operation) :
    (files.run operations).key = files.key :=
  run_induction (P := fun later => later.key = files.key)
    (fun _ _ h => (key_commit _ _).trans h) rfl operations

/-- **Nothing is lost between two openings.** After any operations on a file system that was opened
over a store that takes its records, each of which may have been refused, opening another one over
its store and under its key gives the same file system: the tree that the operations made in memory,
in its stored order and with all texts, and the same current place. -/
theorem mount_run {store : Store} {key : String} {files : FileSystem} (htakes : store.refusal? = none)
    (h : mount store key = .ok files) (operations : List Operation) :
    ∃ current, (files.run operations).store? = some current ∧
      mount current key = .ok (files.run operations) ∧
      (files.run operations).snapshot = files.snapshot.run operations := by
  obtain ⟨hstore, hkey⟩ := store_of_mount h
  have hdurable : files.Durable := ⟨store, hstore, hkey.symm ▸ h⟩
  have hopen : files.Opened := ⟨store, hstore, htakes⟩
  obtain ⟨current, hcurrent, hmount⟩ := hdurable.run hopen operations
  rw [key_run, hkey] at hmount
  exact ⟨current, hcurrent, hmount, files.snapshot_run operations⟩

/-- A store with a record of an older form: the root is unnamed, nothing is said about files, and
the current place has its older name. -/
def olderStore : Store :=
  Store.empty.put "tree" (.document (.object [
    ("root", .object [("type", .string "folder"), ("folders", .array [
      .object [("type", .string "folder"), ("name", .string "home")]])]),
    ("cwdParts", .array [.string "home"])]))

/-- What is read from it. -/
def olderFiles : FileSystem :=
  ⟨⟨⟨"", [⟨"home", [], []⟩], []⟩, ["home"]⟩, some olderStore, "tree"⟩

/-- What the older record leaves out is completed. -/
theorem mount_olderStore : mount olderStore "tree" = .ok olderFiles := by
  simp [mount, load, olderStore, olderFiles, Snapshot.ofJson, Folder.ofJson, Fields.get?,
    List.lookup_cons, Json.isString, folderTag, collect, Except.map, Json.get?,
    Snapshot.cwdOfJson, Json.strings, Json.string?]

/-- Operations some of which are refused. -/
def mixedOperations : List Operation :=
  [.write "notes" "x", .mkdir "notes", .move "/home" "/home/below", .move "/home" "/moved",
    .rmdir "/moved", .save, .unlink "/moved/notes"]

theorem mount_run_olderStore :
    olderStore.refusal? = none ∧ mount olderStore "tree" = .ok olderFiles ∧
      ∃ current, (olderFiles.run mixedOperations).store? = some current ∧
        mount current "tree" = .ok (olderFiles.run mixedOperations) ∧
        (olderFiles.run mixedOperations).snapshot =
          olderFiles.snapshot.run mixedOperations :=
  have htakes : olderStore.refusal? = none := rfl
  ⟨htakes, mount_olderStore, mount_run htakes mount_olderStore mixedOperations⟩

end FileSystem

end TreeShell
