import TreeShell.FileSystem
import TreeShell.Tree.Operation

/-!
# Operations and runs

The ways to change a file system as one type, so that statements can be made about any number of
them in any order. `Snapshot.attempt` is what each comes to, `FileSystem.perform` carries it out,
and `run` carries out one after another, whether they succeed or are refused.

A run is followed at two levels. `Snapshot.run` knows only trees; `FileSystem.run` also records.
`FileSystem.snapshot_run` says that the second holds in memory what the first computes, recorded or
not, and so reduces every statement about the tree of a file system to one about snapshots. What
`save` and `commit` do is taken apart once, in `save_cases` and `commit_cases`.

A store that is closed or refuses its records lets a commit fail, and nothing else about a store
does (`StoreFault`). No commit brings that about or makes an end of it (`storeFault_commit`). A file
system is `Opened` if its store does not fail it.
-/

set_option autoImplicit false

namespace TreeShell

namespace Snapshot

/-- The snapshot an attempt leads to: the one to be recorded, or the old one if there is none. -/
def settle {α : Type} (s : Snapshot) : Attempt α → Snapshot
  | .ok ⟨_, some next⟩ => next
  | _ => s

/-- The snapshot after an operation. -/
def after (s : Snapshot) (operation : Operation) : Snapshot :=
  s.settle (s.attempt operation)

/-- The snapshot after some operations. -/
def run (s : Snapshot) (operations : List Operation) : Snapshot :=
  operations.foldl after s

@[simp]
theorem run_nil (s : Snapshot) : s.run [] = s := rfl

@[simp]
theorem run_cons (s : Snapshot) (operation : Operation) (rest : List Operation) :
    s.run (operation :: rest) = (s.after operation).run rest := rfl

/-- What every operation keeps up, a run keeps up. -/
theorem run_induction {P : Snapshot → Prop} (hstep : ∀ s operation, P s → P (s.after operation))
    {s : Snapshot} (hs : P s) (operations : List Operation) : P (s.run operations) := by
  induction operations generalizing s with
  | nil => exact hs
  | cons operation rest ih => exact ih (hstep s operation hs)

end Snapshot

namespace FileSystem

/-- The store of a file system is open and takes records. -/
def Opened (files : FileSystem) : Prop :=
  ∃ store, files.store? = some store ∧ store.refusal? = none

/-- How the store of a file system can fail it: it is closed, or refuses every record. -/
inductive StoreFault (files : FileSystem) : Fault → Prop
  | closed (hclosed : files.store? = none) : StoreFault files .storeClosed
  | refused {store : Store} {text : String} (hstore : files.store? = some store)
      (hrefused : store.refusal? = some text) : StoreFault files (.database text)

theorem opened_iff {files : FileSystem} :
    files.Opened ↔ ∀ fault, ¬ files.StoreFault fault := by
  constructor
  · rintro ⟨store, hstore, htakes⟩ fault hfault
    cases hfault with
    | closed hclosed => exact nomatch hstore.symm.trans hclosed
    | refused hother hrefused =>
      cases hstore.symm.trans hother
      exact nomatch htakes.symm.trans hrefused
  · intro hnone
    cases hstore : files.store? with
    | none => exact absurd (.closed hstore) (hnone _)
    | some store =>
      cases hrefusal : store.refusal? with
      | none => exact ⟨store, hstore, hrefusal⟩
      | some text => exact absurd (.refused hstore hrefusal) (hnone _)

theorem exists_storeFault {files : FileSystem} (h : ¬ files.Opened) :
    ∃ fault, files.StoreFault fault :=
  Classical.byContradiction fun hnone => h (opened_iff.mpr (not_exists.mp hnone))

/-- How the store fails a file system rests on nothing but the store. -/
theorem StoreFault.congr {files other : FileSystem} {fault : Fault} (h : files.StoreFault fault)
    (hstore : other.store?.map Store.refusal? = files.store?.map Store.refusal?) :
    other.StoreFault fault := by
  cases h with
  | closed hclosed => exact .closed (by simpa [hclosed] using hstore)
  | refused hopen hrefused =>
    rw [hopen, Option.map_some, Option.map_eq_some_iff] at hstore
    obtain ⟨held, hheld, hsame⟩ := hstore
    exact .refused hheld (hsame.trans hrefused)

/-- Carries out an operation. -/
def perform (files : FileSystem) (operation : Operation) : Except Fault Unit × FileSystem :=
  files.commit (files.snapshot.attempt operation)

/-- The file system after some operations, each of which may have been refused. -/
def run (files : FileSystem) (operations : List Operation) : FileSystem :=
  operations.foldl (fun files operation => (files.perform operation).2) files

@[simp]
theorem run_nil (files : FileSystem) : files.run [] = files := rfl

@[simp]
theorem run_cons (files : FileSystem) (operation : Operation) (rest : List Operation) :
    files.run (operation :: rest) = (files.perform operation).2.run rest := rfl

/-- What every operation keeps up, a run keeps up. -/
theorem run_induction {P : FileSystem → Prop}
    (hstep : ∀ files operation, P files → P (files.perform operation).2) {files : FileSystem}
    (hfiles : P files) (operations : List Operation) : P (files.run operations) := by
  induction operations generalizing files with
  | nil => exact hfiles
  | cons operation rest ih => exact ih (hstep files operation hfiles)

/-- **All that saving can do**: write the record, or leave everything as it was and fail. -/
theorem save_cases (files : FileSystem) :
    (∃ store, files.store? = some store ∧ store.refusal? = none ∧
      files.save = (.ok (), { files with
        store? := some (store.put files.key (.document files.snapshot.toJson)) })) ∨
    ∃ fault, files.StoreFault fault ∧ files.save = (.error fault, files) := by
  unfold save
  cases hstore : files.store? with
  | none => exact .inr ⟨_, .closed hstore, rfl⟩
  | some store =>
    cases hrefusal : store.refusal? with
    | none => exact .inl ⟨store, rfl, hrefusal, by simp [hrefusal]⟩
    | some text => exact .inr ⟨_, .refused hstore hrefusal, by simp [hrefusal]⟩

/-- Where the store fails, saving fails as it does. -/
theorem StoreFault.save {files : FileSystem} {fault : Fault} (h : files.StoreFault fault) :
    files.save = (.error fault, files) := by
  cases h with
  | closed hclosed => simp only [FileSystem.save, hclosed]
  | refused hstore hrefused => simp only [FileSystem.save, hstore, hrefused]

theorem snapshot_save (files : FileSystem) : files.save.2.snapshot = files.snapshot := by
  rcases files.save_cases with ⟨_, -, -, hsave⟩ | ⟨_, -, hsave⟩ <;> rw [hsave]

theorem key_save (files : FileSystem) : files.save.2.key = files.key := by
  rcases files.save_cases with ⟨_, -, -, hsave⟩ | ⟨_, -, hsave⟩ <;> rw [hsave]

theorem refusal?_save (files : FileSystem) :
    files.save.2.store?.map Store.refusal? = files.store?.map Store.refusal? := by
  rcases files.save_cases with ⟨store, hstore, -, hsave⟩ | ⟨_, -, hsave⟩
  · rw [hsave, hstore]
    rfl
  · rw [hsave]

/-- A commit of a next snapshot is the saving of it, with an answer. -/
theorem commit_some {α : Type} (files : FileSystem) (answer : α) (next : Snapshot) :
    files.commit (.ok ⟨answer, some next⟩) =
      ((save { files with snapshot := next }).1.map fun _ => answer,
        (save { files with snapshot := next }).2) := by
  rw [commit]
  generalize save { files with snapshot := next } = saved
  obtain ⟨result, after⟩ := saved
  cases result <;> rfl

/-- The answer of an attempt has no part in how it is committed. -/
theorem commit_map {α β : Type} (files : FileSystem) (f : α → β) (attempt : Attempt α) :
    files.commit (attempt.map fun step => ⟨f step.answer, step.next?⟩) =
      ((files.commit attempt).1.map f, (files.commit attempt).2) := by
  cases attempt with
  | error reason => rfl
  | ok step =>
    obtain ⟨answer, next?⟩ := step
    cases next? with
    | none => rfl
    | some next =>
      rw [Except.map, commit_some, commit_some]
      cases (save { files with snapshot := next }).1 <;> rfl

/-- **All that a commit can do**: leave everything as it was, or take a new snapshot and save. -/
theorem commit_cases {α : Type} (files : FileSystem) (attempt : Attempt α) :
    ((files.commit attempt).2 = files ∧ files.snapshot.settle attempt = files.snapshot) ∨
      ∃ next, (files.commit attempt).2 = (save { files with snapshot := next }).2 ∧
        files.snapshot.settle attempt = next := by
  cases attempt with
  | error reason => exact Or.inl ⟨rfl, rfl⟩
  | ok step =>
    obtain ⟨answer, next?⟩ := step
    cases next? with
    | none => exact Or.inl ⟨rfl, rfl⟩
    | some next => exact Or.inr ⟨next, by rw [commit_some], rfl⟩

/-- A commit fails by the refusal of the operation, or by the store. -/
theorem commit_error_cases {α : Type} {files : FileSystem} {attempt : Attempt α} {fault : Fault}
    (h : (files.commit attempt).1 = .error fault) :
    (∃ reason, attempt = .error reason ∧ fault = .files reason) ∨ files.StoreFault fault := by
  cases attempt with
  | error reason =>
    cases h
    exact .inl ⟨reason, rfl, rfl⟩
  | ok step =>
    obtain ⟨answer, next?⟩ := step
    cases next? with
    | none => cases h
    | some next =>
      rw [commit_some] at h
      rcases save_cases { files with snapshot := next } with ⟨_, -, -, hsave⟩ |
        ⟨other, hother, hsave⟩
      · rw [hsave] at h
        cases h
      · rw [hsave] at h
        cases h
        exact .inr (hother.congr rfl)

/-- A commit changes nothing about how the store fails. -/
theorem storeFault_commit {α : Type} (files : FileSystem) (attempt : Attempt α) (fault : Fault) :
    (files.commit attempt).2.StoreFault fault ↔ files.StoreFault fault := by
  rcases files.commit_cases attempt with ⟨hcommit, -⟩ | ⟨next, hcommit, -⟩
  · rw [hcommit]
  · have hstore := refusal?_save { files with snapshot := next }
    rw [hcommit]
    exact ⟨fun h => h.congr hstore.symm, fun h => h.congr hstore⟩

/-- Where the store fails, no next snapshot is committed. -/
theorem StoreFault.commit {α : Type} {files : FileSystem} {fault : Fault}
    (h : files.StoreFault fault) (answer : α) (next : Snapshot) :
    files.commit (.ok ⟨answer, some next⟩) = (.error fault, { files with snapshot := next }) := by
  have hnext : StoreFault { files with snapshot := next } fault := h.congr rfl
  rw [commit_some, hnext.save]
  rfl

theorem Opened.commit {α : Type} {files : FileSystem} (h : files.Opened) (attempt : Attempt α) :
    (files.commit attempt).2.Opened := by
  rw [opened_iff] at h ⊢
  exact fun fault hfault => h fault ((files.storeFault_commit attempt fault).mp hfault)

/-- What is not refused is carried out and recorded. -/
theorem Opened.commit_ok {α : Type} {files : FileSystem} (h : files.Opened) (step : Step α) :
    (files.commit (.ok step)).1 = .ok step.answer := by
  obtain ⟨answer, next?⟩ := step
  cases next? with
  | none => rfl
  | some next =>
    rcases save_cases { files with snapshot := next } with ⟨_, -, -, hsave⟩ | ⟨fault, hfault, -⟩
    · rw [commit_some, hsave]
      rfl
    · exact absurd (hfault.congr rfl : files.StoreFault fault) (opened_iff.mp h fault)

/-- In memory an attempt takes effect whether or not it can be recorded. -/
theorem snapshot_commit {α : Type} (files : FileSystem) (attempt : Attempt α) :
    (files.commit attempt).2.snapshot = files.snapshot.settle attempt := by
  rcases files.commit_cases attempt with ⟨hcommit, hsettle⟩ | ⟨next, hcommit, hsettle⟩
  · rw [hcommit, hsettle]
  · rw [hcommit, hsettle, snapshot_save]

@[simp]
theorem snapshot_perform (files : FileSystem) (operation : Operation) :
    (files.perform operation).2.snapshot = files.snapshot.after operation :=
  files.snapshot_commit _

theorem snapshot_run (files : FileSystem) (operations : List Operation) :
    (files.run operations).snapshot = files.snapshot.run operations := by
  induction operations generalizing files with
  | nil => rfl
  | cons operation rest ih => rw [run_cons, Snapshot.run_cons, ih, snapshot_perform]

end FileSystem

end TreeShell
