import TreeShell.Proofs.Operation
import TreeShell.Proofs.Tree.Relocation

/-!
# Every operation keeps the tree in order

A run that starts from a tree in order, a fresh one among them, never leaves one that is not: no
folder comes to have two entries of one name, and no entry gets a name that no path leads to. The
arguments of the operations are any texts. Each operation has a reason of its own.

- `mkdir` checks its name and asks for both kinds of entries.
- `write` asks for a folder only, and replaces a file of the name if there is one.
- `ensureDirPath` asks for a folder and then for a file at each step of its way.
- `move` asks for both kinds, in the tree before anything was taken away.
- `copy` is a `write`.

Apart from `mkdir` none of them looks at a name. They take theirs from a place, and a path leads to
names only (`Path.areNames_resolve`).

A refused operation, or one that had nothing to do, keeps the snapshot it was given; `settle` says
so, and those cases are closed by the hypothesis.
-/

set_option autoImplicit false

namespace TreeShell

namespace Snapshot

variable {s : Snapshot}

/-- Another answer makes no difference to the snapshot. -/
theorem settle_map {α β : Type} {f : Step α → Step β} (hf : ∀ step, (f step).next? = step.next?)
    (s : Snapshot) (attempt : Attempt α) : s.settle (attempt.map f) = s.settle attempt := by
  cases attempt with
  | error reason => rfl
  | ok step =>
    have hnext := hf step
    obtain ⟨answer, next?⟩ := step
    simp only [Except.map]
    generalize f ⟨answer, next?⟩ = changed at hnext
    obtain ⟨other, other?⟩ := changed
    cases hnext
    cases next? <;> rfl

namespace WellFormed

/-! ## Each operation -/

theorem changeDirectory (hs : s.WellFormed) (path : String) :
    (s.settle (s.changeDirectory path)).WellFormed := by
  have hends := s.changeDirectory_ends path
  generalize s.changeDirectory path = attempt at hends
  cases hends with
  | missing hfolder => exact hs
  -- The place was resolved, so it is made of names; that it exists is not needed here.
  | changed hfolder => exact ⟨hs.root, hs.resolve path⟩

theorem mkdir (hs : s.WellFormed) (name : String) : (s.settle (s.mkdir name)).WellFormed := by
  have hends := s.mkdir_ends name
  generalize s.mkdir name = attempt at hends
  cases hends with
  | notBare hbare => exact hs
  | gone hbare hcwd => exact hs
  | taken hbare hcwd htaken => exact hs
  | made hbare hcwd hfree =>
    exact hs.addEmpty hcwd hfree (Path.isName_of_isBareName hbare)

theorem rmdir (hs : s.WellFormed) (path : String) : (s.settle (s.rmdir path)).WellFormed := by
  have hends := s.rmdir_ends path
  generalize s.rmdir path = attempt at hends
  cases hends with
  | root hplace => exact hs
  | missing hplace hfolder => exact hs
  | notEmpty hplace hfolder hempty => exact hs
  | removed hplace habove hfolder hempty => exact hs.removeFolder habove _

theorem ensureDirPath (hs : s.WellFormed) (path : String) :
    (s.settle (s.ensureDirPath path)).WellFormed := by
  have hends := Folder.ensureIn_ends path (s.resolve path) s.root
  unfold Snapshot.ensureDirPath
  generalize ensureIn path (s.resolve path) s.root = result at hends
  cases hends with
  | blocked hway hfile => exact hs
  | there hplace => exact hs
  | made hname hmissing hclear hentries hkeeps => exact ⟨hkeeps hs.root (hs.resolve path), hs.cwd⟩

theorem write (hs : s.WellFormed) (path content : String) :
    (s.settle (s.write path content)).WellFormed := by
  have hends := s.write_ends path content
  generalize s.write path content = attempt at hends
  cases hends with
  | root hplace => exact hs
  | noParent hplace habove => exact hs
  | onFolder hplace habove hfolder => exact hs
  | @written parent name above hplace habove hfree =>
    -- No folder has the name, which is all `putFile` asks for: a file of the name is replaced.
    have hnames := hs.resolve path
    rw [hplace] at hnames
    exact hs.putFile habove hfree (hnames name (by simp)) content

theorem unlink (hs : s.WellFormed) (path : String) : (s.settle (s.unlink path)).WellFormed := by
  have hends := s.unlink_ends path
  generalize s.unlink path = attempt at hends
  cases hends with
  | missing hfile => exact hs
  | removed hplace habove hfile => exact hs.removeFile habove _

theorem move (hs : s.WellFormed) (source destination : String) :
    (s.settle (s.move source destination)).WellFormed := by
  by_cases hroot : s.resolve source = []
  · rw [move_root hroot]
    exact hs
  · cases hnode : s.nodeAt? (s.resolve source) with
    | none =>
      rw [move_missing hroot hnode]
      exact hs
    | some node =>
      by_cases hself : s.resolve destination = s.resolve source
      · rw [move_onto_itself hroot hnode hself]
        exact hs
      · obtain ⟨parent, name, hnames, -, hends⟩ := hs.move_ends hroot hnode hself
        -- Of the six endings one records anything, and only it has something to show.
        generalize s.move source destination = attempt at hends
        cases hends with
        | unnamed hname => exact hs
        | there hname hsame => exact hs
        | intoItself hname hmoves hkind hwithin => exact hs
        | noDestination hname hmoves houtside habove => exact hs
        | taken hname hmoves houtside habove htaken => exact hs
        | moved hname hmoves houtside habove hfree =>
          have hmay := mayRelocate_of_moved hs hnode hmoves houtside habove hfree
          exact hmay.wellFormed_relocate hnames

theorem copy (hs : s.WellFormed) (source destination : String) :
    (s.settle (s.copy source destination)).WellFormed := by
  unfold Snapshot.copy
  cases s.read source with
  | error reason => exact hs
  | ok content =>
    dsimp only
    generalize (if s.isFolder destination then _ else destination) = target
    split
    · exact hs
    · rw [settle_map]
      · exact hs.write target content
      · exact fun _ => rfl

/-! ## Every run -/

theorem after (hs : s.WellFormed) (operation : Operation) : (s.after operation).WellFormed := by
  unfold Snapshot.after
  cases operation with
  | changeDirectory path => exact hs.changeDirectory path
  | mkdir name => exact hs.mkdir name
  | rmdir path => exact hs.rmdir path
  | ensureDirPath path => exact hs.ensureDirPath path
  | write path content => exact hs.write path content
  | unlink path => exact hs.unlink path
  | move source destination =>
    rw [attempt, settle_map]
    · exact hs.move source destination
    · exact fun _ => rfl
  | copy source destination =>
    rw [attempt, settle_map]
    · exact hs.copy source destination
    · exact fun _ => rfl
  | reset => exact wellFormed_fresh
  | save => exact hs

theorem run (hs : s.WellFormed) (operations : List Operation) : (s.run operations).WellFormed :=
  run_induction (fun _ operation h => h.after operation) hs operations

end WellFormed

end Snapshot

namespace FileSystem

/-- **A tree in order stays so.** Started fresh or from any tree in order, a file system has one
after any operations with any arguments, whether each of them succeeded or was refused. -/
theorem wellFormed_run {files : FileSystem}
    (h : files.snapshot = .fresh ∨ files.snapshot.WellFormed) (operations : List Operation) :
    (files.run operations).snapshot.WellFormed := by
  have hstart : files.snapshot.WellFormed := by
    rcases h with h | h
    · rw [h]
      exact Snapshot.wellFormed_fresh
    · exact h
  rw [snapshot_run]
  exact hstart.run operations

/-- From a fresh tree, and from one that was loaded, through arguments that mix separators, dots and
the name of an entry of the other kind. -/
theorem wellFormed_run_examples :
    (FileSystem.run ⟨.fresh, some .empty, "tree"⟩ [.mkdir "a", .mkdir "a/b", .write "a//b" "x",
      .ensureDirPath "/a/b/c", .move "/a" "../a/./b"]).snapshot.WellFormed ∧
    (FileSystem.run ⟨⟨⟨"/", [⟨"home", [], [⟨"notes", "x"⟩]⟩], []⟩, ["home"]⟩, none, "tree"⟩
      [.copy "notes" "", .move "notes" "/", .unlink "..", .reset]).snapshot.WellFormed :=
  ⟨wellFormed_run (Or.inl rfl) _, wellFormed_run (Or.inr (by decide)) _⟩

end FileSystem

end TreeShell
