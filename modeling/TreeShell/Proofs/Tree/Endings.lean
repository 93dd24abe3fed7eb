import TreeShell.Proofs.Tree.Lookup
import TreeShell.Tree.Snapshot

/-!
# How the operations end

Each operation is a cascade of guards before one change. Here every way down the cascade is a
constructor, with the guards that were passed and the one that was not, and with what the operation
comes to. The lemma of an operation (`mkdir_ends`, `rmdir_ends`, …) says that one of its
constructors applies. After this module no proof opens an operation again: a proof about one goes
through its endings by name, and a proof that asks only about success sees one of them.

A place that is not the root is written `parent ++ [name]` throughout, which is what `splitLast`
takes apart.
-/

set_option autoImplicit false

namespace TreeShell

namespace Path

@[simp]
theorem splitLast_concat (parent : List String) (name : String) :
    splitLast (parent ++ [name]) = (parent, name) := by
  simp [splitLast]

theorem exists_eq_concat {place : List String} (h : place ≠ []) :
    ∃ parent name, place = parent ++ [name] :=
  ⟨place.dropLast, place.getLast h, (List.dropLast_concat_getLast h).symm⟩

end Path

namespace Snapshot

variable {s : Snapshot} {source destination : String}

@[simp]
theorem fileAt?_nil (s : Snapshot) : s.fileAt? [] = none := rfl

@[simp]
theorem fileAt?_concat (s : Snapshot) (parent : List String) (name : String) :
    s.fileAt? (parent ++ [name]) = (s.folderAt? parent).bind (·.file? name) := by
  simp [fileAt?]

theorem folderAt?_concat (s : Snapshot) (parent : List String) (name : String) :
    s.folderAt? (parent ++ [name]) = (s.folderAt? parent).bind (·.folder? name) := by
  unfold folderAt?
  rw [Folder.descend?_append]
  cases s.root.descend? parent with
  | none => rfl
  | some folder =>
    show (folder.folder? name).bind (·.descend? []) = folder.folder? name
    cases folder.folder? name <;> rfl

/-! ## The endings -/

/-- How `changeDirectory` ends. -/
inductive ChangeDirectoryEnds (s : Snapshot) (path : String) : Attempt Unit → Prop
  | missing (hfolder : s.folderAt? (s.resolve path) = none) :
      ChangeDirectoryEnds s path (.error (.noSuchFolder path))
  | changed {folder : Folder} (hfolder : s.folderAt? (s.resolve path) = some folder) :
      ChangeDirectoryEnds s path (.ok ⟨(), some { s with cwd := s.resolve path }⟩)

/-- How `mkdir` ends. -/
inductive MkdirEnds (s : Snapshot) (name : String) : Attempt Unit → Prop
  | notBare (hbare : Path.isBareName name = false) : MkdirEnds s name (.error (.notBareName name))
  | gone (hbare : Path.isBareName name = true) (hcwd : s.folderAt? s.cwd = none) :
      MkdirEnds s name (.error (.currentFolderGone s.cwdPath))
  | taken {current : Folder} (hbare : Path.isBareName name = true)
      (hcwd : s.folderAt? s.cwd = some current) (htaken : current.has name = true) :
      MkdirEnds s name (.error (.nameTaken name name))
  | made {current : Folder} (hbare : Path.isBareName name = true)
      (hcwd : s.folderAt? s.cwd = some current) (hfree : current.has name = false) :
      MkdirEnds s name (.ok ⟨(), some (s.update s.cwd (·.addFolder (.empty name)))⟩)

/-- How `rmdir` ends. -/
inductive RmdirEnds (s : Snapshot) (path : String) : Attempt Unit → Prop
  | root (hplace : s.resolve path = []) : RmdirEnds s path (.error (.removingRoot path))
  | missing {parent : List String} {name : String} (hplace : s.resolve path = parent ++ [name])
      (hfolder : s.folderAt? (parent ++ [name]) = none) :
      RmdirEnds s path (.error (.cannotRemove path))
  | notEmpty {parent : List String} {name : String} {folder : Folder}
      (hplace : s.resolve path = parent ++ [name])
      (hfolder : s.folderAt? (parent ++ [name]) = some folder) (hempty : folder.isEmpty = false) :
      RmdirEnds s path (.error (.folderNotEmpty path))
  | removed {parent : List String} {name : String} {above folder : Folder}
      (hplace : s.resolve path = parent ++ [name]) (habove : s.folderAt? parent = some above)
      (hfolder : above.folder? name = some folder) (hempty : folder.isEmpty = true) :
      RmdirEnds s path (.ok ⟨(), some (s.update parent (·.removeFolder name))⟩)

/-- How `write` ends. -/
inductive WriteEnds (s : Snapshot) (path content : String) : Attempt Unit → Prop
  | root (hplace : s.resolve path = []) : WriteEnds s path content (.error (.writingRoot path))
  | noParent {parent : List String} {name : String} (hplace : s.resolve path = parent ++ [name])
      (habove : s.folderAt? parent = none) : WriteEnds s path content (.error (.noParent path))
  | onFolder {parent : List String} {name : String} {above folder : Folder}
      (hplace : s.resolve path = parent ++ [name]) (habove : s.folderAt? parent = some above)
      (hfolder : above.folder? name = some folder) :
      WriteEnds s path content (.error (.writingFolder path))
  | written {parent : List String} {name : String} {above : Folder}
      (hplace : s.resolve path = parent ++ [name]) (habove : s.folderAt? parent = some above)
      (hfree : above.folder? name = none) :
      WriteEnds s path content (.ok ⟨(), some (s.update parent (·.putFile ⟨name, content⟩))⟩)

/-- How `unlink` ends. -/
inductive UnlinkEnds (s : Snapshot) (path : String) : Attempt Unit → Prop
  | missing (hfile : s.fileAt? (s.resolve path) = none) :
      UnlinkEnds s path (.error (.cannotUnlink path))
  | removed {parent : List String} {name : String} {above : Folder} {file : File}
      (hplace : s.resolve path = parent ++ [name]) (habove : s.folderAt? parent = some above)
      (hfile : above.file? name = some file) :
      UnlinkEnds s path (.ok ⟨(), some (s.update parent (·.removeFile name))⟩)

/-- How `move` ends, once it is known what is to be moved and under which name of which folder. -/
inductive MoveEnds (s : Snapshot) (source destination : String) (node : Node)
    (parent : List String) (name : String) : Attempt String → Prop
  | unnamed (hname : name = "") :
      MoveEnds s source destination node parent name (.error (.badDestination destination))
  | there (hname : name ≠ "") (hsame : parent ++ [name] = s.resolve source) :
      MoveEnds s source destination node parent name (.ok ⟨Path.display (s.resolve source), none⟩)
  | intoItself (hname : name ≠ "") (hmoves : parent ++ [name] ≠ s.resolve source)
      (hkind : node.kind = .folder) (hwithin : s.resolve source <+: parent ++ [name]) :
      MoveEnds s source destination node parent name (.error (.movingIntoItself source))
  | noDestination (hname : name ≠ "") (hmoves : parent ++ [name] ≠ s.resolve source)
      (houtside : node.kind = .folder → ¬ s.resolve source <+: parent ++ [name])
      (habove : s.folderAt? parent = none) :
      MoveEnds s source destination node parent name
        (.error (.noDestination (Path.display parent) destination))
  | taken {above : Folder} (hname : name ≠ "") (hmoves : parent ++ [name] ≠ s.resolve source)
      (houtside : node.kind = .folder → ¬ s.resolve source <+: parent ++ [name])
      (habove : s.folderAt? parent = some above) (htaken : above.has name = true) :
      MoveEnds s source destination node parent name (.error (.destinationTaken destination))
  | moved {above : Folder} (hname : name ≠ "") (hmoves : parent ++ [name] ≠ s.resolve source)
      (houtside : node.kind = .folder → ¬ s.resolve source <+: parent ++ [name])
      (habove : s.folderAt? parent = some above) (hfree : above.has name = false) :
      MoveEnds s source destination node parent name
        (.ok ⟨Path.display (parent ++ [name]),
          some (s.relocate (s.resolve source) node parent name)⟩)

/-! ## Every operation ends in one of its ways -/

theorem changeDirectory_ends (s : Snapshot) (path : String) :
    ChangeDirectoryEnds s path (s.changeDirectory path) := by
  unfold changeDirectory
  cases hfolder : s.folderAt? (s.resolve path) with
  | none => simpa [hfolder] using ChangeDirectoryEnds.missing hfolder
  | some folder => simpa [hfolder, done] using ChangeDirectoryEnds.changed hfolder

theorem mkdir_ends (s : Snapshot) (name : String) : MkdirEnds s name (s.mkdir name) := by
  unfold mkdir
  cases hbare : Path.isBareName name with
  | false => exact .notBare hbare
  | true =>
    cases hcwd : s.folderAt? s.cwd with
    | none => exact .gone hbare hcwd
    | some current =>
      cases hhas : current.has name with
      | true => simpa [hhas] using MkdirEnds.taken hbare hcwd hhas
      | false => simpa [hhas, done] using MkdirEnds.made hbare hcwd hhas

theorem rmdir_ends (s : Snapshot) (path : String) : RmdirEnds s path (s.rmdir path) := by
  unfold rmdir
  split
  · rename_i hplace
    exact .root hplace
  · rename_i first rest hplace
    obtain ⟨parent, name, hconcat⟩ := Path.exists_eq_concat (List.cons_ne_nil first rest)
    rw [hconcat] at hplace ⊢
    rw [Path.splitLast_concat]
    dsimp only
    rw [← folderAt?_concat]
    cases hfolder : s.folderAt? (parent ++ [name]) with
    | none => exact .missing hplace hfolder
    | some folder =>
      have hbind := hfolder
      rw [folderAt?_concat] at hbind
      obtain ⟨above, habove, hname⟩ := Option.bind_eq_some_iff.mp hbind
      cases hempty : folder.isEmpty with
      | true => simpa [hempty, done] using RmdirEnds.removed hplace habove hname hempty
      | false => simpa [hempty] using RmdirEnds.notEmpty hplace hfolder hempty

theorem write_ends (s : Snapshot) (path content : String) :
    WriteEnds s path content (s.write path content) := by
  unfold write
  split
  · rename_i hplace
    exact .root hplace
  · rename_i first rest hplace
    obtain ⟨parent, name, hconcat⟩ := Path.exists_eq_concat (List.cons_ne_nil first rest)
    rw [hconcat] at hplace ⊢
    rw [Path.splitLast_concat]
    dsimp only
    cases habove : s.folderAt? parent with
    | none => exact .noParent hplace habove
    | some above =>
      cases hfolder : above.folder? name with
      | some folder => simpa [hfolder] using WriteEnds.onFolder hplace habove hfolder
      | none => simpa [hfolder, done] using WriteEnds.written hplace habove hfolder

theorem unlink_ends (s : Snapshot) (path : String) : UnlinkEnds s path (s.unlink path) := by
  unfold unlink
  dsimp only
  cases hfile : s.fileAt? (s.resolve path) with
  | none => exact .missing hfile
  | some file =>
    have hne : s.resolve path ≠ [] := fun hnil => by simp [hnil] at hfile
    obtain ⟨parent, name, hplace⟩ := Path.exists_eq_concat hne
    rw [hplace, fileAt?_concat] at hfile
    obtain ⟨above, habove, hname⟩ := Option.bind_eq_some_iff.mp hfile
    dsimp only
    rw [hplace, Path.splitLast_concat]
    exact .removed hplace habove hname

/-- A move looks first at its source; all that follows is `MoveEnds`. -/
theorem move_of_source {node : Node} (hsource : s.resolve source ≠ [])
    (hnode : s.nodeAt? (s.resolve source) = some node)
    (htarget : s.resolve destination ≠ s.resolve source) :
    MoveEnds s source destination node
      (s.destinationOf (s.resolve source) (s.resolve destination)).1
      (s.destinationOf (s.resolve source) (s.resolve destination)).2
      (s.move source destination) := by
  unfold move
  simp only [List.isEmpty_iff, hsource, hnode, htarget, if_false]
  -- From here on it is one guard after the other, for any parent and name.
  generalize s.destinationOf (s.resolve source) (s.resolve destination) = goal
  obtain ⟨parent, name⟩ := goal
  dsimp only
  split
  · rename_i hname
    exact .unnamed hname
  · rename_i hname
    split
    · rename_i hsame
      exact .there hname hsame
    · rename_i hmoves
      split
      · rename_i hinto
        simp only [Bool.and_eq_true, decide_eq_true_eq, Path.isWithin,
          List.isPrefixOf_iff_prefix] at hinto
        exact .intoItself hname hmoves hinto.1 hinto.2
      · rename_i hinto
        simp only [Bool.and_eq_true, decide_eq_true_eq, Path.isWithin,
          List.isPrefixOf_iff_prefix, not_and] at hinto
        cases habove : s.folderAt? parent with
        | none => exact .noDestination hname hmoves hinto habove
        | some above =>
          cases hhas : above.has name with
          | true => simpa [hhas] using MoveEnds.taken hname hmoves hinto habove hhas
          | false => simpa [hhas] using MoveEnds.moved hname hmoves hinto habove hhas

theorem move_root (h : s.resolve source = []) :
    s.move source destination = .error (.movingRoot source) := by
  simp [move, h]

theorem move_missing (h : s.resolve source ≠ []) (hnode : s.nodeAt? (s.resolve source) = none) :
    s.move source destination = .error (.cannotMove source) := by
  simp [move, h, hnode]

theorem move_onto_itself {node : Node} (h : s.resolve source ≠ [])
    (hnode : s.nodeAt? (s.resolve source) = some node)
    (htarget : s.resolve destination = s.resolve source) :
    s.move source destination = .ok ⟨Path.display (s.resolve source), none⟩ := by
  simp [move, h, hnode, htarget]

end Snapshot

end TreeShell
