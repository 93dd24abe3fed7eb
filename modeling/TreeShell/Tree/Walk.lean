import TreeShell.Tree.Snapshot

/-!
# Walking a subtree

A walk meets the start, then what is in it, folders before files and each in the order of their
names, and everything below a folder before the folder's next neighbour. It is done with a list of
entries that are still to be met (`walkPending`). `Folder.span` is the number of entries a walk
without limit meets, and so bounds the number of rounds.
-/

set_option autoImplicit false

namespace TreeShell

/-- An entry met on a walk: where it is, what it is, and how far below the start. -/
structure WalkEntry where
  place : List String
  kind : NodeKind
  depth : Nat
deriving DecidableEq, Repr

/-- The path of an entry. -/
def WalkEntry.path (entry : WalkEntry) : String :=
  Path.display entry.place

/-- How many entries a walk through a folder meets, the folder itself included. A name that occurs
twice is met twice, each time as the first folder of that name. -/
def Folder.span (folder : Folder) : Nat :=
  1 + folder.files.length +
    (folder.folders.attach.map fun ⟨child, _⟩ =>
      match _h : folder.folder? child.name with
      | some first => first.span
      | none => 0).foldr (· + ·) 0
termination_by sizeOf folder
decreasing_by
  have hm := List.mem_of_find?_eq_some _h
  have := List.sizeOf_lt_of_mem hm
  cases folder
  simp at *
  omega

namespace Snapshot

/-- The entries in a folder at a place, in the order of a walk. -/
def walkChildren (place : List String) (depth : Nat) (folder : Folder) : List WalkEntry :=
  (Text.sorted (folder.folders.map Folder.name)).map (fun name =>
      ⟨place ++ [name], .folder, depth + 1⟩) ++
    (Text.sorted (folder.files.map File.name)).map fun name =>
      ⟨place ++ [name], .file, depth + 1⟩

/-- Whether a walk stops at a depth. -/
def walkStops (limit : Option Int) (depth : Nat) : Bool :=
  limit.any (· ≤ (depth : Int))

/-- The entries still to be met and all that is met through them, in at most `rounds` rounds. -/
def walkPending (s : Snapshot) (limit : Option Int) : Nat → List WalkEntry → List WalkEntry
  | 0, _ => []
  | _ + 1, [] => []
  | rounds + 1, entry :: pending =>
    let below :=
      if entry.kind = .folder && !walkStops limit entry.depth then
        ((s.folderAt? entry.place).map (walkChildren entry.place entry.depth)).getD []
      else []
    entry :: walkPending s limit rounds (below ++ pending)

/-- The entries met on a walk from a path down to a depth below it. -/
def walk (s : Snapshot) (path : String) (limit : Option Int) : Except FileError (List WalkEntry) :=
  let place := s.resolve path
  match s.folderAt? place with
  | some folder => .ok (s.walkPending limit folder.span [⟨place, .folder, 0⟩])
  | none =>
    if (s.fileAt? place).isSome then .ok [⟨place, .file, 0⟩] else .error (.cannotWalk path)

end Snapshot

end TreeShell
