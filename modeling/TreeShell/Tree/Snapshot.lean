import TreeShell.Tree.Basic
import TreeShell.Tree.Error

/-!
# A tree with a current folder

A snapshot is what a file system holds at one moment: the tree, and the place of the current
folder. Every operation is a function of a snapshot and the paths a user gave. It refuses with a
reason, and then nothing has changed; or it answers, together with the next snapshot if there is
one. That an operation has no next snapshot means that there was nothing to do and nothing is to be
recorded.
-/

set_option autoImplicit false

namespace TreeShell

/-- The tree and the place of the current folder. -/
structure Snapshot where
  root : Folder
  cwd : List String
deriving Repr

/-- The answer of an operation, and the snapshot to be recorded, if any. -/
structure Step (α : Type) where
  answer : α
  next? : Option Snapshot
deriving Repr

/-- What an operation comes to. -/
abbrev Attempt (α : Type) := Except FileError (Step α)

/-- The name of the root folder. -/
def rootName : String := "/"

/-- The top-level folder with the shell's own settings. -/
def settingsFolder : String := "sys"

namespace Snapshot

/-- An empty root, which is also the current folder. -/
def fresh : Snapshot :=
  ⟨.empty rootName, []⟩

/-- A change without an answer. -/
def done (next : Snapshot) : Attempt Unit :=
  .ok ⟨(), some next⟩

/-! ## Looking -/

/-- The place a path names. -/
def resolve (s : Snapshot) (path : String) : List String :=
  Path.resolve s.cwd path

/-- The path of the current folder. -/
def cwdPath (s : Snapshot) : String :=
  Path.display s.cwd

/-- The folder at a place. -/
def folderAt? (s : Snapshot) (place : List String) : Option Folder :=
  s.root.descend? place

/-- The file at a place. There is none at the root. -/
def fileAt? (s : Snapshot) (place : List String) : Option File :=
  match place.getLast? with
  | none => none
  | some name => (s.folderAt? place.dropLast).bind (·.file? name)

/-- The entry at a place other than the root; a file hides a folder of the same name. -/
def nodeAt? (s : Snapshot) (place : List String) : Option Node :=
  match s.fileAt? place with
  | some file => some (.file file)
  | none => (s.folderAt? place).map .folder

/-- Whether a path names a folder. -/
def isFolder (s : Snapshot) (path : String) : Bool :=
  (s.folderAt? (s.resolve path)).isSome

/-- Whether a path names a file. -/
def isFile (s : Snapshot) (path : String) : Bool :=
  (s.fileAt? (s.resolve path)).isSome

/-- Whether a path names an entry. -/
def exists? (s : Snapshot) (path : String) : Bool :=
  s.isFolder path || s.isFile path

/-- The names in a folder. -/
def list (s : Snapshot) (path : String) : Except FileError Listing :=
  match s.folderAt? (s.resolve path) with
  | some folder => .ok folder.listing
  | none => .error (.cannotList path)

/-- The text of a file. -/
def read (s : Snapshot) (path : String) : Except FileError String :=
  match s.fileAt? (s.resolve path) with
  | some file => .ok file.content
  | none => .error (.cannotRead path)

/-- How many characters a file has. -/
def fileSize (s : Snapshot) (path : String) : Except FileError Nat :=
  (s.read path).map String.length

/-- How many entries a folder has. -/
def childCount (s : Snapshot) (path : String) : Except FileError Nat :=
  (s.list path).map fun listing => listing.folders.length + listing.files.length

/-- Whether there is nothing but the shell's own settings. -/
def looksEmpty (s : Snapshot) : Bool :=
  s.root.folders.all (·.name == settingsFolder) && s.root.files.isEmpty

/-! ## Changing -/

/-- The tree with the folder at a place changed. -/
def update (s : Snapshot) (place : List String) (f : Folder → Folder) : Snapshot :=
  { s with root := s.root.updateAt f place }

/-- Makes a folder the current one. -/
def changeDirectory (s : Snapshot) (path : String) : Attempt Unit :=
  let place := s.resolve path
  if (s.folderAt? place).isSome then done { s with cwd := place } else .error (.noSuchFolder path)

/-- Makes an empty folder in the current one. -/
def mkdir (s : Snapshot) (name : String) : Attempt Unit :=
  if !Path.isBareName name then .error (.notBareName name)
  else
    match s.folderAt? s.cwd with
    | none => .error (.currentFolderGone s.cwdPath)
    | some current =>
      if current.has name then .error (.nameTaken name name)
      else done (s.update s.cwd (·.addFolder (.empty name)))

/-- Removes an empty folder. -/
def rmdir (s : Snapshot) (path : String) : Attempt Unit :=
  match s.resolve path with
  | [] => .error (.removingRoot path)
  | place@(_ :: _) =>
    let (parent, name) := Path.splitLast place
    match (s.folderAt? parent).bind (·.folder? name) with
    | none => .error (.cannotRemove path)
    | some folder =>
      if folder.isEmpty then done (s.update parent (·.removeFolder name))
      else .error (.folderNotEmpty path)

/-- The folder with every folder along `place` that is missing; nothing if none is. A file in the
way is a reason to refuse, which can only be met in folders that were there before. -/
def ensureIn (path : String) : List String → Folder → Except FileError (Option Folder)
  | [], _ => .ok none
  | name :: rest, folder =>
    match folder.folder? name with
    | some child =>
      match ensureIn path rest child with
      | .error e => .error e
      | .ok none => .ok none
      | .ok (some child) =>
        .ok (some { folder with
          folders := updateFirst (·.name == name) (fun _ => child) folder.folders })
    | none =>
      if (folder.file? name).isSome then .error (.nameTaken name path)
      else .ok (some (folder.addFolder (.nest name rest)))

/-- Makes every folder along a path that is missing. -/
def ensureDirPath (s : Snapshot) (path : String) : Attempt Unit :=
  (ensureIn path (s.resolve path) s.root).map fun root? =>
    ⟨(), root?.map fun root => { s with root }⟩

/-- Makes a file, or replaces the text of one. -/
def write (s : Snapshot) (path content : String) : Attempt Unit :=
  match s.resolve path with
  | [] => .error (.writingRoot path)
  | place@(_ :: _) =>
    let (parent, name) := Path.splitLast place
    match s.folderAt? parent with
    | none => .error (.noParent path)
    | some folder =>
      if (folder.folder? name).isSome then .error (.writingFolder path)
      else done (s.update parent (·.putFile ⟨name, content⟩))

/-- Removes a file. -/
def unlink (s : Snapshot) (path : String) : Attempt Unit :=
  let place := s.resolve path
  match s.fileAt? place with
  | none => .error (.cannotUnlink path)
  | some _ =>
    let (parent, name) := Path.splitLast place
    done (s.update parent (·.removeFile name))

/-- The folder a moved entry goes to and its name there: into the destination under its own name if
that is a folder, and to the destination itself if not. -/
def destinationOf (s : Snapshot) (source target : List String) : List String × String :=
  if (s.folderAt? target).isSome then (target, (Path.splitLast source).2) else Path.splitLast target

/-- The tree with an entry taken from one place and put into a folder under a name. The current
folder goes along when it is in the folder that moves. -/
def relocate (s : Snapshot) (source : List String) (node : Node) (parent : List String)
    (name : String) : Snapshot :=
  let (sourceParent, sourceName) := Path.splitLast source
  match node with
  | .file file =>
    (s.update sourceParent (·.removeFile sourceName)).update parent fun folder =>
      { folder with files := folder.files ++ [{ file with name }] }
  | .folder moved =>
    let s := (s.update sourceParent (·.removeFolder sourceName)).update parent
      (·.addFolder { moved with name })
    if Path.isWithin source s.cwd then
      { s with cwd := parent ++ name :: s.cwd.drop source.length }
    else s

/-- Moves or renames an entry, and answers its new path. Moving an entry to where it is does
nothing. -/
def move (s : Snapshot) (source destination : String) : Attempt String :=
  let place := s.resolve source
  let target := s.resolve destination
  if place.isEmpty then .error (.movingRoot source)
  else
    match s.nodeAt? place with
    | none => .error (.cannotMove source)
    | some node =>
      if target = place then .ok ⟨Path.display place, none⟩
      else
        let (parent, name) := s.destinationOf place target
        if name = "" then .error (.badDestination destination)
        else if parent ++ [name] = place then .ok ⟨Path.display place, none⟩
        else if node.kind = .folder && Path.isWithin place (parent ++ [name]) then
          .error (.movingIntoItself source)
        else
          match s.folderAt? parent with
          | none => .error (.noDestination (Path.display parent) destination)
          | some folder =>
            if folder.has name then .error (.destinationTaken destination)
            else
              .ok ⟨Path.display (parent ++ [name]), some (s.relocate place node parent name)⟩

/-- Copies a file, and answers the path of the copy. A destination that is a folder receives the
copy under the name of the source; copying a file to where it is does nothing. -/
def copy (s : Snapshot) (source destination : String) : Attempt String :=
  match s.read source with
  | .error e => .error e
  | .ok content =>
    let target :=
      if s.isFolder destination then
        Path.join (Path.normalize s.cwdPath destination) (Path.basename source)
      else destination
    if s.resolve target = s.resolve source then .ok ⟨Path.display (s.resolve source), none⟩
    else
      (s.write target content).map fun step => ⟨Path.display (s.resolve target), step.next?⟩

/-- Forgets everything. -/
def reset (_ : Snapshot) : Attempt Unit :=
  done fresh

end Snapshot

end TreeShell
