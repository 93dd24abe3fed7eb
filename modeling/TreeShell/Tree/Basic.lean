import TreeShell.Path

/-!
# Folders and files

A folder holds folders and files, each in the order in which they were put there. Names are looked
up, and the first entry of a name is the one that counts: a tree that was built by the operations
of a file system has no two entries of one name in a folder, but a tree that was read from a record
may.

Entries deep in a tree are reached along a place (`descend?`) and changed along one (`updateAt`).
-/

set_option autoImplicit false

namespace TreeShell

/-- A file: a name and a text. -/
structure File where
  name : String
  content : String
deriving DecidableEq, Repr

/-- A folder with the folders and the files in it. -/
structure Folder where
  name : String
  folders : List Folder
  files : List File
deriving Repr

/-- The two kinds of entries. -/
inductive NodeKind where
  | folder
  | file
deriving DecidableEq, Repr

/-- An entry of a folder. -/
inductive Node where
  | file (file : File)
  | folder (folder : Folder)
deriving Repr

/-- The names in a folder, in stored order. -/
structure Listing where
  folders : List String
  files : List String
deriving DecidableEq, Repr

/-- The names in a folder with their kinds, folders first. -/
def Listing.entries (listing : Listing) : List (String × NodeKind) :=
  listing.folders.map (·, .folder) ++ listing.files.map (·, .file)

/-- A list with its first element that satisfies `p` changed by `f`. -/
def updateFirst {α : Type} (p : α → Bool) (f : α → α) : List α → List α
  | [] => []
  | a :: rest => if p a then f a :: rest else a :: updateFirst p f rest

namespace Folder

/-- A folder with nothing in it. -/
def empty (name : String) : Folder :=
  ⟨name, [], []⟩

/-- The folder of a name in a folder. -/
def folder? (folder : Folder) (name : String) : Option Folder :=
  folder.folders.find? (·.name == name)

/-- The file of a name in a folder. -/
def file? (folder : Folder) (name : String) : Option File :=
  folder.files.find? (·.name == name)

/-- Whether a name is taken in a folder, by an entry of either kind. -/
def has (folder : Folder) (name : String) : Bool :=
  (folder.folder? name).isSome || (folder.file? name).isSome

/-- Whether a folder holds nothing. -/
def isEmpty (folder : Folder) : Bool :=
  folder.folders.isEmpty && folder.files.isEmpty

/-- The names in a folder. -/
def listing (folder : Folder) : Listing :=
  ⟨folder.folders.map name, folder.files.map File.name⟩

/-- A folder with one more folder, at the end. -/
def addFolder (folder child : Folder) : Folder :=
  { folder with folders := folder.folders ++ [child] }

/-- A folder without the folder of a name. -/
def removeFolder (folder : Folder) (name : String) : Folder :=
  { folder with folders := folder.folders.eraseP (·.name == name) }

/-- A folder with the text of a file: the file keeps its place if there is one of that name, and
is added at the end if there is none. -/
def putFile (folder : Folder) (file : File) : Folder :=
  if (folder.file? file.name).isSome then
    { folder with files := updateFirst (·.name == file.name) (fun _ => file) folder.files }
  else { folder with files := folder.files ++ [file] }

/-- A folder without the file of a name. -/
def removeFile (folder : Folder) (name : String) : Folder :=
  { folder with files := folder.files.eraseP (·.name == name) }

/-- The folder reached along a place. -/
def descend? : Folder → List String → Option Folder
  | folder, [] => some folder
  | folder, name :: rest => (folder.folder? name).bind (·.descend? rest)

/-- A folder with the folder at a place changed by `f`; nothing happens when there is none. -/
def updateAt (f : Folder → Folder) : List String → Folder → Folder
  | [], folder => f folder
  | name :: rest, folder =>
    { folder with folders := updateFirst (·.name == name) (updateAt f rest) folder.folders }

/-- New folders one inside the other. -/
def nest : String → List String → Folder
  | name, [] => empty name
  | name, next :: rest => ⟨name, [nest next rest], []⟩

@[simp]
theorem descend?_nil (folder : Folder) : folder.descend? [] = some folder := rfl

@[simp]
theorem descend?_cons (folder : Folder) (name : String) (rest : List String) :
    folder.descend? (name :: rest) = (folder.folder? name).bind (·.descend? rest) := rfl

@[simp]
theorem updateAt_nil (f : Folder → Folder) (folder : Folder) : updateAt f [] folder = f folder := rfl

end Folder

namespace Node

/-- The kind of an entry. -/
def kind : Node → NodeKind
  | file _ => .file
  | folder _ => .folder

end Node

end TreeShell
