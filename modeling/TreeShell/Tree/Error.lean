import TreeShell.Path

/-!
# Why a file system refuses

Each constructor is one reason, with the texts its message needs: the paths as they were given, or
a name. Reasons fall into four kinds, which is what a caller reacts to.
-/

set_option autoImplicit false

namespace TreeShell

/-- The kinds of reasons: no entry of the wanted kind, a name that is taken, a folder with entries,
a name that cannot be used. -/
inductive FileErrorKind where
  | notFound
  | alreadyExists
  | notEmpty
  | invalidName
deriving DecidableEq, Repr

/-- A reason why an operation on files was refused. -/
inductive FileError where
  | noSuchFolder (path : String)
  | notBareName (name : String)
  | currentFolderGone (current : String)
  | nameTaken (name path : String)
  | cannotList (path : String)
  | removingRoot (path : String)
  | cannotRemove (path : String)
  | folderNotEmpty (path : String)
  | writingRoot (path : String)
  | noParent (path : String)
  | writingFolder (path : String)
  | cannotRead (path : String)
  | cannotUnlink (path : String)
  | movingRoot (source : String)
  | cannotMove (source : String)
  | badDestination (destination : String)
  | movingIntoItself (source : String)
  | noDestination (parent destination : String)
  | destinationTaken (destination : String)
  | cannotWalk (path : String)
deriving DecidableEq, Repr

namespace FileError

/-- The kind of a reason. -/
def kind : FileError → FileErrorKind
  | noSuchFolder _ | currentFolderGone _ | cannotList _ | cannotRemove _ | noParent _
  | cannotRead _ | cannotUnlink _ | cannotMove _ | noDestination _ _ | cannotWalk _ => .notFound
  | nameTaken _ _ | writingFolder _ | destinationTaken _ => .alreadyExists
  | folderNotEmpty _ => .notEmpty
  | notBareName _ | removingRoot _ | writingRoot _ | movingRoot _ | badDestination _
  | movingIntoItself _ => .invalidName

/-- The path the reason is about, as it was given. -/
def path : FileError → String
  | noSuchFolder path | notBareName path | currentFolderGone path | nameTaken _ path
  | cannotList path | removingRoot path | cannotRemove path | folderNotEmpty path
  | writingRoot path | noParent path | writingFolder path | cannotRead path | cannotUnlink path
  | movingRoot path | cannotMove path | badDestination path | movingIntoItself path
  | noDestination _ path | destinationTaken path | cannotWalk path => path

/-- A reason in words. -/
def message : FileError → String
  | noSuchFolder path => "no such file or directory: " ++ path
  | notBareName _ => "folder name must be a simple name without path separators"
  | currentFolderGone current => "current directory no longer exists: " ++ current
  | nameTaken name _ => "cannot create directory '" ++ name ++ "': File exists"
  | cannotList path => "cannot access '" ++ path ++ "': No such file or directory"
  | removingRoot _ => "refusing to remove the root folder"
  | cannotRemove path => "failed to remove '" ++ path ++ "': No such file or directory"
  | folderNotEmpty path => "failed to remove '" ++ path ++ "': Directory not empty"
  | writingRoot path => "cannot write '" ++ path ++ "': is the root folder"
  | noParent path => "no such directory for path: " ++ path
  | writingFolder path => "cannot write '" ++ path ++ "': is a folder"
  | cannotRead path => path ++ ": No such file"
  | cannotUnlink path => "No such file: " ++ path
  | movingRoot _ => "refusing to move root"
  | cannotMove source => "cannot stat '" ++ source ++ "': No such file or directory"
  | badDestination destination => "invalid destination: " ++ destination
  | movingIntoItself source => "cannot move '" ++ source ++ "' into itself"
  | noDestination parent _ => "cannot move to '" ++ parent ++ "': No such directory"
  | destinationTaken destination => "cannot move to '" ++ destination ++ "': destination exists"
  | cannotWalk path => path ++ ": No such file or directory"

end FileError

end TreeShell
