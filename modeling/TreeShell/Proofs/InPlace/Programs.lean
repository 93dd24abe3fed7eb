import TreeShell.Proofs.Operation

/-!
# The operations, one statement at a time

An operation on a snapshot either refuses or hands back a whole new snapshot, so that a refusal
cannot leave anything half done. A machine works differently. It has one tree, looks at it, changes
it, looks again, and may find a reason to stop when part of the work is done already. Here every
operation is written that way: an `InPlace` step reads and changes a file system, and what it
changed before it was stopped stays changed.

`makeAlong` is the one that interleaves the two. It makes each missing folder as soon as it misses
it, and the next step of the same walk may come to a file and refuse. `move` changes the tree twice
and then the current place, and all others look first and change once.

A folder that a walk has reached is known by its place, and a change is made at a place. That this
is the folder the walk holds is what the proofs about it have to carry along.
-/

set_option autoImplicit false

namespace TreeShell

/-- A step that works on a file system where it is. -/
abbrev InPlace (α : Type) := ExceptT Fault (StateM FileSystem) α

namespace InPlace

variable {α : Type}

/-- What a step comes to on a file system, and the file system after it. -/
def run (step : InPlace α) (files : FileSystem) : Except Fault α × FileSystem :=
  ExceptT.run step files

/-- A step from what it comes to. -/
def ofRun (f : FileSystem → Except Fault α × FileSystem) : InPlace α :=
  ExceptT.mk f

/-! ## Single statements -/

/-- Stops for a reason. -/
def refuse (reason : FileError) : InPlace α :=
  throw (.files reason)

/-- Looks at the tree. -/
def ask (f : Snapshot → α) : InPlace α :=
  ofRun fun files => (.ok (f files.snapshot), files)

/-- Looks at the tree, which may be a reason to stop. -/
def look (f : Snapshot → Except FileError α) : InPlace α :=
  ofRun fun files => ((f files.snapshot).mapError .files, files)

/-- Changes the folder at a place. -/
def alter (place : List String) (f : Folder → Folder) : InPlace Unit :=
  ofRun fun files => (.ok (), { files with snapshot := files.snapshot.update place f })

/-- Makes a place the current one. -/
def goTo (place : List String) : InPlace Unit :=
  ofRun fun files => (.ok (), { files with snapshot := { files.snapshot with cwd := place } })

/-- Puts another tree in the place of this one. -/
def exchange (next : Snapshot) : InPlace Unit :=
  ofRun fun files => (.ok (), { files with snapshot := next })

/-- Writes the tree into the store, as it is by now. -/
def record : InPlace Unit :=
  ofRun FileSystem.save

/-! ## Programs -/

/-- Makes a folder the current one. -/
def changeDirectory (path : String) : InPlace Unit := do
  let place ← ask (·.resolve path)
  match ← ask (·.folderAt? place) with
  | none => refuse (.noSuchFolder path)
  | some _ =>
    goTo place
    record

/-- Makes an empty folder in the current one. -/
def mkdir (name : String) : InPlace Unit := do
  if !Path.isBareName name then refuse (.notBareName name)
  else
    match ← ask fun s => s.folderAt? s.cwd with
    | none => refuse (.currentFolderGone (← ask (·.cwdPath)))
    | some current =>
      if current.has name then refuse (.nameTaken name name)
      else
        alter (← ask (·.cwd)) (·.addFolder (.empty name))
        record

/-- Removes an empty folder. -/
def rmdir (path : String) : InPlace Unit := do
  let place ← ask (·.resolve path)
  if place = [] then refuse (.removingRoot path)
  else
    let (parent, name) := Path.splitLast place
    match (← ask (·.folderAt? parent)).bind (·.folder? name) with
    | none => refuse (.cannotRemove path)
    | some folder =>
      if folder.isEmpty then
        alter parent (·.removeFolder name)
        record
      else refuse (.folderNotEmpty path)

/-- Walks on from the folder `current` at a place, and makes each folder on the way that is missing
when it is missed; answers whether any was made, on this way or before. -/
def makeAlong (path : String) : List String → Folder → List String → Bool → InPlace Bool
  | _, _, [], made => return made
  | place, current, name :: rest, made =>
    match current.folder? name with
    | some next => makeAlong path (place ++ [name]) next rest made
    | none =>
      if (current.file? name).isSome then refuse (.nameTaken name path)
      else do
        let next := Folder.empty name
        alter place (·.addFolder next)
        makeAlong path (place ++ [name]) next rest true

/-- Makes every folder along a path that is missing. -/
def ensureDirPath (path : String) : InPlace Unit := do
  if ← makeAlong path [] (← ask (·.root)) (← ask (·.resolve path)) false then record

/-- Makes a file, or replaces the text of one. -/
def write (path content : String) : InPlace Unit := do
  let place ← ask (·.resolve path)
  if place = [] then refuse (.writingRoot path)
  else
    let (parent, name) := Path.splitLast place
    match ← ask (·.folderAt? parent) with
    | none => refuse (.noParent path)
    | some folder =>
      if (folder.folder? name).isSome then refuse (.writingFolder path)
      else
        alter parent (·.putFile ⟨name, content⟩)
        record

/-- Removes a file. -/
def unlink (path : String) : InPlace Unit := do
  let place ← ask (·.resolve path)
  match ← ask (·.fileAt? place) with
  | none => refuse (.cannotUnlink path)
  | some _ =>
    let (parent, name) := Path.splitLast place
    alter parent (·.removeFile name)
    record

/-- Takes an entry out of its folder. -/
def takeOut (place : List String) (node : Node) : InPlace Unit :=
  let (parent, name) := Path.splitLast place
  match node with
  | .file _ => alter parent (·.removeFile name)
  | .folder _ => alter parent (·.removeFolder name)

/-- Puts an entry into a folder under a name. -/
def putIn (parent : List String) (name : String) : Node → InPlace Unit
  | .file file => alter parent fun folder =>
      { folder with files := folder.files ++ [{ file with name }] }
  | .folder moved => alter parent (·.addFolder { moved with name })

/-- Goes along with an entry that moved, if the current place is in it. -/
def follow (place : List String) (node : Node) (goal : List String) : InPlace Unit := do
  let cwd ← ask (·.cwd)
  if node.kind = .folder && Path.isWithin place cwd then goTo (goal ++ cwd.drop place.length)

/-- Moves or renames an entry, and answers its new path. -/
def move (source destination : String) : InPlace String := do
  let place ← ask (·.resolve source)
  let target ← ask (·.resolve destination)
  if place.isEmpty then refuse (.movingRoot source)
  else
    match ← ask (·.nodeAt? place) with
    | none => refuse (.cannotMove source)
    | some node =>
      if target = place then return Path.display place
      else
        let (parent, name) ← ask (·.destinationOf place target)
        if name = "" then refuse (.badDestination destination)
        else if parent ++ [name] = place then return Path.display place
        else if node.kind = .folder && Path.isWithin place (parent ++ [name]) then
          refuse (.movingIntoItself source)
        else
          match ← ask (·.folderAt? parent) with
          | none => refuse (.noDestination (Path.display parent) destination)
          | some folder =>
            if folder.has name then refuse (.destinationTaken destination)
            else
              takeOut place node
              putIn parent name node
              follow place node (parent ++ [name])
              record
              return Path.display (parent ++ [name])

/-- Copies a file, and answers the path of the copy. -/
def copy (source destination : String) : InPlace String := do
  let content ← look (·.read source)
  let target ← ask fun s =>
    if s.isFolder destination then
      Path.join (Path.normalize s.cwdPath destination) (Path.basename source)
    else destination
  let place ← ask (·.resolve source)
  if (← ask (·.resolve target)) = place then return Path.display place
  else
    write target content
    return Path.display (← ask (·.resolve target))

/-- Forgets everything. -/
def reset : InPlace Unit := do
  exchange .fresh
  record

end InPlace

/-- What can be asked of a file system: an operation, or a look that may be refused. -/
inductive Request where
  | change (operation : Operation)
  | list (path : String)
  | read (path : String)
  | walk (path : String) (limit : Option Int)
deriving DecidableEq, Repr

namespace Operation

/-- An operation as a program that works in place, its answer dropped. -/
def inPlace : Operation → InPlace Unit
  | changeDirectory path => InPlace.changeDirectory path
  | mkdir name => InPlace.mkdir name
  | rmdir path => InPlace.rmdir path
  | ensureDirPath path => InPlace.ensureDirPath path
  | write path content => InPlace.write path content
  | unlink path => InPlace.unlink path
  | move source destination => discard (InPlace.move source destination)
  | copy source destination => discard (InPlace.copy source destination)
  | reset => InPlace.reset
  | save => InPlace.record

end Operation

namespace Request

/-- A request as a program that works in place, its answer dropped. -/
def inPlace : Request → InPlace Unit
  | change operation => operation.inPlace
  | list path => discard (InPlace.look (·.list path))
  | read path => discard (InPlace.look (·.read path))
  | walk path limit => discard (InPlace.look (·.walk path limit))

end Request

/-- What a request comes to. -/
def FileSystem.answer (files : FileSystem) : Request → Except Fault Unit × FileSystem
  | .change operation => files.perform operation
  | .list path => (((files.snapshot.list path).map fun _ => ()).mapError .files, files)
  | .read path => (((files.snapshot.read path).map fun _ => ()).mapError .files, files)
  | .walk path limit => (((files.snapshot.walk path limit).map fun _ => ()).mapError .files, files)

end TreeShell
