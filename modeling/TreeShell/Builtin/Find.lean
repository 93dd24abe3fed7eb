import TreeShell.Builtin.Entry
import TreeShell.Pattern.Glob

/-!
# Finding entries

`find` walks a subtree and prints the entries that pass three filters: on the name, on the kind, and
on the depth. Its arguments are options with a value after each, and at most one path; after two
dashes everything is a path.
-/

set_option autoImplicit false

namespace TreeShell

/-- What `find` was asked for. -/
structure FindOptions where
  path? : Option String := none
  long : Bool := false
  name : Option String := none
  kind : Option NodeKind := none
  depth : Option Int := none
deriving DecidableEq, Repr

namespace FindOptions

/-- Where the walk starts. An empty path is the current folder. -/
def path (options : FindOptions) : String :=
  match options.path? with
  | some path => if path = "" then "." else path
  | none => "."

/-- The options with a path. -/
def withPath (options : FindOptions) (path : String) : Except Fault FindOptions :=
  match options.path? with
  | none => .ok { options with path? := some path }
  | some _ => .error (.findArguments .secondPath)

/-- The kind a value of `-type` names. -/
def kindOf (value : String) : Except Fault NodeKind :=
  let value := Text.lower value
  if value = "f" then .ok .file
  else if value = "d" then .ok .folder
  else .error (.findArguments .badKind)

/-- The depth a value of `-maxdepth` gives: any number, cut to a whole one. Infinity is beyond whole
numbers. -/
def depthOf (value : String) : Except Fault Int :=
  match Number.float? value with
  | none | some .nan => .error (.findArguments .badDepth)
  | some (.infinite _) => .error .infiniteInteger
  | some x =>
    let depth := x.truncate?.getD 0
    if depth < 0 then .error (.findArguments .badDepth) else .ok depth

/-- The options that a list of arguments gives, after those that were read before. -/
def readFrom (options : FindOptions) : List String → Except Fault FindOptions
  | [] => .ok options
  | "--" :: rest => rest.foldlM withPath options
  | "-ls" :: rest => readFrom { options with long := true } rest
  | ["-name"] => .error (.findArguments .patternMissing)
  | "-name" :: value :: rest => readFrom { options with name := some value } rest
  | ["-type"] => .error (.findArguments .kindMissing)
  | "-type" :: value :: rest => do readFrom { options with kind := some (← kindOf value) } rest
  | ["-maxdepth"] => .error (.findArguments .depthMissing)
  | "-maxdepth" :: value :: rest => do
    readFrom { options with depth := some (← depthOf value) } rest
  | arg :: rest =>
    if Text.startsWith arg "-" then .error (.findArguments (.unknownOption arg))
    else do readFrom (← options.withPath arg) rest

/-- The options that the arguments of `find` give. -/
def read (args : List String) : Except Fault FindOptions :=
  readFrom {} args

/-- Whether an entry passes the filters on name and kind. -/
def accepts (options : FindOptions) (entry : WalkEntry) : Bool :=
  options.kind.all (· == entry.kind) &&
    options.name.all (Glob.accepts · (Path.basename entry.path))

end FindOptions

namespace Shell

/-- The usage of `find`. -/
def findUsage : String :=
  "Usage: find [path] [-ls] [-name <glob>] [-type f|d] [-maxdepth N]"

/-- An entry that was found. -/
def printFound (long : Bool) (entry : WalkEntry) : Shell Unit := do
  if long then
    print (longEntry entry.kind.mark (← view (·.entrySize entry.path entry.kind)) entry.path)
  else print entry.path

/-- Walks and prints what passes the filters. -/
def findWith (options : FindOptions) : Shell Outcome := do
  let start ← view fun s => Path.normalize s.cwdPath options.path
  if ← view (·.exists? start) then
    let entries ← look (·.walk start options.depth)
    (entries.filter options.accepts).forM (printFound options.long)
    return .success
  else failWith ("find: " ++ start ++ ": No such file or directory")

/-- `find`: prints the entries of a subtree that pass the filters. A mistake in the arguments is
told together with the usage. -/
def find (args : List String) : Shell Outcome :=
  match FindOptions.read args with
  | .ok options => findWith options
  | .error (.findArguments mistake) => do
    print mistake.text
    print findUsage
    return .failure (some (.findArguments mistake))
  | .error fault => throw fault

end Shell

end TreeShell
