import TreeShell.Builtin.Entry
import TreeShell.Builtin.Flags

/-!
# Commands on files and folders
-/

set_option autoImplicit false

namespace TreeShell.Shell

/-! ## Listing and moving about -/

/-- A file in a listing of its own. -/
def listFile (target : String) (long : Bool) : Shell Outcome := do
  let name := Path.basename target
  if long then print (longEntry "-" (← view (·.entrySize target .file)) name)
  else print (← painted (entryColor name false) name)
  return .success

/-- The entries of a listing that are shown, in the order of their names. -/
def shownEntries (listing : Listing) (all : Bool) : List (String × NodeKind) :=
  (listing.entries.filter fun entry => all || !isHidden entry.1).mergeSort
    fun a b => !decide (b.1 < a.1)

/-- A row of a long listing of the folder `base`. -/
def printLongEntry (base : String) (entry : String × NodeKind) : Shell Unit := do
  let (name, kind) := entry
  let size ← view (·.entrySize (Path.join base name) kind)
  print (longEntry kind.mark size (← paintedEntry name kind))

/-- The entries of a folder. -/
def listFolder (target : String) (long all : Bool) : Shell Outcome := do
  match ← attempt (look (·.list target)) with
  | .error reason => failRefused "ls" reason
  | .ok listing =>
    let entries := shownEntries listing all
    if long then
      let base ← view fun s => Path.normalize s.cwdPath target
      entries.forM (printLongEntry base)
    else if !entries.isEmpty then
      print (Text.join "  " (← entries.mapM fun entry => paintedEntry entry.1 entry.2))
    return .success

/-- `ls`: lists a folder, or shows a file. -/
def ls (args : List String) : Shell Outcome := do
  let read := ShortFlags.read "la" args
  match read.unknown? with
  | some c =>
    let account := "ls: invalid option -- '" ++ .ofList [c] ++ "'"
    print account
    print "Usage: ls [-l] [-a] [path]"
    return .failed account
  | none =>
    let target := read.operands.head?.getD "."
    if ← view (·.isFile target) then listFile target (read.has 'l')
    else listFolder target (read.has 'l') (read.has 'a')

/-- `cd`: makes a folder the current one; the root without an argument. -/
def cd (args : List String) : Shell Outcome :=
  reporting "cd" (change (·.changeDirectory (args.head?.getD "/")))

/-- `pwd`: prints the current folder. -/
def pwd : Shell Outcome := do
  print (← view (·.cwdPath))
  return .success

/-! ## Folders -/

/-- `mkdir`: makes folders in the current one. -/
def mkdir (args : List String) : Shell Outcome :=
  if args.isEmpty then missingOperand "mkdir" "mkdir foldername"
  else forEach "mkdir" args fun name => change (·.mkdir name)

/-- `rmdir`: removes empty folders. -/
def rmdir (args : List String) : Shell Outcome :=
  if args.isEmpty then missingOperand "rmdir" none
  else forEach "rmdir" args fun path => change (·.rmdir path)

/-! ## Files -/

/-- Makes an empty file where there is no file. -/
def touchFile (path : String) : Shell Unit := do
  unless ← view (·.isFile path) do change (·.write path "")

/-- `touch`: makes empty files, and leaves those that are there. -/
def touch (args : List String) : Shell Outcome :=
  if args.isEmpty then missingOperand "touch" "touch filename"
  else forEach "touch" args touchFile

/-- `cat`: prints files. -/
def cat (args : List String) : Shell Outcome :=
  if args.isEmpty then missingOperand "cat" "cat filename"
  else forEach "cat" args fun path => do print (← look (·.read path))

/-- `rm`: removes files. -/
def rm (args : List String) : Shell Outcome :=
  if args.isEmpty then missingOperand "rm" "rm filename"
  else do
    let allDone ← eachOperand (fun path => change (·.unlink path))
      (fun path reason => print ("rm: cannot remove '" ++ path ++ "': " ++ reason.message)) args
    return outcomeOfAll "rm" allDone

/-- `mv`: moves or renames an entry. -/
def mv (args : List String) : Shell Outcome :=
  match args with
  | source :: destination :: _ =>
    reporting "mv" do
      let _ ← change (·.move source destination)
  | _ => missingOperand "mv" "mv source dest"

/-- `copy`: copies a file. -/
def copy (args : List String) : Shell Outcome :=
  match args with
  | source :: destination :: _ => do
    if ← view (·.isFile source) then
      match ← attempt (change (·.copy source destination)) with
      | .ok _ => return .success
      | .error reason =>
        print ("copy: cannot write '" ++ destination ++ "': " ++ reason.message)
        return .failure (some (.files reason))
    else
      print ("copy: cannot read '" ++ source ++ "': No such file")
      return .failed ("copy: cannot read '" ++ source ++ "'")
  | _ => missingOperand "copy" "copy source.txt dest.txt"

end TreeShell.Shell
