import TreeShell.Session.Basic

/-!
# What commands print about entries and failures
-/

set_option autoImplicit false

namespace TreeShell

/-- One row of a long listing: a mark for the kind, the size in a column, the name. -/
def longEntry (mark : String) (size : Int) (name : String) : String :=
  mark ++ " " ++ Text.padLeft 6 (toString size) ++ " " ++ name

/-- The mark of a kind of entries in a long listing. -/
def NodeKind.mark : NodeKind → String
  | .folder => "d"
  | .file => "-"

/-- Whether the kind is that of folders. -/
def NodeKind.isFolder : NodeKind → Bool
  | .folder => true
  | .file => false

/-- The size of an entry: of a file its characters, of a folder its entries. It is zero where there
is no such entry. -/
def Snapshot.entrySize (s : Snapshot) (path : String) : NodeKind → Nat
  | .folder => (s.childCount path).toOption.getD 0
  | .file => (s.fileSize path).toOption.getD 0

/-- The name of an entry in a listing. -/
def entryLabel (name : String) (kind : NodeKind) : String :=
  name ++ if kind.isFolder then "/" else ""

namespace Shell

/-- The name of an entry in its colour. -/
def paintedEntry (name : String) (kind : NodeKind) : Shell String :=
  painted (entryColor name kind.isFolder) (entryLabel name kind)

/-- A failure for want of operands, with a hint at the usage where there is one. -/
def missingOperand (command : String) (hint : Option String) : Shell Outcome := do
  print (command ++ ": missing operand")
  if let some hint := hint then print ("Try '" ++ hint ++ "'")
  return .failed (command ++ ": missing operand")

/-- A failure that is told in one line, which is its account as well. -/
def failWith (line : String) : Shell Outcome := do
  print line
  return .failed line

/-- A refusal of the file system, told in one line. -/
def failRefused (command : String) (reason : FileError) : Shell Outcome := do
  print (command ++ ": " ++ reason.message)
  return .failure (some (.files reason))

/-- The outcome of one change: a refusal is told, and fails the command. -/
def reporting (command : String) (step : Shell Unit) : Shell Outcome := do
  match ← attempt step with
  | .ok () => return .success
  | .error reason => failRefused command reason

/-- Does something with every operand, and tells each refusal; answers whether there was none. -/
def eachOperand (action : String → Shell Unit) (tell : String → FileError → Shell Unit) :
    List String → Shell Bool
  | [] => return true
  | operand :: rest => do
    match ← attempt (action operand) with
    | .ok () => eachOperand action tell rest
    | .error reason =>
      tell operand reason
      let _ ← eachOperand action tell rest
      return false

/-- The outcome of a command on several operands. -/
def outcomeOfAll (command : String) (allDone : Bool) : Outcome :=
  if allDone then .success else .failed (command ++ ": one or more operations failed")

/-- Does something with every operand. A refusal is told in one line, and the next operand follows;
the command fails if there was any. -/
def forEach (command : String) (operands : List String) (action : String → Shell Unit) :
    Shell Outcome := do
  let allDone ← eachOperand action (fun _ reason => print (command ++ ": " ++ reason.message))
    operands
  return outcomeOfAll command allDone

end Shell

end TreeShell
