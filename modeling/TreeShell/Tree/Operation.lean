import TreeShell.Tree.Snapshot

/-!
# Operations

The ways to change a file system as one type, for those that are given an operation and do not name
it: a program that asks for one, and statements about any number of them in any order.
-/

set_option autoImplicit false

namespace TreeShell

/-- A way to change a file system, with the paths, names and texts a user gives. -/
inductive Operation where
  | changeDirectory (path : String)
  | mkdir (name : String)
  | rmdir (path : String)
  | ensureDirPath (path : String)
  | write (path content : String)
  | unlink (path : String)
  | move (source destination : String)
  | copy (source destination : String)
  | reset
  | save
deriving DecidableEq, Repr

/-- A step with its answer dropped. -/
def Step.silent {α : Type} (step : Step α) : Step Unit :=
  ⟨(), step.next?⟩

/-- What an operation comes to. To save is to record the snapshot as it is. -/
def Snapshot.attempt (s : Snapshot) : Operation → Attempt Unit
  | .changeDirectory path => s.changeDirectory path
  | .mkdir name => s.mkdir name
  | .rmdir path => s.rmdir path
  | .ensureDirPath path => s.ensureDirPath path
  | .write path content => s.write path content
  | .unlink path => s.unlink path
  | .move source destination => (s.move source destination).map Step.silent
  | .copy source destination => (s.copy source destination).map Step.silent
  | .reset => s.reset
  | .save => done s

end TreeShell
