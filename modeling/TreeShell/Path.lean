import TreeShell.Text.Split

/-!
# Paths

A place in the tree is a list of segments from the root; a path is what a user types for it. The
two are tied by `resolve`, which reads a path against a current place, and `display`, which writes
a place as an absolute path. Nothing here asks whether a place exists.

A path is read piece by piece (`step`): an empty piece and `.` stay, `..` climbs and stays at the
root, any other piece descends.
-/

set_option autoImplicit false

namespace TreeShell.Path

/-- The effect of one piece of a path on the place reached so far. -/
def step (place : List String) (piece : String) : List String :=
  if piece = "" ∨ piece = "." then place
  else if piece = ".." then place.dropLast
  else place ++ [piece]

/-- A path is absolute when it begins with the separator. -/
def isAbsolute (path : String) : Bool :=
  path.toList.head? == some '/'

/-- The place a path names, seen from the place `cwd`. -/
def resolve (cwd : List String) (path : String) : List String :=
  (Text.split '/' path).foldl step (if isAbsolute path then [] else cwd)

/-- The absolute path of a place; `/` for the root. -/
def display (place : List String) : String :=
  "/" ++ Text.join "/" place

/-- The segments of an absolute path in display form. No piece has a meaning of its own here:
only empty pieces are passed over. -/
def segments (path : String) : List String :=
  (Text.split '/' path).filter (· ≠ "")

/-- A path read against a current place in display form, in display form. -/
def normalize (cwd path : String) : String :=
  display (resolve (segments cwd) path)

/-- The path of an entry below a base. An absolute entry stands by itself, an empty one is the
base. -/
def join (base entry : String) : String :=
  normalize base entry

/-- A place as the place of its folder and its last segment; the root has an empty last segment. -/
def splitLast (place : List String) : List String × String :=
  (place.dropLast, place.getLast?.getD "")

/-- The last segment of a path, or the path itself when it has none. -/
def basename (path : String) : String :=
  (segments path).getLast?.getD path

/-- A name for a new folder: not empty, not `.` or `..`, and without separators of either kind. -/
def isBareName (name : String) : Bool :=
  name != "" && name != "." && name != ".." && !name.toList.contains '/' &&
    !name.toList.contains '\\'

/-- Whether the place `inner` is `outer` or below it. -/
def isWithin (outer inner : List String) : Bool :=
  outer.isPrefixOf inner

@[simp]
theorem step_empty (place : List String) : step place "" = place := by
  simp [step]

@[simp]
theorem step_dot (place : List String) : step place "." = place := by
  simp [step]

@[simp]
theorem step_dotdot (place : List String) : step place ".." = place.dropLast := by
  simp [step]

end TreeShell.Path
