import Mathlib.Data.Set.Card
import TreeShell.Proofs.Tree.Entries

/-!
# File systems as flat maps

The tree forgotten: what is left of a file system is a map from places to entries, and a current
place. Each operation is written here once more on such a map, where it is a cascade of questions
about single places and then a change of single places. Nothing descends, nothing is ordered, and
what an operation leaves alone is plain from its last line.

A refusal is only its kind. A change is `none` where the operation finds nothing to do, which says
more than a map that happens to be the same.

Two operations ask about all names or all prefixes at once, and are decided by classical logic: a
folder may be removed when no place is one step below it, and a way may be made when no file is on
it.
-/

set_option autoImplicit false

namespace TreeShell

/-- What each place holds, and the current place. -/
structure PathMap where
  entry? : Entries
  cwd : List String

namespace PathMap

/-- What an operation on a map comes to: the kind of a refusal, or an answer and the new map if
anything changed. -/
abbrev Outcome (α : Type) := Except FileErrorKind (α × Option PathMap)

/-- The place a path names. -/
def resolve (m : PathMap) (path : String) : List String :=
  Path.resolve m.cwd path

/-- The map with another entry at one place. -/
def put (m : PathMap) (place : List String) (entry : Option Entry) : PathMap :=
  { m with entry? := Function.update m.entry? place entry }

/-- The map with a folder at every place on the way to one, and at its end. -/
def pave (m : PathMap) (place : List String) : PathMap :=
  { m with entry? := fun other => if other <+: place then some .folder else m.entry? other }

/-! ## Looking -/

/-- The text of a file. -/
def read (m : PathMap) (path : String) : Except FileErrorKind String :=
  match m.entry? (m.resolve path) with
  | some (.file content) => .ok content
  | _ => .error .notFound

/-- The names one step below a place. -/
def names (m : PathMap) (place : List String) : Set String :=
  { name | m.entry? (place ++ [name]) ≠ none }

/-- A listing of a place names each entry one step below it once, on the side of its kind. -/
structure Lists (m : PathMap) (place : List String) (listing : Listing) : Prop where
  folders_nodup : listing.folders.Nodup
  files_nodup : listing.files.Nodup
  mem_folders : ∀ name, name ∈ listing.folders ↔ m.entry? (place ++ [name]) = some .folder
  mem_files : ∀ name, name ∈ listing.files ↔ ∃ content,
    m.entry? (place ++ [name]) = some (.file content)

/-- Names are distinct across the two sides as well: a place holds one entry. -/
theorem Lists.nodup {m : PathMap} {place : List String} {listing : Listing}
    (h : m.Lists place listing) : (listing.folders ++ listing.files).Nodup := by
  refine List.nodup_append.mpr ⟨h.folders_nodup, h.files_nodup, ?_⟩
  rintro name hfolder other hfile rfl
  obtain ⟨content, hcontent⟩ := (h.mem_files name).mp hfile
  cases ((h.mem_folders name).mp hfolder).symm.trans hcontent

theorem Lists.ncard_names {m : PathMap} {place : List String} {listing : Listing}
    (h : m.Lists place listing) :
    (m.names place).ncard = listing.folders.length + listing.files.length := by
  have hnames : m.names place = ↑(listing.folders ++ listing.files).toFinset := by
    ext name
    rw [List.coe_toFinset]
    show m.entry? (place ++ [name]) ≠ none ↔ name ∈ listing.folders ++ listing.files
    rw [List.mem_append, h.mem_folders, h.mem_files]
    cases m.entry? (place ++ [name]) with
    | none => simp
    | some entry => cases entry <;> simp
  rw [hnames, Set.ncard_coe_finset, List.toFinset_card_of_nodup h.nodup, List.length_append]

/-! ## Changing -/

/-- Makes a folder the current one. -/
def changeDirectory (m : PathMap) (path : String) : Outcome Unit :=
  if m.entry? (m.resolve path) ≠ some .folder then .error .notFound
  else .ok ((), some { m with cwd := m.resolve path })

/-- Makes an empty folder in the current one. -/
def mkdir (m : PathMap) (name : String) : Outcome Unit :=
  if Path.isBareName name = false then .error .invalidName
  else if m.entry? m.cwd ≠ some .folder then .error .notFound
  else if m.entry? (m.cwd ++ [name]) ≠ none then .error .alreadyExists
  else .ok ((), some (m.put (m.cwd ++ [name]) (some .folder)))

open Classical in
/-- Removes an empty folder. -/
noncomputable def rmdir (m : PathMap) (path : String) : Outcome Unit :=
  if m.resolve path = [] then .error .invalidName
  else if m.entry? (m.resolve path) ≠ some .folder then .error .notFound
  else if (m.names (m.resolve path)).Nonempty then .error .notEmpty
  else .ok ((), some (m.put (m.resolve path) none))

/-- A file is on the way to a place, or at its end. -/
def Blocked (m : PathMap) (place : List String) : Prop :=
  ∃ way content, way ≠ [] ∧ way <+: place ∧ m.entry? way = some (.file content)

open Classical in
/-- Makes every folder along a path that is missing. -/
noncomputable def ensureDirPath (m : PathMap) (path : String) : Outcome Unit :=
  if m.Blocked (m.resolve path) then .error .alreadyExists
  else if m.entry? (m.resolve path) = some .folder then .ok ((), none)
  else .ok ((), some (m.pave (m.resolve path)))

/-- Makes a file, or replaces the text of one. -/
def write (m : PathMap) (path content : String) : Outcome Unit :=
  if m.resolve path = [] then .error .invalidName
  else if m.entry? (m.resolve path).dropLast ≠ some .folder then .error .notFound
  else if m.entry? (m.resolve path) = some .folder then .error .alreadyExists
  else .ok ((), some (m.put (m.resolve path) (some (.file content))))

/-- Removes a file. -/
def unlink (m : PathMap) (path : String) : Outcome Unit :=
  match m.entry? (m.resolve path) with
  | some (.file _) => .ok ((), some (m.put (m.resolve path) none))
  | _ => .error .notFound

/-! ## Moving -/

/-- Where an entry goes that is moved from a place to a target: into the target, under its own name,
if that is another folder. -/
def goal (m : PathMap) (place target : List String) : List String :=
  if target = place then place
  else if m.entry? target = some .folder then target ++ place.getLast?.toList
  else target

/-- The map with everything at and below a place at and below another one. The current place goes
along if it is in a folder that moves. -/
def transfer (m : PathMap) (place goal : List String) : PathMap where
  entry? other :=
    if goal <+: other then m.entry? (place ++ other.drop goal.length)
    else if place <+: other then none
    else m.entry? other
  cwd :=
    if m.entry? place = some .folder ∧ place <+: m.cwd then goal ++ m.cwd.drop place.length
    else m.cwd

/-- Moves or renames an entry, and answers its new path. -/
def move (m : PathMap) (source destination : String) : Outcome String :=
  let place := m.resolve source
  let goal := m.goal place (m.resolve destination)
  if place = [] then .error .invalidName
  else if m.entry? place = none then .error .notFound
  else if goal = place then .ok (Path.display place, none)
  else if m.entry? place = some .folder ∧ place <+: goal then .error .invalidName
  else if m.entry? goal.dropLast ≠ some .folder then .error .notFound
  else if m.entry? goal ≠ none then .error .alreadyExists
  else .ok (Path.display goal, some (m.transfer place goal))

/-- Copies a file to where a move would put it, over a file if there is one, and answers the path of
the copy. -/
def copy (m : PathMap) (source destination : String) : Outcome String :=
  let place := m.resolve source
  let goal := m.goal place (m.resolve destination)
  match m.read source with
  | .error kind => .error kind
  | .ok content =>
    if goal = place then .ok (Path.display place, none)
    else if goal = [] then .error .invalidName
    else if m.entry? goal.dropLast ≠ some .folder then .error .notFound
    else if m.entry? goal = some .folder then .error .alreadyExists
    else .ok (Path.display goal, some (m.put goal (some (.file content))))

end PathMap

end TreeShell
