import TreeShell.Proofs.PathMap.Refinement
import TreeShell.Proofs.Walk.Traversal

/-!
# A walk is a traversal

A walk is done with a stack. An entry is taken from it and met; if it is a folder above the limit,
the folder at its place is looked up once more, and what is in it is pushed: its files, then its
folders, both from the last name to the first (`unfolded`). `Walks` is the loop, as the relation
between a stack and what is met until the stack is empty; it relates nothing to a stack on which the
loop goes on for ever.

`walks_traversal` is the invariant of the loop. A folder on top of a stack is worked off first,
whatever is under it, and what is met meanwhile is the traversal of the folder. `Snapshot.walk`
counts rounds instead of watching the stack; it comes to the same because the rounds are enough.
-/

set_option autoImplicit false

namespace TreeShell

/-! ## Two ways to sort -/

namespace Text

/-- The strings in descending order of code points; equal strings keep their places. -/
def descending (names : List String) : List String :=
  names.mergeSort fun a b => !decide (a < b)

theorem pairwise_mergeSort_not (lt : String → String → Prop) [DecidableRel lt]
    (htrans : ∀ a b c, ¬ lt b a → ¬ lt c b → ¬ lt c a) (htotal : ∀ a b, ¬ lt b a ∨ ¬ lt a b)
    (names : List String) :
    (names.mergeSort fun a b => !decide (lt b a)).Pairwise fun a b => ¬ lt b a := by
  have hsorted : (names.mergeSort fun a b => !decide (lt b a)).Pairwise
      fun a b => (!decide (lt b a)) = true :=
    List.pairwise_mergeSort (by simpa using htrans) (by simpa using htotal) names
  simpa using hsorted

theorem pairwise_sorted (names : List String) : (sorted names).Pairwise fun a b => ¬ b < a := by
  refine pairwise_mergeSort_not (· < ·) (fun a b c hab hbc => ?_) (fun a b => ?_) names
  · rw [String.not_lt] at hab hbc ⊢
    exact String.le_trans hab hbc
  · rw [String.not_lt, String.not_lt]
    exact String.le_total a b

theorem pairwise_descending (names : List String) :
    (descending names).Pairwise fun a b => ¬ a < b := by
  refine pairwise_mergeSort_not (fun a b => b < a) (fun a b c hab hbc => ?_) (fun a b => ?_) names
  · rw [String.not_lt] at hab hbc ⊢
    exact String.le_trans hbc hab
  · rw [String.not_lt, String.not_lt]
    exact String.le_total b a

/-- Equal names cannot be told apart, so it does not matter that both sorts keep their order. -/
theorem reverse_descending (names : List String) : (descending names).reverse = sorted names := by
  have hperm : (descending names).reverse.Perm (sorted names) :=
    (List.reverse_perm _).trans ((List.mergeSort_perm _ _).trans (List.mergeSort_perm _ _).symm)
  have hantisymm : ∀ a b, a ∈ (descending names).reverse → b ∈ sorted names →
      ¬ b < a → ¬ a < b → a = b := fun a b _ _ hba hab =>
    String.le_antisymm (String.not_lt.mp hba) (String.not_lt.mp hab)
  exact hperm.eq_of_pairwise hantisymm (List.pairwise_reverse.mpr (pairwise_descending names))
    (pairwise_sorted names)

end Text

namespace Snapshot

variable {s : Snapshot} {limit : Option Nat} {stack met : List WalkEntry} {place : List String}
  {depth : Nat}

/-! ## The loop -/

/-- A stack, its top first, after some entries were pushed one after another. -/
def pushed (entries stack : List WalkEntry) : List WalkEntry :=
  entries.foldl (fun stack entry => entry :: stack) stack

/-- A stack after an entry was taken from it and met. -/
def unfolded (s : Snapshot) (limit : Option Nat) (entry : WalkEntry) (stack : List WalkEntry) :
    List WalkEntry :=
  if entry.kind = .folder ∧ limit.all (entry.depth < ·) then
    match s.folderAt? entry.place with
    | some folder =>
      pushed ((Text.descending (folder.folders.map Folder.name)).map fun name =>
          ⟨entry.place ++ [name], .folder, entry.depth + 1⟩)
        (pushed ((Text.descending (folder.files.map File.name)).map fun name =>
          ⟨entry.place ++ [name], .file, entry.depth + 1⟩) stack)
    | none => stack
  else stack

/-- What the loop over a stack meets until the stack is empty. -/
inductive Walks (s : Snapshot) (limit : Option Nat) : List WalkEntry → List WalkEntry → Prop
  | done : Walks s limit [] []
  | round {entry : WalkEntry} {stack met : List WalkEntry}
      (h : Walks s limit (s.unfolded limit entry stack) met) :
      Walks s limit (entry :: stack) (entry :: met)

theorem pushed_descending (names : List String) (entry : String → WalkEntry)
    (stack : List WalkEntry) :
    pushed ((Text.descending names).map entry) stack = (Text.sorted names).map entry ++ stack := by
  rw [← Text.reverse_descending, List.map_reverse]
  simp [pushed]

theorem unfolded_eq (s : Snapshot) (limit : Option Nat) (entry : WalkEntry)
    (stack : List WalkEntry) :
    s.unfolded limit entry stack =
      (if entry.kind = .folder && !walkStops (limit.map Nat.cast) entry.depth then
        ((s.folderAt? entry.place).map (walkChildren entry.place entry.depth)).getD []
      else []) ++ stack := by
  have hgoes : (entry.kind = .folder ∧ limit.all (entry.depth < ·)) ↔
      (entry.kind = .folder && !walkStops (limit.map Nat.cast) entry.depth) = true := by
    cases limit <;> simp [walkStops]
  rw [unfolded]
  simp only [hgoes]
  split
  · cases s.folderAt? entry.place with
    | none => rfl
    | some folder =>
      simp only [pushed_descending, Option.map_some, Option.getD_some, walkChildren,
        List.append_assoc]
  · rfl

theorem walkPending_of_walks (h : s.Walks limit stack met) {rounds : Nat}
    (hrounds : met.length ≤ rounds) : s.walkPending (limit.map Nat.cast) rounds stack = met := by
  induction h generalizing rounds with
  | done => cases rounds <;> rfl
  | @round entry stack met _ ih =>
    cases rounds with
    | zero => exact absurd hrounds (by simp)
    | succ rounds =>
      rw [walkPending, ← unfolded_eq, ih (Nat.le_of_succ_le_succ hrounds)]

/-! ## What the loop meets -/

theorem unfolded_file (s : Snapshot) (limit : Option Nat) (place : List String) (depth : Nat)
    (stack : List WalkEntry) : s.unfolded limit ⟨place, .file, depth⟩ stack = stack :=
  if_neg fun h => nomatch h.1

theorem unfolded_at_limit (h : limit.all (depth < ·) ≠ true) (kind : NodeKind) :
    s.unfolded limit ⟨place, kind, depth⟩ stack = stack :=
  if_neg fun hgoes => h hgoes.2

theorem unfolded_folder {folder : Folder} (hfolder : s.folderAt? place = some folder)
    (hbelow : limit.all (depth < ·) = true) (stack : List WalkEntry) :
    s.unfolded limit ⟨place, .folder, depth⟩ stack =
      (folder.foldersInOrder.map fun child =>
        ⟨place ++ [child.name], .folder, depth + 1⟩) ++
        (folder.fileEntries place (depth + 1) ++ stack) := by
  rw [unfolded, if_pos ⟨rfl, hbelow⟩]
  dsimp only
  rw [hfolder]
  simp only [pushed_descending, ← Folder.names_foldersInOrder, ← Folder.names_filesInOrder,
    List.map_map, Folder.fileEntries, Function.comp_def]

theorem walks_files (h : s.Walks limit stack met) (place : List String) (depth : Nat)
    (files : List File) :
    s.Walks limit ((files.map fun file => ⟨place ++ [file.name], .file, depth⟩) ++ stack)
      ((files.map fun file => ⟨place ++ [file.name], .file, depth⟩) ++ met) := by
  induction files with
  | nil => exact h
  | cons file rest ih =>
    refine .round ?_
    rw [unfolded_file]
    exact ih

/-- The place is what the stack keeps of a folder; that it leads back to the folder needs distinct
names on the way. -/
theorem walks_traversal {folder : Folder} (h : folder.WellFormed)
    (hfolder : s.folderAt? place = some folder) (hrest : s.Walks limit stack met) :
    s.Walks limit (⟨place, .folder, depth⟩ :: stack)
      (folder.traversal limit place depth ++ met) := by
  induction h generalizing place depth stack met with
  | @intro folder tidy children ih =>
    rw [Folder.traversal_eq, List.cons_append]
    refine .round ?_
    by_cases hbelow : limit.all (depth < ·) = true
    · rw [unfolded_folder hfolder hbelow, if_pos hbelow, List.append_assoc]
      have hfiles := walks_files hrest place (depth + 1) folder.filesInOrder
      have hwaiting : ∀ child ∈ folder.foldersInOrder, child ∈ folder.folders :=
        fun child => Folder.mem_foldersInOrder.mp
      -- An inner induction on the folders that wait: each is worked off over those after it.
      generalize folder.foldersInOrder = waiting at hwaiting ⊢
      induction waiting with
      | nil => exact hfiles
      | cons child others ihothers =>
        obtain ⟨hchild, hothers⟩ := List.forall_mem_cons.mp hwaiting
        have hplace : s.folderAt? (place ++ [child.name]) = some child := by
          rw [folderAt?_concat, hfolder]
          exact tidy.folder?_of_mem hchild
        rw [List.flatMap_cons, List.append_assoc]
        exact ih child hchild hplace (ihothers hothers)
    · rw [unfolded_at_limit hbelow, if_neg hbelow]
      exact hrest

/-! ## What a walk answers -/

/-- What is at and below a place, in the order of a traversal. -/
def traversal (s : Snapshot) (limit : Option Nat) (place : List String) : List WalkEntry :=
  match s.nodeAt? place with
  | some (.folder folder) => folder.traversal limit place 0
  | some (.file _) => [⟨place, .file, 0⟩]
  | none => []

/-- The entries are those at and below a place within a limit, each with its kind and its distance
from there, and none stands after one that is below it or is the same. -/
structure Enumerates (s : Snapshot) (limit : Option Nat) (place : List String)
    (entries : List WalkEntry) : Prop where
  mem_iff : ∀ entry, entry ∈ entries ↔ ∃ below,
    entry.place = place ++ below ∧ entry.depth = below.length ∧
      (∀ most ∈ limit, below.length ≤ most) ∧
      (s.paths.entry? entry.place).map Entry.kind = some entry.kind
  apart : entries.Pairwise fun a b => ¬ b.place <+: a.place

theorem traversal_of_folder {folder : Folder} (hfolder : s.folderAt? place = some folder)
    (hfile : s.fileAt? place = none) :
    s.traversal limit place = folder.traversal limit place 0 := by
  rw [traversal, nodeAt?, hfile, hfolder]
  rfl

theorem traversal_of_file {file : File} (hfile : s.fileAt? place = some file) :
    s.traversal limit place = [⟨place, .file, 0⟩] := by
  rw [traversal, nodeAt?, hfile]

theorem enumerates_folder {folder : Folder} (hs : s.WellFormed) (limit : Option Nat)
    (hfolder : s.folderAt? place = some folder) :
    s.Enumerates limit place (folder.traversal limit place 0) := by
  have hwell := hs.root.descend? hfolder
  have hstart : ∀ most ∈ limit, 0 ≤ most := fun most _ => Nat.zero_le most
  refine ⟨fun entry => ⟨fun hentry => ?_, ?_⟩, Folder.pairwise_traversal hwell hstart⟩
  · obtain ⟨below, hbelow, hdepth, hreach, hkind⟩ :=
      Folder.entry_of_mem_traversal hwell hstart hentry
    rw [Nat.zero_add] at hdepth hreach
    refine ⟨below, hbelow, hdepth, hreach, ?_⟩
    rw [entry?_paths, hbelow, Folder.entryAt?_append hfolder, hkind]
  · rintro ⟨below, hbelow, hdepth, hreach, hkind⟩
    obtain ⟨held, hheld, hkind⟩ := Option.map_eq_some_iff.mp hkind
    rw [entry?_paths, hbelow, Folder.entryAt?_append hfolder] at hheld
    obtain ⟨_, _, _⟩ := entry
    subst hbelow hdepth hkind
    have hmem : ⟨place ++ below, held.kind, 0 + below.length⟩ ∈ folder.traversal limit place 0 :=
      Folder.mem_traversal (by rwa [Nat.zero_add]) hheld
    rwa [Nat.zero_add] at hmem

theorem enumerates_file {content : String} (limit : Option Nat)
    (hentry : s.root.entryAt? place = some (.file content)) :
    s.Enumerates limit place [⟨place, .file, 0⟩] := by
  refine ⟨fun entry => ?_, List.pairwise_singleton _ _⟩
  rw [List.mem_singleton]
  constructor
  · rintro rfl
    exact ⟨[], (List.append_nil place).symm, rfl, fun most _ => Nat.zero_le most,
      by rw [entry?_paths, hentry]; rfl⟩
  · rintro ⟨below, hbelow, hdepth, -, hkind⟩
    -- Nothing is below a file, so the way from it is empty.
    cases below with
    | nil =>
      rw [List.append_nil] at hbelow
      obtain ⟨_, _, _⟩ := entry
      subst hbelow hdepth
      rw [entry?_paths, hentry] at hkind
      cases hkind
      rfl
    | cons name rest =>
      have hnone : s.root.entryAt? (place ++ name :: rest) = none :=
        nothing_below (by rw [hentry]; simp) name rest
      rw [entry?_paths, hbelow, hnone] at hkind
      cases hkind

theorem enumerates_traversal (hs : s.WellFormed) (limit : Option Nat)
    (hplace : s.paths.entry? place ≠ none) :
    s.Enumerates limit place (s.traversal limit place) := by
  cases hs.found place with
  | folder hfolder hfile _ =>
    rw [traversal_of_folder hfolder hfile]
    exact enumerates_folder hs limit hfolder
  | file _ hfile hentry =>
    rw [traversal_of_file hfile]
    exact enumerates_file limit hentry
  | nothing _ _ hentry => exact absurd hentry hplace

theorem walks_of_entry (hs : s.WellFormed) (limit : Option Nat) {start : Entry}
    (hstart : s.paths.entry? place = some start) :
    s.Walks limit [⟨place, start.kind, 0⟩] (s.traversal limit place) := by
  rw [entry?_paths] at hstart
  cases hs.found place with
  | @folder folder hfolder hfile hentry =>
    cases hstart.symm.trans hentry
    rw [traversal_of_folder hfolder hfile, ← List.append_nil (folder.traversal limit place 0)]
    exact walks_traversal (hs.root.descend? hfolder) hfolder .done
  | @file file _ hfile hentry =>
    cases hstart.symm.trans hentry
    rw [traversal_of_file hfile]
    refine .round ?_
    rw [show Entry.kind (.file file.content) = .file from rfl, unfolded_file]
    exact .done
  | nothing _ _ hentry => cases hstart.symm.trans hentry

theorem walk_eq_traversal (hs : s.WellFormed) {path : String} (limit : Option Nat)
    (hpath : s.paths.entry? (s.resolve path) ≠ none) :
    s.walk path (limit.map Nat.cast) = .ok (s.traversal limit (s.resolve path)) := by
  obtain ⟨start, hstart⟩ := Option.ne_none_iff_exists'.mp hpath
  have hwalks := walks_of_entry hs limit hstart
  rw [walk]
  cases hs.found (s.resolve path) with
  | @folder folder hfolder hfile hentry =>
    cases hstart.symm.trans hentry
    have hlength : (folder.traversal limit (s.resolve path) 0).length ≤ folder.span :=
      Folder.length_traversal_le (hs.root.descend? hfolder)
    rw [← traversal_of_folder hfolder hfile] at hlength
    rw [hfolder]
    exact congrArg Except.ok (walkPending_of_walks hwalks hlength)
  | @file file hfolder hfile hentry =>
    rw [hfolder, hfile, traversal_of_file hfile]
    rfl
  | nothing _ _ hentry => exact absurd hentry hpath

/-- **A walk is the traversal of what its path names**: the loop over the stack comes to an end, has
met the entries of the traversal in their order, and these are all that is at or below the place
within the limit. -/
theorem walk_enumerates (hs : s.WellFormed) (path : String) (limit : Option Nat) :
    (s.paths.entry? (s.resolve path) = none →
      s.walk path (limit.map Nat.cast) = .error (.cannotWalk path) ∧
        (FileError.cannotWalk path).kind = .notFound) ∧
      ∀ start, s.paths.entry? (s.resolve path) = some start →
        s.Walks limit [⟨s.resolve path, start.kind, 0⟩] (s.traversal limit (s.resolve path)) ∧
          s.walk path (limit.map Nat.cast) = .ok (s.traversal limit (s.resolve path)) ∧
          s.Enumerates limit (s.resolve path) (s.traversal limit (s.resolve path)) := by
  constructor
  · intro hnone
    refine ⟨?_, rfl⟩
    rw [walk]
    cases hs.found (s.resolve path) with
    | folder _ _ hentry => cases hnone.symm.trans hentry
    | file _ _ hentry => cases hnone.symm.trans hentry
    | nothing hfolder hfile _ =>
      rw [hfolder, hfile]
      rfl
  · intro start hstart
    have hsome : s.paths.entry? (s.resolve path) ≠ none := by rw [hstart]; simp
    exact ⟨walks_of_entry hs limit hstart, walk_eq_traversal hs limit hsome,
      enumerates_traversal hs limit hsome⟩

/-- The file is as deep as this walk goes. -/
theorem walk_enumerates_workshop : ∃ entries, workshop.walk ".." (some 2) = .ok entries ∧
    ⟨["home", "notes", "todo"], .file, 2⟩ ∈ entries := by
  have hplace : workshop.resolve ".." = ["home"] := by decide
  obtain ⟨-, hwalk, hentries⟩ :=
    (walk_enumerates (s := workshop) (by decide) ".." (some 2)).2 .folder (by decide)
  refine ⟨_, hwalk, (hentries.mem_iff _).mpr ⟨["notes", "todo"], ?_, rfl, ?_, rfl⟩⟩
  · rw [hplace]
    rfl
  · decide

end Snapshot

end TreeShell
