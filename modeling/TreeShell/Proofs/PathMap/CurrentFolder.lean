import TreeShell.Proofs.PathMap.Move
import TreeShell.Proofs.Tree.Preservation

/-!
# The current folder stays where it is

The current place is a list of names that is kept apart from the tree. It is *anchored* while there
is a folder at it. An operation on a tree in order leaves it anchored, with one exception: a removal
of just the current folder (`anchored_after_iff`).

On the flat map of the tree each operation has its reason in one line. What is made was not there,
what is written or unlinked is no folder, and so neither is the current place; what is above it is a
folder with something in it, which cannot be removed; and a transfer takes the current place along,
because nothing but a folder is above it.
-/

set_option autoImplicit false

namespace TreeShell

namespace PathMap

variable {m next : PathMap} {place : List String} {path name content source destination : String}
  {answer : String}

/-- There is a folder at the current place. -/
def Anchored (m : PathMap) : Prop :=
  m.entry? m.cwd = some .folder

/-- What is no folder is elsewhere. -/
theorem Anchored.ne (h : m.Anchored) (hplace : m.entry? place ≠ some .folder) : place ≠ m.cwd := by
  rintro rfl
  exact hplace h

/-- A change elsewhere keeps the current place. -/
theorem Anchored.put (h : m.Anchored) (hne : place ≠ m.cwd) (entry : Option Entry) :
    (m.put place entry).Anchored := by
  show Function.update m.entry? place entry m.cwd = some .folder
  rw [Function.update_of_ne (Ne.symm hne)]
  exact h

/-- On a map that comes from a tree, folders are all that is above the current place. -/
theorem Anchored.folder_above (h : m.Anchored) (hm : m.entry?.Closed) (hplace : place <+: m.cwd) :
    m.entry? place = some .folder := by
  have hcwd : m.entry? m.cwd = some .folder := h
  by_cases heq : place = m.cwd
  · rw [heq, hcwd]
  · exact hm.folder_of_below hplace heq (by simp [hcwd])

/-! ## Each operation -/

theorem anchored_of_changeDirectory (h : m.changeDirectory path = .ok ((), some next)) :
    next.Anchored := by
  unfold changeDirectory at h
  split_ifs at h with hfolder
  cases h
  exact not_not.mp hfolder

theorem Anchored.mkdir (h : m.Anchored) (hnext : m.mkdir name = .ok ((), some next)) :
    next.Anchored := by
  unfold PathMap.mkdir at hnext
  split_ifs at hnext with hbare hcwd hfree
  cases hnext
  exact h.put (h.ne (by simp [not_not.mp hfree])) _

/-- A removal takes away the current folder or keeps it. -/
theorem Anchored.rmdir (h : m.Anchored) (hnext : m.rmdir path = .ok ((), some next)) :
    next.Anchored ↔ m.resolve path ≠ m.cwd := by
  unfold PathMap.rmdir at hnext
  split_ifs at hnext with hroot hfolder hnames
  cases hnext
  constructor
  · intro hkept heq
    have hgone : Function.update m.entry? (m.resolve path) none m.cwd = some .folder := hkept
    rw [heq, Function.update_self] at hgone
    cases hgone
  · exact fun hne => h.put hne _

theorem Anchored.ensureDirPath (h : m.Anchored) (hnext : m.ensureDirPath path = .ok ((), some next)) :
    next.Anchored := by
  unfold PathMap.ensureDirPath at hnext
  split_ifs at hnext with hblocked hthere
  · cases hnext
  · cases hnext
    have hcwd : m.entry? m.cwd = some .folder := h
    show (if m.cwd <+: m.resolve path then some .folder else m.entry? m.cwd) = some .folder
    rw [hcwd, ite_self]

theorem Anchored.write (h : m.Anchored) (hnext : m.write path content = .ok ((), some next)) :
    next.Anchored := by
  unfold PathMap.write at hnext
  split_ifs at hnext with hroot hparent hfolder
  cases hnext
  exact h.put (h.ne hfolder) _

theorem Anchored.unlink (h : m.Anchored) (hnext : m.unlink path = .ok ((), some next)) :
    next.Anchored := by
  unfold PathMap.unlink at hnext
  split at hnext
  · rename_i hfile
    cases hnext
    exact h.put (h.ne (by simp [hfile])) _
  · cases hnext

/-- The current place goes along with a folder around it, and is apart from everything else that
moves. -/
theorem Anchored.move (h : m.Anchored) (hm : m.entry?.Closed)
    (hnext : m.move source destination = .ok (answer, some next)) : next.Anchored := by
  have htransferred := transferred_of_move hm hnext
  obtain ⟨place, goal, hplace, hgoal, -, -, -, -, hfree, -⟩ := move_eq_transfer hnext
  rw [← hplace, ← hgoal] at htransferred
  by_cases hwithin : place <+: m.cwd
  · have hfolder := h.folder_above hm hwithin
    obtain ⟨more, hmore⟩ := hwithin
    have hcwd := htransferred.cwd_along more hfolder hmore.symm
    unfold Anchored
    rw [hcwd, htransferred.arrived, hmore]
    exact h
  · have hcwd := htransferred.cwd_kept fun _ => hwithin
    have hapart : ¬ goal <+: m.cwd := fun habove => by
      cases hfree.symm.trans (h.folder_above hm habove)
    unfold Anchored
    rw [hcwd, htransferred.kept m.cwd hwithin hapart]
    exact h

end PathMap

namespace Snapshot

variable {s : Snapshot}

/-- The current folder is there. -/
def Anchored (s : Snapshot) : Prop :=
  (s.folderAt? s.cwd).isSome = true

instance (s : Snapshot) : Decidable s.Anchored :=
  inferInstanceAs (Decidable (_ = true))

/-- An operation removes the current folder: it is a removal of just that place, and not refused. -/
def RemovesCwd (s : Snapshot) : Operation → Prop
  | .rmdir path => s.resolve path = s.cwd ∧ ∃ step, s.rmdir path = .ok step
  | _ => False

/-- A run in which no operation removes the folder that is current then. -/
def KeepsCwd : Snapshot → List Operation → Prop
  | _, [] => True
  | s, operation :: rest => ¬ s.RemovesCwd operation ∧ (s.after operation).KeepsCwd rest

theorem anchored_fresh : fresh.Anchored := rfl

theorem anchored_paths : s.paths.Anchored ↔ s.Anchored := by
  unfold PathMap.Anchored Anchored
  rw [entry?_paths, cwd_paths, entryAt?_eq_folder_iff, Option.isSome_iff_exists]

/-- An attempt keeps the current folder if the map it leads to, if any, does. -/
theorem Anchored.settle {α : Type} (h : s.Anchored) {attempt : Attempt α}
    (hnext : ∀ answer next, outcome attempt = .ok (answer, some next) → next.Anchored) :
    (s.settle attempt).Anchored := by
  cases attempt with
  | error reason => exact h
  | ok step =>
    obtain ⟨answer, next?⟩ := step
    cases next? with
    | none => exact h
    | some next => exact anchored_paths.mp (hnext answer next.paths rfl)

theorem Anchored.write (h : s.Anchored) (path content : String) :
    (s.settle (s.write path content)).Anchored := by
  refine h.settle fun answer next hnext => ?_
  rw [write_refines] at hnext
  exact (anchored_paths.mpr h).write hnext

theorem Anchored.copy (h : s.Anchored) (source destination : String) :
    (s.settle (s.copy source destination)).Anchored := by
  unfold Snapshot.copy
  cases s.read source with
  | error reason => exact h
  | ok content =>
    dsimp only
    generalize (if s.isFolder destination then _ else destination) = target
    split
    · exact h
    · rw [settle_map]
      · exact h.write target content
      · exact fun _ => rfl

/-- A removal that succeeds is one of another folder, or leaves the current place without one. -/
theorem Anchored.rmdir_iff (h : s.Anchored) (hs : s.WellFormed) (path : String) :
    (s.settle (s.rmdir path)).Anchored ↔ ¬ s.RemovesCwd (.rmdir path) := by
  have hrefines := rmdir_refines hs path
  have hremoves : s.RemovesCwd (.rmdir path) ↔
      s.resolve path = s.cwd ∧ ∃ step, s.rmdir path = .ok step := Iff.rfl
  rw [hremoves]
  cases hattempt : s.rmdir path with
  | error reason => simpa [Snapshot.settle] using h
  | ok step =>
    obtain ⟨answer, next?⟩ := step
    rw [hattempt] at hrefines
    cases next? with
    | none =>
      -- The map knows of no removal that succeeds and changes nothing.
      have hnothing : s.paths.rmdir path = .ok ((), none) := hrefines.symm
      unfold PathMap.rmdir at hnothing
      split_ifs at hnothing
      cases hnothing
    | some next =>
      have hiff := (anchored_paths.mpr h).rmdir hrefines.symm
      rw [anchored_paths] at hiff
      simpa [Snapshot.settle] using hiff

/-- **Only a removal of the current folder takes it away.** -/
theorem anchored_after_iff (hs : s.WellFormed) (h : s.Anchored) (operation : Operation) :
    (s.after operation).Anchored ↔ ¬ s.RemovesCwd operation := by
  have hpaths := anchored_paths.mpr h
  cases operation with
  | rmdir path => exact h.rmdir_iff hs path
  | changeDirectory path =>
    refine iff_of_true (h.settle fun answer next hnext => ?_) id
    rw [attempt, changeDirectory_refines] at hnext
    exact PathMap.anchored_of_changeDirectory hnext
  | mkdir name =>
    refine iff_of_true (h.settle fun answer next hnext => ?_) id
    rw [attempt, mkdir_refines] at hnext
    exact hpaths.mkdir hnext
  | ensureDirPath path =>
    refine iff_of_true (h.settle fun answer next hnext => ?_) id
    rw [attempt, ensureDirPath_refines] at hnext
    exact hpaths.ensureDirPath hnext
  | write path content => exact iff_of_true (h.write path content) id
  | unlink path =>
    refine iff_of_true (h.settle fun answer next hnext => ?_) id
    rw [attempt, unlink_refines hs] at hnext
    exact hpaths.unlink hnext
  | move source destination =>
    refine iff_of_true ?_ id
    rw [after, attempt, settle_map]
    · refine h.settle fun answer next hnext => ?_
      rw [move_refines hs] at hnext
      exact hpaths.move s.root.closed_entryAt? hnext
    · exact fun _ => rfl
  | copy source destination =>
    refine iff_of_true ?_ id
    rw [after, attempt, settle_map]
    · exact h.copy source destination
    · exact fun _ => rfl
  | reset => exact iff_of_true anchored_fresh id
  | save => exact iff_of_true h id

/-- A run that removes no current folder ends in one that is there. -/
theorem Anchored.run (h : s.Anchored) (hs : s.WellFormed) {operations : List Operation}
    (hkeeps : s.KeepsCwd operations) : (s.run operations).Anchored := by
  induction operations generalizing s with
  | nil => exact h
  | cons operation rest ih =>
    obtain ⟨hfirst, hrest⟩ := hkeeps
    exact ih ((anchored_after_iff hs h operation).mpr hfirst) (hs.after operation) hrest

theorem KeepsCwd.of_prefix {earlier operations : List Operation} (h : s.KeepsCwd operations)
    (hearlier : earlier <+: operations) : s.KeepsCwd earlier := by
  induction earlier generalizing s operations with
  | nil => trivial
  | cons operation rest ih =>
    obtain ⟨more, rfl⟩ := hearlier
    exact ⟨h.1, ih h.2 (List.prefix_append rest more)⟩

end Snapshot

namespace FileSystem

/-- **The current folder is there after every step** of a run that starts fresh, or from a tree in
order with its current folder there, and in which no removal of the current folder succeeds. And
nothing else can take it away: whatever comes next, the current folder is there afterwards unless it
was just that folder that was removed. -/
theorem anchored_run {files : FileSystem}
    (h : files.snapshot = .fresh ∨ files.snapshot.WellFormed ∧ files.snapshot.Anchored)
    {operations : List Operation} (hkeeps : files.snapshot.KeepsCwd operations) :
    (∀ earlier, earlier <+: operations → (files.run earlier).snapshot.Anchored) ∧
      ∀ operation, ((files.run operations).perform operation).2.snapshot.Anchored ↔
        ¬ (files.run operations).snapshot.RemovesCwd operation := by
  have hstart : files.snapshot.WellFormed ∧ files.snapshot.Anchored := by
    rcases h with h | h
    · rw [h]
      exact ⟨Snapshot.wellFormed_fresh, Snapshot.anchored_fresh⟩
    · exact h
  obtain ⟨hs, hanchored⟩ := hstart
  refine ⟨fun earlier hearlier => ?_, fun operation => ?_⟩
  · rw [snapshot_run]
    exact hanchored.run hs (hkeeps.of_prefix hearlier)
  · rw [snapshot_perform, snapshot_run]
    exact Snapshot.anchored_after_iff (hs.run operations) (hanchored.run hs hkeeps) operation

/-- A current folder below another one. -/
def campFiles : FileSystem :=
  let tree : Folder := ⟨"/", [⟨"home", [⟨"camp", [], []⟩], []⟩, ⟨"attic", [], []⟩], []⟩
  ⟨⟨tree, ["home", "camp"]⟩, some .empty, "tree"⟩

/-- The folder around the current one moves, a removal of it is refused, and another folder is
removed; then the current one can be removed after all. -/
theorem anchored_run_campFiles :
    (∀ earlier, earlier <+: [.move "/home" "/attic", .rmdir "..", .mkdir "hut", .rmdir "hut"] →
      (campFiles.run earlier).snapshot.Anchored) ∧
    ¬ ((campFiles.run [.move "/home" "/attic", .rmdir "..", .mkdir "hut", .rmdir "hut"]).perform
      (.rmdir ".")).2.snapshot.Anchored := by
  have hrun := @anchored_run campFiles (Or.inr (by decide))
    [.move "/home" "/attic", .rmdir "..", .mkdir "hut", .rmdir "hut"]
    ⟨id, fun h => absurd h.1 (by decide), id, fun h => absurd h.1 (by decide), trivial⟩
  exact ⟨hrun.1, fun h => (hrun.2 _).mp h ⟨rfl, ⟨(), some _⟩, rfl⟩⟩

end FileSystem

end TreeShell
