import TreeShell.Proofs.Path.Resolution
import TreeShell.Proofs.PathMap.Refinement

/-!
# Copying, completely

A copy into a folder needs a name, and takes it from the text of the source: its last piece that is
not empty. Where that piece is a name, it is also the last segment of the place the source is at
(`getLast?_resolve`), and the copy goes where a move would put the file (`copy_refines`).

A last piece `.` or `..` is no name, though the path may well lead to a file. Joined to the folder
it leads to the folder itself or to one above it (`resolve_basename_prefix`), and there no file can
be written: such a copy is refused, where a move goes through.
-/

set_option autoImplicit false

namespace TreeShell

namespace Path

variable {path : String}

theorem resolve_eq_foldl_segments (cwd : List String) (path : String) :
    resolve cwd path = (segments path).foldl step (if isAbsolute path then [] else cwd) := by
  rw [segments, foldl_step_filter, resolve]

/-- A path without segments stays or goes to the root; another one ends with its last piece. -/
theorem basename_cases (path : String) :
    (segments path = [] ∧ basename path = path) ∨
      ∃ before, segments path = before ++ [basename path] := by
  unfold basename
  rcases List.eq_nil_or_concat' (segments path) with hnil | ⟨before, last, hlast⟩
  · exact .inl ⟨hnil, by rw [hnil]; rfl⟩
  · exact .inr ⟨before, by rw [hlast, List.getLast?_concat]; rfl⟩

/-- A path whose last piece is a name ends there. -/
theorem getLast?_resolve (h : IsName (basename path)) (cwd : List String) :
    (resolve cwd path).getLast? = some (basename path) := by
  rcases basename_cases path with ⟨hnil, hbase⟩ | ⟨before, hlast⟩
  · rw [hbase] at h
    have hpath : path ∈ segments path := by
      rw [segments, Text.split_of_not_mem h.2.1]
      simpa using h.1
    rw [hnil] at hpath
    exact absurd hpath List.not_mem_nil
  · rw [resolve_eq_foldl_segments, hlast, List.foldl_append, List.foldl_cons, List.foldl_nil,
      step_of_isName h, List.getLast?_concat]

/-- The last piece of a path leads nowhere below if it is no name. -/
theorem resolve_basename_prefix (h : ¬ IsName (basename path)) (place : List String) :
    resolve place (basename path) <+: place := by
  rcases basename_cases path with ⟨hnil, hbase⟩ | ⟨before, hlast⟩
  · rw [hbase, resolve_eq_foldl_segments, hnil, List.foldl_nil]
    split
    · exact List.nil_prefix
    · exact List.prefix_rfl
  · have hmem : basename path ∈ segments path := by simp [hlast]
    obtain ⟨hpiece, hempty⟩ : basename path ∈ Text.split '/' path ∧ basename path ≠ "" := by
      simpa [segments] using hmem
    have hdots : basename path = "." ∨ basename path = ".." := by
      by_contra hname
      rw [not_or] at hname
      exact h ⟨hempty, Text.not_mem_of_mem_split hpiece, hname⟩
    rcases hdots with hdot | hdots
    · rw [hdot]
      exact List.prefix_rfl
    · rw [hdots]
      exact List.dropLast_prefix place

/-- An entry after a written place is read from there. -/
theorem resolve_join_display {place : List String} (h : AreNames place) (entry : String)
    (cwd : List String) : resolve cwd (join (display place) entry) = resolve place entry := by
  rw [join, normalize, segments_display h, resolve_display_of_areNames (areNames_resolve h entry)]

end Path

namespace PathMap

variable {m next : PathMap} {source destination answer : String}

/-- What a copy does to each place, and to the current one. -/
structure Deposited (m next : PathMap) (goal : List String) (content : String) : Prop where
  arrived : next.entry? goal = some (.file content)
  kept : ∀ other, other ≠ goal → next.entry? other = m.entry? other
  cwd_kept : next.cwd = m.cwd

theorem deposited_of_copy (h : m.copy source destination = .ok (answer, some next)) :
    ∃ content, m.entry? (m.resolve source) = some (.file content) ∧
      m.goal (m.resolve source) (m.resolve destination) ≠ m.resolve source ∧
      m.Deposited next (m.goal (m.resolve source) (m.resolve destination)) content := by
  unfold copy at h
  dsimp only at h
  split at h
  · cases h
  · rename_i content hread
    split_ifs at h with hself
    · cases h
    · cases h
      refine ⟨content, ?_, hself, Function.update_self _ _ _,
        fun other hother => Function.update_of_ne hother _ _, rfl⟩
      unfold read at hread
      split at hread
      · rename_i hentry
        cases hread
        exact hentry
      · cases hread

end PathMap

namespace Snapshot

variable {s : Snapshot} {source destination content : String} {place : List String}

theorem outcome_map {α β : Type} (attempt : Attempt α) (answer : β) :
    outcome (attempt.map fun step => ⟨answer, step.next?⟩) =
      (outcome attempt).map fun result => (answer, result.2) := by
  cases attempt <;> rfl

theorem entry?_of_read (hs : s.WellFormed) (h : s.read source = .ok content) :
    s.paths.entry? (s.resolve source) = some (.file content) := by
  have hread := read_refines hs source
  rw [h, PathMap.read, resolve_paths] at hread
  split at hread
  · rename_i hentry
    cases hread
    exact hentry
  · cases hread

/-- Where a copy is written: beside what a folder holds, or at the destination. -/
def copyTarget (s : Snapshot) (source destination : String) : String :=
  if s.isFolder destination then
    Path.join (Path.normalize s.cwdPath destination) (Path.basename source)
  else destination

theorem copy_of_read (h : s.read source = .ok content) (destination : String) :
    s.copy source destination =
      if s.resolve (s.copyTarget source destination) = s.resolve source then
        .ok ⟨Path.display (s.resolve source), none⟩
      else
        (s.write (s.copyTarget source destination) content).map fun step =>
          ⟨Path.display (s.resolve (s.copyTarget source destination)), step.next?⟩ := by
  rw [copy, h]
  rfl

theorem resolve_copyTarget_folder (hs : s.WellFormed)
    (h : s.paths.entry? (s.resolve destination) = some .folder) (source : String) :
    s.resolve (s.copyTarget source destination) =
      Path.resolve (s.resolve destination) (Path.basename source) := by
  rw [copyTarget, if_pos ((s.isFolder_iff destination).mpr h), cwdPath, Path.normalize,
    Path.segments_display hs.cwd]
  exact Path.resolve_join_display (hs.resolve destination) _ _

theorem resolve_copyTarget (hs : s.WellFormed)
    (hname : s.paths.entry? (s.resolve destination) = some .folder →
      Path.IsName (Path.basename source))
    (hfile : s.paths.entry? (s.resolve source) ≠ some .folder) :
    s.resolve (s.copyTarget source destination) =
      s.paths.goal (s.resolve source) (s.resolve destination) := by
  by_cases hfolder : s.paths.entry? (s.resolve destination) = some .folder
  · have hne : s.resolve destination ≠ s.resolve source := fun heq => hfile (heq ▸ hfolder)
    have hlast := Path.getLast?_resolve (hname hfolder) s.cwd
    rw [resolve_copyTarget_folder hs hfolder, Path.resolve_name (hname hfolder), PathMap.goal,
      if_neg hne, if_pos hfolder]
    show _ = _ ++ (Path.resolve s.cwd source).getLast?.toList
    rw [hlast]
    rfl
  · have hnot : ¬ s.isFolder destination = true := fun h => hfolder ((s.isFolder_iff _).mp h)
    rw [copyTarget, if_neg hnot, PathMap.goal, if_neg hfolder]
    split
    · assumption
    · rfl

/-- A copy agrees with the copy of the map, unless it goes into a folder and the last piece of its
source is no name. -/
theorem copy_refines (hs : s.WellFormed)
    (hname : s.paths.entry? (s.resolve destination) = some .folder →
      Path.IsName (Path.basename source)) :
    outcome (s.copy source destination) = s.paths.copy source destination := by
  have hread := read_refines hs source
  unfold PathMap.copy
  rw [← hread]
  cases hcontent : s.read source with
  | error reason =>
    rw [copy, hcontent]
    rfl
  | ok content =>
    have hfile := entry?_of_read hs hcontent
    have htarget := resolve_copyTarget hs hname (by rw [hfile]; simp)
    have hwrite := s.write_refines (s.copyTarget source destination) content
    rw [copy_of_read hcontent, htarget]
    rw [PathMap.write, resolve_paths, htarget] at hwrite
    dsimp only [Except.mapError, resolve_paths]
    by_cases hself : s.paths.goal (s.resolve source) (s.resolve destination) = s.resolve source
    · rw [if_pos hself, if_pos hself]
      rfl
    · -- Both come to a write at the goal; only the answer is another one.
      rw [if_neg hself, if_neg hself, outcome_map, hwrite]
      split_ifs
      all_goals rfl

theorem write_refused_of_folder (h : s.paths.entry? (s.resolve destination) = some .folder)
    (content : String) : ∃ reason, s.write destination content = .error reason := by
  have hwrite := s.write_refines destination content
  unfold PathMap.write at hwrite
  rw [resolve_paths] at hwrite
  split_ifs at hwrite
  all_goals
    obtain ⟨reason, hreason, -⟩ := exists_of_outcome_error hwrite
    exact ⟨reason, hreason⟩

theorem copy_refused_of_spelling (hs : s.WellFormed)
    (hfolder : s.paths.entry? (s.resolve destination) = some .folder)
    (hname : ¬ Path.IsName (Path.basename source)) :
    ∃ reason, s.copy source destination = .error reason := by
  cases hcontent : s.read source with
  | error reason => exact ⟨reason, by rw [copy, hcontent]⟩
  | ok content =>
    have hfile := entry?_of_read hs hcontent
    have htarget := resolve_copyTarget_folder hs hfolder source
    have habove : s.paths.entry? (s.resolve (s.copyTarget source destination)) = some .folder := by
      rw [htarget]
      have hprefix := Path.resolve_basename_prefix hname (s.resolve destination)
      by_cases heq : Path.resolve (s.resolve destination) (Path.basename source) =
          s.resolve destination
      · rw [heq, hfolder]
      · have hthere : s.root.entryAt? (s.resolve destination) ≠ none := by
          rw [← entry?_paths, hfolder]
          simp
        exact s.root.closed_entryAt?.folder_of_below hprefix heq hthere
    have hne : s.resolve (s.copyTarget source destination) ≠ s.resolve source := by
      intro heq
      rw [heq, hfile] at habove
      cases habove
    obtain ⟨reason, hreason⟩ := write_refused_of_folder habove content
    exact ⟨reason, by rw [copy_of_read hcontent, if_neg hne, hreason]; rfl⟩

/-- **A copy, completely.** It is refused, or finds nothing to do, or answers where a move would put
the file, and then there is a file of the text of the source, and every other place is as it was.
The exception is the spelling: a copy into a folder is refused, whatever is there, when the last
piece of the source is no name. -/
theorem copy_deposits (hs : s.WellFormed) (source destination : String) :
    ((s.paths.entry? (s.resolve destination) = some .folder →
        Path.IsName (Path.basename source)) →
      outcome (s.copy source destination) = s.paths.copy source destination) ∧
    (s.paths.entry? (s.resolve destination) = some .folder →
      ¬ Path.IsName (Path.basename source) →
      ∃ reason, s.copy source destination = .error reason) ∧
    ∀ answer next, s.copy source destination = .ok ⟨answer, some next⟩ →
      ∃ content, s.paths.entry? (s.resolve source) = some (.file content) ∧
        s.paths.goal (s.resolve source) (s.resolve destination) ≠ s.resolve source ∧
        s.paths.Deposited next.paths (s.paths.goal (s.resolve source) (s.resolve destination))
          content := by
  refine ⟨copy_refines hs, copy_refused_of_spelling hs, fun answer next hcopy => ?_⟩
  have hname : s.paths.entry? (s.resolve destination) = some .folder →
      Path.IsName (Path.basename source) := by
    intro hfolder
    by_contra hname
    obtain ⟨reason, hreason⟩ := copy_refused_of_spelling hs hfolder hname
    cases hcopy.symm.trans hreason
  have hrefines := copy_refines hs hname
  rw [hcopy] at hrefines
  exact PathMap.deposited_of_copy hrefines.symm

/-- A file beside a folder. -/
def shelf : Snapshot :=
  ⟨⟨"/", [.empty "d"], [⟨"f", "x"⟩]⟩, []⟩

theorem copy_deposits_shelf :
    ∃ next, shelf.copy "./f/" "d" = .ok ⟨"/d/f", some next⟩ ∧
      outcome (shelf.copy "./f/" "d") = shelf.paths.copy "./f/" "d" ∧
      shelf.paths.Deposited next.paths ["d", "f"] "x" := by
  obtain ⟨hrefines, -, hdeposited⟩ := copy_deposits (s := shelf) (by decide) "./f/" "d"
  refine ⟨_, rfl, hrefines fun _ => by decide, ?_⟩
  obtain ⟨content, hcontent, -, hthere⟩ := hdeposited _ _ rfl
  cases hcontent
  exact hthere

/-- The same file by another spelling: a move goes through, and a copy does not. -/
theorem not_copy_spelled_with_dot :
    shelf.WellFormed ∧ shelf.paths.entry? (shelf.resolve "f/.") = some (.file "x") ∧
      shelf.paths.goal (shelf.resolve "f/.") (shelf.resolve "d") = ["d", "f"] ∧
      (∃ next, shelf.move "f/." "d" = .ok ⟨"/d/f", some next⟩) ∧
      shelf.copy "f/." "d" = .error (.writingFolder "/d") :=
  ⟨by decide, by decide, by decide, ⟨_, rfl⟩, rfl⟩

end Snapshot

end TreeShell
