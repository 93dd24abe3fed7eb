import TreeShell.Proofs.Builtin.Arguments
import TreeShell.Proofs.Builtin.Listing

/-!
# What commands that look for entries say

`grep -r` writes the places of files out as paths and reads the files by these, so what was said of
`find` and `ls` has to hold of it as well, or some file could not be read. It does hold, and so the
rows are those of the files at and below the targets (`run_grep`). Together with what `find` and
`ls -l` print this says that whatever is looked for in a tree in order is told as it is
(`Session.Truthful`).
-/

set_option autoImplicit false

namespace TreeShell

namespace PathMap

variable {m : PathMap} {place : List String} {content : String}

/-- The text of the file at a place; empty if there is no file. -/
def textAt (m : PathMap) (place : List String) : String :=
  match m.entry? place with
  | some (.file content) => content
  | _ => ""

theorem textAt_of_file (h : m.entry? place = some (.file content)) : m.textAt place = content := by
  rw [textAt, h]

/-- A file of some content is at or below one of the targets. -/
def Holds (m : PathMap) (targets place : List String) (content : String) : Prop :=
  (∃ target ∈ targets, m.resolve target <+: place) ∧ m.entry? place = some (.file content)

end PathMap

/-! ## Files at and below targets -/

namespace Snapshot

variable {s : Snapshot} {path : String} {targets place : List String} {accepts : String → Bool}

/-- The places of the files at and below what a path names. -/
def placesUnder (s : Snapshot) (path : String) : List (List String) :=
  ((s.traversal none (s.resolve path)).filter (·.kind == .file)).map WalkEntry.place

/-- The places of the files at and below some targets. -/
def placesToSearch (s : Snapshot) (targets : List String) : List (List String) :=
  targets.flatMap s.placesUnder

theorem mem_placesUnder (hs : s.WellFormed) (hpath : s.paths.entry? (s.resolve path) ≠ none) :
    place ∈ s.placesUnder path ↔
      s.resolve path <+: place ∧ ∃ content, s.paths.entry? place = some (.file content) := by
  have hall := enumerates_traversal hs none hpath
  constructor
  · intro h
    obtain ⟨entry, hentry, rfl⟩ := List.mem_map.mp h
    obtain ⟨hentry, hfile⟩ := List.mem_filter.mp hentry
    obtain ⟨below, hplace, -, -, hkind⟩ := (hall.mem_iff entry).mp hentry
    obtain ⟨held, hheld, hkind⟩ := Option.map_eq_some_iff.mp hkind
    refine ⟨⟨below, hplace.symm⟩, ?_⟩
    cases held with
    | folder =>
      rw [← hkind] at hfile
      cases hfile
    | file content => exact ⟨content, hheld⟩
  · rintro ⟨⟨below, rfl⟩, content, hfile⟩
    refine List.mem_map.mpr ⟨⟨s.resolve path ++ below, .file, below.length⟩, ?_, rfl⟩
    refine List.mem_filter.mpr ⟨(hall.mem_iff _).mpr ⟨below, rfl, rfl, ?_, ?_⟩, rfl⟩
    · exact fun _ hmost => nomatch hmost
    · rw [hfile]
      rfl

theorem mem_placesToSearch (hs : s.WellFormed)
    (htargets : ∀ target ∈ targets, s.paths.entry? (s.resolve target) ≠ none)
    (place : List String) :
    place ∈ s.placesToSearch targets ↔ ∃ content, s.paths.Holds targets place content := by
  rw [placesToSearch, List.mem_flatMap]
  constructor
  · rintro ⟨target, htarget, hplace⟩
    obtain ⟨hbelow, content, hfile⟩ := (mem_placesUnder hs (htargets target htarget)).mp hplace
    exact ⟨content, ⟨target, htarget, hbelow⟩, hfile⟩
  · rintro ⟨content, ⟨target, htarget, hbelow⟩, hfile⟩
    exact ⟨target, htarget,
      (mem_placesUnder hs (htargets target htarget)).mpr ⟨hbelow, content, hfile⟩⟩

theorem read_display (hs : s.WellFormed) {content : String}
    (h : s.paths.entry? place = some (.file content)) :
    s.read (Path.display place) = .ok (s.paths.textAt place) := by
  have hplace : s.resolve (Path.display place) = place :=
    Path.resolve_display_of_areNames (hs.root.areNames_of_entryAt? h) s.cwd
  rw [PathMap.textAt_of_file h]
  exact read_of_entry hs (by rw [hplace, h])

/-- Some places are those of all files at and below some targets, each with a path that leads there,
and an outcome is a success if a line of one is accepted, and else says that there is none. -/
structure Searches (s : Snapshot) (targets : List String) (accepts : String → Bool)
    (places : List (List String)) (outcome : Outcome) : Prop where
  mem_iff : ∀ place, place ∈ places ↔ ∃ content, s.paths.Holds targets place content
  leads : ∀ place ∈ places, ∀ cwd, Path.resolve cwd (Path.display place) = place
  ends : outcome = .success ∨ outcome = .failed "grep: no match"
  success_iff : outcome = .success ↔ ∃ place content line,
    s.paths.Holds targets place content ∧ line ∈ Text.lines content ∧ accepts line = true

theorem any_line_iff (hs : s.WellFormed)
    (htargets : ∀ target ∈ targets, s.paths.entry? (s.resolve target) ≠ none)
    (accepts : String → Bool) :
    ((s.placesToSearch targets).any fun place =>
        (Text.lines (s.paths.textAt place)).any accepts) = true ↔
      ∃ place content line,
        s.paths.Holds targets place content ∧ line ∈ Text.lines content ∧ accepts line = true := by
  rw [List.any_eq_true]
  constructor
  · rintro ⟨place, hplace, hany⟩
    obtain ⟨content, hholds⟩ := (mem_placesToSearch hs htargets place).mp hplace
    obtain ⟨line, hline, haccepts⟩ := List.any_eq_true.mp hany
    rw [PathMap.textAt_of_file hholds.2] at hline
    exact ⟨place, content, line, hholds, hline, haccepts⟩
  · rintro ⟨place, content, line, hholds, hline, haccepts⟩
    refine ⟨place, (mem_placesToSearch hs htargets place).mpr ⟨content, hholds⟩, ?_⟩
    rw [PathMap.textAt_of_file hholds.2]
    exact List.any_eq_true.mpr ⟨line, hline, haccepts⟩

theorem searches_placesToSearch (hs : s.WellFormed)
    (htargets : ∀ target ∈ targets, s.paths.entry? (s.resolve target) ≠ none)
    (accepts : String → Bool) :
    s.Searches targets accepts (s.placesToSearch targets)
      (if (s.placesToSearch targets).any fun place =>
          (Text.lines (s.paths.textAt place)).any accepts
        then .success else .failed "grep: no match") := by
  have hmem := mem_placesToSearch hs htargets
  refine ⟨hmem, fun place hplace cwd => ?_, ?_, ?_⟩
  · obtain ⟨content, -, hfile⟩ := (hmem place).mp hplace
    exact Path.resolve_display_of_areNames (hs.root.areNames_of_entryAt? hfile) cwd
  · split
    · exact .inl rfl
    · exact .inr rfl
  · rw [← any_line_iff hs htargets accepts]
    split
    · next hany => exact iff_of_true rfl hany
    · next hnone => exact iff_of_false (fun h => nomatch h) hnone

end Snapshot

namespace Shell

/-! ## What `grep -r` does -/

variable {s : Session} {args targets : List String} {read : ShortFlags} {argument path : String}
  {matcher : LineMatcher}

/-- Whether a line matches. -/
def GrepOptions.matchesLine (options : GrepOptions) (line : String) : Bool :=
  options.matcher.accepts options.ignoreCase line

theorem isEmpty_rowsFrom (options : GrepOptions) (path : String) (number : Nat)
    (lines : List String) :
    (options.rowsFrom path number lines).isEmpty = !lines.any options.matchesLine := by
  induction lines generalizing number with
  | nil => rfl
  | cons line rest ih =>
    rw [GrepOptions.rowsFrom, List.any_cons, GrepOptions.matchesLine]
    cases options.matcher.accepts options.ignoreCase line with
    | true => rfl
    | false => exact ih (number + 1)

/-- The options of `grep` when it searches folders. -/
def GrepOptions.below (matcher : LineMatcher) (read : ShortFlags) : GrepOptions where
  matcher
  ignoreCase := read.has 'i'
  withPath := true
  withNumber := read.has 'n'

/-- What is searched: the current folder, if no targets are given. -/
def searchTargets (targets : List String) : List String :=
  if targets.isEmpty then ["."] else targets

theorem prints_filesBelow (hs : s.files.snapshot.WellFormed)
    (hpath : s.files.snapshot.paths.entry? (s.files.snapshot.resolve path) ≠ none) :
    Prints s (filesBelow (Path.normalize s.files.snapshot.cwdPath path))
      ((s.files.snapshot.placesUnder path).map Path.display) [] := by
  have hplace := Snapshot.resolve_normalize hs path
  rw [filesBelow, Snapshot.placesUnder, List.map_map]
  refine (prints_view s _).after_silent ?_
  by_cases hfolder : s.files.snapshot.paths.entry? (s.files.snapshot.resolve path) = some .folder
  · have hwalk : s.files.snapshot.walk (Path.normalize s.files.snapshot.cwdPath path) none =
        .ok _ := Snapshot.walk_eq_traversal hs none (by rw [hplace]; exact hpath)
    rw [if_pos ((Snapshot.isFolder_iff _ _).mpr (by rw [hplace]; exact hfolder))]
    refine (prints_look (fun t => t.walk _ none) hwalk).after_silent ?_
    rw [hplace]
    exact prints_pure s _
  · -- What is there and is no folder is a file, and the one entry of its traversal.
    rw [if_neg fun h => hfolder (by rw [← hplace]; exact (Snapshot.isFolder_iff _ _).mp h)]
    cases hs.found (s.files.snapshot.resolve path) with
    | folder _ _ hentry => exact absurd hentry hfolder
    | file _ hfile _ =>
      rw [Snapshot.traversal_of_file hfile, Snapshot.normalize_cwdPath hs]
      exact prints_pure s _
    | nothing _ _ hentry => exact absurd hentry hpath

theorem prints_filesToSearch (hs : s.files.snapshot.WellFormed)
    (htargets : ∀ target ∈ targets,
      s.files.snapshot.paths.entry? (s.files.snapshot.resolve target) ≠ none) :
    Prints s (filesToSearch true targets)
      ((s.files.snapshot.placesToSearch targets).map Path.display) [] := by
  have hbelow : Prints s ((targets.map (Path.normalize s.files.snapshot.cwdPath)).mapM filesBelow)
      (targets.map fun target => (s.files.snapshot.placesUnder target).map Path.display)
      (targets.flatMap fun _ => []) := by
    rw [List.mapM_map]
    exact Prints.mapM fun target htarget => prints_filesBelow hs (htargets target htarget)
  rw [List.flatMap_eq_nil_iff.mpr fun _ _ => rfl] at hbelow
  rw [filesToSearch, Snapshot.placesToSearch, List.map_flatMap, List.flatMap_def]
  refine (prints_view s _).after_silent ?_
  rw [if_pos rfl]
  exact hbelow.returning List.flatten

theorem prints_grepFile (options : GrepOptions) {content : String}
    (h : s.files.snapshot.read path = .ok content) :
    Prints s (grepFile options path) (some ((Text.lines content).any options.matchesLine))
      (options.rowsFrom path 1 (Text.lines content)) := by
  rw [grepFile]
  refine (prints_attempt_look s _).after_silent ?_
  rw [h]
  dsimp only
  rw [isEmpty_rowsFrom, Bool.not_not]
  exact (prints_printLines s _).returning _

/-- Files that can be read are searched, and nothing else is said. -/
theorem prints_grepFiles (options : GrepOptions) {places : List (List String)}
    {text : List String → String}
    (h : ∀ place ∈ places, s.files.snapshot.read (Path.display place) = .ok (text place)) :
    Prints s (grepFiles options (places.map Path.display))
      (if places.any fun place => (Text.lines (text place)).any options.matchesLine
        then .success else .failed "grep: no match")
      (places.flatMap fun place =>
        options.rowsFrom (Path.display place) 1 (Text.lines (text place))) := by
  have hfound : Prints s ((places.map Path.display).mapM (grepFile options))
      (places.map fun place => some ((Text.lines (text place)).any options.matchesLine))
      (places.flatMap fun place =>
        options.rowsFrom (Path.display place) 1 (Text.lines (text place))) := by
    rw [List.mapM_map]
    exact Prints.mapM fun place hplace => prints_grepFile options (h place hplace)
  have hmatch : ((places.map fun place =>
      some ((Text.lines (text place)).any options.matchesLine)).any (· == some true)) =
      places.any fun place => (Text.lines (text place)).any options.matchesLine := by
    simp [List.any_map, Function.comp_def]
  rw [grepFiles]
  refine hfound.before_silent ?_
  rw [if_neg (by simp), hmatch]
  split
  · exact prints_pure s _
  · exact prints_pure s _

/-- What `grep -r` prints. -/
theorem run_grep (hs : s.files.snapshot.WellFormed) (hread : ShortFlags.read "rin" args = read)
    (hknown : read.unknown? = none) (hrecursive : read.has 'r' = true)
    (hoperands : read.operands = argument :: targets)
    (hmatcher : LineMatcher.ofArgument argument s.host.character? = .ok matcher)
    (htargets : ∀ target ∈ searchTargets targets,
      s.files.snapshot.paths.entry? (s.files.snapshot.resolve target) ≠ none) :
    (grep args).run s =
      (.ok (if (s.files.snapshot.placesToSearch (searchTargets targets)).any fun place =>
          (Text.lines (s.files.snapshot.paths.textAt place)).any
            (GrepOptions.below matcher read).matchesLine
        then .success else .failed "grep: no match"),
        s.printed ((s.files.snapshot.placesToSearch (searchTargets targets)).flatMap fun place =>
          (GrepOptions.below matcher read).rowsFrom (Path.display place) 1
            (Text.lines (s.files.snapshot.paths.textAt place)))) := by
  have hreads : ∀ place ∈ s.files.snapshot.placesToSearch (searchTargets targets),
      s.files.snapshot.read (Path.display place) =
        .ok (s.files.snapshot.paths.textAt place) := by
    intro place hplace
    obtain ⟨content, -, hfile⟩ := (Snapshot.mem_placesToSearch hs htargets place).mp hplace
    exact Snapshot.read_display hs hfile
  rw [run_grep_eq hread hknown hoperands, hmatcher]
  refine Prints.run ?_
  rw [grepWith, hrecursive, if_neg (by simp)]
  exact (prints_filesToSearch hs htargets).after_silent
    (prints_grepFiles (GrepOptions.below matcher read) hreads)

/-- A search for what cannot be made out is told as a failure, or is stopped. -/
theorem not_ok_grepWith {fault : Fault} {outcome : Outcome}
    (h : ((grepWith read targets (.error fault)).run s).1 = .ok outcome) : outcome.ok = false := by
  unfold grepWith at h
  split at h
  · cases h
    rfl
  · cases h
  · next heq => cases heq

end Shell

/-! ## Together -/

namespace Session

open Shell

/-- What is printed of what is looked for is what there is. -/
structure Truthful (s : Session) : Prop where
  find : ∀ args options, FindOptions.read args = .ok options →
    s.files.snapshot.paths.entry? (s.files.snapshot.resolve options.path) ≠ none →
    ∃ found, s.files.snapshot.Finds options found ∧ (Shell.find args).run s =
      (.ok .success, s.printed (found.map (s.files.snapshot.paths.foundRow options.long)))
  grep : ∀ args read argument targets matcher, ShortFlags.read "rin" args = read →
    read.unknown? = none → read.has 'r' = true → read.operands = argument :: targets →
    LineMatcher.ofArgument argument s.host.character? = .ok matcher →
    (∀ target ∈ searchTargets targets,
      s.files.snapshot.paths.entry? (s.files.snapshot.resolve target) ≠ none) →
    ∃ places outcome, s.files.snapshot.Searches (searchTargets targets)
        (fun line => matcher.accepts (read.has 'i') line) places outcome ∧
      (Shell.grep args).run s = (.ok outcome, s.printed (places.flatMap fun place =>
        (GrepOptions.below matcher read).rowsFrom (Path.display place) 1
          (Text.lines (s.files.snapshot.paths.textAt place))))
  grepRefused : ∀ args read argument targets fault outcome, ShortFlags.read "rin" args = read →
    read.unknown? = none → read.operands = argument :: targets →
    LineMatcher.ofArgument argument s.host.character? = .error fault →
    ((Shell.grep args).run s).1 = .ok outcome → outcome.ok = false
  listFile : ∀ args read target content, ShortFlags.read "la" args = read →
    read.unknown? = none → read.has 'l' = true → read.operands.head?.getD "." = target →
    s.files.snapshot.paths.entry? (s.files.snapshot.resolve target) = some (.file content) →
    s.files.snapshot.measure target .file = .ok content.length ∧
      (ls args).run s = (.ok .success,
        s.printed [longEntry "-" content.length (Path.basename target)])
  listFolder : ∀ args read target, ShortFlags.read "la" args = read →
    read.unknown? = none → read.has 'l' = true → read.operands.head?.getD "." = target →
    s.files.snapshot.paths.entry? (s.files.snapshot.resolve target) = some .folder →
    ∃ shown, s.files.snapshot.Shows (s.files.snapshot.resolve target) (read.has 'a') shown ∧
      (∀ entry ∈ shown, s.files.snapshot.measure
        (Path.join (Path.normalize s.files.snapshot.cwdPath target) entry.1) entry.2 =
          .ok (s.files.snapshot.paths.size (s.files.snapshot.resolve target ++ [entry.1]))) ∧
      (ls args).run s = (.ok .success,
        s.printed (shown.map (s.longRow (s.files.snapshot.resolve target))))

/-- **In a tree in order whatever is looked for is told as it is.** `find` prints what was asked
for, each entry once and by a path that leads there from everywhere; `grep -r` reads every file at
and below the targets, and succeeds if a line of one matches and only then, so never for a pattern
that is refused; and the sizes that `find -ls` and `ls -l` print are those of the entries. -/
theorem truthful_of_wellFormed {s : Session} (hs : s.files.snapshot.WellFormed) : s.Truthful where
  find args options hread hstart :=
    ⟨_, Snapshot.finds_found hs (FindOptions.nonneg_of_read hread) hstart,
      run_find hs hread hstart⟩
  grep args read argument targets matcher hread hknown hrecursive hoperands hmatcher htargets :=
    ⟨_, _, Snapshot.searches_placesToSearch hs htargets _,
      run_grep hs hread hknown hrecursive hoperands hmatcher htargets⟩
  grepRefused args read argument targets fault outcome hread hknown hoperands hrefused hrun := by
    rw [run_grep_eq hread hknown hoperands, hrefused] at hrun
    exact not_ok_grepWith hrun
  listFile args read target content hread hknown hlong htarget hfile := by
    refine ⟨?_, run_ls_file hs hread hknown hlong htarget hfile⟩
    rw [Snapshot.measure, Snapshot.fileSize, Snapshot.read_of_entry hs hfile]
    rfl
  listFolder args read target hread hknown hlong htarget hfolder := by
    obtain ⟨shown, hshows, hrun⟩ := run_ls_folder hs hread hknown hlong htarget hfolder
    refine ⟨shown, hshows, fun entry hentry => ?_, hrun⟩
    exact measure_child hs ((hshows.mem_iff _ _).mp hentry).2

/-- A session in a folder with one file. -/
def workshopSession : Session :=
  .fresh {} ⟨.workshop, some .empty, "tree"⟩ .builtins {} ⟨2024, 1, 1, 0, 0, 0, 0⟩

/-- A character is looked for that is not followed by the same one. -/
theorem truthful_of_wellFormed_workshopSession :
    workshopSession.Truthful ∧
      ((Shell.grep ["-r", "/(.)(?!\\1)/"]).run workshopSession).1 = .ok .success := by
  have htruthful : workshopSession.Truthful := truthful_of_wellFormed (by decide)
  have hfinds : (LineMatcher.ofArgument "/(.)(?!\\1)/" workshopSession.host.character?).toOption.any
      (·.accepts false "x") = true := by
    decide +kernel
  cases hmatcher : LineMatcher.ofArgument "/(.)(?!\\1)/" workshopSession.host.character? with
  | error fault =>
    rw [hmatcher] at hfinds
    cases hfinds
  | ok matcher =>
    rw [hmatcher] at hfinds
    obtain ⟨places, outcome, hsearches, hrun⟩ := htruthful.grep ["-r", "/(.)(?!\\1)/"] _ _ [] _ rfl
      (by decide) (by decide) (by decide) hmatcher (by decide)
    have hsuccess : outcome = .success := hsearches.success_iff.mpr
      ⟨["home", "notes", "todo"], "x", "x", ⟨⟨".", by decide, by decide⟩, by decide⟩, by decide,
        hfinds⟩
    rw [hrun, hsuccess]
    exact ⟨htruthful, rfl⟩

end Session

end TreeShell
