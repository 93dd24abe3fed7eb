import TreeShell.Proofs.PathMap.Basic
import TreeShell.Proofs.Tree.Changes

/-!
# A tree behaves like its map

`paths` forgets the tree. The operations on the tree and those on the map agree: a snapshot in order
refuses exactly when its map does, for a reason of the same kind, and the map of what it records is
what the map comes to. `Refines` lists these agreements, one for each operation.

Each is the same short argument. The endings of the operation say which guards were passed; the
guards are facts about folders, and become facts about entries (`Found`, `has_iff`); the change at
the end is a graft, which is one point of the map because nothing is below a place that is no folder
(`paths_put`).
-/

set_option autoImplicit false

namespace TreeShell

namespace Snapshot

/-- The map of a snapshot. -/
def paths (s : Snapshot) : PathMap :=
  ⟨s.root.entryAt?, s.cwd⟩

/-- What an attempt comes to, seen from outside. -/
def outcome {α : Type} : Attempt α → PathMap.Outcome α
  | .error reason => .error reason.kind
  | .ok step => .ok (step.answer, step.next?.map paths)

variable {s t : Snapshot} {place parent : List String} {name : String} {entry : Option Entry}

@[simp]
theorem entry?_paths (s : Snapshot) : s.paths.entry? = s.root.entryAt? := rfl

@[simp]
theorem cwd_paths (s : Snapshot) : s.paths.cwd = s.cwd := rfl

@[simp]
theorem resolve_paths (s : Snapshot) (path : String) : s.paths.resolve path = s.resolve path := rfl

@[simp]
theorem outcome_error {α : Type} (reason : FileError) :
    outcome (.error reason : Attempt α) = .error reason.kind := rfl

@[simp]
theorem outcome_done (next : Snapshot) :
    outcome (.ok ⟨(), some next⟩) = .ok ((), some next.paths) := rfl

/-- Nothing is below what is no folder. -/
theorem nothing_below (h : s.root.entryAt? place ≠ some .folder) (name : String)
    (rest : List String) : s.root.entryAt? (place ++ name :: rest) = none :=
  s.root.closed_entryAt?.nothing_below h name rest

/-- A graft of one entry, where nothing was below, is a change of the map at one point. -/
theorem paths_put (ht : t.root.entryAt? = Entries.graft s.root.entryAt? place (Entries.leaf entry))
    (hbelow : ∀ name rest, s.root.entryAt? (place ++ name :: rest) = none) (hcwd : t.cwd = s.cwd) :
    t.paths = s.paths.put place entry := by
  unfold paths PathMap.put
  rw [ht, hcwd, Entries.graft_leaf hbelow]

/-! ## What an attempt comes to, from its outcome -/

section Outcomes

variable {α : Type} {attempt : Attempt α} {answer : α}

theorem eq_of_outcome_none (h : outcome attempt = .ok (answer, none)) :
    attempt = .ok ⟨answer, none⟩ := by
  cases attempt with
  | error reason => exact nomatch h
  | ok step =>
    obtain ⟨other, next?⟩ := step
    cases next? with
    | none =>
      cases h
      rfl
    | some next => exact nomatch h

theorem exists_of_outcome_some {map : PathMap} (h : outcome attempt = .ok (answer, some map)) :
    ∃ next, attempt = .ok ⟨answer, some next⟩ ∧ next.paths = map := by
  cases attempt with
  | error reason => exact nomatch h
  | ok step =>
    obtain ⟨other, next?⟩ := step
    cases next? with
    | none => exact nomatch h
    | some next =>
      cases h
      exact ⟨next, rfl, rfl⟩

theorem exists_of_outcome_error {kind : FileErrorKind} (h : outcome attempt = .error kind) :
    ∃ reason, attempt = .error reason ∧ reason.kind = kind := by
  cases attempt with
  | error reason =>
    cases h
    exact ⟨reason, rfl, rfl⟩
  | ok step => exact nomatch h

end Outcomes

/-! ## Looking -/

theorem entryAt?_of_folderAt? {folder : Folder} (h : s.folderAt? place = some folder) :
    s.root.entryAt? place = some .folder :=
  entryAt?_eq_folder_iff.mpr ⟨folder, h⟩

theorem entryAt?_ne_folder (h : s.folderAt? place = none) :
    s.root.entryAt? place ≠ some .folder := by
  intro hfolder
  obtain ⟨folder, hsome⟩ := entryAt?_eq_folder_iff.mp hfolder
  rw [h] at hsome
  cases hsome

theorem has_iff {above : Folder} (h : s.folderAt? parent = some above) :
    above.has name = true ↔ s.root.entryAt? (parent ++ [name]) ≠ none := by
  rw [entryAt?_concat h, Folder.has_eq_isSome_entryAt?, Option.isSome_iff_ne_none]

theorem entryAt?_eq_none {above : Folder} (h : s.folderAt? parent = some above)
    (hfree : above.has name = false) : s.root.entryAt? (parent ++ [name]) = none := by
  by_contra hname
  rw [(has_iff h).mpr hname] at hfree
  cases hfree

/-- A folder is empty when there is no place one step below it. -/
theorem names_nonempty_iff {folder : Folder} (h : s.folderAt? place = some folder) :
    (s.paths.names place).Nonempty ↔ folder.isEmpty = false := by
  rw [Bool.eq_false_iff, ne_eq, Folder.isEmpty_iff, not_forall]
  refine exists_congr fun name => ?_
  rw [← entryAt?_concat h]
  rfl

theorem isFolder_iff (s : Snapshot) (path : String) :
    s.isFolder path = true ↔ s.paths.entry? (s.resolve path) = some .folder := by
  rw [entry?_paths, entryAt?_eq_folder_iff]
  exact Option.isSome_iff_exists

theorem isFile_iff (hs : s.WellFormed) (path : String) :
    s.isFile path = true ↔ ∃ content, s.paths.entry? (s.resolve path) = some (.file content) := by
  unfold isFile
  rw [entry?_paths]
  cases hs.found (s.resolve path) with
  | folder hfolder hfile hentry => simp [hfile, hentry]
  | file hfolder hfile hentry => simp [hfile, hentry]
  | nothing hfolder hfile hentry => simp [hfile, hentry]

theorem exists_iff (hs : s.WellFormed) (path : String) :
    s.exists? path = true ↔ s.paths.entry? (s.resolve path) ≠ none := by
  unfold exists? isFolder isFile
  rw [entry?_paths]
  cases hs.found (s.resolve path) with
  | folder hfolder hfile hentry => simp [hfolder, hentry]
  | file hfolder hfile hentry => simp [hfile, hentry]
  | nothing hfolder hfile hentry => simp [hfolder, hfile, hentry]

theorem read_refines (hs : s.WellFormed) (path : String) :
    (s.read path).mapError FileError.kind = s.paths.read path := by
  unfold read PathMap.read
  rw [resolve_paths, entry?_paths]
  cases hs.found (s.resolve path) with
  | folder hfolder hfile hentry => rw [hfile, hentry]; rfl
  | file hfolder hfile hentry => rw [hfile, hentry]; rfl
  | nothing hfolder hfile hentry => rw [hfile, hentry]; rfl

theorem fileSize_refines (hs : s.WellFormed) (path : String) :
    (s.fileSize path).mapError FileError.kind = (s.paths.read path).map String.length := by
  rw [← read_refines hs, fileSize]
  cases s.read path <;> rfl

theorem lists_listing (hs : s.WellFormed) {folder : Folder} (h : s.folderAt? place = some folder) :
    s.paths.Lists place folder.listing := by
  have htidy := (hs.root.descend? h).tidy
  refine ⟨htidy.folders, htidy.files, fun name => ?_, fun name => ?_⟩
  · rw [entry?_paths, entryAt?_concat h]
    exact Folder.mem_names_folders_iff
  · rw [entry?_paths, entryAt?_concat h]
    exact htidy.mem_names_files_iff

/-- A folder is listed in full, and nothing else is listed. -/
theorem list_cases (hs : s.WellFormed) (path : String) :
    (s.paths.entry? (s.resolve path) = some .folder ∧
        ∃ listing, s.list path = .ok listing ∧ s.paths.Lists (s.resolve path) listing) ∨
      (s.paths.entry? (s.resolve path) ≠ some .folder ∧
        s.list path = .error (.cannotList path)) := by
  unfold list
  cases hfolder : s.folderAt? (s.resolve path) with
  | some folder =>
    exact Or.inl ⟨entryAt?_of_folderAt? hfolder, folder.listing, rfl, lists_listing hs hfolder⟩
  | none => exact Or.inr ⟨entryAt?_ne_folder hfolder, rfl⟩

theorem lists_of_list (hs : s.WellFormed) {path : String} {listing : Listing}
    (hlist : s.list path = .ok listing) : s.paths.Lists (s.resolve path) listing := by
  rcases list_cases hs path with ⟨-, other, hother, hlists⟩ | ⟨-, hrefused⟩
  · cases hlist.symm.trans hother
    exact hlists
  · exact nomatch hlist.symm.trans hrefused

theorem WellFormed.isName_of_list (hs : s.WellFormed) {path name : String} {listing : Listing}
    (hlist : s.list path = .ok listing) (h : name ∈ listing.folders ∨ name ∈ listing.files) :
    Path.IsName name := by
  unfold list at hlist
  cases hfolder : s.folderAt? (s.resolve path) with
  | none =>
    rw [hfolder] at hlist
    exact nomatch hlist
  | some folder =>
    rw [hfolder] at hlist
    cases hlist
    have htidy := (hs.root.descend? hfolder).tidy
    rcases h with h | h
    · obtain ⟨child, hchild, rfl⟩ := List.mem_map.mp h
      exact htidy.folderNames child hchild
    · obtain ⟨file, hfile, rfl⟩ := List.mem_map.mp h
      exact htidy.fileNames file hfile

theorem read_of_entry (hs : s.WellFormed) {path content : String}
    (h : s.paths.entry? (s.resolve path) = some (.file content)) : s.read path = .ok content := by
  have hread := read_refines hs path
  rw [PathMap.read, resolve_paths, h] at hread
  cases hresult : s.read path with
  | error reason =>
    rw [hresult] at hread
    exact nomatch hread
  | ok other =>
    rw [hresult] at hread
    exact congrArg Except.ok (Except.ok.inj hread)

theorem read_eq_ok_iff (hs : s.WellFormed) {path content : String} :
    s.read path = .ok content ↔ s.paths.entry? (s.resolve path) = some (.file content) := by
  refine ⟨fun h => ?_, read_of_entry hs⟩
  have hread := read_refines hs path
  rw [h, PathMap.read, resolve_paths] at hread
  split at hread
  · next found hentry =>
    cases hread
    exact hentry
  · exact nomatch hread

theorem childCount_refines (hs : s.WellFormed) (path : String) :
    (s.childCount path).mapError FileError.kind =
      if s.paths.entry? (s.resolve path) = some .folder
        then .ok (s.paths.names (s.resolve path)).ncard else .error .notFound := by
  unfold childCount
  rcases list_cases hs path with ⟨hfolder, listing, hlist, hlists⟩ | ⟨hfolder, hlist⟩
  · rw [hlist, if_pos hfolder, hlists.ncard_names]
    rfl
  · rw [hlist, if_neg hfolder]
    rfl

/-! ## Changing -/

theorem changeDirectory_refines (s : Snapshot) (path : String) :
    outcome (s.changeDirectory path) = s.paths.changeDirectory path := by
  have hends := s.changeDirectory_ends path
  generalize s.changeDirectory path = attempt at hends ⊢
  unfold PathMap.changeDirectory
  cases hends with
  | missing hfolder =>
    have hmissing := entryAt?_ne_folder hfolder
    simp [hmissing, FileError.kind]
  | changed hfolder =>
    have hentry := entryAt?_of_folderAt? hfolder
    have hpaths : paths { s with cwd := s.resolve path } =
        { s.paths with cwd := s.resolve path } := rfl
    simp [hentry, hpaths]

theorem mkdir_refines (s : Snapshot) (name : String) :
    outcome (s.mkdir name) = s.paths.mkdir name := by
  have hends := s.mkdir_ends name
  generalize s.mkdir name = attempt at hends ⊢
  unfold PathMap.mkdir
  cases hends with
  | notBare hbare => simp [hbare, FileError.kind]
  | gone hbare hcwd =>
    have hgone := entryAt?_ne_folder hcwd
    simp [hbare, hgone, FileError.kind]
  | taken hbare hcwd htaken =>
    have hfolder := entryAt?_of_folderAt? hcwd
    have hname := (has_iff hcwd).mp htaken
    simp [hbare, hfolder, hname, FileError.kind]
  | @made current hbare hcwd hfree =>
    have hfolder := entryAt?_of_folderAt? hcwd
    have hname : s.root.entryAt? (s.cwd ++ [name]) = none := entryAt?_eq_none hcwd hfree
    have hput := paths_put (entryAt?_addEmpty hcwd hfree) (nothing_below (by simp [hname])) rfl
    simp [hbare, hfolder, hname, hput]

theorem rmdir_refines (hs : s.WellFormed) (path : String) :
    outcome (s.rmdir path) = s.paths.rmdir path := by
  have hends := s.rmdir_ends path
  generalize s.rmdir path = attempt at hends ⊢
  unfold PathMap.rmdir
  cases hends with
  | root hplace => simp [hplace, FileError.kind]
  | missing hplace hfolder =>
    have hmissing := entryAt?_ne_folder hfolder
    simp [hplace, hmissing, FileError.kind]
  | notEmpty hplace hfolder hempty =>
    have hentry := entryAt?_of_folderAt? hfolder
    have hnames := (names_nonempty_iff hfolder).mpr hempty
    simp [hplace, hentry, hnames, FileError.kind]
  | @removed parent name above folder hplace habove hname hempty =>
    have hfolder : s.folderAt? (parent ++ [name]) = some folder := by
      rw [folderAt?_concat, habove]
      exact hname
    have hentry := entryAt?_of_folderAt? hfolder
    have hnames : ¬ (s.paths.names (parent ++ [name])).Nonempty := by
      rw [names_nonempty_iff hfolder, hempty]
      exact Bool.noConfusion
    -- Here the place is a folder, and nothing is below it because it is empty.
    have hbelow : ∀ first rest, s.root.entryAt? (parent ++ [name] ++ first :: rest) = none := by
      intro first rest
      rw [Folder.entryAt?_append hfolder, Folder.entryAt?_of_isEmpty hempty]
      rfl
    have hput := paths_put (entryAt?_removeFolder hs habove hname) hbelow rfl
    simp [hplace, hentry, hnames, hput]

theorem ensureDirPath_refines (s : Snapshot) (path : String) :
    outcome (s.ensureDirPath path) = s.paths.ensureDirPath path := by
  have hends := Folder.ensureIn_ends path (s.resolve path) s.root
  unfold ensureDirPath PathMap.ensureDirPath
  generalize ensureIn path (s.resolve path) s.root = result at hends ⊢
  cases hends with
  | @blocked way content name hway hfile =>
    have hblocked : s.paths.Blocked (s.resolve path) := by
      refine ⟨way, content, ?_, hway, hfile⟩
      rintro rfl
      cases hfile
    rw [resolve_paths, if_pos hblocked]
    rfl
  | there hplace =>
    -- On the way to a folder there is no file, since something is below each of its places.
    have hclear : ¬ s.paths.Blocked (s.resolve path) := by
      rintro ⟨way, content, -, hway, hfile⟩
      rw [entry?_paths] at hfile
      have hne : way ≠ s.resolve path := by
        rintro rfl
        cases hfile.symm.trans hplace
      have hfolder := s.root.closed_entryAt?.folder_of_below hway hne (by simp [hplace])
      cases hfile.symm.trans hfolder
    rw [resolve_paths, entry?_paths, if_neg hclear, if_pos hplace]
    rfl
  | @made next hname hmissing hclear hentries hkeeps =>
    have hfree : ¬ s.paths.Blocked (s.resolve path) := by
      rintro ⟨way, content, -, hway, hfile⟩
      exact hclear way content hway hfile
    have hpave : Snapshot.paths { s with root := next } = s.paths.pave (s.resolve path) := by
      unfold paths PathMap.pave
      rw [hentries]
    have hnot : s.paths.entry? (s.resolve path) ≠ some .folder := by simp [hmissing]
    rw [resolve_paths, if_neg hfree, if_neg hnot, ← hpave]
    rfl

theorem write_refines (s : Snapshot) (path content : String) :
    outcome (s.write path content) = s.paths.write path content := by
  have hends := s.write_ends path content
  generalize s.write path content = attempt at hends ⊢
  unfold PathMap.write
  cases hends with
  | root hplace => simp [hplace, FileError.kind]
  | noParent hplace habove =>
    have hmissing := entryAt?_ne_folder habove
    simp [hplace, hmissing, FileError.kind]
  | onFolder hplace habove hfolder =>
    have hparent := entryAt?_of_folderAt? habove
    have hentry := entryAt?_of_folder? habove hfolder
    simp [hplace, hparent, hentry, FileError.kind]
  | @written parent name above hplace habove hfree =>
    have hparent := entryAt?_of_folderAt? habove
    have hentry : s.root.entryAt? (parent ++ [name]) ≠ some .folder := by
      apply entryAt?_ne_folder
      rw [folderAt?_concat, habove]
      exact hfree
    have hput := paths_put (entryAt?_putFile habove hfree content) (nothing_below hentry) rfl
    simp [hplace, hparent, hentry, hput]

theorem unlink_refines (hs : s.WellFormed) (path : String) :
    outcome (s.unlink path) = s.paths.unlink path := by
  have hends := s.unlink_ends path
  generalize s.unlink path = attempt at hends ⊢
  unfold PathMap.unlink
  rw [resolve_paths, entry?_paths]
  cases hends with
  | missing hfile =>
    cases hs.found (s.resolve path) with
    | folder hfolder _ hentry => rw [hentry]; rfl
    | file _ hfound _ => cases hfile.symm.trans hfound
    | nothing _ _ hentry => rw [hentry]; rfl
  | @removed parent name above file hplace habove hfile =>
    have hentry := entryAt?_of_file? hs habove hfile
    have hnot : s.root.entryAt? (parent ++ [name]) ≠ some .folder := by simp [hentry]
    have hput := paths_put (entryAt?_removeFile hs habove hfile) (nothing_below hnot) rfl
    simp only [hplace, hentry, outcome_done, hput]

/-! ## Together -/

/-- A snapshot and a map that agree on every operation, for all arguments. -/
structure Refines (s : Snapshot) (m : PathMap) : Prop where
  isFolder : ∀ path, s.isFolder path = true ↔ m.entry? (m.resolve path) = some .folder
  isFile : ∀ path, s.isFile path = true ↔
    ∃ content, m.entry? (m.resolve path) = some (.file content)
  exists? : ∀ path, s.exists? path = true ↔ m.entry? (m.resolve path) ≠ none
  read : ∀ path, (s.read path).mapError FileError.kind = m.read path
  fileSize : ∀ path, (s.fileSize path).mapError FileError.kind = (m.read path).map String.length
  list : ∀ path,
    (m.entry? (m.resolve path) = some .folder ∧
      ∃ listing, s.list path = .ok listing ∧ m.Lists (m.resolve path) listing) ∨
    (m.entry? (m.resolve path) ≠ some .folder ∧
      ∃ reason, s.list path = .error reason ∧ reason.kind = .notFound)
  childCount : ∀ path, (s.childCount path).mapError FileError.kind =
    if m.entry? (m.resolve path) = some .folder then .ok (m.names (m.resolve path)).ncard
    else .error .notFound
  changeDirectory : ∀ path, outcome (s.changeDirectory path) = m.changeDirectory path
  mkdir : ∀ name, outcome (s.mkdir name) = m.mkdir name
  rmdir : ∀ path, outcome (s.rmdir path) = m.rmdir path
  ensureDirPath : ∀ path, outcome (s.ensureDirPath path) = m.ensureDirPath path
  write : ∀ path content, outcome (s.write path content) = m.write path content
  unlink : ∀ path, outcome (s.unlink path) = m.unlink path

/-- **A tree in order behaves like its map.** For every operation and all arguments the two refuse
together and for the same kind of reason, in the same order of reasons, and a change of the tree is
a change of the places the map names and of no other. -/
theorem refines_paths (hs : s.WellFormed) : s.Refines s.paths where
  isFolder := s.isFolder_iff
  isFile := isFile_iff hs
  exists? := exists_iff hs
  read := read_refines hs
  fileSize := fileSize_refines hs
  list path := by
    rcases list_cases hs path with hlist | ⟨hfolder, hlist⟩
    · exact Or.inl hlist
    · exact Or.inr ⟨hfolder, _, hlist, rfl⟩
  childCount := childCount_refines hs
  changeDirectory := s.changeDirectory_refines
  mkdir := s.mkdir_refines
  rmdir := rmdir_refines hs
  ensureDirPath := s.ensureDirPath_refines
  write := s.write_refines
  unlink := unlink_refines hs

/-- Two folders at the root, a file further down, and a current place inside one of them. -/
def workshop : Snapshot :=
  ⟨⟨"/", [⟨"home", [⟨"notes", [], [⟨"todo", "x"⟩]⟩], []⟩, ⟨"attic", [], []⟩], []⟩,
    ["home", "notes"]⟩

theorem refines_paths_workshop : workshop.Refines workshop.paths :=
  refines_paths (by decide)

end Snapshot

end TreeShell
