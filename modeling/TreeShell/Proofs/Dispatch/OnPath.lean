import TreeShell.Proofs.Dispatch.Routes

/-!
# The program a command word names

The entries of the search path are gone through in order, and the first that offers the program's
file is taken. An entry is used in two ways. To see what it offers it is resolved as any path is;
but the path of the program is put together from its pieces as they are written, with all `.` and
`..` among them, and is resolved when the program is read. The two lead to the same folder, from
whatever folder is current (`find?_first_offer`).

What is found without its extension is also offered by completion, which takes the extension off
without regard to case.
-/

set_option autoImplicit false

namespace TreeShell

namespace Text

/-- The extension is in small letters, so it is at the end of a text in small letters too. -/
theorem suffix_lowered (front before : List Char) :
    programExtension.toList <:+ lowered before (front ++ programExtension.toList) := by
  induction front generalizing before with
  | nil =>
    have hextension : programExtension.toList = ['.', 'p', 'y'] := by decide
    rw [hextension]
    exact List.suffix_rfl
  | cons c rest ih =>
    rw [List.cons_append, lowered]
    exact (ih (c :: before)).trans (List.suffix_append _ _)

theorem endsIn_lower_program (name : String) :
    endsIn (lower (name ++ programExtension)) programExtension = true := by
  rw [endsIn, lower, String.toList_ofList, String.toList_append]
  exact List.isSuffixOf_iff_suffix.mpr (suffix_lowered name.toList [])

theorem dropLast_append (a b : String) : dropLast b.length (a ++ b) = a := by
  rw [dropLast, String.toList_append, String.length_append, Nat.add_sub_cancel,
    ← String.length_toList, List.take_left, String.ofList_toList]

end Text

/-- Where the map has a file, the tree has one with its content. -/
theorem Snapshot.WellFormed.exists_file {s : Snapshot} (hs : s.WellFormed) {place : List String}
    {content : String} (h : s.paths.entry? place = some (.file content)) :
    ∃ file, s.fileAt? place = some file ∧ file.content = content := by
  rw [Snapshot.entry?_paths] at h
  cases hs.found place with
  | folder _ _ hentry => exact nomatch hentry.symm.trans h
  | @file file _ hfile hentry =>
    cases hentry.symm.trans h
    exact ⟨file, hfile, rfl⟩
  | nothing _ _ hentry => exact nomatch hentry.symm.trans h

namespace SearchPath

variable {path : SearchPath} {s : Snapshot} {entry : Json} {file folder command program : String}

/-! ## Names of files -/

/-- The file that is looked for has the extension. -/
theorem fileFor_eq_append (command : String) :
    ∃ name, fileFor command = name ++ programExtension := by
  unfold fileFor
  split
  · next h =>
    obtain ⟨name, hname⟩ := List.isSuffixOf_iff_suffix.mp h
    refine ⟨.ofList name, String.toList_injective ?_⟩
    rw [String.toList_append, String.toList_ofList, hname]
  · exact ⟨command, rfl⟩

/-- A command word without a separator gives the file a name that a folder can hold. -/
theorem isName_fileFor (hsep : '/' ∉ command.toList) : Path.IsName (fileFor command) := by
  obtain ⟨name, hname⟩ := fileFor_eq_append command
  have hlong (other : String) (h : other.length < 3) : fileFor command ≠ other := by
    rintro rfl
    have hlength := congrArg String.length hname
    have hextension : programExtension.length = 3 := rfl
    rw [String.length_append] at hlength
    omega
  refine ⟨hlong _ (by decide), ?_, hlong _ (by decide), hlong _ (by decide)⟩
  unfold fileFor
  split
  · exact hsep
  · rw [String.toList_append, List.mem_append, not_or]
    exact ⟨hsep, by decide⟩

/-- Completion gives the file that is looked for back its command word. -/
theorem commandOf?_fileFor (h : Text.endsIn command programExtension = false) :
    commandOf? (fileFor command) = some command := by
  rw [fileFor, h, if_neg Bool.false_ne_true, commandOf?, if_pos (Text.endsIn_lower_program command),
    Text.dropLast_append]

/-! ## What an entry offers -/

/-- An entry of a search path offers a file: it is an absolute path, and leads to a folder with that
file. -/
def Offers (s : Snapshot) (file : String) : Json → Prop
  | .string folder => Path.isAbsolute folder = true ∧
      s.paths.entry? (Path.resolve [] folder) = some .folder ∧
      ∃ content, s.paths.entry? (Path.resolve [] folder ++ [file]) = some (.file content)
  | _ => False

/-- The file of a name that an entry leads to. -/
def offered? (s : Snapshot) (file : String) (entry : Json) : Option String :=
  (entry.string?.filter Path.isAbsolute).bind (locate? s file)

theorem findSome?_folders (path : SearchPath) (s : Snapshot) (file : String) :
    path.folders.findSome? (locate? s file) = path.findSome? (offered? s file) := by
  rw [folders, Json.strings]
  induction path with
  | nil => rfl
  | cons entry rest ih =>
    rw [List.filterMap_cons, List.findSome?_cons, ← ih, offered?]
    cases entry.string? with
    | none => rfl
    | some folder =>
      dsimp only
      rw [List.filter_cons, Option.filter_some]
      split <;> rfl

/-- A folder lists a file when the place of the file holds one. -/
theorem listed_iff (hs : s.WellFormed) (hfolder : Path.isAbsolute folder = true) :
    (∃ listing, s.list folder = .ok listing ∧ file ∈ listing.files) ↔
      s.paths.entry? (Path.resolve [] folder) = some .folder ∧
        ∃ content, s.paths.entry? (Path.resolve [] folder ++ [file]) = some (.file content) := by
  have hplace : s.resolve folder = Path.resolve [] folder := Path.resolve_of_isAbsolute hfolder _
  rw [← hplace]
  rcases Snapshot.list_cases hs folder with ⟨hentry, listing, hlist, hlists⟩ | ⟨hentry, hlist⟩
  · rw [hlist, ← hlists.mem_files]
    simp [hentry]
  · rw [hlist]
    exact iff_of_false (by simp) fun h => hentry h.1

theorem offered?_string_iff (hs : s.WellFormed) :
    offered? s file (.string folder) = some program ↔
      Offers s file (.string folder) ∧ program = Path.join folder file := by
  rw [offered?, Json.string?, Option.filter_some, Offers]
  cases hfolder : Path.isAbsolute folder with
  | false => simp
  | true => rw [if_pos rfl, Option.bind_some, locate?_eq_some_iff, listed_iff hs hfolder]; simp

theorem offered?_eq_none_iff (hs : s.WellFormed) :
    offered? s file entry = none ↔ ¬ Offers s file entry := by
  cases entry with
  | string folder =>
    rw [Option.eq_none_iff_forall_ne_some]
    constructor
    · exact fun h hoffers => h _ ((offered?_string_iff hs).mpr ⟨hoffers, rfl⟩)
    · exact fun h program hprogram => h ((offered?_string_iff hs).mp hprogram).1
  | _ => exact iff_of_true rfl id

/-! ## The first that offers the file -/

theorem exists_string_of_offered? (h : offered? s file entry = some program) :
    ∃ folder, entry = .string folder := by
  cases entry with
  | string folder => exact ⟨folder, rfl⟩
  | _ => exact nomatch h

/-- The entry of a folder is the first that offers a file, with any others before it. -/
def FirstOffer (path : SearchPath) (s : Snapshot) (file folder : String) : Prop :=
  ∃ before after, path = before ++ .string folder :: after ∧ Offers s file (.string folder) ∧
    ∀ entry ∈ before, ¬ Offers s file entry

theorem findSome?_folders_eq_some_iff (hs : s.WellFormed) :
    path.folders.findSome? (locate? s file) = some program ↔
      ∃ folder, path.FirstOffer s file folder ∧ program = Path.join folder file := by
  rw [findSome?_folders, List.findSome?_eq_some_iff]
  constructor
  · rintro ⟨before, entry, after, hpath, hentry, hbefore⟩
    obtain ⟨folder, rfl⟩ := exists_string_of_offered? hentry
    obtain ⟨hoffers, hprogram⟩ := (offered?_string_iff hs).mp hentry
    exact ⟨folder, ⟨before, after, hpath, hoffers, fun entry hmem =>
      (offered?_eq_none_iff hs).mp (hbefore entry hmem)⟩, hprogram⟩
  · rintro ⟨folder, ⟨before, after, hpath, hoffers, hbefore⟩, hprogram⟩
    exact ⟨before, .string folder, after, hpath, (offered?_string_iff hs).mpr ⟨hoffers, hprogram⟩,
      fun entry hmem => (offered?_eq_none_iff hs).mpr (hbefore entry hmem)⟩

theorem find?_eq_none_of_excluded (h : command = "" ∨ '/' ∈ command.toList) :
    path.find? s command = none := by
  rw [find?, if_pos]
  simpa using h

/-- Nothing is found for a word that is not looked for, and for a file that no entry offers. -/
theorem find?_eq_none_iff_not_offers (hs : s.WellFormed) :
    path.find? s command = none ↔
      command = "" ∨ '/' ∈ command.toList ∨ ∀ entry ∈ path, ¬ Offers s (fileFor command) entry := by
  rw [← or_assoc]
  by_cases hexcluded : command = "" ∨ '/' ∈ command.toList
  · exact iff_of_true (find?_eq_none_of_excluded hexcluded) (.inl hexcluded)
  · rw [or_iff_right hexcluded]
    obtain ⟨hne, hsep⟩ := not_or.mp hexcluded
    rw [find?_eq_findSome? hne hsep, findSome?_folders, List.findSome?_eq_none_iff]
    exact forall₂_congr fun entry _ => offered?_eq_none_iff hs

/-! ## What is read -/

/-- The path of a file that an entry offers leads to the file, from wherever it is resolved. -/
theorem Offers.resolve_join (h : Offers s file (.string folder)) (hfile : Path.IsName file)
    (cwd : List String) :
    Path.resolve cwd (Path.join folder file) = Path.resolve [] folder ++ [file] := by
  rw [Path.resolve_join h.1 hfile, Path.resolve_of_isAbsolute h.1]

/-- The file that an entry offers can be read by its path, whatever folder is current then. -/
theorem Offers.exists_read (h : Offers s file (.string folder)) (hs : s.WellFormed)
    (hfile : Path.IsName file) :
    ∃ content, s.paths.entry? (Path.resolve [] folder ++ [file]) = some (.file content) ∧
      ∀ t : Snapshot, t.root = s.root → t.read (Path.join folder file) = .ok content := by
  obtain ⟨content, hentry⟩ := h.2.2
  obtain ⟨held, hheld, rfl⟩ := hs.exists_file hentry
  refine ⟨held.content, hentry, fun t hroot => ?_⟩
  obtain ⟨root, cwd⟩ := t
  obtain rfl : root = s.root := hroot
  -- a file is looked up from the root, so the current folder has no say in that either
  have hthere : Snapshot.fileAt? ⟨s.root, cwd⟩ (Path.resolve [] folder ++ [file]) = some held :=
    hheld
  rw [Snapshot.read, Snapshot.resolve, h.resolve_join hfile, hthere]

theorem FirstOffer.offers (h : path.FirstOffer s file folder) : Offers s file (.string folder) := by
  obtain ⟨before, after, -, hoffers, -⟩ := h
  exact hoffers

/-- A folder that offers a file first is a folder of the search path, and has the file. -/
theorem FirstOffer.holds (h : path.FirstOffer s file folder) (hs : s.WellFormed) :
    path.Holds s folder file := by
  obtain ⟨before, after, rfl, ⟨hfolder, hlisted⟩, -⟩ := h
  refine ⟨?_, (listed_iff hs hfolder).mpr hlisted⟩
  rw [folders, List.mem_filter, Json.strings, List.mem_filterMap]
  exact ⟨⟨.string folder, List.mem_append_right _ List.mem_cons_self, rfl⟩, hfolder⟩

/-- **The first entry that offers the program is the one that is run.** Nothing is found only for a
word that is empty or has a separator, and for one whose file no entry offers. What is found leads
from any folder to the file in the folder of the first entry that offers it; that is the text that
is run, so that the program is never unreadable. And completion knows a command word that has not
the extension itself. -/
theorem find?_first_offer (hs : s.WellFormed) (path : SearchPath) (command : String) :
    (path.find? s command = none ↔
      command = "" ∨ '/' ∈ command.toList ∨ ∀ entry ∈ path, ¬ Offers s (fileFor command) entry) ∧
    ∀ program, path.find? s command = some program →
      ∃ folder, path.FirstOffer s (fileFor command) folder ∧
        (∀ cwd, Path.resolve cwd program = Path.resolve [] folder ++ [fileFor command]) ∧
        (∃ content, s.paths.entry? (Path.resolve [] folder ++ [fileFor command]) =
            some (.file content) ∧
          ∀ (t : Session) runner args invokedAs?, t.files.snapshot.root = s.root →
            (Shell.runProgram runner program args invokedAs?).run t =
              (Shell.runProgramText runner program content
                ⟨Shell.calledAs program invokedAs?, args⟩).run t) ∧
        (Text.endsIn command programExtension = false → command ∈ path.commands s) := by
  refine ⟨find?_eq_none_iff_not_offers hs, fun program hprogram => ?_⟩
  have hsome : ¬ (command = "" ∨ '/' ∈ command.toList) := fun hexcluded =>
    nomatch hprogram.symm.trans (find?_eq_none_of_excluded hexcluded)
  obtain ⟨hne, hsep⟩ := not_or.mp hsome
  rw [find?_eq_findSome? hne hsep] at hprogram
  obtain ⟨folder, hfirst, rfl⟩ := (findSome?_folders_eq_some_iff hs).mp hprogram
  have hfile := isName_fileFor hsep
  obtain ⟨content, hentry, hread⟩ := hfirst.offers.exists_read hs hfile
  refine ⟨folder, hfirst, hfirst.offers.resolve_join hfile, ⟨content, hentry, ?_⟩, ?_⟩
  · intro t runner args invokedAs? hroot
    exact Shell.run_runProgram (hread t.files.snapshot hroot) runner args invokedAs?
  · intro hextension
    exact mem_commands_iff.mpr
      ⟨hne, folder, fileFor command, hfirst.holds hs, commandOf?_fileFor hextension⟩

/-- A tree with a program in two folders, seen from a place that is gone. -/
def twoTools : Snapshot :=
  ⟨⟨"/", [⟨"bin", [], [⟨"tool.py", "first"⟩]⟩, ⟨"opt", [], [⟨"tool.py", "second"⟩]⟩], []⟩, ["gone"]⟩

/-- A number, a relative entry, a folder that is not there, and two that offer the program. -/
def windingPath : SearchPath :=
  [.int 3, .string "bin", .string "/missing", .string "/bin/..//opt/./", .string "/bin"]

theorem find?_first_offer_winding :
    twoTools.WellFormed ∧ windingPath.find? twoTools "tool" = some "/bin/../opt/./tool.py" ∧
      ∃ folder, windingPath.FirstOffer twoTools "tool.py" folder ∧
        (∀ cwd, Path.resolve cwd "/bin/../opt/./tool.py" = Path.resolve [] folder ++ ["tool.py"]) ∧
        "tool" ∈ windingPath.commands twoTools := by
  have hs : twoTools.WellFormed := by decide
  have hfound : windingPath.find? twoTools "tool" = some "/bin/../opt/./tool.py" := by
    decide +kernel
  obtain ⟨folder, hfirst, hresolve, -, hcommand⟩ :=
    (find?_first_offer hs windingPath "tool").2 _ hfound
  exact ⟨hs, hfound, folder, hfirst, hresolve, hcommand (by decide)⟩

end SearchPath

end TreeShell
