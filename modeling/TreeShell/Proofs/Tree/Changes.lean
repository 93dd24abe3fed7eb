import TreeShell.Proofs.Tree.Entries

/-!
# What a change does to a snapshot

For each change an operation may record there are two facts: the tree stays in order, and the map of
its places is the old one but for a graft. Both are lifted here from the one folder that changes to
the snapshot, so that from now on nothing has to be said about the inside of a tree.

`ensureIn` changes more than one entry. It walks down and builds what is missing, so the fact about
it follows its recursion: `EnsureEnds` says of each of its three results what it means for the
places along the way. Going down is `EnsureEnds.cons`, where a way of folders below one name becomes
a way that is one name longer (`Entries.graft_path`); the place where building starts is
`EnsureEnds.nest`.
-/

set_option autoImplicit false

namespace TreeShell

/-- What an entry is to the map of places. -/
def Node.entry : Node → Entry
  | .file held => .file held.content
  | .folder _ => .folder

theorem Node.entry_eq_folder_iff {node : Node} : node.entry = .folder ↔ node.kind = .folder := by
  cases node <;> simp [Node.entry, Node.kind]

namespace Snapshot

variable {s : Snapshot} {place parent : List String} {name : String} {above child : Folder}
  {file : File}

/-! ## What a snapshot finds, in terms of entries -/

theorem entryAt?_eq_folder_iff :
    s.root.entryAt? place = some .folder ↔ ∃ folder, s.folderAt? place = some folder :=
  Folder.entryAt?_eq_folder_iff

theorem entryAt?_concat (h : s.folderAt? parent = some above) (name : String) :
    s.root.entryAt? (parent ++ [name]) = above.entryAt? [name] :=
  Folder.entryAt?_append h [name]

theorem entryAt?_of_folder? (h : s.folderAt? parent = some above)
    (hc : above.folder? name = some child) :
    s.root.entryAt? (parent ++ [name]) = some .folder := by
  rw [entryAt?_concat h, Folder.entryAt?_cons_of_folder? hc]
  rfl

theorem entryAt?_of_file? (hs : s.WellFormed) (h : s.folderAt? parent = some above)
    (hf : above.file? name = some file) :
    s.root.entryAt? (parent ++ [name]) = some (.file file.content) := by
  have hfolder := (hs.root.descend? h).tidy.folder?_eq_none hf
  rw [entryAt?_concat h, Folder.entryAt?_cons_of_folder?_eq_none hfolder, if_pos rfl, hf]
  rfl

/-- A file is read where the map has one. No folder stands before it there, so the tree need not be
in order. -/
theorem read_of_entryAt? {path content : String}
    (h : s.root.entryAt? (s.resolve path) = some (.file content)) : s.read path = .ok content := by
  have hne : s.resolve path ≠ [] := by
    intro hnil
    rw [hnil] at h
    cases h
  obtain ⟨parent, name, hplace⟩ := Path.exists_eq_concat hne
  rw [hplace] at h
  have hparent := s.root.closed_entryAt? parent name [] (by rw [h]; simp)
  obtain ⟨above, habove⟩ := entryAt?_eq_folder_iff.mp hparent
  rw [entryAt?_concat habove] at h
  rcases Folder.entryAt?_cons_eq_some h with ⟨child, -, hchild⟩ | ⟨-, file, hfile, hcontent⟩
  · cases hchild
  · cases hcontent
    rw [read, hplace, fileAt?_concat, habove, Option.bind_some, hfile]

/-- What is found at a place: the two lookups exclude each other, and the map has what they
find. -/
inductive Found (s : Snapshot) (place : List String) : Prop
  | folder {folder : Folder} (hfolder : s.folderAt? place = some folder)
      (hfile : s.fileAt? place = none) (hentry : s.root.entryAt? place = some .folder)
  | file {file : File} (hfolder : s.folderAt? place = none) (hfile : s.fileAt? place = some file)
      (hentry : s.root.entryAt? place = some (.file file.content))
  | nothing (hfolder : s.folderAt? place = none) (hfile : s.fileAt? place = none)
      (hentry : s.root.entryAt? place = none)

theorem WellFormed.found (hs : s.WellFormed) (place : List String) : s.Found place := by
  by_cases hnil : place = []
  · subst hnil
    exact .folder rfl rfl rfl
  · obtain ⟨parent, name, rfl⟩ := Path.exists_eq_concat hnil
    have hfolders := folderAt?_concat s parent name
    have hfiles := fileAt?_concat s parent name
    cases habove : s.folderAt? parent with
    | none =>
      rw [habove] at hfolders hfiles
      exact .nothing hfolders hfiles (Folder.entryAt?_append_of_descend?_eq_none habove name [])
    | some above =>
      rw [habove] at hfolders hfiles
      have htidy := (hs.root.descend? habove).tidy
      cases hc : above.folder? name with
      | some child =>
        exact .folder (hfolders.trans hc) (hfiles.trans (htidy.file?_eq_none hc))
          (entryAt?_of_folder? habove hc)
      | none =>
        cases hf : above.file? name with
        | some file =>
          exact .file (hfolders.trans hc) (hfiles.trans hf) (entryAt?_of_file? hs habove hf)
        | none =>
          refine .nothing (hfolders.trans hc) (hfiles.trans hf) ?_
          rw [entryAt?_concat habove, Folder.entryAt?_cons_of_folder?_eq_none hc, if_pos rfl, hf]
          rfl

/-- What is at a place, as an entry, is what the map has there. -/
theorem nodeAt?_entry (hs : s.WellFormed) (place : List String) :
    (s.nodeAt? place).map Node.entry = s.root.entryAt? place := by
  unfold nodeAt?
  cases hs.found place with
  | folder hfolder hfile hentry => rw [hfile, hfolder, hentry]; rfl
  | file hfolder hfile hentry => rw [hfile, hentry]; rfl
  | nothing hfolder hfile hentry => rw [hfile, hfolder, hentry]; rfl

/-! ## One entry -/

theorem entryAt?_addEmpty (h : s.folderAt? parent = some above) (hfree : above.has name = false) :
    (s.update parent (·.addFolder (.empty name))).root.entryAt? =
      Entries.graft s.root.entryAt? (parent ++ [name]) (Entries.leaf (some .folder)) := by
  have hempty : (Folder.empty name).entryAt? = Entries.leaf (some .folder) :=
    Folder.entryAt?_of_isEmpty rfl
  rw [← hempty]
  exact Folder.entryAt?_updateAt_entry (fun folder => Folder.name_addFolder folder _) h
    (Folder.entryAt?_addFolder (Folder.has_eq_false_iff.mp hfree).1)

theorem WellFormed.addEmpty (hs : s.WellFormed) (h : s.folderAt? parent = some above)
    (hfree : above.has name = false) (hn : Path.IsName name) :
    (s.update parent (·.addFolder (.empty name))).WellFormed :=
  hs.update (fun folder => Folder.name_addFolder folder _) h
    ((hs.root.descend? h).addFolder (Folder.wellFormed_empty name) hfree hn)

theorem entryAt?_removeFolder (hs : s.WellFormed) (h : s.folderAt? parent = some above)
    (hc : above.folder? name = some child) :
    (s.update parent (·.removeFolder name)).root.entryAt? =
      Entries.graft s.root.entryAt? (parent ++ [name]) (Entries.leaf none) :=
  Folder.entryAt?_updateAt_entry (fun folder => Folder.name_removeFolder folder name) h
    ((hs.root.descend? h).tidy.entryAt?_removeFolder hc)

theorem WellFormed.removeFolder (hs : s.WellFormed) (h : s.folderAt? parent = some above)
    (name : String) : (s.update parent (·.removeFolder name)).WellFormed :=
  hs.update (fun folder => Folder.name_removeFolder folder name) h
    ((hs.root.descend? h).removeFolder name)

theorem entryAt?_putFile (h : s.folderAt? parent = some above) (hfree : above.folder? name = none)
    (content : String) :
    (s.update parent (·.putFile ⟨name, content⟩)).root.entryAt? =
      Entries.graft s.root.entryAt? (parent ++ [name])
        (Entries.leaf (some (.file content))) :=
  Folder.entryAt?_updateAt_entry (fun folder => Folder.name_putFile folder _) h
    (Folder.entryAt?_putFile hfree)

theorem WellFormed.putFile (hs : s.WellFormed) (h : s.folderAt? parent = some above)
    (hfree : above.folder? name = none) (hn : Path.IsName name) (content : String) :
    (s.update parent (·.putFile ⟨name, content⟩)).WellFormed :=
  hs.update (fun folder => Folder.name_putFile folder _) h
    ((hs.root.descend? h).putFile hfree hn)

theorem entryAt?_removeFile (hs : s.WellFormed) (h : s.folderAt? parent = some above)
    (hf : above.file? name = some file) :
    (s.update parent (·.removeFile name)).root.entryAt? =
      Entries.graft s.root.entryAt? (parent ++ [name]) (Entries.leaf none) :=
  Folder.entryAt?_updateAt_entry (fun folder => Folder.name_removeFile folder name) h
    ((hs.root.descend? h).tidy.entryAt?_removeFile hf)

theorem WellFormed.removeFile (hs : s.WellFormed) (h : s.folderAt? parent = some above)
    (name : String) : (s.update parent (·.removeFile name)).WellFormed :=
  hs.update (fun folder => Folder.name_removeFile folder name) h
    ((hs.root.descend? h).removeFile name)

/-- A file that is written as it is leaves the tree as it is. -/
theorem write_eq_self (hs : s.WellFormed) {path content : String}
    (h : s.read path = .ok content) : s.write path content = .ok ⟨(), some s⟩ := by
  unfold read at h
  have hends := s.write_ends path content
  generalize s.write path content = attempt at hends ⊢
  cases hfile : s.fileAt? (s.resolve path) with
  | none =>
    rw [hfile] at h
    exact nomatch h
  | some file =>
    rw [hfile] at h
    cases h
    cases hends with
    | root hplace =>
      rw [hplace] at hfile
      exact nomatch hfile
    | noParent hplace habove =>
      rw [hplace, fileAt?_concat, habove] at hfile
      exact nomatch hfile
    | onFolder hplace habove hfolder =>
      rw [hplace, fileAt?_concat, habove] at hfile
      exact nomatch ((hs.root.descend? habove).tidy.file?_eq_none hfolder).symm.trans hfile
    | @written parent name above hplace habove hfree =>
      rw [hplace, fileAt?_concat, habove] at hfile
      have hput : above.putFile ⟨name, file.content⟩ = above := by
        cases Folder.name_of_file? hfile
        exact Folder.putFile_eq_self hfile
      rw [update, Folder.updateAt_eq_self habove hput]

end Snapshot

/-! ## Making what is missing along a way -/

namespace Folder

variable {folder child : Folder} {name path : String} {place rest : List String}

/-- How `ensureIn` ends, in terms of what is at the places along the way. -/
inductive EnsureEnds (path : String) (place : List String) (folder : Folder) :
    Except FileError (Option Folder) → Prop
  | blocked {way : List String} {content name : String} (hway : way <+: place)
      (hfile : folder.entryAt? way = some (.file content)) :
      EnsureEnds path place folder (.error (.nameTaken name path))
  | there (hplace : folder.entryAt? place = some .folder) :
      EnsureEnds path place folder (.ok none)
  | made {next : Folder} (hname : next.name = folder.name)
      (hmissing : folder.entryAt? place = none)
      (hclear : ∀ way content, way <+: place → folder.entryAt? way ≠ some (.file content))
      (hentries : next.entryAt? =
        fun other => if other <+: place then some .folder else folder.entryAt? other)
      (hkeeps : folder.WellFormed → Path.AreNames place → next.WellFormed) :
      EnsureEnds path place folder (.ok (some next))

/-- The way starts with a folder that is there: what happens in it happens, one name further down,
in the folder that holds it. -/
theorem EnsureEnds.cons {result : Except FileError (Option Folder)}
    (hc : folder.folder? name = some child) (h : EnsureEnds path rest child result) :
    EnsureEnds path (name :: rest) folder (result.map fun next? => next?.map fun next =>
      { folder with folders := updateFirst (·.name == name) (fun _ => next) folder.folders }) := by
  cases h with
  | blocked hway hfile =>
    exact .blocked (List.cons_prefix_cons.mpr ⟨rfl, hway⟩)
      ((entryAt?_cons_of_folder? hc).trans hfile)
  | there hplace => exact .there (by rw [entryAt?_cons_of_folder? hc, hplace])
  | @made next hname hmissing hclear hentries hkeeps =>
    have hreplaced : ∀ other : Folder, other.name = name → next.name = name :=
      fun _ _ => hname.trans (name_of_folder? hc)
    refine .made rfl (by rw [entryAt?_cons_of_folder? hc, hmissing]) ?_ ?_ ?_
    · intro way content hway
      cases way with
      | nil => simp
      | cons first others =>
        obtain ⟨rfl, hothers⟩ := List.cons_prefix_cons.mp hway
        rw [entryAt?_cons_of_folder? hc]
        exact hclear others content hothers
    · rw [entryAt?_replaceFolder hreplaced hc, hentries]
      simp only [← entryAt?_cons_of_folder? hc]
      exact Entries.graft_path rfl
    · intro hfolder hnames
      obtain ⟨-, hrest⟩ := Path.areNames_cons.mp hnames
      exact hfolder.replaceFolder hreplaced fun _ _ =>
        hkeeps (hfolder.children child (mem_of_folder? hc)) hrest

/-- The way starts with a name that is free: from here on everything is new. -/
theorem EnsureEnds.nest (hfree : folder.has name = false) :
    EnsureEnds path (name :: rest) folder
      (.ok (some (folder.addFolder (Folder.nest name rest)))) := by
  obtain ⟨hfolder, hfile⟩ := has_eq_false_iff.mp hfree
  have hname : (Folder.nest name rest).name = name := by cases rest <;> rfl
  have hnothing : ∀ more, folder.entryAt? (name :: more) = none := by
    intro more
    simp [entryAt?_cons_of_folder?_eq_none hfolder, hfile]
  refine .made rfl (hnothing rest) ?_ ?_ ?_
  · intro way content hway
    cases way with
    | nil => simp
    | cons first others =>
      obtain ⟨rfl, -⟩ := List.cons_prefix_cons.mp hway
      simp [hnothing others]
  · have hnest : (Folder.nest name rest).entryAt? = fun other =>
        if other <+: rest then some .folder else folder.entryAt? (name :: other) := by
      funext other
      rw [entryAt?_nest, hnothing]
    rw [entryAt?_addFolder (by rw [hname]; exact hfolder), hname, hnest]
    exact Entries.graft_path rfl
  · intro hwell hnames
    obtain ⟨hn, hrest⟩ := Path.areNames_cons.mp hnames
    exact hwell.addFolder (wellFormed_nest hrest name) (by rw [hname]; exact hfree)
      (by rw [hname]; exact hn)

theorem ensureIn_ends (path : String) (place : List String) (folder : Folder) :
    EnsureEnds path place folder (Snapshot.ensureIn path place folder) := by
  induction place generalizing folder with
  | nil => exact .there rfl
  | cons name rest ih =>
    rw [Snapshot.ensureIn]
    cases hc : folder.folder? name with
    | some child =>
      have hchild := EnsureEnds.cons hc (ih child)
      dsimp only
      cases hresult : Snapshot.ensureIn path rest child with
      | error reason => simpa [hresult, Except.map] using hchild
      | ok next? => cases next? <;> simpa [hresult, Except.map] using hchild
    | none =>
      cases hfile : folder.file? name with
      | some held =>
        have hentry : folder.entryAt? [name] = some (.file held.content) := by
          simp [entryAt?_cons_of_folder?_eq_none hc, hfile]
        have hway : [name] <+: name :: rest := by simp [List.cons_prefix_cons]
        exact .blocked hway hentry
      | none => exact .nest (has_eq_false_iff.mpr ⟨hc, hfile⟩)

end Folder

end TreeShell
