import TreeShell.Proofs.Path.Names
import TreeShell.Proofs.Tree.Lookup
import TreeShell.Tree.Snapshot

/-!
# Well-formed trees

What the operations of a file system rely on and keep up: in every folder, however deep, a name
stands for one entry, and is a name a path can lead to. The condition on one folder is `Tidy`; it
says nothing about what is inside the entries, so that a change at one place has to be looked at in
one folder only. `WellFormed` is `Tidy` at every depth, and `WellFormed.updateAt` is the reason for
the split: a change at a place keeps a tree well-formed as soon as it keeps the one folder there so.

The root's own name is free. It is no segment of any place.

`isWellFormed` decides the same condition, which makes it available on concrete trees.
-/

set_option autoImplicit false

namespace TreeShell

namespace Folder

/-- One folder in order: folders have distinct names, files have distinct names, no name is both a
folder's and a file's, and each is a name. -/
structure Tidy (folder : Folder) : Prop where
  folders : (folder.folders.map Folder.name).Nodup
  files : (folder.files.map File.name).Nodup
  apart : ∀ child ∈ folder.folders, ∀ file ∈ folder.files, child.name ≠ file.name
  folderNames : ∀ child ∈ folder.folders, Path.IsName child.name
  fileNames : ∀ file ∈ folder.files, Path.IsName file.name

/-- A folder in order at every depth. -/
inductive WellFormed : Folder → Prop
  | intro {folder : Folder} (tidy : folder.Tidy)
      (children : ∀ child ∈ folder.folders, child.WellFormed) : WellFormed folder

theorem WellFormed.tidy {folder : Folder} : folder.WellFormed → folder.Tidy
  | .intro tidy _ => tidy

theorem WellFormed.children {folder : Folder} :
    folder.WellFormed → ∀ child ∈ folder.folders, child.WellFormed
  | .intro _ children => children

/-! ## Deciding it -/

theorem tidy_iff {folder : Folder} :
    folder.Tidy ↔ (folder.folders.map Folder.name).Nodup ∧ (folder.files.map File.name).Nodup ∧
      (∀ child ∈ folder.folders, ∀ file ∈ folder.files, child.name ≠ file.name) ∧
      (∀ child ∈ folder.folders, Path.IsName child.name) ∧
      ∀ file ∈ folder.files, Path.IsName file.name :=
  ⟨fun ⟨a, b, c, d, e⟩ => ⟨a, b, c, d, e⟩, fun ⟨a, b, c, d, e⟩ => ⟨a, b, c, d, e⟩⟩

instance (folder : Folder) : Decidable folder.Tidy := decidable_of_iff' _ tidy_iff

mutual

/-- Whether a folder is in order at every depth. -/
def isWellFormed : Folder → Bool
  | ⟨name, folders, files⟩ =>
    decide (Folder.mk name folders files).Tidy && areWellFormed folders

/-- Whether each of some folders is in order at every depth. -/
def areWellFormed : List Folder → Bool
  | [] => true
  | folder :: rest => folder.isWellFormed && areWellFormed rest

end

mutual

theorem isWellFormed_iff : ∀ folder : Folder, folder.isWellFormed = true ↔ folder.WellFormed
  | ⟨name, folders, files⟩ => by
    rw [isWellFormed, Bool.and_eq_true, decide_eq_true_iff, areWellFormed_iff folders]
    exact ⟨fun ⟨tidy, children⟩ => .intro tidy children, fun h => ⟨h.tidy, h.children⟩⟩

theorem areWellFormed_iff : ∀ folders : List Folder,
    areWellFormed folders = true ↔ ∀ folder ∈ folders, folder.WellFormed
  | [] => by simp [areWellFormed]
  | folder :: rest => by
    rw [areWellFormed, Bool.and_eq_true, isWellFormed_iff folder, areWellFormed_iff rest,
      List.forall_mem_cons]

end

instance (folder : Folder) : Decidable folder.WellFormed :=
  decidable_of_iff _ (isWellFormed_iff folder)

/-! ## One folder -/

variable {folder child : Folder} {file : File} {name : String}

theorem Tidy.folder?_of_mem (h : folder.Tidy) (hc : child ∈ folder.folders) :
    folder.folder? child.name = some child :=
  find?_key_of_mem h.folders hc

theorem Tidy.file?_of_mem (h : folder.Tidy) (hf : file ∈ folder.files) :
    folder.file? file.name = some file :=
  find?_key_of_mem h.files hf

/-- In a folder in order a name that has a folder has no file. -/
theorem Tidy.file?_eq_none (h : folder.Tidy) (hc : folder.folder? name = some child) :
    folder.file? name = none := by
  cases hf : folder.file? name with
  | none => rfl
  | some file =>
    have hname := (name_of_folder? hc).trans (name_of_file? hf).symm
    exact absurd hname (h.apart child (mem_of_folder? hc) file (List.mem_of_find?_eq_some hf))

/-- In a folder in order a name that has a file has no folder. -/
theorem Tidy.folder?_eq_none (h : folder.Tidy) (hf : folder.file? name = some file) :
    folder.folder? name = none := by
  cases hc : folder.folder? name with
  | none => rfl
  | some child => cases (h.file?_eq_none hc).symm.trans hf

theorem tidy_empty (name : String) : (empty name).Tidy := by
  constructor <;> simp [empty]

theorem Tidy.addFolder (h : folder.Tidy) (hfree : folder.has child.name = false)
    (hn : Path.IsName child.name) : (folder.addFolder child).Tidy := by
  obtain ⟨hfolder, hfile⟩ := has_eq_false_iff.mp hfree
  rw [file?_eq_none_iff] at hfile
  refine ⟨nodup_map_concat h.folders hfolder, h.files, ?_, ?_, h.fileNames⟩
  · intro other ho file hf
    rcases List.mem_append.mp ho with ho | ho
    · exact h.apart other ho file hf
    · rw [List.mem_singleton.mp ho]
      exact fun heq => hfile (heq ▸ List.mem_map_of_mem hf)
  · intro other ho
    rcases List.mem_append.mp ho with ho | ho
    · exact h.folderNames other ho
    · rw [List.mem_singleton.mp ho]
      exact hn

theorem Tidy.removeFolder (h : folder.Tidy) (name : String) : (folder.removeFolder name).Tidy where
  folders := h.folders.sublist (List.eraseP_sublist.map _)
  files := h.files
  apart child hc := h.apart child (List.mem_of_mem_eraseP hc)
  folderNames child hc := h.folderNames child (List.mem_of_mem_eraseP hc)
  fileNames := h.fileNames

theorem Tidy.removeFile (h : folder.Tidy) (name : String) : (folder.removeFile name).Tidy where
  folders := h.folders
  files := h.files.sublist (List.eraseP_sublist.map _)
  apart child hc file hf := h.apart child hc file (List.mem_of_mem_eraseP hf)
  folderNames := h.folderNames
  fileNames file hf := h.fileNames file (List.mem_of_mem_eraseP hf)

/-- The names of the files after one was put are those before, and its own. -/
theorem mem_files_putFile {other : File} (h : other ∈ (folder.putFile file).files) :
    other ∈ folder.files ∨ other = file := by
  unfold putFile at h
  split at h
  · rcases mem_updateFirst h with h | ⟨_, -, rfl⟩
    · exact Or.inl h
    · exact Or.inr rfl
  · simpa using h

theorem Tidy.putFile (h : folder.Tidy) (hfree : folder.folder? file.name = none)
    (hn : Path.IsName file.name) : (folder.putFile file).Tidy := by
  have hfolders : (folder.putFile file).folders = folder.folders := by
    unfold Folder.putFile
    split <;> rfl
  rw [folder?_eq_none_iff] at hfree
  refine ⟨by rw [hfolders]; exact h.folders, ?_, ?_, by rw [hfolders]; exact h.folderNames, ?_⟩
  · cases hfile : folder.file? file.name with
    | some old =>
      -- The file takes the place of one of its name, so the names are the same list.
      simp only [Folder.putFile, hfile, Option.isSome_some, if_true]
      rw [map_updateFirst fun _ _ => rfl]
      exact h.files
    | none =>
      rw [putFile_of_file?_eq_none hfile]
      exact nodup_map_concat h.files hfile
  · intro child hc other ho
    rw [hfolders] at hc
    rcases mem_files_putFile ho with ho | rfl
    · exact h.apart child hc other ho
    · exact fun heq => hfree (heq ▸ List.mem_map_of_mem hc)
  · intro other ho
    rcases mem_files_putFile ho with ho | rfl
    · exact h.fileNames other ho
    · exact hn

/-! ## Every depth -/

theorem wellFormed_empty (name : String) : (empty name).WellFormed :=
  .intro (tidy_empty name) fun _ hc => absurd hc List.not_mem_nil

/-- The condition does not look at a folder's own name. -/
theorem WellFormed.rename (h : folder.WellFormed) (name : String) :
    { folder with name }.WellFormed :=
  .intro ⟨h.tidy.folders, h.tidy.files, h.tidy.apart, h.tidy.folderNames, h.tidy.fileNames⟩
    h.children

theorem WellFormed.addFolder (h : folder.WellFormed) (hc : child.WellFormed)
    (hfree : folder.has child.name = false) (hn : Path.IsName child.name) :
    (folder.addFolder child).WellFormed := by
  refine .intro (h.tidy.addFolder hfree hn) fun other ho => ?_
  rcases List.mem_append.mp ho with ho | ho
  · exact h.children other ho
  · rw [List.mem_singleton.mp ho]
    exact hc

theorem WellFormed.removeFolder (h : folder.WellFormed) (name : String) :
    (folder.removeFolder name).WellFormed :=
  .intro (h.tidy.removeFolder name) fun child hc => h.children child (List.mem_of_mem_eraseP hc)

theorem WellFormed.removeFile (h : folder.WellFormed) (name : String) :
    (folder.removeFile name).WellFormed :=
  .intro (h.tidy.removeFile name) h.children

theorem WellFormed.putFile (h : folder.WellFormed) (hfree : folder.folder? file.name = none)
    (hn : Path.IsName file.name) : (folder.putFile file).WellFormed := by
  refine .intro (h.tidy.putFile hfree hn) fun child hc => ?_
  unfold Folder.putFile at hc
  split at hc <;> exact h.children child hc

theorem WellFormed.descend? {place : List String} :
    ∀ {root inner : Folder}, root.WellFormed → root.descend? place = some inner →
      inner.WellFormed := by
  induction place with
  | nil =>
    intro root inner h hd
    cases hd
    exact h
  | cons name rest ih =>
    intro root inner h hd
    rw [descend?_cons] at hd
    obtain ⟨child, hc, hd⟩ := Option.bind_eq_some_iff.mp hd
    exact ih (h.children child (mem_of_folder? hc)) hd

/-- Replacing the first folder of a name by one of that name that is in order keeps a folder so. -/
theorem WellFormed.replaceFolder {f : Folder → Folder} (h : folder.WellFormed)
    (hname : ∀ child, child.name = name → (f child).name = name)
    (hf : ∀ child, folder.folder? name = some child → (f child).WellFormed) :
    { folder with folders := updateFirst (·.name == name) f folder.folders }.WellFormed := by
  -- A folder of the new list is an old one or the one that was put; either way an old one had its
  -- name, and that is all the condition on this folder looks at.
  have hmem : ∀ child ∈ updateFirst (·.name == name) f folder.folders,
      child ∈ folder.folders ∨ ∃ old, folder.folder? name = some old ∧ child = f old :=
    fun child hc => mem_updateFirst hc
  have hnames : ∀ child ∈ updateFirst (·.name == name) f folder.folders,
      ∃ old ∈ folder.folders, child.name = old.name := by
    intro child hc
    rcases hmem child hc with hc | ⟨old, ho, rfl⟩
    · exact ⟨child, hc, rfl⟩
    · have hold := name_of_folder? ho
      exact ⟨old, mem_of_folder? ho, (hname old hold).trans hold.symm⟩
  refine .intro ⟨?_, h.tidy.files, ?_, ?_, h.tidy.fileNames⟩ ?_
  · rw [map_updateFirst hname]
    exact h.tidy.folders
  · intro child hc file hfile
    obtain ⟨old, ho, hold⟩ := hnames child hc
    rw [hold]
    exact h.tidy.apart old ho file hfile
  · intro child hc
    obtain ⟨old, ho, hold⟩ := hnames child hc
    rw [hold]
    exact h.tidy.folderNames old ho
  · intro child hc
    rcases hmem child hc with hc | ⟨old, ho, rfl⟩
    · exact h.children child hc
    · exact hf old ho

/-- **A change at a place is looked at there.** The induction is on the place; the way down is
rebuilt by `replaceFolder`, and only the folder at its end is another one. -/
theorem WellFormed.updateAt {f : Folder → Folder} (hname : ∀ folder, (f folder).name = folder.name)
    {place : List String} : ∀ {root inner : Folder}, root.WellFormed →
      root.descend? place = some inner → (f inner).WellFormed →
      (Folder.updateAt f place root).WellFormed := by
  induction place with
  | nil =>
    intro root inner _ hd hf
    cases hd
    exact hf
  | cons name rest ih =>
    intro root inner h hd hf
    rw [descend?_cons] at hd
    obtain ⟨child, hc, hd⟩ := Option.bind_eq_some_iff.mp hd
    refine h.replaceFolder (fun other ho => (name_updateAt hname rest other).trans ho) ?_
    intro other ho
    cases hc.symm.trans ho
    exact ih (h.children child (mem_of_folder? hc)) hd hf

theorem wellFormed_nest {rest : List String} (h : Path.AreNames rest) (name : String) :
    (nest name rest).WellFormed := by
  induction rest generalizing name with
  | nil => exact wellFormed_empty name
  | cons next rest ih =>
    obtain ⟨hnext, hrest⟩ := Path.areNames_cons.mp h
    have hname : (nest next rest).name = next := by cases rest <;> rfl
    exact (wellFormed_empty name).addFolder (ih hrest next) rfl (by rw [hname]; exact hnext)

end Folder

/-! ## Snapshots -/

namespace Snapshot

/-- A tree in order, and a current place made of names. The place need not exist. -/
structure WellFormed (s : Snapshot) : Prop where
  root : s.root.WellFormed
  cwd : Path.AreNames s.cwd

instance (s : Snapshot) : Decidable s.WellFormed :=
  decidable_of_iff (s.root.WellFormed ∧ Path.AreNames s.cwd)
    ⟨fun ⟨root, cwd⟩ => ⟨root, cwd⟩, fun ⟨root, cwd⟩ => ⟨root, cwd⟩⟩

theorem wellFormed_fresh : fresh.WellFormed :=
  ⟨Folder.wellFormed_empty rootName, Path.areNames_nil⟩

/-- A path names a place made of names. -/
theorem WellFormed.resolve {s : Snapshot} (h : s.WellFormed) (path : String) :
    Path.AreNames (s.resolve path) :=
  Path.areNames_resolve h.cwd path

theorem WellFormed.update {s : Snapshot} {place : List String} {f : Folder → Folder}
    {folder : Folder} (h : s.WellFormed) (hname : ∀ folder, (f folder).name = folder.name)
    (hd : s.folderAt? place = some folder) (hf : (f folder).WellFormed) :
    (s.update place f).WellFormed :=
  ⟨h.root.updateAt hname hd hf, h.cwd⟩

end Snapshot

end TreeShell
