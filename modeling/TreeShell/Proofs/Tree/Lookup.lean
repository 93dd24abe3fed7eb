import TreeShell.Tree.Basic

/-!
# Looking up a name after a change

A folder is changed in three ways, each for folders and for files: an entry is added at the end, the
first entry of a name is replaced, the first entry of a name is taken out. What a later lookup
answers is always the same pair of facts, one for the name the change was about and one for every
other name, and both are facts about lists with a key. They are proved here once for any key
and then read off for `Folder.folder?` and `Folder.file?`.

Taking out is the one change that can bring something to light: behind the first entry of a name
there may be a second. `find?_eraseP_self` is therefore the only lemma that asks for distinct names.
-/

set_option autoImplicit false

namespace TreeShell

/-! ## Lists with a key -/

section Keyed

variable {α : Type} {key : α → String} {name : String} {l : List α}

theorem find?_key_eq_none_iff : l.find? (key · == name) = none ↔ name ∉ l.map key := by
  simp [List.find?_eq_none, List.mem_map]

/-- What is found has the name it was looked up by. -/
theorem key_of_find?_eq_some {a : α} (h : l.find? (key · == name) = some a) : key a = name := by
  simpa using List.find?_some h

/-- Where names are distinct, an entry is what its own name leads to. -/
theorem find?_key_of_mem {a : α} (h : (l.map key).Nodup) (ha : a ∈ l) :
    l.find? (key · == key a) = some a := by
  induction l with
  | nil => exact absurd ha List.not_mem_nil
  | cons b rest ih =>
    obtain ⟨hnot, hrest⟩ := List.nodup_cons.mp h
    rcases List.mem_cons.mp ha with rfl | ha
    · simp
    · have hne : key b ≠ key a := fun heq => hnot (heq ▸ List.mem_map_of_mem ha)
      rw [List.find?_cons_of_neg (by simpa using hne), ih hrest ha]

theorem find?_updateFirst {f : α → α} (hf : ∀ a, key a = name → key (f a) = name)
    (other : String) :
    (updateFirst (key · == name) f l).find? (key · == other) =
      if other = name then (l.find? (key · == name)).map f else l.find? (key · == other) := by
  induction l with
  | nil => simp [updateFirst]
  | cons a rest ih =>
    by_cases ha : key a = name
    · by_cases ho : other = name
      · subst ho
        simp [updateFirst, ha, hf a ha]
      · have hn : (name == other) = false := by simpa using Ne.symm ho
        simp [updateFirst, ha, hf a ha, ho, hn]
    · have hn : (key a == name) = false := by simpa using ha
      -- An entry the change passes over may be the one that is looked up.
      by_cases ho : key a = other
      · subst ho
        simp [updateFirst, ha]
      · have hn' : (key a == other) = false := by simpa using ho
        simpa [updateFirst, List.find?_cons, hn, hn'] using ih

/-- Replacing an entry by one of its name leaves the names as they were. -/
theorem map_updateFirst {f : α → α} (hf : ∀ a, key a = name → key (f a) = name) :
    (updateFirst (key · == name) f l).map key = l.map key := by
  induction l with
  | nil => rfl
  | cons a rest ih =>
    by_cases ha : key a = name
    · simp [updateFirst, ha, hf a ha]
    · have hn : (key a == name) = false := by simpa using ha
      simpa [updateFirst, hn] using ih

/-- An entry of a changed list was there before or is the changed one. -/
theorem mem_updateFirst {p : α → Bool} {f : α → α} {x : α} (h : x ∈ updateFirst p f l) :
    x ∈ l ∨ ∃ a, l.find? p = some a ∧ x = f a := by
  induction l with
  | nil => exact absurd h List.not_mem_nil
  | cons a rest ih =>
    by_cases ha : p a = true
    · rw [updateFirst, if_pos ha] at h
      rcases List.mem_cons.mp h with rfl | h
      · exact Or.inr ⟨a, by simp [ha], rfl⟩
      · exact Or.inl (List.mem_cons_of_mem _ h)
    · rw [updateFirst, if_neg ha] at h
      rcases List.mem_cons.mp h with rfl | h
      · exact Or.inl List.mem_cons_self
      · rcases ih h with hx | ⟨b, hb, rfl⟩
        · exact Or.inl (List.mem_cons_of_mem _ hx)
        · exact Or.inr ⟨b, by simp [ha, hb], rfl⟩

/-- An entry that a change leaves as it is. -/
theorem updateFirst_eq_self {p : α → Bool} {f : α → α} {a : α} (h : l.find? p = some a)
    (ha : f a = a) : updateFirst p f l = l := by
  induction l with
  | nil => rfl
  | cons b rest ih =>
    rw [updateFirst]
    cases hb : p b with
    | true =>
      rw [List.find?_cons_of_pos hb] at h
      cases h
      rw [if_pos rfl, ha]
    | false =>
      rw [List.find?_cons_of_neg (by simp [hb])] at h
      rw [if_neg (by simp), ih h]

theorem find?_eraseP_ne {other : String} (ho : other ≠ name) :
    (l.eraseP (key · == name)).find? (key · == other) = l.find? (key · == other) := by
  induction l with
  | nil => rfl
  | cons a rest ih =>
    by_cases ha : key a = name
    · have hn : (name == other) = false := by simpa using Ne.symm ho
      simp [ha, hn]
    · simp [ha, List.find?_cons, ih]

theorem find?_eraseP_self (h : (l.map key).Nodup) :
    (l.eraseP (key · == name)).find? (key · == name) = none := by
  rw [find?_key_eq_none_iff]
  induction l with
  | nil => simp
  | cons a rest ih =>
    obtain ⟨hnot, hrest⟩ := List.nodup_cons.mp h
    by_cases ha : key a = name
    -- This is the entry taken out; a second one of its name would contradict `hnot`.
    · simpa [ha] using hnot
    · have hih := ih hrest
      simp only [List.mem_map, not_exists, not_and] at hih
      simpa [ha, Ne.symm ha] using hih

/-- One more entry at the end, of a name that was not taken, leaves the names distinct. -/
theorem nodup_map_concat {a : α} (h : (l.map key).Nodup)
    (hfree : l.find? (key · == key a) = none) : ((l ++ [a]).map key).Nodup := by
  rw [find?_key_eq_none_iff] at hfree
  rw [List.map_append]
  refine List.nodup_append.mpr ⟨h, by simp, ?_⟩
  intro b hb c hc hbc
  have hca : c = key a := by simpa using hc
  exact hfree (hca ▸ hbc ▸ hb)

end Keyed

/-! ## Folders -/

namespace Folder

variable {folder child : Folder} {file : File} {name other : String}

@[simp]
theorem name_addFolder (folder child : Folder) : (folder.addFolder child).name = folder.name := rfl

@[simp]
theorem name_removeFolder (folder : Folder) (name : String) :
    (folder.removeFolder name).name = folder.name := rfl

@[simp]
theorem name_putFile (folder : Folder) (file : File) :
    (folder.putFile file).name = folder.name := by
  unfold putFile
  split <;> rfl

@[simp]
theorem name_removeFile (folder : Folder) (name : String) :
    (folder.removeFile name).name = folder.name := rfl

/-- A change below a folder leaves its name as it was, if a change of the folder does. -/
theorem name_updateAt {f : Folder → Folder} (hf : ∀ folder, (f folder).name = folder.name)
    (place : List String) (folder : Folder) : (updateAt f place folder).name = folder.name := by
  cases place with
  | nil => exact hf folder
  | cons name rest => rfl

theorem folder?_eq_none_iff :
    folder.folder? name = none ↔ name ∉ folder.folders.map Folder.name :=
  find?_key_eq_none_iff

theorem file?_eq_none_iff : folder.file? name = none ↔ name ∉ folder.files.map File.name :=
  find?_key_eq_none_iff

theorem has_eq_false_iff :
    folder.has name = false ↔ folder.folder? name = none ∧ folder.file? name = none := by
  simp [has]

theorem name_of_folder? (h : folder.folder? name = some child) : child.name = name :=
  key_of_find?_eq_some h

theorem name_of_file? (h : folder.file? name = some file) : file.name = name :=
  key_of_find?_eq_some h

theorem mem_of_folder? (h : folder.folder? name = some child) : child ∈ folder.folders :=
  List.mem_of_find?_eq_some h

theorem folder?_addFolder (h : folder.folder? child.name = none) :
    (folder.addFolder child).folder? other =
      if other = child.name then some child else folder.folder? other := by
  unfold folder? at h ⊢
  simp only [addFolder, List.find?_append]
  by_cases ho : other = child.name
  · subst ho
    simp [h]
  · simp [ho, Ne.symm ho]

theorem folder?_removeFolder_ne (h : other ≠ name) :
    (folder.removeFolder name).folder? other = folder.folder? other :=
  find?_eraseP_ne h

theorem folder?_removeFolder_self (h : (folder.folders.map Folder.name).Nodup) :
    (folder.removeFolder name).folder? name = none :=
  find?_eraseP_self h

@[simp]
theorem file?_removeFolder : (folder.removeFolder name).file? other = folder.file? other := rfl

/-- A file of a new name goes to the end. -/
theorem putFile_of_file?_eq_none (h : folder.file? file.name = none) :
    folder.putFile file = { folder with files := folder.files ++ [file] } := by
  simp [putFile, h]

@[simp]
theorem folder?_putFile : (folder.putFile file).folder? other = folder.folder? other := by
  unfold putFile
  split <;> rfl

theorem file?_putFile :
    (folder.putFile file).file? other =
      if other = file.name then some file else folder.file? other := by
  cases hfile : folder.file? file.name with
  | none =>
    rw [putFile_of_file?_eq_none hfile]
    unfold file? at hfile ⊢
    simp only [List.find?_append]
    by_cases ho : other = file.name
    · subst ho
      simp [hfile]
    · simp [ho, Ne.symm ho]
  | some old =>
    unfold file? at hfile
    simp only [putFile, file?, hfile, Option.isSome_some, if_true]
    rw [find?_updateFirst fun _ _ => rfl, hfile]
    rfl

theorem putFile_eq_self (h : folder.file? file.name = some file) :
    folder.putFile file = folder := by
  have hfiles := updateFirst_eq_self (f := fun _ => file) h rfl
  rw [putFile, h, Option.isSome_some, if_pos rfl, hfiles]
  cases folder
  rfl

@[simp]
theorem folder?_removeFile : (folder.removeFile name).folder? other = folder.folder? other := rfl

theorem file?_removeFile_ne (h : other ≠ name) :
    (folder.removeFile name).file? other = folder.file? other :=
  find?_eraseP_ne h

theorem file?_removeFile_self (h : (folder.files.map File.name).Nodup) :
    (folder.removeFile name).file? name = none :=
  find?_eraseP_self h

/-! ## Descending -/

theorem descend?_append (folder : Folder) (place more : List String) :
    folder.descend? (place ++ more) = (folder.descend? place).bind (·.descend? more) := by
  induction place generalizing folder with
  | nil => rfl
  | cons name rest ih =>
    rw [List.cons_append, descend?_cons, descend?_cons]
    cases folder.folder? name with
    | none => rfl
    | some child => exact ih child

theorem updateAt_eq_self {f : Folder → Folder} {place : List String} {root inner : Folder}
    (h : root.descend? place = some inner) (hf : f inner = inner) :
    updateAt f place root = root := by
  induction place generalizing root with
  | nil =>
    cases h
    exact hf
  | cons name rest ih =>
    obtain ⟨child, hchild, hinner⟩ := Option.bind_eq_some_iff.mp h
    have hfolders := updateFirst_eq_self (f := updateAt f rest) hchild (ih hinner)
    rw [updateAt, hfolders]
    cases root
    rfl

end Folder

end TreeShell
