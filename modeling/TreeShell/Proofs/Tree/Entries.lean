import Mathlib.Logic.Function.Basic
import TreeShell.Proofs.Tree.Endings
import TreeShell.Proofs.Tree.WellFormed

/-!
# A tree as a map of its places

Seen from outside, a tree is a function: to every place it gives a folder, a file with a text, or
nothing. `entryAt?` is that function, by recursion on the place. This module says what it becomes
when the tree is changed, and everything rests on one operation on such functions, `graft`: below
one place another function counts, and elsewhere the old one.

A change of one folder by one entry is a graft at that entry's name (`entryAt?_addFolder` and the
three beside it); a change at a place of the tree is a graft at that place (`entryAt?_updateAt`);
and a graft inside a graft is a graft at the longer place (`graft_graft`). Together they give
`entryAt?_updateAt_entry`, which is all that the operations need.

A file is found only where no folder has its name, so the lemmas that take something away, or put a
file, ask for tidy folders.

Not every map comes from a tree. The one thing that is known of those that do, and the only one that
is used of them later, is that they are `Closed`: what has something below it is a folder.
-/

set_option autoImplicit false

namespace TreeShell

/-- What a place of a tree holds. -/
inductive Entry where
  | folder
  | file (content : String)
deriving DecidableEq, Repr

def Entry.kind : Entry → NodeKind
  | folder => .folder
  | file _ => .file

/-- What each place holds. -/
abbrev Entries := List String → Option Entry

namespace Entries

/-- The entries with everything at and below a place exchanged. -/
def graft (entries : Entries) (place : List String) (below : Entries) : Entries := fun other =>
  if place <+: other then below (other.drop place.length) else entries other

/-- A tree that is one entry. -/
def leaf (entry : Option Entry) : Entries := fun place =>
  if place = [] then entry else none

variable {entries inner below : Entries} {place : List String}

@[simp]
theorem graft_append (entries : Entries) (place : List String) (below : Entries)
    (more : List String) : entries.graft place below (place ++ more) = below more := by
  simp [graft]

theorem graft_outside {other : List String} (h : ¬ place <+: other) :
    entries.graft place below other = entries other :=
  if_neg h

/-- A graft inside what hangs at a place is a graft at the longer place. -/
theorem graft_graft (hinner : ∀ more, inner more = entries (place ++ more))
    (further : List String) (below : Entries) :
    entries.graft place (inner.graft further below) = entries.graft (place ++ further) below := by
  funext other
  by_cases hp : place <+: other
  · obtain ⟨more, rfl⟩ := hp
    rw [graft_append]
    -- Below the place the inner graft decides, and outside it `inner` is what `entries` was.
    by_cases hm : further <+: more
    · obtain ⟨rest, rfl⟩ := hm
      rw [graft_append, ← List.append_assoc, graft_append]
    · have hlong : ¬ place ++ further <+: place ++ more := by
        rwa [List.prefix_append_right_inj]
      rw [graft_outside hm, graft_outside hlong, hinner]
  · have hlong : ¬ place ++ further <+: other := fun h => hp ((List.prefix_append _ _).trans h)
    rw [graft_outside hp, graft_outside hlong]

/-- Where nothing was below a place, to graft one entry is to change the map at one point. -/
theorem graft_leaf (h : ∀ name rest, entries (place ++ name :: rest) = none)
    (entry : Option Entry) :
    entries.graft place (leaf entry) = Function.update entries place entry := by
  funext other
  by_cases hp : place <+: other
  · obtain ⟨more, rfl⟩ := hp
    rw [graft_append]
    cases more with
    | nil => simp [leaf]
    | cons name rest => simp [leaf, h]
  · have hne : other ≠ place := fun heq => hp (heq ▸ List.prefix_refl _)
    rw [graft_outside hp, Function.update_of_ne hne]

/-- To make a path of folders below one entry is to make it one step longer. -/
theorem graft_path {name : String} {rest : List String} (hroot : entries [] = some .folder) :
    (entries.graft [name] fun other =>
      if other <+: rest then some .folder else entries (name :: other)) =
      fun other => if other <+: name :: rest then some .folder else entries other := by
  funext other
  cases other with
  | nil => simp [graft, hroot]
  | cons first more =>
    by_cases hf : first = name
    · subst hf
      rw [show first :: more = [first] ++ more from rfl, graft_append]
      simp [List.cons_prefix_cons]
    · have hnot : ¬ [name] <+: first :: more := by
        simpa [List.cons_prefix_cons] using Ne.symm hf
      rw [graft_outside hnot]
      simp [List.cons_prefix_cons, hf]

/-! ## Maps that come from a tree -/

/-- What has something below it is a folder. -/
def Closed (entries : Entries) : Prop :=
  ∀ place name rest, entries (place ++ name :: rest) ≠ none → entries place = some .folder

theorem Closed.nothing_below (h : entries.Closed) (hplace : entries place ≠ some .folder)
    (name : String) (rest : List String) : entries (place ++ name :: rest) = none := by
  by_contra hbelow
  exact hplace (h place name rest hbelow)

theorem Closed.folder_of_below {other : List String} (h : entries.Closed) (hbelow : place <+: other)
    (hne : place ≠ other) (hentry : entries other ≠ none) : entries place = some .folder := by
  obtain ⟨more, rfl⟩ := hbelow
  cases more with
  | nil => exact absurd (List.append_nil place).symm hne
  | cons name rest => exact h place name rest hentry

/-- A place above one that could be filled is a folder, whether that one is filled or not. -/
theorem Closed.folder_of_above {parent : List String} {name : String} (h : entries.Closed)
    (habove : place <+: parent ++ [name]) (hne : place ≠ parent ++ [name])
    (hparent : entries parent = some .folder) : entries place = some .folder := by
  rcases List.prefix_concat_iff.mp habove with heq | hwithin
  · exact absurd heq hne
  · by_cases heq : place = parent
    · rw [heq, hparent]
    · exact h.folder_of_below hwithin heq (by simp [hparent])

end Entries

namespace Folder

/-- What is at a place below a folder. At the empty place there is the folder itself; a file has
nothing below it, and counts only where no folder has its name. -/
def entryAt? : Folder → Entries
  | _, [] => some .folder
  | folder, name :: rest =>
    match folder.folder? name with
    | some child => child.entryAt? rest
    | none => if rest = [] then (folder.file? name).map (.file ·.content) else none

variable {root inner folder child : Folder} {file : File} {name : String}
  {place rest : List String}

@[simp]
theorem entryAt?_nil (folder : Folder) : folder.entryAt? [] = some .folder := rfl

theorem entryAt?_cons_of_folder? (h : folder.folder? name = some child) :
    folder.entryAt? (name :: rest) = child.entryAt? rest := by
  simp [entryAt?, h]

theorem entryAt?_cons_of_folder?_eq_none (h : folder.folder? name = none) :
    folder.entryAt? (name :: rest) =
      if rest = [] then (folder.file? name).map (.file ·.content) else none := by
  simp [entryAt?, h]

/-- What is below a folder is in one of its folders, or is one of its files. -/
theorem entryAt?_cons_eq_some {entry : Entry} (h : folder.entryAt? (name :: rest) = some entry) :
    (∃ child, folder.folder? name = some child ∧ child.entryAt? rest = some entry) ∨
      rest = [] ∧ ∃ file, folder.file? name = some file ∧ entry = .file file.content := by
  cases hchild : folder.folder? name with
  | some child =>
    rw [entryAt?_cons_of_folder? hchild] at h
    exact .inl ⟨child, rfl, h⟩
  | none =>
    rw [entryAt?_cons_of_folder?_eq_none hchild] at h
    split at h
    · next hrest =>
      obtain ⟨file, hfile, rfl⟩ := Option.map_eq_some_iff.mp h
      exact .inr ⟨hrest, file, hfile, rfl⟩
    · cases h

/-- What is in a tree in order is at places made of names. -/
theorem WellFormed.areNames_of_entryAt? (h : root.WellFormed) {entry : Entry}
    (hentry : root.entryAt? place = some entry) : Path.AreNames place := by
  induction place generalizing root with
  | nil => exact Path.areNames_nil
  | cons name rest ih =>
    rcases entryAt?_cons_eq_some hentry with ⟨child, hchild, hentry⟩ | ⟨rfl, file, hfile, -⟩
    · have hname := h.tidy.folderNames child (mem_of_folder? hchild)
      rw [name_of_folder? hchild] at hname
      exact Path.areNames_cons.mpr ⟨hname, ih (h.children child (mem_of_folder? hchild)) hentry⟩
    · have hname := h.tidy.fileNames file (List.mem_of_find?_eq_some hfile)
      rw [name_of_file? hfile] at hname
      exact Path.areNames_cons.mpr ⟨hname, Path.areNames_nil⟩

/-- Entries depend on a folder through its lookups only. -/
theorem entryAt?_cons_congr {other : Folder} (hfolder : folder.folder? name = other.folder? name)
    (hfile : folder.file? name = other.file? name) :
    folder.entryAt? (name :: rest) = other.entryAt? (name :: rest) := by
  simp only [entryAt?, hfolder, hfile]

/-! ## Entries and descending -/

theorem entryAt?_append (h : root.descend? place = some inner) (more : List String) :
    root.entryAt? (place ++ more) = inner.entryAt? more := by
  induction place generalizing root with
  | nil =>
    cases h
    rfl
  | cons name rest ih =>
    rw [descend?_cons] at h
    obtain ⟨child, hc, h⟩ := Option.bind_eq_some_iff.mp h
    rw [List.cons_append, entryAt?_cons_of_folder? hc]
    exact ih h

/-- Nothing is below what is no folder. -/
theorem entryAt?_append_of_descend?_eq_none (h : root.descend? place = none) (name : String)
    (rest : List String) : root.entryAt? (place ++ name :: rest) = none := by
  induction place generalizing root with
  | nil => cases h
  | cons first others ih =>
    rw [descend?_cons] at h
    cases hc : root.folder? first with
    | none => simp [List.cons_append, entryAt?_cons_of_folder?_eq_none hc]
    | some child =>
      rw [hc] at h
      rw [List.cons_append, entryAt?_cons_of_folder? hc]
      exact ih h

/-- The places of folders are those one can descend to. -/
theorem entryAt?_eq_folder_iff :
    root.entryAt? place = some .folder ↔ ∃ inner, root.descend? place = some inner := by
  constructor
  · intro h
    induction place generalizing root with
    | nil => exact ⟨root, rfl⟩
    | cons name rest ih =>
      cases hc : root.folder? name with
      | some child =>
        rw [entryAt?_cons_of_folder? hc] at h
        simpa [hc] using ih h
      | none =>
        rw [entryAt?_cons_of_folder?_eq_none hc] at h
        split at h
        · cases hf : root.file? name <;> simp [hf] at h
        · cases h
  · rintro ⟨inner, h⟩
    simpa using entryAt?_append h []

theorem closed_entryAt? (root : Folder) : Entries.Closed root.entryAt? := by
  intro place name rest h
  cases hd : root.descend? place with
  | some inner => exact entryAt?_eq_folder_iff.mpr ⟨inner, hd⟩
  | none => exact absurd (entryAt?_append_of_descend?_eq_none hd name rest) h

theorem has_eq_isSome_entryAt? (folder : Folder) (name : String) :
    folder.has name = (folder.entryAt? [name]).isSome := by
  cases hc : folder.folder? name with
  | some child => simp [has, hc, entryAt?_cons_of_folder? hc]
  | none => simp [has, hc, entryAt?_cons_of_folder?_eq_none hc]

/-- The names of the folders in a folder are those of its entries that are folders. -/
theorem mem_names_folders_iff :
    name ∈ folder.folders.map Folder.name ↔ folder.entryAt? [name] = some .folder := by
  cases hc : folder.folder? name with
  | some child =>
    rw [entryAt?_cons_of_folder? hc, ← name_of_folder? hc]
    simp [List.mem_map_of_mem (mem_of_folder? hc)]
  | none =>
    rw [entryAt?_cons_of_folder?_eq_none hc]
    simp [folder?_eq_none_iff.mp hc]

theorem Tidy.mem_names_files_iff (h : folder.Tidy) :
    name ∈ folder.files.map File.name ↔
      ∃ content, folder.entryAt? [name] = some (.file content) := by
  cases hf : folder.file? name with
  | some held =>
    have hentry : folder.entryAt? [name] = some (.file held.content) := by
      simp [entryAt?_cons_of_folder?_eq_none (h.folder?_eq_none hf), hf]
    have hname : name ∈ folder.files.map File.name :=
      name_of_file? hf ▸ List.mem_map_of_mem (List.mem_of_find?_eq_some hf)
    exact iff_of_true hname ⟨held.content, hentry⟩
  | none =>
    refine iff_of_false (file?_eq_none_iff.mp hf) ?_
    rintro ⟨content, hentry⟩
    cases hc : folder.folder? name with
    | some child => cases (entryAt?_cons_of_folder? hc).symm.trans hentry
    | none =>
      rw [entryAt?_cons_of_folder?_eq_none hc, hf] at hentry
      cases hentry

theorem isEmpty_iff : folder.isEmpty = true ↔ ∀ name, folder.entryAt? [name] = none := by
  have hnone : ∀ name, folder.entryAt? [name] = none ↔ folder.has name = false := by
    intro name
    rw [has_eq_isSome_entryAt?, Option.isSome_eq_false_iff, Option.isNone_iff_eq_none]
  simp only [hnone, has_eq_false_iff, folder?_eq_none_iff, file?_eq_none_iff]
  simp only [isEmpty, Bool.and_eq_true, List.isEmpty_iff]
  constructor
  · rintro ⟨hfolders, hfiles⟩ name
    simp [hfolders, hfiles]
  · intro h
    constructor
    · exact List.eq_nil_iff_forall_not_mem.mpr fun child hc =>
        (h child.name).1 (List.mem_map_of_mem hc)
    · exact List.eq_nil_iff_forall_not_mem.mpr fun file hf =>
        (h file.name).2 (List.mem_map_of_mem hf)

theorem entryAt?_of_isEmpty (h : folder.isEmpty = true) :
    folder.entryAt? = Entries.leaf (some .folder) := by
  funext place
  cases place with
  | nil => rfl
  | cons name rest =>
    have hname := isEmpty_iff.mp h name
    cases hc : folder.folder? name with
    | some child =>
      rw [entryAt?_cons_of_folder? hc] at hname
      cases hname
    | none =>
      rw [entryAt?_cons_of_folder?_eq_none hc] at hname ⊢
      cases rest with
      | nil => exact hname
      | cons next rest => rfl

/-! ## Entries after a change of one folder -/

/-- Two folders that differ at one name only differ by a graft there. -/
theorem entryAt?_eq_graft {changed : Folder} {below : Entries}
    (hname : ∀ rest, changed.entryAt? (name :: rest) = below rest)
    (hfolder : ∀ other, other ≠ name → changed.folder? other = folder.folder? other)
    (hfile : ∀ other, other ≠ name → changed.file? other = folder.file? other) :
    changed.entryAt? = Entries.graft folder.entryAt? [name] below := by
  funext place
  cases place with
  | nil => rfl
  | cons other rest =>
    by_cases ho : other = name
    · subst ho
      rw [hname]
      exact (Entries.graft_append folder.entryAt? [other] below rest).symm
    · have hnot : ¬ [name] <+: other :: rest := by
        simpa [List.cons_prefix_cons] using Ne.symm ho
      rw [Entries.graft_outside hnot]
      exact entryAt?_cons_congr (hfolder other ho) (hfile other ho)

theorem entryAt?_addFolder (h : folder.folder? child.name = none) :
    (folder.addFolder child).entryAt? =
      Entries.graft folder.entryAt? [child.name] child.entryAt? := by
  refine entryAt?_eq_graft (fun rest => ?_) (fun other ho => ?_) (fun _ _ => rfl)
  · exact entryAt?_cons_of_folder? (by rw [folder?_addFolder h, if_pos rfl])
  · rw [folder?_addFolder h, if_neg ho]

theorem Tidy.entryAt?_removeFolder (h : folder.Tidy) (hc : folder.folder? name = some child) :
    (folder.removeFolder name).entryAt? =
      Entries.graft folder.entryAt? [name] (Entries.leaf none) := by
  have hfile : folder.file? name = none := h.file?_eq_none hc
  refine entryAt?_eq_graft (fun rest => ?_) (fun other ho => folder?_removeFolder_ne ho)
    (fun _ _ => rfl)
  rw [entryAt?_cons_of_folder?_eq_none (folder?_removeFolder_self h.folders),
    file?_removeFolder, hfile]
  rfl

theorem entryAt?_putFile (h : folder.folder? file.name = none) :
    (folder.putFile file).entryAt? =
      Entries.graft folder.entryAt? [file.name] (Entries.leaf (some (.file file.content))) := by
  refine entryAt?_eq_graft (fun rest => ?_) (fun other _ => folder?_putFile) (fun other ho => ?_)
  · rw [entryAt?_cons_of_folder?_eq_none (by rw [folder?_putFile, h]), file?_putFile, if_pos rfl]
    rfl
  · rw [file?_putFile, if_neg ho]

theorem Tidy.entryAt?_removeFile (h : folder.Tidy) (hfile : folder.file? name = some file) :
    (folder.removeFile name).entryAt? =
      Entries.graft folder.entryAt? [name] (Entries.leaf none) := by
  have hfolder : folder.folder? name = none := h.folder?_eq_none hfile
  refine entryAt?_eq_graft (fun rest => ?_) (fun _ _ => rfl)
    (fun other ho => file?_removeFile_ne ho)
  rw [entryAt?_cons_of_folder?_eq_none (by rw [folder?_removeFile, hfolder]),
    file?_removeFile_self h.files]
  rfl

theorem entryAt?_replaceFolder {f : Folder → Folder}
    (hname : ∀ child, child.name = name → (f child).name = name)
    (hc : folder.folder? name = some child) :
    { folder with folders := updateFirst (·.name == name) f folder.folders }.entryAt? =
      Entries.graft folder.entryAt? [name] (f child).entryAt? := by
  have hfolder : ∀ other, Folder.folder?
      { folder with folders := updateFirst (·.name == name) f folder.folders } other =
        if other = name then (folder.folder? name).map f else folder.folder? other :=
    fun other => find?_updateFirst hname other
  refine entryAt?_eq_graft (fun rest => ?_) (fun other ho => ?_) (fun _ _ => rfl)
  · exact entryAt?_cons_of_folder? (by rw [hfolder, if_pos rfl, hc]; rfl)
  · rw [hfolder, if_neg ho]

/-- A folder has the same entries under any name. -/
theorem entryAt?_rename (folder : Folder) (name : String) :
    { folder with name }.entryAt? = folder.entryAt? := by
  funext place
  cases place <;> rfl

/-- New folders inside one another are at the prefixes of the way. -/
theorem entryAt?_nest (name : String) (rest place : List String) :
    (nest name rest).entryAt? place = if place <+: rest then some .folder else none := by
  induction rest generalizing name place with
  | nil =>
    cases place with
    | nil => rfl
    | cons other more => simp [nest, empty, entryAt?, folder?, file?]
  | cons next rest ih =>
    have hname : (nest next rest).name = next := by cases rest <;> rfl
    cases place with
    | nil => rfl
    | cons other more =>
      -- A folder of the nest has one entry, the next one.
      by_cases ho : other = next
      · subst ho
        have hc : (nest name (other :: rest)).folder? other = some (nest other rest) := by
          simp [nest, folder?, hname]
        rw [entryAt?_cons_of_folder? hc, ih]
        simp [List.cons_prefix_cons]
      · have hc : (nest name (next :: rest)).folder? other = none := by
          simp [nest, folder?, hname, Ne.symm ho]
        rw [entryAt?_cons_of_folder?_eq_none hc]
        simp [nest, file?, List.cons_prefix_cons, ho]

/-! ## Entries after a change at a place -/

theorem entryAt?_updateAt {f : Folder → Folder} (hname : ∀ folder, (f folder).name = folder.name)
    (h : root.descend? place = some inner) :
    (updateAt f place root).entryAt? = Entries.graft root.entryAt? place (f inner).entryAt? := by
  induction place generalizing root with
  | nil =>
    cases h
    rfl
  | cons name rest ih =>
    rw [descend?_cons] at h
    obtain ⟨child, hc, h⟩ := Option.bind_eq_some_iff.mp h
    -- The way down is a change of one folder by one entry, whose entries the induction knows.
    have hstep := entryAt?_replaceFolder (f := updateAt f rest)
      (fun other ho => (name_updateAt hname rest other).trans ho) hc
    rw [ih h] at hstep
    exact hstep.trans
      (Entries.graft_graft (fun more => (entryAt?_cons_of_folder? hc).symm) rest _)

/-- **A change by one entry, anywhere in the tree, is a graft at that entry's place.** -/
theorem entryAt?_updateAt_entry {f : Folder → Folder} {below : Entries}
    (hname : ∀ folder, (f folder).name = folder.name) (h : root.descend? place = some inner)
    (hf : (f inner).entryAt? = Entries.graft inner.entryAt? [name] below) :
    (updateAt f place root).entryAt? = Entries.graft root.entryAt? (place ++ [name]) below := by
  rw [entryAt?_updateAt hname h, hf]
  exact Entries.graft_graft (fun more => (entryAt?_append h more).symm) [name] below

end Folder

end TreeShell
