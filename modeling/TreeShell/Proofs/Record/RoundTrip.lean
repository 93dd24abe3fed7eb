import TreeShell.Tree.Record

/-!
# Reading back what was written

`Snapshot.ofJson` understands more documents than `Snapshot.toJson` writes, but of those it writes
it loses nothing: the tree with every name, every text and the stored order, and the current place
(`ofJson_toJson`). No condition is put on the snapshot. Names may repeat and may be of any kind,
because neither direction looks at them, so this holds of a tree that came from a record as well as
of one that the operations made.

The proof follows the two layers of the document. In a folder the four members are found by their
names; below it, the lists of children are read by `collect`, which undoes a `map` as soon as the
reader undoes the writer on every element.
-/

set_option autoImplicit false

namespace TreeShell

theorem collect_map {α β γ ε : Type} (f : β → Except ε γ) (g : α → β) (l : List α) :
    collect f (l.map g) = collect (fun a => f (g a)) l := by
  induction l with
  | nil => rfl
  | cons a rest ih => simp only [List.map_cons, collect, ih]

/-- Reading the members of a list one knows to be members is reading the list. -/
theorem collect_attach {α β ε : Type} (f : α → Except ε β) (l : List α) :
    collect (fun item : { item // item ∈ l } => f item.1) l.attach = collect f l := by
  rw [← collect_map f Subtype.val l.attach, List.attach_map_subtype_val]

/-- A reader that undoes the writer on every element undoes it on the list. -/
theorem collect_map_of_forall {α β ε : Type} {read : β → Except ε α} {write : α → β} {l : List α}
    (h : ∀ a ∈ l, read (write a) = .ok a) : collect read (l.map write) = .ok l := by
  induction l with
  | nil => rfl
  | cons a rest ih =>
    obtain ⟨ha, hrest⟩ := List.forall_mem_cons.mp h
    simp only [List.map_cons, collect, ha, ih hrest]
    rfl

theorem File.ofJson_toJson (file : File) : File.ofJson file.toJson = .ok file := by
  simp [File.ofJson, File.toJson, Fields.get?, List.lookup_cons, Json.isString]

namespace Folder

/-- The document of a folder is read by reading its children. -/
theorem ofJson_toJson_mk {name : String} {folders : List Folder} {files : List File}
    (h : collect ofJson (toJsonList folders) = .ok folders) :
    ofJson (Folder.mk name folders files).toJson = .ok ⟨name, folders, files⟩ := by
  have hfiles : collect File.ofJson (files.map File.toJson) = .ok files :=
    collect_map_of_forall fun file _ => file.ofJson_toJson
  have hchildren : collect (fun item : { item // item ∈ toJsonList folders } => ofJson item.1)
      (toJsonList folders).attach = .ok folders := (collect_attach _ _).trans h
  -- Every member is found by its name, so no default comes into play.
  rw [toJson, ofJson]
  simp only [Json.isString, Fields.get?, List.lookup_cons_self, Option.getD_some, BEq.rfl,
    if_true, List.lookup_cons, String.reduceBEq]
  rw [hchildren, hfiles]
  rfl

mutual

theorem ofJson_toJson : ∀ folder : Folder, ofJson folder.toJson = .ok folder
  | ⟨_, folders, _⟩ => ofJson_toJson_mk (collect_ofJson_toJsonList folders)

theorem collect_ofJson_toJsonList : ∀ folders : List Folder,
    collect ofJson (toJsonList folders) = .ok folders
  | [] => rfl
  | folder :: rest => by
    rw [toJsonList, collect, ofJson_toJson folder, collect_ofJson_toJsonList rest]
    rfl

end

end Folder

namespace Snapshot

theorem strings_map_string (names : List String) : Json.strings (names.map .string) = names := by
  simp [Json.strings, Json.string?, List.filterMap_map, Function.comp_def]

theorem cwdOfJson_array (names : List String) :
    cwdOfJson (.array (names.map .string)) = names := by
  simp [cwdOfJson, Json.string?, strings_map_string]

/-- The document of a folder says that it is one. -/
theorem type_toJson (folder : Folder) :
    folder.toJson.get? "type" = some (.string folderTag) := by
  cases folder
  simp [Folder.toJson, Json.get?, Fields.get?]

/-- **A snapshot is read back as it was.** -/
theorem ofJson_toJson (s : Snapshot) : ofJson s.toJson = .ok s := by
  have hroot : ((s.root.toJson.get? "type").getD .null).isString folderTag = true := by
    simp [type_toJson, Json.isString]
  simp only [toJson, ofJson, Fields.get?, List.lookup_cons_self, Option.getD_some, hroot, if_true,
    List.lookup_cons, String.reduceBEq, Folder.ofJson_toJson, cwdOfJson_array]
  rfl

end Snapshot

end TreeShell
