import TreeShell.Proofs.Tree.Changes

/-!
# Taking an entry from one place to another

`relocate` is two changes one after the other: an entry is taken out of the folder that holds it,
and put at the end of another folder under a new name. What kind of entry it is makes no difference
to the argument, so the two halves are named (`Node.takeFrom`, `Node.putInto`), and one lemma about
each treats files and folders together.

The second half looks its folder up in the tree the first one left. That this folder is still there,
and the name in it still free, is `folderAt?_after_removal`. It needs that the new place is not
below the old one. For a folder the operation has checked so; a file has nothing below it
(`outside_of_file`).
-/

set_option autoImplicit false

namespace TreeShell

namespace Folder

/-- A name of a folder stands for an entry. -/
def Holds (folder : Folder) (name : String) : Node → Prop
  | .file held => folder.file? name = some held
  | .folder held => folder.folder? name = some held

end Folder

namespace Node

/-- What is at and below an entry. -/
def entries : Node → Entries
  | .file held => Entries.leaf (some (.file held.content))
  | .folder held => held.entryAt?

/-- An entry in order at every depth. A file always is. -/
def WellFormed : Node → Prop
  | .file _ => True
  | .folder held => held.WellFormed

/-- A folder without the entry of a name, which is one of this kind. -/
def takeFrom (node : Node) (name : String) (folder : Folder) : Folder :=
  match node with
  | .file _ => folder.removeFile name
  | .folder _ => folder.removeFolder name

/-- A folder with an entry at the end, under a name. -/
def putInto (node : Node) (name : String) (folder : Folder) : Folder :=
  match node with
  | .file held => { folder with files := folder.files ++ [{ held with name }] }
  | .folder held => folder.addFolder { held with name }

variable {folder : Folder} {node : Node} {name : String}

theorem name_takeFrom (node : Node) (name : String) (folder : Folder) :
    (node.takeFrom name folder).name = folder.name := by
  cases node <;> rfl

theorem name_putInto (node : Node) (name : String) (folder : Folder) :
    (node.putInto name folder).name = folder.name := by
  cases node <;> rfl

/-! ## The two halves in one folder -/

theorem WellFormed.of_holds (h : folder.WellFormed) (hn : folder.Holds name node) :
    node.WellFormed := by
  cases node with
  | file held => trivial
  | folder held => exact h.children held (Folder.mem_of_folder? hn)

theorem entryAt?_of_holds (h : folder.Tidy) (hn : folder.Holds name node) (more : List String) :
    folder.entryAt? (name :: more) = node.entries more := by
  cases node with
  | file held =>
    have hfolder := h.folder?_eq_none hn
    rw [Folder.entryAt?_cons_of_folder?_eq_none hfolder, hn]
    rfl
  | folder held => exact Folder.entryAt?_cons_of_folder? hn

theorem wellFormed_takeFrom (h : folder.WellFormed) (node : Node) (name : String) :
    (node.takeFrom name folder).WellFormed := by
  cases node with
  | file held => exact h.removeFile name
  | folder held => exact h.removeFolder name

theorem entryAt?_takeFrom (h : folder.Tidy) (hn : folder.Holds name node) :
    (node.takeFrom name folder).entryAt? =
      Entries.graft folder.entryAt? [name] (Entries.leaf none) := by
  cases node with
  | file held => exact h.entryAt?_removeFile hn
  | folder held => exact h.entryAt?_removeFolder hn

theorem putInto_file {held : File} (hfree : folder.has name = false) :
    (Node.file held).putInto name folder = folder.putFile { held with name } :=
  (Folder.putFile_of_file?_eq_none (Folder.has_eq_false_iff.mp hfree).2).symm

theorem wellFormed_putInto (h : folder.WellFormed) (hnode : node.WellFormed)
    (hfree : folder.has name = false) (hn : Path.IsName name) :
    (node.putInto name folder).WellFormed := by
  cases node with
  | file held =>
    rw [putInto_file hfree]
    exact h.putFile (Folder.has_eq_false_iff.mp hfree).1 hn
  | folder held => exact h.addFolder (hnode.rename name) hfree hn

theorem entryAt?_putInto (node : Node) (hfree : folder.has name = false) :
    (node.putInto name folder).entryAt? =
      Entries.graft folder.entryAt? [name] node.entries := by
  have hfolder := (Folder.has_eq_false_iff.mp hfree).1
  cases node with
  | file held =>
    rw [putInto_file hfree]
    exact Folder.entryAt?_putFile hfolder
  | folder held =>
    have hadd : (folder.addFolder { held with name }).entryAt? =
        Entries.graft folder.entryAt? [name] ({ held with name } : Folder).entryAt? :=
      Folder.entryAt?_addFolder hfolder
    rwa [Folder.entryAt?_rename] at hadd

end Node

/-! ## The two halves in a snapshot -/

namespace Snapshot

variable {s t : Snapshot} {parent place : List String} {name : String} {above : Folder}
  {node : Node}

/-- An entry other than the root is held by the folder above it. -/
theorem holds_of_nodeAt? (h : s.nodeAt? (parent ++ [name]) = some node) :
    ∃ above, s.folderAt? parent = some above ∧ above.Holds name node := by
  unfold nodeAt? at h
  cases hfile : s.fileAt? (parent ++ [name]) with
  | some held =>
    rw [hfile] at h
    cases h
    rw [fileAt?_concat] at hfile
    exact Option.bind_eq_some_iff.mp hfile
  | none =>
    rw [hfile] at h
    obtain ⟨held, hfolder, rfl⟩ := Option.map_eq_some_iff.mp h
    rw [folderAt?_concat] at hfolder
    exact Option.bind_eq_some_iff.mp hfolder

/-- A folder with a free name, elsewhere than what was taken away, is still there, with the name
still free. -/
theorem folderAt?_after_removal
    (ht : t.root.entryAt? = Entries.graft s.root.entryAt? place (Entries.leaf none))
    (houtside : ¬ place <+: parent ++ [name]) (habove : s.folderAt? parent = some above)
    (hfree : above.has name = false) :
    ∃ left, t.folderAt? parent = some left ∧ left.has name = false := by
  have hparent : t.root.entryAt? parent = some .folder := by
    have hout : ¬ place <+: parent := fun h => houtside (h.trans (List.prefix_append _ _))
    rw [ht, Entries.graft_outside hout]
    exact entryAt?_eq_folder_iff.mpr ⟨above, habove⟩
  obtain ⟨left, hleft⟩ := entryAt?_eq_folder_iff.mp hparent
  refine ⟨left, hleft, ?_⟩
  -- The folder may have become another one, so its names are compared through the two maps.
  rw [Folder.has_eq_isSome_entryAt?] at hfree ⊢
  rw [← entryAt?_concat hleft, ht, Entries.graft_outside houtside, entryAt?_concat habove]
  exact hfree

/-- A folder that is there is not below a file. -/
theorem outside_of_file {content : String} (hfile : s.root.entryAt? place = some (.file content))
    (habove : s.folderAt? parent = some above) (hmoves : parent ++ [name] ≠ place) :
    ¬ place <+: parent ++ [name] := by
  intro hwithin
  have hparent := entryAt?_eq_folder_iff.mpr ⟨above, habove⟩
  have hfolder := s.root.closed_entryAt?.folder_of_above hwithin (Ne.symm hmoves) hparent
  rw [hfile] at hfolder
  cases hfolder

/-- Where the current place is after a relocation: it goes along with a folder it is in. -/
def cwdAfter (s : Snapshot) (place : List String) (node : Node) (goal : List String) :
    List String :=
  if node.kind = .folder ∧ place <+: s.cwd then goal ++ s.cwd.drop place.length else s.cwd

@[simp]
theorem cwd_update (s : Snapshot) (place : List String) (f : Folder → Folder) :
    (s.update place f).cwd = s.cwd := rfl

theorem relocate_eq (s : Snapshot) (place : List String) (last : String) (node : Node)
    (parent : List String) (name : String) :
    s.relocate (place ++ [last]) node parent name =
      { (s.update place (node.takeFrom last)).update parent (node.putInto name) with
        cwd := s.cwdAfter (place ++ [last]) node (parent ++ [name]) } := by
  unfold relocate cwdAfter
  rw [Path.splitLast_concat]
  cases node with
  | file held =>
    have hstays : ¬ ((Node.file held).kind = .folder ∧ place ++ [last] <+: s.cwd) :=
      fun h => NodeKind.noConfusion h.1
    rw [if_neg hstays]
    rfl
  | folder held =>
    by_cases hwithin : place ++ [last] <+: s.cwd
    · have hmoves : Path.isWithin (place ++ [last]) s.cwd = true :=
        List.isPrefixOf_iff_prefix.mpr hwithin
      rw [if_pos ⟨rfl, hwithin⟩]
      simp only [cwd_update, hmoves, if_true, List.append_assoc, List.singleton_append]
      rfl
    · have hstays : ¬ Path.isWithin (place ++ [last]) s.cwd = true :=
        fun h => hwithin (List.isPrefixOf_iff_prefix.mp h)
      rw [if_neg fun h => hwithin h.2]
      simp only [cwd_update, hstays]
      rfl

/-- What an operation knows when it relocates: what is at the place, that the goal is a free name of
a folder, and that it is not at or below the place. -/
structure MayRelocate (s : Snapshot) (place : List String) (node : Node) (parent : List String)
    (name : String) : Prop where
  wellFormed : s.WellFormed
  node : s.nodeAt? place = some node
  outside : ¬ place <+: parent ++ [name]
  above : ∃ above, s.folderAt? parent = some above ∧ above.has name = false

namespace MayRelocate

variable {last : String}

theorem exists_eq_concat (h : s.MayRelocate place node parent name) :
    ∃ holder last, place = holder ++ [last] := by
  apply Path.exists_eq_concat
  rintro rfl
  exact h.outside List.nil_prefix

/-! The three lemmas on the first half name the last segment of the place. -/

theorem wellFormed_taken (h : s.MayRelocate (place ++ [last]) node parent name) :
    (s.update place (node.takeFrom last)).WellFormed := by
  obtain ⟨holder, hholder, -⟩ := holds_of_nodeAt? h.node
  exact h.wellFormed.update (node.name_takeFrom last) hholder
    (Node.wellFormed_takeFrom (h.wellFormed.root.descend? hholder) node last)

theorem entryAt?_taken (h : s.MayRelocate (place ++ [last]) node parent name) :
    (s.update place (node.takeFrom last)).root.entryAt? =
      Entries.graft s.root.entryAt? (place ++ [last]) (Entries.leaf none) := by
  obtain ⟨holder, hholder, hholds⟩ := holds_of_nodeAt? h.node
  exact Folder.entryAt?_updateAt_entry (node.name_takeFrom last) hholder
    (Node.entryAt?_takeFrom (h.wellFormed.root.descend? hholder).tidy hholds)

/-- The folder the entry goes to, as it is when the entry was taken away. -/
theorem exists_left (h : s.MayRelocate (place ++ [last]) node parent name) :
    ∃ left, (s.update place (node.takeFrom last)).folderAt? parent = some left ∧
      left.has name = false := by
  obtain ⟨above, habove, hfree⟩ := h.above
  exact folderAt?_after_removal h.entryAt?_taken h.outside habove hfree

/-- What moves is what was at and below the place. -/
theorem entries_eq (h : s.MayRelocate place node parent name) :
    node.entries = fun more => s.root.entryAt? (place ++ more) := by
  obtain ⟨holder, last, rfl⟩ := h.exists_eq_concat
  obtain ⟨folder, hholder, hholds⟩ := holds_of_nodeAt? h.node
  funext more
  rw [List.append_assoc, Folder.entryAt?_append hholder]
  exact (Node.entryAt?_of_holds (h.wellFormed.root.descend? hholder).tidy hholds more).symm

/-- **After a relocation** everything at and below the place is at and below the goal, nothing is
left behind, and every other place is as it was. -/
theorem entryAt?_relocate (h : s.MayRelocate place node parent name) :
    (s.relocate place node parent name).root.entryAt? =
      Entries.graft (Entries.graft s.root.entryAt? place (Entries.leaf none)) (parent ++ [name])
        fun more => s.root.entryAt? (place ++ more) := by
  rw [← h.entries_eq]
  obtain ⟨holder, last, rfl⟩ := h.exists_eq_concat
  obtain ⟨left, hleft, hfree⟩ := h.exists_left
  rw [relocate_eq, ← h.entryAt?_taken]
  exact Folder.entryAt?_updateAt_entry (node.name_putInto name) hleft
    (node.entryAt?_putInto hfree)

theorem cwd_relocate (h : s.MayRelocate place node parent name) :
    (s.relocate place node parent name).cwd = s.cwdAfter place node (parent ++ [name]) := by
  obtain ⟨holder, last, rfl⟩ := h.exists_eq_concat
  rw [relocate_eq]

theorem wellFormed_relocate (h : s.MayRelocate place node parent name)
    (hn : Path.AreNames (parent ++ [name])) :
    (s.relocate place node parent name).WellFormed := by
  constructor
  · obtain ⟨holder, last, rfl⟩ := h.exists_eq_concat
    obtain ⟨folder, hholder, hholds⟩ := holds_of_nodeAt? h.node
    obtain ⟨left, hleft, hfree⟩ := h.exists_left
    have hname : Path.IsName name := hn name (by simp)
    have hnode : node.WellFormed := .of_holds (h.wellFormed.root.descend? hholder) hholds
    have hput := h.wellFormed_taken.update (node.name_putInto name) hleft
      (Node.wellFormed_putInto (h.wellFormed_taken.root.descend? hleft) hnode hfree hname)
    rw [relocate_eq]
    exact hput.root
  · rw [h.cwd_relocate, cwdAfter]
    split
    · refine Path.areNames_append.mpr ⟨hn, fun name hm => ?_⟩
      exact h.wellFormed.cwd name (List.drop_subset _ _ hm)
    · exact h.wellFormed.cwd

end MayRelocate

/-! ## What a move relocates -/

/-- The guards of a move are enough: that a folder does not go into itself is checked, and for a
file there is nothing to check. -/
theorem mayRelocate_of_moved (hs : s.WellFormed) (hnode : s.nodeAt? place = some node)
    (hmoves : parent ++ [name] ≠ place)
    (houtside : node.kind = .folder → ¬ place <+: parent ++ [name])
    (habove : s.folderAt? parent = some above) (hfree : above.has name = false) :
    s.MayRelocate place node parent name where
  wellFormed := hs
  node := hnode
  outside := by
    cases node with
    | folder held => exact houtside rfl
    | file held =>
      have hentry := nodeAt?_entry hs place
      rw [hnode] at hentry
      exact outside_of_file hentry.symm habove hmoves
  above := ⟨above, habove, hfree⟩

/-- The place a move is about, folder and name put together. -/
theorem destinationOf_concat (s : Snapshot) (target : List String) (h : place ≠ []) :
    (s.destinationOf place target).1 ++ [(s.destinationOf place target).2] =
      if (s.folderAt? target).isSome then target ++ place.getLast?.toList else target := by
  unfold destinationOf
  split
  · obtain ⟨holder, last, rfl⟩ := Path.exists_eq_concat h
    simp
  · rename_i hfolder
    have hne : target ≠ [] := by
      rintro rfl
      exact hfolder rfl
    obtain ⟨parent, name, rfl⟩ := Path.exists_eq_concat hne
    rw [Path.splitLast_concat]

/-- A move that has something to do, with the place it is about. -/
theorem WellFormed.move_ends {source destination : String} (hs : s.WellFormed)
    (hsource : s.resolve source ≠ []) (hnode : s.nodeAt? (s.resolve source) = some node)
    (htarget : s.resolve destination ≠ s.resolve source) :
    ∃ parent name, Path.AreNames (parent ++ [name]) ∧
      (parent ++ [name] = if (s.folderAt? (s.resolve destination)).isSome
        then s.resolve destination ++ (s.resolve source).getLast?.toList
        else s.resolve destination) ∧
      MoveEnds s source destination node parent name (s.move source destination) := by
  have hgoal := destinationOf_concat s (s.resolve destination) hsource
  refine ⟨_, _, ?_, hgoal, move_of_source hsource hnode htarget⟩
  rw [hgoal]
  split
  · refine Path.areNames_append.mpr ⟨hs.resolve destination, fun name hname => ?_⟩
    exact hs.resolve source name (List.mem_of_getLast? (Option.mem_toList.mp hname))
  · exact hs.resolve destination

end Snapshot

end TreeShell
