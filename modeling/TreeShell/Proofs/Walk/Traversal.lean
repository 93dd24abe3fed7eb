import Mathlib.Algebra.Order.BigOperators.Group.List
import Mathlib.Algebra.Order.Ring.Nat
import TreeShell.Proofs.Tree.Entries
import TreeShell.Tree.Walk

/-!
# The order of a subtree

`Folder.traversal` is the walk through a folder as a recursion on the tree: the folder, then the
traversals of its folders in the order of their names, then its files in theirs. It goes on below a
folder as long as the limit leaves a step. Nothing is pending and nothing is looked up again.

What is met is said with the map of the tree. An entry is met exactly when it is within the limit
(`entry_of_mem_traversal` and `mem_traversal`), and no place is met after one below it
(`pairwise_traversal`). A place is a prefix of itself, so this one relation says both that a place
is met once and that a folder is met before what it holds.
-/

set_option autoImplicit false

namespace TreeShell.Folder

variable {folder child : Folder} {limit : Option Nat} {place : List String} {depth : Nat}
  {entry : WalkEntry}

/-- The folders in a folder, in the order of their names. -/
def foldersInOrder (folder : Folder) : List Folder :=
  folder.folders.mergeSort fun a b => !decide (b.name < a.name)

/-- The files in a folder, in the order of their names. -/
def filesInOrder (folder : Folder) : List File :=
  folder.files.mergeSort fun a b => !decide (b.name < a.name)

theorem perm_foldersInOrder (folder : Folder) : folder.foldersInOrder.Perm folder.folders :=
  List.mergeSort_perm _ _

theorem perm_filesInOrder (folder : Folder) : folder.filesInOrder.Perm folder.files :=
  List.mergeSort_perm _ _

theorem mem_foldersInOrder : child ∈ folder.foldersInOrder ↔ child ∈ folder.folders :=
  folder.perm_foldersInOrder.mem_iff

theorem mem_filesInOrder {file : File} : file ∈ folder.filesInOrder ↔ file ∈ folder.files :=
  folder.perm_filesInOrder.mem_iff

theorem names_foldersInOrder (folder : Folder) :
    folder.foldersInOrder.map Folder.name = Text.sorted (folder.folders.map Folder.name) :=
  List.map_mergeSort fun _ _ _ _ => rfl

theorem names_filesInOrder (folder : Folder) :
    folder.filesInOrder.map File.name = Text.sorted (folder.files.map File.name) :=
  List.map_mergeSort fun _ _ _ _ => rfl

theorem sizeOf_lt_of_mem (h : child ∈ folder.folders) : sizeOf child < sizeOf folder := by
  have hlist := List.sizeOf_lt_of_mem h
  cases folder
  simp only [Folder.mk.sizeOf_spec] at hlist ⊢
  omega

/-- An entry for each file in a folder. -/
def fileEntries (place : List String) (depth : Nat) (folder : Folder) : List WalkEntry :=
  folder.filesInOrder.map fun file => ⟨place ++ [file.name], .file, depth⟩

/-- The entries at and below a folder that is at some place and depth. -/
def traversal (limit : Option Nat) (place : List String) (depth : Nat) (folder : Folder) :
    List WalkEntry :=
  ⟨place, .folder, depth⟩ ::
    if limit.all (depth < ·) then
      (folder.foldersInOrder.attach.flatMap fun ⟨child, _⟩ =>
        child.traversal limit (place ++ [child.name]) (depth + 1)) ++
        folder.fileEntries place (depth + 1)
    else []
termination_by sizeOf folder
decreasing_by
  rename_i h
  exact sizeOf_lt_of_mem (mem_foldersInOrder.mp h)

theorem traversal_eq (limit : Option Nat) (place : List String) (depth : Nat) (folder : Folder) :
    folder.traversal limit place depth = ⟨place, .folder, depth⟩ ::
      if limit.all (depth < ·) then
        (folder.foldersInOrder.flatMap fun child =>
          child.traversal limit (place ++ [child.name]) (depth + 1)) ++
          folder.fileEntries place (depth + 1)
      else [] := by
  have hattach : (folder.foldersInOrder.attach.flatMap fun ⟨child, _⟩ =>
      child.traversal limit (place ++ [child.name]) (depth + 1)) =
      folder.foldersInOrder.flatMap fun child =>
        child.traversal limit (place ++ [child.name]) (depth + 1) := by
    rw [List.flatMap_subtype fun _ _ => rfl, List.unattach_attach]
  rw [traversal, hattach]

theorem goesBelow_iff : limit.all (depth < ·) = true ↔ ∀ most ∈ limit, depth < most := by
  cases limit <;> simp

/-! ## What is met -/

theorem entry_of_mem_traversal (h : folder.WellFormed) (hdepth : ∀ most ∈ limit, depth ≤ most)
    (hentry : entry ∈ folder.traversal limit place depth) : ∃ below,
      entry.place = place ++ below ∧ entry.depth = depth + below.length ∧
        (∀ most ∈ limit, depth + below.length ≤ most) ∧
        (folder.entryAt? below).map Entry.kind = some entry.kind := by
  induction h generalizing place depth with
  | @intro folder tidy children ih =>
    rw [traversal_eq, List.mem_cons] at hentry
    rcases hentry with rfl | hentry
    · exact ⟨[], (List.append_nil place).symm, rfl, hdepth, rfl⟩
    split at hentry
    · rename_i hbelow
      rw [goesBelow_iff] at hbelow
      rcases List.mem_append.mp hentry with hentry | hentry
      · obtain ⟨child, hchild, hentry⟩ := List.mem_flatMap.mp hentry
        rw [mem_foldersInOrder] at hchild
        obtain ⟨below, hplace, hdeep, hreach, hkind⟩ := ih child hchild hbelow hentry
        refine ⟨child.name :: below, ?_, ?_, ?_, ?_⟩
        · rw [hplace, List.append_assoc, List.singleton_append]
        · rw [hdeep, List.length_cons]
          omega
        · intro most hmost
          have := hreach most hmost
          rw [List.length_cons]
          omega
        · rw [entryAt?_cons_of_folder? (tidy.folder?_of_mem hchild), hkind]
      · obtain ⟨file, hfile, rfl⟩ := List.mem_map.mp hentry
        have hfound := tidy.file?_of_mem (mem_filesInOrder.mp hfile)
        refine ⟨[file.name], rfl, rfl, hbelow, ?_⟩
        rw [entryAt?_cons_of_folder?_eq_none (tidy.folder?_eq_none hfound), if_pos rfl, hfound]
        rfl
    · exact absurd hentry List.not_mem_nil

/-- The induction is on the way down, so that no well-formedness is needed: it is the lookup that
finds the first entry of a name, and a traversal meets every one. -/
theorem mem_traversal {below : List String} {held : Entry}
    (hreach : ∀ most ∈ limit, depth + below.length ≤ most)
    (hheld : folder.entryAt? below = some held) :
    ⟨place ++ below, held.kind, depth + below.length⟩ ∈ folder.traversal limit place depth := by
  induction below generalizing folder place depth with
  | nil =>
    cases hheld
    rw [traversal_eq, List.append_nil]
    exact List.mem_cons_self
  | cons name rest ih =>
    have hdeeper : depth + (name :: rest).length = depth + 1 + rest.length := by
      rw [List.length_cons]
      omega
    rw [hdeeper] at hreach ⊢
    have hbelow : limit.all (depth < ·) = true :=
      goesBelow_iff.mpr fun most hmost => by have := hreach most hmost; omega
    rw [traversal_eq, if_pos hbelow]
    refine List.mem_cons_of_mem _ (List.mem_append.mpr ?_)
    rcases entryAt?_cons_eq_some hheld with ⟨child, hchild, hheld⟩ | ⟨rfl, file, hfile, rfl⟩
    · have hmem := mem_foldersInOrder.mpr (mem_of_folder? hchild)
      refine .inl (List.mem_flatMap.mpr ⟨child, hmem, ?_⟩)
      have hin : ⟨place ++ [name] ++ rest, held.kind, depth + 1 + rest.length⟩ ∈
          child.traversal limit (place ++ [name]) (depth + 1) := ih hreach hheld
      rw [List.append_assoc, List.singleton_append] at hin
      rw [name_of_folder? hchild]
      exact hin
    · have hmem := mem_filesInOrder.mpr (List.mem_of_find?_eq_some hfile)
      refine .inr (List.mem_map.mpr ⟨file, hmem, ?_⟩)
      rw [name_of_file? hfile]
      rfl

/-! ## In which order -/

theorem eq_of_prefix_below {a b : String} {first second : List String}
    (h : place ++ b :: second <+: place ++ a :: first) : a = b :=
  (List.cons_prefix_cons.mp ((List.prefix_append_right_inj place).mp h)).1.symm

theorem below_of_mem_traversal (h : child.WellFormed) (hdepth : ∀ most ∈ limit, depth ≤ most)
    (hentry : entry ∈ child.traversal limit (place ++ [child.name]) depth) :
    ∃ rest, entry.place = place ++ child.name :: rest := by
  obtain ⟨below, hplace, -⟩ := entry_of_mem_traversal h hdepth hentry
  exact ⟨below, by rw [hplace, List.append_assoc, List.singleton_append]⟩

theorem pairwise_fileEntries (h : folder.Tidy) (place : List String) (depth : Nat) :
    (folder.fileEntries place depth).Pairwise fun a b => ¬ b.place <+: a.place := by
  have hnodup := (folder.perm_filesInOrder.map File.name).nodup_iff.mpr h.files
  refine List.pairwise_map.mpr ((List.pairwise_map.mp hnodup).imp fun hne hprefix => hne ?_)
  exact eq_of_prefix_below hprefix

/-- The traversals of folders with different names are apart, if each is apart in itself. -/
theorem pairwise_flatMap_traversal {folders : List Folder}
    (hnames : (folders.map Folder.name).Nodup) (hdepth : ∀ most ∈ limit, depth ≤ most)
    (hwell : ∀ child ∈ folders, child.WellFormed)
    (hapart : ∀ child ∈ folders, (child.traversal limit (place ++ [child.name]) depth).Pairwise
      fun a b => ¬ b.place <+: a.place) :
    (folders.flatMap fun child => child.traversal limit (place ++ [child.name]) depth).Pairwise
      fun a b => ¬ b.place <+: a.place := by
  refine List.pairwise_flatMap.mpr ⟨hapart, ?_⟩
  refine (List.pairwise_map.mp hnames).imp_of_mem fun ha hb hne x hx y hy hprefix => hne ?_
  obtain ⟨restx, hxplace⟩ := below_of_mem_traversal (hwell _ ha) hdepth hx
  obtain ⟨resty, hyplace⟩ := below_of_mem_traversal (hwell _ hb) hdepth hy
  rw [hxplace, hyplace] at hprefix
  exact eq_of_prefix_below hprefix

theorem pairwise_traversal (h : folder.WellFormed) (hdepth : ∀ most ∈ limit, depth ≤ most) :
    (folder.traversal limit place depth).Pairwise fun a b => ¬ b.place <+: a.place := by
  induction h generalizing place depth with
  | @intro folder tidy children ih =>
    rw [traversal_eq, List.pairwise_cons]
    split
    · rename_i hbelow
      rw [goesBelow_iff] at hbelow
      have hwell : ∀ child ∈ folder.foldersInOrder, child.WellFormed :=
        fun child hc => children child (mem_foldersInOrder.mp hc)
      refine ⟨fun entry hentry hprefix => ?_, List.pairwise_append.mpr
        ⟨?_, pairwise_fileEntries tidy _ _, fun x hx y hy hprefix => ?_⟩⟩
      · have hlong : ∃ name rest, entry.place = place ++ name :: rest := by
          rcases List.mem_append.mp hentry with hentry | hentry
          · obtain ⟨child, hc, hentry⟩ := List.mem_flatMap.mp hentry
            exact ⟨_, below_of_mem_traversal (hwell child hc) hbelow hentry⟩
          · obtain ⟨file, -, rfl⟩ := List.mem_map.mp hentry
            exact ⟨file.name, [], rfl⟩
        obtain ⟨name, rest, hplace⟩ := hlong
        have hlength : entry.place.length ≤ place.length := hprefix.length_le
        rw [hplace, List.length_append, List.length_cons] at hlength
        omega
      · have hnodup := (folder.perm_foldersInOrder.map Folder.name).nodup_iff.mpr tidy.folders
        exact pairwise_flatMap_traversal hnodup hbelow hwell
          fun child hc => ih child (mem_foldersInOrder.mp hc) hbelow
      · obtain ⟨child, hc, hx⟩ := List.mem_flatMap.mp hx
        obtain ⟨file, hf, rfl⟩ := List.mem_map.mp hy
        obtain ⟨rest, hplace⟩ := below_of_mem_traversal (hwell child hc) hbelow hx
        rw [hplace] at hprefix
        exact tidy.apart child (mem_foldersInOrder.mp hc) file (mem_filesInOrder.mp hf)
          (eq_of_prefix_below hprefix)
    · exact ⟨fun _ hentry => absurd hentry List.not_mem_nil, List.Pairwise.nil⟩

/-! ## How many are met -/

theorem Tidy.span_eq (h : folder.Tidy) :
    folder.span = 1 + folder.files.length + (folder.folders.map span).sum := by
  rw [span, ← List.sum_eq_foldr]
  congr 2
  conv_rhs => rw [← List.attach_map_subtype_val folder.folders, List.map_map]
  refine List.map_congr_left fun child _ => ?_
  obtain ⟨child, hc⟩ := child
  have hfound := h.folder?_of_mem hc
  dsimp only [Function.comp_apply]
  split
  · rename_i first hfirst
    cases hfound.symm.trans hfirst
    rfl
  · rename_i hnone
    cases hfound.symm.trans hnone

theorem length_traversal_le (h : folder.WellFormed) :
    (folder.traversal limit place depth).length ≤ folder.span := by
  induction h generalizing place depth with
  | @intro folder tidy children ih =>
    rw [traversal_eq, tidy.span_eq, List.length_cons]
    split
    · have hfiles : (folder.fileEntries place (depth + 1)).length = folder.files.length := by
        rw [fileEntries, List.length_map, folder.perm_filesInOrder.length_eq]
      have hfolders : (folder.foldersInOrder.map fun child =>
          (child.traversal limit (place ++ [child.name]) (depth + 1)).length).sum ≤
          (folder.foldersInOrder.map span).sum :=
        List.sum_le_sum fun child hc => ih child (mem_foldersInOrder.mp hc)
      have hsum := (folder.perm_foldersInOrder.map span).sum_eq
      rw [List.length_append, List.length_flatMap, hfiles]
      omega
    · rw [List.length_nil]
      omega

end TreeShell.Folder
