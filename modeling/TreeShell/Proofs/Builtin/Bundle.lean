import TreeShell.Builtin.Setup
import TreeShell.Proofs.Path.Resolution

/-!
# The places of the bundled files

Every bundled file is in one of three folders, under a name (`exists_place`). So no bundled file is
on the way to another, and none of them is among the settings.
-/

set_option autoImplicit false

namespace TreeShell.Asset

open TreeShell.Path

/-- The folder a bundled file is written into. -/
def folder (asset : Asset) : String :=
  display (segments asset.path).dropLast

/-- The place of a bundled file. -/
def place (asset : Asset) : List String :=
  resolve [] asset.path

/-- The place of its folder. -/
def folderPlace (asset : Asset) : List String :=
  resolve [] asset.folder

/-- The folders that bundled files are in. -/
def folders : List (List String) :=
  [["bin"], ["home", "user", "docs"], ["etc", "help"]]

/-- The topics that there are pages on. -/
def topics : List String :=
  "help" :: helpPages.map Prod.fst

theorem isName_page : ∀ topic ∈ topics, IsName (topic ++ ".md") := by
  decide +kernel

theorem helpFile_eq_display (topic : String) :
    helpFile topic = display (["etc", "help"] ++ [topic ++ ".md"]) := by
  simp [helpFile, helpFolder, display, Text.join, ← String.append_assoc]

variable {asset other : Asset}

theorem path_cases (h : asset ∈ all) :
    asset.path = "/bin/sample.py" ∨ asset.path = "/home/user/docs/demo.msh" ∨
      ∃ topic ∈ topics, asset.path = helpFile topic := by
  rw [all, List.mem_cons, List.mem_cons, List.mem_cons, List.mem_map] at h
  rcases h with rfl | rfl | rfl | ⟨page, hpage, rfl⟩
  · exact .inl rfl
  · exact .inr (.inl rfl)
  · exact .inr (.inr ⟨"help", List.mem_cons_self, rfl⟩)
  · exact .inr (.inr ⟨page.1, List.mem_cons_of_mem _ (List.mem_map_of_mem hpage), rfl⟩)

/-- A bundled file is in one of the folders, under a name. -/
theorem exists_display (h : asset ∈ all) :
    ∃ above ∈ folders, ∃ name, IsName name ∧ asset.path = display (above ++ [name]) := by
  rcases path_cases h with hpath | hpath | ⟨topic, htopic, hpath⟩
  · exact ⟨["bin"], by decide, "sample.py", by decide, hpath.trans (by decide)⟩
  · exact ⟨["home", "user", "docs"], by decide, "demo.msh", by decide, hpath.trans (by decide)⟩
  · exact ⟨["etc", "help"], by decide, _, isName_page topic htopic,
      hpath.trans (helpFile_eq_display topic)⟩

theorem areNames_folders : ∀ above ∈ folders, AreNames above := by
  decide

/-- **Where a bundled file goes**, whatever the current folder is. -/
theorem exists_place (h : asset ∈ all) :
    ∃ name, asset.place = asset.folderPlace ++ [name] ∧ asset.folderPlace ∈ folders ∧
      ∀ cwd, resolve cwd asset.path = asset.place ∧
        resolve cwd asset.folder = asset.folderPlace := by
  obtain ⟨above, habove, name, hname, hpath⟩ := exists_display h
  have hnames : AreNames above := areNames_folders above habove
  have hplace : AreNames (above ++ [name]) :=
    areNames_append.mpr ⟨hnames, areNames_cons.mpr ⟨hname, areNames_nil⟩⟩
  have hfolder : asset.folder = display above := by
    rw [folder, hpath, segments_display hplace, List.dropLast_concat]
  have hresolve := resolve_display_of_areNames hplace
  have hresolveFolder := resolve_display_of_areNames hnames
  rw [← hpath] at hresolve
  rw [← hfolder] at hresolveFolder
  have hplaces : asset.place = above ++ [name] ∧ asset.folderPlace = above :=
    ⟨hresolve [], hresolveFolder []⟩
  rw [hplaces.1, hplaces.2]
  exact ⟨name, rfl, habove, fun cwd => ⟨hresolve cwd, hresolveFolder cwd⟩⟩

theorem resolve_path (h : asset ∈ all) (cwd : List String) :
    resolve cwd asset.path = asset.place := by
  obtain ⟨-, -, -, hresolve⟩ := exists_place h
  exact (hresolve cwd).1

theorem resolve_folder (h : asset ∈ all) (cwd : List String) :
    resolve cwd asset.folder = asset.folderPlace := by
  obtain ⟨-, -, -, hresolve⟩ := exists_place h
  exact (hresolve cwd).2

theorem folderPlace_prefix (h : asset ∈ all) : asset.folderPlace <+: asset.place := by
  obtain ⟨name, hplace, -⟩ := exists_place h
  exact hplace ▸ List.prefix_append _ _

/-- No bundled file is on the way to another. -/
theorem not_prefix_folderPlace (h : asset ∈ all) (hother : other ∈ all) :
    ¬ asset.place <+: other.folderPlace := by
  obtain ⟨name, hplace, hfolder, -⟩ := exists_place h
  obtain ⟨-, -, hotherFolder, -⟩ := exists_place hother
  have hapart : ∀ above ∈ folders, ∀ below ∈ folders, above <+: below → above = below := by
    decide
  rw [hplace]
  intro hprefix
  have hsame := hapart _ hfolder _ hotherFolder ((List.prefix_append _ _).trans hprefix)
  rw [← hsame] at hprefix
  have hlength := hprefix.length_le
  rw [List.length_append, List.length_singleton] at hlength
  omega

/-- A bundled file is not among the settings, and neither is its folder. -/
theorem outside_settings (h : asset ∈ all) :
    ¬ [settingsFolder] <+: asset.place ∧ ¬ [settingsFolder] <+: asset.folderPlace := by
  obtain ⟨name, hplace, hfolder, -⟩ := exists_place h
  have houtside : ∀ above ∈ folders, above ≠ [] ∧ ¬ [settingsFolder] <+: above := by
    decide
  obtain ⟨hne, hsettings⟩ := houtside _ hfolder
  refine ⟨fun hprefix => hsettings ?_, hsettings⟩
  rw [hplace] at hprefix
  exact List.prefix_of_prefix_length_le hprefix (List.prefix_append _ _)
    (List.length_pos_iff.mpr hne)

end TreeShell.Asset
