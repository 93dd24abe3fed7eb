import TreeShell.Proofs.Builtin.Installing
import TreeShell.Proofs.Builtin.Listing
import TreeShell.Proofs.Json.RoundTrip

/-!
# What is told of the bundled files

`init --check` prints a line on the versions, how many bundled files are in which state, and the
paths of those that are missing and of those that are not up to date (`Snapshot.checkLines`). It
does nothing else. One thing keeps it from doing so: a record of the version with a whole number
that is too long to be read (`checkAssets_cases`).
-/

set_option autoImplicit false

namespace TreeShell

open FileSystem Shell

/-- The bundled files in a state. -/
def Snapshot.assetsIn (s : Snapshot) (state : AssetState) : List Asset :=
  Asset.all.filter (s.assetState · == state)

/-- The line that compares the installed version with that of the bundled files. -/
def Asset.versionLine (installed : String) : String :=
  if installed = "" then "init: latest version: " ++ version ++ "."
  else if installed = version then
    "init: installed version is up to date: " ++ installed ++ "."
  else "init: new version available: " ++ version ++ " (installed: " ++ installed ++ ")."

/-- Paths under a heading, if there are any. -/
def pathLines (heading : String) (paths : List String) : List String :=
  if paths.isEmpty then [] else heading :: paths.map ("  " ++ ·)

/-- What `init --check` prints. -/
def Snapshot.checkLines (s : Snapshot) (installed : String) : List String :=
  let total := toString Asset.all.length
  let count (state : AssetState) := toString (s.assetsIn state).length
  Asset.versionLine installed ::
    ("init: checked " ++ total ++ "/" ++ total ++ " assets: " ++ count .unchanged ++ " ok, " ++
      count .missing ++ " missing, " ++ count .outdated ++ " outdated.") ::
    (pathLines "init: missing:" ((s.assetsIn .missing).map Asset.path) ++
      (pathLines "init: outdated:" ((s.assetsIn .outdated).map Asset.path) ++ [""]))

theorem Snapshot.read_version_iff {s : Snapshot} (hs : s.WellFormed) {content : String} :
    s.read versionFile = .ok content ↔ s.paths.entry? versionPlace = some (.file content) := by
  rw [read_eq_ok_iff hs, show s.resolve versionFile = versionPlace from resolve_versionFile _]

/-- The record of the version is put in its place, and nothing else, but for the folder it is in. -/
theorem Snapshot.entry?_plant_version (s : Snapshot) {place : List String}
    (hne : place ≠ versionPlace)
    (hfolder : place = [settingsFolder] → s.paths.entry? [settingsFolder] = some .folder)
    (content : String) :
    PathMap.entry? (s.paths.plant [settingsFolder] "assets-version.json" content) place =
      s.paths.entry? place := by
  by_cases habove : place <+: [settingsFolder]
  · rw [PathMap.entry?_plant_of_prefix habove]
    rcases List.prefix_cons_iff.mp habove with rfl | ⟨rest, rfl, hrest⟩
    · rw [entry?_paths]
      rfl
    · rw [List.prefix_nil.mp hrest] at hfolder ⊢
      exact (hfolder rfl).symm
  · exact PathMap.entry?_plant_of_ne hne habove

/-- The record that the bundled files were installed at a time. -/
def versionDocument (now : Moment) : Json :=
  .object [("version", .string Asset.version), ("updatedAt", .string now.stamp)]

theorem regular_versionDocument (now : Moment) : (versionDocument now).Regular := by
  refine .object (by simp [Fields.names]) fun member hmember => ?_
  simp only [List.mem_cons, List.not_mem_nil, or_false] at hmember
  rcases hmember with rfl | rfl
  · exact .string _
  · exact .string _

namespace Shell

variable {s : Session}

/-! ## Looking at the bundled files -/

/-- A bundled file that was only compared. -/
def compared (s : Snapshot) (asset : Asset) : SyncedAsset :=
  ⟨asset.path, s.assetState asset, .leftAlone⟩

theorem prints_compareAssets (s : Session) :
    Prints s (syncAssets fun _ => false) (Asset.all.map (compared s.files.snapshot)) [] := by
  have hnone : Asset.all.flatMap (fun _ => ([] : List String)) = [] := by simp
  rw [← hnone]
  refine Prints.mapM fun asset _ => ?_
  exact (prints_view s _).after_silent (prints_pure s _)

theorem inState_compared (s : Snapshot) (state : AssetState) :
    SyncedAsset.inState state (Asset.all.map (compared s)) = (s.assetsIn state).map Asset.path := by
  rw [SyncedAsset.inState, List.filter_map, List.map_map]
  rfl

theorem prints_printPaths (s : Session) (heading : String) (paths : List String) :
    Prints s (printPaths heading paths) () (pathLines heading paths) := by
  rw [printPaths, pathLines]
  split
  · exact prints_pure s ()
  · exact prints_printLines s _

/-! ## The record of the version -/

/-- A document is read in silence, or counts as empty, unless a whole number in it is too long. -/
theorem prints_readSettings {path : String}
    (h : ∀ digits, ¬ NumberTooLong s.files.snapshot path digits) :
    ∃ document, Prints s (readSettings path) document [] := by
  unfold NumberTooLong at h
  have hlook := prints_attempt_look s (·.read path)
  cases hread : s.files.snapshot.read path with
  | error reason =>
    rw [hread] at hlook
    exact ⟨.null, hlook.after_silent (prints_pure s _)⟩
  | ok content =>
    rw [hread] at hlook
    cases hparse : Json.parse content with
    | ok document =>
      refine ⟨document, hlook.after_silent ?_⟩
      dsimp only
      rw [hparse]
      exact prints_pure s _
    | error e =>
      cases e with
      | malformed =>
        refine ⟨.null, hlook.after_silent ?_⟩
        dsimp only
        rw [hparse]
        exact prints_pure s _
      | integerTooLong digits => exact absurd ⟨content, hread, hparse⟩ (h digits)

/-- A document that was written is read as it is. -/
theorem prints_readSettings_of_indented {path : String} {document : Json}
    (hread : s.files.snapshot.read path = .ok document.indented) (hregular : document.Regular) :
    Prints s (readSettings path) document [] := by
  have hlook := prints_attempt_look s (·.read path)
  rw [hread] at hlook
  refine hlook.after_silent ?_
  dsimp only
  rw [Json.parse_indented hregular]
  exact prints_pure s _

theorem run_recordVersion_eq (s : Session) :
    recordVersion.run s =
      (install settingsPath versionFile (versionDocument s.now).indented).run s := by
  rw [recordVersion, run_get_bind, versionDocument]

theorem run_recordVersion_of_blocked (h : s.files.snapshot.paths.VersionBlocked) :
    ∃ reason, recordVersion.run s = (.error (.files reason), s) := by
  obtain ⟨reason, hrun, -⟩ := run_install_of_obstructed resolve_settingsPath resolve_versionFile
    (versionDocument s.now).indented (PathMap.obstructed_version_iff.mpr h)
  exact ⟨reason, (run_recordVersion_eq s).trans hrun⟩

/-- Where nothing is in its way the record is put in its place, with the folder above it. -/
theorem run_recordVersion_of_clear (h : s.files.InOrder)
    (hclear : ¬ s.files.snapshot.paths.VersionBlocked) :
    ∃ files : FileSystem, recordVersion.run s = (.ok (), { s with files }) ∧ files.InOrder ∧
      files.snapshot.paths = s.files.snapshot.paths.plant [settingsFolder] "assets-version.json"
        (versionDocument s.now).indented := by
  obtain ⟨files, hrun, hopened, hkeeps, hpaths⟩ :=
    run_install_of_clear h.opened resolve_settingsPath resolve_versionFile
      (versionDocument s.now).indented (mt PathMap.obstructed_version_iff.mp hclear)
  exact ⟨files, (run_recordVersion_eq s).trans hrun, ⟨hkeeps h.wellFormed, hopened⟩, hpaths⟩

/-- The version that a document records. -/
def recordedVersion (document : Json) : String :=
  Text.trim (((document.get? "version").bind Json.string?).getD "")

/-! ## The whole report -/

theorem prints_checkAssets {document : Json}
    (h : Prints s (readSettings versionFile) document []) :
    Prints s checkAssets .success (s.files.snapshot.checkLines (recordedVersion document)) := by
  have hversion : Prints s installedVersion (recordedVersion document) [] := h.returning _
  have hreport : Prints s (do
      let synced ← syncAssets fun _ => false
      let total := toString synced.length
      let count (state : AssetState) := toString (SyncedAsset.inState state synced).length
      print ("init: checked " ++ total ++ "/" ++ total ++ " assets: " ++ count .unchanged ++
        " ok, " ++ count .missing ++ " missing, " ++ count .outdated ++ " outdated.")
      printPaths "init: missing:" (SyncedAsset.inState .missing synced)
      printPaths "init: outdated:" (SyncedAsset.inState .outdated synced)
      printBlank
      return Outcome.success) .success (s.files.snapshot.checkLines
        (recordedVersion document)).tail := by
    refine (prints_compareAssets s).after_silent ?_
    simp only [inState_compared, List.length_map]
    exact (prints_print s _).bind ((prints_printPaths s _ _).bind ((prints_printPaths s _ _).bind
      ((prints_print s "").returning _)))
  refine hversion.after_silent ?_
  unfold Snapshot.checkLines Asset.versionLine
  dsimp only
  -- Whatever is printed about the versions, the same steps follow.
  split
  · exact (prints_print s _).bind hreport
  · split
    · exact (prints_print s _).bind hreport
    · exact (prints_print s _).bind hreport

/-- **The comparison is printed, and nothing else is done**, unless the record of the version has a
number that is too long. -/
theorem checkAssets_cases (s : Session) :
    ((∀ digits, ¬ NumberTooLong s.files.snapshot versionFile digits) ∧ ∃ installed,
      checkAssets.run s = (.ok .success, s.printed (s.files.snapshot.checkLines installed))) ∨
    ∃ digits, NumberTooLong s.files.snapshot versionFile digits ∧
      checkAssets.run s = (.error (.integer (.tooLong digits)), s) := by
  rcases run_readSettings_cases versionFile s with ⟨hshort, -⟩ | ⟨digits, hlong, hread⟩
  · obtain ⟨document, hread⟩ := prints_readSettings hshort
    exact .inl ⟨hshort, _, (prints_checkAssets hread).run⟩
  · have hversion : installedVersion.run s = (.error (.integer (.tooLong digits)), s) :=
      run_bind_of_error hread
    exact .inr ⟨digits, hlong, run_bind_of_error hversion⟩

theorem init_check {args : List String} (h : args.contains "--check" = true) :
    init args = checkAssets :=
  if_pos h

theorem init_update {args : List String} (hcheck : args.contains "--check" = false)
    (hupdate : args.contains "--update" = true) : init args = updateAssets :=
  (if_neg (Bool.eq_false_iff.mp hcheck)).trans (if_pos hupdate)

end Shell

end TreeShell
