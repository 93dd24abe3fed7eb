import TreeShell.Asset.Bundle
import TreeShell.Builtin.Entry
import TreeShell.Session.Settings

/-!
# Laying out the file system

`init` makes the base folders and installs the bundled files. It does so only in a file system that
has nothing but settings, unless it is forced, and then it forgets everything but the environment.
It can also compare the bundled files with what is there, or bring them up to date.
-/

set_option autoImplicit false

namespace TreeShell

/-- How the file at a place compares with the bundled one. -/
inductive AssetState where
  | missing
  | outdated
  | unchanged
deriving DecidableEq, Repr

/-- What became of writing a bundled file. -/
inductive AssetWrite where
  | leftAlone
  | written
  | failed
deriving DecidableEq, Repr

/-- A bundled file after it was compared, and written if it was to be. -/
structure SyncedAsset where
  path : String
  state : AssetState
  write : AssetWrite
deriving DecidableEq, Repr

namespace SyncedAsset

/-- The paths of those in a state. -/
def inState (state : AssetState) (synced : List SyncedAsset) : List String :=
  (synced.filter (·.state == state)).map path

/-- The paths of those that could not be written. -/
def failures (synced : List SyncedAsset) : List String :=
  (synced.filter (·.write == .failed)).map path

/-- How many were written. -/
def writtenCount (synced : List SyncedAsset) : Nat :=
  (synced.filter (·.write == .written)).length

end SyncedAsset

/-- How the bundled file compares with what is at its place. -/
def Snapshot.assetState (s : Snapshot) (asset : Asset) : AssetState :=
  match s.read asset.path with
  | .error _ => .missing
  | .ok content => if content = asset.content then .unchanged else .outdated

/-- The home folder of the user. -/
def homeFolder : String := "/home/user"

/-- The folders every file system is laid out with. -/
def baseFolders : List String :=
  [programFolder, homeFolder, homeFolder ++ "/pictures", homeFolder ++ "/docs", "/tmp",
    settingsPath]

/-- The file with the version of the installed files. -/
def versionFile : String := "/sys/assets-version.json"

namespace Shell

/-! ## Bundled files -/

/-- Writes a bundled file, and tells when it cannot be written. -/
def installAsset (asset : Asset) : Shell AssetWrite := do
  let folder := Path.display (Path.segments asset.path).dropLast
  match ← attempt (install folder asset.path asset.content) with
  | .ok () => return .written
  | .error reason =>
    print ("init: failed to write " ++ asset.path ++ ": " ++ reason.message)
    return .failed

/-- Compares a bundled file with what is there, and writes it if its state asks for it. -/
def syncAsset (toWrite : AssetState → Bool) (asset : Asset) : Shell SyncedAsset := do
  let state ← view (·.assetState asset)
  let write ← if toWrite state then installAsset asset else pure .leftAlone
  return ⟨asset.path, state, write⟩

/-- Compares all bundled files, and writes those whose state asks for it. -/
def syncAssets (toWrite : AssetState → Bool) : Shell (List SyncedAsset) :=
  Asset.all.mapM (syncAsset toWrite)

/-- The version of the installed files, empty if there is no record of one. -/
def installedVersion : Shell String := do
  let recorded ← readSettings versionFile
  return Text.trim (((recorded.get? "version").bind Json.string?).getD "")

/-- Records that the bundled files are installed. -/
def recordVersion : Shell Unit := do
  let stamp := (← get).now.stamp
  let document := Json.object [("version", .string Asset.version), ("updatedAt", .string stamp)]
  install settingsPath versionFile document.indented

/-- Prints paths under a heading, if there are any. -/
def printPaths (heading : String) (paths : List String) : Shell Unit :=
  if paths.isEmpty then return () else printLines (heading :: paths.map ("  " ++ ·))

/-- The outcome when some bundled files could not be written. -/
def assetsFailed : Outcome :=
  .failed "init: some bundled files could not be written"

/-! ## The three ways to run `init` -/

/-- Tells how the installed files compare with the bundled ones. -/
def checkAssets : Shell Outcome := do
  let installed ← installedVersion
  if installed = "" then print ("init: latest version: " ++ Asset.version ++ ".")
  else if installed = Asset.version then
    print ("init: installed version is up to date: " ++ installed ++ ".")
  else
    print ("init: new version available: " ++ Asset.version ++ " (installed: " ++ installed ++ ").")
  let synced ← syncAssets fun _ => false
  let total := toString synced.length
  let count (state : AssetState) := toString (SyncedAsset.inState state synced).length
  print ("init: checked " ++ total ++ "/" ++ total ++ " assets: " ++ count .unchanged ++ " ok, " ++
    count .missing ++ " missing, " ++ count .outdated ++ " outdated.")
  printPaths "init: missing:" (SyncedAsset.inState .missing synced)
  printPaths "init: outdated:" (SyncedAsset.inState .outdated synced)
  printBlank
  return .success

/-- Writes the bundled files that are missing or not up to date. -/
def updateAssets : Shell Outcome := do
  let synced ← syncAssets (· != .unchanged)
  let failures := SyncedAsset.failures synced
  let failed := if failures.isEmpty then "" else ", " ++ toString failures.length ++ " failed"
  print ("init: updated " ++ toString (SyncedAsset.writtenCount synced) ++ "/" ++
    toString synced.length ++ " assets (" ++
    toString (SyncedAsset.inState .unchanged synced).length ++ " unchanged" ++ failed ++ ").")
  let changed := SyncedAsset.inState .missing synced ++ SyncedAsset.inState .outdated synced
  printPaths "init: updated files:" (changed.filter (!failures.contains ·))
  if failures.isEmpty then
    recordVersion
    print ("init: installed assets version is now " ++ Asset.version ++ ".")
    printBlank
    return .success
  else
    printBlank
    return assetsFailed

/-- What is told when the file system is not to be laid out again. -/
def alreadyLaidOut : List String :=
  ["init: virtual filesystem already initialized.",
    "Use \"init -f\" to force re-initialize.",
    "Tip: use \"init --check\" or \"init --update\" to sync bundled assets " ++
      "without resetting your filesystem.",
    ""]

/-- Lays out a file system that has nothing in it. The environment is written back, because it is
not in the file system alone. -/
def relay : Shell (List SyncedAsset) := do
  baseFolders.forM fun folder => change (·.ensureDirPath folder)
  recordEnvironment
  let synced ← syncAssets fun _ => true
  ensureOnPath programFolder
  recordVersion
  change (·.changeDirectory homeFolder)
  return synced

/-- Tells that the file system is laid out. -/
def tellLaidOut (wasEmpty : Bool) (synced : List SyncedAsset) : Shell Outcome := do
  print ("init: installed " ++ toString (SyncedAsset.writtenCount synced) ++ "/" ++
    toString synced.length ++ " bundled files.")
  print "init: base folder structure initialized."
  if !wasEmpty then print "init: previous filesystem contents were replaced."
  print ("Home directory: " ++ homeFolder)
  print ("Binary directory prepared on PATH: " ++ programFolder)
  printBlank
  if (SyncedAsset.failures synced).isEmpty then return .success else return assetsFailed

/-- Forgets the file system and lays it out. -/
def layOut (wasEmpty : Bool) : Shell Outcome := do
  print "init: create base folder structure."
  change (·.reset)
  let synced ← relay
  tellLaidOut wasEmpty synced

/-- `init`: lays out the file system, or compares or updates the bundled files. -/
def init (args : List String) : Shell Outcome := do
  if args.contains "--check" then checkAssets
  else if args.contains "--update" then updateAssets
  else
    let empty ← view (·.looksEmpty)
    if empty || args.contains "-f" || args.contains "--force" then layOut empty
    else
      printLines alreadyLaidOut
      return .success

end Shell

end TreeShell
