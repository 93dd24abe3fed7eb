import TreeShell.Proofs.Builtin.Compositional

/-!
# Commands that use the environment

The commands that have to do with the environment ask for it, print what they find, and change it in
one of a few ways. So they have every pervasive property, and with the others that makes all
built-in commands (`Pervasive.builtin`). As for the others, the proofs follow the text of each
command.
-/

set_option autoImplicit false

namespace TreeShell.Shell

variable {P : ∀ {α : Type}, Shell α → Prop} (h : Pervasive P)

include h

/-! ## Display settings -/

protected theorem Pervasive.showConfig : P showConfig :=
  h.bind (h.print _) fun _ => h.bind h.environment fun _ =>
    h.bind (h.print _) fun _ => h.returning (h.printLines _) _

protected theorem Pervasive.getConfig (name : String) : P (getConfig name) := by
  refine h.bind h.environment fun e => ?_
  split
  · exact h.returning (h.print _) _
  · exact h.failWith _

/-! ## Aliases and the history -/

protected theorem Pervasive.printAliases : P printAliases :=
  h.bind h.environment fun _ => h.forM (fun _ => h.print _) _

protected theorem Pervasive.printAlias (name : String) : P (printAlias name) := by
  refine h.bind h.environment fun e => ?_
  split
  · exact h.returning (h.print _) _
  · exact h.returning (h.print _) _

protected theorem Pervasive.defineAlias (name target : String) : P (defineAlias name target) :=
  holds_ite (h.returning (h.setAlias _ _) _) (h.returning (h.print _) _)

protected theorem Pervasive.aliasArgument (argument : String) : P (aliasArgument argument) := by
  unfold aliasArgument
  split
  · exact h.defineAlias _ _
  · exact h.printAlias _

protected theorem Pervasive.makeAlias (args : List String) : P (makeAlias args) :=
  holds_ite (h.returning h.printAliases _) (h.returning (h.mapM h.aliasArgument args) _)

protected theorem Pervasive.unaliasArgument (name : String) : P (unaliasArgument name) :=
  h.bind (h.removeAlias name) fun _ => holds_ite (h.pure _) (h.returning (h.print _) _)

protected theorem Pervasive.dropAlias (args : List String) : P (dropAlias args) :=
  holds_ite (h.missingOperand _ _)
    (h.bind (h.mapM h.unaliasArgument args) fun _ => holds_ite (h.pure _) (h.pure _))

protected theorem Pervasive.history : P history :=
  h.bind h.environment fun _ => h.returning (h.printLines _) _

/-! ## Laying out the file system -/

omit h in
protected theorem Plain.installAsset (h : Plain P) (asset : Asset) :
    P (installAsset asset) := by
  refine h.bind (h.attempt (h.install _ _ _)) fun result => ?_
  cases result with
  | ok done => exact h.pure _
  | error reason => exact h.returning (h.print _) _

omit h in
protected theorem Plain.syncAsset (h : Plain P) (toWrite : AssetState → Bool)
    (asset : Asset) : P (syncAsset toWrite asset) := by
  refine h.bind (h.view _) fun state => ?_
  dsimp only
  split
  · exact h.returning (h.installAsset asset) _
  · exact h.pure _

omit h in
protected theorem Plain.syncAssets (h : Plain P) (toWrite : AssetState → Bool) :
    P (syncAssets toWrite) :=
  h.mapM (h.syncAsset toWrite) _

omit h in
protected theorem Plain.recordVersion (h : Plain P) : P recordVersion :=
  h.clock (fun now => install settingsPath versionFile
    (Json.object [("version", .string Asset.version), ("updatedAt", .string now.stamp)]).indented)
    fun _ => h.install _ _ _

omit h in
protected theorem Plain.printPaths (h : Plain P) (heading : String)
    (paths : List String) : P (printPaths heading paths) :=
  holds_ite (h.pure _) (h.printLines _)

omit h in
protected theorem Plain.checkAssets (h : Plain P) : P checkAssets := by
  have hreport : ∀ synced : List SyncedAsset, ∀ account : String, P (do
      print account
      printPaths "init: missing:" (SyncedAsset.inState .missing synced)
      printPaths "init: outdated:" (SyncedAsset.inState .outdated synced)
      printBlank
      return Outcome.success) := fun synced account =>
    h.bind (h.print _) fun _ => h.bind (h.printPaths _ _) fun _ =>
      h.bind (h.printPaths _ _) fun _ => h.returning h.printBlank _
  refine h.bind (h.returning (h.readSettings _) _) fun installed => ?_
  dsimp only
  -- Whatever is printed about the versions, the same steps follow.
  split
  · exact h.bind (h.print _) fun _ => h.bind (h.syncAssets _) fun _ => hreport _ _
  · split
    · exact h.bind (h.print _) fun _ => h.bind (h.syncAssets _) fun _ => hreport _ _
    · exact h.bind (h.print _) fun _ => h.bind (h.syncAssets _) fun _ => hreport _ _

omit h in
protected theorem Plain.updateAssets (h : Plain P) : P updateAssets := by
  refine h.bind (h.syncAssets _) fun synced => ?_
  dsimp only
  refine h.bind (h.print _) fun _ => h.bind (h.printPaths _ _) fun _ => holds_ite ?_ ?_
  · exact h.bind h.recordVersion fun _ => h.bind (h.print _) fun _ => h.returning h.printBlank _
  · exact h.returning h.printBlank _

protected theorem Pervasive.relay : P relay :=
  h.bind (h.forM (fun _ => h.change _) _) fun _ => h.bind h.recordEnvironment fun _ =>
    h.bind (h.syncAssets _) fun _ => h.bind (h.ensureOnPath _) fun _ =>
    h.bind h.recordVersion fun _ => h.returning (h.change _) _

omit h in
protected theorem Plain.tellLaidOut (h : Plain P) (wasEmpty : Bool) (synced : List SyncedAsset) :
    P (tellLaidOut wasEmpty synced) := by
  have hend : P (do
      print ("Home directory: " ++ homeFolder)
      print ("Binary directory prepared on PATH: " ++ programFolder)
      printBlank
      if (SyncedAsset.failures synced).isEmpty then return Outcome.success
      else return assetsFailed) :=
    h.bind (h.print _) fun _ => h.bind (h.print _) fun _ => h.bind h.printBlank fun _ =>
      holds_ite (h.pure _) (h.pure _)
  refine h.bind (h.print _) fun _ => h.bind (h.print _) fun _ => ?_
  dsimp only
  split
  · exact h.bind (h.print _) fun _ => hend
  · exact hend

protected theorem Pervasive.layOut (wasEmpty : Bool) : P (layOut wasEmpty) :=
  h.bind (h.print _) fun _ => h.bind (h.change _) fun _ =>
    h.bind h.relay fun _ => h.tellLaidOut _ _

protected theorem Pervasive.init (args : List String) : P (init args) :=
  holds_ite h.checkAssets (holds_ite h.updateAssets
    (h.bind (h.view _) fun empty =>
      holds_ite (h.layOut empty) (h.returning (h.printLines _) _)))

/-! ## Together -/

/-- **A built-in command has every pervasive property.** -/
protected theorem Pervasive.builtin (command : Builtin) (args : List String) :
    P (command.run args) := by
  cases command with
  | config =>
    exact h.toCompositional.config h.showConfig h.getConfig h.setDisplay h.resetDisplay args
  | makeAlias => exact h.makeAlias args
  | dropAlias => exact h.dropAlias args
  | history => exact h.history
  | init => exact h.init args
  | _ => exact h.toCompositional.builtin rfl args

end TreeShell.Shell
