import TreeShell.Proofs.InPlace.Programs
import TreeShell.Proofs.Tree.Endings

/-!
# A refused operation leaves nothing behind

The programs that work in place come to the same as the operations on snapshots, on every file
system and with the same change (`Request.run_inPlace`). An operation on a snapshot that refuses has
no snapshot to hand back, so a program that is stopped for a reason has left the tree, the current
place and the store as they were (`refused_unchanged`).

For all programs but one the first statement is a matter of reading both sides: every reason to stop
comes before the first change. `makeAlong` is the exception. It goes on looking after it has made a
folder, and would leave that folder behind if it met a file later. It does not meet one, because
below a folder that was just made there is nothing. `run_makeAlong` says so in the form that the
induction needs: whatever was made on the way so far, the rest of the walk comes to what
`Snapshot.ensureIn` comes to from the folder it has reached.
-/

set_option autoImplicit false

namespace TreeShell

/-! ## Changes of a tree, one after another -/

/-- An element that is not there is not changed; the one after them is. -/
theorem updateFirst_concat {α : Type} {p : α → Bool} {f : α → α} {l : List α} {a : α}
    (hnot : l.find? p = none) (ha : p a = true) : updateFirst p f (l ++ [a]) = l ++ [f a] := by
  induction l with
  | nil => simp [updateFirst, ha]
  | cons b rest ih =>
    obtain ⟨hb, hrest⟩ := by simpa using hnot
    have hfind : rest.find? p = none := by simpa using hrest
    simp [updateFirst, hb, ih hfind]

theorem updateFirst_congr {α : Type} {p : α → Bool} {f g : α → α} {l : List α}
    (h : ∀ a, l.find? p = some a → f a = g a) : updateFirst p f l = updateFirst p g l := by
  induction l with
  | nil => rfl
  | cons b rest ih =>
    by_cases hb : p b = true
    · simp [updateFirst, hb, h b (by simp [hb])]
    · simp only [updateFirst, hb, Bool.false_eq_true, if_false]
      rw [ih fun a ha => h a (by simp [hb, ha])]

/-- Two changes of the first element, the second of which finds what the first left. -/
theorem updateFirst_updateFirst {α : Type} {p : α → Bool} {f g : α → α} {l : List α}
    (h : ∀ a, l.find? p = some a → p (g a) = true) :
    updateFirst p f (updateFirst p g l) = updateFirst p (fun a => f (g a)) l := by
  induction l with
  | nil => rfl
  | cons b rest ih =>
    by_cases hb : p b = true
    · simp [updateFirst, hb, h b (by simp [hb])]
    · simp only [updateFirst, hb, Bool.false_eq_true, if_false]
      rw [ih fun a ha => h a (by simp [hb, ha])]

namespace Folder

variable {root inner : Folder} {place more : List String} {f g : Folder → Folder}

theorem updateAt_append (f : Folder → Folder) (place more : List String) (root : Folder) :
    updateAt f (place ++ more) root = updateAt (updateAt f more) place root := by
  induction place generalizing root with
  | nil => rfl
  | cons name rest ih =>
    rw [List.cons_append, updateAt, updateAt]
    rw [updateFirst_congr fun child _ => ih child]

/-- Only the folder that is there is changed. -/
theorem updateAt_congr (h : root.descend? place = some inner) (hfg : f inner = g inner) :
    updateAt f place root = updateAt g place root := by
  induction place generalizing root with
  | nil =>
    cases h
    exact hfg
  | cons name rest ih =>
    rw [descend?_cons] at h
    obtain ⟨child, hc, h⟩ := Option.bind_eq_some_iff.mp h
    rw [updateAt, updateAt]
    rw [updateFirst_congr fun other ho => ?_]
    cases hc.symm.trans ho
    exact ih h

/-- A second change at a place finds the folder that the first one left there. -/
theorem updateAt_updateAt (hg : ∀ folder, (g folder).name = folder.name) (f : Folder → Folder)
    (place : List String) (root : Folder) :
    updateAt f place (updateAt g place root) = updateAt (fun folder => f (g folder)) place root := by
  induction place generalizing root with
  | nil => rfl
  | cons name rest ih =>
    simp only [updateAt]
    rw [updateFirst_updateFirst, updateFirst_congr fun child _ => ih child]
    intro child hc
    rw [name_updateAt hg]
    simpa using List.find?_some hc

theorem descend?_updateAt (hg : ∀ folder, (g folder).name = folder.name)
    (h : root.descend? place = some inner) : (updateAt g place root).descend? place = some (g inner) := by
  induction place generalizing root with
  | nil =>
    cases h
    rfl
  | cons name rest ih =>
    rw [descend?_cons] at h ⊢
    obtain ⟨child, hc, h⟩ := Option.bind_eq_some_iff.mp h
    have hfound : Folder.folder? (updateAt g (name :: rest) root) name =
        some (updateAt g rest child) := by
      unfold folder? at hc ⊢
      rw [updateAt, find?_updateFirst fun other ho => (name_updateAt hg rest other).trans ho, hc]
      simp
    rw [hfound]
    exact ih h

end Folder

/-! ## Running statements -/

namespace InPlace

open Snapshot

variable {α β : Type}

@[simp]
theorem run_pure (a : α) (files : FileSystem) : (pure a : InPlace α).run files = (.ok a, files) :=
  rfl

/-- A program goes on with the file system its first part left, unless that was stopped. -/
theorem run_bind (step : InPlace α) (next : α → InPlace β) (files : FileSystem) :
    (step >>= next).run files = match step.run files with
      | (.ok a, files) => (next a).run files
      | (.error fault, files) => (.error fault, files) := by
  unfold run ExceptT.run
  simp only [bind, ExceptT.bind, ExceptT.mk, StateT.bind, ExceptT.bindCont]
  cases (step : StateM FileSystem (Except Fault α)) files with
  | mk result files => cases result <;> rfl

/-- An answer that is made out of another after the fact. -/
theorem run_bind_pure (step : InPlace α) (f : α → β) (files : FileSystem) :
    (step >>= fun a => pure (f a)).run files =
      (((step.run files).1.map f), (step.run files).2) := by
  rw [run_bind]
  cases step.run files with
  | mk result files => cases result <;> rfl

@[simp]
theorem run_ofRun (f : FileSystem → Except Fault α × FileSystem) (files : FileSystem) :
    (ofRun f).run files = f files := rfl

@[simp]
theorem run_refuse (reason : FileError) (files : FileSystem) :
    (refuse reason : InPlace α).run files = (.error (.files reason), files) := rfl

@[simp]
theorem run_ask_bind (f : Snapshot → α) (next : α → InPlace β) (files : FileSystem) :
    (ask f >>= next).run files = (next (f files.snapshot)).run files := rfl

@[simp]
theorem run_alter_bind (place : List String) (f : Folder → Folder) (next : Unit → InPlace β)
    (files : FileSystem) :
    (alter place f >>= next).run files =
      (next ()).run { files with snapshot := files.snapshot.update place f } := rfl

@[simp]
theorem run_goTo_bind (place : List String) (next : Unit → InPlace β) (files : FileSystem) :
    (goTo place >>= next).run files =
      (next ()).run { files with snapshot := { files.snapshot with cwd := place } } := rfl

/-- To record what has become of the snapshot is to commit it. -/
theorem run_record_bind (files : FileSystem) (next : Snapshot) (answer : α) :
    (record >>= fun _ => (pure answer : InPlace α)).run { files with snapshot := next } =
      files.commit (.ok ⟨answer, some next⟩) := by
  rw [FileSystem.commit_some, run_bind_pure]
  rfl

theorem run_record (files : FileSystem) (next : Snapshot) :
    record.run { files with snapshot := next } = files.commit (done next) := by
  rw [done, FileSystem.commit_some, record, run_ofRun]
  cases (FileSystem.save { files with snapshot := next }) with
  | mk result after => cases result <;> rfl

/-! ## Each program comes to its operation -/

theorem run_changeDirectory (files : FileSystem) (path : String) :
    (changeDirectory path).run files = files.commit (files.snapshot.changeDirectory path) := by
  unfold changeDirectory
  have hends := files.snapshot.changeDirectory_ends path
  generalize files.snapshot.changeDirectory path = attempt at hends
  cases hends with
  | missing hfolder => simp [hfolder, FileSystem.commit]
  | changed hfolder => simp [hfolder, run_record, done]

theorem run_mkdir (files : FileSystem) (name : String) :
    (mkdir name).run files = files.commit (files.snapshot.mkdir name) := by
  unfold mkdir
  have hends := files.snapshot.mkdir_ends name
  generalize files.snapshot.mkdir name = attempt at hends
  cases hends with
  | notBare hbare => simp [hbare, FileSystem.commit]
  | gone hbare hcwd => simp [hbare, hcwd, FileSystem.commit]
  | taken hbare hcwd htaken => simp [hbare, hcwd, htaken, FileSystem.commit]
  | made hbare hcwd hfree => simp [hbare, hcwd, hfree, run_record, done]

theorem run_rmdir (files : FileSystem) (path : String) :
    (rmdir path).run files = files.commit (files.snapshot.rmdir path) := by
  unfold rmdir
  have hends := files.snapshot.rmdir_ends path
  generalize files.snapshot.rmdir path = attempt at hends
  cases hends with
  | root hplace => simp [hplace, FileSystem.commit]
  | missing hplace hfolder =>
    rw [folderAt?_concat] at hfolder
    simp [hplace, hfolder, FileSystem.commit]
  | notEmpty hplace hfolder hempty =>
    rw [folderAt?_concat] at hfolder
    simp [hplace, hfolder, hempty, FileSystem.commit]
  | removed hplace habove hfolder hempty =>
    simp [hplace, habove, hfolder, hempty, run_record, done]

theorem run_write (files : FileSystem) (path content : String) :
    (write path content).run files = files.commit (files.snapshot.write path content) := by
  unfold write
  have hends := files.snapshot.write_ends path content
  generalize files.snapshot.write path content = attempt at hends
  cases hends with
  | root hplace => simp [hplace, FileSystem.commit]
  | noParent hplace habove => simp [hplace, habove, FileSystem.commit]
  | onFolder hplace habove hfolder => simp [hplace, habove, hfolder, FileSystem.commit]
  | written hplace habove hfree => simp [hplace, habove, hfree, run_record, done]

theorem run_unlink (files : FileSystem) (path : String) :
    (unlink path).run files = files.commit (files.snapshot.unlink path) := by
  unfold unlink
  have hends := files.snapshot.unlink_ends path
  generalize files.snapshot.unlink path = attempt at hends
  cases hends with
  | missing hfile =>
    rw [run_ask_bind, run_ask_bind, hfile]
    exact run_refuse _ _
  | @removed parent name above file hplace habove hfile =>
    have hfound : files.snapshot.fileAt? (parent ++ [name]) = some file := by
      rw [fileAt?_concat, habove]
      exact hfile
    rw [run_ask_bind, run_ask_bind, hplace, hfound]
    dsimp only
    rw [Path.splitLast_concat, run_alter_bind, run_record]
    rfl

/-! ## The walk that makes folders -/

/-- Below a folder that was just made nothing is in the way, and the whole rest is made. -/
theorem ensureIn_empty (path name : String) (rest : List String) :
    (ensureIn path rest (.empty name) = .ok none ∧ rest = []) ∨
      ensureIn path rest (.empty name) = .ok (some (.nest name rest)) := by
  cases rest with
  | nil => exact Or.inl ⟨rfl, rfl⟩
  | cons next rest => exact Or.inr rfl

/-- A file system with the folder at a place exchanged, if there is one to exchange it for. -/
def withFolder (files : FileSystem) (place : List String) : Option Folder → FileSystem
  | none => files
  | some next => { files with snapshot := files.snapshot.update place fun _ => next }

/-- What is left to do of a walk is what `ensureIn` does from the folder it has reached. -/
def walkResult (files : FileSystem) (place : List String) (made : Bool) :
    Except FileError (Option Folder) → Except Fault Bool × FileSystem
  | .error reason => (.error (.files reason), files)
  | .ok next? => (.ok (made || next?.isSome), withFolder files place next?)

/-- To change the folder at a place is to exchange it for what it is changed to. -/
theorem withFolder_change {files : FileSystem} {place : List String} {current : Folder}
    (h : files.snapshot.folderAt? place = some current) (f : Folder → Folder) :
    withFolder files place (some (f current)) =
      { files with snapshot := files.snapshot.update place f } := by
  have hroot : Folder.updateAt (fun _ => f current) place files.snapshot.root =
      Folder.updateAt f place files.snapshot.root := Folder.updateAt_congr h rfl
  simp only [withFolder, update, hroot]

/-- One more step down: what is exchanged below is exchanged in the folder above. -/
theorem withFolder_below {files : FileSystem} {place : List String} {current : Folder}
    {name : String} (h : files.snapshot.folderAt? place = some current) (next : Folder) :
    withFolder files (place ++ [name]) (some next) =
      withFolder files place (some { current with
        folders := updateFirst (·.name == name) (fun _ => next) current.folders }) := by
  have hroot : Folder.updateAt (fun _ => next) (place ++ [name]) files.snapshot.root =
      Folder.updateAt (fun _ => { current with
        folders := updateFirst (·.name == name) (fun _ => next) current.folders })
        place files.snapshot.root := by
    rw [Folder.updateAt_append]
    exact Folder.updateAt_congr h rfl
  simp only [withFolder, update, hroot]

/-- A folder that was made, and then exchanged for one with more folders in it, might as well have
been made with them. -/
theorem withFolder_made {files : FileSystem} {place : List String} {current next : Folder}
    {name : String} (h : files.snapshot.folderAt? place = some current)
    (hc : current.folder? name = none) :
    withFolder
        { files with snapshot := files.snapshot.update place (·.addFolder (.empty name)) }
        (place ++ [name]) (some next) =
      withFolder files place (some (current.addFolder next)) := by
  have hlast : Folder.updateAt (fun _ => next) [name] (current.addFolder (.empty name)) =
      current.addFolder next := by
    simp only [Folder.updateAt, Folder.addFolder]
    rw [updateFirst_concat hc (by simp [Folder.empty])]
  have hroot : Folder.updateAt (fun _ => next) (place ++ [name])
      (Folder.updateAt (·.addFolder (.empty name)) place files.snapshot.root) =
        Folder.updateAt (fun _ => current.addFolder next) place files.snapshot.root := by
    rw [Folder.updateAt_append,
      Folder.updateAt_updateAt fun folder => Folder.name_addFolder folder (.empty name)]
    exact Folder.updateAt_congr h hlast
  simp only [withFolder, update, hroot]

/-- **A walk refuses only before it has made anything.** Wherever it stands, and whatever was made
on the way there, it comes to what `ensureIn` comes to from the folder it has reached. The induction
is on the way that is left; a folder that is made is reached by the next step. -/
theorem run_makeAlong (path : String) {rest : List String} :
    ∀ {files : FileSystem} {place : List String} {current : Folder} {made : Bool},
      files.snapshot.folderAt? place = some current →
      (makeAlong path place current rest made).run files =
        walkResult files place made (ensureIn path rest current) := by
  induction rest with
  | nil =>
    intro files place current made h
    simp [makeAlong, ensureIn, walkResult, withFolder]
  | cons name rest ih =>
    intro files place current made h
    rw [makeAlong, ensureIn]
    cases hc : current.folder? name with
    | some child =>
      have hchild : files.snapshot.folderAt? (place ++ [name]) = some child := by
        rw [folderAt?_concat, h]
        exact hc
      simp only
      rw [ih hchild]
      cases ensureIn path rest child with
      | error reason => rfl
      | ok next? =>
        cases next? with
        | none => rfl
        | some next => simp only [walkResult, withFolder_below h, Option.isSome_some]
    | none =>
      cases hf : current.file? name with
      | some file => simp [walkResult]
      | none =>
        simp only [Option.isSome_none, Bool.false_eq_true, if_false, run_alter_bind]
        -- The walk goes on from the new folder, which is where it was put.
        have hnew : Snapshot.folderAt?
            (files.snapshot.update place (·.addFolder (.empty name))) (place ++ [name]) =
              some (.empty name) := by
          have hplace : Snapshot.folderAt?
              (files.snapshot.update place (·.addFolder (.empty name))) place =
                some (current.addFolder (.empty name)) :=
            Folder.descend?_updateAt (fun folder => folder.name_addFolder _) h
          rw [folderAt?_concat, hplace]
          exact (Folder.folder?_addFolder hc).trans (if_pos rfl)
        rw [ih hnew]
        rcases ensureIn_empty path name rest with ⟨hend, rfl⟩ | hmade
        · rw [hend]
          simp only [walkResult, Folder.nest, Bool.true_or, Option.isSome_some, Bool.or_true]
          exact congrArg (Prod.mk _) (withFolder_change h (·.addFolder (.empty name))).symm
        · rw [hmade]
          simp only [walkResult, withFolder_made h hc, Option.isSome_some, Bool.or_true]

theorem run_ensureDirPath (files : FileSystem) (path : String) :
    (ensureDirPath path).run files = files.commit (files.snapshot.ensureDirPath path) := by
  unfold ensureDirPath
  have hwalk : (makeAlong path [] files.snapshot.root (files.snapshot.resolve path) false).run files =
      walkResult files [] false (ensureIn path (files.snapshot.resolve path) files.snapshot.root) :=
    run_makeAlong path rfl
  rw [run_ask_bind, run_ask_bind, run_bind, hwalk, Snapshot.ensureDirPath]
  cases ensureIn path (files.snapshot.resolve path) files.snapshot.root with
  | error reason => rfl
  | ok next? =>
    cases next? with
    | none => rfl
    | some next =>
      have hnext : withFolder files [] (some next) =
          { files with snapshot := { files.snapshot with root := next } } := rfl
      simp only [walkResult, hnext, Bool.false_or, Option.isSome_some, if_true, run_record]
      rfl

/-! ## Moving and copying -/

/-- What is taken out and put in again somewhere else. -/
theorem run_takeOut_putIn (files : FileSystem) (place : List String) (node : Node)
    (parent : List String) (name : String) (next : Unit → InPlace α) :
    (takeOut place node >>= fun _ => putIn parent name node >>= next).run files =
      (next ()).run { files with snapshot :=
        { files.snapshot.relocate place node parent name with cwd := files.snapshot.cwd } } := by
  cases node with
  | file file => rfl
  | folder moved =>
    by_cases hwithin : Path.isWithin place files.snapshot.cwd = true
    · simp [takeOut, putIn, relocate, hwithin, update]
    · simp [takeOut, putIn, relocate, hwithin, update]

/-- The current place goes along or stays, as `relocate` has it. -/
theorem run_follow_relocate (files : FileSystem) (place : List String) (node : Node)
    (parent : List String) (name : String) (next : Unit → InPlace α) :
    (follow place node (parent ++ [name]) >>= next).run { files with snapshot :=
        { files.snapshot.relocate place node parent name with cwd := files.snapshot.cwd } } =
      (next ()).run { files with snapshot := files.snapshot.relocate place node parent name } := by
  cases node with
  | file file => rfl
  | folder moved =>
    by_cases hwithin : Path.isWithin place files.snapshot.cwd = true
    · simp [follow, relocate, hwithin, Node.kind, update]
    · simp [follow, relocate, hwithin, Node.kind, update]

/-- The three changes of a move, and the record after them. -/
theorem run_relocate (files : FileSystem) (place : List String) (node : Node)
    (parent : List String) (name answer : String) :
    (do
      takeOut place node
      putIn parent name node
      follow place node (parent ++ [name])
      record
      return answer : InPlace String).run files =
        files.commit (.ok ⟨answer, some (files.snapshot.relocate place node parent name)⟩) := by
  rw [run_takeOut_putIn, run_follow_relocate, run_record_bind]

/-- The test of the program, when the entry does not move into itself. -/
theorem not_into {node : Node} {place goal : List String}
    (h : node.kind = .folder → ¬ place <+: goal) :
    (node.kind = .folder && Path.isWithin place goal) = false := by
  rw [Bool.and_eq_false_imp, decide_eq_true_eq]
  exact fun hkind => Bool.eq_false_iff.mpr fun hwithin =>
    h hkind (List.isPrefixOf_iff_prefix.mp hwithin)

theorem run_move (files : FileSystem) (source destination : String) :
    (move source destination).run files = files.commit (files.snapshot.move source destination) := by
  unfold move
  simp only [run_ask_bind]
  by_cases hroot : files.snapshot.resolve source = []
  · simp [hroot, move_root hroot, FileSystem.commit]
  · simp only [List.isEmpty_iff, hroot, if_false, run_ask_bind]
    cases hnode : files.snapshot.nodeAt? (files.snapshot.resolve source) with
    | none => simp [move_missing hroot hnode, FileSystem.commit]
    | some node =>
      by_cases hself : files.snapshot.resolve destination = files.snapshot.resolve source
      · simp [hself, move_onto_itself hroot hnode hself, FileSystem.commit]
      · have hends := move_of_source hroot hnode hself
        simp only [hself, if_false, run_ask_bind]
        generalize files.snapshot.destinationOf (files.snapshot.resolve source)
          (files.snapshot.resolve destination) = goal at hends ⊢
        obtain ⟨parent, name⟩ := goal
        generalize files.snapshot.move source destination = attempt at hends ⊢
        simp only at hends ⊢
        cases hends with
        | unnamed hname => simp [hname, FileSystem.commit]
        | there hname hsame => simp [hname, hsame, FileSystem.commit]
        | intoItself hname hmoves hkind hwithin =>
          simp [hname, hmoves, hkind, hwithin, Path.isWithin, FileSystem.commit]
        | noDestination hname hmoves houtside habove =>
          simp [hname, hmoves, not_into houtside, habove, FileSystem.commit]
        | taken hname hmoves houtside habove htaken =>
          simp [hname, hmoves, not_into houtside, habove, htaken, FileSystem.commit]
        | moved hname hmoves houtside habove hfree =>
          simp only [hname, hmoves, not_into houtside, if_false, Bool.false_eq_true, run_ask_bind,
            habove, hfree]
          exact run_relocate _ _ _ _ _ _

/-- A look that is refused ends the program. -/
theorem run_look_bind (f : Snapshot → Except FileError α) (next : α → InPlace β)
    (files : FileSystem) :
    (look f >>= next).run files = match f files.snapshot with
      | .ok a => (next a).run files
      | .error reason => (.error (.files reason), files) := by
  rw [run_bind, look, run_ofRun]
  cases f files.snapshot <;> rfl

theorem run_copy (files : FileSystem) (source destination : String) :
    (copy source destination).run files = files.commit (files.snapshot.copy source destination) := by
  unfold copy Snapshot.copy
  rw [run_look_bind]
  cases files.snapshot.read source with
  | error reason => rfl
  | ok content =>
    simp only [run_ask_bind]
    generalize (if files.snapshot.isFolder destination then _ else destination) = target
    by_cases hself : files.snapshot.resolve target = files.snapshot.resolve source
    · simp [hself, FileSystem.commit]
    · simp only [hself, if_false]
      rw [run_bind, run_write]
      have hends := files.snapshot.write_ends target content
      generalize files.snapshot.write target content = attempt at hends
      cases hends with
      | root hplace => rfl
      | noParent hplace habove => rfl
      | onFolder hplace habove hfolder => rfl
      | written hplace habove hfree =>
        -- To write into a file leaves the current place, and so the meaning of paths, as it was.
        simp only [Except.map, FileSystem.commit_some]
        rcases FileSystem.save_cases _ with ⟨_, -, -, hsave⟩ | ⟨_, -, hsave⟩
        · rw [hsave]
          rfl
        · rw [hsave]

theorem run_reset (files : FileSystem) : reset.run files = files.commit files.snapshot.reset :=
  run_record files .fresh

/-! ## Every request -/

theorem run_discard (step : InPlace α) (files : FileSystem) :
    (discard step).run files = ((step.run files).1.map fun _ => (), (step.run files).2) :=
  run_bind_pure step (fun _ => ()) files

theorem run_discard_commit {step : InPlace α} {files : FileSystem} {attempt : Attempt α}
    (h : step.run files = files.commit attempt) :
    (discard step).run files = files.commit (attempt.map Step.silent) := by
  rw [run_discard, h]
  exact (files.commit_map (fun _ => ()) attempt).symm

theorem run_discard_look (f : Snapshot → Except FileError α) (files : FileSystem) :
    (discard (look f)).run files =
      (((f files.snapshot).map fun _ => ()).mapError .files, files) := by
  rw [run_discard, look, run_ofRun]
  cases f files.snapshot <;> rfl

end InPlace

theorem Operation.run_inPlace (files : FileSystem) (operation : Operation) :
    operation.inPlace.run files = files.perform operation := by
  cases operation with
  | changeDirectory path => exact InPlace.run_changeDirectory files path
  | mkdir name => exact InPlace.run_mkdir files name
  | rmdir path => exact InPlace.run_rmdir files path
  | ensureDirPath path => exact InPlace.run_ensureDirPath files path
  | write path content => exact InPlace.run_write files path content
  | unlink path => exact InPlace.run_unlink files path
  | move source destination =>
    exact InPlace.run_discard_commit (InPlace.run_move files source destination)
  | copy source destination =>
    exact InPlace.run_discard_commit (InPlace.run_copy files source destination)
  | reset => exact InPlace.run_reset files
  | save => exact InPlace.run_record files files.snapshot

theorem Request.run_inPlace (files : FileSystem) (request : Request) :
    request.inPlace.run files = files.answer request := by
  cases request with
  | change operation => exact operation.run_inPlace files
  | list path => exact InPlace.run_discard_look (·.list path) files
  | read path => exact InPlace.run_discard_look (·.read path) files
  | walk path limit => exact InPlace.run_discard_look (·.walk path limit) files

namespace FileSystem

/-- A reason to refuse comes from the attempt, before there is a snapshot to record; what can go
wrong with the recording is no such reason. -/
theorem commit_refused {α : Type} {files after : FileSystem} {attempt : Attempt α}
    {reason : FileError} (h : files.commit attempt = (.error (.files reason), after)) :
    after = files := by
  rcases commit_error_cases (congrArg Prod.fst h) with ⟨_, rfl, -⟩ | hfault
  · exact (congrArg Prod.snd h).symm
  · cases hfault

theorem answer_refused {files after : FileSystem} {request : Request} {reason : FileError}
    (h : files.answer request = (.error (.files reason), after)) : after = files := by
  cases request with
  | change operation => exact commit_refused h
  | list path => exact (congrArg Prod.snd h).symm
  | read path => exact (congrArg Prod.snd h).symm
  | walk path limit => exact (congrArg Prod.snd h).symm

/-- **Refused is unchanged.** On any file system, every request worked out statement by statement
comes to what it comes to as a whole; and if it is stopped for a reason, tree, current place and
store are what they were before its first statement. -/
theorem refused_unchanged (files : FileSystem) (request : Request) :
    request.inPlace.run files = files.answer request ∧
      ∀ reason after, request.inPlace.run files = (.error (.files reason), after) →
        after = files := by
  refine ⟨request.run_inPlace files, fun reason after h => ?_⟩
  rw [request.run_inPlace files] at h
  exact answer_refused h

/-- A file system with an empty store, whose current folder holds a file. -/
def cabinet : FileSystem :=
  ⟨⟨⟨"/", [⟨"drawer", [], [⟨"card", "x"⟩]⟩], []⟩, ["drawer"]⟩, some .empty, "vfs"⟩

theorem refused_unchanged_cabinet :
    let run := (Request.change (.ensureDirPath "../drawer/card/new")).inPlace.run cabinet
    run.1 = .error (.files (.nameTaken "card" "../drawer/card/new")) ∧ run.2 = cabinet := by
  have hrefused :
      ((Request.change (.ensureDirPath "../drawer/card/new")).inPlace.run cabinet).1 =
        .error (.files (.nameTaken "card" "../drawer/card/new")) := by
    rw [Request.run_inPlace]
    rfl
  exact ⟨hrefused, (refused_unchanged cabinet _).2 _ _ (Prod.ext hrefused rfl)⟩

end FileSystem

end TreeShell
