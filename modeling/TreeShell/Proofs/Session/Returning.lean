import TreeShell.Proofs.Operation
import TreeShell.Proofs.Session.Compositional

/-!
# Steps that come to their end

Almost everything a command does ends with a value, whatever the file system answers: a step that
may be refused is tried, and the refusal is a value then. A step *returns* if no fault stops it, and
it is *refusable* if nothing but a refusal of the file system does. Both are said with what they
rest on: something that holds of the file system before the step, and after it again. Most commands
need the store to be open, so that what was changed can be recorded, and no more
(`FileSystem.Opened`).
-/

set_option autoImplicit false

namespace TreeShell

namespace Shell

open FileSystem

variable {α β : Type} {I : FileSystem → Prop}

/-- A step that always ends with a value where `I` holds, and keeps it up. -/
def Returns (I : FileSystem → Prop) (step : Shell α) : Prop :=
  ∀ s, I s.files → ∃ a t, step.run s = (.ok a, t) ∧ I t.files

/-- A step that always ends with a value or a refusal where `I` holds, and keeps it up. -/
def Refusable (I : FileSystem → Prop) (step : Shell α) : Prop :=
  ∀ s, I s.files → (∃ a t, step.run s = (.ok a, t) ∧ I t.files) ∨
    ∃ reason t, step.run s = (.error (.files reason), t) ∧ I t.files

/-! ## Putting steps together -/

theorem Returns.ends {step : Shell α} (h : Returns I step) {s : Session} (hs : I s.files) :
    ∃ a t, step.run s = (.ok a, t) := by
  obtain ⟨a, t, hrun, -⟩ := h s hs
  exact ⟨a, t, hrun⟩

theorem Returns.refusable {step : Shell α} (h : Returns I step) : Refusable I step :=
  fun s hs => .inl (h s hs)

theorem Returns.bind {step : Shell α} {next : α → Shell β} (h : Returns I step)
    (hnext : ∀ a, Returns I (next a)) : Returns I (step >>= next) := by
  intro s hs
  obtain ⟨a, t, hrun, ht⟩ := h s hs
  rw [run_bind_of_ok hrun]
  exact hnext a t ht

theorem Refusable.bind {step : Shell α} {next : α → Shell β} (h : Refusable I step)
    (hnext : ∀ a, Refusable I (next a)) : Refusable I (step >>= next) := by
  intro s hs
  rcases h s hs with ⟨a, t, hrun, ht⟩ | ⟨reason, t, hrun, ht⟩
  · rw [run_bind_of_ok hrun]
    exact hnext a t ht
  · exact .inr ⟨reason, t, run_bind_of_error hrun, ht⟩

/-- What holds after a step, however it ended. -/
theorem Refusable.keeps {step : Shell α} (h : Refusable I step) {s t : Session} (hs : I s.files)
    {result : Except Fault α} (hrun : step.run s = (result, t)) : I t.files := by
  rcases h s hs with ⟨_, u, hends, hu⟩ | ⟨_, u, hends, hu⟩
  · obtain ⟨-, rfl⟩ := Prod.mk.inj (hends.symm.trans hrun)
    exact hu
  · obtain ⟨-, rfl⟩ := Prod.mk.inj (hends.symm.trans hrun)
    exact hu

theorem run_attempt_of_ok {step : Shell α} {a : α} {s t : Session} (h : step.run s = (.ok a, t)) :
    (attempt step).run s = (.ok (.ok a), t) := by
  rw [run_attempt, h]
  rfl

theorem run_attempt_of_refused {step : Shell α} {reason : FileError} {s t : Session}
    (h : step.run s = (.error (.files reason), t)) :
    (attempt step).run s = (.ok (.error reason), t) := by
  rw [run_attempt, h]
  rfl

/-- A refusal that is taken for an answer stops nothing. -/
theorem Refusable.attempt {step : Shell α} (h : Refusable I step) : Returns I (attempt step) := by
  intro s hs
  rcases h s hs with ⟨a, t, hrun, ht⟩ | ⟨reason, t, hrun, ht⟩
  · exact ⟨.ok a, t, run_attempt_of_ok hrun, ht⟩
  · exact ⟨.error reason, t, run_attempt_of_refused hrun, ht⟩

theorem returns_pure (a : α) : Returns I (pure a : Shell α) :=
  fun s hs => ⟨a, s, rfl, hs⟩

/-- A step whose value is only looked at. -/
theorem Returns.returning {step : Shell α} (h : Returns I step) (f : α → β) :
    Returns I (step >>= fun a => pure (f a)) :=
  h.bind fun a => returns_pure (f a)

theorem Returns.forM {action : α → Shell Unit} {items : List α}
    (haction : ∀ a ∈ items, Returns I (action a)) : Returns I (items.forM action) := by
  induction items with
  | nil => exact returns_pure ()
  | cons item rest ih =>
    obtain ⟨hitem, hrest⟩ := List.forall_mem_cons.mp haction
    exact hitem.bind fun _ => ih hrest

theorem Returns.mapM {action : α → Shell β} {items : List α}
    (haction : ∀ a ∈ items, Returns I (action a)) : Returns I (items.mapM action) := by
  induction items with
  | nil =>
    rw [List.mapM_nil]
    exact returns_pure []
  | cons item rest ih =>
    obtain ⟨hitem, hrest⟩ := List.forall_mem_cons.mp haction
    rw [List.mapM_cons]
    exact hitem.bind fun _ => (ih hrest).returning _

/-! ## Steps that leave the file system alone -/

theorem returns_print (line : String) : Returns I (print line) :=
  fun _ hs => ⟨(), _, rfl, hs⟩

theorem returns_printLines (lines : List String) : Returns I (printLines lines) :=
  .forM fun line _ => returns_print line

theorem returns_painted (color : Color) (text : String) : Returns I (painted color text) :=
  fun s hs => ⟨_, s, rfl, hs⟩

theorem returns_get : Returns I (get : Shell Session) :=
  fun s hs => ⟨s, s, rfl, hs⟩

theorem returns_view (f : Snapshot → α) : Returns I (view f) :=
  fun s hs => ⟨_, s, rfl, hs⟩

theorem returns_environment : Returns I environment :=
  fun s hs => ⟨_, s, rfl, hs⟩

theorem returns_withEnvironment (f : Environment → Environment) : Returns I (withEnvironment f) :=
  fun _ hs => ⟨(), _, rfl, hs⟩

theorem returns_bounds : Returns I bounds :=
  fun s hs => ⟨_, s, rfl, hs⟩

theorem refusable_look (f : Snapshot → Except FileError α) : Refusable I (look f) := by
  intro s hs
  rw [look, run_ofRun]
  cases f s.files.snapshot with
  | ok a => exact .inl ⟨a, s, rfl, hs⟩
  | error reason => exact .inr ⟨reason, s, rfl, hs⟩

/-! ## Changes -/

section Change

variable {f : Snapshot → Attempt α}

/-- A change that the file system does not refuse is made. -/
theorem run_change_of_ok {s : Session} {step : Step α} (h : s.files.Opened)
    (hf : f s.files.snapshot = .ok step) :
    (change f).run s =
      (.ok step.answer, { s with files := (s.files.commit (f s.files.snapshot)).2 }) := by
  have hok := h.commit_ok step
  rw [change, run_ofRun, hf]
  generalize s.files.commit (.ok step) = ended at hok
  obtain ⟨result, files⟩ := ended
  dsimp only at hok
  rw [hok]

theorem run_change_of_error {s : Session} {reason : FileError}
    (hf : f s.files.snapshot = .error reason) :
    (change f).run s = (.error (.files reason), s) := by
  rw [change, run_ofRun, hf]
  rfl

theorem refusable_change (hopen : ∀ files, I files → files.Opened)
    (hf : ∀ files, I files → I (files.commit (f files.snapshot)).2) : Refusable I (change f) := by
  intro s hs
  cases hattempt : f s.files.snapshot with
  | ok step => exact .inl ⟨_, _, run_change_of_ok (hopen _ hs) hattempt, hf _ hs⟩
  | error reason => exact .inr ⟨reason, s, run_change_of_error hattempt, hs⟩

end Change

theorem refusable_install {folder path content : String}
    (hfolder : Refusable I (change (·.ensureDirPath folder)))
    (hfile : Refusable I (change (·.write path content))) :
    Refusable I (install folder path content) :=
  hfolder.bind fun _ => hfile

section Opened

/-- Of a change nothing else is asked than that it can be recorded. -/
theorem refusable_change_opened (f : Snapshot → Attempt α) : Refusable Opened (change f) :=
  refusable_change (fun _ h => h) fun _ h => h.commit _

theorem returns_writeSettings (path content : String) :
    Returns Opened (writeSettings path content) :=
  (refusable_install (refusable_change_opened _) (refusable_change_opened _)).attempt.returning _

end Opened

end Shell

end TreeShell
