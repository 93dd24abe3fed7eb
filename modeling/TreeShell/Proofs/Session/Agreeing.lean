import TreeShell.Proofs.Builtin.Pervasive
import TreeShell.Proofs.Operation
import TreeShell.Proofs.Session.Returning

/-!
# Sessions that cannot be told apart

Two sessions *agree* if they have the same tree, the same environment and the same time, and both
have an open store. What else there is may differ: the configuration, what the store holds, what is
registered, the console. A step is *unaware* of all that if it answers the same in both and leaves
them agreeing. Printing is, and so are the uses of the file system, of the clock and of the
environment; putting steps together keeps it. So a step that is made of these does to a tree what
depends on nothing but the tree, the environment and the time.
-/

set_option autoImplicit false

namespace TreeShell

open FileSystem

/-- Two sessions with the same tree, environment and time, on stores that are open. -/
structure Session.Agrees (s t : Session) : Prop where
  snapshot : s.files.snapshot = t.files.snapshot
  environment : s.environment = t.environment
  now : s.now = t.now
  opened : s.files.Opened ∧ t.files.Opened

namespace Shell

variable {α β : Type}

/-- A step that answers the same in sessions that agree, and leaves them agreeing. -/
def Unaware (step : Shell α) : Prop :=
  ∀ s t : Session, s.Agrees t →
    (step.run s).1 = (step.run t).1 ∧ (step.run s).2.Agrees (step.run t).2

theorem Unaware.bind {step : Shell α} {next : α → Shell β} (h : Unaware step)
    (hnext : ∀ a, Unaware (next a)) : Unaware (step >>= next) := by
  intro s t hagrees
  obtain ⟨hsame, hafter⟩ := h s t hagrees
  rw [run_bind, run_bind]
  generalize step.run s = first at hsame hafter ⊢
  generalize step.run t = second at hsame hafter ⊢
  obtain ⟨result, u⟩ := first
  obtain ⟨other, v⟩ := second
  dsimp only at hsame
  subst hsame
  cases result with
  | ok a => exact hnext a u v hafter
  | error fault => exact ⟨rfl, hafter⟩

theorem Unaware.attempt {step : Shell α} (h : Unaware step) : Unaware (attempt step) := by
  intro s t hagrees
  obtain ⟨hsame, hafter⟩ := h s t hagrees
  rw [run_attempt, run_attempt]
  exact ⟨congrArg attempted hsame, hafter⟩

theorem unaware_change (f : Snapshot → Attempt α) : Unaware (change f) := by
  intro s t hagrees
  cases hattempt : f s.files.snapshot with
  | error reason =>
    rw [run_change_of_error hattempt, run_change_of_error (hagrees.snapshot ▸ hattempt)]
    exact ⟨rfl, hagrees⟩
  | ok step =>
    rw [run_change_of_ok hagrees.opened.1 hattempt,
      run_change_of_ok hagrees.opened.2 (hagrees.snapshot ▸ hattempt)]
    refine ⟨rfl, ?_, hagrees.environment, hagrees.now, hagrees.opened.1.commit _,
      hagrees.opened.2.commit _⟩
    rw [snapshot_commit, snapshot_commit, hagrees.snapshot]

/-- **What is plain is unaware.** -/
theorem plain_unaware : Plain Unaware where
  pure _ _ _ hagrees := ⟨rfl, hagrees⟩
  throw _ _ _ hagrees := ⟨rfl, hagrees⟩
  bind := Unaware.bind
  attempt := Unaware.attempt
  print _ _ _ hagrees := ⟨rfl, hagrees.snapshot, hagrees.environment, hagrees.now, hagrees.opened⟩
  view f _ _ hagrees :=
    ⟨congrArg (fun snapshot => Except.ok (f snapshot)) hagrees.snapshot, hagrees⟩
  look f _ _ hagrees :=
    ⟨congrArg (fun snapshot => (f snapshot).mapError Fault.files) hagrees.snapshot, hagrees⟩
  change := unaware_change
  clock next hnext s t hagrees := by
    rw [run_get_bind, run_get_bind, hagrees.now]
    exact hnext t.now s t hagrees

/-! ## The environment -/

theorem unaware_environment : Unaware environment :=
  fun _ _ hagrees => ⟨congrArg Except.ok hagrees.environment, hagrees⟩

theorem unaware_withEnvironment (f : Environment → Environment) : Unaware (withEnvironment f) :=
  fun _ _ hagrees =>
    ⟨rfl, hagrees.snapshot, congrArg f hagrees.environment, hagrees.now, hagrees.opened⟩

theorem unaware_record (path : String) (document : Environment → Json) :
    Unaware (do writeSettings path (document (← environment)).indented) :=
  unaware_environment.bind fun _ => plain_unaware.writeSettings _ _

theorem unaware_recordEnvironment : Unaware recordEnvironment := by
  refine unaware_environment.bind fun e => Unaware.bind ?_ fun _ =>
    (unaware_record searchFile Environment.searchDocument).bind fun _ =>
    (unaware_record displayFile Environment.displayDocument).bind fun _ =>
    (unaware_withEnvironment _).bind fun _ =>
    unaware_record historyFile Environment.historyDocument
  unfold recordLimit
  split
  · exact plain_unaware.writeSettings _ _
  · exact plain_unaware.throw _

theorem unaware_ensureOnPath (folder : String) : Unaware (ensureOnPath folder) :=
  (unaware_withEnvironment _).bind fun _ => unaware_record searchFile Environment.searchDocument

end Shell

end TreeShell
