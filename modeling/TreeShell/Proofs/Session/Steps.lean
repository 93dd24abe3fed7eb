import TreeShell.Session.Prompt

/-!
# Running steps of a session

What each of the steps that commands are made of comes to in a session, as equations. A command is
taken apart with `run_bind`, and `simp` does the rest as long as no step can be stopped.
-/

set_option autoImplicit false

namespace TreeShell

namespace Session

/-- The session after some more lines were printed. -/
def printed (lines : List String) (s : Session) : Session :=
  { s with console := { s.console with output := s.console.output ++ lines } }

theorem printed_printed (first second : List String) (s : Session) :
    (s.printed first).printed second = s.printed (first ++ second) := by
  simp [printed]

@[simp]
theorem files_printed (lines : List String) (s : Session) :
    (s.printed lines).files = s.files := rfl

theorem printed_nil (s : Session) : s.printed [] = s := by
  simp [printed]

end Session

namespace Shell

variable {α β : Type}

@[simp]
theorem run_pure (a : α) (s : Session) : (pure a : Shell α).run s = (.ok a, s) := rfl

/-- A step goes on in the session its first part left, unless a fault stopped that. -/
theorem run_bind (step : Shell α) (next : α → Shell β) (s : Session) :
    (step >>= next).run s = match step.run s with
      | (.ok a, s) => (next a).run s
      | (.error fault, s) => (.error fault, s) := by
  unfold run ExceptT.run
  simp only [bind, ExceptT.bind, ExceptT.mk, StateT.bind, ExceptT.bindCont]
  cases (step : StateM Session (Except Fault α)) s with
  | mk result s => cases result <;> rfl

theorem run_bind_of_ok {step : Shell α} {next : α → Shell β} {a : α} {s t : Session}
    (h : step.run s = (.ok a, t)) : (step >>= next).run s = (next a).run t := by
  rw [run_bind, h]

theorem run_bind_of_error {step : Shell α} {next : α → Shell β} {fault : Fault} {s t : Session}
    (h : step.run s = (.error fault, t)) : (step >>= next).run s = (.error fault, t) := by
  rw [run_bind, h]

/-- A step that ends with a value came through its first part. -/
theorem exists_of_run_bind_ok {step : Shell α} {next : α → Shell β} {b : β} {s : Session}
    (h : ((step >>= next).run s).1 = .ok b) :
    ∃ a t, step.run s = (.ok a, t) ∧ ((next a).run t).1 = .ok b := by
  rw [run_bind] at h
  split at h
  · rename_i a t hstep
    exact ⟨a, t, hstep, h⟩
  · cases h

@[simp]
theorem run_get_bind (next : Session → Shell β) (s : Session) :
    ((get : Shell Session) >>= next).run s = (next s).run s := rfl

@[simp]
theorem run_view_bind (f : Snapshot → α) (next : α → Shell β) (s : Session) :
    (view f >>= next).run s = (next (f s.files.snapshot)).run s := rfl

@[simp]
theorem run_environment_bind (next : Environment → Shell β) (s : Session) :
    (environment >>= next).run s = (next s.environment).run s := rfl

/-- A look that may be refused leaves the session as it is, and so does taking the refusal for an
answer. -/
theorem run_attempt_look (f : Snapshot → Except FileError α) (s : Session) :
    (attempt (look f)).run s = (.ok (f s.files.snapshot), s) := by
  unfold attempt look
  rw [run_ofRun, run_ofRun]
  cases f s.files.snapshot <;> rfl

theorem run_printLines (lines : List String) (s : Session) :
    (printLines lines).run s = (.ok (), s.printed lines) := by
  induction lines generalizing s with
  | nil => simp [printLines, Session.printed]
  | cons line rest ih =>
    have hlines : printLines (line :: rest) = (print line >>= fun _ => printLines rest) := rfl
    have hprint : (print line).run s = (.ok (), s.printed [line]) := rfl
    rw [hlines, run_bind_of_ok hprint, ih, Session.printed_printed]
    rfl

/-! ## Faults as answers -/

/-- What `attempt` makes of the end of a step. -/
def attempted : Except Fault α → Except Fault (Except FileError α)
  | .ok a => .ok (.ok a)
  | .error (.files reason) => .ok (.error reason)
  | .error fault => .error fault

/-- What `guarded` makes of the end of a step. -/
def guardedEnd : Except Fault α → Except Fault (Except Fault α)
  | .ok a => .ok (.ok a)
  | .error fault => if fault.isOrdinary then .ok (.error fault) else .error fault

theorem run_attempt (step : Shell α) (s : Session) :
    (attempt step).run s = (attempted (step.run s).1, (step.run s).2) := by
  rw [attempt, run_ofRun]
  generalize step.run s = first
  obtain ⟨result, s'⟩ := first
  cases result with
  | ok a => rfl
  | error fault => cases fault <;> rfl

theorem run_settled (step : Shell α) (s : Session) :
    (settled step).run s = (.ok (step.run s).1, (step.run s).2) := rfl

theorem run_guarded (step : Shell α) (s : Session) :
    (guarded step).run s = (guardedEnd (step.run s).1, (step.run s).2) := by
  rw [guarded, run_ofRun]
  generalize step.run s = first
  obtain ⟨result, s'⟩ := first
  cases result <;> rfl

end Shell

end TreeShell
