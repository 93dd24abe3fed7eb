import TreeShell.Proofs.Dispatch.Shellwide
import TreeShell.Proofs.Session.Steady

/-!
# Lines, scripts and programs are steady

What runs commands is as steady as the commands it runs. A script counts itself while it runs
(`deeper`), and because its lines are steady it counts itself out again: that is the one place where
the count of scripts changes, and it changes back on every way out. So however many levels of
commands there may be, running a command leaves the count as it was (`steady_registered`).
-/

set_option autoImplicit false

namespace TreeShell.Shell

/-- A script that is counted while it runs is not counted afterwards. -/
theorem Steady.deeper {α : Type} {step : Shell α} (h : Steady step) : Steady (deeper step) := by
  refine ⟨fun s earlier => ?_, fun s => ?_, fun s => ?_⟩
  · have houtput := h.output { s with scriptDepth := s.scriptDepth + 1 } earlier
    simp only [Shell.deeper, run_ofRun, Session.withEarlier] at houtput ⊢
    rw [houtput]
  · have hdepth := h.depth { s with scriptDepth := s.scriptDepth + 1 }
    simp only [Shell.deeper, run_ofRun] at hdepth ⊢
    rw [hdepth, Nat.add_sub_cancel]
  · have hconfig := h.config { s with scriptDepth := s.scriptDepth + 1 }
    simpa only [Shell.deeper, run_ofRun] using hconfig

theorem shellwide_steady : Shellwide Steady :=
  { interactive_steady, pervasive_steady with
    registry := fun _ hnext => steady_get_bind (fun s => hnext s.registry) fun _ _ => rfl
    depth := fun _ hnext => steady_get_bind (fun s => hnext s.scriptDepth) fun _ _ => rfl
    deeper := Steady.deeper
    dropHint := ⟨fun _ _ => rfl, fun _ => rfl, fun _ => rfl⟩ }

section Scripts

variable {run : Command → Shell Outcome} (hrun : ∀ call, Steady (run call))

include hrun

theorem steady_strict (call : Command) : Steady (strict run call) :=
  shellwide_steady.strict hrun call

theorem steady_runLines (invokedAs path : String) (number : Nat) (lines : List String) :
    Steady (runLines run invokedAs path number lines) :=
  shellwide_steady.runLines hrun invokedAs path number lines

theorem steady_runScriptAt (invokedAs path : String) :
    Steady (runScriptAt run invokedAs path) :=
  shellwide_steady.runScriptAt hrun invokedAs path

end Scripts

/-- **However deep commands run in one another, none leaves a trace in the account.** -/
theorem steady_registered (levels : Nat) (call : Command) : Steady (registered levels call) :=
  (shellwide_steady.levels levels).1 call

theorem steady_runnerIn (levels : Nat) : (runnerIn levels).All Steady :=
  shellwide_steady.runnerIn levels

end TreeShell.Shell
