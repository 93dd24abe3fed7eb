import TreeShell.Proofs.Completion.Turning
import TreeShell.Proofs.Dispatch.Routes

/-!
# Completing a command

The names that are offered for a command word are the registered ones and those made from the files
of the search path, by taking the extension off. A dispatch goes the other way: it takes a name and
puts the extension on. The two agree on a name that is written as it is (`IsBareWord`) and whose
file has the extension in small letters; then the line that a completion proposes runs the built-in
command, or the very program it was made from (`offered_command_dispatches`).

They do not agree on all names. Case does not count when the extension is taken off, and does when
it is put on again, so that a program `Alpha.PY` is offered and not found
(`offered_command_not_found`).
-/

set_option autoImplicit false

namespace TreeShell

/-- What can be completed in a session. -/
def Session.sources (s : Session) : CompletionSources :=
  ⟨s.registry.sortedNames ++ s.environment.path.commands s.files.snapshot, s.files.snapshot⟩

/-! ## Where names come from -/

namespace Registry

theorem exists_of_mem_builtins {name : String} (h : name ∈ builtins.sortedNames) :
    ∃ command : Builtin, command.name = name := by
  rw [sortedNames, Text.mem_sorted, Fields.names, builtins, List.map_map] at h
  obtain ⟨command, -, hname⟩ := List.mem_map.mp h
  exact ⟨command, hname⟩

/-- Only built-in commands are registered among the built-in commands. -/
theorem exists_of_find?_builtins {word : String} {handler : Handler}
    (h : builtins.find? word = some handler) : ∃ command, handler = .builtin command := by
  obtain ⟨before, after, hbuiltins, -⟩ := List.lookup_eq_some_iff.mp h
  have hmem : (Text.lower word, handler) ∈ builtins := by
    rw [hbuiltins]
    exact List.mem_append_right _ List.mem_cons_self
  obtain ⟨command, -, hpair⟩ := List.mem_map.mp hmem
  exact ⟨command, (congrArg Prod.snd hpair).symm⟩

end Registry

namespace SearchPath

variable {path : SearchPath} {s : Snapshot} {name : String}

/-- A name made from a file has no separator, because the file has none. -/
theorem not_mem_of_commandOf? {folder file : String} (hs : s.WellFormed)
    (hfile : path.Holds s folder file) (h : commandOf? file = some name) : '/' ∉ name.toList := by
  obtain ⟨-, listing, hlist, hlisted⟩ := hfile
  have hsep := (hs.isName_of_list hlist (Or.inr hlisted)).2.1
  unfold commandOf? at h
  split at h
  · cases h
    rw [Text.dropLast, String.toList_ofList]
    exact fun hmem => hsep (List.mem_of_mem_take hmem)
  · exact nomatch h

end SearchPath

/-! ## What is proposed -/

namespace CompletionSources

variable {sources : CompletionSources} {line name : String} {completion : Completion}

/-- A word is a command word when it is the first of its line and no path to a file. -/
def AtCommand (line : String) : Prop :=
  (currentWord line).position = 0 ∧ Text.startsWith (currentWord line).value "./" = false

instance (line : String) : Decidable (AtCommand line) :=
  inferInstanceAs (Decidable (_ ∧ _))

theorem completeAfresh_of_atCommand (h : AtCommand line) :
    sources.completeAfresh line = sources.completeCommand line (currentWord line).value := by
  refine if_pos ?_
  simp [h.1, h.2]

theorem Turned.offers_command (h : Turned sources line completion) (hcommand : AtCommand line)
    (hsome : completion.candidates ≠ []) :
    ∃ name ∈ sources.commands, Text.startsWith name (currentWord line).value = true ∧
      completion.text = name ++ " " ∧ completion.shown? = some name := by
  have hfirst : sources.completeAfresh line = .ofCandidates line .command _ :=
    completeAfresh_of_atCommand hcommand
  obtain ⟨candidate, hcandidate, htext, hshown⟩ := (h.offers hfirst hsome).active
  obtain ⟨name, hname, rfl⟩ := List.mem_map.mp hcandidate
  rw [List.mem_filter, List.mem_eraseDups, Text.mem_sorted] at hname
  refine ⟨name, hname.1, hname.2, htext, ?_⟩
  rw [hshown]
  simp [Candidate.shown]

/-- Where a command begins as the word does, something is offered. -/
theorem candidates_ne_nil (hcommand : AtCommand line) (hname : name ∈ sources.commands)
    (hstart : Text.startsWith name (currentWord line).value = true) :
    (sources.complete none line false).candidates ≠ [] := by
  have hmem : name ∈ ((Text.sorted sources.commands).eraseDups.filter
      (Text.startsWith · (currentWord line).value)) := by
    rw [List.mem_filter, List.mem_eraseDups, Text.mem_sorted]
    exact ⟨hname, hstart⟩
  rw [complete, completeAfresh_of_atCommand hcommand, completeCommand]
  refine (Completion.offers_ofCandidates line .command ?_).candidates_ne_nil
  exact List.ne_nil_of_mem (List.mem_map_of_mem hmem)

end CompletionSources

namespace Shell

variable {s : Session} {line name : String} {completion : Completion}

/-- Where the name of a command is to lead: to the built-in command of that name, or to a program of
the search path from whose file the name was made. -/
inductive Reaches (s : Session) (name : String) : Shell Outcome → Prop
  | builtin {command : Builtin} (hfound : s.registry.find? name = some (.builtin command)) :
      Reaches s name (command.run [])
  | program {folder file content : String}
      (hfile : s.environment.path.Holds s.files.snapshot folder file)
      (hname : SearchPath.commandOf? file = some name)
      (hread : s.files.snapshot.read (Path.join folder file) = .ok content) :
      Reaches s name
        (runProgramText (runnerIn (levelsBelow s)) (Path.join folder file) content ⟨name, []⟩)

theorem Reaches.handles {step : Shell Outcome} (h : Reaches s name step) : Handles step := by
  cases h with
  | builtin => exact handles_builtin _ _
  | program => exact handles_runProgramText _ _ _ _

/-- A name is spelled for dispatch when it is registered, or when some program of the search path
that it was made from has the file that a dispatch looks for. -/
def SpelledForDispatch (s : Session) (name : String) : Prop :=
  s.registry.find? name = none →
    ∃ folder, s.environment.path.Holds s.files.snapshot folder (SearchPath.fileFor name) ∧
      SearchPath.commandOf? (SearchPath.fileFor name) = some name

theorem not_mem_of_mem_sources (hs : s.files.snapshot.WellFormed) (hregistry : s.registry = .builtins)
    (h : name ∈ s.sources.commands) : '/' ∉ name.toList := by
  rcases List.mem_append.mp h with h | h
  · rw [hregistry] at h
    obtain ⟨command, rfl⟩ := Registry.exists_of_mem_builtins h
    cases command <;> decide
  · obtain ⟨-, folder, file, hfile, hcommand⟩ := SearchPath.mem_commands_iff.mp h
    exact SearchPath.not_mem_of_commandOf? hs hfile hcommand

/-- **What is offered can be run.** The line a completion proposes for a command word runs the
built-in command of the name or the program the name was made from, and is never taken for a line
without a command. -/
theorem offered_command_dispatches (hs : s.files.snapshot.WellFormed)
    (hregistry : s.registry = .builtins) (haliases : s.environment.aliases = [])
    (hcommand : CompletionSources.AtCommand line) (h : s.sources.Turned line completion)
    (hshown : completion.shown? = some name) (hbare : IsBareWord name)
    (hspelled : SpelledForDispatch s name) :
    completion.text = name ++ " " ∧ ∃ step, Reaches s name step ∧ Handles step ∧
      (dispatch completion.text).run s = step.run s := by
  obtain ⟨word, hmem, -, htext, hword⟩ :=
    h.offers_command hcommand (Completion.candidates_ne_nil_of_shown? hshown)
  obtain rfl : name = word := Option.some.inj (hshown.symm.trans hword)
  have hsep := not_mem_of_mem_sources hs hregistry hmem
  refine ⟨htext, ?_⟩
  rw [htext]
  cases hfound : s.registry.find? name with
  | some handler =>
    rw [hregistry] at hfound
    obtain ⟨command, rfl⟩ := Registry.exists_of_find?_builtins hfound
    rw [← hregistry] at hfound
    have hreaches : Reaches s name (command.run []) := .builtin hfound
    exact ⟨_, hreaches, hreaches.handles, run_dispatch_builtin hbare hsep haliases hfound⟩
  | none =>
    -- the program that runs is the first of its name; any other is hidden by it
    obtain ⟨holder, hheld, hname⟩ := hspelled hfound
    have hne : name ≠ "" := fun hempty => hbare.ne_nil (by rw [hempty]; rfl)
    cases hprogram : s.environment.path.find? s.files.snapshot name with
    | none => exact absurd hheld ((SearchPath.find?_eq_none_iff hne hsep).mp hprogram holder)
    | some program =>
      obtain ⟨folder, hfile, rfl⟩ := SearchPath.holds_of_find? hne hsep hprogram
      obtain ⟨content, hread⟩ := hfile.exists_read hs
      have hreaches := Reaches.program hfile hname hread
      exact ⟨_, hreaches, hreaches.handles,
        run_dispatch_program hbare hsep haliases hfound hprogram hread⟩

/-! ## One program -/

/-- A session with one file, in the folder of the search path. -/
def bench (file : String) : Session :=
  .fresh {} ⟨⟨⟨"/", [⟨"bin", [], [⟨file, ""⟩]⟩], []⟩, []⟩, some .empty, "vfs"⟩ .builtins {}
    ⟨2024, 1, 1, 0, 0, 0, 0⟩

variable {file : String}

theorem holds_bench_iff {folder found : String} :
    (bench file).environment.path.Holds (bench file).files.snapshot folder found ↔
      folder = "/bin" ∧ found = file := by
  have hfolders : (bench file).environment.path.folders = ["/bin"] := rfl
  have hlist : (bench file).files.snapshot.list "/bin" = .ok ⟨[], [file]⟩ := rfl
  rw [SearchPath.Holds, hfolders, List.mem_singleton]
  refine and_congr_right fun hfolder => ?_
  rw [hfolder, hlist]
  simp

/-- If its name is made from the file, then that is what is offered. -/
theorem complete_bench (hfile : SearchPath.commandOf? file = some "Alpha") :
    ((bench file).sources.complete none "Al" false).text = "Alpha " ∧
      ((bench file).sources.complete none "Al" false).shown? = some "Alpha" := by
  have hcommand : CompletionSources.AtCommand "Al" := by decide
  have hoffered : "Alpha" ∈ (bench file).sources.commands := by
    refine List.mem_append_right _ (SearchPath.mem_commands_iff.mpr ⟨by decide, ?_⟩)
    exact ⟨"/bin", file, holds_bench_iff.mpr ⟨rfl, rfl⟩, hfile⟩
  obtain ⟨name, hname, hstart, htext, hshown⟩ :=
    CompletionSources.Turned.offers_command (.first false) hcommand
      (CompletionSources.candidates_ne_nil hcommand hoffered (by decide))
  rcases List.mem_append.mp hname with hname | hname
  · obtain ⟨command, rfl⟩ := Registry.exists_of_mem_builtins hname
    cases command <;> exact absurd hstart (by decide)
  · obtain ⟨-, folder, found, hheld, hfound⟩ := SearchPath.mem_commands_iff.mp hname
    obtain ⟨-, rfl⟩ := holds_bench_iff.mp hheld
    obtain rfl : "Alpha" = name := Option.some.inj (hfile.symm.trans hfound)
    exact ⟨htext, hshown⟩

theorem offered_command_dispatches_alpha :
    let s := bench "Alpha.py"
    let completion := s.sources.complete none "Al" false
    completion.text = "Alpha" ++ " " ∧ ∃ step, Reaches s "Alpha" step ∧ Handles step ∧
      (dispatch completion.text).run s = step.run s := by
  have hfile : SearchPath.commandOf? "Alpha.py" = some "Alpha" := by decide
  have hturned : (bench "Alpha.py").sources.Turned "Al"
      ((bench "Alpha.py").sources.complete none "Al" false) := .first false
  refine offered_command_dispatches (by decide) rfl rfl (by decide) hturned
    (complete_bench hfile).2 (by decide) fun _ => ?_
  exact ⟨"/bin", holds_bench_iff.mpr ⟨rfl, by decide⟩, by decide⟩

/-- The file is not looked for under the name it has. -/
theorem offered_command_not_found :
    (bench "Alpha.PY").files.snapshot.WellFormed ∧ (bench "Alpha.PY").registry = .builtins ∧
      (bench "Alpha.PY").environment.aliases = [] ∧ CompletionSources.AtCommand "Al" ∧
      ∃ completion name after, (bench "Alpha.PY").sources.complete none "Al" false = completion ∧
        completion.shown? = some name ∧ (dispatch completion.text).run (bench "Alpha.PY") =
          (.ok (.unhandled (some (.commandNotFound name))), after) := by
  have hfile : SearchPath.commandOf? "Alpha.PY" = some "Alpha" := by decide
  obtain ⟨htext, hshown⟩ := complete_bench hfile
  have hnone : (bench "Alpha.PY").environment.path.find? (bench "Alpha.PY").files.snapshot
      "Alpha" = none := by
    rw [SearchPath.find?_eq_none_iff (by decide) (by decide)]
    exact fun folder hheld => absurd (holds_bench_iff.mp hheld).2 (by decide)
  obtain ⟨after, hrun⟩ :=
    run_dispatch_nothing (by decide : IsBareWord "Alpha") (by decide) rfl rfl hnone
  refine ⟨by decide, rfl, rfl, by decide, _, "Alpha", after, rfl, hshown, ?_⟩
  rw [htext]
  exact hrun

end Shell

end TreeShell
