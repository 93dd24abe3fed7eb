import Mathlib.Logic.Relation
import TreeShell.Proofs.Dispatch.Shellwide
import TreeShell.Proofs.Session.Returning
import TreeShell.Proofs.Settings.Files

/-!
# What a line can do to a session

All that a command does to its session is made of three kinds of moves: it writes on the console, it
commits to the file system (`Session.PlainMove`), and it changes the environment in one of a few
ways (`Session.CommandMove`). A line does no more than that, but for reading input, counting its
scripts and dropping the hint (`Session.LineMove`). So what every move keeps, a line keeps, whatever
it is and however it ends (`lineMoves_runLine`): the configuration and an open store, and of the
input what it leaves unread is the end of what there was.
-/

set_option autoImplicit false

namespace TreeShell

open Relation Shell

/-! ## Moves -/

/-- What commands can make of the environment. -/
inductive Environment.Becomes (config : ShellConfig) (e : Environment) : Environment → Prop
  | bounded : Becomes config e e.bounded
  | aliased (name target : String) :
      Becomes config e { e with aliases := Fields.set e.aliases name target }
  | unaliased (name : String) : Becomes config e { e with aliases := Fields.erase e.aliases name }
  | remembered {line : String} {next : Environment} (hnext : e.remember? line = some next) :
      Becomes config e next.bounded
  | displayed (name text : String) :
      Becomes config e { e with
        display := Fields.set e.display name
          (Environment.readSetting name (Fields.get? e.display name) text) }
  | undisplayed : Becomes config e { e with display := Environment.defaultDisplay config }
  | onPath (folder : String) :
      Becomes config e { e with path := Environment.withFolder folder e.path }

/-- One thing that a command does to its session beside the environment. -/
inductive Session.PlainMove (s : Session) : Session → Prop
  | writes (console : Console) (hinput : console.input = s.console.input) :
      PlainMove s { s with console }
  | commits {α : Type} (attempt : Attempt α) :
      PlainMove s { s with files := (s.files.commit attempt).2 }

/-- One thing that a command does to its session. -/
inductive Session.CommandMove (s : Session) : Session → Prop
  | plain {t : Session} (hmove : s.PlainMove t) : CommandMove s t
  | settles {e : Environment} (he : s.environment.Becomes s.config.shell e) :
      CommandMove s { s with environment := e }

/-- One thing that a line does to its session. -/
inductive Session.LineMove (s : Session) : Session → Prop
  | command {t : Session} (hmove : s.CommandMove t) : LineMove s t
  | reads (console : Console) (hinput : console.input <:+ s.console.input) :
      LineMove s { s with console }
  | counts (scriptDepth : Nat) : LineMove s { s with scriptDepth }
  | drops : LineMove s { s with proposal? := none, hint := "" }

namespace Shell

variable {α β : Type} {R : Session → Session → Prop}

/-- A step that makes nothing but moves of one kind, however it ends. -/
def Moving (R : Session → Session → Prop) (step : Shell α) : Prop :=
  ∀ s, ReflTransGen R s (step.run s).2

/-! ## Putting steps together -/

theorem moving_of_same {step : Shell α} (h : ∀ s, (step.run s).2 = s) : Moving R step := by
  intro s
  rw [h]

theorem Moving.bind {step : Shell α} {next : α → Shell β} (h : Moving R step)
    (hnext : ∀ a, Moving R (next a)) : Moving R (step >>= next) := by
  intro s
  have hfirst := h s
  rw [run_bind]
  generalize step.run s = ended at hfirst ⊢
  obtain ⟨result, t⟩ := ended
  cases result with
  | ok a => exact hfirst.trans (hnext a t)
  | error fault => exact hfirst

theorem moving_get_bind {next : Session → Shell α} (hnext : ∀ s, Moving R (next s)) :
    Moving R ((get : Shell Session) >>= next) :=
  fun s => hnext s s

theorem Moving.mono {R' : Session → Session → Prop} {step : Shell α} (h : Moving R step)
    (hmono : ∀ s t, R s t → R' s t) : Moving R' step :=
  fun s => ReflTransGen.mono hmono _ _ (h s)

theorem Moving.mapM {action : α → Shell β} {items : List α}
    (h : ∀ item ∈ items, Moving R (action item)) : Moving R (items.mapM action) := by
  induction items with
  | nil =>
    rw [List.mapM_nil]
    exact moving_of_same fun _ => rfl
  | cons item rest ih =>
    obtain ⟨hitem, hrest⟩ := List.forall_mem_cons.mp h
    rw [List.mapM_cons]
    exact hitem.bind fun _ => (ih hrest).bind fun _ => moving_of_same fun _ => rfl

theorem Moving.attempt {step : Shell α} (h : Moving R step) : Moving R (attempt step) := by
  intro s
  rw [run_attempt]
  exact h s

theorem Moving.guarded {step : Shell α} (h : Moving R step) : Moving R (guarded step) := by
  intro s
  rw [run_guarded]
  exact h s

theorem Moving.settled {step : Shell α} (h : Moving R step) : Moving R (settled step) :=
  h

/-! ## Reading the settings -/

section Settings

variable (hwrite : ∀ (file : SettingsFile) (content : String),
  Moving R (writeSettings file.path content))

include hwrite

theorem moving_recordLimit (limit : Int) : Moving R (recordLimit limit) := by
  unfold recordLimit
  split
  · exact hwrite .limit _
  · exact moving_of_same fun _ => rfl

theorem moving_readHistoryLimit : Moving R readHistoryLimit := by
  have hlook : Moving R (attempt (look (·.read historyLimitFile))) :=
    Moving.attempt (moving_of_same fun _ => rfl)
  refine hlook.bind fun recorded => ?_
  extract_lets next
  have hnext (recorded? : Option Int) : Moving R (next recorded?) := by
    unfold next
    split
    · exact moving_of_same fun _ => rfl
    · exact Moving.bind (moving_of_same fun _ => rfl) fun _ =>
        (moving_recordLimit hwrite _).bind fun _ => moving_of_same fun _ => rfl
  split
  · exact hnext none
  · split
    · exact hnext _
    · exact moving_of_same fun _ => rfl

/-- What may set the environment and write the settings may read the settings. -/
theorem moving_loadEnvironment (hensure : Moving R (change (·.ensureDirPath settingsPath)))
    (hset : ∀ f, Moving R (withEnvironment f)) : Moving R loadEnvironment := by
  have hread (path : String) : Moving R (readSettings path) := by
    refine Moving.bind (Moving.attempt (moving_of_same fun _ => rfl)) fun result => ?_
    cases result with
    | error reason => exact moving_of_same fun _ => rfl
    | ok content =>
      dsimp only
      split <;> exact moving_of_same fun _ => rfl
  have hbounds : Moving R bounds := moving_of_same fun _ => rfl
  have hrecord (file : SettingsFile) (document : Environment → Json) :
      Moving R (do writeSettings file.path (document (← environment)).indented) :=
    Moving.bind (moving_of_same fun _ => rfl) fun _ => hwrite file _
  exact hensure.bind fun _ => (moving_readHistoryLimit hwrite).bind fun _ => (hset _).bind fun _ =>
    (hread _).bind fun _ => (hset _).bind fun _ => (hread _).bind fun _ => hbounds.bind fun _ =>
    (hset _).bind fun _ => (hread _).bind fun _ => (hset _).bind fun _ =>
    (hrecord .search Environment.searchDocument).bind fun _ =>
    (hrecord .display Environment.displayDocument).bind fun _ =>
    (hset _).bind fun _ => hrecord .history Environment.historyDocument

end Settings

/-! ## Commands -/

section Plain

variable (hmoves : ∀ s t : Session, s.PlainMove t → R s t)

include hmoves

theorem moving_ofConsole (f : Console → Except Fault α × Console)
    (hinput : ∀ console, (f console).2.input = console.input) :
    Moving R (ofRun fun s => ((f s.console).1, { s with console := (f s.console).2 })) :=
  fun s => .single (hmoves s _ (.writes _ (hinput s.console)))

theorem compositional_moving : Compositional (Moving R) where
  pure _ := moving_of_same fun _ => rfl
  throw _ := moving_of_same fun _ => rfl
  bind := Moving.bind
  attempt := Moving.attempt
  guarded := Moving.guarded
  print line := moving_ofConsole hmoves (fun console => (.ok (), console.write line)) fun _ => rfl
  sleep milliseconds := moving_ofConsole hmoves (fun console =>
    (if console.impatient then .error .interrupt else .ok (), console.pause milliseconds))
    fun _ => rfl
  painted _ _ := moving_get_bind fun _ => moving_of_same fun _ => rfl
  view _ := moving_of_same fun _ => rfl
  look _ := moving_of_same fun _ => rfl
  change _ s := .single (hmoves s _ (.commits _))
  clock _ hnext := moving_get_bind fun s => hnext s.now
  host _ hnext := moving_get_bind fun s => hnext s.host

end Plain

section Commands

variable (hmoves : ∀ s t : Session, s.CommandMove t → R s t)

include hmoves

theorem moving_writeSettings (path content : String) : Moving R (writeSettings path content) :=
  (compositional_moving fun s t hmove => hmoves s t (.plain hmove)).writeSettings _ _

theorem moving_withEnvironment {f : Environment → Environment}
    (hf : ∀ config e, Environment.Becomes config e (f e)) : Moving R (withEnvironment f) :=
  fun s => .single (hmoves s _ (.settles (hf _ _)))

/-- Writing a part of the environment after it was changed. -/
theorem moving_record (path : String) (document : Environment → Json) :
    Moving R (do writeSettings path (document (← environment)).indented) :=
  Moving.bind (moving_of_same fun _ => rfl) fun _ => moving_writeSettings hmoves _ _

theorem moving_recordHistory : Moving R recordHistory :=
  (moving_withEnvironment hmoves fun _ _ => .bounded).bind fun _ =>
    moving_record hmoves historyFile Environment.historyDocument

theorem moving_recordEnvironment : Moving R recordEnvironment := by
  refine Moving.bind (moving_of_same fun _ => rfl) fun e => ?_
  refine Moving.bind ?_ fun _ => (moving_record hmoves searchFile Environment.searchDocument).bind
    fun _ => (moving_record hmoves displayFile Environment.displayDocument).bind fun _ =>
      moving_recordHistory hmoves
  exact moving_recordLimit (fun _ _ => moving_writeSettings hmoves _ _) _

theorem moving_removeAlias (name : String) : Moving R (removeAlias name) :=
  Moving.bind (moving_of_same fun _ => rfl) fun _ => holds_ite
    ((moving_withEnvironment hmoves fun _ _ => .unaliased name).bind fun _ =>
      (moving_record hmoves searchFile Environment.searchDocument).bind fun _ =>
        moving_of_same fun _ => rfl)
    (moving_of_same fun _ => rfl)

/-- To remember a line and to drop what is too much is one move. -/
theorem moving_addHistory (line : String) : Moving R (addHistory line) := by
  intro s
  rw [addHistory, run_environment_bind]
  cases hnext : s.environment.remember? line with
  | none => exact .refl
  | some next =>
    have hwrite : Moving R (do
        writeSettings historyFile (← environment).historyDocument.indented
        return true) :=
      (moving_record hmoves historyFile Environment.historyDocument).bind fun _ =>
        moving_of_same fun _ => rfl
    exact .head (hmoves s _ (.settles (.remembered hnext)))
      (hwrite { s with environment := next.bounded })

theorem moving_setDisplay (name text : String) : Moving R (setDisplay name text) := by
  intro s
  have hwrite (value : Json) : Moving R (do
      recordDisplay
      return value) :=
    (moving_record hmoves displayFile Environment.displayDocument).bind fun _ =>
      moving_of_same fun _ => rfl
  exact .head (hmoves s _ (.settles (.displayed name text))) (hwrite _ { s with environment := _ })

theorem moving_resetDisplay : Moving R resetDisplay := by
  intro s
  exact .head (hmoves s _ (.settles .undisplayed))
    (moving_record hmoves displayFile Environment.displayDocument { s with environment := _ })

/-- **A command makes no other moves than those of commands.** -/
theorem pervasive_moving : Pervasive (Moving R) :=
  { compositional_moving fun s t hmove => hmoves s t (.plain hmove) with
    environment := moving_of_same fun _ => rfl
    bounds := moving_of_same fun _ => rfl
    setAlias := fun name target =>
      (moving_withEnvironment hmoves fun _ _ => .aliased name target).bind fun _ =>
        moving_record hmoves searchFile Environment.searchDocument
    removeAlias := moving_removeAlias hmoves
    addHistory := moving_addHistory hmoves
    setDisplay := moving_setDisplay hmoves
    resetDisplay := moving_resetDisplay hmoves
    ensureOnPath := fun folder =>
      (moving_withEnvironment hmoves fun _ _ => .onPath folder).bind fun _ =>
        moving_record hmoves searchFile Environment.searchDocument
    recordEnvironment := moving_recordEnvironment hmoves }

end Commands

/-! ## Lines -/

theorem suffix_nextKey (accept : KeyPress → Bool) (console : Console) (items : List InputItem) :
    (nextKey accept console items).2.input <:+ items := by
  induction items generalizing console with
  | nil => exact List.suffix_rfl
  | cons item rest ih =>
    cases item with
    | interrupt => exact List.suffix_cons _ _
    | line text =>
      simp only [nextKey]
      split
      · exact List.suffix_cons _ _
      · exact (ih _).trans (List.suffix_cons _ _)

theorem lineMoves_readLine (prompt : String) : Moving Session.LineMove (readLine prompt) := by
  intro s
  simp only [readLine, run_ofRun, Console.ask]
  cases hinput : s.console.input with
  | nil => exact .single (.reads _ (hinput ▸ List.suffix_rfl))
  | cons item rest =>
    cases item with
    | line text => exact .single (.reads _ (hinput ▸ List.suffix_cons _ _))
    | interrupt => exact .single (.reads _ (hinput ▸ List.suffix_cons _ _))

/-- A script is counted, runs, and is counted out. -/
theorem lineMoves_deeper {step : Shell α} (h : Moving Session.LineMove step) :
    Moving Session.LineMove (deeper step) :=
  fun s => .head (.counts (s.scriptDepth + 1)) ((h { s with scriptDepth := s.scriptDepth + 1 }).tail
    (.counts _))

/-- **Whatever a session runs makes no other moves than those of lines.** -/
theorem shellwide_lineMoves : Shellwide (Moving Session.LineMove) :=
  { pervasive_moving fun _ _ => .command with
    settled := Moving.settled
    readLine := lineMoves_readLine
    readKey := fun _ _ => .single (.reads _ (suffix_nextKey _ _ _))
    inputLeft := moving_of_same fun _ => rfl
    registry := fun _ hnext => moving_get_bind fun s => hnext s.registry
    depth := fun _ hnext => moving_get_bind fun s => hnext s.scriptDepth
    deeper := lineMoves_deeper
    dropHint := fun _ => .single .drops }

theorem lineMoves_runLine (line : String) : Moving Session.LineMove (runLine line) :=
  shellwide_lineMoves.runLine line

end Shell

/-! ## What moves keep -/

namespace Session

variable {s t : Session}

theorem PlainMove.input (h : s.PlainMove t) : t.console.input = s.console.input := by
  cases h with
  | writes console hinput => exact hinput
  | commits attempt => rfl

theorem PlainMove.opened (h : s.PlainMove t) (hopen : s.files.Opened) : t.files.Opened := by
  cases h with
  | writes console hinput => exact hopen
  | commits attempt => exact hopen.commit attempt

theorem PlainMove.config (h : s.PlainMove t) : t.config = s.config := by
  cases h <;> rfl

theorem PlainMove.registry (h : s.PlainMove t) : t.registry = s.registry := by
  cases h <;> rfl

theorem PlainMove.environment (h : s.PlainMove t) : t.environment = s.environment := by
  cases h <;> rfl

theorem CommandMove.input (h : s.CommandMove t) : t.console.input = s.console.input := by
  cases h with
  | plain hmove => exact hmove.input
  | settles he => rfl

theorem LineMove.input (h : s.LineMove t) : t.console.input <:+ s.console.input := by
  cases h with
  | command hmove => exact hmove.input ▸ List.suffix_rfl
  | reads console hinput => exact hinput
  | counts depth => exact List.suffix_rfl
  | drops => exact List.suffix_rfl

theorem CommandMove.config (h : s.CommandMove t) : t.config = s.config := by
  cases h with
  | plain hmove => exact hmove.config
  | settles he => rfl

theorem CommandMove.registry (h : s.CommandMove t) : t.registry = s.registry := by
  cases h with
  | plain hmove => exact hmove.registry
  | settles he => rfl

theorem CommandMove.opened (h : s.CommandMove t) (hopen : s.files.Opened) : t.files.Opened := by
  cases h with
  | plain hmove => exact hmove.opened hopen
  | settles he => exact hopen

theorem LineMove.opened (h : s.LineMove t) (hopen : s.files.Opened) : t.files.Opened := by
  cases h with
  | command hmove => exact hmove.opened hopen
  | _ => exact hopen

end Session

namespace Shell

/-- What every move keeps, any number of them keep. -/
theorem keeps_moves {R : Session → Session → Prop} {P : Session → Prop} {s t : Session}
    (h : ReflTransGen R s t) (hstep : ∀ s t, R s t → P s → P t) (hs : P s) : P t := by
  induction h with
  | refl => exact hs
  | tail _ hmove ih => exact hstep _ _ hmove ih

/-- **What a line leaves of the input is the end of what there was.** -/
theorem input_runLine (line : String) (s : Session) :
    ((runLine line).run s).2.console.input <:+ s.console.input :=
  keeps_moves (P := fun t => t.console.input <:+ s.console.input) (lineMoves_runLine line s)
    (fun _ _ hmove hinput => hmove.input.trans hinput) List.suffix_rfl

end Shell

end TreeShell
