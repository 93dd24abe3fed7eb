import TreeShell.Proofs.Builtin.Listing
import TreeShell.Proofs.Builtin.Returning
import TreeShell.Proofs.Dispatch.Moves
import TreeShell.Proofs.Dispatch.Routes
import TreeShell.Proofs.Fields
import TreeShell.Proofs.Settings.Loading
import TreeShell.Proofs.Words.Gluing
import TreeShell.Proofs.Words.Trimming

/-!
# Printed aliases are definitions

`alias` prints each alias as the command that defines it. What the commands on aliases make of a
table is known from the few moves they have (`Session.AliasMove`): the names are accepted names
without an equals sign, each once, and the targets are trimmed (`Aliases.Tidy`). So the line of an
alias, when it is read back and run, cuts its argument where it was put together and trims nothing,
and the alias is defined as it was.

The line is read back as it was meant for a bare name only. A name may hold quotes and backslashes
as well, for it is taken from a word that was read already, and it is printed as it is.
-/

set_option autoImplicit false

namespace TreeShell

open Relation Shell

/-! ## Tables -/

/-- A table of aliases as it is made by commands. -/
structure Aliases.Tidy (aliases : Aliases) : Prop where
  distinct : aliases.names.Nodup
  named : ∀ entry ∈ aliases, isAliasName entry.1 = true ∧ '=' ∉ entry.1.toList
  trimmed : ∀ entry ∈ aliases, Text.trim entry.2 = entry.2

namespace Aliases

variable {aliases : Aliases}

theorem tidy_nil : Tidy [] :=
  ⟨List.nodup_nil, fun _ h => (nomatch h), fun _ h => (nomatch h)⟩

theorem Tidy.set (h : aliases.Tidy) {name : String} (hname : isAliasName name = true)
    (hequals : '=' ∉ name.toList) (target : String) :
    Tidy (Fields.set aliases name (Text.trim target)) where
  distinct := Fields.nodup_names_set h.distinct _ _
  named entry hentry := by
    rcases Fields.mem_set hentry with rfl | hentry
    · exact ⟨hname, hequals⟩
    · exact h.named entry hentry
  trimmed entry hentry := by
    rcases Fields.mem_set hentry with rfl | hentry
    · exact Text.trim_trim target
    · exact h.trimmed entry hentry

theorem Tidy.erase (h : aliases.Tidy) (name : String) : Tidy (Fields.erase aliases name) where
  distinct := Fields.nodup_names_erase h.distinct name
  named entry hentry := h.named entry (List.mem_of_mem_filter hentry)
  trimmed entry hentry := h.trimmed entry (List.mem_of_mem_filter hentry)

end Aliases

/-! ## Commands on aliases -/

/-- One thing that a command on aliases does to its session. -/
inductive Session.AliasMove (s : Session) : Session → Prop
  | plain {t : Session} (hmove : s.PlainMove t) : AliasMove s t
  | defines {name : String} (hname : isAliasName name = true) (hequals : '=' ∉ name.toList)
      (target : String) :
      AliasMove s { s with environment := { s.environment with
        aliases := Fields.set s.environment.aliases name (Text.trim target) } }
  | removes (name : String) :
      AliasMove s { s with environment := { s.environment with
        aliases := Fields.erase s.environment.aliases name } }

theorem Session.AliasMove.tidy {s t : Session} (h : s.AliasMove t)
    (hs : s.environment.aliases.Tidy) : t.environment.aliases.Tidy := by
  cases h with
  | plain hmove => rwa [hmove.environment]
  | defines hname hequals target => exact hs.set hname hequals target
  | removes name => exact hs.erase name

/-- The cut of a definition is at its first equals sign. -/
theorem splitDefinition?_eq_some {argument name target : String}
    (h : splitDefinition? argument = some (name, target)) : '=' ∉ name.toList := by
  rw [splitDefinition?] at h
  split at h
  · cases h
    rw [String.toList_ofList]
    intro hmem
    simpa using List.mem_takeWhile_imp hmem
  · cases h

/-- A name without an equals sign is cut off where it was put in front of one. -/
theorem splitDefinition?_glued {name : String} (h : '=' ∉ name.toList) (target : String) :
    splitDefinition? (name ++ "=" ++ target) = some (name, target) := by
  have hlist : (name ++ "=" ++ target).toList = name.toList ++ '=' :: target.toList := by simp
  rw [splitDefinition?, hlist, takeWhile_append_cons h, dropWhile_append_cons h]
  simp

theorem splitDefinition?_bare {name : String} (h : '=' ∉ name.toList) :
    splitDefinition? name = none := by
  have hnone : name.toList.dropWhile (· ≠ '=') = [] :=
    List.dropWhile_eq_nil_iff.mpr (decide_ne_of_not_mem h)
  rw [splitDefinition?, hnone]

namespace Shell

theorem compositional_aliasMoves : Compositional (Moving Session.AliasMove) :=
  compositional_moving fun _ _ hmove => .plain hmove

theorem aliasMoves_recordSearch : Moving Session.AliasMove recordSearch :=
  Moving.bind (moving_of_same fun _ => rfl) fun _ => compositional_aliasMoves.writeSettings _ _

theorem aliasMoves_printAliases : Moving Session.AliasMove printAliases :=
  Moving.bind (moving_of_same fun _ => rfl) fun _ =>
    compositional_aliasMoves.forM (fun _ => compositional_aliasMoves.print _) _

theorem aliasMoves_printAlias (name : String) : Moving Session.AliasMove (printAlias name) := by
  refine Moving.bind (moving_of_same fun _ => rfl) fun e => ?_
  split
  · exact compositional_aliasMoves.returning (compositional_aliasMoves.print _) _
  · exact compositional_aliasMoves.returning (compositional_aliasMoves.print _) _

theorem aliasMoves_defineAlias {name : String} (hequals : '=' ∉ name.toList) (target : String) :
    Moving Session.AliasMove (defineAlias name target) := by
  unfold defineAlias
  split
  · rename_i hname
    have hset : Moving Session.AliasMove (withEnvironment fun e =>
        { e with aliases := Fields.set e.aliases name (Text.trim target) }) :=
      fun s => .single (.defines hname hequals target)
    exact (hset.bind fun _ => aliasMoves_recordSearch).bind fun _ => moving_of_same fun _ => rfl
  · exact compositional_aliasMoves.returning (compositional_aliasMoves.print _) _

theorem aliasMoves_aliasArgument (argument : String) :
    Moving Session.AliasMove (aliasArgument argument) := by
  unfold aliasArgument
  split
  · rename_i name target hsplit
    exact aliasMoves_defineAlias (splitDefinition?_eq_some hsplit) target
  · exact aliasMoves_printAlias argument

theorem aliasMoves_makeAlias (args : List String) :
    Moving Session.AliasMove (makeAlias args) := by
  unfold makeAlias
  split
  · exact compositional_aliasMoves.returning aliasMoves_printAliases _
  · exact compositional_aliasMoves.returning
      (compositional_aliasMoves.mapM aliasMoves_aliasArgument args) _

theorem aliasMoves_unaliasArgument (name : String) :
    Moving Session.AliasMove (unaliasArgument name) := by
  have hremove : Moving Session.AliasMove (removeAlias name) := by
    refine Moving.bind (moving_of_same fun _ => rfl) fun e => ?_
    split
    · have herase : Moving Session.AliasMove (withEnvironment fun e =>
          { e with aliases := Fields.erase e.aliases name }) :=
        fun s => .single (.removes name)
      exact herase.bind fun _ => aliasMoves_recordSearch.bind fun _ => moving_of_same fun _ => rfl
    · exact moving_of_same fun _ => rfl
  refine hremove.bind fun removed => ?_
  split
  · exact moving_of_same fun _ => rfl
  · exact compositional_aliasMoves.returning (compositional_aliasMoves.print _) _

theorem aliasMoves_dropAlias (args : List String) :
    Moving Session.AliasMove (dropAlias args) := by
  unfold dropAlias
  split
  · exact compositional_aliasMoves.missingOperand _ _
  · refine (compositional_aliasMoves.mapM aliasMoves_unaliasArgument args).bind fun done => ?_
    split <;> exact moving_of_same fun _ => rfl

end Shell

/-- A command on aliases, with its arguments. -/
inductive AliasCommand where
  | make (args : List String)
  | drop (args : List String)

/-- The step of a command on aliases. -/
def AliasCommand.step : AliasCommand → Shell Outcome
  | make args => makeAlias args
  | drop args => dropAlias args

/-- A session after commands on aliases, however each of them ended. -/
def Session.aliased (s : Session) (commands : List AliasCommand) : Session :=
  commands.foldl (fun t command => (command.step.run t).2) s

/-- **Commands on aliases keep a table tidy.** -/
theorem Session.tidy_aliased {s : Session} (hs : s.environment.aliases.Tidy)
    (commands : List AliasCommand) : (s.aliased commands).environment.aliases.Tidy := by
  induction commands generalizing s with
  | nil => exact hs
  | cons command commands ih =>
    refine ih ?_
    have hmoves : ReflTransGen Session.AliasMove s (command.step.run s).2 := by
      cases command with
      | make args => exact aliasMoves_makeAlias args s
      | drop args => exact aliasMoves_dropAlias args s
    exact keeps_moves (P := fun t => t.environment.aliases.Tidy) hmoves
      (fun _ _ hmove ht => hmove.tidy ht) hs

/-! ## Printing -/

namespace Shell

variable {s : Session}

theorem prints_environment (s : Session) : Prints s environment s.environment [] := by
  intro earlier
  rw [List.append_nil]
  rfl

/-- The lines of all aliases, in the order of their names. -/
def aliasLines (aliases : Aliases) : List String :=
  (Text.sorted aliases.names).map fun name => aliasLine name ((aliases.get? name).getD "")

theorem run_makeAlias_nil (s : Session) :
    (makeAlias []).run s = (.ok .success, s.printed (aliasLines s.environment.aliases)) := by
  have hprints : Prints s printAliases () (aliasLines s.environment.aliases) :=
    (prints_environment s).after_silent (Prints.forM fun _ _ => prints_print s _)
  exact (hprints.returning fun _ => Outcome.success).run

/-- Each alias has its line among those that are printed. -/
theorem perm_aliasLines {aliases : Aliases} (h : aliases.Tidy) :
    (aliasLines aliases).Perm (aliases.map fun entry => aliasLine entry.1 entry.2) := by
  have hlines : aliases.names.map (fun name => aliasLine name ((aliases.get? name).getD "")) =
      aliases.map fun entry => aliasLine entry.1 entry.2 := by
    rw [Fields.names, List.map_map]
    refine List.map_congr_left fun entry hentry => ?_
    have hget : aliases.get? entry.1 = some entry.2 := Fields.get?_of_mem h.distinct hentry
    rw [Function.comp_apply, hget, Option.getD_some]
  rw [← hlines]
  exact (List.mergeSort_perm aliases.names _).map _

/-- An alias is printed by its name alone as well. -/
theorem run_makeAlias_name (h : s.environment.aliases.Tidy) {entry : String × String}
    (hentry : entry ∈ s.environment.aliases) :
    (makeAlias [entry.1]).run s = (.ok .success, s.printed [aliasLine entry.1 entry.2]) := by
  have hget : s.environment.aliases.get? entry.1 = some entry.2 :=
    Fields.get?_of_mem h.distinct hentry
  have hprint : Prints s (aliasArgument entry.1) true [aliasLine entry.1 entry.2] := by
    rw [aliasArgument, splitDefinition?_bare (h.named entry hentry).2]
    refine (prints_environment s).after_silent ?_
    rw [hget]
    exact (prints_print s _).returning _
  have hprints : Prints s ([entry.1].mapM aliasArgument) ([entry.1].map fun _ => true)
      ([entry.1].flatMap fun _ => [aliasLine entry.1 entry.2]) :=
    Prints.mapM fun name hname => by rwa [List.mem_singleton.mp hname]
  exact (hprints.returning fun done => outcomeOfAll "alias" (done.all id)).run

/-! ## Defining -/

theorem environment_recordSearch (s : Session) :
    (recordSearch.run s).2.environment = s.environment := by
  have hplain : Moving Session.PlainMove recordSearch :=
    Moving.bind (moving_of_same fun _ => rfl) fun _ =>
      (compositional_moving fun _ _ hmove => hmove).writeSettings _ _
  exact keeps_moves (P := fun t => t.environment = s.environment) (hplain s)
    (fun _ _ hmove ht => hmove.environment.trans ht) rfl

theorem aliases_setAlias (name target : String) (s : Session) :
    ((setAlias name target).run s).2.environment.aliases =
      Fields.set s.environment.aliases name target := by
  rw [setAlias, run_bind_of_ok (run_withEnvironment _ s), environment_recordSearch]

/-- A definition that is accepted defines, and then fails only as that does. -/
theorem run_makeAlias_definition {name : String} (hname : isAliasName name = true)
    (hequals : '=' ∉ name.toList) (target : String) (s : Session) :
    (makeAlias [name ++ "=" ++ target]).run s =
      (((setAlias name (Text.trim target)).run s).1.map fun _ => Outcome.success,
        ((setAlias name (Text.trim target)).run s).2) := by
  have hargument : aliasArgument (name ++ "=" ++ target) =
      (setAlias name (Text.trim target) >>= fun _ => pure true) := by
    rw [aliasArgument, splitDefinition?_glued hequals]
    exact if_pos hname
  have hmake : makeAlias [name ++ "=" ++ target] =
      ([name ++ "=" ++ target].mapM aliasArgument >>= fun done =>
        pure (outcomeOfAll "alias" (done.all id))) := rfl
  rw [hmake, List.mapM_cons, List.mapM_nil, hargument, run_bind, run_bind, run_bind]
  generalize (setAlias name (Text.trim target)).run s = ended
  obtain ⟨result, t⟩ := ended
  cases result with
  | ok => rfl
  | error fault => rfl

theorem run_dispatchStrict_alias (h : s.registry.find? "alias" = some (.builtin .makeAlias))
    (args : List String) :
    (dispatchStrict ⟨"alias", args⟩).run s =
      (strictEnd "alias" ((makeAlias args).run s).1, ((makeAlias args).run s).2) := by
  rw [run_dispatchStrict (by decide) (by decide), runRegistered_of_find? ⟨"alias", args⟩ h]
  rfl

end Shell

/-! ## Reading back -/

/-- A name without quotes and backslashes. -/
def IsBare (name : String) : Prop :=
  ∀ c ∈ name.toList, c ≠ '\'' ∧ c ≠ '"' ∧ c ≠ '\\'

instance (name : String) : Decidable (IsBare name) :=
  List.decidableBAll _ _

theorem isBlank_of_isSeparator {c : Char} (h : isSeparator c = true) : Text.isBlank c = true :=
  Text.isBlank_of_isWhitespace (by grind [isSeparator, Char.isWhitespace])

theorem isPlain_iff {c : Char} (h : isSeparator c = false) :
    IsPlain c ↔ c ≠ '\'' ∧ c ≠ '"' ∧ c ≠ '\\' := by
  have hquote : Quote.ofChar? c = none ↔ c ≠ '\'' ∧ c ≠ '"' := by
    rw [Quote.ofChar?]
    by_cases hsingle : c = '\''
    · simp [hsingle]
    · by_cases hdouble : c = '"' <;> simp [hsingle, hdouble]
  constructor
  · intro hplain
    exact ⟨(hquote.mp hplain.quote).1, (hquote.mp hplain.quote).2, hplain.backslash⟩
  · rintro ⟨hsingle, hdouble, hbackslash⟩
    exact ⟨h, hquote.mpr ⟨hsingle, hdouble⟩, hbackslash⟩

/-- What a name that is accepted is. -/
theorem isAliasName_iff {name : String} : isAliasName name = true ↔
    name ≠ "" ∧ (∀ c ∈ name.toList, Text.isBlank c = false) ∧ '/' ∉ name.toList := by
  simp [isAliasName, and_assoc]

theorem Command.parse_eq_iff {line name arg : String} (h : name ≠ "") :
    Command.parse line = ⟨name, [arg]⟩ ↔ (tokenize line).values = [name, arg] := by
  rw [Command.parse]
  cases (tokenize line).values with
  | nil => simp [Ne.symm h]
  | cons first rest => simp

/-- **The line of an alias is read back** as the definition it is if its name is bare, and not
otherwise. -/
theorem parse_aliasLine_iff {name : String} (hname : isAliasName name = true)
    (hequals : '=' ∉ name.toList) (target : String) :
    Command.parse (aliasLine name target) = ⟨"alias", [name ++ "=" ++ target]⟩ ↔ IsBare name := by
  obtain ⟨hne, hblank, -⟩ := isAliasName_iff.mp hname
  have hseparators : ∀ c ∈ name.toList, isSeparator c = false := by
    intro c hc
    by_contra hsep
    exact nomatch (hblank c hc).symm.trans (isBlank_of_isSeparator (Bool.not_eq_false _ ▸ hsep))
  have hbefore : scanPart 0 none "alias ".toList = ([⟨"alias", 0, 5, none⟩], none) := by decide
  have hline : aliasLine name target = "alias " ++ (name ++ "=") ++ quoteWord target .single := by
    simp only [aliasLine, String.append_assoc]
  have hvalues := values_glued_iff hbefore hne hseparators target .single hequals
  rw [← hline] at hvalues
  rw [Command.parse_eq_iff (by decide)]
  exact hvalues.trans (forall₂_congr fun c hc => isPlain_iff (hseparators c hc))

section

variable {s : Session}

/-- **Printed aliases read back.** Whatever the commands on aliases were that made a table, `alias`
prints one line for each alias of it, and the line alone when it is asked for the name. The line is
read as the command that defines the alias if and only if the name has no quote and no backslash,
whatever the target is. Run strictly in a session without aliases, it then makes a table with this
alias and no other, and succeeds unless the store is closed. -/
theorem printed_aliases_read_back (hempty : s.environment.aliases = [])
    (commands : List AliasCommand) :
    (∃ lines, (makeAlias []).run (s.aliased commands) =
        (.ok .success, (s.aliased commands).printed lines) ∧
      lines.Perm ((s.aliased commands).environment.aliases.map
        fun entry => aliasLine entry.1 entry.2)) ∧
    ∀ entry ∈ (s.aliased commands).environment.aliases,
      (makeAlias [entry.1]).run (s.aliased commands) =
        (.ok .success, (s.aliased commands).printed [aliasLine entry.1 entry.2]) ∧
      (Command.parse (aliasLine entry.1 entry.2) = ⟨"alias", [entry.1 ++ "=" ++ entry.2]⟩ ↔
        IsBare entry.1) ∧
      (IsBare entry.1 → ∀ t : Session, t.registry.find? "alias" = some (.builtin .makeAlias) →
        t.environment.aliases = [] →
          ((dispatchStrict (Command.parse (aliasLine entry.1 entry.2))).run t).2.environment.aliases
            = [entry] ∧
          (t.files.Opened →
            ((dispatchStrict (Command.parse (aliasLine entry.1 entry.2))).run t).1 =
              .ok .success)) := by
  have htidy : (s.aliased commands).environment.aliases.Tidy :=
    Session.tidy_aliased (by rw [hempty]; exact Aliases.tidy_nil) commands
  refine ⟨⟨_, run_makeAlias_nil _, perm_aliasLines htidy⟩, fun entry hentry => ?_⟩
  obtain ⟨hname, hequals⟩ := htidy.named entry hentry
  have hparse := parse_aliasLine_iff hname hequals entry.2
  refine ⟨run_makeAlias_name htidy hentry, hparse, fun hbare t hregistered hnone => ?_⟩
  rw [hparse.mpr hbare, run_dispatchStrict_alias hregistered,
    run_makeAlias_definition hname hequals, htidy.trimmed entry hentry]
  constructor
  · rw [aliases_setAlias, hnone]
    rfl
  · intro hopen
    have hreturns : Returns FileSystem.Opened (setAlias entry.1 entry.2) :=
      (returns_withEnvironment _).bind fun _ => returns_recordSearch
    obtain ⟨a, u, hset⟩ := hreturns.ends hopen
    rw [hset]
    rfl

end

theorem find?_alias : Registry.builtins.find? "alias" = some (.builtin .makeAlias) := by
  have hlower : Text.lower "alias" = "alias" := by decide
  rw [Registry.find?, hlower]
  rfl

/-- A session in which nothing has been done. -/
def blankSession : Session :=
  .fresh {} ⟨⟨⟨"/", [], []⟩, []⟩, some .empty, "tree"⟩ .builtins {} ⟨2024, 1, 1, 0, 0, 0, 0⟩

theorem aliases_aliased_definition {name target definition : String}
    (hname : isAliasName name = true) (hequals : '=' ∉ name.toList)
    (hdefinition : definition = name ++ "=" ++ target) :
    (blankSession.aliased [.make [definition]]).environment.aliases =
      [(name, Text.trim target)] := by
  have hrun : (blankSession.aliased [.make [definition]]) =
      ((makeAlias [definition]).run blankSession).2 := by
    rw [Session.aliased, List.foldl_cons, List.foldl_nil, AliasCommand.step]
  rw [hrun, hdefinition, run_makeAlias_definition hname hequals, aliases_setAlias]
  rfl

/-- The target has a blank and a quote in it. -/
theorem printed_aliases_read_back_blankSession :
    blankSession.environment.aliases = [] ∧
      ("say", "cat it's") ∈ (blankSession.aliased [.make ["say= cat it's "]]).environment.aliases ∧
      Command.parse (aliasLine "say" "cat it's") = ⟨"alias", ["say=cat it's"]⟩ ∧
      ((dispatchStrict (Command.parse (aliasLine "say" "cat it's"))).run
        blankSession).2.environment.aliases = [("say", "cat it's")] := by
  have hempty : blankSession.environment.aliases = [] := rfl
  have htrim : Text.trim " cat it's " = "cat it's" := by decide
  have hdefinition : "say= cat it's " = "say" ++ "=" ++ " cat it's " := by decide
  have htable := aliases_aliased_definition (by decide) (by decide) hdefinition
  have hmem : ("say", "cat it's") ∈
      (blankSession.aliased [.make ["say= cat it's "]]).environment.aliases := by
    rw [htable, htrim]
    exact List.mem_singleton_self _
  have hbare : IsBare "say" := by decide
  have hregistered : blankSession.registry.find? "alias" = some (.builtin .makeAlias) :=
    find?_alias
  have hargument : "say" ++ "=" ++ "cat it's" = "say=cat it's" := by decide
  obtain ⟨-, hentries⟩ := printed_aliases_read_back hempty [.make ["say= cat it's "]]
  obtain ⟨-, hparse, hrun⟩ := hentries _ hmem
  dsimp only at hparse hrun
  rw [hargument] at hparse
  exact ⟨hempty, hmem, hparse.mpr hbare, (hrun hbare blankSession hregistered hempty).1⟩

/-- A name with a quote is accepted, and its line is read as another definition. -/
theorem not_printed_aliases_read_back :
    ¬ ∀ (s : Session), s.environment.aliases = [] → ∀ (commands : List AliasCommand),
      ∀ entry ∈ (s.aliased commands).environment.aliases,
        Command.parse (aliasLine entry.1 entry.2) =
          ⟨"alias", [entry.1 ++ "=" ++ entry.2]⟩ := by
  intro h
  have hempty : blankSession.environment.aliases = [] := rfl
  have htrim : Text.trim "x" = "x" := by decide
  have hdefinition : "a'b=x" = "a'b" ++ "=" ++ "x" := by decide
  have htable := aliases_aliased_definition (by decide) (by decide) hdefinition
  have hmem : ("a'b", "x") ∈ (blankSession.aliased [.make ["a'b=x"]]).environment.aliases := by
    rw [htable, htrim]
    exact List.mem_singleton_self _
  have hparse : Command.parse (aliasLine "a'b" "x") ≠ ⟨"alias", ["a'b=x"]⟩ := by decide
  exact hparse (h blankSession hempty [.make ["a'b=x"]] ("a'b", "x") hmem)

end TreeShell
