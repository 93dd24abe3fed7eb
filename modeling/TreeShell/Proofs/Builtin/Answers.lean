import TreeShell.Proofs.Builtin.Arguments
import TreeShell.Proofs.Builtin.LayingOut
import TreeShell.Proofs.Builtin.Reporting

/-!
# How built-in commands end

On an open store a built-in command ends with an outcome whatever is in the tree and in the
environment, but for six things (`Stops`). Only one of them is a refusal of the file system: the
record of the version that `init --update` writes last, with something in its way. What a command
was asked to do and was refused makes it fail, and is told (`Refused`). Not among that are the pages
of `help` and the sizes in listings, for which something else is shown, and the settings, which are
kept in the session when they cannot be written. When the file system is laid out, all bundled files
are written (`run_syncAll`), so there is nothing to be told of them.
-/

set_option autoImplicit false

namespace TreeShell

open FileSystem

/-! ## Commands that take any number of operands -/

/-- What is done with each operand, by the commands that take any number of them. -/
def Builtin.action? : Builtin → Option (String → Shell Unit)
  | .mkdir => some fun name => Shell.change (·.mkdir name)
  | .rmdir => some fun path => Shell.change (·.rmdir path)
  | .touch => some Shell.touchFile
  | .cat => some fun path => do Shell.print (← Shell.look (·.read path))
  | .rm => some fun path => Shell.change (·.unlink path)
  | _ => none

/-- What such a command prints when an operand is refused. -/
def Builtin.refusal (command : Builtin) (operand : String) (reason : FileError) : String :=
  match command with
  | .rm => "rm: cannot remove '" ++ operand ++ "': " ++ reason.message
  | command => command.name ++ ": " ++ reason.message

namespace Shell

variable {s : Session} {command : Builtin} {args : List String}

/-- One operand after the other, each refusal told. -/
def workThrough (command : Builtin) (action : String → Shell Unit) : List String → Shell Bool :=
  eachOperand action fun operand reason => print (command.refusal operand reason)

/-! ## What stops a command -/

/-- A search pattern is refused, and not for a mistake in it that `grep` tells: a repetition is
beyond all bounds or longer than a number may be, or flags do not go together. -/
structure Unsearchable (s : Session) (args : List String) (written : String) (e : PatternError) :
    Prop where
  no_mistake : ∀ what position?, e ≠ .mistake what position?
  given : ∃ argument targets, (ShortFlags.read "rin" args).unknown? = none ∧
    (ShortFlags.read "rin" args).operands = argument :: targets ∧
    LineMatcher.expressionIn? argument = some written
  refused : Pattern.parse written s.host.character? = .error e

/-- The faults that stop a command, each with what brings it about: an infinite depth, a search
pattern whose repetitions or flags are beyond all bounds, an interrupted pause, a number too long in
the record of the version, something in the way of that record when all bundled files are written,
and a bound of the history that cannot be written as a text. -/
inductive Stops (s : Session) : Builtin → List String → Fault → Prop
  | depth {args : List String} (hread : FindOptions.read args = .error .infiniteInteger) :
      Stops s .find args .infiniteInteger
  | pattern {args : List String} {written : String} {e : PatternError}
      (hpattern : Unsearchable s args written e) :
      Stops s .grep args (LineMatcher.refusal written e)
  | pause {argument : String} {rest : List String} {milliseconds : Nat}
      (hpause : pauseOf? (Text.trim argument) = some milliseconds)
      (himpatient : s.console.impatient = true) :
      Stops s .delay (argument :: rest) .interrupt
  | check {args : List String} {digits : Nat} (hcheck : args.contains "--check" = true)
      (hlong : NumberTooLong s.files.snapshot versionFile digits) :
      Stops s .init args (.integer (.tooLong digits))
  | update {args : List String} {synced : List SyncedAsset} {reached : Session} {reason : FileError}
      (hcheck : args.contains "--check" = false) (hupdate : args.contains "--update" = true)
      (hsync : (syncAssets (· != .unchanged)).run s = (.ok synced, reached))
      (hall : SyncedAsset.failures synced = [])
      (hblocked : s.files.snapshot.paths.VersionBlocked) (hkind : reason.kind = .alreadyExists) :
      Stops s .init args (.files reason)
  | layOut {args : List String} {e : Number.IntegerError}
      (hcheck : args.contains "--check" = false) (hupdate : args.contains "--update" = false)
      (hforced : (s.files.snapshot.looksEmpty || args.contains "-f" ||
        args.contains "--force") = true)
      (hlimit : Number.integerText s.environment.historyLimit = .error e) :
      Stops s .init args (.integer e)

/-- A step ends with a value unless one of some faults is due, and is stopped by such a one then. -/
def EndsUnless {α : Type} (due : Fault → Prop) (step : Shell α) (s : Session) : Prop :=
  ((∀ fault, ¬ due fault) ∧ ∃ a t, step.run s = (.ok a, t)) ∨
    ∃ fault t, due fault ∧ step.run s = (.error fault, t)

/-! ## What makes a command fail -/

/-- Something a command was asked for is refused, and the command prints a line about it. -/
inductive Refused (s : Session) : Builtin → List String → String → Prop
  | cd {args : List String} {reason : FileError}
      (hrefused : s.files.snapshot.changeDirectory (args.head?.getD "/") = .error reason) :
      Refused s .cd args ("cd: " ++ reason.message)
  | ls {args : List String} {read : ShortFlags} {target : String} {reason : FileError}
      (hread : ShortFlags.read "la" args = read) (hknown : read.unknown? = none)
      (htarget : read.operands.head?.getD "." = target)
      (hfile : s.files.snapshot.isFile target = false)
      (hrefused : s.files.snapshot.list target = .error reason) :
      Refused s .ls args ("ls: " ++ reason.message)
  | operand {command : Builtin} {action : String → Shell Unit} {before rest : List String}
      {operand : String} {reason : FileError} {t : Session}
      (haction : command.action? = some action)
      (hrefused : (action operand).run ((workThrough command action before).run s).2 =
        (.error (.files reason), t)) :
      Refused s command (before ++ operand :: rest) (command.refusal operand reason)
  | mv {source destination : String} {rest : List String} {reason : FileError}
      (hrefused : s.files.snapshot.move source destination = .error reason) :
      Refused s .mv (source :: destination :: rest) ("mv: " ++ reason.message)
  | copySource {source destination : String} {rest : List String}
      (hfile : s.files.snapshot.isFile source = false) :
      Refused s .copy (source :: destination :: rest)
        ("copy: cannot read '" ++ source ++ "': No such file")
  | copy {source destination : String} {rest : List String} {reason : FileError}
      (hfile : s.files.snapshot.isFile source = true)
      (hrefused : s.files.snapshot.copy source destination = .error reason) :
      Refused s .copy (source :: destination :: rest)
        ("copy: cannot write '" ++ destination ++ "': " ++ reason.message)
  | find {args : List String} {options : FindOptions} {start : String}
      (hread : FindOptions.read args = .ok options)
      (hstart : Path.normalize s.files.snapshot.cwdPath options.path = start)
      (hmissing : s.files.snapshot.exists? start = false) :
      Refused s .find args ("find: " ++ start ++ ": No such file or directory")
  | grep {args targets files : List String} {read : ShortFlags} {argument path : String}
      {matcher : LineMatcher} {reason : FileError}
      (hread : ShortFlags.read "rin" args = read) (hknown : read.unknown? = none)
      (hoperands : read.operands = argument :: targets)
      (hmatcher : LineMatcher.ofArgument argument s.host.character? = .ok matcher)
      (htargets : (targets.isEmpty && !read.has 'r') = false)
      (hfiles : (filesToSearch (read.has 'r') (if targets.isEmpty then ["."] else targets)).run s =
        (.ok files, s))
      (hpath : path ∈ files) (hrefused : s.files.snapshot.read path = .error reason) :
      Refused s .grep args ("grep: " ++ reason.message)
  | update {args : List String} {before rest : List Asset} {asset : Asset} {reached t : Session}
      {reason : FileError}
      (hcheck : args.contains "--check" = false) (hupdate : args.contains "--update" = true)
      (hall : Asset.all = before ++ asset :: rest)
      (hreached : ((before.mapM (syncAsset (· != .unchanged))).run s).2 = reached)
      (hstate : reached.files.snapshot.assetState asset ≠ .unchanged)
      (hrefused : (install asset.folder asset.path asset.content).run reached =
        (.error (.files reason), t)) :
      Refused s .init args ("init: failed to write " ++ asset.path ++ ": " ++ reason.message)

/-- How a command ends. -/
structure Answered (s : Session) (command : Builtin) (args : List String) : Prop where
  /-- With an outcome, unless it is stopped. -/
  ends : EndsUnless (Stops s command args) (command.run args) s
  /-- A refusal of the file system stops it only where the record of the version is blocked. -/
  escapes : ∀ reason t, (command.run args).run s = (.error (.files reason), t) →
    command = .init ∧ args.contains "--update" = true ∧
      s.files.snapshot.paths.VersionBlocked ∧ reason.kind = .alreadyExists
  /-- What it was refused is told, and makes it fail. -/
  reports : ∀ line, Refused s command args line → Fails line (command.run args) s

/-! ## Commands that come to their end -/

theorem EndsUnless.of_returns {α : Type} {due : Fault → Prop} {step : Shell α}
    (hdue : ∀ fault, ¬ due fault) (hreturns : Returns Opened step) (hopen : s.files.Opened) :
    EndsUnless due step s :=
  .inl ⟨hdue, hreturns.ends hopen⟩

theorem Stops.mayStop {fault : Fault} (h : Stops s command args fault) :
    mayStop command = true := by
  cases h with
  | _ => rfl

theorem find_ends (hopen : s.files.Opened) (args : List String) :
    EndsUnless (Stops s .find args) (find args) s := by
  rw [find]
  cases hread : FindOptions.read args with
  | ok options =>
    refine .of_returns ?_ (returns_findWith options) hopen
    rintro fault ⟨hinfinite⟩
    cases hread.symm.trans hinfinite
  | error fault =>
    rcases FindOptions.readable_read args fault hread with ⟨mistake, rfl⟩ | rfl
    · refine .of_returns ?_ ((returns_print _).bind fun _ => (returns_print _).returning _) hopen
      rintro fault ⟨hinfinite⟩
      cases hread.symm.trans hinfinite
    · exact .inr ⟨_, s, .depth hread, rfl⟩

theorem returns_grepWith (I : FileSystem → Prop) (read : ShortFlags) (targets : List String)
    (matcher : LineMatcher) : Returns I (grepWith read targets (.ok matcher)) :=
  holds_ite (returns_grepMisused _)
    ((returns_filesToSearch _ _).bind fun _ => returns_grepFiles _ _)

/-- A search comes to its end unless its pattern is refused for more than a mistake. -/
theorem search_ends (hopen : s.files.Opened) {read : ShortFlags} {argument : String}
    {targets : List String} (hread : ShortFlags.read "rin" args = read)
    (hknown : read.unknown? = none) (hoperands : read.operands = argument :: targets) :
    EndsUnless (Stops s .grep args) (grep args) s := by
  have hgiven {written : String} {e : PatternError} (h : Unsearchable s args written e) :
      LineMatcher.expressionIn? argument = some written := by
    obtain ⟨given, others, -, hgiven, hwritten⟩ := h.given
    rw [hread, hoperands] at hgiven
    cases hgiven
    exact hwritten
  rw [EndsUnless, run_grep_eq hread hknown hoperands]
  rcases LineMatcher.ofArgument_cases argument s.host.character? with
    ⟨matcher, hmatcher⟩ | ⟨written, e, hwritten, hparse, hrefused⟩
  · refine .inl ⟨?_, by rw [hmatcher]; exact (returns_grepWith _ _ _ _).ends hopen⟩
    intro fault hstops
    cases hstops with
    | pattern hpattern =>
      rw [LineMatcher.ofArgument, hgiven hpattern] at hmatcher
      dsimp only at hmatcher
      rw [hpattern.refused] at hmatcher
      cases hmatcher
  · by_cases hmistake : ∃ what position?, e = .mistake what position?
    · obtain ⟨what, position?, rfl⟩ := hmistake
      refine .inl ⟨?_, by rw [hrefused]; exact ⟨_, _, rfl⟩⟩
      intro fault hstops
      cases hstops with
      | pattern hpattern =>
        cases hwritten.symm.trans (hgiven hpattern)
        cases hparse.symm.trans hpattern.refused
        exact hpattern.no_mistake _ _ rfl
    · have hpattern : Unsearchable s args written e :=
        ⟨fun what position? he => hmistake ⟨what, position?, he⟩,
          ⟨argument, targets, hread ▸ hknown, hread ▸ hoperands, hwritten⟩, hparse⟩
      refine .inr ⟨_, s, .pattern hpattern, ?_⟩
      rw [hrefused]
      cases e with
      | mistake what position? => exact absurd ⟨what, position?, rfl⟩ hmistake
      | countTooLarge | countTooLong | twoTypes => rfl

theorem grep_ends (hopen : s.files.Opened) (args : List String) :
    EndsUnless (Stops s .grep args) (grep args) s := by
  by_cases hsearch : ∃ argument targets, (ShortFlags.read "rin" args).unknown? = none ∧
      (ShortFlags.read "rin" args).operands = argument :: targets
  · obtain ⟨argument, targets, hknown, hoperands⟩ := hsearch
    exact search_ends hopen rfl hknown hoperands
  · have hstops (fault : Fault) : ¬ Stops s .grep args fault := by
      intro hstops
      cases hstops with
      | pattern hpattern =>
        obtain ⟨argument, targets, hknown, hoperands, -⟩ := hpattern.given
        exact hsearch ⟨argument, targets, hknown, hoperands⟩
    refine .of_returns hstops ?_ hopen
    unfold grep
    dsimp only
    split
    · exact returns_grepMisused _
    · exact returns_grepMisused _
    · next hknown hoperands => exact absurd ⟨_, _, hknown, hoperands⟩ hsearch

theorem delay_ends (hopen : s.files.Opened) (args : List String) :
    EndsUnless (Stops s .delay args) (delay args) s := by
  cases args with
  | nil =>
    rw [delay]
    refine .of_returns ?_ (returns_missingOperand _ _) hopen
    rintro fault ⟨⟩
  | cons argument rest =>
    rw [delay]
    cases hpause : pauseOf? (Text.trim argument) with
    | none =>
      refine .of_returns ?_ ((returns_print _).returning _) hopen
      intro fault hstops
      cases hstops with
      | pause hsome => exact nomatch hpause.symm.trans hsome
    | some milliseconds =>
      dsimp only
      rw [EndsUnless, run_bind, sleep, run_ofRun]
      cases himpatient : s.console.impatient with
      | true => exact .inr ⟨.interrupt, _, .pause hpause himpatient, rfl⟩
      | false =>
        refine .inl ⟨?_, _, _, rfl⟩
        intro fault hstops
        cases hstops with
        | pause _ hinterrupted => exact nomatch himpatient.symm.trans hinterrupted

theorem check_ends (hopen : s.files.Opened) (hcheck : args.contains "--check" = true) :
    EndsUnless (Stops s .init args) checkAssets s := by
  rcases run_checkAssets hopen with ⟨hshort, hends⟩ | ⟨digits, hlong, hrun⟩
  · refine .inl ⟨fun fault hstops => ?_, hends⟩
    cases hstops with
    | check _ hlong => exact hshort _ hlong
    | update hno | layOut hno => exact nomatch hcheck.symm.trans hno
  · exact .inr ⟨_, s, .check hcheck hlong, hrun⟩

theorem update_ends (hopen : s.files.Opened) (hcheck : args.contains "--check" = false)
    (hupdate : args.contains "--update" = true) :
    EndsUnless (Stops s .init args) updateAssets s := by
  obtain ⟨synced, reached, hsync, hcases⟩ := run_updateAssets hopen
  rcases hcases with ⟨hclear, hends⟩ | ⟨⟨hall, hblocked⟩, reason, t, hrun, hkind⟩
  · refine .inl ⟨fun fault hstops => ?_, hends⟩
    cases hstops with
    | check hyes => exact nomatch hcheck.symm.trans hyes
    | update _ _ hsyncs hall hblocked =>
      rw [hsync, Prod.mk.injEq, Except.ok.injEq] at hsyncs
      exact hclear ⟨hsyncs.1 ▸ hall, hblocked⟩
    | layOut _ hno => exact nomatch hupdate.symm.trans hno
  · exact .inr ⟨_, t, .update hcheck hupdate hsync hall hblocked hkind, hrun⟩

theorem layOut_ends (hopen : s.files.Opened) (hcheck : args.contains "--check" = false)
    (hupdate : args.contains "--update" = false)
    (hforced : (s.files.snapshot.looksEmpty || args.contains "-f" ||
      args.contains "--force") = true) :
    EndsUnless (Stops s .init args) (layOut s.files.snapshot.looksEmpty) s := by
  rcases run_layOut hopen s.files.snapshot.looksEmpty with
    ⟨text, t, hlimit, hrun⟩ | ⟨e, t, hlimit, hrun⟩
  · refine .inl ⟨fun fault hstops => ?_, .success, t, hrun⟩
    cases hstops with
    | check hyes => exact nomatch hcheck.symm.trans hyes
    | update _ hyes => exact nomatch hupdate.symm.trans hyes
    | layOut _ _ _ hfails => exact nomatch hlimit.symm.trans hfails
  · exact .inr ⟨_, t, .layOut hcheck hupdate hforced hlimit, hrun⟩

theorem init_ends (hopen : s.files.Opened) (args : List String) :
    EndsUnless (Stops s .init args) (init args) s := by
  rw [init]
  split
  · next hcheck => exact check_ends hopen hcheck
  · next hcheck =>
    rw [Bool.not_eq_true] at hcheck
    split
    · next hupdate => exact update_ends hopen hcheck hupdate
    · next hupdate =>
      rw [Bool.not_eq_true] at hupdate
      rw [EndsUnless, run_view_bind]
      split
      · next hforced => exact layOut_ends hopen hcheck hupdate hforced
      · next hkept =>
        obtain ⟨_, t, hrun, -⟩ := returns_printLines (I := Opened) alreadyLaidOut s hopen
        refine .inl ⟨fun fault hstops => ?_, .success, t, run_bind_of_ok hrun⟩
        cases hstops with
        | check hyes => exact nomatch hcheck.symm.trans hyes
        | update _ hyes => exact nomatch hupdate.symm.trans hyes
        | layOut _ _ hforced => exact hkept hforced

theorem builtin_ends (hopen : s.files.Opened) (command : Builtin) (args : List String) :
    EndsUnless (Stops s command args) (command.run args) s := by
  cases hcommand : mayStop command with
  | false =>
    refine .of_returns (fun fault hstops => ?_) (returns_builtin hcommand args) hopen
    exact nomatch hcommand.symm.trans hstops.mayStop
  | true =>
    cases command with
    | find => exact find_ends hopen args
    | grep => exact grep_ends hopen args
    | delay => exact delay_ends hopen args
    | init => exact init_ends hopen args
    | _ => exact nomatch hcommand

/-! ## Refusals -/

section Operands

variable {action : String → Shell Unit}

theorem steady_action (h : command.action? = some action) (operand : String) :
    Steady (action operand) := by
  cases command with
  | mkdir | rmdir | rm => cases h; exact steady_change _
  | touch => cases h; exact compositional_steady.touchFile operand
  | cat => cases h; exact (steady_look _).bind fun _ => steady_print _
  | _ => exact nomatch h

theorem refusable_action (h : command.action? = some action) (operand : String) :
    Refusable Opened (action operand) := by
  cases command with
  | mkdir | rmdir | rm => cases h; exact refusable_change_opened _
  | touch => cases h; exact refusable_touchFile operand
  | cat => cases h; exact refusable_printFile operand
  | _ => exact nomatch h

theorem run_workThrough (h : command.action? = some action) (hargs : args ≠ []) :
    command.run args = workThrough command action args >>= fun allDone =>
      pure (outcomeOfAll command.name allDone) := by
  cases args with
  | nil => exact absurd rfl hargs
  | cons operand rest =>
    cases command with
    | mkdir | rmdir | touch | cat | rm => cases h; rfl
    | _ => exact nomatch h

theorem fails_operand (h : command.action? = some action) {before rest : List String}
    {operand : String} {reason : FileError} {t : Session} (hopen : s.files.Opened)
    (hrefused : (action operand).run ((workThrough command action before).run s).2 =
      (.error (.files reason), t)) :
    Fails (command.refusal operand reason) (command.run (before ++ operand :: rest)) s := by
  rw [run_workThrough h (List.append_ne_nil_of_right_ne_nil _ (List.cons_ne_nil _ _))]
  have htells := tells_eachOperand (steady_action h) (refusable_action h)
    (fun _ _ => steady_print _) (fun _ _ => returns_print _) rest hopen hrefused
    fun r hr => tells_print hr _
  refine (htells.returning fun allDone hfailed => ?_).fails
  rw [hfailed]
  rfl

end Operands

variable {reason : FileError}

theorem fails_ls {read : ShortFlags} {target : String} (hread : ShortFlags.read "la" args = read)
    (hknown : read.unknown? = none) (htarget : read.operands.head?.getD "." = target)
    (hfile : s.files.snapshot.isFile target = false)
    (hrefused : s.files.snapshot.list target = .error reason) :
    Fails ("ls: " ++ reason.message) (ls args) s := by
  refine (fails_failRefused "ls" reason s).following List.prefix_rfl ?_
  simp only [ls, hread, hknown, htarget, run_view_bind, hfile, if_neg Bool.false_ne_true]
  rw [listFolder, run_bind, run_attempt_look, hrefused]

theorem fails_mv {source destination : String} (rest : List String)
    (hrefused : s.files.snapshot.move source destination = .error reason) :
    Fails ("mv: " ++ reason.message) (mv (source :: destination :: rest)) s :=
  fails_reporting ((steady_change _).returning _)
    (run_bind_of_error (run_change_of_error hrefused)) "mv"

theorem fails_copySource {source destination : String} (rest : List String)
    (hfile : s.files.snapshot.isFile source = false) :
    Fails ("copy: cannot read '" ++ source ++ "': No such file")
      (copy (source :: destination :: rest)) s := by
  refine (fails_print _ (.failed ("copy: cannot read '" ++ source ++ "'")) rfl s).following
    List.prefix_rfl ?_
  rw [copy, run_view_bind, hfile, if_neg Bool.false_ne_true]

theorem fails_copy {source destination : String} (rest : List String)
    (hfile : s.files.snapshot.isFile source = true)
    (hrefused : s.files.snapshot.copy source destination = .error reason) :
    Fails ("copy: cannot write '" ++ destination ++ "': " ++ reason.message)
      (copy (source :: destination :: rest)) s := by
  refine (fails_print _ (.failure (some (.files reason))) rfl s).following List.prefix_rfl ?_
  rw [copy, run_view_bind, if_pos hfile,
    run_bind_of_ok (run_attempt_of_refused (run_change_of_error hrefused))]

theorem fails_find {options : FindOptions} {start : String}
    (hread : FindOptions.read args = .ok options)
    (hstart : Path.normalize s.files.snapshot.cwdPath options.path = start)
    (hmissing : s.files.snapshot.exists? start = false) :
    Fails ("find: " ++ start ++ ": No such file or directory") (find args) s := by
  refine (fails_failWith _ s).following List.prefix_rfl ?_
  rw [find, hread]
  dsimp only
  rw [findWith, run_view_bind, hstart, run_view_bind, hmissing, if_neg Bool.false_ne_true]

theorem fails_grep {targets files : List String} {read : ShortFlags} {argument path : String}
    {matcher : LineMatcher} (hread : ShortFlags.read "rin" args = read)
    (hknown : read.unknown? = none) (hoperands : read.operands = argument :: targets)
    (hmatcher : LineMatcher.ofArgument argument s.host.character? = .ok matcher)
    (htargets : (targets.isEmpty && !read.has 'r') = false)
    (hfiles : (filesToSearch (read.has 'r') (if targets.isEmpty then ["."] else targets)).run s =
      (.ok files, s))
    (hpath : path ∈ files) (hrefused : s.files.snapshot.read path = .error reason) :
    Fails ("grep: " ++ reason.message) (grep args) s := by
  let options : GrepOptions :=
    ⟨matcher, read.has 'i', read.has 'r' || decide (1 < files.length), read.has 'n'⟩
  refine (fails_grepFiles hrefused hpath options).following List.prefix_rfl ?_
  rw [run_grep_eq hread hknown hoperands, hmatcher]
  simp only [grepWith, htargets]
  rw [if_neg Bool.false_ne_true, run_bind_of_ok hfiles]

theorem refused_fails (hopen : s.files.Opened) {line : String}
    (hrefused : Refused s command args line) : Fails line (command.run args) s := by
  cases hrefused with
  | cd hrefused => exact fails_reporting (steady_change _) (run_change_of_error hrefused) "cd"
  | ls hread hknown htarget hfile hrefused => exact fails_ls hread hknown htarget hfile hrefused
  | operand haction hrefused => exact fails_operand haction hopen hrefused
  | @mv source destination rest reason hrefused => exact fails_mv rest hrefused
  | @copySource source destination rest hfile => exact fails_copySource rest hfile
  | @copy source destination rest reason hfile hrefused => exact fails_copy rest hfile hrefused
  | find hread hstart hmissing => exact fails_find hread hstart hmissing
  | grep hread hknown hoperands hmatcher htargets hfiles hpath hrefused =>
    exact fails_grep hread hknown hoperands hmatcher htargets hfiles hpath hrefused
  | update hcheck hupdate hall hreached hstate hrefused =>
    have hinit : (Builtin.init.run args).run s = updateAssets.run s := by
      rw [Builtin.run, init, hcheck, hupdate, if_neg Bool.false_ne_true, if_pos rfl]
    exact (fails_updateAssets hall hopen hreached hstate hrefused).following List.prefix_rfl hinit

/-- **Every built-in command ends with an outcome on an open store, but for the six things that stop
one; a refusal of the file system is among them only where the record of the version is blocked, and
any other one that keeps a command from what it was asked for is told, and makes it fail.** -/
theorem builtin_answers (hopen : s.files.Opened) (command : Builtin) (args : List String) :
    Answered s command args where
  ends := builtin_ends hopen command args
  escapes := by
    intro reason t hrun
    rcases builtin_ends hopen command args with ⟨-, outcome, u, hends⟩ | ⟨fault, u, hstops, hends⟩
    · exact nomatch (congrArg Prod.fst hends).symm.trans (congrArg Prod.fst hrun)
    · have hfault : fault = .files reason :=
        Except.error.inj (Prod.mk.inj (hends.symm.trans hrun)).1
      cases hstops with
      | update _ hupdate _ _ hblocked hkind =>
        cases hfault
        exact ⟨rfl, hupdate, hblocked, hkind⟩
      | pattern => exact absurd hfault (LineMatcher.refusal_ne_files _ _ _)
      | depth | pause | check | layOut => cases hfault
  reports := fun _ => refused_fails hopen

/-- A folder is in the place of the record of the version. -/
def blockedSession : Session :=
  sessionWith [⟨"assets-version.json", [], []⟩] []

theorem refused_blockedSession : Refused blockedSession .mkdir ["docs", "docs", "tmp"]
    "mkdir: cannot create directory 'docs': File exists" :=
  @Refused.operand blockedSession .mkdir _ ["docs"] ["tmp"] "docs" (.nameTaken "docs" "docs") _ rfl
    rfl

theorem not_stops_blockedSession (fault : Fault) :
    ¬ Stops blockedSession .init ["--check"] fault := by
  have hread : (blockedSession.files.snapshot.read versionFile).isOk = false := by decide
  intro hstops
  cases hstops with
  | check _ hlong =>
    obtain ⟨content, hcontent, -⟩ := hlong
    rw [hcontent] at hread
    exact nomatch hread
  | update hcheck | layOut hcheck => exact nomatch hcheck

theorem builtin_answers_blockedSession :
    blockedSession.files.Opened ∧
      (∃ outcome t, (Builtin.init.run ["--check"]).run blockedSession = (.ok outcome, t)) ∧
      Fails "mkdir: cannot create directory 'docs': File exists"
        (Builtin.mkdir.run ["docs", "docs", "tmp"]) blockedSession := by
  have hopen : blockedSession.files.Opened := ⟨_, rfl, rfl⟩
  refine ⟨hopen, ?_, (builtin_answers hopen .mkdir _).reports _ refused_blockedSession⟩
  rcases (builtin_answers hopen .init ["--check"]).ends with ⟨-, hends⟩ | hstopped
  · exact hends
  · obtain ⟨fault, -, hstops, -⟩ := hstopped
    exact absurd hstops (not_stops_blockedSession fault)

/-- The refusal that stopped a step. -/
def refusal? {α : Type} : Except Fault α → Option FileError
  | .error (.files reason) => some reason
  | _ => none

theorem eq_error_of_refusal? {α : Type} {result : Except Fault α} {reason : FileError}
    (h : refusal? result = some reason) : result = .error (.files reason) := by
  unfold refusal? at h
  split at h
  · cases h
    rfl
  · cases h

theorem refusal?_blockedSession :
    (refusal? ((Builtin.init.run ["--update"]).run blockedSession).1).isSome = true := by
  decide +kernel

/-- A refusal gets out of `init --update` in a tree that is in order. -/
theorem not_builtin_answers_blockedSession :
    ¬ ∀ (s : Session) (command : Builtin) (args : List String),
      s.files.snapshot.WellFormed → s.files.Opened →
      ∀ reason, ((command.run args).run s).1 ≠ .error (.files reason) := by
  intro hanswers
  obtain ⟨reason, hreason⟩ := Option.isSome_iff_exists.mp refusal?_blockedSession
  exact hanswers blockedSession .init ["--update"] (by decide) ⟨_, rfl, rfl⟩ reason
    (eq_error_of_refusal? hreason)

end Shell

end TreeShell
