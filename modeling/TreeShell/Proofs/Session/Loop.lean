import TreeShell.Proofs.Script.Surfacing
import TreeShell.Proofs.Session.Starting

/-!
# The loop of a session reads its input in order

What a session does with its input is told round by round (`Session.Plays`). A round begins at the
prompt. An interrupt there is lost, and that is all; a line is run, and what its programs read
meanwhile is theirs. So the input is what the rounds took, one after another, and what is left of it
(`Plays.input`). The rounds go on until the input is at its end or a line asks to stop; short of
that nothing ends them but a fault of the store, or a program that asks to leave (`Session.Breaks`).

Every session is played to its end (`exists_plays`), and the loop comes to what the rounds come to,
with any number of rounds that is more than the length of the input (`Plays.run`). That number is
all that the loop has for a measure, and every round but the last takes at least one item.
-/

set_option autoImplicit false

namespace TreeShell

open Shell Relation

/-! ## What there is to tell -/

/-- What the loop takes from its input in one round: an interrupt at the prompt, or a line and what
was read while it ran. -/
inductive Round where
  | interrupted
  | ran (line : String) (taken : List InputItem)
deriving DecidableEq, Repr

/-- The items of the input that a round takes. -/
def Round.items : Round → List InputItem
  | interrupted => [.interrupt]
  | ran line taken => .line line :: taken

/-- How the loop comes to its end. -/
inductive LoopEnd where
  | inputEnded
  | stopped
  | broken (fault : Fault)

/-- What the session ends with. -/
def LoopEnd.result : LoopEnd → Except Fault Unit
  | inputEnded | stopped => .ok ()
  | broken fault => .error fault

namespace Session

/-- The prompt of a session. -/
def promptLine (s : Session) : String :=
  s.environment.userAtHost s.config.shell ++ ":" ++ s.files.snapshot.cwdPath ++ "$ "

/-- The session with its prompt shown, and the rest of an input left to be read. -/
def prompted (s : Session) (rest : List InputItem) : Session :=
  { s with console := { s.console.ask s.promptLine with input := rest } }

/-- The faults that a line can end a session with: the store fails, or a program says that one did,
or a program asked to leave. -/
inductive Breaks (s : Session) : Fault → Prop
  | store {fault : Fault} (hfault : s.files.StoreFault fault) : Breaks s fault
  | failed (text : String) : Breaks s (.database text)
  | left (code : Int) : Breaks s (.leave code)

/-- A session is played in some rounds, comes to an end in one way, and is another one then. -/
inductive Plays : Session → List Round → LoopEnd → Session → Prop
  | inputEnded {s : Session} (hinput : s.console.input = []) :
      Plays s [] .inputEnded ((printLines ["exit", "Bye..."]).run (s.prompted [])).2
  | interrupted {s t : Session} {rest : List InputItem} {rounds : List Round} {ending : LoopEnd}
      (hinput : s.console.input = .interrupt :: rest)
      (hrest : Plays (s.prompted rest) rounds ending t) :
      Plays s (.interrupted :: rounds) ending t
  | ran {s u t : Session} {line : String} {rest taken : List InputItem} {outcome : Outcome}
      {rounds : List Round} {ending : LoopEnd} (hinput : s.console.input = .line line :: rest)
      (hrun : (runLine line).run (s.prompted rest) = (.ok outcome, u))
      (htaken : rest = taken ++ u.console.input) (hcontinues : outcome.continues = true)
      (hrest : Plays u rounds ending t) : Plays s (.ran line taken :: rounds) ending t
  | cut {s u t : Session} {line : String} {rest taken : List InputItem} {rounds : List Round}
      {ending : LoopEnd} (hinput : s.console.input = .line line :: rest)
      (hrun : (runLine line).run (s.prompted rest) = (.error .interrupt, u))
      (htaken : rest = taken ++ u.console.input)
      (hrest : Plays ((print "^C").run u).2 rounds ending t) :
      Plays s (.ran line taken :: rounds) ending t
  | stopped {s t : Session} {line : String} {rest taken : List InputItem} {outcome : Outcome}
      (hinput : s.console.input = .line line :: rest)
      (hrun : (runLine line).run (s.prompted rest) = (.ok outcome, t))
      (htaken : rest = taken ++ t.console.input) (hstops : outcome.continues = false) :
      Plays s [.ran line taken] .stopped t
  | broken {s t : Session} {line : String} {rest taken : List InputItem} {fault : Fault}
      (hinput : s.console.input = .line line :: rest)
      (hrun : (runLine line).run (s.prompted rest) = (.error fault, t))
      (htaken : rest = taken ++ t.console.input) (hbreaks : (s.prompted rest).Breaks fault) :
      Plays s [.ran line taken] (.broken fault) t

variable {s t : Session} {rounds : List Round} {ending : LoopEnd}

/-! ## What the rounds take -/

/-- **The input is what the rounds took, in order, and what is left.** -/
theorem Plays.input (h : s.Plays rounds ending t) :
    s.console.input = rounds.flatMap Round.items ++ t.console.input := by
  induction h with
  | inputEnded hinput => exact hinput
  | interrupted hinput _ ih => rw [hinput, List.flatMap_cons, List.append_assoc, ← ih]; rfl
  | ran hinput _ htaken _ _ ih | cut hinput _ htaken _ ih =>
    rw [hinput, htaken, List.flatMap_cons, List.append_assoc, ← ih]
    rfl
  | stopped hinput _ htaken | broken hinput _ htaken => rw [hinput, htaken]; simp [Round.items]

/-- Where the loop goes on to the end of the input, nothing is left. -/
theorem Plays.input_nil (h : s.Plays rounds ending t) (hending : ending = .inputEnded) :
    t.console.input = [] := by
  induction h with
  | inputEnded hinput => rfl
  | interrupted _ _ ih | ran _ _ _ _ _ ih | cut _ _ _ _ ih => exact ih hending
  | stopped | broken => exact nomatch hending

theorem length_items_pos (round : Round) : 0 < round.items.length := by
  cases round <;> exact Nat.succ_pos _

theorem Plays.length_le (h : s.Plays rounds ending t) :
    rounds.length ≤ s.console.input.length := by
  have hitems : rounds.length ≤ (rounds.flatMap Round.items).length := by
    clear h
    induction rounds with
    | nil => exact Nat.zero_le _
    | cons round rest ih =>
      have hpos := length_items_pos round
      rw [List.flatMap_cons, List.length_append, List.length_cons]
      omega
  rw [h.input, List.length_append]
  omega

end Session

namespace Shell

variable {α β : Type} {s t : Session} {line : String}

/-! ## How a line ends -/

/-- A line is written into the history unless the store fails. -/
theorem addHistory_ends (line : String) (s : Session) :
    (∃ worth t, (addHistory line).run s = (.ok worth, t)) ∨
    ∃ fault t, s.files.StoreFault fault ∧ (addHistory line).run s = (.error fault, t) := by
  rw [addHistory, run_environment_bind]
  cases s.environment.remember? line with
  | none => exact .inl ⟨false, s, rfl⟩
  | some next =>
    -- What is left to be done is to write the history.
    have hwrite := within_writeSettings
      (within_change_of_store (F := s.files.StoreFault) fun _ => id) historyFile
      next.bounded.historyDocument.indented
    rcases (hwrite.returning fun _ => true) { s with environment := next.bounded } fun _ => id with
      ⟨worth, t, hrun, -⟩ | ⟨reason, t, hrun, -, hfault⟩ | ⟨fault, t, hrun, hfault, -⟩
    · exact .inl ⟨worth, t, hrun⟩
    · exact .inr ⟨_, t, hfault, hrun⟩
    · exact .inr ⟨fault, t, hfault, hrun⟩

/-- **A line ends with an outcome, unless the user interrupts it, a program asks to leave or the
store fails.** -/
theorem runLine_ends (line : String) (s : Session) :
    (∃ outcome t, (runLine line).run s = (.ok outcome, t)) ∨
    (∃ t, (runLine line).run s = (.error .interrupt, t)) ∨
    ∃ fault t, s.Breaks fault ∧ (runLine line).run s = (.error fault, t) := by
  rcases addHistory_ends line s with ⟨worth, noted, hnote⟩ | ⟨fault, t, hfault, hnote⟩
  · have hentered : (addHistory line >>= fun _ => dropHint).run s =
        (.ok (), { noted with proposal? := none, hint := "" }) := run_bind_of_ok hnote
    rw [run_runLine hentered]
    generalize (dispatch line).run _ = dispatched
    obtain ⟨result, t⟩ := dispatched
    cases result with
    | ok outcome => exact .inl ⟨outcome, t, rfl⟩
    | error fault =>
      cases fault with
      | interrupt => exact .inr (.inl ⟨t, rfl⟩)
      | leave code => exact .inr (.inr ⟨_, t, .left code, rfl⟩)
      | database text => exact .inr (.inr ⟨_, t, .failed text, rfl⟩)
      | _ => exact .inl ⟨_, _, rfl⟩
  · exact .inr (.inr ⟨fault, t, .store hfault, run_bind_of_error hnote⟩)

/-! ## Rounds -/

/-- What is read at the prompt. -/
theorem run_readLine_prompt (s : Session) :
    (readLine s.promptLine).run s = match s.console.input with
      | [] => (.error .endOfInput, s.prompted [])
      | .line text :: rest => (.ok text, s.prompted rest)
      | .interrupt :: rest => (.error .interrupt, s.prompted rest) := by
  rw [readLine, run_ofRun]
  cases hinput : s.console.input with
  | nil => simp only [Console.ask, Session.prompted, hinput]
  | cons item rest => cases item <;> simp only [Console.ask, Session.prompted, hinput]

/-- What a line that was read comes to for the loop. -/
theorem run_runEntered (line : String) (s : Session) :
    (runEntered line).run s = match (runLine line).run s with
      | (.ok outcome, t) => (.ok outcome.continues, t)
      | (.error .interrupt, t) => (.ok true, ((print "^C").run t).2)
      | (.error fault, t) => (.error fault, t) := by
  rw [runEntered, run_bind, run_settled]
  generalize (runLine line).run s = ended
  obtain ⟨result, t⟩ := ended
  cases result with
  | ok outcome => rfl
  | error fault => cases fault <;> rfl

/-- A round of the loop. -/
theorem run_readAndRun_succ (n : Nat) (s : Session) :
    (readAndRun (n + 1)).run s = match s.console.input with
      | [] => (printLines ["exit", "Bye..."]).run (s.prompted [])
      | .interrupt :: rest => (readAndRun n).run (s.prompted rest)
      | .line line :: rest => match (runEntered line).run (s.prompted rest) with
        | (.ok goesOn, t) => if goesOn then (readAndRun n).run t else (.ok (), t)
        | (.error fault, t) => (.error fault, t) := by
  have hprompt (next : String → Shell Unit) :
      (promptText >>= next).run s = (next s.promptLine).run s := rfl
  rw [readAndRun, hprompt, run_bind, run_settled, run_readLine_prompt]
  cases s.console.input with
  | nil => rfl
  | cons item rest =>
    cases item with
    | interrupt => rfl
    | line text =>
      dsimp only
      rw [run_bind]
      generalize (runEntered text).run (s.prompted rest) = ended
      obtain ⟨result, t⟩ := ended
      cases result with
      | ok goesOn => cases goesOn <;> rfl
      | error fault => rfl

end Shell

namespace Session

variable {s t : Session} {rounds : List Round} {ending : LoopEnd}

/-- **The loop comes to what the rounds come to**, if it may go on for more rounds than those. -/
theorem Plays.run (h : s.Plays rounds ending t) {n : Nat} (hn : rounds.length < n) :
    (readAndRun n).run s = (ending.result, t) := by
  induction h generalizing n with
  | inputEnded hinput =>
    obtain ⟨n, rfl⟩ := Nat.exists_eq_succ_of_ne_zero (Nat.ne_of_gt hn)
    rw [run_readAndRun_succ, hinput]
    rfl
  | interrupted hinput _ ih =>
    obtain ⟨n, rfl⟩ := Nat.exists_eq_succ_of_ne_zero (Nat.ne_of_gt (Nat.zero_lt_of_lt hn))
    rw [run_readAndRun_succ, hinput]
    exact ih (Nat.lt_of_succ_lt_succ hn)
  | ran hinput hrun _ hcontinues _ ih =>
    obtain ⟨n, rfl⟩ := Nat.exists_eq_succ_of_ne_zero (Nat.ne_of_gt (Nat.zero_lt_of_lt hn))
    rw [run_readAndRun_succ, hinput]
    dsimp only
    rw [run_runEntered, hrun]
    dsimp only
    rw [if_pos hcontinues]
    exact ih (Nat.lt_of_succ_lt_succ hn)
  | cut hinput hrun _ _ ih =>
    obtain ⟨n, rfl⟩ := Nat.exists_eq_succ_of_ne_zero (Nat.ne_of_gt (Nat.zero_lt_of_lt hn))
    rw [run_readAndRun_succ, hinput]
    dsimp only
    rw [run_runEntered, hrun]
    exact ih (Nat.lt_of_succ_lt_succ hn)
  | stopped hinput hrun _ hstops =>
    obtain ⟨n, rfl⟩ := Nat.exists_eq_succ_of_ne_zero (Nat.ne_of_gt (Nat.zero_lt_of_lt hn))
    rw [run_readAndRun_succ, hinput]
    dsimp only
    rw [run_runEntered, hrun]
    dsimp only
    rw [if_neg (by rw [hstops]; exact Bool.false_ne_true)]
    rfl
  | broken hinput hrun _ hbreaks =>
    obtain ⟨n, rfl⟩ := Nat.exists_eq_succ_of_ne_zero (Nat.ne_of_gt (Nat.zero_lt_of_lt hn))
    rw [run_readAndRun_succ, hinput]
    dsimp only
    rw [run_runEntered, hrun]
    cases hbreaks with
    | store hfault => cases hfault <;> rfl
    | failed text => rfl
    | left code => rfl

/-- What a line took is what is missing from the input after it. -/
theorem exists_taken {line : String} {rest : List InputItem} {result : Except Fault Outcome}
    (hrun : (runLine line).run (s.prompted rest) = (result, t)) :
    ∃ taken, rest = taken ++ t.console.input := by
  have hsuffix := input_runLine line (s.prompted rest)
  rw [hrun] at hsuffix
  obtain ⟨taken, htaken⟩ := hsuffix
  exact ⟨taken, htaken.symm⟩

/-- **Every session is played to an end.** The induction is on what there is of the input. -/
theorem exists_plays (s : Session) : ∃ rounds ending t, s.Plays rounds ending t := by
  obtain ⟨n, hn⟩ : ∃ n, s.console.input.length ≤ n := ⟨_, le_rfl⟩
  induction n generalizing s with
  | zero => exact ⟨_, _, _, .inputEnded (List.length_eq_zero_iff.mp (Nat.le_zero.mp hn))⟩
  | succ n ih =>
    cases hinput : s.console.input with
    | nil => exact ⟨_, _, _, .inputEnded hinput⟩
    | cons item rest =>
      rw [hinput, List.length_cons, Nat.succ_le_succ_iff] at hn
      cases item with
      | interrupt =>
        obtain ⟨rounds, ending, t, hrest⟩ := ih (s.prompted rest) hn
        exact ⟨_, _, _, .interrupted hinput hrest⟩
      | line line =>
        have hshorter {result : Except Fault Outcome} {u : Session}
            (hrun : (runLine line).run (s.prompted rest) = (result, u)) :
            u.console.input.length ≤ n := by
          obtain ⟨taken, htaken⟩ := exists_taken hrun
          rw [htaken, List.length_append] at hn
          omega
        rcases runLine_ends line (s.prompted rest) with
          ⟨outcome, u, hrun⟩ | ⟨u, hrun⟩ | ⟨fault, u, hbreaks, hrun⟩
        · obtain ⟨taken, htaken⟩ := exists_taken hrun
          cases hcontinues : outcome.continues with
          | true =>
            obtain ⟨rounds, ending, t, hrest⟩ := ih u (hshorter hrun)
            exact ⟨_, _, _, .ran hinput hrun htaken hcontinues hrest⟩
          | false => exact ⟨_, _, _, .stopped hinput hrun htaken hcontinues⟩
        · obtain ⟨taken, htaken⟩ := exists_taken hrun
          have hu := hshorter hrun
          obtain ⟨rounds, ending, t, hrest⟩ := ih ((print "^C").run u).2 hu
          exact ⟨_, _, _, .cut hinput hrun htaken hrest⟩
        · obtain ⟨taken, htaken⟩ := exists_taken hrun
          exact ⟨_, _, _, .broken hinput hrun htaken hbreaks⟩

/-- Where the store does not fail at first, it never does. -/
theorem Plays.broken_cases (h : s.Plays rounds ending t) (hopen : s.files.Opened) {fault : Fault}
    (hending : ending = .broken fault) :
    (∃ text, fault = .database text) ∨ ∃ code, fault = .leave code := by
  have hkept {s : Session} (hopen : s.files.Opened) {line : String} {rest : List InputItem}
      {result : Except Fault Outcome} {u : Session}
      (hrun : (runLine line).run (s.prompted rest) = (result, u)) : u.files.Opened := by
    have hmoves := lineMoves_runLine line (s.prompted rest)
    rw [hrun] at hmoves
    exact keeps_moves (P := fun u => u.files.Opened) hmoves (fun _ _ hmove => hmove.opened) hopen
  induction h with
  | inputEnded | stopped => exact nomatch hending
  | interrupted _ _ ih => exact ih hopen hending
  | ran _ hrun _ _ _ ih => exact ih (hkept hopen hrun) hending
  | cut _ hrun _ _ ih =>
    have hu := hkept hopen hrun
    exact ih hu hending
  | broken _ _ _ hbreaks =>
    cases hending
    cases hbreaks with
    | store hfault => exact absurd hfault (FileSystem.opened_iff.mp hopen _)
    | failed text => exact .inl ⟨text, rfl⟩
    | left code => exact .inr ⟨code, rfl⟩

end Session

namespace Shell

open Session

variable {s t : Session}

/-! ## The whole session -/

theorem moving_unread_printWelcome : Moving Unread printWelcome := by
  have h := pervasive_unread
  refine h.bind h.environment fun e => ?_
  dsimp only
  split
  · exact h.bind (h.bind (h.mapM (fun _ => h.painted _ _) _) fun _ =>
      h.bind (h.printLines _) fun _ => h.printBlank) fun _ => h.printLines _
  · exact h.printLines _

theorem returns_printWelcome {I : FileSystem → Prop} : Returns I printWelcome := by
  refine returns_environment.bind fun e => ?_
  dsimp only
  split
  · exact Returns.bind ((Returns.mapM fun _ _ => returns_painted _ _).bind fun _ =>
      (returns_printLines _).bind fun _ => returns_print _) fun _ => returns_printLines _
  · exact returns_printLines _

/-- **A session takes its input in order, and ends.** Either it is stopped as it starts up, which
the store does, what is in the way of the settings, or a command that was added for `init`; or it
greets and is played in rounds. The input is what was taken at the start, which is nothing unless
such a command read it, and what the rounds took, and what is left. Nothing is left where the input
came to its end. Only a fault of the store or a program that asks to leave breaks a session off, and
where the store does not fail, only what a program says of itself. How many rounds the loop is
allowed makes no difference, once they are more than the items of the input. -/
theorem runSession_plays (s : Session) :
    (∃ fault u taken, bootstrap.run s = (.error fault, u) ∧ runSession.run s = (.error fault, u) ∧
      s.CannotStart fault ∧ s.TakenAtStart u taken) ∨
    ∃ u v taken rounds ending t, bootstrap.run s = (.ok (), u) ∧ s.TakenAtStart u taken ∧
      printWelcome.run u = (.ok (), v) ∧ v.Plays rounds ending t ∧
      runSession.run s = (ending.result, t) ∧
      s.console.input = taken ++ rounds.flatMap Round.items ++ t.console.input ∧
      (ending = .inputEnded → t.console.input = []) ∧
      (s.files.Opened → ∀ fault, ending = .broken fault →
        (∃ text, fault = .database text) ∨ ∃ code, fault = .leave code) ∧
      ∀ n, s.console.input.length < n → (readAndRun n).run v = (ending.result, t) := by
  obtain ⟨⟨taken, htaken⟩, hcannot⟩ := bootstrap_ends s
  cases hbootstrap : bootstrap.run s with
  | mk result u =>
    rw [hbootstrap] at htaken hcannot
    cases result with
    | error fault =>
      exact .inl ⟨fault, u, taken, rfl, run_bind_of_error hbootstrap, hcannot fault rfl, htaken⟩
    | ok done =>
      obtain ⟨_, v, hwelcome, -⟩ := returns_printWelcome (I := fun _ => True) u trivial
      have hgreeted := unread_of_moves (moving_unread_printWelcome u)
      rw [hwelcome] at hgreeted
      have hinput : s.console.input = taken ++ v.console.input :=
        htaken.input.trans (congrArg _ hgreeted.input.symm)
      obtain ⟨rounds, ending, t, hplays⟩ := exists_plays v
      have hloop (n : Nat) (hn : v.console.input.length < n) :
          (readAndRun n).run v = (ending.result, t) :=
        hplays.run (hplays.length_le.trans_lt hn)
      refine .inr ⟨u, v, taken, rounds, ending, t, rfl, htaken, hwelcome, hplays, ?_, ?_,
        hplays.input_nil, fun hopen fault hending => ?_, fun n hn => hloop n ?_⟩
      · rw [runSession, run_bind_of_ok hbootstrap, run_bind_of_ok hwelcome, run_get_bind]
        exact hloop _ (Nat.lt_succ_self _)
      · rw [hinput, hplays.input, List.append_assoc]
      · exact hplays.broken_cases (hgreeted.opened (htaken.opened hopen)) hending
      · rw [hinput, List.length_append] at hn
        omega

end Shell

end TreeShell
