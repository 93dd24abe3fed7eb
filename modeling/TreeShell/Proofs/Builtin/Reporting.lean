import TreeShell.Proofs.Builtin.Pervasive
import TreeShell.Proofs.Builtin.Setup
import TreeShell.Proofs.Session.Steady

/-!
# Refusals that are told

A command that was refused something tells it in a line and fails, and goes on with what else there
is to do. The line is among those the command printed (`Told`), however many operands, files or
bundled files come before and after: a step prints after what was printed, and takes nothing back.
-/

set_option autoImplicit false

namespace TreeShell

/-- From one session to another a line was printed, among others. -/
def Session.Told (line : String) (s t : Session) : Prop :=
  ∃ lines, t.console.output = s.console.output ++ lines ∧ line ∈ lines

namespace Session

variable {line : String} {s r t : Session}

theorem told_of_following (hbefore : s.console.output <+: r.console.output) (h : Told line r t) :
    Told line s t := by
  obtain ⟨earlier, hearlier⟩ := hbefore
  obtain ⟨lines, hlines, hmem⟩ := h
  exact ⟨earlier ++ lines, by rw [hlines, ← hearlier, List.append_assoc],
    List.mem_append_right _ hmem⟩

theorem told_of_followed (h : Told line s r) (hafter : r.console.output <+: t.console.output) :
    Told line s t := by
  obtain ⟨later, hlater⟩ := hafter
  obtain ⟨lines, hlines, hmem⟩ := h
  exact ⟨lines ++ later, by rw [← hlater, hlines, List.append_assoc],
    List.mem_append_left _ hmem⟩

end Session

namespace Shell

open FileSystem Session

variable {α β : Type} {I : FileSystem → Prop} {line : String} {P : α → Prop} {s t : Session}

/-! ## What was printed before and after -/

/-- A steady step takes nothing back. -/
theorem Steady.follows {step : Shell α} (h : Steady step) {result : Except Fault α}
    (hrun : step.run s = (result, t)) : s.console.output <+: t.console.output := by
  have hsilent : s = withEarlier s.console.output
      { s with console := { s.console with output := [] } } := by
    simp [withEarlier]
  rw [hsilent, h.output] at hrun
  obtain ⟨-, rfl⟩ := Prod.mk.inj hrun
  exact List.prefix_append _ _

/-- A step that ends with a value of which something holds, and prints a line on the way. -/
def Tells (I : FileSystem → Prop) (line : String) (P : α → Prop) (step : Shell α) (s : Session) :
    Prop :=
  ∃ a t, step.run s = (.ok a, t) ∧ I t.files ∧ P a ∧ Told line s t

/-- What a step goes on with tells something. -/
theorem Tells.following {step next : Shell α} (h : Tells I line P next t)
    (hbefore : s.console.output <+: t.console.output) (hrun : step.run s = next.run t) :
    Tells I line P step s := by
  obtain ⟨a, u, hnext, hu, ha, htold⟩ := h
  exact ⟨a, u, hrun.trans hnext, hu, ha, told_of_following hbefore htold⟩

/-- The first of two steps tells something. -/
theorem Tells.followed {step : Shell α} {next : α → Shell β} {Q : β → Prop}
    (h : Tells I line P step s) (hsteady : ∀ a, Steady (next a))
    (hnext : ∀ a r, P a → I r.files → ∃ b t, (next a).run r = (.ok b, t) ∧ I t.files ∧ Q b) :
    Tells I line Q (step >>= next) s := by
  obtain ⟨a, r, hrun, hr, ha, htold⟩ := h
  obtain ⟨b, t, hlast, ht, hb⟩ := hnext a r ha hr
  exact ⟨b, t, (run_bind_of_ok hrun).trans hlast, ht, hb,
    told_of_followed htold ((hsteady a).follows hlast)⟩

theorem Tells.returning {step : Shell α} {f : α → β} {Q : β → Prop} (h : Tells I line P step s)
    (hf : ∀ a, P a → Q (f a)) : Tells I line Q (step >>= fun a => pure (f a)) s :=
  h.followed (fun a => steady_pure (f a)) fun a r ha hr => ⟨f a, r, rfl, hr, hf a ha⟩

theorem tells_print (hs : I s.files) (line : String) :
    Tells I line (fun _ => True) (print line) s :=
  ⟨(), _, rfl, hs, trivial, [line], rfl, List.mem_singleton_self line⟩

/-- A line is printed, and that is all. -/
theorem tells_print_pure (hs : I s.files) (line : String) {a : α} (ha : P a) :
    Tells I line P (print line >>= fun _ => pure a) s :=
  (tells_print hs line).returning fun _ _ => ha

/-! ## One refusal -/

/-- A command ends with a failure, and prints a line on the way. -/
def Fails (line : String) (command : Shell Outcome) (s : Session) : Prop :=
  ∃ outcome t, command.run s = (.ok outcome, t) ∧ outcome.ok = false ∧ Told line s t

section Fails

variable {command : Shell Outcome}

theorem Tells.fails (h : Tells I line (fun outcome => outcome.ok = false) command s) :
    Fails line command s := by
  obtain ⟨outcome, t, hrun, -, hfailed, htold⟩ := h
  exact ⟨outcome, t, hrun, hfailed, htold⟩

/-- What a command goes on with fails. -/
theorem Fails.following {next : Shell Outcome} (h : Fails line next t)
    (hbefore : s.console.output <+: t.console.output) (hrun : command.run s = next.run t) :
    Fails line command s := by
  obtain ⟨outcome, u, hnext, hfailed, htold⟩ := h
  exact ⟨outcome, u, hrun.trans hnext, hfailed, told_of_following hbefore htold⟩

theorem fails_print (line : String) (outcome : Outcome) (hfailed : outcome.ok = false)
    (s : Session) : Fails line (print line >>= fun _ => pure outcome) s :=
  ⟨outcome, _, rfl, hfailed, [line], rfl, List.mem_singleton_self line⟩

theorem fails_failWith (line : String) (s : Session) : Fails line (failWith line) s :=
  fails_print line (.failed line) rfl s

theorem fails_failRefused (command : String) (reason : FileError) (s : Session) :
    Fails (command ++ ": " ++ reason.message) (failRefused command reason) s :=
  fails_print _ (.failure (some (.files reason))) rfl s

theorem fails_reporting {step : Shell Unit} {reason : FileError} (hsteady : Steady step)
    (hrefused : step.run s = (.error (.files reason), t)) (command : String) :
    Fails (command ++ ": " ++ reason.message) (reporting command step) s :=
  (fails_failRefused command reason t).following (hsteady.follows hrefused)
    (run_bind_of_ok (run_attempt_of_refused hrefused))

end Fails

/-! ## One among several -/

section EachOperand

variable {action : String → Shell Unit} {tell : String → FileError → Shell Unit}
  {operand : String} {reason : FileError}

theorem run_eachOperand_cons_of_ok (h : (action operand).run s = (.ok (), t))
    (rest : List String) :
    (eachOperand action tell (operand :: rest)).run s = (eachOperand action tell rest).run t := by
  rw [eachOperand, run_bind_of_ok (run_attempt_of_ok h)]

theorem run_eachOperand_cons_of_refused (h : (action operand).run s = (.error (.files reason), t))
    (rest : List String) :
    (eachOperand action tell (operand :: rest)).run s =
      (tell operand reason >>= fun _ =>
        eachOperand action tell rest >>= fun _ => pure false).run t := by
  rw [eachOperand, run_bind_of_ok (run_attempt_of_refused h)]

/-- **An operand that is refused when its turn comes is told, whatever becomes of the others.** -/
theorem tells_eachOperand (hsteady : ∀ operand, Steady (action operand))
    (haction : ∀ operand, Refusable I (action operand))
    (htellSteady : ∀ operand reason, Steady (tell operand reason))
    (htell : ∀ operand reason, Returns I (tell operand reason)) {before : List String}
    (rest : List String) (hs : I s.files)
    (hrefused : (action operand).run ((eachOperand action tell before).run s).2 =
      (.error (.files reason), t))
    (htells : ∀ r, I r.files → Tells I line (fun _ => True) (tell operand reason) r) :
    Tells I line (fun allDone => allDone = false)
      (eachOperand action tell (before ++ operand :: rest)) s := by
  have heach : ∀ operands, Steady (eachOperand action tell operands) :=
    compositional_steady.eachOperand hsteady htellSteady
  have hreturns : ∀ operands, Returns I (eachOperand action tell operands) :=
    returns_eachOperand haction htell
  -- On the operands before the one that is refused; the session is the one they leave.
  induction before generalizing s with
  | nil =>
    refine Tells.following ?_ ((hsteady operand).follows hrefused)
      (run_eachOperand_cons_of_refused hrefused rest)
    have ht := (haction operand).keeps hs hrefused
    refine (htells t ht).followed (fun _ => (heach rest).returning _) fun _ r _ hr => ?_
    obtain ⟨_, u, hrest, hu⟩ := hreturns rest r hr
    exact ⟨false, u, run_bind_of_ok hrest, hu, rfl⟩
  | cons first before ih =>
    rcases haction first s hs with ⟨_, u, hrun, hu⟩ | ⟨why, u, hrun, hu⟩
    · have hturn : ∀ others, (eachOperand action tell (first :: others)).run s =
          (eachOperand action tell others).run u := run_eachOperand_cons_of_ok hrun
      rw [hturn] at hrefused
      exact (ih hu hrefused).following ((hsteady first).follows hrun) (hturn _)
    · have hturn : ∀ others, (eachOperand action tell (first :: others)).run s =
          (tell first why >>= fun _ =>
            eachOperand action tell others >>= fun _ => pure false).run u :=
        run_eachOperand_cons_of_refused hrun
      obtain ⟨_, v, htold, hv⟩ := htell first why u hu
      -- Telling of the first refusal is done before the rest, which runs where it led.
      have hafter : ((eachOperand action tell (first :: before)).run s).2 =
          ((eachOperand action tell before).run v).2 := by
        obtain ⟨_, w, hrest, -⟩ := hreturns before v hv
        rw [hturn, run_bind_of_ok htold, run_bind_of_ok hrest, hrest]
        rfl
      rw [hafter] at hrefused
      have hrest := (ih hv hrefused).returning (f := fun _ => false)
        (Q := fun allDone => allDone = false) fun _ _ => rfl
      refine hrest.following (((hsteady first).follows hrun).trans
        ((htellSteady first why).follows htold)) ?_
      rw [List.cons_append, hturn, run_bind_of_ok htold]

end EachOperand

/-- **What one of several steps tells when its turn comes is told by all of them together.** -/
theorem tells_mapM {action : α → Shell β} {Q : β → Prop} (hsteady : ∀ a, Steady (action a))
    {before : List α} {item : α} (rest : List α)
    (hreturns : ∀ a ∈ before ++ item :: rest, Returns I (action a))
    (hs : I s.files) (htells : Tells I line Q (action item) ((before.mapM action).run s).2) :
    Tells I line (fun answers => ∃ b ∈ answers, Q b) ((before ++ item :: rest).mapM action) s := by
  induction before generalizing s with
  | nil =>
    rw [List.nil_append, List.mapM_cons]
    refine htells.followed (fun _ => (compositional_steady.mapM hsteady rest).returning _)
      fun b r hb hr => ?_
    obtain ⟨answers, u, hrest, hu⟩ :=
      Returns.mapM (fun a ha => hreturns a (List.mem_cons_of_mem _ ha)) r hr
    exact ⟨b :: answers, u, run_bind_of_ok hrest, hu, b, List.mem_cons_self, hb⟩
  | cons first before ih =>
    rw [List.cons_append] at hreturns ⊢
    obtain ⟨hfirst, hothers⟩ := List.forall_mem_cons.mp hreturns
    obtain ⟨answer, u, hrun, hu⟩ := hfirst s hs
    have hafter : (((first :: before).mapM action).run s).2 = ((before.mapM action).run u).2 := by
      obtain ⟨answers, v, hbefore, -⟩ := Returns.mapM
        (fun a ha => hothers a (List.mem_append_left _ ha)) u hu
      rw [List.mapM_cons, run_bind_of_ok hrun, run_bind_of_ok hbefore, hbefore]
      rfl
    rw [hafter] at htells
    rw [List.mapM_cons]
    refine Tells.following ?_ ((hsteady first).follows hrun) (run_bind_of_ok hrun)
    refine (ih hothers hu htells).returning fun answers hanswers => ?_
    obtain ⟨b, hmem, hb⟩ := hanswers
    exact ⟨b, List.mem_cons_of_mem _ hmem, hb⟩

/-! ## Files to search -/

theorem tells_grepFile {path : String} {reason : FileError} (hs : I s.files)
    (hread : s.files.snapshot.read path = .error reason) (options : GrepOptions) :
    Tells I ("grep: " ++ reason.message) (fun found => found = none) (grepFile options path) s := by
  refine (tells_print_pure (P := (· = none)) hs _ rfl).following List.prefix_rfl ?_
  rw [grepFile, run_bind, run_attempt_look, hread]

/-- A file that cannot be read does not keep the others from being searched. -/
theorem fails_grepFiles {path : String} {reason : FileError}
    (hread : s.files.snapshot.read path = .error reason) {files : List String} (hmem : path ∈ files)
    (options : GrepOptions) :
    Fails ("grep: " ++ reason.message) (grepFiles options files) s := by
  obtain ⟨before, rest, rfl⟩ := List.append_of_mem hmem
  have hreturns : ∀ path, Returns (· = s.files) (grepFile options path) := returns_grepFile options
  have hearlier : Returns (· = s.files) (before.mapM (grepFile options)) :=
    .mapM fun path _ => hreturns path
  obtain ⟨answers, r, hbefore, hr⟩ := hearlier s rfl
  have hturn : Tells (· = s.files) ("grep: " ++ reason.message) (fun found => found = none)
      (grepFile options path) ((before.mapM (grepFile options)).run s).2 := by
    rw [hbefore]
    rw [← hr] at hread
    exact tells_grepFile (I := (· = s.files)) hr hread options
  have htells := tells_mapM (compositional_steady.grepFile options) rest
    (fun path _ => hreturns path) rfl hturn
  refine Tells.fails (I := (· = s.files)) (htells.followed (fun found => holds_ite (steady_pure _)
    (holds_ite (steady_pure _) (steady_pure _))) fun found u hfound hu => ?_)
  obtain ⟨answer, hanswer, rfl⟩ := hfound
  have hunread : (!found.all Option.isSome) = true := by
    rw [Bool.not_eq_true', List.all_eq_false]
    exact ⟨none, hanswer, Bool.false_ne_true⟩
  rw [if_pos hunread]
  exact ⟨_, u, rfl, hu, rfl⟩

/-! ## Bundled files -/

section Assets

variable {asset : Asset} {reason : FileError}

theorem tells_installAsset (hopen : s.files.Opened)
    (hrefused : (install asset.folder asset.path asset.content).run s =
      (.error (.files reason), t)) :
    Tells Opened ("init: failed to write " ++ asset.path ++ ": " ++ reason.message)
      (fun write => write = .failed) (installAsset asset) s := by
  have hsteady : Steady (install asset.folder asset.path asset.content) :=
    compositional_steady.install _ _ _
  have hinstall : Refusable Opened (install asset.folder asset.path asset.content) :=
    refusable_install (refusable_change_opened _) (refusable_change_opened _)
  have hline := tells_print_pure (P := (· = AssetWrite.failed)) (hinstall.keeps hopen hrefused)
    ("init: failed to write " ++ asset.path ++ ": " ++ reason.message) rfl
  refine hline.following (hsteady.follows hrefused) ?_
  rw [installAsset]
  exact run_bind_of_ok (run_attempt_of_refused hrefused)

theorem tells_syncAsset (hopen : s.files.Opened)
    (hstate : s.files.snapshot.assetState asset ≠ .unchanged)
    (hrefused : (install asset.folder asset.path asset.content).run s =
      (.error (.files reason), t)) :
    Tells Opened ("init: failed to write " ++ asset.path ++ ": " ++ reason.message)
      (fun synced => synced.write = .failed) (syncAsset (· != .unchanged) asset) s := by
  have hwrite : (s.files.snapshot.assetState asset != .unchanged) = true :=
    bne_iff_ne.mpr hstate
  refine Tells.following ?_ List.prefix_rfl (run_view_bind _ _ s)
  rw [if_pos hwrite]
  exact (tells_installAsset hopen hrefused).returning fun _ hfailed => hfailed

/-- What is left to be done when some bundled files could not be written. -/
theorem run_updateAssets_of_failures {synced : List SyncedAsset}
    (hsync : (syncAssets (· != .unchanged)).run s = (.ok synced, t))
    (hfailures : SyncedAsset.failures synced ≠ []) :
    ∃ u, updateAssets.run s = (.ok assetsFailed, u) ∧ t.console.output <+: u.console.output := by
  rw [updateAssets, run_bind_of_ok hsync]
  dsimp only
  obtain ⟨_, told, htold, -⟩ := returns_print (I := fun _ => True) _ t trivial
  rw [run_bind_of_ok htold]
  obtain ⟨_, listed, hlisted, -⟩ := returns_printPaths (I := fun _ => True) _ _ told trivial
  rw [run_bind_of_ok hlisted, if_neg (mt List.isEmpty_iff.mp hfailures)]
  exact ⟨_, rfl, ((steady_print _).follows htold).trans
    (((compositional_steady.printPaths _ _).follows hlisted).trans ((steady_print "").follows rfl))⟩

/-- **A bundled file that cannot be written when its turn comes is told, and the command fails.** -/
theorem fails_updateAssets {before rest : List Asset} (hall : Asset.all = before ++ asset :: rest)
    (hopen : s.files.Opened) {r : Session}
    (hreached : ((before.mapM (syncAsset (· != .unchanged))).run s).2 = r)
    (hstate : r.files.snapshot.assetState asset ≠ .unchanged)
    (hrefused : (install asset.folder asset.path asset.content).run r =
      (.error (.files reason), t)) :
    Fails ("init: failed to write " ++ asset.path ++ ": " ++ reason.message) updateAssets s := by
  have hreturns : ∀ asset ∈ Asset.all, Returns Opened (syncAsset (· != .unchanged) asset) :=
    fun _ hasset => untouched_opened.syncAsset _ hasset
  rw [hall] at hreturns
  have hr : r.files.Opened := by
    have hearlier : Returns Opened (before.mapM (syncAsset (· != .unchanged))) :=
      .mapM fun asset hasset => hreturns asset (List.mem_append_left _ hasset)
    obtain ⟨_, u, hbefore, hu⟩ := hearlier s hopen
    rw [hbefore] at hreached
    exact hreached ▸ hu
  have hturn := tells_syncAsset hr hstate hrefused
  rw [← hreached] at hturn
  obtain ⟨synced, u, hsync, -, ⟨failed, hmem, hfailed⟩, htold⟩ :=
    tells_mapM (compositional_steady.syncAsset _) rest hreturns hopen hturn
  rw [← hall] at hsync
  have hfailures : SyncedAsset.failures synced ≠ [] :=
    List.ne_nil_of_mem (List.mem_map_of_mem (List.mem_filter.mpr ⟨hmem, by simp [hfailed]⟩))
  obtain ⟨v, hrun, hafter⟩ := run_updateAssets_of_failures hsync hfailures
  exact ⟨assetsFailed, v, hrun, rfl, told_of_followed htold hafter⟩

end Assets

end Shell

end TreeShell
