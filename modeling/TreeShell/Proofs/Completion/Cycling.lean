import Mathlib.Data.List.Perm.Subperm
import Mathlib.Tactic.Ring
import TreeShell.Proofs.Completion.Command
import TreeShell.Proofs.Completion.Completer

/-!
# Going round the candidates

A run of completion is any sequence of requests and cancellations, between which everything in the
session but the open proposal may become something else: the files, the search path, the registered
commands. Every run keeps the completer consistent and the session in step with it
(`CompletionRun.InStep`). The laws of an open proposal follow from that and from counting places
round: after `k` turns the active place is `k` steps on, modulo the number of candidates
(`OpenProposal.Consistent.index_turns`), so that as many turns as there are candidates come back to
the first line by way of each of them.
-/

set_option autoImplicit false

namespace TreeShell

/-! ## Many turns -/

/-- Places that are less than a round apart differ. -/
theorem eq_of_steps_eq {n i j : Nat} (hi : i < n) (hj : j < n) {start : Int} {reverse : Bool}
    (h : (start + (i + 1 : Nat) * turnStep reverse) % n =
      (start + (j + 1 : Nat) * turnStep reverse) % n) : i = j := by
  have hdiff : start + (i + 1 : Nat) * turnStep reverse - (start + (j + 1 : Nat) * turnStep reverse) =
      (i - j) * turnStep reverse := by
    push_cast
    ring
  have hsteps : (n : Int) ∣ (i - j) * turnStep reverse := by
    rw [← hdiff]
    exact Int.dvd_of_emod_eq_zero (Int.emod_eq_emod_iff_emod_sub_eq_zero.mp h)
  have hdvd : (n : Int) ∣ i - j := by
    cases reverse with
    | false => rwa [turnStep, if_neg Bool.false_ne_true, Int.mul_one] at hsteps
    | true => rwa [turnStep, if_pos rfl, Int.mul_neg_one, Int.dvd_neg] at hsteps
  have hzero := Int.eq_zero_of_dvd_of_natAbs_lt_natAbs hdvd (by omega)
  omega

namespace OpenProposal

variable {o : OpenProposal}

/-- The proposal after a number of turns in one direction. -/
def turns (reverse : Bool) : Nat → OpenProposal → OpenProposal
  | 0, o => o
  | k + 1, o => turns reverse k (o.turned reverse)

@[simp]
theorem slot_turns (reverse : Bool) (k : Nat) (o : OpenProposal) :
    (turns reverse k o).slot = o.slot := by
  induction k generalizing o with
  | zero => rfl
  | succ k ih => exact ih (o.turned reverse)

@[simp]
theorem candidates_turns (reverse : Bool) (k : Nat) (o : OpenProposal) :
    (turns reverse k o).candidates = o.candidates := by
  induction k generalizing o with
  | zero => rfl
  | succ k ih => exact ih (o.turned reverse)

namespace Consistent

theorem turns (h : o.Consistent) (reverse : Bool) (k : Nat) :
    (OpenProposal.turns reverse k o).Consistent := by
  induction k generalizing o with
  | zero => exact h
  | succ k ih => exact ih (h.turned reverse)

/-- A place is a place, however often it is gone round. -/
theorem index_emod (h : o.Consistent) : (o.index : Int) % o.candidates.length = o.index :=
  Int.emod_eq_of_lt (Int.natCast_nonneg _) (by exact_mod_cast h.index_lt)

/-- The place after `k` turns is `k` steps on. -/
theorem index_turns (h : o.Consistent) (reverse : Bool) (k : Nat) :
    ((OpenProposal.turns reverse k o).index : Int) =
      (o.index + k * turnStep reverse) % o.candidates.length := by
  induction k generalizing o with
  | zero => simp [OpenProposal.turns, h.index_emod]
  | succ k ih =>
    have hsteps : (o.index : Int) + turnStep reverse + k * turnStep reverse =
        o.index + (k + 1 : Nat) * turnStep reverse := by
      push_cast
      ring
    rw [OpenProposal.turns, ih (h.turned reverse), candidates_turned, index_turned h.pos,
      Int.emod_add_emod, hsteps]

/-- An open proposal is known by its candidates and the active place. -/
theorem eq_of_index {o' : OpenProposal} (h : o.Consistent) (h' : o'.Consistent)
    (hslot : o.slot = o'.slot) (hcandidates : o.candidates = o'.candidates)
    (hindex : o.index = o'.index) : o = o' := by
  refine h.ext h' ?_
  cases ho : o.toProposal
  cases ho' : o'.toProposal
  simp_all

/-- There and back again. -/
theorem turned_turned (h : o.Consistent) (reverse : Bool) :
    (o.turned reverse).turned (!reverse) = o := by
  refine ((h.turned reverse).turned _).eq_of_index h rfl rfl (Int.natCast_inj.mp ?_)
  have hback : (o.index : Int) + turnStep reverse + turnStep (!reverse) = o.index := by
    cases reverse <;> simp [turnStep]
  rw [index_turned (h.turned reverse).pos, candidates_turned, index_turned h.pos,
    Int.emod_add_emod, hback, h.index_emod]

/-- A whole round is no turn at all. -/
theorem turns_length (h : o.Consistent) (reverse : Bool) :
    OpenProposal.turns reverse o.candidates.length o = o := by
  refine (h.turns reverse _).eq_of_index h (slot_turns _ _ _) (candidates_turns _ _ _)
    (Int.natCast_inj.mp ?_)
  rw [h.index_turns, Int.add_mul_emod_self_left, h.index_emod]

/-- The places of a whole round are all places, each once. -/
theorem perm_indices (h : o.Consistent) (reverse : Bool) :
    ((List.range o.candidates.length).map fun i =>
        (OpenProposal.turns reverse (i + 1) o).index).Perm (List.range o.candidates.length) := by
  refine (List.subperm_of_subset ?_ ?_).perm_of_length_le (by simp)
  · refine List.nodup_range.map_on fun i hi j hj hij => ?_
    rw [List.mem_range] at hi hj
    refine @eq_of_steps_eq _ _ _ hi hj o.index reverse ?_
    rw [← h.index_turns, ← h.index_turns, hij]
  · intro place hplace
    obtain ⟨i, -, rfl⟩ := List.mem_map.mp hplace
    have hlt := (h.turns reverse (i + 1)).index_lt
    rw [candidates_turns] at hlt
    exact List.mem_range.mpr hlt

end Consistent

end OpenProposal

namespace Completer

/-- Requests that repeat the line of the answer before, beginning with a given line; each may find
other things to complete. The answers, and what the completer keeps after them. -/
def again (reverse : Bool) :
    List CompletionSources → Completer → String → List Reply × Completer
  | [], completer, _ => ([], completer)
  | sources :: rest, completer, line =>
    let (reply, next) := completer.complete sources line reverse
    let (replies, last) := again reverse rest next reply.text
    (reply :: replies, last)

theorem again_lastLine {o : OpenProposal} (h : o.Consistent) (reverse : Bool)
    (sources : List CompletionSources) :
    again reverse sources (some o) o.lastLine =
      ((List.range sources.length).map fun i => (OpenProposal.turns reverse (i + 1) o).reply,
        some (OpenProposal.turns reverse sources.length o)) := by
  induction sources generalizing o with
  | nil => rfl
  | cons first rest ih =>
    have hline : (o.turned reverse).reply.text = (o.turned reverse).lastLine := rfl
    rw [again, complete_lastLine h]
    dsimp only
    rw [hline, ih (h.turned reverse), List.length_cons, List.range_succ_eq_map, List.map_cons,
      List.map_map]
    rfl

/-- **A round of requests comes back to its beginning**, and each candidate is proposed on the
way. -/
theorem again_round {o : OpenProposal} (h : o.Consistent) (reverse : Bool)
    {sources : List CompletionSources} (hround : sources.length = o.candidates.length) :
    ∃ replies, again reverse sources (some o) o.lastLine = (replies, some o) ∧
      (replies.map Reply.index?).Perm ((List.range o.candidates.length).map some) ∧
      (replies.map Reply.text).Perm (o.candidates.map o.slot.fill) ∧
      replies.getLast?.map Reply.text = some o.lastLine := by
  refine ⟨_, by rw [again_lastLine h, hround, h.turns_length], ?_, ?_, ?_⟩
  · have hperm := (h.perm_indices reverse).map some
    rw [List.map_map] at hperm ⊢
    exact hperm
  · -- The line of an answer is the slot filled with the candidate at its place.
    have hperm := (h.perm_indices reverse).map fun place =>
      o.slot.fill (o.candidates[place]?.getD ⟨"", false⟩)
    have hall : (List.range o.candidates.length).map
        (fun place => o.slot.fill (o.candidates[place]?.getD ⟨"", false⟩)) =
          o.candidates.map o.slot.fill := by
      refine List.ext_getElem (by simp) fun place hplace _ => ?_
      rw [List.length_map, List.length_range] at hplace
      simp [hplace]
    rw [List.map_map, hall] at hperm
    rw [List.map_map]
    refine (List.Perm.of_eq (List.map_congr_left fun i _ => ?_)).trans hperm
    have hline := (h.turns reverse (i + 1)).lastLine_eq
    rw [Proposal.text, Proposal.active, OpenProposal.slot_turns, OpenProposal.candidates_turns]
      at hline
    exact hline
  · obtain ⟨n, hn⟩ := Nat.exists_eq_succ_of_ne_zero (Nat.ne_of_gt h.pos)
    have hlast := h.turns_length reverse
    rw [hn] at hlast ⊢
    rw [List.range_succ, List.map_append, List.map_singleton, List.getLast?_concat, hlast]
    rfl

end Completer

/-! ## Runs -/

/-- What happens to the completion of a session: a request, a cancellation, or that everything but
the open proposal becomes as it is in another session. -/
inductive CompletionCall where
  | complete (line : String) (reverse : Bool)
  | cancel
  | change (other : Session)

/-- A session, a completer beside it that finds the same things to complete, and the last answer. -/
structure CompletionRun where
  session : Session
  completer : Completer
  latest? : Option Reply

namespace CompletionRun

/-- A session in which nothing was completed yet. -/
def ofSession (s : Session) : CompletionRun :=
  ⟨{ s with proposal? := none }, Completer.idle, none⟩

/-- The run after one more call. -/
def perform (r : CompletionRun) : CompletionCall → CompletionRun
  | .complete line reverse =>
    let (reply, completer) := r.completer.complete r.session.sources line reverse
    ⟨((Shell.complete line reverse).run r.session).2, completer, some reply⟩
  | .cancel => { r with
      session := (Shell.cancelCompletion.run r.session).2
      completer := r.completer.cancel }
  | .change other => { r with session := { other with proposal? := r.session.proposal? } }

/-- The run after several calls. -/
def after (r : CompletionRun) (calls : List CompletionCall) : CompletionRun :=
  calls.foldl perform r

/-- What every call keeps: the completer is consistent, the session has its proposal open, and the
line it remembers is that of the last answer. -/
structure InStep (r : CompletionRun) : Prop where
  consistent : r.completer.Consistent
  proposal_eq : r.session.proposal? = r.completer.proposal?
  latest_eq : ∀ o, r.completer = some o → r.latest?.map Reply.text = some o.lastLine

end CompletionRun

theorem Shell.run_complete (line : String) (reverse : Bool) (s : Session) :
    (Shell.complete line reverse).run s =
      (.ok (s.sources.complete s.proposal? line reverse),
        { s with proposal? := (s.sources.complete s.proposal? line reverse).proposal? }) := rfl

/-- An answer without two candidates leaves nothing open. -/
theorem Completer.idle_of_settled {completer : Completer} (h : completer.Consistent)
    {sources : CompletionSources} {line : String} {reverse : Bool}
    (hsettled : (completer.complete sources line reverse).1.noMatch = true ∨
      (completer.complete sources line reverse).1.candidates.length = 1) :
    (completer.complete sources line reverse).2 = idle := by
  cases hnext : (completer.complete sources line reverse).2 with
  | none => rfl
  | some o =>
    -- A proposal answers with a match, and with all its candidates.
    have hseveral := (h.complete sources line reverse o hnext).several
    rw [reply_of_open h hnext, OpenProposal.reply, List.length_map] at hsettled
    rcases hsettled with hnone | hone
    · exact nomatch hnone
    · exact absurd hseveral (by omega)

namespace CompletionRun

variable {r : CompletionRun}

theorem inStep_ofSession (s : Session) : (ofSession s).InStep where
  consistent := fun _ ho => nomatch ho
  proposal_eq := rfl
  latest_eq := fun _ ho => nomatch ho

theorem InStep.perform (h : r.InStep) (call : CompletionCall) : (r.perform call).InStep := by
  cases call with
  | complete line reverse =>
    refine ⟨h.consistent.complete _ line reverse, ?_, fun o ho => ?_⟩
    · have hproposal := Completer.proposal?_complete h.consistent r.session.sources line reverse
      rw [← h.proposal_eq] at hproposal
      exact hproposal.symm
    · exact congrArg (some ·.text) (Completer.reply_of_open h.consistent ho)
  | cancel => exact ⟨fun _ ho => (nomatch ho), rfl, fun _ ho => (nomatch ho)⟩
  | change other => exact ⟨h.consistent, h.proposal_eq, h.latest_eq⟩

theorem InStep.after (h : r.InStep) (calls : List CompletionCall) : (r.after calls).InStep := by
  induction calls generalizing r with
  | nil => exact h
  | cons call rest ih => exact ih (h.perform call)

/-- The laws of completion at some point of a run. -/
structure Lawful (r : CompletionRun) : Prop where
  /-- The session answers as the completer does, and has its proposal open. -/
  answers : r.session.proposal? = r.completer.proposal? ∧ ∀ line reverse, ∃ completion,
    ((Shell.complete line reverse).run r.session).1 = .ok completion ∧
      completion.reply = (r.completer.complete r.session.sources line reverse).1
  /-- What is proposed is one of several candidates, in the line that was answered last. -/
  proposes : ∀ o, r.completer = some o → 2 ≤ o.candidates.length ∧
    o.index < o.candidates.length ∧ o.lastLine = o.slot.fill o.active ∧
    r.latest?.map Reply.text = some o.lastLine
  /-- A request with that line moves the place by one, and nothing else. -/
  turns : ∀ o sources reverse, r.completer = some o → ∃ o',
    r.completer.complete sources o.lastLine reverse = (o'.reply, some o') ∧
      o'.slot = o.slot ∧ o'.candidates = o.candidates ∧
      (o'.index : Int) = (o.index + turnStep reverse) % o.candidates.length
  /-- As many such requests as there are candidates propose each of them once and come back. -/
  rounds : ∀ o sources reverse, r.completer = some o → sources.length = o.candidates.length →
    ∃ replies, Completer.again reverse sources r.completer o.lastLine = (replies, r.completer) ∧
      (replies.map Reply.index?).Perm ((List.range o.candidates.length).map some) ∧
      (replies.map Reply.text).Perm (o.candidates.map o.slot.fill) ∧
      replies.getLast?.map Reply.text = some o.lastLine
  /-- A step in one direction is undone by one in the other. -/
  undone : ∀ o sources sources' reverse, r.completer = some o → ∃ o',
    r.completer.complete sources o.lastLine reverse = (o'.reply, some o') ∧
      Completer.complete (some o') sources' o'.reply.text (!reverse) = (o.reply, r.completer)
  /-- Any other request is answered as if nothing had been proposed, and so is every request after a
  cancellation. -/
  afresh : ∀ sources line reverse,
    ((∀ o, r.completer = some o → line ≠ o.lastLine) →
      r.completer.complete sources line reverse = Completer.idle.complete sources line reverse) ∧
    r.completer.cancel.complete sources line reverse = Completer.idle.complete sources line reverse
  /-- Nothing is left open where nothing fits or a single name does. -/
  settles : ∀ sources line reverse,
    (r.completer.complete sources line reverse).1.noMatch = true ∨
        (r.completer.complete sources line reverse).1.candidates.length = 1 →
      (r.completer.complete sources line reverse).2 = Completer.idle

theorem InStep.lawful (h : r.InStep) : r.Lawful where
  answers := by
    refine ⟨h.proposal_eq, fun line reverse => ⟨_, by rw [Shell.run_complete], ?_⟩⟩
    rw [h.proposal_eq]
    exact (Completer.reply_complete h.consistent r.session.sources line reverse).symm
  proposes := fun o ho =>
    have hconsistent := h.consistent o ho
    ⟨hconsistent.several, hconsistent.index_lt, hconsistent.lastLine_eq, h.latest_eq o ho⟩
  turns := fun o sources reverse ho => by
    have hconsistent := h.consistent o ho
    rw [ho]
    exact ⟨o.turned reverse, Completer.complete_lastLine hconsistent sources reverse, rfl, rfl,
      OpenProposal.index_turned hconsistent.pos reverse⟩
  rounds := fun o sources reverse ho hround => by
    rw [ho]
    exact Completer.again_round (h.consistent o ho) reverse hround
  undone := fun o sources sources' reverse ho => by
    have hconsistent := h.consistent o ho
    have hback := Completer.complete_lastLine (hconsistent.turned reverse) sources' (!reverse)
    rw [hconsistent.turned_turned] at hback
    rw [ho]
    exact ⟨o.turned reverse, Completer.complete_lastLine hconsistent sources reverse, hback⟩
  afresh := fun sources line reverse =>
    ⟨fun hother => Completer.complete_of_ne hother sources reverse, rfl⟩
  settles := fun sources line reverse hsettled =>
    Completer.idle_of_settled h.consistent hsettled

/-- **However completion is used, its laws hold at every point.** -/
theorem lawful_after (s : Session) (calls : List CompletionCall) :
    ((ofSession s).after calls).Lawful :=
  ((inStep_ofSession s).after calls).lawful

end CompletionRun

end TreeShell
