import TreeShell.Proofs.Completion.Turning

/-!
# A completer that remembers its line

`CompletionSources.complete` is a function of the open proposal, and it tells a request to turn the
proposal by comparing its line with the one that the proposal comes to at that moment. A completer
does not work the line out again. It keeps the line it produced last beside the candidates, compares
requests with that, and has to write it anew at each turn. Here it is in that form, and this is what
it has to keep (`OpenProposal.Consistent`): there are two candidates or more, the active one is one
of them, and the line it remembers is the one that proposes it.

A completer that keeps this answers as `CompletionSources.complete` does and has the same proposal
open afterwards (`Completer.reply_complete`, `Completer.proposal?_complete`).
-/

set_option autoImplicit false

namespace TreeShell

/-- An open proposal, and the line that was produced last. -/
structure OpenProposal extends Proposal where
  lastLine : String

/-- A completer proposes candidates, or is idle (none). -/
abbrev Completer := Option OpenProposal

/-- The answer to a request: the line, the candidates as they are shown, the place of the active
one, whether nothing fits, and what was completed. -/
structure Reply where
  text : String
  candidates : List String
  index? : Option Nat
  noMatch : Bool
  kind : CompletionKind
deriving DecidableEq, Repr

/-- What a completion is as an answer. -/
def Completion.reply (completion : Completion) : Reply where
  text := completion.text
  candidates := completion.candidates
  index? := completion.index?
  noMatch := match completion with
    | nothing .. => true
    | _ => false
  kind := completion.kind

/-- Forwards or backwards along the candidates. -/
def turnStep (reverse : Bool) : Int :=
  if reverse then -1 else 1

namespace OpenProposal

/-- A proposal that is opened. -/
def ofProposal (proposal : Proposal) : OpenProposal :=
  ⟨proposal, proposal.text⟩

/-- The proposal with the next or the previous candidate active, and its line. -/
def turned (o : OpenProposal) (reverse : Bool) : OpenProposal :=
  .ofProposal { o.toProposal with
    index := ((o.index + turnStep reverse) % o.candidates.length).toNat }

/-- The answer that proposes the active candidate. -/
def reply (o : OpenProposal) : Reply :=
  ⟨o.lastLine, o.candidates.map Candidate.shown, some o.index, false, o.slot.kind⟩

/-- What holds of a proposal as long as it is open. -/
structure Consistent (o : OpenProposal) : Prop where
  several : 2 ≤ o.candidates.length
  index_lt : o.index < o.candidates.length
  lastLine_eq : o.lastLine = o.text

end OpenProposal

namespace Completer

/-- A completer with no proposal open. -/
def idle : Completer := none

/-- A request with no proposal open. -/
def afresh (sources : CompletionSources) (line : String) : Reply × Completer :=
  match sources.completeAfresh line with
  | .several proposal => ((OpenProposal.ofProposal proposal).reply, some (.ofProposal proposal))
  | completion => (completion.reply, idle)

/-- A request: one with the line that was produced last turns the proposal. -/
def complete (completer : Completer) (sources : CompletionSources) (line : String)
    (reverse : Bool) : Reply × Completer :=
  match completer with
  | none => afresh sources line
  | some o =>
    if 1 < o.candidates.length ∧ line = o.lastLine then
      ((o.turned reverse).reply, some (o.turned reverse))
    else afresh sources line

/-- Drops the open proposal. -/
def cancel (_ : Completer) : Completer := idle

/-- What a completer keeps is consistent. -/
def Consistent (completer : Completer) : Prop :=
  ∀ o, completer = some o → o.Consistent

/-- The open proposal without the line. -/
def proposal? (completer : Completer) : Option Proposal :=
  completer.map OpenProposal.toProposal

end Completer

/-! ## Turning -/

namespace OpenProposal

variable {o : OpenProposal}

@[simp]
theorem candidates_turned (o : OpenProposal) (reverse : Bool) :
    (o.turned reverse).candidates = o.candidates := rfl

@[simp]
theorem slot_turned (o : OpenProposal) (reverse : Bool) : (o.turned reverse).slot = o.slot := rfl

/-- Places are counted round, so that before the first comes the last. -/
theorem index_turned (h : 0 < o.candidates.length) (reverse : Bool) :
    ((o.turned reverse).index : Int) = (o.index + turnStep reverse) % o.candidates.length :=
  Int.toNat_of_nonneg (Int.emod_nonneg _ (by omega))

theorem index_turned_lt (h : 0 < o.candidates.length) (reverse : Bool) :
    (o.turned reverse).index < o.candidates.length := by
  have hlt : ((o.turned reverse).index : Int) < o.candidates.length := by
    rw [index_turned h]
    exact Int.emod_lt_of_pos _ (by omega)
  exact_mod_cast hlt

namespace Consistent

theorem pos (h : o.Consistent) : 0 < o.candidates.length :=
  Nat.lt_of_lt_of_le Nat.zero_lt_two h.several

/-- A turn writes the line anew. -/
theorem turned (h : o.Consistent) (reverse : Bool) : (o.turned reverse).Consistent where
  several := h.several
  index_lt := index_turned_lt h.pos reverse
  lastLine_eq := rfl

/-- The line of an open proposal is all there is to add to it. -/
theorem ext {o' : OpenProposal} (h : o.Consistent) (h' : o'.Consistent)
    (hproposal : o.toProposal = o'.toProposal) : o = o' := by
  have hline : o.lastLine = o'.lastLine := by
    rw [h.lastLine_eq, h'.lastLine_eq, hproposal]
  cases o
  cases o'
  simp only at hproposal hline
  rw [hproposal, hline]

theorem toProposal_turned (h : o.Consistent) (reverse : Bool) :
    (o.turned reverse).toProposal = o.toProposal.turn reverse := by
  have hindex : (o.turned reverse).index = (o.toProposal.turn reverse).index := by
    have hturned := index_turned h.pos reverse
    apply Int.natCast_inj.mp
    rw [hturned, Proposal.turn]
    cases reverse with
    | false => simp [turnStep]
    | true =>
      -- One step back is all the way round but one step.
      have hround : ((o.index + o.candidates.length - 1 : Nat) : Int) =
          o.index + -1 + o.candidates.length := by
        have hpos := h.pos
        omega
      simp [turnStep, hround]
  rw [OpenProposal.turned, ofProposal, Proposal.turn] at hindex ⊢
  simp only at hindex ⊢
  rw [hindex]

end Consistent

theorem consistent_ofProposal {proposal : Proposal} (hseveral : 2 ≤ proposal.candidates.length)
    (hindex : proposal.index = 0) : (ofProposal proposal).Consistent where
  several := hseveral
  index_lt := Nat.lt_of_lt_of_le (hindex ▸ Nat.zero_lt_two) hseveral
  lastLine_eq := rfl

end OpenProposal

/-! ## In step with completion -/

namespace CompletionSources

/-- Whatever a line completes to with no proposal open is put together from the candidates of one
slot. -/
theorem exists_completeAfresh (sources : CompletionSources) (line : String) :
    ∃ slot candidates, sources.completeAfresh line = .ofCandidates line slot candidates := by
  unfold completeAfresh
  dsimp only
  split
  · exact ⟨_, _, rfl⟩
  · unfold completePath
    dsimp only
    split
    · exact ⟨.path "" "" "" .double, [], rfl⟩
    · exact ⟨_, _, rfl⟩

/-- A proposal is opened at its first candidate, with others after it. -/
theorem several_of_completeAfresh {sources : CompletionSources} {line : String}
    {proposal : Proposal} (h : sources.completeAfresh line = .several proposal) :
    2 ≤ proposal.candidates.length ∧ proposal.index = 0 := by
  obtain ⟨slot, candidates, hfirst⟩ := sources.exists_completeAfresh line
  rw [hfirst] at h
  exact Completion.two_le_of_ofCandidates (congrArg Completion.proposal? h)

end CompletionSources

namespace Completer

variable {completer : Completer}

theorem reply_afresh (sources : CompletionSources) (line : String) :
    (afresh sources line).1 = (sources.completeAfresh line).reply := by
  unfold afresh
  cases sources.completeAfresh line <;> rfl

theorem proposal?_afresh (sources : CompletionSources) (line : String) :
    (afresh sources line).2.proposal? = (sources.completeAfresh line).proposal? := by
  unfold afresh
  cases sources.completeAfresh line <;> rfl

theorem consistent_afresh (sources : CompletionSources) (line : String) :
    (afresh sources line).2.Consistent := by
  intro o ho
  unfold afresh at ho
  cases hfirst : sources.completeAfresh line with
  | nothing kind line => rw [hfirst] at ho; exact nomatch ho
  | single slot candidate => rw [hfirst] at ho; exact nomatch ho
  | several proposal =>
    rw [hfirst] at ho
    obtain ⟨hseveral, hindex⟩ := CompletionSources.several_of_completeAfresh hfirst
    cases ho
    exact OpenProposal.consistent_ofProposal hseveral hindex

/-- The line that was produced last turns the proposal, whatever there is to complete by now. -/
theorem complete_lastLine {o : OpenProposal} (h : o.Consistent) (sources : CompletionSources)
    (reverse : Bool) :
    complete (some o) sources o.lastLine reverse =
      ((o.turned reverse).reply, some (o.turned reverse)) :=
  if_pos ⟨h.several, rfl⟩

theorem complete_of_ne {line : String} (h : ∀ o, completer = some o → line ≠ o.lastLine)
    (sources : CompletionSources) (reverse : Bool) :
    completer.complete sources line reverse = afresh sources line := by
  cases completer with
  | none => rfl
  | some o => exact if_neg fun hturn => h o rfl hturn.2

/-- A request comes to one of the two. -/
theorem complete_cases (h : completer.Consistent) (line : String) :
    (∃ o, completer = some o ∧ o.Consistent ∧ line = o.lastLine) ∨
      ∀ o, completer = some o → line ≠ o.lastLine := by
  by_cases hline : ∃ o, completer = some o ∧ line = o.lastLine
  · obtain ⟨o, ho, hline⟩ := hline
    exact Or.inl ⟨o, ho, h o ho, hline⟩
  · exact Or.inr fun o ho heq => hline ⟨o, ho, heq⟩

theorem Consistent.complete (h : completer.Consistent) (sources : CompletionSources)
    (line : String) (reverse : Bool) : (completer.complete sources line reverse).2.Consistent := by
  rcases complete_cases h line with ⟨o, rfl, ho, rfl⟩ | hother
  · rw [complete_lastLine ho]
    intro o' ho'
    cases ho'
    exact ho.turned reverse
  · rw [complete_of_ne hother]
    exact consistent_afresh sources line

theorem reply_of_open_afresh {sources : CompletionSources} {line : String} {o : OpenProposal}
    (h : (afresh sources line).2 = some o) : (afresh sources line).1 = o.reply := by
  unfold afresh at h ⊢
  cases hfirst : sources.completeAfresh line with
  | nothing kind line => rw [hfirst] at h; exact nomatch h
  | single slot candidate => rw [hfirst] at h; exact nomatch h
  | several proposal => rw [hfirst] at h; cases h; rfl

/-- A proposal that is open after a request is what the request was answered with. -/
theorem reply_of_open (h : completer.Consistent) {sources : CompletionSources} {line : String}
    {reverse : Bool} {o : OpenProposal}
    (hopen : (completer.complete sources line reverse).2 = some o) :
    (completer.complete sources line reverse).1 = o.reply := by
  rcases complete_cases h line with ⟨o', rfl, ho', rfl⟩ | hother
  · rw [complete_lastLine ho'] at hopen ⊢
    cases hopen
    rfl
  · rw [complete_of_ne hother] at hopen ⊢
    exact reply_of_open_afresh hopen

/-- A request that does not turn the proposal is completed with none open. -/
theorem completeAfresh_of_ne (h : completer.Consistent) {line : String}
    (hline : ∀ o, completer = some o → line ≠ o.lastLine) (sources : CompletionSources)
    (reverse : Bool) :
    sources.complete completer.proposal? line reverse = sources.completeAfresh line := by
  cases completer with
  | none => rfl
  | some o =>
    have hother : ¬ line = o.toProposal.text := by
      rw [← (h o rfl).lastLine_eq]
      exact hline o rfl
    exact if_neg hother

theorem complete_turned {o : OpenProposal} (h : o.Consistent) (sources : CompletionSources)
    (reverse : Bool) :
    sources.complete (Completer.proposal? (some o)) o.lastLine reverse =
      .several (o.turned reverse).toProposal := by
  rw [h.toProposal_turned, h.lastLine_eq]
  exact sources.complete_text o.toProposal reverse

theorem reply_complete (h : completer.Consistent) (sources : CompletionSources) (line : String)
    (reverse : Bool) :
    (completer.complete sources line reverse).1 =
      (sources.complete completer.proposal? line reverse).reply := by
  rcases complete_cases h line with ⟨o, rfl, ho, rfl⟩ | hother
  · rw [complete_lastLine ho, complete_turned ho]
    rfl
  · rw [complete_of_ne hother, reply_afresh, completeAfresh_of_ne h hother]

theorem proposal?_complete (h : completer.Consistent) (sources : CompletionSources)
    (line : String) (reverse : Bool) :
    (completer.complete sources line reverse).2.proposal? =
      (sources.complete completer.proposal? line reverse).proposal? := by
  rcases complete_cases h line with ⟨o, rfl, ho, rfl⟩ | hother
  · rw [complete_lastLine ho, complete_turned ho]
    rfl
  · rw [complete_of_ne hother, proposal?_afresh, completeAfresh_of_ne h hother]

end Completer

end TreeShell
