import TreeShell.Completion.Basic

/-!
# What requests offer

A request finds a slot and candidates for it, and from then on only the active candidate changes:
turning a proposal keeps its slot and its list (`Offers.turn`). So whatever a line is completed to,
at once or after any number of turns in either direction, is the line with one of the candidates
that fitted at first in the slot that was found at first (`Turned.offers`). What is to be said about
all of them can be said about the candidates of one list.
-/

set_option autoImplicit false

namespace TreeShell

/-- The active candidate as it is shown. -/
def Completion.shown? (completion : Completion) : Option String :=
  completion.index?.bind (completion.candidates[·]?)

/-- A completion that offers some candidates for a slot. -/
inductive Completion.Offers (slot : Slot) : List Candidate → Completion → Prop
  | single {candidate : Candidate} : Offers slot [candidate] (.single slot candidate)
  | several {candidates : List Candidate} {index : Nat} (h : index < candidates.length) :
      Offers slot candidates (.several ⟨slot, candidates, index⟩)

/-- What requests with a line come to: the first one, with no proposal open, and each later one that
turns the proposal which the one before left open. -/
inductive CompletionSources.Turned (sources : CompletionSources) (line : String) :
    Completion → Prop
  | first (reverse : Bool) : Turned sources line (sources.complete none line reverse)
  | again {proposal : Proposal} (h : Turned sources line (.several proposal)) (reverse : Bool) :
      Turned sources line (sources.complete (some proposal) proposal.text reverse)

namespace Completion

variable {line : String} {slot : Slot} {candidates : List Candidate} {completion : Completion}

theorem candidates_ne_nil_of_shown? {shown : String} (h : completion.shown? = some shown) :
    completion.candidates ≠ [] := by
  intro hnone
  obtain ⟨index, -, hindex⟩ := Option.bind_eq_some_iff.mp h
  rw [hnone] at hindex
  exact nomatch hindex

theorem offers_ofCandidates (line : String) (slot : Slot) (h : candidates ≠ []) :
    Offers slot candidates (ofCandidates line slot candidates) := by
  match candidates, h with
  | [_], _ => exact .single
  | _ :: _ :: _, _ => exact .several (Nat.succ_pos _)

namespace Offers

theorem ne_nil (h : Offers slot candidates completion) : candidates ≠ [] := by
  cases h with
  | single => exact List.cons_ne_nil _ _
  | several hindex => exact List.ne_nil_of_length_pos (Nat.zero_lt_of_lt hindex)

theorem kind_eq (h : Offers slot candidates completion) : completion.kind = slot.kind := by
  cases h <;> rfl

theorem candidates_eq (h : Offers slot candidates completion) :
    completion.candidates = candidates.map Candidate.shown := by
  cases h <;> rfl

theorem candidates_ne_nil (h : Offers slot candidates completion) : completion.candidates ≠ [] := by
  rw [h.candidates_eq]
  exact fun hnil => h.ne_nil (List.map_eq_nil_iff.mp hnil)

/-- The line is the slot with the active candidate in it. -/
theorem active (h : Offers slot candidates completion) :
    ∃ candidate ∈ candidates,
      completion.text = slot.fill candidate ∧ completion.shown? = some candidate.shown := by
  cases h with
  | single => exact ⟨_, List.mem_singleton_self _, rfl, rfl⟩
  | several hindex =>
    refine ⟨_, List.getElem_mem hindex, ?_, ?_⟩
    · simp [text, Proposal.text, Proposal.active, List.getElem?_eq_getElem hindex]
    · simp [shown?, index?, Completion.candidates, List.getElem?_eq_getElem hindex]

/-- To turn a proposal is to make another of its candidates the active one. -/
theorem turn {proposal : Proposal} (h : Offers slot candidates (.several proposal))
    (reverse : Bool) : Offers slot candidates (.several (proposal.turn reverse)) := by
  cases h with
  | several hindex => exact .several (Nat.mod_lt _ (Nat.zero_lt_of_lt hindex))

end Offers

end Completion

namespace CompletionSources

variable {sources : CompletionSources} {line : String} {completion : Completion}

theorem complete_text (sources : CompletionSources) (proposal : Proposal) (reverse : Bool) :
    sources.complete (some proposal) proposal.text reverse = .several (proposal.turn reverse) :=
  if_pos rfl

/-- Where nothing fits there is nothing to turn. -/
theorem Turned.eq_nothing {kind : CompletionKind}
    (hfirst : sources.completeAfresh line = .nothing kind line)
    (h : Turned sources line completion) : completion = .nothing kind line := by
  induction h with
  | first reverse => exact hfirst
  | again _ reverse ih => exact nomatch ih

/-- **Every turn offers what the first request found.** -/
theorem Turned.offers {slot : Slot} {candidates : List Candidate}
    (hfirst : sources.completeAfresh line = .ofCandidates line slot candidates)
    (h : Turned sources line completion) (hsome : completion.candidates ≠ []) :
    completion.Offers slot candidates := by
  by_cases hnone : candidates = []
  · subst hnone
    rw [h.eq_nothing hfirst] at hsome
    exact absurd rfl hsome
  · clear hsome
    induction h with
    | first reverse =>
      rw [complete, hfirst]
      exact Completion.offers_ofCandidates line slot hnone
    | again _ reverse ih =>
      rw [complete_text]
      exact ih.turn reverse

end CompletionSources

end TreeShell
