import TreeShell.SearchPath
import TreeShell.Words.Quoting

/-!
# Completion

A request completes the last word of a line: the command word from the names of commands, any other
word, and a command word that begins with `./`, from the entries of a folder. What fits goes in the
place of the word.

When more than one name fits, a *proposal* stays open: the candidates, the active one, and how the
line is put together. A further request with the very line that was proposed turns to the next
candidate, or to the one before; any other request starts afresh. So the state of the completion is
the open proposal, and `complete` is a function of it, of what can be completed, and of the request.
-/

set_option autoImplicit false

namespace TreeShell

/-- What a request completes. -/
inductive CompletionKind where
  | command
  | path
deriving DecidableEq, Repr

/-- A name that fits. -/
structure Candidate where
  name : String
  isFolder : Bool
deriving DecidableEq, Repr

/-- A candidate as it is shown and written: a folder with a separator after its name. -/
def Candidate.shown (candidate : Candidate) : String :=
  candidate.name ++ if candidate.isFolder then "/" else ""

/-- Where a candidate goes: it is the whole line, with a blank after it; or it goes between two
parts of the line, in a folder as it was written, in quotes of a kind where it needs any. -/
inductive Slot where
  | command
  | path (before after folder : String) (quote : Quote)
deriving DecidableEq, Repr

namespace Slot

/-- What goes into a slot. -/
def kind : Slot → CompletionKind
  | command => .command
  | path .. => .path

/-- The line with a candidate in the slot. -/
def fill : Slot → Candidate → String
  | command, candidate => candidate.name ++ " "
  | path before after folder quote, candidate =>
    before ++ quoteWord (folder ++ candidate.shown) quote ++ after

end Slot

/-- Candidates for a slot, one of which is active. -/
structure Proposal where
  slot : Slot
  candidates : List Candidate
  index : Nat
deriving DecidableEq, Repr

namespace Proposal

/-- The active candidate. -/
def active (proposal : Proposal) : Candidate :=
  proposal.candidates[proposal.index]?.getD ⟨"", false⟩

/-- The line that is proposed. -/
def text (proposal : Proposal) : String :=
  proposal.slot.fill proposal.active

/-- The proposal with the next candidate active, or the one before; the ends meet. -/
def turn (proposal : Proposal) (reverse : Bool) : Proposal :=
  let size := proposal.candidates.length
  let next := if reverse then proposal.index + size - 1 else proposal.index + 1
  { proposal with index := next % size }

end Proposal

/-- What a request comes to. -/
inductive Completion where
  /-- Nothing fits, and the line stays. -/
  | nothing (kind : CompletionKind) (line : String)
  /-- One name fits. -/
  | single (slot : Slot) (candidate : Candidate)
  /-- Several names fit, and one of them is proposed. -/
  | several (proposal : Proposal)
deriving DecidableEq, Repr

namespace Completion

/-- What was completed. -/
def kind : Completion → CompletionKind
  | nothing kind _ => kind
  | single slot _ => slot.kind
  | several proposal => proposal.slot.kind

/-- The line after the request. -/
def text : Completion → String
  | nothing _ line => line
  | single slot candidate => slot.fill candidate
  | several proposal => proposal.text

/-- The candidates as they are shown. -/
def candidates : Completion → List String
  | nothing .. => []
  | single _ candidate => [candidate.shown]
  | several proposal => proposal.candidates.map Candidate.shown

/-- The place of the active candidate. -/
def index? : Completion → Option Nat
  | nothing .. => none
  | single .. => some 0
  | several proposal => some proposal.index

/-- The proposal that stays open. -/
def proposal? : Completion → Option Proposal
  | several proposal => some proposal
  | _ => none

/-- The completion for the candidates of a slot. -/
def ofCandidates (line : String) (slot : Slot) : List Candidate → Completion
  | [] => nothing slot.kind line
  | [candidate] => single slot candidate
  | candidates => several ⟨slot, candidates, 0⟩

end Completion

/-- What can be completed: the names of commands, and the entries of the file system. -/
structure CompletionSources where
  commands : List String
  snapshot : Snapshot
deriving Repr

namespace CompletionSources

/-- The completion of a command word. -/
def completeCommand (sources : CompletionSources) (line word : String) : Completion :=
  let names := (Text.sorted sources.commands).eraseDups
  .ofCandidates line .command ((names.filter (Text.startsWith · word)).map (⟨·, false⟩))

/-- A word as the folder that is written in it, with its separator, and the rest. -/
def splitWord (word : String) : String × String :=
  let name := (word.toList.reverse.takeWhile (· ≠ '/')).length
  (Text.dropLast name word, Text.dropFirst (word.length - name) word)

/-- The folder to look into for a folder as it is written in a word. -/
def folderToList (written : String) : String :=
  if written = "" then "." else if written = "/" then "/" else Text.dropLast 1 written

/-- The entries of a folder whose names begin as given, in the order of their names. -/
def entriesOf (listing : Listing) (start : String) : List Candidate :=
  let all := listing.entries.map fun entry => Candidate.mk entry.1 (entry.2 == .folder)
  (all.filter (Text.startsWith ·.name start)).mergeSort fun a b => !decide (b.name < a.name)

/-- The completion of a word as a path. -/
def completePath (sources : CompletionSources) (line : String) (word : CurrentWord) : Completion :=
  let (folder, start) := splitWord word.value
  match sources.snapshot.list (folderToList folder) with
  | .error _ => .nothing .path line
  | .ok listing =>
    .ofCandidates line
      (.path (Text.firstPart word.start line) (Text.dropFirst word.stop line) folder
        (word.quote?.getD .double))
      (entriesOf listing start)

/-- The completion of a line with no proposal open. -/
def completeAfresh (sources : CompletionSources) (line : String) : Completion :=
  let word := currentWord line
  if word.position = 0 && !Text.startsWith word.value "./" then
    sources.completeCommand line word.value
  else sources.completePath line word

/-- The completion of a line, when a proposal may be open. -/
def complete (sources : CompletionSources) (proposal? : Option Proposal) (line : String)
    (reverse : Bool) : Completion :=
  match proposal? with
  | none => sources.completeAfresh line
  | some proposal =>
    if line = proposal.text then .several (proposal.turn reverse) else sources.completeAfresh line

end CompletionSources

/-- A completion leaves a proposal open only with two candidates or more. -/
theorem Completion.two_le_of_ofCandidates {line : String} {slot : Slot}
    {candidates : List Candidate} {proposal : Proposal}
    (h : (Completion.ofCandidates line slot candidates).proposal? = some proposal) :
    2 ≤ proposal.candidates.length ∧ proposal.index = 0 := by
  match candidates, h with
  | [], h => simp [ofCandidates, proposal?] at h
  | [_], h => simp [ofCandidates, proposal?] at h
  | _ :: _ :: _, h =>
    simp only [ofCandidates, proposal?, Option.some.injEq] at h
    subst h
    simp

end TreeShell
