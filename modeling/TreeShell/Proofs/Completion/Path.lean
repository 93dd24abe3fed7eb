import TreeShell.Proofs.Completion.Turning
import TreeShell.Proofs.Path.Resolution
import TreeShell.Proofs.PathMap.Refinement
import TreeShell.Proofs.Words.Quoting

/-!
# Completing a path

A word is completed as a path by listing the folder written in it and putting the name of an entry
in the place of what comes after the last separator. Three things have to fit together for the
result to be a path to that entry. The folder that is listed has to be the one the word goes on
from (`resolve_folder_append`), the candidates have to be its entries (`mem_entriesOf`), and the
word that is put together has to be read back as it was meant, with the words before it as they
were (`tokenize_append_quoteWord`).

The last holds where the line is cut at the word under completion. That is so unless the line ends
inside a word, in a blank that is quoted or escaped: there the line counts as finished, and the new
word is glued to the end of the open one (`completed_inside_quotes`).
-/

set_option autoImplicit false

namespace TreeShell

namespace CompletionSources

/-! ## The folder written in a word -/

theorem toList_splitWord_folder (word : String) :
    (splitWord word).1.toList = (word.toList.reverse.dropWhile (· ≠ '/')).reverse := by
  have hcut : word.toList =
      (word.toList.reverse.dropWhile (· ≠ '/')).reverse ++
        (word.toList.reverse.takeWhile (· ≠ '/')).reverse := by
    rw [← List.reverse_append, List.takeWhile_append_dropWhile, List.reverse_reverse]
  have hlength : word.length - (word.toList.reverse.takeWhile (· ≠ '/')).length =
      (word.toList.reverse.dropWhile (· ≠ '/')).reverse.length := by
    have htotal := congrArg List.length hcut
    rw [List.length_append, List.length_reverse, List.length_reverse] at htotal
    rw [← String.length_toList, List.length_reverse]
    omega
  simp only [splitWord, Text.dropLast, String.toList_ofList, hlength]
  exact (congrArg (List.take _) hcut).trans List.take_left

/-- What is written before the name in a word is nothing or ends in a separator. -/
theorem splitWord_folder (word : String) :
    (splitWord word).1 = "" ∨ ∃ path, (splitWord word).1 = path ++ "/" := by
  have hfolder := toList_splitWord_folder word
  cases hrest : word.toList.reverse.dropWhile (· ≠ '/') with
  | nil =>
    rw [hrest] at hfolder
    exact Or.inl (String.toList_eq_nil_iff.mp hfolder)
  | cons c rest =>
    have hc : c = '/' := by
      have hstop := List.head?_dropWhile_not (p := (· ≠ '/')) word.toList.reverse
      rw [hrest] at hstop
      simpa using hstop
    rw [hrest, List.reverse_cons, hc] at hfolder
    exact Or.inr ⟨.ofList rest.reverse, String.toList_inj.mp (by simp [hfolder])⟩

theorem folderToList_concat {path : String} (h : path ≠ "") : folderToList (path ++ "/") = path := by
  have hempty : path ++ "/" ≠ "" := by simp
  have hroot : path ++ "/" ≠ "/" := by simpa using h
  rw [folderToList, if_neg hempty, if_neg hroot]
  apply String.toList_inj.mp
  have hlength : (path ++ "/").length - 1 = path.toList.length := by
    rw [String.length_append, String.length_toList]
    rfl
  rw [Text.dropLast, String.toList_ofList, hlength, String.toList_append]
  exact List.take_left

/-- The folder that is listed is where the written folder leads, so that a name written after it is
the name of an entry there. -/
theorem resolve_folder_append {folder name : String}
    (hfolder : folder = "" ∨ ∃ path, folder = path ++ "/") (hname : Path.IsName name)
    (cwd : List String) :
    Path.resolve cwd (folder ++ name) = Path.resolve cwd (folderToList folder) ++ [name] := by
  rcases hfolder with rfl | ⟨path, rfl⟩
  · rw [String.empty_append]
    exact Path.resolve_name hname cwd
  · by_cases hpath : path = ""
    · subst hpath
      exact Path.resolve_root_child hname cwd
    · rw [folderToList_concat hpath, Path.resolve_child hpath hname]

/-! ## The entries of the folder -/

theorem mem_entriesOf {listing : Listing} {start : String} {candidate : Candidate}
    (h : candidate ∈ entriesOf listing start) :
    (candidate.name ∈ listing.folders ∧ candidate.isFolder = true) ∨
      (candidate.name ∈ listing.files ∧ candidate.isFolder = false) := by
  rw [entriesOf, List.mem_mergeSort] at h
  obtain ⟨⟨name, kind⟩, hentry, rfl⟩ := List.mem_map.mp (List.mem_filter.mp h).1
  rw [Listing.entries, List.mem_append] at hentry
  rcases hentry with hentry | hentry
  · obtain ⟨folder, hfolder, heq⟩ := List.mem_map.mp hentry
    cases heq
    exact Or.inl ⟨hfolder, rfl⟩
  · obtain ⟨file, hfile, heq⟩ := List.mem_map.mp hentry
    cases heq
    exact Or.inr ⟨hfile, rfl⟩

end CompletionSources

namespace Snapshot

open CompletionSources

variable {s : Snapshot} {path start : String} {listing : Listing} {candidate : Candidate}

/-- A candidate is the name of an entry, which is a folder if the candidate says so. -/
theorem entry_of_candidate (hs : s.WellFormed) (hlist : s.list path = .ok listing)
    (h : candidate ∈ entriesOf listing start) :
    Path.IsName candidate.name ∧ s.paths.entry? (s.resolve path ++ [candidate.name]) ≠ none ∧
      (s.paths.entry? (s.resolve path ++ [candidate.name]) = some .folder ↔
        candidate.isFolder = true) := by
  have hlists := lists_of_list hs hlist
  rcases mem_entriesOf h with ⟨hname, hfolder⟩ | ⟨hname, hfile⟩
  · have hentry := (hlists.mem_folders _).mp hname
    exact ⟨hs.isName_of_list hlist (Or.inl hname), by simp [hentry], by simp [hentry, hfolder]⟩
  · obtain ⟨content, hentry⟩ := (hlists.mem_files _).mp hname
    exact ⟨hs.isName_of_list hlist (Or.inr hname), by simp [hentry], by simp [hentry, hfile]⟩

/-- What is written for a candidate leads to its entry; the separator after a folder does no
harm. -/
theorem resolve_folder_append_shown {folder : String}
    (hfolder : folder = "" ∨ ∃ path, folder = path ++ "/") (hname : Path.IsName candidate.name) :
    s.resolve (folder ++ candidate.shown) = s.resolve (folderToList folder) ++ [candidate.name] := by
  have hne : folder ++ candidate.name ≠ "" := fun h => hname.1 (String.append_eq_empty_iff.mp h).2
  unfold resolve Candidate.shown
  rw [← resolve_folder_append hfolder hname, ← String.append_assoc]
  split
  · exact Path.resolve_append_sep hne s.cwd
  · rw [String.append_empty]

end Snapshot

theorem Candidate.endsIn_shown {candidate : Candidate} (h : Path.IsName candidate.name) :
    Text.endsIn candidate.shown "/" = true ↔ candidate.isFolder = true := by
  unfold shown
  cases candidate.isFolder with
  | true => simp [Text.endsIn_append]
  | false =>
    have hname : ¬ Text.endsIn candidate.name "/" = true := fun hends =>
      h.2.1 ((List.isSuffixOf_iff_suffix.mp hends).subset (List.mem_singleton_self '/'))
    simpa using hname

namespace CompletionSources

variable {sources : CompletionSources} {line : String} {completion : Completion}

/-- A path completion that offers anything offers entries of the folder in its word. -/
theorem Turned.offers_entries (h : Turned sources line completion)
    (hkind : completion.kind = .path) (hsome : completion.candidates ≠ []) :
    ∃ folder start listing quote, (folder = "" ∨ ∃ path, folder = path ++ "/") ∧
      sources.snapshot.list (folderToList folder) = .ok listing ∧
      completion.Offers
        (.path (Text.firstPart (currentWord line).start line)
          (Text.dropFirst (currentWord line).stop line) folder quote)
        (entriesOf listing start) := by
  by_cases hcommand : ((currentWord line).position = 0 &&
      !Text.startsWith (currentWord line).value "./") = true
  · have hfirst : sources.completeAfresh line =
        sources.completeCommand line (currentWord line).value := if_pos hcommand
    exact nomatch hkind.symm.trans (h.offers hfirst hsome).kind_eq
  · have hfirst : sources.completeAfresh line = sources.completePath line (currentWord line) :=
      if_neg hcommand
    rw [completePath] at hfirst
    cases hlist : sources.snapshot.list
        (folderToList (splitWord (currentWord line).value).1) with
    | error reason =>
      simp only [hlist] at hfirst
      rw [h.eq_nothing hfirst] at hsome
      exact absurd rfl hsome
    | ok listing =>
      simp only [hlist] at hfirst
      exact ⟨_, _, listing, _, splitWord_folder _, hlist, h.offers hfirst hsome⟩

/-- **A path is completed to an entry, and nothing else on the line is changed.** -/
theorem completed_path_names_entry (hs : sources.snapshot.WellFormed)
    (hline : ¬ EndsInsideWord line) (h : Turned sources line completion)
    (hkind : completion.kind = .path) (hsome : completion.candidates ≠ []) :
    (tokenize completion.text).openQuote = false ∧
      ∃ last shown, (tokenize completion.text).values = wordsBefore line ++ [last] ∧
        sources.snapshot.exists? last = true ∧ completion.shown? = some shown ∧
        (sources.snapshot.isFolder last = true ↔ Text.endsIn shown "/" = true) := by
  obtain ⟨folder, start, listing, quote, hfolder, hlist, hoffers⟩ :=
    h.offers_entries hkind hsome
  obtain ⟨candidate, hcandidate, htext, hshown⟩ := hoffers.active
  obtain ⟨hname, hentry, hisFolder⟩ := Snapshot.entry_of_candidate hs hlist hcandidate
  obtain ⟨hstop, tokens, hbefore, hwords⟩ := scanPart_take_currentWord hline
  have hplace := Snapshot.resolve_folder_append_shown (s := sources.snapshot) hfolder hname
  -- Nothing follows the word, so the line is what comes before it and the word.
  have hcompleted : completion.text = Text.firstPart (currentWord line).start line ++
      quoteWord (folder ++ candidate.shown) quote := by
    have hafter : Text.dropFirst line.length line = "" := by
      rw [Text.dropFirst, ← String.length_toList, List.drop_length]
    rw [htext, Slot.fill, hstop, hafter, String.append_empty]
  have hne : folder ++ candidate.shown ≠ "" := by
    intro hempty
    have hshown := (String.append_eq_empty_iff.mp hempty).2
    exact hname.1 (String.append_eq_empty_iff.mp hshown).1
  have hscan : scanPart 0 none (Text.firstPart (currentWord line).start line).toList =
      (tokens, none) := by
    rw [Text.firstPart, String.toList_ofList]
    exact hbefore
  obtain ⟨hopen, hvalues⟩ := tokenize_append_quoteWord hscan hne quote
  rw [← hcompleted] at hopen hvalues
  refine ⟨hopen, folder ++ candidate.shown, candidate.shown, hwords ▸ hvalues, ?_, hshown, ?_⟩
  · rw [Snapshot.exists_iff hs, hplace]
    exact hentry
  · rw [Snapshot.isFolder_iff, hplace, Candidate.endsIn_shown hname]
    exact hisFolder

/-- One file, with a blank in its name. -/
def desk : CompletionSources :=
  ⟨[], ⟨⟨"/", [], [⟨"my notes", ""⟩]⟩, []⟩⟩

theorem entriesOf_desk {start : String} (h : Text.startsWith "my notes" start = true) :
    entriesOf ⟨[], ["my notes"]⟩ start = [⟨"my notes", false⟩] := by
  simp [entriesOf, Listing.entries, h]

theorem completed_path_names_entry_desk :
    let completion := desk.complete none "cat 'my" false
    (tokenize completion.text).openQuote = false ∧
      ∃ last shown, (tokenize completion.text).values = ["cat"] ++ [last] ∧
        desk.snapshot.exists? last = true ∧ completion.shown? = some shown ∧
        (desk.snapshot.isFolder last = true ↔ Text.endsIn shown "/" = true) := by
  have hsingle : desk.complete none "cat 'my" false =
      .single (.path "cat " "" "" .single) ⟨"my notes", false⟩ := by
    have hword : currentWord "cat 'my" = ⟨"my", 4, 7, some .single, 1⟩ := by decide
    rw [complete, completeAfresh, hword]
    show Completion.ofCandidates _ (.path "cat " "" "" .single)
      (entriesOf ⟨[], ["my notes"]⟩ "my") = _
    rw [entriesOf_desk (by decide)]
    rfl
  have hturned : desk.Turned "cat 'my" (desk.complete none "cat 'my" false) := .first false
  exact completed_path_names_entry (by decide) (by decide) hturned (by rw [hsingle]; rfl)
    (by rw [hsingle]; exact List.cons_ne_nil _ _)

/-- The quote before the blank is open, and what is put after it closes it in the wrong place. -/
theorem completed_inside_quotes :
    desk.snapshot.WellFormed ∧
      ∃ completion, desk.complete none "cat \"my " false = completion ∧ completion.kind = .path ∧
        completion.candidates ≠ [] ∧ (tokenize completion.text).openQuote = true := by
  have hsingle : desk.complete none "cat \"my " false =
      .single (.path "cat \"my " "" "" .double) ⟨"my notes", false⟩ := by
    have hword : currentWord "cat \"my " = ⟨"", 8, 8, none, 2⟩ := by decide
    rw [complete, completeAfresh, hword]
    show Completion.ofCandidates _ (.path "cat \"my " "" "" .double)
      (entriesOf ⟨[], ["my notes"]⟩ "") = _
    rw [entriesOf_desk (by decide)]
    rfl
  exact ⟨by decide, _, hsingle, rfl, List.cons_ne_nil _ _, by decide⟩

end CompletionSources

end TreeShell
