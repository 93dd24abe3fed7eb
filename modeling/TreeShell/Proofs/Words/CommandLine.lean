import TreeShell.Proofs.Words.Quoting
import TreeShell.Text.Affix
import TreeShell.Text.Split

/-!
# Command lines that are written from values

Values that are written as words, with a blank between neighbours, make a line that is read as these
values and nothing else (`tokenize_line`): the words come out in order, and each spans the piece
that was written for it, so that no quote and no backslash reaches over into the next word. What
carries the proof is that a written word is at rest where it ends (`scanPart_quoteWord`). The blank
after it then ends it, and the rest of the line is read as if nothing had come before
(`scanWords_append_blank`).

The empty value is left out. It is written as nothing, so there is nothing to read it back from.
-/

set_option autoImplicit false

namespace TreeShell

/-- The piece of a line that a word was read from. -/
def Token.raw (token : Token) (line : String) : String :=
  Text.dropFirst token.start (Text.firstPart token.stop line)

/-- A value to be written as a word, and the quote to write it in if it needs one. -/
structure Spelling where
  value : String
  quote : Quote
  value_ne : value ≠ ""

namespace Spelling

/-- The word as it is written. -/
def text (word : Spelling) : String :=
  quoteWord word.value word.quote

/-- The words as a line, with a blank between neighbours. -/
def line (words : List Spelling) : String :=
  Text.join " " (words.map text)

/-- The word as it is to be read, when it was written at a position of a line. -/
def token (word : Spelling) (start : Nat) : Token :=
  ⟨word.value, start, start + word.text.length, quoteNeeded word.value word.quote⟩

/-- The words as they are to be read, when they were written one after the other from a position on,
each with one character after it. -/
def tokensFrom (start : Nat) : List Spelling → List Token
  | [] => []
  | word :: rest => word.token start :: tokensFrom (start + word.text.length + 1) rest

theorem line_cons_cons (word next : Spelling) (rest : List Spelling) :
    (line (word :: next :: rest)).toList =
      word.text.toList ++ ' ' :: (line (next :: rest)).toList := by
  have hline : line (word :: next :: rest) = word.text ++ " " ++ line (next :: rest) := rfl
  rw [hline, String.toList_append, String.toList_append, List.append_assoc]
  rfl

theorem values_tokensFrom (start : Nat) (words : List Spelling) :
    (tokensFrom start words).map Token.value = words.map value := by
  induction words generalizing start with
  | nil => rfl
  | cons word rest ih => rw [tokensFrom, List.map_cons, List.map_cons, ih, token]

end Spelling

/-! ## Reading on after a word -/

/-- Where a word ends at rest, a blank finishes it, and what follows is read on its own. -/
theorem scanWords_append_blank {s : List Char} {i : Nat} {word : OpenWord}
    (h : scanPart i none s = ([], some word)) (hrest : word.atRest = true) (more : List Char) :
    scanWords i none (s ++ ' ' :: more) =
      (word.close (i + s.length) :: (scanWords (i + s.length + 1) none more).1,
        (scanWords (i + s.length + 1) none more).2) := by
  have hends : (word.atRest && isSeparator ' ') = true := by rw [hrest]; rfl
  have hlength : i + (s ++ ' ' :: more).length = i + s.length + 1 + more.length := by
    simp only [List.length_append, List.length_cons]
    omega
  rw [scanWords_eq, scanPart_append, h, hlength, scanWords_eq (i + s.length + 1)]
  simp [scanPart, hends]

theorem scanWords_line (words : List Spelling) (i : Nat) :
    scanWords i none (Spelling.line words).toList = (Spelling.tokensFrom i words, false) := by
  induction words generalizing i with
  | nil => rfl
  | cons word rest ih =>
    have hword : scanPart i none word.text.toList =
        ([], some ⟨i, word.value.toList, quoteNeeded word.value word.quote, none, false⟩) :=
      scanPart_quoteWord word.value_ne word.quote i
    cases rest with
    | nil =>
      have hline : (Spelling.line [word]).toList = word.text.toList := rfl
      rw [hline, scanWords_eq, hword]
      simp [OpenWord.close, Spelling.tokensFrom, Spelling.token, String.length_toList]
    | cons next rest =>
      have hclose : OpenWord.close ⟨i, word.value.toList, quoteNeeded word.value word.quote, none,
          false⟩ (i + word.text.length) = word.token i := by
        simp [OpenWord.close, Spelling.token]
      have htokens : Spelling.tokensFrom i (word :: next :: rest) =
          word.token i :: Spelling.tokensFrom (i + word.text.length + 1) (next :: rest) := rfl
      rw [Spelling.line_cons_cons, scanWords_append_blank hword rfl, ih, String.length_toList,
        htokens, ← hclose]

/-! ## The pieces of the line -/

namespace Spelling

/-- The spans lie where the words were written, whatever the line begins with. -/
theorem raw_tokensFrom (before : List Char) (words : List Spelling) :
    (tokensFrom before.length words).map
        (Token.raw · (.ofList (before ++ (line words).toList))) = words.map text := by
  induction words generalizing before with
  | nil => rfl
  | cons word rest ih =>
    have hfirst : ∀ after : List Char,
        (word.token before.length).raw (.ofList (before ++ (word.text.toList ++ after))) =
          word.text := by
      intro after
      have hstop : (word.token before.length).stop = (before ++ word.text.toList).length := by
        rw [List.length_append, String.length_toList, token]
      rw [Token.raw, Text.firstPart, Text.dropFirst, hstop, String.toList_ofList,
        String.toList_ofList, ← List.append_assoc, List.take_left, token, List.drop_left,
        String.ofList_toList]
    rw [tokensFrom, List.map_cons, List.map_cons]
    cases rest with
    | nil =>
      have hline : (line [word]).toList = word.text.toList ++ [] := by
        rw [List.append_nil]
        rfl
      rw [hline, hfirst]
      rfl
    | cons next rest =>
      have hshift : before ++ (word.text.toList ++ ' ' :: (line (next :: rest)).toList) =
          (before ++ word.text.toList ++ [' ']) ++ (line (next :: rest)).toList := by
        simp only [List.append_assoc, List.cons_append, List.nil_append]
      have hlength : before.length + word.text.length + 1 =
          (before ++ word.text.toList ++ [' ']).length := by
        rw [List.length_append, List.length_append, String.length_toList]
        rfl
      rw [line_cons_cons, hfirst, hshift, hlength, ih]

/-- A written word does not end in a separator: it ends in a quote, or in a character that needed
none. -/
theorem getLast?_text (word : Spelling) :
    ∃ c, word.text.toList.getLast? = some c ∧ isSeparator c = false := by
  unfold text quoteWord
  by_cases hquotes : word.value.toList.any needsQuoting = true
  · rw [if_pos hquotes, String.toList_ofList, quoted]
    exact ⟨word.quote.char, List.getLast?_concat, word.quote.char_not_isSeparator⟩
  · rw [if_neg hquotes]
    have hne : word.value.toList ≠ [] := fun hnil =>
      word.value_ne (String.toList_eq_nil_iff.mp hnil)
    refine ⟨_, List.getLast?_eq_some_getLast hne, Bool.eq_false_iff.mpr fun hsep => hquotes ?_⟩
    exact List.any_eq_true.mpr ⟨_, List.getLast_mem hne, needsQuoting_of_isSeparator hsep⟩

theorem getLast?_line (word : Spelling) (rest : List Spelling) :
    ∃ c, (line (word :: rest)).toList.getLast? = some c ∧ isSeparator c = false := by
  induction rest generalizing word with
  | nil => exact word.getLast?_text
  | cons next rest ih =>
    obtain ⟨c, hc, hsep⟩ := ih next
    refine ⟨c, ?_, hsep⟩
    rw [line_cons_cons, List.getLast?_append, List.getLast?_cons, hc]
    rfl

/-- **A line written from values is read as these values.** Every word spans the piece that was
written for it, the line ends neither in open quotes nor in a separator, and it is the command of
the first value with the others as its arguments. -/
theorem tokenize_line (word : Spelling) (rest : List Spelling) :
    (tokenize (line (word :: rest))).tokens = tokensFrom 0 (word :: rest) ∧
      (tokenize (line (word :: rest))).values = (word :: rest).map value ∧
      (tokenize (line (word :: rest))).tokens.map (Token.raw · (line (word :: rest))) =
        (word :: rest).map text ∧
      (tokenize (line (word :: rest))).openQuote = false ∧
      (tokenize (line (word :: rest))).endsWithSeparator = false ∧
      Command.parse (line (word :: rest)) = ⟨word.value, rest.map value⟩ := by
  have htokens : (tokenize (line (word :: rest))).tokens = tokensFrom 0 (word :: rest) := by
    rw [tokenize, scanWords_line]
  have hvalues : (tokenize (line (word :: rest))).values = (word :: rest).map value := by
    rw [TokenLine.values, htokens, values_tokensFrom]
  refine ⟨htokens, hvalues, ?_, ?_, ?_, ?_⟩
  · have hraw := raw_tokensFrom [] (word :: rest)
    rw [List.nil_append, String.ofList_toList] at hraw
    rw [htokens]
    exact hraw
  · rw [tokenize, scanWords_line]
  · obtain ⟨c, hc, hsep⟩ := getLast?_line word rest
    rw [tokenize, hc]
    exact hsep
  · rw [Command.parse, hvalues]
    rfl

end Spelling

/-- A name with a quote and a backslash, and one with a blank, in quotes of two kinds. -/
example : Spelling.line [⟨"cat", .double, by decide⟩, ⟨"a\"\\", .double, by decide⟩,
    ⟨"it is", .single, by decide⟩] = "cat \"a\\\"\\\\\" 'it is'" := by decide

end TreeShell
