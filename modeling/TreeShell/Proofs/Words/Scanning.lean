import Mathlib.Data.List.Induction
import TreeShell.Words.Lexer

/-!
# A line read in parts

The reader of words goes through a line once, so what it knows after the first part of a line is all
it takes to read the rest: the words that are finished, and the one that is not (`scanPart`). The
words of the whole line are those of the parts (`scanPart_append`), except that a word that is still
open where the parts meet goes on.

The second fact is the way back. Where the last word of a line begins, no word was open
(`scanPart_take_start`), so the line can be cut there and another word be put in the place.
-/

set_option autoImplicit false

namespace TreeShell

/-- The words finished in a part of a line that begins at position `i`, and the word that is open at
its end, when `open?` is open at its beginning. -/
def scanPart (i : Nat) : Option OpenWord → List Char → List Token × Option OpenWord
  | open?, [] => ([], open?)
  | none, c :: rest =>
    if isSeparator c then scanPart (i + 1) none rest
    else scanPart (i + 1) (some ((OpenWord.empty i).feed c)) rest
  | some word, c :: rest =>
    if word.atRest && isSeparator c then
      let (tokens, open?) := scanPart (i + 1) none rest
      (word.close i :: tokens, open?)
    else scanPart (i + 1) (some (word.feed c)) rest

namespace OpenWord

variable {word : OpenWord} {c : Char}

@[simp]
theorem start_take (word : OpenWord) (c : Char) : (word.take c).start = word.start := rfl

@[simp]
theorem start_feed (word : OpenWord) (c : Char) : (word.feed c).start = word.start := by
  unfold feed
  split
  · rfl
  · split
    · rfl
    · split
      · split <;> rfl
      · rfl
      · rfl

@[simp]
theorem start_empty (i : Nat) : (empty i).start = i := rfl

end OpenWord

/-! ## Parts and the whole -/

/-- A character that does not end the word goes into it. -/
theorem scanPart_feed {word : OpenWord} {c : Char} (h : (word.atRest && isSeparator c) = false)
    (i : Nat) (rest : List Char) :
    scanPart i (some word) (c :: rest) = scanPart (i + 1) (some (word.feed c)) rest := by
  rw [scanPart, h, if_neg Bool.false_ne_true]

/-- The end of a line finishes the word that is open there. -/
theorem scanWords_eq (i : Nat) (open? : Option OpenWord) (s : List Char) :
    scanWords i open? s =
      ((scanPart i open? s).1 ++ ((scanPart i open? s).2.map (·.close (i + s.length))).toList,
        (scanPart i open? s).2.any (·.inside?.isSome)) := by
  induction s generalizing i open? with
  | nil => cases open? <;> simp [scanWords, scanPart]
  | cons c rest ih =>
    have hend : i + 1 + rest.length = i + (c :: rest).length := by
      simp only [List.length_cons]
      omega
    cases open? with
    | none =>
      rw [scanWords, scanPart]
      split
      · rw [ih, hend]
      · rw [ih, hend]
    | some word =>
      rw [scanWords, scanPart]
      split
      · rw [ih, hend]
        rfl
      · rw [ih, hend]

/-- The second part is read from what the first one left. -/
theorem scanPart_append (i : Nat) (open? : Option OpenWord) (s more : List Char) :
    scanPart i open? (s ++ more) =
      ((scanPart i open? s).1 ++ (scanPart (i + s.length) (scanPart i open? s).2 more).1,
        (scanPart (i + s.length) (scanPart i open? s).2 more).2) := by
  induction s generalizing i open? with
  | nil => cases open? <;> simp [scanPart]
  | cons c rest ih =>
    have hend : i + 1 + rest.length = i + (c :: rest).length := by
      simp only [List.length_cons]
      omega
    cases open? with
    | none =>
      rw [List.cons_append, scanPart, scanPart]
      split
      · rw [ih, hend]
      · rw [ih, hend]
    | some word =>
      rw [List.cons_append, scanPart, scanPart]
      split
      · rw [ih, hend]
        rfl
      · rw [ih, hend]

/-! ## One more character -/

theorem scanPart_concat (s : List Char) (c : Char) :
    scanPart 0 none (s ++ [c]) = match scanPart 0 none s with
      | (tokens, none) =>
        (tokens, if isSeparator c then none else some ((OpenWord.empty s.length).feed c))
      | (tokens, some word) =>
        if word.atRest && isSeparator c then (tokens ++ [word.close s.length], none)
        else (tokens, some (word.feed c)) := by
  rw [scanPart_append]
  obtain ⟨tokens, open?⟩ := scanPart 0 none s
  cases open? with
  | none =>
    simp only [scanPart, Nat.zero_add]
    split <;> simp
  | some word =>
    simp only [scanPart, Nat.zero_add]
    split <;> simp

/-- A line at whose end no word is open ends in a separator, if it does not end at once. -/
theorem isSeparator_of_scanPart {s : List Char} {c : Char}
    (h : (scanPart 0 none (s ++ [c])).2 = none) : isSeparator c = true := by
  rw [scanPart_concat] at h
  generalize scanPart 0 none s = before at h
  obtain ⟨tokens, open?⟩ := before
  cases open? with
  | none => simpa using h
  | some word =>
    by_cases hends : (word.atRest && isSeparator c) = true
    · exact (Bool.and_eq_true_iff.mp hends).2
    · simp [hends] at h

/-- **Where the last word of a line begins, no word was open.** What was read before it is all
finished. -/
theorem scanPart_take_start {s : List Char} {tokens : List Token} {word : OpenWord}
    (h : scanPart 0 none s = (tokens, some word)) :
    word.start < s.length ∧ scanPart 0 none (s.take word.start) = (tokens, none) := by
  induction s using List.reverseRecOn generalizing tokens word with
  | nil => simp [scanPart] at h
  | append_singleton s c ih =>
    rw [scanPart_concat] at h
    cases hs : scanPart 0 none s with
    | mk before open? =>
      rw [hs] at h
      cases open? with
      | none =>
        -- The character begins the word.
        by_cases hc : isSeparator c = true
        · simp [hc] at h
        · simp only [hc, Prod.mk.injEq, Option.some.injEq, if_false, Bool.false_eq_true] at h
          obtain ⟨rfl, rfl⟩ := h
          simp [hs]
      | some earlier =>
        by_cases hends : (earlier.atRest && isSeparator c) = true
        · simp [hends] at h
        · simp only [hends, Prod.mk.injEq, Option.some.injEq, if_false, Bool.false_eq_true] at h
          obtain ⟨rfl, rfl⟩ := h
          obtain ⟨hlt, htake⟩ := ih hs
          rw [OpenWord.start_feed, List.take_append_of_le_length (Nat.le_of_lt hlt)]
          exact ⟨by simp only [List.length_append]; omega, htake⟩

/-! ## The words of a line -/

/-- A line at whose end no word is open has no other words than the finished ones. -/
theorem tokenize_of_scanPart_none {line : String} {tokens : List Token}
    (h : scanPart 0 none line.toList = (tokens, none)) :
    (tokenize line).tokens = tokens ∧ (tokenize line).openQuote = false := by
  simp [tokenize, scanWords_eq, h]

theorem tokenize_of_scanPart_some {line : String} {tokens : List Token} {word : OpenWord}
    (h : scanPart 0 none line.toList = (tokens, some word)) :
    (tokenize line).tokens = tokens ++ [word.close line.length] ∧
      (tokenize line).openQuote = word.inside?.isSome := by
  simp [tokenize, scanWords_eq, h, String.length_toList]

/-! ## The word under completion -/

/-- A line ends inside a word when its last character separates words elsewhere and is part of the
last one here: in quotes that are open, or after a backslash. -/
def EndsInsideWord (line : String) : Prop :=
  (tokenize line).endsWithSeparator = true ∧
    ∃ last, (tokenize line).tokens.getLast? = some last ∧ last.stop = line.length

instance (line : String) : Decidable (EndsInsideWord line) := by
  unfold EndsInsideWord
  cases (tokenize line).tokens.getLast? with
  | none => exact .isFalse fun ⟨_, _, h, _⟩ => nomatch h
  | some last =>
    exact decidable_of_iff ((tokenize line).endsWithSeparator = true ∧ last.stop = line.length)
      (by simp)

/-- The words before the one under completion: all of them, when the line ends in a separator. -/
def wordsBefore (line : String) : List String :=
  if (tokenize line).endsWithSeparator then (tokenize line).values
  else (tokenize line).values.dropLast

/-- A line at whose end no word is open is empty or ends in a separator. -/
theorem endsWithSeparator_of_scanPart_none {line : String} {tokens : List Token}
    (h : scanPart 0 none line.toList = (tokens, none)) :
    tokens = [] ∨ (tokenize line).endsWithSeparator = true := by
  rcases List.eq_nil_or_concat line.toList with hnil | ⟨s, c, hconcat⟩
  · rw [hnil] at h
    exact Or.inl (congrArg Prod.fst h).symm
  · rw [List.concat_eq_append] at hconcat
    rw [hconcat] at h
    have hc : isSeparator c = true := isSeparator_of_scanPart (congrArg Prod.snd h)
    exact Or.inr (by simp [tokenize, hconcat, hc])

/-- Where the word under completion begins, the words before it are finished; and nothing comes
after it. -/
theorem scanPart_take_currentWord {line : String} (h : ¬ EndsInsideWord line) :
    (currentWord line).stop = line.length ∧
      ∃ tokens, scanPart 0 none (line.toList.take (currentWord line).start) = (tokens, none) ∧
        tokens.map Token.value = wordsBefore line := by
  cases hscan : scanPart 0 none line.toList with
  | mk tokens open? =>
    cases open? with
    | none =>
      have htokens := (tokenize_of_scanPart_none hscan).1
      have hword : currentWord line = ⟨"", line.length, line.length, none, tokens.length⟩ ∧
          wordsBefore line = tokens.map Token.value := by
        rcases endsWithSeparator_of_scanPart_none hscan with rfl | hends
        · simp [currentWord, wordsBefore, TokenLine.values, htokens]
        · simp [currentWord, wordsBefore, TokenLine.values, htokens, hends]
      rw [hword.1, hword.2]
      refine ⟨rfl, tokens, ?_, rfl⟩
      rw [← String.length_toList, List.take_length, hscan]
    | some word =>
      have htokens := (tokenize_of_scanPart_some hscan).1
      have hlast : (tokenize line).tokens.getLast? = some (word.close line.length) := by
        simp [htokens]
      have hends : (tokenize line).endsWithSeparator = false :=
        Bool.eq_false_iff.mpr fun hends => h ⟨hends, _, hlast, rfl⟩
      have hword : (currentWord line).start = word.start ∧ (currentWord line).stop = line.length := by
        simp [currentWord, hends, hlast, OpenWord.close]
      rw [hword.1, hword.2]
      refine ⟨rfl, tokens, (scanPart_take_start hscan).2, ?_⟩
      simp [wordsBefore, hends, TokenLine.values, htokens]

end TreeShell
