import TreeShell.Proofs.Words.Quoting

/-!
# Lines put together with a separator

Between two words the reader keeps nothing: neither a quote nor a backslash of one word reaches into
the next. So the words of `a`, a separator and `b` are those of `a` followed by those of `b`,
further along the line, as long as the separator is one for `a`: no quote is open at the end of `a`
and no backslash waits there (`tokenize_separated`). Otherwise the separator goes into the last word
of `a`.

That a backslash waits is said of the text itself (`EndsEscaped`): the backslashes at its end are
odd in number. The reader's flag is shown to be that, inside quotes and outside
(`escaping_scanPart`).
-/

set_option autoImplicit false

namespace TreeShell

/-- The word as it is read further along a line. -/
def Token.shift (n : Nat) (token : Token) : Token :=
  { token with start := token.start + n, stop := token.stop + n }

/-- The number of backslashes at the end of a text. -/
def backslashesAtEnd (s : List Char) : Nat :=
  (s.reverse.takeWhile (· == '\\')).length

/-- A line ends in a backslash that takes the character after it, which is not there. Of the
backslashes at its end each second one is taken by the one before it. -/
def EndsEscaped (line : String) : Prop :=
  backslashesAtEnd line.toList % 2 = 1

instance (line : String) : Decidable (EndsEscaped line) :=
  inferInstanceAs (Decidable (_ = _))

/-- A line ends in open quotes, or in a backslash that waits. -/
def EndsUnfinished (line : String) : Prop :=
  (tokenize line).openQuote = true ∨ EndsEscaped line

instance (line : String) : Decidable (EndsUnfinished line) :=
  inferInstanceAs (Decidable (_ ∨ _))

theorem backslashesAtEnd_concat (s : List Char) (c : Char) :
    backslashesAtEnd (s ++ [c]) = if c = '\\' then backslashesAtEnd s + 1 else 0 := by
  by_cases hc : c = '\\'
  · simp [backslashesAtEnd, hc]
  · simp [backslashesAtEnd, hc]

/-! ## The place in the line -/

namespace OpenWord

/-- The word being read, further along the line. -/
def shift (n : Nat) (word : OpenWord) : OpenWord :=
  { word with start := word.start + n }

variable (n : Nat) (word : OpenWord)

@[simp]
theorem atRest_shift : (word.shift n).atRest = word.atRest := rfl

theorem empty_shift (i : Nat) : (empty i).shift n = empty (i + n) := rfl

theorem close_shift (stop : Nat) :
    (word.shift n).close (stop + n) = (word.close stop).shift n := rfl

theorem feed_shift (c : Char) : (word.shift n).feed c = (word.feed c).shift n := by
  unfold feed shift
  split
  · rfl
  · split
    · rfl
    · dsimp only
      split
      · split <;> rfl
      · rfl
      · rfl

end OpenWord

/-- What is read does not depend on where in the line it stands. -/
theorem scanWords_shift (n i : Nat) (open? : Option OpenWord) (s : List Char) :
    scanWords (i + n) (open?.map (·.shift n)) s =
      ((scanWords i open? s).1.map (·.shift n), (scanWords i open? s).2) := by
  induction s generalizing i open? with
  | nil => cases open? <;> rfl
  | cons c rest ih =>
    have hnext : i + n + 1 = i + 1 + n := by omega
    cases open? with
    | none =>
      rw [Option.map_none, scanWords, scanWords, hnext]
      split
      · exact ih (i + 1) none
      · rw [← OpenWord.empty_shift, OpenWord.feed_shift]
        exact ih (i + 1) (some _)
    | some word =>
      rw [Option.map_some, scanWords, scanWords, hnext, OpenWord.atRest_shift]
      split
      · have hrest := ih (i + 1) none
        rw [Option.map_none] at hrest
        rw [hrest, OpenWord.close_shift]
        rfl
      · rw [OpenWord.feed_shift]
        exact ih (i + 1) (some _)

/-! ## The end of a line -/

theorem OpenWord.escaping_feed (word : OpenWord) (c : Char) :
    (word.feed c).escaping = (!word.escaping && c = '\\') := by
  unfold feed
  split
  · next h => simp [take, h]
  · next h =>
    split
    · next hc => simp [h, hc]
    · next hc =>
      split
      · split <;> simp [take, h, hc]
      · simp [h, hc]
      · simp [take, hc]

theorem decide_odd_succ (n : Nat) : decide ((n + 1) % 2 = 1) = !decide (n % 2 = 1) := by
  rw [← decide_not]
  exact decide_eq_decide.mpr (by omega)

/-- A backslash waits at the end of a text when the number of those at its end is odd. -/
theorem escaping_scanPart (s : List Char) :
    (scanPart 0 none s).2.any (·.escaping) = decide (backslashesAtEnd s % 2 = 1) := by
  induction s using List.reverseRecOn with
  | nil => rfl
  | append_singleton s c ih =>
    rw [scanPart_concat, backslashesAtEnd_concat]
    generalize scanPart 0 none s = before at ih ⊢
    obtain ⟨tokens, open?⟩ := before
    by_cases hc : c = '\\'
    · subst hc
      have hnot : isSeparator '\\' = false := by decide
      rw [if_pos rfl, decide_odd_succ, ← ih]
      cases open? <;> simp [hnot, OpenWord.escaping_feed, OpenWord.empty]
    · rw [if_neg hc]
      cases open? with
      | none => cases hw : isSeparator c <;> simp [hc, OpenWord.escaping_feed]
      | some word =>
        cases hw : word.atRest && isSeparator c <;> simp [hc, hw, OpenWord.escaping_feed]

theorem endsEscaped_iff (line : String) :
    EndsEscaped line ↔ (scanPart 0 none line.toList).2.any (·.escaping) = true := by
  rw [escaping_scanPart, decide_eq_true_iff, EndsEscaped]

/-- No line that ends between words ends unfinished. -/
theorem not_endsUnfinished {line : String} {tokens : List Token}
    (h : scanPart 0 none line.toList = (tokens, none)) : ¬ EndsUnfinished line := by
  rw [EndsUnfinished, endsEscaped_iff, (tokenize_of_scanPart_none h).2, h]
  simp

/-- A line that ends in a word ends unfinished when the word is not at rest. -/
theorem endsUnfinished_iff {line : String} {tokens : List Token} {word : OpenWord}
    (h : scanPart 0 none line.toList = (tokens, some word)) :
    EndsUnfinished line ↔ word.atRest = false := by
  rw [EndsUnfinished, endsEscaped_iff, (tokenize_of_scanPart_some h).2, h, OpenWord.atRest]
  cases hescaping : word.escaping <;> cases word.inside? <;> simp [hescaping]

/-! ## Reading on -/

/-- What comes after a part of a line is read from what that part left. -/
theorem scanWords_append (i : Nat) (open? : Option OpenWord) (s more : List Char) :
    scanWords i open? (s ++ more) =
      ((scanPart i open? s).1 ++ (scanWords (i + s.length) (scanPart i open? s).2 more).1,
        (scanWords (i + s.length) (scanPart i open? s).2 more).2) := by
  have hend : i + (s ++ more).length = i + s.length + more.length := by
    rw [List.length_append, Nat.add_assoc]
  rw [scanWords_eq, scanPart_append, scanWords_eq (i + s.length), hend, List.append_assoc]

theorem OpenWord.value_prefix_take (word : OpenWord) (c : Char) :
    word.value <+: (word.take c).value := List.prefix_append ..

theorem OpenWord.value_prefix_feed (word : OpenWord) (c : Char) :
    word.value <+: (word.feed c).value := by
  unfold feed
  split
  · exact word.value_prefix_take c
  · split
    · exact List.prefix_rfl
    · split
      · split
        · exact List.prefix_rfl
        · exact word.value_prefix_take c
      · exact List.prefix_rfl
      · exact word.value_prefix_take c

theorem OpenWord.value_prefix_close (word : OpenWord) (stop : Nat) :
    word.value <+: (word.close stop).value.toList := by
  unfold close
  split <;> simp

/-- A word that is open becomes the first of the words that are read on: it starts where it did and
keeps what it has. -/
theorem scanWords_some (i : Nat) (word : OpenWord) (s : List Char) :
    ∃ long later, (scanWords i (some word) s).1 = long :: later ∧ long.start = word.start ∧
      i ≤ long.stop ∧ word.value <+: long.value.toList := by
  induction s generalizing i word with
  | nil => exact ⟨word.close i, [], rfl, rfl, Nat.le_refl i, word.value_prefix_close i⟩
  | cons c rest ih =>
    rw [scanWords]
    split
    · exact ⟨word.close i, _, rfl, rfl, Nat.le_refl i, word.value_prefix_close i⟩
    · obtain ⟨long, later, hwords, hstart, hstop, hvalue⟩ := ih (i + 1) (word.feed c)
      exact ⟨long, later, hwords, by rw [hstart, OpenWord.start_feed], by omega,
        (word.value_prefix_feed c).trans hvalue⟩

/-- A separator that does not end the word it comes upon is one more character of it. -/
theorem OpenWord.feed_separator {word : OpenWord} {w : Char} (hw : isSeparator w = true)
    (hrest : word.atRest = false) : word.feed w = word.take w := by
  obtain ⟨start, value, quote?, inside?, escaping⟩ := word
  cases escaping with
  | true => rfl
  | false =>
    cases inside? with
    | none => exact nomatch hrest
    | some quote =>
      have hbackslash : w ≠ '\\' := by
        rintro rfl
        exact nomatch hw
      have hquote : w ≠ quote.char := by
        rintro rfl
        rw [quote.char_not_isSeparator] at hw
        exact nomatch hw
      exact feed_inside hbackslash hquote start value quote?

/-! ## The law -/

section

variable {a : String} {w : Char} {tokens : List Token}

/-- The words of a line of two parts with a character between them, by what the first part left. -/
theorem tokenize_push_append {open? : Option OpenWord}
    (h : scanPart 0 none a.toList = (tokens, open?)) (w : Char) (b : String) :
    (tokenize (a.push w ++ b)).tokens =
        tokens ++ (scanWords a.length open? (w :: b.toList)).1 ∧
      (tokenize (a.push w ++ b)).openQuote = (scanWords a.length open? (w :: b.toList)).2 := by
  have hline : (a.push w ++ b).toList = a.toList ++ w :: b.toList := by simp
  rw [tokenize, hline, scanWords_append, h, Nat.zero_add, String.length_toList]
  exact ⟨rfl, rfl⟩

theorem scanWords_tokenize (n : Nat) (b : String) :
    scanWords n none b.toList = ((tokenize b).tokens.map (·.shift n), (tokenize b).openQuote) := by
  have hb := scanWords_shift n 0 none b.toList
  rwa [Nat.zero_add, Option.map_none] at hb

/-- Between words, or after a word at rest, the second part is read as if it came first. -/
theorem tokenize_push_of_finished (hw : isSeparator w = true) (h : ¬ EndsUnfinished a)
    (b : String) :
    (tokenize (a.push w ++ b)).tokens =
        (tokenize a).tokens ++ (tokenize b).tokens.map (·.shift (a.length + 1)) ∧
      (tokenize (a.push w ++ b)).openQuote = (tokenize b).openQuote := by
  cases hscan : scanPart 0 none a.toList with
  | mk tokens open? =>
    obtain ⟨hwords, hquote⟩ := tokenize_push_append hscan w b
    cases open? with
    | none =>
      rw [hwords, hquote, scanWords, if_pos hw, scanWords_tokenize,
        (tokenize_of_scanPart_none hscan).1]
      exact ⟨rfl, rfl⟩
    | some word =>
      have hrest : word.atRest = true := by
        rwa [endsUnfinished_iff hscan, Bool.not_eq_false] at h
      rw [hwords, hquote, scanWords, hrest, hw, Bool.and_self, if_pos rfl, scanWords_tokenize,
        (tokenize_of_scanPart_some hscan).1, List.append_assoc]
      exact ⟨rfl, rfl⟩

/-- In open quotes, or after a backslash that waits, the separator goes into the last word. -/
theorem tokenize_push_of_unfinished (hw : isSeparator w = true) (h : EndsUnfinished a)
    (b : String) :
    ∃ earlier last later long kept,
      (tokenize a).tokens = earlier ++ [last] ∧
      (tokenize (a.push w ++ b)).tokens = earlier ++ long :: later ∧
      long.start = last.start ∧ last.start < a.length ∧ a.length < long.stop ∧
      last.value.toList = kept ++ (if EndsEscaped a then ['\\'] else []) ∧
      kept ++ [w] <+: long.value.toList := by
  cases hscan : scanPart 0 none a.toList with
  | mk tokens open? =>
    cases open? with
    | none => exact absurd h (not_endsUnfinished hscan)
    | some word =>
      have hrest : word.atRest = false := (endsUnfinished_iff hscan).mp h
      obtain ⟨long, later, hlong, hstart, hstop, hvalue⟩ :=
        scanWords_some (a.length + 1) (word.take w) b.toList
      have hwords : (tokenize (a.push w ++ b)).tokens = tokens ++ long :: later := by
        rw [(tokenize_push_append hscan w b).1, scanWords, hrest, Bool.false_and,
          if_neg Bool.false_ne_true, OpenWord.feed_separator hw hrest, hlong]
      have hclosed : (word.close a.length).value.toList =
          word.value ++ (if EndsEscaped a then ['\\'] else []) := by
        have hescaped : EndsEscaped a ↔ word.escaping = true := by
          rw [endsEscaped_iff, hscan, Option.any_some]
        rw [OpenWord.close, String.toList_ofList, if_congr hescaped rfl rfl]
        split <;> simp
      have hbegins : word.start < a.length := by
        simpa [String.length_toList] using (scanPart_take_start hscan).1
      exact ⟨tokens, word.close a.length, later, long, word.value,
        (tokenize_of_scanPart_some hscan).1, hwords, hstart, hbegins, hstop, hclosed, hvalue⟩

end

/-- **A line of two parts with a separator between them has the words of both**, those of the second
part further along, if the separator is one where the first part ends. In open quotes, or after a
backslash that waits, it is a character of the last word of the first part, which goes on. -/
theorem tokenize_separated (a b : String) {w : Char} (hw : w ∈ [' ', '\t', '\n', '\r']) :
    (¬ EndsUnfinished a →
      (tokenize (a.push w ++ b)).tokens =
          (tokenize a).tokens ++ (tokenize b).tokens.map (·.shift (a.length + 1)) ∧
        (tokenize (a.push w ++ b)).openQuote = (tokenize b).openQuote) ∧
    (EndsUnfinished a →
      ∃ earlier last later long kept,
        (tokenize a).tokens = earlier ++ [last] ∧
        (tokenize (a.push w ++ b)).tokens = earlier ++ long :: later ∧
        long.start = last.start ∧ last.start < a.length ∧ a.length < long.stop ∧
        last.value.toList = kept ++ (if EndsEscaped a then ['\\'] else []) ∧
        kept ++ [w] <+: long.value.toList) := by
  have hw : isSeparator w = true := by simpa [isSeparator, or_assoc] using hw
  exact ⟨(tokenize_push_of_finished hw · b), (tokenize_push_of_unfinished hw · b)⟩

theorem tokenize_separated_blank :
    ' ' ∈ [' ', '\t', '\n', '\r'] ∧ ¬ EndsUnfinished "cd 'a b'" ∧ EndsUnfinished "cd a\\" ∧
      (tokenize ("cd 'a b'".push ' ' ++ "c")).tokens =
        [⟨"cd", 0, 2, none⟩, ⟨"a b", 3, 8, some .single⟩, ⟨"c", 9, 10, none⟩] ∧
      ∃ earlier long later,
        (tokenize ("cd a\\".push ' ' ++ "c")).tokens = earlier ++ long :: later ∧
          5 < long.stop := by
  have hblank : ' ' ∈ [' ', '\t', '\n', '\r'] := by decide
  have hfinished : ¬ EndsUnfinished "cd 'a b'" := by decide
  have hunfinished : EndsUnfinished "cd a\\" := by decide
  have hwords := ((tokenize_separated "cd 'a b'" "c" hblank).1 hfinished).1
  obtain ⟨earlier, _, later, long, _, _, hlong, _, _, hstop, _⟩ :=
    (tokenize_separated "cd a\\" "c" hblank).2 hunfinished
  exact ⟨hblank, hfinished, hunfinished, hwords.trans (by decide), earlier, long, later, hlong,
    hstop⟩

end TreeShell
