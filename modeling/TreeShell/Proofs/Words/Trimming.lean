import Mathlib.Data.List.DropRight
import TreeShell.Proofs.Words.Separation

/-!
# The words of a trimmed line

A line is trimmed before its words are read, and trimming takes more than the reader passes over:
blanks of every script, where the reader knows four separators, and blanks at the end of the line
even where they stand in open quotes or after a backslash. So the words of the trimmed line are
those of the line in one case only, namely when all that was taken are separators and the trimmed
line is finished where it ends (`values_trim_iff`).

Both directions go through the *letters* of a line, the characters of its words one word after the
other. A blank that is passed over adds no letter, and any other adds itself.
-/

set_option autoImplicit false

namespace TreeShell

/-! ## What trimming takes -/

namespace Text

/-- The blanks that trimming takes from the beginning of a text. -/
def blanksBefore (s : List Char) : List Char :=
  s.takeWhile isBlank

/-- The blanks that trimming takes from the end of a text. -/
def blanksAfter (s : List Char) : List Char :=
  (s.dropWhile isBlank).rtakeWhile isBlank

theorem isBlank_of_mem_blanksBefore {s : List Char} {c : Char} (h : c ∈ blanksBefore s) :
    isBlank c = true :=
  List.mem_takeWhile_imp h

theorem isBlank_of_mem_blanksAfter {s : List Char} {c : Char} (h : c ∈ blanksAfter s) :
    isBlank c = true :=
  List.mem_rtakeWhile_imp h

/-- A text is the trimmed text with the blanks around it. -/
theorem blanks_trimmed (s : List Char) : blanksBefore s ++ (trimmed s ++ blanksAfter s) = s := by
  have hback : trimmed s ++ blanksAfter s = s.dropWhile isBlank :=
    List.rdropWhile_append_rtakeWhile
  rw [hback]
  exact List.takeWhile_append_dropWhile

/-- A trimmed text ends in no blank. -/
theorem exists_concat_of_trimmed {s : List Char} (h : trimmed s ≠ []) :
    ∃ front c, trimmed s = front ++ [c] ∧ isBlank c = false := by
  have hlast : ¬ isBlank ((trimmed s).getLast h) = true := List.rdropWhile_last_not isBlank _ h
  exact ⟨_, _, (List.dropLast_append_getLast h).symm, Bool.not_eq_true _ ▸ hlast⟩

/-- Trimming once is enough. -/
theorem trimmed_trimmed (s : List Char) : trimmed (trimmed s) = trimmed s := by
  have hfront : (trimmed s).dropWhile isBlank = trimmed s := by
    cases htrimmed : trimmed s with
    | nil => rfl
    | cons c rest =>
      have hprefix : c :: rest <+: s.dropWhile isBlank :=
        htrimmed ▸ List.rdropWhile_prefix isBlank (s.dropWhile isBlank)
      obtain ⟨more, hmore⟩ := hprefix
      have hhead := List.head?_dropWhile_not isBlank s
      rw [← hmore] at hhead
      exact List.dropWhile_cons_of_neg (by simpa using hhead)
  have hback : dropEndWhile isBlank (trimmed s) = trimmed s :=
    List.rdropWhile_idempotent isBlank (s.dropWhile isBlank)
  rw [trimmed, stripWhile, hfront, hback]

theorem trim_trim (text : String) : trim (trim text) = trim text := by
  rw [trim, trim, String.toList_ofList, trimmed_trimmed]

end Text

/-! ## Letters -/

/-- The characters of words, one word after the other. -/
def letters (tokens : List Token) : List Char :=
  tokens.flatMap (·.value.toList)

theorem letters_cons (token : Token) (tokens : List Token) :
    letters (token :: tokens) = token.value.toList ++ letters tokens := List.flatMap_cons

theorem letters_singleton (token : Token) : letters [token] = token.value.toList :=
  List.flatMap_singleton ..

theorem letters_append (tokens more : List Token) :
    letters (tokens ++ more) = letters tokens ++ letters more := List.flatMap_append

theorem letters_eq_flatMap (tokens : List Token) :
    letters tokens = (tokens.map Token.value).flatMap String.toList := by
  rw [letters, List.flatMap_map]

namespace OpenWord

/-- A word that is closed has the characters it is as far as, and the backslash that waits. -/
theorem toList_close (word : OpenWord) (stop : Nat) :
    (word.close stop).value.toList = word.value ++ (if word.escaping then ['\\'] else []) := by
  rw [close, String.toList_ofList]
  split <;> simp

/-- A word that is as far as another one and has some characters more in front. -/
structure Extends (front : List Char) (word other : OpenWord) : Prop where
  value : word.value = front ++ other.value
  inside : word.inside? = other.inside?
  escaping : word.escaping = other.escaping

variable {front : List Char} {word other : OpenWord}

theorem Extends.atRest (h : Extends front word other) : word.atRest = other.atRest := by
  rw [OpenWord.atRest, OpenWord.atRest, h.inside, h.escaping]

theorem Extends.toList_close (h : Extends front word other) (stop : Nat) :
    (word.close stop).value.toList = front ++ (other.close stop).value.toList := by
  rw [OpenWord.toList_close, OpenWord.toList_close, h.value, h.escaping, List.append_assoc]

theorem Extends.take (h : Extends front word other) (c : Char) :
    Extends front (word.take c) (other.take c) :=
  ⟨by simp [OpenWord.take, h.value], h.inside, rfl⟩

theorem Extends.feed (h : Extends front word other) (c : Char) :
    Extends front (word.feed c) (other.feed c) := by
  unfold OpenWord.feed
  rw [h.escaping, h.inside]
  split
  · exact h.take c
  · split
    · exact ⟨h.value, rfl, rfl⟩
    · split
      · split
        · exact ⟨h.value, rfl, rfl⟩
        · exact h.take c
      · exact ⟨h.value, rfl, rfl⟩
      · exact h.take c

end OpenWord

/-- What is in front of an open word comes before all that is read. -/
theorem letters_extends {front : List Char} {word other : OpenWord}
    (h : word.Extends front other) (i : Nat) (s : List Char) :
    letters (scanWords i (some word) s).1 =
      front ++ letters (scanWords i (some other) s).1 := by
  induction s generalizing i word other with
  | nil => simp [scanWords, letters, h.toList_close]
  | cons c rest ih =>
    rw [scanWords, scanWords, h.atRest]
    split
    · rw [letters_cons, letters_cons, h.toList_close, List.append_assoc]
    · exact ih (h.feed c) (i + 1)

/-- The words do not depend on where in a line they are read. -/
theorem values_scanWords (i : Nat) (s : List Char) :
    (scanWords i none s).1.map Token.value = (scanWords 0 none s).1.map Token.value := by
  have hshift := scanWords_shift i 0 none s
  rw [Nat.zero_add, Option.map_none] at hshift
  rw [hshift, List.map_map]
  rfl

theorem letters_scanWords (i : Nat) (s : List Char) :
    letters (scanWords i none s).1 = letters (scanWords 0 none s).1 := by
  rw [letters_eq_flatMap, letters_eq_flatMap, values_scanWords]

/-- To be in a word without letters is, for the letters, to be in none. -/
theorem letters_empty (i start : Nat) (s : List Char) :
    letters (scanWords i (some (.empty start)) s).1 = letters (scanWords i none s).1 := by
  cases s with
  | nil => rfl
  | cons c rest =>
    rw [scanWords, scanWords]
    have hrest : (OpenWord.empty start).atRest = true := rfl
    rw [hrest, Bool.true_and]
    split
    · rfl
    · have hsame : (OpenWord.empty start).Extends [] (.empty i) := ⟨rfl, rfl, rfl⟩
      exact letters_extends (hsame.feed c) (i + 1) rest

/-- A word at rest has its letters, and the rest is read as if there were no word. -/
theorem letters_atRest {word : OpenWord} (h : word.atRest = true) (i : Nat) (s : List Char) :
    letters (scanWords i (some word) s).1 = word.value ++ letters (scanWords i none s).1 := by
  have hextends : word.Extends word.value (.empty i) := by
    obtain ⟨start, value, quote?, inside?, escaping⟩ := word
    simp only [OpenWord.atRest, Bool.and_eq_true, Bool.not_eq_true', Option.isNone_iff_eq_none] at h
    exact ⟨(List.append_nil value).symm, h.2, h.1⟩
  rw [letters_extends hextends, letters_empty]

/-- The letters of an open word are the first of all that is read. -/
theorem prefix_letters (i : Nat) (word : OpenWord) (s : List Char) :
    word.value <+: letters (scanWords i (some word) s).1 := by
  obtain ⟨long, later, hwords, -, -, hvalue⟩ := scanWords_some i word s
  rw [hwords, letters_cons]
  exact hvalue.trans (List.prefix_append _ _)

/-! ## Blanks -/

/-- A blank opens or closes no quotes, and takes no character. -/
theorem OpenWord.feed_blank {word : OpenWord} {c : Char} (hc : Text.isBlank c = true) :
    word.feed c = word.take c := by
  have hbackslash : c ≠ '\\' := by
    rintro rfl
    exact absurd hc (by decide)
  have hquote : ∀ quote : Quote, c ≠ quote.char := by
    rintro quote rfl
    cases quote <;> exact absurd hc (by decide)
  have hnone : Quote.ofChar? c = none := by
    have hsingle := hquote .single
    have hdouble := hquote .double
    simp only [Quote.char] at hsingle hdouble
    simp [Quote.ofChar?, hsingle, hdouble]
  obtain ⟨start, value, quote?, inside?, escaping⟩ := word
  cases escaping with
  | true => rfl
  | false =>
    cases inside? with
    | none => simp [feed, hbackslash, hnone]
    | some quote => simp [feed, hbackslash, hquote quote]

/-- Between words a blank that separates is passed over, and any other begins a word. -/
theorem letters_blanks {blanks : List Char} (h : ∀ c ∈ blanks, Text.isBlank c = true) (i : Nat)
    (s : List Char) :
    letters (scanWords i none (blanks ++ s)).1 =
      blanks.filter (!isSeparator ·) ++ letters (scanWords 0 none s).1 := by
  induction blanks generalizing i with
  | nil => exact letters_scanWords i s
  | cons c rest ih =>
    obtain ⟨hc, hrest⟩ := List.forall_mem_cons.mp h
    rw [List.cons_append, scanWords]
    cases hsep : isSeparator c with
    | true => rw [if_pos rfl, List.filter_cons_of_neg (by simp [hsep]), ih hrest]
    | false =>
      have hword : ((OpenWord.empty i).take c).atRest = true := rfl
      rw [if_neg Bool.false_ne_true, OpenWord.feed_blank hc, letters_atRest hword, ih hrest,
        List.filter_cons_of_pos (by simp [hsep])]
      rfl

/-- A blank after a word that is not at rest is one more letter of it. -/
theorem prefix_letters_blank {word : OpenWord} (hrest : word.atRest = false) {c : Char}
    (hc : Text.isBlank c = true) (i : Nat) (s : List Char) :
    word.value ++ [c] <+: letters (scanWords i (some word) (c :: s)).1 := by
  rw [scanWords, hrest, Bool.false_and, if_neg Bool.false_ne_true, OpenWord.feed_blank hc]
  exact prefix_letters (i + 1) (word.take c) s

theorem OpenWord.atRest_eq_false_of_escaping {word : OpenWord} (h : word.escaping = true) :
    word.atRest = false := by
  rw [atRest, h, Bool.not_true, Bool.false_and]

section

variable {word : OpenWord} {blanks : List Char} {i stop : Nat}

/-- Blanks make an open word no shorter than it is if the line ends. -/
theorem length_close_le (h : ∀ c ∈ blanks, Text.isBlank c = true) :
    (word.close stop).value.toList.length ≤
      (letters (scanWords i (some word) blanks).1).length := by
  cases blanks with
  | nil => simp [scanWords, letters, OpenWord.toList_close]
  | cons c more =>
    rw [OpenWord.toList_close]
    cases hescaping : word.escaping with
    | false => simpa using (prefix_letters i word (c :: more)).length_le
    | true =>
      have hrest := OpenWord.atRest_eq_false_of_escaping hescaping
      simpa using (prefix_letters_blank hrest (h c List.mem_cons_self) i more).length_le

/-- Blanks add no letters to an open word only if it is at rest and they are separators. -/
theorem separators_of_letters (h : ∀ c ∈ blanks, Text.isBlank c = true)
    (hletters : (word.close stop).value.toList = letters (scanWords i (some word) blanks).1) :
    ∀ c ∈ blanks, isSeparator c = true ∧ word.atRest = true := by
  rw [OpenWord.toList_close] at hletters
  cases hrest : word.atRest with
  | true =>
    have hescaping : word.escaping = false := by
      by_contra hwaits
      rw [OpenWord.atRest_eq_false_of_escaping (Bool.not_eq_false _ ▸ hwaits)] at hrest
      exact nomatch hrest
    have hall := letters_blanks h i []
    rw [List.append_nil] at hall
    rw [hescaping, if_neg Bool.false_ne_true, letters_atRest hrest, hall,
      List.append_cancel_left_eq] at hletters
    intro c hc
    have hnone : blanks.filter (!isSeparator ·) = [] := (List.append_eq_nil_iff.mp hletters.symm).1
    simpa using List.filter_eq_nil_iff.mp hnone c hc
  | false =>
    cases blanks with
    | nil => exact fun c hc => absurd hc List.not_mem_nil
    | cons d more =>
      -- The first blank would have to be the backslash that waits.
      have hd := h d List.mem_cons_self
      have hprefix := prefix_letters_blank hrest hd i more
      rw [← hletters, List.prefix_append_right_inj] at hprefix
      split at hprefix
      · obtain ⟨rfl, -⟩ := List.cons_prefix_cons.mp hprefix
        exact absurd hd (by decide)
      · exact absurd hprefix (by simp)

end

/-! ## Words -/

theorem values_separators {separators : List Char} (h : ∀ c ∈ separators, isSeparator c = true)
    (i : Nat) (s : List Char) :
    (scanWords i none (separators ++ s)).1.map Token.value =
      (scanWords 0 none s).1.map Token.value := by
  induction separators generalizing i with
  | nil => exact values_scanWords i s
  | cons c rest ih =>
    obtain ⟨hc, hrest⟩ := List.forall_mem_cons.mp h
    rw [List.cons_append, scanWords, if_pos hc, ih hrest]

/-- Separators after a word at rest end it, and are no words. -/
theorem values_atRest {word : OpenWord} (hrest : word.atRest = true) {separators : List Char}
    (h : ∀ c ∈ separators, isSeparator c = true) (i : Nat) :
    (scanWords i (some word) separators).1.map Token.value = [(word.close i).value] := by
  cases separators with
  | nil => rfl
  | cons c rest =>
    obtain ⟨hc, hmore⟩ := List.forall_mem_cons.mp h
    have hnothing := values_separators hmore (i + 1) []
    rw [List.append_nil] at hnothing
    rw [scanWords, hrest, hc, Bool.and_self, if_pos rfl, List.map_cons, hnothing]
    rfl

/-! ## The law -/

/-- Trimming a line takes nothing but separators that separate: in front of it, and at its end when
no quotes are open there and no backslash waits. -/
structure TrimsSeparators (line : String) : Prop where
  before : ∀ c ∈ Text.blanksBefore line.toList, isSeparator c = true
  after : ∀ c ∈ Text.blanksAfter line.toList,
    isSeparator c = true ∧ ¬ EndsUnfinished (Text.trim line)

instance (line : String) : Decidable (TrimsSeparators line) :=
  have : Decidable (∀ c ∈ Text.blanksBefore line.toList, isSeparator c = true) :=
    List.decidableBAll _ _
  have : Decidable (∀ c ∈ Text.blanksAfter line.toList,
      isSeparator c = true ∧ ¬ EndsUnfinished (Text.trim line)) := List.decidableBAll _ _
  decidable_of_iff (_ ∧ _) ⟨fun h => ⟨h.1, h.2⟩, fun h => ⟨h.before, h.after⟩⟩

section

variable {line : String}

/-- A trimmed line with any characters ends in a word. -/
theorem scanPart_trimmed (h : Text.trimmed line.toList ≠ []) :
    ∃ tokens word, scanPart 0 none (Text.trimmed line.toList) = (tokens, some word) := by
  obtain ⟨front, c, htrimmed, hc⟩ := Text.exists_concat_of_trimmed h
  cases hscan : scanPart 0 none (Text.trimmed line.toList) with
  | mk tokens open? =>
    cases open? with
    | some word => exact ⟨tokens, word, rfl⟩
    | none =>
      rw [htrimmed] at hscan
      have hsep := isSeparator_of_scanPart (congrArg Prod.snd hscan)
      have hblank : Text.isBlank c = true := by
        simp only [isSeparator, Bool.or_eq_true, decide_eq_true_eq] at hsep
        rcases hsep with ((rfl | rfl) | rfl) | rfl <;> decide
      exact absurd (hc.symm.trans hblank) Bool.false_ne_true

variable {tokens : List Token} {word : OpenWord}

theorem length_trim (line : String) :
    (Text.trim line).length = (Text.trimmed line.toList).length := by
  rw [Text.trim, ← String.length_toList, String.toList_ofList]

/-- The words of a line that is trimmed, by what is open where the trimmed line ends. -/
theorem tokens_trim (h : scanPart 0 none (Text.trimmed line.toList) = (tokens, some word)) :
    (tokenize (Text.trim line)).tokens = tokens ++ [word.close (Text.trim line).length] :=
  (tokenize_of_scanPart_some (by rwa [Text.trim, String.toList_ofList])).1

theorem atRest_iff_of_scanPart
    (h : scanPart 0 none (Text.trimmed line.toList) = (tokens, some word)) :
    word.atRest = true ↔ ¬ EndsUnfinished (Text.trim line) := by
  rw [endsUnfinished_iff (by rwa [Text.trim, String.toList_ofList]), Bool.not_eq_false]

/-- The words of the whole line, read on from where the trimmed line ends. -/
theorem scanWords_trimmed (h : scanPart 0 none (Text.trimmed line.toList) = (tokens, some word)) :
    (scanWords 0 none (Text.trimmed line.toList ++ Text.blanksAfter line.toList)).1 =
      tokens ++ (scanWords (Text.trimmed line.toList).length (some word)
        (Text.blanksAfter line.toList)).1 := by
  rw [scanWords_append, h, Nat.zero_add]

theorem tokens_eq_scanWords (line : String) :
    (tokenize line).tokens = (scanWords 0 none (Text.blanksBefore line.toList ++
      (Text.trimmed line.toList ++ Text.blanksAfter line.toList))).1 := by
  rw [Text.blanks_trimmed]
  rfl

/-- Separators that separate can be taken away. -/
theorem TrimsSeparators.values_trim (hline : Text.trimmed line.toList ≠ [])
    (h : TrimsSeparators line) : (tokenize (Text.trim line)).values = (tokenize line).values := by
  obtain ⟨tokens, word, hscan⟩ := scanPart_trimmed hline
  have hrest : (scanWords (Text.trimmed line.toList).length (some word)
      (Text.blanksAfter line.toList)).1.map Token.value =
        [(word.close (Text.trim line).length).value] := by
    rw [length_trim]
    cases hafter : Text.blanksAfter line.toList with
    | nil => rfl
    | cons c more =>
      have hseparators := h.after
      rw [hafter] at hseparators
      have hword : word.atRest = true :=
        (atRest_iff_of_scanPart hscan).mpr (hseparators c List.mem_cons_self).2
      exact values_atRest hword (fun d hd => (hseparators d hd).1) _
  rw [TokenLine.values, TokenLine.values, tokens_trim hscan, tokens_eq_scanWords,
    values_separators h.before, scanWords_trimmed hscan, List.map_append, List.map_append, hrest]
  rfl

/-- Nothing else can be taken away: the letters of the line would be others. -/
theorem trimsSeparators_of_values (hline : Text.trimmed line.toList ≠ [])
    (h : (tokenize (Text.trim line)).values = (tokenize line).values) : TrimsSeparators line := by
  obtain ⟨tokens, word, hscan⟩ := scanPart_trimmed hline
  have hletters : letters tokens ++ (word.close (Text.trim line).length).value.toList =
      (Text.blanksBefore line.toList).filter (!isSeparator ·) ++ (letters tokens ++
        letters (scanWords (Text.trimmed line.toList).length (some word)
          (Text.blanksAfter line.toList)).1) := by
    have hsame : letters (tokenize (Text.trim line)).tokens = letters (tokenize line).tokens := by
      rw [letters_eq_flatMap, letters_eq_flatMap]
      exact congrArg (List.flatMap String.toList) h
    rw [tokens_trim hscan, letters_append, tokens_eq_scanWords,
      letters_blanks (fun _ => Text.isBlank_of_mem_blanksBefore), scanWords_trimmed hscan,
      letters_append, letters_singleton] at hsame
    exact hsame
  have hnone : (Text.blanksBefore line.toList).filter (!isSeparator ·) = [] := by
    have hlength := congrArg List.length hletters
    have hclose : (word.close (Text.trim line).length).value.toList.length ≤
        (letters (scanWords (Text.trimmed line.toList).length (some word)
          (Text.blanksAfter line.toList)).1).length :=
      length_close_le fun _ => Text.isBlank_of_mem_blanksAfter
    simp only [List.length_append] at hlength
    exact List.eq_nil_of_length_eq_zero (by omega)
  rw [hnone, List.nil_append, List.append_cancel_left_eq] at hletters
  have hafter := separators_of_letters (fun _ => Text.isBlank_of_mem_blanksAfter) hletters
  refine ⟨fun c hc => by simpa using List.filter_eq_nil_iff.mp hnone c hc, fun c hc => ?_⟩
  exact ⟨(hafter c hc).1, (atRest_iff_of_scanPart hscan).mp (hafter c hc).2⟩

/-- **The words of a line and of the trimmed line are the same** when trimming takes separators
only, and no other time. -/
theorem values_trim_iff (hline : Text.trimmed line.toList ≠ []) :
    (tokenize (Text.trim line)).values = (tokenize line).values ↔ TrimsSeparators line :=
  ⟨trimsSeparators_of_values hline, TrimsSeparators.values_trim hline⟩

/-- A line that is trimmed to something has a word. -/
theorem values_trim_ne_nil (hline : Text.trimmed line.toList ≠ []) :
    (tokenize (Text.trim line)).values ≠ [] := by
  obtain ⟨tokens, word, hscan⟩ := scanPart_trimmed hline
  rw [TokenLine.values, tokens_trim hscan]
  simp

end

end TreeShell
