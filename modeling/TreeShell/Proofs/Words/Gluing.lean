import TreeShell.Proofs.Words.Separation

/-!
# A name and a value in one word

A word may be written in pieces, a name as it is and after an equals sign a value in quotes. The
value is taken care of by its quotes. The name is read as it stands, and a quote or a backslash in
it is no character of the word any more. So the name is read back if and only if it has none
(`values_glued_iff`).

That it is not read back otherwise is a matter of counting. Each character that is read adds at most
itself to the word, and the first quote or backslash of the name adds nothing. So the first equals
sign of the word comes too early.
-/

set_option autoImplicit false

namespace TreeShell

namespace OpenWord

/-- What is read is added to the value, or is not. -/
theorem value_feed (word : OpenWord) (c : Char) :
    (word.feed c).value = word.value ∨ (word.feed c).value = word.value ++ [c] := by
  unfold feed
  split
  · exact Or.inr rfl
  · split
    · exact Or.inl rfl
    · split
      · split
        · exact Or.inl rfl
        · exact Or.inr rfl
      · exact Or.inl rfl
      · exact Or.inr rfl

theorem value_feed_plain {c : Char} (h : IsPlain c) (word : OpenWord) :
    (word.feed c).value = word.value ++ [c] := by
  have hchar : ∀ quote : Quote, c ≠ quote.char := by
    rintro quote rfl
    exact nomatch h.quote.symm.trans quote.ofChar?_char
  obtain ⟨start, value, quote?, inside?, escaping⟩ := word
  cases escaping with
  | true => rfl
  | false =>
    cases inside? with
    | none => simp [feed, take, h.backslash, h.quote]
    | some quote => simp [feed, take, h.backslash, hchar quote]

theorem sublist_foldl_feed (s : List Char) (word : OpenWord) :
    ((s.foldl feed word).value).Sublist (word.value ++ s) := by
  induction s generalizing word with
  | nil => simp
  | cons c s ih =>
    refine (ih (word.feed c)).trans ?_
    rcases word.value_feed c with hsame | hmore
    · rw [hsame]
      exact (List.sublist_cons_self c s).append_left word.value
    · have hmoved : (word.feed c).value ++ s = word.value ++ c :: s := by
        rw [hmore, List.append_assoc, List.singleton_append]
      exact hmoved ▸ List.Sublist.refl _

/-- A character that is not plain leaves the value of a word at rest as it is. -/
theorem value_feed_of_not_plain {c : Char} (hseparator : isSeparator c = false) (h : ¬ IsPlain c)
    (start : Nat) (value : List Char) (quote? : Option Quote) :
    (OpenWord.feed ⟨start, value, quote?, none, false⟩ c).value = value := by
  by_cases hbackslash : c = '\\'
  · subst hbackslash
    rfl
  · cases hquote : Quote.ofChar? c with
    | none => exact absurd ⟨hseparator, hquote, hbackslash⟩ h
    | some quote => simp [feed, hbackslash, hquote]

/-- A word at rest that takes in all that is read was read plain characters. -/
theorem isPlain_of_value_foldl {s : List Char} (hseparators : ∀ c ∈ s, isSeparator c = false)
    {start : Nat} {value : List Char} {quote? : Option Quote}
    (h : (s.foldl feed ⟨start, value, quote?, none, false⟩).value = value ++ s) :
    ∀ c ∈ s, IsPlain c := by
  induction s generalizing value with
  | nil => simp
  | cons c s ih =>
    rw [List.forall_mem_cons] at hseparators
    rw [List.foldl_cons] at h
    by_cases hplain : IsPlain c
    · rw [feed_plain hplain] at h
      exact List.forall_mem_cons.mpr ⟨hplain, ih hseparators.2 (by rw [h, List.append_cons])⟩
    · -- Nothing was added for `c`, and no more than the rest for the rest.
      have hlength := (sublist_foldl_feed s (feed ⟨start, value, quote?, none, false⟩ c)).length_le
      rw [h, value_feed_of_not_plain hseparators.1 hplain] at hlength
      simp only [List.length_append, List.length_cons] at hlength
      omega

end OpenWord

/-! ## Reading pieces -/

theorem scanPart_unseparated {s : List Char} (h : ∀ c ∈ s, isSeparator c = false) (i : Nat)
    (word : OpenWord) : scanPart i (some word) s = ([], some (s.foldl OpenWord.feed word)) := by
  induction s generalizing i word with
  | nil => rfl
  | cons c s ih =>
    rw [List.forall_mem_cons] at h
    rw [scanPart_feed (by rw [h.1, Bool.and_false]), ih h.2, List.foldl_cons]

theorem scanPart_unseparatedWord {s : List Char} (h : ∀ c ∈ s, isSeparator c = false)
    (hne : s ≠ []) (i : Nat) :
    scanPart i none s = ([], some (s.foldl OpenWord.feed (.empty i))) := by
  cases s with
  | nil => exact absurd rfl hne
  | cons c s =>
    rw [List.forall_mem_cons] at h
    rw [scanPart, h.1, if_neg Bool.false_ne_true, scanPart_unseparated h.2, List.foldl_cons]

/-- A value that is written after a word at rest is added to it. -/
theorem scanPart_quoteWord_after (value : String) (quote : Quote) (i start : Nat)
    (before : List Char) (quote? : Option Quote) :
    ∃ quote?', scanPart i (some ⟨start, before, quote?, none, false⟩)
        (quoteWord value quote).toList =
      ([], some ⟨start, before ++ value.toList, quote?', none, false⟩) := by
  rw [quoteWord]
  by_cases hquotes : value.toList.any needsQuoting = true
  · refine ⟨some quote, ?_⟩
    have hopen : OpenWord.feed ⟨start, before, quote?, none, false⟩ quote.char =
        ⟨start, before, some quote, some quote, false⟩ := by
      simp [OpenWord.feed, quote.ofChar?_char, quote.char_ne_backslash]
    rw [if_pos hquotes, String.toList_ofList, quoted, List.cons_append,
      scanPart_feed (by rw [quote.char_not_isSeparator, Bool.and_false]), hopen, scanPart_append,
      scanPart_escaped]
    simp [scanPart, OpenWord.atRest, OpenWord.feed, quote.char_ne_backslash]
  · have hplain : ∀ c ∈ value.toList, IsPlain c := by
      intro c hc
      exact isPlain_of_needsQuoting (by simpa using List.any_eq_false.mp (by simpa using hquotes) c hc)
    exact ⟨quote?, by rw [if_neg hquotes, scanPart_plain hplain]⟩

/-! ## The law -/

theorem decide_ne_of_not_mem {c : Char} {s : List Char} (h : c ∉ s) :
    ∀ d ∈ s, decide (d ≠ c) = true :=
  fun d hd => decide_eq_true fun heq : d = c => h (heq ▸ hd)

/-- What comes before the first of some character. -/
theorem takeWhile_append_cons {c : Char} {s : List Char} (h : c ∉ s) (more : List Char) :
    (s ++ c :: more).takeWhile (· ≠ c) = s := by
  rw [List.takeWhile_append_of_pos (decide_ne_of_not_mem h), List.takeWhile_cons_of_neg (by simp),
    List.append_nil]

/-- What comes from the first of some character on. -/
theorem dropWhile_append_cons {c : Char} {s : List Char} (h : c ∉ s) (more : List Char) :
    (s ++ c :: more).dropWhile (· ≠ c) = c :: more := by
  rw [List.dropWhile_append_of_pos (decide_ne_of_not_mem h), List.dropWhile_cons_of_neg (by simp)]

section

variable {before name : String} {tokens : List Token} (hbefore : scanPart 0 none before.toList =
  (tokens, none)) (hname : name ≠ "") (hseparators : ∀ c ∈ name.toList, isSeparator c = false)

include hbefore hname hseparators

/-- The words up to the equals sign, and the word that is open there. -/
theorem scanPart_glued :
    scanPart 0 none (before ++ (name ++ "=")).toList = (tokens, some
      ((name.toList.foldl OpenWord.feed (.empty before.toList.length)).feed '=')) := by
  have hne : name.toList ≠ [] := fun hnil => hname (String.toList_eq_nil_iff.mp hnil)
  have hequals : isSeparator '=' = false := rfl
  rw [String.toList_append, String.toList_append, scanPart_append, hbefore, scanPart_append,
    scanPart_unseparatedWord hseparators hne]
  simp [scanPart, hequals]

variable (value : String) (quote : Quote)

/-- The name and the value are read back if all of the name is plain. -/
theorem values_glued (hplain : ∀ c ∈ name.toList, IsPlain c) :
    (tokenize (before ++ (name ++ "=") ++ quoteWord value quote)).values =
      tokens.map Token.value ++ [name ++ "=" ++ value] := by
  have hne : name.toList ≠ [] := fun hnil => hname (String.toList_eq_nil_iff.mp hnil)
  have hword : name.toList.foldl OpenWord.feed (.empty before.toList.length) =
      ⟨before.toList.length, name.toList, none, none, false⟩ := by
    have hread := scanPart_unseparatedWord hseparators hne before.toList.length
    rw [scanPart_plainWord hplain hne] at hread
    exact (Option.some.inj (congrArg Prod.snd hread)).symm
  have hstart := scanPart_glued hbefore hname hseparators
  rw [hword, OpenWord.feed_plain (by decide : IsPlain '=')] at hstart
  obtain ⟨quote?, hafter⟩ := scanPart_quoteWord_after value quote
    (0 + (before ++ (name ++ "=")).toList.length) before.toList.length (name.toList ++ ['=']) none
  have hline : scanPart 0 none (before ++ (name ++ "=") ++ quoteWord value quote).toList =
      (tokens, some ⟨before.toList.length, name.toList ++ ['='] ++ value.toList, quote?, none,
        false⟩) := by
    rw [String.toList_append, scanPart_append, hstart, hafter, List.append_nil]
  rw [TokenLine.values, (tokenize_of_scanPart_some hline).1, List.map_append]
  have hvalue : String.ofList (name.toList ++ ['='] ++ value.toList) = name ++ "=" ++ value := by
    rw [← String.toList_inj]
    simp
  rw [← hvalue]
  rfl

/-- They are read back in no other case: what was lost of the name shows before the first equals
sign. -/
theorem isPlain_of_values_glued (hequals : '=' ∉ name.toList)
    (h : (tokenize (before ++ (name ++ "=") ++ quoteWord value quote)).values =
      tokens.map Token.value ++ [name ++ "=" ++ value]) : ∀ c ∈ name.toList, IsPlain c := by
  have hstart := scanPart_glued hbefore hname hseparators
  generalize hword : name.toList.foldl OpenWord.feed (.empty before.toList.length) = word at hstart
  have hnone : '=' ∉ word.value := fun hmem =>
    hequals (by simpa [OpenWord.empty] using
      (hword ▸ OpenWord.sublist_foldl_feed name.toList (.empty before.toList.length)).subset hmem)
  -- The word that is open after the equals sign is the one the value is part of.
  obtain ⟨long, later, hwords, -, -, hvalue⟩ := scanWords_some
    (0 + (before ++ (name ++ "=")).toList.length) (word.feed '=') (quoteWord value quote).toList
  have htokens : (tokenize (before ++ (name ++ "=") ++ quoteWord value quote)).tokens =
      tokens ++ long :: later := by
    rw [tokenize, String.toList_append, scanWords_append, hstart]
    dsimp only
    rw [hwords]
  rw [TokenLine.values, htokens, List.map_append, List.append_cancel_left_eq, List.map_cons,
    List.cons.injEq] at h
  obtain ⟨more, hmore⟩ := hvalue
  rw [h.1, OpenWord.value_feed_plain (by decide : IsPlain '='), String.toList_append,
    String.toList_append] at hmore
  have htake := congrArg (List.takeWhile (· ≠ '=')) hmore
  rw [List.append_assoc, List.append_assoc] at htake
  have hsame : word.value = name.toList :=
    (takeWhile_append_cons hnone more).symm.trans
      (htake.trans (takeWhile_append_cons hequals value.toList))
  have hfold : (name.toList.foldl OpenWord.feed
      ⟨before.toList.length, [], none, none, false⟩).value = [] ++ name.toList :=
    (congrArg OpenWord.value hword).trans hsame
  exact OpenWord.isPlain_of_value_foldl hseparators hfold

/-- **A name and a value are read back as one word** if and only if the name has no quote and no
backslash. -/
theorem values_glued_iff (hequals : '=' ∉ name.toList) :
    (tokenize (before ++ (name ++ "=") ++ quoteWord value quote)).values =
        tokens.map Token.value ++ [name ++ "=" ++ value] ↔
      ∀ c ∈ name.toList, IsPlain c :=
  ⟨isPlain_of_values_glued hbefore hname hseparators value quote hequals,
    values_glued hbefore hname hseparators value quote⟩

end

end TreeShell
