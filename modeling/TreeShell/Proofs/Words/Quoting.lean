import TreeShell.Proofs.Words.Scanning
import TreeShell.Words.Quoting

/-!
# A quoted word is read back

`quoteWord` puts quotes around a value only when a character of it could not stand in a bare word,
and it asks for more characters than the reader minds: the reader cuts at four of the blanks, and
quotes go around all of them (`needsQuoting_of_isSeparator`). So a bare value is read a character at
a time (`scanPart_plainWord`), and between quotes every character comes back, two at a time where a
backslash stands before it (`scanPart_escaped`). Either way one word is open at the end, at rest,
and holds the value (`scanPart_quoteWord`); only the empty value leaves nothing to read.
-/

set_option autoImplicit false

namespace TreeShell

namespace Quote

theorem ofChar?_char (quote : Quote) : ofChar? quote.char = some quote := by
  cases quote <;> rfl

theorem char_ne_backslash (quote : Quote) : quote.char ≠ '\\' := by
  cases quote <;> decide

theorem char_not_isSeparator (quote : Quote) : isSeparator quote.char = false := by
  cases quote <;> rfl

end Quote

/-! ## One character -/

theorem needsQuoting_of_isSeparator {c : Char} (h : isSeparator c = true) :
    needsQuoting c = true := by
  simp only [isSeparator, Bool.or_eq_true, decide_eq_true_eq] at h
  rcases h with ((rfl | rfl) | rfl) | rfl <;> decide

/-- A character that is one more of a word at rest: no separator, no quote and no backslash. -/
structure IsPlain (c : Char) : Prop where
  separator : isSeparator c = false
  quote : Quote.ofChar? c = none
  backslash : c ≠ '\\'

instance (c : Char) : Decidable (IsPlain c) :=
  decidable_of_iff (_ ∧ _ ∧ _) ⟨fun ⟨hseparator, hquote, hbackslash⟩ =>
    ⟨hseparator, hquote, hbackslash⟩, fun h => ⟨h.separator, h.quote, h.backslash⟩⟩

theorem isPlain_of_needsQuoting {c : Char} (h : needsQuoting c = false) : IsPlain c := by
  refine ⟨Bool.eq_false_iff.mpr fun hsep => by simp [needsQuoting_of_isSeparator hsep] at h, ?_, ?_⟩
  · simp only [needsQuoting, Bool.or_eq_false_iff, decide_eq_false_iff_not] at h
    simp [Quote.ofChar?, h.1.1.2, h.1.2]
  · rintro rfl
    exact nomatch h

theorem OpenWord.feed_plain {c : Char} (h : IsPlain c) (start : Nat) (value : List Char)
    (quote? : Option Quote) :
    OpenWord.feed ⟨start, value, quote?, none, false⟩ c =
      ⟨start, value ++ [c], quote?, none, false⟩ := by
  simp [feed, take, h.quote, h.backslash]

/-- Between quotes every character but the quote and the backslash is one more. -/
theorem OpenWord.feed_inside {quote : Quote} {c : Char} (hbackslash : c ≠ '\\')
    (hquote : c ≠ quote.char) (start : Nat) (value : List Char) (quote? : Option Quote) :
    OpenWord.feed ⟨start, value, quote?, some quote, false⟩ c =
      ⟨start, value ++ [c], quote?, some quote, false⟩ := by
  simp [feed, take, hbackslash, hquote]

theorem OpenWord.feed_backslash (start : Nat) (value : List Char) (quote? inside? : Option Quote) :
    OpenWord.feed ⟨start, value, quote?, inside?, false⟩ '\\' =
      ⟨start, value, quote?, inside?, true⟩ := rfl

theorem OpenWord.feed_waiting (start : Nat) (value : List Char) (quote? inside? : Option Quote)
    (c : Char) :
    OpenWord.feed ⟨start, value, quote?, inside?, true⟩ c =
      ⟨start, value ++ [c], quote?, inside?, false⟩ := rfl

/-! ## Reading values -/

theorem scanPart_plain {l : List Char} (h : ∀ c ∈ l, IsPlain c) (i start : Nat)
    (value : List Char) (quote? : Option Quote) :
    scanPart i (some ⟨start, value, quote?, none, false⟩) l =
      ([], some ⟨start, value ++ l, quote?, none, false⟩) := by
  induction l generalizing i value with
  | nil => simp [scanPart]
  | cons c rest ih =>
    obtain ⟨hc, hrest⟩ := List.forall_mem_cons.mp h
    rw [scanPart_feed (by rw [hc.separator, Bool.and_false]), OpenWord.feed_plain hc,
      ih hrest, List.append_assoc, List.singleton_append]

/-- A word of plain characters is read from where no word is open. -/
theorem scanPart_plainWord {l : List Char} (h : ∀ c ∈ l, IsPlain c) (hne : l ≠ []) (i : Nat) :
    scanPart i none l = ([], some ⟨i, l, none, none, false⟩) := by
  cases l with
  | nil => exact absurd rfl hne
  | cons c rest =>
    obtain ⟨hc, hrest⟩ := List.forall_mem_cons.mp h
    rw [scanPart, hc.separator, if_neg Bool.false_ne_true, OpenWord.empty, OpenWord.feed_plain hc,
      scanPart_plain hrest]
    rfl

theorem scanPart_escaped (quote : Quote) (l : List Char) (i start : Nat) (value : List Char)
    (quote? : Option Quote) :
    scanPart i (some ⟨start, value, quote?, some quote, false⟩) (l.flatMap (escapeChar quote)) =
      ([], some ⟨start, value ++ l, quote?, some quote, false⟩) := by
  induction l generalizing i value with
  | nil => simp [scanPart]
  | cons c rest ih =>
    rw [List.flatMap_cons, escapeChar]
    by_cases hc : c = '\\' ∨ c = quote.char
    · -- The backslash makes the word wait, and the next character is taken as it is.
      have hescape : (decide (c = '\\') || decide (c = quote.char)) = true := by simpa using hc
      rw [if_pos hescape, List.cons_append, List.singleton_append, scanPart_feed rfl,
        OpenWord.feed_backslash, scanPart_feed rfl, OpenWord.feed_waiting, ih, List.append_assoc,
        List.singleton_append]
    · have hplain : ¬ (decide (c = '\\') || decide (c = quote.char)) = true := by simpa using hc
      obtain ⟨hbackslash, hquote⟩ := not_or.mp hc
      rw [if_neg hplain, List.singleton_append, scanPart_feed rfl,
        OpenWord.feed_inside hbackslash hquote, ih, List.append_assoc, List.singleton_append]

/-- The quote a value is written in, if it needs one. -/
def quoteNeeded (value : String) (quote : Quote) : Option Quote :=
  if value.toList.any needsQuoting then some quote else none

/-- **A value written as a word is read as one word with that value.** -/
theorem scanPart_quoteWord {value : String} (h : value ≠ "") (quote : Quote) (i : Nat) :
    scanPart i none (quoteWord value quote).toList =
      ([], some ⟨i, value.toList, quoteNeeded value quote, none, false⟩) := by
  unfold quoteWord quoteNeeded
  by_cases hquotes : value.toList.any needsQuoting = true
  · rw [if_pos hquotes, if_pos hquotes, String.toList_ofList, quoted]
    have hopen : (OpenWord.empty i).feed quote.char = ⟨i, [], some quote, some quote, false⟩ := by
      simp [OpenWord.feed, OpenWord.empty, quote.ofChar?_char, quote.char_ne_backslash]
    rw [List.cons_append, scanPart, quote.char_not_isSeparator, if_neg Bool.false_ne_true, hopen,
      scanPart_append, scanPart_escaped]
    simp [scanPart, OpenWord.atRest, OpenWord.feed, quote.char_ne_backslash]
  · rw [if_neg hquotes, if_neg hquotes]
    have hplain : ∀ c ∈ value.toList, IsPlain c := by
      intro c hc
      exact isPlain_of_needsQuoting (by simpa using List.any_eq_false.mp (by simpa using hquotes) c hc)
    exact scanPart_plainWord hplain (fun hnil => h (String.toList_eq_nil_iff.mp hnil)) i

/-- A value put where no word is open is one more word of the line. -/
theorem tokenize_append_quoteWord {before value : String} {tokens : List Token}
    (hbefore : scanPart 0 none before.toList = (tokens, none)) (h : value ≠ "") (quote : Quote) :
    (tokenize (before ++ quoteWord value quote)).openQuote = false ∧
      (tokenize (before ++ quoteWord value quote)).values = tokens.map Token.value ++ [value] := by
  have hline : scanPart 0 none (before ++ quoteWord value quote).toList = (tokens,
      some ⟨0 + before.toList.length, value.toList, quoteNeeded value quote, none, false⟩) := by
    rw [String.toList_append, scanPart_append, hbefore, scanPart_quoteWord h, List.append_nil]
  obtain ⟨htokens, hopen⟩ := tokenize_of_scanPart_some hline
  exact ⟨hopen, by simp [TokenLine.values, htokens, OpenWord.close]⟩

end TreeShell
