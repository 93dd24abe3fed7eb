import TreeShell.Proofs.Words.CommandLine
import TreeShell.Proofs.Words.Separation

/-!
# The words of a line cut it up

Every character of a line is in the span of one word or separates words, and a word depends on its
own piece of the line only: read alone, the piece gives the word again (`tokenize_partitions`).
Completion relies on it when it puts another word in the place of one.

The value of a word is its piece without the characters that are not meant literally. Which these
are is said of the piece, with no reader in sight (`roles`): a backslash takes the character after
it, whatever that is, and a quote opens or closes unless the other quote is open. So a piece ends in
open quotes when the quotes that open or close in it are odd in number.
-/

set_option autoImplicit false

namespace TreeShell

/-! ## The characters of a word -/

/-- What a character is in a word for: itself, a quote around a part of it, or the next one. -/
inductive Role where
  | content
  | delimiter
  | escape
deriving DecidableEq, Repr

/-- The characters of a piece of text with their roles, when `inside?` is open where it begins. -/
def roles : Option Quote → List Char → List (Char × Role)
  | _, [] => []
  | _, ['\\'] => [('\\', .content)]
  | inside?, '\\' :: c :: rest => ('\\', .escape) :: (c, .content) :: roles inside? rest
  | none, c :: rest =>
    match Quote.ofChar? c with
    | some quote => (c, .delimiter) :: roles (some quote) rest
    | none => (c, .content) :: roles none rest
  | some quote, c :: rest =>
    if c = quote.char then (c, .delimiter) :: roles none rest
    else (c, .content) :: roles (some quote) rest

/-- What a piece of text says: its characters that stand for themselves, in order. -/
def contents (piece : List Char) : List Char :=
  ((roles none piece).filter (·.2 = .content)).map Prod.fst

/-- A piece of text ends in open quotes: of the quotes that open or close in it, the last opens. -/
def EndsInQuotes (piece : List Char) : Prop :=
  (roles none piece).countP (·.2 = .delimiter) % 2 = 1

theorem map_fst_roles (inside? : Option Quote) (piece : List Char) :
    (roles inside? piece).map Prod.fst = piece := by
  fun_induction roles inside? piece <;> simp_all

section

variable (start : Nat) (value : List Char) (quote? : Option Quote)

theorem OpenWord.feed_opening {c : Char} {quote : Quote} (hc : c ≠ '\\')
    (h : Quote.ofChar? c = some quote) :
    OpenWord.feed ⟨start, value, quote?, none, false⟩ c =
      ⟨start, value, some quote, some quote, false⟩ := by
  simp [feed, hc, h]

theorem OpenWord.feed_closing (quote : Quote) :
    OpenWord.feed ⟨start, value, quote?, some quote, false⟩ quote.char =
      ⟨start, value, quote?, none, false⟩ := by
  simp [feed, quote.char_ne_backslash]

theorem OpenWord.feed_bare {c : Char} (hc : c ≠ '\\') (h : Quote.ofChar? c = none) :
    OpenWord.feed ⟨start, value, quote?, none, false⟩ c =
      ⟨start, value ++ [c], quote?, none, false⟩ := by
  simp [feed, take, hc, h]

end

/-- The first character is no backslash when it is neither the last one nor before another. -/
theorem ne_backslash {c : Char} {rest : List Char} (hlast : c = '\\' → rest = [] → False)
    (hbefore : ∀ next more, c = '\\' → rest = next :: more → False) : c ≠ '\\' := by
  intro hc
  cases rest with
  | nil => exact hlast hc rfl
  | cons next more => exact hbefore next more hc rfl

/-- **A word gets the contents of the piece that is fed to it**, and is in quotes afterwards
according to the number of delimiters in it. -/
theorem foldl_feed (inside? : Option Quote) (piece : List Char) (start stop : Nat)
    (value : List Char) (quote? : Option Quote) :
    let word := piece.foldl OpenWord.feed ⟨start, value, quote?, inside?, false⟩
    (word.close stop).value.toList =
        value ++ ((roles inside? piece).filter (·.2 = .content)).map Prod.fst ∧
      word.inside?.isSome =
        (inside?.isSome ^^ decide ((roles inside? piece).countP (·.2 = .delimiter) % 2 = 1)) := by
  fun_induction roles inside? piece generalizing value quote? with
  | case1 => simp [OpenWord.close]
  | case2 => simp [OpenWord.close, OpenWord.feed_backslash]
  | case3 inside? c rest ih =>
    simpa [OpenWord.feed_backslash, OpenWord.feed_waiting] using ih (value ++ [c]) quote?
  | case4 c rest hlast hbefore quote hquote ih =>
    have hc := ne_backslash hlast hbefore
    simpa [OpenWord.feed_opening start value quote? hc hquote, decide_odd_succ]
      using ih value (some quote)
  | case5 c rest hlast hbefore hquote ih =>
    have hc := ne_backslash hlast hbefore
    simpa [OpenWord.feed_bare start value quote? hc hquote] using ih (value ++ [c]) quote?
  | case6 quote rest hlast hbefore ih =>
    simpa [OpenWord.feed_closing, decide_odd_succ] using ih value quote?
  | case7 quote c rest hlast hbefore hquote ih =>
    have hc := ne_backslash hlast hbefore
    simpa [OpenWord.feed_inside hc hquote start value quote?] using ih (value ++ [c]) quote?

/-! ## Pieces that are one word -/

/-- A piece of text is one word where it begins at position `i`: all of it goes into the word. -/
structure IsPiece (i : Nat) (piece : List Char) (word : OpenWord) : Prop where
  ne_nil : piece ≠ []
  scan : scanPart i (some (.empty i)) piece = ([], some word)

/-- Where no word ends, every character has been fed to the one that is open. -/
theorem eq_foldl_feed {i : Nat} {word after : OpenWord} {s : List Char}
    (h : scanPart i (some word) s = ([], some after)) : after = s.foldl OpenWord.feed word := by
  induction s generalizing i word with
  | nil =>
    simp only [scanPart, Prod.mk.injEq, Option.some.injEq, true_and] at h
    exact h.symm
  | cons c rest ih =>
    by_cases hends : (word.atRest && isSeparator c) = true
    · rw [scanPart, if_pos hends, Prod.mk.injEq] at h
      exact absurd h.1 (List.cons_ne_nil _ _)
    · rw [scanPart_feed (Bool.not_eq_true _ ▸ hends)] at h
      exact ih h

theorem OpenWord.start_foldl_feed (word : OpenWord) (s : List Char) :
    (s.foldl feed word).start = word.start := by
  induction s generalizing word with
  | nil => rfl
  | cons c rest ih => rw [List.foldl_cons, ih, start_feed]

namespace IsPiece

variable {i : Nat} {piece : List Char} {word : OpenWord}

theorem first {c : Char} (hc : isSeparator c = false) (i : Nat) :
    IsPiece i [c] ((OpenWord.empty i).feed c) :=
  ⟨List.cons_ne_nil c [], by rw [scanPart_feed (by rw [hc, Bool.and_false])]; rfl⟩

theorem concat (h : IsPiece i piece word) {c : Char}
    (hc : (word.atRest && isSeparator c) = false) : IsPiece i (piece ++ [c]) (word.feed c) :=
  ⟨List.append_ne_nil_of_left_ne_nil h.ne_nil [c], by
    rw [scanPart_append, h.scan, scanPart_feed hc]
    rfl⟩

theorem start (h : IsPiece i piece word) : word.start = i := by
  rw [eq_foldl_feed h.scan, OpenWord.start_foldl_feed, OpenWord.start_empty]

/-- The word starts and stops where its piece does. -/
theorem bounds (h : IsPiece i piece word) :
    (word.close (i + piece.length)).start = i ∧ 0 < piece.length ∧
      (word.close (i + piece.length)).stop = i + piece.length :=
  ⟨h.start, List.length_pos_iff.mpr h.ne_nil, rfl⟩

theorem value (h : IsPiece i piece word) (stop : Nat) :
    (word.close stop).value.toList = contents piece := by
  rw [eq_foldl_feed h.scan]
  exact (foldl_feed none piece i stop [] none).1

theorem endsInQuotes_iff (h : IsPiece i piece word) :
    EndsInQuotes piece ↔ word.inside?.isSome = true := by
  rw [eq_foldl_feed h.scan, OpenWord.empty, (foldl_feed none piece i 0 [] none).2, EndsInQuotes]
  simp

/-- Alone on a line a piece is its word, and nothing else. -/
theorem scanWords_eq (h : IsPiece i piece word) :
    scanWords i none piece = ([word.close (i + piece.length)], word.inside?.isSome) := by
  obtain ⟨c, rest, hpiece⟩ := List.exists_cons_of_ne_nil h.ne_nil
  have hscan := h.scan
  have hc : isSeparator c = false := by
    refine Bool.eq_false_iff.mpr fun hc => ?_
    have hends : ((OpenWord.empty i).atRest && isSeparator c) = true := hc
    rw [hpiece, scanPart, if_pos hends, Prod.mk.injEq] at hscan
    exact absurd hscan.1 (List.cons_ne_nil _ _)
  have hsame : scanPart i none piece = scanPart i (some (.empty i)) piece := by
    rw [hpiece, scanPart_feed (by rw [hc, Bool.and_false]), scanPart, hc,
      if_neg Bool.false_ne_true]
  rw [TreeShell.scanWords_eq, hsame, hscan]
  rfl

end IsPiece

/-! ## Where the cuts are -/

/-- The characters of a text in the span of a word. -/
def Token.piece (token : Token) (s : List Char) : List Char :=
  (s.take token.stop).drop token.start

theorem Token.toList_raw (token : Token) (line : String) :
    (token.raw line).toList = token.piece line.toList := by
  rw [raw, Text.dropFirst, Text.firstPart, String.toList_ofList, String.toList_ofList, piece]

/-- How the words of a text that begins at position `i` cut it, and whether quotes are open at its
end. -/
inductive Cut : Nat → List Char → List Token → Bool → Prop
  | nil (i : Nat) : Cut i [] [] false
  | separator {i : Nat} {c : Char} {s : List Char} {tokens : List Token} {unclosed : Bool} :
    isSeparator c = true → Cut (i + 1) s tokens unclosed → Cut i (c :: s) tokens unclosed
  | last {i : Nat} {piece : List Char} {word : OpenWord} :
    IsPiece i piece word → Cut i piece [word.close (i + piece.length)] word.inside?.isSome
  | word {i : Nat} {piece : List Char} {word : OpenWord} {c : Char} {s : List Char}
      {tokens : List Token} {unclosed : Bool} :
    IsPiece i piece word → word.atRest = true → isSeparator c = true →
      Cut (i + piece.length + 1) s tokens unclosed →
        Cut i (piece ++ c :: s) (word.close (i + piece.length) :: tokens) unclosed

/-- The reader cuts the text, and where it is in a word it cuts the piece it has read as well. -/
theorem cut_scanWords_from (i : Nat) (s : List Char) :
    Cut i s (scanWords i none s).1 (scanWords i none s).2 ∧
      ∀ {start piece word}, IsPiece start piece word → start + piece.length = i →
        Cut start (piece ++ s) (scanWords i (some word) s).1 (scanWords i (some word) s).2 := by
  induction s generalizing i with
  | nil =>
    refine ⟨.nil i, ?_⟩
    rintro start piece word h rfl
    rw [List.append_nil]
    exact .last h
  | cons c rest ih =>
    obtain ⟨hnone, hsome⟩ := ih (i + 1)
    constructor
    · rw [scanWords]
      split
      · next hc => exact .separator hc hnone
      · next hc => exact hsome (.first (Bool.not_eq_true _ ▸ hc) i) rfl
    · rintro start piece word h rfl
      rw [scanWords]
      split
      · next hends =>
        obtain ⟨hrest, hc⟩ := Bool.and_eq_true_iff.mp hends
        exact .word h hrest hc hnone
      · next hends =>
        have hpiece := hsome (h.concat (Bool.not_eq_true _ ▸ hends)) (by simp; omega)
        rwa [List.append_assoc] at hpiece

/-- In a line that has a piece at the position it was read from, the piece is that of its word. -/
theorem IsPiece.piece_close {i : Nat} {piece : List Char} {word : OpenWord}
    (h : IsPiece i piece word) {before : List Char} (hi : before.length = i) (after : List Char) :
    (word.close (i + piece.length)).piece (before ++ (piece ++ after)) = piece := by
  have hstop : (word.close (i + piece.length)).stop = (before ++ piece).length := by
    rw [List.length_append, hi, h.bounds.2.2]
  rw [Token.piece, hstop, h.bounds.1, ← hi, ← List.append_assoc, List.take_left, List.drop_left]

namespace Cut

variable {i : Nat} {s : List Char} {tokens : List Token} {unclosed : Bool}

/-- Each span has a character of the text at least, and no other characters. -/
theorem bounds (h : Cut i s tokens unclosed) :
    ∀ t ∈ tokens, i ≤ t.start ∧ t.start < t.stop ∧ t.stop ≤ i + s.length := by
  induction h with
  | nil i => simp
  | separator hc _ ih =>
    intro t ht
    have hbounds := ih t ht
    rw [List.length_cons]
    omega
  | last h =>
    intro t ht
    obtain rfl := List.mem_singleton.mp ht
    have hbounds := h.bounds
    omega
  | word h hrest hc _ ih =>
    intro t ht
    rw [List.length_append, List.length_cons]
    rcases List.mem_cons.mp ht with rfl | ht
    · have hbounds := h.bounds
      omega
    · have hbounds := ih t ht
      omega

/-- Between two spans there is a character at least. -/
theorem apart (h : Cut i s tokens unclosed) : tokens.Pairwise (·.stop < ·.start) := by
  induction h with
  | nil i => exact .nil
  | separator hc _ ih => exact ih
  | last h => exact List.pairwise_singleton ..
  | word h hrest hc hcut ih =>
    refine List.pairwise_cons.mpr ⟨fun t ht => ?_, ih⟩
    exact Nat.lt_of_succ_le (hcut.bounds t ht).1

/-- A character in no span separates words. -/
theorem gaps (h : Cut i s tokens unclosed) {k : Nat} {c : Char} (hk : s[k]? = some c)
    (hgap : ∀ t ∈ tokens, ¬ (t.start ≤ i + k ∧ i + k < t.stop)) : isSeparator c = true := by
  induction h generalizing k with
  | nil i => exact nomatch hk
  | separator hc _ ih =>
    cases k with
    | zero =>
      rw [List.getElem?_cons_zero, Option.some.injEq] at hk
      rwa [← hk]
    | succ k =>
      rw [List.getElem?_cons_succ] at hk
      refine ih hk fun t ht => ?_
      have hout := hgap t ht
      omega
  | last h =>
    have hout := hgap _ (List.mem_singleton_self _)
    obtain ⟨hlt, -⟩ := List.getElem?_eq_some_iff.mp hk
    have hbounds := h.bounds
    omega
  | @word i piece word w s tokens unclosed h hrest hw _ ih =>
    have hout := hgap _ (List.mem_cons_self ..)
    have hbounds := h.bounds
    have hge : piece.length ≤ k := by omega
    obtain ⟨m, rfl⟩ := Nat.exists_eq_add_of_le hge
    rw [List.getElem?_append_right hge, Nat.add_sub_cancel_left] at hk
    cases m with
    | zero =>
      rw [List.getElem?_cons_zero, Option.some.injEq] at hk
      rwa [← hk]
    | succ m =>
      rw [List.getElem?_cons_succ] at hk
      refine ih hk fun t ht => ?_
      have hlater := hgap t (List.mem_cons_of_mem _ ht)
      omega

/-- Each word is that of its own piece, wherever in a line the text stands. -/
theorem pieces (h : Cut i s tokens unclosed) (before : List Char) (hi : before.length = i) :
    ∀ t ∈ tokens, ∃ word, IsPiece t.start (t.piece (before ++ s)) word ∧ t = word.close t.stop := by
  induction h generalizing before with
  | nil i => simp
  | @separator i c s tokens unclosed hc _ ih =>
    have hnext := ih (before ++ [c]) (by simp [hi])
    rwa [List.append_assoc, List.singleton_append] at hnext
  | @last i piece word h =>
    intro t ht
    obtain rfl := List.mem_singleton.mp ht
    have hpiece := h.piece_close hi []
    rw [List.append_nil] at hpiece
    refine ⟨word, ?_, rfl⟩
    rw [hpiece, h.bounds.1]
    exact h
  | @word i piece word w s tokens unclosed h hrest hw _ ih =>
    intro t ht
    rcases List.mem_cons.mp ht with rfl | ht
    · refine ⟨word, ?_, rfl⟩
      rw [h.piece_close hi, h.bounds.1]
      exact h
    · have hline : before ++ (piece ++ w :: s) = before ++ piece ++ [w] ++ s := by simp
      rw [hline]
      exact ih (before ++ piece ++ [w]) (by simp [hi, Nat.add_assoc]) t ht

/-- Quotes are open at the end of the text when they are at the end of the last word's piece. -/
theorem unclosed_iff (h : Cut i s tokens unclosed) (before : List Char) (hi : before.length = i) :
    unclosed = true ↔
      ∃ last, tokens.getLast? = some last ∧ EndsInQuotes (last.piece (before ++ s)) := by
  induction h generalizing before with
  | nil i => simp
  | @separator i c s tokens unclosed hc _ ih =>
    have hnext := ih (before ++ [c]) (by simp [hi])
    rwa [List.append_assoc, List.singleton_append] at hnext
  | @last i piece word h =>
    have hpiece := h.piece_close hi []
    rw [List.append_nil] at hpiece
    rw [← h.endsInQuotes_iff]
    simp [hpiece]
  | @word i piece word w s tokens unclosed h hrest hw _ ih =>
    have hline : before ++ (piece ++ w :: s) = before ++ piece ++ [w] ++ s := by simp
    have hnext := ih (before ++ piece ++ [w]) (by simp [hi, Nat.add_assoc])
    cases tokens with
    | nil =>
      -- The word is the last one, and being at rest it has no open quotes.
      have hclosed : ¬ EndsInQuotes piece := by
        rw [h.endsInQuotes_iff]
        rw [OpenWord.atRest] at hrest
        cases hinside : word.inside? <;> simp [hinside] at hrest ⊢
      rw [hnext]
      simp [h.piece_close hi, hclosed]
    | cons next rest => rw [hnext, hline, List.getLast?_cons_cons]

end Cut

/-! ## The law -/

/-- The words of a line and the characters between them make up the line. -/
structure Partitions (line : String) (words : TokenLine) : Prop where
  /-- Every span has a character of the line at least, and none that is not in the line. -/
  inLine : ∀ t ∈ words.tokens, t.start < t.stop ∧ t.stop ≤ line.length
  /-- The spans come in order, with a character at least between two of them. -/
  apart : words.tokens.Pairwise (·.stop < ·.start)
  /-- A character in no span separates words. -/
  gaps : ∀ k c, line.toList[k]? = some c →
    (∀ t ∈ words.tokens, ¬ (t.start ≤ k ∧ k < t.stop)) → c ∈ [' ', '\t', '\n', '\r']
  /-- A piece on a line of its own is one word again, the same one. -/
  alone : ∀ t ∈ words.tokens,
    (tokenize (t.raw line)).tokens = [{ t with start := 0, stop := (t.raw line).length }]
  /-- The characters of a piece all have a role. -/
  complete : ∀ t ∈ words.tokens, (roles none (t.raw line).toList).map Prod.fst = (t.raw line).toList
  /-- The value is the piece without quotes that open or close and backslashes that take the next
  character. -/
  value : ∀ t ∈ words.tokens, t.value.toList = contents (t.raw line).toList
  /-- Quotes are open at the end when they are at the end of the last piece. -/
  openQuote : words.openQuote = true ↔
    ∃ last, words.tokens.getLast? = some last ∧ EndsInQuotes (last.raw line).toList

/-- A piece that is cut off from its line is read as the same word. -/
theorem IsPiece.tokenize_ofList {i : Nat} {piece : List Char} {word : OpenWord}
    (h : IsPiece i piece word) (stop : Nat) :
    (tokenize (.ofList piece)).tokens =
      [{ word.close stop with start := 0, stop := piece.length }] := by
  have hscan := scanWords_tokenize i (.ofList piece)
  rw [String.toList_ofList, h.scanWords_eq, Prod.mk.injEq] at hscan
  obtain ⟨⟨value, start, last, quote?⟩, htokens, hshift⟩ :=
    List.map_eq_singleton_iff.mp hscan.1.symm
  simp only [Token.shift, OpenWord.close, Token.mk.injEq] at hshift
  obtain ⟨hvalue, hstart, hstop, hquote⟩ := hshift
  have hzero : start = 0 := by rw [h.start] at hstart; omega
  have hlength : last = piece.length := by omega
  rw [htokens, hvalue, hquote, hzero, hlength]
  rfl

/-- **The words of a line partition it.** -/
theorem tokenize_partitions (line : String) : Partitions line (tokenize line) := by
  have hcut : Cut 0 line.toList (tokenize line).tokens (tokenize line).openQuote :=
    (cut_scanWords_from 0 line.toList).1
  have hpieces : ∀ t ∈ (tokenize line).tokens,
      ∃ word, IsPiece t.start (t.raw line).toList word ∧ t = word.close t.stop := by
    intro t ht
    rw [t.toList_raw]
    exact hcut.pieces [] rfl t ht
  constructor
  case inLine =>
    intro t ht
    have hbounds := hcut.bounds t ht
    rw [String.length_toList] at hbounds
    omega
  case apart => exact hcut.apart
  case gaps =>
    intro k c hk hgap
    have hc : isSeparator c = true := hcut.gaps hk (by simpa using hgap)
    simpa [isSeparator, or_assoc] using hc
  case alone =>
    intro t ht
    obtain ⟨word, hpiece, hclose⟩ := hpieces t ht
    have hword := hpiece.tokenize_ofList t.stop
    rwa [String.ofList_toList, String.length_toList, ← hclose] at hword
  case complete => exact fun t _ => map_fst_roles none _
  case value =>
    intro t ht
    obtain ⟨word, hpiece, hclose⟩ := hpieces t ht
    have hvalue := hpiece.value t.stop
    rwa [← hclose] at hvalue
  case openQuote =>
    have hunclosed := hcut.unclosed_iff [] rfl
    simpa only [Token.toList_raw, List.nil_append] using hunclosed

end TreeShell
