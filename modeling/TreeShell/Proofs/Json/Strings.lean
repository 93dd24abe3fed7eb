import TreeShell.Json.Reader
import TreeShell.Json.Writer

/-!
# Strings in documents

A string is read back character by character: the reader, put before the text of a character, goes
on behind it with the character read (`readChars_charText`). There are four kinds of texts, and only
one of them needs care. A code unit that is written as an escape may be followed by another escape,
and the reader looks at both to find out whether they are halves of one character; but no character
is written as a lone half.
-/

set_option autoImplicit false

namespace TreeShell.Json

variable {read rest : List Char}

/-! ## Escapes -/

theorem hexValue?_digitChar : ∀ d < 16, hexValue? (Nat.digitChar d) = some d := by
  decide

theorem hex4?_digitChar {n : Nat} (h : n < 0x10000) :
    hex4? (Nat.digitChar (n / 4096 % 16)) (Nat.digitChar (n / 256 % 16))
      (Nat.digitChar (n / 16 % 16)) (Nat.digitChar (n % 16)) = some n := by
  simp only [hex4?, hexValue?_digitChar _ (Nat.mod_lt _ (by decide : 0 < 16)),
    Option.bind_eq_bind, Option.bind_some, Option.some.injEq]
  omega

/-- A code unit that is no half of a character is read as its character. -/
theorem readChars_unitEscape {unit : Nat} (hunit : unit < 0x10000)
    (hwhole : ¬ (0xD800 ≤ unit ∧ unit ≤ 0xDFFF)) :
    readChars read (unitEscape unit ++ rest) = readChars (.ofNat unit :: read) rest := by
  have hhex := hex4?_digitChar hunit
  have hchar : unitChar unit = .ofNat unit := if_neg hwhole
  have hpair (low : Nat) : ¬ (0xD800 ≤ unit ∧ unit ≤ 0xDBFF ∧ 0xDC00 ≤ low ∧ low ≤ 0xDFFF) :=
    fun h => hwhole ⟨h.1, by omega⟩
  simp only [unitEscape, hex4, List.map_cons, List.map_nil, List.cons_append, List.nil_append]
  rw [readChars.eq_def]
  split
  · rename_i heq
    cases heq
  · -- Another escape follows, but the two are not halves of one character.
    rename_i heq
    cases heq
    rw [hhex]
    split
    · rename_i high low hhigh hlow
      cases hhigh
      rw [if_neg (hpair low), hchar]
    · rename_i unit' hunit' hlow
      cases hunit'
      rw [hchar]
    · rename_i hnone
      cases hnone
  · rename_i heq
    cases heq
    rw [hhex]
    dsimp only
    rw [hchar]
  · rename_i c rest' hpair' hunit' heq
    cases heq
    exact absurd rfl (hunit' _ _ _ _ _ rfl)
  · rename_i hletter heq
    cases heq
    exact (hletter _ _ rfl rfl).elim
  · rename_i heq
    cases heq

/-- A character above the code units is read from its two halves. -/
theorem readChars_pairEscape {high low : Nat} (hhigh : 0xD800 ≤ high ∧ high ≤ 0xDBFF)
    (hlow : 0xDC00 ≤ low ∧ low ≤ 0xDFFF) :
    readChars read (unitEscape high ++ unitEscape low ++ rest) =
      readChars (pairChar high low :: read) rest := by
  have hhexHigh := @hex4?_digitChar high (by omega)
  have hhexLow := @hex4?_digitChar low (by omega)
  simp only [unitEscape, hex4, List.map_cons, List.map_nil, List.cons_append, List.nil_append]
  rw [readChars.eq_def]
  split
  · rename_i heq
    cases heq
  · rename_i heq
    cases heq
    rw [hhexHigh, hhexLow]
    dsimp only
    rw [if_pos ⟨hhigh.1, hhigh.2, hlow⟩]
  · rename_i hpair heq
    cases heq
    exact (hpair _ _ _ _ _ rfl).elim
  · rename_i hpair hunit heq
    cases heq
    exact (hunit _ _ _ _ _ rfl rfl).elim
  · rename_i hletter heq
    cases heq
    exact (hletter _ _ rfl rfl).elim
  · rename_i heq
    cases heq

/-- A character that is written with a letter after a backslash. -/
theorem readChars_shortEscape {letter c : Char} (h : shortEscape? letter = some c) :
    readChars read ('\\' :: letter :: rest) = readChars (c :: read) rest := by
  have hne : letter ≠ 'u' := by
    rintro rfl
    exact nomatch h
  rw [readChars.eq_def]
  split
  · rename_i heq
    cases heq
  · rename_i heq
    cases heq
    exact absurd rfl hne
  · rename_i heq
    cases heq
    exact absurd rfl hne
  · rename_i heq
    cases heq
    rw [h]
  · rename_i hletter heq
    cases heq
    exact (hletter _ _ rfl rfl).elim
  · rename_i heq
    cases heq

/-- A character that is written as it is. -/
theorem readChars_plain {c : Char} (hquote : c ≠ '"') (hslash : c ≠ '\\') (hc : 0x20 ≤ c.toNat) :
    readChars read (c :: rest) = readChars (c :: read) rest := by
  rw [readChars.eq_def]
  split
  · rename_i heq
    cases heq
    exact absurd rfl hquote
  · rename_i heq
    cases heq
    exact absurd rfl hslash
  · rename_i heq
    cases heq
    exact absurd rfl hslash
  · rename_i heq
    cases heq
    exact absurd rfl hslash
  · rename_i heq
    cases heq
    rw [if_neg]
    simp only [Bool.or_eq_true, decide_eq_true_eq, not_or]
    exact ⟨by omega, hslash⟩
  · rename_i heq
    cases heq

/-! ## Strings -/

/-- **A character is read back from its text**, whatever follows. -/
theorem readChars_charText (c : Char) :
    readChars read (charText c ++ rest) = readChars (c :: read) rest := by
  have hvalid : c.toNat < 0xD800 ∨ 0xDFFF < c.toNat ∧ c.toNat < 0x110000 := c.valid
  unfold charText
  split
  · rename_i hc
    rw [hc]
    exact readChars_shortEscape rfl
  rename_i hquote
  split
  · rename_i hc
    rw [hc]
    exact readChars_shortEscape rfl
  rename_i hslash
  iterate 5
    split
    · rename_i hc
      rw [hc]
      exact readChars_shortEscape rfl
  split
  · rename_i hprintable
    simp only [Bool.and_eq_true, decide_eq_true_eq] at hprintable
    exact readChars_plain hquote hslash hprintable.1
  · split
    · rename_i hunit
      rw [readChars_unitEscape hunit (by omega), Char.ofNat_toNat]
    · rename_i hunit
      rw [readChars_pairEscape (by omega) (by omega)]
      have hvalue : 0x10000 + (0xD800 + (c.toNat - 0x10000) / 0x400 - 0xD800) * 0x400 +
          (0xDC00 + (c.toNat - 0x10000) % 0x400 - 0xDC00) = c.toNat := by omega
      rw [pairChar, hvalue, Char.ofNat_toNat]

theorem readChars_flatMap (chars : List Char) :
    readChars read (chars.flatMap charText ++ '"' :: rest) =
      .ok (.ofList (read.reverse ++ chars), rest) := by
  induction chars generalizing read with
  | nil =>
    rw [List.flatMap_nil, List.nil_append, List.append_nil, readChars]
  | cons c chars ih =>
    rw [List.flatMap_cons, List.append_assoc, readChars_charText, ih, List.reverse_cons,
      List.append_assoc]
    rfl

/-- **A string is read back from its text.** -/
theorem readChars_stringText (s : String) :
    ∃ t, (stringText s).toList = '"' :: t ∧ ∀ rest, readChars [] (t ++ rest) = .ok (s, rest) := by
  refine ⟨s.toList.flatMap charText ++ ['"'], by simp [stringText], fun rest => ?_⟩
  rw [List.append_assoc, List.singleton_append, readChars_flatMap, List.reverse_nil,
    List.nil_append, String.ofList_toList]

end TreeShell.Json
