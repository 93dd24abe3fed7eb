import TreeShell.Proofs.Words.Quoting

/-!
# Words that are written as they are

Completion puts the name of a command on the line as it is, with a blank after it and no quotes
around it. Such a line is a command by that name when the name is a *bare word*: every character of
it is plain, and neither the trimming of lines nor the rule for comments takes hold of its ends. A
blank inside does no harm if it is none of the four that separate words.
-/

set_option autoImplicit false

namespace TreeShell

/-- A name that is read back when it is written without quotes. -/
structure IsBareWord (name : String) : Prop where
  plain : ∀ c ∈ name.toList, IsPlain c
  first : name.toList.head?.any (fun c => !Text.isBlank c && c != '#') = true
  last : name.toList.getLast?.any (fun c => !Text.isBlank c) = true

-- The characters of the name are gone through one by one, and not those of the whole type.
instance (name : String) : Decidable (IsBareWord name) :=
  have : Decidable (∀ c ∈ name.toList, IsPlain c) := List.decidableBAll IsPlain name.toList
  decidable_of_iff (_ ∧ _ ∧ _) ⟨fun ⟨hplain, hfirst, hlast⟩ => ⟨hplain, hfirst, hlast⟩,
    fun h => ⟨h.plain, h.first, h.last⟩⟩

namespace Text

/-- Between two characters that are no blanks nothing is trimmed. -/
theorem trimmed_concat_space {l : List Char} (hfirst : l.head?.any (fun c => !isBlank c) = true)
    (hlast : l.getLast?.any (fun c => !isBlank c) = true) : trimmed (l ++ [' ']) = l := by
  have hfront : (l ++ [' ']).dropWhile isBlank = l ++ [' '] := by
    cases l with
    | nil => exact nomatch hfirst
    | cons c rest =>
      have hc : isBlank c = false := by simpa using hfirst
      rw [List.cons_append, List.dropWhile_cons_of_neg (by simp [hc])]
  have hback : l.reverse.dropWhile isBlank = l.reverse := by
    rw [← List.head?_reverse] at hlast
    cases hl : l.reverse with
    | nil => rfl
    | cons c rest =>
      rw [hl] at hlast
      have hc : isBlank c = false := by simpa using hlast
      rw [List.dropWhile_cons_of_neg (by simp [hc])]
  have hspace : isBlank ' ' = true := by decide
  rw [trimmed, stripWhile, hfront, dropEndWhile, List.reverse_append, List.reverse_singleton,
    List.singleton_append, List.dropWhile_cons_of_pos hspace, hback, List.reverse_reverse]

end Text

namespace IsBareWord

variable {name : String}

theorem ne_nil (h : IsBareWord name) : name.toList ≠ [] := by
  intro hnil
  have hfirst := h.first
  rw [hnil] at hfirst
  exact nomatch hfirst

theorem trimmed_line (h : IsBareWord name) : Text.trimmed (name ++ " ").toList = name.toList := by
  rw [String.toList_append]
  refine Text.trimmed_concat_space ?_ h.last
  have hfirst := h.first
  cases hhead : name.toList.head? with
  | none => rw [hhead] at hfirst; exact nomatch hfirst
  | some c =>
    rw [hhead, Option.any_some, Bool.and_eq_true] at hfirst
    exact hfirst.1

/-- The line is the command of that name, without arguments. -/
theorem parse_line (h : IsBareWord name) :
    Command.parse (Text.trim (name ++ " ")) = ⟨name, []⟩ := by
  have hscan := scanPart_plainWord h.plain h.ne_nil 0
  have htokens := (tokenize_of_scanPart_some hscan).1
  rw [Text.trim, h.trimmed_line, String.ofList_toList, Command.parse]
  simp [TokenLine.values, htokens, OpenWord.close]

theorem isCommentOrBlank_line (h : IsBareWord name) (hsep : '/' ∉ name.toList) :
    isCommentOrBlank (name ++ " ") = false := by
  rw [isCommentOrBlank, h.trimmed_line]
  have hfirst := h.first
  split
  · rename_i hnil
    exact absurd hnil h.ne_nil
  · rename_i rest hcomment
    rw [hcomment] at hfirst
    exact nomatch hfirst
  · rename_i rest hcomment
    exact absurd (by simp [hcomment]) hsep
  · rfl

end IsBareWord

end TreeShell
