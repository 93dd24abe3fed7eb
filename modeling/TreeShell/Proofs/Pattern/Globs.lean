import TreeShell.Builtin.Find
import TreeShell.Proofs.Pattern.Languages
import TreeShell.Proofs.Pattern.Writing

/-!
# Names that a glob stands for

A glob stands for the names that can be cut into pieces, one for each of its characters: any stretch
without a line feed for a star, one character other than a line feed for a question mark, and for
any other character just that character (`Glob.language`). What `find -name` accepts are these
names, and the same with a line feed behind them, because the end of a pattern is also met before a
line feed that ends the text (`Glob.written_matches_names`).
-/

set_option autoImplicit false

namespace TreeShell.Glob

open Pattern

/-- The stretches that a character of a glob stands for. -/
def pieceLanguage (c : Char) : Language Char :=
  if c = '*' then stretches (· ≠ '\n')
  else if c = '?' then characters (· ≠ '\n')
  else characters (· = c)

/-- The names that a glob stands for. -/
def language (glob : String) : Language Char :=
  (glob.toList.map pieceLanguage).prod

/-- A glob stands for a name, or for what the name is but for a line feed at its end. -/
def Names (glob name : String) : Prop :=
  name.toList ∈ language glob ∨ ∃ core ∈ language glob, name.toList = core ++ ['\n']

theorem reads_piece (c : Char) : (piece c).Reads (pieceLanguage c) := by
  unfold piece pieceLanguage
  split_ifs
  · exact reads_repeats_anyChar
  · exact reads_anyChar
  · exact reads_literal c

theorem isSome_follow_lineEnd (cursor : Cursor) :
    (follow {} (sequence [.anchor .lineEnd]) cursor some).isSome = true ↔
      cursor.after = [] ∨ cursor.after = ['\n'] := by
  show (if cursor.meets {} .lineEnd then some cursor else none).isSome = true ↔ _
  simp [Cursor.meets]

/-- The pattern of a glob goes from the start of a name through its pieces to the end. -/
theorem accepts_iff_names (glob name : String) : accepts glob name = true ↔ Names glob name := by
  have hpattern : pattern glob =
      .sequence (.anchor .lineStart :: (glob.toList.map piece ++ [.anchor .lineEnd])) := rfl
  have hstart : Cursor.meets ⟨[], name.toList, []⟩ {} .lineStart = true := rfl
  rw [accepts, matchesStart, hpattern, follow_sequence_cons, follow, follow, if_pos hstart,
    follow_sequence_append, follow, reads_sequence reads_piece]
  simp only [isSome_follow_lineEnd]
  constructor
  · rintro ⟨core, hcore, rest, hname, hrest | hrest⟩
    · refine .inl ?_
      rw [hname, show rest = [] from hrest, List.append_nil]
      exact hcore
    · exact .inr ⟨core, hcore, hname.trans (congrArg _ hrest)⟩
  · rintro (hname | ⟨core, hcore, hname⟩)
    · exact ⟨name.toList, hname, [], (List.append_nil _).symm, .inl rfl⟩
    · exact ⟨core, hcore, ['\n'], hname, .inr rfl⟩

theorem names_iff_mem_language {name : String} (h : '\n' ∉ name.toList) (glob : String) :
    Names glob name ↔ name.toList ∈ language glob := by
  refine or_iff_left ?_
  rintro ⟨core, -, hname⟩
  rw [hname] at h
  simp at h

/-- **A glob matches the names it stands for.** The pattern a glob is written as is a proper one,
and it matches a name if and only if the glob stands for it, or for what it is but for a line feed
at its end. So it is for the names that `find` looks for, and of a name without a line feed nothing
is left out. -/
theorem written_matches_names (glob name : String) :
    (∃ p, Pattern.parse (written glob) = .ok p ∧
        (p.matchesStart false name.toList = true ↔ Names glob name)) ∧
      ('\n' ∉ name.toList → (accepts glob name = true ↔ name.toList ∈ language glob)) ∧
      ∀ (options : FindOptions) (entry : WalkEntry), options.name = some glob →
        (options.accepts entry = true ↔ (∀ kind ∈ options.kind, kind = entry.kind) ∧
          Names glob (Path.basename entry.path)) := by
  refine ⟨⟨_, parse_written glob, accepts_iff_names glob name⟩, fun hline => ?_, ?_⟩
  · rw [accepts_iff_names, names_iff_mem_language hline]
  · intro options entry hglob
    rw [FindOptions.accepts, Bool.and_eq_true, hglob]
    refine and_congr ?_ (accepts_iff_names glob _)
    cases options.kind <;> simp

theorem written_matches_names_brackets :
    '\n' ∉ "a.[bc]\\d".toList ∧ accepts "?.[*]\\*" "a.[bc]\\d" = true ∧
      "a.[bc]\\d".toList ∈ language "?.[*]\\*" ∧
      Names "?.[*]\\*" (Path.basename (WalkEntry.mk ["doc", "a.[bc]\\d"] .file 2).path) := by
  have hname : '\n' ∉ "a.[bc]\\d".toList := by decide
  have haccepts : accepts "?.[*]\\*" "a.[bc]\\d" = true := by decide
  obtain ⟨-, hline, hfind⟩ := written_matches_names "?.[*]\\*" "a.[bc]\\d"
  exact ⟨hname, haccepts, (hline hname).mp haccepts,
    ((hfind { name := some "?.[*]\\*" } ⟨["doc", "a.[bc]\\d"], .file, 2⟩ rfl).mp (by decide)).2⟩

/-- A bracket stands for itself, and a name may have a line feed too many. -/
example : ¬ Names "[ab]" "a" ∧ Names "[ab]" "[ab]\n" := by
  simp only [← accepts_iff_names]
  decide

end TreeShell.Glob
