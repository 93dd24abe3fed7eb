import Mathlib.Tactic.SplitIfs
import TreeShell.Pattern.Glob
import TreeShell.Pattern.Parser

/-!
# Globs that are written as patterns

A glob is handed on as a written pattern, with a sign for each star and question mark and with
everything else escaped that might be taken for a sign. It is read as the pattern the glob stands
for (`Glob.parse_written`): no character is taken for more than itself, no star is changed by what
comes after it, and nothing can be wrong with what was written.
-/

set_option autoImplicit false

namespace TreeShell

namespace Pattern

/-! ## What is left to be read -/

/-- The pieces that are left of a source are the given ones, none of which is a lone backslash; and
up to there nothing was said of the pattern as a whole. -/
structure Source.Holds (source : Source) (pieces : List Piece) : Prop where
  rest : source.rest.map Prod.snd = pieces
  no_dangling : Piece.dangling ∉ pieces
  flags : source.flags = []
  asked : source.groups.asked = []

variable {source : Source} {piece : Piece} {pieces : List Piece} {c : Char} {r : Reading}

theorem Source.Holds.next? (h : source.Holds pieces) : source.next? = pieces.head? := by
  rw [Source.next?, ← h.rest, List.head?_map]

theorem Source.Holds.nextIs (h : source.Holds pieces) (hc : pieces.head? ≠ some (.plain c)) :
    source.nextIs c = false := by
  rw [Source.nextIs, h.next?]
  exact beq_eq_false_iff_ne.mpr hc

theorem Source.Holds.sound_eq (h : source.Holds pieces) : source.sound = .ok source := by
  unfold Source.sound
  split
  · next i others heq =>
    have hrest := h.rest
    rw [heq, List.map_cons] at hrest
    exact absurd (hrest ▸ List.mem_cons_self) h.no_dangling
  · rfl

theorem Source.Holds.advance (h : source.Holds (piece :: pieces)) :
    ∃ next, source.advance = .ok next ∧ next.Holds pieces := by
  have hnext : Source.Holds { source with rest := source.rest.drop 1 } pieces := by
    refine ⟨?_, fun hmem => h.no_dangling (List.mem_cons_of_mem _ hmem), h.flags, h.asked⟩
    rw [List.map_drop, h.rest, List.drop_one, List.tail_cons]
  exact ⟨_, hnext.sound_eq, hnext⟩

/-! ## Reading one piece -/

/-- The signs that stand for a pattern by themselves. -/
def signs : List (Char × Pattern) :=
  [('.', .anyChar), ('^', .anchor .lineStart), ('$', .anchor .lineEnd)]

theorem readSequence_end (h : source.Holds []) (steps : Nat) (r : Reading) (items : List Pattern) :
    readSequence (steps + 1) r items source = .ok (sequence items.reverse, source) := by
  rw [readSequence, h.next?]
  rfl

theorem readSequence_sign {p : Pattern} (hr : r.verbose = false)
    (h : source.Holds (.plain c :: pieces)) (hsign : (c, p) ∈ signs) :
    ∃ next, next.Holds pieces ∧ ∀ steps items,
      readSequence (steps + 1) r items source = readSequence steps r (p :: items) next := by
  obtain ⟨next, hadvance, hnext⟩ := h.advance
  refine ⟨next, hnext, fun steps items => ?_⟩
  rw [readSequence, h.next?]
  simp only [signs, List.mem_cons, Prod.mk.injEq, List.not_mem_nil, or_false] at hsign
  rcases hsign with ⟨rfl, rfl⟩ | ⟨rfl, rfl⟩ | ⟨rfl, rfl⟩ <;>
    simp only [List.head?_cons, hadvance, hr] <;> rfl

/-- A character without a meaning of its own stands for itself. -/
theorem readSequence_plain (hr : r.verbose = false) (h : source.Holds (.plain c :: pieces))
    (hc : c ∉ Glob.specialChars) :
    ∃ next, next.Holds pieces ∧ ∀ steps items,
      readSequence (steps + 1) r items source =
        readSequence steps r (.literal c.toNat :: items) next := by
  obtain ⟨next, hadvance, hnext⟩ := h.advance
  refine ⟨next, hnext, fun steps items => ?_⟩
  simp only [Glob.specialChars, List.mem_cons, List.not_mem_nil, or_false, not_or] at hc
  rw [readSequence, h.next?]
  simp only [List.head?_cons, hadvance, hr, hc, decide_false, Bool.or_self, Bool.false_and,
    Bool.false_eq_true, if_false]
  rfl

theorem readEscape_special (hc : c ∈ Glob.specialChars) (named : String → Option Nat) (start : Nat)
    (source : Source) : readEscape named start c source = .ok (.literal c.toNat, source) := by
  simp only [Glob.specialChars, List.mem_cons, List.not_mem_nil, or_false] at hc
  rcases hc with rfl | rfl | rfl | rfl | rfl | rfl | rfl | rfl | rfl | rfl | rfl | rfl | rfl | rfl |
    rfl | rfl | rfl | rfl | rfl | rfl | rfl | rfl | rfl | rfl <;> rfl

/-- A character that was escaped because it has a meaning stands for itself. -/
theorem readSequence_escaped (h : source.Holds (.escaped c :: pieces))
    (hc : c ∈ Glob.specialChars) :
    ∃ next, next.Holds pieces ∧ ∀ steps items,
      readSequence (steps + 1) r items source =
        readSequence steps r (.literal c.toNat :: items) next := by
  obtain ⟨next, hadvance, hnext⟩ := h.advance
  refine ⟨next, hnext, fun steps items => ?_⟩
  rw [readSequence, h.next?]
  simp only [List.head?_cons, hadvance]
  show (readEscape _ _ c next >>= _) = _
  rw [readEscape_special hc]
  rfl

/-- A star repeats the pattern before it, as long as no further sign comes after it. -/
theorem readSequence_star (hr : r.verbose = false) (h : source.Holds (.plain '*' :: pieces))
    (hsign : ∀ d ∈ ['?', '+'], pieces.head? ≠ some (.plain d)) :
    ∃ next, next.Holds pieces ∧ ∀ steps items,
      readSequence (steps + 1) r (.anyChar :: items) source =
        readSequence steps r (.repeats .anyChar 0 none .greedy :: items) next := by
  obtain ⟨next, hadvance, hnext⟩ := h.advance
  refine ⟨next, hnext, fun steps items => ?_⟩
  rw [readSequence, h.next?]
  simp only [List.head?_cons, hadvance, hr]
  show (repeatLast _ 0 none (.anyChar :: items) next >>= _) = _
  unfold repeatLast
  rw [hnext.nextIs (hsign '?' (by simp)), hnext.nextIs (hsign '+' (by simp))]
  rfl

/-! ## The pieces of a glob -/

/-- The pieces that a character of a glob is written in. -/
def piecesOf (c : Char) : List Piece :=
  if c = '*' then [.plain '.', .plain '*']
  else if c = '?' then [.plain '.']
  else if c ∈ Glob.specialChars then [.escaped c]
  else [.plain c]

theorem cut_plain (hc : c ≠ '\\') (i : Nat) (rest : List Char) :
    Source.cut i (c :: rest) = (i, .plain c) :: Source.cut (i + 1) rest := by
  rw [Source.cut]
  · exact fun _ _ h _ => hc h
  · exact fun h _ => hc h

theorem map_cut_writtenPiece (c : Char) (i : Nat) (rest : List Char) :
    ∃ j, (Source.cut i (Glob.writtenPiece c ++ rest)).map Prod.snd =
      piecesOf c ++ (Source.cut j rest).map Prod.snd := by
  unfold Glob.writtenPiece piecesOf Glob.escaped
  simp only [List.contains_iff_mem]
  split_ifs with hstar hone hspecial
  · exact ⟨i + 1 + 1, by simp [cut_plain]⟩
  · exact ⟨i + 1, by simp [cut_plain]⟩
  · exact ⟨i + 2, by simp [Source.cut]⟩
  · have hc : c ≠ '\\' := by
      rintro rfl
      exact hspecial (by decide)
    exact ⟨i + 1, by simp [cut_plain hc]⟩

theorem map_cut_flatMap (glob : List Char) (i : Nat) :
    (Source.cut i (glob.flatMap Glob.writtenPiece ++ ['$'])).map Prod.snd =
      glob.flatMap piecesOf ++ [.plain '$'] := by
  induction glob generalizing i with
  | nil => rfl
  | cons c rest ih =>
    rw [List.flatMap_cons, List.append_assoc]
    obtain ⟨j, hj⟩ := map_cut_writtenPiece c i (rest.flatMap Glob.writtenPiece ++ ['$'])
    rw [hj, ih, List.flatMap_cons, List.append_assoc]

theorem dangling_not_mem_piecesOf (c : Char) : Piece.dangling ∉ piecesOf c := by
  unfold piecesOf
  split_ifs <;> simp

/-- Of the signs that change how the star before them repeats, none begins what comes after it. -/
theorem head?_flatMap_piecesOf {d : Char} (hd : d ∈ ['?', '+']) (glob : List Char) :
    (glob.flatMap piecesOf ++ [Piece.plain '$']).head? ≠ some (.plain d) := by
  have hspecial : d ∈ Glob.specialChars := by
    simp only [List.mem_cons, List.not_mem_nil, or_false] at hd
    rcases hd with rfl | rfl <;> decide
  cases glob with
  | nil =>
    rintro ⟨rfl⟩
    simp at hd
  | cons c rest =>
    rw [List.flatMap_cons, List.append_assoc]
    unfold piecesOf
    split_ifs with hstar hone hescaped
    · rintro ⟨rfl⟩
      simp at hd
    · rintro ⟨rfl⟩
      simp at hd
    · exact fun h => nomatch h
    · rintro ⟨rfl⟩
      exact hescaped hspecial

/-- A character of a glob is read as the pattern it stands for. -/
theorem readSequence_piecesOf {more : List Piece} (hr : r.verbose = false)
    (h : source.Holds (piecesOf c ++ more))
    (hsign : ∀ d ∈ ['?', '+'], more.head? ≠ some (.plain d)) :
    ∃ next, next.Holds more ∧ ∀ steps items,
      readSequence (steps + (piecesOf c).length) r items source =
        readSequence steps r (Glob.piece c :: items) next := by
  unfold piecesOf at h ⊢
  unfold Glob.piece
  split_ifs at h ⊢ with hstar hone hspecial
  · obtain ⟨middle, hmiddle, hdot⟩ := readSequence_sign (p := .anyChar) hr h (by simp [signs])
    obtain ⟨next, hnext, hrepeat⟩ := readSequence_star hr hmiddle hsign
    exact ⟨next, hnext, fun steps items => (hdot _ _).trans (hrepeat _ _)⟩
  · exact readSequence_sign hr h (by simp [signs])
  · exact readSequence_escaped h hspecial
  · exact readSequence_plain hr h hspecial

/-- The characters of a glob are read one after another, up to the end. -/
theorem readSequence_glob (hr : r.verbose = false) (glob : List Char)
    (h : source.Holds (glob.flatMap piecesOf ++ [.plain '$'])) (steps : Nat)
    (items : List Pattern) :
    ∃ next, next.Holds [] ∧
      readSequence (steps + 2 + (glob.flatMap piecesOf).length) r items source =
        .ok (sequence (items.reverse ++ glob.map Glob.piece ++ [.anchor .lineEnd]), next) := by
  induction glob generalizing source items with
  | nil =>
    obtain ⟨next, hnext, hread⟩ :=
      readSequence_sign (p := .anchor .lineEnd) hr h (by simp [signs])
    refine ⟨next, hnext, (hread _ _).trans ?_⟩
    rw [readSequence_end hnext, List.reverse_cons, List.map_nil, List.append_nil]
  | cons c rest ih =>
    rw [List.flatMap_cons, List.append_assoc] at h
    obtain ⟨next, hnext, hread⟩ :=
      readSequence_piecesOf hr h fun d hd => head?_flatMap_piecesOf hd rest
    obtain ⟨last, hlast, hrest⟩ := ih hnext (Glob.piece c :: items)
    refine ⟨last, hlast, ?_⟩
    rw [List.flatMap_cons, List.length_append, Nat.add_comm (piecesOf c).length, ← Nat.add_assoc,
      hread, hrest, List.reverse_cons, List.map_cons, List.append_assoc items.reverse,
      List.singleton_append]

/-- A text without alternatives is read as the patterns one after another. -/
theorem readAlternatives_of_readSequence {next : Source} {p : Pattern} {steps : Nat}
    (h : readSequence steps r [] source = .ok (p, next)) (hnext : next.Holds []) :
    readAlternatives (steps + 1) r source = .ok (p, next) := by
  rw [readAlternatives, h]
  show (if next.nextIs '|' then _ else _) = _
  rw [hnext.nextIs (fun h => nomatch h)]
  rfl

/-- Patterns one after another can be carried out if each of them can. -/
theorem refused?_sequence {template : Bool} {ps : List Pattern}
    (h : ∀ p ∈ ps, p.refused? template = none) : (sequence ps).refused? template = none := by
  induction ps with
  | nil => rfl
  | cons p ps ih =>
    have hrest := ih fun q hq => h q (List.mem_cons_of_mem p hq)
    cases ps with
    | nil => exact h p List.mem_cons_self
    | cons q ps =>
      rw [sequence, refused?, h p List.mem_cons_self, hrest]
      · rfl
      · exact List.cons_ne_nil q ps

/-- Where nothing was said of the pattern as a whole, it is what was read. -/
theorem finished_eq {p : Pattern} (h : source.Holds []) (hp : p.refused? false = none) :
    finished p source = .ok p := by
  have hrest : source.rest = [] := List.map_eq_nil_iff.mp h.rest
  have hwhole : p.refused? (source.flags.contains .template) = none := h.flags ▸ hp
  unfold finished
  dsimp only
  rw [h.asked, hwhole, h.flags, hrest]
  rfl

end Pattern

namespace Glob

open Pattern

theorem refused?_piece (c : Char) : (piece c).refused? false = none := by
  unfold piece
  split_ifs <;> rfl

theorem refused?_pattern (glob : String) : (pattern glob).refused? false = none := by
  refine refused?_sequence fun p hp => ?_
  simp only [List.cons_append, List.mem_cons, List.mem_append, List.mem_map, List.not_mem_nil,
    or_false] at hp
  rcases hp with rfl | ⟨c, -, rfl⟩ | rfl
  · rfl
  · exact refused?_piece c
  · rfl

/-- **A glob that is written as a pattern is read as the pattern it stands for.** -/
theorem parse_written (glob : String) : Pattern.parse (written glob) = .ok (pattern glob) := by
  have hcut : (Source.cut 0 (written glob).toList).map Prod.snd =
      .plain '^' :: (glob.toList.flatMap piecesOf ++ [.plain '$']) := by
    rw [written, String.toList_ofList, List.cons_append, cut_plain (by decide), List.map_cons,
      map_cut_flatMap]
  obtain ⟨source, hsource⟩ : ∃ source,
      (⟨Source.cut 0 (written glob).toList, (written glob).length, [], {}⟩ : Source) = source :=
    ⟨_, rfl⟩
  have hholds : source.Holds (.plain '^' :: (glob.toList.flatMap piecesOf ++ [.plain '$'])) := by
    subst hsource
    exact ⟨hcut, by simp [dangling_not_mem_piecesOf], rfl, rfl⟩
  have hlength : source.rest.length = (glob.toList.flatMap piecesOf).length + 2 := by
    rw [← List.length_map (f := Prod.snd), hholds.rest]
    simp
  obtain ⟨r, hr⟩ : ∃ r, (⟨fun _ => none, .first, false⟩ : Reading) = r := ⟨_, rfl⟩
  have hterse : r.verbose = false := hr ▸ rfl
  obtain ⟨first, hfirst, hstart⟩ :=
    readSequence_sign (p := .anchor .lineStart) hterse hholds (by simp [signs])
  -- Every piece takes a step, and there are three for each.
  obtain ⟨steps, hsteps⟩ : ∃ steps, 3 * source.rest.length + 2 =
      steps + 2 + (glob.toList.flatMap piecesOf).length + 1 :=
    ⟨2 * source.rest.length + 1, by omega⟩
  obtain ⟨last, hlast, hread⟩ :=
    readSequence_glob hterse glob.toList hfirst steps [.anchor .lineStart]
  have hall : readSequence (3 * source.rest.length + 2) r [] source = .ok (pattern glob, last) := by
    rw [hsteps, hstart, hread]
    rfl
  unfold parse
  rw [hsource, hholds.sound_eq, hr]
  show (readAlternatives (3 * source.rest.length + 2 + 1) r source >>= _) = _
  rw [readAlternatives_of_readSequence hall hlast]
  exact finished_eq hlast (refused?_pattern glob)

end Glob

end TreeShell
