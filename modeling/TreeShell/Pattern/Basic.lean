/-!
# Search patterns

A pattern describes stretches of a text. Single characters are described by a literal, by "any
character but a line feed" or by a set; an anchor describes an empty stretch at certain places.
Larger patterns are made by sequence, alternative and repetition. What a group describes can be kept
and asked for again behind it, and what is ahead or behind of a place can be looked at without going
there.

Literals are code points rather than characters, since an escape may name a code point that no
character has; such a literal matches nothing.
-/

set_option autoImplicit false

namespace TreeShell

/-- The classes of characters that have a name of their own. -/
inductive CharClass where
  | digit
  | space
  | word
deriving DecidableEq, Repr

/-- A member of a set of characters. -/
inductive SetItem where
  | code (n : Nat)
  | range (low high : Nat)
  | named (name : CharClass) (negated : Bool)
deriving DecidableEq, Repr

/-- A condition on a place in the text. `lineStart` is the start of the text and `lineEnd` its end,
or the place before a line feed that ends it, unless every line is to count; an edge of a word has a
character of the word on exactly one side. -/
inductive Anchor where
  | lineStart
  | lineEnd
  | textStart
  | textEnd
  | wordEdge
  | noWordEdge
deriving DecidableEq, Repr

/-- How a repetition chooses: as much as possible first, as little as possible first, or as much as
possible without coming back to it. -/
inductive Greed where
  | greedy
  | sparing
  | possessive
deriving DecidableEq, Repr

/-- The letters by which a pattern says how it is to be read and matched. -/
inductive Flag where
  | ignoreCase
  | locale
  | multiline
  | dotAll
  | verbose
  | template
  | ascii
  | unicode
deriving DecidableEq, Repr

/-- A search pattern. Groups that keep what they match are numbered from one. Of what is to be
behind a place the least and the greatest width is kept; it is looked for that far back, so that a
pattern is refused where they differ. -/
inductive Pattern where
  | empty
  | literal (code : Nat)
  | anyChar
  | oneOf (negated : Bool) (items : List SetItem)
  | anchor (place : Anchor)
  | capture (number : Nat) (inner : Pattern)
  | flagged (on off : List Flag) (inner : Pattern)
  | atomic (inner : Pattern)
  | ahead (negated : Bool) (inner : Pattern)
  | behind (negated : Bool) (least most : Nat) (inner : Pattern)
  | again (number : Nat)
  | condition (number : Nat) (yes no : Pattern)
  | seq (first second : Pattern)
  | alt (first second : Pattern)
  | repeats (inner : Pattern) (least : Nat) (most : Option Nat) (greed : Greed)
deriving DecidableEq, Repr

namespace Pattern

/-- Patterns one after another. -/
def sequence : List Pattern → Pattern
  | [] => empty
  | [p] => p
  | p :: rest => seq p (sequence rest)

/-! ## Widths -/

/-- No width is told that is larger. -/
def maxWidth : Nat := 0x10000000000000000

/-- The least and the greatest number of characters that a pattern matches, where those of the
groups that it asks for again are known. -/
def width (groups : Nat → Nat × Nat) : Pattern → Nat × Nat
  | empty | anchor _ | ahead .. | behind .. => (0, 0)
  | literal _ | anyChar | oneOf .. => (1, 1)
  | capture _ inner | flagged _ _ inner | atomic inner => inner.width groups
  | again number => groups number
  | condition _ yes no | alt yes no =>
    let (least, most) := yes.width groups
    let (otherLeast, otherMost) := no.width groups
    (min least otherLeast, max most otherMost)
  | seq first second =>
    let (least, most) := first.width groups
    let (moreLeast, moreMost) := second.width groups
    (min (least + moreLeast) maxWidth, min (most + moreMost) maxWidth)
  | repeats inner least most _ =>
    let (innerLeast, innerMost) := inner.width groups
    (min (innerLeast * least) maxWidth,
      match most with
      | some count => min (innerMost * count) maxWidth
      | none => if innerMost = 0 then 0 else maxWidth)

end Pattern

end TreeShell
