import TreeShell.Pattern.Basic
import TreeShell.Text.Alphanumeric
import TreeShell.Text.Blank
import TreeShell.Text.Case
import TreeShell.Text.Digit

/-!
# Matching a pattern

The matcher walks a text with a cursor, which holds what is behind it and what is ahead, and what
the groups matched last. A pattern is matched together with its continuation: `follow mode p c k` is
the first way, in the order of the pattern's preferences, to match `p` from `c` on such that `k`
succeeds from the place reached.
-/

set_option autoImplicit false

namespace TreeShell

/-! ## Places -/

/-- What is kept of a group: where it was begun last, the text from there on, and where it was left
last. -/
structure Mark where
  start : Nat
  text : List Char
  stop? : Option Nat
deriving DecidableEq, Repr

/-- A place in a text: the characters before it, nearest first, and those after it; and what is kept
of the groups on the way there. -/
structure Cursor where
  before : List Char
  after : List Char
  marks : List (Nat × Mark) := []
deriving DecidableEq, Repr

/-- How a pattern is matched: without regard to case, with every line for itself, with line feeds as
any characters, and with seven-bit letters, digits and blanks only. -/
structure Mode where
  ignoreCase : Bool := false
  multiline : Bool := false
  dotAll : Bool := false
  ascii : Bool := false
deriving DecidableEq, Repr

namespace Mode

/-- The mode with some flags turned on and others off. Of the two types of characters, the one that
is turned on takes the place of the other. -/
def turned (on off : List Flag) (mode : Mode) : Mode where
  ignoreCase := (mode.ignoreCase || on.contains .ignoreCase) && !off.contains .ignoreCase
  multiline := (mode.multiline || on.contains .multiline) && !off.contains .multiline
  dotAll := (mode.dotAll || on.contains .dotAll) && !off.contains .dotAll
  ascii := on.contains .ascii || (mode.ascii && !on.contains .unicode)

/-- Membership in a named class. -/
def inClass (mode : Mode) (c : Char) : CharClass → Bool
  | .digit => if mode.ascii then c.isDigit else (Text.decimalValue? c).isSome
  | .space => if mode.ascii then c.isWhitespace || c = '\x0b' || c = '\x0c' else Text.isBlank c
  | .word => if mode.ascii then c.isAlphanum || c = '_' else Text.isWordChar c

/-- The code points that stand for the same character: without regard to case, all forms of the
letter. -/
def codesOf (mode : Mode) (c : Char) : List Nat :=
  if mode.ignoreCase then
    if mode.ascii then [c.toNat, c.toLower.toNat, c.toUpper.toNat] else Text.letterVariants c
  else [c.toNat]

/-- Whether a character belongs to a member of a set. -/
def inItem (mode : Mode) (c : Char) : SetItem → Bool
  | .code n => (mode.codesOf c).contains n
  | .range low high => (mode.codesOf c).any fun n => low ≤ n && n ≤ high
  | .named name negated => mode.inClass c name != negated

/-- Whether a character is the literal. -/
def isLiteral (mode : Mode) (code : Nat) (c : Char) : Bool :=
  c.toNat == code || (mode.codesOf c).contains code

/-- Whether a character is the same as one that was matched before. -/
def isSame (mode : Mode) (earlier c : Char) : Bool :=
  if mode.ignoreCase then
    if mode.ascii then earlier.toLower == c.toLower
    else Text.smallLetter earlier == Text.smallLetter c
  else earlier == c

end Mode

namespace Cursor

/-- How many characters are before a place. -/
def position (cursor : Cursor) : Nat :=
  cursor.before.length

/-- The place past the next character, which must satisfy `p`. -/
def eat? (cursor : Cursor) (p : Char → Bool) : Option Cursor :=
  match cursor.after with
  | c :: rest =>
    if p c then some { cursor with before := c :: cursor.before, after := rest } else none
  | [] => none

/-- The place past the next characters, which must be the same as those of a text. -/
def eatAll? (cursor : Cursor) (mode : Mode) : List Char → Option Cursor
  | [] => some cursor
  | c :: rest => do (← cursor.eat? (mode.isSame c)).eatAll? mode rest

/-- The place some characters before, if there are so many. -/
def back? (cursor : Cursor) (width : Nat) : Option Cursor :=
  if cursor.position < width then none
  else some
    { cursor with
      before := cursor.before.drop width
      after := (cursor.before.take width).reverse ++ cursor.after }

/-- The place with what was kept of the groups at another one. -/
def withMarks (cursor other : Cursor) : Cursor :=
  { cursor with marks := other.marks }

/-- The place with something kept of a group, in place of what was kept of it before. -/
def keep (cursor : Cursor) (group : Nat) (mark : Mark) : Cursor :=
  { cursor with marks := (group, mark) :: cursor.marks.filter (·.1 != group) }

/-- The place with a group begun there. Until it is left, it keeps where it was left before. -/
def begin (cursor : Cursor) (group : Nat) : Cursor :=
  let stop? := (cursor.marks.lookup group).bind Mark.stop?
  cursor.keep group ⟨cursor.position, cursor.after, stop?⟩

/-- The place with a group left there. -/
def leave (cursor : Cursor) (group : Nat) : Cursor :=
  match cursor.marks.lookup group with
  | some mark => cursor.keep group { mark with stop? := some cursor.position }
  | none => cursor

/-- What a group matched last. -/
def held? (cursor : Cursor) (group : Nat) : Option (List Char) :=
  match cursor.marks.lookup group with
  | some ⟨start, text, some stop⟩ => if start ≤ stop then some (text.take (stop - start)) else none
  | _ => none

/-- Whether exactly one of the neighbouring characters belongs to a word. -/
def atWordEdge (cursor : Cursor) (mode : Mode) : Bool :=
  cursor.before.head?.any (mode.inClass · .word) != cursor.after.head?.any (mode.inClass · .word)

/-- Whether a place meets the condition of an anchor. An empty text has no places away from the
edges of words. -/
def meets (cursor : Cursor) (mode : Mode) : Anchor → Bool
  | .lineStart => cursor.before.isEmpty || (mode.multiline && cursor.before.head? == some '\n')
  | .lineEnd =>
    cursor.after.isEmpty || cursor.after == ['\n'] ||
      (mode.multiline && cursor.after.head? == some '\n')
  | .textStart => cursor.before.isEmpty
  | .textEnd => cursor.after.isEmpty
  | .wordEdge => cursor.atWordEdge mode
  | .noWordEdge => !cursor.atWordEdge mode && !(cursor.before.isEmpty && cursor.after.isEmpty)

end Cursor

namespace Pattern

/-! ## The ways to match -/

/-- The first way to match repetitions of what `body` matches. `fuel` bounds the number of rounds.
Beyond the least number, no round is begun where the one before was (`last?`). -/
def followRepeats (body : Cursor → (Cursor → Option Cursor) → Option Cursor) (sparing : Bool) :
    Nat → Nat → Option Nat → Option Nat → Cursor → (Cursor → Option Cursor) → Option Cursor
  | 0, _, _, _, _, _ => none
  | fuel + 1, least + 1, most, last?, c, k =>
    body c fun c' => followRepeats body sparing fuel least (most.map (· - 1)) last? c' k
  | fuel + 1, 0, most, last?, c, k =>
    if most = some 0 || last? = some c.position then k c
    else
      let again := fun (_ : Unit) => body c fun c' =>
        followRepeats body sparing fuel 0 (most.map (· - 1)) (some c.position) c' k
      if sparing then (k c).or (again ()) else (again ()).or (k c)

/-- The first way to match a pattern from a place on and then to go on with `k`. -/
def follow : Mode → Pattern → Cursor → (Cursor → Option Cursor) → Option Cursor
  | _, empty, c, k => k c
  | mode, literal code, c, k => (c.eat? (mode.isLiteral code)).bind k
  | mode, anyChar, c, k => (c.eat? fun ch => mode.dotAll || ch != '\n').bind k
  | mode, oneOf negated items, c, k =>
    (c.eat? fun ch => items.any (mode.inItem ch) != negated).bind k
  | mode, anchor place, c, k => if c.meets mode place then k c else none
  | mode, capture number inner, c, k =>
    follow mode inner (c.begin number) fun c' => k (c'.leave number)
  | mode, flagged on off inner, c, k => follow (mode.turned on off) inner c k
  | mode, atomic inner, c, k => (follow mode inner c some).bind k
  | mode, ahead negated inner, c, k =>
    match follow mode inner c some with
    | some c' => if negated then none else k (c.withMarks c')
    | none => if negated then k c else none
  | mode, behind negated width _ inner, c, k =>
    match (c.back? width).bind fun c' => follow mode inner c' some with
    | some c' => if negated then none else k (c.withMarks c')
    | none => if negated then k c else none
  | mode, again number, c, k => ((c.held? number).bind (c.eatAll? mode)).bind k
  | mode, condition number yes no, c, k =>
    if (c.held? number).isSome then follow mode yes c k else follow mode no c k
  | mode, seq first second, c, k =>
    follow mode first c fun c' => follow mode second c' k
  | mode, alt first second, c, k =>
    match follow mode first c k with
    | some stop => some stop
    | none => follow mode second c k
  | mode, repeats inner least most greed, c, k =>
    let rounds := least + c.after.length + 2
    match greed with
    | .greedy => followRepeats (follow mode inner) false rounds least most none c k
    | .sparing => followRepeats (follow mode inner) true rounds least most none c k
    | .possessive =>
      -- No round is come back to either.
      (followRepeats (fun c k => (follow mode inner c some).bind k) false rounds least most none c
        some).bind k

/-- Whether the pattern matches at the beginning of a text. -/
def matchesStart (ignoreCase : Bool) (p : Pattern) (text : List Char) : Bool :=
  (follow { ignoreCase } p ⟨[], text, []⟩ some).isSome

/-- Whether the pattern matches somewhere from a place on. -/
def searchFrom (mode : Mode) (p : Pattern) (before : List Char) : List Char → Bool
  | [] => (follow mode p ⟨before, [], []⟩ some).isSome
  | c :: rest =>
    (follow mode p ⟨before, c :: rest, []⟩ some).isSome || searchFrom mode p (c :: before) rest

/-- Whether the pattern matches somewhere in a text. -/
def occursIn (ignoreCase : Bool) (p : Pattern) (text : String) : Bool :=
  searchFrom { ignoreCase } p [] text.toList

end Pattern

end TreeShell
