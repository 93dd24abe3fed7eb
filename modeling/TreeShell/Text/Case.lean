import TreeShell.Text.CaseTable

/-!
# Small letters

Commands are looked up, settings compared and searches made without regard to case. Two notions
are in use. `lower` writes a whole text in small letters: a capital sigma at the end of a word
becomes the final small sigma, and the dotted capital I becomes two characters. `letterVariants`
is for single characters, as a search pattern compares them: two characters are the same letter when
their small letters are equal or share a capital.
-/

set_option autoImplicit false

namespace TreeShell.Text

/-- The small letter of a capital, and any other character itself. -/
def smallLetter (c : Char) : Char :=
  if c.toNat < 128 then c.toLower
  else
    match capitalRuns.find? (·.holds c.toNat) with
    | some run => .ofNat (c.toNat + run.offset).toNat
    | none => c

/-- The nearest letter that is not passed over has case. -/
def casedAhead : List Char → Bool
  | [] => false
  | c :: rest =>
    if within caseIgnoredBounds c.toNat then casedAhead rest else within casedBounds c.toNat

/-- The small letters for one character between the text `before` it, nearest first, and the
text `after` it. -/
def smallLetters (before : List Char) (c : Char) (after : List Char) : List Char :=
  if c = 'Σ' then [if casedAhead before && !casedAhead after then 'ς' else 'σ']
  else if c = 'İ' then ['i', '\u0307']
  else [smallLetter c]

/-- A text in small letters. `before` is what precedes it, nearest first. -/
def lowered (before : List Char) : List Char → List Char
  | [] => []
  | c :: rest => smallLetters before c rest ++ lowered (c :: before) rest

/-- A string in small letters. -/
def lower (s : String) : String :=
  .ofList (lowered [] s.toList)

/-- The capitals whose small letter is the given one. -/
def capitalsOf (small : Nat) : List Nat :=
  capitalRuns.filterMap fun run =>
    let n := ((small : Int) - run.offset).toNat
    if run.holds n && (n : Int) + run.offset == (small : Int) then some n else none

/-- Seven-bit capitals and all others whose small letter is the given one, and that letter. -/
def letterForms (small : Nat) : List Nat :=
  small :: capitalsOf small

/-- The code points of all characters that are the same letter as `c` but for case. -/
def letterVariants (c : Char) : List Nat :=
  let small := (smallLetter c).toNat
  match smallLetterGroups.find? (·.contains small) with
  | some group => group.flatMap letterForms
  | none => letterForms small

end TreeShell.Text
