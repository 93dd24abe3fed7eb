import TreeShell.Text.Boundaries

/-!
# Blanks

The shell trims lines, settings and names. What it trims are the characters below: white space of
every script, and with it the four information separators U+001C to U+001F. Numbers are the one
exception: around a number only white space proper may stand (`isSpace`).
-/

set_option autoImplicit false

namespace TreeShell.Text

/-- The code points where the class of blanks begins or ends. -/
def blankBounds : List Nat :=
  [0x9, 0xE, 0x1C, 0x21, 0x85, 0x86, 0xA0, 0xA1, 0x1680, 0x1681, 0x2000, 0x200B, 0x2028, 0x202A,
    0x202F, 0x2030, 0x205F, 0x2060, 0x3000, 0x3001]

/-- White space of any script, and the information separators. -/
def isBlank (c : Char) : Bool :=
  within blankBounds c.toNat

/-- White space proper: a blank that is no information separator. -/
def isSpace (c : Char) : Bool :=
  isBlank c && !(0x1C ≤ c.toNat && c.toNat ≤ 0x1F)

/-- A text without the longest end all of whose characters satisfy `p`. -/
def dropEndWhile (p : Char → Bool) (s : List Char) : List Char :=
  (s.reverse.dropWhile p).reverse

/-- A text without the characters at either end that satisfy `p`. -/
def stripWhile (p : Char → Bool) (s : List Char) : List Char :=
  dropEndWhile p (s.dropWhile p)

/-- A text without the blanks at either end. -/
def trimmed (s : List Char) : List Char :=
  stripWhile isBlank s

/-- A string without the blanks at either end. -/
def trim (s : String) : String :=
  .ofList (trimmed s.toList)

/-- Every character that core counts as white space is a blank. -/
theorem isBlank_of_isWhitespace {c : Char} (h : c.isWhitespace = true) : isBlank c = true := by
  simp only [Char.isWhitespace, Bool.or_eq_true, decide_eq_true_eq] at h
  rcases h with ((rfl | rfl) | rfl) | rfl <;> decide

end TreeShell.Text
