import TreeShell.Pattern.Matcher

/-!
# Globs

A glob is a pattern for whole names: `*` stands for any stretch without a line feed, `?` for one
character other than a line feed, and every other character for itself. It can be written as a
search pattern too, in which all characters with a meaning of their own are escaped.
-/

set_option autoImplicit false

namespace TreeShell.Glob

/-- The pattern one character of a glob stands for. -/
def piece (c : Char) : Pattern :=
  if c = '*' then .repeats .anyChar 0 none .greedy
  else if c = '?' then .anyChar
  else .literal c.toNat

/-- The pattern of a glob, from the start of the name to its end. -/
def pattern (glob : String) : Pattern :=
  .sequence (.anchor .lineStart :: glob.toList.map piece ++ [.anchor .lineEnd])

/-- The characters that have a meaning in a written pattern, or might have one. -/
def specialChars : List Char :=
  ['(', ')', '[', ']', '\x7b', '\x7d', '?', '*', '+', '-', '|', '^', '$', '\\', '.', '&', '~', '#',
    ' ', '\t', '\n', '\r', '\x0b', '\x0c']

/-- A character as it is written in a pattern to stand for itself. -/
def escaped (c : Char) : List Char :=
  if specialChars.contains c then ['\\', c] else [c]

/-- What one character of a glob is written as in a pattern. -/
def writtenPiece (c : Char) : List Char :=
  if c = '*' then ['.', '*'] else if c = '?' then ['.'] else escaped c

/-- A glob as a written pattern, from the start of the name to its end. -/
def written (glob : String) : String :=
  .ofList ('^' :: glob.toList.flatMap writtenPiece ++ ['$'])

/-- Whether a glob matches a name. -/
def accepts (glob name : String) : Bool :=
  (pattern glob).matchesStart false name.toList

end TreeShell.Glob
