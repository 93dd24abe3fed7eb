import TreeShell.Words.Lexer

/-!
# Writing a value as one word

A value that holds a blank, a quote or a backslash is written between quotes, with a backslash
before every backslash and every quote of the kind used. Any other value is written as it is. What
is written reads back as one word with that value; the empty value is the exception, for it is
written as nothing.
-/

set_option autoImplicit false

namespace TreeShell

/-- Whether a character cannot stand in an unquoted word. -/
def needsQuoting (c : Char) : Bool :=
  Text.isBlank c || c = '"' || c = '\'' || c = '\\'

/-- A character as it is written between quotes of the given kind. -/
def escapeChar (quote : Quote) (c : Char) : List Char :=
  if c = '\\' || c = quote.char then ['\\', c] else [c]

/-- A value between quotes of the given kind. -/
def quoted (quote : Quote) (value : List Char) : List Char :=
  quote.char :: value.flatMap (escapeChar quote) ++ [quote.char]

/-- A value as one word of a line. -/
def quoteWord (value : String) (quote : Quote) : String :=
  if value.toList.any needsQuoting then .ofList (quoted quote value.toList) else value

end TreeShell
