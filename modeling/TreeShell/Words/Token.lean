import TreeShell.Text.Blank

/-!
# Words of a line

A line is cut into words at blanks, tabs, line feeds and carriage returns. Quotes of either kind
hold such characters in a word, and a backslash takes the next character as it is, inside quotes
too. Each word keeps the span it was read from, so that a single word of a line can be replaced.

A quote that is never closed runs to the end of the line, and a backslash with nothing after it
stands for itself.
-/

set_option autoImplicit false

namespace TreeShell

/-- The two quotes. -/
inductive Quote where
  | single
  | double
deriving DecidableEq, Repr

namespace Quote

/-- The character of a quote. -/
def char : Quote → Char
  | single => '\''
  | double => '"'

/-- The quote a character stands for. -/
def ofChar? (c : Char) : Option Quote :=
  if c = '\'' then some single else if c = '"' then some double else none

end Quote

/-- A word of a line: its value, and the span `[start, stop)` of the line it was read from, in
characters. `quote?` is the last quote opened in it. -/
structure Token where
  value : String
  start : Nat
  stop : Nat
  quote? : Option Quote
deriving DecidableEq, Repr

/-- Whether any part of the word was quoted. -/
def Token.hadQuotes (token : Token) : Bool :=
  token.quote?.isSome

/-- The words of a line, whether it ends in a separator, and whether it ends in open quotes. -/
structure TokenLine where
  tokens : List Token
  endsWithSeparator : Bool
  openQuote : Bool
deriving DecidableEq, Repr

/-- The values of the words of a line. -/
def TokenLine.values (line : TokenLine) : List String :=
  line.tokens.map Token.value

end TreeShell
