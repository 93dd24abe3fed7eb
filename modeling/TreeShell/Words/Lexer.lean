import TreeShell.Words.Token

/-!
# Reading the words of a line

The reader holds at most one unfinished word (`OpenWord`) and takes the line a character at a time.
A word is *at rest* when no quote is open in it and no backslash waits for its character; only then
does a separator end it. Everything else is fed to the word.
-/

set_option autoImplicit false

namespace TreeShell

/-- The characters that separate words. -/
def isSeparator (c : Char) : Bool :=
  c = ' ' || c = '\t' || c = '\n' || c = '\r'

/-- A word whose end has not been seen: where it started, its value so far, the last quote opened
in it, the quote it is inside of, and whether a backslash waits for its character. -/
structure OpenWord where
  start : Nat
  value : List Char
  quote? : Option Quote
  inside? : Option Quote
  escaping : Bool
deriving DecidableEq, Repr

namespace OpenWord

/-- A word of which nothing has been read. -/
def empty (start : Nat) : OpenWord :=
  ⟨start, [], none, none, false⟩

/-- The word with one more character in its value. -/
def take (word : OpenWord) (c : Char) : OpenWord :=
  { word with value := word.value ++ [c], escaping := false }

/-- The word after one more character of the line. -/
def feed (word : OpenWord) (c : Char) : OpenWord :=
  if word.escaping then word.take c
  else if c = '\\' then { word with escaping := true }
  else
    match word.inside?, Quote.ofChar? c with
    | some inner, _ => if c = inner.char then { word with inside? := none } else word.take c
    | none, some quote => { word with quote? := some quote, inside? := some quote }
    | none, none => word.take c

/-- No quote is open and no backslash waits. -/
def atRest (word : OpenWord) : Bool :=
  !word.escaping && word.inside?.isNone

/-- The finished word. A backslash that still waits stands for itself. -/
def close (word : OpenWord) (stop : Nat) : Token where
  value := .ofList (if word.escaping then word.value ++ ['\\'] else word.value)
  start := word.start
  stop := stop
  quote? := word.quote?

end OpenWord

/-- The words of the rest of a line from position `i` on, with the word being read, if any; and
whether the line ends in open quotes. -/
def scanWords (i : Nat) : Option OpenWord → List Char → List Token × Bool
  | none, [] => ([], false)
  | some word, [] => ([word.close i], word.inside?.isSome)
  | none, c :: rest =>
    if isSeparator c then scanWords (i + 1) none rest
    else scanWords (i + 1) (some ((OpenWord.empty i).feed c)) rest
  | some word, c :: rest =>
    if word.atRest && isSeparator c then
      let (tokens, unclosed) := scanWords (i + 1) none rest
      (word.close i :: tokens, unclosed)
    else scanWords (i + 1) (some (word.feed c)) rest

/-- The words of a line. -/
def tokenize (line : String) : TokenLine :=
  let (tokens, unclosed) := scanWords 0 none line.toList
  { tokens, endsWithSeparator := line.toList.getLast?.any isSeparator, openQuote := unclosed }

/-- A command word and its arguments. -/
structure Command where
  name : String
  args : List String
deriving DecidableEq, Repr

/-- The command a line spells. A line without words has an empty command word. -/
def Command.parse (line : String) : Command :=
  match (tokenize line).values with
  | [] => ⟨"", []⟩
  | name :: args => ⟨name, args⟩

theorem Command.parse_eq (line : String) :
    Command.parse line = ⟨(tokenize line).values.headD "", (tokenize line).values.tail⟩ := by
  rw [Command.parse]
  cases (tokenize line).values with
  | nil => rfl
  | cons name args => rfl

/-- Whether a line is empty but for blanks, or a comment: `#` or `//` comes first. -/
def isCommentOrBlank (line : String) : Bool :=
  match Text.trimmed line.toList with
  | [] => true
  | '#' :: _ => true
  | '/' :: '/' :: _ => true
  | _ => false

/-- The word under completion: its value, its span, its last quote, and its place among the words
of the line, counted from zero. -/
structure CurrentWord where
  value : String
  start : Nat
  stop : Nat
  quote? : Option Quote
  position : Nat
deriving DecidableEq, Repr

/-- The last word of a line, or an empty word at its end when the line ends in a separator. -/
def currentWord (text : String) : CurrentWord :=
  let line := tokenize text
  match line.endsWithSeparator, line.tokens.getLast? with
  | false, some last => ⟨last.value, last.start, last.stop, last.quote?, line.tokens.length - 1⟩
  | _, _ => ⟨"", text.length, text.length, none, line.tokens.length⟩

end TreeShell
