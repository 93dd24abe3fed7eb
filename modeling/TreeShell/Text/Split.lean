/-!
# Taking texts apart at a character and putting them together

`pieces` cuts at every occurrence of one character, so a text with `n` of them has `n + 1` pieces,
some of which may be empty; `join` is its inverse. Lines are cut at a line feed, together with one
carriage return before it.
-/

set_option autoImplicit false

namespace TreeShell.Text

/-- The stretches between the occurrences of `sep`. -/
def pieces (sep : Char) : List Char → List (List Char)
  | [] => [[]]
  | c :: rest =>
    if c = sep then [] :: pieces sep rest
    else
      match pieces sep rest with
      | [] => [[c]]
      | first :: others => (c :: first) :: others

/-- The strings between the occurrences of `sep` in a string. -/
def split (sep : Char) (s : String) : List String :=
  (pieces sep s.toList).map String.ofList

/-- The given strings with `sep` between neighbours. -/
def join (sep : String) : List String → String
  | [] => ""
  | [s] => s
  | s :: rest => s ++ sep ++ join sep rest

/-- The lines of a text. A line ends at a line feed; one carriage return just before it goes with
it, and any other carriage return stays in the line. -/
def cutLines : List Char → List (List Char)
  | [] => [[]]
  | '\r' :: '\n' :: rest => [] :: cutLines rest
  | c :: rest =>
    if c = '\n' then [] :: cutLines rest
    else
      match cutLines rest with
      | [] => [[c]]
      | first :: others => (c :: first) :: others

/-- The lines of a string. -/
def lines (s : String) : List String :=
  (cutLines s.toList).map String.ofList

/-- Whether `needle` stands somewhere in a text. -/
def occurs (needle : List Char) : List Char → Bool
  | [] => needle.isEmpty
  | c :: rest => needle.isPrefixOf (c :: rest) || occurs needle rest

/-- The strings in ascending order of code points; equal strings keep their places. -/
def sorted (names : List String) : List String :=
  names.mergeSort fun a b => !decide (b < a)

/-- `text` with blanks before it up to the given width. -/
def padLeft (width : Nat) (text : String) : String :=
  .ofList (List.replicate (width - text.length) ' ') ++ text

theorem pieces_ne_nil (sep : Char) (s : List Char) : pieces sep s ≠ [] := by
  cases s with
  | nil => simp [pieces]
  | cons c rest =>
    rw [pieces]
    split
    · simp
    · split <;> simp

end TreeShell.Text
