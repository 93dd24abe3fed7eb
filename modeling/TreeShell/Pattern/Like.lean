/-!
# Comparing keys

What the store compares its keys with: `%` stands for any text, `_` for any one character, and a
backslash makes the character after it stand for itself. Seven-bit letters are the same in either
case. Of a pattern and of a text only what stands before the first zero character is looked at.
-/

set_option autoImplicit false

namespace TreeShell.Like

/-! ## Matching -/

/-- Whether two characters are the same, but for the case of seven-bit letters. -/
def alike (c d : Char) : Bool :=
  c.toLower == d.toLower

/-- Whether a text has a first character that is accepted, and the rest of it is as well. -/
def startsOn (first : Char → Bool) (rest : List Char → Bool) : List Char → Bool
  | [] => false
  | c :: text => first c && rest text

/-- Whether some ending of a text is accepted. -/
def somewhere (rest : List Char → Bool) : List Char → Bool
  | [] => rest []
  | c :: text => rest (c :: text) || somewhere rest text

/-- Whether a pattern stands for a text. A pattern that ends in a lone backslash stands for none. -/
def fits : List Char → List Char → Bool
  | [] => List.isEmpty
  | c :: pattern =>
    if c = '%' then somewhere (fits pattern)
    else if c = '\\' then
      match pattern with
      | [] => fun _ => false
      | d :: pattern => startsOn (alike d) (fits pattern)
    else if c = '_' then startsOn (fun _ => true) (fits pattern)
    else startsOn (alike c) (fits pattern)

/-- What is looked at of a text. -/
def visible (text : List Char) : List Char :=
  text.takeWhile (· ≠ '\x00')

/-- Whether a key is like a pattern. -/
def accepts (pattern key : String) : Bool :=
  fits (visible pattern.toList) (visible key.toList)

/-! ## Texts as patterns -/

/-- A text with a backslash before each occurrence of one character. -/
def guarded (mark : Char) (text : List Char) : List Char :=
  text.flatMap fun c => if c = mark then ['\\', c] else [c]

/-- A text as a pattern that stands for it. Backslashes go first, since the others add some. -/
def escaped (text : List Char) : List Char :=
  guarded '_' (guarded '%' (guarded '\\' text))

/-- The pattern for what begins with a text. -/
def beginning (start : String) : String :=
  .ofList (escaped start.toList ++ ['%'])

end TreeShell.Like
