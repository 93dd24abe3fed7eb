import TreeShell.Json.Writer
import TreeShell.Text.Printable

/-!
# Showing values to users

Where a setting that should be text is some other value, the shell shows it in a notation of its
own: `True`, `None`, texts inside lists between single quotes. A text is put between double quotes
only if it holds a single quote and no double one; characters that are not printable are written
as escapes.
-/

set_option autoImplicit false

namespace TreeShell.Json

/-- The last `count` hexadecimal digits of a number. -/
def hexDigits : Nat → Nat → List Char
  | 0, _ => []
  | count + 1, n => hexDigits count (n / 16) ++ [Nat.digitChar (n % 16)]

/-- A character as it stands in a text between the given quotes. -/
def shownChar (quote c : Char) : List Char :=
  if c = quote || c = '\\' then ['\\', c]
  else if c = '\n' then ['\\', 'n']
  else if c = '\r' then ['\\', 'r']
  else if c = '\t' then ['\\', 't']
  else if Text.isPrintable c then [c]
  else if c.toNat < 0x100 then '\\' :: 'x' :: hexDigits 2 c.toNat
  else if c.toNat < 0x10000 then '\\' :: 'u' :: hexDigits 4 c.toNat
  else '\\' :: 'U' :: hexDigits 8 c.toNat

/-- A text between quotes. -/
def shownText (s : String) : String :=
  let quote := if s.toList.contains '\'' && !s.toList.contains '"' then '"' else '\''
  .ofList (quote :: s.toList.flatMap (shownChar quote) ++ [quote])

mutual

/-- A value as it is shown inside another. -/
def shown : Json → String
  | null => "None"
  | bool value => if value then "True" else "False"
  | int value => toString value
  | float value => value.text Binary64.shownLayout
  | string value => shownText value
  | array [] => "[]"
  | array (item :: rest) => "[" ++ shown item ++ shownItems rest
  | object [] => "\x7b\x7d"
  | object ((name, value) :: rest) =>
    "\x7b" ++ shownText name ++ ": " ++ shown value ++ shownMembers rest

/-- The items after the first, and the closing bracket. -/
def shownItems : List Json → String
  | [] => "]"
  | item :: rest => ", " ++ shown item ++ shownItems rest

/-- The members after the first, and the closing bracket. -/
def shownMembers : List (String × Json) → String
  | [] => "\x7d"
  | (name, value) :: rest => ", " ++ shownText name ++ ": " ++ shown value ++ shownMembers rest

end

/-- A value as it is printed: a text is printed as it is. -/
def display : Json → String
  | string value => value
  | other => shown other

end TreeShell.Json
