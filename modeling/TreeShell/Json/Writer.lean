import TreeShell.Json.Basic
import TreeShell.Number.DecimalText

/-!
# Writing documents

Two layouts are in use: on one line, with a blank after every comma and colon, and one item a line
with two blanks of indentation a level. Both write every character outside the printable seven-bit
ones as an escape, one above U+FFFF as a surrogate pair.
-/

set_option autoImplicit false

namespace TreeShell.Json

/-- Four hexadecimal digits in small letters. -/
def hex4 (n : Nat) : List Char :=
  [n / 4096 % 16, n / 256 % 16, n / 16 % 16, n % 16].map Nat.digitChar

/-- One code unit as an escape. -/
def unitEscape (unit : Nat) : List Char :=
  '\\' :: 'u' :: hex4 unit

/-- A character as it stands in a string. -/
def charText (c : Char) : List Char :=
  if c = '"' then ['\\', '"']
  else if c = '\\' then ['\\', '\\']
  else if c = '\n' then ['\\', 'n']
  else if c = '\r' then ['\\', 'r']
  else if c = '\t' then ['\\', 't']
  else if c = '\x0C' then ['\\', 'f']
  else if c = '\x08' then ['\\', 'b']
  else if 0x20 ≤ c.toNat && c.toNat ≤ 0x7E then [c]
  else if c.toNat < 0x10000 then unitEscape c.toNat
  else
    unitEscape (0xD800 + (c.toNat - 0x10000) / 0x400) ++
      unitEscape (0xDC00 + (c.toNat - 0x10000) % 0x400)

/-- A string between quotes. -/
def stringText (s : String) : String :=
  .ofList ('"' :: s.toList.flatMap charText ++ ['"'])

/-- A document that holds no others, and brackets for one that does. -/
def scalarText : Json → String
  | null => "null"
  | bool value => if value then "true" else "false"
  | int value => toString value
  | float value => value.text Binary64.storedLayout
  | string value => stringText value
  | array _ => "[]"
  | object _ => "\x7b\x7d"

mutual

/-- A document on one line. -/
def compact : Json → String
  | array (item :: rest) => "[" ++ compact item ++ compactItems rest
  | object ((name, value) :: rest) =>
    "\x7b" ++ stringText name ++ ": " ++ compact value ++ compactMembers rest
  | other => scalarText other

/-- The items after the first, and the closing bracket. -/
def compactItems : List Json → String
  | [] => "]"
  | item :: rest => ", " ++ compact item ++ compactItems rest

/-- The members after the first, and the closing bracket. -/
def compactMembers : List (String × Json) → String
  | [] => "\x7d"
  | (name, value) :: rest =>
    ", " ++ stringText name ++ ": " ++ compact value ++ compactMembers rest

end

/-- A line break and the indentation of a level. -/
def newLine (level : Nat) : String :=
  .ofList ('\n' :: List.replicate (2 * level) ' ')

mutual

/-- A document with one item a line, at the given level. -/
def indentedAt (level : Nat) : Json → String
  | array (item :: rest) =>
    "[" ++ newLine (level + 1) ++ indentedAt (level + 1) item ++ indentedItems level rest
  | object ((name, value) :: rest) =>
    "\x7b" ++ newLine (level + 1) ++ stringText name ++ ": " ++ indentedAt (level + 1) value ++
      indentedMembers level rest
  | other => scalarText other

/-- The items after the first, and the closing bracket. -/
def indentedItems (level : Nat) : List Json → String
  | [] => newLine level ++ "]"
  | item :: rest =>
    "," ++ newLine (level + 1) ++ indentedAt (level + 1) item ++ indentedItems level rest

/-- The members after the first, and the closing bracket. -/
def indentedMembers (level : Nat) : List (String × Json) → String
  | [] => newLine level ++ "\x7d"
  | (name, value) :: rest =>
    "," ++ newLine (level + 1) ++ stringText name ++ ": " ++ indentedAt (level + 1) value ++
      indentedMembers level rest

end

/-- A document with one item a line. -/
def indented (document : Json) : String :=
  indentedAt 0 document

end TreeShell.Json
