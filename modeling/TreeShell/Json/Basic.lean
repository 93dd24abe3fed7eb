import TreeShell.Fields
import TreeShell.Number.Binary64

/-!
# Documents

The values that records and settings are made of. Whole numbers and floating point numbers are
different kinds, and an object keeps its members in the order of their first naming.
-/

set_option autoImplicit false

namespace TreeShell

/-- A document. -/
inductive Json where
  | null
  | bool (value : Bool)
  | int (value : Int)
  | float (value : Binary64)
  | string (value : String)
  | array (items : List Json)
  | object (members : List (String × Json))
deriving Repr

namespace Json

/-- The member of an object, if the document is an object that has it. -/
def get? : Json → String → Option Json
  | object members, name => Fields.get? members name
  | _, _ => none

/-- The text of a string document. -/
def string? : Json → Option String
  | string value => some value
  | _ => none

/-- The items that are strings, in order. -/
def strings (items : List Json) : List String :=
  items.filterMap string?

/-- Whether a document is the given string. -/
def isString (text : String) : Json → Bool
  | string value => value == text
  | _ => false

/-- Whether a document counts as given: not null, false, zero or empty. -/
def isTruthy : Json → Bool
  | null => false
  | bool value => value
  | int value => value != 0
  | float value => !value.isZero
  | string value => value != ""
  | array items => !items.isEmpty
  | object members => !members.isEmpty

end Json

end TreeShell
