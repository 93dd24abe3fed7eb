/-!
# Beginnings and ends of strings

A string begins with another, or ends in it, character by character; and characters can be taken
off at either end.
-/

set_option autoImplicit false

namespace TreeShell.Text

/-- Whether a string begins with another. -/
def startsWith (text start : String) : Bool :=
  start.toList.isPrefixOf text.toList

/-- Whether a string ends in another. -/
def endsIn (text ending : String) : Bool :=
  ending.toList.isSuffixOf text.toList

/-- A string without its first `n` characters. -/
def dropFirst (n : Nat) (text : String) : String :=
  .ofList (text.toList.drop n)

/-- A string without its last `n` characters. -/
def dropLast (n : Nat) (text : String) : String :=
  .ofList (text.toList.take (text.length - n))

/-- The first `n` characters of a string. -/
def firstPart (n : Nat) (text : String) : String :=
  .ofList (text.toList.take n)

/-- A string ends in its last characters. -/
theorem endsIn_append (a b : String) : endsIn (a ++ b) b = true := by
  simp [endsIn, String.toList_append]

end TreeShell.Text
