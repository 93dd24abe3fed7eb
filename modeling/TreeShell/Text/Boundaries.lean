/-!
# Classes of characters as lists of boundaries

A class of code points is written as the ascending list of the points where membership changes:
the class begins at the first entry, ends just before the second and begins again at the third.
So a code point is a member when the number of entries at or below it is odd.
-/

set_option autoImplicit false

namespace TreeShell.Text

/-- Membership in the class with the given ascending boundaries. -/
def within : List Nat → Nat → Bool
  | [], _ => false
  | bound :: rest, n => if n < bound then false else !within rest n

end TreeShell.Text
