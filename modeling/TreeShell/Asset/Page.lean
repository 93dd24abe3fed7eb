/-!
# Pages

A bundled text is written down line by line.
-/

set_option autoImplicit false

namespace TreeShell.Asset

/-- The text of the given lines, each of them ended by a line feed. -/
def page (lines : List String) : String :=
  String.join (lines.map (· ++ "\n"))

end TreeShell.Asset
