import TreeShell.Json.Display
import TreeShell.Pattern.Basic

/-!
# What can be wrong with a written pattern
-/

set_option autoImplicit false

namespace TreeShell

/-- What can be wrong with the letters that say how a pattern is to be read and matched. -/
inductive FlagMistake where
  | unknown
  | unfinished
  | noneOff
  | unfinishedOff
  | locale
  | twoTypes
  | typeOff
  | wholeOn
  | wholeOff
  | onAndOff
  | late
deriving DecidableEq, Repr

/-- A mistake in a written pattern. -/
inductive PatternMistake where
  | danglingEscape
  | incompleteEscape (written : String)
  | badEscape (written : String)
  | octalTooLarge (written : String)
  | openBraceMissing
  | unknownCharacter (name : String)
  | nameMissing (what : String)
  | openName (terminator : Char)
  | badGroupName (name : String)
  | unknownGroupName (name : String)
  | groupNameTaken (name : String) (number before : Nat)
  | unknownGroup (number : Nat)
  | groupZero
  | groupNotClosed
  | groupOfSameBehind
  | openSet
  | badRange (low high : String)
  | nothingToRepeat
  | repeatedRepeat
  | repeatBounds
  | openGroup
  | openComment
  | unbalancedGroup
  | unknownExtension (written : String)
  | thirdBranch
  | unexpectedEnd
  | flags (what : FlagMistake)
  | widthVaries
  | tooFarBehind
  | repeatInTemplate (greed : Greed)
deriving DecidableEq, Repr

/-- Why a written pattern is refused: a mistake, mostly at a position; a repetition count that is
beyond all bounds, or longer than a number may be; or flags for the whole that do not go
together. -/
inductive PatternError where
  | mistake (what : PatternMistake) (position? : Option Nat)
  | countTooLarge
  | countTooLong (digits : Nat)
  | twoTypes
deriving DecidableEq, Repr

/-- A mistake with flags in words. -/
def FlagMistake.text : FlagMistake → String
  | unknown => "unknown flag"
  | unfinished => "missing -, : or )"
  | noneOff => "missing flag"
  | unfinishedOff => "missing :"
  | locale => "bad inline flags: cannot use 'L' flag with a str pattern"
  | twoTypes => "bad inline flags: flags 'a', 'u' and 'L' are incompatible"
  | typeOff => "bad inline flags: cannot turn off flags 'a', 'u' and 'L'"
  | wholeOn => "bad inline flags: cannot turn on global flag"
  | wholeOff => "bad inline flags: cannot turn off global flag"
  | onAndOff => "bad inline flags: flag turned on and off"
  | late => "global flags not at the start of the expression"

/-- A repetition as it is named in a mistake. -/
def Greed.sign : Greed → String
  | greedy => "MAX_REPEAT"
  | sparing => "MIN_REPEAT"
  | possessive => "POSSESSIVE_REPEAT"

/-- A mistake in words. -/
def PatternMistake.text : PatternMistake → String
  | danglingEscape => "bad escape (end of pattern)"
  | incompleteEscape written => "incomplete escape " ++ written
  | badEscape written => "bad escape " ++ written
  | octalTooLarge written => "octal escape value " ++ written ++ " outside of range 0-0o377"
  | openBraceMissing => "missing \x7b"
  | unknownCharacter name => "undefined character name " ++ Json.shownText name
  | nameMissing what => "missing " ++ what
  | openName terminator => "missing " ++ .ofList [terminator] ++ ", unterminated name"
  | badGroupName name => "bad character in group name " ++ Json.shownText name
  | unknownGroupName name => "unknown group name " ++ Json.shownText name
  | groupNameTaken name number before =>
    "redefinition of group name " ++ Json.shownText name ++ " as group " ++ toString number ++
      "; was group " ++ toString before
  | unknownGroup number => "invalid group reference " ++ toString number
  | groupZero => "bad group number"
  | groupNotClosed => "cannot refer to an open group"
  | groupOfSameBehind => "cannot refer to group defined in the same lookbehind subpattern"
  | openSet => "unterminated character set"
  | badRange low high => "bad character range " ++ low ++ "-" ++ high
  | nothingToRepeat => "nothing to repeat"
  | repeatedRepeat => "multiple repeat"
  | repeatBounds => "min repeat greater than max repeat"
  | openGroup => "missing ), unterminated subpattern"
  | openComment => "missing ), unterminated comment"
  | unbalancedGroup => "unbalanced parenthesis"
  | unknownExtension written => "unknown extension ?" ++ written
  | thirdBranch => "conditional backref with more than two branches"
  | unexpectedEnd => "unexpected end of pattern"
  | flags what => what.text
  | widthVaries => "look-behind requires fixed-width pattern"
  | tooFarBehind => "looks too much behind"
  | repeatInTemplate greed => "internal: unsupported template operator " ++ greed.sign

/-- The line and the column of a position in a text, both counted from one. -/
def lineAndColumn (text : List Char) (position : Nat) : Nat × Nat :=
  let before := text.take position
  (before.count '\n' + 1, (before.reverse.takeWhile (· ≠ '\n')).length + 1)

/-- The message for a mistake in a pattern. A pattern of several lines also has the line and the
column of the mistake. -/
def PatternMistake.message (pattern : String) (what : PatternMistake) (position? : Option Nat) :
    String :=
  match position? with
  | none => what.text
  | some position =>
    let place := what.text ++ " at position " ++ toString position
    if pattern.toList.contains '\n' then
      let (line, column) := lineAndColumn pattern.toList position
      place ++ " (line " ++ toString line ++ ", column " ++ toString column ++ ")"
    else place

end TreeShell
