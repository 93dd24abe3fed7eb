import TreeShell.Number.Binary64
import TreeShell.Text.Blank
import TreeShell.Text.Digit

/-!
# Reading numbers that users type

A number may have white space around it, digits of any script, and single underscores between
digits. A floating point number is digits with at most one point, at least one digit, and an
optional exponent; the words for infinity and for "not a number" count too, in any case. Whole
numbers longer than `maxIntegerDigits` digits are refused, and are not written either.
-/

set_option autoImplicit false

namespace TreeShell.Number

/-- Longer whole numbers are refused, so that reading or writing one takes bounded time. -/
def maxIntegerDigits : Nat := 4300

/-- Why a text is no whole number, or a whole number has no text. -/
inductive IntegerError where
  | notInteger (text : String)
  | tooLong (digits : Nat)
  | tooLongToWrite
deriving DecidableEq, Repr

/-- Digits of every script written with the seven-bit ones. -/
def plainDigit (c : Char) : Char :=
  match Text.decimalValue? c with
  | some value => Nat.digitChar value
  | none => c

/-- A typed number without the white space around it, in seven-bit digits. -/
def prepared (s : List Char) : List Char :=
  (Text.stripWhile Text.isSpace s).map plainDigit

/-- A text without its underscores, each of which must stand between two digits. -/
def withoutUnderscores (previous : Option Char) : List Char → Option (List Char)
  | [] => some []
  | '_' :: rest =>
    if previous.any Char.isDigit && rest.head?.any Char.isDigit then
      withoutUnderscores (some '_') rest
    else none
  | c :: rest => (withoutUnderscores (some c) rest).map (c :: ·)

/-- The number that seven-bit digits spell. -/
def digitsValue (s : List Char) : Nat :=
  s.foldl (fun n c => 10 * n + (c.toNat - '0'.toNat)) 0

/-- A leading sign, and what follows it. -/
def takeSign : List Char → Bool × List Char
  | '-' :: rest => (true, rest)
  | '+' :: rest => (false, rest)
  | s => (false, s)

/-- The leading digits, and what follows them. -/
def takeDigits (s : List Char) : List Char × List Char :=
  (s.takeWhile Char.isDigit, s.dropWhile Char.isDigit)

/-- An exponent part that must fill the text; an empty text is the exponent zero. -/
def exponent? : List Char → Option Int
  | [] => some 0
  | e :: rest =>
    if e = 'e' || e = 'E' then
      let (negative, rest) := takeSign rest
      let (digits, rest) := takeDigits rest
      if digits.isEmpty || !rest.isEmpty then none
      else some (if negative then -(digitsValue digits : Int) else (digitsValue digits : Int))
    else none

/-- A floating point number without sign. -/
def unsigned? (negative : Bool) (s : List Char) : Option Binary64 :=
  let word := s.map Char.toLower
  if word = ['i', 'n', 'f'] || word = ['i', 'n', 'f', 'i', 'n', 'i', 't', 'y'] then
    some (.infinite negative)
  else if word = ['n', 'a', 'n'] then some .nan
  else
    let (whole, rest) := takeDigits s
    let (fraction, rest) :=
      match rest with
      | '.' :: rest => takeDigits rest
      | rest => ([], rest)
    if whole.isEmpty && fraction.isEmpty then none
    else
      (exponent? rest).map fun exponent =>
        .ofDecimal negative (digitsValue (whole ++ fraction)) (exponent - fraction.length)

/-- The floating point number a user typed. -/
def float? (s : String) : Option Binary64 := do
  let s ← withoutUnderscores none (prepared s.toList)
  let (negative, s) := takeSign s
  unsigned? negative s

/-- The whole number a user typed. -/
def integer (text : String) : Except IntegerError Int :=
  let (negative, s) := takeSign (prepared text.toList)
  match withoutUnderscores none s with
  | some s =>
    let (digits, rest) := takeDigits s
    if maxIntegerDigits < digits.length then .error (.tooLong digits.length)
    else if digits.isEmpty || !rest.isEmpty then .error (.notInteger text)
    else .ok (if negative then -(digitsValue digits : Int) else (digitsValue digits : Int))
  | none => .error (.notInteger text)

/-- A whole number in digits. -/
def integerText (n : Int) : Except IntegerError String :=
  if maxIntegerDigits < Binary64.decimalLength n.natAbs then .error .tooLongToWrite
  else .ok (toString n)

end TreeShell.Number
