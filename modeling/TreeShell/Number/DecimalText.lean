import TreeShell.Number.Shortest

/-!
# Decimal text of floating point numbers

The digits come from `shortest`. What is decided here is the layout: a number whose decimal point
stands after at most sixteen digits, or after at most three zeros behind `0.`, is written
positionally and always with a fractional part; any other has one digit before the point, no empty
fraction, and an exponent with a sign and at least two digits.
-/

set_option autoImplicit false

namespace TreeShell.Binary64

/-- The choices of a decimal layout: the bounds within which the point may stand for positional
notation, and the texts of the values without digits. -/
structure Layout where
  leastPoint : Int
  greatestPoint : Int
  nan : String
  infinity : String

/-- The layout in which numbers are shown. -/
def shownLayout : Layout := ⟨-4, 16, "nan", "inf"⟩

/-- The layout of numbers in stored documents. -/
def storedLayout : Layout := ⟨-4, 16, "NaN", "Infinity"⟩

/-- Decimal digits without zeros at the end, at least one. -/
def significant (digits : List Char) : List Char :=
  match (digits.reverse.dropWhile (· = '0')).reverse with
  | [] => ['0']
  | kept => kept

/-- Positional notation: `point` digits stand before the decimal point. -/
def positional (digits : List Char) (point : Int) : List Char :=
  if point ≤ 0 then '0' :: '.' :: List.replicate (-point).toNat '0' ++ digits
  else if (digits.length : Int) ≤ point then
    digits ++ List.replicate (point.toNat - digits.length) '0' ++ ['.', '0']
  else digits.take point.toNat ++ '.' :: digits.drop point.toNat

/-- The exponent with its sign and at least two digits. -/
def exponentText (exponent : Int) : List Char :=
  let size := Nat.toDigits 10 exponent.natAbs
  (if exponent < 0 then '-' else '+') :: (if size.length < 2 then '0' :: size else size)

/-- Scientific notation with the point after the first digit. -/
def scientific (digits : List Char) (exponent : Int) : List Char :=
  let fraction := digits.drop 1
  digits.take 1 ++ (if fraction.isEmpty then [] else '.' :: fraction) ++ 'e' :: exponentText exponent

/-- The digits of a decimal in the given layout. -/
def layOut (layout : Layout) (d : Decimal) : List Char :=
  let all := Nat.toDigits 10 d.digits
  let point := (all.length : Int) + d.exponent
  let digits := significant all
  if layout.leastPoint < point && point ≤ layout.greatestPoint then positional digits point
  else scientific digits (point - 1)

/-- A number as text. -/
def text (layout : Layout) : Binary64 → String
  | nan => layout.nan
  | infinite negative => (if negative then "-" else "") ++ layout.infinity
  | finite negative mantissa exponent =>
    (if negative then "-" else "") ++ .ofList (layOut layout (shortest mantissa exponent))

end TreeShell.Binary64
