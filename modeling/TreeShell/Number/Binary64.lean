/-!
# Binary floating point numbers of 64 bits, exactly

A finite number is a sign, a mantissa and a power of two. The mantissa has 53 bits, or fewer at
the least exponent -1074, so each value has one representation (`IsCanonical`). All arithmetic is
on natural numbers: the one rounding step, `ofRatio`, takes an exact fraction to the nearest
number, and of two equally near ones to the one with the even mantissa.
-/

set_option autoImplicit false

namespace TreeShell

/-- A 64-bit floating point number; `finite` is `± mantissa · 2 ^ exponent`. -/
inductive Binary64 where
  | nan
  | infinite (negative : Bool)
  | finite (negative : Bool) (mantissa : Nat) (exponent : Int)
deriving DecidableEq, Repr

namespace Binary64

/-- The least exponent of a finite number. -/
def minExponent : Int := -1074

/-- The greatest exponent of a finite number. -/
def maxExponent : Int := 971

/-- The mantissa fits in 53 bits and uses them all unless the exponent is the least. -/
def IsCanonical : Binary64 → Prop
  | nan => True
  | infinite _ => True
  | finite _ mantissa exponent =>
    mantissa < Nat.pow 2 53 ∧ minExponent ≤ exponent ∧ exponent ≤ maxExponent ∧
      (Nat.pow 2 52 ≤ mantissa ∨ exponent = minExponent)

/-- Zero with a sign. -/
def zero (negative : Bool) : Binary64 :=
  finite negative 0 minExponent

/-- The natural number nearest to `a / b`, and the even one of two that are equally near. -/
def divideEven (a b : Nat) : Nat :=
  let q := a / b
  let r := a % b
  if 2 * r < b then q
  else if b < 2 * r then q + 1
  else if q % 2 = 0 then q
  else q + 1

/-- The greatest `e` with `2 ^ e ≤ num / den`, for a positive fraction. -/
def binaryOrder (num den : Nat) : Int :=
  let guess : Int := (num.log2 : Int) - (den.log2 : Int)
  if num * Nat.pow 2 (-guess).toNat < den * Nat.pow 2 guess.toNat then guess - 1 else guess

/-- The number nearest to `± num / den`, for a positive `den`. -/
def ofRatio (negative : Bool) (num den : Nat) : Binary64 :=
  if num = 0 then zero negative
  else
    let exponent := max minExponent (binaryOrder num den - 52)
    let mantissa := divideEven (num * Nat.pow 2 (-exponent).toNat) (den * Nat.pow 2 exponent.toNat)
    let (mantissa, exponent) :=
      if mantissa = Nat.pow 2 53 then (Nat.pow 2 52, exponent + 1) else (mantissa, exponent)
    if maxExponent < exponent then infinite negative else finite negative mantissa exponent

/-- How many decimal digits a number is written with. -/
def decimalLength (n : Nat) : Nat :=
  (Nat.toDigits 10 n).length

/-- The number nearest to `± digits · 10 ^ exponent`. Where the decimal point is so far out that
no finite number but zero is near, no power of ten is computed. -/
def ofDecimal (negative : Bool) (digits : Nat) (exponent : Int) : Binary64 :=
  if digits = 0 then zero negative
  else
    let point := (decimalLength digits : Int) + exponent
    if 310 < point then infinite negative
    else if point < -330 then zero negative
    else ofRatio negative (digits * Nat.pow 10 exponent.toNat) (Nat.pow 10 (-exponent).toNat)

/-- The integer part, for a finite number. -/
def truncate? : Binary64 → Option Int
  | finite negative mantissa exponent =>
    let size := mantissa * Nat.pow 2 exponent.toNat / Nat.pow 2 (-exponent).toNat
    some (if negative then -(size : Int) else (size : Int))
  | _ => none

/-- Whether the number is below zero; false for both zeros. -/
def isNegative : Binary64 → Bool
  | nan => false
  | infinite negative => negative
  | finite negative mantissa _ => negative && mantissa != 0

/-- Whether the number is a zero. -/
def isZero : Binary64 → Bool
  | finite _ 0 _ => true
  | _ => false

/-- A finite number times a natural number, rounded. -/
def scale (x : Binary64) (n : Nat) : Binary64 :=
  match x with
  | finite negative mantissa exponent =>
    ofRatio negative (mantissa * n * Nat.pow 2 exponent.toNat) (Nat.pow 2 (-exponent).toNat)
  | other => other

/-- The integer nearest to a finite number, and the even one of two that are equally near. -/
def nearest? : Binary64 → Option Int
  | finite negative mantissa exponent =>
    let size := divideEven (mantissa * Nat.pow 2 exponent.toNat) (Nat.pow 2 (-exponent).toNat)
    some (if negative then -(size : Int) else (size : Int))
  | _ => none

end Binary64

end TreeShell
