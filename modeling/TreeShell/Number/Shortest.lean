import TreeShell.Number.Binary64

/-!
# The shortest decimal that reads back

A floating point number is written with the fewest digits that are read back as the same number,
and of two such decimals with the nearer one. For a given number of digits the candidates are the
two neighbours of the number on that decimal grid: if any decimal of that many digits reads back,
one of the neighbours does. Should no grid up to seventeen digits have a hit, the exact expansion
is taken, which every finite number has.
-/

set_option autoImplicit false

namespace TreeShell.Binary64

/-- A decimal `digits · 10 ^ exponent`. -/
structure Decimal where
  digits : Nat
  exponent : Int
deriving DecidableEq, Repr

/-- The greatest `e` with `10 ^ e ≤ num / den`, for a positive fraction. -/
def decimalOrder (num den : Nat) : Int :=
  if den ≤ num then (decimalLength (num / den) : Int) - 1
  else 0 - (decimalLength ((den + num - 1) / num - 1) : Int)

/-- The neighbours of `num / den` among the multiples of `10 ^ exponent`, the nearer one first, and
of two equally near ones the even one. -/
def neighbours (num den : Nat) (exponent : Int) : List Decimal :=
  let a := num * Nat.pow 10 (-exponent).toNat
  let b := den * Nat.pow 10 exponent.toNat
  let low := a / b
  let rest := a % b
  let below : Decimal := ⟨low, exponent⟩
  let above : Decimal := ⟨low + 1, exponent⟩
  if rest = 0 then [below]
  else if 2 * rest < b || (2 * rest = b && low % 2 = 0) then [below, above]
  else [above, below]

/-- The exact value of `mantissa · 2 ^ exponent` as a decimal. -/
def exactDecimal (mantissa : Nat) (exponent : Int) : Decimal :=
  ⟨mantissa * Nat.pow 2 exponent.toNat * Nat.pow 5 (-exponent).toNat, min exponent 0⟩

/-- The shortest decimal that reads back as `mantissa · 2 ^ exponent`. -/
def shortest (mantissa : Nat) (exponent : Int) : Decimal :=
  if mantissa = 0 then ⟨0, 0⟩
  else
    let num := mantissa * Nat.pow 2 exponent.toNat
    let den := Nat.pow 2 (-exponent).toNat
    let order := decimalOrder num den
    let candidates := (List.range 17).flatMap fun (n : Nat) => neighbours num den (order - n)
    (candidates.find? fun d => ofDecimal false d.digits d.exponent == finite false mantissa exponent)
      |>.getD (exactDecimal mantissa exponent)


end TreeShell.Binary64
