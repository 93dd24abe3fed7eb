import Mathlib.Data.Rat.Floor
import Mathlib.Tactic.Positivity
import TreeShell.Number.Shortest
import TreeShell.Proofs.Number.Rounding

/-!
# The shortest decimal reads back

A candidate is only taken if it reads back, so all there is to show is that the last resort does:
the exact value of a number, which has a finite decimal expansion. It reads back because rounding a
value that is a number comes to that number; and because its point never stands so far out that no
power of ten would be computed.
-/

set_option autoImplicit false

namespace TreeShell.Binary64

variable {mantissa : Nat} {exponent : Int}

/-- The powers that bound the numbers, with their exponents under names so that none of them is
computed outside this comparison. -/
theorem exists_farRight : ∃ k, k = 310 ∧ 2 ^ 53 * 2 ^ maxExponent.toNat ≤ 10 ^ k :=
  ⟨310, rfl, by decide +kernel⟩

theorem exists_farLeft : ∃ k, k = 331 ∧ 2 ^ ((-minExponent).toNat - k) ≤ 5 ^ k :=
  ⟨331, rfl, by decide +kernel⟩

/-- The point of a number's exact value does not stand too far to the right. -/
theorem decimalLength_exactDecimal_le (hbits : mantissa < 2 ^ 53) (hmax : exponent ≤ maxExponent) :
    decimalLength (exactDecimal mantissa exponent).digits ≤ 310 + (-exponent).toNat := by
  obtain ⟨k, hk, hpow⟩ := exists_farRight
  have hmax' : exponent.toNat ≤ maxExponent.toNat := Int.toNat_le_toNat hmax
  rw [← hk, Number.decimalLength_le_iff (by omega)]
  simp only [exactDecimal, Nat.pow_eq]
  calc mantissa * 2 ^ exponent.toNat * 5 ^ (-exponent).toNat
      < 2 ^ 53 * 2 ^ exponent.toNat * 5 ^ (-exponent).toNat := by gcongr
    _ ≤ 2 ^ 53 * 2 ^ maxExponent.toNat * 10 ^ (-exponent).toNat :=
      Nat.mul_le_mul (Nat.mul_le_mul_left _ (Nat.pow_le_pow_right (by decide) hmax'))
        (Nat.pow_le_pow_left (by decide) _)
    _ ≤ 10 ^ k * 10 ^ (-exponent).toNat := by gcongr
    _ = 10 ^ (k + (-exponent).toNat) := (Nat.pow_add 10 _ _).symm

/-- Nor too far to the left. -/
theorem lt_decimalLength_exactDecimal (hpos : 0 < mantissa) (hmin : minExponent ≤ exponent) :
    (-exponent).toNat < decimalLength (exactDecimal mantissa exponent).digits + 331 := by
  obtain ⟨k, hk, hpow⟩ := exists_farLeft
  rw [← hk]
  by_contra hshort
  have hlength := Number.decimalLength_pos (exactDecimal mantissa exponent).digits
  obtain ⟨j, hj⟩ : ∃ j, (-exponent).toNat = j + k := ⟨(-exponent).toNat - k, by omega⟩
  have hj' : j ≤ (-minExponent).toNat - k := by
    have := Int.toNat_le_toNat (neg_le_neg hmin)
    omega
  have hlt : (exactDecimal mantissa exponent).digits < 10 ^ j :=
    (Number.decimalLength_le_iff (by omega)).mp (by omega)
  have hge : 10 ^ j ≤ (exactDecimal mantissa exponent).digits := by
    simp only [exactDecimal, Nat.pow_eq, hj]
    calc 10 ^ j = 5 ^ j * 2 ^ j := Nat.mul_pow 5 2 j
      _ ≤ 5 ^ j * 2 ^ ((-minExponent).toNat - k) := by gcongr; decide
      _ ≤ 5 ^ j * 5 ^ k := by gcongr
      _ = 5 ^ (j + k) := (Nat.pow_add 5 _ _).symm
      _ ≤ mantissa * 2 ^ exponent.toNat * 5 ^ (j + k) := Nat.le_mul_of_pos_left _ (by positivity)
  exact absurd hge (Nat.not_le_of_lt hlt)

/-- The exact value of a number reads back as the number. -/
theorem ofDecimal_exactDecimal (hpos : 0 < mantissa)
    (h : (finite false mantissa exponent).IsCanonical) :
    ofDecimal false (exactDecimal mantissa exponent).digits
      (exactDecimal mantissa exponent).exponent = finite false mantissa exponent := by
  obtain ⟨hbits, hmin, hmax, -⟩ := id h
  have hlong := decimalLength_exactDecimal_le (by simpa using hbits) hmax
  have hshort := lt_decimalLength_exactDecimal hpos hmin
  have hexponent : (exactDecimal mantissa exponent).exponent = -((-exponent).toNat : Int) := by
    simp only [exactDecimal]
    omega
  have hdigits : (exactDecimal mantissa exponent).digits ≠ 0 := by
    simp only [exactDecimal, Nat.pow_eq]
    positivity
  rw [ofDecimal, if_neg hdigits]
  dsimp only
  rw [if_neg (by omega), if_neg (by omega), ← ofRatio_exact h, hexponent]
  refine ofRatio_congr false ?_ ?_ (by positivity) ?_
  · simp only [Nat.pow_eq]
    positivity
  · simp only [Nat.pow_eq]
    positivity
  · simp only [exactDecimal, Nat.pow_eq, neg_neg, Int.toNat_natCast, Int.toNat_neg_natCast,
      Nat.pow_zero, Nat.mul_one]
    rw [Nat.mul_assoc, ← Nat.mul_pow]

/-- **The decimal that a number is written as reads back as the number.** -/
theorem ofDecimal_shortest (h : (finite false mantissa exponent).IsCanonical) :
    ofDecimal false (shortest mantissa exponent).digits (shortest mantissa exponent).exponent =
      finite false mantissa exponent := by
  by_cases hzero : mantissa = 0
  · have hleast : exponent = minExponent := by
      obtain ⟨-, -, -, hfull⟩ := h
      simp only [hzero, Nat.pow_eq] at hfull
      exact hfull.resolve_left (by decide)
    rw [shortest, if_pos hzero, hzero, hleast]
    rfl
  · rw [shortest, if_neg hzero]
    dsimp only
    cases hfound : List.find? _ _ with
    | some d => simpa using List.find?_some hfound
    | none => exact ofDecimal_exactDecimal (Nat.pos_of_ne_zero hzero) h

end TreeShell.Binary64
