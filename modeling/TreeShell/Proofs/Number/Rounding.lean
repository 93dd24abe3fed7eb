import Mathlib.Data.Int.Log
import Mathlib.Data.Rat.Floor
import Mathlib.Tactic.Positivity
import TreeShell.Number.Binary64
import TreeShell.Proofs.Number.Digits

/-!
# Rounding

What rounding a fraction comes to depends on its value alone, not on how the fraction is written
(`ofRatio_congr`); the outcome is always the one representation of a number (`isCanonical_ofRatio`);
and a fraction that is a number in this representation already is that number (`ofRatio_exact`). Of
a decimal the same is true, so a decimal may be written with more or fewer zeros at its end
(`ofDecimal_mul_ten_pow`).

Only one thing is not read off the definitions: that the exponent is the right one. It is the
logarithm of the fraction (`binaryOrder_eq_log`).
-/

set_option autoImplicit false

namespace TreeShell.Binary64

variable {num den : Nat}

/-! ## The order of a fraction -/

theorem two_zpow (k : Int) : (2 : ℚ) ^ k = 2 ^ k.toNat / 2 ^ (-k).toNat := by
  have hk : k = (k.toNat : Int) - ((-k).toNat : Int) := by omega
  conv_lhs => rw [hk]
  rw [zpow_sub₀ two_ne_zero, zpow_natCast, zpow_natCast]

theorem zpow_add_le_div_iff (hden : 0 < den) (e : Int) (k : Nat) :
    (2 : ℚ) ^ (e + k) ≤ num / den ↔ den * 2 ^ e.toNat * 2 ^ k ≤ num * 2 ^ (-e).toNat := by
  have hden' : (0 : ℚ) < den := by exact_mod_cast hden
  rw [zpow_add₀ two_ne_zero, two_zpow, zpow_natCast, div_mul_eq_mul_div,
    div_le_div_iff₀ (by positivity) hden', mul_comm (2 ^ e.toNat * 2 ^ k), ← mul_assoc]
  exact_mod_cast Iff.rfl

/-- The order of a positive fraction is its logarithm. -/
theorem binaryOrder_eq_log (hnum : 0 < num) (hden : 0 < den) :
    binaryOrder num den = Int.log 2 ((num : ℚ) / den) := by
  have hnum' : (0 : ℚ) < num := by exact_mod_cast hnum
  have hden' : (0 : ℚ) < den := by exact_mod_cast hden
  have hpos : (0 : ℚ) < (num : ℚ) / den := div_pos hnum' hden'
  -- The guess is at most one too high.
  have hlow : (2 : ℚ) ^ ((num.log2 : Int) - den.log2 - 1) ≤ (num : ℚ) / den := by
    have hn : (2 : ℚ) ^ num.log2 ≤ num := by exact_mod_cast Nat.log2_self_le hnum.ne'
    have hd : (den : ℚ) ≤ 2 ^ (den.log2 + 1) := by exact_mod_cast (@Nat.lt_log2_self den).le
    rw [sub_sub, zpow_sub₀ two_ne_zero, zpow_natCast]
    exact_mod_cast div_le_div₀ hnum'.le hn hden' hd
  have hhigh : (num : ℚ) / den < (2 : ℚ) ^ ((num.log2 : Int) - den.log2 + 1) := by
    have hn : (num : ℚ) < 2 ^ (num.log2 + 1) := by exact_mod_cast @Nat.lt_log2_self num
    have hd : (2 : ℚ) ^ den.log2 ≤ den := by exact_mod_cast Nat.log2_self_le hden.ne'
    rw [sub_add_eq_add_sub, zpow_sub₀ two_ne_zero, zpow_natCast]
    exact_mod_cast div_lt_div₀ hn hd (by positivity) (by positivity)
  have hlog (k : Int) : (2 : ℚ) ^ k ≤ (num : ℚ) / den ↔ k ≤ Int.log 2 ((num : ℚ) / den) :=
    Int.zpow_le_iff_le_log (by decide) hpos
  have hge := (hlog _).mp hlow
  have hlt := (Iff.not (hlog _)).mp (not_le_of_gt hhigh)
  have hguess := (@zpow_add_le_div_iff num den hden (num.log2 - den.log2) 0).symm.trans (hlog _)
  simp only [binaryOrder, Nat.pow_eq]
  split <;> omega

/-! ## Dividing to the nearest -/

theorem divideEven_mul (a b : Nat) {c : Nat} (hc : 0 < c) :
    divideEven (a * c) (b * c) = divideEven a b := by
  have hhalf : 2 * (a % b * c) < b * c ↔ 2 * (a % b) < b := by
    rw [← Nat.mul_assoc]
    exact Nat.mul_lt_mul_right hc
  have hmore : b * c < 2 * (a % b * c) ↔ b < 2 * (a % b) := by
    rw [← Nat.mul_assoc]
    exact Nat.mul_lt_mul_right hc
  simp only [divideEven, Nat.mul_div_mul_right _ _ hc, Nat.mul_mod_mul_right, hhalf, hmore]

theorem divideEven_one (a : Nat) : divideEven a 1 = a := by
  simp [divideEven, Nat.mod_one]

theorem div_le_divideEven (a b : Nat) : a / b ≤ divideEven a b := by
  simp only [divideEven]
  split
  · exact Nat.le_refl _
  · split
    · exact Nat.le_succ _
    · split
      · exact Nat.le_refl _
      · exact Nat.le_succ _

theorem divideEven_le (a b : Nat) : divideEven a b ≤ a / b + 1 := by
  simp only [divideEven]
  split
  · exact Nat.le_succ _
  · split
    · exact Nat.le_refl _
    · split
      · exact Nat.le_succ _
      · exact Nat.le_refl _

/-! ## Rounding a fraction -/

/-- What rounding a fraction comes to depends on its value alone. -/
theorem ofRatio_mul (negative : Bool) (hnum : 0 < num) (hden : 0 < den) {c : Nat} (hc : 0 < c) :
    ofRatio negative (num * c) (den * c) = ofRatio negative num den := by
  have hc' : (c : ℚ) ≠ 0 := by exact_mod_cast hc.ne'
  have horder : binaryOrder (num * c) (den * c) = binaryOrder num den := by
    rw [binaryOrder_eq_log (Nat.mul_pos hnum hc) (Nat.mul_pos hden hc),
      binaryOrder_eq_log hnum hden, Nat.cast_mul, Nat.cast_mul, mul_div_mul_right _ _ hc']
  have hscale (e : Int) : divideEven (num * c * Nat.pow 2 (-e).toNat)
      (den * c * Nat.pow 2 e.toNat) =
        divideEven (num * Nat.pow 2 (-e).toNat) (den * Nat.pow 2 e.toNat) := by
    rw [Nat.mul_right_comm num, Nat.mul_right_comm den, divideEven_mul _ _ hc]
  simp only [ofRatio, horder, hscale, Nat.mul_eq_zero, hnum.ne', hc.ne', or_self, if_false]

theorem ofRatio_congr (negative : Bool) {num' den' : Nat} (hnum : 0 < num) (hden : 0 < den)
    (hden' : 0 < den') (h : num * den' = num' * den) :
    ofRatio negative num den = ofRatio negative num' den' := by
  have hpos : 0 < num' * den := h ▸ Nat.mul_pos hnum hden'
  have hnum' : 0 < num' := Nat.pos_of_mul_pos_right hpos
  rw [← ofRatio_mul negative hnum hden hden', h, Nat.mul_comm den,
    ofRatio_mul negative hnum' hden' hden]

/-! ## What rounding comes to -/

/-- A power of two is in a fraction as often as the order says. -/
theorem le_binaryOrder_iff (hnum : 0 < num) (hden : 0 < den) (e : Int) (k : Nat) :
    e + k ≤ binaryOrder num den ↔ den * 2 ^ e.toNat * 2 ^ k ≤ num * 2 ^ (-e).toNat := by
  have hpos : (0 : ℚ) < (num : ℚ) / den := by positivity
  rw [binaryOrder_eq_log hnum hden, ← zpow_add_le_div_iff hden]
  exact (Int.zpow_le_iff_le_log (by decide) hpos).symm

theorem isCanonical_zero (negative : Bool) : (zero negative).IsCanonical :=
  ⟨by decide, by decide, by decide, Or.inr rfl⟩

/-- Rounding comes to the one representation of a number. -/
theorem isCanonical_ofRatio (negative : Bool) (num : Nat) (hden : 0 < den) :
    (ofRatio negative num den).IsCanonical := by
  by_cases hzero : num = 0
  · rw [ofRatio, if_pos hzero]
    exact isCanonical_zero negative
  · have hnum : 0 < num := Nat.pos_of_ne_zero hzero
    simp only [ofRatio, if_neg hzero, Nat.pow_eq]
    generalize hexponent : max minExponent (binaryOrder num den - 52) = exponent
    have hmin : minExponent ≤ exponent := by omega
    have hupper := (le_binaryOrder_iff hnum hden exponent 53).not.mp (by omega)
    have hlower := (le_binaryOrder_iff hnum hden exponent 52).mp
    have hpos : 0 < den * 2 ^ exponent.toNat := by positivity
    generalize num * 2 ^ (-exponent).toNat = a at hupper hlower
    generalize den * 2 ^ exponent.toNat = b at hupper hlower hpos
    have hquotient : a / b < 2 ^ 53 := (Nat.div_lt_iff_lt_mul hpos).mpr (by omega)
    have hle := divideEven_le a b
    have hge := div_le_divideEven a b
    -- A quotient that is rounded up to one bit more is the next power of two.
    split
    · dsimp only
      split
      · trivial
      · exact ⟨by decide, by omega, by omega, Or.inl (Nat.le_refl _)⟩
    · dsimp only
      split
      · trivial
      · simp only [IsCanonical, Nat.pow_eq]
        refine ⟨by omega, hmin, by omega, ?_⟩
        by_cases hleast : exponent = minExponent
        · exact Or.inr hleast
        · have hbits := (Nat.le_div_iff_mul_le hpos).mpr
            ((Nat.mul_comm _ _).trans_le (hlower (by omega)))
          exact Or.inl (by omega)

/-- A number as a fraction is that number. -/
theorem ofRatio_exact {negative : Bool} {mantissa : Nat} {exponent : Int}
    (h : (finite negative mantissa exponent).IsCanonical) :
    ofRatio negative (mantissa * 2 ^ exponent.toNat) (2 ^ (-exponent).toNat) =
      finite negative mantissa exponent := by
  obtain ⟨hbits, hmin, hmax, hfull⟩ := h
  simp only [Nat.pow_eq] at hbits hfull
  by_cases hzero : mantissa = 0
  · have hleast : exponent = minExponent := hfull.resolve_left (by omega)
    rw [ofRatio, if_pos (by rw [hzero, Nat.zero_mul]), hzero, hleast, zero]
  · have hnum : 0 < mantissa * 2 ^ exponent.toNat := by positivity
    have hden : 0 < 2 ^ (-exponent).toNat := by positivity
    -- The fraction has just the bits of the mantissa above the exponent.
    have horder (k : Nat) : exponent + k ≤
        binaryOrder (mantissa * 2 ^ exponent.toNat) (2 ^ (-exponent).toNat) ↔ 2 ^ k ≤ mantissa := by
      rw [le_binaryOrder_iff hnum hden, Nat.mul_comm (_ * _) (2 ^ k), Nat.mul_assoc mantissa,
        Nat.mul_comm (2 ^ exponent.toNat)]
      exact Nat.mul_le_mul_right_iff (by positivity)
    have hupper := (horder 53).not.mpr (by omega)
    have hlower := (horder 52).mpr
    have hexponent : max minExponent (binaryOrder (mantissa * 2 ^ exponent.toNat)
        (2 ^ (-exponent).toNat) - 52) = exponent := by
      rcases hfull with hfull | hfull
      · have := hlower hfull
        omega
      · omega
    have hmantissa : divideEven (mantissa * 2 ^ exponent.toNat * 2 ^ (-exponent).toNat)
        (2 ^ (-exponent).toNat * 2 ^ exponent.toNat) = mantissa := by
      rw [Nat.mul_assoc, Nat.mul_comm (2 ^ exponent.toNat),
        ← Nat.one_mul (2 ^ (-exponent).toNat * 2 ^ exponent.toNat), ← Nat.mul_assoc, Nat.mul_one,
        divideEven_mul _ _ (by positivity), divideEven_one]
    have hcarry : mantissa ≠ 2 ^ 53 := by omega
    simp only [ofRatio, if_neg hnum.ne', Nat.pow_eq, hexponent, hmantissa, if_neg hcarry]
    exact if_neg (by omega)

/-! ## Signs -/

/-- A number with another sign. -/
def withSign (negative : Bool) : Binary64 → Binary64
  | nan => nan
  | infinite _ => infinite negative
  | finite _ mantissa exponent => finite negative mantissa exponent

theorem withSign_ofRatio (negative : Bool) (num den : Nat) :
    (ofRatio false num den).withSign negative = ofRatio negative num den := by
  unfold ofRatio
  split
  · rfl
  · dsimp only
    split
    · exact apply_ite (withSign negative) _ _ _
    · exact apply_ite (withSign negative) _ _ _

/-! ## Decimals -/

theorem withSign_ofDecimal (negative : Bool) (digits : Nat) (exponent : Int) :
    (ofDecimal false digits exponent).withSign negative = ofDecimal negative digits exponent := by
  simp only [ofDecimal]
  split
  · rfl
  · split
    · rfl
    · split
      · rfl
      · exact withSign_ofRatio _ _ _

theorem isCanonical_ofDecimal (negative : Bool) (digits : Nat) (exponent : Int) :
    (ofDecimal negative digits exponent).IsCanonical := by
  simp only [ofDecimal]
  split
  · exact isCanonical_zero negative
  · split
    · trivial
    · split
      · exact isCanonical_zero negative
      · exact isCanonical_ofRatio _ _ (by simp only [Nat.pow_eq]; positivity)

/-- Zeros at the end of a decimal do not change what it is rounded to. -/
theorem ofDecimal_mul_ten_pow (negative : Bool) (digits k : Nat) (exponent : Int) :
    ofDecimal negative (digits * 10 ^ k) (exponent - k) = ofDecimal negative digits exponent := by
  by_cases hzero : digits = 0
  · rw [hzero, Nat.zero_mul, ofDecimal, ofDecimal, if_pos rfl, if_pos rfl]
  · have hpos : 0 < digits := Nat.pos_of_ne_zero hzero
    have hpoint : (decimalLength (digits * 10 ^ k) : Int) + (exponent - k) =
        decimalLength digits + exponent := by
      rw [Number.decimalLength_mul_ten_pow hpos]
      omega
    have hratio : ofRatio negative (digits * 10 ^ k * 10 ^ (exponent - k).toNat)
        (10 ^ (-(exponent - k)).toNat) =
          ofRatio negative (digits * 10 ^ exponent.toNat) (10 ^ (-exponent).toNat) := by
      refine ofRatio_congr negative (by positivity) (by positivity) (by positivity) ?_
      simp only [Nat.mul_assoc, ← Nat.pow_add]
      congr 2
      omega
    have hne : digits * 10 ^ k ≠ 0 := by positivity
    simp only [ofDecimal, if_neg hzero, if_neg hne, hpoint, Nat.pow_eq, hratio]

end TreeShell.Binary64
