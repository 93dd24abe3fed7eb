import Mathlib.Tactic.IntervalCases
import TreeShell.Config
import TreeShell.Proofs.Number.Digits
import TreeShell.Proofs.Number.Rounding

/-!
# Numbers that users type

What is read from a text that a user typed can be written again: a whole number is not too long
(`decimalLength_of_integer`), and a floating point number is one in its one representation
(`isCanonical_of_float?`). And a positive bound that was written in digits is read back
(`historyLimit?_toString`), since plain digits are neither trimmed nor changed on the way.
-/

set_option autoImplicit false

namespace TreeShell

namespace Number

variable {text : String} {n : Int} {c : Char} {s : List Char}

theorem decimalLength_of_integer (h : integer text = .ok n) :
    Binary64.decimalLength n.natAbs ≤ maxIntegerDigits := by
  simp only [integer] at h
  split at h
  · rename_i s _
    split_ifs at h with hlength hdigits
    all_goals
      cases h
      simp only [Bool.or_eq_true, not_or, List.isEmpty_iff] at hdigits
      have hle := decimalLength_digitsValue_le (fun c hc => isDigit_of_mem_takeDigits hc) hdigits.1
      simp only [Int.natAbs_neg, Int.natAbs_natCast]
      omega
  · cases h

theorem isCanonical_of_float? {x : Binary64} (h : float? text = some x) : x.IsCanonical := by
  obtain ⟨s, -, hs⟩ := Option.bind_eq_some_iff.mp h
  simp only [unsigned?] at hs
  split_ifs at hs
  · cases hs
    trivial
  · cases hs
    trivial
  · obtain ⟨exponent, -, rfl⟩ := Option.map_eq_some_iff.mp hs
    exact Binary64.isCanonical_ofDecimal _ _ _

/-! ## Plain digits -/

theorem exists_digitChar (h : c.isDigit = true) : ∃ d < 10, c = Nat.digitChar d := by
  have hbounds : 48 ≤ c.toNat ∧ c.toNat ≤ 57 := by
    simpa [Char.isDigit, UInt32.le_iff_toNat_le] using h
  refine ⟨c.toNat - 48, by omega, Char.toNat_inj.mp ?_⟩
  rw [Nat.toNat_digitChar_of_lt_ten (by omega)]
  omega

/-- A digit is typed as it is read. -/
theorem plain_of_isDigit (h : c.isDigit = true) :
    Text.isBlank c = false ∧ Text.isDigit c = true ∧ plainDigit c = c ∧ c ≠ '-' ∧ c ≠ '+' ∧
      c ≠ '_' := by
  obtain ⟨d, hd, rfl⟩ := exists_digitChar h
  interval_cases d <;> decide

theorem stripWhile_of_forall {p : Char → Bool} (h : ∀ c ∈ s, p c = false) :
    Text.stripWhile p s = s := by
  have hdrop {t : List Char} (ht : ∀ c ∈ t, p c = false) : t.dropWhile p = t := by
    cases t with
    | nil => rfl
    | cons c t => exact List.dropWhile_cons_of_neg (by simp [ht c List.mem_cons_self])
  rw [Text.stripWhile, Text.dropEndWhile, hdrop h,
    hdrop fun c hc => h c (List.mem_reverse.mp hc), List.reverse_reverse]

theorem withoutUnderscores_of_isDigit (h : ∀ c ∈ s, c.isDigit = true) (previous : Option Char) :
    withoutUnderscores previous s = some s := by
  induction s generalizing previous with
  | nil => rfl
  | cons c s ih =>
    have hne := (plain_of_isDigit (h c List.mem_cons_self)).2.2.2.2.2
    have hrest := ih (fun d hd => h d (List.mem_cons_of_mem _ hd)) (some c)
    rw [withoutUnderscores.eq_def]
    split
    · rename_i heq
      cases heq
    · rename_i heq
      cases heq
      exact absurd rfl hne
    · rename_i heq
      cases heq
      rw [hrest]
      rfl

/-- Digits are read as the number they spell. -/
theorem integer_of_isDigit (h : ∀ c ∈ s, c.isDigit = true) (hne : s ≠ [])
    (hlength : s.length ≤ maxIntegerDigits) : integer (.ofList s) = .ok (digitsValue s) := by
  have hspace : Text.stripWhile Text.isSpace s = s :=
    stripWhile_of_forall fun c hc => by simp [Text.isSpace, (plain_of_isDigit (h c hc)).1]
  have hplain : s.map plainDigit = s :=
    (List.map_congr_left fun c hc => (plain_of_isDigit (h c hc)).2.2.1).trans (List.map_id s)
  have hprepared : prepared s = s := by rw [prepared, hspace, hplain]
  have hsign : takeSign s = (false, s) := by
    cases s with
    | nil => rfl
    | cons c s =>
      obtain ⟨-, -, -, hminus, hplus, -⟩ := plain_of_isDigit (h c List.mem_cons_self)
      unfold takeSign
      split
      · rename_i heq
        cases heq
        exact absurd rfl hminus
      · rename_i heq
        cases heq
        exact absurd rfl hplus
      · rfl
  have htake : takeDigits s = (s, []) := by
    have hnothing : StopsDigits [] := by simp [StopsDigits]
    simpa using takeDigits_append h hnothing
  simp only [integer, String.toList_ofList, hprepared, hsign, withoutUnderscores_of_isDigit h, htake]
  rw [if_neg (by omega), if_neg (by simp [hne])]
  rfl

end Number

namespace Config

variable {text : String} {limit : Int}

/-- A bound that was read is positive, and not too long to be written. -/
theorem bounds_of_historyLimit? (h : historyLimit? text = .ok (some limit)) :
    0 < limit ∧ Binary64.decimalLength limit.natAbs ≤ Number.maxIntegerDigits := by
  unfold historyLimit? at h
  split_ifs at h
  · cases hread : Number.integer text with
    | error e =>
      rw [hread] at h
      cases h
    | ok n =>
      have hn : (if 0 < n then some n else none) = some limit := by
        rw [hread] at h
        exact Except.ok.inj h
      split_ifs at hn with hpositive
      cases hn
      exact ⟨hpositive, Number.decimalLength_of_integer hread⟩
  · cases h

/-- A positive bound in digits is read back, and there is nothing to be trimmed. -/
theorem historyLimit?_toString (hpositive : 0 < limit)
    (hlength : Binary64.decimalLength limit.natAbs ≤ Number.maxIntegerDigits) :
    Text.trim (toString limit) = toString limit ∧
      historyLimit? (toString limit) = .ok (some limit) := by
  obtain ⟨n, rfl⟩ := Int.eq_ofNat_of_zero_le hpositive.le
  have hdigits : ∀ c ∈ Nat.toDigits 10 n, c.isDigit = true :=
    fun c hc => Number.isDigit_of_mem_toDigits hc
  have htext : toString (n : Int) = .ofList (Nat.toDigits 10 n) := rfl
  have htrimmed : Text.trimmed (Nat.toDigits 10 n) = Nat.toDigits 10 n :=
    Number.stripWhile_of_forall fun c hc => (Number.plain_of_isDigit (hdigits c hc)).1
  have hall : Text.isAllDigits (Nat.toDigits 10 n) = true := by
    simp only [Text.isAllDigits, Bool.and_eq_true, List.all_eq_true, Bool.not_eq_true',
      List.isEmpty_eq_false_iff]
    exact ⟨Nat.toDigits_ne_nil, fun c hc => (Number.plain_of_isDigit (hdigits c hc)).2.1⟩
  rw [htext, Text.trim, historyLimit?, String.toList_ofList, htrimmed, if_pos hall,
    Number.integer_of_isDigit hdigits Nat.toDigits_ne_nil hlength, Number.digitsValue_toDigits]
  exact ⟨rfl, congrArg Except.ok (if_pos hpositive)⟩

/-- A text of a number that is not positive gives no bound. -/
theorem historyLimit?_toString_of_nonpos (h : limit ≤ 0) :
    historyLimit? (Text.trim (toString limit)) = .ok none := by
  cases limit with
  | ofNat n =>
    obtain rfl : n = 0 := Int.ofNat_eq_zero.mp (le_antisymm h (Int.natCast_nonneg n))
    decide
  | negSucc n =>
    have htext : (toString (Int.negSucc n)).toList = '-' :: Nat.toDigits 10 (n + 1) := by
      simp [toString, Int.repr, Nat.repr]
    have htrimmed : Text.trimmed ('-' :: Nat.toDigits 10 (n + 1)) =
        '-' :: Nat.toDigits 10 (n + 1) := by
      refine Number.stripWhile_of_forall fun c hc => ?_
      rcases List.mem_cons.mp hc with rfl | hc
      · decide
      · exact (Number.plain_of_isDigit (Number.isDigit_of_mem_toDigits hc)).1
    rw [Text.trim, htext, htrimmed, historyLimit?, String.toList_ofList, htrimmed]
    have hminus : Text.isDigit '-' = false := by decide
    exact if_neg (by simp [Text.isAllDigits, hminus])

end Config

end TreeShell
