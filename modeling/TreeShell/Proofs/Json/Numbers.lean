import TreeShell.Json.Reader
import TreeShell.Json.Writer
import TreeShell.Proofs.Number.Shortest

/-!
# Numbers in documents

A number is read back from the text it is written as: a whole one from its digits, and a floating
point number from either of the two layouts of the decimal it is written as. Both layouts are taken
apart in the same way, into the digits before the point, those after it, and an exponent; what they
come to is a decimal that differs from the written one at most by zeros at its end.

A number does not say where it ends, so something is asked of what follows: in an indented document
that is a comma, a line break, or nothing (`Ends`).
-/

set_option autoImplicit false

namespace TreeShell.Json

open Number Binary64

/-- What may follow a value in an indented document. -/
def Ends (rest : List Char) : Prop :=
  ∀ c ∈ rest.head?, c = ',' ∨ c = '\n'

variable {s rest : List Char} {c : Char} {ds : List Char}

theorem Ends.stopsDigits (h : Ends rest) : StopsDigits rest := by
  intro c hc
  rcases h c hc with rfl | rfl <;> decide

/-! ## The parts of a number -/

theorem readWhole_append (hne : c ≠ '0') (hdigits : ∀ d ∈ c :: ds, d.isDigit = true)
    (hrest : StopsDigits rest) : readWhole (c :: ds ++ rest) = some (c :: ds, rest) := by
  have htake := takeDigits_append hdigits hrest
  rw [List.cons_append] at htake ⊢
  unfold readWhole
  split
  · rename_i heq
    cases heq
    exact absurd rfl hne
  · rename_i heq
    cases heq
    rw [if_pos (hdigits c List.mem_cons_self), htake]
  · rename_i heq
    cases heq

theorem readFraction_append {digits : List Char} (hnil : digits ≠ [])
    (hdigits : ∀ d ∈ digits, d.isDigit = true) (hrest : StopsDigits rest) :
    readFraction ('.' :: (digits ++ rest)) = (some digits, rest) := by
  have htake := takeDigits_append hdigits hrest
  cases digits with
  | nil => exact absurd rfl hnil
  | cons d digits =>
    rw [List.cons_append] at htake ⊢
    rw [readFraction, if_pos (hdigits d List.mem_cons_self), htake]

theorem readFraction_none (h : ∀ t, s ≠ '.' :: t) : readFraction s = (none, s) := by
  unfold readFraction
  split
  · exact absurd rfl (h _)
  · rfl

theorem readExponent_none (h : ∀ t, s ≠ 'e' :: t ∧ s ≠ 'E' :: t) :
    readExponent s = (none, s) := by
  cases s with
  | nil => rfl
  | cons c t =>
    have hc : ¬ (c = 'e' || c = 'E') = true := by
      simp only [Bool.or_eq_true, decide_eq_true_eq, not_or]
      exact ⟨fun h' => (h t).1 (by rw [h']), fun h' => (h t).2 (by rw [h'])⟩
    rw [readExponent, if_neg hc]

theorem Ends.readFraction (h : Ends rest) : readFraction rest = (none, rest) :=
  readFraction_none fun t heq => by
    rcases h '.' (by rw [heq]; rfl) with h | h <;> exact absurd h (by decide)

theorem Ends.readExponent (h : Ends rest) : readExponent rest = (none, rest) := by
  refine readExponent_none fun t => ⟨fun heq => ?_, fun heq => ?_⟩
  · rcases h 'e' (by rw [heq]; rfl) with h | h <;> exact absurd h (by decide)
  · rcases h 'E' (by rw [heq]; rfl) with h | h <;> exact absurd h (by decide)

/-- An exponent is read back from its text. -/
theorem readExponent_exponentText (exponent : Int) (hrest : StopsDigits rest) :
    readExponent ('e' :: (exponentText exponent ++ rest)) = (some exponent, rest) := by
  have hsize : ∀ d ∈ Nat.toDigits 10 exponent.natAbs, d.isDigit = true :=
    fun d hd => isDigit_of_mem_toDigits hd
  obtain ⟨size, htext, hdigits, hvalue, hne⟩ : ∃ size,
      exponentText exponent = (if exponent < 0 then '-' else '+') :: size ∧
      (∀ d ∈ size, d.isDigit = true) ∧ digitsValue size = exponent.natAbs ∧
      size.isEmpty = false := by
    refine ⟨_, rfl, ?_⟩
    split
    · refine ⟨List.forall_mem_cons.mpr ⟨by decide, hsize⟩, ?_, rfl⟩
      rw [digitsValue_zero_cons, digitsValue_toDigits]
    · exact ⟨hsize, digitsValue_toDigits _, List.isEmpty_eq_false_iff.mpr Nat.toDigits_ne_nil⟩
  have htake := takeDigits_append hdigits hrest
  rw [htext, List.cons_append, readExponent]
  by_cases hnegative : exponent < 0
  · have hvalue' : -(digitsValue size : Int) = exponent := by omega
    simp [hnegative, takeSign, htake, hne, hvalue']
  · have hvalue' : (digitsValue size : Int) = exponent := by omega
    simp [hnegative, takeSign, htake, hne, hvalue']

/-- A number with a fraction or an exponent. -/
theorem readNumber_of_parts {whole after last : List Char} {fraction? : Option (List Char)}
    {exponent? : Option Int} (negative : Bool) (hwhole : readWhole s = some (whole, after))
    (hfraction : readFraction after = (fraction?, last))
    (hexponent : readExponent last = (exponent?, rest))
    (h : (fraction?.isNone && exponent?.isNone) = false) :
    readNumber negative s = .ok (.float (.ofDecimal negative
      (digitsValue (whole ++ fraction?.getD []))
      (exponent?.getD 0 - (fraction?.getD []).length)), rest) := by
  rw [readNumber, hwhole]
  dsimp only
  rw [hfraction]
  dsimp only
  rw [hexponent]
  dsimp only
  rw [h, if_neg Bool.false_ne_true]

/-- A whole number. -/
theorem readNumber_of_whole {whole : List Char} (negative : Bool)
    (hwhole : readWhole s = some (whole, rest)) (hlength : whole.length ≤ maxIntegerDigits)
    (hrest : Ends rest) :
    readNumber negative s =
      .ok (.int (if negative then -(digitsValue whole : Int) else digitsValue whole), rest) := by
  have hplain : ((none : Option (List Char)).isNone && (none : Option Int).isNone) = true := rfl
  rw [readNumber, hwhole]
  dsimp only
  rw [hrest.readFraction]
  dsimp only
  rw [hrest.readExponent]
  dsimp only
  rw [hplain, if_pos rfl, if_neg (Nat.not_lt.mpr hlength)]

/-! ## The layouts of a decimal -/

/-- A number's digits without the zeros at their end. -/
theorem significant_append (hne : c ≠ '0') :
    ∃ kept zeros, significant (c :: ds) = c :: kept ∧
      c :: ds = c :: kept ++ List.replicate zeros '0' := by
  obtain ⟨zeros, hzeros⟩ : ∃ zeros,
      (c :: ds).reverse.takeWhile (· = '0') = List.replicate zeros '0' :=
    ⟨_, List.eq_replicate_of_mem fun d hd => by simpa using List.mem_takeWhile_imp hd⟩
  have hsplit : c :: ds = ((c :: ds).reverse.dropWhile (· = '0')).reverse ++
      List.replicate zeros '0' := by
    rw [← List.reverse_inj, List.reverse_append, List.reverse_reverse, List.reverse_replicate,
      ← hzeros, List.takeWhile_append_dropWhile]
  unfold significant
  cases hkept : ((c :: ds).reverse.dropWhile (· = '0')).reverse with
  | nil =>
    rw [hkept, List.nil_append] at hsplit
    have hmem : c ∈ List.replicate zeros '0' := hsplit ▸ List.mem_cons_self
    exact absurd (List.eq_of_mem_replicate hmem) hne
  | cons d kept =>
    rw [hkept, List.cons_append, List.cons.injEq] at hsplit
    obtain ⟨rfl, hrest⟩ := hsplit
    exact ⟨kept, zeros, rfl, by rw [List.cons_append, ← hrest]⟩

theorem stopsDigits_cons (h : c.isDigit = false) : StopsDigits (c :: ds) := by
  intro d hd
  cases hd
  exact h

/-- A decimal in positional notation. -/
theorem readNumber_positional (negative : Bool) (hne : c ≠ '0')
    (hdigits : ∀ d ∈ c :: ds, d.isDigit = true) (hrest : Ends rest) (point : Int) :
    readNumber negative (positional (c :: ds) point ++ rest) =
      .ok (.float (.ofDecimal negative (digitsValue (c :: ds))
        (point - (c :: ds).length)), rest) := by
  have hzeros (n : Nat) : ∀ d ∈ List.replicate n '0', d.isDigit = true := by
    intro d hd
    rw [List.eq_of_mem_replicate hd]
    rfl
  unfold positional
  split
  · -- All digits stand behind the point.
    have hfraction := @readFraction_append rest (List.replicate (-point).toNat '0' ++ c :: ds)
      (by simp) (List.forall_mem_append.mpr ⟨hzeros _, hdigits⟩) hrest.stopsDigits
    have hwhole : readWhole ('0' :: '.' :: List.replicate (-point).toNat '0' ++ c :: ds ++ rest) =
        some (['0'], '.' :: (List.replicate (-point).toNat '0' ++ c :: ds ++ rest)) := rfl
    rw [readNumber_of_parts negative hwhole hfraction hrest.readExponent rfl]
    simp only [Option.getD_some, Option.getD_none, List.cons_append, List.nil_append,
      digitsValue_zero_cons, digitsValue_zeros_append, List.length_append, List.length_replicate]
    congr 4
    omega
  · rename_i hpoint
    split
    · -- All digits stand before the point, and zeros between.
      rename_i hlong
      obtain ⟨n, hn⟩ : ∃ n : Nat, point - (c :: ds).length = n :=
        ⟨(point - (c :: ds).length).toNat, by omega⟩
      have hn' : point.toNat - (c :: ds).length = n := by omega
      have hwhole := @readWhole_append ('.' :: '0' :: rest) c (ds ++ List.replicate n '0') hne
        (List.forall_mem_append.mpr ⟨hdigits, hzeros n⟩) (stopsDigits_cons rfl)
      have hfraction := @readFraction_append rest ['0'] (by simp) (hzeros 1) hrest.stopsDigits
      have htext : c :: ds ++ List.replicate (point.toNat - (c :: ds).length) '0' ++ ['.', '0'] ++
          rest = c :: (ds ++ List.replicate n '0') ++ '.' :: '0' :: rest := by
        rw [hn']
        simp
      have hvalue : digitsValue (c :: (ds ++ List.replicate n '0') ++ ['0']) =
          digitsValue (c :: ds) * 10 ^ (n + 1) := by
        rw [← digitsValue_append_zeros, List.replicate_succ', List.cons_append, List.cons_append,
          List.append_assoc]
      rw [htext, readNumber_of_parts negative hwhole hfraction hrest.readExponent rfl,
        Option.getD_some, Option.getD_none, hvalue, hn,
        ← ofDecimal_mul_ten_pow negative _ (n + 1) (n : Int)]
      congr 4
      simp
    · -- The point stands among the digits.
      rename_i hshort
      obtain ⟨n, hn⟩ : ∃ n : Nat, point.toNat = n + 1 := ⟨point.toNat - 1, by omega⟩
      have hlength : n < ds.length := by
        rw [List.length_cons] at hshort
        omega
      obtain ⟨hleft, hright⟩ : (∀ d ∈ c :: ds.take n, d.isDigit = true) ∧
          ∀ d ∈ ds.drop n, d.isDigit = true := by
        refine ⟨fun d hd => hdigits d ?_, fun d hd => hdigits d ?_⟩
        · exact List.mem_of_mem_take (l := c :: ds) (i := n + 1) (by simpa using hd)
        · exact List.mem_cons_of_mem _ (List.mem_of_mem_drop hd)
      have hwhole := @readWhole_append ('.' :: (ds.drop n ++ rest)) c (ds.take n) hne hleft
        (stopsDigits_cons rfl)
      have hnil : ds.drop n ≠ [] := by
        rw [Ne, List.drop_eq_nil_iff]
        omega
      have hfraction := readFraction_append hnil hright hrest.stopsDigits
      have htext : (c :: ds).take point.toNat ++ '.' :: (c :: ds).drop point.toNat ++ rest =
          c :: ds.take n ++ '.' :: (ds.drop n ++ rest) := by
        simp [hn]
      rw [htext, readNumber_of_parts negative hwhole hfraction hrest.readExponent rfl,
        Option.getD_some, Option.getD_none, List.cons_append, List.take_append_drop,
        List.length_drop, List.length_cons]
      congr 4
      omega

/-- A decimal in scientific notation. -/
theorem readNumber_scientific (negative : Bool) (hne : c ≠ '0')
    (hdigits : ∀ d ∈ c :: ds, d.isDigit = true) (hrest : Ends rest) (exponent : Int) :
    readNumber negative (scientific (c :: ds) exponent ++ rest) =
      .ok (.float (.ofDecimal negative (digitsValue (c :: ds))
        (exponent + 1 - (c :: ds).length)), rest) := by
  have hexponent := readExponent_exponentText exponent hrest.stopsDigits
  have hone : ∀ d ∈ [c], d.isDigit = true := by simpa using hdigits c List.mem_cons_self
  cases hds : ds with
  | nil =>
    have hwhole := @readWhole_append ('e' :: (exponentText exponent ++ rest)) c [] hne hone
      (stopsDigits_cons rfl)
    have hfraction : readFraction ('e' :: (exponentText exponent ++ rest)) =
        (none, 'e' :: (exponentText exponent ++ rest)) := rfl
    have htext : scientific [c] exponent ++ rest =
        [c] ++ 'e' :: (exponentText exponent ++ rest) := by simp [scientific]
    rw [htext, readNumber_of_parts negative hwhole hfraction hexponent rfl]
    simp
  | cons d more =>
    have hwhole := @readWhole_append ('.' :: (ds ++ 'e' :: (exponentText exponent ++ rest))) c []
      hne hone (stopsDigits_cons rfl)
    have hfraction := @readFraction_append ('e' :: (exponentText exponent ++ rest)) ds
      (by simp [hds]) (fun x hx => hdigits x (List.mem_cons_of_mem _ hx)) (stopsDigits_cons rfl)
    have htext : scientific (c :: ds) exponent ++ rest =
        [c] ++ '.' :: (ds ++ 'e' :: (exponentText exponent ++ rest)) := by
      simp [scientific, hds]
    rw [← hds, htext, readNumber_of_parts negative hwhole hfraction hexponent rfl,
      Option.getD_some, Option.getD_some, List.singleton_append, List.length_cons]
    congr 4
    omega

/-- **A decimal is read back from its text**, as a decimal with the same value. -/
theorem readNumber_layOut (negative : Bool) {d : Decimal} (hpos : 0 < d.digits)
    (hrest : Ends rest) : readNumber negative (layOut storedLayout d ++ rest) =
      .ok (.float (.ofDecimal negative d.digits d.exponent), rest) := by
  obtain ⟨c, ds, hall, hne⟩ := head_toDigits hpos
  obtain ⟨kept, zeros, hkept, hsplit⟩ := @significant_append c ds hne
  have hdigits : ∀ x ∈ c :: kept, x.isDigit = true := fun x hx => by
    refine @isDigit_of_mem_toDigits d.digits x ?_
    rw [hall, hsplit]
    exact List.mem_append_left _ hx
  have hlength : ((c :: ds).length : Int) = (c :: kept).length + zeros := by
    rw [hsplit, List.length_append, List.length_replicate, Nat.cast_add]
  have hvalue : d.digits = digitsValue (c :: kept) * 10 ^ zeros := by
    rw [← digitsValue_append_zeros, ← hsplit, ← hall, digitsValue_toDigits]
  -- What is left out at the end of the digits is put into the exponent.
  have hsame : ofDecimal negative d.digits d.exponent = ofDecimal negative
      (digitsValue (c :: kept)) ((c :: ds).length + d.exponent - (c :: kept).length) := by
    rw [← ofDecimal_mul_ten_pow negative (digitsValue (c :: kept)) zeros, ← hvalue]
    congr 1
    omega
  rw [hsame, layOut, hall, hkept]
  split
  · exact readNumber_positional negative hne hdigits hrest _
  · rw [readNumber_scientific negative hne hdigits hrest, Int.sub_add_cancel]

/-! ## Numbers -/

/-- A number begins with a digit. -/
theorem isDigit_of_readNumber {negative : Bool} {result : Json × List Char}
    (h : readNumber negative s = .ok result) : ∃ c t, s = c :: t ∧ c.isDigit = true := by
  rw [readNumber] at h
  cases hwhole : readWhole s with
  | none =>
    rw [hwhole] at h
    cases h
  | some parts =>
    unfold readWhole at hwhole
    split at hwhole
    · exact ⟨'0', _, rfl, rfl⟩
    · split at hwhole
      · exact ⟨_, _, rfl, ‹_›⟩
      · cases hwhole
    · cases hwhole

/-- A whole number in digits. -/
theorem readNumber_toDigits (negative : Bool) {n : Nat}
    (hlength : decimalLength n ≤ maxIntegerDigits) (hrest : Ends rest) :
    readNumber negative (Nat.toDigits 10 n ++ rest) =
      .ok (.int (if negative then -(n : Int) else n), rest) := by
  have hwhole : readWhole (Nat.toDigits 10 n ++ rest) = some (Nat.toDigits 10 n, rest) := by
    rcases Nat.eq_zero_or_pos n with rfl | hpos
    · rw [Nat.toDigits_zero]
      rfl
    · obtain ⟨c, ds, hall, hne⟩ := head_toDigits hpos
      rw [hall]
      exact readWhole_append hne (fun d hd => isDigit_of_mem_toDigits (hall ▸ hd))
        hrest.stopsDigits
  rw [readNumber_of_whole negative hwhole hlength hrest, digitsValue_toDigits]

/-- A finite number without its sign. -/
theorem readNumber_shortest (negative : Bool) {mantissa : Nat} {exponent : Int}
    (h : (finite negative mantissa exponent).IsCanonical) (hrest : Ends rest) :
    readNumber negative (layOut storedLayout (shortest mantissa exponent) ++ rest) =
      .ok (.float (.finite negative mantissa exponent), rest) := by
  have hread : ofDecimal negative (shortest mantissa exponent).digits
      (shortest mantissa exponent).exponent = finite negative mantissa exponent := by
    rw [← withSign_ofDecimal, @ofDecimal_shortest mantissa exponent h]
    rfl
  by_cases hzero : mantissa = 0
  · -- Zero has no digit that counts, and is written as it is.
    have hshortest : shortest mantissa exponent = ⟨0, 0⟩ := by rw [shortest, if_pos hzero]
    have hwhole : readWhole ('0' :: '.' :: '0' :: rest) = some (['0'], '.' :: '0' :: rest) := rfl
    have hfraction := @readFraction_append rest ['0'] (by simp) (by simp) hrest.stopsDigits
    have htext : layOut storedLayout ⟨0, 0⟩ ++ rest = '0' :: '.' :: '0' :: rest := rfl
    rw [hshortest] at hread
    rw [hshortest, htext, readNumber_of_parts negative hwhole hfraction hrest.readExponent rfl,
      ← hread]
    rfl
  · have hpos : 0 < (shortest mantissa exponent).digits := by
      refine Nat.pos_of_ne_zero fun hdigits => hzero ?_
      rw [hdigits, ofDecimal, if_pos rfl] at hread
      cases hread
      rfl
    rw [readNumber_layOut negative hpos hrest, hread]

end TreeShell.Json
