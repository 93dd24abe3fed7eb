import TreeShell.Json.Reader
import TreeShell.Proofs.Fields
import TreeShell.Proofs.Number.Rounding

/-!
# Documents that were read

A document that was read is regular (`regular_of_parse`): its whole numbers are not too long, its
floating point numbers are numbers in their one representation, and no object names a member twice.
The readers of items and of members hand on what they have read so far, so what is shown of them is
that they keep it regular.
-/

set_option autoImplicit false

namespace TreeShell.Json

open Number Binary64

/-- A document that can be written and read back. -/
inductive Regular : Json → Prop
  | null : Regular .null
  | bool (value : Bool) : Regular (.bool value)
  | int {n : Int} (hlength : decimalLength n.natAbs ≤ maxIntegerDigits) : Regular (.int n)
  | float {x : Binary64} (hcanonical : x.IsCanonical) : Regular (.float x)
  | string (text : String) : Regular (.string text)
  | array {items : List Json} (hitems : ∀ item ∈ items, Regular item) : Regular (.array items)
  | object {members : Fields Json} (hnames : members.names.Nodup)
      (hmembers : ∀ member ∈ members, Regular member.2) : Regular (.object members)

variable {s rest : List Char} {document : Json} {fuel : Nat}

theorem Regular.get? {member : Json} {name : String} (h : Regular document)
    (hmember : document.get? name = some member) : Regular member := by
  cases h with
  | object _ hmembers => exact hmembers _ (Fields.mem_of_get? hmember)
  | _ => cases hmember

/-! ## Numbers and other scalars -/

/-- The digits before the point are digits, and there are some. -/
theorem isDigit_of_readWhole {whole : List Char} (h : readWhole s = some (whole, rest)) :
    whole ≠ [] ∧ ∀ c ∈ whole, c.isDigit = true := by
  unfold readWhole at h
  split at h
  · cases h
    exact ⟨by simp, by simp⟩
  · rename_i c t _
    split at h
    · rename_i hdigit
      cases h
      refine ⟨?_, fun d hd => List.mem_takeWhile_imp hd⟩
      rw [List.takeWhile_cons_of_pos hdigit]
      exact List.cons_ne_nil _ _
    · cases h
  · cases h

theorem regular_readNumber {negative : Bool} (h : readNumber negative s = .ok (document, rest)) :
    Regular document := by
  rw [readNumber] at h
  cases hwhole : readWhole s with
  | none =>
    rw [hwhole] at h
    cases h
  | some parts =>
    obtain ⟨whole, after⟩ := parts
    rw [hwhole] at h
    dsimp only at h
    split at h
    · split at h
      · cases h
      · rename_i hlength
        cases h
        obtain ⟨hne, hdigits⟩ := isDigit_of_readWhole hwhole
        have hle := decimalLength_digitsValue_le hdigits hne
        refine .int ?_
        split <;> simp only [Int.natAbs_neg, Int.natAbs_natCast] <;> omega
    · cases h
      exact .float (isCanonical_ofDecimal _ _ _)

theorem regular_readScalar (h : readScalar s = .ok (document, rest)) : Regular document := by
  unfold readScalar at h
  split at h
  · rename_i t
    cases hread : readChars [] t with
    | error e =>
      rw [hread] at h
      cases h
    | ok result =>
      rw [hread] at h
      cases h
      exact .string _
  · cases h
    exact .null
  · cases h
    exact .bool true
  · cases h
    exact .bool false
  · cases h
    exact .float trivial
  · cases h
    exact .float trivial
  · cases h
    exact .float trivial
  · exact regular_readNumber h
  · exact regular_readNumber h

/-! ## Arrays and objects -/

/-- What the readers come to is regular, if what was read before is. -/
structure ReadsRegular (fuel : Nat) : Prop where
  value : ∀ {s document rest}, readValue fuel s = .ok (document, rest) → Regular document
  items : ∀ {read s document rest}, (∀ item ∈ read, Regular item) →
    readItems fuel read s = .ok (document, rest) → Regular document
  members : ∀ {read s document rest}, (Fields.names read).Nodup →
    (∀ member ∈ read, Regular member.2) →
    readMembers fuel read s = .ok (document, rest) → Regular document

/-- A member more, or another value for one. -/
theorem regular_set {read : Fields Json} (hread : ∀ member ∈ read, Regular member.2)
    (hdocument : Regular document) (name : String) :
    ∀ member ∈ Fields.set read name document, Regular member.2 := by
  intro member hmember
  rcases Fields.mem_set hmember with rfl | hmember
  · exact hdocument
  · exact hread member hmember

namespace ReadsRegular

theorem value_succ (h : ReadsRegular fuel) (hread : readValue (fuel + 1) s = .ok (document, rest)) :
    Regular document := by
  rw [readValue.eq_def] at hread
  split at hread
  · rename_i heq
    cases heq
  · rename_i heq
    cases heq
    split at hread
    · cases hread
      exact .array (by simp)
    · exact h.items (List.forall_mem_nil _) hread
  · rename_i heq
    cases heq
    split at hread
    · cases hread
      exact .object List.nodup_nil (List.forall_mem_nil _)
    · have hnone : (Fields.names ([] : Fields Json)).Nodup := List.nodup_nil
      exact h.members hnone (List.forall_mem_nil _) hread
  · exact regular_readScalar hread

theorem items_succ (h : ReadsRegular fuel) {read : List Json} (hread : ∀ item ∈ read, Regular item)
    (hitems : readItems (fuel + 1) read s = .ok (document, rest)) : Regular document := by
  rw [readItems] at hitems
  cases hvalue : readValue fuel s with
  | error e =>
    rw [hvalue] at hitems
    cases hitems
  | ok result =>
    obtain ⟨item, after⟩ := result
    have hmore : ∀ other ∈ item :: read, Regular other :=
      List.forall_mem_cons.mpr ⟨h.value hvalue, hread⟩
    rw [hvalue] at hitems
    dsimp only at hitems
    split at hitems
    · cases hitems
      exact .array fun other hother => hmore other (List.mem_reverse.mp hother)
    · exact h.items hmore hitems
    · cases hitems

theorem members_succ (h : ReadsRegular fuel) {read : Fields Json} (hnames : read.names.Nodup)
    (hread : ∀ member ∈ read, Regular member.2)
    (hmembers : readMembers (fuel + 1) read s = .ok (document, rest)) : Regular document := by
  rw [readMembers.eq_def] at hmembers
  split at hmembers
  · cases hmembers
  · rename_i heq
    cases heq
    split at hmembers
    · cases hmembers
    · rename_i name after _
      split at hmembers
      · split at hmembers
        · cases hmembers
        · rename_i value _ hvalue
          have hmore := regular_set hread (h.value hvalue) name
          have hdistinct := Fields.nodup_names_set hnames name value
          split at hmembers
          · cases hmembers
            exact .object hdistinct hmore
          · exact h.members hdistinct hmore hmembers
          · cases hmembers
      · cases hmembers
  · cases hmembers

end ReadsRegular

theorem readsRegular (fuel : Nat) : ReadsRegular fuel := by
  induction fuel with
  | zero =>
    constructor
    · intro s document rest h
      cases h
    · intro read s document rest _ h
      cases h
    · intro read s document rest _ _ h
      cases h
  | succ fuel ih => exact ⟨ih.value_succ, ih.items_succ, ih.members_succ⟩

/-- **What was read is regular.** -/
theorem regular_of_parse {text : String} (h : parse text = .ok document) : Regular document := by
  rw [parse] at h
  cases hread : readValue (2 * (skipSpace text.toList).length + 2) (skipSpace text.toList) with
  | error e =>
    simp only [hread] at h
    cases h
  | ok result =>
    simp only [hread] at h
    split at h
    · cases h
      exact (readsRegular _).value hread
    · cases h

end TreeShell.Json
