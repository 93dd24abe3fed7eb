/-!
# The order of strings is the order of their bytes

Strings are compared by their code points, one after the other. UTF-8 was made so that comparing the
bytes comes to the same: a smaller character has a smaller first byte, or the same one and a smaller
byte after it, and never is the encoding of one the beginning of that of another.
-/

set_option autoImplicit false

namespace TreeShell

/-- The bytes of a text in UTF-8. -/
def bytes (text : String) : List UInt8 :=
  text.toUTF8.data.toList

theorem bytes_eq (text : String) : bytes text = text.toList.flatMap String.utf8EncodeChar := by
  have hencode : text.toUTF8 = (text.toList.flatMap String.utf8EncodeChar).toByteArray :=
    String.utf8Encode_toList.symm
  rw [bytes, hencode, List.data_toByteArray, List.toList_toArray]

/-- Bytes are in the order of their numbers, and what follows them decides between equal ones. -/
theorem ofNat_cons_lt {m n : Nat} {rest more : List UInt8} (hn : n < 256)
    (h : m < n ∨ (m = n ∧ rest < more)) : UInt8.ofNat m :: rest < UInt8.ofNat n :: more := by
  rw [List.cons_lt_cons_iff]
  rcases h with h | ⟨rfl, h⟩
  · left
    rw [UInt8.lt_iff_toNat_lt, UInt8.toNat_ofNat_of_lt' (Nat.lt_trans h hn),
      UInt8.toNat_ofNat_of_lt' hn]
    exact h
  · exact Or.inr ⟨rfl, h⟩

/-- A byte is made from what is left of a number without its lowest bits. What follows is made from
those bits, and is asked only when the rest is the same. -/
theorem ofNat_cons_lt_of_div {m n k a b : Nat} {rest more : List UInt8} (h : m < n) (hb : b < 256)
    (hlt : m / k < n / k → a < b) (heq : m / k = n / k → a = b)
    (hrest : m / k = n / k → rest < more) : UInt8.ofNat a :: rest < UInt8.ofNat b :: more := by
  refine ofNat_cons_lt hb ?_
  rcases Nat.lt_or_eq_of_le (Nat.div_le_div_right (c := k) (Nat.le_of_lt h)) with hhigh | hhigh
  · exact Or.inl (hlt hhigh)
  · exact Or.inr ⟨heq hhigh, hrest hhigh⟩

/-- The last byte of an encoding. -/
theorem last_lt {m n : Nat} (h : m < n) (hhigh : m / 64 = n / 64) (rest more : List UInt8) :
    UInt8.ofNat (m % 64 + 128) :: rest < UInt8.ofNat (n % 64 + 128) :: more :=
  ofNat_cons_lt (by omega) (by omega)

/-- The last two bytes of an encoding. -/
theorem lastTwo_lt {m n : Nat} (h : m < n) (hhigh : m / 4096 = n / 4096) (rest more : List UInt8) :
    UInt8.ofNat (m / 64 % 64 + 128) :: UInt8.ofNat (m % 64 + 128) :: rest <
      UInt8.ofNat (n / 64 % 64 + 128) :: UInt8.ofNat (n % 64 + 128) :: more :=
  ofNat_cons_lt_of_div h (by omega) (by omega) (by omega) fun heq => last_lt h heq rest more

/-- The last three bytes of an encoding. -/
theorem lastThree_lt {m n : Nat} (h : m < n) (hhigh : m / 262144 = n / 262144)
    (rest more : List UInt8) :
    UInt8.ofNat (m / 4096 % 64 + 128) :: UInt8.ofNat (m / 64 % 64 + 128) ::
        UInt8.ofNat (m % 64 + 128) :: rest <
      UInt8.ofNat (n / 4096 % 64 + 128) :: UInt8.ofNat (n / 64 % 64 + 128) ::
        UInt8.ofNat (n % 64 + 128) :: more :=
  ofNat_cons_lt_of_div h (by omega) (by omega) (by omega) fun heq => lastTwo_lt h heq rest more

/-- A smaller character decides the order of what begins with it. -/
theorem utf8EncodeChar_lt {c d : Char} (h : c < d) (rest more : List UInt8) :
    String.utf8EncodeChar c ++ rest < String.utf8EncodeChar d ++ more := by
  have hlt : c.val.toNat < d.val.toNat := h
  have hmax : d.val.toNat < 1114112 := by
    rcases d.valid with hvalid | ⟨-, hvalid⟩
    · exact Nat.lt_trans hvalid (by decide)
    · exact hvalid
  simp only [String.utf8EncodeChar]
  generalize c.val.toNat = m at hlt ⊢
  generalize d.val.toNat = n at hlt hmax ⊢
  -- With more bytes the first one is larger. With as many, it is as large or decides.
  by_cases h1 : m ≤ 127
  · rw [if_pos h1]
    split
    · exact ofNat_cons_lt (by omega) (by omega)
    · split
      · exact ofNat_cons_lt (by omega) (by omega)
      · split <;> exact ofNat_cons_lt (by omega) (by omega)
  rw [if_neg h1, if_neg (c := n ≤ 127) (by omega)]
  by_cases h2 : m ≤ 2047
  · rw [if_pos h2]
    split
    · exact ofNat_cons_lt_of_div hlt (by omega) (by omega) (by omega) fun hhigh =>
        last_lt hlt hhigh rest more
    · split <;> exact ofNat_cons_lt (by omega) (by omega)
  rw [if_neg h2, if_neg (c := n ≤ 2047) (by omega)]
  by_cases h3 : m ≤ 65535
  · rw [if_pos h3]
    split
    · exact ofNat_cons_lt_of_div hlt (by omega) (by omega) (by omega) fun hhigh =>
        lastTwo_lt hlt hhigh rest more
    · exact ofNat_cons_lt (by omega) (by omega)
  rw [if_neg h3, if_neg (c := n ≤ 65535) (by omega)]
  exact ofNat_cons_lt_of_div hlt (by omega) (by omega) (by omega) fun hhigh =>
    lastThree_lt hlt hhigh rest more

theorem flatMap_utf8EncodeChar_lt :
    ∀ {text other : List Char}, text < other →
      text.flatMap String.utf8EncodeChar < other.flatMap String.utf8EncodeChar
  | _, [], h => absurd h (List.not_lt_nil _)
  | [], d :: other, _ => by
    rw [List.flatMap_cons]
    cases hencode : String.utf8EncodeChar d with
    | nil => exact absurd hencode String.utf8EncodeChar_ne_nil
    | cons byte rest => exact List.nil_lt_cons _ _
  | c :: text, d :: other, h => by
    rw [List.flatMap_cons, List.flatMap_cons]
    rcases List.cons_lt_cons_iff.mp h with hlt | ⟨rfl, hlt⟩
    · exact utf8EncodeChar_lt hlt _ _
    · exact List.append_left_lt (flatMap_utf8EncodeChar_lt hlt)

/-- **A smaller string has smaller bytes.** -/
theorem bytes_lt {text other : String} (h : text < other) : bytes text < bytes other := by
  rw [bytes_eq, bytes_eq]
  exact flatMap_utf8EncodeChar_lt (String.lt_iff.mp h)

end TreeShell
