import TreeShell.Proofs.Json.Numbers
import TreeShell.Proofs.Json.Regular
import TreeShell.Proofs.Json.Strings

/-!
# Documents are read back

A document that is written with one item a line is read back as it was (`parse_indented`), if it is
regular, as every document is that was read.

The proof follows the document. What is shown of a value is that the reader, put before its text,
goes on behind it (`ReadsBack`); then of items and members one after another by an induction on
their list, with what is known of each for a hypothesis. Every reader is given as many steps as the
text has characters, which is enough because each of them takes at least one.
-/

set_option autoImplicit false

namespace TreeShell.Json

open Number Binary64

/-- A character that a value may begin with. -/
def Opens (c : Char) : Prop :=
  c ≠ ' ' ∧ c ≠ '\t' ∧ c ≠ '\n' ∧ c ≠ '\r' ∧ c ≠ ']'

instance (c : Char) : Decidable (Opens c) := by
  unfold Opens
  infer_instance

/-- Put before the text of a document, the reader goes on behind it. -/
structure ReadsBack (document : Json) : Prop where
  opens : ∀ level, ∃ c t, (indentedAt level document).toList = c :: t ∧ Opens c
  reads : ∀ level fuel rest, (indentedAt level document).toList.length ≤ fuel → Ends rest →
    readValue fuel ((indentedAt level document).toList ++ rest) = .ok (document, rest)

variable {c : Char} {t rest : List Char} {document : Json}

theorem opens_of_isDigit (h : c.isDigit = true) : Opens c := by
  refine ⟨?_, ?_, ?_, ?_, ?_⟩ <;>
  · rintro rfl
    exact absurd h (by decide)

theorem skipSpace_of_opens (h : Opens c) (t : List Char) : skipSpace (c :: t) = c :: t := by
  refine List.dropWhile_cons_of_neg ?_
  simp [h.1, h.2.1, h.2.2.1, h.2.2.2.1]

theorem skipSpace_newLine (level : Nat) (s : List Char) :
    skipSpace ((newLine level).toList ++ s) = skipSpace s := by
  have hspaces (n : Nat) : skipSpace (List.replicate n ' ' ++ s) = skipSpace s :=
    List.dropWhile_append_of_pos fun c hc => by simp [List.eq_of_mem_replicate hc]
  rw [newLine, String.toList_ofList, List.cons_append]
  exact hspaces (2 * level)

/-! ## Scalars -/

theorem readValue_of_readScalar (hlist : c ≠ '[') (hobject : c ≠ '{') (fuel : Nat) :
    readValue (fuel + 1) (c :: t) = readScalar (c :: t) := by
  rw [readValue.eq_def]
  split
  · rename_i heq
    exact nomatch heq
  · rename_i heq
    cases heq
    exact absurd rfl hlist
  · rename_i heq
    cases heq
    exact absurd rfl hobject
  · rename_i heq _ _
    cases heq
    rfl

theorem readScalar_of_isDigit (h : c.isDigit = true) (t : List Char) :
    readScalar (c :: t) = readNumber false (c :: t) := by
  unfold readScalar
  split
  all_goals first
  | rfl
  | rename_i heq
    cases heq
    exact absurd h (by decide)

theorem readScalar_minus (h : c.isDigit = true) (t : List Char) :
    readScalar ('-' :: c :: t) = readNumber true (c :: t) := by
  unfold readScalar
  split
  iterate 6
    · rename_i heq
      cases heq
  · rename_i heq
    cases heq
    exact absurd h (by decide)
  · rename_i heq
    cases heq
    rfl
  · rename_i hminus
    exact (hminus _ rfl).elim

/-- A document that holds no others is read back if the reader of such documents does it. -/
theorem readsBack_of_scalar (htext : ∀ level, indentedAt level document = scalarText document)
    (hhead : (scalarText document).toList = c :: t) (hopens : Opens c) (hlist : c ≠ '[')
    (hobject : c ≠ '{') (hread : ∀ rest, Ends rest →
      readScalar ((scalarText document).toList ++ rest) = .ok (document, rest)) :
    ReadsBack document where
  opens level := ⟨c, t, by rw [htext, hhead], hopens⟩
  reads level fuel rest hfuel hrest := by
    rw [htext, hhead, List.length_cons] at hfuel
    obtain ⟨fuel, rfl⟩ : ∃ less, fuel = less + 1 := ⟨fuel - 1, by omega⟩
    have hscalar := hread rest hrest
    rw [htext]
    rw [hhead, List.cons_append] at hscalar ⊢
    rw [readValue_of_readScalar hlist hobject, hscalar]

theorem readsBack_null : ReadsBack .null :=
  @readsBack_of_scalar 'n' _ .null (fun _ => rfl) rfl (by decide) (by decide) (by decide)
    fun _ _ => rfl

theorem readsBack_bool (value : Bool) : ReadsBack (.bool value) := by
  cases value with
  | true =>
    exact @readsBack_of_scalar 't' _ (.bool true) (fun _ => rfl) rfl (by decide) (by decide)
      (by decide) fun _ _ => rfl
  | false =>
    exact @readsBack_of_scalar 'f' _ (.bool false) (fun _ => rfl) rfl (by decide) (by decide)
      (by decide) fun _ _ => rfl

theorem readsBack_string (text : String) : ReadsBack (.string text) := by
  obtain ⟨t, htext, hread⟩ := readChars_stringText text
  refine @readsBack_of_scalar '"' t (.string text) (fun _ => rfl) htext (by decide) (by decide)
    (by decide) fun rest _ => ?_
  have hscalar : scalarText (.string text) = stringText text := rfl
  rw [hscalar, htext, List.cons_append, readScalar, hread]
  rfl

/-- A number is read back, with its sign or without one. -/
theorem readsBack_of_readNumber (negative : Bool)
    (htext : ∀ level, indentedAt level document = scalarText document)
    (hsign : (scalarText document).toList = if negative then '-' :: t else t)
    (hread : ∀ rest, Ends rest → readNumber negative (t ++ rest) = .ok (document, rest)) :
    ReadsBack document := by
  obtain ⟨c, t', hcons, hdigit⟩ := isDigit_of_readNumber (hread [] (by simp [Ends]))
  rw [List.append_nil] at hcons
  subst hcons
  cases negative with
  | true =>
    refine readsBack_of_scalar htext hsign (by decide) (by decide) (by decide) fun rest hrest => ?_
    rw [hsign, ← hread rest hrest]
    exact readScalar_minus hdigit (t' ++ rest)
  | false =>
    refine readsBack_of_scalar htext hsign (opens_of_isDigit hdigit) ?_ ?_ fun rest hrest => ?_
    · rintro rfl
      exact absurd hdigit (by decide)
    · rintro rfl
      exact absurd hdigit (by decide)
    · rw [hsign, ← hread rest hrest]
      exact readScalar_of_isDigit hdigit (t' ++ rest)

theorem readsBack_int {n : Int} (h : decimalLength n.natAbs ≤ maxIntegerDigits) :
    ReadsBack (.int n) := by
  refine @readsBack_of_readNumber (Nat.toDigits 10 n.natAbs) (.int n) (decide (n < 0))
    (fun _ => rfl) ?_ fun rest hrest => ?_
  · have htext : scalarText (.int n) = n.repr := rfl
    rw [htext, Int.repr_eq_if]
    by_cases hn : n < 0
    · have hsize : (-n).toNat = n.natAbs := by omega
      simp [hn, not_le.mpr hn, hsize]
    · have hsize : n.toNat = n.natAbs := by omega
      simp [hn, not_lt.mp hn, hsize]
  · have hvalue : (if decide (n < 0) = true then -(n.natAbs : Int) else n.natAbs) = n := by
      by_cases hn : n < 0
      · simp only [hn, decide_true, if_true]
        omega
      · simp only [hn, decide_false, Bool.false_eq_true, if_false]
        omega
    rw [readNumber_toDigits _ h hrest, hvalue]

theorem readsBack_float {x : Binary64} (h : x.IsCanonical) : ReadsBack (.float x) := by
  cases x with
  | nan =>
    exact @readsBack_of_scalar 'N' _ (.float .nan) (fun _ => rfl) rfl (by decide) (by decide)
      (by decide) fun _ _ => rfl
  | infinite negative =>
    cases negative with
    | true =>
      exact @readsBack_of_scalar '-' _ (.float (.infinite true)) (fun _ => rfl) rfl (by decide)
        (by decide) (by decide) fun _ _ => rfl
    | false =>
      exact @readsBack_of_scalar 'I' _ (.float (.infinite false)) (fun _ => rfl) rfl (by decide)
        (by decide) (by decide) fun _ _ => rfl
  | finite negative mantissa exponent =>
    refine @readsBack_of_readNumber (layOut storedLayout (shortest mantissa exponent))
      (.float (.finite negative mantissa exponent)) negative (fun _ => rfl) ?_
      fun rest hrest => readNumber_shortest negative h hrest
    have htext : scalarText (.float (.finite negative mantissa exponent)) =
        (if negative then "-" else "") ++
          .ofList (layOut storedLayout (shortest mantissa exponent)) := rfl
    rw [htext]
    cases negative <;> simp

/-! ## Arrays -/

theorem skipSpace_indentedAt (h : ReadsBack document) (level : Nat) (rest : List Char) :
    skipSpace ((newLine (level + 1)).toList ++ ((indentedAt (level + 1) document).toList ++ rest)) =
      (indentedAt (level + 1) document).toList ++ rest := by
  obtain ⟨c, t, htext, hopens⟩ := h.opens (level + 1)
  rw [skipSpace_newLine, htext, List.cons_append, skipSpace_of_opens hopens]

theorem skipSpace_bracket (level : Nat) (hc : c = ']' ∨ c = '\x7d') (rest : List Char) :
    skipSpace ((newLine level).toList ++ c :: rest) = c :: rest := by
  rw [skipSpace_newLine]
  rcases hc with rfl | rfl <;> exact List.dropWhile_cons_of_neg (by decide)

theorem toList_indentedItems_nil (level : Nat) (rest : List Char) :
    (indentedItems level []).toList ++ rest = (newLine level).toList ++ ']' :: rest := by
  simp [indentedItems]

theorem toList_indentedItems_cons (level : Nat) (item : Json) (items : List Json)
    (rest : List Char) : (indentedItems level (item :: items)).toList ++ rest =
      ',' :: ((newLine (level + 1)).toList ++ ((indentedAt (level + 1) item).toList ++
        ((indentedItems level items).toList ++ rest))) := by
  simp [indentedItems]

theorem ends_newLine (level : Nat) (rest : List Char) : Ends ((newLine level).toList ++ rest) := by
  simp [newLine, Ends]

theorem ends_comma (rest : List Char) : Ends (',' :: rest) := by
  simp [Ends]

theorem ends_indentedItems (level : Nat) (items : List Json) (rest : List Char) :
    Ends ((indentedItems level items).toList ++ rest) := by
  cases items with
  | nil =>
    rw [toList_indentedItems_nil]
    exact ends_newLine level _
  | cons item items =>
    rw [toList_indentedItems_cons]
    exact ends_comma _

/-- Items are read one after another. -/
theorem readItems_indented {level : Nat} {first : Json} {items read : List Json} {fuel : Nat}
    (hitems : ∀ item ∈ first :: items, ReadsBack item)
    (hfuel : (indentedAt (level + 1) first).toList.length +
      (indentedItems level items).toList.length ≤ fuel) (rest : List Char) :
    readItems fuel read ((indentedAt (level + 1) first).toList ++
        ((indentedItems level items).toList ++ rest)) =
      .ok (.array (read.reverse ++ first :: items), rest) := by
  induction items generalizing first read fuel with
  | nil =>
    have hlength := congrArg List.length (toList_indentedItems_nil level [])
    simp only [List.append_nil, List.length_append, List.length_cons] at hlength
    obtain ⟨fuel, rfl⟩ : ∃ less, fuel = less + 1 := ⟨fuel - 1, by omega⟩
    have hread := (hitems first List.mem_cons_self).reads (level + 1) fuel _ (by omega)
      (ends_indentedItems level [] rest)
    rw [readItems, hread, toList_indentedItems_nil]
    dsimp only
    rw [skipSpace_bracket level (Or.inl rfl)]
    simp
  | cons next items ih =>
    have hlength := congrArg List.length (toList_indentedItems_cons level next items [])
    simp only [List.append_nil, List.length_append, List.length_cons] at hlength
    obtain ⟨fuel, rfl⟩ : ∃ less, fuel = less + 1 := ⟨fuel - 1, by omega⟩
    have hread := (hitems first List.mem_cons_self).reads (level + 1) fuel _ (by omega)
      (ends_indentedItems level (next :: items) rest)
    have hnext := hitems next (List.mem_cons_of_mem _ List.mem_cons_self)
    have hothers : ∀ item ∈ next :: items, ReadsBack item :=
      fun item hitem => hitems item (List.mem_cons_of_mem _ hitem)
    rw [readItems, hread, toList_indentedItems_cons]
    dsimp only
    rw [skipSpace_of_opens (by decide)]
    change readItems fuel (first :: read) (skipSpace _) = _
    rw [skipSpace_indentedAt hnext, ih hothers (by omega), List.reverse_cons, List.append_assoc]
    rfl

theorem readsBack_array {items : List Json} (hitems : ∀ item ∈ items, ReadsBack item) :
    ReadsBack (.array items) := by
  cases items with
  | nil =>
    refine ⟨fun _ => ⟨'[', [']'], by simp [indentedAt, scalarText], by decide⟩,
      fun level fuel rest hfuel _ => ?_⟩
    have htext : (indentedAt level (.array [])).toList = ['[', ']'] := by
      simp [indentedAt, scalarText]
    rw [htext, List.length_cons] at hfuel
    obtain ⟨fuel, rfl⟩ : ∃ less, fuel = less + 1 := ⟨fuel - 1, by omega⟩
    rw [htext]
    rfl
  | cons first items =>
    have htext (level : Nat) (rest : List Char) :
        (indentedAt level (.array (first :: items))).toList ++ rest =
          '[' :: ((newLine (level + 1)).toList ++ ((indentedAt (level + 1) first).toList ++
            ((indentedItems level items).toList ++ rest))) := by
      simp [indentedAt]
    refine ⟨fun level => ⟨'[', _, by simpa using htext level [], by decide⟩,
      fun level fuel rest hfuel _ => ?_⟩
    have hlength := congrArg List.length (htext level [])
    simp only [List.append_nil, List.length_append, List.length_cons] at hlength
    obtain ⟨fuel, rfl⟩ : ∃ less, fuel = less + 1 := ⟨fuel - 1, by omega⟩
    have hfirst := hitems first List.mem_cons_self
    obtain ⟨c, t, hcons, hopens⟩ := hfirst.opens (level + 1)
    have hread := @readItems_indented level first items [] fuel hitems (by omega) rest
    rw [htext, readValue, skipSpace_indentedAt hfirst]
    rw [hcons, List.cons_append] at hread ⊢
    split
    · rename_i heq
      cases heq
      exact absurd rfl hopens.2.2.2.2
    · exact hread

/-! ## Objects -/

theorem toList_indentedMembers_nil (level : Nat) (rest : List Char) :
    (indentedMembers level []).toList ++ rest = (newLine level).toList ++ '\x7d' :: rest := by
  simp [indentedMembers]

theorem toList_indentedMembers_cons (level : Nat) (member : String × Json)
    (members : Fields Json) (rest : List Char) :
    (indentedMembers level (member :: members)).toList ++ rest =
      ',' :: ((newLine (level + 1)).toList ++ ((stringText member.1).toList ++ ':' :: ' ' ::
        ((indentedAt (level + 1) member.2).toList ++
          ((indentedMembers level members).toList ++ rest)))) := by
  simp [indentedMembers]

theorem ends_indentedMembers (level : Nat) (members : Fields Json) (rest : List Char) :
    Ends ((indentedMembers level members).toList ++ rest) := by
  cases members with
  | nil =>
    rw [toList_indentedMembers_nil]
    exact ends_newLine level _
  | cons member members =>
    rw [toList_indentedMembers_cons]
    exact ends_comma _

theorem skipSpace_stringText (level : Nat) (text : String) (rest : List Char) :
    skipSpace ((newLine level).toList ++ ((stringText text).toList ++ rest)) =
      (stringText text).toList ++ rest := by
  obtain ⟨t, htext, -⟩ := readChars_stringText text
  rw [skipSpace_newLine, htext, List.cons_append, skipSpace_of_opens (by decide)]

/-- A member is read up to what follows its value. -/
theorem readMembers_member {level : Nat} {name : String} {value : Json} {read : Fields Json}
    {fuel : Nat} (hvalue : ReadsBack value)
    (hfuel : (indentedAt (level + 1) value).toList.length ≤ fuel) (hrest : Ends rest) :
    readMembers (fuel + 1) read ((stringText name).toList ++ ':' :: ' ' ::
        ((indentedAt (level + 1) value).toList ++ rest)) =
      match skipSpace rest with
      | '\x7d' :: rest => .ok (.object (Fields.set read name value), rest)
      | ',' :: rest => readMembers fuel (Fields.set read name value) (skipSpace rest)
      | _ => .error .malformed := by
  obtain ⟨t, htext, hname⟩ := readChars_stringText name
  obtain ⟨c, t', hcons, hopens⟩ := hvalue.opens (level + 1)
  have hspace (s : List Char) : skipSpace (' ' :: ((indentedAt (level + 1) value).toList ++ s)) =
      (indentedAt (level + 1) value).toList ++ s := by
    rw [hcons, List.cons_append]
    exact skipSpace_of_opens hopens _
  have hcolon (s : List Char) : skipSpace (':' :: s) = ':' :: s := skipSpace_of_opens (by decide) s
  rw [htext, List.cons_append, readMembers, hname]
  dsimp only
  rw [hcolon]
  split
  · rename_i heq
    cases heq
    rewrite [hspace, hvalue.reads (level + 1) fuel rest hfuel hrest]
    rfl
  · rename_i hother
    exact (hother _ rfl).elim

/-- Members are read one after another. -/
theorem readMembers_indented {level : Nat} {first : String × Json} {members read : Fields Json}
    {fuel : Nat} (hmembers : ∀ member ∈ first :: members, ReadsBack member.2)
    (hnames : (Fields.names (read ++ first :: members)).Nodup)
    (hfuel : (stringText first.1).toList.length + (indentedAt (level + 1) first.2).toList.length +
      (indentedMembers level members).toList.length ≤ fuel) (rest : List Char) :
    readMembers fuel read ((stringText first.1).toList ++ ':' :: ' ' ::
        ((indentedAt (level + 1) first.2).toList ++
          ((indentedMembers level members).toList ++ rest))) =
      .ok (.object (read ++ first :: members), rest) := by
  induction members generalizing first read fuel with
  | nil =>
    have hlength := congrArg List.length (toList_indentedMembers_nil level [])
    simp only [List.append_nil, List.length_append, List.length_cons] at hlength
    obtain ⟨fuel, rfl⟩ : ∃ less, fuel = less + 1 := ⟨fuel - 1, by omega⟩
    have hset : Fields.set read first.1 first.2 = read ++ [first] :=
      Fields.set_of_not_mem (Fields.not_mem_of_nodup hnames) first.2
    rw [readMembers_member (hmembers first List.mem_cons_self) (by omega)
      (ends_indentedMembers level [] rest), toList_indentedMembers_nil,
      skipSpace_bracket level (Or.inr rfl), hset]
    rfl
  | cons next members ih =>
    have hlength := congrArg List.length (toList_indentedMembers_cons level next members [])
    simp only [List.append_nil, List.length_append, List.length_cons] at hlength
    obtain ⟨fuel, rfl⟩ : ∃ less, fuel = less + 1 := ⟨fuel - 1, by omega⟩
    have hset : Fields.set read first.1 first.2 = read ++ [first] :=
      Fields.set_of_not_mem (Fields.not_mem_of_nodup hnames) first.2
    have hothers : ∀ member ∈ next :: members, ReadsBack member.2 :=
      fun member hmember => hmembers member (List.mem_cons_of_mem _ hmember)
    have hnames' : (Fields.names ((read ++ [first]) ++ next :: members)).Nodup := by
      rwa [List.append_assoc]
    rw [readMembers_member (hmembers first List.mem_cons_self) (by omega)
      (ends_indentedMembers level (next :: members) rest), toList_indentedMembers_cons,
      skipSpace_of_opens (by decide)]
    change readMembers fuel (Fields.set read first.1 first.2) (skipSpace _) = _
    rw [skipSpace_stringText, hset, ih hothers hnames' (by omega), List.append_assoc]
    rfl

theorem readsBack_object {members : Fields Json} (hnames : members.names.Nodup)
    (hmembers : ∀ member ∈ members, ReadsBack member.2) : ReadsBack (.object members) := by
  cases members with
  | nil =>
    refine ⟨fun _ => ⟨'\x7b', ['\x7d'], by simp [indentedAt, scalarText], by decide⟩,
      fun level fuel rest hfuel _ => ?_⟩
    have htext : (indentedAt level (.object [])).toList = ['\x7b', '\x7d'] := by
      simp [indentedAt, scalarText]
    rw [htext, List.length_cons] at hfuel
    obtain ⟨fuel, rfl⟩ : ∃ less, fuel = less + 1 := ⟨fuel - 1, by omega⟩
    rw [htext]
    rfl
  | cons first members =>
    have htext (level : Nat) (rest : List Char) :
        (indentedAt level (.object (first :: members))).toList ++ rest =
          '\x7b' :: ((newLine (level + 1)).toList ++ ((stringText first.1).toList ++ ':' :: ' ' ::
            ((indentedAt (level + 1) first.2).toList ++
              ((indentedMembers level members).toList ++ rest)))) := by
      simp [indentedAt]
    refine ⟨fun level => ⟨'\x7b', _, by simpa using htext level [], by decide⟩,
      fun level fuel rest hfuel _ => ?_⟩
    have hlength := congrArg List.length (htext level [])
    simp only [List.append_nil, List.length_append, List.length_cons] at hlength
    obtain ⟨fuel, rfl⟩ : ∃ less, fuel = less + 1 := ⟨fuel - 1, by omega⟩
    obtain ⟨t, hcons, -⟩ := readChars_stringText first.1
    have hread := @readMembers_indented level first members [] fuel hmembers hnames (by omega) rest
    rw [htext, readValue, skipSpace_stringText]
    rw [hcons, List.cons_append] at hread ⊢
    exact hread

/-! ## Documents -/

theorem Regular.readsBack (h : Regular document) : ReadsBack document := by
  induction h with
  | null => exact readsBack_null
  | bool value => exact readsBack_bool value
  | int hlength => exact readsBack_int hlength
  | float hcanonical => exact readsBack_float hcanonical
  | string text => exact readsBack_string text
  | array hitems ih => exact readsBack_array ih
  | object hnames hmembers ih => exact readsBack_object hnames ih

/-- **A document is read back from its indented text.** -/
theorem parse_indented (h : Regular document) : parse document.indented = .ok document := by
  obtain ⟨c, t, htext, hopens⟩ := h.readsBack.opens 0
  have hspace : skipSpace document.indented.toList = document.indented.toList := by
    rw [indented, htext, skipSpace_of_opens hopens]
  have hread := h.readsBack.reads 0 (2 * (indentedAt 0 document).toList.length + 2) [] (by omega)
    (by simp [Ends])
  rw [List.append_nil] at hread
  rw [parse, hspace, indented, hread]
  rfl

/-- A whole number with too many digits is not read. -/
theorem parse_tooLong {ds : List Char} (hne : c ≠ '0') (hdigits : ∀ d ∈ c :: ds, d.isDigit = true)
    (hlong : maxIntegerDigits < (c :: ds).length) :
    parse (.ofList (c :: ds)) = .error (.integerTooLong (c :: ds).length) := by
  have hc := hdigits c List.mem_cons_self
  have hlist : c ≠ '[' := by
    rintro rfl
    exact absurd hc (by decide)
  have hobject : c ≠ '{' := by
    rintro rfl
    exact absurd hc (by decide)
  have hwhole := @readWhole_append [] c ds hne hdigits (by simp [StopsDigits])
  rw [List.append_nil] at hwhole
  have hnumber : readNumber false (c :: ds) = .error (.integerTooLong (c :: ds).length) := by
    rw [readNumber, hwhole]
    exact if_pos hlong
  rw [parse, String.toList_ofList, skipSpace_of_opens (opens_of_isDigit hc),
    readValue_of_readScalar hlist hobject, readScalar_of_isDigit hc, hnumber]

end TreeShell.Json
