import Mathlib
import TreeShell.Pattern.Like

/-!
# The pattern for a beginning

A text is made a pattern by three replacements, one after the other, which together put a backslash
before each character that has a meaning (`escaped_eq`). With `%` after it the pattern is for the
texts that begin with that one, but for the case of letters (`accepts_beginning`).

A zero character in the text is an exception: it hides the `%` with all that comes after it, so that
nothing may follow in a key but another zero character.
-/

set_option autoImplicit false

namespace TreeShell.Like

/-! ## Seven-bit letters -/

theorem toLower_of_not_alpha {c : Char} (h : c.isAlpha = false) : c.toLower = c := by
  have hcases : c.isAlpha = (c.isUpper || c.isLower) := rfl
  rw [hcases, Bool.or_eq_false_iff] at h
  exact Char.toLower_eq_of_not_isUpper (by rw [h.1]; exact Bool.false_ne_true)

/-- A character that is no letter has no other case. -/
theorem toLower_inj {c : Char} (h : c.isAlpha = false) {d : Char} :
    c.toLower = d.toLower ↔ c = d := by
  refine ⟨fun hlower => ?_, fun heq => heq ▸ rfl⟩
  have hd : d.isAlpha = false := by
    rw [← Char.isAlpha_toLower_eq_isAlpha, ← hlower, Char.isAlpha_toLower_eq_isAlpha, h]
  rwa [toLower_of_not_alpha h, toLower_of_not_alpha hd] at hlower

theorem map_toLower_prefix {start : List Char} (h : ∀ c ∈ start, c.isAlpha = false)
    (text : List Char) : start.map Char.toLower <+: text.map Char.toLower ↔ start <+: text := by
  induction start generalizing text with
  | nil => simp
  | cons c start ih =>
    rw [List.forall_mem_cons] at h
    cases text with
    | nil => simp
    | cons d text =>
      rw [List.map_cons, List.map_cons, List.cons_prefix_cons, List.cons_prefix_cons,
        toLower_inj h.1, ih h.2]

/-! ## Texts as patterns -/

/-- A character as a pattern that stands for it. -/
def escape (c : Char) : List Char :=
  if c = '\\' ∨ c = '%' ∨ c = '_' then ['\\', c] else [c]

/-- The replacements do not get in each other's way, so that a text is escaped character by
character. -/
theorem escaped_eq (text : List Char) : escaped text = text.flatMap escape := by
  simp only [escaped, guarded, List.flatMap_assoc]
  refine List.flatMap_congr fun c _ => ?_
  by_cases hback : c = '\\'
  · subst hback
    rfl
  by_cases hany : c = '%'
  · subst hany
    rfl
  by_cases hone : c = '_'
  · subst hone
    rfl
  simp [escape, hback, hany, hone]

/-- A character that was escaped stands for itself, in either case. -/
theorem fits_escape_append (c : Char) (pattern : List Char) :
    fits (escape c ++ pattern) = startsOn (alike c) (fits pattern) := by
  by_cases hmark : c = '\\' ∨ c = '%' ∨ c = '_'
  · rw [escape, if_pos hmark]
    rfl
  · obtain ⟨hback, hany, hone⟩ : c ≠ '\\' ∧ c ≠ '%' ∧ c ≠ '_' := by simpa using hmark
    rw [escape, if_neg hmark, List.singleton_append, fits.eq_def]
    simp only [if_neg hany, if_neg hback, if_neg hone]

theorem startsOn_alike_cons {c d : Char} {rest : List Char → Bool} {text : List Char} :
    startsOn (alike c) rest (d :: text) = true ↔ c.toLower = d.toLower ∧ rest text = true := by
  rw [startsOn, alike, Bool.and_eq_true, beq_iff_eq]

/-- An escaped text stands for that text, in either case. -/
theorem fits_escaped (start text : List Char) :
    fits (escaped start) text = true ↔ start.map Char.toLower = text.map Char.toLower := by
  rw [escaped_eq]
  induction start generalizing text with
  | nil => cases text <;> simp [fits]
  | cons c start ih =>
    rw [List.flatMap_cons, fits_escape_append]
    cases text with
    | nil => simp [startsOn]
    | cons d text => rw [startsOn_alike_cons, ih, List.map_cons, List.map_cons, List.cons.injEq]

theorem somewhere_isEmpty : ∀ text : List Char, somewhere List.isEmpty text = true
  | [] => rfl
  | _ :: text => by rw [somewhere, somewhere_isEmpty text, Bool.or_true]

/-- Any text may follow before the end of a pattern. -/
theorem fits_any (text : List Char) : fits ['%'] text = true := by
  rw [fits.eq_def]
  exact somewhere_isEmpty text

/-- An escaped text with `%` after it stands for what begins with that text, in either case. -/
theorem fits_escaped_any (start text : List Char) :
    fits (escaped start ++ ['%']) text = true ↔
      start.map Char.toLower <+: text.map Char.toLower := by
  rw [escaped_eq]
  induction start generalizing text with
  | nil => simp [fits_any]
  | cons c start ih =>
    rw [List.flatMap_cons, List.append_assoc, fits_escape_append]
    cases text with
    | nil => simp [startsOn]
    | cons d text => rw [startsOn_alike_cons, ih, List.map_cons, List.map_cons, List.cons_prefix_cons]

/-! ## Zero characters -/

theorem visible_cons_zero (text : List Char) : visible ('\x00' :: text) = [] := rfl

theorem visible_cons {c : Char} (h : c ≠ '\x00') (text : List Char) :
    visible (c :: text) = c :: visible text := by
  rw [visible, List.takeWhile_cons_of_pos (by simpa using h), visible]

theorem visible_escape_append {c : Char} (h : c ≠ '\x00') (pattern : List Char) :
    visible (escape c ++ pattern) = escape c ++ visible pattern := by
  rw [escape]
  split
  · rw [List.cons_append, List.singleton_append, visible_cons (by decide), visible_cons h]
    rfl
  · rw [List.singleton_append, visible_cons h]
    rfl

/-- What is looked at of an escaped text with more after it. -/
theorem visible_escaped_append (start more : List Char) :
    visible (escaped start ++ more) =
      escaped (visible start) ++ if '\x00' ∈ start then [] else visible more := by
  simp only [escaped_eq]
  induction start with
  | nil => rfl
  | cons c start ih =>
    rw [List.flatMap_cons, List.append_assoc]
    by_cases hzero : c = '\x00'
    · subst hzero
      rw [visible_cons_zero, if_pos List.mem_cons_self]
      rfl
    · rw [visible_escape_append hzero, ih, visible_cons hzero, List.flatMap_cons, List.append_assoc]
      simp only [List.mem_cons, Ne.symm hzero, false_or]

theorem visible_of_not_mem {text : List Char} (h : '\x00' ∉ text) : visible text = text := by
  rw [visible, List.takeWhile_eq_self_iff]
  intro c hc
  exact decide_eq_true fun hzero => h (hzero ▸ hc)

theorem visible_append_of_mem {text : List Char} (h : '\x00' ∈ text) (more : List Char) :
    visible (text ++ more) = visible text := by
  induction text with
  | nil => exact absurd h List.not_mem_nil
  | cons c text ih =>
    rw [List.cons_append]
    by_cases hzero : c = '\x00'
    · subst hzero
      rfl
    · rw [visible_cons hzero, visible_cons hzero,
        ih ((List.mem_cons.mp h).resolve_left (Ne.symm hzero))]

/-- Nothing behind a zero character counts when a text has none. -/
theorem prefix_visible {start : List Char} (h : '\x00' ∉ start) (text : List Char) :
    start.map Char.toLower <+: (visible text).map Char.toLower ↔
      start.map Char.toLower <+: text.map Char.toLower := by
  induction start generalizing text with
  | nil => simp
  | cons c start ih =>
    rw [List.mem_cons, not_or] at h
    cases text with
    | nil => rfl
    | cons d text =>
      by_cases hzero : d = '\x00'
      · subst hzero
        have hne : c.toLower ≠ '\x00' := fun hlower => h.1 ((toLower_inj rfl).mp hlower.symm)
        have hlower : Char.toLower '\x00' = '\x00' := rfl
        simp [visible_cons_zero, List.cons_prefix_cons, hlower, hne]
      · rw [visible_cons hzero]
        simp only [List.map_cons, List.cons_prefix_cons, ih h.2]

/-! ## The pattern for a beginning -/

/-- Whether a key begins with a text, but for the case of seven-bit letters. If there is a zero
character in the text, what comes before the first one has to be all there is of the key before
its first one. -/
def Begins (start key : String) : Prop :=
  if '\x00' ∈ start.toList then
    (visible start.toList).map Char.toLower = (visible key.toList).map Char.toLower
  else start.toList.map Char.toLower <+: key.toList.map Char.toLower

/-- **The keys that are like the pattern for a beginning.** -/
theorem accepts_beginning (start key : String) :
    accepts (beginning start) key = true ↔ Begins start key := by
  rw [accepts, beginning, String.toList_ofList, visible_escaped_append, Begins]
  split
  · rw [List.append_nil, fits_escaped]
  · rename_i hzero
    rw [visible_of_not_mem hzero]
    exact (fits_escaped_any _ _).trans (prefix_visible hzero _)

/-- What begins with a text, zero characters and all, is like its pattern. -/
theorem begins_of_prefix {start key : String} (h : start.toList <+: key.toList) :
    Begins start key := by
  rw [Begins]
  split
  · rename_i hzero
    obtain ⟨more, hmore⟩ := h
    rw [← hmore, visible_append_of_mem hzero]
  · exact h.map Char.toLower

/-- Only for letters and zero characters there may be others. -/
theorem begins_iff_prefix {start key : String}
    (h : ∀ c ∈ start.toList, c.isAlpha = false ∧ c ≠ '\x00') :
    Begins start key ↔ start.toList <+: key.toList := by
  have hzero : '\x00' ∉ start.toList := fun hmem => (h _ hmem).2 rfl
  rw [Begins, if_neg hzero, map_toLower_prefix fun c hc => (h c hc).1]

end TreeShell.Like
