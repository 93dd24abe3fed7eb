import Mathlib.Computability.Language
import TreeShell.Proofs.Pattern.Rounds

/-!
# What a pattern matches

The matcher goes through a pattern with what is to come after it as a continuation, and comes back
to try another way when that fails. Which ways there are is a language: a pattern *reads* a language
when, from any place and with anything to come, some way succeeds exactly if some stretch of the
language stands ahead and what is to come succeeds behind it (`Pattern.Reads`). In this form
patterns put one after another read the product of their languages (`reads_sequence`), however often
the matcher has to come back.
-/

set_option autoImplicit false

namespace TreeShell

/-- The place behind a stretch of what was ahead, of which `rest` is left. -/
def Cursor.past (cursor : Cursor) (stretch rest : List Char) : Cursor :=
  { cursor with before := stretch.reverse ++ cursor.before, after := rest }

theorem Cursor.past_nil {cursor : Cursor} {rest : List Char} (h : cursor.after = rest) :
    cursor.past [] rest = cursor := by
  rw [← h]
  rfl

theorem Cursor.past_append (cursor : Cursor) (first second rest : List Char) :
    cursor.past (first ++ second) rest = (cursor.past first (second ++ rest)).past second rest := by
  simp [past]

theorem Cursor.past_cons (cursor : Cursor) (c : Char) (stretch rest : List Char) :
    cursor.past (c :: stretch) rest =
      past { cursor with before := c :: cursor.before, after := stretch ++ rest } stretch rest := by
  simp [past]

/-- A character ahead is eaten if it is of the right kind. -/
theorem Cursor.isSome_eat?_bind {cursor : Cursor} {p : Char → Bool} {k : Cursor → Option Cursor} :
    ((cursor.eat? p).bind k).isSome = true ↔
      ∃ c rest, cursor.after = c :: rest ∧ p c = true ∧
        (k { cursor with before := c :: cursor.before, after := rest }).isSome = true := by
  unfold eat?
  cases cursor.after with
  | nil => simp
  | cons c rest =>
    by_cases hc : p c = true
    · simp [hc]
    · simp [hc]

namespace Pattern

/-- With regard to case, a pattern matches over the stretches of a language and over no others. -/
def Reads (p : Pattern) (language : Language Char) : Prop :=
  ∀ (cursor : Cursor) (k : Cursor → Option Cursor), (follow {} p cursor k).isSome = true ↔
    ∃ stretch ∈ language, ∃ rest, cursor.after = stretch ++ rest ∧
      (k (cursor.past stretch rest)).isSome = true

variable {p q : Pattern} {first second : Language Char}

/-! ## Single characters -/

/-- The languages of the characters of one kind. -/
def characters (p : Char → Prop) : Language Char :=
  {text | ∃ c, p c ∧ text = [c]}

theorem reads_of_eat {p : Pattern} {kind : Char → Bool}
    (h : ∀ cursor k, follow {} p cursor k = (cursor.eat? kind).bind k) :
    p.Reads (characters (kind · = true)) := by
  intro cursor k
  rw [h, Cursor.isSome_eat?_bind]
  constructor
  · rintro ⟨c, rest, hafter, hc, hk⟩
    exact ⟨[c], ⟨c, hc, rfl⟩, rest, hafter, hk⟩
  · rintro ⟨_, ⟨c, hc, rfl⟩, rest, hafter, hk⟩
    exact ⟨c, rest, hafter, hc, hk⟩

theorem reads_anyChar : anyChar.Reads (characters (· ≠ '\n')) := by
  have h : anyChar.Reads (characters fun c => (c != '\n') = true) :=
    reads_of_eat fun _ _ => rfl
  simpa only [bne_iff_ne] using h

theorem isLiteral_iff (c d : Char) : Mode.isLiteral {} c.toNat d = true ↔ d = c := by
  simp only [Mode.isLiteral, Mode.codesOf, Bool.false_eq_true, if_false, Bool.or_eq_true,
    beq_iff_eq, List.contains_iff_mem, List.mem_singleton, Char.toNat_inj]
  exact or_iff_left_of_imp Eq.symm

theorem reads_literal (c : Char) : (literal c.toNat).Reads (characters (· = c)) := by
  have h : (literal c.toNat).Reads (characters fun d => Mode.isLiteral {} c.toNat d = true) :=
    reads_of_eat fun _ _ => rfl
  simpa only [isLiteral_iff] using h

/-! ## Patterns one after another -/

theorem reads_empty : empty.Reads 1 := by
  intro cursor k
  simp only [follow, Language.mem_one, exists_eq_left, List.nil_append, exists_eq_left']
  rfl

theorem Reads.seq (hp : p.Reads first) (hq : q.Reads second) :
    (Pattern.seq p q).Reads (first * second) := by
  intro cursor k
  rw [follow, hp]
  constructor
  · rintro ⟨a, ha, rest, hafter, hrest⟩
    obtain ⟨b, hb, more, rfl, hk⟩ := (hq _ _).mp hrest
    refine ⟨a ++ b, Language.append_mem_mul ha hb, more, ?_, ?_⟩
    · rw [hafter, List.append_assoc]
    · rw [Cursor.past_append]
      exact hk
  · rintro ⟨_, hboth, more, hafter, hk⟩
    obtain ⟨a, ha, b, hb, rfl⟩ := Language.mem_mul.mp hboth
    rw [List.append_assoc] at hafter
    rw [Cursor.past_append] at hk
    exact ⟨a, ha, b ++ more, hafter, (hq _ _).mpr ⟨b, hb, more, rfl, hk⟩⟩

theorem follow_sequence_cons (p : Pattern) (rest : List Pattern) (cursor : Cursor)
    (k : Cursor → Option Cursor) :
    follow {} (sequence (p :: rest)) cursor k =
      follow {} (seq p (sequence rest)) cursor k := by
  cases rest with
  | nil => rfl
  | cons q rest => rfl

theorem follow_sequence_append (ps qs : List Pattern) (cursor : Cursor)
    (k : Cursor → Option Cursor) :
    follow {} (sequence (ps ++ qs)) cursor k =
      follow {} (seq (sequence ps) (sequence qs)) cursor k := by
  induction ps generalizing cursor with
  | nil => rfl
  | cons p ps ih =>
    rw [List.cons_append, follow_sequence_cons, follow, follow, follow_sequence_cons, follow]
    simp only [ih, follow]

/-- **Patterns one after another read the product of what they read.** -/
theorem reads_sequence {α : Type} {pattern : α → Pattern} {language : α → Language Char}
    (h : ∀ a, (pattern a).Reads (language a)) (items : List α) :
    (sequence (items.map pattern)).Reads (items.map language).prod := by
  induction items with
  | nil => exact reads_empty
  | cons a rest ih =>
    intro cursor k
    rw [List.map_cons, List.map_cons, List.prod_cons, follow_sequence_cons]
    exact (h a).seq ih cursor k

/-! ## Repetition -/

/-- The texts all of whose characters are of one kind. -/
def stretches (p : Char → Prop) : Language Char :=
  {text | ∀ c ∈ text, p c}

theorem nil_mem_stretches {p : Char → Prop} : [] ∈ stretches p :=
  fun _ h => nomatch h

theorem mem_stretches_cons {p : Char → Prop} {c : Char} {text : List Char} :
    c :: text ∈ stretches p ↔ p c ∧ text ∈ stretches p :=
  List.forall_mem_cons

/-- One round of a star: a character is taken and the next round begins behind it, or what is to
come is tried. -/
theorem isSome_follow_star (cursor : Cursor) (k : Cursor → Option Cursor) :
    (follow {} (repeats anyChar 0 none .greedy) cursor k).isSome = true ↔
      (k cursor).isSome = true ∨ ∃ c rest, cursor.after = c :: rest ∧ c ≠ '\n' ∧
        (follow {} (repeats anyChar 0 none .greedy)
          { cursor with before := c :: cursor.before, after := rest } k).isSome = true := by
  have heats (k : Cursor → Option Cursor) :
      follow {} anyChar cursor k = (cursor.eat? (· != '\n')).bind k := rfl
  have hmore : none ≠ some 0 := nofun
  rw [follow_greedy hmore, Option.isSome_or, Bool.or_eq_true, or_comm, thenAgain, heats,
    Cursor.isSome_eat?_bind]
  refine or_congr_right (exists_congr fun c => exists_congr fun rest => and_congr_right fun _ => ?_)
  rw [bne_iff_ne, if_neg (by simp [Cursor.position])]
  rfl

/-- A star behind a single character reads all stretches of such characters. -/
theorem reads_repeats_anyChar :
    (repeats anyChar 0 none .greedy).Reads (stretches (· ≠ '\n')) := by
  intro cursor k
  constructor
  · intro hmatch
    induction hafter : cursor.after generalizing cursor with
    | nil =>
      rcases (isSome_follow_star _ _).mp hmatch with hk | ⟨c, rest, hcons, -⟩
      · exact ⟨[], nil_mem_stretches, [], rfl, by rwa [Cursor.past_nil hafter]⟩
      · exact nomatch hafter.symm.trans hcons
    | cons first others ih =>
      rcases (isSome_follow_star _ _).mp hmatch with hk | ⟨c, rest, hcons, hc, hrest⟩
      · exact ⟨[], nil_mem_stretches, _, rfl, by rwa [Cursor.past_nil hafter]⟩
      · obtain ⟨rfl, rfl⟩ := List.cons.inj (hafter.symm.trans hcons)
        obtain ⟨stretch, hstretch, more, rfl, hk⟩ := ih _ hrest rfl
        exact ⟨first :: stretch, mem_stretches_cons.mpr ⟨hc, hstretch⟩, more, rfl,
          by rwa [Cursor.past_cons]⟩
  · rintro ⟨stretch, hstretch, rest, hafter, hk⟩
    induction stretch generalizing cursor with
    | nil =>
      rw [List.nil_append] at hafter
      rw [Cursor.past_nil hafter] at hk
      exact (isSome_follow_star _ _).mpr (.inl hk)
    | cons c stretch ih =>
      obtain ⟨hc, hstretch⟩ := mem_stretches_cons.mp hstretch
      rw [Cursor.past_cons] at hk
      exact (isSome_follow_star _ _).mpr (.inr ⟨c, _, hafter, hc, ih _ hstretch rfl hk⟩)

end Pattern

end TreeShell
