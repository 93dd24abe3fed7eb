import Mathlib.Tactic.SplitIfs
import TreeShell.Pattern.Matcher

/-!
# The ways to match, and the rounds of a repetition

The matcher hands each place it reaches to what is to come after the pattern, and comes back for the
next one when that fails. So from a place a pattern tries a list of places, none of them behind
(`tries_follow`), whatever is to come.

A repetition is given a number of rounds, because a round need not take a character. The number is
enough: a round that takes none is the last, and every other one brings the end of the text nearer
(`followRepeats_of_enough`). In the law of repetition no such number is left: after the least number
of rounds there is another one or none, whichever is preferred first (`follow_greedy`,
`follow_sparing`).
-/

set_option autoImplicit false

namespace TreeShell

namespace Cursor

/-- A place in the same text, not before another one. -/
structure Ahead (c c' : Cursor) : Prop where
  text : c'.before.reverse ++ c'.after = c.before.reverse ++ c.after
  position : c.position ≤ c'.position

variable {c c' : Cursor}

theorem Ahead.refl (c : Cursor) : c.Ahead c :=
  ⟨rfl, Nat.le_refl _⟩

theorem Ahead.trans {c'' : Cursor} (h : c.Ahead c') (h' : c'.Ahead c'') : c.Ahead c'' :=
  ⟨h'.text.trans h.text, Nat.le_trans h.position h'.position⟩

theorem Ahead.length_eq (h : c.Ahead c') :
    c'.position + c'.after.length = c.position + c.after.length := by
  simpa [Cursor.position] using congrArg List.length h.text

theorem ahead_of_eat? {p : Char → Bool} (h : c.eat? p = some c') : c.Ahead c' := by
  unfold eat? at h
  split at h
  · next ch rest hafter =>
    split_ifs at h
    cases h
    exact ⟨by simp [hafter], by simp [Cursor.position]⟩
  · cases h

theorem ahead_of_eatAll? {mode : Mode} {text : List Char} (h : c.eatAll? mode text = some c') :
    c.Ahead c' := by
  induction text generalizing c with
  | nil =>
    cases h
    exact .refl _
  | cons ch rest ih =>
    obtain ⟨middle, hmiddle, hrest⟩ := Option.bind_eq_some_iff.mp h
    exact (ahead_of_eat? hmiddle).trans (ih hrest)

theorem ahead_begin (c : Cursor) (group : Nat) : c.Ahead (c.begin group) :=
  ⟨rfl, Nat.le_refl _⟩

theorem ahead_leave (c : Cursor) (group : Nat) : c.Ahead (c.leave group) := by
  unfold leave
  split
  · exact ⟨rfl, Nat.le_refl _⟩
  · exact .refl c

theorem ahead_withMarks (c other : Cursor) : c.Ahead (c.withMarks other) :=
  ⟨rfl, Nat.le_refl _⟩

end Cursor

namespace Pattern

/-- From a place some places ahead are tried, one after another, whatever is to come. -/
def Tries (c : Cursor) (step : (Cursor → Option Cursor) → Option Cursor) : Prop :=
  ∃ ways : List Cursor, (∀ k, step k = ways.findSome? k) ∧ ∀ c' ∈ ways, c.Ahead c'

section Tries

variable {c c' : Cursor} {k k' : Cursor → Option Cursor}
  {step other : (Cursor → Option Cursor) → Option Cursor}

theorem tries_none (c : Cursor) : Tries c fun _ => none :=
  ⟨[], fun _ => rfl, nofun⟩

theorem tries_at (h : c.Ahead c') : Tries c fun k => k c' := by
  refine ⟨[c'], fun k => ?_, fun c'' hmem => List.mem_singleton.mp hmem ▸ h⟩
  rw [List.findSome?_singleton]

theorem tries_bind_option {place? : Option Cursor} (h : ∀ c', place? = some c' → c.Ahead c') :
    Tries c place?.bind := by
  cases place? with
  | none => exact tries_none c
  | some c' => exact tries_at (h c' rfl)

theorem Tries.of_eq (h : Tries c step) (hsame : ∀ k, other k = step k) : Tries c other := by
  obtain ⟨ways, hways, hahead⟩ := h
  exact ⟨ways, fun k => (hsame k).trans (hways k), hahead⟩

theorem Tries.of_ahead (h : c.Ahead c') (hstep : Tries c' step) : Tries c step := by
  obtain ⟨ways, hways, hahead⟩ := hstep
  exact ⟨ways, hways, fun c'' hmem => h.trans (hahead c'' hmem)⟩

theorem Tries.or (hstep : Tries c step) (hother : Tries c other) :
    Tries c fun k => (step k).or (other k) := by
  obtain ⟨ways, hways, hahead⟩ := hstep
  obtain ⟨more, hmore, hmoreAhead⟩ := hother
  refine ⟨ways ++ more, fun k => ?_, List.forall_mem_append.mpr ⟨hahead, hmoreAhead⟩⟩
  dsimp only
  rw [List.findSome?_append, hways, hmore]

theorem Tries.bind {next : Cursor → (Cursor → Option Cursor) → Option Cursor}
    (hstep : Tries c step) (hnext : ∀ c', c.Ahead c' → Tries c' (next c')) :
    Tries c fun k => step fun c' => next c' k := by
  obtain ⟨ways, hways, hahead⟩ := hstep
  simp only [hways]
  clear hways
  induction ways with
  | nil => exact tries_none c
  | cons first rest ih =>
    have hfirst := hahead first List.mem_cons_self
    have hrest := ih fun c' hmem => hahead c' (List.mem_cons_of_mem first hmem)
    refine (((hnext first hfirst).of_ahead hfirst).or hrest).of_eq fun k => ?_
    rw [List.findSome?_cons]
    cases next first k with
    | some stop => rfl
    | none => rfl

/-- After a look, the place that was looked from is tried, if the look found what it was for. -/
theorem tries_look (negated : Bool) (found? : Option Cursor) :
    Tries c fun k =>
      match found? with
      | some c' => if negated then none else k (c.withMarks c')
      | none => if negated then k c else none := by
  cases found? with
  | none => cases negated with
    | true => exact tries_at (.refl c)
    | false => exact tries_none c
  | some c' => cases negated with
    | true => exact tries_none c
    | false => exact tries_at (c.ahead_withMarks c')

/-- Only the first place is tried. -/
theorem Tries.first (h : Tries c step) : Tries c (step some).bind := by
  obtain ⟨ways, hways, hahead⟩ := h
  refine tries_bind_option fun c' hstop => ?_
  obtain ⟨first, hmem, hfirst⟩ := List.exists_of_findSome?_eq_some ((hways _).symm.trans hstop)
  cases hfirst
  exact hahead c' hmem

/-- What is to come matters only at places ahead. -/
theorem Tries.congr (h : Tries c step) (hk : ∀ c', c.Ahead c' → k c' = k' c') :
    step k = step k' := by
  obtain ⟨ways, hways, hahead⟩ := h
  rw [hways, hways]
  clear hways
  induction ways with
  | nil => rfl
  | cons first rest ih =>
    rw [List.findSome?_cons, List.findSome?_cons, hk first (hahead first List.mem_cons_self),
      ih fun c' hmem => hahead c' (List.mem_cons_of_mem first hmem)]

end Tries

/-! ## Rounds -/

section Rounds

variable {body : Cursor → (Cursor → Option Cursor) → Option Cursor}
  (hbody : ∀ c, Tries c (body c)) {sparing : Bool} {most : Option Nat} {last? : Option Nat}
  {c : Cursor} {k : Cursor → Option Cursor}

theorem followRepeats_done (fuel : Nat) (h : most = some 0 ∨ last? = some c.position) :
    followRepeats body sparing (fuel + 1) 0 most last? c k = k c := by
  rw [followRepeats, if_pos (by simpa using h)]

/-- After the least number of rounds there is another round or none. -/
theorem followRepeats_again (fuel : Nat) (hmost : most ≠ some 0) (hlast : last? ≠ some c.position) :
    followRepeats body sparing (fuel + 1) 0 most last? c k =
      let again := body c fun c' =>
        followRepeats body sparing fuel 0 (most.map (· - 1)) (some c.position) c' k
      if sparing then (k c).or again else again.or (k c) := by
  rw [followRepeats, if_neg (by simp [hmost, hlast])]

include hbody

theorem tries_followRepeats (fuel least : Nat) (most last? : Option Nat) (c : Cursor) :
    Tries c (followRepeats body sparing fuel least most last? c) := by
  induction fuel generalizing least most last? c with
  | zero => exact tries_none c
  | succ fuel ih =>
    cases least with
    | succ least =>
      exact (hbody c).bind fun c' _ => ih least (most.map (· - 1)) last? c'
    | zero =>
      by_cases hdone : most = some 0 ∨ last? = some c.position
      · exact (tries_at (.refl c)).of_eq fun k => followRepeats_done fuel hdone
      · obtain ⟨hmost, hlast⟩ := not_or.mp hdone
        have hagain : Tries c fun k => body c fun c' =>
            followRepeats body sparing fuel 0 (most.map (· - 1)) (some c.position) c' k :=
          (hbody c).bind fun c' _ => ih 0 (most.map (· - 1)) (some c.position) c'
        cases sparing with
        | true =>
          exact ((tries_at (.refl c)).or hagain).of_eq fun k => followRepeats_again fuel hmost hlast
        | false =>
          exact (hagain.or (tries_at (.refl c))).of_eq fun k => followRepeats_again fuel hmost hlast

/-- A number of rounds is enough if it exceeds the least number and what is ahead by two. -/
theorem followRepeats_of_enough {fuel fuel' least : Nat}
    (hfuel : least + c.after.length + 2 ≤ fuel) (hfuel' : least + c.after.length + 2 ≤ fuel') :
    followRepeats body sparing fuel least most last? c k =
      followRepeats body sparing fuel' least most last? c k := by
  induction fuel generalizing fuel' least most last? c with
  | zero => omega
  | succ fuel ih =>
    obtain ⟨fuel', rfl⟩ : ∃ n, fuel' = n + 1 := ⟨fuel' - 1, by omega⟩
    cases least with
    | succ least =>
      rw [followRepeats, followRepeats]
      refine (hbody c).congr fun c' hahead => ?_
      have hlength := hahead.length_eq
      have hposition := hahead.position
      exact ih (by omega) (by omega)
    | zero =>
      by_cases hdone : most = some 0 ∨ last? = some c.position
      · rw [followRepeats_done fuel hdone, followRepeats_done fuel' hdone]
      · obtain ⟨hmost, hlast⟩ := not_or.mp hdone
        -- A round that takes nothing is the last one; otherwise there is less ahead.
        have hagain : (body c fun c' =>
              followRepeats body sparing fuel 0 (most.map (· - 1)) (some c.position) c' k) =
            body c fun c' =>
              followRepeats body sparing fuel' 0 (most.map (· - 1)) (some c.position) c' k := by
          refine (hbody c).congr fun c' hahead => ?_
          have hlength := hahead.length_eq
          have hposition := hahead.position
          by_cases hsame : c.position = c'.position
          · obtain ⟨n, rfl⟩ : ∃ n, fuel = n + 1 := ⟨fuel - 1, by omega⟩
            obtain ⟨m, rfl⟩ : ∃ m, fuel' = m + 1 := ⟨fuel' - 1, by omega⟩
            rw [followRepeats_done n (.inr (congrArg some hsame)),
              followRepeats_done m (.inr (congrArg some hsame))]
          · exact ih (by omega) (by omega)
        rw [followRepeats_again fuel hmost hlast, followRepeats_again fuel' hmost hlast]
        dsimp only
        rw [hagain]

end Rounds

/-- **From a place a pattern tries places ahead, one after another.** -/
theorem tries_follow (mode : Mode) (p : Pattern) (c : Cursor) : Tries c (follow mode p c) := by
  induction p generalizing mode c with
  | empty => exact tries_at (.refl c)
  | literal | anyChar | oneOf => exact tries_bind_option fun c' h => Cursor.ahead_of_eat? h
  | anchor place =>
    by_cases hmeets : c.meets mode place = true
    · simpa only [follow, if_pos hmeets] using tries_at (.refl c)
    · simpa only [follow, if_neg hmeets] using tries_none c
  | capture number inner ih =>
    exact ((ih mode (c.begin number)).of_ahead (c.ahead_begin number)).bind fun c' _ =>
      tries_at (c'.ahead_leave number)
  | flagged on off inner ih => exact ih (mode.turned on off) c
  | atomic inner ih => exact (ih mode c).first
  | ahead negated inner =>
    refine (tries_look negated (follow mode inner c some)).of_eq fun k => ?_
    cases hfound : follow mode inner c some with
    | some c' => simp only [follow, hfound]
    | none => simp only [follow, hfound]
  | behind negated least most inner =>
    refine (tries_look negated
      ((c.back? least).bind fun c' => follow mode inner c' some)).of_eq fun k => ?_
    cases hfound : (c.back? least).bind fun c' => follow mode inner c' some with
    | some c' => simp only [follow, hfound]
    | none => simp only [follow, hfound]
  | again number =>
    refine tries_bind_option fun c' h => ?_
    obtain ⟨text, -, htext⟩ := Option.bind_eq_some_iff.mp h
    exact Cursor.ahead_of_eatAll? htext
  | condition number yes no ihYes ihNo =>
    by_cases hheld : (c.held? number).isSome = true
    · simpa only [follow, if_pos hheld] using ihYes mode c
    · simpa only [follow, if_neg hheld] using ihNo mode c
  | seq first second ihFirst ihSecond => exact (ihFirst mode c).bind fun c' _ => ihSecond mode c'
  | alt first second ihFirst ihSecond =>
    refine ((ihFirst mode c).or (ihSecond mode c)).of_eq fun k => ?_
    cases hfirst : follow mode first c k with
    | some stop => simp only [follow, hfirst, Option.some_or]
    | none => simp only [follow, hfirst, Option.none_or]
  | repeats inner least most greed ih =>
    cases greed with
    | greedy | sparing => exact tries_followRepeats (ih mode) _ _ _ _ c
    | possessive => exact (tries_followRepeats (fun c => (ih mode c).first) _ _ _ _ c).first

/-! ## The law of repetition -/

section Law

variable {mode : Mode} {p : Pattern} {most : Option Nat} {c : Cursor} {k : Cursor → Option Cursor}

/-- A round of a repetition, and what is to come after it: more rounds if it has taken something. -/
def thenAgain (mode : Mode) (p : Pattern) (most : Option Nat) (greed : Greed) (c : Cursor)
    (k : Cursor → Option Cursor) : Option Cursor :=
  follow mode p c fun c' =>
    if c'.position = c.position then k c'
    else follow mode (repeats p 0 (most.map (· - 1)) greed) c' k

theorem followRepeats_eq_thenAgain {sparing : Bool} {greed : Greed}
    (hgreed : ∀ most c, follow mode (repeats p 0 most greed) c k =
      followRepeats (follow mode p) sparing (0 + c.after.length + 2) 0 most none c k) :
    (follow mode p c fun c' => followRepeats (follow mode p) sparing (0 + c.after.length + 1) 0
        (most.map (· - 1)) (some c.position) c' k) = thenAgain mode p most greed c k := by
  refine (tries_follow mode p c).congr fun c' hahead => ?_
  have hlength := hahead.length_eq
  have hposition := hahead.position
  split_ifs with hsame
  · rw [followRepeats_done _ (.inr (congrArg some hsame.symm))]
  · have hmoved : some c.position ≠ some c'.position := fun h => hsame (Option.some.inj h).symm
    rw [hgreed]
    by_cases hmost : most.map (· - 1) = some 0
    · rw [followRepeats_done _ (.inl hmost), followRepeats_done _ (.inl hmost)]
    · -- Where no round was begun, it makes no difference where the last one was.
      have hfresh (fuel : Nat) :
          followRepeats (follow mode p) sparing (fuel + 1) 0 (most.map (· - 1))
              (some c.position) c' k =
            followRepeats (follow mode p) sparing (fuel + 1) 0 (most.map (· - 1)) none c' k := by
        have hfirst : none ≠ some c'.position := nofun
        rw [followRepeats_again fuel hmost hmoved, followRepeats_again fuel hmost hfirst]
      rw [hfresh]
      exact followRepeats_of_enough (tries_follow mode p) (by omega) (by omega)

/-- **A greedy repetition tries another round first, if there may be one, and then none.** -/
theorem follow_greedy (hmost : most ≠ some 0) :
    follow mode (repeats p 0 most .greedy) c k =
      (thenAgain mode p most .greedy c k).or (k c) := by
  have hfirst : none ≠ some c.position := nofun
  rw [← followRepeats_eq_thenAgain fun _ _ => rfl]
  exact followRepeats_again (0 + c.after.length + 1) hmost hfirst

/-- **A sparing repetition tries no other round first, and then one, if there may be one.** -/
theorem follow_sparing (hmost : most ≠ some 0) :
    follow mode (repeats p 0 most .sparing) c k =
      (k c).or (thenAgain mode p most .sparing c k) := by
  have hfirst : none ≠ some c.position := nofun
  rw [← followRepeats_eq_thenAgain fun _ _ => rfl]
  exact followRepeats_again (0 + c.after.length + 1) hmost hfirst

end Law

end Pattern

end TreeShell
