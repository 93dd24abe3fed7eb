import TreeShell.Path

/-!
# Names, and what a path can lead to

A segment of a place is a *name* when a user could type it as one piece of a path and mean the
entry called so: it is not empty, holds no separator, and is neither `.` nor `..`. Entries are
looked up by such segments, so a name of any other kind could be stored and never be reached.

The one fact about `resolve` that keeps a tree free of them is `areNames_resolve`: from a place
that is made of names, a path of any spelling leads to a place that is made of names. It has two
reasons, one for each layer of the definition. Cutting at the separator leaves no separator in a
piece (`not_mem_of_mem_split`), and a piece that `step` appends is none of the three it treats
apart.
-/

set_option autoImplicit false

namespace TreeShell

namespace Text

/-- The separator is in none of the stretches between its occurrences. -/
theorem not_mem_of_mem_pieces {sep : Char} :
    ∀ {s piece : List Char}, piece ∈ pieces sep s → sep ∉ piece := by
  intro s
  induction s with
  | nil =>
    intro piece h
    simp only [pieces, List.mem_singleton] at h
    subst h
    exact List.not_mem_nil
  | cons c rest ih =>
    intro piece h
    rw [pieces] at h
    by_cases hc : c = sep
    · rw [if_pos hc] at h
      rcases List.mem_cons.mp h with rfl | h
      · exact List.not_mem_nil
      · exact ih h
    · rw [if_neg hc] at h
      cases hp : pieces sep rest with
      | nil => exact absurd hp (pieces_ne_nil sep rest)
      | cons first others =>
        rw [hp] at h
        -- The first stretch of the rest is the one that `c` was put in front of.
        rcases List.mem_cons.mp h with rfl | h
        · have hfirst : sep ∉ first := ih (by rw [hp]; exact List.mem_cons_self)
          exact List.not_mem_cons_of_ne_of_not_mem (Ne.symm hc) hfirst
        · exact ih (by rw [hp]; exact List.mem_cons_of_mem _ h)

theorem not_mem_of_mem_split {sep : Char} {s piece : String} (h : piece ∈ split sep s) :
    sep ∉ piece.toList := by
  obtain ⟨chars, hc, rfl⟩ := List.mem_map.mp h
  simpa using not_mem_of_mem_pieces hc

end Text

namespace Path

/-- What the segment of a place has to be for a path to lead there. -/
def IsName (name : String) : Prop :=
  name ≠ "" ∧ '/' ∉ name.toList ∧ name ≠ "." ∧ name ≠ ".."

instance : DecidablePred IsName := fun name => by
  unfold IsName
  infer_instance

/-- A place whose segments are names. -/
def AreNames (place : List String) : Prop :=
  ∀ name ∈ place, IsName name

instance : DecidablePred AreNames := fun place => by
  unfold AreNames
  infer_instance

theorem areNames_nil : AreNames [] := fun _ h => absurd h List.not_mem_nil

theorem areNames_append {place more : List String} :
    AreNames (place ++ more) ↔ AreNames place ∧ AreNames more :=
  List.forall_mem_append

theorem areNames_cons {name : String} {place : List String} :
    AreNames (name :: place) ↔ IsName name ∧ AreNames place :=
  List.forall_mem_cons

theorem AreNames.dropLast {place : List String} (h : AreNames place) : AreNames place.dropLast :=
  fun name hn => h name (List.dropLast_subset _ hn)

/-- A name that a folder may be made under is a name; the converse fails at the other
separator, which is allowed inside the names of files. -/
theorem isName_of_isBareName {name : String} (h : isBareName name = true) : IsName name := by
  simp only [isBareName, Bool.and_eq_true, bne_iff_ne, Bool.not_eq_true'] at h
  obtain ⟨⟨⟨⟨hempty, hdot⟩, hdots⟩, hsep⟩, -⟩ := h
  exact ⟨hempty, by simpa using hsep, hdot, hdots⟩

theorem areNames_step {place : List String} {piece : String} (h : AreNames place)
    (hp : '/' ∉ piece.toList) : AreNames (step place piece) := by
  unfold step
  split
  · exact h
  · rename_i hstay
    obtain ⟨hempty, hdot⟩ := not_or.mp hstay
    split
    · exact h.dropLast
    · rename_i hclimb
      exact areNames_append.mpr ⟨h, areNames_cons.mpr ⟨⟨hempty, hp, hdot, hclimb⟩, areNames_nil⟩⟩

theorem areNames_foldl_step {pieces : List String} :
    ∀ {place : List String}, AreNames place → (∀ piece ∈ pieces, '/' ∉ piece.toList) →
      AreNames (pieces.foldl step place) := by
  induction pieces with
  | nil => intro place h _; exact h
  | cons piece rest ih =>
    intro place h hp
    obtain ⟨hpiece, hrest⟩ := List.forall_mem_cons.mp hp
    exact ih (areNames_step h hpiece) hrest

/-- **A path leads to names.** Nothing is asked of the path: any mix of separators, dots and empty
pieces is passed over or taken as climbing. -/
theorem areNames_resolve {cwd : List String} (h : AreNames cwd) (path : String) :
    AreNames (resolve cwd path) := by
  unfold resolve
  refine areNames_foldl_step ?_ fun piece hp => Text.not_mem_of_mem_split hp
  split
  · exact areNames_nil
  · exact h

end Path

end TreeShell
