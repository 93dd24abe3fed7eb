import TreeShell.Proofs.PathMap.Refinement
import TreeShell.Proofs.Tree.Relocation

/-!
# Moving, completely

A move agrees with the move of the map (`move_refines`), and the move of a map is a transfer of
everything at and below one place to another. That nothing is lost and nothing doubled by it needs
that neither place is below the other. The guards ask for less: whether a folder would go into
itself, and whether the goal is taken. The rest is the shape of every map that comes from a tree
(`Entries.Closed`): a file is never above its goal, and a goal that was free is never above the
source.
-/

set_option autoImplicit false

namespace TreeShell

namespace PathMap

variable {m next : PathMap} {place goal : List String} {source destination answer : String}

/-- What a transfer does to each place, and to the current one. -/
structure Transferred (m next : PathMap) (place goal : List String) : Prop where
  arrived : ∀ more, next.entry? (goal ++ more) = m.entry? (place ++ more)
  gone : ∀ more, next.entry? (place ++ more) = none
  kept : ∀ other, ¬ place <+: other → ¬ goal <+: other → next.entry? other = m.entry? other
  cwd_along : ∀ more, m.entry? place = some .folder → m.cwd = place ++ more →
    next.cwd = goal ++ more
  cwd_kept : (m.entry? place = some .folder → ¬ place <+: m.cwd) → next.cwd = m.cwd

/-- A transfer between two places neither of which is below the other. -/
theorem transferred (hplace : ¬ place <+: goal) (hgoal : ¬ goal <+: place) :
    m.Transferred (m.transfer place goal) place goal where
  arrived more := by simp [transfer]
  gone more := by
    -- A place below both would make one of the two a prefix of the other.
    have hapart : ¬ goal <+: place ++ more := fun h =>
      (List.prefix_or_prefix_of_prefix h (List.prefix_append place more)).elim hgoal hplace
    simp [transfer, hapart]
  kept other hp hg := by simp [transfer, hp, hg]
  cwd_along more hfolder hcwd := by simp [transfer, hfolder, hcwd]
  cwd_kept h := by
    have hstays : ¬ (m.entry? place = some .folder ∧ place <+: m.cwd) := fun hboth =>
      h hboth.1 hboth.2
    exact if_neg hstays

/-- What the guards of a move have established when it comes to a transfer. -/
theorem move_eq_transfer (h : m.move source destination = .ok (answer, some next)) :
    ∃ place goal, place = m.resolve source ∧ goal = m.goal place (m.resolve destination) ∧
      m.entry? place ≠ none ∧ goal ≠ place ∧ ¬ (m.entry? place = some .folder ∧ place <+: goal) ∧
      m.entry? goal.dropLast = some .folder ∧ m.entry? goal = none ∧
      next = m.transfer place goal := by
  refine ⟨_, _, rfl, rfl, ?_⟩
  unfold move at h
  dsimp only at h
  split_ifs at h with hroot hentry hmoves hinto hparent hfree
  · cases h
  · cases h
    exact ⟨hentry, hmoves, hinto, not_not.mp hparent, not_not.mp hfree, rfl⟩

/-- **A move loses nothing and doubles nothing**, on a map that comes from a tree. -/
theorem transferred_of_move (hm : m.entry?.Closed)
    (h : m.move source destination = .ok (answer, some next)) :
    m.Transferred next (m.resolve source)
      (m.goal (m.resolve source) (m.resolve destination)) := by
  obtain ⟨place, goal, hplace, hgoal, hentry, hmoves, hinto, hparent, hfree, rfl⟩ :=
    move_eq_transfer h
  rw [← hplace, ← hgoal]
  refine transferred (fun hwithin => ?_) (fun habove => ?_)
  · have hne : goal ≠ [] := by
      rintro rfl
      exact hmoves (List.prefix_nil.mp hwithin).symm
    obtain ⟨parent, name, rfl⟩ := Path.exists_eq_concat hne
    rw [List.dropLast_concat] at hparent
    exact hinto ⟨hm.folder_of_above hwithin (Ne.symm hmoves) hparent, hwithin⟩
  · have hfolder := hm.folder_of_below habove hmoves hentry
    rw [hfree] at hfolder
    cases hfolder

end PathMap

namespace Snapshot

variable {s : Snapshot} {place parent : List String} {name source destination : String}
  {node : Node}

/-- What a relocation does to the tree, the transfer does to the map. -/
theorem paths_relocate (h : s.MayRelocate place node parent name) :
    (s.relocate place node parent name).paths = s.paths.transfer place (parent ++ [name]) := by
  have hnode := nodeAt?_entry h.wellFormed place
  rw [h.node] at hnode
  unfold paths PathMap.transfer
  rw [h.entryAt?_relocate, h.cwd_relocate, cwdAfter]
  congr 1
  · funext other
    simp [Entries.graft, Entries.leaf]
  · simp only [← hnode, Option.map_some, Option.some.injEq, Node.entry_eq_folder_iff]

/-- The map names the place a move is about. -/
theorem goal_paths (s : Snapshot) {target : List String} (h : target ≠ place) :
    s.paths.goal place target =
      if (s.folderAt? target).isSome then target ++ place.getLast?.toList else target := by
  rw [PathMap.goal, if_neg h]
  cases hfolder : s.folderAt? target with
  | some folder => simp [entryAt?_of_folderAt? hfolder]
  | none => simp [entryAt?_ne_folder hfolder]

/-- A move whose source is there and whose target is elsewhere: the first questions of the map are
answered, and each ending answers as many of the others as it has passed guards. -/
theorem move_refines_of_source (hs : s.WellFormed) (hroot : s.resolve source ≠ [])
    (hnode : s.nodeAt? (s.resolve source) = some node)
    (hself : s.resolve destination ≠ s.resolve source) :
    outcome (s.move source destination) = s.paths.move source destination := by
  obtain ⟨parent, name, hnames, hgoal, hends⟩ := hs.move_ends hroot hnode hself
  rw [← goal_paths s hself] at hgoal
  have hentry := nodeAt?_entry hs (s.resolve source)
  rw [hnode, Option.map_some] at hentry
  have hkind : s.root.entryAt? (s.resolve source) = some .folder ↔ node.kind = .folder := by
    rw [← hentry, Option.some.injEq, Node.entry_eq_folder_iff]
  generalize s.move source destination = attempt at hends ⊢
  unfold PathMap.move
  simp only [resolve_paths, entry?_paths, ← hgoal]
  rw [if_neg hroot, if_neg (by simp [← hentry])]
  cases hends with
  -- Both places were resolved, so no name on the way to the goal can be empty.
  | unnamed hname => exact absurd hname (hnames name (by simp)).1
  | there hname hsame =>
    rw [if_pos hsame]
    rfl
  | intoItself hname hmoves hfolder hwithin =>
    rw [if_neg hmoves, if_pos ⟨hkind.mpr hfolder, hwithin⟩]
    rfl
  | noDestination hname hmoves houtside habove =>
    have hparent := entryAt?_ne_folder habove
    rw [if_neg hmoves, if_neg fun h => houtside (hkind.mp h.1) h.2, List.dropLast_concat,
      if_pos hparent]
    rfl
  | taken hname hmoves houtside habove htaken =>
    have hparent := entryAt?_of_folderAt? habove
    have hpresent := (has_iff habove).mp htaken
    rw [if_neg hmoves, if_neg fun h => houtside (hkind.mp h.1) h.2, List.dropLast_concat,
      if_neg (not_not_intro hparent), if_pos hpresent]
    rfl
  | moved hname hmoves houtside habove hfree =>
    have hparent := entryAt?_of_folderAt? habove
    have habsent := entryAt?_eq_none habove hfree
    have hmay := mayRelocate_of_moved hs hnode hmoves houtside habove hfree
    rw [if_neg hmoves, if_neg fun h => houtside (hkind.mp h.1) h.2, List.dropLast_concat,
      if_neg (not_not_intro hparent), if_neg (not_not_intro habsent), ← paths_relocate hmay]
    rfl

theorem move_refines (hs : s.WellFormed) (source destination : String) :
    outcome (s.move source destination) = s.paths.move source destination := by
  by_cases hroot : s.resolve source = []
  · rw [move_root hroot]
    simp [PathMap.move, hroot, FileError.kind]
  · have hentry := nodeAt?_entry hs (s.resolve source)
    cases hnode : s.nodeAt? (s.resolve source) with
    | none =>
      rw [hnode] at hentry
      rw [move_missing hroot hnode]
      simp [PathMap.move, hroot, ← hentry, FileError.kind]
    | some node =>
      rw [hnode] at hentry
      by_cases hself : s.resolve destination = s.resolve source
      · rw [move_onto_itself hroot hnode hself]
        simp [PathMap.move, PathMap.goal, hroot, ← hentry, hself, outcome]
      · exact move_refines_of_source hs hroot hnode hself

/-- **A move, completely.** For every tree in order and all texts, it refuses for the reasons of the
map and in their order, or finds nothing to do, or answers the new path; and then the places at and
below the goal hold what those at and below the source held, nothing is left there, every other
place is as it was, and the current place has gone along if it was in a folder that moved. -/
theorem move_transfers (hs : s.WellFormed) (source destination : String) :
    outcome (s.move source destination) = s.paths.move source destination ∧
      ∀ answer next, s.move source destination = .ok ⟨answer, some next⟩ →
        s.paths.Transferred next.paths (s.resolve source)
          (s.paths.goal (s.resolve source) (s.resolve destination)) := by
  have hmove := move_refines hs source destination
  refine ⟨hmove, fun answer next hnext => ?_⟩
  rw [hnext] at hmove
  exact PathMap.transferred_of_move s.root.closed_entryAt? hmove.symm

/-- The folder around the current one moves into another folder, and the current place with it. -/
theorem move_transfers_workshop :
    ∃ next, workshop.move ".." "/attic" = .ok ⟨"/attic/home", some next⟩ ∧
      next.cwd = ["attic", "home", "notes"] ∧
      workshop.paths.Transferred next.paths ["home"] ["attic", "home"] :=
  ⟨_, rfl, rfl, (move_transfers (by decide) ".." "/attic").2 _ _ rfl⟩

end Snapshot

end TreeShell
