import TreeShell.Proofs.Path.Names

/-!
# Paths that go one step further

A path is read piece by piece, and a separator is where pieces meet (`pieces_append_sep`). So to
write one path after another is to read the second from the place of the first
(`resolve_resolve`), whether the first is relative, absolute or the root itself. A name after a
path leads into the entry of that name (`resolve_child`), and a separator at the end changes
nothing (`resolve_append_sep`).
-/

set_option autoImplicit false

namespace TreeShell

namespace Text

theorem pieces_append_sep (sep : Char) (s t : List Char) :
    pieces sep (s ++ sep :: t) = pieces sep s ++ pieces sep t := by
  induction s with
  | nil => simp [pieces]
  | cons c rest ih =>
    rw [List.cons_append, pieces, pieces, ih]
    split
    · rfl
    · cases hrest : pieces sep rest with
      | nil => exact absurd hrest (pieces_ne_nil sep rest)
      | cons first others => rfl

/-- What holds no separator is one piece. -/
theorem pieces_of_not_mem {sep : Char} {s : List Char} (h : sep ∉ s) : pieces sep s = [s] := by
  induction s with
  | nil => rfl
  | cons c rest ih =>
    obtain ⟨hc, hrest⟩ := List.ne_and_not_mem_of_not_mem_cons h
    rw [pieces, if_neg (Ne.symm hc), ih hrest]

theorem split_append_sep (s t : String) :
    split '/' (s ++ "/" ++ t) = split '/' s ++ split '/' t := by
  have hsep : (s ++ "/" ++ t).toList = s.toList ++ '/' :: t.toList := by
    simp [String.toList_append]
  rw [split, hsep, pieces_append_sep, List.map_append]
  rfl

@[simp]
theorem split_empty (sep : Char) : split sep "" = [""] := rfl

theorem split_of_not_mem {s : String} (h : '/' ∉ s.toList) : split '/' s = [s] := by
  rw [split, pieces_of_not_mem h]
  simp

/-- Strings without separators come apart where they were put together. -/
theorem split_join {names : List String} (h : ∀ name ∈ names, '/' ∉ name.toList)
    (hne : names ≠ []) : split '/' (join "/" names) = names := by
  induction names with
  | nil => exact absurd rfl hne
  | cons name rest ih =>
    obtain ⟨hname, hrest⟩ := List.forall_mem_cons.mp h
    cases rest with
    | nil => exact split_of_not_mem hname
    | cons next others =>
      rw [join, split_append_sep, split_of_not_mem hname, ih hrest (List.cons_ne_nil _ _),
        List.singleton_append]
      exact List.cons_ne_nil _ _

end Text

namespace Path

variable {cwd : List String} {path name : String}

theorem step_of_isName (h : IsName name) (place : List String) :
    step place name = place ++ [name] := by
  obtain ⟨hempty, -, hdot, hdots⟩ := h
  simp [step, hempty, hdot, hdots]

/-- What a path begins with decides whether it is absolute. -/
theorem isAbsolute_append (h : path ≠ "") (more : String) :
    isAbsolute (path ++ more) = isAbsolute path := by
  unfold isAbsolute
  rw [String.toList_append]
  cases hpath : path.toList with
  | nil => exact absurd (String.toList_eq_nil_iff.mp hpath) h
  | cons c rest => rfl

/-- The current place has no say in where an absolute path leads. -/
theorem resolve_of_isAbsolute {path : String} (h : isAbsolute path = true)
    (cwd : List String) : resolve cwd path = resolve [] path := by
  unfold resolve
  rw [h]
  rfl

theorem isAbsolute_of_isName (h : IsName name) : isAbsolute name = false := by
  unfold isAbsolute
  cases hname : name.toList with
  | nil => rfl
  | cons c rest =>
    have hc : c ≠ '/' := fun heq => h.2.1 (by simp [hname, heq])
    simpa using hc

/-- The name of an entry is a path to it from the folder it is in. -/
theorem resolve_name (h : IsName name) (cwd : List String) : resolve cwd name = cwd ++ [name] := by
  rw [resolve, Text.split_of_not_mem h.2.1, isAbsolute_of_isName h]
  exact step_of_isName h cwd

/-- To read a path and then another from where it leads is to read the two with a separator
between them. The second must not be absolute: behind the first it would no longer be. -/
theorem resolve_resolve {more : String} (h : path ≠ "") (hmore : isAbsolute more = false)
    (cwd : List String) : resolve (resolve cwd path) more = resolve cwd (path ++ "/" ++ more) := by
  have habsolute : isAbsolute (path ++ "/" ++ more) = isAbsolute path := by
    rw [String.append_assoc, isAbsolute_append h]
  rw [resolve, if_neg (by simp [hmore]), resolve, ← List.foldl_append, ← Text.split_append_sep,
    resolve, habsolute]

theorem resolve_append_sep (h : path ≠ "") (cwd : List String) :
    resolve cwd (path ++ "/") = resolve cwd path := by
  have hrelative : isAbsolute "" = false := rfl
  have hread := resolve_resolve h hrelative cwd
  rw [String.append_empty] at hread
  exact hread.symm

/-- A name after a path leads from the place of the path into the entry. -/
theorem resolve_child (h : path ≠ "") (hname : IsName name) (cwd : List String) :
    resolve cwd (path ++ "/" ++ name) = resolve cwd path ++ [name] := by
  rw [← resolve_resolve h (isAbsolute_of_isName hname), resolve_name hname]

theorem resolve_root_child (hname : IsName name) (cwd : List String) :
    resolve cwd ("/" ++ name) = [name] := by
  have hsplit : Text.split '/' ("/" ++ name) = ["", name] := by
    have hroot := Text.split_append_sep "" name
    rw [Text.split_of_not_mem hname.2.1] at hroot
    simpa using hroot
  have habsolute : isAbsolute ("/" ++ name) = true := by
    simp [isAbsolute, String.toList_append]
  rw [resolve, hsplit, habsolute]
  simp [step_of_isName hname]

/-! ## Written places -/

theorem foldl_step_filter (pieces place : List String) :
    (pieces.filter (· ≠ "")).foldl step place = pieces.foldl step place := by
  induction pieces generalizing place with
  | nil => rfl
  | cons piece rest ih =>
    by_cases hpiece : piece = ""
    · subst hpiece
      rw [List.filter_cons_of_neg (by simp), List.foldl_cons, step_empty, ih]
    · rw [List.filter_cons_of_pos (by simpa using hpiece), List.foldl_cons, List.foldl_cons, ih]

/-- The segments of an absolute path lead from the root to where the path leads. -/
theorem foldl_step_segments (h : isAbsolute path = true) (cwd : List String) :
    (segments path).foldl step [] = resolve cwd path := by
  rw [segments, foldl_step_filter, resolve, if_pos h]

theorem split_display (place : List String) :
    Text.split '/' (display place) = "" :: Text.split '/' (Text.join "/" place) := by
  simpa [display] using Text.split_append_sep "" (Text.join "/" place)

/-- A place that is written out is read back a segment at a time. -/
theorem resolve_display {place : List String} (h : ∀ name ∈ place, '/' ∉ name.toList)
    (cwd : List String) : resolve cwd (display place) = place.foldl step [] := by
  have habsolute : isAbsolute (display place) = true := by
    simp [isAbsolute, display, String.toList_append]
  rw [resolve, if_pos habsolute, split_display, List.foldl_cons, step_empty]
  cases place with
  | nil => exact step_empty _
  | cons name rest => rw [Text.split_join h (List.cons_ne_nil _ _)]

/-- Names lead down. -/
theorem foldl_step_of_areNames {more : List String} (h : AreNames more) (place : List String) :
    more.foldl step place = place ++ more := by
  induction more generalizing place with
  | nil => exact (List.append_nil place).symm
  | cons name rest ih =>
    obtain ⟨hname, hrest⟩ := areNames_cons.mp h
    rw [List.foldl_cons, step_of_isName hname, ih hrest, List.append_assoc, List.singleton_append]

/-- The path of a place leads there. -/
theorem resolve_display_of_areNames {place : List String} (h : AreNames place)
    (cwd : List String) : resolve cwd (display place) = place := by
  rw [resolve_display (fun name hname => (h name hname).2.1), foldl_step_of_areNames h,
    List.nil_append]

/-- Segments that a text can hold between separators are found again where they were written,
also those that a path would take as standing still or climbing. -/
theorem segments_display_of_written {place : List String}
    (h : ∀ segment ∈ place, segment ≠ "" ∧ '/' ∉ segment.toList) :
    segments (display place) = place := by
  rw [segments, split_display, List.filter_cons_of_neg (by simp)]
  cases place with
  | nil => rfl
  | cons first rest =>
    rw [Text.split_join (fun segment hs => (h segment hs).2) (List.cons_ne_nil _ _),
      List.filter_eq_self]
    exact fun segment hs => decide_eq_true (h segment hs).1

/-- The segments of the path of a place are its own. -/
theorem segments_display {place : List String} (h : AreNames place) :
    segments (display place) = place :=
  segments_display_of_written fun name hname => ⟨(h name hname).1, (h name hname).2.1⟩

/-- The path of an entry of a folder leads where the path of the folder leads, and into the
entry. -/
theorem resolve_join (h : isAbsolute path = true) (hname : IsName name) (cwd : List String) :
    resolve cwd (join path name) = resolve cwd path ++ [name] := by
  have hsegments : ∀ segment ∈ segments path ++ [name], '/' ∉ segment.toList := by
    intro segment hs
    rcases List.mem_append.mp hs with hs | hs
    · exact Text.not_mem_of_mem_split (List.mem_filter.mp hs).1
    · rw [List.mem_singleton.mp hs]
      exact hname.2.1
  rw [join, normalize, resolve_name hname, resolve_display hsegments, List.foldl_append,
    foldl_step_segments h cwd]
  exact step_of_isName hname _

end Path

end TreeShell
