import TreeShell.Proofs.Path.Resolution

/-!
# Where a path leads, from anywhere

Read without a place to start from, a path comes to a `Route`: so many folders up, and from there
down along names. To resolve the path is to follow its route (`resolve_eq_destination`), and the
root is no case of its own there: a place has only so many folders to climb out of, and climbs
beyond them are lost.

Whoever looks up an entry relies on two laws that follow from this. A resolved place is written and
read back unchanged, so that it does not matter whether a path is read against a place or against
the text of a place (`resolve_canonical`). And paths can be put together before they are read
(`paths_compose`). The second law asks nothing of the base: a `.` or `..` in its text is a segment
like any other, and what a path adds to it are names (`mem_or_isName_of_mem_resolve`), so that the
text in between loses nothing.
-/

set_option autoImplicit false

namespace TreeShell

namespace Path

/-! ## Routes -/

/-- A path read without a place: so many folders up, and from there down along names. -/
structure Route where
  climbs : Nat
  descent : List String
deriving DecidableEq, Repr

namespace Route

/-- One folder back: along the descent, or up once more where there is none. -/
def climb (route : Route) : Route :=
  if route.descent = [] then ⟨route.climbs + 1, []⟩
  else ⟨route.climbs, route.descent.dropLast⟩

/-- A route with one more piece of a path at its end. -/
def step (route : Route) (piece : String) : Route :=
  if piece = "" ∨ piece = "." then route
  else if piece = ".." then route.climb
  else ⟨route.climbs, route.descent ++ [piece]⟩

/-- Where a route leads from a place. Of the climbs, those that find no folder above are lost. -/
def destination (route : Route) (place : List String) : List String :=
  place.take (place.length - route.climbs) ++ route.descent

@[simp]
theorem destination_nil (route : Route) : route.destination [] = route.descent := by
  simp [destination]

theorem destination_climb (route : Route) (place : List String) :
    route.climb.destination place = (route.destination place).dropLast := by
  unfold climb destination
  by_cases hdescent : route.descent = []
  · rw [if_pos hdescent, hdescent, List.append_nil, List.append_nil, List.dropLast_eq_take,
      List.take_take, List.length_take]
    -- Both sides keep one folder less, and none where none was left to keep.
    congr 1
    dsimp only
    omega
  · rw [if_neg hdescent, List.dropLast_append_of_ne_nil hdescent]

/-- A piece does to a route what it does to the place the route leads to. -/
theorem destination_step (route : Route) (piece : String) (place : List String) :
    (route.step piece).destination place = Path.step (route.destination place) piece := by
  unfold step Path.step
  split
  · rfl
  · split
    · exact destination_climb route place
    · exact (List.append_assoc _ _ _).symm

theorem destination_foldl_step (pieces : List String) (route : Route) (place : List String) :
    (pieces.foldl step route).destination place =
      pieces.foldl Path.step (route.destination place) := by
  induction pieces generalizing route with
  | nil => rfl
  | cons piece rest ih => rw [List.foldl_cons, List.foldl_cons, ih, destination_step]

end Route

/-- The route a path describes. -/
def route (path : String) : Route :=
  (Text.split '/' path).foldl Route.step ⟨0, []⟩

/-- Following a route is reading its path piece by piece. -/
theorem destination_route (path : String) (place : List String) :
    (route path).destination place = (Text.split '/' path).foldl step place := by
  have hhere : Route.destination ⟨0, []⟩ place = place := by simp [Route.destination]
  rw [route, Route.destination_foldl_step, hhere]

/-- **To resolve a path is to follow its route**, from the root if the path is absolute. -/
theorem resolve_eq_destination (cwd : List String) (path : String) :
    resolve cwd path = (route path).destination (if isAbsolute path then [] else cwd) :=
  (destination_route path _).symm

/-- A route goes down along names only: what it goes down is where it leads from the root. -/
theorem areNames_descent (path : String) : AreNames (route path).descent := by
  rw [← Route.destination_nil, destination_route]
  exact areNames_foldl_step areNames_nil fun _ hpiece => Text.not_mem_of_mem_split hpiece

/-- What is new in a resolved place is a name, whatever the place it was resolved from holds. -/
theorem mem_or_isName_of_mem_resolve {cwd : List String} {path segment : String}
    (h : segment ∈ resolve cwd path) : segment ∈ cwd ∨ IsName segment := by
  rw [resolve_eq_destination] at h
  rcases List.mem_append.mp h with hkept | hnew
  · have hstart := List.mem_of_mem_take hkept
    split at hstart
    · exact absurd hstart List.not_mem_nil
    · exact .inl hstart
  · exact .inr (areNames_descent path segment hnew)

/-! ## Bases in display form -/

/-- The segments of any text could have been written with separators between them. -/
theorem written_of_mem_segments {base segment : String} (h : segment ∈ segments base) :
    segment ≠ "" ∧ '/' ∉ segment.toList := by
  obtain ⟨hpiece, hne⟩ := List.mem_filter.mp h
  exact ⟨of_decide_eq_true hne, Text.not_mem_of_mem_split hpiece⟩

/-- The segments of a joined path are the place it was written from, although some of them may be
no names. -/
theorem segments_join (base entry : String) :
    segments (join base entry) = resolve (segments base) entry := by
  refine segments_display_of_written fun segment hs => ?_
  rcases mem_or_isName_of_mem_resolve hs with hbase | hname
  · exact written_of_mem_segments hbase
  · exact ⟨hname.1, hname.2.1⟩

theorem join_join {entry more : String} (h : entry ≠ "") (hmore : isAbsolute more = false)
    (base : String) : join (join base entry) more = join base (entry ++ "/" ++ more) := by
  calc join (join base entry) more
      = display (resolve (segments (join base entry)) more) := rfl
    _ = display (resolve (resolve (segments base) entry) more) := by rw [segments_join]
    _ = display (resolve (segments base) (entry ++ "/" ++ more)) := by
        rw [resolve_resolve h hmore]

/-! ## The laws of paths -/

/-- **Resolved places are canonical, and both ways to read a path agree.** From a place that is made
of names every path leads to one made of names: what its route keeps of the start, never climbing
above the root, and what it goes down from there. The text of that place leads to it from any
place at all and gives its segments back, and a path read against the text of the current place
is the text of where it leads. -/
theorem resolve_canonical {cwd : List String} (hcwd : AreNames cwd) (path : String) :
    AreNames (resolve cwd path) ∧
      resolve cwd path = (if isAbsolute path then []
        else cwd.take (cwd.length - (route path).climbs)) ++ (route path).descent ∧
      (∀ other, resolve other (display (resolve cwd path)) = resolve cwd path) ∧
      segments (display (resolve cwd path)) = resolve cwd path ∧
      normalize (display cwd) path = display (resolve cwd path) := by
  have hnames : AreNames (resolve cwd path) := areNames_resolve hcwd path
  refine ⟨hnames, ?_, resolve_display_of_areNames hnames, segments_display hnames, ?_⟩
  · rw [resolve_eq_destination]
    split
    · exact Route.destination_nil _
    · rfl
  · rw [normalize, segments_display hcwd]

/-- Three climbs from two folders deep come to the root and no further; the fourth only leaves the
folder that was entered just before. -/
theorem resolve_canonical_overclimb :
    AreNames ["home", "user"] ∧
      resolve ["home", "user"] "../.././..//log/../etc/" = ["etc"] ∧
      route "../.././..//log/../etc/" = ⟨3, ["etc"]⟩ ∧
      AreNames ["etc"] ∧ ["etc"] = ["home", "user"].take (2 - 3) ++ ["etc"] ∧
      resolve ["bin"] (display ["etc"]) = ["etc"] ∧ segments (display ["etc"]) = ["etc"] ∧
      normalize "/home/user" "../.././..//log/../etc/" = "/etc" := by
  have hcwd : AreNames ["home", "user"] := by decide
  have hplace : resolve ["home", "user"] "../.././..//log/../etc/" = ["etc"] := by decide
  have hroute : route "../.././..//log/../etc/" = ⟨3, ["etc"]⟩ := by decide
  have hlaws := resolve_canonical hcwd "../.././..//log/../etc/"
  rw [hplace, hroute] at hlaws
  obtain ⟨hnames, hkept, hback, hsegments, hnormal⟩ := hlaws
  exact ⟨hcwd, hplace, hroute, hnames, hkept, hback ["bin"], hsegments, hnormal⟩

/-- **Paths can be put together before they are read.** A path and then a relative one lead from
any place where the two lead with a separator between them; and entries joined to a base one after
the other are joined to it at once, whatever the base, the first of them absolute or not. -/
theorem paths_compose {path more : String} (hpath : path ≠ "") (hmore : isAbsolute more = false)
    (cwd : List String) (base : String) :
    resolve (resolve cwd path) more = resolve cwd (path ++ "/" ++ more) ∧
      join (join base path) more = join base (path ++ "/" ++ more) :=
  ⟨resolve_resolve hpath hmore cwd, join_join hpath hmore base⟩

/-- The second path climbs out of what the first has entered and on above it. In the base `..` is a
segment, and the last climb leaves it as it would leave a folder of that name. -/
theorem paths_compose_climbing :
    "log/./old" ≠ "" ∧ isAbsolute "../..//../new" = false ∧
      resolve (resolve ["home", "user"] "log/./old") "../..//../new" = ["home", "new"] ∧
      resolve ["home", "user"] "log/./old/../..//../new" = ["home", "new"] ∧
      join (join "/var/.." "log/./old") "../..//../new" = "/var/new" ∧
      join "/var/.." "log/./old/../..//../new" = "/var/new" := by
  have hpath : "log/./old" ≠ "" := by decide
  have hmore : isAbsolute "../..//../new" = false := by decide
  obtain ⟨hresolve, hjoin⟩ := paths_compose hpath hmore ["home", "user"] "/var/.."
  have hplace : resolve ["home", "user"] "log/./old/../..//../new" = ["home", "new"] := by decide
  have htext : join "/var/.." "log/./old/../..//../new" = "/var/new" := by decide
  exact ⟨hpath, hmore, hresolve.trans hplace, hplace, hjoin.trans htext, htext⟩

end Path

end TreeShell
