import TreeShell.Builtin.Files
import TreeShell.Builtin.Find
import TreeShell.Proofs.Path.Resolution
import TreeShell.Proofs.Script.Lines
import TreeShell.Proofs.Walk.Loop

/-!
# What is printed about entries

`ls` and `find` write places out as paths and look the paths up again, for the sizes and for the
names. Nothing is lost on the way: a place of a tree in order is made of names, so its path leads
back to it from everywhere, and ends with the name of the entry there.

A command that only looks and prints is followed with `Prints`: what it answers and which lines it
prints, where neither depends on what was printed before. Lines and answers are then put together as
the command is.
-/

set_option autoImplicit false

namespace TreeShell

/-! ## Only looking and printing -/

namespace Shell

variable {α β : Type} {s : Session} {a : α} {lines : List String}

/-- After any lines that were printed, a step answers a value, prints some lines more, and leaves
all else as it is. -/
def Prints (s : Session) (step : Shell α) (a : α) (lines : List String) : Prop :=
  ∀ earlier, step.run (s.printed earlier) = (.ok a, s.printed (earlier ++ lines))

theorem Prints.run {step : Shell α} (h : Prints s step a lines) :
    step.run s = (.ok a, s.printed lines) := by
  have hrun := h []
  rwa [Session.printed_nil, List.nil_append] at hrun

theorem Prints.bind {step : Shell α} {next : α → Shell β} {b : β} {more : List String}
    (h : Prints s step a lines) (hnext : Prints s (next a) b more) :
    Prints s (step >>= next) b (lines ++ more) := by
  intro earlier
  rw [run_bind_of_ok (h earlier), hnext, List.append_assoc]

theorem prints_pure (s : Session) (a : α) : Prints s (pure a) a [] := by
  intro earlier
  rw [List.append_nil]
  rfl

theorem Prints.before_silent {step : Shell α} {next : α → Shell β} {b : β}
    (h : Prints s step a lines) (hnext : Prints s (next a) b []) :
    Prints s (step >>= next) b lines := by
  rw [← List.append_nil lines]
  exact h.bind hnext

theorem Prints.returning {step : Shell α} (h : Prints s step a lines) (f : α → β) :
    Prints s (step >>= fun a => pure (f a)) (f a) lines :=
  h.before_silent (prints_pure s (f a))

theorem prints_printLines (s : Session) (lines : List String) :
    Prints s (printLines lines) () lines := by
  intro earlier
  rw [run_printLines, Session.printed_printed]

theorem prints_print (s : Session) (line : String) : Prints s (print line) () [line] := by
  intro earlier
  rw [← Session.printed_printed]
  rfl

theorem Prints.after_silent {step : Shell α} {next : α → Shell β} {b : β}
    (h : Prints s step a []) (hnext : Prints s (next a) b lines) :
    Prints s (step >>= next) b lines :=
  h.bind hnext

theorem prints_view (s : Session) (f : Snapshot → α) :
    Prints s (view f) (f s.files.snapshot) [] := by
  intro earlier
  rw [List.append_nil]
  rfl

theorem prints_look (f : Snapshot → Except FileError α) (h : f s.files.snapshot = .ok a) :
    Prints s (look f) a [] := by
  intro earlier
  rw [List.append_nil, look, run_ofRun]
  show ((f s.files.snapshot).mapError _, _) = _
  rw [h]
  rfl

theorem prints_attempt_look (s : Session) (f : Snapshot → Except FileError α) :
    Prints s (attempt (look f)) (f s.files.snapshot) [] := by
  intro earlier
  rw [List.append_nil, run_attempt_look]
  rfl

theorem Prints.forM {action : α → Shell Unit} {row : α → String} {items : List α}
    (h : ∀ item ∈ items, Prints s (action item) () [row item]) :
    Prints s (items.forM action) () (items.map row) := by
  induction items with
  | nil => exact prints_pure s ()
  | cons item rest ih =>
    obtain ⟨hitem, hrest⟩ := List.forall_mem_cons.mp h
    exact hitem.bind (ih hrest)

theorem Prints.mapM {action : α → Shell β} {value : α → β} {rows : α → List String}
    {items : List α} (h : ∀ item ∈ items, Prints s (action item) (value item) (rows item)) :
    Prints s (items.mapM action) (items.map value) (items.flatMap rows) := by
  induction items with
  | nil => exact prints_pure s []
  | cons item rest ih =>
    obtain ⟨hitem, hrest⟩ := List.forall_mem_cons.mp h
    rw [List.mapM_cons]
    exact hitem.bind ((ih hrest).returning _)

end Shell

/-! ## Sizes -/

/-- The size of what is at a place: the characters of a file, the entries of a folder. -/
noncomputable def PathMap.size (m : PathMap) (place : List String) : Nat :=
  match m.entry? place with
  | some (.file content) => content.length
  | some .folder => (m.names place).ncard
  | none => 0

namespace Snapshot

variable {s : Snapshot} {path name : String} {kind : NodeKind} {place : List String}

/-- The size of an entry, if there is an entry of the kind. -/
def measure (s : Snapshot) (path : String) : NodeKind → Except FileError Nat
  | .folder => s.childCount path
  | .file => s.fileSize path

theorem entrySize_of_measure {size : Nat} (h : s.measure path kind = .ok size) :
    s.entrySize path kind = size := by
  cases kind with
  | folder =>
    rw [measure] at h
    rw [entrySize, h]
    rfl
  | file =>
    rw [measure] at h
    rw [entrySize, h]
    rfl

/-- An entry that is there is measured, and by what is there. -/
theorem measure_of_entry (hs : s.WellFormed)
    (h : (s.paths.entry? (s.resolve path)).map Entry.kind = some kind) :
    s.measure path kind = .ok (s.paths.size (s.resolve path)) := by
  obtain ⟨entry, hentry, rfl⟩ := Option.map_eq_some_iff.mp h
  rw [PathMap.size, hentry]
  cases entry with
  | folder =>
    have hcount := childCount_refines hs path
    rw [if_pos hentry] at hcount
    show s.childCount path = _
    cases hresult : s.childCount path with
    | error reason =>
      rw [hresult] at hcount
      exact nomatch hcount
    | ok count =>
      rw [hresult] at hcount
      exact congrArg Except.ok (Except.ok.inj hcount)
  | file content =>
    show s.fileSize path = _
    rw [fileSize, read_of_entry hs hentry]
    rfl

/-! ## Paths of places -/

theorem areNames_of_kind (hs : s.WellFormed)
    (h : (s.paths.entry? place).map Entry.kind = some kind) : Path.AreNames place := by
  obtain ⟨held, hheld, -⟩ := Option.map_eq_some_iff.mp h
  exact hs.root.areNames_of_entryAt? hheld

theorem normalize_cwdPath (hs : s.WellFormed) (path : String) :
    Path.normalize s.cwdPath path = Path.display (s.resolve path) := by
  rw [Path.normalize, cwdPath, Path.segments_display hs.cwd]
  rfl

theorem resolve_normalize (hs : s.WellFormed) (path : String) :
    s.resolve (Path.normalize s.cwdPath path) = s.resolve path := by
  rw [normalize_cwdPath hs]
  exact Path.resolve_display_of_areNames (hs.resolve path) s.cwd

end Snapshot

theorem Path.basename_display {place : List String} (h : Path.AreNames place) :
    Path.basename (Path.display place) = place.getLast?.getD "/" := by
  rw [Path.basename, Path.segments_display h]
  cases place with
  | nil => rfl
  | cons name rest =>
    rw [List.getLast?_cons]
    rfl

/-! ## Finding -/

theorem exists_of_bind_eq_ok {ε α β : Type} {first : Except ε α} {next : α → Except ε β} {b : β}
    (h : first >>= next = .ok b) : ∃ a, first = .ok a ∧ next a = .ok b := by
  cases first with
  | error fault => cases h
  | ok a => exact ⟨a, rfl, h⟩

namespace FindOptions

variable {options next read : FindOptions}

theorem nonneg_of_depthOf {value : String} {depth : Int} (h : depthOf value = .ok depth) :
    0 ≤ depth := by
  unfold depthOf at h
  split at h
  · cases h
  · cases h
  · cases h
  · dsimp only at h
    split at h
    · cases h
    · rename_i hdepth
      cases h
      exact not_lt.mp hdepth

theorem depth_of_withPath {path : String} (h : options.withPath path = .ok next) :
    next.depth = options.depth := by
  unfold withPath at h
  split at h
  · cases h
    rfl
  · cases h

theorem depth_of_withPaths {paths : List String} (h : paths.foldlM withPath options = .ok next) :
    next.depth = options.depth := by
  induction paths generalizing options with
  | nil =>
    cases h
    rfl
  | cons path rest ih =>
    rw [List.foldlM_cons] at h
    obtain ⟨first, hpath, hrest⟩ := exists_of_bind_eq_ok h
    exact (ih hrest).trans (depth_of_withPath hpath)

/-- The depth that was asked for counts steps. -/
theorem nonneg_of_readFrom {args : List String} (h : options.readFrom args = .ok read)
    (hdepth : ∀ most ∈ options.depth, 0 ≤ most) : ∀ most ∈ read.depth, 0 ≤ most := by
  fun_induction readFrom options args with
  | case1 options =>
    cases h
    exact hdepth
  | case2 options rest =>
    rw [depth_of_withPaths h]
    exact hdepth
  | case3 options rest ih => exact ih h hdepth
  | case5 options value rest ih => exact ih h hdepth
  | case7 options value rest ih =>
    obtain ⟨kind, -, hrest⟩ := exists_of_bind_eq_ok h
    exact ih kind hrest hdepth
  | case9 options value rest ih =>
    obtain ⟨depth, hvalue, hrest⟩ := exists_of_bind_eq_ok h
    refine ih depth hrest fun most hmost => ?_
    cases hmost
    exact nonneg_of_depthOf hvalue
  | case11 options arg rest _ _ _ _ _ _ _ _ _ ih =>
    obtain ⟨first, hpath, hrest⟩ := exists_of_bind_eq_ok h
    refine ih first hrest ?_
    rw [depth_of_withPath hpath]
    exact hdepth
  | case4 | case6 | case8 | case10 => cases h

theorem nonneg_of_read {args : List String} (h : FindOptions.read args = .ok read) :
    ∀ most ∈ read.depth, 0 ≤ most :=
  nonneg_of_readFrom h fun _ hmost => nomatch hmost

/-- What was asked for: what is at or below the start, within the depth, of the kind, and of a name
that the pattern accepts. The root is called as its path is. -/
def Selects (options : FindOptions) (m : PathMap) (entry : WalkEntry) : Prop :=
  ∃ below, entry.place = m.resolve options.path ++ below ∧ entry.depth = below.length ∧
    (∀ most ∈ options.depth, (below.length : Int) ≤ most) ∧
    (m.entry? entry.place).map Entry.kind = some entry.kind ∧
    (∀ kind ∈ options.kind, kind = entry.kind) ∧
    ∀ glob ∈ options.name, Glob.accepts glob (entry.place.getLast?.getD "/") = true

end FindOptions

namespace Snapshot

variable {s : Snapshot} {options : FindOptions} {entry : WalkEntry}

/-- The entries of a walk that pass the filters. -/
def found (s : Snapshot) (options : FindOptions) : List WalkEntry :=
  (s.traversal (options.depth.map Int.toNat) (s.resolve options.path)).filter options.accepts

/-- Some entries are those that were asked for, each once, and with a path and a size that are
right. -/
structure Finds (s : Snapshot) (options : FindOptions) (found : List WalkEntry) : Prop where
  nodup : (found.map WalkEntry.place).Nodup
  mem_iff : ∀ entry, entry ∈ found ↔ options.Selects s.paths entry
  leads : ∀ entry ∈ found, ∀ cwd, Path.resolve cwd entry.path = entry.place
  measured : ∀ entry ∈ found, s.measure entry.path entry.kind = .ok (s.paths.size entry.place)

theorem resolve_entry_path (hs : s.WellFormed)
    (h : (s.paths.entry? entry.place).map Entry.kind = some entry.kind) (cwd : List String) :
    Path.resolve cwd entry.path = entry.place :=
  Path.resolve_display_of_areNames (areNames_of_kind hs h) cwd

theorem accepts_iff (hs : s.WellFormed)
    (h : (s.paths.entry? entry.place).map Entry.kind = some entry.kind) :
    options.accepts entry = true ↔ (∀ kind ∈ options.kind, kind = entry.kind) ∧
      ∀ glob ∈ options.name, Glob.accepts glob (entry.place.getLast?.getD "/") = true := by
  rw [FindOptions.accepts, Bool.and_eq_true, WalkEntry.path,
    Path.basename_display (areNames_of_kind hs h)]
  cases options.kind <;> cases options.name <;> simp

theorem finds_found (hs : s.WellFormed) (hdepth : ∀ most ∈ options.depth, 0 ≤ most)
    (hstart : s.paths.entry? (s.resolve options.path) ≠ none) :
    s.Finds options (s.found options) := by
  have hall := enumerates_traversal hs (options.depth.map Int.toNat) hstart
  have hwithin (below : List String) : (∀ most ∈ options.depth.map Int.toNat, below.length ≤ most) ↔
      ∀ most ∈ options.depth, (below.length : Int) ≤ most := by
    cases hmost : options.depth with
    | none => simp
    | some most =>
      have := hdepth most hmost
      simp only [Option.map_some, Option.mem_some_iff, forall_eq']
      omega
  have hmem (entry : WalkEntry) : entry ∈ s.found options ↔ options.Selects s.paths entry := by
    rw [found, List.mem_filter, hall.mem_iff]
    constructor
    · rintro ⟨⟨below, hplace, hsteps, hreach, hkind⟩, haccepts⟩
      exact ⟨below, hplace, hsteps, (hwithin below).mp hreach, hkind,
        (accepts_iff hs hkind).mp haccepts⟩
    · rintro ⟨below, hplace, hsteps, hreach, hkind, haccepts⟩
      exact ⟨⟨below, hplace, hsteps, (hwithin below).mpr hreach, hkind⟩,
        (accepts_iff hs hkind).mpr haccepts⟩
  have hthere : ∀ entry ∈ s.found options,
      (s.paths.entry? entry.place).map Entry.kind = some entry.kind := by
    intro entry hentry
    obtain ⟨_, -, -, -, hkind, -⟩ := (hmem entry).mp hentry
    exact hkind
  refine ⟨?_, hmem, fun entry hentry => resolve_entry_path hs (hthere entry hentry),
    fun entry hentry => ?_⟩
  · refine List.pairwise_map.mpr ((hall.apart.filter _).imp fun hapart hsame => hapart ?_)
    rw [hsame]
  · have hpath : s.resolve entry.path = entry.place :=
      resolve_entry_path hs (hthere entry hentry) s.cwd
    have hmeasure : s.measure entry.path entry.kind =
        .ok (s.paths.size (s.resolve entry.path)) :=
      measure_of_entry hs (by rw [hpath]; exact hthere entry hentry)
    rwa [hpath] at hmeasure

end Snapshot

/-- The line of an entry: its path, after its kind and size if that was asked for. -/
noncomputable def PathMap.foundRow (m : PathMap) (long : Bool) (entry : WalkEntry) : String :=
  if long then longEntry entry.kind.mark (m.size entry.place) entry.path else entry.path

namespace Shell

variable {s : Session} {options : FindOptions} {args : List String}

theorem prints_printFound {entry : WalkEntry} (long : Bool)
    (h : s.files.snapshot.measure entry.path entry.kind =
      .ok (s.files.snapshot.paths.size entry.place)) :
    Prints s (printFound long entry) () [s.files.snapshot.paths.foundRow long entry] := by
  rw [printFound, PathMap.foundRow]
  cases long with
  | false => exact prints_print s _
  | true =>
    refine (prints_view s _).after_silent ?_
    rw [Snapshot.entrySize_of_measure h]
    exact prints_print s _

/-- **What `find` prints.** -/
theorem run_find (hs : s.files.snapshot.WellFormed) (hread : FindOptions.read args = .ok options)
    (hstart : s.files.snapshot.paths.entry? (s.files.snapshot.resolve options.path) ≠ none) :
    (find args).run s = (.ok .success, s.printed ((s.files.snapshot.found options).map
      (s.files.snapshot.paths.foundRow options.long))) := by
  have hdepth := FindOptions.nonneg_of_read hread
  have hfinds := Snapshot.finds_found hs hdepth hstart
  have hplace := Snapshot.resolve_normalize hs options.path
  have hexists : s.files.snapshot.exists?
      (Path.normalize s.files.snapshot.cwdPath options.path) = true := by
    rw [Snapshot.exists_iff hs, hplace]
    exact hstart
  have hlimit : options.depth = (options.depth.map Int.toNat).map Nat.cast := by
    cases hmost : options.depth with
    | none => rfl
    | some most => simp [Int.toNat_of_nonneg (hdepth most hmost)]
  have hwalk : s.files.snapshot.walk (Path.normalize s.files.snapshot.cwdPath options.path)
      ((options.depth.map Int.toNat).map Nat.cast) = .ok _ :=
    Snapshot.walk_eq_traversal hs (options.depth.map Int.toNat) (by rw [hplace]; exact hstart)
  rw [← hlimit, hplace] at hwalk
  refine Prints.run ?_
  rw [find, hread]
  dsimp only
  rw [findWith]
  refine (prints_view s _).after_silent ?_
  refine (prints_view s _).after_silent ?_
  rw [if_pos hexists]
  refine (prints_look (fun t => t.walk _ options.depth) hwalk).after_silent ?_
  exact (Prints.forM fun entry hentry =>
    prints_printFound options.long (hfinds.measured entry hentry)).returning _

end Shell

/-! ## Listing -/

/-- The name of an entry as a session shows it. -/
def Session.label (s : Session) (entry : String × NodeKind) : String :=
  (entryColor entry.1 entry.2.isFolder).paintIf s.console.color (entryLabel entry.1 entry.2)

/-- The line of an entry of a folder in a long listing. -/
noncomputable def Session.longRow (s : Session) (place : List String)
    (entry : String × NodeKind) : String :=
  longEntry entry.2.mark (s.files.snapshot.paths.size (place ++ [entry.1])) (s.label entry)

namespace Snapshot

variable {s : Snapshot} {place : List String} {listing : Listing} {name : String}
  {kind : NodeKind} {all : Bool}

/-- Some names with kinds are those of the entries of a folder, each once, but for the hidden ones
where not all are asked for. -/
structure Shows (s : Snapshot) (place : List String) (all : Bool)
    (shown : List (String × NodeKind)) : Prop where
  nodup : (shown.map Prod.fst).Nodup
  mem_iff : ∀ name kind, (name, kind) ∈ shown ↔ (all = true ∨ isHidden name = false) ∧
    (s.paths.entry? (place ++ [name])).map Entry.kind = some kind

theorem mem_entries_iff (h : s.paths.Lists place listing) :
    (name, kind) ∈ listing.entries ↔
      (s.paths.entry? (place ++ [name])).map Entry.kind = some kind := by
  have hmem : (name, kind) ∈ listing.entries ↔ (name ∈ listing.folders ∧ kind = .folder) ∨
      (name ∈ listing.files ∧ kind = .file) := by
    cases kind <;> simp [Listing.entries]
  rw [hmem, h.mem_folders, h.mem_files]
  cases s.paths.entry? (place ++ [name]) with
  | none => simp
  | some entry => cases entry <;> simp [Entry.kind, eq_comm]

theorem shows_shownEntries (h : s.paths.Lists place listing) (all : Bool) :
    s.Shows place all (Shell.shownEntries listing all) := by
  have hperm := List.mergeSort_perm
    (listing.entries.filter fun entry => all || !isHidden entry.1) fun a b => !decide (b.1 < a.1)
  constructor
  · have hnames : listing.entries.map Prod.fst = listing.folders ++ listing.files := by
      simp [Listing.entries, Function.comp_def]
    refine (hperm.map Prod.fst).nodup_iff.mpr ?_
    refine (List.filter_sublist.map Prod.fst).nodup ?_
    rw [hnames]
    exact h.nodup
  · intro name kind
    rw [Shell.shownEntries, hperm.mem_iff, List.mem_filter, mem_entries_iff h, and_comm]
    simp

end Snapshot

namespace Shell

variable {s : Session} {args : List String} {read : ShortFlags} {target : String}

theorem prints_paintedEntry (s : Session) (entry : String × NodeKind) :
    Prints s (paintedEntry entry.1 entry.2) (s.label entry) [] := by
  intro earlier
  rw [List.append_nil]
  rfl

theorem measure_child (hs : s.files.snapshot.WellFormed) {entry : String × NodeKind}
    (h : (s.files.snapshot.paths.entry?
      (s.files.snapshot.resolve target ++ [entry.1])).map Entry.kind = some entry.2) :
    s.files.snapshot.measure
        (Path.join (Path.normalize s.files.snapshot.cwdPath target) entry.1) entry.2 =
      .ok (s.files.snapshot.paths.size (s.files.snapshot.resolve target ++ [entry.1])) := by
  have hname : Path.IsName entry.1 :=
    (Path.areNames_append.mp (Snapshot.areNames_of_kind hs h)).2 _ (List.mem_singleton_self _)
  have hplace : s.files.snapshot.resolve
      (Path.join (Path.normalize s.files.snapshot.cwdPath target) entry.1) =
      s.files.snapshot.resolve target ++ [entry.1] := by
    rw [Snapshot.normalize_cwdPath hs, Snapshot.resolve,
      Path.resolve_join (by simp [Path.isAbsolute, Path.display, String.toList_append]) hname,
      Path.resolve_display_of_areNames (hs.resolve target)]
  rw [← hplace] at h ⊢
  exact Snapshot.measure_of_entry hs h

theorem prints_printLongEntry {place : List String} {base : String} {entry : String × NodeKind}
    (h : s.files.snapshot.measure (Path.join base entry.1) entry.2 =
      .ok (s.files.snapshot.paths.size (place ++ [entry.1]))) :
    Prints s (printLongEntry base entry) () [s.longRow place entry] := by
  rw [printLongEntry]
  refine (prints_view s _).after_silent ?_
  refine (prints_paintedEntry s entry).after_silent ?_
  rw [Snapshot.entrySize_of_measure h]
  exact prints_print s _

theorem run_ls_file (hs : s.files.snapshot.WellFormed) (hread : ShortFlags.read "la" args = read)
    (hknown : read.unknown? = none) (hlong : read.has 'l' = true)
    (htarget : read.operands.head?.getD "." = target) {content : String}
    (hfile : s.files.snapshot.paths.entry? (s.files.snapshot.resolve target) =
      some (.file content)) :
    (ls args).run s = (.ok .success,
      s.printed [longEntry "-" content.length (Path.basename target)]) := by
  have hisFile : s.files.snapshot.isFile target = true :=
    (Snapshot.isFile_iff hs target).mpr ⟨content, hfile⟩
  have hmeasure : s.files.snapshot.measure target .file = .ok content.length := by
    rw [Snapshot.measure, Snapshot.fileSize, Snapshot.read_of_entry hs hfile]
    rfl
  rw [ls, hread, hknown, htarget, hlong]
  dsimp only
  refine Prints.run ((prints_view s _).after_silent ?_)
  rw [if_pos hisFile, listFile]
  dsimp only
  rw [if_pos rfl]
  refine (prints_view s _).after_silent ?_
  rw [Snapshot.entrySize_of_measure hmeasure]
  exact (prints_print s _).returning _

theorem run_ls_folder (hs : s.files.snapshot.WellFormed)
    (hread : ShortFlags.read "la" args = read) (hknown : read.unknown? = none)
    (hlong : read.has 'l' = true) (htarget : read.operands.head?.getD "." = target)
    (hfolder : s.files.snapshot.paths.entry? (s.files.snapshot.resolve target) = some .folder) :
    ∃ shown, s.files.snapshot.Shows (s.files.snapshot.resolve target) (read.has 'a') shown ∧
      (ls args).run s = (.ok .success,
        s.printed (shown.map (s.longRow (s.files.snapshot.resolve target)))) := by
  have hisFile : ¬ s.files.snapshot.isFile target = true := by
    rw [Snapshot.isFile_iff hs, hfolder]
    simp
  rcases Snapshot.list_cases hs target with ⟨-, listing, hlist, hlists⟩ | ⟨hnot, -⟩
  · have hshows := Snapshot.shows_shownEntries hlists (read.has 'a')
    refine ⟨_, hshows, ?_⟩
    rw [ls, hread, hknown, htarget, hlong]
    dsimp only
    refine Prints.run ((prints_view s _).after_silent ?_)
    rw [if_neg hisFile, listFolder]
    refine (prints_attempt_look s _).after_silent ?_
    rw [hlist]
    dsimp only
    rw [if_pos rfl]
    refine (prints_view s _).after_silent ?_
    refine Prints.returning (Prints.forM fun entry hentry => ?_) _
    exact prints_printLongEntry (measure_child hs ((hshows.mem_iff _ _).mp hentry).2)
  · exact absurd hfolder hnot

end Shell

end TreeShell
