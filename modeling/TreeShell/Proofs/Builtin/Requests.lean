import Mathlib.Tactic.SplitIfs
import TreeShell.Proofs.Builtin.Arguments
import TreeShell.Proofs.Builtin.Listing

/-!
# What the arguments of `find` ask for

The arguments of `find` are read one or two at a time. What they may look like is said here without
the reader: they are options, each with a proper value where it takes one, and paths that do not
look like options, and in the end there may be two dashes with more paths behind them
(`FindRequest`); and there is one path at most. A request asks for its only path, and of each kind
of option for the last (`FindRequest.options`).

Just these lists of arguments are read, and as just these options (`FindOptions.read_as_requested`).
All others are refused with the usage, with one exception: a depth that is infinite is a number, but
not one that can be made whole, and so the command is stopped by a fault of another kind
(`FindOptions.not_mistaken_infinite_depth`).
-/

set_option autoImplicit false

namespace TreeShell

/-- An option of `find` with its value, or a path to start at. -/
inductive FindItem where
  | long
  | name (glob : String)
  | kind (value : String)
  | depth (value : String)
  | start (path : String)
deriving DecidableEq, Repr

namespace FindItem

/-- The arguments an item is written as. -/
def words : FindItem → List String
  | long => ["-ls"]
  | name glob => ["-name", glob]
  | kind value => ["-type", value]
  | depth value => ["-maxdepth", value]
  | start path => [path]

/-- The pattern an item gives. -/
def glob? : FindItem → Option String
  | name glob => some glob
  | _ => none

/-- The kind an item gives: the value is one of two letters, in either case. -/
def kind? : FindItem → Option NodeKind
  | kind value =>
    if Text.lower value = "f" then some .file
    else if Text.lower value = "d" then some .folder
    else none
  | _ => none

/-- The depth an item gives: the value is a finite number, of which the whole part counts. -/
def depth? : FindItem → Option Int
  | depth value => (Number.float? value).bind Binary64.truncate?
  | _ => none

/-- The path an item gives. -/
def start? : FindItem → Option String
  | start path => some path
  | _ => none

/-- The value of an option is proper, and a path does not look like an option. -/
def Proper (item : FindItem) : Prop :=
  match item with
  | long | name _ => True
  | kind _ => item.kind?.isSome = true
  | depth _ => ∃ steps ∈ item.depth?, 0 ≤ steps
  | start path => Text.startsWith path "-" = false

end FindItem

/-- Arguments of `find`: items, and what comes after two dashes, if these are there. -/
structure FindRequest where
  items : List FindItem
  dashed? : Option (List String)
deriving DecidableEq, Repr

namespace FindRequest

/-- The arguments a request is written as. -/
def words (request : FindRequest) : List String :=
  request.items.flatMap FindItem.words ++ (request.dashed?.map ("--" :: ·)).getD []

/-- The paths of a request. -/
def starts (request : FindRequest) : List String :=
  request.items.filterMap FindItem.start? ++ request.dashed?.getD []

/-- Every item is proper, and there is one path at most. -/
structure Proper (request : FindRequest) : Prop where
  items : ∀ item ∈ request.items, item.Proper
  starts : request.starts.length ≤ 1

/-- What a request asks for: its path, and of each kind of option the last. -/
def options (request : FindRequest) : FindOptions where
  path? := request.starts.head?
  long := request.items.contains .long
  name := (request.items.filterMap FindItem.glob?).getLast?
  kind := (request.items.filterMap FindItem.kind?).getLast?
  depth := (request.items.filterMap FindItem.depth?).getLast?

end FindRequest

namespace FindOptions

variable {options : FindOptions} {item : FindItem} {request : FindRequest} {args rest : List String}

/-! ## Values -/

theorem kindOf_eq (value : String) :
    kindOf value = match (FindItem.kind value).kind? with
      | some kind => .ok kind
      | none => .error (.findArguments .badKind) := by
  unfold kindOf FindItem.kind?
  dsimp only
  split_ifs <;> rfl

theorem depthOf_of_infinite {value : String} {negative : Bool}
    (h : Number.float? value = some (.infinite negative)) :
    depthOf value = .error .infiniteInteger := by
  rw [depthOf, h]

theorem depthOf_of_proper {value : String} {steps : Int}
    (h : (FindItem.depth value).depth? = some steps) (hsteps : 0 ≤ steps) :
    depthOf value = .ok steps := by
  obtain ⟨x, hx, htruncate⟩ := Option.bind_eq_some_iff.mp h
  unfold depthOf
  cases x with
  | nan => cases htruncate
  | infinite negative => cases htruncate
  | finite negative mantissa exponent =>
    rw [hx]
    dsimp only
    rw [htruncate, Option.getD_some, if_neg (not_lt.mpr hsteps)]

/-- A value for the depth is a proper one, or infinite, or else a mistake. -/
theorem depthOf_cases (value : String) :
    (∃ steps, (FindItem.depth value).depth? = some steps ∧ 0 ≤ steps) ∨
      (∃ negative, Number.float? value = some (.infinite negative)) ∨
      depthOf value = .error (.findArguments .badDepth) := by
  cases hvalue : Number.float? value with
  | none => exact .inr (.inr (by rw [depthOf, hvalue]))
  | some x =>
    cases x with
    | nan => exact .inr (.inr (by rw [depthOf, hvalue]))
    | infinite negative => exact .inr (.inl ⟨negative, rfl⟩)
    | finite negative mantissa exponent =>
      obtain ⟨steps, hsteps⟩ :
          ∃ steps, (Binary64.finite negative mantissa exponent).truncate? = some steps := ⟨_, rfl⟩
      rcases lt_or_ge steps 0 with hbelow | habove
      · refine .inr (.inr ?_)
        rw [depthOf, hvalue]
        dsimp only
        rw [hsteps, Option.getD_some, if_pos hbelow]
      · exact .inl ⟨steps, by rw [FindItem.depth?, hvalue, Option.bind_some, hsteps], habove⟩

/-! ## Requests after what was read before -/

/-- The options after a request, when others were read before. -/
def after (options : FindOptions) (request : FindRequest) : FindOptions where
  path? := (options.path?.toList ++ request.starts).head?
  long := options.long || request.items.contains .long
  name := (request.items.filterMap FindItem.glob?).getLast?.or options.name
  kind := (request.items.filterMap FindItem.kind?).getLast?.or options.kind
  depth := (request.items.filterMap FindItem.depth?).getLast?.or options.depth

/-- Every item is proper, and there is one path at most, if one that was read before is counted. -/
structure Admits (options : FindOptions) (request : FindRequest) : Prop where
  items : ∀ item ∈ request.items, item.Proper
  starts : (options.path?.toList ++ request.starts).length ≤ 1

/-- The options after one item. -/
def withItem (options : FindOptions) (item : FindItem) : FindOptions :=
  options.after ⟨[item], none⟩

theorem head?_append_eq (first second : List String) :
    (first ++ second).head? = (first.head?.toList ++ second).head? := by
  cases first <;> rfl

theorem length_append_le_one_iff {first second : List String} :
    (first ++ second).length ≤ 1 ↔
      first.length ≤ 1 ∧ (first.head?.toList ++ second).length ≤ 1 := by
  match first with
  | [] => simp
  | [path] => simp
  | path :: other :: more => simp

theorem starts_append (items more : List FindItem) (dashed? : Option (List String)) :
    FindRequest.starts ⟨items ++ more, dashed?⟩ =
      FindRequest.starts ⟨items, none⟩ ++ FindRequest.starts ⟨more, dashed?⟩ := by
  simp only [FindRequest.starts, List.filterMap_append, Option.getD_none, List.append_nil,
    List.append_assoc]

/-- The last value is looked for in the later items first. -/
theorem getLast?_filterMap_append {α : Type} (f : FindItem → Option α) (items more : List FindItem)
    (earlier : Option α) :
    ((items ++ more).filterMap f).getLast?.or earlier =
      (more.filterMap f).getLast?.or ((items.filterMap f).getLast?.or earlier) := by
  rw [List.filterMap_append, List.getLast?_append, Option.or_assoc]

theorem after_append (options : FindOptions) (items more : List FindItem)
    (dashed? : Option (List String)) :
    options.after ⟨items ++ more, dashed?⟩ = (options.after ⟨items, none⟩).after ⟨more, dashed?⟩ := by
  unfold after
  congr 1
  · rw [starts_append, ← List.append_assoc, head?_append_eq]
  · simp [Bool.or_assoc]
  · exact getLast?_filterMap_append _ _ _ _
  · exact getLast?_filterMap_append _ _ _ _
  · exact getLast?_filterMap_append _ _ _ _

theorem admits_append_iff {items more : List FindItem} {dashed? : Option (List String)} :
    options.Admits ⟨items ++ more, dashed?⟩ ↔
      options.Admits ⟨items, none⟩ ∧ (options.after ⟨items, none⟩).Admits ⟨more, dashed?⟩ := by
  have hstarts : (options.path?.toList ++ FindRequest.starts ⟨items ++ more, dashed?⟩).length ≤ 1 ↔
      (options.path?.toList ++ FindRequest.starts ⟨items, none⟩).length ≤ 1 ∧
        ((options.after ⟨items, none⟩).path?.toList ++
          FindRequest.starts ⟨more, dashed?⟩).length ≤ 1 := by
    rw [starts_append, ← List.append_assoc, length_append_le_one_iff]
    rfl
  constructor
  · intro h
    obtain ⟨hitems, hmore⟩ := List.forall_mem_append.mp h.items
    obtain ⟨hfirst, hrest⟩ := hstarts.mp h.starts
    exact ⟨⟨hitems, hfirst⟩, hmore, hrest⟩
  · rintro ⟨hfirst, hrest⟩
    exact ⟨List.forall_mem_append.mpr ⟨hfirst.items, hrest.items⟩,
      hstarts.mpr ⟨hfirst.starts, hrest.starts⟩⟩

theorem after_cons (options : FindOptions) (item : FindItem) (items : List FindItem)
    (dashed? : Option (List String)) :
    options.after ⟨item :: items, dashed?⟩ = (options.withItem item).after ⟨items, dashed?⟩ :=
  options.after_append [item] items dashed?

theorem admits_cons_iff {items : List FindItem} {dashed? : Option (List String)} :
    options.Admits ⟨item :: items, dashed?⟩ ↔
      options.Admits ⟨[item], none⟩ ∧ (options.withItem item).Admits ⟨items, dashed?⟩ :=
  @admits_append_iff options [item] items dashed?

theorem after_nil (options : FindOptions) : options.after ⟨[], none⟩ = options := by
  simp [after, FindRequest.starts]

theorem admits_nil (options : FindOptions) : options.Admits ⟨[], none⟩ := by
  refine ⟨fun _ h => (nomatch h), ?_⟩
  cases hpath : options.path? <;> simp [FindRequest.starts]

/-- An item that is no path leaves room for one. -/
theorem admits_of_no_start (h : item.Proper) (hstart : item.start? = none) :
    options.Admits ⟨[item], none⟩ := by
  refine ⟨List.forall_mem_singleton.mpr h, ?_⟩
  cases hpath : options.path? <;> simp [FindRequest.starts, hstart]

theorem admits_start {path : String} (h : Text.startsWith path "-" = false)
    (hnone : options.path? = none) : options.Admits ⟨[.start path], none⟩ := by
  refine ⟨List.forall_mem_singleton.mpr h, ?_⟩
  simp [FindRequest.starts, FindItem.start?, hnone]

/-! ## One item -/

theorem withItem_long (options : FindOptions) :
    options.withItem .long = { options with long := true } := by
  simp [withItem, after, FindRequest.starts, FindItem.start?, FindItem.glob?, FindItem.kind?,
    FindItem.depth?]

theorem withItem_name (options : FindOptions) (glob : String) :
    options.withItem (.name glob) = { options with name := some glob } := by
  simp [withItem, after, FindRequest.starts, FindItem.start?, FindItem.glob?, FindItem.kind?,
    FindItem.depth?]

theorem withItem_kind {value : String} {kind : NodeKind}
    (h : (FindItem.kind value).kind? = some kind) (options : FindOptions) :
    options.withItem (.kind value) = { options with kind := some kind } := by
  simp [withItem, after, FindRequest.starts, FindItem.start?, FindItem.glob?, h, FindItem.depth?]

theorem withItem_depth {value : String} {steps : Int}
    (h : (FindItem.depth value).depth? = some steps) (options : FindOptions) :
    options.withItem (.depth value) = { options with depth := some steps } := by
  simp [withItem, after, FindRequest.starts, FindItem.start?, FindItem.glob?, FindItem.kind?, h]

theorem withItem_start (h : options.path? = none) (path : String) :
    options.withItem (.start path) = { options with path? := some path } := by
  simp [withItem, after, FindRequest.starts, FindItem.start?, FindItem.glob?, FindItem.kind?,
    FindItem.depth?, h]

theorem withPath_of_none (h : options.path? = none) (path : String) :
    options.withPath path = .ok { options with path? := some path } := by
  rw [withPath, h]

/-- An argument that does not begin with a dash is no option. -/
theorem readFrom_start {path : String} (h : Text.startsWith path "-" = false) (rest : List String) :
    options.readFrom (path :: rest) = options.withPath path >>= (readFrom · rest) := by
  have hne (word : String) (hword : Text.startsWith word "-" = true) : path ≠ word := by
    rintro rfl
    exact Bool.false_ne_true (h.symm.trans hword)
  rw [readFrom]
  · rw [h]
    rfl
  all_goals simp [hne "--" (by decide), hne "-ls" (by decide), hne "-name" (by decide),
    hne "-type" (by decide), hne "-maxdepth" (by decide)]

/-- A proper item is read as it is meant, unless it is a second path. -/
theorem readFrom_item (h : options.Admits ⟨[item], none⟩) (rest : List String) :
    options.readFrom (item.words ++ rest) = (options.withItem item).readFrom rest := by
  have hproper : item.Proper := List.forall_mem_singleton.mp h.items
  cases item with
  | long =>
    rw [withItem_long]
    rfl
  | name glob =>
    rw [withItem_name]
    rfl
  | kind value =>
    obtain ⟨kind, hkind⟩ := Option.isSome_iff_exists.mp hproper
    have hvalue : kindOf value = .ok kind := by rw [kindOf_eq, hkind]
    rw [withItem_kind hkind]
    show (kindOf value >>= fun kind => readFrom { options with kind := some kind } rest) = _
    rw [hvalue]
    rfl
  | depth value =>
    obtain ⟨steps, hsteps, hleast⟩ := hproper
    rw [withItem_depth hsteps]
    show (depthOf value >>= fun depth => readFrom { options with depth := some depth } rest) = _
    rw [depthOf_of_proper hsteps hleast]
    rfl
  | start path =>
    have hnone : options.path? = none := by
      have hstarts := h.starts
      cases hpath : options.path? with
      | none => rfl
      | some other => simp [hpath, FindRequest.starts, FindItem.start?] at hstarts
    rw [withItem_start hnone]
    show options.readFrom (path :: rest) = _
    rw [readFrom_start hproper, withPath_of_none hnone]
    rfl

/-- Proper items are read one after another. -/
theorem readFrom_items {items : List FindItem} (h : options.Admits ⟨items, none⟩)
    (rest : List String) :
    options.readFrom (items.flatMap FindItem.words ++ rest) =
      (options.after ⟨items, none⟩).readFrom rest := by
  induction items generalizing options with
  | nil => rw [after_nil, List.flatMap_nil, List.nil_append]
  | cons item items ih =>
    obtain ⟨hfirst, hrest⟩ := admits_cons_iff.mp h
    rw [List.flatMap_cons, List.append_assoc, readFrom_item hfirst, ih hrest, after_cons]

/-! ## Paths behind two dashes -/

theorem withPaths_eq (options : FindOptions) (paths : List String) :
    paths.foldlM withPath options =
      if (options.path?.toList ++ paths).length ≤ 1 then .ok (options.after ⟨[], some paths⟩)
      else .error (.findArguments .secondPath) := by
  induction paths generalizing options with
  | nil =>
    have hone : (options.path?.toList ++ []).length ≤ 1 := (admits_nil options).starts
    rw [if_pos hone]
    show Except.ok options = _
    simp [after, FindRequest.starts]
  | cons path rest ih =>
    rw [List.foldlM_cons]
    cases hpath : options.path? with
    | none =>
      rw [withPath_of_none hpath]
      show rest.foldlM withPath { options with path? := some path } = _
      rw [ih]
      simp [after, FindRequest.starts, hpath]
    | some other =>
      rw [withPath, hpath, if_neg (by simp)]
      rfl

theorem admits_paths_iff {paths : List String} :
    options.Admits ⟨[], some paths⟩ ↔ (options.path?.toList ++ paths).length ≤ 1 :=
  ⟨fun h => h.starts, fun h => ⟨fun _ hitem => (nomatch hitem), h⟩⟩

/-! ## Whole lists of arguments -/

/-- The items are proper up to a depth that is infinite. -/
def InfiniteDepth (options : FindOptions) (args : List String) : Prop :=
  ∃ items value rest negative, args = items.flatMap FindItem.words ++ "-maxdepth" :: value :: rest ∧
    options.Admits ⟨items, none⟩ ∧ Number.float? value = some (.infinite negative)

theorem readFrom_words (h : options.Admits request) :
    options.readFrom request.words = .ok (options.after request) := by
  obtain ⟨items, dashed?⟩ := request
  cases dashed? with
  | none =>
    show options.readFrom (items.flatMap FindItem.words ++ []) = _
    rw [readFrom_items h]
    rfl
  | some paths =>
    rw [← List.append_nil items] at h ⊢
    obtain ⟨hitems, hpaths⟩ := admits_append_iff.mp h
    show options.readFrom ((items ++ []).flatMap FindItem.words ++ "--" :: paths) = _
    rw [List.append_nil, readFrom_items hitems]
    show paths.foldlM withPath _ = _
    rw [withPaths_eq, if_pos (admits_paths_iff.mp hpaths), ← after_append, List.append_nil]

theorem readFrom_infinite (h : options.InfiniteDepth args) :
    options.readFrom args = .error .infiniteInteger := by
  obtain ⟨items, value, rest, negative, rfl, hitems, hvalue⟩ := h
  rw [readFrom_items hitems]
  show (depthOf value >>= _) = _
  rw [depthOf_of_infinite hvalue]
  rfl

/-- Arguments are those of a request, or have an infinite depth, or else a mistake. -/
def Settled (options : FindOptions) (args : List String) : Prop :=
  (∃ request, options.Admits request ∧ request.words = args) ∨ options.InfiniteDepth args ∨
    ∃ mistake, options.readFrom args = .error (.findArguments mistake)

theorem Settled.cons (item : FindItem) (hitem : options.Admits ⟨[item], none⟩)
    (h : (options.withItem item).Settled rest) : options.Settled (item.words ++ rest) := by
  rcases h with ⟨⟨items, dashed?⟩, hrequest, rfl⟩ |
    ⟨items, value, more, negative, rfl, hitems, hvalue⟩ | ⟨mistake, hmistake⟩
  · refine .inl ⟨⟨item :: items, dashed?⟩, admits_cons_iff.mpr ⟨hitem, hrequest⟩, ?_⟩
    exact List.append_assoc _ _ _
  · refine .inr (.inl ⟨item :: items, value, more, negative, ?_,
      admits_cons_iff.mpr ⟨hitem, hitems⟩, hvalue⟩)
    exact (List.append_assoc _ _ _).symm
  · exact .inr (.inr ⟨mistake, (readFrom_item hitem rest).trans hmistake⟩)

theorem settled_readFrom (options : FindOptions) (args : List String) : options.Settled args := by
  fun_induction readFrom options args with
  | case1 options => exact .inl ⟨⟨[], none⟩, admits_nil options, rfl⟩
  | case2 options rest =>
    by_cases hpaths : (options.path?.toList ++ rest).length ≤ 1
    · exact .inl ⟨⟨[], some rest⟩, admits_paths_iff.mpr hpaths, rfl⟩
    · exact .inr (.inr ⟨.secondPath, (withPaths_eq options rest).trans (if_neg hpaths)⟩)
  | case3 options rest ih =>
    rw [← withItem_long] at ih
    exact Settled.cons .long (admits_of_no_start trivial rfl) ih
  | case5 options glob rest ih =>
    rw [← withItem_name] at ih
    exact Settled.cons (.name glob) (admits_of_no_start trivial rfl) ih
  | case7 options value rest ih =>
    cases hkind : (FindItem.kind value).kind? with
    | none =>
      refine .inr (.inr ⟨.badKind, ?_⟩)
      show (kindOf value >>= _) = _
      rw [kindOf_eq, hkind]
      rfl
    | some kind =>
      have hrest := ih kind
      rw [← withItem_kind hkind] at hrest
      exact Settled.cons (.kind value)
        (admits_of_no_start (Option.isSome_iff_exists.mpr ⟨kind, hkind⟩) rfl) hrest
  | case9 options value rest ih =>
    rcases depthOf_cases value with ⟨steps, hsteps, hleast⟩ | ⟨negative, hvalue⟩ | hmistake
    · have hrest := ih steps
      rw [← withItem_depth hsteps] at hrest
      exact Settled.cons (.depth value) (admits_of_no_start ⟨steps, hsteps, hleast⟩ rfl) hrest
    · exact .inr (.inl ⟨[], value, rest, negative, rfl, admits_nil options, hvalue⟩)
    · refine .inr (.inr ⟨.badDepth, ?_⟩)
      show (depthOf value >>= _) = _
      rw [hmistake]
      rfl
  | case11 options path rest _ _ _ _ _ _ _ _ hstart ih =>
    have hstart : Text.startsWith path "-" = false := by simpa using hstart
    cases hpath : options.path? with
    | none =>
      have hrest := ih { options with path? := some path }
      rw [← withItem_start hpath] at hrest
      exact Settled.cons (.start path) (admits_start hstart hpath) hrest
    | some other =>
      refine .inr (.inr ⟨.secondPath, ?_⟩)
      rw [readFrom_start hstart, withPath, hpath]
      rfl
  | case10 options option rest _ _ _ _ _ _ _ _ hdash =>
    refine .inr (.inr ⟨.unknownOption option, ?_⟩)
    rw [readFrom, if_pos hdash] <;> assumption
  | case4 | case6 | case8 => exact .inr (.inr ⟨_, rfl⟩)

theorem after_empty (request : FindRequest) :
    ({} : FindOptions).after request = request.options := by
  simp [FindRequest.options, after]

theorem admits_empty_iff : ({} : FindOptions).Admits request ↔ request.Proper :=
  ⟨fun h => ⟨h.items, h.starts⟩, fun h => ⟨h.items, h.starts⟩⟩

theorem read_of_request (h : request.Proper) : read request.words = .ok request.options := by
  rw [read, readFrom_words (admits_empty_iff.mpr h), after_empty]

/-- A mistake in the arguments is told together with the usage. -/
theorem run_find_of_mistake {mistake : FindMistake}
    (h : read args = .error (.findArguments mistake)) (s : Session) :
    (Shell.find args).run s = (.ok (.failure (some (.findArguments mistake))),
      s.printed [mistake.text, Shell.findUsage]) := by
  refine Shell.Prints.run ?_
  rw [Shell.find, h]
  exact (Shell.prints_print s _).bind ((Shell.prints_print s _).returning _)

/-- **The arguments of `find`.** They are read if and only if they are those of a proper request,
and then as what is asked for in it, of each kind of option the last; a depth that is read counts
steps. All other arguments are told to be a mistake, together with the usage, but for those with an
infinite depth, which stop the command. -/
theorem read_as_requested (args : List String) :
    (∀ options, read args = .ok options ↔
      ∃ request : FindRequest, request.words = args ∧ request.Proper ∧
        request.options = options) ∧
    (∀ options, read args = .ok options → ∀ most ∈ options.depth, 0 ≤ most) ∧
    (read args = .error .infiniteInteger ↔ InfiniteDepth {} args) ∧
    ((¬ ∃ request : FindRequest, request.words = args ∧ request.Proper) →
      ¬ InfiniteDepth {} args →
      ∃ mistake, read args = .error (.findArguments mistake) ∧
        ∀ s, (Shell.find args).run s = (.ok (.failure (some (.findArguments mistake))),
          s.printed [mistake.text, Shell.findUsage])) := by
  have hsettled := settled_readFrom {} args
  simp only [Settled, admits_empty_iff] at hsettled
  refine ⟨fun options => ⟨fun hread => ?_, ?_⟩, fun _ => nonneg_of_read, ⟨fun hread => ?_,
    readFrom_infinite⟩, fun hrequest hinfinite => ?_⟩
  · rcases hsettled with ⟨request, hproper, rfl⟩ | hinfinite | ⟨mistake, hmistake⟩
    · exact ⟨request, rfl, hproper, Except.ok.inj ((read_of_request hproper).symm.trans hread)⟩
    · cases hread.symm.trans (readFrom_infinite hinfinite)
    · cases hread.symm.trans hmistake
  · rintro ⟨request, rfl, hproper, rfl⟩
    exact read_of_request hproper
  · rcases hsettled with ⟨request, hproper, rfl⟩ | hinfinite | ⟨mistake, hmistake⟩
    · cases hread.symm.trans (read_of_request hproper)
    · exact hinfinite
    · cases hread.symm.trans hmistake
  · rcases hsettled with ⟨request, hproper, hwords⟩ | hthere | ⟨mistake, hmistake⟩
    · exact absurd ⟨request, hwords, hproper⟩ hrequest
    · exact absurd hthere hinfinite
    · exact ⟨mistake, hmistake, run_find_of_mistake hmistake⟩

/-- Two dashes for a pattern, a depth that is replaced, a kind in a capital letter, and a path that
looks like an option; and on the other hand a depth that is no number. -/
theorem read_as_requested_mixed :
    (∃ request : FindRequest, request.words = ["-name", "--", "-maxdepth", "3.9", "-type", "D",
        "-maxdepth", "1_0", "--", "-x"] ∧ request.Proper ∧
      request.options = ⟨some "-x", false, some "--", some .folder, some 10⟩) ∧
    ∃ mistake, read ["-maxdepth", "nan"] = .error (.findArguments mistake) ∧
      ∀ s, (Shell.find ["-maxdepth", "nan"]).run s =
        (.ok (.failure (some (.findArguments mistake))),
          s.printed [mistake.text, Shell.findUsage]) := by
  have hread : read ["-name", "--", "-maxdepth", "3.9", "-type", "D", "-maxdepth", "1_0", "--",
      "-x"] = .ok ⟨some "-x", false, some "--", some .folder, some 10⟩ := rfl
  have hnan : read ["-maxdepth", "nan"] = .error (.findArguments .badDepth) := rfl
  obtain ⟨hiff, -, hinfinite, hmistake⟩ := read_as_requested ["-maxdepth", "nan"]
  refine ⟨((read_as_requested _).1 _).mp hread, hmistake ?_ fun h => ?_⟩
  · rintro ⟨request, hwords, hproper⟩
    cases hnan.symm.trans ((hiff _).mpr ⟨request, hwords, hproper, rfl⟩)
  · cases hnan.symm.trans (hinfinite.mpr h)

/-- An infinite depth is not told to be a mistake, and the arguments are not read either. -/
theorem not_mistaken_infinite_depth :
    read ["-maxdepth", "inf"] = .error .infiniteInteger ∧
      ¬ ∀ args, (∃ options, read args = .ok options) ∨
        ∃ mistake, read args = .error (.findArguments mistake) := by
  have hread : read ["-maxdepth", "inf"] = .error .infiniteInteger := rfl
  refine ⟨hread, fun hall => ?_⟩
  rcases hall ["-maxdepth", "inf"] with ⟨options, hok⟩ | ⟨mistake, hmistake⟩
  · cases hread.symm.trans hok
  · cases hread.symm.trans hmistake

end FindOptions

end TreeShell
