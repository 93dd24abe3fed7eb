import TreeShell.Proofs.Record.RoundTrip
import TreeShell.FileSystem

/-!
# Which records a file system opens over

A record can be anything, since the store may have been written by anyone. A file system that meets
one it cannot read starts afresh (`FileSystem.held`), with two exceptions, and `Blocked` says which
records they are. One is a text with a whole number that is too long to be read. The other is a tree
with something in the place of a file that is no object at all (`StrayFile`): a folder in that
position is refused and forgiven, and so is a file without a name, but a plain number is neither.

Reading stops at the first thing that is wrong, the folders of a folder coming before its files. So
a stray item counts only if everything that is read before it can be read, and `StrayFile` says so
at every folder on the way down to it. `Folder.ofJson_eq_fileNotObject_iff` is the equivalence, by
induction on the document in one direction and on the way down in the other.
-/

set_option autoImplicit false

namespace TreeShell

/-! ## Lists of results -/

/-- A list of results is an error where the first error is. -/
theorem collect_eq_error {α β ε : Type} {f : α → Except ε β} {before after : List α} {a : α}
    {e : ε} (hbefore : ∃ done, collect f before = .ok done) (ha : f a = .error e) :
    collect f (before ++ a :: after) = .error e := by
  obtain ⟨done, hdone⟩ := hbefore
  induction before generalizing done with
  | nil => simp [collect, ha]
  | cons first rest ih =>
    rw [collect] at hdone
    rw [List.cons_append, collect]
    cases hfirst : f first with
    | error other =>
      rw [hfirst] at hdone
      cases hdone
    | ok b =>
      rw [hfirst] at hdone
      cases hrest : collect f rest with
      | error other =>
        rw [hrest] at hdone
        cases hdone
      | ok others => rw [ih others hrest]; rfl

theorem exists_of_collect_eq_error {α β ε : Type} {f : α → Except ε β} {l : List α} {e : ε}
    (h : collect f l = .error e) :
    ∃ before a after, l = before ++ a :: after ∧ (∃ done, collect f before = .ok done) ∧
      f a = .error e := by
  induction l with
  | nil => cases h
  | cons a rest ih =>
    rw [collect] at h
    cases ha : f a with
    | error other =>
      rw [ha] at h
      cases h
      exact ⟨[], a, rest, rfl, ⟨[], rfl⟩, ha⟩
    | ok b =>
      rw [ha] at h
      cases hrest : collect f rest with
      | ok others =>
        rw [hrest] at h
        cases h
      | error other =>
        rw [hrest] at h
        cases h
        obtain ⟨before, stop, after, rfl, ⟨done, hdone⟩, hstop⟩ := ih hrest
        refine ⟨a :: before, stop, after, rfl, ⟨b :: done, ?_⟩, hstop⟩
        simp [collect, ha, hdone, Except.map]

/-! ## Files and folders in a document -/

/-- Only what is no object is refused for being none. -/
theorem File.ofJson_eq_fileNotObject_iff {item : Json} :
    File.ofJson item = .error .fileNotObject ↔ ∀ members, item ≠ .object members := by
  cases item with
  | object members =>
    refine iff_of_false (fun h => ?_) fun h => h members rfl
    simp only [File.ofJson] at h
    split at h
    · split at h
      · cases h
      · split at h <;> cases h
    · cases h
  | _ => exact iff_of_true rfl fun members h => Json.noConfusion h

namespace Folder

/-- The members of an object that is a folder in outline: its name and what is listed in it. What is
not named has no name, and what is not listed is not there. -/
structure Outline (members : List (String × Json)) (name : String) (folders files : List Json) :
    Prop where
  tag : Fields.get? members "type" = some (.string folderTag)
  name : (Fields.get? members "name").getD (.string "") = .string name
  folders : (Fields.get? members "folders").getD (.array []) = .array folders
  files : (Fields.get? members "files").getD (.array []) = .array files

variable {members : List (String × Json)} {name : String} {folders files : List Json}

/-- A folder in outline is read by reading the lists in it, folders first. -/
theorem Outline.ofJson_eq (h : Outline members name folders files) :
    ofJson (.object members) =
      (collect ofJson folders).bind fun folders =>
        (collect File.ofJson files).map fun files => ⟨name, folders, files⟩ := by
  have htag : ((Fields.get? members "type").getD .null).isString folderTag = true := by
    simp [h.tag, Json.isString]
  rw [ofJson, if_pos htag]
  simp only [h.name, h.files]
  split
  · rename_i hnone hfiles
    have hfolders := h.folders
    rw [hnone] at hfolders
    cases hfolders
    cases hfiles
    rfl
  · rename_i hsome hfiles
    have hfolders := h.folders
    rw [hsome] at hfolders
    cases hfolders
    cases hfiles
    rw [collect_attach ofJson]
    cases collect ofJson folders <;> rfl
  · rename_i hnone hsome
    have hfolders := h.folders
    cases hlisted : Fields.get? members "folders" with
    | none => exact (hnone files hlisted rfl).elim
    | some listed =>
      rw [hlisted] at hfolders
      cases hfolders
      exact (hsome folders files hlisted rfl).elim

/-- A folder that is listed is smaller than the folder it is listed in. -/
theorem Outline.sizeOf_folder_lt {before after : List Json} {child : Json}
    (h : Outline members name (before ++ child :: after) files) :
    sizeOf child < sizeOf (Json.object members) := by
  have hfolders := h.folders
  cases hlisted : Fields.get? members "folders" with
  | none => simp [hlisted] at hfolders
  | some listed =>
    rw [hlisted] at hfolders
    cases hfolders
    have hchild := List.sizeOf_lt_of_mem
      (show child ∈ before ++ child :: after by simp)
    have hmember := sizeOf_get?_lt hlisted
    simp at hmember ⊢
    omega

/-- What is no folder in outline is refused, and for another reason than a stray file. -/
theorem ofJson_ne_of_no_outline (h : ∀ name folders files, ¬ Outline members name folders files) :
    ofJson (.object members) ≠ .error .fileNotObject := by
  intro hstray
  rw [ofJson] at hstray
  split at hstray
  · rename_i hfolder
    have htag : Fields.get? members "type" = some (.string folderTag) := by
      revert hfolder
      cases Fields.get? members "type" with
      | none => simp [Json.isString]
      | some given => cases given <;> simp [Json.isString]
    split at hstray
    · rename_i name hname
      split at hstray
      · rename_i hnone hfiles
        exact h name [] _ ⟨htag, hname, by rw [hnone]; rfl, hfiles⟩
      · rename_i hsome hfiles
        exact h name _ _ ⟨htag, hname, by rw [hsome]; rfl, hfiles⟩
      · cases hstray
    · cases hstray
  · cases hstray

/-- A folder with something that is no object in the place of a file, in it or further down, and
nothing amiss in what is read before. -/
inductive StrayFile : Json → Prop
  | here {members : List (String × Json)} {name : String} {folders before after : List Json}
      {item : Json} (houtline : Outline members name folders (before ++ item :: after))
      (hfolders : ∃ done, collect ofJson folders = .ok done)
      (hbefore : ∃ done, collect File.ofJson before = .ok done)
      (hitem : ∀ members, item ≠ .object members) : StrayFile (.object members)
  | inside {members : List (String × Json)} {name : String} {before after files : List Json}
      {child : Json} (houtline : Outline members name (before ++ child :: after) files)
      (hbefore : ∃ done, collect ofJson before = .ok done) (hchild : StrayFile child) :
      StrayFile (.object members)

theorem StrayFile.tag {document : Json} (h : StrayFile document) :
    ((document.get? "type").getD .null).isString folderTag = true := by
  cases h with
  | here houtline => simp [Json.get?, houtline.tag, Json.isString]
  | inside houtline => simp [Json.get?, houtline.tag, Json.isString]

/-- What the reader does at a stray file, after it got there. -/
theorem StrayFile.ofJson_eq {document : Json} (h : StrayFile document) :
    ofJson document = .error .fileNotObject := by
  induction h with
  | here houtline hfolders hbefore hitem =>
    obtain ⟨done, hdone⟩ := hfolders
    rw [houtline.ofJson_eq, hdone,
      collect_eq_error hbefore (File.ofJson_eq_fileNotObject_iff.mpr hitem)]
    rfl
  | inside houtline hbefore hchild ih =>
    rw [houtline.ofJson_eq, collect_eq_error hbefore ih]
    rfl

/-- The way down to what the reader stopped at. -/
theorem strayFile_of_ofJson {document : Json} (h : ofJson document = .error .fileNotObject) :
    StrayFile document := by
  induction hsize : sizeOf document using Nat.strongRecOn generalizing document with
  | ind size ih =>
    subst hsize
    cases document with
    | object members =>
      by_cases houtline : ∃ name folders files, Outline members name folders files
      · obtain ⟨name, folders, files, houtline⟩ := houtline
        rw [houtline.ofJson_eq] at h
        cases hfolders : collect ofJson folders with
        | error other =>
          rw [hfolders] at h
          cases h
          obtain ⟨before, child, after, rfl, hbefore, hchild⟩ := exists_of_collect_eq_error hfolders
          exact .inside houtline hbefore (ih _ houtline.sizeOf_folder_lt hchild rfl)
        | ok done =>
          rw [hfolders] at h
          cases hfiles : collect File.ofJson files with
          | ok held =>
            rw [hfiles] at h
            cases h
          | error other =>
            rw [hfiles] at h
            cases h
            obtain ⟨before, item, after, rfl, hbefore, hitem⟩ := exists_of_collect_eq_error hfiles
            exact .here houtline ⟨done, hfolders⟩ hbefore
              (File.ofJson_eq_fileNotObject_iff.mp hitem)
      · exact (ofJson_ne_of_no_outline (fun name folders files hsome =>
          houtline ⟨name, folders, files, hsome⟩) h).elim
    | _ => simp [ofJson] at h

theorem ofJson_eq_fileNotObject_iff {document : Json} :
    ofJson document = .error .fileNotObject ↔ StrayFile document :=
  ⟨strayFile_of_ofJson, fun h => h.ofJson_eq⟩

end Folder

/-! ## Opening -/

/-- The tree of a snapshot is its root, and nothing else in its document is refused so. -/
theorem Snapshot.ofJson_eq_fileNotObject_iff {document : Json} :
    ofJson document = .error .fileNotObject ↔
      ∃ root, document.get? "root" = some root ∧ Folder.StrayFile root := by
  cases document with
  | object members =>
    rw [ofJson, Json.get?]
    cases Fields.get? members "root" with
    | none => simp [Json.get?, Json.isString]
    | some root =>
      simp only [Option.getD_some, Option.some.injEq, exists_eq_left']
      by_cases htag : ((root.get? "type").getD .null).isString folderTag = true
      · rw [if_pos htag, ← Folder.ofJson_eq_fileNotObject_iff]
        cases Folder.ofJson root <;> simp [Except.map]
      · rw [if_neg htag]
        exact iff_of_false (fun h => by cases h) fun hstray => htag hstray.tag
  | _ => simp [ofJson, Json.get?]

theorem RecordError.isForgiven_eq_false_iff {e : RecordError} :
    e.isForgiven = false ↔ e = .fileNotObject := by
  cases e <;> simp [isForgiven]

namespace FileSystem

/-- The snapshot that is recorded under a key: a fresh one, if what is there is none. -/
def recorded (store : Store) (key : String) : Snapshot :=
  match store.read key with
  | .error _ => .fresh
  | .ok document =>
    match Snapshot.ofJson document with
    | .error _ => .fresh
    | .ok snapshot => snapshot

/-- A record over which no file system opens, and the fault it stops with. -/
inductive Blocked (store : Store) (key : String) : Fault → Prop
  | number {digits : Nat} (hread : store.read key = .error (.integerTooLong digits)) :
      Blocked store key (.integer (.tooLong digits))
  | stray {document root : Json} (hread : store.read key = .ok document)
      (hroot : document.get? "root" = some root) (hstray : Folder.StrayFile root) :
      Blocked store key (.damagedRecord .fileNotObject)

/-- A document blocks exactly if it is refused and not forgiven. -/
theorem blocked_iff_of_read {store : Store} {key : String} {document : Json} {fault : Fault}
    (hread : store.read key = .ok document) :
    Blocked store key fault ↔
      Snapshot.ofJson document = .error .fileNotObject ∧ fault = .damagedRecord .fileNotObject := by
  rw [Snapshot.ofJson_eq_fileNotObject_iff]
  constructor
  · intro h
    cases h with
    | number hnumber => cases hread.symm.trans hnumber
    | stray hother hroot hstray =>
      cases hread.symm.trans hother
      exact ⟨⟨_, hroot, hstray⟩, rfl⟩
  · rintro ⟨⟨root, hroot, hstray⟩, rfl⟩
    exact .stray hread hroot hstray

/-- Null is no exception among the documents: it is refused and forgiven. -/
theorem load_of_read {store : Store} {key : String} {document : Json}
    (hread : store.read key = .ok document) :
    load store key = match Snapshot.ofJson document with
      | .ok snapshot => .ok snapshot
      | .error e => if e.isForgiven then .ok .fresh else .error (.damagedRecord e) := by
  unfold load
  rw [hread]
  cases document <;> rfl

/-- A record opens or blocks, and blocks with one fault. -/
theorem load_cases (store : Store) (key : String) :
    (load store key = .ok (recorded store key) ∧ ∀ fault, ¬ Blocked store key fault) ∨
      ∃ fault, load store key = .error fault ∧
        ∀ other, Blocked store key other ↔ other = fault := by
  cases hread : store.read key with
  | error e =>
    simp only [load, recorded, hread]
    cases e with
    | malformed =>
      refine Or.inl ⟨rfl, fun fault h => ?_⟩
      cases h with
      | number hnumber => cases hread.symm.trans hnumber
      | stray hother => cases hread.symm.trans hother
    | integerTooLong digits =>
      refine Or.inr ⟨_, rfl, fun other => ⟨fun h => ?_, fun h => h ▸ .number hread⟩⟩
      cases h with
      | number hnumber =>
        cases hread.symm.trans hnumber
        rfl
      | stray hother => cases hread.symm.trans hother
  | ok document =>
    simp only [load_of_read hread, recorded, hread, blocked_iff_of_read hread]
    cases Snapshot.ofJson document with
    | ok snapshot => exact Or.inl ⟨rfl, fun fault h => by cases h.1⟩
    | error e =>
      simp only [Except.error.injEq, ← RecordError.isForgiven_eq_false_iff]
      cases hforgiven : e.isForgiven with
      | true => exact Or.inl ⟨rfl, fun fault h => by cases h.1⟩
      | false =>
        cases RecordError.isForgiven_eq_false_iff.mp hforgiven
        exact Or.inr ⟨_, rfl, fun other => ⟨fun h => h.2, fun h => ⟨rfl, h⟩⟩⟩

/-- **A file system opens over whatever is recorded, unless it is blocked.** What it opens with is
what the record says, or nothing if it says nothing; and the two ways to be blocked are the only
ones. -/
theorem mount_opens_unless_blocked (store : Store) (key : String) :
    (mount store key = .ok ⟨recorded store key, some store, key⟩ ↔
        ∀ fault, ¬ Blocked store key fault) ∧
      ∀ fault, mount store key = .error fault ↔ Blocked store key fault := by
  unfold mount
  rcases load_cases store key with ⟨hload, hfree⟩ | ⟨fault, hload, hblocked⟩
  · rw [hload]
    exact ⟨iff_of_true rfl hfree, fun fault => iff_of_false (fun h => by cases h) (hfree fault)⟩
  · rw [hload]
    refine ⟨iff_of_false (fun h => by cases h) fun hfree => hfree fault ((hblocked fault).mpr rfl),
      fun other => ?_⟩
    rw [hblocked]
    exact ⟨fun h => (Except.error.inj h).symm, fun h => h ▸ rfl⟩

/-- A record in which a number stands among the files. -/
def damagedStore : Store :=
  Store.empty.put "vfs" (.text "\x7b\"root\": \x7b\"type\": \"folder\", \"files\": [1]\x7d\x7d")

theorem not_mount_damagedStore : ¬ ∃ files, mount damagedStore "vfs" = .ok files := by
  rintro ⟨files, hopen⟩
  have hstops : (mount damagedStore "vfs").toBool = false := by decide +kernel
  rw [hopen] at hstops
  cases hstops

end FileSystem

end TreeShell
