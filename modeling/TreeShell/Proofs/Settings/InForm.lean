import TreeShell.Proofs.Fields
import TreeShell.Proofs.Json.RoundTrip
import TreeShell.Proofs.Settings.Loading

/-!
# Environments in form

An environment is *in form* if it is what reading its own files gives: nothing in it would be passed
over, completed or dropped. So this is where the four ways to bring something into form meet. Items
of the search path that are no strings are left out, and the folder of programs is added; aliases
for what is no string are left out; the history is cut to its bound; and display settings are put
over the default ones, of which none is missing then.

That an environment in form is read back (`pathOf_searchDocument` and the others) is one half of the
matter, and that every change leaves it in form the other.
-/

set_option autoImplicit false

namespace TreeShell

namespace Environment

variable {e : Environment} {config : ShellConfig}

/-- The names of the display settings that are always there. -/
def displayNames : List String :=
  ["prompt_user", "prompt_host", "prompt_user_color", "prompt_path_color", logoSetting]

theorem names_defaultDisplay (config : ShellConfig) :
    Fields.names (defaultDisplay config) = displayNames := rfl

/-- Display settings that hold all that is needed, each once, in a form that can be written. -/
structure DisplayInForm (display : Fields Json) : Prop where
  settings : displayNames <+: display.names
  nodup : display.names.Nodup
  regular : ∀ setting ∈ display, setting.2.Regular

/-- An environment whose search path, aliases and display settings their documents give again. -/
structure Spelled (e : Environment) : Prop where
  path : ∀ item ∈ e.path, ∃ folder, item = .string folder
  programs : .string programFolder ∈ e.path
  aliases : Fields.names e.aliases |>.Nodup
  display : DisplayInForm e.display

/-- An environment that its own files give again. -/
structure InForm (e : Environment) : Prop extends Spelled e where
  history : (e.history.length : Int) ≤ e.historyLimit
  limit_pos : 0 < e.historyLimit
  limit_length : Binary64.decimalLength e.historyLimit.natAbs ≤ Number.maxIntegerDigits

/-! ## The documents of an environment -/

theorem regular_searchDocument (h : e.Spelled) : e.searchDocument.Regular := by
  have hnames : Fields.names (e.aliases.map fun a => (a.1, Json.string a.2)) =
      Fields.names e.aliases := by
    simp [Fields.names]
  have hpath : (Json.array e.path).Regular := by
    refine .array fun item hitem => ?_
    obtain ⟨folder, rfl⟩ := h.path item hitem
    exact .string folder
  have haliases : (Json.object (e.aliases.map fun a => (a.1, .string a.2))).Regular := by
    refine .object (hnames ▸ h.aliases) fun member hmember => ?_
    obtain ⟨a, -, rfl⟩ := List.mem_map.mp hmember
    exact .string a.2
  refine .object (by simp [Fields.names]) fun member hmember => ?_
  simp only [List.mem_cons, List.not_mem_nil, or_false] at hmember
  rcases hmember with rfl | rfl
  · exact hpath
  · exact haliases

theorem regular_historyDocument (e : Environment) : e.historyDocument.Regular := by
  refine .array fun item hitem => ?_
  obtain ⟨line, -, rfl⟩ := List.mem_map.mp hitem
  exact .string line

theorem regular_displayDocument (h : e.Spelled) : e.displayDocument.Regular :=
  .object h.display.nodup h.display.regular

/-! ## Reading them -/

/-- A search path of strings is left as it is. -/
theorem map_strings {path : SearchPath} (h : ∀ item ∈ path, ∃ folder, item = .string folder) :
    (Json.strings path).map .string = path := by
  induction path with
  | nil => rfl
  | cons item path ih =>
    obtain ⟨folder, rfl⟩ := h item List.mem_cons_self
    have hrest := ih fun other hother => h other (List.mem_cons_of_mem _ hother)
    exact congrArg (Json.string folder :: ·) hrest

theorem withFolder_of_mem {folder : String} {path : SearchPath} (h : .string folder ∈ path) :
    withFolder folder path = path :=
  if_pos (List.any_eq_true.mpr ⟨_, h, by simp [Json.isString]⟩)

theorem pathOf_searchDocument (h : e.Spelled) (config : ShellConfig) :
    withFolder programFolder (pathOf config e.searchDocument) = e.path := by
  have hpath : pathOf config e.searchDocument = e.path := by
    simpa [pathOf, searchDocument, Json.get?, Fields.get?] using map_strings h.path
  rw [hpath, withFolder_of_mem h.programs]

theorem aliasesOf_searchDocument (e : Environment) : aliasesOf e.searchDocument = e.aliases := by
  simp [aliasesOf, searchDocument, Json.get?, Fields.get?, List.lookup_cons, Json.string?,
    List.filterMap_map]

theorem historyOf?_historyDocument (e : Environment) :
    historyOf? e.historyDocument = some e.history :=
  congrArg some (Snapshot.strings_map_string _)

theorem displayOf_displayDocument (h : e.Spelled) (config : ShellConfig) :
    displayOf config e.displayDocument = e.display :=
  Fields.update_eq h.display.nodup h.display.settings

theorem bounded_eq_self (h : (e.history.length : Int) ≤ e.historyLimit) : e.bounded = e := by
  have hnone : ((e.history.length : Int) - e.historyLimit).toNat = 0 := by omega
  rw [bounded, hnone, List.drop_zero]

/-! ## What is brought into form -/

theorem strings_withFolder {path : SearchPath} (h : ∀ item ∈ path, ∃ folder, item = .string folder)
    (folder : String) : ∀ item ∈ withFolder folder path, ∃ folder, item = .string folder := by
  unfold withFolder
  split
  · exact h
  · intro item hitem
    rcases List.mem_append.mp hitem with hitem | hitem
    · exact h item hitem
    · exact ⟨folder, List.mem_singleton.mp hitem⟩

theorem strings_pathOf (config : ShellConfig) (document : Json) :
    ∀ item ∈ pathOf config document, ∃ folder, item = .string folder := by
  have hmap (folders : List String) :
      ∀ item ∈ folders.map Json.string, ∃ folder, item = .string folder := by
    intro item hitem
    obtain ⟨folder, -, hfolder⟩ := List.mem_map.mp hitem
    exact ⟨folder, hfolder.symm⟩
  unfold pathOf
  split
  · exact hmap _
  · exact hmap _

theorem nodup_aliasesOf {document : Json} (h : document.Regular) :
    (Fields.names (aliasesOf document)).Nodup := by
  unfold aliasesOf
  split
  · rename_i members hget
    cases h.get? hget with
    | object hnames => exact hnames.sublist (Fields.names_filterMap_sublist _ _)
  · exact List.nodup_nil

theorem length_bounded_le (hlimit : 0 ≤ e.historyLimit) :
    (e.bounded.history.length : Int) ≤ e.historyLimit := by
  simp only [bounded, List.length_drop]
  omega

theorem regular_defaultDisplay (config : ShellConfig) :
    ∀ setting ∈ defaultDisplay config, setting.2.Regular := by
  intro setting hsetting
  simp only [defaultDisplay, List.mem_cons, List.not_mem_nil, or_false] at hsetting
  rcases hsetting with rfl | rfl | rfl | rfl | rfl
  · exact .string _
  · exact .string _
  · exact .string _
  · exact .string _
  · exact .bool true

theorem displayInForm_default (config : ShellConfig) : DisplayInForm (defaultDisplay config) where
  settings := List.prefix_rfl
  nodup := by
    rw [names_defaultDisplay]
    decide
  regular := regular_defaultDisplay config

theorem displayInForm_displayOf (config : ShellConfig) {document : Json} (h : document.Regular) :
    DisplayInForm (displayOf config document) := by
  have hdefault := displayInForm_default config
  cases h with
  | object hnames hmembers =>
    refine ⟨hdefault.settings.trans (Fields.prefix_names_update _ _),
      Fields.nodup_names_update hdefault.nodup _, ?_⟩
    intro setting hsetting
    rcases Fields.mem_update hsetting with hsetting | hsetting
    · exact hdefault.regular setting hsetting
    · exact hmembers setting hsetting
  | _ => exact hdefault

/-! ## Changes leave an environment in form -/

theorem Spelled.setAlias (h : e.Spelled) (name target : String) :
    Spelled { e with aliases := Fields.set e.aliases name target } :=
  { h with aliases := Fields.nodup_names_set h.aliases name target }

theorem Spelled.removeAlias (h : e.Spelled) (name : String) :
    Spelled { e with aliases := Fields.erase e.aliases name } :=
  { h with aliases := Fields.nodup_names_erase h.aliases name }

/-- What a user wrote for a setting can be written and read back. -/
theorem regular_readSetting (name : String) (current : Option Json) (text : String) :
    (readSetting name current text).Regular := by
  unfold readSetting
  split_ifs
  · exact .bool _
  · split
    · exact .bool _
    · split
      · rename_i hread
        exact .int (Number.decimalLength_of_integer hread)
      · exact .string _
    · split
      · rename_i hread
        exact .float (Number.isCanonical_of_float? hread)
      · exact .string _
    · exact .string _

theorem Spelled.setDisplay (h : e.Spelled) (name text : String) :
    Spelled { e with
      display :=
        Fields.set e.display name (readSetting name (Fields.get? e.display name) text) } := by
  refine { h with display := ⟨?_, ?_, ?_⟩ }
  · exact h.display.settings.trans (Fields.prefix_names_set _ _ _)
  · exact Fields.nodup_names_set h.display.nodup _ _
  · exact Json.regular_set h.display.regular (regular_readSetting _ _ _) name

theorem Spelled.resetDisplay (h : e.Spelled) (config : ShellConfig) :
    Spelled { e with display := defaultDisplay config } :=
  { h with display := displayInForm_default config }

theorem Spelled.ensureOnPath (h : e.Spelled) (folder : String) :
    Spelled { e with path := withFolder folder e.path } where
  __ := h
  path := strings_withFolder h.path folder
  programs := by
    unfold withFolder
    split
    · exact h.programs
    · exact List.mem_append_left _ h.programs

theorem InForm.setAlias (h : e.InForm) (name target : String) :
    InForm { e with aliases := Fields.set e.aliases name target } :=
  { h with toSpelled := h.toSpelled.setAlias name target }

theorem InForm.removeAlias (h : e.InForm) (name : String) :
    InForm { e with aliases := Fields.erase e.aliases name } :=
  { h with toSpelled := h.toSpelled.removeAlias name }

/-- A line more is kept, and the first ones may be dropped for it. -/
theorem InForm.remember? {next : Environment} {line : String} (h : e.InForm)
    (hnext : e.remember? line = some next) : next.bounded.InForm := by
  simp only [Environment.remember?] at hnext
  split_ifs at hnext
  cases hnext
  exact { h with history := length_bounded_le h.limit_pos.le }

theorem InForm.setDisplay (h : e.InForm) (name text : String) :
    InForm { e with
      display :=
        Fields.set e.display name (readSetting name (Fields.get? e.display name) text) } :=
  { h with toSpelled := h.toSpelled.setDisplay name text }

theorem InForm.resetDisplay (h : e.InForm) (config : ShellConfig) :
    InForm { e with display := defaultDisplay config } :=
  { h with toSpelled := h.toSpelled.resetDisplay config }

theorem InForm.ensureOnPath (h : e.InForm) (folder : String) :
    InForm { e with path := withFolder folder e.path } :=
  { h with toSpelled := h.toSpelled.ensureOnPath folder }

end Environment

namespace SettingsTexts

variable {texts : SettingsTexts} {config : ShellConfig}

theorem regular_document (texts : SettingsTexts) (file : SettingsFile) :
    (texts.document file).Regular := by
  unfold document
  split
  · rename_i text _
    cases hparse : Json.parse text with
    | ok document => exact Json.regular_of_parse hparse
    | error e => exact .null
  · exact .null

theorem decimalLength_limit (hfree : ∀ e, ¬ texts.LimitObstructs config e) :
    Binary64.decimalLength (texts.limit config).natAbs ≤ Number.maxIntegerDigits := by
  unfold limit
  cases hlimit : texts.recordedLimit with
  | error e => exact absurd (.unreadable hlimit) (hfree e)
  | ok limit? =>
    cases limit? with
    | some limit => exact (bounds_of_recordedLimit hlimit).2
    | none =>
      by_contra hlong
      refine hfree .tooLongToWrite (.unwritable hlimit ?_)
      rw [Number.integerText, if_pos (Nat.lt_of_not_le hlong)]

/-- **What is loaded is in form.** -/
theorem inForm_environment (hpositive : 0 < config.historyLimit)
    (hfree : ∀ e, ¬ texts.LimitObstructs config e) (earlier : List String) :
    (texts.environment config earlier).InForm where
  path := Environment.strings_withFolder (Environment.strings_pathOf config _) programFolder
  programs := Environment.mem_withFolder _ _
  aliases := Environment.nodup_aliasesOf (texts.regular_document .search)
  history := Environment.length_bounded_le (limit_pos hpositive).le
  limit_pos := limit_pos hpositive
  limit_length := decimalLength_limit hfree
  display := Environment.displayInForm_displayOf config (texts.regular_document .display)

end SettingsTexts

/-! ## Files that are up to date -/

/-- A text for a settings file that gives its part of an environment. -/
def SettingsFile.Tells (e : Environment) (text : String) : SettingsFile → Prop
  | limit => Shell.limitOfText text = .ok (some e.historyLimit)
  | history => text = e.historyDocument.indented
  | display => text = e.displayDocument.indented
  | search => text = e.searchDocument.indented

namespace SettingsTexts

variable {texts : SettingsTexts} {e : Environment} {file : SettingsFile} {document : Json}

/-- A file in which a document was written gives it again. -/
theorem document_of_indented (htext : texts file = some document.indented)
    (hregular : document.Regular) : texts.document file = document := by
  rw [SettingsTexts.document, htext]
  simp only [Json.parse_indented hregular, Except.toOption, Option.getD_some]

theorem not_tooLong_of_indented (htext : texts file = some document.indented)
    (hregular : document.Regular) (digits : Nat) : ¬ texts.TooLong file digits := by
  rintro ⟨text, htext', hnumber⟩
  cases htext.symm.trans htext'
  cases (Json.parse_indented hregular).symm.trans hnumber

/-- Documents that are up to date give their parts again, whatever history there was before; and
nothing in them obstructs. -/
theorem environment_of_documents {config : ShellConfig} (h : e.Spelled) (hbounded : e.bounded = e)
    (hlimit : texts.limit config = e.historyLimit)
    (hhistory : texts .history = some e.historyDocument.indented)
    (hdisplay : texts .display = some e.displayDocument.indented)
    (hsearch : texts .search = some e.searchDocument.indented) (earlier : List String) :
    texts.environment config earlier = e ∧
      ∀ file digits, file ≠ .limit → ¬ texts.TooLong file digits := by
  have hregularHistory := Environment.regular_historyDocument e
  have hregularDisplay := Environment.regular_displayDocument h
  have hregularSearch := Environment.regular_searchDocument h
  refine ⟨?_, ?_⟩
  · rw [environment, document_of_indented hhistory hregularHistory,
      document_of_indented hdisplay hregularDisplay, document_of_indented hsearch hregularSearch,
      Environment.pathOf_searchDocument h, Environment.aliasesOf_searchDocument,
      Environment.historyOf?_historyDocument, Environment.displayOf_displayDocument h, hlimit]
    exact hbounded
  · intro file digits hfile
    cases file with
    | limit => exact absurd rfl hfile
    | history => exact not_tooLong_of_indented hhistory hregularHistory digits
    | display => exact not_tooLong_of_indented hdisplay hregularDisplay digits
    | search => exact not_tooLong_of_indented hsearch hregularSearch digits

/-- **Files that are up to date give the environment again**, whatever the defaults are and whatever
history there was before; and nothing in them obstructs. -/
theorem environment_of_tells (h : e.InForm)
    (htells : ∀ file, ∃ text, texts file = some text ∧ SettingsFile.Tells e text file)
    (config : ShellConfig) (earlier : List String) :
    texts.environment config earlier = e ∧ texts.recordedLimit = .ok (some e.historyLimit) ∧
      ∀ file digits, file ≠ .limit → ¬ texts.TooLong file digits := by
  obtain ⟨limit, hlimit, hlimitTells⟩ := htells .limit
  obtain ⟨_, hhistory, rfl⟩ := htells .history
  obtain ⟨_, hdisplay, rfl⟩ := htells .display
  obtain ⟨_, hsearch, rfl⟩ := htells .search
  have hrecorded : texts.recordedLimit = .ok (some e.historyLimit) := by
    rw [recordedLimit, hlimit]
    exact hlimitTells
  have hsame : texts.limit config = e.historyLimit := by
    rw [SettingsTexts.limit, hrecorded]
  obtain ⟨henvironment, hshort⟩ := environment_of_documents h.toSpelled
    (Environment.bounded_eq_self h.history) hsame hhistory hdisplay hsearch earlier
  exact ⟨henvironment, hrecorded, hshort⟩

end SettingsTexts

end TreeShell
