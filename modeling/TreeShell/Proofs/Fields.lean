import Mathlib.Data.List.Nodup
import TreeShell.Fields

/-!
# Named values keep their names in order

Setting a value changes the names at most by one more at the end, so that names that are distinct
stay so, and names that come first stay first. Setting the values of fields that begin with the same
names gives just those fields (`update_eq`).
-/

set_option autoImplicit false

namespace TreeShell.Fields

variable {α : Type} {fields before more : Fields α} {name : String} {value : α}

@[simp]
theorem names_nil : names ([] : Fields α) = [] := rfl

@[simp]
theorem names_cons (field : String × α) (fields : Fields α) :
    names (field :: fields) = field.1 :: names fields := rfl

@[simp]
theorem names_append (fields more : Fields α) :
    names (fields ++ more) = names fields ++ names more :=
  List.map_append

/-- A name that is distinct from those before it. -/
theorem not_mem_of_nodup {field : String × α} (h : (names (before ++ field :: fields)).Nodup) :
    field.1 ∉ before.names := by
  rw [names_append, names_cons, List.nodup_append] at h
  exact fun hmem => h.2.2 _ hmem _ List.mem_cons_self rfl

/-! ## Setting a value -/

theorem set_append (h : name ∉ before.names) (fields : Fields α) (value : α) :
    set (before ++ fields) name value = before ++ set fields name value := by
  induction before with
  | nil => rfl
  | cons field before ih =>
    rw [names_cons, List.mem_cons, not_or] at h
    rw [List.cons_append, set, if_neg (Ne.symm h.1), ih h.2, List.cons_append]

theorem set_of_not_mem (h : name ∉ fields.names) (value : α) :
    set fields name value = fields ++ [(name, value)] := by
  rw [← List.append_nil fields, set_append h, List.append_nil]
  rfl

theorem names_set (fields : Fields α) (name : String) (value : α) :
    names (set fields name value) =
      if name ∈ fields.names then fields.names else fields.names ++ [name] := by
  induction fields with
  | nil => rfl
  | cons field fields ih =>
    rw [set]
    split
    · rename_i heq
      simp [heq]
    · rename_i hne
      simp only [names_cons, ih, List.mem_cons, Ne.symm hne, false_or]
      split <;> rfl

theorem prefix_names_set (fields : Fields α) (name : String) (value : α) :
    fields.names <+: names (set fields name value) := by
  rw [names_set]
  split
  · exact List.prefix_rfl
  · exact List.prefix_append _ _

theorem nodup_names_set (h : fields.names.Nodup) (name : String) (value : α) :
    (names (set fields name value)).Nodup := by
  rw [names_set]
  split
  · exact h
  · rename_i hname
    exact List.nodup_append.mpr ⟨h, List.nodup_singleton name, by
      rintro other hother _ hsame rfl
      exact hname (List.mem_singleton.mp hsame ▸ hother)⟩

theorem mem_set {field : String × α} (h : field ∈ set fields name value) :
    field = (name, value) ∨ field ∈ fields := by
  induction fields with
  | nil => exact Or.inl (List.mem_singleton.mp h)
  | cons other fields ih =>
    rw [set] at h
    split at h
    · rcases List.mem_cons.mp h with h | h
      · exact Or.inl h
      · exact Or.inr (List.mem_cons_of_mem _ h)
    · rcases List.mem_cons.mp h with h | h
      · exact Or.inr (h ▸ List.mem_cons_self)
      · exact (ih h).imp_right (List.mem_cons_of_mem _)

/-! ## Setting many values -/

theorem nodup_names_update (h : fields.names.Nodup) (more : Fields α) :
    (names (update fields more)).Nodup := by
  unfold update
  induction more generalizing fields with
  | nil => exact h
  | cons field more ih => exact ih (nodup_names_set h _ _)

theorem prefix_names_update (fields more : Fields α) :
    fields.names <+: names (update fields more) := by
  unfold update
  induction more generalizing fields with
  | nil => exact List.prefix_rfl
  | cons field more ih => exact (prefix_names_set fields _ _).trans (ih _)

theorem mem_update {field : String × α} (h : field ∈ update fields more) :
    field ∈ fields ∨ field ∈ more := by
  unfold update at h
  induction more generalizing fields with
  | nil => exact Or.inl h
  | cons other more ih =>
    rcases ih h with h | h
    · rcases mem_set h with rfl | h
      · exact Or.inr List.mem_cons_self
      · exact Or.inl h
    · exact Or.inr (List.mem_cons_of_mem _ h)

/-- The values of fields that were set already come first, in their order. -/
theorem update_append (hnodup : (before ++ more).names.Nodup)
    (hstart : fields.names <+: more.names) : update (before ++ fields) more = before ++ more := by
  unfold update
  induction more generalizing before fields with
  | nil =>
    have hnil : fields = [] := List.map_eq_nil_iff.mp (List.prefix_nil.mp hstart)
    rw [hnil, List.foldl_nil]
  | cons field more ih =>
    have hname : field.1 ∉ before.names := not_mem_of_nodup hnodup
    have hnodup' : ((before ++ [field]) ++ more).names.Nodup := by
      rwa [List.append_assoc]
    rw [List.foldl_cons, set_append hname]
    cases fields with
    | nil =>
      have hset : set ([] : Fields α) field.1 field.2 = [field] ++ [] := rfl
      have hnone : names ([] : Fields α) <+: names more := List.nil_prefix
      rw [hset, ← List.append_assoc, ih hnodup' hnone, List.append_assoc]
      rfl
    | cons old fields =>
      obtain ⟨hsame, hrest⟩ := List.cons_prefix_cons.mp hstart
      rw [set, if_pos hsame, List.append_cons, ih hnodup' hrest, List.append_assoc]
      rfl

/-- Fields that begin with the same names replace all values. -/
theorem update_eq (hnodup : more.names.Nodup) (hstart : fields.names <+: more.names) :
    update fields more = more :=
  @update_append α fields [] more hnodup hstart

/-! ## Removing a name -/

theorem nodup_names_erase (h : fields.names.Nodup) (name : String) :
    (names (erase fields name)).Nodup :=
  h.sublist (List.filter_sublist.map Prod.fst)

/-- Of the names only some are left where some values are left out. -/
theorem names_filterMap_sublist {β : Type} (f : α → Option β) (fields : Fields α) :
    (names (fields.filterMap fun field => (f field.2).map (field.1, ·))).Sublist fields.names := by
  induction fields with
  | nil => exact List.Sublist.slnil
  | cons field fields ih =>
    rw [List.filterMap_cons, names_cons]
    cases f field.2 with
    | none => exact ih.cons _
    | some value => exact ih.cons_cons _

theorem mem_of_get? (h : fields.get? name = some value) : (name, value) ∈ fields := by
  obtain ⟨before, after, rfl, -⟩ := List.lookup_eq_some_iff.mp h
  simp

theorem get?_of_mem (hnodup : fields.names.Nodup) (h : (name, value) ∈ fields) :
    fields.get? name = some value := by
  obtain ⟨before, after, rfl⟩ := List.append_of_mem h
  have hfirst : name ∉ names before := not_mem_of_nodup hnodup
  refine List.lookup_eq_some_iff.mpr ⟨before, after, rfl, fun field hfield => ?_⟩
  rw [bne_iff_ne]
  rintro rfl
  exact hfirst (List.mem_map_of_mem hfield)

end TreeShell.Fields
