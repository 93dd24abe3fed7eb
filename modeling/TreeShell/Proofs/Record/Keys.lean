import Mathlib.Data.String.Basic
import TreeShell.Proofs.Pattern.Beginnings
import TreeShell.Proofs.Record.ByteOrder
import TreeShell.Store

/-!
# Listing the keys of a store

However a store came about, its keys are in ascending order, each of them once (`ordered_foldl`). So
the list of the keys with a prefix is put in the order of their bytes already, and what is left to
say is which keys are on it: all that begin with the prefix, and those that only differ from it in
the case of letters.
-/

set_option autoImplicit false

namespace TreeShell.Store

/-- A change of a store. -/
inductive Change where
  | put (key : String) (record : Record)
  | erase (key : String)

/-- A store after a change. -/
def change (store : Store) : Change → Store
  | .put key record => store.put key record
  | .erase key => store.erase key

/-- The keys are in ascending order. -/
def Ordered (store : Store) : Prop :=
  (store.records.map Prod.fst).Pairwise (· < ·)

theorem ordered_empty : empty.Ordered :=
  List.Pairwise.nil

theorem mem_map_insert {key other : String} {record : Record} {records : List (String × Record)} :
    other ∈ (insert key record records).map Prod.fst ↔
      other = key ∨ other ∈ records.map Prod.fst := by
  induction records with
  | nil => simp [insert]
  | cons held records ih =>
    rw [insert]
    split
    · rename_i heq
      simp [heq]
    · split
      · rw [List.map_cons, List.mem_cons]
      · rw [List.map_cons, List.mem_cons, ih, List.map_cons, List.mem_cons]
        exact or_left_comm

theorem pairwise_insert {key : String} {record : Record} {records : List (String × Record)}
    (h : (records.map Prod.fst).Pairwise (· < ·)) :
    ((insert key record records).map Prod.fst).Pairwise (· < ·) := by
  induction records with
  | nil => simp [insert]
  | cons held records ih =>
    rw [List.map_cons, List.pairwise_cons] at h
    rw [insert]
    split
    · rename_i heq
      rw [List.map_cons, List.pairwise_cons, heq]
      exact h
    · rename_i hne
      split
      · rename_i hlt
        rw [List.map_cons, List.map_cons, List.pairwise_cons, List.forall_mem_cons,
          List.pairwise_cons]
        exact ⟨⟨hlt, fun other hother => hlt.trans (h.1 other hother)⟩, h⟩
      · -- The key belongs further back, where all keys are after this one, and so is it.
        rename_i hlt
        have hafter : held.1 < key := lt_of_le_of_ne (not_lt.mp hlt) (Ne.symm hne)
        rw [List.map_cons, List.pairwise_cons]
        refine ⟨fun other hother => ?_, ih h.2⟩
        rcases mem_map_insert.mp hother with rfl | hother
        · exact hafter
        · exact h.1 other hother

theorem Ordered.change {store : Store} (h : store.Ordered) (change : Change) :
    (store.change change).Ordered := by
  cases change with
  | put key record => exact pairwise_insert h
  | erase key => exact h.sublist (List.filter_sublist.map Prod.fst)

/-- **Every store is in order.** -/
theorem ordered_foldl {store : Store} (h : store.Ordered) (changes : List Change) :
    (changes.foldl Store.change store).Ordered := by
  induction changes generalizing store with
  | nil => exact h
  | cons change changes ih => exact ih (h.change change)

theorem has_iff (store : Store) (key : String) :
    store.has key = true ↔ key ∈ store.records.map Prod.fst := by
  rw [has, get?, List.lookup_isSome_iff]
  simp

theorem mem_keys {store : Store} {start key : String} :
    key ∈ store.keys start ↔ store.has key = true ∧ Like.Begins start key := by
  rw [keys, List.mem_filter, Like.accepts_beginning, has_iff]

/-- **What is listed for a prefix.** The keys are listed in the order of their bytes in UTF-8, so
that none is listed twice. They are the stored keys that begin with the prefix, but for the case of
seven-bit letters and what is hidden by a zero character. All stored keys that begin with the prefix
itself are among them. With a prefix that has no letter and no zero character, whatever else is in
it, there are no others. -/
theorem keys_listed (changes : List Change) (start : String) :
    let store := changes.foldl Store.change empty
    (store.keys start).Pairwise (fun key later => bytes key < bytes later) ∧
      (∀ key, key ∈ store.keys start ↔ store.has key = true ∧ Like.Begins start key) ∧
      (∀ key, store.has key = true → start.toList <+: key.toList → key ∈ store.keys start) ∧
      ((∀ c ∈ start.toList, c.isAlpha = false ∧ c ≠ '\x00') →
        ∀ key, key ∈ store.keys start ↔ store.has key = true ∧ start.toList <+: key.toList) := by
  intro store
  have hordered : store.Ordered := ordered_foldl ordered_empty changes
  refine ⟨?_, fun key => mem_keys, fun key hkey hprefix => ?_, fun hplain key => ?_⟩
  · exact (hordered.sublist List.filter_sublist).imp fun hlt => bytes_lt hlt
  · exact mem_keys.mpr ⟨hkey, Like.begins_of_prefix hprefix⟩
  · rw [mem_keys, Like.begins_iff_prefix hplain]

/-- The characters with a meaning in a pattern have none in a prefix. -/
theorem keys_listed_marks :
    let changes := [Change.put "%_" (.text "1"), .put "%x" (.text "2"), .put "a_" (.text "3")]
    (∀ c ∈ "%_".toList, c.isAlpha = false ∧ c ≠ '\x00') ∧
      ∀ key, key ∈ (changes.foldl Store.change empty).keys "%_" ↔
        (changes.foldl Store.change empty).has key = true ∧ "%_".toList <+: key.toList := by
  have hplain : ∀ c ∈ "%_".toList, c.isAlpha = false ∧ c ≠ '\x00' := by
    intro c hc
    have hmark : c = '%' ∨ c = '_' := by simpa using hc
    rcases hmark with rfl | rfl <;> exact ⟨rfl, by decide⟩
  exact ⟨hplain, (keys_listed _ "%_").2.2.2 hplain⟩

/-- A prefix in small letters lists a key with a capital. -/
theorem not_keys_exact :
    ¬ ∀ (changes : List Change) (start key : String),
      key ∈ (changes.foldl Store.change empty).keys start ↔
        (changes.foldl Store.change empty).has key = true ∧ start.toList <+: key.toList := by
  intro h
  have halpha := (h [.put "Alpha" (.text "1")] "al" "Alpha").mp (by decide)
  exact absurd halpha.2 (by decide)

end TreeShell.Store
