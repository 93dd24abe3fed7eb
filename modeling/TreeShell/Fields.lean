/-!
# Named values in the order of their first naming

A list of pairs with distinct names, in which a name keeps its place when its value is replaced.
Objects of documents, aliases and display settings are kept this way, because the order shows when
they are written out.
-/

set_option autoImplicit false

namespace TreeShell

/-- Pairs of a name and a value. -/
abbrev Fields (α : Type) := List (String × α)

namespace Fields

variable {α : Type}

/-- The value of a name. -/
def get? (fields : Fields α) (name : String) : Option α :=
  fields.lookup name

/-- Whether a name has a value. -/
def has (fields : Fields α) (name : String) : Bool :=
  (fields.get? name).isSome

/-- The fields with a value for a name: in its place if it has one, at the end if not. -/
def set (fields : Fields α) (name : String) (value : α) : Fields α :=
  match fields with
  | [] => [(name, value)]
  | (key, old) :: rest =>
    if key = name then (name, value) :: rest else (key, old) :: set rest name value

/-- The fields with all the values of `more` set, one after another. -/
def update (fields more : Fields α) : Fields α :=
  more.foldl (fun all field => all.set field.1 field.2) fields

/-- The fields without a name. -/
def erase (fields : Fields α) (name : String) : Fields α :=
  fields.filter fun field => field.1 ≠ name

/-- The names in order. -/
def names (fields : Fields α) : List String :=
  fields.map Prod.fst

@[simp]
theorem get?_set_self (fields : Fields α) (name : String) (value : α) :
    (fields.set name value).get? name = some value := by
  induction fields with
  | nil => simp [set, get?]
  | cons field rest ih =>
    obtain ⟨key, old⟩ := field
    by_cases h : key = name
    · simp [set, h, get?]
    · have h' : (name == key) = false := by simpa using Ne.symm h
      simpa [set, h, get?, List.lookup_cons, h'] using ih

end Fields

end TreeShell
