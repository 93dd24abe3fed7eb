import TreeShell.Json.Reader
import TreeShell.Json.Writer
import TreeShell.Pattern.Like

/-!
# Records

A store keeps one text under each key. Most texts are written by the store itself, from a document;
such a record is kept as the document it was written from, which is also what reading the text
gives. A text of any other origin is read when it is asked for, and one that is no document counts
as missing.

Keys are kept in ascending order. Code point order, which is the order of strings, is also the order
of their bytes in UTF-8.

The database below a store may be one that can be read and not be written. Then it refuses every
record, with a text of its own (`Store.refusal?`).
-/

set_option autoImplicit false

namespace TreeShell

/-- What is kept under a key: a document that was put there, or a text from elsewhere. -/
inductive Record where
  | document (value : Json)
  | text (raw : String)
deriving Repr

/-- The text of a record. -/
def Record.raw : Record → String
  | document value => value.compact
  | text raw => raw

/-- The document of a record. A text that is no document reads as null, but for a whole number that
is too long to be read. -/
def Record.read : Record → Except Json.ReadError Json
  | document value => .ok value
  | text raw =>
    match Json.parse raw with
    | .ok value => .ok value
    | .error .malformed => .ok .null
    | .error e => .error e

/-- Records by their keys, in ascending order of the keys, and what the database has against being
written, if anything. -/
structure Store where
  records : List (String × Record)
  refusal? : Option String := none
deriving Repr

namespace Store

/-- A store with nothing in it. -/
def empty : Store where
  records := []

/-- The record of a key. -/
def get? (store : Store) (key : String) : Option Record :=
  store.records.lookup key

/-- The document under a key, null if there is none. -/
def read (store : Store) (key : String) : Except Json.ReadError Json :=
  match store.get? key with
  | some record => record.read
  | none => .ok .null

/-- Records with one more, in the place of its key. -/
def insert (key : String) (record : Record) : List (String × Record) → List (String × Record)
  | [] => [(key, record)]
  | (other, held) :: rest =>
    if key = other then (key, record) :: rest
    else if key < other then (key, record) :: (other, held) :: rest
    else (other, held) :: insert key record rest

/-- The store with a record under a key. -/
def put (store : Store) (key : String) (record : Record) : Store :=
  { store with records := insert key record store.records }

/-- The store without a key. -/
def erase (store : Store) (key : String) : Store :=
  { store with records := store.records.filter fun record => record.1 ≠ key }

/-- Whether there is a record under a key. -/
def has (store : Store) (key : String) : Bool :=
  (store.get? key).isSome

/-- The keys that are like the pattern for a prefix, in ascending order. -/
def keys (store : Store) (start : String) : List String :=
  (store.records.map Prod.fst).filter (Like.accepts (Like.beginning start))

end Store

end TreeShell
