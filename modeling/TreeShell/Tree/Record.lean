import TreeShell.Json.Basic
import TreeShell.Tree.Snapshot

/-!
# Snapshots as documents

A snapshot is stored as a document, and `ofJson` reads back what `toJson` writes. It reads more than
that: entries without a content or without lists of children are completed, members it does not
know are passed over, a current folder that is no list of strings is taken as the root, and an older
name for it is understood. What cannot be completed is a `RecordError`.
-/

set_option autoImplicit false

namespace TreeShell

/-- Why a document is no snapshot. -/
inductive RecordError where
  | notObject
  | rootNotFolder
  | notFolder
  | folderName
  | folderChildren
  | fileNotObject
  | fileTag (given : Json)
  | fileNameMissing
  | fileFields
deriving Repr

/-- Whether a file system that meets the error starts afresh instead. -/
def RecordError.isForgiven : RecordError → Bool
  | .fileNotObject => false
  | _ => true

/-- The tag of a folder in a document. -/
def folderTag : String := "folder"

/-- The tag of a file in a document. -/
def fileTag : String := "file"

namespace File

/-- A file as a document. -/
def toJson (file : File) : Json :=
  .object [("type", .string fileTag), ("name", .string file.name),
    ("content", .string file.content)]

/-- The file a document describes. -/
def ofJson : Json → Except RecordError File
  | .object members =>
    if ((Fields.get? members "type").getD (.string fileTag)).isString fileTag then
      match Fields.get? members "name" with
      | none => .error .fileNameMissing
      | some name =>
        match name, (Fields.get? members "content").getD (.string "") with
        | .string name, .string content => .ok ⟨name, content⟩
        | _, _ => .error .fileFields
    else .error (.fileTag ((Fields.get? members "type").getD .null))
  | _ => .error .fileNotObject

end File

/-- A list of results as the result of a list: the first error wins. -/
def collect {α β ε : Type} (f : α → Except ε β) : List α → Except ε (List β)
  | [] => .ok []
  | a :: rest =>
    match f a with
    | .error e => .error e
    | .ok b => (collect f rest).map (b :: ·)

/-- A member of an object is smaller than the object. -/
theorem sizeOf_get?_lt {members : List (String × Json)} {name : String} {value : Json}
    (h : Fields.get? members name = some value) :
    sizeOf value < sizeOf (Json.object members) := by
  induction members with
  | nil => simp [Fields.get?] at h
  | cons field rest ih =>
    obtain ⟨key, held⟩ := field
    simp only [Fields.get?, List.lookup_cons] at h
    split at h
    · cases h
      simp
      omega
    · have := ih h
      simp at this ⊢
      omega

namespace Folder

mutual

/-- A folder as a document. -/
def toJson : Folder → Json
  | ⟨name, folders, files⟩ =>
    .object [("type", .string folderTag), ("name", .string name),
      ("folders", .array (toJsonList folders)), ("files", .array (files.map File.toJson))]

/-- Folders as documents. -/
def toJsonList : List Folder → List Json
  | [] => []
  | folder :: rest => folder.toJson :: toJsonList rest

end

/-- The folder a document describes. The folders in it are read before the files in it. -/
def ofJson : Json → Except RecordError Folder
  | .object members =>
    if ((Fields.get? members "type").getD .null).isString folderTag then
      match (Fields.get? members "name").getD (.string "") with
      | .string name =>
        match _h : Fields.get? members "folders",
            (Fields.get? members "files").getD (.array []) with
        | none, .array files => (collect File.ofJson files).map fun files => ⟨name, [], files⟩
        | some (.array folders), .array files =>
          match collect (fun (item : { item // item ∈ folders }) => ofJson item.1)
              folders.attach with
          | .error e => .error e
          | .ok folders => (collect File.ofJson files).map fun files => ⟨name, folders, files⟩
        | _, _ => .error .folderChildren
      | _ => .error .folderName
    else .error .notFolder
  | _ => .error .notFolder
termination_by document => sizeOf document
decreasing_by
  have hm := List.sizeOf_lt_of_mem item.2
  have hf := sizeOf_get?_lt _h
  simp at hf ⊢
  omega

end Folder

namespace Snapshot

/-- A snapshot as a document. -/
def toJson (s : Snapshot) : Json :=
  .object [("root", s.root.toJson), ("cwd", .array (s.cwd.map .string))]

/-- The current folder a document names: the root, if it names none properly. -/
def cwdOfJson : Json → List String
  | .array items => if items.all (·.string?.isSome) then Json.strings items else []
  | _ => []

/-- The snapshot a document describes. -/
def ofJson : Json → Except RecordError Snapshot
  | .object members =>
    let root := (Fields.get? members "root").getD .null
    if ((root.get? "type").getD .null).isString folderTag then
      let cwd := (Fields.get? members "cwd").getD ((Fields.get? members "cwdParts").getD (.array []))
      (Folder.ofJson root).map fun root => ⟨root, cwdOfJson cwd⟩
    else .error .rootNotFolder
  | _ => .error .notObject

end Snapshot

end TreeShell
