import CallBook.Call.Record
import CallBook.Storage.Content
import CallBook.Storage.Path
import CallBook.Text.Blank

/-!
# Stores

A store is a file that holds records by name as one JSON object. A file that is missing or blank,
and one that holds `null`, is an empty store. Every change reads the whole file and writes it anew;
a file that cannot be read as a store is never written. `records` is the view in which the
operations are those of a map in insertion order.

Whether a file can be written is found out at every write. What stands in the way on the disk is
known when the store is opened; whatever else the operating system may object to, such as missing
permissions, is said with each write.
-/

namespace CallBook

/-- Records that are stored under their names. -/
class Stored (α : Type) where
  /-- The name under which a record is saved. -/
  name : α → String
  toJson : α → Json.Value
  readJson : Nat → Json.Reader α
  /-- The name of the file. -/
  fileName : String

instance : Stored Request := ⟨Request.name, Request.toJson, Request.readJson, "api-calls.json"⟩

instance : Stored Environment :=
  ⟨Environment.name, Environment.toJson, Environment.readJson, "environments.json"⟩

/-- Why a store cannot be used. -/
inductive StoreError
  | unreadable (path : String) (e : FileError)
  | malformed (path reason : String)
  /-- The directory cannot be made, or only the first `steps` on the way to it. -/
  | noDirectory (path : String) (e : FileError) (steps : Option Nat := none)
  | unwritable (path : String) (e : FileError)
  deriving DecidableEq, Repr

/-- The wording of an error, the context first. -/
def StoreError.messages : StoreError → List String
  | unreadable path e => ["reading store " ++ path, e.message]
  | malformed path reason => ["parsing store " ++ path, reason]
  | noDirectory path e _ => ["creating data directory " ++ path, e.message]
  | unwritable path e => ["writing store " ++ path, e.message]

/-- Why a write does not start although nothing on the disk is in its way. -/
inductive Refusal
  /-- A directory on the way cannot be made, the one behind the first `steps`. -/
  | directory (steps : Nat) (e : FileError)
  /-- The file cannot be opened to be written. -/
  | file (e : FileError)
  deriving DecidableEq, Repr

/-- A file with records of one kind. -/
structure Store (α : Type) where
  /-- The directory as it was given. -/
  base : String
  /-- What on the disk keeps the directory from being made, or that a directory is then in the place
  of the file. -/
  blocked : Option FileError := none
  content : Content
  deriving DecidableEq

namespace Store

variable {α : Type} [Stored α]

/-- The path of the file. -/
def path (s : Store α) : String := Path.join s.base (Stored.fileName α)

/-- Reads the records of a text. -/
def readRecords (text : String) : Except String (OrderedMap α) :=
  if Text.isBlankText text.toList then .ok .empty
  else
    (Json.readText (Json.optional (Json.mapOf Stored.readJson Json.maxDepth)) text).map
      (·.getD .empty)

/-- The text of records. -/
def recordsText (records : OrderedMap α) : String :=
  (Json.Value.object (records.map Stored.toJson).entries).pretty

/-- The records of a store. -/
def records (s : Store α) : Except StoreError (OrderedMap α) :=
  if s.content.isThere then
    match s.content.text? with
    | .error e => .error (.unreadable s.path e)
    | .ok text => (readRecords text).mapError (.malformed s.path)
  else .ok .empty

/-- Why a write does not start: because of what is on the disk, or because it is `refused`. -/
def refusal? (s : Store α) (refused : Option Refusal := none) : Option StoreError :=
  match s.blocked, refused with
  | some .isDirectory, some (.directory steps e) | none, some (.directory steps e) =>
    some (.noDirectory (Path.directory s.base) e (some steps))
  | some .isDirectory, _ => some (.unwritable s.path .isDirectory)
  | some e, _ => some (.noDirectory (Path.directory s.base) e)
  | none, some (.file e) => some (.unwritable s.path e)
  | none, none => none

/-- The store with these records in its file. -/
def write (s : Store α) (records : OrderedMap α) (refused : Option Refusal := none) :
    Except StoreError (Store α) :=
  match s.refusal? refused, s.content with
  | some e, _ => .error e
  | none, .directory => .error (.unwritable s.path .isDirectory)
  | none, _ => .ok { s with content := .ofText (recordsText records) }

/-- The record with a name. -/
def load (s : Store α) (name : String) : Except StoreError (Option α) :=
  s.records.map (·.get? name)

/-- There is a record with a name. -/
def contains (s : Store α) (name : String) : Except StoreError Bool :=
  s.records.map (·.contains name)

/-- Puts a record into the store under its own name. -/
def save (s : Store α) (record : α) (refused : Option Refusal := none) :
    Except StoreError (Store α) := do
  let records ← s.records
  s.write (records.insert (Stored.name record) record) refused

/-- Takes the record with a name out of the store; says whether there was one. A store without it is
not written. -/
def delete (s : Store α) (name : String) (refused : Option Refusal := none) :
    Except StoreError (Bool × Store α) := do
  let records ← s.records
  if records.contains name then
    let s ← s.write (records.erase name) refused
    .ok (true, s)
  else .ok (false, s)

end Store

/-- The calls of a group, in order. -/
def Store.inGroup (s : Store Request) (group : String) : Except StoreError (List Request) :=
  s.records.map fun records => records.values.filter fun r => r.group = some group

end CallBook
