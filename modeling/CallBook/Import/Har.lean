import CallBook.Call.Request
import CallBook.Import.Error
import CallBook.Import.Payload
import CallBook.Import.Title

/-!
# Calls from HAR archives

An archive is a JSON document with an object `log` that holds an array `entries`. Every entry is
converted by itself: one that is not typed as the format asks, or that has no URL, is passed over
and leaves the others alone. A record may be given as an object or as the list of its members.

`summaries` lists the entries of an archive, one line each; `singleEntry` wraps one of them as an
archive of its own.
-/

namespace CallBook.Import

open Json (Value)

/-! ### Entries -/

/-- The entries of a document. -/
def entriesOf (document : Value) : Except ImportError (List Value) :=
  match document.member? "log" with
  | some (.object log) =>
    match Entries.lookup "entries" log with
    | some (.array entries) => .ok entries
    | _ => .error .noEntries
  | _ => .error .noLog

/-- The entries of an archive. -/
def entries (text : String) : Except ImportError (List Value) :=
  if Text.isBlankText text.toList then .error .emptyArchive
  else
    match Json.parse text with
    | .error reason => .error (.badJson reason)
    | .ok document => entriesOf document

/-! ### Typed members -/

/-- A record's members in the order of `names`: looked up in an object, or taken from a list that
holds no more than those. -/
def recordMembers (names : List String) : Value → Option (List (Option Value))
  | .object members => some (names.map fun name => Entries.lookup name members)
  | .array items =>
    if items.length ≤ names.length then
      some (items.map some ++ List.replicate (names.length - items.length) none)
    else none
  | _ => none

/-- A member that may be missing or `null`, else is read by `read`. -/
def nullable {α : Type} (read : Value → Option α) : Option Value → Option (Option α)
  | none | some .null => some none
  | some v => (read v).map some

/-- A string that may be missing, not `null`. -/
def stringOrEmpty : Option Value → Option String
  | none => some ""
  | some v => v.text?

/-- Every item of a list read by `read`. -/
def listOf? {α : Type} (read : Value → Option α) : Value → Option (List α)
  | .array items => items.mapM read
  | _ => none

/-- A list that may be missing, not `null`. -/
def listOrEmpty {α : Type} (read : Value → Option α) : Option Value → Option (List α)
  | none => some []
  | some v => listOf? read v

/-- A name and a value. -/
def nameValue? (v : Value) : Option (String × String) :=
  match recordMembers ["name", "value"] v with
  | some [name, value] =>
    match stringOrEmpty name, stringOrEmpty value with
    | some name, some value => some (name, value)
    | _, _ => none
  | _ => none

/-- What an entry posts: a text, parameters, or both. -/
structure PostData where
  text : Option String := none
  params : Option (List (String × String)) := none
  deriving DecidableEq, Repr

/-- Reads what an entry posts. -/
def postData? (v : Value) : Option PostData :=
  match recordMembers ["text", "params"] v with
  | some [text, params] =>
    match nullable Value.text? text, nullable (listOf? nameValue?) params with
    | some text, some params => some { text, params }
    | _, _ => none
  | _ => none

/-- The request of an entry. -/
structure Captured where
  method : Option String := none
  url : Option String := none
  headers : List (String × String) := []
  postData : Option PostData := none
  deriving DecidableEq, Repr

/-- Reads the request of an entry. -/
def captured? (v : Value) : Option Captured :=
  match recordMembers ["method", "url", "headers", "postData"] v with
  | some [method, url, headers, postData] =>
    match nullable Value.text? method, nullable Value.text? url, listOrEmpty nameValue? headers,
      nullable postData? postData with
    | some method, some url, some headers, some postData => some { method, url, headers, postData }
    | _, _, _, _ => none
  | _ => none

/-- The request member of an entry; a list must hold it. -/
def requestOf? : Value → Option (Option Captured)
  | .object members => nullable captured? (Entries.lookup "request" members)
  | .array [request] => nullable captured? (some request)
  | _ => none

/-! ### Conversion -/

/-- The pairs that have a name, inserted in order. -/
def namedPairs (pairs : List (String × String)) : OrderedMap String :=
  OrderedMap.ofList (pairs.filter fun p => p.1 ≠ "")

/-- The fields of what an entry posts: the members of a JSON object, else the parameters, else the
text as it is. -/
def postFields (post : PostData) : Fields :=
  let members := post.text.bind fun text =>
    if looksLikeObject text.toList then objectFields? text.toList else none
  match members with
  | some fields => fields
  | none =>
    match post.params with
    | some (p :: more) => namedPairs (p :: more)
    | _ =>
      match post.text with
      | some text => if text = "" then .empty else rawFields text
      | none => .empty

/-- The call of a request that has a URL. -/
def ofCaptured (c : Captured) : Option Request :=
  match c.url with
  | none => none
  | some url =>
    if url = "" then none
    else
      some
        { name := title url
          url
          method := (c.method.map Method.ofText).getD .get
          headers := namedPairs c.headers
          body := (c.postData.map postFields).getD .empty }

/-- The call of an entry, nothing if the entry is passed over. -/
def ofEntry (entry : Value) : Option Request :=
  match requestOf? entry with
  | some (some c) => ofCaptured c
  | _ => none

/-- The calls of a list of entries; at least one. -/
def ofEntries (entries : List Value) : Except ImportError (List Request) :=
  match entries.filterMap ofEntry with
  | [] => .error .noRequests
  | requests => .ok requests

/-- The calls of an archive. -/
def harArchive (text : String) : Except ImportError (List Request) :=
  match entries text with
  | .error e => .error e
  | .ok list => ofEntries list

/-! ### Listing and choosing -/

/-- How many characters of a URL a listing shows. -/
def summaryWidth : Nat := 80

/-- The text, cut and marked if it is longer than a listing shows. -/
def shortened (text : String) : String :=
  let s := text.toList
  if s.length ≤ summaryWidth then text else String.ofList (s.take summaryWidth) ++ "..."

/-- The line of an entry in a listing. -/
def summary (entry : Value) : String :=
  let request := entry.member? "request"
  let text (key : String) : Option String := (request.bind (Value.member? key)).bind Value.text?
  (text "method").getD "GET" ++ " " ++ shortened ((text "url").getD "")

/-- The lines of the entries of an archive. -/
def summaries (text : String) : Except ImportError (List String) :=
  match entries text with
  | .error e => .error e
  | .ok [] => .error .nothingToList
  | .ok list => .ok (list.map summary)

/-- Why an entry could not be chosen. -/
inductive ChoiceError
  | badJson (reason : String)
  | noEntries
  | outOfRange (entry count : Nat)
  deriving DecidableEq, Repr

/-- The wording of a refused choice, the context first. -/
def ChoiceError.messages : ChoiceError → List String
  | badJson reason => ["parsing HAR file", reason]
  | noEntries => [ImportError.noEntries.message]
  | outOfRange entry count =>
    ["entry " ++ Text.decimal entry ++ " is out of range (archive has " ++ Text.decimal count
      ++ " entries)"]

/-- An archive of one entry. -/
def wrapEntry (entry : Value) : Value :=
  .object [("log", .object [("entries", .array [entry])])]

/-- The archive that holds only the entry with this number, counted from 1. -/
def singleEntry (text : String) (number : Nat) : Except ChoiceError String :=
  match Json.parse text with
  | .error reason => .error (.badJson reason)
  | .ok document =>
    match entriesOf document with
    | .error _ => .error .noEntries
    | .ok list =>
      match number with
      | 0 => .error (.outOfRange 0 list.length)
      | index + 1 =>
        match list[index]? with
        | some entry => .ok (wrapEntry entry).compact
        | none => .error (.outOfRange number list.length)

end CallBook.Import
