import CallBook.OrderedMap
import CallBook.Text.Ascii
import CallBook.Text.Search

/-!
# Header rules

Which headers of an imported call are kept. `stripBrowserHeaders` drops the headers that a browser
adds on its own. `HeaderRules` come from the settings: a list of names to include (no restriction
when it is absent or empty), a list to exclude, and headers to append. Names are compared without
regard to the case of ASCII letters; a header is appended only when no header of that name is
there yet.
-/

namespace CallBook

/-- Headers by name, in order. -/
abbrev Headers := OrderedMap String

/-- The headers that a browser adds on its own, in lower case. -/
def browserHeaders : List String :=
  ["host", "user-agent", "accept-encoding", "connection", "referer", "origin", "dnt", "priority",
   "pragma", "cache-control", "te", "content-length"]

/-- A name that a browser adds on its own: a listed one, or one that begins with `:` or `sec-`. -/
def isBrowserHeader (name : String) : Bool :=
  let lower := Text.lowerAscii name
  Text.beginsWith [':'] lower.toList || Text.beginsWith "sec-".toList lower.toList
    || browserHeaders.contains lower

/-- The headers that a browser did not add on its own. -/
def stripBrowserHeaders (headers : Headers) : Headers :=
  headers.filter fun p => !isBrowserHeader p.1

/-- Which headers to keep and which to add. -/
structure HeaderRules where
  /-- Names to keep; no restriction when absent or empty. -/
  include? : Option (List String) := none
  /-- Names to drop. -/
  exclude? : Option (List String) := none
  /-- Headers to add where their names are missing. -/
  append : Headers := .empty
  deriving DecidableEq, Inhabited

namespace HeaderRules

/-- A name is listed, up to case. -/
def listed (names : List String) (name : String) : Bool :=
  (names.map Text.lowerAscii).contains (Text.lowerAscii name)

/-- The rules keep a header of this name. -/
def keeps (rules : HeaderRules) (name : String) : Bool :=
  (match rules.include? with
    | none | some [] => true
    | some names => listed names name)
  && (match rules.exclude? with
    | none => true
    | some names => !listed names name)

/-- Adds the headers whose names are not there yet, one after the other. -/
def appendMissing : (headers : Headers) → (present : List String) → List (String × String) → Headers
  | headers, _, [] => headers
  | headers, present, (name, value) :: more =>
    let lower := Text.lowerAscii name
    if present.contains lower then appendMissing headers present more
    else appendMissing (headers.insert name value) (lower :: present) more

/-- The headers that the rules keep, in order, then those that they add. -/
def apply (rules : HeaderRules) (headers : Headers) : Headers :=
  let kept := headers.filter fun p => rules.keeps p.1
  appendMissing kept (kept.keys.map Text.lowerAscii) rules.append.entries

end HeaderRules

end CallBook
