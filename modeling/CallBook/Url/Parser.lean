import CallBook.Url.Authority
import CallBook.Url.Segments

/-!
# Reading URLs

A text is first freed of control characters and spaces around it and of tabs and line ends
anywhere. Then it is read from the front: the scheme up to its colon, the authority up to the path,
the path up to `?` or `#`, the query up to `#`, and the fragment. Special schemes take a backslash
for a slash and any number of slashes for the two before the authority; `file` has rules of its own
for drive letters and for the host `localhost`.
-/

namespace CallBook.Url

open CallBook.Text

/-- A text without what is ignored in URLs. -/
def cleaned (s : List Char) : List Char :=
  let around := fun c : Char => c.toNat ≤ 0x20
  let inner := ((s.dropWhile around).reverse.dropWhile around).reverse
  inner.filter fun c => !(c = '\t' || c = '\n' || c = '\r')

/-- A character that may follow the first letter of a scheme. -/
def isSchemeChar (c : Char) : Bool :=
  isAsciiLetter c || isDigit c || c = '+' || c = '-' || c = '.'

/-- The scheme in lower case, and what follows its colon. -/
def splitScheme (s : List Char) : Option (List Char × List Char) :=
  match splitFirst ':' s with
  | some (c :: scheme, rest) =>
    if isAsciiLetter c && scheme.all isSchemeChar then some ((c :: scheme).map Char.toLower, rest)
    else none
  | _ => none

/-- A slash, or a backslash in its place. -/
def isSlash (c : Char) : Bool := c = '/' || c = '\\'

/-- A text up to its query or fragment, and these with their marks. -/
def beforeMarks (s : List Char) : List Char × List Char :=
  let ends := fun c => c = '?' || c = '#'
  (s.takeWhile fun c => !ends c, s.dropWhile fun c => !ends c)

/-- A part of a URL with this set. -/
def encodedText (inSet : Char → Bool) (s : List Char) : String := String.ofList (encodeText inSet s)

/-- Query and fragment from their marks on. -/
def readMarks (special : Bool) (s : List Char) : Option String × Option String :=
  let inQuery := if special then inSpecialQuerySet else inQuerySet
  let fragment := fun s => encodedText inFragmentSet s
  match s with
  | '?' :: rest =>
    match splitFirst '#' rest with
    | some (query, after) => (some (encodedText inQuery query), some (fragment after))
    | none => (some (encodedText inQuery rest), none)
  | '#' :: rest => (none, some (fragment rest))
  | _ => (none, none)

/-- The URL of a scheme, an authority, a path and what follows it. -/
def assemble (scheme : String) (authority : Option Authority) (path : Path) (marks : List Char) :
    Url :=
  let (query, fragment) := readMarks (isSpecialScheme scheme) marks
  { scheme, authority, path, query, fragment }

/-- A path of segments. -/
def rootedPath (segments : List (List Char)) : Path := .rooted (segments.map String.ofList)

/-- A path after an authority. That of a special URL has at least its first slash. -/
def readPath (special : Bool) (path : List Char) : Path :=
  match path with
  | [] => if special then rootedPath [[]] else .rooted []
  | c :: rest =>
    rootedPath (segments special (if c = '/' || (special && c = '\\') then rest else c :: rest))

/-- The rest of a URL after the two slashes before its authority. -/
def readAfterSlashes (scheme : String) (special : Bool) (s : List Char) : Except UrlError Url := do
  let (authority, rest) ← readAuthority scheme special s
  let (path, marks) := beforeMarks rest
  .ok (assemble scheme (some authority) (readPath special path) marks)

/-- The rest of a URL without meaning here. -/
def readPlain (scheme : String) (s : List Char) : Except UrlError Url :=
  match s with
  | '/' :: '/' :: rest => readAfterSlashes scheme false rest
  | '/' :: rest =>
    let (path, marks) := beforeMarks rest
    .ok (assemble scheme none (rootedPath (segments false path)) marks)
  | _ =>
    let (path, marks) := beforeMarks s
    .ok (assemble scheme none (.plain (encodedText encodesAlways path)) marks)

/-- The host of a file; `localhost` is the same as none. -/
def fileHost (s : List Char) : Except UrlError Host :=
  if s.isEmpty then .ok .empty
  else (specialHost s).map fun host => if host = .name "localhost" then .empty else host

/-- A path without its first slash. -/
def afterSlash : List Char → List Char
  | c :: rest => if isSlash c then rest else c :: rest
  | [] => []

/-- The URL of a file on a host; a drive letter leaves no host. -/
def fileUrl (host : Host) (s : List Char) : Url :=
  let (path, marks) := beforeMarks s
  let (drive, segments) := fileSegments (afterSlash path)
  assemble "file" (some { host := if drive then .empty else host }) (rootedPath segments) marks

/-- The rest of the URL of a file. -/
def readFile (s : List Char) : Except UrlError Url :=
  match s with
  | c :: d :: rest =>
    if isSlash c && isSlash d then
      let ends := fun c => isSlash c || c = '?' || c = '#'
      let host := rest.takeWhile fun c => !ends c
      if isDriveLetter host then .ok (fileUrl .empty rest)
      else do
        let host ← fileHost host
        .ok (fileUrl host (rest.dropWhile fun c => !ends c))
    else .ok (fileUrl .empty s)
  | _ => .ok (fileUrl .empty s)

/-- The URL that a text is. -/
def parse (text : String) : Except UrlError Url :=
  match splitScheme (cleaned text.toList) with
  | none => .error .noScheme
  | some (scheme, rest) =>
    let scheme := String.ofList scheme
    if scheme = "file" then readFile rest
    else if isSpecialScheme scheme then readAfterSlashes scheme true (rest.dropWhile isSlash)
    else readPlain scheme rest

end CallBook.Url
