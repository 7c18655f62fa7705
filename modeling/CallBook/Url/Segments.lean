import CallBook.Text.Search
import CallBook.Url.Percent

/-!
# Path segments of a URL

A path is read segment by segment. A segment of one dot is left out, one of two dots takes the
segment before it away, and either leaves an empty segment where it is the last. A dot may be
written as `%2e`. A segment that looks like a drive letter is never taken away.
-/

namespace CallBook.Url

open CallBook.Text

/-- A segment of one dot. -/
def isSingleDot (segment : List Char) : Bool :=
  [['.'], ['%', '2', 'e']].contains (segment.map Char.toLower)

/-- A segment of two dots. -/
def isDoubleDot (segment : List Char) : Bool :=
  [['.', '.'], ['.', '%', '2', 'e'], ['%', '2', 'e', '.'], ['%', '2', 'e', '%', '2', 'e']].contains
    (segment.map Char.toLower)

/-- A letter and a colon or bar. -/
def isDriveLetter : List Char → Bool
  | [c, d] => isAsciiLetter c && (d = ':' || d = '|')
  | _ => false

/-- A segment whose start looks like a drive letter. -/
def looksLikeDrive (segment : List Char) : Bool := isDriveLetter (segment.takeWhile (· ≠ '\\'))

/-- The segments, last first, without the last. -/
def withoutLast : List (List Char) → List (List Char)
  | [] => []
  | segment :: before => if looksLikeDrive segment then segment :: before else before

/-- Adds a segment that a slash follows to the segments before it, last first. -/
def addSegment (before : List (List Char)) (segment : List Char) : List (List Char) :=
  if isDoubleDot segment then withoutLast before
  else if isSingleDot segment then before
  else encodeText inPathSet segment :: before

/-- Reads segments; those before them are given last first. -/
def readSegments : (before : List (List Char)) → List (List Char) → List (List Char)
  | before, [] => before.reverse
  | before, [last] =>
    if isDoubleDot last || isSingleDot last then ([] :: addSegment before last).reverse
    else (addSegment before last).reverse
  | before, segment :: more => readSegments (addSegment before segment) more

/-- The segments of a path without its first slash. -/
def segments (special : Bool) (path : List Char) : List (List Char) :=
  readSegments [] (fields (fun c => c = '/' || (special && c = '\\')) path)

/-- Replaces a drive letter at the front of a path by its usual form; says whether there was one. -/
def normalDrive (raw : List (List Char)) : Bool × List (List Char) :=
  match raw with
  | [c, d] :: more => if isDriveLetter [c, d] then (true, [c, ':'] :: more) else (false, raw)
  | _ => (false, raw)

/-- The segments of a file path without its first slash, and whether they begin with a drive
letter. Empty segments at the front are dropped. -/
def fileSegments (path : List Char) : Bool × List (List Char) :=
  let (drive, raw) := normalDrive (fields (fun c => c = '/' || c = '\\') path)
  match (readSegments [] raw).dropWhile List.isEmpty with
  | [] => (drive, [[]])
  | kept => (drive, kept)

end CallBook.Url
