import CallBook.Text.Blank
import CallBook.Text.Search
import CallBook.Text.Uppercase

/-!
# Names for imported calls

An imported call is named after the last segment of its path, in title case; without a path after
its host; and without either by a fixed name. The address may stand anywhere in the text: the
first place where the shape fits is taken.
-/

namespace CallBook.Import

/-- The name of a call that has neither path nor host. -/
def fallbackTitle : String := "Imported cURL"

/-- What follows `http://` or `https://` at the head of a text. -/
def afterScheme? (s : List Char) : Option (List Char) :=
  match Text.dropPrefix? "http".toList s with
  | none => none
  | some rest =>
    Text.dropPrefix? "://".toList (if Text.beginsWith ['s'] rest then rest.drop 1 else rest)

/-- The first part of a path: at least one character, on one line, up to a `?` that is not its
first character or to the end of the text. -/
def pathText? : List Char → Option (List Char)
  | [] => none
  | c :: rest =>
    let more := rest.takeWhile (· ≠ '?')
    if c = '\n' || more.contains '\n' then none else some (c :: more)

/-- The host of an address at the head of a text, and what follows it. -/
def host? (s : List Char) : Option (List Char × List Char) :=
  match afterScheme? s with
  | none => none
  | some rest =>
    let host := rest.takeWhile (· ≠ '/')
    if host.isEmpty then none else some (host, rest.dropWhile (· ≠ '/'))

/-- The path of an address at the head of a text. -/
def path? (s : List Char) : Option (List Char) :=
  match host? s with
  | some (_, '/' :: rest) => pathText? rest
  | _ => none

/-- The answer of `find?` at the first place of a text that has one. -/
def firstMatch (find? : List Char → Option (List Char)) : List Char → Option (List Char)
  | [] => find? []
  | c :: rest => (find? (c :: rest)).or (firstMatch find? rest)

/-- Dashes and underscores become spaces. -/
def spaced (c : Char) : Char := if c = '-' || c = '_' then ' ' else c

/-- Puts the first character of every word in upper case; `atStart` says that a word begins. -/
def capitalize : (atStart : Bool) → List Char → List Char
  | _, [] => []
  | atStart, c :: rest =>
    if Text.isBlank c then c :: capitalize true rest
    else if atStart then Text.upperChars c ++ capitalize false rest
    else c :: capitalize false rest

/-- A path segment as a title. -/
def titleCase (segment : List Char) : List Char := capitalize true (segment.map spaced)

/-- The last segment of a path that is not empty. -/
def lastSegment? (path : List Char) : Option (List Char) :=
  ((Text.fields (· == '/') path).filter (!·.isEmpty)).getLast?

/-- The name of a call with this address. -/
def title (url : String) : String :=
  let s := url.toList
  match (firstMatch path? s).bind lastSegment? with
  | some segment => String.ofList (titleCase segment)
  | none =>
    match firstMatch (fun t => (host? t).map Prod.fst) s with
    | some host => String.ofList host
    | none => fallbackTitle

end CallBook.Import
