import CallBook.Text.Blank
import CallBook.Text.Search

/-!
# Lines of a dotenv file

An assignment may take several lines: a line goes on behind its line feed as long as a quote is open
or the last character is escaped. A `#` after white space begins a comment, and a line that begins
with one is a comment as a whole. A file that ends inside a quote, behind an escape or behind a
blank has a broken last line.
-/

namespace CallBook.Dotenv

open CallBook.Text

/-- Where a place in a line is. -/
inductive Place
  | plain
  | blank
  | escape
  | single
  | singleEscape
  | double
  | doubleEscape
  deriving DecidableEq, Repr

/-- The place after a character outside quotes. -/
def Place.afterPlain (c : Char) : Place :=
  if c = '\\' then escape
  else if c = '"' then double
  else if c = '\'' then single
  else plain

/-- The place after a character; nothing if it begins a comment. -/
def Place.next : Place → Char → Option Place
  | blank, c => if c = '#' then none else some (afterPlain c)
  | plain, c => some (if isBlank c && c ≠ '\n' && c ≠ '\r' then blank else afterPlain c)
  | escape, _ => some plain
  | double, c => some (if c = '\\' then doubleEscape else if c = '"' then plain else double)
  | doubleEscape, _ => some double
  | single, c => some (if c = '\\' then singleEscape else if c = '\'' then plain else single)
  | singleEscape, _ => some single

/-- A text up to a comment, and the place at its end, nothing if there is a comment. -/
def scan : Place → List Char → List Char × Option Place
  | place, [] => ([], some place)
  | place, c :: rest =>
    match place.next c with
    | none => ([], none)
    | some place =>
      let (kept, last) := scan place rest
      (c :: kept, last)

/-- A line without its line end. -/
def withoutLineEnd (line : List Char) : List Char :=
  match line.reverse with
  | '\n' :: '\r' :: before => before.reverse
  | '\n' :: before => before.reverse
  | _ => line

/-- A text cut behind every line feed. -/
def physicalLines : List Char → List (List Char)
  | [] => []
  | c :: rest =>
    if c = '\n' then [c] :: physicalLines rest
    else
      match physicalLines rest with
      | [] => [[c]]
      | line :: more => (c :: line) :: more

/-- A line that begins with `#`. -/
def isComment (line : List Char) : Bool := (trimStart line).head? = some '#'

/-- The assignments with their comments taken off; the text of a broken last line is an error.
`pending` is the text of the assignment that is not finished, up to `place`. -/
def logicalLines : (pending : List Char) → Place → List (List Char) →
    List (Except (List Char) (List Char))
  | pending, place, [] => if place = .plain then [] else [.error pending]
  | pending, place, line :: more =>
    if isComment (pending ++ line) then .ok [] :: logicalLines [] .plain more
    else
      match scan place line with
      | (kept, none) => .ok (pending ++ kept) :: logicalLines [] .plain more
      | (_, some .plain) => .ok (withoutLineEnd (pending ++ line)) :: logicalLines [] .plain more
      | (_, some place) => logicalLines (pending ++ line) place more

end CallBook.Dotenv
