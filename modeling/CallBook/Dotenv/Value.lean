import CallBook.Text.Alphanumeric
import CallBook.Text.Search

/-!
# Values in dotenv files

A value is made of plain characters, quoted parts and references. In single quotes everything stands
for itself; elsewhere a backslash gives the next character, or a line feed before `n`, and `$name`
or a name in braces after `$` is replaced by the value of the name. The first character that cannot
belong to a bare name stands for itself, even a quote. After a blank nothing but a comment may
follow.
-/

namespace CallBook.Dotenv

open CallBook.Text

/-- Where a place in a value is; `quoted` says that it is in double quotes. -/
inductive ValuePlace
  | plain (quoted : Bool)
  | single
  | escape (quoted : Bool)
  | ended
  /-- In a reference without braces; the name so far, last character first. -/
  | bare (quoted : Bool) (name : List Char)
  /-- In a reference with braces. -/
  | braced (quoted : Bool) (name : List Char)
  deriving DecidableEq, Repr

/-- What an escaped character stands for. -/
def escaped? (c : Char) : Option Char :=
  if c = 'n' then some '\n' else if ['\\', '\'', '"', '$', ' '].contains c then some c else none

/-- The value of a text from a place on, or which character cannot stand where it is; nothing says
that the text ends too early. `lookup` gives the value of a name. -/
def readValue (lookup : List Char → List Char) :
    ValuePlace → (index : Nat) → List Char → Except (Option Nat) (List Char)
  | place, _, [] =>
    match place with
    | .single | .plain true | .escape true | .bare true _ | .braced _ _ => .error none
    | .bare false name => .ok (lookup name.reverse)
    | _ => .ok []
  | .ended, index, c :: rest =>
    if c = ' ' || c = '\t' then readValue lookup .ended (index + 1) rest
    else if c = '#' then .ok []
    else .error (some index)
  | .escape quoted, index, c :: rest =>
    match escaped? c with
    | some d => (readValue lookup (.plain quoted) (index + 1) rest).map (d :: ·)
    | none => .error (some index)
  | .single, index, c :: rest =>
    if c = '\'' then readValue lookup (.plain false) (index + 1) rest
    else (readValue lookup .single (index + 1) rest).map (c :: ·)
  | .bare quoted name, index, c :: rest =>
    if isAlphanumeric c then readValue lookup (.bare quoted (c :: name)) (index + 1) rest
    else if c = '{' && name.isEmpty then readValue lookup (.braced quoted []) (index + 1) rest
    else if c = '$' then
      (readValue lookup (.bare quoted []) (index + 1) rest).map (lookup name.reverse ++ ·)
    else
      (readValue lookup (.plain quoted) (index + 1) rest).map (lookup name.reverse ++ c :: ·)
  | .braced quoted name, index, c :: rest =>
    if c = '}' then
      (readValue lookup (.plain quoted) (index + 1) rest).map (lookup name.reverse ++ ·)
    else readValue lookup (.braced quoted (c :: name)) (index + 1) rest
  | .plain quoted, index, c :: rest =>
    if c = '$' then readValue lookup (.bare quoted []) (index + 1) rest
    else if c = '"' then readValue lookup (.plain (!quoted)) (index + 1) rest
    else if c = '\\' then readValue lookup (.escape quoted) (index + 1) rest
    else if quoted then (readValue lookup (.plain quoted) (index + 1) rest).map (c :: ·)
    else if c = '\'' then readValue lookup .single (index + 1) rest
    else if c = ' ' || c = '\t' then readValue lookup .ended (index + 1) rest
    else (readValue lookup (.plain quoted) (index + 1) rest).map (c :: ·)

end CallBook.Dotenv
