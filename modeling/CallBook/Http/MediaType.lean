import CallBook.Http.Field
import CallBook.Text.Search

/-!
# Media types

A media type is `type/subtype` and parameters `; name=value`, where a value is a token or stands in
quotes. Only blanks may stand before a parameter and behind a quoted value. A semicolon with nothing
behind it is allowed at the end.
-/

namespace CallBook.Http

open CallBook.Text

/-- A token at the front of a text, and what follows it. -/
def token (s : List Char) : List Char × List Char :=
  (s.takeWhile isTokenChar, s.dropWhile isTokenChar)

/-- A character between quotes. -/
def isQuotedChar (c : Char) : Bool := 31 < c.toNat && c.toNat ≠ 127

/-- A text in quotes from behind its opening quote on, and what follows the blanks behind it. The
first character is part of the text even if it is a quote. -/
def quotedValue? : List Char → Option (List Char × List Char)
  | [] => none
  | c :: rest =>
    match rest.dropWhile (· ≠ '"') with
    | _ :: after =>
      let value := c :: rest.takeWhile (· ≠ '"')
      if value.all isQuotedChar then some (value, after.dropWhile (· = ' ')) else none
    | [] => none

/-- The value of a parameter, and what follows it. -/
def parameterValue? : List Char → Option (List Char × List Char)
  | '"' :: rest => quotedValue? rest
  | s =>
    match token s with
    | ([], _ :: _) => none
    | (value, rest) => some (value, rest)

/-- Name and value of a parameter, and what follows it. -/
def parameter? (s : List Char) : Option ((List Char × List Char) × List Char) :=
  match token s with
  | (c :: name, '=' :: rest) =>
    (parameterValue? rest).map fun (value, rest) => (((c :: name).map Char.toLower, value), rest)
  | _ => none

/-- The parameters that follow a media type; each takes at least one character of `fuel`. -/
def parameters? : (fuel : Nat) → List Char → Option (List (List Char × List Char))
  | _, [] => some []
  | fuel + 1, ';' :: rest =>
    match rest.dropWhile (· = ' ') with
    | [] => some []
    | s =>
      match parameter? s with
      | none => none
      | some (p, rest) => (parameters? fuel rest).map (p :: ·)
  | _, _ => none

/-- The parameters of a media type, nothing if it is not well formed. -/
def mediaParameters? (s : List Char) : Option (List (List Char × List Char)) :=
  match token s with
  | (_ :: _, '/' :: rest) =>
    match token rest with
    | (_ :: _, rest) => parameters? rest.length rest
    | _ => none
  | _ => none

/-- The value of a parameter of a media type. -/
def mediaParameter? (name : String) (s : List Char) : Option (List Char) :=
  match mediaParameters? s with
  | none => none
  | some ps => (ps.find? (·.1 == name.toList)).map Prod.snd

end CallBook.Http
