import CallBook.Text.Ascii
import CallBook.Text.Utf8

/-!
# Percent encoding

Every part of a URL has a set of characters that are written as `%` and two hexadecimal digits for
each byte of their UTF-8 form. The sets grow from the controls on: what the path encodes, the
credentials do too. Characters outside ASCII are always encoded. Decoding leaves a `%` alone that
is not followed by two digits.
-/

namespace CallBook.Url

/-- Controls, and everything outside ASCII. -/
def encodesAlways (c : Char) : Bool := c.toNat < 0x20 || 0x7E < c.toNat

/-- What a fragment encodes. -/
def inFragmentSet (c : Char) : Bool :=
  encodesAlways c || c = ' ' || c = '"' || c = '<' || c = '>' || c = '\x60'

/-- What a query encodes. -/
def inQuerySet (c : Char) : Bool :=
  encodesAlways c || c = ' ' || c = '"' || c = '#' || c = '<' || c = '>'

/-- What the query of a special URL encodes. -/
def inSpecialQuerySet (c : Char) : Bool := inQuerySet c || c = '\''

/-- What a path encodes. -/
def inPathSet (c : Char) : Bool :=
  inFragmentSet c || c = '#' || c = '?' || c = '{' || c = '}'

/-- What a user name and a password encode. -/
def inUserSet (c : Char) : Bool :=
  inPathSet c || c = '/' || c = ':' || c = ';' || c = '=' || c = '@' || c = '[' || c = '\\'
    || c = ']' || c = '^' || c = '|'

/-- A byte as `%` and two digits. -/
def percentByte (b : UInt8) : List Char :=
  ['%', Text.upperHexDigit (b.toNat / 16), Text.upperHexDigit (b.toNat % 16)]

/-- A character as it stands in a part of a URL with this set. -/
def encodeChar (inSet : Char → Bool) (c : Char) : List Char :=
  if inSet c then (String.utf8EncodeChar c).flatMap percentByte else [c]

/-- A text as it stands in a part of a URL with this set. -/
def encodeText (inSet : Char → Bool) (s : List Char) : List Char := s.flatMap (encodeChar inSet)

/-- The bytes of a text with its percent escapes read. -/
def percentDecode : List Char → List UInt8
  | [] => []
  | '%' :: a :: b :: rest =>
    match Text.hexValue? a, Text.hexValue? b with
    | some a, some b => UInt8.ofNat (a * 16 + b) :: percentDecode rest
    | _, _ => 0x25 :: percentDecode (a :: b :: rest)
  | c :: rest => String.utf8EncodeChar c ++ percentDecode rest

end CallBook.Url
