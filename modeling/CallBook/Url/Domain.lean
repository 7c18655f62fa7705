import CallBook.Text.Search
import CallBook.Text.Utf8
import CallBook.Url.Punycode
import CallBook.Url.Domain.Mapping
import CallBook.Url.Domain.Direction
import CallBook.Url.Domain.Joining

/-!
# Domain names

A domain name is looked at in ASCII: its characters are mapped and composed, and every label that
still holds others is written in Punycode after `xn--`. A label that comes in that form is read,
so that it has to obey the same rules: nothing in it that the mapping would change, no mark in
front, joiners only where they matter, one direction, and none of the characters that separate the
parts of a URL. Empty and long labels are let through.
-/

namespace CallBook.Url.Domain

open CallBook.Text

/-- The mark of a label in Punycode. -/
def encodedMark : List Char := ['x', 'n', '-', '-']

/-- An ASCII character that no domain name may hold. -/
def isDenied (c : Char) : Bool :=
  c.toNat ≤ 0x20 || c.toNat = 0x7F
    || ['%', '#', '/', ':', '<', '>', '?', '@', '[', '\\', ']', '^', '|'].contains c

/-- Only ASCII characters. -/
def isAscii (s : List Char) : Bool := s.all fun c => c.toNat < 128

/-- The label that Punycode stands for: not all in ASCII, and stable under mapping and
composition. -/
def decodeLabel? (digits : List Char) : Option (List Char) :=
  match Punycode.decode? digits with
  | none => none
  | some label =>
    if isAscii label || mapChars label != some label || Composed.normalize label != label then none
    else some label

/-- A label as it is displayed. -/
def readLabel? (label : List Char) : Option (List Char) :=
  match dropPrefix? encodedMark label with
  | some digits => decodeLabel? digits
  | none => some label

/-- A label as it is looked up. -/
def labelText (label : List Char) : List Char :=
  if isAscii label then label else encodedMark ++ Punycode.encode label

/-- A label that may stand in a domain name. -/
def labelOk (label : List Char) : Bool :=
  isAscii label || (!beginsWithMark label && joinersOk [] label)

/-- A domain name in ASCII, from the bytes of a host. -/
def toAscii? (bytes : List UInt8) : Option (List Char) :=
  match (Utf8.decode? bytes).bind mapChars with
  | none => none
  | some mapped =>
    match (fields (· == '.') (Composed.normalize mapped)).mapM readLabel? with
    | none => none
    | some labels =>
      if labels.all labelOk && directionsOk labels && !(labels.any fun l => l.any isDenied) then
        some (joinFields ['.'] (labels.map labelText))
      else none

end CallBook.Url.Domain
