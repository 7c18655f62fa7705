import CallBook.Execution.Outbound
import CallBook.Text.Utf8

/-!
# Header fields

The name of a header field is a token of ASCII characters; it is written in lower case. Its value
is any bytes but control characters, tabs aside, so that no field can end a line or begin another.
-/

namespace CallBook.Http

/-- A header field on the wire. -/
structure Field where
  name : String
  value : List UInt8
  deriving DecidableEq, Repr

/-- A character of a token. -/
def isTokenChar (c : Char) : Bool :=
  Text.isAsciiLetter c || Text.isDigit c
    || ['!', '#', '$', '%', '&', '\'', '*', '+', '-', '.', '^', '_', '\x60', '|', '~'].contains c

/-- The longest name of a field. -/
def longestName : Nat := 65535

/-- A name that a field may have. -/
def isFieldName (name : String) : Bool :=
  !name.isEmpty && name.length ≤ longestName && name.toList.all isTokenChar

/-- A byte that may stand in a value. -/
def isFieldByte (b : UInt8) : Bool := b = 9 || (32 ≤ b.toNat && b.toNat ≠ 127)

/-- A value that a field may have. -/
def isFieldValue (value : String) : Bool := (Text.Utf8.encode value.toList).all isFieldByte

/-- Why a header is no field. -/
inductive FieldError
  | name
  | value
  deriving DecidableEq, Repr

/-- The wording of an error. -/
def FieldError.message : FieldError → String
  | name => "invalid HTTP header name"
  | value => "failed to parse header value"

/-- The field of a header. -/
def field (name value : String) : Except FieldError Field :=
  if !isFieldName name then .error .name
  else if !isFieldValue value then .error .value
  else .ok ⟨Text.lowerAscii name, Text.Utf8.encode value.toList⟩

/-- The value of a field as a text. -/
def Field.text (f : Field) : String := String.ofList (Text.Utf8.decodeLossy f.value)

/-- Values grouped by name in lower case: names in the order of their first field, the values of
each in the order of its fields. -/
def grouped (fs : List Field) : MultiMap :=
  fs.foldl (fun m f => m.push (Text.lowerAscii f.name) f.text) .empty

end CallBook.Http
