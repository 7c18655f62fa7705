import CallBook.Json.Value
import CallBook.Text.Printable
import CallBook.Text.Search

/-!
# Faults in JSON texts

A reader that refuses a text says why (`Cause`) and how much of the text it had not read by then,
counted in bytes of UTF-8. From that count and the whole text comes the place of the fault: the
line, from 1, and the number of bytes read of that line.
-/

namespace CallBook.Json

/-- What was found in the place of something else. -/
inductive Found
  | null
  | bool (b : Bool)
  | number (n : Number)
  | string (s : String)
  | sequence
  | map
  deriving DecidableEq, Repr

/-- What was wanted in some place. -/
inductive Wanted
  | string
  | path
  | sequence
  | map
  | record (name : String)
  deriving DecidableEq, Repr

/-- Why a text was refused. -/
inductive Cause
  | endInList
  | endInObject
  | endInString
  | endInValue
  | noColon
  | noListComma
  | noObjectComma
  | badWord
  | noValue
  | badEscape
  | badNumber
  | numberRange
  | controlInString
  | keyNotString
  | loneSurrogate
  | halfSurrogate
  | trailingComma
  | trailingText
  | tooDeep
  | wrongType (found : Found) (wanted : Wanted)
  | repeatedField (name : String)
  deriving DecidableEq, Repr

namespace Found

/-- How a message names what was found. -/
def message : Found → String
  | null => "null"
  | bool true => "boolean `true`"
  | bool false => "boolean `false`"
  | number (.integer n) => "integer `" ++ String.ofList (Number.integerText n) ++ "`"
  | number (.double x) => "floating point `" ++ String.ofList x.text ++ "`"
  | string s => "string " ++ Text.cited s
  | sequence => "sequence"
  | map => "map"

end Found

namespace Wanted

/-- How a message names what was wanted. -/
def message : Wanted → String
  | string => "a string"
  | path => "path string"
  | sequence => "a sequence"
  | map => "a map"
  | record name => "struct " ++ name

end Wanted

namespace Cause

/-- The wording of a cause. -/
def message : Cause → String
  | endInList => "EOF while parsing a list"
  | endInObject => "EOF while parsing an object"
  | endInString => "EOF while parsing a string"
  | endInValue => "EOF while parsing a value"
  | noColon => "expected `:`"
  | noListComma => "expected `,` or `]`"
  | noObjectComma => "expected `,` or `\x7d`"
  | badWord => "expected ident"
  | noValue => "expected value"
  | badEscape => "invalid escape"
  | badNumber => "invalid number"
  | numberRange => "number out of range"
  | controlInString => "control character (\\u0000-\\u001F) found while parsing a string"
  | keyNotString => "key must be a string"
  | loneSurrogate => "lone leading surrogate in hex escape"
  | halfSurrogate => "unexpected end of hex escape"
  | trailingComma => "trailing comma"
  | trailingText => "trailing characters"
  | tooDeep => "recursion limit exceeded"
  | wrongType found wanted => "invalid type: " ++ found.message ++ ", expected " ++ wanted.message
  | repeatedField name => "duplicate field `" ++ name ++ "`"

end Cause

/-- How many bytes a text takes in UTF-8. -/
def byteCount : List Char → Nat
  | [] => 0
  | c :: rest => c.utf8Size + byteCount rest

/-- Why a text was refused, and how many of its bytes had not been read. -/
structure Fault where
  cause : Cause
  left : Nat
  deriving DecidableEq, Repr

namespace Fault

/-- A fault found before `rest` was read. -/
def before (cause : Cause) (rest : List Char) : Fault := ⟨cause, byteCount rest⟩

/-- A fault found on reading the next byte of `rest`, if there is one. -/
def onNext (cause : Cause) (rest : List Char) : Fault := ⟨cause, byteCount rest - 1⟩

/-- The line and the byte of the line that are reached after `offset` bytes. -/
def place : (line column offset : Nat) → List Char → Nat × Nat
  | line, column, _, [] => (line, column)
  | line, column, offset, c :: rest =>
    if offset = 0 then (line, column)
    else if offset < c.utf8Size then (line, column + offset)
    else if c = '\n' then place (line + 1) 0 (offset - 1) rest
    else place line (column + c.utf8Size) (offset - c.utf8Size) rest

/-- The wording of a fault in a text, with its place. -/
def message (f : Fault) (text : List Char) : String :=
  let (line, column) := place 1 0 (byteCount text - f.left) text
  f.cause.message ++ " at line " ++ toString line ++ " column " ++ toString column

end Fault

end CallBook.Json
