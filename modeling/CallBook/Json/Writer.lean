import CallBook.Json.Value

/-!
# Writing JSON

Values are written in one of two layouts: on one line without blanks, or with every item and member
on a line of its own, indented by two blanks a level, and one blank after a colon. An empty array
or object is written without a line break in both. In strings only the quote, the backslash and the
controls below U+0020 are escaped.
-/

namespace CallBook.Json

/-- Where line breaks and blanks are written. -/
inductive Layout
  | compact
  | pretty
  deriving DecidableEq, Repr

namespace Layout

/-- What precedes an item or a closing bracket at a depth. -/
def lineBreak (depth : Nat) : Layout → List Char
  | compact => []
  | pretty => '\n' :: List.replicate (2 * depth) ' '

/-- What stands between a key and its value. -/
def colon : Layout → List Char
  | compact => [':']
  | pretty => [':', ' ']

end Layout

/-- A character inside a string. -/
def escapedChar (c : Char) : List Char :=
  if c = '"' then ['\\', '"']
  else if c = '\\' then ['\\', '\\']
  else if c = '\n' then ['\\', 'n']
  else if c = '\r' then ['\\', 'r']
  else if c = '\t' then ['\\', 't']
  else if c.toNat = 8 then ['\\', 'b']
  else if c.toNat = 12 then ['\\', 'f']
  else if c.toNat < 32 then
    ['\\', 'u', '0', '0', Text.hexDigit (c.toNat / 16), Text.hexDigit (c.toNat % 16)]
  else [c]

/-- A string between quotes. -/
def quotedText (s : String) : List Char := '"' :: (s.toList.flatMap escapedChar ++ ['"'])

namespace Value

mutual

/-- A value at a depth. -/
def write (layout : Layout) (depth : Nat) : Value → List Char
  | null => "null".toList
  | bool true => "true".toList
  | bool false => "false".toList
  | number n => n.text
  | string s => quotedText s
  | array [] => ['[', ']']
  | array (v :: more) =>
    '[' :: (layout.lineBreak (depth + 1) ++ write layout (depth + 1) v
      ++ writeItems layout (depth + 1) more ++ layout.lineBreak depth ++ [']'])
  | object [] => ['{', '}']
  | object ((key, v) :: more) =>
    '{' :: (layout.lineBreak (depth + 1) ++ quotedText key ++ layout.colon
      ++ write layout (depth + 1) v ++ writeMembers layout (depth + 1) more
      ++ layout.lineBreak depth ++ ['}'])

/-- The items after the first. -/
def writeItems (layout : Layout) (depth : Nat) : List Value → List Char
  | [] => []
  | v :: more =>
    ',' :: (layout.lineBreak depth ++ write layout depth v ++ writeItems layout depth more)

/-- The members after the first. -/
def writeMembers (layout : Layout) (depth : Nat) : List (String × Value) → List Char
  | [] => []
  | (key, v) :: more =>
    ',' :: (layout.lineBreak depth ++ quotedText key ++ layout.colon ++ write layout depth v
      ++ writeMembers layout depth more)

end

/-- The value on one line. -/
def compact (v : Value) : String := String.ofList (v.write .compact 0)

/-- The value with every item and member on a line of its own. -/
def pretty (v : Value) : String := String.ofList (v.write .pretty 0)

end Value

end CallBook.Json
