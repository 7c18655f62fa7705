import CallBook.Http.Field

/-!
# The head of a reply

A reply begins with a status line (version, three digits, and a reason that nobody reads) and
header fields, up to an empty line. A line ends with a line feed, with or without a carriage return
before it. A reply that stops before the empty line is incomplete, whatever else it holds.
-/

namespace CallBook.Http

/-- Why a reply has no head. -/
inductive HeadError
  | incomplete
  | version
  | status
  | fields
  | tooLarge
  | contentLength
  | transferEncoding
  deriving DecidableEq, Repr

/-- The wording of an error. -/
def HeadError.message : HeadError → String
  | incomplete => "connection closed before message completed"
  | version => "invalid HTTP version parsed"
  | status => "invalid HTTP status-code parsed"
  | fields => "invalid HTTP header parsed"
  | tooLarge => "message head is too large"
  | contentLength => "invalid content-length parsed"
  | transferEncoding => "unexpected transfer-encoding parsed"

/-- The head of a reply. -/
structure Head where
  /-- HTTP/1.0 rather than HTTP/1.1. -/
  old : Bool
  status : Nat
  fields : List Field
  deriving DecidableEq, Repr

/-! ### The status line -/

/-- Reads expected bytes, else fails with `e`. -/
def expect (e : HeadError) : (expected : List UInt8) → List UInt8 → Except HeadError (List UInt8)
  | [], bytes => .ok bytes
  | _ :: _, [] => .error .incomplete
  | x :: expected, b :: bytes => if x = b then expect e expected bytes else .error e

/-- Reads a line feed that may follow a carriage return, else fails with `e`. -/
def lineEnd (e : HeadError) : List UInt8 → Except HeadError (List UInt8)
  | [] => .error .incomplete
  | 13 :: bytes => expect e [10] bytes
  | 10 :: bytes => .ok bytes
  | _ => .error e

/-- Leaves out empty lines before the status line. -/
def skipEmptyLines : List UInt8 → Except HeadError (List UInt8)
  | [] => .error .incomplete
  | [13] => .error .incomplete
  | 13 :: 10 :: bytes => skipEmptyLines bytes
  | 13 :: _ => .error .fields
  | 10 :: bytes => skipEmptyLines bytes
  | bytes => .ok bytes

/-- Reads the version; says whether it is the old one. -/
def version (bytes : List UInt8) : Except HeadError (Bool × List UInt8) := do
  match ← expect .version "HTTP/1.".toUTF8.toList bytes with
  | [] => .error .incomplete
  | b :: rest =>
    if b = 48 then .ok (true, rest) else if b = 49 then .ok (false, rest) else .error .version

/-- Reads digits, their value so far being `value`. -/
def statusDigits : (count value : Nat) → List UInt8 → Except HeadError (Nat × List UInt8)
  | 0, value, bytes => .ok (value, bytes)
  | _ + 1, _, [] => .error .incomplete
  | count + 1, value, b :: bytes =>
    if 48 ≤ b.toNat ∧ b.toNat ≤ 57 then statusDigits count (value * 10 + (b.toNat - 48)) bytes
    else .error .status

/-- Reads a reason up to its line end. -/
def reason : List UInt8 → Except HeadError (List UInt8)
  | [] => .error .incomplete
  | b :: bytes =>
    if b = 13 ∨ b = 10 then lineEnd .status (b :: bytes)
    else if isFieldByte b then reason bytes
    else .error .status

/-- Reads a status line. -/
def statusLine (bytes : List UInt8) : Except HeadError (Bool × Nat × List UInt8) := do
  let (old, bytes) ← version (← skipEmptyLines bytes)
  let bytes ← expect .version [32] bytes
  let (status, bytes) ← statusDigits 3 0 bytes
  let bytes ← match bytes with
    | 32 :: bytes => reason bytes
    | bytes => lineEnd .status bytes
  .ok (old, status, bytes)

/-! ### Fields -/

/-- A blank within a line. -/
def isLineBlank (b : UInt8) : Bool := b = 32 || b = 9

/-- Bytes without the blanks around them. -/
def trimBlanks (bytes : List UInt8) : List UInt8 :=
  ((bytes.dropWhile isLineBlank).reverse.dropWhile isLineBlank).reverse

/-- A byte of a field name. -/
def isTokenByte (b : UInt8) : Bool := b.toNat < 128 && isTokenChar (Char.ofNat b.toNat)

/-- Reads the name of a field and its colon. -/
def fieldName (bytes : List UInt8) : Except HeadError (String × List UInt8) :=
  let name := bytes.takeWhile isTokenByte
  match bytes.dropWhile isTokenByte with
  | [] => .error .incomplete
  | 58 :: rest =>
    if name.isEmpty then .error .fields
    else .ok (String.ofList (name.map fun b => (Char.ofNat b.toNat).toLower), rest)
  | _ => .error .fields

/-- Reads a field. -/
def fieldLine (bytes : List UInt8) : Except HeadError (Field × List UInt8) := do
  let (name, bytes) ← fieldName bytes
  let rest ← lineEnd .fields (bytes.dropWhile isFieldByte)
  .ok (⟨name, trimBlanks (bytes.takeWhile isFieldByte)⟩, rest)

/-- How many fields a head may have. -/
def mostFields : Nat := 100

/-- Reads fields up to the empty line; `room` is how many there may be. -/
def fieldLines : (room : Nat) → List UInt8 → Except HeadError (List Field × List UInt8)
  | room, bytes =>
    match bytes with
    | [] => .error .incomplete
    | b :: more =>
      if b = 13 ∨ b = 10 then (lineEnd .fields (b :: more)).map ([], ·)
      else
        match room with
        | 0 => .error .tooLarge
        | room + 1 => do
          let (f, rest) ← fieldLine (b :: more)
          let (fs, rest) ← fieldLines room rest
          .ok (f :: fs, rest)

/-- Reads the head of a reply. A status below 100 is found to be none when all has been read. -/
def head (bytes : List UInt8) : Except HeadError (Head × List UInt8) := do
  let (old, status, bytes) ← statusLine bytes
  let (fields, bytes) ← fieldLines mostFields bytes
  if status < 100 then .error .status else .ok (⟨old, status, fields⟩, bytes)

end CallBook.Http
