import CallBook.Call.Method
import CallBook.Http.Head
import CallBook.Text.Search

/-!
# The body of a reply

Where a body ends follows from the head: some replies have none, some say how long theirs is, some
send it in chunks with a length before each, and the others end with the connection.
-/

namespace CallBook.Http

open CallBook.Text

/-- How a body is delimited. -/
inductive Framing
  | length (count : Nat)
  | chunks
  | untilClose
  deriving DecidableEq, Repr

/-- The values of the fields with a name. -/
def valuesOf (name : String) (fs : List Field) : List (List UInt8) :=
  (fs.filter (·.name == name)).map Field.value

/-- The text of a value in printable ASCII. -/
def asciiValue? (value : List UInt8) : Option (List Char) :=
  if value.all fun b => b = 9 || (32 ≤ b.toNat && b.toNat < 127) then
    some (value.map fun b => Char.ofNat b.toNat)
  else none

/-- The largest number of 64 bits. -/
def maxLength : Nat := Nat.pow 2 64 - 1

/-- The number that digits write, if it fits 64 bits. -/
def lengthOf? (s : List Char) : Option Nat :=
  let s := trim s
  if s.isEmpty || !s.all isDigit then none
  else if maxLength < decimalValue s then none
  else some (decimalValue s)

/-- The one length that all values agree on. -/
def agreedLength? (values : List (List UInt8)) : Option Nat :=
  match (values.mapM asciiValue?).bind fun texts =>
      (texts.flatMap (Text.fields (· == ','))).mapM lengthOf? with
  | some (n :: more) => if more.all (· = n) then some n else none
  | _ => none

/-- The last of the transfer encodings is that of chunks. -/
def endsChunked (values : List (List UInt8)) : Bool :=
  match values.getLast?.bind asciiValue? with
  | none => false
  | some text =>
    match (Text.fields (· == ',') text).getLast? with
    | none => false
    | some last => sameIgnoringCase (String.ofList (trim last)) "chunked"

/-- How the body after a head is delimited. -/
def framing (method : Method) (h : Head) : Except HeadError Framing :=
  if method = .head || h.status = 204 || h.status = 304 then .ok (.length 0)
  else
    match valuesOf "transfer-encoding" h.fields, valuesOf "content-length" h.fields with
    | [], [] => .ok .untilClose
    | [], lengths =>
      match agreedLength? lengths with
      | none => .error .contentLength
      | some n => if maxLength - 2 ≤ n then .error .tooLarge else .ok (.length n)
    | encodings, _ =>
      if h.old then .error .transferEncoding
      else .ok (if endsChunked encodings then .chunks else .untilClose)

/-! ### Chunks -/

/-- Why a body is broken. -/
inductive BodyError
  | short
  | sizeEnds
  | sizeMissing
  | size
  | sizeOverflow
  | sizeBlank
  | extension
  | sizeLineFeed
  | chunkReturn
  | chunkLineFeed
  | trailerLineFeed
  | endLineFeed
  deriving DecidableEq, Repr

/-- The wording of an error. -/
def BodyError.message : BodyError → String
  | short => "end of file before message length reached"
  | sizeEnds => "unexpected EOF during chunk size line"
  | sizeMissing => "Invalid chunk size line: missing size digit"
  | size => "Invalid chunk size line: Invalid Size"
  | sizeOverflow => "invalid chunk size: overflow"
  | sizeBlank => "Invalid chunk size linear white space"
  | extension => "invalid chunk extension contains newline"
  | sizeLineFeed => "Invalid chunk size LF"
  | chunkReturn => "Invalid chunk body CR"
  | chunkLineFeed => "Invalid chunk body LF"
  | trailerLineFeed => "Invalid trailer end LF"
  | endLineFeed => "Invalid chunk end LF"

/-- A step that reads chunks leaves no more bytes than it was given. -/
abbrev Rest (bytes : List UInt8) := { rest : List UInt8 // rest.length ≤ bytes.length }

/-- Reads one byte, else fails with `e`. -/
def oneByte (e : BodyError) (b : UInt8) : (bytes : List UInt8) → Except BodyError (Rest bytes)
  | [] => .error .sizeEnds
  | c :: rest => if b = c then .ok ⟨rest, by simp⟩ else .error e

/-- Reads the rest of a line of a chunk size after its carriage return. -/
def afterReturn (bytes : List UInt8) : Except BodyError (Rest bytes) :=
  oneByte .sizeLineFeed 10 bytes

/-- Reads an extension after a chunk size. -/
def chunkExtension : (bytes : List UInt8) → Except BodyError (Rest bytes)
  | [] => .error .sizeEnds
  | b :: bytes =>
    if b = 13 then (afterReturn bytes).map fun r => ⟨r.1, Nat.le_succ_of_le r.2⟩
    else if b = 10 then .error .extension
    else (chunkExtension bytes).map fun r => ⟨r.1, Nat.le_succ_of_le r.2⟩

/-- Reads blanks after a chunk size, and what follows them. -/
def chunkBlanks : (bytes : List UInt8) → Except BodyError (Rest bytes)
  | [] => .error .sizeEnds
  | b :: bytes =>
    if isLineBlank b then (chunkBlanks bytes).map fun r => ⟨r.1, Nat.le_succ_of_le r.2⟩
    else if b = 59 then (chunkExtension bytes).map fun r => ⟨r.1, Nat.le_succ_of_le r.2⟩
    else if b = 13 then (afterReturn bytes).map fun r => ⟨r.1, Nat.le_succ_of_le r.2⟩
    else .error .sizeBlank

/-- Reads a chunk size and its line; `size` is the value of the digits so far, nothing before the
first. -/
def chunkSize : (size : Option Nat) → (bytes : List UInt8) → Except BodyError (Nat × Rest bytes)
  | _, [] => .error .sizeEnds
  | size, b :: bytes =>
    match if b.toNat < 128 then hexValue? (Char.ofNat b.toNat) else none with
    | some d =>
      let value := size.getD 0 * 16 + d
      if maxLength < value then .error .sizeOverflow
      else (chunkSize (some value) bytes).map fun r => (r.1, ⟨r.2.1, Nat.le_succ_of_le r.2.2⟩)
    | none =>
      match size with
      | none => .error .sizeMissing
      | some value =>
        if isLineBlank b || b = 59 || b = 13 then
          (chunkBlanks (b :: bytes)).map fun r => (value, r)
        else .error .size

/-- Leaves out what follows the last chunk: trailers, which nobody reads, up to an empty line. -/
def trailers : (atStart : Bool) → List UInt8 → Except BodyError (List UInt8)
  | _, [] => .error .sizeEnds
  | true, 13 :: bytes =>
    match bytes with
    | [] => .error .sizeEnds
    | b :: rest => if b = 10 then .ok rest else .error .endLineFeed
  | false, 13 :: bytes =>
    match bytes with
    | [] => .error .sizeEnds
    | b :: rest => if b = 10 then trailers true rest else .error .trailerLineFeed
  | _, _ :: bytes => trailers false bytes

/-- Reads a body in chunks. -/
def chunks (bytes : List UInt8) : Except BodyError (List UInt8 × List UInt8) :=
  match bytes with
  | [] => .error .sizeEnds
  | b :: more =>
    match chunkSize none (b :: more) with
    | .error e => .error e
    | .ok (0, rest) => (trailers true rest.1).map ([], ·)
    | .ok (size + 1, rest) =>
      if rest.1.length < size + 1 then .error .short
      else
        match oneByte .chunkReturn 13 (rest.1.drop (size + 1)) with
        | .error e => .error e
        | .ok after =>
          match oneByte .chunkLineFeed 10 after.1 with
          | .error e => .error e
          | .ok next => (chunks next.1).map fun r => (rest.1.take (size + 1) ++ r.1, r.2)
  termination_by bytes.length
  decreasing_by
    have := next.2
    have := after.2
    have := rest.2
    simp only [List.length_drop, List.length_cons] at *
    omega

/-- The bytes of a body. -/
def bodyBytes (framing : Framing) (bytes : List UInt8) : Except BodyError (List UInt8) :=
  match framing with
  | .length n => if bytes.length < n then .error .short else .ok (bytes.take n)
  | .chunks => (chunks bytes).map Prod.fst
  | .untilClose => .ok bytes

end CallBook.Http
