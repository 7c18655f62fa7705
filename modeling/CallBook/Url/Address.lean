import CallBook.Text.Ascii
import CallBook.Text.Search

/-!
# Internet addresses

A host whose last part is a number is an IPv4 address: one to four parts in decimal, octal or
hexadecimal, the last of which fills the bytes that are left. A host in brackets is an IPv6
address: eight pieces of 16 bits in hexadecimal, `::` for a run of zeros, and possibly an IPv4
address at the end. IPv4 addresses are written as four decimal bytes; IPv6 addresses in lower case
with the first longest run of zeros, at least two, as `::`.
-/

namespace CallBook.Url

/-! ### IPv4 -/

/-- The value of digits in a base, nothing if one of them is not a digit of the base. -/
def digitsValue? (base : Nat) (s : List Char) : Option Nat :=
  s.foldl (fun n c =>
    match n, Text.hexValue? c with
    | some n, some d => if d < base then some (n * base + d) else none
    | _, _ => none) (some 0)

/-- A part of an IPv4 address: decimal, octal after `0`, hexadecimal after `0x`. -/
def ipv4Part? : List Char → Option Nat
  | [] => none
  | '0' :: 'x' :: digits => digitsValue? 16 digits
  | '0' :: 'X' :: digits => digitsValue? 16 digits
  | '0' :: d :: digits => digitsValue? 8 (d :: digits)
  | digits => digitsValue? 10 digits

/-- The parts of a host between full stops, without an empty one at the end. -/
def ipv4Parts (host : List Char) : List (List Char) :=
  let parts := Text.fields (· == '.') host
  if parts.getLast? = some [] then parts.dropLast else parts

/-- The last part of a host is a number, so that the host is an IPv4 address. -/
def endsInNumber (host : List Char) : Bool :=
  match (ipv4Parts host).getLast? with
  | none | some [] => false
  | some part => part.all Text.isDigit || (ipv4Part? part).isSome

/-- The value of the parts of an address: bytes, and a last part for the bytes that are left. -/
def ipv4Value? : (left : Nat) → List Nat → Option Nat
  | _, [] => none
  | left, [last] => if last < Nat.pow 256 left then some last else none
  | left, byte :: more =>
    if byte < 256 then (ipv4Value? (left - 1) more).map (byte * Nat.pow 256 (left - 1) + ·)
    else none

/-- The IPv4 address that a host names. -/
def ipv4? (host : List Char) : Option Nat :=
  let parts := ipv4Parts host
  if 4 < parts.length then none else (parts.mapM ipv4Part?).bind (ipv4Value? 4)

/-- An IPv4 address as four decimal bytes. -/
def ipv4Text (address : Nat) : List Char :=
  Text.joinFields ['.']
    ([address / 0x1000000, address / 0x10000 % 0x100, address / 0x100 % 0x100, address % 0x100].map
      Text.decimalText)

/-! ### IPv6 -/

/-- The hexadecimal digits at the front of a text, at most four, with their value. -/
def hexPiece : (most value : Nat) → List Char → Nat × Nat × List Char
  | 0, value, s => (0, value, s)
  | _ + 1, value, [] => (0, value, [])
  | most + 1, value, c :: rest =>
    match Text.hexValue? c with
    | some d =>
      let (count, value, rest) := hexPiece most (value * 16 + d) rest
      (count + 1, value, rest)
    | none => (0, value, c :: rest)

/-- A byte of an embedded IPv4 address: decimal, without leading zeros. -/
def decimalByte? (s : List Char) : Option (Nat × List Char) :=
  match s.takeWhile Text.isDigit, s.dropWhile Text.isDigit with
  | [], _ => none
  | digits, rest =>
    let value := Text.decimalValue digits
    if 255 < value || (digits.head? = some '0' && digits ≠ ['0']) then none else some (value, rest)

/-- Four bytes with full stops between them, up to the end of the text. -/
def embeddedIpv4? (s : List Char) : Option (List Nat) :=
  match decimalByte? s with
  | some (a, '.' :: s) =>
    match decimalByte? s with
    | some (b, '.' :: s) =>
      match decimalByte? s with
      | some (c, '.' :: s) =>
        match decimalByte? s with
        | some (d, []) => some [a * 256 + b, c * 256 + d]
        | _ => none
      | _ => none
    | _ => none
  | _ => none

/-- How many of the eight places are taken; `::` stands for at least one. -/
def placesTaken (pieces : List Nat) (gap : Option Nat) : Nat :=
  pieces.length + (if gap.isSome then 1 else 0)

/-- The pieces of an address from the front of a piece on. `pieces` are those read so far, last
first; `gap` is how many of them stand before `::`. -/
def ipv6Pieces : (fuel : Nat) → (pieces : List Nat) → (gap : Option Nat) → List Char →
    Option (List Nat × Option Nat)
  | 0, _, _, _ => none
  | _ + 1, pieces, gap, [] => some (pieces, gap)
  | fuel + 1, pieces, gap, c :: rest =>
    if placesTaken pieces gap = 8 then none
    else if c = ':' then
      if gap.isSome then none else ipv6Pieces fuel pieces (some pieces.length) rest
    else
      let (count, value, after) := hexPiece 4 0 (c :: rest)
      if count = 0 then none
      else
        match after with
        | [] => some (value :: pieces, gap)
        | '.' :: _ =>
          if 6 < placesTaken pieces gap then none
          else (embeddedIpv4? (c :: rest)).map fun last => (last.reverse ++ pieces, gap)
        | ':' :: d :: after => ipv6Pieces fuel (value :: pieces) gap (d :: after)
        | _ => none

/-- The IPv6 address, as eight pieces, that a text names. -/
def ipv6? (s : List Char) : Option (List Nat) :=
  let read :=
    match s with
    | ':' :: ':' :: rest => ipv6Pieces (s.length + 1) [] (some 0) rest
    | [] | ':' :: _ => none
    | _ => ipv6Pieces (s.length + 1) [] none s
  match read with
  | none => none
  | some (pieces, none) => if pieces.length = 8 then some pieces.reverse else none
  | some (pieces, some gap) =>
    let inOrder := pieces.reverse
    some (inOrder.take gap ++ List.replicate (8 - pieces.length) 0 ++ inOrder.drop gap)

/-- How many zeros the pieces begin with. -/
def leadingZeros (pieces : List Nat) : Nat := (pieces.takeWhile (· = 0)).length

/-- The place and length of the first longest run of zeros; `place` is that of the first
piece. -/
def longestZeros : (place : Nat) → List Nat → Nat × Nat
  | place, [] => (place, 0)
  | place, n :: more =>
    let here := leadingZeros (n :: more)
    let later := longestZeros (place + 1) more
    if later.2 ≤ here then (place, here) else later

/-- Pieces with colons between them. -/
def piecesText (pieces : List Nat) : List Char := Text.joinFields [':'] (pieces.map Text.hexText)

/-- An IPv6 address without its brackets. -/
def ipv6Text (pieces : List Nat) : List Char :=
  let (place, count) := longestZeros 0 pieces
  if count < 2 then piecesText pieces
  else piecesText (pieces.take place) ++ [':', ':'] ++ piecesText (pieces.drop (place + count))

end CallBook.Url
