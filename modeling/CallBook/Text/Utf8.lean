/-!
# UTF-8

Bytes are cut into units: a unit is a character, or a longest run of bytes that begins a character
but does not finish it. Reading strictly refuses bytes with a broken unit; reading leniently puts
the replacement character in the place of each.
-/

namespace CallBook.Text.Utf8

/-- What the first byte of a character promises: how many more bytes there are, the range of the
next, and the bits of its own. -/
structure Lead where
  tails : Nat
  low : Nat := 0x80
  high : Nat := 0xBF
  bits : Nat
  deriving DecidableEq

/-- Reads a first byte. -/
def lead? (b : Nat) : Option Lead :=
  if b < 0x80 then some { tails := 0, bits := b }
  else if 0xC2 ≤ b ∧ b ≤ 0xDF then some { tails := 1, bits := b - 0xC0 }
  else if b = 0xE0 then some { tails := 2, low := 0xA0, bits := 0 }
  else if b = 0xED then some { tails := 2, high := 0x9F, bits := 0xD }
  else if 0xE1 ≤ b ∧ b ≤ 0xEF then some { tails := 2, bits := b - 0xE0 }
  else if b = 0xF0 then some { tails := 3, low := 0x90, bits := 0 }
  else if 0xF1 ≤ b ∧ b ≤ 0xF3 then some { tails := 3, bits := b - 0xF0 }
  else if b = 0xF4 then some { tails := 3, high := 0x8F, bits := 4 }
  else none

/-- Reads the bytes after the first; `low` and `high` bound the next one. Gives the character, or
nothing if it is not finished, with the bytes that follow. -/
def tails : (count low high bits : Nat) → List UInt8 → Option Char × List UInt8
  | 0, _, _, bits, bytes => (some (Char.ofNat bits), bytes)
  | _ + 1, _, _, _, [] => (none, [])
  | count + 1, low, high, bits, b :: bytes =>
    if low ≤ b.toNat ∧ b.toNat ≤ high then tails count 0x80 0xBF (bits * 64 + b.toNat % 64) bytes
    else (none, b :: bytes)

/-- The unit that begins with a byte, and what follows it. -/
def unit (b : UInt8) (bytes : List UInt8) : Option Char × List UInt8 :=
  match lead? b.toNat with
  | some lead => tails lead.tails lead.low lead.high lead.bits bytes
  | none => (none, bytes)

theorem length_tails (count low high bits : Nat) (bytes : List UInt8) :
    (tails count low high bits bytes).2.length ≤ bytes.length := by
  induction count generalizing low high bits bytes with
  | zero => simp [tails]
  | succ count ih =>
    cases bytes with
    | nil => simp [tails]
    | cons b bytes =>
      simp only [tails]
      split
      · exact Nat.le_succ_of_le (ih ..)
      · simp

theorem length_unit (b : UInt8) (bytes : List UInt8) : (unit b bytes).2.length ≤ bytes.length := by
  unfold unit
  split
  · exact length_tails ..
  · simp

/-- The units of a list of bytes; a broken one is nothing. -/
def units (bytes : List UInt8) : List (Option Char) :=
  match bytes with
  | [] => []
  | b :: bytes => (unit b bytes).1 :: units (unit b bytes).2
  termination_by bytes.length
  decreasing_by
    have := length_unit b bytes
    simp only [List.length_cons]
    omega

/-- The text of bytes that have no broken unit. -/
def decode? (bytes : List UInt8) : Option (List Char) := (units bytes).mapM id

/-- The character in the place of a broken unit. -/
def replacement : Char := '\uFFFD'

/-- The text of any bytes. -/
def decodeLossy (bytes : List UInt8) : List Char := (units bytes).map (·.getD replacement)

/-- The bytes of a text. -/
def encode (s : List Char) : List UInt8 := s.flatMap String.utf8EncodeChar

end CallBook.Text.Utf8
