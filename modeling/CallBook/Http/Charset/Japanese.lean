import CallBook.Http.Charset.CharIndex
import CallBook.Http.Charset.JisIndex

/-!
# Japanese encodings

Three encodings of the same characters. Shift JIS and EUC write a character in one, two or three
bytes with the high bit set in the first. ISO 2022 has bytes without the high bit only; escape
sequences say how those after them are to be read.
-/

namespace CallBook.Http

open CallBook.Text

/-- The narrow katakana, counted from the first. -/
def narrowKatakana (n : Nat) : Char := Char.ofNat (0xFF61 + n)

/-! ### Shift JIS -/

/-- A byte of its own in Shift JIS. -/
def shiftJisSingle? (n : Nat) : Option Char :=
  if n ≤ 0x80 then some (Char.ofNat n)
  else if 0xA1 ≤ n ∧ n ≤ 0xDF then some (narrowKatakana (n - 0xA1))
  else none

/-- A byte that begins a pair in Shift JIS. -/
def shiftJisBegins (n : Nat) : Bool := (0x81 ≤ n && n ≤ 0x9F) || (0xE0 ≤ n && n ≤ 0xFC)

/-- A pair in Shift JIS; some places are for private use. -/
def shiftJisPair (a b : Nat) : List Char :=
  if (0x40 ≤ b ∧ b ≤ 0x7E) ∨ (0x80 ≤ b ∧ b ≤ 0xFC) then
    let row := a - (if a < 0xA0 then 0x81 else 0xC1)
    let place := row * 188 + b - (if b < 0x7F then 0x40 else 0x41)
    if 8836 ≤ place ∧ place ≤ 10715 then [Char.ofNat (0xE000 + place - 8836)]
    else (indexChar? place jis0208).toList
  else []

/-- The text of bytes in Shift JIS. -/
def shiftJisText : List UInt8 → List Char := pairs shiftJisSingle? shiftJisBegins shiftJisPair

/-! ### EUC -/

/-- A byte of a character in EUC. -/
def isEucByte (n : Nat) : Bool := 0xA1 ≤ n && n ≤ 0xFE

/-- The place of a pair with 94 places to a row, from its first byte `low` on. -/
def rowPlace (low a b : Nat) : Nat := (a - low) * 94 + (b - low)

/-- A pair in EUC. -/
def eucPair? (a b : Nat) : Option Char :=
  if a = 0x8E then
    if 0xA1 ≤ b ∧ b ≤ 0xDF then some (narrowKatakana (b - 0xA1)) else none
  else if isEucByte a && isEucByte b then indexChar? (rowPlace 0xA1 a b) jis0208
  else none

/-- Three bytes in EUC, the first of them being 0x8F. -/
def eucTriple? (a b : Nat) : Option Char :=
  if isEucByte b then indexChar? (rowPlace 0xA1 a b) jis0212 else none

/-- The text of bytes in EUC. -/
def eucText : List UInt8 → List Char
  | [] => []
  | a :: rest =>
    if a < 128 then Char.ofNat a.toNat :: eucText rest
    else if !(a = 0x8E || a = 0x8F || isEucByte a.toNat) then Utf8.replacement :: eucText rest
    else
      match rest with
      | [] => [Utf8.replacement]
      | b :: more =>
        if a = 0x8F && isEucByte b.toNat then
          match more with
          | [] => [Utf8.replacement]
          | c :: others =>
            match eucTriple? b.toNat c.toNat with
            | some d => d :: eucText others
            | none =>
              Utf8.replacement :: (if c < 128 then eucText (c :: others) else eucText others)
        else
          match eucPair? a.toNat b.toNat with
          | some d => d :: eucText more
          | none => Utf8.replacement :: (if b < 128 then eucText (b :: more) else eucText more)

/-! ### ISO 2022 -/

/-- How bytes are read in ISO 2022. -/
inductive JisMode
  | ascii
  | roman
  | katakana
  | pairs
  deriving DecidableEq, Repr

/-- The mode that an escape sequence names. -/
def JisMode.ofEscape? (a b : UInt8) : Option JisMode :=
  match a.toNat, b.toNat with
  | 0x28, 0x42 => some ascii
  | 0x28, 0x4A => some roman
  | 0x28, 0x49 => some katakana
  | 0x24, 0x40 => some pairs
  | 0x24, 0x42 => some pairs
  | _, _ => none

/-- A byte of its own in a mode. -/
def JisMode.single? (n : Nat) : JisMode → Option Char
  | ascii => if n = 0x0E ∨ n = 0x0F then none else asciiChar? n
  | roman =>
    if n = 0x5C then some '\u00A5'
    else if n = 0x7E then some '\u203E'
    else if n = 0x0E ∨ n = 0x0F then none
    else asciiChar? n
  | katakana => if 0x21 ≤ n ∧ n ≤ 0x5F then some (narrowKatakana (n - 0x21)) else none
  | pairs => none

/-- A byte of a pair in ISO 2022. -/
def isJisByte (n : Nat) : Bool := 0x21 ≤ n && n ≤ 0x7E

/-- The text of bytes in ISO 2022. `switched` says that an escape sequence has just been read:
another behind it is broken. -/
def iso2022Text : JisMode → (switched : Bool) → List UInt8 → List Char
  | _, _, [] => []
  | mode, switched, a :: rest =>
    if a = 0x1B then
      match rest with
      | b :: c :: more =>
        match JisMode.ofEscape? b c with
        | some next => (if switched then [Utf8.replacement] else []) ++ iso2022Text next true more
        | none => Utf8.replacement :: iso2022Text mode false (b :: c :: more)
      | others => Utf8.replacement :: iso2022Text mode false others
    else if mode = .pairs && isJisByte a.toNat then
      match rest with
      | [] => [Utf8.replacement]
      | b :: more =>
        if b = 0x1B then Utf8.replacement :: iso2022Text mode false (b :: more)
        else
          let c := if isJisByte b.toNat then indexChar? (rowPlace 0x21 a.toNat b.toNat) jis0208
            else none
          c.getD Utf8.replacement :: iso2022Text mode false more
    else
      match mode.single? a.toNat with
      | some c => c :: iso2022Text mode false rest
      | none => Utf8.replacement :: iso2022Text mode false rest

end CallBook.Http
