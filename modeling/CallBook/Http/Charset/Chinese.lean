import CallBook.Http.Charset.BigFiveIndex
import CallBook.Http.Charset.CharIndex
import CallBook.Http.Charset.GuobiaoIndex

/-!
# Chinese encodings

GB 18030 writes a character in one, two or four bytes, Big5 in one or two. What is left of a group
of four bytes that is broken is read again.
-/

namespace CallBook.Http

open CallBook.Text

/-- A byte that begins a group. -/
def beginsGroup (n : Nat) : Bool := 0x81 ≤ n && n ≤ 0xFE

/-! ### GB 18030 -/

/-- A pair in GB 18030. -/
def guobiaoPair? (a b : Nat) : Option Char :=
  if (0x40 ≤ b ∧ b ≤ 0x7E) ∨ (0x80 ≤ b ∧ b ≤ 0xFE) then
    let place := (a - 0x81) * 190 + b - (if b < 0x7F then 0x40 else 0x41)
    match CodeTable.shifted? place guobiaoPrivate with
    | some n => some (Char.ofNat n)
    | none => indexChar? place guobiao
  else none

/-- The code point at a place by ascending rows `first target`, each good up to the next. -/
def ranged (place : Nat) : (shift : Nat × Nat) → List (List Nat) → Nat
  | shift, [first, target] :: more =>
    if place < first then shift.2 + place - shift.1 else ranged place (first, target) more
  | shift, _ => shift.2 + place - shift.1

/-- Four bytes in GB 18030. -/
def guobiaoFour? (a b c d : Nat) : Option Char :=
  let place := (((a - 0x81) * 10 + (b - 0x30)) * 126 + (c - 0x81)) * 10 + (d - 0x30)
  if place = 7457 then some '\uE7C7'
  else if place ≤ 39419 then some (Char.ofNat (ranged place (0, 0x80) guobiaoRanges))
  else if 189000 ≤ place ∧ place ≤ 1237575 then some (Char.ofNat (0x10000 + place - 189000))
  else none

/-- A digit in a group of four bytes. -/
def isGroupDigit (n : Nat) : Bool := 0x30 ≤ n && n ≤ 0x39

/-- The text of bytes in GB 18030. -/
def guobiaoText : List UInt8 → List Char
  | [] => []
  | a :: rest =>
    if a < 128 then Char.ofNat a.toNat :: guobiaoText rest
    else if a = 0x80 then '\u20AC' :: guobiaoText rest
    else if a = 0xFF then Utf8.replacement :: guobiaoText rest
    else
      match rest with
      | [] => [Utf8.replacement]
      | b :: more =>
        if isGroupDigit b.toNat then
          match more with
          | [] => [Utf8.replacement]
          | c :: others =>
            if beginsGroup c.toNat then
              match others with
              | [] => [Utf8.replacement]
              | d :: last =>
                if isGroupDigit d.toNat then
                  (guobiaoFour? a.toNat b.toNat c.toNat d.toNat).getD Utf8.replacement
                    :: guobiaoText last
                else Utf8.replacement :: guobiaoText (b :: c :: d :: last)
            else Utf8.replacement :: guobiaoText (b :: c :: others)
        else
          match guobiaoPair? a.toNat b.toNat with
          | some c => c :: guobiaoText more
          | none =>
            Utf8.replacement :: (if b < 128 then guobiaoText (b :: more) else guobiaoText more)

/-! ### Big5 -/

/-- A pair in Big5; four of them stand for a letter with a mark. -/
def bigFivePair (a b : Nat) : List Char :=
  if (0x40 ≤ b ∧ b ≤ 0x7E) ∨ (0xA1 ≤ b ∧ b ≤ 0xFE) then
    let place := (a - 0x81) * 157 + b - (if b < 0x7F then 0x40 else 0x62)
    match place with
    | 1133 => ['\u00CA', '\u0304']
    | 1135 => ['\u00CA', '\u030C']
    | 1164 => ['\u00EA', '\u0304']
    | 1166 => ['\u00EA', '\u030C']
    | _ => (indexChar? place bigFive).toList
  else []

/-- The text of bytes in Big5. -/
def bigFiveText : List UInt8 → List Char := pairs asciiChar? beginsGroup bigFivePair

end CallBook.Http
