import CallBook.Text.Utf8

/-!
# Characters by place

Encodings of two bytes number their characters by place. An index is a list of lines in ascending
order, each with the place of its first character; a place without a character is in no line, or
holds the replacement character.

`pairs` decodes bytes of which some are characters of their own and others begin a pair. A pair
without a character is broken; its second byte is then read again if it is an ASCII character.
-/

namespace CallBook.Http

open CallBook.Text

/-- The character in a line. -/
def lineChar? (place start : Nat) (line : String) : Option Char :=
  if place < start then none else (line.toList[place - start]?).filter (· ≠ Utf8.replacement)

/-- The character at a place of an index. -/
def indexChar? (place : Nat) : List (Nat × String) → Option Char
  | [] => none
  | [(start, line)] => lineChar? place start line
  | (start, line) :: (next, other) :: more =>
    if place < next then lineChar? place start line else indexChar? place ((next, other) :: more)

/-- The text of bytes: `one` gives the text of a byte of its own, `two` that of a pair; a byte that
is not of its own begins a pair if `begins` says so. -/
def pairs (one : Nat → Option Char) (begins : Nat → Bool) (two : Nat → Nat → List Char) :
    List UInt8 → List Char
  | [] => []
  | a :: rest =>
    match one a.toNat with
    | some c => c :: pairs one begins two rest
    | none =>
      if begins a.toNat then
        match rest with
        | [] => [Utf8.replacement]
        | b :: more =>
          match two a.toNat b.toNat with
          | c :: text => c :: text ++ pairs one begins two more
          | [] =>
            Utf8.replacement
              :: (if b < 128 then pairs one begins two (b :: more) else pairs one begins two more)
      else Utf8.replacement :: pairs one begins two rest

/-- An ASCII character. -/
def asciiChar? (n : Nat) : Option Char := if n < 128 then some (Char.ofNat n) else none

end CallBook.Http
