import CallBook.Http.Charset.CharIndex
import CallBook.Http.Charset.KoreanIndex

/-!
# The Korean encoding

A character is an ASCII byte or a pair of bytes.
-/

namespace CallBook.Http

/-- A byte that begins a pair. -/
def koreanBegins (n : Nat) : Bool := 0x81 ≤ n && n ≤ 0xFE

/-- A pair of bytes. -/
def koreanPair (a b : Nat) : List Char :=
  if 0x41 ≤ b ∧ b ≤ 0xFE then (indexChar? ((a - 0x81) * 190 + (b - 0x41)) korean).toList else []

/-- The text of bytes in the Korean encoding. -/
def koreanText : List UInt8 → List Char := pairs asciiChar? koreanBegins koreanPair

end CallBook.Http
