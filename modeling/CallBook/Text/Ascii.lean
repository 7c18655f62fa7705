/-!
# ASCII letters and digits

Header names, option words and schemes are compared without regard to the case of the 26 Latin
letters, and only of those: `İ` and `i` stay different. Hexadecimal digits are read here in both
cases and written in lower or upper case as the format asks.
-/

namespace CallBook.Text

/-- The text with the letters `A` to `Z` in lower case. -/
def lowerAscii (s : String) : String := String.ofList (s.toList.map Char.toLower)

/-- Equal up to the case of ASCII letters. -/
def sameIgnoringCase (a b : String) : Bool := lowerAscii a == lowerAscii b

/-- A letter `a` to `z` or `A` to `Z`. -/
def isAsciiLetter (c : Char) : Bool := c.isAlpha

/-- A digit `0` to `9`. -/
def isDigit (c : Char) : Bool := c.isDigit

/-- The value of a hexadecimal digit of either case. -/
def hexValue? (c : Char) : Option Nat :=
  let n := c.toNat
  if 48 ≤ n && n ≤ 57 then some (n - 48)
  else if 97 ≤ n && n ≤ 102 then some (n - 87)
  else if 65 ≤ n && n ≤ 70 then some (n - 55)
  else none

/-- A hexadecimal digit of either case. -/
def isHexDigit (c : Char) : Bool := (hexValue? c).isSome

/-- The digit of a value below 16, in lower case. -/
def hexDigit (n : Nat) : Char :=
  if n < 10 then Char.ofNat (48 + n) else Char.ofNat (87 + n)

/-- The digit of a value below 16, in upper case. -/
def upperHexDigit (n : Nat) : Char :=
  if n < 10 then Char.ofNat (48 + n) else Char.ofNat (55 + n)

/-- A number in hexadecimal, lower case, without leading zeros. -/
def hexText (n : Nat) : List Char := (Nat.toDigits 16 n)

/-- A number in decimal. -/
def decimalText (n : Nat) : List Char := Nat.toDigits 10 n

/-- `decimalText` on strings. -/
def decimal (n : Nat) : String := String.ofList (decimalText n)

/-- The value of a run of decimal digits. -/
def decimalValue (digits : List Char) : Nat :=
  digits.foldl (fun n c => 10 * n + (c.toNat - 48)) 0

end CallBook.Text
