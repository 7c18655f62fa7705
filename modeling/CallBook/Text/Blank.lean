/-!
# White space

`isBlank` is the Unicode property `White_Space`: the control characters U+0009 to U+000D and
U+0085, the space, and the spaces and separators of the higher blocks. Names, options and whole
commands are trimmed by it on both sides; a text is blank when nothing is left.
-/

namespace CallBook.Text

/-- A character of the Unicode property `White_Space`. -/
def isBlank (c : Char) : Bool :=
  let n := c.toNat
  (9 ≤ n && n ≤ 13) || n == 0x20 || n == 0x85 || n == 0xA0 || n == 0x1680
    || (0x2000 ≤ n && n ≤ 0x200A) || n == 0x2028 || n == 0x2029 || n == 0x202F
    || n == 0x205F || n == 0x3000

/-- The text without the white space before it. -/
def trimStart (s : List Char) : List Char := s.dropWhile isBlank

/-- The text without the white space after it. -/
def trimEnd (s : List Char) : List Char := (s.reverse.dropWhile isBlank).reverse

/-- The text without the white space around it. -/
def trim (s : List Char) : List Char := trimEnd (trimStart s)

/-- `trim` on strings. -/
def trimmed (s : String) : String := String.ofList (trim s.toList)

/-- Only white space, or nothing at all. -/
def isBlankText (s : List Char) : Bool := s.all isBlank

theorem trimStart_cons_of_not_blank {c : Char} (h : isBlank c = false) (s : List Char) :
    trimStart (c :: s) = c :: s := by
  simp [trimStart, h]

theorem trimEnd_append_of_not_blank {c : Char} (h : isBlank c = false) (s : List Char) :
    trimEnd (s ++ [c]) = s ++ [c] := by
  simp [trimEnd, h]

end CallBook.Text
