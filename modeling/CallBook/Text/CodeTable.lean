import CallBook.Text.Ascii

/-!
# Tables of code points

The Unicode properties used here are kept as lines of text: rows separated by `;`, the numbers of a
row separated by blanks, every number in hexadecimal. `rows` reads such lines once into lists of
numbers. A range table has rows `first last`, or a single number for a range of one, in ascending
order; `inRanges` looks a code point up.
-/

namespace CallBook.Text.CodeTable

/-- Reads rows from the end of the text to its front: `number` is the value of the digits that
follow the place, `scale` the weight of the next digit. -/
def rowsFrom : List Char → (number scale : Nat) → (row : List Nat) → List (List Nat) →
    List (List Nat)
  | [], number, _, row, rows => (number :: row) :: rows
  | c :: before, number, scale, row, rows =>
    match hexValue? c with
    | some digit => rowsFrom before (number + digit * scale) (scale * 16) row rows
    | none =>
      if c = ';' then rowsFrom before 0 1 [] ((number :: row) :: rows)
      else rowsFrom before 0 1 (number :: row) rows

/-- The rows of a table. -/
def rows (lines : List String) : List (List Nat) :=
  lines.flatMap fun line => rowsFrom line.toList.reverse 0 1 [] []

/-- The ranges of a range table. -/
def ranges (lines : List String) : List (Nat × Nat) :=
  (rows lines).map fun
    | [first, last] => (first, last)
    | first :: _ => (first, first)
    | [] => (0, 0)

/-- A code point lies in one of the ascending ranges. -/
def inRanges (n : Nat) : List (Nat × Nat) → Bool
  | [] => false
  | (first, last) :: more => first ≤ n && (n ≤ last || inRanges n more)

/-- The class of a code point in ascending rows `first last class`, zero outside of them. -/
def classIn (n : Nat) : List (List Nat) → Nat
  | [first, last, k] :: more => if n < first then 0 else if n ≤ last then k else classIn n more
  | _ => 0

/-- Where a code point goes by ascending rows `first last step target`: every `step`-th code point
from `first` to `last` lies as far from its image as `first` lies from `target`. -/
def shifted? (n : Nat) : List (List Nat) → Option Nat
  | [first, last, step, target] :: more =>
    if n < first then none
    else if n ≤ last && (n - first) % step == 0 then some (target + n - first)
    else shifted? n more
  | _ => none

end CallBook.Text.CodeTable
