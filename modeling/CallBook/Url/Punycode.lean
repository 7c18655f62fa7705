import CallBook.Text.Ascii

/-!
# Punycode

A label with characters outside ASCII is written in ASCII: its ASCII characters first, a hyphen,
and then where the others have to be inserted, in ascending order, each as a number in base 36 with
digits `a` to `z` and `0` to `9` whose length adapts to the numbers before it.
-/

namespace CallBook.Url.Punycode

/-- The digit of a value below 36. -/
def digit (n : Nat) : Char := if n < 26 then Char.ofNat (97 + n) else Char.ofNat (22 + n)

/-- The value of a digit. -/
def digitValue? (c : Char) : Option Nat :=
  let n := c.toNat
  if 97 ≤ n ∧ n ≤ 122 then some (n - 97)
  else if 65 ≤ n ∧ n ≤ 90 then some (n - 65)
  else if 48 ≤ n ∧ n ≤ 57 then some (n - 22)
  else none

/-- The least value of a digit that is not the last of its number. -/
def threshold (k bias : Nat) : Nat := if k ≤ bias then 1 else if bias + 26 ≤ k then 26 else k - bias

theorem threshold_pos (k bias : Nat) : 1 ≤ threshold k bias := by
  unfold threshold; split <;> (try split) <;> omega

theorem threshold_le (k bias : Nat) : threshold k bias ≤ 26 := by
  unfold threshold; split <;> (try split) <;> omega

/-- Divides by 35 until at most 455 is left, counting 36 for each division. -/
def settle (delta k : Nat) : Nat × Nat :=
  if 455 < delta then settle (delta / 35) (k + 36) else (delta, k)
  termination_by delta
  decreasing_by omega

/-- The bias after a number; `points` is how many characters the label has by then. -/
def adapt (delta points : Nat) (first : Bool) : Nat :=
  let delta := if first then delta / 700 else delta / 2
  let (delta, k) := settle (delta + delta / points) 0
  k + 36 * delta / (delta + 38)

/-- A number in digits that adapt to the bias. -/
def number (bias k q : Nat) : List Char :=
  let t := threshold k bias
  if q < t then [digit q]
  else digit (t + (q - t) % (36 - t)) :: number bias (k + 36) ((q - t) / (36 - t))
  termination_by q
  decreasing_by
    have := threshold_pos k bias
    have := threshold_le k bias
    have : (q - threshold k bias) / (36 - threshold k bias) ≤ q - threshold k bias :=
      Nat.div_le_self ..
    omega

/-- Writes the characters of code point `m`; gives the output with the delta, bias and count after
it. -/
def writePoint (m basic : Nat) : (delta bias count : Nat) → List Nat → List Char × Nat × Nat × Nat
  | delta, bias, count, [] => ([], delta, bias, count)
  | delta, bias, count, c :: rest =>
    if c < m then writePoint m basic (delta + 1) bias count rest
    else if c = m then
      let (out, after) :=
        writePoint m basic 0 (adapt delta (count + 1) (count = basic)) (count + 1) rest
      (number bias 36 delta ++ out, after)
    else writePoint m basic delta bias count rest

/-- Writes the code points from `n` on; each round writes at least one of those that are left. -/
def writeFrom (points : List Nat) (basic : Nat) : (fuel n delta bias count : Nat) → List Char
  | 0, _, _, _, _ => []
  | fuel + 1, n, delta, bias, count =>
    match (points.filter (n ≤ ·)).min? with
    | none => []
    | some m =>
      let (out, delta, bias, count) :=
        writePoint m basic (delta + (m - n) * (count + 1)) bias count points
      out ++ writeFrom points basic fuel (m + 1) (delta + 1) bias count

/-- A label in ASCII, without the mark that it is encoded. -/
def encode (label : List Char) : List Char :=
  let points := label.map Char.toNat
  let basic := label.filter fun c => c.toNat < 128
  (if basic.isEmpty then [] else basic ++ ['-'])
    ++ writeFrom points basic.length label.length 128 0 72 basic.length

/-- Reads a number; gives its value and what follows it. -/
def readNumber (bias : Nat) : (k weight value : Nat) → List Char → Option (Nat × List Char)
  | _, _, _, [] => none
  | k, weight, value, c :: rest =>
    match digitValue? c with
    | none => none
    | some d =>
      let value := value + d * weight
      let t := threshold k bias
      if d < t then some (value, rest) else readNumber bias (k + 36) (weight * (36 - t)) value rest

/-- Inserts the characters that the numbers name; each number takes at least one digit. `first` says
that no number was read yet. -/
def readFrom : (fuel n i bias : Nat) → (first : Bool) → (out : List Char) → List Char →
    Option (List Char)
  | _, _, _, _, _, out, [] => some out
  | 0, _, _, _, _, _, _ :: _ => none
  | fuel + 1, n, i, bias, first, out, digits =>
    match readNumber bias 36 1 0 digits with
    | none => none
    | some (delta, rest) =>
      let points := out.length + 1
      let n := n + (i + delta) / points
      let place := (i + delta) % points
      if 0x10FFFF < n ∨ (0xD800 ≤ n ∧ n ≤ 0xDFFF) then none
      else
        readFrom fuel n (place + 1) (adapt delta points first) false
          (out.take place ++ Char.ofNat n :: out.drop place) rest

/-- The text before the last hyphen, and the text after it. A hyphen at the very front separates
nothing. -/
def splitBasic (s : List Char) : List Char × List Char :=
  let after := (s.reverse.takeWhile (· ≠ '-')).reverse
  if s.length ≤ after.length + 1 then ([], s) else (s.take (s.length - after.length - 1), after)

/-- The label of a text in ASCII. -/
def decode? (s : List Char) : Option (List Char) :=
  let (basic, digits) := splitBasic s
  if s.any fun c => 127 < c.toNat then none
  else readFrom digits.length 128 0 72 true basic digits

end CallBook.Url.Punycode
