import CallBook.Text.Ascii

/-!
# Binary floating point

A number that is not an integer of 64 bits is kept as a finite binary64 number. `round` takes a
quotient of naturals to the nearest such number, ties to the even mantissa, and multiplication and
division round the exact result in the same way; all of it is arithmetic on naturals. `digits` is
the way back: the fewest decimal digits that name a number, found by testing the two neighbours of
the number on ever finer decimal grids.
-/

namespace CallBook.Json

/-- The finite number `± mantissa · 2 ^ exponent`. -/
structure Binary64 where
  negative : Bool
  mantissa : Nat
  exponent : Int
  deriving DecidableEq, Repr

namespace Binary64

/-- The least exponent, that of the subnormal numbers. -/
def minExponent : Int := -1074

/-- The greatest exponent of a finite number. -/
def maxExponent : Int := 971

/-- Zero, with a sign. -/
def zero (negative : Bool) : Binary64 := ⟨negative, 0, minExponent⟩

/-- The natural number nearest to `n / d`, the even one of two equally near. -/
def roundDiv (n d : Nat) : Nat :=
  let q := n / d
  let twice := 2 * (n % d)
  if twice < d then q else if d < twice then q + 1 else q + q % 2

/-- `n / (d · 2 ^ e)` as a quotient of naturals. -/
def unscale (n d : Nat) (e : Int) : Nat × Nat :=
  if 0 ≤ e then (n, d * Nat.pow 2 e.toNat) else (n * Nat.pow 2 (-e).toNat, d)

/-- The exponent at which `n / d` has a mantissa of 53 bits, but not below the least. -/
def exponentOf (n d : Nat) : Int :=
  let e : Int := (Nat.log2 n : Int) - (Nat.log2 d : Int) - 53
  let (n', d') := unscale n d e
  max minExponent (if n' < d' * Nat.pow 2 53 then e else e + 1)

/-- The number nearest to `± n / d`, nothing if that is too large to be finite. -/
def round (negative : Bool) (n d : Nat) : Option Binary64 :=
  if n = 0 then some (zero negative)
  else
    let e := exponentOf n d
    let (n', d') := unscale n d e
    let m := roundDiv n' d'
    let (m, e) := if m = Nat.pow 2 53 then (Nat.pow 2 52, e + 1) else (m, e)
    if maxExponent < e then none else some ⟨negative, m, e⟩

/-- The magnitude of a number as a quotient of naturals. -/
def ratio (x : Binary64) : Nat × Nat :=
  if 0 ≤ x.exponent then (x.mantissa * Nat.pow 2 x.exponent.toNat, 1)
  else (x.mantissa, Nat.pow 2 (-x.exponent).toNat)

/-- The number nearest to the product. -/
def mul (x y : Binary64) : Option Binary64 :=
  let (a, b) := x.ratio
  let (c, d) := y.ratio
  round (x.negative != y.negative) (a * c) (b * d)

/-- The number nearest to the quotient; the divisor is not zero. -/
def div (x y : Binary64) : Option Binary64 :=
  let (a, b) := x.ratio
  let (c, d) := y.ratio
  round (x.negative != y.negative) (a * d) (b * c)

/-- The number nearest to a natural number, with a sign. -/
def ofNat (negative : Bool) (n : Nat) : Option Binary64 := round negative n 1

/-- Divides by `10 ^ k` in steps of at most `10 ^ 308`, each rounded. -/
def shrink (x : Binary64) : (steps k : Nat) → Option Binary64
  | 0, k => (ofNat false (Nat.pow 10 k)).bind x.div
  | steps + 1, k =>
    if k ≤ 308 then (ofNat false (Nat.pow 10 k)).bind x.div
    else if x.mantissa = 0 then some x
    else
      match (ofNat false (Nat.pow 10 308)).bind x.div with
      | some y => y.shrink steps (k - 308)
      | none => none

/-- The number read from a significand and a decimal exponent: the significand is rounded first,
then multiplied or divided by powers of ten, rounding each time. Nothing if it is not finite. -/
def ofDecimal (negative : Bool) (significand : Nat) (exponent : Int) : Option Binary64 :=
  match ofNat negative significand with
  | none => none
  | some x =>
    if exponent < 0 then x.shrink ((-exponent).toNat / 308) (-exponent).toNat
    else if exponent ≤ 308 then (ofNat false (Nat.pow 10 exponent.toNat)).bind x.mul
    else if significand = 0 then some x
    else none

/-! ### Fewest digits -/

/-- The real numbers that round to a positive number, as the interval `low .. high` around four
times its mantissa in units of `2 ^ (exponent - 2)`. The lower half is smaller where the next
number below has a smaller exponent. -/
def interval (x : Binary64) : Nat × Nat :=
  let narrow := x.mantissa = Nat.pow 2 52 ∧ minExponent < x.exponent
  (4 * x.mantissa - (if narrow then 1 else 2), 4 * x.mantissa + 2)

/-- `k · 10 ^ e` lies in the interval of `x`; its ends belong to it if the mantissa is even. -/
def holds (x : Binary64) (k : Nat) (e : Int) : Bool :=
  let (low, high) := x.interval
  let (n, d) := unscale 1 1 (2 - x.exponent)
  let n' := if 0 ≤ e then k * Nat.pow 10 e.toNat else k
  let d' := if 0 ≤ e then 1 else Nat.pow 10 (-e).toNat
  if x.mantissa % 2 = 0 then low * n * d' ≤ n' * d && n' * d ≤ high * n * d'
  else low * n * d' < n' * d && n' * d < high * n * d'

/-- The point of the grid of multiples of `10 ^ e` that names `x`: one of its two neighbours, the
nearer one if both do, of two equally near the even one. -/
def onGrid (x : Binary64) (e : Int) : Option Nat :=
  let (n, d) := x.ratio
  let n' := if 0 ≤ e then n else n * Nat.pow 10 (-e).toNat
  let d' := if 0 ≤ e then d * Nat.pow 10 e.toNat else d
  let below := n' / d'
  match x.holds below e, x.holds (below + 1) e with
  | true, true => some (roundDiv n' d')
  | true, false => some below
  | false, true => some (below + 1)
  | false, false => none

/-- Tries ever finer grids from `10 ^ e` on. -/
def onFinerGrids (x : Binary64) (e : Int) : (tries : Nat) → Nat × Int
  | 0 => (x.mantissa, x.exponent)
  | tries + 1 =>
    match x.onGrid e with
    | some k => (k, e)
    | none => onFinerGrids x (e - 1) tries

/-- Removes zeros at the end of a decimal numeral, at most `tries` of them. -/
def stripZeros (k : Nat) (e : Int) : (tries : Nat) → Nat × Int
  | 0 => (k, e)
  | tries + 1 => if k % 10 = 0 && k ≠ 0 then stripZeros (k / 10) (e + 1) tries else (k, e)

/-- The fewest digits that name a number that is not zero, as `k` and `e` of `k · 10 ^ e`. The first
grid is coarser than the number itself. -/
def digits (x : Binary64) : Nat × Int :=
  let (n, d) := x.ratio
  let size : Int := ((Nat.log2 n : Int) - (Nat.log2 d : Int)) * 30103 / 100000
  let (k, e) := x.onFinerGrids (size + 2) 24
  stripZeros k e 24

/-! ### Text -/

/-- How a number is written: positionally when the exponent of its first digit lies from `-5` to
`15`, else with an exponent that carries its sign; always with a point or an exponent. -/
def text (x : Binary64) : List Char :=
  let sign := if x.negative then ['-'] else []
  if x.mantissa = 0 then sign ++ "0.0".toList
  else
    let (k, e) := x.digits
    let ds := Text.decimalText k
    let point : Int := e + ds.length - 1
    let body :=
      if -5 ≤ point ∧ point < 0 then
        "0.".toList ++ List.replicate (-point - 1).toNat '0' ++ ds
      else if 0 ≤ point ∧ point ≤ 15 then
        let whole := point.toNat + 1
        if ds.length ≤ whole then ds ++ List.replicate (whole - ds.length) '0' ++ ".0".toList
        else ds.take whole ++ ['.'] ++ ds.drop whole
      else
        let power := Text.decimalText point.natAbs
        (match ds with
          | [d] => [d]
          | d :: more => d :: '.' :: more
          | [] => [])
        ++ ['e', if point < 0 then '-' else '+'] ++ power
    sign ++ body

end Binary64

end CallBook.Json
