import CallBook.OrderedMap
import CallBook.Json.Binary64

/-!
# JSON values

Integers that fit 64 bits, signed or unsigned, stay integers; every other number is binary floating
point. The members of an object are a list of pairs in insertion order; objects that come from a
text have no repeated key (`Value.WellFormed`).
-/

namespace CallBook.Json

/-- A JSON number. -/
inductive Number
  | integer (n : Int)
  | double (x : Binary64)
  deriving DecidableEq, Repr

namespace Number

/-- The integers that are kept as integers: those that fit 64 bits, signed or unsigned. -/
def fits (n : Int) : Bool := -(Nat.pow 2 63 : Nat) ≤ n && n < (Nat.pow 2 64 : Nat)

/-- A natural number or its negative in decimal. -/
def integerText (n : Int) : List Char :=
  if n < 0 then '-' :: Text.decimalText n.natAbs else Text.decimalText n.natAbs

/-- The text of a number. -/
def text : Number → List Char
  | integer n => integerText n
  | double x => x.text

end Number

/-- A JSON value. -/
inductive Value
  | null
  | bool (b : Bool)
  | number (n : Number)
  | string (s : String)
  | array (items : List Value)
  | object (members : List (String × Value))
  deriving Repr, Inhabited

namespace Value

/-- The member of an object with this key. -/
def member? (key : String) : Value → Option Value
  | object members => Entries.lookup key members
  | _ => none

/-- The text of a string value. -/
def text? : Value → Option String
  | string s => some s
  | _ => none

/-- An object of texts. -/
def ofTexts (m : OrderedMap String) : Value :=
  object (m.entries.map fun p => (p.1, string p.2))

mutual

/-- No object in the value has a repeated key, and every integer fits 64 bits. -/
def WellFormed : Value → Prop
  | null | bool _ | string _ => True
  | number (.integer n) => Number.fits n = true
  | number (.double _) => True
  | array items => WellFormedItems items
  | object members => (Entries.keys members).Nodup ∧ WellFormedMembers members

/-- Every value of a list is well formed. -/
def WellFormedItems : List Value → Prop
  | [] => True
  | v :: more => WellFormed v ∧ WellFormedItems more

/-- The value of every member is well formed. -/
def WellFormedMembers : List (String × Value) → Prop
  | [] => True
  | (_, v) :: more => WellFormed v ∧ WellFormedMembers more

end

mutual

/-- How deeply arrays and objects are nested. -/
def nesting : Value → Nat
  | array items => nestingItems items + 1
  | object members => nestingMembers members + 1
  | _ => 0

/-- The deepest nesting in a list of values. -/
def nestingItems : List Value → Nat
  | [] => 0
  | v :: more => max (nesting v) (nestingItems more)

/-- The deepest nesting in a list of members. -/
def nestingMembers : List (String × Value) → Nat
  | [] => 0
  | (_, v) :: more => max (nesting v) (nestingMembers more)

end

end Value

end CallBook.Json
