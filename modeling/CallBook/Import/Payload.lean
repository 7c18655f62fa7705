import CallBook.Text.Blank
import CallBook.Text.Search
import CallBook.Json.Reader
import CallBook.Json.Writer

/-!
# Payloads as fields

The body of a saved call is a map of fields. A payload that is a JSON object gives its top-level
members: strings as they are, other values as compact JSON. A payload that only looks like an
object is scanned for pairs of a quoted key and a value, quoted or bare. Anything else becomes the
one field `data`.

The loose scan tries at every quote, from left to right, first a quoted value and then a bare one
that reaches up to the next comma or closing brace; after a pair it goes on behind the value.
-/

namespace CallBook.Import

/-- The fields of a body. -/
abbrev Fields := OrderedMap String

/-- The name of the one field of a payload that is no object. -/
def rawKey : String := "data"

/-- A payload kept whole. -/
def rawFields (payload : String) : Fields := OrderedMap.ofList [(rawKey, payload)]

/-- The text begins with an opening and ends with a closing brace, blanks aside. -/
def looksLikeObject (payload : List Char) : Bool :=
  let inner := Text.trim payload
  inner.head? = some '{' && inner.getLast? = some '}'

/-- The text of a member: strings as they are, other values as compact JSON. -/
def flatText : Json.Value → String
  | .string s => s
  | v => v.compact

/-- The members of an object as texts. -/
def flatten : Json.Value → Option Fields
  | .object members => some (OrderedMap.ofList (members.map fun p => (p.1, flatText p.2)))
  | _ => none

/-- The fields of a payload that is a JSON object. -/
def objectFields? (payload : List Char) : Option Fields :=
  match Json.readChars (Json.value Json.maxDepth) (Text.trim payload) with
  | .ok v => flatten v
  | .error _ => none

/-! ### Loose pairs -/

/-- A quoted text that is not empty, from its opening quote on. -/
def quoted? : List Char → Option (List Char × List Char)
  | [] => none
  | c :: rest =>
    if c ≠ '"' then none
    else
      match rest.takeWhile (· ≠ '"'), rest.dropWhile (· ≠ '"') with
      | d :: text, _ :: after => some (d :: text, after)
      | _, _ => none

/-- A character of a bare value. -/
def isBareChar (c : Char) : Bool := c ≠ ',' && c ≠ '}'

/-- A bare value after a colon. Blanks before it are left out; where nothing else is there, a single
blank is the value. -/
def bare? (s : List Char) : Option (List Char × List Char) :=
  let blanks := s.takeWhile Text.isBlank
  let rest := s.dropWhile Text.isBlank
  match rest.takeWhile isBareChar with
  | [] => blanks.getLast?.map fun blank => ([blank], rest)
  | c :: text => some (c :: text, rest.dropWhile isBareChar)

/-- A key and its value from the opening quote of the key on. -/
def loosePair? (s : List Char) : Option ((List Char × List Char) × List Char) :=
  match quoted? s with
  | none => none
  | some (key, rest) =>
    match rest.dropWhile Text.isBlank with
    | ':' :: rest =>
      match (quoted? (rest.dropWhile Text.isBlank)).or (bare? rest) with
      | some (value, rest) => some ((key, value), rest)
      | none => none
    | _ => none

/-- The pairs of a text; `fuel` bounds their number and the characters between them. -/
def loosePairs : (fuel : Nat) → List Char → List (List Char × List Char)
  | 0, _ => []
  | _ + 1, [] => []
  | fuel + 1, c :: rest =>
    match loosePair? (c :: rest) with
    | some (pair, rest) => pair :: loosePairs fuel rest
    | none => loosePairs fuel rest

/-- The text between the outer braces, or the whole text if it has none. -/
def insideBraces (s : List Char) : List Char :=
  match s with
  | '{' :: rest => if rest.getLast? = some '}' then rest.dropLast else s
  | _ => s

/-- The fields found by the loose scan. -/
def looseFields (payload : List Char) : Fields :=
  let inner := insideBraces (Text.trim payload)
  OrderedMap.ofList ((loosePairs inner.length inner).map fun (key, value) =>
    (String.ofList (Text.trim key), String.ofList (Text.trim value)))

/-- The fields of a payload given to a data option. -/
def payloadFields (payload : String) : Fields :=
  let s := payload.toList
  if !looksLikeObject s then rawFields payload
  else
    match objectFields? s with
    | some fields => fields
    | none =>
      let loose := looseFields s
      if loose.isEmpty then rawFields payload else loose

end CallBook.Import
