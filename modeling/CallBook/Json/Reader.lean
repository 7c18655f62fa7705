import CallBook.Json.Skip

/-!
# Reading JSON

Readers for lists and objects are built from readers for what they hold. `listOf` and `membersOf`
go through the items and members; what an object does with a member is up to a function that, given
the key, either refuses it or answers with the reader for the value. Every list and object is one
level deeper than what holds it, and `maxDepth` levels are read.

`value` reads any JSON value. `readText` reads a whole text with a reader and says where a fault
was found.
-/

namespace CallBook.Json

/-- How many levels of lists and objects are read. -/
def maxDepth : Nat := 127

/-- What a text that holds something unwanted is refused with: a scalar is read, a list or an object
is only looked at. -/
def unwanted (wanted : Wanted) (s : List Char) : Fault :=
  let refuse (found : Found) (rest : List Char) : Fault := .before (.wrongType found wanted) rest
  let after (r : Except Fault (Unit × List Char)) (found : Found) : Fault :=
    match r with
    | .error fault => fault
    | .ok (_, rest) => refuse found rest
  let number (r : Except Fault (Number × List Char)) : Fault :=
    match r with
    | .error fault => fault
    | .ok (n, rest) => refuse (.number n) rest
  match s with
  | [] => .before .noValue []
  | c :: rest =>
    if c = 'n' then after (word "ull".toList rest) .null
    else if c = 't' then after (word "rue".toList rest) (.bool true)
    else if c = 'f' then after (word "alse".toList rest) (.bool false)
    else if c = '-' then number (numberBody true rest)
    else if Text.isDigit c then number (numberBody false s)
    else if c = '"' then
      match stringBody rest with
      | .error fault => fault
      | .ok (text, rest) => refuse (.string text) rest
    else if c = '[' then refuse .sequence s
    else if c = '{' then refuse .map s
    else .onNext .noValue s

/-- A string. -/
def stringAs (wanted : Wanted) : Reader String := fun s =>
  match skipBlanks s with
  | [] => .error (.before .endInValue [])
  | c :: rest => if c = '"' then stringBody rest else .error (unwanted wanted (c :: rest))

/-- `null` for nothing, else what the reader reads. -/
def optional {α : Type} (read : Reader α) : Reader (Option α) := fun s =>
  match skipBlanks s with
  | 'n' :: rest => (word "ull".toList rest).map fun (_, rest) => (none, rest)
  | s => (read s).map fun (a, rest) => (some a, rest)

/-! ### Lists -/

/-- Looks for an item: the text at the item, or nothing at the closing bracket. -/
def nextItem (first : Bool) (s : List Char) : Except Fault (Option (List Char)) :=
  match skipBlanks s with
  | [] => .error (.before .endInList [])
  | c :: rest =>
    if c = ']' then .ok none
    else if first then .ok (some (c :: rest))
    else if c = ',' then
      match skipBlanks rest with
      | [] => .error (.before .endInValue [])
      | d :: rest =>
        if d = ']' then .error (.onNext .trailingComma (d :: rest)) else .ok (some (d :: rest))
    else .error (.onNext .noListComma (c :: rest))

/-- The closing bracket of a list. -/
def closeList (s : List Char) : Except Fault (List Char) :=
  match skipBlanks s with
  | [] => .error (.before .endInList [])
  | c :: rest =>
    if c = ']' then .ok rest
    else if c = ',' then
      match skipBlanks rest with
      | ']' :: rest => .error (.onNext .trailingComma (']' :: rest))
      | rest => .error (.onNext .trailingText rest)
    else .error (.onNext .trailingText (c :: rest))

/-- The items of a list up to its closing bracket; each item takes at least one character, which
bounds the `fuel`. -/
def items {α : Type} (read : Reader α) : (fuel : Nat) → (first : Bool) → Reader (List α)
  | 0, _, s => .error (.before .endInList s)
  | fuel + 1, first, s =>
    match nextItem first s with
    | .error fault => .error fault
    | .ok none => .ok ([], s)
    | .ok (some s) =>
      match read s with
      | .error fault => .error fault
      | .ok (item, rest) =>
        match items read fuel false rest with
        | .error fault => .error fault
        | .ok (more, rest) => .ok (item :: more, rest)

/-- A list, from after its opening bracket on. -/
def listOf {α : Type} (read : Reader α) : Reader (List α) := fun s =>
  match items read (s.length + 1) true s with
  | .error fault => .error fault
  | .ok (list, rest) => (closeList rest).map fun rest => (list, rest)

/-! ### Objects -/

/-- Looks for a key: the text after its opening quote, or nothing at the closing brace. -/
def nextKey (first : Bool) (s : List Char) : Except Fault (Option (List Char)) :=
  match skipBlanks s with
  | [] => .error (.before .endInObject [])
  | c :: rest =>
    if c = '}' then .ok none
    else if first then
      if c = '"' then .ok (some rest) else .error (.onNext .keyNotString (c :: rest))
    else if c = ',' then
      match skipBlanks rest with
      | [] => .error (.before .endInValue [])
      | d :: rest =>
        if d = '"' then .ok (some rest)
        else if d = '}' then .error (.onNext .trailingComma (d :: rest))
        else .error (.onNext .keyNotString (d :: rest))
    else .error (.onNext .noObjectComma (c :: rest))

/-- The closing brace of an object. -/
def closeObject (s : List Char) : Except Fault (List Char) :=
  match skipBlanks s with
  | [] => .error (.before .endInObject [])
  | c :: rest =>
    if c = '}' then .ok rest
    else if c = ',' then .error (.onNext .trailingComma (c :: rest))
    else .error (.onNext .trailingText (c :: rest))

/-- The colon after a key. -/
def colonAfter (s : List Char) : Except Fault (List Char) :=
  match skipBlanks s with
  | [] => .error (.before .endInObject [])
  | c :: rest => if c = ':' then .ok rest else .error (.onNext .noColon (c :: rest))

/-- A refusal of a key, placed after the blanks that follow the key and after a closing brace that
may come next. -/
def refuseKey (cause : Cause) (s : List Char) : Fault :=
  match skipBlanks s with
  | '}' :: rest => .before cause rest
  | s => .before cause s

/-- What an object does with its members: from what was read so far and a key, a refusal or the
reader for the value. -/
abbrev Members (σ : Type) := σ → String → Except Cause (Reader σ)

/-- The members of an object up to its closing brace; each takes at least one character. -/
def members {σ : Type} (step : Members σ) : (fuel : Nat) → (first : Bool) → σ → Reader σ
  | 0, _, _, s => .error (.before .endInObject s)
  | fuel + 1, first, state, s =>
    match nextKey first s with
    | .error fault => .error fault
    | .ok none => .ok (state, s)
    | .ok (some s) =>
      match stringBody s with
      | .error fault => .error fault
      | .ok (key, rest) =>
        match step state key with
        | .error cause => .error (refuseKey cause rest)
        | .ok read =>
          match colonAfter rest with
          | .error fault => .error fault
          | .ok rest =>
            match read rest with
            | .error fault => .error fault
            | .ok (state, rest) => members step fuel false state rest

/-- An object, from after its opening brace on. -/
def membersOf {σ : Type} (step : Members σ) (start : σ) : Reader σ := fun s =>
  match members step (s.length + 1) true start s with
  | .error fault => .error fault
  | .ok (state, rest) => (closeObject rest).map fun rest => (state, rest)

/-- Every member is read by `read` and inserted under its key. -/
def insertMember {α : Type} (read : Reader α) : Members (OrderedMap α) := fun state key =>
  .ok fun s => (read s).map fun (v, rest) => (state.insert key v, rest)

/-! ### Values -/

/-- A value with at most `depth` levels of lists and objects. -/
def value : (depth : Nat) → Reader Value
  | depth, s =>
    match skipBlanks s with
    | [] => .error (.before .endInValue [])
    | c :: rest =>
      if c = 'n' then (word "ull".toList rest).map fun (_, rest) => (.null, rest)
      else if c = 't' then (word "rue".toList rest).map fun (_, rest) => (.bool true, rest)
      else if c = 'f' then (word "alse".toList rest).map fun (_, rest) => (.bool false, rest)
      else if c = '-' then (numberBody true rest).map fun (n, rest) => (.number n, rest)
      else if Text.isDigit c then
        (numberBody false (c :: rest)).map fun (n, rest) => (.number n, rest)
      else if c = '"' then (stringBody rest).map fun (s, rest) => (.string s, rest)
      else if c = '[' || c = '{' then
        match depth with
        | 0 => .error (.onNext .tooDeep (c :: rest))
        | depth + 1 =>
          if c = '[' then (listOf (value depth) rest).map fun (l, rest) => (.array l, rest)
          else
            (membersOf (insertMember (value depth)) .empty rest).map fun (m, rest) =>
              (.object m.entries, rest)
      else .error (.onNext .noValue (c :: rest))

/-- Opens a list or an object one level deeper, if that is not too deep. -/
def deeper {α : Type} (depth : Nat) (s : List Char) (read : Nat → Reader α) (rest : List Char) :
    Except Fault (α × List Char) :=
  match depth with
  | 0 => .error (.onNext .tooDeep s)
  | depth + 1 => read depth rest

/-- An object whose members all have one kind of value. -/
def mapOf {α : Type} (read : Nat → Reader α) (depth : Nat) : Reader (OrderedMap α) := fun s =>
  match skipBlanks s with
  | [] => .error (.before .endInValue [])
  | c :: rest =>
    if c = '{' then
      deeper depth (c :: rest)
        (fun depth => membersOf (insertMember (read depth)) .empty) rest
    else .error (unwanted .map (c :: rest))

/-- A list whose items are all of one kind. -/
def sequenceOf {α : Type} (read : Nat → Reader α) (depth : Nat) : Reader (List α) := fun s =>
  match skipBlanks s with
  | [] => .error (.before .endInValue [])
  | c :: rest =>
    if c = '[' then deeper depth (c :: rest) (fun depth => listOf (read depth)) rest
    else .error (unwanted .sequence (c :: rest))

/-- Reads a whole text: after what the reader takes only blanks may follow. -/
def readChars {α : Type} (read : Reader α) (s : List Char) : Except Fault α :=
  match read s with
  | .error fault => .error fault
  | .ok (a, rest) =>
    match skipBlanks rest with
    | [] => .ok a
    | c :: rest => .error (.onNext .trailingText (c :: rest))

/-- Reads a whole text; a refusal is given in words. -/
def readText {α : Type} (read : Reader α) (text : String) : Except String α :=
  match readChars read text.toList with
  | .error fault => .error (fault.message text.toList)
  | .ok a => .ok a

/-- Reads a text as a JSON value. -/
def parse (text : String) : Except String Value := readText (value maxDepth) text

end CallBook.Json
