import CallBook.Json.Reader

/-!
# Reading records

A record is read from an object whose members are its fields in any order, or from a list of its
fields in their own order. A field that is missing keeps its default, an object's unknown members
are skipped, and a field given twice is refused.
-/

namespace CallBook.Json

/-- A field of a record of type `σ`: its key, and how its value changes the record. -/
structure Field (σ : Type) where
  name : String
  read : (depth : Nat) → σ → Reader σ

/-- The field whose value is read by `read` and put into the record by `set`. -/
def Field.of {σ α : Type} (name : String) (read : Nat → Reader α) (set : σ → α → σ) : Field σ :=
  ⟨name, fun depth state s => (read depth s).map fun (a, rest) => (set state a, rest)⟩

/-- What a record does with a member; the fields read so far stand beside it. -/
def fieldMember {σ : Type} (fields : List (Field σ)) (depth : Nat) : Members (σ × List String) :=
  fun (state, seen) key =>
    match fields.find? (·.name == key) with
    | none => .ok fun s => (skipValue s).map fun (_, rest) => ((state, seen), rest)
    | some field =>
      if seen.contains key then .error (.repeatedField key)
      else
        .ok fun s =>
          (field.read depth state s).map fun (state, rest) => ((state, key :: seen), rest)

/-- The fields of a record given as the items of a list; a list that ends early leaves the others
as they are. -/
def fieldItems {σ : Type} (depth : Nat) : (fields : List (Field σ)) → (first : Bool) → σ → Reader σ
  | [], _, state, s => .ok (state, s)
  | field :: fields, first, state, s =>
    match nextItem first s with
    | .error fault => .error fault
    | .ok none => .ok (state, s)
    | .ok (some s) =>
      match field.read depth state s with
      | .error fault => .error fault
      | .ok (state, rest) => fieldItems depth fields false state rest

/-- A record with the given fields, `start` where they are missing. -/
def recordOf {σ : Type} (name : String) (fields : List (Field σ)) (start : σ) (depth : Nat) :
    Reader σ := fun s =>
  match skipBlanks s with
  | [] => .error (.before .endInValue [])
  | c :: rest =>
    if c = '{' then
      deeper depth (c :: rest)
        (fun depth s =>
          (membersOf (fieldMember fields depth) (start, []) s).map fun (state, rest) =>
            (state.1, rest))
        rest
    else if c = '[' then
      deeper depth (c :: rest)
        (fun depth s =>
          match fieldItems depth fields true start s with
          | .error fault => .error fault
          | .ok (state, rest) => (closeList rest).map fun rest => (state, rest))
        rest
    else .error (unwanted (.record name) (c :: rest))

/-- A string, at any depth. -/
def string : Nat → Reader String := fun _ => stringAs .string

/-- A string or `null`. -/
def optionalString : Nat → Reader (Option String) := fun _ => optional (stringAs .string)

/-- An object whose members are strings. -/
def stringMap : Nat → Reader (OrderedMap String) := mapOf string

end CallBook.Json
