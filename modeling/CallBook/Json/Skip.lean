import CallBook.Json.Lexeme

/-!
# Skipping a value

A field that nobody asked for is read over without keeping it. The brackets that are open are a
list of frames, so the depth is not limited; numbers may have any size and escapes may name half a
surrogate pair. Faults in the form of the text are found as elsewhere, except that a bracket or
brace after a comma counts as a missing value or key.
-/

namespace CallBook.Json

/-- An open bracket. -/
inductive Frame
  | list
  | object
  deriving DecidableEq, Repr

namespace Frame

/-- The bracket that closes a frame. -/
def closing : Frame → Char
  | list => ']'
  | object => '}'

/-- The text ends inside the frame. -/
def atEnd : Frame → Cause
  | list => .endInList
  | object => .endInObject

/-- Neither a comma nor the closing bracket follows. -/
def noComma : Frame → Cause
  | list => .noListComma
  | object => .noObjectComma

end Frame

/-- Skips a string, from after its opening quote on. -/
def skipString : List Char → Except Fault (List Char)
  | [] => .error (.before .endInString [])
  | '\\' :: rest =>
    match rest with
    | [] => .error (.before .endInString [])
    | c :: rest' =>
      if "\"\\/bfnrt".toList.contains c then skipString rest'
      else if c = 'u' then
        match hexQuad rest' with
        | .error fault => .error fault
        | .ok _ =>
          match rest' with
          | _ :: _ :: _ :: _ :: rest'' => skipString rest''
          | _ => .error (.before .endInString [])
      else .error (.onNext .badEscape rest)
  | c :: rest =>
    if c = '"' then .ok rest
    else if c.toNat < 32 then .error (.before .controlInString (c :: rest))
    else skipString rest

/-- Skips the exponent of a number, from after its letter on. -/
def skipExponent (s : List Char) : Except Fault (List Char) :=
  let s :=
    match s with
    | c :: rest => if c = '+' || c = '-' then rest else s
    | [] => s
  match s with
  | c :: rest =>
    if Text.isDigit c then .ok (rest.dropWhile Text.isDigit) else .error (.onNext .badNumber s)
  | [] => .error (.before .badNumber [])

/-- Skips what may follow the digits of a number's fraction. -/
def skipOptionalExponent (s : List Char) : Except Fault (List Char) :=
  match s with
  | c :: rest => if c = 'e' || c = 'E' then skipExponent rest else .ok s
  | [] => .ok s

/-- Skips what may follow the whole part of a number. -/
def skipAfterWhole (s : List Char) : Except Fault (List Char) :=
  match s with
  | c :: rest =>
    if c = '.' then
      match rest with
      | d :: _ =>
        if Text.isDigit d then skipOptionalExponent (rest.dropWhile Text.isDigit)
        else .error (.onNext .badNumber rest)
      | [] => .error (.before .badNumber [])
    else skipOptionalExponent s
  | [] => .ok s

/-- Skips a number, from after its sign on. -/
def skipNumber (s : List Char) : Except Fault (List Char) :=
  match s with
  | [] => .error (.before .badNumber [])
  | c :: rest =>
    if c = '0' then
      match rest with
      | d :: _ => if Text.isDigit d then .error (.onNext .badNumber rest) else skipAfterWhole rest
      | [] => .ok []
    else if Text.isDigit c then skipAfterWhole (rest.dropWhile Text.isDigit)
    else .error (.onNext .badNumber s)

/-- Skips a value that holds no others, its first character being `c`. -/
def skipScalar (c : Char) (rest : List Char) : Except Fault (List Char) :=
  if c = 'n' then (word "ull".toList rest).map Prod.snd
  else if c = 't' then (word "rue".toList rest).map Prod.snd
  else if c = 'f' then (word "alse".toList rest).map Prod.snd
  else if c = '-' then skipNumber rest
  else if Text.isDigit c then skipNumber (c :: rest)
  else if c = '"' then skipString rest
  else .error (.onNext .noValue (c :: rest))

/-- Skips a key and its colon. -/
def skipKey (s : List Char) : Except Fault (List Char) :=
  match skipBlanks s with
  | [] => .error (.before .endInObject [])
  | c :: rest =>
    if c = '"' then
      match skipString rest with
      | .error fault => .error fault
      | .ok rest =>
        match skipBlanks rest with
        | [] => .error (.before .endInObject [])
        | c :: rest => if c = ':' then .ok rest else .error (.onNext .noColon (c :: rest))
    else .error (.onNext .keyNotString (c :: rest))

/-- Where the skipping stands. -/
inductive Stage
  /-- A value is to follow. -/
  | value
  /-- An item or a key is to follow in the innermost frame. -/
  | inside
  /-- A bracket was just opened. -/
  | opened
  /-- A value was just finished. -/
  | done
  deriving DecidableEq, Repr

/-- Skips on from a stage; `fuel` bounds the steps, of which there are at most three for each
character. -/
def skipFrom : (fuel : Nat) → Stage → List Frame → List Char → Except Fault (List Char)
  | 0, _, _, s => .error (.before .endInValue s)
  | fuel + 1, .value, frames, s =>
    match skipBlanks s with
    | [] => .error (.before .endInValue [])
    | c :: rest =>
      if c = '[' then skipFrom fuel .opened (.list :: frames) rest
      else if c = '{' then skipFrom fuel .opened (.object :: frames) rest
      else
        match skipScalar c rest with
        | .error fault => .error fault
        | .ok rest => skipFrom fuel .done frames rest
  | fuel + 1, .inside, frames, s =>
    match frames with
    | .object :: _ =>
      match skipKey s with
      | .error fault => .error fault
      | .ok rest => skipFrom fuel .value frames rest
    | _ => skipFrom fuel .value frames s
  | _ + 1, .opened, [], s => .ok s
  | fuel + 1, .opened, frame :: frames, s =>
    match skipBlanks s with
    | [] => .error (.before frame.atEnd [])
    | c :: rest =>
      if c = frame.closing then skipFrom fuel .done frames rest
      else skipFrom fuel .inside (frame :: frames) (c :: rest)
  | _ + 1, .done, [], s => .ok s
  | fuel + 1, .done, frame :: frames, s =>
    match skipBlanks s with
    | [] => .error (.before frame.atEnd [])
    | c :: rest =>
      if c = ',' then skipFrom fuel .inside (frame :: frames) rest
      else if c = frame.closing then skipFrom fuel .done frames rest
      else .error (.onNext frame.noComma (c :: rest))

/-- Behind a value that no bracket holds there is nothing left to skip. -/
theorem skipFrom_done (fuel : Nat) (s : List Char) : skipFrom (fuel + 1) .done [] s = .ok s := by
  rw [skipFrom]

/-- Reads over a value of any kind. -/
def skipValue : Reader Unit := fun s =>
  (skipFrom (3 * s.length + 3) .value [] s).map fun rest => ((), rest)

end CallBook.Json
