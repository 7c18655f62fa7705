import CallBook.Json.Fault

/-!
# Words of JSON

The parts of a JSON text that hold no other values: blanks, the words `null`, `true` and `false`,
strings and numbers. A reader takes the text that is left and gives what it read together with the
rest, or the fault that stopped it.

A number is read into a significand of 64 bits and a decimal exponent; digits that no longer fit
the significand only move the exponent. Strings give one Unicode character for two escaped halves
of a surrogate pair and refuse a half that stands alone.
-/

namespace CallBook.Json

/-- Reads from the front of a text; gives what was read and the rest. -/
abbrev Reader (α : Type) := List Char → Except Fault (α × List Char)

/-- A blank between JSON tokens. -/
def isJsonBlank (c : Char) : Bool := c = ' ' || c = '\n' || c = '\t' || c = '\r'

/-- The text from its first character that is not a blank. -/
def skipBlanks (s : List Char) : List Char := s.dropWhile isJsonBlank

/-- Reads the rest of a word whose first letter has been read. -/
def word (letters : List Char) : Reader Unit := fun s =>
  match letters, s with
  | [], s => .ok ((), s)
  | _ :: _, [] => .error (.before .endInValue [])
  | l :: letters, c :: rest =>
    if l = c then word letters rest else .error (.onNext .badWord (c :: rest))

/-! ### Strings -/

/-- Four hexadecimal digits of an escape. -/
def hexQuad : Reader Nat := fun s =>
  if byteCount (s.take 4) < 4 then .error (.before .endInString [])
  else
    match s with
    | a :: b :: c :: d :: rest =>
      match Text.hexValue? a, Text.hexValue? b, Text.hexValue? c, Text.hexValue? d with
      | some a, some b, some c, some d => .ok (((a * 16 + b) * 16 + c) * 16 + d, rest)
      | _, _, _, _ => .error ⟨.badEscape, byteCount s - 4⟩
    | _ => .error ⟨.badEscape, byteCount s - 4⟩

/-- A first half of a surrogate pair. -/
def isHighHalf (n : Nat) : Bool := 0xD800 ≤ n && n ≤ 0xDBFF

/-- A second half of a surrogate pair. -/
def isLowHalf (n : Nat) : Bool := 0xDC00 ≤ n && n ≤ 0xDFFF

/-- The character of two halves of a surrogate pair. -/
def joinHalves (high low : Nat) : Char :=
  Char.ofNat (0x10000 + (high - 0xD800) * 0x400 + (low - 0xDC00))

/-- The second half of a surrogate pair, from its backslash on. -/
def secondHalf (high : Nat) : Reader Char := fun s =>
  match s with
  | [] => .error (.before .endInString [])
  | c :: rest =>
    if c ≠ '\\' then .error (.onNext .halfSurrogate s)
    else
      match rest with
      | [] => .error (.before .endInString [])
      | u :: rest =>
        if u ≠ 'u' then .error (.onNext .halfSurrogate (u :: rest))
        else
          match hexQuad rest with
          | .error fault => .error fault
          | .ok (low, rest) =>
            if isLowHalf low then .ok (joinHalves high low, rest)
            else .error (.before .loneSurrogate rest)

/-- The character of an escape, from after its backslash on. -/
def escape : Reader Char := fun s =>
  match s with
  | [] => .error (.before .endInString [])
  | c :: rest =>
    if c = '"' || c = '\\' || c = '/' then .ok (c, rest)
    else if c = 'b' then .ok ('\x08', rest)
    else if c = 'f' then .ok ('\x0c', rest)
    else if c = 'n' then .ok ('\n', rest)
    else if c = 'r' then .ok ('\r', rest)
    else if c = 't' then .ok ('\t', rest)
    else if c = 'u' then
      match hexQuad rest with
      | .error fault => .error fault
      | .ok (n, rest) =>
        if isLowHalf n then .error (.before .loneSurrogate rest)
        else if isHighHalf n then secondHalf n rest
        else .ok (Char.ofNat n, rest)
    else .error (.onNext .badEscape s)

theorem length_of_hexQuad {s rest : List Char} {n : Nat} (h : hexQuad s = .ok (n, rest)) :
    rest.length < s.length := by
  unfold hexQuad at h
  split at h
  · simp at h
  · split at h
    · split at h
      · simp only [Except.ok.injEq, Prod.mk.injEq] at h
        simp [← h.2]
        omega
      · simp at h
    · simp at h

theorem length_of_secondHalf {s rest : List Char} {high : Nat} {c : Char}
    (h : secondHalf high s = .ok (c, rest)) : rest.length < s.length := by
  unfold secondHalf at h
  split at h
  · simp at h
  · split at h
    · simp at h
    · split at h
      · simp at h
      · split at h
        · simp at h
        · split at h
          · simp at h
          · rename_i hq
            have := length_of_hexQuad hq
            split at h
            · simp only [Except.ok.injEq, Prod.mk.injEq] at h
              simp [← h.2]
              omega
            · simp at h

theorem length_of_escape {s rest : List Char} {c : Char} (h : escape s = .ok (c, rest)) :
    rest.length < s.length := by
  unfold escape at h
  split at h
  · simp at h
  · rename_i d tail
    repeat' split at h
    all_goals first
      | (simp only [Except.ok.injEq, Prod.mk.injEq] at h; simp [← h.2]; done)
      | (simp at h; done)
      | skip
    · rename_i hq _ _
      have := length_of_hexQuad hq
      have := length_of_secondHalf h
      simp only [List.length_cons]
      omega
    · rename_i hq _ _
      have := length_of_hexQuad hq
      simp only [Except.ok.injEq, Prod.mk.injEq] at h
      rw [← h.2]
      simp only [List.length_cons]
      omega

/-- The characters of a string from after its opening quote on. -/
def stringChars (s : List Char) : Except Fault (List Char × List Char) :=
  match s with
  | [] => .error (.before .endInString [])
  | c :: rest =>
    if c = '"' then .ok ([], rest)
    else if c = '\\' then
      match _h : escape rest with
      | .error fault => .error fault
      | .ok (d, rest) =>
        match stringChars rest with
        | .error fault => .error fault
        | .ok (more, rest) => .ok (d :: more, rest)
    else if c.toNat < 32 then .error (.before .controlInString rest)
    else
      match stringChars rest with
      | .error fault => .error fault
      | .ok (more, rest) => .ok (c :: more, rest)
  termination_by s.length
  decreasing_by
    · have := length_of_escape _h
      simp only [List.length_cons]
      omega
    · simp

/-- A string from after its opening quote on. -/
def stringBody : Reader String := fun s =>
  match stringChars s with
  | .error fault => .error fault
  | .ok (cs, rest) => .ok (String.ofList cs, rest)

/-! ### Numbers -/

/-- Reads digits onto a significand while it fits 64 bits. -/
def significand : Nat → List Char → Nat × List Char
  | n, [] => (n, [])
  | n, c :: rest =>
    if Text.isDigit c then
      let n' := 10 * n + (c.toNat - 48)
      if n' < Nat.pow 2 64 then significand n' rest else (n, c :: rest)
    else (n, c :: rest)

/-- The double of a significand and a decimal exponent. -/
def double (negative : Bool) (n : Nat) (exponent : Int) : Reader Number := fun rest =>
  match Binary64.ofDecimal negative n exponent with
  | some x => .ok (.double x, rest)
  | none => .error (.before .numberRange rest)

/-- The greatest exponent that is read. -/
def maxReadExponent : Nat := Nat.pow 2 31 - 1

/-- Reads the digits of an exponent; an exponent that is too large gives zero or no number. -/
def exponentDigits (negative : Bool) (n : Nat) (start : Int) (raise : Bool) :
    Nat → List Char → Except Fault (Number × List Char)
  | e, [] => double negative n (if raise then start + e else start - e) []
  | e, c :: rest =>
    if Text.isDigit c then
      let e' := 10 * e + (c.toNat - 48)
      if e' ≤ maxReadExponent then exponentDigits negative n start raise e' rest
      else if n ≠ 0 && raise then .error (.before .numberRange rest)
      else .ok (.double (.zero negative), rest.dropWhile Text.isDigit)
    else double negative n (if raise then start + e else start - e) (c :: rest)

/-- An exponent, from after its letter on. -/
def exponentPart (negative : Bool) (n : Nat) (start : Int) : Reader Number := fun s =>
  let (raise, s) :=
    match s with
    | c :: rest => if c = '+' then (true, rest) else if c = '-' then (false, rest) else (true, s)
    | [] => (true, s)
  match s with
  | [] => .error (.before .endInValue [])
  | c :: rest =>
    if Text.isDigit c then exponentDigits negative n start raise (c.toNat - 48) rest
    else .error (.onNext .badNumber s)

/-- An exponent if there is one, else the end of the number. -/
def optionalExponent (negative : Bool) (n : Nat) (start : Int) : Reader Number := fun s =>
  match s with
  | c :: rest =>
    if c = 'e' || c = 'E' then exponentPart negative n start rest else double negative n start s
  | [] => double negative n start s

/-- The digits after a point. -/
def fraction (negative : Bool) (n : Nat) (start : Int) : Reader Number := fun s =>
  match s with
  | [] => .error (.before .endInValue [])
  | c :: _ =>
    if Text.isDigit c then
      let (n', rest) := significand n s
      let read := s.length - rest.length
      optionalExponent negative n' (start - read) (rest.dropWhile Text.isDigit)
    else .error (.onNext .badNumber s)

/-- An integer that ends here: kept as one if it fits 64 bits. -/
def wholeNumber (negative : Bool) (n : Nat) : Reader Number := fun rest =>
  if !negative then .ok (.integer n, rest)
  else if n = 0 || Nat.pow 2 63 < n then double negative n 0 rest
  else .ok (.integer (-n), rest)

/-- What follows the digits before the point, of which `dropped` did not fit the significand. -/
def afterWhole (negative : Bool) (n dropped : Nat) : Reader Number := fun s =>
  match s with
  | c :: rest =>
    if c = '.' then fraction negative n dropped rest
    else if c = 'e' || c = 'E' then exponentPart negative n dropped rest
    else if dropped = 0 then wholeNumber negative n s
    else double negative n dropped s
  | [] => if dropped = 0 then wholeNumber negative n s else double negative n dropped s

/-- A number, from after its sign on. -/
def numberBody (negative : Bool) : Reader Number := fun s =>
  match s with
  | [] => .error (.before .endInValue [])
  | c :: rest =>
    if c = '0' then
      match rest with
      | d :: _ =>
        if Text.isDigit d then .error (.onNext .badNumber rest) else afterWhole negative 0 0 rest
      | [] => afterWhole negative 0 0 rest
    else if Text.isDigit c then
      let (n, rest) := significand 0 s
      let after := rest.dropWhile Text.isDigit
      afterWhole negative n (rest.length - after.length) after
    else .error (.onNext .badNumber s)

end CallBook.Json
